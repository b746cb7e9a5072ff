import Dialect.Sorted.Map
import Dialect.Toml.Scalar

/-!
TOML documents.

A document is read line by line into a tree of tables. Each table remembers how it came about, since
a table may be opened by a header once, and dotted keys may go on only in tables that no header
opened.
-/

namespace Dialect.Toml

/-- The character can stand in a key without quotes. -/
def isKeyChar (c : Char) : Bool := c.isAlphanum || c = '_' || c = '-'

/-- One part of a key. -/
def keyPart : List Char → Read String
  | '"' :: rest => (basic (rest.length + 1) rest).map fun (cs, rest) => (String.ofList cs, rest)
  | '\'' :: rest => (literal rest).map fun (cs, rest) => (String.ofList cs, rest)
  | cs =>
    let part := cs.takeWhile isKeyChar
    if part.isEmpty then none else some (String.ofList part, cs.drop part.length)

/-- The largest number of parts in a key, and of lists and tables inside one another in a value. -/
def maxDepth : Nat := 80

/-- A key: parts with dots between them, as many as `room` at most. -/
def parts : (room : Nat) → List Char → Read (List String)
  | 0, _ => none
  | room + 1, cs =>
    match keyPart (skipBlanks cs) with
    | none => none
    | some (part, rest) =>
      match skipBlanks rest with
      | '.' :: rest => (parts room rest).map fun (more, rest) => (part :: more, rest)
      | rest => some ([part], rest)

/-- A key. -/
def key (cs : List Char) : Read (List String) := parts maxDepth cs

/-- How a table came about. -/
inductive Origin where
  /-- On the way to a table that a header opened. -/
  | implied
  | header
  | dotted
  deriving DecidableEq, Repr

/-- A node of the tree of tables. -/
inductive Node where
  | value (v : Value)
  | table (origin : Origin) (entries : List (String × Node))
  /-- The tables of one name, the latest last. -/
  | tables (earlier : List (List (String × Node))) (latest : List (String × Node))

/-- The entries of a table. -/
abbrev Entries := List (String × Node)

/-- The entries with a node under a key, in its place or at the end. -/
def Entries.put (name : String) (node : Node) : Entries → Entries
  | [] => [(name, node)]
  | (k, n) :: rest => if k = name then (k, node) :: rest else (k, n) :: Entries.put name node rest

/-- Changes the table at a path of names, which are opened on the way as far as they are missing;
inside repeated tables the latest is meant. -/
def descend (change : Entries → Option Entries) : List String → Entries → Option Entries
  | [], entries => change entries
  | name :: path, entries =>
    match entries.lookup name with
    | none => (descend change path []).map fun inner => entries.put name (.table .implied inner)
    | some (.table origin inner) =>
      (descend change path inner).map fun inner => entries.put name (.table origin inner)
    | some (.tables earlier latest) =>
      (descend change path latest).map fun latest => entries.put name (.tables earlier latest)
    | some (.value _) => none

/-- Opens a table by a header. -/
def openTable (name : String) (entries : Entries) : Option Entries :=
  match entries.lookup name with
  | none => some (entries.put name (.table .header []))
  | some (.table .implied inner) => some (entries.put name (.table .header inner))
  | _ => none

/-- Opens one more of repeated tables by a header. -/
def openRepeated (name : String) (entries : Entries) : Option Entries :=
  match entries.lookup name with
  | none => some (entries.put name (.tables [] []))
  | some (.tables earlier latest) => some (entries.put name (.tables (earlier ++ [latest]) []))
  | _ => none

/-- Sets a dotted key in a table. The key may lead into tables that no header opened, and no header
opens them after that. It may lead through the latest of repeated tables, but not end there. -/
def assign (v : Value) : List String → Entries → Option Entries
  | [], _ => none
  | [name], entries =>
    match entries.lookup name with
    | none => some (entries.put name (.value v))
    | some _ => none
  | name :: path, entries =>
    match entries.lookup name with
    | none => (assign v path []).map fun inner => entries.put name (.table .dotted inner)
    | some (.table .header _) => none
    | some (.table _ inner) =>
      (assign v path inner).map fun inner => entries.put name (.table .dotted inner)
    | some (.tables earlier latest) =>
      if path.length < 2 then none
      else (assign v path latest).map fun latest => entries.put name (.tables earlier latest)
    | some (.value _) => none

mutual

/-- The value of a node. -/
def Node.toValue : Node → Value
  | .value v => v
  | .table _ entries => .object (SortedMap.ofList (valuesOf entries)).toList
  | .tables earlier latest =>
    .list (tablesOf earlier ++ [.object (SortedMap.ofList (valuesOf latest)).toList])

/-- The values of entries. -/
def valuesOf : List (String × Node) → List (String × Value)
  | [] => []
  | (k, n) :: rest => (k, n.toValue) :: valuesOf rest

/-- The values of tables. -/
def tablesOf : List (List (String × Node)) → List Value
  | [] => []
  | entries :: rest => .object (SortedMap.ofList (valuesOf entries)).toList :: tablesOf rest

end

/-- Passes over blanks, line ends and comments; `comment` tells that the text starts inside one. -/
def fillerFrom : (comment : Bool) → List Char → Option (List Char)
  | _, [] => some []
  | _, '\n' :: rest => fillerFrom false rest
  | _, '\r' :: '\n' :: rest => fillerFrom false rest
  | true, c :: rest => if isControl c then none else fillerFrom true rest
  | false, c :: rest =>
    if isBlank c then fillerFrom false rest
    else if c = '#' then fillerFrom true rest
    else some (c :: rest)

/-- Passes over blanks, line ends and comments; none if a comment holds a control character. -/
def filler (cs : List Char) : Option (List Char) := fillerFrom false cs

mutual

/-- A value; `room` is how many lists and tables may still be inside one another. -/
def value : (fuel : Nat) → (room : Nat) → List Char → Read Value
  | 0, _, _ => none
  | _ + 1, 0, '[' :: _ => none
  | _ + 1, 0, '\x7b' :: _ => none
  | fuel + 1, room + 1, '[' :: rest => elements fuel room rest
  | fuel + 1, room + 1, '\x7b' :: rest => members fuel room [] rest
  | _ + 1, _, cs =>
    match string cs with
    | some (text, rest) => some (.text (String.ofList text), rest)
    | none =>
      let (w, rest) := word cs
      (scalarOf w).map fun v => (v, rest)

/-- The elements of a list after its bracket or a comma. -/
def elements : (fuel : Nat) → (room : Nat) → List Char → Read Value
  | 0, _, _ => none
  | fuel + 1, room, cs =>
    match filler cs with
    | none => none
    | some (']' :: after) => some (.list [], after)
    | some rest =>
      match value fuel room rest with
      | none => none
      | some (v, rest) =>
        match filler rest with
        | some (',' :: rest) =>
          match elements fuel room rest with
          | some (.list vs, after) => some (.list (v :: vs), after)
          | _ => none
        | some (']' :: after) => some (.list [v], after)
        | _ => none

/-- The members of a table in braces after its brace or a comma, and after those read already. -/
def members : (fuel : Nat) → (room : Nat) → Entries → List Char → Read Value
  | 0, _, _, _ => none
  | fuel + 1, room, entries, cs =>
    match filler cs with
    | none => none
    | some ('\x7d' :: after) => some ((Node.table .dotted entries).toValue, after)
    | some rest =>
      match key rest with
      | none => none
      | some (path, rest) =>
        match filler rest with
        | some ('=' :: rest) =>
          match (filler rest).bind (value fuel room) with
          | none => none
          | some (v, rest) =>
            match assign v path entries, filler rest with
            | some entries, some (',' :: rest) => members fuel room entries rest
            | some entries, some ('\x7d' :: after) =>
              some ((Node.table .dotted entries).toValue, after)
            | _, _ => none
        | _ => none

end

/-- What follows the end of a line, after blanks and an optional comment. -/
def lineEnd? (cs : List Char) : Option (List Char) :=
  let rest := skipBlanks cs
  let rest :=
    match rest with
    | '#' :: comment => afterComment? comment
    | rest => some rest
  match rest with
  | some [] => some []
  | some rest => afterNewline? rest
  | none => none

/-- The lines of a document, read into the tables made so far. `current` is the path of the table
that keys go to. -/
def lines : (fuel : Nat) → (current : List String) → Entries → List Char → Option Entries
  | 0, _, _, _ => none
  | fuel + 1, current, entries, cs =>
    match skipBlanks cs with
    | [] => some entries
    | '[' :: '[' :: rest =>
      match key rest with
      | some (path, ']' :: ']' :: rest) =>
        match descend (openRepeated (path.getLastD "")) path.dropLast entries, lineEnd? rest with
        | some entries, some rest => lines fuel path entries rest
        | _, _ => none
      | _ => none
    | '[' :: rest =>
      match key rest with
      | some (path, ']' :: rest) =>
        match descend (openTable (path.getLastD "")) path.dropLast entries, lineEnd? rest with
        | some entries, some rest => lines fuel path entries rest
        | _, _ => none
      | _ => none
    | c :: rest =>
      if c = '#' ∨ c = '\n' ∨ c = '\r' then
        match lineEnd? (c :: rest) with
        | some rest => lines fuel current entries rest
        | none => none
      else
        match key (c :: rest) with
        | some (path, '=' :: rest) =>
          match value (2 * rest.length + 2) maxDepth (skipBlanks rest) with
          | none => none
          | some (v, rest) =>
            match descend (assign v path) current entries, lineEnd? rest with
            | some entries, some rest => lines fuel current entries rest
            | _, _ => none
        | _ => none

/-- Reads a document as an object. -/
def read? (text : String) : Option Value :=
  let cs :=
    match text.toList with
    | '\uFEFF' :: rest => rest
    | cs => cs
  (lines (cs.length + 1) [] [] cs).map fun entries => (Node.table .header entries).toValue

end Dialect.Toml
