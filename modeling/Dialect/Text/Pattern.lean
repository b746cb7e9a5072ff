import Dialect.Text.Alphabetic
import Dialect.Text.Blank
import Dialect.Text.Category
import Dialect.Text.Quoted

/-!
Regular expressions, as far as to tell which texts are patterns.

A pattern is run as a finite automaton over valid UTF-8. So besides what is badly written, a pattern
may hold nothing that such an automaton cannot decide: no back references, no looking around, no
word boundaries between letters of all scripts, and no bytes beyond ASCII.

A pattern also may not be too high. Its height is the number of constructs inside one another:
groups, repetitions, sets in brackets, and several alternatives, items or sets beside one another.

Counts in braces are not read: they are no patterns here.
-/

namespace Dialect.Text

namespace Pattern

/-- What the flags in force at a place decide. -/
structure Flags where
  /-- Classes are those of Unicode, not of bytes. -/
  unicode : Bool := true
  /-- Blanks and comments are passed over. -/
  spaced : Bool := false
  deriving DecidableEq, Repr

/-- The text behind blanks and comments; `comment` tells that it starts inside one. -/
def afterBlanks : (comment : Bool) → List Char → List Char
  | _, [] => []
  | true, c :: rest => afterBlanks (c != '\n') rest
  | false, c :: rest =>
    if isBlank c then afterBlanks false rest
    else if c = '#' then afterBlanks true rest
    else c :: rest

/-- The text from the next character that counts. -/
def Flags.skip (flags : Flags) (cs : List Char) : List Char :=
  if flags.spaced then afterBlanks false cs else cs

/-- The next character that counts, seen from inside a range. Of a comment only the mark is passed
over. -/
def Flags.peek (flags : Flags) (cs : List Char) : Option Char :=
  if flags.spaced then
    match cs.dropWhile isBlank with
    | '#' :: rest => (rest.dropWhile isBlank).head?
    | rest => rest.head?
  else cs.head?

/-! ### Heights -/

/-- The height that a pattern may have. -/
def maxHeight : Nat := 250

/-- The height of one construct around parts with the given heights. -/
def around (parts : List Nat) : Nat := parts.foldl max 0 + 1

/-- The height of parts beside one another; several make one construct around them. -/
def beside : List Nat → Nat
  | [] => 0
  | [height] => height
  | parts => around parts

/-! ### Escapes -/

/-- What an escape stands for. -/
inductive Atom where
  | literal (c : Char)
  /-- A set of characters. -/
  | set
  /-- A place between characters. -/
  | place
  deriving DecidableEq, Repr

/-- The value of so many hexadecimal digits, after those read already. -/
def hex (flags : Flags) : (count : Nat) → (n : Nat) → List Char → Option (Nat × List Char)
  | 0, n, cs => some (n, cs)
  | count + 1, n, cs =>
    match flags.skip cs with
    | c :: rest => (Quoted.hexValue? c).bind fun d => hex flags count (n * 16 + d) rest
    | [] => none

/-- The character that so many hexadecimal digits stand for. -/
def hexChar (flags : Flags) (count : Nat) (cs : List Char) : Option (Char × List Char) :=
  match hex flags count 0 cs with
  | some (n, rest) => if h : n.isValidChar then some (Char.ofNatAux n h, rest) else none
  | none => none

/-- The letters that name general categories. -/
def categories : List Char := ['c', 'l', 'm', 'n', 'p', 's', 'z']

/-- The control characters with an escape of one letter. -/
def controls : List (Char × Char) :=
  [('a', '\x07'), ('t', '\t'), ('n', '\n'), ('v', '\x0b'), ('f', '\x0c'), ('r', '\r')]

/-- The character stands for itself after a backslash: it is in ASCII, is no letter or digit, and
marks no end of a word. -/
def isEscapable (c : Char) : Bool := c.toNat < 128 && !c.isAlphanum && c != '<' && c != '>'

/-- What stands behind a backslash. -/
def escape (flags : Flags) : List Char → Option (Atom × List Char)
  | [] => none
  | c :: rest =>
    if isEscapable c then some (.literal c, rest)
    else if c = 'x' then
      (hexChar flags 2 rest).bind fun (c, rest) =>
        if flags.unicode || c.toNat < 128 then some (.literal c, rest) else none
    else if c = 'u' then (hexChar flags 4 rest).map fun (c, rest) => (.literal c, rest)
    else if c = 'U' then (hexChar flags 8 rest).map fun (c, rest) => (.literal c, rest)
    else if c = 'p' || c = 'P' then
      match flags.skip rest with
      | d :: rest =>
        if flags.unicode && categories.contains d.toLower then some (.set, rest) else none
      | [] => none
    else if c = 'd' || c = 's' || c = 'w' then some (.set, rest)
    else if c = 'D' || c = 'S' || c = 'W' then
      if flags.unicode then some (.set, rest) else none
    else if c = 'A' || c = 'z' then some (.place, rest)
    else if c = 'b' || c = 'B' || c = '<' || c = '>' then
      if flags.unicode then none else some (.place, rest)
    else (controls.lookup c).map fun d => (.literal d, rest)

/-! ### Sets in brackets -/

/-- The names of sets between colons. -/
def setNames : List String :=
  ["alnum", "alpha", "ascii", "blank", "cntrl", "digit", "graph", "lower", "print", "punct",
    "space", "upper", "word", "xdigit"]

/-- A named set after its opening bracket: whether it is the complement, and what follows. -/
def namedSet? : List Char → Option (Bool × List Char)
  | ':' :: rest =>
    let negated := rest.head? == some '^'
    let rest := if negated then rest.drop 1 else rest
    let name := rest.takeWhile (· != ':')
    match rest.drop name.length with
    | ':' :: ']' :: after =>
      if setNames.contains (String.ofList name) then some (negated, after) else none
    | _ => none
  | _ => none

/-- A set of characters may hold the literal: a set of bytes holds none beyond ASCII. -/
def Flags.admits (flags : Flags) (c : Char) : Bool := flags.unicode || c.toNat < 128

/-- A literal of a set, or nothing for a set inside it, with what follows. -/
def setItem (flags : Flags) : List Char → Option (Option Char × List Char)
  | [] => none
  | '\\' :: rest =>
    match escape flags rest with
    | some (.literal c, rest) => if flags.admits c then some (some c, rest) else none
    | some (.set, rest) => some (none, rest)
    | _ => none
  | c :: rest => if flags.admits c then some (some c, rest) else none

/-- What follows a literal, a range or an inner set. A hyphen makes a range unless a bracket or
another hyphen comes next. -/
def afterRange? (flags : Flags) (cs : List Char) : Option (List Char) := do
  let (first, rest) ← setItem flags cs
  match flags.skip rest with
  | '-' :: more =>
    if flags.peek more = some ']' ∨ flags.peek more = some '-' then some ('-' :: more)
    else
      let (last, rest) ← setItem flags (flags.skip more)
      match first, last with
      | some a, some b => if a ≤ b then some rest else none
      | _, _ => none
  | rest => some rest

/-- A set whose bracket is open: the height of all that stands before its latest operator, and the
heights of the items behind it. -/
structure OpenSet where
  left : Option Nat := none
  items : List Nat := []
  deriving Repr

/-- The set with one more item. -/
def OpenSet.add (set : OpenSet) (height : Nat) : OpenSet :=
  { set with items := height :: set.items }

/-- The height of what has been read inside the bracket. -/
def OpenSet.height (set : OpenSet) : Nat :=
  match set.left with
  | none => beside set.items
  | some left => around [left, beside set.items]

/-- The set after an operator. Operators group to the left. -/
def OpenSet.operator (set : OpenSet) : OpenSet := { left := set.height }

/-- The hyphens at the start of a set, or else a bracket there: they are literals. -/
def afterFirst : (fuel : Nat) → (flags : Flags) → OpenSet → List Char → OpenSet × List Char
  | fuel + 1, flags, set, '-' :: rest => afterFirst fuel flags (set.add 0) (flags.skip rest)
  | _, flags, set, ']' :: rest =>
    if set.items.isEmpty then (set.add 0, flags.skip rest) else (set, ']' :: rest)
  | _, _, set, rest => (set, rest)

/-- A set whose bracket has been read with the mark and the literals at its start. The complement
of a set of bytes is no set of characters. -/
def openSet? (flags : Flags) (cs : List Char) : Option (OpenSet × List Char) :=
  match flags.skip cs with
  | '^' :: rest =>
    if flags.unicode then some (afterFirst (rest.length + 1) flags {} (flags.skip rest)) else none
  | rest => some (afterFirst (rest.length + 1) flags {} rest)

/-- The height of a set that is open inside the sets `outer`, and what follows the outermost. -/
def set? (flags : Flags) : (fuel : Nat) → (outer : List OpenSet) → OpenSet → List Char →
    Option (Nat × List Char)
  | 0, _, _, _ => none
  | fuel + 1, outer, set, cs =>
    match flags.skip cs with
    | '[' :: rest =>
      match namedSet? rest with
      | some (negated, after) =>
        if negated && !flags.unicode then none else set? flags fuel outer (set.add 0) after
      | none =>
        match openSet? flags rest with
        | some (inner, rest) => set? flags fuel (set :: outer) inner rest
        | none => none
    | ']' :: rest =>
      match outer with
      | [] => some (around [set.height], rest)
      | next :: outer => set? flags fuel outer (next.add (around [set.height])) rest
    | '&' :: '&' :: rest => set? flags fuel outer set.operator rest
    | '-' :: '-' :: rest => set? flags fuel outer set.operator rest
    | '~' :: '~' :: rest => set? flags fuel outer set.operator rest
    | rest => (afterRange? flags rest).bind (set? flags fuel outer (set.add 0))

/-! ### Groups -/

/-- The flags written in a group up to its colon or closing bracket, with that mark and what
follows. Each flag stands once, and a hyphen turns off those behind it, at least one. -/
def flagsOf? (flags : Flags) : (seen : List Char) → List Char → Option (Flags × Char × List Char)
  | _, [] => none
  | seen, c :: rest =>
    let on := !seen.contains '-'
    if c = ':' || c = ')' then
      if seen.head? = some '-' then none else some (flags, c, rest)
    else if seen.contains c then none
    else if c = 'u' then flagsOf? { flags with unicode := on } (c :: seen) rest
    else if c = 'x' then flagsOf? { flags with spaced := on } (c :: seen) rest
    else if c = '-' || ['i', 'm', 's', 'U', 'R'].contains c then flagsOf? flags (c :: seen) rest
    else none

/-- A name that a group can have. -/
def isGroupName : List Char → Bool
  | [] => false
  | c :: rest =>
    (c = '_' || isAlphabetic c) && rest.all fun c =>
      c = '_' || c = '.' || c = '[' || c = ']' || isAlphabetic c || isNumeric c

/-- What an opening parenthesis begins: a group, or flags for the rest of the group around it. -/
structure Opening where
  isGroup : Bool
  flags : Flags
  names : List (List Char)
  rest : List Char
  deriving Repr

/-- A group that takes a name not taken yet. -/
def namedGroup? (flags : Flags) (names : List (List Char)) (cs : List Char) : Option Opening :=
  let name := cs.takeWhile (· != '>')
  match cs.drop name.length with
  | _ :: rest =>
    if isGroupName name && !names.contains name then some ⟨true, flags, name :: names, rest⟩
    else none
  | [] => none

/-- What stands behind an opening parenthesis. -/
def opening? (flags : Flags) (names : List (List Char)) (cs : List Char) : Option Opening :=
  match flags.skip cs with
  | '?' :: 'P' :: '<' :: rest => namedGroup? flags names rest
  | '?' :: '<' :: rest => namedGroup? flags names rest
  | '?' :: ')' :: _ => none
  | '?' :: rest =>
    (flagsOf? flags [] rest).map fun (inner, mark, rest) => ⟨mark = ':', inner, names, rest⟩
  | rest => some ⟨true, flags, names, rest⟩

/-! ### Patterns -/

/-- A group that is open, or the whole pattern: the flags in force, the heights of the alternatives
before the latest, and those of its items, last first. Flags are an item without a height. -/
structure OpenGroup where
  flags : Flags := {}
  alternatives : List Nat := []
  items : List (Option Nat) := []
  deriving Repr

namespace OpenGroup

/-- The group with one more item. -/
def add (group : OpenGroup) (height : Nat) : OpenGroup :=
  { group with items := some height :: group.items }

/-- The group after flags for the rest of it. -/
def setFlags (group : OpenGroup) (flags : Flags) : OpenGroup :=
  { group with flags, items := none :: group.items }

/-- The height of the latest alternative. -/
def latest (group : OpenGroup) : Nat := beside (group.items.map fun item => item.getD 0)

/-- The group after a bar. -/
def bar (group : OpenGroup) : OpenGroup :=
  { group with alternatives := group.latest :: group.alternatives, items := [] }

/-- The group with its last item repeated. Nothing is there to repeat at the start of an
alternative and behind flags. -/
def repeated? (group : OpenGroup) : Option OpenGroup :=
  match group.items with
  | some height :: items => some { group with items := some (around [height]) :: items }
  | _ => none

/-- The height of what has been read of the group. -/
def height (group : OpenGroup) : Nat := beside (group.latest :: group.alternatives)

end OpenGroup

/-- The height of a pattern whose rest is given. The group that is open stands inside the groups
`outer`. -/
def height? : (fuel : Nat) → (outer : List OpenGroup) → OpenGroup → (names : List (List Char)) →
    List Char → Option Nat
  | 0, _, _, _, _ => none
  | fuel + 1, outer, group, names, cs =>
    match group.flags.skip cs with
    | [] => if outer.isEmpty then some group.height else none
    | '(' :: rest =>
      match opening? group.flags names rest with
      | none => none
      | some o =>
        if o.isGroup then height? fuel (group :: outer) { flags := o.flags } o.names o.rest
        else height? fuel outer (group.setFlags o.flags) o.names o.rest
    | ')' :: rest =>
      match outer with
      | [] => none
      | next :: outer => height? fuel outer (next.add (around [group.height])) names rest
    | '|' :: rest => height? fuel outer group.bar names rest
    | '[' :: rest =>
      match openSet? group.flags rest with
      | none => none
      | some (set, rest) =>
        match set? group.flags (rest.length + 1) [] set rest with
        | none => none
        | some (height, rest) => height? fuel outer (group.add height) names rest
    | '\\' :: rest =>
      match escape group.flags rest with
      | none => none
      | some (_, rest) => height? fuel outer (group.add 0) names rest
    | c :: rest =>
      if c = '?' || c = '*' || c = '+' then
        let rest := if rest.head? = some '?' then rest.drop 1 else rest
        match group.repeated? with
        | none => none
        | some group => height? fuel outer group names rest
      else if c = '\x7b' then none
      else if c = '.' && !group.flags.unicode then none
      else height? fuel outer (group.add 0) names rest

end Pattern

/-- The text is a pattern that is not too high. -/
def isPattern (cs : List Char) : Bool :=
  match Pattern.height? (cs.length + 1) [] {} [] cs with
  | some height => height ≤ Pattern.maxHeight
  | none => false

end Dialect.Text
