import Dialect.Text.Quoted
import Dialect.Word

/-!
The tokens of the grammar notation.

Blanks and comments stand between tokens: `//` to the end of the line, unless a third slash or an
exclamation mark makes it documentation, and `/* … */`, which nests.

The part of the notation that keeps matches on a stack is left out: `PUSH(…)` and the slices of
`PEEK[…]` have no tokens here, and `PEEK`, `POP`, `DROP`, `PEEK_ALL` and `POP_ALL` are no rules that
could be called (`Grammar.isBuiltin`). A grammar that uses one of them is refused like an invalid
one, so what is said of all grammars that compose is said of those without a stack.
-/

namespace Dialect.Grammar

/-- A token of the grammar notation. -/
inductive Token where
  | name (text : String)
  | number (n : Nat)
  | string (text : List Char)
  /-- A string after a caret. -/
  | caseless (text : List Char)
  | char (c : Char)
  /-- A tag in front of a term. -/
  | tag (text : String)
  | mark (c : Char)
  /-- Two dots, between the ends of a range. -/
  | dots
  /-- Documentation of a rule. -/
  | ruleDoc
  /-- Documentation of the whole grammar. -/
  | grammarDoc
  deriving DecidableEq, Repr

namespace Token

/-- The character can start a name. -/
def isNameStart (c : Char) : Bool := c = '_' || c.isAlpha

/-- The character can go on in a name. -/
def isNamePart (c : Char) : Bool := c = '_' || c.isAlphanum

/-- The text from the end of the line on. -/
def lineEnd : List Char → List Char
  | [] => []
  | '\n' :: rest => '\n' :: rest
  | '\r' :: '\n' :: rest => '\r' :: '\n' :: rest
  | _ :: rest => lineEnd rest

/-- What follows a block comment whose opening has been read. A comment inside is passed over as a
whole if it is closed. -/
def afterBlock : (fuel : Nat) → List Char → Option (List Char)
  | 0, _ => none
  | _ + 1, [] => none
  | _ + 1, '*' :: '/' :: rest => some rest
  | fuel + 1, '/' :: '*' :: rest =>
    match afterBlock fuel rest with
    | some after => afterBlock fuel after
    | none => afterBlock fuel ('*' :: rest)
  | fuel + 1, _ :: rest => afterBlock fuel rest

/-- The number of hexadecimal digits, if they all are. -/
def hexNumber? (digits : List Char) : Option Nat :=
  digits.foldlM (fun n c => (Text.Quoted.hexValue? c).map (n * 16 + ·)) 0

/-- The character with a number, if there is one. -/
def charOf? (n : Nat) : Option Char :=
  if h : n.isValidChar then some (Char.ofNatAux n h) else none

/-- The digits up to a closing brace. -/
def braced : List Char → Option (List Char × List Char)
  | [] => none
  | '\x7d' :: rest => some ([], rest)
  | c :: rest => (braced rest).map fun (ds, after) => (c :: ds, after)

/-- The character of an escape whose backslash has been read. -/
def escape : List Char → Option (Char × List Char)
  | '"' :: rest => some ('"', rest)
  | '\\' :: rest => some ('\\', rest)
  | 'r' :: rest => some ('\r', rest)
  | 'n' :: rest => some ('\n', rest)
  | 't' :: rest => some ('\t', rest)
  | '0' :: rest => some ('\x00', rest)
  | '\'' :: rest => some ('\'', rest)
  | 'x' :: a :: b :: rest => do
    let n ← hexNumber? [a, b]
    let c ← charOf? n
    pure (c, rest)
  | 'u' :: '\x7b' :: rest => do
    let (digits, after) ← braced rest
    if digits.length < 2 || 6 < digits.length then none
    else
      let n ← hexNumber? digits
      let c ← charOf? n
      pure (c, after)
  | _ => none

/-- The text of a string whose opening quote has been read. -/
def string? : (fuel : Nat) → List Char → Option (List Char × List Char)
  | 0, _ => none
  | _ + 1, [] => none
  | _ + 1, '"' :: rest => some ([], rest)
  | fuel + 1, '\\' :: rest => do
    let (c, rest) ← escape rest
    let (text, after) ← string? fuel rest
    pure (c :: text, after)
  | fuel + 1, c :: rest => do
    let (text, after) ← string? fuel rest
    pure (c :: text, after)

/-- The text with its escapes read. -/
def unescaped? : (fuel : Nat) → List Char → Option (List Char)
  | 0, _ => none
  | _ + 1, [] => some []
  | fuel + 1, '\\' :: rest => do
    let (c, rest) ← escape rest
    let text ← unescaped? fuel rest
    pure (c :: text)
  | fuel + 1, c :: rest => do
    let text ← unescaped? fuel rest
    pure (c :: text)

/-- The character between single quotes whose first has been read. A quote or a backslash takes an
escape. -/
def char? : List Char → Option (Char × List Char)
  | '\\' :: rest =>
    match escape rest with
    | some (c, '\'' :: after) => some (c, after)
    | _ => none
  | c :: '\'' :: after => if c = '\'' then none else some (c, after)
  | _ => none

/-- What follows the blanks and comments at the start of a text. -/
def afterBlanks : (fuel : Nat) → List Char → List Char
  | fuel + 1, ' ' :: rest => afterBlanks fuel rest
  | fuel + 1, '\t' :: rest => afterBlanks fuel rest
  | fuel + 1, '\n' :: rest => afterBlanks fuel rest
  | fuel + 1, '\r' :: '\n' :: rest => afterBlanks fuel rest
  | _, '/' :: '/' :: '/' :: rest => '/' :: '/' :: '/' :: rest
  | _, '/' :: '/' :: '!' :: rest => '/' :: '/' :: '!' :: rest
  | fuel + 1, '/' :: '/' :: rest => afterBlanks fuel (lineEnd rest)
  | fuel + 1, '/' :: '*' :: rest =>
    match afterBlock (rest.length + 1) rest with
    | some after => afterBlanks fuel after
    | none => '/' :: '*' :: rest
  | _, rest => rest

/-- The string after a caret that has been read. The two characters before the text, normally the
caret and the quote, are not part of it: what stands between caret and quote moves the quote, and
all but the first character of that, into the text. -/
def caseless? (cs : List Char) : Option (List Char × List Char) :=
  match afterBlanks (cs.length + 1) cs with
  | '"' :: rest => do
    let (text, after) ← string? (rest.length + 1) rest
    let gap := cs.take (cs.length - rest.length)
    let moved ← unescaped? (gap.length + 1) gap
    pure (moved.drop 1 ++ text, after)
  | _ => none

/-- The marks of the notation. -/
def marks : List Char :=
  ['=', '\x7b', '\x7d', '(', ')', '~', '|', '&', '!', '?', '*', '+', ',', '@', '$']

/-- The largest count of a repetition. -/
def maxCount : Nat := Word.count32 - 1

/-- The tokens of a text; each step takes one of `fuel`. A word that begins with `PUSH` is no name;
as the word for putting a match on a stack it is left out. -/
def scan : (fuel : Nat) → List Char → Option (List Token)
  | 0, _ => none
  | _ + 1, [] => some []
  | fuel + 1, ' ' :: rest => scan fuel rest
  | fuel + 1, '\t' :: rest => scan fuel rest
  | fuel + 1, '\n' :: rest => scan fuel rest
  | fuel + 1, '\r' :: '\n' :: rest => scan fuel rest
  | fuel + 1, '/' :: '/' :: '/' :: rest => (scan fuel (lineEnd rest)).map (.ruleDoc :: ·)
  | fuel + 1, '/' :: '/' :: '!' :: rest => (scan fuel (lineEnd rest)).map (.grammarDoc :: ·)
  | fuel + 1, '/' :: '/' :: rest => scan fuel (lineEnd rest)
  | fuel + 1, '/' :: '*' :: rest =>
    match afterBlock (rest.length + 1) rest with
    | some after => scan fuel after
    | none => none
  | fuel + 1, '"' :: rest =>
    match string? (rest.length + 1) rest with
    | some (text, after) => (scan fuel after).map (.string text :: ·)
    | none => none
  | fuel + 1, '^' :: rest =>
    match caseless? rest with
    | some (text, after) => (scan fuel after).map (.caseless text :: ·)
    | none => none
  | fuel + 1, '\'' :: rest =>
    match char? rest with
    | some (c, after) => (scan fuel after).map (.char c :: ·)
    | none => none
  | fuel + 1, '.' :: '.' :: rest => (scan fuel rest).map (.dots :: ·)
  | fuel + 1, '#' :: c :: rest =>
    if isNameStart c then
      (scan fuel (rest.dropWhile isNamePart)).map
        (.tag (String.ofList (c :: rest.takeWhile isNamePart)) :: ·)
    else none
  | fuel + 1, c :: rest =>
    if isNameStart c then
      let name := String.ofList (c :: rest.takeWhile isNamePart)
      if "PUSH".toList.isPrefixOf name.toList then none
      else (scan fuel (rest.dropWhile isNamePart)).map (.name name :: ·)
    else if c.isDigit then
      let n := (c :: rest.takeWhile Char.isDigit).foldl
        (fun n c => n * 10 + (c.toNat - '0'.toNat)) 0
      if n > maxCount then none
      else (scan fuel (rest.dropWhile Char.isDigit)).map (.number n :: ·)
    else if marks.contains c then (scan fuel rest).map (.mark c :: ·)
    else none

/-- The tokens of a text. -/
def ofText? (cs : List Char) : Option (List Token) := scan (cs.length + 1) cs

end Token

end Dialect.Grammar
