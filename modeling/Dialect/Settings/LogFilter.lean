import Dialect.Decimal.Reader
import Dialect.Error
import Dialect.Text.Bytes
import Dialect.Text.Pattern
import Dialect.Text.Split

/-!
Log filters: directives with commas between them.

A directive is a word, which names a level or a target, or a target with a level behind `=`. A
target may go on with a span in brackets, and a span with a field in braces, which may ask for a
value. Empty directives are passed over.

Places in a directive are counted without the blanks around it, but its level and its field are read
at these places of the text with the blanks. So a directive with a level bears no blanks around it.
-/

namespace Dialect.Settings

/-- A level: its name in any case, or its number from zero (off) to five. Nothing stands for one
too. -/
def isLevel (cs : List Char) : Bool :=
  let word := String.ofList (cs.map Char.toLower)
  let digits :=
    match cs with
    | '+' :: rest => rest
    | cs => cs
  ["", "off", "error", "warn", "info", "debug", "trace"].contains word
    || (!digits.isEmpty && digits.all Char.isDigit
        && digits.foldl (fun n c => n * 10 + (c.toNat - '0'.toNat)) 0 ≤ 5)

/-- A field of a span: a name, and behind `=` a number or a pattern that its value has to match. -/
def isField (cs : List Char) : Bool :=
  match Text.split '=' cs with
  | _ :: value :: _ =>
    match Decimal.readFloat (String.ofList value) with
    | .ok _ => true
    | .error _ => Text.isPattern value
  | _ => !cs.isEmpty

/-- The part of a text from one byte on, up to another. -/
def between (start stop : Nat) (cs : List Char) : List Char :=
  (Text.takeBytes stop cs).drop (Text.takeBytes start cs).length

/-- How far a directive has been read. -/
inductive Stage where
  | fresh
  | word
  | span
  | field (start : Nat)
  | fieldEnd
  | spanEnd
  | level (start : Nat)
  deriving DecidableEq, Repr

/-- Reads one character of a directive, which stands at byte `at_`. -/
def Stage.step (whole : List Char) (at_ : Nat) (c : Char) : Stage → Option Stage
  | .fresh =>
    if c = '[' then some .span
    else if c = '-' || c = ':' || c = '_' || Text.isAlphabetic c || Text.isNumeric c then some .word
    else none
  | .word =>
    if c = '=' then some (.level (at_ + 1)) else if c = '[' then some .span else some .word
  | .span =>
    if c = ']' then some .spanEnd
    else if c = '\x7b' then some (.field (at_ + 1))
    else some .span
  | .field start =>
    if c = '\x7d' then
      if isField (between start at_ whole) then some .fieldEnd else none
    else some (.field start)
  | .fieldEnd => if c = ']' then some .spanEnd else none
  | .spanEnd => if c = '=' then some (.level (at_ + 1)) else none
  | .level start => some (.level start)

/-- Reads the characters of a directive from byte `at_` on. -/
def Stage.walk (whole : List Char) : (at_ : Nat) → Stage → List Char → Option Stage
  | _, stage, [] => some stage
  | at_, stage, c :: rest =>
    (stage.step whole at_ c).bind fun stage => walk whole (at_ + c.utf8Size) stage rest

/-- A directive of a filter. -/
def isDirective (cs : List Char) : Bool :=
  match Stage.walk cs 0 .fresh (Text.trimList cs) with
  | some .word | some .spanEnd => true
  | some (.level start) => isLevel (between start (Text.byteSize cs) cs)
  | _ => false

/-- A filter: directives, of which the empty ones do not count. -/
def isLogFilter (filter : String) : Bool :=
  (Text.split ',' filter.toList).all fun cs => cs.isEmpty || isDirective cs

/-- Refuses a filter that cannot be read. -/
def checkLogFilter (filter : String) : Except Error Unit :=
  if isLogFilter filter then .ok () else .error (.config (.logFilter filter))

end Dialect.Settings
