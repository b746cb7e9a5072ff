import Dialect.Decimal.Reader
import Dialect.Sorted.Map
import Dialect.Text.Lowercase
import Dialect.Text.Split
import Dialect.Toml.Document
import Dialect.Value.Reader
import Dialect.Word

/-!
Layers of configuration.

A file and environment variables are laid over one another into one object. A later scalar replaces
what was there; a later object is merged member by member. A name is a path: dots lead into objects
and numbers in brackets into lists, each of which takes the place of anything else on the way.
-/

namespace Dialect.Settings

/-- The notation of a settings file. -/
inductive Format where
  | toml
  | json
  deriving DecidableEq, Repr

/-- The members of an object; other values have none. -/
def membersOf : Value → List (String × Value)
  | .object members => members
  | _ => []

/-- The value as an object with a member set; what was no object becomes one. -/
def put (key : String) (v : Value) (target : Value) : Value :=
  .object (SortedMap.insertInto key v (membersOf target))

/-- The member under a key, or null. -/
def memberOf (key : String) (target : Value) : Value := ((membersOf target).lookup key).getD .null

mutual

/-- A value laid over another. -/
def overlay : Value → (target : Value) → Value
  | .object members, target => overlayAll members (.object (membersOf target))
  | v, _ => v

/-- Members laid over a value. -/
def overlayAll : List (String × Value) → (target : Value) → Value
  | [], target => target
  | (k, v) :: rest, target => overlayAll rest (put k (overlay v (memberOf k target)) target)

end

/-- The items of a list; other values have none. -/
def itemsOf : Value → List Value
  | .list items => items
  | _ => []

/-- A list with the item at a place changed. Places below zero count from the end. A list that is
too short is filled with nulls, on the side where the place lies. -/
def atPlace (change : Value → Value) (place : Int) (items : List Value) : List Value :=
  let size := place.natAbs
  if 0 ≤ place then
    (items ++ List.replicate (size + 1 - items.length) Value.null).modify size change
  else
    (List.replicate (size - items.length) Value.null ++ items).modify (items.length - size) change

/-- A step of a path. -/
inductive Step where
  | member (key : String)
  | item (place : Int)
  deriving DecidableEq, Repr

/-- Lays a value over what is at the end of a path. -/
def layAt (v : Value) : List Step → (target : Value) → Value
  | [], target => overlay v target
  | .member key :: path, target => put key (layAt v path (memberOf key target)) target
  | .item place :: path, target => .list (atPlace (layAt v path) place (itemsOf target))

/-- The character can stand in the name of a member. -/
def isNameChar (c : Char) : Bool := c.isAlphanum || c = '_' || c = '-'

/-- A place in brackets whose opening bracket has been read, with what follows it. Blanks may stand
inside the brackets. -/
def place? (cs : List Char) : Option (Int × List Char) :=
  let (negative, cs) :=
    match Toml.skipBlanks cs with
    | '-' :: rest => (true, rest)
    | rest => (false, rest)
  let digits := cs.takeWhile Char.isDigit
  match digits.isEmpty, Toml.skipBlanks (cs.drop digits.length) with
  | false, ']' :: rest =>
    (Word.signed64? negative (Decimal.natOfDigits digits)).map fun place => (place, rest)
  | _, _ => none

/-- The steps that a text describes, each with its mark in front: a dot before a member, brackets
around a place. -/
def steps? : (fuel : Nat) → List Char → Option (List Step)
  | _, [] => some []
  | fuel + 1, '.' :: rest =>
    let name := rest.takeWhile isNameChar
    if name.isEmpty then none
    else (steps? fuel (rest.drop name.length)).map (.member (String.ofList name) :: ·)
  | fuel + 1, '[' :: rest =>
    match place? rest with
    | some (place, rest) => (steps? fuel rest).map (.item place :: ·)
    | none => none
  | _, _ => none

/-- The path that a name stands for; a name that describes none is a member by itself. -/
def pathOf (name : String) : List Step :=
  (steps? (name.length + 1) ('.' :: name.toList)).getD [.member name]

/-- Lays named values over an object, in order. -/
def layNamed (entries : List (String × Value)) (target : Value) : Value :=
  entries.foldl (fun target (name, v) => layAt v (pathOf name) target) target

/-- Reads a settings file as an object. -/
def readFile? : Format → String → Option Value
  | .toml, text => Toml.read? text
  | .json, text =>
    match Value.read? text with
    | some (.object members) => some (.object members)
    | _ => none

/-- Two underscores as one dot, from left to right. -/
def dotted : List Char → List Char
  | '_' :: '_' :: rest => '.' :: dotted rest
  | c :: rest => c :: dotted rest
  | [] => []

/-- The name that an environment variable sets: its own in lower case without the lead that marks
variables of the program; none if it has another. -/
def variableName? (lead : String) (name : String) : Option String :=
  let lower := (Text.lowercase name).toList
  let lead := (Text.lowercase lead).toList
  if lead.isPrefixOf lower then some (String.ofList (dotted (lower.drop lead.length))) else none

/-- An integer in words of 64 bits, with an optional sign. -/
def readInteger? (cs : List Char) : Option Int :=
  let (negative, digits) := Toml.sign cs
  if digits.isEmpty || !digits.all Char.isDigit then none
  else Word.signed64? negative (Decimal.natOfDigits digits)

/-- The value of an environment variable: a truth value, an integer, a float, or else text. -/
def variableValue (text : String) : Value :=
  let lower := Text.lowercase text
  if lower = "true" then .bool true
  else if lower = "false" then .bool false
  else
    match readInteger? text.toList with
    | some n => .number (.int n)
    | none =>
      match Decimal.readFloat text with
      | .ok x => .number (.float x)
      | .error _ => .text text

/-- The named values that the environment sets. -/
def environmentEntries (lead : String) (environment : List (String × String)) :
    List (String × Value) :=
  environment.filterMap fun (name, text) =>
    (variableName? lead name).map fun name => (name, variableValue text)

end Dialect.Settings
