import Dialect.Decimal.Reader
import Dialect.Sorted.Map
import Dialect.Text.Quoted
import Dialect.Value.Basic
import Dialect.Word

/-!
Reading values.

The reader takes exactly one value with blanks around it. Members of an object are put in the order
of their keys, and of two members with one key the later counts. A number without fraction and
exponent is an integer as far as signed or unsigned words of 64 bits reach, and a float beyond.
-/

namespace Dialect.Value

open Dialect.Text.Quoted (isSpace)

/-- Lists and objects may be nested this deep, less one. -/
def maxDepth : Nat := 128

/-- The largest significand kept: an unsigned word of 64 bits. -/
def maxSignificand : Nat := Word.count64 - 1

/-- Adds the digits of a whole part to a significand. Once a digit does not fit, it and all later
ones only raise the exponent. -/
def addWhole : List Char → (significand : Nat) → Nat × Int
  | [], n => (n, 0)
  | c :: rest, n =>
    let next := n * 10 + (c.toNat - '0'.toNat)
    if next ≤ maxSignificand then addWhole rest next else (n, (c :: rest).length)

/-- Adds the digits of a fraction. Once a digit does not fit, it and all later ones are dropped. -/
def addFraction : List Char → (significand : Nat) → (exponent : Int) → Nat × Int
  | [], n, e => (n, e)
  | c :: rest, n, e =>
    let next := n * 10 + (c.toNat - '0'.toNat)
    if next ≤ maxSignificand then addFraction rest next (e - 1) else (n, e)

/-- An unsigned number in pieces: whole part, fraction and signed exponent, each digits. -/
structure Numeral where
  whole : List Char
  fraction : Option (List Char)
  exponent : Option (Bool × List Char)

/-- The whole part of a number has no needless zero in front. -/
def wholePart (cs : List Char) : Option (List Char × List Char) :=
  match Decimal.takeDigits cs with
  | ([], _) => none
  | ('0' :: _ :: _, _) => none
  | parts => some parts

/-- A point is followed by at least one digit. -/
def fractionPart : List Char → Option (Option (List Char) × List Char)
  | '.' :: rest =>
    match Decimal.takeDigits rest with
    | ([], _) => none
    | (digits, after) => some (some digits, after)
  | cs => some (none, cs)

/-- An exponent has an optional sign and at least one digit. -/
def exponentPart : List Char → Option (Option (Bool × List Char) × List Char)
  | [] => some (none, [])
  | e :: rest =>
    if e = 'e' ∨ e = 'E' then
      let (negative, rest) :=
        match rest with
        | '-' :: t => (true, t)
        | '+' :: t => (false, t)
        | t => (false, t)
      match Decimal.takeDigits rest with
      | ([], _) => none
      | (digits, after) => some (some (negative, digits), after)
    else some (none, e :: rest)

/-- The pieces of an unsigned number at the start of a text. -/
def readNumeral (cs : List Char) : Option (Numeral × List Char) := do
  let (whole, cs) ← wholePart cs
  let (fraction, cs) ← fractionPart cs
  let (exponent, cs) ← exponentPart cs
  pure (⟨whole, fraction, exponent⟩, cs)

/-- The number that the pieces denote; none if it is beyond the range of floats. -/
def Numeral.value (negative : Bool) (n : Numeral) : Option Number :=
  let (significand, exponent) := addWhole n.whole 0
  let float (significand : Nat) (exponent : Int) : Option Number :=
    (Decimal.scaled significand exponent).map fun x => .float (if negative then -x else x)
  match n.fraction, n.exponent with
  | none, none =>
    if exponent ≠ 0 then float significand exponent
    else if negative then
      if significand = 0 ∨ significand > Word.signed64 then float significand 0
      else some (.int (-(significand : Int)))
    else some (.int significand)
  | fraction, power =>
    let (significand, exponent) := addFraction (fraction.getD []) significand exponent
    let shift : Int :=
      match power with
      | none => 0
      | some (true, digits) => -(Decimal.natOfDigits digits : Int)
      | some (false, digits) => Decimal.natOfDigits digits
    float significand (exponent + shift)

/-- A number at the start of a text. -/
def readNumber : List Char → Option (Number × List Char)
  | '-' :: cs => do
    let (numeral, rest) ← readNumeral cs
    let n ← numeral.value true
    pure (n, rest)
  | cs => do
    let (numeral, rest) ← readNumeral cs
    let n ← numeral.value false
    pure (n, rest)

/-- The members in the order of their keys, the last of each key. -/
def objectOf (members : List (String × Value)) : Value :=
  .object (SortedMap.ofList members).toList

mutual

/-- A value at the start of a text, and what follows it. `depth` is how much deeper lists and
objects may still be nested; each step takes one of `fuel`. -/
def readAt : (fuel depth : Nat) → List Char → Option (Value × List Char)
  | 0, _, _ => none
  | fuel + 1, depth, cs =>
    match cs.dropWhile isSpace with
    | 'n' :: 'u' :: 'l' :: 'l' :: rest => some (.null, rest)
    | 't' :: 'r' :: 'u' :: 'e' :: rest => some (.bool true, rest)
    | 'f' :: 'a' :: 'l' :: 's' :: 'e' :: rest => some (.bool false, rest)
    | '"' :: rest =>
      (Text.Quoted.decodeAt ('"' :: rest)).map fun (s, after) => (.text (String.ofList s), after)
    | '[' :: rest =>
      if depth ≤ 1 then none
      else
        match rest.dropWhile isSpace with
        | ']' :: after => some (.list [], after)
        | rest => (readItems fuel (depth - 1) rest).map fun (vs, after) => (.list vs, after)
    | '\x7b' :: rest =>
      if depth ≤ 1 then none
      else
        match rest.dropWhile isSpace with
        | '\x7d' :: after => some (.object [], after)
        | rest => (readMembers fuel (depth - 1) rest).map fun (ms, after) => (objectOf ms, after)
    | rest => (readNumber rest).map fun (n, after) => (.number n, after)

/-- The elements of a list after its bracket, with the closing bracket. -/
def readItems : (fuel depth : Nat) → List Char → Option (List Value × List Char)
  | 0, _, _ => none
  | fuel + 1, depth, cs =>
    match readAt fuel depth cs with
    | none => none
    | some (v, rest) =>
      match rest.dropWhile isSpace with
      | ',' :: rest => (readItems fuel depth rest).map fun (vs, after) => (v :: vs, after)
      | ']' :: after => some ([v], after)
      | _ => none

/-- The members of an object after its brace, with the closing brace. -/
def readMembers : (fuel depth : Nat) → List Char → Option (List (String × Value) × List Char)
  | 0, _, _ => none
  | fuel + 1, depth, cs =>
    match Text.Quoted.decodeAt (cs.dropWhile isSpace) with
    | none => none
    | some (key, rest) =>
      match rest.dropWhile isSpace with
      | ':' :: rest =>
        match readAt fuel depth rest with
        | none => none
        | some (v, rest) =>
          let entry := (String.ofList key, v)
          match rest.dropWhile isSpace with
          | ',' :: rest => (readMembers fuel depth rest).map fun (ms, after) => (entry :: ms, after)
          | '\x7d' :: after => some ([entry], after)
          | _ => none
      | _ => none

end

/-- Reads a text that is one value. -/
def read? (text : String) : Option Value :=
  let cs := text.toList
  match readAt (2 * cs.length + 2) maxDepth cs with
  | some (v, rest) => if rest.all isSpace then some v else none
  | none => none

end Dialect.Value
