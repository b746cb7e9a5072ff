/-!
Reading numbers.

`readFloat` reads the text of a float by itself, correctly rounded. `scaled` is the value of a
number inside a record: its digits are first rounded to a float, which is then scaled by a power of
ten.
-/

namespace Dialect.Decimal

/-- The digits at the start of a text and what follows them. -/
def takeDigits (cs : List Char) : List Char × List Char :=
  (cs.takeWhile Char.isDigit, cs.dropWhile Char.isDigit)

/-- The number that a list of decimal digits denotes. -/
def natOfDigits (digits : List Char) : Nat :=
  digits.foldl (fun n c => n * 10 + (c.toNat - '0'.toNat)) 0

/-- `digits · 10^exponent` as a float, correctly rounded. Exponents far outside the range of floats
give infinity or zero without computing the power. -/
def rounded (digits : Nat) (exponent : Int) : Float :=
  if digits = 0 then 0
  else
    let point := (Nat.toDigits 10 digits).length + exponent
    if point > 400 then 1 / 0
    else if point < -400 then 0
    else Float.ofScientific digits (exponent < 0) exponent.natAbs

/-- Ten to a power that a float can hold. -/
def powerOfTen (n : Nat) : Float := Float.ofScientific 1 false n

/-- Divides by `10^308` while the exponent is below what one scaling reaches, at most `fuel` times.
-/
def scaleDown : (fuel : Nat) → Float → (deficit : Nat) → Float
  | 0, x, _ => x
  | fuel + 1, x, deficit =>
    if deficit ≤ 308 then x / powerOfTen deficit
    else if x == 0 then x
    else scaleDown fuel (x / powerOfTen 308) (deficit - 308)

/-- `digits · 10^exponent`, as the rounded digits scaled in floats by at most one multiplication, or
by divisions by at most `10^308` each; `none` if the result is beyond the range of floats. -/
def scaled (digits : Nat) (exponent : Int) : Option Float :=
  let x := Float.ofNat digits
  if exponent < 0 then some (scaleDown 8 x exponent.natAbs)
  else if exponent ≤ 308 then
    let y := x * powerOfTen exponent.toNat
    if y.isInf then none else some y
  else if digits = 0 then some x
  else none

/-- The digits and exponent of an unsigned decimal with an optional fraction and exponent; at least
one digit stands before or after the point. -/
def readUnsigned (cs : List Char) : Option (Nat × Int) :=
  let (whole, rest) := takeDigits cs
  let (fraction, rest) :=
    match rest with
    | '.' :: tail => takeDigits tail
    | _ => ([], rest)
  if whole.isEmpty && fraction.isEmpty then none
  else
    let digits := natOfDigits (whole ++ fraction)
    let places : Int := fraction.length
    match rest with
    | [] => some (digits, -places)
    | e :: tail =>
      if e = 'e' ∨ e = 'E' then
        let (negative, tail) :=
          match tail with
          | '-' :: t => (true, t)
          | '+' :: t => (false, t)
          | t => (false, t)
        if tail.isEmpty || !tail.all Char.isDigit then none
        else
          let e : Int := natOfDigits tail
          some (digits, (if negative then -e else e) - places)
      else none

/-- Why a text is no float. -/
inductive FloatFault where
  | empty
  | invalid
  deriving DecidableEq, Repr

def FloatFault.message : FloatFault → String
  | .empty => "cannot parse float from empty string"
  | .invalid => "invalid float literal"

/-- A float by itself: an optional sign, then a decimal, or in letters of either case `inf`,
`infinity` or `nan`. -/
def readFloat (text : String) : Except FloatFault Float :=
  let (negative, body) :=
    match text.toList with
    | '-' :: t => (true, t)
    | '+' :: t => (false, t)
    | t => (false, t)
  let magnitude : Except FloatFault Float :=
    let word := String.ofList (body.map Char.toLower)
    if word = "inf" ∨ word = "infinity" then .ok (1 / 0)
    else if word = "nan" then .ok (0 / 0)
    else
      match readUnsigned body with
      | some (digits, exponent) => .ok (rounded digits exponent)
      | none => .error .invalid
  if text.isEmpty then .error .empty
  else magnitude.map fun x => if negative then -x else x

end Dialect.Decimal
