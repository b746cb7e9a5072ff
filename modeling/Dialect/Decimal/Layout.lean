import Dialect.Decimal.Shortest
import Dialect.Word

/-!
How the shortest digits of a number are laid out as text.

A `Layout` holds the choices a format makes: which numbers are written without an exponent, whether
a whole number keeps a fraction, and which of two equally near decimals is taken.
-/

namespace Dialect.Decimal

/-- The choices of a number format. -/
structure Layout where
  /-- The point positions written without an exponent, both ends included; `none` is all. -/
  positional : Option (Int × Int)
  /-- A whole number is written with a zero after the point. -/
  wholeFraction : Bool
  tie : Tie

/-- Numbers in a printed record: positional from 1e-5 up to 1e16, always with a fraction or an
exponent, so that they are told apart from integers. -/
def Layout.record : Layout := ⟨some (-4, 16), true, .toEven⟩

/-- Numbers as plain text: never an exponent, no needless fraction. -/
def Layout.plain : Layout := ⟨none, false, .up⟩

/-- The decimal digits of a natural number. -/
def digitsOf (n : Nat) : List Char := Nat.toDigits 10 n

/-- The digits with the point after the first `point` of them. -/
def layPositional (wholeFraction : Bool) (digits : List Char) (point : Int) : List Char :=
  if point ≤ 0 then
    '0' :: '.' :: List.replicate (-point).toNat '0' ++ digits
  else
    let whole := digits.take point.toNat
    let padding := List.replicate (point.toNat - whole.length) '0'
    let fraction := digits.drop point.toNat
    whole ++ padding ++
      (if fraction.isEmpty then (if wholeFraction then ['.', '0'] else []) else '.' :: fraction)

/-- The digits with the point after the first of them and the exponent with its sign. -/
def layExponent (digits : List Char) (point : Int) : List Char :=
  let fraction := digits.drop 1
  let e := point - 1
  digits.take 1 ++ (if fraction.isEmpty then [] else '.' :: fraction)
    ++ 'e' :: (if e < 0 then '-' else '+') :: digitsOf e.natAbs

/-- The text of a float. -/
def Layout.write (layout : Layout) (x : Float) : String :=
  if x.isNaN then "NaN"
  else
    let sign := if x.toBits.toNat / Word.signed64 = 1 then ['-'] else []
    let magnitude :=
      if x.isInf then ['i', 'n', 'f']
      else
        let b := Binary.ofFloat x
        if b.mantissa = 0 then layPositional layout.wholeFraction ['0'] 1
        else
          let d := shortest b layout.tie
          let digits := digitsOf d.digits
          let point := digits.length + d.exponent
          match layout.positional with
          | none => layPositional layout.wholeFraction digits point
          | some (low, high) =>
            if low ≤ point ∧ point ≤ high then layPositional layout.wholeFraction digits point
            else layExponent digits point
    String.ofList (sign ++ magnitude)

end Dialect.Decimal
