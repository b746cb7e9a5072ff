/-!
The fewest decimal digits that read back as a given binary number.

A finite binary64 number is `m · 2^q`. The decimals that read back as it fill an interval around it
that reaches half way to its neighbours. `shortest` looks for a point of the interval on ever finer
decimal grids; on each grid only the two points next to the number can be the nearest.
-/

namespace Dialect.Decimal

/-- A finite binary64 number without its sign: `mantissa · 2^exponent`. It is `narrow` where the
neighbour below lies in the next smaller binade, half as far away as the one above. -/
structure Binary where
  mantissa : Nat
  exponent : Int
  narrow : Bool
  deriving DecidableEq, Repr

/-- The magnitude of a finite float. -/
def Binary.ofFloat (x : Float) : Binary :=
  let bits := x.toBits.toNat
  let fraction : Nat := bits % Nat.pow 2 52
  let biased : Nat := bits / Nat.pow 2 52 % Nat.pow 2 11
  if biased = 0 then ⟨fraction, -1074, false⟩
  else ⟨fraction + Nat.pow 2 52, (biased : Int) - 1075, fraction = 0 && 1 < biased⟩

/-- A decimal without its sign: `digits · 10^exponent`. -/
structure Digits where
  digits : Nat
  exponent : Int
  deriving DecidableEq, Repr

/-- Which of two equally near decimals is written. -/
inductive Tie where
  | toEven
  | up
  deriving DecidableEq, Repr

/-- The number of decimal digits of a natural number; zero has one. -/
def digitCount (n : Nat) : Nat := (Nat.toDigits 10 n).length

/-- Takes zeros off the end of the digits, at most `fuel` of them. -/
def Digits.trim : (fuel : Nat) → Digits → Digits
  | 0, d => d
  | fuel + 1, d =>
    if d.digits ≠ 0 ∧ d.digits % 10 = 0 then Digits.trim fuel ⟨d.digits / 10, d.exponent + 1⟩ else d

/-- The point position of a number `num / den`: the least `p` with `num / den < 10^p`. -/
def pointPosition (num den : Nat) : Int :=
  if den ≤ num then digitCount (num / den) else 1 - (digitCount ((den - 1) / num) : Int)

/-- The grid `10^e`: the point nearest to the number that reads back as it, if any does. Quantities
are compared as multiples of a common unit: a point `k` of the grid is `k · grid`, and a quarter of
the number's last binary place is `quarter`. -/
def onGrid (b : Binary) (tie : Tie) (grid quarter : Nat) : Option Nat :=
  let value := 4 * b.mantissa * quarter
  let low := (4 * b.mantissa - if b.narrow then 1 else 2) * quarter
  let high := (4 * b.mantissa + 2) * quarter
  let readsBack (k : Nat) : Bool :=
    if b.mantissa % 2 = 0 then low ≤ k * grid && k * grid ≤ high
    else low < k * grid && k * grid < high
  let below := value / grid
  let above := below + 1
  match readsBack below, readsBack above with
  | true, false => some below
  | false, true => some above
  | false, false => none
  | true, true =>
    let down := value - below * grid
    let up := above * grid - value
    if down < up then some below
    else if up < down then some above
    else
      match tie with
      | .up => some above
      | .toEven => some (if below % 2 = 0 then below else above)

/-- Tries grids with one more digit each, from `count` digits on. -/
def search (b : Binary) (tie : Tie) (point : Int) : (fuel count : Nat) → Digits
  | 0, _ => ⟨b.mantissa, 0⟩
  | fuel + 1, count =>
    let e := point - count
    let scale := b.exponent - 2
    let grid := Nat.pow 10 e.toNat * Nat.pow 2 (-scale).toNat
    let quarter := Nat.pow 10 (-e).toNat * Nat.pow 2 scale.toNat
    match onGrid b tie grid quarter with
    | some k => ⟨k, e⟩
    | none => search b tie point fuel (count + 1)

/-- The shortest decimal that reads back as a number greater than zero, without zeros at its end.
Seventeen digits always suffice. -/
def shortest (b : Binary) (tie : Tie) : Digits :=
  let num := b.mantissa * Nat.pow 2 b.exponent.toNat
  let point := pointPosition num (Nat.pow 2 (-b.exponent).toNat)
  Digits.trim 17 (search b tie point 17 1)

end Dialect.Decimal
