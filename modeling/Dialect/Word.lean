/-!
Machine words: the bounds that counts and integers of 32 and 64 bits keep.
-/

namespace Dialect.Word

/-- The number of values of a word of 32 bits. -/
def count32 : Nat := 0x100000000

/-- The number of values of a word of 64 bits. -/
def count64 : Nat := 0x10000000000000000

/-- The bound of signed integers of 64 bits: from its negative up to just below it. -/
def signed64 : Nat := 0x8000000000000000

/-- The integer fits in a signed word of 64 bits. -/
def isSigned64 (n : Int) : Bool := -(signed64 : Int) ≤ n && n < (signed64 : Int)

/-- The integer of a sign and a magnitude, if it fits in a signed word of 64 bits. -/
def signed64? (negative : Bool) (magnitude : Nat) : Option Int :=
  let n : Int := if negative then -(magnitude : Int) else magnitude
  if isSigned64 n then some n else none

end Dialect.Word
