import Dialect.Text.Category

/-!
Characters that are new in version 18 of Unicode, as far as they are alphabetic.

The classes of a grammar know them; all else follows version 17.
-/

namespace Dialect.Text

/-- The ranges of new alphabetic code points in increasing order, with their categories. -/
def recentRuns : List (Nat × Nat × Category) := [
  (0x558, 0x558, .lowercaseLetter), (0x58B, 0x58C, .lowercaseLetter),
  (0x5C8, 0x5C9, .nonspacingMark), (0x208F, 0x208F, .modifierLetter),
  (0x209D, 0x209F, .modifierLetter), (0xA7DD, 0xA7DD, .lowercaseLetter),
  (0xA7E2, 0xA7E2, .lowercaseLetter), (0xAB6C, 0xAB6D, .lowercaseLetter),
  (0x107BB, 0x107BF, .modifierLetter), (0x10ECB, 0x10ECD, .otherLetter),
  (0x10ED9, 0x10EEE, .otherLetter), (0x10EF3, 0x10EF3, .nonspacingMark),
  (0x10EF5, 0x10EF5, .nonspacingMark), (0x10EF7, 0x10EF8, .nonspacingMark),
  (0x11B0A, 0x11B0A, .otherLetter), (0x11DF0, 0x11DF1, .otherLetter),
  (0x1246F, 0x1246F, .letterNumber), (0x12475, 0x1247F, .letterNumber),
  (0x12550, 0x12686, .letterNumber), (0x18CD6, 0x18CDA, .otherLetter),
  (0x18D1F, 0x18D20, .otherLetter), (0x18E00, 0x19191, .otherLetter),
  (0x191A0, 0x191D2, .otherLetter), (0x1B123, 0x1B128, .otherLetter),
  (0x1B168, 0x1B168, .otherLetter), (0x1D6A6, 0x1D6A6, .lowercaseLetter),
  (0x1DF1F, 0x1DF24, .lowercaseLetter), (0x1DF2B, 0x1DF81, .lowercaseLetter),
  (0x1DF90, 0x1DF96, .lowercaseLetter), (0x1DFCD, 0x1DFFF, .modifierLetter),
  (0x2B81E, 0x2B81E, .otherLetter), (0x3D000, 0x3FC3F, .otherLetter)]

/-- The category of a new alphabetic character; none for all others. -/
def recentCategory? (c : Char) : Option Category :=
  (recentRuns.find? fun (first, last, _) => first ≤ c.toNat && c.toNat ≤ last).map
    fun (_, _, category) => category

/-- The character is new and alphabetic. -/
def isRecent (c : Char) : Bool := (recentCategory? c).isSome

/-- The character belongs to one of the categories, new ones included. -/
def isIn (categories : List Category) (c : Char) : Bool :=
  match recentCategory? c with
  | some category => categories.contains category
  | none => categories.any fun category => category.contains c

end Dialect.Text
