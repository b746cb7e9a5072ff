/-!
Cutting a text at a character, and finding a text inside another.

Main statements: `join_split` (joining the parts with the character gives the text back) and
`contains_iff`.
-/

namespace Dialect.Text

/-- The parts of a text between the occurrences of `mark`; always at least one. -/
def split (mark : Char) : List Char → List (List Char)
  | [] => [[]]
  | c :: rest =>
    if c = mark then [] :: split mark rest
    else
      match split mark rest with
      | [] => [[c]]
      | part :: parts => (c :: part) :: parts

theorem split_ne_nil (mark : Char) (cs : List Char) : split mark cs ≠ [] := by
  cases cs with
  | nil => simp [split]
  | cons c rest =>
    simp only [split]
    split
    · simp
    · split <;> simp

/-- The parts with `mark` between neighbours. -/
def join (mark : Char) : List (List Char) → List Char
  | [] => []
  | [part] => part
  | part :: next :: parts => part ++ mark :: join mark (next :: parts)

theorem join_cons_cons (mark c : Char) (part : List Char) (parts : List (List Char)) :
    join mark ((c :: part) :: parts) = c :: join mark (part :: parts) := by
  cases parts <;> rfl

theorem join_split (mark : Char) (cs : List Char) : join mark (split mark cs) = cs := by
  induction cs with
  | nil => rfl
  | cons c rest ih =>
    have nonempty := split_ne_nil mark rest
    simp only [split]
    generalize split mark rest = parts at ih nonempty
    cases parts with
    | nil => exact absurd rfl nonempty
    | cons part parts =>
      split
      · next eq => simp [join, ih, eq]
      · simp [join_cons_cons, ih]

/-- The text `part` occurs in the text, at its start or later. -/
def contains (part : List Char) : List Char → Bool
  | [] => part.isEmpty
  | c :: rest => part.isPrefixOf (c :: rest) || contains part rest

/-- Occurring means standing between some text before and some text after. -/
theorem contains_iff {part cs : List Char} : contains part cs = true ↔ part <:+: cs := by
  induction cs with
  | nil => simp [contains]
  | cons c rest ih =>
    simp only [contains, Bool.or_eq_true, List.isPrefixOf_iff_prefix, ih, List.infix_cons_iff]

end Dialect.Text
