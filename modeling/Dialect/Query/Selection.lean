import Dialect.Dataset

/-!
Selections: which entries of a dataset are selected, entry by entry in the order of the ids.

Main statements: `getElem?_complement`, `getElem?_inter`, `getElem?_union`.
-/

namespace Dialect.Query

/-- For each entry of a dataset, whether it is selected. -/
abbrev Selection := List Bool

namespace Selection

/-- The entries that are not selected. -/
def complement (s : Selection) : Selection := s.map not

/-- The entries that both select. -/
def inter (s t : Selection) : Selection := List.zipWith and s t

/-- The entries that either selects. -/
def union (s t : Selection) : Selection := List.zipWith or s t

/-- The entries whose id is listed. -/
def ofIds (d : Dataset) (ids : List String) : Selection := d.ids.map ids.contains

/-- The positions of the selected entries, from a first position on. -/
def positionsFrom : (first : Nat) → Selection → List Nat
  | _, [] => []
  | n, b :: rest => if b then n :: positionsFrom (n + 1) rest else positionsFrom (n + 1) rest

/-- The positions of the selected entries. -/
def positions (s : Selection) : List Nat := positionsFrom 0 s

/-- The ids of the selected entries. -/
def ids (s : Selection) (d : Dataset) : List String :=
  ((d.ids.zip s).filter (·.2)).map (·.1)

@[simp] theorem getElem?_complement (s : Selection) (k : Nat) :
    (complement s)[k]? = s[k]?.map not := by simp [complement]

theorem getElem?_inter {s t : Selection} {k : Nat} :
    (inter s t)[k]? = some true ↔ s[k]? = some true ∧ t[k]? = some true := by
  simp only [inter, List.getElem?_zipWith]
  cases s[k]? <;> cases t[k]? <;> simp

theorem getElem?_union {s t : Selection} (h : s.length = t.length) {k : Nat} :
    (union s t)[k]? = some true ↔ s[k]? = some true ∨ t[k]? = some true := by
  simp only [union, List.getElem?_zipWith]
  cases hs : s[k]? <;> cases ht : t[k]?
  · simp
  · rw [List.getElem?_eq_none_iff, h] at hs
    rw [List.getElem?_eq_none_iff.2 hs] at ht
    cases ht
  · rw [List.getElem?_eq_none_iff, ← h] at ht
    rw [List.getElem?_eq_none_iff.2 ht] at hs
    cases hs
  · simp

end Selection

end Dialect.Query
