import Dialect.Sorted.Map
import Dialect.Sorted.Set

/-!
Field paths, requirements and pins.

A field path names a route through nested objects. The paths that something reads are its
requirements. Where a route crosses a list, a pin says which element to take; it is kept under the
path that ends at the list. Main statement: `mem_prefixClosure` (the closure of requirements holds
exactly the non-empty prefixes of required paths).
-/

namespace Dialect

/-- A route through nested objects, segment by segment. The empty route is the record itself. -/
structure FieldPath where
  segments : List String
  deriving DecidableEq, Repr

namespace FieldPath

/-- The route that stays at the record. -/
def root : FieldPath := ⟨[]⟩

instance : Inhabited FieldPath := ⟨root⟩

/-- Paths are ordered segment by segment. -/
instance : Ord FieldPath := ⟨fun p q => compare p.segments q.segments⟩

theorem compare_def (p q : FieldPath) : compare p q = compare p.segments q.segments := rfl

instance : Std.TransOrd FieldPath where
  eq_swap {p q} := by simp only [compare_def]; exact Std.OrientedCmp.eq_swap
  isLE_trans {p q r} h k := by
    rw [compare_def] at *
    exact Std.TransCmp.isLE_trans h k

instance : Std.LawfulEqOrd FieldPath where
  eq_of_compare {p q} h := by
    cases p; cases q
    exact congrArg FieldPath.mk (Std.LawfulEqOrd.eq_of_compare h)
  compare_self {p} := by
    rw [compare_def]
    exact Std.ReflCmp.compare_self

/-- The number of segments. -/
def length (p : FieldPath) : Nat := p.segments.length

/-- The path is the record itself. -/
def isRoot (p : FieldPath) : Bool := p.segments.isEmpty

/-- The path one segment further. -/
def child (p : FieldPath) (segment : String) : FieldPath := ⟨p.segments ++ [segment]⟩

/-- The path written with a dot before every segment. -/
def text (p : FieldPath) : String := String.join (p.segments.map ("." ++ ·))

/-- The non-empty prefixes of a list, shortest first. -/
def prefixesOf : List String → List (List String)
  | [] => []
  | s :: rest => [s] :: (prefixesOf rest).map (s :: ·)

/-- The non-empty prefixes of the path, shortest first; the last is the path. -/
def prefixes (p : FieldPath) : List FieldPath := (prefixesOf p.segments).map FieldPath.mk

theorem mem_prefixesOf {x l : List String} : x ∈ prefixesOf l ↔ x ≠ [] ∧ x <+: l := by
  induction l generalizing x with
  | nil => simp [prefixesOf]
  | cons s rest ih =>
    simp only [prefixesOf, List.mem_cons, List.mem_map, ih]
    cases x with
    | nil => simp
    | cons a x =>
      simp only [List.cons.injEq, List.cons_prefix_cons, ne_eq, reduceCtorEq, not_false_eq_true,
        true_and]
      constructor
      · rintro (⟨rfl, rfl⟩ | ⟨y, ⟨-, pre⟩, rfl, rfl⟩)
        · exact ⟨rfl, List.nil_prefix⟩
        · exact ⟨rfl, pre⟩
      · rintro ⟨rfl, pre⟩
        by_cases h : x = []
        · exact .inl ⟨rfl, h⟩
        · exact .inr ⟨x, ⟨h, pre⟩, rfl, rfl⟩

theorem mem_prefixes {p q : FieldPath} :
    p ∈ q.prefixes ↔ p.segments ≠ [] ∧ p.segments <+: q.segments := by
  simp only [prefixes, List.mem_map, mem_prefixesOf]
  exact ⟨fun ⟨_, h, e⟩ => e ▸ h, fun h => ⟨p.segments, h, rfl⟩⟩

end FieldPath

/-- The field paths that something reads. -/
abbrev Requirements := SortedSet FieldPath

/-- Every non-empty prefix of every required path. -/
def prefixClosure (required : Requirements) : Requirements :=
  SortedSet.ofList (required.toList.flatMap FieldPath.prefixes)

theorem mem_prefixClosure {p : FieldPath} {required : Requirements} :
    p ∈ prefixClosure required ↔
      p.segments ≠ [] ∧ ∃ q ∈ required, p.segments <+: q.segments := by
  rw [prefixClosure, SortedSet.mem_ofList, List.mem_flatMap]
  simp only [FieldPath.mem_prefixes]
  exact ⟨fun ⟨q, mem, ne, pre⟩ => ⟨ne, q, mem, pre⟩, fun ⟨ne, q, mem, pre⟩ => ⟨q, mem, ne, pre⟩⟩

/-- Which element of each pinned list to take. -/
abbrev Pins := SortedMap FieldPath Nat

/-- One list pinned to one element. -/
def Pins.single (list : FieldPath) (index : Nat) : Pins :=
  (∅ : Pins).insert list index

end Dialect
