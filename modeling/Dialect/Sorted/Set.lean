/-!
Finite sets kept as strictly increasing lists.

A `SortedSet` lists its elements in the order of their type, each once, so two sets with the same
elements are equal (`SortedSet.ext`) and an answer that lists a set does not depend on how the set
was built. Main statements: `SortedSet.mem_insert`, `SortedSet.mem_ofList`, `SortedSet.mem_union`.
-/

namespace Dialect

/-- A finite set of `α`, listed in increasing order. -/
structure SortedSet (α : Type) [Ord α] where
  toList : List α
  increasing : toList.Pairwise fun a b => compare a b = .lt

namespace SortedSet

variable {α : Type} [Ord α]

instance : Membership α (SortedSet α) := ⟨fun s a => a ∈ s.toList⟩

theorem mem_def {a : α} {s : SortedSet α} : a ∈ s ↔ a ∈ s.toList := Iff.rfl

instance [DecidableEq α] (a : α) (s : SortedSet α) : Decidable (a ∈ s) :=
  inferInstanceAs (Decidable (a ∈ s.toList))

instance [DecidableEq α] : DecidableEq (SortedSet α) := fun s t =>
  if h : s.toList = t.toList then
    .isTrue (by cases s; cases t; cases h; rfl)
  else
    .isFalse fun e => h (e ▸ rfl)

instance : EmptyCollection (SortedSet α) := ⟨⟨[], .nil⟩⟩

instance : Inhabited (SortedSet α) := ⟨∅⟩

@[simp] theorem toList_empty : (∅ : SortedSet α).toList = [] := rfl

@[simp] theorem not_mem_empty (a : α) : ¬ a ∈ (∅ : SortedSet α) := by simp [mem_def]

/-- The set has no elements. -/
def isEmpty (s : SortedSet α) : Bool := s.toList.isEmpty

/-- The set whose only element is `a`. -/
def single (a : α) : SortedSet α := ⟨[a], by simp⟩

@[simp] theorem mem_single {x a : α} : x ∈ single a ↔ x = a := by simp [single, mem_def]

/-- Puts `a` at its place in an increasing list; an equal element is replaced. -/
def insertInto (a : α) : List α → List α
  | [] => [a]
  | b :: rest =>
    match compare a b with
    | .lt => a :: b :: rest
    | .eq => a :: rest
    | .gt => b :: insertInto a rest

section Laws

variable [Std.LawfulEqOrd α]

@[simp] theorem mem_insertInto {x a : α} {l : List α} :
    x ∈ insertInto a l ↔ x = a ∨ x ∈ l := by
  induction l with
  | nil => simp [insertInto]
  | cons b rest ih =>
    unfold insertInto
    split
    · simp
    · next h => simp [Std.LawfulEqOrd.eq_of_compare h]
    · simp only [List.mem_cons, ih]
      constructor <;> rintro (h | h | h) <;> simp [h]

variable [Std.TransOrd α]

theorem insertInto_increasing {a : α} {l : List α}
    (h : l.Pairwise fun x y => compare x y = .lt) :
    (insertInto a l).Pairwise fun x y => compare x y = .lt := by
  induction l with
  | nil => simp [insertInto]
  | cons b rest ih =>
    have tail := List.pairwise_cons.1 h
    unfold insertInto
    split
    · next lt =>
      refine List.pairwise_cons.2 ⟨fun y hy => ?_, h⟩
      rcases List.mem_cons.1 hy with rfl | hy
      · exact lt
      · exact Std.TransCmp.lt_trans lt (tail.1 y hy)
    · next eq =>
      cases Std.LawfulEqOrd.eq_of_compare eq
      exact h
    · next gt =>
      refine List.pairwise_cons.2 ⟨fun y hy => ?_, ih tail.2⟩
      rcases mem_insertInto.1 hy with rfl | hy
      · exact Std.OrientedCmp.gt_iff_lt.1 gt
      · exact tail.1 y hy

/-- The set with `a` added. -/
def insert (s : SortedSet α) (a : α) : SortedSet α :=
  ⟨insertInto a s.toList, insertInto_increasing s.increasing⟩

@[simp] theorem mem_insert {x a : α} {s : SortedSet α} : x ∈ s.insert a ↔ x = a ∨ x ∈ s :=
  mem_insertInto

/-- The set of the elements of a list. -/
def ofList (l : List α) : SortedSet α := l.foldl insert ∅

theorem mem_foldl_insert {x : α} {l : List α} {s : SortedSet α} :
    x ∈ l.foldl insert s ↔ x ∈ s ∨ x ∈ l := by
  induction l generalizing s with
  | nil => simp
  | cons a rest ih =>
    simp only [List.foldl_cons, ih, mem_insert, List.mem_cons]
    constructor
    · rintro ((h | h) | h) <;> simp [h]
    · rintro (h | h | h) <;> simp [h]

@[simp] theorem mem_ofList {x : α} {l : List α} : x ∈ ofList l ↔ x ∈ l := by
  simp [ofList, mem_foldl_insert]

/-- The set of the elements of either set. -/
def union (s t : SortedSet α) : SortedSet α := t.toList.foldl insert s

instance : Union (SortedSet α) := ⟨union⟩

@[simp] theorem mem_union {x : α} {s t : SortedSet α} : x ∈ s ∪ t ↔ x ∈ s ∨ x ∈ t :=
  mem_foldl_insert

/-- Two sets with the same elements are equal. -/
theorem ext {s t : SortedSet α} (h : ∀ a, a ∈ s ↔ a ∈ t) : s = t := by
  have distinct (l : List α) (inc : l.Pairwise fun a b => compare a b = .lt) : l.Nodup :=
    inc.imp fun {a b} lt e => by subst e; simp at lt
  have perm : s.toList.Perm t.toList :=
    (List.perm_ext_iff_of_nodup (distinct _ s.increasing) (distinct _ t.increasing)).2 h
  have asymm (a b : α) (ab : compare a b = .lt) (ba : compare b a = .lt) : a = b :=
    absurd (Std.TransCmp.lt_trans ab ba) (by simp)
  have lists : s.toList = t.toList :=
    perm.eq_of_pairwise (fun a b _ _ => asymm a b)
      s.increasing t.increasing
  cases s; cases t; cases lists; rfl

/-- A set lists one element if that is its only one. -/
theorem toList_eq_singleton {s : SortedSet α} {a : α} : s.toList = [a] ↔ ∀ x, x ∈ s ↔ x = a := by
  constructor
  · intro listed x
    rw [mem_def, listed, List.mem_singleton]
  · intro only
    have same : s = single a := ext fun x => (only x).trans mem_single.symm
    rw [same]
    rfl

end Laws

end SortedSet

end Dialect
