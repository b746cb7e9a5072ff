import Dialect.Path.Basic
import Dialect.Value.Basic

/-!
List boundaries: the required paths, or beginnings of them, at which a record holds lists.

The record is searched along the beginnings of the required paths. What is still to be visited is
kept on a stack; a list is noted under the path that led to it, and its elements are visited along
the same path, so several values can be met along one. The search ends because visiting a value
replaces it by parts of it (`Search.load_onward`).
-/

namespace Dialect

namespace Search

/-- A value to be visited, with the path that led to it. -/
abbrev Visit := FieldPath × Value

/-- What is to be visited after a value: the elements of a list along its own path, and the members
of an object along wanted paths. A record that is a list is not entered. -/
def onward (wanted : Requirements) : Visit → List Visit
  | (p, .list items) => if p.isRoot then [] else items.map fun item => (p, item)
  | (p, .object members) =>
    ((Value.entries members).map fun (key, child) => (p.child key, child)).filter fun visit =>
      visit.1 ∈ wanted
  | _ => []

/-- The boundaries found so far with the path of a list, unless the list is the record itself. -/
def note (found : SortedSet FieldPath) : Visit → SortedSet FieldPath
  | (p, v) => if v.isList && !p.isRoot then found.insert p else found

/-- The number of values that can still be visited. -/
def load : (pending : List Visit) → Nat
  | [] => 0
  | visit :: pending => visit.2.size + load pending

section Load

@[simp] theorem load_nil : load [] = 0 := rfl

@[simp] theorem load_cons (visit : Visit) (pending : List Visit) :
    load (visit :: pending) = visit.2.size + load pending := rfl

@[simp] theorem load_append (xs ys : List Visit) : load (xs ++ ys) = load xs + load ys := by
  induction xs with
  | nil => simp
  | cons x xs ih => simp [ih, Nat.add_assoc]

@[simp] theorem load_reverse (xs : List Visit) : load xs.reverse = load xs := by
  induction xs with
  | nil => rfl
  | cons x xs ih =>
    simp [ih, Nat.add_comm]

theorem load_le_of_sublist {xs ys : List Visit} (sub : xs.Sublist ys) : load xs ≤ load ys := by
  induction sub with
  | slnil => exact Nat.le_refl _
  | cons y _ ih => exact Nat.le_trans ih (by simp)
  | cons_cons y _ ih => simpa using ih

theorem load_items (p : FieldPath) (items : List Value) :
    load (items.map fun item => (p, item)) = Value.sizeItems items := by
  induction items with
  | nil => rfl
  | cons item rest ih => simp [Value.sizeItems, ih]

theorem load_members (p : FieldPath) (members : List (String × Value)) :
    load (members.map fun (key, child) => (p.child key, child)) = Value.sizeMembers members := by
  induction members with
  | nil => rfl
  | cons e rest ih => simp [Value.sizeMembers, ih]

/-- What is visited after a value is less than the value. -/
theorem load_onward (wanted : Requirements) (visit : Visit) :
    load (onward wanted visit) < visit.2.size := by
  obtain ⟨p, v⟩ := visit
  cases v with
  | list items =>
    simp only [onward, Value.size]
    split
    · simp
    · rw [load_items]
      omega
  | object members =>
    have parts : load (onward wanted (p, .object members)) ≤ Value.sizeMembers members := by
      rw [← load_members p]
      exact load_le_of_sublist (List.filter_sublist.trans ((Value.entries_sublist members).map _))
    rw [Value.size]
    omega
  | null | bool | number | text => simp [onward, Value.size]

end Load

/-- The boundaries found so far, and those found by visiting what is pending: the top of the stack
first, then the last of what it leads to. -/
def run (wanted : Requirements) (found : SortedSet FieldPath) :
    (pending : List Visit) → SortedSet FieldPath
  | [] => found
  | visit :: pending => run wanted (note found visit) ((onward wanted visit).reverse ++ pending)
termination_by pending => load pending
decreasing_by
  have less := load_onward wanted visit
  simp only [load_append, load_reverse, load_cons]
  omega

end Search

/-- The list boundaries that the required paths reach in a record. -/
def boundaries (record : Value) (required : Requirements) : SortedSet FieldPath :=
  Search.run (prefixClosure required) ∅ [(.root, record)]

end Dialect
