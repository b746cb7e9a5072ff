/-!
Finite maps kept as lists of entries with strictly increasing keys.

A `SortedMap` lists its entries in the order of their keys, each key once. Main statements:
`SortedMap.get?_insert` (a later entry for a key replaces the earlier one), `SortedMap.get?_eq_some`
(the value found under a key is the one listed with it) and `SortedMap.ext` (maps that answer every
look-up alike are equal).
-/

namespace Dialect

/-- A finite map from `κ` to `ν`, listed in increasing order of the keys. -/
structure SortedMap (κ ν : Type) [Ord κ] where
  toList : List (κ × ν)
  increasing : toList.Pairwise fun a b => compare a.1 b.1 = .lt

namespace SortedMap

variable {κ ν μ : Type} [Ord κ]

instance : EmptyCollection (SortedMap κ ν) := ⟨⟨[], .nil⟩⟩

instance : Inhabited (SortedMap κ ν) := ⟨∅⟩

@[simp] theorem toList_empty : (∅ : SortedMap κ ν).toList = [] := rfl

/-- The keys, in increasing order. -/
def keys (m : SortedMap κ ν) : List κ := m.toList.map (·.1)

/-- The number of entries. -/
def size (m : SortedMap κ ν) : Nat := m.toList.length

/-- The map has no entries. -/
def isEmpty (m : SortedMap κ ν) : Bool := m.toList.isEmpty

/-- The value under a key. -/
def get? [BEq κ] (m : SortedMap κ ν) (k : κ) : Option ν := m.toList.lookup k

/-- The value under a key, or a default. -/
def getD [BEq κ] (m : SortedMap κ ν) (k : κ) (default : ν) : ν := (m.get? k).getD default

@[simp] theorem get?_empty [BEq κ] (k : κ) : (∅ : SortedMap κ ν).get? k = none := rfl

/-- Puts the entry `(k, v)` at its place; an entry with an equal key is replaced. -/
def insertInto (k : κ) (v : ν) : List (κ × ν) → List (κ × ν)
  | [] => [(k, v)]
  | (k', v') :: rest =>
    match compare k k' with
    | .lt => (k, v) :: (k', v') :: rest
    | .eq => (k, v) :: rest
    | .gt => (k', v') :: insertInto k v rest

section Laws

theorem fst_of_mem_insertInto {k : κ} {v : ν} {e : κ × ν} {l : List (κ × ν)}
    (h : e ∈ insertInto k v l) : e = (k, v) ∨ e ∈ l := by
  induction l with
  | nil => simpa [insertInto] using h
  | cons b rest ih =>
    obtain ⟨k', v'⟩ := b
    unfold insertInto at h
    split at h
    · simpa using h
    · rcases List.mem_cons.1 h with h | h
      · exact .inl h
      · exact .inr (List.mem_cons_of_mem _ h)
    · rcases List.mem_cons.1 h with h | h
      · exact .inr (h ▸ List.mem_cons_self)
      · exact (ih h).imp id (List.mem_cons_of_mem _)

variable [DecidableEq κ]

omit [Ord κ] in
theorem lookup_cons_eq {k x : κ} {v : ν} {l : List (κ × ν)} :
    ((k, v) :: l).lookup x = if x = k then some v else l.lookup x := by
  rw [List.lookup_cons]
  by_cases h : x = k
  · simp [h]
  · simp [h, beq_eq_false_iff_ne.2 h]

variable [Std.LawfulEqOrd κ]

theorem lookup_insertInto {k x : κ} {v : ν} {l : List (κ × ν)} :
    (insertInto k v l).lookup x = if x = k then some v else l.lookup x := by
  induction l with
  | nil => exact lookup_cons_eq
  | cons b rest ih =>
    obtain ⟨k', v'⟩ := b
    unfold insertInto
    split
    · exact lookup_cons_eq
    · next h =>
      cases Std.LawfulEqOrd.eq_of_compare h
      simp only [lookup_cons_eq]
      split <;> rfl
    · next h =>
      have distinct : k ≠ k' := by rintro rfl; simp at h
      simp only [lookup_cons_eq, ih]
      by_cases xk : x = k'
      · subst xk; simp [distinct.symm]
      · simp [xk]

variable [Std.TransOrd κ]

omit [DecidableEq κ] in
theorem insertInto_increasing {k : κ} {v : ν} {l : List (κ × ν)}
    (h : l.Pairwise fun a b => compare a.1 b.1 = .lt) :
    (insertInto k v l).Pairwise fun a b => compare a.1 b.1 = .lt := by
  induction l with
  | nil => simp [insertInto]
  | cons b rest ih =>
    obtain ⟨k', v'⟩ := b
    have tail := List.pairwise_cons.1 h
    unfold insertInto
    split
    · next lt =>
      refine List.pairwise_cons.2 ⟨fun y hy => ?_, h⟩
      rcases List.mem_cons.1 hy with rfl | hy
      · exact lt
      · exact Std.TransCmp.lt_trans lt (tail.1 y hy)
    · next eq =>
      cases Std.LawfulEqOrd.eq_of_compare eq
      exact List.pairwise_cons.2 ⟨tail.1, tail.2⟩
    · next gt =>
      refine List.pairwise_cons.2 ⟨fun y hy => ?_, ih tail.2⟩
      rcases fst_of_mem_insertInto hy with rfl | hy
      · exact Std.OrientedCmp.gt_iff_lt.1 gt
      · exact tail.1 y hy

/-- The map with `v` under `k`, replacing what was there. -/
def insert (m : SortedMap κ ν) (k : κ) (v : ν) : SortedMap κ ν :=
  ⟨insertInto k v m.toList, insertInto_increasing m.increasing⟩

theorem get?_insert {m : SortedMap κ ν} {k x : κ} {v : ν} :
    (m.insert k v).get? x = if x = k then some v else m.get? x :=
  lookup_insertInto

/-- The map whose value under `k` is made by `f` from the value there, if any. -/
def alter (m : SortedMap κ ν) (k : κ) (f : Option ν → ν) : SortedMap κ ν :=
  m.insert k (f (m.get? k))

theorem get?_alter {m : SortedMap κ ν} {k x : κ} {f : Option ν → ν} :
    (m.alter k f).get? x = if x = k then some (f (m.get? k)) else m.get? x :=
  get?_insert

/-- What is true of all values is so after a change to one that makes it true of that one. -/
theorem forall_alter {P : ν → Prop} {m : SortedMap κ ν} {k : κ} {f : Option ν → ν}
    (all : ∀ x v, m.get? x = some v → P v) (made : P (f (m.get? k))) (x : κ) (v : ν)
    (found : (m.alter k f).get? x = some v) : P v := by
  rw [get?_alter] at found
  split at found
  · exact Option.some.inj found ▸ made
  · exact all x v found

/-- The map of a list of entries; of two entries with one key the later counts. -/
def ofList (l : List (κ × ν)) : SortedMap κ ν := l.foldl (fun m e => m.insert e.1 e.2) ∅

omit [Ord κ] [Std.TransOrd κ] [Std.LawfulEqOrd κ] in
theorem mem_of_lookup {k : κ} {v : ν} {l : List (κ × ν)} (h : l.lookup k = some v) :
    (k, v) ∈ l := by
  induction l with
  | nil => simp at h
  | cons b rest ih =>
    obtain ⟨k', v'⟩ := b
    rw [lookup_cons_eq] at h
    split at h
    · next e => simp_all
    · exact List.mem_cons_of_mem _ (ih h)

omit [Std.TransOrd κ] in
theorem lookup_of_mem {k : κ} {v : ν} {l : List (κ × ν)}
    (inc : l.Pairwise fun a b => compare a.1 b.1 = .lt) (h : (k, v) ∈ l) :
    l.lookup k = some v := by
  induction l with
  | nil => simp at h
  | cons b rest ih =>
    obtain ⟨k', v'⟩ := b
    have tail := List.pairwise_cons.1 inc
    rcases List.mem_cons.1 h with e | mem
    · cases e
      simp
    · have below := tail.1 _ mem
      have distinct : k ≠ k' := by rintro rfl; simp at below
      rw [lookup_cons_eq, if_neg distinct, ih tail.2 mem]

omit [Std.TransOrd κ] in
/-- A value is found under a key exactly when it is listed with it. -/
theorem get?_eq_some {m : SortedMap κ ν} {k : κ} {v : ν} :
    m.get? k = some v ↔ (k, v) ∈ m.toList :=
  ⟨mem_of_lookup, lookup_of_mem m.increasing⟩

omit [Std.TransOrd κ] in
theorem mem_keys {m : SortedMap κ ν} {k : κ} : k ∈ m.keys ↔ (m.get? k).isSome := by
  simp only [keys, List.mem_map, Option.isSome_iff_exists, get?_eq_some]
  exact ⟨fun ⟨e, mem, eq⟩ => ⟨e.2, eq ▸ mem⟩, fun ⟨v, mem⟩ => ⟨(k, v), mem, rfl⟩⟩

theorem mem_keys_insert {m : SortedMap κ ν} {k x : κ} {v : ν} :
    x ∈ (m.insert k v).keys ↔ x = k ∨ x ∈ m.keys := by
  simp only [mem_keys, get?_insert]
  by_cases same : x = k <;> simp [same]

/-- Maps that answer every look-up alike are equal. -/
theorem ext {m n : SortedMap κ ν} (h : ∀ k, m.get? k = n.get? k) : m = n := by
  have distinct (l : List (κ × ν)) (inc : l.Pairwise fun a b => compare a.1 b.1 = .lt) :
      l.Nodup :=
    inc.imp fun {a b} lt e => by subst e; simp at lt
  have perm : m.toList.Perm n.toList := by
    refine (List.perm_ext_iff_of_nodup (distinct _ m.increasing) (distinct _ n.increasing)).2 ?_
    rintro ⟨k, v⟩
    rw [← get?_eq_some, ← get?_eq_some, h]
  have asymm (a b : κ × ν) (ab : compare a.1 b.1 = .lt) (ba : compare b.1 a.1 = .lt) : a = b :=
    absurd (Std.TransCmp.lt_trans ab ba) (by simp)
  have lists : m.toList = n.toList :=
    perm.eq_of_pairwise (fun a b _ _ => asymm a b)
      m.increasing n.increasing
  cases m; cases n; cases lists; rfl

end Laws

end SortedMap

end Dialect
