import Dialect.Path.Basic

/-!
The closure of requirements.

The way to a value that is read goes along the beginnings of its path, so these are wanted too when
a record is searched. The closure adds them and nothing else: of the sets that have the required
paths and the non-empty beginnings of all their paths, it is the least (`prefixClosure_least`); the
path of the record itself does not count. Main statement: `prefixClosure_exact`.
-/

namespace Dialect

variable {required more wanted : Requirements} {p q : FieldPath}

/-- With a path, the set has all its beginnings, the record itself apart. -/
def PrefixClosed (wanted : Requirements) : Prop :=
  ∀ p ∈ wanted, ∀ q : FieldPath, q ≠ .root → q.segments <+: p.segments → q ∈ wanted

theorem FieldPath.ne_root_iff : p ≠ .root ↔ p.segments ≠ [] := by
  obtain ⟨segments⟩ := p
  simp [root]

theorem mem_prefixClosure_iff :
    p ∈ prefixClosure required ↔ p ≠ .root ∧ ∃ q ∈ required, p.segments <+: q.segments := by
  rw [mem_prefixClosure, FieldPath.ne_root_iff]

theorem mem_prefixClosure_of_mem (needed : p ∈ required) (proper : p ≠ .root) :
    p ∈ prefixClosure required :=
  mem_prefixClosure_iff.mpr ⟨proper, p, needed, List.prefix_refl _⟩

theorem prefixClosed_prefixClosure (required : Requirements) :
    PrefixClosed (prefixClosure required) := by
  intro p mem q proper pre
  obtain ⟨-, r, needed, pre'⟩ := mem_prefixClosure_iff.mp mem
  exact mem_prefixClosure_iff.mpr ⟨proper, r, needed, pre.trans pre'⟩

/-- The closure is in every prefix-closed set that the required paths are in. -/
theorem prefixClosure_least (closed : PrefixClosed wanted)
    (sub : ∀ p ∈ required, p ≠ .root → p ∈ wanted) : ∀ p ∈ prefixClosure required, p ∈ wanted := by
  intro p mem
  obtain ⟨proper, q, needed, pre⟩ := mem_prefixClosure_iff.mp mem
  have unrooted : q ≠ .root := by
    rintro rfl
    exact FieldPath.ne_root_iff.mp proper (List.prefix_nil.mp pre)
  exact closed q (sub q needed unrooted) p proper pre

theorem prefixClosure_mono (sub : ∀ p ∈ required, p ∈ more) :
    ∀ p ∈ prefixClosure required, p ∈ prefixClosure more :=
  prefixClosure_least (prefixClosed_prefixClosure more) fun p needed proper =>
    mem_prefixClosure_of_mem (sub p needed) proper

theorem prefixClosure_prefixClosure (required : Requirements) :
    prefixClosure (prefixClosure required) = prefixClosure required := by
  apply SortedSet.ext
  intro p
  constructor
  · exact prefixClosure_least (prefixClosed_prefixClosure required) (fun q mem _ => mem) p
  · intro mem
    exact mem_prefixClosure_of_mem mem (mem_prefixClosure_iff.mp mem).1

theorem prefixClosure_union (required more : Requirements) :
    prefixClosure (required ∪ more) = prefixClosure required ∪ prefixClosure more := by
  apply SortedSet.ext
  intro p
  simp only [SortedSet.mem_union, mem_prefixClosure_iff, or_and_right, exists_or, and_or_left]

/-- The closure of requirements has the laws of a closure. For all sets of paths:

* it has the non-empty beginnings of required paths and nothing else;
* closing it again adds nothing;
* more requirements have a larger closure, and the closure of two sets together has what the closure
  of either has;
* it has every required path but the record itself, and with a path all its non-empty beginnings;
  it is the least set that has both. -/
theorem prefixClosure_exact (required more : Requirements) :
    (∀ p, p ∈ prefixClosure required ↔
      p ≠ .root ∧ ∃ q ∈ required, p.segments <+: q.segments) ∧
    prefixClosure (prefixClosure required) = prefixClosure required ∧
    ((∀ p ∈ required, p ∈ more) → ∀ p ∈ prefixClosure required, p ∈ prefixClosure more) ∧
    prefixClosure (required ∪ more) = prefixClosure required ∪ prefixClosure more ∧
    (∀ p ∈ required, p ≠ .root → p ∈ prefixClosure required) ∧
    PrefixClosed (prefixClosure required) ∧
    ∀ wanted, PrefixClosed wanted → (∀ p ∈ required, p ≠ .root → p ∈ wanted) →
      ∀ p ∈ prefixClosure required, p ∈ wanted :=
  ⟨fun _ => mem_prefixClosure_iff, prefixClosure_prefixClosure required, prefixClosure_mono,
    prefixClosure_union required more, fun _ => mem_prefixClosure_of_mem,
    prefixClosed_prefixClosure required, fun _ => prefixClosure_least⟩

/-- Two paths with a common beginning, and the record itself. -/
def forked : Requirements := .ofList [.root, ⟨["a", "b", "c"]⟩, ⟨["a", "d"]⟩]

theorem prefixClosure_exact_forked :
    FieldPath.root ∉ prefixClosure forked ∧ ⟨["a", "d"]⟩ ∈ prefixClosure forked ∧
      ⟨["a", "b"]⟩ ∈ prefixClosure forked ∧
      (∀ p ∈ prefixClosure (.single ⟨["a", "d"]⟩), p ∈ prefixClosure forked) ∧
      ∀ p ∈ prefixClosure (.single ⟨["a", "b"]⟩), p ∈ prefixClosure forked := by
  have long : ⟨["a", "b", "c"]⟩ ∈ forked := SortedSet.mem_ofList.mpr (by simp)
  have side : ⟨["a", "d"]⟩ ∈ forked := SortedSet.mem_ofList.mpr (by simp)
  obtain ⟨exact_, -, -, -, has, closed, -⟩ := prefixClosure_exact forked ∅
  have between := closed _ (has _ long (by decide)) ⟨["a", "b"]⟩ (by decide) (by decide)
  obtain ⟨-, -, larger, -⟩ := prefixClosure_exact (.single ⟨["a", "d"]⟩) forked
  obtain ⟨-, -, -, -, -, -, least⟩ := prefixClosure_exact (.single ⟨["a", "b"]⟩) ∅
  refine ⟨fun mem => ((exact_ _).mp mem).1 rfl, has _ side (by decide), between, larger ?_,
    least _ closed ?_⟩
  · intro p mem
    exact SortedSet.mem_single.mp mem ▸ side
  · intro p mem _
    exact SortedSet.mem_single.mp mem ▸ between

end Dialect
