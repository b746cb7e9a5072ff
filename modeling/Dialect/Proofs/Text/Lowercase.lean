import Dialect.Text.Lowercase

/-!
Lower case of a text is its own lower case (`lowercase_lowercase`).

The runs of the table lead to code points that are in none of the runs, and neither to the dotted
capital I, which has a rule of its own. The table is checked for this run against run; all else
follows for texts of characters that have no other lower case form.
-/

namespace Dialect.Text

/-! ### Runs and what they lead to -/

namespace CaseRun

variable {r s : CaseRun} {n : Nat}

/-- The code point is one of the run's. -/
def Has (r : CaseRun) (n : Nat) : Prop := r.first ≤ n ∧ n ≤ r.last ∧ (n - r.first) % r.step = 0

/-- The code points that a run leads to. -/
def image (r : CaseRun) : CaseRun :=
  ⟨(r.first + r.shift).toNat, (r.last + r.shift).toNat, r.step, 0⟩

/-- Either run ends before the other starts, or the second goes in steps of two and the first, which
does so too or is a single code point, passes in between. -/
def apart (r s : CaseRun) : Bool :=
  Nat.blt r.last s.first || Nat.blt s.last r.first ||
    ((r.step == 2 || r.first == r.last) && s.step == 2 && r.first % 2 != s.first % 2)

theorem not_has_of_apart (apart : r.apart s = true) (has : r.Has n) : ¬ s.Has n := by
  simp only [CaseRun.apart, Bool.or_eq_true, Bool.and_eq_true, Nat.blt_eq, beq_iff_eq,
    bne_iff_ne] at apart
  obtain ⟨first, last, step⟩ := has
  rintro ⟨first', last', step'⟩
  rcases apart with (before | after) | ⟨⟨two | single, two'⟩, parity⟩
  · omega
  · omega
  · rw [two] at step
    rw [two'] at step'
    omega
  · rw [two'] at step'
    omega

theorem image_has (inside : 0 ≤ r.first + r.shift) (has : r.Has n) :
    r.image.Has (n + r.shift).toNat := by
  obtain ⟨first, last, step⟩ := has
  refine ⟨?_, ?_, ?_⟩
  · simp only [image]
    omega
  · simp only [image]
    omega
  · have same : (n + r.shift).toNat - (r.first + r.shift).toNat = n - r.first := by omega
    simp only [image, same, step]

end CaseRun

/-- The dotted capital I, as a run. -/
def dottedRun : CaseRun := ⟨'İ'.toNat, 'İ'.toNat, 1, 0⟩

theorem images_apart :
    (lowercaseRuns.all fun r => decide (0 ≤ r.first + r.shift) && r.image.apart dottedRun &&
      lowercaseRuns.all r.image.apart) = true := by
  decide +kernel

/-- A code point that is led on belongs to a run. -/
theorem lowercaseShift_cases (runs : List CaseRun) (n : Nat) :
    lowercaseShift runs n = 0 ∨ ∃ r ∈ runs, r.Has n ∧ lowercaseShift runs n = r.shift := by
  induction runs with
  | nil => exact .inl rfl
  | cons r rest ih =>
    unfold lowercaseShift
    split
    · exact .inl rfl
    · next first =>
      split
      · next last =>
        split
        · next step => exact .inr ⟨r, by simp, ⟨Nat.not_lt.mp first, last, step⟩, rfl⟩
        · exact .inl rfl
      · rcases ih with still | ⟨r, mem, found⟩
        · exact .inl still
        · exact .inr ⟨r, by simp [mem], found⟩

/-! ### Settled characters -/

/-- A code point that is in no run and has no rule of its own. -/
structure SettledCode (n : Nat) : Prop where
  still : lowercaseShift lowercaseRuns n = 0
  undotted : n ≠ 'İ'.toNat

/-- Lower case leaves the character alone, whatever its neighbours are. -/
def Settled (c : Char) : Prop := SettledCode c.toNat

theorem settledCode_shifted (n : Nat) (undotted : n ≠ 'İ'.toNat) :
    SettledCode (n + lowercaseShift lowercaseRuns n).toNat := by
  rcases lowercaseShift_cases lowercaseRuns n with still | ⟨r, mem, has, led⟩
  · rw [still, Int.add_zero, Int.toNat_natCast]
    exact ⟨still, undotted⟩
  · have checked := List.all_eq_true.mp images_apart r mem
    simp only [Bool.and_eq_true, decide_eq_true_eq, List.all_eq_true] at checked
    obtain ⟨⟨inside, undotted⟩, apart⟩ := checked
    have has := CaseRun.image_has inside has
    rw [led]
    constructor
    case still =>
      rcases lowercaseShift_cases lowercaseRuns (n + r.shift).toNat with still | ⟨s, mem, has', -⟩
      · exact still
      · exact absurd has' (CaseRun.not_has_of_apart (apart s mem) has)
    case undotted =>
      intro dotted
      refine CaseRun.not_has_of_apart undotted has ?_
      simp [CaseRun.Has, dotted, dottedRun]

theorem settled_ofNat {n : Nat} (settled : SettledCode n) : Settled (Char.ofNat n) := by
  by_cases valid : n.isValidChar
  · have same : (Char.ofNat n).toNat = n := by
      rw [Char.ofNat, dif_pos valid]
      rfl
    rwa [Settled, same]
  · -- What is no character stands for the character zero.
    have same : Char.ofNat n = Char.ofNat 0 := by
      rw [Char.ofNat, dif_neg valid]
      rfl
    rw [same]
    exact ⟨by decide +kernel, by decide⟩

theorem Settled.ne_sigma {c : Char} (settled : Settled c) : c ≠ 'Σ' := by
  rintro rfl
  exact absurd settled.still (by decide +kernel)

theorem Settled.lowerChar {c : Char} (settled : Settled c) : lowerChar c = [c] := by
  rw [Text.lowerChar, if_neg fun same => settled.undotted (congrArg Char.toNat same),
    settled.still, Int.add_zero, Int.toNat_natCast, Char.ofNat_toNat]

theorem settled_lowerChar (c : Char) : ∀ d ∈ lowerChar c, Settled d := by
  rw [lowerChar]
  split
  · intro d mem
    simp only [List.mem_cons, List.not_mem_nil, or_false] at mem
    rcases mem with rfl | rfl <;> exact ⟨by decide +kernel, by decide⟩
  · next undotted =>
    intro d mem
    rw [List.mem_singleton.mp mem]
    exact settled_ofNat (settledCode_shifted _ fun same => undotted (Char.toNat_inj.mp same))

/-! ### Settled texts -/

theorem settled_lowerAfter (before cs : List Char) : ∀ d ∈ lowerAfter before cs, Settled d := by
  induction cs generalizing before with
  | nil => simp [lowerAfter]
  | cons c rest ih =>
    intro d mem
    rw [lowerAfter] at mem
    rcases List.mem_append.mp mem with here | later
    · split at here
      · -- Both forms of a small sigma are settled.
        split at here <;> rw [List.mem_singleton.mp here] <;> exact ⟨by decide +kernel, by decide⟩
      · exact settled_lowerChar c d here
    · exact ih _ d later

theorem lowerAfter_settled {before cs : List Char} (settled : ∀ c ∈ cs, Settled c) :
    lowerAfter before cs = cs := by
  induction cs generalizing before with
  | nil => rfl
  | cons c rest ih =>
    have here := settled c (by simp)
    rw [lowerAfter, if_neg here.ne_sigma, here.lowerChar, ih fun d mem => settled d (by simp [mem])]
    rfl

theorem lowercase_lowercase (text : String) : lowercase (lowercase text) = lowercase text := by
  rw [lowercase, lowercase, String.toList_ofList, lowerAfter_settled (settled_lowerAfter [] _)]

end Dialect.Text
