import Mathlib.Data.List.Forall2
import Dialect.Diagnostic

/-!
Computations that may fail, one after another.

Main statements: `mapM_eq_ok` (a list of computations succeeds exactly when each does) and
`mapM_eq_error` (its error is that of the first that fails). `Similar` relates computations that
succeed and fail together.
-/

namespace Dialect

variable {α β ε : Type}

theorem bind_eq_ok {x : Except ε α} {f : α → Except ε β} {b : β} :
    (x >>= f) = .ok b ↔ ∃ a, x = .ok a ∧ f a = .ok b := by
  cases x with
  | error e => simp [bind, Except.bind]
  | ok a => simp [bind, Except.bind]

theorem bind_eq_error {x : Except ε α} {f : α → Except ε β} {e : ε} :
    (x >>= f) = .error e ↔ x = .error e ∨ ∃ a, x = .ok a ∧ f a = .error e := by
  cases x with
  | error d => simp [bind, Except.bind]
  | ok a => simp [bind, Except.bind]

theorem map_eq_ok {x : Except ε α} {f : α → β} {b : β} :
    x.map f = .ok b ↔ ∃ a, x = .ok a ∧ f a = b := by
  cases x with
  | error e => simp [Except.map]
  | ok a => simp [Except.map]

theorem map_eq_error {x : Except ε α} {f : α → β} {e : ε} :
    x.map f = .error e ↔ x = .error e := by
  cases x with
  | error d => simp [Except.map]
  | ok a => simp [Except.map]

/-- A list of computations succeeds exactly when each does, with the list of their results. -/
theorem mapM_eq_ok {f : α → Except ε β} {l : List α} {bs : List β} :
    l.mapM f = .ok bs ↔ List.Forall₂ (fun a b => f a = .ok b) l bs := by
  induction l generalizing bs with
  | nil =>
    rw [List.mapM_nil, List.forall₂_nil_left_iff]
    constructor
    · intro h
      cases h
      rfl
    · intro h
      rw [h]
      rfl
  | cons a rest ih =>
    rw [List.mapM_cons, bind_eq_ok, List.forall₂_cons_left_iff]
    constructor
    · rintro ⟨b, first, h⟩
      obtain ⟨cs, later, h⟩ := bind_eq_ok.mp h
      cases h
      exact ⟨b, cs, first, ih.mp later, rfl⟩
    · rintro ⟨b, cs, first, later, rfl⟩
      exact ⟨b, first, bind_eq_ok.mpr ⟨cs, ih.mpr later, rfl⟩⟩

/-- The error of a list of computations is that of the first which fails. -/
theorem mapM_eq_error {f : α → Except ε β} {l : List α} {e : ε} :
    l.mapM f = .error e ↔
      ∃ before a after, l = before ++ a :: after ∧ (∀ x ∈ before, ∃ b, f x = .ok b) ∧
        f a = .error e := by
  induction l with
  | nil =>
    rw [List.mapM_nil]
    constructor
    · intro h
      cases h
    · rintro ⟨before, a, after, h, -⟩
      simp at h
  | cons x rest ih =>
    rw [List.mapM_cons, bind_eq_error]
    constructor
    · rintro (fails | ⟨b, first, h⟩)
      · exact ⟨[], x, rest, rfl, by simp, fails⟩
      · rcases bind_eq_error.mp h with later | ⟨cs, -, h⟩
        · obtain ⟨before, a, after, split, good, fails⟩ := ih.mp later
          refine ⟨x :: before, a, after, by rw [split, List.cons_append], ?_, fails⟩
          intro y mem
          rcases List.mem_cons.mp mem with rfl | mem
          · exact ⟨b, first⟩
          · exact good y mem
        · cases h
    · rintro ⟨before, a, after, split, good, fails⟩
      cases before with
      | nil =>
        obtain ⟨rfl, rfl⟩ := List.cons.inj split
        exact .inl fails
      | cons y before =>
        obtain ⟨rfl, rfl⟩ := List.cons.inj split
        obtain ⟨b, first⟩ := good x List.mem_cons_self
        refine .inr ⟨b, first, bind_eq_error.mpr (.inl (ih.mpr ?_))⟩
        exact ⟨before, a, after, rfl, fun z mem => good z (List.mem_cons_of_mem _ mem), fails⟩

/-- Computations that do the same at the places of two lists do the same on the lists. -/
theorem mapM_congr {γ : Type} {f : α → Except ε β} {g : γ → Except ε β} {l : List α} {m : List γ}
    (same : List.Forall₂ (fun a c => f a = g c) l m) : l.mapM f = m.mapM g := by
  induction same with
  | nil => rfl
  | cons here _ ih => rw [List.mapM_cons, List.mapM_cons, here, ih]

/-- One computation made again for each place of a list, if the list has places or the computation
succeeds. -/
theorem mapM_const {x : Except ε β} {l : List α} (known : l ≠ [] ∨ ∃ b, x = .ok b) :
    l.mapM (fun _ => x) = x.map (List.replicate l.length) := by
  cases x with
  | ok b =>
    refine mapM_eq_ok.mpr (List.forall₂_iff_get.mpr ⟨by simp, ?_⟩)
    intro i _ _
    simp
  | error e =>
    have places : l ≠ [] := known.resolve_right nofun
    obtain ⟨a, rest, rfl⟩ := List.exists_cons_of_ne_nil places
    exact mapM_eq_error.mpr ⟨[], a, rest, rfl, by simp, rfl⟩

/-- A sequence of reported computations succeeds if both parts do. -/
theorem result_bind_eq_ok {x : Reported α} {f : α → Reported β} {b : β} :
    (x >>= f).result = .ok b ↔ ∃ a, x.result = .ok a ∧ (f a).result = .ok b := by
  cases h : x.result with
  | error e => simp [Reported.bind_error h]
  | ok a => simp [Reported.bind_ok h]

/-! ### Computations that succeed and fail together -/

/-- Either both computations fail, or both succeed with related results. -/
inductive Similar (R : α → β → Prop) : Except ε α → Except ε β → Prop where
  | ok {a : α} {b : β} (related : R a b) : Similar R (.ok a) (.ok b)
  | error {d e : ε} : Similar R (.error d) (.error e)

namespace Similar

variable {γ δ : Type} {R : α → β → Prop} {S : γ → δ → Prop}

theorem of_eq {x y : Except ε α} (same : x = y) : Similar Eq x y := by
  subst same
  cases x with
  | error e => exact .error
  | ok a => exact .ok rfl

theorem eq_ok_iff {x y : Except ε α} {a : α} (similar : Similar Eq x y) :
    x = .ok a ↔ y = .ok a := by
  cases similar with
  | error => simp
  | ok same => rw [same]

theorem bind {x : Except ε α} {y : Except ε β} {f : α → Except ε γ} {h : β → Except ε δ}
    (first : Similar R x y) (later : ∀ a b, R a b → Similar S (f a) (h b)) :
    Similar S (x >>= f) (y >>= h) := by
  cases first with
  | error => exact .error
  | ok related => exact later _ _ related

theorem map {x : Except ε α} {y : Except ε β} {f : α → γ} {h : β → δ} (first : Similar R x y)
    (later : ∀ a b, R a b → S (f a) (h b)) : Similar S (x.map f) (y.map h) := by
  cases first with
  | error => exact .error
  | ok related => exact .ok (later _ _ related)

end Similar

end Dialect
