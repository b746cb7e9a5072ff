import Dialect.Proofs.Grammar.Reading

/-!
Runs of any grammar, with comments or without.

`Outcome` is the outcome of a run that has steps enough, and `Passes` what is skipped. A run that
finishes finishes alike with more steps (`run_mono`), so there is only one outcome
(`Outcome.unique`), and in one way only something is skipped (`Passes.unique`).
What holds of every match is shown with `Kept.of_outcome`: it is enough that it holds of the
smallest matches, of one behind another, and of a rule if it holds of the rule's body.
-/

namespace Dialect.Grammar

variable {g : Grammar} {ctx : Context} {at_ : Nat} {cs : List Char}

/-! ### More steps -/

/-- Runs that finish in so many steps finish alike in one more. -/
structure Lasting (g : Grammar) (fuel : Nat) : Prop where
  expr : ∀ {ctx e at_ cs a}, run g fuel ctx e at_ cs = some a →
    run g (fuel + 1) ctx e at_ cs = some a
  between : ∀ {ctx e at_ cs a}, spaced g fuel ctx e at_ cs = some a →
    spaced g (fuel + 1) ctx e at_ cs = some a
  rounds : ∀ {ctx skipping e at_ cs a}, more g fuel ctx skipping e at_ cs = some a →
    more g (fuel + 1) ctx skipping e at_ cs = some a
  blanks : ∀ {ctx at_ cs a}, skip g fuel ctx at_ cs = some a → skip g (fuel + 1) ctx at_ cs = some a
  remarks : ∀ {ctx at_ cs a}, comments g fuel ctx at_ cs = some a →
    comments g (fuel + 1) ctx at_ cs = some a
  rule : ∀ {ctx name at_ cs a}, callRule g fuel ctx name at_ cs = some a →
    callRule g (fuel + 1) ctx name at_ cs = some a

namespace Lasting

variable {fuel : Nat} {a : Attempt}

theorem zero : Lasting g 0 := by
  constructor <;> simp [run, spaced, more, skip, comments, callRule]

theorem expr_succ (now : Lasting g fuel) {e : Expr} (h : run g (fuel + 1) ctx e at_ cs = some a) :
    run g (fuel + 2) ctx e at_ cs = some a := by
  cases e with
  | call name =>
    rw [run] at h ⊢
    exact now.rule h
  | ahead e | notAhead e | opt e =>
    simp only [run] at h ⊢
    split at h
    · cases h
    · next body =>
      rw [now.expr body]
      exact h
  | seq left right =>
    simp only [run] at h ⊢
    split at h
    · cases h
    · next first =>
      rw [now.expr first]
      exact h
    · next first =>
      obtain ⟨b, second, rfl⟩ := Option.map_eq_some_iff.mp h
      simp only [now.expr first, now.between second, Option.map_some]
  | choice left right =>
    simp only [run] at h ⊢
    split at h
    · cases h
    · next first =>
      rw [now.expr first]
      exact h
    · next first =>
      obtain ⟨b, second, rfl⟩ := Option.map_eq_some_iff.mp h
      simp only [now.expr first, now.expr second, Option.map_some]
  | star e =>
    simp only [run] at h ⊢
    split at h
    · cases h
    · next first =>
      rw [now.expr first]
      exact h
    · next first =>
      obtain ⟨b, later, rfl⟩ := Option.map_eq_some_iff.mp h
      simp only [now.expr first, now.rounds later, Option.map_some]
  | finish | literal _ | caseless _ | one _ | start | upTo _ =>
    simp only [run] at h ⊢
    exact h

theorem between_succ (now : Lasting g fuel) {e : Expr}
    (h : spaced g (fuel + 1) ctx e at_ cs = some a) :
    spaced g (fuel + 2) ctx e at_ cs = some a := by
  simp only [spaced] at h ⊢
  split at h
  · cases h
  · next skipped =>
    rw [now.blanks skipped]
    exact h
  · next skipped =>
    obtain ⟨b, body, rfl⟩ := Option.map_eq_some_iff.mp h
    simp only [now.blanks skipped, now.expr body, Option.map_some]

theorem rounds_succ (now : Lasting g fuel) {skipping : Bool} {e : Expr}
    (h : more g (fuel + 1) ctx skipping e at_ cs = some a) :
    more g (fuel + 2) ctx skipping e at_ cs = some a := by
  have round {b : Attempt} (first : (if skipping then spaced g fuel ctx e at_ cs
      else run g fuel ctx e at_ cs) = some b) :
      (if skipping then spaced g (fuel + 1) ctx e at_ cs
        else run g (fuel + 1) ctx e at_ cs) = some b := by
    cases skipping with
    | true => exact now.between first
    | false => exact now.expr first
  rw [more] at h ⊢
  split at h
  · cases h
  · next first =>
    rw [round first]
    exact h
  · next first =>
    obtain ⟨b, later, rfl⟩ := Option.map_eq_some_iff.mp h
    simp only [round first, now.rounds later, Option.map_some]

theorem blanks_succ (now : Lasting g fuel) (h : skip g (fuel + 1) ctx at_ cs = some a) :
    skip g (fuel + 2) ctx at_ cs = some a := by
  rw [skip] at h ⊢
  split at h
  · next mode =>
    rw [if_pos mode]
    split at h
    · exact h
    · exact now.rounds h
    · exact now.rounds h
    · split at h
      · next first =>
        obtain ⟨b, later, rfl⟩ := Option.map_eq_some_iff.mp h
        simp only [now.rounds first, now.remarks later, Option.map_some]
      · rw [now.rounds h]
        split <;> simp_all
  · next mode =>
    rw [if_neg mode]
    exact h

theorem remarks_succ (now : Lasting g fuel) (h : comments g (fuel + 1) ctx at_ cs = some a) :
    comments g (fuel + 2) ctx at_ cs = some a := by
  rw [comments] at h ⊢
  split at h
  · cases h
  · next first =>
    rw [now.rule first]
    exact h
  · next first =>
    rw [now.rule first]
    simp only
    split at h
    · cases h
    · next second =>
      rw [now.rounds second]
      exact h
    · next second =>
      obtain ⟨b, later, rfl⟩ := Option.map_eq_some_iff.mp h
      simp only [now.rounds second, now.remarks later, Option.map_some]

theorem rule_succ (now : Lasting g fuel) {name : String}
    (h : callRule g (fuel + 1) ctx name at_ cs = some a) :
    callRule g (fuel + 2) ctx name at_ cs = some a := by
  simp only [callRule] at h ⊢
  split at h
  · exact h
  · obtain ⟨b, body, rfl⟩ := Option.map_eq_some_iff.mp h
    rw [now.expr body]
    rfl

end Lasting

theorem lasting (g : Grammar) (fuel : Nat) : Lasting g fuel := by
  induction fuel with
  | zero => exact .zero
  | succ fuel now =>
    exact ⟨now.expr_succ, now.between_succ, now.rounds_succ, now.blanks_succ, now.remarks_succ,
      now.rule_succ⟩

section Mono

variable {fuel fuel' : Nat} {a : Attempt} (le : fuel ≤ fuel')

include le

theorem run_mono {e : Expr} (h : run g fuel ctx e at_ cs = some a) :
    run g fuel' ctx e at_ cs = some a := by
  induction le with
  | refl => exact h
  | step _ ih => exact (lasting g _).expr ih

theorem skip_mono (h : skip g fuel ctx at_ cs = some a) : skip g fuel' ctx at_ cs = some a := by
  induction le with
  | refl => exact h
  | step _ ih => exact (lasting g _).blanks ih

end Mono

/-! ### Outcomes without steps -/

/-- A run of the expression that has steps enough ends like this. -/
def Outcome (g : Grammar) (e : Expr) (ctx : Context) (at_ : Nat) (cs : List Char)
    (r : Option Match) : Prop :=
  ∃ fuel a, run g fuel ctx e at_ cs = some a ∧ a.found = r

/-- What is skipped here, by a run that has steps enough. -/
def Passes (g : Grammar) (ctx : Context) (at_ : Nat) (cs : List Char) (m : Match) : Prop :=
  ∃ fuel a, skip g fuel ctx at_ cs = some a ∧ a.found = some m

variable {e : Expr} {m : Match} {r r' : Option Match}

theorem Outcome.unique (h : Outcome g e ctx at_ cs r) (h' : Outcome g e ctx at_ cs r') :
    r = r' := by
  obtain ⟨fuel, a, ran, rfl⟩ := h
  obtain ⟨fuel', a', ran', rfl⟩ := h'
  have same := (run_mono (Nat.le_max_left fuel fuel') ran).symm.trans
    (run_mono (Nat.le_max_right fuel fuel') ran')
  rw [Option.some.inj same]

theorem Passes.unique {m' : Match} (h : Passes g ctx at_ cs m) (h' : Passes g ctx at_ cs m') :
    m = m' := by
  obtain ⟨fuel, a, ran, found⟩ := h
  obtain ⟨fuel', a', ran', found'⟩ := h'
  have same := (skip_mono (Nat.le_max_left fuel fuel') ran).symm.trans
    (skip_mono (Nat.le_max_right fuel fuel') ran')
  obtain rfl := Option.some.inj same
  exact Option.some.inj (found.symm.trans found')

/-! ### What holds of every match -/

/-- A property of matches that holds of the smallest ones, of one behind another, and of a rule if
it holds of its body. -/
structure Kept (g : Grammar) (P : Context → List Char → Match → Prop) : Prop where
  empty : ∀ {ctx cs}, P ctx cs (.empty cs)
  leaf : ∀ {ctx e at_ cs m}, leaf e at_ cs = some m → P ctx cs m
  finish : ∀ {ctx at_}, P ctx [] ((Match.empty []).wrapped ctx "EOI" at_)
  append : ∀ {ctx cs m n}, P ctx cs m → P ctx m.rest n → P ctx cs (m.append n)
  rule : ∀ {ctx name rule at_ cs m}, g.find? name = some rule →
    Outcome g rule.body (surroundings ctx rule).1 at_ cs (some m) →
    P (surroundings ctx rule).1 cs m → P ctx cs (rule.labelled ctx at_ m)

/-- The matches found in at most `fuel` steps have a property. -/
structure KeptFor (g : Grammar) (P : Context → List Char → Match → Prop) (fuel : Nat) : Prop where
  expr : ∀ {ctx e at_ cs a m}, run g fuel ctx e at_ cs = some a → a.found = some m → P ctx cs m
  between : ∀ {ctx e at_ cs a m}, spaced g fuel ctx e at_ cs = some a → a.found = some m →
    P ctx cs m
  rounds : ∀ {ctx skipping e at_ cs a m}, more g fuel ctx skipping e at_ cs = some a →
    a.found = some m → P ctx cs m
  blanks : ∀ {ctx at_ cs a m}, skip g fuel ctx at_ cs = some a → a.found = some m → P ctx cs m
  remarks : ∀ {ctx at_ cs a m}, comments g fuel ctx at_ cs = some a → a.found = some m → P ctx cs m
  rule : ∀ {ctx name at_ cs a m}, callRule g fuel ctx name at_ cs = some a → a.found = some m →
    P ctx cs m

@[simp] theorem Attempt.following_found (m : Match) (a : Attempt) :
    (a.following m).found = a.found.map m.append := rfl

/-- What is found behind a match is kept together with it. -/
theorem Kept.following {P : Context → List Char → Match → Prop} (kept : Kept g P)
    {behind : Option Attempt} {reach : Nat} {a : Attempt} {n : Match}
    (h : behind.map (fun b => (b.following n).reaching reach) = some a) (found : a.found = some m)
    (first : P ctx cs n)
    (later : ∀ {b k}, behind = some b → b.found = some k → P ctx n.rest k) : P ctx cs m := by
  obtain ⟨b, ran, rfl⟩ := Option.map_eq_some_iff.mp h
  obtain ⟨k, foundLater, rfl⟩ := Option.map_eq_some_iff.mp found
  exact kept.append first (later ran foundLater)

namespace KeptFor

variable {P : Context → List Char → Match → Prop} {fuel : Nat} {a : Attempt}

theorem zero : KeptFor g P 0 := by
  constructor <;> simp [run, spaced, more, skip, comments, callRule]

theorem expr_succ (kept : Kept g P) (now : KeptFor g P fuel)
    (h : run g (fuel + 1) ctx e at_ cs = some a) (found : a.found = some m) : P ctx cs m := by
  cases e with
  | call name => exact now.rule (by simpa only [run] using h) found
  | finish =>
    simp only [run, Option.some.injEq] at h
    subst h
    rw [Attempt.ofRule_found] at found
    split at found
    · next ended =>
      obtain rfl := List.isEmpty_iff.mp ended
      obtain rfl := Option.some.inj found
      exact kept.finish
    · cases found
  | ahead e | notAhead e =>
    simp only [run] at h
    split at h
    · cases h
    · obtain rfl := Option.some.inj h
      dsimp only at found
      split at found <;> cases found
      exact kept.empty
  | seq left right =>
    simp only [run] at h
    split at h
    · cases h
    · obtain rfl := Option.some.inj h
      cases found
    · next first => exact kept.following h found (now.expr first rfl) now.between
  | choice left right =>
    simp only [run] at h
    split at h
    · cases h
    · next first =>
      obtain rfl := Option.some.inj h
      exact now.expr first found
    · obtain ⟨b, second, rfl⟩ := Option.map_eq_some_iff.mp h
      exact now.expr second found
  | opt e =>
    simp only [run] at h
    split at h
    · cases h
    · next reach x body =>
      obtain rfl := Option.some.inj h
      obtain rfl := Option.some.inj found
      cases x with
      | none => exact kept.empty
      | some n => exact now.expr body rfl
  | star e =>
    simp only [run] at h
    split at h
    · cases h
    · obtain rfl := Option.some.inj h
      obtain rfl := Option.some.inj found
      exact kept.empty
    · next first => exact kept.following h found (now.expr first rfl) now.rounds
  | literal _ | caseless _ | one _ | start | upTo _ =>
    simp only [run, Option.some.injEq] at h
    subst h
    dsimp only at found
    exact kept.leaf found

theorem between_succ (kept : Kept g P) (now : KeptFor g P fuel)
    (h : spaced g (fuel + 1) ctx e at_ cs = some a) (found : a.found = some m) : P ctx cs m := by
  simp only [spaced] at h
  split at h
  · cases h
  · obtain rfl := Option.some.inj h
    cases found
  · next skipped => exact kept.following h found (now.blanks skipped rfl) now.expr

theorem rounds_succ (kept : Kept g P) (now : KeptFor g P fuel) {skipping : Bool}
    (h : more g (fuel + 1) ctx skipping e at_ cs = some a) (found : a.found = some m) :
    P ctx cs m := by
  have round {b : Attempt} {n : Match} (first : (if skipping then spaced g fuel ctx e at_ cs
      else run g fuel ctx e at_ cs) = some b) (found : b.found = some n) : P ctx cs n := by
    cases skipping with
    | true => exact now.between first found
    | false => exact now.expr first found
  simp only [more] at h
  split at h
  · cases h
  · obtain rfl := Option.some.inj h
    obtain rfl := Option.some.inj found
    exact kept.empty
  · next first => exact kept.following h found (round first rfl) now.rounds

theorem blanks_succ (kept : Kept g P) (now : KeptFor g P fuel)
    (h : skip g (fuel + 1) ctx at_ cs = some a) (found : a.found = some m) : P ctx cs m := by
  rw [skip] at h
  split at h
  · split at h
    · obtain rfl := Option.some.inj h
      obtain rfl := Option.some.inj found
      exact kept.empty
    · exact now.rounds h found
    · exact now.rounds h found
    · split at h
      · next first => exact kept.following h found (now.rounds first rfl) now.remarks
      · exact now.rounds h found
  · obtain rfl := Option.some.inj h
    obtain rfl := Option.some.inj found
    exact kept.empty

theorem remarks_succ (kept : Kept g P) (now : KeptFor g P fuel)
    (h : comments g (fuel + 1) ctx at_ cs = some a) (found : a.found = some m) : P ctx cs m := by
  rw [comments] at h
  split at h
  · cases h
  · obtain rfl := Option.some.inj h
    obtain rfl := Option.some.inj found
    exact kept.empty
  · next first =>
    split at h
    · cases h
    · obtain rfl := Option.some.inj h
      cases found
    · next second =>
      have both := kept.append (now.rule first rfl) (now.rounds second rfl)
      exact kept.following h found both now.remarks

theorem rule_succ (kept : Kept g P) (now : KeptFor g P fuel) {name : String}
    (h : callRule g (fuel + 1) ctx name at_ cs = some a) (found : a.found = some m) :
    P ctx cs m := by
  simp only [callRule] at h
  split at h
  · obtain rfl := Option.some.inj h
    cases found
  · next rule named =>
    obtain ⟨b, body, rfl⟩ := Option.map_eq_some_iff.mp h
    have labelled : ∃ n, b.found = some n ∧ rule.labelled ctx at_ n = m := by
      rw [← find?_name named] at found
      unfold Rule.labelled
      cases node : (surroundings ctx rule).2 with
      | none =>
        rw [node] at found
        exact ⟨m, found, rfl⟩
      | some outer =>
        rw [node, Attempt.ofRule_found] at found
        exact Option.map_eq_some_iff.mp found
    obtain ⟨n, inside, rfl⟩ := labelled
    exact kept.rule named ⟨fuel, b, body, inside⟩ (now.expr body inside)

end KeptFor

namespace Kept

variable {P : Context → List Char → Match → Prop}

theorem keptFor (kept : Kept g P) (fuel : Nat) : KeptFor g P fuel := by
  induction fuel with
  | zero => exact .zero
  | succ fuel now =>
    exact ⟨now.expr_succ kept, now.between_succ kept, now.rounds_succ kept, now.blanks_succ kept,
      now.remarks_succ kept, now.rule_succ kept⟩

theorem of_outcome (kept : Kept g P) (h : Outcome g e ctx at_ cs (some m)) : P ctx cs m := by
  obtain ⟨fuel, a, ran, found⟩ := h
  exact (kept.keptFor fuel).expr ran found

theorem of_passes (kept : Kept g P) (h : Passes g ctx at_ cs m) : P ctx cs m := by
  obtain ⟨fuel, a, ran, found⟩ := h
  exact (kept.keptFor fuel).blanks ran found

end Kept

/-- A match splits the text. -/
theorem kept_split (g : Grammar) : Kept g fun _ cs m => m.taken ++ m.rest = cs where
  empty := rfl
  leaf := leaf_taken_append_rest
  finish := by simp
  append first second := by simp [first, second]
  rule _ _ body := by simpa using body

theorem Outcome.split (h : Outcome g e ctx at_ cs (some m)) : m.taken ++ m.rest = cs :=
  (kept_split g).of_outcome h

theorem Passes.split (h : Passes g ctx at_ cs m) : m.taken ++ m.rest = cs :=
  (kept_split g).of_passes h

end Dialect.Grammar
