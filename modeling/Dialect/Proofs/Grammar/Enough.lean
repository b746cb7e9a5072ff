import Dialect.Proofs.Grammar.Reading

/-!
Runs have steps enough.

A run goes deeper in two ways: by moving forward in the text, and by calling rules before it has
moved. A `Ranking` bounds the second way: it lists the rules from the bottom up, so that a rule that
has not taken a character yet calls only rules before it, and it names rules that always take one.
Whether a ranking fits a grammar can be computed. With a ranking that fits, a run at `fuelFor` steps
finishes (`attempt_reads`), so the grammar reads every text (`exists_reads`).
-/

namespace Dialect.Grammar

/-- The rules from the bottom up, and rules that take a character whenever they match. -/
structure Ranking where
  order : List String
  movers : List String

namespace Ranking

variable (k : Ranking)

/-- The expression takes a character whenever it matches. -/
def moves : Expr → Bool
  | .literal text | .caseless text => !text.isEmpty
  | .one _ => true
  | .call name => k.movers.contains name
  | .seq a b => moves a || moves b
  | .choice a b => moves a && moves b
  | _ => false

/-- Before it has taken a character, the expression calls only the first `bound` rules, and its
repetitions move. -/
def descends : (bound : Nat) → Expr → Bool
  | bound, .call name => k.order.idxOf name < bound
  | bound, .seq a b =>
    0 < bound && descends bound a
      && (if k.moves a then descends k.order.length b else descends bound b)
  | bound, .choice a b => descends bound a && descends bound b
  | bound, .star e => 0 < bound && k.moves e && descends bound e
  | bound, .ahead e | bound, .notAhead e | bound, .opt e => descends bound e
  | _, _ => true

/-- The steps that one level of calls may take. -/
def stride (g : Grammar) : Nat := 2 * g.weight + 4

/-- The ranking is right about the grammar, which is small enough for its weight and has no rule
`COMMENT`; what is skipped calls nothing. -/
structure Fits (g : Grammar) : Prop where
  descends : ∀ r ∈ g.rules, k.descends (k.order.idxOf r.name) r.body = true
  moves : ∀ r ∈ g.rules, k.movers.contains r.name = true → k.moves r.body = true
  noComment : g.defines "COMMENT" = false
  skipFirst : k.order.idxOf "WHITESPACE" = 0
  skipMoves : k.movers.contains "WHITESPACE" = true
  nonempty : 0 < k.order.length
  roomy : k.order.length * stride g + 2 * g.weight + 8 ≤ g.weight * g.weight

instance (g : Grammar) : Decidable (k.Fits g) :=
  decidable_of_iff
    ((∀ r ∈ g.rules, k.descends (k.order.idxOf r.name) r.body = true) ∧
      (∀ r ∈ g.rules, k.movers.contains r.name = true → k.moves r.body = true) ∧
      g.defines "COMMENT" = false ∧ k.order.idxOf "WHITESPACE" = 0 ∧
      k.movers.contains "WHITESPACE" = true ∧ 0 < k.order.length ∧
      k.order.length * stride g + 2 * g.weight + 8 ≤ g.weight * g.weight)
    ⟨fun ⟨h₁, h₂, h₃, h₄, h₅, h₆, h₇⟩ => ⟨h₁, h₂, h₃, h₄, h₅, h₆, h₇⟩,
      fun ⟨h₁, h₂, h₃, h₄, h₅, h₆, h₇⟩ => ⟨h₁, h₂, h₃, h₄, h₅, h₆, h₇⟩⟩

/-- Steps enough for an expression of a size at a text of a length, under the first `bound`
rules. -/
def steps (g : Grammar) (length bound size : Nat) : Nat :=
  length * (g.weight * g.weight) + bound * stride g + 2 * size

end Ranking

variable {g : Grammar} {k : Ranking}

/-! ### The rules of a grammar -/

theorem Expr.size_pos (e : Expr) : 0 < e.size := by
  cases e <;> simp [Expr.size]

theorem weight_foldl (rules : List Rule) (n : Nat) :
    n ≤ rules.foldl (fun n r => n + r.body.size + 4) n ∧
      ∀ r ∈ rules, r.body.size ≤ rules.foldl (fun n r => n + r.body.size + 4) n := by
  induction rules generalizing n with
  | nil => simp
  | cons r rules ih =>
      obtain ⟨grows, each⟩ := ih (n + r.body.size + 4)
      simp only [List.foldl_cons, List.mem_cons, forall_eq_or_imp]
      exact ⟨by omega, by omega, each⟩

theorem size_le_weight {rule : Rule} (mem : rule ∈ g.rules) : rule.body.size ≤ g.weight :=
  (weight_foldl g.rules 8).2 rule mem

theorem size_call_le_weight (g : Grammar) (name : String) : (Expr.call name).size ≤ g.weight :=
  Nat.le_trans (by simp [Expr.size]) (weight_foldl g.rules 8).1

/-! ### Moving forward -/

/-- The task takes a character whenever it matches. -/
def Task.moves (k : Ranking) : Task → Bool
  | .expr e | .spaced e => k.moves e
  | .more _ _ | .skip => false

theorem leaf_taken_ne_nil {e : Expr} {at_ : Nat} {cs : List Char} {m : Match}
    (moves : k.moves e = true) (h : leaf e at_ cs = some m) : m.taken ≠ [] := by
  cases leafMatch_of_leaf h with
  | literal => simpa [Ranking.moves] using moves
  | caseless letters =>
      dsimp only
      rintro rfl
      cases letters
      simp [Ranking.moves] at moves
  | one _ => simp
  | start | upTo => simp [Ranking.moves] at moves

/-- A match of a moving task has taken a character. -/
theorem Reads.taken_ne_nil (fits : k.Fits g) {task : Task} {ctx : Context} {at_ : Nat}
    {cs : List Char} {r : Option Match} {m : Match} (h : Reads g task ctx at_ cs r)
    (moves : task.moves k = true) (matched : r = some m) : m.taken ≠ [] := by
  induction h generalizing m with
  | leaf _ => exact leaf_taken_ne_nil moves matched
  | call found _ ih =>
      obtain ⟨n, rfl, rfl⟩ := Option.map_eq_some_iff.mp matched
      rw [Rule.labelled_taken]
      refine ih (fits.moves _ (find?_mem found) ?_) rfl
      rw [find?_name found]
      exact moves
  | missing _ | seqFails _ _ => cases matched
  | finish | ahead _ _ | notAhead _ _ | opt _ _ | starDone _ _ | star _ _ _ _ | moreDone _ _
  | more _ _ _ _ | noSkip _ | skip _ _ _ _ => simp [Task.moves, Ranking.moves] at moves
  | seq _ _ ihLeft ihRight =>
      obtain ⟨n, rfl, rfl⟩ := Option.map_eq_some_iff.mp matched
      rw [Match.append_taken, ne_eq, List.append_eq_nil_iff, not_and_or]
      simp only [Task.moves, Ranking.moves, Bool.or_eq_true] at moves
      exact moves.imp (fun left => ihLeft left rfl) (fun right => ihRight right rfl)
  | choiceLeft _ ih =>
      simp only [Task.moves, Ranking.moves, Bool.and_eq_true] at moves
      exact ih moves.1 matched
  | choiceRight _ _ _ ih =>
      simp only [Task.moves, Ranking.moves, Bool.and_eq_true] at moves
      exact ih moves.2 matched
  | spaced _ _ _ ih =>
      obtain ⟨n, rfl, rfl⟩ := Option.map_eq_some_iff.mp matched
      rw [Match.append_taken, ne_eq, List.append_eq_nil_iff, not_and_or]
      exact .inr (ih moves rfl)

theorem Reads.rest_length_le {task : Task} {ctx : Context} {at_ : Nat} {cs : List Char} {m : Match}
    (h : Reads g task ctx at_ cs (some m)) : m.rest.length ≤ cs.length := by
  rw [← h.taken_append_rest rfl, List.length_append]
  omega

theorem Reads.rest_length_lt (fits : k.Fits g) {task : Task} {ctx : Context} {at_ : Nat}
    {cs : List Char} {m : Match} (h : Reads g task ctx at_ cs (some m))
    (moves : task.moves k = true) : m.rest.length < cs.length := by
  have some := List.length_pos_iff.mpr (h.taken_ne_nil fits moves rfl)
  rw [← h.taken_append_rest rfl, List.length_append]
  omega

/-! ### Counting the steps -/

/-- One character less leaves over a square of the weight. -/
theorem square_le_of_lt (g : Grammar) {rest length : Nat} (lt : rest < length) :
    rest * (g.weight * g.weight) + g.weight * g.weight ≤ length * (g.weight * g.weight) := by
  rw [← Nat.succ_mul]
  exact Nat.mul_le_mul_right _ lt

/-- One character less makes room for any expression of the grammar. -/
theorem steps_forward (fits : k.Fits g) {rest length size : Nat} (bound : Nat)
    (lt : rest < length) (small : size ≤ g.weight) :
    Ranking.steps g rest k.order.length size + 8 ≤ Ranking.steps g length bound 0 := by
  have roomy := fits.roomy
  have forward := square_le_of_lt g lt
  unfold Ranking.steps
  omega

/-- One character less makes room for another round. -/
theorem steps_less (fits : k.Fits g) {rest length : Nat} (bound size : Nat) (lt : rest < length) :
    Ranking.steps g rest bound size + 8 ≤ Ranking.steps g length bound size := by
  have roomy := fits.roomy
  have forward := square_le_of_lt g lt
  unfold Ranking.steps
  omega

theorem steps_mono {rest length : Nat} (bound size : Nat) (le : rest ≤ length) :
    Ranking.steps g rest bound size ≤ Ranking.steps g length bound size := by
  have : rest * (g.weight * g.weight) ≤ length * (g.weight * g.weight) :=
    Nat.mul_le_mul_right _ le
  unfold Ranking.steps
  omega

/-- One rule less makes room for its body. -/
theorem steps_down {rank bound size : Nat} (length : Nat) (lt : rank < bound)
    (small : size ≤ g.weight) :
    Ranking.steps g length rank size + 4 ≤ Ranking.steps g length bound 0 := by
  have down : (rank + 1) * Ranking.stride g ≤ bound * Ranking.stride g :=
    Nat.mul_le_mul_right _ lt
  rw [Nat.add_mul, Nat.one_mul] at down
  unfold Ranking.stride at down
  unfold Ranking.steps Ranking.stride
  omega

/-- Runs of at most `fuel` steps finish if these are enough. What is skipped stands on the lowest
level, so skipping takes fewer steps than what comes after it. -/
structure Finishes (k : Ranking) (g : Grammar) (fuel : Nat) : Prop where
  expr : ∀ {ctx e at_ cs bound}, k.descends bound e = true → e.size ≤ g.weight →
    Ranking.steps g cs.length bound e.size ≤ fuel → (run g fuel ctx e at_ cs).isSome = true
  between : ∀ {ctx e at_ cs bound}, k.descends bound e = true → e.size ≤ g.weight →
    Ranking.steps g cs.length bound e.size + 1 ≤ fuel → Ranking.steps g cs.length 1 2 + 1 ≤ fuel →
    (spaced g fuel ctx e at_ cs).isSome = true
  rounds : ∀ {ctx skipping e at_ cs bound}, k.descends bound e = true → k.moves e = true →
    0 < bound → e.size ≤ g.weight →
    Ranking.steps g cs.length bound e.size + (if skipping then 4 else 1) ≤ fuel →
    (more g fuel ctx skipping e at_ cs).isSome = true
  blanks : ∀ {ctx at_ cs}, Ranking.steps g cs.length 1 2 ≤ fuel →
    (skip g fuel ctx at_ cs).isSome = true
  rule : ∀ {ctx name at_ cs bound}, k.order.idxOf name < bound →
    Ranking.steps g cs.length bound 1 ≤ fuel + 1 → (callRule g fuel ctx name at_ cs).isSome = true

namespace Finishes

variable {fuel bound : Nat} {ctx : Context} {at_ : Nat} {cs : List Char}

theorem zero : Finishes k g 0 where
  expr {_ e} _ _ _ _ _ enough := by
    have := e.size_pos
    unfold Ranking.steps at enough
    omega
  between _ _ enough _ := by omega
  rounds _ _ _ _ enough := by
    split at enough <;> omega
  blanks enough := by
    unfold Ranking.steps at enough
    omega
  rule {_ _ _ cs _} lt enough := by
    have := steps_down (g := g) cs.length lt (Nat.zero_le _)
    unfold Ranking.steps at this enough
    omega

/-- Behind what its left side has taken, a sequence has steps enough for its right side. -/
theorem seq (now : Finishes k g fuel) (fits : k.Fits g) {left right : Expr}
    (low : k.descends bound (.seq left right) = true)
    (small : (Expr.seq left right).size ≤ g.weight)
    (enough : Ranking.steps g cs.length bound (Expr.seq left right).size ≤ fuel + 1) :
    (run g (fuel + 1) ctx (.seq left right) at_ cs).isSome = true := by
  simp only [Expr.size] at small enough
  simp only [Ranking.descends, Bool.and_eq_true, decide_eq_true_eq] at low
  obtain ⟨⟨positive, lowLeft⟩, lowRight⟩ := low
  have leftPos := left.size_pos
  have rightPos := right.size_pos
  have room := Nat.mul_le_mul_right (Ranking.stride g) positive
  have first : (run g fuel ctx left at_ cs).isSome = true :=
    now.expr lowLeft (by omega) (by unfold Ranking.steps at enough ⊢; omega)
  obtain ⟨⟨reach, found⟩, ran⟩ := Option.isSome_iff_exists.mp first
  cases found with
  | none => simp [run, ran]
  | some m =>
      have readLeft := (faithful fits.noComment fuel).expr ran
      have second :
          (spaced g fuel ctx right (at_ + Text.byteSize m.taken) m.rest).isSome = true := by
        cases moves : k.moves left with
        | true =>
            simp only [moves, if_true] at lowRight
            have lt := readLeft.rest_length_lt fits moves
            have small' : right.size ≤ g.weight := by omega
            have forward := steps_forward fits bound lt small'
            have skipForward := steps_forward fits bound lt (Nat.zero_le g.weight)
            have top := Nat.mul_le_mul_right (Ranking.stride g) fits.nonempty
            refine now.between lowRight (by omega) ?_ ?_
            · unfold Ranking.steps at forward enough ⊢
              omega
            · unfold Ranking.steps at skipForward enough ⊢
              omega
        | false =>
            simp only [moves, Bool.false_eq_true, if_false] at lowRight
            have le := readLeft.rest_length_le
            have rest := steps_mono (g := g) bound right.size le
            have skipRest := steps_mono (g := g) 1 2 le
            refine now.between lowRight (by omega) ?_ ?_
            · unfold Ranking.steps at rest enough ⊢
              omega
            · unfold Ranking.steps at skipRest enough ⊢
              omega
      simpa [run, ran] using second

/-- A repetition moves, so each round leaves steps enough for the next. -/
theorem star (now : Finishes k g fuel) (fits : k.Fits g) {e : Expr}
    (low : k.descends bound (.star e) = true) (small : (Expr.star e).size ≤ g.weight)
    (enough : Ranking.steps g cs.length bound (Expr.star e).size ≤ fuel + 1) :
    (run g (fuel + 1) ctx (.star e) at_ cs).isSome = true := by
  simp only [Expr.size] at small enough
  simp only [Ranking.descends, Bool.and_eq_true, decide_eq_true_eq] at low
  obtain ⟨⟨positive, moves⟩, lowBody⟩ := low
  have first : (run g fuel ctx e at_ cs).isSome = true :=
    now.expr lowBody (by omega) (by unfold Ranking.steps at enough ⊢; omega)
  obtain ⟨⟨reach, found⟩, ran⟩ := Option.isSome_iff_exists.mp first
  cases found with
  | none => simp [run, ran]
  | some m =>
      have lt := ((faithful fits.noComment fuel).expr ran).rest_length_lt fits moves
      have less := steps_less fits bound e.size lt
      have later : (more g fuel ctx true e (at_ + Text.byteSize m.taken) m.rest).isSome = true := by
        refine now.rounds lowBody moves positive (by omega) ?_
        unfold Ranking.steps at less enough ⊢
        simp only [if_true]
        omega
      simpa [run, ran] using later

theorem expr_succ (now : Finishes k g fuel) (fits : k.Fits g) {e : Expr}
    (low : k.descends bound e = true) (small : e.size ≤ g.weight)
    (enough : Ranking.steps g cs.length bound e.size ≤ fuel + 1) :
    (run g (fuel + 1) ctx e at_ cs).isSome = true := by
  -- the parts of an expression are smaller
  have part (ctx : Context) (part : Expr) (low : k.descends bound part = true)
      (smaller : part.size < e.size) : ∃ b, run g fuel ctx part at_ cs = some b := by
    refine Option.isSome_iff_exists.mp (now.expr low (by omega) ?_)
    unfold Ranking.steps at enough ⊢
    omega
  cases e with
  | call name =>
      simp only [run]
      exact now.rule (by simpa [Ranking.descends] using low) enough
  | seq left right => exact now.seq fits low small enough
  | star e => exact now.star fits low small enough
  | ahead e =>
      obtain ⟨b, ran⟩ :=
        part { ctx with look := ctx.look.ahead } e low (by simp only [Expr.size]; omega)
      simp [run, ran]
  | notAhead e =>
      obtain ⟨b, ran⟩ :=
        part { ctx with look := ctx.look.notAhead } e low (by simp only [Expr.size]; omega)
      simp [run, ran]
  | opt e =>
      obtain ⟨b, ran⟩ := part ctx e low (by simp only [Expr.size]; omega)
      simp [run, ran]
  | choice left right =>
      simp only [Ranking.descends, Bool.and_eq_true] at low
      obtain ⟨⟨reach, found⟩, ran⟩ := part ctx left low.1 (by simp only [Expr.size]; omega)
      obtain ⟨b, ran'⟩ := part ctx right low.2 (by simp only [Expr.size]; omega)
      cases found with
      | none => simp [run, ran, ran']
      | some m => simp [run, ran]
  | finish | literal _ | caseless _ | one _ | start | upTo _ => simp [run]

theorem between_succ (now : Finishes k g fuel) (fits : k.Fits g) {e : Expr}
    (low : k.descends bound e = true) (small : e.size ≤ g.weight)
    (enough : Ranking.steps g cs.length bound e.size + 1 ≤ fuel + 1)
    (enoughSkip : Ranking.steps g cs.length 1 2 + 1 ≤ fuel + 1) :
    (spaced g (fuel + 1) ctx e at_ cs).isSome = true := by
  have skipped : (skip g fuel ctx at_ cs).isSome = true := now.blanks (by omega)
  obtain ⟨⟨reach, found⟩, ran⟩ := Option.isSome_iff_exists.mp skipped
  cases found with
  | none => simp [spaced, ran]
  | some m =>
      have shorter := ((faithful fits.noComment fuel).blanks ran).rest_length_le
      have rest := steps_mono (g := g) bound e.size shorter
      have body : (run g fuel ctx e (at_ + Text.byteSize m.taken) m.rest).isSome = true :=
        now.expr low small (by omega)
      simpa [spaced, ran] using body

theorem rounds_succ (now : Finishes k g fuel) (fits : k.Fits g) {skipping : Bool} {e : Expr}
    (low : k.descends bound e = true) (moves : k.moves e = true) (positive : 0 < bound)
    (small : e.size ≤ g.weight)
    (enough : Ranking.steps g cs.length bound e.size + (if skipping then 4 else 1) ≤ fuel + 1) :
    (more g (fuel + 1) ctx skipping e at_ cs).isSome = true := by
  have sound := faithful fits.noComment fuel
  have room := Nat.mul_le_mul_right (Ranking.stride g) positive
  have pos := e.size_pos
  have round : (if skipping then spaced g fuel ctx e at_ cs
      else run g fuel ctx e at_ cs).isSome = true := by
    cases skipping with
    | true =>
        simp only [if_true] at enough ⊢
        refine now.between low small (by omega) ?_
        unfold Ranking.steps at enough ⊢
        omega
    | false =>
        simp only [Bool.false_eq_true, if_false] at enough ⊢
        exact now.expr low small (by omega)
  obtain ⟨⟨reach, found⟩, ran⟩ := Option.isSome_iff_exists.mp round
  cases found with
  | none => simp [more, ran]
  | some m =>
      have lt : m.rest.length < cs.length := by
        cases skipping with
        | true => exact (sound.between ran).rest_length_lt fits moves
        | false => exact (sound.expr ran).rest_length_lt fits moves
      have less := steps_less fits bound e.size lt
      have later : (more g fuel ctx skipping e (at_ + Text.byteSize m.taken) m.rest).isSome =
          true := by
        refine now.rounds low moves positive small ?_
        split at enough <;> simp_all <;> omega
      simpa [more, ran] using later

theorem blanks_succ (now : Finishes k g fuel) (fits : k.Fits g)
    (enough : Ranking.steps g cs.length 1 2 ≤ fuel + 1) :
    (skip g (fuel + 1) ctx at_ cs).isSome = true := by
  have blanks : (more g fuel ctx false (.call "WHITESPACE") at_ cs).isSome = true := by
    have low : k.descends 1 (.call "WHITESPACE") = true := by
      simp [Ranking.descends, fits.skipFirst]
    refine now.rounds low fits.skipMoves (by omega) ?_ ?_
    · simp only [Expr.size]
      unfold Grammar.weight
      have := (weight_foldl g.rules 8).1
      omega
    · simp only [Expr.size, Bool.false_eq_true, if_false]
      unfold Ranking.steps at enough ⊢
      omega
  simp only [skip, fits.noComment]
  split
  · cases g.defines "WHITESPACE" with
    | true => exact blanks
    | false => rfl
  · rfl

theorem rule_succ (now : Finishes k g fuel) (fits : k.Fits g) {name : String}
    (lt : k.order.idxOf name < bound) (enough : Ranking.steps g cs.length bound 1 ≤ fuel + 1 + 1) :
    (callRule g (fuel + 1) ctx name at_ cs).isSome = true := by
  simp only [callRule]
  split
  · rfl
  · rename_i rule found
    have mem := find?_mem found
    have small := size_le_weight mem
    have down := steps_down (g := g) cs.length lt small
    have low := fits.descends rule mem
    rw [find?_name found] at low
    rw [Option.isSome_map]
    refine now.expr low small ?_
    unfold Ranking.steps at down enough ⊢
    omega

end Finishes

/-- Runs with steps enough finish. -/
theorem finishes (fits : k.Fits g) (fuel : Nat) : Finishes k g fuel := by
  induction fuel with
  | zero => exact .zero
  | succ fuel now =>
      exact ⟨now.expr_succ fits, now.between_succ fits, now.rounds_succ fits, now.blanks_succ fits,
        now.rule_succ fits⟩

/-- A grammar with a fitting ranking reads every text from every expression over its rules. -/
theorem exists_reads (fits : k.Fits g) {e : Expr} (low : k.descends k.order.length e = true)
    (small : e.size ≤ g.weight) (ctx : Context) (at_ : Nat) (cs : List Char) :
    ∃ r, Reads g (.expr e) ctx at_ cs r := by
  have done : (run g (Ranking.steps g cs.length k.order.length e.size) ctx e at_ cs).isSome =
      true := (finishes fits _).expr low small (Nat.le_refl _)
  obtain ⟨a, ran⟩ := Option.isSome_iff_exists.mp done
  exact ⟨_, (faithful fits.noComment _).expr ran⟩

/-- What an attempt at a rule finds is what the grammar reads. -/
theorem attempt_reads (fits : k.Fits g) {rule : String}
    (low : k.descends k.order.length (callOf true rule) = true)
    (small : (callOf true rule).size ≤ g.weight) (cs : List Char) :
    Reads g (.expr (callOf true rule)) {} 0 cs (attempt g rule cs).found := by
  have enough : Ranking.steps g cs.length k.order.length (callOf true rule).size
      ≤ fuelFor g cs.length + 1 := by
    have roomy := fits.roomy
    unfold Ranking.steps fuelFor
    rw [Nat.add_mul]
    omega
  have done : (run g (fuelFor g cs.length + 1) {} (callOf true rule) 0 cs).isSome = true :=
    (finishes fits _).expr low small enough
  obtain ⟨a, ran⟩ := Option.isSome_iff_exists.mp done
  rw [attempt, ran, Option.getD_some]
  exact (faithful fits.noComment _).expr ran

end Dialect.Grammar
