import Dialect.Proofs.Grammar.Runs

/-!
Matches of any grammar, taken apart.

`Outcome.of_seq` and its like take a match apart along its expression. What is skipped is made of
blanks and comments (`Skippable.of_passes`). Main statement: a rule that takes texts to their end
leaves nothing behind its nodes and makes none where blanks and comments are skipped
(`Final.rest_eq_nil`, `Final.not_skipped`).
-/

namespace Dialect.Grammar

variable {g : Grammar} {e : Expr} {ctx : Context} {at_ : Nat} {cs : List Char} {m : Match}
  {r : Option Match}

/-! ### What is skipped -/

section Skipped

variable {fuel : Nat} {a : Attempt}

theorem more_isSome {skipping : Bool} (h : more g fuel ctx skipping e at_ cs = some a) :
    a.found.isSome = true := by
  induction fuel generalizing at_ cs a with
  | zero => simp [more] at h
  | succ fuel ih =>
    simp only [more] at h
    split at h
    · cases h
    · obtain rfl := Option.some.inj h
      rfl
    · obtain ⟨b, later, rfl⟩ := Option.map_eq_some_iff.mp h
      simpa using ih later

theorem comments_isSome (h : comments g fuel ctx at_ cs = some a) : a.found.isSome = true := by
  induction fuel generalizing at_ cs a with
  | zero => simp [comments] at h
  | succ fuel ih =>
    rw [comments] at h
    split at h
    · cases h
    · obtain rfl := Option.some.inj h
      rfl
    · split at h
      · cases h
      · next second => exact absurd (more_isSome second) (by simp)
      · obtain ⟨b, later, rfl⟩ := Option.map_eq_some_iff.mp h
        simpa using ih later

/-- Skipping never fails. -/
theorem skip_isSome (h : skip g fuel ctx at_ cs = some a) : a.found.isSome = true := by
  cases fuel with
  | zero => simp [skip] at h
  | succ fuel =>
    rw [skip] at h
    split at h
    · split at h
      · obtain rfl := Option.some.inj h
        rfl
      · exact more_isSome h
      · exact more_isSome h
      · split at h
        · obtain ⟨b, later, rfl⟩ := Option.map_eq_some_iff.mp h
          simpa using comments_isSome later
        · exact more_isSome h
    · obtain rfl := Option.some.inj h
      rfl

/-- Outside of spaced rules nothing is skipped. -/
theorem Passes.of_tight (tight : ctx.mode ≠ .spaced) (h : Passes g ctx at_ cs m) :
    m = .empty cs := by
  obtain ⟨fuel, a, ran, found⟩ := h
  cases fuel with
  | zero => simp [skip] at ran
  | succ fuel =>
    rw [skip, if_neg tight] at ran
    obtain rfl := Option.some.inj ran
    exact (Option.some.inj found).symm

/-- A property of what is skipped: it holds of nothing, of one part behind another, and of the
blanks and comments that the grammar defines. -/
structure Skippable (g : Grammar) (ctx : Context) (Q : List Char → Match → Prop) : Prop where
  empty : ∀ cs, Q cs (.empty cs)
  append : ∀ {cs m n}, Q cs m → Q m.rest n → Q cs (m.append n)
  piece : ∀ {name at_ cs m}, isSkipRule name = true → g.defines name = true →
    Outcome g (.call name) ctx at_ cs (some m) → Q cs m

namespace Skippable

variable {Q : List Char → Match → Prop}

theorem of_more (kept : Skippable g ctx Q) {name : String} (skipped : isSkipRule name = true)
    (defined : g.defines name = true) (ran : more g fuel ctx false (.call name) at_ cs = some a)
    (found : a.found = some m) : Q cs m := by
  induction fuel generalizing at_ cs a m with
  | zero => simp [more] at ran
  | succ fuel ih =>
    simp only [more, Bool.false_eq_true, if_false] at ran
    split at ran
    · cases ran
    · obtain rfl := Option.some.inj ran
      obtain rfl := Option.some.inj found
      exact kept.empty cs
    · next first =>
      obtain ⟨b, later, rfl⟩ := Option.map_eq_some_iff.mp ran
      obtain ⟨n, foundLater, rfl⟩ := Option.map_eq_some_iff.mp found
      exact kept.append (kept.piece skipped defined ⟨_, _, first, rfl⟩) (ih later foundLater)

theorem of_comments (kept : Skippable g ctx Q) (white : g.defines "WHITESPACE" = true)
    (defined : g.defines "COMMENT" = true) (ran : comments g fuel ctx at_ cs = some a)
    (found : a.found = some m) : Q cs m := by
  induction fuel generalizing at_ cs a m with
  | zero => simp [comments] at ran
  | succ fuel ih =>
    rw [comments] at ran
    split at ran
    · cases ran
    · obtain rfl := Option.some.inj ran
      obtain rfl := Option.some.inj found
      exact kept.empty cs
    · next first =>
      split at ran
      · cases ran
      · obtain rfl := Option.some.inj ran
        cases found
      · next second =>
        obtain ⟨b, later, rfl⟩ := Option.map_eq_some_iff.mp ran
        obtain ⟨n, foundLater, rfl⟩ := Option.map_eq_some_iff.mp found
        have comment := kept.piece (by decide : isSkipRule "COMMENT" = true) defined
          ⟨fuel + 1, _, by rw [run]; exact first, rfl⟩
        have blanks := kept.of_more (by decide) white second rfl
        exact kept.append (kept.append comment blanks) (ih later foundLater)

/-- What is skipped has every such property. -/
theorem of_passes (kept : Skippable g ctx Q) (h : Passes g ctx at_ cs m) : Q cs m := by
  obtain ⟨fuel, a, ran, found⟩ := h
  cases fuel with
  | zero => simp [skip] at ran
  | succ fuel =>
    rw [skip] at ran
    split at ran
    · split at ran
      · obtain rfl := Option.some.inj ran
        obtain rfl := Option.some.inj found
        exact kept.empty cs
      · next white _ => exact kept.of_more (by decide) white ran found
      · next _ comment => exact kept.of_more (by decide) comment ran found
      · next white comment =>
        split at ran
        · next first =>
          obtain ⟨b, later, rfl⟩ := Option.map_eq_some_iff.mp ran
          obtain ⟨n, foundLater, rfl⟩ := Option.map_eq_some_iff.mp found
          have blanks := kept.of_more (by decide) white first rfl
          exact kept.append blanks (kept.of_comments white comment later foundLater)
        · exact kept.of_more (by decide) white ran found
    · obtain rfl := Option.some.inj ran
      obtain rfl := Option.some.inj found
      exact kept.empty cs

end Skippable

end Skipped

/-! ### Matches along their expressions -/

section Parts

variable {a b : Expr}

theorem Outcome.of_leaf (plain : e.isLeaf = true) (h : Outcome g e ctx at_ cs r) :
    r = leaf e at_ cs := by
  obtain ⟨fuel, x, ran, rfl⟩ := h
  cases fuel with
  | zero => simp [run] at ran
  | succ fuel =>
    cases e with
    | literal _ | caseless _ | one _ | start | upTo _ =>
      simp only [run, Option.some.injEq] at ran
      rw [← ran]
    | _ => cases plain

theorem Outcome.of_finish (h : Outcome g .finish ctx at_ cs (some m)) :
    cs = [] ∧ m = (Match.empty []).wrapped ctx "EOI" at_ := by
  obtain ⟨fuel, x, ran, found⟩ := h
  cases fuel with
  | zero => simp [run] at ran
  | succ fuel =>
    simp only [run, Option.some.injEq] at ran
    subst ran
    rw [Attempt.ofRule_found] at found
    split at found
    · next ended =>
      obtain rfl := List.isEmpty_iff.mp ended
      exact ⟨rfl, (Option.some.inj found).symm⟩
    · cases found

theorem Outcome.of_call {name : String} {rule : Rule} (named : g.find? name = some rule)
    (h : Outcome g (.call name) ctx at_ cs r) :
    ∃ x, Outcome g rule.body (surroundings ctx rule).1 at_ cs x ∧
      r = x.map (rule.labelled ctx at_) := by
  obtain ⟨fuel, x, ran, rfl⟩ := h
  cases fuel with
  | zero => simp [run] at ran
  | succ fuel =>
    rw [run] at ran
    cases fuel with
    | zero => simp [callRule] at ran
    | succ fuel =>
      simp only [callRule, named] at ran
      obtain ⟨y, body, rfl⟩ := Option.map_eq_some_iff.mp ran
      refine ⟨y.found, ⟨fuel, y, body, rfl⟩, ?_⟩
      rw [← find?_name named]
      unfold Rule.labelled
      cases (surroundings ctx rule).2 with
      | none => simp
      | some outer => simp

theorem Outcome.of_opt (h : Outcome g (.opt e) ctx at_ cs r) :
    ∃ x, Outcome g e ctx at_ cs x ∧ r = some (x.getD (.empty cs)) := by
  obtain ⟨fuel, x, ran, rfl⟩ := h
  cases fuel with
  | zero => simp [run] at ran
  | succ fuel =>
    simp only [run] at ran
    split at ran
    · cases ran
    · next body =>
      obtain rfl := Option.some.inj ran
      exact ⟨_, ⟨fuel, _, body, rfl⟩, rfl⟩

/-- Where nothing is skipped, an expression behind what is skipped is the expression. -/
theorem outcome_of_spaced {fuel : Nat} {x : Attempt} (tight : ctx.mode ≠ .spaced)
    (ran : spaced g fuel ctx e at_ cs = some x) : Outcome g e ctx at_ cs x.found := by
  cases fuel with
  | zero => simp [spaced] at ran
  | succ fuel =>
    simp only [spaced] at ran
    split at ran
    · cases ran
    · next skipped => exact absurd (skip_isSome skipped) (by simp)
    · next skipped =>
      obtain ⟨y, body, rfl⟩ := Option.map_eq_some_iff.mp ran
      obtain rfl := Passes.of_tight tight ⟨_, _, skipped, rfl⟩
      refine ⟨fuel, y, body, ?_⟩
      cases h : y.found <;> simp [h]

/-- A sequence fails with its first part, or ends as its second part does behind what is skipped. -/
theorem Outcome.of_seq (h : Outcome g (.seq a b) ctx at_ cs r) :
    Outcome g a ctx at_ cs none ∧ r = none ∨
    ∃ n s x, Outcome g a ctx at_ cs (some n) ∧ Passes g ctx (at_ + Text.byteSize n.taken) n.rest s ∧
      Outcome g b ctx (at_ + Text.byteSize n.taken + Text.byteSize s.taken) s.rest x ∧
      r = x.map fun k => n.append (s.append k) := by
  obtain ⟨fuel, y, ran, rfl⟩ := h
  cases fuel with
  | zero => simp [run] at ran
  | succ fuel =>
    simp only [run] at ran
    split at ran
    · cases ran
    · next first =>
      obtain rfl := Option.some.inj ran
      exact .inl ⟨⟨fuel, _, first, rfl⟩, rfl⟩
    · next first =>
      obtain ⟨z, second, rfl⟩ := Option.map_eq_some_iff.mp ran
      cases fuel with
      | zero => simp [spaced] at second
      | succ fuel =>
        simp only [spaced] at second
        split at second
        · cases second
        · next skipped => exact absurd (skip_isSome skipped) (by simp)
        · next skipped =>
          obtain ⟨w, body, rfl⟩ := Option.map_eq_some_iff.mp second
          refine .inr ⟨_, _, w.found, ⟨_, _, first, rfl⟩, ⟨_, _, skipped, rfl⟩,
            ⟨_, _, body, rfl⟩, ?_⟩
          simp [Function.comp_def]

theorem Outcome.of_seq_some (h : Outcome g (.seq a b) ctx at_ cs (some m)) :
    ∃ n s k, Outcome g a ctx at_ cs (some n) ∧ Passes g ctx (at_ + Text.byteSize n.taken) n.rest s ∧
      Outcome g b ctx (at_ + Text.byteSize n.taken + Text.byteSize s.taken) s.rest (some k) ∧
      m = n.append (s.append k) := by
  obtain ⟨-, none⟩ | ⟨n, s, x, first, skipped, second, whole⟩ := h.of_seq
  · cases none
  · obtain ⟨k, rfl, rfl⟩ := Option.map_eq_some_iff.mp whole.symm
    exact ⟨n, s, k, first, skipped, second, rfl⟩

/-- Matches of two parts, with what is skipped between them, are a match of the sequence. -/
theorem Outcome.seq {n s k : Match} (first : Outcome g a ctx at_ cs (some n))
    (skipped : Passes g ctx (at_ + Text.byteSize n.taken) n.rest s)
    (second : Outcome g b ctx (at_ + Text.byteSize n.taken + Text.byteSize s.taken) s.rest
      (some k)) :
    Outcome g (.seq a b) ctx at_ cs (some (n.append (s.append k))) := by
  obtain ⟨f₁, ⟨reach, _⟩, ran, rfl⟩ := first
  obtain ⟨f₂, ⟨reach', _⟩, ran', rfl⟩ := skipped
  obtain ⟨f₃, ⟨reach'', _⟩, ran'', rfl⟩ := second
  have ran := run_mono (show f₁ ≤ max f₂ f₃ + f₁ + 1 by omega) ran
  have ran' := skip_mono (show f₂ ≤ max f₂ f₃ + f₁ by omega) ran'
  have ran'' := run_mono (show f₃ ≤ max f₂ f₃ + f₁ by omega) ran''
  refine ⟨max f₂ f₃ + f₁ + 2,
    ⟨max reach (max reach' reach''), some (n.append (s.append k))⟩, ?_, rfl⟩
  simp only [run, ran, spaced, ran', ran'', Option.map_some]
  rfl

/-- A match of three parts is one of the first two, and behind what is skipped one of the third. -/
theorem Outcome.of_seq_seq {c : Expr} (h : Outcome g (.seq a (.seq b c)) ctx at_ cs (some m)) :
    ∃ n s k, Outcome g (.seq a b) ctx at_ cs (some n) ∧
      Passes g ctx (at_ + Text.byteSize n.taken) n.rest s ∧
      Outcome g c ctx (at_ + Text.byteSize n.taken + Text.byteSize s.taken) s.rest (some k) ∧
      m = n.append (s.append k) := by
  obtain ⟨n, s, _, first, skipped, later, rfl⟩ := h.of_seq_some
  obtain ⟨n', s', k, second, skipped', third, rfl⟩ := later.of_seq_some
  refine ⟨n.append (s.append n'), s', k, first.seq skipped second, ?_, ?_, ?_⟩
  · simpa [Nat.add_assoc] using skipped'
  · simpa [Nat.add_assoc] using third
  · simp only [Match.append_assoc]

end Parts

/-! ### Rules that take texts to their end -/

theorem surroundings_look (rule : Rule) : (surroundings ctx rule).1.look = ctx.look := by
  unfold surroundings
  split <;> (try split) <;> rfl

theorem surroundings_shown_look {rule : Rule} {outer : Context}
    (shown : (surroundings ctx rule).2 = some outer) : outer.look = ctx.look := by
  unfold surroundings at shown
  split at shown <;> (try split at shown) <;> cases shown <;> rfl

/-- A rule that makes no node keeps to atomic surroundings, and one that is skipped goes there. -/
theorem atomic_of_hidden {rule : Rule}
    (hidden : ∀ outer, (surroundings ctx rule).2 = some outer → outer.makesNodes = false)
    (look : ctx.look = .none) (within : ctx.mode = .atomic ∨ isSkipRule rule.name = true) :
    (surroundings ctx rule).1.mode = .atomic := by
  unfold surroundings at hidden ⊢
  cases kind : rule.kind <;> cases skipped : isSkipRule rule.name <;>
    simp_all [Context.makesNodes]

/-- A node behind a rule is its own, or one of its body where it makes none. -/
theorem mem_labelled {rule : Rule} {n : ParseNode} (mem : n ∈ (rule.labelled ctx at_ m).nodes) :
    (∃ outer, (surroundings ctx rule).2 = some outer ∧ outer.makesNodes = true ∧
      n.rule = rule.name) ∨
    n ∈ m.nodes ∧ ∀ outer, (surroundings ctx rule).2 = some outer → outer.makesNodes = false := by
  unfold Rule.labelled at mem
  cases node : (surroundings ctx rule).2 with
  | none =>
    rw [node] at mem
    exact .inr ⟨mem, by simp⟩
  | some outer =>
    rw [node] at mem
    cases shown : outer.makesNodes with
    | false =>
      simp only [Match.wrapped, shown] at mem
      refine .inr ⟨mem, ?_⟩
      rintro _ same
      rwa [← Option.some.inj same]
    | true =>
      simp only [Match.wrapped, shown, if_true] at mem
      exact .inl ⟨outer, rfl, shown, by rw [List.mem_singleton.mp mem]⟩

/-- The rule is atomic, and where it matches it leaves nothing. -/
structure Final (g : Grammar) (x : String) : Prop where
  plain : x ≠ "EOI" ∧ isSkipRule x = false
  named : ∃ body, g.find? x = some ⟨x, .atomic, body⟩ ∧
    ∀ {ctx at_ cs m}, ctx.mode = .atomic → Outcome g body ctx at_ cs (some m) → m.rest = []

namespace Final

variable {x : String}

/-- The nodes of such a rule stand outside of atomic rules, with nothing behind them. -/
theorem kept (final : Final g x) : Kept g fun ctx cs m =>
    m.taken ++ m.rest = cs ∧ (ctx.look ≠ .none → m.nodes = []) ∧
      ∀ n ∈ m.nodes, n.rule = x → m.rest = [] ∧ ctx.mode ≠ .atomic where
  empty := ⟨rfl, fun _ => rfl, by simp⟩
  leaf h := ⟨leaf_taken_append_rest h, fun _ => leaf_nodes h, by simp [leaf_nodes h]⟩
  finish {ctx at_} := by
    refine ⟨by simp, ?_, ?_⟩
    · intro looks
      simp [Match.wrapped, Context.makesNodes, looks]
    · intro n mem same
      unfold Match.wrapped at mem
      split at mem
      · obtain rfl := List.mem_singleton.mp mem
        exact absurd same.symm final.plain.1
      · cases mem
  append {ctx cs m n} first second := by
    obtain ⟨split, quiet, ends⟩ := first
    obtain ⟨split', quiet', ends'⟩ := second
    refine ⟨by simp [split, split'], fun looks => by simp [quiet looks, quiet' looks], ?_⟩
    intro node mem same
    rcases List.mem_append.mp mem with mem | mem
    · obtain ⟨ended, outside⟩ := ends node mem same
      rw [ended] at split'
      exact ⟨(List.append_eq_nil_iff.mp split').2, outside⟩
    · exact ends' node mem same
  rule {ctx name rule at_ cs m} named body inside := by
    obtain ⟨split, quiet, ends⟩ := inside
    rw [surroundings_look] at quiet
    refine ⟨by simpa using split, ?_, ?_⟩
    · intro looks
      refine List.eq_nil_iff_forall_not_mem.mpr fun n mem => ?_
      rcases mem_labelled mem with ⟨outer, node, shown, -⟩ | ⟨mem, -⟩
      · simp only [Context.makesNodes, Bool.and_eq_true, decide_eq_true_eq] at shown
        exact absurd (surroundings_shown_look node ▸ shown.1) looks
      · rw [quiet looks] at mem
        cases mem
    · intro n mem same
      rw [Rule.labelled_rest]
      rcases mem_labelled mem with ⟨outer, node, shown, own⟩ | ⟨mem, hidden⟩
      · obtain rfl : name = x := ((find?_name named).symm.trans own.symm).trans same
        obtain ⟨text, named', leaves⟩ := final.named
        obtain rfl := Option.some.inj (named.symm.trans named')
        obtain rfl := Option.some.inj node
        simp only [Context.makesNodes, Bool.and_eq_true, bne_iff_ne] at shown
        exact ⟨leaves rfl body, shown.2⟩
      · obtain ⟨ended, outside⟩ := ends n mem same
        refine ⟨ended, fun atomic => outside (atomic_of_hidden hidden ?_ (.inl atomic))⟩
        by_contra looks
        rw [quiet looks] at mem
        cases mem

/-- A match with a node of such a rule leaves nothing. -/
theorem rest_eq_nil (final : Final g x) (h : Outcome g e ctx at_ cs (some m)) {n : ParseNode}
    (mem : n ∈ m.nodes) (same : n.rule = x) : m.rest = [] :=
  ((final.kept.of_outcome h).2.2 n mem same).1

/-- No node of such a rule is skipped. -/
theorem skippable (final : Final g x) : Skippable g ctx fun _ m => ∀ n ∈ m.nodes, n.rule ≠ x where
  empty := by simp
  append {cs m k} first second n mem := by
    rcases List.mem_append.mp mem with mem | mem
    · exact first n mem
    · exact second n mem
  piece {name at_ cs m} skipped defined called n mem same := by
    obtain ⟨rule, named⟩ : ∃ rule, g.find? name = some rule := by
      obtain ⟨rule, listed, is⟩ := List.any_eq_true.mp defined
      exact Option.isSome_iff_exists.mp (List.find?_isSome.mpr ⟨rule, listed, is⟩)
    obtain ⟨body, inside, whole⟩ := called.of_call named
    obtain ⟨k, rfl, rfl⟩ := Option.map_eq_some_iff.mp whole.symm
    obtain ⟨-, quiet, ends⟩ := final.kept.of_outcome inside
    obtain rfl := find?_name named
    rcases mem_labelled mem with ⟨outer, -, -, own⟩ | ⟨mem, hidden⟩
    · rw [own.symm.trans same, final.plain.2] at skipped
      cases skipped
    · refine (ends n mem same).2 (atomic_of_hidden hidden ?_ (.inr skipped))
      by_contra looks
      rw [quiet (by rwa [surroundings_look])] at mem
      cases mem

/-- Among the nodes of what is skipped there is none of such a rule. -/
theorem not_skipped (final : Final g x) (h : Passes g ctx at_ cs m) : ∀ n ∈ m.nodes, n.rule ≠ x :=
  final.skippable.of_passes h

end Final

end Dialect.Grammar
