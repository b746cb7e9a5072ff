import Dialect.Proofs.Grammar.Matches
import Dialect.Proofs.Template.FixedRules
import Dialect.Proofs.Template.Scanning

/-!
What a directive spans, whatever an embedding adds to its grammar.

The span of a directive is searched for from the start of the remainder, backwards to a brace. What
is skipped between the closing brace and the remainder stands in the way: where a comment holds a
brace, the span goes on through it, and that part of the text is neither copied nor scanned
(`directive_span`, `comment_swallows`). Without comments a span ends at the brace of its directive.

An embedding may add any rules with which the grammar composes. This excludes rules that keep
matches on a stack, which the notation leaves out (`Token.scan`, `isBuiltin`).
-/

namespace Dialect.Template

open Grammar

variable {g : Grammar} {ctx : Context} {at_ : Nat} {cs : List Char} {r : Option Match}

/-! ### The remainder -/

theorem outcome_one_any (h : Outcome g (.one .any) ctx at_ cs r) :
    cs = [] ∧ r = none ∨ ∃ c rest, cs = c :: rest ∧ r = some ⟨[c], rest, []⟩ := by
  have one := h.of_leaf rfl
  cases cs with
  | nil => exact .inl ⟨rfl, one⟩
  | cons c rest => exact .inr ⟨c, rest, rfl, one⟩

/-- Where nothing is skipped, a repetition of any character goes on to the end. -/
theorem more_any {fuel : Nat} {a : Attempt} (tight : ctx.mode ≠ .spaced)
    (ran : more g fuel ctx true (.one .any) at_ cs = some a) : a.found = some ⟨cs, [], []⟩ := by
  induction fuel generalizing at_ cs a with
  | zero => simp [more] at ran
  | succ fuel ih =>
    simp only [more, if_true] at ran
    split at ran
    · cases ran
    · next first =>
      obtain rfl := Option.some.inj ran
      obtain ⟨rfl, -⟩ | ⟨c, rest, -, one⟩ := outcome_one_any (outcome_of_spaced tight first)
      · rfl
      · cases one
    · next first =>
      obtain ⟨b, later, rfl⟩ := Option.map_eq_some_iff.mp ran
      obtain ⟨-, one⟩ | ⟨c, rest, rfl, one⟩ := outcome_one_any (outcome_of_spaced tight first)
      · cases one
      · obtain rfl := Option.some.inj one
        simp [ih later, Match.append]

theorem outcome_star_any (tight : ctx.mode ≠ .spaced)
    (h : Outcome g (.star (.one .any)) ctx at_ cs r) : r = some ⟨cs, [], []⟩ := by
  obtain ⟨fuel, a, ran, rfl⟩ := h
  cases fuel with
  | zero => simp [run] at ran
  | succ fuel =>
    simp only [run] at ran
    split at ran
    · cases ran
    · next first =>
      obtain rfl := Option.some.inj ran
      obtain ⟨rfl, -⟩ | ⟨c, rest, -, one⟩ := outcome_one_any ⟨_, _, first, rfl⟩
      · rfl
      · cases one
    · next first =>
      obtain ⟨b, later, rfl⟩ := Option.map_eq_some_iff.mp ran
      obtain ⟨-, one⟩ | ⟨c, rest, rfl, one⟩ := outcome_one_any ⟨_, _, first, rfl⟩
      · cases one
      · obtain rfl := Option.some.inj one
        simp [more_any tight later, Match.append]

/-- Any character, once or more, is the whole text unless that is empty. -/
theorem outcome_any (tight : ctx.mode ≠ .spaced)
    (h : Outcome g (.seq (.one .any) (.star (.one .any))) ctx at_ cs r) :
    r = if cs.isEmpty then none else some ⟨cs, [], []⟩ := by
  obtain ⟨first, rfl⟩ | ⟨n, s, x, first, skipped, later, rfl⟩ := h.of_seq
  · obtain ⟨rfl, -⟩ | ⟨c, rest, -, one⟩ := outcome_one_any first
    · rfl
    · cases one
  · obtain rfl := skipped.of_tight tight
    obtain ⟨-, one⟩ | ⟨c, rest, rfl, one⟩ := outcome_one_any first
    · cases one
    · obtain rfl := Option.some.inj one
      rw [outcome_star_any tight later]
      rfl

/-- The rules of directives that are fixed. -/
structure Fixed (g : Grammar) : Prop where
  directive : g.find? "directive" = some ⟨"directive", .normal,
    .seq (.literal ['\x7b']) (.seq (.call "embed") (.seq (.literal ['\x7d'])
      (.seq (.opt (.call "remainder")) .finish)))⟩
  remainder : g.find? "remainder" =
    some ⟨"remainder", .atomic, .seq (.one .any) (.star (.one .any))⟩
  blank : g.find? "WHITESPACE" = some ⟨"WHITESPACE", .silent, .literal [' ']⟩

theorem fixed_of_made {v : Vocabulary} {capabilities : Capabilities} {composed : ComposedGrammar}
    (made : Engine.grammarOf v capabilities = .ok composed) : Fixed composed.grammar :=
  ⟨find?_of_made made rfl, find?_of_made made rfl, find?_of_made made rfl⟩

namespace Fixed

variable (fixed : Fixed g)

include fixed

theorem final : Final g "remainder" where
  plain := by decide
  named := by
    refine ⟨_, fixed.remainder, fun {ctx at_ cs m} atomic h => ?_⟩
    have whole := outcome_any (by simp [atomic]) h
    split at whole
    · cases whole
    · rw [Option.some.inj whole]

/-- The remainder is the whole rest of a template, in a node of its own. -/
theorem outcome_remainder (h : Outcome g (.call "remainder") {} at_ cs r) :
    r = if cs.isEmpty then none else
      some ⟨cs, [], [⟨"remainder", String.ofList cs, at_, at_ + Text.byteSize cs, []⟩]⟩ := by
  obtain ⟨x, body, rfl⟩ := h.of_call fixed.remainder
  rw [outcome_any (by simp [surroundings]) body]
  split <;> rfl

end Fixed

/-! ### A directive up to its brace -/

/-- A directive through the closing brace that its rule matches. -/
def braces : Grammar.Expr := .seq (.literal ['\x7b']) (.seq (.call "embed") (.literal ['\x7d']))

theorem outcome_char {c : Char} {m : Match} (h : Outcome g (.literal [c]) ctx at_ cs (some m)) :
    ∃ rest, cs = c :: rest ∧ m = ⟨[c], rest, []⟩ := by
  have one := h.of_leaf rfl
  obtain ⟨rest, found, rfl⟩ := Option.map_eq_some_iff.mp one.symm
  exact ⟨rest, (after?_eq_some found).symm, rfl⟩

namespace Fixed

variable (fixed : Fixed g)

include fixed

/-- A directive through its brace stands in braces, and has no node of a remainder. -/
theorem of_braces {opening : Match} (h : Outcome g braces {} at_ cs (some opening)) :
    opening.taken.head? = some '\x7b' ∧ opening.taken.getLast? = some '\x7d' ∧
      ∀ n ∈ opening.nodes, n.rule ≠ "remainder" := by
  obtain ⟨brace, s, _, isBrace, skips, later, rfl⟩ := h.of_seq_some
  obtain ⟨embed, s', close, isEmbed, skips', isClose, rfl⟩ := later.of_seq_some
  obtain ⟨_, -, rfl⟩ := outcome_char isBrace
  obtain ⟨behind, left, rfl⟩ := outcome_char isClose
  refine ⟨rfl, by simp [List.getLast?_cons], ?_⟩
  intro n mem same
  simp only [Match.append_nodes, List.nil_append, List.append_nil, List.mem_append] at mem
  rcases mem with mem | mem | mem
  · exact fixed.final.not_skipped skips n mem same
  · -- behind such a node there would be nothing left to close the directive
    have ended := fixed.final.rest_eq_nil isEmbed mem same
    have split := skips'.split
    rw [ended, left] at split
    simp at split
  · exact fixed.final.not_skipped skips' n mem same

/-- A match of the rule is a directive through its brace, what is skipped, and the remainder, which
makes the only node of its name if anything is left for it. -/
theorem of_directive {m : Match} (h : Outcome g (.call "directive") {} 0 cs (some m)) :
    ∃ opening skipped root, Outcome g braces {} 0 cs (some opening) ∧
      Passes g {} (Text.byteSize opening.taken) opening.rest skipped ∧
      m.nodes = [root] ∧ root.is "directive" = true ∧
      root.child? "remainder" = if skipped.rest.isEmpty then none else
        some ⟨"remainder", String.ofList skipped.rest,
          Text.byteSize (opening.taken ++ skipped.taken),
          Text.byteSize (opening.taken ++ skipped.taken) + Text.byteSize skipped.rest, []⟩ := by
  obtain ⟨x, body, whole⟩ := h.of_call fixed.directive
  obtain ⟨inside, rfl, rfl⟩ := Option.map_eq_some_iff.mp whole.symm
  change Outcome g _ {} 0 cs _ at body
  obtain ⟨brace, s, _, isBrace, skips, later, rfl⟩ := body.of_seq_some
  obtain ⟨close, skipped, _, closes, skipped', ended, rfl⟩ := later.of_seq_seq
  obtain ⟨tail, s', finish, isTail, skips', isFinish, rfl⟩ := ended.of_seq_some
  have opening : Outcome g braces {} 0 cs (some (brace.append (s.append close))) :=
    isBrace.seq skips closes
  have place : Text.byteSize (brace.append (s.append close)).taken =
      0 + Text.byteSize brace.taken + Text.byteSize s.taken + Text.byteSize close.taken := by
    simp [Nat.add_assoc]
  rw [← place] at skipped' isTail
  refine ⟨_, skipped, _, opening, skipped', rfl, rfl, ?_⟩
  have other {nodes : List ParseNode} (none : ∀ n ∈ nodes, n.rule ≠ "remainder") :
      nodes.find? (fun c => c.is "remainder") = .none :=
    List.find?_eq_none.mpr fun n mem => by simpa [ParseNode.is] using none n mem
  have ends : ∀ n ∈ finish.nodes, n.rule ≠ "remainder" := by
    obtain ⟨-, rfl⟩ := isFinish.of_finish
    intro n mem
    obtain rfl := List.mem_singleton.mp mem
    simp
  obtain ⟨x, isRemainder, made⟩ := isTail.of_opt
  obtain rfl := Option.some.inj made
  have before := other (fixed.of_braces opening).2.2
  simp only [Match.append_nodes, List.find?_append, Option.or_eq_none_iff] at before
  change List.find? (fun c => c.is "remainder") (Match.nodes _) = _
  simp only [Match.append_nodes, List.find?_append, before,
    other (fixed.final.not_skipped skipped'), other (fixed.final.not_skipped skips'), other ends,
    fixed.outcome_remainder isRemainder, Option.none_or, Option.or_none]
  split
  · rfl
  · rw [Text.byteSize_append]
    rfl

/-- Blanks hold no brace. -/
theorem blanks (plain : g.defines "COMMENT" = false) :
    Skippable g ctx fun _ m => '\x7d' ∉ m.taken where
  empty := by simp
  append first second := by simp [first, second]
  piece {name at_ cs m} skipped defined called := by
    simp only [isSkipRule, Bool.or_eq_true, beq_iff_eq] at skipped
    rcases skipped with rfl | rfl
    · obtain ⟨x, body, whole⟩ := called.of_call fixed.blank
      obtain ⟨n, rfl, rfl⟩ := Option.map_eq_some_iff.mp whole.symm
      obtain ⟨rest, -, rfl⟩ := outcome_char body
      simp
    · rw [plain] at defined
      cases defined

end Fixed

/-! ### Spans -/

theorem throughLastBrace_behind (xs ys : List Char) :
    throughLastBrace (xs ++ '\x7d' :: ys) =
      some (xs.length + 1 + (throughLastBrace ys).getD 0) := by
  induction xs with
  | nil => cases h : throughLastBrace ys <;> simp [throughLastBrace, h, Nat.add_comm]
  | cons x xs ih => simp [throughLastBrace, ih, Nat.add_right_comm]

/-- The part of a skipped text that a span takes in: all of it through its last closing brace. -/
def swallowed (skipped : List Char) : List Char :=
  skipped.take ((throughLastBrace skipped).getD 0)

theorem length_swallowed (skipped : List Char) :
    (swallowed skipped).length = (throughLastBrace skipped).getD 0 := by
  rw [swallowed]
  cases found : throughLastBrace skipped with
  | none => simp
  | some n =>
    obtain ⟨before, behind, rfl, -, rfl⟩ := throughLastBrace_eq_some.mp found
    simp

theorem swallowed_eq_nil {skipped : List Char} :
    swallowed skipped = [] ↔ '\x7d' ∉ skipped := by
  rw [← List.length_eq_zero_iff, length_swallowed, ← throughLastBrace_eq_none]
  cases found : throughLastBrace skipped with
  | none => simp
  | some n =>
    obtain ⟨before, behind, -, -, rfl⟩ := throughLastBrace_eq_some.mp found
    simp

/-- The span of a directive is searched for in what stands before its remainder. -/
theorem Fixed.spanOf? (fixed : Fixed g) {m : Match}
    (h : Outcome g (.call "directive") {} 0 cs (some m)) :
    ∃ opening skipped root, Outcome g braces {} 0 cs (some opening) ∧
      Passes g {} (Text.byteSize opening.taken) opening.rest skipped ∧
      m.nodes.find? (fun n => n.is "directive") = some root ∧
      Engine.spanOf? root cs = some (opening.taken ++ swallowed skipped.taken).length := by
  obtain ⟨opening, skipped, root, isOpening, skips, nodes, rule, remainder⟩ := fixed.of_directive h
  refine ⟨opening, skipped, root, isOpening, skips, by rw [nodes]; simp [rule], ?_⟩
  have split : cs = (opening.taken ++ skipped.taken) ++ skipped.rest := by
    rw [List.append_assoc, skips.split, isOpening.split]
  have before : Engine.spanOf? root cs = throughLastBrace (opening.taken ++ skipped.taken) := by
    rw [Engine.spanOf?, remainder]
    cases rest : skipped.rest with
    | nil =>
      rw [rest, List.append_nil] at split
      rw [split]
      rfl
    | cons c more =>
      rw [split]
      exact congrArg throughLastBrace (Text.takeBytes_append _ _)
  obtain ⟨inside, closed⟩ := List.getLast?_eq_some_iff.mp (fixed.of_braces isOpening).2.1
  rw [before, closed, List.append_assoc, List.singleton_append, throughLastBrace_behind]
  simp [length_swallowed, Nat.add_assoc, Nat.add_comm]

theorem outcome_of_parse {rule : String} (own : callOf true rule = .call rule)
    {nodes : List ParseNode} (parsed : g.parse rule (String.ofList cs) = .ok nodes) :
    ∃ m, Outcome g (.call rule) {} 0 cs (some m) ∧ m.nodes = nodes := by
  rw [Grammar.parse, String.toList_ofList, attempt, own] at parsed
  dsimp only at parsed
  split at parsed
  · next m found =>
    cases ran : run g (fuelFor g cs.length + 1) {} (.call rule) 0 cs with
    | none =>
      rw [ran] at found
      cases found
    | some a =>
      rw [ran] at found
      exact ⟨m, ⟨_, a, ran, found⟩, Except.ok.inj parsed⟩
  · cases parsed

/-- The span of a directive, for every vocabulary whose grammar composes; none does that keeps
matches on a stack (`Grammar.read?`). A directive gives way, as a text in the template, from its
opening brace through the one that its rule matches, and with it what is skipped behind that through
the last brace there. Scanning goes on behind. The span ends at the brace of the directive just if
nothing that is skipped holds a brace, as where the grammar has no comments. The rule has no other
outcome here, and nothing else is skipped behind it, so the grammar and the text fix the span. -/
theorem directive_span {v : Vocabulary} {capabilities : Capabilities} {composed : ComposedGrammar}
    (made : Engine.grammarOf v capabilities = .ok composed) {engine : Engine}
    (parser : engine.parser = composed.parser) {record : Value} {found : Recognised}
    (recognised : engine.directive record cs = .ok (some found)) :
    ∃ (opening skipped : Match) (behind : List Char),
      Outcome composed.grammar braces {} 0 cs (some opening) ∧
      (∀ r, Outcome composed.grammar braces {} 0 cs r → r = some opening) ∧
      Passes composed.grammar {} (Text.byteSize opening.taken) opening.rest skipped ∧
      (∀ m, Passes composed.grammar {} (Text.byteSize opening.taken) opening.rest m →
        m = skipped) ∧
      cs = (opening.taken ++ swallowed skipped.taken) ++ behind ∧
      found.span = (opening.taken ++ swallowed skipped.taken).length ∧
      (found.span = opening.taken.length ↔ '\x7d' ∉ skipped.taken) ∧
      (composed.grammar.defines "COMMENT" = false → found.span = opening.taken.length) ∧
      engine.scan record 0 cs = (engine.scan record 0 behind).map (found.value.toList ++ ·) := by
  have fixed := fixed_of_made made
  obtain ⟨nodes, root, parsed, first, spans⟩ := exists_span_of_directive recognised
  rw [parser, ComposedGrammar.parser, (Skeleton.read_of_compose made).2] at parsed
  obtain ⟨m, called, rfl⟩ := outcome_of_parse rfl parsed
  obtain ⟨opening, skipped, root', isOpening, skips, first', spans'⟩ := fixed.spanOf? called
  obtain rfl := Option.some.inj (first.symm.trans first')
  have span := Option.some.inj (spans.symm.trans spans')
  have ends : found.span = opening.taken.length ↔ '\x7d' ∉ skipped.taken := by
    rw [span, List.length_append, Nat.add_eq_left, List.length_eq_zero_iff, swallowed_eq_nil]
  obtain ⟨kept, whole⟩ : swallowed skipped.taken <+: skipped.taken := List.take_prefix _ _
  have split : cs = (opening.taken ++ swallowed skipped.taken) ++ (kept ++ skipped.rest) := by
    rw [List.append_assoc, ← List.append_assoc (swallowed _), whole, skips.split, isOpening.split]
  refine ⟨opening, skipped, kept ++ skipped.rest, isOpening, fun _ other => other.unique isOpening,
    skips, fun _ other => other.unique skips, split, span, ends,
    fun plain => ends.mpr ((fixed.blanks plain).of_passes skips), ?_⟩
  rw [split] at recognised ⊢
  have here := (fixed.of_braces isOpening).1
  exact scan_directive (by rw [recognised, ← span]) (by simp [here])

/-! ### Comments with braces -/

/-- A rule for comments. -/
def commentRule : String := r#"COMMENT = _{ "/*" ~ (!"*/" ~ ANY)* ~ "*/" }"#

/-- A vocabulary that adds comments. -/
def commented : Vocabulary :=
  { Vocabulary.plain with fragments := Fragments.empty.add vocabularySlot commentRule }

/-- Its grammar. -/
def commentedRules : Grammar := ⟨directiveRules .absent ++ [
  ⟨"COMMENT", .silent,
    .seq (.literal ['/', '*']) (.seq (.star (.seq (.notAhead (.literal ['*', '/'])) (.one .any)))
      (.literal ['*', '/']))⟩]⟩

theorem read_commented :
    Grammar.read? (skeleton.source .none commented.fragments).toList = some commentedRules := by
  have texts (slot : String) : commented.fragments.get slot =
      if slot = vocabularySlot then [commentRule] else [] := by
    rw [commented, Fragments.get_add]
    rfl
  rw [Skeleton.source_toList]
  simp only [skeleton, List.flatMap_cons, List.flatMap_nil, Skeleton.slotText_toList, texts]
  simp only [vocabularySlot, commentRule, String.reduceEq, if_false, if_true, List.flatMap_cons,
    List.flatMap_nil]
  rw [String.toList_ofList, String.toList_ofList, String.toList_ofList, String.toList_ofList]
  decide +kernel

/-- Comments compose with the rules of directives. -/
theorem grammarOf_commented :
    Engine.grammarOf commented .none = .ok ⟨"directive", "directive", .none,
      skeleton.source .none commented.fragments, commentedRules⟩ :=
  Skeleton.compose_eq_ok (.inl rfl) (by decide +kernel) read_commented (by decide +kernel)
    (by decide +kernel)

/-- The engine with comments. -/
def commentedEngine : Engine := .ofParts commented (commentedRules.parse "directive")

/-- A directive with a comment behind it, in which there is a brace. -/
def beforeComment : List Char := "\x7b.a\x7d/*\x7d*/x".toList

theorem directive_beforeComment :
    commentedEngine.directive (.object [("a", .text "v")]) beforeComment =
      .ok (some ⟨"v", 7⟩) := by
  decide +kernel

/-- The rule matches up to the first closing brace. -/
theorem opening_beforeComment :
    ∃ opening, Outcome commentedRules braces {} 0 beforeComment (some opening) ∧
      opening.taken.length = 4 := by
  have short : ((run commentedRules 100 {} braces 0 beforeComment).bind Attempt.found).map
      (fun opening => opening.taken.length) = some 4 := by decide +kernel
  obtain ⟨opening, found, length⟩ := Option.map_eq_some_iff.mp short
  obtain ⟨a, ran, found⟩ := Option.bind_eq_some_iff.mp found
  exact ⟨opening, ⟨100, a, ran, found⟩, length⟩

/-- The value of a directive takes the place of the beginning of a comment, too. -/
theorem directive_span_comment :
    ∃ (opening skipped : Match) (behind : List Char),
      Outcome commentedRules braces {} 0 beforeComment (some opening) ∧
      opening.taken.length = 4 ∧
      Passes commentedRules {} (Text.byteSize opening.taken) opening.rest skipped ∧
      beforeComment = (opening.taken ++ swallowed skipped.taken) ++ behind ∧
      (opening.taken ++ swallowed skipped.taken).length = 7 ∧
      commentedEngine.scan (.object [("a", .text "v")]) 0 beforeComment =
        (commentedEngine.scan (.object [("a", .text "v")]) 0 behind).map ('v' :: ·) := by
  obtain ⟨opening, skipped, behind, isOpening, only, skips, -, split, span, -, -, scans⟩ :=
    directive_span grammarOf_commented rfl directive_beforeComment
  obtain ⟨short, isShort, length⟩ := opening_beforeComment
  obtain rfl := Option.some.inj (only _ isShort)
  exact ⟨short, skipped, behind, isShort, length, skips, split, span.symm, scans⟩

/-- A span may go on behind the brace that the rule of directives matches. -/
theorem comment_swallows :
    ¬ ∀ (v : Vocabulary) (capabilities : Capabilities) (composed : ComposedGrammar)
        (engine : Engine) (record : Value) (cs : List Char) (found : Recognised) (opening : Match),
      Engine.grammarOf v capabilities = .ok composed → engine.parser = composed.parser →
        engine.directive record cs = .ok (some found) →
          Outcome composed.grammar braces {} 0 cs (some opening) →
            found.span = opening.taken.length := by
  intro ends
  obtain ⟨opening, isOpening, length⟩ := opening_beforeComment
  have same := ends commented .none _ commentedEngine _ beforeComment _ opening
    grammarOf_commented rfl directive_beforeComment isOpening
  rw [length] at same
  cases same

end Dialect.Template
