import Dialect.Proofs.Query.Algebra
import Dialect.Proofs.Query.Formulas

/-!
Queries over features as they are written, and parsing them back.

A `Sentence` is a query expression of comparisons whose literals are given as they are written. In
its tokens the set operators group to the left on one level, so only a right operand that is itself
joined is in brackets. Main statement: `parse_written` (where only features are enabled, the text of
a sentence is parsed to its expression, and so is every text that differs from it in blanks).
-/

namespace Dialect.Query

open Grammar

/-! ### Queries without a vocabulary -/

/-- The rules of vocabularies. -/
def vocabularyRules : List String :=
  ["flag", "category", "pattern", "bare_pattern", "quoted_pattern", "quoted_body"]

/-- The grammar of queries where only features are enabled and there is no vocabulary. -/
def plainQueries : Grammar :=
  ⟨(queryRules ⟨false, false, true⟩).filter fun r => !vocabularyRules.contains r.name⟩

theorem compose_plainQueries : skeleton.compose { features := true } Fragments.empty =
    .ok ⟨"query", "query", { features := true },
      skeleton.source { features := true } Fragments.empty, plainQueries⟩ := by
  refine Skeleton.compose_eq_ok (.inr rfl) rfl ?_ (by decide +kernel) (by decide +kernel)
  rw [Skeleton.source_toList]
  simp only [skeleton, List.flatMap_cons, List.flatMap_nil, Skeleton.slotText_toList,
    Capabilities.enabled]
  have none (slot : String) : Fragments.empty.get slot = [] := rfl
  simp only [none, List.filter_cons, List.filter_nil, String.reduceBEq, Bool.true_and,
    Bool.false_and, Bool.and_false, Bool.false_eq_true, if_true, if_false, List.flatMap_cons,
    List.flatMap_nil]
  repeat rw [String.toList_ofList]
  decide +kernel

theorem speaks_plainQueries : Speaks plainQueries false where
  rules := by decide +kernel
  skips := by
    refine ⟨_, rfl, congrArg some (funext fun c => ?_)⟩
    simp [blanks, Bool.beq_comm, beq_eq_decide]

/-! ### Sentences -/

/-- A query expression of comparisons as it is written. -/
inductive Sentence where
  | comparison (left : Formula) (sign : ComparatorSign) (right : Formula)
  | negation (w : Sentence)
  | intersection (left right : Sentence)
  | union (left right : Sentence)

namespace Sentence

/-- The expression that a sentence stands for. -/
def expr : Sentence → Expr
  | .comparison left sign right => .comparison left.feature sign.comparator right.feature
  | .negation w => .negation w.expr
  | .intersection left right => .intersection left.expr right.expr
  | .union left right => .union left.expr right.expr

/-- The sentence is joined by a set operator. -/
def isJoined : Sentence → Bool
  | .intersection _ _ | .union _ _ => true
  | _ => false

/-- The tokens of a sentence. -/
def tokens : Sentence → List (List Char)
  | .comparison left sign right => left.tokens 0 ++ sign.text.toList :: right.tokens 0
  | .negation w => ['-'] :: inBrackets w.tokens
  | .intersection left right =>
    left.tokens ++ [','] :: if right.isJoined then inBrackets right.tokens else right.tokens
  | .union left right =>
    left.tokens ++ ['|'] :: if right.isJoined then inBrackets right.tokens else right.tokens

/-- The sentence as a text, without blanks. -/
def text (w : Sentence) : String := String.ofList w.tokens.flatten

/-- The text is the sentence with any blanks before and behind its tokens. -/
def Spells (w : Sentence) (text : String) : Prop :=
  ∃ bs cs, text.toList = bs ++ cs ∧ Blank isBlank bs ∧ Spread w.tokens cs

theorem spells_text (w : Sentence) : w.Spells w.text :=
  ⟨[], w.tokens.flatten, by simp [text], by simp [Blank], .flatten _⟩

end Sentence

/-! ### Operands -/

section

variable {v : Vocabulary} {bs cs ds tail : List Char} {e e' : Expr}

/-- What may stand behind an operand. -/
def ends : List Char := [',', '|', ')']

/-- The text is read as an operand that is the expression. -/
def TakesOperand (v : Vocabulary) (cs : List Char) (e : Expr) : Prop :=
  ∀ tail, BeginsIn ends tail →
    Takes plainQueries isBlank (.call "operand") cs tail (.single fun n => operandOf v n = .ok e)

/-- The text opens a chain of operands that is the expression. -/
def ChainSets (v : Vocabulary) (cs : List Char) (e : Expr) : Prop :=
  Opens plainQueries isBlank (.call "operand") step (BeginsIn ends) (operandOf v)
    (joinOperands v) cs e

/-- A node of a set expression that is the expression. -/
def IsSet (v : Vocabulary) (e : Expr) (n : ParseNode) : Prop :=
  n.rule = "set_expr" ∧ setOf v n.children = .ok e

/-- The text is read as a set expression. -/
def TakesSet (v : Vocabulary) (cs : List Char) (e : Expr) : Prop :=
  ∀ tail, BeginsIn [')'] tail →
    Takes plainQueries isBlank (.call "set_expr") cs tail (.single (IsSet v e))

theorem TakesOperand.chain (takes : TakesOperand v cs e) : ChainSets v cs e :=
  .single speaks_plainQueries.skips takes

theorem ChainSets.takes (opens : ChainSets v cs e) : TakesSet v cs e := by
  intro tail last
  have step_ : Fails plainQueries .spaced step tail := by
    refine .seq (.call_normal rfl (by decide) (.letter (p := fun c => ',' == c || '|' == c) rfl ?_))
    intro c head
    rw [List.mem_singleton.mp (last c head)]
    rfl
  refine (Takes.call rfl (by decide) (Opens.takes speaks_plainQueries.skips opens step_
    (last.mono (by decide)) (last.clear (by decide)))).imp ?_
  rintro _ ⟨n, rfl, rule, first, rest, a, children, built, folded⟩
  refine ⟨n, rfl, rule, ?_⟩
  rw [children]
  change (operandOf v first >>= fun e => joinOperands v e rest) = _
  rw [built]
  exact folded

theorem ends_bracket (tail : List Char) : BeginsIn [')'] ([')'] ++ tail) := by
  intro c head
  cases head
  decide

/-- A set expression in brackets. -/
theorem TakesSet.grouped {bs' : List Char} (takes : TakesSet v cs e) (blank : Blank isBlank bs)
    (clear : ∀ tail, Clear isBlank (cs ++ tail)) (blank' : Blank isBlank bs') :
    Takes plainQueries isBlank (.call "grouped") (['('] ++ bs ++ (cs ++ ([')'] ++ bs'))) tail
      (.single (IsSet v e)) := by
  have skips := speaks_plainQueries.skips
  have closing := ends_bracket (bs' ++ tail)
  have inner : Takes plainQueries isBlank (.seq (.call "set_expr") (.literal [')'])) _ tail _ :=
    .seq skips (takes _ (by simpa using closing)) (.literal [')'] blank')
      (Clear.cons.mpr (by decide))
  have whole : Takes plainQueries isBlank
      (.seq (.literal ['(']) (.seq (.call "set_expr") (.literal [')']))) _ tail _ :=
    .seq skips (.literal ['('] blank) inner (by rw [List.append_assoc]; exact clear _)
  refine (Takes.call_silent rfl (by decide) whole).imp ?_
  rintro _ ⟨_, _, rfl, rfl, _, _, rfl, ⟨n, rfl, set⟩, rfl⟩
  exact ⟨n, rfl, set⟩

theorem IsSet.operand_eq_ok {n : ParseNode} (set : IsSet v e n) : operandOf v n = .ok e :=
  (operandOf_set set.1).trans set.2

/-- The node of a comparison has the features of its sides, and fails as the right one does. -/
theorem operandOf_comparison {n left sign right : ParseNode} {f : Feature} {c : Comparator}
    {made : Except Error Feature} (rule : n.rule = "comparison")
    (children : n.children = [left, sign, right]) (leftIs : featureOf v left = .ok f)
    (signIs : comparatorOf sign = .ok c) (rightIs : featureOf v right = made) :
    operandOf v n = made.map (Expr.comparison f c) := by
  obtain ⟨_, text, start, stop, _⟩ := n
  subst rule children rightIs
  rw [operandOf.eq_def]
  change comparisonOf v text [left, sign, right] = _
  rw [comparisonOf, leftIs, signIs]
  cases featureOf v right <;> rfl

/-- The expression of an operand or of a bracketed set expression. -/
def operandBody : Grammar.Expr :=
  .choice (.call "comparison") (.choice (.call "negation") (.call "grouped"))

theorem find?_operandBody :
    plainQueries.find? "operand" = some ⟨"operand", .silent, operandBody⟩ := rfl

/-- A set expression in brackets is an operand, unless a sum could be read in them. -/
theorem TakesSet.operand {bs' : List Char} (takes : TakesSet v cs e) (blank : Blank isBlank bs)
    (clear : ∀ tail, Clear isBlank (cs ++ tail)) (blank' : Blank isBlank bs')
    (noSum : ∀ tail, Fails plainQueries .spaced (.seq (.call "feature_sum") (.literal [')']))
      (cs ++ tail)) :
    TakesOperand v (['('] ++ bs ++ (cs ++ ([')'] ++ bs'))) e := by
  intro tail end_
  have sum : Fails plainQueries .spaced brackets
      ('(' :: (bs ++ (cs ++ ([')'] ++ bs')) ++ tail)) := by
    have := Fails.seq_right speaks_plainQueries.skips (Takes.literal ['('] blank) (clear _)
      (noSum ([')'] ++ bs' ++ tail))
    simpa [brackets] using this
  have negation : Fails plainQueries .spaced (.call "negation")
      ('(' :: (bs ++ (cs ++ ([')'] ++ bs')) ++ tail)) :=
    .call_normal rfl (by decide) (.seq (.literal (Clear.cons.mpr rfl)))
  have comparison := speaks_plainQueries.comparison_fails
    (speaks_plainQueries.atom_fails_bracket sum)
  refine (Takes.call_silent find?_operandBody (by decide)
    (.choice_right (by simpa using comparison)
      (.choice_right (by simpa using negation) (takes.grouped blank clear blank')))).imp ?_
  rintro _ ⟨n, rfl, set⟩
  exact ⟨n, rfl, set.operand_eq_ok⟩

/-- A negated set expression is an operand. -/
theorem TakesSet.negation {bs' bs'' : List Char} (takes : TakesSet v cs e)
    (blank : Blank isBlank bs) (blank' : Blank isBlank bs')
    (clear : ∀ tail, Clear isBlank (cs ++ tail)) (blank'' : Blank isBlank bs'') :
    TakesOperand v (['-'] ++ bs ++ (['('] ++ bs' ++ (cs ++ ([')'] ++ bs'')))) (.negation e) := by
  intro tail end_
  have digit : Clear Char.isDigit (bs ++ ('(' :: (bs' ++ (cs ++ ([')'] ++ bs'')) ++ tail))) :=
    clear_blanks blank (by decide) (Clear.cons.mpr rfl)
  have body : Takes plainQueries isBlank (.seq (.literal ['-']) (.call "grouped")) _ tail _ :=
    .seq speaks_plainQueries.skips (.literal ['-'] blank) (takes.grouped blank' clear blank'')
      (Clear.cons.mpr (by decide))
  have comparison := speaks_plainQueries.comparison_fails
    (speaks_plainQueries.atom_fails_sign digit)
  refine (Takes.call_silent find?_operandBody (by decide)
    (.choice_right (by simpa using comparison)
      (.choice_left (.call rfl (by decide) body)))).imp ?_
  rintro _ ⟨n, rfl, rule, _, _, children, rfl, m, rfl, set⟩
  exact ⟨n, rfl, operandOf_negation rule children set.operand_eq_ok⟩

theorem begins_sign (sign : ComparatorSign) (tail : List Char) :
    BeginsIn ['<', '>', '='] (sign.text.toList ++ tail) := by
  intro c head
  have named := sign.text_cases
  simp only [List.mem_cons, List.not_mem_nil, or_false] at named
  rcases named with text | text | text | text | text | text <;>
  · rw [text] at head
    cases head
    decide

theorem comparatorOf_spans {sign : ComparatorSign} {n : ParseNode}
    (spans : Spans "comparator" sign.text.toList n) : comparatorOf n = .ok sign.comparator := by
  rw [comparatorOf, spans.2, String.ofList_toList, sign.named]

/-- Features with a comparator between them are an operand. -/
theorem comparison_operand {f f' : Feature} (sign : ComparatorSign)
    (left : TakesAt plainQueries v 0 cs f) (blank : Blank isBlank bs)
    (right : TakesAt plainQueries v 0 ds f') (clear : ∀ tail, Clear isBlank (ds ++ tail))
    (equals : ∀ tail, Clear ('=' == ·) (ds ++ tail)) :
    TakesOperand v (cs ++ (sign.text.toList ++ bs ++ ds)) (.comparison f sign.comparator f') := by
  intro tail end_
  have behind : Follows 0 (sign.text.toList ++ (bs ++ ds ++ tail)) :=
    (begins_sign sign _).mono (by decide)
  have later : Takes plainQueries isBlank
      (.seq (.call "comparator") (.call "feature_sum")) _ tail _ :=
    .seq speaks_plainQueries.skips
      (speaks_plainQueries.comparator_taken sign blank
        (clear_blanks blank (by decide) (equals tail)))
      (right tail (end_.mono (by decide))) (clear tail)
  have body : Takes plainQueries isBlank (.seq (.call "feature_sum")
      (.seq (.call "comparator") (.call "feature_sum"))) _ tail _ :=
    .seq speaks_plainQueries.skips (left _ (by simpa using behind)) later
      (by simpa using behind.clear_blank)
  refine (Takes.call_silent find?_operandBody (by decide)
    (.choice_left (.call rfl (by decide) body))).imp ?_
  rintro _ ⟨n, rfl, rule, _, _, children, ⟨m, rfl, first⟩, _, _, rfl, ⟨k, rfl, spans⟩, m', rfl,
    second⟩
  exact ⟨n, rfl, operandOf_comparison rule children first (comparatorOf_spans spans) second⟩

/-- A set operator as it is written. -/
def joins (c : Char) (e e' : Expr) : Expr := if c = ',' then .intersection e e' else .union e e'

/-- A chain, a set operator and an operand are a chain. -/
theorem ChainSets.join {c : Char} (opens : ChainSets v cs e) (operator : c = ',' ∨ c = '|')
    (blank : Blank isBlank bs) (takes : TakesOperand v ds e')
    (clear : ∀ tail, Clear isBlank (ds ++ tail)) :
    ChainSets v (cs ++ ([c] ++ bs ++ ds)) (joins c e e') := by
  have isOperator : (',' == c || '|' == c) = true := by rcases operator with rfl | rfl <;> rfl
  refine Opens.join speaks_plainQueries.skips opens (fun tail end_ => ?_) (fun tail => ?_)
    fun tail => ?_
  · have sign : Takes plainQueries isBlank (.call "set_op") ([c] ++ bs) (ds ++ tail) _ :=
      .call_letter rfl (by decide) (p := fun c => ',' == c || '|' == c) rfl isOperator blank
    refine (Takes.seq speaks_plainQueries.skips sign (takes tail end_) (clear tail)).imp ?_
    rintro _ ⟨_, _, rfl, ⟨n, rfl, _, text⟩, n', rfl, built⟩
    refine ⟨n, n', rfl, fun later => ?_⟩
    have joined : joinSets n e e' = .ok (joins c e e') := by
      rw [joinSets, text]
      rcases operator with rfl | rfl <;> rfl
    change (operandOf v n' >>= fun f => joinSets n e f >>= fun e => joinOperands v e later) = _
    rw [built]
    change (joinSets n e e' >>= fun e => joinOperands v e later) = _
    rw [joined]
    rfl
  · intro d head
    cases head
    rcases operator with rfl | rfl <;> decide
  · rcases operator with rfl | rfl <;> exact Clear.cons.mpr (by decide)

end

/-! ### Reading sentences back -/

section

theorem Sentence.clear : ∀ (w : Sentence) {cs : List Char}, Spread w.tokens cs →
    ∀ tail, Clear isBlank (cs ++ tail)
  | .comparison left _ _, cs, spread, tail => by
    obtain ⟨a, b, rfl, first, -⟩ := spread.of_append
    rw [List.append_assoc]
    exact clear_blank first _
  | .negation _, cs, spread, tail => by
    obtain ⟨bs, b, rfl, -⟩ := spread.of_cons
    exact Clear.cons.mpr (by decide)
  | .intersection left _, cs, spread, tail | .union left _, cs, spread, tail => by
    obtain ⟨a, b, rfl, first, -⟩ := spread.of_append
    rw [List.append_assoc]
    exact left.clear first _

/-- No sentence begins with a sum in front of a closing bracket. -/
theorem Sentence.no_sum : ∀ (w : Sentence) {cs : List Char},
    Spread w.tokens cs → ∀ tail,
    Fails plainQueries .spaced (.seq (.call "feature_sum") (.literal [')'])) (cs ++ tail)
  | .comparison left sign _, cs, spread, tail => by
    obtain ⟨a, _, rfl, first, later⟩ := spread.of_append
    obtain ⟨bs, b, rfl, -⟩ := later.of_cons
    -- The sum is the left feature, and behind it stands a comparator.
    have behind := begins_sign sign (bs ++ b ++ tail)
    have sum := (left.reads (v := { capabilities := .none, fragments := .empty })
      speaks_plainQueries (Nat.zero_le 3) first).1 _
      (behind.mono (by decide))
    have closing : Fails plainQueries .spaced (.literal [')']) _ :=
      .literal (behind.clear (by decide))
    have fails := Fails.seq_right speaks_plainQueries.skips sum (behind.clear (by decide)) closing
    simpa [ruleAt] using fails
  | .negation _, cs, spread, tail => by
    obtain ⟨bs, _, rfl, blank, later⟩ := spread.of_cons
    obtain ⟨bs', inner, bs'', rfl, -⟩ := later.of_bracketed
    -- A sign in front of a bracket begins no number.
    have digit : Clear Char.isDigit (bs ++ ('(' :: (bs' ++ (inner ++ ([')'] ++ bs'')) ++ tail))) :=
      clear_blanks blank (by decide) (Clear.cons.mpr rfl)
    simpa using Fails.seq (b := .literal [')']) (speaks_plainQueries.sum_fails
      (speaks_plainQueries.atom_fails_sign digit))
  | .intersection left _, cs, spread, tail | .union left _, cs, spread, tail => by
    obtain ⟨a, b, rfl, first, -⟩ := spread.of_append
    rw [List.append_assoc]
    exact left.no_sum first _

variable {v : Vocabulary}

/-- The text is read as the operands of the expression, and as a single one if it is not joined. -/
def ReadsSentence (v : Vocabulary) (w : Sentence) (cs : List Char) : Prop :=
  ChainSets v cs w.expr ∧ (w.isJoined = false → TakesOperand v cs w.expr)

/-- A right operand, in brackets if it is joined. -/
theorem Sentence.right_operand {w : Sentence} {cs : List Char}
    (reads : ∀ {cs}, Spread w.tokens cs → ReadsSentence v w cs)
    (spread : Spread (if w.isJoined then inBrackets w.tokens else w.tokens) cs) :
    TakesOperand v cs w.expr ∧ ∀ tail, Clear isBlank (cs ++ tail) := by
  split at spread
  · obtain ⟨bs, inner, bs', rfl, blank, inside, blank'⟩ := spread.of_bracketed
    exact ⟨(reads inside).1.takes.operand blank (w.clear inside) blank' (w.no_sum inside),
      fun tail => Clear.cons.mpr (by decide)⟩
  · next single => exact ⟨(reads spread).2 (by simpa using single), w.clear spread⟩

/-- The tokens of a sentence are read as its expression. -/
theorem Sentence.reads : ∀ (w : Sentence) {cs : List Char}, Spread w.tokens cs →
    ReadsSentence v w cs
  | .comparison left sign right, cs, spread => by
    obtain ⟨a, _, rfl, first, later⟩ := spread.of_append
    obtain ⟨bs, b, rfl, blank, second⟩ := later.of_cons
    have equals : ∀ c, startsFormula c = true → ('=' == c) = false := fun c starts =>
      beq_eq_false_of (p := startsFormula) (by decide) starts
    have operand := comparison_operand (v := v) sign
      (left.reads speaks_plainQueries (Nat.zero_le 3) first).1 blank
      (right.reads speaks_plainQueries (Nat.zero_le 3) second).1 (clear_blank second)
      (Formula.clear second equals)
    exact ⟨operand.chain, fun _ => operand⟩
  | .negation w, cs, spread => by
    obtain ⟨bs, _, rfl, blank, later⟩ := spread.of_cons
    obtain ⟨bs', inner, bs'', rfl, blank', inside, blank''⟩ := later.of_bracketed
    have operand := (w.reads inside).1.takes.negation blank blank' (w.clear inside) blank''
    exact ⟨operand.chain, fun _ => operand⟩
  | .intersection left right, cs, spread => by
    obtain ⟨a, _, rfl, first, later⟩ := spread.of_append
    obtain ⟨bs, b, rfl, blank, second⟩ := later.of_cons
    obtain ⟨operand, clear⟩ := Sentence.right_operand right.reads second
    exact ⟨(left.reads first).1.join (.inl rfl) blank operand clear, fun single => by cases single⟩
  | .union left right, cs, spread => by
    obtain ⟨a, _, rfl, first, later⟩ := spread.of_append
    obtain ⟨bs, b, rfl, blank, second⟩ := later.of_cons
    obtain ⟨operand, clear⟩ := Sentence.right_operand right.reads second
    exact ⟨(left.reads first).1.join (.inr rfl) blank operand clear, fun single => by cases single⟩

/-! ### Parsing queries back -/

theorem ranking_fits_plainQueries : ranking.Fits plainQueries := by
  decide +kernel

theorem finish_taken : Takes plainQueries isBlank .finish [] [] fun _ => True :=
  fun _ => ⟨_, [], reads_finish.mpr rfl, rfl, by simp [Blank], trivial⟩

/-- The tree of a sentence. -/
theorem Sentence.reads_query (w : Sentence) {text : String} (spells : w.Spells text) :
    ∃ m query set rest, Reads plainQueries (.expr (.call "query")) {} 0 text.toList (some m) ∧
      m.nodes = [query] ∧ query.rule = "query" ∧ query.children = set :: rest ∧
      IsSet v w.expr set := by
  obtain ⟨bs, cs, chars, blank, spread⟩ := spells
  have skips := speaks_plainQueries.skips
  have set := (w.reads (v := v) spread).1.takes [] (by simp [BeginsIn])
  have body : Takes plainQueries isBlank (.seq (.call "set_expr") .finish) (cs ++ []) [] _ :=
    .seq skips set finish_taken (by simp)
  obtain ⟨m, bs', read, -, -, nodes, rest, split, ⟨n, rfl, isSet⟩, -⟩ := body (Text.byteSize bs)
  have clear : Clear isBlank cs := by simpa using w.clear spread []
  have inner : Reads plainQueries (.spaced (.seq (.call "set_expr") .finish)) {} 0 (bs ++ cs) _ :=
    (reads_behind_blanks skips rfl blank clear).mpr ⟨some m, by simpa using read, rfl⟩
  have start : Reads plainQueries (.expr .start) {} 0 (bs ++ cs) (some (.empty (bs ++ cs))) :=
    .leaf rfl
  rw [chars]
  exact ⟨_, _, n, rest, (reads_call_normal rfl (by decide)).mpr ⟨_, .seq start inner, rfl⟩, rfl,
    rfl, by simpa using split, isSet⟩

/-- A text that spells a sentence is parsed to its expression. -/
theorem Sentence.parse_eq_ok {engine : Engine} {w : Sentence} {text : String}
    (parser : engine.parser = plainQueries.parse "query") (spells : w.Spells text) :
    engine.parse text = .ok w.expr := by
  obtain ⟨m, query, set, rest, read, single, root, children, rule, built⟩ :=
    w.reads_query (v := engine.vocabulary) spells
  have low : ranking.descends ranking.order.length (callOf true "query") = true := by decide
  have attempted : Reads plainQueries (.expr (callOf true "query")) {} 0 text.toList _ :=
    attempt_reads ranking_fits_plainQueries low (size_call_le_weight _ _) text.toList
  have found := attempted.unique read
  have parsed : engine.parser text = .ok [query] := by
    rw [parser, Grammar.parse]
    simp only [found, single]
  rw [Engine.parse, parsed]
  simp [bind, Except.bind, exprOf, ParseNode.is, root, ParseNode.child?, children, rule, built]

end

/-! ### The inverse -/

/-- Expressions of comparisons between features that can be written. -/
inductive Comparing : Expr → Prop where
  | comparison {left right : Feature} (c : Comparator) :
      Writable left → Writable right → Comparing (.comparison left c right)
  | negation {e : Expr} : Comparing e → Comparing (.negation e)
  | intersection {e e' : Expr} : Comparing e → Comparing e' → Comparing (.intersection e e')
  | union {e e' : Expr} : Comparing e → Comparing e' → Comparing (.union e e')

theorem Comparing.exists_sentence {e : Expr} (comparing : Comparing e) :
    ∃ w : Sentence, w.expr = e := by
  induction comparing with
  | comparison c left right =>
    obtain ⟨l, rfl⟩ := left.exists_formula
    obtain ⟨r, rfl⟩ := right.exists_formula
    exact ⟨.comparison l ⟨c.symbol, c, by simp⟩ r, rfl⟩
  | negation _ ih =>
    obtain ⟨w, rfl⟩ := ih
    exact ⟨.negation w, rfl⟩
  | intersection _ _ ih ih' =>
    obtain ⟨w, rfl⟩ := ih
    obtain ⟨w', rfl⟩ := ih'
    exact ⟨.intersection w w', rfl⟩
  | union _ _ ih ih' =>
    obtain ⟨w, rfl⟩ := ih
    obtain ⟨w', rfl⟩ := ih'
    exact ⟨.union w w', rfl⟩

theorem parser_of_plain {d : Dataset} {v : Vocabulary} {capabilities : Capabilities}
    {engine : Engine} (made : Engine.withCapabilities d v capabilities = .ok engine)
    (bare : v.fragments = Fragments.empty)
    (offers : capabilities.inter v.capabilities = { features := true }) :
    engine.parser = plainQueries.parse "query" := by
  rw [Engine.withCapabilities, Engine.grammarOf, bare, offers, compose_plainQueries] at made
  change Engine.ofParts d v (plainQueries.parse "query") = .ok engine at made
  rw [Engine.ofParts] at made
  split at made
  · rw [← Except.ok.inj made]
  · cases made

/-- Where only features are enabled and there is no vocabulary, every text that spells a sentence is
parsed to the expression of the sentence, its own text among them, and every expression of
comparisons between features that can be written has such a sentence. -/
theorem parse_written {d : Dataset} {v : Vocabulary} {capabilities : Capabilities} {engine : Engine}
    (made : Engine.withCapabilities d v capabilities = .ok engine)
    (bare : v.fragments = Fragments.empty)
    (offers : capabilities.inter v.capabilities = { features := true }) :
    (∀ w : Sentence, engine.parse w.text = .ok w.expr ∧
      ∀ text, w.Spells text → engine.parse text = .ok w.expr) ∧
    ∀ e, Comparing e → ∃ w : Sentence, w.expr = e ∧ engine.parse w.text = .ok e := by
  have parser := parser_of_plain made bare offers
  have spelled (w : Sentence) (text : String) (spells : w.Spells text) :
      engine.parse text = .ok w.expr := w.parse_eq_ok parser spells
  refine ⟨fun w => ⟨spelled w _ w.spells_text, spelled w⟩, fun e comparing => ?_⟩
  obtain ⟨w, rfl⟩ := comparing.exists_sentence
  exact ⟨w, rfl, spelled w _ w.spells_text⟩

/-- A vocabulary that adds nothing to features. -/
def bareVocabulary : Vocabulary where
  capabilities := { features := true }
  fragments := .empty

/-- The path of a single name. -/
def nameA : IdentifierPath where
  path := ⟨["a"]⟩
  nonempty := by simp
  identifiers := by
    intro s mem
    obtain rfl := List.mem_singleton.mp mem
    exact ⟨'a', [], rfl, by decide, by simp⟩

/-- A number of one digit. -/
def digitTwo : NumberLiteral := ⟨false, ⟨['2'], by simp, by decide⟩, none, none⟩

/-- A negative number with a fraction and an exponent. -/
def minusFifteenHundred : NumberLiteral :=
  ⟨true, ⟨['1'], by simp, by decide⟩, some ⟨['5'], by simp, by decide⟩,
    some ⟨false, some .plus, ⟨['3'], by simp, by decide⟩⟩⟩

/-- A sentence with brackets around a sum, around arguments, behind a negation and around a right
operand. -/
def nestedSentence : Sentence :=
  .intersection
    (.negation (.comparison (.field nameA) ⟨"<", .less, rfl⟩ (.number minusFifteenHundred)))
    (.union
      (.comparison (.extremum .max (.more (.field nameA) (.one (.number digitTwo))))
        ⟨"==", .equal, rfl⟩ (.text (.of "x")))
      (.comparison (.field nameA) ⟨">=", .greaterOrEqual, rfl⟩
        (.binary .multiply (.binary .subtract (.field nameA) (.number digitTwo))
          (.number digitTwo))))

theorem parse_written_nested :
    Engine.withCapabilities .empty bareVocabulary { features := true } =
        .ok ⟨.empty, bareVocabulary, plainQueries.parse "query"⟩ ∧
      (Engine.mk .empty bareVocabulary (plainQueries.parse "query")).parse
          "-(.a<-1.5e+3),(max(.a,2)==\"x\"|.a>=(.a-2)*2)" =
        .ok (.intersection
          (.negation (.comparison (.field ⟨["a"]⟩) .less (.number (-Decimal.rounded 15 2))))
          (.union
            (.comparison (.extremum .max [.field ⟨["a"]⟩, .number (Decimal.rounded 2 0)]) .equal
              (.text "x"))
            (.comparison (.field ⟨["a"]⟩) .greaterOrEqual
              (.binary .multiply
                (.binary .subtract (.field ⟨["a"]⟩) (.number (Decimal.rounded 2 0)))
                (.number (Decimal.rounded 2 0)))))) := by
  have made : Engine.withCapabilities .empty bareVocabulary { features := true } =
      .ok ⟨.empty, bareVocabulary, plainQueries.parse "query"⟩ := by
    rw [Engine.withCapabilities, Engine.grammarOf]
    change (skeleton.compose { features := true } Fragments.empty >>= fun grammar =>
      Engine.ofParts .empty bareVocabulary grammar.parser) = _
    rw [compose_plainQueries]
    rfl
  have text : nestedSentence.text = "-(.a<-1.5e+3),(max(.a,2)==\"x\"|.a>=(.a-2)*2)" := by
    decide +kernel
  refine ⟨made, ?_⟩
  rw [← text]
  exact ((parse_written made rfl rfl).1 nestedSentence).1

end Dialect.Query
