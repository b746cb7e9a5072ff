import Dialect.Proofs.Query.Tokens

/-!
Features as operands.

Powers bind tighter than products, products tighter than sums, and each of them groups to the left.
`TakesAt` says that a text is read as an operand of such a level, in front of all that may follow
it; there is one lemma for each kind of operand. `Written` texts are put together from operands,
with any brackets and blanks. Main statement: `Written.reads` (a text that is written for a feature
is read as it, whatever features the paths in it are).
-/

namespace Dialect.Query

open Grammar

/-! ### First characters -/

/-- The character may begin a feature. -/
def startsFormula (c : Char) : Bool := c.isDigit || ['-', '"', '.', '(', 'm'].contains c

theorem isBlank_of_startsFormula {c : Char} (starts : startsFormula c = true) :
    isBlank c = false :=
  contains_eq_false_of (by decide) starts

/-! ### Levels -/

/-- What may stand behind an operand of a level: what ends a feature, and the operators that bind
less tightly. -/
def follow (ℓ : Nat) : List Char :=
  ['<', '>', '=', ',', '|', ')'] ++ match ℓ with
    | 0 => []
    | 1 => ['+', '-']
    | 2 => ['+', '-', '*', '/']
    | _ => ['+', '-', '*', '/', '^']

/-- The text is empty or begins with one of the characters. -/
def BeginsIn (set : List Char) (cs : List Char) : Prop := ∀ c, cs.head? = some c → c ∈ set

abbrev Follows (ℓ : Nat) (tail : List Char) : Prop := BeginsIn (follow ℓ) tail

/-- The rule of the operands of a level. -/
def ruleAt : Nat → String
  | 0 => "feature_sum"
  | 1 => "feature_product"
  | 2 => "feature_power"
  | _ => "feature_atom"

/-- An operator of the level and the operand behind it. -/
def stepAt (ℓ : Nat) : Grammar.Expr := .seq (.call (operatorRule ℓ)) (.call (ruleAt (ℓ + 1)))

section Levels

variable {g : Grammar} {named : Bool} {v : Vocabulary} {ℓ m : Nat} {cs ds tail : List Char}
  {f f' : Feature}

theorem follow_subset : ∀ ℓ : Nat, follow ℓ ⊆ follow 3
  | 0 => by decide
  | 1 => by decide
  | 2 => by decide
  | _ + 3 => List.Subset.refl _

theorem BeginsIn.clear {set : List Char} {p : Char → Bool} (begins : BeginsIn set cs)
    (outside : ∀ c ∈ set, p c = false) : Clear p cs :=
  fun c head => outside c (begins c head)

theorem BeginsIn.mono {set set' : List Char} (begins : BeginsIn set cs) (within : set ⊆ set') :
    BeginsIn set' cs :=
  fun c head => within (begins c head)

theorem Follows.clear_blank (follows : Follows ℓ tail) : Clear isBlank tail :=
  follows.clear fun c mem => (by decide : ∀ c ∈ follow 3, isBlank c = false) c (follow_subset ℓ mem)

theorem Follows.succ (follows : Follows ℓ tail) : Follows (ℓ + 1) tail := by
  have grows : follow ℓ ⊆ follow (ℓ + 1) :=
    match ℓ with
    | 0 | 1 | 2 => by decide
    | _ + 3 => List.Subset.refl _
  exact follows.mono grows

/-- The text is read as an operand of the level that is the feature, whatever follows. -/
def TakesAt (g : Grammar) (v : Vocabulary) (ℓ : Nat) (cs : List Char) (f : Feature) : Prop :=
  ∀ tail, Follows ℓ tail →
    Takes g isBlank (.call (ruleAt ℓ)) cs tail (.single fun n => featureOf v n = .ok f)

/-- The text opens a chain of the level that is the feature. -/
def ChainAt (g : Grammar) (v : Vocabulary) (ℓ : Nat) (cs : List Char) (f : Feature) : Prop :=
  Opens g isBlank (.call (ruleAt (ℓ + 1))) (stepAt ℓ) (Follows (ℓ + 1)) (featureOf v)
    (chain v (ruleAt ℓ)) cs f

theorem featureOf_chain {n first : ParseNode} {rest : List ParseNode} (low : ℓ < 3)
    (rule : n.rule = ruleAt ℓ) (children : n.children = first :: rest) :
    featureOf v n = (featureOf v first >>= fun f => chain v (ruleAt ℓ) f rest) := by
  obtain ⟨_, text, start, stop, _⟩ := n
  subst rule children
  match ℓ, low with
  | 0, _ | 1, _ | 2, _ => rfl

theorem Speaks.find?_level (speaks : Speaks g named) (low : ℓ < 3) :
    g.find? (ruleAt ℓ) = some ⟨ruleAt ℓ, .normal, chainOf (ruleAt (ℓ + 1)) (operatorRule ℓ)⟩ ∧
      isSkipRule (ruleAt ℓ) = false :=
  match ℓ, low with
  | 0, _ | 1, _ | 2, _ => ⟨speaks.find? (by decide) rfl, by decide⟩

/-- No operator of a level follows its operands. -/
theorem Speaks.operator_fails (speaks : Speaks g named) (low : ℓ < 3) (follows : Follows ℓ tail) :
    Fails g .spaced (.call (operatorRule ℓ)) tail :=
  match ℓ, low with
  | 0, _ => .call_atomic (speaks.find? (by decide) rfl)
      (.letter (p := fun c => '+' == c || '-' == c) rfl (follows.clear (by decide)))
  | 1, _ => .call_atomic (speaks.find? (by decide) rfl)
      (.letter (p := fun c => '*' == c || '/' == c) rfl (follows.clear (by decide)))
  | 2, _ => .call_atomic (speaks.find? (by decide) rfl)
      (.letter (p := fun c => '^' == c) rfl (follows.clear (by decide)))

/-- An operand of the next level opens a chain. -/
theorem TakesAt.chain (speaks : Speaks g named) (takes : TakesAt g v (ℓ + 1) cs f) :
    ChainAt g v ℓ cs f :=
  .single speaks.skips takes

/-- A chain is an operand of its level, once no operator of the level follows. -/
theorem ChainAt.takes (speaks : Speaks g named) (low : ℓ < 3) (opens : ChainAt g v ℓ cs f) :
    TakesAt g v ℓ cs f := by
  intro tail follows
  obtain ⟨found, plain⟩ := speaks.find?_level low
  have step : Fails g .spaced (stepAt ℓ) tail := .seq (speaks.operator_fails low follows)
  refine (Takes.call found plain
    (Opens.takes speaks.skips opens step follows.succ follows.clear_blank)).imp ?_
  rintro _ ⟨n, rfl, rule, first, rest, a, children, built, folded⟩
  refine ⟨n, rfl, (featureOf_chain low rule children).trans ?_⟩
  rw [built]
  exact folded

/-- An operand that no operator follows is one of the level below. -/
theorem Speaks.level_taken (speaks : Speaks g named) {made : Except Error Feature} (low : ℓ < 3)
    (follows : Follows ℓ tail) (takes : Takes g isBlank (.call (ruleAt (ℓ + 1))) cs tail
      (.single fun n => featureOf v n = made)) :
    Takes g isBlank (.call (ruleAt ℓ)) cs tail (.single fun n => featureOf v n = made) := by
  obtain ⟨found, plain⟩ := speaks.find?_level low
  have step : Fails g .spaced (stepAt ℓ) tail := .seq (speaks.operator_fails low follows)
  have whole := Takes.seq_star speaks.skips (by simpa using takes)
    (.nil speaks.skips step follows.clear_blank) follows.clear_blank
  rw [List.append_nil] at whole
  refine (Takes.call found plain whole).imp ?_
  rintro _ ⟨n, rfl, rule, _, _, children, ⟨m, rfl, built⟩, rfl⟩
  refine ⟨n, rfl, (featureOf_chain low rule children).trans ?_⟩
  rw [built]
  exact bind_pure made

/-- An atom that no operator follows is a sum. -/
theorem Speaks.sum_taken (speaks : Speaks g named) {made : Except Error Feature}
    (follows : Follows 0 tail)
    (takes : Takes g isBlank (.call "feature_atom") cs tail
      (.single fun n => featureOf v n = made)) :
    Takes g isBlank (.call "feature_sum") cs tail (.single fun n => featureOf v n = made) :=
  speaks.level_taken (by decide) follows (speaks.level_taken (by decide) follows.succ
    (speaks.level_taken (by decide) follows.succ.succ takes))

theorem operatorOf_spans {rule : String} {op : Operator} {n : ParseNode}
    (spans : Spans rule op.symbol.toList n) : operatorOf n = .ok op := by
  rw [operatorOf, spans.2, String.ofList_toList, Operator.ofSymbol?_symbol]

theorem level_lt (op : Operator) : level op < 3 := by
  cases op <;> decide

theorem follows_symbol (op : Operator) (tail : List Char) :
    Follows (level op + 1) (op.symbol.toList ++ tail) := by
  intro c head
  cases op <;> cases head <;> decide

/-- A chain, an operator of its level and an operand of the next level are a chain. -/
theorem ChainAt.join (speaks : Speaks g named) {op : Operator} {bs : List Char}
    (opens : ChainAt g v (level op) cs f) (blanks : Blank isBlank bs)
    (takes : TakesAt g v (level op + 1) ds f') (clear : ∀ tail, Clear isBlank (ds ++ tail)) :
    ChainAt g v (level op) (cs ++ (op.symbol.toList ++ bs ++ ds)) (.binary op f f') := by
  refine Opens.join speaks.skips opens (fun tail follows => ?_) (fun tail => ?_) fun tail => ?_
  · refine (Takes.seq speaks.skips (speaks.operator_taken op blanks) (takes tail follows)
      (clear tail)).imp ?_
    rintro _ ⟨_, _, rfl, ⟨n, rfl, spans⟩, n', rfl, built⟩
    refine ⟨n, n', rfl, fun later => ?_⟩
    rw [Query.chain, operatorOf_spans spans, built]
    rfl
  · rw [List.append_assoc, List.append_assoc]
    exact follows_symbol op _
  · rw [List.append_assoc, List.append_assoc]
    exact (follows_symbol op _).clear_blank

/-- The text is read as an operand of the level, and as a chain if the level has operators. -/
def ReadsAt (g : Grammar) (v : Vocabulary) (ℓ : Nat) (cs : List Char) (f : Feature) : Prop :=
  TakesAt g v ℓ cs f ∧ (ℓ < 3 → ChainAt g v ℓ cs f)

theorem ReadsAt.of_chain (speaks : Speaks g named) (low : ℓ < 3) (opens : ChainAt g v ℓ cs f) :
    ReadsAt g v ℓ cs f :=
  ⟨opens.takes speaks low, fun _ => opens⟩

/-- An operand of a level is one of each lower level. -/
theorem ReadsAt.descend (speaks : Speaks g named) (reads : ReadsAt g v m cs f) (le : ℓ ≤ m)
    (bound : m ≤ 3) : ReadsAt g v ℓ cs f := by
  induction m with
  | zero => rwa [Nat.le_zero.mp le]
  | succ m ih =>
    rcases Nat.le_succ_iff.mp le with le | rfl
    · exact ih (.of_chain speaks (by omega) (reads.1.chain speaks)) le (by omega)
    · exact reads

theorem ReadsAt.of_atom (speaks : Speaks g named) (takes : TakesAt g v 3 cs f) (bound : ℓ ≤ 3) :
    ReadsAt g v ℓ cs f :=
  ReadsAt.descend speaks ⟨takes, fun low => absurd low (by decide)⟩ bound (Nat.le_refl 3)

end Levels

/-! ### Atoms -/

section Atoms

variable {g : Grammar} {named : Bool} {v : Vocabulary} {bs cs tail : List Char} {f : Feature}

/-- A sum in brackets. -/
def brackets : Grammar.Expr := .seq (.literal ['(']) (.seq (.call "feature_sum") (.literal [')']))

/-- The atoms that are no features by name. -/
def atoms : Grammar.Expr :=
  .choice (.call "extremum") (.choice (.call "field") (.choice brackets
    (.choice (.call "number") (.call "string"))))

theorem Speaks.find?_atom (speaks : Speaks g named) : g.find? "feature_atom" =
    some ⟨"feature_atom", .silent, orElse named (.call "story_feature") atoms⟩ :=
  speaks.find? (by decide) rfl

/-- Features by name begin with a point. -/
theorem Speaks.story_feature_fails (speaks : Speaks g named) (clear : Clear ('.' == ·) cs) :
    Fails g .spaced (.call "story_feature") cs := by
  cases named with
  | false =>
    have none : g.find? "story_feature" = none := speaks.rules _ (by decide)
    exact fun _ => .missing none
  | true =>
    exact .call_atomic (speaks.find? (by decide) rfl) (.seq (.choice (.literal clear)
      (.choice (.literal clear) (.choice (.literal clear) (.choice (.literal clear)
        (.literal clear))))))

theorem Speaks.atom_taken {P : Shape} (speaks : Speaks g named)
    (clear : Clear ('.' == ·) (cs ++ tail))
    (takes : Takes g isBlank atoms cs tail P) :
    Takes g isBlank (.call "feature_atom") cs tail P := by
  refine .call_silent speaks.find?_atom (by decide) ?_
  cases named with
  | false => exact takes
  | true => exact .choice_right (speaks.story_feature_fails clear) takes

theorem Speaks.extremum_fails (speaks : Speaks g named) (clear : Clear ('m' == ·) cs) :
    Fails g .spaced (.call "extremum") cs :=
  .call_normal (speaks.find? (by decide) rfl) (by decide)
    (.seq (.call_atomic (speaks.find? (by decide) rfl) (.choice (.literal clear) (.literal clear))))

theorem Speaks.field_fails (speaks : Speaks g named) (clear : Clear ('.' == ·) cs) :
    Fails g .spaced (.call "field") cs :=
  .call_atomic (speaks.find? (by decide) rfl) (.seq (.seq (.literal clear)))

theorem Speaks.string_fails (speaks : Speaks g named) (clear : Clear ('"' == ·) cs) :
    Fails g .spaced (.call "string") cs :=
  .call_compound (speaks.find? (by decide) rfl) (.seq (.literal clear))

theorem Speaks.number_fails (speaks : Speaks g named) (sign : Clear ('-' == ·) cs)
    (digit : Clear Char.isDigit cs) : Fails g .spaced (.call "number") cs := by
  refine .call_atomic (speaks.find? (by decide) rfl) ?_
  exact .seq_token [] (by decide) (.opt_none (.literal sign))
    (.seq (.seq (.letter rfl digit)))

/-- A sign begins a number only in front of a digit. -/
theorem Speaks.number_fails_sign (speaks : Speaks g named) (digit : Clear Char.isDigit cs) :
    Fails g .spaced (.call "number") ('-' :: cs) := by
  refine .call_atomic (speaks.find? (by decide) rfl) ?_
  exact .seq_token ['-'] (by decide) (.opt (.literal _))
    (.seq (.seq (.letter rfl digit)))

/-- No atom begins without the letter of an extremum, a point, a mark of quotes, a sum in brackets
or a number. -/
theorem Speaks.atom_fails (speaks : Speaks g named) (letter : Clear ('m' == ·) cs)
    (point : Clear ('.' == ·) cs) (quote : Clear ('"' == ·) cs)
    (bracketed : Fails g .spaced brackets cs) (number : Fails g .spaced (.call "number") cs) :
    Fails g .spaced (.call "feature_atom") cs := by
  have fails : Fails g .spaced atoms cs :=
    .choice (speaks.extremum_fails letter) (.choice (speaks.field_fails point)
      (.choice bracketed (.choice number (speaks.string_fails quote))))
  refine .call_silent speaks.find?_atom (by decide) ?_
  cases named with
  | false => exact fails
  | true => exact .choice (speaks.story_feature_fails point) fails

theorem Speaks.atom_fails_clear (speaks : Speaks g named) (clear : Clear startsFormula cs) :
    Fails g .spaced (.call "feature_atom") cs := by
  have other {t : Char} (starts : startsFormula t = true) : Clear (t == ·) cs :=
    clear.imp fun c outside => by
      rw [beq_eq_false_iff_ne]
      rintro rfl
      rw [starts] at outside
      cases outside
  have digit : Clear Char.isDigit cs := clear.imp fun c outside => by simp_all [startsFormula]
  exact speaks.atom_fails (other (by decide)) (other (by decide)) (other (by decide))
    (.seq (.literal (other (by decide)))) (speaks.number_fails (other (by decide)) digit)

/-- A sign begins a number only in front of a digit, so the mark of a negation begins no feature. -/
theorem Speaks.atom_fails_sign (speaks : Speaks g named) (digit : Clear Char.isDigit cs) :
    Fails g .spaced (.call "feature_atom") ('-' :: cs) := by
  have clear {t : Char} (other : (t == '-') = false) : Clear (t == ·) ('-' :: cs) :=
    Clear.cons.mpr other
  exact speaks.atom_fails (clear rfl) (clear rfl) (clear rfl) (.seq (.literal (clear rfl)))
    (speaks.number_fails_sign digit)

/-- A bracket begins a feature only if a whole sum is in brackets. -/
theorem Speaks.atom_fails_bracket (speaks : Speaks g named)
    (sum : Fails g .spaced brackets ('(' :: cs)) :
    Fails g .spaced (.call "feature_atom") ('(' :: cs) := by
  have clear {t : Char} (other : (t == '(') = false) : Clear (t == ·) ('(' :: cs) :=
    Clear.cons.mpr other
  exact speaks.atom_fails (clear rfl) (clear rfl) (clear rfl) sum
    (speaks.number_fails (clear rfl) (Clear.cons.mpr rfl))

/-- Where no atom begins, no sum does. -/
theorem Speaks.sum_fails (speaks : Speaks g named)
    (fails : Fails g .spaced (.call "feature_atom") cs) :
    Fails g .spaced (.call "feature_sum") cs := by
  have level {ℓ : Nat} (low : ℓ < 3) (fails : Fails g .spaced (.call (ruleAt (ℓ + 1))) cs) :
      Fails g .spaced (.call (ruleAt ℓ)) cs :=
    .call_normal (speaks.find?_level low).1 (speaks.find?_level low).2 (.seq fails)
  exact level (ℓ := 0) (by decide) (level (ℓ := 1) (by decide) (level (ℓ := 2) (by decide) fails))

theorem Speaks.comparison_fails (speaks : Speaks g named)
    (fails : Fails g .spaced (.call "feature_atom") cs) :
    Fails g .spaced (.call "comparison") cs :=
  .call_normal (speaks.find? (by decide) rfl) (by decide) (.seq (speaks.sum_fails fails))

theorem featureOf_number {n : ParseNode} (rule : n.rule = "number") :
    featureOf v n = numberOf n.text := by
  obtain ⟨_, _, _, _, _⟩ := n
  subst rule
  rw [featureOf.eq_def]
  simp [isChainRule]

theorem featureOf_string {n : ParseNode} (rule : n.rule = "string") :
    featureOf v n = (unquote n.text).map Feature.text := by
  obtain ⟨_, _, _, _, _⟩ := n
  subst rule
  rw [featureOf.eq_def]
  simp [isChainRule]

theorem featureOf_field {n : ParseNode} (rule : n.rule = "field") :
    featureOf v n = (FieldPath.read n.text).map Feature.field := by
  obtain ⟨_, _, _, _, _⟩ := n
  subst rule
  rw [featureOf.eq_def]
  simp [isChainRule]

/-- The words for the features of stories. -/
def featureWords : List String := [".ratio", ".status", ".likes", ".dislikes", ".wordcount"]

theorem storyFeature?_isSome {s : String} :
    (Archive.storyFeature? s).isSome = true ↔ s ∈ featureWords := by
  constructor
  · intro known
    unfold Archive.storyFeature? at known
    split at known
    · decide
    · decide
    · decide
    · decide
    · decide
    · cases known
  · have all : ∀ word ∈ featureWords, (Archive.storyFeature? word).isSome = true := by decide
    exact all s

theorem featureOf_story {index : Archive.TagIndex} {n : ParseNode}
    (rule : n.rule = "story_feature") (known : Archive.storyFeature? n.text = some f) :
    featureOf (Archive.storyVocabulary index) n = .ok f := by
  obtain ⟨_, text, start, stop, children⟩ := n
  obtain rfl := rule
  rw [featureOf.eq_def]
  simp [isChainRule, foreignFeature, Archive.storyVocabulary, Archive.storyFeature, ParseNode.is,
    known, bind, Except.bind, pure, Except.pure]

theorem featureOf_extremum {n name : ParseNode} {arguments : List ParseNode} {side : Extreme}
    {fs : List Feature} (rule : n.rule = "extremum") (children : n.children = name :: arguments)
    (named : name.text = side.word) (built : featuresOf v arguments = .ok fs) :
    featureOf v n = .ok (.extremum side fs) := by
  obtain ⟨_, text, start, stop, _⟩ := n
  subst rule children
  have side_ : extremeOf name = .ok side := by
    rw [extremeOf, named]
    cases side <;> rfl
  simp [featureOf, isChainRule, built, side_, bind, Except.bind, pure, Except.pure]

/-- The text of a number begins with a digit or a sign. -/
theorem NumberLiteral.clear {n : NumberLiteral} {p : Char → Bool}
    (outside : ∀ c, (c.isDigit || '-' == c) = true → p c = false) (tail : List Char) :
    Clear p (n.chars ++ tail) := by
  obtain ⟨d, ds, unsigned, digit⟩ := n.unsigned_cons
  rw [chars, unsigned]
  cases n.negative with
  | false => exact Clear.cons.mpr (outside d (by simp [digit]))
  | true => exact Clear.cons.mpr (outside '-' rfl)

theorem NumberLiteral.clear_beq {n : NumberLiteral} {t : Char} (tail : List Char)
    (outside : (t.isDigit || '-' == t) = false) : Clear (t == ·) (n.chars ++ tail) :=
  n.clear (fun _ starts => beq_eq_false_of (p := fun c => c.isDigit || '-' == c) outside starts)
    tail

/-- A number is an atom. -/
theorem Speaks.number_atom (speaks : Speaks g named) (n : NumberLiteral)
    (blank : Blank isBlank bs) :
    TakesAt g v 3 (n.chars ++ bs) (.number n.value) := by
  intro tail follows
  have clear : Clear continuesNumber (bs ++ tail) :=
    clear_blanks blank (by decide) (follows.clear (by decide))
  have takes := speaks.number_taken n blank clear
  refine (speaks.atom_taken ?_ (.choice_right ?_ (.choice_right ?_
    (.choice_right ?_ (.choice_left takes))))).imp ?_
  · rw [List.append_assoc]
    exact n.clear_beq _ (by decide)
  · rw [List.append_assoc]
    exact speaks.extremum_fails (n.clear_beq _ (by decide))
  · rw [List.append_assoc]
    exact speaks.field_fails (n.clear_beq _ (by decide))
  · rw [List.append_assoc]
    exact .seq (.literal (n.clear_beq _ (by decide)))
  · rintro _ ⟨m, rfl, rule, text⟩
    exact ⟨m, rfl, (featureOf_number rule).trans (text ▸ n.numberOf_chars)⟩

/-- A text in quotes is an atom, whether it denotes a text or not. -/
theorem Speaks.quoted_atom (speaks : Speaks g named) {q : List Char}
    (quoted : Text.Quoted.InQuotes q) (blank : Blank isBlank bs) (tail : List Char) :
    Takes g isBlank (.call "feature_atom") (q ++ bs) tail
      (.single fun n => featureOf v n = (unquote (String.ofList q)).map Feature.text) := by
  have begins {p : Char → Bool} (outside : p '"' = false) : Clear p (q ++ bs ++ tail) := by
    rw [List.append_assoc]
    exact clear_inQuotes quoted outside _
  refine (speaks.atom_taken (begins rfl)
    (.choice_right (speaks.extremum_fails (begins rfl))
      (.choice_right (speaks.field_fails (begins rfl))
        (.choice_right (.seq (.literal (begins rfl)))
          (.choice_right (speaks.number_fails (begins rfl) (begins rfl))
            (speaks.string_taken quoted blank)))))).imp ?_
  rintro _ ⟨m, rfl, rule, text⟩
  exact ⟨m, rfl, (featureOf_string rule).trans (by rw [text])⟩

theorem Speaks.text_atom (speaks : Speaks g named) (q : QuotedLiteral) (blank : Blank isBlank bs) :
    TakesAt g v 3 (q.chars ++ bs) (.text q.value) := by
  intro tail follows
  have takes := speaks.quoted_atom (v := v) q.inQuotes blank tail
  rw [q.unquote_chars] at takes
  exact takes

/-- A path of identifiers is among the atoms that are no features by name. -/
theorem Speaks.field_taken_atoms (speaks : Speaks g named) (p : IdentifierPath)
    (blank : Blank isBlank bs) (clear : Clear continuesPath (bs ++ tail)) :
    Takes g isBlank atoms (p.path.text.toList ++ bs) tail
      (.single (Spans "field" p.path.text.toList)) := by
  have first : Fails g .spaced (.call "extremum") (p.path.text.toList ++ bs ++ tail) := by
    rw [List.append_assoc]
    exact speaks.extremum_fails (p.clear (by decide) _)
  exact .choice_right first (.choice_left (speaks.field_taken p blank clear))

theorem featureOf_path {n : ParseNode} (p : IdentifierPath)
    (spans : Spans "field" p.path.text.toList n) : featureOf v n = .ok (.field p.path) := by
  obtain ⟨rule, text⟩ := spans
  rw [featureOf_field rule, text, String.ofList_toList, p.read_text]
  rfl

theorem Speaks.field_atom (speaks : Speaks g false) (p : IdentifierPath)
    (blank : Blank isBlank bs) :
    TakesAt g v 3 (p.path.text.toList ++ bs) (.field p.path) := by
  intro tail follows
  have clear : Clear continuesPath (bs ++ tail) :=
    clear_blanks blank (by decide) (follows.clear (by decide))
  refine (Takes.call_silent speaks.find?_atom (by decide)
    (speaks.field_taken_atoms p blank clear)).imp ?_
  rintro _ ⟨m, rfl, spans⟩
  exact ⟨m, rfl, featureOf_path p spans⟩

/-- A sum in brackets is an atom. -/
theorem Speaks.bracketed_atom (speaks : Speaks g named) {bs' : List Char} (blank : Blank isBlank bs)
    (takes : TakesAt g v 0 cs f) (clear : ∀ tail, Clear isBlank (cs ++ tail))
    (blank' : Blank isBlank bs') :
    TakesAt g v 3 (['('] ++ bs ++ (cs ++ ([')'] ++ bs'))) f := by
  intro tail follows
  have closing : Follows 0 ([')'] ++ bs' ++ tail) := by
    intro c head
    cases head
    decide
  have inner : Takes g isBlank (.seq (.call "feature_sum") (.literal [')'])) _ tail _ :=
    .seq speaks.skips (takes _ closing) (.literal [')'] blank') closing.clear_blank
  have whole : Takes g isBlank brackets _ tail _ := .seq speaks.skips (.literal ['('] blank) inner
    (by rw [List.append_assoc]; exact clear _)
  refine (speaks.atom_taken (Clear.cons.mpr rfl)
    (.choice_right (speaks.extremum_fails (Clear.cons.mpr rfl))
      (.choice_right (speaks.field_fails (Clear.cons.mpr rfl)) (.choice_left whole)))).imp ?_
  rintro _ ⟨_, _, rfl, rfl, _, _, rfl, ⟨n, rfl, built⟩, rfl⟩
  exact ⟨n, rfl, built⟩

/-- A further argument. -/
def argument : Grammar.Expr := .seq (.literal [',']) (.call "feature_sum")

/-- The text is read as arguments that are the features: the first, and what follows it as rounds in
front of a closing bracket. -/
structure ReadsArguments (g : Grammar) (v : Vocabulary) (cs : List Char) (fs : List Feature) :
    Prop where
  parts : ∃ first later f rest, cs = first ++ later ∧ fs = f :: rest ∧ TakesAt g v 0 first f ∧
    (∀ tail, Clear isBlank (first ++ tail)) ∧ ∀ tail, tail.head? = some ')' →
      Rounds g isBlank argument later tail (fun nodes => featuresOf v nodes = .ok rest) ∧
        Follows 0 (later ++ tail)

theorem follows_bracket (head : tail.head? = some ')') : Follows 0 tail := by
  intro c first
  rw [head] at first
  cases first
  decide

theorem ReadsArguments.one (speaks : Speaks g named) (takes : TakesAt g v 0 cs f)
    (clear : ∀ tail, Clear isBlank (cs ++ tail)) : ReadsArguments g v cs [f] := by
  refine ⟨cs, [], f, [], (List.append_nil cs).symm, rfl, takes, clear, fun tail head => ?_⟩
  have follows := follows_bracket head
  refine ⟨(Rounds.nil speaks.skips (.seq (.literal ?_)) follows.clear_blank).imp ?_, follows⟩
  · intro c first
    rw [head] at first
    cases first
    rfl
  · rintro _ rfl
    rfl

theorem ReadsArguments.more (speaks : Speaks g named) {ds : List Char} {fs : List Feature}
    (takes : TakesAt g v 0 cs f) (clear : ∀ tail, Clear isBlank (cs ++ tail))
    (blank : Blank isBlank bs) (reads : ReadsArguments g v ds fs) :
    ReadsArguments g v (cs ++ ([','] ++ bs ++ ds)) (f :: fs) := by
  obtain ⟨first, later, f', rest, rfl, rfl, takes', clear', rounds⟩ := reads.parts
  refine ⟨cs, [','] ++ bs ++ (first ++ later), f, f' :: rest, rfl, rfl, takes, clear,
    fun tail head => ?_⟩
  obtain ⟨inner, follows⟩ := rounds tail head
  have comma (x : List Char) : Follows 0 ([','] ++ x) := by
    intro c head
    cases head
    decide
  have one : Takes g isBlank argument ([','] ++ bs ++ first) (later ++ tail) _ :=
    .seq speaks.skips (.literal [','] blank) (takes' _ follows) (clear' _)
  have whole := Rounds.cons speaks.skips one (Clear.cons.mpr (by decide)) inner
  rw [List.append_assoc] at whole
  constructor
  · refine whole.imp ?_
    rintro _ ⟨_, nodes, rfl, ⟨_, _, rfl, rfl, n, rfl, built⟩, features⟩
    change (featureOf v n >>= fun f => featuresOf v nodes >>= fun fs => pure (f :: fs)) = _
    rw [built, features]
    rfl
  · simpa using comma _

/-- An extreme of arguments is an atom. -/
theorem Speaks.extremum_atom (speaks : Speaks g named) {side : Extreme} {fs : List Feature}
    {bs' bs'' : List Char} (blank : Blank isBlank bs) (blank' : Blank isBlank bs')
    (reads : ReadsArguments g v cs fs) (blank'' : Blank isBlank bs'') :
    TakesAt g v 3 (side.word.toList ++ bs ++ (['('] ++ bs' ++ (cs ++ ([')'] ++ bs''))))
      (.extremum side fs) := by
  intro tail follows
  obtain ⟨first, later, f, rest, rfl, rfl, takes, clear, rounds⟩ := reads.parts
  obtain ⟨inner, follows'⟩ := rounds ([')'] ++ bs'' ++ tail) rfl
  have stars : Takes g isBlank (.star argument) later ([')'] ++ bs'' ++ tail) _ :=
    .star speaks.skips inner follows'.clear_blank
  have closing : Takes g isBlank (.seq (.star argument) (.literal [')'])) _ tail _ :=
    .seq speaks.skips stars (.literal [')'] blank'') (Clear.cons.mpr (by decide))
  have body : Takes g isBlank (.seq (.call "feature_sum")
      (.seq (.star argument) (.literal [')']))) _ tail _ :=
    .seq speaks.skips (takes _ (by simpa using follows')) closing
      (by simpa using follows'.clear_blank)
  have opened : Takes g isBlank (.seq (.literal ['(']) (.seq (.call "feature_sum")
      (.seq (.star argument) (.literal [')'])))) _ tail _ :=
    .seq speaks.skips (.literal ['('] blank') body (by simpa using clear _)
  have whole : Takes g isBlank (.call "extremum") _ tail _ :=
    .call (speaks.find? (by decide) rfl) (by decide) (.seq speaks.skips
      (speaks.extremum_name_taken side blank) opened (Clear.cons.mpr (by decide)))
  rw [← List.append_assoc first later] at whole
  have word : Clear ('.' == ·) (side.word.toList ++ bs ++
      (['('] ++ bs' ++ (first ++ later ++ ([')'] ++ bs''))) ++ tail) := by
    cases side <;> exact Clear.cons.mpr (by decide)
  refine (speaks.atom_taken word (.choice_left whole)).imp ?_
  rintro _ ⟨n, rfl, rule, _, _, children, ⟨name, rfl, named⟩, _, _, rfl, rfl, _, _, rfl,
    ⟨m, rfl, built⟩, nodes, _, rfl, features, rfl⟩
  refine ⟨n, rfl, featureOf_extremum rule children ?_ ?_⟩
  · rw [named.2, String.ofList_toList]
  · change featuresOf v (m :: (nodes ++ [])) = _
    rw [List.append_nil]
    change (featureOf v m >>= fun f => featuresOf v nodes >>= fun fs => pure (f :: fs)) = _
    rw [built, features]
    rfl

end Atoms
/-! ### Written features -/

mutual

/-- The text is written for the feature, as an operand of the level. Paths stand for the features
that they are given. -/
inductive Written (path : IdentifierPath → Feature) : Nat → List Char → Feature → Prop where
  | number {bs : List Char} (n : NumberLiteral) :
      Blank isBlank bs → Written path 3 (n.chars ++ bs) (.number n.value)
  | text {bs : List Char} (q : QuotedLiteral) :
      Blank isBlank bs → Written path 3 (q.chars ++ bs) (.text q.value)
  | path {bs : List Char} (p : IdentifierPath) :
      Blank isBlank bs → Written path 3 (p.path.text.toList ++ bs) (path p)
  | bracketed {bs cs bs' : List Char} {f : Feature} :
      Blank isBlank bs → Written path 0 cs f → Blank isBlank bs' →
      Written path 3 (['('] ++ bs ++ (cs ++ ([')'] ++ bs'))) f
  | extremum {bs bs' cs bs'' : List Char} {fs : List Feature} (side : Extreme) :
      Blank isBlank bs → Blank isBlank bs' → WrittenAll path cs fs → Blank isBlank bs'' →
      Written path 3 (side.word.toList ++ bs ++ (['('] ++ bs' ++ (cs ++ ([')'] ++ bs''))))
        (.extremum side fs)
  | binary {cs bs ds : List Char} {f f' : Feature} (op : Operator) :
      Written path (level op) cs f → Blank isBlank bs → Written path (level op + 1) ds f' →
      Written path (level op) (cs ++ (op.symbol.toList ++ bs ++ ds)) (.binary op f f')
  /-- What binds more tightly is an operand of each lower level. -/
  | lower {ℓ : Nat} {cs : List Char} {f : Feature} :
      ℓ < 3 → Written path (ℓ + 1) cs f → Written path ℓ cs f

/-- The text is written for one argument or more, with commas between them. -/
inductive WrittenAll (path : IdentifierPath → Feature) : List Char → List Feature → Prop where
  | one {cs : List Char} {f : Feature} : Written path 0 cs f → WrittenAll path cs [f]
  | more {cs bs ds : List Char} {f : Feature} {fs : List Feature} :
      Written path 0 cs f → Blank isBlank bs → WrittenAll path ds fs →
      WrittenAll path (cs ++ ([','] ++ bs ++ ds)) (f :: fs)

end

section

variable {g : Grammar} {named : Bool} {v : Vocabulary} {path : IdentifierPath → Feature}
  {ℓ m : Nat} {cs : List Char} {f : Feature}

theorem Written.descend (written : Written path m cs f) (le : ℓ ≤ m) (bound : m ≤ 3) :
    Written path ℓ cs f := by
  induction m with
  | zero => rwa [Nat.le_zero.mp le]
  | succ m ih =>
    rcases Nat.le_succ_iff.mp le with le | rfl
    · exact ih (.lower (by omega) written) le (by omega)
    · exact written

/-- What binds tightest is an operand of each level. -/
theorem Written.of_atom (written : Written path 3 cs f) (bound : ℓ ≤ 3) : Written path ℓ cs f :=
  written.descend bound (Nat.le_refl 3)

/-- An operand begins with no character that begins no feature. -/
theorem Written.clear {p : Char → Bool} (outside : ∀ c, startsFormula c = true → p c = false) :
    ∀ {ℓ : Nat} {cs : List Char} {f : Feature}, Written path ℓ cs f → ∀ tail, Clear p (cs ++ tail)
  | _, _, _, .number n _, tail => by
    rw [List.append_assoc]
    refine n.clear (fun c starts => outside c ?_) _
    rcases Bool.or_eq_true_iff.mp starts with digit | sign
    · rw [startsFormula, digit, Bool.true_or]
    · rw [← eq_of_beq sign]
      decide
  | _, _, _, .text q _, tail => by
    rw [List.append_assoc]
    exact clear_inQuotes q.inQuotes (outside _ (by decide)) _
  | _, _, _, .path q _, tail => by
    rw [List.append_assoc]
    exact q.clear (outside _ (by decide)) _
  | _, _, _, .bracketed _ _ _, tail => Clear.cons.mpr (outside _ (by decide))
  | _, _, _, .extremum .max _ _ _ _, tail => Clear.cons.mpr (outside _ (by decide))
  | _, _, _, .extremum .min _ _ _ _, tail => Clear.cons.mpr (outside _ (by decide))
  | _, _, _, .binary op left _ _, tail => by
    rw [List.append_assoc]
    exact left.clear outside _
  | _, _, _, .lower _ inner, tail => inner.clear outside tail

theorem Written.clear_blank (written : Written path ℓ cs f) (tail : List Char) :
    Clear isBlank (cs ++ tail) :=
  written.clear (fun _ => isBlank_of_startsFormula) tail

end

section

variable {g : Grammar} {named : Bool} {v : Vocabulary} {path : IdentifierPath → Feature}

mutual

/-- A written text is read as the feature that it is written for. -/
theorem Written.reads (speaks : Speaks g named)
    (paths : ∀ (p : IdentifierPath) {bs : List Char}, Blank isBlank bs →
      TakesAt g v 3 (p.path.text.toList ++ bs) (path p)) :
    ∀ {ℓ : Nat} {cs : List Char} {f : Feature}, Written path ℓ cs f → ReadsAt g v ℓ cs f
  | _, _, _, .number n blank => .of_atom speaks (speaks.number_atom n blank) (by decide)
  | _, _, _, .text q blank => .of_atom speaks (speaks.text_atom q blank) (by decide)
  | _, _, _, .path p blank => .of_atom speaks (paths p blank) (by decide)
  | _, _, _, .bracketed blank inner blank' =>
    .of_atom speaks (speaks.bracketed_atom blank (inner.reads speaks paths).1 inner.clear_blank
      blank') (by decide)
  | _, _, _, .extremum side blank blank' arguments blank'' =>
    .of_atom speaks (speaks.extremum_atom blank blank' (arguments.reads speaks paths) blank'')
      (by decide)
  -- The left side may be a chain of the same level, the right side binds more tightly.
  | _, _, _, .binary op left blank right =>
    .of_chain speaks (level_lt op) (((left.reads speaks paths).2 (level_lt op)).join speaks blank
      (right.reads speaks paths).1 right.clear_blank)
  | _, _, _, .lower low inner =>
    .of_chain speaks low ((inner.reads speaks paths).1.chain speaks)

/-- So are arguments. -/
theorem WrittenAll.reads (speaks : Speaks g named)
    (paths : ∀ (p : IdentifierPath) {bs : List Char}, Blank isBlank bs →
      TakesAt g v 3 (p.path.text.toList ++ bs) (path p)) :
    ∀ {cs : List Char} {fs : List Feature}, WrittenAll path cs fs → ReadsArguments g v cs fs
  | _, _, .one inner => .one speaks (inner.reads speaks paths).1 inner.clear_blank
  | _, _, .more inner blank rest =>
    .more speaks (inner.reads speaks paths).1 inner.clear_blank blank (rest.reads speaks paths)

end

end

end Dialect.Query
