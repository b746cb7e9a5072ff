import Dialect.Proofs.Archive.Flags

/-!
Short forms of flags.

A bare pattern is a short form of the same pattern in quotes, without the spaces at its end, and a
sign in front of a flag is one of the sign in front of the flag in brackets. The long form is read
by other rules, but to a flag with the same category and pattern, and these are all that a
vocabulary looks at. Main statement: `shorthand_agrees`.
-/

namespace Dialect.Archive

open Query Grammar ParseNode

/-! ### Characters of bare patterns -/

/-- The blanks of running text, by their code points. -/
def blankCodes : List Nat :=
  [9, 10, 11, 12, 13, 0x20, 0x85, 0xA0, 0x1680, 0x2000, 0x2001, 0x2002, 0x2003, 0x2004, 0x2005,
    0x2006, 0x2007, 0x2008, 0x2009, 0x200A, 0x2028, 0x2029, 0x202F, 0x205F, 0x3000]

theorem mem_blankCodes {c : Char} (blank : Text.isBlank c = true) : c.toNat ∈ blankCodes := by
  simp only [Text.isBlank, Bool.or_eq_true, Bool.and_eq_true, decide_eq_true_eq] at blank
  simp only [blankCodes, List.mem_cons, List.not_mem_nil, or_false]
  omega

theorem continuesPattern_of_starts {c : Char} (starts : startsPattern c = true) :
    continuesPattern c = true := by
  simp only [startsPattern, continuesPattern, Bool.or_eq_true] at *
  rcases starts with letter | number | underscore
  · exact .inl letter
  · exact .inr (.inl number)
  · exact .inr (.inr (.inl underscore))

/-- Of the blanks only the space may stand in a bare pattern. -/
theorem isBlank_eq_of_continues {c : Char} (continues : continuesPattern c = true) :
    Text.isBlank c = (c == ' ') := by
  have only : ∀ n ∈ blankCodes, continuesPattern (Char.ofNat n) = true → Char.ofNat n = ' ' := by
    decide +kernel
  rw [Bool.eq_iff_iff, beq_iff_eq]
  constructor
  · intro blank
    have space := only _ (mem_blankCodes blank)
    rw [Char.ofNat_toNat] at space
    exact space continues
  · rintro rfl
    decide

/-- No character of a bare pattern needs an escape inside of quotes. -/
theorem encodeChar_of_continues {c : Char} (continues : continuesPattern c = true) :
    Text.Quoted.encodeChar c = [c] := by
  have controls : ∀ n < 0x20, continuesPattern (Char.ofNat n) = false := by decide +kernel
  have printable : ¬ c.toNat < 0x20 := by
    intro control
    have none := controls _ control
    rw [Char.ofNat_toNat, continues] at none
    cases none
  have other {x : Char} (out : continuesPattern x = false) : c ≠ x := by
    rintro rfl
    exact absurd (continues.symm.trans out) (by simp)
  rw [Text.Quoted.encodeChar, if_neg (other (by decide)), if_neg (other (by decide)),
    if_neg (other (by decide)), if_neg (other (by decide)), if_neg (other (by decide)),
    if_neg (other (by decide)), if_neg (other (by decide)), if_neg printable]

/-! ### Bare patterns -/

/-- A text of the characters of a bare pattern. -/
def IsBare (cs : List Char) : Prop :=
  ∃ c ds, cs = c :: ds ∧ startsPattern c = true ∧ ∀ d ∈ ds, continuesPattern d = true

/-- The rule matches the text in full. -/
def MatchesAll (g : Grammar) (rule text : String) : Prop :=
  (attempt g rule text.toList).found.map Match.rest = some []

instance {g : Grammar} {rule text : String} : Decidable (MatchesAll g rule text) :=
  inferInstanceAs (Decidable (_ = _))

/-- The text without the spaces at its end. -/
def withoutSpaces (text : String) : String := String.ofList (text.toList.rdropWhile (· == ' '))

/-- The text between quotes, as it is. -/
def inQuotes (text : String) : String := "\"" ++ text ++ "\""

section

variable {v : Variant} {cs : List Char} {w : String}

theorem IsBare.continues (bare : IsBare cs) : ∀ c ∈ cs, continuesPattern c = true := by
  obtain ⟨c, ds, rfl, starts, continues⟩ := bare
  exact List.forall_mem_cons.mpr ⟨continuesPattern_of_starts starts, continues⟩

/-- The rule of bare patterns matches just the bare patterns in full. -/
theorem matchesAll_bare_pattern (v : Variant) (w : String) :
    MatchesAll (queries v) "bare_pattern" w ↔ IsBare w.toList := by
  have low : ranking.descends ranking.order.length (callOf true "bare_pattern") = true := by decide
  have read : Reads (queries v) (.expr (.call "bare_pattern")) {} 0 w.toList
      (attempt (queries v) "bare_pattern" w.toList).found :=
    attempt_reads (ranking_fits v) low (size_call_le_weight _ _) w.toList
  rw [MatchesAll]
  constructor
  · intro whole
    obtain ⟨m, found, atEnd⟩ := Option.map_eq_some_iff.mp whole
    rw [found] at read
    obtain ⟨x, body, eq⟩ := (reads_call (find?_bare_pattern v)).mp read
    obtain ⟨k, rfl, rfl⟩ := Option.map_eq_some_iff.mp eq.symm
    obtain ⟨first, later, left, right, rfl⟩ := reads_seq_some.mp body
    obtain ⟨c, rest, chars, starts, rfl⟩ :=
      letterMatch_eq_some ((reads_letter rfl).mp left).symm
    -- inside of the rule nothing is skipped
    have tight : (surroundings {} ⟨"bare_pattern", .atomic, bareBody⟩).1.mode ≠ .spaced := by decide
    replace right : Reads (queries v) (Task.round true (.star _)) _ _ _ (some later) := right
    have star := (reads_round_of_tight fun _ => tight).mp right
    obtain rfl := Option.some.inj
      ((reads_star_letter rfl tight).mp star)
    exact ⟨c, rest, chars, starts, List.dropWhile_eq_nil_iff.mp atEnd⟩
  · rintro ⟨c, ds, chars, starts, continues⟩
    rw [chars] at read ⊢
    have token : TakesToken (queries v) .spaced (.call "bare_pattern") (c :: ds) [] :=
      .call_atomic (find?_bare_pattern v) (bareBody_taken starts continues .nil)
    obtain ⟨nodes, taken⟩ := token 0
    rw [List.append_nil] at taken
    rw [read.unique taken]
    rfl

theorem dropWhile_congr {p q : Char → Bool} (same : ∀ c ∈ cs, p c = q c) :
    cs.dropWhile p = cs.dropWhile q := by
  induction cs with
  | nil => rfl
  | cons c cs ih =>
    obtain ⟨here, later⟩ := List.forall_mem_cons.mp same
    rw [List.dropWhile_cons, List.dropWhile_cons, here, ih later]

/-- Trimming a bare pattern only takes spaces from its end. -/
theorem trim_bare (bare : IsBare w.toList) : Text.trim w = withoutSpaces w := by
  have blanks : ∀ c ∈ w.toList, Text.isBlank c = (c == ' ') := fun c mem =>
    isBlank_eq_of_continues (bare.continues c mem)
  have front : w.toList.dropWhile Text.isBlank = w.toList := by
    obtain ⟨c, ds, chars, starts, -⟩ := bare
    rw [chars] at blanks ⊢
    rw [List.dropWhile_cons_of_neg]
    rw [blanks c List.mem_cons_self, beq_iff_eq]
    rintro rfl
    exact absurd starts (by decide)
  rw [Text.trim, Text.trimList, front, withoutSpaces, List.rdropWhile]
  rw [dropWhile_congr fun c mem => blanks c (List.mem_reverse.mp mem)]

/-- In quotes, the text of a bare pattern is a literal that denotes it. -/
theorem inQuotes_chars (continues : ∀ c ∈ w.toList, continuesPattern c = true) :
    (inQuotes w).toList = (QuotedLiteral.of w).chars := by
  have plain : w.toList.flatMap Text.Quoted.encodeChar = w.toList := by
    rw [List.flatMap_congr fun c mem => encodeChar_of_continues (continues c mem)]
    exact List.flatMap_singleton' _
  simp [inQuotes, QuotedLiteral.of, Text.Quoted.encode, plain]

/-! ### Short and long forms -/

variable {category : Option String} {c F p : String}

theorem IsBare.denotes (bare : IsBare w.toList) : PatternText w.toList [] (withoutSpaces w) := by
  have trimmed := trim_bare bare
  obtain ⟨c, ds, chars, starts, continues⟩ := bare
  have text : w = String.ofList (c :: ds) := by rw [← chars, String.ofList_toList]
  rw [← trimmed, chars, text]
  exact .bare starts continues .nil

theorem IsBare.denotes_inQuotes (bare : IsBare w.toList) :
    PatternText (inQuotes (withoutSpaces w)).toList [] (withoutSpaces w) := by
  rw [inQuotes_chars]
  · exact .quoted (.of _)
  · intro c mem
    rw [withoutSpaces, String.toList_ofList] at mem
    exact bare.continues c ((List.rdropWhile_prefix (· == ' ') _).subset mem)

/-- A pattern by itself is a flag. -/
theorem flagText_plain (denotes : PatternText w.toList [] p) : FlagText w none p :=
  @FlagText.plain _ _ [] _ [] (by simp) (by decide) (by decide) denotes

/-- So it is behind a category. -/
theorem flagText_qualified (category : IsCategory c) (denotes : PatternText w.toList [] p) :
    FlagText (c ++ ":" ++ w) (some c) p :=
  @FlagText.qualified _ _ _ [] [] [] _ [] (by simp) category (by decide) (by decide) (by decide)
    (by decide) denotes

/-- A sign in front of something else than a digit, up to blanks, begins no comparison. -/
theorem comparison_fails_signed {bs : List Char} (blank : Blank isBlank bs)
    (clear : Clear CharClass.asciiDigit.holds cs) :
    Fails (queries v) .spaced (.call "comparison") ('-' :: (bs ++ cs)) := by
  refine comparison_fails_sign (Clear.behind blank ?_ clear)
  intro c blank
  rcases blank_cases blank with rfl | rfl | rfl | rfl <;> rfl

/-- Nor does one in front of the text of a flag. -/
theorem FlagText.comparison_fails (written : FlagText F category p) :
    Fails (queries v) .spaced (.call "comparison") ('-' :: F.toList) := by
  cases written with
  | @plain _ bs pattern bs' chars blank blank' denotes =>
    rw [chars]
    cases denotes with
    | @bare c cs _ starts continues stops =>
      -- the pattern may begin with a digit, but has no comparator
      have foreign : ∀ x ∈ ['<', '>', '='], x ≠ '-' ∧ isBlank x = false ∧
          startsPattern x = false ∧ continuesPattern x = false := by decide
      refine comparison_fails_of_free fun x mem inside => ?_
      obtain ⟨sign, tight, starts', continues'⟩ := foreign x mem
      rcases List.mem_cons.mp inside with same | inside
      · exact sign same
      rcases List.mem_append.mp inside with inside | inside
      · exact absurd ((blank x inside).symm.trans tight) (by simp)
      · exact not_mem_bare starts continues blank' starts' continues' tight inside
    | quoted q => exact comparison_fails_signed blank (clear_inQuotes q.inQuotes (by decide) _)
  | qualified chars category blank blank₁ blank₂ blank' denotes =>
    obtain ⟨d, ds, word, starts⟩ := category.cons
    rw [chars, word]
    exact comparison_fails_signed blank (Clear.cons.mpr (isDigit_of_startsCategory starts))

/-- A sign in front of the text of a flag is read as a negation of the flag. -/
theorem FlagText.asks_negation (written : FlagText F category p) (flags : v.flags = true) :
    ∃ node n, Asks v ('-' :: F.toList) [node] ∧ node.rule = "negation" ∧ node.children = [n] ∧
      n.rule = "flag" ∧ IsFlag n category p := by
  have fails : Fails (queries v) .spaced (.call "comparison") ('-' :: F.toList) :=
    written.comparison_fails
  obtain ⟨bs, cs, chars, blank, alone, flag⟩ := written.taken v
  have bracket : Clear ('(' == ·) cs := alone.clear.imp fun c out => by simp_all
  have negation : Takes (queries v) isBlank (.call "negation") (['-'] ++ bs ++ cs) [] _ :=
    Takes.call (find?_negation v) (by decide) (.seq (skips_blanks v) (.literal ['-'] blank)
      (enclosed_taken flags (by simpa using bracket) flag) (by simpa using alone.tight))
  have operand := operand_behind_comparison (by simpa [chars] using fails) negation.choice_left
  have none : Blank isBlank [] := by decide
  obtain ⟨node, asks, rule, _, _, children, rfl, n, rfl, rule', means⟩ :=
    asks_of_taken none (Clear.cons.mpr (by decide)) operand
  rw [chars]
  exact ⟨node, n, by simpa using asks, rule, children, rule', means⟩

/-- The flag of a node is that of any node that settles alike. -/
theorem ofNode_of_settled {n m : ParseNode} {flag : TagIndex.Flag}
    (same : n.settled blanks looseRules = m.settled blanks looseRules)
    (known : TagIndex.Flag.ofNode n = .ok flag) : TagIndex.Flag.ofNode m = .ok flag := by
  have settles := (ofNode_settled firm_looseRules).eq_ok_iff.mpr known
  rw [same] at settles
  exact (ofNode_settled firm_looseRules).eq_ok_iff.mp settles

/-- A sign in front of the text of a flag in brackets is read as a negation of the brackets, with a
node inside that stands for the same flag. -/
theorem FlagText.asks_negation_grouped (written : FlagText F category p) (flags : v.flags = true) :
    ∃ node set n, Asks v ('-' :: '(' :: (F.toList ++ [')'])) [node] ∧ node.rule = "negation" ∧
      node.children = [set] ∧ set.rule = "set_expr" ∧ set.children = [n] ∧ n.rule = "flag" ∧
      TagIndex.Flag.ofNode n = .ok ⟨category.map Text.lowercase, Text.lowercase p⟩ := by
  obtain ⟨m, asks, rule, flag⟩ := written.asks flags
  have none : ∀ c ∈ [], isBlank c = true := by simp
  obtain ⟨node, set, whole, negation, children, rule', same⟩ :=
    asks.negated none none none none none
  obtain ⟨n, single, kept, settles⟩ := single_of_settled same
  exact ⟨node, set, n, whole, negation, children, rule', single, kept.trans rule,
    ofNode_of_settled settles flag.ofNode⟩

/-! ### What the forms select -/

variable {engine : Engine} {index : TagIndex} {named : Bool} {n n' : ParseNode}
  {flag : TagIndex.Flag}

/-- Nodes of one flag are evaluated alike. -/
theorem evaluateExpr_flag_congr (tagged : engine.vocabulary = vocabularyOf named index)
    (known : TagIndex.Flag.ofNode n = .ok flag) (known' : TagIndex.Flag.ofNode n' = .ok flag) :
    engine.evaluateExpr (.flag n) = engine.evaluateExpr (.flag n') := by
  have tags : index.flagTags n = index.flagTags n' := by
    rw [TagIndex.flagTags, TagIndex.flagTags, known, known']
  have resolved : engine.vocabulary.resolveFlag n = engine.vocabulary.resolveFlag n' := by
    rw [tagged]
    cases named with
    | true => exact congrArg (· >>= _) tags
    | false => exact congrArg (· >>= _) tags
  rw [Engine.evaluateExpr, Engine.evaluateExpr, resolved]

/-- A node of a flag is evaluated without fail. -/
theorem evaluateExpr_flag_ok (tagged : engine.vocabulary = vocabularyOf named index)
    (known : TagIndex.Flag.ofNode n = .ok flag) :
    ∃ s, (engine.evaluateExpr (.flag n)).result = .ok s := by
  obtain ⟨found, result, -⟩ := index.select_finds flag
  have tags : (index.flagTags n).result = .ok found := by
    rw [TagIndex.flagTags, known]
    exact result
  obtain ⟨ids, resolved⟩ : ∃ ids, (engine.vocabulary.resolveFlag n).result = .ok ids := by
    rw [tagged]
    cases named with
    | true => exact ⟨_, congrArg Reported.result (Reported.bind_ok tags _)⟩
    | false => exact ⟨_, congrArg Reported.result (Reported.bind_ok tags _)⟩
  exact ⟨_, congrArg Reported.result (Reported.bind_ok resolved _)⟩

/-- All texts of one flag are evaluated alike, and without fail. -/
theorem FlagText.agree {G : String} (written : FlagText F category p)
    (written' : FlagText G category p) (parser : engine.parser = (queries v).parse "query")
    (tagged : engine.vocabulary = vocabularyOf named index) (flags : v.flags = true) :
    engine.evaluate F = engine.evaluate G ∧ ∃ ids, engine.Selects F ids := by
  obtain ⟨n, parsed, means⟩ := written.parse parser flags
  obtain ⟨n', parsed', means'⟩ := written'.parse parser flags
  constructor
  · rw [Engine.evaluate_of_parse parsed, Engine.evaluate_of_parse parsed',
      evaluateExpr_flag_congr tagged means.ofNode means'.ofNode]
  · obtain ⟨s, result⟩ := evaluateExpr_flag_ok tagged means.ofNode
    exact ⟨_, (Engine.selects_iff parsed).mpr ⟨s, result, rfl⟩⟩

/-- A sign in front of a flag is evaluated as in front of the flag in brackets, and without fail. -/
theorem FlagText.negation_agree (written : FlagText F category p)
    (parser : engine.parser = (queries v).parse "query")
    (tagged : engine.vocabulary = vocabularyOf named index) (flags : v.flags = true) :
    engine.evaluate ("-" ++ F) = engine.evaluate ("-(" ++ F ++ ")") ∧
      ∃ ids, engine.Selects ("-" ++ F) ids := by
  obtain ⟨node, n, asks, rule, single, inner, means⟩ := written.asks_negation flags
  obtain ⟨node', set, n', asks', rule', single', outer, only, inner', known'⟩ :=
    written.asks_negation_grouped flags
  have parsed : engine.parse ("-" ++ F) = .ok (.negation (.flag n)) := by
    have text : ("-" ++ F).toList = '-' :: F.toList := by simp
    rw [← text] at asks
    exact (asks.parse parser).trans
      (setOf_single (operandOf_negation rule single (operandOf_flag inner)))
  have parsed' : engine.parse ("-(" ++ F ++ ")") = .ok (.negation (.flag n')) := by
    have text : ("-(" ++ F ++ ")").toList = '-' :: '(' :: (F.toList ++ [')']) := by simp
    have operand : operandOf engine.vocabulary set = .ok (.flag n') := by
      rw [operandOf_set outer, only]
      exact setOf_single (operandOf_flag inner')
    rw [← text] at asks'
    exact (asks'.parse parser).trans (setOf_single (operandOf_negation rule' single' operand))
  constructor
  · rw [Engine.evaluate_of_parse parsed, Engine.evaluate_of_parse parsed', Engine.evaluateExpr,
      Engine.evaluateExpr, evaluateExpr_flag_congr tagged means.ofNode known']
  · obtain ⟨s, result⟩ := evaluateExpr_flag_ok tagged means.ofNode
    have complement : (engine.evaluateExpr (.negation (.flag n))).result = .ok s.complement :=
      congrArg Reported.result (Reported.bind_ok result _)
    exact ⟨_, (Engine.selects_iff parsed).mpr ⟨_, complement, rfl⟩⟩

end

/-- The grammar over an archive is that of a variant. -/
theorem variant_of_composed {index : TagIndex} {vocabulary : Query.Vocabulary}
    {capabilities : Capabilities} {grammar : ComposedGrammar}
    (archive : vocabulary = storyVocabulary index ∨ vocabulary = tagVocabulary index)
    (flags : capabilities.flags = true)
    (composed : Engine.grammarOf vocabulary capabilities = .ok grammar) :
    ∃ v, grammar.grammar = queries v := by
  obtain ⟨named, serves⟩ := serves_of_archive capabilities.flags capabilities.features
    ⟨index, archive⟩
  obtain ⟨source, known⟩ := grammarOf_eq (by rw [flags, Bool.true_or]) serves
  rw [known] at composed
  obtain rfl := Except.ok.inj composed
  exact ⟨_, rfl⟩

/-- Short forms of flags mean what the long ones do. Over an archive, and under any profile with
flags, a text that the rule of bare patterns matches in full gives the same ids and the same
diagnostics as its quoted form without the spaces at its end, also behind a category, whatever the
case of its letters. A sign in front of the text of a flag gives what it gives in front of the text
in brackets. All of these are evaluated without fail. -/
theorem shorthand_agrees {index : TagIndex} {d : Dataset} {vocabulary : Query.Vocabulary}
    {capabilities : Capabilities} {grammar : ComposedGrammar} {engine : Engine}
    (archive : vocabulary = storyVocabulary index ∨ vocabulary = tagVocabulary index)
    (flags : capabilities.flags = true)
    (composed : Engine.grammarOf vocabulary capabilities = .ok grammar)
    (made : Engine.withCapabilities d vocabulary capabilities = .ok engine) :
    (∀ w, MatchesAll grammar.grammar "bare_pattern" w →
      (engine.evaluate w = engine.evaluate (inQuotes (withoutSpaces w)) ∧
        ∃ ids, engine.Selects w ids) ∧
      ∀ c, IsCategory c →
        engine.evaluate (c ++ ":" ++ w) =
          engine.evaluate (c ++ ":" ++ inQuotes (withoutSpaces w)) ∧
        ∃ ids, engine.Selects (c ++ ":" ++ w) ids) ∧
    ∀ F category p, FlagText F category p →
      engine.evaluate ("-" ++ F) = engine.evaluate ("-(" ++ F ++ ")") ∧
        ∃ ids, engine.Selects ("-" ++ F) ids := by
  obtain ⟨v, parser, tagged, enabled, -⟩ := variant_of_made archive made
  rw [flags] at enabled
  refine ⟨fun w whole => ?_, fun F category p written =>
    written.negation_agree parser tagged enabled⟩
  obtain ⟨u, known⟩ := variant_of_composed archive flags composed
  rw [known, matchesAll_bare_pattern] at whole
  refine ⟨(flagText_plain whole.denotes).agree (flagText_plain whole.denotes_inQuotes) parser tagged
    enabled, fun c category => ?_⟩
  exact (flagText_qualified category whole.denotes).agree
    (flagText_qualified category whole.denotes_inQuotes) parser tagged enabled

/-- A space at the end is no part of a pattern, and a sign in front of digits that begin a pattern
begins no number. -/
theorem shorthand_agrees_stories :
    (storyEngine twoStories).Selects "Com " ["1"] ∧
      (storyEngine twoStories).evaluate "Com " = (storyEngine twoStories).evaluate "\"Com\"" ∧
      (storyEngine twoStories).evaluate "GENRE:Com " =
        (storyEngine twoStories).evaluate "GENRE:\"Com\"" ∧
      (storyEngine twoStories).Selects "-4 stars" ["1", "2"] ∧
      (storyEngine twoStories).evaluate "-4 stars" =
        (storyEngine twoStories).evaluate "-(4 stars)" := by
  have serves : (Variant.mk true true true).Serves (storyVocabulary (.build twoStories)) := ⟨_, rfl⟩
  obtain ⟨source, composed⟩ := @grammarOf_eq true _ { flags := true, features := true } rfl serves
  have made := @withCapabilities_stories twoStories (by decide +kernel)
  obtain ⟨bare, signed⟩ := shorthand_agrees (.inl rfl) rfl composed made
  have whole : MatchesAll (queries ⟨true, true, true⟩) "bare_pattern" "Com " := by decide +kernel
  obtain ⟨⟨plain, -⟩, qualified⟩ := bare "Com " whole
  obtain ⟨genre, -⟩ := qualified "GENRE" (by decide)
  have stars : FlagText "4 stars" none (withoutSpaces "4 stars") :=
    flagText_plain (IsBare.denotes ⟨'4', " stars".toList, rfl, by decide, by decide +kernel⟩)
  exact ⟨by decide +kernel, plain, genre, by decide +kernel, (signed _ _ _ stars).1⟩

end Dialect.Archive
