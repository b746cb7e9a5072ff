import Dialect.Proofs.Query.Algebra
import Dialect.Proofs.Query.Operands

/-!
How flags are written.

A flag is a pattern, bare or in quotes, with or without a category before it. Bare, it is letters,
digits, underscores and spaces; it denotes itself without the blanks around it. Main statement:
`FlagText.parse` (an engine that offers flags parses the text of a flag to a node of the flag).
-/

namespace Dialect.Archive

open Query Grammar

/-! ### Flags as they are written -/

/-- The character may begin a bare pattern. -/
def startsPattern (c : Char) : Bool :=
  CharClass.alphabetic.holds c || (CharClass.numeric.holds c || '_' == c)

/-- The character may go on with a bare pattern. -/
def continuesPattern (c : Char) : Bool :=
  CharClass.alphabetic.holds c || (CharClass.numeric.holds c || ('_' == c || ' ' == c))

/-- The text is a pattern in front of the blanks, and denotes the pattern. -/
inductive PatternText : List Char → List Char → String → Prop where
  | bare {c : Char} {cs bs : List Char} (starts : startsPattern c = true)
      (continues : ∀ d ∈ cs, continuesPattern d = true) (stops : Clear continuesPattern bs) :
      PatternText (c :: cs) bs (Text.trim (String.ofList (c :: cs)))
  | quoted {bs : List Char} (q : QuotedLiteral) : PatternText q.chars bs q.value

/-- The text is a word for a category, in letters of either case. -/
def IsCategory (c : String) : Prop := String.ofList (c.toList.map Char.toLower) ∈ categories

instance {c : String} : Decidable (IsCategory c) := inferInstanceAs (Decidable (_ ∈ _))

/-- The text is a flag with any blanks around its tokens, with the category as it is written. -/
inductive FlagText : String → Option String → String → Prop where
  | plain {text p : String} {bs pattern bs' : List Char}
      (chars : text.toList = bs ++ (pattern ++ bs')) (blank : Blank isBlank bs)
      (blank' : Blank isBlank bs') (denotes : PatternText pattern bs' p) : FlagText text none p
  | qualified {text c p : String} {bs bs₁ bs₂ pattern bs' : List Char}
      (chars : text.toList = bs ++ (c.toList ++ bs₁ ++ ([':'] ++ bs₂ ++ (pattern ++ bs'))))
      (category : IsCategory c) (blank : Blank isBlank bs) (blank₁ : Blank isBlank bs₁)
      (blank₂ : Blank isBlank bs₂) (blank' : Blank isBlank bs')
      (denotes : PatternText pattern bs' p) : FlagText text (some c) p

/-- A node of a flag with this decoded pattern, and with the category as it is written, if there is
one. -/
inductive IsFlag (node : ParseNode) : Option String → String → Prop where
  | plain {pattern : ParseNode} {p : String} (children : node.children = [pattern])
      (decoded : TagIndex.patternText pattern = .ok p) : IsFlag node none p
  | qualified {category pattern : ParseNode} {c p : String}
      (children : node.children = [category, pattern]) (named : category.text = c)
      (decoded : TagIndex.patternText pattern = .ok p) : IsFlag node (some c) p

section

variable {v : Variant} {cs bs tail : List Char}

/-! ### Patterns -/

/-- The body of the rule of bare patterns. -/
def bareBody : Grammar.Expr :=
  .seq (.choice (.one .alphabetic) (.choice (.one .numeric) (.literal ['_'])))
    (.star (.choice (.one .alphabetic) (.choice (.one .numeric)
      (.choice (.literal ['_']) (.literal [' '])))))

theorem find?_bare_pattern (v : Variant) :
    (queries v).find? "bare_pattern" = some ⟨"bare_pattern", .atomic, bareBody⟩ := rfl

theorem bareBody_taken {c : Char} (starts : startsPattern c = true)
    (continues : ∀ d ∈ cs, continuesPattern d = true) (clear : Clear continuesPattern tail) :
    TakesToken (queries v) .atomic bareBody (c :: cs) tail :=
  .seq_letter (by decide) (.letter rfl starts) (.letters (by decide) rfl continues clear)

/-- A bare pattern is taken as a whole. -/
theorem bare_taken {c : Char} (starts : startsPattern c = true)
    (continues : ∀ d ∈ cs, continuesPattern d = true) (blank : Blank isBlank bs)
    (clear : Clear continuesPattern (bs ++ tail)) :
    Takes (queries v) isBlank (.call "bare_pattern") (c :: cs ++ bs) tail
      (.single (Spans "bare_pattern" (c :: cs))) :=
  .atomic (find?_bare_pattern v) blank (bareBody_taken starts continues clear)

/-- A quoted pattern is taken as a whole, whether it denotes a text or not. -/
theorem quoted_taken {q : List Char} (quoted : Text.Quoted.InQuotes q) (blank : Blank isBlank bs) :
    Takes (queries v) isBlank (.call "pattern") (q ++ bs) tail
      (.single fun n => TagIndex.patternText n = unquote (String.ofList q)) := by
  refine (Takes.call_silent rfl (by decide)
    (.choice_left (inQuotes_taken rfl rfl quoted blank))).imp ?_
  rintro _ ⟨n, rfl, rule, text⟩
  refine ⟨n, rfl, ?_⟩
  change TagIndex.patternText n = _
  rw [TagIndex.patternText, rule, text]
  rfl

/-- A pattern is read as what it denotes. -/
theorem PatternText.taken {pattern : List Char} {p : String} (denotes : PatternText pattern bs p)
    (blank : Blank isBlank bs) :
    Takes (queries v) isBlank (.call "pattern") (pattern ++ bs) []
      (.single fun n => TagIndex.patternText n = .ok p) := by
  cases denotes with
  | @bare c cs _ starts continues stops =>
    have first : Fails (queries v) .spaced (.call "quoted_pattern") (c :: cs ++ bs ++ []) :=
      .call_compound rfl (.seq (.literal (Clear.cons.mpr (beq_eq_false_of (by decide) starts))))
    refine (Takes.call_silent rfl (by decide)
      (.choice_right first (bare_taken starts continues blank (by simpa using stops)))).imp ?_
    rintro _ ⟨n, rfl, rule, text⟩
    refine ⟨n, rfl, ?_⟩
    change TagIndex.patternText n = _
    rw [TagIndex.patternText, rule, text]
    rfl
  | quoted q =>
    rw [← q.unquote_chars]
    exact quoted_taken q.inQuotes blank

/-! ### Categories -/

/-- The character may begin a word for a category. -/
def startsCategory (c : Char) : Bool := ['c', 'g', 's', 'w'].contains c.toLower

theorem IsCategory.lower {c : String} (category : IsCategory c) :
    c.toList.map Char.toLower ∈ categories.map String.toList := by
  refine List.mem_map.mpr ⟨_, category, ?_⟩
  rw [String.toList_ofList]

theorem IsCategory.cons {c : String} (category : IsCategory c) :
    ∃ d ds, c.toList = d :: ds ∧ startsCategory d = true := by
  have first : ∀ word ∈ categories.map String.toList,
      word.head?.any ['c', 'g', 's', 'w'].contains = true := by decide
  have starts := first _ category.lower
  cases chars : c.toList with
  | nil => simp [chars] at starts
  | cons d ds => exact ⟨d, ds, rfl, by simpa [chars, startsCategory] using starts⟩

theorem IsCategory.taken {c : String} (category : IsCategory c) (blank : Blank isBlank bs) :
    Takes (queries v) isBlank (.call "category") (c.toList ++ bs) tail
      (.single (Spans "category" c.toList)) := by
  refine .atomic rfl blank ?_
  have lower := category.lower
  have fails {word text : List Char} (other : ∀ x, ¬ word.map Char.toLower <+: text ++ x)
      (same : c.toList.map Char.toLower = text) :
      Fails (queries v) .atomic (.caseless word) (c.toList ++ (bs ++ tail)) := by
    refine .caseless_word ?_
    rw [List.map_append, same]
    exact other _
  simp only [categories, List.map_cons, List.map_nil, List.mem_cons, List.not_mem_nil,
    or_false] at lower
  rcases lower with word | word | word | word | word
  · exact .choice_left (.caseless word)
  · exact .choice_right (fails (by simp) word) (.choice_left (.caseless word))
  · exact .choice_right (fails (by simp) word) (.choice_right (fails (by simp) word)
      (.choice_left (.caseless word)))
  · exact .choice_right (fails (by simp) word) (.choice_right (fails (by simp) word)
      (.choice_right (fails (by simp) word) (.choice_left (.caseless word))))
  · exact .choice_right (fails (by simp) word) (.choice_right (fails (by simp) word)
      (.choice_right (fails (by simp) word) (.choice_right (fails (by simp) word)
        (.caseless word))))

/-- A category and a pattern in it. -/
def within : Grammar.Expr := .seq (.call "category") (.seq (.literal [':']) (.call "pattern"))

theorem find?_flag (v : Variant) : (queries v).find? "flag" =
    some ⟨"flag", .normal, .choice within (.call "pattern")⟩ := rfl

/-- The characters that are left behind blanks are among those of the text. -/
theorem mem_of_left {m : Match} {c : Char} (split : m.taken ++ m.rest = cs)
    (mem : c ∈ (skipMatch isBlank {} m.rest).rest) : c ∈ cs := by
  rw [← split]
  have inRest : c ∈ m.rest := by
    rw [skipMatch, if_pos rfl] at mem
    exact (List.dropWhile_suffix _).subset mem
  exact List.mem_append_right _ inRest

/-- A text without colon is no pattern in a category. -/
theorem within_fails (free : ':' ∉ cs) : Fails (queries v) .spaced within cs := by
  intro at_
  obtain ⟨r, category⟩ := exists_reads (ranking_fits v) (by decide)
    (size_call_le_weight (queries v) "category") {} at_ cs
  cases r with
  | none => exact .seqFails category
  | some m =>
    have colon : Clear (':' == ·) (skipMatch isBlank {} m.rest).rest := by
      intro c head
      rw [beq_eq_false_iff_ne]
      rintro rfl
      exact free (mem_of_left (category.taken_append_rest rfl) (List.mem_of_head? head))
    have later : Fails (queries v) .spaced (.seq (.literal [':']) (.call "pattern")) _ :=
      .seq (.literal colon)
    exact .seq category ((reads_spaced_iff (skips_blanks v)).mpr ⟨_, later _, rfl⟩)

/-- A text without the characters of comparators is no comparison. -/
theorem comparison_fails_of_free (free : ∀ c ∈ ['<', '>', '='], c ∉ cs) :
    Fails (queries v) .spaced (.call "comparison") cs := by
  intro at_
  obtain ⟨r, read⟩ := exists_comparison v at_ cs
  obtain ⟨x, body, rfl⟩ := (reads_call_normal (find?_comparison v) (by decide)).mp read
  cases x with
  | none => exact read
  | some m =>
    obtain ⟨sum, _, left, right, -⟩ := reads_seq_some.mp body
    obtain ⟨k, later, -⟩ := (reads_spaced_some (skips_blanks v)).mp right
    have clear {c : Char} (mem : c ∈ ['<', '>', '=']) :
        Clear (c == ·) (skipMatch isBlank {} sum.rest).rest := by
      intro d head
      rw [beq_eq_false_iff_ne]
      rintro rfl
      exact free c mem (mem_of_left (left.taken_append_rest rfl) (List.mem_of_head? head))
    have fails : Fails (queries v) .spaced (.seq (.call "comparator") (.call "feature_sum")) _ :=
      .seq ((speaks_queries v).comparator_fails clear)
    cases later.unique (fails _)

/-- Where no comparison begins, what is taken behind it is an operand. -/
theorem operand_behind_comparison {P : Shape}
    (comparison : Fails (queries v) .spaced (.call "comparison") (cs ++ tail))
    (later : Takes (queries v) isBlank (.choice (.call "negation") (enclosed v)) cs tail P) :
    Takes (queries v) isBlank (.call "operand") cs tail P := by
  refine .call_silent (find?_operand v) (by decide) ?_
  unfold orElse
  split
  · exact .choice_right comparison later
  · exact later

/-- Without a bracket in front, what is taken in the place of brackets is a flag. -/
theorem enclosed_taken {P : Shape} (flags : v.flags = true)
    (bracket : Clear ('(' == ·) (cs ++ tail))
    (flag : Takes (queries v) isBlank (.call "flag") cs tail P) :
    Takes (queries v) isBlank (enclosed v) cs tail P := by
  rw [enclosed, flags]
  exact .choice_right (.call_silent (find?_grouped v) (by decide) (.seq (.literal bracket))) flag

/-- In front of nothing a flag is an operand, if no other operand begins there. -/
theorem operand_taken {Q : ParseNode → Prop} (flags : v.flags = true)
    (comparison : Fails (queries v) .spaced (.call "comparison") (cs ++ tail))
    (clear : Clear (fun c => '-' == c || '(' == c) (cs ++ tail))
    (flag : Takes (queries v) isBlank (.call "flag") cs tail (.single Q)) :
    Takes (queries v) isBlank (.call "operand") cs tail (.single Q) := by
  have sign : Clear ('-' == ·) (cs ++ tail) := clear.imp fun c out => by simp_all
  have bracket : Clear ('(' == ·) (cs ++ tail) := clear.imp fun c out => by simp_all
  have negation : Fails (queries v) .spaced (.call "negation") (cs ++ tail) :=
    .call_normal (find?_negation v) (by decide) (.seq (.literal sign))
  exact operand_behind_comparison comparison
    (.choice_right negation (enclosed_taken flags bracket flag))

/-- What is asked of a text that stands where an operand is read, to be read as a flag. -/
structure Alone (v : Variant) (cs : List Char) : Prop where
  comparison : Fails (queries v) .spaced (.call "comparison") cs
  clear : Clear (fun c => '-' == c || '(' == c) cs
  tight : Clear isBlank cs

/-- The mark of quotes begins no word for a category. -/
theorem within_fails_quote (cs : List Char) : Fails (queries v) .spaced within ('"' :: cs) := by
  have other {t : Char} {word : List Char} (no : sameLetter t '"' = false) :
      Fails (queries v) .atomic (.caseless (t :: word)) ('"' :: cs) :=
    .caseless (Clear.cons.mpr no)
  exact .seq (.call_atomic rfl (.choice (other (by decide)) (.choice (other (by decide))
    (.choice (other (by decide)) (.choice (other (by decide)) (other (by decide)))))))

/-- A text in quotes by itself is neither a comparison nor a pattern in a category. -/
theorem alone_inQuotes {q : List Char} (quoted : Text.Quoted.InQuotes q)
    (blank : Blank isBlank bs) :
    Alone v (q ++ bs) ∧ Fails (queries v) .spaced within (q ++ bs) := by
  have speaks := speaks_queries v
  -- the whole text is read as a feature, and no comparator is left for it
  have sum : Takes (queries v) isBlank (.call "feature_sum") (q ++ bs) [] _ :=
    speaks.sum_taken (by simp [BeginsIn])
      (speaks.quoted_atom (v := { capabilities := .none, fragments := .empty }) quoted blank [])
  have comparison := Fails.seq_right (skips_blanks v) sum (by simp)
    (b := .seq (.call "comparator") (.call "feature_sum"))
    (.seq (speaks.comparator_fails (by simp)))
  rw [List.append_nil] at comparison
  refine ⟨⟨.call_normal (find?_comparison v) (by decide) comparison,
    clear_inQuotes quoted (by decide) _, clear_inQuotes quoted (by decide) _⟩, ?_⟩
  obtain ⟨body, rfl, -⟩ := quoted
  exact within_fails_quote _

/-- What no bare pattern has and no blank is does not occur in a bare pattern with blanks. -/
theorem not_mem_bare {c x : Char} (starts : startsPattern c = true)
    (continues : ∀ d ∈ cs, continuesPattern d = true) (blank : Blank isBlank bs)
    (starts' : startsPattern x = false) (continues' : continuesPattern x = false)
    (blank' : isBlank x = false) : x ∉ c :: cs ++ bs := by
  intro mem
  rcases List.mem_append.mp mem with mem | mem
  · rcases List.mem_cons.mp mem with rfl | mem
    · exact absurd (starts.symm.trans starts') (by simp)
    · exact absurd ((continues x mem).symm.trans continues') (by simp)
  · exact absurd ((blank x mem).symm.trans blank') (by simp)

/-- A pattern by itself is neither a comparison nor a pattern in a category. -/
theorem PatternText.alone {pattern : List Char} {p : String} (denotes : PatternText pattern bs p)
    (blank : Blank isBlank bs) :
    Alone v (pattern ++ bs) ∧ Fails (queries v) .spaced within (pattern ++ bs) := by
  cases denotes with
  | @bare c cs _ starts continues stops =>
    -- The marks that the other alternatives need do not occur in a bare pattern.
    have free {x : Char} := @not_mem_bare cs bs c x starts continues blank
    refine ⟨⟨comparison_fails_of_free ?_, Clear.cons.mpr ?_, Clear.cons.mpr ?_⟩, within_fails ?_⟩
    · intro x mem
      simp only [List.mem_cons, List.not_mem_nil, or_false] at mem
      rcases mem with rfl | rfl | rfl <;> exact free (by decide) (by decide) (by decide)
    · rw [beq_eq_false_of (by decide) starts, beq_eq_false_of (by decide) starts]
      rfl
    · exact contains_eq_false_of (by decide) starts
    · exact free (by decide) (by decide) (by decide)
  | quoted q => exact alone_inQuotes q.inQuotes blank

theorem isDigit_of_startsCategory {d : Char} (starts : startsCategory d = true) :
    d.isDigit = false := by
  cases digit : d.isDigit with
  | false => rfl
  | true =>
    have none : ['c', 'g', 's', 'w'].contains d = false := contains_eq_false_of (by decide) digit
    rw [startsCategory, toLower_of_isDigit digit, none] at starts
    cases starts

/-- A category in front of a colon begins no comparison. -/
theorem IsCategory.alone {c : String} (category : IsCategory c) (tail : List Char) :
    Alone v (c.toList ++ tail) := by
  obtain ⟨d, ds, chars, starts⟩ := category.cons
  have other {t : Char} (no : startsCategory t = false) : (t == d) = false :=
    beq_eq_false_of no starts
  have formula : startsFormula d = false := by
    have mark : ['-', '"', '.', '(', 'm'].contains d = false :=
      contains_eq_false_of (by decide) starts
    rw [startsFormula, isDigit_of_startsCategory starts, mark, Bool.false_or]
  have tight : isBlank d = false := contains_eq_false_of (by decide) starts
  rw [chars]
  refine ⟨(speaks_queries v).comparison_fails ((speaks_queries v).atom_fails_clear
    (Clear.cons.mpr formula)), Clear.cons.mpr ?_, Clear.cons.mpr tight⟩
  rw [other (by decide), other (by decide)]
  rfl

theorem operandOf_flag {w : Vocabulary} {n : ParseNode} (rule : n.rule = "flag") :
    operandOf w n = .ok (.flag n) := by
  obtain ⟨_, text, start, stop, children⟩ := n
  obtain rfl := rule
  rw [operandOf.eq_def]
  rfl

/-- A text that is taken as an operand is read as a query of that operand. -/
theorem asks_of_taken {Q : ParseNode → Prop} (blank : Blank isBlank bs) (tight : Clear isBlank cs)
    (operand : Takes (queries v) isBlank (.call "operand") cs [] (.single Q)) :
    ∃ n, Asks v (bs ++ cs) [n] ∧ Q n := by
  obtain ⟨m, bs', read, rest, blank', n, single, holds⟩ := operand (Text.byteSize bs)
  rw [List.append_nil] at read rest
  have asks := asks_of_operand blank tight read (by rw [rest]; exact blank')
  rw [single] at asks
  exact ⟨n, asks, holds⟩

/-- A text that is taken as a flag where an operand is read is read as a query of the flag. -/
theorem asks_of_flag {Q : ParseNode → Prop} (flags : v.flags = true) (blank : Blank isBlank bs)
    (alone : Alone v cs) (flag : Takes (queries v) isBlank (.call "flag") cs [] (.single Q)) :
    ∃ n, Asks v (bs ++ cs) [n] ∧ Q n :=
  asks_of_taken blank alone.tight (operand_taken flags (by simpa using alone.comparison)
    (by simpa using alone.clear) flag)

/-- A text that is read as a flag where an operand is read, up to blanks, is parsed to the flag. -/
theorem parse_of_takes {engine : Engine} {text : String} {Q : ParseNode → Prop}
    (parser : engine.parser = (queries v).parse "query") (flags : v.flags = true)
    (chars : text.toList = bs ++ cs) (blank : Blank isBlank bs) (alone : Alone v cs)
    (takes : Takes (queries v) isBlank (.choice within (.call "pattern")) cs [] fun nodes =>
      ∀ n : ParseNode, n.children = nodes → Q n) :
    ∃ node, engine.parse text = .ok (.flag node) ∧ Q node := by
  obtain ⟨n, asks, rule, holds⟩ := asks_of_flag flags blank alone
    (Takes.call (find?_flag v) (by decide) takes)
  rw [← chars] at asks
  exact ⟨n, (asks.parse parser).trans (setOf_single (operandOf_flag rule)), holds n rfl⟩

/-- The text of a flag is taken as a flag. -/
theorem FlagText.taken (v : Variant) {text p : String} {category : Option String}
    (written : FlagText text category p) :
    ∃ bs cs, text.toList = bs ++ cs ∧ Blank isBlank bs ∧ Alone v cs ∧
      Takes (queries v) isBlank (.call "flag") cs []
        (.single fun n => n.rule = "flag" ∧ IsFlag n category p) := by
  cases written with
  | plain chars blank blank' denotes =>
    obtain ⟨alone, fails⟩ := denotes.alone (v := v) blank'
    refine ⟨_, _, chars, blank, alone, (Takes.call (find?_flag v) (by decide)
      (.choice_right (by simpa using fails) (denotes.taken blank'))).imp ?_⟩
    rintro _ ⟨node, rfl, rule, n, children, decoded⟩
    exact ⟨node, rfl, rule, .plain children decoded⟩
  | qualified chars category blank blank₁ blank₂ blank' denotes =>
    rw [List.append_assoc] at chars
    have behind : Takes (queries v) isBlank (.seq (.literal [':']) (.call "pattern")) _ [] _ :=
      .seq (skips_blanks v) (.literal [':'] blank₂) (denotes.taken blank')
        (by simpa using (denotes.alone (v := v) blank').1.tight)
    have whole : Takes (queries v) isBlank within _ [] _ :=
      .seq (skips_blanks v) (category.taken blank₁) behind (Clear.cons.mpr (by decide))
    rw [List.append_assoc] at whole
    refine ⟨_, _, chars, blank, category.alone _,
      (Takes.call (find?_flag v) (by decide) (.choice_left whole)).imp ?_⟩
    rintro _ ⟨node, rfl, rule, _, _, children, ⟨m, rfl, -, text⟩, _, _, rfl, rfl, n, rfl, decoded⟩
    exact ⟨node, rfl, rule, .qualified children (text.trans String.ofList_toList) decoded⟩

/-- Where flags are enabled, the text of a flag is read as a query of the flag. -/
theorem FlagText.asks {text p : String} {category : Option String}
    (written : FlagText text category p) (flags : v.flags = true) :
    ∃ n, Asks v text.toList [n] ∧ n.rule = "flag" ∧ IsFlag n category p := by
  obtain ⟨bs, cs, chars, blank, alone, flag⟩ := written.taken v
  rw [chars]
  exact asks_of_flag flags blank alone flag

/-- Where flags are enabled, the text of a flag is parsed to a node of the flag. -/
theorem FlagText.parse {engine : Engine} {text p : String} {category : Option String}
    (written : FlagText text category p) (parser : engine.parser = (queries v).parse "query")
    (flags : v.flags = true) :
    ∃ node, engine.parse text = .ok (.flag node) ∧ IsFlag node category p := by
  obtain ⟨n, asks, rule, flag⟩ := written.asks flags
  exact ⟨n, (asks.parse parser).trans (setOf_single (operandOf_flag rule)), flag⟩

end

end Dialect.Archive
