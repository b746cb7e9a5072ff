import Dialect.Proofs.Archive.Flags
import Dialect.Proofs.Query.Inverse
import Dialect.Proofs.Template.Literals

/-!
Texts in quotes, wherever they are accepted.

Main statement: `quoted_text_agrees` (a text in quotes denotes the same as a directive, behind a
comparator and as a flag, and where it denotes nothing, none of the three uses is made of it).

Of the rest of a comparison only the path in front of it matters: over stories some paths are
features by name (`path_atom`).
-/

namespace Dialect.Archive

open Query Grammar Text.Quoted

variable {g : Grammar} {named : Bool} {v : Variant} {index : TagIndex} {bs bs' q tail : List Char}

/-! ### Features by name -/

/-- A path in a query: over stories it is the feature of its name, if there is one. -/
def pathFeature (named : Bool) (p : IdentifierPath) : Feature :=
  if named then (storyFeature? p.path.text).getD (.field p.path) else .field p.path

theorem pathFeature_cases (named : Bool) (p : IdentifierPath) :
    pathFeature named p = .field p.path ∨
      storyFeature? p.path.text = some (pathFeature named p) := by
  unfold pathFeature
  cases named with
  | false => exact .inl rfl
  | true =>
    cases known : storyFeature? p.path.text with
    | none => exact .inl rfl
    | some f => exact .inr rfl

/-- The rule of features by name is a choice between the words, with nothing to go on with it. -/
theorem exists_story_words (speaks : Speaks g true) : ∃ words stop,
    g.find? "story_feature" = some ⟨"story_feature", .atomic, .seq words (.notAhead stop)⟩ ∧
      words.words? = some (featureWords.map String.toList) ∧ stop.letter? = some continuesPath :=
  ⟨_, _, speaks.find? (by decide) rfl, rfl,
    congrArg some (funext fun c => (Bool.or_assoc _ _ _).symm)⟩

theorem story_feature_taken (speaks : Speaks g true) (p : IdentifierPath)
    (known : p.path.text ∈ featureWords) (blank : Blank isBlank bs)
    (clear : Clear continuesPath (bs ++ tail)) :
    Takes g isBlank (.call "story_feature") (p.path.text.toList ++ bs) tail
      (.single (Spans "story_feature" p.path.text.toList)) := by
  obtain ⟨words, stop, found, choice, letter⟩ := exists_story_words speaks
  have mem := List.mem_map_of_mem (f := String.toList) known
  -- no word begins another, so the text begins with no other one
  have apart : ∀ w ∈ featureWords.map String.toList, ∀ w' ∈ featureWords.map String.toList,
      w <+: w' → w = w' := by decide
  have only : ∀ w ∈ featureWords.map String.toList,
      w <+: p.path.text.toList ++ (bs ++ tail) → w = p.path.text.toList := by
    intro w mem' begins
    rcases List.prefix_or_prefix_of_prefix begins (List.prefix_append _ _) with first | first
    · exact apart w mem' _ mem first
    · exact (apart _ mem w mem' first).symm
  exact .atomic found blank (.whole_word choice letter (by decide) mem only clear)

theorem story_feature_fails (speaks : Speaks g true) (p : IdentifierPath)
    (other : p.path.text ∉ featureWords) (clear : Clear continuesPath tail) :
    Fails g .spaced (.call "story_feature") (p.path.text.toList ++ tail) := by
  obtain ⟨words, stop, found, choice, letter⟩ := exists_story_words speaks
  have continues : ∀ w ∈ featureWords.map String.toList, ∀ c ∈ w, continuesPath c = true := by
    decide
  refine .call_atomic found (.whole_word choice letter (by decide) fun w mem rest split => ?_)
  refine goes_on p.continues (continues w mem) clear ?_ split
  rintro rfl
  obtain ⟨word, known, same⟩ := List.mem_map.mp mem
  rw [String.toList_inj] at same
  exact other (same ▸ known)

/-- The rule that a path in a query is read by. -/
def pathRule (named : Bool) (p : IdentifierPath) : String :=
  if named && featureWords.contains p.path.text then "story_feature" else "field"

/-- A path is read as a whole, wherever an atom is. -/
theorem path_taken (speaks : Speaks g named) (p : IdentifierPath) (blank : Blank isBlank bs)
    (clear : Clear continuesPath (bs ++ tail)) :
    Takes g isBlank (.call "feature_atom") (p.path.text.toList ++ bs) tail
      (.single (Spans (pathRule named p) p.path.text.toList)) := by
  refine .call_silent speaks.find?_atom (by decide) ?_
  cases named with
  | false => exact speaks.field_taken_atoms p blank clear
  | true =>
    unfold pathRule
    split
    · next known =>
      exact .choice_left (story_feature_taken speaks p (by simpa using known) blank clear)
    · next other =>
      have fails := story_feature_fails speaks p (by simpa using other) clear
      rw [← List.append_assoc] at fails
      exact .choice_right fails (speaks.field_taken_atoms p blank clear)

theorem featureOf_pathRule (index : TagIndex) {n : ParseNode} {p : IdentifierPath}
    (spans : Spans (pathRule named p) p.path.text.toList n) :
    featureOf (vocabularyOf named index) n = .ok (pathFeature named p) := by
  cases named with
  | false => exact featureOf_path p spans
  | true =>
    rw [pathFeature, if_pos rfl]
    unfold pathRule at spans
    split at spans
    · next known =>
      obtain ⟨rule, text⟩ := spans
      rw [String.ofList_toList] at text
      obtain ⟨f, feature⟩ := Option.isSome_iff_exists.mp
        (storyFeature?_isSome.mpr (by simpa using known))
      rw [feature]
      exact featureOf_story rule (text ▸ feature)
    · next other =>
      have unknown : storyFeature? p.path.text = none := by
        rw [← Option.not_isSome_iff_eq_none, storyFeature?_isSome]
        simpa using other
      rw [unknown]
      exact featureOf_path p spans

/-- A path is an atom. -/
theorem path_atom (speaks : Speaks g named) (index : TagIndex) (p : IdentifierPath)
    (blank : Blank isBlank bs) :
    TakesAt g (vocabularyOf named index) 3 (p.path.text.toList ++ bs) (pathFeature named p) := by
  intro tail follows
  have clear : Clear continuesPath (bs ++ tail) :=
    clear_blanks blank (by decide) (follows.clear (by decide))
  refine (path_taken speaks p blank clear).imp ?_
  rintro _ ⟨n, rfl, spans⟩
  exact ⟨n, rfl, featureOf_pathRule index spans⟩

/-! ### Comparisons -/

variable {engine : Engine}

/-- A feature, a comparator and what is read as a sum are an operand. -/
theorem comparison_taken (features : v.features = true) {vocabulary : Query.Vocabulary}
    {cs ds : List Char} {f : Feature} {made : Except Error Feature} (sign : ComparatorSign)
    (left : TakesAt (queries v) vocabulary 0 cs f) (blank : Blank isBlank bs)
    (right : Takes (queries v) isBlank (.call "feature_sum") ds []
      (.single fun n => featureOf vocabulary n = made))
    (clear : ∀ p : Char → Bool, (∀ c, startsFormula c = true → p c = false) → Clear p ds) :
    Takes (queries v) isBlank (.call "operand") (cs ++ (sign.text.toList ++ bs ++ ds)) []
      (.single fun n => operandOf vocabulary n =
        made.map (Query.Expr.comparison f sign.comparator)) := by
  have speaks := speaks_queries v
  have skips := skips_blanks v
  have tight : Clear isBlank (ds ++ []) := by
    simpa using clear isBlank fun _ => isBlank_of_startsFormula
  have equals : Clear ('=' == ·) (bs ++ (ds ++ [])) := by
    refine clear_blanks blank (by decide) ?_
    simpa using clear ('=' == ·) fun c starts => beq_eq_false_of (by decide) starts
  have behind : Follows 0 (sign.text.toList ++ (bs ++ ds ++ [])) :=
    (begins_sign sign _).mono (by decide)
  have later : Takes (queries v) isBlank
      (.seq (.call "comparator") (.call "feature_sum")) _ [] _ :=
    .seq skips (speaks.comparator_taken sign blank equals) right tight
  have body : Takes (queries v) isBlank (.seq (.call "feature_sum")
      (.seq (.call "comparator") (.call "feature_sum"))) _ [] _ :=
    .seq skips (left _ (by simpa using behind)) later (by simpa using behind.clear_blank)
  refine .call_silent (find?_operand v) (by decide) ?_
  rw [features]
  refine (Takes.choice_left (.call (find?_comparison v) (by decide) body)).imp ?_
  rintro _ ⟨n, rfl, rule, _, _, children, ⟨m, rfl, left⟩, _, _, rfl, ⟨k, rfl, spans⟩, m', rfl,
    right⟩
  exact ⟨n, rfl, operandOf_comparison rule children left (comparatorOf_spans spans) right⟩

/-- As a query by itself, a comparison is parsed to the comparison of its sides. -/
theorem parse_comparison (features : v.features = true)
    (parser : engine.parser = (queries v).parse "query")
    {text : String} {cs ds : List Char} {f : Feature} {made : Except Error Feature}
    (sign : ComparatorSign) (chars : text.toList = bs ++ (cs ++ (sign.text.toList ++ bs' ++ ds)))
    (blank : Blank isBlank bs) (left : TakesAt (queries v) engine.vocabulary 0 cs f)
    (blank' : Blank isBlank bs')
    (right : Takes (queries v) isBlank (.call "feature_sum") ds []
      (.single fun n => featureOf engine.vocabulary n = made))
    (first : ∀ tail, Clear isBlank (cs ++ tail))
    (clear : ∀ p : Char → Bool, (∀ c, startsFormula c = true → p c = false) → Clear p ds) :
    engine.parse text = made.map (Query.Expr.comparison f sign.comparator) := by
  obtain ⟨n, asks, built⟩ := asks_of_taken blank (first _)
    (comparison_taken features sign left blank' right clear)
  rw [← chars] at asks
  rw [asks.parse parser, setOf_singleton, built]

/-- A path is equal to a text in quotes. -/
def equated (p : IdentifierPath) (q : List Char) : String :=
  p.path.text ++ " = " ++ String.ofList q

theorem parse_equated (features : v.features = true)
    (parser : engine.parser = (queries v).parse "query")
    (tagged : engine.vocabulary = vocabularyOf v.named index)
    (p : IdentifierPath) (quoted : InQuotes q) :
    engine.parse (equated p q) = ((unquote (String.ofList q)).map Feature.text).map
      (Query.Expr.comparison (pathFeature v.named p) .equal) := by
  have speaks := speaks_queries v
  have blank : Blank isBlank [' '] := by decide
  have chars : (equated p q).toList =
      [] ++ ((p.path.text.toList ++ [' ']) ++ ("=".toList ++ [' '] ++ q)) := by
    simp [equated]
  have path : TakesAt (queries v) engine.vocabulary 0 (p.path.text.toList ++ [' '])
      (pathFeature v.named p) := by
    rw [tagged]
    exact (ReadsAt.of_atom speaks (path_atom speaks index p blank) (Nat.zero_le 3)).1
  have text := speaks.sum_taken (by simp [BeginsIn] : Follows 0 []) (speaks.quoted_atom
    (v := engine.vocabulary) quoted (by simp [Blank] : Blank isBlank []) [])
  rw [List.append_nil] at text
  refine parse_comparison features parser ⟨"=", .equal, rfl⟩ chars (by simp [Blank]) path blank text
    (fun tail => ?_) fun p outside => ?_
  · rw [List.append_assoc]
    exact p.clear (by decide) _
  · simpa using clear_inQuotes quoted (outside '"' (by decide)) []

/-! ### Flags -/

theorem parse_quoted_flag (flags : v.flags = true)
    (parser : engine.parser = (queries v).parse "query") (quoted : InQuotes q) :
    ∃ node, engine.parse (String.ofList q) = .ok (.flag node) ∧ ∃ pattern,
      node.children = [pattern] ∧ TagIndex.patternText pattern = unquote (String.ofList q) := by
  have none : Blank isBlank [] := by simp [Blank]
  obtain ⟨alone, fails⟩ := alone_inQuotes (v := v) quoted none
  rw [List.append_nil] at alone fails
  have pattern : Takes (queries v) isBlank (.call "pattern") (q ++ []) [] _ :=
    quoted_taken quoted none
  rw [List.append_nil] at pattern
  refine parse_of_takes parser flags (by simp) none alone
    ((Takes.choice_right (by simpa using fails) pattern).imp ?_)
  rintro _ ⟨pattern, rfl, text⟩ node children
  exact ⟨pattern, children, text⟩

/-- A flag is not resolved if its pattern is refused. -/
theorem evaluateExpr_refused {node pattern : ParseNode} {fault : Error}
    (tagged : engine.vocabulary = vocabularyOf named index)
    (children : node.children = [pattern])
    (refused : TagIndex.patternText pattern = .error fault) :
    (engine.evaluateExpr (.flag node)).result = .error fault := by
  have flag : TagIndex.Flag.ofNode node = .error fault := by
    rw [TagIndex.Flag.ofNode, children]
    change (TagIndex.patternText pattern).map _ = _
    rw [refused]
    rfl
  have tags : (index.flagTags node).result = .error fault := by
    rw [TagIndex.flagTags, Reported.bind_error flag]
  have resolved : (engine.vocabulary.resolveFlag node).result = .error fault := by
    rw [tagged]
    cases named with
    | true => exact congrArg Reported.result (Reported.bind_error tags _)
    | false => exact congrArg Reported.result (Reported.bind_error tags _)
  rw [Engine.evaluateExpr, Reported.bind_error resolved]

/-! ### The main result -/

/-- A text in quotes means the same in all places where it is accepted, whatever stands in it.
Where it denotes a text `s`:

* between braces it is rendered to `s`, up to consistent quotes if the engine is asked for them;
* behind a path and a comparator it is parsed to `s`, under every profile with features;
* by itself it is a flag with the pattern `s`, under every profile with flags.

Where it denotes nothing, the brace is copied, and both queries are refused for the text. -/
theorem quoted_text_agrees {v : Template.Vocabulary} {profile capabilities : Capabilities}
    {renderer : Template.Engine} {d : Dataset} {vocabulary : Query.Vocabulary}
    (known : v = .plain ∨ ∃ source, v = chapterVocabulary source)
    (madeRenderer : Template.Engine.withCapabilities v profile = .ok renderer)
    (archive : vocabulary = storyVocabulary index ∨ vocabulary = tagVocabulary index)
    (made : Engine.withCapabilities d vocabulary capabilities = .ok engine) :
    (∀ q : QuotedLiteral,
      (∀ record, renderer.render (Template.inBraces q.chars) record = .ok q.value ∧
        (renderer.withConsistentQuotes true).render (Template.inBraces q.chars) record =
          .ok (String.ofList (q.value.toList.map Template.plainQuote))) ∧
      (capabilities.features = true → ∀ p : IdentifierPath, ∃ left,
        (left = .field p.path ∨ storyFeature? p.path.text = some left) ∧
          engine.parse (equated p q.chars) = .ok (.comparison left .equal (.text q.value))) ∧
      (capabilities.flags = true → ∃ node,
        engine.parse (String.ofList q.chars) = .ok (.flag node) ∧ IsFlag node none q.value ∧
          index.flagTags node = index.select ⟨none, Text.lowercase q.value⟩)) ∧
    (∀ s record, renderer.render (Template.inBraces (encode s.toList)) record = .ok s) ∧
    ∀ q, InQuotes q → decode q = none →
      (∀ record, renderer.render (Template.inBraces q) record =
        (renderer.render (String.ofList (q ++ ['\x7d'])) record).map ("\x7b" ++ ·)) ∧
      (capabilities.features = true → ∀ p : IdentifierPath,
        engine.parse (equated p q) = .error (.parse (.badLiteral (String.ofList q))) ∧
          (engine.evaluate (equated p q)).result =
            .error (.parse (.badLiteral (String.ofList q)))) ∧
      (capabilities.flags = true → (engine.evaluate (String.ofList q)).result =
        .error (.parse (.badLiteral (String.ofList q)))) := by
  obtain ⟨custom, rfl, -⟩ := Template.engine_of_made known madeRenderer
  obtain ⟨variant, parser, tagged, flags, features⟩ := variant_of_made archive made
  have rendered (q : QuotedLiteral) (on : Bool) (record : Value) :
      Template.Engine.render ⟨v, (Template.directives custom).parse "directive", on⟩
          (Template.inBraces q.chars) record =
        .ok (String.ofList (if on then q.value.toList.map Template.plainQuote
          else q.value.toList)) :=
    Template.render_literal rfl q.inQuotes (decode_of_decodeAt q.decodes) record
  have exactly (q : QuotedLiteral) (record : Value) :
      Template.Engine.render ⟨v, (Template.directives custom).parse "directive", false⟩
        (Template.inBraces q.chars) record = .ok q.value := by
    rw [rendered q false, if_neg (by decide), String.ofList_toList]
  refine ⟨fun q => ⟨fun record => ⟨exactly q record, rendered q true record⟩, fun on p => ?_,
    fun on => ?_⟩, fun s => exactly (.of s), fun q quoted nothing => ⟨fun record => ?_,
      fun on p => ?_, fun on => ?_⟩⟩
  · have parsed := parse_equated (features.trans on) parser tagged p q.inQuotes
    rw [q.unquote_chars] at parsed
    exact ⟨_, pathFeature_cases variant.named p, parsed⟩
  · obtain ⟨node, parsed, pattern, children, text⟩ :=
      parse_quoted_flag (flags.trans on) parser q.inQuotes
    have flag : IsFlag node none q.value := .plain children (text.trans q.unquote_chars)
    exact ⟨node, parsed, flag, flag.flagTags index⟩
  · exact Template.render_refused rfl quoted nothing record
  · have parsed := parse_equated (features.trans on) parser tagged p quoted
    rw [unquote_of_none nothing] at parsed
    exact ⟨parsed, congrArg Reported.result (Reported.bind_error parsed _)⟩
  · obtain ⟨node, parsed, pattern, children, text⟩ :=
      parse_quoted_flag (flags.trans on) parser quoted
    have refused := evaluateExpr_refused tagged children (text.trans (unquote_of_none nothing))
    rw [Engine.evaluate, Reported.bind_ok parsed, Reported.bind_error refused]

/-- A pair of units for one character, a mark of quotes and a closing brace. -/
def pairAndMarks : QuotedLiteral where
  chars := "\"\\ud83d\\ude00\\\"\x7d\"".toList
  value := String.ofList [Char.ofNat 0x1f600, '"', '\x7d']
  decodes := by decide +kernel

/-- All three places agree on escapes, and on half of a pair, which denotes nothing. -/
theorem quoted_text_agrees_pair :
    Template.plainEngine.render "\x7b\"\\ud83d\\ude00\\\"\x7d\"\x7d" .null =
        .ok pairAndMarks.value ∧
      (storyEngine twoStories).parse ".a = \"\\ud83d\\ude00\\\"\x7d\"" =
        .ok (.comparison (.field ⟨["a"]⟩) .equal (.text pairAndMarks.value)) ∧
      (∃ node, (storyEngine twoStories).parse "\"\\ud83d\\ude00\\\"\x7d\"" =
        .ok (.flag node) ∧ IsFlag node none pairAndMarks.value) ∧
      ((storyEngine twoStories).evaluate "\"\\ud83d\"").result =
        .error (.parse (.badLiteral "\"\\ud83d\"")) := by
  have made := @withCapabilities_stories twoStories (by decide +kernel)
  obtain ⟨denoting, -, refused⟩ := quoted_text_agrees (.inl rfl)
    (Template.withCapabilities_plain .none) (.inl rfl) made
  obtain ⟨rendered, compared, flag⟩ := denoting pairAndMarks
  obtain ⟨left, means, parsed⟩ := compared rfl nameA
  obtain ⟨node, parsed', isFlag, -⟩ := flag rfl
  obtain rfl : left = .field ⟨["a"]⟩ := by
    rcases means with same | story
    · exact same
    · cases story
  have half : InQuotes "\"\\ud83d\"".toList :=
    ⟨"\\ud83d".toList, rfl, .escaped (.hex rfl (.hex rfl (.hex rfl (.hex rfl .nil))))⟩
  obtain ⟨-, -, nothing⟩ := refused _ half (by decide +kernel)
  exact ⟨(rendered .null).1, parsed, ⟨node, parsed', isFlag⟩, nothing rfl⟩

end Dialect.Archive
