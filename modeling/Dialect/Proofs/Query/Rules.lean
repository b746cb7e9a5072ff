import Dialect.Archive.Vocabulary
import Dialect.Proofs.Grammar.Composition
import Dialect.Proofs.Sequence
import Dialect.Query.Engine

/-!
The rules of queries.

An archive has two vocabularies for queries, and each can be used without flags or without features.
The grammars that come from this differ in three places, and are treated as one.
-/

namespace Dialect.Query

open Grammar

/-- A grammar of queries over an archive. -/
structure Variant where
  /-- Stories have features by name. -/
  named : Bool
  flags : Bool
  features : Bool
  deriving DecidableEq, Repr

/-- An expression after a first alternative, if there is one. -/
def orElse (first : Bool) (a b : Grammar.Expr) : Grammar.Expr := if first then .choice a b else b

/-- The operators of a chain behind its first operand. -/
def chainOf (operand operator : String) : Grammar.Expr :=
  .seq (.call operand) (.star (.seq (.call operator) (.call operand)))

/-- The inside of a text in double quotes. -/
def quotedBody : Grammar.Expr :=
  .star (.choice (.seq (.literal ['\\']) (.one .any))
    (.seq (.notAhead (.choice (.literal ['"']) (.literal ['\\']))) (.one .any)))

/-- One ASCII digit or more. -/
def digits : Grammar.Expr := .seq (.one .asciiDigit) (.star (.one .asciiDigit))

/-- The rules in which queries are read. -/
def queryRules (v : Variant) : List Rule := [
  ⟨"WHITESPACE", .silent,
    .choice (.literal [' ']) (.choice (.literal ['\t'])
      (.choice (.literal ['\r']) (.literal ['\n'])))⟩,
  ⟨"query", .normal, .seq .start (.seq (.call "set_expr") .finish)⟩,
  ⟨"set_expr", .normal, chainOf "operand" "set_op"⟩,
  ⟨"set_op", .normal, .choice (.literal [',']) (.literal ['|'])⟩,
  ⟨"operand", .silent,
    orElse v.features (.call "comparison") (.choice (.call "negation")
      (if v.flags then .choice (.call "grouped") (.call "flag") else .call "grouped"))⟩,
  ⟨"negation", .normal,
    .seq (.literal ['-'])
      (if v.flags then .choice (.call "grouped") (.call "flag") else .call "grouped")⟩,
  ⟨"grouped", .silent, .seq (.literal ['(']) (.seq (.call "set_expr") (.literal [')']))⟩,
  ⟨"comparison", .normal,
    .seq (.call "feature_sum") (.seq (.call "comparator") (.call "feature_sum"))⟩,
  ⟨"comparator", .atomic,
    .choice (.literal ['<', '=']) (.choice (.literal ['>', '=']) (.choice (.literal ['=', '='])
      (.choice (.literal ['<']) (.choice (.literal ['>']) (.literal ['='])))))⟩,
  ⟨"feature_sum", .normal, chainOf "feature_product" "shift_op"⟩,
  ⟨"shift_op", .atomic, .choice (.literal ['+']) (.literal ['-'])⟩,
  ⟨"feature_product", .normal, chainOf "feature_power" "scale_op"⟩,
  ⟨"scale_op", .atomic, .choice (.literal ['*']) (.literal ['/'])⟩,
  ⟨"feature_power", .normal, chainOf "feature_atom" "power_op"⟩,
  ⟨"power_op", .atomic, .literal ['^']⟩,
  ⟨"feature_atom", .silent,
    orElse v.named (.call "story_feature") (.choice (.call "extremum") (.choice (.call "field")
      (.choice (.seq (.literal ['(']) (.seq (.call "feature_sum") (.literal [')'])))
        (.choice (.call "number") (.call "string")))))⟩,
  ⟨"extremum", .normal,
    .seq (.call "extremum_name") (.seq (.literal ['(']) (.seq (.call "feature_sum")
      (.seq (.star (.seq (.literal [',']) (.call "feature_sum"))) (.literal [')']))))⟩,
  ⟨"extremum_name", .atomic, .choice (.literal ['m', 'a', 'x']) (.literal ['m', 'i', 'n'])⟩,
  ⟨"field", .atomic,
    .seq (.seq (.literal ['.']) (.call "field_name"))
      (.star (.seq (.literal ['.']) (.call "field_name")))⟩,
  ⟨"field_name", .silent,
    .seq (.choice (.one .asciiAlpha) (.literal ['_']))
      (.star (.choice (.one .asciiAlphanumeric) (.literal ['_'])))⟩,
  ⟨"number", .atomic,
    .seq (.opt (.literal ['-'])) (.seq digits (.seq (.opt (.seq (.literal ['.']) digits))
      (.opt (.seq (.caseless ['e'])
        (.seq (.opt (.choice (.literal ['+']) (.literal ['-']))) digits)))))⟩,
  ⟨"string", .compound,
    .seq (.literal ['"']) (.seq (.call "string_body") (.literal ['"']))⟩,
  ⟨"string_body", .atomic, quotedBody⟩,
  ⟨"flag", .normal,
    .choice (.seq (.call "category") (.seq (.literal [':']) (.call "pattern")))
      (.call "pattern")⟩,
  ⟨"category", .atomic,
    .choice (.caseless ['c', 'h', 'a', 'r', 'a', 'c', 't', 'e', 'r'])
      (.choice (.caseless ['g', 'e', 'n', 'r', 'e'])
        (.choice (.caseless ['s', 'e', 'r', 'i', 'e', 's'])
          (.choice (.caseless ['c', 'o', 'n', 't', 'e', 'n', 't'])
            (.caseless ['w', 'a', 'r', 'n', 'i', 'n', 'g']))))⟩,
  ⟨"pattern", .silent, .choice (.call "quoted_pattern") (.call "bare_pattern")⟩,
  ⟨"bare_pattern", .atomic,
    .seq (.choice (.one .alphabetic) (.choice (.one .numeric) (.literal ['_'])))
      (.star (.choice (.one .alphabetic) (.choice (.one .numeric)
        (.choice (.literal ['_']) (.literal [' '])))))⟩,
  ⟨"quoted_pattern", .compound,
    .seq (.literal ['"']) (.seq (.call "quoted_body") (.literal ['"']))⟩,
  ⟨"quoted_body", .atomic, quotedBody⟩]
  ++ if v.named then [
    ⟨"story_feature", .atomic,
      .seq (.choice (.literal ['.', 'r', 'a', 't', 'i', 'o'])
          (.choice (.literal ['.', 's', 't', 'a', 't', 'u', 's'])
            (.choice (.literal ['.', 'l', 'i', 'k', 'e', 's'])
              (.choice (.literal ['.', 'd', 'i', 's', 'l', 'i', 'k', 'e', 's'])
                (.literal ['.', 'w', 'o', 'r', 'd', 'c', 'o', 'u', 'n', 't'])))))
        (.notAhead (.choice (.one .asciiAlphanumeric)
          (.choice (.literal ['_']) (.literal ['.']))))⟩]
  else []

/-- The grammar of queries. -/
def queries (v : Variant) : Grammar := ⟨queryRules v⟩

/-! ### The composed grammars -/

/-- The fragments of the vocabulary of stories or of tags. -/
def fragmentsOf (named : Bool) : Fragments :=
  if named then
    (Archive.flagFragments.add vocabularySlot Archive.storyFeatureRules).add featureAtomsSlot
      "story_feature |"
  else Archive.flagFragments

/-- The fragments in a slot. -/
theorem get_fragmentsOf (named : Bool) (slot : String) :
    (fragmentsOf named).get slot =
      if named then
        if slot = featureAtomsSlot then ["story_feature |"]
        else if slot = vocabularySlot then [Archive.flagRules, Archive.storyFeatureRules] else []
      else if slot = vocabularySlot then [Archive.flagRules] else [] := by
  have none (slot : String) : Fragments.empty.get slot = [] := rfl
  have other : featureAtomsSlot ≠ vocabularySlot := by decide
  cases named with
  | false => simp [fragmentsOf, Archive.flagFragments, Fragments.get_add, none]
  | true =>
      simp only [fragmentsOf, if_true, Archive.flagFragments, Fragments.get_add, none]
      by_cases rules : slot = vocabularySlot
      · simp [rules, other.symm]
      · simp [if_neg rules, other]

theorem read_queries {v : Variant} (offers : (v.flags || v.features) = true) :
    Grammar.read? (skeleton.source { flags := v.flags, features := v.features }
      (fragmentsOf v.named)).toList = some (queries v) := by
  rw [Skeleton.source_toList]
  simp only [skeleton, List.flatMap_cons, List.flatMap_nil, Skeleton.slotText_toList,
    get_fragmentsOf]
  simp only [vocabularySlot, featureAtomsSlot, String.reduceEq, if_false, if_true,
    Archive.flagRules, Archive.storyFeatureRules, List.filter_cons, List.filter_nil,
    String.reduceBEq, Bool.true_and, Bool.false_and, Bool.false_eq_true, Capabilities.enabled]
  obtain ⟨named, flags, features⟩ := v
  cases named <;> cases flags <;> cases features
  -- the texts as lists of characters, which the reader can be run on
  all_goals
    simp only [if_true, if_false, Bool.false_eq_true, List.flatMap_cons, List.flatMap_nil]
    repeat rw [String.toList_ofList]
  · cases offers
  · decide +kernel
  · decide +kernel
  · decide +kernel
  · cases offers
  · decide +kernel
  · decide +kernel
  · decide +kernel

/-- The vocabulary of stories or of tags. -/
def vocabularyOf (named : Bool) (index : Archive.TagIndex) : Vocabulary :=
  if named then Archive.storyVocabulary index else Archive.tagVocabulary index

/-- The vocabulary is one of an archive, and the variant says which. -/
def Variant.Serves (v : Variant) (vocabulary : Vocabulary) : Prop :=
  ∃ index, vocabulary =
    if v.named then Archive.storyVocabulary index else Archive.tagVocabulary index

theorem serves_of_archive {vocabulary : Vocabulary} (flags features : Bool)
    (archive : ∃ index, vocabulary = Archive.storyVocabulary index ∨
      vocabulary = Archive.tagVocabulary index) :
    ∃ named, (Variant.mk named flags features).Serves vocabulary := by
  obtain ⟨index, rfl | rfl⟩ := archive
  · exact ⟨true, index, rfl⟩
  · exact ⟨false, index, rfl⟩

theorem fragments_of_serves {v : Variant} {vocabulary : Vocabulary} (serves : v.Serves vocabulary) :
    vocabulary.fragments = fragmentsOf v.named ∧
      vocabulary.capabilities = { flags := true, features := true } := by
  obtain ⟨index, rfl⟩ := serves
  cases v.named <;> exact ⟨rfl, rfl⟩

/-- The grammar of a variant is composed under its profile. -/
theorem compose_queries {v : Variant} (offers : (v.flags || v.features) = true) :
    skeleton.compose { flags := v.flags, features := v.features } (fragmentsOf v.named) =
      .ok ⟨"query", "query", { flags := v.flags, features := v.features },
        skeleton.source { flags := v.flags, features := v.features } (fragmentsOf v.named),
        queries v⟩ := by
  refine Skeleton.compose_eq_ok (.inr ?_) ?_ (read_queries offers) ?_ ?_
  · simpa [skeleton, Capabilities.enabled] using offers
  · cases v.named <;> decide +kernel
  all_goals
    obtain ⟨named, flags, features⟩ := v
    cases named <;> cases flags <;> cases features <;> decide +kernel

/-- Under a profile the grammar over an archive is that of its variant. -/
theorem grammarOf_eq {named : Bool} {vocabulary : Vocabulary} {capabilities : Capabilities}
    (offers : (capabilities.flags || capabilities.features) = true)
    (serves : (Variant.mk named capabilities.flags capabilities.features).Serves vocabulary) :
    ∃ source, Engine.grammarOf vocabulary capabilities =
      .ok ⟨"query", "query", { flags := capabilities.flags, features := capabilities.features },
        source, queries ⟨named, capabilities.flags, capabilities.features⟩⟩ := by
  obtain ⟨fragments, offered⟩ := fragments_of_serves serves
  have profile : capabilities.inter vocabulary.capabilities =
      { flags := capabilities.flags, features := capabilities.features } := by
    simp [Capabilities.inter, offered]
  rw [Engine.grammarOf, profile, fragments]
  exact ⟨_, compose_queries (v := ⟨named, _, _⟩) offers⟩

/-- The engines over an archive read queries in the rules of their variant. -/
theorem withCapabilities_eq {named : Bool} {d : Dataset} {vocabulary : Vocabulary}
    {capabilities : Capabilities} (offers : (capabilities.flags || capabilities.features) = true)
    (serves : (Variant.mk named capabilities.flags capabilities.features).Serves vocabulary) :
    Engine.withCapabilities d vocabulary capabilities = Engine.ofParts d vocabulary
      ((queries ⟨named, capabilities.flags, capabilities.features⟩).parse "query") := by
  obtain ⟨source, composed⟩ := grammarOf_eq offers serves
  rw [Engine.withCapabilities, composed]
  rfl

theorem parser_of_made {named : Bool} {d : Dataset} {vocabulary : Vocabulary}
    {capabilities : Capabilities} {engine : Engine}
    (serves : (Variant.mk named capabilities.flags capabilities.features).Serves vocabulary)
    (made : Engine.withCapabilities d vocabulary capabilities = .ok engine) :
    engine = ⟨d, vocabulary,
      (queries ⟨named, capabilities.flags, capabilities.features⟩).parse "query"⟩ := by
  have offers : (capabilities.flags || capabilities.features) = true := by
    obtain ⟨grammar, composed, -⟩ := bind_eq_ok.mp made
    have offered := (fragments_of_serves serves).2
    simpa [skeleton, Capabilities.enabled, Capabilities.inter, offered] using
      Skeleton.enabled_of_compose composed
  rw [withCapabilities_eq offers serves, Engine.ofParts] at made
  split at made
  · exact (Except.ok.inj made).symm
  · cases made

/-- The engines over an archive read queries in the rules of a variant with their profile. -/
theorem variant_of_made {index : Archive.TagIndex} {d : Dataset} {vocabulary : Vocabulary}
    {capabilities : Capabilities} {engine : Engine}
    (archive : vocabulary = Archive.storyVocabulary index ∨
      vocabulary = Archive.tagVocabulary index)
    (made : Engine.withCapabilities d vocabulary capabilities = .ok engine) :
    ∃ v : Variant, engine.parser = (queries v).parse "query" ∧
      engine.vocabulary = vocabularyOf v.named index ∧
      v.flags = capabilities.flags ∧ v.features = capabilities.features := by
  obtain ⟨named, same⟩ : ∃ named, vocabulary = vocabularyOf named index := by
    rcases archive with same | same
    · exact ⟨true, same⟩
    · exact ⟨false, same⟩
  have serves : (Variant.mk named capabilities.flags capabilities.features).Serves vocabulary :=
    ⟨index, same⟩
  rw [parser_of_made serves made]
  exact ⟨_, rfl, same, rfl, rfl⟩

end Dialect.Query
