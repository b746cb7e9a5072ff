import Dialect.Archive.Chapters
import Dialect.Proofs.Grammar.Composition
import Dialect.Proofs.Grammar.Enough
import Dialect.Proofs.Grammar.Extension
import Dialect.Template.Engine

/-!
The rules of template directives.
-/

namespace Dialect.Template

open Grammar

/-- What a grammar of directives has beyond the plain rules. -/
inductive Additions where
  | absent
  /-- There is a rule for chapter texts, but it is not called. -/
  | unused
  | chapterTexts
  deriving DecidableEq, Repr

/-- The rules in which directives are read. -/
def directiveRules (custom : Additions) : List Rule := [
  ⟨"WHITESPACE", .silent, .literal [' ']⟩,
  ⟨"directive", .normal,
    .seq (.literal ['\x7b']) (.seq (.call "embed") (.seq (.literal ['\x7d'])
      (.seq (.opt (.call "remainder")) .finish)))⟩,
  ⟨"remainder", .atomic, .seq (.one .any) (.star (.one .any))⟩,
  ⟨"embed", .silent, .choice (.call "join") (.call "data")⟩,
  ⟨"join", .normal,
    .seq (.literal ['j', 'o', 'i', 'n']) (.seq (.call "data")
      (.seq (.literal ['w', 'i', 't', 'h']) (.call "data")))⟩,
  ⟨"data", .normal, .seq (.call "atom") (.star (.call "atom"))⟩,
  ⟨"atom", .silent,
    let atom := .choice (.call "repeated") (.choice (.call "literal") (.call "field"))
    if custom = .chapterTexts then .choice (.call "custom_field") atom else atom⟩,
  ⟨"repeated", .normal, .seq (.call "literal") (.seq (.literal ['*']) (.call "count"))⟩,
  ⟨"literal", .compound,
    .seq (.literal ['"']) (.seq (.call "literal_body") (.literal ['"']))⟩,
  ⟨"literal_body", .atomic,
    .star (.choice (.seq (.literal ['\\']) (.one .any))
      (.seq (.notAhead (.choice (.literal ['"']) (.literal ['\\']))) (.one .any)))⟩,
  ⟨"field", .atomic,
    .seq (.seq (.literal ['.']) (.call "field_name"))
      (.star (.seq (.literal ['.']) (.call "field_name")))⟩,
  ⟨"field_name", .silent,
    .seq (.choice (.one .asciiAlpha) (.literal ['_']))
      (.star (.choice (.one .asciiAlphanumeric) (.literal ['_'])))⟩,
  ⟨"count", .atomic, .seq (.one .asciiDigit) (.star (.one .asciiDigit))⟩]
  ++ if custom = .absent then [] else [
    ⟨"custom_field", .normal, .call "chapter_text"⟩,
    ⟨"chapter_text", .atomic,
      .seq (.literal ['c', 'h', 'a', 'p', 't', 'e', 'r', '_', 't', 'e', 'x', 't'])
        (.notAhead (.choice (.one .asciiAlphanumeric) (.literal ['_'])))⟩]

/-- The grammar of directives. -/
def directives (custom : Additions) : Grammar := ⟨directiveRules custom⟩

/-! ### The composed grammars -/

theorem read_plain :
    Grammar.read? (skeleton.source .none .empty).toList = some (directives .absent) := by
  have none (slot : String) : Fragments.empty.get slot = [] := rfl
  rw [Skeleton.source_toList]
  simp only [skeleton, List.flatMap_cons, List.flatMap_nil, Skeleton.slotText_toList, none]
  -- the texts of the skeleton as lists of characters, which the reader can be run on
  rw [String.toList_ofList, String.toList_ofList, String.toList_ofList]
  decide +kernel

/-- The fragments of chapter texts. -/
def chapterFragments : Fragments := Fragments.empty.add vocabularySlot Archive.chapterTextRules

theorem read_chapters (on : Bool) :
    Grammar.read? (skeleton.source { customFields := on } chapterFragments).toList =
      some (directives (if on then .chapterTexts else .unused)) := by
  have texts (slot : String) : chapterFragments.get slot =
      if slot = vocabularySlot then [Archive.chapterTextRules] else [] := by
    rw [chapterFragments, Fragments.get_add]
    rfl
  rw [Skeleton.source_toList]
  simp only [skeleton, List.flatMap_cons, List.flatMap_nil, Skeleton.slotText_toList, texts]
  simp only [vocabularySlot, String.reduceEq, if_false, if_true, Archive.chapterTextRules,
    List.flatMap_cons, List.flatMap_nil]
  rw [String.toList_ofList, String.toList_ofList, String.toList_ofList, String.toList_ofList]
  cases on <;> decide +kernel

/-- The engines without additions read directives in their plain rules. -/
theorem withCapabilities_plain (capabilities : Capabilities) :
    Engine.withCapabilities .plain capabilities =
      .ok ⟨.plain, (directives .absent).parse "directive", false⟩ := by
  have none : capabilities.inter Vocabulary.plain.capabilities = .none := by
    simp [Capabilities.inter, Vocabulary.plain, Capabilities.none]
  have composed := Skeleton.compose_eq_ok (.inl rfl) (by decide +kernel) read_plain
    (by decide +kernel) (by decide +kernel)
  rw [Engine.withCapabilities, Engine.grammarOf, none]
  exact congrArg (Except.map _) composed

/-- The engines over an archive read directives with chapter texts among them, if custom fields are
enabled. -/
theorem withCapabilities_chapters (source : Archive.ChapterSource) (capabilities : Capabilities) :
    Engine.withCapabilities (Archive.chapterVocabulary source) capabilities =
      .ok ⟨Archive.chapterVocabulary source,
        (directives (if capabilities.customFields then .chapterTexts else .unused)).parse
          "directive", false⟩ := by
  have profile : capabilities.inter (Archive.chapterVocabulary source).capabilities =
      { customFields := capabilities.customFields } := by
    simp [Capabilities.inter, Archive.chapterVocabulary]
  rw [Engine.withCapabilities, Engine.grammarOf, profile]
  have composed (on : Bool) := Skeleton.compose_eq_ok (s := skeleton) (.inl rfl)
    (by decide +kernel) (read_chapters on) (by cases on <;> decide +kernel)
    (by cases on <;> decide +kernel)
  exact congrArg (Except.map _) (composed capabilities.customFields)

/-- The engines of the known vocabularies read directives in the rules of some additions. -/
theorem engine_of_made {v : Vocabulary} {capabilities : Capabilities} {engine : Engine}
    (known : v = .plain ∨ ∃ source, v = Archive.chapterVocabulary source)
    (made : Engine.withCapabilities v capabilities = .ok engine) :
    ∃ custom, engine = ⟨v, (directives custom).parse "directive", false⟩ ∧
      (custom = .chapterTexts → ∃ source, v = Archive.chapterVocabulary source) := by
  rcases known with rfl | ⟨source, rfl⟩
  · rw [withCapabilities_plain] at made
    exact ⟨_, (Except.ok.inj made).symm, nofun⟩
  · rw [withCapabilities_chapters] at made
    exact ⟨_, (Except.ok.inj made).symm, fun _ => ⟨source, rfl⟩⟩

/-! ### Steps and brackets -/

/-- The rules of directives from the bottom up. -/
def ranking : Ranking where
  order := ["WHITESPACE", "field_name", "field", "literal_body", "literal", "count", "repeated",
    "chapter_text", "custom_field", "atom", "data", "join", "embed", "remainder", "directive"]
  movers := ["WHITESPACE", "field_name", "field", "literal", "count", "repeated", "chapter_text",
    "custom_field", "atom", "data", "join", "embed", "remainder", "directive"]

theorem ranking_fits (custom : Additions) : ranking.Fits (directives custom) := by
  cases custom <;> decide +kernel

/-- What an attempt at a directive finds is what is read. -/
theorem reads_attempt (custom : Additions) (cs : List Char) :
    Reads (directives custom) (.expr (.call "directive")) {} 0 cs
      (attempt (directives custom) "directive" cs).found := by
  have low : ranking.descends ranking.order.length (callOf true "directive") = true := by decide
  exact attempt_reads (ranking_fits custom) low (size_call_le_weight _ _) cs

/-- What the rules of directives do to a scan, wherever a directive is still open. -/
def setting (custom : Additions) : Setting where
  blanks := [' ']
  stop := '\x7d'
  ranking := ranking
  contracts :=
    let spread := Stance.mk false false false
    let tight := Stance.mk true false false
    [⟨"embed", .outside, spread, false⟩, ⟨"join", .outside, spread, false⟩,
      ⟨"data", .outside, spread, false⟩, ⟨"atom", .outside, spread, false⟩,
      ⟨"repeated", .outside, spread, false⟩, ⟨"literal", .outside, tight, true⟩,
      ⟨"literal_body", .quoted, tight, true⟩, ⟨"field", .outside, tight, true⟩,
      ⟨"field_name", .outside, tight, false⟩, ⟨"count", .outside, tight, true⟩]
    ++ if custom = .chapterTexts then [
      ⟨"custom_field", .outside, spread, false⟩, ⟨"chapter_text", .outside, tight, true⟩]
    else []

theorem setting_right (custom : Additions) : (setting custom).Right (directives custom) where
  fits := ranking_fits custom
  blanks := by
    refine ⟨.literal [' '], by cases custom <;> rfl, congrArg some (funext fun c => ?_)⟩
    simp [setting, Bool.beq_comm, beq_eq_decide]
  plain := by
    intro c mem
    obtain rfl : c = ' ' := by simpa [setting] using mem
    rfl
  stop := by cases custom <;> decide
  contracts := by
    have checked : ∀ c ∈ (setting custom).contracts,
        (setting custom).checks (directives custom) c = true := by
      cases custom <;> decide +kernel
    exact fun c mem => Setting.keeps_of_checks (checked c mem)

end Dialect.Template
