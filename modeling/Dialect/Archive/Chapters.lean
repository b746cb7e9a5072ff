import Dialect.Path.Resolve
import Dialect.Template.Skeleton
import Dialect.Template.Vocabulary
import Dialect.Value.Printer

/-!
Templates over an archive of stories.

Inside a join over the chapters of a story, `chapter_text` is the text of the current chapter. It
reads `.chapters.text`, so the join finds the list of chapters, and takes the chapter that the join
pins.
-/

namespace Dialect.Archive

/-- Where the texts of chapters come from, by story and position. -/
abbrev ChapterSource := (story : String) → (index : Nat) → Except Error String

/-- A source that holds all chapters; of two entries for a story the later counts. -/
def ChapterSource.ofList (stories : List (String × List String)) : ChapterSource :=
  let chapters := SortedMap.ofList stories
  fun story index =>
    match (chapters.getD story [])[index]? with
    | some text => .ok text
    | none =>
      .error (.vocabulary ("no text for chapter " ++ toString index ++ " of story " ++ story))

/-- The rules of chapter texts. -/
def chapterTextRules : String := r#"
custom_field = { chapter_text }
chapter_text = @{ "chapter_text" ~ !(ASCII_ALPHANUMERIC | "_") }
"#

/-- The list of chapters of a story. -/
def chapterList : FieldPath := ⟨["chapters"]⟩

/-- The text of the chapter that is pinned. -/
def chapterText (source : ChapterSource) (story : String) (pins : Pins) : Except Error String :=
  match pins.get? chapterList with
  | some index => source story index
  | none => .error (.iteration (.outsideJoin "chapter_text" chapterList))

/-- The generator of a `custom_field` node for a story. -/
def chapterField (source : ChapterSource) (node : ParseNode) (record : Value) :
    Except Error Template.Generated := do
  let field ← node.onlyChild
  if field.is "chapter_text" then
    let id ← FieldPath.resolve ⟨["id"]⟩ record ∅
    let story := id.render
    pure {
      generator := .custom ("ChapterText(" ++ story ++ chapterList.text ++ ")")
        fun _ pins => chapterText source story pins
      requirements := .single ⟨["chapters", "text"]⟩ }
  else .error (.vocabulary ("unknown custom field '" ++ field.text ++ "'"))

/-- Directives with chapter texts. -/
def chapterVocabulary (source : ChapterSource) : Template.Vocabulary where
  capabilities := { customFields := true }
  fragments := Fragments.empty.add Template.vocabularySlot chapterTextRules
  customField := chapterField source

end Dialect.Archive
