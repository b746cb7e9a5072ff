import Dialect.Archive.TagIndex
import Dialect.Query.Skeleton
import Dialect.Query.Vocabulary

/-!
Queries over an archive of stories.

A flag is a pattern for tag names, bare or quoted, that may be restricted to a type of tags. Over
stories it selects those that carry a matching tag, over tags it selects the tags. Stories also have
features by name.
-/

namespace Dialect.Archive

/-- The rules of flags. -/
def flagRules : String := r#"
flag = { category ~ ":" ~ pattern | pattern }
category = @{ ^"character" | ^"genre" | ^"series" | ^"content" | ^"warning" }
pattern = _{ quoted_pattern | bare_pattern }
bare_pattern = @{ (ALPHABETIC | NUMBER | "_") ~ (ALPHABETIC | NUMBER | "_" | " ")* }
quoted_pattern = ${ "\"" ~ quoted_body ~ "\"" }
quoted_body = @{ ("\\" ~ ANY | !("\"" | "\\") ~ ANY)* }
"#

/-- The rules of the features that stories have by name. -/
def storyFeatureRules : String := r#"
story_feature = @{ (".ratio" | ".status" | ".likes" | ".dislikes" | ".wordcount") ~ !(ASCII_ALPHANUMERIC | "_" | ".") }
"#

/-- The fragments of flags. -/
def flagFragments : Fragments := Fragments.empty.add Query.vocabularySlot flagRules

/-- A count of a story, but at least a half. -/
def floored (field : String) : Feature :=
  .extremum .max [.field ⟨[field]⟩, .number 0.5]

/-- The feature that stories have under a name. -/
def storyFeature? : String → Option Feature
  | ".ratio" => some (.binary .divide (floored "num_likes") (floored "num_dislikes"))
  | ".status" => some (.field ⟨["completion_status"]⟩)
  | ".likes" => some (.field ⟨["num_likes"]⟩)
  | ".dislikes" => some (.field ⟨["num_dislikes"]⟩)
  | ".wordcount" => some (.field ⟨["num_words"]⟩)
  | _ => none

/-- The feature of a node that names one. -/
def storyFeature (node : ParseNode) : Except Error (Option Feature) :=
  if node.is "story_feature" then
    match storyFeature? node.text with
    | some f => .ok (some f)
    | none => .error (.vocabulary ("unknown story feature '" ++ node.text ++ "'"))
  else .ok none

/-- Queries over stories. -/
def storyVocabulary (index : TagIndex) : Query.Vocabulary where
  capabilities := { flags := true, features := true }
  fragments :=
    (flagFragments.add Query.vocabularySlot storyFeatureRules).add Query.featureAtomsSlot
      "story_feature |"
  resolveFlag node := do
    let tags ← index.flagTags node
    pure (SortedSet.ofList (tags.toList.flatMap index.storiesWith)).toList
  feature := storyFeature

/-- Queries over the tags themselves. -/
def tagVocabulary (index : TagIndex) : Query.Vocabulary where
  capabilities := { flags := true, features := true }
  fragments := flagFragments
  resolveFlag node := do
    let tags ← index.flagTags node
    pure tags.toList

end Dialect.Archive
