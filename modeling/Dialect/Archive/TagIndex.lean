import Dialect.Dataset
import Dialect.Diagnostic
import Dialect.Query.Tree
import Dialect.Text.Lowercase
import Dialect.Text.Split
import Dialect.Value.Printer

/-!
The tag index of an archive of stories.

A story carries a list of tags, each with an id, a name and a type. The index is built by going
through the stories in the order of their ids and through each list of tags in its order. Under a
type each tag keeps the last name that it was seen with; under names it is found by every name that
it ever had. Tags without an id, a name or a type are passed over.
-/

namespace Dialect.Archive

/-- The categories that the flag syntax knows. -/
def categories : List String := ["character", "genre", "series", "content", "warning"]

/-- A well-formed tag of a story: its id as text, its name and type in lower case, and the whole
record of the tag. -/
structure Tag where
  id : String
  name : String
  kind : String
  record : Value

/-- Reads a tag; none if it is not well-formed. -/
def Tag.ofValue? (v : Value) : Option Tag :=
  match v.member? "id", v.member? "name", v.member? "type" with
  | some id, some (.text name), some (.text kind) =>
    some ⟨id.render, Text.lowercase name, Text.lowercase kind, v⟩
  | _, _, _ => none

/-- The well-formed tags of a story, in the order of its list. -/
def tagsOf (story : Value) : List Tag :=
  match story.member? "tags" with
  | some (.list tags) => tags.filterMap Tag.ofValue?
  | _ => []

/-- The well-formed tags of all stories, each with the id of its story. -/
def occurrences (stories : Dataset) : List (String × Tag) :=
  stories.toList.flatMap fun (id, story) => (tagsOf story).map fun tag => (id, tag)

/-- Look-ups by the tags of stories. -/
structure TagIndex where
  /-- By type and tag id, the last name. -/
  byType : SortedMap String (SortedMap String String) := ∅
  /-- By name, the ids of the tags that ever had it. -/
  byName : SortedMap String (SortedSet String) := ∅
  /-- By tag id, the stories that carry the tag. -/
  storiesByTag : SortedMap String (SortedSet String) := ∅
  /-- By tag id, the last record of the tag. -/
  tags : SortedMap String Value := ∅

namespace TagIndex

/-- The index with one more occurrence of a tag in a story. -/
def add (index : TagIndex) : String × Tag → TagIndex
  | (story, tag) => {
      byType := index.byType.alter tag.kind fun bucket => (bucket.getD ∅).insert tag.id tag.name
      byName := index.byName.alter tag.name fun ids => (ids.getD ∅).insert tag.id
      storiesByTag := index.storiesByTag.alter tag.id fun ids => (ids.getD ∅).insert story
      tags := index.tags.insert tag.id tag.record }

/-- The index of a dataset of stories. -/
def build (stories : Dataset) : TagIndex := (occurrences stories).foldl add {}

/-- The types of the tags, in order. -/
def categories (index : TagIndex) : List String := index.byType.keys

/-- The tags themselves as a dataset, by their ids. -/
def tagDataset (index : TagIndex) : Dataset := ⟨index.tags⟩

/-- The stories that carry a tag, in order. -/
def storiesWith (index : TagIndex) (tag : String) : List String :=
  ((index.storiesByTag.get? tag).getD ∅).toList

/-- The name contains the pattern. -/
def nameMatches (pattern name : String) : Bool := Text.contains pattern.toList name.toList

/-- The tags that ever had a name with the pattern. -/
def tagsNamed (index : TagIndex) (pattern : String) : SortedSet String :=
  SortedSet.ofList ((index.byName.toList.filter fun (name, _) => nameMatches pattern name).flatMap
    fun (_, ids) => ids.toList)

/-- The tags of a type whose last name has the pattern; none if there is no such type. -/
def tagsInCategory? (index : TagIndex) (category pattern : String) : Option (SortedSet String) :=
  (index.byType.get? category).map fun bucket =>
    SortedSet.ofList ((bucket.toList.filter fun (_, name) => nameMatches pattern name).map (·.1))

/-- A flag: a pattern, and the category it is restricted to, if any. -/
structure Flag where
  category : Option String
  pattern : String
  deriving DecidableEq, Repr

/-- The text of a pattern node: bare without the blanks around it, or quoted. -/
def patternText (node : ParseNode) : Except Error String :=
  if node.rule == "bare_pattern" then .ok (Text.trim node.text)
  else if node.rule == "quoted_pattern" then unquote node.text
  else .error (.vocabulary ("unexpected pattern node '" ++ node.rule ++ "'"))

/-- The flag of a node, in lower case. -/
def Flag.ofNode (node : ParseNode) : Except Error Flag :=
  match node.children with
  | [category, pattern] =>
    (patternText pattern).map fun p => ⟨some (Text.lowercase category.text), Text.lowercase p⟩
  | [pattern] => (patternText pattern).map fun p => ⟨none, Text.lowercase p⟩
  | _ => .error (.vocabulary ("malformed flag '" ++ node.text ++ "'"))

/-- The tags found for a term; finding none is reported. -/
def reportEmpty (term : String) (found : SortedSet String) : Reported (SortedSet String) :=
  if found.isEmpty then .warn (.unmatchedPattern term) found else .ok found

/-- The tags that a flag selects. An unknown category and a pattern without match are reported. -/
def select (index : TagIndex) (flag : Flag) : Reported (SortedSet String) :=
  match flag.category with
  | none => reportEmpty flag.pattern (index.tagsNamed flag.pattern)
  | some category =>
    match index.tagsInCategory? category flag.pattern with
    | none => .warn (.unknownCategory category index.categories) ∅
    | some found => reportEmpty (category ++ ":" ++ flag.pattern) found

/-- The tags that a flag node selects. -/
def flagTags (index : TagIndex) (node : ParseNode) : Reported (SortedSet String) := do
  let flag ← .ofExcept (Flag.ofNode node)
  index.select flag

end TagIndex

end Dialect.Archive
