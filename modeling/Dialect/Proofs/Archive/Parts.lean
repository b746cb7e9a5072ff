import Dialect.Proofs.Archive.Flags
import Dialect.Proofs.Text.Parts

/-!
Looking for part of the name of a tag.

Names and patterns are put in lower case separately, so a pattern that is cut out of a name finds
it if it has the same lower case by itself as in the name. That fails only where cutting changes the
end of a word for a capital sigma: `"ΑΣ"` has a final sigma, `"ΑΣΑ"` has none (`part_loses`). Every
other part of a name finds all stories with the tag (`part_selects`).
-/

namespace Dialect.Archive

open Query

/-- A part of the name of a tag, written as a flag, selects every story that lists the tag, if each
capital sigma in the part takes the same form by itself as in the name. -/
theorem part_selects {stories : Dataset} {engine : Engine} {capabilities : Capabilities}
    (flags : capabilities.flags = true)
    (made : Engine.withCapabilities stories (storyVocabulary (.build stories)) capabilities =
      .ok engine)
    {story tag name kind : String} {v : Value} (lists : (story, v) ∈ listed stories)
    (is : IsTag v tag name kind) {before part after : List Char}
    (split : name.toList = before ++ (part ++ after))
    (keeps : Text.KeepsSigmas before part after) {text : String}
    (written : FlagText text none (String.ofList part)) :
    ∃ ids, engine.Selects text ids ∧ story ∈ ids := by
  have carries : Carries stories story tag := ⟨v, name, kind, lists, is⟩
  have answers : Answers stories none (String.ofList part) tag :=
    ⟨Text.lowercase name, ⟨story, v, name, kind, lists, is, rfl⟩, keeps.lowercase_infix split⟩
  have serves : (Variant.mk true capabilities.flags capabilities.features).Serves
      (storyVocabulary (.build stories)) := ⟨_, rfl⟩
  have known := parser_of_made serves made
  obtain ⟨node, parsed, flag⟩ := written.parse (congrArg Engine.parser known) flags
  subst known
  obtain ⟨given, result, means⟩ := resolveFlag_stories stories none (String.ofList part)
  refine ⟨_, (Engine.selects_iff parsed).mpr ⟨Selection.ofIds stories given, ?_, rfl⟩, ?_⟩
  · rw [Engine.evaluateExpr, Reported.bind_ok (result node flag)]
    rfl
  · exact mem_ids_ofIds.mpr ⟨carries.mem_ids, (means story).mpr ⟨tag, carries, answers⟩⟩

/-- A story with a tag whose name is of capital letters, sigmas among them. -/
def greek : Dataset := .ofList [
  ("1", .object [("tags", .list [
    .object [("id", .number (.int 1)), ("name", .text "ΑΣΑ ΘΕΣ"), ("type", .text "Series")]])])]

theorem listed_greek : listed greek = [("1", .object [("id", .number (.int 1)),
    ("name", .text "ΑΣΑ ΘΕΣ"), ("type", .text "Series")])] := rfl

theorem isTag_greek : IsTag (.object [("id", .number (.int 1)), ("name", .text "ΑΣΑ ΘΕΣ"),
    ("type", .text "Series")]) "1" "ΑΣΑ ΘΕΣ" "Series" :=
  ⟨⟨_, rfl, rfl⟩, rfl, rfl⟩

/-- A part with a sigma within a word and another at the end of one finds the story. -/
theorem part_selects_greek :
    ∃ ids, (storyEngine greek).Selects "\"ΣΑ ΘΕΣ\"" ids ∧ "1" ∈ ids := by
  have written : FlagText "\"ΣΑ ΘΕΣ\"" none (String.ofList "ΣΑ ΘΕΣ".toList) :=
    @FlagText.plain _ _ [] _ [] (by decide) (by decide) (by decide)
      (.quoted (.of (String.ofList "ΣΑ ΘΕΣ".toList)))
  have split : "ΑΣΑ ΘΕΣ".toList = ['Α'] ++ ("ΣΑ ΘΕΣ".toList ++ []) := by simp
  have keeps : Text.KeepsSigmas ['Α'] "ΣΑ ΘΕΣ".toList [] := by decide
  exact part_selects rfl (withCapabilities_stories (by decide))
    (by rw [listed_greek]; exact List.mem_singleton.mpr rfl) isTag_greek split keeps written

/-- A part that ends behind a sigma, where the word goes on in the name, finds nothing. -/
theorem part_loses :
    ¬ ∀ (stories : Dataset) (engine : Engine) (story tag name kind : String) (v : Value)
        (part : List Char) (q : QuotedLiteral),
      Engine.new stories (storyVocabulary (.build stories)) = .ok engine →
        (story, v) ∈ listed stories → IsTag v tag name kind → part ≠ [] →
          part <:+: name.toList → q.value = String.ofList part →
            ∃ ids, engine.Selects (String.ofList q.chars) ids ∧ story ∈ ids := by
  intro finds
  obtain ⟨ids, selects, mem⟩ := finds greek (storyEngine greek) "1" "1" "ΑΣΑ ΘΕΣ" "Series" _
    ['Α', 'Σ'] (.of "ΑΣ") (withCapabilities_stories (by decide))
    (by rw [listed_greek]; exact List.mem_singleton.mpr rfl) isTag_greek (by decide)
    (by decide) (by decide)
  have nothing : (storyEngine greek).Selects (String.ofList (QuotedLiteral.of "ΑΣ").chars) [] := by
    decide +kernel
  obtain rfl := Except.ok.inj (nothing.symm.trans selects)
  cases mem

end Dialect.Archive
