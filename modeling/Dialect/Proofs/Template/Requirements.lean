import Dialect.Archive.Chapters
import Dialect.Proofs.Path.Locality
import Dialect.Proofs.Template.Planning
import Dialect.Template.Directive

/-!
What pieces of directives declare to read, and what they read.

A piece is sound if its outcome depends on pins only at the beginnings of the paths that it
declares. Fields are, since resolving is local; chapter texts are, since the list whose pin they
read is a beginning of the path they declare; and so is what is put together of sound pieces, and
all that directives over stories are built of (`sound_generatedOf`). The check of a join's separator
then makes sure that the separator comes out alike at every step (`separator_steady`), so that
rendering it once is as good as rendering it for each step. Main statement: `requirements_sound`.
-/

namespace Dialect.Template

open Archive

variable {record : Value} {pins other : Pins} {p b : FieldPath}

/-- The outcome depends on pins only at the non-empty beginnings of the declared paths. -/
def Generated.Sound (g : Generated) : Prop :=
  ∀ (record : Value) (pins other : Pins),
    (∀ x ∈ prefixClosure g.requirements, pins.get? x = other.get? x) →
      g.generator.generate record pins = g.generator.generate record other

/-- A piece built of fixed texts, fields and chapter texts, by putting pieces one behind another. -/
inductive Built : Generated → Prop where
  | constant (text : String) : Built (.constant text)
  | field (path : FieldPath) : Built (.field path)
  | chapter {source : ChapterSource} {node : ParseNode} {record : Value} {g : Generated}
      (made : chapterField source node record = .ok g) : Built g
  | concat {parts : List Generated} (built : ∀ part ∈ parts, Built part) : Built (.concat parts)

/-! ### Sound pieces -/

theorem sound_constant (text : String) : (Generated.constant text).Sound :=
  fun _ _ _ _ => rfl

theorem sound_field (path : FieldPath) : (Generated.field path).Sound := by
  intro record pins other agree
  have same : path.resolve record pins = path.resolve record other := by
    apply FieldPath.resolve_congr
    intro x mem
    apply agree
    obtain ⟨nonempty, pre⟩ := FieldPath.mem_prefixes.mp mem
    exact mem_prefixClosure.mpr ⟨nonempty, path, SortedSet.mem_single.mpr rfl, pre⟩
  rw [Generated.field, Generator.generate, Generator.generate, same]

/-- A chapter text reads one pin, at the list of chapters, and declares a path through it. -/
theorem sound_chapter {source : ChapterSource} {node : ParseNode} {g : Generated}
    (made : chapterField source node record = .ok g) : g.Sound := by
  obtain ⟨child, -, made⟩ := bind_eq_ok.mp made
  split at made
  · obtain ⟨id, -, made⟩ := bind_eq_ok.mp made
    cases made
    intro record pins other agree
    have pinned : pins.get? chapterList = other.get? chapterList := by
      apply agree
      refine mem_prefixClosure.mpr ⟨by simp [chapterList], ⟨["chapters", "text"]⟩, by simp, ?_⟩
      exact ⟨["text"], rfl⟩
    change chapterText source id.render pins = chapterText source id.render other
    rw [chapterText, chapterText, pinned]
  · cases made

theorem generateAll_congr {gs : List Generator}
    (same : ∀ g ∈ gs, g.generate record pins = g.generate record other) :
    Generator.generateAll record pins gs = Generator.generateAll record other gs := by
  induction gs with
  | nil => rfl
  | cons g rest ih =>
    obtain ⟨first, later⟩ := List.forall_mem_cons.mp same
    rw [Generator.generateAll, Generator.generateAll, first, ih later]

theorem sound_concat {parts : List Generated} (sound : ∀ part ∈ parts, part.Sound) :
    (Generated.concat parts).Sound := by
  intro record pins other agree
  have each : ∀ part ∈ parts,
      part.generator.generate record pins = part.generator.generate record other := by
    intro part mem
    apply sound part mem
    intro x closed
    obtain ⟨nonempty, path, needed, pre⟩ := mem_prefixClosure.mp closed
    apply agree
    exact mem_prefixClosure.mpr
      ⟨nonempty, path, mem_requirements_concat.mpr ⟨part, mem, needed⟩, pre⟩
  match parts, each with
  | [], _ => rfl
  | [part], each => exact each part List.mem_cons_self
  | part :: next :: rest, each =>
    apply generateAll_congr
    intro g mem
    obtain ⟨part, listed, rfl⟩ := List.mem_map.mp mem
    exact each part listed

theorem sound_of_built {g : Generated} (built : Built g) : g.Sound := by
  induction built with
  | constant text => exact sound_constant text
  | field path => exact sound_field path
  | chapter made => exact sound_chapter made
  | concat _ ih => exact sound_concat ih

/-! ### What directives are built of -/

/-- The embedding gives sound pieces only. -/
structure Vocabulary.Sound (v : Vocabulary) : Prop where
  field : ∀ {node record g}, v.customField node record = .ok g → g.Sound
  directive : ∀ {node record g}, v.customDirective node record = .ok g → g.Sound

theorem sound_chapters (source : ChapterSource) : (chapterVocabulary source).Sound where
  field := sound_chapter
  directive := nofun

theorem sound_repeated {literal count : ParseNode} {g : Generated}
    (made : repeated literal count = .ok g) : g.Sound := by
  obtain ⟨text, rfl⟩ := constant_of_repeated made
  exact sound_constant text

theorem sound_join {data separator g : Generated} (made : join data separator record = .ok g) :
    g.Sound := by
  obtain ⟨_, _, _, _, -, -, -, -, -, rfl⟩ := join_eq_ok.mp made
  exact sound_constant _

section

variable {v : Vocabulary}

mutual

/-- Whatever node a piece is built from, it is sound. -/
theorem sound_generatedOf (sound : v.Sound) (record : Value) : ∀ (node : ParseNode) {g : Generated},
    generatedOf v record node = .ok g → g.Sound
  | ⟨rule, text, start, stop, children⟩, g, made => by
    unfold generatedOf at made
    split at made
    · match children, made with
      | [data, separator], made =>
        obtain ⟨d, -, made⟩ := bind_eq_ok.mp made
        obtain ⟨s, -, made⟩ := bind_eq_ok.mp made
        exact sound_join made
    split at made
    · obtain ⟨parts, all, rfl⟩ := map_eq_ok.mp made
      exact sound_concat (sound_generatedAll sound record children all)
    split at made
    · obtain ⟨decoded, -, rfl⟩ := map_eq_ok.mp made
      exact sound_constant decoded
    split at made
    · match children, made with
      | [literal, count], made => exact sound_repeated made
    split at made
    · obtain ⟨path, -, rfl⟩ := map_eq_ok.mp made
      exact sound_field path
    split at made
    · exact sound.field made
    split at made
    · exact sound.directive made
    · cases made

theorem sound_generatedAll (sound : v.Sound) (record : Value) :
    ∀ (nodes : List ParseNode) {parts : List Generated},
      generatedAll v record nodes = .ok parts → ∀ part ∈ parts, part.Sound
  | [], parts, made => by
    cases made
    simp
  | node :: rest, parts, made => by
    obtain ⟨g, first, made⟩ := bind_eq_ok.mp made
    obtain ⟨gs, later, made⟩ := bind_eq_ok.mp made
    cases made
    refine List.forall_mem_cons.mpr ⟨?_, ?_⟩
    · exact sound_generatedOf sound record node first
    · exact sound_generatedAll sound record rest later

end

end

/-! ### Separators -/

/-- A sound separator that reads nothing along a list comes out alike whatever of the list is
pinned. -/
theorem separator_steady {separator : Generated} (sound : separator.Sound)
    (fixed : ∀ p ∈ separator.requirements, ¬ b.segments <+: p.segments) (i : Nat) :
    separator.generator.generate record (Pins.single b i) =
      separator.generator.generate record ∅ := by
  apply sound
  intro x closed
  obtain ⟨-, path, needed, pre⟩ := mem_prefixClosure.mp closed
  rw [FieldPath.get?_single, if_neg, SortedMap.get?_empty]
  rintro rfl
  exact fixed path needed pre

/-- Texts one after the other, each but the last with the next of the separators behind it. -/
def weave : (texts separators : List String) → String
  | [], _ => ""
  | [text], _ => text
  | text :: next :: rest, [] => text ++ weave (next :: rest) []
  | text :: next :: rest, separator :: separators =>
    text ++ separator ++ weave (next :: rest) separators

/-- A join that renders its separator anew at each step, under the pin of the step. -/
def joinEachStep (data separator : Generated) (record : Value) : Except Error Generated := do
  let list ← singleBoundary record (data.requirements ∪ separator.requirements)
  match separator.requirements.toList.find? fun p => p.prefixes.contains list with
  | some p => .error (.iteration (.varyingSeparator p list))
  | none =>
    let count ← lengthAt record list
    let glues ← pieces separator.generator record list (List.range count)
    let texts ← pieces data.generator record list (List.range count)
    pure (.constant (weave texts glues))

theorem weave_replicate {glue : String} {texts : List String} {n : Nat}
    (enough : texts.length ≤ n) : weave texts (List.replicate n glue) = between glue texts := by
  induction texts generalizing n with
  | nil => rfl
  | cons text rest ih =>
    cases rest with
    | nil => rfl
    | cons next rest =>
      cases n with
      | zero => cases enough
      | succ n =>
        rw [List.replicate_succ, weave, between, ih (Nat.le_of_succ_le_succ enough)]

/-- A sound separator may as well be rendered at each step, unless there is no step and it has no
text either. -/
theorem join_eq_joinEachStep {data separator : Generated} {items : List Value}
    (sound : separator.Sound)
    (single : (boundaries record (data.requirements ∪ separator.requirements)).toList = [b])
    (here : b.resolve record ∅ = .ok (.list items))
    (known : items ≠ [] ∨ ∃ glue, separator.generator.generate record ∅ = .ok glue) :
    join data separator record = joinEachStep data separator record := by
  rw [join_planned single here, joinEachStep, singleBoundary_eq_ok.mpr single]
  change _ = (match separator.requirements.toList.find? fun p => p.prefixes.contains b with
    | some _ => _
    | none => lengthAt record b >>= _)
  rw [lengthAt_of_list here]
  cases check : separator.requirements.toList.find? fun p => p.prefixes.contains b with
  | some p => rfl
  | none =>
    have fixed := (find?_varying_eq_none (single_boundary_list single).1).mp check
    have known : List.range items.length ≠ [] ∨
        ∃ glue, separator.generator.generate record ∅ = .ok glue :=
      known.imp_left fun nonempty => by simpa using nonempty
    have glues : pieces separator.generator record b (List.range items.length) =
        (separator.generator.generate record ∅).map (List.replicate items.length) := by
      rw [pieces, funext (separator_steady sound fixed), mapM_const known, List.length_range]
    change _ = (pieces separator.generator record b (List.range items.length) >>= _)
    rw [glues]
    cases separator.generator.generate record ∅ with
    | error e => rfl
    | ok glue =>
      change (pieces data.generator record b (List.range items.length) >>= _) =
        (pieces data.generator record b (List.range items.length) >>= _)
      cases rendered : pieces data.generator record b (List.range items.length) with
      | error e => rfl
      | ok texts =>
        have length : texts.length ≤ items.length := by
          rw [← (mapM_eq_ok.mp rendered).length_eq, List.length_range]
        change Except.ok (Generated.constant (glue.intercalate texts)) =
          .ok (.constant (weave texts (List.replicate items.length glue)))
        rw [weave_replicate length, intercalate_eq_between]

/-- What pieces declare to read covers what they read. The outcome of a piece built of fixed texts,
fields and chapter texts is the same under pins that agree at the beginnings of its declared paths,
and so for all that directives over stories are built of. Where a join has a single list and its
separator passes the check, the separator comes out alike under the pin of every step and without
pins; so rendering it once is the same as rendering it for each step, where there is a step or a
text to render. -/
theorem requirements_sound :
    (∀ g : Generated, Built g → ∀ (record : Value) (pins other : Pins),
      (∀ x ∈ prefixClosure g.requirements, pins.get? x = other.get? x) →
        g.generator.generate record pins = g.generator.generate record other) ∧
    (∀ (source : ChapterSource) (record : Value) (node : ParseNode) (g : Generated),
      generatedOf (chapterVocabulary source) record node = .ok g → g.Sound) ∧
    ∀ (data separator : Generated) (record : Value) (b : FieldPath), Built separator →
      singleBoundary record (data.requirements ∪ separator.requirements) = .ok b →
        (separator.requirements.toList.find? fun p => p.prefixes.contains b) = none →
          (∀ i, separator.generator.generate record (Pins.single b i) =
            separator.generator.generate record ∅) ∧
          (b.resolve record ∅ ≠ .ok (.list []) ∨
              (∃ glue, separator.generator.generate record ∅ = .ok glue) →
            join data separator record = joinEachStep data separator record) := by
  refine ⟨fun g => sound_of_built, ?_, ?_⟩
  · intro source record node g
    exact sound_generatedOf (sound_chapters source) record node
  · intro data separator record b built planned check
    have single := singleBoundary_eq_ok.mp planned
    obtain ⟨proper, items, here⟩ := single_boundary_list single
    have fixed := (find?_varying_eq_none proper).mp check
    refine ⟨separator_steady (sound_of_built built) fixed, ?_⟩
    intro known
    apply join_eq_joinEachStep (sound_of_built built) single here
    refine known.imp_left fun steps => ?_
    rintro rfl
    exact steps here

/-- A story of two chapters. -/
def twoChapters : Value := .object [
  ("chapters", .list [.object [("name", .text "One")], .object [("name", .text "Two")]]),
  ("id", .number (.int 7)),
  ("title", .text "Elm")]

/-- The node of a directive's `chapter_text`. -/
def chapterNode : ParseNode :=
  ⟨"custom_field", "chapter_text", 0, 12, [⟨"chapter_text", "chapter_text", 0, 12, []⟩]⟩

theorem requirements_sound_twoChapters :
    (∃ chapter,
      chapterField (ChapterSource.ofList [("7", ["first", "second"])]) chapterNode twoChapters =
        .ok chapter ∧
      (Generated.concat [chapter, .constant "!"]).generator.generate twoChapters
        ((Pins.single ⟨["chapters"]⟩ 1).insert ⟨["title"]⟩ 4) = .ok "second!") ∧
    join (.field ⟨["chapters", "name"]⟩) (.concat [.field ⟨["title"]⟩, .constant " "])
        twoChapters =
      joinEachStep (.field ⟨["chapters", "name"]⟩) (.concat [.field ⟨["title"]⟩, .constant " "])
        twoChapters := by
  obtain ⟨covered, -, steady⟩ := requirements_sound
  constructor
  · have made : chapterField (ChapterSource.ofList [("7", ["first", "second"])]) chapterNode
        twoChapters = .ok _ := rfl
    have built : Built (.concat [_, .constant "!"]) :=
      .concat (List.forall_mem_cons.mpr ⟨.chapter made, by simpa using .constant "!"⟩)
    refine ⟨_, made, ?_⟩
    rw [covered _ built _ _ (Pins.single ⟨["chapters"]⟩ 1) (by decide +kernel)]
    rfl
  · have built : Built (.concat [.field ⟨["title"]⟩, .constant " "]) :=
      .concat (List.forall_mem_cons.mpr ⟨.field _, by simpa using .constant " "⟩)
    refine (steady _ _ twoChapters ⟨["chapters"]⟩ built ?_ ?_).2 (.inr ⟨"Elm ", rfl⟩)
    · decide +kernel
    · decide +kernel

end Dialect.Template
