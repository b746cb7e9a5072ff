import Dialect.Proofs.Path.Resolution
import Dialect.Proofs.Sequence
import Dialect.Template.Join

/-!
Joins against a reference that renders each element on its own.

Data and separators are built from fixed texts and fields by concatenation. The reference takes the
elements of the one list that their fields reach, renders the data inside each element and puts one
rendering of the separator between neighbours. `join_reference` says that joins succeed exactly
when the reference has a text, and with that text.
-/

namespace Dialect.Template

/-! ### Data built by concatenation -/

/-- A piece of data: fixed texts, fields, and such pieces one after the other. -/
inductive Composition where
  | constant (text : String)
  | field (path : FieldPath)
  | concat (parts : List Composition)

/-- A part that is not put together from others. -/
inductive Part where
  | constant (text : String)
  | field (path : FieldPath)

namespace Composition

mutual

/-- The generator of the piece, with the fields that it reads. -/
def generated : Composition → Generated
  | .constant text => .constant text
  | .field path => .field path
  | .concat parts => .concat (generatedAll parts)

def generatedAll : List Composition → List Generated
  | [] => []
  | c :: rest => c.generated :: generatedAll rest

end

mutual

/-- The parts of the piece from left to right. -/
def parts : Composition → List Part
  | .constant text => [.constant text]
  | .field path => [.field path]
  | .concat cs => partsAll cs

def partsAll : List Composition → List Part
  | [] => []
  | c :: rest => c.parts ++ partsAll rest

end

/-- The fields that the piece reads. -/
def required (c : Composition) : Requirements :=
  SortedSet.ofList (c.parts.filterMap fun
    | .constant _ => none
    | .field path => some path)

end Composition

/-! ### The reference -/

/-- The text of a part, given the texts of fields. -/
def Part.text? (value : FieldPath → Option String) : Part → Option String
  | .constant text => some text
  | .field path => value path

/-- The texts of the parts one after the other; none if some part has none. -/
def textOf? (value : FieldPath → Option String) (parts : List Part) : Option String :=
  (parts.mapM (Part.text? value)).map String.join

/-- The text of a field under pins. -/
def fieldText? (record : Value) (pins : Pins) (p : FieldPath) : Option String :=
  ((p.resolve record pins).map Value.render).toOption

/-- The text of a field for one element of a list: a path through the list is followed inside the
element, any other in the record. -/
def textInside? (record : Value) (list : FieldPath) (item : Value) (p : FieldPath) :
    Option String :=
  if list.segments <+: p.segments then fieldText? item ∅ ⟨p.segments.drop list.length⟩
  else fieldText? record ∅ p

/-- Texts with one separator between neighbours. -/
def between (separator : String) : List String → String
  | [] => ""
  | [text] => text
  | text :: next :: rest => text ++ separator ++ between separator (next :: rest)

theorem intercalate_eq_between (separator : String) (texts : List String) :
    separator.intercalate texts = between separator texts := by
  induction texts with
  | nil => simp [between]
  | cons text rest ih =>
    cases rest with
    | nil => simp [between]
    | cons next rest => rw [String.intercalate_cons_cons, ih, between]

/-! ### What compositions generate and read -/

section Generators

variable {record : Value} {pins : Pins}

theorem fieldText?_eq_some {p : FieldPath} {text : String} :
    fieldText? record pins p = some text ↔
      ∃ v, p.resolve record pins = .ok v ∧ v.render = text := by
  rw [fieldText?]
  cases p.resolve record pins <;> simp [Except.map, Except.toOption]

theorem textOf?_append (value : FieldPath → Option String) (xs ys : List Part) :
    textOf? value (xs ++ ys) =
      (textOf? value xs).bind fun s => (textOf? value ys).map fun t => s ++ t := by
  simp only [textOf?, List.mapM_append]
  cases xs.mapM (Part.text? value) with
  | none => rfl
  | some ss =>
    cases ys.mapM (Part.text? value) with
    | none => rfl
    | some ts => simp [String.join_append]

theorem generateAll_cons {g : Generator} {rest : List Generator} {text : String} :
    Generator.generateAll record pins (g :: rest) = .ok text ↔
      ∃ s t, g.generate record pins = .ok s ∧ Generator.generateAll record pins rest = .ok t ∧
        text = s ++ t := by
  rw [Generator.generateAll, bind_eq_ok]
  constructor
  · rintro ⟨s, first, h⟩
    obtain ⟨t, later, same⟩ := bind_eq_ok.mp h
    cases same
    exact ⟨s, t, first, later, rfl⟩
  · rintro ⟨s, t, first, later, rfl⟩
    exact ⟨s, first, bind_eq_ok.mpr ⟨t, later, rfl⟩⟩

/-- A single piece, which stays itself, has the text of the list that holds only it. -/
theorem generate_concat {gs : List Generated} {text : String} :
    (Generated.concat gs).generator.generate record pins = .ok text ↔
      Generator.generateAll record pins (gs.map Generated.generator) = .ok text := by
  match gs with
  | [] => simp [Generated.concat, Generator.generate]
  | [g] =>
    rw [List.map_cons, List.map_nil, generateAll_cons]
    constructor
    · intro generated
      exact ⟨text, "", generated, rfl, String.append_empty.symm⟩
    · rintro ⟨s, t, generated, none, rfl⟩
      cases none
      rwa [String.append_empty]
  | g :: h :: rest => simp [Generated.concat, Generator.generate]

mutual

theorem generate_generated (record : Value) (pins : Pins) (c : Composition) (text : String) :
    c.generated.generator.generate record pins = .ok text ↔
      textOf? (fieldText? record pins) c.parts = some text := by
  cases c with
  | constant s =>
    simp [Composition.generated, Generated.constant, Generator.generate, Composition.parts,
      textOf?, Part.text?, String.join]
  | field path =>
    rw [Composition.generated, Generated.field, Generator.generate, map_eq_ok,
      ← fieldText?_eq_some]
    cases h : fieldText? record pins path <;>
      simp [Composition.parts, textOf?, Part.text?, h, String.join]
  | concat cs =>
    rw [Composition.generated, generate_concat, Composition.parts]
    exact generateAll_generatedAll record pins cs text

theorem generateAll_generatedAll (record : Value) (pins : Pins) (cs : List Composition)
    (text : String) :
    Generator.generateAll record pins ((Composition.generatedAll cs).map Generated.generator)
        = .ok text ↔
      textOf? (fieldText? record pins) (Composition.partsAll cs) = some text := by
  cases cs with
  | nil => simp [Composition.generatedAll, Generator.generateAll, Composition.partsAll, textOf?,
      String.join]
  | cons c rest =>
    rw [Composition.generatedAll, List.map_cons, generateAll_cons, Composition.partsAll,
      textOf?_append, Option.bind_eq_some_iff]
    simp only [Option.map_eq_some_iff]
    constructor
    · rintro ⟨s, t, first, later, rfl⟩
      exact ⟨s, (generate_generated record pins c s).mp first, t,
        (generateAll_generatedAll record pins rest t).mp later, rfl⟩
    · rintro ⟨s, first, t, later, rfl⟩
      exact ⟨s, t, (generate_generated record pins c s).mpr first,
        (generateAll_generatedAll record pins rest t).mpr later, rfl⟩

end

end Generators

/-! ### The fields of compositions -/

theorem mem_requirements_concat {gs : List Generated} {p : FieldPath} :
    p ∈ (Generated.concat gs).requirements ↔ ∃ g ∈ gs, p ∈ g.requirements := by
  have folded (l : List Generated) (s : Requirements) :
      p ∈ l.foldl (fun required part => required ∪ part.requirements) s ↔
        p ∈ s ∨ ∃ g ∈ l, p ∈ g.requirements := by
    induction l generalizing s with
    | nil => simp
    | cons g rest ih => simp [ih, or_assoc]
  change p ∈ gs.foldl (fun required part => required ∪ part.requirements) ∅ ↔ _
  rw [folded]
  simp

theorem mem_required {c : Composition} {p : FieldPath} :
    p ∈ c.required ↔ Part.field p ∈ c.parts := by
  rw [Composition.required, SortedSet.mem_ofList, List.mem_filterMap]
  constructor
  · rintro ⟨part, mem, here⟩
    cases part with
    | constant text => cases here
    | field path =>
      cases here
      exact mem
  · intro mem
    exact ⟨.field p, mem, rfl⟩

mutual

theorem mem_generated (c : Composition) (p : FieldPath) :
    p ∈ c.generated.requirements ↔ Part.field p ∈ c.parts := by
  cases c with
  | constant text =>
    simp [Composition.generated, Generated.constant, Composition.parts]
  | field path =>
    simp [Composition.generated, Generated.field, Composition.parts]
  | concat cs =>
    rw [Composition.generated, mem_requirements_concat, Composition.parts]
    exact mem_generatedAll cs p

theorem mem_generatedAll (cs : List Composition) (p : FieldPath) :
    (∃ g ∈ Composition.generatedAll cs, p ∈ g.requirements) ↔
      Part.field p ∈ Composition.partsAll cs := by
  cases cs with
  | nil => simp [Composition.generatedAll, Composition.partsAll]
  | cons c rest =>
    rw [Composition.generatedAll, Composition.partsAll, List.mem_append, ← mem_generated c p,
      ← mem_generatedAll rest p]
    simp

end

/-- What a composition's generator declares to read is what its fields are. -/
theorem requirements_generated (c : Composition) : c.generated.requirements = c.required := by
  apply SortedSet.ext
  intro p
  rw [mem_generated, mem_required]

/-! ### Pieces -/

/-- Under the pin of an element a field has the text that it has inside that element. -/
theorem fieldText?_pinned {record : Value} {list : FieldPath} {items : List Value}
    (proper : list.segments ≠ []) (here : list.resolve record ∅ = .ok (.list items)) {i : Nat}
    {item : Value} (at_ : items[i]? = some item) (p : FieldPath) :
    fieldText? record (Pins.single list i) p = textInside? record list item p := by
  apply Option.ext
  intro text
  rw [textInside?]
  split
  · next through =>
    obtain ⟨q, split⟩ := through
    have rest : p.segments.drop list.length = q := by
      rw [← split, FieldPath.length, List.drop_left]
    have whole : p = ⟨list.segments ++ q⟩ := by
      rw [split]
    rw [fieldText?_eq_some, fieldText?_eq_some, rest, whole]
    simp only [FieldPath.resolve_under proper, here]
    constructor
    · rintro ⟨v, ⟨found, chosen, same, at', inside⟩, shown⟩
      cases same
      rw [at_] at at'
      cases at'
      exact ⟨v, inside, shown⟩
    · rintro ⟨v, inside, shown⟩
      exact ⟨v, ⟨items, item, rfl, at_, inside⟩, shown⟩
  · next aside =>
    rw [fieldText?_eq_some, fieldText?_eq_some]
    simp only [FieldPath.resolve_aside aside, FieldPath.resolve_unpinned]

/-- Rendering under every index of a list is rendering inside each of its elements. -/
theorem pieces_eq_ok {record : Value} {list : FieldPath} {items : List Value}
    (proper : list.segments ≠ []) (here : list.resolve record ∅ = .ok (.list items))
    (data : Composition) {texts : List String} :
    pieces data.generated.generator record list (List.range items.length) = .ok texts ↔
      List.Forall₂ (fun item text => textOf? (textInside? record list item) data.parts = some text)
        items texts := by
  have each {i : Nat} (inside : i < items.length) (text : String) :
      data.generated.generator.generate record (Pins.single list i) = .ok text ↔
        textOf? (textInside? record list items[i]) data.parts = some text := by
    rw [generate_generated,
      funext (fieldText?_pinned proper here (List.getElem?_eq_getElem inside))]
  rw [pieces, mapM_eq_ok, List.forall₂_iff_get, List.forall₂_iff_get]
  simp only [List.get_eq_getElem, List.getElem_range, List.length_range]
  constructor
  · rintro ⟨same, all⟩
    exact ⟨same, fun i left right => (each left _).mp (all i left right)⟩
  · rintro ⟨same, all⟩
    exact ⟨same, fun i left right => (each left _).mpr (all i left right)⟩

/-! ### Joins -/

theorem singleBoundary_eq_ok {record : Value} {required : Requirements} {list : FieldPath} :
    singleBoundary record required = .ok list ↔ (boundaries record required).toList = [list] := by
  rw [singleBoundary]
  split
  · next found single => simp [single]
  · next none => simp [none]
  · next notSingle notNone =>
    constructor
    · intro h
      cases h
    · intro single
      exact absurd single (notSingle list)

theorem lengthAt_of_list {record : Value} {list : FieldPath} {items : List Value}
    (here : list.resolve record ∅ = .ok (.list items)) :
    lengthAt record list = .ok items.length := by
  rw [lengthAt, here]
  rfl

/-- No field of the separator goes through the list. -/
theorem find?_varying_eq_none {separator : Requirements} {list : FieldPath}
    (proper : list.segments ≠ []) :
    (separator.toList.find? fun p => p.prefixes.contains list) = none ↔
      ∀ p ∈ separator, ¬ list.segments <+: p.segments := by
  rw [List.find?_eq_none]
  simp only [List.contains_iff_mem, FieldPath.mem_prefixes, not_and]
  constructor
  · intro fixed p mem
    exact fixed p mem proper
  · intro fixed p mem _
    exact fixed p mem

/-- With a single boundary, a join checks its separator and renders: the list is there. -/
theorem join_planned {data separator : Generated} {record : Value} {b : FieldPath}
    {items : List Value}
    (single : (boundaries record (data.requirements ∪ separator.requirements)).toList = [b])
    (here : b.resolve record ∅ = .ok (.list items)) :
    join data separator record =
      match separator.requirements.toList.find? fun p => p.prefixes.contains b with
      | some p => .error (.iteration (.varyingSeparator p b))
      | none => do
        let glue ← separator.generator.generate record ∅
        let texts ← pieces data.generator record b (List.range items.length)
        return .constant (glue.intercalate texts) := by
  rw [join, singleBoundary_eq_ok.mpr single]
  change (match separator.requirements.toList.find? fun p => p.prefixes.contains b with
    | some _ => _
    | none => lengthAt record b >>= _) = _
  rw [lengthAt_of_list here]
  rfl

/-- A join succeeds exactly when each of its steps does. -/
theorem join_eq_ok {data separator joined : Generated} {record : Value} :
    join data separator record = .ok joined ↔
      ∃ list items glue texts,
        (boundaries record (data.requirements ∪ separator.requirements)).toList = [list] ∧
        list.resolve record ∅ = .ok (.list items) ∧
        (∀ p ∈ separator.requirements, ¬ list.segments <+: p.segments) ∧
        separator.generator.generate record ∅ = .ok glue ∧
        pieces data.generator record list (List.range items.length) = .ok texts ∧
        joined = .constant (between glue texts) := by
  constructor
  · intro made
    obtain ⟨list, planned, -⟩ := bind_eq_ok.mp made
    have single := singleBoundary_eq_ok.mp planned
    obtain ⟨proper, items, here⟩ := single_boundary_list single
    rw [join_planned single here] at made
    split at made
    · cases made
    · next fixed =>
      obtain ⟨glue, glued, made⟩ := bind_eq_ok.mp made
      obtain ⟨texts, rendered, made⟩ := bind_eq_ok.mp made
      cases made
      refine ⟨list, items, glue, texts, single, here, ?_, glued, rendered, ?_⟩
      · exact (find?_varying_eq_none proper).mp fixed
      · rw [intercalate_eq_between]
  · rintro ⟨list, items, glue, texts, single, here, fixed, glued, rendered, rfl⟩
    have proper := (single_boundary_list single).1
    rw [join_planned single here, (find?_varying_eq_none proper).mpr fixed]
    refine bind_eq_ok.mpr ⟨glue, glued, bind_eq_ok.mpr ⟨texts, rendered, ?_⟩⟩
    rw [intercalate_eq_between]
    rfl

/-- Joins are what the reference says. The fields reach a single list if along just one beginning of
their paths a list is met in the record, and that list is one of the record. A join succeeds exactly
when there is such a list, no field of the separator goes through it, the separator has a text
without pins and the data has a text inside every element; it is then a fixed text, those of the
elements with that of the separator between neighbours. So it reads nothing and is the same under
all pins, and some field of the data goes through the list. -/
theorem join_reference (record : Value) (data separator : Composition) :
    (∀ list, (boundaries record (data.required ∪ separator.required)).toList = [list] ↔
      ∀ p : FieldPath, (p ≠ .root ∧
          (∃ q ∈ data.required ∪ separator.required, p.segments <+: q.segments) ∧
          ∃ items, Reaches record p (.list items)) ↔ p = list) ∧
    (∀ list, (boundaries record (data.required ∪ separator.required)).toList = [list] →
      ∃ items, list.resolve record ∅ = .ok (.list items)) ∧
    (∀ joined, join data.generated separator.generated record = .ok joined ↔
      ∃ list items glue texts,
        (boundaries record (data.required ∪ separator.required)).toList = [list] ∧
        list.resolve record ∅ = .ok (.list items) ∧
        (∀ p ∈ separator.required, ¬ list.segments <+: p.segments) ∧
        textOf? (fieldText? record ∅) separator.parts = some glue ∧
        List.Forall₂
          (fun item text => textOf? (textInside? record list item) data.parts = some text)
          items texts ∧
        joined = .constant (between glue texts)) ∧
    (∀ joined, join data.generated separator.generated record = .ok joined →
      joined.requirements = ∅ ∧
      (∃ text, ∀ other pins, joined.generator.generate other pins = .ok text) ∧
      ∃ list, (boundaries record (data.required ∪ separator.required)).toList = [list] ∧
        ∃ p ∈ data.required, list.segments <+: p.segments) := by
  have steps (joined : Generated) := @join_eq_ok data.generated separator.generated joined record
  simp only [requirements_generated, generate_generated] at steps
  refine ⟨fun list => single_boundary_iff, fun list single => (single_boundary_list single).2, ?_,
    ?_⟩
  · intro joined
    rw [steps]
    constructor
    · rintro ⟨list, items, glue, texts, single, here, fixed, glued, rendered, same⟩
      have proper := (single_boundary_list single).1
      exact ⟨list, items, glue, texts, single, here, fixed, glued,
        (pieces_eq_ok proper here data).mp rendered, same⟩
    · rintro ⟨list, items, glue, texts, single, here, fixed, glued, rendered, same⟩
      have proper := (single_boundary_list single).1
      exact ⟨list, items, glue, texts, single, here, fixed, glued,
        (pieces_eq_ok proper here data).mpr rendered, same⟩
  · intro joined succeeds
    obtain ⟨list, items, glue, texts, single, -, fixed, -, -, rfl⟩ := (steps joined).mp succeeds
    refine ⟨rfl, ⟨between glue texts, fun _ _ => rfl⟩, list, single, ?_⟩
    obtain ⟨-, ⟨p, needed, pre⟩, -⟩ := (single_boundary_iff.mp single list).mpr rfl
    rcases SortedSet.mem_union.mp needed with mem | mem
    · exact ⟨p, mem, pre⟩
    · exact absurd pre (fixed p mem)

/-- A record with two notes and the name of their author. -/
def noted : Value := .object [
  ("by", .text "Z"),
  ("notes", .list [.object [("t", .text "a")], .object [("t", .text "b")]])]

/-- The text of each note with a mark behind it. -/
def marked : Composition := .concat [.field ⟨["notes", "t"]⟩, .constant "!"]

/-- The name of the author between commas and spaces. -/
def signed : Composition := .concat [.constant ", ", .concat [.field ⟨["by"]⟩, .constant " "]]

/-- The author is named between the two notes, and the notes are the only list that is met. -/
theorem join_reference_noted :
    join marked.generated signed.generated noted = .ok (.constant "a!, Z b!") ∧
      ∀ p : FieldPath, (p ≠ .root ∧
          (∃ q ∈ marked.required ∪ signed.required, p.segments <+: q.segments) ∧
          ∃ items, Reaches noted p (.list items)) ↔ p = ⟨["notes"]⟩ := by
  have single : (boundaries noted (marked.required ∪ signed.required)).toList = [⟨["notes"]⟩] := by
    decide +kernel
  have fixed : ∀ p ∈ signed.required, ¬ ["notes"] <+: p.segments := by decide +kernel
  have glue : textOf? (fieldText? noted ∅) signed.parts = some ", Z " := by decide +kernel
  have texts : List.Forall₂
      (fun item text => textOf? (textInside? noted ⟨["notes"]⟩ item) marked.parts = some text)
      [.object [("t", .text "a")], .object [("t", .text "b")]] ["a!", "b!"] :=
    .cons (by decide +kernel) (.cons (by decide +kernel) .nil)
  obtain ⟨only, -, joins, -⟩ := join_reference noted marked signed
  refine ⟨(joins _).mpr ⟨_, _, _, _, single, rfl, fixed, glue, texts, ?_⟩, (only _).mp single⟩
  exact congrArg Generated.constant (by decide +kernel)

end Dialect.Template
