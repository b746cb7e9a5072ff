import Dialect.Proofs.Template.Planning
import Dialect.Archive.Chapters
import Dialect.Template.Engine

/-!
How rendering can fail.

Generators fail on their records and their embeddings, not on the text of the template. Main
statement: `render_fails` (so does rendering, provided that the embedding keeps to this).

Refusals only arise where a directive is built, and there a directive is given up. A join renders
its parts while it is built, so what it can fail with has to be told from refusals as well
(`join_fails`).
-/

namespace Dialect.Template

/-! ### Failures of generators -/

/-- The error is about the record, or comes from the embedding. -/
inductive RenderFault : Error → Prop where
  | field (path : String) (fault : FieldFault) : RenderFault (.field path fault)
  | iteration (fault : IterationFault) : RenderFault (.iteration fault)
  | vocabulary (reason : String) : RenderFault (.vocabulary reason)

variable {record : Value} {fault : Error}

/-- A generator fails on its record or its embedding only, whatever is pinned. -/
def Generator.Tame (g : Generator) : Prop :=
  ∀ record pins fault, g.generate record pins = .error fault → RenderFault fault

theorem resolve_fails {p : FieldPath} {pins : Pins}
    (fails : p.resolve record pins = .error fault) : RenderFault fault := by
  obtain ⟨path, cause, rfl⟩ := FieldPath.resolve_error fails
  exact .field path cause

theorem tame_constant (text : String) : (Generated.constant text).generator.Tame := nofun

theorem tame_field (path : FieldPath) : (Generated.field path).generator.Tame := by
  intro record pins fault fails
  cases resolved : path.resolve record pins with
  | error e =>
      rw [Generated.field, Generator.generate, resolved] at fails
      obtain rfl := Except.error.inj fails
      exact resolve_fails resolved
  | ok v =>
      rw [Generated.field, Generator.generate, resolved] at fails
      cases fails

theorem tame_concat {parts : List Generated} (tame : ∀ g ∈ parts, g.generator.Tame) :
    (Generated.concat parts).generator.Tame := by
  intro record pins fault fails
  rw [generate_concat_error] at fails
  induction parts with
  | nil => cases fails
  | cons g rest ih =>
      obtain ⟨first, later⟩ := List.forall_mem_cons.mp tame
      rw [List.map_cons, generateAll_cons_error] at fails
      rcases fails with here | ⟨-, there⟩
      · exact first record pins fault here
      · exact ih later there

/-- A join fails on the record, or as its parts do. -/
theorem join_fails {data separator : Generated} (tame : data.generator.Tame)
    (tame' : separator.generator.Tame) (fails : join data separator record = .error fault) :
    RenderFault fault := by
  rcases join_eq_error fails with ⟨cause, rfl, -⟩ | ⟨b, items, -, -, -, glue | ⟨i, item, -, piece⟩⟩
  · exact .iteration cause
  · exact tame' record ∅ fault glue
  · exact tame record _ fault piece

/-- What a join is made into is fixed. -/
theorem tame_of_join {data separator joined : Generated}
    (made : join data separator record = .ok joined) : joined.generator.Tame := by
  obtain ⟨_, _, _, _, -, -, -, -, -, rfl⟩ := join_eq_ok.mp made
  exact tame_constant _

/-! ### Failures of builders -/

section

variable {α β : Type} {Q : α → Prop} {R : β → Prop} {x : Except Error α} {f : α → Except Error β}

/-- What is built has a property, and a failure to build is a refusal or one of rendering. -/
def Gives (Q : α → Prop) (x : Except Error α) : Prop :=
  match x with
  | .ok a => Q a
  | .error fault => RenderFault fault ∨ ∃ refusal, fault = .parse refusal

theorem Gives.bind (first : Gives Q x) (later : ∀ a, Q a → Gives R (f a)) : Gives R (x >>= f) := by
  cases x with
  | ok a => exact later a first
  | error fault => exact first

theorem Gives.map {f : α → β} (first : Gives Q x) (later : ∀ a, Q a → R (f a)) :
    Gives R (x.map f) := by
  cases x with
  | ok a => exact later a first
  | error fault => exact first

theorem Gives.ok {a : α} (gives : Gives Q x) (made : x = .ok a) : Q a := by
  subst made
  exact gives

theorem Gives.refused (refusal : ParseFault) : Gives Q (.error (.parse refusal)) := .inr ⟨_, rfl⟩

end

/-- What is built is tame. -/
abbrev Tame (x : Except Error Generated) : Prop := Gives (fun g => g.generator.Tame) x

/-- The embedding fails as building may fail, and gives tame generators. -/
structure Vocabulary.Tame (v : Vocabulary) : Prop where
  field : ∀ node record, Template.Tame (v.customField node record)
  directive : ∀ node record, Template.Tame (v.customDirective node record)

theorem gives_unquote (literal : String) : Gives (fun _ => True) (unquote literal) := by
  unfold unquote
  split
  · trivial
  · exact .refused _

theorem tame_repeated (literal count : ParseNode) : Tame (repeated literal count) := by
  unfold repeated
  split
  · exact .refused _
  · refine (gives_unquote literal.text).bind fun text _ => ?_
    dsimp only
    split
    · exact tame_constant _
    · exact .refused _

theorem gives_read (text : String) : Gives (fun _ => True) (FieldPath.read text) := by
  unfold FieldPath.read
  dsimp only
  split
  · split
    · exact .inl (.field _ _)
    · trivial
  · exact .inl (.field _ _)

theorem tame_join {data separator : Generated} (tame : data.generator.Tame)
    (tame' : separator.generator.Tame) : Tame (join data separator record) := by
  cases made : join data separator record with
  | error fault => exact .inl (join_fails tame tame' made)
  | ok joined => exact tame_of_join made

section

variable {v : Vocabulary}

mutual

/-- A node is built into a tame generator, or refused, or its record is at fault. -/
theorem tame_generatedOf (tame : v.Tame) (record : Value) : ∀ node, Tame (generatedOf v record node)
  | ⟨rule, text, start, stop, children⟩ => by
      unfold generatedOf
      split
      · match children with
        | [] | [_] | _ :: _ :: _ :: _ => exact .refused _
        | [data, separator] =>
            exact (tame_generatedOf tame record data).bind fun d first =>
              (tame_generatedOf tame record separator).bind fun s second => tame_join first second
      split
      · exact (tame_generatedAll tame record children).map fun _ => tame_concat
      split
      · exact (gives_unquote text).map fun _ _ => tame_constant _
      split
      · match children with
        | [] | [_] | _ :: _ :: _ :: _ => exact .refused _
        | [literal, count] => exact tame_repeated literal count
      split
      · exact (gives_read text).map fun _ _ => tame_field _
      split
      · exact tame.field _ record
      split
      · exact tame.directive _ record
      · exact .refused _

theorem tame_generatedAll (tame : v.Tame) (record : Value) : ∀ nodes,
    Gives (fun parts => ∀ g ∈ parts, g.generator.Tame) (generatedAll v record nodes)
  | [] => nofun
  | node :: rest => by
      rw [generatedAll]
      refine (tame_generatedOf tame record node).bind fun g first => ?_
      refine (tame_generatedAll tame record rest).bind fun parts later => ?_
      exact List.forall_mem_cons.mpr ⟨first, later⟩

end

end

/-! ### The vocabularies of an archive -/

theorem tame_plain : Vocabulary.plain.Tame where
  field _ _ := .inl (.vocabulary _)
  directive _ _ := .inl (.vocabulary _)

/-- A source of chapters fails only in its own words. -/
def Modest (source : Archive.ChapterSource) : Prop :=
  ∀ story index fault, source story index = .error fault → ∃ reason, fault = .vocabulary reason

theorem modest_ofList (stories : List (String × List String)) :
    Modest (Archive.ChapterSource.ofList stories) := by
  intro story index fault fails
  unfold Archive.ChapterSource.ofList at fails
  split at fails
  · cases fails
  · exact ⟨_, (Except.error.inj fails).symm⟩

theorem tame_chapters {source : Archive.ChapterSource} (modest : Modest source) :
    (Archive.chapterVocabulary source).Tame where
  field node record := by
    have child : Gives (fun _ => True) node.onlyChild := by
      unfold ParseNode.onlyChild
      split
      · trivial
      · exact .refused _
    have id : Gives (fun _ => True) (FieldPath.resolve ⟨["id"]⟩ record ∅) := by
      cases resolved : FieldPath.resolve ⟨["id"]⟩ record ∅ with
      | ok v => trivial
      | error fault => exact .inl (resolve_fails resolved)
    refine child.bind fun field _ => ?_
    split
    · refine id.bind fun v _ => ?_
      intro record pins fault fails
      change Archive.chapterText source v.render pins = .error fault at fails
      unfold Archive.chapterText at fails
      split at fails
      · obtain ⟨reason, rfl⟩ := modest _ _ fault fails
        exact .vocabulary reason
      · obtain rfl := Except.error.inj fails
        exact .iteration _
    · exact .inl (.vocabulary _)
  directive _ _ := .inl (.vocabulary _)

/-! ### Failures of rendering -/

variable {engine : Engine}

/-- A directive that is refused is none, so that only failures of rendering are left. -/
theorem directive_fails (tame : engine.vocabulary.Tame) {input : List Char}
    (fails : engine.directive record input = .error fault) : RenderFault fault := by
  unfold Engine.directive at fails
  split at fails
  · cases fails
  · split at fails
    · cases fails
    · split at fails
      · rename_i root _ span body _ _
        have built := tame_generatedOf tame record body
        split at fails
        · rename_i generated made
          cases text : generated.generator.generate record ∅ with
          | ok value =>
              rw [text] at fails
              cases fails
          | error e =>
              rw [text] at fails
              obtain rfl := Except.error.inj fails
              exact built.ok made record ∅ e text
        · cases fails
        · rename_i e other made
          obtain rfl := Except.error.inj fails
          rw [made] at built
          rcases built with fault | ⟨refusal, rfl⟩
          · exact fault
          · exact absurd rfl (other refusal)
      · cases fails

/-- Copying fails only where a directive does. -/
theorem scan_fails {covered : Nat} {cs : List Char}
    (fails : engine.scan record covered cs = .error fault) :
    ∃ rest, engine.directive record rest = .error fault := by
  induction cs generalizing covered with
  | nil => cases fails
  | cons c rest ih =>
      -- what is put in front of a copy adds no failure
      have copied {covered : Nat} {front : List Char} (fails :
          (do let after ← engine.scan record covered rest; pure (front ++ after)) =
            Except.error fault) : ∃ rest, engine.directive record rest = .error fault := by
        rcases bind_eq_error.mp fails with later | ⟨_, -, impossible⟩
        · exact ih later
        · cases impossible
      cases covered with
      | succ covered => exact ih fails
      | zero =>
          unfold Engine.scan at fails
          split at fails
          · rcases bind_eq_error.mp fails with here | ⟨found, -, fails⟩
            · exact ⟨_, here⟩
            · cases found with
              | some found => exact copied fails
              | none => exact @copied 0 [c] fails
          · exact @copied 0 [c] fails

/-- Rendering fails only on the record or in the embedding. -/
theorem render_fails (tame : engine.vocabulary.Tame) {template : String}
    (fails : engine.render template record = .error fault) : RenderFault fault := by
  rcases bind_eq_error.mp fails with scanning | ⟨_, -, impossible⟩
  · obtain ⟨rest, here⟩ := scan_fails scanning
    exact directive_fails tame here
  · cases impossible

end Dialect.Template
