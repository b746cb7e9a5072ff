import Dialect.Grammar.Skeleton

/-!
Composing a grammar, step by step.

`compose_eq_ok` says which checks make a composed grammar, and `source_toList` with
`slotText_toList` gives its text piece by piece.
-/

namespace Dialect.Skeleton

variable {s : Skeleton} {capabilities : Capabilities} {fragments : Fragments}

/-- The characters of a slot: those of its open gates, then each fragment between line ends. -/
theorem slotText_toList (slot : String) :
    (s.slotText capabilities fragments slot).toList =
      (s.gates.filter fun g => g.slot == slot && capabilities.enabled g.capability).flatMap
        (fun g => g.text.toList)
      ++ (fragments.get slot).flatMap fun text => '\n' :: (text.toList ++ ['\n']) := by
  have line (text : String) : ("\n" ++ text ++ "\n").toList = '\n' :: (text.toList ++ ['\n']) := by
    rw [String.toList_append, String.toList_append, String.toList_ofList, List.append_assoc]
    rfl
  rw [slotText, String.toList_append, String.toList_join, String.toList_join, List.flatMap_map,
    List.flatMap_map]
  simp only [line]

/-- The characters of the composed text. -/
theorem source_toList :
    (s.source capabilities fragments).toList = s.pieces.flatMap fun
      | .text text => text.toList
      | .slot name => (s.slotText capabilities fragments name).toList := by
  rw [source, String.toList_join, List.flatMap_map]
  congr 1
  funext piece
  cases piece <;> rfl

/-- A grammar is composed if something that is wanted is enabled, every fragment has a slot, and the
composed text passes its own checks. -/
theorem compose_eq_ok {g : Grammar}
    (enabled : s.requiresAny.isEmpty = true ∨ s.requiresAny.any capabilities.enabled = true)
    (slots : fragments.slotNames.find? (fun slot => !s.hasSlot slot) = none)
    (read : Grammar.read? (s.source capabilities fragments).toList = some g)
    (start : g.defines s.start = true) (contracts : s.brokenContract? capabilities g = none) :
    s.compose capabilities fragments =
      .ok ⟨s.name, s.start, capabilities, s.source capabilities fragments, g⟩ := by
  have wanted : (!s.requiresAny.isEmpty && !s.requiresAny.any capabilities.enabled) = false := by
    rcases enabled with none | any <;> simp [*]
  simp [compose, wanted, slots, read, start, contracts]

/-- Of a composed grammar something that is wanted is enabled. -/
theorem enabled_of_compose {g : ComposedGrammar}
    (composed : s.compose capabilities fragments = .ok g) :
    s.requiresAny.isEmpty = true ∨ s.requiresAny.any capabilities.enabled = true := by
  cases wanted : s.requiresAny.isEmpty with
  | true => exact .inl rfl
  | false =>
      cases enabled : s.requiresAny.any capabilities.enabled with
      | true => exact .inr rfl
      | false =>
          rw [compose, wanted, enabled] at composed
          cases composed

/-- The rules of a composed grammar are read from the composed text. -/
theorem read_of_compose {g : ComposedGrammar}
    (composed : s.compose capabilities fragments = .ok g) :
    Grammar.read? (s.source capabilities fragments).toList = some g.grammar ∧
      g.start = s.start := by
  unfold compose at composed
  dsimp only at composed
  split at composed
  · cases composed
  split at composed
  · cases composed
  split at composed
  · cases composed
  · next read =>
    split at composed
    · cases composed
    split at composed
    · cases composed
    · obtain rfl := Except.ok.inj composed
      exact ⟨read, rfl⟩

end Dialect.Skeleton
