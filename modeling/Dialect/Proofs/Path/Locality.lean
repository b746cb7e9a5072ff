import Dialect.Proofs.Path.Resolution

/-!
Resolving under pins is local, and it composes.

What a path leads to depends on pins at its own beginnings only. With one element of a list pinned,
the paths through the list are those inside the element; a pin behind the last element stops all of
them at the list (`resolve_beyond`). Main statement: `resolution_local`.
-/

namespace Dialect

namespace FieldPath

variable {p b : FieldPath} {record : Value} {i : Nat} {items : List Value}

/-- A pin behind the last element stops every path that goes through the list, at the list. -/
theorem resolve_beyond (proper : b.segments ≠ []) (here : b.resolve record ∅ = .ok (.list items))
    (beyond : items.length ≤ i) (through : b.segments <+: p.segments) :
    p.resolve record (Pins.single b i) = .error (.field b.text (.outOfRange i items.length)) := by
  obtain ⟨rest, split⟩ := through
  obtain ⟨y, segment, last⟩ := (List.eq_nil_or_concat' b.segments).resolve_left proper
  rw [resolve_unpinned, last, Value.descend?_concat, Option.bind_eq_some_iff] at here
  obtain ⟨w, leads, member⟩ := here
  -- the pin stands at the list, so the walk to the object that holds the list meets none
  have free : ∀ x, x ≠ [] → x <+: y → (Pins.single b i).get? ⟨[] ++ x⟩ = none := by
    intro x _ pre
    rw [get?_single, if_neg]
    rintro rfl
    have short := pre.length_le
    have long := congrArg List.length last
    simp only [List.nil_append, List.length_append, List.length_singleton] at long
    omega
  have refused : select (Pins.single b i) ([] ++ y ++ [segment]) (.list items) =
      .error (.outOfRange i items.length) := by
    rw [List.nil_append, ← last, select, get?_single, if_pos rfl]
    simp only [element, List.getElem?_eq_none beyond]
  refine walk_error.mpr ⟨y, segment, rest, w, b.segments, .outOfRange i items.length, ?_,
    (walk_free free).mpr leads, ?_, ?_⟩
  · rw [← split, last, List.append_assoc, List.singleton_append]
  · cases w with
    | object members =>
      have stands := Halts.pin member refused
      rwa [List.nil_append, ← last] at stands
    | null | bool | number | text | list => cases member
  · rw [stopped, if_neg (by simpa using proper)]

end FieldPath

/-- Resolving under pins is local, and composes at a pinned list. Pins that agree on the beginnings
of a path have the same outcome for it, a value or an error. With one element of a list pinned, a
path through the list leads to what the rest of it leads to inside the element, and any other path
has the outcome it has without pins. With a pin behind the last element, every path through the
list fails. -/
theorem resolution_local (record : Value) :
    (∀ (p : FieldPath) (pins other : Pins), (∀ x ∈ p.prefixes, pins.get? x = other.get? x) →
      p.resolve record pins = p.resolve record other) ∧
    ∀ (b : FieldPath) (items : List Value), b ≠ .root → b.resolve record ∅ = .ok (.list items) →
      (∀ (i : Nat) (inside : i < items.length) (q : FieldPath) (v : Value),
        FieldPath.resolve ⟨b.segments ++ q.segments⟩ record (Pins.single b i) = .ok v ↔
          q.resolve items[i] ∅ = .ok v) ∧
      (∀ (i : Nat) (p : FieldPath), ¬ b.segments <+: p.segments →
        p.resolve record (Pins.single b i) = p.resolve record ∅) ∧
      (∀ (i : Nat) (p : FieldPath), items.length ≤ i → b.segments <+: p.segments →
        p.resolve record (Pins.single b i) =
          .error (.field b.text (.outOfRange i items.length))) := by
  refine ⟨fun p pins other => FieldPath.resolve_congr, ?_⟩
  intro b items unrooted here
  have proper : b.segments ≠ [] := fun none => unrooted (congrArg FieldPath.mk none)
  refine ⟨?_, fun i p => FieldPath.resolve_aside, fun i p beyond =>
    FieldPath.resolve_beyond proper here beyond⟩
  intro i inside q v
  rw [FieldPath.resolve_under proper, here]
  constructor
  · rintro ⟨others, item, same, taken, leads⟩
    cases same
    rw [List.getElem?_eq_getElem inside] at taken
    cases taken
    exact leads
  · intro leads
    exact ⟨items, items[i], rfl, List.getElem?_eq_getElem inside, leads⟩

/-- A name and two shelves: one is itself a list, the other has a label. -/
def library : Value := .object [
  ("name", .text "Main"),
  ("shelves", .list [.list [.text "A"], .object [("label", .text "B")]])]

theorem resolution_local_library :
    (⟨["shelves"]⟩ : FieldPath).resolve library (Pins.single ⟨["shelves"]⟩ 0) =
        .ok (.list [.text "A"]) ∧
      (⟨["shelves", "label"]⟩ : FieldPath).resolve library
        ((Pins.single ⟨["shelves"]⟩ 1).insert ⟨["name"]⟩ 7) = .ok (.text "B") ∧
      (⟨["name"]⟩ : FieldPath).resolve library (Pins.single ⟨["shelves"]⟩ 1) =
        .ok (.text "Main") ∧
      (⟨["shelves", "label"]⟩ : FieldPath).resolve library (Pins.single ⟨["shelves"]⟩ 2) =
        .error (.field ".shelves" (.outOfRange 2 2)) := by
  obtain ⟨congruent, composed⟩ := resolution_local library
  obtain ⟨inside, aside, beyond⟩ := composed ⟨["shelves"]⟩ _ (by decide) rfl
  refine ⟨?_, ?_, ?_, ?_⟩
  · exact (inside 0 (by decide) .root (.list [.text "A"])).mpr rfl
  · rw [congruent ⟨["shelves", "label"]⟩ _ (Pins.single ⟨["shelves"]⟩ 1) (by decide +kernel)]
    exact (inside 1 (by decide) ⟨["label"]⟩ (.text "B")).mpr rfl
  · exact aside 1 ⟨["name"]⟩ (by decide)
  · exact beyond 2 ⟨["shelves", "label"]⟩ (by decide) (by decide)

end Dialect
