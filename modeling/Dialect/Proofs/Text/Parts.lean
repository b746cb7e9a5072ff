import Dialect.Text.Lowercase

/-!
Lower case of a part of a text.

A part has the same lower case by itself and where it stands, but for capital sigmas near its ends:
there the characters beyond the part decide whether one ends a word. Lower case of the part by
itself therefore stands at its place in lower case of the text just if every capital sigma in it
takes the same form in both (`lowerAfter_append_iff`); it occurs there then
(`KeepsSigmas.lowercase_infix`).
-/

namespace Dialect.Text

/-- A capital sigma between these texts stands at the end of a word. -/
def endsWord (before after : List Char) : Bool := meetsCased before.reverse && !meetsCased after

/-- Every capital sigma in the part takes the same form by itself as it does between these texts. -/
def KeepsSigmas (before part after : List Char) : Prop :=
  ∀ k < part.length, part[k]? = some 'Σ' →
    endsWord (before ++ part.take k) (part.drop (k + 1) ++ after) =
      endsWord (part.take k) (part.drop (k + 1))

instance {before part after : List Char} : Decidable (KeepsSigmas before part after) :=
  inferInstanceAs (Decidable (∀ k < part.length, _ → _))

variable {before part after : List Char}

/-- A part without capital sigma keeps them all. -/
theorem keepsSigmas_of_not_mem (free : 'Σ' ∉ part) : KeepsSigmas before part after := by
  intro k _ here
  exact absurd (List.mem_of_getElem? here) free

/-- What follows a part is put in lower case behind it. -/
theorem lowerAfter_suffix (behind part after : List Char) :
    lowerAfter (part.reverse ++ behind) after <:+ lowerAfter behind (part ++ after) := by
  induction part generalizing behind with
  | nil => exact List.suffix_rfl
  | cons c rest ih =>
    rw [List.reverse_cons, List.append_assoc]
    exact (ih (c :: behind)).trans (List.suffix_append _ _)

/-- One more character in front of the rest of a part: it takes the same form in both readings, and
so does the rest. -/
theorem lowerAfter_cons_iff {c : Char} {rest behind behind' tail tail' out : List Char} :
    lowerAfter behind (c :: (rest ++ tail)) = lowerAfter behind' (c :: (rest ++ tail')) ++ out ↔
      (c = 'Σ' → (meetsCased behind && !meetsCased (rest ++ tail)) =
        (meetsCased behind' && !meetsCased (rest ++ tail'))) ∧
      lowerAfter (c :: behind) (rest ++ tail) =
        lowerAfter (c :: behind') (rest ++ tail') ++ out := by
  rw [lowerAfter, lowerAfter, List.append_assoc]
  by_cases sigma : c = 'Σ'
  · cases h : meetsCased behind && !meetsCased (rest ++ tail) <;>
      cases h' : meetsCased behind' && !meetsCased (rest ++ tail') <;> simp [sigma]
  · simp [sigma]

/-- Lower case of a part by itself stands at its place just if the part keeps its sigmas. -/
theorem lowerAfter_append_iff_from (inner : List Char) :
    lowerAfter (inner.reverse ++ before.reverse) (part ++ after) =
        lowerAfter inner.reverse part ++
          lowerAfter (part.reverse ++ (inner.reverse ++ before.reverse)) after ↔
      ∀ k < part.length, part[k]? = some 'Σ' →
        endsWord (before ++ (inner ++ part.take k)) (part.drop (k + 1) ++ after) =
          endsWord (inner ++ part.take k) (part.drop (k + 1)) := by
  induction part generalizing inner with
  | nil => simp [lowerAfter]
  | cons c rest ih =>
    have step := ih (inner ++ [c])
    simp only [List.reverse_append, List.reverse_cons, List.reverse_nil, List.nil_append,
      List.append_assoc, List.cons_append] at step
    have first := @lowerAfter_cons_iff c rest (inner.reverse ++ before.reverse) inner.reverse after
      [] (lowerAfter (rest.reverse ++ c :: (inner.reverse ++ before.reverse)) after)
    simp only [List.append_nil] at first
    simp only [List.cons_append, List.reverse_cons, List.append_assoc, List.nil_append, first, step]
    constructor
    · rintro ⟨here, later⟩ k bound at_
      cases k with
      | zero => simpa [endsWord] using here (by simpa using at_)
      | succ k => simpa using later k (by simpa using bound) (by simpa using at_)
    · intro all
      refine ⟨?_, ?_⟩
      · intro sigma
        simpa [endsWord] using all 0 (by simp) (by simp [sigma])
      · intro k bound at_
        simpa using all (k + 1) (by simpa using bound) (by simpa using at_)

theorem lowerAfter_append_iff :
    lowerAfter before.reverse (part ++ after) =
        lowerAfter [] part ++ lowerAfter (part.reverse ++ before.reverse) after ↔
      KeepsSigmas before part after :=
  lowerAfter_append_iff_from []

/-- Lower case of a part that keeps its sigmas occurs in lower case of the text. -/
theorem KeepsSigmas.lowercase_infix {text : String} (keeps : KeepsSigmas before part after)
    (split : text.toList = before ++ (part ++ after)) :
    (lowercase (String.ofList part)).toList <:+: (lowercase text).toList := by
  simp only [lowercase, String.toList_ofList, split]
  have place := lowerAfter_suffix [] before (part ++ after)
  rw [List.append_nil, lowerAfter_append_iff.mpr keeps] at place
  exact (List.infix_append' [] _ _).trans place.isInfix

end Dialect.Text
