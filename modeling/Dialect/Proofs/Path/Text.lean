import Mathlib.Data.List.TakeWhile
import Dialect.Path.Reader

/-!
Paths as texts.

A text is read as a path if, without the blanks around it, it is a dot and segments with single dots
between them (`read_eq_ok`). The text of a path that has been read is the text it was read from, up
to those blanks, so it is read as the same path again. Main statement: `read_round_trip`.

Not every path is read back from its text: a segment may have a dot in it, or a blank at the end of
the last one. `read_text` says which paths are.
-/

namespace Dialect

namespace Text

variable {mark : Char} {part : List Char}

theorem split_of_not_mem (free : mark ∉ part) : split mark part = [part] := by
  induction part with
  | nil => rfl
  | cons c rest ih =>
    have tail : mark ∉ rest := fun mem => free (List.mem_cons_of_mem _ mem)
    have head : c ≠ mark := fun same => free (same ▸ List.mem_cons_self)
    rw [split, if_neg head, ih tail]

theorem split_append (free : mark ∉ part) (cs : List Char) :
    split mark (part ++ mark :: cs) = part :: split mark cs := by
  induction part with
  | nil => simp [split]
  | cons c rest ih =>
    have tail : mark ∉ rest := fun mem => free (List.mem_cons_of_mem _ mem)
    have head : c ≠ mark := fun same => free (same ▸ List.mem_cons_self)
    rw [List.cons_append, split, if_neg head, ih tail]

/-- Parts without the character are found again when it has been put between them. -/
theorem split_join {parts : List (List Char)} (some_ : parts ≠ [])
    (free : ∀ part ∈ parts, mark ∉ part) : split mark (join mark parts) = parts := by
  induction parts with
  | nil => exact absurd rfl some_
  | cons part rest ih =>
    have head := free part List.mem_cons_self
    cases rest with
    | nil => exact split_of_not_mem head
    | cons next rest =>
      rw [join, split_append head, ih (by simp) fun p mem => free p (List.mem_cons_of_mem _ mem)]

/-- No part has the character at which the text was cut. -/
theorem not_mem_of_mem_split {cs : List Char} (mem : part ∈ split mark cs) : mark ∉ part := by
  induction cs generalizing part with
  | nil =>
    obtain rfl := List.mem_singleton.mp mem
    exact List.not_mem_nil
  | cons c rest ih =>
    rw [split] at mem
    split at mem
    · rcases List.mem_cons.mp mem with rfl | later
      · exact List.not_mem_nil
      · exact ih later
    · next other =>
      cases parts : split mark rest with
      | nil => exact absurd parts (split_ne_nil mark rest)
      | cons first parts' =>
        rw [parts] at mem ih
        rcases List.mem_cons.mp mem with rfl | later
        · rw [List.mem_cons, not_or]
          exact ⟨Ne.symm other, ih List.mem_cons_self⟩
        · exact ih (List.mem_cons_of_mem _ later)

/-! ### Trimming -/

/-- The text is `core` with blanks around it, and `core` neither begins nor ends with a blank. -/
structure Trims (cs core : List Char) : Prop where
  around : ∃ before behind, cs = before ++ (core ++ behind) ∧ (∀ c ∈ before, isBlank c = true) ∧
    ∀ c ∈ behind, isBlank c = true
  first : ∀ c, core.head? = some c → isBlank c = false
  last : ∀ c, core.getLast? = some c → isBlank c = false

theorem head?_dropWhile_isBlank {cs : List Char} {c : Char}
    (head : (cs.dropWhile isBlank).head? = some c) : isBlank c = false := by
  have stops := List.head?_dropWhile_not isBlank cs
  rwa [head] at stops

theorem dropWhile_isBlank_of_first {cs : List Char}
    (first : ∀ c, cs.head? = some c → isBlank c = false) : cs.dropWhile isBlank = cs := by
  cases cs with
  | nil => rfl
  | cons c rest => exact List.dropWhile_cons_of_neg (by simp [first c rfl])

/-- Trimming takes blanks away at both ends until there are none. -/
theorem trims_trimList (cs : List Char) : Trims cs (trimList cs) := by
  have front : cs = cs.takeWhile isBlank ++ cs.dropWhile isBlank :=
    List.takeWhile_append_dropWhile.symm
  have back : cs.dropWhile isBlank =
      trimList cs ++ ((cs.dropWhile isBlank).reverse.takeWhile isBlank).reverse := by
    rw [trimList, ← List.reverse_append, List.takeWhile_append_dropWhile, List.reverse_reverse]
  refine ⟨⟨_, _, front.trans (congrArg _ back), ?_, ?_⟩, ?_, ?_⟩
  · exact fun c mem => List.mem_takeWhile_imp mem
  · exact fun c mem => List.mem_takeWhile_imp (List.mem_reverse.mp mem)
  · intro c head
    refine @head?_dropWhile_isBlank cs c ?_
    rw [back, List.head?_append, head]
    rfl
  · intro c last
    refine @head?_dropWhile_isBlank (cs.dropWhile isBlank).reverse c ?_
    rwa [trimList, List.getLast?_reverse] at last

/-- There is only one way to take the blanks around a text away. -/
theorem Trims.trimList {cs core : List Char} (trims : Trims cs core) : trimList cs = core := by
  obtain ⟨⟨before, behind, rfl, front, back⟩, first, last⟩ := trims
  rw [Text.trimList, List.dropWhile_append_of_pos front]
  cases core with
  | nil =>
    -- all of the text is blank
    have all : (behind ++ []).dropWhile isBlank = [].dropWhile isBlank :=
      List.dropWhile_append_of_pos back
    rw [List.append_nil] at all
    rw [List.nil_append, all]
    rfl
  | cons c rest =>
    have kept : (c :: rest ++ behind).dropWhile isBlank = c :: rest ++ behind :=
      dropWhile_isBlank_of_first first
    have back' : ∀ c ∈ behind.reverse, isBlank c = true :=
      fun c mem => back c (List.mem_reverse.mp mem)
    rw [kept, List.reverse_append, List.dropWhile_append_of_pos back', dropWhile_isBlank_of_first,
      List.reverse_reverse]
    rwa [List.head?_reverse]

theorem trim_eq_iff {t core : String} : trim t = core ↔ Trims t.toList core.toList := by
  rw [trim]
  constructor
  · rintro rfl
    rw [String.toList_ofList]
    exact trims_trimList t.toList
  · intro trims
    rw [trims.trimList, String.ofList_toList]

/-- A text without blanks at its ends is left by trimming. -/
theorem trimList_eq_self {cs : List Char} (first : ∀ c, cs.head? = some c → isBlank c = false)
    (last : ∀ c, cs.getLast? = some c → isBlank c = false) : trimList cs = cs :=
  Trims.trimList ⟨⟨[], [], by simp, by simp, by simp⟩, first, last⟩

/-- Trimming a second time changes nothing. -/
theorem trim_trim (t : String) : trim (trim t) = trim t := by
  have trims := trims_trimList t.toList
  rw [trim, trim, String.toList_ofList, trimList_eq_self trims.first trims.last]

end Text

namespace FieldPath

variable {p : FieldPath}

theorem text_toList (p : FieldPath) :
    p.text.toList = p.segments.flatMap fun s => '.' :: s.toList := by
  rw [text, String.toList_join, List.flatMap_map]
  simp only [String.toList_append]
  rfl

theorem flatMap_dot {parts : List (List Char)} (some_ : parts ≠ []) :
    (parts.flatMap fun part => '.' :: part) = '.' :: Text.join '.' parts := by
  induction parts with
  | nil => exact absurd rfl some_
  | cons part rest ih =>
    cases rest with
    | nil => simp [Text.join]
    | cons next rest => rw [List.flatMap_cons, ih (by simp), Text.join, List.cons_append]

/-- Segments that can be written: at least one, and none that is empty or has a dot in it. -/
structure Dotted (segments : List String) : Prop where
  some_ : segments ≠ []
  full : ∀ s ∈ segments, s ≠ ""
  free : ∀ s ∈ segments, '.' ∉ s.toList

/-- The text of a path with segments is a dot, and the segments with single dots between them. -/
theorem text_eq_intercalate (some_ : p.segments ≠ []) :
    p.text = "." ++ ".".intercalate p.segments := by
  apply String.toList_injective
  rw [text_toList, String.toList_append, String.toList_intercalate]
  generalize p.segments = segments at some_
  induction segments with
  | nil => exact absurd rfl some_
  | cons s rest ih =>
    cases rest with
    | nil => simp
    | cons next rest =>
      rw [List.flatMap_cons, ih (by simp)]
      simp [List.intercalate]

theorem text_toList_join (some_ : p.segments ≠ []) :
    p.text.toList = '.' :: Text.join '.' (p.segments.map String.toList) := by
  rw [text_toList, ← flatMap_dot (by simpa using some_), List.flatMap_map]

/-- A text is read as the path whose text is left of it without the blanks around it. -/
theorem read_eq_ok {t : String} :
    FieldPath.read t = .ok p ↔ Dotted p.segments ∧ Text.trim t = p.text := by
  have trimmed : Text.trim t = p.text ↔ Text.trimList t.toList = p.text.toList := by
    rw [Text.trim, ← String.toList_inj, String.toList_ofList]
  rw [trimmed]
  constructor
  · intro read_
    unfold FieldPath.read at read_
    dsimp only at read_
    split at read_
    · next rest same =>
      split at read_
      · cases read_
      · next full =>
        obtain rfl := Except.ok.inj read_
        have dotted : Dotted ((Text.split '.' rest).map String.ofList) := by
          refine ⟨by simpa using Text.split_ne_nil '.' rest, ?_, ?_⟩
          · intro s mem
            obtain ⟨part, listed, rfl⟩ := List.mem_map.mp mem
            rintro empty
            refine full (List.any_eq_true.mpr ⟨part, listed, ?_⟩)
            simpa using empty
          · intro s mem
            obtain ⟨part, listed, rfl⟩ := List.mem_map.mp mem
            rw [String.toList_ofList]
            exact Text.not_mem_of_mem_split listed
        refine ⟨dotted, ?_⟩
        rw [same, text_toList_join dotted.some_, List.map_map]
        simp [Text.join_split]
    · cases read_
  · rintro ⟨⟨some_, full, free⟩, same⟩
    have parts : Text.split '.' (Text.join '.' (p.segments.map String.toList)) =
        p.segments.map String.toList := by
      apply Text.split_join (by simpa using some_)
      intro part mem
      obtain ⟨s, segment, rfl⟩ := List.mem_map.mp mem
      exact free s segment
    have nonempty : (p.segments.map String.toList).any List.isEmpty = false := by
      rw [List.any_map, List.any_eq_false]
      intro s segment
      simpa using full s segment
    rw [FieldPath.read, same, text_toList_join some_]
    simp only [parts, nonempty, Bool.false_eq_true, if_false, List.map_map]
    simp

/-- A path is read back from its text if its segments are not empty and free of dots, and the last
does not end with a blank. -/
theorem read_text (some_ : p.segments ≠ []) (full : ∀ s ∈ p.segments, s ≠ "")
    (free : ∀ s ∈ p.segments, '.' ∉ s.toList)
    (last : ∀ c, p.text.toList.getLast? = some c → Text.isBlank c = false) :
    FieldPath.read p.text = .ok p := by
  refine read_eq_ok.mpr ⟨⟨some_, full, free⟩, ?_⟩
  rw [Text.trim, Text.trimList_eq_self ?_ last, String.ofList_toList]
  intro c head
  rw [text_toList_join some_] at head
  cases head
  rfl

/-- Reading and writing paths undo each other.

* Trimming takes away the blanks around a text, and no more.
* A text is read as a path exactly if, trimmed, it is a dot and one or more segments with single
  dots between them, none of them empty or with a dot inside; then the path has these segments.
* The text of a path that was read is the trimmed text, and it is read as the same path.
* Two paths that were read are the same if their texts are, and a path can be read at all exactly if
  it is read from its own text. -/
theorem read_round_trip (t : String) :
    (∀ core, Text.trim t = core ↔ Text.Trims t.toList core.toList) ∧
    (∀ p : FieldPath, FieldPath.read t = .ok p ↔
      Dotted p.segments ∧ Text.trim t = "." ++ ".".intercalate p.segments) ∧
    (∀ p : FieldPath, FieldPath.read t = .ok p →
      p.text = Text.trim t ∧ FieldPath.read p.text = .ok p) ∧
    (∀ (t' : String) (p p' : FieldPath), FieldPath.read t = .ok p → FieldPath.read t' = .ok p' →
      (p.text = p'.text ↔ p = p')) ∧
    ∀ p : FieldPath, (∃ t', FieldPath.read t' = .ok p) ↔ FieldPath.read p.text = .ok p := by
  have again {t : String} {p : FieldPath} (made : FieldPath.read t = .ok p) :
      FieldPath.read p.text = .ok p := by
    obtain ⟨dotted, same⟩ := read_eq_ok.mp made
    refine read_eq_ok.mpr ⟨dotted, ?_⟩
    rw [← same, Text.trim_trim]
  refine ⟨fun core => Text.trim_eq_iff, ?_, ?_, ?_, ?_⟩
  · intro p
    rw [read_eq_ok]
    apply and_congr_right
    intro dotted
    rw [text_eq_intercalate dotted.some_]
  · intro p made
    exact ⟨(read_eq_ok.mp made).2.symm, again made⟩
  · intro t' p p' made made'
    constructor
    · intro same
      have made'' := again made
      rw [same] at made''
      exact Except.ok.inj (made''.symm.trans (again made'))
    · intro same
      rw [same]
  · intro p
    constructor
    · rintro ⟨t', made⟩
      exact again made
    · intro made
      exact ⟨p.text, made⟩

end FieldPath

end Dialect
