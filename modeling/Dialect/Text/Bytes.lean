/-!
Counting a text in the bytes of its UTF-8 form.

Main statements: `byteSize_toList` (the count is that of the string) and `takeBytes_append` (cutting
behind a text, counted in bytes, gives the text back).
-/

namespace Dialect.Text

/-- The number of bytes that a text takes in UTF-8. -/
def byteSize : List Char → Nat
  | [] => 0
  | c :: rest => c.utf8Size + byteSize rest

@[simp] theorem byteSize_append (cs ds : List Char) :
    byteSize (cs ++ ds) = byteSize cs + byteSize ds := by
  induction cs with
  | nil => simp [byteSize]
  | cons c rest ih => simp [byteSize, ih, Nat.add_assoc]

@[simp] theorem byteSize_toList (s : String) : byteSize s.toList = s.utf8ByteSize := by
  suffices all : ∀ cs, byteSize cs = (String.ofList cs).utf8ByteSize by
    rw [all, String.ofList_toList]
  intro cs
  induction cs with
  | nil => rfl
  | cons c rest ih => simp [byteSize, ih, String.ofList_cons]

/-- The longest beginning of a text that takes no more than so many bytes. -/
def takeBytes : (bytes : Nat) → List Char → List Char
  | _, [] => []
  | bytes, c :: rest => if c.utf8Size ≤ bytes then c :: takeBytes (bytes - c.utf8Size) rest else []

@[simp] theorem takeBytes_append (cs ds : List Char) : takeBytes (byteSize cs) (cs ++ ds) = cs := by
  induction cs with
  | nil =>
    cases ds with
    | nil => rfl
    | cons d rest =>
      have positive := d.utf8Size_pos
      simp only [byteSize, List.nil_append, takeBytes]
      rw [if_neg (by omega)]
  | cons c rest ih =>
    simp only [byteSize, List.cons_append, takeBytes]
    rw [if_pos (by omega), Nat.add_sub_cancel_left, ih]

theorem takeBytes_prefix (bytes : Nat) (cs : List Char) : takeBytes bytes cs <+: cs := by
  induction cs generalizing bytes with
  | nil => exact List.prefix_rfl
  | cons c rest ih =>
    rw [takeBytes]
    split
    · exact (List.prefix_cons_inj c).mpr (ih _)
    · exact List.nil_prefix

end Dialect.Text
