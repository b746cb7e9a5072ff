import Dialect.Text.Quoted

/-!
Writing a text in quotes and reading it back.

Main statements: `decodeAt_encode` (what is encoded is decoded to itself) and
`exists_body_of_decodeAt` (what is decoded is a body in quotes, in which a quote stands only behind
a backslash).
-/

namespace Dialect.Text.Quoted

variable {cs rest : List Char} {ps : List Piece}

/-! ### Encoded texts -/

/-- The piece as which an encoded character is read. -/
def pieceOf (c : Char) : Piece :=
  if c.toNat < 0x20 ∧ c ∉ ['\n', '\r', '\t', '\x08', '\x0c'] then .unit c.toNat else .char c

theorem hexUnit?_hexDigit :
    ∀ n < 0x20, hexUnit? '0' '0' (hexDigit (n / 16)) (hexDigit (n % 16)) = some n := by
  decide

theorem pieces_escaped {e c : Char} (escape : escaped? e = some c) (plain : e ≠ 'u')
    (rest : List Char) :
    pieces ('\\' :: e :: rest) = (pieces rest).map fun read => (.char c :: read.1, read.2) := by
  rw [pieces]
  · rw [escape]
    cases pieces rest <;> rfl
  · rintro _ _ _ _ _ rfl
    exact absurd rfl plain

theorem pieces_encodeChar (c : Char) (rest : List Char) :
    pieces (encodeChar c ++ rest) =
      (pieces rest).map fun read => (pieceOf c :: read.1, read.2) := by
  unfold encodeChar
  split
  · next same => subst same; exact pieces_escaped rfl (by decide) rest
  split
  · next same => subst same; exact pieces_escaped rfl (by decide) rest
  split
  · next same => subst same; exact pieces_escaped rfl (by decide) rest
  split
  · next same => subst same; exact pieces_escaped rfl (by decide) rest
  split
  · next same => subst same; exact pieces_escaped rfl (by decide) rest
  split
  · next same => subst same; exact pieces_escaped rfl (by decide) rest
  split
  · next same => subst same; exact pieces_escaped rfl (by decide) rest
  split
  · next control =>
    have unit : pieceOf c = .unit c.toNat := by simp [pieceOf, *]
    simp only [List.cons_append, List.nil_append, pieces, hexUnit?_hexDigit _ control, unit]
    cases pieces rest <;> rfl
  · next quote backslash _ _ _ _ _ printable =>
    have char : pieceOf c = .char c := by simp [pieceOf, printable]
    rw [List.singleton_append, pieces, if_neg (by simp [printable, backslash]), char]
    · cases pieces rest <;> rfl
    all_goals simp [quote, backslash]

theorem pieces_encode (cs rest : List Char) :
    pieces (cs.flatMap encodeChar ++ '"' :: rest) = some (cs.map pieceOf, rest) := by
  induction cs with
  | nil => rfl
  | cons c cs ih =>
    rw [List.flatMap_cons, List.append_assoc, pieces_encodeChar, ih]
    rfl

/-- A unit that is no half of a pair is a character by itself. -/
theorem assemble_unit {n : Nat} (leading : isLeading n = false) (trailing : isTrailing n = false)
    (ps : List Piece) : assemble (.unit n :: ps) = (assemble ps).map (Char.ofNat n :: ·) := by
  match ps with
  | [] => simp [assemble, leading, trailing]
  | .char c :: rest => simp [assemble, leading, trailing]
  | .unit m :: rest => simp [assemble, leading, trailing]

theorem assemble_pieceOf (cs : List Char) : assemble (cs.map pieceOf) = some cs := by
  induction cs with
  | nil => rfl
  | cons c cs ih =>
    by_cases control : pieceOf c = .char c
    · rw [List.map_cons, control, assemble, ih]
      rfl
    · have unit : pieceOf c = .unit c.toNat ∧ c.toNat < 0x20 := by
        unfold pieceOf at control ⊢
        split <;> simp_all
      have leading : isLeading c.toNat = false := by
        simp only [isLeading, Bool.and_eq_false_iff, decide_eq_false_iff_not]
        omega
      have trailing : isTrailing c.toNat = false := by
        simp only [isTrailing, Bool.and_eq_false_iff, decide_eq_false_iff_not]
        omega
      rw [List.map_cons, unit.1, assemble_unit leading trailing, ih, Option.map_some,
        Char.ofNat_toNat]

theorem decodeAt_encode (cs rest : List Char) :
    decodeAt (encode cs ++ rest) = some (cs, rest) := by
  simp [encode, decodeAt, pieces_encode, assemble_pieceOf]

/-! ### Bodies of quoted texts -/

/-- What may stand between quotes, as far as finding the closing one goes: a quote or a backslash
only behind a backslash. -/
inductive Body : List Char → Prop where
  | nil : Body []
  | escaped {c : Char} {cs : List Char} : Body cs → Body ('\\' :: c :: cs)
  | plain {c : Char} {cs : List Char} : c ≠ '"' → c ≠ '\\' → Body cs → Body (c :: cs)

theorem Body.hex {c : Char} {n : Nat} (digit : hexValue? c = some n) (body : Body cs) :
    Body (c :: cs) := by
  refine .plain ?_ ?_ body
  · rintro rfl
    exact absurd (digit.symm.trans (by decide : hexValue? '"' = none)) (by simp)
  · rintro rfl
    exact absurd (digit.symm.trans (by decide : hexValue? '\\' = none)) (by simp)

theorem exists_body_of_pieces (read : pieces cs = some (ps, rest)) :
    ∃ body, cs = body ++ '"' :: rest ∧ Body body := by
  fun_induction pieces cs generalizing ps with
  | case1 | case4 | case6 | case7 | case9 => cases read
  | case2 after =>
    cases read
    exact ⟨[], rfl, .nil⟩
  | case3 a b c d tail n ps' after later unit ih =>
    cases read
    obtain ⟨body, rfl, holds⟩ := ih later
    simp only [hexUnit?, Option.bind_eq_bind, Option.bind_eq_some_iff] at unit
    obtain ⟨_, ha, _, hb, _, hc, _, hd, -⟩ := unit
    exact ⟨'\\' :: 'u' :: a :: b :: c :: d :: body, rfl,
      .escaped (.hex ha (.hex hb (.hex hc (.hex hd holds))))⟩
  | case5 e tail _ c ps' after later escape ih =>
    cases read
    obtain ⟨body, rfl, holds⟩ := ih later
    exact ⟨'\\' :: e :: body, rfl, .escaped holds⟩
  | case8 c tail quote _ _ printable ps' after later ih =>
    cases read
    obtain ⟨body, rfl, holds⟩ := ih later
    exact ⟨c :: body, rfl, .plain quote (fun same => printable (.inr same)) holds⟩

/-- The text is a body in quotes. -/
def InQuotes (cs : List Char) : Prop := ∃ body, cs = '"' :: (body ++ ['"']) ∧ Body body

/-- What is decoded at the start of a text is a body in quotes. -/
theorem exists_body_of_decodeAt {text : List Char} (read : decodeAt cs = some (text, rest)) :
    ∃ body, cs = '"' :: (body ++ '"' :: rest) ∧ Body body := by
  unfold decodeAt at read
  split at read
  · split at read
    · next ps after found =>
      obtain ⟨_, -, same⟩ := Option.map_eq_some_iff.mp read
      cases same
      obtain ⟨body, rfl, holds⟩ := exists_body_of_pieces found
      exact ⟨body, rfl, holds⟩
    · cases read
  · cases read

/-- Where nothing is left behind the quotes, the whole text is decoded to the same. -/
theorem decode_of_decodeAt {text : List Char} (read : decodeAt cs = some (text, [])) :
    decode cs = some text := by
  obtain ⟨body, rfl, -⟩ := exists_body_of_decodeAt read
  have start : List.dropWhile isSpace ('"' :: (body ++ ['"'])) = '"' :: (body ++ ['"']) := rfl
  rw [decode, start, read]
  rfl

end Dialect.Text.Quoted
