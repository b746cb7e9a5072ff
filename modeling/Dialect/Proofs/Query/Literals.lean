import Dialect.Proofs.Path.Text
import Dialect.Proofs.Text.Quoted
import Dialect.Query.Tree

/-!
The literals of features, and what they denote.

Numbers, quoted texts and field paths are given by what is written, with their meaning beside it.
Main statements: `NumberLiteral.numberOf_chars`, `QuotedLiteral.unquote_chars` and
`IdentifierPath.read_text` (each literal is read as what it denotes).
-/

namespace Dialect.Query

open Decimal (natOfDigits readUnsigned takeDigits)

/-! ### Numbers -/

/-- One decimal digit or more. -/
structure DigitRun where
  chars : List Char
  nonempty : chars ≠ []
  digits : ∀ c ∈ chars, c.isDigit = true

/-- A sign as it is written. -/
inductive Sign where
  | plus
  | minus
  deriving DecidableEq, Repr

def Sign.chars : Option Sign → List Char
  | none => []
  | some .plus => ['+']
  | some .minus => ['-']

/-- The exponent of a number: its mark in either case, a sign that may be missing, and digits. -/
structure Exponent where
  capital : Bool
  sign : Option Sign
  magnitude : DigitRun

namespace Exponent

def mark (e : Exponent) : Char := if e.capital then 'E' else 'e'

def chars (e : Exponent) : List Char := e.mark :: (Sign.chars e.sign ++ e.magnitude.chars)

def value (e : Exponent) : Int :=
  if e.sign = some .minus then -(natOfDigits e.magnitude.chars : Int)
  else natOfDigits e.magnitude.chars

end Exponent

/-- A number: digits, perhaps with a minus before them and with a fraction and an exponent behind.
-/
structure NumberLiteral where
  negative : Bool
  whole : DigitRun
  fraction : Option DigitRun
  exponent : Option Exponent

namespace NumberLiteral

variable (n : NumberLiteral)

def fractionChars : List Char :=
  match n.fraction with
  | none => []
  | some digits => '.' :: digits.chars

def exponentChars : List Char :=
  match n.exponent with
  | none => []
  | some e => e.chars

/-- The number without its sign. -/
def unsigned : List Char := n.whole.chars ++ (n.fractionChars ++ n.exponentChars)

/-- The number as it is written. -/
def chars : List Char := (if n.negative then ['-'] else []) ++ n.unsigned

/-- The digits on both sides of the point. -/
def digits : List Char := n.whole.chars ++ n.fractionChars.tail

/-- The power of ten that the digits are multiplied with. -/
def scale : Int := (n.exponent.elim 0 Exponent.value) - n.fractionChars.tail.length

/-- The nearest float to the number that is written. -/
def value : Float :=
  let x := Decimal.rounded (natOfDigits n.digits) n.scale
  if n.negative then -x else x

end NumberLiteral

theorem takeDigits_append {ds rest : List Char} (digits : ∀ c ∈ ds, c.isDigit = true)
    (stop : ∀ c, rest.head? = some c → c.isDigit = false) :
    takeDigits (ds ++ rest) = (ds, rest) := by
  have none : rest.takeWhile Char.isDigit = [] ∧ rest.dropWhile Char.isDigit = rest := by
    cases rest with
    | nil => exact ⟨rfl, rfl⟩
    | cons c rest => simp [stop c rfl]
  rw [takeDigits, List.takeWhile_append_of_pos digits, List.dropWhile_append_of_pos digits, none.1,
    none.2, List.append_nil]

variable {n : NumberLiteral}

theorem head?_exponentChars {tail : List Char} {c : Char}
    (head : (n.exponentChars ++ tail).head? = some c) :
    c = 'e' ∨ c = 'E' ∨ tail.head? = some c := by
  cases exponent : n.exponent with
  | none => simpa [NumberLiteral.exponentChars, exponent] using Or.inr (Or.inr head)
  | some e =>
    simp only [NumberLiteral.exponentChars, exponent, Exponent.chars, List.cons_append,
      List.head?_cons, Option.some.injEq] at head
    rw [← head, Exponent.mark]
    cases e.capital <;> simp

/-- What may stand behind the digits of a number before its point. -/
theorem head?_fractionChars {tail : List Char} {c : Char}
    (head : (n.fractionChars ++ (n.exponentChars ++ tail)).head? = some c) :
    c = '.' ∨ c = 'e' ∨ c = 'E' ∨ tail.head? = some c := by
  cases fraction : n.fraction with
  | none =>
    simp only [NumberLiteral.fractionChars, fraction, List.nil_append] at head
    exact .inr (head?_exponentChars head)
  | some digits =>
    simp only [NumberLiteral.fractionChars, fraction, List.cons_append, List.head?_cons,
      Option.some.injEq] at head
    exact .inl head.symm

theorem DigitRun.cons (run : DigitRun) : ∃ d ds, run.chars = d :: ds ∧ d.isDigit = true := by
  cases chars : run.chars with
  | nil => exact absurd chars run.nonempty
  | cons d ds => exact ⟨d, ds, rfl, run.digits d (by simp [chars])⟩

theorem readUnsigned_unsigned : readUnsigned n.unsigned = some (natOfDigits n.digits, n.scale) := by
  have first : takeDigits (n.whole.chars ++ (n.fractionChars ++ n.exponentChars)) =
      (n.whole.chars, n.fractionChars ++ n.exponentChars) := by
    refine takeDigits_append n.whole.digits fun c head => ?_
    rw [← List.append_nil n.exponentChars] at head
    rcases head?_fractionChars head with rfl | rfl | rfl | end_
    · rfl
    · rfl
    · rfl
    · cases end_
  have second (part : DigitRun) : takeDigits (part.chars ++ n.exponentChars) =
      (part.chars, n.exponentChars) := by
    refine takeDigits_append part.digits fun c head => ?_
    rw [← List.append_nil n.exponentChars] at head
    rcases head?_exponentChars head with rfl | rfl | end_
    · rfl
    · rfl
    · cases end_
  obtain ⟨d, ds, cons, -⟩ := n.whole.cons
  have full : n.whole.chars.isEmpty = false := by simp [cons]
  rw [readUnsigned, NumberLiteral.unsigned, first]
  obtain ⟨negative, whole, fraction, exponent⟩ := n
  cases exponent with
  | none =>
    simp only [NumberLiteral.exponentChars, List.append_nil] at second
    cases fraction <;>
      simp [NumberLiteral.fractionChars, NumberLiteral.exponentChars, NumberLiteral.digits,
        NumberLiteral.scale, second, full]
  | some e =>
    obtain ⟨capital, sign, magnitude⟩ := e
    obtain ⟨m, ms, chars, digit⟩ := magnitude.cons
    have later : ∀ c ∈ ms, c.isDigit = true := fun c mem =>
      magnitude.digits c (by simp [chars, mem])
    have minus : m ≠ '-' := by rintro rfl; cases digit
    have plus : m ≠ '+' := by rintro rfl; cases digit
    simp only [NumberLiteral.exponentChars] at second
    cases fraction <;> cases capital <;> rcases sign with _ | _ | _ <;>
      simp_all [NumberLiteral.fractionChars, NumberLiteral.exponentChars, NumberLiteral.digits,
        NumberLiteral.scale, Exponent.chars, Exponent.mark, Exponent.value, Sign.chars]

theorem toLower_of_isDigit {c : Char} (digit : c.isDigit = true) : c.toLower = c := by
  refine dif_neg ?_
  simp only [Char.isDigit, Bool.and_eq_true, decide_eq_true_eq] at digit
  intro upper
  have := Nat.le_trans upper.1 digit.2
  exact absurd this (by decide)

/-- A text that begins with a digit is in no case a word that does not. -/
theorem lower_ne {c w : Char} (digit : c.isDigit = true) (letter : w.isDigit = false)
    (cs ws : List Char) : String.ofList ((c :: cs).map Char.toLower) ≠ String.ofList (w :: ws) := by
  intro same
  have head : c.toLower = w := by
    have := congrArg (·.toList.head?) same
    simpa using this
  rw [← head, toLower_of_isDigit digit, digit] at letter
  cases letter

theorem NumberLiteral.unsigned_cons (n : NumberLiteral) :
    ∃ d ds, n.unsigned = d :: ds ∧ d.isDigit = true := by
  obtain ⟨d, ds, chars, digit⟩ := n.whole.cons
  exact ⟨d, ds ++ (n.fractionChars ++ n.exponentChars), by rw [unsigned, chars]; rfl, digit⟩

theorem NumberLiteral.readFloat_chars :
    Decimal.readFloat (String.ofList n.chars) = .ok n.value := by
  obtain ⟨d, ds, body, digit⟩ := n.unsigned_cons
  have read := readUnsigned_unsigned (n := n)
  rw [Decimal.readFloat, NumberLiteral.chars, NumberLiteral.value]
  rw [body] at read ⊢
  have inf := lower_ne digit (w := 'i') rfl ds ['n', 'f']
  have infinity := lower_ne digit (w := 'i') rfl ds ['n', 'f', 'i', 'n', 'i', 't', 'y']
  have nan := lower_ne digit (w := 'n') rfl ds ['a', 'n']
  have minus : d ≠ '-' := by rintro rfl; cases digit
  have plus : d ≠ '+' := by rintro rfl; cases digit
  cases n.negative <;> simp_all [Except.map]

/-- A number is read as its value. -/
theorem NumberLiteral.numberOf_chars (n : NumberLiteral) :
    numberOf (String.ofList n.chars) = .ok (.number n.value) := by
  rw [numberOf, readFloat_chars]

/-! ### Quoted texts -/

/-- A text in double quotes that denotes a text. -/
structure QuotedLiteral where
  chars : List Char
  value : String
  decodes : Text.Quoted.decodeAt chars = some (value.toList, [])

namespace QuotedLiteral

/-- The shortest quoted form of a text. -/
def of (s : String) : QuotedLiteral :=
  ⟨Text.Quoted.encode s.toList, s, by simpa using Text.Quoted.decodeAt_encode s.toList []⟩

theorem inQuotes (q : QuotedLiteral) : Text.Quoted.InQuotes q.chars :=
  Text.Quoted.exists_body_of_decodeAt q.decodes

/-- A quoted text is read as the text that it denotes. -/
theorem unquote_chars (q : QuotedLiteral) : unquote (String.ofList q.chars) = .ok q.value := by
  rw [unquote, String.toList_ofList, Text.Quoted.decode_of_decodeAt q.decodes]
  simp

end QuotedLiteral

/-- A text that denotes nothing is refused as a literal. -/
theorem unquote_of_none {cs : List Char} (nothing : Text.Quoted.decode cs = none) :
    unquote (String.ofList cs) = .error (.parse (.badLiteral (String.ofList cs))) := by
  rw [unquote, String.toList_ofList, nothing]

/-! ### Field paths -/

/-- An ASCII letter or an underscore. -/
def startsName (c : Char) : Bool := Grammar.CharClass.asciiAlpha.holds c || '_' == c

/-- An ASCII letter, an ASCII digit or an underscore. -/
def continuesName (c : Char) : Bool := Grammar.CharClass.asciiAlphanumeric.holds c || '_' == c

/-- The text is an identifier. -/
def IsIdentifier (s : String) : Prop :=
  ∃ c cs, s.toList = c :: cs ∧ startsName c = true ∧ ∀ d ∈ cs, continuesName d = true

/-- A path of identifiers. -/
structure IdentifierPath where
  path : FieldPath
  nonempty : path.segments ≠ []
  identifiers : ∀ s ∈ path.segments, IsIdentifier s

theorem continuesName_of_startsName {c : Char} (starts : startsName c = true) :
    continuesName c = true := by
  simp only [startsName, continuesName, Grammar.CharClass.holds, Bool.or_eq_true] at *
  rcases starts with letter | underscore
  · exact .inl (.inl letter)
  · exact .inr underscore

theorem IsIdentifier.continues {s : String} (identifier : IsIdentifier s) :
    ∀ c ∈ s.toList, continuesName c = true := by
  obtain ⟨c, cs, chars, starts, continues⟩ := identifier
  rw [chars]
  exact List.forall_mem_cons.mpr ⟨continuesName_of_startsName starts, continues⟩

/-- A letter, a digit or an underscore is no blank. -/
theorem isBlank_of_continuesName {c : Char} (continues : continuesName c = true) :
    Text.isBlank c = false := by
  have printable : 48 ≤ c.toNat ∧ c.toNat ≤ 122 := by
    simp only [continuesName, Grammar.CharClass.holds, Bool.or_eq_true, Bool.and_eq_true,
      decide_eq_true_eq, beq_iff_eq, Char.le_def, UInt32.le_iff_toNat_le] at continues
    rcases continues with ((⟨low, high⟩ | ⟨low, high⟩) | ⟨low, high⟩) | rfl
    · exact ⟨Nat.le_trans (by decide) low, Nat.le_trans high (by decide)⟩
    · exact ⟨Nat.le_trans (by decide) low, Nat.le_trans high (by decide)⟩
    · exact ⟨Nat.le_trans (by decide) low, Nat.le_trans high (by decide)⟩
    · decide
  simp only [Text.isBlank, Bool.or_eq_false_iff, Bool.and_eq_false_iff, decide_eq_false_iff_not]
  omega

namespace IdentifierPath

/-- A path of identifiers is read back from its text. -/
theorem read_text (p : IdentifierPath) : FieldPath.read p.path.text = .ok p.path := by
  refine FieldPath.read_text p.nonempty ?_ ?_ ?_
  · rintro s mem rfl
    obtain ⟨c, cs, chars, -⟩ := p.identifiers _ mem
    cases chars
  · intro s mem dot
    exact absurd ((p.identifiers s mem).continues _ dot) (by decide)
  · intro c last
    have within := List.mem_of_getLast? last
    rw [FieldPath.text_toList] at within
    obtain ⟨s, mem, part⟩ := List.mem_flatMap.mp within
    rcases List.mem_cons.mp part with rfl | part
    · rfl
    · exact isBlank_of_continuesName ((p.identifiers s mem).continues c part)

end IdentifierPath

end Dialect.Query
