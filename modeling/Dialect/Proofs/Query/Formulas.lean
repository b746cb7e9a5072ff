import Dialect.Proofs.Query.Operands

/-!
Features as they are written, and reading them back.

A `Formula` is a feature whose literals are given as they are written. Its tokens have brackets
where an operator would bind otherwise than it stands in the tree. Main statement: `Formula.reads`
(the tokens of a formula, with any blanks between them, are read as its feature).
-/

namespace Dialect.Query

open Grammar

mutual

/-- A feature with its literals as they are written. -/
inductive Formula where
  | number (n : NumberLiteral)
  | text (q : QuotedLiteral)
  | field (p : IdentifierPath)
  | binary (op : Operator) (left right : Formula)
  | extremum (side : Extreme) (arguments : Arguments)

/-- One argument or more. -/
inductive Arguments where
  | one (f : Formula)
  | more (f : Formula) (rest : Arguments)

end

mutual

/-- The feature that a formula stands for. -/
def Formula.feature : Formula → Feature
  | .number n => .number n.value
  | .text q => .text q.value
  | .field p => .field p.path
  | .binary op left right => .binary op left.feature right.feature
  | .extremum side arguments => .extremum side arguments.features

/-- The features that arguments stand for. -/
def Arguments.features : Arguments → List Feature
  | .one f => [f.feature]
  | .more f rest => f.feature :: rest.features

end

/-- Tokens in brackets. -/
def inBrackets (tokens : List (List Char)) : List (List Char) := ['('] :: (tokens ++ [[')']])

mutual

/-- The tokens of a formula as an operand of the level: operators that bind less tightly are in
brackets. -/
def Formula.tokens (ℓ : Nat) : Formula → List (List Char)
  | .number n => [n.chars]
  | .text q => [q.chars]
  | .field p => [p.path.text.toList]
  | .binary op left right =>
    let joined := left.tokens (level op) ++ op.symbol.toList :: right.tokens (level op + 1)
    if level op < ℓ then inBrackets joined else joined
  | .extremum side arguments => side.word.toList :: inBrackets arguments.tokens

/-- The tokens of arguments, with commas between them. -/
def Arguments.tokens : Arguments → List (List Char)
  | .one f => f.tokens 0
  | .more f rest => f.tokens 0 ++ [','] :: rest.tokens

end

/-- The text is the tokens, each with any blanks behind it. -/
inductive Spread : List (List Char) → List Char → Prop where
  | nil : Spread [] []
  | cons {token bs cs : List Char} {tokens : List (List Char)} :
      Blank isBlank bs → Spread tokens cs → Spread (token :: tokens) (token ++ bs ++ cs)

namespace Spread

variable {ts us : List (List Char)} {cs : List Char}

/-- The tokens without blanks. -/
theorem flatten (ts : List (List Char)) : Spread ts ts.flatten := by
  induction ts with
  | nil => exact .nil
  | cons t ts ih =>
    have spread : Spread (t :: ts) (t ++ [] ++ ts.flatten) := .cons (by simp [Blank]) ih
    simpa using spread

theorem of_append (spread : Spread (ts ++ us) cs) :
    ∃ a b, cs = a ++ b ∧ Spread ts a ∧ Spread us b := by
  induction ts generalizing cs with
  | nil => exact ⟨[], cs, rfl, .nil, spread⟩
  | cons t ts ih =>
    obtain _ | ⟨blanks, later⟩ := spread
    obtain ⟨a, b, rfl, left, right⟩ := ih later
    exact ⟨_, b, (List.append_assoc _ _ _).symm, .cons blanks left, right⟩

theorem of_cons {t : List Char} (spread : Spread (t :: ts) cs) :
    ∃ bs rest, cs = t ++ bs ++ rest ∧ Blank isBlank bs ∧ Spread ts rest := by
  obtain _ | ⟨blanks, later⟩ := spread
  exact ⟨_, _, rfl, blanks, later⟩

theorem of_single {t : List Char} (spread : Spread [t] cs) :
    ∃ bs, cs = t ++ bs ∧ Blank isBlank bs := by
  obtain ⟨bs, _, rfl, blanks, _ | _⟩ := spread.of_cons
  exact ⟨bs, by simp, blanks⟩

theorem of_bracketed (spread : Spread (inBrackets ts) cs) :
    ∃ bs inner bs', cs = ['('] ++ bs ++ (inner ++ ([')'] ++ bs')) ∧ Blank isBlank bs ∧
      Spread ts inner ∧ Blank isBlank bs' := by
  obtain ⟨bs, _, rfl, blanks, later⟩ := spread.of_cons
  obtain ⟨inner, _, rfl, inside, last⟩ := later.of_append
  obtain ⟨bs', rfl, blanks'⟩ := last.of_single
  exact ⟨bs, inner, bs', rfl, blanks, inside, blanks'⟩

end Spread

/-! ### Formulas -/

mutual

/-- The tokens of a formula are written for its feature. -/
theorem Formula.written : ∀ (w : Formula) {ℓ : Nat} {cs : List Char}, ℓ ≤ 3 →
    Spread (w.tokens ℓ) cs → Written (fun p => .field p.path) ℓ cs w.feature
  | .number n, ℓ, cs, bound, spread => by
    obtain ⟨bs, rfl, blank⟩ := spread.of_single
    exact (Written.number n blank).of_atom bound
  | .text q, ℓ, cs, bound, spread => by
    obtain ⟨bs, rfl, blank⟩ := spread.of_single
    exact (Written.text q blank).of_atom bound
  | .field p, ℓ, cs, bound, spread => by
    obtain ⟨bs, rfl, blank⟩ := spread.of_single
    exact (Written.path p blank).of_atom bound
  | .binary op left right, ℓ, cs, bound, spread => by
    have low := level_lt op
    have joined {cs : List Char} (spread : Spread (left.tokens (level op) ++
        op.symbol.toList :: right.tokens (level op + 1)) cs) :
        Written (fun p => .field p.path) (level op) cs (.binary op left.feature right.feature) := by
      obtain ⟨a, _, rfl, before, spread⟩ := spread.of_append
      obtain ⟨bs, b, rfl, blank, behind⟩ := spread.of_cons
      exact .binary op (left.written (by omega) before) blank (right.written low behind)
    rw [Formula.tokens] at spread
    split at spread
    · obtain ⟨bs, inner, bs', rfl, blank, inside, blank'⟩ := spread.of_bracketed
      have sum := (joined inside).descend (Nat.zero_le _) (by omega)
      exact (Written.bracketed blank sum blank').of_atom bound
    · next le => exact (joined spread).descend (by omega) (by omega)
  | .extremum side arguments, ℓ, cs, bound, spread => by
    obtain ⟨bs, _, rfl, blank, spread⟩ := spread.of_cons
    obtain ⟨bs', inner, bs'', rfl, blank', inside, blank''⟩ := spread.of_bracketed
    exact (Written.extremum side blank blank' (arguments.written inside) blank'').of_atom bound

/-- So are the tokens of arguments. -/
theorem Arguments.written : ∀ (a : Arguments) {cs : List Char}, Spread a.tokens cs →
    WrittenAll (fun p => .field p.path) cs a.features
  | .one f, cs, spread => .one (f.written (Nat.zero_le 3) spread)
  | .more f rest, cs, spread => by
    obtain ⟨a, _, rfl, first, later⟩ := spread.of_append
    obtain ⟨bs, b, rfl, blank, later⟩ := later.of_cons
    exact .more (f.written (Nat.zero_le 3) first) blank (rest.written later)

end

section

variable {w : Formula} {cs : List Char}

/-- The text of a formula begins with no character that begins no formula. -/
theorem Formula.clear {p : Char → Bool} (spread : Spread (w.tokens 0) cs)
    (outside : ∀ c, startsFormula c = true → p c = false) (tail : List Char) :
    Clear p (cs ++ tail) :=
  (w.written (Nat.zero_le 3) spread).clear outside tail

theorem clear_blank (spread : Spread (w.tokens 0) cs) (tail : List Char) :
    Clear isBlank (cs ++ tail) :=
  (w.written (Nat.zero_le 3) spread).clear_blank tail

end

/-- The tokens of a formula are read as its feature. -/
theorem Formula.reads {g : Grammar} {v : Vocabulary} (speaks : Speaks g false) (w : Formula)
    {ℓ : Nat} {cs : List Char} (bound : ℓ ≤ 3) (spread : Spread (w.tokens ℓ) cs) :
    ReadsAt g v ℓ cs w.feature :=
  (w.written bound spread).reads speaks fun p => speaks.field_atom p

/-! ### Features that can be written -/

/-- Features over numbers that can be written, texts and paths of identifiers, in which each extreme
has an argument. -/
inductive Writable : Feature → Prop where
  | number (n : NumberLiteral) : Writable (.number n.value)
  | text (s : String) : Writable (.text s)
  | field (p : IdentifierPath) : Writable (.field p.path)
  | binary (op : Operator) {f f' : Feature} :
      Writable f → Writable f' → Writable (.binary op f f')
  | extremum (side : Extreme) {fs : List Feature} :
      fs ≠ [] → (∀ f ∈ fs, Writable f) → Writable (.extremum side fs)

theorem exists_arguments {fs : List Feature} (nonempty : fs ≠ [])
    (each : ∀ f ∈ fs, ∃ w : Formula, w.feature = f) : ∃ a : Arguments, a.features = fs := by
  induction fs with
  | nil => exact absurd rfl nonempty
  | cons f fs ih =>
    obtain ⟨⟨w, rfl⟩, later⟩ := List.forall_mem_cons.mp each
    cases fs with
    | nil => exact ⟨.one w, rfl⟩
    | cons f' fs =>
      obtain ⟨a, rest⟩ := ih (by simp) later
      exact ⟨.more w a, congrArg _ rest⟩

theorem Writable.exists_formula {f : Feature} (writable : Writable f) :
    ∃ w : Formula, w.feature = f := by
  induction writable with
  | number n => exact ⟨.number n, rfl⟩
  | text s => exact ⟨.text (.of s), rfl⟩
  | field p => exact ⟨.field p, rfl⟩
  | binary op _ _ left right =>
    obtain ⟨w, rfl⟩ := left
    obtain ⟨w', rfl⟩ := right
    exact ⟨.binary op w w', rfl⟩
  | extremum side nonempty _ each =>
    obtain ⟨a, rfl⟩ := exists_arguments nonempty each
    exact ⟨.extremum side a, rfl⟩

end Dialect.Query
