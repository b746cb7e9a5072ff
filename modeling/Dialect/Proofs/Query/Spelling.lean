import Dialect.Proofs.Grammar.Derivation
import Dialect.Proofs.Query.Tokens

/-!
What the tokens of features spell.

Whatever is derived from the body of a token is a literal: a number (`number_of_derives`), a body in
quotes (`body_of_derives`), a path of identifiers (`field_of_derives`). With `Tokens` this says that
the rules and the literals have the same texts.
-/

namespace Dialect.Query

open Grammar Text.Quoted

variable {g : Grammar} {blank : Char → Bool} {P : String → ParseNode → Prop} {x : List Char}
  {ns : List ParseNode}

/-! ### Numbers -/

theorem digits_of_derives (h : Derives g blank P .atomic digits x ns) :
    ∃ run : DigitRun, run.chars = x := by
  obtain ⟨x₁, x₂, _, _, rfl, -, first, later⟩ := h.of_seq_tight nofun rfl
  obtain ⟨-, d, rfl, digit⟩ := first.of_letter rfl
  have all := (later.of_star_letter rfl nofun).2
  exact ⟨⟨d :: x₂, by simp, List.forall_mem_cons.mpr ⟨digit, all⟩⟩, rfl⟩

theorem sign_of_derives
    (h : Derives g blank P .atomic (.opt (.choice (.literal ['+']) (.literal ['-']))) x ns) :
    ∃ sign, Sign.chars sign = x := by
  rcases h.of_opt with ⟨rfl, -⟩ | sign
  · exact ⟨none, rfl⟩
  · rcases sign.of_choice with plus | minus
    · exact ⟨some .plus, plus.of_literal.1.symm⟩
    · exact ⟨some .minus, minus.of_literal.1.symm⟩

theorem eq_of_sameLetter {c : Char} (same : sameLetter 'e' c = true) : c = 'e' ∨ c = 'E' := by
  have lower : c.toLower = 'e' := (eq_of_beq same).symm
  unfold Char.toLower at lower
  split at lower
  · have shifted : c.val + ('a'.val - 'A'.val) = 'E'.val + ('a'.val - 'A'.val) :=
      congrArg Char.val lower
    exact .inr (Char.ext ((UInt32.add_left_inj _).mp shifted))
  · exact .inl lower

theorem mark_of_derives (h : Derives g blank P .atomic (.caseless ['e']) x ns) :
    x = ['e'] ∨ x = ['E'] := by
  cases h with
  | guarded guarded _ _ => cases guarded
  | caseless same =>
      obtain ⟨c, rest, letter, none, rfl⟩ := List.forall₂_cons_left_iff.mp same
      obtain rfl := List.forall₂_nil_left_iff.mp none
      exact (eq_of_sameLetter letter).imp (congrArg (List.cons · [])) (congrArg (List.cons · []))

/-- The body of a number derives numbers. -/
theorem number_of_derives
    (h : Derives g blank P .atomic (.seq (.opt (.literal ['-'])) (.seq digits
      (.seq (.opt (.seq (.literal ['.']) digits)) (.opt (.seq (.caseless ['e'])
        (.seq (.opt (.choice (.literal ['+']) (.literal ['-']))) digits)))))) x ns) :
    ∃ n : NumberLiteral, n.chars = x := by
  obtain ⟨x₁, _, _, _, rfl, -, sign, h⟩ := h.of_seq_tight nofun rfl
  obtain ⟨x₂, _, _, _, rfl, -, whole, h⟩ := h.of_seq_tight nofun rfl
  obtain ⟨x₃, x₄, _, _, rfl, -, part, power⟩ := h.of_seq_tight nofun rfl
  obtain ⟨negative, rfl⟩ : ∃ negative : Bool, x₁ = if negative then ['-'] else [] := by
    rcases sign.of_opt with ⟨rfl, -⟩ | minus
    · exact ⟨false, rfl⟩
    · exact ⟨true, minus.of_literal.1⟩
  obtain ⟨run, rfl⟩ := digits_of_derives whole
  obtain ⟨fraction, rfl⟩ : ∃ fraction : Option DigitRun,
      x₃ = fraction.elim [] fun digits => '.' :: digits.chars := by
    rcases part.of_opt with ⟨rfl, -⟩ | part
    · exact ⟨none, rfl⟩
    · obtain ⟨_, _, _, _, rfl, -, point, digits⟩ := part.of_seq_tight nofun rfl
      obtain ⟨rfl, -⟩ := point.of_literal
      obtain ⟨run, rfl⟩ := digits_of_derives digits
      exact ⟨some run, rfl⟩
  obtain ⟨exponent, rfl⟩ : ∃ exponent : Option Exponent,
      x₄ = exponent.elim [] Exponent.chars := by
    rcases power.of_opt with ⟨rfl, -⟩ | power
    · exact ⟨none, rfl⟩
    · obtain ⟨_, _, _, _, rfl, -, mark, h⟩ := power.of_seq_tight nofun rfl
      obtain ⟨_, _, _, _, rfl, -, sign, digits⟩ := h.of_seq_tight nofun rfl
      obtain ⟨after, rfl⟩ := sign_of_derives sign
      obtain ⟨run, rfl⟩ := digits_of_derives digits
      rcases mark_of_derives mark with rfl | rfl
      · exact ⟨some ⟨false, after, run⟩, rfl⟩
      · exact ⟨some ⟨true, after, run⟩, rfl⟩
  refine ⟨⟨negative, run, fraction, exponent⟩, ?_⟩
  cases fraction with
  | none => cases exponent <;> rfl
  | some digits => cases exponent <;> rfl

/-! ### Texts -/

/-- The inside of a text in double quotes is a body. -/
theorem body_of_derives {mode : Mode} (tight : mode ≠ .spaced)
    (h : Derives g blank P mode quotedBody x ns) : Body x := by
  refine h.star_induction (Q := fun x _ => Body x) .nil ?_
  intro x w y ns ks item gap later
  rw [gap.tight tight, List.nil_append]
  rcases item.of_choice with escaped | plain
  · obtain ⟨_, _, _, _, rfl, -, slash, any⟩ := escaped.of_seq_tight tight rfl
    obtain ⟨rfl, -⟩ := slash.of_literal
    obtain ⟨-, c, rfl, -⟩ := any.of_letter rfl
    exact .escaped later
  · cases plain with
    | @guarded _ _ p c guarded _ holds =>
        obtain rfl := Option.some.inj guarded
        simp only [Bool.and_eq_true, Bool.not_eq_true', Bool.or_eq_false_iff, beq_eq_false_iff_ne]
          at holds
        exact .plain (Ne.symm holds.1.1) (Ne.symm holds.1.2) later
    | seq unguarded _ _ _ => cases unguarded tight

/-- A text in double quotes is a body between them. -/
theorem quoted_of_derives {inner : String} {rule : Rule} (found : g.find? inner = some rule)
    (shows : rule.shows .compound = true) (bodies : ∀ n, P inner n → Body n.text.toList)
    (h : Derives g blank P .compound
      (.seq (.literal ['"']) (.seq (.call inner) (.literal ['"']))) x ns) :
    ∃ body, Body body ∧ x = '"' :: (body ++ ['"']) := by
  obtain ⟨_, _, _, _, rfl, -, opening, h⟩ := h.of_seq_tight nofun rfl
  obtain ⟨_, _, _, _, rfl, -, between, closing⟩ := h.of_seq_tight nofun rfl
  obtain ⟨rfl, -⟩ := opening.of_literal
  obtain ⟨rfl, -⟩ := closing.of_literal
  obtain ⟨n, -, rfl, made⟩ := between.of_node found shows
  exact ⟨_, bodies n made, rfl⟩

/-! ### Field paths -/

theorem field_name_of_derives (found : g.find? "field_name" = some ⟨"field_name", .silent,
      .seq (.choice (.one .asciiAlpha) (.literal ['_']))
        (.star (.choice (.one .asciiAlphanumeric) (.literal ['_'])))⟩)
    (h : Derives g blank P .atomic (.call "field_name") x ns) : IsIdentifier (String.ofList x) := by
  obtain ⟨_, x₂, _, _, rfl, -, first, later⟩ :=
    (h.of_silent found (by decide)).of_seq_tight nofun rfl
  obtain ⟨-, c, rfl, starts⟩ := first.of_letter rfl
  exact ⟨c, x₂, by simp, starts, (later.of_star_letter rfl nofun).2⟩

/-- The body of a field derives paths of identifiers. -/
theorem field_of_derives (found : g.find? "field_name" = some ⟨"field_name", .silent,
      .seq (.choice (.one .asciiAlpha) (.literal ['_']))
        (.star (.choice (.one .asciiAlphanumeric) (.literal ['_'])))⟩)
    (h : Derives g blank P .atomic (.seq segment (.star segment)) x ns) :
    ∃ p : IdentifierPath, p.path.text.toList = x := by
  have one {x ns} (h : Derives g blank P .atomic segment x ns) :
      ∃ s, IsIdentifier s ∧ x = '.' :: s.toList := by
    obtain ⟨_, y, _, _, rfl, -, point, name⟩ := h.of_seq_tight nofun rfl
    obtain ⟨rfl, -⟩ := point.of_literal
    exact ⟨_, field_name_of_derives found name, by simp⟩
  obtain ⟨_, y, _, _, rfl, -, first, later⟩ := h.of_seq_tight nofun rfl
  obtain ⟨s, identifier, rfl⟩ := one first
  obtain ⟨rest, identifiers, rfl⟩ : ∃ rest : List String, (∀ s ∈ rest, IsIdentifier s) ∧
      y = rest.flatMap fun s => '.' :: s.toList := by
    refine later.star_induction (Q := fun y _ => ∃ rest : List String,
      (∀ s ∈ rest, IsIdentifier s) ∧ y = rest.flatMap fun s => '.' :: s.toList)
      ⟨[], by simp, rfl⟩ ?_
    rintro x w y ns ks round gap ⟨rest, identifiers, rfl⟩
    obtain ⟨s, identifier, rfl⟩ := one round
    refine ⟨s :: rest, List.forall_mem_cons.mpr ⟨identifier, identifiers⟩, ?_⟩
    rw [gap.tight nofun]
    rfl
  refine ⟨⟨⟨s :: rest⟩, by simp, List.forall_mem_cons.mpr ⟨identifier, identifiers⟩⟩, ?_⟩
  rw [FieldPath.text_toList]
  rfl

end Dialect.Query
