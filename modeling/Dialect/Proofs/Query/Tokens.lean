import Dialect.Proofs.Grammar.Writing
import Dialect.Proofs.Query.Contracts
import Dialect.Proofs.Query.Literals

/-!
The tokens of features.

A grammar `Speaks` features if it has the rules for them that all archives share. In such a grammar
each literal, operator and name is taken as a whole, provided that what follows cannot go on with
it.
-/

namespace Dialect.Query

open Grammar

/-- The rules of features. -/
def sharedRules : List String :=
  ["comparison", "comparator", "feature_sum", "shift_op", "feature_product", "scale_op",
    "feature_power", "power_op", "feature_atom", "extremum", "extremum_name", "field",
    "field_name", "number", "string", "string_body", "story_feature"]

/-- The grammar has the rules of features, with some by name or without, and skips blanks. -/
structure Speaks (g : Grammar) (named : Bool) : Prop where
  rules : ∀ name ∈ sharedRules, g.find? name = (queries ⟨named, false, true⟩).find? name
  skips : SkipsBlanks g isBlank

variable {g : Grammar} {named : Bool} {tail bs : List Char}

theorem Speaks.find? (speaks : Speaks g named) {name : String} {rule : Rule}
    (shared : sharedRules.contains name = true)
    (found : (queries ⟨named, false, true⟩).find? name = some rule) :
    g.find? name = some rule :=
  (speaks.rules name (List.contains_iff_mem.mp shared)).trans found

/-- The grammars of archives have the rules of features. -/
theorem speaks_queries (v : Variant) : Speaks (queries v) v.named where
  rules := by
    obtain ⟨named, flags, features⟩ := v
    cases named <;> cases flags <;> cases features <;> decide +kernel
  skips := skips_blanks v

/-! ### Sets of characters -/

/-- A character of a set is none outside of it. -/
theorem beq_eq_false_of {p : Char → Bool} {c d : Char} (outside : p c = false) (in_ : p d = true) :
    (c == d) = false := by
  rw [beq_eq_false_iff_ne]
  rintro rfl
  rw [outside] at in_
  cases in_

/-- A character of a set is none of some that are outside of it. -/
theorem contains_eq_false_of {p : Char → Bool} {l : List Char} {c : Char}
    (outside : ∀ b ∈ l, p b = false) (in_ : p c = true) : l.contains c = false := by
  rw [Bool.eq_false_iff]
  intro mem
  rw [outside c (List.contains_iff_mem.mp mem)] at in_
  cases in_

theorem clear_blanks {p : Char → Bool} (blank : Blank isBlank bs)
    (outside : ∀ b ∈ blanks, p b = false) (clear : Clear p tail) : Clear p (bs ++ tail) :=
  .behind blank (fun c mem => outside c (List.contains_iff_mem.mp mem)) clear

/-! ### Numbers -/

/-- The character may go on with a number. -/
def continuesNumber (c : Char) : Bool := c.isDigit || '.' == c || sameLetter 'e' c

theorem digits_taken {run : DigitRun} (clear : Clear Char.isDigit tail) :
    TakesToken g .atomic digits run.chars tail := by
  obtain ⟨d, ds, chars, digit⟩ := run.cons
  have later : ∀ c ∈ ds, CharClass.asciiDigit.holds c = true := fun c mem =>
    run.digits c (by simp [chars, mem])
  rw [chars]
  exact .seq_letter (by decide) (.letter rfl digit) (.letters (by decide) rfl later clear)

section Numbers

variable {n : NumberLiteral}

theorem clear_exponentChars {p : Char → Bool} (marks : p 'e' = false ∧ p 'E' = false)
    (clear : Clear p tail) : Clear p (n.exponentChars ++ tail) := by
  intro c head
  rcases head?_exponentChars head with rfl | rfl | head
  · exact marks.1
  · exact marks.2
  · exact clear c head

theorem clear_fractionChars (clear : Clear Char.isDigit tail) :
    Clear Char.isDigit (n.fractionChars ++ (n.exponentChars ++ tail)) := by
  intro c head
  rcases head?_fractionChars head with rfl | rfl | rfl | head
  · rfl
  · rfl
  · rfl
  · exact clear c head

theorem sign_taken (sign : Option Sign) (clear : Clear (fun c => '+' == c || '-' == c) tail) :
    TakesToken g .atomic (.opt (.choice (.literal ['+']) (.literal ['-']))) (Sign.chars sign)
      tail := by
  rcases sign with _ | _ | _
  · exact .opt_none (.letter rfl clear)
  · exact .opt (.letter rfl (by decide))
  · exact .opt (.letter rfl (by decide))

theorem exponent_taken (clear : Clear continuesNumber tail) :
    TakesToken g .atomic (.opt (.seq (.caseless ['e'])
      (.seq (.opt (.choice (.literal ['+']) (.literal ['-']))) digits))) n.exponentChars tail := by
  have stop : Clear Char.isDigit tail := clear.imp fun c h => by simp_all [continuesNumber]
  cases exponent : n.exponent with
  | none =>
    simp only [NumberLiteral.exponentChars, exponent]
    exact .opt_none (.seq (.caseless (clear.imp fun c h => by simp_all [continuesNumber])))
  | some e =>
    have mark : [e.mark].map Char.toLower = ['e'].map Char.toLower := by
      cases capital : e.capital <;> simp only [Exponent.mark, capital] <;> rfl
    have digits : Clear (fun c => '+' == c || '-' == c) (e.magnitude.chars ++ tail) := by
      obtain ⟨d, ds, chars, digit⟩ := e.magnitude.cons
      rw [chars, List.cons_append, Clear.cons, beq_eq_false_of rfl digit, beq_eq_false_of rfl digit]
      rfl
    simp only [NumberLiteral.exponentChars, exponent]
    exact .opt (.seq_letter (by decide) (.caseless mark)
      (.seq (by decide) (sign_taken e.sign digits) (digits_taken stop)))

theorem fraction_taken (clear : Clear continuesNumber tail) :
    TakesToken g .atomic (.opt (.seq (.literal ['.']) digits)) n.fractionChars
      (n.exponentChars ++ tail) := by
  have stop : Clear Char.isDigit tail := clear.imp fun c h => by simp_all [continuesNumber]
  cases fraction : n.fraction with
  | none =>
    simp only [NumberLiteral.fractionChars, fraction]
    exact .opt_none (.seq (.literal (clear_exponentChars (by decide)
      (clear.imp fun c h => by simp_all [continuesNumber]))))
  | some run =>
    simp only [NumberLiteral.fractionChars, fraction]
    exact .opt (.seq_letter (by decide) (.literal ['.'])
      (digits_taken (clear_exponentChars (by decide) stop)))

/-- A number is taken as a whole. -/
theorem Speaks.number_taken (speaks : Speaks g named) (n : NumberLiteral)
    (blanks : Blank isBlank bs)
    (clear : Clear continuesNumber (bs ++ tail)) :
    Takes g isBlank (.call "number") (n.chars ++ bs) tail (.single (Spans "number" n.chars)) := by
  refine .atomic (speaks.find? (by decide) rfl) blanks ?_
  have stop : Clear Char.isDigit (bs ++ tail) := clear.imp fun c h => by simp_all [continuesNumber]
  have sign : TakesToken g .atomic (.opt (.literal ['-'])) (if n.negative then ['-'] else [])
      (n.unsigned ++ (bs ++ tail)) := by
    cases n.negative with
    | true => exact .opt (.literal ['-'])
    | false =>
      obtain ⟨d, ds, chars, digit⟩ := n.unsigned_cons
      refine .opt_none (.literal ?_)
      rw [chars, List.cons_append, Clear.cons]
      exact beq_eq_false_of rfl digit
  have whole : TakesToken g .atomic digits n.whole.chars
      (n.fractionChars ++ n.exponentChars ++ (bs ++ tail)) := by
    rw [List.append_assoc]
    exact digits_taken (clear_fractionChars stop)
  exact .seq (by decide) sign (.seq (by decide) whole
    (.seq (by decide) (fraction_taken clear) (exponent_taken clear)))

end Numbers

/-! ### Texts -/

theorem quotedBody_taken {body : List Char} (valid : Text.Quoted.Body body) (tail : List Char) :
    TakesToken g .atomic quotedBody body ('"' :: tail) := by
  refine TokenRounds.star (by decide) ?_
  induction valid with
  | nil =>
    refine .nil (by decide) (.choice (.seq (.literal (Clear.cons.mpr (by decide)))) ?_)
    exact fun at_ => (reads_guarded rfl (by decide)).mpr rfl
  | @escaped c cs _ ih =>
    have item : TakesToken g .atomic (.seq (.literal ['\\']) (.one .any)) (['\\'] ++ [c])
        (cs ++ '"' :: tail) := .seq (by decide) (.literal _) (.letter rfl rfl)
    exact .cons (by decide) (.choice_left item) ih
  | @plain c cs quote backslash _ ih =>
    have item : TakesToken g .atomic
        (.seq (.notAhead (.choice (.literal ['"']) (.literal ['\\']))) (.one .any)) [c]
        (cs ++ '"' :: tail) :=
      .guarded (by decide) rfl (by simp [quote.symm, backslash.symm, CharClass.holds])
    have first : Fails g .atomic (.seq (.literal ['\\']) (.one .any))
        ([c] ++ (cs ++ '"' :: tail)) :=
      .seq (.literal (Clear.cons.mpr (by simp [backslash.symm])))
    exact .cons (by decide) (.choice_right first item) ih

/-- A text in quotes begins with none but the mark of quotes. -/
theorem clear_inQuotes {p : Char → Bool} {q : List Char} (quoted : Text.Quoted.InQuotes q)
    (outside : p '"' = false) (tail : List Char) : Clear p (q ++ tail) := by
  obtain ⟨body, rfl, -⟩ := quoted
  exact Clear.cons.mpr outside

/-- A text in quotes is taken as a whole by a rule for such texts. -/
theorem inQuotes_taken {rule inner : String} {blank : Char → Bool} {q : List Char}
    (found : g.find? rule = some
      ⟨rule, .compound, .seq (.literal ['"']) (.seq (.call inner) (.literal ['"']))⟩)
    (foundInner : g.find? inner = some ⟨inner, .atomic, quotedBody⟩)
    (quoted : Text.Quoted.InQuotes q) (blanks : Blank blank bs) :
    Takes g blank (.call rule) (q ++ bs) tail (.single (Spans rule q)) := by
  obtain ⟨body, rfl, valid⟩ := quoted
  have inside : TakesToken g .compound (.call inner) body (['"'] ++ (bs ++ tail)) :=
    .call_atomic foundInner (quotedBody_taken valid _)
  exact .compound found blanks
    (.seq_letter (by decide) (.literal _) (.seq (by decide) inside (.literal _)))

theorem Speaks.string_taken (speaks : Speaks g named) {q : List Char}
    (quoted : Text.Quoted.InQuotes q) (blanks : Blank isBlank bs) :
    Takes g isBlank (.call "string") (q ++ bs) tail (.single (Spans "string" q)) :=
  inQuotes_taken (speaks.find? (by decide) rfl) (speaks.find? (by decide) rfl) quoted blanks

/-! ### Field paths -/

theorem Speaks.field_name_taken (speaks : Speaks g named) {s : String} (identifier : IsIdentifier s)
    (clear : Clear continuesName tail) :
    TakesToken g .atomic (.call "field_name") s.toList tail := by
  obtain ⟨c, cs, chars, starts, continues⟩ := identifier
  rw [chars]
  exact .call_silent (speaks.find? (by decide) rfl) (by decide)
    (.seq_letter (by decide) (.letter rfl starts) (.letters (by decide) rfl continues clear))

/-- A point and a name. -/
def segment : Grammar.Expr := .seq (.literal ['.']) (.call "field_name")

theorem Speaks.segment_taken (speaks : Speaks g named) {s : String} (identifier : IsIdentifier s)
    (clear : Clear continuesName tail) : TakesToken g .atomic segment ('.' :: s.toList) tail :=
  .seq_letter (by decide) (.literal _) (speaks.field_name_taken identifier clear)

/-- The character may go on with a field path. -/
def continuesPath (c : Char) : Bool := continuesName c || '.' == c

theorem clear_segments {segments : List String} (clear : Clear continuesPath tail) :
    Clear continuesName ((segments.flatMap fun s => '.' :: s.toList) ++ tail) := by
  cases segments with
  | nil => exact clear.imp fun c h => by simp_all [continuesPath]
  | cons s rest => exact Clear.cons.mpr (by decide)

theorem Speaks.segments_taken (speaks : Speaks g named) {segments : List String}
    (identifiers : ∀ s ∈ segments, IsIdentifier s) (clear : Clear continuesPath tail) :
    TokenRounds g .atomic segment (segments.flatMap fun s => '.' :: s.toList) tail := by
  induction segments with
  | nil =>
    exact .nil (by decide) (.seq (.literal (clear.imp fun c h => by simp_all [continuesPath])))
  | cons s rest ih =>
    obtain ⟨first, later⟩ := List.forall_mem_cons.mp identifiers
    exact .cons (by decide) (speaks.segment_taken first (clear_segments clear)) (ih later)

/-- A field path begins with a point. -/
theorem IdentifierPath.clear {p : Char → Bool} (path : IdentifierPath) (outside : p '.' = false)
    (tail : List Char) : Clear p (path.path.text.toList ++ tail) := by
  obtain ⟨⟨segments⟩, nonempty, _⟩ := path
  rw [FieldPath.text_toList]
  cases segments with
  | nil => exact absurd rfl nonempty
  | cons s rest => exact Clear.cons.mpr outside

/-- A field path has only characters that may go on with one. -/
theorem IdentifierPath.continues (p : IdentifierPath) :
    ∀ c ∈ p.path.text.toList, continuesPath c = true := by
  intro c mem
  rw [FieldPath.text_toList] at mem
  obtain ⟨s, segment, part⟩ := List.mem_flatMap.mp mem
  rcases List.mem_cons.mp part with rfl | part
  · rfl
  · rw [continuesPath, (p.identifiers s segment).continues c part, Bool.true_or]

/-- The part of a path behind a word that the path begins with goes on with the path. -/
theorem goes_on {w text rest : List Char} (continues : ∀ c ∈ text, continuesPath c = true)
    (word : ∀ c ∈ w, continuesPath c = true) (clear : Clear continuesPath tail) (other : w ≠ text)
    (split : w ++ rest = text ++ tail) : ∃ c, rest.head? = some c ∧ continuesPath c = true := by
  rcases List.append_eq_append_iff.mp split with ⟨more, rfl, rfl⟩ | ⟨more, rfl, rfl⟩
  · cases more with
    | nil => simp at other
    | cons c more => exact ⟨c, rfl, continues c (by simp)⟩
  · cases more with
    | nil => simp at other
    | cons c more =>
        have stops := clear c rfl
        rw [word c (by simp)] at stops
        cases stops

/-- A field path is taken as a whole. -/
theorem Speaks.field_taken (speaks : Speaks g named) (p : IdentifierPath)
    (blanks : Blank isBlank bs)
    (clear : Clear continuesPath (bs ++ tail)) :
    Takes g isBlank (.call "field") (p.path.text.toList ++ bs) tail
      (.single (Spans "field" p.path.text.toList)) := by
  refine .atomic (speaks.find? (by decide) rfl) blanks ?_
  rw [FieldPath.text_toList]
  obtain ⟨⟨segments⟩, nonempty, identifiers⟩ := p
  cases segments with
  | nil => exact absurd rfl nonempty
  | cons s rest =>
    obtain ⟨first, later⟩ := List.forall_mem_cons.mp identifiers
    exact .seq (by decide) (speaks.segment_taken first (clear_segments clear))
      (TokenRounds.star (by decide) (speaks.segments_taken later clear))

/-! ### Operators and names -/

/-- How tightly an operator binds: sums, then products, then powers. -/
def level : Operator → Nat
  | .add | .subtract => 0
  | .multiply | .divide => 1
  | .power => 2

/-- The rule of the operators of a level. -/
def operatorRule : Nat → String
  | 0 => "shift_op"
  | 1 => "scale_op"
  | _ => "power_op"

theorem Speaks.operator_taken (speaks : Speaks g named) (op : Operator)
    (blanks : Blank isBlank bs) :
    Takes g isBlank (.call (operatorRule (level op))) (op.symbol.toList ++ bs) tail
      (.single (Spans (operatorRule (level op)) op.symbol.toList)) := by
  cases op <;>
    exact .atomic (speaks.find? (by decide) rfl) blanks (.letter rfl (by decide))

/-- A comparator as it is written. -/
structure ComparatorSign where
  text : String
  comparator : Comparator
  named : Comparator.ofSymbol? text = some comparator

theorem ComparatorSign.text_cases (s : ComparatorSign) :
    s.text ∈ ["<", ">", "<=", ">=", "=", "=="] := by
  have named := s.named
  unfold Comparator.ofSymbol? at named
  split at named <;> simp_all

/-- A comparator is taken as a whole in front of all but a further `=`. -/
theorem Speaks.comparator_taken (speaks : Speaks g named) (s : ComparatorSign)
    (blanks : Blank isBlank bs)
    (clear : Clear ('=' == ·) (bs ++ tail)) :
    Takes g isBlank (.call "comparator") (s.text.toList ++ bs) tail
      (.single (Spans "comparator" s.text.toList)) := by
  refine .atomic (speaks.find? (by decide) rfl) blanks ?_
  have cases_ := s.text_cases
  simp only [List.mem_cons, List.not_mem_nil, or_false] at cases_
  have fails {t : Char} {text : List Char} {c : Char} {cs : List Char} (other : (t == c) = false) :
      Fails g .atomic (.literal (t :: text)) (c :: cs) := .literal (Clear.cons.mpr other)
  rcases cases_ with text | text | text | text | text | text <;> rw [text]
  · exact .choice_right (.literal_pair clear) (.choice_right (fails rfl)
      (.choice_right (fails rfl) (.choice_left (.literal _))))
  · exact .choice_right (fails rfl) (.choice_right (.literal_pair clear)
      (.choice_right (fails rfl) (.choice_right (fails rfl) (.choice_left (.literal _)))))
  · exact .choice_left (.literal _)
  · exact .choice_right (fails rfl) (.choice_left (.literal _))
  · exact .choice_right (fails rfl) (.choice_right (fails rfl) (.choice_right (.literal_pair clear)
      (.choice_right (fails rfl) (.choice_right (fails rfl) (.literal _)))))
  · exact .choice_right (fails rfl) (.choice_right (fails rfl) (.choice_left (.literal _)))

theorem Speaks.comparator_fails (speaks : Speaks g named)
    (clear : ∀ {c : Char}, c ∈ ['<', '>', '='] → Clear (c == ·) tail) :
    Fails g .spaced (.call "comparator") tail := by
  have less := clear (c := '<') (by decide)
  have greater := clear (c := '>') (by decide)
  have equal := clear (c := '=') (by decide)
  exact .call_atomic (speaks.find? (by decide) rfl) (.choice (.literal less)
    (.choice (.literal greater) (.choice (.literal equal) (.choice (.literal less)
      (.choice (.literal greater) (.literal equal))))))

theorem Speaks.extremum_name_taken (speaks : Speaks g named) (side : Extreme)
    (blanks : Blank isBlank bs) :
    Takes g isBlank (.call "extremum_name") (side.word.toList ++ bs) tail
      (.single (Spans "extremum_name" side.word.toList)) := by
  refine .atomic (speaks.find? (by decide) rfl) blanks ?_
  cases side with
  | max => exact .choice_left (.literal _)
  | min => exact .choice_right (fun _ => (reads_leaf rfl).mpr rfl) (.literal _)

end Dialect.Query
