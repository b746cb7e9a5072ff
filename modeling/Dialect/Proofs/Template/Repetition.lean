import Dialect.Proofs.Template.Acceptance
import Dialect.Proofs.Template.Literals
import Dialect.Proofs.Template.Scanning

/-!
Directives of a repeated literal.

A text in quotes, a star and a count between braces stand for the text so many times over, as long
as the count fits a machine word and the copies keep within the limit of bytes. The product of the
two is the one of natural numbers, so that nothing wraps around. Otherwise the brace is copied and
what stands behind it is scanned like any other text. Main statements: `directive_repeated`,
`scan_repeated`, `render_repetition`.
-/

namespace Dialect.Template

open Grammar Text.Quoted
open Query (clear_inQuotes inQuotes_taken DigitRun QuotedLiteral)

variable {custom : Additions} {q cs after tail : List Char} {count : DigitRun}

/-! ### How it is read -/

/-- The data of a directive that is a single repeated literal. -/
structure Repeats (q : List Char) (count : DigitRun) (n : ParseNode) : Prop where
  rule : n.rule = "data"
  children : ∃ times literal number, n.children = [times] ∧ times.rule = "repeated" ∧
    times.children = [literal, number] ∧ Spans "literal" q literal ∧
    Spans "count" count.chars number

theorem count_taken (clear : Clear Char.isDigit tail) :
    Takes (directives custom) isBlank (.call "count") count.chars tail
      (.single (Spans "count" count.chars)) := by
  have takes := @Takes.atomic (directives custom) isBlank tail count.chars "count" Query.digits []
    rfl (by simp [Blank]) (Query.digits_taken clear)
  rwa [List.append_nil] at takes

/-- A repeated literal between its marks of quotes and its last digit. -/
def repeatedChars (q : List Char) (count : DigitRun) : List Char :=
  q ++ ' ' :: '*' :: ' ' :: count.chars

theorem repeated_taken (quoted : InQuotes q) (clear : Clear Char.isDigit tail) :
    Takes (directives custom) isBlank (.call "repeated") (repeatedChars q count) tail
      (.single fun n => n.rule = "repeated" ∧ ∃ literal number, n.children = [literal, number] ∧
        Spans "literal" q literal ∧ Spans "count" count.chars number) := by
  have skips := skips_blanks custom
  have blank : Blank isBlank [' '] := by simp [Blank, isBlank]
  obtain ⟨d, ds, chars, digit⟩ := count.cons
  have tight : Clear isBlank (count.chars ++ tail) := by
    rw [chars]
    refine Clear.cons.mpr ?_
    by_contra blankDigit
    obtain rfl : d = ' ' := by simpa [isBlank] using blankDigit
    cases digit
  have literal : Takes (directives custom) isBlank (.call "literal") (q ++ [' '])
      (['*'] ++ [' '] ++ count.chars ++ tail) (.single (Spans "literal" q)) :=
    inQuotes_taken rfl rfl quoted blank
  have star : Takes (directives custom) isBlank (.literal ['*']) (['*'] ++ [' '])
      (count.chars ++ tail) .none := .literal _ blank
  have behind := star.seq skips (count_taken clear) tight
  have whole := literal.seq skips behind (Clear.cons.mpr (by decide))
  have text : q ++ [' '] ++ (['*'] ++ [' '] ++ count.chars) = repeatedChars q count := by
    simp [repeatedChars]
  rw [text] at whole
  refine (Takes.call rfl (by decide) whole).imp ?_
  rintro _ ⟨n, rfl, rule, _, _, children, ⟨lit, rfl, spans⟩, _, _, rfl, rfl, number, rfl, spans'⟩
  exact ⟨n, rfl, rule, lit, number, children, spans, spans'⟩

/-- A repeated literal between braces is a directive. -/
theorem opens_repeated (custom : Additions) (quoted : InQuotes q) (count : DigitRun)
    (after : List Char) :
    ∃ body n, Opens custom ('\x7b' :: (repeatedChars q count ++ '\x7d' :: after)) body after ∧
      body.nodes = [n] ∧ Repeats q count n := by
  have start {p : Char → Bool} (outside : p '"' = false) :
      Clear p (repeatedChars q count ++ '\x7d' :: after) := by
    rw [repeatedChars, List.append_assoc]
    exact clear_inQuotes quoted outside _
  have known : Takes (directives custom) isBlank knownAtom (repeatedChars q count)
      ('\x7d' :: after) _ := .choice_left (repeated_taken quoted (Clear.cons.mpr (by decide)))
  have embed := embed_of_atom (atom_of_known known (start (by decide))) (start (by decide))
  refine opens_of_embed (embed.imp ?_) (start (by decide))
  rintro _ ⟨n, rfl, rule, times, children, timesRule, literal, number, both, spans, spans'⟩
  exact ⟨n, rfl, rule, times, literal, number, children, timesRule, both, spans, spans'⟩

/-! ### What is made of it -/

/-- So many copies of a text are allowed: their number fits a word of 64 bits, and together they
take no more than 1 MiB. -/
def Allowed (s : String) (n : Nat) : Prop :=
  n < Nat.pow 2 64 ∧ s.utf8ByteSize * n ≤ Nat.pow 2 20

instance (s : String) (n : Nat) : Decidable (Allowed s n) := inferInstanceAs (Decidable (_ ∧ _))

/-- The limit is one of bytes: 524288 copies of a letter that takes two of them reach it. -/
example : Allowed "\u00e9" 524288 ∧ ¬Allowed "\u00e9" 524289 := by decide

/-- An empty text may be copied as often as a word can say. -/
theorem allowed_empty {n : Nat} (fits : n < Nat.pow 2 64) : Allowed "" n := by
  refine ⟨fits, ?_⟩
  rw [String.utf8ByteSize_empty, Nat.zero_mul]
  exact Nat.zero_le _

/-- The copies of a text. -/
def copies (s : String) (n : Nat) : String := String.join (List.replicate n s)

theorem repeatText_eq_copies (s : String) (n : Nat) : repeatText s n = copies s n := by
  apply String.toList_injective
  rw [copies, String.toList_join]
  unfold repeatText
  by_cases empty : s.isEmpty = true
  · rw [String.isEmpty_iff] at empty
    subst empty
    simp
  · rw [if_neg empty, String.toList_ofList, List.flatMap, List.map_replicate]

theorem copies_empty (n : Nat) : copies "" n = "" := by
  rw [← repeatText_eq_copies]
  rfl

section

variable {literal number n : ParseNode} {q : QuotedLiteral} {v : Vocabulary} {record : Value}

/-- A repeated literal stands for its copies, if they are allowed. -/
theorem repeated_allowed (quoted : Spans "literal" q.chars literal)
    (digits : Spans "count" count.chars number)
    (allowed : Allowed q.value (Decimal.natOfDigits count.chars)) :
    repeated literal number =
      .ok (.constant (copies q.value (Decimal.natOfDigits count.chars))) := by
  have read := @readCount_of_run number.text count (by rw [digits.2, String.toList_ofList])
  have within : Text.byteSize q.value.toList * Decimal.natOfDigits count.chars ≤
      maxRepeatedBytes := by
    rw [Text.byteSize_toList]
    exact allowed.2
  have fits : Decimal.natOfDigits count.chars < Word.count64 := allowed.1
  rw [if_pos fits] at read
  unfold repeated
  rw [read, quoted.2, q.unquote_chars, ← repeatText_eq_copies]
  exact if_pos within

/-- Otherwise it is refused: for a count that does not fit, or for too many bytes. -/
theorem repeated_disallowed (quoted : Spans "literal" q.chars literal)
    (digits : Spans "count" count.chars number)
    (disallowed : ¬Allowed q.value (Decimal.natOfDigits count.chars)) :
    ∃ refusal, repeated literal number = .error (.parse refusal) := by
  have read := @readCount_of_run number.text count (by rw [digits.2, String.toList_ofList])
  unfold repeated
  by_cases fits : Decimal.natOfDigits count.chars < Word.count64
  · have beyond : ¬Text.byteSize q.value.toList * Decimal.natOfDigits count.chars ≤
        maxRepeatedBytes := by
      rw [Text.byteSize_toList]
      exact fun within => disallowed ⟨fits, within⟩
    rw [if_pos fits] at read
    rw [read, quoted.2, q.unquote_chars]
    exact ⟨_, if_neg beyond⟩
  · rw [if_neg fits] at read
    rw [read]
    exact ⟨_, rfl⟩

theorem generatedOf_repeats (repeats : Repeats q.chars count n) :
    ∃ literal number, Spans "literal" q.chars literal ∧ Spans "count" count.chars number ∧
      generatedOf v record n = (repeated literal number).map fun g => .concat [g] := by
  obtain ⟨_, text, start, stop, _⟩ := n
  obtain ⟨rfl, ⟨_, text', start', stop', _⟩, literal, number, rfl, rfl, rfl, quoted, digits⟩ :=
    repeats
  refine ⟨literal, number, quoted, digits, ?_⟩
  unfold generatedOf
  change (generatedAll v record [_]).map Generated.concat = _
  unfold generatedAll generatedOf
  change (repeated literal number >>= fun g => pure [g]).map Generated.concat = _
  cases repeated literal number with
  | ok g => rfl
  | error fault => rfl

end

section

variable {engine : Engine} {record : Value}

/-- A repeated literal between braces stands for its copies; if they are not allowed there is no
directive. -/
theorem directive_repeated (parser : engine.parser = (directives custom).parse "directive")
    (q : QuotedLiteral) (count : DigitRun) (after : List Char) :
    engine.directive record ('\x7b' :: (repeatedChars q.chars count ++ '\x7d' :: after)) =
      .ok (if Allowed q.value (Decimal.natOfDigits count.chars) then
        some ⟨copies q.value (Decimal.natOfDigits count.chars),
          ('\x7b' :: (repeatedChars q.chars count ++ ['\x7d'])).length⟩
      else none) := by
  obtain ⟨body, n, opens, single, repeats⟩ := opens_repeated custom q.inQuotes count after
  obtain ⟨literal, number, quoted, digits, made⟩ := generatedOf_repeats repeats
  rw [directive_eq parser opens single, length_braces, outcome, made]
  by_cases allowed : Allowed q.value (Decimal.natOfDigits count.chars)
  · rw [if_pos allowed, repeated_allowed quoted digits allowed]
    rfl
  · obtain ⟨refusal, refused⟩ := repeated_disallowed quoted digits allowed
    rw [if_neg allowed, refused]
    rfl

/-- The copies take the place of the directive, or its brace is copied. -/
theorem scan_repeated (parser : engine.parser = (directives custom).parse "directive")
    (q : QuotedLiteral) (count : DigitRun) (after : List Char) :
    engine.scan record 0 ('\x7b' :: (repeatedChars q.chars count ++ '\x7d' :: after)) =
      if Allowed q.value (Decimal.natOfDigits count.chars) then
        (engine.scan record 0 after).map
          ((copies q.value (Decimal.natOfDigits count.chars)).toList ++ ·)
      else
        (engine.scan record 0 (repeatedChars q.chars count ++ '\x7d' :: after)).map
          ('\x7b' :: ·) := by
  have found := @directive_repeated custom engine record parser q count after
  by_cases allowed : Allowed q.value (Decimal.natOfDigits count.chars)
  · have whole : '\x7b' :: (repeatedChars q.chars count ++ '\x7d' :: after) =
        '\x7b' :: (repeatedChars q.chars count ++ ['\x7d']) ++ after := by simp
    rw [if_pos allowed, whole] at found
    rw [if_pos allowed, whole, scan_directive found rfl]
  · rw [if_neg allowed] at found
    rw [if_neg allowed, scan_brace found]

end

/-- A repeated literal as it is written in a template, from behind its opening brace. -/
def repetition (q : QuotedLiteral) (count : DigitRun) : String :=
  String.ofList q.chars ++ " * " ++ String.ofList count.chars ++ "\x7d"

theorem repetition_toList (q : QuotedLiteral) (count : DigitRun) (t : String) :
    (repetition q count ++ t).toList = repeatedChars q.chars count ++ '\x7d' :: t.toList := by
  have star : " * ".toList = [' ', '*', ' '] := rfl
  have brace : "\x7d".toList = ['\x7d'] := rfl
  simp only [repetition, repeatedChars, String.toList_append, String.toList_ofList, star, brace,
    List.append_assoc, List.cons_append, List.nil_append]

/-- A template that begins with a repeated literal. -/
theorem render_repeated {engine : Engine}
    (parser : engine.parser = (directives custom).parse "directive")
    (quotes : engine.consistentQuotes = false) (q : QuotedLiteral) (count : DigitRun)
    (record : Value) (t : String) :
    engine.render ("\x7b" ++ repetition q count ++ t) record =
      if Allowed q.value (Decimal.natOfDigits count.chars) then
        (engine.render t record).map (copies q.value (Decimal.natOfDigits count.chars) ++ ·)
      else (engine.render (repetition q count ++ t) record).map ("\x7b" ++ ·) := by
  have text (cs : String) : engine.render cs record =
      (engine.scan record 0 cs.toList).map String.ofList := by
    rw [render_eq, quotes]
    rfl
  have start : ("\x7b" ++ repetition q count ++ t).toList =
      '\x7b' :: (repeatedChars q.chars count ++ '\x7d' :: t.toList) := by
    rw [String.append_assoc, String.toList_append, repetition_toList]
    rfl
  rw [text, text, text, start, scan_repeated parser, repetition_toList]
  by_cases allowed : Allowed q.value (Decimal.natOfDigits count.chars)
  · rw [if_pos allowed, if_pos allowed]
    cases engine.scan record 0 t.toList with
    | error fault => rfl
    | ok output => simp [Except.map, String.ofList_append]
  · rw [if_neg allowed, if_neg allowed]
    cases engine.scan record 0 (repeatedChars q.chars count ++ '\x7d' :: t.toList) with
    | error fault => rfl
    | ok output => simp [Except.map, String.ofList_cons]

/-- Repeated literals are exact and bounded. The engine without additions renders one as its copies,
as long as they are allowed: the count, of any number of digits, is below `2 ^ 64`, and the bytes of
the text times the count are at most `2 ^ 20`, as natural numbers. Otherwise it copies the brace and
renders all that stands behind it. An empty text is allowed every count that fits. In front of a
text without an opening brace the output is the copies and that text; and where there is no such
brace but the one of the refused directive, the template stays as it is. -/
theorem render_repetition (capabilities : Capabilities) :
    ∃ engine, Engine.withCapabilities .plain capabilities = .ok engine ∧
      engine.consistentQuotes = false ∧
      ∀ (q : QuotedLiteral) (count : DigitRun) (record : Value) (t : String),
        engine.render ("\x7b" ++ repetition q count ++ t) record =
          (if Decimal.natOfDigits count.chars < Nat.pow 2 64 ∧
              q.value.utf8ByteSize * Decimal.natOfDigits count.chars ≤ Nat.pow 2 20 then
            (engine.render t record).map fun rendered =>
              String.join (List.replicate (Decimal.natOfDigits count.chars) q.value) ++ rendered
          else
            (engine.render (repetition q count ++ t) record).map ("\x7b" ++ ·)) ∧
        (q.value = "" → Decimal.natOfDigits count.chars < Nat.pow 2 64 →
          engine.render ("\x7b" ++ repetition q count ++ t) record = engine.render t record) ∧
        (Decimal.natOfDigits count.chars < Nat.pow 2 64 ∧
            q.value.utf8ByteSize * Decimal.natOfDigits count.chars ≤ Nat.pow 2 20 →
          '\x7b' ∉ t.toList →
            engine.render ("\x7b" ++ repetition q count ++ t) record =
              .ok (String.join (List.replicate (Decimal.natOfDigits count.chars) q.value) ++ t)) ∧
        (¬ (Decimal.natOfDigits count.chars < Nat.pow 2 64 ∧
            q.value.utf8ByteSize * Decimal.natOfDigits count.chars ≤ Nat.pow 2 20) →
          '\x7b' ∉ (repetition q count ++ t).toList →
            engine.render ("\x7b" ++ repetition q count ++ t) record =
              .ok ("\x7b" ++ (repetition q count ++ t))) := by
  refine ⟨plainEngine, withCapabilities_plain capabilities, rfl, ?_⟩
  intro q count record t
  have rendered := @render_repeated .absent plainEngine rfl rfl q count record t
  refine ⟨rendered, ?_, ?_, ?_⟩
  · intro empty fits
    rw [rendered, empty, if_pos (allowed_empty fits), copies_empty]
    cases plainEngine.render t record with
    | error fault => rfl
    | ok output => simp [Except.map]
  · intro (allowed : Allowed q.value _) plain
    rw [rendered, if_pos allowed, render_copied rfl record plain]
    rfl
  · intro (disallowed : ¬Allowed q.value _) plain
    rw [rendered, if_neg disallowed, render_copied rfl record plain]
    rfl

/-- Three dashes in front of a full stop; an empty text is refused for a count that fits no word. -/
theorem render_repetition_dashes :
    ∃ engine, Engine.withCapabilities .plain .none = .ok engine ∧
      engine.render "\x7b\"-\" * 3\x7d." .null = .ok "---." ∧
      engine.render "\x7b\"\" * 18446744073709551616\x7d." .null =
        .ok "\x7b\"\" * 18446744073709551616\x7d." := by
  obtain ⟨engine, made, -, renders⟩ := render_repetition .none
  obtain ⟨-, -, copied, -⟩ := renders (.of "-") ⟨['3'], by decide, by decide⟩ .null "."
  obtain ⟨-, -, -, refused⟩ :=
    renders (.of "") ⟨"18446744073709551616".toList, by decide, by decide⟩ .null "."
  exact ⟨engine, made, copied (by decide) (by decide), refused (by decide) (by decide)⟩

end Dialect.Template
