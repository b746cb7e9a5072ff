import Dialect.Proofs.Query.Tokens
import Dialect.Proofs.Template.Suffix

/-!
Directives of a single literal.

A text in quotes between braces is read as a directive, whatever stands in the quotes. Main
statements: `scan_literal` (what the quotes denote takes the place of the directive) and
`scan_refused` (if they denote nothing, the brace is copied).
-/

namespace Dialect.Template

open Grammar Text.Quoted
open Query (clear_inQuotes inQuotes_taken)

variable {custom : Additions} {q cs after tail : List Char}

/-! ### How it is read -/

theorem literal_taken (quoted : InQuotes q) (tail : List Char) :
    Takes (directives custom) isBlank (.call "literal") q tail (.single (Spans "literal" q)) := by
  have takes := @inQuotes_taken (directives custom) tail [] "literal" "literal_body" isBlank q rfl
    rfl quoted (by simp [Blank])
  rwa [List.append_nil] at takes

theorem custom_field_fails (clear : Clear ('c' == ·) cs) :
    Fails (directives .chapterTexts) .spaced (.call "custom_field") cs :=
  .call_normal rfl (by decide) (.call_atomic rfl (.seq (.literal clear)))

/-- An atom other than a chapter text. -/
def knownAtom : Expr := .choice (.call "repeated") (.choice (.call "literal") (.call "field"))

theorem find?_atom (custom : Additions) : (directives custom).find? "atom" = some ⟨"atom", .silent,
    if custom = .chapterTexts then .choice (.call "custom_field") knownAtom else knownAtom⟩ := by
  cases custom <;> rfl

/-- Literals begin with a mark of quotes, and fields with a point. -/
theorem knownAtom_fails (quote : Clear ('"' == ·) cs) (point : Clear ('.' == ·) cs) :
    Fails (directives custom) .spaced knownAtom cs := by
  have literal : Fails (directives custom) .spaced (.call "literal") cs :=
    .call_compound rfl (.seq (.literal quote))
  exact .choice (.call_normal rfl (by decide) (.seq literal))
    (.choice literal (.call_atomic rfl (.seq (.seq (.literal point)))))

/-- No atom begins with anything but a letter, a mark of quotes or a point. -/
theorem atom_fails (clear : ∀ {c : Char}, c ∈ ['c', '"', '.'] → Clear (c == ·) cs) :
    Fails (directives custom) .spaced (.call "atom") cs := by
  have known : Fails (directives custom) .spaced knownAtom cs :=
    knownAtom_fails (clear (by decide)) (clear (by decide))
  refine .call_silent (find?_atom custom) (by decide) ?_
  split
  · rename_i chapters
    subst chapters
    exact .choice (custom_field_fails (clear (by decide))) known
  · exact known

/-- What is a known atom, and does not begin like a chapter text, is an atom. -/
theorem atom_of_known {P : Shape} (known : Takes (directives custom) isBlank knownAtom cs tail P)
    (other : Clear ('c' == ·) (cs ++ tail)) :
    Takes (directives custom) isBlank (.call "atom") cs tail P := by
  refine .call_silent (find?_atom custom) (by decide) ?_
  split
  · rename_i chapters
    subst chapters
    exact .choice_right (custom_field_fails other) known
  · exact known

/-- A literal is no repeated one unless a star follows it. -/
theorem atom_taken (quoted : InQuotes q) (tight : Clear isBlank tail)
    (single : Clear ('*' == ·) tail) :
    Takes (directives custom) isBlank (.call "atom") q tail (.single (Spans "literal" q)) := by
  have literal : Takes (directives custom) isBlank (.call "literal") q tail _ :=
    literal_taken quoted tail
  have repeated : Fails (directives custom) .spaced (.call "repeated") (q ++ tail) :=
    .call_normal rfl (by decide)
      (.seq_right (skips_blanks custom) literal tight (.seq (.literal single)))
  exact atom_of_known (.choice_right repeated (.choice_left literal))
    (clear_inQuotes quoted (by decide) _)

/-- An atom that no other follows is all there is of the data. -/
theorem data_of_atom {P : Shape}
    (atom : Takes (directives custom) isBlank (.call "atom") cs tail P)
    (stops : Fails (directives custom) .spaced (.call "atom") tail) (tight : Clear isBlank tail) :
    Takes (directives custom) isBlank (.call "data") cs tail
      (.single fun n => n.rule = "data" ∧ P n.children) := by
  have rounds := Takes.seq_star (skips_blanks custom) atom
    (.nil (skips_blanks custom) stops tight) tight
  rw [List.append_nil] at rounds
  refine (Takes.call rfl (by decide) rounds).imp ?_
  rintro _ ⟨n, rfl, rule, _, _, children, shape, rfl⟩
  rw [List.append_nil] at children
  exact ⟨n, rfl, rule, children ▸ shape⟩

theorem atom_fails_brace (after : List Char) :
    Fails (directives custom) .spaced (.call "atom") ('\x7d' :: after) := by
  refine atom_fails fun mem => Clear.cons.mpr ?_
  rw [beq_eq_false_iff_ne]
  rintro rfl
  exact absurd mem (by decide)

/-- An atom up to the closing brace is the body of a directive. -/
theorem embed_of_atom {P : Shape}
    (atom : Takes (directives custom) isBlank (.call "atom") cs ('\x7d' :: after) P)
    (other : Clear ('j' == ·) (cs ++ '\x7d' :: after)) :
    Takes (directives custom) isBlank (.call "embed") cs ('\x7d' :: after)
      (.single fun n => n.rule = "data" ∧ P n.children) := by
  have join : Fails (directives custom) .spaced (.call "join") (cs ++ '\x7d' :: after) :=
    .call_normal rfl (by decide) (.seq (.literal other))
  exact .call_silent rfl (by decide) (.choice_right join
    (data_of_atom atom (atom_fails_brace after) (Clear.cons.mpr (by decide))))

/-- A body between braces is a directive. -/
theorem opens_of_embed {Q : ParseNode → Prop}
    (embed : Takes (directives custom) isBlank (.call "embed") cs ('\x7d' :: after) (.single Q))
    (tight : Clear isBlank (cs ++ '\x7d' :: after)) :
    ∃ body n, Opens custom ('\x7b' :: (cs ++ '\x7d' :: after)) body after ∧ body.nodes = [n] ∧
      Q n := by
  obtain ⟨body, between, read, rest, blanks, n, single, shape⟩ := embed (1 + Text.byteSize [])
  have whole := read.taken_append_rest rfl
  refine ⟨body, n, ⟨[], between, by simp, blanks, rest, ?_, ?_, ?_⟩, single, shape⟩
  · rw [List.nil_append, whole]
  · rw [whole]
    exact tight
  · rw [whole]
    exact read

/-- The span of such a directive is its body with the braces. -/
theorem length_braces : ('\x7b' :: (cs ++ '\x7d' :: after)).length - after.length =
    ('\x7b' :: (cs ++ ['\x7d'])).length := by
  simp only [List.length_cons, List.length_append, List.length_nil]
  omega

/-- The data of a directive that is a single literal. -/
structure Lone (q : List Char) (n : ParseNode) : Prop where
  rule : n.rule = "data"
  children : ∃ literal, n.children = [literal] ∧ Spans "literal" q literal

theorem embed_taken (quoted : InQuotes q) (after : List Char) :
    Takes (directives custom) isBlank (.call "embed") q ('\x7d' :: after) (.single (Lone q)) := by
  have atom : Takes (directives custom) isBlank (.call "atom") q ('\x7d' :: after) _ :=
    atom_taken quoted (Clear.cons.mpr (by decide)) (Clear.cons.mpr (by decide))
  refine (embed_of_atom atom (clear_inQuotes quoted (by decide) _)).imp ?_
  rintro _ ⟨n, rfl, rule, literal, children, spans⟩
  exact ⟨n, rfl, rule, literal, children, spans⟩

/-- A text in quotes between braces is a directive. -/
theorem opens_literal (custom : Additions) (quoted : InQuotes q) (after : List Char) :
    ∃ body n, Opens custom ('\x7b' :: (q ++ '\x7d' :: after)) body after ∧ body.nodes = [n] ∧
      Lone q n :=
  opens_of_embed (embed_taken quoted after) (clear_inQuotes quoted (by decide) _)

/-! ### What is made of it -/

theorem generatedOf_lone {v : Vocabulary} {record : Value} {n : ParseNode} (lone : Lone q n) :
    generatedOf v record n =
      (unquote (String.ofList q)).map fun s => .concat [.constant s] := by
  obtain ⟨_, text, start, stop, _⟩ := n
  obtain ⟨rfl, ⟨_, _, start', stop', children⟩, rfl, rfl, rfl⟩ := lone
  unfold generatedOf
  change (generatedAll v record [_]).map Generated.concat = _
  unfold generatedAll generatedOf
  change ((unquote (String.ofList q)).map Generated.constant >>= fun g =>
    pure [g]).map Generated.concat = _
  cases unquote (String.ofList q) with
  | ok s => rfl
  | error fault => rfl

variable {engine : Engine} {record : Value}

/-- A text in quotes between braces stands for what the quotes denote. -/
theorem directive_literal (parser : engine.parser = (directives custom).parse "directive")
    (quoted : InQuotes q) (after : List Char) :
    engine.directive record ('\x7b' :: (q ++ '\x7d' :: after)) =
      .ok ((decode q).map fun s => ⟨String.ofList s, ('\x7b' :: (q ++ ['\x7d'])).length⟩) := by
  obtain ⟨body, n, opens, single, lone⟩ := opens_literal custom quoted after
  rw [directive_eq parser opens single, length_braces, outcome, generatedOf_lone lone, unquote,
    String.toList_ofList]
  cases decode q with
  | none => rfl
  | some s => rfl

/-- What the quotes denote takes the place of the directive. -/
theorem scan_literal (parser : engine.parser = (directives custom).parse "directive")
    (quoted : InQuotes q) {s : List Char} (denotes : decode q = some s) (after : List Char) :
    engine.scan record 0 ('\x7b' :: (q ++ '\x7d' :: after)) =
      (engine.scan record 0 after).map (s ++ ·) := by
  have whole : '\x7b' :: (q ++ '\x7d' :: after) = '\x7b' :: (q ++ ['\x7d']) ++ after := by simp
  have found := @directive_literal custom q engine record parser quoted after
  rw [denotes, whole] at found
  rw [whole, scan_directive found rfl, String.toList_ofList]

/-- A brace that opens no directive is copied. -/
theorem scan_brace {cs : List Char} (none : engine.directive record ('\x7b' :: cs) = .ok none) :
    engine.scan record 0 ('\x7b' :: cs) = (engine.scan record 0 cs).map ('\x7b' :: ·) := by
  rw [Engine.scan, if_pos rfl, none]
  rfl

/-- If the quotes denote nothing, the brace is copied. -/
theorem scan_refused (parser : engine.parser = (directives custom).parse "directive")
    (quoted : InQuotes q) (nothing : decode q = none) (after : List Char) :
    engine.scan record 0 ('\x7b' :: (q ++ '\x7d' :: after)) =
      (engine.scan record 0 (q ++ '\x7d' :: after)).map ('\x7b' :: ·) := by
  have refused := @directive_literal custom q engine record parser quoted after
  rw [nothing] at refused
  exact scan_brace refused

/-- The text between braces. -/
def inBraces (q : List Char) : String := String.ofList ('\x7b' :: (q ++ ['\x7d']))

theorem render_literal (parser : engine.parser = (directives custom).parse "directive")
    (quoted : InQuotes q) {s : List Char} (denotes : decode q = some s) (record : Value) :
    engine.render (inBraces q) record =
      .ok (String.ofList (if engine.consistentQuotes then s.map plainQuote else s)) := by
  have output := @scan_literal custom q engine record parser quoted s denotes []
  rw [Engine.render, inBraces, String.toList_ofList, output]
  simp [Engine.scan, Except.map, bind, Except.bind, pure, Except.pure]

theorem render_refused (parser : engine.parser = (directives custom).parse "directive")
    (quoted : InQuotes q) (nothing : decode q = none) (record : Value) :
    engine.render (inBraces q) record =
      (engine.render (String.ofList (q ++ ['\x7d'])) record).map ("\x7b" ++ ·) := by
  have output := @scan_refused custom q engine record parser quoted nothing []
  have brace : plainQuote '\x7b' = '\x7b' := by decide
  rw [Engine.render, inBraces, String.toList_ofList, output, Engine.render, String.toList_ofList]
  cases engine.scan record 0 (q ++ ['\x7d']) with
  | error fault => rfl
  | ok rest =>
      cases quotes : engine.consistentQuotes <;>
        simp [Except.map, bind, Except.bind, pure, Except.pure, brace, String.ofList_cons]

end Dialect.Template
