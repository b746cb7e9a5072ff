import Dialect.Proofs.Sequence
import Dialect.Proofs.Template.Suffix

/-!
How scanning cuts a template.

A `Cut` is a template taken apart: copied texts with directives between them. It holds for an engine
if every attempt at a directive turns out as the cut says. Main statement: `render_cut` (a template
is rendered to the output of its cut, or fails with the first attempt that fails).

Nothing is asked of the parser. Whatever nodes it gives, a span is a beginning of the text that was
tried, and ends with a brace.
-/

namespace Dialect.Template

variable {engine : Engine} {record : Value} {cs following tail : List Char}

/-! ### Spans -/

theorem throughLastBrace_eq_none : throughLastBrace cs = none ↔ '\x7d' ∉ cs := by
  induction cs with
  | nil => simp [throughLastBrace]
  | cons c rest ih =>
    rw [throughLastBrace, List.mem_cons, not_or, ← ih]
    cases throughLastBrace rest with
    | none => simp [eq_comm]
    | some n => simp

/-- The count of characters through the last brace is that of a text which ends with it. -/
theorem throughLastBrace_eq_some {n : Nat} :
    throughLastBrace cs = some n ↔
      ∃ before behind, cs = before ++ '\x7d' :: behind ∧ '\x7d' ∉ behind ∧
        before.length + 1 = n := by
  constructor
  · intro found
    induction cs generalizing n with
    | nil => cases found
    | cons c rest ih =>
      rw [throughLastBrace] at found
      split at found
      · next m later =>
        obtain ⟨before, behind, rfl, last, rfl⟩ := ih later
        cases found
        exact ⟨c :: before, behind, rfl, last, rfl⟩
      · next none =>
        split at found
        · next brace =>
          cases found
          exact ⟨[], rest, by rw [brace]; rfl, throughLastBrace_eq_none.mp none, rfl⟩
        · cases found
  · rintro ⟨before, behind, rfl, last, rfl⟩
    exact throughLastBrace_append last

/-- What is recognised was parsed, and spans what its node does. -/
theorem exists_span_of_directive {engine : Engine} {record : Value} {found : Recognised}
    (recognised : engine.directive record cs = .ok (some found)) :
    ∃ nodes root, engine.parser (String.ofList cs) = .ok nodes ∧
      nodes.find? (fun n => n.is "directive") = some root ∧
      Engine.spanOf? root cs = some found.span := by
  unfold Engine.directive at recognised
  split at recognised
  · cases recognised
  · next nodes parsed =>
    split at recognised
    · cases recognised
    · next root first =>
      split at recognised
      · next span body spans _ =>
        refine ⟨nodes, root, parsed, first, ?_⟩
        split at recognised
        · obtain ⟨value, -, same⟩ := map_eq_ok.mp recognised
          rw [spans, ← Option.some.inj same]
        · cases recognised
        · cases recognised
      · cases recognised

/-- A directive spans a beginning of the text that was tried, through a closing brace. -/
theorem span_of_directive {found : Recognised}
    (recognised : engine.directive record cs = .ok (some found)) :
    ∃ span rest, cs = span ++ rest ∧ span.length = found.span ∧ span.getLast? = some '\x7d' := by
  obtain ⟨_, root, -, -, spans⟩ := exists_span_of_directive recognised
  have within : ∃ before, before <+: cs ∧ throughLastBrace before = some found.span := by
    unfold Engine.spanOf? at spans
    split at spans
    · exact ⟨_, Text.takeBytes_prefix _ _, spans⟩
    · exact ⟨cs, List.prefix_rfl, spans⟩
  obtain ⟨_, ⟨rest, rfl⟩, through⟩ := within
  obtain ⟨before, behind, rfl, -, length⟩ := throughLastBrace_eq_some.mp through
  exact ⟨before ++ ['\x7d'], behind ++ rest, by simp, by simp [length], by simp⟩

/-! ### Cuts -/

/-- A template taken apart: copied texts, with directives between them that give way to values. -/
inductive Cut where
  | copied (text : List Char)
  | directive (before span : List Char) (value : String) (rest : Cut)

namespace Cut

/-- The template. -/
def text : Cut → List Char
  | copied l => l
  | directive l span _ rest => l ++ (span ++ rest.text)

/-- The template with the values in the place of the directives. -/
def output : Cut → List Char
  | copied l => l
  | directive l _ value rest => l ++ (value.toList ++ rest.output)

/-- At no brace of the text, which stands in front of `following`, is a directive found. -/
def Copied (engine : Engine) (record : Value) (l following : List Char) : Prop :=
  ∀ before behind, l = before ++ '\x7b' :: behind →
    engine.directive record ('\x7b' :: (behind ++ following)) = .ok none

/-- The attempts in a template that is cut and stands in front of `tail` turn out as the cut says:
at no brace of a copied text is a directive found, and where a directive stands, which is a text in
braces, its value and its span are found. -/
def Holds (engine : Engine) (record : Value) (tail : List Char) : Cut → Prop
  | copied l => Copied engine record l tail
  | directive l span value rest =>
    Copied engine record l (span ++ (rest.text ++ tail)) ∧
      span.head? = some '\x7b' ∧ span.getLast? = some '\x7d' ∧
      engine.directive record (span ++ (rest.text ++ tail)) = .ok (some ⟨value, span.length⟩) ∧
      rest.Holds engine record tail

/-- The cut of a text with one more character in front. -/
def push (c : Char) : Cut → Cut
  | copied l => copied (c :: l)
  | directive l span value rest => directive (c :: l) span value rest

@[simp] theorem text_push (c : Char) (cut : Cut) : (cut.push c).text = c :: cut.text := by
  cases cut <;> rfl

theorem copied_nil : Copied engine record [] following := by
  intro before behind split
  cases before <;> cases split

theorem Copied.push {l : List Char} {c : Char} (copied : Copied engine record l following)
    (here : c = '\x7b' → engine.directive record (c :: (l ++ following)) = .ok none) :
    Copied engine record (c :: l) following := by
  intro before behind split
  cases before with
  | nil =>
    obtain ⟨rfl, rfl⟩ := List.cons.inj split
    exact here rfl
  | cons b before => exact copied before behind (List.cons.inj split).2

theorem Holds.push {cut : Cut} {c : Char} (holds : cut.Holds engine record tail)
    (here : c = '\x7b' → engine.directive record (c :: (cut.text ++ tail)) = .ok none) :
    (cut.push c).Holds engine record tail := by
  cases cut with
  | copied l => exact Copied.push holds here
  | directive l span value rest =>
    obtain ⟨copied, opens, closes, found, later⟩ := holds
    refine ⟨copied.push fun brace => ?_, opens, closes, found, later⟩
    simpa [text] using here brace

/-! ### Scanning along a cut -/

theorem Copied.scan {l : List Char} (copied : Copied engine record l following) :
    engine.scan record 0 (l ++ following) = (engine.scan record 0 following).map (l ++ ·) := by
  induction l with
  | nil =>
    rw [List.nil_append]
    cases engine.scan record 0 following <;> rfl
  | cons c l ih =>
    have later := ih fun before behind split => copied (c :: before) behind (by rw [split]; rfl)
    rw [List.cons_append, Engine.scan, later]
    split
    · next brace =>
      subst brace
      rw [copied [] l rfl]
      cases engine.scan record 0 following <;> rfl
    · cases engine.scan record 0 following <;> rfl

theorem Holds.scan {cut : Cut} (holds : cut.Holds engine record tail) :
    engine.scan record 0 (cut.text ++ tail) =
      (engine.scan record 0 tail).map (cut.output ++ ·) := by
  induction cut with
  | copied l => exact Copied.scan holds
  | directive l span value rest ih =>
    obtain ⟨copied, opens, -, found, later⟩ := holds
    rw [text, List.append_assoc, List.append_assoc, copied.scan, scan_directive found opens,
      ih later]
    cases engine.scan record 0 tail <;> simp [Except.map, output]

/-- The cut is that of a text up to its end, or up to a tail where an attempt fails. -/
structure Reaches (engine : Engine) (record : Value) (cs tail : List Char) (cut : Cut) : Prop where
  split : cs = cut.text ++ tail
  holds : cut.Holds engine record tail
  ends : tail = [] ∨ ∃ rest fault, tail = '\x7b' :: rest ∧
    engine.directive record tail = .error fault

theorem Reaches.push {cut : Cut} {c : Char} (reaches : cut.Reaches engine record cs tail)
    (here : c = '\x7b' → engine.directive record (c :: cs) = .ok none) :
    (cut.push c).Reaches engine record (c :: cs) tail where
  split := by simp [reaches.split]
  holds := reaches.holds.push (reaches.split ▸ here)
  ends := reaches.ends

/-- A directive in front of the text. -/
theorem Reaches.directive {cut : Cut} {span : List Char} {value : String}
    (reaches : cut.Reaches engine record cs tail) (opens : span.head? = some '\x7b')
    (closes : span.getLast? = some '\x7d')
    (found : engine.directive record (span ++ cs) = .ok (some ⟨value, span.length⟩)) :
    (Cut.directive [] span value cut).Reaches engine record (span ++ cs) tail where
  split := by simp [text, reaches.split]
  holds := ⟨copied_nil, opens, closes, by rw [← reaches.split, found], reaches.holds⟩
  ends := reaches.ends

/-- Every text has a cut up to its end or to the first attempt that fails. The recursion is on the
text behind a copied character, or behind a whole directive. -/
theorem exists_cut (engine : Engine) (record : Value) : ∀ cs : List Char,
    ∃ (cut : Cut) (tail : List Char), cut.Reaches engine record cs tail
  | [] => ⟨.copied [], [], rfl, copied_nil, .inl rfl⟩
  | c :: rest => by
    have pushed (here : c = '\x7b' → engine.directive record (c :: rest) = .ok none) :
        ∃ (cut : Cut) (tail : List Char), cut.Reaches engine record (c :: rest) tail := by
      obtain ⟨cut, tail, reaches⟩ := exists_cut engine record rest
      exact ⟨cut.push c, tail, reaches.push here⟩
    by_cases brace : c = '\x7b'
    · cases attempt : engine.directive record (c :: rest) with
      | error fault =>
        exact ⟨.copied [], c :: rest, rfl, copied_nil, .inr ⟨rest, fault, by rw [brace], attempt⟩⟩
      | ok found =>
        cases found with
        | none => exact pushed fun _ => attempt
        | some found =>
          obtain ⟨span, behind, split, length, closes⟩ := span_of_directive attempt
          have shorter : behind.length < (c :: rest).length := by
            have some : 0 < span.length := by cases span <;> simp at closes ⊢
            rw [split, List.length_append]
            omega
          have opens : span.head? = some '\x7b' := by
            cases span with
            | nil => cases closes
            | cons d span => rw [← brace, (List.cons.inj split).1]; rfl
          obtain ⟨cut, tail, reaches⟩ := exists_cut engine record behind
          rw [split] at attempt ⊢
          exact ⟨_, tail, reaches.directive opens closes (by rw [attempt, length])⟩
    · exact pushed fun here => absurd here brace
termination_by cs => cs.length
decreasing_by
  · exact Nat.lt_succ_self _
  · exact shorter

end Cut

/-! ### Rendering -/

theorem render_eq (engine : Engine) (template : String) (record : Value) :
    engine.render template record = (engine.scan record 0 template.toList).map fun output =>
      String.ofList (if engine.consistentQuotes then output.map plainQuote else output) := by
  unfold Engine.render
  cases engine.scan record 0 template.toList <;> rfl

/-- A template without an opening brace stays as it is. -/
theorem render_copied {engine : Engine} (quotes : engine.consistentQuotes = false) (record : Value)
    {t : String} (plain : '\x7b' ∉ t.toList) : engine.render t record = .ok t := by
  have scanned := scan_copied engine record plain []
  rw [List.append_nil] at scanned
  rw [render_eq, scanned, quotes]
  simp [Engine.scan, Except.map]

namespace Cut

variable {cut : Cut} {template : String}

theorem Holds.render (holds : cut.Holds engine record []) (split : template.toList = cut.text) :
    engine.render template record = .ok (String.ofList
      (if engine.consistentQuotes then cut.output.map plainQuote else cut.output)) := by
  have scanned := holds.scan
  rw [List.append_nil, ← split, Engine.scan] at scanned
  rw [render_eq, scanned]
  simp [Except.map]

theorem Holds.render_error {rest : List Char} {fault : Error}
    (holds : cut.Holds engine record ('\x7b' :: rest))
    (split : template.toList = cut.text ++ '\x7b' :: rest)
    (fails : engine.directive record ('\x7b' :: rest) = .error fault) :
    engine.render template record = .error fault := by
  have here : engine.scan record 0 ('\x7b' :: rest) = .error fault := by
    rw [Engine.scan, if_pos rfl, fails]
    rfl
  rw [render_eq, split, holds.scan, here]
  rfl

end Cut

/-- Rendering takes a template apart without loss or repetition. It succeeds exactly if the template
has a cut, and then gives the output of the cut, with plain quotes if the engine is asked for them.
It fails exactly if a beginning of the template has a cut behind which an attempt fails, and then
fails as this attempt does, the first from the left. -/
theorem render_cut (engine : Engine) (record : Value) (template : String) :
    (∀ text, engine.render template record = .ok text ↔
      ∃ cut : Cut, template.toList = cut.text ∧ cut.Holds engine record [] ∧
        text = String.ofList
          (if engine.consistentQuotes then cut.output.map plainQuote else cut.output)) ∧
    (∀ fault, engine.render template record = .error fault ↔
      ∃ (cut : Cut) (rest : List Char), template.toList = cut.text ++ '\x7b' :: rest ∧
        cut.Holds engine record ('\x7b' :: rest) ∧
        engine.directive record ('\x7b' :: rest) = .error fault) := by
  obtain ⟨cut, tail, split, holds, ends⟩ := Cut.exists_cut engine record template.toList
  constructor
  · intro text
    constructor
    · intro rendered
      rcases ends with rfl | ⟨rest, fault, rfl, fails⟩
      · rw [List.append_nil] at split
        exact ⟨cut, split, holds, Except.ok.inj (rendered.symm.trans (holds.render split))⟩
      · cases rendered.symm.trans (holds.render_error split fails)
    · rintro ⟨cut, split, holds, rfl⟩
      exact holds.render split
  · intro fault
    constructor
    · intro failed
      rcases ends with rfl | ⟨rest, fault', rfl, fails⟩
      · rw [List.append_nil] at split
        cases failed.symm.trans (holds.render split)
      · obtain rfl := Except.error.inj (failed.symm.trans (holds.render_error split fails))
        exact ⟨cut, rest, split, holds, fails⟩
    · rintro ⟨cut, rest, split, holds, fails⟩
      exact holds.render_error split fails

end Dialect.Template
