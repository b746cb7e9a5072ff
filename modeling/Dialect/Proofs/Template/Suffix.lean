import Dialect.Proofs.Template.Rules

/-!
What follows a directive does not change it.

Main statement: `render_directive` (a directive in a template is replaced by the value that it has
by itself, and rendering goes on right behind its closing brace).

A directive is its body between braces (`directive_eq`), and its body is read in the same way
whatever follows the closing brace, because it is bracketed by it (`Reads.extends`). The remainder
that the grammar takes along only serves to find the brace again.
-/

namespace Dialect.Template

open Grammar

variable {custom : Additions} {ctx : Context} {at_ : Nat} {cs : List Char} {r : Option Match}

/-! ### How a directive is read -/

/-- The blanks between the tokens of a directive. -/
def isBlank (c : Char) : Bool := [' '].contains c

/-- What stands behind the closing brace, as nodes. -/
def remainderNodes (at_ : Nat) (cs : List Char) : List ParseNode :=
  if cs.isEmpty then []
  else [⟨"remainder", String.ofList cs, at_, at_ + Text.byteSize cs, []⟩]

/-- The node of the end of the text. -/
def endNode (at_ : Nat) : ParseNode := ⟨"EOI", "", at_, at_, []⟩

theorem reads_remainder :
    Reads (directives custom) (.expr (.opt (.call "remainder"))) {} at_ cs r ↔
      r = some ⟨cs, [], remainderNodes at_ cs⟩ := by
  have found : (directives custom).find? "remainder" =
      some ⟨"remainder", .atomic, .seq (.one .any) (.star (.one .any))⟩ := by
    cases custom <;> rfl
  have any : (Expr.one .any).letter? = some fun _ => true := rfl
  have whole : Reads (directives custom) (.expr (.opt (.call "remainder"))) {} at_ cs
      (some ⟨cs, [], remainderNodes at_ cs⟩) := by
    have first (ctx : Context) : Reads (directives custom) (.expr (.one .any)) ctx at_ cs
        (letterMatch (fun _ => true) cs) := (reads_letter any).mpr rfl
    cases cs with
    | nil => exact .opt ((reads_call found).mpr ⟨none, .seqFails (first _), rfl⟩)
    | cons c cs =>
        have later : Reads (directives custom) (Task.round true (.star (.one .any)))
            { mode := .atomic } (at_ + Text.byteSize [c]) cs (some ⟨cs, [], []⟩) := by
          refine (reads_round_of_tight (by simp)).mpr ((reads_star_letter any (by simp)).mpr ?_)
          have all : ∀ c ∈ cs, (fun _ : Char => true) c = true := fun _ _ => rfl
          simpa using (spanMatch_append_of_all all []).symm
        have rule : Reads (directives custom) (.expr (.call "remainder")) {} at_ (c :: cs)
            (some ⟨c :: cs, [], remainderNodes at_ (c :: cs)⟩) :=
          (reads_call found).mpr ⟨_, .seq (first _) later, rfl⟩
        exact .opt rule
  exact ⟨fun h => h.unique whole, fun h => h ▸ whole⟩

theorem skips_blanks (custom : Additions) : SkipsBlanks (directives custom) isBlank :=
  (setting_right custom).blanks

/-- The closing brace, and what stands behind it. -/
def closing : Expr :=
  .seq (.literal ['\x7d']) (.seq (.opt (.call "remainder")) .finish)

/-- Behind its body a directive is closed, whatever follows. -/
theorem reads_closing {bs rest : List Char} (blanks : ∀ c ∈ bs, isBlank c = true)
    (stop : ∀ c, rest.head? = some c → isBlank c = false) (at_ : Nat) :
    Reads (directives custom) (.expr closing) {} at_ ('\x7d' :: (bs ++ rest))
      (some ⟨'\x7d' :: (bs ++ rest), [],
        remainderNodes (at_ + Text.byteSize ('\x7d' :: bs)) rest ++
          [endNode (at_ + Text.byteSize ('\x7d' :: (bs ++ rest)))]⟩) := by
  have brace : Reads (directives custom) (.expr (.literal ['\x7d'])) {} at_
      ('\x7d' :: (bs ++ rest)) (some ⟨['\x7d'], bs ++ rest, []⟩) := .leaf rfl
  have remainder : Reads (directives custom) (.expr (.opt (.call "remainder"))) {}
      (at_ + Text.byteSize ['\x7d'] + Text.byteSize bs) rest
      (some ⟨rest, [], remainderNodes _ rest⟩) := reads_remainder.mpr rfl
  have finish (at_ : Nat) : Reads (directives custom) (.spaced .finish) {} at_ []
      (some ⟨[], [], [endNode at_]⟩) :=
    (reads_spaced_iff (skips_blanks custom)).mpr ⟨_, reads_finish.mpr rfl, rfl⟩
  have tail := (reads_behind_blanks (skips_blanks custom) rfl blanks stop).mpr
    ⟨_, .seq remainder (finish _), rfl⟩
  have whole := Reads.seq brace tail
  simpa [closing, Match.append, Text.byteSize, Nat.add_assoc] using whole

/-- A text starts with a directive: a body between braces, with blanks around it. -/
structure Opens (custom : Additions) (cs : List Char) (body : Match) (after : List Char) :
    Prop where
  parts : ∃ before between, (∀ c ∈ before, isBlank c = true) ∧ (∀ c ∈ between, isBlank c = true) ∧
    body.rest = between ++ '\x7d' :: after ∧
    cs = '\x7b' :: (before ++ (body.taken ++ body.rest)) ∧
    (∀ c, (body.taken ++ body.rest).head? = some c → isBlank c = false) ∧
    Reads (directives custom) (.expr (.call "embed")) {} (1 + Text.byteSize before)
      (body.taken ++ body.rest) (some body)

theorem find?_directive (custom : Additions) : (directives custom).find? "directive" =
    some ⟨"directive", .normal, .seq (.literal ['\x7b']) (.seq (.call "embed") closing)⟩ := by
  cases custom <;> rfl

/-- What is read as a directive is one. -/
theorem opens_of_reads {m : Match}
    (h : Reads (directives custom) (.expr (.call "directive")) {} 0 cs (some m)) :
    ∃ body after, Opens custom cs body after := by
  obtain ⟨x, read, eq⟩ := (reads_call (find?_directive custom)).mp h
  obtain ⟨n, rfl, -⟩ := Option.map_eq_some_iff.mp eq.symm
  obtain ⟨brace, _, opening, inner, -⟩ := reads_seq_some.mp read
  obtain ⟨c, rest, rfl, isBrace, rfl⟩ := letterMatch_eq_some ((reads_letter rfl).mp opening).symm
  obtain rfl : '\x7b' = c := by simpa using isBrace
  obtain ⟨_, inner, -⟩ := (reads_spaced_some (skips_blanks custom)).mp inner
  obtain ⟨body, _, embed, close, -⟩ := reads_seq_some.mp inner
  obtain ⟨_, close, -⟩ := (reads_spaced_some (skips_blanks custom)).mp close
  obtain ⟨_, _, closing, -⟩ := reads_seq_some.mp close
  obtain ⟨c, after, rest', isBrace, -⟩ := letterMatch_eq_some ((reads_letter rfl).mp closing).symm
  obtain rfl : '\x7d' = c := by simpa using isBrace
  refine ⟨body, after, rest.takeWhile isBlank, body.rest.takeWhile isBlank, ?_, ?_, ?_, ?_, ?_, ?_⟩
  · exact fun c mem => List.mem_takeWhile_imp mem
  · exact fun c mem => List.mem_takeWhile_imp mem
  · exact (List.takeWhile_append_dropWhile.symm).trans (congrArg _ rest')
  · rw [embed.taken_append_rest rfl]
    exact congrArg ('\x7b' :: ·) List.takeWhile_append_dropWhile.symm
  · rw [embed.taken_append_rest rfl]
    exact head?_dropWhile rest
  · rw [embed.taken_append_rest rfl]
    exact embed

/-- The nodes in which a directive is read: its body, the remainder and the end. -/
def directiveNode (cs : List Char) (stop : Nat) (body : List ParseNode) (upto rest : List Char) :
    ParseNode :=
  ⟨"directive", String.ofList cs, 0, stop,
    body ++ (remainderNodes (Text.byteSize upto) rest ++ [endNode stop])⟩

/-- A directive is read up to the end of the text, whatever stands behind its closing brace. -/
theorem Opens.reads {body : Match} {after bs rest : List Char} (opens : Opens custom cs body after)
    (split : after = bs ++ rest) (blanks : ∀ c ∈ bs, isBlank c = true)
    (stop : ∀ c, rest.head? = some c → isBlank c = false) :
    ∃ inside stop, cs = inside ++ '\x7d' :: after ∧
      Reads (directives custom) (.expr (.call "directive")) {} 0 cs
        (some ⟨cs, [], [directiveNode cs stop body.nodes (inside ++ '\x7d' :: bs) rest]⟩) := by
  obtain ⟨before, between, allBefore, allBetween, left, rfl, first, embed⟩ := opens.parts
  subst split
  have close (at_ : Nat) : Reads (directives custom) (.spaced closing) {} at_ body.rest
      (some ⟨body.rest, [], remainderNodes (at_ + Text.byteSize (between ++ '\x7d' :: bs)) rest ++
        [endNode (at_ + Text.byteSize body.rest)]⟩) := by
    rw [left]
    refine (reads_behind_blanks (skips_blanks custom) rfl allBetween (by simp [isBlank])).mpr
      ⟨_, reads_closing blanks stop _, ?_⟩
    simp [Match.append, Nat.add_assoc]
  have inner := (reads_behind_blanks (skips_blanks custom) rfl allBefore first).mpr
    ⟨_, .seq embed (close _), rfl⟩
  have brace : Reads (directives custom) (.expr (.literal ['\x7b'])) {} 0
      ('\x7b' :: (before ++ (body.taken ++ body.rest)))
      (some ⟨['\x7b'], before ++ (body.taken ++ body.rest), []⟩) := .leaf rfl
  have whole := (reads_call (find?_directive custom)).mpr ⟨_, .seq brace inner, rfl⟩
  refine ⟨'\x7b' :: (before ++ (body.taken ++ between)),
    Text.byteSize ('\x7b' :: (before ++ (body.taken ++ body.rest))), ?_, ?_⟩
  · simp [left]
  · convert whole using 1
    simp [directiveNode, Match.append, Rule.labelled, surroundings, isSkipRule, Match.wrapped,
      Context.makesNodes,
      Text.byteSize, Nat.add_assoc]
    exact ⟨rfl, rfl⟩

/-- The body of a directive is one node. -/
theorem Opens.single {body : Match} {after : List Char} (opens : Opens custom cs body after) :
    ∃ node, body.nodes = [node] ∧ (node.rule = "join" ∨ node.rule = "data") := by
  obtain ⟨before, -, -, -, -, -, -, embed⟩ := opens.parts
  have found : (directives custom).find? "embed" =
      some ⟨"embed", .silent, .choice (.call "join") (.call "data")⟩ := by cases custom <;> rfl
  have rule {name : String} {body : Expr} {m : Match} {at_ : Nat} {cs : List Char}
      (found : (directives custom).find? name = some ⟨name, .normal, body⟩)
      (plain : isSkipRule name = false)
      (h : Reads (directives custom) (.expr (.call name)) {} at_ cs (some m)) :
      ∃ node, m.nodes = [node] ∧ node.rule = name := by
    obtain ⟨x, -, eq⟩ := (reads_call found).mp h
    obtain ⟨n, rfl, rfl⟩ := Option.map_eq_some_iff.mp eq.symm
    simp [Rule.labelled, surroundings, plain, Match.wrapped, Context.makesNodes]
  obtain ⟨x, inner, eq⟩ := (reads_call found).mp embed
  obtain ⟨m, rfl, same⟩ := Option.map_eq_some_iff.mp eq.symm
  obtain rfl : m = body := same
  rcases reads_choice.mp inner with ⟨m, join, eq⟩ | ⟨-, data⟩
  · obtain rfl := Option.some.inj eq
    have found : ∃ b, (directives custom).find? "join" = some ⟨"join", .normal, b⟩ := by
      cases custom <;> exact ⟨_, rfl⟩
    obtain ⟨node, single, name⟩ := rule found.choose_spec (by decide) join
    exact ⟨node, single, .inl name⟩
  · have found : ∃ b, (directives custom).find? "data" = some ⟨"data", .normal, b⟩ := by
      cases custom <;> exact ⟨_, rfl⟩
    obtain ⟨node, single, name⟩ := rule found.choose_spec (by decide) data
    exact ⟨node, single, .inr name⟩

/-! ### What an engine makes of a directive -/

/-- The value of a directive with a body and a span; as `Engine.directive` gives it. -/
def outcome (engine : Engine) (record : Value) (span : Nat) (body : ParseNode) :
    Except Error (Option Recognised) :=
  match generatedOf engine.vocabulary record body with
  | .ok generated =>
    (generated.generator.generate record ∅).map fun value => some ⟨value, span⟩
  | .error (.parse _) => .ok none
  | .error e => .error e

theorem throughLastBrace_append {xs ys : List Char} (none : '\x7d' ∉ ys) :
    throughLastBrace (xs ++ '\x7d' :: ys) = some (xs.length + 1) := by
  have noBrace : ∀ ys : List Char, '\x7d' ∉ ys → throughLastBrace ys = Option.none := by
    intro ys none
    induction ys with
    | nil => rfl
    | cons y ys ih =>
        rw [List.mem_cons, not_or] at none
        simp [throughLastBrace, ih none.2, Ne.symm none.1]
  induction xs with
  | nil => simp [throughLastBrace, noBrace ys none]
  | cons x xs ih => simp [throughLastBrace, ih]

/-- The span of a directive ends at its closing brace. -/
theorem spanOf?_directiveNode {body : List ParseNode} {inside bs rest : List Char} {stop : Nat}
    (whole : cs = inside ++ '\x7d' :: (bs ++ rest)) (blanks : ∀ c ∈ bs, isBlank c = true)
    (other : ∀ node ∈ body, node.rule ≠ "remainder") :
    Engine.spanOf? (directiveNode cs stop body (inside ++ '\x7d' :: bs) rest) cs =
      some (inside.length + 1) := by
  have noBrace : '\x7d' ∉ bs := fun mem => by simpa [isBlank] using blanks _ mem
  have skipBody : body.find? (fun c => c.rule == "remainder") = none :=
    List.find?_eq_none.mpr fun node mem => by simpa using other node mem
  unfold Engine.spanOf? ParseNode.child? directiveNode remainderNodes
  cases rest with
  | nil =>
      rw [List.append_nil] at whole
      simp [List.find?_append, skipBody, endNode, ParseNode.is, whole,
        throughLastBrace_append noBrace]
  | cons c rest =>
      have before : Text.takeBytes (Text.byteSize (inside ++ '\x7d' :: bs)) cs =
          inside ++ '\x7d' :: bs := by
        rw [whole, ← List.cons_append, ← List.append_assoc]
        exact Text.takeBytes_append _ _
      simp [List.find?_append, skipBody, ParseNode.is, before, throughLastBrace_append noBrace,
        -Text.byteSize_append]

/-- A directive at the start of a text is parsed to its node. -/
theorem Opens.parse {body : Match} {after : List Char} {parser : Parser}
    (reader : parser = (directives custom).parse "directive") (opens : Opens custom cs body after) :
    ∃ inside stop, cs = inside ++ '\x7d' :: after ∧
      parser (String.ofList cs) = .ok [directiveNode cs stop body.nodes
        (inside ++ '\x7d' :: after.takeWhile isBlank) (after.dropWhile isBlank)] := by
  have blanks : ∀ c ∈ after.takeWhile isBlank, isBlank c = true :=
    fun c mem => List.mem_takeWhile_imp mem
  have split : after = after.takeWhile isBlank ++ after.dropWhile isBlank :=
    List.takeWhile_append_dropWhile.symm
  obtain ⟨inside, stop, whole, read⟩ := opens.reads split blanks (head?_dropWhile after)
  have found := (reads_attempt custom cs).unique read
  refine ⟨inside, stop, whole, ?_⟩
  rw [reader, Grammar.parse, String.toList_ofList]
  simp only [found]

/-- A directive at the start of a text has the value of its body, and its span ends at its closing
brace. -/
theorem directive_eq {engine : Engine} {body : Match} {after : List Char} {node : ParseNode}
    (parser : engine.parser = (directives custom).parse "directive")
    (opens : Opens custom cs body after) (single : body.nodes = [node]) (record : Value) :
    engine.directive record cs = outcome engine record (cs.length - after.length) node := by
  obtain ⟨other, single', rule⟩ := opens.single
  obtain rfl : other = node := by simpa [single] using single'.symm
  obtain ⟨inside, stop, whole, root⟩ := opens.parse parser
  have named : other.rule ≠ "remainder" ∧ other.rule ≠ "EOI" := by
    rcases rule with join | data <;> simp [*]
  have split : after = after.takeWhile isBlank ++ after.dropWhile isBlank :=
    List.takeWhile_append_dropWhile.symm
  have blanks : ∀ c ∈ after.takeWhile isBlank, isBlank c = true :=
    fun c mem => List.mem_takeWhile_imp mem
  have span := @spanOf?_directiveNode cs body.nodes inside _ _ stop (split ▸ whole) blanks
    (by simpa [single] using named.1)
  have length : inside.length + 1 = cs.length - after.length := by
    rw [whole, List.length_append, List.length_cons]
    omega
  have bodyNode (stop : Nat) : Engine.bodyOf? (directiveNode cs stop body.nodes
      (inside ++ '\x7d' :: after.takeWhile isBlank) (after.dropWhile isBlank)) = some other := by
    simp [Engine.bodyOf?, directiveNode, single, ParseNode.is, named]
  unfold Engine.directive
  rw [root]
  simp only [List.find?_cons, directiveNode, ParseNode.is, beq_self_eq_true]
  rw [← directiveNode, span, bodyNode, length]
  rfl

/-- A text that does not start with a directive gives none. -/
theorem directive_eq_none {engine : Engine}
    (parser : engine.parser = (directives custom).parse "directive")
    (closed : ¬∃ body after, Opens custom cs body after) (record : Value) :
    engine.directive record cs = .ok none := by
  have nothing : (attempt (directives custom) "directive" cs).found = none := by
    by_contra some
    obtain ⟨m, found⟩ := Option.ne_none_iff_exists'.mp some
    have read := reads_attempt custom cs
    rw [found] at read
    exact closed (opens_of_reads read)
  unfold Engine.directive
  rw [parser, Grammar.parse, String.toList_ofList]
  simp only [nothing]

/-! ### Offsets do not matter -/

open ParseNode

/-- The vocabulary does not look at the offsets of nodes. -/
structure Blind (v : Vocabulary) : Prop where
  field : ∀ node record, v.customField (bare node) record = v.customField node record
  directive : ∀ node record, v.customDirective (bare node) record = v.customDirective node record

theorem blind_plain : Blind .plain where
  field node _ := by simp [Vocabulary.plain]
  directive node _ := by simp [Vocabulary.plain]

theorem onlyChild_bare (node : ParseNode) :
    (bare node).onlyChild = node.onlyChild.map bare := by
  unfold onlyChild
  rw [bare_children, bare_rule]
  obtain _ | ⟨child, _ | ⟨_, _⟩⟩ := node.children
  · rfl
  · rfl
  · simp
    rfl

theorem blind_chapters (source : Archive.ChapterSource) :
    Blind (Archive.chapterVocabulary source) where
  field node record := by
    simp only [Archive.chapterVocabulary, Archive.chapterField, onlyChild_bare]
    cases node.onlyChild with
    | error e => rfl
    | ok child => simp [Except.map, bind, Except.bind]
  directive node _ := by simp [Archive.chapterVocabulary]

mutual

/-- The generator of a node does not depend on its offsets. -/
theorem generatedOf_bare {v : Vocabulary} (blind : Blind v) (record : Value) :
    ∀ node, generatedOf v record (bare node) = generatedOf v record node
  | ⟨rule, text, start, stop, children⟩ => by
    have field := blind.field ⟨rule, text, start, stop, children⟩ record
    have directive := blind.directive ⟨rule, text, start, stop, children⟩ record
    have all := generatedAll_bare blind record children
    rw [bare] at field directive ⊢
    unfold generatedOf
    simp only [field, directive, all]
    match children with
    | [] => rfl
    | [node] => rfl
    | [left, right] =>
        have first := generatedOf_bare blind record left
        have second := generatedOf_bare blind record right
        simp only [bares_cons, bares_nil, first, second, repeated, bare_text]
    | _ :: _ :: _ :: _ => rfl

theorem generatedAll_bare {v : Vocabulary} (blind : Blind v) (record : Value) :
    ∀ nodes, generatedAll v record (bares nodes) =
      generatedAll v record nodes
  | [] => rfl
  | node :: rest => by
    rw [bares_cons, generatedAll, generatedAll, generatedAll_bare blind record rest]
    rw [generatedOf_bare blind record node]

end

/-! ### More text behind a directive -/

/-- With more text behind it, a directive has the same body up to offsets. -/
theorem Opens.append {d : List Char} {body : Match} (opens : Opens custom d body [])
    (t : List Char) :
    ∃ body', Opens custom (d ++ t) body' t ∧
      bares body.nodes = bares body'.nodes := by
  obtain ⟨before, between, allBefore, allBetween, left, rfl, first, embed⟩ := opens.parts
  have right := setting_right custom
  have tracked : (setting custom).trackTask ⟨false, false, false⟩ (.expr (.call "embed")) {} =
      some {} := by cases custom <;> decide +kernel
  -- the body stands inside one open brace, which is closed right behind it
  have fit : (setting custom).Fitting ⟨false, false, false⟩ 1 [] t :=
    ⟨by simp, by simp, by simp, by simp⟩
  have scanned : (Scan.lift {} 1).through (body.taken ++ body.rest) = some {} := by
    have taken := embed.through_taken right tracked (by simp) rfl
    have plain : ∀ c ∈ between, isMark c = false := by
      intro c mem
      have : c = ' ' := by simpa [isBlank] using allBetween c mem
      rw [this]
      decide
    rw [Scan.through_append, Scan.through_lift taken, left]
    simp only [Option.bind_some, Scan.through_append]
    rw [Scan.through_of_not_isMark rfl plain]
    rfl
  obtain ⟨body', read, more, rest, none, grown⟩ := embed.extends_some right tracked (by simp) fit
    scanned (1 + Text.byteSize before)
  obtain ⟨rfl, rfl⟩ := List.nil_eq_append_iff.mp none
  have taken : body'.taken = body.taken := by simpa using grown.taken
  have rest' : body'.rest = body.rest ++ t := grown.rest
  have whole : body'.taken ++ body'.rest = body.taken ++ body.rest ++ t := by
    rw [taken, rest', List.append_assoc]
  refine ⟨body', ⟨before, between, allBefore, allBetween, ?_, ?_, ?_, ?_⟩, grown.bares rfl⟩
  · rw [rest', left, List.append_assoc]
    rfl
  · rw [whole]
    simp
  · have some : body.taken ++ body.rest ≠ [] := by simp [left]
    rw [whole, List.head?_append_of_ne_nil _ some]
    exact first
  · rw [whole]
    exact read

theorem outcome_span {engine : Engine} {record : Value} {span n : Nat} {node : ParseNode}
    {v : String} (h : outcome engine record span node = .ok (some ⟨v, n⟩)) :
    n = span ∧ ∀ span', outcome engine record span' node = .ok (some ⟨v, span'⟩) := by
  unfold outcome at h ⊢
  cases made : generatedOf engine.vocabulary record node with
  | error e => cases e <;> simp [made] at h
  | ok generated =>
      simp only [made] at h ⊢
      cases text : generated.generator.generate record ∅ with
      | error e => simp [text, Except.map] at h
      | ok value =>
          simp only [text, Except.map, Except.ok.injEq, Option.some.injEq,
            Recognised.mk.injEq] at h ⊢
          exact ⟨h.2.symm, fun _ => ⟨h.1, trivial⟩⟩

/-- A text that is one directive is still that directive with more text behind it. -/
theorem directive_append {engine : Engine}
    (parser : engine.parser = (directives custom).parse "directive")
    (blind : Blind engine.vocabulary) {record : Value} {d : List Char} {v : String}
    (recognised : engine.directive record d = .ok (some ⟨v, d.length⟩)) (t : List Char) :
    engine.directive record (d ++ t) = .ok (some ⟨v, d.length⟩) := by
  by_cases opening : ∃ body after, Opens custom d body after
  · obtain ⟨body, after, opens⟩ := opening
    obtain ⟨node, single, -⟩ := opens.single
    rw [directive_eq parser opens single] at recognised
    obtain ⟨span, value⟩ := outcome_span recognised
    obtain rfl : after = [] := by
      obtain ⟨before, between, -, -, left, rfl, -⟩ := opens.parts
      have : 0 < ('\x7b' :: (before ++ (body.taken ++ body.rest))).length := by simp
      exact List.length_eq_zero_iff.mp (by omega)
    obtain ⟨body', opens', nodes⟩ := opens.append t
    obtain ⟨node', single', -⟩ := opens'.single
    have same : bare node = bare node' := by
      simpa [single, single'] using nodes
    rw [directive_eq parser opens' single']
    have outcomes (span : Nat) :
        outcome engine record span node' = outcome engine record span node := by
      unfold outcome
      rw [← generatedOf_bare blind record node, same, generatedOf_bare blind]
    rw [outcomes, List.length_append, Nat.add_sub_cancel]
    exact value _
  · rw [directive_eq_none parser opening] at recognised
    cases recognised

/-! ### Rendering -/

theorem scan_covered (engine : Engine) (record : Value) (xs ys : List Char) :
    engine.scan record xs.length (xs ++ ys) = engine.scan record 0 ys := by
  induction xs with
  | nil => rfl
  | cons x xs ih => rw [List.length_cons, List.cons_append, Engine.scan, ih]

/-- Text without an opening brace is copied. -/
theorem scan_copied (engine : Engine) (record : Value) {l : List Char} (plain : '\x7b' ∉ l)
    (ys : List Char) :
    engine.scan record 0 (l ++ ys) = (engine.scan record 0 ys).map (l ++ ·) := by
  induction l with
  | nil =>
      rw [List.nil_append]
      cases engine.scan record 0 ys <;> rfl
  | cons c l ih =>
      rw [List.mem_cons, not_or] at plain
      rw [List.cons_append, Engine.scan, if_neg (Ne.symm plain.1), ih plain.2]
      cases engine.scan record 0 ys <;> rfl

theorem scan_directive {engine : Engine} {record : Value} {d t : List Char} {v : String}
    (found : engine.directive record (d ++ t) = .ok (some ⟨v, d.length⟩))
    (opens : d.head? = some '\x7b') :
    engine.scan record 0 (d ++ t) = (engine.scan record 0 t).map (v.toList ++ ·) := by
  cases d with
  | nil => cases opens
  | cons c d =>
      obtain rfl := Option.some.inj opens
      rw [List.cons_append] at found ⊢
      rw [Engine.scan, if_pos rfl, found]
      simp only [bind, Except.bind, List.length_cons, Nat.add_sub_cancel, scan_covered]
      cases engine.scan record 0 t <;> rfl

/-- A directive is rendered to its own value, whatever stands before and behind it. With `d` a text
that is one directive up to its last character, and `l` a text without `{`:

* what follows `d` changes neither its value nor its span;
* `l ++ d ++ t` renders to `l`, the value of `d`, and the rendering of `t`, and fails only as `t`
  does. -/
theorem render_directive {engine : Engine} {v : Vocabulary} {capabilities : Capabilities}
    {record : Value} {l d t value : String}
    (known : v = .plain ∨ ∃ source, v = Archive.chapterVocabulary source)
    (made : Engine.withCapabilities v capabilities = .ok engine) (plain : '\x7b' ∉ l.toList)
    (recognised : engine.directive record d.toList = .ok (some ⟨value, d.toList.length⟩)) :
    engine.directive record (d.toList ++ t.toList) = .ok (some ⟨value, d.toList.length⟩) ∧
      engine.render (l ++ d ++ t) record =
        (engine.render t record).map fun rendered => l ++ value ++ rendered := by
  obtain ⟨custom, parser, blind, quotes⟩ : ∃ custom,
      engine.parser = (directives custom).parse "directive" ∧ Blind engine.vocabulary ∧
        engine.consistentQuotes = false := by
    rcases known with rfl | ⟨source, rfl⟩
    · rw [withCapabilities_plain] at made
      obtain rfl := Except.ok.inj made
      exact ⟨_, rfl, blind_plain, rfl⟩
    · rw [withCapabilities_chapters] at made
      obtain rfl := Except.ok.inj made
      exact ⟨_, rfl, blind_chapters source, rfl⟩
  have found := directive_append parser blind recognised t.toList
  refine ⟨found, ?_⟩
  have opens : d.toList.head? = some '\x7b' := by
    by_contra other
    have closed : ¬∃ body after, Opens custom d.toList body after := by
      rintro ⟨body, after, opens⟩
      obtain ⟨before, between, -, -, -, whole, -⟩ := opens.parts
      rw [whole] at other
      exact other rfl
    rw [directive_eq_none parser closed] at recognised
    cases recognised
  unfold Engine.render
  simp only [quotes, Bool.false_eq_true, if_false, String.toList_append, List.append_assoc]
  rw [scan_copied engine record plain, scan_directive found opens]
  cases engine.scan record 0 t.toList with
  | error e => rfl
  | ok rendered =>
      simp [Except.map, bind, Except.bind, pure, Except.pure, String.append_assoc]

/-- The engine without additions. -/
def plainEngine : Engine := ⟨.plain, (directives .absent).parse "directive", false⟩

/-- A closing brace inside a literal does not end the span, and one behind the directive is kept. -/
theorem render_directive_brace :
    Engine.withCapabilities .plain .none = .ok plainEngine ∧
      plainEngine.directive .null "\x7b\"\x7d\"\x7d".toList =
        .ok (some ⟨"\x7d", "\x7b\"\x7d\"\x7d".toList.length⟩) ∧
      plainEngine.render ("a " ++ "\x7b\"\x7d\"\x7d" ++ " \x7d") .null =
        (plainEngine.render " \x7d" .null).map fun rendered => "a " ++ "\x7d" ++ rendered := by
  have recognised : plainEngine.directive .null "\x7b\"\x7d\"\x7d".toList =
      .ok (some ⟨"\x7d", "\x7b\"\x7d\"\x7d".toList.length⟩) := by decide +kernel
  have made := withCapabilities_plain .none
  exact ⟨made, recognised, (render_directive (.inl rfl) made (by decide) recognised).2⟩

end Dialect.Template
