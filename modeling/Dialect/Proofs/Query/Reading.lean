import Dialect.Proofs.Query.Building

/-!
How a query is read.

A query is a chain of operands with blanks around it (`Asks`), and parsing builds the expression of
the chain (`Asks.parse`).
-/

namespace Dialect.Query

open Grammar ParseNode

variable {v : Variant} {cs : List Char} {nodes : List ParseNode}

/-- An operator and the operand behind it. -/
def step : Grammar.Expr := .seq (.call "set_op") (.call "operand")

/-- A text is read as an operand and what is joined to it, with these nodes. Only blanks may be left
over. -/
structure Sets (v : Variant) (at_ : Nat) (cs : List Char) (nodes : List ParseNode) : Prop where
  parts : ∃ first later,
    Reads (queries v) (.expr (.call "operand")) {} at_ cs (some first) ∧
    Reads (queries v) (.more true step) {} (at_ + Text.byteSize first.taken) first.rest
      (some later) ∧
    (∀ c ∈ later.rest, isBlank c = true) ∧ nodes = first.nodes ++ later.nodes

/-- A text is read as a query, with these nodes in its set expression. -/
structure Asks (v : Variant) (cs : List Char) (nodes : List ParseNode) : Prop where
  parts : ∃ before body, cs = before ++ body ∧ (∀ c ∈ before, isBlank c = true) ∧
    (∀ c, body.head? = some c → isBlank c = false) ∧ Sets v (Text.byteSize before) body nodes

/-! ### Set expressions -/

/-- The nodes that a rule wraps in a node of its own. -/
@[simp] theorem wrapped_nodes (rule : String) (at_ : Nat) (m : Match) :
    (m.wrapped {} rule at_).nodes =
      [⟨rule, String.ofList m.taken, at_, at_ + Text.byteSize m.taken, m.nodes⟩] := rfl

theorem skipMatch_of_blank {bs : List Char} (all : ∀ c ∈ bs, isBlank c = true) :
    skipMatch isBlank {} bs = ⟨bs, [], []⟩ := by
  simpa [skipMatch] using spanMatch_append_of_all all []

theorem reads_set_expr {at_ : Nat} {r : Option Match} :
    Reads (queries v) (.expr (.call "set_expr")) {} at_ cs r ↔
      ∃ x, Reads (queries v) (.expr (.seq (.call "operand") (.star step))) {} at_ cs x ∧
        r = x.map (Match.wrapped {} "set_expr" at_) :=
  reads_call_normal rfl (by decide)

/-- A set expression is read where its operands are. -/
theorem Sets.reads {at_ : Nat} (sets : Sets v at_ cs nodes) :
    ∃ m set, Reads (queries v) (.expr (.call "set_expr")) {} at_ cs (some m) ∧
      (∀ c ∈ m.rest, isBlank c = true) ∧ m.nodes = [set] ∧ set.rule = "set_expr" ∧
      set.children = nodes := by
  obtain ⟨first, later, operand, more, blank, rfl⟩ := sets.parts
  rcases reads_more.mp more with ⟨round, eq⟩ | ⟨n, x, round, rest, eq⟩
  · obtain rfl := Option.some.inj eq
    have star := (reads_spaced_star (skips_blanks v)).mpr (.inl ⟨round, rfl⟩)
    have rest : (skipMatch isBlank {} first.rest).rest = [] :=
      congrArg Match.rest (skipMatch_of_blank blank)
    have skipped : (skipMatch isBlank {} first.rest).nodes = [] :=
      congrArg Match.nodes (skipMatch_of_blank blank)
    refine ⟨_, _, reads_set_expr.mpr ⟨_, .seq operand star, rfl⟩, ?_, wrapped_nodes _ _ _, rfl, ?_⟩
    · simp [rest]
    · simp [skipped]
  · obtain ⟨k, rfl, rfl⟩ := Option.map_eq_some_iff.mp eq.symm
    have star := (reads_spaced_star (skips_blanks v)).mpr (.inr ⟨n, k, round, rest, rfl⟩)
    refine ⟨_, _, reads_set_expr.mpr ⟨_, .seq operand star, rfl⟩, ?_, wrapped_nodes _ _ _, rfl, rfl⟩
    rw [Match.wrapped_rest]
    exact blank

/-- What is read as a set expression, up to blanks, is operands. -/
theorem sets_of_reads {at_ : Nat} {m : Match}
    (h : Reads (queries v) (.expr (.call "set_expr")) {} at_ cs (some m))
    (blank : ∀ c ∈ m.rest, isBlank c = true) :
    ∃ set, m.nodes = [set] ∧ set.rule = "set_expr" ∧ Sets v at_ cs set.children := by
  obtain ⟨x, body, eq⟩ := reads_set_expr.mp h
  obtain ⟨n, rfl, rfl⟩ := Option.map_eq_some_iff.mp eq.symm
  obtain ⟨first, k, operand, star, rfl⟩ := reads_seq_some.mp body
  rw [Match.wrapped_rest] at blank
  refine ⟨_, wrapped_nodes _ _ _, rfl, ?_⟩
  rcases (reads_spaced_star (skips_blanks v)).mp star with ⟨round, rfl⟩ | ⟨n, l, round, rest, rfl⟩
  · have skipped : (skipMatch isBlank {} first.rest).nodes = [] := by simp [skipMatch, spanMatch]
    refine ⟨first, .empty first.rest, operand, .moreDone round, ?_, by simp [skipped]⟩
    -- what is left is what was skipped and what was left behind it
    intro c mem
    have split := List.takeWhile_append_dropWhile (p := isBlank) (l := first.rest)
    rw [Match.empty_rest, ← split, List.mem_append] at mem
    rcases mem with skipped | left
    · exact List.mem_takeWhile_imp skipped
    · exact blank c left
  · exact ⟨first, _, operand, .more round rest, blank, rfl⟩

/-! ### Whole queries -/

theorem reads_query {r : Option Match} :
    Reads (queries v) (.expr (.call "query")) {} 0 cs r ↔
      ∃ x, Reads (queries v) (.expr (.seq .start (.seq (.call "set_expr") .finish))) {} 0 cs x ∧
        r = x.map (Match.wrapped {} "query" 0) :=
  reads_call_normal rfl (by decide)

theorem asks_of_reads {m : Match}
    (h : Reads (queries v) (.expr (.call "query")) {} 0 cs (some m)) :
    ∃ nodes, Asks v cs nodes := by
  obtain ⟨x, body, eq⟩ := reads_query.mp h
  obtain ⟨n, rfl, -⟩ := Option.map_eq_some_iff.mp eq.symm
  obtain ⟨start, _, first, inner, -⟩ := reads_seq_some.mp body
  obtain rfl : start = .empty cs := by simpa [leaf] using (reads_leaf rfl).mp first
  obtain ⟨_, inner, -⟩ := (reads_spaced_some (skips_blanks v)).mp inner
  obtain ⟨set, _, set_expr, finish, -⟩ := reads_seq_some.mp inner
  obtain ⟨_, finish, -⟩ := (reads_spaced_some (skips_blanks v)).mp finish
  have atEnd : set.rest.dropWhile isBlank = [] := by
    have := reads_finish.mp finish
    split at this
    · rename_i empty
      simpa [skipMatch, spanMatch] using empty
    · cases this
  obtain ⟨set, -, -, sets⟩ := sets_of_reads set_expr (List.dropWhile_eq_nil_iff.mp atEnd)
  refine ⟨set.children, cs.takeWhile isBlank, cs.dropWhile isBlank, ?_, ?_, ?_, ?_⟩
  · exact List.takeWhile_append_dropWhile.symm
  · exact fun c mem => List.mem_takeWhile_imp mem
  · exact head?_dropWhile cs
  · simpa [skipMatch, spanMatch] using sets

/-- The tree of a query. -/
theorem Asks.reads (asks : Asks v cs nodes) :
    ∃ m query set, Reads (queries v) (.expr (.call "query")) {} 0 cs (some m) ∧
      m.nodes = [query] ∧ query.rule = "query" ∧ query.children.head? = some set ∧
      set.rule = "set_expr" ∧ set.children = nodes := by
  obtain ⟨before, body, rfl, blank, first, sets⟩ := asks.parts
  obtain ⟨set, node, set_expr, left, single, rule, children⟩ := sets.reads
  have finish (at_ : Nat) : Reads (queries v) (.spaced .finish) {} at_ set.rest
      (some ((skipMatch isBlank {} set.rest).append
        ((Match.empty []).wrapped {} "EOI" (at_ + Text.byteSize set.rest)))) := by
    refine (reads_spaced_iff (skips_blanks v)).mpr ⟨_, reads_finish.mpr rfl, ?_⟩
    rw [skipMatch_of_blank left]
    rfl
  have inner : Reads (queries v) (.spaced (.seq (.call "set_expr") .finish)) {} 0
      (before ++ body) _ :=
    (reads_behind_blanks (skips_blanks v) rfl blank first).mpr
      ⟨_, .seq (by simpa using set_expr) (finish _), rfl⟩
  have start : Reads (queries v) (.expr .start) {} 0 (before ++ body)
      (some (.empty (before ++ body))) := .leaf rfl
  have whole := reads_query.mpr ⟨_, .seq start inner, rfl⟩
  refine ⟨_, _, node, whole, wrapped_nodes _ _ _, rfl, ?_, rule, children⟩
  simp [single]

theorem reads_attempt (v : Variant) (cs : List Char) :
    Reads (queries v) (.expr (.call "query")) {} 0 cs (attempt (queries v) "query" cs).found := by
  have low : ranking.descends ranking.order.length (callOf true "query") = true := by decide
  exact attempt_reads (ranking_fits v) low (size_call_le_weight _ _) cs

/-- What is accepted has been read. -/
theorem reads_of_parse {text : String}
    (accepted : (queries v).parse "query" text = .ok nodes) :
    ∃ m, Reads (queries v) (.expr (.call "query")) {} 0 text.toList (some m) ∧ m.nodes = nodes := by
  have read := reads_attempt v text.toList
  unfold Grammar.parse at accepted
  dsimp only at accepted
  cases found : (attempt (queries v) "query" text.toList).found with
  | none =>
      rw [found] at accepted
      cases accepted
  | some m =>
      rw [found] at accepted read
      exact ⟨m, read, Except.ok.inj accepted⟩

/-- A text that is read as a query is parsed to the expression of its nodes. -/
theorem Asks.parse {engine : Engine} {text : String} (asks : Asks v text.toList nodes)
    (parser : engine.parser = (queries v).parse "query") :
    engine.parse text = setOf engine.vocabulary nodes := by
  obtain ⟨m, query, set, read, single, root, head, rule, rfl⟩ := asks.reads
  have found := (reads_attempt v text.toList).unique read
  have parsed : engine.parser text = .ok [query] := by
    rw [parser, Grammar.parse]
    simp only [found, single]
  obtain ⟨rest, first⟩ : ∃ rest, query.children = set :: rest := by
    cases children : query.children with
    | nil => simp [children] at head
    | cons node rest =>
        rw [children] at head
        exact ⟨rest, by rw [Option.some.inj head]⟩
  rw [Engine.parse, parsed]
  simp [bind, Except.bind, exprOf, ParseNode.is, root, child?, first, rule]

/-- A text that is parsed is read as a query. -/
theorem asks_of_parse {engine : Engine} {text : String} {e : Expr}
    (parser : engine.parser = (queries v).parse "query") (parsed : engine.parse text = .ok e) :
    ∃ nodes, Asks v text.toList nodes ∧ setOf engine.vocabulary nodes = .ok e := by
  have read := reads_attempt v text.toList
  cases found : (attempt (queries v) "query" text.toList).found with
  | none =>
      rw [Engine.parse, parser, Grammar.parse] at parsed
      simp only [found] at parsed
      cases parsed
  | some m =>
      rw [found] at read
      obtain ⟨nodes, asks⟩ := asks_of_reads read
      exact ⟨nodes, asks, (asks.parse parser).symm.trans parsed⟩

end Dialect.Query
