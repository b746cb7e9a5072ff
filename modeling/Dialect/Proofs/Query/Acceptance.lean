import Dialect.Proofs.Archive.Flags
import Dialect.Proofs.Query.Spelling
import Dialect.Proofs.Query.Trees

/-!
What the grammar accepts is built into an expression.

Main statement: `parse_accepted` (parsing a text that the grammar accepts can only fail at a quoted
literal that denotes no text, and so can resolving the flags of the expression).

The grammar and the builder are written apart. What the builder needs of a node depends on its rule
(`Fulfils`), and each rule gives it from what the rules that it calls give (`inherits_sound`).
-/

namespace Dialect.Query

open Grammar ParseNode

/-! ### What hinges on literals -/

section

variable {α β : Type} {x : Except Error α} {f : α → Except Error β} {ts us : List String}

/-- Literals decide about a result: it is there if each of them denotes a text, and else the first
that does not is refused. -/
def Hinges (literals : List String) (x : Except Error α) : Prop :=
  match literals.find? fun literal => (Text.Quoted.decode literal.toList).isNone with
  | none => ∃ a, x = .ok a
  | some literal => x = .error (.parse (.badLiteral literal))

namespace Hinges

theorem of_ok {a : α} (ok : x = .ok a) : Hinges [] x := ⟨a, ok⟩

theorem bind (first : Hinges ts x) (later : ∀ a, x = .ok a → Hinges us (f a)) :
    Hinges (ts ++ us) (x >>= f) := by
  unfold Hinges at first ⊢
  rw [List.find?_append]
  split at first
  · rename_i none
    obtain ⟨a, rfl⟩ := first
    rw [none, Option.none_or]
    exact later a rfl
  · rename_i bad
    rw [bad, first]
    rfl

theorem map {f : α → β} (first : Hinges ts x) : Hinges ts (x.map f) := by
  unfold Hinges at first ⊢
  split at first
  · obtain ⟨a, rfl⟩ := first
    exact ⟨f a, rfl⟩
  · rw [first]
    rfl

/-- Where a computation goes on without failing, its first part decides. -/
theorem andThen (first : Hinges ts x) (later : ∀ a, ∃ b, f a = .ok b) : Hinges ts (x >>= f) := by
  rw [← List.append_nil ts]
  exact first.bind fun a _ => later a

end Hinges

theorem hinges_unquote (literal : String) : Hinges [literal] (unquote literal) := by
  unfold Hinges unquote
  rw [List.find?_singleton]
  cases Text.Quoted.decode literal.toList with
  | none => rfl
  | some text => exact ⟨_, rfl⟩

end

/-! ### What nodes are for -/

/-- What the builder makes of a node. -/
inductive Role where
  /-- Nothing, or only its text is looked at. -/
  | part
  | operator
  | comparator
  | side
  | sets
  | feature
  | pattern
  | flag
  | operand
  | query
  deriving DecidableEq, Repr

/-- The role of the nodes of a rule. -/
def roleOf : String → Role
  | "shift_op" | "scale_op" | "power_op" => .operator
  | "comparator" => .comparator
  | "extremum_name" => .side
  | "set_op" => .sets
  | "feature_sum" | "feature_product" | "feature_power" | "extremum" | "field" | "number"
  | "string" | "story_feature" => .feature
  | "bare_pattern" | "quoted_pattern" => .pattern
  | "flag" => .flag
  | "set_expr" | "negation" | "comparison" => .operand
  | "query" => .query
  | _ => .part

/-- The node has no literals in it. -/
structure Plain (n : ParseNode) : Prop where
  strings : n.texts "string" = []
  patterns : n.texts "quoted_pattern" = []

section

variable (vocabulary : Vocabulary)

/-- Resolving the flag hinges on its quoted pattern. -/
def Resolves : Leaf → Prop
  | .flag node => Hinges (node.texts "quoted_pattern") (vocabulary.resolveFlag node).result
  | .comparison _ _ _ => True

/-- The node has what the builder needs of nodes in the role. -/
def Fulfils : Role → ParseNode → Prop
  | .part, n => Plain n
  | .operator, n => Plain n ∧ (Operator.ofSymbol? n.text).isSome = true
  | .comparator, n => Plain n ∧ (Comparator.ofSymbol? n.text).isSome = true
  | .side, n => Plain n ∧ (Extreme.ofWord? n.text).isSome = true
  | .sets, n => Plain n ∧ (n.text = "," ∨ n.text = "|")
  | .feature, n => Hinges (n.texts "string") (featureOf vocabulary n)
  | .pattern, n => n.texts "string" = [] ∧
      Hinges (n.texts "quoted_pattern") (Archive.TagIndex.patternText n)
  | .flag, n => n.rule = "flag" ∧ n.texts "string" = [] ∧
      Hinges (n.texts "quoted_pattern") (Archive.TagIndex.Flag.ofNode n)
  | .operand, n => Hinges (n.texts "string") (operandOf vocabulary n)
  | .query, n => Hinges (n.texts "string") (exprOf vocabulary [n]) ∧
      ∀ e, exprOf vocabulary [n] = .ok e → e.Consists (Resolves vocabulary)

/-- A node of a rule that the builder can work with. -/
structure Sound (name : String) (n : ParseNode) : Prop where
  rule : n.rule = name
  fulfils : Fulfils vocabulary (roleOf name) n
  leaves : ∀ e, operandOf vocabulary n = .ok e → e.Consists (Resolves vocabulary)

/-- The expression derives a text with nodes that the builder can work with. -/
abbrev Yields (v : Variant) : Mode → Grammar.Expr → List Char → List ParseNode → Prop :=
  Derives (queries v) isBlank (Sound vocabulary)

end

variable {v : Variant} {vocabulary : Vocabulary} {mode : Mode} {x : List Char}
  {ns : List ParseNode} {start stop : Nat}

/-- A call of a rule that makes nodes derives a node in the role of the rule. -/
theorem node_of_call {name : String} {rule : Rule} {r : Role} (role : roleOf name = r)
    (found : (queries v).find? name = some rule) (shows : rule.shows mode = true)
    (h : Yields vocabulary v mode (.call name) x ns) :
    ∃ n, ns = [n] ∧ Fulfils vocabulary r n := by
  obtain ⟨n, rfl, -, sound⟩ := h.of_node found shows
  exact ⟨n, rfl, role ▸ sound.fulfils⟩

/-! ### Tokens -/

theorem plain_of_childless {name text : String} (string : name ≠ "string")
    (pattern : name ≠ "quoted_pattern") : Plain ⟨name, text, start, stop, []⟩ :=
  ⟨by rw [texts_of_ne string, textsAll_nil], by rw [texts_of_ne pattern, textsAll_nil]⟩

/-- The node of a word has no literals in it, and its text is one of the words. -/
theorem node_of_words {name : String} {e : Grammar.Expr} {words : List (List Char)}
    {Q : String → Prop} (string : name ≠ "string") (pattern : name ≠ "quoted_pattern")
    (choice : e.words? = some words) (all : ∀ word ∈ words, Q (String.ofList word))
    (h : Yields vocabulary v mode e x ns) :
    Plain ⟨name, String.ofList x, start, stop, ns⟩ ∧ Q (String.ofList x) := by
  obtain ⟨rfl, mem⟩ := h.of_words choice
  exact ⟨plain_of_childless string pattern, all x mem⟩

/-- Atomic rules of queries call no others, except for the names in fields. -/
theorem childless_of_atomic {e : Grammar.Expr} (h : Yields vocabulary v .atomic e x ns)
    (calls : e.calls ⊆ ["field_name"]) : ns = [] := by
  have closed : (queries v).Closed ["field_name"] := by
    intro name mem
    obtain rfl := List.mem_singleton.mp mem
    rfl
  refine h.nodes_of_atomic closed ?_ rfl calls
  intro name mem rule found
  obtain rfl := List.mem_singleton.mp mem
  obtain rfl := Option.some.inj found
  exact ⟨rfl, rfl⟩

/-- A node whose children have no literals in them has only its own text. -/
theorem texts_of_quoted {inner : String} {rule : Rule}
    (h : Yields vocabulary v .compound
      (.seq (.literal ['"']) (.seq (.call inner) (.literal ['"']))) x ns)
    (found : (queries v).find? inner = some rule) (shows : rule.shows .compound = true)
    (part : roleOf inner = .part) :
    ∃ child, ns = [child] ∧ Plain child := by
  obtain ⟨_, between⟩ := h.of_bracketed rfl
  exact node_of_call part found shows between

/-! ### Features -/

/-- Operands behind operators are joined, whatever stands before them. -/
theorem hinges_chain {rule : String} {nodes : List ParseNode}
    (turns : Alternating (Fulfils vocabulary .operator) (Fulfils vocabulary .feature) nodes)
    (f : Feature) : Hinges (textsAll "string" nodes) (chain vocabulary rule f nodes) := by
  induction turns generalizing f with
  | nil =>
      rw [textsAll_nil, chain]
      exact .of_ok rfl
  | @cons op operand rest operator feature _ ih =>
      obtain ⟨plain, named⟩ := operator
      obtain ⟨sign, found⟩ := Option.isSome_iff_exists.mp named
      have known : operatorOf op = .ok sign := by rw [operatorOf, found]
      rw [textsAll_cons, textsAll_cons, plain.strings, List.nil_append, chain, known]
      exact feature.bind fun g _ => ih _

theorem hinges_features {nodes : List ParseNode}
    (all : ∀ n ∈ nodes, Fulfils vocabulary .feature n) :
    Hinges (textsAll "string" nodes) (featuresOf vocabulary nodes) := by
  induction nodes with
  | nil =>
      rw [textsAll_nil, featuresOf]
      exact .of_ok rfl
  | cons n rest ih =>
      obtain ⟨first, later⟩ := List.forall_mem_cons.mp all
      rw [textsAll_cons, featuresOf]
      exact Hinges.bind first fun f _ => (ih later).andThen fun fs => ⟨_, rfl⟩

theorem fulfils_chain {name operand operator : String}
    (h : Yields vocabulary v mode (chainOf operand operator) x ns)
    (chained : isChainRule name = true)
    (operands : ∀ {x ns}, Yields vocabulary v mode (.call operand) x ns →
      ∃ n, ns = [n] ∧ Fulfils vocabulary .feature n)
    (operators : ∀ {x ns}, Yields vocabulary v mode (.call operator) x ns →
      ∃ n, ns = [n] ∧ Fulfils vocabulary .operator n) :
    Fulfils vocabulary .feature ⟨name, String.ofList x, start, stop, ns⟩ := by
  obtain ⟨first, rest, rfl, holds, turns⟩ := h.of_chain (fun _ => rfl) rfl operands operators
  have other : name ≠ "string" := by
    rintro rfl
    cases chained
  rw [Fulfils, texts_of_ne other, featureOf, if_pos chained]
  rw [textsAll_cons]
  exact Hinges.bind holds fun f _ => hinges_chain turns f

theorem find?_story_feature (offered : v.named = true) : (queries v).find? "story_feature" =
    some ⟨"story_feature", .atomic, .seq (.choice (.literal ['.', 'r', 'a', 't', 'i', 'o'])
      (.choice (.literal ['.', 's', 't', 'a', 't', 'u', 's'])
        (.choice (.literal ['.', 'l', 'i', 'k', 'e', 's'])
          (.choice (.literal ['.', 'd', 'i', 's', 'l', 'i', 'k', 'e', 's'])
            (.literal ['.', 'w', 'o', 'r', 'd', 'c', 'o', 'u', 'n', 't'])))))
      (.notAhead (.choice (.one .asciiAlphanumeric)
        (.choice (.literal ['_']) (.literal ['.']))))⟩ := by
  obtain ⟨named, flags, features⟩ := v
  obtain rfl : named = true := offered
  rfl

/-- A formula without operators is a feature. -/
theorem feature_of_atom (spread : mode ≠ .atomic)
    (h : Yields vocabulary v mode (.call "feature_atom") x ns) :
    ∃ n, ns = [n] ∧ Fulfils vocabulary .feature n := by
  have body := h.of_silent (speaks_queries v).find?_atom rfl
  have known (h : Yields vocabulary v mode atoms x ns) :
      ∃ n, ns = [n] ∧ Fulfils vocabulary .feature n := by
    rcases h.of_choice with extremum | h
    · exact node_of_call rfl rfl (shows_normal.mpr spread) extremum
    rcases h.of_choice with field | h
    · exact node_of_call rfl rfl (shows_atomic.mpr spread) field
    rcases h.of_choice with bracketed | h
    · obtain ⟨y, sum⟩ := bracketed.of_bracketed rfl
      exact node_of_call rfl rfl (shows_normal.mpr spread) sum
    rcases h.of_choice with number | string
    · exact node_of_call rfl rfl (shows_atomic.mpr spread) number
    · exact node_of_call rfl rfl shows_compound string
  unfold orElse at body
  split at body
  · rename_i named
    rcases body.of_choice with story | atom
    · exact node_of_call rfl (find?_story_feature named) (shows_atomic.mpr spread) story
    · exact known atom
  · exact known body

theorem feature_of_sum (spread : mode ≠ .atomic)
    (h : Yields vocabulary v mode (.call "feature_sum") x ns) :
    ∃ n, ns = [n] ∧ Fulfils vocabulary .feature n :=
  node_of_call rfl rfl (shows_normal.mpr spread) h

/-- Further arguments are features. -/
theorem features_of_more (spread : mode ≠ .atomic)
    (h : Yields vocabulary v mode (.star (.seq (.literal [',']) (.call "feature_sum"))) x ns) :
    ∀ n ∈ ns, Fulfils vocabulary .feature n := by
  refine h.star_induction (Q := fun _ ns => ∀ n ∈ ns, Fulfils vocabulary .feature n) (by simp) ?_
  intro x w y ns ks round gap later
  obtain ⟨_, behind⟩ := round.of_literal_seq
  obtain ⟨n, rfl, holds⟩ := feature_of_sum spread behind
  exact List.forall_mem_cons.mpr ⟨holds, later⟩

theorem fulfils_extremum (spread : mode ≠ .atomic)
    (h : Yields vocabulary v mode (.seq (.call "extremum_name") (.seq (.literal ['('])
      (.seq (.call "feature_sum") (.seq (.star (.seq (.literal [',']) (.call "feature_sum")))
        (.literal [')']))))) x ns) :
    Fulfils vocabulary .feature ⟨"extremum", String.ofList x, start, stop, ns⟩ := by
  obtain ⟨_, _, _, _, _, -, rfl, -, name, h₁⟩ := h.of_seq rfl
  obtain ⟨_, h₂⟩ := h₁.of_literal_seq
  obtain ⟨_, _, _, _, _, -, rfl, -, first, h₃⟩ := h₂.of_seq rfl
  obtain ⟨_, more⟩ := h₃.of_seq_literal rfl
  obtain ⟨side, rfl, plain, named⟩ := node_of_call rfl rfl (shows_atomic.mpr spread) name
  obtain ⟨argument, rfl, holds⟩ := feature_of_sum spread first
  have others := features_of_more spread more
  have arguments := hinges_features (List.forall_mem_cons.mpr ⟨holds, others⟩)
  obtain ⟨extreme, found⟩ := Option.isSome_iff_exists.mp named
  have known : extremeOf side = .ok extreme := by rw [extremeOf, found]
  rw [Fulfils, texts_of_ne (by simp), featureOf.eq_def]
  simp only [List.cons_append, List.nil_append, textsAll_cons, plain.strings] at arguments ⊢
  exact arguments.andThen fun fs => ⟨.extremum extreme fs, by rw [known]; rfl⟩

/-- A node without children is the feature that its text denotes. -/
theorem fulfils_atom {name : String} {f : Feature} (role : roleOf name = .feature)
    (other : name ≠ "string")
    (made : featureOf vocabulary ⟨name, String.ofList x, start, stop, []⟩ = .ok f) :
    Fulfils vocabulary (roleOf name) ⟨name, String.ofList x, start, stop, []⟩ := by
  rw [role, Fulfils, texts_of_ne other, textsAll_nil]
  exact .of_ok made

theorem fulfils_string
    (h : Yields vocabulary v .compound
      (.seq (.literal ['"']) (.seq (.call "string_body") (.literal ['"']))) x ns) :
    Fulfils vocabulary .feature ⟨"string", String.ofList x, start, stop, ns⟩ := by
  obtain ⟨body, rfl, plain⟩ := texts_of_quoted h rfl (shows_atomic.mpr nofun) rfl
  rw [Fulfils, texts, if_pos rfl, featureOf_string rfl, textsAll_cons, textsAll_nil, plain.strings]
  exact (hinges_unquote _).map

/-! ### Flags -/

theorem fulfils_quoted_pattern
    (h : Yields vocabulary v .compound
      (.seq (.literal ['"']) (.seq (.call "quoted_body") (.literal ['"']))) x ns) :
    Fulfils vocabulary .pattern ⟨"quoted_pattern", String.ofList x, start, stop, ns⟩ := by
  obtain ⟨body, rfl, plain⟩ := texts_of_quoted h (find?_quoted_body v) (shows_atomic.mpr nofun) rfl
  refine ⟨?_, ?_⟩
  · rw [texts_of_ne (by simp), textsAll_cons, textsAll_nil, plain.strings, List.append_nil]
  · rw [texts, if_pos rfl, textsAll_cons, textsAll_nil, plain.patterns]
    exact hinges_unquote _

theorem pattern_of_call (spread : mode ≠ .atomic)
    (h : Yields vocabulary v mode (.call "pattern") x ns) :
    ∃ n, ns = [n] ∧ Fulfils vocabulary .pattern n := by
  rcases (h.of_silent rfl rfl).of_choice with quoted | bare
  · exact node_of_call rfl (find?_quoted_pattern v) shows_compound quoted
  · exact node_of_call rfl rfl (shows_atomic.mpr spread) bare

theorem fulfils_flag (spread : mode ≠ .atomic)
    (h : Yields vocabulary v mode (.choice Archive.within (.call "pattern")) x ns) :
    Fulfils vocabulary .flag ⟨"flag", String.ofList x, start, stop, ns⟩ := by
  refine ⟨rfl, ?_⟩
  rw [texts_of_ne (by simp), texts_of_ne (by simp)]
  rcases h.of_choice with qualified | alone
  · obtain ⟨_, _, _, _, _, -, rfl, -, category, h₁⟩ := qualified.of_seq rfl
    obtain ⟨_, behind⟩ := h₁.of_literal_seq
    obtain ⟨c, rfl, plain⟩ := node_of_call rfl rfl (shows_atomic.mpr spread) category
    obtain ⟨n, rfl, strings, pattern⟩ := pattern_of_call spread behind
    have clean : Plain c := plain
    simp only [List.cons_append, List.nil_append, textsAll_cons, textsAll_nil, clean.strings,
      clean.patterns, strings, List.append_nil]
    exact ⟨trivial, pattern.map⟩
  · obtain ⟨n, rfl, strings, pattern⟩ := pattern_of_call spread alone
    simp only [textsAll_cons, textsAll_nil, strings, List.append_nil]
    exact ⟨trivial, pattern.map⟩

/-! ### Operands -/

/-- A flag needs nothing to be an operand. -/
theorem Fulfils.operand {n : ParseNode} (flag : Fulfils vocabulary .flag n) :
    Fulfils vocabulary .operand n := by
  obtain ⟨rule, strings, -⟩ := flag
  rw [Fulfils, strings, Archive.operandOf_flag rule]
  exact .of_ok rfl

theorem operand_of_flag (spread : mode ≠ .atomic)
    (h : Yields vocabulary v mode (.call "flag") x ns) :
    ∃ n, ns = [n] ∧ Fulfils vocabulary .operand n := by
  obtain ⟨n, rfl, flag⟩ := node_of_call rfl (Archive.find?_flag v) (shows_normal.mpr spread) h
  exact ⟨n, rfl, flag.operand⟩

theorem operand_of_enclosed (spread : mode ≠ .atomic)
    (h : Yields vocabulary v mode (enclosed v) x ns) :
    ∃ n, ns = [n] ∧ Fulfils vocabulary .operand n := by
  have grouped {x} (h : Yields vocabulary v mode (.call "grouped") x ns) :
      ∃ n, ns = [n] ∧ Fulfils vocabulary .operand n := by
    obtain ⟨y, set⟩ := (h.of_silent (find?_grouped v) rfl).of_bracketed rfl
    exact node_of_call rfl rfl (shows_normal.mpr spread) set
  unfold enclosed at h
  split at h
  · rcases h.of_choice with bracketed | flag
    · exact grouped bracketed
    · exact operand_of_flag spread flag
  · exact grouped h

theorem operand_of_operand (spread : mode ≠ .atomic)
    (h : Yields vocabulary v mode (.call "operand") x ns) :
    ∃ n, ns = [n] ∧ Fulfils vocabulary .operand n := by
  have later (h : Yields vocabulary v mode (.choice (.call "negation") (enclosed v)) x ns) :
      ∃ n, ns = [n] ∧ Fulfils vocabulary .operand n := by
    rcases h.of_choice with negation | inner
    · exact node_of_call rfl (find?_negation v) (shows_normal.mpr spread) negation
    · exact operand_of_enclosed spread inner
  have body := h.of_silent (find?_operand v) rfl
  unfold orElse at body
  split at body
  · rcases body.of_choice with comparison | other
    · exact node_of_call rfl (find?_comparison v) (shows_normal.mpr spread) comparison
    · exact later other
  · exact later body

theorem fulfils_negation (spread : mode ≠ .atomic)
    (h : Yields vocabulary v mode (.seq (.literal ['-']) (enclosed v)) x ns) :
    Fulfils vocabulary .operand ⟨"negation", String.ofList x, start, stop, ns⟩ := by
  obtain ⟨_, behind⟩ := h.of_literal_seq
  obtain ⟨n, rfl, holds⟩ := operand_of_enclosed spread behind
  rw [Fulfils, texts_of_ne (by simp), operandOf.eq_def]
  simp only [textsAll_cons, textsAll_nil, List.append_nil]
  exact Hinges.map holds

theorem fulfils_comparison (spread : mode ≠ .atomic)
    (h : Yields vocabulary v mode
      (.seq (.call "feature_sum") (.seq (.call "comparator") (.call "feature_sum"))) x ns) :
    Fulfils vocabulary .operand ⟨"comparison", String.ofList x, start, stop, ns⟩ := by
  obtain ⟨_, _, _, _, _, -, rfl, -, first, behind⟩ := h.of_seq rfl
  obtain ⟨_, _, _, _, _, -, rfl, -, sign, second⟩ := behind.of_seq rfl
  obtain ⟨left, rfl, holds⟩ := feature_of_sum spread first
  obtain ⟨right, rfl, holds'⟩ := feature_of_sum spread second
  obtain ⟨op, rfl, plain, named⟩ := node_of_call rfl rfl (shows_atomic.mpr spread) sign
  obtain ⟨c, found⟩ := Option.isSome_iff_exists.mp named
  have known : comparatorOf op = .ok c := by rw [comparatorOf, found]
  rw [Fulfils, texts_of_ne (by simp), operandOf.eq_def]
  simp only [List.cons_append, List.nil_append, textsAll_cons, textsAll_nil, List.append_nil,
    plain.strings]
  refine Hinges.bind holds fun l _ => ?_
  rw [known]
  change Hinges _ (featureOf vocabulary right >>= fun r => pure (Expr.comparison l c r))
  exact Hinges.andThen holds' fun r => ⟨.comparison l c r, rfl⟩

/-- Operands behind set operators are joined, whatever stands before them. -/
theorem hinges_join {nodes : List ParseNode}
    (turns : Alternating (Fulfils vocabulary .sets) (Fulfils vocabulary .operand) nodes)
    (e : Expr) :
    Hinges (textsAll "string" nodes) (joinOperands vocabulary e nodes) := by
  induction turns generalizing e with
  | nil =>
      rw [textsAll_nil, joinOperands]
      exact .of_ok rfl
  | @cons op operand rest operator holds _ ih =>
      obtain ⟨plain, sign⟩ := operator
      rw [textsAll_cons, textsAll_cons, plain.strings, List.nil_append, joinOperands]
      refine Hinges.bind holds fun f _ => ?_
      obtain ⟨joined, join⟩ : ∃ joined, joinSets op e f = .ok joined := by
        unfold joinSets
        rcases sign with comma | bar
        · rw [comma]
          exact ⟨_, rfl⟩
        · rw [bar]
          exact ⟨_, rfl⟩
      rw [join]
      exact ih joined

theorem fulfils_set_expr (spread : mode ≠ .atomic)
    (h : Yields vocabulary v mode (chainOf "operand" "set_op") x ns) :
    Fulfils vocabulary .operand ⟨"set_expr", String.ofList x, start, stop, ns⟩ := by
  have operator {x ns} (h : Yields vocabulary v mode (.call "set_op") x ns) :
      ∃ n, ns = [n] ∧ Fulfils vocabulary .sets n :=
    node_of_call rfl rfl (shows_normal.mpr spread) h
  obtain ⟨first, rest, rfl, holds, turns⟩ :=
    h.of_chain (fun _ => rfl) rfl (operand_of_operand spread) operator
  rw [Fulfils, texts_of_ne (by simp), operandOf_set rfl, textsAll_cons, setOf]
  exact Hinges.bind holds fun e _ => hinges_join turns e

/-- The marks of the end of a text have no literals in them. -/
theorem texts_of_marks {ends : List ParseNode}
    (marks : ∀ n ∈ ends, n.rule = "EOI" ∧ n.children = []) : textsAll "string" ends = [] := by
  induction ends with
  | nil => exact textsAll_nil
  | cons m ends ih =>
      obtain ⟨⟨ended, childless⟩, later⟩ := List.forall_mem_cons.mp marks
      rw [textsAll_cons, ih later, texts_of_ne (by rw [ended]; decide), childless, textsAll_nil,
        List.append_nil]

theorem fulfils_query (spread : mode ≠ .atomic)
    (h : Yields vocabulary v mode (.seq .start (.seq (.call "set_expr") .finish)) x ns) :
    Fulfils vocabulary .query ⟨"query", String.ofList x, start, stop, ns⟩ := by
  obtain ⟨_, _, _, _, _, -, rfl, -, first, behind⟩ := h.of_seq rfl
  obtain ⟨_, _, _, _, ends, -, rfl, -, set, finish⟩ := behind.of_seq rfl
  obtain ⟨-, rfl⟩ := first.of_start
  obtain ⟨n, rfl, -, sound⟩ := set.of_node rfl (shows_normal.mpr spread)
  have built : exprOf vocabulary [⟨"query", String.ofList x, start, stop, n :: ends⟩] =
      operandOf vocabulary n := by
    rw [operandOf_set sound.rule]
    simp [exprOf, ParseNode.is, child?, sound.rule]
  have holds : Hinges (n.texts "string") (operandOf vocabulary n) := sound.fulfils
  rw [Fulfils, texts_of_ne (by simp), List.nil_append, textsAll_append,
    texts_of_marks finish.of_finish.2, List.append_nil, textsAll_cons, textsAll_nil,
    List.append_nil, List.singleton_append, built]
  exact ⟨holds, sound.leaves⟩

/-! ### All rules -/

/-- The rules of queries. -/
def builtRules (named : Bool) : List String := setRules ++ flagRules ++ comparisonRules named

theorem fulfils_story_feature (named : v.named = true) (serves : v.Serves vocabulary)
    {rule : Rule} (found : (queries v).find? "story_feature" = some rule)
    (body : Yields vocabulary v (rule.within mode) rule.body x ns) :
    Fulfils vocabulary .feature ⟨"story_feature", String.ofList x, start, stop, ns⟩ := by
  obtain rfl := Option.some.inj ((find?_story_feature named).symm.trans found)
  obtain ⟨_, _, _, _, rfl, rfl, word, ahead⟩ := Derives.of_seq_tight body nofun rfl
  obtain ⟨rfl, mem⟩ := word.of_words rfl
  obtain ⟨rfl, rfl⟩ := ahead.of_notAhead
  obtain ⟨index, rfl⟩ := serves
  rw [named, List.append_nil]
  have mem : _ ∈ featureWords.map String.toList := mem
  obtain ⟨text, known, rfl⟩ := List.mem_map.mp mem
  obtain ⟨f, feature⟩ := Option.isSome_iff_exists.mp (storyFeature?_isSome.mpr known)
  rw [Fulfils, texts_of_ne (by simp)]
  exact Hinges.of_ok (featureOf_story rfl (by rwa [String.ofList_toList]))

section

variable {name : String} {rule : Rule}

theorem fulfils_set_rule (mem : name ∈ setRules) (found : (queries v).find? name = some rule)
    (shows : rule.shows mode = true)
    (body : Yields vocabulary v (rule.within mode) rule.body x ns) :
    Fulfils vocabulary (roleOf name) ⟨name, String.ofList x, start, stop, ns⟩ := by
  simp only [setRules, List.mem_cons, List.not_mem_nil, or_false] at mem
  rcases mem with rfl | rfl | rfl | rfl | rfl | rfl
  all_goals obtain rfl := Option.some.inj found
  · rw [within_normal rfl] at body
    exact fulfils_query (shows_normal.mp shows) body
  · rw [within_normal rfl] at body
    exact fulfils_set_expr (shows_normal.mp shows) body
  · exact node_of_words (Q := fun text => text = "," ∨ text = "|") (by decide) (by decide) rfl
      (by decide) body
  · cases shows
  · rw [within_normal rfl] at body
    exact fulfils_negation (shows_normal.mp shows) body
  · cases shows

theorem fulfils_flag_rule (mem : name ∈ flagRules) (found : (queries v).find? name = some rule)
    (shows : rule.shows mode = true)
    (body : Yields vocabulary v (rule.within mode) rule.body x ns) :
    Fulfils vocabulary (roleOf name) ⟨name, String.ofList x, start, stop, ns⟩ := by
  simp only [flagRules, List.mem_cons, List.not_mem_nil, or_false] at mem
  rcases mem with rfl | rfl | rfl | rfl | rfl | rfl
  all_goals obtain rfl := Option.some.inj found
  · rw [within_normal rfl] at body
    exact fulfils_flag (shows_normal.mp shows) body
  · obtain rfl := childless_of_atomic body (by decide)
    exact plain_of_childless (by decide) (by decide)
  · cases shows
  · obtain rfl := childless_of_atomic body (by decide)
    have plain := @plain_of_childless start stop "bare_pattern" (String.ofList x) (by decide)
      (by decide)
    refine ⟨plain.strings, ?_⟩
    rw [plain.patterns]
    exact .of_ok rfl
  · exact fulfils_quoted_pattern body
  · obtain rfl := childless_of_atomic body (by decide)
    exact plain_of_childless (by decide) (by decide)

/-- The rules of sums, products and powers, each with its operators. -/
def chainRules : List String :=
  ["feature_sum", "shift_op", "feature_product", "scale_op", "feature_power", "power_op"]

/-- The rules of atoms, but for the features of stories. -/
def atomRules : List String :=
  ["feature_atom", "extremum", "extremum_name", "field", "field_name", "number", "string",
    "string_body"]

theorem fulfils_chain_rule (mem : name ∈ chainRules) (found : (queries v).find? name = some rule)
    (shows : rule.shows mode = true)
    (body : Yields vocabulary v (rule.within mode) rule.body x ns) :
    Fulfils vocabulary (roleOf name) ⟨name, String.ofList x, start, stop, ns⟩ := by
  have operator {name e words} := @node_of_words v vocabulary .atomic x ns start stop name e words
    fun text => (Operator.ofSymbol? text).isSome = true
  simp only [chainRules, List.mem_cons, List.not_mem_nil, or_false] at mem
  rcases mem with rfl | rfl | rfl | rfl | rfl | rfl
  all_goals obtain rfl := Option.some.inj found
  · have spread := shows_normal.mp shows
    rw [within_normal rfl] at body
    exact fulfils_chain body rfl (node_of_call rfl rfl (shows_normal.mpr spread))
      (node_of_call rfl rfl (shows_atomic.mpr spread))
  · exact operator (by decide) (by decide) rfl (by decide) body
  · have spread := shows_normal.mp shows
    rw [within_normal rfl] at body
    exact fulfils_chain body rfl (node_of_call rfl rfl (shows_normal.mpr spread))
      (node_of_call rfl rfl (shows_atomic.mpr spread))
  · exact operator (by decide) (by decide) rfl (by decide) body
  · have spread := shows_normal.mp shows
    rw [within_normal rfl] at body
    exact fulfils_chain body rfl (feature_of_atom spread)
      (node_of_call rfl rfl (shows_atomic.mpr spread))
  · exact operator (by decide) (by decide) rfl (by decide) body

theorem fulfils_atom_rule (mem : name ∈ atomRules) (found : (queries v).find? name = some rule)
    (shows : rule.shows mode = true)
    (body : Yields vocabulary v (rule.within mode) rule.body x ns) :
    Fulfils vocabulary (roleOf name) ⟨name, String.ofList x, start, stop, ns⟩ := by
  simp only [atomRules, List.mem_cons, List.not_mem_nil, or_false] at mem
  rcases mem with rfl | rfl | rfl | rfl | rfl | rfl | rfl | rfl
  all_goals obtain rfl := Option.some.inj found
  · cases shows
  · rw [within_normal rfl] at body
    exact fulfils_extremum (shows_normal.mp shows) body
  · exact node_of_words (Q := fun text => (Extreme.ofWord? text).isSome = true) (by decide)
      (by decide) rfl (by decide) body
  · obtain rfl := childless_of_atomic body (by decide)
    obtain ⟨p, rfl⟩ := field_of_derives rfl body
    refine fulfils_atom (f := .field p.path) rfl (by decide) ?_
    rw [featureOf_field rfl, String.ofList_toList, p.read_text]
    rfl
  · cases shows
  · obtain rfl := childless_of_atomic body (by decide)
    obtain ⟨n, rfl⟩ := number_of_derives body
    exact fulfils_atom rfl (by decide) ((featureOf_number rfl).trans n.numberOf_chars)
  · exact fulfils_string body
  · obtain rfl := childless_of_atomic body (by decide)
    exact plain_of_childless (by decide) (by decide)

theorem fulfils_feature_rule (serves : v.Serves vocabulary) (mem : name ∈ comparisonRules v.named)
    (found : (queries v).find? name = some rule) (shows : rule.shows mode = true)
    (body : Yields vocabulary v (rule.within mode) rule.body x ns) :
    Fulfils vocabulary (roleOf name) ⟨name, String.ofList x, start, stop, ns⟩ := by
  change name ∈ (["comparison", "comparator"] ++ (chainRules ++ atomRules)) ++ _ at mem
  simp only [List.mem_append] at mem
  rcases mem with (comparison | chain | atom) | story
  · simp only [List.mem_cons, List.not_mem_nil, or_false] at comparison
    rcases comparison with rfl | rfl
    all_goals obtain rfl := Option.some.inj found
    · rw [within_normal rfl] at body
      exact fulfils_comparison (shows_normal.mp shows) body
    · exact node_of_words (Q := fun text => (Comparator.ofSymbol? text).isSome = true) (by decide)
        (by decide) rfl (by decide) body
  · exact fulfils_chain_rule chain found shows body
  · exact fulfils_atom_rule atom found shows body
  · split at story
    · rename_i named
      obtain rfl := List.mem_singleton.mp story
      exact fulfils_story_feature named serves found body
    · cases story

/-- The body of a rule gives what the builder needs of its node. -/
theorem fulfils_body (serves : v.Serves vocabulary) (mem : name ∈ builtRules v.named)
    (found : (queries v).find? name = some rule) (shows : rule.shows mode = true)
    (body : Yields vocabulary v (rule.within mode) rule.body x ns) :
    Fulfils vocabulary (roleOf name) ⟨name, String.ofList x, start, stop, ns⟩ := by
  rw [builtRules, List.mem_append, List.mem_append] at mem
  rcases mem with (sets | flags) | features
  · exact fulfils_set_rule sets found shows body
  · exact fulfils_flag_rule flags found shows body
  · exact fulfils_feature_rule serves features found shows body

end

/-! ### Resolving flags -/

theorem hinges_reported {α β : Type} {ts : List String} {x : Reported α} {f : α → Reported β}
    (first : Hinges ts x.result) (later : ∀ a, ∃ b, (f a).result = .ok b) :
    Hinges ts (x >>= f).result := by
  have same : (x >>= f).result = x.result >>= fun a => (f a).result := by
    cases known : x.result with
    | ok a => rw [Reported.bind_ok known]; rfl
    | error e => rw [Reported.bind_error known]; rfl
  rw [same]
  exact first.andThen later

theorem resolves_of_flag (serves : v.Serves vocabulary) {n : ParseNode}
    (flag : Fulfils vocabulary .flag n) : Resolves vocabulary (.flag n) := by
  obtain ⟨index, rfl⟩ := serves
  have tags : Hinges (n.texts "quoted_pattern") (index.flagTags n).result :=
    hinges_reported flag.2.2 fun flag => (index.select_finds flag).imp fun _ => And.left
  unfold Resolves
  cases v.named with
  | true => exact hinges_reported tags fun _ => ⟨_, rfl⟩
  | false => exact hinges_reported tags fun _ => ⟨_, rfl⟩

/-! ### The main result -/

theorem inherits_sound (serves : v.Serves vocabulary) :
    Inherits (queries v) isBlank (Sound vocabulary) (builtRules v.named) := by
  intro name mem rule found mode shows x ns body start stop
  have fulfils := @fulfils_body v vocabulary mode x ns start stop name rule serves mem found shows
    body
  refine ⟨rfl, fulfils, fun e made => leaves_of_operand ?_ ?_ ?_ made⟩
  · intro n mem e made
    rcases body.of_mem mem with ⟨ended, -⟩ | ⟨inner, sound⟩
    · exact absurd made (operandOf_end ended)
    · exact sound.leaves e made
  · rintro rfl
    exact resolves_of_flag serves fulfils
  · intro _ l c r
    trivial

theorem sound_of_parse (serves : v.Serves vocabulary) {text : String} {nodes : List ParseNode}
    (accepted : (queries v).parse "query" text = .ok nodes) :
    ∃ n, nodes = [n] ∧ Sound vocabulary "query" n := by
  have closed : (queries v).Closed (builtRules v.named) := by
    obtain ⟨flags, comparisons, called⟩ := closed_rules v
    refine .of_parts fun name mem => ?_
    rw [builtRules, List.mem_append, List.mem_append] at mem
    rcases mem with (set | flag) | comparison
    · refine ⟨calledRules v, by simp [calledRules, set], ?_, called⟩
      cases on : v.flags <;> cases on' : v.features <;> simp [calledRules, builtRules, on, on']
    · exact ⟨flagRules, flag, by simp [builtRules], flags⟩
    · exact ⟨comparisonRules v.named, comparison, by simp [builtRules], comparisons⟩
  have calls : (Grammar.Task.expr (.call "query")).calls ⊆ builtRules v.named := by
    simp [Grammar.Task.calls, Grammar.Expr.calls, builtRules, setRules]
  obtain ⟨m, read, rfl⟩ := reads_of_parse accepted
  have derives := read.derives (skips_blanks v) closed (inherits_sound serves) calls rfl rfl
  obtain ⟨n, single, -, sound⟩ := Derives.of_node derives
    (rfl : (queries v).find? "query" = _) (shows_normal.mpr (by decide))
  exact ⟨n, single, sound⟩

/-- What the grammar accepts is parsed to an expression, and the flags in it are resolved: under
every profile, only a quoted literal that denotes no text can be in the way. Then it is the first of
these that is refused. -/
theorem parse_accepted {d : Dataset} {capabilities : Capabilities} {engine : Engine}
    (archive : ∃ index, vocabulary = Archive.storyVocabulary index ∨
      vocabulary = Archive.tagVocabulary index)
    (made : Engine.withCapabilities d vocabulary capabilities = .ok engine)
    {text : String} {nodes : List ParseNode} (accepted : engine.parser text = .ok nodes) :
    Hinges (textsAll "string" nodes) (engine.parse text) ∧
      ∀ e, engine.parse text = .ok e → ∀ node, Leaf.flag node ∈ e.leaves →
        Hinges (node.texts "quoted_pattern") (vocabulary.resolveFlag node).result := by
  have built : engine.parse text = exprOf engine.vocabulary nodes := by
    rw [Engine.parse, accepted]
    rfl
  obtain ⟨named, serves⟩ := serves_of_archive capabilities.flags capabilities.features archive
  obtain rfl := parser_of_made serves made
  obtain ⟨n, rfl, sound⟩ := sound_of_parse serves accepted
  obtain ⟨hinges, leaves⟩ := sound.fulfils
  rw [built, textsAll_cons, textsAll_nil, List.append_nil]
  exact ⟨hinges, fun e made node mem => leaves e made (.flag node) mem⟩

/-- A backslash that begins no known escape denotes nothing, so the query is accepted and refused.
-/
theorem parse_accepted_escape :
    Engine.withCapabilities twoStories (Archive.storyVocabulary (.build twoStories))
        { flags := true, features := true } = .ok (storyEngine twoStories) ∧
      ∃ nodes, (storyEngine twoStories).parser "comedy, .title = \"\\q\"" = .ok nodes ∧
        (storyEngine twoStories).parse "comedy, .title = \"\\q\"" =
          .error (.parse (.badLiteral "\"\\q\"")) := by
  have made := @withCapabilities_stories twoStories (by decide +kernel)
  have accepted : ((storyEngine twoStories).parser "comedy, .title = \"\\q\"").toOption.any
      (fun nodes => textsAll "string" nodes == ["\"\\q\""]) = true := by decide +kernel
  obtain ⟨nodes, parsed, strings⟩ := (Option.any_eq_true _ _).mp accepted
  have parsed : (storyEngine twoStories).parser "comedy, .title = \"\\q\"" = .ok nodes := by
    cases read : (storyEngine twoStories).parser "comedy, .title = \"\\q\"" with
    | error e =>
        rw [read] at parsed
        cases parsed
    | ok nodes =>
        rw [read] at parsed
        rw [Option.some.inj parsed]
  have hinges := (parse_accepted ⟨_, .inl rfl⟩ made parsed).1
  have refused : (Text.Quoted.decode "\"\\q\"".toList).isNone = true := by decide +kernel
  rw [eq_of_beq strings, Hinges, List.find?_singleton, if_pos refused] at hinges
  exact ⟨made, nodes, parsed, hinges⟩

end Dialect.Query
