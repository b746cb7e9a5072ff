import Dialect.Proofs.Template.Acceptance
import Dialect.Proofs.Template.ChapterTexts

/-!
Trees of directives.

The body of a directive is data or a join of data with a separator, both rows of atoms. Each rule
passes the shape of its nodes on (`inherits_shaped`), so every directive that is accepted has a body
of this shape (`body_of_parse`). An atom is a chapter text, or has none inside and is made unless
something in it is flawed.
-/

namespace Dialect.Template

open Grammar ParseNode
open Query (DigitRun)

/-! ### Shapes -/

/-- No chapter text is inside of the node. -/
def Inert (n : ParseNode) : Prop :=
  ∀ m : ParseNode, m.Within n → m.rule ≠ "custom_field" ∧ m.rule ≠ "chapter_text"

theorem Inert.of_children {n : ParseNode} (rule : n.rule ≠ "custom_field")
    (rule' : n.rule ≠ "chapter_text") (inner : ∀ k ∈ n.children, Inert k) : Inert n := by
  intro m within
  cases within with
  | self => exact ⟨rule, rule'⟩
  | child mem within => exact inner _ mem m within

/-- A generator that fails at fields only. -/
def Generator.FailsAtFields (g : Generator) : Prop :=
  ∀ record pins fault, g.generate record pins = .error fault →
    ∃ path cause, fault = .field path cause

/-- An atom other than a chapter text. Under every vocabulary it is made, with a generator that
fails at fields only, or refused for a flaw. -/
structure KnownAtom (n : ParseNode) : Prop where
  inert : Inert n
  fails : ∀ v record g, generatedOf v record n = .ok g → g.generator.FailsAtFields
  refused : ∀ v record fault, generatedOf v record n = .error fault →
    ∃ refusal, fault = .parse refusal
  builds : ∀ v, Builds v n

/-- One atom after the other. -/
structure DataNode (n : ParseNode) : Prop where
  rule : n.rule = "data"
  atoms : ∀ m ∈ n.children, ChapterNode m ∨ KnownAtom m

/-- Data with a separator. -/
structure JoinNode (n : ParseNode) : Prop where
  rule : n.rule = "join"
  parts : ∃ data separator, n.children = [data, separator] ∧ DataNode data ∧ DataNode separator

/-- The body of a directive. -/
inductive BodyNode (n : ParseNode) : Prop where
  | data (data : DataNode n)
  | join (join : JoinNode n)

/-- The rules without nodes inside. -/
def leafRules : List String := ["literal_body", "field", "count", "chapter_text"]

/-- The node has the shape that its rule asks for. -/
structure Shaped (name : String) (n : ParseNode) : Prop where
  rule : n.rule = name
  leaf : name ∈ leafRules → n.children = []
  count : name = "count" → ∃ run : DigitRun, n.text.toList = run.chars
  known : name ∈ ["repeated", "literal", "field"] → KnownAtom n
  chapter : name = "custom_field" → ChapterNode n
  data : name = "data" → DataNode n
  join : name = "join" → JoinNode n
  bodies : name = "directive" → ∀ m ∈ n.children, m.rule = "data" ∨ m.rule = "join" → BodyNode m

/-- A node without nodes inside is inert, unless it is a chapter text itself. -/
theorem Shaped.inert {name : String} {n : ParseNode} (shaped : Shaped name n)
    (leaf : name ∈ leafRules) (other : name ≠ "custom_field") (other' : name ≠ "chapter_text") :
    Inert n := by
  refine .of_children ?_ ?_ ?_
  · rwa [shaped.rule]
  · rwa [shaped.rule]
  · rw [shaped.leaf leaf]
    nofun

/-- An atom is a chapter text or a known one. -/
theorem Shaped.atom {name : String} {n : ParseNode} (shaped : Shaped name n)
    (atom : name ∈ atomKinds) : ChapterNode n ∨ KnownAtom n := by
  by_cases chapter : name = "custom_field"
  · exact .inl (shaped.chapter chapter)
  · exact .inr (shaped.known (by simpa [atomKinds, chapter] using atom))

/-- A chapter text inside of data is that of an atom. -/
theorem DataNode.chapter_of_within {n m : ParseNode} (data : DataNode n) (within : m.Within n)
    (named : m.rule = "chapter_text") : ∃ c ∈ n.children, ChapterNode c := by
  cases within with
  | self =>
      rw [data.rule] at named
      exact absurd named (by decide)
  | @child inner _ mem within =>
      rcases data.atoms inner mem with chapter | known
      · exact ⟨inner, mem, chapter⟩
      · exact absurd named (known.inert m within).2

/-! ### Rules -/

variable {custom : Additions} {mode : Mode} {x : List Char} {ns : List ParseNode}
  {start stop : Nat} {name text : String} {rule : Rule}

/-- The expression derives a text with shaped nodes. -/
abbrev Forms (custom : Additions) : Mode → Expr → List Char → List ParseNode → Prop :=
  Derives (directives custom) isBlank Shaped

/-- Rules that are read in one piece make no nodes inside. -/
theorem leaf_body (leaf : name ∈ leafRules) (found : (directives custom).find? name = some rule)
    (body : Forms custom (rule.within mode) rule.body x ns) : ns = [] := by
  have closed : (directives custom).Closed ["field_name"] := by cases custom <;> decide
  have flat : ∀ name ∈ ["field_name"], ∀ rule, (directives custom).find? name = some rule →
      rule.shows .atomic = false ∧ rule.within .atomic = .atomic := by
    intro name mem rule found
    obtain rfl := List.mem_singleton.mp mem
    obtain rfl := Option.some.inj found
    exact ⟨shows_silent, within_silent rfl⟩
  have atomic : rule.within mode = .atomic ∧ rule.body.calls ⊆ ["field_name"] := by
    simp only [leafRules, List.mem_cons, List.not_mem_nil, or_false] at leaf
    rcases leaf with rfl | rfl | rfl | rfl
    · obtain rfl := Option.some.inj found
      exact ⟨rfl, by decide⟩
    · obtain rfl := Option.some.inj found
      exact ⟨rfl, by decide⟩
    · obtain rfl := Option.some.inj found
      exact ⟨rfl, by decide⟩
    · cases custom with
      | absent => cases found
      | unused | chapterTexts =>
          obtain rfl := Option.some.inj found
          exact ⟨rfl, by decide⟩
  exact body.nodes_of_atomic closed flat atomic.1 atomic.2

theorem unquote_error {literal : String} {fault : Error} (fails : unquote literal = .error fault) :
    ∃ refusal, fault = .parse refusal := by
  unfold unquote at fails
  split at fails
  · cases fails
  · exact ⟨_, (Except.error.inj fails).symm⟩

theorem repeated_error {literal count : ParseNode} {fault : Error}
    (fails : repeated literal count = .error fault) : ∃ refusal, fault = .parse refusal := by
  unfold repeated at fails
  split at fails
  · exact ⟨_, (Except.error.inj fails).symm⟩
  · rcases bind_eq_error.mp fails with bad | ⟨s, -, fails⟩
    · exact unquote_error bad
    · dsimp only at fails
      split at fails
      · cases fails
      · exact ⟨_, (Except.error.inj fails).symm⟩

theorem failsAtFields_constant (text : String) :
    (Generated.constant text).generator.FailsAtFields := nofun

theorem failsAtFields_field (path : FieldPath) :
    (Generated.field path).generator.FailsAtFields := by
  intro record pins fault fails
  rw [Generated.field, Generator.generate] at fails
  exact FieldPath.resolve_error (map_eq_error.mp fails)

theorem failsAtFields_repeated {literal count : ParseNode} {g : Generated}
    (made : repeated literal count = .ok g) : g.generator.FailsAtFields := by
  obtain ⟨s, rfl⟩ := constant_of_repeated made
  exact failsAtFields_constant s

theorem known_literal (h : Forms custom .compound
      (.seq (.literal ['"']) (.seq (.call "literal_body") (.literal ['"']))) x ns) :
    KnownAtom ⟨"literal", text, start, stop, ns⟩ := by
  obtain ⟨_, inner⟩ := h.of_bracketed rfl
  obtain ⟨body, rfl, shaped⟩ := node_of_call inner rfl (shows_atomic.mpr (by decide))
  have inert : Inert body := shaped.inert (by decide) (by decide) (by decide)
  refine ⟨.of_children (by simp) (by simp) (by simpa using inert), ?_, ?_,
    fun v => builds_literal rfl⟩
  · intro v record g made
    unfold generatedOf at made
    obtain ⟨s, -, rfl⟩ := map_eq_ok.mp made
    exact failsAtFields_constant s
  · intro v record fault fails
    unfold generatedOf at fails
    exact unquote_error (map_eq_error.mp fails)

theorem known_repeated (spread : mode ≠ .atomic)
    (h : Forms custom mode
      (.seq (.call "literal") (.seq (.literal ['*']) (.call "count"))) x ns) :
    KnownAtom ⟨"repeated", text, start, stop, ns⟩ := by
  obtain ⟨literal, count, rfl, quoted, counts⟩ := nodes_of_repeated spread h
  obtain ⟨run, digits⟩ := counts.count rfl
  have inert : Inert count := counts.inert (by decide) (by decide) (by decide)
  refine ⟨.of_children (by simp) (by simp) ?_, ?_, ?_, ?_⟩
  · simpa using ⟨(quoted.known (by decide)).inert, inert⟩
  · intro v record g made
    unfold generatedOf at made
    exact failsAtFields_repeated made
  · intro v record fault fails
    unfold generatedOf at fails
    exact repeated_error fails
  · intro v record refusal refused
    unfold generatedOf at refused
    exact repeated_refused rfl rfl quoted.rule digits refused

theorem known_field {path : FieldPath} (read : FieldPath.read text = .ok path) :
    KnownAtom ⟨"field", text, start, stop, []⟩ := by
  refine ⟨.of_children (by simp) (by simp) nofun, ?_, ?_, fun v => builds_field read⟩
  · intro v record g made
    unfold generatedOf at made
    obtain ⟨p, -, rfl⟩ := map_eq_ok.mp made
    exact failsAtFields_field p
  · intro v record fault fails
    unfold generatedOf at fails
    cases read.symm.trans (map_eq_error.mp fails)

theorem chapterNode_of_body (spread : mode ≠ .atomic)
    (h : Forms .chapterTexts mode (.call "chapter_text") x ns) :
    ChapterNode ⟨"custom_field", text, start, stop, ns⟩ := by
  obtain ⟨word, rfl, shaped⟩ := node_of_call h rfl (shows_atomic.mpr spread)
  exact ⟨rfl, word, rfl, shaped.rule⟩

theorem dataNode_of_body (spread : mode ≠ .atomic)
    (h : Forms custom mode (.seq (.call "atom") (.star (.call "atom"))) x ns) :
    DataNode ⟨"data", text, start, stop, ns⟩ := by
  refine ⟨rfl, fun n mem => ?_⟩
  obtain ⟨name, atom, shaped⟩ := nodes_of_data spread h n mem
  exact shaped.atom atom

theorem joinNode_of_body (spread : mode ≠ .atomic)
    (h : Forms custom mode (.seq (.literal ['j', 'o', 'i', 'n']) (.seq (.call "data")
      (.seq (.literal ['w', 'i', 't', 'h']) (.call "data")))) x ns) :
    JoinNode ⟨"join", text, start, stop, ns⟩ := by
  obtain ⟨data, separator, rfl, shaped, shaped'⟩ := nodes_of_join spread h
  exact ⟨rfl, data, separator, rfl, shaped.data rfl, shaped'.data rfl⟩

/-! ### All rules -/

theorem inherits_shaped (custom : Additions) :
    Inherits (directives custom) isBlank Shaped (calledRules custom) := by
  intro name called rule found mode shows x ns body start stop
  refine ⟨rfl, fun leaf => leaf_body leaf found body, ?_, ?_, ?_, ?_, ?_, ?_⟩
  · rintro rfl
    obtain rfl := Option.some.inj found
    obtain ⟨run, digits⟩ := Query.digits_of_derives body
    exact ⟨run, by rw [String.toList_ofList, digits]⟩
  · intro known
    simp only [List.mem_cons, List.not_mem_nil, or_false] at known
    rcases known with rfl | rfl | rfl
    · obtain rfl := Option.some.inj found
      rw [within_normal rfl] at body
      exact known_repeated (shows_normal.mp shows) body
    · obtain rfl := Option.some.inj found
      exact known_literal body
    · obtain rfl := leaf_body (by decide) found body
      obtain rfl := Option.some.inj found
      obtain ⟨p, rfl⟩ := Query.field_of_derives rfl body
      rw [String.ofList_toList]
      exact known_field p.read_text
  · rintro rfl
    obtain rfl : custom = .chapterTexts := by
      by_contra other
      simp [calledRules, other] at called
    obtain rfl := Option.some.inj found
    rw [within_normal rfl] at body
    exact chapterNode_of_body (shows_normal.mp shows) body
  · rintro rfl
    obtain rfl := Option.some.inj found
    rw [within_normal rfl] at body
    exact dataNode_of_body (shows_normal.mp shows) body
  · rintro rfl
    obtain rfl := Option.some.inj found
    rw [within_normal rfl] at body
    exact joinNode_of_body (shows_normal.mp shows) body
  · intro _ m mem named
    rcases body.of_mem mem with ⟨ended, -⟩ | ⟨inner, shaped⟩
    · rw [ended] at named
      exact absurd named (by decide)
    · rcases named with data | join
      · exact .data (shaped.data (shaped.rule.symm.trans data))
      · exact .join (shaped.join (shaped.rule.symm.trans join))

/-- An accepted directive has a body, of the shape that the rules ask for. -/
theorem body_of_parse {nodes : List ParseNode}
    (accepted : (directives custom).parse "directive" text = .ok nodes) :
    ∃ root body n after, nodes = [root] ∧ Engine.bodyOf? root = some n ∧
      Opens custom text.toList body after ∧ body.nodes = [n] ∧ BodyNode n := by
  obtain ⟨⟨body, after, opens⟩, root, rfl, shaped⟩ :=
    holds_of_parse (inherits_shaped custom) accepted
  obtain ⟨n, single, rule⟩ := opens.single
  obtain ⟨inside, stop, -, parsed⟩ := opens.parse rfl
  rw [String.ofList_toList, accepted] at parsed
  obtain rfl := List.singleton_inj.mp (Except.ok.inj parsed)
  refine ⟨_, body, n, after, rfl, ?_, opens, single, ?_⟩
  · have named : n.rule ≠ "remainder" ∧ n.rule ≠ "EOI" := by
      rcases rule with join | data <;> simp [*]
    simp [Engine.bodyOf?, directiveNode, single, ParseNode.is, named]
  · refine shaped.bodies rfl n ?_ rule.symm
    rw [directiveNode, single]
    exact List.mem_append_left _ List.mem_cons_self

end Dialect.Template
