import Dialect.Proofs.Grammar.Derivation
import Dialect.Proofs.Query.Spelling
import Dialect.Proofs.Template.Failures
import Dialect.Proofs.Template.Literals

/-!
What the grammar accepts as a directive is given up only for its literals and counts.

Main statement: `malformed_directives` (rendering never fails with a refusal, and an accepted
directive is refused only where a literal denotes no text or a literal is repeated too often).

Each rule passes on to its node that refusals come from flawed nodes inside (`inherits_sound`).
What nodes the bodies of rules have (`nodes_of_data`, `nodes_of_join`, `nodes_of_repeated`) is said
for any property that is passed on.
-/

namespace Dialect.Template

open Grammar ParseNode
open Query (DigitRun)

/-! ### Flawed nodes -/

/-- A node that keeps a directive from being built: a literal that denotes no text, or a repeated
literal whose count does not fit in a word or makes it too long. -/
inductive Flawed : ParseNode → Prop where
  | literal {n : ParseNode} : n.rule = "literal" →
      Text.Quoted.decode n.text.toList = none → Flawed n
  | count {n literal count : ParseNode} (run : DigitRun) : n.rule = "repeated" →
      n.children = [literal, count] → count.text.toList = run.chars →
      Word.count64 ≤ Decimal.natOfDigits run.chars → Flawed n
  | long {n literal count : ParseNode} {text : List Char} (run : DigitRun) : n.rule = "repeated" →
      n.children = [literal, count] → count.text.toList = run.chars →
      Text.Quoted.decode literal.text.toList = some text →
      maxRepeatedBytes < Text.byteSize text * Decimal.natOfDigits run.chars → Flawed n

/-- The node has a flawed node inside. -/
def Broken (n : ParseNode) : Prop := ∃ m, m.Within n ∧ Flawed m

theorem Broken.parent {n tree : ParseNode} (broken : Broken n) (mem : n ∈ tree.children) :
    Broken tree := by
  obtain ⟨m, within, flawed⟩ := broken
  exact ⟨m, .child mem within, flawed⟩

/-- A node that is refused has a flawed node inside. -/
def Builds (v : Vocabulary) (n : ParseNode) : Prop :=
  ∀ record refusal, generatedOf v record n = .error (.parse refusal) → Broken n

/-- The rules whose nodes are built. -/
def builtRules : List String := ["join", "data", "literal", "repeated", "field", "custom_field"]

/-- A node of a rule that can only be refused for a flaw. -/
structure Sound (v : Vocabulary) (name : String) (n : ParseNode) : Prop where
  rule : n.rule = name
  builds : name ∈ builtRules → Builds v n
  count : name = "count" → ∃ run : DigitRun, n.text.toList = run.chars
  inner : ∀ m ∈ n.children, m.rule ∈ builtRules → Builds v m
  paths : ∀ m : ParseNode, m.Within n → m.rule = "field" → ∃ path, FieldPath.read m.text = .ok path

/-- The expression derives a text with such nodes. -/
abbrev Yields (v : Vocabulary) (custom : Additions) :
    Mode → Expr → List Char → List ParseNode → Prop :=
  Derives (directives custom) isBlank (Sound v)

variable {v : Vocabulary} {custom : Additions} {mode : Mode} {x : List Char} {ns : List ParseNode}
  {start stop : Nat} {text : String} {record : Value}

/-! ### The parts of directives -/

/-- The rules whose nodes are atoms. -/
def atomKinds : List String := ["repeated", "literal", "field", "custom_field"]

theorem atomKinds_subset : atomKinds ⊆ builtRules := by decide

section Parts

variable {P : String → ParseNode → Prop}

/-- A call of a rule that makes nodes derives one. -/
theorem node_of_call {name : String} {rule : Rule}
    (h : Derives (directives custom) isBlank P mode (.call name) x ns)
    (found : (directives custom).find? name = some rule) (shows : rule.shows mode = true) :
    ∃ n, ns = [n] ∧ P name n := by
  obtain ⟨n, rfl, -, made⟩ := h.of_node found shows
  exact ⟨n, rfl, made⟩

theorem node_of_atom (spread : mode ≠ .atomic)
    (h : Derives (directives custom) isBlank P mode (.call "atom") x ns) :
    ∃ n, ns = [n] ∧ ∃ name ∈ atomKinds, P name n := by
  have call {name : String} {rule : Rule}
      (h : Derives (directives custom) isBlank P mode (.call name) x ns)
      (found : (directives custom).find? name = some rule) (shows : rule.shows mode = true)
      (atom : name ∈ atomKinds) : ∃ n, ns = [n] ∧ ∃ name ∈ atomKinds, P name n := by
    obtain ⟨n, rfl, made⟩ := node_of_call h found shows
    exact ⟨n, rfl, name, atom, made⟩
  have known (h : Derives (directives custom) isBlank P mode knownAtom x ns) :
      ∃ n, ns = [n] ∧ ∃ name ∈ atomKinds, P name n := by
    rcases h.of_choice with repeated | h
    · exact call repeated rfl (shows_normal.mpr spread) (by decide)
    rcases h.of_choice with literal | field
    · exact call literal rfl shows_compound (by decide)
    · exact call field rfl (shows_atomic.mpr spread) (by decide)
  have body := h.of_silent (find?_atom custom) rfl
  split at body
  · rename_i chapters
    subst chapters
    rcases body.of_choice with custom | atom
    · exact call custom rfl (shows_normal.mpr spread) (by decide)
    · exact known atom
  · exact known body

theorem nodes_of_data (spread : mode ≠ .atomic)
    (h : Derives (directives custom) isBlank P mode
      (.seq (.call "atom") (.star (.call "atom"))) x ns) :
    ∀ n ∈ ns, ∃ name ∈ atomKinds, P name n := by
  obtain ⟨_, _, _, _, _, -, rfl, -, first, more⟩ := h.of_seq rfl
  obtain ⟨n, rfl, atom⟩ := node_of_atom spread first
  refine List.forall_mem_cons.mpr ⟨atom, ?_⟩
  refine more.star_induction (Q := fun _ ns => ∀ n ∈ ns, ∃ name ∈ atomKinds, P name n) (by simp) ?_
  intro x w y ns ks round gap later
  obtain ⟨n, rfl, atom⟩ := node_of_atom spread round
  exact List.forall_mem_cons.mpr ⟨atom, later⟩

theorem nodes_of_join (spread : mode ≠ .atomic)
    (h : Derives (directives custom) isBlank P mode (.seq (.literal ['j', 'o', 'i', 'n'])
      (.seq (.call "data") (.seq (.literal ['w', 'i', 't', 'h']) (.call "data")))) x ns) :
    ∃ data separator, ns = [data, separator] ∧ P "data" data ∧ P "data" separator := by
  obtain ⟨_, h₁⟩ := h.of_literal_seq
  obtain ⟨_, _, _, _, _, -, rfl, -, first, h₂⟩ := h₁.of_seq rfl
  obtain ⟨_, second⟩ := h₂.of_literal_seq
  obtain ⟨data, rfl, made⟩ := node_of_call first rfl (shows_normal.mpr spread)
  obtain ⟨separator, rfl, made'⟩ := node_of_call second rfl (shows_normal.mpr spread)
  exact ⟨data, separator, rfl, made, made'⟩

theorem nodes_of_repeated (spread : mode ≠ .atomic)
    (h : Derives (directives custom) isBlank P mode
      (.seq (.call "literal") (.seq (.literal ['*']) (.call "count"))) x ns) :
    ∃ literal count, ns = [literal, count] ∧ P "literal" literal ∧ P "count" count := by
  obtain ⟨_, _, _, _, _, -, rfl, -, first, h₁⟩ := h.of_seq rfl
  obtain ⟨_, second⟩ := h₁.of_literal_seq
  obtain ⟨literal, rfl, quoted⟩ := node_of_call first rfl shows_compound
  obtain ⟨count, rfl, counts⟩ := node_of_call second rfl (shows_atomic.mpr spread)
  exact ⟨literal, count, rfl, quoted, counts⟩

end Parts

/-! ### Counts and literals -/

theorem unquote_refused {literal : String} {refusal : ParseFault}
    (refused : unquote literal = .error (.parse refusal)) :
    Text.Quoted.decode literal.toList = none := by
  unfold unquote at refused
  split at refused
  · cases refused
  · assumption

theorem unquote_decoded {literal s : String} (made : unquote literal = .ok s) :
    Text.Quoted.decode literal.toList = some s.toList := by
  unfold unquote at made
  split at made
  · rename_i decoded
    obtain rfl := Except.ok.inj made
    rw [decoded, String.toList_ofList]
  · cases made

/-- A run of digits is read as its number, if that fits. -/
theorem readCount_of_run {count : String} {run : DigitRun} (digits : count.toList = run.chars) :
    readCount count = if Decimal.natOfDigits run.chars < Word.count64
      then some (Decimal.natOfDigits run.chars) else none := by
  obtain ⟨d, ds, chars, digit⟩ := run.cons
  have unsigned : d ≠ '+' := by
    rintro rfl
    cases digit
  have all : run.chars.all Char.isDigit = true := List.all_eq_true.mpr run.digits
  unfold readCount
  rw [digits]
  rw [chars] at all ⊢
  simp [unsigned, all]

/-- A repeated literal is refused for its literal or its count. -/
theorem repeated_refused {literal count n : ParseNode} {refusal : ParseFault} {run : DigitRun}
    (rule : n.rule = "repeated") (children : n.children = [literal, count])
    (quoted : literal.rule = "literal") (digits : count.text.toList = run.chars)
    (refused : repeated literal count = .error (.parse refusal)) : Broken n := by
  unfold repeated at refused
  rw [readCount_of_run digits] at refused
  by_cases fits : Decimal.natOfDigits run.chars < Word.count64
  · rw [if_pos fits] at refused
    rcases bind_eq_error.mp refused with bad | ⟨s, made, refused⟩
    · refine ⟨literal, .child ?_ .self, .literal quoted (unquote_refused bad)⟩
      rw [children]
      exact List.mem_cons_self
    · dsimp only at refused
      split at refused
      · cases refused
      · rename_i long
        exact ⟨n, .self, .long run rule children digits (unquote_decoded made)
          (Nat.lt_of_not_le long)⟩
  · exact ⟨n, .self, .count run rule children digits (Nat.le_of_not_lt fits)⟩

/-! ### Rules -/

theorem generatedAll_refused {nodes : List ParseNode} {refusal : ParseFault}
    (refused : generatedAll v record nodes = .error (.parse refusal)) :
    ∃ n ∈ nodes, generatedOf v record n = .error (.parse refusal) := by
  induction nodes with
  | nil => cases refused
  | cons n rest ih =>
      rw [generatedAll] at refused
      rcases bind_eq_error.mp refused with first | ⟨g, -, refused⟩
      · exact ⟨n, List.mem_cons_self, first⟩
      · rcases bind_eq_error.mp refused with later | ⟨gs, -, impossible⟩
        · obtain ⟨m, mem, here⟩ := ih later
          exact ⟨m, List.mem_cons_of_mem _ mem, here⟩
        · cases impossible

theorem builds_join (tame : v.Tame) (spread : mode ≠ .atomic)
    (h : Yields v custom mode (.seq (.literal ['j', 'o', 'i', 'n']) (.seq (.call "data")
      (.seq (.literal ['w', 'i', 't', 'h']) (.call "data")))) x ns) :
    Builds v ⟨"join", text, start, stop, ns⟩ := by
  obtain ⟨data, separator, rfl, sound, sound'⟩ := nodes_of_join spread h
  intro record refusal refused
  unfold generatedOf at refused
  rcases bind_eq_error.mp refused with bad | ⟨d, made, refused⟩
  · exact (sound.builds (by decide) record refusal bad).parent (by simp)
  rcases bind_eq_error.mp refused with bad | ⟨s, made', refused⟩
  · exact (sound'.builds (by decide) record refusal bad).parent (by simp)
  -- what is run while a join is built does not refuse
  · have fault := join_fails ((tame_generatedOf tame record data).ok made)
      ((tame_generatedOf tame record separator).ok made') refused
    cases fault

theorem builds_data (spread : mode ≠ .atomic)
    (h : Yields v custom mode (.seq (.call "atom") (.star (.call "atom"))) x ns) :
    Builds v ⟨"data", text, start, stop, ns⟩ := by
  intro record refusal refused
  unfold generatedOf at refused
  obtain ⟨n, mem, here⟩ := generatedAll_refused (map_eq_error.mp refused)
  obtain ⟨name, atom, sound⟩ := nodes_of_data spread h n mem
  exact (sound.builds (atomKinds_subset atom) record refusal here).parent mem

theorem builds_literal {n : ParseNode} (rule : n.rule = "literal") : Builds v n := by
  obtain ⟨_, text, start, stop, children⟩ := n
  obtain rfl := rule
  intro record refusal refused
  unfold generatedOf at refused
  exact ⟨_, .self, .literal rfl (unquote_refused (map_eq_error.mp refused))⟩

theorem builds_repeated (spread : mode ≠ .atomic)
    (h : Yields v custom mode
      (.seq (.call "literal") (.seq (.literal ['*']) (.call "count"))) x ns) :
    Builds v ⟨"repeated", text, start, stop, ns⟩ := by
  obtain ⟨literal, count, rfl, quoted, counts⟩ := nodes_of_repeated spread h
  obtain ⟨run, digits⟩ := counts.count rfl
  intro record refusal refused
  unfold generatedOf at refused
  exact repeated_refused rfl rfl quoted.rule digits refused

theorem builds_field {path : FieldPath} (read : FieldPath.read text = .ok path) :
    Builds v ⟨"field", text, start, stop, ns⟩ := by
  intro record refusal refused
  unfold generatedOf at refused
  cases read.symm.trans (map_eq_error.mp refused)

theorem builds_custom_field {source : Archive.ChapterSource} (spread : mode ≠ .atomic)
    (h : Yields (Archive.chapterVocabulary source) .chapterTexts mode (.call "chapter_text") x ns) :
    Builds (Archive.chapterVocabulary source) ⟨"custom_field", text, start, stop, ns⟩ := by
  obtain ⟨n, rfl, sound⟩ := node_of_call h rfl (shows_atomic.mpr spread)
  intro record refusal refused
  unfold generatedOf at refused
  change Archive.chapterField source _ record = _ at refused
  rcases bind_eq_error.mp refused with bad | ⟨child, only, refused⟩
  · cases bad
  obtain rfl : n = child := Except.ok.inj only
  have named : n.is "chapter_text" = true := beq_iff_eq.mpr sound.rule
  rw [if_pos named] at refused
  rcases bind_eq_error.mp refused with bad | ⟨id, -, impossible⟩
  · have fault := resolve_fails bad
    cases fault
  · cases impossible

/-! ### All rules -/

/-- The rules of directives that are called. -/
def calledRules (custom : Additions) : List String :=
  ["directive", "remainder", "embed", "join", "data", "atom", "repeated", "literal", "literal_body",
    "field", "field_name", "count"]
  ++ if custom = .chapterTexts then ["custom_field", "chapter_text"] else []

section

variable {name : String} {rule : Rule}

/-- The text of a field is a path. -/
theorem read_of_field (found : (directives custom).find? "field" = some rule)
    (body : Yields v custom (rule.within mode) rule.body x ns) :
    ∃ path, FieldPath.read (String.ofList x) = .ok path := by
  obtain rfl := Option.some.inj found
  obtain ⟨p, rfl⟩ := Query.field_of_derives rfl body
  rw [String.ofList_toList]
  exact ⟨p.path, p.read_text⟩

theorem builds_body (tame : v.Tame)
    (chapters : custom = .chapterTexts → ∃ source, v = Archive.chapterVocabulary source)
    (called : name ∈ calledRules custom) (built : name ∈ builtRules)
    (found : (directives custom).find? name = some rule) (shows : rule.shows mode = true)
    (body : Yields v custom (rule.within mode) rule.body x ns) :
    Builds v ⟨name, String.ofList x, start, stop, ns⟩ := by
  simp only [builtRules, List.mem_cons, List.not_mem_nil, or_false] at built
  rcases built with rfl | rfl | rfl | rfl | rfl | rfl
  · obtain rfl := Option.some.inj found
    rw [within_normal rfl] at body
    exact builds_join tame (shows_normal.mp shows) body
  · obtain rfl := Option.some.inj found
    rw [within_normal rfl] at body
    exact builds_data (shows_normal.mp shows) body
  · exact builds_literal rfl
  · obtain rfl := Option.some.inj found
    rw [within_normal rfl] at body
    exact builds_repeated (shows_normal.mp shows) body
  · obtain ⟨path, read⟩ := read_of_field found body
    exact builds_field read
  · obtain rfl : custom = .chapterTexts := by
      by_contra other
      simp [calledRules, other] at called
    obtain ⟨source, rfl⟩ := chapters rfl
    obtain rfl := Option.some.inj found
    rw [within_normal rfl] at body
    exact builds_custom_field (shows_normal.mp shows) body

/-- Each rule passes on that its nodes are refused only for flaws inside of them. -/
theorem inherits_sound (tame : v.Tame)
    (chapters : custom = .chapterTexts → ∃ source, v = Archive.chapterVocabulary source) :
    Inherits (directives custom) isBlank (Sound v) (calledRules custom) := by
  intro name called rule found mode shows x ns body start stop
  refine ⟨rfl, fun built => builds_body tame chapters called built found shows body, ?_, ?_, ?_⟩
  · rintro rfl
    obtain rfl := Option.some.inj found
    obtain ⟨run, digits⟩ := Query.digits_of_derives body
    exact ⟨run, by rw [String.toList_ofList, digits]⟩
  · intro m mem built
    rcases body.of_mem mem with ⟨ended, -⟩ | ⟨inner, sound⟩
    · rw [ended] at built
      exact absurd built (by decide)
    · exact sound.builds (sound.rule ▸ built)
  · intro m within named
    cases within with
    | self =>
        obtain rfl : name = "field" := named
        exact read_of_field found body
    | child mem within =>
        rcases body.of_within mem within with ended | ⟨inner, sound⟩
        · rw [ended] at named
          exact absurd named (by decide)
        · exact sound.paths m within named

end

/-! ### The main result -/

/-- What the rules pass on holds of every directive that is accepted. -/
theorem holds_of_parse {P : String → ParseNode → Prop}
    (inherits : Inherits (directives custom) isBlank P (calledRules custom))
    {nodes : List ParseNode} (accepted : (directives custom).parse "directive" text = .ok nodes) :
    (∃ body after, Opens custom text.toList body after) ∧
      ∃ n, nodes = [n] ∧ P "directive" n := by
  have closed : (directives custom).Closed (calledRules custom) := by
    cases custom <;> decide +kernel
  have calls : (Grammar.Task.expr (.call "directive")).calls ⊆ calledRules custom := by
    simp [Grammar.Task.calls, Grammar.Expr.calls, calledRules]
  have read := reads_attempt custom text.toList
  unfold Grammar.parse at accepted
  dsimp only at accepted
  cases found : (attempt (directives custom) "directive" text.toList).found with
  | none =>
      rw [found] at accepted
      cases accepted
  | some m =>
      rw [found] at accepted read
      obtain rfl := Except.ok.inj accepted
      refine ⟨opens_of_reads read, ?_⟩
      have derives := read.derives (skips_blanks custom) closed inherits calls rfl rfl
      obtain ⟨n, single, -, holds⟩ :=
        Derives.of_node derives (find?_directive custom) (shows_normal.mpr (by decide))
      exact ⟨n, single, holds⟩

theorem sound_of_parse (tame : v.Tame)
    (chapters : custom = .chapterTexts → ∃ source, v = Archive.chapterVocabulary source)
    {nodes : List ParseNode} (accepted : (directives custom).parse "directive" text = .ok nodes) :
    (∃ body after, Opens custom text.toList body after) ∧
      ∃ n, nodes = [n] ∧ Sound v "directive" n :=
  holds_of_parse (inherits_sound tame chapters) accepted

/-- A directive that is given up has something broken in it: only its content can be refused. -/
theorem broken_of_none {record : Value} {body : Match} {after : List Char} {n : ParseNode}
    (opens : Opens custom text.toList body after)
    (accepted : (directives custom).parse "directive" text = .ok [n])
    (sound : Sound v "directive" n)
    (none : Engine.directive ⟨v, (directives custom).parse "directive", false⟩ record text.toList =
      .ok none) : Broken n := by
  obtain ⟨node, single, rule⟩ := opens.single
  obtain ⟨inside, stop, -, parsed⟩ := opens.parse rfl
  rw [String.ofList_toList, accepted] at parsed
  obtain rfl := List.singleton_inj.mp (Except.ok.inj parsed)
  have mem : node ∈ (directiveNode text.toList stop body.nodes
      (inside ++ '\x7d' :: after.takeWhile isBlank) (after.dropWhile isBlank)).children := by
    rw [directiveNode, single]
    exact List.mem_append_left _ List.mem_cons_self
  rw [directive_eq rfl opens single, outcome] at none
  split at none
  · rename_i generated _
    cases value : generated.generator.generate record ∅ with
    | ok value' => simp [value, Except.map] at none
    | error fault => simp [value, Except.map] at none
  · rename_i refused
    have built : node.rule ∈ builtRules := by
      rcases rule with join | data
      · rw [join]
        decide
      · rw [data]
        decide
    exact (sound.inner node mem built record _ refused).parent mem
  · cases none

/-- A malformed directive does not abort rendering. Under every profile:

* rendering fails only on the record or in the embedding, and never refuses the template;
* in what the grammar accepts as a directive, the texts of all fields are paths, and the directive
  is given up only if there is a literal in it that denotes no text, or a literal that is repeated
  too often. -/
theorem malformed_directives {capabilities : Capabilities} {engine : Engine}
    (known : v = .plain ∨ ∃ source, Modest source ∧ v = Archive.chapterVocabulary source)
    (made : Engine.withCapabilities v capabilities = .ok engine) :
    (∀ on template record fault,
      (engine.withConsistentQuotes on).render template record = .error fault → RenderFault fault) ∧
    ∀ text nodes, engine.parser text = .ok nodes →
      (∀ n ∈ nodes, ∀ m : ParseNode, m.Within n → m.rule = "field" →
        ∃ path, FieldPath.read m.text = .ok path) ∧
      ∀ record, engine.directive record text.toList = .ok none → ∃ n ∈ nodes, Broken n := by
  have tame : v.Tame := by
    rcases known with rfl | ⟨source, modest, rfl⟩
    · exact tame_plain
    · exact tame_chapters modest
  have archive : v = .plain ∨ ∃ source, v = Archive.chapterVocabulary source :=
    known.imp_right fun ⟨source, _, same⟩ => ⟨source, same⟩
  obtain ⟨custom, rfl, chapters⟩ := engine_of_made archive made
  refine ⟨fun on template record fault fails => ?_, fun text nodes accepted => ?_⟩
  · have tame' : (Engine.withConsistentQuotes
        ⟨v, (directives custom).parse "directive", false⟩ on).vocabulary.Tame := tame
    exact render_fails tame' fails
  · change (directives custom).parse "directive" text = _ at accepted
    obtain ⟨⟨body, after, opens⟩, n, rfl, sound⟩ := sound_of_parse tame chapters accepted
    refine ⟨fun m mem => ?_, fun record none =>
      ⟨n, List.mem_cons_self, broken_of_none opens accepted sound none⟩⟩
    obtain rfl := List.mem_singleton.mp mem
    exact sound.paths

/-- The engine for templates over stories without chapters. -/
def emptyEngine : Engine :=
  ⟨Archive.chapterVocabulary (.ofList []), (directives .chapterTexts).parse "directive", false⟩

/-- A literal that is repeated once too often: the join around it is given up before anything is
looked up in the record. -/
theorem malformed_directives_count :
    Engine.new (Archive.chapterVocabulary (.ofList [])) = .ok emptyEngine ∧
      ∃ nodes, emptyEngine.parser "\x7bjoin .a \"x\" * 1048577 with chapter_text\x7d" = .ok nodes ∧
        emptyEngine.directive .null
          "\x7bjoin .a \"x\" * 1048577 with chapter_text\x7d".toList = .ok none ∧
        ∃ n ∈ nodes, Broken n := by
  have made : Engine.new (Archive.chapterVocabulary (.ofList [])) = .ok emptyEngine :=
    withCapabilities_chapters _ _
  have given : emptyEngine.directive .null
      "\x7bjoin .a \"x\" * 1048577 with chapter_text\x7d".toList = .ok none := by
    decide +kernel
  have accepted : (emptyEngine.parser
      "\x7bjoin .a \"x\" * 1048577 with chapter_text\x7d").toOption.isSome = true := by
    decide +kernel
  cases parsed : emptyEngine.parser "\x7bjoin .a \"x\" * 1048577 with chapter_text\x7d" with
  | error fault =>
      rw [parsed] at accepted
      cases accepted
  | ok nodes =>
      obtain ⟨-, malformed⟩ := malformed_directives (.inr ⟨_, modest_ofList [], rfl⟩) made
      exact ⟨made, nodes, rfl, given, (malformed _ nodes parsed).2 .null given⟩

end Dialect.Template
