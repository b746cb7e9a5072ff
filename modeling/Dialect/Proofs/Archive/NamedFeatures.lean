import Dialect.Proofs.Archive.Quotation
import Dialect.Proofs.Grammar.Following
import Dialect.Proofs.Query.Acceptance
import Dialect.Proofs.Query.Narrowing

/-!
Paths, and the features that stories have by name.

The rule of names is tried before the one of fields, and gives way to it by looking ahead. Main
statement: `story_features_shadow` (a path in a query is a feature by name just when it is one of
the names, and else the field of its whole text).

Both rules are reached through atoms only (`routes_queries`), and behind an atom nothing is accepted
that might have gone on with a path. So each of their nodes stands where a path ends, and there
`path_taken` says which of the rules has read it.
-/

namespace Dialect.Archive

open Query Grammar

variable {v : Variant} {index : TagIndex} {cs : List Char} {at_ : Nat}

/-! ### Where paths stand -/

/-- The rules through which a path is reached. -/
def operandRules : List String :=
  ["query", "set_expr", "operand", "negation", "grouped", "comparison", "feature_sum",
    "feature_product", "feature_power", "feature_atom", "extremum"]

/-- The rules of paths. -/
def pathRules : List String := ["field", "story_feature"]

/-- Nothing in the expression is read behind a path that might have gone on. -/
abbrev Orderly (v : Variant) (e : Grammar.Expr) : Prop :=
  e.Orderly (queries v) continuesPath operandRules pathRules

theorem clears_spaced {e : Grammar.Expr} (clears : Clears (queries v) continuesPath (.expr e)) :
    Clears (queries v) continuesPath (.spaced e) := by
  have outside : ∀ b ∈ blanks, continuesPath b = false := by decide
  exact clears.spaced (skips_blanks v) fun b mem => outside b (List.contains_iff_mem.mp mem)

/-- The rules of what stands between operands. -/
def signRules : List String := ["set_op", "comparator", "shift_op", "scale_op", "power_op"]

theorem separates_sign (v : Variant) {sign : String} (mem : sign ∈ signRules) :
    Separates (queries v) continuesPath (.call sign) := by
  simp only [signRules, List.mem_cons, List.not_mem_nil, or_false] at mem
  rcases mem with rfl | rfl | rfl | rfl | rfl <;>
  exact .call rfl (.words rfl (by decide))

theorem separates_literal {c : Char} (outside : continuesPath c = false) :
    Separates (queries v) continuesPath (.literal [c]) :=
  .words rfl (by simpa using outside)

/-- No path is read where an operand is, but by the rule of the operand. -/
theorem operand_apart : ∀ name ∈ operandRules, [name].Disjoint pathRules := by decide

theorem orderly_chain {operand sign : String} (mem : sign ∈ signRules)
    (known : operand ∈ operandRules) : Orderly v (chainOf operand sign) := by
  have round := (separates_sign v mem).seq (b := .call operand)
  have apart := operand_apart operand known
  have beside : ∀ name ∈ signRules, [name].Disjoint operandRules ∧ [name].Disjoint pathRules := by
    decide
  have within : [sign, operand].Disjoint pathRules :=
    List.disjoint_append_left.mpr ⟨(beside sign mem).2, apart⟩
  refine ⟨trivial, ⟨⟨trivial, trivial, within, .inl (beside sign mem).1⟩, within,
    .inr (clears_spaced round.clears)⟩, ?_, .inr (clears_spaced (.star round))⟩
  exact List.disjoint_append_left.mpr ⟨apart, within⟩

theorem orderly_bracketed {name : String} (known : name ∈ operandRules) :
    Orderly v (.seq (.literal ['(']) (.seq (.call name) (.literal [')']))) := by
  have within := operand_apart name known
  have closing := clears_spaced (separates_literal (v := v) (c := ')') (by decide)).clears
  exact ⟨trivial, ⟨trivial, trivial, within, .inr closing⟩, within,
    .inl (List.disjoint_nil_left _)⟩

theorem orderly_comparison :
    Orderly v (.seq (.call "feature_sum") (.seq (.call "comparator") (.call "feature_sum"))) :=
  ⟨trivial, ⟨trivial, trivial, by decide, .inl (by decide)⟩, by decide,
    .inr (clears_spaced (separates_sign v (by decide)).seq.clears)⟩

theorem orderly_extremum : Orderly v (.seq (.call "extremum_name") (.seq (.literal ['('])
    (.seq (.call "feature_sum") (.seq (.star (.seq (.literal [',']) (.call "feature_sum")))
      (.literal [')']))))) := by
  have comma := (separates_literal (v := v) (c := ',') (by decide)).seq (b := .call "feature_sum")
  have closing := clears_spaced (separates_literal (v := v) (c := ')') (by decide)).clears
  have round : Orderly v (.seq (.literal [',']) (.call "feature_sum")) :=
    ⟨trivial, trivial, by decide, .inl (by decide)⟩
  have more : Orderly v (.seq (.star (.seq (.literal [',']) (.call "feature_sum")))
      (.literal [')'])) :=
    ⟨⟨round, by decide, .inr (clears_spaced comma.clears)⟩, trivial, by decide, .inr closing⟩
  exact ⟨trivial, ⟨trivial, ⟨trivial, more, by decide,
    .inr (clears_spaced ((Clears.star comma).seq closing))⟩, by decide, .inl (by decide)⟩,
    by decide, .inl (by decide)⟩

theorem orderly_enclosed (v : Variant) :
    Orderly v (enclosed v) ∧ (enclosed v).calls.Disjoint pathRules := by
  unfold enclosed
  split
  · exact ⟨⟨trivial, trivial⟩, by decide⟩
  · exact ⟨trivial, by decide⟩

theorem orderly_operand (v : Variant) :
    Orderly v (orElse v.features (.call "comparison") (.choice (.call "negation") (enclosed v))) ∧
      (orElse v.features (.call "comparison")
        (.choice (.call "negation") (enclosed v))).calls.Disjoint pathRules := by
  obtain ⟨orderly, apart⟩ := orderly_enclosed v
  have negation : ["negation"].Disjoint pathRules := by decide
  have later := List.disjoint_append_left.mpr ⟨negation, apart⟩
  unfold orElse
  split
  · have comparison : ["comparison"].Disjoint pathRules := by decide
    exact ⟨⟨trivial, trivial, orderly⟩, List.disjoint_append_left.mpr ⟨comparison, later⟩⟩
  · exact ⟨⟨trivial, orderly⟩, later⟩

theorem orderly_atom (v : Variant) :
    Orderly v (orElse v.named (.call "story_feature") atoms) := by
  have atoms_ : Orderly v atoms :=
    ⟨trivial, trivial, orderly_bracketed (by decide), trivial, trivial⟩
  unfold orElse
  split
  · exact ⟨trivial, atoms_⟩
  · exact atoms_

/-- Paths are reached through the rules of operands, and only atoms are paths. -/
theorem routes_queries (v : Variant) :
    Routes (queries v) continuesPath operandRules pathRules "feature_atom" where
  silent := ⟨_, (speaks_queries v).find?_atom⟩
  plain := by decide
  unmarked := by decide
  through := by
    intro name mem rule found
    simp only [operandRules, List.mem_cons, List.not_mem_nil, or_false] at mem
    rcases mem with rfl | rfl | rfl | rfl | rfl | rfl | rfl | rfl | rfl | rfl | rfl
    all_goals obtain rfl := Option.some.inj found
    · have ending := clears_spaced (v := v) Separates.finish.clears
      exact ⟨rfl, ⟨trivial, ⟨trivial, trivial, by decide, .inr ending⟩, by decide,
        .inl (by decide)⟩, fun _ => by decide⟩
    · exact ⟨rfl, orderly_chain (by decide) (by decide), fun _ => by decide⟩
    · exact ⟨rfl, (orderly_operand v).1, fun _ => (orderly_operand v).2⟩
    · obtain ⟨orderly, apart⟩ := orderly_enclosed v
      exact ⟨rfl, ⟨trivial, orderly, apart, .inl (List.disjoint_nil_left _)⟩, fun _ => apart⟩
    · exact ⟨rfl, orderly_bracketed (by decide), fun _ => by decide⟩
    · exact ⟨rfl, orderly_comparison, fun _ => by decide⟩
    · exact ⟨rfl, orderly_chain (by decide) (by decide), fun _ => by decide⟩
    · exact ⟨rfl, orderly_chain (by decide) (by decide), fun _ => by decide⟩
    · exact ⟨rfl, orderly_chain (by decide) (by decide), fun _ => by decide⟩
    · exact ⟨rfl, orderly_atom v, fun other => absurd rfl other⟩
    · exact ⟨rfl, orderly_extremum, fun _ => by decide⟩
  beside := by
    intro name other rule found
    have all : ∀ rule ∈ (queries v).rules, rule.name ∉ operandRules →
        rule.body.calls.Disjoint (operandRules ++ pathRules) := by
      obtain ⟨named, flags, features⟩ := v
      cases named <;> cases flags <;> cases features <;> decide +kernel
    exact all rule (find?_mem found) (find?_name found ▸ other)

/-! ### Nodes of paths -/

/-- The path of a single name. -/
def singlePath (name : String) (identifier : IsIdentifier name) : IdentifierPath where
  path := ⟨[name]⟩
  nonempty := by simp
  identifiers := List.forall_mem_singleton.mpr identifier

/-- The words for features are paths. -/
theorem exists_path_of_word {word : String} (known : word ∈ featureWords) :
    ∃ p : IdentifierPath, p.path.text = word := by
  simp only [featureWords, List.mem_cons, List.not_mem_nil, or_false] at known
  rcases known with rfl | rfl | rfl | rfl | rfl
  · exact ⟨singlePath "ratio" ⟨'r', _, rfl, by decide, by decide⟩, rfl⟩
  · exact ⟨singlePath "status" ⟨'s', _, rfl, by decide, by decide⟩, rfl⟩
  · exact ⟨singlePath "likes" ⟨'l', _, rfl, by decide, by decide⟩, rfl⟩
  · exact ⟨singlePath "dislikes" ⟨'d', _, rfl, by decide, by decide⟩, rfl⟩
  · exact ⟨singlePath "wordcount" ⟨'w', _, rfl, by decide, by decide⟩, rfl⟩

section

variable {g : Grammar} {name : String} {body : Grammar.Expr} {m : Match}

/-- The node of an atomic rule begins where the rule is read, and spans what is taken. -/
theorem node_of_atomic (found : g.find? name = some ⟨name, .atomic, body⟩)
    (h : Reads g (.expr (.call name)) {} at_ cs (some m)) :
    ∃ n, Reads g (.expr body) { mode := .atomic } at_ cs (some n) ∧ cs = n.taken ++ m.rest ∧
      ∃ stop, m.nodes = [⟨name, String.ofList n.taken, at_, stop, n.nodes⟩] := by
  obtain ⟨x, read, same⟩ := (reads_call found).mp h
  obtain ⟨n, rfl, rfl⟩ := Option.map_eq_some_iff.mp same.symm
  exact ⟨n, read, (read.taken_append_rest rfl).symm, _, rfl⟩

/-- What is derived inside of a path needs no property. -/
theorem derives_token {n : Match} (calls : body.calls ⊆ ["field_name"])
    (h : Reads (queries v) (.expr body) { mode := .atomic } at_ cs (some n)) :
    Derives (queries v) isBlank (fun _ _ => True) .atomic body n.taken n.nodes := by
  have closed : (queries v).Closed ["field_name"] := by
    intro name mem
    obtain rfl := List.mem_singleton.mp mem
    rfl
  exact h.derives (skips_blanks v) closed (fun _ _ _ _ _ _ _ _ _ _ _ => trivial) calls rfl rfl

/-- What a rule of paths reads is a path. -/
theorem path_of_reads (mem : name ∈ pathRules)
    (h : Reads (queries v) (.expr (.call name)) {} at_ cs (some m)) :
    ∃ p : IdentifierPath, cs = p.path.text.toList ++ m.rest ∧
      ∃ n : ParseNode, m.nodes = [n] ∧ n.start = at_ := by
  simp only [pathRules, List.mem_cons, List.not_mem_nil, or_false] at mem
  rcases mem with rfl | rfl
  · obtain ⟨n, read, split, stop, single⟩ := node_of_atomic rfl h
    obtain ⟨p, taken⟩ := field_of_derives rfl (derives_token (by decide) read)
    exact ⟨p, taken ▸ split, _, single, rfl⟩
  · cases named : v.named with
    | false =>
      have none : (queries v).find? "story_feature" = none := by
        obtain ⟨named_, flags, features⟩ := v
        obtain rfl : named_ = false := named
        rfl
      cases h.unique (.missing none)
    | true =>
      obtain ⟨n, read, split, stop, single⟩ := node_of_atomic (find?_story_feature named) h
      obtain ⟨_, _, _, _, same, -, word, ahead⟩ :=
        Derives.of_seq_tight (derives_token (by decide) read) nofun rfl
      obtain ⟨rfl, -⟩ := ahead.of_notAhead
      obtain ⟨-, mem⟩ := word.of_words rfl
      have mem : _ ∈ featureWords.map String.toList := mem
      obtain ⟨text, known, rfl⟩ := List.mem_map.mp mem
      obtain ⟨p, rfl⟩ := exists_path_of_word known
      rw [List.append_nil] at same
      exact ⟨p, same ▸ split, _, single, rfl⟩

end

/-- The node spans the path, which stands in the text where the node begins, and nothing goes on
with it there. -/
structure SpansPath (source : List Char) (p : IdentifierPath) (n : ParseNode) : Prop where
  text : n.text = p.path.text
  place : ∃ before after, source = before ++ (p.path.text.toList ++ after) ∧
    n.start = Text.byteSize before ∧ Clear continuesPath after

/-- What is placed as an atom is a path, and read by the rule for it. -/
theorem spansPath_of_placed {n : ParseNode} {source : List Char}
    (placed : Placed (queries v) continuesPath pathRules "feature_atom" 0 source n) :
    ∃ p, SpansPath source p n ∧ Spans (pathRule v.named p) p.path.text.toList n := by
  obtain ⟨before, cs, m, rfl, mem, clear, atom, name, path, read⟩ := placed
  obtain ⟨p, split, n', single, start⟩ := path_of_reads path read
  rw [single] at mem
  obtain rfl := List.mem_singleton.mp mem
  obtain ⟨m', bs, read', -, -, n', single', spans⟩ := path_taken (speaks_queries v) p
    (by simp [Blank] : Blank isBlank []) (by simpa using clear) (0 + Text.byteSize before)
  rw [List.append_nil, ← split] at read'
  obtain rfl := Option.some.inj (atom.unique read')
  obtain rfl := List.singleton_inj.mp (single.symm.trans single')
  refine ⟨p, ⟨spans.2.trans String.ofList_toList, before, m.rest, by rw [split], ?_, clear⟩, spans⟩
  rw [start, Nat.zero_add]

/-- In what is accepted, the nodes of paths span paths, and are made by the rules for them. -/
theorem spansPath_of_parse {text : String} {nodes : List ParseNode} {root n : ParseNode}
    (accepted : (queries v).parse "query" text = .ok nodes) (mem : root ∈ nodes)
    (within : n.Within root) (path : n.rule ∈ pathRules) :
    ∃ p, SpansPath text.toList p n ∧ Spans (pathRule v.named p) p.path.text.toList n := by
  obtain ⟨m, read, rfl⟩ := reads_of_parse accepted
  have rest : m.rest = [] := by
    have split := read.taken_append_rest rfl
    rwa [query_taken read, List.append_right_eq_self] at split
  have clear : Clear continuesPath m.rest := by
    rw [rest]
    exact Clear.nil
  exact spansPath_of_placed (read.placed (skips_blanks v) (routes_queries v) (by decide) clear mem
    within path)

theorem pathRule_eq_iff {p : IdentifierPath} :
    pathRule true p = "story_feature" ↔ p.path.text ∈ featureWords := by
  rw [pathRule, Bool.true_and, List.contains_eq_mem]
  split
  · next known => simpa using known
  · next other => simpa using other

/-! ### Names and other paths -/

/-- A name is not the field that it stands for, if it stands for one. -/
theorem text_ne_of_storyFeature? {word : String} {q : FieldPath}
    (known : storyFeature? word = some (.field q)) : q.text ≠ word := by
  unfold storyFeature? at known
  split at known
  case h_1 | h_6 => cases known
  all_goals
    obtain rfl := Feature.field.inj (Option.some.inj known)
    decide

/-- A path is the field of its own text just when it is none of the names. -/
theorem pathFeature_eq_field_iff {p : IdentifierPath} :
    pathFeature true p = .field p.path ↔ p.path.text ∉ featureWords := by
  rw [pathFeature, if_pos rfl, ← storyFeature?_isSome]
  cases known : storyFeature? p.path.text with
  | none => simp
  | some f =>
    rw [Option.getD_some]
    constructor
    · rintro rfl
      exact absurd rfl (text_ne_of_storyFeature? known)
    · intro unknown
      exact absurd rfl unknown

/-- What goes on behind a name is none of the names. -/
theorem longer_not_mem_featureWords {word more : String} (known : word ∈ featureWords)
    (goesOn : more ≠ "") : word ++ more ∉ featureWords := by
  intro mem
  have apart : ∀ w ∈ featureWords, ∀ w' ∈ featureWords, w.toList <+: w'.toList → w = w' := by
    decide
  have same := apart word known _ mem ⟨more.toList, String.toList_append.symm⟩
  exact goesOn (String.append_eq_left_iff.mp same.symm)

/-! ### Whole comparisons -/

/-- The text is written for a comparison of the features, and paths stand for features. -/
structure WritesComparison (path : IdentifierPath → Feature) (text : String) (f : Feature)
    (sign : ComparatorSign) (f' : Feature) : Prop where
  sides : ∃ bs cs bs' ds, text.toList = bs ++ (cs ++ (sign.text.toList ++ bs' ++ ds)) ∧
    Blank isBlank bs ∧ Written path 0 cs f ∧ Blank isBlank bs' ∧ Written path 0 ds f'

/-- A written comparison is parsed to it, with a feature for each path. -/
theorem WritesComparison.parse {engine : Engine} {text : String} {f f' : Feature}
    {sign : ComparatorSign} (written : WritesComparison (pathFeature v.named) text f sign f')
    (features : v.features = true) (parser : engine.parser = (queries v).parse "query")
    (tagged : engine.vocabulary = vocabularyOf v.named index) :
    engine.parse text = .ok (.comparison f sign.comparator f') := by
  obtain ⟨bs, cs, bs', ds, chars, blank, left, blank', right⟩ := written.sides
  have speaks := speaks_queries v
  have paths (p : IdentifierPath) {bs : List Char} (blank : Blank isBlank bs) :
      TakesAt (queries v) engine.vocabulary 3 (p.path.text.toList ++ bs)
        (pathFeature v.named p) := by
    rw [tagged]
    exact path_atom speaks index p blank
  have last := (right.reads speaks paths).1 [] (by simp [BeginsIn])
  exact parse_comparison features parser sign chars blank (left.reads speaks paths).1 blank' last
    left.clear_blank fun p outside => by simpa using right.clear outside []

/-! ### The main result -/

/-- The names of story features take their own place only. Whatever the profile under which an
engine over stories was made:

* a path is the field of its own text, read as such, unless it is one of the names; a path that only
begins with a name, and goes on, is none of them;
* a text that is written for a comparison is parsed to it, however its features are nested, with the
feature of its name for each path that is a name and the field for each other one;
* in every query that is accepted, each node of a path spans a path, which does not go on behind it,
and the node is made by the rule of names just when the path is a name; from each such node the
engine builds the same feature. -/
theorem story_features_shadow {d : Dataset} {capabilities : Capabilities} {engine : Engine}
    (made : Engine.withCapabilities d (storyVocabulary index) capabilities = .ok engine) :
    (∀ p : IdentifierPath,
      (p.path.text ∈ featureWords → storyFeature? p.path.text = some (pathFeature true p)) ∧
      (pathFeature true p = .field p.path ↔ p.path.text ∉ featureWords) ∧
      FieldPath.read p.path.text = .ok p.path ∧
      ∀ word ∈ featureWords, ∀ more, more ≠ "" → p.path.text = word ++ more →
        pathFeature true p = .field p.path) ∧
    (capabilities.features = true → ∀ text f sign f',
      WritesComparison (pathFeature true) text f sign f' →
        engine.parse text = .ok (.comparison f sign.comparator f')) ∧
    ∀ text nodes, engine.parser text = .ok nodes → ∀ root ∈ nodes, ∀ n : ParseNode,
      n.Within root → n.rule = "field" ∨ n.rule = "story_feature" →
        ∃ p, SpansPath text.toList p n ∧
          (n.rule = "story_feature" ↔ p.path.text ∈ featureWords) ∧
          featureOf engine.vocabulary n = .ok (pathFeature true p) := by
  have serves : (Variant.mk true capabilities.flags capabilities.features).Serves
      (storyVocabulary index) := ⟨index, rfl⟩
  obtain rfl := parser_of_made serves made
  refine ⟨fun p => ⟨fun known => ?_, pathFeature_eq_field_iff, p.read_text,
    fun word known more goesOn same => ?_⟩, fun on text f sign f' written => ?_,
    fun text nodes accepted root mem n within path => ?_⟩
  · obtain ⟨f, named⟩ := Option.isSome_iff_exists.mp (storyFeature?_isSome.mpr known)
    rw [pathFeature, if_pos rfl, named, Option.getD_some]
  · rw [pathFeature_eq_field_iff, same]
    exact longer_not_mem_featureWords known goesOn
  · exact written.parse (v := ⟨true, capabilities.flags, capabilities.features⟩) on rfl rfl
  · obtain ⟨p, stands, spans⟩ :=
      spansPath_of_parse accepted mem within (by simpa [pathRules] using path)
    refine ⟨p, stands, ?_, featureOf_pathRule index spans⟩
    rw [spans.1]
    exact pathRule_eq_iff

/-- A path that goes on behind a name. -/
def ratioX : IdentifierPath where
  path := ⟨["ratio", "x"]⟩
  nonempty := by simp
  identifiers := by
    intro s mem
    simp only [List.mem_cons, List.not_mem_nil, or_false] at mem
    rcases mem with rfl | rfl
    · exact ⟨'r', "atio".toList, rfl, by decide, by decide⟩
    · exact ⟨'x', [], rfl, by decide, by simp⟩

/-- A name in brackets, a path that goes on behind it, and a path whose first name goes on. -/
theorem story_features_shadow_ratio :
    (storyEngine twoStories).parse "(.ratio)>=max(.ratio.x, .likes_)" =
      .ok (.comparison (.binary .divide (floored "num_likes") (floored "num_dislikes"))
        .greaterOrEqual (.extremum .max [.field ⟨["ratio", "x"]⟩, .field ⟨["likes_"]⟩])) := by
  have made := @withCapabilities_stories twoStories (by decide +kernel)
  obtain ⟨-, parsed, -⟩ := story_features_shadow made
  have none : Blank isBlank [] := by simp [Blank]
  have atom {cs : List Char} {f : Feature} (written : Written (pathFeature true) 3 cs f) :
      Written (pathFeature true) 0 cs f := written.of_atom (Nat.zero_le 3)
  have ratio := atom (.path (singlePath "ratio"
    ⟨'r', "atio".toList, rfl, by decide, by decide⟩) none)
  have further := atom (.path ratioX none)
  have likes := atom (.path (singlePath "likes_"
    ⟨'l', "ikes_".toList, rfl, by decide, by decide⟩) none)
  have both := WrittenAll.more further (by decide : Blank isBlank [' ']) (.one likes)
  have sides : WritesComparison (pathFeature true) "(.ratio)>=max(.ratio.x, .likes_)" _
      ⟨">=", .greaterOrEqual, rfl⟩ _ :=
    ⟨_, _, _, _, by decide +kernel, none, atom (.bracketed none ratio none), none,
      atom (.extremum .max none none both none)⟩
  exact parsed rfl _ _ _ _ sides

end Dialect.Archive
