import Dialect.Proofs.Grammar.Derivation
import Dialect.Proofs.Template.Literals

/-!
Chapter texts behind their gate.

Where chapter texts are enabled, the grammar tries them first in every atom. Main statement:
`custom_fields_gated` (what is a directive without them stays the same directive with them, and
where they are disabled nothing is left of them).

A chapter text begins with a letter, any other atom with a mark of quotes or a point. So it can only
be tried where no other atom stands, and in a directive that is behind the last atom of its data:
there a word or a brace follows, which begins otherwise (`data_gated`).
-/

namespace Dialect.Template

open Grammar

variable {custom : Additions} {ctx : Context} {at_ : Nat} {cs : List Char} {r : Option Match}
  {m : Match}

/-! ### Atoms -/

/-- The rules in which atoms other than chapter texts are read. -/
def atomRules : List String :=
  ["WHITESPACE", "repeated", "literal", "literal_body", "field", "field_name", "count"]

theorem knownAtom_gated (h : Reads (directives .absent) (.expr knownAtom) ctx at_ cs r) :
    Reads (directives custom) (.expr knownAtom) ctx at_ cs r := by
  have same : ∀ name ∈ atomRules,
      (directives custom).find? name = (directives .absent).find? name := by
    cases custom <;> decide +kernel
  exact h.shared atomRules (by decide +kernel) (by decide) same (by decide)

/-- Where no chapter text can begin, atoms are read in the same way. -/
theorem atom_gated (clear : Clear ('c' == ·) cs)
    (h : Reads (directives .absent) (.expr (.call "atom")) {} at_ cs r) :
    Reads (directives custom) (.expr (.call "atom")) {} at_ cs r := by
  have known := (reads_call_silent (find?_atom .absent) (by decide)).mp h
  refine (reads_call_silent (find?_atom custom) (by decide)).mpr ?_
  split
  · rename_i chapters
    subst chapters
    exact .choiceRight (custom_field_fails clear at_) (knownAtom_gated known)
  · exact knownAtom_gated known

/-- An atom begins with a mark of quotes or a point. -/
theorem atom_clear {c : Char} (other : c ≠ '"' ∧ c ≠ '.')
    (h : Reads (directives .absent) (.expr (.call "atom")) {} at_ cs (some m)) :
    Clear (c == ·) cs := by
  intro d first
  rw [beq_eq_false_iff_ne]
  rintro rfl
  have clear {d : Char} (ne : c ≠ d) : Clear (d == ·) cs := by
    intro e first'
    obtain rfl := Option.some.inj (first.symm.trans first')
    exact beq_eq_false_iff_ne.mpr (Ne.symm ne)
  have fails : Fails (directives .absent) .spaced knownAtom cs :=
    knownAtom_fails (clear other.1) (clear other.2)
  have known := (reads_call_silent (find?_atom .absent) (by decide)).mp h
  exact absurd (known.unique (fails at_)) nofun

/-! ### Data -/

theorem round_gated (clear : Clear ('c' == ·) (cs.dropWhile isBlank))
    (h : Reads (directives .absent) (.spaced (.call "atom")) {} at_ cs r) :
    Reads (directives custom) (.spaced (.call "atom")) {} at_ cs r := by
  obtain ⟨x, atom, rfl⟩ := (reads_spaced_iff (skips_blanks .absent)).mp h
  exact (reads_spaced_iff (skips_blanks custom)).mpr ⟨x, atom_gated clear atom, rfl⟩

theorem round_clear (h : Reads (directives .absent) (.spaced (.call "atom")) {} at_ cs (some m)) :
    Clear ('c' == ·) (cs.dropWhile isBlank) := by
  obtain ⟨n, atom, -⟩ := (reads_spaced_some (skips_blanks .absent)).mp h
  exact atom_clear (by decide) atom

/-- Atoms end in the same place if no chapter text can begin there. -/
theorem rounds_gated {task : Task} (h : Reads (directives .absent) task ctx at_ cs r)
    (asked : task = .more true (.call "atom")) (plain : ctx = {}) (matched : r = some m)
    (follow : Clear ('c' == ·) (m.rest.dropWhile isBlank)) :
    Reads (directives custom) (.more true (.call "atom")) {} at_ cs (some m) := by
  induction h generalizing m with
  | @moreDone skipping e ctx at_ cs round _ =>
      obtain ⟨rfl, rfl⟩ : skipping = true ∧ e = .call "atom" := by simpa using asked
      subst plain
      obtain rfl := Option.some.inj matched
      exact .moreDone (round_gated follow round)
  | @more skipping e ctx at_ cs first r round later _ ih =>
      obtain ⟨rfl, rfl⟩ : skipping = true ∧ e = .call "atom" := by simpa using asked
      subst plain
      obtain ⟨last, rfl, rfl⟩ := Option.map_eq_some_iff.mp matched
      exact .more (round_gated (round_clear round) round) (ih rfl rfl rfl follow)
  | _ => cases asked

theorem find?_data (custom : Additions) : (directives custom).find? "data" =
    some ⟨"data", .normal, .seq (.call "atom") (.star (.call "atom"))⟩ := by
  cases custom <;> rfl

/-- Data is read in the same way if no chapter text can begin behind it. -/
theorem data_gated (h : Reads (directives .absent) (.expr (.call "data")) {} at_ cs (some m))
    (follow : Clear ('c' == ·) (m.rest.dropWhile isBlank)) :
    Reads (directives custom) (.expr (.call "data")) {} at_ cs (some m) := by
  obtain ⟨x, body, eq⟩ := (reads_call_normal (find?_data .absent) (by decide)).mp h
  obtain ⟨n, rfl, rfl⟩ := Option.map_eq_some_iff.mp eq.symm
  obtain ⟨first, k, atom, star, rfl⟩ := reads_seq_some.mp body
  rw [Match.wrapped_rest, Match.append_rest] at follow
  refine (reads_call_normal (find?_data custom) (by decide)).mpr
    ⟨_, reads_seq_some.mpr ⟨first, k, atom_gated (atom_clear (by decide) atom) atom, ?_, rfl⟩, rfl⟩
  rcases (reads_spaced_star (skips_blanks .absent)).mp star with
    ⟨none, rfl⟩ | ⟨n, l, round, rest, rfl⟩
  · refine (reads_spaced_star (skips_blanks custom)).mpr (.inl ⟨round_gated ?_ none, rfl⟩)
    change Clear ('c' == ·) ((first.rest.dropWhile isBlank).dropWhile isBlank) at follow
    rwa [List.dropWhile_idempotent] at follow
  · have more : Reads (directives custom) (.more true (.call "atom")) {} _ n.rest (some l) :=
      rounds_gated rest rfl rfl rfl follow
    exact (reads_spaced_star (skips_blanks custom)).mpr
      (.inr ⟨n, l, round_gated (round_clear round) round, more, rfl⟩)

/-- No data begins with a letter. -/
theorem data_clear {c : Char} (other : c ≠ '"' ∧ c ≠ '.')
    (h : Reads (directives .absent) (.expr (.call "data")) {} at_ cs (some m)) :
    Clear (c == ·) cs := by
  obtain ⟨x, body, eq⟩ := (reads_call_normal (find?_data .absent) (by decide)).mp h
  obtain ⟨n, rfl, -⟩ := Option.map_eq_some_iff.mp eq.symm
  obtain ⟨first, k, atom, -, -⟩ := reads_seq_some.mp body
  exact atom_clear other atom

/-! ### Joins -/

theorem word_gated {word : List Char}
    (h : Reads (directives .absent) (.expr (.literal word)) {} at_ cs r) :
    Reads (directives custom) (.expr (.literal word)) {} at_ cs r :=
  (reads_leaf rfl).mpr ((reads_leaf rfl).mp h)

theorem find?_join (custom : Additions) : (directives custom).find? "join" = some ⟨"join", .normal,
    .seq (.literal ['j', 'o', 'i', 'n']) (.seq (.call "data")
      (.seq (.literal ['w', 'i', 't', 'h']) (.call "data")))⟩ := by
  cases custom <;> rfl

/-- A join is read in the same way if no chapter text can begin behind it: behind its first data
there is a word of its own. -/
theorem join_gated (h : Reads (directives .absent) (.expr (.call "join")) {} at_ cs (some m))
    (follow : Clear ('c' == ·) (m.rest.dropWhile isBlank)) :
    Reads (directives custom) (.expr (.call "join")) {} at_ cs (some m) := by
  obtain ⟨x, body, eq⟩ := (reads_call_normal (find?_join .absent) (by decide)).mp h
  obtain ⟨n, rfl, rfl⟩ := Option.map_eq_some_iff.mp eq.symm
  obtain ⟨word, _, join, behind, rfl⟩ := reads_seq_some.mp body
  obtain ⟨_, iterated, rfl⟩ := (reads_spaced_some (skips_blanks .absent)).mp behind
  obtain ⟨data, _, first, behind', rfl⟩ := reads_seq_some.mp iterated
  obtain ⟨_, separated, rfl⟩ := (reads_spaced_some (skips_blanks .absent)).mp behind'
  obtain ⟨word', _, with_, behind'', rfl⟩ := reads_seq_some.mp separated
  obtain ⟨separator, second, rfl⟩ := (reads_spaced_some (skips_blanks .absent)).mp behind''
  have between : Clear ('c' == ·) (data.rest.dropWhile isBlank) := by
    obtain ⟨rest, ahead, -⟩ := Option.map_eq_some_iff.mp ((reads_leaf rfl).mp with_).symm
    change after? ['w', 'i', 't', 'h'] (data.rest.dropWhile isBlank) = _ at ahead
    rw [← after?_eq_some ahead, List.cons_append, Clear.cons]
    rfl
  refine (reads_call_normal (find?_join custom) (by decide)).mpr ⟨_, reads_seq_some.mpr
    ⟨word, _, word_gated join, ?_, rfl⟩, rfl⟩
  refine (reads_spaced_some (skips_blanks custom)).mpr ⟨_, reads_seq_some.mpr
    ⟨data, _, data_gated first between, ?_, rfl⟩, rfl⟩
  refine (reads_spaced_some (skips_blanks custom)).mpr ⟨_, reads_seq_some.mpr
    ⟨word', _, word_gated with_, ?_, rfl⟩, rfl⟩
  exact (reads_spaced_some (skips_blanks custom)).mpr ⟨separator, data_gated second follow, rfl⟩

/-! ### Directives -/

theorem find?_embed (custom : Additions) : (directives custom).find? "embed" =
    some ⟨"embed", .silent, .choice (.call "join") (.call "data")⟩ := by
  cases custom <;> rfl

theorem embed_gated (h : Reads (directives .absent) (.expr (.call "embed")) {} at_ cs (some m))
    (follow : Clear ('c' == ·) (m.rest.dropWhile isBlank)) :
    Reads (directives custom) (.expr (.call "embed")) {} at_ cs (some m) := by
  have body := (reads_call_silent (find?_embed .absent) (by decide)).mp h
  refine (reads_call_silent (find?_embed custom) (by decide)).mpr ?_
  rcases reads_choice.mp body with ⟨n, join, same⟩ | ⟨-, data⟩
  · obtain rfl := Option.some.inj same
    exact .choiceLeft (join_gated join follow)
  · -- data does not begin like a join, whatever the grammar
    have none : Fails (directives custom) .spaced (.call "join") cs :=
      .call_normal (find?_join custom) (by decide) (.seq (.literal (data_clear (by decide) data)))
    exact .choiceRight (none at_) (data_gated data follow)

variable {body : Match} {after : List Char}

/-- Behind the body of a directive there are blanks and a closing brace. -/
theorem Opens.follow (opens : Opens custom cs body after) :
    Clear ('c' == ·) (body.rest.dropWhile isBlank) := by
  obtain ⟨before, between, -, blank, left, -⟩ := opens.parts
  rw [left, List.dropWhile_append_of_pos blank]
  exact Clear.cons.mpr rfl

/-- A plain directive is the same directive whether or not there are chapter texts. -/
theorem Opens.gated (opens : Opens .absent cs body after) : Opens custom cs body after := by
  obtain ⟨before, between, allBefore, allBetween, left, whole, first, embed⟩ := opens.parts
  exact ⟨before, between, allBefore, allBetween, left, whole, first,
    embed_gated embed opens.follow⟩

/-- The rules in which the body of a plain directive is read. -/
def embedRules : List String := ["embed", "join", "data", "atom"] ++ atomRules

theorem closed_embedRules (off : custom ≠ .chapterTexts) :
    (directives custom).Closed embedRules := by
  cases custom with
  | chapterTexts => exact absurd rfl off
  | absent | unused => decide +kernel

/-- Where chapter texts are not called, a directive is a plain one. -/
theorem Opens.plain (off : custom ≠ .chapterTexts) (opens : Opens custom cs body after) :
    Opens .absent cs body after := by
  have same : ∀ name ∈ embedRules,
      (directives .absent).find? name = (directives custom).find? name := by
    cases custom with
    | chapterTexts => exact absurd rfl off
    | absent | unused => decide +kernel
  obtain ⟨before, between, allBefore, allBetween, left, whole, first, embed⟩ := opens.parts
  exact ⟨before, between, allBefore, allBetween, left, whole, first,
    embed.shared embedRules (closed_embedRules off) (by decide) same (by decide)⟩

/-! ### What is made of a directive -/

open ParseNode

/-- The node has nothing in it that an embedding makes something of. -/
def Plain (n : ParseNode) : Prop :=
  ∀ k : ParseNode, k.Within n → k.rule ≠ "custom_field" ∧ k.rule ≠ "custom_directive"

theorem Plain.child {n k : ParseNode} (plain : Plain n) (mem : k ∈ n.children) : Plain k :=
  fun _ within => plain _ (.child mem within)

mutual

/-- Without such nodes the generator does not depend on the vocabulary. -/
theorem generatedOf_plain {v w : Vocabulary} (record : Value) :
    ∀ n, Plain n → generatedOf v record n = generatedOf w record n
  | ⟨rule, text, start, stop, children⟩, plain => by
    obtain ⟨field, directive⟩ : rule ≠ "custom_field" ∧ rule ≠ "custom_directive" := plain _ .self
    have inner : ∀ n ∈ children, Plain n := fun n mem => plain.child mem
    have all := generatedAll_plain (v := v) (w := w) record children inner
    unfold generatedOf
    simp only [beq_eq_false_iff_ne.mpr field, beq_eq_false_iff_ne.mpr directive, all]
    match children with
    | [] => rfl
    | [node] => rfl
    | [left, right] =>
        have first := generatedOf_plain (v := v) (w := w) record left (inner _ (by simp))
        have second := generatedOf_plain (v := v) (w := w) record right (inner _ (by simp))
        simp only [first, second]
        rfl
    | _ :: _ :: _ :: _ => rfl

theorem generatedAll_plain {v w : Vocabulary} (record : Value) :
    ∀ nodes, (∀ n ∈ nodes, Plain n) → generatedAll v record nodes = generatedAll w record nodes
  | [], _ => rfl
  | n :: rest, plain => by
    obtain ⟨first, later⟩ := List.forall_mem_cons.mp plain
    rw [generatedAll, generatedAll, generatedOf_plain (v := v) (w := w) record n first,
      generatedAll_plain (v := v) (w := w) record rest later]

end

theorem Opens.plain_body (opens : Opens .absent cs body after) {n : ParseNode}
    (single : body.nodes = [n]) : Plain n := by
  obtain ⟨before, between, -, -, -, -, -, embed⟩ := opens.parts
  intro k within
  have mem : n ∈ body.nodes := by
    rw [single]
    exact List.mem_cons_self
  have rule := embed.rule_mem (skips_blanks .absent) (closed_embedRules (by decide)) (by decide) mem
    within
  constructor <;>
    · intro named
      rw [named] at rule
      exact absurd rule (by decide)

/-- A plain directive has the same outcome whatever is added. -/
theorem Opens.directive_eq_plain (opens : Opens .absent cs body after) {engine plain : Engine}
    (reader : engine.parser = (directives custom).parse "directive")
    (reader' : plain.parser = (directives .absent).parse "directive") (record : Value) :
    engine.directive record cs = plain.directive record cs := by
  obtain ⟨n, single, -⟩ := opens.single
  rw [directive_eq reader opens.gated single, directive_eq reader' opens single, outcome, outcome,
    generatedOf_plain record n (opens.plain_body single)]

/-- Texts are copied alike where directives have the same outcomes. -/
theorem scan_congr {engine plain : Engine} {record : Value}
    (same : ∀ cs, engine.directive record cs = plain.directive record cs) (covered : Nat)
    (cs : List Char) : engine.scan record covered cs = plain.scan record covered cs := by
  induction cs generalizing covered with
  | nil => rfl
  | cons c rest ih =>
      cases covered with
      | succ covered => exact ih covered
      | zero => simp only [Engine.scan, same, ih]

theorem render_congr {engine plain : Engine} {record : Value}
    (same : ∀ cs, engine.directive record cs = plain.directive record cs) (on : Bool)
    (template : String) : (engine.withConsistentQuotes on).render template record =
      (plain.withConsistentQuotes on).render template record := by
  have same' (cs : List Char) : (engine.withConsistentQuotes on).directive record cs =
      (plain.withConsistentQuotes on).directive record cs := same cs
  rw [Engine.render, Engine.render, scan_congr same']
  rfl

/-! ### The main result -/

/-- The gate of custom fields is exact. Whatever chapters there are and under whatever profiles:

* with custom fields disabled, an engine with chapter texts finds the same directives as one without
  additions and renders every template alike, also where quotes are made consistent;
* with custom fields enabled or disabled, what is a directive of the engine without additions, or
  fails there, has the same outcome: value and span, or error. -/
theorem custom_fields_gated (source : Archive.ChapterSource) (capabilities profile : Capabilities) :
    ∃ engine plain,
      Engine.withCapabilities (Archive.chapterVocabulary source) capabilities = .ok engine ∧
      Engine.withCapabilities .plain profile = .ok plain ∧
      (capabilities.customFields = false → ∀ record,
        (∀ cs, engine.directive record cs = plain.directive record cs) ∧
        ∀ on template, (engine.withConsistentQuotes on).render template record =
          (plain.withConsistentQuotes on).render template record) ∧
      ∀ record cs, plain.directive record cs ≠ .ok none →
        engine.directive record cs = plain.directive record cs := by
  refine ⟨_, _, withCapabilities_chapters source capabilities, withCapabilities_plain profile, ?_,
    ?_⟩
  · intro off record
    rw [off]
    have same (cs : List Char) :
        Engine.directive ⟨Archive.chapterVocabulary source,
          (directives .unused).parse "directive", false⟩ record cs =
        Engine.directive ⟨.plain, (directives .absent).parse "directive", false⟩ record cs := by
      by_cases opening : ∃ body after, Opens .absent cs body after
      · obtain ⟨body, after, opens⟩ := opening
        exact opens.directive_eq_plain rfl rfl record
      · have closed : ¬∃ body after, Opens .unused cs body after := by
          rintro ⟨body, after, opens⟩
          exact opening ⟨body, after, opens.plain (by decide)⟩
        refine (directive_eq_none rfl closed record).trans (Eq.symm ?_)
        exact directive_eq_none rfl opening record
    exact ⟨same, render_congr same⟩
  · intro record cs some
    by_cases opening : ∃ body after, Opens .absent cs body after
    · obtain ⟨body, after, opens⟩ := opening
      exact opens.directive_eq_plain rfl rfl record
    · exact absurd (directive_eq_none rfl opening record) some

/-- With chapter texts a field is still what it is without them; switched off, their word is
copied. -/
theorem custom_fields_gated_word :
    (∃ engine, Engine.withCapabilities (Archive.chapterVocabulary (.ofList []))
        { customFields := true } = .ok engine ∧
      engine.directive (.object [("a", .text "x")]) "\x7b.a\x7d \x7bchapter_text\x7d".toList =
        .ok (some ⟨"x", 4⟩)) ∧
      ∃ engine, Engine.withCapabilities (Archive.chapterVocabulary (.ofList [])) .none =
          .ok engine ∧
        (engine.withConsistentQuotes true).render "\x7bchapter_text\x7d" .null =
          .ok "\x7bchapter_text\x7d" := by
  have recognised : plainEngine.directive (.object [("a", .text "x")])
      "\x7b.a\x7d \x7bchapter_text\x7d".toList = .ok (some ⟨"x", 4⟩) := by
    decide +kernel
  have copied : (plainEngine.withConsistentQuotes true).render "\x7bchapter_text\x7d" .null =
      .ok "\x7bchapter_text\x7d" := by
    decide +kernel
  constructor
  · obtain ⟨engine, plain, made, made', -, same⟩ :=
      custom_fields_gated (.ofList []) { customFields := true } .none
    obtain rfl : plainEngine = plain :=
      Except.ok.inj ((withCapabilities_plain .none).symm.trans made')
    exact ⟨engine, made, (same _ _ (by rw [recognised]; nofun)).trans recognised⟩
  · obtain ⟨engine, plain, made, made', off, -⟩ := custom_fields_gated (.ofList []) .none .none
    obtain rfl : plainEngine = plain :=
      Except.ok.inj ((withCapabilities_plain .none).symm.trans made')
    exact ⟨engine, made, ((off rfl .null).2 true _).trans copied⟩

end Dialect.Template
