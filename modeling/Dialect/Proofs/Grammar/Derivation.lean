import Dialect.Proofs.Grammar.Calls
import Dialect.Proofs.Grammar.Nodes
import Dialect.Proofs.Grammar.Writing

/-!
What a grammar derives, as a context-free one.

Without the order of alternatives and without most of what is looked out for, a grammar derives
texts and nodes from its expressions (`Derives`), and whatever is read is derived (`Reads.derives`).
This says what trees a text can have, wherever the text stands and whatever follows it.

The nodes are kept as far as a property of them goes. A property that each rule passes on from the
nodes in its body to its own node (`Inherits`) holds of all nodes that are made.
-/

namespace Dialect.Grammar

/-! ### Rules that make nodes -/

/-- The mode in which the body of a rule is read. -/
def Rule.within (rule : Rule) (mode : Mode) : Mode := (surroundings { mode } rule).1.mode

/-- The rule makes a node when it is called in the mode. -/
def Rule.shows (rule : Rule) (mode : Mode) : Bool :=
  (surroundings { mode } rule).2.any Context.makesNodes

section Kinds

variable {name : String} {body : Expr} {mode : Mode}

@[simp] theorem shows_normal : (Rule.mk name .normal body).shows mode = true ↔ mode ≠ .atomic := by
  by_cases skip : isSkipRule name <;>
    simp [Rule.shows, surroundings, skip, Context.makesNodes]

@[simp] theorem shows_atomic : (Rule.mk name .atomic body).shows mode = true ↔ mode ≠ .atomic := by
  simp [Rule.shows, surroundings, Context.makesNodes]

@[simp] theorem shows_compound : (Rule.mk name .compound body).shows mode = true := rfl

@[simp] theorem shows_silent : (Rule.mk name .silent body).shows mode = false := by
  by_cases skip : isSkipRule name <;> simp [Rule.shows, surroundings, skip]

theorem within_normal (plain : isSkipRule name = false) :
    (Rule.mk name .normal body).within mode = mode := by
  simp [Rule.within, surroundings, plain]

theorem within_silent (plain : isSkipRule name = false) :
    (Rule.mk name .silent body).within mode = mode := by
  simp [Rule.within, surroundings, plain]

end Kinds

/-! ### Derivations -/

/-- What may stand between two parts: blanks, or nothing where nothing is skipped. -/
structure Gap (blank : Char → Bool) (mode : Mode) (w : List Char) : Prop where
  blanks : Blank blank w
  tight : mode ≠ .spaced → w = []

theorem Gap.nil {blank : Char → Bool} {mode : Mode} : Gap blank mode [] :=
  ⟨by simp [Blank], fun _ => rfl⟩

variable {g : Grammar} {blank : Char → Bool} {P : String → ParseNode → Prop}

/-- The expression derives a text with nodes. Of the node of a rule only the text and the property
are kept. -/
inductive Derives (g : Grammar) (blank : Char → Bool) (P : String → ParseNode → Prop) :
    Mode → Expr → List Char → List ParseNode → Prop where
  | literal {mode : Mode} {text : List Char} : Derives g blank P mode (.literal text) text []
  | caseless {mode : Mode} {word text : List Char} :
      List.Forall₂ (fun t c => sameLetter t c = true) word text →
      Derives g blank P mode (.caseless word) text []
  | one {mode : Mode} {class_ : CharClass} {c : Char} :
      class_.holds c = true → Derives g blank P mode (.one class_) [c] []
  | start {mode : Mode} : Derives g blank P mode .start [] []
  | upTo {mode : Mode} {stops : List (List Char)} {text : List Char} :
      Derives g blank P mode (.upTo stops) text []
  | finish {mode : Mode} {nodes : List ParseNode} :
      (∀ n ∈ nodes, mode ≠ .atomic ∧ n.rule = "EOI" ∧ n.children = []) →
      Derives g blank P mode .finish [] nodes
  | ahead {mode : Mode} {e : Expr} : Derives g blank P mode (.ahead e) [] []
  | notAhead {mode : Mode} {e : Expr} : Derives g blank P mode (.notAhead e) [] []
  /-- Looking out for other characters counts where it decides about a single one. -/
  | guarded {mode : Mode} {e : Expr} {p : Char → Bool} {c : Char} :
      e.guarded? = some p → mode ≠ .spaced → p c = true → Derives g blank P mode e [c] []
  | seq {mode : Mode} {a b : Expr} {x w y : List Char} {ns ks : List ParseNode} :
      (mode ≠ .spaced → (Expr.seq a b).guarded? = none) → Derives g blank P mode a x ns →
      Gap blank mode w → Derives g blank P mode b y ks →
      Derives g blank P mode (.seq a b) (x ++ (w ++ y)) (ns ++ ks)
  | left {mode : Mode} {a b : Expr} {x : List Char} {ns : List ParseNode} :
      Derives g blank P mode a x ns → Derives g blank P mode (.choice a b) x ns
  | right {mode : Mode} {a b : Expr} {x : List Char} {ns : List ParseNode} :
      Derives g blank P mode b x ns → Derives g blank P mode (.choice a b) x ns
  | absent {mode : Mode} {e : Expr} : Derives g blank P mode (.opt e) [] []
  | present {mode : Mode} {e : Expr} {x : List Char} {ns : List ParseNode} :
      Derives g blank P mode e x ns → Derives g blank P mode (.opt e) x ns
  | done {mode : Mode} {e : Expr} : Derives g blank P mode (.star e) [] []
  | round {mode : Mode} {e : Expr} {x w y : List Char} {ns ks : List ParseNode} :
      Derives g blank P mode e x ns → Gap blank mode w → Derives g blank P mode (.star e) y ks →
      Derives g blank P mode (.star e) (x ++ (w ++ y)) (ns ++ ks)
  | inside {mode : Mode} {name : String} {rule : Rule} {x : List Char} {ns : List ParseNode} :
      g.find? name = some rule → rule.shows mode = false →
      Derives g blank P (rule.within mode) rule.body x ns → Derives g blank P mode (.call name) x ns
  | node {mode : Mode} {name : String} {rule : Rule} {n : ParseNode} :
      g.find? name = some rule → rule.shows mode = true → P name n →
      Derives g blank P mode (.call name) n.text.toList [n]

/-- The rules pass the property on from the nodes in their bodies to their own nodes. -/
def Inherits (g : Grammar) (blank : Char → Bool) (P : String → ParseNode → Prop)
    (rules : List String) : Prop :=
  ∀ ⦃name⦄, name ∈ rules → ∀ ⦃rule⦄, g.find? name = some rule → ∀ ⦃mode⦄, rule.shows mode = true →
    ∀ ⦃x ns⦄, Derives g blank P (rule.within mode) rule.body x ns →
      ∀ start stop, P name ⟨name, String.ofList x, start, stop, ns⟩

/-- The task derives a text with nodes. -/
def Task.derives (g : Grammar) (blank : Char → Bool) (P : String → ParseNode → Prop) (mode : Mode)
    (text : List Char) (nodes : List ParseNode) : Task → Prop
  | .expr e => Derives g blank P mode e text nodes
  | .spaced e => ∃ w x, text = w ++ x ∧ Gap blank mode w ∧ Derives g blank P mode e x nodes
  | .more _ e => ∃ w x, text = w ++ x ∧ Gap blank mode w ∧ Derives g blank P mode (.star e) x nodes
  | .skip => Gap blank mode text ∧ nodes = []

/-- What is read in a round is derived behind a gap. -/
theorem Task.derives_round {mode : Mode} {text : List Char} {nodes : List ParseNode}
    {skipping : Bool} {e : Expr} (h : (Task.round skipping e).derives g blank P mode text nodes) :
    (Task.spaced e).derives g blank P mode text nodes := by
  cases skipping with
  | true => exact h
  | false => exact ⟨[], text, rfl, .nil, h⟩

theorem labelled_nodes (rule : Rule) (mode : Mode) (at_ : Nat) (m : Match) :
    (rule.labelled { mode } at_ m).nodes =
      if rule.shows mode then
        [⟨rule.name, String.ofList m.taken, at_, at_ + Text.byteSize m.taken, m.nodes⟩]
      else m.nodes := by
  unfold Rule.labelled Rule.shows
  cases (surroundings { mode } rule).2 with
  | none => rfl
  | some outer => by_cases makes : outer.makesNodes <;> simp [Match.wrapped, makes]

theorem surroundings_eq (rule : Rule) (mode : Mode) :
    (surroundings { mode } rule).1 = { mode := rule.within mode } := by
  obtain ⟨name, kind, body⟩ := rule
  by_cases skip : isSkipRule name <;> cases kind <;> simp [Rule.within, surroundings, skip]

theorem leaf_derives {e : Expr} {mode : Mode} {at_ : Nat} {cs : List Char} {m : Match}
    (h : leaf e at_ cs = some m) : Derives g blank P mode e m.taken m.nodes := by
  cases leafMatch_of_leaf h with
  | literal => exact .literal
  | caseless letters => exact .caseless letters
  | one holds => exact .one holds
  | start => exact .start
  | upTo => exact .upTo

theorem finish_derives {mode : Mode} {at_ : Nat} {cs : List Char} {m : Match}
    (matched : (if cs.isEmpty then some ((Match.empty cs).wrapped { mode } "EOI" at_) else none) =
      some m) : Derives g blank P mode .finish m.taken m.nodes := by
  split at matched
  · obtain rfl := Option.some.inj matched
    rw [Match.wrapped_taken]
    refine .finish fun n mem => ?_
    unfold Match.wrapped at mem
    split at mem
    · rename_i makes
      obtain rfl := List.mem_singleton.mp mem
      exact ⟨by simpa [Context.makesNodes] using makes, rfl, rfl⟩
    · cases mem
  · cases matched

/-- A call derives what the body of its rule does, as a node if the rule makes one. -/
theorem labelled_derives {rules : List String} (inherits : Inherits g blank P rules) {mode : Mode}
    {name : String} {rule : Rule} {at_ : Nat} {m : Match} (mem : name ∈ rules)
    (found : g.find? name = some rule)
    (body : Derives g blank P (rule.within mode) rule.body m.taken m.nodes) :
    Derives g blank P mode (.call name) m.taken (rule.labelled { mode } at_ m).nodes := by
  rw [labelled_nodes]
  split
  · rename_i shows
    have made := inherits mem found shows body at_ (at_ + Text.byteSize m.taken)
    have node : Derives g blank P mode (.call name) _ _ := .node found shows made
    rw [String.toList_ofList] at node
    rwa [find?_name found]
  · rename_i hidden
    exact .inside found (by simpa using hidden) body

/-- A sequence derives what its parts do, with a gap between them, or the one character that it
looks out for. -/
theorem seq_derives {a b : Expr} {mode : Mode} {at_ : Nat} {cs : List Char} {m n : Match}
    (whole : Reads g (.expr (.seq a b)) { mode } at_ cs (some (m.append n)))
    (left : Derives g blank P mode a m.taken m.nodes)
    (right : (Task.spaced b).derives g blank P mode n.taken n.nodes) :
    Derives g blank P mode (.seq a b) (m.append n).taken (m.append n).nodes := by
  by_cases single : mode ≠ .spaced ∧ ((Expr.seq a b).guarded?).isSome = true
  · obtain ⟨tight, some⟩ := single
    obtain ⟨p, guarded⟩ := Option.isSome_iff_exists.mp some
    have letter := (reads_guarded guarded tight).mp whole
    obtain ⟨c, rest, -, holds, same⟩ := letterMatch_eq_some letter.symm
    rw [same]
    exact .guarded guarded tight holds
  · have unguarded : mode ≠ .spaced → (Expr.seq a b).guarded? = none := by
      intro tight
      simpa [tight] using single
    obtain ⟨w, y, taken, gap, right⟩ := right
    rw [Match.append_taken, taken]
    exact .seq unguarded left gap right

/-- A repetition derives what its first round does, and behind a gap what the later ones do. -/
theorem star_derives {e : Expr} {mode : Mode} {m n : Match}
    (first : Derives g blank P mode e m.taken m.nodes)
    (later : (Task.more true e).derives g blank P mode n.taken n.nodes) :
    Derives g blank P mode (.star e) (m.append n).taken (m.append n).nodes := by
  obtain ⟨w, y, taken, gap, later⟩ := later
  rw [Match.append_taken, taken]
  exact .round first gap later

/-- What is skipped in front of an expression is a gap. -/
theorem spaced_derives {e : Expr} {mode : Mode} {m n : Match}
    (skipped : Task.skip.derives g blank P mode m.taken m.nodes)
    (body : Derives g blank P mode e n.taken n.nodes) :
    (Task.spaced e).derives g blank P mode (m.append n).taken (m.append n).nodes := by
  obtain ⟨gap, none⟩ := skipped
  refine ⟨m.taken, n.taken, rfl, gap, ?_⟩
  rw [Match.append_nodes, none]
  exact body

/-- One more round in front of others. -/
theorem more_derives {skipping : Bool} {e : Expr} {mode : Mode} {m n : Match}
    (first : (Task.round skipping e).derives g blank P mode m.taken m.nodes)
    (later : (Task.more skipping e).derives g blank P mode n.taken n.nodes) :
    (Task.more skipping e).derives g blank P mode (m.append n).taken (m.append n).nodes := by
  obtain ⟨w, x, taken, gap, first⟩ := Task.derives_round first
  obtain ⟨w', y, taken', gap', later⟩ := later
  refine ⟨w, x ++ (w' ++ y), ?_, gap, .round first gap' later⟩
  rw [Match.append_taken, taken, taken', List.append_assoc]

/-- What is skipped is blank, and nothing where nothing is skipped. -/
theorem skip_derives (skips : SkipsBlanks g blank) {mode : Mode} {at_ : Nat} {cs : List Char}
    {m : Match} (h : Reads g .skip { mode } at_ cs (some m)) :
    Task.skip.derives g blank P mode m.taken m.nodes := by
  obtain rfl := Option.some.inj ((reads_skip skips).mp h)
  unfold skipMatch
  split
  · next spaced =>
    exact ⟨⟨fun c mem => List.mem_takeWhile_imp mem, fun tight => absurd spaced tight⟩, rfl⟩
  · exact ⟨.nil, rfl⟩

/-- What is read is derived, with a property that the rules pass on. -/
theorem Reads.derives {rules : List String} (skips : SkipsBlanks g blank)
    (closed : g.Closed rules) (inherits : Inherits g blank P rules) {task : Task} {ctx : Context}
    {at_ : Nat} {cs : List Char} {r : Option Match} (h : Reads g task ctx at_ cs r)
    (calls : task.calls ⊆ rules) {mode : Mode} (plain : ctx = { mode }) {m : Match}
    (matched : r = some m) : task.derives g blank P mode m.taken m.nodes := by
  induction h generalizing mode m with
  | leaf _ => exact leaf_derives matched
  | finish =>
      subst plain
      exact finish_derives matched
  | missing _ => cases matched
  | @call name rule ctx at_ cs r found _ ih =>
      subst plain
      obtain ⟨n, rfl, rfl⟩ := Option.map_eq_some_iff.mp matched
      have mem : name ∈ rules := calls List.mem_cons_self
      have body := ih (closed.calls mem found) (surroundings_eq rule mode) rfl
      rw [Rule.labelled_taken]
      exact labelled_derives inherits mem found body
  | ahead _ _ =>
      split at matched
      · obtain rfl := Option.some.inj matched
        exact .ahead
      · cases matched
  | notAhead _ _ =>
      split at matched
      · cases matched
      · obtain rfl := Option.some.inj matched
        exact .notAhead
  | seqFails _ _ => cases matched
  | seq first second ihLeft ihRight =>
      subst plain
      obtain ⟨k, rfl, rfl⟩ := Option.map_eq_some_iff.mp matched
      exact seq_derives (.seq first second)
        (ihLeft (fun c mem => calls (List.mem_append_left _ mem)) rfl rfl)
        (ihRight (fun c mem => calls (List.mem_append_right _ mem)) rfl rfl)
  | choiceLeft _ ih =>
      exact .left (ih (fun c mem => calls (List.mem_append_left _ mem)) plain matched)
  | choiceRight _ _ _ ih =>
      exact .right (ih (fun c mem => calls (List.mem_append_right _ mem)) plain matched)
  | @opt _ _ _ _ r _ ih =>
      obtain rfl := Option.some.inj matched
      cases r with
      | none => exact .absent
      | some n => exact .present (ih calls plain rfl)
  | starDone _ _ =>
      obtain rfl := Option.some.inj matched
      exact .done
  | star _ _ ihFirst ihLater =>
      obtain ⟨k, rfl, rfl⟩ := Option.map_eq_some_iff.mp matched
      exact star_derives (ihFirst calls plain rfl) (ihLater calls plain rfl)
  | spaced _ _ ihSkip ihBody =>
      obtain ⟨k, rfl, rfl⟩ := Option.map_eq_some_iff.mp matched
      exact spaced_derives (ihSkip (List.nil_subset _) plain rfl) (ihBody calls plain rfl)
  | moreDone _ _ =>
      obtain rfl := Option.some.inj matched
      exact ⟨[], [], rfl, .nil, .done⟩
  | more _ _ ihFirst ihLater =>
      obtain ⟨k, rfl, rfl⟩ := Option.map_eq_some_iff.mp matched
      exact more_derives (ihFirst (by rwa [Task.calls_round]) plain rfl) (ihLater calls plain rfl)
  | @noSkip ctx at_ cs unspaced =>
      subst plain
      obtain rfl := Option.some.inj matched
      have read : Reads g .skip { mode } at_ cs (some (.empty cs)) := .noSkip unspaced
      exact skip_derives skips read
  | skip spaced defined blanks _ =>
      subst plain matched
      exact skip_derives skips (.skip spaced defined blanks)

/-! ### What an expression derives -/

namespace Derives

variable {mode : Mode} {a b e : Expr} {x : List Char} {ns : List ParseNode} {name : String}
  {rule : Rule} {p : Char → Bool}

theorem of_seq (h : Derives g blank P mode (.seq a b) x ns)
    (unguarded : (Expr.seq a b).guarded? = none) :
    ∃ x₁ w x₂ ns₁ ns₂, x = x₁ ++ (w ++ x₂) ∧ ns = ns₁ ++ ns₂ ∧ Gap blank mode w ∧
      Derives g blank P mode a x₁ ns₁ ∧ Derives g blank P mode b x₂ ns₂ := by
  cases h with
  | guarded guarded _ _ => simp [unguarded] at guarded
  | seq _ left gap right => exact ⟨_, _, _, _, _, rfl, rfl, gap, left, right⟩

/-- Where nothing is skipped, the parts of a sequence stand side by side. -/
theorem of_seq_tight (h : Derives g blank P mode (.seq a b) x ns) (tight : mode ≠ .spaced)
    (unguarded : (Expr.seq a b).guarded? = none) :
    ∃ x₁ x₂ ns₁ ns₂, x = x₁ ++ x₂ ∧ ns = ns₁ ++ ns₂ ∧
      Derives g blank P mode a x₁ ns₁ ∧ Derives g blank P mode b x₂ ns₂ := by
  obtain ⟨x₁, w, x₂, ns₁, ns₂, rfl, rfl, gap, left, right⟩ := h.of_seq unguarded
  exact ⟨x₁, x₂, ns₁, ns₂, by rw [gap.tight tight, List.nil_append], rfl, left, right⟩

theorem of_choice (h : Derives g blank P mode (.choice a b) x ns) :
    Derives g blank P mode a x ns ∨ Derives g blank P mode b x ns := by
  cases h with
  | guarded guarded _ _ => cases guarded
  | left left => exact .inl left
  | right right => exact .inr right

theorem of_opt (h : Derives g blank P mode (.opt e) x ns) :
    (x = [] ∧ ns = []) ∨ Derives g blank P mode e x ns := by
  cases h with
  | guarded guarded _ _ => cases guarded
  | absent => exact .inl ⟨rfl, rfl⟩
  | present present => exact .inr present

theorem of_literal {text : List Char} (h : Derives g blank P mode (.literal text) x ns) :
    x = text ∧ ns = [] := by
  cases h with
  | guarded guarded _ _ => cases guarded
  | literal => exact ⟨rfl, rfl⟩

/-- A literal has no nodes, in front of an expression or behind it. -/
theorem of_literal_seq {text : List Char}
    (h : Derives g blank P mode (.seq (.literal text) e) x ns) :
    ∃ y, Derives g blank P mode e y ns := by
  obtain ⟨_, _, y, _, _, -, rfl, -, literal, behind⟩ := h.of_seq rfl
  obtain ⟨-, rfl⟩ := literal.of_literal
  exact ⟨y, behind⟩

theorem of_seq_literal {text : List Char}
    (h : Derives g blank P mode (.seq e (.literal text)) x ns)
    (unguarded : (Expr.seq e (.literal text)).guarded? = none) :
    ∃ y, Derives g blank P mode e y ns := by
  obtain ⟨y, _, _, _, _, -, rfl, -, front, literal⟩ := h.of_seq unguarded
  obtain ⟨-, rfl⟩ := literal.of_literal
  rw [List.append_nil]
  exact ⟨y, front⟩

theorem of_bracketed {opening closing : List Char}
    (h : Derives g blank P mode (.seq (.literal opening) (.seq e (.literal closing))) x ns)
    (unguarded : (Expr.seq e (.literal closing)).guarded? = none) :
    ∃ y, Derives g blank P mode e y ns := by
  obtain ⟨_, behind⟩ := h.of_literal_seq
  exact behind.of_seq_literal unguarded

theorem of_start (h : Derives g blank P mode .start x ns) : x = [] ∧ ns = [] := by
  cases h with
  | guarded guarded _ _ => cases guarded
  | start => exact ⟨rfl, rfl⟩

/-- At the end of a text there are only nodes that mark it. -/
theorem of_finish (h : Derives g blank P mode .finish x ns) :
    x = [] ∧ ∀ n ∈ ns, n.rule = "EOI" ∧ n.children = [] := by
  cases h with
  | guarded guarded _ _ => cases guarded
  | finish ends => exact ⟨rfl, fun n mem => (ends n mem).2⟩

theorem of_notAhead (h : Derives g blank P mode (.notAhead e) x ns) : x = [] ∧ ns = [] := by
  cases h with
  | guarded guarded _ _ => cases guarded
  | notAhead => exact ⟨rfl, rfl⟩

/-- A rule that makes a node derives one with the property. -/
theorem of_node (h : Derives g blank P mode (.call name) x ns) (found : g.find? name = some rule)
    (shows : rule.shows mode = true) : ∃ n, ns = [n] ∧ x = n.text.toList ∧ P name n := by
  cases h with
  | guarded guarded _ _ => cases guarded
  | inside found' hidden _ =>
      obtain rfl := Option.some.inj (found.symm.trans found')
      simp [shows] at hidden
  | node _ _ made => exact ⟨_, rfl, rfl, made⟩

/-- A rule that makes no node derives what its body derives. -/
theorem of_inside (h : Derives g blank P mode (.call name) x ns) (found : g.find? name = some rule)
    (hidden : rule.shows mode = false) : Derives g blank P (rule.within mode) rule.body x ns := by
  cases h with
  | guarded guarded _ _ => cases guarded
  | inside found' _ body =>
      obtain rfl := Option.some.inj (found.symm.trans found')
      exact body
  | node found' shows _ =>
      obtain rfl := Option.some.inj (found.symm.trans found')
      simp [hidden] at shows

theorem of_silent {body : Expr} (h : Derives g blank P mode (.call name) x ns)
    (found : g.find? name = some ⟨name, .silent, body⟩) (plain : isSkipRule name = false) :
    Derives g blank P mode body x ns := by
  have body := h.of_inside found shows_silent
  rwa [within_silent plain] at body

theorem of_letter (h : Derives g blank P mode e x ns) (letter : e.letter? = some p) :
    ns = [] ∧ ∃ c, x = [c] ∧ p c = true := by
  induction h generalizing p with
  | @literal mode text =>
      obtain _ | ⟨t, _ | _⟩ := text
      · cases letter
      · obtain rfl := Option.some.inj letter
        exact ⟨rfl, t, rfl, by simp⟩
      · cases letter
  | one holds =>
      obtain rfl := Option.some.inj letter
      exact ⟨rfl, _, rfl, holds⟩
  | @guarded mode e q c guarded _ _ =>
      unfold Expr.guarded? at guarded
      split at guarded
      · cases letter
      · cases guarded
  | left _ ih =>
      simp only [Expr.letter?, Option.bind_eq_bind, Option.bind_eq_some_iff] at letter
      obtain ⟨q, left, q', right, both⟩ := letter
      obtain rfl := Option.some.inj both
      obtain ⟨none, c, rfl, holds⟩ := ih left
      exact ⟨none, c, rfl, by simp [holds]⟩
  | right _ ih =>
      simp only [Expr.letter?, Option.bind_eq_bind, Option.bind_eq_some_iff] at letter
      obtain ⟨q, left, q', right, both⟩ := letter
      obtain rfl := Option.some.inj both
      obtain ⟨none, c, rfl, holds⟩ := ih right
      exact ⟨none, c, rfl, by simp [holds]⟩
  | _ => cases letter

/-- A choice between words derives one of them. -/
theorem of_words {words : List (List Char)} (h : Derives g blank P mode e x ns)
    (choice : e.words? = some words) : ns = [] ∧ x ∈ words := by
  induction h generalizing words with
  | literal =>
      obtain rfl := Option.some.inj choice
      exact ⟨rfl, List.mem_cons_self⟩
  | @guarded mode e q c guarded _ _ =>
      unfold Expr.guarded? at guarded
      split at guarded
      · cases choice
      · cases guarded
  | left _ ih =>
      simp only [Expr.words?, Option.bind_eq_bind, Option.bind_eq_some_iff] at choice
      obtain ⟨xs, first, ys, second, both⟩ := choice
      obtain rfl := Option.some.inj both
      exact ⟨(ih first).1, List.mem_append_left _ (ih first).2⟩
  | right _ ih =>
      simp only [Expr.words?, Option.bind_eq_bind, Option.bind_eq_some_iff] at choice
      obtain ⟨xs, first, ys, second, both⟩ := choice
      obtain rfl := Option.some.inj both
      exact ⟨(ih second).1, List.mem_append_right _ (ih second).2⟩
  | _ => cases choice

/-- A repetition derives rounds one after the other; what holds of nothing, and goes on from each
round to the next, holds of all of them. -/
theorem star_induction {Q : List Char → List ParseNode → Prop}
    (h : Derives g blank P mode (.star e) x ns) (nil : Q [] [])
    (grow : ∀ {x w y ns ks}, Derives g blank P mode e x ns → Gap blank mode w → Q y ks →
      Q (x ++ (w ++ y)) (ns ++ ks)) : Q x ns := by
  generalize repeated : Expr.star e = s at h
  induction h with
  | done => exact nil
  | round first gap _ _ ih =>
      obtain rfl := Expr.star.inj repeated
      exact grow first gap (ih grow repeated)
  | guarded guarded _ _ =>
      subst repeated
      cases guarded
  | _ => cases repeated

/-- Where nothing is skipped, characters of a set one after the other are all in the set. -/
theorem of_star_letter (h : Derives g blank P mode (.star e) x ns) (letter : e.letter? = some p)
    (tight : mode ≠ .spaced) : ns = [] ∧ ∀ c ∈ x, p c = true := by
  refine h.star_induction (Q := fun x ns => ns = [] ∧ ∀ c ∈ x, p c = true) (by simp) ?_
  rintro x w y ns ks first gap ⟨rfl, all⟩
  obtain ⟨rfl, c, rfl, holds⟩ := first.of_letter letter
  rw [gap.tight tight]
  exact ⟨rfl, by simpa [holds] using all⟩

/-- Every node has the property of some rule, unless it marks the end of the text. -/
theorem of_mem (h : Derives g blank P mode e x ns) {n : ParseNode} (mem : n ∈ ns) :
    (n.rule = "EOI" ∧ n.children = []) ∨ ∃ name, P name n := by
  induction h with
  | finish ends => exact .inl (ends n mem).2
  | seq _ _ _ _ ihLeft ihRight | round _ _ _ ihLeft ihRight =>
      rcases List.mem_append.mp mem with first | second
      · exact ihLeft first
      · exact ihRight second
  | left _ ih | right _ ih | present _ ih | inside _ _ _ ih => exact ih mem
  | node _ _ made =>
      obtain rfl := List.mem_singleton.mp mem
      exact .inr ⟨_, made⟩
  | _ => cases mem

/-- Inside an atomic rule no nodes are made, if it calls only rules that stay atomic. -/
theorem nodes_of_atomic {rules : List String} (closed : g.Closed rules)
    (flat : ∀ name ∈ rules, ∀ rule, g.find? name = some rule →
      rule.shows .atomic = false ∧ rule.within .atomic = .atomic)
    (h : Derives g blank P mode e x ns) (atomic : mode = .atomic) (calls : e.calls ⊆ rules) :
    ns = [] := by
  induction h with
  | @finish mode nodes ends =>
      cases nodes with
      | nil => rfl
      | cons n nodes => exact absurd atomic (ends n List.mem_cons_self).1
  | seq _ _ _ _ ihLeft ihRight =>
      rw [ihLeft atomic fun c mem => calls (List.mem_append_left _ mem),
        ihRight atomic fun c mem => calls (List.mem_append_right _ mem), List.append_nil]
  | round _ _ _ ihLeft ihRight => rw [ihLeft atomic calls, ihRight atomic calls, List.append_nil]
  | left _ ih => exact ih atomic fun c mem => calls (List.mem_append_left _ mem)
  | right _ ih => exact ih atomic fun c mem => calls (List.mem_append_right _ mem)
  | present _ ih => exact ih atomic calls
  | @inside mode name rule _ _ found _ _ ih =>
      have mem : name ∈ rules := calls List.mem_cons_self
      exact ih (by rw [atomic, (flat name mem rule found).2]) (closed.calls mem found)
  | @node mode name rule _ found shows _ =>
      have mem : name ∈ rules := calls List.mem_cons_self
      rw [atomic, (flat name mem rule found).1] at shows
      cases shows
  | _ => rfl

end Derives

/-! ### Chains -/

/-- Nodes of two kinds in turn. -/
inductive Alternating (B A : ParseNode → Prop) : List ParseNode → Prop where
  | nil : Alternating B A []
  | cons {op operand : ParseNode} {rest : List ParseNode} :
      B op → A operand → Alternating B A rest → Alternating B A (op :: operand :: rest)

/-- A chain is an operand, and then operators and operands in turn. -/
theorem Derives.of_chain {mode : Mode} {operand operator : Expr} {x : List Char}
    {ns : List ParseNode} {A B : ParseNode → Prop}
    (h : Derives g blank P mode (.seq operand (.star (.seq operator operand))) x ns)
    (plain : ∀ e, (Expr.seq operand e).guarded? = none)
    (plain' : (Expr.seq operator operand).guarded? = none)
    (operands : ∀ {x ns}, Derives g blank P mode operand x ns → ∃ n, ns = [n] ∧ A n)
    (operators : ∀ {x ns}, Derives g blank P mode operator x ns → ∃ n, ns = [n] ∧ B n) :
    ∃ first rest, ns = first :: rest ∧ A first ∧ Alternating B A rest := by
  obtain ⟨_, _, _, ns₁, ns₂, -, rfl, -, head, star⟩ := h.of_seq (plain _)
  obtain ⟨first, rfl, holds⟩ := operands head
  refine ⟨first, ns₂, rfl, holds, ?_⟩
  refine star.star_induction (Q := fun _ ns => Alternating B A ns) .nil ?_
  rintro x w y ns ks round - later
  obtain ⟨_, _, _, _, _, -, rfl, -, sign, behind⟩ := round.of_seq plain'
  obtain ⟨op, rfl, isOp⟩ := operators sign
  obtain ⟨n, rfl, holds⟩ := operands behind
  exact .cons isOp holds later

/-! ### Nodes inside of nodes -/

/-- A node inside of what is made marks the end of the text, or is inside of the node of some
rule. -/
theorem Derives.of_within {mode : Mode} {e : Expr} {x : List Char} {ns : List ParseNode}
    (h : Derives g blank P mode e x ns) {n k : ParseNode} (mem : n ∈ ns) (within : k.Within n) :
    k.rule = "EOI" ∨ ∃ name, P name n := by
  rcases h.of_mem mem with ⟨ended, childless⟩ | made
  · exact .inl (within.eq_of_childless childless ▸ ended)
  · exact .inr made

/-- What rules that call only each other make has only nodes of these rules inside. -/
theorem inherits_rules (rules : List String) :
    Inherits g blank (fun _ n => ∀ k : ParseNode, k.Within n → k.rule ∈ "EOI" :: rules) rules := by
  intro name mem rule found mode shows x ns body start stop k within
  cases within with
  | self => exact List.mem_cons_of_mem _ mem
  | child inner within =>
      rcases body.of_within inner within with ended | ⟨_, made⟩
      · rw [ended]
        exact List.mem_cons_self
      · exact made k within

theorem Reads.rule_mem {rules : List String} (skips : SkipsBlanks g blank) (closed : g.Closed rules)
    {e : Expr} {at_ : Nat} {cs : List Char} {m : Match}
    (h : Reads g (.expr e) {} at_ cs (some m)) (calls : e.calls ⊆ rules) {n k : ParseNode}
    (mem : n ∈ m.nodes) (within : k.Within n) : k.rule ∈ "EOI" :: rules := by
  have derives : Derives g blank _ _ e m.taken m.nodes :=
    h.derives skips closed (inherits_rules rules) calls rfl rfl
  rcases derives.of_within mem within with ended | ⟨_, made⟩
  · rw [ended]
    exact List.mem_cons_self
  · exact made k within

end Dialect.Grammar
