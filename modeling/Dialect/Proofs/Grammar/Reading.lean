import Dialect.Grammar.Run
import Mathlib.Data.List.Forall2

/-!
What a grammar reads, without counting steps.

`Reads` relates an expression and a text to the outcome of matching, constructor by constructor;
steps and reach play no part in it. `faithful` (every finished run is a reading), `Reads.unique`
(a text is read in at most one way) and `Reads.taken_append_rest` (a match splits the text) are what
the rest of the theory uses, with one equation for each operator. Grammars with a rule `COMMENT` are
left out.
-/

namespace Dialect.Grammar

/-- What can be asked of a grammar at a place in a text. -/
inductive Task where
  | expr (e : Expr)
  /-- What is skipped, then the expression. -/
  | spaced (e : Expr)
  /-- The expression as often as it goes, with skipping before each time or without. -/
  | more (skipping : Bool) (e : Expr)
  | skip

/-- One round of a repetition. -/
def Task.round : (skipping : Bool) → Expr → Task
  | true, e => .spaced e
  | false, e => .expr e

/-- The expression has no parts and calls nothing. -/
def Expr.isLeaf : Expr → Bool
  | .literal _ | .caseless _ | .one _ | .start | .upTo _ => true
  | _ => false

/-- The match of a rule's body as the match of the rule. -/
def Rule.labelled (rule : Rule) (ctx : Context) (at_ : Nat) (m : Match) : Match :=
  match (surroundings ctx rule).2 with
  | none => m
  | some outer => m.wrapped outer rule.name at_

variable {g : Grammar}

/-- The grammar reads the text as asked, with the given outcome. -/
inductive Reads (g : Grammar) : Task → Context → Nat → List Char → Option Match → Prop where
  | leaf {e : Expr} {ctx : Context} {at_ : Nat} {cs : List Char} :
      e.isLeaf = true → Reads g (.expr e) ctx at_ cs (leaf e at_ cs)
  | finish {ctx : Context} {at_ : Nat} {cs : List Char} :
      Reads g (.expr .finish) ctx at_ cs
        (if cs.isEmpty then some ((Match.empty cs).wrapped ctx "EOI" at_) else none)
  | missing {name : String} {ctx : Context} {at_ : Nat} {cs : List Char} :
      g.find? name = none → Reads g (.expr (.call name)) ctx at_ cs none
  | call {name : String} {rule : Rule} {ctx : Context} {at_ : Nat} {cs : List Char}
      {r : Option Match} :
      g.find? name = some rule → Reads g (.expr rule.body) (surroundings ctx rule).1 at_ cs r →
      Reads g (.expr (.call name)) ctx at_ cs (r.map (rule.labelled ctx at_))
  | ahead {e : Expr} {ctx : Context} {at_ : Nat} {cs : List Char} {r : Option Match} :
      Reads g (.expr e) { ctx with look := ctx.look.ahead } at_ cs r →
      Reads g (.expr (.ahead e)) ctx at_ cs (if r.isSome then some (.empty cs) else none)
  | notAhead {e : Expr} {ctx : Context} {at_ : Nat} {cs : List Char} {r : Option Match} :
      Reads g (.expr e) { ctx with look := ctx.look.notAhead } at_ cs r →
      Reads g (.expr (.notAhead e)) ctx at_ cs (if r.isSome then none else some (.empty cs))
  | seqFails {left right : Expr} {ctx : Context} {at_ : Nat} {cs : List Char} :
      Reads g (.expr left) ctx at_ cs none → Reads g (.expr (.seq left right)) ctx at_ cs none
  | seq {left right : Expr} {ctx : Context} {at_ : Nat} {cs : List Char} {m : Match}
      {r : Option Match} :
      Reads g (.expr left) ctx at_ cs (some m) →
      Reads g (.spaced right) ctx (at_ + Text.byteSize m.taken) m.rest r →
      Reads g (.expr (.seq left right)) ctx at_ cs (r.map m.append)
  | choiceLeft {left right : Expr} {ctx : Context} {at_ : Nat} {cs : List Char} {m : Match} :
      Reads g (.expr left) ctx at_ cs (some m) →
      Reads g (.expr (.choice left right)) ctx at_ cs (some m)
  | choiceRight {left right : Expr} {ctx : Context} {at_ : Nat} {cs : List Char}
      {r : Option Match} :
      Reads g (.expr left) ctx at_ cs none → Reads g (.expr right) ctx at_ cs r →
      Reads g (.expr (.choice left right)) ctx at_ cs r
  | opt {e : Expr} {ctx : Context} {at_ : Nat} {cs : List Char} {r : Option Match} :
      Reads g (.expr e) ctx at_ cs r →
      Reads g (.expr (.opt e)) ctx at_ cs (some (r.getD (.empty cs)))
  | starDone {e : Expr} {ctx : Context} {at_ : Nat} {cs : List Char} :
      Reads g (.expr e) ctx at_ cs none → Reads g (.expr (.star e)) ctx at_ cs (some (.empty cs))
  | star {e : Expr} {ctx : Context} {at_ : Nat} {cs : List Char} {m : Match} {r : Option Match} :
      Reads g (.expr e) ctx at_ cs (some m) →
      Reads g (.more true e) ctx (at_ + Text.byteSize m.taken) m.rest r →
      Reads g (.expr (.star e)) ctx at_ cs (r.map m.append)
  | spaced {e : Expr} {ctx : Context} {at_ : Nat} {cs : List Char} {m : Match}
      {r : Option Match} :
      Reads g .skip ctx at_ cs (some m) →
      Reads g (.expr e) ctx (at_ + Text.byteSize m.taken) m.rest r →
      Reads g (.spaced e) ctx at_ cs (r.map m.append)
  | moreDone {skipping : Bool} {e : Expr} {ctx : Context} {at_ : Nat} {cs : List Char} :
      Reads g (Task.round skipping e) ctx at_ cs none →
      Reads g (.more skipping e) ctx at_ cs (some (.empty cs))
  | more {skipping : Bool} {e : Expr} {ctx : Context} {at_ : Nat} {cs : List Char} {m : Match}
      {r : Option Match} :
      Reads g (Task.round skipping e) ctx at_ cs (some m) →
      Reads g (.more skipping e) ctx (at_ + Text.byteSize m.taken) m.rest r →
      Reads g (.more skipping e) ctx at_ cs (r.map m.append)
  | noSkip {ctx : Context} {at_ : Nat} {cs : List Char} :
      ¬(ctx.mode = .spaced ∧ g.defines "WHITESPACE" = true) →
      Reads g .skip ctx at_ cs (some (.empty cs))
  | skip {ctx : Context} {at_ : Nat} {cs : List Char} {r : Option Match} :
      ctx.mode = .spaced → g.defines "WHITESPACE" = true →
      Reads g (.more false (.call "WHITESPACE")) ctx at_ cs r → Reads g .skip ctx at_ cs r

/-! ### Rules by name -/

theorem find?_name {name : String} {rule : Rule} (found : g.find? name = some rule) :
    rule.name = name := by
  simpa using List.find?_some found

theorem find?_mem {name : String} {rule : Rule} (found : g.find? name = some rule) :
    rule ∈ g.rules :=
  List.mem_of_find?_eq_some found

theorem defines_of_find? {name : String} {rule : Rule} (found : g.find? name = some rule) :
    g.defines name = true :=
  List.any_eq_true.mpr ⟨rule, find?_mem found, by simp [find?_name found]⟩

/-! ### One equation for each operator -/

section Equations

variable {ctx : Context} {at_ : Nat} {cs : List Char} {r : Option Match}

theorem reads_leaf {e : Expr} (plain : e.isLeaf = true) :
    Reads g (.expr e) ctx at_ cs r ↔ r = leaf e at_ cs := by
  constructor
  · intro h
    cases h with
    | leaf _ => rfl
    | _ => simp [Expr.isLeaf] at plain
  · rintro rfl
    exact .leaf plain

theorem reads_finish :
    Reads g (.expr .finish) ctx at_ cs r ↔
      r = if cs.isEmpty then some ((Match.empty cs).wrapped ctx "EOI" at_) else none := by
  constructor
  · intro h
    cases h with
    | leaf plain => simp [Expr.isLeaf] at plain
    | finish => rfl
  · rintro rfl
    exact .finish

theorem reads_call {name : String} {rule : Rule} (found : g.find? name = some rule) :
    Reads g (.expr (.call name)) ctx at_ cs r ↔
      ∃ x, Reads g (.expr rule.body) (surroundings ctx rule).1 at_ cs x ∧
        r = x.map (rule.labelled ctx at_) := by
  constructor
  · intro h
    cases h with
    | leaf plain => simp [Expr.isLeaf] at plain
    | missing absent => simp [found] at absent
    | call found' body =>
        obtain rfl := Option.some.inj (found.symm.trans found')
        exact ⟨_, body, rfl⟩
  · rintro ⟨x, body, rfl⟩
    exact .call found body

/-- A rule that makes a node is read as its body, within the node. -/
theorem reads_call_normal {name : String} {body : Expr}
    (found : g.find? name = some ⟨name, .normal, body⟩) (plain : isSkipRule name = false) :
    Reads g (.expr (.call name)) ctx at_ cs r ↔
      ∃ x, Reads g (.expr body) ctx at_ cs x ∧ r = x.map (Match.wrapped ctx name at_) := by
  have label : Rule.labelled ⟨name, .normal, body⟩ ctx at_ = Match.wrapped ctx name at_ := by
    funext m
    simp [Rule.labelled, surroundings, plain]
  rw [reads_call found, label]
  simp [surroundings, plain]

/-- A silent rule is read as its body. -/
theorem reads_call_silent {name : String} {body : Expr}
    (found : g.find? name = some ⟨name, .silent, body⟩) (plain : isSkipRule name = false) :
    Reads g (.expr (.call name)) ctx at_ cs r ↔ Reads g (.expr body) ctx at_ cs r := by
  have label : Rule.labelled ⟨name, .silent, body⟩ ctx at_ = id := by
    funext m
    simp [Rule.labelled, surroundings, plain]
  rw [reads_call found, label]
  simp [surroundings, plain]

theorem reads_notAhead {e : Expr} :
    Reads g (.expr (.notAhead e)) ctx at_ cs r ↔
      ∃ x, Reads g (.expr e) { ctx with look := ctx.look.notAhead } at_ cs x ∧
        r = if x.isSome then none else some (.empty cs) := by
  constructor
  · intro h
    cases h with
    | leaf plain => simp [Expr.isLeaf] at plain
    | notAhead body => exact ⟨_, body, rfl⟩
  · rintro ⟨x, body, rfl⟩
    exact .notAhead body

theorem reads_seq {a b : Expr} :
    Reads g (.expr (.seq a b)) ctx at_ cs r ↔
      (Reads g (.expr a) ctx at_ cs none ∧ r = none) ∨
      ∃ m x, Reads g (.expr a) ctx at_ cs (some m) ∧
        Reads g (.spaced b) ctx (at_ + Text.byteSize m.taken) m.rest x ∧ r = x.map m.append := by
  constructor
  · intro h
    cases h with
    | leaf plain => simp [Expr.isLeaf] at plain
    | seqFails left => exact .inl ⟨left, rfl⟩
    | seq left right => exact .inr ⟨_, _, left, right, rfl⟩
  · rintro (⟨left, rfl⟩ | ⟨m, x, left, right, rfl⟩)
    · exact .seqFails left
    · exact .seq left right

/-- What matches a sequence is a match of its first part with a match of the second behind it. -/
theorem reads_seq_some {a b : Expr} {m : Match} :
    Reads g (.expr (.seq a b)) ctx at_ cs (some m) ↔
      ∃ n k, Reads g (.expr a) ctx at_ cs (some n) ∧
        Reads g (.spaced b) ctx (at_ + Text.byteSize n.taken) n.rest (some k) ∧ m = n.append k := by
  rw [reads_seq]
  constructor
  · rintro (⟨-, none⟩ | ⟨n, x, left, right, eq⟩)
    · cases none
    · obtain ⟨k, rfl, rfl⟩ := Option.map_eq_some_iff.mp eq.symm
      exact ⟨n, k, left, right, rfl⟩
  · rintro ⟨n, k, left, right, rfl⟩
    exact .inr ⟨n, some k, left, right, rfl⟩

theorem reads_choice {a b : Expr} :
    Reads g (.expr (.choice a b)) ctx at_ cs r ↔
      (∃ m, Reads g (.expr a) ctx at_ cs (some m) ∧ r = some m) ∨
      (Reads g (.expr a) ctx at_ cs none ∧ Reads g (.expr b) ctx at_ cs r) := by
  constructor
  · intro h
    cases h with
    | leaf plain => simp [Expr.isLeaf] at plain
    | choiceLeft left => exact .inl ⟨_, left, rfl⟩
    | choiceRight left right => exact .inr ⟨left, right⟩
  · rintro (⟨m, left, rfl⟩ | ⟨left, right⟩)
    · exact .choiceLeft left
    · exact .choiceRight left right

theorem reads_opt {e : Expr} :
    Reads g (.expr (.opt e)) ctx at_ cs r ↔
      ∃ x, Reads g (.expr e) ctx at_ cs x ∧ r = some (x.getD (.empty cs)) := by
  constructor
  · intro h
    cases h with
    | leaf plain => simp [Expr.isLeaf] at plain
    | opt body => exact ⟨_, body, rfl⟩
  · rintro ⟨x, body, rfl⟩
    exact .opt body

theorem reads_star {e : Expr} :
    Reads g (.expr (.star e)) ctx at_ cs r ↔
      (Reads g (.expr e) ctx at_ cs none ∧ r = some (.empty cs)) ∨
      ∃ m x, Reads g (.expr e) ctx at_ cs (some m) ∧
        Reads g (.more true e) ctx (at_ + Text.byteSize m.taken) m.rest x ∧
        r = x.map m.append := by
  constructor
  · intro h
    cases h with
    | leaf plain => simp [Expr.isLeaf] at plain
    | starDone first => exact .inl ⟨first, rfl⟩
    | star first later => exact .inr ⟨_, _, first, later, rfl⟩
  · rintro (⟨first, rfl⟩ | ⟨m, x, first, later, rfl⟩)
    · exact .starDone first
    · exact .star first later

theorem reads_spaced {e : Expr} :
    Reads g (.spaced e) ctx at_ cs r ↔
      ∃ m x, Reads g .skip ctx at_ cs (some m) ∧
        Reads g (.expr e) ctx (at_ + Text.byteSize m.taken) m.rest x ∧ r = x.map m.append := by
  constructor
  · intro h
    cases h with
    | spaced skipped body => exact ⟨_, _, skipped, body, rfl⟩
  · rintro ⟨m, x, skipped, body, rfl⟩
    exact .spaced skipped body

theorem reads_more {skipping : Bool} {e : Expr} :
    Reads g (.more skipping e) ctx at_ cs r ↔
      (Reads g (Task.round skipping e) ctx at_ cs none ∧ r = some (.empty cs)) ∨
      ∃ m x, Reads g (Task.round skipping e) ctx at_ cs (some m) ∧
        Reads g (.more skipping e) ctx (at_ + Text.byteSize m.taken) m.rest x ∧
        r = x.map m.append := by
  constructor
  · intro h
    cases h with
    | moreDone first => exact .inl ⟨first, rfl⟩
    | more first later => exact .inr ⟨_, _, first, later, rfl⟩
  · rintro (⟨first, rfl⟩ | ⟨m, x, first, later, rfl⟩)
    · exact .moreDone first
    · exact .more first later

end Equations

/-- A repetition always matches. -/
theorem Reads.more_isSome {skipping : Bool} {e : Expr} {ctx : Context} {at_ : Nat}
    {cs : List Char} {r : Option Match} (h : Reads g (.more skipping e) ctx at_ cs r) :
    r.isSome = true := by
  generalize asked : Task.more skipping e = task at h
  induction h with
  | moreDone _ => rfl
  | more _ _ _ ih => simpa using ih asked
  | _ => cases asked

/-- Skipping never fails. -/
theorem Reads.skip_isSome {ctx : Context} {at_ : Nat} {cs : List Char} {r : Option Match}
    (h : Reads g .skip ctx at_ cs r) : r.isSome = true := by
  cases h with
  | noSkip _ => rfl
  | skip _ _ blanks => exact blanks.more_isSome

/-! ### A text is read in one way -/

/-- Of two readings of a text the outcomes agree. -/
theorem Reads.unique {task : Task} {ctx : Context} {at_ : Nat} {cs : List Char}
    {r r' : Option Match} (h : Reads g task ctx at_ cs r) (h' : Reads g task ctx at_ cs r') :
    r = r' := by
  induction h generalizing r' with
  | leaf plain => exact ((reads_leaf plain).mp h').symm
  | finish => exact (reads_finish.mp h').symm
  | missing absent =>
      cases h' with
      | leaf plain => simp [Expr.isLeaf] at plain
      | missing _ => rfl
      | call found _ => simp [absent] at found
  | call found _ ih =>
      obtain ⟨x, body, rfl⟩ := (reads_call found).mp h'
      rw [ih body]
  | ahead _ ih =>
      cases h' with
      | leaf plain => simp [Expr.isLeaf] at plain
      | ahead body => rw [ih body]
  | notAhead _ ih =>
      obtain ⟨x, body, rfl⟩ := reads_notAhead.mp h'
      rw [ih body]
  | seqFails _ ih =>
      obtain ⟨_, rfl⟩ | ⟨m, x, left, _⟩ := reads_seq.mp h'
      · rfl
      · cases ih left
  | seq _ _ ihLeft ihRight =>
      obtain ⟨left, _⟩ | ⟨m, x, left, right, rfl⟩ := reads_seq.mp h'
      · cases ihLeft left
      · obtain rfl := Option.some.inj (ihLeft left)
        rw [ihRight right]
  | choiceLeft _ ih =>
      obtain ⟨m, left, rfl⟩ | ⟨left, _⟩ := reads_choice.mp h'
      · exact ih left
      · cases ih left
  | choiceRight _ _ ihLeft ihRight =>
      obtain ⟨m, left, _⟩ | ⟨_, right⟩ := reads_choice.mp h'
      · cases ihLeft left
      · exact ihRight right
  | opt _ ih =>
      obtain ⟨x, body, rfl⟩ := reads_opt.mp h'
      rw [ih body]
  | starDone _ ih =>
      obtain ⟨_, rfl⟩ | ⟨m, x, first, _⟩ := reads_star.mp h'
      · rfl
      · cases ih first
  | star _ _ ihFirst ihLater =>
      obtain ⟨first, _⟩ | ⟨m, x, first, later, rfl⟩ := reads_star.mp h'
      · cases ihFirst first
      · obtain rfl := Option.some.inj (ihFirst first)
        rw [ihLater later]
  | spaced _ _ ihSkip ihBody =>
      obtain ⟨m, x, skipped, body, rfl⟩ := reads_spaced.mp h'
      obtain rfl := Option.some.inj (ihSkip skipped)
      rw [ihBody body]
  | moreDone _ ih =>
      obtain ⟨_, rfl⟩ | ⟨m, x, first, _⟩ := reads_more.mp h'
      · rfl
      · cases ih first
  | more _ _ ihFirst ihLater =>
      obtain ⟨first, _⟩ | ⟨m, x, first, later, rfl⟩ := reads_more.mp h'
      · cases ihFirst first
      · obtain rfl := Option.some.inj (ihFirst first)
        rw [ihLater later]
  | noSkip off =>
      cases h' with
      | noSkip _ => rfl
      | skip spaced defined _ => exact absurd ⟨spaced, defined⟩ off
  | skip spaced defined _ ih =>
      cases h' with
      | noSkip off => exact absurd ⟨spaced, defined⟩ off
      | skip _ _ blanks => exact ih blanks

/-! ### Matches split the text -/

theorem after?_eq_some {text cs rest : List Char} (h : after? text cs = some rest) :
    text ++ rest = cs := by
  induction text generalizing cs with
  | nil => simpa [after?] using h.symm
  | cons t text ih =>
      cases cs with
      | nil => simp [after?] at h
      | cons c cs =>
          simp only [after?] at h
          split at h
          · rename_i same
            rw [List.cons_append, ih h, same]
          · cases h

theorem afterCaseless?_eq_some {text cs taken rest : List Char}
    (h : afterCaseless? text cs = some (taken, rest)) :
    taken ++ rest = cs ∧ List.Forall₂ (fun t c => sameLetter t c = true) text taken := by
  induction text generalizing cs taken with
  | nil =>
      simp only [afterCaseless?, Option.some.injEq, Prod.mk.injEq] at h
      obtain ⟨rfl, rfl⟩ := h
      exact ⟨rfl, .nil⟩
  | cons t text ih =>
      cases cs with
      | nil => simp [afterCaseless?] at h
      | cons c cs =>
          simp only [afterCaseless?] at h
          split at h
          · rename_i same
            obtain ⟨⟨found, rest'⟩, step, eq⟩ := Option.map_eq_some_iff.mp h
            simp only [Prod.mk.injEq] at eq
            obtain ⟨rfl, rfl⟩ := eq
            obtain ⟨whole, letters⟩ := ih step
            exact ⟨by rw [List.cons_append, whole], .cons same letters⟩
          · cases h

theorem upTo_append (stops : List (List Char)) (cs : List Char) :
    (upTo stops cs).1 ++ (upTo stops cs).2 = cs := by
  induction cs with
  | nil => rfl
  | cons c cs ih =>
      simp only [upTo]
      split
      · rfl
      · exact congrArg (c :: ·) ih

/-- What an expression without parts can match, with a constructor for each kind. -/
inductive LeafMatch : Expr → List Char → Match → Prop where
  | literal {text rest : List Char} : LeafMatch (.literal text) (text ++ rest) ⟨text, rest, []⟩
  | caseless {text taken rest : List Char} :
      List.Forall₂ (fun t c => sameLetter t c = true) text taken →
      LeafMatch (.caseless text) (taken ++ rest) ⟨taken, rest, []⟩
  | one {p : CharClass} {c : Char} {rest : List Char} :
      p.holds c = true → LeafMatch (.one p) (c :: rest) ⟨[c], rest, []⟩
  | start {cs : List Char} : LeafMatch .start cs (.empty cs)
  | upTo {stops : List (List Char)} {cs : List Char} :
      LeafMatch (.upTo stops) cs ⟨(upTo stops cs).1, (upTo stops cs).2, []⟩

theorem leafMatch_of_leaf {e : Expr} {at_ : Nat} {cs : List Char} {m : Match}
    (h : leaf e at_ cs = some m) : LeafMatch e cs m := by
  cases e with
  | literal text =>
      obtain ⟨rest, found, rfl⟩ := Option.map_eq_some_iff.mp h
      obtain rfl := after?_eq_some found
      exact .literal
  | caseless text =>
      obtain ⟨⟨taken, rest⟩, found, rfl⟩ := Option.map_eq_some_iff.mp h
      obtain ⟨rfl, letters⟩ := afterCaseless?_eq_some found
      exact .caseless letters
  | one p =>
      cases cs with
      | nil => cases h
      | cons c cs =>
          simp only [leaf] at h
          split at h
          · rename_i holds
            obtain rfl := Option.some.inj h
            exact .one holds
          · cases h
  | start =>
      simp only [leaf] at h
      split at h
      · obtain rfl := Option.some.inj h
        exact .start
      · cases h
  | upTo stops =>
      obtain rfl := Option.some.inj h
      exact .upTo
  | _ => cases h

theorem leaf_taken_append_rest {e : Expr} {at_ : Nat} {cs : List Char} {m : Match}
    (h : leaf e at_ cs = some m) : m.taken ++ m.rest = cs := by
  cases leafMatch_of_leaf h with
  | literal | caseless _ | one _ | start => rfl
  | upTo => exact upTo_append _ _

theorem leaf_nodes {e : Expr} {at_ : Nat} {cs : List Char} {m : Match}
    (h : leaf e at_ cs = some m) : m.nodes = [] := by
  cases leafMatch_of_leaf h <;> rfl

@[simp] theorem Match.empty_taken (cs : List Char) : (Match.empty cs).taken = [] := rfl

@[simp] theorem Match.empty_rest (cs : List Char) : (Match.empty cs).rest = cs := rfl

@[simp] theorem Match.empty_nodes (cs : List Char) : (Match.empty cs).nodes = [] := rfl

@[simp] theorem Match.append_taken (m n : Match) : (m.append n).taken = m.taken ++ n.taken := rfl

@[simp] theorem Match.append_rest (m n : Match) : (m.append n).rest = n.rest := rfl

@[simp] theorem Match.append_nodes (m n : Match) : (m.append n).nodes = m.nodes ++ n.nodes := rfl

@[simp] theorem Match.empty_append (cs : List Char) (m : Match) :
    (Match.empty cs).append m = m := rfl

theorem Match.append_assoc (m n k : Match) :
    (m.append n).append k = m.append (n.append k) := by
  simp [Match.append]

@[simp] theorem Match.wrapped_taken (ctx : Context) (rule : String) (at_ : Nat) (m : Match) :
    (m.wrapped ctx rule at_).taken = m.taken := by
  unfold wrapped; split <;> rfl

@[simp] theorem Match.wrapped_rest (ctx : Context) (rule : String) (at_ : Nat) (m : Match) :
    (m.wrapped ctx rule at_).rest = m.rest := by
  unfold wrapped; split <;> rfl

@[simp] theorem Rule.labelled_taken (rule : Rule) (ctx : Context) (at_ : Nat) (m : Match) :
    (rule.labelled ctx at_ m).taken = m.taken := by
  unfold labelled; split <;> simp

@[simp] theorem Rule.labelled_rest (rule : Rule) (ctx : Context) (at_ : Nat) (m : Match) :
    (rule.labelled ctx at_ m).rest = m.rest := by
  unfold labelled; split <;> simp

/-- What a match took and what it left are the text. -/
theorem Reads.taken_append_rest {task : Task} {ctx : Context} {at_ : Nat} {cs : List Char}
    {r : Option Match} {m : Match} (h : Reads g task ctx at_ cs r) (matched : r = some m) :
    m.taken ++ m.rest = cs := by
  induction h generalizing m with
  | leaf _ => exact leaf_taken_append_rest matched
  | finish =>
      split at matched
      · obtain rfl := Option.some.inj matched
        simp
      · cases matched
  | missing _ => cases matched
  | call _ _ ih =>
      obtain ⟨n, rfl, rfl⟩ := Option.map_eq_some_iff.mp matched
      simpa using ih rfl
  | ahead _ _ =>
      split at matched
      · obtain rfl := Option.some.inj matched
        rfl
      · cases matched
  | notAhead _ _ =>
      split at matched
      · cases matched
      · obtain rfl := Option.some.inj matched
        rfl
  | seqFails _ _ => cases matched
  | choiceLeft _ ih => exact ih matched
  | choiceRight _ _ _ ih => exact ih matched
  | @opt _ _ _ _ r _ ih =>
      obtain rfl := Option.some.inj matched
      cases r with
      | none => rfl
      | some n => exact ih rfl
  | starDone _ _ | moreDone _ _ | noSkip _ =>
      obtain rfl := Option.some.inj matched
      rfl
  | skip _ _ _ ih => exact ih matched
  | seq _ _ ihLeft ihRight | star _ _ ihLeft ihRight | spaced _ _ ihLeft ihRight
  | more _ _ ihLeft ihRight =>
      obtain ⟨n, rfl, rfl⟩ := Option.map_eq_some_iff.mp matched
      rw [Match.append_taken, Match.append_rest, List.append_assoc, ihRight rfl, ihLeft rfl]

/-! ### Runs are readings -/

@[simp] theorem Attempt.reaching_found (reach : Nat) (a : Attempt) :
    (a.reaching reach).found = a.found := rfl

@[simp] theorem Attempt.ofRule_found (ctx : Context) (rule : String) (at_ : Nat) (a : Attempt) :
    (a.ofRule ctx rule at_).found = a.found.map (Match.wrapped ctx rule at_) := by
  unfold ofRule tracked
  dsimp only
  split <;> split <;> rfl

/-- Runs of at most `fuel` steps that finish read the text, with the outcome that they found. -/
structure Faithful (g : Grammar) (fuel : Nat) : Prop where
  expr : ∀ {ctx e at_ cs a}, run g fuel ctx e at_ cs = some a →
    Reads g (.expr e) ctx at_ cs a.found
  between : ∀ {ctx e at_ cs a}, spaced g fuel ctx e at_ cs = some a →
    Reads g (.spaced e) ctx at_ cs a.found
  rounds : ∀ {ctx skipping e at_ cs a}, more g fuel ctx skipping e at_ cs = some a →
    Reads g (.more skipping e) ctx at_ cs a.found
  blanks : ∀ {ctx at_ cs a}, skip g fuel ctx at_ cs = some a → Reads g .skip ctx at_ cs a.found
  rule : ∀ {ctx name at_ cs a}, callRule g fuel ctx name at_ cs = some a →
    Reads g (.expr (.call name)) ctx at_ cs a.found

namespace Faithful

variable {fuel : Nat} {a : Attempt}

theorem zero : Faithful g 0 := by
  constructor <;> simp [run, spaced, more, skip, callRule]

theorem expr_succ (now : Faithful g fuel) {e : Expr} (h : run g (fuel + 1) ctx e at_ cs = some a) :
    Reads g (.expr e) ctx at_ cs a.found := by
  cases e with
  | call name => exact now.rule (by simpa only [run] using h)
  | finish =>
      simp only [run, Option.some.injEq] at h
      subst h
      rw [Attempt.ofRule_found]
      convert Reads.finish using 1
      split <;> rfl
  | ahead e =>
      simp only [run] at h
      split at h
      · cases h
      · rename_i b body
        obtain rfl := Option.some.inj h
        exact .ahead (now.expr body)
  | notAhead e =>
      simp only [run] at h
      split at h
      · cases h
      · rename_i b body
        obtain rfl := Option.some.inj h
        exact .notAhead (now.expr body)
  | seq left right =>
      simp only [run] at h
      split at h
      · cases h
      · rename_i first
        obtain rfl := Option.some.inj h
        exact .seqFails (now.expr first)
      · rename_i first
        obtain ⟨b, second, rfl⟩ := Option.map_eq_some_iff.mp h
        exact .seq (now.expr first) (now.between second)
  | choice left right =>
      simp only [run] at h
      split at h
      · cases h
      · rename_i first
        obtain rfl := Option.some.inj h
        exact .choiceLeft (now.expr first)
      · rename_i first
        obtain ⟨b, second, rfl⟩ := Option.map_eq_some_iff.mp h
        rw [Attempt.reaching_found]
        exact .choiceRight (now.expr first) (now.expr second)
  | opt e =>
      simp only [run] at h
      split at h
      · cases h
      · rename_i body
        obtain rfl := Option.some.inj h
        exact .opt (now.expr body)
  | star e =>
      simp only [run] at h
      split at h
      · cases h
      · rename_i first
        obtain rfl := Option.some.inj h
        exact .starDone (now.expr first)
      · rename_i first
        obtain ⟨b, later, rfl⟩ := Option.map_eq_some_iff.mp h
        exact .star (now.expr first) (now.rounds later)
  | literal _ | caseless _ | one _ | start | upTo _ =>
      simp only [run, Option.some.injEq] at h
      subst h
      exact .leaf rfl

theorem between_succ (now : Faithful g fuel) {e : Expr}
    (h : spaced g (fuel + 1) ctx e at_ cs = some a) : Reads g (.spaced e) ctx at_ cs a.found := by
  simp only [spaced] at h
  split at h
  · cases h
  · rename_i skipped
    simpa using (now.blanks skipped).skip_isSome
  · rename_i skipped
    obtain ⟨b, body, rfl⟩ := Option.map_eq_some_iff.mp h
    exact .spaced (now.blanks skipped) (now.expr body)

theorem rounds_succ (now : Faithful g fuel) {skipping : Bool} {e : Expr}
    (h : more g (fuel + 1) ctx skipping e at_ cs = some a) :
    Reads g (.more skipping e) ctx at_ cs a.found := by
  have round : ∀ {b}, (if skipping then spaced g fuel ctx e at_ cs
      else run g fuel ctx e at_ cs) = some b →
      Reads g (Task.round skipping e) ctx at_ cs b.found := by
    intro b
    cases skipping with
    | true => exact now.between
    | false => exact now.expr
  simp only [more] at h
  split at h
  · cases h
  · rename_i first
    obtain rfl := Option.some.inj h
    exact .moreDone (round first)
  · rename_i first
    obtain ⟨b, later, rfl⟩ := Option.map_eq_some_iff.mp h
    exact .more (round first) (now.rounds later)

theorem blanks_succ (now : Faithful g fuel) (noComment : g.defines "COMMENT" = false)
    (h : skip g (fuel + 1) ctx at_ cs = some a) : Reads g .skip ctx at_ cs a.found := by
  simp only [skip, noComment] at h
  split at h
  · rename_i spaced
    cases defined : g.defines "WHITESPACE" with
    | false =>
        simp only [defined, Option.some.injEq] at h
        subst h
        exact .noSkip (by simp [defined])
    | true =>
        simp only [defined] at h
        exact .skip spaced defined (now.rounds h)
  · rename_i unspaced
    obtain rfl := Option.some.inj h
    exact .noSkip fun both => unspaced both.1

theorem rule_succ (now : Faithful g fuel) {name : String}
    (h : callRule g (fuel + 1) ctx name at_ cs = some a) :
    Reads g (.expr (.call name)) ctx at_ cs a.found := by
  simp only [callRule] at h
  split at h
  · rename_i absent
    obtain rfl := Option.some.inj h
    exact .missing absent
  · rename_i rule found
    obtain ⟨b, body, rfl⟩ := Option.map_eq_some_iff.mp h
    have named := find?_name found
    have read := Reads.call found (now.expr body)
    unfold Rule.labelled at read
    cases node : (surroundings ctx rule).2 with
    | none => simpa [node] using read
    | some outer => simpa [node, named] using read

end Faithful

/-- A finished run reads the text with the outcome that it found. -/
theorem faithful (noComment : g.defines "COMMENT" = false) (fuel : Nat) : Faithful g fuel := by
  induction fuel with
  | zero => exact .zero
  | succ fuel now =>
      exact ⟨now.expr_succ, now.between_succ, now.rounds_succ, now.blanks_succ noComment,
        now.rule_succ⟩

end Dialect.Grammar
