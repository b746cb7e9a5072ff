import Dialect.Proofs.Grammar.Derivation

/-!
What follows a rule where it is called.

Some nodes are made only where one certain rule is called, the gate. Main statement: `Reads.placed`
(in what is read, each of these nodes comes from a call of the gate, at the place where the node
stands, and what follows it there begins with no character of a given set).

Whether something may follow is decided from behind. Where the parts of a sequence call the gate,
the parts after them let nothing through that begins with a character of the set (`Clears`), and so
do the rounds of a repetition (`Expr.Orderly`). What is shown of a task is `Places`; each way of
reading keeps it, the tasks one behind the other by `Places.andThen`.
-/

namespace Dialect.Grammar

variable {g : Grammar} {p : Char → Bool} {blank : Char → Bool} {a b e : Expr} {name : String}
  {rule : Rule} {at_ : Nat} {cs : List Char}

/-! ### Keeping characters out -/

/-- A text begins with no character of the set if the task is read in it and what is left begins
with none. -/
def Clears (g : Grammar) (p : Char → Bool) (task : Task) : Prop :=
  ∀ ⦃ctx at_ cs m⦄, Reads g task ctx at_ cs (some m) → Clear p m.rest → Clear p cs

/-- A text begins with no character of the set if the expression is read in it, whatever is left. -/
def Separates (g : Grammar) (p : Char → Bool) (e : Expr) : Prop :=
  ∀ ⦃ctx at_ cs m⦄, Reads g (.expr e) ctx at_ cs (some m) → Clear p cs

namespace Separates

theorem clears (separates : Separates g p e) : Clears g p (.expr e) :=
  fun _ _ _ _ h _ => separates h

theorem finish : Separates g p .finish := by
  intro ctx at_ cs m h
  cases cs with
  | nil => exact Clear.nil
  | cons c cs => cases reads_finish.mp h

theorem seq (separates : Separates g p a) : Separates g p (.seq a b) := by
  intro ctx at_ cs m h
  obtain ⟨n, -, first, -⟩ := reads_seq_some.mp h
  exact separates first

theorem call (found : g.find? name = some rule) (separates : Separates g p rule.body) :
    Separates g p (.call name) := by
  intro ctx at_ cs m h
  obtain ⟨x, body, same⟩ := (reads_call found).mp h
  obtain ⟨n, rfl, -⟩ := Option.map_eq_some_iff.mp same.symm
  exact separates body

theorem words {words : List (List Char)} (choice : e.words? = some words)
    (outside : ∀ w ∈ words, w.head?.any (fun c => !p c) = true) : Separates g p e := by
  intro ctx at_ cs m h
  obtain ⟨mem, split, -⟩ := firstWord_eq_some ((reads_words choice).mp h).symm
  obtain ⟨c, head, apart⟩ := (Option.any_eq_true _ _).mp (outside _ mem)
  intro d first
  rw [← split, List.head?_append, head] at first
  obtain rfl := Option.some.inj first
  simpa using apart

end Separates

namespace Clears

theorem spaced (skips : SkipsBlanks g blank) (outside : ∀ c, blank c = true → p c = false)
    (clears : Clears g p (.expr e)) : Clears g p (.spaced e) := by
  intro ctx at_ cs m h follows
  obtain ⟨n, body, rfl⟩ := (reads_spaced_some skips).mp h
  have behind := clears body follows
  unfold skipMatch at behind
  split at behind
  · rw [← List.takeWhile_append_dropWhile (p := blank) (l := cs)]
    exact behind.behind (fun _ => List.mem_takeWhile_imp) outside
  · exact behind

theorem seq (first : Clears g p (.expr a)) (second : Clears g p (.spaced b)) :
    Clears g p (.expr (.seq a b)) := by
  intro ctx at_ cs m h follows
  obtain ⟨n, k, left, right, rfl⟩ := reads_seq_some.mp h
  exact first left (second right follows)

theorem star (separates : Separates g p e) : Clears g p (.expr (.star e)) := by
  intro ctx at_ cs m h follows
  rcases reads_star.mp h with ⟨-, none⟩ | ⟨n, -, first, -⟩
  · obtain rfl := Option.some.inj none
    exact follows
  · exact separates first

theorem more (round : Clears g p (.spaced e)) : Clears g p (.more true e) := by
  intro ctx at_ cs m h follows
  generalize asked : Task.more true e = task at h
  generalize matched : some m = r at h
  induction h generalizing m with
  | moreDone _ =>
    obtain rfl := Option.some.inj matched
    exact follows
  | more first _ _ ih =>
    obtain ⟨rfl, rfl⟩ := Task.more.inj asked
    obtain ⟨k, rfl, rfl⟩ := Option.map_eq_some_iff.mp matched.symm
    exact round first (ih (m := k) follows asked rfl)
  | _ => cases asked

end Clears

/-! ### The gate -/

instance (xs ys : List String) : Decidable (xs.Disjoint ys) :=
  decidable_of_iff (∀ x ∈ xs, x ∉ ys)
    ⟨fun apart _ mem => apart _ mem, fun apart _ mem => @apart _ mem⟩

section

variable (g : Grammar) (p : Char → Bool) (outer inner : List String)

/-- Behind a part that calls outer rules the expression lets no character of the set through. Inner
rules it calls only as alternatives. -/
def Expr.Orderly : Expr → Prop
  | .seq a b => a.Orderly ∧ b.Orderly ∧ (a.calls ++ b.calls).Disjoint inner ∧
      (a.calls.Disjoint outer ∨ Clears g p (.spaced b))
  | .choice a b => a.Orderly ∧ b.Orderly
  | .opt e => e.Orderly ∧ e.calls.Disjoint inner
  | .star e => e.Orderly ∧ e.calls.Disjoint inner ∧
      (e.calls.Disjoint outer ∨ Clears g p (.spaced e))
  | _ => True

/-- So do the rounds of a repetition. -/
def Task.Orderly : Task → Prop
  | .expr e => e.Orderly g p outer inner
  | .spaced e => e.Orderly g p outer inner ∧ e.calls.Disjoint inner
  | .more skipping e => skipping = true ∧ (Expr.star e).Orderly g p outer inner
  | .skip => True

/-- The node comes from a call of the gate, by one of the inner rules, in the text from a place on.
What follows it begins with no character of the set. -/
def Placed (gate : String) (at_ : Nat) (cs : List Char) (n : ParseNode) : Prop :=
  ∃ before cs' m, cs = before ++ cs' ∧ n ∈ m.nodes ∧ Clear p m.rest ∧
    Reads g (.expr (.call gate)) {} (at_ + Text.byteSize before) cs' (some m) ∧
    ∃ name ∈ inner, Reads g (.expr (.call name)) {} (at_ + Text.byteSize before) cs' (some m)

/-- Only the gate calls the inner rules, only outer rules call the gate, and these are orderly. -/
structure Routes (gate : String) : Prop where
  silent : ∃ body, g.find? gate = some ⟨gate, .silent, body⟩
  plain : isSkipRule gate = false
  unmarked : "EOI" ∉ inner
  through : ∀ ⦃name⦄, name ∈ outer → ∀ ⦃rule⦄, g.find? name = some rule →
    rule.within .spaced = .spaced ∧ rule.body.Orderly g p outer inner ∧
      (name ≠ gate → rule.body.calls.Disjoint inner)
  beside : ∀ ⦃name⦄, name ∉ outer → ∀ ⦃rule⦄, g.find? name = some rule →
    rule.body.calls.Disjoint (outer ++ inner)

end

variable {outer inner : List String} {gate : String} {n k : ParseNode} {mode : Mode}

theorem Expr.Orderly.of_disjoint (apart : e.calls.Disjoint (outer ++ inner)) :
    e.Orderly g p outer inner := by
  induction e with
  | seq a b left right =>
    obtain ⟨first, second⟩ := List.disjoint_append_left.mp apart
    obtain ⟨away, within⟩ := List.disjoint_append_right.mp apart
    exact ⟨left first, right second, within, .inl (List.disjoint_append_left.mp away).1⟩
  | choice a b left right =>
    obtain ⟨first, second⟩ := List.disjoint_append_left.mp apart
    exact ⟨left first, right second⟩
  | opt e ih => exact ⟨ih apart, (List.disjoint_append_right.mp apart).2⟩
  | star e ih =>
    obtain ⟨away, within⟩ := List.disjoint_append_right.mp apart
    exact ⟨ih apart, within, .inl away⟩
  | _ => trivial

theorem Placed.behind {before cs' : List Char} (split : cs = before ++ cs')
    (placed : Placed g p inner gate (at_ + Text.byteSize before) cs' n) :
    Placed g p inner gate at_ cs n := by
  obtain ⟨later, rest, m, rfl, mem, clear, read, called⟩ := placed
  subst split
  refine ⟨before ++ later, rest, m, (List.append_assoc _ _ _).symm, mem, clear, ?_⟩
  rw [Text.byteSize_append, ← Nat.add_assoc]
  exact ⟨read, called⟩

/-- An inner rule is called to read just this. -/
def Direct (g : Grammar) (inner : List String) (task : Task) (at_ : Nat) (cs : List Char)
    (m : Match) : Prop :=
  ∃ name ∈ inner, name ∈ task.calls ∧ Reads g (.expr (.call name)) {} at_ cs (some m)

/-- Every node of an inner rule in what is read is placed, or it is read directly. -/
def AllPlaced (g : Grammar) (p : Char → Bool) (inner : List String) (gate : String) (task : Task)
    (at_ : Nat) (cs : List Char) (m : Match) : Prop :=
  ∀ n ∈ m.nodes, ∀ k : ParseNode, k.Within n → k.rule ∈ inner →
    Placed g p inner gate at_ cs k ∨ k = n ∧ Direct g inner task at_ cs m

theorem AllPlaced.of_nil {task : Task} {m : Match} (none : m.nodes = []) :
    AllPlaced g p inner gate task at_ cs m := by
  intro n mem
  rw [none] at mem
  cases mem

/-- What is read does not hinge on what else might have been called. -/
theorem AllPlaced.mono {task task' : Task} {m : Match} (calls : task.calls ⊆ task'.calls)
    (all : AllPlaced g p inner gate task at_ cs m) : AllPlaced g p inner gate task' at_ cs m := by
  intro n mem k within leaf
  rcases all n mem k within leaf with placed | ⟨rfl, name, called, asked, read⟩
  · exact .inl placed
  · exact .inr ⟨rfl, name, called, calls asked, read⟩

/-- Where no inner rule is called, nothing is read directly. -/
theorem AllPlaced.placed {task : Task} {m : Match}
    (all : AllPlaced g p inner gate task at_ cs m) (apart : task.calls.Disjoint inner)
    (mem : n ∈ m.nodes) (within : k.Within n) (leaf : k.rule ∈ inner) :
    Placed g p inner gate at_ cs k := by
  rcases all n mem k within leaf with placed | ⟨-, name, called, asked, -⟩
  · exact placed
  · exact absurd called (apart asked)

/-- Two matches, one behind the other. -/
theorem AllPlaced.append {task task' : Task} {m n : Match} {before cs' : List Char}
    (split : cs = before ++ cs')
    (first : AllPlaced g p inner gate task at_ cs m) (apart : task.calls.Disjoint inner)
    (second : AllPlaced g p inner gate task' (at_ + Text.byteSize before) cs' n)
    (apart' : task'.calls.Disjoint inner) {whole : Task} :
    AllPlaced g p inner gate whole at_ cs (m.append n) := by
  intro l mem k within leaf
  rcases List.mem_append.mp mem with mem | mem
  · exact .inl (first.placed apart mem within leaf)
  · exact .inl ((second.placed apart' mem within leaf).behind split)

/-- Only the gate reads an inner rule directly, and it makes no node. -/
theorem Routes.of_direct (routes : Routes g p outer inner gate) (mode : Mode)
    (found : g.find? name = some rule) {m : Match}
    (direct : Direct g inner (.expr rule.body) at_ cs m) :
    name = gate ∧ gate ∈ outer ∧ rule.shows mode = false ∧
      rule.labelled { mode } at_ m = m := by
  obtain ⟨l, called, asked, -⟩ := direct
  have mem : name ∈ outer := by
    by_contra other
    exact (List.disjoint_append_right.mp (routes.beside other found)).2 asked called
  obtain rfl : name = gate := by
    by_contra other
    exact ((routes.through mem found).2.2 other) asked called
  obtain ⟨e, silent⟩ := routes.silent
  obtain rfl := Option.some.inj (found.symm.trans silent)
  exact ⟨rfl, mem, shows_silent, by simp [Rule.labelled, surroundings, routes.plain]⟩

/-- The node of a rule, around what its body read. -/
theorem AllPlaced.labelled (routes : Routes g p outer inner gate)
    (found : g.find? name = some rule) {m : Match}
    (body : AllPlaced g p inner gate (.expr rule.body) at_ cs m)
    (read : Reads g (.expr (.call name)) { mode } at_ cs (some (rule.labelled { mode } at_ m)))
    (follows : name ∈ outer ++ inner → mode = .spaced ∧ Clear p m.rest) :
    AllPlaced g p inner gate (.expr (.call name)) at_ cs (rule.labelled { mode } at_ m) := by
  intro n mem k within leaf
  rw [labelled_nodes] at mem
  split at mem
  · next shows =>
    obtain rfl := List.mem_singleton.mp mem
    cases within with
    | self =>
      have asked : name ∈ inner := find?_name found ▸ leaf
      obtain ⟨rfl, -⟩ := follows (List.mem_append_right _ asked)
      exact .inr ⟨rfl, name, asked, List.mem_singleton_self _, read⟩
    | child inside within =>
      rcases body _ inside k within leaf with placed | ⟨-, direct⟩
      · exact .inl placed
      · obtain ⟨-, -, hidden, -⟩ := routes.of_direct mode found direct
        rw [shows] at hidden
        cases hidden
  · rcases body n mem k within leaf with placed | ⟨rfl, direct⟩
    · exact .inl placed
    · obtain ⟨rfl, asked, -, same⟩ := routes.of_direct mode found direct
      obtain ⟨rfl, clear⟩ := follows (List.mem_append_left _ asked)
      obtain ⟨l, called, -, inside⟩ := direct
      rw [same] at read
      exact .inl ⟨[], cs, m, rfl, mem, clear, by simpa using read, l, called, by simpa using inside⟩

/-- The task calls none of the rules, or it is read between tokens, and what is left begins with no
character of the set. -/
def Led (p : Char → Bool) (rules : List String) (task : Task) (mode : Mode) (m : Match) : Prop :=
  task.calls.Disjoint rules ∨ mode = .spaced ∧ Clear p m.rest

/-- A part that leaves the same calls no more rules. -/
theorem Led.part {rules : List String} {task task' : Task} {m m' : Match}
    (led : Led p rules task mode m) (calls : task'.calls ⊆ task.calls) (same : m'.rest = m.rest) :
    Led p rules task' mode m' := by
  rcases led with apart | ⟨spaced, clear⟩
  · exact .inl fun _ mem => apart (calls mem)
  · exact .inr ⟨spaced, by rwa [same]⟩

/-- A part calls no outer rules, or what is behind it clears the way for it. -/
theorem Led.front {task task' later : Task} {ctx : Context} {at' : Nat} {m m' : Match}
    (led : Led p (outer ++ inner) task mode m) (calls : task'.calls ⊆ task.calls)
    (apart : task'.calls.Disjoint inner)
    (clears : task'.calls.Disjoint outer ∨ Clears g p later)
    (read : Reads g later ctx at' m'.rest (some m)) :
    Led p (outer ++ inner) task' mode m' := by
  rcases clears with away | clears
  · exact .inl (List.disjoint_append_right.mpr ⟨away, apart⟩)
  · rcases led with apart | ⟨spaced, clear⟩
    · exact .inl fun _ mem => apart (calls mem)
    · exact .inr ⟨spaced, clears read clear⟩

/-- In whatever matches, the nodes of inner rules are placed or read directly, as long as the task
is orderly and what is left leads to it. -/
def Places (g : Grammar) (p : Char → Bool) (outer inner : List String) (gate : String) (task : Task)
    (ctx : Context) (at_ : Nat) (cs : List Char) (r : Option Match) : Prop :=
  ∀ ⦃mode m⦄, task.Orderly g p outer inner → ctx = { mode } → r = some m →
    Led p (outer ++ inner) task mode m → AllPlaced g p inner gate task at_ cs m

namespace Places

variable {ctx : Context} {m : Match} {r : Option Match} {skipping : Bool}

theorem finish (routes : Routes g p outer inner gate) :
    Places g p outer inner gate (.expr .finish) ctx at_ cs
      (if cs.isEmpty then some ((Match.empty cs).wrapped ctx "EOI" at_) else none) := by
  intro mode m _ plain matched _
  subst plain
  have derived : Derives g (fun _ => false) (fun _ _ => True) mode .finish m.taken m.nodes :=
    finish_derives matched
  intro n mem k within leaf
  obtain ⟨ended, childless⟩ := derived.of_finish.2 n mem
  obtain rfl := within.eq_of_childless childless
  exact absurd (ended ▸ leaf) routes.unmarked

/-- An outer rule is orderly inside, and any other rule calls none of the rules. -/
theorem call (routes : Routes g p outer inner gate) (found : g.find? name = some rule)
    (read : Reads g (.expr rule.body) (surroundings ctx rule).1 at_ cs r)
    (body : Places g p outer inner gate (.expr rule.body) (surroundings ctx rule).1 at_ cs r) :
    Places g p outer inner gate (.expr (.call name)) ctx at_ cs
      (r.map (rule.labelled ctx at_)) := by
  intro mode m _ plain matched led
  subst plain
  obtain ⟨n, rfl, rfl⟩ := Option.map_eq_some_iff.mp matched
  have follows : name ∈ outer ++ inner → mode = .spaced ∧ Clear p n.rest := by
    intro mem
    rcases led with apart | both
    · exact absurd mem (apart (List.mem_singleton_self name))
    · rwa [Rule.labelled_rest] at both
  refine .labelled routes found (body ?_ (surroundings_eq rule mode) rfl ?_) (.call found read)
    follows
  · by_cases mem : name ∈ outer
    · exact (routes.through mem found).2.1
    · exact .of_disjoint (routes.beside mem found)
  · by_cases mem : name ∈ outer
    · obtain ⟨rfl, clear⟩ := follows (List.mem_append_left _ mem)
      exact .inr ⟨(routes.through mem found).1, clear⟩
    · exact .inl (routes.beside mem found)

/-- Two tasks, one behind the other: what the second clears leads to the first. -/
theorem andThen {whole front behind : Task} {mode : Mode} {n k : Match}
    (read : Reads g front ctx at_ cs (some n))
    (read' : Reads g behind ctx (at_ + Text.byteSize n.taken) n.rest (some k))
    (first : Places g p outer inner gate front ctx at_ cs (some n))
    (second : Places g p outer inner gate behind ctx (at_ + Text.byteSize n.taken) n.rest (some k))
    (orderly : front.Orderly g p outer inner) (orderly' : behind.Orderly g p outer inner)
    (plain : ctx = { mode }) (calls : front.calls ⊆ whole.calls)
    (calls' : behind.calls ⊆ whole.calls) (within : front.calls.Disjoint inner)
    (within' : behind.calls.Disjoint inner)
    (clears : front.calls.Disjoint outer ∨ Clears g p behind)
    (led : Led p (outer ++ inner) whole mode (n.append k)) :
    AllPlaced g p inner gate whole at_ cs (n.append k) := by
  have ahead : Led p (outer ++ inner) front mode n :=
    Led.front (m := k) led calls within clears read'
  exact .append (read.taken_append_rest rfl).symm (first orderly plain rfl ahead) within
    (second orderly' plain rfl (led.part calls' rfl)) within'

theorem seq (read : Reads g (.expr a) ctx at_ cs (some m))
    (read' : Reads g (.spaced b) ctx (at_ + Text.byteSize m.taken) m.rest r)
    (first : Places g p outer inner gate (.expr a) ctx at_ cs (some m))
    (second : Places g p outer inner gate (.spaced b) ctx (at_ + Text.byteSize m.taken) m.rest r) :
    Places g p outer inner gate (.expr (.seq a b)) ctx at_ cs (r.map m.append) := by
  intro mode whole orderly plain matched led
  obtain ⟨k, rfl, rfl⟩ := Option.map_eq_some_iff.mp matched
  obtain ⟨left, right, within, clears⟩ := orderly
  obtain ⟨within, within'⟩ := List.disjoint_append_left.mp within
  exact first.andThen read read' second left ⟨right, within'⟩ plain (List.subset_append_left _ _)
    (List.subset_append_right _ _) within within' clears led

/-- A part whose match is that of the whole. -/
theorem part {whole task : Task}
    (orderly : whole.Orderly g p outer inner → task.Orderly g p outer inner)
    (calls : task.calls ⊆ whole.calls) (places : Places g p outer inner gate task ctx at_ cs r) :
    Places g p outer inner gate whole ctx at_ cs r := by
  intro mode m keeps plain matched led
  exact (places (orderly keeps) plain matched (led.part calls rfl)).mono calls

theorem star (read : Reads g (.expr e) ctx at_ cs (some m))
    (read' : Reads g (.more true e) ctx (at_ + Text.byteSize m.taken) m.rest r)
    (first : Places g p outer inner gate (.expr e) ctx at_ cs (some m))
    (second : Places g p outer inner gate (.more true e) ctx (at_ + Text.byteSize m.taken)
      m.rest r) :
    Places g p outer inner gate (.expr (.star e)) ctx at_ cs (r.map m.append) := by
  intro mode whole orderly plain matched led
  obtain ⟨k, rfl, rfl⟩ := Option.map_eq_some_iff.mp matched
  obtain ⟨each, within, clears⟩ := id orderly
  exact first.andThen read read' second each ⟨rfl, orderly⟩ plain (fun _ => id) (fun _ => id) within
    within (clears.imp_right Clears.more) led

theorem spaced (skipped : Reads g .skip ctx at_ cs (some m))
    (read : Reads g (.expr e) ctx (at_ + Text.byteSize m.taken) m.rest r)
    (first : Places g p outer inner gate .skip ctx at_ cs (some m))
    (second : Places g p outer inner gate (.expr e) ctx (at_ + Text.byteSize m.taken) m.rest r) :
    Places g p outer inner gate (.spaced e) ctx at_ cs (r.map m.append) := by
  intro mode whole orderly plain matched led
  obtain ⟨k, rfl, rfl⟩ := Option.map_eq_some_iff.mp matched
  exact first.andThen skipped read second trivial orderly.1 plain (List.nil_subset _) (fun _ => id)
    (List.disjoint_nil_left _) orderly.2 (.inl (List.disjoint_nil_left _)) led

/-- An orderly repetition skips before each of its rounds. -/
theorem more (read : Reads g (.round skipping e) ctx at_ cs (some m))
    (read' : Reads g (.more skipping e) ctx (at_ + Text.byteSize m.taken) m.rest r)
    (first : Places g p outer inner gate (.round skipping e) ctx at_ cs (some m))
    (second : Places g p outer inner gate (.more skipping e) ctx (at_ + Text.byteSize m.taken)
      m.rest r) :
    Places g p outer inner gate (.more skipping e) ctx at_ cs (r.map m.append) := by
  intro mode whole orderly plain matched led
  obtain ⟨k, rfl, rfl⟩ := Option.map_eq_some_iff.mp matched
  obtain ⟨rfl, each, within, clears⟩ := id orderly
  exact first.andThen read read' second ⟨each, within⟩ orderly plain (fun _ => id) (fun _ => id)
    within within (clears.imp_right Clears.more) led

/-- Where nothing is matched but a text without nodes, there is nothing to place. -/
theorem of_nil {task : Task} (none : ∀ m, r = some m → m.nodes = []) :
    Places g p outer inner gate task ctx at_ cs r :=
  fun _ m _ _ matched _ => .of_nil (none m matched)

end Places

/-- In what is read, the nodes of inner rules are placed: each comes from a call of the gate. The
induction is on the reading, and goes from what a whole leaves to what its parts leave. -/
theorem Reads.allPlaced (skips : SkipsBlanks g blank) (routes : Routes g p outer inner gate)
    {task : Task} {ctx : Context} {r : Option Match} (h : Reads g task ctx at_ cs r) :
    Places g p outer inner gate task ctx at_ cs r := by
  induction h with
  | leaf leaf => exact .of_nil fun m matched => leaf_nodes matched
  | finish => exact .finish routes
  | missing | seqFails => exact .of_nil nofun
  | call found read ih => exact .call routes found read ih
  | ahead _ _ | notAhead _ _ =>
    refine .of_nil fun m matched => ?_
    split at matched <;> cases matched
    rfl
  | seq first second ihFirst ihSecond => exact .seq first second ihFirst ihSecond
  | choiceLeft _ ih => exact ih.part And.left (List.subset_append_left _ _)
  | choiceRight _ _ _ ih => exact ih.part And.right (List.subset_append_right _ _)
  | @opt _ _ _ _ r _ ih =>
    cases r with
    | some n =>
      refine ih.part And.left ?_
      exact List.Subset.refl _
    | none =>
      refine .of_nil fun m matched => ?_
      cases matched
      rfl
  | star first later ihFirst ihLater => exact .star first later ihFirst ihLater
  | spaced skipped read ihSkip ihRead => exact .spaced skipped read ihSkip ihRead
  | more first later ihFirst ihLater => exact .more first later ihFirst ihLater
  | starDone | moreDone | noSkip =>
    refine .of_nil fun m matched => ?_
    cases matched
    rfl
  | skip spaced defined blanks _ =>
    refine .of_nil fun m matched => ?_
    obtain rfl := Option.some.inj (matched.symm.trans
      ((reads_skip skips).mp (.skip spaced defined blanks)))
    unfold skipMatch
    split <;> rfl

/-- In what is read, every node of an inner rule comes from a call of the gate. -/
theorem Reads.placed (skips : SkipsBlanks g blank) (routes : Routes g p outer inner gate)
    {m : Match} (h : Reads g (.expr (.call name)) {} at_ cs (some m)) (beyond : name ∉ inner)
    (clear : Clear p m.rest) (mem : n ∈ m.nodes) (within : k.Within n) (leaf : k.rule ∈ inner) :
    Placed g p inner gate at_ cs k := by
  have all : AllPlaced g p inner gate (.expr (.call name)) at_ cs m :=
    h.allPlaced skips routes trivial rfl rfl (.inr ⟨rfl, clear⟩)
  exact all.placed (List.singleton_disjoint.mpr beyond) mem within leaf

end Dialect.Grammar
