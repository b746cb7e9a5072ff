import Dialect.Proofs.Grammar.Brackets

/-!
Reading what has been written.

A text that was written part by part is read part by part. `Takes` says that in front of a certain
tail an expression takes a given text, except for blanks at its end, and makes nodes of a certain
shape; `Fails` says that it does not match, and `Rounds` that its rounds take a text. There is one
lemma for each operator. `Opens` is for chains of operands that are joined from left to right, and
`Opens.join` adds one more operand at the end.
-/

namespace Dialect.Grammar

/-- What holds of all characters of a text is decided by going through the text. -/
instance {p : Char → Prop} [DecidablePred p] {cs : List Char} : Decidable (∀ c ∈ cs, p c) :=
  List.decidableBAll p cs

/-- All characters of the text are blanks. -/
def Blank (blank : Char → Bool) (bs : List Char) : Prop := ∀ c ∈ bs, blank c = true

instance {blank : Char → Bool} {bs : List Char} : Decidable (Blank blank bs) :=
  inferInstanceAs (Decidable (∀ c ∈ bs, blank c = true))

/-- The text does not begin with a character of the set. -/
def Clear (p : Char → Bool) (cs : List Char) : Prop := ∀ c, cs.head? = some c → p c = false

namespace Clear

variable {p q : Char → Bool} {c : Char} {cs : List Char}

@[simp] theorem nil : Clear p [] := by simp [Clear]

@[simp] theorem cons : Clear p (c :: cs) ↔ p c = false := by simp [Clear]

theorem imp (clear : Clear p cs) (implies : ∀ c, p c = false → q c = false) : Clear q cs :=
  fun c head => implies c (clear c head)

/-- Nor does it behind blanks, if none of them is in the set. -/
theorem behind {blank : Char → Bool} {bs : List Char} (blanks : Blank blank bs)
    (outside : ∀ c, blank c = true → p c = false) (clear : Clear p cs) : Clear p (bs ++ cs) := by
  cases bs with
  | nil => exact clear
  | cons b bs => exact cons.mpr (outside b (blanks b List.mem_cons_self))

end Clear

/-! ### Shapes of nodes -/

/-- What the nodes of a match may be. -/
abbrev Shape := List ParseNode → Prop

namespace Shape

/-- No nodes. -/
def none : Shape := fun nodes => nodes = []

/-- A single node with a property. -/
def single (Q : ParseNode → Prop) : Shape := fun nodes => ∃ n, nodes = [n] ∧ Q n

/-- Nodes of one shape, then nodes of another. -/
def append (P Q : Shape) : Shape := fun nodes => ∃ a b, nodes = a ++ b ∧ P a ∧ Q b

end Shape

/-! ### What an expression takes -/

variable {g : Grammar} {blank : Char → Bool} {a b e : Expr} {cs ds tail : List Char} {P Q : Shape}

/-- In front of the tail the expression takes the text, except for blanks at its end, and makes
nodes of the shape. -/
def Takes (g : Grammar) (blank : Char → Bool) (e : Expr) (cs tail : List Char) (P : Shape) : Prop :=
  ∀ at_, ∃ m bs, Reads g (.expr e) {} at_ (cs ++ tail) (some m) ∧ m.rest = bs ++ tail ∧
    Blank blank bs ∧ P m.nodes

/-- The expression does not match the beginning of the text. -/
def Fails (g : Grammar) (mode : Mode) (e : Expr) (cs : List Char) : Prop :=
  ∀ at_, Reads g (.expr e) { mode } at_ cs none

theorem Takes.imp (takes : Takes g blank e cs tail P) (implies : ∀ nodes, P nodes → Q nodes) :
    Takes g blank e cs tail Q := by
  intro at_
  obtain ⟨m, bs, read, rest, blanks, shape⟩ := takes at_
  exact ⟨m, bs, read, rest, blanks, implies _ shape⟩

theorem Takes.seq (skips : SkipsBlanks g blank) (left : Takes g blank a cs (ds ++ tail) P)
    (right : Takes g blank b ds tail Q) (tight : Clear blank (ds ++ tail)) :
    Takes g blank (.seq a b) (cs ++ ds) tail (P.append Q) := by
  intro at_
  obtain ⟨m, bs, first, left_, blanks, shape⟩ := left at_
  obtain ⟨n, bs', second, left_', blanks', shape'⟩ :=
    right (at_ + Text.byteSize m.taken + Text.byteSize bs)
  have behind : Reads g (.spaced b) {} (at_ + Text.byteSize m.taken) m.rest
      (some (Match.append ⟨bs, ds ++ tail, []⟩ n)) := by
    rw [left_]
    exact (reads_behind_blanks skips rfl blanks tight).mpr ⟨_, second, rfl⟩
  rw [List.append_assoc]
  refine ⟨_, bs', .seq first behind, ?_, blanks', ?_⟩
  · simpa using left_'
  · exact ⟨m.nodes, n.nodes, by simp, shape, shape'⟩

theorem Takes.choice_left (left : Takes g blank a cs tail P) :
    Takes g blank (.choice a b) cs tail P := by
  intro at_
  obtain ⟨m, bs, read, rest⟩ := left at_
  exact ⟨m, bs, .choiceLeft read, rest⟩

theorem Takes.choice_right (fails : Fails g .spaced a (cs ++ tail))
    (right : Takes g blank b cs tail P) :
    Takes g blank (.choice a b) cs tail P := by
  intro at_
  obtain ⟨m, bs, read, rest⟩ := right at_
  exact ⟨m, bs, .choiceRight (fails at_) read, rest⟩

/-- A rule that makes a node takes what its body takes. -/
theorem Takes.call {name : String} {body : Expr}
    (found : g.find? name = some ⟨name, .normal, body⟩) (plain : isSkipRule name = false)
    (takes : Takes g blank body cs tail P) :
    Takes g blank (.call name) cs tail (.single fun n => n.rule = name ∧ P n.children) := by
  intro at_
  obtain ⟨m, bs, read, rest, blanks, shape⟩ := takes at_
  refine ⟨m.wrapped {} name at_, bs, (reads_call_normal found plain).mpr ⟨_, read, rfl⟩, ?_, blanks,
    ?_⟩
  · rwa [Match.wrapped_rest]
  · exact ⟨_, rfl, rfl, shape⟩

/-- A silent rule takes what its body takes. -/
theorem Takes.call_silent {name : String} {body : Expr}
    (found : g.find? name = some ⟨name, .silent, body⟩) (plain : isSkipRule name = false)
    (takes : Takes g blank body cs tail P) : Takes g blank (.call name) cs tail P := by
  intro at_
  obtain ⟨m, bs, read, rest⟩ := takes at_
  exact ⟨m, bs, (reads_call_silent found plain).mpr read, rest⟩

/-! ### Tokens -/

/-- A node of the rule that spans the text. -/
def Spans (rule : String) (text : List Char) (n : ParseNode) : Prop :=
  n.rule = rule ∧ n.text = String.ofList text

/-- Where nothing is skipped, the expression takes just the text in front of the tail. -/
def TakesToken (g : Grammar) (mode : Mode) (e : Expr) (text tail : List Char) : Prop :=
  ∀ at_, ∃ nodes, Reads g (.expr e) { mode } at_ (text ++ tail) (some ⟨text, tail, nodes⟩)

section Tokens

variable {mode : Mode} {text text' : List Char} {p : Char → Bool}

theorem after?_self_append (text x : List Char) : after? text (text ++ x) = some x := by
  induction text with
  | nil => rfl
  | cons t text ih => simpa [after?] using ih

theorem afterCaseless?_self_append {word : List Char}
    (same : text.map Char.toLower = word.map Char.toLower) :
    afterCaseless? word (text ++ tail) = some (text, tail) := by
  induction word generalizing text with
  | nil =>
    obtain rfl := List.map_eq_nil_iff.mp same
    rfl
  | cons t word ih =>
    cases text with
    | nil => cases same
    | cons c text =>
      obtain ⟨first, later⟩ := List.cons.inj same
      simp [afterCaseless?, sameLetter, first, ih later]

theorem afterCaseless?_eq_none {word : List Char}
    (other : ¬ word.map Char.toLower <+: cs.map Char.toLower) : afterCaseless? word cs = none := by
  induction word generalizing cs with
  | nil => exact absurd List.nil_prefix other
  | cons t word ih =>
    cases cs with
    | nil => rfl
    | cons c cs =>
      rw [List.map_cons, List.map_cons, List.cons_prefix_cons] at other
      by_cases same : t.toLower = c.toLower
      · simp [afterCaseless?, sameLetter, same, ih fun part => other ⟨same, part⟩]
      · simp [afterCaseless?, sameLetter, same]

namespace TakesToken

theorem literal (text : List Char) : TakesToken g mode (.literal text) text tail := by
  intro at_
  refine ⟨[], (reads_leaf rfl).mpr ?_⟩
  rw [leaf, after?_self_append, Option.map_some]

theorem letter (letter : e.letter? = some p) {c : Char} (in_ : p c = true) :
    TakesToken g mode e [c] tail :=
  fun _ => ⟨[], (reads_letter letter).mpr (by simp [letterMatch, in_])⟩

theorem caseless {word : List Char} (same : text.map Char.toLower = word.map Char.toLower) :
    TakesToken g mode (.caseless word) text tail :=
  fun _ => ⟨[], (reads_leaf rfl).mpr
    (by rw [leaf, afterCaseless?_self_append same, Option.map_some])⟩

theorem guarded (tight : mode ≠ .spaced) (guarded : e.guarded? = some p) {c : Char}
    (in_ : p c = true) : TakesToken g mode e [c] tail :=
  fun _ => ⟨[], (reads_guarded guarded tight).mpr (by simp [letterMatch, in_])⟩

/-- All characters of the set are taken. -/
theorem letters (tight : mode ≠ .spaced) (letter : e.letter? = some p)
    (all : ∀ c ∈ text, p c = true) (stop : Clear p tail) :
    TakesToken g mode (.star e) text tail := by
  intro at_
  refine ⟨[], (reads_star_letter letter tight).mpr ?_⟩
  rw [spanMatch_append_of_all all]
  cases tail with
  | nil => simp
  | cons c tail => simp [stop c rfl]

theorem seq (tight : mode ≠ .spaced) (left : TakesToken g mode a text (text' ++ tail))
    (right : TakesToken g mode b text' tail) :
    TakesToken g mode (.seq a b) (text ++ text') tail := by
  intro at_
  obtain ⟨nodes, first⟩ := left at_
  obtain ⟨nodes', second⟩ := right (at_ + Text.byteSize text)
  have behind : Reads g (Task.round true b) { mode } (at_ + Text.byteSize text) (text' ++ tail)
      (some ⟨text', tail, nodes'⟩) := (reads_round_of_tight fun _ => tight).mpr second
  rw [List.append_assoc]
  exact ⟨_, .seq first behind⟩

/-- The first part of a sequence may take a single character. -/
theorem seq_letter {c : Char} (tight : mode ≠ .spaced)
    (left : TakesToken g mode a [c] (text ++ tail)) (right : TakesToken g mode b text tail) :
    TakesToken g mode (.seq a b) (c :: text) tail :=
  seq tight left right

theorem choice_left (left : TakesToken g mode a text tail) :
    TakesToken g mode (.choice a b) text tail := by
  intro at_
  obtain ⟨nodes, read⟩ := left at_
  exact ⟨nodes, .choiceLeft read⟩

theorem choice_right (fails : Fails g mode a (text ++ tail))
    (right : TakesToken g mode b text tail) :
    TakesToken g mode (.choice a b) text tail := by
  intro at_
  obtain ⟨nodes, read⟩ := right at_
  exact ⟨nodes, .choiceRight (fails at_) read⟩

theorem opt (takes : TakesToken g mode e text tail) : TakesToken g mode (.opt e) text tail := by
  intro at_
  obtain ⟨nodes, read⟩ := takes at_
  exact ⟨nodes, .opt read⟩

theorem opt_none (fails : Fails g mode e tail) : TakesToken g mode (.opt e) [] tail :=
  fun at_ => ⟨[], .opt (fails at_)⟩

theorem call_silent {name : String} {body : Expr}
    (found : g.find? name = some ⟨name, .silent, body⟩) (plain : isSkipRule name = false)
    (takes : TakesToken g mode body text tail) : TakesToken g mode (.call name) text tail := by
  intro at_
  obtain ⟨nodes, read⟩ := takes at_
  exact ⟨nodes, (reads_call_silent found plain).mpr read⟩

/-- Inside of a token another one is taken alike. -/
theorem call_atomic {name : String} {body : Expr}
    (found : g.find? name = some ⟨name, .atomic, body⟩)
    (takes : TakesToken g .atomic body text tail) : TakesToken g mode (.call name) text tail := by
  intro at_
  obtain ⟨nodes, read⟩ := takes at_
  refine ⟨(Match.wrapped { mode } name at_ ⟨text, tail, nodes⟩).nodes,
    (reads_call found).mpr ⟨_, read, congrArg some ?_⟩⟩
  change _ = Match.wrapped { mode } name at_ ⟨text, tail, nodes⟩
  unfold Match.wrapped
  split <;> rfl

end TakesToken

/-- Where nothing is skipped, the rounds of the expression take just the text. -/
def TokenRounds (g : Grammar) (mode : Mode) (e : Expr) (text tail : List Char) : Prop :=
  ∀ at_, ∃ nodes,
    Reads g (.more true e) { mode } at_ (text ++ tail) (some ⟨text, tail, nodes⟩)

namespace TokenRounds

theorem nil (tight : mode ≠ .spaced) (fails : Fails g mode e tail) :
    TokenRounds g mode e [] tail :=
  fun at_ => ⟨[], .moreDone ((reads_round_of_tight fun _ => tight).mpr (fails at_))⟩

theorem cons (tight : mode ≠ .spaced) (first : TakesToken g mode e text (text' ++ tail))
    (later : TokenRounds g mode e text' tail) : TokenRounds g mode e (text ++ text') tail := by
  intro at_
  obtain ⟨nodes, read⟩ := first at_
  obtain ⟨nodes', more⟩ := later (at_ + Text.byteSize text)
  have round : Reads g (Task.round true e) { mode } at_ (text ++ (text' ++ tail))
      (some ⟨text, text' ++ tail, nodes⟩) := (reads_round_of_tight fun _ => tight).mpr read
  rw [List.append_assoc]
  exact ⟨_, .more round more⟩

theorem star (tight : mode ≠ .spaced) (rounds : TokenRounds g mode e text tail) :
    TakesToken g mode (.star e) text tail := by
  intro at_
  obtain ⟨nodes, more⟩ := rounds at_
  refine ⟨nodes, ?_⟩
  rcases reads_more.mp more with ⟨round, eq⟩ | ⟨n, x, round, again, eq⟩
  · rw [eq]
    exact .starDone ((reads_round_of_tight fun _ => tight).mp round)
  · rw [eq]
    exact .star ((reads_round_of_tight fun _ => tight).mp round) again

end TokenRounds

/-- Blanks behind a token are left. -/
theorem Takes.literal {bs : List Char} (text : List Char) (blanks : Blank blank bs) :
    Takes g blank (.literal text) (text ++ bs) tail .none := by
  intro at_
  rw [List.append_assoc]
  refine ⟨⟨text, bs ++ tail, []⟩, bs, (reads_leaf rfl).mpr ?_, rfl, blanks, rfl⟩
  rw [leaf, after?_self_append, Option.map_some]

/-- The node of a rule for one character of a set spans the character. -/
theorem Takes.call_letter {name : String} {body : Expr} {bs : List Char} {c : Char}
    (found : g.find? name = some ⟨name, .normal, body⟩) (plain : isSkipRule name = false)
    (letter : body.letter? = some p) (in_ : p c = true) (blanks : Blank blank bs) :
    Takes g blank (.call name) ([c] ++ bs) tail (.single (Spans name [c])) := by
  intro at_
  have read : Reads g (.expr body) {} at_ ([c] ++ bs ++ tail) (some ⟨[c], bs ++ tail, []⟩) :=
    (reads_letter letter).mpr (by simp [letterMatch, in_])
  exact ⟨_, bs, (reads_call_normal found plain).mpr ⟨_, read, rfl⟩, rfl, blanks, _, rfl, rfl, rfl⟩

/-- The node of an atomic rule spans the token. -/
theorem Takes.atomic {name : String} {body : Expr} {bs : List Char}
    (found : g.find? name = some ⟨name, .atomic, body⟩) (blanks : Blank blank bs)
    (takes : TakesToken g .atomic body text (bs ++ tail)) :
    Takes g blank (.call name) (text ++ bs) tail (.single (Spans name text)) := by
  intro at_
  rw [List.append_assoc]
  obtain ⟨nodes, read⟩ := takes at_
  exact ⟨_, bs, (reads_call found).mpr ⟨_, read, rfl⟩, rfl, blanks, _, rfl, rfl, rfl⟩

/-- So does the node of a rule that is atomic but for the nodes inside. -/
theorem Takes.compound {name : String} {body : Expr} {bs : List Char}
    (found : g.find? name = some ⟨name, .compound, body⟩) (blanks : Blank blank bs)
    (takes : TakesToken g .compound body text (bs ++ tail)) :
    Takes g blank (.call name) (text ++ bs) tail (.single (Spans name text)) := by
  intro at_
  rw [List.append_assoc]
  obtain ⟨nodes, read⟩ := takes at_
  exact ⟨_, bs, (reads_call found).mpr ⟨_, read, rfl⟩, rfl, blanks, _, rfl, rfl, rfl⟩

end Tokens

/-! ### What does not match -/

namespace Fails

variable {mode : Mode}

theorem call_normal {name : String} {body : Expr}
    (found : g.find? name = some ⟨name, .normal, body⟩) (plain : isSkipRule name = false)
    (fails : Fails g mode body cs) : Fails g mode (.call name) cs :=
  fun at_ => (reads_call_normal found plain).mpr ⟨_, fails at_, rfl⟩

theorem call_silent {name : String} {body : Expr}
    (found : g.find? name = some ⟨name, .silent, body⟩) (plain : isSkipRule name = false)
    (fails : Fails g mode body cs) : Fails g mode (.call name) cs :=
  fun at_ => (reads_call_silent found plain).mpr (fails at_)

theorem call_atomic {name : String} {body : Expr}
    (found : g.find? name = some ⟨name, .atomic, body⟩) (fails : Fails g .atomic body cs) :
    Fails g mode (.call name) cs :=
  fun at_ => (reads_call found).mpr ⟨_, fails at_, rfl⟩

theorem call_compound {name : String} {body : Expr}
    (found : g.find? name = some ⟨name, .compound, body⟩) (fails : Fails g .compound body cs) :
    Fails g mode (.call name) cs :=
  fun at_ => (reads_call found).mpr ⟨_, fails at_, rfl⟩

theorem literal {t : Char} {text : List Char} (clear : Clear (t == ·) cs) :
    Fails g mode (.literal (t :: text)) cs := by
  intro at_
  refine (reads_leaf rfl).mpr ?_
  cases cs with
  | nil => rfl
  | cons c cs => simp_all [leaf, after?]

theorem literal_pair {t u : Char} (clear : Clear (u == ·) cs) :
    Fails g mode (.literal [t, u]) (t :: cs) := by
  intro at_
  refine (reads_leaf rfl).mpr ?_
  cases cs with
  | nil => simp [leaf, after?]
  | cons c cs => simp_all [leaf, after?]

theorem caseless {t : Char} {text : List Char} (clear : Clear (sameLetter t) cs) :
    Fails g mode (.caseless (t :: text)) cs := by
  intro at_
  refine (reads_leaf rfl).mpr ?_
  cases cs with
  | nil => rfl
  | cons c cs => simp [leaf, afterCaseless?, clear c rfl]

theorem caseless_word {word : List Char}
    (other : ¬ word.map Char.toLower <+: cs.map Char.toLower) :
    Fails g mode (.caseless word) cs :=
  fun _ => (reads_leaf rfl).mpr (by rw [leaf, afterCaseless?_eq_none other, Option.map_none])

theorem letter {p : Char → Bool} (letter : e.letter? = some p) (clear : Clear p cs) :
    Fails g mode e cs := by
  intro at_
  refine (reads_letter letter).mpr ?_
  cases cs with
  | nil => rfl
  | cons c cs => simp [letterMatch, clear c rfl]

theorem seq (fails : Fails g mode a cs) : Fails g mode (.seq a b) cs :=
  fun at_ => .seqFails (fails at_)

theorem choice (left : Fails g mode a cs) (right : Fails g mode b cs) :
    Fails g mode (.choice a b) cs :=
  fun at_ => .choiceRight (left at_) (right at_)

/-- What is taken by the first part does not help if the second does not match behind it. -/
theorem seq_right (skips : SkipsBlanks g blank) (left : Takes g blank a cs ds P)
    (tight : Clear blank ds) (right : Fails g .spaced b ds) :
    Fails g .spaced (.seq a b) (cs ++ ds) := by
  intro at_
  obtain ⟨m, bs, first, rest, blanks, -⟩ := left at_
  have behind : Reads g (.spaced b) {} (at_ + Text.byteSize m.taken) m.rest .none := by
    rw [rest]
    exact (reads_behind_blanks skips rfl blanks tight).mpr ⟨_, right _, rfl⟩
  exact .seq first behind

theorem seq_token (text : List Char) (tight : mode ≠ .spaced)
    (left : TakesToken g mode a text cs) (right : Fails g mode b cs) :
    Fails g mode (.seq a b) (text ++ cs) := by
  intro at_
  obtain ⟨nodes, first⟩ := left at_
  have behind : Reads g (Task.round true b) { mode } (at_ + Text.byteSize text) cs .none :=
    (reads_round_of_tight fun _ => tight).mpr (right _)
  exact .seq first behind

end Fails

/-! ### Whole words -/

/-- The words of a choice between words; none for other expressions. -/
def Expr.words? : Expr → Option (List (List Char))
  | .literal text => some [text]
  | .choice a b => do
    let xs ← a.words?
    let ys ← b.words?
    pure (xs ++ ys)
  | _ => none

/-- The first of the words that the text begins with, as a match. -/
def firstWord (words : List (List Char)) (cs : List Char) : Option Match :=
  words.findSome? fun w => (after? w cs).map fun rest => ⟨w, rest, []⟩

section Words

variable {mode : Mode} {stop : Expr} {words : List (List Char)} {p : Char → Bool}

theorem firstWord_eq_some {m : Match} (first : firstWord words cs = some m) :
    m.taken ∈ words ∧ m.taken ++ m.rest = cs ∧ m.nodes = [] := by
  obtain ⟨w, mem, begins⟩ := List.exists_of_findSome?_eq_some first
  obtain ⟨rest, after, rfl⟩ := Option.map_eq_some_iff.mp begins
  exact ⟨mem, after?_eq_some after, rfl⟩

/-- A choice between words takes the first that the text begins with. -/
theorem reads_words {ctx : Context} {at_ : Nat} {r : Option Match}
    (choice : e.words? = some words) :
    Reads g (.expr e) ctx at_ cs r ↔ r = firstWord words cs := by
  induction e generalizing words r with
  | literal text =>
    obtain rfl := Option.some.inj choice
    rw [reads_leaf rfl, leaf, firstWord, List.findSome?_singleton]
  | choice a b left right =>
    simp only [Expr.words?, Option.bind_eq_bind, Option.bind_eq_some_iff] at choice
    obtain ⟨xs, first, ys, second, same⟩ := choice
    obtain rfl := Option.some.inj same
    rw [reads_choice, firstWord, List.findSome?_append, ← firstWord, ← firstWord]
    simp only [left first, right second]
    cases firstWord xs cs with
    | none => simp
    | some m => simp [eq_comm]
  | _ => cases choice

/-- A word is taken if the text begins with no other one and nothing goes on with it. -/
theorem TakesToken.whole_word {word : List Char} (choice : e.words? = some words)
    (letter : stop.letter? = some p) (tight : mode ≠ .spaced) (mem : word ∈ words)
    (only : ∀ w ∈ words, w <+: word ++ tail → w = word) (clear : Clear p tail) :
    TakesToken g mode (.seq e (.notAhead stop)) word tail := by
  have first : firstWord words (word ++ tail) = some ⟨word, tail, []⟩ := by
    cases found : firstWord words (word ++ tail) with
    | none =>
      have none := List.findSome?_eq_none_iff.mp found word mem
      rw [after?_self_append] at none
      cases none
    | some m =>
      obtain ⟨taken, rest, nodes⟩ := m
      obtain ⟨mem', split, rfl⟩ := firstWord_eq_some found
      obtain rfl : taken = word := only taken mem' ⟨rest, split⟩
      obtain rfl : rest = tail := List.append_cancel_left split
      rfl
  have taken : TakesToken g mode e word ([] ++ tail) :=
    fun at_ => ⟨[], (reads_words choice).mpr first.symm⟩
  have ends : TakesToken g mode (.notAhead stop) [] tail := by
    intro at_
    have nothing : letterMatch p tail = none := by
      cases tail with
      | nil => rfl
      | cons c tail => simp [letterMatch, clear c rfl]
    have look : Reads g (.expr (.notAhead stop)) { mode } at_ tail (some (.empty tail)) :=
      .notAhead ((reads_letter letter).mpr nothing.symm)
    exact ⟨[], look⟩
  have whole := taken.seq tight ends
  rwa [List.append_nil] at whole

/-- No word is taken if something goes on with each that the text begins with. -/
theorem Fails.whole_word (choice : e.words? = some words) (letter : stop.letter? = some p)
    (tight : mode ≠ .spaced)
    (goesOn : ∀ w ∈ words, ∀ rest, w ++ rest = cs → ∃ c, rest.head? = some c ∧ p c = true) :
    Fails g mode (.seq e (.notAhead stop)) cs := by
  intro at_
  have read : Reads g (.expr e) { mode } at_ cs (firstWord words cs) :=
    (reads_words choice).mpr rfl
  cases found : firstWord words cs with
  | none =>
    rw [found] at read
    exact .seqFails read
  | some m =>
    rw [found] at read
    obtain ⟨mem, split, -⟩ := firstWord_eq_some found
    obtain ⟨c, head, in_⟩ := goesOn _ mem _ split
    have something : letterMatch p m.rest = some ⟨[c], m.rest.tail, []⟩ := by
      rw [← List.cons_head?_tail head]
      simp [letterMatch, in_]
    have look (at_ : Nat) : Reads g (.expr (.notAhead stop)) { mode } at_ m.rest none :=
      .notAhead ((reads_letter letter).mpr something.symm)
    have behind : Reads g (Task.round true (.notAhead stop)) { mode }
      (at_ + Text.byteSize m.taken) m.rest none :=
      (reads_round_of_tight fun _ => tight).mpr (look _)
    exact .seq read behind

end Words

/-! ### Rounds of a repetition -/

/-- Behind blanks, the rounds of the expression take the text in front of the tail, except for
blanks at its end. -/
def Rounds (g : Grammar) (blank : Char → Bool) (e : Expr) (cs tail : List Char) (P : Shape) :
    Prop :=
  ∀ at_ bs, Blank blank bs → ∃ m bs', Reads g (.more true e) {} at_ (bs ++ (cs ++ tail)) (some m) ∧
    m.rest = bs' ++ tail ∧ Blank blank bs' ∧ P m.nodes

theorem Rounds.nil (skips : SkipsBlanks g blank) (fails : Fails g .spaced e tail)
    (tight : Clear blank tail) : Rounds g blank e [] tail .none := by
  intro at_ bs blanks
  have round : Reads g (Task.round true e) {} at_ (bs ++ tail) .none :=
    (reads_behind_blanks skips rfl blanks tight).mpr ⟨_, fails _, rfl⟩
  exact ⟨_, bs, .moreDone round, rfl, blanks, rfl⟩

theorem Rounds.cons (skips : SkipsBlanks g blank) (first : Takes g blank e cs (ds ++ tail) P)
    (tight : Clear blank (cs ++ (ds ++ tail))) (later : Rounds g blank e ds tail Q) :
    Rounds g blank e (cs ++ ds) tail (P.append Q) := by
  intro at_ bs blanks
  obtain ⟨m, bs', read, rest, blanks', shape⟩ := first (at_ + Text.byteSize bs)
  have round : Reads g (Task.round true e) {} at_ (bs ++ (cs ++ (ds ++ tail)))
      (some (Match.append ⟨bs, cs ++ (ds ++ tail), []⟩ m)) :=
    (reads_behind_blanks skips rfl blanks tight).mpr ⟨_, read, rfl⟩
  obtain ⟨n, bs'', read', rest', blanks'', shape'⟩ := later
    (at_ + Text.byteSize (Match.append ⟨bs, cs ++ (ds ++ tail), []⟩ m).taken) bs' blanks'
  rw [← rest] at read'
  rw [List.append_assoc]
  exact ⟨_, bs'', .more round read', rest', blanks'', m.nodes, n.nodes, rfl, shape, shape'⟩

theorem Rounds.imp (rounds : Rounds g blank e cs tail P) (implies : ∀ nodes, P nodes → Q nodes) :
    Rounds g blank e cs tail Q := by
  intro at_ bs blanks
  obtain ⟨m, bs', read, rest, blanks', shape⟩ := rounds at_ bs blanks
  exact ⟨m, bs', read, rest, blanks', implies _ shape⟩

theorem Takes.star (skips : SkipsBlanks g blank) (rounds : Rounds g blank e cs tail P)
    (tight : Clear blank (cs ++ tail)) : Takes g blank (.star e) cs tail P := by
  intro at_
  have none : Blank blank [] := by simp [Blank]
  -- The first round skips nothing, and there are no blanks that it could skip.
  have inner {at_ : Nat} {r : Option Match}
      (round : Reads g (Task.round true e) {} at_ (cs ++ tail) r) :
      Reads g (.expr e) {} at_ (cs ++ tail) r := by
    obtain ⟨x, read, rfl⟩ := (reads_behind_blanks skips rfl none tight).mp round
    cases x <;> simpa [Match.append] using read
  obtain ⟨m, bs, more, rest, blanks, shape⟩ := rounds at_ [] none
  rcases reads_more.mp more with ⟨round, eq⟩ | ⟨n, x, round, again, eq⟩
  · obtain rfl := Option.some.inj eq
    exact ⟨_, bs, .starDone (inner round), rest, blanks, shape⟩
  · obtain ⟨k, rfl, rfl⟩ := Option.map_eq_some_iff.mp eq.symm
    exact ⟨_, bs, .star (inner round) again, rest, blanks, shape⟩

/-- An expression and the rounds of another one behind it. -/
theorem Takes.seq_star (skips : SkipsBlanks g blank) (first : Takes g blank a cs (ds ++ tail) P)
    (later : Rounds g blank e ds tail Q) (tight : Clear blank tail) :
    Takes g blank (.seq a (.star e)) (cs ++ ds) tail (P.append Q) := by
  intro at_
  obtain ⟨m, bs, read, rest, blanks, shape⟩ := first at_
  obtain ⟨k, bs', more, rest', blanks', shape'⟩ := later (at_ + Text.byteSize m.taken) bs blanks
  rw [← rest] at more
  rw [List.append_assoc]
  rcases reads_more.mp more with ⟨round, eq⟩ | ⟨n, x, round, again, eq⟩
  · -- Without a round, the blanks behind the first part count as its own.
    obtain rfl := Option.some.inj eq
    have star := (reads_spaced_star skips).mpr (.inl ⟨round, rfl⟩)
    rw [Match.empty_rest] at rest'
    have skipped : skipMatch blank {} m.rest = ⟨bs', tail, []⟩ := by
      rw [rest', skipMatch, if_pos rfl, spanMatch_append_of_all blanks']
      cases tail with
      | nil => simp
      | cons c tail => simp [tight c rfl]
    rw [skipped] at star
    exact ⟨_, [], .seq read star, rfl, by simp [Blank], m.nodes, [], rfl, shape, shape'⟩
  · obtain ⟨k, rfl, rfl⟩ := Option.map_eq_some_iff.mp eq.symm
    have star := (reads_spaced_star skips).mpr (.inr ⟨n, k, round, again, rfl⟩)
    exact ⟨_, bs', .seq read star, rest', blanks', m.nodes, _, rfl, shape, shape'⟩

/-! ### Chains that group to the left -/

section Chains

variable {α : Type} {operand step : Expr} {follows : List Char → Prop}
  {build : ParseNode → Except Error α} {fold : α → List ParseNode → Except Error α} {x y : α}

/-- Nodes of an operand and of what is joined to it, which fold as if, after a prefix that gives
`x`, the nodes of the shape were left. -/
def Folds (build : ParseNode → Except Error α) (fold : α → List ParseNode → Except Error α) (x : α)
    (Q : Shape) : Shape := fun nodes =>
  ∃ first rest a later, nodes = first :: rest ∧ build first = .ok a ∧ Q later ∧
    fold a rest = fold x later

/-- The text opens a chain that gives `x`: with any rounds behind it, it is read as an operand and
rounds that give `x` before those. -/
def Opens (g : Grammar) (blank : Char → Bool) (operand step : Expr) (follows : List Char → Prop)
    (build : ParseNode → Except Error α) (fold : α → List ParseNode → Except Error α)
    (cs : List Char) (x : α) : Prop :=
  ∀ ds tail Q, Rounds g blank step ds tail Q → follows (ds ++ tail) → Clear blank tail →
    Takes g blank (.seq operand (.star step)) (cs ++ ds) tail (Folds build fold x Q)

/-- An operand opens a chain. -/
theorem Opens.single (skips : SkipsBlanks g blank)
    (takes : ∀ tail, follows tail →
      Takes g blank operand cs tail (.single fun n => build n = .ok x)) :
    Opens g blank operand step follows build fold cs x := by
  intro ds tail Q rounds after tight
  refine ((takes _ after).seq_star skips rounds tight).imp ?_
  rintro _ ⟨_, later, rfl, ⟨n, rfl, built⟩, shape⟩
  exact ⟨n, later, x, later, rfl, built, shape, rfl⟩

/-- What opens a chain and one more operand, behind its operator, open a chain. -/
theorem Opens.join (skips : SkipsBlanks g blank)
    (opens : Opens g blank operand step follows build fold cs x)
    (next : ∀ tail, follows tail → Takes g blank step ds tail fun nodes =>
      ∃ op n, nodes = [op, n] ∧ ∀ later, fold x (op :: n :: later) = fold y later)
    (leads : ∀ tail, follows (ds ++ tail)) (tight : ∀ tail, Clear blank (ds ++ tail)) :
    Opens g blank operand step follows build fold (cs ++ ds) y := by
  intro es tail Q rounds after atEnd
  -- The further operand is the first of the rounds behind the shorter chain.
  have rounds := Rounds.cons skips (next _ after) (tight _) rounds
  have whole := opens (ds ++ es) tail _ rounds (by simpa using leads (es ++ tail)) atEnd
  rw [List.append_assoc]
  refine whole.imp ?_
  rintro nodes ⟨first, rest, a, _, rfl, built, ⟨_, later, rfl, ⟨op, n, rfl, joins⟩, shape⟩, same⟩
  exact ⟨first, rest, a, later, rfl, built, shape, same.trans (joins later)⟩

/-- Where no further operator follows, the chain is read to its end. -/
theorem Opens.takes (skips : SkipsBlanks g blank)
    (opens : Opens g blank operand step follows build fold cs x) (fails : Fails g .spaced step tail)
    (after : follows tail) (tight : Clear blank tail) :
    Takes g blank (.seq operand (.star step)) cs tail fun nodes =>
      ∃ first rest a, nodes = first :: rest ∧ build first = .ok a ∧ fold a rest = fold x [] := by
  have whole := opens [] tail _ (.nil skips fails tight) after tight
  rw [List.append_nil] at whole
  refine whole.imp ?_
  rintro nodes ⟨first, rest, a, _, rfl, built, rfl, same⟩
  exact ⟨first, rest, a, rfl, built, same⟩

end Chains

end Dialect.Grammar
