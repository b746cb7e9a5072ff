import Dialect.Proofs.Grammar.Derivation
import Dialect.Proofs.Text.Quoted

/-!
Characters that stand only inside quotes.

A text is `Calm` if it ends outside quotes and has no character of a set outside of them. Calm texts
can be put side by side, so whatever a grammar derives is calm if its tokens are (`Derives.calm`).
-/

namespace Dialect.Grammar

open Text.Quoted

/-! ### Places in a text -/

namespace Place

/-- The place behind a character. -/
def next : Place → Char → Place
  | .outside, c => if c = '"' then .quoted else .outside
  | .quoted, c => if c = '"' then .outside else if c = '\\' then .escaped else .quoted
  | .escaped, _ => .quoted

/-- The place behind a text. -/
def behind (p : Place) (cs : List Char) : Place := cs.foldl next p

/-- From the place on, none of the marks stands outside quotes. -/
def hides (marks : List Char) : Place → List Char → Prop
  | _, [] => True
  | p, c :: cs => (p = .outside → c ∉ marks) ∧ (p.next c).hides marks cs

variable {p : Place} {marks cs ds : List Char}

theorem behind_append : p.behind (cs ++ ds) = (p.behind cs).behind ds := List.foldl_append

theorem hides_append :
    p.hides marks (cs ++ ds) ↔ p.hides marks cs ∧ (p.behind cs).hides marks ds := by
  induction cs generalizing p with
  | nil => simp [hides, behind]
  | cons c cs ih => simp only [List.cons_append, hides, ih, behind, List.foldl_cons, and_assoc]

end Place

namespace Scan

variable {q q' : Scan}

theorem place_of_step {c : Char} (step : q.step c = some q') : q'.place = q.place.next c := by
  obtain ⟨place, depth⟩ := q
  cases place with
  | outside | quoted => grind [Scan.step, Place.next]
  | escaped =>
      obtain rfl := Option.some.inj step
      rfl

/-- A scan is at the place behind the text that it went through. -/
theorem place_of_through {cs : List Char} (through : q.through cs = some q') :
    q'.place = q.place.behind cs := by
  induction cs generalizing q with
  | nil =>
      obtain rfl := Option.some.inj through
      rfl
  | cons c cs ih =>
      obtain ⟨k, first, later⟩ := Option.bind_eq_some_iff.mp through
      rw [ih later, place_of_step first]
      rfl

end Scan

/-! ### Calm texts -/

/-- The text ends outside quotes, and none of the marks stands outside of them. -/
structure Calm (marks cs : List Char) : Prop where
  ends : Place.outside.behind cs = .outside
  hidden : Place.outside.hides marks cs

namespace Calm

variable {marks cs ds : List Char}

theorem nil : Calm marks [] := ⟨rfl, trivial⟩

theorem append (first : Calm marks cs) (second : Calm marks ds) : Calm marks (cs ++ ds) where
  ends := by rw [Place.behind_append, first.ends, second.ends]
  hidden := Place.hides_append.mpr ⟨first.hidden, by rw [first.ends]; exact second.hidden⟩

/-- What stands behind a part of a calm text that ends outside quotes is calm. -/
theorem rest (calm : Calm marks (cs ++ ds)) (outside : Place.outside.behind cs = .outside) :
    Calm marks ds where
  ends := by
    have ends := calm.ends
    rwa [Place.behind_append, outside] at ends
  hidden := by
    have hidden := (Place.hides_append.mp calm.hidden).2
    rwa [outside] at hidden

/-- Outside quotes, a calm text does not begin with a mark. -/
theorem head (calm : Calm marks cs) {c : Char} (first : cs.head? = some c) : c ∉ marks := by
  cases cs with
  | nil => cases first
  | cons d cs =>
      obtain rfl := Option.some.inj first
      exact calm.hidden.1 rfl

theorem of_plain (plain : ∀ c ∈ cs, c ∉ '"' :: marks) : Calm marks cs := by
  induction cs with
  | nil => exact nil
  | cons c cs ih =>
      have first := plain c List.mem_cons_self
      rw [List.mem_cons, not_or] at first
      have stays : Place.outside.next c = .outside := by simp [Place.next, first.1]
      obtain ⟨ends, hidden⟩ := ih fun d mem => plain d (List.mem_cons_of_mem _ mem)
      refine ⟨?_, fun _ => first.2, ?_⟩
      · rw [Place.behind, List.foldl_cons, stays]
        exact ends
      · rwa [stays]

/-- A body stays inside its quotes. -/
theorem of_body (body : Body cs) :
    Place.quoted.behind cs = .quoted ∧ Place.quoted.hides marks cs := by
  induction body with
  | nil => exact ⟨rfl, trivial⟩
  | escaped _ ih => exact ⟨ih.1, nofun, nofun, ih.2⟩
  | @plain c cs quote slash _ ih =>
      have stays : Place.quoted.next c = .quoted := by simp [Place.next, quote, slash]
      refine ⟨?_, nofun, ?_⟩
      · rw [Place.behind, List.foldl_cons, stays]
        exact ih.1
      · rw [stays]
        exact ih.2

/-- A text in quotes is calm, whatever stands in it. -/
theorem quoted (apart : '"' ∉ marks) (body : Body cs) : Calm marks ('"' :: (cs ++ ['"'])) := by
  obtain ⟨stays, hidden⟩ := @of_body marks cs body
  refine ⟨?_, fun _ => apart, Place.hides_append.mpr ⟨hidden, ?_⟩⟩
  · change Place.quoted.behind (cs ++ ['"']) = .outside
    rw [Place.behind_append, stays]
    rfl
  · rw [show (Place.outside.next '"').behind cs = .quoted from stays]
    exact ⟨nofun, trivial⟩

end Calm

/-! ### Calm derivations -/

/-- The tokens of an expression are free of the characters, up to the rules that it calls. -/
def Expr.lacks (xs : List Char) : Expr → Bool
  | .literal text => xs.all fun x => (Expr.literal text).misses x
  | .caseless text => xs.all fun x => (Expr.caseless text).misses x
  | .one c => xs.all fun x => (Expr.one c).misses x
  | .seq a b | .choice a b => a.lacks xs && b.lacks xs
  | .opt e | .star e => e.lacks xs
  | .upTo _ => false
  | .start | .finish | .call _ | .ahead _ | .notAhead _ => true

variable {g : Grammar} {blank : Char → Bool} {P : String → ParseNode → Prop}

theorem lacks_caseless {xs word text : List Char} (lacks : (Expr.caseless word).lacks xs = true)
    (same : List.Forall₂ (fun t c => sameLetter t c = true) word text) : ∀ c ∈ text, c ∉ xs := by
  simp only [Expr.lacks, Expr.misses, List.all_eq_true, Bool.not_eq_true'] at lacks
  induction same with
  | nil => simp
  | @cons t d word text first _ ih =>
      intro c mem marked
      rcases List.mem_cons.mp mem with rfl | later
      · simp [lacks c marked t List.mem_cons_self] at first
      · exact ih (fun x mem t within => lacks x mem t (List.mem_cons_of_mem _ within)) c later
          marked

theorem lacks_letter {xs : List Char} {e : Expr} {p : Char → Bool} {c : Char}
    (lacks : e.lacks xs = true) (letter : e.letter? = some p) (holds : p c = true) : c ∉ xs := by
  induction e generalizing p with
  | one class_ =>
      obtain rfl := Option.some.inj letter
      intro marked
      simp only [Expr.lacks, Expr.misses, List.all_eq_true] at lacks
      simpa [holds] using lacks c marked
  | literal text =>
      obtain _ | ⟨t, _ | _⟩ := text
      · cases letter
      · obtain rfl := Option.some.inj letter
        intro marked
        simp only [Expr.lacks, Expr.misses, List.all_eq_true] at lacks
        simpa [eq_of_beq holds] using lacks c marked
      · cases letter
  | choice a b ihLeft ihRight =>
      simp only [Expr.letter?, Option.bind_eq_bind, Option.bind_eq_some_iff] at letter
      obtain ⟨p, left, q, right, both⟩ := letter
      obtain rfl := Option.some.inj both
      simp only [Expr.lacks, Bool.and_eq_true] at lacks
      rcases Bool.or_eq_true _ _ ▸ holds with first | second
      · exact ihLeft lacks.1 left first
      · exact ihRight lacks.2 right second
  | _ => cases letter

theorem lacks_guarded {xs : List Char} {e : Expr} {p : Char → Bool} {c : Char}
    (lacks : e.lacks xs = true) (guarded : e.guarded? = some p) (holds : p c = true) :
    c ∉ xs := by
  unfold Expr.guarded? at guarded
  split at guarded
  · simp only [Option.bind_eq_bind, Option.bind_eq_some_iff] at guarded
    obtain ⟨p, -, q, letter, both⟩ := guarded
    obtain rfl := Option.some.inj both
    simp only [Expr.lacks, Bool.true_and] at lacks
    exact lacks_letter lacks letter (Bool.and_eq_true _ _ ▸ holds).2
  · cases guarded

/-- The bodies of the plain rules are free of quotes and marks, up to the rules that they call; the
framed rules always make nodes. -/
structure Quiet (g : Grammar) (marks : List Char) (plain framed : List String) : Prop where
  plain : ∀ name ∈ plain, (g.find? name).any (fun rule => rule.body.lacks ('"' :: marks)
    && rule.body.calls.all (plain ++ framed).contains) = true
  framed : ∀ name ∈ framed, (g.find? name).any (fun rule => rule.kind == .compound) = true

theorem Quiet.body {marks : List Char} {plain framed : List String}
    (quiet : g.Quiet marks plain framed) {name : String} {rule : Rule} (mem : name ∈ plain)
    (found : g.find? name = some rule) :
    rule.body.lacks ('"' :: marks) = true ∧ rule.body.calls ⊆ plain ++ framed := by
  have checked := quiet.plain name mem
  rw [found, Option.any_some, Bool.and_eq_true] at checked
  refine ⟨checked.1, fun callee called => ?_⟩
  exact List.contains_iff_mem.mp (List.all_eq_true.mp checked.2 callee called)

/-- What is derived with quiet rules is calm if the texts of nodes are. -/
theorem Derives.calm {marks : List Char} {plain framed : List String}
    (quiet : g.Quiet marks plain framed) (blanks : ∀ c, blank c = true → c ∉ '"' :: marks)
    (texts : ∀ name ∈ plain ++ framed, ∀ n, P name n → Calm marks n.text.toList)
    {mode : Mode} {e : Expr} {x : List Char} {ns : List ParseNode}
    (h : Derives g blank P mode e x ns) (lacks : e.lacks ('"' :: marks) = true)
    (calls : e.calls ⊆ plain ++ framed) : Calm marks x := by
  induction h with
  | literal =>
      refine Calm.of_plain fun c mem marked => ?_
      simp only [Expr.lacks, Expr.misses, List.all_eq_true] at lacks
      simpa [mem] using lacks c marked
  | caseless same => exact Calm.of_plain (lacks_caseless lacks same)
  | one holds =>
      refine Calm.of_plain fun c mem => ?_
      obtain rfl := List.mem_singleton.mp mem
      exact lacks_letter lacks rfl holds
  | start | finish _ | ahead | notAhead | absent | done => exact .nil
  | upTo => cases lacks
  | guarded guarded _ holds =>
      refine Calm.of_plain fun c mem => ?_
      obtain rfl := List.mem_singleton.mp mem
      exact lacks_guarded lacks guarded holds
  | seq _ _ gap _ ihLeft ihRight =>
      simp only [Expr.lacks, Bool.and_eq_true] at lacks
      have first := ihLeft lacks.1 fun c mem => calls (List.mem_append_left _ mem)
      have second := ihRight lacks.2 fun c mem => calls (List.mem_append_right _ mem)
      exact first.append ((Calm.of_plain fun c mem => blanks c (gap.blanks c mem)).append second)
  | round _ gap _ ihFirst ihLater =>
      have first := ihFirst lacks calls
      have later := ihLater lacks calls
      exact first.append ((Calm.of_plain fun c mem => blanks c (gap.blanks c mem)).append later)
  | left _ ih =>
      simp only [Expr.lacks, Bool.and_eq_true] at lacks
      exact ih lacks.1 fun c mem => calls (List.mem_append_left _ mem)
  | right _ ih =>
      simp only [Expr.lacks, Bool.and_eq_true] at lacks
      exact ih lacks.2 fun c mem => calls (List.mem_append_right _ mem)
  | present _ ih => exact ih lacks calls
  | @inside mode name rule _ _ found hidden _ ih =>
      rcases List.mem_append.mp (calls List.mem_cons_self) with plain | framed
      · obtain ⟨lacks, calls⟩ := quiet.body plain found
        exact ih lacks calls
      · have compound := quiet.framed name framed
        rw [found, Option.any_some, beq_iff_eq] at compound
        obtain ⟨_, kind, _⟩ := rule
        obtain rfl : kind = .compound := compound
        cases hidden
  | @node mode name rule n _ _ made => exact texts name (calls List.mem_cons_self) n made

end Dialect.Grammar
