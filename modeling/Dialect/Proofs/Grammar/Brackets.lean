import Dialect.Proofs.Grammar.Enough
import Dialect.Proofs.Grammar.Letters
import Mathlib.Data.List.TakeWhile

/-!
Brackets and quotes in what a grammar reads.

A scan goes over a text and keeps whether it stands inside quotes and how many brackets are open;
closing a bracket that is not open stops it. `Contract`s say of rules what their bodies do to a
scan, and `track` computes this for an expression from the contracts of the rules it calls. If the
contracts are right (`Setting.Right`, which can be decided), whatever an expression matches takes a
scan to where `track` says (`Reads.through_taken`): brackets outside quotes are balanced.

The contracts also say which expressions may be asked at the very end of a bracketed text, with
what they must not match there. `Extension` builds on that part.
-/

namespace Dialect.Grammar

/-! ### Scanning -/

/-- Where a scan stands with regard to quotes; a backslash protects what follows it in quotes. -/
inductive Place where
  | outside
  | quoted
  | escaped
  deriving DecidableEq, Repr

/-- The state of a scan. -/
structure Scan where
  place : Place := .outside
  /-- The number of open brackets. -/
  depth : Nat := 0
  deriving DecidableEq, Repr

/-- The character means something to a scan outside quotes. -/
def isMark (c : Char) : Bool := ['"', '(', ')', '\x7b', '\x7d'].contains c

namespace Scan

/-- The state after one more character; none if it closes a bracket that is not open. -/
def step (q : Scan) (c : Char) : Option Scan :=
  match q.place with
  | .outside =>
    if c = '"' then some { q with place := .quoted }
    else if c = '(' ∨ c = '\x7b' then some { q with depth := q.depth + 1 }
    else if c = ')' ∨ c = '\x7d' then
      if q.depth = 0 then none else some { q with depth := q.depth - 1 }
    else some q
  | .quoted =>
    if c = '"' then some { q with place := .outside }
    else if c = '\\' then some { q with place := .escaped }
    else some q
  | .escaped => some { q with place := .quoted }

/-- The state after a text. -/
def through (q : Scan) : List Char → Option Scan
  | [] => some q
  | c :: cs => (q.step c).bind fun q => q.through cs

/-- The state with more open brackets around it. -/
def lift (q : Scan) (d : Nat) : Scan := { q with depth := q.depth + d }

variable {q q' : Scan} {cs ds : List Char} {d : Nat}

@[simp] theorem through_nil : q.through [] = some q := rfl

theorem through_cons {c : Char} : q.through (c :: cs) = (q.step c).bind fun q => q.through cs := rfl

theorem through_append : q.through (cs ++ ds) = (q.through cs).bind fun q => q.through ds := by
  induction cs generalizing q with
  | nil => rfl
  | cons c cs ih => cases h : q.step c <;> simp [through_cons, h, ih]

@[simp] theorem lift_zero : q.lift 0 = q := rfl

theorem step_lift {c : Char} (h : q.step c = some q') : (q.lift d).step c = some (q'.lift d) := by
  obtain ⟨place, depth⟩ := q
  cases place with
  | outside =>
      simp only [step, lift] at h ⊢
      split at h
      · simp_all
        subst h; simp
      · split at h
        · simp_all
          subst h; simp; omega
        · split at h
          · split at h
            · cases h
            · simp_all
              subst h; simp; omega
          · simp_all
            subst h; simp
  | quoted =>
      simp only [step, lift] at h ⊢
      split at h
      · simp_all
        subst h; simp
      · split at h <;> simp_all <;> subst h <;> simp
  | escaped =>
      simp only [step, lift, Option.some.injEq] at h ⊢
      subst h
      rfl

theorem through_lift (h : q.through cs = some q') : (q.lift d).through cs = some (q'.lift d) := by
  induction cs generalizing q with
  | nil =>
      obtain rfl := Option.some.inj h
      rfl
  | cons c cs ih =>
      obtain ⟨p, first, later⟩ := Option.bind_eq_some_iff.mp h
      rw [through_cons, step_lift first]
      exact ih later

theorem step_of_not_isMark {c : Char} (outside : q.place = .outside) (plain : isMark c = false) :
    q.step c = some q := by
  simp only [isMark, List.contains_cons, List.contains_nil, Bool.or_false, Bool.or_eq_false_iff,
    beq_eq_false_iff_ne] at plain
  simp [step, outside, plain]

/-- Outside quotes, a text without brackets and quotes leaves the scan where it is. -/
theorem through_of_not_isMark (outside : q.place = .outside) (plain : ∀ c ∈ cs, isMark c = false) :
    q.through cs = some q := by
  induction cs with
  | nil => rfl
  | cons c cs ih =>
      rw [through_cons, step_of_not_isMark outside (plain c List.mem_cons_self)]
      exact ih fun c mem => plain c (List.mem_cons_of_mem _ mem)

end Scan

/-- A balanced text that begins with an open bracket goes at least as far as the bracket is
closed. -/
theorem rest_behind_bracket {taken rest y w : List Char}
    (same : taken ++ rest = '(' :: (y ++ ')' :: w)) (some : taken ≠ [])
    (inside : ({} : Scan).through y = .some {}) (balanced : ({} : Scan).through taken = .some {}) :
    ∃ before, w = before ++ rest := by
  obtain ⟨c, t, rfl⟩ := List.exists_cons_of_ne_nil some
  obtain ⟨rfl, split⟩ := List.cons.inj same
  replace split : t ++ rest = y ++ ')' :: w := split
  have opened : (Scan.lift {} 1).through t = .some {} := balanced
  -- up to the bracket that closes the first one, some bracket is open
  have deep {q : Scan} (through : ({} : Scan).through t = .some q) : False := by
    rw [Scan.through_lift through] at opened
    have : q.depth + 1 = 0 := congrArg Scan.depth (Option.some.inj opened)
    omega
  rcases List.append_eq_append_iff.mp split with ⟨z, hy, -⟩ | ⟨z, ht, hw⟩
  · rw [hy, Scan.through_append] at inside
    obtain ⟨q, through, -⟩ := Option.bind_eq_some_iff.mp inside
    exact (deep through).elim
  · cases z with
    | nil =>
        rw [List.append_nil] at ht
        exact (deep (ht ▸ inside)).elim
    | cons d z => exact ⟨z, (List.cons.inj hw).2⟩

/-! ### Contracts -/

/-- What holds where an expression is asked, and what is expected of it. -/
structure Stance where
  /-- Nothing is skipped here. -/
  tight : Bool
  /-- With no bracket open and outside quotes, the bracketed text may be at its end. -/
  edge : Bool
  /-- At that end nothing more is taken. -/
  exact : Bool
  deriving DecidableEq, Repr

/-- What the body of a rule does to a scan: it comes back to the state it starts from, outside or
inside quotes. -/
structure Contract where
  name : String
  place : Place := .outside
  stance : Stance
  /-- The rule turns skipping off. -/
  sealed : Bool
  deriving DecidableEq, Repr

/-- The contracts of a grammar, its blanks, and the character that ends a bracketed text. -/
structure Setting where
  blanks : List Char
  stop : Char
  ranking : Ranking
  contracts : List Contract
  /-- The rules whose nodes may have further blanks at the end of their text. -/
  loose : List String := []

/-- The expression has no parts and never matches a text with the character in it. -/
def Expr.misses (x : Char) : Expr → Bool
  | .literal text => !text.contains x
  | .caseless text => text.all fun t => !sameLetter t x
  | .one c => !c.holds x
  | _ => false

/-- The characters that an expression matches one of, where the others are looked out for first. -/
def Expr.guarded? : Expr → Option (Char → Bool)
  | .seq (.notAhead a) b => do
    let p ← a.letter?
    let q ← b.letter?
    pure fun c => !p c && q c
  | _ => none

/-- The last character of every match is none of the blanks. -/
def Expr.closed (blanks : List Char) : Expr → Bool
  | .literal text => text.getLast?.any fun c => !blanks.contains c
  | .seq _ b => b.closed blanks
  | .choice a b => a.closed blanks && b.closed blanks
  | _ => false

namespace Setting

variable (σ : Setting)

/-- The characters that may stand at the end of a bracketed text. -/
def atEnd : List Char := σ.stop :: σ.blanks

/-- The characters that mean something to a scan. -/
def marks : List Char := ['"', '(', ')', '\x7b', '\x7d']

/-- The text may end here. -/
def risky (s : Stance) (q : Scan) : Bool := s.edge && q == {}

/-- The state after a match of an expression without parts. -/
def trackLeaf (s : Stance) (e : Expr) (q : Scan) : Option Scan :=
  if risky s q && !σ.atEnd.all (fun x => e.misses x) then none
  else if q.place = .outside && marks.all fun x => e.misses x then some q
  else
    match e with
    | .literal [t] => q.step t
    | .one _ => if q.place = .escaped then some { q with place := .quoted } else none
    | _ => none

/-- A contract lets a rule be called here. -/
def allows (s : Stance) (q : Scan) (name : String) (c : Contract) : Bool :=
  c.name == name && c.place = q.place && c.stance.edge == (s.edge && q.depth = 0)
    && (!c.stance.tight || s.tight || c.sealed) && (!c.stance.edge || !s.exact || c.stance.exact)

/-- The state after a match of an expression, if it can be told. -/
def track (s : Stance) : Expr → Scan → Option Scan
  | .call name, q => if σ.contracts.any (allows s q name) then some q else none
  | .notAhead e, q =>
    match e.letter? with
    | some p => if risky s q && σ.atEnd.any p then none else some q
    | none => none
  | .seq a b, q =>
    match (Expr.seq a b).guarded? with
    | some p => if s.tight && q.place = .quoted && !p '"' && !p '\\' then some q else none
    | none => do
      let q₁ ← track s a q
      if s.tight || q₁.place = .outside then track s b q₁ else none
  | .choice a b, q => do
    let q₁ ← track s a q
    let q₂ ← track s b q
    if q₁ = q₂ then some q₁ else none
  | .opt e, q => do
    let q₁ ← track s e q
    if q₁ = q then some q else none
  | .star e, q =>
    match e.letter? with
    | some p =>
      if s.tight && q.place = .outside && !marks.any p
          && !(risky s q && (p σ.stop || (s.exact && σ.blanks.any p))) then some q
      else none
    | none => do
      let q₁ ← track s e q
      if q₁ = q && (s.tight || q.place = .outside) then some q else none
  | .literal text, q => σ.trackLeaf s (.literal text) q
  | .caseless text, q => σ.trackLeaf s (.caseless text) q
  | .one c, q => σ.trackLeaf s (.one c) q
  | _, _ => none

/-- The state after a match of a task. -/
def trackTask (s : Stance) : Task → Scan → Option Scan
  | .expr e, q => σ.track s e q
  | .spaced e, q => if s.tight || q.place = .outside then σ.track s e q else none
  | .more _ e, q =>
    if e.letter?.isNone && σ.track s e q = some q && (s.tight || q.place = .outside) then some q
    else none
  | .skip, _ => none

end Setting

/-- A call leads a scan back, under one of the contracts of its rule. -/
theorem track_call {σ : Setting} {s : Stance} {q q' : Scan} {name : String}
    (tracked : σ.track s (.call name) q = some q') :
    q' = q ∧ ∃ c ∈ σ.contracts, c.name = name ∧ c.place = q.place ∧
      c.stance.edge = (s.edge && q.depth = 0) ∧
      (c.stance.tight = true → s.tight = true ∨ c.sealed = true) ∧
      (c.stance.edge = true → s.exact = true → c.stance.exact = true) := by
  simp only [Setting.track] at tracked
  split at tracked
  · rename_i allowed
    obtain ⟨c, mem, allows⟩ := List.any_eq_true.mp allowed
    simp only [Setting.allows, Bool.and_eq_true, beq_iff_eq, decide_eq_true_eq, Bool.or_eq_true,
      Bool.not_eq_true'] at allows
    obtain ⟨⟨⟨⟨named, place⟩, edge⟩, tight⟩, exact⟩ := allows
    refine ⟨(Option.some.inj tracked).symm, c, mem, named, place, edge, ?_, ?_⟩
    · intro held
      simpa [held] using tight
    · intro held wanted
      simpa [held, wanted] using exact
  · cases tracked

namespace Setting

variable (σ : Setting)

/-- A contract is right about its rule. -/
structure Keeps (g : Grammar) (c : Contract) : Prop where
  found : ∃ rule ∈ g.find? c.name, rule.kind ≠ .nonAtomic ∧ isSkipRule rule.name = false ∧
    (c.sealed = true → rule.kind = .atomic ∨ rule.kind = .compound) ∧
    σ.track c.stance rule.body ⟨c.place, 0⟩ = some ⟨c.place, 0⟩
  exact_tight : c.stance.exact = true → c.stance.tight = true
  /-- At the end of the text the rule takes no blanks, unless it is loose. -/
  stays : c.stance.edge = true → c.stance.exact = true ∨ σ.loose.contains c.name = true ∨
    ∃ rule, g.find? c.name = some rule ∧ rule.body.closed σ.blanks = true
  /-- At the end of the text the rule makes no node out of nothing. -/
  moves : c.stance.edge = true → c.place = .outside →
    (∃ rule, g.find? c.name = some rule ∧ rule.kind = .silent) ∨
      σ.ranking.movers.contains c.name = true

/-- The contract is right, as it can be computed. -/
def checks (g : Grammar) (c : Contract) : Bool :=
  match g.find? c.name with
  | some rule =>
    rule.kind != .nonAtomic && !isSkipRule rule.name
      && (!c.sealed || rule.kind == .atomic || rule.kind == .compound)
      && σ.track c.stance rule.body ⟨c.place, 0⟩ == some ⟨c.place, 0⟩
      && (!c.stance.exact || c.stance.tight)
      && (!c.stance.edge || c.stance.exact || σ.loose.contains c.name || rule.body.closed σ.blanks)
      && (!c.stance.edge || c.place != .outside || rule.kind == .silent
        || σ.ranking.movers.contains c.name)
  | none => false

variable {σ} in
theorem keeps_of_checks {g : Grammar} {c : Contract} (checked : σ.checks g c = true) :
    σ.Keeps g c := by
  unfold checks at checked
  split at checked
  · rename_i rule found
    simp only [Bool.and_eq_true, bne_iff_ne, Bool.not_eq_true', Bool.or_eq_true, beq_iff_eq]
      at checked
    obtain ⟨⟨⟨⟨⟨⟨kind, plain⟩, seals⟩, tracked⟩, tight⟩, stays⟩, moves⟩ := checked
    refine ⟨⟨rule, found, kind, plain, fun held => ?_, tracked⟩, fun held => ?_, fun held => ?_,
      fun held outside => ?_⟩
    · simpa [held] using seals
    · simpa [held] using tight
    · rcases stays with ((inside | exact_) | loose) | closed
      · simp [held] at inside
      · exact .inl exact_
      · exact .inr (.inl loose)
      · exact .inr (.inr ⟨rule, found, closed⟩)
    · rcases moves with ((inside | quoted) | silent) | moves
      · simp [held] at inside
      · exact absurd outside quoted
      · exact .inl ⟨rule, found, silent⟩
      · exact .inr moves
  · cases checked

/-- The setting is right about the grammar. -/
structure Right (g : Grammar) : Prop where
  fits : σ.ranking.Fits g
  blanks : SkipsBlanks g σ.blanks.contains
  plain : ∀ c ∈ σ.blanks, isMark c = false
  stop : σ.blanks.contains σ.stop = false
  contracts : ∀ c ∈ σ.contracts, σ.Keeps g c

end Setting

variable {g : Grammar} {σ : Setting}

theorem Setting.mem_marks {c : Char} : c ∈ Setting.marks ↔ isMark c = true := by
  simp [Setting.marks, isMark]

/-! ### What `track` tells about each other operator -/

section Track

variable {s : Stance} {q q' : Scan}

theorem track_notAhead {e : Expr} (tracked : σ.track s (.notAhead e) q = some q') :
    q' = q ∧ ∃ p, e.letter? = some p ∧
      (Setting.risky s q = true → ∀ x ∈ σ.atEnd, p x = false) := by
  simp only [Setting.track] at tracked
  split at tracked
  · rename_i p letter
    split at tracked
    · cases tracked
    · rename_i clear
      refine ⟨(Option.some.inj tracked).symm, p, letter, ?_⟩
      intro risky x mem
      by_contra held
      rw [Bool.not_eq_false] at held
      exact clear (by rw [risky, Bool.true_and]; exact List.any_eq_true.mpr ⟨x, mem, held⟩)
  · cases tracked

theorem track_seq {a b : Expr} (tracked : σ.track s (.seq a b) q = some q') :
    (∃ p, (Expr.seq a b).guarded? = some p ∧ s.tight = true ∧ q.place = .quoted ∧
      p '"' = false ∧ p '\\' = false ∧ q' = q) ∨
    ∃ q₁, σ.track s a q = some q₁ ∧ σ.trackTask s (.spaced b) q₁ = some q' := by
  simp only [Setting.track] at tracked
  split at tracked
  · rename_i p guarded
    split at tracked
    · rename_i held
      simp only [Bool.and_eq_true, Bool.not_eq_true', decide_eq_true_eq] at held
      exact .inl ⟨p, guarded, held.1.1.1, held.1.1.2, held.1.2, held.2,
        (Option.some.inj tracked).symm⟩
    · cases tracked
  · exact .inr (Option.bind_eq_some_iff.mp tracked)

theorem track_choice {a b : Expr} (tracked : σ.track s (.choice a b) q = some q') :
    σ.track s a q = some q' ∧ σ.track s b q = some q' := by
  simp only [Setting.track] at tracked
  obtain ⟨q₁, first, tracked⟩ := Option.bind_eq_some_iff.mp tracked
  obtain ⟨q₂, second, tracked⟩ := Option.bind_eq_some_iff.mp tracked
  split at tracked
  · rename_i same
    obtain rfl := Option.some.inj tracked
    exact ⟨first, same ▸ second⟩
  · cases tracked

theorem track_opt {e : Expr} (tracked : σ.track s (.opt e) q = some q') :
    q' = q ∧ σ.track s e q = some q := by
  simp only [Setting.track] at tracked
  obtain ⟨q₁, first, tracked⟩ := Option.bind_eq_some_iff.mp tracked
  split at tracked
  · rename_i same
    subst same
    exact ⟨(Option.some.inj tracked).symm, first⟩
  · cases tracked

theorem track_star {e : Expr} (tracked : σ.track s (.star e) q = some q') :
    q' = q ∧
      ((∃ p, e.letter? = some p ∧ s.tight = true ∧ q.place = .outside ∧
        (∀ x ∈ Setting.marks, p x = false) ∧
        (Setting.risky s q = true → p σ.stop = false ∧
          (s.exact = true → ∀ x ∈ σ.blanks, p x = false))) ∨
      σ.trackTask s (.more true e) q = some q) := by
  simp only [Setting.track] at tracked
  split at tracked
  · rename_i p letter
    split at tracked
    · rename_i held
      simp only [Bool.and_eq_true, Bool.not_eq_true', decide_eq_true_eq, List.any_eq_false,
        Bool.and_eq_false_iff, Bool.or_eq_false_iff, Bool.not_eq_true] at held
      obtain ⟨⟨⟨tight, place⟩, marks⟩, atEnd⟩ := held
      refine ⟨(Option.some.inj tracked).symm, .inl ⟨p, letter, tight, place, marks, ?_⟩⟩
      intro risky
      rcases atEnd with off | ⟨stop, blanks⟩
      · simp [risky] at off
      · exact ⟨stop, fun wanted => by simpa [wanted] using blanks⟩
    · cases tracked
  · rename_i letter
    obtain ⟨q₁, first, tracked⟩ := Option.bind_eq_some_iff.mp tracked
    split at tracked
    · rename_i held
      simp only [Bool.and_eq_true, decide_eq_true_eq] at held
      obtain ⟨rfl, place⟩ := held
      obtain rfl := Option.some.inj tracked
      exact ⟨rfl, .inr (by simp [Setting.trackTask, letter, first, place])⟩
    · cases tracked

theorem track_spaced {e : Expr} (tracked : σ.trackTask s (.spaced e) q = some q') :
    (s.tight = true ∨ q.place = .outside) ∧ σ.track s e q = some q' := by
  simp only [Setting.trackTask] at tracked
  split at tracked
  · rename_i held
    exact ⟨by simpa using held, tracked⟩
  · cases tracked

theorem track_more {skipping : Bool} {e : Expr}
    (tracked : σ.trackTask s (.more skipping e) q = some q') :
    q' = q ∧ e.letter? = none ∧ σ.trackTask s (Task.round skipping e) q = some q := by
  simp only [Setting.trackTask] at tracked
  split at tracked
  · rename_i held
    simp only [Bool.and_eq_true, decide_eq_true_eq, Option.isNone_iff_eq_none] at held
    refine ⟨(Option.some.inj tracked).symm, held.1.1, ?_⟩
    cases skipping with
    | true =>
        have place : (s.tight || decide (q.place = .outside)) = true := by simpa using held.2
        simp [Task.round, Setting.trackTask, held.1.2, place]
    | false => exact held.1.2
  · cases tracked

end Track

/-! ### What a match does to a scan -/

/-- A character that an expression misses is not in what the expression takes. -/
theorem not_mem_taken {e : Expr} {at_ : Nat} {cs : List Char} {m : Match} {x : Char}
    (missed : e.misses x = true) (h : leaf e at_ cs = some m) : x ∉ m.taken := by
  cases e with
  | literal text =>
      obtain ⟨rest, -, rfl⟩ := Option.map_eq_some_iff.mp h
      simpa [Expr.misses] using missed
  | caseless text =>
      obtain ⟨⟨taken, rest⟩, found, rfl⟩ := Option.map_eq_some_iff.mp h
      have letters := (afterCaseless?_eq_some found).2
      clear h found
      simp only [Expr.misses, List.all_eq_true, Bool.not_eq_true'] at missed
      induction letters with
      | nil => simp
      | cons same _ ih =>
          rw [List.mem_cons, not_or]
          refine ⟨?_, ih fun t mem => missed t (List.mem_cons_of_mem _ mem)⟩
          rintro rfl
          simp [missed _ List.mem_cons_self] at same
  | one c =>
      cases cs with
      | nil => cases h
      | cons d cs =>
          simp only [leaf] at h
          split at h
          · rename_i holds
            obtain rfl := Option.some.inj h
            rintro mem
            obtain rfl := List.mem_singleton.mp mem
            simp [Expr.misses, holds] at missed
          · cases h
  | _ => simp [Expr.misses] at missed

theorem through_leaf {s : Stance} {e : Expr} {q q' : Scan} {at_ : Nat} {cs : List Char} {m : Match}
    (tracked : σ.trackLeaf s e q = some q') (h : leaf e at_ cs = some m) :
    q.through m.taken = some q' := by
  unfold Setting.trackLeaf at tracked
  split at tracked
  · cases tracked
  split at tracked
  · rename_i plain
    simp only [Bool.and_eq_true, decide_eq_true_eq, List.all_eq_true] at plain
    obtain rfl := Option.some.inj tracked
    apply Scan.through_of_not_isMark plain.1
    intro c mem
    by_contra mark
    rw [Bool.not_eq_false] at mark
    exact not_mem_taken (plain.2 c (Setting.mem_marks.mpr mark)) h mem
  split at tracked
  · obtain ⟨rest, -, rfl⟩ := Option.map_eq_some_iff.mp h
    simpa [Scan.through_cons] using tracked
  · split at tracked
    · rename_i escaped
      cases cs with
      | nil => cases h
      | cons d cs =>
          simp only [leaf] at h
          split at h
          · obtain rfl := Option.some.inj h
            simpa [Scan.through_cons, Scan.step, escaped] using tracked
          · cases h
    · cases tracked
  · cases tracked

/-- A match of a closed expression ends with a character that is no blank. -/
theorem Reads.getLast?_taken {blanks : List Char} {e : Expr} {ctx : Context} {at_ : Nat}
    {cs : List Char} {m : Match} (h : Reads g (.expr e) ctx at_ cs (some m))
    (closed : e.closed blanks = true) :
    ∃ c, m.taken.getLast? = some c ∧ blanks.contains c = false := by
  induction e generalizing ctx at_ cs m with
  | literal text =>
      obtain ⟨rest, -, rfl⟩ := Option.map_eq_some_iff.mp ((reads_leaf rfl).mp h).symm
      cases last : text.getLast? with
      | none => simp [Expr.closed, last] at closed
      | some c => exact ⟨c, rfl, by simpa [Expr.closed, last] using closed⟩
  | seq a b _ ih =>
      obtain ⟨n, n', -, right, rfl⟩ := reads_seq_some.mp h
      obtain ⟨k, y, -, body, eq⟩ := reads_spaced.mp right
      obtain ⟨k', rfl, rfl⟩ := Option.map_eq_some_iff.mp eq.symm
      obtain ⟨c, last, out⟩ := ih body closed
      exact ⟨c, by simp [List.getLast?_append, last], out⟩
  | choice a b ihLeft ihRight =>
      simp only [Expr.closed, Bool.and_eq_true] at closed
      obtain ⟨n, left, eq⟩ | ⟨-, right⟩ := reads_choice.mp h
      · exact ihLeft (eq ▸ left) closed.1
      · exact ihRight right closed.2
  | _ => cases closed

/-- The mode inside a rule that a contract lets be called is the one that the contract is about. -/
theorem surroundings_mode {rule : Rule} {ctx : Context} {s : Stance} {c : Contract}
    (kind : rule.kind ≠ .nonAtomic) (plain : isSkipRule rule.name = false)
    (seals : c.sealed = true → rule.kind = .atomic ∨ rule.kind = .compound)
    (mode : ctx.mode = .spaced → s.tight = false)
    (tight : c.stance.tight = true → s.tight = true ∨ c.sealed = true) :
    (surroundings ctx rule).1.mode = .spaced → c.stance.tight = false := by
  intro spaced
  by_contra held
  rw [Bool.not_eq_false] at held
  have unsealed : rule.kind ≠ .atomic ∧ rule.kind ≠ .compound := by
    constructor <;> intro kind <;> simp [surroundings, kind] at spaced
  rcases tight held with outer | sealed
  · cases kinds : rule.kind with
    | normal | silent =>
        simp only [surroundings, kinds, plain, Bool.false_eq_true, if_false] at spaced
        simp [mode spaced] at outer
    | atomic => exact unsealed.1 kinds
    | compound => exact unsealed.2 kinds
    | nonAtomic => exact kind kinds
  · rcases seals sealed with atomic | compound
    · exact unsealed.1 atomic
    · exact unsealed.2 compound

/-- Expressions with a look-out in front match one character, where nothing is skipped. -/
theorem reads_guarded {ctx : Context} {at_ : Nat} {cs : List Char} {r : Option Match} {e : Expr}
    {p : Char → Bool} (guarded : e.guarded? = some p) (tight : ctx.mode ≠ .spaced) :
    Reads g (.expr e) ctx at_ cs r ↔ r = letterMatch p cs := by
  obtain ⟨a, b, rfl⟩ : ∃ a b, e = .seq (.notAhead a) b := by
    unfold Expr.guarded? at guarded
    split at guarded
    · exact ⟨_, _, rfl⟩
    · cases guarded
  simp only [Expr.guarded?, Option.bind_eq_bind, Option.bind_eq_some_iff] at guarded
  obtain ⟨p, first, q, second, both⟩ := guarded
  obtain rfl := Option.some.inj both
  have whole : Reads g (.expr (.seq (.notAhead a) b)) ctx at_ cs
      (letterMatch (fun c => !p c && q c) cs) := by
    have look : Reads g (.expr (.notAhead a)) ctx at_ cs
        (if (letterMatch p cs).isSome then none else some (.empty cs)) :=
      .notAhead ((reads_letter first).mpr rfl)
    cases found : letterMatch p cs with
    | some m =>
        obtain ⟨c, rest, rfl, in_, -⟩ := letterMatch_eq_some found
        simp only [letterMatch, in_, Bool.not_true, Bool.false_and, Bool.false_eq_true, if_false]
        simp only [found, Option.isSome_some, if_true] at look
        exact .seqFails look
    | none =>
        simp only [found, Option.isSome_none, Bool.false_eq_true, if_false] at look
        have same : letterMatch (fun c => !p c && q c) cs = letterMatch q cs := by
          cases cs with
          | nil => rfl
          | cons c cs =>
              have out : p c = false := by simpa [letterMatch] using found
              simp [letterMatch, out]
        have body : Reads g (Task.round true b) ctx (at_ + Text.byteSize (Match.empty cs).taken)
            (Match.empty cs).rest (letterMatch q cs) :=
          (reads_round_of_tight fun _ => tight).mpr ((reads_letter second).mpr rfl)
        rw [same]
        simpa using Reads.seq look body
  exact ⟨fun h => h.unique whole, fun h => h ▸ whole⟩

/-- Blanks leave a scan outside quotes where it is. -/
theorem through_skipMatch (right : σ.Right g) {ctx : Context} {q : Scan} {cs : List Char}
    (outside : ctx.mode = .spaced → q.place = .outside) :
    q.through (skipMatch σ.blanks.contains ctx cs).taken = some q := by
  unfold skipMatch
  split
  · rename_i spaced
    refine Scan.through_of_not_isMark (outside spaced) fun c mem => right.plain c ?_
    simpa using List.mem_takeWhile_imp mem
  · rfl

theorem unspaced_of_tight {ctx : Context} {s : Stance}
    (mode : ctx.mode = .spaced → s.tight = false) (tight : s.tight = true) :
    ctx.mode ≠ .spaced := by
  intro spaced
  simp [mode spaced] at tight

theorem trackLeaf_of_isLeaf {s : Stance} {e : Expr} {q q' : Scan} (plain : e.isLeaf = true)
    (tracked : σ.track s e q = some q') : σ.trackLeaf s e q = some q' := by
  cases e with
  | literal | caseless | one => exact tracked
  | start | upTo => cases tracked
  | _ => cases plain

theorem Reads.rest_through {ctx : Context} {task : Task} {at_ : Nat} {cs : List Char}
    {q q' p : Scan}
    {m : Match} {d : Nat} (h : Reads g task ctx at_ cs (some m))
    (scanned : (q.lift d).through cs = some p)
    (taken : q.through m.taken = some q') : (q'.lift d).through m.rest = some p := by
  rw [← h.taken_append_rest rfl, Scan.through_append, Scan.through_lift taken] at scanned
  exact scanned

/-- A run of characters without meaning to a scan leaves it where it is. -/
theorem through_spanMatch {p : Char → Bool} {q : Scan} (outside : q.place = .outside)
    (marks : ∀ x ∈ Setting.marks, p x = false) (cs : List Char) :
    q.through (spanMatch p cs).taken = some q := by
  apply Scan.through_of_not_isMark outside
  intro c mem
  by_contra mark
  rw [Bool.not_eq_false] at mark
  simpa [marks c (Setting.mem_marks.mpr mark)] using List.mem_takeWhile_imp mem

/-- A call is tracked under a contract that is right about the body of its rule. -/
theorem track_call_body (right : σ.Right g) {ctx : Context} {s : Stance} {q q' : Scan}
    {name : String} {rule : Rule} (tracked : σ.track s (.call name) q = some q')
    (found : g.find? name = some rule) (mode : ctx.mode = .spaced → s.tight = false) :
    q' = q ∧ ∃ c, σ.Keeps g c ∧ c.name = name ∧ c.place = q.place ∧
      c.stance.edge = (s.edge && q.depth = 0) ∧
      (c.stance.edge = true → s.exact = true → c.stance.exact = true) ∧
      σ.track c.stance rule.body ⟨c.place, 0⟩ = some ⟨c.place, 0⟩ ∧
      ((surroundings ctx rule).1.mode = .spaced → c.stance.tight = false) := by
  obtain ⟨same, c, mem, named, place, edge, tight, exact_⟩ := track_call tracked
  have keeps := right.contracts c mem
  obtain ⟨rule', found', kind, plain, seals, body⟩ := keeps.found
  rw [named, found] at found'
  obtain rfl := Option.some.inj found'
  exact ⟨same, c, keeps, named, place, edge, exact_, body,
    surroundings_mode kind plain seals mode tight⟩

/-- What leads a scan back to where it was at depth zero does so at any depth. -/
theorem Scan.through_of_flat {q : Scan} {cs : List Char} {place : Place} (same : place = q.place)
    (flat : (Scan.mk place 0).through cs = some ⟨place, 0⟩) : q.through cs = some q := by
  have lifted := Scan.through_lift (d := q.depth) flat
  simpa [Scan.lift, same] using lifted

/-- A character read inside of quotes is neither quote nor backslash, and changes nothing for a
scan. -/
theorem Reads.through_guarded {e : Expr} {ctx : Context} {at_ : Nat} {cs : List Char} {m : Match}
    {p : Char → Bool} {q : Scan} (h : Reads g (.expr e) ctx at_ cs (some m))
    (guarded : e.guarded? = some p) (unspaced : ctx.mode ≠ .spaced) (place : q.place = .quoted)
    (quote : p '"' = false) (slash : p '\\' = false) : q.through m.taken = some q := by
  have whole := (reads_guarded guarded unspaced).mp h
  obtain ⟨c, rest, -, in_, rfl⟩ := letterMatch_eq_some whole.symm
  have notQuote : c ≠ '"' := by
    rintro rfl
    simp [quote] at in_
  have notSlash : c ≠ '\\' := by
    rintro rfl
    simp [slash] at in_
  simp [Scan.through_cons, Scan.step, place, notQuote, notSlash]

/-- A run of letters changes nothing for a scan if none of them has a meaning to it. -/
theorem Reads.through_star_letter {e : Expr} {ctx : Context} {at_ : Nat} {cs : List Char}
    {m : Match} {p : Char → Bool} {q : Scan} (h : Reads g (.expr (.star e)) ctx at_ cs (some m))
    (letter : e.letter? = some p) (unspaced : ctx.mode ≠ .spaced) (outside : q.place = .outside)
    (marks : ∀ x ∈ Setting.marks, p x = false) : q.through m.taken = some q := by
  have whole := (reads_star_letter letter unspaced).mp h
  obtain rfl := Option.some.inj whole
  exact through_spanMatch outside marks _

/-- What is skipped changes nothing for a scan. -/
theorem Reads.through_skip (right : σ.Right g) {ctx : Context} {at_ : Nat} {cs : List Char}
    {m : Match} {s : Stance} {q : Scan} (h : Reads g .skip ctx at_ cs (some m))
    (mode : ctx.mode = .spaced → s.tight = false) (place : s.tight = true ∨ q.place = .outside) :
    q.through m.taken = some q := by
  obtain rfl := Option.some.inj ((reads_skip right.blanks).mp h)
  exact through_skipMatch right fun spaced => place.resolve_left (by simp [mode spaced])

/-- One match behind another leads a scan on from where the first has led it. -/
theorem Match.through_append {m n : Match} {q q₁ q' : Scan} (first : q.through m.taken = some q₁)
    (second : q₁.through n.taken = some q') : q.through (m.append n).taken = some q' := by
  rw [append_taken, Scan.through_append, first]
  exact second

/-- What an expression takes leads a scan to the state that the contracts tell. -/
theorem Reads.through_taken (right : σ.Right g) {task : Task} {ctx : Context} {at_ : Nat}
    {cs : List Char} {r : Option Match} (h : Reads g task ctx at_ cs r) {s : Stance} {q q' : Scan}
    {m : Match} (tracked : σ.trackTask s task q = some q')
    (mode : ctx.mode = .spaced → s.tight = false) (matched : r = some m) :
    q.through m.taken = some q' := by
  induction h generalizing s q q' m with
  | leaf plain => exact through_leaf (trackLeaf_of_isLeaf plain tracked) matched
  | finish | ahead | noSkip | skip => cases tracked
  | missing | seqFails => cases matched
  | call found _ ih =>
      obtain ⟨rfl, c, -, -, place, -, -, body, inner⟩ := track_call_body right tracked found mode
      obtain ⟨n, rfl, rfl⟩ := Option.map_eq_some_iff.mp matched
      rw [Rule.labelled_taken]
      exact Scan.through_of_flat place (ih body inner rfl)
  | notAhead _ _ =>
      obtain ⟨rfl, -⟩ := track_notAhead tracked
      split at matched
      · cases matched
      · obtain rfl := Option.some.inj matched
        rfl
  | seq left right' ihLeft ihRight =>
      rcases track_seq tracked with ⟨p, guarded, tight, place, quote, slash, rfl⟩ |
        ⟨q₁, first, second⟩
      · exact (matched ▸ Reads.seq left right').through_guarded guarded
          (unspaced_of_tight mode tight) place quote slash
      · obtain ⟨n, rfl, rfl⟩ := Option.map_eq_some_iff.mp matched
        exact Match.through_append (ihLeft first mode rfl) (ihRight second mode rfl)
  | choiceLeft _ ih => exact ih (track_choice tracked).1 mode matched
  | choiceRight _ _ _ ih => exact ih (track_choice tracked).2 mode matched
  | @opt _ _ _ _ r _ ih =>
      obtain ⟨rfl, body⟩ := track_opt tracked
      obtain rfl := Option.some.inj matched
      cases r with
      | none => rfl
      | some n => exact ih body mode rfl
  | starDone _ _ =>
      obtain ⟨rfl, -⟩ := track_star tracked
      obtain rfl := Option.some.inj matched
      rfl
  | star first later ihFirst ihLater =>
      obtain ⟨rfl, ⟨p, letter, tight, place, marks, -⟩ | again⟩ := track_star tracked
      · exact (matched ▸ Reads.star first later).through_star_letter letter
          (unspaced_of_tight mode tight) place marks
      · obtain ⟨n, rfl, rfl⟩ := Option.map_eq_some_iff.mp matched
        have body := (track_spaced (track_more again).2.2).2
        exact Match.through_append (ihFirst body mode rfl) (ihLater again mode rfl)
  | spaced skipped _ _ ih =>
      obtain ⟨place, body⟩ := track_spaced tracked
      obtain ⟨n, rfl, rfl⟩ := Option.map_eq_some_iff.mp matched
      exact Match.through_append (skipped.through_skip right mode place) (ih body mode rfl)
  | moreDone _ _ =>
      obtain ⟨rfl, -⟩ := track_more tracked
      obtain rfl := Option.some.inj matched
      rfl
  | more _ _ ihFirst ihLater =>
      obtain ⟨rfl, -, round⟩ := track_more tracked
      obtain ⟨n, rfl, rfl⟩ := Option.map_eq_some_iff.mp matched
      exact Match.through_append (ihFirst round mode rfl) (ihLater tracked mode rfl)

end Dialect.Grammar
