import Dialect.Proofs.Grammar.Brackets
import Dialect.Proofs.Grammar.Nodes

/-!
What a grammar reads does not depend on what follows.

A text that closes every bracket around it is read in the same way whatever comes behind the last
of them: the expression never gets that far. A bracketed text is also read in the same way in front
of blanks and a character that ends it, except that the match may take some of the blanks
(`Reads.extends`). The nodes then differ in their offsets and in blanks at the end of loose rules.

What is shown of a task is `Extensible`, with a lemma for each way of reading: it is extensible if
its parts are. Tasks one behind the other are cases of `Extensible.andThen`.
-/

namespace Dialect.Grammar

open ParseNode

variable {g : Grammar} {σ : Setting}

/-- What holds of the place behind a bracketed text: inside `d` brackets, with blanks `u` and then
`tail` behind it. -/
structure Setting.Fitting (σ : Setting) (s : Stance) (d : Nat) (u tail : List Char) : Prop where
  exact_tight : s.exact = true → s.tight = true
  edge : s.edge = true → d = 0 ∧ tail.head? = some σ.stop
  inner : s.edge = false → 0 < d
  blanks : ∀ c ∈ u, σ.blanks.contains c = true

/-- A match, and the match of the same expression with blanks `more ++ left` and a tail behind the
text: the second has taken `more`, which it can only do at the end. -/
structure Match.Grown (σ : Setting) (s : Stance) (more left tail : List Char) (m m' : Match) :
    Prop where
  taken : m'.taken = m.taken ++ more
  rest : m'.rest = m.rest ++ (left ++ tail)
  atEnd : m.rest ≠ [] → more = []
  exact : s.exact = true → more = []
  bares : more = [] → bares m.nodes = bares m'.nodes
  settled : settledAll σ.blanks σ.loose m.nodes = settledAll σ.blanks σ.loose m'.nodes
  idle : m.taken = [] → m.rest = [] → m.nodes = []

/-- A match and the match of the same expression with blanks and a tail behind the text. -/
def Match.Extends (σ : Setting) (s : Stance) (u tail : List Char) (m m' : Match) : Prop :=
  ∃ more left, u = more ++ left ∧ Match.Grown σ s more left tail m m'

/-- A match with more text behind it. -/
def Match.longer (y : List Char) (m : Match) : Match := { m with rest := m.rest ++ y }

variable {s : Stance} {d : Nat} {u tail : List Char}

theorem Match.extends_longer {m : Match} (plain : m.nodes = []) :
    Match.Extends σ s u tail m (m.longer (u ++ tail)) :=
  ⟨[], u, rfl, by simp [longer], rfl, fun _ => rfl, fun _ => rfl, fun _ => rfl, rfl,
    fun _ _ => plain⟩

theorem rel_map_longer {r : Option Match} (plain : ∀ m, r = some m → m.nodes = []) :
    Option.Rel (Match.Extends σ s u tail) r (r.map (Match.longer (u ++ tail))) := by
  cases r with
  | none => exact .none
  | some m => exact .some (Match.extends_longer (plain m rfl))

/-- One match after another with more text behind. -/
theorem Match.Extends.append {m m' n n' : Match} {left : List Char}
    (first : m.Extends σ s u tail m') (rest : m'.rest = m.rest ++ (left ++ tail))
    (second : n.Extends σ s left tail n') (split : n.taken ++ n.rest = m.rest) :
    (m.append n).Extends σ s u tail (m'.append n') := by
  obtain ⟨more, left', rfl, grown⟩ := first
  obtain rfl : left' = left := by
    have := grown.rest
    rw [rest] at this
    simpa using this.symm
  obtain ⟨more', left, rfl, grown'⟩ := second
  have idle : m.rest = [] → n.nodes = [] := by
    intro none
    rw [none, List.append_eq_nil_iff] at split
    exact grown'.idle split.1 split.2
  have none' : n.nodes = [] → n'.nodes = [] := by
    intro none
    have same := congrArg List.length grown'.settled
    simpa [none] using same.symm
  refine ⟨more ++ more', left, by rw [List.append_assoc], ?_⟩
  constructor
  · -- if the first match took blanks, nothing was left for the second one in the shorter text
    rcases List.eq_nil_or_concat more with rfl | ⟨_, _, rfl⟩
    · simp [grown.taken, grown'.taken]
    · have atEnd : m.rest = [] := by
        by_contra some
        simpa using grown.atEnd some
      rw [atEnd, List.append_eq_nil_iff] at split
      simp [grown.taken, grown'.taken, split.1]
  · exact grown'.rest
  · intro some
    rw [grown'.atEnd some, List.append_nil]
    refine grown.atEnd fun none => some ?_
    rw [none, List.append_eq_nil_iff] at split
    exact split.2
  · intro wanted
    rw [grown.exact wanted, grown'.exact wanted, List.append_nil]
  · intro none
    rw [List.append_eq_nil_iff] at none
    rw [append_nodes, append_nodes, bares_append, bares_append, grown.bares none.1,
      grown'.bares none.2]
  · rw [append_nodes, append_nodes]
    by_cases last : n.nodes = []
    · rw [last, none' last, List.append_nil, List.append_nil]
      exact grown.settled
    · have last' : n'.nodes ≠ [] := by
        intro none
        have same := congrArg List.length grown'.settled
        exact last (by simpa [none] using same)
      have stays : more = [] := grown.atEnd fun none => last (idle none)
      rw [settledAll_append last, settledAll_append last', grown.bares stays, grown'.settled]
  · intro none none'
    rw [append_taken, List.append_eq_nil_iff] at none
    rw [append_rest] at none'
    have atEnd : m.rest = [] := by rw [← split, none.2, none', List.append_nil]
    rw [append_nodes, grown.idle none.1 atEnd, idle atEnd, List.append_nil]

/-! ### Characters at the end -/

theorem after?_append {text cs y : List Char}
    (away : (∃ x ∈ cs, x ∉ text) ∨ ∀ x, y.head? = some x → x ∉ text) :
    after? text (cs ++ y) = (after? text cs).map (· ++ y) := by
  induction text generalizing cs with
  | nil => rfl
  | cons t text ih =>
      cases cs with
      | nil =>
          have first : ∀ x, y.head? = some x → x ∉ t :: text := by simpa using away
          cases y with
          | nil => rfl
          | cons x y =>
              have other : t ≠ x := fun same => first x rfl (same ▸ List.mem_cons_self)
              simp [after?, other]
      | cons c cs =>
          by_cases same : t = c
          · subst same
            simp only [List.cons_append, after?, if_true]
            refine ih (away.imp ?_ ?_)
            · rintro ⟨x, mem, out⟩
              rcases List.mem_cons.mp mem with rfl | mem
              · exact absurd List.mem_cons_self out
              · exact ⟨x, mem, fun in_ => out (List.mem_cons_of_mem _ in_)⟩
            · exact fun first x head in_ => first x head (List.mem_cons_of_mem _ in_)
          · simp [after?, same]

theorem afterCaseless?_append {text cs y : List Char}
    (away : (∃ x ∈ cs, ∀ t ∈ text, sameLetter t x = false) ∨
      ∀ x, y.head? = some x → ∀ t ∈ text, sameLetter t x = false) :
    afterCaseless? text (cs ++ y) =
      (afterCaseless? text cs).map fun (taken, rest) => (taken, rest ++ y) := by
  induction text generalizing cs with
  | nil => rfl
  | cons t text ih =>
      cases cs with
      | nil =>
          have first : ∀ x, y.head? = some x → ∀ t' ∈ t :: text, sameLetter t' x = false := by
            simpa using away
          cases y with
          | nil => rfl
          | cons x y => simp [afterCaseless?, first x rfl t List.mem_cons_self]
      | cons c cs =>
          cases same : sameLetter t c with
          | false => simp [afterCaseless?, same]
          | true =>
              simp only [List.cons_append, afterCaseless?, same, if_true]
              rw [ih]
              · simp [Option.map_map, Function.comp_def]
              refine away.imp ?_ ?_
              · rintro ⟨x, mem, out⟩
                rcases List.mem_cons.mp mem with rfl | mem
                · simp [out t List.mem_cons_self] at same
                · exact ⟨x, mem, fun t' in_ => out t' (List.mem_cons_of_mem _ in_)⟩
              · exact fun first x head t' in_ => first x head t' (List.mem_cons_of_mem _ in_)

/-- An expression without parts matches as before when the text has a character that it misses, or
when it misses the one that follows. -/
theorem leaf_append {e : Expr} {at_ at' : Nat} {cs y : List Char}
    (away : (∃ x ∈ cs, e.misses x = true) ∨ ∀ x, y.head? = some x → e.misses x = true)
    (missing : ∃ x, e.misses x = true) :
    leaf e at' (cs ++ y) = (leaf e at_ cs).map (Match.longer y) := by
  cases e with
  | literal text =>
      have away : (∃ x ∈ cs, x ∉ text) ∨ ∀ x, y.head? = some x → x ∉ text := by
        simpa [Expr.misses] using away
      simp only [leaf, after?_append away, Option.map_map]
      rfl
  | caseless text =>
      have away : (∃ x ∈ cs, ∀ t ∈ text, sameLetter t x = false) ∨
          ∀ x, y.head? = some x → ∀ t ∈ text, sameLetter t x = false := by
        simpa [Expr.misses] using away
      simp only [leaf, afterCaseless?_append away, Option.map_map]
      rfl
  | one c =>
      cases cs with
      | cons d cs =>
          simp only [leaf, List.cons_append]
          split <;> rfl
      | nil =>
          cases y with
          | nil => rfl
          | cons x y =>
              have out : c.holds x = false := by simpa [Expr.misses] using away
              simp [leaf, out]
  | _ => simp [Expr.misses] at missing

theorem letterMatch_append {p : Char → Bool} {cs y : List Char}
    (away : cs ≠ [] ∨ ∀ x, y.head? = some x → p x = false) :
    letterMatch p (cs ++ y) = (letterMatch p cs).map (Match.longer y) := by
  cases cs with
  | cons c cs =>
      simp only [letterMatch, List.cons_append]
      split <;> rfl
  | nil =>
      cases y with
      | nil => rfl
      | cons x y =>
          have out : p x = false := by simpa using away
          simp [letterMatch, out]

theorem spanMatch_append_of_ne {p : Char → Bool} {cs : List Char} (stops : cs.dropWhile p ≠ [])
    (y : List Char) : spanMatch p (cs ++ y) = (spanMatch p cs).longer y := by
  have notAll : (cs.takeWhile p).length ≠ cs.length := by
    have whole := congrArg List.length (List.takeWhile_append_dropWhile (p := p) (l := cs))
    have some := List.length_pos_iff.mpr stops
    rw [List.length_append] at whole
    omega
  simp [spanMatch, Match.longer, List.takeWhile_append, List.dropWhile_append, notAll, stops]

/-- A run of characters stays the same in front of more text, unless it goes to the end; then it
goes on through blanks of its set. -/
theorem extends_spanMatch {p : Char → Bool} {cs : List Char}
    (atEnd : cs.dropWhile p = [] → tail.head? = some σ.stop ∧ p σ.stop = false ∧
      (s.exact = true → ∀ c ∈ u, p c = false)) :
    (spanMatch p cs).Extends σ s u tail (spanMatch p (cs ++ (u ++ tail))) := by
  by_cases done : cs.dropWhile p = []
  · obtain ⟨head, stop, away⟩ := atEnd done
    obtain ⟨w, rfl⟩ : ∃ w, tail = σ.stop :: w := by
      cases tail with
      | nil => cases head
      | cons x w => exact ⟨w, by rw [Option.some.inj head]⟩
    have all : ∀ c ∈ cs, p c = true := List.dropWhile_eq_nil_iff.mp done
    have whole : spanMatch p cs = ⟨cs, [], []⟩ := by
      simpa using spanMatch_append_of_all all []
    have through : spanMatch p (u ++ σ.stop :: w) =
        ⟨u.takeWhile p, u.dropWhile p ++ σ.stop :: w, []⟩ := by
      by_cases blanks : u.dropWhile p = []
      · have allBlanks := List.dropWhile_eq_nil_iff.mp blanks
        rw [spanMatch_append_of_all allBlanks]
        simp [stop, blanks, List.takeWhile_eq_self_iff.mpr allBlanks]
      · exact spanMatch_append_of_ne blanks _
    rw [spanMatch_append_of_all all, whole]
    simp only [spanMatch, Match.mk.injEq] at through
    refine ⟨u.takeWhile p, u.dropWhile p, List.takeWhile_append_dropWhile.symm, ?_, ?_, ?_, ?_,
      fun _ => rfl, rfl, fun _ _ => rfl⟩
    · rw [through.1]
    · simpa using through.2.1
    · exact fun some => absurd rfl some
    · intro wanted
      cases u with
      | nil => rfl
      | cons c u => simp [away wanted c List.mem_cons_self]
  · rw [spanMatch_append_of_ne done]
    exact Match.extends_longer rfl

/-! ### The place behind a bracketed text -/

namespace Setting.Fitting

variable {q q' : Scan} {cs left : List Char}

theorem of_blanks (fit : σ.Fitting s d u tail) (sub : ∀ c ∈ left, c ∈ u) :
    σ.Fitting s d left tail :=
  ⟨fit.exact_tight, fit.edge, fit.inner, fun c mem => fit.blanks c (sub c mem)⟩

/-- Only at a risky place can the text be at its end. -/
theorem ne_end (fit : σ.Fitting s d u tail) (safe : Setting.risky s q = false) : q.lift d ≠ {} := by
  intro atEnd
  simp only [Scan.lift, Scan.mk.injEq] at atEnd
  cases edge : s.edge with
  | false =>
      have := fit.inner edge
      omega
  | true =>
      have start : q = {} := by
        obtain ⟨place, depth⟩ := q
        simp only [Scan.mk.injEq]
        exact ⟨atEnd.1, by simp only at atEnd; omega⟩
      simp [Setting.risky, edge, start] at safe

theorem ne_nil (fit : σ.Fitting s d u tail) (scanned : (q.lift d).through cs = some {})
    (safe : Setting.risky s q = false) : cs ≠ [] := by
  rintro rfl
  exact fit.ne_end safe (Option.some.inj scanned)

/-- What follows a text at its end is a blank or the character that ends it. -/
theorem head_mem (fit : σ.Fitting s d u tail) (risky : Setting.risky s q = true) {x : Char}
    (head : (u ++ tail).head? = some x) : x ∈ σ.atEnd := by
  simp only [Setting.risky, Bool.and_eq_true] at risky
  cases u with
  | nil =>
      rw [List.nil_append, (fit.edge risky.1).2] at head
      obtain rfl := Option.some.inj head
      exact List.mem_cons_self
  | cons c u =>
      obtain rfl := Option.some.inj head
      exact List.mem_cons_of_mem _ (by simpa using fit.blanks c List.mem_cons_self)

/-- A text that a scan leaves where it is, outside quotes, stands at its end. -/
theorem risky_of_plain (fit : σ.Fitting s d u tail) (scanned : (q.lift d).through cs = some {})
    (outside : q.place = .outside) (plain : ∀ c ∈ cs, isMark c = false) :
    Setting.risky s q = true := by
  by_contra safe
  rw [Bool.not_eq_true] at safe
  have stays : (q.lift d).through cs = some (q.lift d) := Scan.through_of_not_isMark outside plain
  exact fit.ne_end safe (Option.some.inj (stays.symm.trans scanned))

theorem tail_head (fit : σ.Fitting s d u tail) (risky : Setting.risky s q = true) :
    tail.head? = some σ.stop := by
  simp only [Setting.risky, Bool.and_eq_true] at risky
  exact (fit.edge risky.1).2

end Setting.Fitting

/-- An expression without parts matches as before with more text behind. -/
theorem trackLeaf_append {e : Expr} {q q' : Scan} {at_ at' : Nat} {cs : List Char}
    (tracked : σ.trackLeaf s e q = some q') (fit : σ.Fitting s d u tail)
    (scanned : (q.lift d).through cs = some {}) :
    leaf e at' (cs ++ (u ++ tail)) = (leaf e at_ cs).map (Match.longer (u ++ tail)) := by
  unfold Setting.trackLeaf at tracked
  split at tracked
  · cases tracked
  rename_i safe
  cases risky : Setting.risky s q with
  | true =>
      -- at the end, the expression misses whatever may follow
      have missed : ∀ x ∈ σ.atEnd, e.misses x = true := by simpa [risky] using safe
      refine leaf_append (.inr fun x head => missed x (fit.head_mem risky head)) ?_
      exact ⟨σ.stop, missed _ List.mem_cons_self⟩
  | false =>
      obtain ⟨c, rest, rfl⟩ := List.exists_cons_of_ne_nil (fit.ne_nil scanned risky)
      split at tracked
      · -- further inside, there is still a bracket or quote to come
        rename_i plain
        simp only [Bool.and_eq_true, decide_eq_true_eq, List.all_eq_true] at plain
        obtain ⟨x, mem, mark⟩ : ∃ x ∈ c :: rest, isMark x = true := by
          by_contra none
          push Not at none
          have := fit.risky_of_plain scanned plain.1 fun x mem => by simpa using none x mem
          simp [this] at risky
        have missed := plain.2 x (Setting.mem_marks.mpr mark)
        exact leaf_append (.inl ⟨x, mem, missed⟩) ⟨x, missed⟩
      split at tracked
      · simp only [leaf, List.cons_append, after?]
        split <;> rfl
      · simp only [leaf, List.cons_append]
        split <;> rfl
      · cases tracked

/-! ### Rules -/

theorem rdropWhile_append_of_pos {p : Char → Bool} {xs ys : List Char}
    (all : ∀ c ∈ ys, p c = true) :
    (xs ++ ys).rdropWhile p = xs.rdropWhile p := by
  unfold List.rdropWhile
  rw [List.reverse_append, List.dropWhile_append_of_pos]
  intro c mem
  exact all c (List.mem_reverse.mp mem)

section Labelled

variable {rule : Rule} {ctx : Context} {at_ at' : Nat} {m m' : Match}

/-- A silent rule has the nodes of its body. -/
theorem labelled_nodes_of_silent (silent : rule.kind = .silent) :
    (rule.labelled ctx at_ m).nodes = m.nodes := by
  have hidden : (surroundings ctx rule).2 = none := by
    unfold surroundings
    rw [silent]
    dsimp only
    split <;> rfl
  unfold Rule.labelled
  rw [hidden]

theorem bares_labelled (taken : m'.taken = m.taken) (same : bares m.nodes = bares m'.nodes) :
    bares (rule.labelled ctx at_ m).nodes = bares (rule.labelled ctx at' m').nodes := by
  unfold Rule.labelled Match.wrapped
  split
  · exact same
  · split
    · simp [bare, same, taken]
    · exact same

/-- Blanks that a loose rule takes at its end do not show in its settled node. -/
theorem settledAll_labelled {more : List Char} (taken : m'.taken = m.taken ++ more)
    (blank : ∀ c ∈ more, σ.blanks.contains c = true)
    (loose : more ≠ [] → σ.loose.contains rule.name = true)
    (bares : more = [] → bares m.nodes = ParseNode.bares m'.nodes)
    (settled : settledAll σ.blanks σ.loose m.nodes = settledAll σ.blanks σ.loose m'.nodes) :
    settledAll σ.blanks σ.loose (rule.labelled ctx at_ m).nodes =
      settledAll σ.blanks σ.loose (rule.labelled ctx at' m').nodes := by
  unfold Rule.labelled Match.wrapped
  split
  · exact settled
  · split
    · simp only [settledAll_single, ParseNode.settled, settled]
      cases held : σ.loose.contains rule.name with
      | true =>
          rw [if_pos rfl, if_pos rfl, String.toList_ofList, String.toList_ofList, taken,
            rdropWhile_append_of_pos blank]
      | false =>
          have stays : more = [] := by
            by_contra some
            exact Bool.false_ne_true (held.symm.trans (loose some))
          rw [bares stays, taken, stays, List.append_nil]
    · exact settled

end Labelled

/-- The match of a rule extends as the match of its body does. -/
theorem Match.Extends.labelled {m m' : Match} {rule : Rule} {c : Contract} (ctx : Context)
    (at_ at' : Nat) (body : m.Extends σ c.stance u tail m') (blanks : ∀ c ∈ u, σ.blanks.contains c)
    (name : c.name = rule.name)
    (stays : c.stance.edge = true →
      c.stance.exact = true ∨ σ.loose.contains c.name = true ∨ m'.taken = m.taken)
    (inside : c.stance.edge = false → m.rest ≠ [])
    (exact_ : c.stance.edge = true → s.exact = true → c.stance.exact = true)
    (moves : m.taken = [] → m.rest = [] → rule.kind = .silent) :
    (rule.labelled ctx at_ m).Extends σ s u tail (rule.labelled ctx at' m') := by
  obtain ⟨more, left, rfl, grown⟩ := body
  have atEdge : more ≠ [] → c.stance.edge = true := by
    intro some
    by_contra off
    rw [Bool.not_eq_true] at off
    exact some (grown.atEnd (inside off))
  have onlyLoose : more ≠ [] → σ.loose.contains rule.name = true := by
    intro some
    rw [← name]
    rcases stays (atEdge some) with exactly | loose | same
    · exact absurd (grown.exact exactly) some
    · exact loose
    · exact absurd (List.append_cancel_left ((grown.taken.symm.trans same).trans
        (List.append_nil _).symm)) some
  refine ⟨more, left, rfl, ?_⟩
  constructor
  · simpa using grown.taken
  · simpa using grown.rest
  · simpa using grown.atEnd
  · intro wanted
    by_contra some
    exact some (grown.exact (exact_ (atEdge some) wanted))
  · intro none
    exact bares_labelled (by rw [grown.taken, none, List.append_nil]) (grown.bares none)
  · exact settledAll_labelled grown.taken (fun c mem => blanks c (List.mem_append_left _ mem))
      onlyLoose grown.bares grown.settled
  · intro none none'
    rw [Rule.labelled_taken] at none
    rw [Rule.labelled_rest] at none'
    rw [labelled_nodes_of_silent (moves none none')]
    exact grown.idle none none'

/-- A match that ends with a character that is no blank has taken no further blanks. -/
theorem Match.Extends.taken_of_closed {m m' : Match} (extended : m.Extends σ s u tail m')
    (blanks : ∀ c ∈ u, σ.blanks.contains c = true)
    (closed : ∃ c, m'.taken.getLast? = some c ∧ σ.blanks.contains c = false) :
    m'.taken = m.taken := by
  obtain ⟨more, left, rfl, grown⟩ := extended
  obtain ⟨c, last, out⟩ := closed
  rcases List.eq_nil_or_concat more with rfl | ⟨before, x, rfl⟩
  · rw [grown.taken, List.append_nil]
  · rw [grown.taken, List.concat_eq_append, ← List.append_assoc, List.getLast?_concat] at last
    obtain rfl := Option.some.inj last
    rw [blanks x (by simp)] at out
    cases out

/-! ### The main theorem -/

theorem not_risky {q : Scan} (inside : q.place ≠ .outside) : Setting.risky s q = false := by
  rw [Setting.risky, Bool.and_eq_false_iff, beq_eq_false_iff_ne]
  refine .inr fun start => inside ?_
  rw [start]

/-- Of two tasks one after the other the second goes on where the first has stopped. -/
theorem Match.Extends.andThen {m m' : Match} {task : Task} {ctx : Context} {at_ at' : Nat}
    {r : Option Match} (first : m.Extends σ s u tail m') (fit : σ.Fitting s d u tail)
    (read : Reads g task ctx at_ m.rest r)
    (second : ∀ {left}, σ.Fitting s d left tail →
      ∃ r', Reads g task ctx at' (m.rest ++ (left ++ tail)) r' ∧
        Option.Rel (Match.Extends σ s left tail) r r') :
    ∃ r', Reads g task ctx at' m'.rest r' ∧
      Option.Rel (Match.Extends σ s u tail) (r.map m.append) (r'.map m'.append) := by
  obtain ⟨more, left, split, -, rest, -⟩ := id first
  have sub : ∀ c ∈ left, c ∈ u := fun c mem => split ▸ List.mem_append_right _ mem
  obtain ⟨r', read', rel⟩ := second (fit.of_blanks sub)
  refine ⟨r', rest ▸ read', ?_⟩
  cases rel with
  | none => exact .none
  | some extended => exact .some (first.append rest extended (read.taken_append_rest rfl))

/-- A run of characters without meaning to a scan goes on at the end as far as the blanks allow. -/
theorem extends_run {p : Char → Bool} {q : Scan} {cs : List Char} (fit : σ.Fitting s d u tail)
    (scanned : (q.lift d).through cs = some {}) (outside : q.place = .outside)
    (marks : ∀ x ∈ Setting.marks, p x = false)
    (atEnd : Setting.risky s q = true → p σ.stop = false ∧
      (s.exact = true → ∀ x ∈ σ.blanks, p x = false)) :
    (spanMatch p cs).Extends σ s u tail (spanMatch p (cs ++ (u ++ tail))) := by
  apply extends_spanMatch
  intro done
  have all := List.dropWhile_eq_nil_iff.mp done
  have plain : ∀ c ∈ cs, isMark c = false := by
    intro c mem
    by_contra mark
    rw [Bool.not_eq_false] at mark
    simpa [marks c (Setting.mem_marks.mpr mark)] using all c mem
  have risky := fit.risky_of_plain scanned outside plain
  obtain ⟨stop, blanks⟩ := atEnd risky
  exact ⟨fit.tail_head risky, stop, fun wanted c mem =>
    blanks wanted c (by simpa using fit.blanks c mem)⟩

/-- What is skipped in front of more text is what is skipped without it, and at the end the blanks
behind. -/
theorem extends_skipMatch (right : σ.Right g) {ctx : Context} {q : Scan} {cs : List Char}
    (mode : ctx.mode = .spaced → s.tight = false) (outside : s.tight = true ∨ q.place = .outside)
    (fit : σ.Fitting s d u tail) (scanned : (q.lift d).through cs = some {}) :
    (skipMatch σ.blanks.contains ctx cs).Extends σ s u tail
      (skipMatch σ.blanks.contains ctx (cs ++ (u ++ tail))) := by
  unfold skipMatch
  split
  · rename_i spaced
    have loose := mode spaced
    apply extends_spanMatch
    intro done
    have all := List.dropWhile_eq_nil_iff.mp done
    have plain : ∀ c ∈ cs, isMark c = false := fun c mem =>
      right.plain c (by simpa using all c mem)
    have risky := fit.risky_of_plain scanned (outside.resolve_left (by simp [loose])) plain
    refine ⟨fit.tail_head risky, right.stop, ?_⟩
    intro wanted
    simp [fit.exact_tight wanted] at loose
  · exact Match.extends_longer rfl

/-- Inside of a rule the blanks and the tail fit behind the text as they do around it. -/
theorem Setting.Fitting.within {c : Contract} {depth : Nat} (fit : σ.Fitting s d u tail)
    (keeps : σ.Keeps g c) (edge : c.stance.edge = (s.edge && depth = 0)) :
    σ.Fitting c.stance (depth + d) u tail := by
  refine ⟨keeps.exact_tight, ?_, ?_, fit.blanks⟩
  · intro on
    rw [edge, Bool.and_eq_true, decide_eq_true_eq] at on
    have outer := fit.edge on.1
    exact ⟨by omega, outer.2⟩
  · intro off
    rw [edge, Bool.and_eq_false_iff, decide_eq_false_iff_not] at off
    rcases off with off | off
    · have := fit.inner off
      omega
    · omega

/-- The match of a rule that keeps its contract extends as the match of its body does. -/
theorem Setting.Keeps.extends_labelled (right : σ.Right g) {c : Contract} (keeps : σ.Keeps g c)
    {rule : Rule} (found : g.find? c.name = some rule) {ctx : Context} {at_ at' : Nat}
    {cs cs' : List Char} {m m' : Match}
    (body : Reads g (.expr rule.body) (surroundings ctx rule).1 at_ cs (some m))
    (inner : (surroundings ctx rule).1.mode = .spaced → c.stance.tight = false)
    (fit : σ.Fitting c.stance d u tail) (scanned : (Scan.lift ⟨c.place, 0⟩ d).through cs = some {})
    (read : Reads g (.expr rule.body) (surroundings ctx rule).1 at' cs' (some m'))
    (extended : m.Extends σ c.stance u tail m')
    (exact_ : c.stance.edge = true → s.exact = true → c.stance.exact = true) :
    (rule.labelled ctx at_ m).Extends σ s u tail (rule.labelled ctx at' m') := by
  obtain ⟨rule', found', -, -, -, tracked⟩ := keeps.found
  rw [found] at found'
  obtain rfl := Option.some.inj found'
  have rest := body.rest_through scanned (body.through_taken right tracked inner rfl)
  have inside : c.stance.edge = false → m.rest ≠ [] := by
    intro off atEnd
    have := fit.inner off
    simp [atEnd, Scan.lift] at rest
    omega
  refine extended.labelled ctx at_ at' fit.blanks (find?_name found).symm ?_ inside exact_ ?_
  · intro edge
    refine (keeps.stays edge).imp_right fun stays => stays.imp_right ?_
    rintro ⟨rule', found', closed⟩
    rw [found] at found'
    obtain rfl := Option.some.inj found'
    exact extended.taken_of_closed fit.blanks (read.getLast?_taken closed)
  · intro none none'
    have edge : c.stance.edge = true := by
      by_contra off
      exact inside (by simpa using off) none'
    have outside : c.place = .outside := by
      rw [none'] at rest
      simpa [Scan.lift] using congrArg Scan.place (Option.some.inj rest)
    rcases keeps.moves edge outside with ⟨rule', found', silent⟩ | moves
    · rw [found] at found'
      exact Option.some.inj found' ▸ silent
    · have whole : Reads g (.expr (.call c.name)) ctx at_ cs (some (rule.labelled ctx at_ m)) :=
        .call found body
      refine absurd ?_ (whole.taken_ne_nil right.fits moves rfl)
      rw [Rule.labelled_taken, none]

/-- A character that is ruled out in front of a text is ruled out with more text behind it. -/
theorem extends_notAhead {e : Expr} {ctx : Context} {at_ at' : Nat} {cs : List Char} {q q' : Scan}
    {r : Option Match} (body : Reads g (.expr e) { ctx with look := ctx.look.notAhead } at_ cs r)
    (tracked : σ.track s (.notAhead e) q = some q') (fit : σ.Fitting s d u tail)
    (scanned : (q.lift d).through cs = some {}) :
    ∃ r', Reads g (.expr (.notAhead e)) ctx at' (cs ++ (u ++ tail)) r' ∧
      Option.Rel (Match.Extends σ s u tail) (if r.isSome then none else some (.empty cs)) r' := by
  obtain ⟨rfl, p, letter, clear⟩ := track_notAhead tracked
  obtain rfl := (reads_letter letter).mp body
  have same : letterMatch p (cs ++ (u ++ tail)) =
      (letterMatch p cs).map (Match.longer (u ++ tail)) := by
    apply letterMatch_append
    cases risky : Setting.risky s q' with
    | true => exact .inr fun x head => clear risky x (fit.head_mem risky head)
    | false => exact .inl (fit.ne_nil scanned risky)
  refine ⟨_, .notAhead ((reads_letter letter).mpr same.symm), ?_⟩
  rw [Option.isSome_map]
  split
  · exact .none
  · exact .some (Match.extends_longer rfl)

/-- Inside of quotes a character follows, so what reads it does not see the end. -/
theorem extends_guarded {e : Expr} {ctx : Context} {at_ at' : Nat} {cs : List Char} {q : Scan}
    {r : Option Match} {p : Char → Bool} (h : Reads g (.expr e) ctx at_ cs r)
    (guarded : e.guarded? = some p) (unspaced : ctx.mode ≠ .spaced) (place : q.place = .quoted)
    (fit : σ.Fitting s d u tail) (scanned : (q.lift d).through cs = some {}) :
    ∃ r', Reads g (.expr e) ctx at' (cs ++ (u ++ tail)) r' ∧
      Option.Rel (Match.Extends σ s u tail) r r' := by
  have safe : Setting.risky s q = false := not_risky (by simp [place])
  refine ⟨_, (reads_guarded guarded unspaced).mpr rfl, ?_⟩
  rw [letterMatch_append (.inl (fit.ne_nil scanned safe)), (reads_guarded guarded unspaced).mp h]
  exact rel_map_longer fun m matched => letterMatch_nodes matched

/-- A run of letters goes on at the end as far as the blanks allow. -/
theorem extends_star_letter {e : Expr} {ctx : Context} {at_ at' : Nat} {cs : List Char} {q : Scan}
    {r : Option Match} {p : Char → Bool} (h : Reads g (.expr (.star e)) ctx at_ cs r)
    (letter : e.letter? = some p) (unspaced : ctx.mode ≠ .spaced) (outside : q.place = .outside)
    (marks : ∀ x ∈ Setting.marks, p x = false)
    (atEnd : Setting.risky s q = true → p σ.stop = false ∧
      (s.exact = true → ∀ x ∈ σ.blanks, p x = false))
    (fit : σ.Fitting s d u tail) (scanned : (q.lift d).through cs = some {}) :
    ∃ r', Reads g (.expr (.star e)) ctx at' (cs ++ (u ++ tail)) r' ∧
      Option.Rel (Match.Extends σ s u tail) r r' := by
  refine ⟨_, (reads_star_letter letter unspaced).mpr rfl, ?_⟩
  rw [(reads_star_letter letter unspaced).mp h]
  exact .some (extends_run fit scanned outside marks atEnd)

/-- Wherever the task is tracked and the text closes all brackets around it, the outcome is read
with blanks and the tail behind the text, too, up to blanks taken at the end. -/
def Extensible (σ : Setting) (g : Grammar) (tail : List Char) (task : Task) (ctx : Context)
    (cs : List Char) (r : Option Match) : Prop :=
  ∀ ⦃s q q' d u⦄, σ.trackTask s task q = some q' → (ctx.mode = .spaced → s.tight = false) →
    σ.Fitting s d u tail → (q.lift d).through cs = some {} → ∀ at',
    ∃ r', Reads g task ctx at' (cs ++ (u ++ tail)) r' ∧ Option.Rel (Match.Extends σ s u tail) r r'

namespace Extensible

variable {ctx : Context} {at_ : Nat} {cs : List Char} {m : Match} {r : Option Match} {e a b : Expr}
  {name : String} {rule : Rule} {skipping : Bool}

theorem leaf (plain : e.isLeaf = true) :
    Extensible σ g tail (.expr e) ctx cs (Grammar.leaf e at_ cs) := by
  intro s q q' d u tracked _ fit scanned at'
  refine ⟨_, .leaf plain, ?_⟩
  rw [trackLeaf_append (trackLeaf_of_isLeaf plain tracked) fit scanned]
  exact rel_map_longer fun m matched => leaf_nodes matched

theorem missing (right : σ.Right g) (absent : g.find? name = none) :
    Extensible σ g tail (.expr (.call name)) ctx cs none := by
  intro s q q' d u tracked _ _ _ at'
  obtain ⟨-, c, mem, named, -⟩ := track_call tracked
  obtain ⟨rule, found, -⟩ := (right.contracts c mem).found
  rw [named, absent] at found
  cases found

/-- Inside of a rule its contract takes the place of what is tracked. -/
theorem call (right : σ.Right g) (found : g.find? name = some rule)
    (read : Reads g (.expr rule.body) (surroundings ctx rule).1 at_ cs r)
    (body : Extensible σ g tail (.expr rule.body) (surroundings ctx rule).1 cs r) :
    Extensible σ g tail (.expr (.call name)) ctx cs (r.map (rule.labelled ctx at_)) := by
  intro s q q' d u tracked mode fit scanned at'
  obtain ⟨rfl, c, keeps, rfl, place, edge, exact_, bodyTracked, inner⟩ :=
    track_call_body right tracked found mode
  have fit' := fit.within keeps edge
  have lifted : Scan.lift ⟨c.place, 0⟩ (q'.depth + d) = q'.lift d := by
    simp [Scan.lift, place]
  rw [← lifted] at scanned
  obtain ⟨r', read', rel⟩ := body bodyTracked inner fit' scanned at'
  refine ⟨_, .call found read', ?_⟩
  cases rel with
  | none => exact .none
  | some extended =>
      exact .some (keeps.extends_labelled right found read inner fit' scanned read' extended exact_)

theorem notAhead (body : Reads g (.expr e) { ctx with look := ctx.look.notAhead } at_ cs r) :
    Extensible σ g tail (.expr (.notAhead e)) ctx cs
      (if r.isSome then none else some (.empty cs)) := by
  intro s q q' d u tracked _ fit scanned at'
  exact extends_notAhead body tracked fit scanned

/-- Of two tasks the second goes on behind the first in the longer text as in the shorter one. -/
theorem andThen (right : σ.Right g) {first later : Task}
    (read : Reads g first ctx at_ cs (some m))
    (read' : Reads g later ctx (at_ + Text.byteSize m.taken) m.rest r)
    (front : Extensible σ g tail first ctx cs (some m))
    (behind : Extensible σ g tail later ctx m.rest r) {q q₁ q' : Scan}
    (tracked : σ.trackTask s first q = some q₁) (tracked' : σ.trackTask s later q₁ = some q')
    (mode : ctx.mode = .spaced → s.tight = false) (fit : σ.Fitting s d u tail)
    (scanned : (q.lift d).through cs = some {}) (at' : Nat) :
    ∃ m' r', Reads g first ctx at' (cs ++ (u ++ tail)) (some m') ∧
      Reads g later ctx (at' + Text.byteSize m'.taken) m'.rest r' ∧
      Option.Rel (Match.Extends σ s u tail) (r.map m.append) (r'.map m'.append) := by
  obtain ⟨x, longer, rel⟩ := front tracked mode fit scanned at'
  have rest := read.rest_through scanned (read.through_taken right tracked mode rfl)
  cases rel with
  | some extended =>
      obtain ⟨r', longer', rel'⟩ := extended.andThen fit read' fun fit' =>
        behind tracked' mode fit' rest _
      exact ⟨_, r', longer, longer', rel'⟩

theorem seqFails (read : Reads g (.expr a) ctx at_ cs none)
    (front : Extensible σ g tail (.expr a) ctx cs none) :
    Extensible σ g tail (.expr (.seq a b)) ctx cs none := by
  intro s q q' d u tracked mode fit scanned at'
  rcases track_seq tracked with ⟨p, guarded, tight, place, -⟩ | ⟨q₁, first, -⟩
  · exact extends_guarded (.seqFails read) guarded (unspaced_of_tight mode tight) place fit scanned
  · obtain ⟨r', longer, rel⟩ := front first mode fit scanned at'
    cases rel
    exact ⟨_, .seqFails longer, .none⟩

theorem seq (right : σ.Right g) (read : Reads g (.expr a) ctx at_ cs (some m))
    (read' : Reads g (.spaced b) ctx (at_ + Text.byteSize m.taken) m.rest r)
    (front : Extensible σ g tail (.expr a) ctx cs (some m))
    (behind : Extensible σ g tail (.spaced b) ctx m.rest r) :
    Extensible σ g tail (.expr (.seq a b)) ctx cs (r.map m.append) := by
  intro s q q' d u tracked mode fit scanned at'
  rcases track_seq tracked with ⟨p, guarded, tight, place, -⟩ | ⟨q₁, first, second⟩
  · exact extends_guarded (.seq read read') guarded (unspaced_of_tight mode tight) place fit scanned
  · obtain ⟨m', r', longer, longer', rel⟩ :=
      front.andThen right read read' behind first second mode fit scanned at'
    exact ⟨_, .seq longer longer', rel⟩

theorem choiceLeft (left : Extensible σ g tail (.expr a) ctx cs (some m)) :
    Extensible σ g tail (.expr (.choice a b)) ctx cs (some m) := by
  intro s q q' d u tracked mode fit scanned at'
  obtain ⟨r', longer, rel⟩ := left (track_choice tracked).1 mode fit scanned at'
  cases rel with
  | some extended => exact ⟨_, .choiceLeft longer, .some extended⟩

theorem choiceRight (left : Extensible σ g tail (.expr a) ctx cs none)
    (right : Extensible σ g tail (.expr b) ctx cs r) :
    Extensible σ g tail (.expr (.choice a b)) ctx cs r := by
  intro s q q' d u tracked mode fit scanned at'
  obtain ⟨first, second⟩ := track_choice tracked
  obtain ⟨r', longer, rel⟩ := left first mode fit scanned at'
  cases rel
  obtain ⟨r'', longer', rel'⟩ := right second mode fit scanned at'
  exact ⟨r'', .choiceRight longer longer', rel'⟩

theorem opt (body : Extensible σ g tail (.expr e) ctx cs r) :
    Extensible σ g tail (.expr (.opt e)) ctx cs (some (r.getD (.empty cs))) := by
  intro s q q' d u tracked mode fit scanned at'
  obtain ⟨rfl, tracked⟩ := track_opt tracked
  obtain ⟨r', longer, rel⟩ := body tracked mode fit scanned at'
  refine ⟨_, .opt longer, .some ?_⟩
  cases rel with
  | none => exact Match.extends_longer rfl
  | some extended => exact extended

theorem starDone (read : Reads g (.expr e) ctx at_ cs none)
    (front : Extensible σ g tail (.expr e) ctx cs none) :
    Extensible σ g tail (.expr (.star e)) ctx cs (some (.empty cs)) := by
  intro s q q' d u tracked mode fit scanned at'
  obtain ⟨rfl, ⟨p, letter, tight, place, marks, atEnd⟩ | again⟩ := track_star tracked
  · exact extends_star_letter (.starDone read) letter (unspaced_of_tight mode tight) place marks
      atEnd fit scanned
  · obtain ⟨r', longer, rel⟩ := front (track_spaced (track_more again).2.2).2 mode fit scanned at'
    cases rel
    exact ⟨_, .starDone longer, .some (Match.extends_longer rfl)⟩

theorem star (right : σ.Right g) (read : Reads g (.expr e) ctx at_ cs (some m))
    (read' : Reads g (.more true e) ctx (at_ + Text.byteSize m.taken) m.rest r)
    (front : Extensible σ g tail (.expr e) ctx cs (some m))
    (behind : Extensible σ g tail (.more true e) ctx m.rest r) :
    Extensible σ g tail (.expr (.star e)) ctx cs (r.map m.append) := by
  intro s q q' d u tracked mode fit scanned at'
  obtain ⟨rfl, ⟨p, letter, tight, place, marks, atEnd⟩ | again⟩ := track_star tracked
  · exact extends_star_letter (.star read read') letter (unspaced_of_tight mode tight) place marks
      atEnd fit scanned
  · have first := (track_spaced (track_more again).2.2).2
    obtain ⟨m', r', longer, longer', rel⟩ :=
      front.andThen right read read' behind first again mode fit scanned at'
    exact ⟨_, .star longer longer', rel⟩

/-- What is skipped is not tracked by itself: it grows by blanks at the end only. -/
theorem spaced (right : σ.Right g) (skipped : Reads g .skip ctx at_ cs (some m))
    (read : Reads g (.expr e) ctx (at_ + Text.byteSize m.taken) m.rest r)
    (behind : Extensible σ g tail (.expr e) ctx m.rest r) :
    Extensible σ g tail (.spaced e) ctx cs (r.map m.append) := by
  intro s q q' d u tracked mode fit scanned at'
  obtain ⟨place, tracked⟩ := track_spaced tracked
  have rest := skipped.rest_through scanned (skipped.through_skip right mode place)
  obtain rfl := Option.some.inj ((reads_skip right.blanks).mp skipped)
  have extended := extends_skipMatch right mode place fit scanned
  obtain ⟨r', longer, rel⟩ := extended.andThen fit read fun fit' =>
    behind tracked mode fit' rest _
  exact ⟨_, .spaced ((reads_skip right.blanks).mpr rfl) longer, rel⟩

theorem moreDone (front : Extensible σ g tail (.round skipping e) ctx cs none) :
    Extensible σ g tail (.more skipping e) ctx cs (some (.empty cs)) := by
  intro s q q' d u tracked mode fit scanned at'
  obtain ⟨rfl, -, round⟩ := track_more tracked
  obtain ⟨r', longer, rel⟩ := front round mode fit scanned at'
  cases rel
  exact ⟨_, .moreDone longer, .some (Match.extends_longer rfl)⟩

theorem more (right : σ.Right g) (read : Reads g (.round skipping e) ctx at_ cs (some m))
    (read' : Reads g (.more skipping e) ctx (at_ + Text.byteSize m.taken) m.rest r)
    (front : Extensible σ g tail (.round skipping e) ctx cs (some m))
    (behind : Extensible σ g tail (.more skipping e) ctx m.rest r) :
    Extensible σ g tail (.more skipping e) ctx cs (r.map m.append) := by
  intro s q q' d u tracked mode fit scanned at'
  obtain ⟨rfl, -, round⟩ := track_more tracked
  obtain ⟨m', r', longer, longer', rel⟩ :=
    front.andThen right read read' behind round tracked mode fit scanned at'
  exact ⟨_, .more longer longer', rel⟩

end Extensible

/-- What a grammar reads from a bracketed text it also reads with blanks and a tail behind the text,
up to blanks taken at the end. -/
theorem Reads.extends (right : σ.Right g) {task : Task} {ctx : Context} {at_ : Nat}
    {cs : List Char} {r : Option Match} (h : Reads g task ctx at_ cs r) :
    Extensible σ g tail task ctx cs r := by
  induction h with
  | leaf plain => exact .leaf plain
  | finish | ahead | noSkip | skip =>
      intro s q q' d u tracked
      cases tracked
  | missing absent => exact .missing right absent
  | call found body ih => exact .call right found body ih
  | notAhead body _ => exact .notAhead body
  | seqFails left ih => exact .seqFails left ih
  | seq left later ihLeft ihLater => exact .seq right left later ihLeft ihLater
  | choiceLeft _ ih => exact .choiceLeft ih
  | choiceRight _ _ ihLeft ihRight => exact .choiceRight ihLeft ihRight
  | opt _ ih => exact .opt ih
  | starDone first ih => exact .starDone first ih
  | star first later ihFirst ihLater => exact .star right first later ihFirst ihLater
  | spaced skipped body _ ih => exact .spaced right skipped body ih
  | moreDone _ ih => exact .moreDone ih
  | more first later ihFirst ihLater => exact .more right first later ihFirst ihLater

/-- What matches still does with blanks and a tail behind the text. -/
theorem Reads.extends_some (right : σ.Right g) {task : Task} {ctx : Context} {at_ : Nat}
    {cs : List Char} {m : Match} (h : Reads g task ctx at_ cs (some m)) {q q' : Scan}
    (tracked : σ.trackTask s task q = some q') (mode : ctx.mode = .spaced → s.tight = false)
    (fit : σ.Fitting s d u tail) (scanned : (q.lift d).through cs = some {}) (at' : Nat) :
    ∃ m', Reads g task ctx at' (cs ++ (u ++ tail)) (some m') ∧ m.Extends σ s u tail m' := by
  obtain ⟨r', read, rel⟩ := h.extends right tracked mode fit scanned at'
  cases rel with
  | some extended => exact ⟨_, read, extended⟩

end Dialect.Grammar
