import Dialect.Proofs.Grammar.Reading

/-!
Single characters, runs of them, and blanks.

An expression for one character of a set reads the first character or fails (`reads_letter`). Where
nothing is skipped, its repetition reads exactly the characters up to the first outside the set
((`reads_star_letter`), and so does skipping in a grammar whose blanks are such a set
(`reads_skip`).
Some expressions fail at once, by the first character of the text (`Reads.none_of_avoids`).
-/

namespace Dialect.Grammar

/-- The characters that an expression for one character matches; none for other expressions. -/
def Expr.letter? : Expr → Option (Char → Bool)
  | .one c => some c.holds
  | .literal [t] => some fun c => t == c
  | .choice a b => do
    let p ← a.letter?
    let q ← b.letter?
    pure fun c => p c || q c
  | _ => none

/-- The match of the first character, if it is in the set. -/
def letterMatch (p : Char → Bool) : List Char → Option Match
  | [] => none
  | c :: cs => if p c then some ⟨[c], cs, []⟩ else none

/-- The match of all characters before the first that is outside the set. -/
def spanMatch (p : Char → Bool) (cs : List Char) : Match := ⟨cs.takeWhile p, cs.dropWhile p, []⟩

variable {g : Grammar} {ctx : Context} {at_ : Nat} {cs : List Char} {r : Option Match}

@[simp] theorem byteSize_nil : Text.byteSize [] = 0 := rfl

@[simp] theorem map_empty_append (cs : List Char) (r : Option Match) :
    r.map (Match.empty cs).append = r := by
  cases r <;> rfl

theorem letterMatch_or (p q : Char → Bool) (cs : List Char) :
    letterMatch (fun c => p c || q c) cs = (letterMatch p cs).or (letterMatch q cs) := by
  cases cs with
  | nil => rfl
  | cons c cs => cases hp : p c <;> simp [letterMatch, hp]

/-- One character of a set is read from its first character. -/
theorem reads_letter {e : Expr} {p : Char → Bool} (letter : e.letter? = some p) :
    Reads g (.expr e) ctx at_ cs r ↔ r = letterMatch p cs := by
  induction e generalizing p r with
  | one c =>
      obtain rfl := Option.some.inj letter
      rw [reads_leaf rfl]
      cases cs <;> rfl
  | literal text =>
      obtain _ | ⟨t, _ | _⟩ := text
      · simp [Expr.letter?] at letter
      · obtain rfl := Option.some.inj letter
        rw [reads_leaf rfl]
        cases cs with
        | nil => rfl
        | cons c cs => by_cases same : t = c <;> simp [leaf, after?, letterMatch, same]
      · simp [Expr.letter?] at letter
  | choice a b ihLeft ihRight =>
      simp only [Expr.letter?, Option.bind_eq_bind, Option.bind_eq_some_iff] at letter
      obtain ⟨p, left, q, right, both⟩ := letter
      obtain rfl := Option.some.inj both
      rw [reads_choice, letterMatch_or]
      simp only [ihLeft left, ihRight right]
      cases letterMatch p cs <;> simp
  | _ => simp [Expr.letter?] at letter

/-! ### Runs of characters -/

theorem spanMatch_cons_of_pos {p : Char → Bool} {c : Char} (in_ : p c = true) :
    spanMatch p (c :: cs) = Match.append ⟨[c], cs, []⟩ (spanMatch p cs) := by
  simp [spanMatch, Match.append, in_]

theorem letterMatch_eq_none {p : Char → Bool} (h : letterMatch p cs = none) :
    spanMatch p cs = .empty cs := by
  cases cs with
  | nil => rfl
  | cons c cs =>
      have out : p c = false := by
        simpa [letterMatch] using h
      simp [spanMatch, Match.empty, out]

theorem letterMatch_eq_some {p : Char → Bool} {m : Match} (h : letterMatch p cs = some m) :
    ∃ c rest, cs = c :: rest ∧ p c = true ∧ m = ⟨[c], rest, []⟩ := by
  cases cs with
  | nil => cases h
  | cons c cs =>
      simp only [letterMatch] at h
      split at h
      · rename_i in_
        exact ⟨c, cs, rfl, in_, (Option.some.inj h).symm⟩
      · cases h

theorem letterMatch_nodes {p : Char → Bool} {m : Match} (h : letterMatch p cs = some m) :
    m.nodes = [] := by
  obtain ⟨c, rest, -, -, rfl⟩ := letterMatch_eq_some h
  rfl

theorem spanMatch_append_of_all {p : Char → Bool} {cs : List Char} (all : ∀ c ∈ cs, p c = true)
    (y : List Char) : spanMatch p (cs ++ y) = ⟨cs ++ y.takeWhile p, y.dropWhile p, []⟩ := by
  simp [spanMatch, List.takeWhile_append_of_pos all, List.dropWhile_append_of_pos all]

/-- A round in which nothing is skipped reads the expression. -/
theorem reads_round_of_tight {skipping : Bool} {e : Expr}
    (tight : skipping = true → ctx.mode ≠ .spaced) :
    Reads g (Task.round skipping e) ctx at_ cs r ↔ Reads g (.expr e) ctx at_ cs r := by
  cases skipping with
  | false => rfl
  | true =>
      have skipped : Reads g .skip ctx at_ cs (some (.empty cs)) :=
        .noSkip fun both => tight rfl both.1
      rw [Task.round, reads_spaced]
      constructor
      · rintro ⟨m, x, skip, body, rfl⟩
        obtain rfl := Option.some.inj (skip.unique skipped)
        simpa using body
      · intro body
        exact ⟨_, r, skipped, by simpa using body, by simp⟩

theorem reads_more_letters {skipping : Bool} {e : Expr} {p : Char → Bool}
    (one : ∀ at_ cs, Reads g (.expr e) ctx at_ cs (letterMatch p cs))
    (tight : skipping = true → ctx.mode ≠ .spaced) :
    Reads g (.more skipping e) ctx at_ cs (some (spanMatch p cs)) := by
  induction cs generalizing at_ with
  | nil => exact .moreDone ((reads_round_of_tight tight).mpr (one _ _))
  | cons c cs ih =>
      have first : Reads g (Task.round skipping e) ctx at_ (c :: cs) (letterMatch p (c :: cs)) :=
        (reads_round_of_tight tight).mpr (one _ _)
      cases in_ : p c with
      | true =>
          rw [spanMatch_cons_of_pos in_]
          simp only [letterMatch, in_, if_true] at first
          exact .more first ih
      | false =>
          have none : letterMatch p (c :: cs) = none := by simp [letterMatch, in_]
          rw [letterMatch_eq_none none]
          rw [none] at first
          exact .moreDone first

/-- Where nothing is skipped, a repetition of one character of a set reads all of them. -/
theorem reads_star_letter {e : Expr} {p : Char → Bool} (letter : e.letter? = some p)
    (tight : ctx.mode ≠ .spaced) :
    Reads g (.expr (.star e)) ctx at_ cs r ↔ r = some (spanMatch p cs) := by
  have whole : Reads g (.expr (.star e)) ctx at_ cs (some (spanMatch p cs)) := by
    have one (at_ : Nat) (cs : List Char) : Reads g (.expr e) ctx at_ cs (letterMatch p cs) :=
      (reads_letter letter).mpr rfl
    have first := one at_ cs
    cases found : letterMatch p cs with
    | none =>
        rw [letterMatch_eq_none found]
        exact .starDone (found ▸ first)
    | some m =>
        rw [found] at first
        obtain ⟨c, rest, rfl, in_, rfl⟩ := letterMatch_eq_some found
        rw [spanMatch_cons_of_pos in_]
        exact .star first (reads_more_letters one fun _ => tight)
  exact ⟨fun h => h.unique whole, fun h => h ▸ whole⟩

/-! ### Blanks -/

theorem head?_dropWhile {p : Char → Bool} (cs : List Char) :
    ∀ c, (cs.dropWhile p).head? = some c → p c = false := by
  intro c head
  have := List.head?_dropWhile_not p cs
  simpa [head] using this

/-- What the grammar skips are the characters of a set, and it knows no comments. -/
def SkipsBlanks (g : Grammar) (blank : Char → Bool) : Prop :=
  ∃ e, g.find? "WHITESPACE" = some ⟨"WHITESPACE", .silent, e⟩ ∧ e.letter? = some blank

variable {blank : Char → Bool}

/-- What is skipped at a place. -/
def skipMatch (blank : Char → Bool) (ctx : Context) (cs : List Char) : Match :=
  if ctx.mode = .spaced then spanMatch blank cs else .empty cs

theorem reads_skip (blanks : SkipsBlanks g blank) :
    Reads g .skip ctx at_ cs r ↔ r = some (skipMatch blank ctx cs) := by
  have whole : Reads g .skip ctx at_ cs (some (skipMatch blank ctx cs)) := by
    obtain ⟨e, found, letter⟩ := blanks
    unfold skipMatch
    split
    · rename_i spaced
      have one (at_ : Nat) (cs : List Char) :
          Reads g (.expr (.call "WHITESPACE")) ctx at_ cs (letterMatch blank cs) := by
        refine (reads_call found).mpr ⟨letterMatch blank cs, (reads_letter letter).mpr rfl, ?_⟩
        cases letterMatch blank cs <;> rfl
      exact .skip spaced (defines_of_find? found) (reads_more_letters one (by simp))
    · rename_i unspaced
      exact .noSkip fun both => unspaced both.1
  exact ⟨fun h => h.unique whole, fun h => h ▸ whole⟩

/-- What comes after blanks is read behind them. -/
theorem reads_spaced_iff (blanks : SkipsBlanks g blank) {e : Expr} :
    Reads g (.spaced e) ctx at_ cs r ↔
      ∃ x, Reads g (.expr e) ctx (at_ + Text.byteSize (skipMatch blank ctx cs).taken)
          (skipMatch blank ctx cs).rest x ∧
        r = x.map (skipMatch blank ctx cs).append := by
  rw [reads_spaced]
  constructor
  · rintro ⟨m, x, skip, body, rfl⟩
    obtain rfl := Option.some.inj ((reads_skip blanks).mp skip)
    exact ⟨x, body, rfl⟩
  · rintro ⟨x, body, rfl⟩
    exact ⟨_, x, (reads_skip blanks).mpr rfl, body, rfl⟩

theorem reads_spaced_some (blanks : SkipsBlanks g blank) {e : Expr} {m : Match} :
    Reads g (.spaced e) ctx at_ cs (some m) ↔
      ∃ n, Reads g (.expr e) ctx (at_ + Text.byteSize (skipMatch blank ctx cs).taken)
          (skipMatch blank ctx cs).rest (some n) ∧
        m = (skipMatch blank ctx cs).append n := by
  rw [reads_spaced_iff blanks]
  constructor
  · rintro ⟨x, body, eq⟩
    obtain ⟨n, rfl, rfl⟩ := Option.map_eq_some_iff.mp eq.symm
    exact ⟨n, body, rfl⟩
  · rintro ⟨n, body, rfl⟩
    exact ⟨some n, body, rfl⟩

/-- Between tokens an expression is read behind the blanks. -/
theorem reads_behind_blanks (blanks : SkipsBlanks g blank) (spaced : ctx.mode = .spaced) {e : Expr}
    {bs rest : List Char} (all : ∀ c ∈ bs, blank c = true)
    (stop : ∀ c, rest.head? = some c → blank c = false) :
    Reads g (.spaced e) ctx at_ (bs ++ rest) r ↔
      ∃ x, Reads g (.expr e) ctx (at_ + Text.byteSize bs) rest x ∧
        r = x.map (Match.append ⟨bs, rest, []⟩) := by
  have skipped : skipMatch blank ctx (bs ++ rest) = ⟨bs, rest, []⟩ := by
    rw [skipMatch, if_pos spaced, spanMatch_append_of_all all]
    cases rest with
    | nil => simp
    | cons c rest => simp [stop c rfl]
  rw [reads_spaced_iff blanks, skipped]

/-- A repetition behind blanks is nothing but the blanks, or rounds that each begin with blanks. -/
theorem reads_spaced_star (blanks : SkipsBlanks g blank) {e : Expr} {m : Match} :
    Reads g (.spaced (.star e)) ctx at_ cs (some m) ↔
      (Reads g (.spaced e) ctx at_ cs none ∧ m = skipMatch blank ctx cs) ∨
      ∃ n k, Reads g (.spaced e) ctx at_ cs (some n) ∧
        Reads g (.more true e) ctx (at_ + Text.byteSize n.taken) n.rest (some k) ∧
        m = n.append k := by
  constructor
  · intro h
    obtain ⟨n, body, rfl⟩ := (reads_spaced_some blanks).mp h
    rcases reads_star.mp body with ⟨first, eq⟩ | ⟨k, y, first, later, eq⟩
    · obtain rfl := Option.some.inj eq
      exact .inl ⟨(reads_spaced_iff blanks).mpr ⟨none, first, rfl⟩, by simp [Match.append]⟩
    · obtain ⟨k', rfl, rfl⟩ := Option.map_eq_some_iff.mp eq.symm
      refine .inr ⟨(skipMatch blank ctx cs).append k, k', ?_, ?_, (Match.append_assoc _ _ _).symm⟩
      · exact (reads_spaced_iff blanks).mpr ⟨_, first, rfl⟩
      · simpa [Text.byteSize_append, Nat.add_assoc] using later
  · rintro (⟨first, rfl⟩ | ⟨n, k, first, later, rfl⟩)
    · obtain ⟨x, body, eq⟩ := (reads_spaced_iff blanks).mp first
      obtain rfl := Option.map_eq_none_iff.mp eq.symm
      exact (reads_spaced_iff blanks).mpr ⟨_, .starDone body, by simp [Match.append]⟩
    · obtain ⟨n, body, rfl⟩ := (reads_spaced_some blanks).mp first
      have again : Reads g (.more true e) ctx
          (at_ + Text.byteSize (skipMatch blank ctx cs).taken + Text.byteSize n.taken) n.rest
          (some k) := by
        simpa [Text.byteSize_append, Nat.add_assoc] using later
      refine (reads_spaced_iff blanks).mpr ⟨_, .star body again, ?_⟩
      rw [Option.map_some, Option.map_some, Match.append_assoc]

/-! ### Expressions that fail at once -/

/-- On a text with the given first character the expression fails, if the given rules do. -/
def Expr.avoids (c : Char) (rules : List String) : Expr → Bool
  | .literal (t :: _) => t != c
  | .caseless (t :: _) => !sameLetter t c
  | .one class_ => !class_.holds c
  | .call name => rules.contains name
  | .seq a _ => a.avoids c rules
  | .choice a b => a.avoids c rules && b.avoids c rules
  | _ => false

theorem leaf_eq_none {e : Expr} {c : Char} {rules : List String} (plain : e.isLeaf = true)
    (avoids : e.avoids c rules = true) (at_ : Nat) (cs : List Char) :
    leaf e at_ (c :: cs) = none := by
  cases e with
  | literal text =>
      cases text with
      | nil => cases avoids
      | cons t text =>
          have other : t ≠ c := by simpa [Expr.avoids] using avoids
          simp [leaf, after?, other]
  | caseless text =>
      cases text with
      | nil => cases avoids
      | cons t text =>
          have other : sameLetter t c = false := by simpa [Expr.avoids] using avoids
          simp [leaf, afterCaseless?, other]
  | one class_ =>
      have other : class_.holds c = false := by simpa [Expr.avoids] using avoids
      simp [leaf, other]
  | start | upTo => cases avoids
  | _ => cases plain

/-- Expressions fail at once if the rules that they begin with do: some of them are known to, and
the others again begin with these rules. -/
theorem Reads.none_of_avoids {c : Char} {known rules : List String} {text : List Char}
    (starts : text.head? = some c)
    (fails : ∀ name ∈ known, ∀ ctx at_ r, Reads g (.expr (.call name)) ctx at_ text r → r = none)
    (begins : ∀ name ∈ rules,
      (g.find? name).any (fun rule => rule.body.avoids c (known ++ rules)) = true)
    {task : Task} (h : Reads g task ctx at_ text r) {e : Expr} (asked : task = .expr e)
    (avoids : e.avoids c (known ++ rules) = true) : r = none := by
  induction h generalizing e with
  | @leaf e' ctx at_ cs plain =>
      obtain rfl : e' = e := by simpa using asked
      cases cs with
      | nil => cases starts
      | cons d cs =>
          obtain rfl := Option.some.inj starts
          exact leaf_eq_none plain avoids at_ cs
  | missing _ | seqFails _ _ => rfl
  | @call name rule ctx at_ cs r found body ih =>
      obtain rfl : Expr.call name = e := by simpa using asked
      have mem : name ∈ known ∨ name ∈ rules := by simpa [Expr.avoids] using avoids
      rcases mem with mem | mem
      · exact fails name mem ctx at_ _ (.call found body)
      · have first := begins name mem
        rw [found, Option.any_some] at first
        rw [ih starts fails rfl first]
        rfl
  | @seq a b ctx at_ cs m r left right ihLeft ihRight =>
      obtain rfl : Expr.seq a b = e := by simpa using asked
      cases ihLeft starts fails rfl avoids
  | @choiceLeft a b ctx at_ cs m left ih =>
      obtain rfl : Expr.choice a b = e := by simpa using asked
      simp only [Expr.avoids, Bool.and_eq_true] at avoids
      exact ih starts fails rfl avoids.1
  | @choiceRight a b ctx at_ cs r left right ihLeft ihRight =>
      obtain rfl : Expr.choice a b = e := by simpa using asked
      simp only [Expr.avoids, Bool.and_eq_true] at avoids
      exact ihRight starts fails rfl avoids.2
  | finish | ahead _ _ | notAhead _ _ | opt _ _ | starDone _ _ | star _ _ _ _ =>
      obtain rfl := Task.expr.inj asked
      cases avoids
  | spaced _ _ _ _ | moreDone _ _ | more _ _ _ _ | noSkip _ | skip _ _ _ _ => cases asked

end Dialect.Grammar
