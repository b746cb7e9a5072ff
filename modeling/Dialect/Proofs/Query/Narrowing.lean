import Dialect.Proofs.Grammar.Unquoted
import Dialect.Proofs.Query.Spelling
import Dialect.Proofs.Query.Trees

/-!
Fewer capabilities make fewer queries.

Main statement: `narrowed_agrees` (what an engine without flags or without features accepts is
accepted by the engine with both, and means the same).

With both, an operand may be a comparison or a flag where it could not be before. Without features,
a text that is accepted has no comparator outside quotes, so no comparison can begin anywhere in it
(`comparison_fails_of_calm`). Without flags, a flag could only stand where reading the query has
ended, and what follows there is no set operator. Operands are gone through by the length of what
is left (`operand_whole`).
-/

namespace Dialect.Query

open Grammar Text.Quoted

variable {v : Variant} {cs : List Char} {at_ : Nat} {m : Match} {r : Option Match}

/-- The variant with flags and features. -/
def Variant.whole (v : Variant) : Variant := { v with flags := true, features := true }

/-! ### What is in both grammars -/

/-- The rules of comparisons are the same in all variants over one dataset. -/
theorem comparison_rules_same {w : Variant} (named : w.named = v.named) :
    ∀ name ∈ "WHITESPACE" :: comparisonRules v.named,
      (queries w).find? name = (queries v).find? name := by
  intro name mem
  rcases List.mem_cons.mp mem with rfl | mem
  · rfl
  · have shared : comparisonRules v.named ⊆ sharedRules := by
      cases v.named <;> decide
    have speaks := (speaks_queries w).rules name (shared mem)
    rw [named] at speaks
    exact speaks.trans ((speaks_queries v).rules name (shared mem)).symm

theorem comparison_whole {ctx : Context}
    (h : Reads (queries v) (.expr (.call "comparison")) ctx at_ cs r) :
    Reads (queries v.whole) (.expr (.call "comparison")) ctx at_ cs r := by
  have closed := closed_behind_blanks (closed_rules v).2.1
  have calls : (Grammar.Task.expr (.call "comparison")).calls ⊆
      "WHITESPACE" :: comparisonRules v.named := by
    simp [Grammar.Task.calls, Grammar.Expr.calls, comparisonRules]
  have same := comparison_rules_same (w := v.whole) (v := v) rfl
  exact h.shared _ closed List.mem_cons_self same calls

theorem literal_whole {text : List Char}
    (h : Reads (queries v) (.spaced (.literal text)) {} at_ cs r) :
    Reads (queries v.whole) (.spaced (.literal text)) {} at_ cs r := by
  obtain ⟨x, read, rfl⟩ := (reads_spaced_iff (skips_blanks v)).mp h
  exact (reads_spaced_iff (skips_blanks v.whole)).mpr
    ⟨x, (reads_leaf rfl).mpr ((reads_leaf rfl).mp read), rfl⟩

theorem flag_whole {ctx : Context} (h : Reads (queries v) (.expr (.call "flag")) ctx at_ cs r) :
    Reads (queries v.whole) (.expr (.call "flag")) ctx at_ cs r := by
  have same : ∀ name ∈ "WHITESPACE" :: flagRules,
      (queries v.whole).find? name = (queries v).find? name := by
    intro name mem
    simp only [flagRules, List.mem_cons, List.not_mem_nil, or_false] at mem
    rcases mem with rfl | rfl | rfl | rfl | rfl | rfl | rfl <;> rfl
  exact h.shared _ (closed_behind_blanks (closed_rules v).1) List.mem_cons_self same (by decide)

/-- Neither a bracket nor a sign begins a flag. -/
theorem flag_fails {c : Char} (first : cs.head? = some c) (mark : c = '(' ∨ c = '-')
    (h : Reads (queries v) (.expr (.call "flag")) {} at_ cs r) : r = none := by
  have begins : ∀ c ∈ ['(', '-'], ∀ name ∈ flagRules.take 5,
      ((queries v).find? name).any (fun rule =>
        rule.body.avoids c ([] ++ flagRules.take 5)) = true := by
    obtain ⟨named, flags, features⟩ := v
    cases named <;> cases flags <;> cases features <;> decide +kernel
  have mem : c ∈ ['(', '-'] := by simpa using mark
  exact h.none_of_avoids first (by simp) (begins c mem) rfl rfl

/-! ### Where no comparison begins -/

/-- The characters that comparators begin with. -/
def comparatorMarks : List Char := ['<', '>', '=']

/-- A text without comparators outside quotes does not begin with a comparison. -/
theorem comparison_fails_of_calm (calm : Calm comparatorMarks cs) :
    Reads (queries v) (.expr (.call "comparison")) {} at_ cs none := by
  obtain ⟨r, read⟩ := exists_comparison v at_ cs
  obtain ⟨x, body, rfl⟩ := (reads_call_normal (find?_comparison v) (by decide)).mp read
  cases x with
  | none => exact read
  | some m =>
      obtain ⟨sum, k, left, right, -⟩ := reads_seq_some.mp body
      obtain ⟨n, right, -⟩ := (reads_spaced_some (skips_blanks v)).mp right
      obtain ⟨sign, _, comparator, -⟩ := reads_seq_some.mp right
      -- the sum ends outside quotes, and behind blanks there is no comparator
      have outside := Scan.place_of_through (balanced (by simp [balancedTasks]) left)
      rw [← left.taken_append_rest rfl] at calm
      have behind := calm.rest outside.symm
      have blank : ∀ c ∈ sum.rest.takeWhile isBlank, isBlank c = true :=
        fun c mem => List.mem_takeWhile_imp mem
      rw [← List.takeWhile_append_dropWhile (p := isBlank) (l := sum.rest)] at behind
      have rest := behind.rest (Scan.place_of_through (through_blanks blank)).symm
      have clear {c : Char} (mark : c ∈ comparatorMarks) :
          Clear (c == ·) (sum.rest.dropWhile isBlank) := by
        intro d head
        rw [beq_eq_false_iff_ne]
        rintro rfl
        exact rest.head head mark
      cases comparator.unique ((speaks_queries v).comparator_fails clear _)

/-- Comparisons are read in both grammars, or the text has no comparator outside quotes. -/
def Still (v : Variant) (cs : List Char) : Prop := v.features = true ∨ Calm comparatorMarks cs

theorem Still.rest {x y : List Char} (still : Still v (x ++ y))
    (balanced : ({} : Scan).through x = some {}) : Still v y :=
  still.imp id fun calm => calm.rest (Scan.place_of_through balanced).symm

/-- What is left behind a balanced part stays so. -/
theorem Still.behind {task : Grammar.Task} (still : Still v cs) (mem : task ∈ balancedTasks)
    (h : Reads (queries v) task {} at_ cs (some m)) : Still v m.rest := by
  rw [← h.taken_append_rest rfl] at still
  exact still.rest (balanced mem h)

/-- Nor does a sign or a bracket in front matter. -/
theorem Still.tail {c : Char} (still : Still v (c :: cs)) (other : c ≠ '"') : Still v cs :=
  Or.imp id (fun calm => Calm.rest (calm : Calm _ ([c] ++ cs)) (if_neg other)) still

theorem Still.dropWhile (still : Still v cs) : Still v (cs.dropWhile isBlank) := by
  have blank : ∀ c ∈ cs.takeWhile isBlank, isBlank c = true :=
    fun c mem => List.mem_takeWhile_imp mem
  rw [← List.takeWhile_append_dropWhile (p := isBlank) (l := cs)] at still
  exact still.rest (through_blanks blank)

/-! ### From fewer capabilities to both -/

/-- Operands of texts shorter than a bound are read in the same way with both capabilities. -/
def Widens (v : Variant) (bound : Nat) : Prop :=
  ∀ ⦃cs at_ m⦄, cs.length < bound → Still v cs →
    Reads (queries v) (.expr (.call "operand")) {} at_ cs (some m) →
    Reads (queries v.whole) (.expr (.call "operand")) {} at_ cs (some m)

theorem step_whole {bound : Nat} (operands : Widens v bound) (short : cs.length < bound)
    (still : Still v cs) (h : Reads (queries v) (.spaced step) {} at_ cs (some m)) :
    Reads (queries v.whole) (.spaced step) {} at_ cs (some m) := by
  obtain ⟨bs, c, rest, n, rfl, blank, operator, operand, rfl⟩ := step_parts h
  refine reads_step blank operator (r := some n) ?_
  obtain ⟨k, body, rfl⟩ := (reads_spaced_some (skips_blanks v)).mp operand
  refine (reads_spaced_some (skips_blanks v.whole)).mpr ⟨k, operands ?_ ?_ body, rfl⟩
  · have dropped := (List.dropWhile_suffix isBlank (l := rest)).length_le
    simp only [List.length_append, List.length_cons] at short
    change (rest.dropWhile isBlank).length < bound
    omega
  · have unmarked : isMark c = false := by
      rcases operator_cases operator with rfl | rfl <;> rfl
    have before : ({} : Scan).through (bs ++ [c]) = some {} := by
      rw [Scan.through_append, through_blanks blank, Option.bind_some]
      exact Scan.through_of_not_isMark rfl (by simpa using unmarked)
    rw [← List.singleton_append, ← List.append_assoc] at still
    exact (still.rest before).dropWhile

/-- Where no operator follows, there is no step in either grammar. -/
theorem step_fails (follow : Clear isOperator (cs.dropWhile isBlank)) :
    Reads (queries v) (.spaced step) {} at_ cs none := by
  refine (reads_spaced_iff (skips_blanks v)).mpr ⟨none, .seqFails (reads_set_op.mpr ?_), rfl⟩
  change none = (letterMatch isOperator (cs.dropWhile isBlank)).map _
  cases ahead : cs.dropWhile isBlank with
  | nil => rfl
  | cons c rest =>
      rw [ahead, Clear.cons] at follow
      simp [letterMatch, follow]

theorem steps_whole {bound : Nat} (operands : Widens v bound) {task : Task} {ctx : Context}
    (h : Reads (queries v) task ctx at_ cs r) (asked : task = .more true step) (plain : ctx = {})
    (matched : r = some m) (short : cs.length < bound) (still : Still v cs)
    (follow : Clear isOperator (m.rest.dropWhile isBlank)) :
    Reads (queries v.whole) (.more true step) {} at_ cs (some m) := by
  induction h generalizing m with
  | @moreDone skipping e ctx at_ cs _ _ =>
      obtain rfl := Option.some.inj matched
      exact .moreDone (step_fails follow)
  | @more skipping e ctx at_ cs first r round later _ ih =>
      obtain ⟨rfl, rfl⟩ : skipping = true ∧ e = step := by simpa using asked
      subst plain
      obtain ⟨last, rfl, rfl⟩ := Option.map_eq_some_iff.mp matched
      change Reads (queries v) (.spaced step) {} at_ cs (some first) at round
      have length := round.rest_length_le
      exact .more (step_whole operands short still round)
        (ih rfl rfl rfl (by omega) (still.behind (by simp [balancedTasks]) round) follow)
  | _ => cases asked

theorem set_expr_whole {bound : Nat} (operands : Widens v bound) (short : cs.length < bound)
    (still : Still v cs) (h : Reads (queries v) (.expr (.call "set_expr")) {} at_ cs (some m))
    (follow : Clear isOperator (m.rest.dropWhile isBlank)) :
    Reads (queries v.whole) (.expr (.call "set_expr")) {} at_ cs (some m) := by
  obtain ⟨x, body, eq⟩ := reads_set_expr.mp h
  obtain ⟨n, rfl, rfl⟩ := Option.map_eq_some_iff.mp eq.symm
  obtain ⟨first, k, operand, star, rfl⟩ := reads_seq_some.mp body
  rw [Match.wrapped_rest, Match.append_rest] at follow
  refine reads_set_expr.mpr
    ⟨_, reads_seq_some.mpr ⟨first, k, operands short still operand, ?_, rfl⟩, rfl⟩
  have length := operand.rest_length_le
  have behind := still.behind (by simp [balancedTasks]) operand
  rcases (reads_spaced_star (skips_blanks v)).mp star with ⟨-, rfl⟩ | ⟨n, l, round, rest, rfl⟩
  · refine (reads_spaced_star (skips_blanks v.whole)).mpr (.inl ⟨step_fails ?_, rfl⟩)
    change Clear isOperator ((first.rest.dropWhile isBlank).dropWhile isBlank) at follow
    rwa [List.dropWhile_idempotent] at follow
  · have length' := round.rest_length_le
    have behind' := behind.behind (by simp [balancedTasks]) round
    exact (reads_spaced_star (skips_blanks v.whole)).mpr (.inr ⟨n, l,
      step_whole operands (by omega) behind round,
      steps_whole operands rest rfl rfl rfl (by omega) behind' follow, rfl⟩)

/-- In brackets a set expression ends in front of no operator. -/
theorem grouped_whole {bound : Nat} (operands : Widens v bound) (short : cs.length ≤ bound)
    (still : Still v cs) (h : Reads (queries v) (.expr (.call "grouped")) {} at_ cs (some m)) :
    Reads (queries v.whole) (.expr (.call "grouped")) {} at_ cs (some m) := by
  have body := (reads_call_silent (find?_grouped v) (by decide)).mp h
  refine (reads_call_silent (find?_grouped v.whole) (by decide)).mpr ?_
  obtain ⟨opening, k, bracket, inner, rfl⟩ := reads_seq_some.mp body
  obtain ⟨c, rest, rfl, isOpening, rfl⟩ := letterMatch_eq_some ((reads_letter rfl).mp bracket).symm
  obtain rfl : '(' = c := by simpa using isOpening
  obtain ⟨n, bracketed, rfl⟩ := (reads_spaced_some (skips_blanks v)).mp inner
  obtain ⟨set, last, set_expr, end_, rfl⟩ := reads_seq_some.mp bracketed
  obtain ⟨close, closing, rfl⟩ := (reads_spaced_some (skips_blanks v)).mp end_
  have follow : Clear isOperator (set.rest.dropWhile isBlank) := by
    obtain ⟨c, after, ahead, isClosing, -⟩ :=
      letterMatch_eq_some ((reads_letter rfl).mp closing).symm
    obtain rfl : ')' = c := by simpa using isClosing
    change set.rest.dropWhile isBlank = ')' :: after at ahead
    rw [ahead, Clear.cons]
    rfl
  have length : (rest.dropWhile isBlank).length < bound := by
    have dropped := (List.dropWhile_suffix isBlank (l := rest)).length_le
    rw [List.length_cons] at short
    omega
  have within := (still.tail (by decide)).dropWhile
  have set_expr' := set_expr_whole operands length within set_expr follow
  exact reads_seq_some.mpr ⟨_, _, (reads_letter rfl).mpr rfl,
    (reads_spaced_some (skips_blanks v.whole)).mpr
      ⟨_, reads_seq_some.mpr ⟨set, _, set_expr', literal_whole end_, rfl⟩, rfl⟩, rfl⟩

theorem enclosed_whole {bound : Nat} (operands : Widens v bound) (short : cs.length ≤ bound)
    (still : Still v cs) (h : Reads (queries v) (.expr (enclosed v)) {} at_ cs (some m)) :
    Reads (queries v.whole) (.expr (enclosed v.whole)) {} at_ cs (some m) := by
  change Reads (queries v.whole) (.expr (.choice (.call "grouped") (.call "flag"))) {} at_ cs _
  unfold enclosed at h
  split at h
  · rcases reads_choice.mp h with ⟨_, grouped, same⟩ | ⟨-, flag⟩
    · exact .choiceLeft (grouped_whole operands short still (same ▸ grouped))
    · have other : Clear ('(' == ·) cs := by
        intro c first
        rw [beq_eq_false_iff_ne]
        rintro rfl
        exact absurd (flag_fails first (.inl rfl) flag) nofun
      have grouped : Fails (queries v.whole) .spaced (.call "grouped") cs :=
        .call_silent (find?_grouped _) (by decide) (.seq (.literal other))
      exact .choiceRight (grouped at_) (flag_whole flag)
  · exact .choiceLeft (grouped_whole operands short still h)

/-- Neither a bracketed text nor a flag begins with a sign. -/
theorem sign_ne_enclosed (h : Reads (queries v) (.expr (enclosed v)) {} at_ cs (some m)) :
    Clear ('-' == ·) cs := by
  intro c first
  rw [beq_eq_false_iff_ne]
  rintro rfl
  have grouped : Reads (queries v) (.expr (.call "grouped")) {} at_ cs none :=
    Fails.call_silent (find?_grouped v) (by decide)
      (.seq (.literal (by intro c first'; rw [first] at first'; cases first'; rfl))) at_
  unfold enclosed at h
  split at h
  · rcases reads_choice.mp h with ⟨_, grouped', -⟩ | ⟨-, flag⟩
    · exact absurd (grouped.unique grouped') nofun
    · exact absurd (flag_fails first (.inr rfl) flag) nofun
  · exact absurd (grouped.unique h) nofun

theorem negation_whole {bound : Nat} (operands : Widens v bound) (short : cs.length ≤ bound)
    (still : Still v cs) (h : Reads (queries v) (.expr (.call "negation")) {} at_ cs (some m)) :
    Reads (queries v.whole) (.expr (.call "negation")) {} at_ cs (some m) := by
  obtain ⟨x, body, eq⟩ := (reads_call_normal (find?_negation v) (by decide)).mp h
  obtain ⟨n, rfl, rfl⟩ := Option.map_eq_some_iff.mp eq.symm
  obtain ⟨sign, k, minus, behind, rfl⟩ := reads_seq_some.mp body
  obtain ⟨c, rest, rfl, isMinus, rfl⟩ := letterMatch_eq_some ((reads_letter rfl).mp minus).symm
  obtain rfl : '-' = c := by simpa using isMinus
  obtain ⟨l, enclosed, rfl⟩ := (reads_spaced_some (skips_blanks v)).mp behind
  have length : (rest.dropWhile isBlank).length ≤ bound := by
    have dropped := (List.dropWhile_suffix isBlank (l := rest)).length_le
    rw [List.length_cons] at short
    omega
  have within := (still.tail (by decide)).dropWhile
  have enclosed' := enclosed_whole operands length within enclosed
  exact (reads_call_normal (find?_negation v.whole) (by decide)).mpr
    ⟨_, reads_seq_some.mpr ⟨_, _, (reads_letter rfl).mpr rfl,
      (reads_spaced_some (skips_blanks v.whole)).mpr ⟨l, enclosed', rfl⟩, rfl⟩, rfl⟩

/-- An operand is a comparison, or none begins here in either grammar. -/
theorem operand_cases (still : Still v cs)
    (h : Reads (queries v) (.expr (.call "operand")) {} at_ cs (some m)) :
    Reads (queries v) (.expr (.call "comparison")) {} at_ cs (some m) ∨
      Reads (queries v.whole) (.expr (.call "comparison")) {} at_ cs none ∧
      Reads (queries v) (.expr (.choice (.call "negation") (enclosed v))) {} at_ cs (some m) := by
  have body := (reads_call_silent (find?_operand v) (by decide)).mp h
  unfold orElse at body
  split at body
  · rcases reads_choice.mp body with ⟨_, comparison, same⟩ | ⟨none, other⟩
    · exact .inl (same ▸ comparison)
    · exact .inr ⟨comparison_whole none, other⟩
  · rename_i off
    exact .inr ⟨comparison_fails_of_calm (still.resolve_left off), body⟩

theorem operand_whole (v : Variant) (bound : Nat) : Widens v bound := by
  induction bound with
  | zero => exact fun cs _ _ short => absurd short (Nat.not_lt_zero _)
  | succ bound operands =>
      intro cs at_ m short still h
      replace short := Nat.le_of_lt_succ short
      rcases operand_cases still h with comparison | ⟨none, other⟩
      · refine (reads_call_silent (find?_operand v.whole) (by decide)).mpr ?_
        exact .choiceLeft (comparison_whole comparison)
      · refine Query.reads_operand none ?_
        rcases reads_choice.mp other with ⟨_, negation, same⟩ | ⟨-, enclosed⟩
        · exact .choiceLeft (negation_whole operands short still (same ▸ negation))
        · have unsigned : Fails (queries v.whole) .spaced (.call "negation") cs :=
            .call_normal (find?_negation v.whole) (by decide)
              (.seq (.literal (sign_ne_enclosed enclosed)))
          exact .choiceRight (unsigned at_) (enclosed_whole operands short still enclosed)

/-! ### Whole queries -/

/-- The end of the text is behind blanks only. -/
theorem finish_parts (h : Reads (queries v) (.spaced .finish) {} at_ cs (some m)) :
    cs.dropWhile isBlank = [] ∧ m.rest = [] ∧
      Reads (queries v.whole) (.spaced .finish) {} at_ cs (some m) := by
  obtain ⟨n, finish, rfl⟩ := (reads_spaced_some (skips_blanks v)).mp h
  have finish' := reads_finish.mp finish
  have ends : cs.dropWhile isBlank = [] ∧ n.rest = [] := by
    by_cases none : (skipMatch isBlank {} cs).rest.isEmpty = true
    · have ended : (skipMatch isBlank {} cs).rest = [] := List.isEmpty_iff.mp none
      rw [if_pos none] at finish'
      obtain rfl := Option.some.inj finish'
      exact ⟨ended, by rwa [Match.wrapped_rest]⟩
    · rw [if_neg none] at finish'
      cases finish'
  exact ⟨ends.1, ends.2, (reads_spaced_some (skips_blanks v.whole)).mpr
    ⟨n, reads_finish.mpr finish', rfl⟩⟩

/-- A query is read in the same way with both capabilities, and to its end. -/
theorem query_whole (still : Still v cs)
    (h : Reads (queries v) (.expr (.call "query")) {} 0 cs (some m)) :
    Reads (queries v.whole) (.expr (.call "query")) {} 0 cs (some m) := by
  obtain ⟨x, body, eq⟩ := reads_query.mp h
  obtain ⟨n, rfl, rfl⟩ := Option.map_eq_some_iff.mp eq.symm
  obtain ⟨start, k, first, inner, rfl⟩ := reads_seq_some.mp body
  obtain rfl : start = .empty cs := by simpa [leaf] using (reads_leaf rfl).mp first
  obtain ⟨l, whole, rfl⟩ := (reads_spaced_some (skips_blanks v)).mp inner
  obtain ⟨set, last, set_expr, finish, rfl⟩ := reads_seq_some.mp whole
  obtain ⟨ended, -, finish'⟩ := finish_parts finish
  have follow : Clear isOperator (set.rest.dropWhile isBlank) := by
    rw [ended]
    exact Clear.nil
  have set_expr' := set_expr_whole (operand_whole v _) (Nat.lt_succ_self _) still.dropWhile set_expr
    follow
  exact reads_query.mpr ⟨_, reads_seq_some.mpr ⟨_, _, .leaf rfl,
    (reads_spaced_some (skips_blanks v.whole)).mpr
      ⟨_, reads_seq_some.mpr ⟨set, last, set_expr', finish', rfl⟩, rfl⟩, rfl⟩, rfl⟩

/-- A query takes the whole text. -/
theorem query_taken (h : Reads (queries v) (.expr (.call "query")) {} 0 cs (some m)) :
    m.taken = cs := by
  have split := h.taken_append_rest rfl
  obtain ⟨x, body, eq⟩ := reads_query.mp h
  obtain ⟨n, rfl, rfl⟩ := Option.map_eq_some_iff.mp eq.symm
  obtain ⟨start, k, -, inner, rfl⟩ := reads_seq_some.mp body
  obtain ⟨l, whole, rfl⟩ := (reads_spaced_some (skips_blanks v)).mp inner
  obtain ⟨set, last, -, finish, rfl⟩ := reads_seq_some.mp whole
  have left := (finish_parts finish).2.1
  rw [Match.wrapped_rest, Match.append_rest, Match.append_rest, Match.append_rest, left,
    List.append_nil] at split
  exact split

/-! ### Texts without comparators -/

/-- The rules that derive calm texts, besides the one for quoted patterns. -/
def calmRules : List String :=
  setRules ++ ["flag", "category", "pattern", "bare_pattern"]

/-- A node whose text has no comparator outside quotes, or is a body in quotes. -/
def IsCalm (name : String) (n : ParseNode) : Prop :=
  (name = "quoted_body" → Body n.text.toList) ∧
    (name ≠ "quoted_body" → Calm comparatorMarks n.text.toList)

theorem inherits_calm (off : v.features = false) :
    Inherits (queries v) isBlank IsCalm (calmRules ++ ["quoted_pattern", "quoted_body"]) := by
  have quiet : (queries v).Quiet comparatorMarks calmRules ["quoted_pattern"] := by
    obtain ⟨named, flags, features⟩ := v
    obtain rfl : features = false := off
    constructor <;> cases named <;> cases flags <;> decide +kernel
  have blanks : ∀ c, isBlank c = true → c ∉ '"' :: comparatorMarks := by
    intro c blank
    rcases blank_cases blank with rfl | rfl | rfl | rfl <;> decide
  have texts : ∀ name ∈ calmRules ++ ["quoted_pattern"], ∀ n, IsCalm name n →
      Calm comparatorMarks n.text.toList := by
    intro name mem n calm
    refine calm.2 ?_
    rintro rfl
    exact absurd mem (by decide)
  intro name mem rule found mode shows x ns body start stop
  have calm (plain : name ≠ "quoted_body" → Calm comparatorMarks x)
      (quoted : name = "quoted_body" → Body x) :
      IsCalm name ⟨name, String.ofList x, start, stop, ns⟩ :=
    ⟨fun same => by simpa using quoted same, fun other => by simpa using plain other⟩
  rw [List.mem_append] at mem
  rcases mem with mem | mem
  · obtain ⟨lacks, calls⟩ := quiet.body mem found
    refine calm (fun _ => body.calm quiet blanks texts lacks calls) ?_
    rintro rfl
    exact absurd mem (by decide)
  · simp only [List.mem_cons, List.not_mem_nil, or_false] at mem
    rcases mem with rfl | rfl
    · refine calm (fun _ => ?_) fun same => absurd same (by decide)
      obtain rfl := Option.some.inj ((find?_quoted_pattern v).symm.trans found)
      obtain ⟨inner, valid, rfl⟩ := quoted_of_derives (find?_quoted_body v)
        (shows_atomic.mpr (by decide)) (fun n calm => calm.1 rfl) body
      exact Calm.quoted (by decide) valid
    · refine calm (fun other => absurd rfl other) fun _ => ?_
      obtain rfl := Option.some.inj ((find?_quoted_body v).symm.trans found)
      have atomic : Derives (queries v) isBlank IsCalm .atomic quotedBody x ns := body
      exact body_of_derives (by decide) atomic

/-- What is accepted without features has no comparators outside quotes. -/
theorem calm_of_reads (off : v.features = false)
    (h : Reads (queries v) (.expr (.call "query")) {} 0 cs (some m)) :
    Calm comparatorMarks cs := by
  have closed : (queries v).Closed (setRules ++ flagRules) := by
    obtain ⟨-, -, called⟩ := closed_rules v
    refine .of_parts fun name mem => ?_
    rcases List.mem_append.mp mem with set | flag
    · refine ⟨calledRules v, by simp [calledRules, set], ?_, called⟩
      cases flags : v.flags <;> simp [calledRules, flags, off]
    · exact ⟨flagRules, flag, List.subset_append_right _ _, (closed_rules v).1⟩
  have calls : (Grammar.Task.expr (.call "query")).calls ⊆
      calmRules ++ ["quoted_pattern", "quoted_body"] := by decide
  have derives := h.derives (skips_blanks v) closed (inherits_calm off) calls rfl rfl
  obtain ⟨n, -, text, calm⟩ := Derives.of_node derives (rfl : (queries v).find? "query" = _)
    (shows_normal.mpr (by decide))
  rw [query_taken h] at text
  rw [text]
  exact calm.2 (by decide)

/-! ### What expressions are made of -/

/-- The variant has the part of queries that the leaf belongs to. -/
def Variant.Offers (v : Variant) : Leaf → Prop
  | .flag _ => v.flags = true
  | .comparison _ _ _ => v.features = true

theorem offered_of_called (v : Variant) :
    ("flag" ∈ calledRules v → v.flags = true) ∧
      ("comparison" ∈ calledRules v → v.features = true) := by
  obtain ⟨named, flags, features⟩ := v
  cases named <;> cases flags <;> cases features <;> decide

section

variable {vocabulary : Vocabulary} {nodes : List ParseNode}

/-- A node whose expression has only leaves that are offered. -/
def IsOffered (v : Variant) (vocabulary : Vocabulary) (name : String) (n : ParseNode) : Prop :=
  n.rule = name ∧ ∀ e, operandOf vocabulary n = .ok e → e.Consists v.Offers

theorem inherits_offered :
    Inherits (queries v) isBlank (IsOffered v vocabulary) (calledRules v) := by
  intro name called rule found mode shows x ns body start stop
  refine ⟨rfl, fun e made => leaves_of_operand (fun n mem e made => ?_) ?_ ?_ made⟩
  · rcases body.of_mem mem with ⟨ended, -⟩ | ⟨inner, -, offered⟩
    · exact absurd made (operandOf_end ended)
    · exact offered e made
  · rintro rfl
    exact (offered_of_called v).1 called
  · rintro rfl _ _ _
    exact (offered_of_called v).2 called

/-- What is parsed has only flags and comparisons that the variant offers. -/
theorem offered_of_asks {text : List Char} {e : Expr} (asks : Asks v text nodes)
    (made : setOf vocabulary nodes = .ok e) : e.Consists v.Offers := by
  obtain ⟨before, body, rfl, -, -, sets⟩ := asks.parts
  obtain ⟨m, set, read, -, single, rule, rfl⟩ := sets.reads
  have closed := (closed_rules v).2.2
  have calls : (Grammar.Task.expr (.call "set_expr")).calls ⊆ calledRules v := by
    simp [Grammar.Task.calls, Grammar.Expr.calls, calledRules, setRules]
  have derives : Derives (queries v) isBlank (IsOffered v vocabulary) _ _ _ _ :=
    read.derives (skips_blanks v) closed inherits_offered calls rfl rfl
  rw [single] at derives
  rcases derives.of_mem List.mem_cons_self with ⟨ended, -⟩ | ⟨name, -, offered⟩
  · rw [rule] at ended
    exact absurd ended (by decide)
  · exact offered e (by rwa [operandOf_set rule])

end

/-! ### The main result -/

/-- Either both grammars have comparisons, or what is accepted has no comparators in the open. -/
theorem still_of_reads (h : Reads (queries v) (.expr (.call "query")) {} 0 cs (some m)) :
    Still v cs := by
  cases on : v.features with
  | true => exact .inl on
  | false => exact .inr (calm_of_reads on h)

/-- What a grammar of queries accepts is accepted with both capabilities, as the same tree. -/
theorem parse_whole {text : String} {nodes : List ParseNode}
    (parsed : (queries v).parse "query" text = .ok nodes) :
    (queries v.whole).parse "query" text = .ok nodes := by
  obtain ⟨m, read, rfl⟩ := reads_of_parse parsed
  have found := (reads_attempt v.whole text.toList).unique (query_whole (still_of_reads read) read)
  unfold Grammar.parse
  dsimp only
  rw [found]

theorem small_of_made {d : Dataset} {vocabulary : Vocabulary} {capabilities : Capabilities}
    {engine : Engine} (made : Engine.withCapabilities d vocabulary capabilities = .ok engine) :
    d.size < Word.count32 := by
  obtain ⟨grammar, -, made⟩ := bind_eq_ok.mp made
  unfold Engine.ofParts at made
  split at made
  · assumption
  · cases made

/-- The engine with all that a vocabulary of an archive enables. -/
theorem new_eq {named : Bool} {d : Dataset} {vocabulary : Vocabulary}
    (serves : (Variant.mk named true true).Serves vocabulary) (small : d.size < Word.count32) :
    Engine.new d vocabulary = .ok ⟨d, vocabulary, (queries ⟨named, true, true⟩).parse "query"⟩ := by
  rw [Engine.new, (fragments_of_serves serves).2, withCapabilities_eq rfl serves, Engine.ofParts,
    if_pos small]

/-- An engine with fewer capabilities accepts fewer queries, and those that it accepts mean the same
as with all. Whatever the profile under which the engine was made:

* the engine with all capabilities of the vocabulary can be made, and its parser gives the same
  tree for every text that the narrower parser accepts;
* a query that is parsed to an expression is parsed to the same expression;
* without features, the expression has only flags for leaves, and without flags only comparisons. -/
theorem narrowed_agrees {d : Dataset} {vocabulary : Vocabulary} {capabilities : Capabilities}
    {engine : Engine}
    (archive : ∃ index, vocabulary = Archive.storyVocabulary index ∨
      vocabulary = Archive.tagVocabulary index)
    (made : Engine.withCapabilities d vocabulary capabilities = .ok engine) :
    ∃ whole, Engine.new d vocabulary = .ok whole ∧ ∀ text,
      (∀ nodes, engine.parser text = .ok nodes → whole.parser text = .ok nodes) ∧
      ∀ e, engine.parse text = .ok e →
        whole.parse text = .ok e ∧
        (capabilities.features = false → ∀ leaf ∈ e.leaves, ∃ node, leaf = .flag node) ∧
        (capabilities.flags = false →
          ∀ leaf ∈ e.leaves, ∃ left c right, leaf = .comparison left c right) := by
  obtain ⟨named, serves⟩ := serves_of_archive capabilities.flags capabilities.features archive
  have small := small_of_made made
  obtain rfl := parser_of_made serves made
  refine ⟨_, new_eq serves small, fun text => ⟨fun _ parsed => parse_whole parsed,
    fun e parsed => ?_⟩⟩
  obtain ⟨nodes, asks, expression⟩ := asks_of_parse rfl parsed
  have offered : e.Consists _ := offered_of_asks asks expression
  refine ⟨?_, fun off leaf mem => ?_, fun off leaf mem => ?_⟩
  · obtain ⟨top, accepted, built⟩ := bind_eq_ok.mp parsed
    exact bind_eq_ok.mpr ⟨top, parse_whole accepted, built⟩
  · cases leaf with
    | flag node => exact ⟨node, rfl⟩
    | comparison left c right => exact absurd (off.symm.trans (offered _ mem)) nofun
  · cases leaf with
    | flag node => exact absurd (off.symm.trans (offered _ mem)) nofun
    | comparison left c right => exact ⟨left, c, right, rfl⟩

/-- The engine for queries over the stories of an archive, without features. -/
def flagsEngine (stories : Dataset) : Engine :=
  ⟨stories, Archive.storyVocabulary (.build stories), (queries ⟨true, true, false⟩).parse "query"⟩

/-- A comparison in quotes is a flag, with features or without. -/
theorem narrowed_agrees_quoted :
    Engine.withCapabilities twoStories (Archive.storyVocabulary (.build twoStories))
        { flags := true } = .ok (flagsEngine twoStories) ∧
      ∃ e, (flagsEngine twoStories).parse "-\".likes > 1\" | (comedy)" = .ok e ∧
        (storyEngine twoStories).parse "-\".likes > 1\" | (comedy)" = .ok e ∧
        ∀ leaf ∈ e.leaves, ∃ node, leaf = .flag node := by
  have small : twoStories.size < Word.count32 := by decide +kernel
  have serves : (Variant.mk true true false).Serves (Archive.storyVocabulary (.build twoStories)) :=
    ⟨_, rfl⟩
  have made : Engine.withCapabilities twoStories (Archive.storyVocabulary (.build twoStories))
      { flags := true } = .ok (flagsEngine twoStories) := by
    rw [withCapabilities_eq rfl serves, Engine.ofParts, if_pos small]
    rfl
  have accepted : (flagsEngine twoStories).Accepts "-\".likes > 1\" | (comedy)" := by
    decide +kernel
  obtain ⟨e, parsed⟩ := accepted
  obtain ⟨whole, new, agrees⟩ := narrowed_agrees ⟨_, .inl rfl⟩ made
  obtain rfl := Except.ok.inj (new.symm.trans (@new_eq true _ _ ⟨_, rfl⟩ small))
  obtain ⟨same, flags, -⟩ := (agrees _).2 e parsed
  exact ⟨made, e, parsed, same, flags rfl⟩

end Dialect.Query
