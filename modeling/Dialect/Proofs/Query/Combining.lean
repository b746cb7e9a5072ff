import Dialect.Proofs.Query.Reading

/-!
Queries combined from queries, as texts.

A text that is read as a query is read in the same way inside brackets and in front of a set
operator. With the punctuation around it, the combined text is again read as a query, whose nodes
are made of those of its parts (`Asks.grouped`, `Asks.negated`, `Asks.joined`).
-/

namespace Dialect.Query

open Grammar ParseNode

variable {v : Variant} {cs : List Char} {nodes : List ParseNode} {stop : Char}

/-- The place at the end of a text, between tokens. -/
def edge : Stance := ⟨false, true, false⟩

/-- A place inside of a text, between tokens. -/
def inside : Stance := ⟨false, false, false⟩

/-- What a text that ends fits in front of: blanks and a character that ends it. -/
theorem fitting {named : Bool} {u tail : List Char} (blank : ∀ c ∈ u, isBlank c = true)
    (ends : tail.head? = some stop) : (setting named stop).Fitting edge 0 u tail :=
  ⟨by simp [edge], fun _ => ⟨rfl, ends⟩, by simp [edge], blank⟩

/-- Tasks that lead a scan back to where it starts. -/
def balancedTasks : List Task :=
  [.expr (.call "set_expr"), .expr (.call "operand"), .spaced step, .expr (.call "feature_sum")]

theorem track_inside (named : Bool) : ∀ task ∈ balancedTasks,
    (setting named ')').trackTask inside task {} = some {} := by
  intro task mem
  simp only [balancedTasks, List.mem_cons, List.not_mem_nil, or_false] at mem
  cases named <;> rcases mem with rfl | rfl | rfl | rfl <;> decide +kernel

theorem track_operand (named : Bool) (mem : stop ∈ stops) :
    ∀ task ∈ [Task.expr (.call "operand"), .spaced (.call "operand")],
      (setting named stop).trackTask edge task {} = some {} := by
  rcases stop_cases mem with rfl | rfl | rfl <;> cases named <;> decide +kernel

theorem track_set_expr (named : Bool) :
    (setting named ')').trackTask edge (.expr (.call "set_expr")) {} = some {} := by
  cases named <;> decide +kernel

/-- What is read inside of a text is balanced. -/
theorem balanced {task : Task} (mem : task ∈ balancedTasks) {at_ : Nat} {m : Match}
    (h : Reads (queries v) task {} at_ cs (some m)) : ({} : Scan).through m.taken = some {} :=
  h.through_taken (setting_right v (by decide)) (track_inside v.named task mem) (by simp [inside])
    rfl

theorem through_blanks {bs : List Char} (blank : ∀ c ∈ bs, isBlank c = true) :
    ({} : Scan).through bs = some {} := by
  apply Scan.through_of_not_isMark rfl
  intro c mem
  rcases blank_cases (blank c mem) with rfl | rfl | rfl | rfl <;> rfl

/-- A text that is read as operands, up to blanks, is balanced. -/
theorem Sets.through {at_ : Nat} (sets : Sets v at_ cs nodes) :
    ({} : Scan).through cs = some {} := by
  obtain ⟨m, set, read, blank, -⟩ := sets.reads
  rw [← read.taken_append_rest rfl, Scan.through_append, balanced (by simp [balancedTasks]) read]
  exact through_blanks blank

/-- A text that is read as a query is balanced. -/
theorem Asks.through (asks : Asks v cs nodes) : ({} : Scan).through cs = some {} := by
  obtain ⟨before, body, rfl, blank, -, sets⟩ := asks.parts
  rw [Scan.through_append, through_blanks blank]
  exact sets.through

theorem Sets.ne_nil {at_ : Nat} (sets : Sets v at_ cs nodes) : cs ≠ [] := by
  obtain ⟨first, later, operand, -⟩ := sets.parts
  have moves : (Task.expr (.call "operand")).moves ranking = true := by decide
  have taken := operand.taken_ne_nil (ranking_fits v) moves rfl
  rintro rfl
  exact taken (List.append_eq_nil_iff.mp (operand.taken_append_rest rfl)).1

/-! ### Brackets around a query -/

/-- What settles as a single node does is a single node of the same rule. -/
theorem single_of_settled {n : ParseNode} {nodes : List ParseNode}
    (same : settledAll blanks looseRules [n] = settledAll blanks looseRules nodes) :
    ∃ m, nodes = [m] ∧ m.rule = n.rule ∧
      n.settled blanks looseRules = m.settled blanks looseRules := by
  have length := congrArg List.length same
  rw [length_settledAll, length_settledAll] at length
  obtain ⟨m, rfl⟩ := List.length_eq_one_iff.mp length.symm
  have settles : n.settled blanks looseRules = m.settled blanks looseRules := by
    simpa using same
  have kept := congrArg ParseNode.rule settles
  rw [settled_rule, settled_rule] at kept
  exact ⟨m, rfl, kept.symm, settles⟩

/-- A node that settles as a set expression does is one, with children that settle alike. -/
theorem children_of_settled {set : ParseNode} {nodes : List ParseNode}
    (rule : set.rule = "set_expr")
    (same : settledAll blanks looseRules [set] = settledAll blanks looseRules nodes) :
    ∃ set', nodes = [set'] ∧ set'.rule = "set_expr" ∧
      settledAll blanks looseRules set.children = settledAll blanks looseRules set'.children := by
  obtain ⟨set', rfl, kept, settles⟩ := single_of_settled same
  have rule' : set'.rule = "set_expr" := kept.trans rule
  rw [settled_of_loose (by rw [rule]; decide), settled_of_loose (by rw [rule']; decide)] at settles
  exact ⟨set', rfl, rule', congrArg ParseNode.children settles⟩

theorem find?_grouped (v : Variant) : (queries v).find? "grouped" =
    some ⟨"grouped", .silent,
      .seq (.literal ['(']) (.seq (.call "set_expr") (.literal [')']))⟩ := rfl

/-- In brackets, a query is read to the node of its set expression. -/
theorem Asks.reads_grouped (asks : Asks v cs nodes) {p₁ p₂ : List Char}
    (blank₁ : ∀ c ∈ p₁, isBlank c = true) (blank₂ : ∀ c ∈ p₂, isBlank c = true) (w : List Char)
    (at_ : Nat) :
    ∃ m set, Reads (queries v) (.expr (.call "grouped")) {} at_
        ('(' :: (p₁ ++ (cs ++ (p₂ ++ ')' :: w)))) (some m) ∧
      m.rest = w ∧ m.nodes = [set] ∧ set.rule = "set_expr" ∧
      settledAll blanks looseRules nodes = settledAll blanks looseRules set.children := by
  obtain ⟨before, body, rfl, blank, first, sets⟩ := asks.parts
  obtain ⟨m, set, read, left, single, rule, rfl⟩ := sets.reads
  have fit : (setting v.named ')').Fitting edge 0 p₂ (')' :: w) := fitting blank₂ rfl
  obtain ⟨m', read', extended⟩ := read.extends_some (setting_right v (by decide))
    (track_set_expr v.named) (by simp [edge]) fit sets.through
    (at_ + Text.byteSize ['('] + Text.byteSize (p₁ ++ before))
  obtain ⟨more, behind, rfl, grown⟩ := extended
  have same := grown.settled
  rw [single] at same
  obtain ⟨set', single', rule', children⟩ := children_of_settled rule same
  -- the closing bracket stands behind what is left of the blanks
  have closing (at_ : Nat) : Reads (queries v) (.spaced (.literal [')'])) {} at_ m'.rest
      (some ⟨m.rest ++ behind ++ [')'], w, []⟩) := by
    rw [grown.rest, ← List.append_assoc]
    refine (reads_behind_blanks (skips_blanks v) rfl ?_ ?_).mpr ⟨_, .leaf rfl, rfl⟩
    · exact List.forall_mem_append.mpr ⟨left, (List.forall_mem_append.mp blank₂).2⟩
    · simp [blanks]
  have blank' : ∀ c ∈ p₁ ++ before, isBlank c = true :=
    List.forall_mem_append.mpr ⟨blank₁, blank⟩
  have first' : ∀ c, (body ++ (more ++ behind ++ ')' :: w)).head? = some c → isBlank c = false := by
    rw [List.head?_append_of_ne_nil _ sets.ne_nil]
    exact first
  have inner : Reads (queries v) (.spaced (.seq (.call "set_expr") (.literal [')']))) {}
      (at_ + Text.byteSize ['(']) (p₁ ++ before ++ (body ++ (more ++ behind ++ ')' :: w))) _ :=
    (reads_behind_blanks (skips_blanks v) rfl blank' first').mpr ⟨_, .seq read' (closing _), rfl⟩
  have opening : Reads (queries v) (.expr (.literal ['('])) {} at_
      ('(' :: (p₁ ++ before ++ (body ++ (more ++ behind ++ ')' :: w))))
      (some ⟨['('], p₁ ++ before ++ (body ++ (more ++ behind ++ ')' :: w)), []⟩) := .leaf rfl
  have whole := (reads_call_silent (find?_grouped v) (by decide)).mpr (Reads.seq opening inner)
  simp only [List.append_assoc] at whole ⊢
  exact ⟨_, set', whole, rfl, by simp [single'], rule', children⟩

/-! ### Operands at the end of a query -/

theorem find?_comparison (v : Variant) : (queries v).find? "comparison" =
    some ⟨"comparison", .normal,
      .seq (.call "feature_sum") (.seq (.call "comparator") (.call "feature_sum"))⟩ := rfl

/-- What is read as a negation behind its sign, and as an operand that is no comparison. -/
def enclosed (v : Variant) : Grammar.Expr :=
  if v.flags then .choice (.call "grouped") (.call "flag") else .call "grouped"

theorem find?_negation (v : Variant) : (queries v).find? "negation" =
    some ⟨"negation", .normal, .seq (.literal ['-']) (enclosed v)⟩ := rfl

theorem find?_operand (v : Variant) : (queries v).find? "operand" =
    some ⟨"operand", .silent,
      orElse v.features (.call "comparison") (.choice (.call "negation") (enclosed v))⟩ := rfl

theorem exists_comparison (v : Variant) (at_ : Nat) (cs : List Char) :
    ∃ r, Reads (queries v) (.expr (.call "comparison")) {} at_ cs r := by
  exact exists_reads (ranking_fits v) (by decide) (size_call_le_weight _ _) {} at_ cs

/-- A bracketed text at the end of a query does not begin with a comparison: a feature would go at
least up to the closing bracket. -/
theorem comparison_fails_grouped {y w : List Char} (inside : ({} : Scan).through y = some {})
    (blank : ∀ c ∈ w, isBlank c = true) (at_ : Nat) :
    Reads (queries v) (.expr (.call "comparison")) {} at_ ('(' :: (y ++ ')' :: w)) none := by
  obtain ⟨r, read⟩ := exists_comparison v at_ ('(' :: (y ++ ')' :: w))
  obtain ⟨x, body, rfl⟩ := (reads_call_normal (find?_comparison v) (by decide)).mp read
  cases x with
  | none => exact read
  | some m =>
      obtain ⟨sum, _, left, right, -⟩ := reads_seq_some.mp body
      have moves : (Task.expr (.call "feature_sum")).moves ranking = true := by decide
      obtain ⟨before, rfl⟩ := rest_behind_bracket (left.taken_append_rest rfl)
        (left.taken_ne_nil (ranking_fits v) moves rfl) inside
        (balanced (by simp [balancedTasks]) left)
      -- only blanks are left for the comparator
      obtain ⟨k, comparator, -⟩ := (reads_spaced_some (skips_blanks v)).mp right
      rw [skipMatch_of_blank (List.forall_mem_append.mp blank).2] at comparator
      have moves : (Task.expr (.seq (.call "comparator") (.call "feature_sum"))).moves ranking =
          true := by decide
      have taken := comparator.taken_ne_nil (ranking_fits v) moves rfl
      exact absurd (List.append_eq_nil_iff.mp (comparator.taken_append_rest rfl)).1 taken

/-- A sign in front of something else than a digit does not begin a number. -/
theorem number_fails {x : List Char}
    (first : ∀ c, x.head? = some c → CharClass.asciiDigit.holds c = false) (ctx : Context)
    (at_ : Nat) {r : Option Match}
    (h : Reads (queries v) (.expr (.call "number")) ctx at_ ('-' :: x) r) : r = none := by
  obtain ⟨y, body, rfl⟩ := (reads_call rfl).mp h
  have sign : Reads (queries v) (.expr (.opt (.literal ['-']))) { ctx with mode := .atomic } at_
      ('-' :: x) (some ⟨['-'], x, []⟩) := .opt (.leaf rfl)
  have digit (at_ : Nat) : Reads (queries v) (.expr (.one .asciiDigit)) { ctx with mode := .atomic }
      at_ x none := by
    refine (reads_letter rfl).mpr ?_
    cases x with
    | nil => rfl
    | cons c x => simp [letterMatch, first c rfl]
  have later (e : Grammar.Expr) (at_ : Nat) : Reads (queries v) (Task.round true (.seq digits e))
      { ctx with mode := .atomic } at_ x none :=
    (reads_round_of_tight (by simp)).mpr (.seqFails (.seqFails (digit _)))
  rw [body.unique (.seq sign (later _ _))]
  rfl

/-- The rules that a feature may begin with, except for numbers. -/
def featureRules (named : Bool) : List String :=
  ["extremum_name", "extremum", "field", "string", "feature_atom", "feature_power",
    "feature_product", "feature_sum", "comparison"] ++ if named then ["story_feature"] else []

/-- A sign in front of something else than a digit does not begin a comparison. -/
theorem comparison_fails_sign {x : List Char}
    (first : ∀ c, x.head? = some c → CharClass.asciiDigit.holds c = false) (at_ : Nat) :
    Reads (queries v) (.expr (.call "comparison")) {} at_ ('-' :: x) none := by
  obtain ⟨r, read⟩ := exists_comparison v at_ ('-' :: x)
  have begins : ∀ name ∈ featureRules v.named, ((queries v).find? name).any (fun rule =>
      rule.body.avoids '-' (["number"] ++ featureRules v.named)) = true := by
    obtain ⟨named, flags, features⟩ := v
    cases named <;> cases flags <;> cases features <;> decide +kernel
  have number : ∀ name ∈ ["number"], ∀ ctx at_ r,
      Reads (queries v) (.expr (.call name)) ctx at_ ('-' :: x) r → r = none := by
    intro name mem ctx at_ r h
    obtain rfl := List.mem_singleton.mp mem
    exact number_fails first ctx at_ h
  have none := read.none_of_avoids rfl number begins rfl (by simp [Expr.avoids, featureRules])
  exact none ▸ read

theorem reads_operand {at_ : Nat} {m : Match}
    (comparison : Reads (queries v) (.expr (.call "comparison")) {} at_ cs none)
    (h : Reads (queries v) (.expr (.choice (.call "negation") (enclosed v))) {} at_ cs (some m)) :
    Reads (queries v) (.expr (.call "operand")) {} at_ cs (some m) := by
  refine (reads_call_silent (find?_operand v) (by decide)).mpr ?_
  unfold orElse
  split
  · exact .choiceRight comparison h
  · exact h

theorem reads_enclosed {at_ : Nat} {m : Match}
    (h : Reads (queries v) (.expr (.call "grouped")) {} at_ cs (some m)) :
    Reads (queries v) (.expr (enclosed v)) {} at_ cs (some m) := by
  unfold enclosed
  split
  · exact .choiceLeft h
  · exact h

section

variable {p₁ p₂ w : List Char}

/-- In brackets at the end of a query, a query is an operand. -/
theorem Asks.reads_operand (asks : Asks v cs nodes) (blank₁ : ∀ c ∈ p₁, isBlank c = true)
    (blank₂ : ∀ c ∈ p₂, isBlank c = true) (blank : ∀ c ∈ w, isBlank c = true) (at_ : Nat) :
    ∃ m set, Reads (queries v) (.expr (.call "operand")) {} at_
        ('(' :: (p₁ ++ (cs ++ (p₂ ++ ')' :: w)))) (some m) ∧
      m.rest = w ∧ m.nodes = [set] ∧ set.rule = "set_expr" ∧
      settledAll blanks looseRules nodes = settledAll blanks looseRules set.children := by
  obtain ⟨m, set, grouped, rest, single, rule, same⟩ := asks.reads_grouped blank₁ blank₂ w at_
  refine ⟨m, set, Query.reads_operand ?_ (.choiceRight ?_ (reads_enclosed grouped)), rest, single,
    rule, same⟩
  · have inside : ({} : Scan).through (p₁ ++ (cs ++ p₂)) = some {} := by
      simp [Scan.through_append, through_blanks blank₁, asks.through, through_blanks blank₂]
    simpa using comparison_fails_grouped inside blank at_
  · refine (reads_call_normal (find?_negation v) (by decide)).mpr ⟨none, .seqFails ?_, rfl⟩
    exact (reads_letter rfl).mpr rfl

/-- With a sign in front, a query in brackets is an operand. -/
theorem Asks.reads_negation (asks : Asks v cs nodes) {p : List Char}
    (blank : ∀ c ∈ p, isBlank c = true) (blank₁ : ∀ c ∈ p₁, isBlank c = true)
    (blank₂ : ∀ c ∈ p₂, isBlank c = true) (w : List Char) (at_ : Nat) :
    ∃ m node set, Reads (queries v) (.expr (.call "operand")) {} at_
        ('-' :: (p ++ '(' :: (p₁ ++ (cs ++ (p₂ ++ ')' :: w))))) (some m) ∧
      m.rest = w ∧ m.nodes = [node] ∧ node.rule = "negation" ∧ node.children = [set] ∧
      set.rule = "set_expr" ∧
      settledAll blanks looseRules nodes = settledAll blanks looseRules set.children := by
  obtain ⟨m, set, grouped, rest, single, rule, same⟩ := asks.reads_grouped blank₁ blank₂ w
    (at_ + Text.byteSize ['-'] + Text.byteSize p)
  have inner : Reads (queries v) (.spaced (enclosed v)) {} (at_ + Text.byteSize ['-'])
      (p ++ '(' :: (p₁ ++ (cs ++ (p₂ ++ ')' :: w)))) _ :=
    (reads_behind_blanks (skips_blanks v) rfl blank (by simp [blanks])).mpr
      ⟨_, reads_enclosed grouped, rfl⟩
  have sign : Reads (queries v) (.expr (.literal ['-'])) {} at_
      ('-' :: (p ++ '(' :: (p₁ ++ (cs ++ (p₂ ++ ')' :: w)))))
      (some ⟨['-'], p ++ '(' :: (p₁ ++ (cs ++ (p₂ ++ ')' :: w))), []⟩) := .leaf rfl
  have negation := (reads_call_normal (find?_negation v) (by decide)).mpr
    ⟨_, .seq sign inner, rfl⟩
  have first : ∀ c, (p ++ '(' :: (p₁ ++ (cs ++ (p₂ ++ ')' :: w)))).head? = some c →
      CharClass.asciiDigit.holds c = false := by
    intro c head
    cases p with
    | nil =>
        obtain rfl := Option.some.inj head
        decide
    | cons b p =>
        obtain rfl := Option.some.inj head
        rcases blank_cases (blank b List.mem_cons_self) with rfl | rfl | rfl | rfl <;> rfl
  refine ⟨_, _, set, Query.reads_operand (comparison_fails_sign first at_) (.choiceLeft negation),
    ?_, wrapped_nodes _ _ _, rfl, ?_, rule, same⟩
  · rw [Match.wrapped_rest]
    exact rest
  · simp [single]

end

/-! ### Chains of operands -/

/-- The characters that are set operators. -/
def isOperator (c : Char) : Bool := ',' == c || '|' == c

theorem operator_cases {c : Char} (operator : isOperator c = true) : c = ',' ∨ c = '|' := by
  have same : ',' = c ∨ '|' = c := by simpa [isOperator] using operator
  exact same.imp Eq.symm Eq.symm

/-- The node of an operator. -/
def operatorNode (at_ : Nat) (c : Char) : ParseNode :=
  ⟨"set_op", String.ofList [c], at_, at_ + Text.byteSize [c], []⟩

/-- Blanks, an operator, and what stands behind it. -/
def operatorMatch (at_ : Nat) (bs : List Char) (c : Char) (rest : List Char) : Match :=
  ⟨bs ++ [c], rest, [operatorNode (at_ + Text.byteSize bs) c]⟩

theorem reads_set_op {at_ : Nat} {r : Option Match} :
    Reads (queries v) (.expr (.call "set_op")) {} at_ cs r ↔
      r = (letterMatch isOperator cs).map (Match.wrapped {} "set_op" at_) := by
  have found : (queries v).find? "set_op" =
      some ⟨"set_op", .normal, .choice (.literal [',']) (.literal ['|'])⟩ := rfl
  rw [reads_call_normal found (by decide)]
  constructor
  · rintro ⟨x, body, rfl⟩
    rw [(reads_letter rfl).mp body]
    rfl
  · rintro rfl
    exact ⟨_, (reads_letter rfl).mpr rfl, rfl⟩

/-- A step is read behind an operator. -/
theorem reads_step {at_ : Nat} {bs rest : List Char} {c : Char} {r : Option Match}
    (blank : ∀ c ∈ bs, isBlank c = true) (operator : isOperator c = true)
    (operand : Reads (queries v) (.spaced (.call "operand")) {}
      (at_ + Text.byteSize (bs ++ [c])) rest r) :
    Reads (queries v) (.spaced step) {} at_ (bs ++ c :: rest)
      (r.map (operatorMatch at_ bs c rest).append) := by
  have other : isBlank c = false := by
    rcases operator_cases operator with rfl | rfl <;> rfl
  have sign : Reads (queries v) (.expr (.call "set_op")) {} (at_ + Text.byteSize bs) (c :: rest)
      (some (Match.wrapped {} "set_op" (at_ + Text.byteSize bs) ⟨[c], rest, []⟩)) :=
    reads_set_op.mpr (by simp [letterMatch, operator])
  refine (reads_behind_blanks (skips_blanks v) rfl blank (by simpa using other)).mpr
    ⟨_, .seq sign (r := r) ?_, ?_⟩
  · simpa [Text.byteSize_append, Nat.add_assoc] using operand
  · cases r with
    | none => rfl
    | some m => simp [operatorMatch, operatorNode, Match.append]

/-- What is read as a step is an operator and what is read behind it. -/
theorem step_parts {at_ : Nat} {m : Match}
    (h : Reads (queries v) (.spaced step) {} at_ cs (some m)) :
    ∃ bs c rest n, cs = bs ++ c :: rest ∧ (∀ c ∈ bs, isBlank c = true) ∧ isOperator c = true ∧
      Reads (queries v) (.spaced (.call "operand")) {} (at_ + Text.byteSize (bs ++ [c])) rest
        (some n) ∧ m = (operatorMatch at_ bs c rest).append n := by
  obtain ⟨k, body, rfl⟩ := (reads_spaced_some (skips_blanks v)).mp h
  obtain ⟨sign, n, left, right, rfl⟩ := reads_seq_some.mp body
  obtain ⟨l, found, rfl⟩ := Option.map_eq_some_iff.mp (reads_set_op.mp left).symm
  obtain ⟨c, rest, text, operator, rfl⟩ := letterMatch_eq_some found
  replace text : cs.dropWhile isBlank = c :: rest := text
  refine ⟨cs.takeWhile isBlank, c, rest, n, ?_, fun c mem => List.mem_takeWhile_imp mem, operator,
    ?_, ?_⟩
  · rw [← text, List.takeWhile_append_dropWhile]
  · simpa [skipMatch, spanMatch, Text.byteSize_append, Nat.add_assoc] using right
  · simp [operatorMatch, operatorNode, Match.append, skipMatch, spanMatch, Match.wrapped,
      Context.makesNodes]

theorem extends_operatorMatch {named : Bool} {u tail bs rest : List Char} {c : Char}
    (at_ at' : Nat) :
    (operatorMatch at_ bs c rest).Extends (setting named stop) edge u tail
      (operatorMatch at' bs c (rest ++ (u ++ tail))) := by
  refine ⟨[], u, rfl, ?_, rfl, fun _ => rfl, fun _ => rfl, fun _ => ?_, ?_, fun none => ?_⟩
  · simp [operatorMatch]
  · simp [operatorMatch, operatorNode, bare]
  · simp [operatorMatch, operatorNode, settled_mk]
  · simp [operatorMatch] at none

/-- In front of an operator a chain of operands goes on behind what it has been read to without the
operator. -/
theorem more_extends {u tail : List Char} (known : stop ∈ stops)
    (ends : tail.head? = some stop) {task : Task} {ctx : Context} {at_ : Nat} {r : Option Match}
    {m : Match} (h : Reads (queries v) task ctx at_ cs r) (asked : task = .more true step)
    (plain : ctx = {}) (matched : r = some m) (blank : ∀ c ∈ u, isBlank c = true)
    (through : ({} : Scan).through cs = some {}) (at' : Nat) :
    ∃ y, m.Extends (setting v.named stop) edge u tail y ∧
      ∀ k, Reads (queries v) (.more true step) {} (at' + Text.byteSize y.taken) y.rest (some k) →
        Reads (queries v) (.more true step) {} at' (cs ++ (u ++ tail)) (some (y.append k)) := by
  induction h generalizing u m at' with
  | moreDone _ _ =>
      obtain rfl := Option.some.inj matched
      exact ⟨_, Match.extends_longer rfl, fun k later => later⟩
  | @more skipping e ctx at_ cs first r round later _ ih =>
      obtain ⟨rfl, rfl⟩ : skipping = true ∧ e = step := by simpa using asked
      subst plain
      obtain ⟨last, rfl, rfl⟩ := Option.map_eq_some_iff.mp matched
      change Reads (queries v) (.spaced step) {} at_ cs (some first) at round
      have rest := Reads.rest_through (q := {}) (d := 0) round through
        (balanced (by simp [balancedTasks]) round)
      obtain ⟨bs, c, text, n, rfl, blank', operator, operand, rfl⟩ := step_parts round
      have behind : ({} : Scan).through text = some {} := by
        have unmarked : isMark c = false := by
          rcases operator_cases operator with rfl | rfl <;> rfl
        rw [Scan.through_append, through_blanks blank', Option.bind_some, Scan.through_cons,
          Scan.step_of_not_isMark rfl unmarked] at through
        exact through
      have right := setting_right v known
      obtain ⟨r', read, rel⟩ := (extends_operatorMatch at_ at').andThen (fitting blank ends) operand
        fun fit => operand.extends right (track_operand v.named known _ (by simp))
          (by simp [edge]) fit behind (at' + Text.byteSize (bs ++ [c]))
      obtain ⟨n', rfl, extended⟩ : ∃ n', r' = some n' ∧
          ((operatorMatch at_ bs c text).append n).Extends (setting v.named stop) edge u tail
            ((operatorMatch at' bs c (text ++ (u ++ tail))).append n') := by
        cases r' with
        | none => cases rel
        | some n' =>
            cases rel with
            | some extended => exact ⟨n', rfl, extended⟩
      have round' := reads_step blank' operator read
      obtain ⟨more, left, split, grown⟩ := id extended
      have blanks := (List.forall_mem_append.mp (split ▸ blank)).2
      obtain ⟨y, extended', goesOn⟩ := ih rfl rfl rfl blanks rest
        (at' + Text.byteSize ((operatorMatch at' bs c (text ++ (u ++ tail))).append n').taken)
      refine ⟨_, extended.append grown.rest extended' (later.taken_append_rest rfl), ?_⟩
      intro k behind
      rw [Match.append_assoc, List.append_assoc, List.cons_append]
      refine Reads.more round' (r := some (y.append k)) ?_
      rw [grown.rest]
      refine goesOn k ?_
      simpa [Text.byteSize_append, Nat.add_assoc] using behind
  | _ => cases asked

/-- Only blanks are no step. -/
theorem reads_more_of_blank {w : List Char} (blank : ∀ c ∈ w, isBlank c = true) (at_ : Nat) :
    Reads (queries v) (.more true step) {} at_ w (some (.empty w)) := by
  refine .moreDone ((reads_spaced_iff (skips_blanks v)).mpr ⟨none, ?_, rfl⟩)
  rw [skipMatch_of_blank blank]
  exact .seqFails (reads_set_op.mpr rfl)

/-! ### Combined queries -/

/-- A text with an operand up to blanks is read as a query. -/
theorem asks_of_operand {p : List Char} {m : Match} (blank : ∀ c ∈ p, isBlank c = true)
    (first : ∀ c, cs.head? = some c → isBlank c = false)
    (operand : Reads (queries v) (.expr (.call "operand")) {} (Text.byteSize p) cs (some m))
    (left : ∀ c ∈ m.rest, isBlank c = true) : Asks v (p ++ cs) m.nodes :=
  ⟨p, cs, rfl, blank, first,
    ⟨m, .empty m.rest, operand, reads_more_of_blank left _, left, by simp⟩⟩

section

variable {p p₀ p₁ p₂ p₃ : List Char} {nodes' : List ParseNode} {cs' : List Char}

/-- A query in brackets is a query. -/
theorem Asks.grouped (asks : Asks v cs nodes) (blank₀ : ∀ c ∈ p₀, isBlank c = true)
    (blank₁ : ∀ c ∈ p₁, isBlank c = true) (blank₂ : ∀ c ∈ p₂, isBlank c = true)
    (blank₃ : ∀ c ∈ p₃, isBlank c = true) :
    ∃ set, Asks v (p₀ ++ '(' :: (p₁ ++ (cs ++ (p₂ ++ ')' :: p₃)))) [set] ∧ set.rule = "set_expr" ∧
      settledAll blanks looseRules nodes = settledAll blanks looseRules set.children := by
  obtain ⟨m, set, operand, rest, single, rule, same⟩ :=
    asks.reads_operand blank₁ blank₂ blank₃ (Text.byteSize p₀)
  have whole := asks_of_operand blank₀ (by simp [blanks]) operand (by rwa [rest])
  exact ⟨set, single ▸ whole, rule, same⟩

/-- A query in brackets with a sign in front is a query. -/
theorem Asks.negated (asks : Asks v cs nodes) (blank : ∀ c ∈ p, isBlank c = true)
    (blank₀ : ∀ c ∈ p₀, isBlank c = true) (blank₁ : ∀ c ∈ p₁, isBlank c = true)
    (blank₂ : ∀ c ∈ p₂, isBlank c = true) (blank₃ : ∀ c ∈ p₃, isBlank c = true) :
    ∃ node set, Asks v (p ++ '-' :: (p₀ ++ '(' :: (p₁ ++ (cs ++ (p₂ ++ ')' :: p₃))))) [node] ∧
      node.rule = "negation" ∧ node.children = [set] ∧ set.rule = "set_expr" ∧
      settledAll blanks looseRules nodes = settledAll blanks looseRules set.children := by
  obtain ⟨m, node, set, operand, rest, single, negation, children, rule, same⟩ :=
    asks.reads_negation blank₀ blank₁ blank₂ p₃ (Text.byteSize p)
  have whole := asks_of_operand blank (by simp [blanks]) operand (by rwa [rest])
  exact ⟨node, set, single ▸ whole, negation, children, rule, same⟩

/-- An operator and a query in brackets behind it are a step. -/
theorem Asks.reads_last (asks : Asks v cs nodes) {c : Char} (operator : isOperator c = true)
    (blank : ∀ c ∈ p, isBlank c = true) (blank₀ : ∀ c ∈ p₀, isBlank c = true)
    (blank₁ : ∀ c ∈ p₁, isBlank c = true) (blank₂ : ∀ c ∈ p₂, isBlank c = true)
    (blank₃ : ∀ c ∈ p₃, isBlank c = true) (at_ : Nat) :
    ∃ k op set, Reads (queries v) (.more true step) {} at_
        (p ++ c :: (p₀ ++ '(' :: (p₁ ++ (cs ++ (p₂ ++ ')' :: p₃))))) (some k) ∧
      k.rest = p₃ ∧ k.nodes = [op, set] ∧ op.text = String.ofList [c] ∧ set.rule = "set_expr" ∧
      settledAll blanks looseRules nodes = settledAll blanks looseRules set.children := by
  obtain ⟨m, set, operand, rest, single, rule, same⟩ := asks.reads_operand blank₁ blank₂ blank₃
    (at_ + Text.byteSize (p ++ [c]) + Text.byteSize p₀)
  have spaced := (reads_behind_blanks (skips_blanks v) rfl blank₀ (by simp [blanks])).mpr
    ⟨_, operand, rfl⟩
  refine ⟨_, operatorNode (at_ + Text.byteSize p) c, set,
    .more (reads_step blank operator spaced) (r := some (.empty p₃)) ?_, rfl, ?_, rfl, rule, same⟩
  · simpa [operatorMatch, rest] using reads_more_of_blank blank₃ _
  · simp [operatorMatch, single]

/-- Behind a query, an operator and a query in brackets go on with it. -/
theorem Asks.joined (asks : Asks v cs nodes) (asks' : Asks v cs' nodes') {c : Char}
    (operator : isOperator c = true) (blank : ∀ c ∈ p, isBlank c = true)
    (blank₀ : ∀ c ∈ p₀, isBlank c = true) (blank₁ : ∀ c ∈ p₁, isBlank c = true)
    (blank₂ : ∀ c ∈ p₂, isBlank c = true) (blank₃ : ∀ c ∈ p₃, isBlank c = true) :
    ∃ again op set, Asks v (cs ++ (p ++ c :: (p₀ ++ '(' :: (p₁ ++ (cs' ++ (p₂ ++ ')' :: p₃))))))
        (again ++ [op, set]) ∧
      settledAll blanks looseRules nodes = settledAll blanks looseRules again ∧
      op.text = String.ofList [c] ∧ set.rule = "set_expr" ∧
      settledAll blanks looseRules nodes' = settledAll blanks looseRules set.children := by
  obtain ⟨before, body, rfl, leading, head, sets⟩ := asks.parts
  obtain ⟨first, later, operand, more, left, rfl⟩ := id sets.parts
  have known : c ∈ stops := by
    rcases operator_cases operator with rfl | rfl <;> simp [stops]
  have through := sets.through
  have ends : (c :: (p₀ ++ '(' :: (p₁ ++ (cs' ++ (p₂ ++ ')' :: p₃))))).head? = some c := rfl
  -- the first operand, and what is joined to it, are read in front of the operator
  obtain ⟨first', operand', extended⟩ := operand.extends_some (setting_right v known)
    (track_operand v.named known _ (by simp)) (by simp [edge]) (fitting blank ends) through
    (Text.byteSize before)
  obtain ⟨_, back, rfl, grown⟩ := id extended
  have back_blank := (List.forall_mem_append.mp blank).2
  have behind := Reads.rest_through (q := {}) (d := 0) operand through
    (balanced (by simp [balancedTasks]) operand)
  obtain ⟨later', extended', goesOn⟩ := more_extends known ends more rfl rfl rfl back_blank behind
    (Text.byteSize before + Text.byteSize first'.taken)
  obtain ⟨_, back', rfl, grown'⟩ := id extended'
  have back_blank' : ∀ c ∈ later.rest ++ back', isBlank c = true :=
    List.forall_mem_append.mpr ⟨left, (List.forall_mem_append.mp back_blank).2⟩
  -- the operator and the brackets are read behind them
  obtain ⟨k, op, set, last, rest, pair, text, rule, same⟩ := asks'.reads_last operator back_blank'
    blank₀ blank₁ blank₂ blank₃
    (Text.byteSize before + Text.byteSize first'.taken + Text.byteSize later'.taken)
  have goesOn := goesOn k (by rw [grown'.rest, ← List.append_assoc]; exact last)
  rw [← grown.rest] at goesOn
  obtain ⟨_, _, -, whole⟩ := extended.append grown.rest extended' (more.taken_append_rest rfl)
  refine ⟨first'.nodes ++ later'.nodes, op, set, ⟨before, _, List.append_assoc _ _ _, leading, ?_,
    ⟨first', later'.append k, operand', goesOn, ?_, ?_⟩⟩, whole.settled, text, rule, same⟩
  · rwa [List.head?_append_of_ne_nil _ sets.ne_nil]
  · rwa [Match.append_rest, rest]
  · rw [Match.append_nodes, pair, List.append_assoc]

end

end Dialect.Query
