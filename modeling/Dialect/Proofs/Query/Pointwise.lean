import Dialect.Proofs.Sequence
import Dialect.Query.Engine

/-!
Evaluation against a reference that looks at one entry at a time.

An expression is a tree over leaves: flags and comparisons. `Expr.Satisfies` says what the tree
means for one entry, with complement as "not" and the two set operators as "and" and "or".
Evaluating the tree over a whole dataset agrees with it at every position, goes through the leaves
from left to right, and stops behind the first that fails (`evaluateExpr_pointwise`).
-/

namespace Dialect.Query

/-- A text that is parsed is evaluated as its expression. -/
theorem Engine.evaluate_of_parse {engine : Engine} {text : String} {e : Expr}
    (parsed : engine.parse text = .ok e) :
    engine.evaluate text = engine.evaluateExpr e >>= fun s => pure (s.ids engine.dataset) := by
  have known : (Reported.ofExcept (engine.parse text)).result = .ok e := parsed
  rw [evaluate, Reported.bind_ok known]
  rfl

/-! ### Positions of entries -/

/-- The number of ids before an id: the position of its entry. -/
def rank (d : Dataset) (id : String) : Nat :=
  d.ids.countP fun other => compare other id = .lt

/-- In an increasing list the element at a place has exactly that many before it. -/
theorem countP_before {l : List String} (increasing : l.Pairwise fun a b => compare a b = .lt)
    {k : Nat} {x : String} (found : l[k]? = some x) :
    l.countP (fun y => compare y x = .lt) = k := by
  induction l generalizing k with
  | nil => simp at found
  | cons a rest ih =>
    have tail := List.pairwise_cons.mp increasing
    cases k with
    | zero =>
      simp only [List.getElem?_cons_zero, Option.some.injEq] at found
      subst found
      rw [List.countP_eq_zero]
      intro y mem
      rcases List.mem_cons.mp mem with rfl | mem
      · simp
      · have above : compare y a = .gt := Std.OrientedCmp.gt_iff_lt.mpr (tail.1 y mem)
        simp [above]
    | succ k =>
      rw [List.getElem?_cons_succ] at found
      have below := tail.1 x (List.mem_of_getElem? found)
      rw [List.countP_cons_of_pos (by simpa using below), ih tail.2 found]

theorem ids_increasing (d : Dataset) : d.ids.Pairwise fun a b => compare a b = .lt := by
  rw [Dataset.ids, SortedMap.keys, List.pairwise_map]
  exact d.records.increasing

/-- The entry at a position is the one whose id has that rank. -/
theorem getElem?_toList {d : Dataset} {k : Nat} {id : String} {record : Value} :
    d.toList[k]? = some (id, record) ↔ d.get? id = some record ∧ rank d id = k := by
  have placed {j : Nat} (found : d.toList[j]? = some (id, record)) : rank d id = j := by
    refine countP_before (ids_increasing d) ?_
    rw [Dataset.ids, SortedMap.keys, List.getElem?_map]
    exact congrArg (Option.map Prod.fst) found
  constructor
  · intro found
    exact ⟨SortedMap.get?_eq_some.mpr (List.mem_of_getElem? found), placed found⟩
  · rintro ⟨known, rfl⟩
    obtain ⟨j, found⟩ := List.mem_iff_getElem?.mp (SortedMap.get?_eq_some.mp known)
    rw [placed found]
    exact found

theorem mem_toList {d : Dataset} {id : String} {record : Value} :
    (id, record) ∈ d.toList ↔ d.get? id = some record :=
  SortedMap.get?_eq_some.symm

namespace Selection

theorem mem_positionsFrom {s : Selection} {n k : Nat} :
    k ∈ positionsFrom n s ↔ ∃ i, k = n + i ∧ s[i]? = some true := by
  induction s generalizing n with
  | nil => simp [positionsFrom]
  | cons b rest ih =>
    have later : (∃ i, k = n + 1 + i ∧ rest[i]? = some true) ↔
        ∃ i, k = n + (i + 1) ∧ (b :: rest)[i + 1]? = some true := by
      simp only [List.getElem?_cons_succ, Nat.add_assoc, Nat.add_comm 1]
    unfold positionsFrom
    cases b with
    | true =>
      rw [if_pos rfl, List.mem_cons, ih, later]
      constructor
      · rintro (rfl | ⟨i, at_, marked⟩)
        · exact ⟨0, rfl, rfl⟩
        · exact ⟨i + 1, at_, marked⟩
      · rintro ⟨i, at_, marked⟩
        cases i with
        | zero => exact .inl at_
        | succ i => exact .inr ⟨i, at_, marked⟩
    | false =>
      rw [if_neg (by decide), ih, later]
      constructor
      · rintro ⟨i, at_, marked⟩
        exact ⟨i + 1, at_, marked⟩
      · rintro ⟨i, at_, marked⟩
        cases i with
        | zero => simp at marked
        | succ i => exact ⟨i, at_, marked⟩

theorem mem_positions {s : Selection} {k : Nat} : k ∈ s.positions ↔ s[k]? = some true := by
  rw [positions, mem_positionsFrom]
  constructor
  · rintro ⟨i, rfl, marked⟩
    rwa [Nat.zero_add]
  · intro marked
    exact ⟨k, (Nat.zero_add k).symm, marked⟩

theorem positionsFrom_getElem? (before ids : List String) (s : Selection)
    (same : s.length = ids.length) :
    (positionsFrom before.length s).map ((before ++ ids)[·]?) =
      (((ids.zip s).filter (·.2)).map (·.1)).map some := by
  induction s generalizing before ids with
  | nil => simp [positionsFrom]
  | cons b rest ih =>
    cases ids with
    | nil => simp at same
    | cons id ids =>
      have step := ih (before ++ [id]) ids (by simpa using same)
      rw [List.length_append, List.length_singleton, List.append_assoc,
        List.singleton_append] at step
      cases b <;> simp [positionsFrom, step]

/-- Every position of a selection is that of an id, and the ids at the positions are the selected
ones. -/
theorem ids_at_positions {s : Selection} {d : Dataset} (same : s.length = d.size) :
    s.positions.map (d.ids[·]?) = (s.ids d).map some := by
  have lengths : s.length = d.ids.length := by
    rw [same, Dataset.ids, SortedMap.keys, List.length_map]
    rfl
  exact positionsFrom_getElem? [] d.ids s lengths

/-! ### Selections and the entries they mark -/

/-- The selection marks exactly the entries with a property. -/
def Marks (d : Dataset) (s : Selection) (P : String → Value → Prop) : Prop :=
  s.length = d.size ∧
    ∀ (k : Nat) (id : String) (record : Value), d.toList[k]? = some (id, record) →
      (s[k]? = some true ↔ P id record)

section Marks

variable {d : Dataset} {s t : Selection} {P Q : String → Value → Prop}

theorem Marks.complement (h : s.Marks d P) :
    s.complement.Marks d fun id record => ¬ P id record := by
  refine ⟨by rw [Selection.complement, List.length_map, h.1], ?_⟩
  intro k id record found
  have marked := h.2 k id record found
  change (s.complement[k]? = some true ↔ ¬ P id record)
  rw [getElem?_complement, ← marked]
  have inside : k < s.length := by
    rw [h.1]
    exact (List.getElem?_eq_some_iff.mp found).1
  rw [List.getElem?_eq_getElem inside]
  cases s[k] <;> simp

theorem Marks.inter (h : s.Marks d P) (h' : t.Marks d Q) :
    (s.inter t).Marks d fun id record => P id record ∧ Q id record := by
  refine ⟨by rw [Selection.inter, List.length_zipWith, h.1, h'.1, Nat.min_self], ?_⟩
  intro k id record found
  rw [getElem?_inter, h.2 k id record found, h'.2 k id record found]

theorem Marks.union (h : s.Marks d P) (h' : t.Marks d Q) :
    (s.union t).Marks d fun id record => P id record ∨ Q id record := by
  refine ⟨by rw [Selection.union, List.length_zipWith, h.1, h'.1, Nat.min_self], ?_⟩
  intro k id record found
  rw [getElem?_union (h.1.trans h'.1.symm), h.2 k id record found, h'.2 k id record found]

/-- Listing an id twice, or one that the dataset lacks, changes nothing. -/
theorem marks_ofIds (d : Dataset) (ids : List String) :
    (ofIds d ids).Marks d fun id _ => id ∈ ids := by
  constructor
  · rw [ofIds, List.length_map, Dataset.ids, SortedMap.keys, List.length_map]
    rfl
  · intro k id record found
    have here : d.ids[k]? = some id := by
      rw [Dataset.ids, SortedMap.keys, List.getElem?_map]
      exact congrArg (Option.map Prod.fst) found
    rw [ofIds, List.getElem?_map, here]
    simp

/-- The position of a marked entry is the rank of its id. -/
theorem Marks.mem_positions (h : s.Marks d P) {k : Nat} :
    k ∈ s.positions ↔
      k < d.size ∧ ∃ id record, d.get? id = some record ∧ rank d id = k ∧ P id record := by
  rw [Selection.mem_positions]
  constructor
  · intro marked
    have inside : k < d.size := by
      rw [← h.1]
      exact (List.getElem?_eq_some_iff.mp marked).1
    obtain ⟨⟨id, record⟩, found⟩ : ∃ entry, d.toList[k]? = some entry :=
      ⟨_, List.getElem?_eq_getElem inside⟩
    obtain ⟨known, place⟩ := getElem?_toList.mp found
    exact ⟨inside, _, _, known, place, (h.2 k _ _ found).mp marked⟩
  · rintro ⟨-, id, record, known, place, holds⟩
    exact (h.2 k id record (getElem?_toList.mpr ⟨known, place⟩)).mpr holds

end Marks

end Selection

/-! ### The reference -/

/-- The parts of an expression whose evaluation asks the vocabulary or reads the records. -/
inductive Leaf where
  | flag (node : ParseNode)
  | comparison (left : Feature) (comparator : Comparator) (right : Feature)

namespace Leaf

/-- The leaf holds for an entry: its id is among those that the flag stands for, or the comparator
holds between the values of the two features. -/
def Holds (engine : Engine) : Leaf → String → Value → Prop
  | .flag node, id, _ =>
    ∃ ids, (engine.vocabulary.resolveFlag node).result = .ok ids ∧ id ∈ ids
  | .comparison left c right, _, record =>
    ∃ a b, left.evaluate record = .ok a ∧ right.evaluate record = .ok b ∧ c.holds a b = .ok true

/-- The leaf cannot be evaluated: a flag fails by its own error, a comparison by the error for the
smallest id for which it fails. -/
def FailsWith (engine : Engine) : Leaf → Error → Prop
  | .flag node, fault => (engine.vocabulary.resolveFlag node).result = .error fault
  | .comparison left c right, fault =>
    ∃ id record cause, engine.dataset.get? id = some record ∧
      Engine.compare left c right record = .error cause ∧
      (∀ other r e, engine.dataset.get? other = some r →
        Engine.compare left c right r = .error e → compare id other ≠ .gt) ∧
      fault = .evaluation id cause

/-- What evaluating the leaf reports. -/
def diagnostics (engine : Engine) : Leaf → List Diagnostic
  | .flag node => (engine.vocabulary.resolveFlag node).diagnostics
  | .comparison _ _ _ => []

end Leaf

/-- The leaves from left to right. -/
def Expr.leaves : Expr → List Leaf
  | .negation e => e.leaves
  | .intersection left right => left.leaves ++ right.leaves
  | .union left right => left.leaves ++ right.leaves
  | .flag node => [.flag node]
  | .comparison left c right => [.comparison left c right]

/-- The expression holds for an entry. -/
def Expr.Satisfies (engine : Engine) : Expr → String → Value → Prop
  | .negation e, id, record => ¬ e.Satisfies engine id record
  | .intersection left right, id, record =>
    left.Satisfies engine id record ∧ right.Satisfies engine id record
  | .union left right, id, record =>
    left.Satisfies engine id record ∨ right.Satisfies engine id record
  | .flag node, id, record => (Leaf.flag node).Holds engine id record
  | .comparison left c right, id, record => (Leaf.comparison left c right).Holds engine id record

/-- An evaluation agrees with a list of leaves and a property of entries: either no leaf fails and
the entries with the property are marked, or it stops behind the first leaf that fails. -/
inductive Agrees (engine : Engine) (leaves : List Leaf) (P : String → Value → Prop)
    (r : Reported Selection) : Prop where
  | selected (s : Selection) (result : r.result = .ok s)
      (good : ∀ leaf ∈ leaves, ∀ fault, ¬ leaf.FailsWith engine fault)
      (reported : r.diagnostics = leaves.flatMap (Leaf.diagnostics engine))
      (marks : s.Marks engine.dataset P)
  | failed (before : List Leaf) (leaf : Leaf) (after : List Leaf) (fault : Error)
      (split : leaves = before ++ leaf :: after)
      (good : ∀ l ∈ before, ∀ e, ¬ l.FailsWith engine e) (fails : leaf.FailsWith engine fault)
      (result : r.result = .error fault)
      (reported : r.diagnostics = (before ++ [leaf]).flatMap (Leaf.diagnostics engine))

/-! ### One step for every kind of expression -/

section Steps

variable {engine : Engine} {leaves leaves' : List Leaf} {P Q R : String → Value → Prop}
  {x y : Reported Selection}

theorem agrees_complement (h : Agrees engine leaves P x) :
    Agrees engine leaves (fun id record => ¬ P id record)
      (x >>= fun s => pure s.complement) := by
  cases h with
  | selected s result good reported marks =>
      rw [Reported.bind_ok result]
      refine .selected s.complement rfl good ?_ marks.complement
      exact (List.append_nil _).trans reported
  | failed before leaf after fault split good fails result reported =>
      rw [Reported.bind_error result]
      exact .failed before leaf after fault split good fails rfl reported

/-- Two evaluations one after the other, joined by an operation on selections that means `R`. -/
theorem agrees_both (op : Selection → Selection → Selection)
    (means : ∀ {s t : Selection}, s.Marks engine.dataset P → t.Marks engine.dataset Q →
      (op s t).Marks engine.dataset R)
    (h : Agrees engine leaves P x) (h' : Agrees engine leaves' Q y) :
    Agrees engine (leaves ++ leaves') R (x >>= fun s => y >>= fun t => pure (op s t)) := by
  cases h with
  | failed before leaf after fault split good fails result reported =>
      rw [Reported.bind_error result]
      refine .failed before leaf (after ++ leaves') fault ?_ good fails rfl reported
      rw [split, List.append_assoc, List.cons_append]
  | selected s result good reported marks =>
      rw [Reported.bind_ok result]
      cases h' with
      | selected t result' good' reported' marks' =>
          rw [Reported.bind_ok result']
          refine .selected (op s t) rfl ?_ ?_ (means marks marks')
          · intro leaf mem
            rcases List.mem_append.mp mem with mem | mem
            · exact good leaf mem
            · exact good' leaf mem
          · rw [List.flatMap_append, ← reported, ← reported']
            exact congrArg (x.diagnostics ++ ·) (List.append_nil y.diagnostics)
      | failed before leaf after fault split good' fails result' reported' =>
          rw [Reported.bind_error result']
          refine .failed (leaves ++ before) leaf after fault ?_ ?_ fails rfl ?_
          · rw [split, List.append_assoc]
          · intro l mem
            rcases List.mem_append.mp mem with mem | mem
            · exact good l mem
            · exact good' l mem
          · rw [List.append_assoc, List.flatMap_append, ← reported, ← reported']

theorem agrees_flag (engine : Engine) (node : ParseNode) :
    Agrees engine [.flag node] ((Leaf.flag node).Holds engine)
      (engine.evaluateExpr (.flag node)) := by
  have unfolded : engine.evaluateExpr (.flag node) =
      (engine.vocabulary.resolveFlag node >>= fun ids =>
        pure (Selection.ofIds engine.dataset ids)) := rfl
  rw [unfolded]
  cases result : (engine.vocabulary.resolveFlag node).result with
  | error fault =>
      rw [Reported.bind_error result]
      refine .failed [] (.flag node) [] fault rfl (by simp) result rfl ?_
      simp [Leaf.diagnostics]
  | ok ids =>
      rw [Reported.bind_ok result]
      refine .selected (Selection.ofIds engine.dataset ids) rfl ?_ ?_ ?_
      · intro leaf mem fault fails
        rw [List.mem_singleton.mp mem, Leaf.FailsWith, result] at fails
        cases fails
      · simp [Leaf.diagnostics, pure, Reported.ok]
      · have means : (fun (id : String) (_ : Value) => id ∈ ids) =
            (Leaf.flag node).Holds engine := by
          funext id record
          rw [Leaf.Holds, result]
          simp
        rw [← means]
        exact Selection.marks_ofIds engine.dataset ids

theorem compare_eq_true {left right : Feature} {c : Comparator} {record : Value} :
    Engine.compare left c right record = .ok true ↔
      ∃ a b, left.evaluate record = .ok a ∧ right.evaluate record = .ok b ∧
        c.holds a b = .ok true := by
  rw [Engine.compare, bind_eq_ok]
  constructor
  · rintro ⟨a, evalLeft, h⟩
    obtain ⟨b, evalRight, holds⟩ := bind_eq_ok.mp h
    exact ⟨a, b, evalLeft, evalRight, holds⟩
  · rintro ⟨a, b, evalLeft, evalRight, holds⟩
    exact ⟨a, evalLeft, bind_eq_ok.mpr ⟨b, evalRight, holds⟩⟩

theorem compareEntry_ok {left right : Feature} {c : Comparator} {entry : String × Value}
    {b : Bool} :
    Engine.compareEntry left c right entry = .ok b ↔
      Engine.compare left c right entry.2 = .ok b := by
  rw [Engine.compareEntry]
  cases Engine.compare left c right entry.2 <;> simp [Except.mapError]

theorem compareEntry_error {left right : Feature} {c : Comparator} {entry : String × Value}
    {fault : Error} :
    Engine.compareEntry left c right entry = .error fault ↔
      ∃ cause, Engine.compare left c right entry.2 = .error cause ∧
        fault = .evaluation entry.1 cause := by
  rw [Engine.compareEntry]
  cases Engine.compare left c right entry.2 <;> simp [Except.mapError, eq_comm]

/-- The first entry for which a comparison fails has the smallest id of all those. -/
theorem failsWith_of_first {left right : Feature} {c : Comparator}
    {before after : List (String × Value)} {entry : String × Value} {fault : Error}
    (split : engine.dataset.toList = before ++ entry :: after)
    (good : ∀ x ∈ before, ∃ b, Engine.compareEntry left c right x = .ok b)
    (fails : Engine.compareEntry left c right entry = .error fault) :
    (Leaf.comparison left c right).FailsWith engine fault := by
  obtain ⟨cause, compared, rfl⟩ := compareEntry_error.mp fails
  have listed : entry ∈ engine.dataset.toList := by simp [split]
  refine ⟨entry.1, entry.2, cause, mem_toList.mp listed, compared, ?_, rfl⟩
  intro other r e known compared'
  have increasing := engine.dataset.records.increasing
  have placed : (other, r) ∈ before ++ entry :: after := split ▸ mem_toList.mpr known
  rcases List.mem_append.mp placed with mem | mem
  · obtain ⟨b, fine⟩ := good _ mem
    rw [compareEntry_ok.mp fine] at compared'
    cases compared'
  · rcases List.mem_cons.mp mem with same | mem
    · simp [← same]
    · rw [show engine.dataset.records.toList = before ++ entry :: after from split] at increasing
      have below := (List.pairwise_cons.mp (List.pairwise_append.mp increasing).2.1).1 _ mem
      simp [below]

theorem agrees_comparison (engine : Engine) (left right : Feature) (c : Comparator) :
    Agrees engine [.comparison left c right] ((Leaf.comparison left c right).Holds engine)
      (engine.evaluateExpr (.comparison left c right)) := by
  have unfolded : engine.evaluateExpr (.comparison left c right) =
      .ofExcept (engine.dataset.toList.mapM (Engine.compareEntry left c right)) := rfl
  rw [unfolded]
  cases result : engine.dataset.toList.mapM (Engine.compareEntry left c right) with
  | error fault =>
      obtain ⟨before, entry, after, split, good, fails⟩ := mapM_eq_error.mp result
      exact .failed [] _ [] fault rfl (by simp) (failsWith_of_first split good fails) rfl rfl
  | ok s =>
      have each := mapM_eq_ok.mp result
      refine .selected s rfl ?_ rfl ⟨each.length_eq.symm, ?_⟩
      · intro leaf mem fault fails
        rw [List.mem_singleton.mp mem] at fails
        obtain ⟨id, record, cause, known, compared, -, -⟩ := fails
        obtain ⟨k, found⟩ := List.mem_iff_getElem?.mp (mem_toList.mpr known)
        obtain ⟨inside, at_⟩ := List.getElem?_eq_some_iff.mp found
        have fine := each.get inside (each.length_eq ▸ inside)
        rw [List.get_eq_getElem, at_] at fine
        rw [compareEntry_ok.mp fine] at compared
        cases compared
      · intro k id record found
        obtain ⟨inside, at_⟩ := List.getElem?_eq_some_iff.mp found
        have inside' : k < s.length := each.length_eq ▸ inside
        have fine := each.get inside inside'
        rw [List.get_eq_getElem, at_] at fine
        rw [List.getElem?_eq_getElem inside', Leaf.Holds, ← compare_eq_true,
          compareEntry_ok.mp fine]
        simp

end Steps

/-- Every evaluation agrees with the leaves and the meaning of its expression. -/
theorem evaluateExpr_agrees (engine : Engine) (e : Expr) :
    Agrees engine e.leaves (e.Satisfies engine) (engine.evaluateExpr e) := by
  induction e with
  | negation e ih => exact agrees_complement ih
  | intersection left right ihLeft ihRight =>
      exact agrees_both Selection.inter Selection.Marks.inter ihLeft ihRight
  | union left right ihLeft ihRight =>
      exact agrees_both Selection.union Selection.Marks.union ihLeft ihRight
  | flag node => exact agrees_flag engine node
  | comparison left c right => exact agrees_comparison engine left right c

/-- Evaluation means what the reference says. Either no leaf fails: then everything that the leaves
report is reported from left to right, the positions selected are the ranks of the ids whose
entries satisfy the expression, and looking the positions up among the ids gives the selected ids.
Or there is a first leaf that fails: then its error is the outcome, and what the leaves up to it
report is reported. -/
theorem evaluateExpr_pointwise (engine : Engine) (e : Expr) :
    (∃ s, (engine.evaluateExpr e).result = .ok s ∧
      (∀ leaf ∈ e.leaves, ∀ fault, ¬ leaf.FailsWith engine fault) ∧
      (engine.evaluateExpr e).diagnostics = e.leaves.flatMap (Leaf.diagnostics engine) ∧
      (∀ k, k ∈ s.positions ↔ k < engine.dataset.size ∧
        ∃ id record, engine.dataset.get? id = some record ∧ rank engine.dataset id = k ∧
          e.Satisfies engine id record) ∧
      s.positions.map (engine.dataset.ids[·]?) = (s.ids engine.dataset).map some) ∨
    (∃ before leaf after fault, e.leaves = before ++ leaf :: after ∧
      (∀ l ∈ before, ∀ e, ¬ l.FailsWith engine e) ∧ leaf.FailsWith engine fault ∧
      (engine.evaluateExpr e).result = .error fault ∧
      (engine.evaluateExpr e).diagnostics =
        (before ++ [leaf]).flatMap (Leaf.diagnostics engine)) := by
  cases evaluateExpr_agrees engine e with
  | selected s result good reported marks =>
      refine .inl ⟨s, result, good, reported, ?_, Selection.ids_at_positions marks.1⟩
      intro k
      exact marks.mem_positions
  | failed before leaf after fault split good fails result reported =>
      exact .inr ⟨before, leaf, after, fault, split, good, fails, result, reported⟩

end Dialect.Query
