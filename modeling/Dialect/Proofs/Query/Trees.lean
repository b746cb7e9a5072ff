import Dialect.Proofs.Grammar.Calls
import Dialect.Proofs.Query.Algebra

/-!
Trees of queries and the leaves of their expressions.

The rules of queries fall into those of flags, those of comparisons, and those that combine
operands. What holds of the leaves that the nodes in a tree are built to holds of all leaves of the
expression (`leaves_of_operand`), since combining operands brings in no others.
-/

namespace Dialect.Query

open Grammar

/-! ### The rules -/

/-- The rules of comparisons. -/
def comparisonRules (named : Bool) : List String :=
  ["comparison", "comparator", "feature_sum", "shift_op", "feature_product", "scale_op",
    "feature_power", "power_op", "feature_atom", "extremum", "extremum_name", "field",
    "field_name", "number", "string", "string_body"] ++ if named then ["story_feature"] else []

/-- The rules of flags. -/
def flagRules : List String :=
  ["flag", "category", "pattern", "bare_pattern", "quoted_pattern", "quoted_body"]

/-- The rules that combine operands. -/
def setRules : List String := ["query", "set_expr", "set_op", "operand", "negation", "grouped"]

/-- The rules that are called under a profile. -/
def calledRules (v : Variant) : List String :=
  setRules ++ (if v.flags then flagRules else [])
    ++ if v.features then comparisonRules v.named else []

/-- Flags and comparisons call rules of their own only, as does all that is called under a
profile. -/
theorem closed_rules (v : Variant) : (queries v).Closed flagRules ∧
    (queries v).Closed (comparisonRules v.named) ∧ (queries v).Closed (calledRules v) := by
  obtain ⟨named, flags, features⟩ := v
  cases named <;> cases flags <;> cases features <;> decide +kernel

/-- The rule for blanks calls nothing. -/
theorem closed_behind_blanks {v : Variant} {rules : List String}
    (closed : (queries v).Closed rules) : (queries v).Closed ("WHITESPACE" :: rules) := by
  refine .of_parts fun name mem => ?_
  rcases List.mem_cons.mp mem with rfl | mem
  · refine ⟨["WHITESPACE"], List.mem_cons_self, by simp, fun name mem => ?_⟩
    obtain rfl := List.mem_singleton.mp mem
    rfl
  · exact ⟨rules, mem, List.subset_cons_self _ _, closed⟩

theorem find?_quoted_pattern (v : Variant) : (queries v).find? "quoted_pattern" =
    some ⟨"quoted_pattern", .compound,
      .seq (.literal ['"']) (.seq (.call "quoted_body") (.literal ['"']))⟩ := rfl

theorem find?_quoted_body (v : Variant) :
    (queries v).find? "quoted_body" = some ⟨"quoted_body", .atomic, quotedBody⟩ := rfl

/-! ### Leaves -/

/-- All leaves of the expression have a property. -/
def Expr.Consists (Q : Leaf → Prop) (e : Expr) : Prop := ∀ leaf ∈ e.leaves, Q leaf

section

variable {Q : Leaf → Prop} {vocabulary : Vocabulary}

theorem consists_both {e f joined : Expr} (first : e.Consists Q) (second : f.Consists Q)
    (same : joined.leaves = e.leaves ++ f.leaves) : joined.Consists Q := by
  unfold Expr.Consists
  rw [same]
  exact List.forall_mem_append.mpr ⟨first, second⟩

/-- Joining operands brings in no other leaves. -/
theorem leaves_of_join : ∀ nodes : List ParseNode,
    (∀ n ∈ nodes, ∀ e, operandOf vocabulary n = .ok e → e.Consists Q) → ∀ {e f : Expr},
      e.Consists Q → joinOperands vocabulary e nodes = .ok f → f.Consists Q
  | [], _, e, f, first, joined => by
      obtain rfl : e = f := by simpa [joinOperands] using joined
      exact first
  | [_], _, _, _, _, joined => by cases joined
  | op :: operand :: rest, operands, e, f, first, joined => by
      rw [joinOperands] at joined
      obtain ⟨second, made, joined⟩ := bind_eq_ok.mp joined
      obtain ⟨both, sets, later⟩ := bind_eq_ok.mp joined
      have known := operands operand (by simp) second made
      refine leaves_of_join rest (fun n mem => operands n (by simp [mem])) ?_ later
      unfold joinSets at sets
      split at sets
      · obtain rfl := Except.ok.inj sets
        exact consists_both first known rfl
      · split at sets
        · obtain rfl := Except.ok.inj sets
          exact consists_both first known rfl
        · cases sets

variable {nodes : List ParseNode}

theorem leaves_of_set (operands : ∀ n ∈ nodes, ∀ e, operandOf vocabulary n = .ok e → e.Consists Q)
    {e : Expr} (made : setOf vocabulary nodes = .ok e) : e.Consists Q := by
  cases nodes with
  | nil => cases made
  | cons n rest =>
      rw [setOf] at made
      obtain ⟨first, operand, joined⟩ := bind_eq_ok.mp made
      obtain ⟨known, others⟩ := List.forall_mem_cons.mp operands
      exact leaves_of_join rest others (known first operand) joined

/-- An operand has the leaves of the nodes inside, or is a leaf that its rule is for. -/
theorem leaves_of_operand {node : ParseNode}
    (operands : ∀ n ∈ node.children, ∀ e, operandOf vocabulary n = .ok e → e.Consists Q)
    (flag : node.rule = "flag" → Q (.flag node))
    (comparison : node.rule = "comparison" → ∀ l c r, Q (.comparison l c r))
    {e : Expr} (made : operandOf vocabulary node = .ok e) : e.Consists Q := by
  obtain ⟨name, text, start, stop, nodes⟩ := node
  unfold operandOf at made
  split at made
  · exact leaves_of_set operands made
  split at made
  · match nodes with
    | [child] =>
        obtain ⟨inner, operand, rfl⟩ := map_eq_ok.mp made
        exact operands child (by simp) inner operand
    | [] | _ :: _ :: _ => cases made
  split at made
  · rename_i named
    obtain rfl := Except.ok.inj made
    simpa [Expr.Consists, Expr.leaves] using flag (eq_of_beq named)
  split at made
  · rename_i named
    match nodes with
    | [left, comparator, right] =>
        obtain ⟨l, -, made⟩ := bind_eq_ok.mp made
        obtain ⟨c, -, made⟩ := bind_eq_ok.mp made
        obtain ⟨r, -, made⟩ := bind_eq_ok.mp made
        obtain rfl := Except.ok.inj made
        simpa [Expr.Consists, Expr.leaves] using comparison (eq_of_beq named) l c r
    | [] | [_] | [_, _] | _ :: _ :: _ :: _ :: _ => cases made
  · cases made

/-- The mark of the end of a text is no operand. -/
theorem operandOf_end {node : ParseNode} (ended : node.rule = "EOI") {e : Expr} :
    operandOf vocabulary node ≠ .ok e := by
  obtain ⟨rule, text, start, stop, children⟩ := node
  obtain rfl : rule = "EOI" := ended
  unfold operandOf
  simp [Error.malformed]

end

end Dialect.Query
