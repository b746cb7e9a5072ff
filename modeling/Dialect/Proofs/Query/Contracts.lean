import Dialect.Proofs.Grammar.Extension
import Dialect.Proofs.Query.Rules

/-!
Steps and brackets of queries.

An operand is read in the same way in front of a set operator, and a set expression in front of a
closing bracket, because none of the characters that may follow goes on with it. The contracts of
the rules say so rule by rule.
-/

namespace Dialect.Query

open Grammar

/-- The rules of queries from the bottom up. -/
def ranking : Ranking where
  order := ["WHITESPACE", "field_name", "field", "number", "string_body", "string", "extremum_name",
    "extremum", "story_feature", "feature_atom", "power_op", "feature_power", "scale_op",
    "feature_product", "shift_op", "feature_sum", "comparator", "comparison", "quoted_body",
    "quoted_pattern", "bare_pattern", "pattern", "category", "flag", "grouped", "negation",
    "operand", "set_op", "set_expr", "query"]
  movers := ["WHITESPACE", "field_name", "field", "number", "string", "extremum_name", "extremum",
    "story_feature", "feature_atom", "power_op", "feature_power", "scale_op", "feature_product",
    "shift_op", "feature_sum", "comparator", "comparison", "quoted_pattern", "bare_pattern",
    "pattern", "category", "flag", "grouped", "negation", "operand", "set_op", "set_expr", "query"]

theorem ranking_fits (v : Variant) : ranking.Fits (queries v) := by
  obtain ⟨named, flags, features⟩ := v
  cases named <;> cases flags <;> cases features <;> decide +kernel

/-- The rules between whose tokens blanks are skipped, below set expressions. -/
def spreadRules : List String :=
  ["operand", "negation", "grouped", "comparison", "feature_sum", "feature_product",
    "feature_power", "feature_atom", "extremum", "flag", "pattern"]

/-- The rules of tokens. -/
def tokenRules (named : Bool) : List String :=
  ["comparator", "shift_op", "scale_op", "power_op", "extremum_name", "field", "number", "string",
    "category", "quoted_pattern"] ++ if named then ["story_feature"] else []

/-- The contracts of the rules below set expressions, at the end of a text or inside of it. -/
def contractsBelow (named edge : Bool) : List Contract :=
  (spreadRules.map fun name => ⟨name, .outside, ⟨false, edge, false⟩, false⟩)
  ++ (tokenRules named).map (fun name => ⟨name, .outside, ⟨true, edge, edge⟩, true⟩)
  ++ [⟨"field_name", .outside, ⟨true, edge, edge⟩, false⟩,
    ⟨"bare_pattern", .outside, ⟨true, edge, false⟩, true⟩,
    ⟨"string_body", .quoted, ⟨true, edge, edge⟩, true⟩,
    ⟨"quoted_body", .quoted, ⟨true, edge, edge⟩, true⟩]

/-- The contracts of set expressions and their operators. -/
def contractsAbove (edge : Bool) : List Contract :=
  [⟨"set_expr", .outside, ⟨false, edge, false⟩, false⟩,
    ⟨"set_op", .outside, ⟨false, edge, false⟩, false⟩]

/-- What is skipped between tokens. -/
def blanks : List Char := [' ', '\t', '\r', '\n']

/-- The character is skipped between tokens. -/
abbrev isBlank (c : Char) : Bool := blanks.contains c

/-- The rules whose texts may have blanks at the end. -/
def looseRules : List String :=
  ["set_expr", "operand", "negation", "comparison", "feature_sum", "feature_product",
    "feature_power", "feature_atom", "flag", "pattern", "bare_pattern"]

/-- What the rules of queries do to a scan, with a character that ends a text. Only operands end in
front of a set operator. -/
def setting (named : Bool) (stop : Char) : Setting where
  blanks := blanks
  stop := stop
  ranking := ranking
  contracts := contractsBelow named false ++ contractsAbove false ++ contractsBelow named true
    ++ if stop = ')' then contractsAbove true else []
  loose := looseRules

/-- The characters that end a text: set operators, and a closing bracket. -/
def stops : List Char := [',', '|', ')']

theorem skips_blanks (v : Variant) : SkipsBlanks (queries v) isBlank := by
  refine ⟨_, rfl, congrArg some (funext fun c => ?_)⟩
  simp [blanks, Bool.beq_comm, beq_eq_decide]

theorem blank_cases {c : Char} (blank : isBlank c = true) :
    c = ' ' ∨ c = '\t' ∨ c = '\r' ∨ c = '\n' := by
  simpa [blanks] using blank

theorem stop_cases {stop : Char} (mem : stop ∈ stops) : stop = ',' ∨ stop = '|' ∨ stop = ')' := by
  simpa [stops] using mem

theorem setting_right (v : Variant) {stop : Char} (mem : stop ∈ stops) :
    (setting v.named stop).Right (queries v) where
  fits := ranking_fits v
  blanks := skips_blanks v
  plain := by
    intro c mem
    rcases blank_cases (List.contains_iff_mem.mpr mem) with rfl | rfl | rfl | rfl <;> rfl
  stop := by rcases stop_cases mem with rfl | rfl | rfl <;> rfl
  contracts := by
    have checked : (stops.all fun stop =>
        (setting v.named stop).contracts.all ((setting v.named stop).checks (queries v))) =
          true := by
      obtain ⟨named, flags, features⟩ := v
      cases named <;> cases flags <;> cases features <;> decide +kernel
    have right := List.all_eq_true.mp (List.all_eq_true.mp checked stop mem)
    exact fun c held => Setting.keeps_of_checks (right c held)

end Dialect.Query
