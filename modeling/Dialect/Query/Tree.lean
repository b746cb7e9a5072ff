import Dialect.Decimal.Reader
import Dialect.Path.Reader
import Dialect.Query.Expr
import Dialect.Query.Vocabulary
import Dialect.Text.Quoted

/-!
From parse trees to query expressions.

Sums, products and powers all group to the left, and so do the set operators. Nodes of other rules
than the dialect's own are offered to the vocabulary as features.
-/

namespace Dialect

/-- The text that a quoted literal denotes. -/
def unquote (literal : String) : Except Error String :=
  match Text.Quoted.decode literal.toList with
  | some text => .ok (String.ofList text)
  | none => .error (.parse (.badLiteral literal))

namespace Query

/-- The number that a literal denotes. -/
def numberOf (text : String) : Except Error Feature :=
  match Decimal.readFloat text with
  | .ok x => .ok (.number x)
  | .error fault => .error (.malformed "number" (text ++ ": " ++ fault.message))

/-- The operator that a node names. -/
def operatorOf (node : ParseNode) : Except Error Operator :=
  match Operator.ofSymbol? node.text with
  | some op => .ok op
  | none => .error (.malformed "operator" node.text)

/-- The comparator that a node names. -/
def comparatorOf (node : ParseNode) : Except Error Comparator :=
  match Comparator.ofSymbol? node.text with
  | some c => .ok c
  | none => .error (.malformed "comparator" node.text)

/-- The side that a node names. -/
def extremeOf (node : ParseNode) : Except Error Extreme :=
  match Extreme.ofWord? node.text with
  | some side => .ok side
  | none => .error (.malformed "extremum_name" node.text)

/-- The feature of a node that only the vocabulary may know. -/
def foreignFeature (v : Vocabulary) (node : ParseNode) : Except Error Feature := do
  match ← v.feature node with
  | some f => pure f
  | none => .error (.malformed node.rule "unknown feature rule")

/-- The rules of operands joined by operators. -/
def isChainRule (rule : String) : Bool :=
  rule == "feature_sum" || rule == "feature_product" || rule == "feature_power"

mutual

/-- The feature of a node. -/
def featureOf (v : Vocabulary) : ParseNode → Except Error Feature
  | ⟨rule, text, start, stop, children⟩ =>
    if isChainRule rule then
      match children with
      | [] => .error (.malformed rule "no operand")
      | first :: rest => do
        let f ← featureOf v first
        chain v rule f rest
    else if rule == "extremum" then
      match children with
      | [] => .error (.malformed "extremum" text)
      | name :: arguments => do
        let arguments ← featuresOf v arguments
        let side ← extremeOf name
        pure (.extremum side arguments)
    else if rule == "field" then (FieldPath.read text).map Feature.field
    else if rule == "number" then numberOf text
    else if rule == "string" then (unquote text).map Feature.text
    else foreignFeature v ⟨rule, text, start, stop, children⟩

/-- A feature joined with the operands that follow it, each behind its operator. -/
def chain (v : Vocabulary) (rule : String) : Feature → List ParseNode → Except Error Feature
  | f, [] => .ok f
  | _, [_] => .error (.malformed rule "dangling operator")
  | f, op :: operand :: rest => do
    let op ← operatorOf op
    let g ← featureOf v operand
    chain v rule (.binary op f g) rest

/-- The features of nodes, from left to right. -/
def featuresOf (v : Vocabulary) : List ParseNode → Except Error (List Feature)
  | [] => .ok []
  | node :: rest => do
    let f ← featureOf v node
    let fs ← featuresOf v rest
    pure (f :: fs)

end

/-- Joins two expressions by the set operator that a node names. -/
def joinSets (op : ParseNode) (left right : Expr) : Except Error Expr :=
  if op.text == "," then .ok (.intersection left right)
  else if op.text == "|" then .ok (.union left right)
  else .error (.malformed "set_op" op.text)

/-- The comparison of the nodes inside one. -/
def comparisonOf (v : Vocabulary) (text : String) : List ParseNode → Except Error Expr
  | [left, comparator, right] => do
    let l ← featureOf v left
    let c ← comparatorOf comparator
    let r ← featureOf v right
    pure (.comparison l c r)
  | _ => .error (.malformed "comparison" text)

mutual

/-- The expression of an operand. -/
def operandOf (v : Vocabulary) : ParseNode → Except Error Expr
  | ⟨rule, text, start, stop, children⟩ =>
    if rule == "set_expr" then setOf v children
    else if rule == "negation" then
      match children with
      | [child] => (operandOf v child).map Expr.negation
      | _ => .error (.parse (.notSingle rule children.length))
    else if rule == "flag" then .ok (.flag ⟨rule, text, start, stop, children⟩)
    else if rule == "comparison" then comparisonOf v text children
    else .error (.malformed rule text)

/-- The expression of the nodes inside a set expression. -/
def setOf (v : Vocabulary) : List ParseNode → Except Error Expr
  | [] => .error (.malformed "set_expr" "no operand")
  | first :: rest => do
    let e ← operandOf v first
    joinOperands v e rest

/-- An expression joined with the operands that follow it, each behind its set operator. -/
def joinOperands (v : Vocabulary) : Expr → List ParseNode → Except Error Expr
  | e, [] => .ok e
  | _, [_] => .error (.malformed "set_expr" "dangling set operator")
  | e, op :: operand :: rest => do
    let f ← operandOf v operand
    let joined ← joinSets op e f
    joinOperands v joined rest

end

/-- The expression of the nodes at the top of a parse tree. -/
def exprOf (v : Vocabulary) (nodes : List ParseNode) : Except Error Expr :=
  match nodes.find? fun n => n.is "query" with
  | none => .error (.malformed "query" "no query node")
  | some root =>
    match root.child? "set_expr" with
    | none => .error (.malformed "query" "empty query")
    | some body => setOf v body.children

end Query

end Dialect
