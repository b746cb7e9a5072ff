import Dialect.Error

/-!
Parse trees, and what makes them.

Engines see only trees of nodes, so anything that turns a text into nodes can serve as their parser.
-/

namespace Dialect

/-- A node of a parse tree: the rule that made it, the text it spans with its byte offsets, and the
nodes inside. -/
structure ParseNode where
  rule : String
  text : String
  start : Nat := 0
  stop : Nat := 0
  children : List ParseNode := []
  deriving Repr

instance : Inhabited ParseNode := ⟨⟨"", "", 0, 0, []⟩⟩

namespace ParseNode

/-- The node was made by the rule. -/
def is (node : ParseNode) (rule : String) : Bool := node.rule == rule

/-- The first child made by the rule. -/
def child? (node : ParseNode) (rule : String) : Option ParseNode :=
  node.children.find? fun c => c.is rule

/-- The single child of a node that wraps another. -/
def onlyChild (node : ParseNode) : Except Error ParseNode :=
  match node.children with
  | [child] => .ok child
  | children => .error (.parse (.notSingle node.rule children.length))

end ParseNode

/-- Anything that turns a text into the nodes at the top of its parse tree. -/
abbrev Parser := String → Except Error (List ParseNode)

end Dialect
