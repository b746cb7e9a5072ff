import Dialect.Feature.Basic
import Dialect.ParseNode

/-!
Query expressions: which entries a query selects.
-/

namespace Dialect.Query

/-- A query. Flags are left to an embedding, so they stay parse nodes. -/
inductive Expr where
  | negation (e : Expr)
  | intersection (left right : Expr)
  | union (left right : Expr)
  | flag (node : ParseNode)
  | comparison (left : Feature) (comparator : Comparator) (right : Feature)
  deriving Repr

instance : Inhabited Expr := ⟨.flag default⟩

end Dialect.Query
