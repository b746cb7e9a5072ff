import Dialect.Diagnostic
import Dialect.Feature.Basic
import Dialect.Grammar.Skeleton
import Dialect.ParseNode

/-!
What an embedding contributes to queries.
-/

namespace Dialect.Query

/-- An embedding of the query dialect. -/
structure Vocabulary where
  /-- Which of flags and features the vocabulary can serve. -/
  capabilities : Capabilities
  /-- Its grammar. -/
  fragments : Fragments
  /-- The ids that a flag selects. A look-up that finds nothing is reported and gives no ids. -/
  resolveFlag : ParseNode → Reported (List String) := fun flag =>
    .fail (.vocabulary ("flag '" ++ flag.text ++ "' is not supported"))
  /-- The feature of a node that one of the vocabulary's own rules made; none for other nodes. -/
  feature : ParseNode → Except Error (Option Feature) := fun _ => .ok none

end Dialect.Query
