import Dialect.Query.Selection
import Dialect.Query.Skeleton
import Dialect.Query.Tree
import Dialect.Settings.Basic
import Dialect.Word

/-!
The query engine: a dataset, a vocabulary and a parser.

Evaluation goes through the leaves of an expression from left to right and stops at the first that
fails. A flag selects the entries whose ids its vocabulary gives; ids that the dataset lacks have no
effect. A comparison is evaluated for every entry in the order of the ids, and its error names the
first entry for which it fails.
-/

namespace Dialect.Query

/-- A query engine. -/
structure Engine where
  dataset : Dataset
  vocabulary : Vocabulary
  parser : Parser

namespace Engine

/-- The grammar of a vocabulary under what both it and the profile enable. -/
def grammarOf (v : Vocabulary) (capabilities : Capabilities) : Except Error ComposedGrammar :=
  skeleton.compose (capabilities.inter v.capabilities) v.fragments

/-- An engine with a parser of its own. Positions must fit in words of 32 bits. -/
def ofParts (d : Dataset) (v : Vocabulary) (parser : Parser) : Except Error Engine :=
  if d.size < Word.count32 then .ok ⟨d, v, parser⟩ else .error (.config (.datasetSize d.size))

/-- An engine that offers what both its vocabulary and the profile enable. -/
def withCapabilities (d : Dataset) (v : Vocabulary) (capabilities : Capabilities) :
    Except Error Engine := do
  let grammar ← grammarOf v capabilities
  ofParts d v grammar.parser

/-- An engine that offers all that its vocabulary enables. -/
def new (d : Dataset) (v : Vocabulary) : Except Error Engine :=
  withCapabilities d v v.capabilities

/-- An engine under the profile that settings ask for. -/
def withSettings (d : Dataset) (v : Vocabulary) (settings : Settings.Query) :
    Except Error Engine :=
  withCapabilities d v { flags := settings.flags, features := settings.features }

/-- The ids of all entries. -/
def allIds (engine : Engine) : List String := engine.dataset.ids

/-- The expression of a query. -/
def parse (engine : Engine) (query : String) : Except Error Expr := do
  let nodes ← engine.parser query
  exprOf engine.vocabulary nodes

/-- A comparison of two features for one record. -/
def compare (left : Feature) (c : Comparator) (right : Feature) (record : Value) :
    Except Error Bool := do
  let l ← left.evaluate record
  let r ← right.evaluate record
  c.holds l r

/-- A comparison for one entry; its error names the entry. -/
def compareEntry (left : Feature) (c : Comparator) (right : Feature) (entry : String × Value) :
    Except Error Bool :=
  (compare left c right entry.2).mapError (.evaluation entry.1)

/-- The entries that an expression selects. -/
def evaluateExpr (engine : Engine) : Expr → Reported Selection
  | .negation e => do
    let s ← engine.evaluateExpr e
    pure s.complement
  | .intersection left right => do
    let s ← engine.evaluateExpr left
    let t ← engine.evaluateExpr right
    pure (s.inter t)
  | .union left right => do
    let s ← engine.evaluateExpr left
    let t ← engine.evaluateExpr right
    pure (s.union t)
  | .flag node => do
    let ids ← engine.vocabulary.resolveFlag node
    pure (Selection.ofIds engine.dataset ids)
  | .comparison left c right =>
    .ofExcept (engine.dataset.toList.mapM (compareEntry left c right))

/-- The ids of the entries that a query selects, in order. -/
def evaluate (engine : Engine) (query : String) : Reported (List String) := do
  let e ← .ofExcept (engine.parse query)
  let s ← engine.evaluateExpr e
  pure (s.ids engine.dataset)

end Engine

end Dialect.Query
