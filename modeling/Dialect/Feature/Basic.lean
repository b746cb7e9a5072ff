import Dialect.Feature.Scalar
import Dialect.Path.Resolve

/-!
Feature expressions: what a comparison evaluates for each record.
-/

namespace Dialect

/-- A feature: literals, fields of the record, arithmetic and extremes. -/
inductive Feature where
  | number (x : Float)
  | text (s : String)
  | field (path : FieldPath)
  | binary (op : Operator) (left right : Feature)
  | extremum (side : Extreme) (arguments : List Feature)
  deriving Repr

instance : Inhabited Feature := ⟨.text ""⟩

namespace Feature

/-- The better of the best so far and a candidate: the candidate only if it stands to the best in
the order wanted. -/
def better (side : Extreme) (best candidate : Scalar) : Except Error Scalar :=
  (candidate.order best).map fun o => if o = side.wanted then candidate else best

mutual

/-- The value of a feature for a record. Operands are evaluated from left to right. -/
def evaluate (record : Value) : Feature → Except Error Scalar
  | .number x => .ok (.number x)
  | .text s => .ok (.text s)
  | .field path => (path.resolve record ∅).map Scalar.ofValue
  | .binary op left right => do
    let l ← left.evaluate record
    let r ← right.evaluate record
    op.apply l r
  | .extremum side arguments => evaluateExtremum record side none arguments

/-- The extreme of the best value so far and the values of more features, each evaluated and then
compared with the best. -/
def evaluateExtremum (record : Value) (side : Extreme) :
    (best : Option Scalar) → List Feature → Except Error Scalar
  | none, [] => .error (.typeMismatch .noArguments)
  | some best, [] => .ok best
  | none, f :: rest => do
    let candidate ← f.evaluate record
    evaluateExtremum record side (some candidate) rest
  | some best, f :: rest => do
    let candidate ← f.evaluate record
    let best ← better side best candidate
    evaluateExtremum record side (some best) rest

end

end Feature

end Dialect
