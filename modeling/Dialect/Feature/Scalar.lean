import Dialect.Decimal.Layout
import Dialect.Error
import Dialect.Value.Printer

/-!
The values of features, and how they are combined, ordered and compared.
-/

namespace Dialect

/-- The value of a feature for one record. Lists and objects only take part in equality. -/
inductive Scalar where
  | number (x : Float)
  | text (s : String)
  | bool (b : Bool)
  | null
  | structured (v : Value)
  deriving Repr

instance : Inhabited Scalar := ⟨.null⟩

namespace Scalar

def kind : Scalar → ScalarKind
  | .number _ => .number
  | .text _ => .text
  | .bool _ => .bool
  | .null => .null
  | .structured _ => .structured

/-- A value of a record as a scalar; integers become floats. -/
def ofValue : Value → Scalar
  | .number n => .number n.toFloat
  | .text s => .text s
  | .bool b => .bool b
  | .null => .null
  | v => .structured v

/-- Equality of scalars: floats as floats, structured values all through, different kinds never. -/
def same : Scalar → Scalar → Bool
  | .number x, .number y => x == y
  | .text s, .text t => s == t
  | .bool a, .bool b => a == b
  | .null, .null => true
  | .structured v, .structured w => v.same w
  | _, _ => false

/-- The order of two floats; none if one is not a number. -/
def floatOrder? (x y : Float) : Option Ordering :=
  if x < y then some .lt
  else if x == y then some .eq
  else if y < x then some .gt
  else none

/-- The order of two scalars of one kind: numbers, texts, or booleans with false first. -/
def order : Scalar → Scalar → Except Error Ordering
  | .number x, .number y =>
    match floatOrder? x y with
    | some o => .ok o
    | none => .error (.typeMismatch .unordered)
  | .text s, .text t => .ok (compare s t)
  | .bool a, .bool b => .ok (compare a b)
  | a, b => .error (.typeMismatch (.incomparable a.kind b.kind))

/-- The scalar as text. -/
def display : Scalar → String
  | .number x => Decimal.Layout.plain.write x
  | .text s => s
  | .bool b => if b then "true" else "false"
  | .null => ""
  | .structured v => v.compact

end Scalar

/-- The operator on two floats. -/
def Operator.onFloats : Operator → Float → Float → Float
  | .add, x, y => x + y
  | .subtract, x, y => x - y
  | .multiply, x, y => x * y
  | .divide, x, y => x / y
  | .power, x, y => Float.pow x y

/-- The operator on two scalars: arithmetic on numbers, and addition also joins texts. -/
def Operator.apply : Operator → Scalar → Scalar → Except Error Scalar
  | .add, .text s, .text t => .ok (.text (s ++ t))
  | .divide, .number x, .number y =>
    if y == 0 then .error (.typeMismatch .divisionByZero) else .ok (.number (x / y))
  | op, .number x, .number y => .ok (.number (op.onFloats x y))
  | op, a, b => .error (.typeMismatch (.inapplicable op a.kind b.kind))

/-- The comparator accepts two scalars that stand in the given order. -/
def Comparator.accepts : Comparator → Ordering → Bool
  | .less, o => o == .lt
  | .greater, o => o == .gt
  | .lessOrEqual, o => o != .gt
  | .greaterOrEqual, o => o != .lt
  | .equal, o => o == .eq

/-- The comparator holds between two scalars. Equality never fails; the others need an order. -/
def Comparator.holds : Comparator → Scalar → Scalar → Except Error Bool
  | .equal, a, b => .ok (a.same b)
  | c, a, b => (a.order b).map c.accepts

end Dialect
