/-!
The symbols of feature expressions: operators, comparators and the two extremes, with the kinds of
values they work on.
-/

namespace Dialect

/-- An operator between two features. -/
inductive Operator where
  | add
  | subtract
  | multiply
  | divide
  | power
  deriving DecidableEq, Repr

namespace Operator

def symbol : Operator → String
  | .add => "+"
  | .subtract => "-"
  | .multiply => "*"
  | .divide => "/"
  | .power => "^"

def ofSymbol? : String → Option Operator
  | "+" => some .add
  | "-" => some .subtract
  | "*" => some .multiply
  | "/" => some .divide
  | "^" => some .power
  | _ => none

@[simp] theorem ofSymbol?_symbol (o : Operator) : ofSymbol? o.symbol = some o := by
  cases o <;> rfl

end Operator

/-- A comparison between two features. -/
inductive Comparator where
  | less
  | greater
  | lessOrEqual
  | greaterOrEqual
  | equal
  deriving DecidableEq, Repr

namespace Comparator

/-- The symbol under which the comparator is written; equality may also be written `=`. -/
def symbol : Comparator → String
  | .less => "<"
  | .greater => ">"
  | .lessOrEqual => "<="
  | .greaterOrEqual => ">="
  | .equal => "=="

def ofSymbol? : String → Option Comparator
  | "<" => some .less
  | ">" => some .greater
  | "<=" => some .lessOrEqual
  | ">=" => some .greaterOrEqual
  | "=" => some .equal
  | "==" => some .equal
  | _ => none

@[simp] theorem ofSymbol?_symbol (c : Comparator) : ofSymbol? c.symbol = some c := by
  cases c <;> rfl

end Comparator

/-- Which end of the order is wanted. -/
inductive Extreme where
  | max
  | min
  deriving DecidableEq, Repr

namespace Extreme

def word : Extreme → String
  | .max => "max"
  | .min => "min"

def ofWord? : String → Option Extreme
  | "max" => some .max
  | "min" => some .min
  | _ => none

/-- A candidate replaces the best so far if it stands in this order to it. -/
def wanted : Extreme → Ordering
  | .max => .gt
  | .min => .lt

end Extreme

/-- The kind of a feature's value. -/
inductive ScalarKind where
  | number
  | text
  | bool
  | null
  | structured
  deriving DecidableEq, Repr

/-- The kind as messages name it. -/
def ScalarKind.name : ScalarKind → String
  | .number => "a number"
  | .text => "a string"
  | .bool => "a boolean"
  | .null => "null"
  | .structured => "a structured value"

end Dialect
