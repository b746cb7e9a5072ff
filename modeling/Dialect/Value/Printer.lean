import Dialect.Decimal.Layout
import Dialect.Text.Quoted
import Dialect.Value.Basic

/-!
The text of a value.

`compact` is the notation that reads back, without blanks. `render` is the form in which a value is
put into running text: a text stands for itself and null for nothing.
-/

namespace Dialect

/-- An integer is written in decimal, a float with a fraction or an exponent. -/
def Number.compact : Number → String
  | .int n => if n < 0 then "-" ++ toString n.natAbs else toString n.natAbs
  | .float x => Decimal.Layout.record.write x

/-- A text in quotes. -/
def quoted (s : String) : String := String.ofList (Text.Quoted.encode s.toList)

namespace Value

mutual

/-- The value in compact notation. -/
def compact : Value → String
  | .null => "null"
  | .bool b => if b then "true" else "false"
  | .number n => n.compact
  | .text s => quoted s
  | .list items => "[" ++ compactItems items ++ "]"
  | .object members => "\x7b" ++ compactMembers members ++ "\x7d"

def compactItems : List Value → String
  | [] => ""
  | [v] => compact v
  | v :: w :: rest => compact v ++ "," ++ compactItems (w :: rest)

def compactMembers : List (String × Value) → String
  | [] => ""
  | [(k, v)] => quoted k ++ ":" ++ compact v
  | (k, v) :: m :: rest => quoted k ++ ":" ++ compact v ++ "," ++ compactMembers (m :: rest)

end

/-- The value as it is put into text. -/
def render : Value → String
  | .text s => s
  | .null => ""
  | v => v.compact

end Value

end Dialect
