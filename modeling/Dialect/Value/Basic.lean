/-!
The values of records: nested data with integers and floats kept apart.
-/

namespace Dialect

/-- A number of a record. `1` and `1.0` are different numbers. -/
inductive Number where
  | int (n : Int)
  | float (x : Float)
  deriving Repr

/-- Integers equal integers, floats equal floats as floats do, and no integer equals a float. -/
def Number.same : Number → Number → Bool
  | .int m, .int n => m == n
  | .float x, .float y => x == y
  | _, _ => false

/-- The nearest float. -/
def Number.toFloat : Number → Float
  | .int n => if n < 0 then -Float.ofNat n.natAbs else Float.ofNat n.natAbs
  | .float x => x

/-- A value: a record, or anything inside one. The members of an object stand in the order of their
keys; a look-up takes the first with the key. -/
inductive Value where
  | null
  | bool (b : Bool)
  | number (n : Number)
  | text (s : String)
  | list (items : List Value)
  | object (members : List (String × Value))
  deriving Repr

instance : Inhabited Value := ⟨.null⟩

namespace Value

/-- What sort of value it is. -/
inductive Kind where
  | null
  | bool
  | number
  | text
  | list
  | object
  deriving DecidableEq, Repr

def kind : Value → Kind
  | .null => .null
  | .bool _ => .bool
  | .number _ => .number
  | .text _ => .text
  | .list _ => .list
  | .object _ => .object

/-- The kind as messages name it. -/
def Kind.name : Kind → String
  | .null => "null"
  | .bool => "a boolean"
  | .number => "a number"
  | .text => "a string"
  | .list => "a list"
  | .object => "an object"

/-- The member of an object under a key; other values have none. -/
def member? (key : String) : Value → Option Value
  | .object members => members.lookup key
  | _ => none

/-- The value is a list. -/
def isList : Value → Bool
  | .list _ => true
  | _ => false

mutual

/-- Equal all through, numbers by `Number.same`. -/
def same : Value → Value → Bool
  | .null, .null => true
  | .bool a, .bool b => a == b
  | .number m, .number n => m.same n
  | .text s, .text t => s == t
  | .list xs, .list ys => sameItems xs ys
  | .object ms, .object ns => sameMembers ms ns
  | _, _ => false

def sameItems : List Value → List Value → Bool
  | [], [] => true
  | x :: xs, y :: ys => same x y && sameItems xs ys
  | _, _ => false

def sameMembers : List (String × Value) → List (String × Value) → Bool
  | [], [] => true
  | (k, v) :: ms, (l, w) :: ns => k == l && same v w && sameMembers ms ns
  | _, _ => false

end

mutual

/-- The number of values in a value, itself among them. -/
def size : Value → Nat
  | .list items => sizeItems items + 1
  | .object members => sizeMembers members + 1
  | _ => 1

def sizeItems : List Value → Nat
  | [] => 0
  | v :: rest => size v + sizeItems rest

def sizeMembers : List (String × Value) → Nat
  | [] => 0
  | (_, v) :: rest => size v + sizeMembers rest

end

/-- The members of an object that look-ups find: of two with one key the first. -/
def entries : List (String × Value) → List (String × Value)
  | [] => []
  | (key, v) :: rest => (key, v) :: (entries rest).filter fun e => e.1 ≠ key

theorem entries_sublist (members : List (String × Value)) : (entries members).Sublist members := by
  induction members with
  | nil => exact .slnil
  | cons e rest ih => exact (List.filter_sublist.trans ih).cons_cons e

end Value

end Dialect
