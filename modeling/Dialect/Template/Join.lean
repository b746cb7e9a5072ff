import Dialect.Path.Boundary
import Dialect.Template.Generator

/-!
Joins: data rendered once per element of a list, with a separator between.

The list is the single boundary that the fields of data and separator reach. The separator is
rendered once, without pins, so it must not read anything along the list.
-/

namespace Dialect.Template

/-- The only list boundary that the requirements reach. -/
def singleBoundary (record : Value) (required : Requirements) : Except Error FieldPath :=
  match (boundaries record required).toList with
  | [list] => .ok list
  | [] => .error (.iteration (.noList required.toList))
  | found => .error (.iteration (.severalLists found))

/-- The number of elements of the list at a path. -/
def lengthAt (record : Value) (list : FieldPath) : Except Error Nat := do
  match ← list.resolve record ∅ with
  | .list items => pure items.length
  | v => .error (.iteration (.notList list v.kind))

/-- The data rendered under each of the indexes. -/
def pieces (data : Generator) (record : Value) (list : FieldPath) (indexes : List Nat) :
    Except Error (List String) :=
  indexes.mapM fun index => data.generate record (Pins.single list index)

/-- A join of data with a separator, rendered for a record. -/
def join (data separator : Generated) (record : Value) : Except Error Generated := do
  let list ← singleBoundary record (data.requirements ∪ separator.requirements)
  match separator.requirements.toList.find? fun p => p.prefixes.contains list with
  | some p => .error (.iteration (.varyingSeparator p list))
  | none =>
    let count ← lengthAt record list
    let glue ← separator.generator.generate record ∅
    let texts ← pieces data.generator record list (List.range count)
    pure (.constant (glue.intercalate texts))

end Dialect.Template
