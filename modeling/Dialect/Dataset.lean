import Dialect.Error
import Dialect.Sorted.Map

/-!
Datasets: records under unique ids, in the order of the ids.
-/

namespace Dialect

/-- Records by id. -/
structure Dataset where
  records : SortedMap String Value
  deriving Inhabited

namespace Dataset

def empty : Dataset := ⟨∅⟩

/-- The dataset of a list of records; of two with one id the later counts. -/
def ofList (records : List (String × Value)) : Dataset := ⟨SortedMap.ofList records⟩

/-- The dataset that an object of records describes. -/
def ofValue : Value → Except Error Dataset
  | .object members => .ok (ofList members)
  | v => .error (.config (.datasetKind v.kind))

def insert (d : Dataset) (id : String) (record : Value) : Dataset := ⟨d.records.insert id record⟩

def get? (d : Dataset) (id : String) : Option Value := d.records.get? id

/-- The entries in the order of their ids. -/
def toList (d : Dataset) : List (String × Value) := d.records.toList

/-- The ids in increasing order. -/
def ids (d : Dataset) : List String := d.records.keys

def size (d : Dataset) : Nat := d.records.size

def isEmpty (d : Dataset) : Bool := d.records.isEmpty

end Dataset

end Dialect
