import Dialect.Error

/-!
Resolving a field path against a record.

The walk takes one segment at a time. After a segment whose path is pinned, the pinned element of
the list found there is taken before the walk goes on. An error names the path at which the walk
stopped.
-/

namespace Dialect.FieldPath

/-- An error at the path reached so far; at the record itself the whole path is named. -/
def stopped (whole reached : List String) (fault : FieldFault) : Error :=
  .field (FieldPath.text (if reached.isEmpty then ⟨whole⟩ else ⟨reached⟩)) fault

/-- The pinned element of a value that should be a list. -/
def element (index : Nat) : Value → Except FieldFault Value
  | .list items =>
    match items[index]? with
    | some item => .ok item
    | none => .error (.outOfRange index items.length)
  | _ => .error .pinnedNonList

/-- The value under a path after its pin, if it has one, is applied. -/
def select (pins : Pins) (reached : List String) (v : Value) : Except FieldFault Value :=
  match pins.get? ⟨reached⟩ with
  | none => .ok v
  | some index => element index v

/-- Walks on from a value reached along `reached` through the remaining segments. -/
def walk (whole : List String) (pins : Pins) : (reached : List String) → Value → List String →
    Except Error Value
  | _, v, [] => .ok v
  | reached, v, segment :: rest =>
    match v with
    | .object members =>
      let next := reached ++ [segment]
      match members.lookup segment with
      | none => .error (stopped whole next .noSuchField)
      | some child =>
        match select pins next child with
        | .error fault => .error (stopped whole next fault)
        | .ok selected => walk whole pins next selected rest
    | .list _ => .error (stopped whole reached .unpinnedList)
    | _ => .error (stopped whole reached .intoScalar)

/-- The value that the path leads to in a record under the given pins. -/
def resolve (p : FieldPath) (record : Value) (pins : Pins) : Except Error Value :=
  walk p.segments pins [] record p.segments

end Dialect.FieldPath
