import Dialect.Path.Reader
import Dialect.Query.Tree
import Dialect.Template.Join
import Dialect.Template.Vocabulary
import Dialect.Text.Bytes
import Dialect.Word

/-!
From parse trees to generators.
-/

namespace Dialect.Template

/-- The largest number of bytes to which a repeated literal may expand. -/
def maxRepeatedBytes : Nat := 0x100000

/-- The number that a count denotes: digits, with an optional plus sign. It must fit in a word of 64
bits. -/
def readCount (text : String) : Option Nat :=
  let digits :=
    match text.toList with
    | '+' :: rest => rest
    | cs => cs
  if digits.isEmpty || !digits.all Char.isDigit then none
  else
    let n := Decimal.natOfDigits digits
    if n < Word.count64 then some n else none

/-- The text `count` times over. -/
def repeatText (text : String) (count : Nat) : String :=
  if text.isEmpty then ""
  else String.ofList (List.replicate count text.toList).flatten

/-- A literal repeated as often as its count says, within the limit. -/
def repeated (literal count : ParseNode) : Except Error Generated :=
  match readCount count.text with
  | none => .error (.malformed "count" count.text)
  | some n => do
    let text ← unquote literal.text
    let bytes := Text.byteSize text.toList
    if bytes * n ≤ maxRepeatedBytes then pure (.constant (repeatText text n))
    else
      .error (.malformed "count" (toString n ++ " repetitions of " ++ toString bytes ++ " bytes"))

theorem constant_of_repeated {literal count : ParseNode} {g : Generated}
    (made : repeated literal count = .ok g) : ∃ text, g = .constant text := by
  unfold repeated at made
  split at made
  · cases made
  · cases decoded : unquote literal.text with
    | error fault =>
      rw [decoded] at made
      cases made
    | ok text =>
      rw [decoded] at made
      simp only [bind, Except.bind] at made
      split at made
      · exact ⟨_, (Except.ok.inj made).symm⟩
      · cases made

mutual

/-- The generator of a node for a record. -/
def generatedOf (v : Vocabulary) (record : Value) : ParseNode → Except Error Generated
  | ⟨rule, text, start, stop, children⟩ =>
    if rule == "join" then
      match children with
      | [data, separator] => do
        let d ← generatedOf v record data
        let s ← generatedOf v record separator
        join d s record
      | _ => .error (.malformed "join" text)
    else if rule == "data" then (generatedAll v record children).map Generated.concat
    else if rule == "literal" then (unquote text).map Generated.constant
    else if rule == "repeated" then
      match children with
      | [literal, count] => repeated literal count
      | _ => .error (.malformed "repeated" text)
    else if rule == "field" then (FieldPath.read text).map Generated.field
    else if rule == "custom_field" then v.customField ⟨rule, text, start, stop, children⟩ record
    else if rule == "custom_directive" then
      v.customDirective ⟨rule, text, start, stop, children⟩ record
    else .error (.malformed rule text)

/-- The generators of nodes, from left to right. -/
def generatedAll (v : Vocabulary) (record : Value) : List ParseNode → Except Error (List Generated)
  | [] => .ok []
  | node :: rest => do
    let g ← generatedOf v record node
    let gs ← generatedAll v record rest
    pure (g :: gs)

end

end Dialect.Template
