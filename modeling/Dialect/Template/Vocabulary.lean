import Dialect.Grammar.Skeleton
import Dialect.ParseNode
import Dialect.Template.Generator

/-!
What an embedding contributes to directives.
-/

namespace Dialect.Template

/-- An embedding of the directive dialect. -/
structure Vocabulary where
  /-- Which additions the vocabulary can serve. -/
  capabilities : Capabilities := .none
  /-- Its grammar. -/
  fragments : Fragments := .empty
  /-- The generator of a `custom_field` node for a record. Its requirements take part in finding the
  list to iterate like any field. -/
  customField : ParseNode → Value → Except Error Generated := fun node _ =>
    .error (.vocabulary ("custom field '" ++ node.text ++ "' is not supported"))
  /-- The generator of a `custom_directive` node for a record. -/
  customDirective : ParseNode → Value → Except Error Generated := fun node _ =>
    .error (.vocabulary ("custom directive '" ++ node.text ++ "' is not supported"))

/-- The directive dialect without additions. -/
def Vocabulary.plain : Vocabulary := {}

end Dialect.Template
