import Dialect.Path.Resolve
import Dialect.Value.Printer

/-!
Generators: what computes the text of a directive.

A generator is run once per element of an iterated list, each time under other pins. It stands
together with the field paths that it reads, from which the list to iterate is found.
-/

namespace Dialect.Template

/-- A piece of a directive. -/
inductive Generator where
  | constant (text : String)
  | field (path : FieldPath)
  | concat (parts : List Generator)
  /-- A piece of an embedding's own, with a label that describes it. -/
  | custom (label : String) (run : Value → Pins → Except Error String)

instance : Inhabited Generator := ⟨.constant ""⟩

namespace Generator

mutual

/-- The text of a generator for a record under pins. -/
def generate (record : Value) (pins : Pins) : Generator → Except Error String
  | .constant text => .ok text
  | .field path => (path.resolve record pins).map Value.render
  | .concat parts => generateAll record pins parts
  | .custom _ run => run record pins

/-- The texts of generators one after the other. -/
def generateAll (record : Value) (pins : Pins) : List Generator → Except Error String
  | [] => .ok ""
  | g :: rest => do
    let text ← g.generate record pins
    let more ← generateAll record pins rest
    pure (text ++ more)

end

end Generator

/-- A generator with the field paths that it reads. -/
structure Generated where
  generator : Generator
  requirements : Requirements

instance : Inhabited Generated := ⟨⟨default, ∅⟩⟩

namespace Generated

/-- A fixed text, which reads nothing. -/
def constant (text : String) : Generated := ⟨.constant text, ∅⟩

/-- The value of a field. -/
def field (path : FieldPath) : Generated := ⟨.field path, .single path⟩

/-- Pieces one after the other; a single piece stays itself. -/
def concat (parts : List Generated) : Generated where
  generator :=
    match parts with
    | [part] => part.generator
    | parts => .concat (parts.map generator)
  requirements := parts.foldl (fun required part => required ∪ part.requirements) ∅

end Generated

end Dialect.Template
