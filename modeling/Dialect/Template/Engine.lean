import Dialect.Dataset
import Dialect.Settings.Basic
import Dialect.Template.Directive
import Dialect.Template.Skeleton
import Dialect.Text.Bytes

/-!
The template engine.

A template is copied from left to right. At every `{` a directive is tried on the whole rest of the
template. If there is one, its value takes the place of its span; otherwise the brace is copied and
scanning goes on right behind it. Values are never scanned.
-/

namespace Dialect.Template

/-- A template engine. -/
structure Engine where
  vocabulary : Vocabulary
  parser : Parser
  /-- Typographic quotes in the output are replaced by plain ones. -/
  consistentQuotes : Bool := false

/-- A quote in its plain form; other characters stay. -/
def plainQuote (c : Char) : Char :=
  if c = '\u201C' ∨ c = '\u201D' ∨ c = '\u201E' then '"'
  else if c = '\u2018' ∨ c = '\u2019' then '\''
  else c

/-- The number of characters up to and with the last closing brace; none if there is none. -/
def throughLastBrace : List Char → Option Nat
  | [] => none
  | c :: rest =>
    match throughLastBrace rest with
    | some n => some (n + 1)
    | none => if c = '\x7d' then some 1 else none

/-- A directive that was recognised: its value, and the number of characters that it spans. -/
structure Recognised where
  value : String
  span : Nat
  deriving DecidableEq, Repr

namespace Engine

/-- The grammar of a vocabulary under what both it and the profile enable. -/
def grammarOf (v : Vocabulary) (capabilities : Capabilities) : Except Error ComposedGrammar :=
  skeleton.compose (capabilities.inter v.capabilities) v.fragments

/-- An engine with a parser of its own. -/
def ofParts (v : Vocabulary) (parser : Parser) : Engine := ⟨v, parser, false⟩

/-- An engine that offers what both its vocabulary and the profile enable. -/
def withCapabilities (v : Vocabulary) (capabilities : Capabilities) : Except Error Engine :=
  (grammarOf v capabilities).map fun grammar => ofParts v grammar.parser

/-- An engine that offers all that its vocabulary enables. -/
def new (v : Vocabulary) : Except Error Engine := withCapabilities v v.capabilities

/-- The engine with consistent quotes switched on or off. -/
def withConsistentQuotes (engine : Engine) (on : Bool) : Engine :=
  { engine with consistentQuotes := on }

/-- An engine under the profile that settings ask for. -/
def withSettings (v : Vocabulary) (settings : Settings.Template) : Except Error Engine :=
  (withCapabilities v
    { customFields := settings.customFields
      customDirectives := settings.customDirectives }).map
    (·.withConsistentQuotes settings.consistentQuotes)

/-- The body of a directive: its first child besides the remainder and the end. -/
def bodyOf? (root : ParseNode) : Option ParseNode :=
  root.children.find? fun c => !c.is "remainder" && !c.is "EOI"

/-- The number of characters that a directive spans: up to the last closing brace before its
remainder. -/
def spanOf? (root : ParseNode) (input : List Char) : Option Nat :=
  match root.child? "remainder" with
  | some remainder => throughLastBrace (Text.takeBytes remainder.start input)
  | none => throughLastBrace input

/-- The directive at the start of a text, if there is one. A text that the grammar or the
directive's own reader refuses is no directive; any other failure is an error. -/
def directive (engine : Engine) (record : Value) (input : List Char) :
    Except Error (Option Recognised) :=
  match engine.parser (String.ofList input) with
  | .error _ => .ok none
  | .ok nodes =>
    match nodes.find? fun n => n.is "directive" with
    | none => .ok none
    | some root =>
      match spanOf? root input, bodyOf? root with
      | some span, some body =>
        match generatedOf engine.vocabulary record body with
        | .ok generated =>
          (generated.generator.generate record ∅).map fun value => some ⟨value, span⟩
        | .error (.parse _) => .ok none
        | .error e => .error e
      | _, _ => .ok none

/-- Copies a text, with directives replaced by their values. The first `covered` characters belong
to a directive that has been rendered. -/
def scan (engine : Engine) (record : Value) : (covered : Nat) → List Char → Except Error (List Char)
  | _, [] => .ok []
  | covered + 1, _ :: rest => scan engine record covered rest
  | 0, c :: rest =>
    if c = '\x7b' then do
      match ← engine.directive record (c :: rest) with
      | some found =>
        let after ← scan engine record (found.span - 1) rest
        pure (found.value.toList ++ after)
      | none =>
        let after ← scan engine record 0 rest
        pure (c :: after)
    else do
      let after ← scan engine record 0 rest
      pure (c :: after)

/-- Renders a template for a record. -/
def render (engine : Engine) (template : String) (record : Value) : Except Error String := do
  let output ← engine.scan record 0 template.toList
  pure (String.ofList (if engine.consistentQuotes then output.map plainQuote else output))

/-- Renders a template for an entry of a dataset. -/
def renderEntry (engine : Engine) (template : String) (d : Dataset) (id : String) :
    Except Error String :=
  match d.get? id with
  | some record => engine.render template record
  | none => .error (.field "." (.noEntry id))

end Engine

end Dialect.Template
