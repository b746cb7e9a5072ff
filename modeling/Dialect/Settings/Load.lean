import Dialect.Decimal.Layout
import Dialect.Error
import Dialect.Settings.Basic
import Dialect.Settings.Layers

/-!
Loading settings.

Every setting has a default, unknown names are ignored, and a setting accepts any scalar that can
stand for its type: a truth value also numbers and the usual words, a text also numbers and truth
values. A section may be an object, or a list of its settings in their order.
-/

namespace Dialect.Settings

/-- The words for truth values, in any case. -/
def boolOfWord? (word : String) : Option Bool :=
  let word := Text.lowercase word
  if ["1", "true", "on", "yes"].contains word then some true
  else if ["0", "false", "off", "no"].contains word then some false
  else none

/-- A truth value: itself, a number other than zero, or a word. -/
def boolOf? : Value → Option Bool
  | .bool b => some b
  | .number (.int n) => some (n != 0)
  | .number (.float x) => some !(x == 0)
  | .text s => boolOfWord? s
  | _ => none

/-- A text: itself, a truth value, or a number in plain digits. -/
def textOf? : Value → Option String
  | .text s => some s
  | .bool b => some (if b then "true" else "false")
  | .number (.int n) => some (toString n)
  | .number (.float x) => some (Decimal.Layout.plain.write x)
  | _ => none

/-- The values of a section's settings, found by name in an object or by place in a list; none if
the section is neither. A missing section leaves all settings out. -/
def section? (names : List String) : Option Value → Option (List (Option Value))
  | none => some (names.map fun _ => none)
  | some (.object members) => some (names.map fun name => members.lookup name)
  | some (.list items) => some ((List.range names.length).map fun i => items[i]?)
  | some _ => none

/-- A setting by its reader, or its default if it is left out. -/
def setting {α : Type} (read : Value → Option α) (default : α) : Option Value → Option α
  | none => some default
  | some v => read v

/-- The settings for queries. -/
def Query.of? (v : Option Value) : Option Query := do
  match ← section? ["flags", "features"] v with
  | [flags, features] =>
    let flags ← setting boolOf? true flags
    let features ← setting boolOf? true features
    pure { flags, features }
  | _ => none

/-- The settings for templates. -/
def Template.of? (v : Option Value) : Option Template := do
  match ← section? ["custom_fields", "custom_directives", "consistent_quotes"] v with
  | [customFields, customDirectives, consistentQuotes] =>
    let customFields ← setting boolOf? true customFields
    let customDirectives ← setting boolOf? false customDirectives
    let consistentQuotes ← setting boolOf? false consistentQuotes
    pure { customFields, customDirectives, consistentQuotes }
  | _ => none

/-- The settings of the log. -/
def Log.of? (v : Option Value) : Option Log := do
  match ← section? ["filter"] v with
  | [filter] =>
    let filter ← setting textOf? "info" filter
    pure { filter }
  | _ => none

/-- The settings that an object of sections describes. -/
def ofValue (v : Value) : Except Error Settings :=
  let found : Option Settings := do
    let query ← Query.of? (v.member? "query")
    let template ← Template.of? (v.member? "template")
    let log ← Log.of? (v.member? "log")
    pure { query, template, log }
  match found with
  | some settings => .ok settings
  | none => .error (.config .settings)

/-- The settings of a base layer, if it could be read, under an environment whose variables start
with the given lead. -/
def layered (lead : String) (base : Option Value) (environment : List (String × String)) :
    Except Error Settings :=
  match base with
  | none => .error (.config .settings)
  | some base =>
    let target := layNamed (membersOf base) (.object [])
    ofValue (layNamed (environmentEntries lead environment) target)

/-- The text of a file. A byte order mark at its start is not part of it. -/
def fileText (text : String) : String :=
  match text.toList with
  | '\uFEFF' :: rest => String.ofList rest
  | _ => text

/-- The settings of a file, if there is one, under an environment whose variables start with the
given lead. -/
def load (lead : String) (file : Option (Format × String)) (environment : List (String × String)) :
    Except Error Settings :=
  match file with
  | none => layered lead (some (.object [])) environment
  | some (format, text) => layered lead (readFile? format (fileText text)) environment

/-- The settings of a TOML text alone. -/
def ofToml (text : String) : Except Error Settings := layered "" (readFile? .toml text) []

end Dialect.Settings
