import Dialect.Grammar.Skeleton

/-!
The grammar of template directives.

A directive stands in braces: literals, repeated literals and fields one after the other, or a join
of such data with a separator. What follows the closing brace is taken as a remainder, so the
grammar can be run on the whole rest of a template.
-/

namespace Dialect.Template

/-- The slot for rules: `custom_field`, `custom_directive` and what they need. -/
def vocabularySlot : String := "vocabulary"

/-- The fixed rules of directives. -/
def skeleton : Skeleton where
  name := "directive"
  start := "directive"
  pieces := [
    .text r#"
WHITESPACE = _{ " " }

directive = { "{" ~ embed ~ "}" ~ remainder? ~ EOI }
remainder = @{ ANY+ }
embed = _{ join "#,
    .slot "embed_alternatives",
    .text r#" | data }
join = { "join" ~ data ~ "with" ~ data }
data = { atom+ }
atom = _{ "#,
    .slot "atom_head",
    .text r#" repeated | literal | field }
repeated = { literal ~ "*" ~ count }
literal = ${ "\"" ~ literal_body ~ "\"" }
literal_body = @{ ("\\" ~ ANY | !("\"" | "\\") ~ ANY)* }
field = @{ ("." ~ field_name)+ }
field_name = _{ (ASCII_ALPHA | "_") ~ (ASCII_ALPHANUMERIC | "_")* }
count = @{ ASCII_DIGIT+ }
"#,
    .slot vocabularySlot]
  gates := [
    ⟨"embed_alternatives", .customDirectives, "| custom_directive"⟩,
    ⟨"atom_head", .customFields, "custom_field |"⟩]
  requiresAny := []
  contracts := [(.customFields, "custom_field"), (.customDirectives, "custom_directive")]

end Dialect.Template
