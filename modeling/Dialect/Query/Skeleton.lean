import Dialect.Grammar.Skeleton

/-!
The grammar of set queries.

A query selects entries: `,` intersects and `|` unites, both from left to right, and `-( … )` is the
complement. The rule `flag` is an embedding's; comparisons are arithmetic over fields, literals and
an embedding's own features.
-/

namespace Dialect.Query

/-- The slot for rules: `flag` and what it needs. -/
def vocabularySlot : String := "vocabulary"

/-- The slot for further features, each written as `rule |`. -/
def featureAtomsSlot : String := "feature_atoms"

/-- The fixed rules of queries. -/
def skeleton : Skeleton where
  name := "query"
  start := "query"
  pieces := [
    .text r#"
WHITESPACE = _{ " " | "\t" | "\r" | "\n" }

query = { SOI ~ set_expr ~ EOI }
set_expr = { operand ~ (set_op ~ operand)* }
set_op = { "," | "|" }
operand = _{ "#,
    .slot "operand_head",
    .text " negation | grouped ",
    .slot "operand_tail",
    .text r#" }
negation = { "-" ~ (grouped "#,
    .slot "negation_tail",
    .text r#") }
grouped = _{ "(" ~ set_expr ~ ")" }

comparison = { feature_sum ~ comparator ~ feature_sum }
comparator = @{ "<=" | ">=" | "==" | "<" | ">" | "=" }
feature_sum = { feature_product ~ (shift_op ~ feature_product)* }
shift_op = @{ "+" | "-" }
feature_product = { feature_power ~ (scale_op ~ feature_power)* }
scale_op = @{ "*" | "/" }
feature_power = { feature_atom ~ (power_op ~ feature_atom)* }
power_op = @{ "^" }
feature_atom = _{ "#,
    .slot featureAtomsSlot,
    .text r#" extremum | field | "(" ~ feature_sum ~ ")" | number | string }
extremum = { extremum_name ~ "(" ~ feature_sum ~ ("," ~ feature_sum)* ~ ")" }
extremum_name = @{ "max" | "min" }
field = @{ ("." ~ field_name)+ }
field_name = _{ (ASCII_ALPHA | "_") ~ (ASCII_ALPHANUMERIC | "_")* }
number = @{ "-"? ~ ASCII_DIGIT+ ~ ("." ~ ASCII_DIGIT+)? ~ (^"e" ~ ("+" | "-")? ~ ASCII_DIGIT+)? }
string = ${ "\"" ~ string_body ~ "\"" }
string_body = @{ ("\\" ~ ANY | !("\"" | "\\") ~ ANY)* }
"#,
    .slot vocabularySlot]
  gates := [
    ⟨"operand_head", .features, "comparison |"⟩,
    ⟨"operand_tail", .flags, "| flag"⟩,
    ⟨"negation_tail", .flags, "| flag"⟩]
  requiresAny := [.flags, .features]
  contracts := [(.flags, "flag")]

end Dialect.Query
