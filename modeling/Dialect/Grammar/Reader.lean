import Dialect.Grammar.Expr
import Dialect.Grammar.Token

/-!
Reading the rules of a grammar.

A rule is written `name = { expression }`, with a mark of its kind before the brace. Sequences (`~`)
bind tighter than choices (`|`) and both group to the left; marks before a term (`&`, `!`) reach
over the marks after it (`?`, `*`, `+` and counts in braces).
-/

namespace Dialect.Grammar.Surface

/-- A count in braces whose opening brace has been read. A repetition that can only be empty is
refused. -/
def count? (e : Surface) : List Token → Option (Surface × List Token)
  | .number n :: .mark '\x7d' :: rest => if n = 0 then none else some (.exactly e n, rest)
  | .number n :: .mark ',' :: .mark '\x7d' :: rest => some (.atLeast e n, rest)
  | .mark ',' :: .number n :: .mark '\x7d' :: rest =>
    if n = 0 then none else some (.atMost e n, rest)
  | .number m :: .mark ',' :: .number n :: .mark '\x7d' :: rest =>
    if n = 0 then none else some (.counted e m n, rest)
  | _ => none

/-- The marks after a term. A brace that starts no count ends them. -/
def suffixes : (fuel : Nat) → Surface → List Token → Option (Surface × List Token)
  | fuel + 1, e, .mark '?' :: rest => suffixes fuel (.opt e) rest
  | fuel + 1, e, .mark '*' :: rest => suffixes fuel (.star e) rest
  | fuel + 1, e, .mark '+' :: rest => suffixes fuel (.plus e) rest
  | fuel + 1, e, .mark '\x7b' :: rest =>
    match count? e rest with
    | some (e, rest) => suffixes fuel e rest
    | none => none
  | _, e, rest => some (e, rest)

/-- The alternatives before the sequence being read, joined with it. -/
def joined (before : Option Surface) (current : Surface) : Surface :=
  match before with
  | none => current
  | some e => .choice e current

mutual

/-- A term: an optional tag, marks before it, a name, literal, range or group, and marks after it.
-/
def term : (fuel : Nat) → List Token → Option (Surface × List Token)
  | 0, _ => none
  | fuel + 1, .tag _ :: .mark '=' :: rest => marked fuel rest
  | fuel + 1, rest => marked fuel rest

/-- A term without a tag. -/
def marked : (fuel : Nat) → List Token → Option (Surface × List Token)
  | 0, _ => none
  | fuel + 1, .mark '&' :: rest => (marked fuel rest).map fun (e, rest) => (.ahead e, rest)
  | fuel + 1, .mark '!' :: rest => (marked fuel rest).map fun (e, rest) => (.notAhead e, rest)
  | fuel + 1, .mark '(' :: rest =>
    match expression fuel rest with
    | some (e, .mark ')' :: rest) => suffixes fuel e rest
    | _ => none
  | fuel + 1, .name name :: rest => suffixes fuel (.call name) rest
  | fuel + 1, .string text :: rest => suffixes fuel (.literal text) rest
  | fuel + 1, .caseless text :: rest => suffixes fuel (.caseless text) rest
  | fuel + 1, .char first :: .dots :: .char last :: rest => suffixes fuel (.range first last) rest
  | _ + 1, _ => none

/-- An expression; a bar may stand before its first term. -/
def expression : (fuel : Nat) → List Token → Option (Surface × List Token)
  | 0, _ => none
  | fuel + 1, .mark '|' :: rest =>
    match term fuel rest with
    | some (e, rest) => operators fuel none e rest
    | none => none
  | fuel + 1, rest =>
    match term fuel rest with
    | some (e, rest) => operators fuel none e rest
    | none => none

/-- The rest of an expression after the alternatives `before` and the sequence `current`. -/
def operators : (fuel : Nat) → (before : Option Surface) → (current : Surface) → List Token →
    Option (Surface × List Token)
  | 0, _, _, _ => none
  | fuel + 1, before, current, .mark '~' :: rest =>
    match term fuel rest with
    | some (e, rest) => operators fuel before (.seq current e) rest
    | none => none
  | fuel + 1, before, current, .mark '|' :: rest =>
    match term fuel rest with
    | some (e, rest) => operators fuel (some (joined before current)) e rest
    | none => none
  | _ + 1, before, current, rest => some (joined before current, rest)

end

/-- The kind of a rule by the mark before its brace. -/
def kind? : List Token → Option (RuleKind × List Token)
  | .mark '\x7b' :: rest => some (.normal, rest)
  | .name "_" :: .mark '\x7b' :: rest => some (.silent, rest)
  | .mark '@' :: .mark '\x7b' :: rest => some (.atomic, rest)
  | .mark '$' :: .mark '\x7b' :: rest => some (.compound, rest)
  | .mark '!' :: .mark '\x7b' :: rest => some (.nonAtomic, rest)
  | _ => none

/-- The rules in a list of tokens. -/
def rules : (fuel : Nat) → List Token → Option (List SurfaceRule)
  | 0, _ => none
  | _ + 1, [] => some []
  | fuel + 1, .ruleDoc :: rest => rules fuel rest
  | fuel + 1, .name name :: .mark '=' :: rest =>
    match kind? rest with
    | some (kind, rest) =>
      match expression (3 * rest.length + 4) rest with
      | some (body, .mark '\x7d' :: rest) => (rules fuel rest).map (⟨name, kind, body⟩ :: ·)
      | _ => none
    | none => none
  | _ + 1, _ => none

/-- Reads the rules of a grammar, after documentation of the whole. -/
def readRules (text : List Char) : Option (List SurfaceRule) :=
  match Token.ofText? text with
  | some tokens =>
    let tokens := tokens.dropWhile (· == .grammarDoc)
    rules (tokens.length + 1) tokens
  | none => none

end Dialect.Grammar.Surface
