import Dialect.Text.Property
import Dialect.Text.Script

/-!
Parsing expressions.

`Surface` is an expression as a grammar writes it, with counted repetitions and rule names not yet
looked up. `Expr` is the smaller language that grammars are run in. A grammar is a list of rules in
either form.
-/

namespace Dialect.Grammar

/-- A set of characters that a grammar can name. -/
inductive CharClass where
  | any
  | between (first last : Char)
  | ascii
  | asciiDigit
  | asciiNonzeroDigit
  | asciiBinDigit
  | asciiOctDigit
  | asciiHexDigit
  | asciiAlphaLower
  | asciiAlphaUpper
  | asciiAlpha
  | asciiAlphanumeric
  | alphabetic
  | numeric
  /-- A property or script of Unicode by its name. -/
  | property (name : String)
  deriving DecidableEq, Repr

namespace CharClass

/-- The property or script with a name. -/
def property? (name : String) : Option (Char → Bool) :=
  (Text.property? name).or (Text.script? name)

/-- The character belongs to the class. -/
def holds : CharClass → Char → Bool
  | any, _ => true
  | between first last, c => first ≤ c && c ≤ last
  | ascii, c => c.toNat < 128
  | asciiDigit, c => '0' ≤ c && c ≤ '9'
  | asciiNonzeroDigit, c => '1' ≤ c && c ≤ '9'
  | asciiBinDigit, c => '0' ≤ c && c ≤ '1'
  | asciiOctDigit, c => '0' ≤ c && c ≤ '7'
  | asciiHexDigit, c => ('0' ≤ c && c ≤ '9') || ('a' ≤ c && c ≤ 'f') || ('A' ≤ c && c ≤ 'F')
  | asciiAlphaLower, c => 'a' ≤ c && c ≤ 'z'
  | asciiAlphaUpper, c => 'A' ≤ c && c ≤ 'Z'
  | asciiAlpha, c => ('a' ≤ c && c ≤ 'z') || ('A' ≤ c && c ≤ 'Z')
  | asciiAlphanumeric, c =>
    ('a' ≤ c && c ≤ 'z') || ('A' ≤ c && c ≤ 'Z') || ('0' ≤ c && c ≤ '9')
  | alphabetic, c => Text.Property.isAlphabetic c
  | numeric, c => Text.isIn Text.Category.numbers c
  | property name, c => ((property? name).map fun holds => holds c).getD false

end CharClass

/-- An expression as it is written. -/
inductive Surface where
  | literal (text : List Char)
  | caseless (text : List Char)
  | range (first last : Char)
  | call (name : String)
  | ahead (e : Surface)
  | notAhead (e : Surface)
  | seq (left right : Surface)
  | choice (left right : Surface)
  | opt (e : Surface)
  | star (e : Surface)
  | plus (e : Surface)
  | exactly (e : Surface) (count : Nat)
  | atLeast (e : Surface) (low : Nat)
  | atMost (e : Surface) (high : Nat)
  | counted (e : Surface) (low high : Nat)
  deriving DecidableEq, Repr

/-- The number of operators and leaves. -/
def Surface.size : Surface → Nat
  | .literal _ | .caseless _ | .range _ _ | .call _ => 1
  | .ahead e | .notAhead e | .opt e | .star e | .plus e => e.size + 1
  | .exactly e _ | .atLeast e _ | .atMost e _ | .counted e _ _ => e.size + 1
  | .seq a b | .choice a b => a.size + b.size + 1

/-- An expression as it is run. -/
inductive Expr where
  | literal (text : List Char)
  /-- A text in which ASCII letters match either case. -/
  | caseless (text : List Char)
  | one (c : CharClass)
  /-- The start of the input. -/
  | start
  /-- The end of the input, which makes a node of its own. -/
  | finish
  /-- Everything before the first place where one of the texts stands, or before the end. -/
  | upTo (stops : List (List Char))
  | call (name : String)
  | ahead (e : Expr)
  | notAhead (e : Expr)
  | seq (left right : Expr)
  | choice (left right : Expr)
  | opt (e : Expr)
  | star (e : Expr)
  deriving DecidableEq, Repr

/-- The number of operators and leaves. -/
def Expr.size : Expr → Nat
  | .literal _ | .caseless _ | .one _ | .start | .finish | .upTo _ | .call _ => 1
  | .ahead e | .notAhead e | .opt e | .star e => e.size + 1
  | .seq a b | .choice a b => a.size + b.size + 1

/-- What a rule does besides matching its body. -/
inductive RuleKind where
  /-- Makes a node. -/
  | normal
  /-- Makes no node. -/
  | silent
  /-- Makes a node without children; nothing is skipped inside. -/
  | atomic
  /-- Makes a node with children; nothing is skipped inside. -/
  | compound
  /-- Makes a node, and skipping goes on inside even where it was off. -/
  | nonAtomic
  deriving DecidableEq, Repr

/-- A rule as it is written. -/
structure SurfaceRule where
  name : String
  kind : RuleKind
  body : Surface
  deriving DecidableEq, Repr

/-- A rule as it is run. -/
structure Rule where
  name : String
  kind : RuleKind
  body : Expr
  deriving DecidableEq, Repr

end Dialect.Grammar

namespace Dialect

/-- A grammar ready to be run. -/
structure Grammar where
  rules : List Grammar.Rule
  deriving DecidableEq, Repr

namespace Grammar

/-- The rule with a name. -/
def find? (g : Grammar) (name : String) : Option Rule := g.rules.find? fun r => r.name == name

/-- The grammar has a rule with the name. -/
def defines (g : Grammar) (name : String) : Bool := g.rules.any fun r => r.name == name

/-- The total size of the rules. -/
def weight (g : Grammar) : Nat := g.rules.foldl (fun n r => n + r.body.size + 4) 8

end Grammar

end Dialect
