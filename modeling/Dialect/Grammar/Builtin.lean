import Dialect.Grammar.Expr

/-!
The rules that every grammar can use without defining them, and the names it must not define.

Some of these rules are part of the notation and mean the same in every grammar, even in one that
has rules of these names. The others name properties of characters; a rule of the grammar takes
their place. The words of the notation for a stack of matches are not among them: they are left out,
but no rule may have their names.
-/

namespace Dialect.Grammar

/-- Rules of the notation that match one character of a class. -/
def classRules : List (String × CharClass) := [
  ("ANY", .any), ("ASCII", .ascii), ("ASCII_DIGIT", .asciiDigit),
  ("ASCII_NONZERO_DIGIT", .asciiNonzeroDigit), ("ASCII_BIN_DIGIT", .asciiBinDigit),
  ("ASCII_OCT_DIGIT", .asciiOctDigit), ("ASCII_HEX_DIGIT", .asciiHexDigit),
  ("ASCII_ALPHA_LOWER", .asciiAlphaLower), ("ASCII_ALPHA_UPPER", .asciiAlphaUpper),
  ("ASCII_ALPHA", .asciiAlpha), ("ASCII_ALPHANUMERIC", .asciiAlphanumeric)]

/-- One end of line, in any of its three spellings. -/
def newline : Expr := .choice (.literal ['\n']) (.choice (.literal ['\r', '\n']) (.literal ['\r']))

/-- What a rule of the notation matches. -/
def fixed? (name : String) : Option Expr :=
  if name = "SOI" then some .start
  else if name = "EOI" then some .finish
  else if name = "NEWLINE" then some newline
  else (classRules.lookup name).map .one

/-- The class of characters with a name. -/
def classOf? (name : String) : Option CharClass :=
  if name = "ALPHABETIC" then some .alphabetic
  else if name = "NUMBER" then some .numeric
  else if (CharClass.property? name).isSome then some (.property name)
  else none

/-- The name can be called in every grammar. The words for a stack of matches (`PEEK`, `POP`,
`DROP`, `PEEK_ALL`, `POP_ALL`) cannot: a grammar that calls one is not valid here. -/
def isBuiltin (name : String) : Bool := (fixed? name).isSome || (classOf? name).isSome

/-- What a call matches, given whether the grammar has a rule of that name. -/
def callOf (defined : Bool) (name : String) : Expr :=
  match fixed? name with
  | some e => e
  | none =>
    if defined then .call name
    else
      match classOf? name with
      | some c => .one c
      | none => .call name

/-- Words of the notation that no rule may have as its name. -/
def keywords : List String :=
  ["_", "ANY", "DROP", "EOI", "PEEK", "PEEK_ALL", "POP", "POP_ALL", "PUSH", "SOI"]

end Dialect.Grammar
