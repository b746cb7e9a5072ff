import Dialect.Capability
import Dialect.Feature.Symbol
import Dialect.Path.Basic
import Dialect.Value.Basic

/-!
What can go wrong.

Each family of errors lists its causes; `Error.message` is the only place that words them.
-/

namespace Dialect

/-- Why a dataset or a configuration is refused. -/
inductive ConfigFault where
  /-- A dataset must be an object of records. -/
  | datasetKind (found : Value.Kind)
  /-- Positions are counted in words of 32 bits. -/
  | datasetSize (records : Nat)
  /-- The settings could not be read. -/
  | settings
  | logFilter (filter : String)
  deriving DecidableEq, Repr

/-- Why a grammar could not be composed. -/
inductive GrammarFault where
  /-- None of the capabilities that the dialect lives on is enabled. -/
  | nothingEnabled (wanted : List Capability)
  | unknownSlot (slot : String)
  /-- The composed text is not a valid grammar. -/
  | invalid
  | missingStart (rule : String)
  /-- A capability is enabled without the rule it promises. -/
  | missingRule (capability : Capability) (rule : String)
  deriving DecidableEq, Repr

/-- Why a text or a parse tree is refused. -/
inductive ParseFault where
  /-- The grammar does not match; the place is the furthest one where a rule was tried. -/
  | noMatch (line column : Nat)
  /-- A node does not have the shape its rule promises. -/
  | malformed (rule detail : String)
  /-- A node that wraps another has none or several. -/
  | notSingle (rule : String) (count : Nat)
  /-- A quoted literal with an unknown escape, a control character or half a pair. -/
  | badLiteral (quoted : String)
  /-- An embedding refuses the node. -/
  | refused (reason : String)
  deriving DecidableEq, Repr

/-- Why two features cannot be combined or compared. -/
inductive TypeFault where
  | divisionByZero
  | inapplicable (op : Operator) (left right : ScalarKind)
  | unordered
  | incomparable (left right : ScalarKind)
  | noArguments
  deriving DecidableEq, Repr

/-- Why a path is refused or leads nowhere. -/
inductive FieldFault where
  | noLeadingDot
  | emptySegment
  | noSuchField
  /-- The route enters a list that no pin selects from. -/
  | unpinnedList
  | intoScalar
  | outOfRange (index size : Nat)
  | pinnedNonList
  | noEntry (id : String)
  deriving DecidableEq, Repr

/-- Why a list cannot be iterated. -/
inductive IterationFault where
  | noList (required : List FieldPath)
  | severalLists (found : List FieldPath)
  | varyingSeparator (path list : FieldPath)
  | notList (path : FieldPath) (kind : Value.Kind)
  /-- A word that belongs to a join over one list is used elsewhere. -/
  | outsideJoin (word : String) (list : FieldPath)
  deriving DecidableEq, Repr

/-- An error, by where it arises. -/
inductive Error where
  | config (fault : ConfigFault)
  | grammar (grammar : String) (fault : GrammarFault)
  | parse (fault : ParseFault)
  /-- Evaluating a comparison failed for one entry. -/
  | evaluation (id : String) (cause : Error)
  | typeMismatch (fault : TypeFault)
  | field (path : String) (fault : FieldFault)
  | iteration (fault : IterationFault)
  /-- An embedding failed, in its own words. -/
  | vocabulary (reason : String)
  deriving DecidableEq, Repr

/-- Texts with a comma between neighbours. -/
def commaSeparated (texts : List String) : String := ", ".intercalate texts

def ConfigFault.message : ConfigFault → String
  | .datasetKind found => "a dataset is a JSON object keyed by id, found " ++ found.name
  | .datasetSize n => "dataset of " ++ toString n ++ " records exceeds the supported size"
  | .settings => "invalid settings"
  | .logFilter filter => "invalid log filter '" ++ filter ++ "'"

def GrammarFault.message (grammar : String) : GrammarFault → String
  | .nothingEnabled wanted =>
    grammar ++ " grammar needs at least one of: " ++ commaSeparated (wanted.map Capability.title)
  | .unknownSlot slot => grammar ++ " grammar has no slot named '" ++ slot ++ "'"
  | .invalid => "composed " ++ grammar ++ " grammar is invalid:"
  | .missingStart rule => grammar ++ " grammar lacks its start rule '" ++ rule ++ "'"
  | .missingRule capability rule =>
    capability.title ++ " enabled but the " ++ grammar ++ " grammar does not define '" ++ rule
      ++ "'"

def ParseFault.message : ParseFault → String
  | .noMatch line column => "no match at " ++ toString line ++ ":" ++ toString column
  | .malformed rule detail => "unexpected '" ++ rule ++ "' node: " ++ detail
  | .notSingle rule count =>
    "'" ++ rule ++ "' should wrap exactly one node, found " ++ toString count
  | .badLiteral quoted => "invalid string literal " ++ quoted
  | .refused reason => reason

def TypeFault.message : TypeFault → String
  | .divisionByZero => "division by zero"
  | .inapplicable op left right =>
    "cannot apply '" ++ op.symbol ++ "' to " ++ left.name ++ " and " ++ right.name
  | .unordered => "NaN cannot be ordered"
  | .incomparable left right => "cannot order " ++ left.name ++ " against " ++ right.name
  | .noArguments => "max/min needs at least one argument"

def FieldFault.message : FieldFault → String
  | .noLeadingDot => "a field path starts with '.'"
  | .emptySegment => "empty path segment"
  | .noSuchField => "no such field"
  | .unpinnedList => "list reached without an index assignment"
  | .intoScalar => "cannot descend into a scalar"
  | .outOfRange index size =>
    "index " ++ toString index ++ " out of range for " ++ toString size ++ " elements"
  | .pinnedNonList => "index assigned to a value that is not a list"
  | .noEntry id => "no entry with id " ++ id

def IterationFault.message : IterationFault → String
  | .noList required =>
    "join reaches no list through "
      ++ (if required.isEmpty then "no fields" else commaSeparated (required.map FieldPath.text))
  | .severalLists found =>
    "join reaches several lists: " ++ commaSeparated (found.map FieldPath.text)
  | .varyingSeparator path list =>
    "join separator reads " ++ path.text ++ " which varies along " ++ list.text
  | .notList path kind => path.text ++ " is " ++ kind.name ++ ", not a list"
  | .outsideJoin word list => word ++ " is only available inside a join over " ++ list.text

namespace Error

/-- The error in words. -/
def message : Error → String
  | .config fault => "Config error: " ++ fault.message
  | .grammar name fault => "Grammar error: " ++ fault.message name
  | .parse fault => "Parse error: " ++ fault.message
  | .evaluation id cause => "Evaluation error for " ++ id ++ ": " ++ cause.message
  | .typeMismatch fault => "Type mismatch: " ++ fault.message
  | .field path fault => "Field error at " ++ path ++ ": " ++ fault.message
  | .iteration fault => "Iteration error: " ++ fault.message
  | .vocabulary reason => "Vocabulary error: " ++ reason

/-- A node without the shape its rule promises. -/
def malformed (rule detail : String) : Error := .parse (.malformed rule detail)

end Error

end Dialect
