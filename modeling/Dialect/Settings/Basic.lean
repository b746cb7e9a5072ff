/-!
Settings: the profiles that engines are asked for, and the log filter.
-/

namespace Dialect.Settings

/-- What a query engine is asked to offer. -/
structure Query where
  flags : Bool := true
  features : Bool := true
  deriving DecidableEq, Repr

/-- What a template engine is asked to offer, and how it treats quotes. -/
structure Template where
  customFields : Bool := true
  customDirectives : Bool := false
  consistentQuotes : Bool := false
  deriving DecidableEq, Repr

/-- Which log messages are shown. -/
structure Log where
  filter : String := "info"
  deriving DecidableEq, Repr

end Dialect.Settings

namespace Dialect

/-- All settings. -/
structure Settings where
  query : Settings.Query := {}
  template : Settings.Template := {}
  log : Settings.Log := {}
  deriving DecidableEq, Repr

end Dialect
