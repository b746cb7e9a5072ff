import Dialect.Error

/-!
Diagnostics: warnings about look-ups that find nothing instead of failing.

A `Reported` computation carries the diagnostics that were reported on the way beside its result, in
order, and keeps them also when it fails. Main statements: `Reported.bind_ok`,
`Reported.bind_error`.
-/

namespace Dialect

/-- A warning. -/
inductive Diagnostic where
  | unknownCategory (category : String) (known : List String)
  | unmatchedPattern (term : String)
  deriving DecidableEq, Repr

namespace Diagnostic

/-- The warning in words. -/
def message : Diagnostic → String
  | .unknownCategory category known =>
    category ++ " is not a valid category, use one of [" ++ commaSeparated known ++ "]"
  | .unmatchedPattern term => "no match for pattern " ++ term

end Diagnostic

/-- Diagnostics that have been collected and not yet taken, oldest first. -/
structure Collected where
  pending : List Diagnostic := []
  deriving DecidableEq, Repr

namespace Collected

def report (c : Collected) (d : Diagnostic) : Collected := ⟨c.pending ++ [d]⟩

/-- All pending diagnostics, and the collection without them. -/
def take (c : Collected) : List Diagnostic × Collected := (c.pending, {})

def size (c : Collected) : Nat := c.pending.length

def isEmpty (c : Collected) : Bool := c.pending.isEmpty

end Collected

/-- A result or an error, with the diagnostics reported on the way. -/
structure Reported (α : Type) where
  result : Except Error α
  diagnostics : List Diagnostic := []

namespace Reported

variable {α β : Type}

/-- Success without diagnostics. -/
def ok (a : α) : Reported α := ⟨.ok a, []⟩

/-- Failure without diagnostics. -/
def fail (e : Error) : Reported α := ⟨.error e, []⟩

/-- A result to which nothing is reported. -/
def ofExcept (r : Except Error α) : Reported α := ⟨r, []⟩

/-- One computation after another; a failure ends it, and the diagnostics of both are kept in
order. -/
def bind (x : Reported α) (f : α → Reported β) : Reported β :=
  match x.result with
  | .ok a => ⟨(f a).result, x.diagnostics ++ (f a).diagnostics⟩
  | .error e => ⟨.error e, x.diagnostics⟩

instance : Monad Reported where
  pure := ok
  bind := bind

/-- Success with one diagnostic. -/
def warn (d : Diagnostic) (a : α) : Reported α := ⟨.ok a, [d]⟩

theorem bind_ok {x : Reported α} {a : α} (h : x.result = .ok a) (f : α → Reported β) :
    (x >>= f) = ⟨(f a).result, x.diagnostics ++ (f a).diagnostics⟩ := by
  simp only [Bind.bind, bind, h]

theorem bind_error {x : Reported α} {e : Error} (h : x.result = .error e) (f : α → Reported β) :
    (x >>= f) = ⟨.error e, x.diagnostics⟩ := by
  simp only [Bind.bind, bind, h]

end Reported

end Dialect
