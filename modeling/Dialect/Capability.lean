/-!
Capabilities: the parts of a dialect that an embedding may offer and an engine may switch off.
-/

namespace Dialect

/-- An optional part of a dialect. -/
inductive Capability where
  | flags
  | features
  | customFields
  | customDirectives
  deriving DecidableEq, Repr

namespace Capability

/-- All capabilities, in the order in which they are listed. -/
def all : List Capability := [.flags, .features, .customFields, .customDirectives]

/-- The capability as messages name it. -/
def title : Capability → String
  | .flags => "flags"
  | .features => "features"
  | .customFields => "custom fields"
  | .customDirectives => "custom directives"

end Capability

/-- A profile: which capabilities are enabled. -/
structure Capabilities where
  flags : Bool := false
  features : Bool := false
  customFields : Bool := false
  customDirectives : Bool := false
  deriving DecidableEq, Repr

namespace Capabilities

/-- Nothing is enabled. -/
def none : Capabilities := {}

/-- Everything is enabled. -/
def all : Capabilities := ⟨true, true, true, true⟩

/-- The capability is enabled. -/
def enabled (p : Capabilities) : Capability → Bool
  | .flags => p.flags
  | .features => p.features
  | .customFields => p.customFields
  | .customDirectives => p.customDirectives

/-- The profile with one capability switched on or off. -/
def set (p : Capabilities) (c : Capability) (on : Bool) : Capabilities :=
  match c with
  | .flags => { p with flags := on }
  | .features => { p with features := on }
  | .customFields => { p with customFields := on }
  | .customDirectives => { p with customDirectives := on }

/-- What both profiles enable. -/
def inter (p q : Capabilities) : Capabilities :=
  ⟨p.flags && q.flags, p.features && q.features, p.customFields && q.customFields,
    p.customDirectives && q.customDirectives⟩

/-- The profile that enables exactly the listed capabilities. -/
def ofList (cs : List Capability) : Capabilities := cs.foldl (fun p c => p.set c true) none

/-- The enabled capabilities, in the order in which capabilities are listed. -/
def toList (p : Capabilities) : List Capability := Capability.all.filter p.enabled

@[simp] theorem enabled_set (p : Capabilities) (c d : Capability) (on : Bool) :
    (p.set c on).enabled d = if d = c then on else p.enabled d := by
  cases c <;> cases d <;> rfl

@[simp] theorem enabled_inter (p q : Capabilities) (c : Capability) :
    (p.inter q).enabled c = (p.enabled c && q.enabled c) := by
  cases c <;> rfl

@[simp] theorem enabled_none (c : Capability) : none.enabled c = false := by cases c <;> rfl

end Capabilities

end Dialect
