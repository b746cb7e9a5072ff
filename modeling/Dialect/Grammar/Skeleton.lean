import Dialect.Error
import Dialect.Grammar.Normal
import Dialect.Grammar.Reader
import Dialect.Grammar.Run
import Dialect.Grammar.Validity

/-!
Composing a grammar.

A dialect ships a skeleton: grammar text interleaved with named slots. An embedding registers
fragments for slots, and a profile of capabilities opens or closes gates, texts that hook the
fragments into the fixed rules. Only the composed text is validated, never a fragment by itself.
-/

namespace Dialect

namespace Grammar

/-- Reads, validates and normalises the text of a grammar; one that keeps matches on a stack is
refused, as the words for it are left out. -/
def read? (source : List Char) : Option Grammar :=
  match Surface.readRules source with
  | some rules => if isValid rules then some ⟨rules.map (SurfaceRule.normal rules)⟩ else none
  | none => none

end Grammar

/-- A piece of a skeleton. -/
inductive Piece where
  | text (text : String)
  | slot (name : String)
  deriving DecidableEq, Repr

/-- A text that stands in a slot while a capability is enabled. -/
structure Gate where
  slot : String
  capability : Capability
  text : String
  deriving DecidableEq, Repr

/-- The fixed part of a dialect's grammar. -/
structure Skeleton where
  name : String
  start : String
  pieces : List Piece
  gates : List Gate
  /-- At least one of these must be enabled, unless there are none. -/
  requiresAny : List Capability
  /-- The rules that an embedding has to define once a capability is enabled. -/
  contracts : List (Capability × String)
  deriving DecidableEq, Repr

/-- The skeleton has a slot of the name. -/
def Skeleton.hasSlot (s : Skeleton) (name : String) : Bool :=
  s.pieces.any fun p => p == .slot name

/-- The texts that an embedding registers, per slot in the order of registration. -/
structure Fragments where
  slots : SortedMap String (List String)

namespace Fragments

def empty : Fragments := ⟨∅⟩

instance : Inhabited Fragments := ⟨empty⟩

/-- The texts registered for a slot. -/
def get (f : Fragments) (slot : String) : List String := f.slots.getD slot []

/-- Registers one more text for a slot. -/
def add (f : Fragments) (slot text : String) : Fragments :=
  ⟨f.slots.alter slot fun texts => texts.getD [] ++ [text]⟩

/-- Registers texts for slots, in order. -/
def ofList (entries : List (String × String)) : Fragments :=
  entries.foldl (fun f e => f.add e.1 e.2) empty

/-- The slots that have texts, in order. -/
def slotNames (f : Fragments) : List String := f.slots.keys

theorem get_add (f : Fragments) (slot text other : String) :
    (f.add slot text).get other = if other = slot then f.get slot ++ [text] else f.get other := by
  unfold get add SortedMap.getD
  rw [SortedMap.get?_alter]
  split <;> rfl

end Fragments

/-- A composed grammar that passed every check. -/
structure ComposedGrammar where
  name : String
  start : String
  capabilities : Capabilities
  source : String
  grammar : Grammar

namespace Skeleton

/-- The text that stands in a slot: its open gates in the order of declaration, then its fragments
in the order of registration, each on lines of its own. -/
def slotText (s : Skeleton) (capabilities : Capabilities) (fragments : Fragments) (slot : String) :
    String :=
  String.join ((s.gates.filter fun g => g.slot == slot && capabilities.enabled g.capability).map
    Gate.text)
  ++ String.join ((fragments.get slot).map fun text => "\n" ++ text ++ "\n")

/-- The composed text. -/
def source (s : Skeleton) (capabilities : Capabilities) (fragments : Fragments) : String :=
  String.join (s.pieces.map fun
    | .text text => text
    | .slot name => s.slotText capabilities fragments name)

/-- The first contract that the grammar breaks. -/
def brokenContract? (s : Skeleton) (capabilities : Capabilities) (g : Grammar) :
    Option (Capability × String) :=
  s.contracts.find? fun (c, rule) => capabilities.enabled c && !g.defines rule

/-- Composes the grammar of a profile with an embedding's fragments. -/
def compose (s : Skeleton) (capabilities : Capabilities) (fragments : Fragments) :
    Except Error ComposedGrammar :=
  let failed (fault : GrammarFault) : Except Error ComposedGrammar := .error (.grammar s.name fault)
  if !s.requiresAny.isEmpty && !s.requiresAny.any capabilities.enabled then
    failed (.nothingEnabled s.requiresAny)
  else
    match fragments.slotNames.find? fun slot => !s.hasSlot slot with
    | some unknown => failed (.unknownSlot unknown)
    | none =>
      let source := s.source capabilities fragments
      match Grammar.read? source.toList with
      | none => failed .invalid
      | some g =>
        if !g.defines s.start then failed (.missingStart s.start)
        else
          match s.brokenContract? capabilities g with
          | some (capability, rule) => failed (.missingRule capability rule)
          | none => .ok ⟨s.name, s.start, capabilities, source, g⟩

end Skeleton

/-- The parser that runs a composed grammar. -/
def ComposedGrammar.parser (g : ComposedGrammar) : Parser := g.grammar.parse g.start

end Dialect
