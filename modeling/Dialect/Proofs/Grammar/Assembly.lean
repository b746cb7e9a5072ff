import Dialect.Proofs.Grammar.Composition
import Mathlib.Data.List.Induction

/-!
What composing gives for every registration of fragments.

A registry is filled entry by entry, and keeps for each slot the texts registered for it, in their
order (`Fragments.get_ofList`). So only these sequences count, however the entries of different
slots are mixed (`Fragments.ofList_congr`). Composing then either meets all its conditions
(`Skeleton.Fits`) or stops at the first one that fails (`Skeleton.FirstFault`); there is no third
case (`Skeleton.fits_or_fault`), and each case decides the outcome.

Whether the composed text is a grammar is what `Grammar.read?` says. It refuses the words for a
stack of matches, so a text that uses them counts as no grammar.
-/

namespace Dialect

namespace SortedMap

variable {κ ν : Type} [Ord κ] [DecidableEq κ] [Std.LawfulEqOrd κ] [Std.TransOrd κ]

omit [DecidableEq κ] in
/-- A search through the keys finds the least key with the property. -/
theorem find?_keys_eq_some {m : SortedMap κ ν} {p : κ → Bool} {k : κ} :
    m.keys.find? p = some k ↔
      k ∈ m.keys ∧ p k = true ∧ ∀ x ∈ m.keys, p x = true → compare k x ≠ .gt := by
  have increasing : m.keys.Pairwise fun a b => compare a b = .lt := by
    rw [keys, List.pairwise_map]
    exact m.increasing
  constructor
  · intro found
    obtain ⟨holds, before, after, keys, passed⟩ := List.find?_eq_some_iff_append.1 found
    rw [keys] at increasing
    refine ⟨List.mem_of_find?_eq_some found, holds, ?_⟩
    intro x mem px
    rw [keys] at mem
    rcases List.mem_append.1 mem with early | late
    · have refused := passed x early
      simp [px] at refused
    rcases List.mem_cons.1 late with rfl | late
    · simp
    have below := (List.pairwise_cons.1 (List.pairwise_append.1 increasing).2.1).1 x late
    simp [below]
  · rintro ⟨mem, holds, least⟩
    cases found : m.keys.find? p with
    | none => exact absurd holds (List.find?_eq_none.1 found k mem)
    | some other =>
        obtain ⟨holds', before, after, keys, passed⟩ := List.find?_eq_some_iff_append.1 found
        rw [keys] at increasing mem
        rcases List.mem_append.1 mem with early | late
        · have refused := passed k early
          simp [holds] at refused
        rcases List.mem_cons.1 late with rfl | late
        · rfl
        -- The key found stands before `k`, but `k` was the least.
        have below := (List.pairwise_cons.1 (List.pairwise_append.1 increasing).2.1).1 k late
        have above : compare k other = .gt := Std.OrientedCmp.gt_iff_lt.2 below
        exact absurd above (least other (List.mem_of_find?_eq_some found) holds')

end SortedMap

/-- The texts that a list of registrations gives a slot, in their order. -/
def textsFor (entries : List (String × String)) (slot : String) : List String :=
  (entries.filter fun e => e.1 = slot).map (·.2)

theorem textsFor_concat (entries : List (String × String)) (e : String × String) (slot : String) :
    textsFor (entries ++ [e]) slot =
      if e.1 = slot then textsFor entries slot ++ [e.2] else textsFor entries slot := by
  unfold textsFor
  by_cases same : e.1 = slot <;> simp [same]

theorem textsFor_ne_nil {entries : List (String × String)} {slot : String} :
    textsFor entries slot ≠ [] ↔ ∃ e ∈ entries, e.1 = slot := by
  simp [textsFor, List.filter_eq_nil_iff]

namespace Fragments

theorem ofList_concat (entries : List (String × String)) (e : String × String) :
    ofList (entries ++ [e]) = (ofList entries).add e.1 e.2 := by
  simp [ofList]

/-- A registry lists a slot with the texts registered for it, if there are any. -/
theorem get?_ofList (entries : List (String × String)) (slot : String) :
    (ofList entries).slots.get? slot =
      if textsFor entries slot = [] then none else some (textsFor entries slot) := by
  induction entries using List.reverseRecOn with
  | nil => rfl
  | append_singleton entries e ih =>
      rw [ofList_concat, add, SortedMap.get?_alter, textsFor_concat]
      by_cases same : e.1 = slot
      · subst same
        rw [ih]
        by_cases none : textsFor entries e.1 = [] <;> simp [none]
      · rw [if_neg (Ne.symm same), if_neg same, ih]

/-- Nothing that is registered for a slot is lost, and its order is kept. -/
theorem get_ofList (entries : List (String × String)) (slot : String) :
    (ofList entries).get slot = textsFor entries slot := by
  rw [get, SortedMap.getD, get?_ofList]
  by_cases none : textsFor entries slot = [] <;> simp [none]

theorem mem_slotNames_ofList {entries : List (String × String)} {slot : String} :
    slot ∈ (ofList entries).slotNames ↔ ∃ e ∈ entries, e.1 = slot := by
  rw [slotNames, SortedMap.mem_keys, get?_ofList, ← textsFor_ne_nil]
  by_cases none : textsFor entries slot = [] <;> simp [none]

/-- Registrations that give every slot the same texts in the same order fill the same registry. -/
theorem ofList_congr {entries others : List (String × String)}
    (same : ∀ slot, textsFor entries slot = textsFor others slot) :
    ofList entries = ofList others := by
  have slots : (ofList entries).slots = (ofList others).slots := by
    apply SortedMap.ext
    intro slot
    rw [get?_ofList, get?_ofList, same]
  exact congrArg Fragments.mk slots

end Fragments

namespace Skeleton

/-- The text of a skeleton with these registrations: its pieces in order, and for a slot its enabled
gates as they are declared, then its fragments as they were registered, each between line ends. -/
def layout (s : Skeleton) (capabilities : Capabilities) (entries : List (String × String)) :
    String :=
  String.join (s.pieces.flatMap fun
    | .text text => [text]
    | .slot name =>
      (s.gates.filter fun g => capabilities.enabled g.capability ∧ g.slot = name).map (·.text)
        ++ (textsFor entries name).flatMap fun text => ["\n", text, "\n"])

/-- The skeleton without the gates that the capabilities close. -/
def opened (s : Skeleton) (capabilities : Capabilities) : Skeleton :=
  { s with gates := s.gates.filter fun g => capabilities.enabled g.capability }

/-- One of the capabilities that the skeleton lives on is enabled, unless it lives on none. -/
def Wanted (s : Skeleton) (capabilities : Capabilities) : Prop :=
  s.requiresAny = [] ∨ ∃ c ∈ s.requiresAny, capabilities.enabled c = true

/-- Every fragment is registered for a slot that the skeleton has. -/
def Placed (s : Skeleton) (entries : List (String × String)) : Prop :=
  ∀ e ∈ entries, Piece.slot e.1 ∈ s.pieces

/-- All conditions for composing are met, and the composed text is read as `g`. -/
structure Fits (s : Skeleton) (capabilities : Capabilities) (entries : List (String × String))
    (g : Grammar) : Prop where
  wanted : s.Wanted capabilities
  placed : s.Placed entries
  read : Grammar.read? (s.layout capabilities entries).toList = some g
  start : g.defines s.start = true
  contracts : ∀ c ∈ s.contracts, capabilities.enabled c.1 = true → g.defines c.2 = true

/-- The first condition for composing that fails: those that come before it are met. -/
inductive FirstFault (s : Skeleton) (capabilities : Capabilities)
    (entries : List (String × String)) : GrammarFault → Prop where
  | nothingEnabled (unwanted : ¬ s.Wanted capabilities) :
      FirstFault s capabilities entries (.nothingEnabled s.requiresAny)
  /-- Of several such slots the one whose name comes first. -/
  | unknownSlot {slot : String} (wanted : s.Wanted capabilities)
      (registered : ∃ e ∈ entries, e.1 = slot) (unknown : Piece.slot slot ∉ s.pieces)
      (least : ∀ e ∈ entries, Piece.slot e.1 ∉ s.pieces → compare slot e.1 ≠ .gt) :
      FirstFault s capabilities entries (.unknownSlot slot)
  | invalid (wanted : s.Wanted capabilities) (placed : s.Placed entries)
      (unread : Grammar.read? (s.layout capabilities entries).toList = none) :
      FirstFault s capabilities entries .invalid
  | missingStart {g : Grammar} (wanted : s.Wanted capabilities) (placed : s.Placed entries)
      (read : Grammar.read? (s.layout capabilities entries).toList = some g)
      (missing : g.defines s.start = false) :
      FirstFault s capabilities entries (.missingStart s.start)
  /-- Of several broken contracts the one declared first. -/
  | missingRule {g : Grammar} {before after : List (Capability × String)} {capability : Capability}
      {rule : String} (wanted : s.Wanted capabilities) (placed : s.Placed entries)
      (read : Grammar.read? (s.layout capabilities entries).toList = some g)
      (start : g.defines s.start = true)
      (declared : s.contracts = before ++ (capability, rule) :: after)
      (enabled : capabilities.enabled capability = true) (missing : g.defines rule = false)
      (kept : ∀ c ∈ before, capabilities.enabled c.1 = true → g.defines c.2 = true) :
      FirstFault s capabilities entries (.missingRule capability rule)

section

variable {s : Skeleton} {capabilities : Capabilities} {entries : List (String × String)}
  {g : Grammar}

theorem hasSlot_iff {slot : String} : s.hasSlot slot = true ↔ Piece.slot slot ∈ s.pieces := by
  simp [hasSlot]

/-- The composed text is the layout of the registrations. -/
theorem source_ofList (s : Skeleton) (capabilities : Capabilities)
    (entries : List (String × String)) :
    s.source capabilities (.ofList entries) = s.layout capabilities entries := by
  apply String.toList_injective
  rw [source_toList, layout, String.toList_join, List.flatMap_assoc]
  congr 1
  funext piece
  cases piece with
  | text text => simp
  | slot name =>
      have gates : (s.gates.filter fun g => g.slot == name && capabilities.enabled g.capability) =
          s.gates.filter fun g => capabilities.enabled g.capability ∧ g.slot = name := by
        congr 1
        funext g
        rw [Bool.eq_iff_iff]
        simp [and_comm]
      have line (text : String) : ["\n", text, "\n"].flatMap String.toList =
          '\n' :: (text.toList ++ ['\n']) := by
        rw [List.flatMap_cons, List.flatMap_cons, List.flatMap_cons, List.flatMap_nil]
        rfl
      dsimp only
      rw [slotText_toList, Fragments.get_ofList, gates, List.flatMap_append, List.flatMap_map,
        List.flatMap_assoc]
      simp only [line]

/-- A gate that is closed adds nothing: the text is the same without it. -/
theorem source_opened (fragments : Fragments) :
    (s.opened capabilities).source capabilities fragments = s.source capabilities fragments := by
  apply String.toList_injective
  rw [source_toList, source_toList]
  change s.pieces.flatMap _ = s.pieces.flatMap _
  congr 1
  funext piece
  cases piece with
  | text text => rfl
  | slot name =>
      dsimp only
      rw [slotText_toList, slotText_toList]
      simp [opened, List.filter_filter]

theorem compose_opened (fragments : Fragments) :
    (s.opened capabilities).compose capabilities fragments = s.compose capabilities fragments := by
  unfold compose
  rw [source_opened]
  rfl

theorem wanted_iff :
    s.Wanted capabilities ↔
      (!s.requiresAny.isEmpty && !s.requiresAny.any capabilities.enabled) = false := by
  rw [Wanted, Bool.and_eq_false_iff]
  simp

theorem placed_iff :
    s.Placed entries ↔
      (Fragments.ofList entries).slotNames.find? (fun slot => !s.hasSlot slot) = none := by
  rw [List.find?_eq_none]
  constructor
  · intro placed slot named
    obtain ⟨e, mem, rfl⟩ := Fragments.mem_slotNames_ofList.1 named
    simpa [hasSlot_iff] using placed e mem
  · intro found e mem
    have known := found e.1 (Fragments.mem_slotNames_ofList.2 ⟨e, mem, rfl⟩)
    simpa [hasSlot_iff] using known

theorem unknownSlot_iff {slot : String} :
    (Fragments.ofList entries).slotNames.find? (fun slot => !s.hasSlot slot) = some slot ↔
      (∃ e ∈ entries, e.1 = slot) ∧ Piece.slot slot ∉ s.pieces ∧
        ∀ e ∈ entries, Piece.slot e.1 ∉ s.pieces → compare slot e.1 ≠ .gt := by
  have unknown (name : String) : (!s.hasSlot name) = true ↔ Piece.slot name ∉ s.pieces := by
    rw [← hasSlot_iff, Bool.not_eq_true', Bool.not_eq_true]
  have named (name : String) := @Fragments.mem_slotNames_ofList entries name
  unfold Fragments.slotNames at named ⊢
  rw [SortedMap.find?_keys_eq_some]
  simp only [unknown, named]
  constructor
  · rintro ⟨registered, missing, least⟩
    exact ⟨registered, missing, fun e mem => least e.1 ⟨e, mem, rfl⟩⟩
  · rintro ⟨registered, missing, least⟩
    refine ⟨registered, missing, ?_⟩
    rintro _ ⟨e, mem, rfl⟩
    exact least e mem

/-- No contract is broken when every enabled capability has its rule. -/
theorem brokenContract?_eq_none :
    s.brokenContract? capabilities g = none ↔
      ∀ c ∈ s.contracts, capabilities.enabled c.1 = true → g.defines c.2 = true := by
  simp [brokenContract?, List.find?_eq_none]

/-- The contract that is reported is the first one declared that is broken. -/
theorem brokenContract?_eq_some {capability : Capability} {rule : String} :
    s.brokenContract? capabilities g = some (capability, rule) ↔
      ∃ before after, s.contracts = before ++ (capability, rule) :: after ∧
        capabilities.enabled capability = true ∧ g.defines rule = false ∧
        ∀ c ∈ before, capabilities.enabled c.1 = true → g.defines c.2 = true := by
  rw [brokenContract?, List.find?_eq_some_iff_append]
  constructor
  · rintro ⟨broken, before, after, declared, kept⟩
    simp only [Bool.and_eq_true, Bool.not_eq_true'] at broken
    refine ⟨before, after, declared, broken.1, broken.2, ?_⟩
    intro c mem enabled
    simpa [enabled] using kept c mem
  · rintro ⟨before, after, declared, enabled, missing, kept⟩
    refine ⟨by simp [enabled, missing], before, after, declared, ?_⟩
    intro c mem
    by_cases open_ : capabilities.enabled c.1 = true
    · simp [kept c mem open_]
    · simp [open_]

/-- Where every condition is met the grammar is composed. -/
theorem Fits.compose (fits : s.Fits capabilities entries g) :
    s.compose capabilities (.ofList entries) =
      .ok ⟨s.name, s.start, capabilities, s.layout capabilities entries, g⟩ := by
  have wanted := wanted_iff.1 fits.wanted
  have placed := placed_iff.1 fits.placed
  have kept := brokenContract?_eq_none.2 fits.contracts
  simp [Skeleton.compose, wanted, placed, source_ofList, fits.read, fits.start, kept]

/-- Where a condition fails the first one that does is reported. -/
theorem FirstFault.compose {fault : GrammarFault}
    (first : s.FirstFault capabilities entries fault) :
    s.compose capabilities (.ofList entries) = .error (.grammar s.name fault) := by
  cases first with
  | nothingEnabled unwanted =>
      have unwanted := Bool.not_eq_false _ ▸ mt wanted_iff.2 unwanted
      simp only [Skeleton.compose, unwanted, if_true]
  | unknownSlot wanted registered unknown least =>
      have wanted := wanted_iff.1 wanted
      have found := unknownSlot_iff.2 ⟨registered, unknown, least⟩
      simp [Skeleton.compose, wanted, found]
  | invalid wanted placed unread =>
      have wanted := wanted_iff.1 wanted
      have placed := placed_iff.1 placed
      simp [Skeleton.compose, wanted, placed, source_ofList, unread]
  | missingStart wanted placed read missing =>
      have wanted := wanted_iff.1 wanted
      have placed := placed_iff.1 placed
      simp [Skeleton.compose, wanted, placed, source_ofList, read, missing]
  | missingRule wanted placed read start declared enabled missing kept =>
      have wanted := wanted_iff.1 wanted
      have placed := placed_iff.1 placed
      have broken := brokenContract?_eq_some.2 ⟨_, _, declared, enabled, missing, kept⟩
      simp [Skeleton.compose, wanted, placed, source_ofList, read, start, broken]

/-- Every condition is met, or one of them is the first that fails. -/
theorem fits_or_fault (s : Skeleton) (capabilities : Capabilities)
    (entries : List (String × String)) :
    (∃ g, s.Fits capabilities entries g) ∨ ∃ fault, s.FirstFault capabilities entries fault := by
  by_cases wanted : s.Wanted capabilities
  swap
  · exact .inr ⟨_, .nothingEnabled wanted⟩
  cases slots : (Fragments.ofList entries).slotNames.find? (fun slot => !s.hasSlot slot) with
  | some slot =>
      obtain ⟨registered, unknown, least⟩ := unknownSlot_iff.1 slots
      exact .inr ⟨_, .unknownSlot wanted registered unknown least⟩
  | none =>
      have placed := placed_iff.2 slots
      cases read : Grammar.read? (s.layout capabilities entries).toList with
      | none => exact .inr ⟨_, .invalid wanted placed read⟩
      | some g =>
          by_cases start : g.defines s.start = true
          swap
          · exact .inr ⟨_, .missingStart wanted placed read (Bool.not_eq_true _ ▸ start)⟩
          cases broken : s.brokenContract? capabilities g with
          | none => exact .inl ⟨g, wanted, placed, read, start, brokenContract?_eq_none.1 broken⟩
          | some contract =>
              obtain ⟨before, after, declared, enabled, missing, kept⟩ :=
                brokenContract?_eq_some.1 broken
              exact .inr ⟨_, .missingRule wanted placed read start declared enabled missing kept⟩

end

/-- Composing is faithful and checks everything. It gives a grammar exactly when every condition is
met, then with the layout of the registrations as its text; it fails exactly with the first
condition that is not. Closed gates count for nothing, and of the registrations only what each slot
is given counts, in its order. Which texts are grammars is left to `Grammar.read?`, and with it that
those with a stack of matches are not. -/
theorem compose_faithful (s : Skeleton) (capabilities : Capabilities)
    (entries : List (String × String)) :
    (∀ made, s.compose capabilities (.ofList entries) = .ok made ↔
      ∃ g, s.Fits capabilities entries g ∧
        made = ⟨s.name, s.start, capabilities, s.layout capabilities entries, g⟩) ∧
    (∀ error, s.compose capabilities (.ofList entries) = .error error ↔
      ∃ fault, s.FirstFault capabilities entries fault ∧ error = .grammar s.name fault) ∧
    (s.opened capabilities).compose capabilities (.ofList entries) =
      s.compose capabilities (.ofList entries) ∧
    ∀ others, (∀ slot, textsFor others slot = textsFor entries slot) →
      s.compose capabilities (.ofList others) = s.compose capabilities (.ofList entries) := by
  refine ⟨?_, ?_, compose_opened _, ?_⟩
  · intro made
    constructor
    · intro composed
      rcases fits_or_fault s capabilities entries with ⟨g, fits⟩ | ⟨fault, first⟩
      · rw [fits.compose] at composed
        exact ⟨g, fits, (Except.ok.inj composed).symm⟩
      · rw [first.compose] at composed
        cases composed
    · rintro ⟨g, fits, rfl⟩
      exact fits.compose
  · intro error
    constructor
    · intro failed
      rcases fits_or_fault s capabilities entries with ⟨g, fits⟩ | ⟨fault, first⟩
      · rw [fits.compose] at failed
        cases failed
      · rw [first.compose] at failed
        exact ⟨fault, first, (Except.error.inj failed).symm⟩
    · rintro ⟨fault, first, rfl⟩
      exact first.compose
  · intro others same
    rw [Fragments.ofList_congr same]

end Skeleton

end Dialect
