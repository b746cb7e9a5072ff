import Dialect.Proofs.Path.Resolution

/-!
Where the walk along a path stops, and what its error says.

A path that does not resolve has one depth at which its walk stops: its beginnings with fewer
segments resolve, and none of the others does. There are five ways to stop (`StopsAt`). The error
names the place that the walk did not get past; where it could not enter a value, this is the path
of the value, one segment short of the depth. Nothing behind the depth is looked at, so a longer
path stops there too (`StopsAt.of_prefix`), and for the same reason a path resolves only if its
beginnings do (`resolves_of_prefix`). Main statement: `resolution_stops`.
-/

namespace Dialect

namespace FieldPath

variable {p q : FieldPath} {record w : Value} {pins : Pins} {x place : List String}
  {segment : String} {fault : FieldFault}

/-- The beginning of the path with the given number of segments. -/
def upTo (p : FieldPath) (depth : Nat) : FieldPath := ⟨p.segments.take depth⟩

/-- The ways in which the walk along a path stops at a depth, with the path that the error names and
the fault. In an object the walk gets as far as the segment at the depth, which is missing or has a
pin that does not fit, so the error names the path up to the depth. Any other value is not entered,
and the error names the path of the value; the record itself has none, and the whole path is
named. -/
inductive StopsAt (p : FieldPath) (record : Value) (pins : Pins) :
    (depth : Nat) → (named : FieldPath) → FieldFault → Prop where
  | missing {d : Nat} {segment : String} {members : List (String × Value)}
      (next : p.segments[d]? = some segment)
      (here : (p.upTo d).resolve record pins = .ok (.object members))
      (absent : members.lookup segment = none) :
      StopsAt p record pins (d + 1) (p.upTo (d + 1)) .noSuchField
  | outOfRange {d index : Nat} {segment : String} {members : List (String × Value)}
      {items : List Value} (next : p.segments[d]? = some segment)
      (here : (p.upTo d).resolve record pins = .ok (.object members))
      (member : members.lookup segment = some (.list items))
      (pinned : pins.get? (p.upTo (d + 1)) = some index) (beyond : items.length ≤ index) :
      StopsAt p record pins (d + 1) (p.upTo (d + 1)) (.outOfRange index items.length)
  | pinnedNonList {d index : Nat} {segment : String} {members : List (String × Value)}
      {child : Value} (next : p.segments[d]? = some segment)
      (here : (p.upTo d).resolve record pins = .ok (.object members))
      (member : members.lookup segment = some child)
      (pinned : pins.get? (p.upTo (d + 1)) = some index) (flat : child.isList = false) :
      StopsAt p record pins (d + 1) (p.upTo (d + 1)) .pinnedNonList
  | list {d : Nat} {segment : String} {items : List Value}
      (next : p.segments[d]? = some segment)
      (here : (p.upTo d).resolve record pins = .ok (.list items)) :
      StopsAt p record pins (d + 1) (if d = 0 then p else p.upTo d) .unpinnedList
  | scalar {d : Nat} {segment : String} {v : Value} (next : p.segments[d]? = some segment)
      (here : (p.upTo d).resolve record pins = .ok v) (flat : v.isList = false)
      (closed : ∀ members, v ≠ .object members) :
      StopsAt p record pins (d + 1) (if d = 0 then p else p.upTo d) .intoScalar

variable {depth : Nat} {named : FieldPath}

/-! ### The ways to stop, read off the walk -/

/-- A segment of a path lies behind a beginning of the path. -/
theorem upTo_succ {d : Nat} (next : p.segments[d]? = some segment) :
    (p.upTo d).segments.length = d ∧ p.upTo (d + 1) = ⟨(p.upTo d).segments ++ [segment]⟩ ∧
      (p.upTo d).segments ++ [segment] <+: p.segments := by
  obtain ⟨inside, rfl⟩ := List.getElem?_eq_some_iff.mp next
  have step : p.segments.take (d + 1) = p.segments.take d ++ [p.segments[d]] :=
    (List.take_append_getElem inside).symm
  exact ⟨List.length_take_of_le inside.le, congrArg _ step, step ▸ List.take_prefix _ _⟩

theorem upTo_length (pre : x <+: p.segments) : p.upTo x.length = ⟨x⟩ := by
  rw [upTo, ← List.prefix_iff_eq_take.mp pre]

/-- Where a path stops, the walk has come to a value from which it cannot go on. -/
theorem StopsAt.halts (stops : p.StopsAt record pins depth named fault) :
    ∃ x segment w place, x ++ [segment] <+: p.segments ∧ x.length + 1 = depth ∧
      resolve ⟨x⟩ record pins = .ok w ∧ Halts pins x segment w place fault ∧
      named = if place.isEmpty then p else ⟨place⟩ := by
  -- a value that is not entered is named by its own path
  have entered {d : Nat} (long : (p.upTo d).segments.length = d) :
      (if d = 0 then p else p.upTo d) =
        if (p.upTo d).segments.isEmpty then p else ⟨(p.upTo d).segments⟩ := by
    simp only [List.isEmpty_iff_length_eq_zero, long]
  cases stops with
  | missing next here absent =>
    obtain ⟨long, step, pre⟩ := upTo_succ next
    exact ⟨_, _, _, _, pre, congrArg Nat.succ long, here, .missing absent, by simp [step]⟩
  | outOfRange next here member pinned beyond =>
    obtain ⟨long, step, pre⟩ := upTo_succ next
    have refused := select_error.mpr ⟨_, step ▸ pinned, .inl ⟨_, rfl, beyond, rfl⟩⟩
    exact ⟨_, _, _, _, pre, congrArg Nat.succ long, here, .pin member refused, by simp [step]⟩
  | pinnedNonList next here member pinned flat =>
    obtain ⟨long, step, pre⟩ := upTo_succ next
    have refused := select_error.mpr ⟨_, step ▸ pinned, .inr ⟨flat, rfl⟩⟩
    exact ⟨_, _, _, _, pre, congrArg Nat.succ long, here, .pin member refused, by simp [step]⟩
  | list next here =>
    obtain ⟨long, -, pre⟩ := upTo_succ next
    exact ⟨_, _, _, _, pre, congrArg Nat.succ long, here, .list, entered long⟩
  | scalar next here flat closed =>
    obtain ⟨long, -, pre⟩ := upTo_succ next
    exact ⟨_, _, _, _, pre, congrArg Nat.succ long, here, .scalar flat closed, entered long⟩

/-- A path stops one segment behind the value from which the walk cannot go on. -/
theorem stopsAt_of_halts (pre : x ++ [segment] <+: p.segments)
    (here : resolve ⟨x⟩ record pins = .ok w) (halts : Halts pins x segment w place fault) :
    p.StopsAt record pins (x.length + 1) (if place.isEmpty then p else ⟨place⟩) fault := by
  have next : p.segments[x.length]? = some segment := by
    obtain ⟨rest, split⟩ := pre
    simp [← split]
  have before : p.upTo x.length = ⟨x⟩ := upTo_length ((List.prefix_append _ _).trans pre)
  have step : p.upTo (x.length + 1) = ⟨x ++ [segment]⟩ := by
    rw [(upTo_succ next).2.1, before]
  rw [← before] at here
  have entered : (if x.isEmpty then p else ⟨x⟩) = if x.length = 0 then p else p.upTo x.length := by
    simp only [List.isEmpty_iff_length_eq_zero, before]
  have behind : (if (x ++ [segment]).isEmpty then p else ⟨x ++ [segment]⟩) =
      p.upTo (x.length + 1) := by
    rw [step, if_neg (by simp)]
  cases halts with
  | list =>
    rw [entered]
    exact .list next here
  | scalar flat closed =>
    rw [entered]
    exact .scalar next here flat closed
  | missing absent =>
    rw [behind]
    exact .missing next here absent
  | pin member refused =>
    rw [behind]
    obtain ⟨index, pinned, ⟨items, rfl, beyond, rfl⟩ | ⟨flat, rfl⟩⟩ := select_error.mp refused
    · exact .outOfRange next here member (step ▸ pinned) beyond
    · exact .pinnedNonList next here member (step ▸ pinned) flat

/-- A path fails to resolve exactly if it stops somewhere, and the error says where and why. -/
theorem resolve_error_iff {e : Error} :
    p.resolve record pins = .error e ↔
      ∃ depth named fault, p.StopsAt record pins depth named fault ∧
        e = .field named.text fault := by
  rw [resolve, walk_error]
  constructor
  · rintro ⟨x, segment, rest, w, place, fault, split, walked, halts, same⟩
    have pre : x ++ [segment] <+: p.segments := ⟨rest, by simp [split]⟩
    exact ⟨_, _, fault, stopsAt_of_halts pre (walk_ok_whole.mp walked) halts, same.symm⟩
  · rintro ⟨depth, named, fault, stops, rfl⟩
    obtain ⟨x, segment, w, place, ⟨rest, split⟩, -, here, halts, rfl⟩ := stops.halts
    refine ⟨x, segment, rest, w, place, fault, ?_, walk_ok_whole.mp here, halts, rfl⟩
    rw [← split, List.append_assoc, List.singleton_append]

/-! ### Longer and shorter paths -/

/-- The walk gets nowhere exactly if the record itself cannot be entered. -/
theorem place_eq_nil_iff (here : resolve ⟨x⟩ record pins = .ok w)
    (halts : Halts pins x segment w place fault) :
    place = [] ↔ ∀ members, record ≠ .object members := by
  cases x with
  | nil =>
    cases here
    cases halts with
    | list => simp
    | scalar flat closed => simp [closed]
    | missing | pin => simp
  | cons first rest =>
    obtain ⟨child, selected, member, -, -⟩ := walk_cons_ok.mp here
    cases record with
    | object members => cases halts <;> simp
    | null | bool | number | text | list => cases member

/-- Where a path stops, every path that agrees with it up to there stops too, with the same fault.
Its error names the same place, or the whole path if the record cannot be entered. -/
theorem StopsAt.of_prefix (stops : p.StopsAt record pins depth named fault)
    (pre : (p.upTo depth).segments <+: q.segments) :
    ∃ named', q.StopsAt record pins depth named' fault ∧
      ((∃ members, record = .object members) → named' = named) ∧
      ((∀ members, record ≠ .object members) → named = p ∧ named' = q) := by
  obtain ⟨x, segment, w, place, within, rfl, here, halts, rfl⟩ := stops.halts
  have shared : p.upTo (x.length + 1) = ⟨x ++ [segment]⟩ := by
    rw [← upTo_length within, List.length_append, List.length_singleton]
  rw [shared] at pre
  have bare := place_eq_nil_iff here halts
  refine ⟨_, stopsAt_of_halts pre here halts, ?_, ?_⟩
  · rintro ⟨members, rfl⟩
    have proper : place ≠ [] := fun none => bare.mp none members rfl
    simp [proper]
  · intro closed
    simp [bare.mpr closed]

/-- With a path, every beginning of it resolves. -/
theorem resolves_of_prefix (pre : q.segments <+: p.segments)
    (leads : p.resolve record pins = .ok w) : ∃ v, q.resolve record pins = .ok v := by
  cases found : q.resolve record pins with
  | ok v => exact ⟨v, rfl⟩
  | error e =>
    obtain ⟨depth, named, fault, stops, -⟩ := resolve_error_iff.mp found
    obtain ⟨named', stops', -⟩ := stops.of_prefix ((List.take_prefix _ _).trans pre)
    rw [resolve_error_iff.mpr ⟨_, _, _, stops', rfl⟩] at leads
    cases leads

/-- The depth at which a path stops parts its beginnings that resolve from the others. -/
theorem StopsAt.resolves_iff (stops : p.StopsAt record pins depth named fault) (k : Nat) :
    (∃ v, (p.upTo k).resolve record pins = .ok v) ↔ k < depth := by
  constructor
  · rintro ⟨v, leads⟩
    by_contra late
    obtain ⟨named', stops', -⟩ := stops.of_prefix (q := p.upTo k)
      (List.take_prefix_take_left (Nat.le_of_not_lt late))
    rw [resolve_error_iff.mpr ⟨_, _, _, stops', rfl⟩] at leads
    cases leads
  · intro early
    obtain ⟨x, segment, w, place, within, rfl, here, -, -⟩ := stops.halts
    rw [← upTo_length ((List.prefix_append _ _).trans within)] at here
    exact resolves_of_prefix (List.take_prefix_take_left (Nat.le_of_lt_succ early)) here

end FieldPath

/-- The error of a path says where the walk along it stopped. For every record, pins and path:

* each way to stop gives an error, with the path and the fault that belong to it;
* a path that does not resolve stops at exactly one depth: its beginnings with fewer segments
  resolve, and no others do;
* the paths that begin with it have the same error; only where the record itself cannot be entered,
  the error of each names the whole of it. -/
theorem resolution_stops (record : Value) (pins : Pins) (p : FieldPath) :
    (∀ depth named fault, p.StopsAt record pins depth named fault →
      p.resolve record pins = .error (.field named.text fault)) ∧
    ∀ e, p.resolve record pins = .error e → ∃! depth,
      (∀ k, (∃ v, (p.upTo k).resolve record pins = .ok v) ↔ k < depth) ∧
      ∃ named fault, p.StopsAt record pins depth named fault ∧ e = .field named.text fault ∧
        ∀ q : FieldPath, p.segments <+: q.segments →
          ((∃ members, record = .object members) → q.resolve record pins = .error e) ∧
          ((∀ members, record ≠ .object members) →
            named = p ∧ q.resolve record pins = .error (.field q.text fault)) := by
  refine ⟨fun depth named fault stops => FieldPath.resolve_error_iff.mpr ⟨_, _, _, stops, rfl⟩, ?_⟩
  intro e fails
  obtain ⟨depth, named, fault, stops, rfl⟩ := FieldPath.resolve_error_iff.mp fails
  refine ⟨depth, ⟨stops.resolves_iff, named, fault, stops, rfl, ?_⟩, ?_⟩
  · intro q pre
    obtain ⟨named', stops', same, whole⟩ := stops.of_prefix ((List.take_prefix _ _).trans pre)
    have fails' := FieldPath.resolve_error_iff.mpr ⟨_, _, _, stops', rfl⟩
    constructor
    · intro entered
      rw [← same entered]
      exact fails'
    · intro closed
      obtain ⟨rfl, rfl⟩ := whole closed
      exact ⟨rfl, fails'⟩
  · rintro depth' ⟨resolves, -⟩
    have here : depth < depth' ↔ depth < depth := (resolves depth).symm.trans (stops.resolves_iff _)
    have there : depth' < depth' ↔ depth' < depth :=
      (resolves depth').symm.trans (stops.resolves_iff _)
    omega

/-- A record with an object and a list of one element. -/
def parcel : Value := .object [
  ("a", .object [("b", .number (.int 1))]),
  ("c", .list [.null])]

theorem resolution_stops_parcel :
    (⟨["a", "x", "y"]⟩ : FieldPath).resolve parcel ∅ = .error (.field ".a.x" .noSuchField) ∧
      (∀ k, (∃ v, (FieldPath.upTo ⟨["a", "x", "y"]⟩ k).resolve parcel ∅ = .ok v) ↔ k < 2) ∧
      (⟨["a", "x", "y", "z"]⟩ : FieldPath).resolve parcel ∅ =
        .error (.field ".a.x" .noSuchField) ∧
      (⟨["c", "k"]⟩ : FieldPath).resolve parcel (Pins.single ⟨["c"]⟩ 1) =
        .error (.field ".c" (.outOfRange 1 1)) ∧
      (⟨["k"]⟩ : FieldPath).resolve (.list []) ∅ = .error (.field ".k" .unpinnedList) ∧
      (⟨["k", "l"]⟩ : FieldPath).resolve (.list []) ∅ = .error (.field ".k.l" .unpinnedList) := by
  obtain ⟨stops, once⟩ := resolution_stops parcel ∅ ⟨["a", "x", "y"]⟩
  have missing := stops 2 _ _ (.missing (d := 1) rfl rfl rfl)
  obtain ⟨depth, ⟨resolves, _, _, -, -, longer⟩, -⟩ := once _ missing
  have cut : depth = 2 := by
    have before : 1 < depth := (resolves 1).mp ⟨_, rfl⟩
    have behind : ¬ 2 < depth := by
      intro late
      obtain ⟨v, leads⟩ := (resolves 2).mpr late
      cases leads
    omega
  have beyond := (resolution_stops parcel (Pins.single ⟨["c"]⟩ 1) ⟨["c", "k"]⟩).1 1 _ _
    (.outOfRange (d := 0) rfl rfl rfl rfl (by decide))
  obtain ⟨stops', once'⟩ := resolution_stops (.list []) ∅ ⟨["k"]⟩
  have barred := stops' 1 _ _ (.list (d := 0) rfl rfl)
  obtain ⟨_, ⟨-, _, _, -, same, longer'⟩, -⟩ := once' _ barred
  obtain ⟨-, rfl⟩ := Error.field.inj same
  refine ⟨missing, cut ▸ resolves, ?_, beyond, barred, ?_⟩
  · exact (longer ⟨["a", "x", "y", "z"]⟩ (by decide)).1 ⟨_, rfl⟩
  · -- the record is a list, so its paths have no place to name
    exact ((longer' ⟨["k", "l"]⟩ (by decide)).2 (by simp)).2

end Dialect
