import Dialect.Grammar.Builtin

/-!
Which grammars are accepted.

A grammar is valid if its rule names are distinct, free and defined where they are called, if no
repetition can go on without end, if no alternative hides the ones after it, and if no rule can call
itself before it has matched anything. Grammars that keep matches on a stack are not accepted, as
the words for it are left out (`isBuiltin`).
-/

namespace Dialect.Grammar

/-- The body of the rule with a name; of two the later counts. -/
def bodyOf? (rules : List SurfaceRule) (name : String) : Option Surface :=
  (rules.reverse.find? fun r => r.name == name).map (·.body)

namespace Surface

/-- The rule names that an expression calls. -/
def calls : Surface → List String
  | .call name => [name]
  | .literal _ | .caseless _ | .range _ _ => []
  | .ahead e | .notAhead e | .opt e | .star e | .plus e => e.calls
  | .exactly e _ | .atLeast e _ | .atMost e _ | .counted e _ _ => e.calls
  | .seq a b | .choice a b => a.calls ++ b.calls

/-- The expression and all expressions inside it. -/
def parts : Surface → List Surface
  | e@(.literal _) | e@(.caseless _) | e@(.range _ _) | e@(.call _) => [e]
  | e@(.ahead a) | e@(.notAhead a) | e@(.opt a) | e@(.star a) | e@(.plus a) => e :: a.parts
  | e@(.exactly a _) | e@(.atLeast a _) | e@(.atMost a _) | e@(.counted a _ _) => e :: a.parts
  | e@(.seq a b) | e@(.choice a b) => e :: (a.parts ++ b.parts)

/-- The expression always matches. Rules in `trail` are being looked at already; each step takes one
of `fuel`. -/
def nonFailing (rules : List SurfaceRule) : (fuel : Nat) → (trail : List String) → Surface → Bool
  | 0, _, _ => false
  | fuel + 1, trail, e =>
    let again := nonFailing rules fuel trail
    match e with
    | .literal text | .caseless text => text.isEmpty
    | .range _ _ | .notAhead _ => false
    | .call name =>
      if trail.contains name then false
      else
        match bodyOf? rules name with
        | some body => nonFailing rules fuel (name :: trail) body
        | none => false
    | .opt _ | .star _ | .atMost _ _ => true
    | .ahead a | .plus a => again a
    | .exactly a n | .atLeast a n | .counted a n _ => n = 0 || again a
    | .seq a b => again a && again b
    | .choice a b => again a || again b

/-- The expression can match without moving forward. -/
def nonProgressing (rules : List SurfaceRule) :
    (fuel : Nat) → (trail : List String) → Surface → Bool
  | 0, _, _ => false
  | fuel + 1, trail, e =>
    let again := nonProgressing rules fuel trail
    match e with
    | .literal text | .caseless text => text.isEmpty
    | .range _ _ => false
    | .call name =>
      if name = "SOI" ∨ name = "EOI" then true
      else if trail.contains name then false
      else
        match bodyOf? rules name with
        | some body => nonProgressing rules fuel (name :: trail) body
        | none => false
    | .ahead _ | .notAhead _ | .opt _ | .star _ | .atMost _ _ => true
    | .plus a => again a
    | .exactly a n | .atLeast a n | .counted a n _ => n = 0 || again a
    | .seq a b => again a && again b
    | .choice a b => again a || again b

/-- The rule `origin` can be called again from an expression before anything has been matched.
`trail` starts with the rule being looked at and ends with `origin`. -/
def returnsTo (rules : List SurfaceRule) (origin : String) :
    (fuel : Nat) → (trail : List String) → Surface → Bool
  | 0, _, _ => false
  | fuel + 1, trail, e =>
    let again := returnsTo rules origin fuel trail
    match e with
    | .call name =>
      if name = origin then true
      else if trail.contains name then false
      else
        match bodyOf? rules name with
        | some body => returnsTo rules origin fuel (name :: trail) body
        | none => false
    | .seq a b => again a || (nonProgressing rules fuel (trail.take 1) a && again b)
    | .choice a b => again a || again b
    | .ahead a | .notAhead a | .opt a | .star a | .plus a => again a
    | .exactly a _ | .atLeast a _ | .atMost a _ | .counted a _ _ => again a
    | .literal _ | .caseless _ | .range _ _ => false

/-- The last of the alternatives before a bar. -/
def lastAlternative : Surface → Surface
  | .choice _ b => b
  | e => e

end Surface

/-- More steps than any look through the rules takes: no rule is entered twice. -/
def lookFuel (rules : List SurfaceRule) : Nat :=
  rules.foldl (fun n r => n + r.body.size + 1) 1

/-- The expression itself, not a part of it, can go on without end or hides later alternatives. -/
def isTrap (rules : List SurfaceRule) (e : Surface) : Bool :=
  let fuel := lookFuel rules + e.size
  match e with
  | .star a | .plus a | .atLeast a _ =>
    a.nonFailing rules fuel [] || a.nonProgressing rules fuel []
  | .choice a _ => a.lastAlternative.nonFailing rules fuel []
  | _ => false

/-- A rule that is skipped between tokens must be able to fail and must move forward. -/
def isEndlessSkip (rules : List SurfaceRule) (r : SurfaceRule) : Bool :=
  (r.name = "WHITESPACE" || r.name = "COMMENT") &&
    (r.body.nonFailing rules (lookFuel rules) [r.name]
      || r.body.nonProgressing rules (lookFuel rules) [r.name])

/-- No name occurs twice. -/
def allDistinct : List String → Bool
  | [] => true
  | name :: rest => !rest.contains name && allDistinct rest

/-- The rules form a grammar that can be run. -/
def isValid (rules : List SurfaceRule) : Bool :=
  let names := rules.map (·.name)
  allDistinct names
    && names.all (fun name => !keywords.contains name)
    && rules.all (fun r => r.body.calls.all fun name =>
        names.contains name || isBuiltin name)
    && rules.all (fun r => r.body.parts.all fun e => !isTrap rules e)
    && rules.all (fun r => !isEndlessSkip rules r)
    && rules.all (fun r => !r.body.returnsTo rules r.name (lookFuel rules) [r.name])

end Dialect.Grammar
