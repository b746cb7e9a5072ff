import Dialect.Grammar.Validity

/-!
The form in which rules are run.

Counted repetitions are unrolled, sequences and choices nested to the right, built-in rules looked
up, and alternatives that begin alike are factored. Factoring is part of what a grammar means:
`a ~ b | a ~ c` is run as `a ~ (b | c)`, `a | a ~ b` as `a`, and `(a ~ b)* ~ a` as `a ~ (b ~ a)*`.
Only in atomic and compound rules, where nothing is skipped, `a ~ b | a` is run as `a ~ b?`;
elsewhere it stays, as what is skipped after `a` must not stay skipped when `b` does not follow.
-/

namespace Dialect.Grammar

namespace Surface

/-- The sequence of two expressions, nested to the right if the first is. -/
def appendSeq : Surface → Surface → Surface
  | .seq a b, e => .seq a (appendSeq b e)
  | a, e => .seq a e

/-- The choice of two expressions, nested to the right if the first is. -/
def appendChoice : Surface → Surface → Surface
  | .choice a b, e => .choice a (appendChoice b e)
  | a, e => .choice a e

/-- The expression with sequences and choices nested to the right. -/
def rotate : Surface → Surface
  | .literal text => .literal text
  | .caseless text => .caseless text
  | .range first last => .range first last
  | .call name => .call name
  | .ahead e => .ahead e.rotate
  | .notAhead e => .notAhead e.rotate
  | .seq a b => appendSeq a.rotate b.rotate
  | .choice a b => appendChoice a.rotate b.rotate
  | .opt e => .opt e.rotate
  | .star e => .star e.rotate
  | .plus e => .plus e.rotate
  | .exactly e n => .exactly e.rotate n
  | .atLeast e n => .atLeast e.rotate n
  | .atMost e n => .atMost e.rotate n
  | .counted e m n => .counted e.rotate m n

/-- The texts of a choice between literals and rules that are such choices as they are written. A
choice is gone through to the right only, so of three alternatives in a row, which group to the
left, a rule's texts are not found. -/
def texts? (rules : List SurfaceRule) : (fuel : Nat) → Surface → Option (List (List Char))
  | 0, _ => none
  | fuel + 1, e =>
    match e with
    | .literal text => some [text]
    | .call name => do
      let body ← bodyOf? rules name
      texts? rules fuel body
    | .choice (.literal text) rest => do
      let later ← texts? rules fuel rest
      pure (text :: later)
    | .choice (.call name) rest => do
      let body ← bodyOf? rules name
      let first ← texts? rules fuel body
      let later ← texts? rules fuel rest
      pure (first ++ later)
    | _ => none

/-- The texts before which `(!stops ~ ANY)*` stops. -/
def stops? (rules : List SurfaceRule) : Surface → Option (List (List Char))
  | .seq (.notAhead e) (.call "ANY") => texts? rules (lookFuel rules + e.size) e
  | _ => none

/-- Expressions one after the other. -/
def inSequence : List Expr → Expr
  | [] => .literal []
  | [e] => e
  | e :: next :: rest => .seq e (inSequence (next :: rest))

/-- The expression without counts, with the meaning of each name, which depends on whether the
grammar defines it. Where the texts that end a repetition are known, it is run at once. -/
def lower (defines : String → Bool) (stopsOf : Surface → Option (List (List Char))) :
    Surface → Expr
  | .literal text => .literal text
  | .caseless text => .caseless text
  | .range first last => .one (.between first last)
  | .call name => callOf (defines name) name
  | .ahead e => .ahead (e.lower defines stopsOf)
  | .notAhead e => .notAhead (e.lower defines stopsOf)
  | .seq a b => .seq (a.lower defines stopsOf) (b.lower defines stopsOf)
  | .choice a b => .choice (a.lower defines stopsOf) (b.lower defines stopsOf)
  | .opt e => .opt (e.lower defines stopsOf)
  | .star e =>
    match stopsOf e with
    | some stops => .upTo stops
    | none => .star (e.lower defines stopsOf)
  | .plus e => .seq (e.lower defines stopsOf) (.star (e.lower defines stopsOf))
  | .exactly e n => inSequence (List.replicate n (e.lower defines stopsOf))
  | .atLeast e n =>
    inSequence (List.replicate n (e.lower defines stopsOf) ++ [.star (e.lower defines stopsOf)])
  | .atMost e n => inSequence (List.replicate n (.opt (e.lower defines stopsOf)))
  | .counted e m n =>
    inSequence (List.replicate (min m n) (e.lower defines stopsOf)
      ++ List.replicate (n - m) (.opt (e.lower defines stopsOf)))

end Surface

namespace Expr

/-- Neighbouring literals as one. Only where nothing is skipped between them. -/
def concat : Expr → Expr
  | .seq a b =>
    match a.concat, b.concat with
    | .literal s, .literal t => .literal (s ++ t)
    | .caseless s, .caseless t => .caseless (s ++ t)
    | a, b => .seq a b
  | .choice a b => .choice a.concat b.concat
  | .ahead e => .ahead e.concat
  | .notAhead e => .notAhead e.concat
  | .opt e => .opt e.concat
  | .star e => .star e.concat
  | e => e

/-- Two alternatives that begin alike, with the common beginning taken out. Where something may be
skipped (`tight` is false), `a ~ b | a` stays: in `a ~ b?` the match would keep what is skipped
after `a`. -/
def factorHere (tight : Bool) : Expr → Expr
  | .choice (.seq a b) (.seq c d) =>
    if a = c then .seq a (.choice b d) else .choice (.seq a b) (.seq c d)
  | .choice (.seq a b) e => if tight && a = e then .seq a (.opt b) else .choice (.seq a b) e
  | .choice e (.seq c d) => if e = c then e else .choice e (.seq c d)
  | e => e

/-- The expression with alternatives factored, from the outside in; `fuel` bounds the depth. -/
def factor (tight : Bool) : (fuel : Nat) → Expr → Expr
  | 0, e => e
  | fuel + 1, e =>
    match factorHere tight e with
    | .seq a b => .seq (factor tight fuel a) (factor tight fuel b)
    | .choice a b => .choice (factor tight fuel a) (factor tight fuel b)
    | .ahead e => .ahead (factor tight fuel e)
    | .notAhead e => .notAhead (factor tight fuel e)
    | .opt e => .opt (factor tight fuel e)
    | .star e => .star (factor tight fuel e)
    | e => e

/-- A separated list whose last element stands behind the repetition, with the first in front. -/
def listHere : Expr → Expr
  | .seq (.star (.seq a b)) e =>
    if a = e then .seq a (.star (.seq b e)) else .seq (.star (.seq a b)) e
  | e => e

/-- The expression with separated lists turned round, from the inside out. -/
def list : Expr → Expr
  | .seq a b => listHere (.seq a.list b.list)
  | .choice a b => .choice a.list b.list
  | .ahead e => .ahead e.list
  | .notAhead e => .notAhead e.list
  | .opt e => .opt e.list
  | .star e => .star e.list
  | e => e

end Expr

/-- The rule of a grammar as it is run. Inside an atomic rule a repetition up to given texts is run
at once, and rules named among the texts are not called. -/
def SurfaceRule.normal (rules : List SurfaceRule) (r : SurfaceRule) : Rule :=
  let atomic := r.kind = .atomic
  let lowered := r.body.rotate.lower (fun name => (bodyOf? rules name).isSome)
    (if atomic then Surface.stops? rules else fun _ => none)
  let joined := if atomic then lowered.concat else lowered
  let tight := atomic || r.kind = .compound
  ⟨r.name, r.kind, (joined.factor tight (2 * joined.size)).list⟩

end Dialect.Grammar
