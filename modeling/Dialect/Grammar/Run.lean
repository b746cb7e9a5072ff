import Dialect.Grammar.Builtin
import Dialect.ParseNode
import Dialect.Text.Bytes

/-!
Running a grammar on a text.

Expressions are matched from left to right; a choice takes the first alternative that matches and
never comes back to it. Between the parts of a sequence and between repetitions the rules
`WHITESPACE` and `COMMENT` are skipped, except inside atomic rules. A match says what it took and
what is left, so taken and rest together are the input.

A run counts its steps down from a given number, which `Grammar.parse` takes large enough for the
length of the text; running out of steps is told apart from not matching. Beside the result a run
keeps its reach: the furthest place at which a rule was tried in vain, which is where a failure is
reported.
-/

namespace Dialect.Grammar

/-- How skipping and nodes are handled at the moment. -/
inductive Mode where
  | spaced
  /-- Nothing is skipped. -/
  | compound
  /-- Nothing is skipped, rules make no nodes, and attempts do not count for the reach. -/
  | atomic
  deriving DecidableEq, Repr

/-- Whether the run only looks ahead, and whether a match there is wanted. -/
inductive Look where
  | none
  | wanted
  | unwanted
  deriving DecidableEq, Repr

/-- Inside `&` the wish stays as it is. -/
def Look.ahead : Look → Look
  | .unwanted => .unwanted
  | _ => .wanted

/-- Inside `!` the wish is turned round. -/
def Look.notAhead : Look → Look
  | .unwanted => .wanted
  | _ => .unwanted

/-- The surroundings of a run. -/
structure Context where
  mode : Mode := .spaced
  look : Look := .none
  deriving DecidableEq, Repr

/-- Rules make nodes here. -/
def Context.makesNodes (ctx : Context) : Bool := ctx.look = .none && ctx.mode != .atomic

/-- A match: the characters taken, those left, and the nodes made. -/
structure Match where
  taken : List Char
  rest : List Char
  nodes : List ParseNode
  deriving Repr, Inhabited

/-- A match that takes nothing. -/
def Match.empty (rest : List Char) : Match := ⟨[], rest, []⟩

/-- One match after another. -/
def Match.append (m n : Match) : Match := ⟨m.taken ++ n.taken, n.rest, m.nodes ++ n.nodes⟩

/-- The outcome of a finished run. -/
structure Attempt where
  reach : Nat
  found : Option Match
  deriving Repr, Inhabited

/-- The rest of a text after another text. -/
def after? : (text cs : List Char) → Option (List Char)
  | [], cs => some cs
  | t :: text, c :: cs => if t = c then after? text cs else none
  | _ :: _, [] => none

/-- The letters are equal or differ only in their ASCII case. -/
def sameLetter (c d : Char) : Bool := c.toLower == d.toLower

/-- The characters that match a text in either case, and what follows them. -/
def afterCaseless? : (text cs : List Char) → Option (List Char × List Char)
  | [], cs => some ([], cs)
  | t :: text, c :: cs =>
    if sameLetter t c then (afterCaseless? text cs).map fun (taken, rest) => (c :: taken, rest)
    else none
  | _ :: _, [] => none

/-- The characters before the first place where one of the texts stands, and those from there on. -/
def upTo (stops : List (List Char)) : List Char → List Char × List Char
  | [] => ([], [])
  | c :: cs =>
    if stops.any fun s => s.isPrefixOf (c :: cs) then ([], c :: cs)
    else
      let (taken, rest) := upTo stops cs
      (c :: taken, rest)

/-- What an expression without parts matches at a place. -/
def leaf (e : Expr) (at_ : Nat) (cs : List Char) : Option Match :=
  match e with
  | .literal text => (after? text cs).map fun rest => ⟨text, rest, []⟩
  | .caseless text => (afterCaseless? text cs).map fun (taken, rest) => ⟨taken, rest, []⟩
  | .one c =>
    match cs with
    | d :: rest => if c.holds d then some ⟨[d], rest, []⟩ else none
    | [] => none
  | .start => if at_ = 0 then some (.empty cs) else none
  | .upTo stops => some ⟨(upTo stops cs).1, (upTo stops cs).2, []⟩
  | _ => none

/-- The outcome of an attempt at a rule that began at a place: in vain means failing where a match
is wanted or matching where none is. -/
def Attempt.tracked (ctx : Context) (at_ : Nat) (a : Attempt) : Attempt :=
  let inVain := if ctx.look = .unwanted then a.found.isSome else a.found.isNone
  if inVain && ctx.mode != .atomic then { a with reach := max a.reach at_ } else a

/-- The match of a rule, with its node if rules make nodes here. -/
def Match.wrapped (ctx : Context) (rule : String) (at_ : Nat) (m : Match) : Match :=
  if ctx.makesNodes then
    { m with
      nodes := [⟨rule, String.ofList m.taken, at_, at_ + Text.byteSize m.taken, m.nodes⟩] }
  else m

/-- A finished attempt at the body of a rule, as an attempt at the rule. -/
def Attempt.ofRule (ctx : Context) (rule : String) (at_ : Nat) (a : Attempt) : Attempt :=
  Attempt.tracked ctx at_ { a with found := a.found.map (Match.wrapped ctx rule at_) }

/-- The rules that are skipped between tokens are themselves matched without skipping. -/
def isSkipRule (name : String) : Bool := name == "WHITESPACE" || name == "COMMENT"

/-- The surroundings in which a rule's body is matched, and those that decide about its node; a
silent rule makes none. -/
def surroundings (ctx : Context) (r : Rule) : Context × Option Context :=
  match r.kind with
  | .normal =>
    if isSkipRule r.name then ({ ctx with mode := .atomic }, some ctx) else (ctx, some ctx)
  | .silent =>
    if isSkipRule r.name then ({ ctx with mode := .atomic }, none) else (ctx, none)
  | .atomic => ({ ctx with mode := .atomic }, some ctx)
  | .compound =>
    let inner := { ctx with mode := .compound }
    (inner, some inner)
  | .nonAtomic =>
    if isSkipRule r.name then
      let inner := { ctx with mode := .atomic }
      (inner, some inner)
    else
      let inner := { ctx with mode := .spaced }
      (inner, some inner)

/-- An outcome as part of a run that has already reached some place. -/
def Attempt.reaching (reach : Nat) (a : Attempt) : Attempt := { a with reach := max reach a.reach }

/-- A match followed by what comes after it. -/
def Attempt.following (m : Match) (a : Attempt) : Attempt :=
  { a with found := a.found.map m.append }

mutual

/-- Matches an expression at a byte offset. -/
def run (g : Grammar) : (fuel : Nat) → Context → Expr → (at_ : Nat) → List Char → Option Attempt
  | 0, _, _, _, _ => none
  | fuel + 1, ctx, e, at_, cs =>
    match e with
    | .call name => callRule g fuel ctx name at_ cs
    | .finish =>
      some (Attempt.ofRule ctx "EOI" at_ ⟨0, if cs.isEmpty then some (.empty cs) else none⟩)
    | .ahead e =>
      match run g fuel { ctx with look := ctx.look.ahead } e at_ cs with
      | none => none
      | some a => some ⟨a.reach, if a.found.isSome then some (.empty cs) else none⟩
    | .notAhead e =>
      match run g fuel { ctx with look := ctx.look.notAhead } e at_ cs with
      | none => none
      | some a => some ⟨a.reach, if a.found.isSome then none else some (.empty cs)⟩
    | .seq left right =>
      match run g fuel ctx left at_ cs with
      | none => none
      | some ⟨reach, none⟩ => some ⟨reach, none⟩
      | some ⟨reach, some m⟩ =>
        (spaced g fuel ctx right (at_ + Text.byteSize m.taken) m.rest).map fun a =>
          (a.following m).reaching reach
    | .choice left right =>
      match run g fuel ctx left at_ cs with
      | none => none
      | some ⟨reach, some m⟩ => some ⟨reach, some m⟩
      | some ⟨reach, none⟩ => (run g fuel ctx right at_ cs).map (·.reaching reach)
    | .opt e =>
      match run g fuel ctx e at_ cs with
      | none => none
      | some ⟨reach, found⟩ => some ⟨reach, some (found.getD (.empty cs))⟩
    | .star e =>
      match run g fuel ctx e at_ cs with
      | none => none
      | some ⟨reach, none⟩ => some ⟨reach, some (.empty cs)⟩
      | some ⟨reach, some m⟩ =>
        (more g fuel ctx true e (at_ + Text.byteSize m.taken) m.rest).map fun a =>
          (a.following m).reaching reach
    | e => some ⟨0, leaf e at_ cs⟩

/-- Skips, then matches an expression. -/
def spaced (g : Grammar) : (fuel : Nat) → Context → Expr → (at_ : Nat) → List Char → Option Attempt
  | 0, _, _, _, _ => none
  | fuel + 1, ctx, e, at_, cs =>
    match skip g fuel ctx at_ cs with
    | none => none
    | some ⟨reach, none⟩ => some ⟨reach, none⟩
    | some ⟨reach, some m⟩ =>
      (run g fuel ctx e (at_ + Text.byteSize m.taken) m.rest).map fun a =>
        (a.following m).reaching reach

/-- Matches an expression as often as it goes, skipping before each time if `skipping`. -/
def more (g : Grammar) : (fuel : Nat) → Context → (skipping : Bool) → Expr → (at_ : Nat) →
    List Char → Option Attempt
  | 0, _, _, _, _, _ => none
  | fuel + 1, ctx, skipping, e, at_, cs =>
    match (if skipping then spaced g fuel ctx e at_ cs else run g fuel ctx e at_ cs) with
    | none => none
    | some ⟨reach, none⟩ => some ⟨reach, some (.empty cs)⟩
    | some ⟨reach, some m⟩ =>
      (more g fuel ctx skipping e (at_ + Text.byteSize m.taken) m.rest).map fun a =>
        (a.following m).reaching reach

/-- Skips blanks and comments where they are skipped and the grammar has any: blanks, then each
comment with the blanks after it. -/
def skip (g : Grammar) : (fuel : Nat) → Context → (at_ : Nat) → List Char → Option Attempt
  | 0, _, _, _ => none
  | fuel + 1, ctx, at_, cs =>
    if ctx.mode = .spaced then
      match g.defines "WHITESPACE", g.defines "COMMENT" with
      | false, false => some ⟨0, some (.empty cs)⟩
      | true, false => more g fuel ctx false (.call "WHITESPACE") at_ cs
      | false, true => more g fuel ctx false (.call "COMMENT") at_ cs
      | true, true =>
        match more g fuel ctx false (.call "WHITESPACE") at_ cs with
        | some ⟨reach, some m⟩ =>
          (comments g fuel ctx (at_ + Text.byteSize m.taken) m.rest).map fun a =>
            (a.following m).reaching reach
        | other => other
    else some ⟨0, some (.empty cs)⟩

/-- Comments as often as they go, each with the blanks after it. -/
def comments (g : Grammar) : (fuel : Nat) → Context → (at_ : Nat) → List Char → Option Attempt
  | 0, _, _, _ => none
  | fuel + 1, ctx, at_, cs =>
    match callRule g fuel ctx "COMMENT" at_ cs with
    | none => none
    | some ⟨reach, none⟩ => some ⟨reach, some (.empty cs)⟩
    | some ⟨reach, some m⟩ =>
      match more g fuel ctx false (.call "WHITESPACE") (at_ + Text.byteSize m.taken) m.rest with
      | none => none
      | some ⟨reach', none⟩ => some ⟨max reach reach', none⟩
      | some ⟨reach', some n⟩ =>
        (comments g fuel ctx (at_ + Text.byteSize m.taken + Text.byteSize n.taken) n.rest).map
          fun a => (a.following (m.append n)).reaching (max reach reach')

/-- Matches a rule. -/
def callRule (g : Grammar) : (fuel : Nat) → Context → (name : String) → (at_ : Nat) → List Char →
    Option Attempt
  | 0, _, _, _, _ => none
  | fuel + 1, ctx, name, at_, cs =>
    match g.find? name with
    | none => some ⟨0, none⟩
    | some r =>
      let (inner, node) := surroundings ctx r
      (run g fuel inner r.body at_ cs).map fun a =>
        match node with
        | none => a
        | some outer => a.ofRule outer name at_

end

/-- Steps enough for any run on a text of the given length: no rule is tried twice at one place on
the way down to a character. -/
def fuelFor (g : Grammar) (length : Nat) : Nat := (length + 2) * (g.weight * g.weight)

/-- The line and column of a byte offset, both counted from one. -/
def placeOf : (offset line column : Nat) → List Char → Nat × Nat
  | _, line, column, [] => (line, column)
  | offset, line, column, c :: rest =>
    if offset < c.utf8Size then (line, column)
    else if c = '\n' then placeOf (offset - c.utf8Size) (line + 1) 1 rest
    else placeOf (offset - c.utf8Size) line (column + 1) rest

/-- The outcome of matching a rule at the start of a text. -/
def attempt (g : Grammar) (rule : String) (cs : List Char) : Attempt :=
  (run g (fuelFor g cs.length + 1) {} (callOf true rule) 0 cs).getD ⟨0, none⟩

/-- Parses a text from a rule. The rule need not take the whole text. -/
def parse (g : Grammar) (rule : String) : Parser := fun text =>
  let cs := text.toList
  let a := attempt g rule cs
  match a.found with
  | some m => .ok m.nodes
  | none =>
    let (line, column) := placeOf a.reach 1 1 cs
    .error (.parse (.noMatch line column))

end Dialect.Grammar
