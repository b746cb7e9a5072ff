import Dialect.Proofs.Grammar.Reading

/-!
Rules that call only each other.

What an expression reads depends on the rules that it calls, and on those that they call. If two
grammars have such rules in common, and blanks among them, they read the same with them
(`Reads.shared`).
-/

namespace Dialect.Grammar

/-- The rules that an expression calls. -/
def Expr.calls : Expr → List String
  | .call name => [name]
  | .ahead e | .notAhead e | .opt e | .star e => e.calls
  | .seq a b | .choice a b => a.calls ++ b.calls
  | _ => []

/-- The rules that are called for a task, besides those for blanks. -/
def Task.calls : Task → List String
  | .expr e | .spaced e | .more _ e => e.calls
  | .skip => []

@[simp] theorem Task.calls_round (skipping : Bool) (e : Expr) :
    (Task.round skipping e).calls = e.calls := by
  cases skipping <;> rfl

/-- The grammar has the rules, and they call only each other. -/
def Closed (g : Grammar) (rules : List String) : Prop :=
  ∀ name ∈ rules, (g.find? name).any (fun rule => rule.body.calls.all rules.contains) = true

instance (g : Grammar) (rules : List String) : Decidable (g.Closed rules) :=
  inferInstanceAs (Decidable (∀ name ∈ rules, _))

theorem Closed.calls {g : Grammar} {rules : List String} (closed : g.Closed rules) {name : String}
    {rule : Rule} (mem : name ∈ rules) (found : g.find? name = some rule) :
    rule.body.calls ⊆ rules := by
  intro callee called
  have all := closed name mem
  rw [found, Option.any_some] at all
  simpa using List.all_eq_true.mp all callee called

variable {g g' : Grammar}

/-- Rules that closed ones among them make up are closed. -/
theorem Closed.of_parts {rules : List String}
    (parts : ∀ name ∈ rules, ∃ part, name ∈ part ∧ part ⊆ rules ∧ g.Closed part) :
    g.Closed rules := by
  intro name mem
  obtain ⟨part, inside, within, closed⟩ := parts name mem
  obtain ⟨rule, found, calls⟩ := (Option.any_eq_true _ _).mp (closed name inside)
  refine (Option.any_eq_true _ _).mpr ⟨rule, found, List.all_eq_true.mpr fun callee called => ?_⟩
  have called := List.all_eq_true.mp calls callee called
  exact List.contains_iff_mem.mpr (within (List.contains_iff_mem.mp called))

theorem defines_eq_isSome (g : Grammar) (name : String) :
    g.defines name = (g.find? name).isSome := by
  rw [Bool.eq_iff_iff, Grammar.defines, Grammar.find?, List.any_eq_true, List.find?_isSome]

/-- Grammars that share rules, with the one for blanks among them, read the same where only these
are called. -/
theorem Reads.shared (rules : List String) (closed : g.Closed rules) (blanks : "WHITESPACE" ∈ rules)
    (same : ∀ name ∈ rules, g'.find? name = g.find? name) {task : Task} {ctx : Context} {at_ : Nat}
    {cs : List Char} {r : Option Match} (h : Reads g task ctx at_ cs r)
    (calls : task.calls ⊆ rules) : Reads g' task ctx at_ cs r := by
  have defined : g'.defines "WHITESPACE" = g.defines "WHITESPACE" := by
    rw [defines_eq_isSome, defines_eq_isSome, same _ blanks]
  have left {xs ys : List String} (calls : xs ++ ys ⊆ rules) : xs ⊆ rules :=
    fun name mem => calls (List.mem_append_left _ mem)
  have right {xs ys : List String} (calls : xs ++ ys ⊆ rules) : ys ⊆ rules :=
    fun name mem => calls (List.mem_append_right _ mem)
  induction h with
  | leaf plain => exact .leaf plain
  | finish => exact .finish
  | @missing name ctx at_ cs absent =>
      exact .missing (by rw [same name (calls List.mem_cons_self), absent])
  | @call name rule ctx at_ cs r found _ ih =>
      have mem : name ∈ rules := calls List.mem_cons_self
      exact .call (by rw [same name mem, found]) (ih (closed.calls mem found))
  | ahead _ ih => exact .ahead (ih calls)
  | notAhead _ ih => exact .notAhead (ih calls)
  | seqFails _ ih => exact .seqFails (ih (left calls))
  | seq _ _ ihLeft ihRight => exact .seq (ihLeft (left calls)) (ihRight (right calls))
  | choiceLeft _ ih => exact .choiceLeft (ih (left calls))
  | choiceRight _ _ ihLeft ihRight =>
      exact .choiceRight (ihLeft (left calls)) (ihRight (right calls))
  | opt _ ih => exact .opt (ih calls)
  | starDone _ ih => exact .starDone (ih calls)
  | star _ _ ihFirst ihLater => exact .star (ihFirst calls) (ihLater calls)
  | spaced _ _ ihSkip ihBody => exact .spaced (ihSkip (by simp [Task.calls])) (ihBody calls)
  | moreDone _ ih => exact .moreDone (ih (by rwa [Task.calls_round]))
  | more _ _ ihFirst ihLater =>
      exact .more (ihFirst (by rwa [Task.calls_round])) (ihLater calls)
  | noSkip off => exact .noSkip (by rwa [defined])
  | skip spaced there _ ih =>
      have calls : (Task.more false (.call "WHITESPACE")).calls ⊆ rules := by
        simpa [Task.calls, Expr.calls] using blanks
      exact .skip spaced (by rw [defined, there]) (ih calls)

end Dialect.Grammar
