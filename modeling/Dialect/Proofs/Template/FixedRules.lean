import Dialect.Proofs.Grammar.Composition
import Dialect.Template.Engine

/-!
The fixed rules at the beginning of every grammar of directives.

Whatever an embedding adds stands behind them, so the composed text is read to these rules and then
to others. Main statements: `rules_of_made` (a grammar of directives begins with its fixed rules)
and `find?_of_made` (none of them is replaced).
-/

namespace Dialect.Template

open Grammar

/-- The text of the skeleton before its first slot. -/
def fixedText : String :=
  match skeleton.pieces with
  | .text text :: _ => text
  | _ => ""

/-- Its tokens. The last rule is left open. -/
def fixedTokens : List Token := [
  .name "WHITESPACE", .mark '=', .name "_", .mark '\x7b', .string [' '], .mark '\x7d',
  .name "directive", .mark '=', .mark '\x7b', .string ['\x7b'], .mark '~', .name "embed",
  .mark '~', .string ['\x7d'], .mark '~', .name "remainder", .mark '?', .mark '~', .name "EOI",
  .mark '\x7d',
  .name "remainder", .mark '=', .mark '@', .mark '\x7b', .name "ANY", .mark '+', .mark '\x7d',
  .name "embed", .mark '=', .name "_", .mark '\x7b', .name "join"]

/-- The rules that are closed in it. -/
def fixedRules : List Rule := [
  ⟨"WHITESPACE", .silent, .literal [' ']⟩,
  ⟨"directive", .normal,
    .seq (.literal ['\x7b']) (.seq (.call "embed") (.seq (.literal ['\x7d'])
      (.seq (.opt (.call "remainder")) .finish)))⟩,
  ⟨"remainder", .atomic, .seq (.one .any) (.star (.one .any))⟩]

theorem scan_fixed (fuel : Nat) (rest : List Char) :
    Token.scan (fuel + 61) (fixedText.toList ++ rest) =
      (Token.scan fuel rest).map (fixedTokens ++ ·) := by
  rw [fixedText, skeleton]
  dsimp only
  rw [String.toList_ofList]
  simp +decide [Token.scan, Token.isNamePart, Token.string?, fixedTokens, Function.comp_def]

/-- The rules that are closed in it, as they are written. -/
def fixedSurface : List SurfaceRule := [
  ⟨"WHITESPACE", .silent, .literal [' ']⟩,
  ⟨"directive", .normal,
    .seq (.seq (.seq (.seq (.literal ['\x7b']) (.call "embed")) (.literal ['\x7d']))
      (.opt (.call "remainder"))) (.call "EOI")⟩,
  ⟨"remainder", .atomic, .plus (.call "ANY")⟩]

theorem rules_fixed (fuel : Nat) (rest : List Token) :
    ∃ after, Surface.rules (fuel + 3) (fixedTokens ++ rest) =
      (Surface.rules fuel after).map (fixedSurface ++ ·) := by
  refine ⟨.name "embed" :: .mark '=' :: .name "_" :: .mark '\x7b' :: .name "join" :: rest, ?_⟩
  simp [fixedTokens, fixedSurface, Surface.rules, Surface.kind?, Surface.expression, Surface.term,
    Surface.marked, Surface.operators, Surface.suffixes, Surface.joined, Nat.mul_add,
    Function.comp_def]

theorem readRules_fixed {rest : List Char} {rules : List SurfaceRule}
    (read : Surface.readRules (fixedText.toList ++ rest) = some rules) :
    ∃ more, rules = fixedSurface ++ more := by
  have long : fixedText.toList.length = 115 := by decide +kernel
  have steps : (fixedText.toList ++ rest).length + 1 = (rest.length + 55) + 61 := by
    rw [List.length_append, long]
    omega
  rw [Surface.readRules, Token.ofText?, steps, scan_fixed] at read
  cases scanned : Token.scan (rest.length + 55) rest with
  | none =>
    rw [scanned] at read
    cases read
  | some tokens =>
    have count : fixedTokens.length = 32 := rfl
    have steps : (fixedTokens ++ tokens).length + 1 = (tokens.length + 30) + 3 := by
      rw [List.length_append, count]
      omega
    have first : (fixedTokens ++ tokens).dropWhile (· == .grammarDoc) = fixedTokens ++ tokens := rfl
    obtain ⟨after, whole⟩ := rules_fixed (tokens.length + 30) tokens
    rw [scanned, Option.map_some] at read
    dsimp only at read
    rw [first, steps, whole] at read
    obtain ⟨more, -, rfl⟩ := Option.map_eq_some_iff.mp read
    exact ⟨more, rfl⟩

/-- Running the rules does not depend on what is added to them. -/
theorem normal_fixed (rules : List SurfaceRule) :
    fixedSurface.map (SurfaceRule.normal rules) = fixedRules := by
  have call : ∀ defined, callOf defined "embed" = .call "embed" ∧
      callOf defined "remainder" = .call "remainder" ∧ callOf defined "EOI" = .finish ∧
      callOf defined "ANY" = .one .any := by decide +kernel
  simp [fixedSurface, fixedRules, SurfaceRule.normal, Surface.rotate, Surface.appendSeq,
    Surface.lower, call]
  decide +kernel

theorem source_begins (capabilities : Capabilities) (fragments : Fragments) :
    ∃ rest, (skeleton.source capabilities fragments).toList = fixedText.toList ++ rest := by
  rw [Skeleton.source_toList]
  exact ⟨_, List.flatMap_cons⟩

/-- Every grammar of directives begins with the fixed rules. -/
theorem rules_of_made {v : Vocabulary} {capabilities : Capabilities} {composed : ComposedGrammar}
    (made : Engine.grammarOf v capabilities = .ok composed) :
    ∃ more, composed.grammar.rules = fixedRules ++ more := by
  obtain ⟨read, -⟩ := Skeleton.read_of_compose made
  obtain ⟨rest, begins⟩ := source_begins (capabilities.inter v.capabilities) v.fragments
  rw [begins, Grammar.read?] at read
  split at read
  · next rules parsed =>
    split at read
    · obtain ⟨more, rfl⟩ := readRules_fixed parsed
      rw [← Option.some.inj read]
      exact ⟨more.map (SurfaceRule.normal (fixedSurface ++ more)), by
        rw [List.map_append, normal_fixed]⟩
    · cases read
  · cases read

/-- A fixed rule is found by its name, whatever is added. -/
theorem find?_of_made {v : Vocabulary} {capabilities : Capabilities} {composed : ComposedGrammar}
    (made : Engine.grammarOf v capabilities = .ok composed) {name : String} {rule : Rule}
    (fixed : fixedRules.find? (fun r => r.name == name) = some rule) :
    composed.grammar.find? name = some rule := by
  obtain ⟨more, rules⟩ := rules_of_made made
  rw [Grammar.find?, rules, List.find?_append, fixed]
  rfl

end Dialect.Template
