import Dialect.Archive.Vocabulary
import Dialect.Proofs.Grammar.Nodes
import Dialect.Proofs.Query.Contracts
import Dialect.Proofs.Sequence

/-!
The expression of a query does not depend on offsets and on blanks at its end.

Nodes that differ in nothing else are built into the same features and into expressions that
evaluate alike (`setOf_settled`).
-/

namespace Dialect.Query

open ParseNode

/-- None of the loose rules is one whose text has a meaning up to its end. -/
def Firm (loose : List String) : Prop :=
  ∀ rule ∈ ["extremum", "field", "number", "string", "story_feature", "quoted_pattern"],
    loose.contains rule = false

theorem firm_looseRules : Firm looseRules := by
  unfold Firm
  decide

theorem Firm.inner {loose : List String} (firm : Firm loose) (held : Bool) :
    Firm (if held then loose else []) := by
  cases held with
  | true => exact firm
  | false => exact fun _ _ => rfl

/-- The vocabulary looks neither at offsets nor at blanks at the end. -/
structure Blind (v : Vocabulary) : Prop where
  feature : ∀ {loose node}, Firm loose → v.feature (node.settled blanks loose) = v.feature node
  flag : ∀ {loose node ids}, Firm loose →
    ((v.resolveFlag (node.settled blanks loose)).result = .ok ids ↔
      (v.resolveFlag node).result = .ok ids)

/-! ### Features -/

section

variable {v : Vocabulary} {loose : List String}

mutual

/-- The feature of a node does not depend on offsets and on blanks at its end. -/
theorem featureOf_settled (blind : Blind v) : ∀ (node : ParseNode) {loose : List String},
    Firm loose → Similar Eq (featureOf v (node.settled blanks loose)) (featureOf v node)
  | ⟨rule, text, start, stop, children⟩, loose, firm => by
      have foreign : foreignFeature v (settled blanks loose ⟨rule, text, start, stop, children⟩) =
          foreignFeature v ⟨rule, text, start, stop, children⟩ := by
        rw [foreignFeature, blind.feature firm, settled_rule]
        rfl
      have inner := firm.inner (loose.contains rule)
      have kept (name : String) (named : (rule == name) = true)
          (mem : name ∈ ["extremum", "field", "number", "string", "story_feature",
            "quoted_pattern"]) : loose.contains rule = false := by
        rw [beq_iff_eq.mp named]
        exact firm name mem
      rw [settled_mk] at foreign ⊢
      unfold featureOf
      split
      · -- operands joined by operators
        cases children with
        | nil => exact .error
        | cons first rest =>
            rw [settledAll_head]
            refine (featureOf_settled blind first (inner.inner _)).bind ?_
            rintro f g rfl
            exact chain_settled blind rule f rest inner
      split
      · rename_i named
        rw [kept _ named (by simp)]
        cases children with
        | nil => exact .error
        | cons name arguments =>
            rw [settledAll_head]
            refine (featuresOf_settled blind arguments (fun _ _ => rfl)).bind ?_
            rintro fs gs rfl
            refine Similar.bind (Similar.of_eq ?_) ?_
            · rw [if_neg Bool.false_ne_true, ite_self, settled_of_not_loose rfl, extremeOf,
                bare_text]
              rfl
            · rintro side side rfl
              exact .ok rfl
      split
      · rename_i named
        rw [kept _ named (by simp)]
        exact .of_eq rfl
      split
      · rename_i named
        rw [kept _ named (by simp)]
        exact .of_eq rfl
      split
      · rename_i named
        rw [kept _ named (by simp)]
        exact .of_eq rfl
      · exact .of_eq foreign

theorem chain_settled (blind : Blind v) (rule : String) : ∀ (f : Feature) (nodes : List ParseNode)
    {loose : List String}, Firm loose →
    Similar Eq (chain v rule f (settledAll blanks loose nodes)) (chain v rule f nodes)
  | f, [], _, _ => .of_eq rfl
  | f, [_], _, _ => .error
  | f, op :: operand :: rest, loose, firm => by
      rw [settledAll_cons (List.cons_ne_nil _ _), settledAll_head, chain, chain]
      refine Similar.bind (Similar.of_eq (by rw [operatorOf, bare_text]; rfl)) ?_
      rintro op op rfl
      refine (featureOf_settled blind operand (firm.inner _)).bind ?_
      rintro g g rfl
      exact chain_settled blind rule _ rest firm

theorem featuresOf_settled (blind : Blind v) : ∀ (nodes : List ParseNode) {loose : List String},
    Firm loose → Similar Eq (featuresOf v (settledAll blanks loose nodes)) (featuresOf v nodes)
  | [], _, _ => .of_eq rfl
  | node :: rest, loose, firm => by
      rw [settledAll_head, featuresOf, featuresOf]
      refine (featureOf_settled blind node (firm.inner _)).bind ?_
      rintro f f rfl
      refine (featuresOf_settled blind rest firm).bind ?_
      rintro fs fs rfl
      exact .ok rfl

end

end

/-! ### Expressions -/

namespace Engine

variable {engine : Engine} {e e' f f' : Expr}

/-- Evaluating the expressions succeeds for both or for neither, with the same entries. -/
def Equates (engine : Engine) (e e' : Expr) : Prop :=
  ∀ s, (engine.evaluateExpr e).result = .ok s ↔ (engine.evaluateExpr e').result = .ok s

theorem Equates.symm (h : engine.Equates e e') : engine.Equates e' e := fun s => (h s).symm

theorem Equates.trans {e'' : Expr} (h : engine.Equates e e') (h' : engine.Equates e' e'') :
    engine.Equates e e'' := fun s => (h s).trans (h' s)

theorem negation_eq_ok {s : Selection} : (engine.evaluateExpr (.negation e)).result = .ok s ↔
    ∃ t, (engine.evaluateExpr e).result = .ok t ∧ s = t.complement := by
  rw [evaluateExpr, result_bind_eq_ok]
  refine exists_congr fun t => and_congr_right fun _ => ?_
  exact ⟨fun h => (Except.ok.inj h).symm, fun h => h ▸ rfl⟩

/-- Two selections are combined once both are made. -/
theorem combined_eq_ok {x y : Reported Selection} {op : Selection → Selection → Selection}
    {s : Selection} :
    (do let t ← x; let u ← y; pure (op t u) : Reported Selection).result = .ok s ↔
      ∃ t u, x.result = .ok t ∧ y.result = .ok u ∧ s = op t u := by
  rw [result_bind_eq_ok]
  simp only [result_bind_eq_ok]
  refine exists_congr fun t => ?_
  rw [← exists_and_left]
  refine exists_congr fun u => and_congr_right fun _ => and_congr_right fun _ => ?_
  exact ⟨fun h => (Except.ok.inj h).symm, fun h => h ▸ rfl⟩

theorem intersection_eq_ok {s : Selection} :
    (engine.evaluateExpr (.intersection e f)).result = .ok s ↔
      ∃ t u, (engine.evaluateExpr e).result = .ok t ∧ (engine.evaluateExpr f).result = .ok u ∧
        s = t.inter u :=
  combined_eq_ok

theorem union_eq_ok {s : Selection} :
    (engine.evaluateExpr (.union e f)).result = .ok s ↔
      ∃ t u, (engine.evaluateExpr e).result = .ok t ∧ (engine.evaluateExpr f).result = .ok u ∧
        s = t.union u :=
  combined_eq_ok

theorem Equates.negation (h : engine.Equates e e') :
    engine.Equates (.negation e) (.negation e') := by
  intro s
  rw [negation_eq_ok, negation_eq_ok]
  exact exists_congr fun t => and_congr_left fun _ => h t

theorem Equates.intersection (h : engine.Equates e e') (h' : engine.Equates f f') :
    engine.Equates (.intersection e f) (.intersection e' f') := by
  intro s
  rw [intersection_eq_ok, intersection_eq_ok]
  exact exists_congr fun t => exists_congr fun u => and_congr (h t) (and_congr_left fun _ => h' u)

theorem Equates.union (h : engine.Equates e e') (h' : engine.Equates f f') :
    engine.Equates (.union e f) (.union e' f') := by
  intro s
  rw [union_eq_ok, union_eq_ok]
  exact exists_congr fun t => exists_congr fun u => and_congr (h t) (and_congr_left fun _ => h' u)

theorem Equates.flag {node node' : ParseNode}
    (same : ∀ ids, (engine.vocabulary.resolveFlag node).result = .ok ids ↔
      (engine.vocabulary.resolveFlag node').result = .ok ids) :
    engine.Equates (.flag node) (.flag node') := by
  intro s
  rw [evaluateExpr, evaluateExpr, result_bind_eq_ok, result_bind_eq_ok]
  exact exists_congr fun ids => and_congr_left fun _ => same ids

end Engine

open Engine

theorem joinSets_similar {engine : Engine} {op op' : ParseNode} {e e' f f' : Expr}
    (text : op'.text = op.text) (left : engine.Equates e' e) (right : engine.Equates f' f) :
    Similar engine.Equates (joinSets op' e' f') (joinSets op e f) := by
  unfold joinSets
  rw [text]
  split
  · exact .ok (left.intersection right)
  split
  · exact .ok (left.union right)
  · exact .error

section

variable {engine : Engine}

theorem comparisonOf_settled (blind : Blind engine.vocabulary) (text text' : String) :
    ∀ (nodes : List ParseNode) {loose : List String}, Firm loose →
      Similar engine.Equates (comparisonOf engine.vocabulary text' (settledAll blanks loose nodes))
        (comparisonOf engine.vocabulary text nodes)
  | [], _, _ | [_], _, _ | [_, _], _, _ | _ :: _ :: _ :: _ :: _, _, _ => .error
  | [left, comparator, right], loose, firm => by
      rw [settledAll_cons (by simp), settledAll_cons (by simp), settledAll_single, comparisonOf,
        comparisonOf]
      have none : Firm [] := fun _ _ => rfl
      have bared := featureOf_settled blind left none
      rw [settled_of_not_loose rfl] at bared
      refine bared.bind ?_
      rintro l l rfl
      refine Similar.bind (Similar.of_eq (by rw [comparatorOf, bare_text]; rfl)) ?_
      rintro c c rfl
      refine (featureOf_settled blind right firm).bind ?_
      rintro r r rfl
      exact .ok fun _ => .rfl

mutual

theorem operandOf_settled (blind : Blind engine.vocabulary) : ∀ (node : ParseNode)
    {loose : List String}, Firm loose →
      Similar engine.Equates (operandOf engine.vocabulary (node.settled blanks loose))
        (operandOf engine.vocabulary node)
  | ⟨rule, text, start, stop, children⟩, loose, firm => by
      have inner := firm.inner (loose.contains rule)
      have flag : engine.Equates (.flag (settled blanks loose ⟨rule, text, start, stop, children⟩))
          (.flag ⟨rule, text, start, stop, children⟩) := .flag fun ids => blind.flag firm
      rw [settled_mk] at flag ⊢
      unfold operandOf
      split
      · exact setOf_settled blind children inner
      split
      · match children with
        | [] | _ :: _ :: _ => exact .error
        | [child] => exact (operandOf_settled blind child inner).map fun _ _ same => same.negation
      split
      · exact .ok flag
      split
      · exact comparisonOf_settled blind _ _ children inner
      · exact .error

/-- The expression of the nodes in a set expression evaluates in the same way, whatever their
offsets and the blanks at their end. -/
theorem setOf_settled (blind : Blind engine.vocabulary) : ∀ (nodes : List ParseNode)
    {loose : List String}, Firm loose →
      Similar engine.Equates (setOf engine.vocabulary (settledAll blanks loose nodes))
        (setOf engine.vocabulary nodes)
  | [], _, _ => .error
  | first :: rest, loose, firm => by
      rw [settledAll_head, setOf, setOf]
      refine (operandOf_settled blind first (firm.inner _)).bind ?_
      intro e e' same
      exact joinOperands_settled blind rest e e' same firm

theorem joinOperands_settled (blind : Blind engine.vocabulary) : ∀ (nodes : List ParseNode)
    (e e' : Expr) (_ : engine.Equates e e') {loose : List String}, Firm loose →
      Similar engine.Equates (joinOperands engine.vocabulary e (settledAll blanks loose nodes))
        (joinOperands engine.vocabulary e' nodes)
  | [], _, _, same, _, _ => .ok same
  | [_], _, _, _, _, _ => .error
  | op :: operand :: rest, e, e', same, loose, firm => by
      rw [settledAll_cons (List.cons_ne_nil _ _), settledAll_head, joinOperands, joinOperands]
      refine (operandOf_settled blind operand (firm.inner _)).bind ?_
      intro f f' same'
      refine (joinSets_similar bare_text same same').bind ?_
      intro j j' joined
      exact joinOperands_settled blind rest j j' joined firm

end

end

/-- Nodes that settle alike are built into expressions that evaluate alike. -/
theorem setOf_of_settled {engine : Engine} (blind : Blind engine.vocabulary)
    {nodes nodes' : List ParseNode} {e : Expr}
    (same : settledAll blanks looseRules nodes = settledAll blanks looseRules nodes')
    (made : setOf engine.vocabulary nodes = .ok e) :
    ∃ e', setOf engine.vocabulary nodes' = .ok e' ∧ engine.Equates e e' := by
  have left := setOf_settled blind nodes firm_looseRules
  have right := setOf_settled blind nodes' firm_looseRules
  rw [made] at left
  rw [← same] at right
  cases hx : setOf engine.vocabulary (settledAll blanks looseRules nodes) with
  | error fault => rw [hx] at left; cases left
  | ok x =>
      rw [hx] at left right
      cases left with
      | ok equal =>
          cases hy : setOf engine.vocabulary nodes' with
          | error fault => rw [hy] at right; cases right
          | ok e' =>
              rw [hy] at right
              cases right with
              | ok equal' => exact ⟨e', rfl, equal.symm.trans equal'⟩

/-- Further operands are joined to what the operands before them are built into. -/
theorem joinOperands_append {v : Vocabulary} (more : List ParseNode) {e' : Expr} :
    ∀ (nodes : List ParseNode) (e : Expr), joinOperands v e nodes = .ok e' →
      joinOperands v e (nodes ++ more) = joinOperands v e' more
  | [], e, made => by
      rw [joinOperands] at made
      rw [Except.ok.inj made, List.nil_append]
  | [_], e, made => by
      rw [joinOperands] at made
      cases made
  | op :: operand :: rest, e, made => by
      rw [joinOperands] at made
      obtain ⟨f, operand_, made⟩ := bind_eq_ok.mp made
      obtain ⟨joined, join, made⟩ := bind_eq_ok.mp made
      rw [List.cons_append, List.cons_append, joinOperands, operand_]
      change (joinSets op e f >>= fun joined => joinOperands v joined (rest ++ more)) = _
      rw [join]
      exact joinOperands_append more rest joined made

theorem setOf_append {v : Vocabulary} {nodes : List ParseNode} {e : Expr}
    (made : setOf v nodes = .ok e) (more : List ParseNode) :
    setOf v (nodes ++ more) = joinOperands v e more := by
  cases nodes with
  | nil => rw [setOf] at made; cases made
  | cons first rest =>
      rw [setOf] at made
      obtain ⟨f, operand, made⟩ := bind_eq_ok.mp made
      rw [List.cons_append, setOf, operand]
      exact joinOperands_append more rest f made

end Dialect.Query

/-! ### The vocabularies of an archive -/

namespace Dialect.Archive

open ParseNode Query

/-- Trimming takes a blank off the end. -/
theorem trimList_concat {x : Char} (blank : Text.isBlank x = true) (xs : List Char) :
    Text.trimList (xs ++ [x]) = Text.trimList xs := by
  unfold Text.trimList
  rw [List.dropWhile_append]
  split
  · rename_i none
    rw [List.isEmpty_iff.mp none]
    simp [blank]
  · simp [blank]

/-- What is trimmed does not depend on blanks at the end. -/
theorem trim_settled (text : String) :
    Text.trim (String.ofList (text.toList.rdropWhile blanks.contains)) = Text.trim text := by
  have trims {x : Char} (blank : isBlank x = true) : Text.isBlank x = true := by
    rcases blank_cases blank with rfl | rfl | rfl | rfl <;> decide
  unfold Text.trim
  rw [String.toList_ofList]
  congr 1
  induction text.toList using List.reverseRecOn with
  | nil => rfl
  | append_singleton xs x ih =>
      rw [List.rdropWhile_concat]
      split
      · rename_i blank
        rw [ih, trimList_concat (trims blank)]
      · rfl

variable {loose : List String} {node : ParseNode}

theorem patternText_settled (firm : Firm loose) :
    Similar Eq (TagIndex.patternText (node.settled blanks loose)) (TagIndex.patternText node) := by
  unfold TagIndex.patternText
  rw [settled_rule]
  split
  · cases held : loose.contains node.rule with
    | true =>
        rw [settled_of_loose held, trim_settled]
        exact .ok rfl
    | false =>
        rw [settled_of_not_loose held, bare_text]
        exact .ok rfl
  split
  · rename_i quoted
    have kept : loose.contains node.rule = false := by
      rw [beq_iff_eq.mp quoted]
      exact firm _ (by simp)
    rw [settled_of_not_loose kept, bare_text]
    exact .of_eq rfl
  · exact .error

/-- The flag of a node does not depend on offsets and on blanks at its end. -/
theorem ofNode_settled (firm : Firm loose) :
    Similar Eq (TagIndex.Flag.ofNode (node.settled blanks loose)) (TagIndex.Flag.ofNode node) := by
  obtain ⟨rule, text, start, stop, children⟩ := node
  have inner := firm.inner (loose.contains rule)
  rw [settled_mk]
  unfold TagIndex.Flag.ofNode
  match children with
  | [] | _ :: _ :: _ :: _ => exact .error
  | [pattern] =>
      refine (patternText_settled inner).map ?_
      rintro p p rfl
      rfl
  | [category, pattern] =>
      rw [settledAll_cons (List.cons_ne_nil _ _), settledAll_single]
      refine (patternText_settled inner).map ?_
      rintro p p rfl
      rw [bare_text]

theorem flagTags_settled (index : TagIndex) (firm : Firm loose) {found : SortedSet String} :
    (index.flagTags (node.settled blanks loose)).result = .ok found ↔
      (index.flagTags node).result = .ok found := by
  unfold TagIndex.flagTags
  rw [result_bind_eq_ok, result_bind_eq_ok]
  refine exists_congr fun flag => and_congr_left fun _ => ?_
  exact (ofNode_settled firm).eq_ok_iff

/-- The vocabularies of an archive do not look at offsets and at blanks at the end. -/
theorem blind_of_serves {v : Variant} {vocabulary : Vocabulary} (serves : v.Serves vocabulary) :
    Blind vocabulary := by
  obtain ⟨index, rfl⟩ := serves
  cases v.named with
  | false =>
      refine ⟨fun _ => rfl, fun firm => ?_⟩
      change (index.flagTags _ >>= fun tags => pure tags.toList).result = _ ↔
        (index.flagTags _ >>= fun tags => pure tags.toList).result = _
      rw [result_bind_eq_ok, result_bind_eq_ok]
      exact exists_congr fun tags => and_congr_left fun _ => flagTags_settled index firm
  | true =>
      refine ⟨fun {loose node} firm => ?_, fun firm => ?_⟩
      · change storyFeature _ = storyFeature _
        unfold storyFeature ParseNode.is
        rw [settled_rule]
        split
        · rename_i named
          have kept : loose.contains node.rule = false := by
            rw [beq_iff_eq.mp named]
            exact firm _ (by simp)
          rw [settled_of_not_loose kept, bare_text]
        · rfl
      · change (index.flagTags _ >>= fun tags =>
            pure (SortedSet.ofList (tags.toList.flatMap index.storiesWith)).toList).result = _ ↔
          (index.flagTags _ >>= fun tags =>
            pure (SortedSet.ofList (tags.toList.flatMap index.storiesWith)).toList).result = _
        rw [result_bind_eq_ok, result_bind_eq_ok]
        exact exists_congr fun tags => and_congr_left fun _ => flagTags_settled index firm

end Dialect.Archive
