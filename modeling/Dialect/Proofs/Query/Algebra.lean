import Dialect.Proofs.Query.Combining
import Dialect.Proofs.Query.Pointwise

/-!
The algebra of queries, as texts.

A query in brackets may be used inside of another one. A sign in front of it stands for the
complement, and a set operator between a query and a query in brackets joins what the two select
(`evaluate_combined`), with any blanks in between.
-/

namespace Dialect.Query

open Grammar ParseNode

/-! ### Ids of combined selections -/

namespace Selection

variable {d : Dataset} {s t : Selection} {id : String}

theorem length_dataset_ids (d : Dataset) : d.ids.length = d.size := by
  rw [Dataset.ids, SortedMap.keys, List.length_map]
  rfl

theorem mem_ids : id ∈ s.ids d ↔ ∃ k : Nat, d.ids[k]? = some id ∧ s[k]? = some true := by
  simp only [ids, List.mem_map, List.mem_filter]
  constructor
  · rintro ⟨⟨_, _⟩, ⟨mem, rfl⟩, rfl⟩
    obtain ⟨k, at_⟩ := List.mem_iff_getElem?.mp mem
    exact ⟨k, List.getElem?_zip_eq_some.mp at_⟩
  · rintro ⟨k, place, marked⟩
    have at_ := List.getElem?_zip_eq_some (z := (id, true)).mpr ⟨place, marked⟩
    exact ⟨(id, true), ⟨List.mem_of_getElem? at_, rfl⟩, rfl⟩

/-- Among the ids, an id has one place. -/
theorem place_unique {j k : Nat} (here : d.ids[j]? = some id) (there : d.ids[k]? = some id) :
    j = k :=
  (countP_before (ids_increasing d) here).symm.trans (countP_before (ids_increasing d) there)

/-- An id is selected where it has its place. -/
theorem mem_ids_of_place {k : Nat} (place : d.ids[k]? = some id) :
    id ∈ s.ids d ↔ s[k]? = some true := by
  rw [mem_ids]
  constructor
  · rintro ⟨j, there, marked⟩
    rwa [place_unique place there]
  · intro marked
    exact ⟨k, place, marked⟩

theorem ids_sublist (s : Selection) (d : Dataset) : (s.ids d).Sublist d.ids := by
  have shorter : ((d.ids.zip s).map Prod.fst).Sublist d.ids := by
    rw [List.zip_eq_zip_take_min, List.map_fst_zip (by simp)]
    exact List.take_sublist _ _
  exact (List.filter_sublist.map _).trans shorter

theorem increasing_ids (s : Selection) (d : Dataset) :
    (s.ids d).Pairwise fun a b => compare a b = .lt :=
  (ids_increasing d).sublist (s.ids_sublist d)

/-- Increasing lists of the same ids are equal. -/
theorem eq_of_same_ids {xs ys : List String} (left : xs.Pairwise fun a b => compare a b = .lt)
    (right : ys.Pairwise fun a b => compare a b = .lt) (same : ∀ id, id ∈ xs ↔ id ∈ ys) :
    xs = ys :=
  congrArg SortedSet.toList (SortedSet.ext (s := ⟨xs, left⟩) (t := ⟨ys, right⟩) same)

/-- What a selection of a dataset selects is settled place by place. -/
theorem ids_eq_of_places {xs : List String} (ordered : xs.Pairwise fun a b => compare a b = .lt)
    (listed : xs ⊆ d.ids)
    (marked : ∀ {k : Nat} {id : String}, d.ids[k]? = some id → (id ∈ s.ids d ↔ id ∈ xs)) :
    s.ids d = xs := by
  apply eq_of_same_ids (increasing_ids s d) ordered
  intro id
  constructor
  · intro mem
    obtain ⟨k, place, -⟩ := mem_ids.mp mem
    exact (marked place).mp mem
  · intro mem
    obtain ⟨k, place⟩ := List.mem_iff_getElem?.mp (listed mem)
    exact (marked place).mpr mem

theorem ids_complement (length : s.length = d.size) :
    s.complement.ids d = d.ids.filter (· ∉ s.ids d) := by
  apply ids_eq_of_places ((ids_increasing d).filter _) List.filter_sublist.subset
  intro k id place
  have inside : k < s.length := by
    rw [length, ← length_dataset_ids]
    exact (List.getElem?_eq_some_iff.mp place).1
  rw [List.mem_filter, decide_eq_true_eq, and_iff_right (List.mem_of_getElem? place),
    mem_ids_of_place place, mem_ids_of_place place, getElem?_complement,
    List.getElem?_eq_getElem inside]
  cases s[k] <;> simp

theorem ids_inter : (s.inter t).ids d = (s.ids d).filter (· ∈ t.ids d) := by
  apply ids_eq_of_places ((increasing_ids s d).filter _)
  · exact (List.filter_sublist.trans (s.ids_sublist d)).subset
  · intro k id place
    rw [List.mem_filter, decide_eq_true_eq, mem_ids_of_place place, mem_ids_of_place place,
      mem_ids_of_place place, getElem?_inter]

theorem ids_union (length : s.length = t.length) :
    (s.union t).ids d = (SortedSet.ofList (s.ids d ++ t.ids d)).toList := by
  have mem_joined {id : String} : id ∈ (SortedSet.ofList (s.ids d ++ t.ids d)).toList ↔
      id ∈ s.ids d ∨ id ∈ t.ids d := by
    rw [← SortedSet.mem_def, SortedSet.mem_ofList, List.mem_append]
  apply ids_eq_of_places (SortedSet.increasing _)
  · intro id mem
    rcases mem_joined.mp mem with left | right
    · exact (s.ids_sublist d).subset left
    · exact (t.ids_sublist d).subset right
  · intro k id place
    rw [mem_joined, mem_ids_of_place place, mem_ids_of_place place, mem_ids_of_place place,
      getElem?_union length]

end Selection

/-! ### Accepted texts and what they select -/

namespace Engine

variable {engine : Engine} {text : String} {e : Expr}

/-- The text is accepted as a query. -/
def Accepts (engine : Engine) (text : String) : Prop := ∃ e, engine.parse text = .ok e

/-- The text is evaluated, and selects these ids. -/
def Selects (engine : Engine) (text : String) (ids : List String) : Prop :=
  (engine.evaluate text).result = .ok ids

instance : Decidable (engine.Accepts text) :=
  decidable_of_iff ((engine.parse text).isOk = true) <| by
    unfold Accepts
    cases engine.parse text <;> simp [Except.isOk, Except.toBool]

instance {ids : List String} : Decidable (engine.Selects text ids) :=
  decidable_of_iff ((engine.evaluate text).result.toOption = some ids) <| by
    unfold Selects
    cases (engine.evaluate text).result <;> simp [Except.toOption]

/-- The text is accepted, and evaluating it succeeds just with ids of this property. -/
def Means (engine : Engine) (text : String) (P : List String → Prop) : Prop :=
  engine.Accepts text ∧ ∀ ids, engine.Selects text ids ↔ P ids

theorem selects_iff (parsed : engine.parse text = .ok e) {ids : List String} :
    engine.Selects text ids ↔
      ∃ s, (engine.evaluateExpr e).result = .ok s ∧ ids = s.ids engine.dataset := by
  rw [Selects, evaluate_of_parse parsed, result_bind_eq_ok]
  refine exists_congr fun s => and_congr_right fun _ => ?_
  exact ⟨fun same => (Except.ok.inj same).symm, fun same => same ▸ rfl⟩

theorem length_of_evaluateExpr {s : Selection} (result : (engine.evaluateExpr e).result = .ok s) :
    s.length = engine.dataset.size := by
  cases evaluateExpr_agrees engine e with
  | selected t result' _ _ marks =>
      rw [Except.ok.inj (result.symm.trans result')]
      exact marks.1
  | failed _ _ _ _ _ _ _ result' _ => rw [result'] at result; cases result

end Engine

/-! ### The expressions of combined texts -/

theorem operandOf_set {v : Vocabulary} {set : ParseNode} (rule : set.rule = "set_expr") :
    operandOf v set = setOf v set.children := by
  obtain ⟨_, text, start, stop, children⟩ := set
  obtain rfl := rule
  unfold operandOf
  rfl

theorem operandOf_negation {v : Vocabulary} {node child : ParseNode} {e : Expr}
    (rule : node.rule = "negation") (single : node.children = [child])
    (made : operandOf v child = .ok e) : operandOf v node = .ok (.negation e) := by
  obtain ⟨_, text, start, stop, _⟩ := node
  obtain rfl := rule
  obtain rfl := single
  rw [operandOf]
  change (operandOf v child).map Expr.negation = _
  rw [made]
  rfl

theorem setOf_singleton (v : Vocabulary) (node : ParseNode) :
    setOf v [node] = operandOf v node := by
  rw [setOf]
  cases operandOf v node <;> rfl

theorem setOf_single {v : Vocabulary} {node : ParseNode} {e : Expr}
    (made : operandOf v node = .ok e) : setOf v [node] = .ok e :=
  (setOf_singleton v node).trans made

/-- An operator and its operand at the end of a set expression are joined to what is before. -/
theorem setOf_joined {v : Vocabulary} {nodes : List ParseNode} {op operand : ParseNode}
    {e f joined : Expr} (made : setOf v nodes = .ok e) (made' : operandOf v operand = .ok f)
    (join : joinSets op e f = .ok joined) : setOf v (nodes ++ [op, operand]) = .ok joined := by
  rw [setOf_append made, joinOperands, made']
  change (joinSets op e f >>= fun joined => joinOperands v joined []) = _
  rw [join]
  rfl

/-- A run of blanks. -/
structure Gap where
  text : String
  blank : ∀ c ∈ text.toList, isBlank c = true

/-- A text in brackets, with blanks around it and around them. -/
def bracketed (p₀ p₁ : Gap) (text : String) (p₂ p₃ : Gap) : String :=
  p₀.text ++ "(" ++ p₁.text ++ text ++ p₂.text ++ ")" ++ p₃.text

theorem bracketed_toList (p₀ p₁ p₂ p₃ : Gap) (text : String) :
    (bracketed p₀ p₁ text p₂ p₃).toList =
      p₀.text.toList ++ '(' :: (p₁.text.toList ++ (text.toList ++ (p₂.text.toList ++
        ')' :: p₃.text.toList))) := by
  simp [bracketed]

section

variable {v : Variant} {engine : Engine} {A B : String} {e f : Expr}

/-- What a set expression in brackets is built into. -/
theorem exists_operandOf {nodes : List ParseNode} {set : ParseNode}
    (blind : Blind engine.vocabulary) (made : setOf engine.vocabulary nodes = .ok e)
    (rule : set.rule = "set_expr")
    (same : settledAll blanks looseRules nodes = settledAll blanks looseRules set.children) :
    ∃ e', operandOf engine.vocabulary set = .ok e' ∧ engine.Equates e e' := by
  rw [operandOf_set rule]
  exact setOf_of_settled blind same made

theorem parse_bracketed (parser : engine.parser = (queries v).parse "query")
    (blind : Blind engine.vocabulary) (parsed : engine.parse A = .ok e) (p₀ p₁ p₂ p₃ : Gap) :
    ∃ e', engine.parse (bracketed p₀ p₁ A p₂ p₃) = .ok e' ∧ engine.Equates e e' := by
  obtain ⟨nodes, asks, made⟩ := asks_of_parse parser parsed
  obtain ⟨set, whole, rule, same⟩ := asks.grouped p₀.blank p₁.blank p₂.blank p₃.blank
  obtain ⟨e', operand, equal⟩ := exists_operandOf blind made rule same
  rw [← bracketed_toList] at whole
  exact ⟨e', (whole.parse parser).trans (setOf_single operand), equal⟩

theorem parse_negated (parser : engine.parser = (queries v).parse "query")
    (blind : Blind engine.vocabulary) (parsed : engine.parse A = .ok e) (p p₀ p₁ p₂ p₃ : Gap) :
    ∃ e', engine.parse (p.text ++ "-" ++ bracketed p₀ p₁ A p₂ p₃) = .ok (.negation e') ∧
      engine.Equates e e' := by
  obtain ⟨nodes, asks, made⟩ := asks_of_parse parser parsed
  obtain ⟨node, set, whole, negation, single, rule, same⟩ :=
    asks.negated p.blank p₀.blank p₁.blank p₂.blank p₃.blank
  obtain ⟨e', operand, equal⟩ := exists_operandOf blind made rule same
  have text : (p.text ++ "-" ++ bracketed p₀ p₁ A p₂ p₃).toList =
      p.text.toList ++ '-' :: (bracketed p₀ p₁ A p₂ p₃).toList := by
    simp
  rw [← bracketed_toList, ← text] at whole
  have made' := setOf_single (operandOf_negation negation single operand)
  exact ⟨e', (whole.parse parser).trans made', equal⟩

/-- The texts with a set operator in between are parsed to what the operator joins. -/
theorem parse_joined (parser : engine.parser = (queries v).parse "query")
    (blind : Blind engine.vocabulary) (parsed : engine.parse A = .ok e)
    (parsed' : engine.parse B = .ok f) {sign : Char} (operator : isOperator sign = true)
    {join : Expr → Expr → Expr}
    (joins : ∀ op e f, op.text = String.ofList [sign] → joinSets op e f = .ok (join e f))
    (p p₀ p₁ p₂ p₃ : Gap) :
    ∃ e' f', engine.parse (A ++ p.text ++ String.ofList [sign] ++ bracketed p₀ p₁ B p₂ p₃) =
      .ok (join e' f') ∧ engine.Equates e e' ∧ engine.Equates f f' := by
  obtain ⟨nodes, asks, made⟩ := asks_of_parse parser parsed
  obtain ⟨nodes', asks', made'⟩ := asks_of_parse parser parsed'
  obtain ⟨again, op, set, whole, same, named, rule, same'⟩ :=
    asks.joined asks' operator p.blank p₀.blank p₁.blank p₂.blank p₃.blank
  obtain ⟨e', first, equal⟩ := setOf_of_settled blind same made
  obtain ⟨f', operand, equal'⟩ := exists_operandOf blind made' rule same'
  have text : (A ++ p.text ++ String.ofList [sign] ++ bracketed p₀ p₁ B p₂ p₃).toList =
      A.toList ++ (p.text.toList ++ sign :: (bracketed p₀ p₁ B p₂ p₃).toList) := by
    simp
  rw [← bracketed_toList, ← text] at whole
  have made := setOf_joined first operand (joins op e' f' named)
  exact ⟨e', f', (whole.parse parser).trans made, equal, equal'⟩

end

/-! ### What combined texts select -/

namespace Engine

variable {engine : Engine} {A B text : String} {e e' f f' : Expr}

theorem means_same (parsed : engine.parse A = .ok e) (parsed' : engine.parse text = .ok e')
    (equal : engine.Equates e e') : engine.Means text (engine.Selects A) := by
  refine ⟨⟨e', parsed'⟩, ?_⟩
  intro ids
  rw [selects_iff parsed, selects_iff parsed']
  exact exists_congr fun s => and_congr_left fun _ => (equal s).symm

theorem means_complement (parsed : engine.parse A = .ok e)
    (parsed' : engine.parse text = .ok (.negation e')) (equal : engine.Equates e e') :
    engine.Means text fun ids => ∃ x, engine.Selects A x ∧ ids = engine.allIds.filter (· ∉ x) := by
  refine ⟨⟨_, parsed'⟩, ?_⟩
  intro ids
  simp only [selects_iff parsed, selects_iff parsed', negation_eq_ok]
  constructor
  · rintro ⟨_, ⟨s, result, rfl⟩, rfl⟩
    have result := (equal s).mpr result
    exact ⟨_, ⟨s, result, rfl⟩, Selection.ids_complement (length_of_evaluateExpr result)⟩
  · rintro ⟨_, ⟨s, result, rfl⟩, rfl⟩
    refine ⟨_, ⟨s, (equal s).mp result, rfl⟩, ?_⟩
    exact (Selection.ids_complement (length_of_evaluateExpr result)).symm

/-- Texts are combined as the selections they ask for are. -/
theorem means_combined {g : Expr} {op : Selection → Selection → Selection}
    {join : List String → List String → List String} (parsed : engine.parse A = .ok e)
    (parsedB : engine.parse B = .ok f) (parsed' : engine.parse text = .ok g)
    (equal : engine.Equates e e') (equal' : engine.Equates f f')
    (combined : ∀ s, (engine.evaluateExpr g).result = .ok s ↔
      ∃ t u, (engine.evaluateExpr e').result = .ok t ∧ (engine.evaluateExpr f').result = .ok u ∧
        s = op t u)
    (ids_op : ∀ {s t : Selection}, s.length = engine.dataset.size →
      t.length = engine.dataset.size →
      (op s t).ids engine.dataset = join (s.ids engine.dataset) (t.ids engine.dataset)) :
    engine.Means text fun ids =>
      ∃ x y, engine.Selects A x ∧ engine.Selects B y ∧ ids = join x y := by
  have ids_eq {s t : Selection} (left : (engine.evaluateExpr e).result = .ok s)
      (right : (engine.evaluateExpr f).result = .ok t) :
      (op s t).ids engine.dataset = join (s.ids engine.dataset) (t.ids engine.dataset) :=
    ids_op (length_of_evaluateExpr left) (length_of_evaluateExpr right)
  refine ⟨⟨_, parsed'⟩, ?_⟩
  intro ids
  simp only [selects_iff parsed, selects_iff parsedB, selects_iff parsed', combined]
  constructor
  · rintro ⟨_, ⟨s, t, left, right, rfl⟩, rfl⟩
    have left := (equal s).mpr left
    have right := (equal' t).mpr right
    exact ⟨_, _, ⟨s, left, rfl⟩, ⟨t, right, rfl⟩, ids_eq left right⟩
  · rintro ⟨_, _, ⟨s, left, rfl⟩, ⟨t, right, rfl⟩, rfl⟩
    exact ⟨_, ⟨s, t, (equal s).mp left, (equal' t).mp right, rfl⟩, (ids_eq left right).symm⟩

theorem means_inter (parsed : engine.parse A = .ok e) (parsedB : engine.parse B = .ok f)
    (parsed' : engine.parse text = .ok (.intersection e' f')) (equal : engine.Equates e e')
    (equal' : engine.Equates f f') :
    engine.Means text fun ids =>
      ∃ x y, engine.Selects A x ∧ engine.Selects B y ∧ ids = x.filter (· ∈ y) :=
  means_combined parsed parsedB parsed' equal equal' (fun _ => intersection_eq_ok)
    fun _ _ => Selection.ids_inter

theorem means_union (parsed : engine.parse A = .ok e) (parsedB : engine.parse B = .ok f)
    (parsed' : engine.parse text = .ok (.union e' f')) (equal : engine.Equates e e')
    (equal' : engine.Equates f f') :
    engine.Means text fun ids =>
      ∃ x y, engine.Selects A x ∧ engine.Selects B y ∧
        ids = (SortedSet.ofList (x ++ y)).toList :=
  means_combined parsed parsedB parsed' equal equal' (fun _ => union_eq_ok)
    fun left right => Selection.ids_union (left.trans right.symm)

end Engine

/-- The algebra of queries over an archive, as texts. A text that is accepted is also accepted in
brackets, and selects the same. With a sign in front of the brackets it selects the other ids, and
with a comma or a bar and a text in brackets behind it, the ids that both or either select. Any
blanks may stand in between, and evaluating fails only if it does for a part. -/
theorem evaluate_combined {named : Bool} {index : Archive.TagIndex} {d : Dataset}
    {capabilities : Capabilities} {engine : Engine}
    (made : Engine.withCapabilities d
      (if named then Archive.storyVocabulary index else Archive.tagVocabulary index) capabilities =
        .ok engine)
    {A B : String} (accepted : engine.Accepts A) (accepted' : engine.Accepts B)
    (p p₀ p₁ p₂ p₃ : Gap) :
    engine.Means (bracketed p₀ p₁ A p₂ p₃) (engine.Selects A) ∧
    engine.Means (p.text ++ "-" ++ bracketed p₀ p₁ A p₂ p₃) (fun ids =>
      ∃ x, engine.Selects A x ∧ ids = engine.allIds.filter (· ∉ x)) ∧
    engine.Means (A ++ p.text ++ "," ++ bracketed p₀ p₁ B p₂ p₃) (fun ids =>
      ∃ x y, engine.Selects A x ∧ engine.Selects B y ∧ ids = x.filter (· ∈ y)) ∧
    engine.Means (A ++ p.text ++ "|" ++ bracketed p₀ p₁ B p₂ p₃) (fun ids =>
      ∃ x y, engine.Selects A x ∧ engine.Selects B y ∧
        ids = (SortedSet.ofList (x ++ y)).toList) := by
  have serves : (Variant.mk named capabilities.flags capabilities.features).Serves _ := ⟨index, rfl⟩
  have known := parser_of_made serves made
  have parser : engine.parser =
      (queries ⟨named, capabilities.flags, capabilities.features⟩).parse "query" := by
    rw [known]
  have blind : Blind engine.vocabulary := by
    rw [known]
    exact Archive.blind_of_serves serves
  obtain ⟨e, parsed⟩ := accepted
  obtain ⟨f, parsed'⟩ := accepted'
  refine ⟨?_, ?_, ?_, ?_⟩
  · obtain ⟨e', whole, equal⟩ := parse_bracketed parser blind parsed p₀ p₁ p₂ p₃
    exact Engine.means_same parsed whole equal
  · obtain ⟨e', whole, equal⟩ := parse_negated parser blind parsed p p₀ p₁ p₂ p₃
    exact Engine.means_complement parsed whole equal
  · have joins (op : ParseNode) (e f : Expr) (text : op.text = String.ofList [',']) :
        joinSets op e f = .ok (.intersection e f) := by
      rw [joinSets, text]
      rfl
    obtain ⟨e', f', whole, equal, equal'⟩ :=
      parse_joined parser blind parsed parsed' rfl joins p p₀ p₁ p₂ p₃
    exact Engine.means_inter parsed parsed' whole equal equal'
  · have joins (op : ParseNode) (e f : Expr) (text : op.text = String.ofList ['|']) :
        joinSets op e f = .ok (.union e f) := by
      rw [joinSets, text]
      rfl
    obtain ⟨e', f', whole, equal, equal'⟩ :=
      parse_joined parser blind parsed parsed' rfl joins p p₀ p₁ p₂ p₃
    exact Engine.means_union parsed parsed' whole equal equal'

/-- The engine for queries over the stories of an archive. -/
def storyEngine (stories : Dataset) : Engine :=
  ⟨stories, Archive.storyVocabulary (.build stories), (queries ⟨true, true, true⟩).parse "query"⟩

theorem withCapabilities_stories {stories : Dataset} (small : stories.size < Word.count32) :
    Engine.withCapabilities stories (Archive.storyVocabulary (.build stories))
      { flags := true, features := true } = .ok (storyEngine stories) := by
  have serves : (Variant.mk true true true).Serves (Archive.storyVocabulary (.build stories)) :=
    ⟨_, rfl⟩
  rw [withCapabilities_eq rfl serves, Engine.ofParts, if_pos small]
  rfl

/-- Two stories, of which the first is a comedy. -/
def twoStories : Dataset := .ofList [
  ("1", .object [("title", .text "A"), ("tags", .list [
    .object [("id", .text "5"), ("name", .text "Comedy"), ("type", .text "genre")]])]),
  ("2", .object [("title", .text "B")])]

theorem evaluate_combined_stories :
    Engine.withCapabilities twoStories (Archive.storyVocabulary (.build twoStories))
        { flags := true, features := true } = .ok (storyEngine twoStories) ∧
      (storyEngine twoStories).Accepts "comedy " ∧
      (storyEngine twoStories).Accepts ".title >= \"B\"" ∧
      (storyEngine twoStories).Selects "-\n(comedy )" ["2"] ∧
      (storyEngine twoStories).Selects "comedy ,\n(.title >= \"B\")" [] ∧
      (storyEngine twoStories).Selects "comedy |\n(.title >= \"B\")" ["1", "2"] := by
  have small : twoStories.size < Word.count32 := by decide +kernel
  have made := withCapabilities_stories small
  have accepted : (storyEngine twoStories).Accepts "comedy " := by decide +kernel
  have accepted' : (storyEngine twoStories).Accepts ".title >= \"B\"" := by decide +kernel
  have comedies : (storyEngine twoStories).Selects "comedy " ["1"] := by decide +kernel
  have late : (storyEngine twoStories).Selects ".title >= \"B\"" ["2"] := by decide +kernel
  obtain ⟨-, others, both, either⟩ := @evaluate_combined true _ _ _ _ made _ _ accepted accepted'
    ⟨"", by simp⟩ ⟨"\n", by simp [blanks]⟩ ⟨"", by simp⟩ ⟨"", by simp⟩ ⟨"", by simp⟩
  refine ⟨made, accepted, accepted', (others.2 _).mpr ⟨_, comedies, ?_⟩,
    (both.2 _).mpr ⟨_, _, comedies, late, ?_⟩, (either.2 _).mpr ⟨_, _, comedies, late, ?_⟩⟩
  all_goals decide +kernel

end Dialect.Query
