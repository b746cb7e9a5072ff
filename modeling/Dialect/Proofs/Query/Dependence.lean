import Dialect.Proofs.Query.Pointwise

/-!
What evaluation depends on.

A feature reads a record only along the paths that it names: two records in which these paths have
the same outcome, a value or an error, have the same value of the feature, or the same error. An
expression asks its vocabulary for its flags and reads the records for its comparisons, so without
flags its outcome depends on the ids and on the named paths only. Main statement:
`evaluation_local`.
-/

namespace Dialect

namespace Feature

variable {record other : Value}

mutual

/-- The paths that a feature names, from left to right. -/
def paths : Feature → List FieldPath
  | .number _ | .text _ => []
  | .field path => [path]
  | .binary _ left right => left.paths ++ right.paths
  | .extremum _ arguments => pathsOf arguments

/-- The paths that some features name. -/
def pathsOf : List Feature → List FieldPath
  | [] => []
  | f :: rest => f.paths ++ pathsOf rest

end

/-- Each of the paths has the same outcome in both records. -/
def AgreeOn (paths : List FieldPath) (record other : Value) : Prop :=
  ∀ p ∈ paths, p.resolve record ∅ = p.resolve other ∅

theorem agreeOn_append {ps qs : List FieldPath} :
    AgreeOn (ps ++ qs) record other ↔ AgreeOn ps record other ∧ AgreeOn qs record other :=
  List.forall_mem_append

mutual

/-- A feature has the same outcome for records that agree on the paths it names. -/
theorem evaluate_congr : ∀ f : Feature, AgreeOn f.paths record other →
    f.evaluate record = f.evaluate other
  | .number _, _ | .text _, _ => rfl
  | .field path, agree => by
    rw [evaluate, evaluate, agree path List.mem_cons_self]
  | .binary op left right, agree => by
    obtain ⟨first, second⟩ := agreeOn_append.mp agree
    rw [evaluate, evaluate, left.evaluate_congr first, right.evaluate_congr second]
  | .extremum side arguments, agree => by
    rw [evaluate, evaluate, evaluateExtremum_congr side none arguments agree]

/-- So does the search for an extreme, whatever the best so far is. -/
theorem evaluateExtremum_congr (side : Extreme) : ∀ (best : Option Scalar) (fs : List Feature),
    AgreeOn (pathsOf fs) record other →
      evaluateExtremum record side best fs = evaluateExtremum other side best fs
  | none, [], _ | some _, [], _ => rfl
  | none, f :: rest, agree => by
    obtain ⟨first, later⟩ := agreeOn_append.mp agree
    rw [evaluateExtremum, evaluateExtremum, f.evaluate_congr first]
    refine bind_congr fun candidate => ?_
    exact evaluateExtremum_congr side (some candidate) rest later
  | some best, f :: rest, agree => by
    obtain ⟨first, later⟩ := agreeOn_append.mp agree
    rw [evaluateExtremum, evaluateExtremum, f.evaluate_congr first]
    refine bind_congr fun candidate => bind_congr fun next => ?_
    exact evaluateExtremum_congr side (some next) rest later

end

end Feature

namespace Query

open Feature

variable {engine other : Engine} {e : Expr}

/-- The paths that a leaf names. -/
def Leaf.paths : Leaf → List FieldPath
  | .flag _ => []
  | .comparison left _ right => left.paths ++ right.paths

/-- The paths that an expression names, from left to right. -/
def Expr.paths (e : Expr) : List FieldPath := e.leaves.flatMap Leaf.paths

/-- Entries with the same ids, in which the paths have the same outcomes. -/
def EntriesAgree (paths : List FieldPath) (d d' : Dataset) : Prop :=
  List.Forall₂ (fun entry entry' => entry.1 = entry'.1 ∧ AgreeOn paths entry.2 entry'.2)
    d.toList d'.toList

theorem entriesAgree_of_ids {paths : List FieldPath} {d d' : Dataset} (ids : d.ids = d'.ids)
    (agree : ∀ id record record', d.get? id = some record → d'.get? id = some record' →
      AgreeOn paths record record') : EntriesAgree paths d d' := by
  have named : List.Forall₂ (fun entry entry' : String × Value => entry.1 = entry'.1)
      d.toList d'.toList := by
    have same : List.Forall₂ Eq (d.toList.map Prod.fst) (d'.toList.map Prod.fst) := by
      rw [List.forall₂_eq_eq_eq]
      exact ids
    rwa [List.forall₂_map_left_iff, List.forall₂_map_right_iff] at same
  obtain ⟨lengths, pairs⟩ := List.forall₂_iff_zip.mp named
  refine List.forall₂_iff_zip.mpr ⟨lengths, ?_⟩
  rintro ⟨id, record⟩ ⟨_, record'⟩ pair
  obtain rfl := pairs pair
  obtain ⟨listed, listed'⟩ := List.of_mem_zip pair
  exact ⟨rfl, agree id record record' (mem_toList.mp listed) (mem_toList.mp listed')⟩

/-- A leaf gets the same to go by from both engines: the same answer to a flag, or entries that
agree on the paths of a comparison. -/
def Leaf.Alike (engine other : Engine) : Leaf → Prop
  | .flag node => engine.vocabulary.resolveFlag node = other.vocabulary.resolveFlag node
  | .comparison left _ right =>
    EntriesAgree (left.paths ++ right.paths) engine.dataset other.dataset

/-- A comparison of entries that agree has the same outcomes, entry by entry. -/
theorem comparing_congr {left right : Feature} {d d' : Dataset} (c : Comparator)
    (agree : EntriesAgree (left.paths ++ right.paths) d d') :
    d.toList.mapM (Engine.compareEntry left c right) =
      d'.toList.mapM (Engine.compareEntry left c right) := by
  refine mapM_congr (agree.imp ?_)
  rintro ⟨id, record⟩ ⟨_, record'⟩ ⟨rfl, paths⟩
  obtain ⟨first, second⟩ := agreeOn_append.mp paths
  rw [Engine.compareEntry, Engine.compareEntry, Engine.compare, Engine.compare,
    left.evaluate_congr first, right.evaluate_congr second]

/-- Engines with the same ids that are alike at each leaf evaluate an expression alike. -/
theorem evaluateExpr_congr (ids : engine.dataset.ids = other.dataset.ids)
    (alike : ∀ leaf ∈ e.leaves, leaf.Alike engine other) :
    engine.evaluateExpr e = other.evaluateExpr e := by
  induction e with
  | negation e ih => rw [Engine.evaluateExpr, Engine.evaluateExpr, ih alike]
  | intersection left right first second =>
      obtain ⟨before, after⟩ := List.forall_mem_append.mp alike
      rw [Engine.evaluateExpr, Engine.evaluateExpr, first before, second after]
  | union left right first second =>
      obtain ⟨before, after⟩ := List.forall_mem_append.mp alike
      rw [Engine.evaluateExpr, Engine.evaluateExpr, first before, second after]
  | flag node =>
      have answer : engine.vocabulary.resolveFlag node = other.vocabulary.resolveFlag node :=
        alike (.flag node) List.mem_cons_self
      simp only [Engine.evaluateExpr, Selection.ofIds, answer, ids]
  | comparison left c right =>
      have agree := alike (.comparison left c right) List.mem_cons_self
      rw [Engine.evaluateExpr, Engine.evaluateExpr, comparing_congr c agree]

/-- What is selected of two datasets with the same ids has the same ids. -/
theorem ids_congr (ids : engine.dataset.ids = other.dataset.ids) (s : Selection) :
    s.ids engine.dataset = s.ids other.dataset := by
  rw [Selection.ids, Selection.ids, ids]

/-- Entries that agree on the paths of an expression without flags agree at each of its leaves. -/
theorem alike_of_paths (pure : ∀ node, Leaf.flag node ∉ e.leaves)
    (ids : engine.dataset.ids = other.dataset.ids)
    (agree : ∀ id record record', engine.dataset.get? id = some record →
      other.dataset.get? id = some record' → AgreeOn e.paths record record') :
    ∀ leaf ∈ e.leaves, leaf.Alike engine other := by
  intro leaf mem
  cases leaf with
  | flag node => exact absurd mem (pure node)
  | comparison left c right =>
      refine entriesAgree_of_ids ids fun id record record' here there p named => ?_
      exact agree id record record' here there p (List.mem_flatMap.mpr ⟨_, mem, named⟩)

/-- Features and queries read the fields that they name and no others. A feature has the same
outcome for any two records in which each path that it names has the same outcome. So has a query
without flags for any two datasets with the same ids whose records agree on each path that it
names: whatever the engines are otherwise, they select the same ids or fail with the same error. -/
theorem evaluation_local :
    (∀ (f : Feature) (record other : Value), AgreeOn f.paths record other →
      f.evaluate record = f.evaluate other) ∧
    ∀ (e : Expr) (engine other : Engine), (∀ node, Leaf.flag node ∉ e.leaves) →
      engine.dataset.ids = other.dataset.ids →
      (∀ id record record', engine.dataset.get? id = some record →
        other.dataset.get? id = some record' → AgreeOn e.paths record record') →
      engine.evaluateExpr e = other.evaluateExpr e ∧
      (engine.evaluateExpr e).result.map (·.ids engine.dataset) =
        (other.evaluateExpr e).result.map (·.ids other.dataset) ∧
      ∀ text, engine.parse text = .ok e → other.parse text = .ok e →
        engine.evaluate text = other.evaluate text := by
  refine ⟨fun f record other => f.evaluate_congr, ?_⟩
  intro e engine other pure ids agree
  have same := evaluateExpr_congr ids (alike_of_paths pure ids agree)
  refine ⟨same, ?_, ?_⟩
  · simp only [same, ids_congr ids]
  · intro text read read'
    rw [Engine.evaluate_of_parse read, Engine.evaluate_of_parse read', same]
    simp only [ids_congr ids]

/-- Two stories, the second without a count of likes. -/
def titled (title : String) : Engine where
  dataset := .ofList [
    ("a", .object [("likes", .number (.int 9)), ("title", .text title)]),
    ("b", .object [("title", .text title)])]
  vocabulary := { capabilities := .none, fragments := .empty }
  parser := fun _ => .ok []

/-- Not three likes. -/
def notThree : Expr := .negation (.comparison (.field ⟨["likes"]⟩) .equal (.number (.ofNat 3)))

theorem titled_get? {title id : String} {record : Value}
    (known : (titled title).dataset.get? id = some record) :
    (id = "b" ∧ record = .object [("title", .text title)]) ∨
      (id = "a" ∧ record = .object [("likes", .number (.int 9)), ("title", .text title)]) := by
  simp only [titled, Dataset.get?, Dataset.ofList, SortedMap.ofList, List.foldl_cons,
    List.foldl_nil, SortedMap.get?_insert, SortedMap.get?_empty] at known
  split_ifs at known with last first
  · exact .inl ⟨last, (Option.some.inj known).symm⟩
  · exact .inr ⟨first, (Option.some.inj known).symm⟩

theorem notThree_agree (title title' id : String) (record record' : Value)
    (here : (titled title).dataset.get? id = some record)
    (there : (titled title').dataset.get? id = some record') :
    AgreeOn notThree.paths record record' := by
  intro p named
  obtain rfl : p = ⟨["likes"]⟩ := List.mem_singleton.mp named
  rcases titled_get? here with ⟨rfl, rfl⟩ | ⟨rfl, rfl⟩
  · obtain ⟨-, rfl⟩ := (titled_get? there).resolve_right (by simp)
    rfl
  · obtain ⟨-, rfl⟩ := (titled_get? there).resolve_left (by simp)
    rfl

/-- Other titles, the same error: the one for the story without a count. -/
theorem evaluation_local_titled :
    ((titled "One").evaluateExpr notThree).result =
      .error (.evaluation "b" (.field ".likes" .noSuchField)) ∧
    (titled "One").evaluateExpr notThree = (titled "Two").evaluateExpr notThree :=
  ⟨rfl, (evaluation_local.2 notThree (titled "One") (titled "Two") (by simp [notThree, Expr.leaves])
    rfl (notThree_agree "One" "Two")).1⟩

end Query

end Dialect
