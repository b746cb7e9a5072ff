import Dialect.ParseNode
import Mathlib.Data.List.DropRight

/-!
Nodes that mean the same.

Engines look neither at the offsets of nodes (`bare`) nor at blanks at the end of certain texts.
Such blanks can only stand at the end of a text that is read, so they are in the last of the nodes
there, in the last of its children, and so on (`settled`).

The nodes of one rule are gone through by their texts (`texts`), others by where they stand
(`Within`).
-/

namespace Dialect.ParseNode

mutual

/-- The node without its offsets. -/
def bare : ParseNode → ParseNode
  | ⟨rule, text, _, _, children⟩ => ⟨rule, text, 0, 0, bares children⟩

/-- The nodes without their offsets. -/
def bares : List ParseNode → List ParseNode
  | [] => []
  | node :: rest => node.bare :: bares rest

end

mutual

/-- The node without its offsets, and without blanks at its end if its rule is loose. -/
def settled (blanks : List Char) (loose : List String) : ParseNode → ParseNode
  | ⟨rule, text, _, _, children⟩ =>
    if loose.contains rule then
      ⟨rule, String.ofList (text.toList.rdropWhile blanks.contains), 0, 0,
        settledAll blanks loose children⟩
    else ⟨rule, text, 0, 0, bares children⟩

/-- The nodes without their offsets, and without blanks at their end. -/
def settledAll (blanks : List Char) (loose : List String) : List ParseNode → List ParseNode
  | [] => []
  | node :: rest =>
    (if rest.isEmpty then node.settled blanks loose else node.bare) :: settledAll blanks loose rest

end

/-- The node is the tree itself, or somewhere inside of it. -/
inductive Within (node : ParseNode) : ParseNode → Prop where
  | self : Within node node
  | child {inner tree : ParseNode} : inner ∈ tree.children → Within node inner → Within node tree

theorem Within.eq_of_childless {node tree : ParseNode} (within : node.Within tree)
    (childless : tree.children = []) : node = tree := by
  cases within with
  | self => rfl
  | child mem _ =>
    rw [childless] at mem
    cases mem

mutual

/-- The texts of the nodes of a rule in a tree, from left to right. -/
def texts (rule : String) : ParseNode → List String
  | ⟨name, text, _, _, children⟩ => (if name = rule then [text] else []) ++ textsAll rule children

/-- The texts of the nodes of a rule in several trees, from left to right. -/
def textsAll (rule : String) : List ParseNode → List String
  | [] => []
  | node :: rest => node.texts rule ++ textsAll rule rest

end

section

variable {blanks : List Char} {loose : List String} {node node' : ParseNode}
  {nodes nodes' xs ys : List ParseNode}

@[simp] theorem bare_rule : node.bare.rule = node.rule := by
  cases node; rw [bare]

@[simp] theorem bare_text : node.bare.text = node.text := by
  cases node; rw [bare]

@[simp] theorem bare_children : node.bare.children = bares node.children := by
  cases node; rw [bare]

@[simp] theorem bare_is (rule : String) : node.bare.is rule = node.is rule := by
  rw [is, is, bare_rule]

@[simp] theorem bares_nil : bares [] = [] := rfl

@[simp] theorem bares_cons : bares (node :: nodes) = node.bare :: bares nodes := rfl

@[simp] theorem bares_append : bares (xs ++ ys) = bares xs ++ bares ys := by
  induction xs with
  | nil => rfl
  | cons x xs ih => rw [List.cons_append, bares, bares, ih, List.cons_append]

@[simp] theorem length_bares : (bares nodes).length = nodes.length := by
  induction nodes with
  | nil => rfl
  | cons node nodes ih => rw [bares, List.length_cons, List.length_cons, ih]

@[simp] theorem settled_rule : (node.settled blanks loose).rule = node.rule := by
  cases node; rw [settled]; split <;> rfl

theorem settled_of_loose (held : loose.contains node.rule = true) :
    node.settled blanks loose = ⟨node.rule, String.ofList (node.text.toList.rdropWhile
      blanks.contains), 0, 0, settledAll blanks loose node.children⟩ := by
  cases node; rw [settled, if_pos held]

theorem settled_of_not_loose (off : loose.contains node.rule = false) :
    node.settled blanks loose = node.bare := by
  obtain ⟨rule, text, start, stop, children⟩ := node
  simp only at off
  rw [settled, off, bare]
  rfl

@[simp] theorem settledAll_single :
    settledAll blanks loose [node] = [node.settled blanks loose] := rfl

theorem settledAll_cons (more : nodes ≠ []) :
    settledAll blanks loose (node :: nodes) = node.bare :: settledAll blanks loose nodes := by
  rw [settledAll, if_neg (by simpa using more)]

@[simp] theorem length_settledAll : (settledAll blanks loose nodes).length = nodes.length := by
  induction nodes with
  | nil => rfl
  | cons node nodes ih => rw [settledAll, List.length_cons, List.length_cons, ih]

theorem settledAll_append (more : ys ≠ []) :
    settledAll blanks loose (xs ++ ys) = bares xs ++ settledAll blanks loose ys := by
  induction xs with
  | nil => rfl
  | cons x xs ih => rw [List.cons_append, settledAll_cons (by simp [more]), ih]; rfl

/-! ### Settled nodes and bare nodes -/

theorem settledAll_no_loose : settledAll blanks [] nodes = bares nodes := by
  induction nodes with
  | nil => rfl
  | cons node nodes ih =>
      rw [settledAll, ih, settled_of_not_loose rfl, ite_self]
      rfl

/-- Children are settled as their node is: not at all, unless its rule is loose. -/
theorem settled_mk {rule text : String} {start stop : Nat} :
    (ParseNode.mk rule text start stop nodes).settled blanks loose =
      ⟨rule,
        if loose.contains rule then String.ofList (text.toList.rdropWhile blanks.contains)
        else text,
        0, 0, settledAll blanks (if loose.contains rule then loose else []) nodes⟩ := by
  rw [settled]
  split
  · rfl
  · rw [settledAll_no_loose]

/-- The first of several nodes is settled alone, with the loose rules or with none. -/
theorem settledAll_head : settledAll blanks loose (node :: nodes) =
    node.settled blanks (if nodes.isEmpty then loose else []) :: settledAll blanks loose nodes := by
  rw [settledAll]
  split
  · rfl
  · rw [settled_of_not_loose rfl]

/-! ### Texts of the nodes of a rule -/

variable {rule : String}

theorem texts_of_ne (other : node.rule ≠ rule) : node.texts rule = textsAll rule node.children := by
  obtain ⟨name, text, start, stop, children⟩ := node
  rw [texts, if_neg other]
  rfl

@[simp] theorem textsAll_nil : textsAll rule [] = [] := by rw [textsAll]

@[simp] theorem textsAll_cons :
    textsAll rule (node :: nodes) = node.texts rule ++ textsAll rule nodes := by rw [textsAll]

@[simp] theorem textsAll_append :
    textsAll rule (xs ++ ys) = textsAll rule xs ++ textsAll rule ys := by
  induction xs with
  | nil => simp
  | cons x xs ih => simp [ih]

end

end Dialect.ParseNode
