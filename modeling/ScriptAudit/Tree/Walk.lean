import ScriptAudit.Tree.Basic

/-!
# Walking a tree

A walk keeps the work still to be done in an agenda, so its depth does not depend on the depth of
the tree. It sees the nodes that the grammar names, and enters and leaves each of them.

* `Visit`, `Node.visits` : the visits of a walk, in order.
* `Node.walk` : a walk that changes a state at each visit.
* `Node.descendants` : the named nodes below a node, optionally without what lies below some nodes.
* `Node.inner`, `Node.innerOfKind` : all of them, and those of some kinds.
* `Node.reached` : the node itself and its named descendants.
* `Node.traversal` and `Node.preorder` : the same sequences by recursion on the tree.
-/

namespace ScriptAudit

/-- One event of a walk. -/
inductive Visit where
  | enter (node : Node)
  | leave (node : Node)

namespace Visit

/-- The work that a planned visit stands for. -/
def weight : Visit → Nat
  | enter n => 2 * n.size
  | leave _ => 1

/-- The work that an agenda stands for. -/
def weights : List Visit → Nat
  | [] => 0
  | v :: agenda => v.weight + weights agenda

@[simp] theorem weights_nil : weights [] = 0 := rfl

@[simp] theorem weights_cons (v : Visit) (agenda : List Visit) :
    weights (v :: agenda) = v.weight + weights agenda := rfl

@[simp] theorem weights_append (left right : List Visit) :
    weights (left ++ right) = weights left + weights right := by
  induction left with
  | nil => simp
  | cons v left ih => simp [ih, Nat.add_assoc]

theorem weights_map_enter (nodes : List Node) :
    weights (nodes.map enter) = 2 * Node.sizes nodes := by
  induction nodes with
  | nil => rfl
  | cons n nodes ih => simp [ih, weight]; omega

end Visit

namespace Node

/-- Works off an agenda. Entering a node puts its named children and its leaving in front. -/
def visitsFrom : List Visit → List Visit
  | [] => []
  | .leave n :: agenda => .leave n :: visitsFrom agenda
  | .enter n :: agenda =>
    .enter n :: visitsFrom (n.namedChildren.map .enter ++ .leave n :: agenda)
termination_by agenda => Visit.weights agenda
decreasing_by
  · simp [Visit.weight]
  · have := sizes_namedChildren_lt n
    simp only [Visit.weights_append, Visit.weights_cons, Visit.weights_map_enter, Visit.weight]
    omega

/-- The visits of the walk over a node and everything named below it. -/
def visits (n : Node) : List Visit :=
  visitsFrom [.enter n]

/-- Walks over a node, changing a state at each visit. -/
def walk {σ : Type} (onEnter onLeave : Node → σ → σ) (n : Node) (state : σ) : σ :=
  n.visits.foldl
    (fun state visit =>
      match visit with
      | .enter n => onEnter n state
      | .leave n => onLeave n state)
    state

/-- Works off an agenda of nodes in document order, skipping what lies below a pruned node. -/
def descendantsFrom (keep prune : Node → Bool) : List Node → List Node
  | [] => []
  | n :: agenda =>
    let below := if prune n then [] else n.namedChildren
    if keep n then n :: descendantsFrom keep prune (below ++ agenda)
    else descendantsFrom keep prune (below ++ agenda)
termination_by agenda => sizes agenda
decreasing_by
  all_goals
    have := sizes_namedChildren_lt n
    have := size_pos n
    simp only [sizes_append, sizes_cons]
    split
    · simp only [sizes_nil]; omega
    · omega

/-- The named nodes below a node that pass a filter. A pruned node may pass it; nothing below a
pruned node does. -/
def descendants (n : Node) (keep : Node → Bool) (prune : Node → Bool) : List Node :=
  descendantsFrom keep prune n.namedChildren

/-- All named nodes below a node. -/
def inner (n : Node) : List Node :=
  n.descendants (fun _ => true) (fun _ => false)

/-- The named nodes below a node whose kind is in a list. -/
def innerOfKind (n : Node) (kinds : List String) : List Node :=
  n.descendants (kinds.contains ·.kind) (fun _ => false)

/-- Whether a node whose kind is in a list is named below a node. -/
def contains (n : Node) (kinds : List String) : Bool :=
  !(n.innerOfKind kinds).isEmpty

/-- A node and all named nodes below it, in document order: what a walk enters. -/
def reached (n : Node) : List Node :=
  n :: n.inner

/-! ## The same by recursion -/

mutual

/-- The visits of the traversal that enters a node, traverses its named children in order, and
leaves it. -/
def traversalAt (n : Node) : Tree → List Visit
  | .node _ trees => .enter n :: (traversalsAt n 0 trees ++ [.leave n])

/-- The visits of the traversals of the named ones among the subtrees of a parent. -/
def traversalsAt (parent : Node) (index : Nat) : List Tree → List Visit
  | [] => []
  | tree :: trees =>
    (if tree.label.named then traversalAt (.child parent index tree) tree else [])
      ++ traversalsAt parent (index + 1) trees

end

/-- The visits of the recursive traversal of a node. -/
def traversal (n : Node) : List Visit :=
  traversalAt n n.tree

mutual

/-- A node and the named nodes below it that pass a filter, in pre-order; nothing below a pruned
node. -/
def preorderAt (keep prune : Node → Bool) (n : Node) : Tree → List Node
  | .node _ trees =>
    (if keep n then [n] else []) ++ (if prune n then [] else preordersAt keep prune n 0 trees)

/-- The pre-orders of the named ones among the subtrees of a parent. -/
def preordersAt (keep prune : Node → Bool) (parent : Node) (index : Nat) : List Tree → List Node
  | [] => []
  | tree :: trees =>
    (if tree.label.named then preorderAt keep prune (.child parent index tree) tree else [])
      ++ preordersAt keep prune parent (index + 1) trees

end

/-- The pre-order of the named nodes below a node. -/
def preorder (n : Node) (keep prune : Node → Bool) : List Node :=
  preordersAt keep prune n 0 n.tree.children

end Node

end ScriptAudit
