/-!
# Syntax trees

What a grammar makes of a text: a rose tree whose labels say what a stretch of the text is, and
the same tree seen from one of its nodes.

* `Label`, `Tree` : the data of a node, and the tree.
* `Node` : a node in its place. It knows the chain of parents above it and its index among its
  siblings, so that parents, ancestors and later siblings can be asked for.
* `Node.children`, `Node.namedChildren`, `Node.child?` : one step down.
* `Node.parent?`, `Node.ancestors` : steps up.
* `Node.laterSiblings` : steps to the right.
* `Node.path` : the indices from the root, which tell two nodes of one tree apart.
-/

namespace ScriptAudit

/-- What the grammar says about a node: its kind, whether the grammar names it, whether it is
damage (`isError`, `isMissing`) or holds damage (`hasError`), the bytes it covers, and its role in
its parent. -/
structure Label where
  kind : String
  named : Bool
  isError : Bool
  isMissing : Bool
  hasError : Bool
  start : Nat
  stop : Nat
  field : Option String
  deriving DecidableEq, Repr

/-- A syntax tree. -/
inductive Tree where
  | node (label : Label) (children : List Tree)

namespace Tree

/-- The label of the root. -/
def label : Tree → Label
  | node label _ => label

/-- The subtrees below the root. -/
def children : Tree → List Tree
  | node _ children => children

mutual

/-- The number of nodes of a tree. -/
def size : Tree → Nat
  | node _ children => 1 + sizes children

/-- The number of nodes of a list of trees. -/
def sizes : List Tree → Nat
  | [] => 0
  | tree :: trees => size tree + sizes trees

end

end Tree

/-- A node of a tree in its place: the root, or the child of another node at an index. -/
inductive Node where
  | root (tree : Tree)
  | child (parent : Node) (index : Nat) (tree : Tree)

namespace Node

/-- The subtree at a node. -/
def tree : Node → Tree
  | root tree => tree
  | child _ _ tree => tree

/-- The label of a node. -/
def label (n : Node) : Label :=
  n.tree.label

/-- The kind of a node. -/
def kind (n : Node) : String :=
  n.label.kind

/-- The node directly above. -/
def parent? : Node → Option Node
  | root _ => none
  | child parent _ _ => some parent

/-- The nodes above, the nearest first. -/
def ancestors : Node → List Node
  | root _ => []
  | child parent _ _ => parent :: parent.ancestors

/-- The indices that lead from the root to a node, the last one first. -/
def path : Node → List Nat
  | root _ => []
  | child parent index _ => index :: parent.path

/-- Whether two nodes of one tree are the same node. -/
def isSame (n m : Node) : Bool :=
  n.path == m.path

/-- The nodes for a list of subtrees that stand in a parent from an index on. -/
def place (parent : Node) : Nat → List Tree → List Node
  | _, [] => []
  | index, tree :: trees => child parent index tree :: place parent (index + 1) trees

/-- The nodes directly below. -/
def children (n : Node) : List Node :=
  place n 0 n.tree.children

/-- The nodes directly below that the grammar names. -/
def namedChildren (n : Node) : List Node :=
  n.children.filter (·.label.named)

/-- The first node directly below with a given role. -/
def child? (n : Node) (field : String) : Option Node :=
  n.children.find? (·.label.field == some field)

/-- The siblings after a node, named or not. -/
def laterSiblings : Node → List Node
  | root _ => []
  | child parent index _ => parent.children.drop (index + 1)

/-- The number of nodes at and below a node. -/
def size (n : Node) : Nat :=
  n.tree.size

/-- The number of nodes at and below the nodes of a list. -/
def sizes : List Node → Nat
  | [] => 0
  | n :: nodes => n.size + sizes nodes

/-! ## Sizes -/

@[simp] theorem sizes_nil : sizes [] = 0 := rfl

@[simp] theorem sizes_cons (n : Node) (nodes : List Node) :
    sizes (n :: nodes) = n.size + sizes nodes := rfl

@[simp] theorem sizes_append (left right : List Node) :
    sizes (left ++ right) = sizes left + sizes right := by
  induction left with
  | nil => simp
  | cons n left ih => simp [ih, Nat.add_assoc]

/-- Placing subtrees in a parent keeps their sizes. -/
theorem sizes_place (parent : Node) (index : Nat) (trees : List Tree) :
    sizes (place parent index trees) = Tree.sizes trees := by
  induction trees generalizing index with
  | nil => rfl
  | cons tree trees ih => simp [place, Tree.sizes, ih, size, Node.tree]

/-- A node is one larger than everything below it. -/
theorem size_eq (n : Node) : n.size = 1 + sizes n.children := by
  obtain ⟨label, trees⟩ | ⟨parent, index, ⟨label, trees⟩⟩ := n <;>
    simp [size, children, sizes_place, Node.tree, Tree.size, Tree.children]

theorem size_pos (n : Node) : 0 < n.size := by
  rw [size_eq]; omega

/-- Leaving nodes out makes a list no larger. -/
theorem sizes_filter_le (p : Node → Bool) (nodes : List Node) :
    sizes (nodes.filter p) ≤ sizes nodes := by
  induction nodes with
  | nil => simp
  | cons n nodes ih =>
    by_cases h : p n
    · simp [h, ih]
    · simp only [List.filter_cons_of_neg h, sizes_cons]; omega

/-- A node is larger than everything named below it. -/
theorem sizes_namedChildren_lt (n : Node) : sizes n.namedChildren < n.size := by
  have := sizes_filter_le (·.label.named) n.children
  have := size_eq n
  simp only [namedChildren]
  omega

end Node

end ScriptAudit
