import ScriptAudit.Proofs.NodesBelow

/-!
# Another subtree in a place

A node knows all that is around it. So the tree in which another subtree stands in its place can be made
from the node alone. Seen from a node further up, that tree differs in one child at most, and what is found
below is what was found before, less what was below the place.

- `Node.setTree`, `Node.top`: a node with another subtree, and the whole tree it then stands in.
- `Node.Becomes`: what the subtree at a node becomes when another one is put in the place of a node.
  `Node.Becomes.top_eq`, `Node.exists_becomes`: it may be put into either place.
- `Tree.Reaches`, `Node.exists_reaches_iff`: **what labels are found below a node depends on its subtree
  only.**
- `Node.Becomes.exists_reaches_iff`: **after the exchange there is found what was found outside of the
  place**, if the new subtree has nothing of the kind.
- `Node.Reaches.setTree`: **what was reached is reached with another subtree**, if the grammar names both.
- `Node.Becomes.find?_children`, `Node.Becomes.map_label_child?`: a search among the children finds what it
  found, or what that has become.
-/

namespace ScriptAudit

/-- Whether named children lead from a tree to another, in any number of steps. -/
def Tree.Reaches : Tree → Tree → Prop :=
  Relation.ReflTransGen fun above below => below ∈ above.children ∧ below.label.named = true

@[simp] theorem Tree.children_node (label : Label) (children : List Tree) :
    (Tree.node label children).children = children := rfl

/-- What is found from a tree on is found at its root or from one of its named children on. -/
theorem Tree.exists_reaches_child_iff {t : Tree} {Q : Tree → Prop} :
    (∃ s : Tree, t.Reaches s ∧ Q s) ↔ Q t ∨ ∃ (index : Nat) (below : Tree),
      t.children[index]? = some below ∧ below.label.named = true ∧ ∃ s : Tree, below.Reaches s ∧ Q s := by
  constructor
  · rintro ⟨s, hreaches, hs⟩
    rcases Relation.ReflTransGen.cases_head hreaches with rfl | ⟨below, ⟨hmem, hnamed⟩, hreaches⟩
    · exact .inl hs
    · obtain ⟨index, hbelow⟩ := List.mem_iff_getElem?.1 hmem
      exact .inr ⟨index, below, hbelow, hnamed, s, hreaches, hs⟩
  · rintro (ht | ⟨index, below, hbelow, hnamed, s, hreaches, hs⟩)
    · exact ⟨t, .refl, ht⟩
    · exact ⟨s, .head ⟨List.mem_of_getElem? hbelow, hnamed⟩ hreaches, hs⟩

namespace Node

variable {n m hole : Node} {new changed : Tree} {P : Label → Prop}

/-! ## A node with another subtree -/

/-- The whole tree that a node stands in. -/
def top : Node → Tree
  | root tree => tree
  | child parent _ _ => parent.top

/-- A node with another subtree. Around it all is as before. -/
def setTree : Node → Tree → Node
  | root _, new => root new
  | child parent index _, new =>
    child (parent.setTree (.node parent.label (parent.tree.children.set index new))) index new

theorem tree_setTree (n : Node) (new : Tree) : (n.setTree new).tree = new := by
  cases n <;> rfl

theorem path_setTree (n : Node) (new : Tree) : (n.setTree new).path = n.path := by
  induction n generalizing new with
  | root tree => rfl
  | child parent index tree ih => exact congrArg (index :: ·) (ih _)

/-! ## What is found below -/

theorem Reaches.tree_reaches (h : n.Reaches m) : n.tree.Reaches m.tree := by
  induction h with
  | refl => exact .refl
  | tail _ hchild ih => exact ih.tail ⟨tree_mem_children hchild, (List.mem_filter.1 hchild).2⟩

theorem exists_reaches_of_tree {tree : Tree} (h : n.tree.Reaches tree) :
    ∃ m, n.Reaches m ∧ m.tree = tree := by
  induction h with
  | refl => exact ⟨n, .refl, rfl⟩
  | tail _ hbelow ih =>
    obtain ⟨m, hreaches, rfl⟩ := ih
    obtain ⟨hmem, hnamed⟩ := hbelow
    rw [← map_tree_place m 0 m.tree.children] at hmem
    obtain ⟨child, hchild, rfl⟩ := List.mem_map.1 hmem
    exact ⟨child, hreaches.tail (List.mem_filter.2 ⟨hchild, hnamed⟩), rfl⟩

/-- Whether a label is found from a node on depends on its subtree only. -/
theorem exists_reaches_iff :
    (∃ m, n.Reaches m ∧ P m.label) ↔ ∃ tree, n.tree.Reaches tree ∧ P tree.label := by
  constructor
  · rintro ⟨m, hreaches, hm⟩
    exact ⟨m.tree, hreaches.tree_reaches, hm⟩
  · rintro ⟨tree, hreaches, htree⟩
    obtain ⟨m, hm, rfl⟩ := exists_reaches_of_tree hreaches
    exact ⟨m, hm, htree⟩

/-! ## A subtree in the place of a node -/

/-- What the subtree at a node becomes when another one is put in the place of a node: at that node the
other subtree, and above it the same subtree as before with one child changed. -/
inductive Becomes (hole : Node) (new : Tree) : Node → Tree → Prop
  | here : Becomes hole new hole new
  | above {n : Node} {index : Nat} {tree changed : Tree}
      (htree : n.tree.children[index]? = some tree)
      (hbelow : Becomes hole new (child n index tree) changed) :
    Becomes hole new n (.node n.label (n.tree.children.set index changed))

/-- Whether a node stands in another, and so do all nodes between them, named or not. -/
def Surrounds : Node → Node → Prop :=
  Relation.TransGen fun above below => below ∈ above.children

theorem exists_becomes (h : n.Surrounds hole) (new : Tree) : ∃ changed, Becomes hole new n changed := by
  induction h using Relation.TransGen.head_induction_on with
  | single hchild =>
    obtain ⟨index, tree, htree, rfl⟩ := mem_children_iff.1 hchild
    exact ⟨_, .above htree .here⟩
  | head hchild _ ih =>
    obtain ⟨index, tree, htree, rfl⟩ := mem_children_iff.1 hchild
    obtain ⟨changed, hbecomes⟩ := ih
    exact ⟨_, .above htree hbecomes⟩

theorem IsAbove.surrounds (h : n.IsAbove m) : n.Surrounds m := by
  obtain ⟨child, hchild, hreaches⟩ := h
  have hstep : ∀ above below : Node, below ∈ above.namedChildren → below ∈ above.children :=
    fun _ _ hmem => List.mem_of_mem_filter hmem
  exact .head' (hstep n child hchild) (Relation.ReflTransGen.mono hstep child m hreaches)

theorem Surrounds.length_path_lt (h : n.Surrounds m) : n.path.length < m.path.length := by
  induction h with
  | single hchild =>
    obtain ⟨index, tree, -, rfl⟩ := mem_children_iff.1 hchild
    exact Nat.lt_succ_self _
  | tail _ hchild ih =>
    obtain ⟨index, tree, -, rfl⟩ := mem_children_iff.1 hchild
    exact Nat.lt_trans ih (Nat.lt_succ_self _)

/-- What is put into a place further down, and what the subtree there has become is put into its place,
come to the same. -/
theorem Becomes.trans {inner : Node} {last : Tree} (h : Becomes hole new n changed)
    (hinner : Becomes inner last hole new) : Becomes inner last n changed := by
  induction h with
  | here => exact hinner
  | above htree _ ih => exact .above htree ih

theorem Becomes.top_eq (h : Becomes hole new n changed) :
    (n.setTree changed).top = (hole.setTree new).top := by
  induction h with
  | here => rfl
  | above _ _ ih => exact ih

/-- Only the label in the place itself may change. -/
theorem Becomes.label_eq_or (h : Becomes hole new n changed) :
    (n = hole ∧ changed = new) ∨ changed.label = n.label := by
  cases h with
  | here => exact .inl ⟨rfl, rfl⟩
  | above _ _ => exact .inr rfl

theorem Becomes.suffix (h : Becomes hole new n changed) : n.path <:+ hole.path := by
  induction h with
  | here => exact List.suffix_rfl
  | above _ _ ih => exact (List.suffix_cons _ _).trans ih

/-- What is reached from another sibling is not in the place. -/
theorem Becomes.not_reaches {index other : Nat} {tree subtree : Tree}
    (h : Becomes hole new (child n index tree) changed) (hne : other ≠ index)
    (hreaches : (child n other subtree).Reaches m) : ¬hole.Reaches m := by
  intro hhole
  have hsuffix : index :: n.path <:+ m.path := h.suffix.trans hhole.suffix
  have hother : other :: n.path <:+ m.path := hreaches.suffix
  have hsame := (List.suffix_of_suffix_length_le hother hsuffix (by simp)).eq_of_length (by simp)
  exact hne (List.cons.inj hsame).1

/-- What is found from a node on is found at the node or from one of its named children on. -/
theorem exists_reaches_child_iff {Q : Node → Prop} : (∃ m, n.Reaches m ∧ Q m) ↔
    Q n ∨ ∃ index tree, n.tree.children[index]? = some tree ∧ tree.label.named = true ∧
      ∃ m, (child n index tree).Reaches m ∧ Q m := by
  constructor
  · rintro ⟨m, hreaches, hm⟩
    rcases Relation.ReflTransGen.cases_head hreaches with rfl | ⟨child, hchild, hreaches⟩
    · exact .inl hm
    · obtain ⟨hmem, hnamed⟩ := List.mem_filter.1 hchild
      obtain ⟨index, tree, htree, rfl⟩ := mem_children_iff.1 hmem
      exact .inr ⟨index, tree, htree, hnamed, m, hreaches, hm⟩
  · rintro (hn | ⟨index, tree, htree, hnamed, m, hreaches, hm⟩)
    · exact ⟨n, .refl, hn⟩
    · have hmem := mem_children_iff.2 ⟨index, tree, htree, rfl⟩
      exact ⟨m, .head (List.mem_filter.2 ⟨hmem, hnamed⟩) hreaches, hm⟩

/-- **What is found after the exchange is what was found outside of the place**, if the new subtree has
nothing of the kind in it. -/
theorem Becomes.exists_reaches_iff (h : Becomes hole new n changed)
    (hnew : ∀ tree, new.Reaches tree → ¬P tree.label) :
    (∃ tree, changed.Reaches tree ∧ P tree.label) ↔
      ∃ m, n.Reaches m ∧ ¬hole.Reaches m ∧ P m.label := by
  induction h with
  | here =>
    constructor
    · rintro ⟨tree, hreaches, htree⟩
      exact absurd htree (hnew tree hreaches)
    · rintro ⟨m, hreaches, hout, -⟩
      exact absurd hreaches hout
  | @above n index tree changed htree hbelow ih =>
    rw [Tree.exists_reaches_child_iff, exists_reaches_child_iff]
    refine or_congr ?_ (exists_congr fun i => ?_)
    · -- The node itself is above the hole, so it is outside.
      refine (and_iff_right fun hreaches => ?_).symm
      have hle := (hbelow.suffix.trans hreaches.suffix).length_le
      exact Nat.not_succ_le_self _ hle
    · by_cases hi : i = index
      · -- Below the child on the way to the hole: by induction.
        subst hi
        have hlt : i < n.tree.children.length := (List.getElem?_eq_some_iff.1 htree).1
        simp only [Tree.children_node, List.getElem?_set_self hlt, htree, Option.some.injEq,
          exists_eq_left']
        rw [← ih]
        refine and_congr_left fun hfound => ?_
        rcases hbelow.label_eq_or with ⟨-, rfl⟩ | hlabel
        · obtain ⟨found, hreaches, hholds⟩ := hfound
          exact absurd hholds (hnew found hreaches)
        · rw [hlabel]
          rfl
      · -- Below the other children nothing has changed, and the hole is not there.
        have hset : (n.tree.children.set index changed)[i]? = n.tree.children[i]? :=
          List.getElem?_set_ne (Ne.symm hi)
        simp only [Tree.children_node, hset]
        refine exists_congr fun sibling => and_congr_right fun _ => and_congr_right fun _ => ?_
        refine (Node.exists_reaches_iff (n := child n i sibling)).symm.trans ?_
        refine exists_congr fun m => and_congr_right fun hreaches => ?_
        exact (and_iff_right (hbelow.not_reaches hi hreaches)).symm

/-! ## What is looked up -/

/-- **What is reached is reached with another subtree in its place**, in the tree with that subtree. -/
theorem Reaches.setTree {tree : Tree} (h : (root tree).Reaches n) (hnamed : new.label.named = n.label.named) :
    (root (n.setTree new).top).Reaches (n.setTree new) := by
  induction h generalizing new with
  | refl => exact .refl
  | @tail parent m _ hchild ih =>
    obtain ⟨hmem, hm⟩ := List.mem_filter.1 hchild
    obtain ⟨index, subtree, htree, rfl⟩ := mem_children_iff.1 hmem
    have hlt : index < parent.tree.children.length := (List.getElem?_eq_some_iff.1 htree).1
    have hreaches := @ih (.node parent.label (parent.tree.children.set index new)) rfl
    refine hreaches.tail (List.mem_filter.2 ⟨mem_children_iff.2 ⟨index, new, ?_, rfl⟩, ?_⟩)
    · rw [tree_setTree]
      exact List.getElem?_set_self hlt
    · exact hnamed.trans hm

/-- A search that takes a tree as it takes the one that took its place finds the one or the other, or
the same in both cases. -/
theorem find?_set {p : Tree → Bool} {trees : List Tree} {index : Nat} {tree : Tree}
    (htree : trees[index]? = some tree) (hp : p changed = p tree) :
    (trees.set index changed).find? p = trees.find? p ∨
      trees.find? p = some tree ∧ (trees.set index changed).find? p = some changed := by
  induction trees generalizing index with
  -- The tree that is exchanged stands first: both are taken, or neither is.
  | nil => cases htree
  | cons first trees ih =>
    cases index with
    | zero =>
      cases htree
      rw [List.set_cons_zero, List.find?_cons, List.find?_cons, hp]
      cases p tree with
      | true => exact .inr ⟨rfl, rfl⟩
      | false => exact .inl rfl
    | succ index =>
      rw [List.set_cons_succ, List.find?_cons, List.find?_cons]
      cases p first with
      | true => exact .inl rfl
      | false => exact ih htree

theorem Becomes.label_eq (h : Becomes hole new n changed) (hlabel : new.label = hole.label) :
    changed.label = n.label := by
  cases h with
  | here => exact hlabel
  | above _ _ => rfl

/-- A search among the children that goes by their subtrees. -/
theorem map_tree_find?_children (n : Node) (p : Tree → Bool) :
    (n.children.find? (p ·.tree)).map tree = n.tree.children.find? p := by
  conv => rhs; rw [← map_tree_place n 0 n.tree.children, List.find?_map]
  rfl

/-- What a search by label finds among the children above the place is what it found, or what that has
become. -/
theorem Becomes.find?_children (h : Becomes hole new n changed) (hlabel : new.label = hole.label)
    (hne : n ≠ hole) (p : Label → Bool) :
    changed.children.find? (p ·.label) = n.tree.children.find? (p ·.label) ∨
      ∃ index tree below, Becomes hole new (child n index tree) below ∧
        n.tree.children.find? (p ·.label) = some tree ∧
          changed.children.find? (p ·.label) = some below := by
  cases h with
  | here => exact absurd rfl hne
  | above htree hbelow =>
    rcases find?_set (p := (p ·.label)) htree (congrArg p (hbelow.label_eq hlabel)) with heq | hfound
    · exact .inl heq
    · exact .inr ⟨_, _, _, hbelow, hfound⟩

/-- Above the place, the label of the child in a role stays. -/
theorem Becomes.map_label_child? (h : Becomes hole new n changed) (hlabel : new.label = hole.label)
    (hne : n ≠ hole) (field : String) :
    ((n.setTree changed).child? field).map label = (n.child? field).map label := by
  have hfound : ∀ m : Node, (m.child? field).map label
      = (m.tree.children.find? (·.label.field == some field)).map Tree.label := by
    intro m
    rw [← map_tree_find?_children, Option.map_map]
    rfl
  rw [hfound, hfound, tree_setTree]
  rcases h.find?_children hlabel hne (·.field == some field) with
    heq | ⟨index, tree, below, hbelow, hbefore, hafter⟩
  · rw [heq]
  · rw [hbefore, hafter]
    exact congrArg some (hbelow.label_eq hlabel)

end Node

end ScriptAudit
