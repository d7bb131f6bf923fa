import ScriptAudit.Proofs.TreeWalk

/-!
# Nodes below a node

What stands below a node knows its parent and its place among its siblings, and is found by going down
from named child to named child.

- `Node.mem_children_iff`: a child stands at an index in its parent, and so `Node.parent?_eq` and
  `Node.ancestors_eq`.
- `Node.eq_of_path_eq`, `Node.eq_of_mem_children`: nodes that are reached from one node, or are children of
  one node, are the same if they have one path.
- `Node.nodup_namedChildren`: no node stands twice among siblings.
- `Node.find?_laterSiblings`: **the search among the later siblings of a node for one that is named is the
  search behind it among the named children of its parent.**
- `Node.IsAbove`, `Node.mem_innerOfKind`, `Node.contains_iff`: **what a search by kind finds below a node.**
- `Node.descend`: what is below a node by a path of named children.
- `Node.IsAbove.trans`, `Node.reached_parentsFirst`: no node comes in a walk before a node it is below.
-/

namespace ScriptAudit

namespace Node

variable {n m : Node}

/-! ## Parents -/

/-- What stands at a place among siblings is the child of the parent at an index. -/
theorem eq_child_of_place_eq {parent : Node} {index : Nat} {trees : List Tree}
    {earlier later : List Node} (h : place parent index trees = earlier ++ m :: later) :
    ∃ tree, m = child parent (index + earlier.length) tree := by
  induction trees generalizing index earlier with
  | nil => simp [place] at h
  | cons tree trees ih =>
    rw [place] at h
    cases earlier with
    | nil => exact ⟨tree, (List.cons.inj h).1.symm⟩
    | cons first earlier =>
      obtain ⟨other, hother⟩ := ih (List.cons.inj h).2
      refine ⟨other, hother.trans ?_⟩
      rw [List.length_cons, Nat.add_right_comm, Nat.add_assoc]

theorem map_tree_place (parent : Node) (index : Nat) (trees : List Tree) :
    (place parent index trees).map tree = trees := by
  induction trees generalizing index with
  | nil => rfl
  | cons _ trees ih => exact congrArg (_ :: ·) (ih (index + 1))

theorem tree_mem_children (h : m ∈ n.namedChildren) : m.tree ∈ n.tree.children := by
  rw [← map_tree_place n 0 n.tree.children]
  exact List.mem_map_of_mem (List.mem_of_mem_filter h)

theorem mem_place_iff {parent : Node} {index : Nat} {trees : List Tree} :
    m ∈ place parent index trees ↔ ∃ i tree, trees[i]? = some tree ∧ m = child parent (index + i) tree := by
  induction trees generalizing index with
  | nil => simp [place]
  | cons first trees ih =>
    rw [place, List.mem_cons, ih]
    constructor
    · rintro (rfl | ⟨i, tree, htree, rfl⟩)
      · exact ⟨0, first, rfl, rfl⟩
      · exact ⟨i + 1, tree, htree, by rw [Nat.add_right_comm, Nat.add_assoc]⟩
    · rintro ⟨i, tree, htree, rfl⟩
      -- The first child stands at the index itself, the others after it.
      cases i with
      | zero =>
        cases htree
        exact .inl rfl
      | succ i => exact .inr ⟨i, tree, htree, by rw [Nat.add_right_comm, Nat.add_assoc]⟩

/-- The children of a node stand in it at their indices. -/
theorem mem_children_iff :
    m ∈ n.children ↔ ∃ i tree, n.tree.children[i]? = some tree ∧ m = child n i tree := by
  simp only [children, mem_place_iff, Nat.zero_add]

/-- The parent of a child, named or not. -/
theorem parent?_of_mem_children (h : m ∈ n.children) : m.parent? = some n := by
  obtain ⟨i, tree, -, rfl⟩ := mem_children_iff.1 h
  rfl

/-- The parent of a named child. -/
theorem parent?_eq (h : m ∈ n.namedChildren) : m.parent? = some n :=
  parent?_of_mem_children (List.mem_of_mem_filter h)

/-- A named child has its parent above it, and then what is above the parent. -/
theorem ancestors_eq (h : m ∈ n.namedChildren) : m.ancestors = n :: n.ancestors := by
  obtain ⟨i, tree, -, rfl⟩ := mem_children_iff.1 (List.mem_of_mem_filter h)
  rfl

/-- What is reached from the root of a document and has a parent is a named child of it, and the parent
is reached as well. -/
theorem Reaches.parent {tree : Tree} {parent : Node} (h : (root tree).Reaches m)
    (hparent : m.parent? = some parent) :
    (root tree).Reaches parent ∧ m ∈ parent.namedChildren := by
  cases h with
  | refl => cases hparent
  | tail hreaches hmem =>
    cases (parent?_eq hmem).symm.trans hparent
    exact ⟨hreaches, hmem⟩

/-! ## Places -/

theorem eq_of_path_eq {top : Node} (hn : top.Reaches n) (hm : top.Reaches m)
    (hpath : n.path = m.path) : n = m :=
  List.inj_on_of_nodup_map top.nodup_reached (mem_reached.2 hn) (mem_reached.2 hm) hpath

/-- Children in one place are the same. -/
theorem eq_of_mem_children {other : Node} (hm : m ∈ n.children) (hother : other ∈ n.children)
    (hpath : m.path = other.path) : m = other := by
  have hpaths : (n.children.map path).Nodup :=
    List.pairwise_map.2 (path_place_pairwise n 0 n.tree.children)
  exact List.inj_on_of_nodup_map hpaths hm hother hpath

theorem nodup_namedChildren (n : Node) : n.namedChildren.Nodup :=
  ((path_place_pairwise n 0 n.tree.children).filter _).imp fun hne heq => hne (congrArg path heq)

/-- Behind a node there are its later siblings. -/
theorem laterSiblings_eq {earlier later : List Node} (h : n.children = earlier ++ m :: later) :
    m.laterSiblings = later := by
  obtain ⟨tree, rfl⟩ := eq_child_of_place_eq h
  rw [laterSiblings, h, Nat.zero_add, List.append_cons]
  exact List.drop_left' (by simp)

/-- The named ones among the later siblings are those behind it among the named children. -/
theorem find?_laterSiblings {earlier later : List Node} {p : Node → Bool}
    (h : n.namedChildren = earlier ++ m :: later) :
    (m.laterSiblings.find? fun sibling => sibling.label.named && p sibling) = later.find? p := by
  obtain ⟨before, rest, hchildren, -, hrest⟩ := List.filter_eq_append_iff.1 h
  obtain ⟨unnamed, behind, rfl, -, -, rfl⟩ := List.filter_eq_cons_iff.1 hrest
  rw [← List.append_assoc] at hchildren
  rw [laterSiblings_eq hchildren, List.find?_filter]
  simp only [Bool.decide_and, Bool.decide_eq_true]

/-! ## Searches -/

/-- Whether named children lead from a node to another, in one step or more. -/
def IsAbove (n m : Node) : Prop :=
  ∃ child ∈ n.namedChildren, child.Reaches m

/-- The first named child of what is reached is reached. -/
theorem Reaches.first {child : Node} {rest : List Node} (h : n.Reaches m)
    (hchildren : m.namedChildren = child :: rest) : n.Reaches child := by
  refine h.tail ?_
  rw [hchildren]
  exact List.mem_cons_self

/-- What is below a node by some steps, each of them to the named child at an index. Where there is none,
the step stays. -/
def descend (n : Node) : List Nat → Node
  | [] => n
  | index :: steps => (n.namedChildren.getD index n).descend steps

theorem reaches_descend (n : Node) (steps : List Nat) : n.Reaches (n.descend steps) := by
  induction steps generalizing n with
  | nil => exact .refl
  | cons index steps ih =>
    rw [descend, List.getD_eq_getElem?_getD]
    cases hchild : n.namedChildren[index]? with
    | none => exact ih n
    | some child => exact .head (List.mem_of_getElem? hchild) (ih child)

/-- What is reached is the node itself and what is below it. -/
theorem reaches_iff : n.Reaches m ↔ m = n ∨ n.IsAbove m := by
  rw [Reaches, Relation.ReflTransGen.cases_head_iff]
  exact or_congr_left eq_comm

/-- What a node is not itself is found below it if it is found from it on. -/
theorem exists_isAbove_iff {Q : Node → Prop} (hn : ¬Q n) :
    (∃ m, n.IsAbove m ∧ Q m) ↔ ∃ m, n.Reaches m ∧ Q m := by
  refine exists_congr fun m => and_congr_left fun hm => ?_
  rw [reaches_iff]
  refine (or_iff_right fun heq => hn ?_).symm
  rw [← heq]
  exact hm

theorem mem_inner : m ∈ n.inner ↔ n.IsAbove m := by
  have hinner : n.inner = n.namedChildren.flatMap reached := (List.cons.inj n.reached_eq).2
  rw [hinner, List.mem_flatMap]
  exact exists_congr fun child => and_congr_right fun _ => mem_reached

/-- A search that goes everywhere keeps some of what is below. -/
theorem descendants_eq_filter (keep : Node → Bool) (n : Node) :
    n.descendants keep (fun _ => false) = n.inner.filter keep := by
  rw [inner, descendants_eq, descendants_eq]
  induction n using named_induction with
  | h n ih =>
    rw [preorder_eq, preorder_eq, List.filter_flatMap]
    refine List.flatMap_congr fun m hm => ?_
    rw [ih m hm]
    by_cases hkeep : keep m <;> simp [hkeep]

theorem mem_innerOfKind {kinds : List String} :
    m ∈ n.innerOfKind kinds ↔ n.IsAbove m ∧ m.kind ∈ kinds := by
  rw [innerOfKind, descendants_eq_filter, List.mem_filter, mem_inner, List.contains_iff_mem]

/-- What is below a node and of some kind is in the pre-order by that kind, which can be computed. -/
theorem IsAbove.mem_preorder {kind : String} (h : n.IsAbove m) (hkind : m.kind = kind) :
    m ∈ n.preorder ([kind].contains ·.kind) (fun _ => false) := by
  rw [← descendants_eq]
  exact mem_innerOfKind.2 ⟨h, List.mem_singleton.2 hkind⟩

theorem contains_iff {kinds : List String} :
    n.contains kinds = true ↔ ∃ m, n.IsAbove m ∧ m.kind ∈ kinds := by
  rw [contains, Bool.not_eq_true', List.isEmpty_eq_false_iff_exists_mem]
  exact exists_congr fun m => mem_innerOfKind

/-- A search finds nothing if nothing below is of the kinds. -/
theorem contains_eq_false_iff {kinds : List String} :
    n.contains kinds = false ↔ ∀ m, n.IsAbove m → m.kind ∉ kinds := by
  rw [← Bool.not_eq_true, contains_iff, not_exists]
  exact forall_congr' fun m => not_and

/-! ## Above and below -/

theorem IsAbove.trans {l : Node} (h : n.IsAbove m) (h' : m.IsAbove l) : n.IsAbove l := by
  obtain ⟨child, hchild, hreaches⟩ := h
  exact ⟨child, hchild, hreaches.trans (reaches_iff.2 (.inr h'))⟩

instance : Trans IsAbove IsAbove IsAbove where
  trans := IsAbove.trans

/-- What is below has a longer path. -/
theorem IsAbove.length_path_lt (h : n.IsAbove m) : n.path.length < m.path.length := by
  obtain ⟨child, hchild, hreaches⟩ := h
  obtain ⟨i, hpath⟩ := path_of_mem_namedChildren hchild
  have hle := hreaches.suffix.length_le
  rw [hpath, List.length_cons] at hle
  omega

theorem not_isAbove_self (n : Node) : ¬n.IsAbove n :=
  fun h => Nat.lt_irrefl _ h.length_path_lt

/-- No node comes before one that it is below. -/
theorem reached_parentsFirst (n : Node) : n.reached.Pairwise fun m later => ¬later.IsAbove m := by
  induction n using named_induction with
  | h n ih =>
    rw [reached_eq, List.pairwise_cons, List.pairwise_flatMap]
    refine ⟨?_, ih, ?_⟩
    · intro m hm habove
      obtain ⟨child, hchild, hm⟩ := List.mem_flatMap.1 hm
      exact n.not_isAbove_self (IsAbove.trans ⟨child, hchild, mem_reached.1 hm⟩ habove)
    · refine n.disjoint_reached.imp fun {child other} hdisjoint m hm later hlater habove => ?_
      -- What is below a node of the second sibling is reached from the second sibling.
      have hreaches : other.Reaches m :=
        (mem_reached.1 hlater).trans (reaches_iff.2 (.inr habove))
      exact hdisjoint (List.mem_map_of_mem hm) (List.mem_map_of_mem (mem_reached.2 hreaches))

theorem nodup_innerOfKind (n : Node) (kinds : List String) : (n.innerOfKind kinds).Nodup := by
  have hreached : n.reached.Nodup := n.nodup_reached.of_map
  rw [innerOfKind, descendants_eq_filter]
  exact (List.nodup_cons.1 hreached).2.filter _

end Node

end ScriptAudit
