import Mathlib.Data.List.Nodup
import Mathlib.Data.List.Perm.Basic
import Mathlib.Logic.Relation
import ScriptAudit.Tree.Query

/-!
# Walks as recursions

A walk and the search for descendants work off an agenda. Both come to a recursion on the tree: what
is planned is carried out as if each node planned were traversed to its end before the next one.

- `Node.traversal_eq`, `Node.preorder_eq`: the recursions, one step down at a time.
- `Node.visitsFrom_eq`, `Node.descendantsFrom_eq`: **an agenda stands for the recursions of what is
  planned in it**, one after the other.
- `Node.Reaches`: one node is the other, or lies below it and so do all nodes between them by name.
  The path of a node is a suffix of the paths of all it reaches (`Node.Reaches.suffix`), and so what
  siblings reach is apart (`Node.disjoint_reached`).
- `Visit.Nested`: visits of which every entry is followed by its own leaving, and inside by such
  visits only.
- `Node.walk_recursive`: **a walk is the recursive traversal, and enters and leaves once what can be
  reached; the descendants are those of the recursive pre-order.**
-/

namespace ScriptAudit

namespace Visit

/-- The node that a visit enters. -/
def entered? : Visit → Option Node
  | enter n => some n
  | leave _ => none

/-- The node that a visit leaves. -/
def left? : Visit → Option Node
  | enter _ => none
  | leave n => some n

/-- Whether a visit enters a given node. -/
def enters (m : Node) (visit : Visit) : Bool :=
  visit.entered?.any (·.isSame m)

/-- Whether a visit leaves a given node. -/
def leaves (m : Node) (visit : Visit) : Bool :=
  visit.left?.any (·.isSame m)

theorem countP_enters (m : Node) (visits : List Visit) :
    visits.countP (enters m) = (visits.filterMap entered?).countP (·.isSame m) := by
  rw [List.countP_filterMap]
  refine List.countP_congr fun visit _ => ?_
  cases visit <;> rfl

theorem countP_leaves (m : Node) (visits : List Visit) :
    visits.countP (leaves m) = (visits.filterMap left?).countP (·.isSame m) := by
  rw [List.countP_filterMap]
  refine List.countP_congr fun visit _ => ?_
  cases visit <;> rfl

/-- The visits that a planned visit stands for. -/
def carriedOut : Visit → List Visit
  | enter n => n.traversal
  | leave n => [leave n]

/-- Whether every entry has its own leaving, with nothing but such pairs between the two. -/
inductive Nested : List Visit → Prop
  | nil : Nested []
  | pair {n : Node} {inside rest : List Visit} (hinside : Nested inside) (hrest : Nested rest) :
    Nested (enter n :: (inside ++ leave n :: rest))

theorem Nested.append {visits others : List Visit} (h : Nested visits) (hothers : Nested others) :
    Nested (visits ++ others) := by
  induction h with
  | nil => exact hothers
  | pair hinside _ _ ih =>
    rw [List.cons_append, List.append_assoc, List.cons_append]
    exact .pair hinside ih

theorem Nested.flatMap {nodes : List Node} {f : Node → List Visit}
    (h : ∀ n ∈ nodes, Nested (f n)) : Nested (nodes.flatMap f) := by
  induction nodes with
  | nil => exact .nil
  | cons n nodes ih =>
    obtain ⟨hn, hnodes⟩ := List.forall_mem_cons.1 h
    exact hn.append (ih hnodes)

end Visit

namespace Node

/-! ## One step down -/

/-- A property of nodes that passes from the named children to their parent holds of every node. -/
theorem named_induction {P : Node → Prop} (h : ∀ n, (∀ m ∈ n.namedChildren, P m) → P n) (n : Node) :
    P n := by
  induction hsize : n.size using Nat.strongRecOn generalizing n with
  | ind size ih =>
    subst hsize
    exact h n fun m hm => ih m.size (size_lt_of_mem_namedChildren hm) m rfl

/-- What is collected from the named ones among some subtrees is collected from each in turn. -/
theorem flatMap_named_place {α : Type} (f : Node → List α) (parent : Node) (index : Nat)
    (tree : Tree) (trees : List Tree) :
    ((place parent index (tree :: trees)).filter (·.label.named)).flatMap f
      = (if tree.label.named then f (.child parent index tree) else [])
        ++ ((place parent (index + 1) trees).filter (·.label.named)).flatMap f := by
  have hlabel : (child parent index tree).label = tree.label := rfl
  rw [place, List.filter_cons, hlabel]
  split
  · exact List.flatMap_cons
  · rfl

theorem traversalsAt_eq (parent : Node) (index : Nat) (trees : List Tree) :
    traversalsAt parent index trees
      = ((place parent index trees).filter (·.label.named)).flatMap traversal := by
  induction trees generalizing index with
  | nil => rfl
  | cons tree trees ih =>
    rw [flatMap_named_place, traversalsAt, ih]
    rfl

/-- The traversal of a node enters it, traverses its named children in order, and leaves it. -/
theorem traversal_eq (n : Node) :
    n.traversal = .enter n :: (n.namedChildren.flatMap traversal ++ [.leave n]) := by
  rw [traversal, namedChildren, children, ← traversalsAt_eq]
  cases htree : n.tree with
  | node label trees => rfl

theorem preordersAt_eq (keep prune : Node → Bool) (parent : Node) (index : Nat)
    (trees : List Tree) :
    preordersAt keep prune parent index trees
      = ((place parent index trees).filter (·.label.named)).flatMap fun m =>
          preorderAt keep prune m m.tree := by
  induction trees generalizing index with
  | nil => rfl
  | cons tree trees ih =>
    rw [flatMap_named_place, preordersAt, ih]
    rfl

theorem preorderAt_eq (keep prune : Node → Bool) (n : Node) :
    preorderAt keep prune n n.tree
      = (if keep n then [n] else []) ++ if prune n then [] else n.preorder keep prune := by
  rw [preorder]
  cases htree : n.tree with
  | node label trees => rfl

/-- The pre-order below a node goes through its named children: each is kept or not, and followed by
its own pre-order unless it is pruned. -/
theorem preorder_eq (keep prune : Node → Bool) (n : Node) :
    n.preorder keep prune = n.namedChildren.flatMap fun m =>
      (if keep m then [m] else []) ++ if prune m then [] else m.preorder keep prune := by
  simp only [← preorderAt_eq]
  exact preordersAt_eq keep prune n 0 n.tree.children

/-! ## Agendas -/

/-- An agenda stands for the visits of everything planned in it, one after the other. -/
theorem visitsFrom_eq (agenda : List Visit) :
    visitsFrom agenda = agenda.flatMap Visit.carriedOut := by
  fun_induction visitsFrom agenda with
  | case1 => rfl
  | case2 n agenda ih => rw [ih, List.flatMap_cons]; rfl
  | case3 n agenda ih =>
    -- The children and the leaving of the node come before what was planned already.
    rw [ih, List.flatMap_append, List.flatMap_map, List.flatMap_cons, List.flatMap_cons]
    show _ = n.traversal ++ _
    rw [traversal_eq, List.cons_append, List.append_assoc]
    rfl

theorem visits_eq (n : Node) : n.visits = n.traversal := by
  rw [visits, visitsFrom_eq, List.flatMap_singleton]
  rfl

/-- What a node that is planned stands for: the node, if it is kept, and what is kept below it. -/
def found (keep prune : Node → Bool) (n : Node) : List Node :=
  (if keep n then [n] else []) ++ if prune n then [] else n.preorder keep prune

/-- An agenda of nodes stands for what is found from each of them on. -/
theorem descendantsFrom_eq (keep prune : Node → Bool) (agenda : List Node) :
    descendantsFrom keep prune agenda = agenda.flatMap (found keep prune) := by
  have hbelow (n : Node) : (if prune n then [] else n.namedChildren).flatMap (found keep prune)
      = if prune n then [] else n.preorder keep prune := by
    split
    · rfl
    · exact (preorder_eq keep prune n).symm
  fun_induction descendantsFrom keep prune agenda with
  | case1 => rfl
  | case2 n agenda below hkeep ih =>
    rw [ih, List.flatMap_append, List.flatMap_cons, found, if_pos hkeep]
    exact congrArg (n :: · ++ _) (hbelow n)
  | case3 n agenda below hkeep ih =>
    rw [ih, List.flatMap_append, List.flatMap_cons, found, if_neg hkeep]
    exact congrArg (· ++ _) (hbelow n)

theorem descendants_eq (keep prune : Node → Bool) (n : Node) :
    n.descendants keep prune = n.preorder keep prune := by
  rw [descendants, descendantsFrom_eq, preorder_eq]
  rfl

/-! ## What is reached -/

/-- Whether named children lead from a node to another, in any number of steps. -/
def Reaches : Node → Node → Prop :=
  Relation.ReflTransGen fun above below => below ∈ above.namedChildren

theorem reached_eq (n : Node) : n.reached = n :: n.namedChildren.flatMap reached := by
  have hinner (m : Node) : m.inner = m.preorder (fun _ => true) (fun _ => false) :=
    descendants_eq _ _ m
  rw [reached, hinner, preorder_eq]
  refine congrArg (n :: ·) (congrArg (n.namedChildren.flatMap ·) (funext fun m => ?_))
  rw [reached, hinner]
  rfl

theorem mem_reached {n m : Node} : m ∈ n.reached ↔ n.Reaches m := by
  induction n using named_induction with
  | h n ih =>
    rw [reached_eq, List.mem_cons, List.mem_flatMap, Reaches, Relation.ReflTransGen.cases_head_iff]
    refine or_congr eq_comm ⟨?_, ?_⟩
    · rintro ⟨child, hchild, hmem⟩
      exact ⟨child, hchild, (ih child hchild).1 hmem⟩
    · rintro ⟨child, hchild, hreaches⟩
      exact ⟨child, hchild, (ih child hchild).2 hreaches⟩

/-! ## Every node once -/

theorem mem_place {parent m : Node} {index : Nat} {trees : List Tree}
    (h : m ∈ place parent index trees) : ∃ i, index ≤ i ∧ m.path = i :: parent.path := by
  induction trees generalizing index with
  | nil => cases h
  | cons tree trees ih =>
    rcases List.mem_cons.1 h with rfl | h
    · exact ⟨index, Nat.le_refl index, rfl⟩
    · obtain ⟨i, hle, hpath⟩ := ih h
      exact ⟨i, Nat.le_of_succ_le hle, hpath⟩

theorem path_place_pairwise (parent : Node) (index : Nat) (trees : List Tree) :
    (place parent index trees).Pairwise fun n m => n.path ≠ m.path := by
  induction trees generalizing index with
  | nil => exact .nil
  | cons tree trees ih =>
    refine List.pairwise_cons.2 ⟨fun m hm hpath => ?_, ih (index + 1)⟩
    obtain ⟨i, hle, hm⟩ := mem_place hm
    have hindex : index = i := (List.cons.inj (hpath.trans hm)).1
    omega

/-- The path of a child is one longer than that of its parent. -/
theorem path_of_mem_namedChildren {n m : Node} (h : m ∈ n.namedChildren) :
    ∃ i, m.path = i :: n.path := by
  obtain ⟨i, -, hpath⟩ := mem_place (List.mem_of_mem_filter h)
  exact ⟨i, hpath⟩

theorem Reaches.suffix {n m : Node} (h : n.Reaches m) : n.path <:+ m.path := by
  induction h with
  | refl => exact List.suffix_rfl
  | tail _ hchild ih =>
    obtain ⟨i, hpath⟩ := path_of_mem_namedChildren hchild
    rw [hpath]
    exact ih.trans (List.suffix_cons i _)

/-- Siblings reach nothing together. -/
theorem disjoint_reached (n : Node) : n.namedChildren.Pairwise fun child other =>
    (child.reached.map path).Disjoint (other.reached.map path) := by
  refine ((path_place_pairwise n 0 n.tree.children).filter _).imp_of_mem ?_
  intro child other hchild hother hne path hmem hmem'
  obtain ⟨m, hm, rfl⟩ := List.mem_map.1 hmem
  obtain ⟨m', hm', hpath⟩ := List.mem_map.1 hmem'
  -- Two suffixes of one path that are equally long are the same.
  have hsuffix := (mem_reached.1 hm).suffix
  have hsuffix' := (mem_reached.1 hm').suffix
  rw [hpath] at hsuffix'
  obtain ⟨i, hi⟩ := path_of_mem_namedChildren hchild
  obtain ⟨j, hj⟩ := path_of_mem_namedChildren hother
  refine hne ((List.suffix_of_suffix_length_le hsuffix hsuffix' ?_).eq_of_length ?_) <;>
    simp [hi, hj]

/-- What a node reaches is reached in one place only. -/
theorem nodup_reached (n : Node) : (n.reached.map path).Nodup := by
  induction n using named_induction with
  | h n ih =>
    rw [reached_eq, List.map_cons, List.map_flatMap, List.nodup_cons, List.nodup_flatMap]
    refine ⟨fun hmem => ?_, ih, n.disjoint_reached⟩
    obtain ⟨child, hchild, hmem⟩ := List.mem_flatMap.1 hmem
    obtain ⟨m, hm, hpath⟩ := List.mem_map.1 hmem
    obtain ⟨i, hi⟩ := path_of_mem_namedChildren hchild
    have hlength := (mem_reached.1 hm).suffix.length_le
    rw [hpath, hi, List.length_cons] at hlength
    omega

/-! ## Visits -/

/-- A traversal enters what is reached, in document order. -/
theorem entered_traversal (n : Node) : n.traversal.filterMap Visit.entered? = n.reached := by
  induction n using named_induction with
  | h n ih =>
    rw [traversal_eq, reached_eq, List.filterMap_cons, List.filterMap_append,
      List.filterMap_flatMap, List.flatMap_congr ih]
    exact congrArg (n :: ·) (List.append_nil _)

/-- It leaves the same nodes, each after those below it. -/
theorem left_traversal (n : Node) : (n.traversal.filterMap Visit.left?).Perm n.reached := by
  induction n using named_induction with
  | h n ih =>
    rw [traversal_eq, reached_eq, List.filterMap_cons, List.filterMap_append,
      List.filterMap_flatMap]
    exact (List.perm_append_singleton n _).trans
      (.cons n (List.Perm.flatMap_left _ ih))

theorem nested_traversal (n : Node) : Visit.Nested n.traversal := by
  induction n using named_induction with
  | h n ih =>
    rw [traversal_eq]
    exact .pair (.flatMap ih) .nil

/-- In nodes with different paths, the node with a given path is there once. -/
theorem countP_isSame {nodes : List Node} {m : Node} (hnodup : (nodes.map path).Nodup)
    (hmem : m ∈ nodes) : nodes.countP (·.isSame m) = 1 := by
  rw [← List.count_eq_one_of_mem hnodup (List.mem_map_of_mem hmem), List.count, List.countP_map]
  rfl

/-- **A walk is the recursive traversal.** It enters a node, walks over its named children in order,
and leaves the node, whatever is done at each visit; so its visits are properly nested, and what
named children lead to is entered once and left once, and nothing else is. The descendants of a node
are those of the recursive pre-order for every filter and every pruning: a pruned node may be one of
them, and nothing below it is. With neither, they are what a walk enters after the node itself. -/
theorem walk_recursive (n : Node) :
    (∀ {σ : Type} (onEnter onLeave : Node → σ → σ) (state : σ),
      n.walk onEnter onLeave state
        = onLeave n (n.namedChildren.foldl (fun state m => m.walk onEnter onLeave state)
            (onEnter n state))) ∧
    n.visits = n.traversal ∧
    n.visits = .enter n :: (n.namedChildren.flatMap visits ++ [.leave n]) ∧
    Visit.Nested n.visits ∧
    (∀ m, n.Reaches m →
      n.visits.countP (Visit.enters m) = 1 ∧ n.visits.countP (Visit.leaves m) = 1) ∧
    (∀ visit ∈ n.visits, ∃ m, n.Reaches m ∧ (visit = .enter m ∨ visit = .leave m)) ∧
    (∀ keep prune, n.descendants keep prune = n.preorder keep prune ∧
      n.descendants keep prune = n.namedChildren.flatMap fun m =>
        (if keep m then [m] else []) ++ if prune m then [] else m.descendants keep prune) ∧
    n.visits.filterMap Visit.entered? = n :: n.descendants (fun _ => true) (fun _ => false) := by
  -- The visits are those of the traversal, which has this form by its definition.
  have hvisits : n.visits = .enter n :: (n.namedChildren.flatMap visits ++ [.leave n]) := by
    rw [visits_eq, traversal_eq, funext visits_eq]
  refine ⟨?_, n.visits_eq, hvisits, ?_, ?_, ?_, ?_, ?_⟩
  · intro σ onEnter onLeave state
    rw [walk, hvisits, List.foldl_cons, List.foldl_append, List.foldl_flatMap]
    rfl
  · rw [visits_eq]
    exact n.nested_traversal
  · intro m hreaches
    -- A node that is reached is one of those that the traversal enters, and these have no
    -- duplicates.
    have hmem := mem_reached.2 hreaches
    rw [visits_eq, Visit.countP_enters, Visit.countP_leaves, entered_traversal,
      n.left_traversal.countP_eq]
    exact ⟨countP_isSame n.nodup_reached hmem, countP_isSame n.nodup_reached hmem⟩
  · intro visit hmem
    rw [visits_eq] at hmem
    cases visit with
    | enter m =>
      refine ⟨m, mem_reached.1 ?_, .inl rfl⟩
      rw [← entered_traversal]
      exact List.mem_filterMap.2 ⟨_, hmem, rfl⟩
    | leave m =>
      refine ⟨m, mem_reached.1 (n.left_traversal.mem_iff.1 ?_), .inr rfl⟩
      exact List.mem_filterMap.2 ⟨_, hmem, rfl⟩
  · intro keep prune
    refine ⟨descendants_eq keep prune n, ?_⟩
    simp only [descendants_eq]
    exact preorder_eq keep prune n
  · rw [visits_eq, entered_traversal]
    rfl

end Node

end ScriptAudit
