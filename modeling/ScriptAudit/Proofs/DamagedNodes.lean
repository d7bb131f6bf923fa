import ScriptAudit.Proofs.DamagedBytes
import ScriptAudit.Proofs.NodesBelow

/-!
# The damaged nodes of a tree

The search for damaged nodes leaves out what is below an error node and what a node says is undamaged.
Where nodes say so truly, nothing else is lost, and the agenda keeps the order of the document.

- `Node.documentOrder`: a node and all nodes below it, named or not, every node before those below it.
- `Node.Covers`: one node is the other, or has it below. `Node.mem_documentOrder`,
  `Node.nodup_documentOrder`: **the document order goes through what a node covers, each once.**
- `Node.IsDamage`: an error node or a missing node. `Node.IsFlagged`: every node that is damage or has
  damage below it is marked, and no other node is.
- `Node.IsOutermost`, `Node.outermost`: a damaged node without an error node above it, and all of them at
  and below a node.
- `Node.damageFrom_eq`: **an agenda stands for the outermost damage of the nodes planned in it.**
- `Node.damage_outermost`: the damaged nodes that a search from the root finds.
-/

namespace ScriptAudit

namespace Node

/-! ## Document order -/

mutual

/-- A node and all nodes below it, in pre-order. -/
def documentOrderAt (n : Node) : Tree → List Node
  | .node _ trees => n :: documentOrdersAt n 0 trees

/-- The nodes at and below the subtrees of a parent. -/
def documentOrdersAt (parent : Node) (index : Nat) : List Tree → List Node
  | [] => []
  | tree :: trees =>
    documentOrderAt (.child parent index tree) tree ++ documentOrdersAt parent (index + 1) trees

end

/-- A node and all nodes below it, named or not, in pre-order. -/
def documentOrder (n : Node) : List Node :=
  documentOrderAt n n.tree

variable {n m : Node}

theorem documentOrdersAt_eq (parent : Node) (index : Nat) (trees : List Tree) :
    documentOrdersAt parent index trees = (place parent index trees).flatMap documentOrder := by
  induction trees generalizing index with
  | nil => rfl
  | cons tree trees ih =>
    rw [documentOrdersAt, place, List.flatMap_cons, ih]
    rfl

/-- The document order of a node is the node, and then that of each of its children. -/
theorem documentOrder_eq (n : Node) : n.documentOrder = n :: n.children.flatMap documentOrder := by
  rw [children, ← documentOrdersAt_eq, documentOrder]
  cases n.tree with
  | node label trees => rfl

/-- A child is smaller than its parent. -/
theorem size_lt_of_mem_children (h : m ∈ n.children) : m.size < n.size := by
  have hle : ∀ nodes : List Node, m ∈ nodes → m.size ≤ sizes nodes := by
    intro nodes hmem
    obtain ⟨before, after, rfl⟩ := List.append_of_mem hmem
    rw [sizes_append, sizes_cons]
    omega
  have hchildren := hle n.children h
  have hsize := size_eq n
  omega

/-- A property of nodes that passes from the children to their parent holds of every node. -/
theorem children_induction {P : Node → Prop} (h : ∀ n, (∀ m ∈ n.children, P m) → P n) (n : Node) :
    P n := by
  induction hsize : n.size using Nat.strongRecOn generalizing n with
  | ind size ih =>
    subst hsize
    exact h n fun m hm => ih m.size (size_lt_of_mem_children hm) m rfl

/-- Whether children lead from a node to another, in any number of steps. -/
def Covers : Node → Node → Prop :=
  Relation.ReflTransGen fun above below => below ∈ above.children

theorem mem_documentOrder : m ∈ n.documentOrder ↔ n.Covers m := by
  induction n using children_induction with
  | h n ih =>
    rw [documentOrder_eq, List.mem_cons, List.mem_flatMap, Covers,
      Relation.ReflTransGen.cases_head_iff]
    refine or_congr eq_comm ⟨?_, ?_⟩
    · rintro ⟨child, hchild, hmem⟩
      exact ⟨child, hchild, (ih child hchild).1 hmem⟩
    · rintro ⟨child, hchild, hcovers⟩
      exact ⟨child, hchild, (ih child hchild).2 hcovers⟩

theorem ancestors_of_mem_children (h : m ∈ n.children) : m.ancestors = n :: n.ancestors := by
  obtain ⟨i, tree, -, rfl⟩ := mem_children_iff.1 h
  rfl

/-- What a node covers has above it what the node has. -/
theorem Covers.ancestors (h : n.Covers m) : n.ancestors <:+ m.ancestors := by
  induction h with
  | refl => exact List.suffix_rfl
  | tail _ hchild ih =>
    rw [ancestors_of_mem_children hchild]
    exact ih.trans (List.suffix_cons _ _)

/-- What a child covers has the parent above it. -/
theorem mem_ancestors_of_covers {child : Node} (hchild : child ∈ n.children)
    (h : child.Covers m) : n ∈ m.ancestors := by
  have hsuffix := h.ancestors
  rw [ancestors_of_mem_children hchild] at hsuffix
  exact hsuffix.subset List.mem_cons_self

theorem Covers.path (h : n.Covers m) : n.path <:+ m.path := by
  induction h with
  | refl => exact List.suffix_rfl
  | tail _ hchild ih =>
    obtain ⟨i, -, hpath⟩ := mem_place hchild
    rw [hpath]
    exact ih.trans (List.suffix_cons i _)

/-- Siblings cover nothing together. -/
theorem disjoint_documentOrder (n : Node) : n.children.Pairwise fun child other =>
    (child.documentOrder.map path).Disjoint (other.documentOrder.map path) := by
  refine (path_place_pairwise n 0 n.tree.children).imp_of_mem ?_
  intro child other hchild hother hne path hmem hmem'
  obtain ⟨m, hm, rfl⟩ := List.mem_map.1 hmem
  obtain ⟨m', hm', hpath⟩ := List.mem_map.1 hmem'
  -- Two suffixes of one path that are equally long are the same.
  have hsuffix := (mem_documentOrder.1 hm).path
  have hsuffix' := (mem_documentOrder.1 hm').path
  rw [hpath] at hsuffix'
  obtain ⟨i, -, hi⟩ := mem_place hchild
  obtain ⟨j, -, hj⟩ := mem_place hother
  refine hne ((List.suffix_of_suffix_length_le hsuffix hsuffix' ?_).eq_of_length ?_) <;>
    simp [hi, hj]

/-- Every node comes once. -/
theorem nodup_documentOrder (n : Node) : (n.documentOrder.map path).Nodup := by
  induction n using children_induction with
  | h n ih =>
    rw [documentOrder_eq, List.map_cons, List.map_flatMap, List.nodup_cons, List.nodup_flatMap]
    refine ⟨fun hmem => ?_, ih, n.disjoint_documentOrder⟩
    obtain ⟨child, hchild, hmem⟩ := List.mem_flatMap.1 hmem
    obtain ⟨m, hm, hpath⟩ := List.mem_map.1 hmem
    obtain ⟨i, -, hi⟩ := mem_place hchild
    have hlength := (mem_documentOrder.1 hm).path.length_le
    rw [hpath, hi, List.length_cons] at hlength
    omega

/-! ## Marks -/

/-- Whether a node is an error node or a missing node. -/
def IsDamage (n : Node) : Prop :=
  n.label.isError = true ∨ n.label.isMissing = true

instance : DecidablePred IsDamage := fun n =>
  inferInstanceAs (Decidable (n.label.isError = true ∨ n.label.isMissing = true))

/-- Whether exactly those nodes at and below a node are marked that are damage or have damage below
them. -/
def IsFlagged (n : Node) : Prop :=
  ∀ m ∈ n.documentOrder,
    m.label.hasError = true ↔ ∃ below ∈ m.documentOrder, below.IsDamage

instance : DecidablePred IsFlagged := fun n =>
  inferInstanceAs (Decidable (∀ m ∈ n.documentOrder, _))

theorem IsFlagged.child (h : n.IsFlagged) (hchild : m ∈ n.children) : m.IsFlagged := by
  intro below hbelow
  refine h below ?_
  rw [documentOrder_eq]
  exact List.mem_cons_of_mem n (List.mem_flatMap.2 ⟨m, hchild, hbelow⟩)

/-- A node without a mark has no damage. -/
theorem IsFlagged.not_isDamage (h : n.IsFlagged) (hclear : n.label.hasError = false)
    (hmem : m ∈ n.documentOrder) : ¬m.IsDamage := by
  intro hdamage
  have hmark := (h n (mem_documentOrder.2 .refl)).2 ⟨m, hmem, hdamage⟩
  rw [hclear] at hmark
  cases hmark

/-- Whether a node has no error node above it. -/
def IsInTheOpen (n : Node) : Prop :=
  ∀ above ∈ n.ancestors, above.label.isError = false

instance : DecidablePred IsInTheOpen := fun n =>
  inferInstanceAs (Decidable (∀ above ∈ n.ancestors, _))

/-- Whether a node is damage and has no error node above it. -/
def IsOutermost (n : Node) : Prop :=
  n.IsDamage ∧ n.IsInTheOpen

instance : DecidablePred IsOutermost := fun n =>
  inferInstanceAs (Decidable (n.IsDamage ∧ n.IsInTheOpen))

theorem IsInTheOpen.child (h : n.IsInTheOpen) (hsound : n.label.isError = false)
    (hchild : m ∈ n.children) : m.IsInTheOpen := by
  rw [IsInTheOpen, ancestors_of_mem_children hchild]
  exact List.forall_mem_cons.2 ⟨hsound, h⟩

/-! ## The search -/

/-- The outermost damage at and below a node, in document order. -/
def outermost (n : Node) : List Node :=
  n.documentOrder.filter fun m => IsOutermost m

/-- The outermost damage of a node is the node, if it is such damage, and then that of its children. -/
theorem outermost_eq (n : Node) :
    n.outermost = (if n.IsOutermost then [n] else []) ++ n.children.flatMap outermost := by
  rw [outermost, documentOrder_eq, List.filter_cons, List.filter_flatMap]
  simp only [decide_eq_true_eq]
  split <;> rfl

/-- Below an error node nothing is outermost. -/
theorem outermost_children_of_isError (herror : n.label.isError = true) :
    n.children.flatMap outermost = [] := by
  refine List.flatMap_eq_nil_iff.2 fun child hchild => List.filter_eq_nil_iff.2 fun m hmem => ?_
  have habove := mem_ancestors_of_covers hchild (mem_documentOrder.1 hmem)
  rw [decide_eq_true_eq]
  rintro ⟨-, hopen⟩
  rw [hopen n habove] at herror
  cases herror

/-- What is left closed has no damage. -/
theorem outermost_opened (hflagged : n.IsFlagged) :
    (if n.label.hasError then n.children else []).flatMap outermost
      = n.children.flatMap outermost := by
  split
  case isTrue => rfl
  case isFalse hclear =>
    refine (List.flatMap_eq_nil_iff.2 fun child hchild => ?_).symm
    refine List.filter_eq_nil_iff.2 fun m hmem => ?_
    have hcovered : m ∈ n.documentOrder := by
      rw [documentOrder_eq]
      exact List.mem_cons_of_mem n (List.mem_flatMap.2 ⟨child, hchild, hmem⟩)
    rw [decide_eq_true_eq]
    exact fun houtermost => hflagged.not_isDamage (Bool.eq_false_iff.2 hclear) hcovered houtermost.1

/-- Whether a node can be planned in the search: it is flagged, and no error node is above it. -/
structure IsPlannable (n : Node) : Prop where
  flagged : n.IsFlagged
  inTheOpen : n.IsInTheOpen

/-- What is opened can be planned as well, since nothing below an error node is opened. -/
theorem IsPlannable.opened {agenda : List Node} (hsound : ¬n.label.isError = true)
    (h : n.IsPlannable) (hagenda : ∀ m ∈ agenda, m.IsPlannable) :
    ∀ m ∈ (if n.label.hasError then n.children else []) ++ agenda, m.IsPlannable := by
  refine List.forall_mem_append.2 ⟨fun m hm => ?_, hagenda⟩
  split at hm
  · exact ⟨h.flagged.child hm, h.inTheOpen.child (Bool.eq_false_iff.2 hsound) hm⟩
  · cases hm

/-- **An agenda stands for the outermost damage of the nodes planned in it**, one after the other. -/
theorem damageFrom_eq {agenda : List Node} (hagenda : ∀ n ∈ agenda, n.IsPlannable) :
    damageFrom agenda = agenda.flatMap outermost := by
  -- On the agenda an error node is dropped with all below it, and any other node is opened. What
  -- lies below an error node is not outermost.
  induction agenda using damageFrom.induct with
  | case1 => rw [damageFrom, List.flatMap_nil]
  | case2 n agenda herror ih =>
    obtain ⟨hn, hagenda⟩ := List.forall_mem_cons.1 hagenda
    have houtermost : n.IsOutermost := ⟨.inl herror, hn.inTheOpen⟩
    rw [damageFrom, if_pos herror, ih hagenda, List.flatMap_cons, outermost_eq, if_pos houtermost,
      outermost_children_of_isError herror]
    rfl
  | case3 n agenda herror opened hmissing ih =>
    obtain ⟨hn, hagenda⟩ := List.forall_mem_cons.1 hagenda
    have houtermost : n.IsOutermost := ⟨.inr hmissing, hn.inTheOpen⟩
    have hrest := ih (hn.opened herror hagenda)
    simp only [opened, dite_eq_ite, List.flatMap_append, outermost_opened hn.flagged] at hrest
    rw [damageFrom, if_neg herror, if_pos hmissing, hrest, List.flatMap_cons, outermost_eq n,
      if_pos houtermost]
    rfl
  | case4 n agenda herror opened hmissing ih =>
    obtain ⟨hn, hagenda⟩ := List.forall_mem_cons.1 hagenda
    have hsound : ¬n.IsOutermost := fun h => h.1.elim herror hmissing
    have hrest := ih (hn.opened herror hagenda)
    simp only [opened, dite_eq_ite, List.flatMap_append, outermost_opened hn.flagged] at hrest
    rw [damageFrom, if_neg herror, if_neg hmissing, hrest, List.flatMap_cons, outermost_eq n,
      if_neg hsound]
    rfl

/-- **The damaged nodes that a search from the root finds are the outermost ones**: in a tree in which
exactly those nodes are marked that are damage or have damage below them, they are, in document order
and each once, the error nodes and missing nodes without an error node above them. -/
theorem damage_outermost (tree : Tree) (hflagged : (root tree).IsFlagged) :
    (root tree).damage = (root tree).documentOrder.filter (fun m => IsOutermost m) ∧
    ((root tree).damage.map path).Nodup ∧
    ∀ m, m ∈ (root tree).damage ↔ (root tree).Covers m ∧
      (m.label.isError = true ∨ m.label.isMissing = true) ∧
      ∀ above ∈ m.ancestors, above.label.isError = false := by
  have hopen : (root tree).IsInTheOpen := by
    intro above habove
    cases habove
  have hdamage : (root tree).damage = (root tree).outermost := by
    rw [damage, damageFrom_eq (by simpa using ⟨hflagged, hopen⟩), List.flatMap_singleton]
  refine ⟨hdamage, ?_, fun m => ?_⟩
  · rw [hdamage]
    exact (nodup_documentOrder _).sublist (List.filter_sublist.map path)
  · rw [hdamage, outermost, List.mem_filter, mem_documentOrder, decide_eq_true_eq]
    rfl

/-- An error node with a missing node below it, and a missing node with an error node below it that
the grammar does not name, and a missing node in that. -/
def nested : Tree :=
  .node ⟨"program", true, false, false, true, 0, 9, none⟩
    [.node ⟨"ERROR", true, true, false, true, 0, 2, none⟩
      [.node ⟨";", false, false, true, true, 2, 2, none⟩ []],
    .node ⟨"comment", true, false, false, false, 2, 4, none⟩ [],
    .node ⟨"expression_statement", true, false, true, true, 4, 9, none⟩
      [.node ⟨"ERROR", false, true, false, true, 4, 6, none⟩
        [.node ⟨"identifier", true, false, true, true, 6, 6, none⟩ []],
      .node ⟨")", false, false, true, true, 9, 9, none⟩ []]]

/-- Below the missing node the search goes on, and below error nodes it does not. -/
theorem damage_outermost_nested :
    (root nested).IsFlagged ∧
      (root nested).damage.map path = [[0], [2], [0, 2], [1, 2]] := by
  have hflagged : (root nested).IsFlagged := by decide
  refine ⟨hflagged, ?_⟩
  rw [(damage_outermost nested hflagged).1]
  rfl

end Node

end ScriptAudit
