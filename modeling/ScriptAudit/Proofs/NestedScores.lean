import Mathlib.Algebra.BigOperators.Group.List.Basic
import Mathlib.Algebra.Ring.Nat
import ScriptAudit.Metric.Complexity
import ScriptAudit.Proofs.NodesBelow

/-!
# Scores of nested structures

One score counts decisions, wherever they are. The other follows a walk with a counter that is raised
on entering a structure and lowered on leaving it. At every node the counter holds the number of
structures around the node, so that the score is a sum over nodes and needs no walk.

- `Node.enclosing`: the nodes around a node, up to the one that is scored.
- `Node.walk_eq`: a walk, one step down.
- `Complexity.charge`: what a node adds at a depth of nesting.
- `Complexity.walk_scored`: **a walk adds the charges of all that is reached and brings the counter back
  to where it was**, whatever it was.
- `Complexity.scores_eq`: **both scores as sums over the nodes that are reached.**
-/

namespace ScriptAudit

namespace Node

/-! ## Walks -/

/-- A walk enters a node, walks over its named children in order, and leaves the node. -/
theorem walk_eq {σ : Type} (onEnter onLeave : Node → σ → σ) (n : Node) (state : σ) :
    n.walk onEnter onLeave state
      = onLeave n (n.namedChildren.foldl (fun state m => m.walk onEnter onLeave state)
          (onEnter n state)) := by
  simp only [walk, visits_eq]
  rw [traversal_eq, List.foldl_cons, List.foldl_append, List.foldl_flatMap]
  rfl

/-- A walk that does nothing on leaving goes through what is reached, in document order. -/
theorem walk_eq_foldl {σ : Type} (onEnter : Node → σ → σ) (n : Node) (state : σ) :
    n.walk onEnter (fun _ state => state) state
      = n.reached.foldl (fun state m => onEnter m state) state := by
  induction n using named_induction generalizing state with
  | h n ih =>
    rw [walk_eq, reached_eq, List.foldl_cons, List.foldl_flatMap]
    exact List.foldl_ext _ _ _ fun state m hm => ih m hm state

/-! ## Nodes around a node -/

/-- The nodes above a node that are at or below another, the nearest first. -/
def enclosing (top m : Node) : List Node :=
  m.ancestors.filter fun a => decide (top.path <:+ a.path)

/-- The nodes above a node have shorter paths. -/
theorem length_path_of_mem_ancestors {a m : Node} (h : a ∈ m.ancestors) :
    a.path.length < m.path.length := by
  induction m with
  | root tree => cases h
  | child parent index tree ih =>
    have hparent : parent.path.length < (child parent index tree).path.length := Nat.lt_succ_self _
    rcases List.mem_cons.1 h with rfl | h
    · exact hparent
    · exact Nat.lt_trans (ih h) hparent

/-- Nothing is around the node that is scored. -/
theorem enclosing_self (n : Node) : n.enclosing n = [] := by
  refine List.filter_eq_nil_iff.2 fun a ha hsuffix => ?_
  have hle := (of_decide_eq_true hsuffix).length_le
  have hlt := length_path_of_mem_ancestors ha
  omega

/-- One more step down from the top, a node is around a node. -/
theorem enclosing_of_reaches {top m child : Node} (hreaches : top.Reaches m)
    (hchild : child ∈ m.namedChildren) : top.enclosing child = m :: top.enclosing m := by
  rw [enclosing, ancestors_eq hchild, List.filter_cons,
    if_pos (decide_eq_true hreaches.suffix)]
  rfl

/-- Seen from a parent, the parent itself is around what its child reaches, behind all that is around
it as seen from the child. -/
theorem enclosing_above {n child m : Node} (hchild : child ∈ n.namedChildren)
    (hreaches : child.Reaches m) : n.enclosing m = child.enclosing m ++ [n] := by
  induction hreaches with
  | refl =>
    rw [enclosing_of_reaches .refl hchild, enclosing_self, enclosing_self]
    rfl
  | tail hreaches hm ih =>
    rw [enclosing_of_reaches (.head hchild hreaches) hm, enclosing_of_reaches hreaches hm, ih]
    rfl

end Node

namespace Complexity

open Node

/-! ## Decisions -/

/-- Whether a node joins two values by a logical operator. -/
def JoinsLogically (m : Node) : Prop :=
  m.kind = "binary_expression" ∧ (m.operator = "&&" ∨ m.operator = "||")

/-- Whether the ways part at a node. -/
def Decides (m : Node) : Prop :=
  m.kind ∈ decisionKinds ∨ m.kind = "switch_case" ∨ JoinsLogically m

/-- Whether a node is a structure that weighs on what is in it. -/
def Nests (m : Node) : Prop :=
  m.kind ∈ nestingKinds

instance : DecidablePred JoinsLogically := fun m =>
  inferInstanceAs (Decidable (m.kind = "binary_expression" ∧ (m.operator = "&&" ∨ m.operator = "||")))

instance : DecidablePred Decides := fun m =>
  inferInstanceAs (Decidable (m.kind ∈ decisionKinds ∨ m.kind = "switch_case" ∨ JoinsLogically m))

instance : DecidablePred Nests := fun m =>
  inferInstanceAs (Decidable (m.kind ∈ nestingKinds))

theorem isLogical_iff {m : Node} : isLogical m = true ↔ JoinsLogically m := by
  simp [isLogical, JoinsLogically, logicalOperators]

theorem isDecision_iff {m : Node} : isDecision m = true ↔ Decides m := by
  simp [isDecision, Decides, isLogical_iff, or_assoc]

theorem isNesting_iff {m : Node} : isNesting m = true ↔ Nests m := by
  simp [isNesting, Nests]

/-- No structure is a logical operation. -/
theorem not_joinsLogically_of_nests {m : Node} (h : Nests m) : ¬JoinsLogically m := by
  rintro ⟨hkind, -⟩
  rw [Nests, hkind] at h
  exact absurd h (by decide)

/-- Counting decisions one after the other adds their number. -/
theorem foldl_countDecision (nodes : List Node) (score : Nat) :
    nodes.foldl (fun score m => countDecision m score) score
      = score + nodes.countP (fun m => decide (Decides m)) := by
  induction nodes generalizing score with
  | nil => rfl
  | cons m nodes ih =>
    rw [List.foldl_cons, ih, List.countP_cons, countDecision]
    by_cases hm : Decides m
    · rw [if_pos (isDecision_iff.2 hm), if_pos (decide_eq_true hm)]
      omega
    · rw [if_neg (mt isDecision_iff.1 hm), if_neg (by simpa using hm)]
      omega

/-! ## Nesting -/

/-- The number of structures around a node, up to the one that is scored. -/
def depth (top m : Node) : Nat :=
  (top.enclosing m).countP fun a => decide (Nests a)

/-- What a node adds to the score inside some structures. -/
def charge (nesting : Nat) (m : Node) : Nat :=
  if Nests m then 1 + nesting else if JoinsLogically m then 1 else 0

/-- What a structure adds to the nesting of all in it. -/
def deepening (m : Node) : Nat :=
  if Nests m then 1 else 0

theorem enterScored_eq (m : Node) (tally : Tally) :
    enterScored m tally = ⟨tally.score + charge tally.nesting m, tally.nesting + deepening m⟩ := by
  rw [enterScored, charge, deepening]
  by_cases hm : Nests m
  · simp only [isNesting_iff.2 hm, if_pos hm, if_true, Nat.add_assoc]
  · rw [if_neg (mt isNesting_iff.1 hm), if_neg hm, if_neg hm]
    by_cases hlogical : JoinsLogically m
    · rw [if_pos (isLogical_iff.2 hlogical), if_pos hlogical]
      rfl
    · rw [if_neg (mt isLogical_iff.1 hlogical), if_neg hlogical]
      rfl

/-- Leaving a node undoes what entering it did to the nesting. -/
theorem leaveScored_eq (m : Node) (score nesting : Nat) :
    leaveScored m ⟨score, nesting + deepening m⟩ = ⟨score, nesting⟩ := by
  rw [leaveScored, deepening]
  by_cases hm : Nests m
  · simp only [isNesting_iff.2 hm, if_pos hm, if_true, Nat.add_sub_cancel]
  · rw [if_neg (mt isNesting_iff.1 hm), if_neg hm, Nat.add_zero]

theorem depth_self (n : Node) : depth n n = 0 := by
  rw [depth, enclosing_self]
  rfl

theorem depth_above {n child m : Node} (hchild : child ∈ n.namedChildren)
    (hreaches : child.Reaches m) : depth n m = deepening n + depth child m := by
  rw [depth, enclosing_above hchild hreaches, List.countP_append, List.countP_singleton, deepening,
    Nat.add_comm]
  simp only [decide_eq_true_eq]
  rfl

/-- The charges of all that is reached, inside some structures. -/
def charges (nesting : Nat) (n : Node) : Nat :=
  (n.reached.map fun m => charge (nesting + depth n m) m).sum

/-- A node adds its own charge, and its named children add theirs one structure deeper if it is one. -/
theorem charges_eq (nesting : Nat) (n : Node) :
    charges nesting n
      = charge nesting n + (n.namedChildren.map (charges (nesting + deepening n))).sum := by
  rw [charges, reached_eq, List.map_cons, List.sum_cons, depth_self, Nat.add_zero, List.map_flatMap,
    List.flatMap_def, List.sum_flatten, List.map_map]
  congr 2
  refine List.map_congr_left fun child hchild => ?_
  rw [Function.comp_apply, charges]
  congr 1
  refine List.map_congr_left fun m hm => ?_
  rw [depth_above hchild (mem_reached.1 hm), Nat.add_assoc]

/-- **A walk adds all charges and brings the nesting back to where it was.** The induction is over any
nesting to start with: the children of a structure are walked over one structure deeper. -/
theorem walk_scored (n : Node) (score nesting : Nat) :
    n.walk enterScored leaveScored ⟨score, nesting⟩ = ⟨score + charges nesting n, nesting⟩ := by
  induction n using named_induction generalizing score nesting with
  | h n ih =>
    have hbelow (nodes : List Node) (hnodes : nodes ⊆ n.namedChildren) (score inner : Nat) :
        nodes.foldl (fun tally m => m.walk enterScored leaveScored tally) ⟨score, inner⟩
          = ⟨score + (nodes.map (charges inner)).sum, inner⟩ := by
      induction nodes generalizing score with
      | nil => rfl
      | cons m nodes ihnodes =>
        obtain ⟨hm, hnodes⟩ := List.cons_subset.1 hnodes
        rw [List.foldl_cons, ih m hm, ihnodes hnodes, List.map_cons, List.sum_cons, Nat.add_assoc]
    rw [walk_eq, enterScored_eq, hbelow _ (List.Subset.refl _), leaveScored_eq, charges_eq,
      Nat.add_assoc]

/-- A charge has a part for structures and a part for logical operations. -/
theorem charge_eq (nesting : Nat) (m : Node) :
    charge nesting m = (if Nests m then 1 + nesting else 0) + if JoinsLogically m then 1 else 0 := by
  rw [charge]
  by_cases hm : Nests m
  · rw [if_pos hm, if_pos hm, if_neg (not_joinsLogically_of_nests hm), Nat.add_zero]
  · rw [if_neg hm, if_neg hm, Nat.zero_add]

/-- The charges are those of the structures and those of the logical operations. -/
theorem sum_charge (nodes : List Node) (nesting : Node → Nat) :
    (nodes.map fun m => charge (nesting m) m).sum
      = ((nodes.filter fun m => decide (Nests m)).map fun m => 1 + nesting m).sum
        + nodes.countP fun m => decide (JoinsLogically m) := by
  induction nodes with
  | nil => rfl
  | cons m nodes ih =>
    have hfilter : (((m :: nodes).filter fun m => decide (Nests m)).map fun m => 1 + nesting m).sum
        = (if Nests m then 1 + nesting m else 0)
          + ((nodes.filter fun m => decide (Nests m)).map fun m => 1 + nesting m).sum := by
      by_cases hm : Nests m <;> simp [hm]
    rw [List.map_cons, List.sum_cons, ih, charge_eq, hfilter, List.countP_cons]
    simp only [decide_eq_true_eq]
    omega

/-! ## Both scores -/

/-- **Scores are sums over nodes.** What is reached from a node are the node itself and what named
children lead to, each once. The first score is one more than the number of decisions among them. The
second adds, for each structure among them, one more than the number of structures above it up to the
node that is scored, and one for each logical operation. At the end of the walk the counter of the
nesting is back at zero; it comes back to where it was from any number to start with, so it never had to
stop at zero on the way. -/
theorem scores_eq (n : Node) :
    (∀ m, m ∈ n.reached ↔ n.Reaches m) ∧
    (n.reached.map path).Nodup ∧
    cyclomatic n = 1 + n.reached.countP (fun m => decide (Decides m)) ∧
    cognitive n
      = ((n.reached.filter fun m => decide (Nests m)).map fun m =>
          1 + (n.enclosing m).countP fun a => decide (Nests a)).sum
        + n.reached.countP (fun m => decide (JoinsLogically m)) ∧
    (cognitiveTally n).nesting = 0 ∧
    ∀ tally, (n.walk enterScored leaveScored tally).nesting = tally.nesting := by
  have hwalk (tally : Tally) : n.walk enterScored leaveScored tally
      = ⟨tally.score + charges tally.nesting n, tally.nesting⟩ :=
    walk_scored n tally.score tally.nesting
  refine ⟨fun m => mem_reached, n.nodup_reached, ?_, ?_, ?_, ?_⟩
  · rw [cyclomatic, walk_eq_foldl, foldl_countDecision]
  · rw [cognitive, cognitiveTally, hwalk, ← sum_charge]
    simp only [charges, Nat.zero_add]
    rfl
  · rw [cognitiveTally, hwalk]
  · intro tally
    rw [hwalk]

end Complexity

end ScriptAudit
