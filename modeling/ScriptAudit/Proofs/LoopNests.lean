import Mathlib.Data.Set.Card
import Mathlib.Order.SuccPred.Archimedean
import ScriptAudit.Proofs.NodesBelow
import ScriptAudit.Proofs.RuleFindings

/-!
# Loops in loops

How often the body of the innermost loop runs depends on how many loops stand in one another. The rule
about nested loops counts all loops inside a loop instead. The count is never too low, so every deep nest
is reported. It is too high as soon as two of the loops are not one in the other.

- `Performance.loopsIn`: the loops inside a node, and `Performance.innerLoops_eq`: the rule counts them.
- `Performance.IsNest`: loops that stand in one another; `Performance.IsNest.length_le`: **no nest has more
  loops than there are.**
- `Performance.exists_nest_iff`: **there is a nest of all loops inside if and only if of any two of them
  one is in the other.**
- `Performance.nestedLoops_iff`: **what is reported is that there are two loops inside; the exponent is at
  least the depth of the deepest nest, and it is the depth if and only if all loops inside form a nest.**
-/

namespace ScriptAudit

/-- As many nodes are in a list without repetitions as it is long. -/
theorem ncard_mem_eq_length {nodes : List Node} (h : nodes.Nodup) :
    {m | m ∈ nodes}.ncard = nodes.length := by
  classical
  rw [← List.coe_toFinset, Set.ncard_coe_finset, List.toFinset_card_of_nodup h]

namespace Performance

open Node Vocabulary

variable {n : Node} {loops : List Node}

/-! ## Loops inside -/

/-- The loops inside a node. -/
def loopsIn (n : Node) : Set Node :=
  {m | n.IsAbove m ∧ m.kind ∈ loopKinds}

theorem loopsIn_eq (n : Node) : loopsIn n = {m | m ∈ n.innerOfKind loopKinds} :=
  Set.ext fun _ => mem_innerOfKind.symm

theorem finite_loopsIn (n : Node) : (loopsIn n).Finite := by
  rw [loopsIn_eq]
  exact List.finite_toSet _

/-- What the rule counts. -/
theorem innerLoops_eq (n : Node) : innerLoops n = (loopsIn n).ncard := by
  rw [innerLoops, loopsIn_eq, ncard_mem_eq_length (n.nodup_innerOfKind loopKinds)]

/-! ## Nests -/

/-- Whether there are loops in a node, each of them in the one before. -/
structure IsNest (n : Node) (loops : List Node) : Prop where
  chain : (n :: loops).IsChain IsAbove
  kinds : ∀ m ∈ loops, m.kind ∈ loopKinds

theorem IsNest.pairwise (h : IsNest n loops) : (n :: loops).Pairwise IsAbove :=
  h.chain.pairwise

theorem IsNest.subset (h : IsNest n loops) : {m | m ∈ loops} ⊆ loopsIn n :=
  fun m hm => ⟨(List.pairwise_cons.1 h.pairwise).1 m hm, h.kinds m hm⟩

theorem IsNest.ncard_eq (h : IsNest n loops) : {m | m ∈ loops}.ncard = loops.length := by
  refine ncard_mem_eq_length ?_
  refine (List.pairwise_cons.1 h.pairwise).2.imp fun {m other} habove heq => ?_
  rw [heq] at habove
  exact other.not_isAbove_self habove

/-- No nest has more loops than there are. -/
theorem IsNest.length_le (h : IsNest n loops) : loops.length ≤ (loopsIn n).ncard := by
  rw [← h.ncard_eq]
  exact Set.ncard_le_ncard h.subset (finite_loopsIn n)

/-- Whether of two nodes one is in the other, or is the other. -/
def Nested (m other : Node) : Prop :=
  m = other ∨ m.IsAbove other ∨ other.IsAbove m

instance : Std.Symm Nested where
  symm _ _ h := h.imp Eq.symm Or.symm

/-- All loops inside form one nest if and only if of any two of them one is in the other. -/
theorem exists_nest_iff (n : Node) :
    (∃ loops, IsNest n loops ∧ loops.length = (loopsIn n).ncard) ↔
      ∀ m ∈ loopsIn n, ∀ other ∈ loopsIn n, Nested m other := by
  constructor
  · rintro ⟨loops, hnest, hlength⟩
    -- A nest with as many loops as there are inside holds all of them.
    have hall : {m | m ∈ loops} = loopsIn n := by
      refine Set.eq_of_subset_of_ncard_le hnest.subset ?_ (finite_loopsIn n)
      rw [hnest.ncard_eq, hlength]
    have hnested : loops.Pairwise Nested :=
      (List.pairwise_cons.1 hnest.pairwise).2.imp fun habove => .inr (.inl habove)
    rw [← hall]
    exact fun m hm other hother => hnested.forall_of_forall (fun _ _ => .inl rfl) hm hother
  · -- In document order no loop stands before one that it is in.
    intro hnested
    refine ⟨n.innerOfKind loopKinds, ⟨List.Pairwise.isChain (List.pairwise_cons.2 ⟨?_, ?_⟩), ?_⟩, ?_⟩
    · exact fun m hm => (mem_innerOfKind.1 hm).1
    · have horder : (n.innerOfKind loopKinds).Pairwise fun m later => ¬later.IsAbove m := by
        rw [innerOfKind, descendants_eq_filter]
        exact (List.pairwise_cons.1 n.reached_parentsFirst).2.filter _
      refine (horder.and (n.nodup_innerOfKind loopKinds)).imp_of_mem ?_
      rintro m other hm hother ⟨hbefore, hne⟩
      rcases hnested m (mem_innerOfKind.1 hm) other (mem_innerOfKind.1 hother) with heq | habove | hbelow
      · -- Two of them are nested, and the order of the document says which is inside.
        exact absurd heq hne
      · exact habove
      · exact absurd hbelow hbefore
    · exact fun m hm => (mem_innerOfKind.1 hm).2
    · rw [← innerLoops_eq]
      rfl

/-! ## What is reported -/

/-- The numbers of loops in the nests that start with a loop, the loop included. -/
def nestSizes (loop : Node) : Set Nat :=
  {size | ∃ loops, IsNest loop loops ∧ loops.length + 1 = size}

theorem exists_depth (loop : Node) : ∃ depth, IsGreatest (nestSizes loop) depth := by
  refine BddAbove.exists_isGreatest_of_nonempty ⟨(loopsIn loop).ncard + 1, ?_⟩ ⟨1, [], ⟨?_, ?_⟩, rfl⟩
  · rintro size ⟨loops, hnest, rfl⟩
    exact Nat.succ_le_succ hnest.length_le
  · exact .singleton loop
  · exact fun m hm => absurd hm List.not_mem_nil

/-- The finding about a loop with other loops inside, with an exponent. -/
def nestedLoop (loop : Node) (exponent : Nat) : Finding :=
  .plain loop .warning "NESTED_LOOPS"
    ("O(n^" ++ natText exponent ++ ") complexity detected - consider optimization")

theorem mem_nestedLoops_iff (n : Node) (f : Finding) :
    f ∈ nestedLoops n ↔ (n.kind = "for_statement" ∧ 2 ≤ (loopsIn n).ncard) ∧
      f = nestedLoop n ((loopsIn n).ncard + 1) := by
  rw [nestedLoops, List.mem_ite_nil_right, List.mem_singleton, Bool.and_eq_true, decide_eq_true_eq,
    decide_eq_true_eq, innerLoops_eq]
  rfl

/-- **What is reported is the number of loops inside, and not how deep they are nested.** A loop is
reported if it is reached, is a for statement and has at least two loops inside, and the exponent is one
more than their number. Of the nests that start with the loop there is a deepest one. If it has at least
three loops the loop is reported, and the exponent is never less than its depth. It is the depth if and
only if of any two loops inside one is in the other. -/
theorem nestedLoops_iff (longest : Number) (d : Document) (loop : Node) :
    ((Family.performance longest).Reports "NESTED_LOOPS" d loop ↔
      d.root.Reaches loop ∧ loop.kind = "for_statement" ∧ 2 ≤ (loopsIn loop).ncard) ∧
    (∀ f ∈ (Family.performance longest).findings d, f.code = "NESTED_LOOPS" → f.node = loop →
      f = nestedLoop loop ((loopsIn loop).ncard + 1)) ∧
    ∃ depth, IsGreatest (nestSizes loop) depth ∧
      (d.root.Reaches loop → loop.kind = "for_statement" → 3 ≤ depth →
        (Family.performance longest).Reports "NESTED_LOOPS" d loop) ∧
      depth ≤ (loopsIn loop).ncard + 1 ∧
      ((loopsIn loop).ncard + 1 = depth ↔
        ∀ m ∈ loopsIn loop, ∀ other ∈ loopsIn loop, Nested m other) := by
  have hreports : (Family.performance longest).Reports "NESTED_LOOPS" d loop ↔
      d.root.Reaches loop ∧ loop.kind = "for_statement" ∧ 2 ≤ (loopsIn loop).ncard :=
    (hasRule_nestedLoops longest d).reports_iff_applies mem_nestedLoops_iff
  obtain ⟨depth, hdepth⟩ := exists_depth loop
  obtain ⟨loops, hnest, hlength⟩ := hdepth.1
  -- The nest is one of loops inside, so its depth is at most one more than their number.
  have hle := hnest.length_le
  refine ⟨hreports, ?_, depth, hdepth, ?_, ?_, ?_⟩
  · rintro f hf hcode rfl
    exact (hasRule_nestedLoops longest d).eq_finding mem_nestedLoops_iff f hf hcode
  · intro hreaches hkind hdeep
    exact hreports.2 ⟨hreaches, hkind, by omega⟩
  · omega
  · rw [← exists_nest_iff]
    constructor
    · intro heq
      exact ⟨loops, hnest, by omega⟩
    · rintro ⟨all, hall, hcount⟩
      have hupper := hdepth.2 ⟨all, hall, rfl⟩
      omega

/-- A loop with two loops in it, one after the other. -/
def rows : Document where
  bytes := Utf8.encode "for (; a;) \x7b for (; b;) \x7b\x7d for (; c;) \x7b\x7d \x7d".toList
  tree := .node ⟨"program", true, false, false, false, 0, 42, none⟩
    [.node ⟨"for_statement", true, false, false, false, 0, 42, none⟩
      [.node ⟨"statement_block", true, false, false, false, 11, 42, some "body"⟩
        [.node ⟨"for_statement", true, false, false, false, 13, 26, none⟩ [],
          .node ⟨"for_statement", true, false, false, false, 27, 40, none⟩ []]]]

theorem loopsIn_rows : ∃ loop, rows.root.Reaches loop ∧ loop.kind = "for_statement" ∧
    ∃ first second, loop.innerOfKind loopKinds = [first, second] ∧
      first.path = [0, 0, 0] ∧ second.path = [1, 0, 0] := by
  obtain ⟨loop, hroot⟩ : ∃ loop, rows.root.namedChildren = [loop] := ⟨_, rfl⟩
  have htop : rows.root.Reaches rows.root := .refl
  refine ⟨loop, htop.first hroot, ?_⟩
  cases hroot
  rw [innerOfKind, descendants_eq]
  exact ⟨rfl, _, _, rfl, rfl, rfl⟩

/-- No more than two loops stand in one another, and the loop is reported with the exponent three. -/
theorem nestedLoops_rows : ∃ loop, IsGreatest (nestSizes loop) 2 ∧
    (Family.performance (.whole 50)).Reports "NESTED_LOOPS" rows loop ∧
    ∀ f ∈ (Family.performance (.whole 50)).findings rows, f.code = "NESTED_LOOPS" → f.node = loop →
      f = nestedLoop loop 3 := by
  obtain ⟨loop, hreaches, hkind, first, second, hinside, hfirst, hsecond⟩ := loopsIn_rows
  obtain ⟨hreports, hfinding, depth, hdepth, -, hle, hnested⟩ := nestedLoops_iff (.whole 50) rows loop
  -- Two loops stand inside and neither is in the other, so the nest through both would not be one.
  have hcount : (loopsIn loop).ncard = 2 := by
    rw [← innerLoops_eq, innerLoops, hinside]
    rfl
  have hin : first ∈ loopsIn loop ∧ second ∈ loopsIn loop := by
    rw [loopsIn_eq, hinside]
    simp
  have hapart : ¬Nested first second := by
    rintro (heq | habove | hbelow)
    · rw [heq, hsecond] at hfirst
      cases hfirst
    · have hlt := habove.length_path_lt
      rw [hfirst, hsecond] at hlt
      exact Nat.lt_irrefl _ hlt
    · have hlt := hbelow.length_path_lt
      rw [hfirst, hsecond] at hlt
      exact Nat.lt_irrefl _ hlt
  have hlower : 2 ≤ depth :=
    hdepth.2 ⟨[first], ⟨.cons_cons hin.1.1 (.singleton first), by simpa using hin.1.2⟩, rfl⟩
  have hne : depth ≠ 3 := by
    rintro rfl
    rw [hcount] at hnested
    exact hapart (hnested.1 rfl first hin.1 second hin.2)
  have hdepth_eq : depth = 2 := by omega
  subst hdepth_eq
  rw [hcount] at hfinding
  exact ⟨loop, hdepth, hreports.2 ⟨hreaches, hkind, hcount.ge⟩, hfinding⟩

end Performance

end ScriptAudit
