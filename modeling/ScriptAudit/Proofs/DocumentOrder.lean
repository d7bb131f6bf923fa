import ScriptAudit.Proofs.RuleFindings
import ScriptAudit.Proofs.NodesBelow
import ScriptAudit.Proofs.TextPlaces
import ScriptAudit.Value.Field

/-!
# Issues in document order

A walk goes through a tree from top to bottom. Where nodes cover ranges of bytes that nest as the nodes
do, it comes to no node that starts before the one it comes from. Rows and columns grow with the offset,
so issues that point at the nodes of a walk are in the order in which a reader meets them.

- `NotAfter`: the order of places, `place_mono`: **a later offset is at no earlier place.**
- `Tree.IsTidy`: in every node the children lie in its range, one after the other.
- `Node.reached_inOrder`: what is reached in a tidy tree starts later and later.
- `Family.findings_inOrder`: so do findings that point at the node that was looked at.
- `Detector.issues_inOrder`: **the issues of three families are in document order, and those of the
  fourth are once the dead statements are left out.**
-/

namespace ScriptAudit

/-! ## Places -/

/-- Whether a line and a column are no later than others. -/
def NotAfter (place other : Nat × Nat) : Prop :=
  place.1 < other.1 ∨ place.1 = other.1 ∧ place.2 ≤ other.2

theorem NotAfter.refl (place : Nat × Nat) : NotAfter place place :=
  .inr ⟨rfl, Nat.le_refl _⟩

/-- More bytes without a line feed leave the start of the last line where it is. -/
theorem afterLastLineFeed_append {before more : List UInt8} (h : lineFeed ∉ more) :
    afterLastLineFeed (before ++ more) = afterLastLineFeed before := by
  have hline : (before ++ more).rtakeWhile (· != lineFeed)
      = before.rtakeWhile (· != lineFeed) ++ more := by
    have hmore : ∀ byte ∈ more.reverse, (byte != lineFeed) = true := by
      intro byte hbyte
      have hne : byte ≠ lineFeed := fun heq => h (heq ▸ List.mem_reverse.1 hbyte)
      simpa using hne
    rw [List.rtakeWhile, List.reverse_append, List.takeWhile_append_of_pos hmore,
      List.reverse_append, List.reverse_reverse, List.rtakeWhile]
  have hadd := afterLastLineFeed_add (before ++ more)
  have hbefore := afterLastLineFeed_add before
  rw [hline, List.length_append, List.length_append] at hadd
  omega

/-- **A later offset is at no earlier place.** -/
theorem place_mono (bytes : List UInt8) {offset later : Nat} (h : offset ≤ later) :
    NotAfter (rowOf bytes offset, columnOf bytes offset)
      (rowOf bytes later, columnOf bytes later) := by
  obtain ⟨more, hmore⟩ : bytes.take offset <+: bytes.take later :=
    List.take_prefix_take_left h
  have hrow : rowOf bytes later = rowOf bytes offset + more.count lineFeed := by
    rw [rowOf, rowOf, ← hmore, List.count_append]
  by_cases hfeed : lineFeed ∈ more
  · have hpos := List.count_pos_iff.2 hfeed
    exact .inl (by show rowOf bytes offset < rowOf bytes later; omega)
  · have hcount := List.count_eq_zero.2 hfeed
    refine .inr ⟨by show rowOf bytes offset = rowOf bytes later; omega, ?_⟩
    show columnOf bytes offset ≤ columnOf bytes later
    rw [columnOf, columnOf, ← hmore, afterLastLineFeed_append hfeed]
    omega

namespace Document

/-- The line and the column of a node. -/
def place (d : Document) (n : Node) : Nat × Nat :=
  (d.line n, d.column n)

/-- A node that starts later is at no earlier place. -/
theorem notAfter_of_start_le {d : Document} {n m : Node} (h : n.label.start ≤ m.label.start) :
    NotAfter (d.place n) (d.place m) := by
  rcases place_mono d.bytes h with hrow | ⟨hrow, hcolumn⟩
  · exact .inl (Nat.succ_lt_succ hrow)
  · exact .inr ⟨congrArg (· + 1) hrow, Nat.succ_le_succ hcolumn⟩

end Document

/-! ## Tidy trees -/

/-- Whether in every node the children cover ranges of bytes in the range of the node, one after the
other and without overlap. -/
inductive Tree.IsTidy : Tree → Prop
  | node {label : Label} {trees : List Tree}
    (inside : ∀ tree ∈ trees, label.start ≤ tree.label.start ∧
      tree.label.start ≤ tree.label.stop ∧ tree.label.stop ≤ label.stop)
    (apart : trees.Pairwise fun tree other => tree.label.stop ≤ other.label.start)
    (below : ∀ tree ∈ trees, tree.IsTidy) :
    (Tree.node label trees).IsTidy

/-- A node without children is tidy. -/
theorem Tree.isTidy_leaf (label : Label) : (Tree.node label []).IsTidy := by
  refine .node ?_ .nil ?_
  all_goals
    intro tree htree
    cases htree

namespace Node

variable {n m : Node}

/-- The named children of a node in a tidy tree lie in its range, and are tidy. -/
theorem inside_of_isTidy (htidy : n.tree.IsTidy) (h : m ∈ n.namedChildren) :
    m.tree.IsTidy ∧ n.label.start ≤ m.label.start ∧ m.label.start ≤ m.label.stop ∧
      m.label.stop ≤ n.label.stop := by
  have hmem := tree_mem_children h
  cases htree : n.tree with
  | node label trees =>
    rw [htree] at htidy hmem
    have hlabel : n.label = label := congrArg Tree.label htree
    cases htidy with
    | node inside apart below =>
      rw [hlabel]
      exact ⟨below m.tree hmem, inside m.tree hmem⟩

/-- They come one after the other. -/
theorem apart_of_isTidy (htidy : n.tree.IsTidy) :
    n.namedChildren.Pairwise fun child other => child.label.stop ≤ other.label.start := by
  have hall : n.children.Pairwise fun child other => child.label.stop ≤ other.label.start := by
    have htrees : n.tree.children.Pairwise fun tree other =>
        tree.label.stop ≤ other.label.start := by
      cases htree : n.tree with
      | node label trees =>
        rw [htree] at htidy
        cases htidy with
        | node inside apart below => exact apart
    rw [← map_tree_place n 0 n.tree.children, List.pairwise_map] at htrees
    exact htrees
  exact hall.filter _

/-- What is reached lies in the range of the node from which it is reached. -/
theorem Reaches.inside (h : n.Reaches m) (htidy : n.tree.IsTidy)
    (hrange : n.label.start ≤ n.label.stop) :
    m.tree.IsTidy ∧ n.label.start ≤ m.label.start ∧ m.label.start ≤ m.label.stop ∧
      m.label.stop ≤ n.label.stop := by
  induction h with
  | refl => exact ⟨htidy, Nat.le_refl _, hrange, Nat.le_refl _⟩
  | tail _ hmem ih =>
    obtain ⟨htidy, hstart, -, hstop⟩ := ih
    obtain ⟨hbelow, hstart', hrange', hstop'⟩ := inside_of_isTidy htidy hmem
    exact ⟨hbelow, hstart.trans hstart', hrange', hstop'.trans hstop⟩

/-- **In a tidy tree what is reached starts later and later.** A child and all below it start behind its
parent, and end before the next child starts. -/
theorem reached_inOrder (htidy : n.tree.IsTidy) :
    n.reached.Pairwise fun above below => above.label.start ≤ below.label.start := by
  induction n using named_induction with
  | h n ih =>
    -- All that is reached from a child lies in its range, and the ranges of the children are apart.
    have hinside (child : Node) (hchild : child ∈ n.namedChildren) (m : Node)
        (hm : m ∈ child.reached) : n.label.start ≤ child.label.start ∧
          child.label.start ≤ m.label.start ∧ m.label.start ≤ child.label.stop := by
      obtain ⟨hbelow, hstart, hrange, -⟩ := inside_of_isTidy htidy hchild
      obtain ⟨-, hstart', hrange', hstop'⟩ := (mem_reached.1 hm).inside hbelow hrange
      exact ⟨hstart, hstart', hrange'.trans hstop'⟩
    rw [reached_eq, List.pairwise_cons, List.pairwise_flatMap]
    refine ⟨?_, ?_, ?_⟩
    · intro m hm
      obtain ⟨child, hchild, hm⟩ := List.mem_flatMap.1 hm
      obtain ⟨hstart, hstart', -⟩ := hinside child hchild m hm
      exact hstart.trans hstart'
    · intro child hchild
      exact ih child hchild (inside_of_isTidy htidy hchild).1
    · refine (apart_of_isTidy htidy).imp_of_mem ?_
      intro child other hchild hother hapart m hm m' hm'
      have hstop := (hinside child hchild m hm).2.2
      have hstart := (hinside other hother m' hm').2.1
      exact (hstop.trans hapart).trans hstart

end Node

/-! ## Findings and issues -/

variable {d : Document}

/-- What is found at the nodes of a walk is in document order if it points at the node looked at. -/
theorem Family.findings_inOrder (htidy : d.tree.IsTidy) {find : Node → List Finding}
    (hpoint : ∀ n, Finding.PointAt n (find n)) :
    (d.root.reached.flatMap find).Pairwise fun f g => NotAfter (d.place f.node) (d.place g.node) := by
  have hroot : d.root.tree.IsTidy := htidy
  rw [List.pairwise_flatMap]
  constructor
  · intro n _
    refine List.pairwise_of_forall_mem_list fun f hf g hg => ?_
    rw [hpoint n f hf, hpoint n g hg]
    exact .refl _
  · refine (Node.reached_inOrder hroot).imp ?_
    intro n m hstart f hf g hg
    rw [hpoint n f hf, hpoint m g hg]
    exact Document.notAfter_of_start_le hstart

/-- Whether issues have a line and a column each that never decrease. -/
def InDocumentOrder (issues : List Issue) : Prop :=
  ∃ places : List (Nat × Nat), places.Pairwise NotAfter ∧
    issues.map (fun issue => (issue.line, issue.column))
      = places.map fun place => (.int place.1, .int place.2)

/-- Issues are in the order of the nodes that they were found at. -/
theorem inDocumentOrder_of_findings {findings : List Finding}
    (h : findings.Pairwise fun f g => NotAfter (d.place f.node) (d.place g.node))
    (category : Category) (path : String) :
    InDocumentOrder (findings.map (Finding.toIssue d category path)) := by
  refine ⟨findings.map fun f => d.place f.node, List.pairwise_map.2 h, ?_⟩
  rw [List.map_map, List.map_map]
  rfl

/-- A family whose rules point at the nodes they look at has its issues in document order. -/
theorem Family.detector_inOrder {family : Family} (htidy : d.tree.IsTidy)
    (hpoint : ∀ n, Finding.PointAt n (family.rules d (family.survey d) n)) (path : String) :
    ∃ issues, family.detector.detect d path = .complete issues ∧ InDocumentOrder issues :=
  ⟨_, rfl, inDocumentOrder_of_findings (Family.findings_inOrder htidy hpoint) family.category path⟩

/-- Whether an issue is about a dead statement. -/
def Issue.isAboutDead (issue : Issue) : Bool :=
  issue.code.text? == some "UNREACHABLE_CODE"

/-- Issues of syntax without those about dead statements are the other findings of syntax. -/
theorem Syntactic.filter_issues (path : String) :
    ((Family.syntactic.findings d).map (Finding.toIssue d Family.syntactic.category path)).filter
        (!·.isAboutDead)
      = (d.root.reached.flatMap fun n =>
          (Family.syntactic.rules d (Family.syntactic.survey d) n).filter
            (·.code != "UNREACHABLE_CODE")).map
              (Finding.toIssue d Family.syntactic.category path) := by
  rw [List.filter_map, Family.findings, List.filter_flatMap]
  rfl

/-- **Issues are in document order.** In a document whose nodes cover ranges of bytes that nest as the
nodes do, each of the detectors for logic, performance and security ends with issues whose lines and
columns never decrease; so do those for syntax, once the issues about dead statements, which point at a
later sibling, are left out. -/
theorem Detector.issues_inOrder (htidy : d.tree.IsTidy) (longest : Number) (path : String) :
    (∀ family ∈ [Family.logic, Family.performance longest, Family.security],
      ∃ issues, family.detector.detect d path = .complete issues ∧ InDocumentOrder issues) ∧
    ∃ issues, Family.syntactic.detector.detect d path = .complete issues ∧
      InDocumentOrder (issues.filter (!·.isAboutDead)) := by
  constructor
  · intro family hfamily
    simp only [List.mem_cons, List.not_mem_nil, or_false] at hfamily
    rcases hfamily with rfl | rfl | rfl
    · exact Family.detector_inOrder htidy (fun n => Logic.pointAt_rules _) path
    · exact Family.detector_inOrder htidy (fun n => Performance.pointAt_rules longest _) path
    · exact Family.detector_inOrder htidy (fun n => Security.pointAt_rules _) path
  · refine ⟨_, rfl, ?_⟩
    rw [Syntactic.filter_issues]
    exact inDocumentOrder_of_findings
      (Family.findings_inOrder htidy fun n => Syntactic.pointAt_rules) Family.syntactic.category path

/-- A text that is run as code, which is a text run as code on the next line. -/
def evaluating : Document where
  bytes := Utf8.encode "eval(\n eval(a));".toList
  tree := .node ⟨"program", true, false, false, false, 0, 16, none⟩
    [.node ⟨"call_expression", true, false, false, false, 0, 15, none⟩
      [.node ⟨"identifier", true, false, false, false, 0, 4, some "function"⟩ [],
        .node ⟨"arguments", true, false, false, false, 4, 15, some "arguments"⟩
          [.node ⟨"call_expression", true, false, false, false, 7, 14, none⟩
            [.node ⟨"identifier", true, false, false, false, 7, 11, some "function"⟩ [],
              .node ⟨"arguments", true, false, false, false, 11, 14, some "arguments"⟩ []]]]]

theorem isTidy_evaluating : evaluating.tree.IsTidy := by
  refine .node (by simp [Tree.label]) (by simp) fun outer houter => ?_
  obtain rfl := List.mem_singleton.1 houter
  refine .node (by simp [Tree.label]) (by simp [Tree.label]) fun part hpart => ?_
  rcases List.mem_pair.1 hpart with rfl | rfl
  · exact Tree.isTidy_leaf _
  · refine .node (by simp [Tree.label]) (by simp) fun inner hinner => ?_
    obtain rfl := List.mem_singleton.1 hinner
    refine .node (by simp [Tree.label]) (by simp [Tree.label]) fun part hpart => ?_
    rcases List.mem_pair.1 hpart with rfl | rfl
    · exact Tree.isTidy_leaf _
    · exact Tree.isTidy_leaf _

theorem findings_evaluating :
    (Family.security.findings evaluating).map (fun f => (f.code, evaluating.place f.node))
      = [("DANGEROUS_EVAL", (1, 1)), ("DANGEROUS_EVAL", (2, 2))] := by
  rw [Family.findings, Node.reached, Node.inner, Node.descendants_eq]
  decide

theorem issues_inOrder_evaluating :
    evaluating.tree.IsTidy ∧
      ∃ issues, Family.security.detector.detect evaluating "a.js" = .complete issues ∧
        issues.map (fun issue => (issue.line, issue.column)) = [(.int 1, .int 1), (.int 2, .int 2)] ∧
        InDocumentOrder issues := by
  obtain ⟨hall, -⟩ := Detector.issues_inOrder isTidy_evaluating (.whole 50) "a.js"
  obtain ⟨issues, hissues, horder⟩ := hall Family.security (by simp)
  refine ⟨isTidy_evaluating, issues, hissues, ?_, horder⟩
  cases hissues
  have hplaces := congrArg (List.map fun place : String × Nat × Nat =>
    (Value.int place.2.1, Value.int place.2.2)) findings_evaluating
  rw [List.map_map] at hplaces
  rw [List.map_map]
  exact hplaces

end ScriptAudit
