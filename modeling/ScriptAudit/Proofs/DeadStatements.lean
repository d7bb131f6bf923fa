import ScriptAudit.Proofs.RuleFindings
import ScriptAudit.Proofs.NodesBelow

/-!
# Statements after a return

The rule stands on a return statement and looks forward, over comments, for the statement it cuts off.
Seen from that statement it is the other way round: whatever is before it, only the nearest statement
counts. The two views are one relation between siblings, in which neither side has two partners.

- `Syntactic.CutsOff`: in a list of statements, a return has nothing but comments between itself and a
  statement.
- `Syntactic.unreachableCode_eq_iff`: what the rule finds at a node that is reached.
- `Syntactic.CutsOff.unique`: a statement is cut off by one return only.
- `Syntactic.deadStatements_iff`: **the statements that are reported are those whose nearest statement
  before is a return, and each is reported once.**
-/

namespace ScriptAudit

namespace Syntactic

open Node

/-- Whether a return statement in a list of statements cuts off a statement: in the list, nothing but
comments is between the two. What the grammar does not name is not looked at. -/
structure CutsOff (list exit statement : Node) : Prop where
  kind_exit : exit.kind = "return_statement"
  kind_statement : statement.kind ≠ "comment"
  between : ∃ earlier comments later,
    list.namedChildren = earlier ++ exit :: (comments ++ statement :: later) ∧
      ∀ comment ∈ comments, comment.kind = "comment"

variable {list exit statement : Node}

theorem CutsOff.mem_exit (h : CutsOff list exit statement) : exit ∈ list.namedChildren := by
  obtain ⟨earlier, comments, later, hsplit, -⟩ := h.between
  simp [hsplit]

theorem CutsOff.mem_statement (h : CutsOff list exit statement) :
    statement ∈ list.namedChildren := by
  obtain ⟨earlier, comments, later, hsplit, -⟩ := h.between
  simp [hsplit]

/-! ## What the rule finds -/

/-- The next statement after a child of a list is the first behind it that is no comment. -/
theorem nextStatement?_eq {earlier later : List Node}
    (h : list.namedChildren = earlier ++ exit :: later) :
    nextStatement? exit = later.find? (·.kind != "comment") :=
  find?_laterSiblings h

/-- What is next to a return statement in a list is what it cuts off. -/
theorem nextStatement?_eq_some_iff (hmem : exit ∈ list.namedChildren)
    (hkind : exit.kind = "return_statement") :
    nextStatement? exit = some statement ↔ CutsOff list exit statement := by
  constructor
  · intro hnext
    obtain ⟨earlier, behind, hsplit⟩ := List.append_of_mem hmem
    rw [nextStatement?_eq hsplit, List.find?_eq_some_iff_append] at hnext
    obtain ⟨hstatement, comments, later, rfl, hcomments⟩ := hnext
    refine ⟨hkind, by simpa using hstatement, earlier, comments, later, hsplit, ?_⟩
    intro comment hcomment
    simpa using hcomments comment hcomment
  · rintro ⟨-, hstatement, earlier, comments, later, hsplit, hcomments⟩
    rw [nextStatement?_eq hsplit, List.find?_eq_some_iff_append]
    refine ⟨by simpa using hstatement, comments, later, rfl, fun comment hcomment => ?_⟩
    simpa using hcomments comment hcomment

/-- The finding about a statement that is cut off. -/
def deadStatement (statement : Node) : Finding :=
  .plain statement .warning "UNREACHABLE_CODE" "Unreachable code detected after return statement"

/-- At a node that is reached, the rule finds the statement that the node cuts off in a list. -/
theorem mem_unreachableCode_iff {tree : Tree} {n : Node} (hreaches : (root tree).Reaches n)
    {f : Finding} :
    f ∈ unreachableCode n ↔ ∃ list statement, (root tree).Reaches list ∧
      list.kind ∈ statementListKinds ∧ CutsOff list n statement ∧ f = deadStatement statement := by
  constructor
  · intro hf
    unfold unreachableCode at hf
    split at hf
    · -- The rule asks for the list above the return, and then for the statement behind it.
      rename_i hcut
      rw [Bool.and_eq_true, decide_eq_true_eq, Option.any_eq_true] at hcut
      obtain ⟨hkind, list, hparent, hlist⟩ := hcut
      obtain ⟨habove, hmem⟩ := hreaches.parent hparent
      split at hf
      · rename_i statement hnext
        exact ⟨list, statement, habove, by simpa using hlist,
          (nextStatement?_eq_some_iff hmem hkind).1 hnext, List.mem_singleton.1 hf⟩
      · cases hf
    · cases hf
  · rintro ⟨list, statement, -, hlist, hcuts, rfl⟩
    -- From the list the return is one of its children, so going up from it leads back to the list.
    have hcut : (n.kind = "return_statement"
        && n.parent?.any (statementListKinds.contains ·.kind)) = true := by
      rw [parent?_eq hcuts.mem_exit, hcuts.kind_exit]
      simpa using hlist
    have hnext := (nextStatement?_eq_some_iff hcuts.mem_exit hcuts.kind_exit).2 hcuts
    rw [unreachableCode, if_pos hcut, hnext]
    exact List.mem_singleton_self _

/-! ## No statement twice -/

/-- The nearest node before a statement that is no comment is what cuts it off. -/
theorem CutsOff.nearest (h : CutsOff list exit statement) {earlier later : List Node}
    (hsplit : list.namedChildren = earlier ++ statement :: later) :
    earlier.reverse.find? (·.kind != "comment") = some exit := by
  obtain ⟨before, comments, behind, hlist, hcomments⟩ := h.between
  rw [← List.cons_append, ← List.append_assoc] at hlist
  -- A statement stands once in its list, so both ways to take the list apart at it are the same.
  have hnodup := list.nodup_namedChildren
  rw [hlist, List.nodup_middle, List.nodup_cons, List.mem_append, not_or] at hnodup
  have hsame := (List.append_cons_inj_of_notMem hnodup.1.1 hnodup.1.2).1 (hlist.symm.trans hsplit)
  rw [← hsame.1, List.reverse_append, List.reverse_cons, List.append_assoc,
    List.find?_eq_some_iff_append]
  refine ⟨?_, comments.reverse, before.reverse, rfl, fun comment hcomment => ?_⟩
  · rw [h.kind_exit]
    rfl
  · rw [hcomments comment (List.mem_reverse.1 hcomment)]
    rfl

/-- Looking back from the statement comes to the same as looking forward from the return. -/
theorem cutsOff_iff : CutsOff list exit statement ↔
    exit.kind = "return_statement" ∧ statement.kind ≠ "comment" ∧
      ∃ earlier later, list.namedChildren = earlier ++ statement :: later ∧
        earlier.reverse.find? (·.kind != "comment") = some exit := by
  constructor
  · intro h
    obtain ⟨earlier, later, hsplit⟩ := List.append_of_mem h.mem_statement
    exact ⟨h.kind_exit, h.kind_statement, earlier, later, hsplit, h.nearest hsplit⟩
  · rintro ⟨hexit, hstatement, earlier, later, hsplit, hnearest⟩
    obtain ⟨-, comments, before, hearlier, hcomments⟩ := List.find?_eq_some_iff_append.1 hnearest
    rw [List.reverse_eq_iff, List.reverse_append, List.reverse_cons, List.append_assoc] at hearlier
    refine ⟨hexit, hstatement, before.reverse, comments.reverse, later, ?_, fun comment hcomment => ?_⟩
    · rw [hsplit, hearlier, List.append_assoc, List.append_assoc]
      rfl
    · simpa using hcomments comment (List.mem_reverse.1 hcomment)

/-- A statement is cut off by one return only, in one list only. -/
theorem CutsOff.unique {other elsewhere : Node} (h : CutsOff list exit statement)
    (hother : CutsOff elsewhere other statement) : exit = other := by
  have hlist : list = elsewhere :=
    Option.some.inj ((parent?_eq h.mem_statement).symm.trans (parent?_eq hother.mem_statement))
  subst hlist
  obtain ⟨earlier, later, hsplit⟩ := List.append_of_mem h.mem_statement
  exact Option.some.inj ((h.nearest hsplit).symm.trans (hother.nearest hsplit))

/-! ## What is reported -/

theorem findingsUnder_dead_eq (d : Document) :
    Family.syntactic.findingsUnder "UNREACHABLE_CODE" d = d.root.reached.flatMap unreachableCode :=
  Family.findingsUnder_eq fun _ => filter_rules_unreachable

theorem mem_findingsUnder_dead_iff {d : Document} {f : Finding} :
    f ∈ Family.syntactic.findingsUnder "UNREACHABLE_CODE" d ↔
      ∃ list exit statement, d.root.Reaches list ∧ list.kind ∈ statementListKinds ∧
        CutsOff list exit statement ∧ f = deadStatement statement := by
  rw [findingsUnder_dead_eq, List.mem_flatMap]
  constructor
  · rintro ⟨n, hn, hf⟩
    obtain ⟨list, statement, hfound⟩ := (mem_unreachableCode_iff (mem_reached.1 hn)).1 hf
    exact ⟨list, n, statement, hfound⟩
  · rintro ⟨list, exit, statement, hreaches, hlist, hcuts, rfl⟩
    have hexit : d.root.Reaches exit := hreaches.tail hcuts.mem_exit
    exact ⟨exit, mem_reached.2 hexit,
      (mem_unreachableCode_iff hexit).2 ⟨list, statement, hreaches, hlist, hcuts, rfl⟩⟩

/-- At one node at most one statement is reported. -/
theorem nodup_unreachableCode (n : Node) : ((unreachableCode n).map (·.node.path)).Nodup := by
  unfold unreachableCode
  split
  · split
    · exact List.nodup_singleton _
    · exact List.nodup_nil
  · exact List.nodup_nil

theorem nodup_findingsUnder_dead (d : Document) :
    ((Family.syntactic.findingsUnder "UNREACHABLE_CODE" d).map (·.node.path)).Nodup := by
  rw [findingsUnder_dead_eq, List.map_flatMap, List.nodup_flatMap]
  refine ⟨fun n _ => nodup_unreachableCode n, ?_⟩
  refine (List.pairwise_map.1 d.root.nodup_reached).imp_of_mem ?_
  -- Two returns in different places that cut off one statement would be one return.
  intro n m hn hm hne place hplace hplace'
  obtain ⟨f, hf, rfl⟩ := List.mem_map.1 hplace
  obtain ⟨g, hg, hpath⟩ := List.mem_map.1 hplace'
  obtain ⟨list, statement, hlist, -, hcuts, rfl⟩ :=
    (mem_unreachableCode_iff (mem_reached.1 hn)).1 hf
  obtain ⟨list', statement', hlist', -, hcuts', rfl⟩ :=
    (mem_unreachableCode_iff (mem_reached.1 hm)).1 hg
  have hstatement : statement' = statement :=
    eq_of_path_eq (hlist'.tail hcuts'.mem_statement) (hlist.tail hcuts.mem_statement) hpath
  subst hstatement
  exact hne (congrArg path (hcuts.unique hcuts'))

/-- **What is reported as unreachable is what directly follows a return.** A node is reported exactly if
it is a named child, and no comment, of a list of statements that is reached, and the nearest node before
it among the named children that is no comment is a return statement. All such findings say the same, as
a warning, and no two of them are about one node, whatever returns and comments the list holds. -/
theorem deadStatements_iff (d : Document) :
    (∀ statement : Node,
      (∃ f ∈ Family.syntactic.findings d, f.code = "UNREACHABLE_CODE" ∧ f.node = statement) ↔
        ∃ list : Node, d.root.Reaches list ∧ list.kind ∈ statementListKinds ∧
          statement.kind ≠ "comment" ∧
          ∃ earlier later exit, list.namedChildren = earlier ++ statement :: later ∧
            earlier.reverse.find? (·.kind != "comment") = some exit ∧
            exit.kind = "return_statement") ∧
    (∀ f ∈ Family.syntactic.findings d, f.code = "UNREACHABLE_CODE" → f = deadStatement f.node) ∧
    (((Family.syntactic.findings d).filter (·.code == "UNREACHABLE_CODE")).map (·.node.path)).Nodup := by
  refine ⟨fun statement => ⟨?_, ?_⟩, ?_, nodup_findingsUnder_dead d⟩
  · rintro ⟨f, hf, hcode, rfl⟩
    obtain ⟨list, exit, statement, hreaches, hlist, hcuts, rfl⟩ :=
      mem_findingsUnder_dead_iff.1 (Family.mem_findingsUnder.2 ⟨hf, hcode⟩)
    obtain ⟨hexit, hstatement, earlier, later, hsplit, hnearest⟩ := cutsOff_iff.1 hcuts
    exact ⟨list, hreaches, hlist, hstatement, earlier, later, exit, hsplit, hnearest, hexit⟩
  · rintro ⟨list, hreaches, hlist, hstatement, earlier, later, exit, hsplit, hnearest, hexit⟩
    have hcuts := cutsOff_iff.2 ⟨hexit, hstatement, earlier, later, hsplit, hnearest⟩
    obtain ⟨hmem, hcode⟩ := Family.mem_findingsUnder.1
      (mem_findingsUnder_dead_iff.2 ⟨list, exit, statement, hreaches, hlist, hcuts, rfl⟩)
    exact ⟨deadStatement statement, hmem, hcode, rfl⟩
  · intro f hf hcode
    obtain ⟨list, exit, statement, -, -, -, rfl⟩ :=
      mem_findingsUnder_dead_iff.1 (Family.mem_findingsUnder.2 ⟨hf, hcode⟩)
    rfl

end Syntactic

end ScriptAudit
