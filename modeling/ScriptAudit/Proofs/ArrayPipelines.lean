import ScriptAudit.Proofs.NodesBelow
import ScriptAudit.Proofs.RuleFindings

/-!
# Pipelines of array methods

The rule about arrays that are run over more than once asks whether a method is called on the result of a
call, and goes up from the call to see it. It does not ask which method that is. So it finds every
pipeline that runs over its array twice, and as well every one that runs over it once and goes on with
anything else.

- `Node.child?_isSame_iff`: among the children of a node, a place tells which one has a role.
- `Performance.IsChainedTo`: one call is made on the result of another; `Performance.isChained_iff`: **the
  search upwards finds whether there is such a call**, and by `Performance.IsChainedTo.unique` there is one
  at most.
- `Performance.multipleIterations_iff`: **what is reported is that some method is called on the result,
  and which one makes no difference.**
-/

namespace ScriptAudit

namespace Node

variable {n m : Node} {field : String}

/-! ## Roles -/

theorem mem_children_of_child? (h : n.child? field = some m) : m ∈ n.children :=
  List.mem_of_find?_eq_some h

/-- Whether the child with a role is in the place of a given child is whether it is that child. -/
theorem child?_isSame_iff (hm : m ∈ n.children) :
    (n.child? field).any (·.isSame m) = true ↔ n.child? field = some m := by
  rw [Option.any_eq_true]
  constructor
  · rintro ⟨other, hother, hsame⟩
    rw [hother, eq_of_mem_children (mem_children_of_child? hother) hm (beq_iff_eq.1 hsame)]
  · intro hchild
    exact ⟨m, hchild, beq_self_eq_true m.path⟩

end Node

namespace Performance

open Node Vocabulary

variable {d : Document} {n call access outer : Node}

/-! ## Calls on the result of a call -/

/-- Whether a call is made on the result of another: this one is the object of a member access, and the
access is what is called. -/
structure IsChainedTo (call access outer : Node) : Prop where
  kind_access : access.kind = "member_expression"
  object : access.child? "object" = some call
  kind_outer : outer.kind = "call_expression"
  callee : outer.callee? = some access

/-- Only one call is made on the result of a call. -/
theorem IsChainedTo.unique {access' outer' : Node} (h : IsChainedTo call access outer)
    (h' : IsChainedTo call access' outer') : access = access' ∧ outer = outer' := by
  have haccess := parent?_of_mem_children (mem_children_of_child? h.object)
  have haccess' := parent?_of_mem_children (mem_children_of_child? h'.object)
  cases haccess.symm.trans haccess'
  have houter := parent?_of_mem_children (mem_children_of_child? h.callee)
  have houter' := parent?_of_mem_children (mem_children_of_child? h'.callee)
  cases houter.symm.trans houter'
  exact ⟨rfl, rfl⟩

/-- The method called on the result is the property of the access. -/
theorem IsChainedTo.callMethod_eq (h : IsChainedTo call access outer) :
    d.callMethod outer = d.text? (access.child? "property") := by
  rw [Document.callMethod, h.callee, Document.memberProperty]
  exact if_pos h.kind_access

/-- Going up from a call that is reached finds the call on its result. -/
theorem isChained_iff {tree : Tree} (hreaches : (root tree).Reaches call) :
    isChained call = true ↔ ∃ access outer, IsChainedTo call access outer := by
  constructor
  · intro hchained
    -- Going up, both tests ask whether the node above has the call, or the access, in the place in
    -- question.
    unfold isChained at hchained
    split at hchained
    · rename_i access haccess
      obtain ⟨habove, hcall⟩ := hreaches.parent haccess
      rw [Bool.and_eq_true, Bool.and_eq_true, beq_iff_eq] at hchained
      obtain ⟨⟨hkind, hobject⟩, hchained⟩ := hchained
      rw [memberObject?, if_pos hkind, child?_isSame_iff (List.mem_of_mem_filter hcall)] at hobject
      split at hchained
      · rename_i outer houter
        obtain ⟨-, hmem⟩ := habove.parent houter
        rw [Bool.and_eq_true, beq_iff_eq, callee?, child?_isSame_iff (List.mem_of_mem_filter hmem)]
          at hchained
        exact ⟨access, outer, hkind, hobject, hchained.1, hchained.2⟩
      · cases hchained
    · cases hchained
  · rintro ⟨access, outer, h⟩
    -- Going down, each place holds the node that the test compares with.
    have hcall := mem_children_of_child? h.object
    have haccess := mem_children_of_child? h.callee
    have hobject : access.memberObject?.any (·.isSame call) = true := by
      rw [memberObject?, if_pos h.kind_access, child?_isSame_iff hcall]
      exact h.object
    have hcallee : outer.callee?.any (·.isSame access) = true := by
      rw [callee?, child?_isSame_iff haccess]
      exact h.callee
    simp only [isChained, parent?_of_mem_children hcall, parent?_of_mem_children haccess, hobject,
      hcallee, h.kind_access, h.kind_outer, beq_self_eq_true, Bool.and_self]

/-! ## What is reported -/

/-- The finding about an array that is run over more than once. -/
def repeatedRun (call : Node) : Finding :=
  .plain call .info "MULTIPLE_ITERATIONS"
    "Multiple array iterations detected - consider combining operations"

theorem mem_multipleIterations_iff (d : Document) (n : Node) (f : Finding) :
    f ∈ multipleIterations d n ↔ (n.kind = "call_expression" ∧ d.callMethod n ∈ iterationMethods ∧
      isChained n = true) ∧ f = repeatedRun n := by
  rw [multipleIterations, List.mem_ite_nil_right, List.mem_singleton, Bool.and_eq_true,
    Bool.and_eq_true, decide_eq_true_eq, List.contains_iff_mem, and_assoc (a := n.kind = _)]
  rfl

theorem reports_multipleIterations_iff (longest : Number) :
    (Family.performance longest).Reports "MULTIPLE_ITERATIONS" d call ↔
      d.root.Reaches call ∧ call.kind = "call_expression" ∧ d.callMethod call ∈ iterationMethods ∧
        ∃ access outer, IsChainedTo call access outer := by
  rw [(hasRule_multipleIterations longest d).reports_iff_applies (mem_multipleIterations_iff d)]
  refine and_congr_right fun hreaches => ?_
  rw [isChained_iff hreaches]

/-- **Repeated runs over an array are reported wherever any method is called on the result of the first.**
A node is reported if it is reached and is a call of a method that runs over an array, and any method is
called on its result; this method is the property of the access between the two calls, and the call of it
is the only one there. The report does not depend on the method: in every text with the same tree in which
the node calls the same method, it is the same, whatever is called on the result there. -/
theorem multipleIterations_iff (longest : Number) (d : Document) (call : Node) :
    ((Family.performance longest).Reports "MULTIPLE_ITERATIONS" d call ↔
      d.root.Reaches call ∧ call.kind = "call_expression" ∧ d.callMethod call ∈ iterationMethods ∧
        ∃ access outer, IsChainedTo call access outer ∧
          d.callMethod outer = d.text? (access.child? "property") ∧
          ∀ access' outer', IsChainedTo call access' outer' → outer' = outer) ∧
    (∀ f ∈ (Family.performance longest).findings d, f.code = "MULTIPLE_ITERATIONS" → f.node = call →
      f = repeatedRun call) ∧
    ∀ d' : Document, d'.tree = d.tree → d'.callMethod call = d.callMethod call →
      ((Family.performance longest).Reports "MULTIPLE_ITERATIONS" d' call ↔
        (Family.performance longest).Reports "MULTIPLE_ITERATIONS" d call) := by
  refine ⟨?_, ?_, ?_⟩
  · rw [reports_multipleIterations_iff]
    refine and_congr_right fun _ => and_congr_right fun _ => and_congr_right fun _ => ?_
    refine exists_congr fun access => exists_congr fun outer => ⟨fun h => ?_, And.left⟩
    exact ⟨h, h.callMethod_eq, fun access' outer' h' => (h'.unique h).2⟩
  · rintro f hf hcode rfl
    exact (hasRule_multipleIterations longest d).eq_finding (mem_multipleIterations_iff d) f hf hcode
  · intro d' htree hmethod
    rw [reports_multipleIterations_iff, reports_multipleIterations_iff, hmethod, Document.root,
      Document.root, htree]

/-- A run over an array whose result is put together to a text. -/
def joining : Document where
  bytes := Utf8.encode "xs.map(f).join(y)".toList
  tree := .node ⟨"program", true, false, false, false, 0, 17, none⟩
    [.node ⟨"call_expression", true, false, false, false, 0, 17, none⟩
      [.node ⟨"member_expression", true, false, false, false, 0, 14, some "function"⟩
        [.node ⟨"call_expression", true, false, false, false, 0, 9, some "object"⟩
          [.node ⟨"member_expression", true, false, false, false, 0, 6, some "function"⟩
            [.node ⟨"identifier", true, false, false, false, 0, 2, some "object"⟩ [],
              .node ⟨"property_identifier", true, false, false, false, 3, 6, some "property"⟩ []],
            .node ⟨"arguments", true, false, false, false, 6, 9, some "arguments"⟩
              [.node ⟨"identifier", true, false, false, false, 7, 8, none⟩ []]],
          .node ⟨"property_identifier", true, false, false, false, 10, 14, some "property"⟩ []],
        .node ⟨"arguments", true, false, false, false, 14, 17, some "arguments"⟩
          [.node ⟨"identifier", true, false, false, false, 15, 16, none⟩ []]]]

theorem isChainedTo_joining : ∃ call access outer, joining.root.Reaches call ∧
    call.kind = "call_expression" ∧ joining.callMethod call = "map" ∧ IsChainedTo call access outer ∧
    joining.callMethod outer = "join" := by
  obtain ⟨outer, houter⟩ : ∃ outer, joining.root.namedChildren = [outer] := ⟨_, rfl⟩
  obtain ⟨access, arguments, haccess⟩ : ∃ access arguments,
      outer.namedChildren = [access, arguments] := by
    cases houter
    exact ⟨_, _, rfl⟩
  obtain ⟨call, property, hcall⟩ : ∃ call property, access.namedChildren = [call, property] := by
    cases houter
    cases haccess
    exact ⟨_, _, rfl⟩
  have htop : joining.root.Reaches joining.root := .refl
  have hreaches : joining.root.Reaches call := ((htop.first houter).first haccess).first hcall
  refine ⟨call, access, outer, hreaches, ?_⟩
  cases houter
  cases haccess
  cases hcall
  exact ⟨rfl, by decide, ⟨rfl, rfl, rfl, rfl⟩, by decide⟩

/-- The array is run over once, and the run is reported. -/
theorem multipleIterations_joining : ∃ call access outer, IsChainedTo call access outer ∧
    joining.callMethod call = "map" ∧ joining.callMethod outer = "join" ∧
    (Family.performance (.whole 50)).Reports "MULTIPLE_ITERATIONS" joining call := by
  obtain ⟨call, access, outer, hreaches, hkind, hcall, hchained, houter⟩ := isChainedTo_joining
  obtain ⟨hreports, -, -⟩ := multipleIterations_iff (.whole 50) joining call
  refine ⟨call, access, outer, hchained, hcall, houter, hreports.2 ⟨hreaches, hkind, ?_, ?_⟩⟩
  · rw [hcall]
    decide
  · exact ⟨access, outer, hchained, hchained.callMethod_eq,
      fun access' outer' h' => (h'.unique hchained).2⟩

end Performance

end ScriptAudit
