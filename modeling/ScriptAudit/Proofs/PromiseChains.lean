import ScriptAudit.Proofs.ArrayPipelines
import ScriptAudit.Proofs.UnhandledPromises

/-!
# Chains of promises

The rule about unhandled promises takes a call as handled if a further `then` is called on its result, and
as well if a `then` is called somewhere inside of it. On a chain of such calls, each made on the result of the
one before, the two go together: all calls but the last are handled by the next one, and the last by those
inside. So one call alone is reported, and a longer chain is silent.

- `Logic.StacksThen`: one call calls `then` on the result of another.
- `Logic.ThenChain`: such calls, one on the other. `Logic.ThenChain.mem_or_reaches`: all calls in a chain are
  its own, or are where it starts.
- `Logic.ThenChain.exists_takesCare`, `Logic.ThenChain.not_noneInside`: **each call of a chain but the last is
  taken care of outside, and the last one inside if there are others.**
- `Logic.IsBareChain`: a chain that nothing waits for and nothing is chained onto, without any `catch` in it.
- `Logic.reports_thenChain_iff`: **of all the calls in such a chain, the last is reported if it is the only
  one, and no call is reported otherwise.**
-/

namespace ScriptAudit

/-- What leads to a node that is reached is reached. -/
theorem Node.Reaches.above {tree : Tree} {n m : Node} (h : (root tree).Reaches m) (hm : n.Reaches m) :
    (root tree).Reaches n := by
  induction hm with
  | refl => exact h
  | tail _ hchild ih => exact ih (h.parent (parent?_eq hchild)).1

namespace Logic

open Node Performance Vocabulary

variable {d : Document} {start below call last m : Node} {calls : List Node}

/-! ## One call on the other -/

/-- Whether a call is a call of `then` on something, which may be in parentheses. All other calls in it are
there, so there are none in its arguments. -/
structure StacksThen (d : Document) (below call : Node) : Prop where
  exists_chained : ∃ object access, IsChainedTo object access call ∧ object.Encloses below
  callMethod_eq : d.callMethod call = "then"
  inside : ∀ m, call.IsAbove m → m.kind = "call_expression" → below.Reaches m

namespace StacksThen

theorem kind_eq (h : StacksThen d below call) : call.kind = "call_expression" := by
  obtain ⟨_, _, hchained, -⟩ := h.exists_chained
  exact hchained.kind_outer

theorem callsMethod {names : List String} (h : StacksThen d below call) (hnames : "" ∉ names)
    (hthen : "then" ∈ names) : CallsMethod d call names := by
  rw [← callMethod_mem_iff hnames, h.callMethod_eq]
  exact hthen

theorem givesPromise (h : StacksThen d below call) : GivesPromise d call := by
  obtain ⟨callee, hcallee, haccess⟩ : CallsMethod d call promiseMethods :=
    h.callsMethod (by decide) (by decide)
  exact ⟨callee, hcallee, haccess.1, .inl haccess⟩

/-- What the call is made on is taken care of by it. -/
theorem exists_takesCare (h : StacksThen d below call) :
    ∃ above : Node, above.IsOutside below ∧ TakesCare d above := by
  obtain ⟨object, access, hchained, hencloses⟩ := h.exists_chained
  refine ⟨access, outer?_eq_some_iff.1 ?_, ?_, call, ?_, hchained.kind_outer⟩
  · have hkind : access.kind ≠ parenthesesKind := by
      rw [hchained.kind_access]
      decide
    obtain ⟨index, tree, -, rfl⟩ := mem_children_iff.1 (mem_children_of_child? hchained.object)
    rw [outer?_eq_parent?, hencloses.wrapped_eq, ← outer?_eq_parent?, outer?, if_neg hkind]
  · obtain ⟨callee, hcallee, haccess⟩ : CallsMethod d call promiseHandlers :=
      h.callsMethod (by decide) (by decide)
    cases hchained.callee.symm.trans hcallee
    exact haccess
  · exact parent?_of_mem_children (mem_children_of_child? hchained.callee)

/-- If a walk comes to what the call is made on, it came through the call. -/
theorem isAbove (h : StacksThen d below call) (hbelow : d.root.Reaches below) :
    d.root.Reaches call ∧ call.IsAbove below := by
  obtain ⟨object, access, hchained, hencloses⟩ := h.exists_chained
  obtain ⟨haccess, hobject⟩ := (hbelow.above hencloses.reaches).parent
    (parent?_of_mem_children (mem_children_of_child? hchained.object))
  obtain ⟨hcall, hcallee⟩ := haccess.parent
    (parent?_of_mem_children (mem_children_of_child? hchained.callee))
  exact ⟨hcall, access, hcallee, hencloses.reaches.head hobject⟩

end StacksThen

/-! ## Any number of them -/

/-- Whether nodes are calls of `then`, each on the result of the next one in the list, and the last one in
the list on what they start from. -/
inductive ThenChain (d : Document) (start : Node) : List Node → Prop
  | single {call : Node} (h : StacksThen d start call) : ThenChain d start [call]
  | further {below call : Node} {calls : List Node} (chain : ThenChain d start (below :: calls))
      (h : StacksThen d below call) : ThenChain d start (call :: below :: calls)

namespace ThenChain

theorem givesPromise (h : ThenChain d start calls) :
    ∀ call ∈ calls, call.kind = "call_expression" ∧ GivesPromise d call := by
  induction h with
  | single h => exact List.forall_mem_singleton.2 ⟨h.kind_eq, h.givesPromise⟩
  | further _ h ih => exact List.forall_mem_cons.2 ⟨⟨h.kind_eq, h.givesPromise⟩, ih⟩

theorem reaches (h : ThenChain d start calls) (hstart : d.root.Reaches start) :
    ∀ call ∈ calls, d.root.Reaches call := by
  induction h with
  | single h => exact List.forall_mem_singleton.2 (h.isAbove hstart).1
  | further _ h ih =>
    exact List.forall_mem_cons.2 ⟨(h.isAbove (ih _ List.mem_cons_self)).1, ih⟩

/-- Every call in a chain is one of its calls, or is in what it starts from. -/
theorem mem_or_reaches (h : ThenChain d start (last :: calls)) (hm : last.Reaches m)
    (hkind : m.kind = "call_expression") : m ∈ last :: calls ∨ start.Reaches m := by
  -- Along the chain: a call inside the last one is found from the one before on.
  generalize hall : last :: calls = all at h
  induction h generalizing last calls with
  | single h =>
    cases hall
    rcases reaches_iff.1 hm with rfl | habove
    · exact .inl List.mem_cons_self
    · exact .inr (h.inside m habove hkind)
  | further chain h ih =>
    cases hall
    rcases reaches_iff.1 hm with rfl | habove
    · exact .inl List.mem_cons_self
    · exact (ih (h.inside m habove hkind) rfl).imp_left (List.mem_cons_of_mem _)

/-- Each call but the last is taken care of by the one that is made on its result. -/
theorem exists_takesCare (h : ThenChain d start (last :: calls)) :
    ∀ call ∈ calls, ∃ above : Node, above.IsOutside call ∧ TakesCare d above := by
  generalize hall : last :: calls = all at h
  induction h generalizing last calls with
  | single _ =>
    cases hall
    exact List.forall_mem_nil _
  | further chain h ih =>
    cases hall
    exact List.forall_mem_cons.2 ⟨h.exists_takesCare, ih rfl⟩

/-- In the last one there is a call that takes care of it, unless it is the only one. -/
theorem not_noneInside (h : ThenChain d start (last :: calls)) (hstart : d.root.Reaches start)
    (hcalls : calls ≠ []) : ¬NoneInside d last := by
  intro hnone
  cases h with
  | single _ => exact hcalls rfl
  | @further below _ calls chain h =>
    have hmem : below ∈ below :: calls := List.mem_cons_self
    have hinside := (h.isAbove (chain.reaches hstart below hmem)).2
    have hthen : CallsMethod d below promiseHandlers := by
      cases chain with
      | single h => exact h.callsMethod (by decide) (by decide)
      | further _ h => exact h.callsMethod (by decide) (by decide)
    exact hnone below hinside (chain.givesPromise below hmem).1 hthen

/-- **No call of a longer chain is unhandled.** -/
theorem not_isUnhandled (h : ThenChain d start (last :: calls)) (hstart : d.root.Reaches start)
    (hcalls : calls ≠ []) : ∀ call ∈ last :: calls, ¬IsUnhandled d call := by
  refine List.forall_mem_cons.2 ⟨fun hunhandled => ?_, fun call hcall hunhandled => ?_⟩
  · exact h.not_noneInside hstart hcalls hunhandled.noneInside
  · obtain ⟨above, houtside, hcare⟩ := h.exists_takesCare call hcall
    exact hunhandled.notChained above houtside hcare

end ThenChain

/-! ## What is reported of a chain -/

/-- Whether a chain is left to itself: nothing waits for its last call, and nothing further is called on
it that takes care of a promise. What it starts from gives no promise, and has no `catch` in it. -/
structure IsBareChain (d : Document) (start last : Node) (calls : List Node) : Prop where
  chain : ThenChain d start (last :: calls)
  reaches : d.root.Reaches start
  noPromise : ∀ m, start.Reaches m → m.kind = "call_expression" → ¬GivesPromise d m
  noCatch : ∀ m, start.Reaches m → m.kind = "call_expression" → ¬CallsMethod d m ["catch"]
  notAwaited : ∀ above : Node, above.IsOutside last → above.kind ≠ "await_expression"
  notChained : ∀ above : Node, above.IsOutside last → ¬TakesCare d above

/-- A single call of `then` has nothing inside that would take care of it. -/
theorem IsBareChain.isUnhandled (h : IsBareChain d start last []) : IsUnhandled d last := by
  refine ⟨(h.chain.givesPromise last List.mem_cons_self).2, h.notAwaited, h.notChained, ?_⟩
  intro inner habove hkind hcalls
  -- All that is inside is where the chain starts, and there nothing is a `then`, since that gives a promise.
  have hinner : start.Reaches inner := by
    cases h.chain with
    | single h => exact h.inside inner habove hkind
  obtain ⟨callee, hcallee, haccess, property, hproperty, hmem⟩ := hcalls
  rcases List.mem_cons.1 hmem with hthen | hcatch
  · refine h.noPromise inner hinner hkind ⟨callee, hcallee, haccess, .inl ⟨haccess, property, hproperty, ?_⟩⟩
    rw [hthen]
    decide
  · exact h.noCatch inner hinner hkind ⟨callee, hcallee, haccess, property, hproperty, hcatch⟩

/-- **A chain that is left to itself is reported if it has one call, and only there.** In a longer one no
call is reported: each is taken care of by the `then` that is called on it, and the last by those inside. -/
theorem reports_thenChain_iff (h : IsBareChain d start last calls) (hm : last.Reaches m) :
    Family.logic.Reports "UNHANDLED_PROMISE" d m ↔ m = last ∧ calls = [] := by
  rw [reports_unhandledPromise_iff]
  constructor
  · rintro ⟨-, hkind, hunhandled⟩
    rcases h.chain.mem_or_reaches hm hkind with hmem | hstart
    · by_cases hcalls : calls = []
      · subst hcalls
        exact ⟨List.mem_singleton.1 hmem, rfl⟩
      · exact absurd hunhandled (h.chain.not_isUnhandled h.reaches hcalls m hmem)
    · exact absurd hunhandled.givesPromise (h.noPromise m hstart hkind)
  · rintro ⟨rfl, rfl⟩
    have hmem : m ∈ [m] := List.mem_singleton_self m
    exact ⟨h.chain.reaches h.reaches m hmem, (h.chain.givesPromise m hmem).1, h.isUnhandled⟩

/-- A call of `then` on what stands from the start of a text to an offset. -/
def thenOn (inner : Tree) (stop : Nat) (role : Option String) : Tree :=
  .node ⟨"call_expression", true, false, false, false, 0, stop + 8, role⟩
    [.node ⟨"member_expression", true, false, false, false, 0, stop + 5, some "function"⟩
      [inner,
        .node ⟨"property_identifier", true, false, false, false, stop + 1, stop + 5, some "property"⟩ []],
      .node ⟨"arguments", true, false, false, false, stop + 5, stop + 8, some "arguments"⟩
        [.node ⟨"identifier", true, false, false, false, stop + 6, stop + 7, none⟩ []]]

/-- A name at the start of a text. -/
def promised : Tree :=
  .node ⟨"identifier", true, false, false, false, 0, 1, some "object"⟩ []

/-- One call of `then`. -/
def chainingOnce : Document where
  bytes := Utf8.encode "p.then(f);".toList
  tree := .node ⟨"program", true, false, false, false, 0, 10, none⟩
    [.node ⟨"expression_statement", true, false, false, false, 0, 10, none⟩
      [thenOn promised 1 none, .node ⟨";", false, false, false, false, 9, 10, none⟩ []]]

/-- The call. What it is made on is two steps below. -/
def onlyCall : Node :=
  chainingOnce.root.descend [0, 0]

/-- Two calls of `then`, one on the other. -/
def chainingTwice : Document where
  bytes := Utf8.encode "p.then(f).then(g);".toList
  tree := .node ⟨"program", true, false, false, false, 0, 18, none⟩
    [.node ⟨"expression_statement", true, false, false, false, 0, 18, none⟩
      [thenOn (thenOn promised 1 (some "object")) 9 none,
        .node ⟨";", false, false, false, false, 17, 18, none⟩ []]]

/-- The outer one of the calls. -/
def secondCall : Node :=
  chainingTwice.root.descend [0, 0]

/-- The inner one. -/
def firstCall : Node :=
  secondCall.descend [0, 0]

/-- A chain that is a statement and starts from a name is left to itself. -/
theorem isBareChain_of_statement (hchain : ThenChain d start (last :: calls))
    (hreaches : d.root.Reaches start) (hstart : start.tree = promised)
    (hlast : last.outer?.any (·.kind == "expression_statement") = true) :
    IsBareChain d start last calls := by
  -- A name has no calls below it, so nothing is seen inside what the chain starts from.
  have hcalls (m : Node) (hm : start.Reaches m) : m.kind ≠ "call_expression" := by
    rcases reaches_iff.1 hm with rfl | ⟨child, hchild, -⟩
    · rw [kind, label, hstart]
      decide
    · rw [namedChildren, children, hstart] at hchild
      cases hchild
  -- Around the last call there is a statement, and that is neither a call nor a member.
  have houtside (above : Node) (habove : above.IsOutside last) : above.kind = "expression_statement" := by
    rw [outer?_eq_some_iff.2 habove] at hlast
    exact beq_iff_eq.1 hlast
  refine ⟨hchain, hreaches, fun m hm hkind => absurd hkind (hcalls m hm),
    fun m hm hkind => absurd hkind (hcalls m hm), fun above habove => ?_, fun above habove hcare => ?_⟩
  · rw [houtside above habove]
    decide
  · exact absurd (hcare.1.1.symm.trans (houtside above habove)) (by decide)

theorem isBareChain_once : IsBareChain chainingOnce (onlyCall.descend [0, 0]) onlyCall [] := by
  have hchained : IsChainedTo (onlyCall.descend [0, 0]) (onlyCall.descend [0]) onlyCall :=
    ⟨rfl, rfl, rfl, rfl⟩
  have hreaches : chainingOnce.root.Reaches (onlyCall.descend [0, 0]) :=
    (reaches_descend _ _).trans (reaches_descend _ _)
  refine isBareChain_of_statement (.single ⟨⟨_, _, hchained, .bare⟩, by decide, ?_⟩) hreaches rfl rfl
  intro m habove hkind
  cases habove.mem_preorder hkind

theorem isBareChain_twice :
    IsBareChain chainingTwice (firstCall.descend [0, 0]) secondCall [firstCall] := by
  have hfirst : IsChainedTo (firstCall.descend [0, 0]) (firstCall.descend [0]) firstCall :=
    ⟨rfl, rfl, rfl, rfl⟩
  have hsecond : IsChainedTo firstCall (secondCall.descend [0]) secondCall := ⟨rfl, rfl, rfl, rfl⟩
  have hreaches : chainingTwice.root.Reaches (firstCall.descend [0, 0]) :=
    ((reaches_descend _ _).trans (reaches_descend _ _)).trans (reaches_descend _ _)
  refine isBareChain_of_statement (.further (.single ⟨⟨_, _, hfirst, .bare⟩, by decide, ?_⟩)
    ⟨⟨_, _, hsecond, .bare⟩, by decide, ?_⟩) hreaches rfl rfl
  · intro m habove hkind
    cases habove.mem_preorder hkind
  · intro m habove hkind
    cases habove.mem_preorder hkind with
    | head => exact .refl
    | tail _ hm => cases hm

/-- A chain of one call is reported. -/
theorem reports_thenChain_once : IsBareChain chainingOnce (onlyCall.descend [0, 0]) onlyCall [] ∧
    Family.logic.Reports "UNHANDLED_PROMISE" chainingOnce onlyCall :=
  ⟨isBareChain_once, (reports_thenChain_iff isBareChain_once .refl).2 ⟨rfl, rfl⟩⟩

/-- A chain of two calls is not reported, even though nothing waits for it or catches what goes wrong. -/
theorem not_reports_thenChain_twice :
    IsBareChain chainingTwice (firstCall.descend [0, 0]) secondCall [firstCall] ∧
    chainingTwice.root.contains ["await_expression"] = false ∧
    ¬∃ call ∈ [secondCall, firstCall], Family.logic.Reports "UNHANDLED_PROMISE" chainingTwice call := by
  refine ⟨isBareChain_twice, ?_, ?_⟩
  · rw [contains, innerOfKind, descendants_eq]
    rfl
  · rintro ⟨call, hcall, hreports⟩
    have hunhandled := (reports_unhandledPromise_iff.1 hreports).2.2
    exact isBareChain_twice.chain.not_isUnhandled isBareChain_twice.reaches (List.cons_ne_nil _ _) call hcall
      hunhandled

end Logic

end ScriptAudit
