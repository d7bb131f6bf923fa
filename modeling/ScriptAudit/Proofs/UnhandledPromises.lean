import ScriptAudit.Proofs.RuleFindings
import ScriptAudit.Proofs.SubtreeReadings

/-!
# Promises that nobody handles

The rule about unhandled promises looks at a call, at the nearest node above it that is no pair of
parentheses, and at all calls below it. How many parentheses there are in between makes no difference.

- `Node.IsOutside`, `Node.outer?_eq_some_iff`: the nearest node above that is no pair of parentheses.
- `Node.wrapped`, `Node.Encloses`: a node with the parentheses around it, and layers of parentheses around
  a node. `Node.Encloses.wrapped_eq`: what is around the layers is around the node.
- `Node.Parenthesized`: a call of one document that stands in any layers of parentheses in another one, with
  the same around them.
- `Logic.IsUnhandled`: a promise that is neither awaited nor taken care of.
- `Logic.unhandledPromise_iff`: **these are the calls that are reported, and parentheses around a call change
  nothing.**
-/

namespace ScriptAudit

theorem Text.contains_iff {part text : List Char} : Text.contains part text = true ↔ part <:+: text := by
  induction text with
  | nil => simp [Text.contains]
  | cons c text ih =>
    rw [Text.contains, Bool.or_eq_true, List.isPrefixOf_iff_prefix, ih, List.infix_cons_iff]

namespace Node

variable {d d' : Document} {n n' m above call call' : Node}

/-! ## Outside of parentheses -/

/-- Whether a node is the nearest one above another that is no pair of parentheses. -/
def IsOutside (above n : Node) : Prop :=
  ∃ layers rest, n.ancestors = layers ++ above :: rest ∧
    (∀ layer ∈ layers, layer.kind = parenthesesKind) ∧ above.kind ≠ parenthesesKind

theorem outer?_eq_find? (n : Node) : n.outer? = n.ancestors.find? (·.kind != parenthesesKind) := by
  induction n with
  | root tree => rfl
  | child parent index tree ih =>
    rw [outer?, ancestors, List.find?_cons, ih]
    by_cases hkind : parent.kind = parenthesesKind
    · simp [hkind]
    · have hne : (parent.kind != parenthesesKind) = true := bne_iff_ne.2 hkind
      rw [if_neg hkind, hne]

theorem outer?_eq_some_iff : n.outer? = some above ↔ above.IsOutside n := by
  rw [outer?_eq_find?, List.find?_eq_some_iff_append]
  simp only [bne_iff_ne, Bool.not_eq_true', bne_eq_false_iff_eq]
  constructor
  · rintro ⟨hkind, layers, rest, hancestors, hlayers⟩
    exact ⟨layers, rest, hancestors, hlayers, hkind⟩
  · rintro ⟨layers, rest, hancestors, hlayers, hkind⟩
    exact ⟨hkind, layers, rest, hancestors, hlayers⟩

/-- A node together with the parentheses directly around it. -/
def wrapped : Node → Node
  | root tree => root tree
  | child parent index tree =>
    if parent.kind = parenthesesKind then parent.wrapped else child parent index tree

theorem outer?_eq_parent? (n : Node) : n.outer? = n.wrapped.parent? := by
  induction n with
  | root tree => rfl
  | child parent index tree ih =>
    rw [outer?, wrapped]
    split
    · exact ih
    · rfl

/-- Whether layers of parentheses stand around a node, any number of them. -/
inductive Encloses : Node → Node → Prop
  | bare {n : Node} : Encloses n n
  | layer {n inside m : Node} (hkind : n.kind = parenthesesKind) (hinside : inside ∈ n.namedChildren)
      (hencloses : Encloses inside m) : Encloses n m

theorem Encloses.reaches (h : n.Encloses m) : n.Reaches m := by
  induction h with
  | bare => exact .refl
  | layer _ hinside _ ih => exact .head hinside ih

/-- What is around the layers is around the node. -/
theorem Encloses.wrapped_eq (h : n.Encloses m) : m.wrapped = n.wrapped := by
  induction h with
  | bare => rfl
  | layer hkind hinside _ ih =>
    obtain ⟨index, tree, -, rfl⟩ := mem_children_iff.1 (List.mem_of_mem_filter hinside)
    rw [ih, wrapped, if_pos hkind]

theorem SameAround.wrapped (h : SameAround d d' n n') : SameAround d d' n.wrapped n'.wrapped := by
  induction h with
  | start => exact .start
  | step above kind here here' standing earlier later ih =>
    rw [Node.wrapped, Node.wrapped, kind]
    split
    · exact ih
    · exact .step above kind here here' standing earlier later

/-- Whether a call of one document stands in another one in layers of parentheses, with the same around
them. The call says what it said, and so does all that is beside it. What is above covers the parentheses
and may say anything, except in a place where no call can be: the name of a property stays what it was. -/
structure Parenthesized (d d' : Document) (call call' : Node) : Prop where
  reading_eq : call.reading d = call'.reading d'
  exists_layer : ∃ layer, SameAround d d' call layer ∧ layer.Encloses call'
  name_eq : call.wrapped.label.field = some "property" → d.text call.wrapped = d'.text call'.wrapped

theorem Parenthesized.reaches (h : Parenthesized d d' call call') (hcall : d.root.Reaches call) :
    d'.root.Reaches call' := by
  obtain ⟨layer, haround, hencloses⟩ := h.exists_layer
  exact (haround.reaches hcall).trans hencloses.reaches

/-- Around the parentheses is what was around the call. -/
theorem Parenthesized.sameAround (h : Parenthesized d d' call call') :
    SameAround d d' call.wrapped call'.wrapped := by
  obtain ⟨layer, haround, hencloses⟩ := h.exists_layer
  rw [hencloses.wrapped_eq]
  exact haround.wrapped

end Node

namespace Logic

open Node Vocabulary

variable {d d' : Document} {n n' m above call call' : Node} {names : List String}

/-! ## What the rule asks for -/

/-- Whether a node is an access to a property with one of some names. -/
def Accesses (d : Document) (n : Node) (names : List String) : Prop :=
  n.kind = "member_expression" ∧ ∃ property, n.child? "property" = some property ∧ d.text property ∈ names

/-- Whether a call calls a method with one of some names. -/
def CallsMethod (d : Document) (call : Node) (names : List String) : Prop :=
  ∃ callee, call.callee? = some callee ∧ Accesses d callee names

theorem memberProperty_mem_iff (hnames : "" ∉ names) :
    d.memberProperty (some n) ∈ names ↔ Accesses d n names := by
  show (if n.kind = "member_expression" then d.text? (n.child? "property") else "") ∈ names ↔ _
  by_cases hkind : n.kind = "member_expression"
  · rw [if_pos hkind, Accesses, and_iff_right hkind]
    cases hproperty : n.child? "property" with
    | none => simpa [Document.text?] using hnames
    | some property => simp [Document.text?]
  · rw [if_neg hkind]
    exact iff_of_false hnames fun h => hkind h.1

theorem callMethod_mem_iff (hnames : "" ∉ names) : d.callMethod call ∈ names ↔ CallsMethod d call names := by
  rw [Document.callMethod, CallsMethod]
  cases hcallee : call.callee? with
  | none =>
    refine iff_of_false hnames ?_
    rintro ⟨callee, hnone, -⟩
    cases hnone
  | some callee => simp [memberProperty_mem_iff hnames]

/-- Whether a call gives a promise: it calls a method that does so, or any method of an object that is named
like a client. -/
def GivesPromise (d : Document) (call : Node) : Prop :=
  ∃ callee, call.callee? = some callee ∧ callee.kind = "member_expression" ∧
    (Accesses d callee promiseMethods ∨ ∃ object, callee.child? "object" = some object ∧
      object.kind = "identifier" ∧ ∃ part ∈ promiseReceivers, part.toList <:+: (d.text object).toList)

/-- Whether a node is an access to a method that takes care of a promise, and is called directly. -/
def TakesCare (d : Document) (n : Node) : Prop :=
  Accesses d n promiseHandlers ∧ ∃ outer, n.parent? = some outer ∧ outer.kind = "call_expression"

/-- Whether no call below another one takes care of its promise. -/
def NoneInside (d : Document) (call : Node) : Prop :=
  ∀ inner, call.IsAbove inner → inner.kind = "call_expression" → ¬CallsMethod d inner promiseHandlers

/-- Whether a call gives a promise that is neither awaited nor taken care of, outside of the call or in a
call below it. -/
structure IsUnhandled (d : Document) (call : Node) : Prop where
  givesPromise : GivesPromise d call
  notAwaited : ∀ above : Node, above.IsOutside call → above.kind ≠ "await_expression"
  notChained : ∀ above : Node, above.IsOutside call → ¬TakesCare d above
  noneInside : NoneInside d call

theorem isPromiseCall_iff : isPromiseCall d call = true ↔ GivesPromise d call := by
  -- What has no name has the empty one, which is none of the methods and holds no part of a client's name.
  have hreceivers : "" ∉ promiseReceivers := by decide
  have hmethods : "" ∉ promiseMethods := by decide
  rw [isPromiseCall, Bool.and_eq_true, Bool.or_eq_true, List.contains_iff_mem, List.any_eq_true,
    callMethod_mem_iff hmethods]
  simp only [Text.contains_iff, GivesPromise, CallsMethod, Document.receiverName]
  cases hcallee : call.callee? with
  | none => simp
  | some callee =>
    simp only [Option.any_some, beq_iff_eq, Option.some.injEq, exists_eq_left', Option.bind_some]
    refine and_congr_right fun hkind => or_congr_right ?_
    rw [memberObject?, if_pos hkind]
    cases hobject : callee.child? "object" with
    | none => simpa [Document.identifierText] using hreceivers
    | some object =>
      simp only [Document.identifierText, isIdentifier, Option.some.injEq, exists_eq_left', beq_iff_eq]
      by_cases hidentifier : object.kind = "identifier"
      · simp [hidentifier]
      · simpa [hidentifier] using hreceivers

theorem isHandlerAccess_iff : isHandlerAccess d n = true ↔ TakesCare d n := by
  have hhandlers : "" ∉ promiseHandlers := by decide
  have haccess : (n.kind = "member_expression" ∧ Accesses d n promiseHandlers) ↔
      Accesses d n promiseHandlers := and_iff_right_of_imp And.left
  rw [isHandlerAccess, Bool.and_eq_true, Bool.and_eq_true, beq_iff_eq, List.contains_iff_mem,
    memberProperty_mem_iff hhandlers, haccess, TakesCare, Option.any_eq_true]
  simp only [beq_iff_eq]

/-- The finding about a promise that nobody handles. -/
def unhandled (call : Node) : Finding :=
  .plain call .error "UNHANDLED_PROMISE" "Unhandled promise - use await or .catch()"

theorem isHandled_eq_false_iff : isHandled d call = false ↔
    call.outer?.any (isHandlerAccess d) = false ∧ NoneInside d call := by
  have hhandlers : "" ∉ promiseHandlers := by decide
  rw [isHandled, Bool.or_eq_false_iff, List.any_eq_false]
  refine and_congr_right fun _ => ?_
  simp only [mem_innerOfKind, List.mem_singleton, and_imp, List.contains_iff_mem,
    callMethod_mem_iff hhandlers]
  rfl

theorem isUnhandled_iff : IsUnhandled d call ↔ isPromiseCall d call = true ∧
    call.outer?.any (·.kind == "await_expression") = false ∧
    call.outer?.any (isHandlerAccess d) = false ∧ NoneInside d call := by
  -- The node outside the call is found by looking upwards, and there is one at most.
  have hawaited : call.outer?.any (·.kind == "await_expression") = false ↔
      ∀ above : Node, above.IsOutside call → above.kind ≠ "await_expression" := by
    rw [Option.any_eq_false]
    simp only [outer?_eq_some_iff, beq_eq_false_iff_ne]
  have hchained : call.outer?.any (isHandlerAccess d) = false ↔
      ∀ above : Node, above.IsOutside call → ¬TakesCare d above := by
    rw [Option.any_eq_false]
    simp only [outer?_eq_some_iff, ← Bool.not_eq_true, isHandlerAccess_iff]
  rw [isPromiseCall_iff, hawaited, hchained]
  constructor
  · rintro ⟨hpromise, hnotAwaited, hnotChained, hnoneInside⟩
    exact ⟨hpromise, hnotAwaited, hnotChained, hnoneInside⟩
  · rintro ⟨hpromise, hnotAwaited, hnotChained, hnoneInside⟩
    exact ⟨hpromise, hnotAwaited, hnotChained, hnoneInside⟩

theorem mem_unhandledPromise_iff (d : Document) (n : Node) (f : Finding) :
    f ∈ unhandledPromise d n ↔ (n.kind = "call_expression" ∧ IsUnhandled d n) ∧ f = unhandled n := by
  rw [unhandledPromise, List.mem_ite_nil_right, List.mem_singleton, Bool.and_eq_true, Bool.and_eq_true,
    Bool.and_eq_true, decide_eq_true_eq, Bool.not_eq_true', Bool.not_eq_true', isHandled_eq_false_iff,
    isUnhandled_iff, and_assoc (a := n.kind = _), and_assoc (a := n.kind = _),
    and_assoc (a := isPromiseCall d n = true)]
  rfl

theorem reports_unhandledPromise_iff : Family.logic.Reports "UNHANDLED_PROMISE" d call ↔
    d.root.Reaches call ∧ call.kind = "call_expression" ∧ IsUnhandled d call :=
  (hasRule_unhandledPromise d).reports_iff_applies (mem_unhandledPromise_iff d)

/-! ## Parentheses around a call -/

theorem isPromiseCall_congr (h : n.reading d = n'.reading d') : isPromiseCall d n = isPromiseCall d' n' := by
  have hcallee : n.callee?.any (·.kind == "member_expression")
      = n'.callee?.any (·.kind == "member_expression") := by
    rcases Document.absent_or_same (child?_congr h "function") with
      ⟨hn, hn'⟩ | ⟨callee, callee', hn, hn', hsame⟩
    · rw [callee?, callee?, hn, hn', Option.any_none]
    · rw [callee?, callee?, hn, hn', Option.any_some, Option.any_some, kind_congr hsame]
  rw [isPromiseCall, isPromiseCall, hcallee, Document.callMethod_congr h, Document.receiverName_congr h]

/-- Whether a promise is taken care of below a call depends on what the call says. -/
theorem noneInside_congr (h : n.reading d = n'.reading d') : NoneInside d n ↔ NoneInside d' n' := by
  have hhandlers : "" ∉ promiseHandlers := by decide
  have hsame (m m' : Node) (hreading : m.reading d = m'.reading d') :
      m.kind = "call_expression" ∧ CallsMethod d m promiseHandlers ↔
        m'.kind = "call_expression" ∧ CallsMethod d' m' promiseHandlers := by
    rw [kind_congr hreading, ← callMethod_mem_iff hhandlers, ← callMethod_mem_iff hhandlers,
      Document.callMethod_congr hreading]
  have hnot := not_congr (exists_isAbove_congr hsame h)
  simp only [not_exists, not_and] at hnot
  exact hnot

theorem any_parent?_of_sameAround (h : SameAround d d' n n') (p : String → Bool) :
    n.parent?.any (p ·.kind) = n'.parent?.any (p ·.kind) := by
  cases h with
  | start => rfl
  | step _ kind _ _ _ _ _ =>
    show p _ = p _
    rw [kind]

/-- The nearest node outside of all parentheses waits for the promise, or takes care of it, in both
documents or in none. -/
theorem outer?_of_parenthesized (h : Parenthesized d d' call call') :
    call.outer?.any (·.kind == "await_expression") = call'.outer?.any (·.kind == "await_expression") ∧
      call.outer?.any (isHandlerAccess d) = call'.outer?.any (isHandlerAccess d') := by
  have haround := h.sameAround
  have hname := h.name_eq
  rw [outer?_eq_parent?, outer?_eq_parent?]
  refine ⟨any_parent?_of_sameAround haround (· == "await_expression"), ?_⟩
  generalize call.wrapped = top at *
  generalize call'.wrapped = top' at *
  cases haround with
  | start => rfl
  | @step n n' index tree tree' above kind here here' standing earlier later =>
    -- All that the rule reads of the access is its kind, the name of its property, and its parent.
    have hproperty := SameAround.text?_child? (.step above kind here here' standing earlier later) hname
    have hparent := any_parent?_of_sameAround above (· == "call_expression")
    show isHandlerAccess d n = isHandlerAccess d' n'
    rw [isHandlerAccess, isHandlerAccess, kind, hparent]
    show (_ && promiseHandlers.contains
        (if n.kind = "member_expression" then d.text? (n.child? "property") else "") && _) = _
    rw [kind, hproperty]
    rfl

/-- **Parentheses around a call change nothing.** -/
theorem isUnhandled_of_parenthesized (h : Parenthesized d d' call call') :
    IsUnhandled d' call' ↔ IsUnhandled d call := by
  obtain ⟨hawaited, hchained⟩ := outer?_of_parenthesized h
  rw [isUnhandled_iff, isUnhandled_iff, isPromiseCall_congr h.reading_eq, hawaited, hchained,
    noneInside_congr h.reading_eq]

/-- **A call is reported if and only if it gives a promise that is neither awaited nor taken care of.** What
counts outside of it is the nearest node above it that is no pair of parentheses. So in any layers of
parentheses, and whatever else has moved with them, the call is reported exactly if it is without them. -/
theorem unhandledPromise_iff {d : Document} {call : Node} (hreaches : d.root.Reaches call)
    (hkind : call.kind = "call_expression") :
    (Family.logic.Reports "UNHANDLED_PROMISE" d call ↔ IsUnhandled d call) ∧
    (∀ f ∈ Family.logic.findings d, f.code = "UNHANDLED_PROMISE" → f.node = call →
      f = unhandled call) ∧
    ∀ d' call', Parenthesized d d' call call' →
      (Family.logic.Reports "UNHANDLED_PROMISE" d' call' ↔
        Family.logic.Reports "UNHANDLED_PROMISE" d call) := by
  refine ⟨?_, ?_, ?_⟩
  · rw [reports_unhandledPromise_iff, and_iff_right hreaches, and_iff_right hkind]
  · rintro f hf hcode rfl
    exact (hasRule_unhandledPromise d).eq_finding (mem_unhandledPromise_iff d) f hf hcode
  · intro d' call' h
    have hkind' : call'.kind = "call_expression" := (kind_congr h.reading_eq).symm.trans hkind
    rw [reports_unhandledPromise_iff, reports_unhandledPromise_iff, and_iff_right hreaches,
      and_iff_right hkind, and_iff_right (h.reaches hreaches), and_iff_right hkind',
      isUnhandled_of_parenthesized h]

/-- A request that starts at an offset. -/
def requestAt (offset : Nat) (role : Option String) : Tree :=
  .node ⟨"call_expression", true, false, false, false, offset, offset + 12, role⟩
    [.node ⟨"member_expression", true, false, false, false, offset, offset + 9, some "function"⟩
      [.node ⟨"identifier", true, false, false, false, offset, offset + 5, some "object"⟩ [],
        .node ⟨"property_identifier", true, false, false, false, offset + 6, offset + 9, some "property"⟩ []],
      .node ⟨"arguments", true, false, false, false, offset + 9, offset + 12, some "arguments"⟩
        [.node ⟨"identifier", true, false, false, false, offset + 10, offset + 11, none⟩ []]]

/-- A request without anything around it. -/
def requesting : Document where
  bytes := Utf8.encode "axios.get(u);".toList
  tree := .node ⟨"program", true, false, false, false, 0, 13, none⟩
    [.node ⟨"expression_statement", true, false, false, false, 0, 13, none⟩
      [requestAt 0 none, .node ⟨";", false, false, false, false, 12, 13, none⟩ []]]

/-- The same in two pairs of parentheses. -/
def shelling : Document where
  bytes := Utf8.encode "((axios.get(u)));".toList
  tree := .node ⟨"program", true, false, false, false, 0, 17, none⟩
    [.node ⟨"expression_statement", true, false, false, false, 0, 17, none⟩
      [.node ⟨"parenthesized_expression", true, false, false, false, 0, 16, none⟩
        [.node ⟨"(", false, false, false, false, 0, 1, none⟩ [],
          .node ⟨"parenthesized_expression", true, false, false, false, 1, 15, none⟩
            [.node ⟨"(", false, false, false, false, 1, 2, none⟩ [], requestAt 2 none,
              .node ⟨")", false, false, false, false, 14, 15, none⟩ []],
          .node ⟨")", false, false, false, false, 15, 16, none⟩ []],
        .node ⟨";", false, false, false, false, 16, 17, none⟩ []]]

theorem reading_request : (requestAt 0 none).reading requesting = (requestAt 2 none).reading shelling := by
  simp only [requestAt, Tree.reading, Tree.readings, Tree.label, Label.standing, Reading.node.injEq,
    List.cons.injEq, Prod.mk.injEq, and_true, true_and]
  decide

/-- The request itself. -/
def request : Node :=
  requesting.root.descend [0, 0]

/-- The parentheses, and the request in them. -/
def shell : Node :=
  shelling.root.descend [0, 0]

theorem isUnhandled_request : IsUnhandled requesting request := by
  refine isUnhandled_iff.2 ⟨by decide, by decide, by decide, ?_⟩
  intro inner habove hkind
  cases habove.mem_preorder hkind

theorem parenthesized_request : Parenthesized requesting shelling request (shell.descend [0, 0]) := by
  refine ⟨reading_request, ⟨shell, ?_, ?_⟩, ?_⟩
  · have hstatement : SameAround requesting shelling (requesting.root.descend [0])
        (shelling.root.descend [0]) := .of_only_child .start (by decide) rfl rfl (by decide)
    refine .step hstatement (by decide) rfl rfl (by decide) ?_ ?_
    · show Tree.readings requesting [] = Tree.readings shelling []
      simp only [Tree.readings]
    · exact Tree.readings_leaf (by decide) (by decide) (by decide)
  · exact .layer rfl List.mem_cons_self (.layer rfl List.mem_cons_self .bare)
  · intro hfield
    cases hfield

/-- The request is reported, and so it is in parentheses. -/
theorem reports_request : Parenthesized requesting shelling request (shell.descend [0, 0]) ∧
    Family.logic.Reports "UNHANDLED_PROMISE" requesting request ∧
    Family.logic.Reports "UNHANDLED_PROMISE" shelling (shell.descend [0, 0]) := by
  obtain ⟨hreports, -, hlayers⟩ := unhandledPromise_iff (requesting.root.reaches_descend [0, 0]) rfl
  have hrequest := hreports.2 isUnhandled_request
  exact ⟨parenthesized_request, hrequest, (hlayers shelling _ parenthesized_request).2 hrequest⟩

end Logic

end ScriptAudit
