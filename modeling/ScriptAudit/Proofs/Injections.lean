import ScriptAudit.Proofs.RuleFindings
import ScriptAudit.Proofs.SubtreeReadings

/-!
# Injections

Two rules look for calls that are given what looks like user input, one for queries and one for commands.
They know the calls by the names called, and search the arguments to any depth. The rule for queries searches
what the method is called on as well. Neither searches the name that is called.

- `Security.Injection`: the two rules, with the methods and the names they know.
- `Security.IsCalled`, `Security.LooksLikeInput`: the name a call goes by, and what counts as user input.
- `Security.Injection.Searches`: where a rule looks; `Security.Injection.not_searches_property`: **nowhere in
  the name that is called.**
- `Security.Injection.TakesInput`: what a rule asks for. `Security.Injection.takesInput_of_buried`: **it does
  not matter how deep in the arguments the input is**; `Security.Injection.takesInput_of_renamed`: **nor which
  of the methods is called.**
- `Security.Injection.reports_injection_iff`: **these are the calls that are reported.**
-/

namespace ScriptAudit

namespace Node

variable {n m other l : Node} {field role : String}

/-- Below children in two roles there is nothing in common. -/
theorem not_suffix_of_roles (hm : n.child? field = some m) (hother : n.child? role = some other)
    (hne : field ≠ role) (hl : m.path <:+ l.path) : ¬other.path <:+ l.path := by
  intro hl'
  obtain ⟨i, tree, hi, rfl⟩ := mem_children_iff.1 (List.mem_of_find?_eq_some hm)
  obtain ⟨j, tree', hj, rfl⟩ := mem_children_iff.1 (List.mem_of_find?_eq_some hother)
  -- Two suffixes of one path that are equally long are the same.
  have hpath : i :: n.path = j :: n.path :=
    (List.suffix_of_suffix_length_le hl hl' (Nat.le_refl _)).eq_of_length rfl
  cases (List.cons.inj hpath).1
  cases hi.symm.trans hj
  have hfield := ((child?_eq_some_iff hi).1 hm).1
  have hrole := ((child?_eq_some_iff hj).1 hother).1
  exact hne (Option.some.inj (hfield.symm.trans hrole))

/-- A child in a role has a longer path. -/
theorem not_suffix_of_child? (hm : n.child? field = some m) : ¬m.path <:+ n.path := by
  obtain ⟨i, tree, -, rfl⟩ := mem_children_iff.1 (List.mem_of_find?_eq_some hm)
  intro h
  exact Nat.not_succ_le_self _ h.length_le

theorem path_suffix_of_child? (hm : n.child? field = some m) : n.path <:+ m.path := by
  obtain ⟨i, tree, -, rfl⟩ := mem_children_iff.1 (List.mem_of_find?_eq_some hm)
  exact List.suffix_cons i n.path

end Node

namespace Security

open Node Vocabulary

variable {d d' : Document} {call call' callee n t t' e : Node} {names : List String}

/-! ## Names and input -/

/-- Whether a call goes by a name: that of the function called, or else of the method. -/
inductive IsCalled (d : Document) (call : Node) : String → Prop
  | function {callee : Node} (hcallee : call.callee? = some callee) (hkind : callee.kind = "identifier") :
    IsCalled d call (d.text callee)
  | method {callee property : Node} (hcallee : call.callee? = some callee)
      (hkind : callee.kind = "member_expression") (hproperty : callee.child? "property" = some property) :
    IsCalled d call (d.text property)

/-- Whether a node looks like user input: an access to a property of a request, or one of some names. -/
inductive LooksLikeInput (d : Document) (names : List String) (n : Node) : Prop
  | access {property : Node} (hkind : n.kind = "member_expression")
      (hproperty : n.child? "property" = some property)
      (hinput : Text.lowerString (d.text property) ∈ inputProperties)
  | name (hkind : n.kind = "identifier") (hinput : Text.lowerString (d.text n) ∈ names)

theorem IsCalled.calledName_eq {name : String} (h : IsCalled d call name) :
    calledName d call = Text.lowerString name := by
  rw [calledName, Document.calleeIdentifier, Document.callMethod]
  -- A plain name is no member access, and a member access is no plain name, so only one of the two
  -- readings gives a name.
  cases h with
  | @function callee hcallee hkind =>
    have hidentifier : d.identifierText (some callee) = d.text callee := by
      simp [Document.identifierText, isIdentifier, hkind]
    have hmember : d.memberProperty (some callee) = "" := by
      simp [Document.memberProperty, hkind]
    rw [hcallee, hidentifier, hmember]
    by_cases hempty : d.text callee = ""
    · rw [if_pos hempty, hempty]
    · rw [if_neg hempty]
  | @method callee property hcallee hkind hproperty =>
    have hidentifier : d.identifierText (some callee) = "" := by
      simp [Document.identifierText, isIdentifier, hkind]
    have hmember : d.memberProperty (some callee) = d.text property := by
      simp [Document.memberProperty, Document.text?, hkind, hproperty]
    rw [hcallee, hidentifier, hmember, if_pos rfl]

/-- A call without a name goes by the empty one. -/
theorem calledName_eq_empty (h : ¬∃ name, IsCalled d call name) : calledName d call = "" := by
  have hname : d.calleeIdentifier call = "" ∧ d.callMethod call = "" := by
    -- A callee that gave a name of either kind would be one by which the call is known.
    rw [Document.calleeIdentifier, Document.callMethod]
    cases hcallee : call.callee? with
    | none => exact ⟨rfl, rfl⟩
    | some callee =>
      have hidentifier : callee.kind ≠ "identifier" := fun hkind => h ⟨_, .function hcallee hkind⟩
      refine ⟨by simp [Document.identifierText, isIdentifier, hidentifier], ?_⟩
      show (if callee.kind = "member_expression" then d.text? (callee.child? "property") else "") = ""
      by_cases hkind : callee.kind = "member_expression"
      · cases hproperty : callee.child? "property" with
        | none => exact if_pos hkind
        | some property => exact absurd ⟨_, .method hcallee hkind hproperty⟩ h
      · exact if_neg hkind
  rw [calledName, hname.1, hname.2]
  rfl

theorem calledName_mem_iff {methods : List String} (hmethods : "" ∉ methods) :
    calledName d call ∈ methods ↔ ∃ name, IsCalled d call name ∧ Text.lowerString name ∈ methods := by
  constructor
  · intro hmem
    by_cases hname : ∃ name, IsCalled d call name
    · obtain ⟨name, hcalled⟩ := hname
      exact ⟨name, hcalled, hcalled.calledName_eq ▸ hmem⟩
    · rw [calledName_eq_empty hname] at hmem
      exact absurd hmem hmethods
  · rintro ⟨name, hcalled, hmem⟩
    rw [hcalled.calledName_eq]
    exact hmem

theorem isUserInput_iff : isUserInput d names n = true ↔ LooksLikeInput d names n := by
  rw [isUserInput]
  -- A member access is told by its property alone, and a plain name by itself.
  by_cases hkind : n.kind = "member_expression"
  · have hmember : d.memberProperty (some n) = d.text? (n.child? "property") := if_pos hkind
    rw [if_pos hkind, List.contains_iff_mem, hmember]
    constructor
    · intro hinput
      cases hproperty : n.child? "property" with
      | none =>
        rw [hproperty] at hinput
        exact absurd hinput (show Text.lowerString "" ∉ inputProperties by decide)
      | some property =>
        rw [hproperty] at hinput
        exact .access hkind hproperty hinput
    · rintro (⟨-, hproperty, hinput⟩ | ⟨hidentifier, -⟩)
      · rw [hproperty]
        exact hinput
      · exact absurd (hkind.symm.trans hidentifier) (by decide)
  · rw [if_neg hkind, Bool.and_eq_true, isIdentifier, beq_iff_eq, List.contains_iff_mem]
    constructor
    · rintro ⟨hidentifier, hinput⟩
      exact .name hidentifier hinput
    · rintro (⟨hmember, -, -⟩ | ⟨hidentifier, hinput⟩)
      · exact absurd hmember hkind
      · exact ⟨hidentifier, hinput⟩

theorem readsUserInput_iff {nodes : List (Option Node)} : readsUserInput d names nodes = true ↔
    ∃ top, some top ∈ nodes ∧ ∃ n, top.Reaches n ∧ LooksLikeInput d names n := by
  simp only [readsUserInput, List.any_eq_true, Option.any_eq_true, mem_reached, isUserInput_iff]
  constructor
  · rintro ⟨_, hmem, top, rfl, hinput⟩
    exact ⟨top, hmem, hinput⟩
  · rintro ⟨top, hmem, hinput⟩
    exact ⟨some top, hmem, top, rfl, hinput⟩

/-- Nodes that say the same look like user input both, or neither. -/
theorem looksLikeInput_congr (h : n.reading d = t.reading d') :
    LooksLikeInput d names n ↔ LooksLikeInput d' names t := by
  have hmember : d.memberProperty (some n) = d'.memberProperty (some t) :=
    Document.memberProperty_congr (congrArg some h)
  rw [← isUserInput_iff, ← isUserInput_iff, isUserInput, isUserInput, isIdentifier, isIdentifier, hmember,
    kind_congr h, text_congr h]

/-! ## The two rules -/

/-- What is injected: a query, or a command. -/
inductive Injection where
  | query
  | command

namespace Injection

/-- The code of the rule. -/
def code : Injection → String
  | query => "SQL_INJECTION"
  | command => "COMMAND_INJECTION"

/-- The methods that the rule knows. -/
def methods : Injection → List String
  | query => sqlMethods
  | command => commandMethods

/-- The names that are user input to the rule. -/
def inputNames : Injection → List String
  | query => sqlInputNames
  | command => commandInputNames

/-- The rule itself. -/
def rule (d : Document) : Injection → Node → List Finding
  | query => sqlInjection d
  | command => commandInjection d

/-- What the rule finds. -/
def finding (call : Node) : Injection → Finding
  | query => .plain call .error "SQL_INJECTION" "Potential SQL injection - use parameterized queries"
  | command => .plain call .error "COMMAND_INJECTION"
      "Command execution with user input - validate and sanitize"

/-- The places where the rule searches. -/
def places (call : Node) : Injection → List (Option Node)
  | query => [call.arguments?, call.callee?.bind memberObject?]
  | command => [call.arguments?]

/-- Where a rule searches for user input: in the arguments of a call, and in what the method of a query is
called on. -/
inductive Searches (call : Node) : Injection → Node → Prop
  | argument {kind : Injection} {arguments n : Node} (harguments : call.arguments? = some arguments)
      (hreaches : arguments.Reaches n) : Searches call kind n
  | object {callee object n : Node} (hcallee : call.callee? = some callee)
      (hkind : callee.kind = "member_expression") (hobject : callee.child? "object" = some object)
      (hreaches : object.Reaches n) : Searches call query n

/-- Whether a call goes by a name that a rule knows, and is given user input where the rule searches. -/
structure TakesInput (d : Document) (kind : Injection) (call : Node) : Prop where
  kind_eq : call.kind = "call_expression"
  isKnown : ∃ name, IsCalled d call name ∧ Text.lowerString name ∈ kind.methods
  exists_input : ∃ n, kind.Searches call n ∧ LooksLikeInput d kind.inputNames n

variable {kind : Injection}

theorem hasRule (d : Document) : Family.security.HasRule kind.code d (kind.rule d) := by
  cases kind with
  | query => exact hasRule_sqlInjection d
  | command => exact hasRule_commandInjection d

/-- The two rules are one, with places and words of its own. -/
theorem rule_eq (kind : Injection) (d : Document) (n : Node) : kind.rule d n =
    if n.kind = "call_expression" && kind.methods.contains (calledName d n)
        && readsUserInput d kind.inputNames (kind.places n) then
      [kind.finding n]
    else [] := by
  cases kind <;> rfl

theorem searches_iff : kind.Searches call n ↔ ∃ top, some top ∈ kind.places call ∧ top.Reaches n := by
  constructor
  · -- A command is searched in its arguments only, a query also in the object it is asked of.
    rintro (⟨harguments, hreaches⟩ | ⟨hcallee, hkind, hobject, hreaches⟩)
    · refine ⟨_, ?_, hreaches⟩
      rw [← harguments]
      cases kind <;> exact List.mem_cons_self
    · refine ⟨_, List.mem_cons_of_mem _ (List.mem_singleton.2 ?_), hreaches⟩
      rw [hcallee, Option.bind_some, memberObject?, if_pos hkind, hobject]
  · rintro ⟨top, hplace, hreaches⟩
    cases kind with
    | command => exact .argument (List.mem_singleton.1 hplace).symm hreaches
    | query =>
      rcases List.mem_cons.1 hplace with harguments | hobject
      · exact .argument harguments.symm hreaches
      · obtain ⟨callee, hcallee, hobject⟩ := Option.bind_eq_some_iff.1 (List.mem_singleton.1 hobject).symm
        rw [memberObject?] at hobject
        split at hobject
        · rename_i hkind
          exact .object hcallee hkind hobject hreaches
        · cases hobject

theorem exists_input_iff : readsUserInput d kind.inputNames (kind.places call) = true ↔
    ∃ n, kind.Searches call n ∧ LooksLikeInput d kind.inputNames n := by
  rw [readsUserInput_iff]
  constructor
  · rintro ⟨top, hplace, n, hreaches, hinput⟩
    exact ⟨n, searches_iff.2 ⟨top, hplace, hreaches⟩, hinput⟩
  · rintro ⟨n, hsearches, hinput⟩
    obtain ⟨top, hplace, hreaches⟩ := searches_iff.1 hsearches
    exact ⟨top, hplace, n, hreaches, hinput⟩

theorem mem_rule_iff (d : Document) (n : Node) (f : Finding) :
    f ∈ kind.rule d n ↔ kind.TakesInput d n ∧ f = kind.finding n := by
  have hmethods : "" ∉ kind.methods := by cases kind <;> decide
  rw [rule_eq, List.mem_ite_nil_right, List.mem_singleton, Bool.and_eq_true, Bool.and_eq_true,
    decide_eq_true_eq, List.contains_iff_mem, exists_input_iff, calledName_mem_iff hmethods]
  refine and_congr_left fun _ => ⟨?_, ?_⟩
  · rintro ⟨⟨hkind, hknown⟩, hinput⟩
    exact ⟨hkind, hknown, hinput⟩
  · rintro ⟨hkind, hknown, hinput⟩
    exact ⟨⟨hkind, hknown⟩, hinput⟩

theorem reports_iff_takesInput : Family.security.Reports kind.code d call ↔
    d.root.Reaches call ∧ kind.TakesInput d call :=
  (hasRule d).reports_iff_applies (mem_rule_iff d)

/-! ## What is not searched -/

/-- The name that is called is in none of the places where a rule searches. -/
theorem not_searches_property {property : Node} (hcallee : call.callee? = some callee)
    (hproperty : callee.child? "property" = some property) (hn : property.Reaches n) :
    ¬kind.Searches call n := by
  rintro (⟨harguments, hreaches⟩ | ⟨hcallee', -, hobject, hreaches⟩)
  · exact not_suffix_of_roles hcallee harguments (by decide)
      ((path_suffix_of_child? hproperty).trans hn.suffix) hreaches.suffix
  · cases hcallee.symm.trans hcallee'
    exact not_suffix_of_roles hproperty hobject (by decide) hn.suffix hreaches.suffix

theorem not_searches_callee (hcallee : call.callee? = some callee) : ¬kind.Searches call callee := by
  rintro (⟨harguments, hreaches⟩ | ⟨hcallee', -, hobject, hreaches⟩)
  · exact not_suffix_of_roles hcallee harguments (by decide) List.suffix_rfl hreaches.suffix
  · cases hcallee.symm.trans hcallee'
    exact not_suffix_of_child? hobject hreaches.suffix

/-! ## What makes no difference -/

/-- Whether two calls say the same, but for the name that is called. -/
structure DiffersInName (d d' : Document) (call call' : Node) : Prop where
  kind_eq : call.kind = call'.kind
  arguments : call.arguments?.map (reading d) = call'.arguments?.map (reading d')
  object : (call.callee?.bind memberObject?).map (reading d)
    = (call'.callee?.bind memberObject?).map (reading d')

theorem exists_input_congr (h : DiffersInName d d' call call') :
    (∃ n, kind.Searches call n ∧ LooksLikeInput d kind.inputNames n) ↔
      ∃ n, kind.Searches call' n ∧ LooksLikeInput d' kind.inputNames n := by
  have hplace {part part' : Option Node} (names : List String)
      (hpart : part.map (reading d) = part'.map (reading d')) :
      part.any (fun n => n.reached.any (isUserInput d names))
        = part'.any fun n => n.reached.any (isUserInput d' names) := by
    rcases Document.absent_or_same hpart with ⟨rfl, rfl⟩ | ⟨top, top', rfl, rfl, htop⟩
    · -- Both searches have nothing to go through.
      rw [Option.any_none, Option.any_none]
    · have hlooks (m m' : Node) (h : m.reading d = m'.reading d') :
          LooksLikeInput d names m ↔ LooksLikeInput d' names m' := looksLikeInput_congr h
      have hfound := exists_reaches_congr hlooks htop
      rw [Option.any_some, Option.any_some, Bool.eq_iff_iff, List.any_eq_true, List.any_eq_true]
      simp only [mem_reached, isUserInput_iff, hfound]
  -- Both kinds search the arguments, and queries the object as well.
  rw [← exists_input_iff, ← exists_input_iff]
  cases kind with
  | query => simp only [readsUserInput, places, List.any_cons, hplace _ h.arguments, hplace _ h.object, List.any_nil]
  | command => simp only [readsUserInput, places, List.any_cons, hplace _ h.arguments, List.any_nil]

/-- **Which of the methods is called makes no difference.** -/
theorem takesInput_of_renamed (h : DiffersInName d d' call call')
    (hknown : ∃ name, IsCalled d call name ∧ Text.lowerString name ∈ kind.methods)
    (hknown' : ∃ name, IsCalled d' call' name ∧ Text.lowerString name ∈ kind.methods) :
    kind.TakesInput d call ↔ kind.TakesInput d' call' := by
  constructor
  · intro htakes
    exact ⟨h.kind_eq.symm.trans htakes.kind_eq, hknown', (exists_input_congr h).1 htakes.exists_input⟩
  · intro htakes
    exact ⟨h.kind_eq.trans htakes.kind_eq, hknown, (exists_input_congr h).2 htakes.exists_input⟩

/-- A call goes by the same names if what it calls says the same. -/
theorem isKnown_congr (h : call.callee?.map (reading d) = call'.callee?.map (reading d')) :
    (∃ name, IsCalled d call name ∧ Text.lowerString name ∈ kind.methods) ↔
      ∃ name, IsCalled d' call' name ∧ Text.lowerString name ∈ kind.methods := by
  have hmethods : "" ∉ kind.methods := by cases kind <;> decide
  rw [← calledName_mem_iff hmethods, ← calledName_mem_iff hmethods, calledName, calledName,
    Document.calleeIdentifier, Document.calleeIdentifier, Document.callMethod, Document.callMethod,
    Document.identifierText_congr h, Document.memberProperty_congr h]

/-- **How deep the user input is in the arguments makes no difference.** If in its place there is anything
with the same input in it, and all around it is the same, the call takes it as well. -/
theorem takesInput_of_buried {arguments : Node} (harguments : call.arguments? = some arguments)
    (ht : arguments.Reaches t) (hinput : LooksLikeInput d kind.inputNames t) (haround : SameAround d d' t e)
    (ht' : e.Reaches t') (hsame : t.reading d = t'.reading d') (htakes : kind.TakesInput d call) :
    ∃ call', SameAround d d' call call' ∧ kind.TakesInput d' call' := by
  -- The argument list has its counterpart, and so has the call; what is called is beside the way.
  obtain ⟨list, hlist, hreaches⟩ := haround.exists_above ht
  obtain ⟨index, tree, here, rfl⟩ := mem_children_iff.1 (List.mem_of_find?_eq_some harguments)
  have hrole := ((child?_eq_some_iff here).1 harguments).1
  cases hlist with
  | @step _ call' _ _ tree' above kind_eq _ here' standing earlier later =>
    have hlist := SameAround.step above kind_eq here here' standing earlier later
    have hcallee : call.callee?.map (reading d) = call'.callee?.map (reading d') := by
      refine hlist.reading_child? ?_
      rw [hrole]
      decide
    refine ⟨call', above, kind_eq.symm.trans htakes.kind_eq, (isKnown_congr hcallee).1 htakes.isKnown, t', ?_,
      (looksLikeInput_congr hsame).1 hinput⟩
    exact .argument (hlist.child?_eq harguments) (hreaches.trans ht')

/-- **A call is reported if and only if it goes by a name that the rule knows, and takes user input.** So
input may be at any depth in an argument: in a document where all is the same but that there is more around
it, the call in that place is reported as well. The name called is not searched, nor is what is below it; and
so a call under one name is reported exactly if it is under another one that the rule knows. -/
theorem reports_injection_iff (kind : Injection) (d : Document) (call : Node) :
    (Family.security.Reports kind.code d call ↔ d.root.Reaches call ∧ kind.TakesInput d call) ∧
    (∀ f ∈ Family.security.findings d, f.code = kind.code → f.node = call → f = kind.finding call) ∧
    (∀ arguments t d' e t', call.arguments? = some arguments → arguments.Reaches t →
      LooksLikeInput d kind.inputNames t → SameAround d d' t e → e.Reaches t' →
      t.reading d = t'.reading d' → Family.security.Reports kind.code d call →
      ∃ call', call'.path = call.path ∧ SameAround d d' call call' ∧
        Family.security.Reports kind.code d' call') ∧
    (∀ callee, call.callee? = some callee → ¬kind.Searches call callee ∧
      ∀ property, callee.child? "property" = some property → ∀ n, property.Reaches n →
        ¬kind.Searches call n) ∧
    ∀ d' call', d.root.Reaches call → d'.root.Reaches call' → DiffersInName d d' call call' →
      (∃ name, IsCalled d call name ∧ Text.lowerString name ∈ kind.methods) →
      (∃ name, IsCalled d' call' name ∧ Text.lowerString name ∈ kind.methods) →
      (Family.security.Reports kind.code d call ↔ Family.security.Reports kind.code d' call') := by
  refine ⟨reports_iff_takesInput, ?_, ?_, ?_, ?_⟩
  · rintro f hf hcode rfl
    exact (hasRule d).eq_finding (mem_rule_iff d) f hf hcode
  · intro arguments t d' e t' harguments ht hinput haround ht' hsame hreports
    obtain ⟨hreaches, htakes⟩ := reports_iff_takesInput.1 hreports
    obtain ⟨call', habove, htakes'⟩ := takesInput_of_buried harguments ht hinput haround ht' hsame htakes
    exact ⟨call', habove.path_eq.symm, habove, reports_iff_takesInput.2 ⟨habove.reaches hreaches, htakes'⟩⟩
  · intro callee hcallee
    exact ⟨not_searches_callee hcallee, fun property hproperty n => not_searches_property hcallee hproperty⟩
  · intro d' call' hreaches hreaches' hname hknown hknown'
    rw [reports_iff_takesInput, reports_iff_takesInput, and_iff_right hreaches, and_iff_right hreaches',
      takesInput_of_renamed hname hknown hknown']

/-- A call of one function with one argument, which starts at an offset. -/
def callAt (start name : Nat) (argument : Tree) : Tree :=
  .node ⟨"call_expression", true, false, false, false, start, argument.label.stop + 1, none⟩
    [.node ⟨"identifier", true, false, false, false, start, start + name, some "function"⟩ [],
      .node ⟨"arguments", true, false, false, false, start + name, argument.label.stop + 1, some "arguments"⟩
        [argument]]

/-- A name that is an argument. -/
def nameAt (start : Nat) : Tree :=
  .node ⟨"identifier", true, false, false, false, start, start + 4, none⟩ []

/-- A query with user input as its argument. -/
def querying : Document where
  bytes := Utf8.encode "query(body);".toList
  tree := .node ⟨"program", true, false, false, false, 0, 12, none⟩
    [.node ⟨"expression_statement", true, false, false, false, 0, 12, none⟩
      [callAt 0 5 (nameAt 6), .node ⟨";", false, false, false, false, 11, 12, none⟩ []]]

/-- The same with a call in between. -/
def wrapping : Document where
  bytes := Utf8.encode "query(f(body));".toList
  tree := .node ⟨"program", true, false, false, false, 0, 15, none⟩
    [.node ⟨"expression_statement", true, false, false, false, 0, 15, none⟩
      [callAt 0 5 (callAt 6 1 (nameAt 8)), .node ⟨";", false, false, false, false, 14, 15, none⟩ []]]

/-- Around the argument all is the same. -/
theorem sameAround_wrapping : SameAround querying wrapping (querying.root.descend [0, 0, 1, 0])
    (wrapping.root.descend [0, 0, 1, 0]) := by
  -- From the root down to the argument, level by level: the siblings of the path read the same.
  have hstatement : SameAround querying wrapping (querying.root.descend [0]) (wrapping.root.descend [0]) :=
    .of_only_child .start (by decide) rfl rfl (by decide)
  have hcall : SameAround querying wrapping (querying.root.descend [0, 0])
      (wrapping.root.descend [0, 0]) := by
    refine .step hstatement (by decide) rfl rfl (by decide) ?_ ?_
    · show Tree.readings querying [] = Tree.readings wrapping []
      simp only [Tree.readings]
    · exact Tree.readings_leaf (by decide) (by decide) (by decide)
  have harguments : SameAround querying wrapping (querying.root.descend [0, 0, 1])
      (wrapping.root.descend [0, 0, 1]) := by
    refine .step hcall (by decide) rfl rfl (by decide) ?_ ?_
    · exact Tree.readings_leaf (by decide) (by decide) (by decide)
    · show Tree.readings querying [] = Tree.readings wrapping []
      simp only [Tree.readings]
  exact .of_only_child harguments (by decide) rfl rfl (by decide)

theorem looksLikeInput_querying :
    LooksLikeInput querying query.inputNames (querying.root.descend [0, 0, 1, 0]) :=
  .name (by decide) (by decide)

theorem reports_querying :
    Family.security.Reports query.code querying (querying.root.descend [0, 0]) := by
  refine reports_iff_takesInput.2 ⟨reaches_descend _ _, by decide, ?_, ?_⟩
  · exact ⟨_, @IsCalled.function _ _ (querying.root.descend [0, 0, 0]) rfl (by decide),
      by decide⟩
  · exact ⟨_, .argument rfl (reaches_descend _ [0]), looksLikeInput_querying⟩

/-- The query is reported, and so it is with a call around the input. -/
theorem reports_wrapping : Family.security.Reports query.code querying (querying.root.descend [0, 0]) ∧
    ∃ call, call.path = (querying.root.descend [0, 0]).path ∧
      Family.security.Reports query.code wrapping call := by
  obtain ⟨-, -, hburied, -⟩ := reports_injection_iff query querying (querying.root.descend [0, 0])
  have hsame : (querying.root.descend [0, 0, 1, 0]).reading querying
      = (wrapping.root.descend [0, 0, 1, 0, 1, 0]).reading wrapping := by
    show (nameAt 6).reading querying = (nameAt 8).reading wrapping
    exact Tree.reading_leaf (by decide) (by decide)
  obtain ⟨call, hpath, -, hreports⟩ := hburied (querying.root.descend [0, 0, 1]) _ wrapping _ _ rfl
    (reaches_descend _ [0]) looksLikeInput_querying sameAround_wrapping (reaches_descend _ [1, 0]) hsame
    reports_querying
  exact ⟨reports_querying, call, hpath, hreports⟩

end Injection

end Security

end ScriptAudit
