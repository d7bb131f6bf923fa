import ScriptAudit.Proofs.EndlessLoops
import ScriptAudit.Proofs.ReplacedSubtree

/-!
# Exits of nested functions

A return statement ends the function it is in, not one further out, and it leaves no loop around that
function. The rules about functions that return nothing and about loops without an exit look for exits
everywhere below. So an exit of a nested function speaks for all that is around it.

What this comes to shows when the body of the nested function is emptied. No finding is lost by that. But
one may appear, and it does exactly if all the exits were in that body.

- `Tree.Opens`: what a tree is taken for, its parentheses taken off. `Node.exists_unwrapped_iff`: it is
  what a node with that subtree is taken for.
- `Logic.holdsAlways_setTree`, `Logic.isVoid_setTree`: what else the rules ask for stays.
- `Logic.noExit_setTree_iff`: **what emptying a body does to the search for exits.**
- `Logic.Emptied`: a document, and the same with the body of a nested function emptied.
- `Logic.verdicts_emptied`: **the exits of nested functions can hide a finding, and this is when they do.**
-/

namespace ScriptAudit

/-! ## What a tree is taken for -/

namespace Tree

variable {t : Tree} {kind : String}

/-- Whether a tree is taken for one of a kind, its parentheses taken off. -/
inductive Opens (kind : String) : Tree → Prop
  | bare {t : Tree} (hbare : t.label.kind ≠ parenthesesKind) (hkind : t.label.kind = kind) : Opens kind t
  | layer {t first : Tree} (hlayer : t.label.kind = parenthesesKind)
      (hfirst : t.children.find? (·.label.named) = some first) (hopens : Opens kind first) :
    Opens kind t

theorem opens_bare_iff (h : t.label.kind ≠ parenthesesKind) : t.Opens kind ↔ t.label.kind = kind := by
  refine ⟨fun hopens => ?_, .bare h⟩
  cases hopens with
  | bare _ hkind => exact hkind
  | layer hlayer _ _ => exact absurd hlayer h

theorem opens_layer_iff (h : t.label.kind = parenthesesKind) :
    t.Opens kind ↔ ∃ first, t.children.find? (·.label.named) = some first ∧ first.Opens kind := by
  constructor
  · intro hopens
    cases hopens with
    | bare hbare _ => exact absurd h hbare
    | layer _ hfirst hopens => exact ⟨_, hfirst, hopens⟩
  · rintro ⟨first, hfirst, hopens⟩
    exact .layer h hfirst hopens

/-- Whether a tree is a block with nothing in it. -/
structure IsEmptyBlock (t : Tree) : Prop where
  kind : t.label.kind = "statement_block"
  noChild : ∀ below ∈ t.children, below.label.named = false

theorem IsEmptyBlock.eq_of_reaches {s : Tree} (h : t.IsEmptyBlock) (hreaches : t.Reaches s) : s = t := by
  rcases Relation.ReflTransGen.cases_head hreaches with heq | ⟨below, ⟨hmem, hnamed⟩, -⟩
  · exact heq.symm
  · rw [h.noChild below hmem] at hnamed
    cases hnamed

end Tree

namespace Node

variable {n hole : Node} {new changed : Tree} {kind : String}

/-- What a node is taken for depends on its subtree only. -/
theorem exists_unwrapped_iff : (∃ m, n.unwrapped? = some m ∧ m.kind = kind) ↔ n.tree.Opens kind := by
  induction n using named_induction with
  | h n ih =>
    by_cases hkind : n.kind = parenthesesKind
    · have hhead : n.namedChildren.head? = n.children.find? (·.tree.label.named) := List.head?_filter
      rw [Tree.opens_layer_iff hkind, ← map_tree_find?_children, ← hhead, unwrapped?_layer hkind]
      cases hfirst : n.namedChildren.head? with
      | none => simp
      | some first => simpa using ih first (List.mem_of_head? hfirst)
    · rw [Tree.opens_bare_iff hkind, unwrapped?_bare hkind]
      simp only [Option.some.injEq, exists_eq_left']
      rfl

/-- What a node is taken for stays if one below it gets another subtree, but keeps its label. -/
theorem Becomes.opens_iff (h : Becomes hole new n changed) (hlabel : new.label = hole.label)
    (hbare : hole.kind ≠ parenthesesKind) : changed.Opens kind ↔ n.tree.Opens kind := by
  induction h with
  | here =>
    have hbare' : new.label.kind ≠ parenthesesKind := by
      rw [hlabel]
      exact hbare
    rw [Tree.opens_bare_iff hbare, Tree.opens_bare_iff hbare', hlabel]
    rfl
  | @above n index tree changed htree hbelow ih =>
    have hlabel' : (Tree.node n.label (n.tree.children.set index changed)).label = n.tree.label := rfl
    by_cases hkind : n.tree.label.kind = parenthesesKind
    · -- The layer is opened by its first named child, and the changed child is as named as the one
      -- it replaces.
      have hnamed : changed.label.named = tree.label.named := congrArg _ (hbelow.label_eq hlabel)
      rw [Tree.opens_layer_iff hkind, Tree.opens_layer_iff (by rwa [hlabel']), Tree.children_node]
      rcases find?_set (p := (·.label.named)) htree hnamed with heq | ⟨hbefore, hafter⟩
      · rw [heq]
      · rw [hbefore, hafter]
        simp only [Option.some.injEq, exists_eq_left']
        exact ih
    · rw [Tree.opens_bare_iff hkind, Tree.opens_bare_iff (by rwa [hlabel']), hlabel']

end Node

/-! ## Findings in a place -/

/-- Whether a family reports the node in a place under a code. -/
def Family.ReportsAt (family : Family) (code : String) (d : Document) (path : List Nat) : Prop :=
  ∃ n, n.path = path ∧ family.Reports code d n

/-- There is one node in the place of a node that is reached. -/
theorem Family.HasRule.reportsAt_iff {family : Family} {code : String} {d : Document} {n : Node}
    {rule : Node → List Finding} (h : family.HasRule code d rule) (hn : d.root.Reaches n) :
    family.ReportsAt code d n.path ↔ family.Reports code d n := by
  constructor
  · rintro ⟨m, hpath, hm⟩
    obtain rfl : m = n := Node.eq_of_path_eq (h.reports_iff.1 hm).1 hn hpath
    exact hm
  · exact fun hreported => ⟨n, rfl, hreported⟩

namespace Logic

open Node

variable {d d' : Document} {n g body hole : Node} {new changed blank : Tree} {exits : List String}

/-! ## What the rules ask for -/

/-- The kinds of statements that give a value back. -/
def returnKinds : List String :=
  ["return_statement"]

/-- The finding about a function without a return. -/
def valueless (function : Node) : Finding :=
  .plain function .warning "MISSING_RETURN" "Function may not return a value in all code paths"

theorem mem_missingReturn_iff (d : Document) (n : Node) (f : Finding) :
    f ∈ missingReturn d n ↔ (n.kind ∈ checkedFunctionKinds ∧ isVoid d n = false ∧
      ∀ m, n.IsAbove m → m.kind ∉ returnKinds) ∧ f = valueless n := by
  rw [missingReturn, List.mem_ite_nil_right, List.mem_singleton, Bool.and_eq_true, Bool.and_eq_true,
    Bool.not_eq_true', Bool.not_eq_true', List.contains_iff_mem, contains_eq_false_iff,
    and_right_comm (a := n.kind ∈ _), and_assoc (a := n.kind ∈ _)]
  rfl

theorem reports_missingReturn_iff : Family.logic.Reports "MISSING_RETURN" d n ↔
    d.root.Reaches n ∧ n.kind ∈ checkedFunctionKinds ∧ isVoid d n = false ∧
      ∀ m, n.IsAbove m → m.kind ∉ returnKinds :=
  (hasRule_missingReturn d).reports_iff_applies (mem_missingReturn_iff d)

theorem holdsAlways_iff : HoldsAlways n ↔ ∃ condition,
    n.tree.children.find? (·.label.field == some "condition") = some condition ∧
      condition.Opens "true" := by
  rw [← map_tree_find?_children]
  constructor
  · rintro ⟨condition, literal, hcondition, hunwrapped, hliteral⟩
    exact ⟨condition.tree, congrArg (Option.map tree) hcondition,
      exists_unwrapped_iff.1 ⟨literal, hunwrapped, hliteral⟩⟩
  · rintro ⟨opened, hopened, hopens⟩
    obtain ⟨condition, hcondition, rfl⟩ := Option.map_eq_some_iff.1 hopened
    obtain ⟨literal, hunwrapped, hliteral⟩ := exists_unwrapped_iff.2 hopens
    exact ⟨condition, literal, hcondition, hunwrapped, hliteral⟩

/-- What the condition of a loop is taken for stays. -/
theorem holdsAlways_setTree (h : Becomes hole new n changed) (hlabel : new.label = hole.label)
    (hbare : hole.kind ≠ parenthesesKind) (hne : n ≠ hole) :
    HoldsAlways (n.setTree changed) ↔ HoldsAlways n := by
  rw [holdsAlways_iff, holdsAlways_iff, tree_setTree]
  rcases h.find?_children hlabel hne (·.field == some "condition") with
    heq | ⟨index, tree, below, hbelow, hbefore, hafter⟩
  · rw [heq]
  · rw [hbefore, hafter]
    simp only [Option.some.injEq, exists_eq_left']
    exact hbelow.opens_iff hlabel hbare

/-- What a function is declared to return stays, if the text of the declaration does. -/
theorem isVoid_setTree (h : Becomes hole new n changed) (hlabel : new.label = hole.label) (hne : n ≠ hole)
    (htext : ∀ annotation, n.child? "return_type" = some annotation →
      d'.text annotation = d.text annotation) :
    isVoid d' (n.setTree changed) = isVoid d n := by
  have hlabels := h.map_label_child? hlabel hne "return_type"
  unfold isVoid
  cases hbefore : n.child? "return_type" with
  | none =>
    rw [hbefore, Option.map_none, Option.map_eq_none_iff] at hlabels
    rw [hlabels]
  | some annotation =>
    rw [hbefore] at hlabels
    obtain ⟨after, hafter, hsame⟩ := Option.map_eq_some_iff.1 hlabels
    have hmoved : d'.text after = d'.text annotation := by
      simp only [Document.text, Document.slice, hsame]
    simp only [hafter, hmoved, htext annotation hbefore]

/-- **What emptying a body does to the search for exits**: it passes over what is in the body. -/
theorem noExit_setTree_iff (h : Becomes hole new n changed) (hkind : n.kind ∉ exits)
    (hsame : changed.label = n.label) (hnew : ∀ tree, new.Reaches tree → tree.label.kind ∉ exits) :
    (∀ m, (n.setTree changed).IsAbove m → m.kind ∉ exits) ↔
      ∀ m, n.IsAbove m → m.kind ∈ exits → hole.Reaches m := by
  -- The label stays, so the node itself is no exit before and after.
  have hkind' : (n.setTree changed).kind ∉ exits := by
    rw [Node.kind, Node.label, tree_setTree, hsame]
    exact hkind
  -- The exits that are left are those outside the hole, since the new subtree has none.
  have hexit : (∃ m, (n.setTree changed).IsAbove m ∧ m.kind ∈ exits) ↔
      ∃ m, n.Reaches m ∧ ¬hole.Reaches m ∧ m.kind ∈ exits := by
    have hfound := Node.exists_reaches_iff (n := n.setTree changed) (P := (·.kind ∈ exits))
    have hkept := h.exists_reaches_iff (P := (·.kind ∈ exits)) hnew
    rw [tree_setTree] at hfound
    exact (exists_isAbove_iff hkind').trans (hfound.trans hkept)
  constructor
  · intro hno m habove hm
    by_contra hout
    obtain ⟨found, hfound, hexits⟩ := hexit.2 ⟨m, reaches_iff.2 (.inr habove), hout, hm⟩
    exact hno found hfound hexits
  · intro hin m habove hm
    obtain ⟨found, hreaches, hout, hexits⟩ := hexit.1 ⟨m, habove, hm⟩
    rcases reaches_iff.1 hreaches with rfl | hbelow
    · exact hkind hexits
    · exact hout (hin found hbelow hexits)

/-! ## Verdicts -/

/-- Whether there are exits below a node, and all of them are in a body. -/
structure ExitsOnlyIn (n body : Node) (exits : List String) : Prop where
  exists_exit : ∃ m, n.IsAbove m ∧ m.kind ∈ exits
  reaches : ∀ m, n.IsAbove m → m.kind ∈ exits → body.Reaches m

/-- If one exit is all that a search finds, it is enough that this one is in the body. -/
theorem exitsOnlyIn_of_innerOfKind_eq {exit : Node} (h : n.innerOfKind exits = [exit])
    (hbody : body.Reaches exit) : ExitsOnlyIn n body exits := by
  have hfound : ∀ m, n.IsAbove m ∧ m.kind ∈ exits ↔ m = exit := by
    intro m
    rw [← mem_innerOfKind, h, List.mem_singleton]
  refine ⟨⟨exit, (hfound exit).2 rfl⟩, fun m habove hm => ?_⟩
  rw [(hfound m).1 ⟨habove, hm⟩]
  exact hbody

/-- If all that matters for a verdict besides the exits stays, it changes for the worse only, and exactly
if the exits were in the body. -/
theorem verdict_iff {basis before after : Prop}
    (hbefore : before ↔ basis ∧ ∀ m, n.IsAbove m → m.kind ∉ exits)
    (hafter : after ↔ basis ∧ ∀ m, n.IsAbove m → m.kind ∈ exits → body.Reaches m) :
    (before → after) ∧ (after ∧ ¬before ↔ basis ∧ ExitsOnlyIn n body exits) := by
  rw [hbefore, hafter]
  refine ⟨?_, ?_, ?_⟩
  · rintro ⟨hbasis, hno⟩
    exact ⟨hbasis, fun m habove hm => absurd hm (hno m habove)⟩
  · rintro ⟨⟨hbasis, hin⟩, hnot⟩
    refine ⟨hbasis, ?_, hin⟩
    by_contra hnone
    exact hnot ⟨hbasis, fun m habove hm => hnone ⟨m, habove, hm⟩⟩
  · rintro ⟨hbasis, ⟨m, habove, hm⟩, hin⟩
    exact ⟨⟨hbasis, hin⟩, fun hreported => hreported.2 m habove hm⟩

/-- Whether a document becomes another one when the body of a function, which stands in a node that is
reached, is emptied. Where the node is declared to return something, the declaration reads the same. -/
structure Emptied (d d' : Document) (n g body : Node) (blank : Tree) : Prop where
  reaches : d.root.Reaches n
  surrounds : n.Surrounds g
  isFunction : g.kind ∈ functionKinds ++ ["method_definition"]
  child_eq : g.child? "body" = some body
  isEmptyBlock : blank.IsEmptyBlock
  tree_eq : d'.tree = (body.setTree blank).top
  text_eq : ∀ annotation, n.child? "return_type" = some annotation →
    d'.text annotation = d.text annotation

/-- What the function becomes, and what the node becomes. -/
theorem Emptied.exists_becomes (h : Emptied d d' n g body blank) : ∃ new changed,
    new.label = g.label ∧ Becomes g new n changed ∧ Becomes body blank n changed := by
  obtain ⟨index, tree, htree, rfl⟩ := mem_children_iff.1 (List.mem_of_find?_eq_some h.child_eq)
  obtain ⟨changed, hchanged⟩ := Node.exists_becomes h.surrounds
    (.node g.label (g.tree.children.set index blank))
  exact ⟨.node g.label _, changed, rfl, hchanged, hchanged.trans (.above htree .here)⟩

/-- No node of an empty block is an exit. -/
theorem Emptied.not_exit (h : Emptied d d' n g body blank) {tree : Tree} (hreaches : blank.Reaches tree)
    (hexits : "statement_block" ∉ exits) : tree.label.kind ∉ exits := by
  rw [h.isEmptyBlock.eq_of_reaches hreaches, h.isEmptyBlock.kind]
  exact hexits

/-- **Emptying the body of a nested function loses no finding about a function or a loop around it, and one
appears exactly if there are exits and all of them are in that body.** Nothing but the exits may keep the
rule from reporting, of course: the function is not declared to return nothing, the condition of the loop
holds always. -/
theorem verdicts_emptied (h : Emptied d d' n g body blank) :
    (n.kind ∈ checkedFunctionKinds →
      (Family.logic.Reports "MISSING_RETURN" d n →
        Family.logic.ReportsAt "MISSING_RETURN" d' n.path) ∧
      (Family.logic.ReportsAt "MISSING_RETURN" d' n.path ∧ ¬Family.logic.Reports "MISSING_RETURN" d n ↔
        isVoid d n = false ∧ ExitsOnlyIn n body returnKinds)) ∧
    (n.kind = "while_statement" →
      (Family.logic.Reports "INFINITE_LOOP" d n →
        Family.logic.ReportsAt "INFINITE_LOOP" d' n.path) ∧
      (Family.logic.ReportsAt "INFINITE_LOOP" d' n.path ∧ ¬Family.logic.Reports "INFINITE_LOOP" d n ↔
        HoldsAlways n ∧ ExitsOnlyIn n body loopExitKinds)) := by
  obtain ⟨new, changed, hlabel, hbecomes, hbody⟩ := h.exists_becomes
  have hsame : changed.label = n.label := hbecomes.label_eq hlabel
  have hne : n ≠ g := fun heq => Nat.lt_irrefl _ (heq ▸ h.surrounds.length_path_lt)
  -- No function is an expression in parentheses, so the changed node does not hide in a layer.
  have hbare : ∀ kind ∈ functionKinds ++ ["method_definition"], kind ≠ parenthesesKind := by decide
  have hkind : (n.setTree changed).kind = n.kind := by
    rw [Node.kind, Node.label, tree_setTree, hsame]
    rfl
  have hreaches : d'.root.Reaches (n.setTree changed) := by
    rw [Document.root, h.tree_eq, ← hbody.top_eq]
    exact h.reaches.setTree (congrArg Label.named hsame)
  refine ⟨fun hchecked => verdict_iff ?_ ?_, fun hwhile => verdict_iff ?_ ?_⟩
  · rw [reports_missingReturn_iff, and_iff_right h.reaches, and_iff_right hchecked]
  · -- A function or a loop is not an exit itself, and the blank body has none.
    have hstay : ∀ kind ∈ checkedFunctionKinds, kind ∉ returnKinds := by decide
    have hexit := noExit_setTree_iff hbody (hstay n.kind hchecked) hsame fun tree hreaches =>
      h.not_exit hreaches (by decide)
    rw [← path_setTree n changed, (hasRule_missingReturn d').reportsAt_iff hreaches,
      reports_missingReturn_iff, and_iff_right hreaches, hkind, and_iff_right hchecked, hexit,
      isVoid_setTree hbecomes hlabel hne h.text_eq]
  · rw [reports_infiniteLoop_iff, and_iff_right h.reaches, and_iff_right hwhile]
  · have hstay : n.kind ∉ loopExitKinds := by
      rw [hwhile]
      decide
    have hexit := noExit_setTree_iff hbody hstay hsame fun tree hreaches =>
      h.not_exit hreaches (by decide)
    rw [← path_setTree n changed, (hasRule_infiniteLoop d').reportsAt_iff hreaches,
      reports_infiniteLoop_iff, and_iff_right hreaches, hkind, and_iff_right hwhile, hexit,
      holdsAlways_setTree hbecomes hlabel (hbare g.kind h.isFunction) hne]

/-- A function that does nothing but go round in a loop, and in the loop a function with some body. -/
def looping (text : String) (body : Tree) : Document where
  bytes := Utf8.encode text.toList
  tree := .node ⟨"program", true, false, false, false, 0, 50, none⟩
    [.node ⟨"function_declaration", true, false, false, false, 0, 50, none⟩
      [.node ⟨"identifier", true, false, false, false, 9, 10, some "name"⟩ [],
        .node ⟨"formal_parameters", true, false, false, false, 10, 12, some "parameters"⟩ [],
        .node ⟨"statement_block", true, false, false, false, 13, 50, some "body"⟩
          [.node ⟨"while_statement", true, false, false, false, 15, 48, none⟩
            [.node ⟨"parenthesized_expression", true, false, false, false, 21, 27, some "condition"⟩
              [.node ⟨"true", true, false, false, false, 22, 26, none⟩ []],
              .node ⟨"expression_statement", true, false, false, false, 28, 48, some "body"⟩
                [.node ⟨"arrow_function", true, false, false, false, 28, 47, none⟩
                  [.node ⟨"formal_parameters", true, false, false, false, 28, 30, some "parameters"⟩ [],
                    body]]]]]]

/-- The inner function returns a number. -/
def returning : Document :=
  looping "function f() \x7b while (true) () => \x7b return 1; \x7d; \x7d"
    (.node ⟨"statement_block", true, false, false, false, 34, 47, some "body"⟩
      [.node ⟨"return_statement", true, false, false, false, 36, 45, none⟩
        [.node ⟨"number", true, false, false, false, 43, 44, none⟩ []]])

def blankBlock : Tree :=
  .node ⟨"statement_block", true, false, false, false, 34, 47, some "body"⟩ []

/-- The inner function does nothing. -/
def idling : Document :=
  looping "function f() \x7b while (true) () => \x7b           \x7d; \x7d" blankBlock

theorem exists_emptied : ∃ f loop g body,
    (f.kind = "function_declaration" ∧ Emptied returning idling f g body blankBlock ∧
      isVoid returning f = false ∧ ExitsOnlyIn f body returnKinds) ∧
    loop.kind = "while_statement" ∧ Emptied returning idling loop g body blankBlock ∧
      HoldsAlways loop ∧ ExitsOnlyIn loop body loopExitKinds := by
  obtain ⟨f, loop, g, body, exit, ⟨hf, hkind, hdeclared⟩, ⟨hloop, hopens, hundeclared⟩, hg, hbody, htree,
      hexit, hreturns, hleaves⟩ :
      ∃ f loop g body exit,
        (returning.root.namedChildren = [f] ∧ f.kind = "function_declaration" ∧
          f.child? "return_type" = none) ∧
        (f.innerOfKind ["while_statement"] = [loop] ∧ HoldsAlways loop ∧
          loop.child? "return_type" = none) ∧
        loop.innerOfKind ["arrow_function"] = [g] ∧ g.child? "body" = some body ∧
        idling.tree = (body.setTree blankBlock).top ∧ body.namedChildren = [exit] ∧
        f.innerOfKind returnKinds = [exit] ∧ loop.innerOfKind loopExitKinds = [exit] := by
    simp only [innerOfKind, descendants_eq]
    exact ⟨_, _, _, _, _, ⟨by rfl, by rfl, by rfl⟩,
      ⟨by rfl, holdsAlways_iff.2 ⟨_, by rfl, .layer (by rfl) (by rfl) (.bare (by decide) (by rfl))⟩,
        by rfl⟩, by rfl, by rfl, by rfl, by rfl, by rfl, by rfl⟩
  -- The one exit stands in the body of the arrow function, below the loop and below the function.
  have hreaches : returning.root.Reaches f := Reaches.first .refl hf
  have hfound {n m : Node} {kinds : List String} (h : n.innerOfKind kinds = [m]) :
      n.IsAbove m ∧ m.kind ∈ kinds := by
    rw [← mem_innerOfKind, h]
    exact List.mem_singleton_self m
  obtain ⟨hfloop, hwhile⟩ := hfound hloop
  obtain ⟨hloopg, harrow⟩ := hfound hg
  have hemptied {n : Node} (hn : returning.root.Reaches n) (hinner : n.IsAbove g)
      (hnone : n.child? "return_type" = none) : Emptied returning idling n g body blankBlock := by
    refine ⟨hn, hinner.surrounds, ?_, hbody, ⟨rfl, by decide⟩, htree, fun annotation hannotation => ?_⟩
    · rw [List.mem_singleton.1 harrow]
      decide
    · rw [hnone] at hannotation
      cases hannotation
  have hreturned : body.Reaches exit := Reaches.first .refl hexit
  refine ⟨f, loop, g, body, ⟨hkind, hemptied hreaches (hfloop.trans hloopg) hdeclared, ?_,
    exitsOnlyIn_of_innerOfKind_eq hreturns hreturned⟩, List.mem_singleton.1 hwhile,
    hemptied (hreaches.trans (reaches_iff.2 (.inr hfloop))) hloopg hundeclared, hopens,
    exitsOnlyIn_of_innerOfKind_eq hleaves hreturned⟩
  rw [isVoid, hdeclared]

/-- The return statement of the inner function hides that the outer one returns nothing, and that nothing
leaves the loop. -/
theorem verdicts_emptied_returning : ∃ f loop g body,
    Emptied returning idling f g body blankBlock ∧ Emptied returning idling loop g body blankBlock ∧
      (Family.logic.ReportsAt "MISSING_RETURN" idling f.path ∧
        ¬Family.logic.Reports "MISSING_RETURN" returning f) ∧
      Family.logic.ReportsAt "INFINITE_LOOP" idling loop.path ∧
        ¬Family.logic.Reports "INFINITE_LOOP" returning loop := by
  obtain ⟨f, loop, g, body, ⟨hkind, hf, hvoid, hreturns⟩, hwhile, hloop, hopens, hleaves⟩ := exists_emptied
  have hchecked : f.kind ∈ checkedFunctionKinds := by
    rw [hkind]
    decide
  exact ⟨f, loop, g, body, hf, hloop, ((verdicts_emptied hf).1 hchecked).2.2 ⟨hvoid, hreturns⟩,
    ((verdicts_emptied hloop).2 hwhile).2.2 ⟨hopens, hleaves⟩⟩

end Logic

end ScriptAudit
