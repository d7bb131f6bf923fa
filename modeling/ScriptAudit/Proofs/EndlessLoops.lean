import ScriptAudit.Proofs.NodesBelow
import ScriptAudit.Proofs.RuleFindings

/-!
# Loops without an end

The rule about loops without an exit takes the parentheses off a condition layer by layer, and goes on
each time with the first named node inside. A comment is a named node as well. Behind the expression it is
not looked at. In front of the expression it is taken for the condition, and the loop is passed over.

- `Node.Wraps`: layers of parentheses around a node, whatever comments are in them.
- `Node.unwrapped?_eq_some_iff`: **what is taken for the content of parentheses is the node in the innermost
  layer, if no layer opens with a comment.**
- `Logic.HoldsAlways`, `Logic.mem_infiniteLoop_iff`: what the rule finds at a node.
- `Logic.IsEndless`: a loop on the literal true that nothing leaves, whatever comments are in the condition.
- `Logic.endlessLoops_iff`: **such a loop is reported if and only if no layer opens with a comment.**
-/

namespace ScriptAudit

namespace Node

variable {n m : Node} {layers : List Node}

/-! ## Parentheses -/

/-- Whether layers of parentheses stand around a node, the outermost first. In each layer the first named
node that is no comment is the next layer or, in the innermost one, the node. -/
inductive Wraps : Node → List Node → Node → Prop
  | bare {n : Node} (hkind : n.kind ≠ parenthesesKind) : Wraps n [] n
  | layer {n inside m : Node} {layers : List Node} (hkind : n.kind = parenthesesKind)
      (hinside : n.namedChildren.find? (·.kind != "comment") = some inside)
      (hwraps : Wraps inside layers m) :
    Wraps n (n :: layers) m

/-- Whether the first named node in a pair of parentheses is a comment. -/
def OpensWithComment (layer : Node) : Prop :=
  ∃ first, layer.namedChildren.head? = some first ∧ first.kind = "comment"

/-- There is only one way to take the parentheses off. -/
theorem Wraps.unique {m' : Node} {layers' : List Node} (h : n.Wraps layers m)
    (h' : n.Wraps layers' m') : layers = layers' ∧ m = m' := by
  induction h generalizing layers' m' with
  | bare hkind =>
    cases h' with
    | bare _ => exact ⟨rfl, rfl⟩
    | layer hkind' _ _ => exact absurd hkind' hkind
  | layer hkind hinside _ ih =>
    cases h' with
    | bare hkind' => exact absurd hkind hkind'
    | layer _ hinside' hwraps' =>
      cases hinside.symm.trans hinside'
      obtain ⟨rfl, rfl⟩ := ih hwraps'
      exact ⟨rfl, rfl⟩

theorem unwrapped?_bare (h : n.kind ≠ parenthesesKind) : n.unwrapped? = some n := by
  rw [unwrapped?, if_neg h]

theorem unwrapped?_layer (h : n.kind = parenthesesKind) :
    n.unwrapped? = n.namedChildren.head?.bind unwrapped? := by
  rw [unwrapped?, if_pos h]
  split
  · rename_i hchildren
    rw [hchildren]
    rfl
  · rename_i hchildren
    rw [hchildren]
    rfl

/-- A layer that does not open with a comment opens with what is inside. -/
theorem head?_eq_of_not_opensWithComment {inside : Node}
    (hinside : n.namedChildren.find? (·.kind != "comment") = some inside)
    (hopens : ¬n.OpensWithComment) : n.namedChildren.head? = some inside := by
  cases hchildren : n.namedChildren with
  | nil =>
    rw [hchildren] at hinside
    cases hinside
  | cons first rest =>
    have hfirst : first.kind ≠ "comment" := fun hkind => hopens ⟨first, by rw [hchildren]; rfl, hkind⟩
    rw [hchildren, List.find?_cons_of_pos (by simpa using hfirst)] at hinside
    exact hinside

/-- What is taken for the content of parentheses is what they wrap, if no layer opens with a comment. -/
theorem unwrapped?_eq_some_iff (hm : m.kind ≠ "comment") :
    n.unwrapped? = some m ↔ ∃ layers, n.Wraps layers m ∧ ∀ layer ∈ layers, ¬layer.OpensWithComment := by
  constructor
  · intro hunwrapped
    induction n using named_induction with
    | h n ih =>
      by_cases hkind : n.kind = parenthesesKind
      · rw [unwrapped?_layer hkind, Option.bind_eq_some_iff] at hunwrapped
        obtain ⟨first, hfirst, hunwrapped⟩ := hunwrapped
        obtain ⟨layers, hwraps, hlayers⟩ := ih first (List.mem_of_head? hfirst) hunwrapped
        -- The first node is no comment, or else it would be what is taken for the content.
        have hcomment : first.kind ≠ "comment" := by
          rintro hcomment
          have hbare : first.kind ≠ parenthesesKind := by
            rw [hcomment]
            decide
          rw [unwrapped?_bare hbare] at hunwrapped
          cases hunwrapped
          exact hm hcomment
        refine ⟨n :: layers, .layer hkind ?_ hwraps, List.forall_mem_cons.2 ⟨?_, hlayers⟩⟩
        · obtain ⟨rest, hchildren⟩ := List.head?_eq_some_iff.1 hfirst
          rw [hchildren, List.find?_cons_of_pos (by simpa using hcomment)]
        · rintro ⟨other, hother, hkind'⟩
          cases hfirst.symm.trans hother
          exact hcomment hkind'
      · rw [unwrapped?_bare hkind] at hunwrapped
        cases hunwrapped
        exact ⟨[], .bare hkind, fun layer hlayer => absurd hlayer List.not_mem_nil⟩
  · rintro ⟨layers, hwraps, hlayers⟩
    induction hwraps with
    | bare hkind => exact unwrapped?_bare hkind
    | layer hkind hinside _ ih =>
      obtain ⟨hopens, hlayers⟩ := List.forall_mem_cons.1 hlayers
      rw [unwrapped?_layer hkind, head?_eq_of_not_opensWithComment hinside hopens]
      exact ih hm hlayers

end Node

namespace Logic

open Node

variable {d : Document} {n loop condition literal : Node} {layers : List Node}

/-! ## What the rule finds -/

/-- The kinds of statements that leave a loop. -/
def loopExitKinds : List String :=
  ["break_statement", "return_statement"]

/-- Whether the condition of a loop is taken for the literal true. -/
def HoldsAlways (n : Node) : Prop :=
  ∃ condition literal, n.child? "condition" = some condition ∧ condition.unwrapped? = some literal ∧
    literal.kind = "true"

/-- The finding about a loop without an exit. -/
def endlessLoop (loop : Node) : Finding :=
  .plain loop .error "INFINITE_LOOP" "Potential infinite loop detected"

theorem mem_infiniteLoop_iff (n : Node) (f : Finding) :
    f ∈ infiniteLoop n ↔ (n.kind = "while_statement" ∧ HoldsAlways n ∧
      ∀ m, n.IsAbove m → m.kind ∉ loopExitKinds) ∧ f = endlessLoop n := by
  have hholds : ((n.child? "condition").bind unwrapped?).any (·.kind == "true") = true
      ↔ HoldsAlways n := by
    simp only [Option.any_eq_true, Option.bind_eq_some_iff, beq_iff_eq]
    constructor
    · rintro ⟨literal, ⟨condition, hcondition, hunwrapped⟩, hliteral⟩
      exact ⟨condition, literal, hcondition, hunwrapped, hliteral⟩
    · rintro ⟨condition, literal, hcondition, hunwrapped, hliteral⟩
      exact ⟨literal, ⟨condition, hcondition, hunwrapped⟩, hliteral⟩
  rw [infiniteLoop, List.mem_ite_nil_right, List.mem_singleton, Bool.and_eq_true, Bool.and_eq_true,
    decide_eq_true_eq, hholds, Bool.not_eq_true', contains_eq_false_iff, and_assoc (a := n.kind = _)]
  rfl

/-! ## Endless loops -/

/-- Whether a loop goes on for ever: its condition is the literal true under any layers of parentheses and
among any comments in them, and nothing below it leaves it. -/
structure IsEndless (loop condition : Node) (layers : List Node) (literal : Node) : Prop where
  kind : loop.kind = "while_statement"
  child_eq : loop.child? "condition" = some condition
  wraps : condition.Wraps layers literal
  isTrue : literal.kind = "true"
  noExit : ∀ m, loop.IsAbove m → m.kind ∉ loopExitKinds

theorem HoldsAlways.exists_wraps (h : HoldsAlways loop) : ∃ condition layers literal,
    loop.child? "condition" = some condition ∧ condition.Wraps layers literal ∧
      literal.kind = "true" ∧ ∀ layer ∈ layers, ¬layer.OpensWithComment := by
  obtain ⟨condition, literal, hcondition, hunwrapped, hliteral⟩ := h
  have hcomment : literal.kind ≠ "comment" := by
    rw [hliteral]
    decide
  obtain ⟨layers, hwraps, hlayers⟩ := (unwrapped?_eq_some_iff hcomment).1 hunwrapped
  exact ⟨condition, layers, literal, hcondition, hwraps, hliteral, hlayers⟩

/-- The condition of an endless loop is taken for the literal true if no layer opens with a comment. -/
theorem IsEndless.holdsAlways_iff (h : IsEndless loop condition layers literal) :
    HoldsAlways loop ↔ ∀ layer ∈ layers, ¬layer.OpensWithComment := by
  constructor
  · intro hholds
    obtain ⟨condition', layers', literal', hcondition, hwraps, -, hlayers⟩ := hholds.exists_wraps
    cases h.child_eq.symm.trans hcondition
    obtain ⟨rfl, rfl⟩ := h.wraps.unique hwraps
    exact hlayers
  · intro hlayers
    have hcomment : literal.kind ≠ "comment" := by
      rw [h.isTrue]
      decide
    exact ⟨condition, literal, h.child_eq,
      (unwrapped?_eq_some_iff hcomment).2 ⟨layers, h.wraps, hlayers⟩, h.isTrue⟩

theorem reports_infiniteLoop_iff : Family.logic.Reports "INFINITE_LOOP" d loop ↔
    d.root.Reaches loop ∧ loop.kind = "while_statement" ∧ HoldsAlways loop ∧
      ∀ m, loop.IsAbove m → m.kind ∉ loopExitKinds :=
  (hasRule_infiniteLoop d).reports_iff_applies mem_infiniteLoop_iff

/-- **An endless loop is reported if and only if no layer of parentheses in its condition opens with a
comment.** What is reported are loops that are reached, are endless and have no such layer, and all
findings say the same. A comment behind the expression hides nothing; a comment in front of it hides the
loop, in whatever layer it is. -/
theorem endlessLoops_iff (d : Document) (loop : Node) :
    (Family.logic.Reports "INFINITE_LOOP" d loop ↔
      d.root.Reaches loop ∧ ∃ condition layers literal,
        IsEndless loop condition layers literal ∧ ∀ layer ∈ layers, ¬layer.OpensWithComment) ∧
    (∀ condition layers literal, d.root.Reaches loop → IsEndless loop condition layers literal →
      (Family.logic.Reports "INFINITE_LOOP" d loop ↔ ∀ layer ∈ layers, ¬layer.OpensWithComment)) ∧
    ∀ f ∈ Family.logic.findings d, f.code = "INFINITE_LOOP" → f = endlessLoop f.node := by
  refine ⟨?_, ?_, (hasRule_infiniteLoop d).eq_finding mem_infiniteLoop_iff⟩
  · rw [reports_infiniteLoop_iff]
    refine and_congr_right fun _ => ⟨?_, ?_⟩
    · rintro ⟨hkind, hholds, hexit⟩
      obtain ⟨condition, layers, literal, hcondition, hwraps, hliteral, hlayers⟩ := hholds.exists_wraps
      exact ⟨condition, layers, literal, ⟨hkind, hcondition, hwraps, hliteral, hexit⟩, hlayers⟩
    · rintro ⟨condition, layers, literal, h, hlayers⟩
      exact ⟨h.kind, h.holdsAlways_iff.2 hlayers, h.noExit⟩
  · intro condition layers literal hreaches h
    rw [reports_infiniteLoop_iff, h.holdsAlways_iff]
    exact ⟨fun hreported => hreported.2.2.1, fun hlayers => ⟨hreaches, h.kind, hlayers, h.noExit⟩⟩

/-- An endless loop with a comment in front of its condition. -/
def remarked : Document where
  bytes := Utf8.encode "while (/* on */ true) \x7b\x7d".toList
  tree := .node ⟨"program", true, false, false, false, 0, 24, none⟩
    [.node ⟨"while_statement", true, false, false, false, 0, 24, none⟩
      [.node ⟨"parenthesized_expression", true, false, false, false, 6, 21, some "condition"⟩
        [.node ⟨"comment", true, false, false, false, 7, 15, none⟩ [],
          .node ⟨"true", true, false, false, false, 16, 20, none⟩ []],
        .node ⟨"statement_block", true, false, false, false, 22, 24, some "body"⟩ []]]

theorem isEndless_remarked : ∃ loop condition literal, remarked.root.Reaches loop ∧
    IsEndless loop condition [condition] literal ∧ condition.OpensWithComment := by
  obtain ⟨loop, hroot⟩ : ∃ loop, remarked.root.namedChildren = [loop] := ⟨_, rfl⟩
  obtain ⟨condition, block, hchildren⟩ : ∃ condition block,
      loop.namedChildren = [condition, block] := by
    cases hroot
    exact ⟨_, _, rfl⟩
  -- Below the condition, whose comment is passed over, and the empty block there is no way out.
  have htop : remarked.root.Reaches remarked.root := .refl
  have hreaches : remarked.root.Reaches loop := htop.first hroot
  have hexit : loop.innerOfKind loopExitKinds = [] := by
    cases hroot
    rw [innerOfKind, descendants_eq]
    rfl
  cases hroot
  cases hchildren
  refine ⟨_, _, _, hreaches, ⟨rfl, rfl, .layer rfl rfl (.bare (by decide)), rfl, fun m hm hkind => ?_⟩,
    _, rfl, rfl⟩
  have hmem := mem_innerOfKind.2 ⟨hm, hkind⟩
  rw [hexit] at hmem
  cases hmem

/-- The comment hides the loop. -/
theorem endlessLoops_remarked :
    ∃ loop condition literal, remarked.root.Reaches loop ∧ IsEndless loop condition [condition] literal ∧
      ¬Family.logic.Reports "INFINITE_LOOP" remarked loop := by
  obtain ⟨loop, condition, literal, hreaches, hendless, hopens⟩ := isEndless_remarked
  obtain ⟨-, hreported, -⟩ := endlessLoops_iff remarked loop
  refine ⟨loop, condition, literal, hreaches, hendless, fun h => ?_⟩
  exact (hreported condition [condition] literal hreaches hendless).1 h condition
    (List.mem_singleton_self condition) hopens

end Logic

end ScriptAudit
