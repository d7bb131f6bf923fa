import ScriptAudit.Tree.Query

/-!
# Complexity

How many ways lead through a piece of code, and how hard it is to follow.

* `cyclomatic` : one more than the number of decisions.
* `cognitive` : each branching structure costs one more than the number of structures around it,
  and each logical operator costs one.
* `Structure`, `structureOf` : the functions, classes and imports of a document.
-/

namespace ScriptAudit

namespace Complexity

/-- The logical operators that make a decision. -/
def logicalOperators : List String := ["&&", "||"]

/-- The kinds that decide between two ways. -/
def decisionKinds : List String :=
  ["if_statement", "for_statement", "for_in_statement", "while_statement", "do_statement",
    "catch_clause", "ternary_expression"]

/-- The kinds that weigh on what they enclose. -/
def nestingKinds : List String :=
  ["if_statement", "for_statement", "while_statement", "switch_statement"]

/-- Whether a node is a logical operation. -/
def isLogical (n : Node) : Bool :=
  n.kind == "binary_expression" && logicalOperators.contains n.operator

/-- Whether a node decides between ways: a decision, a case of a switch, or a logical
operation. -/
def isDecision (n : Node) : Bool :=
  decisionKinds.contains n.kind || n.kind == "switch_case" || isLogical n

/-- Whether a node weighs on what it encloses. -/
def isNesting (n : Node) : Bool :=
  nestingKinds.contains n.kind

/-- The score of a walk and the number of structures it is inside of. -/
structure Tally where
  score : Nat
  nesting : Nat
  deriving DecidableEq, Repr

/-- Counts a decision. -/
def countDecision (n : Node) (score : Nat) : Nat :=
  if isDecision n then score + 1 else score

/-- Scores a node on entering it. -/
def enterScored (n : Node) (tally : Tally) : Tally :=
  if isNesting n then ⟨tally.score + 1 + tally.nesting, tally.nesting + 1⟩
  else if isLogical n then { tally with score := tally.score + 1 }
  else tally

/-- Leaves the structure that a node may be. -/
def leaveScored (n : Node) (tally : Tally) : Tally :=
  if isNesting n then { tally with nesting := tally.nesting - 1 } else tally

/-- The state at the end of a walk that scores nested structures. -/
def cognitiveTally (n : Node) : Tally :=
  n.walk enterScored leaveScored ⟨0, 0⟩

end Complexity

/-- One more than the number of decisions at and below a node. -/
def cyclomatic (n : Node) : Nat :=
  n.walk Complexity.countDecision (fun _ score => score) 1

/-- The nesting-weighted score of a node. -/
def cognitive (n : Node) : Nat :=
  (Complexity.cognitiveTally n).score

/-- The numbers of functions, classes and imports. -/
structure Structure where
  functions : Nat
  classes : Nat
  imports : Nat
  deriving DecidableEq, Repr

/-- The kinds of imports. -/
def importKinds : List String := ["import_statement"]

/-- The functions, classes and imports below a root. -/
def structureOf (root : Node) : Structure where
  functions := (root.innerOfKind functionKinds).length
  classes := (root.innerOfKind classKinds).length
  imports := (root.innerOfKind importKinds).length

end ScriptAudit
