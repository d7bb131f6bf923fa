import ScriptAudit.Issue.Basic
import ScriptAudit.Tree.Query

/-!
# Rule families

A rule looks at one node of a document and says what is wrong there. Related rules form a family.
A detector is anything that turns a document into issues, and it may fail.

* `Finding` : what a rule says, and about which node.
* `Family` : rules with a name and a category. `Family.findings` applies them to every node that a
  walk enters.
* `Detection`, `Detector` : the outcome of a detector, and the detector; `Family.detector` never
  fails.
-/

namespace ScriptAudit

/-- Something wrong at a node. -/
structure Finding where
  node : Node
  severity : Severity
  code : String
  message : String
  fix : Option Fix

/-- A finding without a suggested change. -/
def Finding.plain (node : Node) (severity : Severity) (code message : String) : Finding :=
  ⟨node, severity, code, message, none⟩

/-- A finding as an issue of a file. -/
def Finding.toIssue (d : Document) (category : Category) (path : String) (f : Finding) : Issue :=
  Issue.found category f.severity f.code f.message path (d.line f.node) (d.column f.node) f.fix

/-- Rules with a name and a category. What the rules need to know of the whole document is
gathered once, in `survey`. -/
structure Family where
  name : String
  category : Category
  Knowledge : Type
  survey : Document → Knowledge
  rules : Document → Knowledge → Node → List Finding

/-- The findings at every node that a walk enters, in the order of the walk. -/
def Family.findings (family : Family) (d : Document) : List Finding :=
  let knowledge := family.survey d
  d.root.reached.flatMap (family.rules d knowledge)

/-- The outcome of a detector: all its issues, or a failure after some issues. -/
inductive Detection where
  | complete (issues : List Issue)
  | failed (reported : List Issue) (reason : String)

/-- The issues that count: those of a detector that did not fail. -/
def Detection.issues : Detection → List Issue
  | .complete issues => issues
  | .failed .. => []

/-- Turns the document of a file into issues. -/
structure Detector where
  name : String
  detect : Document → (path : String) → Detection

/-- A family as a detector. -/
def Family.detector (family : Family) : Detector where
  name := family.name
  detect d path := .complete ((family.findings d).map (Finding.toIssue d family.category path))

end ScriptAudit
