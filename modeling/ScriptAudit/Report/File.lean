import ScriptAudit.Issue.Basic
import ScriptAudit.Metric.Complexity

/-!
# Reports on files

* `FileMetrics` : what was measured in a file. Only the number of lines is always known.
* `FileReport` : the issues and the metrics of a file.
-/

namespace ScriptAudit

/-- The measurements of a file. -/
structure FileMetrics where
  lines : Number
  complexity : Option Number
  functions : Option Number
  classes : Option Number
  imports : Option Number
  deriving DecidableEq, Repr

namespace FileMetrics

/-- The metrics of a file of which only the number of lines is known. -/
def ofLines (lines : Nat) : FileMetrics :=
  ⟨.whole lines, none, none, none, none⟩

/-- The metrics of a file that was parsed. -/
def measured (lines complexity : Nat) (s : Structure) : FileMetrics :=
  ⟨.whole lines, some (.whole complexity), some (.whole s.functions), some (.whole s.classes),
    some (.whole s.imports)⟩

/-- Metrics as data; an unknown one is left out. -/
def toValue (m : FileMetrics) : Value :=
  let known (name : String) (count : Option Number) : List (String × Value) :=
    (count.map fun n => (name, n.toValue)).toList
  .table (("linesOfCode", m.lines.toValue) :: known "complexity" m.complexity
    ++ known "functions" m.functions ++ known "classes" m.classes ++ known "imports" m.imports)

end FileMetrics

/-- What came of one file. -/
structure FileReport where
  path : String
  issues : List Issue
  metrics : FileMetrics

namespace FileReport

/-- The number of issues of a severity. -/
def count (r : FileReport) (severity : Severity) : Nat :=
  r.issues.countP (·.severity == severity)

/-- A report as data. -/
def toValue (r : FileReport) : Value :=
  .table [("filePath", .text r.path), ("issues", .list (r.issues.map Issue.toValue)),
    ("metrics", r.metrics.toValue)]

end FileReport

end ScriptAudit
