import ScriptAudit.Metric.Maintainability
import ScriptAudit.Report.File

/-!
# Reports on projects

* `Breakdown` : the number of issues of each severity.
* `ProjectMetrics`, `ProjectMetrics.ofReports` : sums and averages over files. A file that lacks a
  measurement adds nothing to its sum, and counts in every average.
* `ProjectMetrics.checked` : the same for measurements that may be beyond all floats.
* `ProjectReport` : everything that is known after a run.
-/

namespace ScriptAudit

/-- The number of issues of each severity. -/
structure Breakdown where
  errors : Nat
  warnings : Nat
  infos : Nat
  deriving DecidableEq, Repr

namespace Breakdown

/-- The number of issues of a severity in some files. -/
def countIn (reports : List FileReport) (severity : Severity) : Nat :=
  reports.foldr (fun r count => r.count severity + count) 0

/-- The breakdown of the issues of some files. -/
def ofReports (reports : List FileReport) : Breakdown :=
  ⟨countIn reports .error, countIn reports .warning, countIn reports .info⟩

/-- The number of issues of a severity. -/
def count (b : Breakdown) : Severity → Nat
  | .error => b.errors
  | .warning => b.warnings
  | .info => b.infos

/-- A breakdown as data. -/
def toValue (b : Breakdown) : Value :=
  .table (Severity.all.map fun severity => (severity.name, .int (b.count severity)))

end Breakdown

/-- Measurements of all files together. -/
structure ProjectMetrics where
  lines : Number
  averageComplexity : Float
  functions : Number
  classes : Number
  breakdown : Breakdown
  maintainability : Float

namespace ProjectMetrics

/-- What an optional measurement adds to a sum: an unknown one, like zero, adds nothing. -/
def share : Option Number → Number
  | none => .whole 0
  | some n => if n.equals 0 then .whole 0 else n

/-- The number of lines of all files. -/
def totalLines (reports : List FileReport) : Number :=
  Number.total (reports.map (·.metrics.lines))

/-- The sum of an optional measurement over files. -/
def total (reports : List FileReport) (measure : FileMetrics → Option Number) : Number :=
  Number.total (reports.map fun r => share (measure r.metrics))

/-- The average complexity of a file; without files it is zero. -/
def average (reports : List FileReport) : Float :=
  if reports.isEmpty then 0.0 else (total reports (·.complexity)).ratio (.whole reports.length)

/-- The metrics of a project. -/
def ofReports (reports : List FileReport) : ProjectMetrics where
  lines := totalLines reports
  averageComplexity := hundredths (average reports)
  functions := total reports (·.functions)
  classes := total reports (·.classes)
  breakdown := .ofReports reports
  maintainability := ScriptAudit.maintainability (average reports) (totalLines reports)

/-- The metrics of a project, unless its average complexity or its number of lines is beyond all
floats. -/
def checked (reports : List FileReport) : Except Failure ProjectMetrics := do
  if !reports.isEmpty then
    let _ ← (total reports (·.complexity)).divided (.whole reports.length)
  let _ ← roundHalfUp (.real (average reports)) (.whole 2)
  let _ ← maintainabilityOf (.float (average reports)) (totalLines reports).toValue
  return ofReports reports

/-- Metrics as data. -/
def toValue (m : ProjectMetrics) : Value :=
  .table [("totalLinesOfCode", m.lines.toValue), ("averageComplexity", .float m.averageComplexity),
    ("totalFunctions", m.functions.toValue), ("totalClasses", m.classes.toValue),
    ("issueBreakdown", m.breakdown.toValue), ("maintainabilityIndex", .float m.maintainability)]

end ProjectMetrics

/-- A moment at which a run ended. -/
structure Timestamp where
  date : Date
  clock : Clock
  offset : Option Int
  deriving DecidableEq, Repr

/-- A timestamp with the letter T between date and time. -/
def Timestamp.text (t : Timestamp) : String :=
  stampText "T" t.date t.clock t.offset

/-- What is known after a run: the directory that was searched, the files found and the files
analysed, and what came of each. -/
structure ProjectReport where
  projectPath : String
  framework : String
  totalFiles : Int
  analyzedFiles : Int
  issues : List Issue
  metrics : ProjectMetrics
  files : List FileReport
  duration : Int
  timestamp : Timestamp
  warnings : List String

/-- A report as data. -/
def ProjectReport.toValue (r : ProjectReport) : Value :=
  .table [("projectPath", .text r.projectPath), ("framework", .text r.framework),
    ("totalFiles", .int r.totalFiles), ("analyzedFiles", .int r.analyzedFiles),
    ("issues", .list (r.issues.map Issue.toValue)), ("metrics", r.metrics.toValue),
    ("fileAnalyses", .list (r.files.map FileReport.toValue)), ("duration", .int r.duration),
    ("timestamp", .text r.timestamp.text), ("warnings", .list (r.warnings.map .text))]

end ScriptAudit
