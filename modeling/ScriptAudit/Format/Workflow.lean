import ScriptAudit.Failure.Basic
import ScriptAudit.Report.Project

/-!
# Workflow annotations

One command line for each issue, and a summary in Markdown.

* `Workflow.escape`, `Workflow.unescape` : percent signs and line ends in a message.
* `Workflow.annotation` : the command for an issue.
* `Workflow.render` : the annotations and the summary of a report.
* `Workflow.renderWithin` : the same, if all that is written there can be written.
-/

namespace ScriptAudit.Workflow

/-- One character of a message. -/
def escapeChar (c : Char) : List Char :=
  if c = '%' then ['%', '2', '5']
  else if c = '\r' then ['%', '0', 'D']
  else if c = '\n' then ['%', '0', 'A']
  else [c]

/-- A message without line ends. -/
def escape (message : List Char) : List Char :=
  message.flatMap escapeChar

/-- The message that was escaped. -/
def unescape : List Char → List Char
  | '%' :: '2' :: '5' :: rest => '%' :: unescape rest
  | '%' :: '0' :: 'D' :: rest => '\r' :: unescape rest
  | '%' :: '0' :: 'A' :: rest => '\n' :: unescape rest
  | c :: rest => c :: unescape rest
  | [] => []

/-- The name of a severity in commands. -/
def level : Severity → String
  | .error => "error"
  | .warning => "warning"
  | .info => "notice"

/-- A position, as a property with a leading comma; an unknown one is left out. -/
def position (name : String) (value : Value) : String :=
  if value.isSet then "," ++ name ++ "=" ++ value.display else ""

/-- The command for an issue with a message. -/
def command (issue : Issue) (message : String) : String :=
  "::" ++ level issue.severity ++ " file=" ++ issue.filePath ++ position "line" issue.line
    ++ position "col" issue.column ++ ",title=" ++ issue.code.display ++ "::"
    ++ String.ofList (escape message.toList)

/-- The command for an issue. Its message has to be text. -/
def annotation (issue : Issue) : Except Failure String :=
  match issue.message with
  | .text message => .ok (command issue message)
  | .torn t => .ok (command issue t.text)
  | other =>
    .error (.ofFault .wrongShape ("'" ++ other.typeName ++ "' object has no attribute 'replace'"))

/-- The lines of the summary. -/
def summary (r : ProjectReport) : List String :=
  let row (name value : String) : String := "| " ++ name ++ " | " ++ value ++ " |"
  ["", "## SourceScope", "", "| Metric | Value |", "|--------|-------|",
    row "Framework" r.framework,
    row "Files analyzed" (intText r.analyzedFiles ++ " / " ++ intText r.totalFiles),
    row "Lines of code" (r.metrics.lines.toValue.display),
    row "Average complexity" (fixedText 2 r.metrics.averageComplexity),
    row "Maintainability index" (fixedText 2 r.metrics.maintainability), "",
    "**Issues:** " ++ natText r.metrics.breakdown.errors ++ " errors, "
      ++ natText r.metrics.breakdown.warnings ++ " warnings, "
      ++ natText r.metrics.breakdown.infos ++ " info"]

/-- The annotations of a report, and its summary. -/
def render (r : ProjectReport) : Except Failure String :=
  (r.issues.mapM annotation).map fun annotations => "\n".intercalate (annotations ++ summary r)

/-- The command for an issue, if its position and its code can be written. -/
def annotationWithin (depth : Nat) (issue : Issue) : Except Failure String := do
  let _ ← issue.line.told depth
  let _ ← issue.column.told depth
  let _ ← issue.code.told depth
  annotation issue

/-- The same for a report whose values are told with so much room for what is nested in them. -/
def renderWithin (depth : Nat) (r : ProjectReport) : Except Failure String :=
  (r.issues.mapM (annotationWithin depth)).map fun annotations =>
    "\n".intercalate (annotations ++ summary r)

end ScriptAudit.Workflow
