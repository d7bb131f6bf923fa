import ScriptAudit.Format.Console
import ScriptAudit.Format.Csv
import ScriptAudit.Format.Workflow
import ScriptAudit.Json.Printer

/-!
# Formats

The ways to write a report.

* `Format` : the formats; `Format.ofName` refuses an unknown name.
* `Rendering` : what a format makes of a report.
* `Printer` : what the formats depend on.
* `Format.render` : a report in a format, as it is to be printed.
-/

namespace ScriptAudit

/-- The formats of reports. -/
inductive Format where
  | console
  | json
  | csv
  | workflow
  | quiet
  deriving DecidableEq, Repr

namespace Format

/-- The name of a format. -/
def name : Format → String
  | console => "rich"
  | json => "json"
  | csv => "csv"
  | workflow => "github"
  | quiet => "quiet"

/-- All formats, by name. -/
def all : List Format := [csv, workflow, json, quiet, console]

/-- The format with a name. -/
def ofName (name : String) : Except Failure Format :=
  match all.find? (·.name == name) with
  | some format => .ok format
  | none =>
    .error (.ofFault .wrongValue ("Unknown formatter: " ++ Text.quoteString name
      ++ ". Choose from: " ++ ", ".intercalate (all.map Format.name)))

end Format

/-- What a format makes of a report: a text, and the text as it is printed, or things for a
console. -/
inductive Rendering where
  | text (text printed : String)
  | console (items : List ConsoleItem)

/-- The paths of the files with issues, one a line. -/
def issuePaths (r : ProjectReport) : String :=
  "\n".intercalate ((r.files.filter fun file => !file.issues.isEmpty).map (·.path))

/-- A text that is printed with a line end. -/
def Rendering.lines (text : String) : Rendering :=
  .text text (text ++ "\n")

/-- What the formats depend on: how a console shows a report, how deeply a value may be nested where it
is told, and how deeply the data of a report may be nested. -/
structure Printer where
  view : ConsoleView
  toldDepth : Nat
  dataDepth : Nat

/-- Whether a text in an issue is torn. -/
def Issue.isTorn (issue : Issue) : Bool :=
  [issue.line, issue.column, issue.code, issue.message].any Value.isTorn

/-- Refuses issues with a torn text, of which nothing can be printed. -/
def checkWhole (issues : List Issue) : Except Failure Unit :=
  if issues.any Issue.isTorn then .error (.fault .torn) else .ok ()

/-- Renders a report that is to be printed. -/
def Format.render (p : Printer) (r : ProjectReport) : Format → Except Failure Rendering
  | console => do
    let items ← p.view.render p.toldDepth r
    checkWhole (p.view.listed r)
    return .console items
  | json =>
    match Json.unwritable? p.dataDepth r.toValue with
    | some reason => .error (.ofUnwritable reason)
    | none => .ok (.lines (Json.indented r.toValue))
  | csv => do
    let runes ← Csv.render p.toldDepth r
    checkWhole r.issues
    let text := Rune.text runes
    return .text text text
  | workflow => do
    let text ← Workflow.renderWithin p.toldDepth r
    checkWhole r.issues
    return .lines text
  | quiet =>
    let paths := issuePaths r
    .ok (if paths = "" then .text "" "" else .lines paths)

end ScriptAudit
