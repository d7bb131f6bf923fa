import ScriptAudit.Failure.Basic
import ScriptAudit.Format.Limit
import ScriptAudit.Report.Project

/-!
# Console reports

A summary, a table of the worst files, and the issues file by file, as what is handed to a console.
The console belongs to another library. It takes markup, with tags in square brackets, and it has a
way to write any text so that it stands for itself.

* `ConsoleItem` : one thing that a console shows.
* `Terminal` : a console.
* `weight`, `ranked` : how bad a file is, and the files with issues, the worst first.
* `ConsoleView.render` : everything that is shown for a report.
-/

namespace ScriptAudit

/-- One thing that a console shows: a line of markup, an empty line, a text in a frame that is no
wider than needed, or a table. -/
inductive ConsoleItem where
  | line (markup : String)
  | blank
  | panel (text title : String)
  | table (title : String) (columns : List String) (rows : List (List String))
  deriving DecidableEq, Repr

/-- The markup of something for a console, line by line and cell by cell. -/
def ConsoleItem.lines : ConsoleItem → List (List String)
  | line markup => [[markup]]
  | blank => [[""]]
  | panel text title => [[title], [text]]
  | table title columns rows => [title] :: columns :: rows

/-- A console: how a text is written as markup that stands for it, and the characters that are shown
for something, if it can be shown. -/
structure Terminal where
  escape : String → String
  shown? : ConsoleItem → Option String

/-- Several things as they are shown on a console. -/
def Terminal.allShown? (t : Terminal) (items : List ConsoleItem) : Option String :=
  (items.mapM t.shown?).map String.join

/-- A console, how many files the table shows there, and how many issues are listed for each file. -/
structure ConsoleView where
  terminal : Terminal
  files : Int
  issues : Int

namespace ConsoleView

/-- The usual view on a console. -/
def usual (t : Terminal) : ConsoleView := ⟨t, 15, 20⟩

/-- A text between an opening and a closing tag. -/
def tagged (tag text : String) : String :=
  "[" ++ tag ++ "]" ++ text ++ "[/" ++ tag ++ "]"

/-- What an issue weighs. -/
def severityWeight : Severity → Nat
  | .error => 100
  | .warning => 10
  | .info => 1

/-- What the issues of a file weigh. -/
def weight (r : FileReport) : Nat :=
  r.issues.foldr (fun issue weight => severityWeight issue.severity + weight) 0

/-- Orders files by descending weight, then by path. -/
def isBefore (a b : FileReport) : Bool :=
  weight b < weight a || (weight a == weight b && a.path ≤ b.path)

/-- The files with issues, the worst first. -/
def ranked (reports : List FileReport) : List FileReport :=
  (reports.filter fun r => !r.issues.isEmpty).mergeSort isBefore

/-- The verdict on a maintainability index. -/
def verdict (index : Float) : String :=
  if index ≥ 65.0 then tagged "green" "good"
  else if index ≥ 35.0 then tagged "yellow" "moderate"
  else tagged "red" "poor"

/-- The text of the summary. -/
def summaryText (view : ConsoleView) (r : ProjectReport) : String :=
  let m := r.metrics
  "Framework " ++ tagged "cyan" (view.terminal.escape r.framework) ++ "  |  Analyzed "
    ++ tagged "bold" (intText r.analyzedFiles) ++ " of " ++ intText r.totalFiles ++ " files  |  "
    ++ m.lines.toValue.display ++ " lines  |  " ++ intText r.duration ++ " ms\nIssues: "
    ++ tagged "red" (natText m.breakdown.errors ++ " errors") ++ ", "
    ++ tagged "yellow" (natText m.breakdown.warnings ++ " warnings") ++ ", "
    ++ tagged "blue" (natText m.breakdown.infos ++ " info") ++ "\nAverage complexity "
    ++ tagged "bold" (fixedText 2 m.averageComplexity) ++ "  |  Maintainability "
    ++ tagged "bold" (fixedText 2 m.maintainability) ++ " (" ++ verdict m.maintainability
    ++ ")  |  " ++ m.functions.toValue.display ++ " functions, " ++ m.classes.toValue.display ++ " classes"

/-- The summary in its frame, and the warnings of the search for files. -/
def summary (view : ConsoleView) (r : ProjectReport) : List ConsoleItem :=
  [.panel (view.summaryText r) (tagged "bold cyan" (view.terminal.escape r.projectPath)), .blank]
    ++ r.warnings.map (fun warning =>
      .line (tagged "dim" ("scan: " ++ view.terminal.escape warning)))
    ++ (if r.warnings.isEmpty then [] else [.blank])

/-- The headings of the table. -/
def columns : List String :=
  ["#", "File", "Errors", "Warnings", "Info", "Complexity", "LOC"]

/-- The row of a file, given its rank. -/
def row (view : ConsoleView) (rank : Nat) (r : FileReport) : List String :=
  [natText rank, view.terminal.escape r.path, tagged "red" (natText (r.count .error)),
    tagged "yellow" (natText (r.count .warning)), tagged "blue" (natText (r.count .info)),
    (r.metrics.complexity.map (·.toValue.display)).getD "-", r.metrics.lines.toValue.display]

/-- The rows of files, numbered from a rank on. -/
def rowsFrom (view : ConsoleView) : Nat → List FileReport → List (List String)
  | _, [] => []
  | rank, r :: reports => view.row rank r :: rowsFrom view (rank + 1) reports

/-- The rows of the table. -/
def rows (view : ConsoleView) (reports : List FileReport) : List (List String) :=
  view.rowsFrom 1 (limited view.files (ranked reports))

/-- The table of the worst files. -/
def fileTable (view : ConsoleView) (reports : List FileReport) : List ConsoleItem :=
  if (ranked reports).isEmpty then [.line (tagged "green" "No issues found.")]
  else
    [.table
      ("Top " ++ intText (min view.files (ranked reports).length) ++ " Files by Issues")
      columns (view.rows reports), .blank]

/-- The colour of a severity. -/
def style : Severity → String
  | .error => "red bold"
  | .warning => "yellow"
  | .info => "blue"

/-- The name of a severity, filled up to the longest of them. -/
def paddedName (severity : Severity) : String :=
  severity.name ++ String.ofList (List.replicate (7 - severity.name.length) ' ')

/-- A value that has to be text, escaped. -/
def escapeValue (view : ConsoleView) : Value → Except Failure String
  | .text text => .ok (view.terminal.escape text)
  | .torn t => .ok (view.terminal.escape t.text)
  | other =>
    .error (.ofFault .wrongType
      ("expected string or bytes-like object, got '" ++ other.typeName ++ "'"))

/-- The line of an issue from its position, its message and its code as markup. -/
def lineText (severity : Severity) (line column message code : String) : String :=
  "  " ++ line ++ ":" ++ column ++ "  " ++ tagged (style severity) (paddedName severity) ++ "  "
    ++ message ++ "  " ++ tagged "dim" code

/-- The line of an issue. Its position is told as it is. -/
def issueLine (view : ConsoleView) (depth : Nat) (issue : Issue) : Except Failure ConsoleItem := do
  let line ← issue.line.told depth
  let column ← issue.column.told depth
  let message ← view.escapeValue issue.message
  let code ← view.escapeValue issue.code
  return .line (lineText issue.severity line column message code)

/-- The issues of a file, up to the limit. -/
def fileIssues (view : ConsoleView) (depth : Nat) (r : FileReport) :
    Except Failure (List ConsoleItem) :=
  if r.issues.isEmpty then .ok []
  else do
    let lines ← (limited view.issues r.issues).mapM (view.issueLine depth)
    let hidden : Int := r.issues.length - view.issues
    let more := if hidden > 0 then
      [.line ("  " ++ tagged "dim" ("... " ++ intText hidden ++ " more"))] else []
    return .line (tagged "bold" (view.terminal.escape r.path)) :: lines ++ more ++ [.blank]

/-- Everything that is shown for a report. Values are told with so much room for what is nested in
them. -/
def render (view : ConsoleView) (depth : Nat) (r : ProjectReport) :
    Except Failure (List ConsoleItem) :=
  (r.files.mapM (view.fileIssues depth)).map fun issues =>
    view.summary r ++ view.fileTable r.files ++ issues.flatten

/-- The issues that are listed for a report. -/
def listed (view : ConsoleView) (r : ProjectReport) : List Issue :=
  r.files.flatMap fun file => limited view.issues file.issues

end ConsoleView

end ScriptAudit
