import ScriptAudit.CommandLine.Invocation
import ScriptAudit.File.Change
import ScriptAudit.Format.Basic
import ScriptAudit.Project.Run
import ScriptAudit.Rule.Builtin
import ScriptAudit.Setting.Loading

/-!
# Executing a command line

* `Surroundings` : everything that a command finds when it starts.
* `CommandResult` : the exit code, what is printed, and the files afterwards.
* `execute` : carries out a command line. A wrong one ends with code two; a failure, or issues that
  are bad enough, with code one.
-/

namespace ScriptAudit

/-- What a command finds when it starts: the files, a home and a working directory, the
environment, the trees of files, the linters, a clock, a console, and how deeply collections may be
nested where settings are read, where a value is told, and where a report is written. -/
structure Surroundings where
  files : FileSystem
  home : Path
  working : Path
  environment : String → Option String
  parser : Path → Parser
  linter : Settings → (framework : String) → Except Failure Linter
  completion : Nat → List Nat
  timing : Timing
  terminal : Terminal
  readDepth : Nat
  toldDepth : Nat
  reportDepth : Nat

/-- How a command ends: its code, what it prints, the files afterwards, and the one it wrote. -/
structure CommandResult where
  code : Nat
  printed : String
  files : FileSystem
  written : Option Path

/-- The text of a help page. -/
def helpText : String :=
  "Usage: sourcescope [--help] analyze|version\n\n"
    ++ "  analyze [OPTIONS] [PATH]  analyze a project and report issues and metrics\n"
    ++ "  version                   show the version\n"

/-- The line that tells the version. -/
def versionLine : String :=
  "[bold cyan]SourceScope[/bold cyan] version [green]0.1.0[/green]"

namespace Surroundings

/-! ## Paths on the command line -/

/-- The entry that a path leads to. -/
def entryAt? (s : Surroundings) (path : String) : Option Entry :=
  (s.files.entry true (s.working.under path)).toOption

/-- Whether a path leads to something that is no regular file. -/
def leadsToRoot (s : Surroundings) (path : String) : Bool :=
  (s.entryAt? path).any (!·.isFile)

/-- Whether a path leads to something that is no directory. -/
def leadsToConfig (s : Surroundings) (path : String) : Bool :=
  (s.entryAt? path).any (!·.isDirectory)

/-- Whether a path may be written to, as far as it can be told beforehand. -/
def maybeWritable (s : Surroundings) (path : String) : Bool :=
  !(Path.parse path).isBroken && !(s.entryAt? path).any Entry.isDirectory

/-- Checks the paths of an analysis. -/
def checkPaths (s : Surroundings) (o : AnalyzeOptions) : Except UsageError Unit :=
  if !s.leadsToRoot o.path then .error (.badValue "PATH" o.path)
  else
    match o.output.filter (!s.maybeWritable ·), o.config.filter (!s.leadsToConfig ·) with
    | some path, _ => .error (.badValue "--output" path)
    | none, some path => .error (.badValue "--config" path)
    | none, none => .ok ()

/-! ## The analysis -/

/-- The settings that options stand for. -/
def overrides (o : AnalyzeOptions) : List (String × Value) :=
  (o.workers.map fun n => ("workers", .int n)).toList
    ++ (if o.withoutLint then [("lint_enabled", .bool false)] else [])
    ++ (if o.verbose then [("verbose", .bool true)] else [])
    ++ (if o.quiet then [("quiet", .bool true)] else [])

/-- The settings of an analysis. -/
def settings (s : Surroundings) (o : AnalyzeOptions) : Except Failure Settings := do
  let origin : Origin :=
    ⟨s.files, some s.home.text, some s.working, s.environment, s.readDepth, s.toldDepth⟩
  let draft ← origin.load (o.config.map Path.parse) (overrides o)
  draft.usable

/-- What audits a project under some settings. -/
def auditor (s : Surroundings) (settings : Settings) : Auditor where
  settings := settings
  recognizer := ⟨usualSignatures, usualCandidates, settings.sourceExtensions⟩
  parser := s.parser
  detectors := Detector.builtin settings.longestFunction
  linter := s.linter settings
  complexity := usualComplexity
  completion := s.completion

/-- The report of an analysis. -/
def report (s : Surroundings) (o : AnalyzeOptions) : Except Failure ProjectReport := do
  let settings ← s.settings o
  ((s.auditor settings).audit s.files s.timing (s.working.under o.path)).result

/-! ## Writing the report -/

/-- A rendering as it stands in a file: it ends with a line end. -/
def fileText (t : Terminal) : Rendering → Option String
  | .text text _ => some (if Text.endsWith "\n" text then text else text ++ "\n")
  | .console items => t.allShown? items

/-- A rendering as it is printed. -/
def printedText (t : Terminal) : Rendering → Option String
  | .text _ printed => some printed
  | .console items => t.allShown? items

/-- Writes a text to a file, whose path is shown as it is given. -/
def writeFile (s : Surroundings) (path : Path) (text : String) : Except Failure FileSystem :=
  match s.files.write (s.working.join path) (Utf8.encodeString text) with
  | .ok files => .ok files
  | .error e => .error (.ofFault .inaccessible (e.report (Text.quoteString path.text)))

/-! ## The result -/

/-- Ends without having written a file. -/
def ended (s : Surroundings) (code : Nat) (printed : String) : CommandResult :=
  ⟨code, printed, s.files, none⟩

/-- Prints a line of markup at the end. A line that cannot be shown is a failure. -/
def closing (t : Terminal) (r : CommandResult) (line : String) : CommandResult :=
  match t.shown? (.line line) with
  | some shown => { r with printed := r.printed ++ shown }
  | none => { r with code := 1 }

/-- Ends with a failure. -/
def failed (s : Surroundings) : Failure → CommandResult
  | .problem p => closing s.terminal (s.ended 1 "") ("[red]Error:[/red] " ++ p.text)
  | .fault f => closing s.terminal (s.ended 1 "") ("[red]Unexpected error:[/red] " ++ f.message)

/-- Ends after the report was delivered, with code one if there are issues that count. -/
def judged (t : Terminal) (r : CommandResult) (level : FailLevel) (report : ProjectReport) :
    CommandResult :=
  let hits := level.hits report.metrics.breakdown
  if hits = 0 then r
  else
    closing t { r with code := 1 } ("[red]--fail-on " ++ level.name ++ ":[/red] " ++ natText hits
      ++ " issue(s) at or above " ++ level.name)

/-- Prints the report, and ends. -/
def printReport (s : Surroundings) (o : AnalyzeOptions) (report : ProjectReport)
    (rendering : Rendering) : CommandResult :=
  match printedText s.terminal rendering with
  | some printed => judged s.terminal (s.ended 0 printed) o.failLevel report
  | none => s.ended 1 ""

/-- Writes the report to a file, and ends. -/
def writeReport (s : Surroundings) (o : AnalyzeOptions) (report : ProjectReport)
    (rendering : Rendering) (path : Path) : CommandResult :=
  match (fileText s.terminal rendering).map (s.writeFile path) with
  | none => s.ended 1 ""
  | some (.error e) => s.failed e
  | some (.ok files) =>
    let r : CommandResult := ⟨0, "", files, some (s.working.join path)⟩
    match s.terminal.shown? (.line ("[green]Report written to[/green] " ++ path.text)) with
    | some shown => judged s.terminal { r with printed := shown } o.failLevel report
    | none => { r with code := 1 }

/-- How the report is written. -/
def printer (s : Surroundings) : Printer :=
  ⟨.usual s.terminal, s.toldDepth, s.reportDepth⟩

/-- Carries out an analysis. -/
def analyze (s : Surroundings) (o : AnalyzeOptions) : CommandResult :=
  match s.report o with
  | .error e => s.failed e
  | .ok report =>
    match o.format.render s.printer report, o.output with
    | .error e, _ => s.failed e
    | .ok rendering, none => s.printReport o report rendering
    | .ok rendering, some path => s.writeReport o report rendering (.parse path)

end Surroundings

/-- What is wrong with a command line, the paths on it included. -/
def Invocation.checked (s : Surroundings) (arguments : List String) :
    Except UsageError Invocation :=
  match Invocation.read arguments with
  | .ok (.analyze o) => (s.checkPaths o).map fun _ => .analyze o
  | other => other

/-- Carries out a command line. -/
def execute (s : Surroundings) (arguments : List String) : CommandResult :=
  match Invocation.checked s arguments with
  | .error _ => s.ended 2 ""
  | .ok .help => s.ended 0 helpText
  | .ok .version => Surroundings.closing s.terminal (s.ended 0 "") versionLine
  | .ok (.analyze o) => s.analyze o

end ScriptAudit
