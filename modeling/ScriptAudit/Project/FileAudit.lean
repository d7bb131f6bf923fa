import ScriptAudit.File.System
import ScriptAudit.Lint.Message
import ScriptAudit.Report.File
import ScriptAudit.Rule.Family
import ScriptAudit.Source.Outcome

/-!
# Auditing one file

Everything that can go wrong with a file stays within its report: a file that cannot be read or
parsed is reported by a single issue, and a linter, a detector or a measurement that fails
contributes nothing.

* `FileAuditor` : what a file is audited with.
* `FileAuditor.report` : the report on a file.
* `FileAuditor.audit` : the same for a path that may not even be one.
-/

namespace ScriptAudit

/-- The means of an audit. The parser may depend on the file, since it knows its tree. -/
structure FileAuditor where
  parser : Path → Parser
  detectors : List Detector
  linter : Linter
  complexity : Node → Except String Nat

namespace FileAuditor

/-- The report on a file that cannot be read. -/
def unreadable (path : String) : FileReport where
  path := path
  issues := [.found .io .error "IO_ERROR" "Failed to read file" path 0 0 none]
  metrics := .ofLines 0

/-- The report on a file that cannot be parsed. -/
def unparsed (path : String) (lines : Nat) (message : String) (line column : Nat) :
    FileReport where
  path := path
  issues := [.found .syntactic .error "PARSE_ERROR" message path line column none]
  metrics := .ofLines lines

/-- The report on a file that was parsed. -/
def parsed (a : FileAuditor) (path : String) (source : List Char) (d : Document) :
    FileReport where
  path := path
  issues :=
    a.linter.issues source path
      ++ a.detectors.flatMap fun detector => (detector.detect d path).issues
  metrics :=
    .measured (Text.lineCount source)
      (match a.complexity d.root with
        | .ok n => n
        | .error _ => 0)
      (structureOf d.root)

/-- The report on a file with a given text, under the path by which it is reported. -/
def reportText (a : FileAuditor) (file : Path) (path : String) (source : List Char) :
    FileReport :=
  match parse (a.parser file) path source with
  | .refused message line column => unparsed path (Text.lineCount source) message line column
  | .parsed _ d => a.parsed path source d

/-- The report on a file. Its path is reported relative to a directory; bytes that are no text are
replaced. -/
def report (a : FileAuditor) (fs : FileSystem) (root file : Path) : FileReport :=
  let path := file.relativeTo root
  match fs.read file with
  | .error _ => unreadable path
  | .ok bytes => a.reportText file path (Utf8.decode bytes)

/-- The report on a file given by any path. -/
def audit (a : FileAuditor) (fs : FileSystem) (root file : Path) : Except Failure FileReport :=
  if file.isBroken then .error .brokenPath else .ok (a.report fs root file)

end FileAuditor

/-- The complexity of a document, which can always be measured. -/
def usualComplexity (root : Node) : Except String Nat :=
  .ok (cyclomatic root)

end ScriptAudit
