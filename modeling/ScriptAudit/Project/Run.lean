import ScriptAudit.File.Canonical
import ScriptAudit.Metric.Progress
import ScriptAudit.Project.FileAudit
import ScriptAudit.Project.Framework
import ScriptAudit.Report.Project

/-!
# Auditing a project

A run checks the root, recognises the framework, searches for files, audits each of them and puts
the reports together. Files may be audited by several workers, which finish in any order; the
reports are kept in slots, one for each file, so that the order does not show.

* `Auditor` : what a project is audited with.
* `inOrder`, `bySlots` : auditing files one after the other, and in any order of completion.
* `Auditor.run` : the report on a project.
* `Audit`, `Auditor.audit` : the same with everything that a listener hears on the way.
-/

namespace ScriptAudit

/-- The means of a run. The linter depends on the framework, and there may be none to be had.
`completion` gives the order in which so many parallel audits finish. -/
structure Auditor where
  settings : Settings
  recognizer : Recognizer
  parser : Path → Parser
  detectors : List Detector
  linter : (framework : String) → Except Failure Linter
  complexity : Node → Except String Nat
  completion : Nat → List Nat

/-- How long a run took, in milliseconds, and when it ended. -/
structure Timing where
  duration : Int
  timestamp : Timestamp
  deriving DecidableEq, Repr

section Order

variable {σ α β : Type}

/-- Works on items one after the other and tells the tracker after each. -/
def inOrder (work : α → β) (listener : Option (Listener Int σ)) :
    List α → Tracker → σ → List β × Tracker × σ
  | [], tracker, state => ([], tracker, state)
  | item :: items, tracker, state =>
    let (tracker, state) := tracker.advance listener state
    let (results, tracker, state) := inOrder work listener items tracker state
    (work item :: results, tracker, state)

/-- Fills the slots in the order in which items are completed and tells the tracker after each. -/
def fillSlots (work : α → β) (listener : Option (Listener Int σ)) (items : List α) :
    List Nat → List (Option β) → Tracker → σ → List (Option β) × Tracker × σ
  | [], slots, tracker, state => (slots, tracker, state)
  | index :: indices, slots, tracker, state =>
    let slots := slots.set index (items[index]?.map work)
    let (tracker, state) := tracker.advance listener state
    fillSlots work listener items indices slots tracker state

/-- Works on items in a given order of completion. The results are in the order of the items. -/
def bySlots (work : α → β) (listener : Option (Listener Int σ)) (completion : List Nat)
    (items : List α) (tracker : Tracker) (state : σ) : List β × Tracker × σ :=
  let (slots, tracker, state) :=
    fillSlots work listener items completion (List.replicate items.length none) tracker state
  (slots.filterMap id, tracker, state)

end Order

namespace Auditor

variable {σ : Type}

/-- The means of the audits of single files. -/
def fileAuditor (a : Auditor) (linter : Linter) : FileAuditor :=
  ⟨a.parser, a.detectors, linter, a.complexity⟩

/-- Audits files, in parallel if the settings ask for it and there is more than one. -/
def reports (a : Auditor) (fs : FileSystem) (root : Path) (linter : Linter)
    (listener : Option (Listener Int σ)) (files : List Path) (state : σ) :
    List FileReport × Tracker × σ :=
  let work := (a.fileAuditor linter).report fs root
  let tracker := Tracker.start files.length
  if a.settings.isParallel && 1 < files.length then
    bySlots work listener (a.completion files.length) files tracker state
  else inOrder work listener files tracker state

/-- The report on a project, given what was found and the reports on its files. -/
def summarize (profile : Profile) (found : Search) (reports : List FileReport) (timing : Timing) :
    ProjectReport where
  projectPath := profile.root.text
  framework := profile.framework
  totalFiles := found.discovered
  analyzedFiles := reports.length
  issues := reports.flatMap (·.issues)
  metrics := .ofReports reports
  files := reports
  duration := timing.duration
  timestamp := timing.timestamp
  warnings := found.warnings

/-- Audits the project below a root, given by an absolute path. A listener hears the percentage of
files done, and its state is given back even if the run fails. -/
def run (a : Auditor) (fs : FileSystem) (root : Path) (listener : Option (Listener Int σ))
    (timing : Timing) (state : σ) : Except Failure ProjectReport × σ :=
  match fs.checkRoot root with
  | .error e => (.error e, state)
  | .ok root =>
    match a.recognizer.profile fs root with
    | .error e => (.error e, state)
    | .ok profile =>
      match a.linter profile.framework, search fs a.settings profile.root with
      | .error e, _ | .ok _, .error e => (.error e, state)
      | .ok linter, .ok found =>
        let (reports, _, state) := a.reports fs profile.root linter listener found.files state
        (.ok (summarize profile found reports timing), state)

end Auditor

/-- What the audit of a project tells while it runs, in percent, and how it ends. -/
structure Audit where
  told : List Int
  result : Except Failure ProjectReport

/-- A listener that writes down what it hears. -/
def recorder : Listener Int (List Int) where
  hear percent heard := (heard ++ [percent], none)

/-- The audit of the project below a root. -/
def Auditor.audit (a : Auditor) (fs : FileSystem) (timing : Timing) (root : Path) : Audit :=
  let (result, told) := a.run fs root (some recorder) timing []
  ⟨told, result⟩

end ScriptAudit
