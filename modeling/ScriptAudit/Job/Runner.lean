import ScriptAudit.Job.Event
import ScriptAudit.Job.Suggestion
import ScriptAudit.Project.Run

/-!
# Running jobs

A job audits a project, saves the report, asks for suggestions, saves them, and is marked as
completed. Everything on the way may fail.

* `StoreCall`, `Store` : what is asked of the durable store, which may refuse.
* `JobStep`, `JobState` : what happens in the course of a job, and how far a job has come.
* `JobRunner.save` : the part that the store may end. Suggestions that cannot be made do not end it.
* `JobRunner.course`, `JobRunner.run` : a whole job, with its history and without. A report that
  cannot be saved fails the job, and nobody waits for those who listen to events.
-/

namespace ScriptAudit

/-- Something that is asked of a store. -/
inductive StoreCall where
  | saveReport (job : String) (report : ProjectReport)
  | saveSuggestions (job : String) (suggestions : List Suggestion)
  | markCompleted (job : String)
  | markFailed (job error : String)

/-- The name of a call's kind. -/
def StoreCall.name : StoreCall → String
  | saveReport .. => "save_result"
  | saveSuggestions .. => "save_suggestions"
  | markCompleted _ => "mark_completed"
  | markFailed .. => "mark_failed"

/-- A durable store. A call changes its state, and may be refused. -/
structure Store (σ : Type) where
  answer : StoreCall → σ → Except Failure Unit × σ

/-- What became of a job. -/
inductive JobOutcome where
  | completed (report : ProjectReport) (suggestions : List Suggestion)
  | failed (error : String)

namespace JobOutcome

/-- Whether a job succeeded. -/
def isSuccess : JobOutcome → Bool
  | completed .. => true
  | failed _ => false

/-- The status of a job. -/
def status : JobOutcome → String
  | completed .. => "completed"
  | failed _ => "failed"

theorem isSuccess_iff (outcome : JobOutcome) :
    outcome.isSuccess = true ↔ outcome.status = "completed" := by
  cases outcome <;> simp [isSuccess, status]

end JobOutcome

/-- Something that happens in the course of a job: an event is told, an audit ends, the store is
asked for something and answers, and suggestions are asked for. -/
inductive JobStep where
  | told (event : JobEvent)
  | audited (result : Except Failure ProjectReport)
  | asked (call : StoreCall) (answer : Except Failure Unit)
  | suggested (answer : Except Failure (List Suggestion))

/-- How far a job has come: the state of the store, that of the listener, and what has happened. -/
structure JobState (σ π : Type) where
  stored : σ
  heard : π
  history : List JobStep

/-- The same state with one thing more that has happened. -/
def JobState.record {σ π : Type} (s : JobState σ π) (step : JobStep) : JobState σ π :=
  { s with history := s.history ++ [step] }

@[simp] theorem JobState.history_record {σ π : Type} (s : JobState σ π) (step : JobStep) :
    (s.record step).history = s.history ++ [step] := rfl

@[simp] theorem JobState.stored_record {σ π : Type} (s : JobState σ π) (step : JobStep) :
    (s.record step).stored = s.stored := rfl

@[simp] theorem JobState.heard_record {σ π : Type} (s : JobState σ π) (step : JobStep) :
    (s.record step).heard = s.heard := rfl

/-- Those who work together on jobs: what audits a project, the store, what makes suggestions for
issues in a context, and a listener for events. -/
structure JobRunner (σ π : Type) where
  audit : (root : Path) → Audit
  store : Store σ
  suggest : List Issue → (context : String) → Except Failure (List Suggestion)
  listener : Option (Listener (String × JobEvent) π)

namespace JobRunner

variable {σ π : Type} (r : JobRunner σ π)

/-! ## Single steps -/

/-- Tells an event to the listener. One that fails or is not there is not missed. -/
def tell (job : String) (event : JobEvent) (s : JobState σ π) : JobState σ π :=
  { s with heard := Listener.told r.listener (job, event) s.heard }.record (.told event)

@[simp] theorem history_tell (job : String) (event : JobEvent) (s : JobState σ π) :
    (r.tell job event s).history = s.history ++ [.told event] := rfl

@[simp] theorem stored_tell (job : String) (event : JobEvent) (s : JobState σ π) :
    (r.tell job event s).stored = s.stored := rfl

@[simp] theorem heard_tell (job : String) (event : JobEvent) (s : JobState σ π) :
    (r.tell job event s).heard = Listener.told r.listener (job, event) s.heard := rfl

/-- Tells events one after the other. -/
def tellAll (job : String) (events : List JobEvent) (s : JobState σ π) : JobState σ π :=
  events.foldl (fun s event => r.tell job event s) s

/-- Asks the store for something. -/
def ask (call : StoreCall) (s : JobState σ π) : Except Failure Unit × JobState σ π :=
  let (answer, stored) := r.store.answer call s.stored
  (answer, { s with stored }.record (.asked call answer))

@[simp] theorem history_ask (call : StoreCall) (s : JobState σ π) :
    (r.ask call s).2.history = s.history ++ [.asked call (r.ask call s).1] := rfl

@[simp] theorem stored_ask (call : StoreCall) (s : JobState σ π) :
    (r.ask call s).2.stored = (r.store.answer call s.stored).2 := rfl

@[simp] theorem heard_ask (call : StoreCall) (s : JobState σ π) :
    (r.ask call s).2.heard = s.heard := rfl

/-- What the audit of a project tells, on the scale of the job. -/
def auditEvents (audit : Audit) : List JobEvent :=
  audit.told.map fun percent => .progress (jobProgress percent)

/-- Audits a project, and tells how far the audit is. -/
def review (job : String) (root : Path) (s : JobState σ π) :
    Except Failure ProjectReport × JobState σ π :=
  let audit := r.audit root
  (audit.result, (r.tellAll job (auditEvents audit) s).record (.audited audit.result))

/-- What comes of asking for suggestions for a report. -/
def proposal (report : ProjectReport) : Except Failure (List Suggestion) :=
  r.suggest report.issues ("Project path: " ++ report.projectPath)

/-- The suggestions for a report. There are none if they cannot be made. -/
def suggestions (report : ProjectReport) : List Suggestion :=
  match r.proposal report with
  | .ok made => made
  | .error _ => []

/-- Asks for suggestions for a report. -/
def propose (report : ProjectReport) (s : JobState σ π) : List Suggestion × JobState σ π :=
  (r.suggestions report, s.record (.suggested (r.proposal report)))

/-! ## Jobs -/

/-- Marks a job as failed, which may itself be refused, and tells why it failed. -/
def fail (job error : String) (s : JobState σ π) : JobState σ π :=
  r.tell job (.error error) (r.ask (.markFailed job error) s).2

/-- Saves a report and the suggestions for it and marks the job as completed, up to the first thing
that the store refuses. -/
def save (job : String) (report : ProjectReport) (s : JobState σ π) :
    Except Failure (List Suggestion) × JobState σ π :=
  match r.ask (.saveReport job report) s with
  | (.error e, s) => (.error e, s)
  | (.ok (), s) =>
    let (made, s) := r.propose report s
    match r.ask (.saveSuggestions job made) s with
    | (.error e, s) => (.error e, s)
    | (.ok (), s) =>
      match r.ask (.markCompleted job) s with
      | (.error e, s) => (.error e, s)
      | (.ok (), s) => (.ok made, s)

/-- Runs a job for the project below a root. An audit that ends with a foreseen problem fails the
job; one that ends otherwise is not caught. -/
def course (job : String) (root : Path) (s : JobState σ π) :
    Except Failure JobOutcome × JobState σ π :=
  match r.review job root (r.tell job (.progress JobProgress.start) s) with
  | (.error (.problem p), s) =>
    let reason := p.summary.display
    (.ok (.failed reason), r.fail job reason s)
  | (.error (.fault f), s) => (.error (.fault f), s)
  | (.ok report, s) =>
    match r.save job report s with
    | (.error e, s) => (.error e, r.fail job e.text s)
    | (.ok made, s) => (.ok (.completed report made), r.tell job (.complete report) s)

/-- What happens in the course of a job, in order. -/
def history (job : String) (root : Path) (stored : σ) (heard : π) : List JobStep :=
  (r.course job root ⟨stored, heard, []⟩).2.history

/-- Runs a job, from a state of the store and one of the listener to the states after it. -/
def run (job : String) (root : Path) (stored : σ) (heard : π) :
    Except Failure JobOutcome × σ × π :=
  let (outcome, s) := r.course job root ⟨stored, heard, []⟩
  (outcome, s.stored, s.heard)

end JobRunner

end ScriptAudit
