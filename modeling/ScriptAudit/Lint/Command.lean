import ScriptAudit.Failure.Basic

/-!
# Calls of an external command

The boundary between this library and a command that it runs.

* `CommandCall` : what is run, with which input, where, and for how long at most.
* `CommandOutcome` : how such a call ends.
* `CommandHost` : where commands are found and run, and how what they write is read.
-/

namespace ScriptAudit

/-- A call of a command. Without an input or a directory it gets those of its caller, and its
environment is added to that of its caller. -/
structure CommandCall where
  command : List String
  timeout : Number
  input : Option String
  directory : Option String
  environment : List (String × String)
  deriving DecidableEq, Repr

/-- How a call ends: it could not be started, it took too long, or it finished with a code and what it
wrote as its output and about errors. -/
inductive CommandOutcome where
  | notStarted (reason : String)
  | timedOut
  | finished (code : Int) (output errors : List UInt8)
  deriving DecidableEq, Repr

/-- A place where commands are found and run. What they write is decoded as its language asks for,
unless there is a reason why it cannot be, and collections may be nested so deeply in it. -/
structure CommandHost where
  find : (command : String) → Option String
  run : CommandCall → CommandOutcome
  decode : List UInt8 → Except String String
  depth : Nat

/-- The texts that a call wrote as its output and about errors. -/
def CommandHost.texts (host : CommandHost) (output errors : List UInt8) :
    Except Failure (String × String) :=
  match host.decode output, host.decode errors with
  | .ok output, .ok errors => .ok (output, errors)
  | .error reason, _ | .ok _, .error reason => .error (.ofFault .wrongValue reason)

end ScriptAudit
