import ScriptAudit.Failure.Basic
import ScriptAudit.Issue.Basic
import ScriptAudit.Json.Parser

/-!
# Linter messages

What an external linter reports, as JSON of unknown quality.

* `LintMessage` : one message, its severity already on the scale of this library.
* `LintMessage.readAll` : the messages in a linter's output.
* `Linter`, `Linter.issues` : a linter, and the issues it gives; a linter that fails gives none.
-/

namespace ScriptAudit

/-- A message of a linter. Everything but the severity is kept as it was reported. -/
structure LintMessage where
  rule : Value
  severity : Severity
  message : Value
  line : Value
  column : Value

namespace LintMessage

/-- Whether a value is a number that equals a whole number. -/
def isNumber (value : Value) (n : Int) : Bool :=
  value.number?.any (·.equals n)

/-- The severity for a linter's level. -/
def severityOf (level : Value) : Severity :=
  if isNumber level 2 then .error else if isNumber level 1 then .warning else .info

/-- The code of an issue from a message without a rule. -/
def fallbackRule : String := "LINT_ERROR"

/-- A message as an issue of a file. -/
def toIssue (path : String) (m : LintMessage) : Issue where
  category := .lint
  severity := m.severity
  message := m.message
  code := m.rule.orElse (.text fallbackRule)
  filePath := path
  line := m.line
  column := m.column
  fix := none

/-- The failure of asking a value that is no table for an entry. -/
def noTable (value : Value) : Failure :=
  .ofFault .wrongShape ("'" ++ value.typeName ++ "' object has no attribute 'get'")

/-- Reads one message. -/
def read (value : Value) : Except Failure LintMessage :=
  match value with
  | .table entries =>
    let entry (key : String) (other : Value) : Value := (lookup? key entries).getD other
    .ok { rule := entry "ruleId" .null, severity := severityOf (entry "severity" .null)
          message := entry "message" (.text ""), line := (entry "line" .null).orElse (.int 0)
          column := (entry "column" .null).orElse (.int 0) }
  | other => .error (noTable other)

/-- Reads the messages of one result. -/
def readResult (value : Value) : Except Failure (List LintMessage) :=
  match value with
  | .table entries =>
    let messages := (lookup? "messages" entries).getD (.list [])
    match messages.items? with
    | some items => items.mapM read
    | none => .error (.ofFault .wrongType ("'" ++ messages.typeName ++ "' object is not iterable"))
  | other => .error (noTable other)

/-- The failure of a linter on a file. -/
def failed (path reason : String) (exitCode : Option Int) : Failure :=
  .problem (.lint (.text path) (.text reason) ((exitCode.map Value.int).getD .null))

/-- Reads the messages of all results, in order. Collections may be nested so deeply. -/
def readAll (depth : Nat) (output : String) (path : String) : Except Failure (List LintMessage) :=
  match Json.read depth output.toList with
  | .error .malformed =>
    .error (failed path ("invalid JSON from eslint: " ++ Refusal.malformed.text) none)
  | .error refusal => .error (.ofRefusal refusal)
  | .ok (.list results) => (results.mapM readResult).map List.flatten
  | .ok _ => .error (failed path "unexpected eslint output shape" none)

end LintMessage

/-- Something that looks at the text of a file and reports messages, or fails. -/
structure Linter where
  lint : (source : List Char) → (path : String) → Except Failure (List LintMessage)

namespace Linter

/-- A linter that never reports anything. -/
def silent : Linter where
  lint _ _ := .ok []

/-- The issues that a linter gives for a file. -/
def issues (l : Linter) (source : List Char) (path : String) : List Issue :=
  match l.lint source path with
  | .ok messages => messages.map (LintMessage.toIssue path)
  | .error _ => []

end Linter

end ScriptAudit
