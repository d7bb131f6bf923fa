import ScriptAudit.Value.Basic

/-!
# Issues

One problem found in a file.

* `Category`, `Severity` : what kind of problem it is, and how bad.
* `Fix` : a suggested change.
* `Issue` : the problem. Message, code and position come from a linter as they are, so they are
  values of any shape; `Issue.found` builds an issue from plain text and numbers.
* `Issue.IsPlain` : whether the fields of an issue are plain text and whole numbers.
* `Issue.IsTyped` : the same, where texts may be torn.
* `Issue.toValue` : the issue as data.
-/

namespace ScriptAudit

/-- The origin of an issue. -/
inductive Category where
  | syntactic
  | logic
  | performance
  | security
  | lint
  | io
  deriving DecidableEq, Repr

namespace Category

/-- The name of a category in reports. -/
def name : Category → String
  | syntactic => "syntax"
  | logic => "logic"
  | performance => "performance"
  | security => "security"
  | lint => "lint"
  | io => "io"

/-- All categories. -/
def all : List Category := [syntactic, logic, performance, security, lint, io]

/-- The category with a name. -/
def ofName? (name : String) : Option Category :=
  all.find? (·.name == name)

end Category

/-- How bad an issue is. -/
inductive Severity where
  | error
  | warning
  | info
  deriving DecidableEq, Repr

namespace Severity

/-- The name of a severity in reports. -/
def name : Severity → String
  | error => "error"
  | warning => "warning"
  | info => "info"

/-- All severities, the worst first. -/
def all : List Severity := [error, warning, info]

/-- The severity with a name. -/
def ofName? (name : String) : Option Severity :=
  all.find? (·.name == name)

end Severity

/-- A suggested change: what it does, and the code to put in. -/
structure Fix where
  description : String
  code : String
  deriving DecidableEq, Repr

/-- One problem in a file. A line or column of zero means that the position is unknown. -/
structure Issue where
  category : Category
  severity : Severity
  message : Value
  code : Value
  filePath : String
  line : Value
  column : Value
  fix : Option Fix

namespace Issue

/-- An issue whose fields are plain text and numbers. -/
def found (category : Category) (severity : Severity) (code message filePath : String)
    (line column : Nat) (fix : Option Fix) : Issue :=
  { category, severity, message := .text message, code := .text code, filePath
    line := .int line, column := .int column, fix }

/-- Issues whose message and code are text and whose position is a pair of whole numbers. -/
inductive IsPlain : Issue → Prop
  | intro (category : Category) (severity : Severity) (message code filePath : String)
    (line column : Int) (fix : Option Fix) :
    IsPlain ⟨category, severity, .text message, .text code, filePath, .int line, .int column, fix⟩

/-- Issues whose message and code are texts, torn or not, and whose position is a pair of whole
numbers. -/
inductive IsTyped : Issue → Prop
  | intro (category : Category) (severity : Severity) {message code : Value}
    {messageRunes codeRunes : List Rune} (hmessage : message.runes? = some messageRunes)
    (hcode : code.runes? = some codeRunes) (filePath : String) (line column : Int)
    (fix : Option Fix) :
    IsTyped ⟨category, severity, message, code, filePath, .int line, .int column, fix⟩

end Issue

/-- A suggested change as data. -/
def Fix.toValue (fix : Fix) : Value :=
  .table [("description", .text fix.description), ("code", .text fix.code)]

/-- An issue as data; the fix is left out when there is none. -/
def Issue.toValue (issue : Issue) : Value :=
  .table ([("type", .text issue.category.name), ("severity", .text issue.severity.name),
      ("message", issue.message), ("code", issue.code), ("filePath", .text issue.filePath),
      ("line", issue.line), ("column", issue.column)]
    ++ (issue.fix.map fun fix => ("fix", fix.toValue)).toList)

end ScriptAudit
