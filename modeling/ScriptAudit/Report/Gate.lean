import ScriptAudit.Report.Project

/-!
# Gates

Whether the issues of a project are bad enough to count as a failure.

* `FailLevel` : the least severity that counts, or none at all.
* `FailLevel.hits` : the number of issues that count.
-/

namespace ScriptAudit

/-- The least severity that counts as a failure, or none at all. -/
inductive FailLevel where
  | error
  | warning
  | none
  deriving DecidableEq, Repr

namespace FailLevel

/-- All levels. -/
def all : List FailLevel := [error, warning, none]

/-- The name of a level. -/
def name : FailLevel → String
  | error => "error"
  | warning => "warning"
  | none => "none"

/-- The severities that count. -/
def severities : FailLevel → List Severity
  | error => [.error]
  | warning => [.error, .warning]
  | none => []

/-- The number of issues that count. -/
def hits (level : FailLevel) (breakdown : Breakdown) : Nat :=
  level.severities.foldr (fun severity hits => breakdown.count severity + hits) 0

/-- Whether any issue counts. -/
def isReached (level : FailLevel) (breakdown : Breakdown) : Bool :=
  level.hits breakdown != 0

end FailLevel

end ScriptAudit
