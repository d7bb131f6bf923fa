/-!
# Log levels

* `LogLevel` : how much a log entry matters.
* `LogLevel.isAtLeast` : whether one level matters as much as another.
-/

namespace ScriptAudit

/-- How much a log entry matters. -/
inductive LogLevel where
  | debug
  | info
  | warning
  | error
  | critical
  deriving DecidableEq, Repr

namespace LogLevel

/-- All levels in ascending order. -/
def all : List LogLevel := [debug, info, warning, error, critical]

/-- The name of a level. -/
def name : LogLevel → String
  | debug => "DEBUG"
  | info => "INFO"
  | warning => "WARNING"
  | error => "ERROR"
  | critical => "CRITICAL"

/-- The level with a name. -/
def ofName? (name : String) : Option LogLevel :=
  all.find? (·.name == name)

/-- The place of a level in the order. -/
def rank : LogLevel → Nat
  | debug => 0
  | info => 1
  | warning => 2
  | error => 3
  | critical => 4

/-- Whether a level matters as much as another. -/
def isAtLeast (level other : LogLevel) : Bool :=
  other.rank ≤ level.rank

end LogLevel

end ScriptAudit
