import ScriptAudit.Log.Level
import ScriptAudit.Text.Line

/-!
# Loggers

Everything is logged under one name, which comes first in the name of every logger, with points
between the parts. What goes wrong with a single file stands in the report already, so the loggers
that tell of it keep quiet unless asked to be verbose.

* `Logger.qualified` : the full name of a logger.
* `LogSetup` : which entries pass, and where they go; `LogSetup.level` is the level of a logger.
* `LogEntry`, `LogSetup.written` : what a log file gets.
-/

namespace ScriptAudit

namespace Logger

/-- The logger of the whole program. -/
def root : String := "sourcescope"

/-- The loggers that tell what goes wrong with a single file. -/
def perFile : List String :=
  ["sourcescope.analysis.file_analyzer", "sourcescope.analysis.lint", "sourcescope.scanning.parser"]

/-- The full name of a logger; without a name it is the one of the whole program. -/
def qualified : Option String → String
  | none => root
  | some name => if Text.startsWith root name then name else root ++ "." ++ name

/-- Every full name begins with that of the whole program, so none is qualified twice. -/
theorem startsWith_qualified (name : Option String) :
    Text.startsWith root (qualified name) = true := by
  cases name with
  | none => decide
  | some name =>
    unfold qualified
    dsimp only
    by_cases hfull : Text.startsWith root name = true
    · rw [if_pos hfull, hfull]
    · rw [if_neg hfull]
      simp [Text.startsWith, List.isPrefixOf_iff_prefix]

/-- Whether a logger is another one, or below it. -/
def isBelow (name above : String) : Bool :=
  name == above || Text.startsWith (above ++ ".") name

end Logger

/-- How much is logged, and to which file besides the console. -/
structure LogSetup where
  verbose : Bool
  quiet : Bool
  file : Option String
  deriving DecidableEq, Repr

namespace LogSetup

/-- The level of most loggers. To be quiet wins over to be verbose. -/
def base (s : LogSetup) : LogLevel :=
  if s.quiet then .error else if s.verbose then .debug else .warning

/-- The level of the loggers that tell what goes wrong with a single file. -/
def perFile (s : LogSetup) : LogLevel :=
  if s.verbose then s.base else .error

/-- The level of a logger, given by its full name. -/
def level (s : LogSetup) (name : String) : LogLevel :=
  if Logger.perFile.any (Logger.isBelow name) then s.perFile else s.base

/-- The names of what handles the entries: the console, and a file if there is one. -/
def handlers (s : LogSetup) : List String :=
  "RichHandler" :: (s.file.map fun _ => "FileHandler").toList

/-- Entries go to a file exactly if one is named. -/
theorem fileHandler_mem_iff (s : LogSetup) : "FileHandler" ∈ s.handlers ↔ s.file.isSome = true := by
  cases hfile : s.file <;> simp [handlers, hfile]

end LogSetup

/-- Something to be logged. -/
structure LogEntry where
  logger : String
  level : LogLevel
  message : String
  deriving DecidableEq, Repr

namespace LogEntry

/-- Whether an entry passes. -/
def passes (s : LogSetup) (e : LogEntry) : Bool :=
  e.level.isAtLeast (s.level e.logger)

/-- An error always passes, however quiet the program is. -/
theorem passes_of_isAtLeast (s : LogSetup) {e : LogEntry} (h : e.level.isAtLeast .error = true) :
    e.passes s = true := by
  have hbase : s.base.rank ≤ LogLevel.error.rank := by
    unfold LogSetup.base
    split
    · exact Nat.le_refl _
    · split <;> decide
  have hlevel : (s.level e.logger).rank ≤ LogLevel.error.rank := by
    unfold LogSetup.level LogSetup.perFile
    split
    · split
      · exact hbase
      · exact Nat.le_refl _
    · exact hbase
  have herror : LogLevel.error.rank ≤ e.level.rank := of_decide_eq_true h
  exact decide_eq_true (Nat.le_trans hlevel herror)

/-- The text of an entry in a log file, given the date and the time. The level is filled up to
seven characters. -/
def text (time : String) (e : LogEntry) : String :=
  time ++ " " ++ e.level.name ++ String.ofList (List.replicate (7 - e.level.name.length) ' ') ++ " "
    ++ e.logger ++ ": " ++ e.message ++ "\n"

end LogEntry

/-- What a log file gets for some entries. -/
def LogSetup.written (s : LogSetup) (time : String) (entries : List LogEntry) : String :=
  String.join ((entries.filter (LogEntry.passes s)).map (LogEntry.text time))

end ScriptAudit
