import ScriptAudit.Failure.Basic
import ScriptAudit.Report.Project

/-!
# Comma-separated values

One record for each issue after a header. Records end with carriage return and line feed. A field
that holds a comma, a quote or one of these two characters is enclosed in quotes, and quotes inside
are doubled. What is written is made of runes, since a text in an issue may be torn.

* `Csv.field`, `Csv.record` : writing.
* `Csv.records?` : reading.
* `Csv.render` : the issues of a report.
-/

namespace ScriptAudit.Csv

/-- Whether a rune forces quotes around its field. -/
def isSpecial (rune : Rune) : Bool :=
  rune == .whole ',' || rune == .whole '"' || rune == .whole '\r' || rune == .whole '\n'

/-- One rune inside quotes. -/
def quoteRune (rune : Rune) : List Rune :=
  if rune = .whole '"' then [rune, rune] else [rune]

/-- A field. -/
def field (text : List Rune) : List Rune :=
  if text.any isSpecial then .whole '"' :: text.flatMap quoteRune ++ [.whole '"'] else text

/-- Fields with commas between them. -/
def fields : List (List Rune) → List Rune
  | [] => []
  | [text] => field text
  | text :: texts => field text ++ .whole ',' :: fields texts

/-- A record with its end. -/
def record (texts : List (List Rune)) : List Rune :=
  fields texts ++ [.whole '\r', .whole '\n']

/-- Where a reader stands: at the start of a field, in a field without quotes, inside quotes,
after a quote that may close the field, or after a carriage return that must end the record. -/
inductive State where
  | start
  | bare
  | quoted
  | closing
  | ending
  deriving DecidableEq, Repr

/-- Reads records. The other arguments are the state, the field being read, the last rune first, and
the fields before it, the last one first. Anything but the written form is refused. -/
def recordsFrom? : State → List Rune → List (List Rune) → List Rune →
    Option (List (List (List Rune)))
  | .start, [], [], [] => some []
  | _, _, _, [] => none
  | .start, _, before, rune :: rest =>
    if rune = .whole '"' then recordsFrom? .quoted [] before rest
    else if rune = .whole ',' then recordsFrom? .start [] ([] :: before) rest
    else if rune = .whole '\r' then recordsFrom? .ending [] before rest
    else if rune = .whole '\n' then none
    else recordsFrom? .bare [rune] before rest
  | .bare, read, before, rune :: rest =>
    if rune = .whole ',' then recordsFrom? .start [] (read.reverse :: before) rest
    else if rune = .whole '\r' then recordsFrom? .ending read before rest
    else if rune = .whole '"' ∨ rune = .whole '\n' then none
    else recordsFrom? .bare (rune :: read) before rest
  | .quoted, read, before, rune :: rest =>
    if rune = .whole '"' then recordsFrom? .closing read before rest
    else recordsFrom? .quoted (rune :: read) before rest
  | .closing, read, before, rune :: rest =>
    if rune = .whole '"' then recordsFrom? .quoted (rune :: read) before rest
    else if rune = .whole ',' then recordsFrom? .start [] (read.reverse :: before) rest
    else if rune = .whole '\r' then recordsFrom? .ending read before rest
    else none
  | .ending, read, before, rune :: rest =>
    if rune = .whole '\n' then
      (recordsFrom? .start [] [] rest).map ((read.reverse :: before).reverse :: ·)
    else none

/-- A line feed behind the carriage return completes the record. -/
theorem recordsFrom?_ending (read : List Rune) (before : List (List Rune)) (rest : List Rune) :
    recordsFrom? .ending read before (.whole '\n' :: rest)
      = (recordsFrom? .start [] [] rest).map ((read.reverse :: before).reverse :: ·) := by
  rw [recordsFrom?, if_pos rfl]

/-- The records of a text. -/
def records? (text : List Rune) : Option (List (List (List Rune))) :=
  recordsFrom? .start [] [] text

/-- A value in a field, if it can be written; an absent one leaves the field empty, and a text stands
for itself, torn or not. -/
def fieldRunes (depth : Nat) : Value → Except Failure (List Rune)
  | .null => .ok []
  | .torn text => .ok text.runes
  | value => (value.told depth).map Rune.ofText

/-- The names of the fields. -/
def header : List String :=
  ["file", "line", "column", "severity", "type", "code", "message"]

/-- The fields of an issue. -/
def issueFields (depth : Nat) (issue : Issue) : Except Failure (List (List Rune)) := do
  let line ← fieldRunes depth issue.line
  let column ← fieldRunes depth issue.column
  let code ← fieldRunes depth issue.code
  let message ← fieldRunes depth issue.message
  return [Rune.ofText issue.filePath, line, column, Rune.ofText issue.severity.name,
    Rune.ofText issue.category.name, code, message]

/-- The issues of a report, after a header. Values are told with so much room for what is nested in
them. -/
def render (depth : Nat) (r : ProjectReport) : Except Failure (List Rune) :=
  (r.issues.mapM (issueFields depth)).map fun rows =>
    (header.map Rune.ofText :: rows).flatMap record

end ScriptAudit.Csv
