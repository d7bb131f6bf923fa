import ScriptAudit.CommandLine.Option
import ScriptAudit.Decimal.Reading
import ScriptAudit.Format.Basic
import ScriptAudit.Report.Gate
import ScriptAudit.Text.Case

/-!
# Invocations

What a command line asks the program to do.

* `AnalyzeOptions` : how a project is to be analysed and reported.
* `Invocation` : an analysis, the version, or help.
* `Invocation.read` : the invocation of a command line.
-/

namespace ScriptAudit

/-- How a project is to be analysed and reported. -/
structure AnalyzeOptions where
  path : String
  format : Format
  output : Option String
  workers : Option Nat
  config : Option String
  withoutLint : Bool
  failLevel : FailLevel
  verbose : Bool
  quiet : Bool
  deriving DecidableEq, Repr

/-- What the program is to do. -/
inductive Invocation where
  | help
  | version
  | analyze (options : AnalyzeOptions)
  deriving DecidableEq, Repr

namespace Invocation

/-- The option that asks for help. -/
def helpSpec : OptionSpec := ⟨"help", ["--help"], false⟩

/-- The options of an analysis. -/
def analyzeSpecs : List OptionSpec :=
  [⟨"format", ["-f", "--format"], true⟩, ⟨"output", ["-o", "--output"], true⟩,
    ⟨"workers", ["-w", "--workers"], true⟩, ⟨"config", ["-c", "--config"], true⟩,
    ⟨"no-lint", ["--no-lint"], false⟩, ⟨"fail-on", ["--fail-on"], true⟩,
    ⟨"verbose", ["-v", "--verbose"], false⟩, ⟨"quiet", ["-q", "--quiet"], false⟩, helpSpec]

/-- A character of a name whose case does not matter. The long s counts as an s. -/
def foldChar (c : Char) : Char :=
  if c = 'ſ' then 's' else c

/-- A name whose case does not matter. -/
def fold (name : String) : String :=
  String.ofList ((Text.lower name.toList).map foldChar)

/-- The value of an option that chooses among names, or a default. -/
def choice {α : Type} (a : Arguments) (key : String) (all : List α) (name : α → String)
    (default : α) : Except UsageError α :=
  match a.value? key with
  | none => .ok default
  | some text =>
    match all.find? fun item => name item == fold text with
    | some item => .ok item
    | none => .error (.badValue ("--" ++ key) text)

/-- The least and the greatest number of workers. -/
def workerBounds : Nat × Nat := (1, 64)

/-- The number of workers, if it is given. -/
def workers (a : Arguments) : Except UsageError (Option Nat) :=
  match a.value? "workers" with
  | none => .ok none
  | some text =>
    match readCount? text.toList with
    | some n =>
      if workerBounds.1 ≤ n ∧ n ≤ workerBounds.2 then .ok (some n)
      else .error (.badValue "--workers" text)
    | none => .error (.badValue "--workers" text)

/-- The only operand, or a default. -/
def operand (a : Arguments) (default : String) : Except UsageError String :=
  match a.operands with
  | [] => .ok default
  | [text] => .ok text
  | _ :: extra :: _ => .error (.unwantedOperand extra)

/-- The options of an analysis. -/
def analyzeOptions (a : Arguments) : Except UsageError AnalyzeOptions := do
  let format ← choice a "format" Format.all Format.name .console
  let workers ← workers a
  let failLevel ← choice a "fail-on" FailLevel.all FailLevel.name .none
  let path ← operand a "."
  return { path, format, workers, failLevel, output := a.value? "output"
           config := a.value? "config", withoutLint := a.has "no-lint"
           verbose := a.has "verbose", quiet := a.has "quiet" }

/-- Reads what follows the name of a command. -/
def readCommand (specs : List OptionSpec) (rest : List String)
    (command : Arguments → Except UsageError Invocation) : Except UsageError Invocation := do
  let a ← Arguments.read specs true rest
  if a.has "help" then return .help else command a

/-- The version command, which takes no operands. -/
def versionCommand (a : Arguments) : Except UsageError Invocation :=
  match a.operands with
  | [] => .ok .version
  | extra :: _ => .error (.unwantedOperand extra)

/-- The invocation of a command line. -/
def read (arguments : List String) : Except UsageError Invocation := do
  let a ← Arguments.read [helpSpec] false arguments
  if a.has "help" then return .help
  match a.operands with
  | [] => .error .missingCommand
  | name :: rest =>
    if name = "analyze" then
      readCommand analyzeSpecs rest fun a => (analyzeOptions a).map .analyze
    else if name = "version" then readCommand [helpSpec] rest versionCommand
    else .error (.unknownCommand name)

end Invocation

end ScriptAudit
