import ScriptAudit.File.Path
import ScriptAudit.Lint.Command
import ScriptAudit.Lint.Message
import ScriptAudit.Lint.Profile
import ScriptAudit.Text.Digit

/-!
# External linters

A linter that runs a command on the text of each file. It works in a directory of its own, which
holds its configuration.

* `majorVersion` : the major version in a text.
* `ExternalLinter` : the linter; `ExternalLinter.start` finds out which shape of configuration the
  command takes.
* `ExternalLinter.lintCall`, `ExternalLinter.readOutcome` : the call for a file, and what is made of
  its outcome.
* `ExternalLinter.linter` : all of that as a `Linter`.
-/

namespace ScriptAudit

/-! ## Versions -/

/-- Whether a text goes on with a point and a digit. -/
def startsMinor : List Char → Bool
  | '.' :: c :: _ => (Text.digitValue? c).isSome
  | _ => false

/-- The first run of digits that a point and a digit follow. The first argument holds the digits
just read, the last one first. -/
def majorDigits? : List Nat → List Char → Option (List Nat)
  | _, [] => none
  | read, c :: rest =>
    match Text.digitValue? c with
    | some digit => majorDigits? (digit :: read) rest
    | none =>
      if !read.isEmpty && startsMinor (c :: rest) then some read.reverse
      else majorDigits? [] rest

/-- The major version in a text, which is a number before a point and a digit. It fails if that
number has too many digits. -/
def majorVersion (text : String) : Except Refusal (Option Nat) := do
  match majorDigits? [] text.toList with
  | none => return none
  | some digits =>
    Refusal.checkDigits digits.length
    return some (digitsValue digits)

/-- The first major version that takes the flat configuration. -/
def firstFlatVersion : Nat := 9

/-- The call that asks a command for its version. -/
def versionCall (command : String) (timeout : Number) : CommandCall :=
  ⟨[command, "--version"], timeout, none, none, []⟩

/-- Whether a command takes the flat configuration, by its answer to the question for its version.
A command that does not tell its version is taken to be a current one. -/
def takesFlat (host : CommandHost) : CommandOutcome → Except Failure Bool
  | .finished _ output errors => do
    let (output, _) ← host.texts output errors
    let version ← (majorVersion output).mapError .ofRefusal
    return version.all (firstFlatVersion ≤ ·)
  | _ => .ok true

/-! ## The linter -/

/-- A linter that runs a command, in a directory of its own. -/
structure ExternalLinter where
  profile : LintProfile
  command : String
  timeout : Number
  isFlat : Bool
  directory : String

namespace ExternalLinter

/-- The calls made before the first file: a shape that is given need not be asked for. -/
def startCalls (command : String) (timeout : Number) : Option Bool → List CommandCall
  | some _ => []
  | none => [versionCall command timeout]

/-- A linter, the shape of its configuration given or found out. -/
def start (host : CommandHost) (profile : LintProfile) (command : String) (timeout : Number)
    (isFlat : Option Bool) (directory : String) : Except Failure ExternalLinter := do
  let isFlat ← match isFlat with
    | some isFlat => .ok isFlat
    | none => takesFlat host (host.run (versionCall command timeout))
  return ⟨profile, command, timeout, isFlat, directory⟩

/-- Nothing else is run to make a linter. -/
theorem start_congr {host other : CommandHost} {profile : LintProfile} {command : String}
    {timeout : Number} {isFlat : Option Bool} {directory : String} (hdecode : host.decode = other.decode)
    (hrun : ∀ call ∈ startCalls command timeout isFlat, host.run call = other.run call) :
    start host profile command timeout isFlat directory
      = start other profile command timeout isFlat directory := by
  cases isFlat with
  | some _ => rfl
  | none =>
    have htexts : host.texts = other.texts := by
      funext output errors
      rw [CommandHost.texts, CommandHost.texts, hdecode]
    have htakes (outcome : CommandOutcome) : takesFlat host outcome = takesFlat other outcome := by
      cases outcome <;> simp only [takesFlat, htexts]
    simp only [start, htakes, hrun _ (List.mem_singleton_self _)]

/-- The file with the configuration. -/
def configPath (l : ExternalLinter) : String :=
  l.directory ++ (if l.isFlat then "/eslint.config.mjs" else "/.eslintrc.json")

/-- Where the command is installed: an absolute path without dots. A path that is relative starts
in a working directory. -/
def installedAt (host : CommandHost) (working : Path) (l : ExternalLinter) : String :=
  let found := match host.find l.command with
    | some path => if path = "" then l.command else path
    | none => l.command
  (Path.ofParts (working.under found).normal).text

/-- The text of the configuration. -/
def configText (host : CommandHost) (working : Path) (l : ExternalLinter) :
    Except Failure String :=
  if l.isFlat then l.profile.flatConfig (l.installedAt host working)
  else .ok (Json.compact l.profile.legacyConfig)

/-- Every framework has a configuration in both shapes. -/
theorem exists_configText (host : CommandHost) (working : Path) {l : ExternalLinter} {framework : String}
    (h : l.profile = .ofFramework framework) : ∃ text, l.configText host working = .ok text := by
  unfold configText
  split
  case isTrue =>
    rw [h]
    exact LintProfile.exists_flatConfig framework _
  case isFalse => exact ⟨_, rfl⟩

/-- The command line for a file. -/
def commandLine (l : ExternalLinter) (path : String) : List String :=
  [l.command] ++ (if l.isFlat then [] else ["--no-eslintrc"])
    ++ ["--config", l.configPath, "--format", "json", "--stdin", "--stdin-filename", path]

/-- The call for a file. A command that takes the legacy configuration is told so. -/
def lintCall (l : ExternalLinter) (source path : String) : CommandCall where
  command := l.commandLine path
  timeout := l.timeout
  input := some source
  directory := some l.directory
  environment := if l.isFlat then [] else [("ESLINT_USE_FLAT_CONFIG", "false")]

/-- The reason for a code that tells of a crash. -/
def crashReason (errors : String) : String :=
  let reason := String.ofList (Text.strip errors.toList)
  if reason = "" then "eslint failed" else reason

/-- The messages for a file, from the outcome of its call. The codes zero and one tell that the
linter did its work. -/
def readOutcome (host : CommandHost) (l : ExternalLinter) (path : String) :
    CommandOutcome → Except Failure (List LintMessage)
  | .timedOut =>
    .error (LintMessage.failed path ("timed out after " ++ l.timeout.toValue.display ++ "s") none)
  | .notStarted reason => .error (LintMessage.failed path reason none)
  | .finished code output errors => do
    let (output, errors) ← host.texts output errors
    if code = 0 ∨ code = 1 then LintMessage.readAll host.depth output path
    else throw (LintMessage.failed path (crashReason errors) (some code))

/-- The messages for a file. -/
def lint (host : CommandHost) (l : ExternalLinter) (source path : String) :
    Except Failure (List LintMessage) :=
  l.readOutcome host path (host.run (l.lintCall source path))

/-- An external linter as a linter. -/
def linter (host : CommandHost) (l : ExternalLinter) : Linter where
  lint source path := l.lint host (String.ofList source) path

end ExternalLinter

end ScriptAudit
