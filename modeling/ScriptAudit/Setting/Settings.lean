import ScriptAudit.Decimal.Rounding
import ScriptAudit.Setting.Basic

/-!
# Typed settings

* `Settings` : the settings of a run.
* `Draft.settings` : the settings that a draft stands for. `Draft.usable` refuses names of excluded
  directories that cannot be told apart.
* `Settings.draft` : the draft that stands for settings; `Settings.isAccepted` tells whether
  nothing is wrong with it.
* `Settings.sizeLimit` : the size of the largest file, in bytes.
-/

namespace ScriptAudit

/-- The settings of a run. -/
structure Settings where
  workers : Option Number
  excludeDirs : List String
  sourceExtensions : List String
  maxFileSize : Number
  maxFiles : Number
  followLinks : Bool
  lintEnabled : Bool
  lintCommand : Value
  lintTimeout : Number
  longestFunction : Number
  verbosity : String

/-- The texts among the items of a value. -/
def Value.texts (value : Value) : List String :=
  (value.items?.getD []).filterMap fun
    | .text s => some s
    | _ => none

/-- The number a value stands for, or zero. -/
def Value.numberOrZero (value : Value) : Number :=
  value.number?.getD (.whole 0)

/-- The settings that a draft stands for. -/
def Draft.settings (d : Draft) : Settings where
  workers := (d .workers).number?
  excludeDirs := (d .excludeDirs).texts
  sourceExtensions := (d .sourceExtensions).texts
  maxFileSize := (d .maxFileSize).numberOrZero
  maxFiles := (d .maxFiles).numberOrZero
  followLinks := (d .followLinks).isSet
  lintEnabled := (d .lintEnabled).isSet
  lintCommand := d .lintCommand
  lintTimeout := (d .lintTimeout).numberOrZero
  longestFunction := (d .longestFunction).numberOrZero
  verbosity := (d .verbosity).display

/-- Why a value cannot stand for the name of an excluded directory. A name that is no text does no
harm, but collections cannot be told apart. -/
def Value.exclusionFault? : Value → Option Failure
  | .list _ => some (.ofFault .wrongType "unhashable type: 'list'")
  | .table _ => some (.ofFault .wrongType "unhashable type: 'dict'")
  | _ => none

/-- The settings that a draft stands for, if the excluded directories can be told apart. -/
def Draft.usable (d : Draft) : Except Failure Settings :=
  match (d .excludeDirs).items? with
  | none => .error (Draft.wrongType ("'" ++ (d .excludeDirs).typeName ++ "' object is not iterable"))
  | some items =>
    match items.findSome? Value.exclusionFault? with
    | some failure => .error failure
    | none => .ok d.settings

namespace Settings

/-- The draft that stands for settings. -/
def draft (s : Settings) : Draft
  | .workers => (s.workers.map Number.toValue).getD .null
  | .excludeDirs => .list (s.excludeDirs.map .text)
  | .sourceExtensions => .list (s.sourceExtensions.map .text)
  | .maxFileSize => s.maxFileSize.toValue
  | .maxFiles => s.maxFiles.toValue
  | .followLinks => .bool s.followLinks
  | .lintEnabled => .bool s.lintEnabled
  | .lintCommand => s.lintCommand
  | .lintTimeout => s.lintTimeout.toValue
  | .longestFunction => s.longestFunction.toValue
  | .verbosity => .text s.verbosity

/-- Whether nothing is wrong with settings. -/
def isAccepted (s : Settings) : Bool :=
  s.draft.check.isOk

/-- The settings that nobody changed. -/
def default : Settings :=
  Draft.settings Setting.default

/-- The command of the linter, which has to be a text. -/
def command (s : Settings) : Except Failure String :=
  match s.lintCommand with
  | .text command => .ok command
  | other =>
    .error (.ofFault .wrongType
      ("expected str, bytes or os.PathLike object, not " ++ other.typeName))

/-- Demands that the linter can be looked for, if linting is enabled. -/
def checkLinting (s : Settings) : Except Failure Unit :=
  if s.lintEnabled then s.command.map fun _ => () else .ok ()

/-- Whether more than one worker is asked for. -/
def isParallel (s : Settings) : Bool :=
  s.workers.any (·.isAbove 1)

end Settings

/-- A size in mebibytes as a whole number of bytes. -/
def bytesOf : Number → Except Failure Int
  | .truth b => .ok (b.toInt * 1024 * 1024)
  | .whole n => .ok (n * 1024 * 1024)
  | .real x => truncationOf (x * 1024.0 * 1024.0)

/-- The size of the largest file that is analysed, in bytes. -/
def Settings.sizeLimit (s : Settings) : Except Failure Int :=
  bytesOf s.maxFileSize

end ScriptAudit
