import ScriptAudit.Failure.Basic
import ScriptAudit.Text.Line

/-!
# Settings

What can be set, and what has to hold of it.

* `Setting` : the settings, with their names and defaults.
* `Draft` : a value of any shape for each setting. `Draft.ofEntries` refuses unknown names.
* `Complaint` : what is wrong with a value, and how it is told.
* `Draft.check` : the first thing that is wrong with a draft.
-/

namespace ScriptAudit

/-- Something that can be set. -/
inductive Setting where
  | workers
  | excludeDirs
  | sourceExtensions
  | maxFileSize
  | maxFiles
  | followLinks
  | lintEnabled
  | lintCommand
  | lintTimeout
  | longestFunction
  | verbosity
  deriving DecidableEq, Repr

namespace Setting

/-- All settings. -/
def all : List Setting :=
  [workers, excludeDirs, sourceExtensions, maxFileSize, maxFiles, followLinks, lintEnabled,
    lintCommand, lintTimeout, longestFunction, verbosity]

/-- The name of a setting in files. -/
def name : Setting → String
  | workers => "workers"
  | excludeDirs => "exclude_dirs"
  | sourceExtensions => "source_extensions"
  | maxFileSize => "max_file_size_mb"
  | maxFiles => "max_files"
  | followLinks => "follow_symlinks"
  | lintEnabled => "lint_enabled"
  | lintCommand => "eslint_command"
  | lintTimeout => "lint_timeout_seconds"
  | longestFunction => "large_function_lines"
  | verbosity => "verbosity"

/-- The setting with a name. -/
def ofName? (name : String) : Option Setting :=
  all.find? (·.name == name)

/-- Directories that are never worth a look. -/
def usualExclusions : List String :=
  ["node_modules", "dist", "build", ".git", ".next", ".nuxt", ".svelte-kit", ".output"]

/-- Extensions of script files. -/
def usualExtensions : List String :=
  [".mjs", ".cjs", ".js", ".jsx", ".ts", ".tsx", ".vue", ".svelte"]

/-- The value of a setting that nobody sets. -/
def default : Setting → Value
  | workers => .null
  | excludeDirs => .list (usualExclusions.map .text)
  | sourceExtensions => .list (usualExtensions.map .text)
  | maxFileSize => .float 5.0
  | maxFiles => .int 20000
  | followLinks => .bool false
  | lintEnabled => .bool true
  | lintCommand => .text "eslint"
  | lintTimeout => .int 30
  | longestFunction => .int 50
  | verbosity => .text "normal"

end Setting

/-- A value of any shape for each setting. -/
abbrev Draft := Setting → Value

/-- The levels of verbosity. -/
def verbosities : List String := ["quiet", "normal", "verbose"]

namespace Draft

/-- A failure for a value of the wrong type. -/
def wrongType (message : String) : Failure :=
  .ofFault .wrongType message

/-- The first name that belongs to no setting. -/
def unknownName? (entries : List (String × Value)) : Option String :=
  (entries.map (·.1)).find? fun name => (Setting.ofName? name).isNone

/-- The name that stands for the settings themselves. -/
def reservedName : String := "self"

/-- The complaint about a name that belongs to no setting. -/
def nameComplaint (name : String) : String :=
  "AnalysisConfig.__init__() got "
    ++ (if name = reservedName then "multiple values for argument '"
      else "an unexpected keyword argument '") ++ name ++ "'"

/-- The draft that some entries make; the rest are defaults. -/
def ofEntries (entries : List (String × Value)) : Except Failure Draft :=
  match unknownName? entries with
  | some name => .error (wrongType (nameComplaint name))
  | none => .ok fun setting => (lookup? setting.name entries).getD setting.default

end Draft

/-- What is wrong with a value: it is of the wrong type, it has the wrong shape, or it is refused. -/
inductive Complaint where
  | wrongType (message : String)
  | wrongShape (message : String)
  | refused (setting : Setting) (value : Value) (reason : String)

/-- The failure that a complaint becomes. A refused value is told with the problem, where it can be
written; collections may be nested so deeply in it. -/
def Complaint.told (depth : Nat) : Complaint → Failure
  | wrongType message => .ofFault .wrongType message
  | wrongShape message => .ofFault .wrongShape message
  | refused setting value reason =>
    match value.unwritable? depth with
    | none => .problem (.invalidSetting (.text setting.name) value (.text reason))
    | some reason => .fault (.unwritable reason)

namespace Draft

/-- Demands that a value can be compared with a number, and that the comparison does not hold. -/
def refuse (d : Draft) (setting : Setting) (sign : String) (holds : Number → Bool)
    (reason : String) : Except Complaint Unit :=
  match (d setting).number? with
  | none =>
    .error (.wrongType ("'" ++ sign ++ "' not supported between instances of '"
      ++ (d setting).typeName ++ "' and 'int'"))
  | some n => if holds n then .error (.refused setting (d setting) reason) else .ok ()

/-- Demands a number of at least one. -/
def atLeastOne (d : Draft) (setting : Setting) : Except Complaint Unit :=
  d.refuse setting "<" (·.isBelow 1) "must be at least 1"

/-- Demands an extension that starts with a dot. -/
def checkExtension : Value → Except Complaint Unit
  | .text s =>
    if Text.startsWith "." s then .ok ()
    else .error (.refused .sourceExtensions (.text s) "extensions must start with '.'")
  | other =>
    .error (.wrongShape ("'" ++ other.typeName ++ "' object has no attribute 'startswith'"))

/-- Demands extensions that start with a dot. -/
def checkExtensions (d : Draft) : Except Complaint Unit :=
  match (d .sourceExtensions).items? with
  | some items => items.forM checkExtension
  | none =>
    .error (.wrongType ("'" ++ (d .sourceExtensions).typeName ++ "' object is not iterable"))

/-- Demands one of the levels of verbosity. -/
def checkVerbosity (d : Draft) : Except Complaint Unit :=
  match d .verbosity with
  | .text s =>
    if verbosities.contains s then .ok ()
    else .error (.refused .verbosity (.text s) "expected quiet/normal/verbose")
  | other => .error (.refused .verbosity other "expected quiet/normal/verbose")

/-- Demands at least one worker, if their number is given. -/
def checkWorkers (d : Draft) : Except Complaint Unit :=
  match d .workers with
  | .null => .ok ()
  | _ => d.atLeastOne .workers

/-- Demands everything that has to hold of settings. -/
def check (d : Draft) : Except Complaint Unit := do
  d.checkWorkers
  d.refuse .maxFileSize "<=" (·.isAtMost 0) "must be positive"
  d.atLeastOne .maxFiles
  d.atLeastOne .lintTimeout
  d.atLeastOne .longestFunction
  d.checkExtensions
  d.checkVerbosity

/-- The draft that some entries make, if nothing is wrong with it. -/
def accepted (depth : Nat) (entries : List (String × Value)) : Except Failure Draft := do
  let d ← ofEntries entries
  d.check.mapError (·.told depth)
  return d

end Draft

end ScriptAudit
