import ScriptAudit.File.Canonical
import ScriptAudit.Setting.Settings
import ScriptAudit.Text.Utf8
import ScriptAudit.Toml.Parser

/-!
# Loading settings

Settings come from several sources. In ascending order of priority: defaults, a file in the home
directory, a file in the working directory, a file that is named, the environment, and overrides.

* `Loading.fileEntries` : the settings in a file, which may stand in a section of their own.
* `Loading.environmentEntries` : the settings in the environment.
* `Loading.overrides` : the overrides, after two shorthands for the verbosity.
* `Origin` : where settings come from. `Origin.home` and `Origin.current` are the home directory and
  the working directory, which may be unknown.
* `Origin.load` : all sources together.
-/

namespace ScriptAudit

namespace Loading

/-- The section of a file that holds settings. -/
def section_ : String := "sourcescope"

/-- Puts later entries over earlier ones. -/
def overlay (later earlier : List (String × Value)) : List (String × Value) :=
  later.foldl (fun entries (key, value) => insertEntry key value entries) earlier

/-- The entries in the bytes of a file, with so much nesting at most. -/
def entriesOf (depth : Nat) (bytes : List UInt8) : Except Refusal (List (String × Value)) := do
  Toml.read depth (← Refusal.needed (Utf8.decode? bytes))

/-- The section with the settings, or everything if there is no such section. -/
def sectionOf (entries : List (String × Value)) : List (String × Value) :=
  match lookup? section_ entries with
  | some (.table inner) => inner
  | _ => entries

/-- The settings in the file at an absolute path, which is shown by the path that was given. -/
def fileEntries (depth : Nat) (fs : FileSystem) (what : String) (place path : Path) :
    Except Failure (List (String × Value)) :=
  let failed (reason : String) : Failure :=
    .general ("Invalid " ++ what ++ " '" ++ path.text ++ "': " ++ reason)
  match fs.read place with
  | .error e => .error (failed (e.report (Text.quoteString path.text)))
  | .ok bytes =>
    match entriesOf depth bytes with
    | .error refusal => .error (failed refusal.text)
    | .ok entries => .ok (sectionOf entries)

/-- The settings in a file that need not be there. Its absolute path is unknown if there is nothing it
could be relative to; then it is not there. -/
def optionalEntries (depth : Nat) (fs : FileSystem) (what : String) (place? : Option Path)
    (path : Path) : Except Failure (List (String × Value)) :=
  match place? with
  | none => .ok []
  | some place =>
    match fs.isThere place with
    | .ok true => fileEntries depth fs what place path
    | .ok false => .ok []
    | .error e => .error (FileSystem.inaccessible path e)

/-- The settings in a file that is asked for. Its path may be relative to a directory. -/
def namedEntries (depth : Nat) (fs : FileSystem) (base : Path) :
    Option Path → Except Failure (List (String × Value))
  | none => .ok []
  | some path =>
    let missing : Failure := .general ("Config file not found: " ++ path.text)
    if path.isBroken then .error missing
    else
      match fs.isThere (base.join path) with
      | .ok true => fileEntries depth fs "config file" (base.join path) path
      | .ok false => .error missing
      | .error e => .error (FileSystem.inaccessible path e)

/-- The kinds of settings that the environment can hold. -/
inductive Form where
  | whole
  | decimal
  | switch
  | word
  deriving DecidableEq, Repr

/-- The form of a setting in the environment; lists have none. -/
def form? : Setting → Option Form
  | .workers | .maxFiles | .lintTimeout | .longestFunction => some .whole
  | .maxFileSize => some .decimal
  | .followLinks | .lintEnabled => some .switch
  | .lintCommand | .verbosity => some .word
  | .excludeDirs | .sourceExtensions => none

/-- The words that turn something on. -/
def onWords : List String := ["true", "1", "yes", "on"]

/-- The words that turn something off. -/
def offWords : List String := ["false", "0", "no", "off"]

/-- The longest literal in the complaint about a whole number. -/
def shownLiteral : Nat := 200

/-- Reads a value of a given form. -/
def readForm (text : String) : Form → Except String Value
  | .whole =>
    match readInt text.toList with
    | .ok n => .ok (.int n)
    | .error (.tooLong digits) => .error (Refusal.tooLong digits).text
    | .error _ =>
      .error ("invalid literal for int() with base 10: "
        ++ String.ofList ((Text.quote text.toList).take shownLiteral))
  | .decimal =>
    match readFloat? text.toList with
    | some x => .ok (.float x)
    | none => .error ("could not convert string to float: " ++ Text.quoteString text)
  | .switch =>
    if onWords.contains (Text.lowerString text) then .ok (.bool true)
    else if offWords.contains (Text.lowerString text) then .ok (.bool false)
    else .error ("expected true/false, got '" ++ text ++ "'")
  | .word => .ok (.text text)

/-- The variable that holds a setting. -/
def variableName (setting : Setting) : String :=
  "SOURCESCOPE_" ++ String.ofList (setting.name.toList.map Char.toUpper)

/-- The value of a setting in the environment, if it is there. -/
def variableValue (environment : String → Option String) (setting : Setting) :
    Except Failure (Option Value) :=
  match form? setting, environment (variableName setting) with
  | some form, some text =>
    match readForm text form with
    | .ok value => .ok (some value)
    | .error reason => .error (.general ("Invalid " ++ variableName setting ++ ": " ++ reason))
  | _, _ => .ok none

/-- The settings in the environment. -/
def environmentEntries (environment : String → Option String) :
    Except Failure (List (String × Value)) :=
  (Setting.all.mapM fun setting =>
    (variableValue environment setting).map fun value => (value.map (setting.name, ·)).toList).map
    List.flatten

/-- Replaces a shorthand by the verbosity that it stands for. -/
def shorthand (key verbosity : String) (entries : List (String × Value)) :
    List (String × Value) :=
  let others (entries : List (String × Value)) := entries.filter (·.1 != key)
  match lookup? key entries with
  | none => entries
  | some value =>
    if value.isSet then others (insertEntry "verbosity" (.text verbosity) entries)
    else others entries

/-- Whether a value is given at all. -/
def isGiven : Value → Bool
  | .null => false
  | _ => true

/-- The overrides that count. -/
def overrides (entries : List (String × Value)) : List (String × Value) :=
  (shorthand "quiet" "quiet" (shorthand "verbose" "verbose" entries)).filter (isGiven ·.2)

/-- The name under which the file is given, which is no override. -/
def fileName : String := "config_file"

/-- A value of the wrong type makes settings invalid. -/
def asProblem : Failure → Failure
  | .fault ⟨.wrongType, message⟩ => .general ("Invalid configuration: " ++ message)
  | other => other

end Loading

/-- Where settings come from: the files, the home directory that the system knows of, the working
directory if it is still there, the environment, and how deeply collections may be nested in a file
and in a value that is told. -/
structure Origin where
  files : FileSystem
  account : Option String
  working : Option Path
  environment : String → Option String
  readDepth : Nat
  toldDepth : Nat

namespace Origin

/-- The fault of a home directory that is unknown. -/
def homeless : Fault :=
  ⟨.undetermined, "Could not determine home directory."⟩

/-- The fault of a working directory that is gone. -/
def astray : Fault :=
  ⟨.inaccessible, "[Errno " ++ natText AccessError.missing.code ++ "] " ++ AccessError.missing.text⟩

/-- The home directory. The environment comes before what the system knows, and a directory that is
named by a tilde is unknown. -/
def home (o : Origin) : Except Failure Path :=
  match (o.environment "HOME").or o.account with
  | none => .error (.fault homeless)
  | some text =>
    if Text.startsWith "~" text then .error (.fault homeless)
    else .ok (if text = "" then .ofParts [] else .parse text)

/-- The working directory. -/
def current (o : Origin) : Except Failure Path :=
  match o.working with
  | none => .error (.fault astray)
  | some working => .ok working

theorem current_eq_ok_iff {o : Origin} {working : Path} :
    o.current = .ok working ↔ o.working = some working := by
  unfold current
  cases o.working <;> simp

/-- The absolute path that a path stands for. -/
def place? (o : Origin) (path : Path) : Option Path :=
  if path.absolute then some path else o.working.map (·.join path)

/-- The name of the file with the settings for everything, in the home directory. -/
def homeName : String := ".sourcescope.toml"

/-- The name of the file with the settings for a project, in the working directory. -/
def projectName : String := "sourcescope.toml"

/-- The settings for everything. -/
def homeEntries (o : Origin) (home : Path) : Except Failure (List (String × Value)) :=
  Loading.optionalEntries o.readDepth o.files "global config" (o.place? (home.under homeName))
    (home.under homeName)

/-- The settings for a project. -/
def projectEntries (o : Origin) (working : Path) : Except Failure (List (String × Value)) :=
  Loading.optionalEntries o.readDepth o.files "project config" (some (working.under projectName))
    (working.under projectName)

/-- The entries of all sources together; the path of the file may be relative to the working
directory. -/
def entries (o : Origin) (file : Option Path) (overrides : List (String × Value)) :
    Except Failure (List (String × Value)) := do
  let home ← o.home
  let inHome ← o.homeEntries home
  let working ← o.current
  let inProject ← o.projectEntries working
  let inFile ← Loading.namedEntries o.readDepth o.files working file
  let inEnvironment ← Loading.environmentEntries o.environment
  return Loading.overlay (Loading.overrides overrides)
    (Loading.overlay inEnvironment (Loading.overlay inFile (Loading.overlay inProject inHome)))

/-- Loads settings, with an optional file and overrides. -/
def load (o : Origin) (file : Option Path) (overrides : List (String × Value)) :
    Except Failure Draft := do
  if (lookup? Loading.fileName overrides).isSome then
    throw (Draft.wrongType ("load_config() got multiple values for argument '" ++ Loading.fileName
      ++ "'"))
  let entries ← o.entries file overrides
  (Draft.accepted o.toldDepth entries).mapError Loading.asProblem

end Origin

end ScriptAudit
