import ScriptAudit.Text.Line

/-!
# Options of a command line

Arguments that start with a dash are options, all others are operands. A long option has two
dashes, and its value follows an equals sign or is the next argument. Short options have one dash
and a letter; several of them may share a dash, and the value of the last one may follow at once.
After two dashes alone there are only operands.

* `OptionSpec` : an option by its names, and whether it takes a value.
* `UsageError` : what is wrong with a command line.
* `Arguments`, `Arguments.read` : the options and operands of a command line.
-/

namespace ScriptAudit

/-- An option: the key it is known by, its names with their dashes, and whether it takes a
value. -/
structure OptionSpec where
  key : String
  names : List String
  takesValue : Bool
  deriving DecidableEq, Repr

/-- What is wrong with a command line. -/
inductive UsageError where
  | unknownOption (name : String)
  | missingValue (name : String)
  | unwantedValue (name : String)
  | badValue (name value : String)
  | missingCommand
  | unknownCommand (name : String)
  | unwantedOperand (operand : String)
  deriving DecidableEq, Repr

/-- What is wrong, in words. -/
def UsageError.text : UsageError → String
  | unknownOption name => "No such option: " ++ name
  | missingValue name => "Option '" ++ name ++ "' requires an argument."
  | unwantedValue name => "Option '" ++ name ++ "' does not take a value."
  | badValue name value => "Invalid value for '" ++ name ++ "': " ++ value
  | missingCommand => "Missing command."
  | unknownCommand name => "No such command '" ++ name ++ "'."
  | unwantedOperand operand => "Got unexpected extra argument (" ++ operand ++ ")"

/-- The options that were given, by key, and the operands, both in order. -/
structure Arguments where
  options : List (String × String)
  operands : List String
  deriving DecidableEq, Repr

namespace Arguments

/-- Whether an option was given. -/
def has (a : Arguments) (key : String) : Bool :=
  a.options.any (·.1 == key)

/-- The value that was last given to an option. -/
def value? (a : Arguments) (key : String) : Option String :=
  (a.options.reverse.find? (·.1 == key)).map (·.2)

/-- Puts options before all others. -/
def after (options : List (String × String)) (a : Arguments) : Arguments :=
  { a with options := options ++ a.options }

/-- Puts an operand before all others. -/
def afterOperand (operand : String) (a : Arguments) : Arguments :=
  { a with operands := operand :: a.operands }

/-- What one argument gives: options with their values, and perhaps an option whose value is the
next argument. An option that takes no value is given with an empty one. -/
structure Reading where
  given : List (String × String)
  awaiting : Option OptionSpec

/-- The option with a name. -/
def spec? (specs : List OptionSpec) (name : String) : Option OptionSpec :=
  specs.find? (·.names.contains name)

/-- The name of a short option. -/
def shortName (letter : Char) : String :=
  String.ofList ['-', letter]

/-- Reads the letters of short options. -/
def readShort (specs : List OptionSpec) : List Char → Except UsageError Reading
  | [] => .ok ⟨[], none⟩
  | letter :: rest =>
    match spec? specs (shortName letter) with
    | none => .error (.unknownOption (shortName letter))
    | some spec =>
      if spec.takesValue then
        .ok (if rest.isEmpty then ⟨[], some spec⟩ else ⟨[(spec.key, String.ofList rest)], none⟩)
      else (readShort specs rest).map fun r => { r with given := (spec.key, "") :: r.given }

/-- What stands before the first equals sign, and what follows it if there is one. -/
def cutAtEquals (argument : List Char) : List Char × Option (List Char) :=
  match argument.dropWhile (· != '=') with
  | _ :: value => (argument.takeWhile (· != '='), some value)
  | [] => (argument, none)

/-- Reads an option with two dashes. -/
def readLong (specs : List OptionSpec) (argument : List Char) : Except UsageError Reading :=
  let (name, value) := cutAtEquals argument
  let name := String.ofList name
  match spec? specs name, value with
  | none, _ => .error (.unknownOption name)
  | some spec, none => .ok (if spec.takesValue then ⟨[], some spec⟩ else ⟨[(spec.key, "")], none⟩)
  | some spec, some value =>
    if spec.takesValue then .ok ⟨[(spec.key, String.ofList value)], none⟩
    else .error (.unwantedValue name)

/-- What an argument that is an option gives; an operand gives nothing. -/
def readOption (specs : List OptionSpec) (argument : String) :
    Option (Except UsageError Reading) :=
  match argument.toList with
  | '-' :: '-' :: rest => some (readLong specs ('-' :: '-' :: rest))
  | '-' :: letter :: rest => some (readShort specs (letter :: rest))
  | _ => none

/-- Reads arguments. If options may not follow operands, everything after the first operand is an
operand. -/
def read (specs : List OptionSpec) (mixed : Bool) : List String → Except UsageError Arguments
  | [] => .ok ⟨[], []⟩
  | argument :: rest =>
    if argument = "--" then .ok ⟨[], rest⟩
    else
      match readOption specs argument with
      | none =>
        if mixed then (read specs mixed rest).map (afterOperand argument)
        else .ok ⟨[], argument :: rest⟩
      | some (.error e) => .error e
      | some (.ok ⟨given, none⟩) => (read specs mixed rest).map (after given)
      | some (.ok ⟨given, some spec⟩) =>
        match rest with
        | [] => .error (.missingValue (spec.names.headD spec.key))
        | value :: rest =>
          (read specs mixed rest).map (after (given ++ [(spec.key, value)]))

end Arguments

end ScriptAudit
