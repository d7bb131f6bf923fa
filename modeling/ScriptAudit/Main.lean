import ScriptAudit.CommandLine.Snapshot

/-!
# The program

Carries out its command line on a snapshot, which is a file of JSON named by a variable. A report
that is to be written to a file is written for real.
-/

namespace ScriptAudit

/-- The variable that names the snapshot. -/
def snapshotVariable : String := "SOURCESCOPE_SNAPSHOT"

/-- The settings in the environment, by the names of their variables. -/
def environmentSettings : IO (List (String × String)) := do
  let values ← Setting.all.mapM fun setting => do
    let name := Loading.variableName setting
    return (← IO.getEnv name).map (name, ·)
  return values.filterMap id

/-- The snapshot; without one there are no files. -/
def readSnapshot : IO Value := do
  match ← IO.getEnv snapshotVariable with
  | none => return .table []
  | some path => return (Json.readString? (← IO.FS.readFile path)).getD (.table [])

/-- Carries out a command line and tells its code. -/
def runProgram (arguments : List String) : IO UInt32 := do
  let environment ← environmentSettings
  let s := Surroundings.ofValue (lookup? · environment) (← readSnapshot)
  if let .error e := Invocation.checked s arguments then
    IO.eprintln e.text
  let result := execute s arguments
  IO.print result.printed
  if let some path := result.written then
    if let .ok bytes := result.files.read path then
      IO.FS.writeBinFile path.text ⟨bytes.toArray⟩
  return UInt32.ofNat result.code

end ScriptAudit

/-- The entry point of the program. -/
def main (arguments : List String) : IO UInt32 :=
  ScriptAudit.runProgram arguments
