import ScriptAudit.CommandLine.Execution
import ScriptAudit.File.Snapshot
import ScriptAudit.Format.Plain
import ScriptAudit.Lint.Registry
import ScriptAudit.Tree.Rows

/-!
# Surroundings as data

The grammars belong to an external program, which hands over what it finds: files, the trees of
those that it could parse, two directories, how many directories a search can enter one inside the
other, how deeply collections may be nested, and the time. The console has no colours.

* `Timestamp.ofValue` : a moment from its parts.
* `Surroundings.ofValue` : what a command finds, apart from the environment.
-/

namespace ScriptAudit

/-- A moment from its year, month, day, hour, minute, second, microsecond and offset. -/
def Timestamp.ofValue (value : Value) : Timestamp :=
  let part (i : Nat) : Value := value.elements.getD i .null
  ⟨⟨(part 0).nat, (part 1).nat, (part 2).nat⟩,
    ⟨(part 3).nat, (part 4).nat, (part 5).nat, (part 6).nat⟩, (part 7).int?⟩

/-- A parser that knows the trees of files by their paths below a directory. -/
def Parser.ofTrees (directory : Path) (trees : Value) (file : Path) : Parser where
  grammars := [.typescript, .tsx]
  tree? _ _ := Tree.ofValue? (trees.field (file.relativeTo directory))

/-- What a command finds. The directories are made if they are not there, and no linter is
installed. -/
def Surroundings.ofValue (environment : String → Option String) (value : Value) : Surroundings :=
  let home := Path.parse (value.textField "home" "/")
  let working := Path.parse (value.textField "directory" "/")
  let top := FileSystem.empty (value.field "room").nat
  let empty := (top.placed home (.directory [])).placed working (.directory [])
  { files := empty.ofEntries working (value.field "files").elements, home, working, environment
    parser := Parser.ofTrees working (value.field "trees")
    linter := Settings.absentLinter, completion := List.range
    timing := ⟨((value.field "duration").int?).getD 0, .ofValue (value.field "timestamp")⟩
    terminal := .plain
    readDepth := (value.field "readDepth").nat, toldDepth := (value.field "toldDepth").nat
    reportDepth := (value.field "reportDepth").nat }

end ScriptAudit
