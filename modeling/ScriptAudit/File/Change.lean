import ScriptAudit.File.System

/-!
# Changing a file system

* `FileSystem.makeDirectories` : a directory with everything above it.
* `FileSystem.write` : the contents of a file, which is created if need be.
* `FileSystem.place` : an entry of any kind, with the directories above it.
-/

namespace ScriptAudit.FileSystem

/-- Makes the directories that a list of steps leads through, from a path on. -/
def makeDirectoriesFrom (fs : FileSystem) (above : Path) : List String → Except AccessError FileSystem
  | [] => .ok fs
  | step :: steps =>
    let path : Path := ⟨above.absolute, above.parts ++ [step]⟩
    match fs.entry true path with
    | .ok (.directory _) => makeDirectoriesFrom fs path steps
    | .ok _ => .error .notDirectory
    | .error .missing =>
      match fs.locate true above with
      | .ok here => makeDirectoriesFrom (fs.insertAt (here ++ [step]) (.directory [])) path steps
      | .error e => .error e
    | .error e => .error e

/-- Makes the directory that an absolute path names, with everything above it. -/
def makeDirectories (fs : FileSystem) (path : Path) : Except AccessError FileSystem :=
  fs.makeDirectoriesFrom ⟨true, []⟩ path.parts

/-- The path that a link at the end of a path stands for. -/
def throughLink (fs : FileSystem) (path : Path) : Path :=
  match fs.entry false path with
  | .ok (.link target) => path.above.under target
  | _ => path

/-- The place where a file is written: links at the end of a path are followed as far as they
lead. -/
def writePath (fs : FileSystem) : Nat → Path → Path
  | 0, path => path
  | budget + 1, path => writePath fs budget (fs.throughLink path)

/-- Writes a file, given an absolute path. -/
def write (fs : FileSystem) (path : Path) (bytes : List UInt8) : Except AccessError FileSystem :=
  match fs.locate true path with
  | .ok here =>
    match fs.at? here with
    | some (.directory _) => .error .isDirectory
    | _ => .ok (fs.insertAt here (.file bytes))
  | .error .missing =>
    let path := fs.writePath linkLimit path
    match fs.locate true path.above with
    | .ok above =>
      match fs.at? above with
      | some (.directory _) => .ok (fs.insertAt (above ++ [path.name]) (.file bytes))
      | _ => .error .notDirectory
    | .error e => .error e
  | .error e => .error e

/-- Puts an entry where an absolute path says. A file is written through links; a directory that
is already there stays as it is. -/
def place (fs : FileSystem) (path : Path) (new : Entry) : Except AccessError FileSystem := do
  let fs ← fs.makeDirectories path.above
  match new with
  | .file bytes => fs.write path bytes
  | .directory _ => fs.makeDirectories path
  | _ =>
    let above ← fs.locate true path.above
    return fs.insertAt (above ++ [path.name]) new

end ScriptAudit.FileSystem
