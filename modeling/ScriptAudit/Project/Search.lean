import ScriptAudit.File.System
import ScriptAudit.Setting.Settings

/-!
# Searching for files

Goes through the directories below a root and lists the script files, names in ascending order.
Everything that is left out for a reason of its own is explained by a warning. What kind of entry a
name stands for is read off the listing of its directory; only links, the sizes of files, and
directories that are entered are looked up by their paths.

* `Search` : what was found so far.
* `isSourceName` : whether a name is that of a script file.
* `Search.leadsTo`, `Search.fileSize?` : what an entry of a directory is, links being followed.
* `Search.Pending.fits` : whether there is room to enter a directory that deep below the root.
* `Stage`, `Stage.step` : where a search stands, and what looking at one more thing makes of it.
* `Stage.resume` : works off what is still to be looked at.
* `explore`, `search` : everything below a root, with the directories that were opened and without.
-/

namespace ScriptAudit

/-- The extensions of script files in lower case. -/
def loweredExtensions (extensions : List String) : List String :=
  extensions.map Text.lowerString

/-- Whether a name is that of a script file. -/
def isSourceName (extensions : List String) (name : String) : Bool :=
  (loweredExtensions extensions).contains (lowerExtension name)

/-- What a search has found: the files to be analysed, the number of candidates among which they
are, and the reasons for everything left out. -/
structure Search where
  files : List Path
  discovered : Nat
  warnings : List String
  deriving DecidableEq, Repr

namespace Search

/-- Nothing found yet. -/
def nothing : Search := ⟨[], 0, []⟩

/-- The number of candidates that were left out. -/
def skipped (s : Search) : Int :=
  s.discovered - s.files.length

/-- Adds a warning. -/
def warn (s : Search) (warning : String) : Search :=
  { s with warnings := s.warnings ++ [warning] }

/-- Something that is still to be looked at. -/
inductive Pending where
  | entry (path : Path)
  | directory (path : Path)
  deriving DecidableEq, Repr

/-- The work that something pending stands for, apart from what lies below it. -/
def Pending.weight : Pending → Nat
  | entry _ => 2
  | directory _ => 1

/-- The work that an agenda stands for. -/
def weights : List Pending → Nat
  | [] => 0
  | item :: agenda => item.weight + weights agenda

/-- A path below a directory. -/
def below (directory : Path) (name : String) : Path :=
  { directory with parts := directory.parts ++ [name] }

/-- The names in a directory in ascending order. -/
def sortedNames (entries : List (String × Entry)) : List String :=
  (entries.map (·.1)).mergeSort fun a b => a ≤ b

/-- Whether a directory can be entered that deep below a root. Everything else takes no room. -/
def Pending.fits (fs : FileSystem) (root : Path) : Pending → Bool
  | entry _ => true
  | directory path => path.parts.length ≤ root.parts.length + fs.room

/-- There is no room to enter one more directory inside the others. -/
def tooDeep : Failure :=
  .ofRefusal .tooDeep

/-- Whether an entry of a directory is of some kind. Links are followed if asked for; one that leads
nowhere is of no kind. -/
def leadsTo (fs : FileSystem) (follow : Bool) (kind : Entry → Bool) (path : Path) :
    Except AccessError Bool :=
  match fs.listed path with
  | none => .ok false
  | some e =>
    if follow && e.isLink then
      match fs.entry true path with
      | .ok e => .ok (kind e)
      | .error .missing => .ok false
      | .error e => .error e
    else .ok (kind e)

/-- Whether an entry of a directory is a link. -/
def isLink (fs : FileSystem) (path : Path) : Bool :=
  (fs.listed path).any Entry.isLink

/-- The size of the file that an entry of a directory leads to, if it leads to one. -/
def fileSize? (fs : FileSystem) (path : Path) : Except AccessError (Option Nat) :=
  match leadsTo fs true Entry.isFile path with
  | .error e => .error e
  | .ok false => .ok none
  | .ok true => (fs.entry true path).map fun e => some e.size

/-- Takes in a file, unless it is too large or there are enough files. -/
def takeIn (settings : Settings) (size : Nat) (path : Path) (s : Search) : Except Failure Search :=
  settings.sizeLimit.map fun limit =>
    if limit < (size : Int) then
      s.warn ("Skipping " ++ path.text ++ ": " ++ natText size ++ " bytes exceeds size limit")
    else if settings.maxFiles.isAtMost s.files.length then
      s.warn ("Skipping " ++ path.text ++ ": max files limit ("
        ++ settings.maxFiles.toValue.display ++ ")")
    else { s with files := s.files ++ [path] }

/-- Looks at a candidate. -/
def consider (fs : FileSystem) (settings : Settings) (path : Path) (s : Search) :
    Except Failure Search :=
  let s := { s with discovered := s.discovered + 1 }
  match fileSize? fs path with
  | .error e => .ok (s.warn ("Cannot stat " ++ path.text ++ ": " ++ e.text))
  | .ok (some size) => takeIn settings size path s
  | .ok none =>
    .ok (if isLink fs path then s.warn ("Dangling symlink " ++ path.text ++ ", skipping") else s)

end Search

/-- Where a search stands: the directories come to so far in the order in which they were opened or
found not to be readable, what was found, and what is still to be looked at. -/
structure Stage where
  opened : List Location
  found : Search
  agenda : List Search.Pending
  deriving DecidableEq, Repr

namespace Stage

open Search

/-- Nothing looked at yet below a root. -/
def start (root : Path) : Stage :=
  ⟨[], .nothing, [.directory root]⟩

/-- Adds a warning. -/
def warn (s : Stage) (warning : String) : Stage :=
  { s with found := s.found.warn warning }

/-- Opens the directory that a path leads to and puts its entries in front of the agenda, unless it
was come to before or may not be read. -/
def enter (fs : FileSystem) (path : Path) (s : Stage) : Stage :=
  match fs.locate true path with
  | .error e => s.warn ("Skipping directory " ++ path.text ++ ": " ++ e.text)
  | .ok here =>
    match fs.at? here with
    | some (.directory entries) =>
      if s.opened.contains here then s.warn ("Symlink loop at " ++ path.text ++ ", skipping")
      else if !fs.mayRead here then
        { s.warn ("Skipping directory " ++ path.text ++ ": " ++ AccessError.denied.text) with
          opened := s.opened ++ [here] }
      else
        { s with
          opened := s.opened ++ [here]
          agenda := (sortedNames entries).map (fun name => .entry (below path name)) ++ s.agenda }
    | _ => s.warn ("Skipping directory " ++ path.text ++ ": " ++ AccessError.notDirectory.text)

/-- Looks at an entry: a directory is put on the agenda, and a script file is a candidate. -/
def lookAt (fs : FileSystem) (settings : Settings) (path : Path) (s : Stage) :
    Except Failure Stage :=
  if settings.excludeDirs.contains path.name then .ok s
  else
    match leadsTo fs settings.followLinks Entry.isDirectory path with
    | .error e => .ok (s.warn ("Skipping " ++ path.text ++ ": " ++ e.text))
    | .ok true => .ok { s with agenda := .directory path :: s.agenda }
    | .ok false =>
      if isSourceName settings.sourceExtensions path.name then
        (consider fs settings path s.found).map fun found => { s with found }
      else .ok s

/-- Looks at something pending, which is on the agenda no more. -/
def look (fs : FileSystem) (settings : Settings) (s : Stage) : Pending → Except Failure Stage
  | .directory path => .ok (s.enter fs path)
  | .entry path => s.lookAt fs settings path

/-- Looks at something pending, if there is room for it. -/
def step (fs : FileSystem) (settings : Settings) (root : Path) (item : Pending) (s : Stage) :
    Except Failure Stage :=
  if item.fits fs root then s.look fs settings item else .error tooDeep

/-- The directories that were not come to yet. -/
def unopened (fs : FileSystem) (s : Stage) : List Location :=
  fs.directories.filter fun here => !s.opened.contains here

/-- The work left: the directories not come to yet, and then what is on the agenda. -/
def workLeft (fs : FileSystem) (s : Stage) : Nat × Nat :=
  ((s.unopened fs).length, weights s.agenda)

/-- Coming to a directory leaves fewer of them. -/
theorem length_unopened_lt {fs : FileSystem} {s next : Stage} {here : Location}
    {entries : List (String × Entry)} (hat : fs.at? here = some (.directory entries))
    (hfresh : here ∉ s.opened) (hnext : next.opened = s.opened ++ [here]) :
    (next.unopened fs).length < (s.unopened fs).length := by
  have hsub : next.unopened fs = (s.unopened fs).filter fun there => !(there == here) := by
    simp only [unopened, hnext, List.filter_filter]
    congr 1
    funext there
    by_cases h : there = here <;> simp [h]
  have hmem : here ∈ s.unopened fs := by
    simp [unopened, FileSystem.mem_directories hat, hfresh]
  rw [hsub]
  exact List.length_filter_lt_length_iff_exists.2 ⟨here, hmem, by simp⟩

/-- Every step leaves less work. Directories that were come to are counted off, so links that run in a
circle do no harm. -/
theorem workLeft_step {fs : FileSystem} {settings : Settings} {root : Path} {item : Pending}
    {s next : Stage} (h : s.step fs settings root item = .ok next) :
    Prod.Lex (· < ·) (· < ·) (next.workLeft fs)
      ({ s with agenda := item :: s.agenda }.workLeft fs) := by
  have hlt : weights s.agenda < weights (item :: s.agenda) := by
    cases item <;> simp [weights, Pending.weight]
  unfold step at h
  split at h
  case isFalse => cases h
  cases item with
  | directory path =>
    cases h
    unfold enter
    split
    · exact Prod.Lex.right _ hlt
    · split
      · split
        · exact Prod.Lex.right _ hlt
        · rename_i hat hfresh
          split
          · exact Prod.Lex.left _ _ (length_unopened_lt hat (by simpa using hfresh) rfl)
          · exact Prod.Lex.left _ _ (length_unopened_lt hat (by simpa using hfresh) rfl)
      · exact Prod.Lex.right _ hlt
  | entry path =>
    change s.lookAt fs settings path = .ok next at h
    unfold lookAt at h
    split at h
    · cases h
      exact Prod.Lex.right _ hlt
    · split at h
      · cases h
        exact Prod.Lex.right _ hlt
      · cases h
        exact Prod.Lex.right _ (by simp [weights, Pending.weight])
      · split at h
        · cases hc : consider fs settings path s.found with
          | error e => rw [hc] at h; cases h
          | ok found =>
            rw [hc] at h
            cases h
            exact Prod.Lex.right _ hlt
        · cases h
          exact Prod.Lex.right _ hlt

/-- Works off the agenda of a search below a root. -/
def resume (fs : FileSystem) (settings : Settings) (root : Path) : Stage → Except Failure Stage
  | ⟨opened, found, []⟩ => .ok ⟨opened, found, []⟩
  | ⟨opened, found, item :: agenda⟩ =>
    match _hstep : step fs settings root item ⟨opened, found, agenda⟩ with
    | .ok next => resume fs settings root next
    | .error e => .error e
termination_by s => s.workLeft fs
decreasing_by exact workLeft_step _hstep

end Stage

/-- The end of the search below a root, given by an absolute path. -/
def explore (fs : FileSystem) (settings : Settings) (root : Path) : Except Failure Stage :=
  if root.isBroken then .error .brokenPath else (Stage.start root).resume fs settings root

/-- Everything below a root, given by an absolute path. -/
def search (fs : FileSystem) (settings : Settings) (root : Path) : Except Failure Search :=
  (explore fs settings root).map (·.found)

end ScriptAudit
