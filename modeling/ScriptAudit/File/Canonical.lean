import ScriptAudit.Failure.Basic
import ScriptAudit.File.System

/-!
# Canonical paths

A canonical path is absolute and has neither links nor dots in it. Steps that lead nowhere are kept
as they are.

* `FileSystem.linkAt?` : the target of a link that the system tells of.
* `FileSystem.canonical` : the canonical form of a path, or the best guess if links run in a circle.
* `FileSystem.resolve` : the canonical form, a circle of links being refused.
* `FileSystem.checkRootFor`, `FileSystem.checkRoot` : the canonical path of a directory that can be
  analysed; in the second case every directory that may be read can be opened.
-/

namespace ScriptAudit.FileSystem

/-- Work left to do on a path: a step to take, or a link to be remembered as resolved. -/
inductive Task where
  | step (name : String)
  | settle (link : Location)

/-- The steps of some tasks. -/
def Task.names (tasks : List Task) : List String :=
  tasks.filterMap fun
    | .step name => some name
    | .settle _ => none

/-- The steps of a path text as tasks. -/
def Task.ofText (text : String) : List Task :=
  (Path.components text).map .step

/-- The target of the link at a location. It stays hidden, and the link is taken for something else,
where the system does not tell of it: in a directory that may not be searched, or under a path that
is too long. -/
def linkAt? (fs : FileSystem) (here : Location) : Option String :=
  match fs.at? here, fs.locate false (.ofParts here) with
  | some (.link target), .ok _ => some target
  | _, _ => none

/-- Works off tasks from a canonical location. `fresh` holds the links not met yet and `settled`
the links that are resolved. A link that is neither is being resolved, so that links run in a
circle; then the rest of the way is judged by its text alone. -/
def canonicalFrom (fs : FileSystem) (fresh : List Location) (settled : List (Location × Location))
    (here : Location) (tasks : List Task) : Location :=
  match tasks with
  | [] => here
  | .settle link :: tasks => canonicalFrom fs fresh ((link, here) :: settled) here tasks
  | .step name :: tasks =>
    if name = ".." then canonicalFrom fs fresh settled here.dropLast tasks
    else
      let next := here ++ [name]
      match fs.linkAt? next with
      | some target =>
        if _isFresh : fresh.contains next then
          canonicalFrom fs (fresh.erase next) settled (targetStart here target)
            (Task.ofText target ++ .settle next :: tasks)
        else
          match settled.lookup next with
          | some found => canonicalFrom fs fresh settled found tasks
          | none => Path.normal ⟨true, next ++ Task.names tasks⟩
      | none => canonicalFrom fs fresh settled next tasks
termination_by (fresh.length, tasks.length)
decreasing_by
  · exact Prod.Lex.right _ (by simp)
  · exact Prod.Lex.right _ (by simp)
  · refine Prod.Lex.left _ _ ?_
    have hmem : next ∈ fresh := by simpa using _isFresh
    rw [List.length_erase_of_mem hmem]
    have := List.length_pos_of_mem hmem
    omega
  · exact Prod.Lex.right _ (by simp)
  · exact Prod.Lex.right _ (by simp)

section

variable {fs : FileSystem} {fresh : List Location} {settled : List (Location × Location)}
  {here : Location} {name : String}

theorem canonicalFrom_up (fs : FileSystem) (fresh : List Location)
    (settled : List (Location × Location)) (here : Location) (tasks : List Task) :
    fs.canonicalFrom fresh settled here (.step ".." :: tasks)
      = fs.canonicalFrom fresh settled here.dropLast tasks := by
  rw [canonicalFrom, if_pos rfl]

theorem canonicalFrom_settle (fs : FileSystem) (fresh : List Location)
    (settled : List (Location × Location)) (here link : Location) (tasks : List Task) :
    fs.canonicalFrom fresh settled here (.settle link :: tasks)
      = fs.canonicalFrom fresh ((link, here) :: settled) here tasks := by
  rw [canonicalFrom]

/-- Everything but a link is stepped into. -/
theorem canonicalFrom_entry (hup : name ≠ "..")
    (hother : fs.linkAt? (here ++ [name]) = none) (tasks : List Task) :
    fs.canonicalFrom fresh settled here (.step name :: tasks)
      = fs.canonicalFrom fresh settled (here ++ [name]) tasks := by
  rw [canonicalFrom, if_neg hup]
  simp only [hother]

/-- A link that is met for the first time is worked off like its target, and then remembered. -/
theorem canonicalFrom_fresh {target : String} (hup : name ≠ "..")
    (hlink : fs.linkAt? (here ++ [name]) = some target) (hfresh : here ++ [name] ∈ fresh)
    (tasks : List Task) :
    fs.canonicalFrom fresh settled here (.step name :: tasks)
      = fs.canonicalFrom (fresh.erase (here ++ [name])) settled (targetStart here target)
          (Task.ofText target ++ .settle (here ++ [name]) :: tasks) := by
  have hcontains : fresh.contains (here ++ [name]) = true := by simpa using hfresh
  rw [canonicalFrom, if_neg hup]
  simp only [hlink, hcontains, dite_true]

/-- A link that is met again leads where it has led before. -/
theorem canonicalFrom_settled {target : String} {found : Location} (hup : name ≠ "..")
    (hlink : fs.linkAt? (here ++ [name]) = some target) (hmet : here ++ [name] ∉ fresh)
    (hsettled : settled.lookup (here ++ [name]) = some found) (tasks : List Task) :
    fs.canonicalFrom fresh settled here (.step name :: tasks)
      = fs.canonicalFrom fresh settled found tasks := by
  rw [canonicalFrom, if_neg hup]
  simp [hlink, hmet, hsettled]

end

/-- The canonical form of an absolute path. -/
def canonical (fs : FileSystem) (path : Path) : Path :=
  .ofParts (fs.canonicalFrom fs.links [] [] (path.parts.map .step))

/-- The canonical form of an absolute path that does not end in a circle of links. -/
def resolve (fs : FileSystem) (path : Path) : Except String Path :=
  let found := fs.canonical path
  match fs.locate true found with
  | .error .tooManyLinks => .error ("Symlink loop from " ++ Text.quoteString found.text)
  | _ => .ok found

/-- A problem with a path. -/
def badPath (path : Path) (reason : String) : Failure :=
  .problem (.invalidPath (.text path.text) (.text reason))

/-- A failure to find out about a path. -/
def inaccessible (path : Path) (e : AccessError) : Failure :=
  .ofFault .inaccessible (e.report (Text.quoteString path.text))

/-- Whether the directory that a path leads to may be read and searched. -/
def mayList (fs : FileSystem) (path : Path) : Bool :=
  match fs.locate true path with
  | .ok here => fs.mayRead here && fs.maySearch here
  | .error _ => false

/-- The canonical path of a directory that can be analysed, given an absolute path. `refusal` says why
a directory cannot be opened although it may be read. -/
def checkRootFor (refusal : Path → Option String) (fs : FileSystem) (path : Path) :
    Except Failure Path :=
  if path.isBroken then .error .brokenPath
  else
    match fs.resolve path with
    | .error reason => .error (badPath path ("Cannot resolve path: " ++ reason))
    | .ok found =>
      match fs.isThere found with
      | .error e => .error (inaccessible found e)
      | .ok false => .error (badPath found "Directory does not exist")
      | .ok true =>
        if !fs.isDirectory found then .error (badPath found "Path is not a directory")
        else if !fs.mayList found then .error (badPath found "Directory is not readable")
        else
          match refusal found with
          | none => .ok found
          | some reason => .error (badPath found ("Cannot open directory: " ++ reason))

/-- The same where whatever may be read can be opened. -/
def checkRoot (fs : FileSystem) (path : Path) : Except Failure Path :=
  fs.checkRootFor (fun _ => none) path

end ScriptAudit.FileSystem
