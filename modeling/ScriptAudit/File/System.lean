import ScriptAudit.File.Path
import ScriptAudit.Value.Basic

/-!
# File systems

A file system as a tree of named entries, and what may be done with it. Symbolic links make a graph
of the tree, which is followed when a path is looked up.

* `Entry` : the tree.
* `Location` : the names that lead from the top to an entry without any link.
* `FileSystem` : the tree, the places that may not be read or searched, and how many directories can
  be entered one inside the other.
* `FileSystem.at?` : the entry at a location.
* `FileSystem.locate` : the location that a path leads to, at most forty links being followed.
* `FileSystem.listed` : the entry that a path names, as the listing of its directory shows it.
* `FileSystem.directories`, `FileSystem.links` : all locations of directories and of links.
-/

namespace ScriptAudit

/-- What a name in a directory stands for. A pipe is neither file nor directory. -/
inductive Entry where
  | file (bytes : List UInt8)
  | pipe
  | link (target : String)
  | directory (entries : List (String × Entry))

/-- The names that lead from the top of a file system to an entry, no link on the way. -/
abbrev Location := List String

/-- Why a path could not be used. -/
inductive AccessError where
  | missing
  | notDirectory
  | tooManyLinks
  | isDirectory
  | nameTooLong
  | denied
  deriving DecidableEq, Repr

namespace AccessError

/-- The text of an access error. -/
def text : AccessError → String
  | missing => "No such file or directory"
  | notDirectory => "Not a directory"
  | tooManyLinks => "Too many levels of symbolic links"
  | isDirectory => "Is a directory"
  | nameTooLong => "File name too long"
  | denied => "Permission denied"

/-- The number of an access error. -/
def code : AccessError → Nat
  | missing => 2
  | notDirectory => 20
  | tooManyLinks => 40
  | isDirectory => 21
  | nameTooLong => 36
  | denied => 13

/-- Whether an access error leaves it open if there is anything under a path. -/
def leavesOpen : AccessError → Bool
  | nameTooLong | denied => true
  | _ => false

/-- The number and the text of an access error, and the path it is about. -/
def report (e : AccessError) (quotedPath : String) : String :=
  "[Errno " ++ natText e.code ++ "] " ++ e.text ++ ": " ++ quotedPath

end AccessError

namespace Entry

/-- The entry at a location below another entry. -/
def at? : Location → Entry → Option Entry
  | [], e => some e
  | name :: names, directory entries => (lookup? name entries).bind (at? names)
  | _ :: _, _ => none

/-- Puts an entry at a location below another one. All but the last name have to lead through
directories; else nothing is changed. -/
def insertAt (e : Entry) (here : Location) (new : Entry) : Entry :=
  match here, e with
  | [], _ => new
  | name :: names, directory entries =>
    match lookup? name entries with
    | some below => directory (insertEntry name (insertAt below names new) entries)
    | none => if names.isEmpty then directory (insertEntry name new entries) else directory entries
  | _ :: _, e => e

/-- Whether an entry is a directory. -/
def isDirectory : Entry → Bool
  | directory _ => true
  | _ => false

/-- Whether an entry is a link. -/
def isLink : Entry → Bool
  | link _ => true
  | _ => false

/-- Whether an entry is a file. -/
def isFile : Entry → Bool
  | file _ => true
  | _ => false

/-- The number of bytes in a file; anything else has none. -/
def size : Entry → Nat
  | file bytes => bytes.length
  | _ => 0

mutual

/-- The locations at and below a location whose entries pass a test. -/
def locations (keep : Entry → Bool) (here : Location) : Entry → List Location
  | file bytes => if keep (file bytes) then [here] else []
  | pipe => if keep pipe then [here] else []
  | link target => if keep (link target) then [here] else []
  | directory entries =>
    (if keep (directory entries) then [here] else []) ++ locationsIn keep here entries

/-- The same for the entries of a directory. -/
def locationsIn (keep : Entry → Bool) (here : Location) : List (String × Entry) → List Location
  | [] => []
  | (name, e) :: entries => locations keep (here ++ [name]) e ++ locationsIn keep here entries

end

/-- The locations of an entry of a directory are among those of all its entries. -/
theorem mem_locationsIn {keep : Entry → Bool} {here location : Location} {name : String} {e : Entry}
    {entries : List (String × Entry)} (hmem : (name, e) ∈ entries)
    (h : location ∈ e.locations keep (here ++ [name])) :
    location ∈ locationsIn keep here entries := by
  induction entries with
  | nil => cases hmem
  | cons entry entries ih =>
    rw [locationsIn, List.mem_append]
    rcases List.mem_cons.1 hmem with rfl | hmem
    · exact .inl h
    · exact .inr (ih hmem)

/-- Every entry that passes the test is among the locations. -/
theorem mem_locations {keep : Entry → Bool} {names : Location} {e found : Entry}
    (h : e.at? names = some found) (hkeep : keep found = true) (here : Location) :
    here ++ names ∈ e.locations keep here := by
  induction names generalizing e here with
  | nil =>
    cases h
    cases found <;> simp [locations, hkeep]
  | cons name names ih =>
    cases e with
    | directory entries =>
      obtain ⟨below, hbelow, h⟩ := Option.bind_eq_some_iff.1 h
      have hmem := ih h (here ++ [name])
      rw [List.append_assoc] at hmem
      rw [locations]
      exact List.mem_append_right _ (mem_locationsIn (mem_of_lookup? hbelow) hmem)
    | _ => cases h

end Entry

/-- A file system: the entries of its topmost directory, the places that may not be read, the
directories in which nothing may be looked up, and how many directories a search can enter one inside
the other before the stack is used up. -/
structure FileSystem where
  entries : List (String × Entry)
  unreadable : List Location := []
  unsearchable : List Location := []
  room : Nat

namespace FileSystem

/-- A file system without entries, in which a search can enter so many directories. -/
def empty (room : Nat) : FileSystem where
  entries := []
  room := room

/-- Whether the bytes of a file, or the names in a directory, may be read. -/
def mayRead (fs : FileSystem) (here : Location) : Bool :=
  !fs.unreadable.contains here

/-- Whether names may be looked up in a directory. -/
def maySearch (fs : FileSystem) (here : Location) : Bool :=
  !fs.unsearchable.contains here

/-- The topmost directory. -/
def root (fs : FileSystem) : Entry :=
  .directory fs.entries

/-- The entry at a location. -/
def at? (fs : FileSystem) (here : Location) : Option Entry :=
  fs.root.at? here

/-- Puts an entry at a location whose directory exists. -/
def insertAt (fs : FileSystem) (here : Location) (new : Entry) : FileSystem :=
  match fs.root.insertAt here new with
  | .directory entries => { fs with entries }
  | _ => fs

/-- The locations of all directories. -/
def directories (fs : FileSystem) : List Location :=
  fs.root.locations Entry.isDirectory []

/-- Every directory is at one of the locations of directories. -/
theorem mem_directories {fs : FileSystem} {here : Location} {entries : List (String × Entry)}
    (h : fs.at? here = some (.directory entries)) : here ∈ fs.directories :=
  Entry.mem_locations h rfl []

/-- The locations of all links. -/
def links (fs : FileSystem) : List Location :=
  fs.root.locations Entry.isLink []

/-- The steps that the target of a link stands for. A slash at the end demands a directory, which
a single dot does as well. -/
def targetSteps (target : String) : List String :=
  let steps := (Text.splitString '/' target).filter (· != "")
  if Text.endsWith "/" target then steps ++ ["."] else steps

/-- Where the target of a link starts: at the top, or in the directory that holds the link. -/
def targetStart (here : Location) (target : String) : Location :=
  if Text.startsWith "/" target then [] else here

/-- The most bytes that a name in a directory may have. -/
def longestName : Nat := 255

/-- The most bytes that a path may have. -/
def longestPath : Nat := 4095

/-- The entries of the directory at a location, in which names can be looked up. -/
def entriesAt (fs : FileSystem) (here : Location) : Except AccessError (List (String × Entry)) :=
  match fs.at? here with
  | some (.directory entries) => if fs.maySearch here then .ok entries else .error .denied
  | _ => .error .notDirectory

theorem entriesAt_eq_ok {fs : FileSystem} {here : Location} {entries : List (String × Entry)} :
    fs.entriesAt here = .ok entries
      ↔ fs.at? here = some (.directory entries) ∧ fs.maySearch here = true := by
  rw [entriesAt]
  split
  · rename_i others hat
    rw [hat]
    cases fs.maySearch here <;> simp
  · rename_i hother
    constructor
    · intro h
      cases h
    · rintro ⟨hat, -⟩
      exact absurd hat (hother entries)

/-- Follows steps from a location. The first argument says whether a link at the very end is
followed, and the second how many more links may be. -/
def locateFrom (fs : FileSystem) (follow : Bool) (budget : Nat) (here : Location)
    (steps : List String) : Except AccessError Location :=
  match steps with
  | [] => .ok here
  | step :: rest =>
    match fs.entriesAt here with
    | .ok entries =>
      if step = "." then locateFrom fs follow budget here rest
      else if step = ".." then locateFrom fs follow budget here.dropLast rest
      else if longestName < step.utf8ByteSize then .error .nameTooLong
      else
        match lookup? step entries with
        | none => .error .missing
        | some (.link target) =>
          if rest.isEmpty && !follow then .ok (here ++ [step])
          else
            match budget with
            | 0 => .error .tooManyLinks
            | budget + 1 =>
              locateFrom fs follow budget (targetStart here target) (targetSteps target ++ rest)
        | some _ => locateFrom fs follow budget (here ++ [step]) rest
    | .error e => .error e
termination_by (budget, steps.length)

/-- The number of links that one look-up follows. -/
def linkLimit : Nat := 40

/-- Whether names lead from an entry to another one, through directories only, and none of the names
needs a closer look. -/
def leadsDown : List String → Entry → Bool
  | [], _ => true
  | name :: names, .directory entries =>
    name != "." && name != ".." && name.utf8ByteSize ≤ longestName &&
      match lookup? name entries with
      | none | some (.link _) => false
      | some e => leadsDown names e
  | _ :: _, _ => false

/-- The location that an absolute path leads to. Where everything may be searched, and no link is on
the way, that is the path itself. -/
def locate (fs : FileSystem) (follow : Bool) (path : Path) : Except AccessError Location :=
  if longestPath < path.text.utf8ByteSize then .error .nameTooLong
  else if fs.unsearchable.isEmpty && leadsDown path.parts fs.root then .ok path.parts
  else fs.locateFrom follow linkLimit [] path.parts

/-- The entry that an absolute path leads to. -/
def entry (fs : FileSystem) (follow : Bool) (path : Path) : Except AccessError Entry :=
  match fs.locate follow path with
  | .error e => .error e
  | .ok here =>
    match fs.at? here with
    | some e => .ok e
    | none => .error .missing

/-- The entry that an absolute path leads to, opened so as to be read. -/
def opened (fs : FileSystem) (path : Path) : Except AccessError Entry :=
  match fs.locate true path with
  | .error e => .error e
  | .ok here =>
    if !fs.mayRead here then .error .denied
    else
      match fs.at? here with
      | some e => .ok e
      | none => .error .missing

/-- The entry that an absolute path names, as the listing of its directory shows it: the path itself
is not looked up. -/
def listed (fs : FileSystem) (path : Path) : Option Entry :=
  match fs.locate true path.above with
  | .ok here => fs.at? (here ++ [path.name])
  | .error _ => none

/-- Whether a path leads to something. A name that is too long leaves the question open, and so does a
directory on the way that may not be searched. -/
def isThere (fs : FileSystem) (path : Path) : Except AccessError Bool :=
  match fs.entry true path with
  | .ok _ => .ok true
  | .error e => if e.leavesOpen then .error e else .ok false

/-- Whether a path leads to a directory. -/
def isDirectory (fs : FileSystem) (path : Path) : Bool :=
  match fs.entry true path with
  | .ok e => e.isDirectory
  | .error _ => false

/-- The bytes of the file that a path leads to. A pipe has none. -/
def read (fs : FileSystem) (path : Path) : Except AccessError (List UInt8) :=
  match fs.opened path with
  | .ok (.file bytes) => .ok bytes
  | .ok (.directory _) => .error .isDirectory
  | .ok _ => .ok []
  | .error e => .error e

/-- The names in the directory that a path leads to. -/
def names (fs : FileSystem) (path : Path) : Except AccessError (List String) :=
  match fs.opened path with
  | .ok (.directory entries) => .ok (entries.map (·.1))
  | .ok _ => .error .notDirectory
  | .error e => .error e

end FileSystem

end ScriptAudit
