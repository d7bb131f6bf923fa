import ScriptAudit.Proofs.SameWays
import Mathlib.Tactic.ByContra
import ScriptAudit.File.Canonical
import ScriptAudit.Project.Framework

/-!
# What does not depend on what is in the files

Files are told apart from directories, links and pipes, but their bytes are never looked at when a
path is looked up, a root checked, a framework recognised or a directory listed. So all of these say
the same of a file system and of the one that is left when all its files are emptied, and two file
systems that are left the same agree in them.

- `FileSystem.emptied`: a file system with nothing in its files.
- `FileSystem.at?_emptied`: what is at a location, from which all else follows.
- `FileSystem.locate_emptied`, `FileSystem.canonical_emptied`, `FileSystem.checkRoot_emptied`,
  `Recognizer.profile_emptied`: looking up, canonical paths, checked roots and profiles.
- `Search.leadsTo_emptied`: what a path leads to, by its kind.
-/

namespace ScriptAudit

/-! ## Entries -/

namespace Entry

mutual

/-- An entry with nothing in its files. -/
def emptied : Entry → Entry
  | file _ => file []
  | pipe => pipe
  | link target => link target
  | directory entries => directory (emptiedIn entries)

/-- The same for the entries of a directory. -/
def emptiedIn : List (String × Entry) → List (String × Entry)
  | [] => []
  | (name, e) :: entries => (name, emptied e) :: emptiedIn entries

end

@[simp] theorem emptied_file (bytes : List UInt8) : (file bytes).emptied = file [] := rfl

@[simp] theorem emptied_pipe : pipe.emptied = pipe := rfl

@[simp] theorem emptied_link (target : String) : (link target).emptied = link target := rfl

@[simp] theorem emptied_directory (entries : List (String × Entry)) :
    (directory entries).emptied = directory (emptiedIn entries) := rfl

@[simp] theorem emptiedIn_nil : emptiedIn [] = [] := rfl

@[simp] theorem emptiedIn_cons (name : String) (e : Entry) (entries : List (String × Entry)) :
    emptiedIn ((name, e) :: entries) = (name, e.emptied) :: emptiedIn entries := rfl

/-- Whether a test does not look into files. -/
def IsBlind (keep : Entry → Bool) : Prop :=
  ∀ e : Entry, keep e.emptied = keep e

theorem isBlind_isFile : IsBlind isFile := by
  intro e
  cases e <;> rfl

theorem isBlind_isLink : IsBlind isLink := by
  intro e
  cases e <;> rfl

theorem isBlind_isDirectory : IsBlind isDirectory := by
  intro e
  cases e <;> rfl

@[simp] theorem map_fst_emptiedIn (entries : List (String × Entry)) :
    (emptiedIn entries).map (·.1) = entries.map (·.1) := by
  induction entries with
  | nil => rfl
  | cons entry entries ih =>
    obtain ⟨name, e⟩ := entry
    simp [ih]

@[simp] theorem lookup?_emptiedIn (name : String) (entries : List (String × Entry)) :
    lookup? name (emptiedIn entries) = (lookup? name entries).map emptied := by
  induction entries with
  | nil => rfl
  | cons entry entries ih =>
    obtain ⟨key, e⟩ := entry
    by_cases hkey : key = name <;> simp [lookup?, hkey, ih]

/-- What is at a location below an entry is emptied like all the rest. -/
theorem at?_emptied (here : Location) (e : Entry) :
    e.emptied.at? here = (e.at? here).map emptied := by
  induction here generalizing e with
  | nil => simp [at?]
  | cons name names ih =>
    cases e with
    | directory entries =>
      simp only [emptied_directory, at?, lookup?_emptiedIn]
      cases lookup? name entries with
      | none => rfl
      | some below => exact ih below
    | _ => simp [at?]

mutual

/-- The locations that a test finds, if it does not look into files. -/
theorem locations_emptied {keep : Entry → Bool} (hkeep : IsBlind keep) (here : Location) :
    ∀ e : Entry, e.emptied.locations keep here = e.locations keep here
  | file bytes => by
    have hfile := hkeep (file bytes)
    rw [emptied_file] at hfile
    rw [emptied_file, locations, locations, hfile]
  | pipe => rfl
  | link target => rfl
  | directory entries => by
    have hdirectory := hkeep (directory entries)
    rw [emptied_directory] at hdirectory
    rw [emptied_directory, locations, locations, hdirectory, locationsIn_emptied hkeep here entries]

/-- The same for the entries of a directory. -/
theorem locationsIn_emptied {keep : Entry → Bool} (hkeep : IsBlind keep) (here : Location) :
    ∀ entries : List (String × Entry),
      locationsIn keep here (emptiedIn entries) = locationsIn keep here entries
  | [] => rfl
  | (name, e) :: entries => by
    rw [emptiedIn_cons, locationsIn, locationsIn, locations_emptied hkeep _ e,
      locationsIn_emptied hkeep here entries]

end

end Entry

/-! ## File systems -/

namespace FileSystem

variable {fs : FileSystem} {path root : Path}

/-- A file system with nothing in its files. -/
def emptied (fs : FileSystem) : FileSystem :=
  { fs with entries := Entry.emptiedIn fs.entries }

@[simp] theorem mayRead_emptied (fs : FileSystem) (here : Location) :
    fs.emptied.mayRead here = fs.mayRead here := rfl

@[simp] theorem maySearch_emptied (fs : FileSystem) (here : Location) :
    fs.emptied.maySearch here = fs.maySearch here := rfl

theorem root_emptied (fs : FileSystem) : fs.emptied.root = fs.root.emptied := rfl

theorem at?_emptied (fs : FileSystem) (here : Location) :
    fs.emptied.at? here = (fs.at? here).map Entry.emptied := by
  rw [at?, root_emptied, Entry.at?_emptied]
  rfl

theorem at?_emptied_of_directory {here : Location} {entries : List (String × Entry)}
    (h : fs.at? here = some (.directory entries)) :
    fs.emptied.at? here = some (.directory (Entry.emptiedIn entries)) := by
  rw [at?_emptied, h, Option.map_some, Entry.emptied_directory]

/-- There is a link where there was one, and nowhere else. -/
theorem at?_emptied_eq_link_iff {here : Location} {target : String} :
    fs.emptied.at? here = some (.link target) ↔ fs.at? here = some (.link target) := by
  have hlink : ∀ e : Entry, e.emptied = .link target ↔ e = .link target := by
    intro e
    cases e <;> simp
  simp [at?_emptied, Option.map_eq_some_iff, hlink]

/-- There is a directory where there was one, and nowhere else. -/
theorem at?_emptied_ne_directory {here : Location}
    (h : ∀ entries, fs.at? here ≠ some (.directory entries)) (entries : List (String × Entry)) :
    fs.emptied.at? here ≠ some (.directory entries) := by
  intro hdirectory
  rw [at?_emptied, Option.map_eq_some_iff] at hdirectory
  obtain ⟨e, hat, hemptied⟩ := hdirectory
  cases e with
  | directory entries => exact h entries hat
  | _ => simp at hemptied

theorem links_emptied (fs : FileSystem) : fs.emptied.links = fs.links := by
  rw [links, root_emptied, Entry.locations_emptied Entry.isBlind_isLink]
  rfl

/-! ## Looking up -/

theorem sameWays_emptied (fs : FileSystem) : fs.SameWays fs.emptied where
  missing here := by rw [at?_emptied, Option.map_eq_none_iff]
  directory here := by
    constructor
    · rintro ⟨others, hat⟩
      by_contra hnone
      exact at?_emptied_ne_directory (fun entries hat => hnone ⟨entries, hat⟩) others hat
    · rintro ⟨entries, hat⟩
      exact ⟨_, at?_emptied_of_directory hat⟩
  link here target := at?_emptied_eq_link_iff
  searched here := maySearch_emptied fs here

theorem locate_emptied (fs : FileSystem) (follow : Bool) (path : Path) :
    fs.emptied.locate follow path = fs.locate follow path :=
  fs.sameWays_emptied.locate_eq follow path

/-- A path leads to the same entry, emptied. -/
theorem entry_emptied (fs : FileSystem) (follow : Bool) (path : Path) :
    fs.emptied.entry follow path = (fs.entry follow path).map Entry.emptied := by
  rw [entry, entry, locate_emptied]
  cases fs.locate follow path with
  | error e => rfl
  | ok here =>
    dsimp only
    rw [at?_emptied]
    cases fs.at? here <;> rfl

theorem opened_emptied (fs : FileSystem) (path : Path) :
    fs.emptied.opened path = (fs.opened path).map Entry.emptied := by
  rw [opened, opened, locate_emptied]
  cases fs.locate true path with
  | error e => rfl
  | ok here =>
    dsimp only
    rw [mayRead_emptied, at?_emptied]
    cases fs.mayRead here with
    | false => rfl
    | true => cases fs.at? here <;> rfl

/-- An entry of a directory is listed as it was, emptied. -/
theorem listed_emptied (fs : FileSystem) (path : Path) :
    fs.emptied.listed path = (fs.listed path).map Entry.emptied := by
  rw [listed, listed, locate_emptied]
  cases fs.locate true path.above with
  | error e => rfl
  | ok here => exact at?_emptied fs _

theorem isThere_emptied (fs : FileSystem) (path : Path) :
    fs.emptied.isThere path = fs.isThere path := by
  rw [isThere, isThere, entry_emptied]
  cases fs.entry true path <;> rfl

theorem isDirectory_emptied (fs : FileSystem) (path : Path) :
    fs.emptied.isDirectory path = fs.isDirectory path := by
  rw [isDirectory, isDirectory, entry_emptied]
  cases fs.entry true path with
  | error e => rfl
  | ok e => exact Entry.isBlind_isDirectory e

theorem names_emptied (fs : FileSystem) (path : Path) :
    fs.emptied.names path = fs.names path := by
  rw [names, names, opened_emptied]
  cases fs.opened path with
  | error e => rfl
  | ok e => cases e <;> simp [Except.map]

theorem mayList_emptied (fs : FileSystem) (path : Path) :
    fs.emptied.mayList path = fs.mayList path := by
  simp only [mayList, locate_emptied, mayRead_emptied, maySearch_emptied]

/-! ## Canonical paths -/

/-- The system tells of the same links. -/
theorem linkAt?_emptied (fs : FileSystem) (here : Location) :
    fs.emptied.linkAt? here = fs.linkAt? here := by
  rw [linkAt?, linkAt?, locate_emptied, at?_emptied]
  cases fs.at? here with
  | none => rfl
  | some e => cases e <;> rfl

theorem canonicalFrom_emptied (fs : FileSystem) (fresh : List Location)
    (settled : List (Location × Location)) (here : Location) (tasks : List Task) :
    fs.emptied.canonicalFrom fresh settled here tasks
      = fs.canonicalFrom fresh settled here tasks := by
  -- The two go through the same cases, since there are links at the same places.
  induction fresh, settled, here, tasks using canonicalFrom.induct fs with
  | case1 fresh settled here => rw [canonicalFrom, canonicalFrom]
  | case2 fresh settled here link tasks ih => simpa [canonicalFrom] using ih
  | case3 fresh settled here tasks ih => simpa [canonicalFrom] using ih
  | case4 fresh settled here name tasks hup next target hlink hfresh ih =>
    have hmem : here ++ [name] ∈ fresh := by simpa using hfresh
    rw [canonicalFrom_fresh hup hlink hmem, canonicalFrom_fresh hup (by rwa [linkAt?_emptied]) hmem]
    exact ih
  | case5 fresh settled here name tasks hup next target hlink hmet found hsettled ih =>
    have hnotMem : here ++ [name] ∉ fresh := by simpa using hmet
    rw [canonicalFrom_settled hup hlink hnotMem hsettled,
      canonicalFrom_settled hup (by rwa [linkAt?_emptied]) hnotMem hsettled]
    exact ih
  | case6 fresh settled here name tasks hup next target hlink hmet hcircle =>
    have hnotMem : here ++ [name] ∉ fresh := by simpa using hmet
    simp [canonicalFrom, hup, next, linkAt?_emptied, hlink, hnotMem, hcircle]
  | case7 fresh settled here name tasks hup next hother ih =>
    rw [canonicalFrom_entry hup hother, canonicalFrom_entry hup (by rwa [linkAt?_emptied])]
    exact ih

theorem canonical_emptied (fs : FileSystem) (path : Path) :
    fs.emptied.canonical path = fs.canonical path := by
  rw [canonical, canonical, links_emptied, canonicalFrom_emptied]

theorem resolve_emptied (fs : FileSystem) (path : Path) :
    fs.emptied.resolve path = fs.resolve path := by
  simp only [resolve, canonical_emptied, locate_emptied]

theorem checkRoot_emptied (fs : FileSystem) (root : Path) :
    fs.emptied.checkRoot root = fs.checkRoot root := by
  simp only [checkRoot, checkRootFor, resolve_emptied, isThere_emptied, isDirectory_emptied,
    mayList_emptied]

end FileSystem

/-! ## Profiles -/

namespace Recognizer

theorem profileAt?_emptied (r : Recognizer) (fs : FileSystem) (directory : Path) :
    r.profileAt? fs.emptied directory = r.profileAt? fs directory := by
  simp only [profileAt?, FileSystem.names_emptied]

theorem profile_emptied (r : Recognizer) (fs : FileSystem) (root : Path) :
    r.profile fs.emptied root = r.profile fs root := by
  unfold profile
  generalize r.candidates.map (directory root) = directories
  induction directories with
  | nil => rfl
  | cons directory directories ih => simp only [profileAmong, profileAt?_emptied, ih]

end Recognizer

/-! ## What a path leads to -/

namespace Search

theorem leadsTo_emptied {kind : Entry → Bool} (hkind : Entry.IsBlind kind) (fs : FileSystem)
    (follow : Bool) (path : Path) :
    leadsTo fs.emptied follow kind path = leadsTo fs follow kind path := by
  rw [leadsTo, leadsTo, FileSystem.listed_emptied, FileSystem.entry_emptied]
  cases fs.listed path with
  | none => rfl
  | some e =>
    dsimp only [Option.map_some]
    rw [Entry.isBlind_isLink e, hkind e]
    -- A link is looked up, and leads to the same kind of entry.
    cases fs.entry true path with
    | error e => rfl
    | ok e =>
      dsimp only [Except.map]
      rw [hkind e]

theorem isLink_emptied (fs : FileSystem) (path : Path) :
    isLink fs.emptied path = isLink fs path := by
  rw [isLink, isLink, FileSystem.listed_emptied]
  cases fs.listed path with
  | none => rfl
  | some e => exact Entry.isBlind_isLink e

end Search

/-- The same directories are opened, and the same names are put on the agenda. -/
theorem Stage.enter_emptied (fs : FileSystem) (path : Path) (s : Stage) :
    s.enter fs.emptied path = s.enter fs path := by
  rw [enter, enter, FileSystem.locate_emptied]
  cases fs.locate true path with
  | error e => rfl
  | ok here =>
    dsimp only
    rw [FileSystem.at?_emptied]
    cases fs.at? here with
    | none => rfl
    | some e =>
      cases e <;> simp [Search.sortedNames]

end ScriptAudit
