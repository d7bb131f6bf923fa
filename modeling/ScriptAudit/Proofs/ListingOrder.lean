import Mathlib
import ScriptAudit.Proofs.Candidates
import ScriptAudit.Proofs.SameWays
import ScriptAudit.Proofs.SearchFailure

/-!
# The order in which directories are listed

A directory may list its names in any order. A search goes through them in ascending order, and on
the way to them nothing but names, the targets of links and the bytes of files is looked at. So the
order of the listings makes no difference, and the files found are in the order of the names that
lead to them.

- `FileSystem.Relisted`: two file systems differ in nothing but the order of their listings.
- `Search.sortedNames_eq_of_perm`: names in ascending order are the same, however they are listed.
- `explore_eq_of_relisted`: a search goes the same way.
- `search_ascending`: **the files found are in strictly ascending order of their names**, one after
  the other from the root on, and no search depends on the order of a listing.
-/

namespace ScriptAudit

open Search

variable {fs gs : FileSystem} {settings : Settings} {root path : Path} {here : Location}

/-! ## Other listings of the same -/

/-- What is at a location in two file systems that differ in nothing but the order of their
listings: nothing, the same file, pipe or link, or directories with the same names. -/
inductive Entry.Relisted : Option Entry → Option Entry → Prop
  | missing : Relisted none none
  | same {e : Entry} (h : e.isDirectory = false) : Relisted (some e) (some e)
  | directory {entries others : List (String × Entry)}
    (h : (entries.map (·.1)).Perm (others.map (·.1))) :
    Relisted (some (.directory entries)) (some (.directory others))

/-- Everything is listed as it is. -/
theorem Entry.Relisted.refl (there : Option Entry) : Entry.Relisted there there := by
  cases there with
  | none => exact .missing
  | some e =>
    cases e with
    | directory entries => exact .directory (List.Perm.refl _)
    | _ => exact .same rfl

namespace FileSystem

/-- Whether two file systems differ in nothing but the order in which directories list their
names. -/
structure Relisted (fs gs : FileSystem) : Prop where
  places : ∀ here, Entry.Relisted (fs.at? here) (gs.at? here)
  unreadable : gs.unreadable = fs.unreadable
  unsearchable : gs.unsearchable = fs.unsearchable
  room : gs.room = fs.room

theorem Relisted.sameWays (h : fs.Relisted gs) : fs.SameWays gs := by
  refine ⟨fun here => ?_, fun here => ?_, fun here target => ?_, fun here => ?_⟩
  · -- Relisting keeps what stands at a place but for the order of a directory's names.
    have hhere := h.places here
    generalize fs.at? here = there at hhere ⊢
    generalize gs.at? here = other at hhere ⊢
    cases hhere <;> simp
  · have hhere := h.places here
    unfold HasDirectory
    generalize fs.at? here = there at hhere ⊢
    generalize gs.at? here = other at hhere ⊢
    cases hhere <;> simp
  · have hhere := h.places here
    generalize fs.at? here = there at hhere ⊢
    generalize gs.at? here = other at hhere ⊢
    cases hhere <;> simp
  · rw [maySearch, maySearch, h.unsearchable]

theorem Relisted.mayRead_eq (h : fs.Relisted gs) (here : Location) :
    gs.mayRead here = fs.mayRead here := by
  rw [mayRead, mayRead, h.unreadable]

/-- A path names the same in both. -/
theorem Relisted.listed (h : fs.Relisted gs) (path : Path) :
    Entry.Relisted (fs.listed path) (gs.listed path) := by
  simp only [FileSystem.listed, h.sameWays.locate_eq]
  cases fs.locate true path.above with
  | error e => exact .missing
  | ok here => exact h.places _

/-- A path leads to the same in both. -/
theorem Relisted.entry_eq_or (h : fs.Relisted gs) (follow : Bool) (path : Path) :
    gs.entry follow path = fs.entry follow path ∨
      ∃ entries others, fs.entry follow path = .ok (.directory entries) ∧
        gs.entry follow path = .ok (.directory others) := by
  simp only [entry, h.sameWays.locate_eq]
  cases fs.locate follow path with
  | error e => exact .inl rfl
  | ok here =>
    have hhere := h.places here
    dsimp only
    generalize fs.at? here = there at hhere ⊢
    generalize gs.at? here = other at hhere ⊢
    cases hhere with
    | missing | same => exact .inl rfl
    | directory hnames => exact .inr ⟨_, _, rfl, rfl⟩

end FileSystem

/-! ## Searching -/

namespace Search

/-- Names in ascending order are the same, however they are listed. -/
theorem sortedNames_eq_of_perm {entries others : List (String × Entry)}
    (h : (entries.map (·.1)).Perm (others.map (·.1))) : sortedNames entries = sortedNames others := by
  have hperm : (sortedNames entries).Perm (sortedNames others) :=
    (List.mergeSort_perm _ _).trans (h.trans (List.mergeSort_perm _ _).symm)
  exact hperm.eq_of_pairwise (fun _ _ _ _ => String.le_antisymm) (sortedNames_ascending entries)
    (sortedNames_ascending others)

variable (h : fs.Relisted gs)

include h

theorem leadsTo_eq_of_relisted {kind : Entry → Bool}
    (hkind : ∀ entries others, kind (.directory entries) = kind (.directory others))
    (follow : Bool) (path : Path) : leadsTo gs follow kind path = leadsTo fs follow kind path := by
  have hlisted := h.listed path
  have hentry := h.entry_eq_or true path
  unfold leadsTo
  generalize fs.listed path = there at hlisted ⊢
  generalize gs.listed path = other at hlisted ⊢
  cases hlisted with
  | missing => rfl
  | directory hnames => simp [Entry.isLink, hkind _ []]
  | same =>
    rcases hentry with heq | ⟨entries, others, hentry, hentry'⟩
    · rw [heq]
    · simp [hentry, hentry', hkind others entries]

theorem isLink_eq_of_relisted (path : Path) : isLink gs path = isLink fs path := by
  have hlisted := h.listed path
  unfold isLink
  generalize fs.listed path = there at hlisted ⊢
  generalize gs.listed path = other at hlisted ⊢
  cases hlisted <;> simp [Entry.isLink]

theorem fileSize?_eq_of_relisted (path : Path) : fileSize? gs path = fileSize? fs path := by
  rw [fileSize?, fileSize?, leadsTo_eq_of_relisted h (fun _ _ => rfl)]
  rcases h.entry_eq_or true path with heq | ⟨entries, others, hentry, hentry'⟩
  · rw [heq]
  · simp [hentry, hentry', Entry.size, Except.map]

theorem consider_eq_of_relisted (settings : Settings) (path : Path) (s : Search) :
    consider gs settings path s = consider fs settings path s := by
  simp only [consider, fileSize?_eq_of_relisted h, isLink_eq_of_relisted h]

end Search

namespace Stage

variable (h : fs.Relisted gs)

include h

/-- A directory puts its names on the agenda in ascending order. -/
theorem enter_eq_of_relisted (path : Path) (s : Stage) : s.enter gs path = s.enter fs path := by
  unfold enter
  rw [h.sameWays.locate_eq]
  cases fs.locate true path with
  | error e => rfl
  | ok here =>
    have hhere := h.places here
    dsimp only
    rw [h.mayRead_eq]
    generalize fs.at? here = there at hhere ⊢
    generalize gs.at? here = other at hhere ⊢
    cases hhere with
    | missing | same => rfl
    | directory hnames => simp only [sortedNames_eq_of_perm hnames]

theorem step_eq_of_relisted (settings : Settings) (root : Path) (item : Pending) (s : Stage) :
    s.step gs settings root item = s.step fs settings root item := by
  cases item with
  | directory path =>
    simp only [step, look, fits_congr h.room, enter_eq_of_relisted h]
  | entry path =>
    have hdirectory : leadsTo gs settings.followLinks Entry.isDirectory path
        = leadsTo fs settings.followLinks Entry.isDirectory path :=
      leadsTo_eq_of_relisted h (fun _ _ => rfl) _ path
    simp only [step_entry, lookAt, consider_eq_of_relisted h, hdirectory]

end Stage

/-- A search goes the same way, whatever the order of the listings is. -/
theorem explore_eq_of_relisted (h : fs.Relisted gs) (settings : Settings) (root : Path) :
    explore gs settings root = explore fs settings root := by
  rw [explore, explore, Stage.resume_congr (Stage.step_eq_of_relisted h settings root)]

/-! ## The order of the files -/

/-- The names by which a path goes on from a root. -/
def namesBelow (root path : Path) : List String :=
  path.parts.drop root.parts.length

@[simp] theorem namesBelow_along (root : Path) (names : List String) :
    namesBelow root (root.along names) = names := by
  simp [namesBelow, Path.along]

/-- What precedes a path below the same root is less by its names below the root. -/
theorem Precedes.lt_of_append {stem first second : List String}
    (h : Precedes (stem ++ first) (stem ++ second)) : first < second := by
  by_contra hge
  exact List.append_left_le (List.not_lt.1 hge) h.lt

/-- **Files are found in the order of their names.** Every file found is reached by a list of names,
each of them listed in the directory to which those before it lead, and these lists are in strictly
ascending lexicographic order, names being compared by their code points. So no file is found twice.
Another order in which directories list their names changes nothing: neither the files found, nor
the number of candidates, nor the warnings, nor whether the search fails. -/
theorem search_ascending (hsound : fs.IsSound) :
    (∀ found, search fs settings root = .ok found →
      (∀ file ∈ found.files, file = root.along (namesBelow root file) ∧
        namesBelow root file ≠ [] ∧ Walk fs settings.excludeDirs root (namesBelow root file)) ∧
      (found.files.map (namesBelow root)).Pairwise (· < ·) ∧ found.files.Nodup) ∧
    ∀ gs, fs.Relisted gs → search gs settings root = search fs settings root := by
  constructor
  · intro found hfound
    -- The walk is ordered by whole paths; the names below the root are what differs in them.
    obtain ⟨last, hexplore, rfl⟩ := search_eq_ok_iff.1 hfound
    have hordered := explore_ordered hsound hexplore
    rw [List.pairwise_map] at hordered
    have hwalk : ∀ file ∈ last.found.files, file = root.along (namesBelow root file) ∧
        namesBelow root file ≠ [] ∧ Walk fs settings.excludeDirs root (namesBelow root file) := by
      intro file hmem
      obtain ⟨names, hne, rfl, hwalk⟩ := exists_walk_of_explore hexplore hmem
      rw [namesBelow_along]
      exact ⟨rfl, hne, hwalk⟩
    refine ⟨hwalk, ?_, hordered.imp fun hprecedes heq => hprecedes.ne (congrArg Path.parts heq)⟩
    rw [List.pairwise_map]
    refine hordered.imp_of_mem fun {file other} hfile hother hprecedes => ?_
    rw [(hwalk file hfile).1, (hwalk other hother).1] at hprecedes
    exact hprecedes.lt_of_append
  · intro gs hrelisted
    rw [search, search, explore_eq_of_relisted hrelisted]

/-! ## Two listings of a circle -/

/-- A directory with two files and a link back to the one above it, with names in some order. -/
def looped (names : List (String × Entry)) : FileSystem where
  entries := [("a", .directory names)]
  room := 8

/-- The names in ascending order. -/
def forwards : List (String × Entry) :=
  [("c.js", .file [59]), ("d.js", .file []), ("up", .link "..")]

/-- The names in descending order. -/
def backwards : List (String × Entry) :=
  [("up", .link ".."), ("d.js", .file []), ("c.js", .file [59])]

theorem lookup?_backwards (name : String) : lookup? name backwards = lookup? name forwards := by
  simp only [backwards, forwards, lookup?]
  by_cases hc : "c.js" = name
  · subst hc
    rfl
  · by_cases hup : "up" = name
    · subst hup
      rfl
    · simp [hc, hup]

theorem relisted_looped : (looped backwards).Relisted (looped forwards) := by
  refine ⟨?_, rfl, rfl, rfl⟩
  -- Only the names inside the one directory are listed otherwise.
  have hat : ∀ names here, (looped names).at? ("a" :: here) = Entry.at? here (.directory names) :=
    fun names here => rfl
  intro here
  rcases here with _ | ⟨top, here⟩
  · exact .directory (List.Perm.refl _)
  · by_cases htop : "a" = top
    · subst htop
      rw [hat, hat]
      cases here with
      | nil => exact .directory (by decide)
      | cons name here =>
        rw [Entry.at?, Entry.at?, lookup?_backwards]
        exact .refl _
    · -- Elsewhere there is nothing in either file system.
      have hnone : ∀ names, (looped names).at? (top :: here) = none := by
        intro names
        simp [looped, FileSystem.at?, FileSystem.root, Entry.at?, lookup?, htop]
      rw [hnone, hnone]
      exact .missing

theorem isSound_looped : (looped backwards).IsSound := by
  decide

/-- A search with the names in ascending order. -/
theorem search_forwards : search (looped forwards) following ⟨true, []⟩
    = .ok ⟨[⟨true, ["a", "c.js"]⟩, ⟨true, ["a", "d.js"]⟩], 2, ["Symlink loop at /a/up, skipping"]⟩ := by
  refine search_eq_ok_iff.2 ⟨⟨[[], ["a"]], _, []⟩, ?_, rfl⟩
  rw [explore, if_neg (by decide)]
  exact Stage.resume_of_advance (n := 7) (by cbv) rfl

/-- In descending order the names make up the same search. -/
theorem search_ascending_backwards :
    (looped backwards).IsSound ∧ (looped backwards).Relisted (looped forwards) ∧
      ∃ found, search (looped backwards) following ⟨true, []⟩ = .ok found ∧
        search (looped forwards) following ⟨true, []⟩ = .ok found ∧
        found.files.map (namesBelow ⟨true, []⟩) = [["a", "c.js"], ["a", "d.js"]] ∧
        (found.files.map (namesBelow ⟨true, []⟩)).Pairwise (· < ·) := by
  obtain ⟨hascending, hrelisted⟩ :=
    @search_ascending (looped backwards) following ⟨true, []⟩ isSound_looped
  have hsame := hrelisted _ relisted_looped
  rw [search_forwards] at hsame
  obtain ⟨-, hpairwise, -⟩ := hascending _ hsame.symm
  exact ⟨isSound_looped, relisted_looped, _, hsame.symm, search_forwards, rfl, hpairwise⟩

end ScriptAudit
