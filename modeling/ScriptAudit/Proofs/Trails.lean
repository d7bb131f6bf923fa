import ScriptAudit.Proofs.SearchRun

/-!
# Trails

Links make a graph of directories, and the search goes through it on trails that never come to a
directory for the second time.

- `Trail`: a path to a directory, with all directories on the way.
- `Spot`: a path to an entry of a directory to which there is a trail.
- `Stage.Sound`: the directories opened are pairwise different, and everything on the agenda and
  everything found is a spot below them. `Stage.Sound.step` says that every step keeps it so.
- `explore_sound`: **every file found is reached through directories that are pairwise different**
  and of which none is excluded.
-/

namespace ScriptAudit

open Search

/-- A path to a directory that goes from the root through pairwise different directories, none of
them excluded. The directories on the way are listed, the last one first. -/
inductive Trail (fs : FileSystem) (settings : Settings) (root : Path) :
    Path → List Location → Prop
  | root {here : Location} (hlocate : fs.locate true root = .ok here)
    (hdirectory : fs.HasDirectory here) :
    Trail fs settings root root [here]
  | enter {path : Path} {name : String} {here there : Location} {through : List Location}
    (htrail : Trail fs settings root path (here :: through)) (hlists : fs.Lists here name)
    (hname : name ∉ settings.excludeDirs)
    (hleads : leadsTo fs settings.followLinks Entry.isDirectory (below path name) = .ok true)
    (hlocate : fs.locate true (below path name) = .ok there)
    (hdirectory : fs.HasDirectory there) (hfresh : there ∉ here :: through) :
    Trail fs settings root (below path name) (there :: here :: through)

/-- Whether a path is that of an entry of a directory to which there is a trail through some
directories. -/
def Spot (fs : FileSystem) (settings : Settings) (root : Path) (opened : List Location)
    (path : Path) : Prop :=
  ∃ parent name here through, path = below parent name ∧
    Trail fs settings root parent (here :: through) ∧ fs.Lists here name ∧
      here :: through ⊆ opened

variable {fs : FileSystem} {settings : Settings} {root path : Path} {here : Location}
  {through opened more : List Location}

theorem Trail.locate_eq (h : Trail fs settings root path (here :: through)) :
    fs.locate true path = .ok here := by
  cases h with
  | root hlocate hdirectory => exact hlocate
  | enter htrail hlists hname hleads hlocate hdirectory hfresh => exact hlocate

theorem Trail.nodup (h : Trail fs settings root path through) : through.Nodup := by
  induction h with
  | root hlocate hdirectory => simp
  | enter htrail hlists hname hleads hlocate hdirectory hfresh ih =>
    exact List.nodup_cons.2 ⟨hfresh, ih⟩

theorem Spot.mono (h : Spot fs settings root opened path) (hsub : opened ⊆ more) :
    Spot fs settings root more path := by
  obtain ⟨parent, name, here, through, hpath, htrail, hlists, hthrough⟩ := h
  exact ⟨parent, name, here, through, hpath, htrail, hlists, fun _ hmem => hsub (hthrough hmem)⟩

namespace Stage

/-- The directories opened are pairwise different. Whatever is on the agenda or among the files
found is a spot below them, apart from the root. -/
structure Sound (fs : FileSystem) (settings : Settings) (root : Path) (s : Stage) : Prop where
  nodup : s.opened.Nodup
  entries : ∀ path, .entry path ∈ s.agenda → Spot fs settings root s.opened path
  directories : ∀ path, .directory path ∈ s.agenda → path = root ∨
    Spot fs settings root s.opened path ∧ path.name ∉ settings.excludeDirs ∧
      leadsTo fs settings.followLinks Entry.isDirectory path = .ok true
  files : ∀ path ∈ s.found.files,
    Spot fs settings root s.opened path ∧ path.name ∉ settings.excludeDirs

variable {s next : Stage} {item : Pending}

theorem Sound.start (fs : FileSystem) (settings : Settings) (root : Path) :
    Sound fs settings root (.start root) where
  nodup := List.nodup_nil
  entries := by simp [Stage.start]
  directories := by simp [Stage.start]
  files := by simp [Stage.start, Search.nothing]

/-- Nothing is lost by opening nothing and finding nothing. -/
theorem Sound.of_subset (h : Sound fs settings root s) (hopened : next.opened = s.opened)
    (hagenda : next.agenda ⊆ s.agenda) (hfiles : next.found.files ⊆ s.found.files) :
    Sound fs settings root next where
  nodup := hopened ▸ h.nodup
  entries path hmem := hopened ▸ h.entries path (hagenda hmem)
  directories path hmem := hopened ▸ h.directories path (hagenda hmem)
  files path hmem := hopened ▸ h.files path (hfiles hmem)

/-- A directory on the agenda that was not opened yet is at the end of a trail through directories
that were. -/
theorem Sound.exists_trail
    (h : Sound fs settings root { s with agenda := .directory path :: s.agenda })
    (hlocate : fs.locate true path = .ok here) (hdirectory : fs.HasDirectory here)
    (hfresh : here ∉ s.opened) :
    ∃ through, Trail fs settings root path (here :: through) ∧ through ⊆ s.opened := by
  rcases h.directories path (List.mem_cons_self) with rfl | ⟨hspot, hname, hleads⟩
  · exact ⟨[], .root hlocate hdirectory, List.nil_subset _⟩
  · obtain ⟨parent, name, parentAt, through, rfl, htrail, hlists, hthrough⟩ := hspot
    rw [name_below] at hname
    refine ⟨parentAt :: through, ?_, hthrough⟩
    exact .enter htrail hlists hname hleads hlocate hdirectory fun hmem => hfresh (hthrough hmem)

/-- Opening a directory puts spots on the agenda, since there is a trail to the directory. -/
theorem Sound.open {entries : List (String × Entry)}
    (h : Sound fs settings root { s with agenda := .directory path :: s.agenda })
    (hlocate : fs.locate true path = .ok here) (hat : fs.at? here = some (.directory entries))
    (hfresh : here ∉ s.opened) :
    Sound fs settings root { s with
      opened := s.opened ++ [here]
      agenda := (sortedNames entries).map (fun name => .entry (below path name)) ++ s.agenda } := by
  obtain ⟨through, htrail, hthrough⟩ := h.exists_trail hlocate ⟨entries, hat⟩ hfresh
  have hsub : s.opened ⊆ s.opened ++ [here] := List.subset_append_left _ _
  refine ⟨?_, ?_, ?_, ?_⟩
  · exact List.nodup_append.2 ⟨h.nodup, by simp, by
      rintro there hthere _ hhere rfl
      exact hfresh (List.mem_singleton.1 hhere ▸ hthere)⟩
  · -- A new entry is listed in the directory just opened, and its trail goes through that.
    intro entryPath hmem
    rcases List.mem_append.1 hmem with hnew | hold
    · obtain ⟨name, hname, heq⟩ := List.mem_map.1 hnew
      cases heq
      refine ⟨path, name, here, through, rfl, htrail, ⟨entries, hat, mem_sortedNames.1 hname⟩, ?_⟩
      intro there hthere
      rcases List.mem_cons.1 hthere with rfl | hthere
      · exact List.mem_append_right _ (List.mem_singleton_self _)
      · exact hsub (hthrough hthere)
    · exact (h.entries entryPath (List.mem_cons_of_mem _ hold)).mono hsub
  · -- The new ones are all entries, so the directories on the agenda are the old ones.
    intro directory hmem
    rcases List.mem_append.1 hmem with hnew | hold
    · obtain ⟨name, -, heq⟩ := List.mem_map.1 hnew
      cases heq
    · rcases h.directories directory (List.mem_cons_of_mem _ hold) with hroot | ⟨hspot, hrest⟩
      · exact .inl hroot
      · exact .inr ⟨hspot.mono hsub, hrest⟩
  · intro file hmem
    exact ⟨(h.files file hmem).1.mono hsub, (h.files file hmem).2⟩

/-- Coming to a directory that may not be read puts nothing on the agenda. -/
theorem Sound.shut (h : Sound fs settings root { s with agenda := item :: s.agenda })
    (hfresh : here ∉ s.opened) {found : Search} (hfiles : found.files = s.found.files) :
    Sound fs settings root { s with opened := s.opened ++ [here], found } := by
  have hsub : s.opened ⊆ s.opened ++ [here] := List.subset_append_left _ _
  refine ⟨?_, ?_, ?_, ?_⟩
  · -- The agenda is the rest of what it was, and the new place is only added to the opened ones.
    exact List.nodup_append.2 ⟨h.nodup, by simp, by
      rintro there hthere _ hhere rfl
      exact hfresh (List.mem_singleton.1 hhere ▸ hthere)⟩
  · exact fun path hmem => (h.entries path (List.mem_cons_of_mem _ hmem)).mono hsub
  · intro path hmem
    rcases h.directories path (List.mem_cons_of_mem _ hmem) with hroot | ⟨hspot, hrest⟩
    · exact .inl hroot
    · exact .inr ⟨hspot.mono hsub, hrest⟩
  · intro file hmem
    rw [hfiles] at hmem
    exact ⟨(h.files file hmem).1.mono hsub, (h.files file hmem).2⟩

/-- A directory found below a spot is put on the agenda. -/
theorem Sound.descend
    (h : Sound fs settings root { s with agenda := .entry path :: s.agenda })
    (hname : path.name ∉ settings.excludeDirs)
    (hleads : leadsTo fs settings.followLinks Entry.isDirectory path = .ok true) :
    Sound fs settings root { s with agenda := .directory path :: s.agenda } := by
  refine ⟨h.nodup, ?_, ?_, h.files⟩
  · intro entryPath hmem
    rcases List.mem_cons.1 hmem with heq | hmem
    · cases heq
    · exact h.entries entryPath (List.mem_cons_of_mem _ hmem)
  · intro directory hmem
    rcases List.mem_cons.1 hmem with heq | hmem
    · cases heq
      exact .inr ⟨h.entries path List.mem_cons_self, hname, hleads⟩
    · exact h.directories directory (List.mem_cons_of_mem _ hmem)

/-- A file that is taken in is a spot. -/
theorem Sound.judge {found : Search}
    (h : Sound fs settings root { s with agenda := .entry path :: s.agenda })
    (hname : path.name ∉ settings.excludeDirs)
    (hjudges : Judges fs settings path s.found found) :
    Sound fs settings root { s with found } := by
  refine ⟨h.nodup, fun entryPath hmem => h.entries entryPath (List.mem_cons_of_mem _ hmem),
    fun directory hmem => h.directories directory (List.mem_cons_of_mem _ hmem), ?_⟩
  cases hjudges with
  | taken hsize hlimit hsmall hroom =>
    intro file hmem
    rcases List.mem_append.1 hmem with hold | hnew
    · exact h.files file hold
    · rw [List.mem_singleton.1 hnew]
      exact ⟨h.entries path List.mem_cons_self, hname⟩
  | _ => exact h.files

/-- Every step keeps a stage sound. -/
theorem Sound.step (h : Sound fs settings root { s with agenda := item :: s.agenda })
    (hmoves : Moves fs settings item s next) : Sound fs settings root next := by
  cases hmoves with
  | opens hlocate hat hfresh hread => exact h.open hlocate hat hfresh
  | shut hlocate hdirectory hfresh hread => exact h.shut hfresh rfl
  | descends hname hleads => exact h.descend hname hleads
  | judges hname hleads hsource hjudges => exact h.judge hname hjudges
  | _ => exact h.of_subset rfl (List.subset_cons_self _ _) (List.Subset.refl _)

end Stage

/-- **Every file found is reached through directories that are pairwise different** and of which
none is excluded. -/
theorem explore_sound {last : Stage} (h : explore fs settings root = .ok last) :
    last.Sound fs settings root :=
  (explore_preserves (fun _ _ _ hs _ hmoves => hs.step hmoves) (.start fs settings root) h).1

end ScriptAudit
