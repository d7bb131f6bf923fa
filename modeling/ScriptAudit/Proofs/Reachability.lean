import ScriptAudit.Proofs.SearchDepth

/-!
# Which directories are opened

With links followed, a directory can be reached on many trails, and the search goes on one of them.
Whatever way it goes, it comes to everything that can be reached at all, unless the system refuses
to look up a path, or there is no room to enter one more directory inside the others.

- `Reachable`: directories that can be reached from the root.
- `Stage.Heads`: an entry that leads to a directory, as far as the system looks it up.
- `Stage.Fate`: what became of such an entry. While it is on the agenda, its fate is open;
  `Stage.Fate.step` says that it is settled when it leaves the agenda.
- `Stage.Complete`: no name in any directory opened is forgotten.
- `explore_reachable`: **a search that returns has opened no directory twice and none out of reach, and
  misses one only behind a path that overstrains the system.** It returns if there is room.
-/

namespace ScriptAudit

open Search

/-- The directories that can be reached from the root through names that are not excluded. -/
inductive Reachable (fs : FileSystem) (excluded : List String) (root : Path) : Location → Prop
  | root {here : Location} (hlocate : fs.locate true root = .ok here)
    (hdirectory : fs.HasDirectory here) :
    Reachable fs excluded root here
  | enter {here there : Location} {name : String} (h : Reachable fs excluded root here)
    (hname : name ∉ excluded) (henters : fs.Enters here name there) :
    Reachable fs excluded root there

variable {fs : FileSystem} {settings : Settings} {root path : Path} {here there : Location}
  {through : List Location}

/-- What lies at the end of a trail can be reached. -/
theorem Trail.reachable (h : Trail fs settings root path (here :: through)) :
    Reachable fs settings.excludeDirs root here := by
  -- The last directory is the one that is reached, so it has to vary with the trail.
  generalize hall : here :: through = all at h
  induction h generalizing here through with
  | root hlocate hdirectory =>
    cases hall
    exact .root hlocate hdirectory
  | enter htrail hlists hname hleads hlocate hdirectory hfresh ih =>
    cases hall
    have henters := FileSystem.locateFrom_of_locate_below htrail.locate_eq hlocate
    exact .enter (ih rfl) hname ⟨hlists, henters, hdirectory⟩

namespace Stage

variable {s next : Stage} {item : Pending}

/-! ## Fates -/

theorem Moves.opened_subset (h : Moves fs settings item s next) : s.opened ⊆ next.opened := by
  cases h with
  | opens | shut => exact List.subset_append_left _ _
  | _ => exact List.Subset.refl _

theorem Moves.warnings_subset (h : Moves fs settings item s next) :
    s.found.warnings ⊆ next.found.warnings := by
  cases h with
  | judges hname hleads hsource hjudges => exact hjudges.warnings_subset
  | unlocated | unsuitable | again | shut | unclear => exact List.subset_append_left _ _
  | _ => exact List.Subset.refl _

theorem Moves.agenda_subset (h : Moves fs settings item s next) : s.agenda ⊆ next.agenda := by
  cases h with
  | opens => exact List.subset_append_right _ _
  | descends => exact List.subset_cons_self _ _
  | _ => exact List.Subset.refl _

/-- An entry leads to a directory, and is looked up unless its path overstrains the system. -/
structure Heads (fs : FileSystem) (path : Path) (there : Location) : Prop where
  directory : fs.HasDirectory there
  looksUp : fs.locate true path = .ok there ∨ ∃ e, fs.Overstrains path e
  listed : isLink fs path = true ∨ ∃ entries, fs.listed path = some (.directory entries)

/-- A name in a directory that leads to a directory does so under every path of the first. -/
theorem Heads.of_enters {name : String} (hsound : fs.IsSound)
    (hlocate : fs.locate true path = .ok here) (henters : fs.Enters here name there) :
    Heads fs (below path name) there := by
  obtain ⟨⟨entries, hat, hmem⟩, hleads, hthere⟩ := henters
  refine ⟨hthere, ?_, ?_⟩
  · rcases FileSystem.locate_below hlocate name with hsame | hrefused
    · exact .inl (hsame.trans hleads)
    · exact .inr hrefused
  · obtain ⟨e, he⟩ := exists_lookup? hmem
    have hlisted : fs.listed (below path name) = some e := by
      rw [listed_below hlocate, FileSystem.at?_name hat, he]
    by_cases hlink : e.isLink = true
    · -- A link is looked up when it is asked about; anything else was told when it was listed.
      exact .inl (by simp [isLink, hlisted, hlink])
    · -- What is no link stands where it is listed, and there is the directory.
      have hplace := FileSystem.eq_of_locateFrom_name hat ((hsound here entries hat).2 name hmem).1 he
        (by simpa using hlink) hleads
      obtain ⟨below, hbelow⟩ := hthere
      rw [hplace, FileSystem.at?_name hat, he] at hbelow
      exact .inr ⟨below, hlisted.trans hbelow⟩

/-- Either the search goes into what leads to a directory, or that is a link and cannot be looked
up. -/
theorem Heads.leadsTo_cases (h : Heads fs path there) :
    (leadsTo fs true Entry.isDirectory path = .ok true ∧
        (fs.locate true path = .ok there ∨ isLink fs path = false)) ∨
      ∃ e, fs.Overstrains path e ∧ isLink fs path = true ∧
        leadsTo fs true Entry.isDirectory path = .error e := by
  rcases h.listed with hlink | ⟨entries, hlisted⟩
  · -- Only a link is looked up, and that may be refused.
    obtain ⟨target, hlisted⟩ : ∃ target, fs.listed path = some (.link target) := by
      unfold isLink at hlink
      cases hentry : fs.listed path with
      | none => simp [hentry] at hlink
      | some e => cases e <;> simp_all [Entry.isLink]
    rw [leadsTo_of_link hlisted]
    rcases h.looksUp with hlocate | ⟨e, hrefused⟩
    · obtain ⟨entries, hat⟩ := h.directory
      exact .inl ⟨by simp [FileSystem.entry, hlocate, hat, Entry.isDirectory], .inl hlocate⟩
    · refine .inr ⟨e, hrefused, hlink, ?_⟩
      obtain ⟨herror, rfl | rfl⟩ := hrefused <;> simp [FileSystem.entry, herror]
  · refine .inl ⟨leadsTo_of_listed hlisted (.inr rfl) _, .inr ?_⟩
    simp [isLink, hlisted, Entry.isLink]

/-- What a search says of an entry that leads to a directory and cannot be looked up: a link is not
known to lead to a directory, and everything else is. -/
def refusal (fs : FileSystem) (path : Path) (e : AccessError) : String :=
  (if isLink fs path then "Skipping " else "Skipping directory ") ++ path.text ++ ": " ++ e.text

/-- What became of a path that leads to a directory: the directory was opened, or the path
overstrains the system and a warning says so, or the path is still on the agenda. -/
inductive Fate (fs : FileSystem) (s : Stage) (path : Path) (there : Location) : Prop
  | opened (hopened : there ∈ s.opened)
  | refused {e : AccessError} (hrefused : fs.Overstrains path e)
    (hwarning : refusal fs path e ∈ s.found.warnings)
  | entry (hentry : .entry path ∈ s.agenda)
  | directory (hdirectory : .directory path ∈ s.agenda)
    (hlast : fs.locate true path = .ok there ∨ isLink fs path = false)

/-- A directory that leaves the agenda has been opened, if it can be looked up. -/
theorem directory_step (hmoves : Moves fs settings item s next)
    (hlocate : fs.locate true path = .ok there) (hthere : fs.HasDirectory there)
    (h : .directory path ∈ item :: s.agenda) :
    there ∈ next.opened ∨ .directory path ∈ next.agenda := by
  rcases List.mem_cons.1 h with rfl | hmem
  · -- The other ways to leave the agenda contradict what the path leads to.
    cases hmoves with
    | unlocated herror =>
      rw [hlocate] at herror
      cases herror
    | unsuitable hlocate' hdirectory =>
      rw [hlocate] at hlocate'
      cases hlocate'
      exact absurd hthere hdirectory
    | again hlocate' hdirectory hopened =>
      rw [hlocate] at hlocate'
      cases hlocate'
      exact .inl hopened
    | opens hlocate' | shut hlocate' =>
      rw [hlocate] at hlocate'
      cases hlocate'
      exact .inl (List.mem_append_right _ (List.mem_singleton_self _))
  · exact .inr (hmoves.agenda_subset hmem)

/-- A real directory that cannot be looked up leaves the agenda with a warning. -/
theorem unlocated_step {e : AccessError} (hmoves : Moves fs settings item s next)
    (hrefused : fs.Overstrains path e) (hlink : isLink fs path = false)
    (h : .directory path ∈ item :: s.agenda) :
    refusal fs path e ∈ next.found.warnings ∨ .directory path ∈ next.agenda := by
  rcases List.mem_cons.1 h with rfl | hmem
  · have herror := hrefused.1
    cases hmoves with
    | unlocated hlocate =>
      rw [herror] at hlocate
      cases hlocate
      refine .inl (List.mem_append_right _ ?_)
      simp [refusal, hlink]
    | unsuitable hlocate | again hlocate | shut hlocate | opens hlocate =>
      rw [herror] at hlocate
      cases hlocate
  · exact .inr (hmoves.agenda_subset hmem)

/-- An entry that leads to a directory leaves the agenda for the directory, unless it is a link that
the system refuses to look up. -/
theorem entry_step (hfollow : settings.followLinks = true)
    (hmoves : Moves fs settings (.entry path) s next) (hname : path.name ∉ settings.excludeDirs)
    (hheads : Heads fs path there) : next.Fate fs path there := by
  rcases hheads.leadsTo_cases with ⟨htrue, hlast⟩ | ⟨e, hrefused, hlink, herror⟩
  · -- The entry leads to a directory, so it is not judged as a file.
    cases hmoves with
    | excluded hname' => exact absurd hname' hname
    | descends hname' hleads' => exact .directory List.mem_cons_self hlast
    | unclear hname' hleads' | ignores hname' hleads' | judges hname' hleads' =>
      rw [hfollow, htrue] at hleads'
      cases hleads'
  · cases hmoves with
    | excluded hname' => exact absurd hname' hname
    | unclear hname' hleads' =>
      rw [hfollow, herror] at hleads'
      cases hleads'
      refine .refused hrefused (List.mem_append_right _ ?_)
      simp [refusal, hlink]
    | descends hname' hleads' | ignores hname' hleads' | judges hname' hleads' =>
      rw [hfollow, herror] at hleads'
      cases hleads'

/-- No fate is lost in a step. -/
theorem Fate.step (hfollow : settings.followLinks = true)
    (h : Fate fs { s with agenda := item :: s.agenda } path there)
    (hmoves : Moves fs settings item s next) (hname : path.name ∉ settings.excludeDirs)
    (hheads : Heads fs path there) : next.Fate fs path there := by
  cases h with
  | opened hopened => exact .opened (hmoves.opened_subset hopened)
  | refused hrefused hwarning => exact .refused hrefused (hmoves.warnings_subset hwarning)
  | entry hentry =>
    rcases List.mem_cons.1 hentry with rfl | hmem
    · exact entry_step hfollow hmoves hname hheads
    · exact .entry (hmoves.agenda_subset hmem)
  | directory hdirectory hlast =>
    -- The fate of an entry changes only when it leaves the agenda.
    rcases hheads.looksUp with hlocate | ⟨e, hrefused⟩
    · rcases directory_step hmoves hlocate hheads.directory hdirectory with hopened | hagenda
      · exact .opened hopened
      · exact .directory hagenda hlast
    · have hlink : isLink fs path = false := by
        refine hlast.resolve_left fun hlocate => ?_
        rw [hrefused.1] at hlocate
        cases hlocate
      rcases unlocated_step hmoves hrefused hlink hdirectory with hwarning | hagenda
      · exact .refused hrefused hwarning
      · exact .directory hagenda (.inr hlink)

/-! ## Completeness -/

/-- No directory is forgotten: neither the root, nor one that can be entered from a directory
opened, whose trail says under which path it was opened. -/
structure Complete (fs : FileSystem) (settings : Settings) (root : Path) (s : Stage) : Prop where
  sound : s.Sound fs settings root
  start : ∀ here, fs.locate true root = .ok here → fs.HasDirectory here →
    here ∈ s.opened ∨ .directory root ∈ s.agenda
  fates : ∀ here ∈ s.opened, ∃ path through, Trail fs settings root path (here :: through) ∧
    ∀ name there, name ∉ settings.excludeDirs → fs.Enters here name there →
      s.Fate fs (below path name) there

/-- A directory that is opened has all its names on the agenda. -/
theorem fate_of_open {entries : List (String × Entry)} {opened : List Location} {found : Search}
    {agenda : List Pending} {name : String} (hat : fs.at? here = some (.directory entries))
    (henters : fs.Enters here name there) :
    Fate fs ⟨opened, found,
      (sortedNames entries).map (fun name => .entry (below path name)) ++ agenda⟩
        (below path name) there := by
  obtain ⟨⟨entries', hat', hmem⟩, -, -⟩ := henters
  rw [hat] at hat'
  cases hat'
  exact .entry (List.mem_append_left _ (List.mem_map_of_mem (mem_sortedNames.2 hmem)))

theorem Complete.step (hsound : fs.IsSound) (hgrants : fs.GrantsAll)
    (hfollow : settings.followLinks = true)
    (h : Complete fs settings root { s with agenda := item :: s.agenda })
    (hmoves : Moves fs settings item s next) : Complete fs settings root next := by
  refine ⟨h.sound.step hmoves, ?_, ?_⟩
  · intro here hlocate hdirectory
    rcases h.start here hlocate hdirectory with hopened | hagenda
    · exact .inl (hmoves.opened_subset hopened)
    · exact directory_step hmoves hlocate hdirectory hagenda
  · -- The directories opened before keep their trails, and no fate is lost.
    have hold : ∀ here ∈ s.opened, ∃ path through,
        Trail fs settings root path (here :: through) ∧
          ∀ name there, name ∉ settings.excludeDirs → fs.Enters here name there →
            next.Fate fs (below path name) there := by
      intro here hopened
      obtain ⟨path, through, htrail, hfates⟩ := h.fates here hopened
      refine ⟨path, through, htrail, fun name there hname henters => ?_⟩
      exact (hfates name there hname henters).step hfollow hmoves (by rwa [name_below])
        (.of_enters hsound htrail.locate_eq henters)
    cases hmoves with
    | opens hlocate hat hfresh hread =>
      intro there hopened
      rcases List.mem_append.1 hopened with hopened | hnew
      · exact hold there hopened
      · rw [List.mem_singleton.1 hnew]
        obtain ⟨through, htrail, -⟩ := h.sound.exists_trail hlocate ⟨_, hat⟩ hfresh
        exact ⟨_, through, htrail, fun name there _ henters => fate_of_open hat henters⟩
    | shut hlocate hdirectory hfresh hread =>
      rw [hgrants.mayRead] at hread
      cases hread
    | _ => exact hold

end Stage

/-! ## Whole searches -/

/-- When the search has returned, nothing has been forgotten, and nothing is left on the agenda. -/
theorem explore_complete (hsound : fs.IsSound) (hgrants : fs.GrantsAll)
    (hfollow : settings.followLinks = true) {last : Stage}
    (h : explore fs settings root = .ok last) :
    last.Complete fs settings root ∧ last.agenda = [] := by
  refine explore_preserves (fun _ _ _ hs _ hmoves => hs.step hsound hgrants hfollow hmoves) ?_ h
  exact ⟨.start fs settings root, fun _ _ _ => .inr List.mem_cons_self, by simp [Stage.start]⟩

/-- What can be entered from a directory that a search has opened was opened as well, or a warning
says that the system refuses to look it up. -/
theorem exists_fates (hsound : fs.IsSound) (hgrants : fs.GrantsAll)
    (hfollow : settings.followLinks = true) {last : Stage}
    (h : explore fs settings root = .ok last) (hopened : here ∈ last.opened) :
    ∃ path through, Trail fs settings root path (here :: through) ∧
      ∀ name there, name ∉ settings.excludeDirs → fs.Enters here name there →
        there ∈ last.opened ∨ ∃ e, fs.Overstrains (below path name) e ∧
          Stage.refusal fs (below path name) e ∈ last.found.warnings := by
  obtain ⟨hcomplete, hagenda⟩ := explore_complete hsound hgrants hfollow h
  obtain ⟨path, through, htrail, hfates⟩ := hcomplete.fates here hopened
  refine ⟨path, through, htrail, fun name there hname henters => ?_⟩
  cases hfates name there hname henters with
  | opened hopened => exact .inl hopened
  | refused hrefused hwarning => exact .inr ⟨_, hrefused, hwarning⟩
  | entry hmem | directory hmem =>
    rw [hagenda] at hmem
    cases hmem

/-- **A search that returns has opened what can be reached**, links being followed. It has opened no
directory twice, and none that cannot be reached. From each directory it has gone on to all
directories that can be entered from there, unless a path on one of its trails overstrains the
system, which a warning says. So if no path overstrains the system that a trail and one more name
make up, the directories opened are those that can be reached. The search fails only for want of
room, if it comes to a directory that lies too deep, and it returns if there is room for all
directories one inside the other. -/
theorem explore_reachable (hsound : fs.IsSound) (hgrants : fs.GrantsAll)
    (hfollow : settings.followLinks = true) {limit : Int}
    (hlimit : settings.sizeLimit = .ok limit) (hroot : root.isBroken = false) :
    (∀ last, explore fs settings root = .ok last → last.opened.Nodup ∧
      (∀ here ∈ last.opened, Reachable fs settings.excludeDirs root here) ∧
      (∀ here, fs.locate true root = .ok here → fs.HasDirectory here → here ∈ last.opened) ∧
      (∀ here ∈ last.opened, ∃ path through, Trail fs settings root path (here :: through) ∧
        ∀ name there, name ∉ settings.excludeDirs → fs.Enters here name there →
          there ∈ last.opened ∨ ∃ e, fs.Overstrains (below path name) e ∧
            Stage.refusal fs (below path name) e ∈ last.found.warnings) ∧
      ((∀ path here through name there e, Trail fs settings root path (here :: through) →
          name ∉ settings.excludeDirs → fs.Enters here name there →
            ¬fs.Overstrains (below path name) e) →
        ∀ here, here ∈ last.opened ↔ Reachable fs settings.excludeDirs root here)) ∧
    (∀ e, explore fs settings root = .error e ↔ e = tooDeep ∧ MeetsTooDeep fs settings root) ∧
    (fs.directories.length ≤ fs.room → ∃ last, explore fs settings root = .ok last) := by
  refine ⟨fun last hlast => ?_, fun e => ?_, fun hroom => ?_⟩
  · have hcomplete := (explore_complete hsound hgrants hfollow hlast).1
    have hagenda := (explore_complete hsound hgrants hfollow hlast).2
    have hreachable : ∀ here ∈ last.opened, Reachable fs settings.excludeDirs root here := by
      intro here hopened
      obtain ⟨path, through, htrail, -⟩ := hcomplete.fates here hopened
      exact htrail.reachable
    have hstart : ∀ here, fs.locate true root = .ok here → fs.HasDirectory here →
        here ∈ last.opened := by
      intro here hlocate hdirectory
      refine (hcomplete.start here hlocate hdirectory).resolve_right fun hmem => ?_
      rw [hagenda] at hmem
      cases hmem
    have hfates := fun here => @exists_fates fs settings root here hsound hgrants hfollow last hlast
    refine ⟨hcomplete.sound.nodup, hreachable, hstart, hfates, ?_⟩
    -- Without refusals the directories opened are closed under entering, and the root is among them.
    intro hlookable here
    refine ⟨hreachable here, fun h => ?_⟩
    induction h with
    | root hlocate hdirectory => exact hstart _ hlocate hdirectory
    | enter h hname henters ih =>
      obtain ⟨path, through, htrail, hgoes⟩ := hfates _ ih
      rcases hgoes _ _ hname henters with hopened | ⟨e, hrefused, -⟩
      · exact hopened
      · exact absurd hrefused (hlookable _ _ _ _ _ e htrail hname henters)
  · rw [explore_eq_error_iff hroot]
    constructor
    · rintro (⟨s, path, -, hstalls⟩ | ⟨hdeep, he⟩)
      · rw [hstalls.limit] at hlimit
        cases hlimit
      · exact ⟨he, hdeep⟩
    · rintro ⟨he, hdeep⟩
      exact .inr ⟨hdeep, he⟩
  · exact exists_explore hroot hlimit (not_meetsTooDeep_of_directories hroom)

/-! ## A circle, and a path that overstrains the system -/

/-- A directory with a link back to the one above it. -/
def circle : FileSystem where
  entries := [("a", .directory [("up", .link "..")])]
  room := 8

theorem circle_a : circle.locate true ⟨true, ["a"]⟩ = .ok ["a"] := by
  rw [FileSystem.locate_eq_locateFrom (by decide)]
  exact FileSystem.locateFrom_name rfl (by decide) rfl (by simp) true

theorem circle_up : circle.locate true ⟨true, ["a", "up"]⟩ = .ok [] := by
  have htarget : FileSystem.targetSteps ".." = [".."] := by decide
  rw [FileSystem.locate_eq_locateFrom (by decide),
    FileSystem.locateFrom_entry rfl (by decide) rfl (by simp),
    FileSystem.locateFrom_link rfl (by decide) rfl (by simp), htarget]
  show circle.locateFrom true 39 ["a"] [".."] = .ok []
  rw [FileSystem.locateFrom]
  show circle.locateFrom true 39 [] [] = .ok []
  rw [FileSystem.locateFrom]

/-- There are two trails, and the link back leads to where the second has been. -/
theorem trail_circle (h : Trail circle following ⟨true, []⟩ path through) :
    path = ⟨true, []⟩ ∧ through = [[]] ∨ path = ⟨true, ["a"]⟩ ∧ through = [["a"], []] := by
  induction h with
  | root hlocate hdirectory =>
    -- The search starts at the top and can go to one directory; from there the link leads back.
    rw [FileSystem.locate_eq_locateFrom (by decide), FileSystem.locateFrom] at hlocate
    cases hlocate
    exact .inl ⟨rfl, rfl⟩
  | enter htrail hlists hname hleads hlocate hdirectory hfresh ih =>
    obtain ⟨entries, hat, hmem⟩ := hlists
    rcases ih with ⟨rfl, hthrough⟩ | ⟨rfl, hthrough⟩
    · cases hthrough
      cases hat
      obtain rfl := List.mem_singleton.1 hmem
      rw [show below ⟨true, []⟩ "a" = ⟨true, ["a"]⟩ from rfl, circle_a] at hlocate
      cases hlocate
      exact .inr ⟨rfl, rfl⟩
    · cases hthrough
      cases hat
      obtain rfl := List.mem_singleton.1 hmem
      rw [show below ⟨true, ["a"]⟩ "up" = ⟨true, ["a", "up"]⟩ from rfl, circle_up] at hlocate
      cases hlocate
      simp at hfresh

/-- No path is too much for the circle and there is room for it, so its directories are opened as they
can be reached. -/
theorem explore_circle :
    circle.IsSound ∧ circle.GrantsAll ∧ following.followLinks = true ∧
      following.sizeLimit = .ok (5 * 1024 * 1024) ∧ (⟨true, []⟩ : Path).isBroken = false ∧
      ∃ last, explore circle following ⟨true, []⟩ = .ok last ∧ last.opened.Nodup ∧
        ∀ here, here ∈ last.opened ↔ Reachable circle [] ⟨true, []⟩ here := by
  have hsound : circle.IsSound := by decide
  obtain ⟨hreturned, -, hreturns⟩ :=
    @explore_reachable circle following ⟨true, []⟩ hsound ⟨rfl, rfl⟩ rfl _ rfl (by decide)
  obtain ⟨last, hlast⟩ := hreturns (by decide)
  obtain ⟨hnodup, -, -, -, hreachable⟩ := hreturned last hlast
  refine ⟨hsound, ⟨rfl, rfl⟩, rfl, rfl, by decide, last, hlast, hnodup, hreachable ?_⟩
  -- On neither trail is anything refused.
  rintro path here through name there e htrail - ⟨⟨entries, hat, hmem⟩, -, -⟩ ⟨hrefused, -⟩
  rcases trail_circle htrail with ⟨rfl, hthrough⟩ | ⟨rfl, hthrough⟩
  · cases hthrough
    cases hat
    obtain rfl := List.mem_singleton.1 hmem
    rw [show below ⟨true, []⟩ "a" = ⟨true, ["a"]⟩ from rfl, circle_a] at hrefused
    cases hrefused
  · cases hthrough
    cases hat
    obtain rfl := List.mem_singleton.1 hmem
    rw [show below ⟨true, ["a"]⟩ "up" = ⟨true, ["a", "up"]⟩ from rfl, circle_up] at hrefused
    cases hrefused

/-- Thirty-nine links, and the name of a directory. -/
def longWay : String :=
  "../s/s/s/s/s/s/s/s/s/s/s/s/s/s/s/s/s/s/s/s/s/s/s/s/s/s/s/s/s/s/s/s/s/s/s/s/s/s/s/b"

/-- Two links to a directory, in which there is a link to another one. The first link goes a long
way. -/
def strained : FileSystem where
  entries :=
    [("s", .link "."),
      ("a", .directory [("l", .link longWay), ("m", .link "../b")]),
      ("b", .directory [("k", .link "../c")]),
      ("c", .directory [("x.js", .file [])])]
  room := 8

theorem locateFrom_replicate (budget links : Nat) (rest : List String) :
    strained.locateFrom true (budget + links) [] (List.replicate links "s" ++ rest)
      = strained.locateFrom true budget [] rest := by
  induction links with
  | zero => rfl
  | succ links ih =>
    have htarget : FileSystem.targetSteps "." = ["."] := by decide
    rw [List.replicate_succ, List.cons_append,
      FileSystem.locateFrom_link rfl (by decide) rfl (by simp), htarget]
    show strained.locateFrom true (budget + links) [] _ = _
    rw [← ih, List.cons_append, List.nil_append, FileSystem.locateFrom]
    rfl

/-- The long way leaves no link to spare. -/
theorem strained_l (rest : List String) :
    strained.locateFrom true FileSystem.linkLimit [] ("a" :: "l" :: rest)
      = strained.locateFrom true 0 [] ("b" :: rest) := by
  have htarget : FileSystem.targetSteps longWay = ".." :: List.replicate 39 "s" ++ ["b"] := by
    decide
  rw [FileSystem.locateFrom_entry rfl (by decide) rfl (by simp),
    FileSystem.locateFrom_link rfl (by decide) rfl (by simp), htarget]
  show strained.locateFrom true 39 ["a"] (".." :: (List.replicate 39 "s" ++ "b" :: rest)) = _
  rw [FileSystem.locateFrom]
  exact locateFrom_replicate 0 39 ("b" :: rest)

/-- The short way takes a single link. -/
theorem strained_m (rest : List String) :
    strained.locateFrom true FileSystem.linkLimit [] ("a" :: "m" :: rest)
      = strained.locateFrom true 39 ["b"] rest := by
  have htarget : FileSystem.targetSteps "../b" = ["..", "b"] := by decide
  rw [FileSystem.locateFrom_entry rfl (by decide) rfl (by simp),
    FileSystem.locateFrom_link rfl (by decide) rfl (by simp), htarget]
  show strained.locateFrom true 39 ["a"] (".." :: "b" :: rest) = _
  rw [FileSystem.locateFrom]
  exact FileSystem.locateFrom_entry rfl (by decide) rfl (by simp) true

/-- A directory is opened on the long way, from which no link can be followed. It is opened once, so
what can be reached on the short way is missed. -/
theorem explore_strained :
    ∃ last, explore strained following ⟨true, ["a"]⟩ = .ok last ∧
      last.opened = [["a"], ["b"]] ∧ strained.locate true ⟨true, ["a", "m", "k"]⟩ = .ok ["c"] ∧
      Reachable strained following.excludeDirs ⟨true, ["a"]⟩ ["c"] := by
  -- The long way is through one link, the short way through none, and the limit lies between.
  have hb : strained.HasDirectory ["b"] := ⟨_, rfl⟩
  have ha : strained.locate true ⟨true, ["a"]⟩ = .ok ["a"] := by
    rw [FileSystem.locate_eq_locateFrom (by decide)]
    exact FileSystem.locateFrom_name rfl (by decide) rfl (by simp) true
  have hl : strained.locate true ⟨true, ["a", "l"]⟩ = .ok ["b"] := by
    rw [FileSystem.locate_eq_locateFrom (by decide), strained_l]
    exact FileSystem.locateFrom_name rfl (by decide) rfl (by simp) true
  have hk : strained.locate true ⟨true, ["a", "l", "k"]⟩ = .error .tooManyLinks := by
    rw [FileSystem.locate_eq_locateFrom (by decide), strained_l,
      FileSystem.locateFrom_entry rfl (by decide) rfl (by simp),
      FileSystem.locateFrom_link rfl (by decide) rfl (by simp)]
  have hm : strained.locate true ⟨true, ["a", "m"]⟩ = .ok ["b"] := by
    rw [FileSystem.locate_eq_locateFrom (by decide), strained_m, FileSystem.locateFrom]
  have hc : strained.locate true ⟨true, ["a", "m", "k"]⟩ = .ok ["c"] := by
    have htarget : FileSystem.targetSteps "../c" = ["..", "c"] := by decide
    rw [FileSystem.locate_eq_locateFrom (by decide), strained_m,
      FileSystem.locateFrom_link rfl (by decide) rfl (by simp), htarget]
    show strained.locateFrom true 38 ["b"] ["..", "c"] = .ok ["c"]
    rw [FileSystem.locateFrom]
    exact FileSystem.locateFrom_name rfl (by decide) rfl (by simp) true
  refine ⟨⟨[["a"], ["b"]], ⟨[], 0, ["Skipping /a/l/k: Too many levels of symbolic links",
    "Symlink loop at /a/m, skipping"]⟩, []⟩, ?_, rfl, hc, ?_⟩
  · -- The search goes the long way first, and that closes the short one.
    have hl' := leadsTo_of_link (listed_below ha "l") Entry.isDirectory
    have hm' := leadsTo_of_link (listed_below ha "m") Entry.isDirectory
    have hk' := leadsTo_of_link (listed_below hl "k") Entry.isDirectory
    simp only [below, List.cons_append, List.nil_append, FileSystem.entry, hl, hm, hk] at hl' hm' hk'
    rw [explore, if_neg (by decide), Stage.start,
      Stage.resume_of_moves rfl (.opens ha rfl (by simp) rfl), sortedNames_of_pairwise (by decide)]
    simp only [List.map, List.nil_append, List.cons_append, below]
    rw [Stage.resume_of_moves rfl (.descends (by simp [following]) hl'),
      Stage.resume_of_moves rfl (.opens hl rfl (by simp) rfl), sortedNames_of_pairwise (by decide)]
    simp only [List.map, List.nil_append, List.cons_append, below]
    rw [Stage.resume_of_moves rfl (.unclear (by simp [following]) hk'), Stage.warn,
      Stage.resume_of_moves rfl (.descends (by simp [following]) hm'),
      Stage.resume_of_moves rfl (.again hm hb (by simp)), Stage.warn, Stage.resume]
    exact congrArg Except.ok (by decide)
  · have hstart : Reachable strained following.excludeDirs ⟨true, ["a"]⟩ ["a"] :=
      .root ha ⟨_, rfl⟩
    have hentersB : strained.Enters ["a"] "m" ["b"] :=
      ⟨⟨_, rfl, by decide⟩, FileSystem.locateFrom_of_locate_below ha hm, hb⟩
    have hentersC : strained.Enters ["b"] "k" ["c"] :=
      ⟨⟨_, rfl, by decide⟩, FileSystem.locateFrom_of_locate_below hm hc, ⟨_, rfl⟩⟩
    exact .enter (.enter hstart (by decide) hentersB) (by decide) hentersC

end ScriptAudit
