import ScriptAudit.Proofs.Candidates
import ScriptAudit.Proofs.SameWays
import ScriptAudit.Proofs.SearchDepth

/-!
# Which files are found

With no link followed into a directory, a search goes through the real directories below its root in
depth-first order. It meets every candidate once, in the order of their paths, and takes in the
eligible ones while there is room.

- `Ground`: what a search needs so as not to miss anything.
- `Stage.Covers`: the candidates met so far, and that all others are still below the agenda.
  `Stage.Covers.step` says that every step keeps it so.
- `search_eligible`: **the search finds the first eligible files and counts all candidates**, and it
  fails only if a candidate is a file and the size limit cannot be computed.
-/

namespace ScriptAudit

open Search

variable {fs : FileSystem} {settings : Settings} {root path : Path} {top : Location}
  {names : List String}

/-- What a search needs so as not to miss anything: a directory as its root, with places below it
that can be looked up, and no link to be followed into another directory. -/
structure Ground (fs : FileSystem) (settings : Settings) (root : Path) (top : Location) : Prop where
  sound : fs.IsSound
  grants : fs.GrantsAll
  readable : fs.IsReadable root
  unlinked : settings.followLinks = false
  whole : root.isBroken = false
  located : fs.locate true root = .ok top
  directory : fs.HasDirectory top

/-- What a real directory holds below the ground is weighed as what it leads to. -/
theorem Ground.isWeighed {name : String} {e : Entry} (hground : Ground fs settings root top)
    (hat : fs.at? (top ++ (names ++ [name])) = some e) :
    IsWeighed fs (root.along (names ++ [name])) := by
  have hlisted := listed_along hground.sound hground.grants hground.readable hground.located hat
  refine isWeighed_of_listed hlisted fun hlink => ?_
  have hlocate := FileSystem.locate_along hground.sound hground.grants hground.readable
    hground.located hat (.inr hlink) (fun _ => rfl)
  simp [FileSystem.entry, hlocate, hat]

/-! ## What a stage has covered -/

namespace Stage

/-- Everything pending is a place below the root, and was not opened yet. The candidates are those
met so far, in order, and others whose paths go on from something pending. -/
structure Covers (fs : FileSystem) (settings : Settings) (root : Path) (top : Location) (s : Stage)
    (seen : List Path) : Prop where
  entries : ∀ path, .entry path ∈ s.agenda → ∃ names name e, path = root.along (names ++ [name]) ∧
    fs.at? (top ++ (names ++ [name])) = some e ∧ ∀ other ∈ names, other ∉ settings.excludeDirs
  directories : ∀ path, .directory path ∈ s.agenda → ∃ names, path = root.along names ∧
    fs.HasDirectory (top ++ names) ∧ ∀ name ∈ names, name ∉ settings.excludeDirs
  fresh : ∀ names, top ++ names ∈ s.opened →
    ∀ item ∈ s.agenda, ¬(pendingPath item).parts <+: (root.along names).parts
  ordered : ((seen ++ s.agenda.map pendingPath).map (·.parts)).Pairwise Precedes
  sound : ∀ path ∈ seen, IsCandidate fs settings root path
  complete : ∀ path, IsCandidate fs settings root path →
    path ∈ seen ∨ ∃ item ∈ s.agenda, (pendingPath item).parts <+: path.parts
  weighed : ∀ path ∈ seen, ∀ bytes, fs.entry true path = .ok (.file bytes) →
    ∃ limit, settings.sizeLimit = .ok limit
  counted : s.found.discovered = seen.length
  fills : Fills settings (seen.filter (fits fs settings)) s.found.files

variable {s next : Stage} {item : Pending} {seen : List Path}

theorem Covers.start (hground : Ground fs settings root top) :
    Covers fs settings root top (.start root) [] where
  entries := by simp [Stage.start]
  directories path hmem := by
    obtain rfl : path = root := by simpa [Stage.start] using hmem
    exact ⟨[], by simp, by simpa using hground.directory, by simp⟩
  fresh := by simp [Stage.start]
  ordered := by simp [Stage.start]
  sound := by simp
  complete path hpath := by
    obtain ⟨-, names, -, -, rfl, -⟩ := hpath
    exact .inr ⟨.directory root, by simp [Stage.start], List.prefix_append _ _⟩
  weighed := by simp
  counted := rfl
  fills := ⟨by simp [Stage.start, Search.nothing], by simp [Stage.start, Search.nothing],
    fun hne => absurd rfl hne⟩

/-- Something pending may be dropped if no candidate goes on from it. -/
theorem Covers.skip (h : Covers fs settings root top { s with agenda := item :: s.agenda } seen)
    (hnone : ∀ path, IsCandidate fs settings root path →
      ¬(pendingPath item).parts <+: path.parts) :
    Covers fs settings root top s seen where
  entries path hmem := h.entries path (List.mem_cons_of_mem _ hmem)
  directories path hmem := h.directories path (List.mem_cons_of_mem _ hmem)
  fresh names hopened item hmem := h.fresh names hopened item (List.mem_cons_of_mem _ hmem)
  ordered := by
    refine h.ordered.sublist (List.Sublist.map _ ?_)
    exact (List.Sublist.refl _).append (List.Sublist.map _ (List.sublist_cons_self _ _))
  sound := h.sound
  complete path hpath := by
    rcases h.complete path hpath with hseen | ⟨other, hmem, hbelow⟩
    · exact .inl hseen
    · rcases List.mem_cons.1 hmem with rfl | hmem
      · -- No candidate goes on from what was dropped, so all that are left go on from something
        -- else.
        exact absurd hbelow (hnone path hpath)
      · exact .inr ⟨other, hmem, hbelow⟩
  weighed := h.weighed
  counted := h.counted
  fills := h.fills

/-- What comes later on the agenda is not above what comes first. -/
theorem Covers.not_above
    (h : Covers fs settings root top { s with agenda := item :: s.agenda } seen) {other : Pending}
    (hmem : other ∈ s.agenda) : ¬(pendingPath other).parts <+: (pendingPath item).parts := by
  have hordered := h.ordered
  rw [List.map_append, List.map_cons, List.map_cons, List.pairwise_append, List.pairwise_cons]
    at hordered
  obtain ⟨-, ⟨hfirst, -⟩, -⟩ := hordered
  exact (hfirst _ (List.mem_map_of_mem (List.mem_map_of_mem hmem))).not_isPrefix

/-- A directory is opened: its entries take its place. -/
theorem Covers.open {entries : List (String × Entry)} (hground : Ground fs settings root top)
    (h : Covers fs settings root top
      { s with agenda := .directory (root.along names) :: s.agenda } seen)
    (hat : fs.at? (top ++ names) = some (.directory entries))
    (hkept : ∀ name ∈ names, name ∉ settings.excludeDirs) :
    Covers fs settings root top { s with
      opened := s.opened ++ [top ++ names]
      agenda := (sortedNames entries).map (fun name => .entry (below (root.along names) name))
        ++ s.agenda } seen where
  entries path hmem := by
    -- The new items are entries of the directory, and none of them is pending as a directory.
    rcases List.mem_append.1 hmem with hnew | hold
    · obtain ⟨name, hname, heq⟩ := List.mem_map.1 hnew
      cases heq
      obtain ⟨e, he⟩ := FileSystem.exists_at?_of_mem hat (mem_sortedNames.1 hname)
      exact ⟨names, name, e, Path.below_along .., by rwa [← List.append_assoc], hkept⟩
    · exact h.entries path (List.mem_cons_of_mem _ hold)
  directories path hmem := by
    rcases List.mem_append.1 hmem with hnew | hold
    · obtain ⟨name, -, heq⟩ := List.mem_map.1 hnew
      cases heq
    · exact h.directories path (List.mem_cons_of_mem _ hold)
  fresh others hopened item hmem hbelow := by
    rcases List.mem_append.1 hopened with hopened | hhere
    · -- Whatever an entry is above, the directory is above as well.
      rcases List.mem_append.1 hmem with hnew | hold
      · obtain ⟨name, -, rfl⟩ := List.mem_map.1 hnew
        refine h.fresh others hopened _ List.mem_cons_self (List.IsPrefix.trans ?_ hbelow)
        exact List.prefix_append _ _
      · exact h.fresh others hopened item (List.mem_cons_of_mem _ hold) hbelow
    · obtain rfl : others = names := List.append_cancel_left (List.mem_singleton.1 hhere)
      rcases List.mem_append.1 hmem with hnew | hold
      · obtain ⟨name, -, rfl⟩ := List.mem_map.1 hnew
        have hlength := hbelow.length_le
        rw [pendingPath, below, List.length_append, List.length_singleton] at hlength
        omega
      · exact h.not_above hold hbelow
  ordered := by
    have hexpand := pairwise_expand (by simpa [pendingPath] using h.ordered)
      (sortedNames_pairwise (hground.sound _ _ hat).1)
    simpa [pendingPath, below, Function.comp_def] using hexpand
  sound := h.sound
  complete path hpath := by
    rcases h.complete path hpath with hseen | ⟨item, hmem, hbelow⟩
    · exact .inl hseen
    · refine .inr ?_
      rcases List.mem_cons.1 hmem with rfl | hmem
      · -- A candidate that goes on from the directory goes on from one of its entries.
        obtain ⟨name, hname, habove⟩ := exists_entry_above hground.located hpath hbelow hat
        exact ⟨_, List.mem_append_left _ (List.mem_map_of_mem (mem_sortedNames.2 hname)), habove⟩
      · exact ⟨item, List.mem_append_right _ hmem, hbelow⟩
  weighed := h.weighed
  counted := h.counted
  fills := h.fills

/-- A directory met as an entry is still pending. -/
theorem Covers.descend
    (h : Covers fs settings root top
      { s with agenda := .entry (root.along names) :: s.agenda } seen)
    (hdirectory : fs.HasDirectory (top ++ names))
    (hkept : ∀ name ∈ names, name ∉ settings.excludeDirs) :
    Covers fs settings root top
      { s with agenda := .directory (root.along names) :: s.agenda } seen where
  entries path hmem := by
    rcases List.mem_cons.1 hmem with heq | hmem
    · cases heq
    · exact h.entries path (List.mem_cons_of_mem _ hmem)
  directories path hmem := by
    rcases List.mem_cons.1 hmem with heq | hmem
    · cases heq
      exact ⟨names, rfl, hdirectory, hkept⟩
    · exact h.directories path (List.mem_cons_of_mem _ hmem)
  fresh others hopened item hmem := by
    rcases List.mem_cons.1 hmem with rfl | hmem
    · exact h.fresh others hopened (.entry (root.along names)) List.mem_cons_self
    · exact h.fresh others hopened item (List.mem_cons_of_mem _ hmem)
  ordered := h.ordered
  sound := h.sound
  complete path hpath := by
    rcases h.complete path hpath with hseen | ⟨item, hmem, hbelow⟩
    · exact .inl hseen
    · -- What went on from the entry goes on from the directory, which has the same path.
      rcases List.mem_cons.1 hmem with rfl | hmem
      · exact .inr ⟨_, List.mem_cons_self, hbelow⟩
      · exact .inr ⟨item, List.mem_cons_of_mem _ hmem, hbelow⟩
  weighed := h.weighed
  counted := h.counted
  fills := h.fills

/-- A candidate is met, below which there is nothing. -/
theorem Covers.judge {e : Entry} {found : Search} (hground : Ground fs settings root top)
    (h : Covers fs settings root top
      { s with agenda := .entry (root.along names) :: s.agenda } seen)
    (hcandidate : IsCandidate fs settings root (root.along names))
    (hweighed : IsWeighed fs (root.along names))
    (hat : fs.at? (top ++ names) = some e) (hno : e.isDirectory = false)
    (hjudges : Judges fs settings (root.along names) s.found found) :
    Covers fs settings root top { s with found } (seen ++ [root.along names]) where
  entries path hmem := h.entries path (List.mem_cons_of_mem _ hmem)
  directories path hmem := h.directories path (List.mem_cons_of_mem _ hmem)
  fresh others hopened item hmem := h.fresh others hopened item (List.mem_cons_of_mem _ hmem)
  ordered := by simpa [pendingPath] using h.ordered
  sound path hmem := by
    rcases List.mem_append.1 hmem with hmem | hmem
    · exact h.sound path hmem
    · exact List.mem_singleton.1 hmem ▸ hcandidate
  complete path hpath := by
    rcases h.complete path hpath with hseen | ⟨item, hmem, hbelow⟩
    · exact .inl (List.mem_append_left _ hseen)
    · rcases List.mem_cons.1 hmem with rfl | hmem
      · -- There is nothing below what was judged, so the only candidate that went on from it is
        -- itself.
        rw [eq_along hground.located hpath hbelow hat hno]
        simp
      · exact .inr ⟨item, hmem, hbelow⟩
  weighed path hmem bytes hfile := by
    rcases List.mem_append.1 hmem with hmem | hmem
    · exact h.weighed path hmem bytes hfile
    · rw [List.mem_singleton.1 hmem] at hfile
      exact hjudges.exists_limit ((hweighed _).2 ⟨bytes, hfile, rfl⟩)
  counted := by
    rw [hjudges.discovered_eq, List.length_append, List.length_singleton]
    exact congrArg (· + 1) h.counted
  fills := h.fills.judge hweighed hjudges

/-- An entry that is pending, and whose name is not excluded, is a place to which real directories
lead. -/
theorem Covers.exists_place (hground : Ground fs settings root top)
    (h : Covers fs settings root top s seen) (hmem : .entry path ∈ s.agenda)
    (hname : path.name ∉ settings.excludeDirs) :
    ∃ names e, path = root.along names ∧ names ≠ [] ∧ fs.at? (top ++ names) = some e ∧
      (∀ name ∈ names, name ∉ settings.excludeDirs) ∧ IsWeighed fs path ∧
        leadsTo fs settings.followLinks Entry.isDirectory path = .ok e.isDirectory := by
  obtain ⟨names, name, e, rfl, hat, hkept⟩ := h.entries path hmem
  rw [← Path.below_along, name_below] at hname
  refine ⟨names ++ [name], e, rfl, by simp, hat, ?_, hground.isWeighed hat, ?_⟩
  · intro other hother
    rcases List.mem_append.1 hother with hother | hother
    · exact hkept other hother
    · exact List.mem_singleton.1 hother ▸ hname
  · rw [hground.unlinked]
    exact leadsTo_of_listed
      (listed_along hground.sound hground.grants hground.readable hground.located hat) (.inl rfl) _

/-- A directory that is pending can be opened. -/
theorem Covers.step_directory (hground : Ground fs settings root top)
    (h : Covers fs settings root top { s with agenda := .directory path :: s.agenda } seen)
    (hmoves : Moves fs settings (.directory path) s next) :
    Covers fs settings root top next seen := by
  obtain ⟨names, rfl, ⟨entries, hat⟩, hkept⟩ := h.directories path List.mem_cons_self
  have hlocate : fs.locate true (root.along names) = .ok (top ++ names) :=
    FileSystem.locate_along hground.sound hground.grants hground.readable hground.located hat
      (.inr rfl) fun _ => rfl
  -- The directory is where its path leads, it was not opened before, and it can be read, so opening
  -- it is all that is left.
  cases hmoves with
  | unlocated herror =>
    rw [hlocate] at herror
    cases herror
  | unsuitable hlocate' hnone =>
    rw [hlocate] at hlocate'
    cases hlocate'
    exact absurd ⟨entries, hat⟩ hnone
  | again hlocate' hdirectory hopened =>
    rw [hlocate] at hlocate'
    cases hlocate'
    exact absurd (List.prefix_refl _) (h.fresh names hopened _ List.mem_cons_self)
  | shut hlocate' hdirectory hfresh hread =>
    rw [hground.grants.mayRead] at hread
    cases hread
  | opens hlocate' hat' hfresh hread =>
    rw [hlocate] at hlocate'
    cases hlocate'
    exact h.open hground hat' hkept

/-- An entry that is pending is dropped, goes on as a directory, or is one more candidate. -/
theorem Covers.step_entry (hground : Ground fs settings root top)
    (h : Covers fs settings root top { s with agenda := .entry path :: s.agenda } seen)
    (hmoves : Moves fs settings (.entry path) s next) :
    Covers fs settings root top next seen ∨ Covers fs settings root top next (seen ++ [path]) := by
  have hplace := h.exists_place hground List.mem_cons_self
  cases hmoves with
  -- An excluded name is in the path of no candidate.
  | excluded hname =>
    refine .inl (h.skip fun candidate hcandidate hbelow => ?_)
    obtain ⟨names, name, -, rfl, -, -⟩ := h.entries path List.mem_cons_self
    obtain ⟨more, -, -, -, -, -, hkept⟩ := exists_names hground.located hcandidate hbelow
    rw [← Path.below_along, name_below] at hname
    exact hkept name (by simp) hname
  | unclear hname hleads =>
    obtain ⟨names, e, rfl, -, -, -, -, hleads'⟩ := hplace hname
    rw [hleads] at hleads'
    cases hleads'
  -- An entry leads to a directory without a link only if it is one.
  | descends hname hleads =>
    obtain ⟨names, e, rfl, -, hat, hkept, -, hleads'⟩ := hplace hname
    rw [hleads, Except.ok.injEq] at hleads'
    have hdirectory : fs.HasDirectory (top ++ names) := by
      cases e with
      | directory entries => exact ⟨entries, hat⟩
      | _ => cases hleads'
    exact .inl (h.descend hdirectory hkept)
  | ignores hname hleads hsource =>
    obtain ⟨names, e, rfl, -, hat, -, -, hleads'⟩ := hplace hname
    rw [hleads, Except.ok.injEq] at hleads'
    -- What is not named like a source is no candidate itself, and there is nothing below it.
    refine .inl (h.skip fun candidate hcandidate hbelow => ?_)
    obtain rfl := eq_along hground.located hcandidate hbelow hat hleads'.symm
    obtain ⟨-, -, -, -, -, -, -, -, -, hsource'⟩ := hcandidate
    rw [hsource] at hsource'
    cases hsource'
  | judges hname hleads hsource hjudges =>
    obtain ⟨names, e, rfl, hne, hat, hkept, hweighed, hleads'⟩ := hplace hname
    rw [hleads, Except.ok.injEq] at hleads'
    have hcandidate : IsCandidate fs settings root (root.along names) :=
      ⟨top, names, e, hground.located, rfl, hne, hat, hleads'.symm, hkept, hsource⟩
    exact .inr (h.judge hground hcandidate hweighed hat hleads'.symm hjudges)

/-- Every step keeps the candidates covered. -/
theorem Covers.step (hground : Ground fs settings root top)
    (h : ∃ seen, Covers fs settings root top { s with agenda := item :: s.agenda } seen)
    (hmoves : Moves fs settings item s next) : ∃ seen, Covers fs settings root top next seen := by
  obtain ⟨seen, h⟩ := h
  cases item with
  | directory path => exact ⟨seen, h.step_directory hground hmoves⟩
  | entry path =>
    rcases h.step_entry hground hmoves with hsame | hmore
    · exact ⟨seen, hsame⟩
    · exact ⟨seen ++ [path], hmore⟩

/-- With nothing pending, all candidates were met. -/
theorem Covers.listing (h : Covers fs settings root top s seen) (hagenda : s.agenda = []) :
    Listing (IsCandidate fs settings root) seen where
  ordered := by simpa [hagenda] using h.ordered
  mem_iff path := by
    refine ⟨h.sound path, fun hpath => ?_⟩
    rcases h.complete path hpath with hseen | ⟨item, hmem, -⟩
    · exact hseen
    · rw [hagenda] at hmem
      cases hmem

end Stage

/-! ## Whole searches -/

/-- The candidates of which some are eligible. -/
theorem Listing.eligible {candidates : List Path}
    (h : Listing (IsCandidate fs settings root) candidates) :
    Listing (IsEligible fs settings root) (candidates.filter (fits fs settings)) where
  ordered := h.ordered.sublist (List.filter_sublist.map _)
  mem_iff path := by rw [List.mem_filter, h.mem_iff, IsEligible]

theorem exists_covers (hground : Ground fs settings root top) {last : Stage}
    (h : explore fs settings root = .ok last) :
    ∃ seen, last.Covers fs settings root top seen ∧
      Listing (IsCandidate fs settings root) seen := by
  obtain ⟨⟨seen, hcovers⟩, hagenda⟩ :=
    explore_preserves (P := fun s => ∃ seen, s.Covers fs settings root top seen)
      (fun _ _ _ hs _ hmoves => Stage.Covers.step hground hs hmoves)
      ⟨[], .start hground⟩ h
  exact ⟨seen, hcovers, hcovers.listing hagenda⟩

/-- A search below a directory fails only for want of room, or if some candidate leads to a file. -/
theorem cases_of_explore_error (hground : Ground fs settings root top) {e : Failure}
    (h : explore fs settings root = .error e) :
    e = tooDeep ∧ ¬fs.HasRoom root ∨ settings.sizeLimit = .error e ∧
      ∃ path bytes, IsCandidate fs settings root path ∧
        fs.entry true path = .ok (.file bytes) := by
  rcases (explore_eq_error_iff hground.whole).1 h with ⟨s, path, hreached, hstalls⟩ | ⟨hdeep, he⟩
  · -- The search stalled at an entry whose size was to be compared with a limit that cannot be
    -- computed.
    refine .inr ?_
    obtain ⟨seen, hcovers⟩ :=
      hreached.invariant (P := fun s => ∃ seen, s.Covers fs settings root top seen)
        ⟨[], .start hground⟩ fun _ _ _ hs _ hmoves => Stage.Covers.step hground hs hmoves
    obtain ⟨names, entry, rfl, hne, hat, hkept, hweighed, hleads⟩ :=
      hcovers.exists_place hground List.mem_cons_self hstalls.name
    rw [hstalls.entry, Except.ok.injEq] at hleads
    obtain ⟨size, hsize⟩ := hstalls.file
    obtain ⟨bytes, hfile, -⟩ := (hweighed size).1 hsize
    exact ⟨hstalls.limit, _, bytes,
      ⟨top, names, entry, hground.located, rfl, hne, hat, hleads.symm, hkept, hstalls.source⟩,
      hfile⟩
  · exact .inl ⟨he, fun hroom =>
      not_meetsTooDeep_of_hasRoom hground.sound hground.unlinked hroom hdeep⟩

/-- The candidates below a directory can be listed, whatever the size limit is and however deep it
goes. -/
theorem exists_listing (hground : Ground fs settings root top) :
    ∃ candidates, Listing (IsCandidate fs settings root) candidates := by
  -- A search that cannot fail lists them, and they depend neither on the size limit nor on the room.
  let ample : FileSystem := { fs with room := fs.directories.length }
  let bounded : Settings := { settings with maxFileSize := .whole 1 }
  have hsame : ∀ follow path, ample.locate follow path = fs.locate follow path :=
    (fs.sameWays_room _).locate_eq
  have hcandidate : ∀ path, IsCandidate ample bounded root path ↔
      IsCandidate fs settings root path := by
    intro path
    unfold IsCandidate
    rw [hsame]
    exact .rfl
  have hground' : Ground ample bounded root top := {
    sound := hground.sound
    grants := ⟨hground.grants.read, hground.grants.search⟩
    readable := fun top names e htop => hground.readable top names e (hsame true root ▸ htop)
    unlinked := hground.unlinked
    whole := hground.whole
    located := (hsame true root).trans hground.located
    directory := hground.directory }
  have hlimit : bounded.sizeLimit = .ok 1048576 := rfl
  obtain ⟨last, hlast⟩ := exists_explore hground.whole hlimit
    (@not_meetsTooDeep_of_directories ample _ _ (Nat.le_refl _))
  obtain ⟨candidates, -, hlisting⟩ := exists_covers hground' hlast
  exact ⟨candidates, hlisting.ordered, fun path => (hlisting.mem_iff path).trans (hcandidate path)⟩

/-- **The search finds the first eligible files.** Let everything be granted, every path through real
directories be short enough to be looked up, and no link be followed into a directory. Then the search
below a directory, if it returns, counts all candidates, and what it finds are the first eligible ones
in depth-first order, as many as are allowed. It fails only for want of room, or if the size limit
cannot be computed and some candidate leads to a file. With enough room it returns if the limit is a
finite number of bytes, and fails exactly for the latter reason. -/
theorem search_eligible (hsound : fs.IsSound) (hgrants : fs.GrantsAll)
    (hreadable : fs.IsReadable root) (hfollow : settings.followLinks = false)
    (hbroken : root.isBroken = false) (hroot : fs.isDirectory root = true) :
    ∃ candidates eligible, Listing (IsCandidate fs settings root) candidates ∧
      Listing (IsEligible fs settings root) eligible ∧
      (∀ found, search fs settings root = .ok found →
        found.discovered = candidates.length ∧ Fills settings eligible found.files ∧
          ∀ limit, settings.maxFiles.whole? = some limit →
            found.files = eligible.take limit.toNat) ∧
      (∀ e, search fs settings root = .error e →
        e = tooDeep ∧ ¬fs.HasRoom root ∨ settings.sizeLimit = .error e ∧
          ∃ path bytes, IsCandidate fs settings root path ∧
            fs.entry true path = .ok (.file bytes)) ∧
      (fs.HasRoom root → (¬settings.IsBoundless → ∃ found, search fs settings root = .ok found) ∧
        ∀ e, search fs settings root = .error e ↔ settings.sizeLimit = .error e ∧
          ∃ path bytes, IsCandidate fs settings root path ∧
            fs.entry true path = .ok (.file bytes)) := by
  obtain ⟨top, htop, hdirectory⟩ := FileSystem.exists_locate_of_isDirectory hroot
  have hground : Ground fs settings root top :=
    ⟨hsound, hgrants, hreadable, hfollow, hbroken, htop, hdirectory⟩
  obtain ⟨candidates, hcandidates⟩ := exists_listing hground
  have hfails : ∀ e, search fs settings root = .error e →
      e = tooDeep ∧ ¬fs.HasRoom root ∨ settings.sizeLimit = .error e ∧
        ∃ path bytes, IsCandidate fs settings root path ∧ fs.entry true path = .ok (.file bytes) :=
    fun e herror => cases_of_explore_error hground (search_eq_error_iff.1 herror)
  refine ⟨candidates, _, hcandidates, hcandidates.eligible, ?_, hfails, fun hroom => ⟨?_, ?_⟩⟩
  · intro found hfound
    obtain ⟨last, hexplore, rfl⟩ := search_eq_ok_iff.1 hfound
    obtain ⟨seen, hcovers, hlisting⟩ := exists_covers hground hexplore
    obtain rfl := hlisting.unique hcandidates
    exact ⟨hcovers.counted, hcovers.fills, fun limit hlimit => hcovers.fills.eq_take hlimit⟩
  · exact fun hfinite => search_returns hbroken hfinite (.inr ⟨hsound, hfollow, hroom⟩)
  · refine fun e => ⟨fun herror => (hfails e herror).resolve_left fun h => h.2 hroom, ?_⟩
    rintro ⟨hlimit, path, bytes, hpath, hfile⟩
    cases hsearch : search fs settings root with
    | error e' =>
      obtain ⟨hlimit', -⟩ := (hfails e' hsearch).resolve_left fun h => h.2 hroom
      rw [hlimit] at hlimit'
      cases hlimit'
      rfl
    | ok found =>
      -- Had the search come to its end, it would have judged the size of that file.
      obtain ⟨last, hexplore, rfl⟩ := search_eq_ok_iff.1 hsearch
      obtain ⟨seen, hcovers, hlisting⟩ := exists_covers hground hexplore
      obtain ⟨limit, hlimit'⟩ :=
        hcovers.weighed path ((hlisting.mem_iff path).2 hpath) bytes hfile
      rw [hlimit] at hlimit'
      cases hlimit'

/-- A script file, and a link to it in a directory. -/
def shared : FileSystem where
  entries := [("a.js", .file [59]), ("b", .directory [("c.js", .link "/a.js")])]
  room := 8

/-- Settings that follow no link into a directory. -/
def staying : Settings :=
  { following with followLinks := false }

/-- The link is eligible, being a script file by its name and leading to one. -/
theorem search_eligible_shared :
    shared.IsSound ∧ shared.GrantsAll ∧ shared.IsReadable ⟨true, []⟩ ∧
      staying.followLinks = false ∧ shared.isDirectory ⟨true, []⟩ = true ∧
      IsEligible shared staying ⟨true, []⟩ ⟨true, ["b", "c.js"]⟩ ∧
      ∃ candidates eligible, Listing (IsCandidate shared staying ⟨true, []⟩) candidates ∧
        Listing (IsEligible shared staying ⟨true, []⟩) eligible ∧
        ∃ found, search shared staying ⟨true, []⟩ = .ok found ∧
          found.discovered = candidates.length ∧ found.files = eligible.take 5 := by
  have hroot := shared.locate_top true
  have hsound : shared.IsSound := by decide
  -- There are four places in all, so whatever is said of every place can be looked up at each of
  -- them.
  have hgrants : shared.GrantsAll := ⟨rfl, rfl⟩
  have hplaces : ∀ names e, shared.at? names = some e →
      names = [] ∨ names = ["a.js"] ∨ names = ["b"] ∨ names = ["b", "c.js"] := by
    intro names e hat
    have hmem : [] ++ names ∈ shared.root.locations (fun _ => true) [] :=
      Entry.mem_locations hat rfl []
    simpa [shared, FileSystem.root, Entry.locations, Entry.locationsIn] using hmem
  have hreadable : shared.IsReadable ⟨true, []⟩ := by
    intro top names e htop hat
    rw [hroot] at htop
    cases htop
    rcases hplaces names e hat with rfl | rfl | rfl | rfl <;> decide
  have hroom : shared.HasRoom ⟨true, []⟩ := by
    rintro top names htop ⟨entries, hat⟩
    rw [hroot] at htop
    cases htop
    rcases hplaces names _ hat with rfl | rfl | rfl | rfl <;> decide
  have hdirectory : shared.isDirectory ⟨true, []⟩ = true :=
    FileSystem.isDirectory_of_locate hroot ⟨_, rfl⟩
  have heligible : IsEligible shared staying ⟨true, []⟩ ⟨true, ["b", "c.js"]⟩ := by
    refine ⟨⟨[], ["b", "c.js"], .link "/a.js", hroot, rfl, by decide, rfl, rfl, by decide,
      by decide⟩, ?_⟩
    have hlocate : shared.locate true ⟨true, ["b", "c.js"]⟩ = .ok ["a.js"] := by
      rw [FileSystem.locate_eq_locateFrom (by decide),
        FileSystem.locateFrom_entry rfl (by decide) rfl (by simp),
        FileSystem.locateFrom_link rfl (by decide) rfl rfl]
      exact FileSystem.locateFrom_name rfl (by decide) rfl (by simp) true
    have hentry : shared.entry true ⟨true, ["b", "c.js"]⟩ = .ok (.file [59]) := by
      rw [FileSystem.entry, hlocate]
      rfl
    rw [fits, hentry]
    decide
  have hfollow : staying.followLinks = false := rfl
  obtain ⟨candidates, eligible, hcandidates, helig, hfound, -, hends⟩ :=
    search_eligible hsound hgrants hreadable hfollow rfl hdirectory
  refine ⟨hsound, hgrants, hreadable, hfollow, hdirectory, heligible, candidates, eligible,
    hcandidates, helig, ?_⟩
  obtain ⟨found, hsearch⟩ := (hends hroom).1 (by simp [Settings.IsBoundless, staying, following])
  obtain ⟨hdiscovered, -, htake⟩ := hfound found hsearch
  exact ⟨found, hsearch, hdiscovered, htake 5 rfl⟩

end ScriptAudit
