import ScriptAudit.Proofs.ExplainedSkips
import ScriptAudit.Proofs.Reachability
import ScriptAudit.Proofs.SourceRoots

/-!
# Sources by name and sources by kind

The recogniser takes a directory for one with sources if some name in it has the extension of a
source. A search looks at what the names stand for as well: it goes into the directories among them,
whatever their names are, and counts the rest.

- `Stage.Reached.exists_turn`: whatever is on the agenda of a search is looked at in the end.
- `IsSourceEntry`: a name in a directory is that of a source, and stands for no directory.
- `isCounted_of_isSourceEntry`, `isSourceEntry_of_isCounted`: what a search counts in its root.
- `Recognizer.isCounted_of_isChosen`: **a search of the directory that was chosen counts a source
  there exactly if some source by name is no directory.**
-/

namespace ScriptAudit

open Search

variable {fs : FileSystem} {settings : Settings} {root path : Path} {here : Location}
  {name : String} {entries : List (String × Entry)}

/-! ## What is looked at -/

namespace Stage

variable {s last : Stage} {item : Pending}

/-- What is on the agenda at some stage is looked at, if the run comes to its end. -/
theorem Reached.exists_turn (h : Reached fs settings root s) (hmem : item ∈ s.agenda)
    (hend : s.resume fs settings root = .ok last) :
    ∃ met next : Stage, Reached fs settings root { met with agenda := item :: met.agenda } ∧
      Moves fs settings item met next := by
  induction s using resume.induct fs settings root with
  | case1 opened found => cases hmem
  | case2 opened found first agenda next hnext ih =>
    obtain ⟨hfits, hmoves⟩ := step_iff_moves.1 hnext
    rw [resume, hnext] at hend
    rcases List.mem_cons.1 hmem with rfl | hmem
    · exact ⟨⟨opened, found, agenda⟩, next, h, hmoves⟩
    · exact ih (.step (s := ⟨opened, found, agenda⟩) h hfits hmoves) (hmoves.agenda_subset hmem) hend
  | case3 opened found first agenda e herror =>
    rw [resume, herror] at hend
    cases hend

theorem fits_root (fs : FileSystem) (root : Path) : (Pending.directory root).fits fs root = true := by
  simp [Pending.fits]

/-- A search begins with the entries of its root. -/
theorem reached_entries (settings : Settings) (hlocate : fs.locate true root = .ok here)
    (hat : fs.at? here = some (.directory entries)) (hread : fs.mayRead here = true) :
    Reached fs settings root
      ⟨[here], .nothing, (sortedNames entries).map fun name => .entry (below root name)⟩ := by
  have hmoves : Moves fs settings (.directory root) ⟨[], .nothing, []⟩ _ :=
    .opens hlocate hat (by simp) hread
  simpa using Reached.step .start (fits_root fs root) hmoves

end Stage

/-! ## What is counted -/

/-- A script file that is come to as an entry is counted. -/
theorem isCounted_of_turn {met next : Stage}
    (hmet : Stage.Reached fs settings root { met with agenda := .entry path :: met.agenda })
    (hmoves : Stage.Moves fs settings (.entry path) met next)
    (hname : path.name ∉ settings.excludeDirs)
    (hleads : leadsTo fs settings.followLinks Entry.isDirectory path = .ok false)
    (hsource : isSourceName settings.sourceExtensions path.name = true) :
    IsCounted fs settings root path := by
  refine ⟨.entry path, met, next, hmet, Stage.step_of_moves rfl hmoves, rfl, ?_⟩
  -- Of all that can become of an entry, only judging it fits its name and what it leads to.
  cases hmoves with
  | excluded hname' => exact absurd hname' hname
  | unclear hname' hleads' | descends hname' hleads' =>
    rw [hleads] at hleads'
    cases hleads'
  | ignores hname' hleads' hsource' =>
    rw [hsource] at hsource'
    cases hsource'
  | judges hname' hleads' hsource' hjudges => cases hjudges <;> rfl

/-- What a search has made sure of when it counts a path. -/
theorem IsCounted.exists_counted (h : IsCounted fs settings root path) :
    ∃ s, Counted fs settings root path s := by
  obtain ⟨verdict, hmem, hcounts⟩ := Verdicts.mem_candidates.1 (mem_candidates_iff.2 h)
  obtain ⟨s, found, hcounted, -⟩ := exists_judges hmem hcounts
  exact ⟨s, hcounted⟩

/-- The candidates of a search make up the number that it has discovered. -/
theorem exists_candidates (hsound : fs.IsSound) {found : Search}
    (h : search fs settings root = .ok found) :
    ∃ candidates : List Path, found.discovered = candidates.length ∧ candidates.Nodup ∧
      ∀ path, path ∈ candidates ↔ IsCounted fs settings root path := by
  obtain ⟨last, hexplore, rfl⟩ := search_eq_ok_iff.1 h
  have haccounts := explore_accounts hsound hexplore
  refine ⟨(verdicts fs settings root).candidates, ?_, haccounts.nodup_candidates,
    fun path => mem_candidates_iff⟩
  rw [haccounts.found]
  rfl

/-! ## Entries of the root -/

theorem Search.below_inj {parent other : Path} {first second : String}
    (h : below parent first = below other second) : parent = other ∧ first = second := by
  obtain ⟨absolute, parts⟩ := parent
  obtain ⟨absolute', parts'⟩ := other
  obtain ⟨rfl, hparts⟩ := Path.mk.inj h
  obtain ⟨rfl, hnames⟩ := List.append_inj' hparts rfl
  exact ⟨rfl, List.singleton_inj.1 hnames⟩

/-- Whether a name in a directory is that of a source, and stands for no directory. -/
def IsSourceEntry (extensions : List String) (entries : List (String × Entry)) (name : String) :
    Prop :=
  isSourceName extensions name = true ∧ ∃ e, lookup? name entries = some e ∧ e.isDirectory = false

variable (hlocate : fs.locate true root = .ok here)
  (hat : fs.at? here = some (.directory entries)) (hfollow : settings.followLinks = false)

include hlocate hat hfollow

/-- With no link followed, an entry of the root is what its name stands for. -/
theorem leadsTo_entry {e : Entry} (hentry : lookup? name entries = some e) (kind : Entry → Bool) :
    leadsTo fs settings.followLinks kind (below root name) = .ok (kind e) := by
  refine leadsTo_of_listed ?_ (.inl hfollow) kind
  rw [listed_below hlocate, FileSystem.at?_name hat, hentry]

/-- A source in the root is counted by a search that returns. -/
theorem isCounted_of_isSourceEntry (hread : fs.mayRead here = true)
    (hkept : settings.excludeDirs = []) {last : Stage} (hlast : explore fs settings root = .ok last)
    (hname : IsSourceEntry settings.sourceExtensions entries name) :
    IsCounted fs settings root (below root name) := by
  obtain ⟨hsource, e, hentry, hno⟩ := hname
  have hreached := Stage.reached_entries settings hlocate hat hread
  have hmem : name ∈ sortedNames entries :=
    mem_sortedNames.2 (List.mem_map_of_mem (mem_of_lookup? hentry))
  -- The run goes on from the entries of the root to its end.
  have hend : Stage.resume fs settings root
      ⟨[here], .nothing, (sortedNames entries).map fun name => .entry (below root name)⟩
        = .ok last := by
    rw [← hreached.resume_eq, ← hlast, explore]
    split
    · rename_i hbroken
      rw [explore, if_pos hbroken] at hlast
      cases hlast
    · rfl
  obtain ⟨met, next, hmet, hmoves⟩ := hreached.exists_turn (List.mem_map_of_mem hmem) hend
  have hleads := leadsTo_entry hlocate hat hfollow hentry Entry.isDirectory
  rw [hno] at hleads
  exact isCounted_of_turn hmet hmoves (by simp [hkept]) hleads (by simpa using hsource)

/-- What is counted in the root is a source. -/
theorem isSourceEntry_of_isCounted (h : IsCounted fs settings root (below root name)) :
    IsSourceEntry settings.sourceExtensions entries name := by
  obtain ⟨s, hspot, -, hleads, hsource⟩ := h.exists_counted
  rw [name_below] at hsource
  obtain ⟨parent, other, there, through, hpath, htrail, ⟨others, hat', hmem⟩, -⟩ := hspot
  obtain ⟨rfl, rfl⟩ := below_inj hpath
  have hthere := htrail.locate_eq
  rw [hlocate, Except.ok.injEq] at hthere
  subst hthere
  rw [hat] at hat'
  cases hat'
  obtain ⟨e, hentry⟩ := exists_lookup? hmem
  rw [leadsTo_entry hlocate hat hfollow hentry, Except.ok.injEq] at hleads
  exact ⟨hsource, e, hentry, hleads⟩

/-! ## The directory that was chosen -/

omit hlocate hat hfollow

/-- A directory that can be listed is there, and may be read. -/
theorem FileSystem.exists_entries_of_names {directory : Path} {names : List String}
    (h : fs.names directory = .ok names) :
    ∃ here entries, fs.locate true directory = .ok here ∧
      fs.at? here = some (.directory entries) ∧ fs.mayRead here = true ∧
        names = entries.map (·.1) := by
  unfold FileSystem.names FileSystem.opened at h
  -- The names are there only if every step on the way to them succeeds.
  cases hlocate : fs.locate true directory with
  | error e => simp [hlocate] at h
  | ok here =>
    cases hread : fs.mayRead here with
    | false => simp [hlocate, hread] at h
    | true =>
      cases hat : fs.at? here with
      | none => simp [hlocate, hread, hat] at h
      | some e =>
        cases e with
        | directory entries =>
          exact ⟨here, entries, rfl, hat, hread, by simpa [hlocate, hread, hat, eq_comm] using h⟩
        | _ => simp [hlocate, hread, hat] at h

/-- **A search of the directory that was chosen counts a source there if some source by name is no
directory**, and only then, if it returns. -/
theorem Recognizer.isCounted_of_isChosen {r : Recognizer} {framework : String} {source : Path}
    (hsound : fs.IsSound) (hchosen : r.IsChosen fs root framework source)
    (hextensions : settings.sourceExtensions = r.extensions) (hkept : settings.excludeDirs = [])
    (hfollow : settings.followLinks = false) {found : Search}
    (hsearch : search fs settings source = .ok found) :
    ∃ (here : Location) (entries : List (String × Entry)) (candidates : List Path),
      fs.locate true source = .ok here ∧ fs.at? here = some (.directory entries) ∧
      (∃ name ∈ entries.map (·.1), isSourceName r.extensions name = true) ∧
      found.discovered = candidates.length ∧ candidates.Nodup ∧
      ∀ name, below source name ∈ candidates ↔ IsSourceEntry r.extensions entries name := by
  obtain ⟨names, -, -, ⟨hnames, hsource⟩, -, -⟩ := hchosen.shows
  obtain ⟨here, entries, hlocate, hat, hread, rfl⟩ := FileSystem.exists_entries_of_names hnames
  obtain ⟨last, hlast, -⟩ := search_eq_ok_iff.1 hsearch
  obtain ⟨candidates, hdiscovered, hnodup, hcounted⟩ := exists_candidates hsound hsearch
  refine ⟨here, entries, candidates, hlocate, hat, hsource, hdiscovered, hnodup, fun name => ?_⟩
  rw [hcounted, ← hextensions]
  constructor
  · exact isSourceEntry_of_isCounted hlocate hat hfollow
  · exact isCounted_of_isSourceEntry hlocate hat hfollow hread hkept hlast

/-! ## A directory with the name of a source -/

/-- A project in which the only source of a directory is one by its name. -/
def masked : FileSystem where
  entries := [("App.vue", .file []),
    ("src", .directory [("package.json", .file []), ("x.js", .directory [])])]
  room := 8

/-- Settings with the usual extensions of sources and nothing excluded. -/
def unexcluding : Settings :=
  { following with sourceExtensions := usualSourceExtensions, followLinks := false }

theorem isChosen_masked :
    Recognizer.usual.IsChosen masked ⟨true, []⟩ "react" ⟨true, ["src"]⟩ where
  comes := Recognizer.comesTo_cons_iff.2 (.inl rfl)
  whole := by decide
  shows := by
    have hnames : masked.names ⟨true, ["src"]⟩ = .ok ["package.json", "x.js"] := by cbv
    have hframework : frameworkOf? usualSignatures ["package.json", "x.js"] = some "react" := by
      decide
    obtain ⟨row, signature, hrow, hsame⟩ := frameworkOf?_eq_some_iff.1 hframework
    exact ⟨_, row, signature, ⟨hnames, "x.js", by decide, by decide⟩, hrow, hsame.symm⟩

/-- The directory is chosen, and nothing in it is counted. -/
theorem isCounted_of_isChosen_masked :
    masked.IsSound ∧ Recognizer.usual.IsChosen masked ⟨true, []⟩ "react" ⟨true, ["src"]⟩ ∧
      unexcluding.sourceExtensions = Recognizer.usual.extensions ∧ unexcluding.excludeDirs = [] ∧
      unexcluding.followLinks = false ∧
      ∃ (found : Search) (candidates : List Path),
        search masked unexcluding ⟨true, ["src"]⟩ = .ok found ∧
        found.discovered = candidates.length ∧ ∀ name, below ⟨true, ["src"]⟩ name ∉ candidates := by
  have hsound : masked.IsSound := by decide
  have hextensions : unexcluding.sourceExtensions = Recognizer.usual.extensions := rfl
  have hfinite : ¬unexcluding.IsBoundless := by
    rintro ⟨x, hx, -⟩
    cases hx
  obtain ⟨found, hsearch⟩ :=
    @search_returns masked unexcluding ⟨true, ["src"]⟩ rfl hfinite (.inl (by decide))
  obtain ⟨here, entries, candidates, hlocate, hat, -, hdiscovered, -, hcounted⟩ :=
    Recognizer.isCounted_of_isChosen hsound isChosen_masked hextensions rfl rfl hsearch
  refine ⟨hsound, isChosen_masked, hextensions, rfl, rfl, found, candidates, hsearch, hdiscovered,
    fun name hmem => ?_⟩
  obtain ⟨hname, e, hentry, hno⟩ := (hcounted name).1 hmem
  have hhere : masked.locate true ⟨true, ["src"]⟩ = .ok ["src"] := by cbv
  rw [hhere, Except.ok.injEq] at hlocate
  subst hlocate
  cases hat
  -- One name is not that of a source, and the other one stands for a directory.
  rcases List.mem_cons.1 (mem_of_lookup? hentry) with hpackage | hx
  · obtain ⟨rfl, -⟩ := Prod.mk.inj hpackage
    exact absurd hname (by decide)
  · obtain ⟨-, rfl⟩ := Prod.mk.inj (List.mem_singleton.1 hx)
    cases hno

end ScriptAudit
