import ScriptAudit.Proofs.ProjectReport
import ScriptAudit.Proofs.RunEnds

/-!
# What the excluded names keep out

Excluded names are kept out below the directory that is searched. Which directory that is, the
recogniser says, and it knows nothing of them.

- `Recognizer.root_of_profile`: the sources are in the root or below it under one of the candidates.
- `Walk.notMem`: no excluded name is walked.
- `IsOutside`: names that lead through no excluded directory.
- `Auditor.run_outside_iff`: **a file that is reported lies outside of all excluded directories of
  the project exactly if the directory with the sources does.**
-/

namespace ScriptAudit

variable {fs : FileSystem} {root : Path}

/-! ## The directory with the sources -/

namespace Recognizer

variable {r : Recognizer}

/-- A candidate that is no absolute path is looked for below the root. -/
theorem directory_eq {candidate : String} (hrelative : (Path.parse candidate).absolute = false) :
    directory root candidate = root.along (Path.parse candidate).parts := by
  unfold directory
  split
  · rename_i hempty
    subst hempty
    rw [show (Path.parse "").parts = [] from rfl, Path.along_nil]
  · rw [Path.under, Path.join, hrelative]
    rfl

/-- The sources are in the root or below it under one of the candidates. -/
theorem root_of_profile
    (hrelative : ∀ candidate ∈ r.candidates, (Path.parse candidate).absolute = false)
    {profile : Profile} (h : r.profile fs root = .ok profile) :
    ∃ stem, profile.root = root.along stem ∧
      (stem = [] ∨ ∃ candidate ∈ r.candidates, stem = (Path.parse candidate).parts) := by
  rcases root_of_profileAmong h with rfl | ⟨hmem, -⟩
  · exact ⟨[], (Path.along_nil root).symm, .inl rfl⟩
  · obtain ⟨candidate, hcandidate, heq⟩ := List.mem_map.1 hmem
    rw [directory_eq (hrelative candidate hcandidate)] at heq
    exact ⟨_, heq.symm, .inr ⟨candidate, hcandidate, rfl⟩⟩

end Recognizer

/-! ## The names below it -/

theorem Walk.notMem {excluded names : List String} (h : Walk fs excluded root names) :
    ∀ name ∈ names, name ∉ excluded := by
  induction h with
  | start => simp
  | enter _ _ _ hname ih =>
    intro name hmem
    rcases List.mem_append.1 hmem with hmem | hmem
    · exact ih name hmem
    · rw [List.mem_singleton.1 hmem]
      exact hname

/-- Whether names lead through no excluded directory. The last name is that of the file. -/
def IsOutside (excluded names : List String) : Prop :=
  ∀ directory ∈ names.dropLast, directory ∉ excluded

instance (excluded names : List String) : Decidable (IsOutside excluded names) :=
  inferInstanceAs (Decidable (∀ directory ∈ names.dropLast, directory ∉ excluded))

/-- Walked names lead through an excluded directory only if those before them do. -/
theorem Walk.isOutside_iff {excluded names : List String} (h : Walk fs excluded root names)
    (hne : names ≠ []) (stem : List String) :
    IsOutside excluded (stem ++ names) ↔ ∀ directory ∈ stem, directory ∉ excluded := by
  rw [IsOutside, List.dropLast_append_of_ne_nil hne]
  constructor
  · intro houtside directory hmem
    exact houtside directory (List.mem_append_left _ hmem)
  · intro hstem directory hmem
    rcases List.mem_append.1 hmem with hmem | hmem
    · exact hstem directory hmem
    · exact h.notMem directory ((List.dropLast_sublist names).subset hmem)

/-! ## Runs -/

/-- **Excluded names are kept out only below the directory with the sources.** The report is on one
directory, which is the root or one of the candidates below it. A file of the report was walked to
from there, and no name on that way is excluded. So it lies outside of all excluded directories of
the project exactly if no name of the candidate is excluded. -/
theorem Auditor.run_outside_iff {σ : Type} {a : Auditor} {listener : Option (Listener Int σ)}
    {timing : Timing} {state : σ} {r : ProjectReport} (hsound : fs.IsSound)
    (hrelative : ∀ candidate ∈ a.recognizer.candidates, (Path.parse candidate).absolute = false)
    (h : (a.run fs root listener timing state).1 = .ok r) :
    ∃ checked stem, fs.checkRoot root = .ok checked ∧
      a.recognizer.profile fs checked = .ok ⟨r.framework, checked.along stem⟩ ∧
      r.projectPath = (checked.along stem).text ∧
      (stem = [] ∨ ∃ candidate ∈ a.recognizer.candidates, stem = (Path.parse candidate).parts) ∧
      ∀ f ∈ r.files, ∃ names, names ≠ [] ∧ f.path = Path.joined names ∧
        Walk fs a.settings.excludeDirs (checked.along stem) names ∧
        (IsOutside a.settings.excludeDirs (stem ++ names) ↔
          ∀ directory ∈ stem, directory ∉ a.settings.excludeDirs) := by
  obtain ⟨checked, ⟨framework, source⟩, linter, last, reports, hchecked, hprofile, hexplore,
    hsublist, rfl⟩ := exists_of_run h
  obtain ⟨stem, rfl, hstem⟩ := Recognizer.root_of_profile hrelative hprofile
  refine ⟨checked, stem, hchecked, hprofile, rfl, hstem, fun f hf => ?_⟩
  obtain ⟨file, hfile, rfl⟩ := List.mem_map.1 (hsublist.subset hf)
  obtain ⟨names, hne, rfl, hwalk⟩ := exists_walk_of_explore hexplore hfile
  refine ⟨names, hne, ?_, hwalk, hwalk.isOutside_iff hne stem⟩
  rw [FileAuditor.path_report]
  exact relativeTo_along hne fun name hmem => (hwalk.isName hsound name hmem).1.2.1

/-! ## An excluded directory with the sources -/

/-- A project with its sources in a directory of their own. -/
def nested : FileSystem where
  entries := [("src", .directory [("a.js", .file [59]), ("package.json", .file [])])]
  room := 8

/-- The usual recogniser, with the directory of the sources excluded. -/
def excluding : Auditor :=
  { treeless with
    settings := { following with excludeDirs := ["src"] }
    recognizer := .usual }

theorem isSound_nested : nested.IsSound := by
  decide

theorem locate_nested_src : nested.locate true ⟨true, ["src"]⟩ = .ok ["src"] := by
  rw [FileSystem.locate_eq_locateFrom (by decide)]
  exact FileSystem.locateFrom_name rfl (by decide) rfl (by simp) true

theorem locate_nested {name : String} (h : name = "a.js" ∨ name = "package.json") :
    nested.locate true ⟨true, ["src", name]⟩ = .ok ["src", name] := by
  rw [FileSystem.locate_eq_locateFrom (by rcases h with rfl | rfl <;> decide)]
  show nested.locateFrom true FileSystem.linkLimit [] ["src", name] = _
  rw [FileSystem.locateFrom_entry rfl (by decide) rfl (by simp)]
  rcases h with rfl | rfl <;>
    exact FileSystem.locateFrom_name rfl (by decide) rfl (by simp) true

theorem profile_nested :
    excluding.recognizer.profile nested ⟨true, []⟩ = .ok ⟨"react", ⟨true, ["src"]⟩⟩ := by
  have hnames : nested.names ⟨true, ["src"]⟩ = .ok ["a.js", "package.json"] := by
    simp only [FileSystem.names, FileSystem.opened, locate_nested_src]
    rfl
  have hprofile : Recognizer.usual.profileAt? nested ⟨true, ["src"]⟩
      = some ⟨"react", ⟨true, ["src"]⟩⟩ := by
    rw [Recognizer.profileAt?, hnames]
    decide
  show Recognizer.usual.profileAmong nested _ (⟨true, ["src"]⟩ :: _) = _
  rw [Recognizer.profileAmong, if_neg (by decide), hprofile]

theorem explore_nested : explore nested excluding.settings ⟨true, ["src"]⟩
    = .ok ⟨[["src"]], ⟨[⟨true, ["src", "a.js"]⟩], 1, []⟩, []⟩ := by
  have hfile : nested.listed ⟨true, ["src", "a.js"]⟩ = some (.file [59]) :=
    Search.listed_below locate_nested_src "a.js"
  have hother : nested.listed ⟨true, ["src", "package.json"]⟩ = some (.file []) :=
    Search.listed_below locate_nested_src "package.json"
  have hentry : nested.entry true ⟨true, ["src", "a.js"]⟩ = .ok (.file [59]) := by
    simp only [FileSystem.entry, locate_nested (.inl rfl)]
    rfl
  -- The source is judged like any other file, although the name of its directory is excluded.
  have hjudges : Search.Judges nested excluding.settings ⟨true, ["src", "a.js"]⟩ .nothing
      ⟨[⟨true, ["src", "a.js"]⟩], 1, []⟩ :=
    .taken (Search.fileSize?_of_listed hfile hentry) rfl (by decide) (by decide)
  have hleads : ∀ {path : Path} {bytes : List UInt8}, nested.listed path = some (.file bytes) →
      Search.leadsTo nested excluding.settings.followLinks Entry.isDirectory path = .ok false :=
    fun hlisted => Search.leadsTo_of_listed hlisted (.inr rfl) Entry.isDirectory
  -- First the directory is opened, then its two entries are taken from the agenda.
  rw [explore, if_neg (by decide), Stage.start,
    Stage.resume_of_moves rfl (.opens locate_nested_src rfl (by simp) rfl),
    Search.sortedNames_of_pairwise (by decide)]
  show Stage.resume nested excluding.settings ⟨true, ["src"]⟩ ⟨[["src"]], ⟨[], 0, []⟩,
    [.entry ⟨true, ["src", "a.js"]⟩, .entry ⟨true, ["src", "package.json"]⟩]⟩ = _
  rw [Stage.resume_of_moves rfl (.judges (by decide) (hleads hfile) (by decide) hjudges),
    Stage.resume_of_moves rfl (.ignores (by decide) (hleads hother) (by decide)), Stage.resume]

/-- The directory with the sources is excluded and reported on all the same, with the file in it. -/
theorem run_outside_nested :
    nested.IsSound ∧
      (∀ candidate ∈ excluding.recognizer.candidates,
        (Path.parse candidate).absolute = false) ∧
      ∃ r, (excluding.run nested ⟨true, []⟩ none ended ()).1 = .ok r ∧ r.projectPath = "/src" ∧
        ∃ f ∈ r.files, ∃ names, f.path = Path.joined names ∧
          Walk nested ["src"] ⟨true, ["src"]⟩ names ∧ ¬IsOutside ["src"] ("src" :: names) := by
  have hrelative : ∀ candidate ∈ excluding.recognizer.candidates,
      (Path.parse candidate).absolute = false := by
    decide
  have hrun : ∃ r, (excluding.run nested ⟨true, []⟩ none ended ()).1 = .ok r ∧
      ∃ f, f ∈ r.files := by
    have hsearch : search nested excluding.settings ⟨true, ["src"]⟩
        = .ok ⟨[⟨true, ["src", "a.js"]⟩], 1, []⟩ := by
      rw [search, explore_nested]
      rfl
    simp only [Auditor.run, nested.checkRoot_top rfl rfl, profile_nested, hsearch]
    exact ⟨_, rfl, _, List.mem_singleton_self _⟩
  obtain ⟨r, hr, f, hf⟩ := hrun
  obtain ⟨checked, stem, hchecked, hprofile, hpath, -, houtside⟩ :=
    Auditor.run_outside_iff isSound_nested hrelative hr
  -- The names from the root to the sources are those of the candidate.
  rw [nested.checkRoot_top rfl rfl] at hchecked
  cases hchecked
  rw [profile_nested] at hprofile
  have hstem : stem = ["src"] := by
    have hroot : (⟨true, []⟩ : Path).along stem = ⟨true, ["src"]⟩ :=
      (congrArg Profile.root (Except.ok.inj hprofile)).symm
    exact congrArg Path.parts hroot
  subst hstem
  obtain ⟨names, -, hname, hwalk, hiff⟩ := houtside f hf
  refine ⟨isSound_nested, hrelative, r, hr, hpath, f, hf, names, hname, hwalk, ?_⟩
  show ¬IsOutside excluding.settings.excludeDirs (["src"] ++ names)
  rw [hiff]
  decide

end ScriptAudit
