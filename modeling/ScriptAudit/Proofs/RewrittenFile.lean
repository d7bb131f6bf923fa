import ScriptAudit.Proofs.EmptiedFiles
import ScriptAudit.Proofs.JobProgress

/-!
# What a rewritten file changes

Files are audited with the same detectors, parsers and linter one after the other, or several at a
time. Nothing of one file gets into the report on another: two runs on projects that differ in
nothing but the contents of one file, its tree and what the linter says of it give reports that
differ in nothing but the report on that file and what is summed up.

- `FileSystem.AgreeBut`: file systems that differ in nothing but the contents of one file.
  `FileSystem.Fits`: that file is no larger than the settings allow.
- `search_eq_of_agreeBut`: a search finds the same.
- `Auditor.AgreeBut`: auditors that differ in nothing but what they make of one file.
  `Auditor.report_agreeBut`: they report the same on every other file.
- `ProjectReport.AgreeBut`: reports that differ in nothing but the report on one file and the sums.
- `Auditor.run_agreeBut`: **the reports of both runs do**, and listeners hear the same.
-/

namespace ScriptAudit

variable {fs gs : FileSystem} {place : Location} {path : Path}

/-! ## File systems -/

namespace FileSystem

/-- File systems that differ in nothing but the contents of the file at one place: emptied of the
contents of all files they are the same, and every other file holds the same bytes in both. -/
structure AgreeBut (place : Location) (fs gs : FileSystem) : Prop where
  emptied : gs.emptied = fs.emptied
  bytes : ∀ here ≠ place, ∀ bytes,
    gs.at? here = some (.file bytes) ↔ fs.at? here = some (.file bytes)

/-- Whether the file at a place is no larger than settings allow. -/
def Fits (fs : FileSystem) (settings : Settings) (place : Location) : Prop :=
  ∀ bytes limit, fs.at? place = some (.file bytes) → settings.sizeLimit = .ok limit →
    (bytes.length : Int) ≤ limit

namespace AgreeBut

variable (h : AgreeBut place fs gs)

include h

theorem locate_eq (follow : Bool) (path : Path) : gs.locate follow path = fs.locate follow path := by
  rw [← locate_emptied gs, h.emptied, locate_emptied]

theorem checkRoot_eq (root : Path) : gs.checkRoot root = fs.checkRoot root := by
  rw [← checkRoot_emptied gs, h.emptied, checkRoot_emptied]

theorem profile_eq (r : Recognizer) (root : Path) : r.profile gs root = r.profile fs root := by
  rw [← Recognizer.profile_emptied r gs, h.emptied, Recognizer.profile_emptied]

theorem mayRead_eq (here : Location) : gs.mayRead here = fs.mayRead here := by
  rw [← mayRead_emptied gs, h.emptied, mayRead_emptied]

theorem room_eq : gs.room = fs.room :=
  show gs.emptied.room = fs.emptied.room by rw [h.emptied]

/-- What is at a location is of the same kind in both. -/
theorem map_emptied_eq (here : Location) :
    (gs.at? here).map Entry.emptied = (fs.at? here).map Entry.emptied := by
  rw [← at?_emptied, ← at?_emptied, h.emptied]

/-- A path that leads elsewhere is read alike. -/
theorem read_eq (hother : fs.locate true path ≠ .ok place) : gs.read path = fs.read path := by
  have hlocate := h.locate_eq true path
  cases hpath : fs.locate true path with
  | error e => simp only [read, opened, hlocate, hpath]
  | ok here =>
    have hne : here ≠ place := by
      rintro rfl
      exact hother hpath
    have hkind := h.map_emptied_eq here
    simp only [read, opened, hlocate, hpath, h.mayRead_eq]
    cases hat : fs.at? here with
    | none =>
      have hnone : gs.at? here = none := by simpa [hat] using hkind
      simp only [hnone]
    | some e =>
      cases e with
      | file bytes => simp only [(h.bytes here hne bytes).2 hat]
      | _ =>
        -- Anything but a file is of the same kind in both, which is all that reading it tells.
        rw [hat, Option.map_some, Option.map_eq_some_iff] at hkind
        obtain ⟨e, hat', hemptied⟩ := hkind
        cases hread : fs.mayRead here <;> cases e <;> simp_all

/-- What a path leads to has the same size in both, unless that is the file at the place. -/
theorem map_size_entry (path : Path) :
    (gs.entry true path).map Entry.size = (fs.entry true path).map Entry.size ∨
      ∃ bytes others, fs.at? place = some (.file bytes) ∧ gs.at? place = some (.file others) ∧
        fs.entry true path = .ok (.file bytes) ∧ gs.entry true path = .ok (.file others) := by
  have hlocate := h.locate_eq true path
  cases hpath : fs.locate true path with
  | error e => exact .inl (by simp only [entry, hlocate, hpath])
  | ok here =>
    -- The two systems differ in the bytes of one file only, so the path leads to entries of one
    -- kind.
    have hkind := h.map_emptied_eq here
    simp only [entry, hlocate, hpath]
    cases hat : fs.at? here with
    | none =>
      have hnone : gs.at? here = none := by simpa [hat] using hkind
      exact .inl (by simp only [hnone])
    | some e =>
      rw [hat, Option.map_some, Option.map_eq_some_iff] at hkind
      obtain ⟨e', hat', hemptied⟩ := hkind
      rw [hat']
      cases e with
      | file bytes =>
        cases e' with
        | file others =>
          by_cases hplace : here = place
          · subst hplace
            exact .inr ⟨bytes, others, hat, hat', rfl, rfl⟩
          · have hsame := (h.bytes here hplace bytes).2 hat
            rw [hat'] at hsame
            exact .inl (by rw [Option.some.inj hsame])
        | _ => cases hemptied
      | _ => exact .inl (by cases e' <;> simp_all [Entry.size, Except.map])

end AgreeBut

end FileSystem

/-! ## Searching -/

section Searching

variable {settings : Settings}

namespace Search

/-- Of a size nothing counts but whether it is within the limit. -/
theorem takeIn_eq_of_le {size other : Nat}
    (hsize : ∀ limit, settings.sizeLimit = .ok limit → (size : Int) ≤ limit)
    (hother : ∀ limit, settings.sizeLimit = .ok limit → (other : Int) ≤ limit) (path : Path)
    (s : Search) : takeIn settings other path s = takeIn settings size path s := by
  rw [takeIn, takeIn]
  cases hlimit : settings.sizeLimit with
  | error e => rfl
  | ok limit =>
    have hle := Int.not_lt.2 (hsize limit hlimit)
    have hle' := Int.not_lt.2 (hother limit hlimit)
    simp only [Except.map, hle, hle', if_false]

end Search

variable (h : FileSystem.AgreeBut place fs gs)

include h

namespace Search

theorem leadsTo_eq_of_agreeBut {kind : Entry → Bool} (hkind : Entry.IsBlind kind) (follow : Bool)
    (path : Path) : leadsTo gs follow kind path = leadsTo fs follow kind path := by
  rw [← leadsTo_emptied hkind gs, h.emptied, leadsTo_emptied hkind]

theorem isLink_eq_of_agreeBut (path : Path) : isLink gs path = isLink fs path := by
  rw [← isLink_emptied gs, h.emptied, isLink_emptied]

theorem consider_eq_of_agreeBut (hfits : fs.Fits settings place) (hfits' : gs.Fits settings place)
    (path : Path) (s : Search) : consider gs settings path s = consider fs settings path s := by
  have hleads := leadsTo_eq_of_agreeBut h Entry.isBlind_isFile true path
  -- What is asked of both is whether there is a file and how large it is.
  simp only [consider, fileSize?, hleads, isLink_eq_of_agreeBut h path]
  cases hfile : leadsTo fs true Entry.isFile path with
  | error e => rfl
  | ok isFile =>
    cases isFile with
    | false => rfl
    | true =>
      rcases h.map_size_entry path with hsame | ⟨bytes, others, hat, hat', hentry, hentry'⟩
      · have hsize : ∀ {e e' : Except AccessError Entry},
            e'.map Entry.size = e.map Entry.size →
              (e'.map fun e => some e.size) = e.map fun e => some e.size := by
          intro e e' heq
          cases e <;> cases e' <;> simp_all [Except.map]
        simp only [hsize hsame]
      · -- Both versions of the file are within the limit.
        simp only [hentry, hentry', Except.map, Entry.size]
        exact takeIn_eq_of_le (fun limit hlimit => hfits bytes limit hat hlimit)
          (fun limit hlimit => hfits' others limit hat' hlimit) _ _

end Search

namespace Stage

/-- A step comes to the same. -/
theorem step_eq_of_agreeBut (hfits : fs.Fits settings place) (hfits' : gs.Fits settings place)
    (root : Path) (item : Search.Pending) (s : Stage) :
    s.step gs settings root item = s.step fs settings root item := by
  cases item with
  | directory path =>
    have henter : s.enter gs path = s.enter fs path := by
      rw [← enter_emptied gs, h.emptied, enter_emptied]
    simp only [step, look, fits_congr h.room_eq, henter]
  | entry path =>
    simp only [step_entry, lookAt, Search.consider_eq_of_agreeBut h hfits hfits',
      Search.leadsTo_eq_of_agreeBut h Entry.isBlind_isDirectory]

end Stage

/-- A search finds the same files, and gives the same warnings. -/
theorem search_eq_of_agreeBut (hfits : fs.Fits settings place) (hfits' : gs.Fits settings place)
    (root : Path) : search gs settings root = search fs settings root := by
  rw [search, search, explore, explore,
    Stage.resume_congr (Stage.step_eq_of_agreeBut h hfits hfits' root)]

end Searching

/-! ## Auditing other files -/

/-- Linters that say the same of every path but one, or are not to be had for the same reason. -/
inductive Linter.AgreeBut (shown : String) : Except Failure Linter → Except Failure Linter → Prop
  | refused (e : Failure) : AgreeBut shown (.error e) (.error e)
  | given {l m : Linter}
    (hlint : ∀ source path, path ≠ shown → m.lint source path = l.lint source path) :
    AgreeBut shown (.ok l) (.ok m)

/-- Auditors that differ in nothing but what they make of one file: its tree, and what the linter
says of the path under which it is reported. They may complete files in different orders. -/
structure Auditor.AgreeBut (file : Path) (shown : String) (a b : Auditor) : Prop where
  settings : b.settings = a.settings
  recognizer : b.recognizer = a.recognizer
  detectors : b.detectors = a.detectors
  complexity : b.complexity = a.complexity
  parser : ∀ other ≠ file, b.parser other = a.parser other
  linter : ∀ framework, Linter.AgreeBut shown (a.linter framework) (b.linter framework)

/-- Reports on files that are the same, unless they are on one path. -/
structure FileReport.AgreeBut (shown : String) (r s : FileReport) : Prop where
  path : s.path = r.path
  other : r.path ≠ shown → s = r

namespace Auditor

variable {a b : Auditor} {file root : Path} {shown : String}

/-- What is to be audited is the same, with linters that agree. -/
theorem prepare_of_agreeBut (hsystems : FileSystem.AgreeBut place fs gs)
    (hauditors : Auditor.AgreeBut file shown a b)
    (hfits : fs.Fits a.settings place) (hfits' : gs.Fits a.settings place) {profile : Profile}
    {linter : Linter} {found : Search} (h : a.prepare fs root = .ok (profile, linter, found)) :
    ∃ other, b.prepare gs root = .ok (profile, other, found) ∧
      ∀ source path, path ≠ shown → other.lint source path = linter.lint source path := by
  obtain ⟨checked, hchecked, hprofile, hlinter, hsearch⟩ := prepare_eq_ok_iff.1 h
  obtain ⟨other, hlinter', hlint⟩ : ∃ other, b.linter profile.framework = .ok other ∧
      ∀ source path, path ≠ shown → other.lint source path = linter.lint source path := by
    have hlinters := hauditors.linter profile.framework
    rw [hlinter] at hlinters
    generalize b.linter profile.framework = given at hlinters ⊢
    cases hlinters with
    | given hlint => exact ⟨_, rfl, hlint⟩
  refine ⟨other, prepare_eq_ok_iff.2 ⟨checked, ?_, ?_, hlinter', ?_⟩, hlint⟩
  · rw [hsystems.checkRoot_eq, hchecked]
  · rw [hauditors.recognizer, hsystems.profile_eq, hprofile]
  · rw [hauditors.settings, search_eq_of_agreeBut hsystems hfits hfits', hsearch]

/-- Whether of the paths that a run audits no other than one leads to a place. That one is reported
under the text given. -/
def ReachesOnce (a : Auditor) (fs : FileSystem) (root : Path) (place : Location) (file : Path)
    (shown : String) : Prop :=
  ∀ profile linter found, a.prepare fs root = .ok (profile, linter, found) →
    file.relativeTo profile.root = shown ∧
      ∀ other ∈ found.files, fs.locate true other = .ok place → other = file

/-- The reports on a file agree: it is another one and leads elsewhere, or it is reported under the
path of the one that differs. -/
theorem report_agreeBut (hsystems : FileSystem.AgreeBut place fs gs)
    (hauditors : Auditor.AgreeBut file shown a b) {linter other : Linter}
    (hlint : ∀ source path, path ≠ shown → other.lint source path = linter.lint source path)
    (hshown : file.relativeTo root = shown)
    (honce : fs.locate true path = .ok place → path = file) :
    FileReport.AgreeBut shown ((a.fileAuditor linter).report fs root path)
      ((b.fileAuditor other).report gs root path) := by
  constructor
  case path => rw [FileAuditor.path_report, FileAuditor.path_report]
  case other =>
    intro hne
    rw [FileAuditor.path_report] at hne
    have hfile : path ≠ file := by
      rintro rfl
      exact hne hshown
    -- The path leads elsewhere, so the same bytes are read.
    have hread : gs.read path = fs.read path :=
      hsystems.read_eq fun hplace => hfile (honce hplace)
    refine FileAuditor.report_congr hread (hauditors.parser path hfile) fun bytes _ d _ _ => ?_
    have hissues : other.issues (Utf8.decode bytes) (path.relativeTo root)
        = linter.issues (Utf8.decode bytes) (path.relativeTo root) := by
      rw [Linter.issues, Linter.issues, hlint _ _ hne]
    simp only [FileAuditor.parsed, fileAuditor, hissues, hauditors.detectors,
      hauditors.complexity]

end Auditor

/-- Reports on projects that differ in nothing but the report on one file and what is summed up from
it. -/
structure ProjectReport.AgreeBut (shown : String) (r s : ProjectReport) : Prop where
  projectPath : s.projectPath = r.projectPath
  framework : s.framework = r.framework
  totalFiles : s.totalFiles = r.totalFiles
  analyzedFiles : s.analyzedFiles = r.analyzedFiles
  warnings : s.warnings = r.warnings
  files : List.Forall₂ (FileReport.AgreeBut shown) r.files s.files
  issues : r.issues = r.files.flatMap (·.issues) ∧ s.issues = s.files.flatMap (·.issues)

/-- **Nothing of one file gets into the report on another.** If two projects differ in nothing but
the contents of one file, its tree and what the linter says of it, and the file is within the size
limit and found under one path only, then with the run on the one project the run on the other gives
a report as well, in parallel or not and whatever is completed first. Both reports have the same
number of files in the same order, the same warnings and the same reports on all other files, and
listeners hear the same. -/
theorem Auditor.run_agreeBut {σ : Type} {a b : Auditor} {root file : Path} {shown : String}
    {listener : Option (Listener Int σ)} {timing later : Timing} {state heard : σ}
    {r : ProjectReport} (hsystems : FileSystem.AgreeBut place fs gs)
    (hauditors : Auditor.AgreeBut file shown a b)
    (hfits : fs.Fits a.settings place) (hfits' : gs.Fits a.settings place)
    (honce : a.ReachesOnce fs root place file shown)
    (hcompletion : a.settings.isParallel = true →
      ∀ count, (a.completion count).Perm (List.range count) ∧
        (b.completion count).Perm (List.range count))
    (h : a.run fs root listener timing state = (.ok r, heard)) :
    ∃ s, b.run gs root listener later state = (.ok s, heard) ∧ ProjectReport.AgreeBut shown r s := by
  cases hprepare : a.prepare fs root with
  | error e =>
    rw [run_eq_prepare, hprepare] at h
    cases h
  | ok prepared =>
    obtain ⟨profile, linter, found⟩ := prepared
    obtain ⟨hshown, hother⟩ := honce profile linter found hprepare
    obtain ⟨other, hprepare', hlint⟩ := prepare_of_agreeBut hsystems hauditors hfits hfits' hprepare
    -- Whatever is completed first, both runs report on the files found in their order.
    rw [run_of_prepare hprepare fun hparallel count => (hcompletion hparallel count).1] at h
    obtain ⟨hr, rfl⟩ := Prod.mk.inj h
    obtain rfl := Except.ok.inj hr
    refine ⟨_, run_of_prepare hprepare' fun hparallel count =>
      (hcompletion (hauditors.settings ▸ hparallel) count).2, ?_⟩
    constructor
    case files =>
      show List.Forall₂ _ (found.files.map _) (found.files.map _)
      rw [List.forall₂_map_left_iff, List.forall₂_map_right_iff, List.forall₂_same]
      intro path hpath
      exact report_agreeBut hsystems hauditors hlint hshown (hother path hpath)
    case analyzedFiles =>
      show ((found.files.map _).length : Int) = (found.files.map _).length
      rw [List.length_map, List.length_map]
    case issues => exact ⟨rfl, rfl⟩
    all_goals rfl

/-! ## One of two files -/

/-- The pair of files, of which the first was written anew. -/
def rewritten : FileSystem where
  entries := [("a.js", .file [59, 10, 59]), ("b.js", .file [59])]
  room := 8

/-- The two workers, of which the first is done first this time. For the first file they have no
grammar, and its linter fails. -/
def repaired : Auditor :=
  { paired with
    parser := fun path =>
      if path = ⟨true, ["a.js"]⟩ then ⟨[], fun _ _ => none⟩ else paired.parser path
    linter := fun _ => .ok ⟨fun _ path => if path = "a.js" then .error .brokenPath else .ok []⟩
    completion := List.range }

theorem agreeBut_rewritten : FileSystem.AgreeBut ["a.js"] pair rewritten := by
  constructor
  case emptied => simp [FileSystem.emptied, Entry.emptiedIn, Entry.emptied, pair, rewritten]
  case bytes =>
    intro here hne bytes
    cases here with
    | nil => simp [FileSystem.at?, FileSystem.root, Entry.at?]
    | cons name names =>
      by_cases hfirst : "a.js" = name
      · subst hfirst
        -- Below the first file there is nothing.
        cases names with
        | nil => exact absurd rfl hne
        | cons => simp [FileSystem.at?, FileSystem.root, Entry.at?, lookup?, pair, rewritten]
      · simp [FileSystem.at?, FileSystem.root, Entry.at?, lookup?, pair, rewritten, hfirst]

theorem agreeBut_repaired :
    Auditor.AgreeBut ⟨true, ["a.js"]⟩ "a.js" paired repaired := by
  constructor
  case parser =>
    intro other hne
    exact if_neg hne
  case linter =>
    intro framework
    refine .given fun source path hne => ?_
    exact if_neg hne
  all_goals rfl

/-- The file written anew is found once, and both versions of it are small. -/
theorem run_agreeBut_pair :
    FileSystem.AgreeBut ["a.js"] pair rewritten ∧
      Auditor.AgreeBut ⟨true, ["a.js"]⟩ "a.js" paired repaired ∧
      pair.Fits paired.settings ["a.js"] ∧ rewritten.Fits paired.settings ["a.js"] ∧
      paired.ReachesOnce pair ⟨true, []⟩ ["a.js"] ⟨true, ["a.js"]⟩ "a.js" ∧
      (∀ count, (paired.completion count).Perm (List.range count) ∧
        (repaired.completion count).Perm (List.range count)) ∧
      ∃ r s heard, paired.run pair ⟨true, []⟩ (some recorder) ended [] = (.ok r, heard) ∧
        repaired.run rewritten ⟨true, []⟩ (some recorder) ended [] = (.ok s, heard) ∧
        r.analyzedFiles = 2 ∧ ProjectReport.AgreeBut "a.js" r s := by
  -- Three bytes are far within the limit, whichever version is read.
  have hfits : ∀ (fs : FileSystem) (bytes : List UInt8),
      fs.at? ["a.js"] = some (.file bytes) → bytes.length ≤ 3 →
        fs.Fits paired.settings ["a.js"] := by
    intro fs bytes hat hsmall other limit hother hlimit
    rw [hat] at hother
    cases hother
    have hlimit' : paired.settings.sizeLimit = .ok 5242880 := rfl
    rw [hlimit'] at hlimit
    cases hlimit
    omega
  -- Only one of the two files found leads to the place of the one that was written anew.
  have honce : paired.ReachesOnce pair ⟨true, []⟩ ["a.js"] ⟨true, ["a.js"]⟩ "a.js" := by
    intro profile linter found hprepare
    rw [prepare_pair] at hprepare
    cases hprepare
    refine ⟨by decide, ?_⟩
    intro other hother hplace
    rcases List.mem_pair.1 hother with rfl | rfl
    · rfl
    · rw [locate_pair (.inr rfl)] at hplace
      exact absurd (Except.ok.inj hplace) (by decide)
  have hcompletion : ∀ count, (paired.completion count).Perm (List.range count) ∧
      (repaired.completion count).Perm (List.range count) :=
    fun count => ⟨List.reverse_perm _, List.Perm.refl _⟩
  obtain ⟨r, hresult, hfiles⟩ := audit_pair
  have hrun := paired.run_eq_audit pair ⟨true, []⟩ (some recorder) ended []
  rw [hresult] at hrun
  have hsmall := hfits pair [59] rfl (by decide)
  have hsmall' := hfits rewritten [59, 10, 59] rfl (by decide)
  obtain ⟨s, hrun', hagree⟩ := Auditor.run_agreeBut agreeBut_rewritten agreeBut_repaired
    hsmall hsmall' honce (fun _ => hcompletion) hrun
  exact ⟨agreeBut_rewritten, agreeBut_repaired, hsmall, hsmall', honce, hcompletion, r, s, _, hrun,
    hrun', hfiles, hagree⟩

end ScriptAudit
