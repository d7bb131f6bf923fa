import Mathlib.Algebra.Ring.Int.Defs
import ScriptAudit.Proofs.CompletionOrder
import ScriptAudit.Proofs.FallibleSteps
import ScriptAudit.Proofs.FileShape
import ScriptAudit.Proofs.ReportedPath
import ScriptAudit.Proofs.RunEnds
import ScriptAudit.Proofs.SettingDemands
import ScriptAudit.Rule.Builtin

/-!
# What a report on a project says

A report on a project is made from the reports on its files, and everything in it agrees with them.

- `Detector.Labels`: a detector that reports every issue under the path it is given. The built-in
  ones do (`Detector.builtin_labels`).
- `Breakdown.count_ofReports`, `Number.total_eq`: the counts and the sums.
- `Auditor.prepare`: what a run of an auditor needs before it audits the first file, and
  `Auditor.prepare_eq_ok_iff`: when it gets all of it. `Auditor.run_eq_prepare` takes a run apart
  there.
- `Auditor.exists_of_run`: what a run goes through before it gives a report.
- `ProjectReport.Consistent`: the number of files, their paths, their issues and their sums.
- `Auditor.run_consistent`: **every report that a run gives is consistent.**
-/

namespace ScriptAudit

variable {σ : Type}

/-! ## Labels -/

/-- Whether a detector reports every issue under the path it is given. -/
def Detector.Labels (detector : Detector) : Prop :=
  ∀ d path, ∀ issue ∈ (detector.detect d path).issues, issue.filePath = path

theorem Family.labels (family : Family) : family.detector.Labels := by
  intro d path issue hmem
  obtain ⟨finding, -, rfl⟩ := List.mem_map.1 hmem
  rfl

theorem Detector.builtin_labels (longest : Number) :
    ∀ detector ∈ Detector.builtin longest, detector.Labels := by
  intro detector hmem
  obtain ⟨family, -, rfl⟩ := List.mem_map.1 hmem
  exact family.labels

/-- A linter's issues are those of the file that it looked at, whatever it says about them. -/
theorem Linter.filePath_of_mem_issues {linter : Linter} {source : List Char} {path : String}
    {issue : Issue} (h : issue ∈ linter.issues source path) : issue.filePath = path := by
  unfold Linter.issues at h
  split at h
  · obtain ⟨message, -, rfl⟩ := List.mem_map.1 h
    rfl
  · cases h

namespace FileAuditor

variable {a : FileAuditor} {fs : FileSystem} {root file : Path}

theorem path_report (a : FileAuditor) (fs : FileSystem) (root file : Path) :
    (a.report fs root file).path = file.relativeTo root := by
  obtain ⟨shape, hcame⟩ := a.exists_came fs root file
  generalize a.report fs root file = r at hcame
  cases hcame <;> rfl

/-- Every issue of a report on a file is one of that file. -/
theorem filePath_report (hlabels : ∀ detector ∈ a.detectors, detector.Labels) :
    ∀ issue ∈ (a.report fs root file).issues, issue.filePath = (a.report fs root file).path := by
  rw [path_report]
  -- An unreadable file and a refused text give one issue, which is made for the file.
  cases hread : fs.read file with
  | error e =>
    rw [report_of_error hread]
    intro issue hmem
    rw [List.mem_singleton.1 hmem]
    rfl
  | ok bytes =>
    rw [report_of_ok hread]
    cases hparse : parse (a.parser file) (file.relativeTo root) (Utf8.decode bytes) with
    | refused message line column =>
      rw [reportText_of_refused hparse]
      intro issue hmem
      rw [List.mem_singleton.1 hmem]
      rfl
    | parsed grammar d =>
      rw [reportText_of_parsed hparse]
      intro issue hmem
      -- The linter gives its messages the file's path; the detectors do so by hypothesis.
      rcases List.mem_append.1 hmem with hlinted | hdetected
      · exact Linter.filePath_of_mem_issues hlinted
      · obtain ⟨detector, hdetector, hissue⟩ := List.mem_flatMap.1 hdetected
        exact hlabels detector hdetector d _ issue hissue

end FileAuditor

/-! ## Counts -/

theorem Breakdown.count_ofReports (reports : List FileReport) (severity : Severity) :
    (Breakdown.ofReports reports).count severity
      = (reports.flatMap (·.issues)).countP (·.severity == severity) := by
  have hcount : (Breakdown.ofReports reports).count severity
      = Breakdown.countIn reports severity := by
    cases severity <;> rfl
  rw [hcount]
  induction reports with
  | nil => rfl
  | cons r reports ih =>
    rw [List.flatMap_cons, List.countP_append, ← ih (by cases severity <;> rfl)]
    rfl

/-- Every issue has one of the severities. -/
theorem countP_severities (issues : List Issue) :
    issues.countP (·.severity == .error) + issues.countP (·.severity == .warning)
      + issues.countP (·.severity == .info) = issues.length := by
  induction issues with
  | nil => rfl
  | cons issue issues ih =>
    simp only [List.countP_cons, List.length_cons]
    cases issue.severity <;> simp <;> omega

/-! ## Sums -/

/-- What is counted, an unknown count being zero. -/
def countOf (count : Option Number) : Int :=
  (count.bind Number.whole?).getD 0

/-- The sum of whole numbers is a whole number. -/
theorem Number.total_eq {numbers : List Number} (h : ∀ n ∈ numbers, ∃ k, n = .whole k) :
    Number.total numbers = .whole (numbers.map fun n => countOf (some n)).sum := by
  -- The sum is built up from the left, so that its start varies.
  have hfold : ∀ {numbers : List Number}, (∀ n ∈ numbers, ∃ k, n = .whole k) → ∀ start : Int,
      numbers.foldl Number.add (.whole start)
        = .whole (start + (numbers.map fun n => countOf (some n)).sum) := by
    intro numbers
    induction numbers with
    | nil => simp
    | cons n numbers ih =>
      intro h start
      obtain ⟨⟨k, rfl⟩, hrest⟩ := List.forall_mem_cons.1 h
      rw [List.foldl_cons, List.map_cons, List.sum_cons, ← Int.add_assoc]
      exact ih hrest (start + k)
  rw [Number.total, hfold h, Int.zero_add]

/-- Whether every count that is known is a whole number. -/
def FileReport.IsCounted (r : FileReport) : Prop :=
  (∃ k, r.metrics.lines = .whole k) ∧
    ∀ count ∈ [r.metrics.complexity, r.metrics.functions, r.metrics.classes, r.metrics.imports],
      count = none ∨ ∃ k, count = some (.whole k)

theorem FileReport.HasShape.isCounted {r : FileReport} {shape : FileShape} (h : r.HasShape shape) :
    r.IsCounted := by
  cases shape with
  | unreadable =>
    obtain ⟨-, hmetrics⟩ := h
    simp [FileReport.IsCounted, hmetrics]
  | unparsed =>
    obtain ⟨-, lines, -, hmetrics⟩ := h
    simp [FileReport.IsCounted, hmetrics]
  | parsed =>
    obtain ⟨lines, complexity, functions, classes, imports, hmetrics⟩ := h
    simp [FileReport.IsCounted, hmetrics]

/-- What a known count adds to a sum is the count. -/
theorem ProjectMetrics.share_eq {count : Option Number}
    (h : count = none ∨ ∃ k, count = some (.whole k)) :
    ProjectMetrics.share count = .whole (countOf count) := by
  rcases h with rfl | ⟨k, rfl⟩
  · rfl
  · by_cases hzero : k = 0
    · subst hzero
      rfl
    · simp [share, Number.equals, Number.compareBy, hzero, countOf, Number.whole?]

theorem ProjectMetrics.totalLines_eq {reports : List FileReport}
    (h : ∀ r ∈ reports, r.IsCounted) :
    totalLines reports = .whole (reports.map fun r => countOf (some r.metrics.lines)).sum := by
  rw [totalLines, Number.total_eq, List.map_map]
  · rfl
  · intro n hmem
    obtain ⟨r, hr, rfl⟩ := List.mem_map.1 hmem
    exact (h r hr).1

theorem ProjectMetrics.total_eq {reports : List FileReport} {measure : FileMetrics → Option Number}
    (h : ∀ r ∈ reports, measure r.metrics = none ∨ ∃ k, measure r.metrics = some (.whole k)) :
    total reports measure = .whole (reports.map fun r => countOf (measure r.metrics)).sum := by
  have hshares : (reports.map fun r => share (measure r.metrics))
      = reports.map fun r => .whole (countOf (measure r.metrics)) :=
    List.map_congr_left fun r hr => share_eq (h r hr)
  rw [total, hshares, Number.total_eq, List.map_map]
  · rfl
  · intro n hmem
    obtain ⟨r, -, rfl⟩ := List.mem_map.1 hmem
    exact ⟨_, rfl⟩

/-! ## Limits -/

theorem Number.number?_toValue (n : Number) : n.toValue.number? = some n := by
  cases n <;> rfl

/-- Settings that are accepted allow at least one file. -/
theorem Settings.isBelow_of_isAccepted {settings : Settings} (h : settings.isAccepted = true) :
    settings.maxFiles.isBelow 1 = false := by
  obtain ⟨⟨⟩, hcheck⟩ := isOk_iff_exists.1 h
  obtain ⟨n, hn, hbelow⟩ : (settings.draft .maxFiles).IsNumber (!·.isBelow 1) :=
    Draft.check_eq_ok_iff.1 hcheck .maxFiles
  obtain rfl : settings.maxFiles = n :=
    Option.some.inj ((Number.number?_toValue settings.maxFiles).symm.trans hn)
  rwa [Bool.not_eq_true'] at hbelow

/-- No more than a whole number of files are found if there is always room for one more. -/
theorem Search.Within.length_le {settings : Settings} {s : Search} (h : s.Within settings)
    (haccepted : settings.isAccepted = true) {limit : Int}
    (hlimit : settings.maxFiles.whole? = some limit) : (s.files.length : Int) ≤ limit := by
  have hbelow := Settings.isBelow_of_isAccepted haccepted
  rw [Number.isBelow, Number.compareBy_of_whole? hlimit, decide_eq_false_iff_not] at hbelow
  -- With one file more there was room when there were already as many as are allowed.
  by_contra hmore
  have hroom := h.2 limit.toNat (by omega)
  rw [Number.isAtMost, Number.compareBy_of_whole? hlimit, decide_eq_false_iff_not] at hroom
  omega

/-! ## Runs -/

namespace Auditor

variable {a : Auditor} {fs : FileSystem} {root : Path} {listener : Option (Listener Int σ)}
  {timing : Timing} {state : σ} {r : ProjectReport}

/-- The reports are among those on the files, in the order of the files, whatever was completed and
in whatever order. -/
theorem reports_sublist (a : Auditor) (fs : FileSystem) (root : Path) (linter : Linter)
    (listener : Option (Listener Int σ)) (files : List Path) (state : σ) :
    (a.reports fs root linter listener files state).1.Sublist
      (files.map ((a.fileAuditor linter).report fs root)) := by
  unfold reports
  split
  · rw [bySlots_eq]
    exact slotsOf_sublist _ _ _
  · rw [inOrder_eq]

/-- What a run needs before it audits the first file: where the sources are, a linter for them, and
the files. -/
def prepare (a : Auditor) (fs : FileSystem) (root : Path) :
    Except Failure (Profile × Linter × Search) :=
  match fs.checkRoot root with
  | .error e => .error e
  | .ok root =>
    match a.recognizer.profile fs root with
    | .error e => .error e
    | .ok profile =>
      match a.linter profile.framework, search fs a.settings profile.root with
      | .error e, _ | .ok _, .error e => .error e
      | .ok linter, .ok found => .ok (profile, linter, found)

/-- The steps one after the other, each with what the one before it gave. -/
theorem prepare_eq (a : Auditor) (fs : FileSystem) (root : Path) :
    a.prepare fs root = do
      let checked ← fs.checkRoot root
      let profile ← a.recognizer.profile fs checked
      let linter ← a.linter profile.framework
      let found ← search fs a.settings profile.root
      return (profile, linter, found) := by
  unfold prepare
  cases fs.checkRoot root with
  | error e => rfl
  | ok checked =>
    dsimp only [bind, Except.bind]
    cases a.recognizer.profile fs checked with
    | error e => rfl
    | ok profile =>
      dsimp only
      cases a.linter profile.framework with
      | error e => rfl
      | ok linter => cases search fs a.settings profile.root <;> rfl

/-- A run is prepared exactly if it gets through all of it. -/
theorem prepare_eq_ok_iff {profile : Profile} {linter : Linter} {found : Search} :
    a.prepare fs root = .ok (profile, linter, found) ↔
      ∃ checked, fs.checkRoot root = .ok checked ∧
        a.recognizer.profile fs checked = .ok profile ∧
        a.linter profile.framework = .ok linter ∧ search fs a.settings profile.root = .ok found := by
  simp only [prepare_eq, bind_eq_ok_iff, pure, Except.pure, Except.ok.injEq, Prod.mk.injEq]
  constructor
  · rintro ⟨checked, hchecked, _, hprofile, _, hlinter, _, hsearch, rfl, rfl, rfl⟩
    exact ⟨checked, hchecked, hprofile, hlinter, hsearch⟩
  · rintro ⟨checked, hchecked, hprofile, hlinter, hsearch⟩
    exact ⟨checked, hchecked, _, hprofile, _, hlinter, _, hsearch, rfl, rfl, rfl⟩

/-- A run that is prepared audits the files and gives a report; any other tells nothing. -/
theorem run_eq_prepare (a : Auditor) (fs : FileSystem) (root : Path)
    (listener : Option (Listener Int σ)) (timing : Timing) (state : σ) :
    a.run fs root listener timing state =
      match a.prepare fs root with
      | .error e => (.error e, state)
      | .ok (profile, linter, found) =>
        let (reports, _, state) := a.reports fs profile.root linter listener found.files state
        (.ok (summarize profile found reports timing), state) := by
  unfold run prepare
  cases fs.checkRoot root with
  | error e => rfl
  | ok root =>
    dsimp only
    cases a.recognizer.profile fs root with
    | error e => rfl
    | ok profile =>
      dsimp only
      cases a.linter profile.framework with
      | error e => rfl
      | ok linter => cases search fs a.settings profile.root <;> rfl

/-- What a run goes through before it gives a report. -/
theorem exists_of_run (h : (a.run fs root listener timing state).1 = .ok r) :
    ∃ checked profile linter last reports, fs.checkRoot root = .ok checked ∧
      a.recognizer.profile fs checked = .ok profile ∧
      explore fs a.settings profile.root = .ok last ∧
      reports.Sublist (last.found.files.map ((a.fileAuditor linter).report fs profile.root)) ∧
      r = summarize profile last.found reports timing := by
  rw [run_eq_prepare] at h
  cases hprepare : a.prepare fs root with
  | error e =>
    rw [hprepare] at h
    cases h
  | ok prepared =>
    rw [hprepare] at h
    cases h
    obtain ⟨profile, linter, found⟩ := prepared
    obtain ⟨checked, hchecked, hprofile, -, hsearch⟩ := prepare_eq_ok_iff.1 hprepare
    obtain ⟨last, hexplore, rfl⟩ := search_eq_ok_iff.1 hsearch
    exact ⟨checked, profile, linter, last, _, hchecked, hprofile, hexplore,
      a.reports_sublist fs profile.root linter listener last.found.files state, rfl⟩

section Paths

variable {linter : Linter} {last : Stage}

/-- No two reports on files of a search are under one path. -/
theorem nodup_paths (hsound : fs.IsSound) (hexplore : explore fs a.settings root = .ok last)
    {reports : List FileReport}
    (h : reports.Sublist (last.found.files.map ((a.fileAuditor linter).report fs root))) :
    (reports.map (·.path)).Nodup := by
  have hpaths := h.map FileReport.path
  have hrelative : last.found.files.map (FileReport.path ∘ (a.fileAuditor linter).report fs root)
      = last.found.files.map (·.relativeTo root) :=
    List.map_congr_left fun file _ => FileAuditor.path_report _ _ _ file
  rw [List.map_map, hrelative] at hpaths
  exact (nodup_relativeTo hsound hexplore).sublist hpaths

/-- The path of a report on a file of a search is a way to the file. -/
theorem exists_walk_of_report (hsound : fs.IsSound)
    (hexplore : explore fs a.settings root = .ok last) {file : Path}
    (hfile : file ∈ last.found.files) :
    ∃ names, names ≠ [] ∧ Walk fs a.settings.excludeDirs root names ∧
      ((a.fileAuditor linter).report fs root file).path = "/".intercalate names := by
  obtain ⟨names, hne, rfl, hwalk⟩ := exists_walk_of_explore hexplore hfile
  refine ⟨names, hne, hwalk, ?_⟩
  rw [FileAuditor.path_report, relativeTo_along hne fun name hmem =>
    (hwalk.isName hsound name hmem).1.2.1]
  rfl

end Paths

end Auditor

/-- Whether a report agrees with the reports on its files, and these with the files below a
directory. -/
structure ProjectReport.Consistent (r : ProjectReport) (fs : FileSystem) (settings : Settings)
    (source : Path) : Prop where
  analyzed : r.analyzedFiles = r.files.length
  found : r.analyzedFiles ≤ r.totalFiles
  allowed : ∀ limit, settings.maxFiles.whole? = some limit → r.analyzedFiles ≤ limit
  room : ∀ count < r.files.length, settings.maxFiles.isAtMost (count : Nat) = false
  issues : r.issues = r.files.flatMap (·.issues)
  labels : ∀ f ∈ r.files, ∀ issue ∈ f.issues, issue.filePath = f.path
  distinct : (r.files.map (·.path)).Nodup
  walks : ∀ f ∈ r.files, ∃ names, names ≠ [] ∧ Walk fs settings.excludeDirs source names ∧
    f.path = "/".intercalate names
  severities : ∀ severity,
    r.metrics.breakdown.count severity = r.issues.countP (·.severity == severity)
  total : r.metrics.breakdown.errors + r.metrics.breakdown.warnings + r.metrics.breakdown.infos
    = r.issues.length
  counted : ∀ f ∈ r.files, f.IsCounted
  lines : r.metrics.lines = .whole (r.files.map fun f => countOf (some f.metrics.lines)).sum
  functions : r.metrics.functions = .whole (r.files.map fun f => countOf f.metrics.functions).sum
  classes : r.metrics.classes = .whole (r.files.map fun f => countOf f.metrics.classes).sum

/-- **Every report that a run gives is consistent**, whatever the files, their trees and the linter
are, and whatever order parallel audits are completed in. -/
theorem Auditor.run_consistent {a : Auditor} {fs : FileSystem} {root : Path}
    {listener : Option (Listener Int σ)} {timing : Timing} {state : σ} {r : ProjectReport}
    (hsound : fs.IsSound) (haccepted : a.settings.isAccepted = true)
    (hdetectors : a.detectors = Detector.builtin a.settings.longestFunction)
    (h : (a.run fs root listener timing state).1 = .ok r) :
    ∃ checked profile, fs.checkRoot root = .ok checked ∧
      a.recognizer.profile fs checked = .ok profile ∧ r.projectPath = profile.root.text ∧
      r.Consistent fs a.settings profile.root := by
  obtain ⟨checked, profile, linter, last, reports, hchecked, hprofile, hexplore, hsublist, rfl⟩ :=
    exists_of_run h
  have hlength : reports.length ≤ last.found.files.length := by
    have hle := hsublist.length_le
    rwa [List.length_map] at hle
  have hwithin := explore_within hexplore
  -- Every report is that on a file found.
  have hreport : ∀ f ∈ reports, ∃ file ∈ last.found.files,
      f = (a.fileAuditor linter).report fs profile.root file := by
    intro f hf
    obtain ⟨file, hfile, heq⟩ := List.mem_map.1 (hsublist.subset hf)
    exact ⟨file, hfile, heq.symm⟩
  have hcounted : ∀ f ∈ reports, f.IsCounted := by
    intro f hf
    obtain ⟨file, -, rfl⟩ := hreport f hf
    obtain ⟨shape, hcame⟩ := (a.fileAuditor linter).exists_came fs profile.root file
    exact hcame.hasShape.isCounted
  have hlabels : ∀ detector ∈ (a.fileAuditor linter).detectors, detector.Labels := by
    show ∀ detector ∈ a.detectors, detector.Labels
    rw [hdetectors]
    exact Detector.builtin_labels _
  refine ⟨checked, profile, hchecked, hprofile, rfl, ?_⟩
  constructor
  case analyzed => rfl
  case found => exact Int.ofNat_le.2 (Nat.le_trans hlength hwithin.1)
  case allowed =>
    intro limit hlimit
    exact Int.le_trans (Int.ofNat_le.2 hlength) (hwithin.length_le haccepted hlimit)
  case room => exact fun count hcount => hwithin.2 count (Nat.lt_of_lt_of_le hcount hlength)
  case issues => rfl
  case labels =>
    intro f hf
    obtain ⟨file, -, rfl⟩ := hreport f hf
    exact FileAuditor.filePath_report hlabels
  case distinct => exact nodup_paths hsound hexplore hsublist
  case walks =>
    intro f hf
    obtain ⟨file, hfile, rfl⟩ := hreport f hf
    exact exists_walk_of_report hsound hexplore hfile
  case severities => exact fun severity => Breakdown.count_ofReports reports severity
  case total =>
    have hcount := Breakdown.count_ofReports reports
    show Breakdown.count (.ofReports reports) .error + Breakdown.count (.ofReports reports) .warning
      + Breakdown.count (.ofReports reports) .info = (reports.flatMap (·.issues)).length
    rw [hcount, hcount, hcount, countP_severities]
  case counted => exact hcounted
  case lines => exact ProjectMetrics.totalLines_eq hcounted
  case functions => exact ProjectMetrics.total_eq fun f hf => (hcounted f hf).2 _ (by simp)
  case classes => exact ProjectMetrics.total_eq fun f hf => (hcounted f hf).2 _ (by simp)

/-- A single script file. -/
def lone : FileSystem where
  entries := [("a.js", .file [59])]
  room := 8

/-- The built-in rules, and a parser that never gives a tree. -/
def treeless : Auditor where
  settings := following
  recognizer := ⟨[], [], []⟩
  parser _ := ⟨[.tsx], fun _ _ => none⟩
  detectors := Detector.builtin (.whole 50)
  linter _ := .ok .silent
  complexity := usualComplexity
  completion := List.range

/-- The end of a run that took no time. -/
def ended : Timing where
  duration := 0
  timestamp := ⟨⟨2024, 1, 2⟩, ⟨3, 4, 5, 0⟩, some 0⟩

/-- The file is found, and its report makes up the whole report. -/
theorem run_consistent_lone :
    lone.IsSound ∧ treeless.settings.isAccepted = true ∧
      treeless.detectors = Detector.builtin treeless.settings.longestFunction ∧
      ∃ r, (treeless.run lone ⟨true, []⟩ none ended ()).1 = .ok r ∧
        r.files.length = 1 ∧ r.Consistent lone following ⟨true, []⟩ := by
  -- The one file is opened, judged and taken, step by step.
  have hsound : lone.IsSound := by decide
  have haccepted : treeless.settings.isAccepted = true := by decide
  have hchecked := lone.checkRoot_top rfl rfl
  have hfile : lone.locate true ⟨true, ["a.js"]⟩ = .ok ["a.js"] := by
    rw [FileSystem.locate_eq_locateFrom (by decide)]
    exact FileSystem.locateFrom_name rfl (by decide) rfl (by simp) true
  have hexplore : explore lone following ⟨true, []⟩
      = .ok ⟨[[]], ⟨[⟨true, ["a.js"]⟩], 1, []⟩, []⟩ := by
    have hlisted : lone.listed ⟨true, ["a.js"]⟩ = some (.file [59]) :=
      @Search.listed_below lone ⟨true, []⟩ [] (lone.locate_top true) "a.js"
    have hentry : lone.entry true ⟨true, ["a.js"]⟩ = .ok (.file [59]) := by
      simp only [FileSystem.entry, hfile]
      rfl
    have hjudges : Search.Judges lone following ⟨true, ["a.js"]⟩ .nothing
        ⟨[⟨true, ["a.js"]⟩], 1, []⟩ :=
      .taken (Search.fileSize?_of_listed hlisted hentry) rfl (by decide) (by decide)
    have hleads : Search.leadsTo lone following.followLinks Entry.isDirectory ⟨true, ["a.js"]⟩
        = .ok false :=
      Search.leadsTo_of_listed hlisted (.inr rfl) Entry.isDirectory
    rw [explore, if_neg (by decide), Stage.start,
      Stage.resume_of_moves rfl (.opens (lone.locate_top true) rfl (by simp) rfl),
      Search.sortedNames_of_pairwise (by decide)]
    show Stage.resume lone following ⟨true, []⟩
      ⟨[[]], ⟨[], 0, []⟩, [.entry ⟨true, ["a.js"]⟩]⟩ = _
    rw [Stage.resume_of_moves rfl (.judges (by decide) hleads (by decide) hjudges), Stage.resume]
  -- The search leaves one file, so the run has one report.
  have hrun : ∃ r, (treeless.run lone ⟨true, []⟩ none ended ()).1 = .ok r ∧ r.files.length = 1 := by
    have hsearch : search lone treeless.settings ⟨true, []⟩ = .ok ⟨[⟨true, ["a.js"]⟩], 1, []⟩ := by
      rw [search, show treeless.settings = following from rfl, hexplore]
      rfl
    have hprofile : treeless.recognizer.profile lone ⟨true, []⟩
        = .ok ⟨genericFramework, ⟨true, []⟩⟩ :=
      rfl
    simp only [Auditor.run, hchecked, hprofile, hsearch]
    exact ⟨_, rfl, rfl⟩
  obtain ⟨r, hr, hlength⟩ := hrun
  obtain ⟨checked, profile, hchecked', hprofile, -, hconsistent⟩ :=
    Auditor.run_consistent hsound haccepted rfl hr
  rw [hchecked] at hchecked'
  cases hchecked'
  cases hprofile
  exact ⟨hsound, haccepted, rfl, r, hr, hlength, hconsistent⟩

end ScriptAudit
