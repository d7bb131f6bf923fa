import Mathlib
import ScriptAudit.Proofs.SearchDepth
import ScriptAudit.Proofs.WarningTexts

/-!
# Which omissions are explained

A search counts candidates, takes some of them in, and warns about the others. Each warning can be
read, so it can be told which candidates it is about. All that are left out are named by exactly one
warning, apart from pipes, which are left out without a word.

- `Spot.exists_listed`: whatever a search comes to is listed as something.
- `IsCounted`: a search counts a path.
- `isPipe_iff_silent`: the candidates left out without a word are the pipes.
- `filter_notices`: the notices about a candidate are those of the verdict on it.
- `Explains`: how what was found is explained by its warnings.
- `search_explains`: **every candidate that is left out is named by exactly one warning, unless it
  is a pipe.**
-/

namespace ScriptAudit

open Search

variable {fs : FileSystem} {settings : Settings} {root path : Path} {opened : List Location}

/-! ## What an entry of a directory is -/

/-- An entry of a directory that can be reached is listed as something. -/
theorem Spot.exists_listed (h : Spot fs settings root opened path) :
    ∃ e, fs.listed path = some e := by
  obtain ⟨parent, name, here, through, rfl, htrail, ⟨entries, hat, hmem⟩, -⟩ := h
  obtain ⟨e, he⟩ := FileSystem.exists_at?_of_mem hat hmem
  exact ⟨e, (listed_below htrail.locate_eq name).trans he⟩

/-- Whether an entry of a directory is a pipe, no link being followed. -/
def Search.isPipe (fs : FileSystem) (path : Path) : Bool :=
  match fs.listed path with
  | some .pipe => true
  | _ => false

theorem fileSize?_eq_none_iff :
    fileSize? fs path = .ok none ↔ leadsTo fs true Entry.isFile path = .ok false := by
  unfold fileSize?
  split
  · rename_i e herror
    simp [herror]
  · rename_i hfalse
    simp [hfalse]
  · rename_i htrue
    cases fs.entry true path <;> simp [htrue, Except.map]

/-- A candidate that leads to no file, and is no link, is a pipe. -/
theorem isPipe_iff (hspot : Spot fs settings root opened path)
    (hdirectory : leadsTo fs settings.followLinks Entry.isDirectory path = .ok false) :
    isPipe fs path = true ↔ fileSize? fs path = .ok none ∧ isLink fs path = false := by
  obtain ⟨e, hlisted⟩ := hspot.exists_listed
  rw [fileSize?_eq_none_iff, isPipe, isLink, hlisted]
  by_cases hlink : e.isLink = true
  · cases e with
    | link target => simp [Entry.isLink]
    | _ => cases hlink
  · -- What is no link is what it is listed as, and no directory.
    have hlast : e.isLink = false := by simpa using hlink
    rw [leadsTo_of_listed hlisted (.inr hlast)] at hdirectory ⊢
    cases e with
    | file bytes => simp [Entry.isFile]
    | pipe => simp [Entry.isFile, Entry.isLink]
    | link target => cases hlast
    | directory entries => simp [Entry.isDirectory] at hdirectory

/-- **A candidate left out without a word is a pipe**, and no other candidate is one. -/
theorem silent_iff_isPipe (hspot : Spot fs settings root opened path)
    (hdirectory : leadsTo fs settings.followLinks Entry.isDirectory path = .ok false)
    {s found : Search} (hjudges : Judges fs settings path s found) :
    Search.verdict fs settings path s.files.length = .silent ↔ isPipe fs path = true := by
  rw [isPipe_iff hspot hdirectory]
  cases hjudges with
  | unclear hsize => simp [Search.verdict, hsize]
  | dangling hsize hlink | unsuitable hsize hlink => simp [Search.verdict, hsize, hlink]
  | tooLarge hsize hlimit hlarge => simp [Search.verdict, hsize, hlimit, hlarge]
  | tooMany hsize hlimit hsmall hmany =>
    simp [Search.verdict, hsize, hlimit, Int.not_lt.2 hsmall, hmany]
  | taken hsize hlimit hsmall hroom =>
    simp [Search.verdict, hsize, hlimit, Int.not_lt.2 hsmall, hroom]

/-! ## Candidates -/

/-- Whether a search counts a path as a candidate. -/
def IsCounted (fs : FileSystem) (settings : Settings) (root path : Path) : Prop :=
  ∃ item, ∃ s next : Stage, Stage.Reached fs settings root { s with agenda := item :: s.agenda } ∧
    s.step fs settings root item = .ok next ∧ Stage.pendingPath item = path ∧
      next.found.discovered = s.found.discovered + 1

/-- A verdict adds a candidate if it counts. -/
theorem Search.discovered_add (settings : Settings) (path : Path) (s : Search) (verdict : Verdict) :
    (s.add settings path verdict).discovered
      = s.discovered + if verdict.counts then 1 else 0 := by
  cases verdict with
  | left reason => cases hfile : reason.isOfFile <;> simp [add, Verdict.counts, hfile, warn, counted]
  | _ => rfl

/-- The candidates are the paths that the search counts. -/
theorem mem_candidates_iff :
    path ∈ (verdicts fs settings root).candidates ↔ IsCounted fs settings root path := by
  rw [Verdicts.mem_candidates]
  constructor
  · rintro ⟨verdict, hmem, hcounts⟩
    obtain ⟨item, s, next, hreached, hfits, hmoves, hpath, hverdict⟩ := mem_verdicts_iff.1 hmem
    refine ⟨item, s, next, hreached, Stage.step_iff_moves.2 ⟨hfits, hmoves⟩, hpath, ?_⟩
    -- Only a verdict that settles an item can be on a candidate.
    cases hmoves.turns with
    | passes hnone =>
      rw [hnone] at hverdict
      cases hverdict
    | opens hopens =>
      rw [hopens] at hverdict
      cases hverdict
      cases hcounts
    | settles hsettles hclosed hfound =>
      rw [hsettles] at hverdict
      cases hverdict
      rw [hfound, Search.discovered_add, if_pos hcounts]
  · rintro ⟨item, s, next, hreached, hstep, rfl, hone⟩
    obtain ⟨hfits, hmoves⟩ := Stage.step_iff_moves.1 hstep
    cases hmoves.turns with
    | passes hnone hfound => simp [hfound] at hone
    | opens hopens hfresh hfound => simp [hfound] at hone
    | @settles verdict hsettles hclosed hfound =>
      rw [hfound, Search.discovered_add] at hone
      -- The count went up by one, and only a verdict that counts makes it do so.
      have hcounts : verdict.counts = true := by
        by_contra hno
        rw [if_neg hno] at hone
        omega
      exact ⟨verdict,
        mem_verdicts_iff.2 ⟨item, s, next, hreached, hfits, hmoves, rfl, hsettles⟩, hcounts⟩

/-- No candidate is counted twice. -/
theorem Stage.Accounts.nodup_candidates {said : Verdicts} {s : Stage}
    (h : s.Accounts settings root said) : said.candidates.Nodup := by
  rw [List.Nodup, Verdicts.candidates, List.pairwise_map]
  refine (h.apart.sublist List.filter_sublist).imp fun hbefore heq => hbefore.ne ?_
  exact congrArg Path.parts heq

/-- No verdict on a directory counts. -/
theorem counts_of_directory {s : Stage} {verdict : Verdict}
    (h : s.verdict? fs settings (.directory path) = some verdict) : verdict.counts = false := by
  rw [Stage.verdict?] at h
  split at h
  · cases h
    rfl
  · split at h
    · cases h
      split
      · rfl
      · split <;> rfl
    · cases h
      rfl

/-- What a search has made sure of when it counts a path. -/
structure Counted (fs : FileSystem) (settings : Settings) (root path : Path) (s : Stage) : Prop where
  spot : Spot fs settings root s.opened path
  name : path.name ∉ settings.excludeDirs
  entry : leadsTo fs settings.followLinks Entry.isDirectory path = .ok false
  source : isSourceName settings.sourceExtensions path.name = true

/-- The verdict on a candidate is what comes of its being judged. -/
theorem exists_judges {verdict : Verdict} (hmem : (path, verdict) ∈ verdicts fs settings root)
    (hcounts : verdict.counts = true) :
    ∃ (s : Stage) (found : Search), Counted fs settings root path s ∧
      Judges fs settings path s.found found ∧
        verdict = Search.verdict fs settings path s.found.files.length := by
  obtain ⟨item, s, next, hreached, -, hmoves, rfl, hverdict⟩ := mem_verdicts_iff.1 hmem
  have hsound := hreached.sound
  cases item with
  | directory path =>
    rw [counts_of_directory hverdict] at hcounts
    cases hcounts
  | entry path =>
    cases hmoves with
    | excluded hname => simp [Stage.verdict?, hname] at hverdict
    | unclear hname hleads =>
      simp only [Stage.verdict?, hleads, List.contains_iff_mem, if_neg hname,
        Option.some.injEq] at hverdict
      rw [← hverdict] at hcounts
      cases hcounts
    | descends hname hleads => simp [Stage.verdict?, hname, hleads] at hverdict
    | ignores hname hleads hsource => simp [Stage.verdict?, hname, hleads, hsource] at hverdict
    | @judges _ _ found hname hleads hsource hjudges =>
      refine ⟨s, found, ⟨hsound.entries path List.mem_cons_self, hname, hleads, hsource⟩, hjudges, ?_⟩
      -- Any other move than a judgement leaves no verdict that counts.
      have hsame : s.verdict? fs settings (.entry path)
          = some (Search.verdict fs settings path s.found.files.length) := by
        simp [Stage.verdict?, hname, hleads, hsource]
      exact Option.some.inj (hverdict.symm.trans hsame)

/-- The names that lead from the root to an entry of a directory. -/
theorem Spot.exists_names (hsound : fs.IsSound) (h : Spot fs settings root opened path) :
    ∃ names, names ≠ [] ∧ path = root.along names ∧ ∀ name ∈ names, '/' ∉ name.toList := by
  obtain ⟨parent, name, here, through, rfl, htrail, ⟨entries, hat, hmem⟩, -⟩ := h
  obtain ⟨names, rfl, hwalk⟩ := htrail.exists_walk
  refine ⟨names ++ [name], by simp, Path.below_along .., fun other hother => ?_⟩
  rcases List.mem_append.1 hother with hother | hother
  · exact (hwalk.isName hsound other hother).2
  · rw [List.mem_singleton.1 hother]
    exact ((hsound here entries hat).2 name hmem).2

/-- Everything said is about the root, or about something below it. -/
theorem eq_root_or_exists_names (hsound : fs.IsSound) {verdict : Verdict}
    (hmem : (path, verdict) ∈ verdicts fs settings root) :
    path = root ∨
      ∃ names, names ≠ [] ∧ path = root.along names ∧ ∀ name ∈ names, '/' ∉ name.toList := by
  obtain ⟨item, s, next, hreached, -, hmoves, rfl, hverdict⟩ := mem_verdicts_iff.1 hmem
  have hstage := hreached.sound
  cases item with
  | directory path =>
    rcases hstage.directories path List.mem_cons_self with hroot | ⟨hspot, -⟩
    · exact .inl hroot
    · exact .inr (hspot.exists_names hsound)
  | entry path => exact .inr ((hstage.entries path List.mem_cons_self).exists_names hsound)

/-! ## Which path a warning is about -/

/-- A warning about another path than that of a candidate shows another text. -/
theorem text_ne_of_before (hsound : fs.IsSound) {verdict told : Verdict} {reason : Reason}
    {about : Path} (hmem : (path, verdict) ∈ verdicts fs settings root)
    (hcounts : verdict.counts = true) (hother : (about, told) ∈ verdicts fs settings root)
    (hreason : told.reason? = some reason)
    (hbefore : Before (about, told) path ∨ Before (path, verdict) about) :
    about.text ≠ path.text := by
  have hclosed := (Verdict.of_counts hcounts).1
  have hclosed' : told.isOpening = false := by
    -- A directory that is opened gives no reason, so neither of the two entries stands for one, and
    -- only the order of paths is left.
    cases told with
    | opened here => cases hreason
    | _ => rfl
  have hprecedes : Precedes about.parts path.parts ∨ Precedes path.parts about.parts := by
    rcases hbefore with (hprecedes | ⟨hopening, -⟩) | (hprecedes | ⟨hopening, -⟩)
    · exact .inl hprecedes
    · rw [hclosed'] at hopening
      cases hopening
    · exact .inr hprecedes
    · rw [hclosed] at hopening
      cases hopening
  obtain ⟨s, found, hcounted, -⟩ := exists_judges hmem hcounts
  obtain ⟨names, hne, rfl, hnames⟩ := hcounted.spot.exists_names hsound
  rcases eq_root_or_exists_names hsound hother with rfl | ⟨others, hne', rfl, hothers⟩
  · -- The root is above all candidates, so it neither precedes one nor the other way round.
    rcases hprecedes with hprecedes | hprecedes
    · exact absurd (List.prefix_append _ _) hprecedes.not_isPrefix_right
    · exact absurd (List.prefix_append _ _) hprecedes.not_isPrefix
  · intro htext
    obtain rfl := text_along_injective hne' hne hothers hnames htext
    rcases hprecedes with hprecedes | hprecedes <;> exact hprecedes.ne rfl

/-! ## Explanations -/

namespace Verdicts

/-- The notices that warnings are. -/
def notices (said : Verdicts) : List Notice :=
  said.reasons.map fun entry => ⟨entry.1.text, entry.2⟩

theorem mem_notices_iff {said : Verdicts} {notice : Notice} :
    notice ∈ said.notices ↔ ∃ about, ∃ verdict : Verdict, (about, verdict) ∈ said ∧
      verdict.reason? = some notice.reason ∧ about.text = notice.shown := by
  constructor
  · intro hmem
    obtain ⟨⟨about, reason⟩, hreasons, rfl⟩ := List.mem_map.1 hmem
    obtain ⟨verdict, hsaid, hreason⟩ := mem_reasons.1 hreasons
    exact ⟨about, verdict, hsaid, hreason, rfl⟩
  · rintro ⟨about, verdict, hsaid, hreason, htext⟩
    refine List.mem_map.2 ⟨(about, notice.reason), mem_reasons.2 ⟨verdict, hsaid, hreason⟩, ?_⟩
    rw [htext]

theorem countP_notices (said : Verdicts) :
    said.notices.countP (·.reason.isOfFile)
      = said.countP fun entry => entry.2.reason?.any Reason.isOfFile := by
  rw [notices, reasons, List.countP_map, List.countP_filterMap]
  refine List.countP_congr fun entry _ => ?_
  cases entry.2.reason? <;> simp

/-- The files are candidates. -/
theorem files_sublist (said : Verdicts) : said.files.Sublist said.candidates := by
  have hboth : said.filter (·.2 = .taken)
      = (said.filter (·.2.counts)).filter (·.2 = .taken) := by
    rw [List.filter_filter]
    refine List.filter_congr fun entry _ => ?_
    obtain ⟨path, verdict⟩ := entry
    cases verdict <;> simp [Verdict.counts]
  rw [files, candidates, hboth]
  exact List.filter_sublist.map _

/-- Every candidate is taken in, or told about, or left out without a word. -/
theorem length_candidates (said : Verdicts) :
    said.candidates.length = said.files.length + said.notices.countP (·.reason.isOfFile)
      + said.countP (·.2 = .silent) := by
  rw [countP_notices, candidates, files, List.length_map, List.length_map,
    ← List.countP_eq_length_filter, ← List.countP_eq_length_filter]
  -- Each verdict counts in as many of the three sums as it counts as a candidate.
  induction said with
  | nil => rfl
  | cons entry said ih =>
    rw [List.countP_cons, List.countP_cons, List.countP_cons, List.countP_cons, ih]
    obtain ⟨path, verdict⟩ := entry
    have hone : (if verdict.counts then 1 else 0) = (if verdict = .taken then 1 else 0)
        + (if verdict.reason?.any Reason.isOfFile then 1 else 0)
        + (if verdict = .silent then 1 else 0) := by
      cases verdict with
      | left reason => cases hfile : reason.isOfFile <;> simp [Verdict.counts, Verdict.reason?, hfile]
      | _ => simp [Verdict.counts, Verdict.reason?, Reason.isOfFile]
    simp only [decide_eq_true_eq]
    omega

end Verdicts

/-- The notices about a candidate are those of the verdict on it. -/
theorem filter_notices (hsound : fs.IsSound) {verdict : Verdict}
    (hapart : (verdicts fs settings root).Pairwise fun entry other => Before entry other.1)
    (hmem : (path, verdict) ∈ verdicts fs settings root) (hcounts : verdict.counts = true) :
    (verdicts fs settings root).notices.filter (·.shown = path.text)
      = (verdict.reason?.map (Notice.mk path.text)).toList := by
  obtain ⟨before, after, hsplit⟩ := List.append_of_mem hmem
  rw [hsplit, List.pairwise_append, List.pairwise_cons] at hapart
  obtain ⟨-, ⟨hafter, -⟩, hbefore⟩ := hapart
  -- Of all others a path comes before or after this one, and has another text.
  have hothers : ∀ {list : Verdicts}, (∀ entry ∈ list, entry ∈ verdicts fs settings root ∧
      (Before entry path ∨ Before (path, verdict) entry.1)) →
        list.notices.filter (·.shown = path.text) = [] := by
    intro list hlist
    rw [List.filter_eq_nil_iff]
    intro notice hnotice
    obtain ⟨about, told, hother, hreason, htext⟩ := Verdicts.mem_notices_iff.1 hnotice
    obtain ⟨hsaid, horder⟩ := hlist _ hother
    rw [decide_eq_true_iff, ← htext]
    exact text_ne_of_before hsound hmem hcounts hsaid hreason horder
  have hnone : (Verdicts.notices before).filter (·.shown = path.text) = [] := by
    refine hothers fun entry hentry => ⟨?_, .inl ?_⟩
    · rw [hsplit]
      exact List.mem_append_left _ hentry
    · exact hbefore entry hentry _ List.mem_cons_self
  have hnone' : (Verdicts.notices after).filter (·.shown = path.text) = [] := by
    refine hothers fun entry hentry => ⟨?_, .inr (hafter entry hentry)⟩
    rw [hsplit]
    exact List.mem_append_right _ (List.mem_cons_of_mem _ hentry)
  have hnotices : (verdicts fs settings root).notices = Verdicts.notices before
      ++ (verdict.reason?.map (Notice.mk path.text)).toList ++ Verdicts.notices after := by
    rw [hsplit]
    cases hreason : verdict.reason? <;> simp [Verdicts.notices, Verdicts.reasons, hreason]
  rw [hnotices, List.filter_append, List.filter_append, hnone, hnone', List.append_nil,
    List.nil_append]
  cases verdict.reason? <;> simp

/-- How what a search found is explained by its warnings. The candidates are the paths that it
counts, and the notices are what its warnings tell. A candidate that is left out, and no pipe, is
named by exactly one notice, which gives a reason for leaving out a file. Files that are taken in and
pipes are not named. So the candidates left out are as many as these notices and the pipes. -/
structure Explains (fs : FileSystem) (settings : Settings) (root : Path) (found : Search)
    (candidates : List Path) (notices : List Notice) : Prop where
  counted : ∀ path, path ∈ candidates ↔ IsCounted fs settings root path
  nodup : candidates.Nodup
  discovered : found.discovered = candidates.length
  files : found.files.Sublist candidates
  told : Tells settings.shownMaxFiles found.warnings notices
  named : ∀ path ∈ candidates, path ∉ found.files → isPipe fs path = false →
    ∃ reason : Reason, reason.isOfFile = true ∧
      notices.filter (·.shown = path.text) = [⟨path.text, reason⟩]
  unnamed : ∀ path ∈ candidates, path ∈ found.files ∨ isPipe fs path = true →
    notices.filter (·.shown = path.text) = []
  pipes : ∀ path ∈ candidates, isPipe fs path = true → path ∉ found.files
  skipped : found.skipped
    = (notices.countP (·.reason.isOfFile) + candidates.countP (isPipe fs) : Nat)

/-- A candidate is a pipe if nothing is said about it. -/
theorem isPipe_iff_silent {verdict : Verdict}
    (hmem : (path, verdict) ∈ verdicts fs settings root) (hcounts : verdict.counts = true) :
    isPipe fs path = true ↔ verdict = .silent := by
  obtain ⟨s, found, hcounted, hjudges, rfl⟩ := exists_judges hmem hcounts
  exact (silent_iff_isPipe hcounted.spot hcounted.entry hjudges).symm

theorem countP_isPipe :
    (verdicts fs settings root).candidates.countP (isPipe fs)
      = (verdicts fs settings root).countP (·.2 = .silent) := by
  rw [Verdicts.candidates, List.countP_map, List.countP_filter]
  refine List.countP_congr fun entry hmem => ?_
  obtain ⟨path, verdict⟩ := entry
  simp only [Function.comp_apply, Bool.and_eq_true, decide_eq_true_iff]
  constructor
  · rintro ⟨hpipe, hcounts⟩
    exact (isPipe_iff_silent hmem hcounts).1 hpipe
  · rintro rfl
    exact ⟨(isPipe_iff_silent hmem rfl).2 rfl, rfl⟩

/-- Everything said is about an absolute path if the root is one. -/
theorem isAbsolute_of_mem_notices (hsound : fs.IsSound) (habsolute : root.absolute = true)
    {notice : Notice} (hmem : notice ∈ (verdicts fs settings root).notices) :
    notice.IsAbsolute := by
  obtain ⟨about, verdict, hsaid, -, htext⟩ := Verdicts.mem_notices_iff.1 hmem
  have hroot : about.absolute = true := by
    rcases eq_root_or_exists_names hsound hsaid with rfl | ⟨names, -, rfl, -⟩
    · exact habsolute
    · exact habsolute
  refine ⟨(Path.joined about.parts).toList, ?_⟩
  rw [← htext, Path.text, if_pos hroot]
  simp

/-- What the verdicts of a search say explains what it found. -/
theorem explains_of_explore (hsound : fs.IsSound) (habsolute : root.absolute = true) {last : Stage}
    (h : explore fs settings root = .ok last) :
    Explains fs settings root last.found (verdicts fs settings root).candidates
      (verdicts fs settings root).notices := by
  have haccounts := explore_accounts hsound h
  have hfound := haccounts.found
  have hfiles : ∀ path, path ∈ last.found.files ↔ (path, .taken) ∈ verdicts fs settings root := by
    intro path
    rw [hfound]
    exact Verdicts.mem_files
  have hnotices : ∀ {path verdict}, (path, verdict) ∈ verdicts fs settings root →
      verdict.counts = true → (verdicts fs settings root).notices.filter (·.shown = path.text)
        = (verdict.reason?.map (Notice.mk path.text)).toList :=
    filter_notices hsound haccounts.apart
  -- What was found, and what was told, are sums over the verdicts, which are gone through one by
  -- one.
  exact {
    counted := fun path => mem_candidates_iff
    nodup := haccounts.nodup_candidates
    discovered := by
      rw [hfound]
      rfl
    files := by
      rw [hfound]
      exact Verdicts.files_sublist _
    told := by
      refine ⟨?_, fun notice hmem => isAbsolute_of_mem_notices hsound habsolute hmem⟩
      rw [hfound]
      simp [Verdicts.found, Verdicts.notices, Notice.text, Function.comp_def]
    named := by
      intro path hmem hleft hpipe
      obtain ⟨verdict, hsaid, hcounts⟩ := Verdicts.mem_candidates.1 hmem
      rw [hnotices hsaid hcounts]
      cases verdict with
      | opened here | shut here => cases hcounts
      | left reason => exact ⟨reason, hcounts, rfl⟩
      | silent => simp [(isPipe_iff_silent hsaid hcounts).2 rfl] at hpipe
      | taken => exact absurd ((hfiles path).2 hsaid) hleft
    unnamed := by
      rintro path hmem (htaken | hpipe)
      · rw [hnotices ((hfiles path).1 htaken) rfl]
        rfl
      · obtain ⟨verdict, hsaid, hcounts⟩ := Verdicts.mem_candidates.1 hmem
        rw [hnotices hsaid hcounts, (isPipe_iff_silent hsaid hcounts).1 hpipe]
        rfl
    pipes := by
      intro path hmem hpipe htaken
      cases (isPipe_iff_silent ((hfiles path).1 htaken) rfl).1 hpipe
    skipped := by
      have hlength := (verdicts fs settings root).length_candidates
      rw [skipped, countP_isPipe, hfound]
      show ((verdicts fs settings root).candidates.length : Int)
        - (verdicts fs settings root).files.length = _
      omega }

/-- **Every candidate that is left out is named by exactly one warning, unless it is a pipe.** This
holds of every search that returns, and what the warnings tell can be read in one way only. -/
theorem search_explains (hsound : fs.IsSound) (habsolute : root.absolute = true) {found : Search}
    (hfound : search fs settings root = .ok found) :
    ∃ candidates notices, Explains fs settings root found candidates notices ∧
      ∀ others, Tells settings.shownMaxFiles found.warnings others → others = notices := by
  obtain ⟨last, hexplore, rfl⟩ := search_eq_ok_iff.1 hfound
  have hexplains := explains_of_explore hsound habsolute hexplore
  exact ⟨_, _, hexplains, fun others hothers => hothers.unique hexplains.told⟩

/-! ## A pipe and a dangling link -/

/-- A pipe, a link that leads nowhere, and a file, all with the names of scripts. -/
def unread : FileSystem where
  entries := [("a.js", .pipe), ("b.js", .link "c"), ("d.js", .file [59])]
  room := 8

theorem search_unread : search unread following ⟨true, []⟩
    = .ok ⟨[⟨true, ["d.js"]⟩], 3, ["Dangling symlink /b.js, skipping"]⟩ := by
  refine search_eq_ok_iff.2 ⟨⟨[[]], _, []⟩, ?_, rfl⟩
  rw [explore, if_neg (by decide)]
  exact Stage.resume_of_advance (n := 4) (by cbv) rfl

/-- The link is named, and the pipe is not. -/
theorem search_explains_unread :
    unread.IsSound ∧ (⟨true, []⟩ : Path).absolute = true ∧
      ∃ found candidates, search unread following ⟨true, []⟩ = .ok found ∧
        Explains unread following ⟨true, []⟩ found candidates [⟨"/b.js", .dangling⟩] ∧
        found.skipped = 2 ∧ isPipe unread ⟨true, ["a.js"]⟩ = true := by
  have hsound : unread.IsSound := by decide
  obtain ⟨candidates, notices, hthis, hunique⟩ :=
    @search_explains unread following ⟨true, []⟩ hsound rfl _ search_unread
  have hnotices : [⟨"/b.js", .dangling⟩] = notices := by
    refine hunique _ ⟨rfl, ?_⟩
    simp [Notice.IsAbsolute]
  rw [← hnotices] at hthis
  exact ⟨hsound, rfl, _, candidates, search_unread, hthis, rfl, by cbv⟩

end ScriptAudit
