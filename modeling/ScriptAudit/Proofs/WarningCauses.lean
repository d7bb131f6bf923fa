import ScriptAudit.Proofs.ExplainedSkips

/-!
# Whether warnings name the true cause

A search keeps one list of the directories that it has opened, and warns of a loop wherever it comes
to one of them again. Some of these are circles: the directory was opened on the way. Others are not:
it was opened in an earlier branch, of which nothing is above the path. Likewise a link is called
dangling if it leads to no file, and that may be because it leads to something else.

- `Revisits`: a search comes to a directory that it has opened.
- `Circles`: a path leads to a directory that is also on the way to it.
- `exists_opening`: **a directory that is come to again was opened on the way or in an earlier
  branch**, and `Circles` says which.
- `not_revisits`: with no links followed, no directory is come to again.
- `search_causes`: **which causes there may be for the warnings of loops and dangling links.**
-/

namespace ScriptAudit

open Search

variable {fs : FileSystem} {settings : Settings} {root path : Path} {here : Location}

/-! ## What a look-up ends at -/

/-- A look-up in which all links are followed does not end at a link. -/
theorem FileSystem.locateFrom_ne_link {budget : Nat} {steps : List String} {there : Location}
    (hhere : ∀ target, fs.at? here ≠ some (.link target))
    (h : fs.locateFrom true budget here steps = .ok there) (target : String) :
    fs.at? there ≠ some (.link target) := by
  have htop : ∀ target, fs.at? [] ≠ some (.link target) := by
    rintro target ⟨⟩
  induction budget, here, steps using FileSystem.locateFrom.induct fs true with
  | case1 budget here =>
    rw [locateFrom] at h
    cases h
    exact hhere target
  | case2 budget here rest entries hat ih =>
    rw [locateFrom, hat] at h
    exact ih hhere h
  | case3 budget here rest entries hat hdot ih =>
    rw [locateFrom, hat] at h
    refine ih (fun target hlink => ?_) h
    -- What is above a directory is a directory.
    rcases List.eq_nil_or_concat here with rfl | ⟨above, name, rfl⟩
    · exact htop target hlink
    · rw [List.concat_eq_append, List.dropLast_concat] at hlink
      rw [List.concat_eq_append] at hat
      cases isDirectory_of_append hlink (entriesAt_eq_ok.1 hat).1 (List.cons_ne_nil name [])
  | case4 budget here step rest entries hat hdot hup hlong =>
    simp [locateFrom, hat, hdot, hup, hlong] at h
  | case5 budget here step rest entries hat hdot hup hshort hnone =>
    simp [locateFrom, hat, hdot, hup, hshort, hnone] at h
  | case6 budget here step rest entries hat hdot hup hshort target hlink hlast =>
    simp at hlast
  | case7 here step rest entries hat hdot hup hshort target hlink hlast =>
    rw [locateFrom_link hat ⟨hdot, hup, Nat.not_lt.1 hshort⟩ hlink (by simp)] at h
    cases h
  | case8 here step rest entries hat hdot hup hshort target' hlink hlast budget ih =>
    rw [locateFrom_link hat ⟨hdot, hup, Nat.not_lt.1 hshort⟩ hlink (by simp)] at h
    refine ih ?_ h
    unfold targetStart
    split
    · exact htop
    · exact hhere
  | case9 budget here step rest entries hat hdot hup hshort e hother hentry ih =>
    rw [locateFrom_entry hat ⟨hdot, hup, Nat.not_lt.1 hshort⟩ hentry hother] at h
    refine ih (fun target hlink => ?_) h
    rw [at?_of_entriesAt hat, hentry] at hlink
    exact hother target (Option.some.inj hlink)
  | case10 budget here step rest e hat =>
    rw [locateFrom_error hat] at h
    cases h

theorem FileSystem.entry_ne_link (fs : FileSystem) (path : Path) (target : String) :
    fs.entry true path ≠ .ok (.link target) := by
  intro h
  unfold entry at h
  cases hlocate : fs.locate true path with
  | error e => simp [hlocate] at h
  | ok there =>
    have hnot : fs.at? there ≠ some (.link target) := by
      rw [locate_eq_locateFrom (short_of_locate hlocate)] at hlocate
      exact locateFrom_ne_link (by rintro target ⟨⟩) hlocate target
    cases hat : fs.at? there with
    | none => simp [hlocate, hat] at h
    | some e =>
      simp only [hlocate, hat, Except.ok.injEq] at h
      exact hnot (h ▸ hat)

/-! ## Directories that are come to again -/

/-- A search comes to a directory that it has opened already. -/
structure Revisits (fs : FileSystem) (settings : Settings) (root path : Path) (here : Location)
    (s : Stage) : Prop where
  reached : Stage.Reached fs settings root { s with agenda := .directory path :: s.agenda }
  fits : (Pending.directory path).fits fs root = true
  located : fs.locate true path = .ok here
  directory : fs.HasDirectory here
  opened : here ∈ s.opened

/-- Whether a path leads to a directory that is also on the way to it, from the root on. -/
def Circles (fs : FileSystem) (root path : Path) (here : Location) : Prop :=
  ∃ above : Path, root.parts <+: above.parts ∧ above.IsAbove path ∧ fs.locate true above = .ok here

/-- Whether a search comes to the directory at a location for the first time by some path. It opens
the directory there, or finds that it may not be read. -/
def Opens (fs : FileSystem) (settings : Settings) (root path : Path) (here : Location) : Prop :=
  ∃ verdict : Verdict, (path, verdict) ∈ verdicts fs settings root ∧ verdict.opened? = some here

/-- What may be said about a directory. -/
theorem verdict?_directory {s : Stage} {verdict : Verdict}
    (h : s.verdict? fs settings (.directory path) = some verdict) :
    (∃ e, verdict = .left (.unopened e)) ∨ ∃ here, fs.locate true path = .ok here ∧
      fs.HasDirectory here ∧ (here ∈ s.opened ∧ verdict = .left .revisited ∨
        here ∉ s.opened ∧ verdict.opened? = some here) := by
  -- A directory that was opened before is not opened again: which of the two it is, is asked last.
  rw [Stage.verdict?] at h
  cases hlocate : fs.locate true path with
  | error e =>
    rw [hlocate] at h
    cases h
    exact .inl ⟨e, rfl⟩
  | ok here =>
    rw [hlocate] at h
    dsimp only at h
    split at h
    · rename_i entries hat
      refine .inr ⟨here, rfl, ⟨entries, hat⟩, ?_⟩
      by_cases hopened : here ∈ s.opened
      · rw [if_pos (by simpa using hopened)] at h
        cases h
        exact .inl ⟨hopened, rfl⟩
      · rw [if_neg (by simpa using hopened)] at h
        cases h
        exact .inr ⟨hopened, by split <;> rfl⟩
    · cases h
      exact .inl ⟨_, rfl⟩

/-- What may be said about an entry of a directory. -/
theorem verdict?_entry {s : Stage} {verdict : Verdict}
    (h : s.verdict? fs settings (.entry path) = some verdict) :
    (∃ e, verdict = .left (.unknown e)) ∨ verdict.counts = true := by
  rw [Stage.verdict?] at h
  split at h
  · cases h
  · split at h
    · cases h
      exact .inl ⟨_, rfl⟩
    · cases h
    · split at h
      · cases h
        exact .inr (Stage.counts_verdict path s.found.files.length)
      · cases h

/-- What is said of a directory is said when the search comes to it as such. -/
theorem exists_directory {verdict : Verdict} (hmem : (path, verdict) ∈ verdicts fs settings root)
    (hverdict : verdict = .left .revisited ∨ ∃ here, verdict.opened? = some here) :
    ∃ (s : Stage) (here : Location),
      Stage.Reached fs settings root { s with agenda := .directory path :: s.agenda } ∧
      (Pending.directory path).fits fs root = true ∧
      fs.locate true path = .ok here ∧ fs.HasDirectory here ∧
        (here ∈ s.opened ∧ verdict = .left .revisited ∨
          here ∉ s.opened ∧ verdict.opened? = some here) := by
  obtain ⟨item, s, next, hreached, hfits, hmoves, rfl, hsaid⟩ := mem_verdicts_iff.1 hmem
  cases item with
  | directory path =>
    -- Of an entry that is no directory nothing of this is said.
    rcases verdict?_directory hsaid with ⟨e, rfl⟩ | ⟨here, hlocate, hdirectory, hcases⟩
    · rcases hverdict with heq | ⟨here, heq⟩ <;> cases heq
    · exact ⟨s, here, hreached, hfits, hlocate, hdirectory, hcases⟩
  | entry path =>
    rcases verdict?_entry hsaid with ⟨e, rfl⟩ | hcounts
    · rcases hverdict with heq | ⟨here, heq⟩ <;> cases heq
    · rcases hverdict with rfl | ⟨here, heq⟩
      · cases hcounts
      · rw [(Verdict.of_counts hcounts).2] at heq
        cases heq

/-- It is said of a path that it is come to again if it is. -/
theorem mem_revisited_iff :
    (path, .left .revisited) ∈ verdicts fs settings root ↔
      ∃ here s, Revisits fs settings root path here s := by
  constructor
  · intro hmem
    obtain ⟨s, here, hreached, hfits, hlocate, hdirectory, ⟨hopened, -⟩ | ⟨-, heq⟩⟩ :=
      exists_directory hmem (.inl rfl)
    · exact ⟨here, s, hreached, hfits, hlocate, hdirectory, hopened⟩
    · cases heq
  · rintro ⟨here, s, hreached, hfits, hlocate, ⟨entries, hat⟩, hopened⟩
    refine mem_verdicts_iff.2 ⟨.directory path, s, _, hreached, hfits,
      .again hlocate ⟨entries, hat⟩ hopened, rfl, ?_⟩
    simp [Stage.verdict?, hlocate, hat, hopened]

/-- The directory that is opened at a path is where the path leads. -/
theorem Opens.locate_eq (h : Opens fs settings root path here) :
    fs.locate true path = .ok here := by
  obtain ⟨verdict, hmem, hopened⟩ := h
  obtain ⟨s, there, -, -, hlocate, -, ⟨-, rfl⟩ | ⟨-, heq⟩⟩ :=
    exists_directory hmem (.inr ⟨here, hopened⟩)
  · cases hopened
  · rw [hopened] at heq
    cases heq
    exact hlocate

/-- If no directory is opened twice, none is opened at two paths. -/
theorem eq_of_nodup_openings {said : Verdicts} (hnodup : said.openings.Nodup) {other : Path}
    {first second : Verdict} (hmem : (path, first) ∈ said) (hmem' : (other, second) ∈ said)
    (hfirst : first.opened? = some here) (hsecond : second.opened? = some here) : path = other := by
  rw [List.Nodup, Verdicts.openings, List.pairwise_filterMap] at hnodup
  by_contra hne
  have hsymm : Std.Symm fun entry other : Path × Verdict =>
      ∀ here, entry.2.opened? = some here → ∀ there, other.2.opened? = some there → here ≠ there :=
    ⟨fun _ _ h here hhere there hthere heq => h there hthere here hhere heq.symm⟩
  have hdifferent := hnodup.forall hmem hmem' fun heq => hne (congrArg Prod.fst heq)
  exact hdifferent here hfirst here hsecond rfl

/-- **A directory that is come to again was opened on the way or in an earlier branch.** In an
earlier branch, it is not on the way. -/
theorem exists_opening (hsound : fs.IsSound) {s : Stage}
    (h : Revisits fs settings root path here s) :
    ∃ first, Opens fs settings root first here ∧
      (Circles fs root path here ∧ first.IsAbove path ∨
        ¬Circles fs root path here ∧ Precedes first.parts path.parts) := by
  obtain ⟨said, haccounts, hverdicts⟩ := h.reached.exists_accounts hsound
  have hsubset : ∀ {entry}, entry ∈ said → entry ∈ verdicts fs settings root := by
    intro entry hsaid
    rw [verdicts, hverdicts]
    exact List.mem_append_left _ hsaid
  have hstage := h.reached.sound
  have hnodup : said.openings.Nodup := haccounts.opened ▸ hstage.nodup
  have hhere : here ∈ said.openings := haccounts.opened ▸ h.opened
  obtain ⟨first, verdict, hsaid, hfirst⟩ := Verdicts.mem_openings.1 hhere
  have hopens : Opens fs settings root first here := ⟨verdict, hsubset hsaid, hfirst⟩
  refine ⟨first, hopens, ?_⟩
  rcases haccounts.ahead _ hsaid _ List.mem_cons_self with hprecedes | ⟨-, habove⟩
  · refine .inr ⟨?_, hprecedes⟩
    rintro ⟨above, hroot, habove, hlocate⟩
    -- Everything on the way was opened, so the directory would have been opened there.
    obtain ⟨there, hthere⟩ := haccounts.entered _ List.mem_cons_self above hroot habove
    have habove' : Opens fs settings root above there := ⟨_, hsubset hthere, rfl⟩
    have hsame := habove'.locate_eq
    rw [hlocate] at hsame
    cases hsame
    obtain rfl := eq_of_nodup_openings hnodup hsaid hthere hfirst rfl
    exact hprecedes.not_isPrefix_right habove.parts
  · refine .inl ⟨⟨first, ?_, habove, hopens.locate_eq⟩, habove⟩
    rcases eq_root_or_exists_names hsound (hsubset hsaid) with rfl | ⟨names, -, rfl, -⟩
    · exact List.prefix_refl _
    · exact List.prefix_append _ _

/-! ## With no links followed -/

/-- With no links followed, a directory that the search comes to is where its names lead. -/
theorem exists_place_of_reached (hsound : fs.IsSound) (hfollow : settings.followLinks = false)
    {s : Stage}
    (hreached : Stage.Reached fs settings root { s with agenda := .directory path :: s.agenda })
    (hlocate : fs.locate true path = .ok here) :
    ∃ top names, fs.locate true root = .ok top ∧ path = root.along names ∧ here = top ++ names := by
  have hstage := hreached.sound
  rcases hstage.directories path List.mem_cons_self with rfl | ⟨hspot, -, hleads⟩
  · exact ⟨here, [], hlocate, by simp, by simp⟩
  · obtain ⟨parent, name, parentAt, through, rfl, htrail, hlists, -⟩ := hspot
    obtain ⟨top, names, htop, rfl, hhere⟩ := htrail.exists_place hsound hfollow
    cases hhere
    rw [hfollow] at hleads
    obtain rfl := eq_of_locate_realDirectory hsound htrail.locate_eq hleads hlocate
    exact ⟨top, names ++ [name], htop, Path.below_along .., by simp⟩

/-- **With no links followed, no directory is come to again.** -/
theorem not_revisits (hsound : fs.IsSound) (hfollow : settings.followLinks = false) {s : Stage} :
    ¬Revisits fs settings root path here s := by
  -- Both paths are below the root with nothing but names, and one place has one such path.
  intro h
  obtain ⟨first, ⟨verdict, hsaid, hopened⟩, hcases⟩ := exists_opening hsound h
  obtain ⟨t, there, hreached, -, hlocate, -, ⟨-, rfl⟩ | ⟨-, heq⟩⟩ :=
    exists_directory hsaid (.inr ⟨here, hopened⟩)
  · cases hopened
  · rw [hopened] at heq
    cases heq
    obtain ⟨top, names, htop, rfl, rfl⟩ :=
      exists_place_of_reached hsound hfollow h.reached h.located
    obtain ⟨top', names', htop', rfl, hsame⟩ :=
      exists_place_of_reached hsound hfollow hreached hlocate
    rw [htop] at htop'
    cases htop'
    obtain rfl := List.append_cancel_left hsame
    rcases hcases with ⟨-, habove⟩ | ⟨-, hprecedes⟩
    · exact habove.ne rfl
    · exact hprecedes.ne rfl

/-! ## Links that lead to no file -/

/-- Whether a link is one that a search calls dangling: its target is missing, a pipe, or a directory
that the search does not go into. -/
def IsCalledDangling (fs : FileSystem) (settings : Settings) (path : Path) : Prop :=
  (∃ target, fs.entry false path = .ok (.link target)) ∧
    (fs.entry true path = .error .missing ∨ fs.entry true path = .ok .pipe ∨
      settings.followLinks = false ∧ ∃ entries, fs.entry true path = .ok (.directory entries))

/-- A link that is not found missing, or the like, for want of a look-up is found as a link. -/
theorem entry_false_of_listed (hsound : fs.IsSound) {opened : List Location} {e : Entry}
    (hspot : Spot fs settings root opened path) (hlisted : fs.listed path = some e)
    (hopen : ∀ refusal : AccessError, refusal.leavesOpen = true →
      fs.entry true path ≠ .error refusal) : fs.entry false path = .ok e := by
  obtain ⟨parent, name, here, through, rfl, htrail, -, -⟩ := hspot
  rw [listed_below htrail.locate_eq] at hlisted
  rcases FileSystem.locate_entry hsound htrail.locate_eq hlisted with
    ⟨refusal, hleaves, herror⟩ | ⟨-, -, hplace⟩
  · exact absurd (by simp [FileSystem.entry, herror]) (hopen refusal hleaves)
  · simp [FileSystem.entry, hplace false (.inl rfl), hlisted]

/-- A link leads to no file if it leads to nothing, to a pipe or to a directory. -/
theorem fileSize?_link_eq_none_iff {target : String} (hlisted : fs.listed path = some (.link target)) :
    fileSize? fs path = .ok none ↔ fs.entry true path = .error .missing ∨
      fs.entry true path = .ok .pipe ∨ ∃ entries, fs.entry true path = .ok (.directory entries) := by
  have hlink := fs.entry_ne_link path
  rw [fileSize?_eq_none_iff, leadsTo_of_link hlisted]
  cases hentry : fs.entry true path with
  | error e => cases e <;> simp
  | ok e =>
    cases e with
    | link target => exact absurd hentry (hlink target)
    | _ => simp [Entry.isFile]

/-- A candidate is called dangling if it is such a link. -/
theorem isCalledDangling_iff (hsound : fs.IsSound) {s : Stage} (h : Counted fs settings root path s) :
    IsCalledDangling fs settings path ↔ fileSize? fs path = .ok none ∧ isLink fs path = true := by
  obtain ⟨e, hlisted⟩ := h.spot.exists_listed
  constructor
  · -- The link's target decides, and it was not refused.
    rintro ⟨⟨target, hlink⟩, hcause⟩
    have hclear : ∀ refusal : AccessError, refusal.leavesOpen = true →
        fs.entry true path ≠ .error refusal := by
      rintro refusal hleaves herror
      rw [herror] at hcause
      rcases hcause with heq | heq | ⟨-, entries, heq⟩ <;> cases heq
      cases hleaves
    rw [entry_false_of_listed hsound h.spot hlisted hclear, Except.ok.injEq] at hlink
    subst hlink
    refine ⟨(fileSize?_link_eq_none_iff hlisted).2 ?_, by simp [isLink, hlisted, Entry.isLink]⟩
    exact hcause.imp_right (.imp_right And.right)
  · rintro ⟨hsize, hlink⟩
    obtain ⟨target, rfl⟩ : ∃ target, e = .link target := by
      rw [isLink, hlisted] at hlink
      cases e with
      | link target => exact ⟨target, rfl⟩
      | _ => cases hlink
    have hcause := (fileSize?_link_eq_none_iff hlisted).1 hsize
    refine ⟨⟨target, entry_false_of_listed hsound h.spot hlisted fun refusal hleaves herror => ?_⟩,
      ?_⟩
    · rw [herror] at hcause
      rcases hcause with heq | heq | ⟨entries, heq⟩ <;> cases heq
      cases hleaves
    · rcases hcause with hnone | hnone | ⟨entries, hentry⟩
      · exact .inl hnone
      · exact .inr (.inl hnone)
      · -- A search that follows links goes into the directory, and does not count the link.
        refine .inr (.inr ⟨?_, entries, hentry⟩)
        by_contra hfollow
        have hleads := h.entry
        rw [eq_true_of_ne_false hfollow, leadsTo_of_link hlisted, hentry] at hleads
        cases hleads

/-- It is said of a path that it is dangling if it is a candidate that is called so. -/
theorem mem_dangling_iff (hsound : fs.IsSound) :
    (path, .left .dangling) ∈ verdicts fs settings root ↔
      IsCounted fs settings root path ∧ IsCalledDangling fs settings path := by
  constructor
  · -- Of the judgements of a candidate one only says that it is dangling.
    intro hmem
    obtain ⟨s, found, hcounted, hjudges, heq⟩ := exists_judges hmem rfl
    refine ⟨mem_candidates_iff.1 (Verdicts.mem_candidates.2 ⟨_, hmem, rfl⟩), ?_⟩
    rw [isCalledDangling_iff hsound hcounted]
    cases hjudges with
    | dangling hsize hlink => exact ⟨hsize, hlink⟩
    | unclear hsize => simp [Search.verdict, hsize] at heq
    | unsuitable hsize hlink => simp [Search.verdict, hsize, hlink] at heq
    | tooLarge hsize hlimit hlarge => simp [Search.verdict, hsize, hlimit, hlarge] at heq
    | tooMany hsize hlimit hsmall hmany =>
      simp [Search.verdict, hsize, hlimit, Int.not_lt.2 hsmall, hmany] at heq
    | taken hsize hlimit hsmall hroom =>
      simp [Search.verdict, hsize, hlimit, Int.not_lt.2 hsmall, hroom] at heq
  · rintro ⟨hcandidate, hdangling⟩
    obtain ⟨verdict, hsaid, hcounts⟩ := Verdicts.mem_candidates.1 (mem_candidates_iff.2 hcandidate)
    obtain ⟨s, found, hcounted, hjudges, rfl⟩ := exists_judges hsaid hcounts
    obtain ⟨hsize, hlink⟩ := (isCalledDangling_iff hsound hcounted).1 hdangling
    have hverdict : Search.verdict fs settings path s.found.files.length = .left .dangling := by
      simp [Search.verdict, hsize, hlink]
    rwa [hverdict] at hsaid

/-! ## Warnings -/

/-- A warning tells one of the reasons. -/
theorem mem_warnings_iff (hsound : fs.IsSound) {found : Search}
    (h : search fs settings root = .ok found) {warning : String} :
    warning ∈ found.warnings ↔ ∃ path reason, ∃ verdict : Verdict,
      (path, verdict) ∈ verdicts fs settings root ∧ verdict.reason? = some reason ∧
        reason.text settings.shownMaxFiles path.text = warning := by
  obtain ⟨last, hexplore, rfl⟩ := search_eq_ok_iff.1 h
  rw [(explore_accounts hsound hexplore).found]
  constructor
  · intro hmem
    obtain ⟨⟨path, reason⟩, hreasons, rfl⟩ := List.mem_map.1 hmem
    obtain ⟨verdict, hsaid, hreason⟩ := Verdicts.mem_reasons.1 hreasons
    exact ⟨path, reason, verdict, hsaid, hreason, rfl⟩
  · rintro ⟨path, reason, verdict, hsaid, hreason, rfl⟩
    exact List.mem_map.2 ⟨(path, reason), Verdicts.mem_reasons.2 ⟨verdict, hsaid, hreason⟩, rfl⟩

/-- A warning of a loop or of a dangling link is about a path of which just that was said. -/
theorem mem_warnings_of_pause (hsound : fs.IsSound) {found : Search}
    (h : search fs settings root = .ok found) {reason : Reason} (hpause : reason.isPause = true)
    (shown : String) :
    reason.text settings.shownMaxFiles shown ∈ found.warnings ↔
      ∃ path, path.text = shown ∧ (path, .left reason) ∈ verdicts fs settings root := by
  rw [mem_warnings_iff hsound h]
  constructor
  · -- The text tells the reason, and the reason is told of one path only.
    rintro ⟨path, other, verdict, hsaid, hreason, htext⟩
    obtain ⟨rfl, rfl⟩ := Reason.eq_of_text_eq hpause htext
    refine ⟨path, rfl, ?_⟩
    cases verdict with
    | left told =>
      cases hreason
      exact hsaid
    | shut here =>
      cases hreason
      cases hpause
    | _ => cases hreason
  · rintro ⟨path, rfl, hsaid⟩
    exact ⟨path, reason, _, hsaid, rfl, rfl⟩

/-- **Which causes there are for warnings of loops and of dangling links.** A search warns of a loop
at the paths at which it comes to a directory that it has opened. That directory was opened on the
way there, or else in an earlier branch; it circles in the first case only. If links are not
followed there is neither. A search calls dangling the candidates that are links to nothing, to a
pipe, or to a directory that it does not go into. -/
theorem search_causes (hsound : fs.IsSound) {found : Search}
    (h : search fs settings root = .ok found) :
    (∀ shown, "Symlink loop at " ++ shown ++ ", skipping" ∈ found.warnings ↔
      ∃ path here s, path.text = shown ∧ Revisits fs settings root path here s) ∧
    (∀ path here s, Revisits fs settings root path here s → settings.followLinks = true ∧
      ∃ first, Opens fs settings root first here ∧ fs.locate true first = .ok here ∧
        (Circles fs root path here ∧ first.IsAbove path ∨
          ¬Circles fs root path here ∧ Precedes first.parts path.parts)) ∧
    ∀ shown, "Dangling symlink " ++ shown ++ ", skipping" ∈ found.warnings ↔
      ∃ path, path.text = shown ∧ IsCounted fs settings root path ∧
        IsCalledDangling fs settings path := by
  have hloop : Reason.isPause .revisited = true := rfl
  have hdangling : Reason.isPause .dangling = true := rfl
  refine ⟨fun shown => ?_, fun path here s hrevisits => ⟨?_, ?_⟩, fun shown => ?_⟩
  · refine (mem_warnings_of_pause hsound h hloop shown).trans ?_
    constructor
    · rintro ⟨path, htext, hsaid⟩
      obtain ⟨here, s, hrevisits⟩ := mem_revisited_iff.1 hsaid
      exact ⟨path, here, s, htext, hrevisits⟩
    · rintro ⟨path, here, s, htext, hrevisits⟩
      exact ⟨path, htext, mem_revisited_iff.2 ⟨here, s, hrevisits⟩⟩
  · by_contra hfollow
    exact not_revisits hsound (eq_false_of_ne_true hfollow) hrevisits
  · obtain ⟨first, hopens, hcases⟩ := exists_opening hsound hrevisits
    exact ⟨first, hopens, hopens.locate_eq, hcases⟩
  · refine (mem_warnings_of_pause hsound h hdangling shown).trans ?_
    refine exists_congr fun path => and_congr_right fun _ => mem_dangling_iff hsound

/-! ## A directory in two branches, and a link to a pipe -/

/-- A directory with a link to it beside it, and a pipe with a link to it. -/
def branching : FileSystem where
  entries := [("d", .directory []), ("e", .link "d"), ("p.js", .pipe), ("q.js", .link "p.js")]
  room := 8

theorem isSound_branching : branching.IsSound := by
  decide

theorem search_branching : search branching following ⟨true, []⟩
    = .ok ⟨[], 2, ["Symlink loop at /e, skipping", "Dangling symlink /q.js, skipping"]⟩ := by
  refine search_eq_ok_iff.2 ⟨⟨[[], ["d"]], _, []⟩, ?_, rfl⟩
  rw [explore, if_neg (by decide)]
  exact Stage.resume_of_advance (n := 7) (by cbv) rfl

/-- The link beside the directory does not lead back to where it is. -/
theorem not_circles_branching {s : Stage} (htext : path.text = "/e")
    (h : Revisits branching following ⟨true, []⟩ path here s) :
    ¬Circles branching ⟨true, []⟩ path here := by
  have hroot : (⟨true, []⟩ : Path).text ≠ "/e" := by decide
  -- The warning tells the path, and at no path above it does one come to the same place.
  have hpath : path = Path.along ⟨true, []⟩ ["e"] := by
    rcases eq_root_or_exists_names isSound_branching (mem_revisited_iff.2 ⟨here, s, h⟩) with
      rfl | ⟨names, hne, rfl, hslash⟩
    · exact absurd htext hroot
    · rw [text_along_injective hne (List.cons_ne_nil "e" []) hslash (by decide) htext]
  rintro ⟨above, -, habove, hlocate⟩
  have hplace := h.located
  rw [hpath] at hplace habove
  have hlink : branching.locate true (Path.along ⟨true, []⟩ ["e"]) = .ok ["d"] := by cbv
  rw [hlink] at hplace
  cases hplace
  have hbelow : above.IsAbove (below ⟨true, []⟩ "e") := habove
  rcases hbelow.eq_or_isAbove with rfl | hempty
  · have htop : branching.locate true ⟨true, []⟩ = .ok [] := by cbv
    rw [htop] at hlocate
    cases hlocate
  · exact hempty.not_isPrefix (List.nil_prefix)

/-- Neither warning names the true cause: the first directory is not on the way to the link, and the
second link leads to a pipe. -/
theorem search_causes_branching :
    branching.IsSound ∧ ∃ found, search branching following ⟨true, []⟩ = .ok found ∧
      (∃ path here s first, path.text = "/e" ∧
        Revisits branching following ⟨true, []⟩ path here s ∧
          Opens branching following ⟨true, []⟩ first here ∧
            ¬Circles branching ⟨true, []⟩ path here ∧ Precedes first.parts path.parts) ∧
      ∃ path, path.text = "/q.js" ∧ IsCounted branching following ⟨true, []⟩ path ∧
        IsCalledDangling branching following path := by
  obtain ⟨hloops, hrevisits, hdangling⟩ := search_causes isSound_branching search_branching
  obtain ⟨path, here, s, htext, hagain⟩ := (hloops "/e").1 (by decide)
  obtain ⟨-, first, hopens, -, hcases⟩ := hrevisits path here s hagain
  have hcauses := (hdangling "/q.js").1 (by decide)
  refine ⟨isSound_branching, _, search_branching, ⟨path, here, s, first, htext, hagain, hopens, ?_⟩,
    hcauses⟩
  rcases hcases with ⟨hcircles, -⟩ | hbranch
  · exact absurd hcircles (not_circles_branching htext hagain)
  · exact hbranch

end ScriptAudit
