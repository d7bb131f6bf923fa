import ScriptAudit.Proofs.SearchFailure
import ScriptAudit.Proofs.SearchOrder

/-!
# What a search says about one path after the other

A search makes up its mind about the paths that it comes to: a directory is opened, a candidate is
taken in, or something is left out, mostly for a reason that a warning tells. These verdicts, one
after the other, make up all that a search finds.

- `Reason`, `Verdict`: why something is left out, and what may be said about a path.
- `Stage.verdict?`: what is said about a path that is looked at, if anything.
- `Stage.verdicts`: all that a run says.
- `Stage.Accounts`: the verdicts up to a stage, from which what was found there can be read off.
  `Stage.Accounts.step` says that every step keeps it so.
- `explore_accounts`: **a search finds what its verdicts say**, and there are no two about one path.
-/

namespace ScriptAudit

open Search

variable {fs : FileSystem} {settings : Settings} {root path : Path}

/-- Why something is left out of a search. -/
inductive Reason where
  | unopened (e : AccessError)
  | revisited
  | unknown (e : AccessError)
  | unclear (e : AccessError)
  | dangling
  | tooLarge (size : Nat)
  | tooMany
  deriving DecidableEq, Repr

namespace Reason

/-- Whether a reason is one for leaving out a candidate, and not something else. -/
def isOfFile : Reason → Bool
  | unclear _ | dangling | tooLarge _ | tooMany => true
  | _ => false

/-- The warning that tells a reason, about a path with some text. The text of the number of files
allowed is part of one of them. -/
def text (allowed shown : String) : Reason → String
  | unopened e => "Skipping directory " ++ shown ++ ": " ++ e.text
  | revisited => "Symlink loop at " ++ shown ++ ", skipping"
  | unknown e => "Skipping " ++ shown ++ ": " ++ e.text
  | unclear e => "Cannot stat " ++ shown ++ ": " ++ e.text
  | dangling => "Dangling symlink " ++ shown ++ ", skipping"
  | tooLarge size => "Skipping " ++ shown ++ ": " ++ natText size ++ " bytes exceeds size limit"
  | tooMany => "Skipping " ++ shown ++ ": max files limit (" ++ allowed ++ ")"

end Reason

/-- The number of files allowed as it is shown. -/
def Settings.shownMaxFiles (settings : Settings) : String :=
  settings.maxFiles.toValue.display

/-- What a search may say about a path: a directory is opened, or cannot be since it may not be read,
something is left out, a candidate is left out without a word, or it is taken in. -/
inductive Verdict where
  | opened (here : Location)
  | shut (here : Location)
  | left (reason : Reason)
  | silent
  | taken
  deriving DecidableEq, Repr

namespace Verdict

/-- Whether a verdict is one on a candidate. -/
def counts : Verdict → Bool
  | opened _ | shut _ => false
  | left reason => reason.isOfFile
  | silent | taken => true

/-- Whether a verdict is that a directory is opened. -/
def isOpening : Verdict → Bool
  | opened _ => true
  | _ => false

/-- The directory that a verdict says to be come to for the first time. -/
def opened? : Verdict → Option Location
  | opened here | shut here => some here
  | _ => none

/-- The reason that a verdict gives for leaving something out. -/
def reason? : Verdict → Option Reason
  | left reason => some reason
  | shut _ => some (.unopened .denied)
  | _ => none

end Verdict

/-- Paths and what was said about them, in the order in which it was said. -/
abbrev Verdicts := List (Path × Verdict)

namespace Verdicts

/-- The candidates. -/
def candidates (said : Verdicts) : List Path :=
  (said.filter (·.2.counts)).map (·.1)

/-- The candidates that were taken in. -/
def files (said : Verdicts) : List Path :=
  (said.filter (·.2 = .taken)).map (·.1)

/-- The reasons given, each with the path that it is about. -/
def reasons (said : Verdicts) : List (Path × Reason) :=
  said.filterMap fun entry => entry.2.reason?.map (entry.1, ·)

/-- The directories that were come to, in that order. -/
def openings (said : Verdicts) : List Location :=
  said.filterMap (·.2.opened?)

/-- What was found, going by what was said. -/
def found (settings : Settings) (said : Verdicts) : Search where
  files := said.files
  discovered := said.candidates.length
  warnings := said.reasons.map fun entry => entry.2.text settings.shownMaxFiles entry.1.text

variable {said : Verdicts}

theorem mem_candidates : path ∈ said.candidates ↔
    ∃ verdict : Verdict, (path, verdict) ∈ said ∧ verdict.counts = true := by
  simp [candidates]

theorem mem_files : path ∈ said.files ↔ (path, .taken) ∈ said := by
  simp [files]

theorem mem_reasons {reason : Reason} : (path, reason) ∈ said.reasons ↔
    ∃ verdict : Verdict, (path, verdict) ∈ said ∧ verdict.reason? = some reason := by
  constructor
  · intro hmem
    obtain ⟨⟨about, verdict⟩, hsaid, hmap⟩ := List.mem_filterMap.1 hmem
    obtain ⟨told, hreason, heq⟩ := Option.map_eq_some_iff.1 hmap
    cases heq
    exact ⟨verdict, hsaid, hreason⟩
  · rintro ⟨verdict, hsaid, hreason⟩
    exact List.mem_filterMap.2 ⟨_, hsaid, by rw [hreason, Option.map_some]⟩

theorem mem_openings {here : Location} : here ∈ said.openings ↔
    ∃ path, ∃ verdict : Verdict, (path, verdict) ∈ said ∧ verdict.opened? = some here := by
  constructor
  · intro hmem
    obtain ⟨⟨path, verdict⟩, hsaid, hopened⟩ := List.mem_filterMap.1 hmem
    exact ⟨path, verdict, hsaid, hopened⟩
  · rintro ⟨path, verdict, hsaid, hopened⟩
    exact List.mem_filterMap.2 ⟨_, hsaid, hopened⟩

end Verdicts

/-! ## What is said about a path -/

/-- What is said about a candidate, with so many files taken in before. -/
def Search.verdict (fs : FileSystem) (settings : Settings) (path : Path) (count : Nat) : Verdict :=
  match fileSize? fs path with
  | .error e => .left (.unclear e)
  | .ok none => if isLink fs path then .left .dangling else .silent
  | .ok (some size) =>
    match settings.sizeLimit with
    | .error _ => .silent
    | .ok limit =>
      if limit < (size : Int) then .left (.tooLarge size)
      else if settings.maxFiles.isAtMost count then .left .tooMany
      else .taken

/-- What counts is no directory. -/
theorem Verdict.of_counts {verdict : Verdict} (h : verdict.counts = true) :
    verdict.isOpening = false ∧ verdict.opened? = none := by
  cases verdict with
  | opened here | shut here => cases h
  | _ => exact ⟨rfl, rfl⟩

namespace Stage

/-- What is said about something that is looked at. Nothing is said about what is excluded, what is
no script, and a directory before it is opened. -/
def verdict? (fs : FileSystem) (settings : Settings) (s : Stage) : Pending → Option Verdict
  | .directory path =>
    match fs.locate true path with
    | .error e => some (.left (.unopened e))
    | .ok here =>
      match fs.at? here with
      | some (.directory _) =>
        some (if s.opened.contains here then .left .revisited
          else if fs.mayRead here then .opened here else .shut here)
      | _ => some (.left (.unopened .notDirectory))
  | .entry path =>
    if settings.excludeDirs.contains path.name then none
    else
      match leadsTo fs settings.followLinks Entry.isDirectory path with
      | .error e => some (.left (.unknown e))
      | .ok true => none
      | .ok false =>
        if isSourceName settings.sourceExtensions path.name then
          some (Search.verdict fs settings path s.found.files.length)
        else none

/-- What is said about something that is looked at, with its path. -/
def verdictsOn (fs : FileSystem) (settings : Settings) (s : Stage) (item : Pending) : Verdicts :=
  ((s.verdict? fs settings item).map (pendingPath item, ·)).toList

/-- All that a run says. -/
def verdicts (fs : FileSystem) (settings : Settings) (root : Path) : Stage → Verdicts
  | ⟨_, _, []⟩ => []
  | ⟨opened, found, item :: agenda⟩ =>
    match _hstep : step fs settings root item ⟨opened, found, agenda⟩ with
    | .ok next =>
      verdictsOn fs settings ⟨opened, found, agenda⟩ item ++ verdicts fs settings root next
    | .error _ => []
termination_by s => s.workLeft fs
decreasing_by exact workLeft_step _hstep

variable {s next : Stage} {item : Pending} {said : Verdicts}

theorem verdicts_of_moves {opened : List Location} {found : Search} {agenda : List Pending}
    (hfits : item.fits fs root = true) (h : Moves fs settings item ⟨opened, found, agenda⟩ next) :
    verdicts fs settings root ⟨opened, found, item :: agenda⟩
      = verdictsOn fs settings ⟨opened, found, agenda⟩ item ++ verdicts fs settings root next := by
  rw [verdicts, step_iff_moves.2 ⟨hfits, h⟩]

end Stage

/-! ## One verdict more -/

/-- What was found, with one verdict more. -/
def Search.add (settings : Settings) (path : Path) (s : Search) : Verdict → Search
  | .opened _ => s
  | .shut _ => s.warn ((Reason.unopened .denied).text settings.shownMaxFiles path.text)
  | .left reason =>
    (if reason.isOfFile then s.counted else s).warn (reason.text settings.shownMaxFiles path.text)
  | .silent => s.counted
  | .taken => { s.counted with files := s.files ++ [path] }

/-- A candidate is dealt with as it is said. -/
theorem Search.Judges.eq_add {s found : Search} (h : Judges fs settings path s found) :
    found = s.add settings path (Search.verdict fs settings path s.files.length) := by
  -- One verdict for each way to be judged.
  cases h with
  | unclear hsize =>
    rw [Search.verdict, hsize]
    rfl
  | dangling hsize hlink | unsuitable hsize hlink =>
    rw [Search.verdict, hsize]
    dsimp only
    rw [hlink]
    rfl
  | tooLarge hsize hlimit hlarge =>
    rw [Search.verdict, hsize, hlimit]
    dsimp only
    rw [if_pos hlarge]
    rfl
  | tooMany hsize hlimit hsmall hmany =>
    rw [Search.verdict, hsize, hlimit]
    dsimp only
    rw [if_neg (Int.not_lt.2 hsmall), if_pos hmany]
    rfl
  | taken hsize hlimit hsmall hroom =>
    rw [Search.verdict, hsize, hlimit]
    dsimp only
    rw [if_neg (Int.not_lt.2 hsmall), if_neg (by simp [hroom])]
    rfl

/-- What was found can be read off the verdicts, one after the other. -/
theorem Verdicts.found_concat (settings : Settings) (said : Verdicts) (path : Path)
    (verdict : Verdict) :
    found settings (said ++ [(path, verdict)]) = (said.found settings).add settings path verdict := by
  -- Files, candidates and reasons grow by what the verdict adds to each.
  have hfiles : Verdicts.files (said ++ [(path, verdict)])
      = said.files ++ if verdict = .taken then [path] else [] := by
    by_cases htaken : verdict = .taken <;> simp [Verdicts.files, htaken]
  have hcandidates : (Verdicts.candidates (said ++ [(path, verdict)])).length
      = said.candidates.length + if verdict.counts then 1 else 0 := by
    cases hcounts : verdict.counts <;> simp [Verdicts.candidates, hcounts]
  have hreasons : Verdicts.reasons (said ++ [(path, verdict)])
      = said.reasons ++ (verdict.reason?.map (path, ·)).toList := by
    cases hreason : verdict.reason? <;> simp [Verdicts.reasons, hreason]
  rw [found, hfiles, hcandidates, hreasons]
  cases verdict with
  | left reason =>
    cases hfile : reason.isOfFile <;>
      simp [Search.add, hfile, Verdict.counts, Verdict.reason?, Search.warn, found, counted]
  | _ => simp [Search.add, Verdict.counts, Verdict.reason?, Search.warn, found, counted]

theorem Verdicts.openings_concat (said : Verdicts) (path : Path) (verdict : Verdict) :
    openings (said ++ [(path, verdict)]) = said.openings ++ verdict.opened?.toList := by
  cases hopened : verdict.opened? <;> simp [openings, hopened]

/-! ## Steps -/

/-- Whether a path goes on from another one. -/
structure Path.IsAbove (above path : Path) : Prop where
  absolute : above.absolute = path.absolute
  parts : above.parts <+: path.parts
  ne : above.parts ≠ path.parts

theorem Path.isAbove_below (path : Path) (name : String) : path.IsAbove (below path name) :=
  ⟨rfl, List.prefix_append _ _, by simp [below]⟩

/-- What is above a path below a directory is the directory or above it. -/
theorem Path.IsAbove.eq_or_isAbove {above path : Path} {name : String}
    (h : above.IsAbove (below path name)) : above = path ∨ above.IsAbove path := by
  rcases List.prefix_concat_iff.1 h.parts with heq | hprefix
  · exact absurd heq h.ne
  · by_cases heq : above.parts = path.parts
    · refine .inl ?_
      cases above
      cases path
      cases heq
      cases h.absolute
      rfl
    · exact .inr ⟨h.absolute, hprefix, heq⟩

theorem Path.IsAbove.below {above path : Path} (h : above.IsAbove path) (name : String) :
    above.IsAbove (Search.below path name) := by
  refine ⟨h.absolute, h.parts.trans (List.prefix_append _ _), fun heq => h.ne ?_⟩
  refine h.parts.eq_of_length_le ?_
  rw [heq]
  exact (List.prefix_append _ _).length_le

/-- What is below a path is not above it. -/
theorem Path.IsAbove.not_isPrefix {above path : Path} (h : above.IsAbove path) :
    ¬path.parts <+: above.parts := fun hprefix =>
  h.ne (h.parts.eq_of_length_le hprefix.length_le)

/-- Whether something is said about a path before anything is said about another one: the first
precedes the other, or it is that of a directory above it which is opened. -/
def Before (entry : Path × Verdict) (path : Path) : Prop :=
  Precedes entry.1.parts path.parts ∨ entry.2.isOpening = true ∧ entry.1.IsAbove path

theorem Before.ne {entry : Path × Verdict} (h : Before entry path) : entry.1.parts ≠ path.parts := by
  rcases h with hprecedes | ⟨-, habove⟩
  · exact hprecedes.ne
  · exact habove.ne

/-- What is said before a path is said before everything below it. -/
theorem Before.below {entry : Path × Verdict} (h : Before entry path) (name : String) :
    Before entry (Search.below path name) := by
  rcases h with hprecedes | ⟨hopening, habove⟩
  · exact .inl (hprecedes.append_right [name])
  · exact .inr ⟨hopening, habove.below name⟩

namespace Stage

variable {s next : Stage} {item : Pending} {said : Verdicts}

/-- What a step does, going by what is said: nothing but to go on with a directory at the same path,
to open a directory, or to come to a verdict on something below which nothing is looked at. That may
be a directory which cannot be opened. -/
inductive Turns (fs : FileSystem) (settings : Settings) (item : Pending) (s next : Stage) : Prop
  | passes (hverdict : s.verdict? fs settings item = none) (hfound : next.found = s.found)
    (hopened : next.opened = s.opened)
    (hagenda : ∀ other ∈ next.agenda,
      other ∈ s.agenda ∨ pendingPath other = pendingPath item)
  | opens {here : Location} (hverdict : s.verdict? fs settings item = some (.opened here))
    (hfresh : here ∉ s.opened) (hfound : next.found = s.found)
    (hopened : next.opened = s.opened ++ [here])
    (hagenda : ∀ other ∈ next.agenda,
      other ∈ s.agenda ∨ ∃ name, pendingPath other = below (pendingPath item) name)
  | settles {verdict : Verdict} (hverdict : s.verdict? fs settings item = some verdict)
    (hclosed : verdict.isOpening = false)
    (hfound : next.found = s.found.add settings (pendingPath item) verdict)
    (hopened : next.opened = s.opened ++ verdict.opened?.toList) (hagenda : next.agenda = s.agenda)

/-- The verdict on a candidate counts. -/
theorem counts_verdict (path : Path) (count : Nat) :
    (Search.verdict fs settings path count).counts = true := by
  unfold Search.verdict
  split
  · rfl
  · split <;> rfl
  · split
    · rfl
    · split
      · rfl
      · split <;> rfl

theorem Moves.turns (h : Moves fs settings item s next) : Turns fs settings item s next := by
  cases h with
  -- A directory that is not opened settles its verdict.
  | @unlocated path _ e hlocate =>
    have hverdict : s.verdict? fs settings (.directory path) = some (.left (.unopened e)) := by
      simp [verdict?, hlocate]
    exact .settles hverdict rfl rfl (List.append_nil _).symm rfl
  | @unsuitable path _ here hlocate hdirectory =>
    have hverdict : s.verdict? fs settings (.directory path)
        = some (.left (.unopened .notDirectory)) := by
      rw [verdict?, hlocate]
      dsimp only
      split
      · rename_i entries hat
        exact absurd ⟨entries, hat⟩ hdirectory
      · rfl
    exact .settles hverdict rfl rfl (List.append_nil _).symm rfl
  | @again path _ here hlocate hdirectory hopened =>
    obtain ⟨entries, hat⟩ := hdirectory
    have hverdict : s.verdict? fs settings (.directory path) = some (.left .revisited) := by
      simp [verdict?, hlocate, hat, hopened]
    exact .settles hverdict rfl rfl (List.append_nil _).symm rfl
  | @shut path _ here hlocate hdirectory hfresh hread =>
    obtain ⟨entries, hat⟩ := hdirectory
    have hverdict : s.verdict? fs settings (.directory path) = some (.shut here) := by
      simp [verdict?, hlocate, hat, hfresh, hread]
    exact .settles hverdict rfl rfl rfl rfl
  -- One that is opened puts its names on the agenda, each below it.
  | opens hlocate hat hfresh hread =>
    refine .opens (by simp [verdict?, hlocate, hat, hfresh, hread]) hfresh rfl rfl
      fun other hmem => ?_
    rcases List.mem_append.1 hmem with hnew | hold
    · obtain ⟨name, -, rfl⟩ := List.mem_map.1 hnew
      exact .inr ⟨name, rfl⟩
    · exact .inl hold
  | excluded hname =>
    -- An entry that is passed over has no verdict yet, and leaves at most itself behind.
    exact .passes (by simp [verdict?, hname]) rfl rfl fun other hmem => .inl hmem
  | @unclear path _ e hname hleads =>
    have hverdict : s.verdict? fs settings (.entry path) = some (.left (.unknown e)) := by
      simp [verdict?, hname, hleads]
    exact .settles hverdict rfl rfl (List.append_nil _).symm rfl
  | descends hname hleads =>
    refine .passes (by simp [verdict?, hname, hleads]) rfl rfl fun other hmem => ?_
    rcases List.mem_cons.1 hmem with rfl | hmem
    · exact .inr rfl
    · exact .inl hmem
  | ignores hname hleads hsource =>
    exact .passes (by simp [verdict?, hname, hleads, hsource]) rfl rfl fun other hmem => .inl hmem
  -- A file settles the verdict of its size, which opens nothing.
  | @judges path _ found hname hleads hsource hjudges =>
    have hverdict : s.verdict? fs settings (.entry path)
        = some (Search.verdict fs settings path s.found.files.length) := by
      simp [verdict?, hname, hleads, hsource]
    obtain ⟨hclosed, hnone⟩ :=
      Verdict.of_counts (@counts_verdict fs settings path s.found.files.length)
    exact .settles hverdict hclosed hjudges.eq_add (by rw [hnone]; exact (List.append_nil _).symm) rfl

/-! ## Runs -/

/-- What was said up to a stage makes up what was found and opened there. Nothing is said about one
path twice, and everything that is still to be looked at comes later than what was said. Everything
above it was opened. -/
structure Accounts (settings : Settings) (root : Path) (said : Verdicts) (s : Stage) : Prop where
  found : s.found = said.found settings
  opened : s.opened = said.openings
  apart : said.Pairwise fun entry other => Before entry other.1
  ahead : ∀ entry ∈ said, ∀ item ∈ s.agenda, Before entry (pendingPath item)
  entered : ∀ item ∈ s.agenda, ∀ above : Path, root.parts <+: above.parts →
    above.IsAbove (pendingPath item) → ∃ here, (above, .opened here) ∈ said
  ordered : s.Ordered

theorem Accounts.start (settings : Settings) (root : Path) :
    Accounts settings root [] (.start root) where
  found := rfl
  opened := rfl
  apart := .nil
  ahead := by simp
  entered item hmem above hroot habove := by
    rw [List.mem_singleton.1 hmem] at habove
    exact absurd hroot habove.not_isPrefix
  ordered := by simp [Stage.Ordered, Stage.paths, Stage.start, Search.nothing]

/-- What is on the agenda behind a path comes later. -/
theorem Ordered.precedes (h : Ordered { s with agenda := item :: s.agenda }) {other : Pending}
    (hmem : other ∈ s.agenda) : Precedes (pendingPath item).parts (pendingPath other).parts := by
  rw [Ordered, paths, List.map_append, List.pairwise_append] at h
  obtain ⟨-, hagenda, -⟩ := h
  rw [List.map_cons, List.map_cons, List.pairwise_cons] at hagenda
  exact hagenda.1 _ (List.mem_map_of_mem (List.mem_map_of_mem hmem))

/-- A verdict more. -/
theorem Accounts.extend {verdict : Verdict}
    (h : Accounts settings root said { s with agenda := item :: s.agenda })
    (hfound : next.found = s.found.add settings (pendingPath item) verdict)
    (hopened : next.opened = s.opened ++ verdict.opened?.toList) (hordered : next.Ordered)
    (hagenda : ∀ other ∈ next.agenda, other ∈ s.agenda ∨ ∃ here name,
      verdict = .opened here ∧ pendingPath other = below (pendingPath item) name) :
    Accounts settings root (said ++ [(pendingPath item, verdict)]) next where
  found := by rw [hfound, Verdicts.found_concat, ← h.found]
  opened := by rw [hopened, Verdicts.openings_concat, ← h.opened]
  apart := by
    refine List.pairwise_append.2 ⟨h.apart, by simp, fun entry hmem other hother => ?_⟩
    rw [List.mem_singleton.1 hother]
    exact h.ahead entry hmem item List.mem_cons_self
  ahead entry hmem other hother := by
    -- What was said before comes before what is left, and so does what is said now.
    rcases List.mem_append.1 hmem with hold | hnew
    · rcases hagenda other hother with hmem | ⟨here, name, -, hbelow⟩
      · exact h.ahead entry hold other (List.mem_cons_of_mem _ hmem)
      · rw [hbelow]
        exact (h.ahead entry hold item List.mem_cons_self).below name
    · rw [List.mem_singleton.1 hnew]
      rcases hagenda other hother with hmem | ⟨here, name, rfl, hbelow⟩
      · exact .inl (h.ordered.precedes hmem)
      · rw [hbelow]
        exact .inr ⟨rfl, Path.isAbove_below _ _⟩
  entered other hother above hroot habove := by
    rcases hagenda other hother with hmem | ⟨here, name, rfl, hbelow⟩
    · obtain ⟨there, hthere⟩ := h.entered other (List.mem_cons_of_mem _ hmem) above hroot habove
      exact ⟨there, List.mem_append_left _ hthere⟩
    · -- A new entry is entered through the directory that was opened, or through what is above that.
      rw [hbelow] at habove
      rcases habove.eq_or_isAbove with rfl | habove
      · exact ⟨here, List.mem_append_right _ (List.mem_singleton_self _)⟩
      · obtain ⟨there, hthere⟩ := h.entered item List.mem_cons_self above hroot habove
        exact ⟨there, List.mem_append_left _ hthere⟩
  ordered := hordered

/-- Every step adds to what was said what it says itself. -/
theorem Accounts.step (hsound : fs.IsSound)
    (h : Accounts settings root said { s with agenda := item :: s.agenda })
    (hmoves : Moves fs settings item s next) :
    Accounts settings root (said ++ s.verdictsOn fs settings item) next := by
  -- The order of the stage is kept, whatever is said.
  have hordered : next.Ordered := h.ordered.step hsound hmoves
  cases hmoves.turns with
  | passes hverdict hfound hopened hagenda =>
    have hon : s.verdictsOn fs settings item = [] := by simp [verdictsOn, hverdict]
    rw [hon, List.append_nil]
    refine ⟨hfound.trans h.found, hopened.trans h.opened, h.apart, ?_, ?_, hordered⟩
    · intro entry hmem other hother
      rcases hagenda other hother with hold | hsame
      · exact h.ahead entry hmem other (List.mem_cons_of_mem _ hold)
      · rw [hsame]
        exact h.ahead entry hmem item List.mem_cons_self
    · intro other hother
      rcases hagenda other hother with hold | hsame
      · exact h.entered other (List.mem_cons_of_mem _ hold)
      · rw [hsame]
        exact h.entered item List.mem_cons_self
  | @opens here hverdict hfresh hfound hopened hagenda =>
    have hon : s.verdictsOn fs settings item = [(pendingPath item, .opened here)] := by
      simp [verdictsOn, hverdict]
    rw [hon]
    refine h.extend hfound hopened hordered fun other hother => ?_
    exact (hagenda other hother).imp_right fun ⟨name, hbelow⟩ => ⟨here, name, rfl, hbelow⟩
  | @settles verdict hverdict hclosed hfound hopened hagenda =>
    have hon : s.verdictsOn fs settings item = [(pendingPath item, verdict)] := by
      simp [verdictsOn, hverdict]
    rw [hon]
    refine h.extend hfound hopened hordered fun other hother => ?_
    rw [hagenda] at hother
    exact .inl hother

/-- What is said at a stage that a search comes to. -/
theorem mem_verdictsOn_iff {verdict : Verdict} :
    (path, verdict) ∈ s.verdictsOn fs settings item ↔
      pendingPath item = path ∧ s.verdict? fs settings item = some verdict := by
  cases hverdict : s.verdict? fs settings item <;> simp [verdictsOn, hverdict, eq_comm]

/-- What a search says from some stage on, it says at the end. -/
theorem Reached.verdicts_suffix (h : Reached fs settings root s) :
    s.verdicts fs settings root <:+ (Stage.start root).verdicts fs settings root := by
  induction h with
  | start => exact List.suffix_refl _
  | step _ hfits hmoves ih =>
    rw [verdicts_of_moves hfits hmoves] at ih
    exact (List.suffix_append _ _).trans ih

/-- The stages that a search comes to have accounts. -/
theorem Reached.exists_accounts (hsound : fs.IsSound) (h : Reached fs settings root s) :
    ∃ said, Accounts settings root said s ∧
      (Stage.start root).verdicts fs settings root = said ++ s.verdicts fs settings root := by
  induction h with
  | start => exact ⟨[], .start settings root, rfl⟩
  | step _ hfits hmoves ih =>
    obtain ⟨said, haccounts, hverdicts⟩ := ih
    refine ⟨_, haccounts.step hsound hmoves, ?_⟩
    rw [hverdicts, verdicts_of_moves hfits hmoves, List.append_assoc]

/-- What a run says is said at some stage. -/
theorem Reached.exists_verdictsOn (h : Reached fs settings root s) {entry : Path × Verdict}
    (hmem : entry ∈ s.verdicts fs settings root) :
    ∃ item, ∃ met next : Stage, Reached fs settings root { met with agenda := item :: met.agenda } ∧
      item.fits fs root = true ∧ Moves fs settings item met next ∧
        entry ∈ met.verdictsOn fs settings item := by
  induction s using resume.induct fs settings root with
  | case1 opened found =>
    rw [verdicts] at hmem
    cases hmem
  | case2 opened found item agenda next hnext ih =>
    obtain ⟨hfits, hmoves⟩ := step_iff_moves.1 hnext
    rw [verdicts_of_moves hfits hmoves] at hmem
    rcases List.mem_append.1 hmem with hhere | hlater
    · exact ⟨item, ⟨opened, found, agenda⟩, next, h, hfits, hmoves, hhere⟩
    · -- What is said later is said at a later stage of the same run.
      exact ih (.step (s := ⟨opened, found, agenda⟩) h hfits hmoves) hlater
  | case3 opened found item agenda e herror =>
    rw [verdicts, herror] at hmem
    cases hmem

end Stage

/-! ## Whole searches -/

/-- All that a search says. -/
def verdicts (fs : FileSystem) (settings : Settings) (root : Path) : Verdicts :=
  (Stage.start root).verdicts fs settings root

/-- What a search says is what is said at the stages that it comes to. -/
theorem mem_verdicts_iff {verdict : Verdict} :
    (path, verdict) ∈ verdicts fs settings root ↔
      ∃ item, ∃ s next : Stage,
        Stage.Reached fs settings root { s with agenda := item :: s.agenda } ∧
          item.fits fs root = true ∧ Stage.Moves fs settings item s next ∧
            Stage.pendingPath item = path ∧ s.verdict? fs settings item = some verdict := by
  constructor
  · intro hmem
    obtain ⟨item, s, next, hreached, hfits, hmoves, hsaid⟩ :=
      Stage.Reached.start.exists_verdictsOn hmem
    exact ⟨item, s, next, hreached, hfits, hmoves, Stage.mem_verdictsOn_iff.1 hsaid⟩
  · rintro ⟨item, s, next, hreached, hfits, hmoves, hsaid⟩
    refine hreached.verdicts_suffix.subset ?_
    rw [Stage.verdicts_of_moves hfits hmoves]
    exact List.mem_append_left _ (Stage.mem_verdictsOn_iff.2 hsaid)

/-- A search ends at a stage that it comes to. -/
theorem reached_of_explore {last : Stage} (h : explore fs settings root = .ok last) :
    Stage.Reached fs settings root last ∧ last.agenda = [] :=
  explore_preserves (fun _ _ _ hs hfits hmoves => hs.step hfits hmoves) .start h

/-- **A search finds what its verdicts say.** There are no two about one path. -/
theorem explore_accounts (hsound : fs.IsSound) {last : Stage}
    (h : explore fs settings root = .ok last) :
    last.Accounts settings root (verdicts fs settings root) := by
  obtain ⟨hreached, hagenda⟩ := reached_of_explore h
  obtain ⟨said, haccounts, hverdicts⟩ := hreached.exists_accounts hsound
  obtain ⟨opened, found, agenda⟩ := last
  cases hagenda
  rw [Stage.verdicts, List.append_nil] at hverdicts
  rw [verdicts, hverdicts]
  exact haccounts

end ScriptAudit
