import ScriptAudit.Proofs.FallibleSteps
import ScriptAudit.Proofs.LookUp

/-!
# Runs of the search

What one step of the search can do, said once, and what follows for whole runs.

- `Search.Judges`: what comes of a candidate, by the reason for it.
- `Stage.Moves`: what comes of a stage in one step, by the reason for it.
- `Stage.resume_preserves`: **what every step preserves holds at the end of a run**, where nothing
  is left to be looked at.
- `Stage.advance`: a number of steps, from which a run can be computed.
-/

namespace ScriptAudit

variable {fs : FileSystem} {settings : Settings} {path : Path}

/-! ## Candidates -/

namespace Search

/-- One more candidate. -/
def counted (s : Search) : Search :=
  { s with discovered := s.discovered + 1 }

/-- What comes of a candidate. -/
inductive Judges (fs : FileSystem) (settings : Settings) (path : Path) (s : Search) : Search → Prop
  | unclear {e : AccessError} (hsize : fileSize? fs path = .error e) :
    Judges fs settings path s (s.counted.warn ("Cannot stat " ++ path.text ++ ": " ++ e.text))
  | dangling (hsize : fileSize? fs path = .ok none) (hlink : isLink fs path = true) :
    Judges fs settings path s (s.counted.warn ("Dangling symlink " ++ path.text ++ ", skipping"))
  | unsuitable (hsize : fileSize? fs path = .ok none) (hlink : isLink fs path = false) :
    Judges fs settings path s s.counted
  | tooLarge {size : Nat} {limit : Int} (hsize : fileSize? fs path = .ok (some size))
    (hlimit : settings.sizeLimit = .ok limit) (hlarge : limit < (size : Int)) :
    Judges fs settings path s (s.counted.warn
      ("Skipping " ++ path.text ++ ": " ++ natText size ++ " bytes exceeds size limit"))
  | tooMany {size : Nat} {limit : Int} (hsize : fileSize? fs path = .ok (some size))
    (hlimit : settings.sizeLimit = .ok limit) (hsmall : (size : Int) ≤ limit)
    (hmany : settings.maxFiles.isAtMost s.files.length = true) :
    Judges fs settings path s (s.counted.warn
      ("Skipping " ++ path.text ++ ": max files limit ("
        ++ settings.maxFiles.toValue.display ++ ")"))
  | taken {size : Nat} {limit : Int} (hsize : fileSize? fs path = .ok (some size))
    (hlimit : settings.sizeLimit = .ok limit) (hsmall : (size : Int) ≤ limit)
    (hroom : settings.maxFiles.isAtMost s.files.length = false) :
    Judges fs settings path s { s.counted with files := s.files ++ [path] }

variable {s found : Search}

theorem judges_of_consider (h : consider fs settings path s = .ok found) :
    Judges fs settings path s found := by
  -- One way of being judged for each end of the test.
  unfold consider at h
  cases hsize : fileSize? fs path with
  | error e =>
    rw [hsize] at h
    cases h
    exact .unclear hsize
  | ok size? =>
    rw [hsize] at h
    cases size? with
    | none =>
      cases hlink : isLink fs path with
      | true =>
        rw [hlink] at h
        cases h
        exact .dangling hsize hlink
      | false =>
        rw [hlink] at h
        cases h
        exact .unsuitable hsize hlink
    | some size =>
      unfold takeIn at h
      cases hlimit : settings.sizeLimit with
      | error e =>
        rw [hlimit] at h
        cases h
      | ok limit =>
        rw [hlimit] at h
        simp only [Except.map, Except.ok.injEq] at h
        by_cases hlarge : limit < (size : Int)
        · rw [if_pos hlarge] at h
          cases h
          exact .tooLarge hsize hlimit hlarge
        · rw [if_neg hlarge] at h
          cases hmany : settings.maxFiles.isAtMost s.files.length with
          -- Only the files found so far are counted against the limit.
          | true =>
            rw [hmany] at h
            cases h
            exact .tooMany hsize hlimit (Int.not_lt.1 hlarge) hmany
          | false =>
            rw [hmany] at h
            cases h
            exact .taken hsize hlimit (Int.not_lt.1 hlarge) hmany

theorem consider_of_judges (h : Judges fs settings path s found) :
    consider fs settings path s = .ok found := by
  cases h with
  | unclear hsize => simp [consider, hsize, counted]
  | dangling hsize hlink | unsuitable hsize hlink => simp [consider, hsize, hlink, counted]
  | tooLarge hsize hlimit hlarge =>
    simp [consider, hsize, takeIn, hlimit, hlarge, Except.map, counted]
  | tooMany hsize hlimit hsmall hmany =>
    simp [consider, hsize, takeIn, hlimit, Int.not_lt.2 hsmall, hmany, Except.map, counted]
  | taken hsize hlimit hsmall hroom =>
    simp [consider, hsize, takeIn, hlimit, Int.not_lt.2 hsmall, hroom, Except.map, counted]

/-- A candidate is judged whatever it is, if the size limit can be computed. -/
theorem exists_consider {limit : Int} (hlimit : settings.sizeLimit = .ok limit)
    (fs : FileSystem) (path : Path) (s : Search) :
    ∃ found, consider fs settings path s = .ok found := by
  unfold consider takeIn
  rw [hlimit]
  split <;> exact ⟨_, rfl⟩

/-- Warnings are never taken back. -/
theorem Judges.warnings_subset (h : Judges fs settings path s found) :
    s.warnings ⊆ found.warnings := by
  cases h <;> simp [counted, Search.warn]

theorem mem_sortedNames {entries : List (String × Entry)} {name : String} :
    name ∈ sortedNames entries ↔ name ∈ entries.map (·.1) := by
  rw [sortedNames, List.mem_mergeSort]

/-- Names that are in order stay as they are. -/
theorem sortedNames_of_pairwise {entries : List (String × Entry)}
    (h : (entries.map (·.1)).Pairwise (· ≤ ·)) : sortedNames entries = entries.map (·.1) :=
  List.mergeSort_of_pairwise (h.imp fun hle => by simpa using hle)

end Search

/-! ## Steps -/

namespace Stage

open Search

/-- What comes of a stage when something pending is looked at, which is on the agenda no more. -/
inductive Moves (fs : FileSystem) (settings : Settings) : Pending → Stage → Stage → Prop
  | unlocated {path : Path} {s : Stage} {e : AccessError}
    (hlocate : fs.locate true path = .error e) :
    Moves fs settings (.directory path) s
      (s.warn ("Skipping directory " ++ path.text ++ ": " ++ e.text))
  | unsuitable {path : Path} {s : Stage} {here : Location}
    (hlocate : fs.locate true path = .ok here) (hdirectory : ¬fs.HasDirectory here) :
    Moves fs settings (.directory path) s
      (s.warn ("Skipping directory " ++ path.text ++ ": " ++ AccessError.notDirectory.text))
  | again {path : Path} {s : Stage} {here : Location}
    (hlocate : fs.locate true path = .ok here) (hdirectory : fs.HasDirectory here)
    (hopened : here ∈ s.opened) :
    Moves fs settings (.directory path) s (s.warn ("Symlink loop at " ++ path.text ++ ", skipping"))
  | shut {path : Path} {s : Stage} {here : Location}
    (hlocate : fs.locate true path = .ok here) (hdirectory : fs.HasDirectory here)
    (hfresh : here ∉ s.opened) (hread : fs.mayRead here = false) :
    Moves fs settings (.directory path) s
      { s.warn ("Skipping directory " ++ path.text ++ ": " ++ AccessError.denied.text) with
        opened := s.opened ++ [here] }
  | opens {path : Path} {s : Stage} {here : Location} {entries : List (String × Entry)}
    (hlocate : fs.locate true path = .ok here) (hat : fs.at? here = some (.directory entries))
    (hfresh : here ∉ s.opened) (hread : fs.mayRead here = true) :
    Moves fs settings (.directory path) s
      { s with
        opened := s.opened ++ [here]
        agenda := (sortedNames entries).map (fun name => .entry (below path name)) ++ s.agenda }
  | excluded {path : Path} {s : Stage} (hname : path.name ∈ settings.excludeDirs) :
    Moves fs settings (.entry path) s s
  | unclear {path : Path} {s : Stage} {e : AccessError} (hname : path.name ∉ settings.excludeDirs)
    (hleads : leadsTo fs settings.followLinks Entry.isDirectory path = .error e) :
    Moves fs settings (.entry path) s (s.warn ("Skipping " ++ path.text ++ ": " ++ e.text))
  | descends {path : Path} {s : Stage} (hname : path.name ∉ settings.excludeDirs)
    (hleads : leadsTo fs settings.followLinks Entry.isDirectory path = .ok true) :
    Moves fs settings (.entry path) s { s with agenda := .directory path :: s.agenda }
  | ignores {path : Path} {s : Stage} (hname : path.name ∉ settings.excludeDirs)
    (hleads : leadsTo fs settings.followLinks Entry.isDirectory path = .ok false)
    (hsource : isSourceName settings.sourceExtensions path.name = false) :
    Moves fs settings (.entry path) s s
  | judges {path : Path} {s : Stage} {found : Search} (hname : path.name ∉ settings.excludeDirs)
    (hleads : leadsTo fs settings.followLinks Entry.isDirectory path = .ok false)
    (hsource : isSourceName settings.sourceExtensions path.name = true)
    (hjudges : Judges fs settings path s.found found) :
    Moves fs settings (.entry path) s { s with found }

variable {item : Pending} {s next : Stage}

theorem moves_of_enter (path : Path) (s : Stage) :
    Moves fs settings (.directory path) s (s.enter fs path) := by
  unfold enter
  cases hlocate : fs.locate true path with
  | error e => exact .unlocated hlocate
  | ok here =>
    -- What the path leads to is a directory, or it is not there to be opened.
    by_cases hdirectory : fs.HasDirectory here
    · obtain ⟨entries, hat⟩ := hdirectory
      simp only [hat]
      by_cases hopened : here ∈ s.opened
      · rw [if_pos (by simpa using hopened)]
        exact .again hlocate ⟨entries, hat⟩ hopened
      · rw [if_neg (by simpa using hopened)]
        cases hread : fs.mayRead here with
        | true => exact .opens hlocate hat hopened hread
        | false => exact .shut hlocate ⟨entries, hat⟩ hopened hread
    · dsimp only
      split
      · rename_i entries hat
        exact absurd ⟨entries, hat⟩ hdirectory
      · exact .unsuitable hlocate hdirectory

/-- A script file is considered, and nothing else changes. -/
theorem lookAt_of_source {path : Path} (hname : path.name ∉ settings.excludeDirs)
    (hleads : leadsTo fs settings.followLinks Entry.isDirectory path = .ok false)
    (hsource : isSourceName settings.sourceExtensions path.name = true) (s : Stage) :
    s.lookAt fs settings path
      = (consider fs settings path s.found).map fun found => { s with found } := by
  simp [lookAt, hname, hleads, hsource]

/-- What an entry is settles what is done with it, unless it is a script file. -/
theorem lookAt_cases (fs : FileSystem) (settings : Settings) (path : Path) (s : Stage) :
    (∃ next, s.lookAt fs settings path = .ok next ∧ Moves fs settings (.entry path) s next) ∨
      path.name ∉ settings.excludeDirs ∧
        leadsTo fs settings.followLinks Entry.isDirectory path = .ok false ∧
        isSourceName settings.sourceExtensions path.name = true := by
  -- Name, kind and extension are asked for in this order.
  by_cases hname : path.name ∈ settings.excludeDirs
  · exact .inl ⟨s, by simp [lookAt, hname], .excluded hname⟩
  · cases hleads : leadsTo fs settings.followLinks Entry.isDirectory path with
    | error e => exact .inl ⟨_, by simp [lookAt, hname, hleads], .unclear hname hleads⟩
    | ok isDirectory =>
      cases isDirectory with
      | true => exact .inl ⟨_, by simp [lookAt, hname, hleads], .descends hname hleads⟩
      | false =>
        cases hsource : isSourceName settings.sourceExtensions path.name with
        | false => exact .inl ⟨s, by simp [lookAt, hname, hleads, hsource],
            .ignores hname hleads hsource⟩
        | true => exact .inr ⟨hname, rfl, rfl⟩

theorem moves_of_lookAt (h : s.lookAt fs settings path = .ok next) :
    Moves fs settings (.entry path) s next := by
  rcases lookAt_cases fs settings path s with ⟨other, hother, hmoves⟩ | ⟨hname, hleads, hsource⟩
  · cases hother.symm.trans h
    exact hmoves
  · rw [lookAt_of_source hname hleads hsource] at h
    obtain ⟨found, hfound, rfl⟩ := map_eq_ok_iff.1 h
    exact .judges hname hleads hsource (judges_of_consider hfound)

theorem step_of_fits {root : Path} (hfits : item.fits fs root = true) (s : Stage) :
    s.step fs settings root item = s.look fs settings item := by
  rw [step, if_pos hfits]

/-- An entry of a directory takes no room. -/
@[simp] theorem step_entry {root : Path} (path : Path) (s : Stage) :
    s.step fs settings root (.entry path) = s.lookAt fs settings path :=
  step_of_fits rfl s

/-- A directory for which there is no room cannot be entered. -/
theorem step_of_not_fits {root : Path} (hdeep : item.fits fs root = false) (s : Stage) :
    s.step fs settings root item = .error tooDeep := by
  rw [step, if_neg (by simp [hdeep])]

theorem step_of_moves {root : Path} (hfits : item.fits fs root = true)
    (h : Moves fs settings item s next) : s.step fs settings root item = .ok next := by
  rw [step_of_fits hfits]
  -- The move says what each question is answered with.
  cases h with
  | unlocated hlocate => simp [look, enter, hlocate]
  | unsuitable hlocate hdirectory =>
    simp only [look, enter, hlocate]
    split
    · rename_i entries hat
      exact absurd ⟨entries, hat⟩ hdirectory
    · rfl
  | again hlocate hdirectory hopened =>
    obtain ⟨entries, hat⟩ := hdirectory
    simp [look, enter, hlocate, hat, hopened]
  | shut hlocate hdirectory hfresh hread =>
    obtain ⟨entries, hat⟩ := hdirectory
    simp [look, enter, hlocate, hat, hfresh, hread]
  | opens hlocate hat hfresh hread => simp [look, enter, hlocate, hat, hfresh, hread]
  | excluded hname => simp [look, lookAt, hname]
  | unclear hname hleads | descends hname hleads => simp [look, lookAt, hname, hleads]
  | ignores hname hleads hsource => simp [look, lookAt, hname, hleads, hsource]
  | judges hname hleads hsource hjudges =>
    simp [look, lookAt, hname, hleads, hsource, consider_of_judges hjudges, Except.map]

/-- A step does one of these things if there is room for it, and nothing else. -/
theorem step_iff_moves {root : Path} :
    s.step fs settings root item = .ok next ↔
      item.fits fs root = true ∧ Moves fs settings item s next := by
  constructor
  · intro h
    cases hfits : item.fits fs root with
    | false =>
      rw [step_of_not_fits hfits] at h
      cases h
    | true =>
      rw [step_of_fits hfits] at h
      refine ⟨rfl, ?_⟩
      cases item with
      | directory path =>
        cases h
        exact moves_of_enter path s
      | entry path => exact moves_of_lookAt h
  · rintro ⟨hfits, hmoves⟩
    exact step_of_moves hfits hmoves

/-- Every step for which there is room can be made, if the size limit can be computed. -/
theorem exists_step {root : Path} {limit : Int} (hlimit : settings.sizeLimit = .ok limit)
    (hfits : item.fits fs root = true) (s : Stage) :
    ∃ next, s.step fs settings root item = .ok next := by
  rw [step_of_fits hfits]
  cases item with
  | directory path => exact ⟨_, rfl⟩
  | entry path =>
    rcases lookAt_cases fs settings path s with ⟨next, hnext, -⟩ | ⟨hname, hleads, hsource⟩
    · exact ⟨next, hnext⟩
    · obtain ⟨found, hfound⟩ := exists_consider hlimit fs path s.found
      refine ⟨{ s with found }, ?_⟩
      rw [look, lookAt_of_source hname hleads hsource, hfound]
      rfl

/-- What fits into the same room fits in both. -/
theorem fits_congr {gs : FileSystem} (hroom : gs.room = fs.room) (root : Path) (item : Pending) :
    item.fits gs root = item.fits fs root := by
  cases item with
  | directory path => rw [Pending.fits, Pending.fits, hroom]
  | entry path => rfl

/-! ## Runs -/

variable {root : Path}

/-- A run goes on where its first step leads. -/
theorem resume_of_moves {opened : List Location} {found : Search} {agenda : List Pending}
    (hfits : item.fits fs root = true) (h : Moves fs settings item ⟨opened, found, agenda⟩ next) :
    resume fs settings root ⟨opened, found, item :: agenda⟩ = resume fs settings root next := by
  rw [resume, step_iff_moves.2 ⟨hfits, h⟩]

/-- A run goes on in the same way if every step does, by induction on the steps. -/
theorem resume_congr {gs : FileSystem}
    (hstep : ∀ item (s : Stage), s.step gs settings root item = s.step fs settings root item)
    (s : Stage) :
    s.resume gs settings root = s.resume fs settings root := by
  induction s using resume.induct fs settings root with
  | case1 opened found => rw [resume, resume]
  | case2 opened found item agenda next hnext ih =>
    rw [resume, (hstep item _).trans hnext, resume, hnext]
    exact ih
  | case3 opened found item agenda e herror =>
    rw [resume, (hstep item _).trans herror, resume, herror]

/-- **What every step preserves holds at the end of a run**, where nothing is left to be looked at.
What is looked at is on the agenda before the step, and there is room for it. -/
theorem resume_preserves {P : Stage → Prop}
    (hstep : ∀ item s next, P { s with agenda := item :: s.agenda } → item.fits fs root = true →
      Moves fs settings item s next → P next)
    {s last : Stage} (hs : P s) (h : s.resume fs settings root = .ok last) :
    P last ∧ last.agenda = [] := by
  induction s using resume.induct fs settings root with
  -- Where nothing is left the run is over, and otherwise the first step is one of the moves.
  | case1 opened found =>
    rw [resume] at h
    cases h
    exact ⟨hs, rfl⟩
  | case2 opened found item agenda next hnext ih =>
    rw [resume, hnext] at h
    obtain ⟨hfits, hmoves⟩ := step_iff_moves.1 hnext
    exact ih (hstep item ⟨opened, found, agenda⟩ next hs hfits hmoves) h
  | case3 opened found item agenda e herror =>
    rw [resume, herror] at h
    cases h

/-- The stage after at most so many steps, for runs that are computed. -/
def advance (fs : FileSystem) (settings : Settings) (root : Path) :
    Nat → Stage → Except Failure Stage
  | 0, s => .ok s
  | _ + 1, ⟨opened, found, []⟩ => .ok ⟨opened, found, []⟩
  | n + 1, ⟨opened, found, item :: agenda⟩ =>
    match step fs settings root item ⟨opened, found, agenda⟩ with
    | .ok next => advance fs settings root n next
    | .error e => .error e

/-- A run ends where nothing is left to be looked at, after however many steps. -/
theorem resume_of_advance {n : Nat} {s last : Stage} (h : s.advance fs settings root n = .ok last)
    (hagenda : last.agenda = []) : s.resume fs settings root = .ok last := by
  -- Step by step the run takes what the count takes.
  induction n generalizing s with
  | zero =>
    obtain ⟨opened, found, agenda⟩ := last
    cases hagenda
    cases h
    rw [resume]
  | succ n ih =>
    obtain ⟨opened, found, agenda⟩ := s
    cases agenda with
    | nil =>
      cases h
      rw [resume]
    | cons item agenda =>
      rw [advance] at h
      rw [resume]
      cases hstep : step fs settings root item ⟨opened, found, agenda⟩ with
      | error e =>
        rw [hstep] at h
        cases h
      | ok next =>
        rw [hstep] at h
        exact ih h

end Stage

/-- What every step preserves holds of what a search found, if it holds at the start. -/
theorem explore_preserves {P : Stage → Prop} {root : Path}
    (hstep : ∀ item s next, P { s with agenda := item :: s.agenda } → item.fits fs root = true →
      Stage.Moves fs settings item s next → P next)
    (hstart : P (.start root)) {last : Stage} (h : explore fs settings root = .ok last) :
    P last ∧ last.agenda = [] := by
  unfold explore at h
  split at h
  · cases h
  · exact Stage.resume_preserves hstep hstart h

/-- Settings that follow links and have no float among them, for runs that are computed. -/
def following : Settings where
  workers := none
  excludeDirs := []
  sourceExtensions := [".js"]
  maxFileSize := .whole 5
  maxFiles := .whole 5
  followLinks := true
  lintEnabled := false
  lintCommand := .null
  lintTimeout := .whole 30
  longestFunction := .whole 50
  verbosity := "normal"

end ScriptAudit
