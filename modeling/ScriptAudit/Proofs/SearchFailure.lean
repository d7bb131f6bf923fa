import ScriptAudit.Proofs.SearchRun

/-!
# Searches that fail

Whatever a search cannot look at is left out with a warning. Two things end a search before its time:
a size limit that cannot be computed, when it is needed for the first time, and more directories
inside each other than there is room for.

- `Settings.IsBoundless`: the size limit is no finite number of bytes.
- `Stage.Stalls`: a script file is met whose size cannot be judged.
- `Stage.step_eq_error_iff`: a step fails exactly for that reason, or for want of room.
- `Stage.Reached`: the stages that a search comes to.
- `explore_eq_error_iff`: **a search fails exactly if it comes to such a file, or to a directory that
  lies too deep.**
-/

namespace ScriptAudit

open Search

variable {fs : FileSystem} {settings : Settings} {e : Failure}

/-! ## Size limits -/

/-- Whether the largest size, in mebibytes, comes to no finite number of bytes. -/
def Settings.IsBoundless (settings : Settings) : Prop :=
  ∃ x, settings.maxFileSize = .real x ∧
    ∀ negative mantissa exponent,
      Binary.ofFloat (x * 1024.0 * 1024.0) ≠ .finite negative mantissa exponent

/-- A value that is not finite has no whole part. -/
theorem Binary.truncate?_eq_none_iff {b : Binary} :
    b.truncate? = none ↔ ∀ negative mantissa exponent, b ≠ .finite negative mantissa exponent := by
  cases b with
  | nan | infinite negative => simp [Binary.truncate?]
  | finite negative mantissa exponent => cases exponent <;> simp [Binary.truncate?]

/-- The size limit cannot be computed exactly if it is no finite number of bytes. -/
theorem Settings.exists_sizeLimit_error_iff :
    (∃ e, settings.sizeLimit = .error e) ↔ settings.IsBoundless := by
  unfold Settings.sizeLimit Settings.IsBoundless
  cases settings.maxFileSize with
  | truth b | whole n => simp [bytesOf]
  | real x =>
    simp only [bytesOf, truncationOf, wholeBy, Number.real.injEq, exists_eq_left',
      ← Binary.truncate?_eq_none_iff]
    cases Binary.truncate? (.ofFloat (x * 1024.0 * 1024.0)) with
    | some n => simp
    | none => cases (x * 1024.0 * 1024.0).isNaN <;> simp

/-! ## Steps -/

/-- Looking at a candidate fails if it is a file and there is no size limit to be had. -/
theorem Search.consider_eq_error_iff {path : Path} {s : Search} :
    consider fs settings path s = .error e ↔
      (∃ size, fileSize? fs path = .ok (some size)) ∧ settings.sizeLimit = .error e := by
  unfold consider takeIn
  cases hsize : fileSize? fs path with
  | error e => simp
  | ok size? =>
    cases size? with
    | none => simp
    | some size => cases settings.sizeLimit <;> simp [Except.map]

namespace Stage

/-- A script file is met at a path, and whether it is too large cannot be told since the size limit
cannot be computed. -/
structure Stalls (fs : FileSystem) (settings : Settings) (path : Path) (e : Failure) : Prop where
  name : path.name ∉ settings.excludeDirs
  entry : leadsTo fs settings.followLinks Entry.isDirectory path = .ok false
  source : isSourceName settings.sourceExtensions path.name = true
  file : ∃ size, fileSize? fs path = .ok (some size)
  limit : settings.sizeLimit = .error e

variable {item : Pending} {s : Stage}

theorem lookAt_eq_error_iff {path : Path} :
    s.lookAt fs settings path = .error e ↔ Stalls fs settings path e := by
  constructor
  · intro h
    -- Every other way out of the look gives a next stage.
    rcases lookAt_cases fs settings path s with ⟨next, hnext, -⟩ | ⟨hname, hleads, hsource⟩
    · cases hnext.symm.trans h
    · rw [lookAt_of_source hname hleads hsource, map_eq_error_iff] at h
      obtain ⟨hfile, hlimit⟩ := consider_eq_error_iff.1 h
      exact ⟨hname, hleads, hsource, hfile, hlimit⟩
  · intro h
    rw [lookAt_of_source h.name h.entry h.source, map_eq_error_iff]
    exact consider_eq_error_iff.2 ⟨h.file, h.limit⟩

/-- A step fails exactly if a script file is met whose size cannot be judged, or a directory lies too
deep. -/
theorem step_eq_error_iff {root : Path} :
    s.step fs settings root item = .error e ↔
      (∃ path, item = .entry path ∧ Stalls fs settings path e) ∨
        item.fits fs root = false ∧ e = tooDeep := by
  cases hfits : item.fits fs root with
  -- A step for which there is no room fails with this alone, and one for which there is only in the
  -- look.
  | false =>
    rw [step_of_not_fits hfits, Except.error.injEq, eq_comm]
    refine ⟨fun h => .inr ⟨rfl, h⟩, ?_⟩
    rintro (⟨path, rfl, -⟩ | ⟨-, h⟩)
    · cases hfits
    · exact h
  | true =>
    rw [step_of_fits hfits]
    cases item with
    | directory path => simp [look]
    | entry path =>
      rw [look, lookAt_eq_error_iff]
      simp

/-! ## Stages that a search comes to -/

/-- A search below a root comes to a stage. -/
inductive Reached (fs : FileSystem) (settings : Settings) (root : Path) : Stage → Prop
  | start : Reached fs settings root (.start root)
  | step {item : Pending} {s next : Stage}
    (h : Reached fs settings root { s with agenda := item :: s.agenda })
    (hfits : item.fits fs root = true) (hmoves : Moves fs settings item s next) :
    Reached fs settings root next

variable {root : Path}

/-- What every step preserves holds of every stage that a search comes to. -/
theorem Reached.invariant {P : Stage → Prop} (hstart : P (.start root))
    (hstep : ∀ item s next, P { s with agenda := item :: s.agenda } → item.fits fs root = true →
      Moves fs settings item s next → P next)
    (h : Reached fs settings root s) : P s := by
  induction h with
  | start => exact hstart
  | step _ hfits hmoves ih => exact hstep _ _ _ ih hfits hmoves

/-- From every stage that a search comes to, it goes on to the same end. -/
theorem Reached.resume_eq (h : Reached fs settings root s) :
    (Stage.start root).resume fs settings root = s.resume fs settings root := by
  induction h with
  | start => rfl
  | step _ hfits hmoves ih => rw [ih, resume_of_moves hfits hmoves]

/-- A run that fails has come to a stage at which a step fails. -/
theorem exists_step_error (hs : Reached fs settings root s)
    (h : s.resume fs settings root = .error e) :
    ∃ item, ∃ met : Stage, Reached fs settings root { met with agenda := item :: met.agenda } ∧
      met.step fs settings root item = .error e := by
  induction s using resume.induct fs settings root with
  | case1 opened found =>
    rw [resume] at h
    cases h
  | case2 opened found item agenda next hnext ih =>
    rw [resume, hnext] at h
    obtain ⟨hfits, hmoves⟩ := step_iff_moves.1 hnext
    exact ih (.step (s := ⟨opened, found, agenda⟩) hs hfits hmoves) h
  | case3 opened found item agenda e' herror =>
    rw [resume, herror] at h
    cases h
    exact ⟨item, ⟨opened, found, agenda⟩, hs, herror⟩

end Stage

variable {root : Path}

/-- A search comes to a script file whose size it cannot judge. -/
def MeetsUnjudged (fs : FileSystem) (settings : Settings) (root : Path) (e : Failure) : Prop :=
  ∃ (s : Stage) (path : Path),
    Stage.Reached fs settings root { s with agenda := .entry path :: s.agenda } ∧
    Stage.Stalls fs settings path e

/-- A search comes to a directory that lies deeper below its root than there is room for. -/
def MeetsTooDeep (fs : FileSystem) (settings : Settings) (root : Path) : Prop :=
  ∃ (s : Stage) (path : Path),
    Stage.Reached fs settings root { s with agenda := .directory path :: s.agenda } ∧
    root.parts.length + fs.room < path.parts.length

theorem fits_directory_eq_false {path : Path} :
    (Pending.directory path).fits fs root = false ↔
      root.parts.length + fs.room < path.parts.length := by
  rw [Pending.fits, decide_eq_false_iff_not, Nat.not_le]

/-- **A search fails exactly if it comes to a script file whose size it cannot judge**, or to a
directory that lies too deep. -/
theorem explore_eq_error_iff (hwhole : root.isBroken = false) :
    explore fs settings root = .error e ↔
      MeetsUnjudged fs settings root e ∨ MeetsTooDeep fs settings root ∧ e = tooDeep := by
  rw [explore, if_neg (by simp [hwhole])]
  constructor
  · intro h
    obtain ⟨item, met, hreached, hstep⟩ := Stage.exists_step_error .start h
    rcases Stage.step_eq_error_iff.1 hstep with ⟨path, rfl, hstalls⟩ | ⟨hdeep, he⟩
    · exact .inl ⟨met, path, hreached, hstalls⟩
    · cases item with
      | directory path => exact .inr ⟨⟨met, path, hreached, fits_directory_eq_false.1 hdeep⟩, he⟩
      | entry path => cases hdeep
  · intro h
    -- The search goes on from the stage that it has come to, and its next step fails.
    have hfails : ∃ (s : Stage) (item : Pending),
        Stage.Reached fs settings root { s with agenda := item :: s.agenda } ∧
          s.step fs settings root item = .error e := by
      rcases h with ⟨s, path, hreached, hstalls⟩ | ⟨⟨s, path, hreached, hdeep⟩, he⟩
      · exact ⟨s, _, hreached, Stage.step_eq_error_iff.2 (.inl ⟨path, rfl, hstalls⟩)⟩
      · exact ⟨s, _, hreached, Stage.step_eq_error_iff.2
          (.inr ⟨fits_directory_eq_false.2 hdeep, he⟩)⟩
    obtain ⟨⟨opened, found, agenda⟩, item, hreached, hstep⟩ := hfails
    rw [hreached.resume_eq, Stage.resume, hstep]

/-- A search comes to its end if the size limit can be computed and it comes to no directory that lies
too deep. -/
theorem exists_explore {limit : Int} (hwhole : root.isBroken = false)
    (hlimit : settings.sizeLimit = .ok limit) (hroom : ¬MeetsTooDeep fs settings root) :
    ∃ last, explore fs settings root = .ok last := by
  cases hexplore : explore fs settings root with
  | ok last => exact ⟨last, rfl⟩
  | error e =>
    rcases (explore_eq_error_iff hwhole).1 hexplore with ⟨s, path, -, hstalls⟩ | ⟨hdeep, -⟩
    · rw [hstalls.limit] at hlimit
      cases hlimit
    · exact absurd hdeep hroom

/-- What a search finds is what its last stage has found. -/
theorem search_eq_ok_iff {found : Search} :
    search fs settings root = .ok found ↔
      ∃ last, explore fs settings root = .ok last ∧ last.found = found := by
  rw [search]
  cases explore fs settings root <;> simp [Except.map]

theorem search_eq_error_iff :
    search fs settings root = .error e ↔ explore fs settings root = .error e := by
  rw [search]
  cases explore fs settings root <;> simp [Except.map]

end ScriptAudit
