import ScriptAudit.Proofs.SearchRun

/-!
# The number and the order of the files found

Names in a directory are looked at in ascending order, and everything below a name before the next
one. So the files that were found and the agenda together make up one list of paths in order, of
which every step replaces the first path that was not looked at yet by those below it.

- `Search.Within`: there are no more files than candidates, and no more than are allowed.
- `Precedes`: two paths part at some place, and the first one has the lesser name there.
- `Stage.Ordered`: the paths of a stage are in order. `Stage.Ordered.step` says that every step
  keeps them so.
- `explore_within`, `explore_ordered`: **no search finds too many files, and none twice.**
-/

namespace ScriptAudit

open Search

variable {fs : FileSystem} {settings : Settings} {root : Path}

/-! ## Number -/

/-- A number that is whole is compared as such. -/
theorem Number.compareBy_of_whole? {n : Number} {limit : Int} (h : n.whole? = some limit)
    (whole : Int → Int → Bool) (real : Float → Float → Bool) (other : Int) :
    n.compareBy whole real other = whole limit other := by
  cases n <;> cases h <;> rfl

/-- Whether there are no more files than candidates, and no more than are allowed: with any fewer
there was room for one more. -/
def Search.Within (settings : Settings) (s : Search) : Prop :=
  s.files.length ≤ s.discovered ∧
    ∀ count < s.files.length, settings.maxFiles.isAtMost (count : Nat) = false

theorem Search.Within.judge {path : Path} {s found : Search} (h : s.Within settings)
    (hjudges : Judges fs settings path s found) : found.Within settings := by
  obtain ⟨hdiscovered, hroom⟩ := h
  cases hjudges with
  | taken hsize hlimit hsmall hlast =>
    constructor
    · show (s.files ++ [path]).length ≤ s.discovered + 1
      rw [List.length_append, List.length_singleton]
      omega
    · intro count hcount
      have hle : count < s.files.length + 1 := by simpa using hcount
      rcases Nat.lt_succ_iff_lt_or_eq.1 hle with hlt | rfl
      · exact hroom count hlt
      · exact hlast
  | _ => exact ⟨Nat.le_succ_of_le hdiscovered, hroom⟩

/-- **No search finds more files than candidates**, or more than are allowed. -/
theorem explore_within {last : Stage} (h : explore fs settings root = .ok last) :
    last.found.Within settings := by
  have hstep : ∀ item s next,
      ({ s with agenda := item :: s.agenda } : Stage).found.Within settings →
        item.fits fs root = true → Stage.Moves fs settings item s next →
          next.found.Within settings := by
    intro item s next hs _ hmoves
    cases hmoves with
    | judges hname hleads hsource hjudges => exact Search.Within.judge hs hjudges
    | _ => exact hs
  have hstart : (Stage.start root).found.Within settings := by
    simp [Stage.start, Search.nothing, Search.Within]
  exact (explore_preserves (P := fun s => s.found.Within settings) hstep hstart h).1

/-! ## Order -/

/-- Two paths part at some place, and the first one goes on with the lesser name. -/
def Precedes (first second : List String) : Prop :=
  ∃ stem a b as bs, first = stem ++ a :: as ∧ second = stem ++ b :: bs ∧ a < b

theorem Precedes.ne {first second : List String} (h : Precedes first second) :
    first ≠ second := by
  obtain ⟨stem, a, b, as, bs, rfl, rfl, hlt⟩ := h
  intro heq
  obtain ⟨rfl, -⟩ := List.cons.inj (List.append_cancel_left heq)
  exact String.lt_irrefl _ hlt

/-- What precedes a path precedes everything below it. -/
theorem Precedes.append_right {first second : List String} (h : Precedes first second)
    (more : List String) : Precedes first (second ++ more) := by
  obtain ⟨stem, a, b, as, bs, hfirst, rfl, hlt⟩ := h
  exact ⟨stem, a, b, as, bs ++ more, hfirst, by simp, hlt⟩

/-- Everything below a path precedes what the path precedes. -/
theorem Precedes.append_left {first second : List String} (h : Precedes first second)
    (more : List String) : Precedes (first ++ more) second := by
  obtain ⟨stem, a, b, as, bs, rfl, hsecond, hlt⟩ := h
  exact ⟨stem, a, b, as ++ more, bs, by simp, hsecond, hlt⟩

/-- What a path precedes is not above it. -/
theorem Precedes.not_isPrefix {first second : List String} (h : Precedes first second) :
    ¬second <+: first := by
  rintro ⟨more, rfl⟩
  obtain ⟨stem, a, b, as, bs, hfirst, rfl, hlt⟩ := h
  rw [List.append_assoc, List.append_right_inj] at hfirst
  cases hfirst
  exact String.lt_irrefl _ hlt

/-- What a path precedes is not below it. -/
theorem Precedes.not_isPrefix_right {first second : List String} (h : Precedes first second) :
    ¬first <+: second := by
  rintro ⟨more, rfl⟩
  obtain ⟨stem, a, b, as, bs, rfl, hsecond, hlt⟩ := h
  rw [List.append_assoc, List.append_right_inj] at hsecond
  cases hsecond
  exact String.lt_irrefl _ hlt

namespace FileSystem

/-- Whether the names in every directory are such as entries can have, and each stands for one
entry. -/
def IsSound (fs : FileSystem) : Prop :=
  ∀ here entries, fs.at? here = some (.directory entries) →
    (entries.map (·.1)).Nodup ∧ ∀ name ∈ entries.map (·.1), IsName name ∧ '/' ∉ name.toList

/-- The names in the directory at a location, if there is one. -/
def namesAt (fs : FileSystem) (here : Location) : List String :=
  match fs.at? here with
  | some (.directory entries) => entries.map (·.1)
  | _ => []

/-- It is enough to go through the directories. -/
theorem isSound_iff {fs : FileSystem} : fs.IsSound ↔ ∀ here ∈ fs.directories,
    (fs.namesAt here).Nodup ∧ ∀ name ∈ fs.namesAt here, IsName name ∧ '/' ∉ name.toList := by
  constructor
  · intro h here _
    unfold namesAt
    split
    · rename_i entries hat
      exact h here entries hat
    · simp
  · intro h here entries hat
    have hhere := h here (mem_directories hat)
    rwa [namesAt, hat] at hhere

instance (fs : FileSystem) : Decidable fs.IsSound :=
  decidable_of_iff' _ isSound_iff

/-- What lies somewhere in a file system lies under names that entries can have. -/
theorem IsSound.isName {fs : FileSystem} (h : fs.IsSound) {here names : Location} {e : Entry}
    (hat : fs.at? (here ++ names) = some e) : ∀ name ∈ names, IsName name := by
  induction names generalizing here with
  | nil => simp
  | cons name names ih =>
    obtain ⟨entries, below, hhere, hentry, -⟩ := exists_entries hat
    refine List.forall_mem_cons.2 ⟨?_, ?_⟩
    · exact ((h here entries hhere).2 name (List.mem_map_of_mem (mem_of_lookup? hentry))).1
    · rw [List.append_cons] at hat
      exact ih hat

end FileSystem

theorem Search.sortedNames_ascending (entries : List (String × Entry)) :
    (sortedNames entries).Pairwise (· ≤ ·) := by
  have hsorted : (sortedNames entries).Pairwise fun a b => decide (a ≤ b) = true :=
    List.pairwise_mergeSort (fun a b c hab hbc => by
      simp only [decide_eq_true_eq] at hab hbc ⊢
      exact String.le_trans hab hbc)
      (fun a b => by simpa using String.le_total a b) _
  exact hsorted.imp of_decide_eq_true

/-- Different names are in strictly ascending order. -/
theorem Search.sortedNames_pairwise {entries : List (String × Entry)}
    (h : (entries.map (·.1)).Nodup) : (sortedNames entries).Pairwise (· < ·) := by
  have hnodup : (sortedNames entries).Nodup := (List.mergeSort_perm _ _).nodup_iff.2 h
  refine ((sortedNames_ascending entries).and hnodup).imp ?_
  rintro a b ⟨hle, hne⟩
  exact String.not_le.1 fun hge => hne (String.le_antisymm hle hge)

namespace Stage

/-- The path of something pending. -/
def pendingPath : Pending → Path
  | .entry path => path
  | .directory path => path

/-- The paths of a stage: those of the files found, and then those that are still to be looked
at. -/
def paths (s : Stage) : List (List String) :=
  (s.found.files ++ s.agenda.map pendingPath).map (·.parts)

/-- The paths of a stage are in order. -/
def Ordered (s : Stage) : Prop :=
  s.paths.Pairwise Precedes

variable {s next : Stage} {item : Pending}

/-- A path in a list in order may be replaced by those of its entries. -/
theorem pairwise_expand {before after : List (List String)} {directory : List String}
    {names : List String} (h : (before ++ directory :: after).Pairwise Precedes)
    (hnames : names.Pairwise (· < ·)) :
    (before ++ names.map (fun name => directory ++ [name]) ++ after).Pairwise Precedes := by
  -- What stands before the directory precedes its entries, and these precede what stands after it.
  rw [List.pairwise_append, List.pairwise_cons] at h
  obtain ⟨hbefore, ⟨hdirectory, hafter⟩, hacross⟩ := h
  rw [List.append_assoc, List.pairwise_append, List.pairwise_append]
  refine ⟨hbefore, ⟨?_, hafter, ?_⟩, ?_⟩
  · rw [List.pairwise_map]
    refine hnames.imp fun {a b} hlt => ?_
    exact ⟨directory, a, b, [], [], rfl, rfl, hlt⟩
  · intro below hbelow other hother
    obtain ⟨name, -, rfl⟩ := List.mem_map.1 hbelow
    exact (hdirectory other hother).append_left [name]
  · intro first hfirst other hother
    rcases List.mem_append.1 hother with hbelow | hother
    · obtain ⟨name, -, rfl⟩ := List.mem_map.1 hbelow
      exact (hacross first hfirst directory List.mem_cons_self).append_right [name]
    · exact hacross first hfirst other (List.mem_cons_of_mem _ hother)

/-- Every step keeps the paths in order. -/
theorem Ordered.step (hsound : fs.IsSound) (h : Ordered { s with agenda := item :: s.agenda })
    (hmoves : Moves fs settings item s next) : next.Ordered := by
  -- What is left of the paths when the one looked at is dropped.
  have hdrop : s.Ordered := by
    refine h.sublist ?_
    simp only [paths, List.map_append, List.map_cons]
    exact (List.Sublist.refl _).append (List.sublist_cons_self _ _)
  cases hmoves with
  | opens hlocate hat hfresh hread =>
    have hexpand := pairwise_expand (by simpa [Ordered, paths, pendingPath] using h)
      (sortedNames_pairwise (hsound _ _ hat).1)
    simpa [Ordered, paths, pendingPath, below, Function.comp_def] using hexpand
  | descends hname hleads => exact h
  | judges hname hleads hsource hjudges =>
    cases hjudges with
    | taken hsize hlimit hsmall hroom => simpa [Ordered, paths, pendingPath] using h
    | _ => exact hdrop
  | _ => exact hdrop

end Stage

/-- **No file is found twice.** The paths of the files found are in order. -/
theorem explore_ordered (hsound : fs.IsSound) {last : Stage}
    (h : explore fs settings root = .ok last) :
    (last.found.files.map (·.parts)).Pairwise Precedes := by
  have hstart : (Stage.start root).Ordered := by
    simp [Stage.Ordered, Stage.paths, Stage.start, Search.nothing]
  have hordered : last.Ordered :=
    (explore_preserves (fun _ _ _ hs _ hmoves => hs.step hsound hmoves) hstart h).1
  refine hordered.sublist ?_
  rw [Stage.paths, List.map_append]
  exact List.sublist_append_left _ _

end ScriptAudit
