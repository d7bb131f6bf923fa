import ScriptAudit.Proofs.ListingOrder
import ScriptAudit.Proofs.RunEnds

/-!
# Where the sources of a project are

The recogniser goes through its candidates, and in each through the rows of its table. A candidate
is passed over for one of three reasons: it cannot be listed, it has no source, or it has none of
the names of the table.

- `IsFirstRow`: the first row of a table that some names show.
  `IsFirstRow.exists_le_of_subset` says that more names show it or an earlier one.
- `Recognizer.Qualifies`: what a directory needs in order to be chosen.
- `Recognizer.ComesTo`: all candidates before a directory are passed over.
- `Recognizer.IsChosen`: the first candidate that qualifies, and the framework for which it does.
- `Recognizer.profile_first`: **the profile is that of the first candidate that qualifies, with the
  first row shown there**, in whatever order the names are listed, unless the system cannot be asked
  about a candidate before it.
-/

namespace ScriptAudit

variable {fs gs : FileSystem} {root : Path}

/-! ## The rows of a table -/

/-- Whether one of the names of a signature is among others. -/
def Signature.IsShown (signature : Signature) (names : List String) : Prop :=
  ∃ name ∈ signature.names, name ∈ names

instance (signature : Signature) (names : List String) : Decidable (signature.IsShown names) :=
  inferInstanceAs (Decidable (∃ name ∈ signature.names, name ∈ names))

/-- Whether a row of a table is the first whose signature is shown by some names. -/
structure IsFirstRow (signatures : List Signature) (names : List String) (row : Nat)
    (signature : Signature) : Prop where
  getElem? : signatures[row]? = some signature
  isShown : signature.IsShown names
  first : ∀ earlier < row, ∀ other, signatures[earlier]? = some other → ¬other.IsShown names

variable {signatures : List Signature} {names more : List String} {row : Nat}
  {signature : Signature} {framework : String}

theorem Signature.any_contains_iff :
    signature.names.any names.contains = true ↔ signature.IsShown names := by
  simp [Signature.IsShown]

/-- The framework is that of the first row shown. -/
theorem frameworkOf?_eq_some_iff :
    frameworkOf? signatures names = some framework ↔
      ∃ row signature, IsFirstRow signatures names row signature ∧
        signature.framework = framework := by
  rw [frameworkOf?, Option.map_eq_some_iff]
  constructor
  · rintro ⟨signature, hfind, hframework⟩
    -- The first signature that is found is the first row that shows a name.
    obtain ⟨hshown, row, hrow, heq, hfirst⟩ := List.find?_eq_some_iff_getElem.1 hfind
    refine ⟨row, signature, ⟨?_, Signature.any_contains_iff.1 hshown, ?_⟩, hframework⟩
    · rw [List.getElem?_eq_getElem hrow, heq]
    · intro earlier hearlier other hother hshown
      have hnot := hfirst earlier hearlier
      obtain ⟨hlt, rfl⟩ := List.getElem?_eq_some_iff.1 hother
      rw [Signature.any_contains_iff.2 hshown] at hnot
      cases hnot
  · rintro ⟨row, signature, hrow, hframework⟩
    obtain ⟨hlt, heq⟩ := List.getElem?_eq_some_iff.1 hrow.getElem?
    refine ⟨signature, ?_, hframework⟩
    refine List.find?_eq_some_iff_getElem.2
      ⟨Signature.any_contains_iff.2 hrow.isShown, row, hlt, heq, fun earlier hearlier => ?_⟩
    have hnot := hrow.first earlier hearlier _ (List.getElem?_eq_getElem (hearlier.trans hlt))
    rw [← Signature.any_contains_iff] at hnot
    simpa using hnot

theorem frameworkOf?_eq_none_iff :
    frameworkOf? signatures names = none ↔
      ∀ signature ∈ signatures, ¬signature.IsShown names := by
  simp only [frameworkOf?, Option.map_eq_none_iff, List.find?_eq_none, Signature.any_contains_iff]

/-- Where some row is shown there is a first one. -/
theorem exists_isFirstRow (hrow : signatures[row]? = some signature)
    (hshown : signature.IsShown names) :
    ∃ earlier ≤ row, ∃ other, IsFirstRow signatures names earlier other := by
  classical
  have hsome : ∃ row, ∃ other : Signature, signatures[row]? = some other ∧ other.IsShown names :=
    ⟨row, signature, hrow, hshown⟩
  obtain ⟨other, hother, hfound⟩ := Nat.find_spec hsome
  refine ⟨Nat.find hsome, Nat.find_min' hsome ⟨signature, hrow, hshown⟩, other, hother, hfound, ?_⟩
  intro earlier hearlier another hanother hshown
  exact Nat.find_min hsome hearlier ⟨another, hanother, hshown⟩

/-- **More names show the same row or an earlier one.** -/
theorem IsFirstRow.exists_le_of_subset (h : IsFirstRow signatures names row signature)
    (hsub : names ⊆ more) : ∃ earlier ≤ row, ∃ other, IsFirstRow signatures more earlier other := by
  obtain ⟨name, hname, hmem⟩ := h.isShown
  exact exists_isFirstRow h.getElem? ⟨name, hname, hsub hmem⟩

/-- The order of the names makes no difference. -/
theorem frameworkOf?_eq_of_perm {others : List String} (h : names.Perm others) :
    frameworkOf? signatures others = frameworkOf? signatures names := by
  have hcontains : others.contains = names.contains := by
    funext name
    rw [Bool.eq_iff_iff, List.contains_iff_mem, List.contains_iff_mem, h.mem_iff]
  rw [frameworkOf?, frameworkOf?, hcontains]

namespace Recognizer

variable {r : Recognizer} {directory : Path} {profile : Profile}

/-! ## One directory -/

/-- Whether a directory can be listed, with some names, and one of them is that of a source. -/
def Holds (r : Recognizer) (fs : FileSystem) (directory : Path) (names : List String) : Prop :=
  fs.names directory = .ok names ∧ ∃ name ∈ names, isSourceName r.extensions name = true

/-- Whether a directory can be listed, has an entry with the extension of a source, and an entry in
some signature of the table. -/
def Qualifies (r : Recognizer) (fs : FileSystem) (directory : Path) : Prop :=
  ∃ names, r.Holds fs directory names ∧ ∃ signature ∈ r.signatures, signature.IsShown names

theorem profileAt?_of_holds (h : r.Holds fs directory names) :
    r.profileAt? fs directory = (frameworkOf? r.signatures names).map (⟨·, directory⟩) := by
  obtain ⟨hnames, hsource⟩ := h
  rw [profileAt?, hnames]
  exact if_pos (List.any_eq_true.2 hsource)

theorem profileAt?_eq_none (h : ∀ names, ¬r.Holds fs directory names) :
    r.profileAt? fs directory = none := by
  rw [profileAt?]
  split
  · rfl
  · rename_i names hnames
    refine if_neg fun hany => h names ⟨hnames, ?_⟩
    simpa using hany

/-- A directory has the profile that its first row gives. -/
theorem profileAt?_eq_some_iff :
    r.profileAt? fs directory = some profile ↔
      ∃ names row signature, r.Holds fs directory names ∧
        IsFirstRow r.signatures names row signature ∧
          profile = ⟨signature.framework, directory⟩ := by
  constructor
  · intro h
    by_cases hholds : ∃ names, r.Holds fs directory names
    · obtain ⟨names, hholds⟩ := hholds
      rw [profileAt?_of_holds hholds] at h
      obtain ⟨framework, hframework, rfl⟩ := Option.map_eq_some_iff.1 h
      obtain ⟨row, signature, hrow, rfl⟩ := frameworkOf?_eq_some_iff.1 hframework
      exact ⟨names, row, signature, hholds, hrow, rfl⟩
    · rw [profileAt?_eq_none (not_exists.1 hholds)] at h
      cases h
  · rintro ⟨names, row, signature, hholds, hrow, rfl⟩
    rw [profileAt?_of_holds hholds, frameworkOf?_eq_some_iff.2 ⟨row, signature, hrow, rfl⟩]
    rfl

/-- A directory has no profile exactly if it does not qualify. -/
theorem profileAt?_eq_none_iff :
    r.profileAt? fs directory = none ↔ ¬r.Qualifies fs directory := by
  constructor
  · rintro hnone ⟨names, hholds, signature, hmem, hshown⟩
    rw [profileAt?_of_holds hholds, Option.map_eq_none_iff] at hnone
    exact frameworkOf?_eq_none_iff.1 hnone signature hmem hshown
  · intro hnot
    cases hprofile : r.profileAt? fs directory with
    | none => rfl
    | some profile =>
      obtain ⟨names, row, signature, hholds, hrow, -⟩ := profileAt?_eq_some_iff.1 hprofile
      refine absurd ⟨names, hholds, signature, ?_, hrow.isShown⟩ hnot
      exact List.mem_of_getElem? hrow.getElem?

end Recognizer

/-- A directory that is listed in another order has the same names. -/
theorem FileSystem.Relisted.names_cases (h : fs.Relisted gs) (directory : Path) :
    gs.names directory = fs.names directory ∨
      ∃ names others, fs.names directory = .ok names ∧ gs.names directory = .ok others ∧
        names.Perm others := by
  unfold FileSystem.names FileSystem.opened
  rw [h.sameWays.locate_eq]
  cases fs.locate true directory with
  | error e => exact .inl rfl
  -- The same place is looked up, and only the order of its names may differ.
  | ok here =>
    have hhere := h.places here
    dsimp only
    rw [h.mayRead_eq]
    cases fs.mayRead here with
    | false => exact .inl rfl
    | true =>
      generalize fs.at? here = there at hhere ⊢
      generalize gs.at? here = other at hhere ⊢
      cases hhere with
      | missing | same => exact .inl rfl
      | directory hnames => exact .inr ⟨_, _, rfl, rfl, hnames⟩

namespace Recognizer

variable {r : Recognizer} {profile other : Profile} {directories : List Path}

/-- The order in which a directory is listed makes no difference to its profile. -/
theorem profileAt?_eq_of_relisted (h : fs.Relisted gs) (directory : Path) :
    r.profileAt? gs directory = r.profileAt? fs directory := by
  rcases h.names_cases directory with hsame | ⟨names, others, hnames, hothers, hperm⟩
  · rw [profileAt?, profileAt?, hsame]
  · have hany : others.any (isSourceName r.extensions) = names.any (isSourceName r.extensions) := by
      rw [Bool.eq_iff_iff, List.any_eq_true, List.any_eq_true]
      simp only [hperm.mem_iff]
    rw [profileAt?, profileAt?, hnames, hothers]
    simp only [hany, frameworkOf?_eq_of_perm hperm]

/-! ## Candidates in order -/

/-- The directories that the candidates stand for, in order. -/
def places (r : Recognizer) (root : Path) : List Path :=
  r.candidates.map (directory root)

/-- Whether a directory is passed over: the system can be asked about it, and it does not
qualify. -/
structure IsPassed (r : Recognizer) (fs : FileSystem) (directory : Path) : Prop where
  whole : directory.isBroken = false
  unfit : ¬r.Qualifies fs directory

/-- Whether one of some directories is come to, since all those before it are passed over. -/
def ComesTo (r : Recognizer) (fs : FileSystem) (directories : List Path) (directory : Path) :
    Prop :=
  ∃ before after, directories = before ++ directory :: after ∧
    ∀ earlier ∈ before, r.IsPassed fs earlier

theorem comesTo_nil {directory : Path} : ¬r.ComesTo fs [] directory := by
  rintro ⟨before, after, hsplit, -⟩
  simp at hsplit

theorem comesTo_cons_iff {first directory : Path} :
    r.ComesTo fs (first :: directories) directory ↔
      directory = first ∨ r.IsPassed fs first ∧ r.ComesTo fs directories directory := by
  constructor
  · rintro ⟨before, after, hsplit, hbefore⟩
    cases before with
    | nil => exact .inl (List.cons.inj hsplit).1.symm
    | cons earlier before =>
      obtain ⟨rfl, rfl⟩ := List.cons.inj hsplit
      obtain ⟨hfirst, hbefore⟩ := List.forall_mem_cons.1 hbefore
      exact .inr ⟨hfirst, before, after, rfl, hbefore⟩
  · rintro (rfl | ⟨hfirst, before, after, rfl, hbefore⟩)
    · exact ⟨[], directories, rfl, by simp⟩
    · exact ⟨first :: before, after, rfl, List.forall_mem_cons.2 ⟨hfirst, hbefore⟩⟩

/-- No profile is made exactly if a directory is come to about which the system cannot be asked. -/
theorem unaskable_iff :
    r.Unaskable fs directories ↔
      ∃ directory, r.ComesTo fs directories directory ∧ directory.isBroken = true := by
  constructor
  · intro h
    induction h with
    -- The directory that ends it is come to, since those before it are passed over.
    | here hbroken => exact ⟨_, comesTo_cons_iff.2 (.inl rfl), hbroken⟩
    | later hwhole hnone _ ih =>
      obtain ⟨directory, hcomes, hbroken⟩ := ih
      have hpassed : r.IsPassed fs _ := ⟨hwhole, profileAt?_eq_none_iff.1 hnone⟩
      exact ⟨directory, comesTo_cons_iff.2 (.inr ⟨hpassed, hcomes⟩), hbroken⟩
  · rintro ⟨directory, hcomes, hbroken⟩
    induction directories with
    | nil => exact absurd hcomes comesTo_nil
    | cons first directories ih =>
      rcases comesTo_cons_iff.1 hcomes with rfl | ⟨hpassed, hcomes⟩
      · exact .here hbroken
      · exact .later hpassed.whole (profileAt?_eq_none_iff.2 hpassed.unfit) (ih hcomes)

/-- The profile is that of the first directory that has one, or the other one if all are passed
over. -/
theorem profileAmong_eq_ok_iff :
    r.profileAmong fs other directories = .ok profile ↔
      (∃ directory, r.ComesTo fs directories directory ∧ directory.isBroken = false ∧
        r.profileAt? fs directory = some profile) ∨
      (∀ directory ∈ directories, r.IsPassed fs directory) ∧ profile = other := by
  induction directories with
  | nil =>
    rw [profileAmong, Except.ok.injEq, eq_comm]
    simp [comesTo_nil]
  | cons first directories ih =>
    rw [profileAmong, List.forall_mem_cons]
    simp only [comesTo_cons_iff]
    -- A directory that cannot be asked about is not passed over, and neither is one with a profile.
    cases hbroken : first.isBroken with
    | true =>
      have hnot : ¬r.IsPassed fs first := fun hpassed => by
        rw [hpassed.whole] at hbroken
        cases hbroken
      simp [hnot, hbroken]
    | false =>
      cases hprofile : r.profileAt? fs first with
      | some found =>
        have hnot : ¬r.IsPassed fs first := fun hpassed => by
          rw [profileAt?_eq_none_iff.2 hpassed.unfit] at hprofile
          cases hprofile
        simp [hnot, hbroken, hprofile]
      | none =>
        have hpassed : r.IsPassed fs first := ⟨hbroken, profileAt?_eq_none_iff.1 hprofile⟩
        simp [hpassed, hprofile, ih]

/-- The order of the listings makes no difference to the profile. -/
theorem profile_eq_of_relisted (h : fs.Relisted gs) (root : Path) :
    r.profile gs root = r.profile fs root := by
  have hamong : ∀ other directories,
      r.profileAmong gs other directories = r.profileAmong fs other directories := by
    intro other directories
    induction directories with
    | nil => rfl
    | cons directory directories ih =>
      rw [profileAmong, profileAmong, profileAt?_eq_of_relisted h, ih]
  exact hamong _ _

/-! ## The profile -/

/-- Whether a directory is the one that is chosen, and for which framework: all candidates before it
are passed over, it can be listed and holds a source, and the framework is that of the first row
shown there. -/
structure IsChosen (r : Recognizer) (fs : FileSystem) (root : Path) (framework : String)
    (source : Path) : Prop where
  comes : r.ComesTo fs (r.places root) source
  whole : source.isBroken = false
  shows : ∃ names row signature, r.Holds fs source names ∧
    IsFirstRow r.signatures names row signature ∧ framework = signature.framework

theorem profile_eq_ok_iff {framework : String} {source : Path} :
    r.profile fs root = .ok ⟨framework, source⟩ ↔
      r.IsChosen fs root framework source ∨
        (∀ directory ∈ r.places root, r.IsPassed fs directory) ∧
          framework = genericFramework ∧ source = root := by
  rw [profile, ← places, profileAmong_eq_ok_iff]
  simp only [profileAt?_eq_some_iff]
  constructor
  · rintro (⟨directory, hcomes, hwhole, names, row, signature, hholds, hrow, heq⟩ | ⟨hall, heq⟩)
    · cases heq
      exact .inl ⟨hcomes, hwhole, names, row, signature, hholds, hrow, rfl⟩
    · cases heq
      exact .inr ⟨hall, rfl, rfl⟩
  · rintro (⟨hcomes, hwhole, names, row, signature, hholds, hrow, rfl⟩ | ⟨hall, rfl, rfl⟩)
    · exact .inl ⟨source, hcomes, hwhole, names, row, signature, hholds, hrow, rfl⟩
    · exact .inr ⟨hall, rfl⟩

/-- **The profile of a project is that of the first candidate that qualifies**, with the first row
of the table that its entries show; if no candidate qualifies, it is the generic one of the root. No
profile is made exactly if a candidate is come to before whose path cannot be handed to the system.
The order of the listings makes no difference, neither to the profile nor to the row, and more names
in a listing show the same row or an earlier one. -/
theorem profile_first (r : Recognizer) (fs : FileSystem) (root : Path) :
    (∀ framework source, r.profile fs root = .ok ⟨framework, source⟩ ↔
      r.IsChosen fs root framework source ∨
        (∀ directory ∈ r.places root, r.IsPassed fs directory) ∧
          framework = genericFramework ∧ source = root) ∧
    (∀ e, r.profile fs root = .error e ↔ e = .brokenPath ∧
      ∃ directory, r.ComesTo fs (r.places root) directory ∧ directory.isBroken = true) ∧
    (∀ gs, fs.Relisted gs → r.profile gs root = r.profile fs root) ∧
    (∀ names others, names.Perm others →
      frameworkOf? r.signatures others = frameworkOf? r.signatures names) ∧
    ∀ names more row signature, names ⊆ more → IsFirstRow r.signatures names row signature →
      frameworkOf? r.signatures names = some signature.framework ∧
        ∃ earlier ≤ row, ∃ other, IsFirstRow r.signatures more earlier other ∧
          frameworkOf? r.signatures more = some other.framework := by
  refine ⟨fun framework source => profile_eq_ok_iff, fun e => ?_,
    fun gs hrelisted => profile_eq_of_relisted hrelisted root,
    fun names others => frameworkOf?_eq_of_perm, fun names more row signature hsub hrow => ?_⟩
  · rw [profile, ← places, profileAmong_eq_error_iff, and_comm, unaskable_iff]
  · obtain ⟨earlier, hle, other, hother⟩ := hrow.exists_le_of_subset hsub
    exact ⟨frameworkOf?_eq_some_iff.2 ⟨row, signature, hrow, rfl⟩, earlier, hle, other, hother,
      frameworkOf?_eq_some_iff.2 ⟨earlier, other, hother, rfl⟩⟩

/-! ## Two rows for one directory -/

/-- A recogniser with a name in both rows of its table. -/
def overlapping : Recognizer where
  signatures := [⟨"looping", ["up"]⟩, ⟨"plain", ["c.js", "up"]⟩]
  candidates := ["b", "a", ""]
  extensions := [".JS"]

/-- A candidate that does not exist is passed over, and of two rows the first counts, in whatever
order the names are listed. Without the name of the first row the second one counts. -/
theorem profile_first_overlapping :
    overlapping.profile (looped backwards) ⟨true, []⟩ = .ok ⟨"looping", ⟨true, ["a"]⟩⟩ ∧
      (looped backwards).Relisted (looped forwards) ∧
      overlapping.profile (looped forwards) ⟨true, []⟩ = .ok ⟨"looping", ⟨true, ["a"]⟩⟩ ∧
      ["c.js"] ⊆ ["up", "c.js"] ∧ frameworkOf? overlapping.signatures ["c.js"] = some "plain" ∧
      ∃ earlier ≤ 1, ∃ other,
        IsFirstRow overlapping.signatures ["up", "c.js"] earlier other := by
  obtain ⟨hok, -, hrelisted, -, hmore⟩ :=
    profile_first overlapping (looped backwards) ⟨true, []⟩
  have hmissing : (looped backwards).names ⟨true, ["b"]⟩ = .error .missing := by cbv
  have hnames : (looped backwards).names ⟨true, ["a"]⟩ = .ok ["up", "d.js", "c.js"] := by cbv
  -- The first candidate cannot be listed, so the search comes to the second.
  have hpassed : overlapping.IsPassed (looped backwards) ⟨true, ["b"]⟩ := by
    refine ⟨by decide, ?_⟩
    rintro ⟨names, ⟨hlist, -⟩, -⟩
    rw [hmissing] at hlist
    cases hlist
  have hcomes : overlapping.ComesTo (looped backwards) (overlapping.places ⟨true, []⟩)
      ⟨true, ["a"]⟩ :=
    ⟨[⟨true, ["b"]⟩], [⟨true, []⟩], by decide, by simpa using hpassed⟩
  have hfirst : IsFirstRow overlapping.signatures ["up", "d.js", "c.js"] 0 ⟨"looping", ["up"]⟩ :=
    ⟨rfl, by decide, fun earlier hearlier => absurd hearlier (Nat.not_lt_zero earlier)⟩
  -- Without the name of the first row, only the second shows one.
  have hsecond : IsFirstRow overlapping.signatures ["c.js"] 1 ⟨"plain", ["c.js", "up"]⟩ := by
    refine ⟨rfl, by decide, fun earlier hearlier other hother => ?_⟩
    obtain rfl : earlier = 0 := by omega
    cases hother
    decide
  have hprofile : overlapping.profile (looped backwards) ⟨true, []⟩
      = .ok ⟨"looping", ⟨true, ["a"]⟩⟩ :=
    (hok _ _).2 (.inl ⟨hcomes, by decide, _, 0, _, ⟨hnames, "c.js", by decide, by decide⟩,
      hfirst, rfl⟩)
  obtain ⟨hplain, hearlier⟩ := hmore ["c.js"] ["up", "c.js"] 1 _ (by decide) hsecond
  obtain ⟨earlier, hle, other, hother, -⟩ := hearlier
  exact ⟨hprofile, relisted_looped, (hrelisted _ relisted_looped).trans hprofile, by decide, hplain,
    earlier, hle, other, hother⟩

end Recognizer

end ScriptAudit
