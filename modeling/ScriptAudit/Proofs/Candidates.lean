import ScriptAudit.Proofs.RealPlaces
import Mathlib.Tactic.ByContra

/-!
# What a search is for

With no link followed into a directory, the candidates below a root are the script files, or links
with such a name, to which real directories lead. Those that lead to a file of a suitable size are
eligible. Both are said about the file system alone, whatever a search does.

- `Listing`: the paths with some property in depth-first order. There is only one such list.
- `IsCandidate`, `IsEligible`: what a search counts, and what it may find.
- `Fills`: the first files of a list, up to the number that the settings allow. `Fills.judge` says
  that **judging one more candidate keeps the files found the first eligible ones.**
-/

namespace ScriptAudit

open Search

variable {fs : FileSystem} {settings : Settings} {root path : Path} {top : Location}
  {names : List String}

/-! ## Depth-first order -/

/-- Whether a list has the paths with a property, in depth-first order and names in ascending
order. -/
structure Listing (P : Path → Prop) (paths : List Path) : Prop where
  ordered : (paths.map (·.parts)).Pairwise Precedes
  mem_iff : ∀ path, path ∈ paths ↔ P path

theorem Precedes.lt {first second : List String} (h : Precedes first second) : first < second := by
  obtain ⟨stem, a, b, as, bs, rfl, rfl, hlt⟩ := h
  exact List.append_left_lt (List.Lex.rel hlt)

/-- The property leaves no choice. -/
theorem Listing.unique {P : Path → Prop} {paths others : List Path} (h : Listing P paths)
    (h' : Listing P others) : paths = others := by
  have hdistinct : ∀ {list : List Path}, Listing P list → list.Nodup := by
    intro list hlist
    have hordered := hlist.ordered
    rw [List.pairwise_map] at hordered
    exact hordered.imp fun hprecedes heq => hprecedes.ne (congrArg Path.parts heq)
  -- Without repetitions both lists are permutations of each other, and the order leaves one of
  -- them.
  have hperm : paths.Perm others :=
    (List.perm_ext_iff_of_nodup (hdistinct h) (hdistinct h')).2 fun path =>
      (h.mem_iff path).trans (h'.mem_iff path).symm
  have hordered := h.ordered
  have hordered' := h'.ordered
  rw [List.pairwise_map] at hordered hordered'
  refine hperm.eq_of_pairwise (fun a b _ _ hab hba => ?_) hordered hordered'
  exact absurd hba.lt (List.lt_asymm hab.lt)

/-! ## What the search is for -/

/-- A candidate: real directories lead to it from the root, it is no real directory itself, no name
on the way is excluded, and its own is that of a script file. -/
def IsCandidate (fs : FileSystem) (settings : Settings) (root path : Path) : Prop :=
  ∃ top names e, fs.locate true root = .ok top ∧ path = root.along names ∧ names ≠ [] ∧
    fs.at? (top ++ names) = some e ∧ e.isDirectory = false ∧
      (∀ name ∈ names, name ∉ settings.excludeDirs) ∧
        isSourceName settings.sourceExtensions path.name = true

/-- Whether a path leads, through links or not, to a file that is not too large. -/
def fits (fs : FileSystem) (settings : Settings) (path : Path) : Bool :=
  match fs.entry true path, settings.sizeLimit with
  | .ok (.file bytes), .ok limit => (bytes.length : Int) ≤ limit
  | _, _ => false

/-- A candidate that leads to a file that is not too large. -/
def IsEligible (fs : FileSystem) (settings : Settings) (root path : Path) : Prop :=
  IsCandidate fs settings root path ∧ fits fs settings path = true

/-- Whether some files are the first ones of a list, as many as the settings allow. -/
structure Fills (settings : Settings) (eligible files : List Path) : Prop where
  initial : files <+: eligible
  room : ∀ count < files.length, settings.maxFiles.isAtMost (count : Nat) = false
  full : files ≠ eligible → settings.maxFiles.isAtMost files.length = true

/-- With a whole number of files allowed, the files are that many of the list. -/
theorem Fills.eq_take {eligible files : List Path} (h : Fills settings eligible files) {limit : Int}
    (hlimit : settings.maxFiles.whole? = some limit) : files = eligible.take limit.toNat := by
  have hatMost : ∀ other : Int, settings.maxFiles.isAtMost other = decide (limit ≤ other) :=
    Number.compareBy_of_whole? hlimit _ _
  have hle : files.length ≤ eligible.length := h.initial.length_le
  have hroom : files.length ≤ limit.toNat := by
    by_contra hmore
    have hlast := h.room limit.toNat (by omega)
    rw [hatMost, decide_eq_false_iff_not] at hlast
    omega
  -- Files are missing only where the limit was met.
  by_cases hall : files = eligible
  · rw [← hall, List.take_of_length_le hroom]
  · have hfull := h.full hall
    rw [hatMost, decide_eq_true_iff] at hfull
    have hlength : files.length = limit.toNat := by omega
    rw [← hlength]
    exact List.prefix_iff_eq_take.1 h.initial

/-! ## Candidates, one by one -/

/-- Whether the size that a search makes out is that of the file to which a path leads, if it leads
to one. -/
def IsWeighed (fs : FileSystem) (path : Path) : Prop :=
  ∀ size, fileSize? fs path = .ok (some size) ↔
    ∃ bytes : List UInt8, fs.entry true path = .ok (.file bytes) ∧ bytes.length = size

/-- An entry is weighed as what its path leads to, if that is what the entry is or a link leads
there. -/
theorem isWeighed_of_listed {e : Entry} (hlisted : fs.listed path = some e)
    (hsame : e.isLink = false → fs.entry true path = .ok e) : IsWeighed fs path := by
  -- Only what a link leads to can be something else than what is listed.
  intro size
  by_cases hlink : e.isLink = true
  · obtain ⟨target, rfl⟩ : ∃ target, e = .link target := by
      cases e with
      | link target => exact ⟨target, rfl⟩
      | _ => cases hlink
    rw [fileSize?, leadsTo_of_link hlisted]
    cases hentry : fs.entry true path with
    | error refusal => cases refusal <;> simp
    | ok e => cases e <;> simp [Entry.isFile, Entry.size, Except.map]
  · have hlast := Bool.not_eq_true _ ▸ hlink
    rw [fileSize?, leadsTo_of_listed hlisted (.inr hlast), hsame hlast]
    cases e <;> simp [Entry.isFile, Entry.size, Except.map]

theorem fits_eq_false (hweighed : IsWeighed fs path)
    (h : ∀ size, fileSize? fs path ≠ .ok (some size)) : fits fs settings path = false := by
  unfold fits
  split
  · rename_i bytes limit hentry hlimit
    exact absurd ((hweighed _).2 ⟨bytes, hentry, rfl⟩) (h _)
  · rfl

theorem fits_eq_decide {limit : Int} {size : Nat} (hweighed : IsWeighed fs path)
    (h : fileSize? fs path = .ok (some size)) (hlimit : settings.sizeLimit = .ok limit) :
    fits fs settings path = decide ((size : Int) ≤ limit) := by
  obtain ⟨bytes, hentry, rfl⟩ := (hweighed size).1 h
  simp [fits, hentry, hlimit]

/-- What is found when one more candidate is judged. -/
theorem Fills.judge {seen : List Path} {s found : Search} (hweighed : IsWeighed fs path)
    (h : Fills settings (seen.filter (fits fs settings)) s.files)
    (hjudges : Judges fs settings path s found) :
    Fills settings ((seen ++ [path]).filter (fits fs settings)) found.files := by
  rw [List.filter_append, List.filter_cons, List.filter_nil]
  cases hjudges with
  | unclear hsize | dangling hsize hlink | unsuitable hsize hlink =>
    rw [fits_eq_false hweighed (by simp [hsize])]
    simpa [counted, Search.warn] using h
  | tooLarge hsize hlimit hlarge =>
    rw [fits_eq_decide hweighed hsize hlimit, decide_eq_false (Int.not_le.2 hlarge)]
    simpa [counted, Search.warn] using h
  | tooMany hsize hlimit hsmall hmany =>
    exact ⟨h.initial.trans (List.prefix_append _ _), h.room, fun _ => hmany⟩
  | taken hsize hlimit hsmall hroom =>
    rw [fits_eq_decide hweighed hsize hlimit, decide_eq_true hsmall]
    -- There was room for one more, so none was left out before.
    have hall : s.files = seen.filter (fits fs settings) := by
      by_contra hne
      rw [h.full hne] at hroom
      cases hroom
    refine ⟨by simp [hall], fun count hcount => ?_, fun hne => absurd (by simp [hall]) hne⟩
    rw [List.length_append, List.length_singleton] at hcount
    rcases Nat.lt_succ_iff_lt_or_eq.1 hcount with hlt | rfl
    · exact h.room count hlt
    · exact hroom

theorem Search.Judges.discovered_eq {s found : Search} (h : Judges fs settings path s found) :
    found.discovered = s.discovered + 1 := by
  cases h <;> rfl

/-- The size limit is at hand when a file was judged. -/
theorem Search.Judges.exists_limit {s found : Search} {size : Nat}
    (h : Judges fs settings path s found) (hfile : fileSize? fs path = .ok (some size)) :
    ∃ limit, settings.sizeLimit = .ok limit := by
  cases h with
  | unclear hsize | dangling hsize hlink | unsuitable hsize hlink =>
    rw [hsize] at hfile
    cases hfile
  | tooLarge hsize hlimit | tooMany hsize hlimit | taken hsize hlimit => exact ⟨_, hlimit⟩

/-! ## Candidates below a place -/

/-- The names of a candidate whose path goes on from a place below the root. -/
theorem exists_names (hroot : fs.locate true root = .ok top)
    (hpath : IsCandidate fs settings root path) (hbelow : (root.along names).parts <+: path.parts) :
    ∃ more e, path = root.along (names ++ more) ∧ names ++ more ≠ [] ∧
      fs.at? (top ++ (names ++ more)) = some e ∧ e.isDirectory = false ∧
        ∀ name ∈ names ++ more, name ∉ settings.excludeDirs := by
  obtain ⟨top', all, e, hroot', rfl, hne, hat, hno, hkept, -⟩ := hpath
  rw [hroot] at hroot'
  cases hroot'
  obtain ⟨more, hmore⟩ := hbelow
  obtain rfl : names ++ more = all := by simpa [Path.along] using hmore
  exact ⟨more, e, rfl, hne, hat, hno, hkept⟩

/-- Below a directory a candidate goes on from one of the entries. -/
theorem exists_entry_above {entries : List (String × Entry)} (hroot : fs.locate true root = .ok top)
    (hpath : IsCandidate fs settings root path) (hbelow : (root.along names).parts <+: path.parts)
    (hat : fs.at? (top ++ names) = some (.directory entries)) :
    ∃ name ∈ entries.map (·.1), (below (root.along names) name).parts <+: path.parts := by
  obtain ⟨more, e, rfl, -, hate, hno, -⟩ := exists_names hroot hpath hbelow
  rw [← List.append_assoc] at hate
  -- Nothing more would make the candidate the directory itself, which is no file.
  cases more with
  | nil =>
    rw [List.append_nil, hat] at hate
    cases hate
    cases hno
  | cons name more =>
    obtain ⟨entries', e', hat', hentry, -⟩ := FileSystem.exists_entries hate
    rw [hat] at hat'
    cases hat'
    refine ⟨name, List.mem_map_of_mem (mem_of_lookup? hentry), ?_⟩
    simp [below, Path.along]

/-- Below a place that is no directory there is no candidate but the place itself. -/
theorem eq_along {e : Entry} (hroot : fs.locate true root = .ok top)
    (hpath : IsCandidate fs settings root path) (hbelow : (root.along names).parts <+: path.parts)
    (hat : fs.at? (top ++ names) = some e) (hno : e.isDirectory = false) :
    path = root.along names := by
  obtain ⟨more, below, rfl, -, hbelow, -, -⟩ := exists_names hroot hpath hbelow
  have hmore : more = [] := by
    by_contra hmore
    rw [← List.append_assoc] at hbelow
    have hdirectory := FileSystem.isDirectory_of_append hat hbelow hmore
    rw [hno] at hdirectory
    cases hdirectory
  rw [hmore, List.append_nil]

end ScriptAudit
