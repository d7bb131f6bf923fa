import ScriptAudit.Proofs.ReportedPath

/-!
# Looking up what real directories lead to

Names that lead from one real directory to the next need no link. So a path made of a root and of
such names is looked up without links being used up behind the root, and leads where the names lead.

- `FileSystem.GrantsAll`, `FileSystem.IsReadable`: everything may be read and searched, and no path to
  a place below a root is too long to be looked up.
- `locate_along`, `listed_along`: **a path through real directories leads to the entry there.**
- `locate_entry`: an entry of any directory is looked up where the directory is.
-/

namespace ScriptAudit

open Search

/-- There is a value under every key of a list of entries. -/
theorem exists_lookup? {α : Type} {key : String} {entries : List (String × α)}
    (h : key ∈ entries.map (·.1)) : ∃ value, lookup? key entries = some value := by
  induction entries with
  | nil => cases h
  | cons entry rest ih =>
    obtain ⟨k, v⟩ := entry
    rw [lookup?]
    split
    · exact ⟨v, rfl⟩
    · rename_i hne
      exact ih ((List.mem_cons.1 h).resolve_left fun heq => hne heq.symm)

namespace FileSystem

variable {fs : FileSystem} {root : Path} {top here : Location} {names : List String}
  {name : String} {e : Entry}

/-- There is an entry under every name in a directory. -/
theorem exists_at?_of_mem {entries : List (String × Entry)}
    (hat : fs.at? here = some (.directory entries)) (hmem : name ∈ entries.map (·.1)) :
    ∃ e, fs.at? (here ++ [name]) = some e := by
  rw [at?_name hat]
  exact exists_lookup? hmem

/-- Names below which there are more names lead to a directory. -/
theorem isDirectory_of_append {below : Entry} (hat : fs.at? here = some e)
    (hbelow : fs.at? (here ++ names) = some below) (hne : names ≠ []) : e.isDirectory = true := by
  rw [at?_append, hat] at hbelow
  cases names with
  | nil => exact absurd rfl hne
  | cons name names =>
    cases e with
    | directory entries => rfl
    | _ => cases hbelow

/-- Whether everything may be read and searched. -/
structure GrantsAll (fs : FileSystem) : Prop where
  read : fs.unreadable = []
  search : fs.unsearchable = []

theorem GrantsAll.mayRead (h : fs.GrantsAll) (here : Location) : fs.mayRead here = true := by
  simp [FileSystem.mayRead, h.read]

theorem GrantsAll.maySearch (h : fs.GrantsAll) (here : Location) : fs.maySearch here = true := by
  simp [FileSystem.maySearch, h.search]

/-- Whether no path that leads from a root through real directories is too long to be looked up. -/
def IsReadable (fs : FileSystem) (root : Path) : Prop :=
  ∀ top names e, fs.locate true root = .ok top → fs.at? (top ++ names) = some e →
    (root.along names).text.utf8ByteSize ≤ longestPath

/-- **A path through real directories leads to the entry there**, unless that is a link that is
followed. -/
theorem locate_along (hsound : fs.IsSound) (hgrants : fs.GrantsAll) (hreadable : fs.IsReadable root)
    (hroot : fs.locate true root = .ok top) {follow : Bool} (hat : fs.at? (top ++ names) = some e)
    (hlast : follow = false ∨ e.isLink = false) (hne : names = [] → follow = true) :
    fs.locate follow (root.along names) = .ok (top ++ names) := by
  by_cases hnil : names = []
  · rw [hne hnil, hnil, Path.along_nil, List.append_nil, hroot]
  · have hshort := Nat.not_lt.2 (hreadable top names e hroot hat)
    rw [locate_eq_locateFrom (short_of_locate hroot)] at hroot
    obtain ⟨left, -, heq⟩ := locateFrom_append hroot follow hnil
    rw [locate_eq_locateFrom hshort]
    refine heq.trans (locateFrom_names hat (fun above _ _ _ => hgrants.maySearch above) ?_ hlast left)
    exact hsound.isName hat

/-- An entry of a directory is looked up where the directory is, unless it is a link that is followed,
its path is too long, or the directory may not be searched. -/
theorem locate_entry {parent : Path} (hsound : fs.IsSound) (hparent : fs.locate true parent = .ok here)
    (he : fs.at? (here ++ [name]) = some e) :
    (∃ refusal : AccessError, refusal.leavesOpen = true ∧
        ∀ follow, fs.locate follow (below parent name) = .error refusal) ∨
      ¬longestPath < (below parent name).text.utf8ByteSize ∧ fs.maySearch here = true ∧
        ∀ follow, follow = false ∨ e.isLink = false →
          fs.locate follow (below parent name) = .ok (here ++ [name]) := by
  by_cases hlong : longestPath < (below parent name).text.utf8ByteSize
  · exact .inl ⟨.nameTooLong, rfl, fun follow => by simp [locate, hlong]⟩
  have hbelow : ∀ follow, ∃ left, fs.locate follow (below parent name)
      = fs.locateFrom follow left here [name] := by
    intro follow
    rw [locate_eq_locateFrom (short_of_locate hparent)] at hparent
    obtain ⟨left, -, heq⟩ := locateFrom_append hparent follow (List.cons_ne_nil name [])
    rw [locate_eq_locateFrom hlong]
    exact ⟨left, heq⟩
  cases hsearch : fs.maySearch here with
  | false =>
    refine .inl ⟨.denied, rfl, fun follow => ?_⟩
    obtain ⟨entries, -, hat, -⟩ := exists_entries he
    obtain ⟨left, heq⟩ := hbelow follow
    have hdenied : fs.entriesAt here = .error .denied := by simp [entriesAt, hat, hsearch]
    rw [heq, locateFrom_error hdenied]
  | true =>
    refine .inr ⟨hlong, rfl, fun follow hlast => ?_⟩
    obtain ⟨left, heq⟩ := hbelow follow
    refine heq.trans (locateFrom_names he (fun above hbelow habove hne => ?_) (hsound.isName he) hlast
      left)
    -- Only the directory itself is on the way to its entry.
    rcases List.prefix_concat_iff.1 habove with rfl | habove
    · exact absurd rfl hne
    · rw [hbelow.eq_of_length_le habove.length_le] at hsearch
      exact hsearch

end FileSystem

namespace Search

variable {fs : FileSystem} {root : Path} {top here : Location} {names : List String}
  {name : String} {e : Entry}

/-- What stands at the end of a path through real directories is listed as such. -/
theorem listed_along (hsound : fs.IsSound) (hgrants : fs.GrantsAll) (hreadable : fs.IsReadable root)
    (hroot : fs.locate true root = .ok top) (hat : fs.at? (top ++ (names ++ [name])) = some e) :
    fs.listed (root.along (names ++ [name])) = some e := by
  rw [← List.append_assoc] at hat
  obtain ⟨entries, -, hdirectory, -⟩ := FileSystem.exists_entries hat
  have hparent := FileSystem.locate_along hsound hgrants hreadable hroot hdirectory (.inr rfl)
    fun _ => rfl
  rw [← Path.below_along, listed_below hparent, hat]

end Search

end ScriptAudit
