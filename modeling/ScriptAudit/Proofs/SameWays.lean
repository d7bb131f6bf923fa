import ScriptAudit.Proofs.LookUp

/-!
# File systems in which the same steps lead the same way

When a path is looked up, nothing counts but which names there are in a directory, which of them
stand for directories, where links lead, and what may be searched. The bytes of files do not, nor does
the order in which a directory lists its names.

- `FileSystem.SameWays`: two file systems that agree in what counts.
- `FileSystem.SameWays.locate_eq`: **a path leads to the same location in both.**
-/

namespace ScriptAudit

namespace FileSystem

variable {fs gs : FileSystem} {here : Location} {step : String}
  {entries others : List (String × Entry)}

/-- Whether two file systems agree in what counts when a path is looked up: in both there is
something at the same locations, a directory at the same ones, and a link with the same target, and
the same directories may be searched. -/
structure SameWays (fs gs : FileSystem) : Prop where
  missing : ∀ here, gs.at? here = none ↔ fs.at? here = none
  directory : ∀ here, gs.HasDirectory here ↔ fs.HasDirectory here
  link : ∀ here target, gs.at? here = some (.link target) ↔ fs.at? here = some (.link target)
  searched : ∀ here, gs.maySearch here = fs.maySearch here

/-- Room does not count. -/
theorem sameWays_room (fs : FileSystem) (room : Nat) : fs.SameWays { fs with room } :=
  ⟨fun _ => .rfl, fun _ => .rfl, fun _ _ => .rfl, fun _ => rfl⟩

namespace SameWays

variable (h : SameWays fs gs)

include h

/-! ## One name in a directory of both -/

section

variable (hat : fs.entriesAt here = .ok entries) (hat' : gs.entriesAt here = .ok others)

include hat hat'

theorem lookup?_eq_none (hnone : lookup? step entries = none) : lookup? step others = none := by
  rw [← at?_of_entriesAt hat', h.missing, at?_of_entriesAt hat, hnone]

theorem lookup?_eq_link {target : String} (hlink : lookup? step entries = some (.link target)) :
    lookup? step others = some (.link target) := by
  rw [← at?_of_entriesAt hat', h.link, at?_of_entriesAt hat, hlink]

/-- Under a name that stands for something else there is something else. -/
theorem exists_lookup?_eq {e : Entry} (hentry : lookup? step entries = some e)
    (hother : ∀ target, e ≠ .link target) :
    ∃ e', lookup? step others = some e' ∧ ∀ target, e' ≠ .link target := by
  cases hentry' : lookup? step others with
  | none =>
    rw [← at?_of_entriesAt hat', h.missing, at?_of_entriesAt hat, hentry] at hentry'
    cases hentry'
  | some e' =>
    refine ⟨e', rfl, ?_⟩
    rintro target rfl
    rw [← at?_of_entriesAt hat', h.link, at?_of_entriesAt hat, hentry] at hentry'
    exact hother target (Option.some.inj hentry')

end

/-! ## Looking up -/

theorem exists_entriesAt_eq (hat : fs.entriesAt here = .ok entries) :
    ∃ others, gs.entriesAt here = .ok others := by
  obtain ⟨hdirectory, hsearched⟩ := entriesAt_eq_ok.1 hat
  obtain ⟨others, hothers⟩ := (h.directory here).2 ⟨entries, hdirectory⟩
  exact ⟨others, entriesAt_eq_ok.2 ⟨hothers, (h.searched here).trans hsearched⟩⟩

theorem entriesAt_eq_error {e : AccessError} (hat : fs.entriesAt here = .error e) :
    gs.entriesAt here = .error e := by
  unfold entriesAt at hat ⊢
  split at hat
  · rename_i entries hdirectory
    obtain ⟨others, hothers⟩ := (h.directory here).2 ⟨entries, hdirectory⟩
    rw [hothers]
    dsimp only
    rw [h.searched]
    -- Where both are directories, only a look-up that is denied fails.
    cases hsearched : fs.maySearch here with
    | true => simp [hsearched] at hat
    | false => simpa [hsearched] using hat
  · rename_i hnone
    cases hat
    split
    · rename_i others hothers
      obtain ⟨entries, hentries⟩ := (h.directory here).1 ⟨others, hothers⟩
      exact absurd hentries (hnone entries)
    · rfl

theorem locateFrom_eq (follow : Bool) (budget : Nat) (here : Location) (steps : List String) :
    gs.locateFrom follow budget here steps = fs.locateFrom follow budget here steps := by
  -- At each step both systems have an entry of the same kind, so the look-up goes on alike.
  induction budget, here, steps using locateFrom.induct fs follow with
  | case1 budget here => rw [locateFrom, locateFrom]
  | case2 budget here rest entries hat ih =>
    obtain ⟨others, hat'⟩ := h.exists_entriesAt_eq hat
    simpa [locateFrom, hat, hat'] using ih
  | case3 budget here rest entries hat hdot ih =>
    obtain ⟨others, hat'⟩ := h.exists_entriesAt_eq hat
    simpa [locateFrom, hat, hat', hdot] using ih
  | case4 budget here step rest entries hat hdot hup hlong =>
    obtain ⟨others, hat'⟩ := h.exists_entriesAt_eq hat
    simp [locateFrom, hat, hat', hdot, hup, hlong]
  | case5 budget here step rest entries hat hdot hup hshort hnone =>
    obtain ⟨others, hat'⟩ := h.exists_entriesAt_eq hat
    simp [locateFrom, hat, hat', hdot, hup, hshort, hnone, h.lookup?_eq_none hat hat' hnone]
  | case6 budget here step rest entries hat hdot hup hshort target hlink hlast =>
    obtain ⟨others, hat'⟩ := h.exists_entriesAt_eq hat
    simp [locateFrom, hat, hat', hdot, hup, hshort, hlink, h.lookup?_eq_link hat hat' hlink, hlast]
  | case7 here step rest entries hat hdot hup hshort target hlink hlast =>
    obtain ⟨others, hat'⟩ := h.exists_entriesAt_eq hat
    simp [locateFrom, hat, hat', hdot, hup, hshort, hlink, h.lookup?_eq_link hat hat' hlink, hlast]
  -- A link is followed in both, and one link fewer is left.
  | case8 here step rest entries hat hdot hup hshort target hlink hlast budget ih =>
    obtain ⟨others, hat'⟩ := h.exists_entriesAt_eq hat
    have hname : IsName step := ⟨hdot, hup, Nat.not_lt.1 hshort⟩
    have hgoon := Bool.eq_false_iff.2 hlast
    rw [locateFrom_link hat hname hlink hgoon,
      locateFrom_link hat' hname (h.lookup?_eq_link hat hat' hlink) hgoon]
    exact ih
  | case9 budget here step rest entries hat hdot hup hshort e hother hentry ih =>
    obtain ⟨others, hat'⟩ := h.exists_entriesAt_eq hat
    have hname : IsName step := ⟨hdot, hup, Nat.not_lt.1 hshort⟩
    obtain ⟨e', hentry', hother'⟩ := h.exists_lookup?_eq hat hat' hentry hother
    rw [locateFrom_entry hat hname hentry hother, locateFrom_entry hat' hname hentry' hother']
    exact ih
  | case10 budget here step rest e hat =>
    rw [locateFrom_error hat, locateFrom_error (h.entriesAt_eq_error hat)]

/-- **A path leads to the same location in both.** -/
theorem locate_eq (follow : Bool) (path : Path) :
    gs.locate follow path = fs.locate follow path := by
  by_cases hlong : longestPath < path.text.utf8ByteSize
  · simp [locate, hlong]
  · rw [locate_eq_locateFrom hlong, locate_eq_locateFrom hlong, h.locateFrom_eq]

end SameWays

end FileSystem

end ScriptAudit
