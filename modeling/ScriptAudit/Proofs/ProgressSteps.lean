import Mathlib.Data.Rat.Floor
import ScriptAudit.Proofs.JobProgress

/-!
# Progress step by step

A tracker counts every step and tells one percentage after each, whatever the listener makes of it.

- `percentDone_eq_round`: the percentage is the exact share in percent, rounded with halves up.
- `Tracker.advances`: a tracker and its listener after some steps. `Tracker.advances_eq` says that the
  tracker has counted them, and that the listener was told the percentages one after the other.
- `journal`: a listener that writes down what it is told and fails as it likes.
- `Tracker.advances_start`: **after as many steps as there are in all, every step has been counted and
  told once**, as the percentages of a list that never falls and ends at a hundred, and that does not
  depend on who listens and how often they fail.
-/

namespace ScriptAudit

variable {σ : Type}

/-! ## A single percentage -/

/-- The percentage is the exact share, a half going up. -/
theorem percentDone_eq_round (done : Int) {total : Nat} (hpos : 0 < total) :
    percentDone done total = round (100 * done / total : ℚ) := by
  have hpos' : (0 : ℚ) < total := Nat.cast_pos.2 hpos
  have hshare : (100 * done / total + 1 / 2 : ℚ)
      = ((200 * done + total : ℤ) : ℚ) / ((2 * total : ℕ) : ℚ) := by
    push_cast
    field_simp
    ring
  rw [round_eq, hshare, Rat.floor_intCast_div_natCast, percentDone, if_neg (by omega)]
  push_cast
  rfl

/-! ## Many steps -/

namespace Tracker

/-- A tracker and its listener after some more steps. -/
def advances (listener : Option (Listener Int σ)) (steps : Nat) (t : Tracker) (state : σ) :
    Tracker × σ :=
  (fun s => s.1.advance listener s.2)^[steps] (t, state)

theorem advances_succ (listener : Option (Listener Int σ)) (steps : Nat) (t : Tracker)
    (state : σ) :
    t.advances listener (steps + 1) state
      = (t.further 1).advances listener steps
          (Listener.told listener (percentDone (t.completed + 1) t.total) state) := by
  rw [advances, Function.iterate_succ_apply]
  rfl

/-- The tracker has counted the steps, and the listener was told a percentage after each. -/
theorem advances_eq (listener : Option (Listener Int σ)) (steps : Nat) (t : Tracker) (state : σ) :
    t.advances listener steps state
      = (t.further steps, Listener.toldAll listener (t.percentages steps) state) := by
  induction steps generalizing t state with
  | zero => simp [advances, further, percentages, Listener.toldAll]
  | succ steps ih =>
    rw [advances_succ, ih, further_further, percentages_succ, Nat.add_comm 1]
    rfl

end Tracker

/-- A listener that writes down what it is told. Whether it fails may depend on everything it has
heard so far. -/
def journal (fails : List Int → Option String) : Listener Int (List Int) where
  hear percent heard := (heard ++ [percent], fails (heard ++ [percent]))

/-- A journal holds everything that was told, the failures notwithstanding. -/
theorem toldAll_journal (fails : List Int → Option String) (news heard : List Int) :
    Listener.toldAll (some (journal fails)) news heard = heard ++ news := by
  induction news generalizing heard with
  | nil => exact (List.append_nil heard).symm
  | cons percent news ih =>
    rw [List.append_cons]
    exact ih (heard ++ [percent])

namespace Tracker

/-- The percentage of each step of a whole run. -/
theorem getElem?_percentages_start {total done : Nat} (hlt : done < total) :
    ((Tracker.start total).percentages total)[done]?
      = some (round (100 * (done + 1 : Nat) / total : ℚ)) := by
  have hround := percentDone_eq_round ((done + 1 : Nat) : Int) (Nat.zero_lt_of_lt hlt)
  rw [Int.cast_natCast] at hround
  rw [percentages_start, List.getElem?_map, List.getElem?_range hlt, ← hround]
  rfl

/-- **Every step is counted and told once.** There is one percentage for each step of a run, the
exact share rounded with halves up; the percentages never fall, stay between zero and a hundred and
end at a hundred. After as many steps as there are in all, the tracker has counted all of them and
its listener, if there is one, was told the percentages one after the other and nothing else. They
are the same for every listener, and a journal has all of them, however it fails in between. -/
theorem advances_start {total : Nat} (hpos : 0 < total) :
    ∃ percentages : List Int,
      percentages.length = total ∧
      (∀ done < total,
        percentages[done]? = some (round (100 * (done + 1 : Nat) / total : ℚ))) ∧
      percentages.Pairwise (· ≤ ·) ∧
      (∀ percent ∈ percentages, 0 ≤ percent ∧ percent ≤ 100) ∧
      percentages.getLast? = some 100 ∧
      (∀ {σ : Type} (listener : Option (Listener Int σ)) (state : σ),
        (Tracker.start total).advances listener total state
          = (⟨total, total⟩, Listener.toldAll listener percentages state)) ∧
      ∀ fails : List Int → Option String,
        (Tracker.start total).advances (some (journal fails)) total []
          = (⟨total, total⟩, percentages) := by
  -- The percentages do not depend on the listener: they come from the numbers of the steps alone.
  have hrun : ∀ {σ : Type} (listener : Option (Listener Int σ)) (state : σ),
      (Tracker.start total).advances listener total state
        = (⟨total, total⟩,
            Listener.toldAll listener ((Tracker.start total).percentages total) state) := by
    intro σ listener state
    rw [advances_eq, further, start, Int.zero_add]
  refine ⟨(Tracker.start total).percentages total, ?_, ?_, percentages_pairwise total, ?_,
    getLast?_percentages hpos, hrun, ?_⟩
  · simp [percentages]
  · intro done hlt
    exact getElem?_percentages_start hlt
  · intro percent hmem
    exact mem_percentages hmem
  · intro fails
    rw [hrun, toldAll_journal, List.nil_append]

/-- Eight steps, told to a journal that fails at every percentage above fifty. -/
theorem advances_start_eight :
    0 < 8 ∧ ∃ percentages : List Int,
      percentages = [13, 25, 38, 50, 63, 75, 88, 100] ∧
      percentages[0]? = some (round (100 * (0 + 1 : Nat) / (8 : Nat) : ℚ)) ∧
      percentages.Pairwise (· ≤ ·) ∧ percentages.getLast? = some 100 ∧
      (Tracker.start (8 : Nat)).advances
          (some (journal fun heard => if heard.any (50 < ·) then some "above" else none)) 8 []
        = (⟨8, 8⟩, percentages) := by
  obtain ⟨percentages, -, hround, hpairwise, -, hlast, -, hjournal⟩ :=
    advances_start (show 0 < 8 by decide)
  have hpercentages : percentages = [13, 25, 38, 50, 63, 75, 88, 100] :=
    congrArg Prod.snd ((hjournal fun _ => none).symm.trans rfl)
  exact ⟨by decide, percentages, hpercentages, hround 0 (by decide), hpairwise, hlast,
    hjournal fun heard => if heard.any (50 < ·) then some "above" else none⟩

end Tracker

end ScriptAudit
