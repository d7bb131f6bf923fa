import Mathlib.Data.List.Perm.Basic
import ScriptAudit.Project.Run

/-!
# The order of completion does not show

Work on the items of a list may be completed in any order. Each result goes to the slot of its item,
and the tracker moves on by one step whichever item was completed.

- `slotsOf`: the slots when the items at some places are done. `fillSlots_slotsOf` says that filling
  slots only ever leads from one such state to another.
- `Tracker.percentages`: what a tracker tells over its next steps. It depends on their number alone.
- `bySlots_eq_inOrder`: **every order of completion gives what working in order gives**: the same
  results in the same order, and the same percentages told to the listener one after the other.
-/

namespace ScriptAudit

variable {σ : Type} {α β : Type}

/-! ## What a listener is told -/

/-- The percentages that a tracker tells over its next steps. -/
def Tracker.percentages (t : Tracker) (steps : Nat) : List Int :=
  (List.range steps).map fun (done : Nat) => percentDone (t.completed + (done + 1 : Nat)) t.total

/-- A tracker some steps further on. -/
def Tracker.further (t : Tracker) (steps : Nat) : Tracker :=
  { t with completed := t.completed + steps }

/-- The state of a listener that was told one thing after the other. -/
def Listener.toldAll (listener : Option (Listener α σ)) (news : List α) (state : σ) : σ :=
  news.foldl (fun state one => Listener.told listener one state) state

/-- The first percentage is that of the next step; the others are those after it. -/
theorem Tracker.percentages_succ (t : Tracker) (steps : Nat) :
    t.percentages (steps + 1)
      = percentDone (t.completed + 1) t.total :: (t.further 1).percentages steps := by
  simp only [percentages, further, List.range_succ_eq_map, List.map_cons, List.map_map]
  refine congrArg₂ List.cons rfl (List.map_congr_left fun done _ => ?_)
  show percentDone (t.completed + (done + 1 + 1 : Nat)) t.total
    = percentDone (t.completed + 1 + (done + 1 : Nat)) t.total
  congr 1
  omega

@[simp] theorem Tracker.further_further (t : Tracker) (steps more : Nat) :
    (t.further steps).further more = t.further (steps + more) := by
  simp [further, Int.add_assoc]

theorem Tracker.advance_eq (listener : Option (Listener Int σ)) (t : Tracker) (state : σ) :
    t.advance listener state
      = (t.further 1, Listener.told listener (percentDone (t.completed + 1) t.total) state) :=
  rfl

/-- Working in order gives the results in order, and tells every percentage. -/
theorem inOrder_eq (work : α → β) (listener : Option (Listener Int σ)) (items : List α)
    (tracker : Tracker) (state : σ) :
    inOrder work listener items tracker state
      = (items.map work, tracker.further items.length,
          Listener.toldAll listener (tracker.percentages items.length) state) := by
  induction items generalizing tracker state with
  | nil => simp [inOrder, Tracker.further, Tracker.percentages, Listener.toldAll]
  | cons item items ih =>
    simp only [inOrder, Tracker.advance_eq, ih, Tracker.further_further, List.length_cons,
      List.map_cons, Tracker.percentages_succ, Listener.toldAll, List.foldl_cons, Nat.add_comm 1]

/-! ## Slots -/

/-- The slots when the items at some places are done. -/
def slotsOf (work : α → β) (items : List α) (done : List Nat) : List (Option β) :=
  items.zipIdx.map fun (item, index) => if index ∈ done then some (work item) else none

theorem getElem?_slotsOf (work : α → β) (items : List α) (done : List Nat) (index : Nat) :
    (slotsOf work items done)[index]?
      = items[index]?.map fun item => if index ∈ done then some (work item) else none := by
  simp [slotsOf, List.getElem?_zipIdx, Function.comp_def]

theorem slotsOf_nil (work : α → β) (items : List α) :
    slotsOf work items [] = List.replicate items.length none := by
  refine List.ext_getElem? fun index => ?_
  rw [getElem?_slotsOf, List.getElem?_replicate]
  by_cases h : index < items.length <;> simp [h]

/-- Filling the slot of an item makes it one of those that are done. A place without an item has no
slot either. -/
theorem set_slotsOf (work : α → β) (items : List α) (done : List Nat) (index : Nat) :
    (slotsOf work items done).set index (items[index]?.map work)
      = slotsOf work items (index :: done) := by
  refine List.ext_getElem? fun place => ?_
  rw [List.getElem?_set, getElem?_slotsOf, getElem?_slotsOf]
  by_cases hplace : index = place
  · subst hplace
    -- Without an item at this place there is no slot, and nothing is set.
    by_cases hlt : index < items.length <;> simp [slotsOf, hlt]
  · rw [if_neg hplace]
    simp [Ne.symm hplace]

/-- Filling slots one after the other: the items at those places are done, and the tracker has told
one percentage for each of them, whichever they are. -/
theorem fillSlots_slotsOf (work : α → β) (listener : Option (Listener Int σ)) (items : List α)
    (indices done : List Nat) (tracker : Tracker) (state : σ) :
    fillSlots work listener items indices (slotsOf work items done) tracker state
      = (slotsOf work items (indices.reverse ++ done), tracker.further indices.length,
          Listener.toldAll listener (tracker.percentages indices.length) state) := by
  induction indices generalizing done tracker state with
  | nil => simp [fillSlots, Tracker.further, Tracker.percentages, Listener.toldAll]
  | cons index indices ih =>
    simp only [fillSlots, Tracker.advance_eq, set_slotsOf, ih, Tracker.further_further,
      List.length_cons, Tracker.percentages_succ, Listener.toldAll, List.foldl_cons, Nat.add_comm 1,
      List.reverse_cons, List.append_assoc, List.singleton_append]

/-- What is in the slots comes from the items, in their order. -/
theorem slotsOf_sublist (work : α → β) (items : List α) (done : List Nat) :
    ((slotsOf work items done).filterMap id).Sublist (items.map work) := by
  have hfilter : (slotsOf work items done).filterMap id
      = (items.zipIdx.filter fun entry => entry.2 ∈ done).map fun entry => work entry.1 := by
    rw [slotsOf, List.filterMap_map, ← List.filterMap_eq_map, List.filterMap_filter]
    congr 1
    funext entry
    by_cases h : entry.2 ∈ done <;> simp [h]
  have hall : items.map work = items.zipIdx.map fun entry => work entry.1 := by
    rw [← List.zipIdx_map_fst 0 items, List.map_map, List.zipIdx_map_fst]
    rfl
  rw [hfilter, hall]
  exact List.filter_sublist.map _

/-- With every item done, the slots hold all results. -/
theorem slotsOf_of_forall_mem (work : α → β) {items : List α} {done : List Nat}
    (h : ∀ index < items.length, index ∈ done) :
    (slotsOf work items done).filterMap id = items.map work := by
  have hall : slotsOf work items done = (items.map work).map some := by
    refine List.ext_getElem? fun index => ?_
    rw [getElem?_slotsOf, List.getElem?_map, List.getElem?_map]
    by_cases hlt : index < items.length
    · simp [hlt, h index hlt]
    · simp [hlt]
  rw [hall, List.filterMap_map]
  simp

/-- Working by slots gives the results of the items that were completed. -/
theorem bySlots_eq (work : α → β) (listener : Option (Listener Int σ)) (completion : List Nat)
    (items : List α) (tracker : Tracker) (state : σ) :
    bySlots work listener completion items tracker state
      = ((slotsOf work items completion.reverse).filterMap id, tracker.further completion.length,
          Listener.toldAll listener (tracker.percentages completion.length) state) := by
  rw [bySlots, ← slotsOf_nil work, fillSlots_slotsOf, List.append_nil]

/-! ## Both ways of working -/

/-- **The order of completion does not show**: if each item is completed once, in whatever order,
the results are those of working in order, none lost, none twice and none out of place. The listener
is told the same percentages one after the other, whatever it makes of them and however often it
fails. -/
theorem bySlots_eq_inOrder (work : α → β) (listener : Option (Listener Int σ)) {items : List α}
    {completion : List Nat} (h : completion.Perm (List.range items.length)) (tracker : Tracker)
    (state : σ) :
    bySlots work listener completion items tracker state
        = inOrder work listener items tracker state ∧
      inOrder work listener items tracker state
        = (items.map work, tracker.further items.length,
            Listener.toldAll listener (tracker.percentages items.length) state) := by
  have hdone : ∀ index < items.length, index ∈ completion.reverse := by
    intro index hlt
    rw [List.mem_reverse, h.mem_iff]
    exact List.mem_range.2 hlt
  have hlength : completion.length = items.length := by
    rw [h.length_eq, List.length_range]
  refine ⟨?_, inOrder_eq work listener items tracker state⟩
  rw [bySlots_eq, inOrder_eq, slotsOf_of_forall_mem work hdone, hlength]

/-- Three items of which the last is completed first. -/
theorem bySlots_last_first :
    [2, 0, 1].Perm (List.range ["a", "bb", "ccc"].length) ∧
      bySlots String.length (some recorder) [2, 0, 1] ["a", "bb", "ccc"] (.start 3) []
        = ([1, 2, 3], ⟨3, 3⟩, [33, 67, 100]) :=
  ⟨by decide,
    (bySlots_eq_inOrder String.length (some recorder) (by decide) (.start 3) []).1.trans rfl⟩

end ScriptAudit
