import Mathlib.Data.List.Forall2

/-!
# Steps that may fail

How an outcome is taken apart at the steps that led to it.

- `isOk_iff_exists`: what it is to succeed.
- `map_eq_ok_iff`, `bind_eq_ok_iff`, `mapError_eq_ok_iff` and those with `error`: single steps.
- `mapM_eq_ok_iff`, `mapM_eq_error_iff`, `exists_mapM_iff`: something made of each item.
- `forM_eq_ok_iff`, `forM_eq_error_iff`: a demand on each item; **the first that fails ends it**.
-/

namespace ScriptAudit

variable {α β ε : Type}

theorem isOk_iff_exists {x : Except ε α} : x.isOk = true ↔ ∃ a, x = .ok a := by
  cases x <;> simp [Except.isOk, Except.toBool]

theorem map_eq_ok_iff {x : Except ε α} {f : α → β} {b : β} :
    x.map f = .ok b ↔ ∃ a, x = .ok a ∧ f a = b := by
  cases x <;> simp [Except.map]

theorem map_eq_error_iff {x : Except ε α} {f : α → β} {e : ε} :
    x.map f = .error e ↔ x = .error e := by
  cases x <;> simp [Except.map]

theorem bind_eq_ok_iff {x : Except ε α} {f : α → Except ε β} {b : β} :
    x >>= f = .ok b ↔ ∃ a, x = .ok a ∧ f a = .ok b := by
  cases x <;> simp [bind, Except.bind]

theorem bind_eq_error_iff {x : Except ε α} {f : α → Except ε β} {e : ε} :
    x >>= f = .error e ↔ x = .error e ∨ ∃ a, x = .ok a ∧ f a = .error e := by
  cases x <;> simp [bind, Except.bind]

theorem mapError_eq_ok_iff {δ : Type} {x : Except ε α} {f : ε → δ} {a : α} :
    x.mapError f = .ok a ↔ x = .ok a := by
  cases x with
  | ok b =>
    constructor <;>
      · intro h
        cases h
        rfl
  | error e => exact iff_of_false nofun nofun

/-- What is made of items has a property exactly if something can be made of each and has it. -/
theorem exists_mapM_iff {f : α → Except ε β} {p : β → Prop} {items : List α} :
    (∃ made, items.mapM f = .ok made ∧ ∀ b ∈ made, p b) ↔
      ∀ item ∈ items, ∃ b, f item = .ok b ∧ p b := by
  induction items with
  | nil => simp [pure, Except.pure]
  | cons item items ih =>
    rw [List.mapM_cons, List.forall_mem_cons, ← ih]
    -- The first item and the rest succeed on their own, and what is made of them is put together.
    constructor
    · rintro ⟨made, hmade, hall⟩
      obtain ⟨b, hb, hmade⟩ := bind_eq_ok_iff.1 hmade
      obtain ⟨others, hothers, hmade⟩ := bind_eq_ok_iff.1 hmade
      obtain rfl := Except.ok.inj hmade
      obtain ⟨hpb, hall⟩ := List.forall_mem_cons.1 hall
      exact ⟨⟨b, hb, hpb⟩, others, hothers, hall⟩
    · rintro ⟨⟨b, hb, hpb⟩, others, hothers, hall⟩
      refine ⟨b :: others, ?_, List.forall_mem_cons.2 ⟨hpb, hall⟩⟩
      rw [hb, hothers]
      rfl

/-- Something is made of all items exactly if it is made of each of them. -/
theorem mapM_eq_ok_iff {f : α → Except ε β} {items : List α} {made : List β} :
    items.mapM f = .ok made ↔ List.Forall₂ (fun item b => f item = .ok b) items made := by
  induction items generalizing made with
  | nil =>
    rw [List.forall₂_nil_left_iff]
    exact ⟨fun h => (Except.ok.inj h).symm, fun h => h ▸ rfl⟩
  | cons item items ih =>
    rw [List.mapM_cons, List.forall₂_cons_left_iff]
    constructor
    · intro h
      obtain ⟨b, hb, h⟩ := bind_eq_ok_iff.1 h
      obtain ⟨others, hothers, h⟩ := bind_eq_ok_iff.1 h
      exact ⟨b, others, hb, ih.1 hothers, (Except.ok.inj h).symm⟩
    · rintro ⟨b, others, hb, hothers, rfl⟩
      rw [hb, ih.2 hothers]
      rfl

/-- What was made was made of one of the items. -/
theorem exists_of_mem_mapM {f : α → Except ε β} {items : List α} {made : List β}
    (h : items.mapM f = .ok made) {b : β} (hb : b ∈ made) : ∃ item ∈ items, f item = .ok b := by
  have hmade := mapM_eq_ok_iff.1 h
  clear h
  induction hmade with
  | nil => cases hb
  | cons hitem _ ih =>
    rcases List.mem_cons.1 hb with rfl | hb
    · exact ⟨_, List.mem_cons_self, hitem⟩
    · obtain ⟨item, hmem, hitem⟩ := ih hb
      exact ⟨item, List.mem_cons_of_mem _ hmem, hitem⟩

/-- The failure of the first item of which nothing can be made. -/
theorem mapM_eq_error_iff {f : α → Except ε β} {items : List α} {e : ε} :
    items.mapM f = .error e ↔ ∃ before item after, items = before ++ item :: after ∧
      (∀ earlier ∈ before, ∃ b, f earlier = .ok b) ∧ f item = .error e := by
  constructor
  · -- The failure is that of the first item, or it is found behind it.
    intro h
    induction items with
    | nil => cases h
    | cons item items ih =>
      rw [List.mapM_cons] at h
      rcases bind_eq_error_iff.1 h with hitem | ⟨b, hb, h⟩
      · exact ⟨[], item, items, rfl, fun _ hnone => absurd hnone List.not_mem_nil, hitem⟩
      · rcases bind_eq_error_iff.1 h with hitems | ⟨made, -, h⟩
        · obtain ⟨before, other, after, rfl, hbefore, hother⟩ := ih hitems
          exact ⟨item :: before, other, after, rfl, List.forall_mem_cons.2 ⟨⟨b, hb⟩, hbefore⟩,
            hother⟩
        · cases h
  · rintro ⟨before, item, after, rfl, hbefore, hitem⟩
    -- Everything before the failing item succeeds, so it is come to.
    induction before with
    | nil =>
      rw [List.nil_append, List.mapM_cons]
      exact bind_eq_error_iff.2 (.inl hitem)
    | cons earlier before ih =>
      obtain ⟨⟨b, hb⟩, hbefore⟩ := List.forall_mem_cons.1 hbefore
      rw [List.cons_append, List.mapM_cons]
      exact bind_eq_error_iff.2 (.inr ⟨b, hb, bind_eq_error_iff.2 (.inl (ih hbefore))⟩)

/-- If something cannot be made of each item, there is one of which it cannot. -/
theorem exists_of_mapM_eq_error {f : α → Except ε β} {items : List α} {e : ε}
    (h : items.mapM f = .error e) : ∃ item ∈ items, f item = .error e := by
  obtain ⟨before, item, after, rfl, -, hitem⟩ := mapM_eq_error_iff.1 h
  exact ⟨item, List.mem_append_right before List.mem_cons_self, hitem⟩

theorem forM_cons_eq (f : α → Except ε Unit) (item : α) (items : List α) :
    (item :: items).forM f = f item >>= fun _ => items.forM f :=
  rfl

theorem forM_eq_ok_iff {f : α → Except ε Unit} {items : List α} :
    items.forM f = .ok () ↔ ∀ item ∈ items, f item = .ok () := by
  induction items with
  | nil => simp [List.forM_nil, pure, Except.pure]
  | cons item items ih =>
    rw [forM_cons_eq, bind_eq_ok_iff, List.forall_mem_cons, ← ih]
    exact ⟨fun ⟨_, hitem, hitems⟩ => ⟨hitem, hitems⟩, fun ⟨hitem, hitems⟩ => ⟨(), hitem, hitems⟩⟩

/-- The failure of the first demand that is not met. -/
theorem forM_eq_error_iff {f : α → Except ε Unit} {items : List α} {e : ε} :
    items.forM f = .error e ↔ ∃ before item after, items = before ++ item :: after ∧
      (∀ earlier ∈ before, f earlier = .ok ()) ∧ f item = .error e := by
  constructor
  · -- The first demand fails, or it is met and the failure is found behind it.
    intro h
    induction items with
    | nil => cases h
    | cons item items ih =>
      rw [forM_cons_eq] at h
      rcases bind_eq_error_iff.1 h with hitem | ⟨_, hitem, hitems⟩
      · exact ⟨[], item, items, rfl, fun _ hnone => absurd hnone List.not_mem_nil, hitem⟩
      · obtain ⟨before, other, after, rfl, hbefore, hother⟩ := ih hitems
        exact ⟨item :: before, other, after, rfl, List.forall_mem_cons.2 ⟨hitem, hbefore⟩, hother⟩
  · rintro ⟨before, item, after, rfl, hbefore, hitem⟩
    induction before with
    | nil =>
      rw [List.nil_append, forM_cons_eq]
      exact bind_eq_error_iff.2 (.inl hitem)
    | cons earlier before ih =>
      obtain ⟨hearlier, hbefore⟩ := List.forall_mem_cons.1 hbefore
      rw [List.cons_append, forM_cons_eq]
      exact bind_eq_error_iff.2 (.inr ⟨(), hearlier, ih hbefore⟩)

end ScriptAudit
