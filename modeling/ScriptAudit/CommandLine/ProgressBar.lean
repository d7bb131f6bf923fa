import ScriptAudit.Value.Arithmetic

/-!
# Progress bars

* `ProgressBar` : a bar that may be disabled, and the value it shows while it is active.
* `ProgressBar.start`, `ProgressBar.update`, `ProgressBar.stop` : what happens to it.
* `ProgressBar.move` : an update to a value of any shape.
* `ProgressBar.Reachable` : what can become of a bar. One that is disabled is never active.
-/

namespace ScriptAudit

/-- A progress bar, and the value that it shows while it is active. -/
structure ProgressBar where
  isEnabled : Bool
  shown : Option Number
  deriving DecidableEq, Repr

namespace ProgressBar

/-- What stands beside a bar. -/
def description : String := "Analyzing files"

/-- The value at which a bar is full. -/
def total : Int := 100

/-- A bar that is not active yet. -/
def idle (isEnabled : Bool) : ProgressBar := ⟨isEnabled, none⟩

/-- Starts a bar at zero, if it is enabled. -/
def start (b : ProgressBar) : ProgressBar :=
  if b.isEnabled then { b with shown := some (.whole 0) } else b

/-- Moves an active bar to a value. -/
def update (b : ProgressBar) (value : Number) : ProgressBar :=
  { b with shown := b.shown.map fun _ => value }

/-- Moves a bar to a value of any shape. An absent value leaves it where it is, and an active bar
takes nothing else but numbers. -/
def move (b : ProgressBar) (value : Value) : Except Failure ProgressBar :=
  match b.shown, value with
  | none, _ => .ok b
  | some _, .null => .ok b
  | some _, value => value.asNumber.map b.update

/-- Takes a bar away. -/
def stop (b : ProgressBar) : ProgressBar :=
  { b with shown := none }

/-- What can become of a bar. -/
inductive Reachable (isEnabled : Bool) : ProgressBar → Prop
  | idle : Reachable isEnabled (idle isEnabled)
  | start {b : ProgressBar} (h : Reachable isEnabled b) : Reachable isEnabled b.start
  | move {b moved : ProgressBar} (h : Reachable isEnabled b) {value : Value}
    (hmoves : b.move value = .ok moved) : Reachable isEnabled moved
  | stop {b : ProgressBar} (h : Reachable isEnabled b) : Reachable isEnabled b.stop

/-- A bar that is moved is active afterwards exactly if it was before, and no more or less enabled. -/
theorem move_keeps {b moved : ProgressBar} {value : Value} (h : b.move value = .ok moved) :
    moved.isEnabled = b.isEnabled ∧ moved.shown.isSome = b.shown.isSome := by
  have hupdated (h : value.asNumber.map b.update = .ok moved) :
      moved.isEnabled = b.isEnabled ∧ moved.shown.isSome = b.shown.isSome := by
    cases hnumber : value.asNumber with
    | error failure =>
      rw [hnumber] at h
      cases h
    | ok number =>
      rw [hnumber] at h
      cases h
      exact ⟨rfl, Option.isSome_map ..⟩
  unfold move at h
  split at h
  case h_3 => exact hupdated h
  all_goals
    cases h
    exact ⟨rfl, rfl⟩

/-- Whether a bar is enabled never changes, and one that is not is never active. -/
theorem Reachable.spec {isEnabled : Bool} {b : ProgressBar} (h : Reachable isEnabled b) :
    b.isEnabled = isEnabled ∧ (isEnabled = false → b.shown = none) := by
  induction h with
  | idle => exact ⟨rfl, fun _ => rfl⟩
  | @start b _ ih =>
    obtain ⟨henabled, hnone⟩ := ih
    unfold ProgressBar.start
    split
    case isTrue hstarts =>
      refine ⟨henabled, fun hdisabled => ?_⟩
      rw [henabled, hdisabled] at hstarts
      cases hstarts
    case isFalse => exact ⟨henabled, hnone⟩
  | move _ hmoves ih =>
    obtain ⟨henabled, hactive⟩ := move_keeps hmoves
    refine ⟨henabled.trans ih.1, fun hdisabled => ?_⟩
    rw [ih.2 hdisabled] at hactive
    exact Option.isSome_eq_false_iff.1 hactive |> Option.isNone_iff_eq_none.1
  | stop _ ih => exact ⟨ih.1, fun _ => rfl⟩

end ProgressBar

end ScriptAudit
