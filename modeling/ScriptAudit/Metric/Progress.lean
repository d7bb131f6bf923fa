import ScriptAudit.Decimal.Rounding

/-!
# Progress

* `percentDone` : how much of a total is done, in percent, a half going up.
* `percentRounded`, `percentOf` : the same in floating point, for whole numbers and for values that may be
  fractions, beyond all floats, or no numbers.
* `jobProgress`, `jobProgressOf` : the same on the scale of a whole job, of which the analysis is one part.
* `Listener` : someone who is told things, and who may fail to take them in.
* `Tracker`, `Tracker.advance` : counts finished steps and tells the listener the percentage after
  each.
-/

namespace ScriptAudit

/-- The share of a total that is done, in percent. Of nothing, everything is done. -/
def percentDone (done total : Int) : Int :=
  if total ≤ 0 then 100 else (200 * done + total) / (2 * total)

/-- The same share computed in floating point, if the quotient is not beyond all floats. The quotient is
rounded to fifty-three bits, and its sum with one half is rounded again. -/
def percentRounded (done total : Int) : Except Failure Int :=
  match (Binary.ofRatio (done < 0) (100 * done).natAbs total.natAbs).plusHalf.floor? with
  | some percent => .ok percent
  | none => .error (.ofFault .outOfRange "integer division result too large for a float")

/-- The same share for values. -/
def percentOf (done total : Value) : Except Failure Int := do
  let total ← total.asNumber
  if total.isAtMost 0 then return 100
  let done ← done.asNumber
  match done.whole?, total.whole? with
  | some done, some total => percentRounded done total
  | _, _ => halfUp (.real (← (← (Number.whole 100).times done).divided total))

namespace JobProgress

/-- Where a job stands when its analysis starts. -/
def start : Int := 10

/-- Where a job stands when its analysis has ended. -/
def ceiling : Int := 80

/-- The fraction 0.7 of a job that one percent of the analysis stands for, in units of `2 ^ -52`. -/
def share : Nat := 3152519739159347

/-- The share of a job that a percentage of the analysis stands for. Percentage and product are
rounded to fifty-three bits, and the share is rounded down. -/
def part (percent : Int) : Int :=
  Int.fdiv (Binary.signed (percent < 0) (nearestBits (nearestBits percent.natAbs * share)))
    (Nat.pow 2 52)

/-- Where a job stands when a part of it has been done by its analysis. -/
def after (part : Int) : Int :=
  min ceiling (start + part)

end JobProgress

/-- The progress of a job at a percentage of its analysis. -/
def jobProgress (percent : Int) : Int :=
  JobProgress.after (JobProgress.part percent)

/-- The progress of a job at a percentage that may be any value. -/
def jobProgressOf (percent : Value) : Except Failure Int := do
  match ← percent.asNumber with
  | .real x => return JobProgress.after (← floorOf (x * 0.7))
  | n =>
    let _ ← n.toFloat
    return jobProgress (n.whole?.getD 0)

/-- Someone who is told things. Being told one changes the listener, and may fail. -/
structure Listener (α σ : Type) where
  hear : α → σ → σ × Option String

/-- The state of a listener that has been told something. One that fails is not missed, and so is
one that is not there. -/
def Listener.told {α σ : Type} (listener : Option (Listener α σ)) (news : α) (state : σ) : σ :=
  match listener with
  | none => state
  | some listener => (listener.hear news state).1

/-- The number of steps, and how many of them are finished. -/
structure Tracker where
  total : Int
  completed : Int
  deriving DecidableEq, Repr

/-- No step finished yet. -/
def Tracker.start (total : Int) : Tracker :=
  ⟨total, 0⟩

/-- Finishes a step and tells the listener, if there is one. -/
def Tracker.advance {σ : Type} (listener : Option (Listener Int σ)) (t : Tracker) (state : σ) :
    Tracker × σ :=
  let t := { t with completed := t.completed + 1 }
  (t, Listener.told listener (percentDone t.completed t.total) state)

end ScriptAudit
