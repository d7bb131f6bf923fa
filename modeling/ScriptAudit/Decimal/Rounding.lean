import ScriptAudit.Value.Arithmetic

/-!
# Rounding halves up

* `floorOf`, `truncationOf` : the whole number below a float, and the one toward zero.
* `halfUp` : the whole number nearest to a number, a half going up.
* `roundHalfUp` : a number rounded to decimal places, a half going up.
* `hundredths` : a float rounded to two places; a value without digits is left alone.
-/

namespace ScriptAudit

/-- A whole number read off a float; a value without digits gives none. -/
def wholeBy (read? : Binary → Option Int) (x : Float) : Except Failure Int :=
  match read? (.ofFloat x), x.isNaN with
  | some n, _ => .ok n
  | none, true => .error (.ofFault .wrongValue "cannot convert float NaN to integer")
  | none, false => .error (.ofFault .outOfRange "cannot convert float infinity to integer")

/-- The greatest whole number that is not above a float. -/
def floorOf (x : Float) : Except Failure Int :=
  wholeBy Binary.floor? x

/-- A float without its fraction. -/
def truncationOf (x : Float) : Except Failure Int :=
  wholeBy Binary.truncate? x

/-- The whole number nearest to a number, a half going up. -/
def halfUp (n : Number) : Except Failure Int := do
  floorOf ((← n.toFloat) + 0.5)

/-- A number rounded to decimal places, a half going up: the number in units of the last place is
rounded and divided again. -/
def roundHalfUp (n places : Number) : Except Failure Float := do
  let scale ← tenTo places
  let units ← halfUp (← n.times scale)
  (Number.whole units).divided scale

/-- A float rounded to two decimal places. -/
def hundredths (x : Float) : Float :=
  match roundHalfUp (.real x) (.whole 2) with
  | .ok rounded => rounded
  | .error _ => x

end ScriptAudit
