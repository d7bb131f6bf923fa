import ScriptAudit.Failure.Basic

/-!
# Arithmetic on numbers

Sums, products and quotients of numbers of either kind. Whole numbers stay whole as long as they
can; a whole number that meets a float becomes the nearest float.

* `Number.nearest` : the float nearest to a number, perhaps infinite.
* `floatOf`, `Number.toFloat` : the same, but a whole number beyond all floats is a failure.
* `Number.add`, `Number.total` : sums, which are infinite beyond all floats.
* `Number.ratio` : quotients of the same kind.
* `Number.times`, `Number.divided` : products and quotients that fail where they cannot be formed.
* `tenTo` : a power of ten.
* `Value.asNumber` : a value in arithmetic, which fails if it is no number.
-/

namespace ScriptAudit

/-- The float nearest to a whole number that is not beyond all floats. -/
def floatOf (n : Int) : Except Failure Float :=
  if (nearestFloat n).isInf then
    .error (.ofFault .outOfRange "int too large to convert to float")
  else .ok (nearestFloat n)

namespace Number

/-- The whole number that a number is; a truth value is zero or one. -/
def whole? : Number → Option Int
  | .truth b => some b.toInt
  | .whole n => some n
  | .real _ => none

/-- The float nearest to a number. -/
def toFloat : Number → Except Failure Float
  | .truth b => floatOf b.toInt
  | .whole n => floatOf n
  | .real x => .ok x

/-- The float nearest to a number, infinite for a whole number beyond all floats. -/
def nearest : Number → Float
  | .real x => x
  | n => nearestFloat (n.whole?.getD 0)

/-- The sum of two numbers. -/
def add (a b : Number) : Number :=
  match a.whole?, b.whole? with
  | some m, some n => .whole (m + n)
  | _, _ => .real (a.nearest + b.nearest)

/-- The product of two numbers. -/
def times (a b : Number) : Except Failure Number :=
  match a.whole?, b.whole? with
  | some m, some n => .ok (.whole (m * n))
  | _, _ => do return .real ((← a.toFloat) * (← b.toFloat))

/-- The float nearest to the quotient of two numbers. Whole numbers are not made floats before they
are divided. -/
def ratio (a b : Number) : Float :=
  match a.whole?, b.whole? with
  | some m, some n => (Binary.ofRatio ((m < 0) ^^ (n < 0)) m.natAbs n.natAbs).toFloat
  | _, _ => a.nearest / b.nearest

/-- The failure to divide by zero. -/
def divisionByZero : Failure :=
  .ofFault .dividedByZero "division by zero"

/-- The quotient of two numbers, if it can be formed. -/
def divided (a b : Number) : Except Failure Float := do
  match a.whole?, b.whole? with
  | some _, some n =>
    if n = 0 then throw divisionByZero
    if (a.ratio b).isInf then
      throw (.ofFault .outOfRange "integer division result too large for a float")
  | _, _ =>
    let _ ← a.toFloat
    if (← b.toFloat) == 0.0 then throw divisionByZero
  return a.ratio b

/-- The sum of a list of numbers, from the first to the last. -/
def total (numbers : List Number) : Number :=
  numbers.foldl add (.whole 0)

end Number

/-- Powers of ten below the negative of this one are nearest to zero. -/
def vanishingPower : Int := 400

/-- Ten to a whole power: a whole number, or the nearest float if the power is negative. -/
def tenToWhole : Int → Except Failure Number
  | .ofNat k => .ok (.whole (Nat.pow 10 k))
  | .negSucc k => do
    let _ ← floatOf (.negSucc k)
    if k ≥ vanishingPower then return .real 0.0
    else return .real (Binary.ofRatio false 1 (Nat.pow 10 (k + 1))).toFloat

/-- Ten to the power of a number. -/
def tenTo : Number → Except Failure Number
  | .truth b => tenToWhole b.toInt
  | .whole n => tenToWhole n
  | .real x =>
    let value := Float.pow 10.0 x
    if value.isInf && !x.isInf then .error (.ofFault .outOfRange "Numerical result out of range")
    else .ok (.real value)

/-- The number that a value stands for, if it is to take part in arithmetic. -/
def Value.asNumber (v : Value) : Except Failure Number :=
  match v.number? with
  | some n => .ok n
  | none => .error (.ofFault .wrongType ("unsupported operand type: " ++ v.typeName))

end ScriptAudit
