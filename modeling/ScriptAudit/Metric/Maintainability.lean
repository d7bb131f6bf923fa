import ScriptAudit.Decimal.Rounding

/-!
# Maintainability

An index between 0 and 100 for a whole project, from its average complexity and its size. It falls
with the logarithm of the volume, which is the number of lines times its own binary logarithm, and
linearly with the complexity.

* `Arithmetic` : the numbers the index is computed with. Only a positive number has logarithms.
* `maintainabilityIn?` : the index in any arithmetic, if all logarithms in it are defined.
* `maintainability?`, `maintainability` : the index in floating point.
* `maintainabilityOf` : the same for values that may be of the wrong kind or beyond all floats.
-/

namespace ScriptAudit

/-- Numbers to compute with: the four operations, an order, two logarithms, and rounding to two
decimal places. -/
structure Arithmetic (α : Type) where
  ofInt : Int → α
  sub : α → α → α
  mul : α → α → α
  div : α → α → α
  isBelow : α → α → Bool
  ln? : α → Option α
  log2? : α → Option α
  hundredths : α → α

namespace Arithmetic

variable {α : Type} (a : Arithmetic α)

/-- A number of tenths, hundredths and so on. -/
def ratio (numerator denominator : Int) : α :=
  a.div (a.ofInt numerator) (a.ofInt denominator)

/-- A number forced between zero and one hundred. What is not below one hundred counts as one
hundred. -/
def clamp (x : α) : α :=
  let most := if a.isBelow x (a.ofInt 100) then x else a.ofInt 100
  if a.isBelow (a.ofInt 0) most then most else a.ofInt 0

/-- The logarithm of the volume of a number of lines, which is given with its successor. -/
def size? (lines next : α) : Option α :=
  (a.log2? next).bind fun digits => a.ln? (a.mul lines digits)

/-- The index before it is forced into its range. -/
def rawIndex (complexity size : α) : α :=
  let effort := a.mul (a.ratio 23 100) complexity
  a.div (a.mul (a.sub (a.sub (a.ofInt 171) (a.mul (a.ratio 52 10) size)) effort) (a.ofInt 100))
    (a.ofInt 171)

/-- The index of a number of lines that is not zero. -/
def index? (complexity lines next : α) : Option α :=
  (a.size? lines next).map fun size => a.hundredths (a.clamp (a.rawIndex complexity size))

end Arithmetic

/-- The index in any arithmetic; a project without lines has index zero. -/
def maintainabilityIn? {α : Type} (a : Arithmetic α) (complexity : α) (lines : Int) : Option α :=
  if lines ≤ 0 then some (a.ofInt 0)
  else a.index? complexity (a.ofInt lines) (a.ofInt (lines + 1))

/-- Floating-point arithmetic. -/
def Arithmetic.floating : Arithmetic Float where
  ofInt := nearestFloat
  sub := (· - ·)
  mul := (· * ·)
  div := (· / ·)
  isBelow x y := x < y
  ln? x := if x ≤ 0.0 then none else some x.log
  log2? x := if x ≤ 0.0 then none else some x.log2
  hundredths := ScriptAudit.hundredths

/-- The index in floating point. The number of lines may have a fraction. -/
def maintainability? (complexity : Float) : Number → Option Float
  | .whole lines => maintainabilityIn? .floating complexity lines
  | lines =>
    if lines.isAtMost 0 then some 0.0
    else Arithmetic.floating.index? complexity lines.nearest (lines.add (.whole 1)).nearest

/-- The same index, zero if there is none. -/
def maintainability (complexity : Float) (lines : Number) : Float :=
  (maintainability? complexity lines).getD 0.0

/-- The index of values that may be of the wrong kind or beyond all floats. A project without lines
has index zero whatever its complexity, and one with so small a part of a line that its volume
vanishes has none. -/
def maintainabilityOf (complexity lines : Value) : Except Failure Float := do
  let lines ← lines.asNumber
  if lines.isAtMost 0 then return 0.0
  let count ← lines.toFloat
  if (Arithmetic.floating.size? count (lines.add (.whole 1)).nearest).isNone then
    throw (.ofFault .wrongValue "math domain error")
  return maintainability (← (← complexity.asNumber).toFloat) lines

end ScriptAudit
