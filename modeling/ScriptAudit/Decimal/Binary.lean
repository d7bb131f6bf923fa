/-!
# Binary floating point, taken apart

A floating-point number as a sign, a whole mantissa and a power of two, so that rounding and
printing can be done in whole-number arithmetic.

* `Binary` : the three kinds of floating-point value.
* `Binary.ofFloat` : the parts of a `Float`.
* `Binary.floor?`, `Binary.truncate?` : the whole number below a value, and the one toward zero.
* `divideToEven` : a quotient rounded to a whole number.
* `nearestBits` : a natural number rounded to fifty-three significant bits.
* `Binary.ofRatio`, `Binary.toFloat` : the value nearest to a ratio, and the float of a value.
* `Binary.plusHalf` : the value nearest to the sum with one half.
* `nearestFloat` : the float nearest to a whole number.
-/

namespace ScriptAudit

/-- A floating-point value: `finite s m e` stands for `m * 2 ^ e`, negated when `s` holds. -/
inductive Binary where
  | nan
  | infinite (negative : Bool)
  | finite (negative : Bool) (mantissa : Nat) (exponent : Int)
  deriving DecidableEq, Repr

namespace Binary

/-- The parts of a float. -/
def ofFloat (x : Float) : Binary :=
  let bits := x.toBits.toNat
  let negative := bits / Nat.pow 2 63 == 1
  let exponent : Nat := bits / Nat.pow 2 52 % Nat.pow 2 11
  let fraction : Nat := bits % Nat.pow 2 52
  if exponent = 2047 then
    if fraction = 0 then .infinite negative else .nan
  else if exponent = 0 then .finite negative fraction (-1074)
  else .finite negative (fraction + Nat.pow 2 52) ((exponent : Int) - 1075)

/-- A mantissa with its sign. -/
def signed (negative : Bool) (mantissa : Nat) : Int :=
  if negative then -(mantissa : Int) else mantissa

/-- The greatest whole number that is not above a finite value. -/
def floor? : Binary → Option Int
  | .finite negative mantissa exponent =>
    match exponent with
    | .ofNat e => some (signed negative mantissa * Nat.pow 2 e)
    | .negSucc e => some (Int.fdiv (signed negative mantissa) (Nat.pow 2 (e + 1)))
  | _ => none

/-- A finite value without its fraction. -/
def truncate? : Binary → Option Int
  | .finite negative mantissa exponent =>
    match exponent with
    | .ofNat e => some (signed negative mantissa * Nat.pow 2 e)
    | .negSucc e => some (Int.tdiv (signed negative mantissa) (Nat.pow 2 (e + 1)))
  | _ => none

end Binary

/-- The quotient of two natural numbers rounded to a whole number, a half going to the even
neighbour. -/
def divideToEven (numerator denominator : Nat) : Nat :=
  let quotient := numerator / denominator
  let remainder := numerator % denominator
  if 2 * remainder > denominator ∨ (2 * remainder = denominator ∧ quotient % 2 = 1)
  then quotient + 1 else quotient

/-- A natural number rounded to fifty-three significant bits, a half going to the even neighbour. -/
def nearestBits (n : Nat) : Nat :=
  let unit := Nat.pow 2 (n.log2 - 52)
  divideToEven n unit * unit

namespace Binary

/-- The exponent of the last bit of a ratio that is written with fifty-three bits, or with fewer if
there are no exponents that low. -/
def ratioExponent (numerator denominator : Nat) : Int :=
  let point : Int := numerator.log2 - denominator.log2
  let isBelow := numerator * Nat.pow 2 (-point).toNat < denominator * Nat.pow 2 point.toNat
  if numerator = 0 then -1074 else max (if isBelow then point - 53 else point - 52) (-1074)

/-- The value nearest to a ratio, a half going to the even mantissa. It is infinite if the ratio is
beyond all finite values. -/
def ofRatio (negative : Bool) (numerator denominator : Nat) : Binary :=
  let exponent := ratioExponent numerator denominator
  let mantissa :=
    divideToEven (numerator * Nat.pow 2 (-exponent).toNat) (denominator * Nat.pow 2 exponent.toNat)
  if Nat.pow 2 1024 ≤ mantissa * Nat.pow 2 exponent.toNat then .infinite negative
  else .finite negative mantissa exponent

/-- A value and one half, rounded again. -/
def plusHalf : Binary → Binary
  | finite negative mantissa exponent =>
    let unit := Nat.pow 2 (-exponent).toNat
    let doubled : Int := 2 * (signed negative mantissa * Nat.pow 2 exponent.toNat) + unit
    ofRatio (doubled < 0) doubled.natAbs (2 * unit)
  | b => b

/-- The sixty-four bits of a value. A mantissa has fifty-three bits, or fewer at the least exponent;
its leading bit is then added to the field of the exponent. -/
def bits : Binary → Nat
  | nan => 2047 * Nat.pow 2 52 + Nat.pow 2 51
  | infinite negative => negative.toNat * Nat.pow 2 63 + 2047 * Nat.pow 2 52
  | finite negative mantissa exponent =>
    negative.toNat * Nat.pow 2 63 + (exponent + 1074).toNat * Nat.pow 2 52 + mantissa

/-- The float of a value. -/
def toFloat (b : Binary) : Float :=
  .ofBits (UInt64.ofNat b.bits)

end Binary

/-- The float nearest to a whole number, infinite if the number is beyond all floats. -/
def nearestFloat (n : Int) : Float :=
  (Binary.ofRatio (n < 0) n.natAbs 1).toFloat

end ScriptAudit
