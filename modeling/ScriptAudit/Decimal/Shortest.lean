import ScriptAudit.Decimal.Binary

/-!
# Shortest decimals

The fewest decimal digits that read back as a given floating-point value. All reals nearer to the
value than to its neighbours form an interval, closed when the mantissa is even. Among the decimals
with one digit, with two, and so on, the first length that has a member in the interval is taken,
and of two members the one nearer to the value.

* `Interval` : the value and the bounds of its interval over one denominator.
* `shortest` : digits `d` and exponent `k`, standing for `d * 10 ^ k`.
-/

namespace ScriptAudit

/-- A positive value with the interval of reals that round to it, all over one denominator. -/
structure Interval where
  value : Nat
  low : Nat
  high : Nat
  denominator : Nat
  closed : Bool

/-- The interval of `mantissa * 2 ^ exponent`. The neighbour below is nearer when the mantissa is
the least of its binade. -/
def Interval.around (mantissa : Nat) (exponent : Int) : Interval :=
  let below := if mantissa = Nat.pow 2 52 ∧ exponent > -1074 then 1 else 2
  let scale := Nat.pow 2 (exponent - 2).toNat
  { value := 4 * mantissa * scale
    low := (4 * mantissa - below) * scale
    high := (4 * mantissa + 2) * scale
    denominator := Nat.pow 2 (2 - exponent).toNat
    closed := mantissa % 2 == 0 }

/-- Whether `digits * 10 ^ power` lies in the interval. -/
def Interval.holds (i : Interval) (digits : Nat) (power : Int) : Bool :=
  let point := digits * Nat.pow 10 power.toNat * i.denominator
  let unit := Nat.pow 10 (-power).toNat
  if i.closed then i.low * unit ≤ point && point ≤ i.high * unit
  else i.low * unit < point && point < i.high * unit

/-- The number of decimal digits of a positive number. -/
def digitCount (n : Nat) : Nat :=
  (Nat.toDigits 10 n).length

/-- The power of ten of the value's first digit. -/
def Interval.magnitude (i : Interval) : Int :=
  if i.denominator ≤ i.value then (digitCount (i.value / i.denominator) : Int) - 1
  else
    let least := (i.denominator + i.value - 1) / i.value
    Int.negOfNat (digitCount (least - 1))

/-- The best decimal with the given power of ten for its last digit, if one lies in the interval. -/
def Interval.atPower? (i : Interval) (power : Int) : Option (Nat × Int) :=
  let numerator := i.value * Nat.pow 10 (-power).toNat
  let unit := i.denominator * Nat.pow 10 power.toNat
  let digits := numerator / unit
  let remainder := numerator % unit
  match i.holds digits power, i.holds (digits + 1) power with
  | true, true =>
    if 2 * remainder < unit ∨ (2 * remainder = unit ∧ digits % 2 = 0) then some (digits, power)
    else some (digits + 1, power)
  | true, false => some (digits, power)
  | false, true => some (digits + 1, power)
  | false, false => none

/-- Digits without trailing zeros, for at most `fuel` of them. -/
def dropZeros : Nat → Nat → Int → Nat × Int
  | 0, digits, power => (digits, power)
  | fuel + 1, digits, power =>
    if digits % 10 = 0 ∧ digits ≠ 0 then dropZeros fuel (digits / 10) (power + 1)
    else (digits, power)

/-- The shortest decimal that reads back as `mantissa * 2 ^ exponent`, for a positive mantissa:
seventeen digits always suffice. -/
def shortest (mantissa : Nat) (exponent : Int) : Nat × Int :=
  let interval := Interval.around mantissa exponent
  let magnitude := interval.magnitude
  let found := (List.range 17).findSome? fun n : Nat => interval.atPower? (magnitude - (n : Int))
  match found with
  | some (digits, power) => dropZeros 18 digits power
  | none => (0, 0)

end ScriptAudit
