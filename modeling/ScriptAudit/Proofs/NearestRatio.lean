import Mathlib.Algebra.Order.Field.Power
import Mathlib.Tactic.FieldSimp
import Mathlib.Tactic.Linarith
import Mathlib.Tactic.Ring
import ScriptAudit.Decimal.Binary

/-!
# Ratios rounded to floating point

A ratio is written in units of a power of two that leave fifty-three bits before the point, and the
number of units is rounded to a whole one.

- `divideToEven_near`, `divideToEven_le`, `le_divideToEven`: a quotient is rounded by half at most,
  and not beyond a whole number.
- `ratio_lt_of_ratioExponent`, `le_ratio_of_ratioExponent`: the unit leaves fifty-three bits, or fewer
  if it is the least one.
- `IsDouble`, `Binary.IsNearest`: the values of floating point, and one that is as close as any.
- `Binary.IsNearest.le_value`, `Binary.IsNearest.value_le`: nothing is rounded beyond such a value.
- `Binary.ofRatio_eq`: a ratio is rounded to a finite value, if it has no more than fifty-two places.
- `Binary.isNearest_ofRatio`: **no value is closer to a ratio than the one it is rounded to**.
- `Binary.value_ofRatio_mem`, `Binary.half_le_value_ofRatio`: a proper fraction stays one, and one in
  the upper half stays there.
- `Binary.half_le_iff`: **rounding takes no fraction across one half**, unless its denominator has
  more than fifty-two bits.
-/

namespace ScriptAudit

variable {numerator denominator : Nat}

/-! ## Whole numbers -/

/-- A quotient is rounded up or down by half at most. -/
theorem divideToEven_near (numerator : Nat) (hpos : 0 < denominator) :
    2 * numerator ≤ 2 * (divideToEven numerator denominator * denominator) + denominator ∧
      2 * (divideToEven numerator denominator * denominator) ≤ 2 * numerator + denominator := by
  have hdivision := Nat.div_add_mod' numerator denominator
  have hrest := Nat.mod_lt numerator hpos
  unfold divideToEven
  dsimp only
  split
  case isTrue hup =>
    rw [Nat.add_mul, Nat.one_mul]
    omega
  case isFalse hdown => omega

/-- A quotient is not rounded beyond a whole number. -/
theorem divideToEven_le {bound : Nat} (hpos : 0 < denominator)
    (h : numerator ≤ bound * denominator) : divideToEven numerator denominator ≤ bound := by
  have hnear := (divideToEven_near numerator hpos).2
  by_contra hgt
  have hmul := Nat.mul_le_mul_right denominator (Nat.succ_le_of_lt (Nat.lt_of_not_le hgt))
  rw [Nat.succ_mul] at hmul
  omega

/-- The same in terms of fractions. -/
theorem abs_divideToEven_sub_le (numerator : Nat) (hpos : 0 < denominator) :
    |(divideToEven numerator denominator : ℚ) - numerator / denominator| ≤ 1 / 2 := by
  obtain ⟨hlow, hhigh⟩ := divideToEven_near numerator hpos
  have hpos' : (0 : ℚ) < denominator := Nat.cast_pos.2 hpos
  -- The bounds on the division are compared over the whole numbers, where they are bounds on
  -- products.
  have hlow' : (2 * numerator : ℚ)
      ≤ 2 * (divideToEven numerator denominator * denominator) + denominator :=
    mod_cast hlow
  have hhigh' : (2 * (divideToEven numerator denominator * denominator) : ℚ)
      ≤ 2 * numerator + denominator :=
    mod_cast hhigh
  have hquotient : (numerator : ℚ) / denominator * denominator = numerator :=
    div_mul_cancel₀ _ hpos'.ne'
  rw [abs_le]
  constructor
  · refine le_of_mul_le_mul_right ?_ hpos'
    rw [sub_mul, hquotient]
    linarith
  · refine le_of_mul_le_mul_right ?_ hpos'
    rw [sub_mul, hquotient]
    linarith

/-- No whole number is closer to a quotient than the one it is rounded to. -/
theorem abs_divideToEven_sub_le_abs (numerator : Nat) (hpos : 0 < denominator) (n : ℤ) :
    |(divideToEven numerator denominator : ℚ) - numerator / denominator|
      ≤ |n - (numerator / denominator : ℚ)| := by
  have hnear := abs_divideToEven_sub_le numerator hpos
  by_cases hsame : n = divideToEven numerator denominator
  · rw [hsame, Int.cast_natCast]
  -- Another whole number is off by one at least, and so by more than half from the quotient.
  have hapart : (1 : ℚ) ≤ |n - (divideToEven numerator denominator : ℚ)| := by
    have hone := Int.one_le_abs (sub_ne_zero.2 hsame)
    exact_mod_cast hone
  have htriangle := abs_sub_le (n : ℚ) (numerator / denominator) (divideToEven numerator denominator)
  rw [abs_sub_comm (numerator / denominator : ℚ)] at htriangle
  linarith

/-! ## Powers of two -/

/-- A power of two as a quotient of whole ones, of which one is one. -/
theorem two_zpow_eq (e : ℤ) : (2 : ℚ) ^ e = (2 : ℚ) ^ e.toNat / (2 : ℚ) ^ (-e).toNat := by
  rw [← zpow_natCast, ← zpow_natCast, ← zpow_sub₀ two_ne_zero]
  congr 1
  omega

/-- The number of units in a ratio. -/
theorem scaled_eq (numerator denominator : Nat) (e : ℤ) :
    ((numerator * Nat.pow 2 (-e).toNat : Nat) : ℚ) / (denominator * Nat.pow 2 e.toNat : Nat)
      = (numerator / denominator : ℚ) / (2 : ℚ) ^ e := by
  rw [two_zpow_eq]
  push_cast
  rw [div_div_eq_mul_div, div_mul_eq_mul_div, div_div]
  norm_num

namespace Binary

/-- A ratio in units of its last bit takes no more than fifty-three bits. -/
theorem ratio_lt_of_ratioExponent (numerator : Nat) (hpos : 0 < denominator) :
    (numerator / denominator : ℚ) < (2 : ℚ) ^ (ratioExponent numerator denominator + 53) := by
  have hpos' : (0 : ℚ) < denominator := Nat.cast_pos.2 hpos
  unfold ratioExponent
  dsimp only
  generalize hpoint : (numerator.log2 : ℤ) - denominator.log2 = point
  -- Both logarithms leave less than one bit open, so the point is too low by one at most.
  have hhigh : (numerator / denominator : ℚ) < (2 : ℚ) ^ (point + 1) := by
    have hnumerator : (numerator : ℚ) < 2 ^ (numerator.log2 + 1) := mod_cast Nat.lt_log2_self
    have hdenominator : (2 : ℚ) ^ denominator.log2 ≤ denominator :=
      mod_cast Nat.log2_self_le hpos.ne'
    have hpower : (2 : ℚ) ^ (numerator.log2 + 1) = 2 ^ (point + 1) * 2 ^ denominator.log2 := by
      rw [← zpow_natCast, ← zpow_natCast, ← zpow_add₀ two_ne_zero]
      congr 1
      omega
    rw [div_lt_iff₀ hpos']
    calc (numerator : ℚ) < 2 ^ (point + 1) * 2 ^ denominator.log2 := hpower ▸ hnumerator
      _ ≤ 2 ^ (point + 1) * denominator := by gcongr
  split
  case isTrue hzero =>
    rw [hzero, Nat.cast_zero, zero_div]
    positivity
  case isFalse hnonzero =>
    split
    case isTrue hbelow =>
      have hlow : (numerator / denominator : ℚ) < (2 : ℚ) ^ point := by
        have hscaled : (0 : ℚ) < (denominator * Nat.pow 2 point.toNat : Nat) :=
          Nat.cast_pos.2 (Nat.mul_pos hpos (Nat.two_pow_pos _))
        rw [← div_lt_one₀ (by positivity), ← scaled_eq, div_lt_one₀ hscaled]
        exact Nat.cast_lt.2 hbelow
      refine hlow.trans_le (zpow_le_zpow_right₀ one_le_two ?_)
      omega
    case isFalse habove =>
      refine hhigh.trans_le (zpow_le_zpow_right₀ one_le_two ?_)
      omega

/-- A ratio takes fifty-three bits in its units, unless they are the least ones. -/
theorem le_ratio_of_ratioExponent (numerator : Nat) (hpos : 0 < denominator)
    (h : -1074 < ratioExponent numerator denominator) :
    (2 : ℚ) ^ (ratioExponent numerator denominator + 52) ≤ numerator / denominator := by
  have hpos' : (0 : ℚ) < denominator := Nat.cast_pos.2 hpos
  unfold ratioExponent at h ⊢
  dsimp only at h ⊢
  generalize hpoint : (numerator.log2 : ℤ) - denominator.log2 = point at h ⊢
  -- Zero has the least units, which the hypothesis excludes.
  by_cases hzero : numerator = 0
  · rw [if_pos hzero] at h
    exact absurd h (lt_irrefl _)
  rw [if_neg hzero] at h ⊢
  split at h
  -- Too large a unit was guessed: the next one below is bounded by the bit lengths.
  case isTrue hbelow =>
    rw [if_pos hbelow, max_eq_left (by omega), le_div_iff₀ hpos']
    have hnumerator : (2 : ℚ) ^ numerator.log2 ≤ numerator := mod_cast Nat.log2_self_le hzero
    have hdenominator : (denominator : ℚ) ≤ 2 ^ (denominator.log2 + 1) :=
      mod_cast Nat.lt_log2_self.le
    calc (2 : ℚ) ^ (point - 53 + 52) * denominator
        ≤ 2 ^ (point - 53 + 52) * 2 ^ (denominator.log2 + 1) := by gcongr
      _ = 2 ^ numerator.log2 := by
        rw [← zpow_natCast, ← zpow_natCast, ← zpow_add₀ two_ne_zero]
        congr 1
        omega
      _ ≤ numerator := hnumerator
  -- The guess was right because the scaled ratio takes the last bit.
  case isFalse habove =>
    rw [if_neg habove, max_eq_left (by omega), sub_add_cancel, ← one_le_div₀ (by positivity),
      ← scaled_eq, one_le_div₀ (Nat.cast_pos.2 (Nat.mul_pos hpos (Nat.two_pow_pos _)))]
    exact Nat.cast_le.2 (Nat.le_of_not_lt habove)

/-! ## Values of floating point -/

/-- The value of a finite number. -/
def value : Binary → ℚ
  | finite negative mantissa exponent => signed negative mantissa * 2 ^ exponent
  | _ => 0

@[simp] theorem value_finite_false (mantissa : Nat) (exponent : ℤ) :
    (finite false mantissa exponent).value = mantissa * 2 ^ exponent := by
  simp [value, signed]

end Binary

/-- The values of floating point: they take fifty-three bits at most, from a least unit on. -/
def IsDouble (x : ℚ) : Prop :=
  ∃ mantissa exponent : ℤ, |mantissa| < 2 ^ 53 ∧ -1074 ≤ exponent ∧ exponent ≤ 971 ∧
    x = mantissa * 2 ^ exponent

theorem isDouble_zero : IsDouble 0 :=
  ⟨0, 0, by norm_num, by norm_num, by norm_num, by norm_num⟩

theorem isDouble_one : IsDouble 1 :=
  ⟨1, 0, by norm_num, by norm_num, by norm_num, by norm_num⟩

theorem isDouble_half : IsDouble (1 / 2) :=
  ⟨1, -1, by norm_num, by norm_num, by norm_num, by norm_num⟩

namespace Binary

/-- Whether something is a value of floating point, and none is closer to a number. -/
structure IsNearest (b : Binary) (x : ℚ) : Prop where
  isFinite : ∃ negative mantissa exponent, b = finite negative mantissa exponent
  isDouble : IsDouble b.value
  closest : ∀ y, IsDouble y → |b.value - x| ≤ |y - x|

/-- A number is not rounded below a value that is not above it, since that would be closer. -/
theorem IsNearest.le_value {b : Binary} {x y : ℚ} (h : b.IsNearest x) (hy : IsDouble y)
    (hle : y ≤ x) : y ≤ b.value := by
  have hclosest := h.closest y hy
  by_contra hbelow
  rw [abs_of_nonpos (by linarith), abs_of_nonpos (by linarith)] at hclosest
  linarith

theorem IsNearest.value_le {b : Binary} {x y : ℚ} (h : b.IsNearest x) (hy : IsDouble y)
    (hle : x ≤ y) : b.value ≤ y := by
  have hclosest := h.closest y hy
  by_contra habove
  rw [abs_of_nonneg (by linarith), abs_of_nonneg (by linarith)] at hclosest
  linarith

/-- How many units a ratio is rounded to. -/
def units (numerator denominator : Nat) : Nat :=
  divideToEven (numerator * Nat.pow 2 (-ratioExponent numerator denominator).toNat)
    (denominator * Nat.pow 2 (ratioExponent numerator denominator).toNat)

theorem scaled_pos (hpos : 0 < denominator) (exponent : ℤ) :
    0 < denominator * Nat.pow 2 exponent.toNat :=
  Nat.mul_pos hpos (Nat.two_pow_pos _)

/-- They fit into fifty-three bits, or else they are the next power of two. -/
theorem units_le (numerator : Nat) (hpos : 0 < denominator) :
    units numerator denominator ≤ 2 ^ 53 := by
  have hlt := ratio_lt_of_ratioExponent numerator hpos
  have hscaled := scaled_eq numerator denominator (ratioExponent numerator denominator)
  unfold units
  generalize ratioExponent numerator denominator = exponent at *
  refine divideToEven_le (scaled_pos hpos exponent) ?_
  have hquotient : (numerator / denominator : ℚ) / 2 ^ exponent ≤ 2 ^ 53 := by
    rw [div_le_iff₀ (by positivity)]
    refine hlt.le.trans_eq ?_
    rw [zpow_add₀ two_ne_zero, mul_comm]
    norm_num
  rw [← hscaled, div_le_iff₀ (Nat.cast_pos.2 (scaled_pos hpos exponent))] at hquotient
  exact_mod_cast hquotient

/-- The rounding error of a multiple of the unit is the one in units, times the unit. -/
theorem abs_mul_unit_sub (x y : ℚ) (exponent : ℤ) :
    |x * 2 ^ exponent - y| = |x - y / 2 ^ exponent| * 2 ^ exponent := by
  have hunit : (0 : ℚ) < 2 ^ exponent := by positivity
  rw [← abs_of_pos hunit, ← abs_mul, abs_of_pos hunit, sub_mul, div_mul_cancel₀ _ hunit.ne']

/-- A ratio is rounded by half a unit at most. -/
theorem abs_units_sub_le (numerator : Nat) (hpos : 0 < denominator) :
    |(units numerator denominator * 2 ^ ratioExponent numerator denominator
      - numerator / denominator : ℚ)| ≤ 2 ^ ratioExponent numerator denominator / 2 := by
  rw [abs_mul_unit_sub, ← scaled_eq]
  have hnear := abs_divideToEven_sub_le
    (numerator * Nat.pow 2 (-ratioExponent numerator denominator).toNat)
    (scaled_pos hpos (ratioExponent numerator denominator))
  have hunit : (0 : ℚ) ≤ 2 ^ ratioExponent numerator denominator := by positivity
  calc _ ≤ 1 / 2 * (2 : ℚ) ^ ratioExponent numerator denominator :=
        mul_le_mul_of_nonneg_right hnear hunit
    _ = 2 ^ ratioExponent numerator denominator / 2 := by ring

/-- No multiple of the unit is closer to a ratio than what it is rounded to. -/
theorem abs_units_sub_le_abs (numerator : Nat) (hpos : 0 < denominator) (n : ℤ) :
    |(units numerator denominator * 2 ^ ratioExponent numerator denominator
      - numerator / denominator : ℚ)|
        ≤ |n * 2 ^ ratioExponent numerator denominator - (numerator / denominator : ℚ)| := by
  rw [abs_mul_unit_sub, abs_mul_unit_sub, ← scaled_eq]
  exact mul_le_mul_of_nonneg_right
    (abs_divideToEven_sub_le_abs _ (scaled_pos hpos _) n) (by positivity)

/-- No value of floating point is closer to a ratio than what it is rounded to. -/
theorem abs_units_sub_le_of_isDouble (numerator : Nat) (hpos : 0 < denominator) {y : ℚ}
    (hy : IsDouble y) :
    |(units numerator denominator * 2 ^ ratioExponent numerator denominator
      - numerator / denominator : ℚ)| ≤ |y - numerator / denominator| := by
  obtain ⟨mantissa, exponent, hbits, hleast, -, rfl⟩ := hy
  generalize hunit : ratioExponent numerator denominator = unit
  by_cases hcoarse : unit ≤ exponent
  · -- The value is a whole number of units.
    obtain ⟨places, rfl⟩ := Int.le.dest hcoarse
    have hmultiple : (mantissa * 2 ^ (unit + places) : ℚ)
        = ((mantissa * 2 ^ places : ℤ) : ℚ) * 2 ^ unit := by
      rw [zpow_add₀ two_ne_zero, zpow_natCast]
      push_cast
      ring
    rw [hmultiple, ← hunit]
    exact abs_units_sub_le_abs numerator hpos _
  · -- The value has smaller units, so it is below the least ratio with these ones, which is a whole
    -- number of them.
    have hratio := le_ratio_of_ratioExponent numerator hpos (by omega)
    have hbelow : (mantissa * 2 ^ exponent : ℚ) ≤ 2 ^ (unit + 52) := by
      have hmantissa : (mantissa : ℚ) ≤ 2 ^ (53 : ℤ) := by
        have := (abs_lt.1 hbits).2.le
        exact_mod_cast this
      calc (mantissa * 2 ^ exponent : ℚ) ≤ 2 ^ (53 : ℤ) * 2 ^ exponent := by gcongr
        _ = 2 ^ (53 + exponent) := (zpow_add₀ two_ne_zero _ _).symm
        _ ≤ 2 ^ (unit + 52) := zpow_le_zpow_right₀ one_le_two (by omega)
    have hpower : ((2 ^ 52 : ℤ) : ℚ) * 2 ^ unit = 2 ^ (unit + 52) := by
      rw [zpow_add₀ two_ne_zero, mul_comm]
      norm_num
    have hunits := abs_units_sub_le_abs numerator hpos (2 ^ 52)
    rw [hunit] at hratio hunits
    rw [hpower] at hunits
    refine hunits.trans ?_
    rw [abs_of_nonpos (by linarith), abs_of_nonpos (by linarith)]
    linarith

/-! ## Ratios below a power of two -/

section Places

variable {places : Nat}

/-- The last bit of a ratio is fifty-two places below its first one, or further. -/
theorem ratioExponent_le (hle : numerator ≤ denominator * Nat.pow 2 places) :
    ratioExponent numerator denominator ≤ places - 52 := by
  unfold ratioExponent
  dsimp only
  split
  case isTrue hzero => omega
  case isFalse hnonzero =>
    have hlog : numerator.log2 < denominator.log2 + 1 + places := by
      rw [Nat.log2_lt hnonzero, Nat.pow_add]
      exact hle.trans_lt (Nat.mul_lt_mul_of_pos_right Nat.lt_log2_self (Nat.two_pow_pos places))
    split <;> omega

theorem le_ratioExponent (numerator denominator : Nat) :
    -1074 ≤ ratioExponent numerator denominator := by
  unfold ratioExponent
  dsimp only
  split <;> omega

variable (hpos : 0 < denominator) (hle : numerator ≤ denominator * Nat.pow 2 places)
include hpos hle

/-- A ratio without too many places is rounded to a finite value. -/
theorem ofRatio_eq (hplaces : places ≤ 52) :
    ofRatio false numerator denominator
      = finite false (units numerator denominator) (ratioExponent numerator denominator) := by
  have hwhole : (ratioExponent numerator denominator).toNat = 0 := by
    have hexponent := ratioExponent_le hle
    omega
  have hpower : ∀ places > 53, 2 ^ 53 < Nat.pow 2 places := fun places hgt =>
    Nat.pow_lt_pow_right one_lt_two hgt
  have hfinite : units numerator denominator < Nat.pow 2 1024 :=
    (units_le numerator hpos).trans_lt (hpower 1024 (by decide))
  unfold units at hfinite ⊢
  unfold ofRatio
  dsimp only
  rw [if_neg]
  rw [hwhole] at hfinite ⊢
  exact Nat.not_le_of_lt ((Nat.mul_one _).trans_lt hfinite)

/-- **No value is closer to a ratio than the one it is rounded to.** -/
theorem isNearest_ofRatio (hplaces : places ≤ 52) :
    (ofRatio false numerator denominator).IsNearest (numerator / denominator) := by
  rw [ofRatio_eq hpos hle hplaces]
  refine ⟨⟨_, _, _, rfl⟩, ?_, fun y hy => ?_⟩
  · rw [value_finite_false]
    have hexponent := ratioExponent_le hle
    have hleast := le_ratioExponent numerator denominator
    -- The units fit into fifty-three bits, or rounding has carried into one more.
    rcases (units_le numerator hpos).lt_or_eq with hbits | hbits
    · refine ⟨units numerator denominator, _, ?_, hleast, by omega, by simp⟩
      rw [Nat.abs_cast]
      exact_mod_cast hbits
    · -- Rounded up to a power of two, it takes a single bit.
      refine ⟨1, ratioExponent numerator denominator + 53, by norm_num, by omega, by omega, ?_⟩
      rw [hbits, zpow_add₀ two_ne_zero]
      norm_num [mul_comm]
  · rw [value_finite_false]
    exact abs_units_sub_le_of_isDouble numerator hpos hy

/-- A ratio is rounded by less than its last bit. -/
theorem abs_value_ofRatio_sub_le (hplaces : places ≤ 52) :
    |(ofRatio false numerator denominator).value - numerator / denominator| ≤ 2 ^ places / 2 ^ 53 := by
  rw [ofRatio_eq hpos hle hplaces, value_finite_false]
  refine (abs_units_sub_le numerator hpos).trans ?_
  have hunit : (2 : ℚ) ^ ratioExponent numerator denominator ≤ 2 ^ (places - 52 : ℤ) :=
    zpow_le_zpow_right₀ one_le_two (ratioExponent_le hle)
  rw [zpow_sub₀ two_ne_zero, zpow_natCast] at hunit
  norm_num at hunit ⊢
  linarith

end Places

/-! ## Proper fractions -/

variable (hpos : 0 < denominator) (hle : numerator ≤ denominator)
include hpos hle

/-- A proper fraction has no places before the point. -/
theorem isNearest_ofRatio_of_le :
    (ofRatio false numerator denominator).IsNearest (numerator / denominator) :=
  isNearest_ofRatio hpos (hle.trans_eq (Nat.mul_one _).symm) (Nat.zero_le 52)

/-- **A proper fraction stays one**: there is no rounding beyond zero and one. -/
theorem value_ofRatio_mem : (ofRatio false numerator denominator).value ∈ Set.Icc (0 : ℚ) 1 := by
  have hnearest := isNearest_ofRatio_of_le hpos hle
  exact ⟨hnearest.le_value isDouble_zero (div_nonneg (Nat.cast_nonneg _) (Nat.cast_nonneg _)),
    hnearest.value_le isDouble_one
      (div_le_one_of_le₀ (Nat.cast_le.2 hle) (Nat.cast_nonneg _))⟩

/-- A fraction in the upper half stays there, for the same reason. -/
theorem half_le_value_ofRatio (hhalf : denominator ≤ 2 * numerator) :
    1 / 2 ≤ (ofRatio false numerator denominator).value := by
  refine (isNearest_ofRatio_of_le hpos hle).le_value isDouble_half ?_
  have hhalf' : (denominator : ℚ) ≤ 2 * numerator := mod_cast hhalf
  rw [div_le_div_iff₀ two_pos (Nat.cast_pos.2 hpos)]
  linarith

/-- **Rounding takes no fraction across one half**: one below it keeps off by more than the rounding
error. -/
theorem half_le_iff (hsmall : denominator < 2 ^ 52) :
    1 / 2 ≤ (ofRatio false numerator denominator).value ↔ denominator ≤ 2 * numerator := by
  refine ⟨fun hupper => ?_, half_le_value_ofRatio hpos hle⟩
  have hnear := (abs_le.1 (abs_value_ofRatio_sub_le hpos (hle.trans_eq (Nat.mul_one _).symm)
    (Nat.zero_le 52))).2
  rw [pow_zero] at hnear
  have hpos' : (0 : ℚ) < denominator := Nat.cast_pos.2 hpos
  have hsmall' : (denominator : ℚ) < 2 ^ 52 := mod_cast hsmall
  have hratio : (1 / 2 - 1 / 2 ^ 53 : ℚ) ≤ numerator / denominator := by linarith
  rw [le_div_iff₀ hpos'] at hratio
  have hless : (denominator : ℚ) < 2 * numerator + 1 := by linarith
  have hless' : denominator < 2 * numerator + 1 := mod_cast hless
  omega

end Binary

end ScriptAudit
