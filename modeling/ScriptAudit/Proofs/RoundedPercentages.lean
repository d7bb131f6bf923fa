import ScriptAudit.Proofs.NearestRatio
import ScriptAudit.Proofs.ProgressSteps

/-!
# Percentages in floating point

A percentage goes through two roundings before its fraction is cut off, and the progress of a job
through two more. The first two are too small to be seen, as long as there are not too many steps: a
share that is not a half away from a whole number keeps off by more than both errors.

- `Binary.value_plusHalf`, `Binary.floor?_finite`: adding one half and cutting off in terms of rationals.
- `floor_near`: a number whose errors are smaller than what a fraction keeps off has the floor of that.
- `percentOf_int`: **in floating point the percentage is the exact one**, up to 2 ^ 43 steps.
- `jobProgressOf_percent`: and so is the progress of a job.
-/

namespace ScriptAudit

namespace Binary

/-! ## Adding one half and cutting off -/

theorem floor?_finite (mantissa : Nat) (exponent : ℤ) :
    (finite false mantissa exponent).floor? = some ⌊(finite false mantissa exponent).value⌋ := by
  rw [value_finite_false]
  cases exponent with
  | ofNat e =>
    -- A whole number of units is its own floor.
    have hwhole : (mantissa * 2 ^ (e : ℤ) : ℚ) = ((mantissa * 2 ^ e : ℤ) : ℚ) := by
      push_cast
      rw [zpow_natCast]
    show some _ = some ⌊(mantissa * 2 ^ (e : ℤ) : ℚ)⌋
    rw [hwhole, Int.floor_intCast]
    simp [signed]
  | negSucc e =>
    -- Otherwise the floor is that of a quotient of whole numbers.
    have hquotient : (mantissa * 2 ^ (Int.negSucc e) : ℚ)
        = ((mantissa : ℤ) : ℚ) / ((Nat.pow 2 (e + 1) : ℕ) : ℚ) := by
      rw [zpow_negSucc, ← div_eq_mul_inv]
      norm_num
    rw [hquotient, Rat.floor_intCast_div_natCast]
    show some (Int.fdiv _ _) = _
    rw [Int.fdiv_eq_ediv_of_nonneg _ (Int.natCast_nonneg _)]
    rfl

/-- The sum with one half is that of the values, rounded as a ratio. -/
theorem exists_plusHalf (mantissa : Nat) (exponent : ℤ) :
    ∃ numerator denominator : Nat, 0 < denominator ∧
      (finite false mantissa exponent).plusHalf = ofRatio false numerator denominator ∧
      (numerator / denominator : ℚ) = (finite false mantissa exponent).value + 1 / 2 := by
  have hunit := Nat.two_pow_pos (-exponent).toNat
  have hdoubled : (2 * (signed false mantissa * Nat.pow 2 exponent.toNat)
      + Nat.pow 2 (-exponent).toNat : ℤ)
        = (2 * (mantissa * Nat.pow 2 exponent.toNat) + Nat.pow 2 (-exponent).toNat : ℕ) := by
    simp [signed]
  refine ⟨2 * (mantissa * Nat.pow 2 exponent.toNat) + Nat.pow 2 (-exponent).toNat,
    2 * Nat.pow 2 (-exponent).toNat, Nat.mul_pos two_pos hunit, ?_, ?_⟩
  · rw [plusHalf, hdoubled, Int.natAbs_natCast, decide_eq_false (by omega)]
  · rw [value_finite_false, two_zpow_eq]
    push_cast
    norm_num
    field_simp

end Binary

/-! ## Whole numbers and halves -/

theorem isDouble_intCast {n : ℤ} (h : |n| < 2 ^ 53) : IsDouble n :=
  ⟨n, 0, h, by norm_num, by norm_num, by simp⟩

theorem isDouble_sub_half {n : ℤ} (h : |2 * n - 1| < 2 ^ 53) : IsDouble (n - 1 / 2) := by
  refine ⟨2 * n - 1, -1, h, by norm_num, by norm_num, ?_⟩
  push_cast
  ring

/-! ## Percentages -/

/-- A share that is not rounded up keeps off by half a step, as all of these are whole multiples of it. -/
theorem share_add_le {done total : Nat} {n : ℤ} (hpos : 0 < total)
    (h : (100 * done / total + 1 / 2 : ℚ) < n) :
    (100 * done / total + 1 / 2 + 1 / (2 * total) : ℚ) ≤ n := by
  have hpos' : (0 : ℚ) < total := Nat.cast_pos.2 hpos
  have hshare : (100 * done / total + 1 / 2 : ℚ) = (200 * done + total) / (2 * total) := by
    field_simp
    ring
  rw [hshare, div_lt_iff₀ (by positivity)] at h
  have hwhole : (200 * done + total : ℤ) < n * (2 * total) := by exact_mod_cast h
  rw [hshare, ← add_div, div_le_iff₀ (by positivity)]
  exact_mod_cast Int.add_one_le_of_lt hwhole

/-- What a share is rounded to, and then its sum with one half, has the percentage as its floor, if both
errors are small. -/
theorem floor_value_eq {done total : Nat} (hpos : 0 < total) (hle : done ≤ total)
    (hsmall : total ≤ 2 ^ 43) {quotient sum : Binary}
    (hquotient : quotient.IsNearest (100 * done / total))
    (hquotientError : |quotient.value - 100 * done / total| ≤ 2 ^ 7 / 2 ^ 53)
    (hsum : sum.IsNearest (quotient.value + 1 / 2))
    (hsumError : |sum.value - (quotient.value + 1 / 2)| ≤ 2 ^ 7 / 2 ^ 53) :
    ⌊sum.value⌋ = percentDone done total := by
  obtain ⟨hnonneg, hhundred⟩ : 0 ≤ percentDone done total ∧ percentDone done total ≤ 100 :=
    percentDone_mem_range (Int.natCast_nonneg done) (Int.ofNat_le.2 hle)
  -- The floor that the percentage is, as bounds on the exact share.
  have hround := percentDone_eq_round done hpos
  rw [round_eq] at hround
  rw [Int.cast_natCast] at hround
  have hlow := Int.floor_le (100 * done / total + 1 / 2 : ℚ)
  have hhigh := Int.lt_floor_add_one (100 * done / total + 1 / 2 : ℚ)
  rw [← hround] at hlow hhigh
  generalize percentDone done total = percent at *
  rw [Int.floor_eq_iff]
  constructor
  · -- Neither rounding goes below the percentage, or half a percent less.
    have hhalf : (percent - 1 / 2 : ℚ) ≤ quotient.value :=
      hquotient.le_value (isDouble_sub_half (abs_lt.2 ⟨by omega, by omega⟩)) (by linarith)
    exact hsum.le_value (isDouble_intCast (abs_lt.2 ⟨by omega, by omega⟩)) (by linarith)
  · -- Both errors together are less than what the share keeps off from the next percentage.
    have hroom : (100 * done / total + 1 / 2 + 1 / (2 * total) : ℚ) ≤ ((percent + 1 : ℤ) : ℚ) :=
      share_add_le hpos (by exact_mod_cast hhigh)
    have hstep : (1 / 2 ^ 44 : ℚ) ≤ 1 / (2 * total) := by
      have hsmall' : (total : ℚ) ≤ 2 ^ 43 := mod_cast hsmall
      have hpos' : (0 : ℚ) < total := Nat.cast_pos.2 hpos
      refine one_div_le_one_div_of_le (by positivity) ?_
      linarith
    have hquotientHigh := (abs_le.1 hquotientError).2
    have hsumHigh := (abs_le.1 hsumError).2
    rw [Int.cast_add, Int.cast_one] at hroom
    generalize (1 / (2 * total) : ℚ) = step at hroom hstep
    norm_num at hquotientHigh hsumHigh hstep
    linarith

/-- The percentage of whole numbers is not changed by rounding the quotient and the sum. -/
theorem percentRounded_eq {done total : Nat} (hpos : 0 < total) (hle : done ≤ total)
    (hsmall : total ≤ 2 ^ 43) : percentRounded done total = .ok (percentDone done total) := by
  have hpos' : (0 : ℚ) < total := Nat.cast_pos.2 hpos
  have hshare : (100 * done / total : ℚ) ≤ (100 : ℤ) := by
    have hle' : (done : ℚ) ≤ total := Nat.cast_le.2 hle
    rw [div_le_iff₀ hpos']
    push_cast
    linarith
  -- The quotient is a hundred at most, so it has seven places before the point, and so has the sum.
  have hplaces : 100 * done ≤ total * Nat.pow 2 7 := by
    show 100 * done ≤ total * 128
    omega
  have hquotient := Binary.isNearest_ofRatio hpos hplaces (by decide)
  have hquotientError := Binary.abs_value_ofRatio_sub_le hpos hplaces (by decide)
  have hfinite := Binary.ofRatio_eq hpos hplaces (by decide)
  rw [hfinite] at hquotient hquotientError
  push_cast at hquotient hquotientError
  obtain ⟨numerator, denominator, hdenominator, hplus, hsum⟩ :=
    Binary.exists_plusHalf (Binary.units (100 * done) total) 
      (Binary.ratioExponent (100 * done) total)
  have hsumPlaces : numerator ≤ denominator * Nat.pow 2 7 := by
    have hhundred := hquotient.value_le (isDouble_intCast (by norm_num)) hshare
    rw [Int.cast_ofNat] at hhundred
    have hbelow : (numerator / denominator : ℚ) ≤ 128 := by linarith
    rw [div_le_iff₀ (Nat.cast_pos.2 hdenominator), mul_comm] at hbelow
    exact_mod_cast hbelow
  have hnearest := Binary.isNearest_ofRatio hdenominator hsumPlaces (by decide)
  have hsumError := Binary.abs_value_ofRatio_sub_le hdenominator hsumPlaces (by decide)
  have hfiniteSum := Binary.ofRatio_eq hdenominator hsumPlaces (by decide)
  rw [hsum] at hnearest hsumError
  have hfloor := floor_value_eq hpos hle hsmall hquotient hquotientError hnearest hsumError
  have hdone : ((100 * (done : ℤ)).natAbs) = 100 * done := by omega
  have hsign : decide ((done : ℤ) < 0) = false := decide_eq_false (by omega)
  unfold percentRounded
  rw [hdone, hsign, Int.natAbs_natCast, hfinite, hplus, hfiniteSum, Binary.floor?_finite,
    ← hfiniteSum, hfloor]

/-- **In floating point the percentage is the exact one**, unless there are very many steps. -/
theorem percentOf_int {done total : ℤ} (hlow : 0 ≤ done) (hle : done ≤ total) (hsmall : total ≤ 2 ^ 43) :
    percentOf (.int done) (.int total) = .ok (percentDone done total) := by
  have hdoneNumber : (Value.int done).asNumber = .ok (.whole done) := rfl
  have htotalNumber : (Value.int total).asNumber = .ok (.whole total) := rfl
  have hnone : Number.isAtMost (.whole total) 0 = decide (total ≤ 0) := rfl
  simp only [percentOf, hdoneNumber, htotalNumber, bind, Except.bind, hnone, decide_eq_true_eq]
  by_cases htotal : total ≤ 0
  · rw [if_pos htotal, percentDone, if_pos htotal]
    rfl
  · lift done to ℕ using hlow
    lift total to ℕ using by omega
    rw [if_neg htotal]
    exact percentRounded_eq (by omega) (by omega) (by exact_mod_cast hsmall)

/-! ## Jobs -/

/-- During an audit the progress of a job is the same in floating point, for a whole percentage and for
the float next to it. -/
theorem jobProgressOf_percent {percent : ℤ} (hlow : 0 ≤ percent) (hhigh : percent ≤ 100) :
    jobProgressOf (.int percent) = .ok (jobProgress percent) ∧
      jobProgressOf (.float (nearestFloat percent)) = .ok (jobProgress percent) := by
  have hall : ∀ percent : Fin 101,
      (jobProgressOf (.int percent.val)).toOption = some (jobProgress percent.val) ∧
      (jobProgressOf (.float (nearestFloat percent.val))).toOption = some (jobProgress percent.val) := by
    decide +kernel
  have hok {result : Except Failure ℤ} {n : ℤ} (h : result.toOption = some n) : result = .ok n := by
    cases result with
    | error failure => cases h
    | ok m => exact congrArg Except.ok (Option.some.inj h)
  lift percent to ℕ using hlow
  exact (hall ⟨percent, by omega⟩).imp hok hok

/-- **What is told of a job that runs is what floating point makes of it.** -/
theorem jobProgressOf_percentOf {done total : ℤ} (hlow : 0 ≤ done) (hle : done ≤ total)
    (hsmall : total ≤ 2 ^ 43) :
    (percentOf (.int done) (.int total) >>= fun percent => jobProgressOf (.int percent))
      = .ok (jobProgress (percentDone done total)) := by
  obtain ⟨hnonneg, hhundred⟩ := percentDone_mem_range hlow hle
  rw [percentOf_int hlow hle hsmall]
  exact (jobProgressOf_percent hnonneg hhundred).1

end ScriptAudit
