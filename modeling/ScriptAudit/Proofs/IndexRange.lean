import Mathlib.Algebra.Order.Floor.Ring
import Mathlib.Analysis.SpecialFunctions.Log.Base
import ScriptAudit.Metric.Maintainability

/-!
# The range of the maintainability index

The index goes through two logarithms, a cut at both ends and a rounding. In exact arithmetic none
of it takes the index out of its range or turns its order around.

- `Arithmetic.exact`: exact arithmetic in an ordered field, with given logarithms. A number that is
  not positive has none.
- `AreLogarithms`: what is needed of the two logarithms. `areLogarithms_real` says that those of the
  real numbers have it.
- `Arithmetic.clamp_exact`, `Arithmetic.hundredths_mono`, `Arithmetic.rawIndex_le`: each step of the
  index keeps or reverses the order.
- `exactSize`: the logarithm of the volume of some lines. With one line or more it is defined, and it
  grows with them (`exactSize_mono`).
- `AreLogarithms.maintainabilityIn?_eq`: the index is `exactIndex`. It is the computation that
  `maintainability?` does in floating point, with other numbers.
- `maintainabilityIn?_range`: **the index is always defined and between zero and one hundred, and
  neither more complexity nor more lines ever raise it.**
-/

namespace ScriptAudit

section Exact

variable {α : Type} [Field α] [LinearOrder α] [FloorRing α] {ln log2 : α → α} {lines more : ℤ}

/-- Exact arithmetic, with given logarithms of the positive numbers. -/
def Arithmetic.exact (ln log2 : α → α) : Arithmetic α where
  ofInt n := n
  sub x y := x - y
  mul x y := x * y
  div x y := x / y
  isBelow x y := x < y
  ln? x := if 0 < x then some (ln x) else none
  log2? x := if 0 < x then some (log2 x) else none
  hundredths x := ⌊x * 100 + 1 / 2⌋ / 100

/-- What is needed of the two logarithms: they do not decrease, and the binary one of two is one. -/
structure AreLogarithms (ln log2 : α → α) : Prop where
  ln_mono : MonotoneOn ln (Set.Ioi 0)
  log2_mono : MonotoneOn log2 (Set.Ioi 0)
  log2_two : log2 2 = 1

/-! ## Steps of the index -/

namespace Arithmetic

theorem clamp_exact (x : α) : (exact ln log2).clamp x = max 0 (min x 100) := by
  have hzero : (exact ln log2).ofInt 0 = 0 := Int.cast_zero
  have hhundred : (exact ln log2).ofInt 100 = 100 := Int.cast_ofNat 100
  have hmin : (if x < 100 then x else 100) = min x 100 := by
    rw [min_def_lt]
  have hmax : (if 0 < min x 100 then min x 100 else 0) = max 0 (min x 100) := by
    rw [max_def_lt]
  rw [clamp, hzero, hhundred, ← hmax, ← hmin]
  simp [exact]

theorem clamp_mono {x y : α} (h : x ≤ y) :
    (exact ln log2).clamp x ≤ (exact ln log2).clamp y := by
  rw [clamp_exact, clamp_exact]
  exact max_le_max le_rfl (min_le_min h le_rfl)

variable [IsStrictOrderedRing α]

theorem clamp_mem (ln log2 : α → α) (x : α) : 0 ≤ (exact ln log2).clamp x ∧ (exact ln log2).clamp x ≤ 100 := by
  rw [clamp_exact]
  exact ⟨le_max_left _ _, max_le (by norm_num) (min_le_right _ _)⟩

/-- Rounding to two places keeps the order. -/
theorem hundredths_mono {x y : α} (h : x ≤ y) :
    (exact ln log2).hundredths x ≤ (exact ln log2).hundredths y := by
  show (⌊x * 100 + 1 / 2⌋ : α) / 100 ≤ ⌊y * 100 + 1 / 2⌋ / 100
  have hfloor : ⌊x * 100 + 1 / 2⌋ ≤ ⌊y * 100 + 1 / 2⌋ := Int.floor_mono (by gcongr)
  gcongr

/-- A whole number is not changed by rounding. -/
theorem hundredths_intCast (ln log2 : α → α) (n : ℤ) : (exact ln log2).hundredths (n : α) = n := by
  show (⌊(n : α) * 100 + 1 / 2⌋ : α) / 100 = n
  have hfloor : ⌊(n : α) * 100 + 1 / 2⌋ = n * 100 := by
    rw [Int.floor_eq_iff]
    push_cast
    constructor
    · linarith
    · linarith
  rw [hfloor]
  push_cast
  exact mul_div_cancel_right₀ _ (by norm_num)

/-- The raw index falls with complexity and size. -/
theorem rawIndex_le (ln log2 : α → α) {complexity harder size larger : α} (hcomplexity : complexity ≤ harder)
    (hsize : size ≤ larger) :
    (exact ln log2).rawIndex harder larger ≤ (exact ln log2).rawIndex complexity size := by
  have hraw : ∀ complexity size : α, (exact ln log2).rawIndex complexity size
      = (171 - 52 / 10 * size - 23 / 100 * complexity) * 100 / 171 := by
    intro complexity size
    simp [rawIndex, ratio, exact]
  rw [hraw, hraw]
  gcongr

end Arithmetic

/-! ## Size and index -/

/-- The logarithm of the volume of some lines. -/
def exactSize (ln log2 : α → α) (lines : ℤ) : α :=
  ln (lines * log2 (lines + 1))

/-- The index with all logarithms taken for granted. -/
def exactIndex (ln log2 : α → α) (complexity : α) (lines : ℤ) : α :=
  if lines ≤ 0 then 0
  else (Arithmetic.exact ln log2).hundredths ((Arithmetic.exact ln log2).clamp
    ((Arithmetic.exact ln log2).rawIndex complexity (exactSize ln log2 lines)))

theorem exactIndex_of_pos (ln log2 : α → α) (complexity : α) (hlines : 1 ≤ lines) :
    exactIndex ln log2 complexity lines
      = (Arithmetic.exact ln log2).hundredths ((Arithmetic.exact ln log2).clamp
          ((Arithmetic.exact ln log2).rawIndex complexity (exactSize ln log2 lines))) :=
  if_neg (by omega)

variable [IsStrictOrderedRing α]

/-- There is at least one binary digit in a number above one. -/
theorem AreLogarithms.one_le_log2 (h : AreLogarithms ln log2) (hlines : 1 ≤ lines) :
    1 ≤ log2 (lines + 1 : α) := by
  have hlines' : (1 : α) ≤ lines := mod_cast hlines
  have htwo : (2 : α) ≤ lines + 1 := by linarith
  have hmono := h.log2_mono (two_pos : (0 : α) < 2) (lt_of_lt_of_le two_pos htwo) htwo
  rwa [h.log2_two] at hmono

theorem AreLogarithms.volume_pos (h : AreLogarithms ln log2) (hlines : 1 ≤ lines) :
    0 < (lines * log2 (lines + 1) : α) := by
  have hlines' : (0 : α) < lines := mod_cast hlines
  exact mul_pos hlines' (one_pos.trans_le (h.one_le_log2 hlines))

/-- With one line or more no logarithm is taken of a number that has none. -/
theorem AreLogarithms.size?_eq (h : AreLogarithms ln log2) (hlines : 1 ≤ lines) :
    (Arithmetic.exact ln log2).size? (lines : α) ((lines + 1 : ℤ) : α)
      = some (exactSize ln log2 lines) := by
  have hnext : (0 : α) < lines + 1 := by
    have hlines' : (1 : α) ≤ lines := mod_cast hlines
    linarith
  have hvolume := h.volume_pos hlines
  push_cast
  simp [Arithmetic.size?, Arithmetic.exact, hnext, hvolume, exactSize]

/-- The size grows with the lines. -/
theorem AreLogarithms.exactSize_mono (h : AreLogarithms ln log2) (hlines : 1 ≤ lines)
    (hmore : lines ≤ more) : exactSize ln log2 lines ≤ exactSize ln log2 more := by
  have hlines' : (1 : α) ≤ lines := mod_cast hlines
  have hmore' : (lines : α) ≤ more := mod_cast hmore
  have hdigits : log2 (lines + 1 : α) ≤ log2 (more + 1 : α) := by
    refine h.log2_mono ?_ ?_ (by linarith)
    · show (0 : α) < lines + 1
      linarith
    · show (0 : α) < more + 1
      linarith
  have hvolume : (lines * log2 (lines + 1) : α) ≤ more * log2 (more + 1) :=
    mul_le_mul hmore' hdigits (zero_le_one.trans (h.one_le_log2 hlines)) (by linarith)
  exact h.ln_mono (h.volume_pos hlines) (h.volume_pos (hlines.trans hmore)) hvolume

/-! ## The index of any project -/

theorem AreLogarithms.maintainabilityIn?_eq (h : AreLogarithms ln log2) (complexity : α)
    (lines : ℤ) :
    maintainabilityIn? (.exact ln log2) complexity lines
      = some (exactIndex ln log2 complexity lines) := by
  unfold maintainabilityIn? exactIndex
  by_cases hnone : lines ≤ 0
  · rw [if_pos hnone, if_pos hnone]
    exact congrArg some Int.cast_zero
  · rw [if_neg hnone, if_neg hnone, Arithmetic.index?]
    show ((Arithmetic.exact ln log2).size? (lines : α) ((lines + 1 : ℤ) : α)).map _ = _
    rw [h.size?_eq (by omega)]
    rfl

/-- Rounding does not lead out of the range, since both of its ends are whole numbers. -/
theorem exactIndex_mem (ln log2 : α → α) (complexity : α) (lines : ℤ) :
    0 ≤ exactIndex ln log2 complexity lines ∧ exactIndex ln log2 complexity lines ≤ 100 := by
  unfold exactIndex
  by_cases hnone : lines ≤ 0
  · rw [if_pos hnone]
    exact ⟨le_rfl, by norm_num⟩
  · rw [if_neg hnone]
    -- The bounds of the cut index are whole numbers, which rounding leaves alone.
    generalize (Arithmetic.exact ln log2).rawIndex complexity (exactSize ln log2 lines) = raw
    obtain ⟨hlow, hhigh⟩ := Arithmetic.clamp_mem ln log2 raw
    have hzero := Arithmetic.hundredths_intCast ln log2 0
    have hhundred := Arithmetic.hundredths_intCast ln log2 100
    rw [Int.cast_zero] at hzero
    rw [Int.cast_ofNat] at hhundred
    constructor
    · calc (0 : α) = (Arithmetic.exact ln log2).hundredths 0 := hzero.symm
        _ ≤ _ := Arithmetic.hundredths_mono hlow
    · calc _ ≤ (Arithmetic.exact ln log2).hundredths 100 := Arithmetic.hundredths_mono hhigh
        _ = 100 := hhundred

/-- Neither more complexity nor a larger size raises the index. -/
theorem AreLogarithms.exactIndex_le (h : AreLogarithms ln log2) {complexity harder : α}
    (hcomplexity : complexity ≤ harder) (hlines : 1 ≤ lines) (hmore : lines ≤ more) :
    exactIndex ln log2 harder more ≤ exactIndex ln log2 complexity lines := by
  rw [exactIndex_of_pos _ _ _ hlines, exactIndex_of_pos _ _ _ (hlines.trans hmore)]
  have hraw := Arithmetic.rawIndex_le ln log2 hcomplexity
    (h.exactSize_mono hlines hmore)
  exact Arithmetic.hundredths_mono (Arithmetic.clamp_mono hraw)

/-- **The index stays in its range and only ever falls.** For every complexity and every number of
lines no logarithm is taken of a number that has none, and the index is between zero and one hundred.
In a project with lines it does not rise with the complexity, and it does not rise with the lines. -/
theorem maintainabilityIn?_range (h : AreLogarithms ln log2) :
    ∃ index : α → ℤ → α,
      (∀ complexity lines,
        maintainabilityIn? (.exact ln log2) complexity lines = some (index complexity lines)) ∧
      (∀ complexity lines, 0 ≤ index complexity lines ∧ index complexity lines ≤ 100) ∧
      (∀ lines, 1 ≤ lines → Antitone fun complexity => index complexity lines) ∧
      (∀ complexity, AntitoneOn (index complexity) (Set.Ici 1)) := by
  refine ⟨exactIndex ln log2, h.maintainabilityIn?_eq, exactIndex_mem ln log2, ?_, ?_⟩
  · intro lines hlines complexity harder hcomplexity
    exact h.exactIndex_le hcomplexity hlines le_rfl
  · intro complexity lines hlines more _ hmore
    exact h.exactIndex_le le_rfl hlines hmore

end Exact

/-- The logarithms of the real numbers. -/
theorem areLogarithms_real : AreLogarithms Real.log (Real.logb 2) where
  ln_mono := Real.strictMonoOn_log.monotoneOn
  log2_mono := (Real.strictMonoOn_logb one_lt_two).monotoneOn
  log2_two := Real.logb_self_eq_one one_lt_two

/-- With real logarithms, a hundred lines of complexity three have an index that is no higher than
that of ten lines of the same complexity, and that of a hundred lines of complexity two. -/
theorem maintainabilityIn?_range_real :
    AreLogarithms Real.log (Real.logb 2) ∧
      ∃ lower shorter simpler : ℝ,
        maintainabilityIn? (.exact Real.log (Real.logb 2)) 3 100 = some lower ∧
        maintainabilityIn? (.exact Real.log (Real.logb 2)) 3 10 = some shorter ∧
        maintainabilityIn? (.exact Real.log (Real.logb 2)) 2 100 = some simpler ∧
        0 ≤ lower ∧ lower ≤ shorter ∧ shorter ≤ 100 ∧ lower ≤ simpler ∧ simpler ≤ 100 := by
  obtain ⟨index, hindex, hrange, hcomplexity, hlines⟩ := maintainabilityIn?_range areLogarithms_real
  refine ⟨areLogarithms_real, index 3 100, index 3 10, index 2 100, hindex 3 100, hindex 3 10,
    hindex 2 100, (hrange 3 100).1, ?_, (hrange 3 10).2, ?_, (hrange 2 100).2⟩
  · exact hlines 3 (by simp) (by simp) (by norm_num)
  · exact hcomplexity 100 (by norm_num) (by norm_num)

/-- A single line without decisions has the highest index. -/
example : maintainabilityIn? (.exact Real.log (Real.logb 2)) 0 1 = some (100 : ℝ) := by
  rw [areLogarithms_real.maintainabilityIn?_eq, exactIndex_of_pos _ _ _ le_rfl]
  have hsize : exactSize Real.log (Real.logb 2) 1 = 0 := by
    norm_num [exactSize, areLogarithms_real.log2_two]
  rw [hsize, Arithmetic.clamp_exact]
  have hraw : (Arithmetic.exact Real.log (Real.logb 2)).rawIndex 0 0 = 100 := by
    norm_num [Arithmetic.rawIndex, Arithmetic.exact, Arithmetic.ratio]
  rw [hraw]
  norm_num
  exact Arithmetic.hundredths_intCast Real.log (Real.logb 2) 100

end ScriptAudit
