import Mathlib.Algebra.Order.Floor.Ring
import Mathlib.Data.Int.ConditionallyCompleteOrder
import Mathlib.Order.Monotone.Defs
import Mathlib.Tactic.Linarith
import Mathlib.Tactic.Positivity
import Mathlib.Tactic.Ring

/-!
# Waypad.Lib.Round — rounding to the nearest whole number, and marks on a scale

`away x` is the whole number nearest to `x`; one half goes away from 0.  `mark n t` is the mark, of `0` to
`n`, nearest to the part `t` of the whole; what lies outside goes to the ends.

* `away_mono`, `away_intCast`; `away_lt`: a whole step is never lost.
* `mark_mem`, `mark_mono`; `mark_strictMonoOn`: whole places keep their order if there are marks enough.
-/

namespace Round

variable {α : Type*} [Field α] [LinearOrder α] [FloorRing α]

/-- The nearest whole number; halves go away from 0. -/
def away (x : α) : ℤ := if 0 ≤ x then ⌊x + 1 / 2⌋ else -⌊-x + 1 / 2⌋

theorem away_of_nonneg {x : α} (hx : 0 ≤ x) : away x = ⌊x + 1 / 2⌋ := if_pos hx

theorem away_of_neg {x : α} (hx : x < 0) : away x = -⌊-x + 1 / 2⌋ := if_neg (not_le.mpr hx)

/-- The mark nearest to the part `t` of the whole, with `n` marks past the first. -/
def mark (n : ℤ) (t : α) : ℤ := away (max 0 (min t 1) * n)

theorem mark_of_mem {n : ℤ} {t : α} (ht : t ∈ Set.Icc (0 : α) 1) : mark n t = away (t * n) := by
  rw [mark, min_eq_left ht.2, max_eq_right ht.1]

variable [IsStrictOrderedRing α]

theorem away_nonneg {x : α} (hx : 0 ≤ x) : 0 ≤ away x := by
  rw [away_of_nonneg hx]
  apply Int.floor_nonneg.mpr
  positivity

theorem away_nonpos {x : α} (hx : x < 0) : away x ≤ 0 := by
  have hfloor : 0 ≤ ⌊-x + 1 / 2⌋ := Int.floor_nonneg.mpr (by linarith)
  rw [away_of_neg hx]
  omega

@[simp] theorem away_intCast (n : ℤ) : away (n : α) = n := by
  have hhalf : ⌊(1 / 2 : α)⌋ = 0 := by
    rw [Int.floor_eq_zero_iff]
    constructor <;> linarith
  rcases le_or_gt 0 (n : α) with hn | hn
  · rw [away_of_nonneg hn, Int.floor_intCast_add, hhalf, add_zero]
  · rw [away_of_neg hn, ← Int.cast_neg, Int.floor_intCast_add, hhalf, add_zero, neg_neg]

theorem away_mono : Monotone (away : α → ℤ) := by
  intro x y hxy
  rcases le_or_gt 0 x with hx | hx
  · rw [away_of_nonneg hx, away_of_nonneg (hx.trans hxy)]
    exact Int.floor_le_floor (by linarith)
  · rcases le_or_gt 0 y with hy | hy
    · exact (away_nonpos hx).trans (away_nonneg hy)
    · have hfloor : ⌊-y + 1 / 2⌋ ≤ ⌊-x + 1 / 2⌋ := Int.floor_le_floor (by linarith)
      rw [away_of_neg hx, away_of_neg hy]
      omega

/-- Rounding does not pass a whole number. -/
theorem away_le {x : α} {n : ℤ} (h : x ≤ n) : away x ≤ n :=
  (away_mono h).trans (away_intCast n).le

/-- Two numbers a whole step apart are not rounded to the same. -/
theorem away_lt {x y : α} (h : x + 1 ≤ y) : away x < away y := by
  rcases le_or_gt 0 x with hx | hx
  · have hstep : ⌊x + 1 / 2⌋ + 1 ≤ ⌊y + 1 / 2⌋ := by
      rw [← Int.floor_add_one]
      exact Int.floor_le_floor (by linarith)
    rw [away_of_nonneg hx, away_of_nonneg (by linarith)]
    omega
  · rcases le_or_gt 0 y with hy | hy
    · rcases le_or_gt x (-(1 / 2)) with hhalf | hhalf
      · have hone : 1 ≤ ⌊-x + 1 / 2⌋ := Int.le_floor.mpr (by push_cast; linarith)
        have hnonneg := away_nonneg hy
        rw [away_of_neg hx]
        omega
      · -- `x` is rounded to 0, and `y` is past one half
        have hone : 1 ≤ ⌊y + 1 / 2⌋ := Int.le_floor.mpr (by push_cast; linarith)
        have hnonpos := away_nonpos hx
        rw [away_of_nonneg hy]
        omega
    · have hstep : ⌊-y + 1 / 2⌋ + 1 ≤ ⌊-x + 1 / 2⌋ := by
        rw [← Int.floor_add_one]
        exact Int.floor_le_floor (by linarith)
      rw [away_of_neg hx, away_of_neg hy]
      omega

/-! ## Marks -/

theorem mark_mono {n : ℤ} (hn : 0 ≤ n) : Monotone (mark n : α → ℤ) := by
  intro s t hst
  have hn' : (0 : α) ≤ n := Int.cast_nonneg hn
  apply away_mono
  exact mul_le_mul_of_nonneg_right (max_le_max_left 0 (min_le_min_right 1 hst)) hn'

theorem mark_mem {n : ℤ} (hn : 0 ≤ n) (t : α) : mark n t ∈ Set.Icc 0 n := by
  have hn' : (0 : α) ≤ n := Int.cast_nonneg hn
  have hhigh : max 0 (min t 1) ≤ 1 := max_le zero_le_one (min_le_right _ _)
  refine ⟨away_nonneg (mul_nonneg (le_max_left _ _) hn'), ?_⟩
  apply away_le
  exact mul_le_of_le_one_left hn' hhigh

/-- Whole places on a length `w` keep their order, when there is a step for each of them. -/
theorem mark_strictMonoOn {n w : ℤ} (hle : w ≤ n) :
    StrictMonoOn (fun i : ℤ => mark n ((i : α) / w)) (Set.Icc 0 w) := by
  intro i hi j hj hij
  have hw : 0 < w := by
    have hj' := hj.2
    have hi' := hi.1
    omega
  have hw' : (0 : α) < w := Int.cast_pos.mpr hw
  have hpart : ∀ k : ℤ, k ∈ Set.Icc 0 w → (k : α) / w ∈ Set.Icc (0 : α) 1 := fun k hk =>
    ⟨div_nonneg (Int.cast_nonneg hk.1) hw'.le, (div_le_one hw').mpr (Int.cast_le.mpr hk.2)⟩
  show mark n ((i : α) / w) < mark n ((j : α) / w)
  rw [mark_of_mem (hpart i hi), mark_of_mem (hpart j hj)]
  apply away_lt
  have hstep : (i : α) + 1 ≤ j := by exact_mod_cast hij
  have hratio : (1 : α) ≤ n / w := (one_le_div hw').mpr (Int.cast_le.mpr hle)
  calc (i : α) / w * n + 1 ≤ i * (n / w) + n / w := by
        rw [div_mul_eq_mul_div, mul_div_assoc]
        linarith
    _ = (i + 1) * (n / w) := by ring
    _ ≤ j * (n / w) := mul_le_mul_of_nonneg_right hstep (zero_le_one.trans hratio)
    _ = j / w * n := by rw [div_mul_eq_mul_div, mul_div_assoc]

end Round
