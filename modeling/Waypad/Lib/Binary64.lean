import Mathlib.Data.Int.Log
import Mathlib.Data.Rat.Floor
import Mathlib.Tactic.Linarith

/-!
# Waypad.Lib.Binary64 — the double nearest to a rational number

A finite double is a rational number.  What an operation comes to, and what a whole number is converted to, is
the double nearest to the exact value, and of two that are as near the one with the even significand.  Doubles
have a smallest distance, but no largest one here: nothing overflows.

* `nearestEven`: the nearest whole number; `spacing`: how far apart the doubles are; `round`.
* `round_le`, `le_round`: no whole number that is a double is passed.
-/

namespace Binary64

/-- The nearest whole number, the even one of two. -/
def nearestEven (x : ℚ) : ℤ :=
  if x - ⌊x⌋ < 1 / 2 ∨ x - ⌊x⌋ = 1 / 2 ∧ ⌊x⌋ % 2 = 0 then ⌊x⌋ else ⌊x⌋ + 1

/-- A power of two. -/
def pow2 (e : ℤ) : ℚ := if 0 ≤ e then (2 ^ e.toNat : ℕ) else 1 / (2 ^ (-e).toNat : ℕ)

/-- The doubles near the number are the multiples of this power of two. -/
def spacing (x : ℚ) : ℤ := max (Int.log 2 |x| - 52) (-1074)

/-- The nearest double. -/
def round (x : ℚ) : ℚ := nearestEven (x / pow2 (spacing x)) * pow2 (spacing x)

variable {x : ℚ} {n : ℤ}

theorem nearestEven_le (h : x ≤ n) : nearestEven x ≤ n := by
  have hfloor : ⌊x⌋ ≤ n := (Int.floor_mono h).trans (Int.floor_intCast n).le
  unfold nearestEven
  split
  · exact hfloor
  · -- at `n` itself nothing is left to round
    next hup =>
    have hne : ⌊x⌋ ≠ n := by
      intro heq
      apply hup
      left
      rw [heq]
      linarith
    omega

theorem le_nearestEven (h : n ≤ x) : n ≤ nearestEven x := by
  have hfloor : n ≤ ⌊x⌋ := Int.le_floor.mpr h
  unfold nearestEven
  split <;> omega

theorem pow2_pos (e : ℤ) : 0 < pow2 e := by
  unfold pow2
  split <;> positivity

theorem spacing_nonpos (h : |x| < 2 ^ 53) : spacing x ≤ 0 := by
  have hlog : Int.log 2 |x| < 53 := by
    rcases eq_or_ne x 0 with rfl | hx
    · rw [abs_zero, Int.log_zero_right]
      norm_num
    · rw [← Int.lt_zpow_iff_log_lt one_lt_two (abs_pos.mpr hx)]
      exact_mod_cast h
  unfold spacing
  omega

/-- Whole numbers are multiples of the spacing. -/
theorem exists_multiple (h : |x| < 2 ^ 53) (n : ℤ) : ∃ m : ℤ, (n : ℚ) = m * pow2 (spacing x) := by
  rcases (spacing_nonpos h).eq_or_lt with hzero | hneg
  · refine ⟨n, ?_⟩
    rw [hzero]
    exact (mul_one _).symm
  · refine ⟨n * 2 ^ (-spacing x).toNat, ?_⟩
    rw [pow2, if_neg (not_le.mpr hneg)]
    push_cast
    field_simp

theorem round_le (hsmall : |x| < 2 ^ 53) (h : x ≤ n) : round x ≤ n := by
  obtain ⟨m, hm⟩ := exists_multiple hsmall n
  have hpos : 0 < pow2 (spacing x) := pow2_pos _
  rw [hm] at h ⊢
  have hle : nearestEven (x / pow2 (spacing x)) ≤ m := nearestEven_le ((div_le_iff₀ hpos).mpr h)
  exact mul_le_mul_of_nonneg_right (by exact_mod_cast hle) hpos.le

theorem le_round (hsmall : |x| < 2 ^ 53) (h : n ≤ x) : n ≤ round x := by
  obtain ⟨m, hm⟩ := exists_multiple hsmall n
  have hpos : 0 < pow2 (spacing x) := pow2_pos _
  rw [hm] at h ⊢
  have hle : m ≤ nearestEven (x / pow2 (spacing x)) := le_nearestEven ((le_div_iff₀ hpos).mpr h)
  exact mul_le_mul_of_nonneg_right (by exact_mod_cast hle) hpos.le

/-- A whole number of at most 53 bits is a double. -/
@[simp] theorem round_intCast (h : |(n : ℚ)| < 2 ^ 53) : round n = n :=
  le_antisymm (round_le h le_rfl) (le_round h le_rfl)

@[simp] theorem round_zero : round 0 = 0 := by
  have h := round_intCast (n := 0) (by norm_num)
  rwa [Int.cast_zero] at h

/-- The double next to a half of 1 / 32767: its product with 32767 falls between two doubles. -/
example : round (35185445863425 / 2305843009213693952 * 32767) = 1 / 2 := by decide +kernel

end Binary64
