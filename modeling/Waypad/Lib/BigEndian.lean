import Mathlib.Data.List.Basic
import Mathlib.Tactic.Ring

/-!
# Waypad.Lib.BigEndian — numbers as big-endian bytes

`bytes w n` is the `w`-byte big-endian encoding of `n` (modulo `256 ^ w`), `value` reads one back.
-/

namespace BigEndian

/-- `to_be_bytes` of a `w`-byte integer. -/
def bytes : ℕ → ℕ → List UInt8
  | 0, _ => []
  | w + 1, n => bytes w (n / 256) ++ [UInt8.ofNat n]

/-- `from_be_bytes`. -/
def value (bs : List UInt8) : ℕ := bs.foldl (fun acc b => acc * 256 + b.toNat) 0

@[simp] theorem bytes_length (w n : ℕ) : (bytes w n).length = w := by
  induction w generalizing n with
  | zero => rfl
  | succ w ih => simp [bytes, ih]

theorem value_concat (bs : List UInt8) (b : UInt8) : value (bs ++ [b]) = value bs * 256 + b.toNat := by
  simp [value]

theorem value_bytes (w n : ℕ) : value (bytes w n) = n % 256 ^ w := by
  induction w generalizing n with
  | zero => simp [bytes, value, Nat.mod_one]
  | succ w ih =>
    have hb : (UInt8.ofNat n).toNat = n % 256 := by simp
    rw [bytes, value_concat, ih, hb, pow_succ, Nat.mul_comm (256 ^ w) 256, Nat.mod_mul]
    ring

/-- Different numbers below the bound have different encodings. -/
theorem bytes_inj {w m n : ℕ} (hm : m < 256 ^ w) (hn : n < 256 ^ w) (h : bytes w m = bytes w n) :
    m = n := by
  have hv := congrArg value h
  rwa [value_bytes, value_bytes, Nat.mod_eq_of_lt hm, Nat.mod_eq_of_lt hn] at hv

end BigEndian
