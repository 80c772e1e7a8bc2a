import Mathlib.Data.List.GetD
import Waypad.Screen.AnnexB

/-!
# Waypad.Screen.AnnexBScan — what `scan` finds

* `refsFrom`: the start codes of a byte list, found at every position, by recursion on the list.
* `scanLoop_eq`: the loop of `scan`, which skips a start code once found, finds the same.
* `refsFrom_append`: what more bytes add is found from four bytes before the old end on, so `scan` may
  resume there (`scan_spec`).
-/

namespace Waypad

namespace AnnexBStreamReader

/-! ## Every position -/

/-- The NAL unit whose start code stands at the head of the list; `prev`: the byte before is zero. -/
def refAt (prev : Bool) (off : ℕ) : List UInt8 → Option NalRef
  | a :: b :: c :: d :: e :: _ =>
    if a ≠ 0 ∨ b ≠ 0 ∨ c ≠ 1 then none
    else some { start := if prev then off - 1 else off, kind := d &&& 0x1f,
                firstSlice := e &&& 0x80 != 0 }
  | _ => none

/-- The NAL units of a byte list that starts at offset `off`. -/
def refsFrom (prev : Bool) (off : ℕ) : List UInt8 → List NalRef
  | [] => []
  | a :: rest => (refAt prev off (a :: rest)).toList ++ refsFrom (a == 0) (off + 1) rest

theorem refAt_short {prev : Bool} {off : ℕ} {l : List UInt8} (h : l.length < 5) :
    refAt prev off l = none := by
  match l with
  | [] | [_] | [_, _] | [_, _, _] | [_, _, _, _] => rfl
  | a :: b :: c :: d :: e :: rest =>
    simp only [List.length_cons] at h
    omega

/-- Fewer than five bytes hold no complete start code. -/
theorem refsFrom_short {prev : Bool} {off : ℕ} {l : List UInt8} (h : l.length < 5) :
    refsFrom prev off l = [] := by
  induction l generalizing prev off with
  | nil => rfl
  | cons a rest ih =>
    have hrest : rest.length < 5 := by
      simp only [List.length_cons] at h
      omega
    rw [refsFrom, refAt_short h, ih hrest]
    rfl

/-- A window of five bytes does not see what comes after it. -/
theorem refAt_append {prev : Bool} {off : ℕ} {l r : List UInt8} (h : 5 ≤ l.length) :
    refAt prev off (l ++ r) = refAt prev off l := by
  match l with
  | [] | [_] | [_, _] | [_, _, _] | [_, _, _, _] => simp at h
  | a :: b :: c :: d :: e :: rest => rfl

/-- Whether the byte before the position after `l` is zero. -/
def endsZero : Bool → List UInt8 → Bool
  | prev, [] => prev
  | _, a :: l => endsZero (a == 0) l

@[simp] theorem endsZero_concat (prev : Bool) (l : List UInt8) (a : UInt8) :
    endsZero prev (l ++ [a]) = (a == 0) := by
  induction l generalizing prev with
  | nil => rfl
  | cons b l ih => exact ih (b == 0)

/-- **Resuming**: what more bytes add is found from four bytes before the old end on. -/
theorem refsFrom_append {prev : Bool} {off : ℕ} (x y z : List UInt8) (hy : y.length = 4) :
    refsFrom prev off (x ++ y ++ z) =
      refsFrom prev off (x ++ y) ++ refsFrom (endsZero prev x) (off + x.length) (y ++ z) := by
  induction x generalizing prev off with
  | nil =>
    have hnone : refsFrom prev off y = [] := refsFrom_short (by omega)
    simp [hnone, endsZero]
  | cons a x ih =>
    have hlen : 5 ≤ (a :: (x ++ y)).length := by
      simp only [List.length_cons, List.length_append]
      omega
    have hat : refAt prev off (a :: (x ++ y ++ z)) = refAt prev off (a :: (x ++ y)) :=
      refAt_append (l := a :: (x ++ y)) (r := z) hlen
    have hoff : off + 1 + x.length = off + (a :: x).length := by
      simp only [List.length_cons]
      omega
    rw [List.cons_append, List.cons_append, refsFrom, hat, ih, refsFrom, List.append_assoc,
      endsZero, hoff]

/-! ## The loop -/

theorem byte_append (x l : List UInt8) (i : ℕ) : byte (x ++ l) (x.length + i) = byte l i := by
  unfold byte
  rw [List.getD_append_right _ _ _ _ (by omega), Nat.add_sub_cancel_left]

/-- The test `index > 0 && self.buffer[index - 1] == 0`. -/
theorem endsZero_byte (x l : List UInt8) :
    endsZero false x = decide (0 < x.length ∧ byte (x ++ l) (x.length - 1) = 0) := by
  rcases List.eq_nil_or_concat' x with rfl | ⟨x', a, rfl⟩
  · rfl
  · have hbyte : byte (x' ++ [a] ++ l) x'.length = a := by
      rw [List.append_assoc]
      exact byte_append x' ([a] ++ l) 0
    rw [endsZero_concat, List.length_append, List.length_singleton, Nat.add_sub_cancel, hbyte]
    simp only [Nat.zero_lt_succ, true_and]
    rfl

/-- The positions after a start code's first hold no start code. -/
theorem refsFrom_match {prev : Bool} {off : ℕ} (d e : UInt8) (rest : List UInt8) :
    refsFrom prev off (0 :: 0 :: 1 :: d :: e :: rest) =
      { start := if prev then off - 1 else off, kind := d &&& 0x1f,
        firstSlice := e &&& 0x80 != 0 } :: refsFrom false (off + 3) (d :: e :: rest) := by
  have h1 : refAt true (off + 1) (0 :: 1 :: d :: e :: rest) = none := by
    cases rest <;> simp [refAt]
  have h2 : refAt true (off + 1 + 1) (1 :: d :: e :: rest) = none := by
    match rest with
    | [] | [_] => rfl
    | _ :: _ :: _ => simp [refAt]
  have h0 : ((0 : UInt8) == 0) = true := by decide
  have h3 : ((1 : UInt8) == 0) = false := by decide
  rw [refsFrom, refsFrom, refsFrom, h0, h3, h1, h2]
  simp [refAt]

/-- **The loop** of `scan` finds the start codes of every position from `index` on. -/
theorem scanLoop_eq (fuel : ℕ) (x y : List UInt8) (hfuel : y.length ≤ fuel) :
    scanLoop (x ++ y) fuel x.length = refsFrom (endsZero false x) x.length y := by
  induction fuel generalizing x y with
  | zero =>
    have hy : y = [] := List.length_eq_zero_iff.mp (by omega)
    simp [hy, scanLoop, refsFrom]
  | succ fuel ih =>
    by_cases hlen : x.length + 5 ≤ (x ++ y).length
    · have hy : 5 ≤ y.length := by
        rw [List.length_append] at hlen
        omega
      match y with
      | [] | [_] | [_, _] | [_, _, _] | [_, _, _, _] => simp at hy
      | a :: b :: c :: d :: e :: rest =>
        have h0 : byte (x ++ a :: b :: c :: d :: e :: rest) x.length = a := byte_append x _ 0
        have h1 : byte (x ++ a :: b :: c :: d :: e :: rest) (x.length + 1) = b := byte_append x _ 1
        have h2 : byte (x ++ a :: b :: c :: d :: e :: rest) (x.length + 2) = c := byte_append x _ 2
        have h3 : byte (x ++ a :: b :: c :: d :: e :: rest) (x.length + 3) = d := byte_append x _ 3
        have h4 : byte (x ++ a :: b :: c :: d :: e :: rest) (x.length + 4) = e := byte_append x _ 4
        rw [scanLoop, if_pos hlen, h0, h1, h2, h3, h4]
        by_cases hm : a ≠ 0 ∨ b ≠ 0 ∨ c ≠ 1
        · -- no start code here: go on with the next byte
          have hnext := ih (x ++ [a]) (b :: c :: d :: e :: rest) (by simp at hfuel ⊢; omega)
          rw [List.append_assoc, List.length_append, endsZero_concat] at hnext
          rw [if_pos hm, refsFrom, refAt, if_pos hm]
          exact hnext
        · -- a start code: the loop skips its three bytes
          push Not at hm
          obtain ⟨rfl, rfl, rfl⟩ := hm
          have hnext := ih (x ++ [0, 0, 1]) (d :: e :: rest) (by simp at hfuel ⊢; omega)
          have hz : endsZero false (x ++ [0, 0, 1]) = false := by
            have := endsZero_concat false (x ++ [0, 0]) 1
            simpa using this
          rw [List.append_assoc, List.length_append, hz] at hnext
          rw [if_neg (by simp), refsFrom_match, endsZero_byte x (0 :: 0 :: 1 :: d :: e :: rest)]
          simp only [decide_eq_true_eq]
          exact congrArg _ hnext
    · have hlen' := hlen
      rw [List.length_append] at hlen'
      rw [scanLoop, if_neg hlen, refsFrom_short (by omega)]

/-- **`scan`**: after new bytes the NAL units are those of the whole buffer. -/
theorem scan_spec {self : AnnexBStreamReader} (chunk : List UInt8)
    (hn : self.nals = refsFrom false 0 self.buffer) (hs : self.scanFrom = self.buffer.length - 4) :
    { self with buffer := self.buffer ++ chunk }.scan =
      { buffer := self.buffer ++ chunk
        nals := refsFrom false 0 (self.buffer ++ chunk)
        scanFrom := (self.buffer ++ chunk).length - 4 } := by
  have hloop : refsFrom false 0 (self.buffer ++ chunk) = self.nals ++
      scanLoop (self.buffer ++ chunk) (self.buffer ++ chunk).length self.scanFrom := by
    rw [hn, hs]
    by_cases h4 : self.buffer.length < 4
    · have hloop := scanLoop_eq (self.buffer ++ chunk).length [] (self.buffer ++ chunk) (Nat.le_refl _)
      have hzero : self.buffer.length - 4 = 0 := by omega
      have hnone : refsFrom false 0 self.buffer = [] := refsFrom_short (by omega)
      rw [hnone, hzero]
      exact hloop.symm
    · obtain ⟨x, y, hxy, hx, hy⟩ : ∃ x y, self.buffer = x ++ y ∧ x.length = self.buffer.length - 4 ∧
          y.length = 4 := by
        refine ⟨self.buffer.take (self.buffer.length - 4), self.buffer.drop (self.buffer.length - 4),
          (List.take_append_drop _ _).symm, ?_, ?_⟩
        · simp
        · simp only [List.length_drop]
          omega
      rw [← hx, hxy, refsFrom_append x y chunk hy, Nat.zero_add, List.append_assoc]
      rw [scanLoop_eq _ x (y ++ chunk) (by simp)]
  unfold scan
  dsimp only
  rw [hloop]

end AnnexBStreamReader

end Waypad
