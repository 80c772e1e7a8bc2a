import Waypad.Screen.AnnexBScan

/-!
# Waypad.Screen.AnnexBStream — well-formed H.264 byte streams

* `NalUnit`: a NAL unit with its start code; emulation prevention and the trailing bits are fields, so
  that a payload holds no start code.
* `visible`: what a reader that has seen the first `n` bytes knows of the NAL units.
* `refs_take`: that is exactly what the start codes of those `n` bytes say.
-/

namespace Waypad

structure NalUnit where
  /-- the start code has four bytes -/
  long : Bool
  payload : List UInt8
  two : 2 ≤ payload.length
  /-- emulation prevention: no start code inside, nor one with the zeros before it -/
  clean : ∀ x : UInt8, x = 0 ∨ x = 1 → ¬ [0, 0, x] <:+: payload
  /-- trailing bits: the last byte is not zero -/
  closed : payload.getLast? ≠ some 0

namespace NalUnit

def code (u : NalUnit) : List UInt8 := if u.long then [0, 0, 0, 1] else [0, 0, 1]

def bytes (u : NalUnit) : List UInt8 := u.code ++ u.payload

/-- `nal_unit_type`. -/
def kind (u : NalUnit) : UInt8 := u.payload.getD 0 0 &&& 0x1f

/-- The top bit of the second byte: `first_mb_in_slice` is zero. -/
def firstSlice (u : NalUnit) : Bool := u.payload.getD 1 0 &&& 0x80 != 0

def size (u : NalUnit) : ℕ := u.bytes.length

/-- The start code and the two bytes that classify the unit. -/
def head (u : NalUnit) : ℕ := u.code.length + 2

/-- What the reader keeps of the unit at offset `off`. -/
def ref (off : ℕ) (u : NalUnit) : NalRef := { start := off, kind := u.kind, firstSlice := u.firstSlice }

theorem head_le_size (u : NalUnit) : u.head ≤ u.size := by
  have := u.two
  simp only [head, size, bytes, List.length_append]
  omega

end NalUnit

/-- The bytes of some units, one after the other. -/
def unitBytes (us : List NalUnit) : List UInt8 := us.flatMap NalUnit.bytes

@[simp] theorem unitBytes_nil : unitBytes [] = [] := rfl

@[simp] theorem unitBytes_cons (u : NalUnit) (us : List NalUnit) :
    unitBytes (u :: us) = u.bytes ++ unitBytes us := rfl

@[simp] theorem unitBytes_append (us vs : List NalUnit) :
    unitBytes (us ++ vs) = unitBytes us ++ unitBytes vs := by
  simp [unitBytes]

/-! ## What is visible of a stream -/

/-- The units at offset `off` of which the classifying bytes are among the next `n` bytes. -/
def visible (off n : ℕ) : List NalUnit → List NalRef
  | [] => []
  | u :: us => if u.head ≤ n then u.ref off :: visible (off + u.size) (n - u.size) us else []

theorem visible_zero (off : ℕ) (us : List NalUnit) : visible off 0 us = [] := by
  cases us with
  | nil => rfl
  | cons u us => exact if_neg (by simp [NalUnit.head])

/-- All units at offset `off`. -/
def allRefs (off : ℕ) : List NalUnit → List NalRef
  | [] => []
  | u :: us => u.ref off :: allRefs (off + u.size) us

namespace AnnexBStreamReader

section Payload

variable {prev : Bool} {off : ℕ}

/-- A byte list without a start code inside, and nothing after it. -/
theorem refsFrom_open {q : List UInt8} (hq : ¬ [0, 0, 1] <:+: q) : refsFrom prev off q = [] := by
  induction q generalizing prev off with
  | nil => rfl
  | cons a q ih =>
    have hnone : refAt prev off (a :: q) = none := by
      match q with
      | [] | [_] | [_, _] | [_, _, _] => rfl
      | b :: c :: d :: e :: rest =>
        rw [refAt, if_pos]
        by_contra hm
        push Not at hm
        obtain ⟨rfl, rfl, rfl⟩ := hm
        exact hq ⟨[], d :: e :: rest, rfl⟩
    rw [refsFrom, hnone, ih (fun h => hq (h.trans (List.suffix_cons a q).isInfix))]
    rfl

/-- There is a reference at a start code only. -/
theorem refAt_ne_none {bytes : List UInt8} (h : refAt prev off bytes ≠ none) :
    ∃ rest, bytes = 0 :: 0 :: 1 :: rest := by
  rcases bytes with _ | ⟨b, _ | ⟨c, _ | ⟨d, _ | ⟨e, _ | ⟨f, rest⟩⟩⟩⟩⟩
  · exact absurd rfl h
  · exact absurd rfl h
  · exact absurd rfl h
  · exact absurd rfl h
  · simp [refAt] at h
  · rw [refAt] at h
    split at h
    · exact absurd rfl h
    · next hz =>
      push Not at hz
      obtain ⟨rfl, rfl, rfl⟩ := hz
      exact ⟨_, rfl⟩

/-- **A payload is skipped**: no start code begins in it, whatever comes after it. -/
theorem refsFrom_payload {q : List UInt8} (r : List UInt8)
    (hclean : ∀ x : UInt8, x = 0 ∨ x = 1 → ¬ [0, 0, x] <:+: q) (hclosed : q.getLast? ≠ some 0)
    (hq : q ≠ []) : refsFrom prev off (q ++ r) = refsFrom false (off + q.length) r := by
  induction q generalizing prev off with
  | nil => exact absurd rfl hq
  | cons a q ih =>
    have hnone : refAt prev off (a :: (q ++ r)) = none := by
      by_contra hsome
      obtain ⟨rest, hrest⟩ := refAt_ne_none hsome
      rw [List.cons.injEq] at hrest
      obtain ⟨rfl, hrest⟩ := hrest
      -- the zeros of the start code reach the end of the payload, or it is inside
      rcases q with _ | ⟨b, _ | ⟨c, q⟩⟩
      · exact hclosed rfl
      · simp only [List.cons_append, List.nil_append, List.cons.injEq] at hrest
        exact hclosed (by rw [hrest.1]; rfl)
      · simp only [List.cons_append, List.cons.injEq] at hrest
        obtain ⟨rfl, rfl, -⟩ := hrest
        exact hclean 1 (Or.inr rfl) ⟨[], q, rfl⟩
    rw [List.cons_append, refsFrom, hnone]
    by_cases hnil : q = []
    · subst hnil
      have ha : (a == 0) = false := by
        by_contra h
        simp only [Bool.not_eq_false, beq_iff_eq] at h
        exact hclosed (by rw [h]; rfl)
      rw [ha]
      rfl
    · have hlast : q.getLast? ≠ some 0 := by
        rwa [List.getLast?_cons_of_ne_nil hnil] at hclosed
      rw [ih (fun x hx h => hclean x hx (h.trans (List.suffix_cons a q).isInfix)) hlast hnil]
      have hoff : off + 1 + q.length = off + (a :: q).length := by
        simp only [List.length_cons]
        omega
      rw [hoff]
      rfl

end Payload

/-- The first two bytes of a payload. -/
theorem payload_cons (u : NalUnit) : ∃ d e rest, u.payload = d :: e :: rest ∧
    u.kind = d &&& 0x1f ∧ u.firstSlice = (e &&& 0x80 != 0) := by
  have htwo := u.two
  match h : u.payload with
  | [] | [_] => simp [h] at htwo
  | d :: e :: rest => exact ⟨d, e, rest, rfl, by simp [NalUnit.kind, h], by simp [NalUnit.firstSlice, h]⟩

/-- A start code followed by the two classifying bytes. -/
theorem refsFrom_code (u : NalUnit) (off : ℕ) {r : List UInt8} (hr : r.take 2 = u.payload.take 2) :
    refsFrom false off (u.code ++ r) = u.ref off :: refsFrom false (off + u.code.length) r := by
  obtain ⟨d, e, rest, hp, hk, hf⟩ := payload_cons u
  have hr' : r = d :: e :: r.drop 2 := by
    have h := List.take_append_drop 2 r
    rw [hr, hp] at h
    exact h.symm
  have href : u.ref off = { start := off, kind := d &&& 0x1f, firstSlice := e &&& 0x80 != 0 } := by
    rw [NalUnit.ref, hk, hf]
  rw [hr', href]
  unfold NalUnit.code
  cases u.long with
  | false => exact refsFrom_match d e _
  | true =>
    have hnone : refAt false off (0 :: 0 :: 0 :: 1 :: d :: e :: r.drop 2) = none := by simp [refAt]
    have hz : ((0 : UInt8) == 0) = true := by decide
    simp only [↓reduceIte, List.cons_append, List.nil_append]
    rw [refsFrom, hnone, hz, refsFrom_match]
    simp [Nat.add_assoc]

/-- A start code whose classifying bytes are not all there. -/
theorem refsFrom_cut (u : NalUnit) (off n : ℕ) (hn : n < u.head) :
    refsFrom false off (u.bytes.take n) = [] := by
  by_cases h5 : n < 5
  · exact refsFrom_short (by rw [List.length_take]; omega)
  · -- only the long start code and one byte of the payload
    obtain ⟨d, e, rest, hp, -, -⟩ := payload_cons u
    unfold NalUnit.head NalUnit.code at hn
    cases hl : u.long with
    | false =>
      simp only [hl, Bool.false_eq_true, ↓reduceIte, List.length_cons, List.length_nil] at hn
      omega
    | true =>
      simp only [hl, ↓reduceIte, List.length_cons, List.length_nil] at hn
      obtain rfl : n = 5 := by omega
      have htake : u.bytes.take 5 = [0, 0, 0, 1, d] := by
        simp [NalUnit.bytes, NalUnit.code, hl, hp]
      have hnone : refAt false off [0, 0, 0, 1, d] = none := by simp [refAt]
      rw [htake, refsFrom, hnone, refsFrom_short (by simp)]
      rfl

/-- **What the reader sees** of a well-formed stream after its first `n` bytes. -/
theorem refs_take (us : List NalUnit) (off n : ℕ) :
    refsFrom false off ((unitBytes us).take n) = visible off n us := by
  induction us generalizing off n with
  | nil => simp [refsFrom, visible]
  | cons u us ih =>
    have htwo := u.two
    have hsize : u.size = u.code.length + u.payload.length := by
      simp [NalUnit.size, NalUnit.bytes]
    have hbytes : u.bytes.length = u.size := rfl
    rw [unitBytes_cons, List.take_append, hbytes]
    by_cases hhead : u.head ≤ n
    · rw [visible, if_pos hhead]
      have hhead' : u.code.length + 2 ≤ n := hhead
      by_cases hn : u.size ≤ n
      · -- the whole unit is there
        have hne : u.payload ≠ [] := List.ne_nil_of_length_pos (by omega)
        have hr : (u.payload ++ (unitBytes us).take (n - u.size)).take 2 = u.payload.take 2 :=
          List.take_append_of_le_length htwo
        rw [List.take_of_length_le (by omega), NalUnit.bytes, List.append_assoc, refsFrom_code u off hr,
          refsFrom_payload _ u.clean u.closed hne, ih, Nat.add_assoc, ← hsize]
      · -- the payload is cut
        have hzero : n - u.size = 0 := by omega
        have hr : (u.payload.take (n - u.code.length)).take 2 = u.payload.take 2 := by
          rw [List.take_take, Nat.min_eq_left (by omega)]
        have hopen : ¬ [0, 0, 1] <:+: u.payload.take (n - u.code.length) := fun h =>
          u.clean 1 (Or.inr rfl) (h.trans (List.take_prefix _ _).isInfix)
        rw [hzero, visible_zero, List.take_zero, List.append_nil, NalUnit.bytes, List.take_append,
          List.take_of_length_le (by omega), refsFrom_code u off hr, refsFrom_open hopen]
    · have hle := u.head_le_size
      have hzero : n - u.size = 0 := by omega
      rw [visible, if_neg hhead, hzero, List.take_zero, List.append_nil,
        refsFrom_cut u off n (by omega)]

end AnnexBStreamReader

end Waypad
