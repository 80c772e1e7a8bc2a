import Mathlib.Data.List.Basic
import Mathlib.Tactic.Ring

/-!
# Waypad.Lib.Base64 — base64 with the standard alphabet and canonical padding

* `encode` takes three bytes to four characters and pads the last group with `=`.
* `decode` accepts exactly the padded form, with the bits the padding stands for zero.
* `decode_encode`: the round trip.  `encode_length`, `encode_forall`: the size and the
  characters of the text.
-/

namespace Base64

/-- The character of a value below 64. -/
def symbol (n : ℕ) : Char :=
  if n < 26 then Char.ofNat (65 + n)
  else if n < 52 then Char.ofNat (97 + (n - 26))
  else if n < 62 then Char.ofNat (48 + (n - 52))
  else if n = 62 then '+'
  else '/'

/-- The value of a character of the alphabet. -/
def value (c : Char) : Option ℕ :=
  let n := c.toNat
  if 65 ≤ n ∧ n ≤ 90 then some (n - 65)
  else if 97 ≤ n ∧ n ≤ 122 then some (n - 97 + 26)
  else if 48 ≤ n ∧ n ≤ 57 then some (n - 48 + 52)
  else if c = '+' then some 62
  else if c = '/' then some 63
  else none

def encode : List UInt8 → List Char
  | [] => []
  | [a] => [symbol (a.toNat / 4), symbol (a.toNat % 4 * 16), '=', '=']
  | [a, b] => [symbol (a.toNat / 4), symbol (a.toNat % 4 * 16 + b.toNat / 16),
      symbol (b.toNat % 16 * 4), '=']
  | a :: b :: c :: rest =>
    symbol (a.toNat / 4) :: symbol (a.toNat % 4 * 16 + b.toNat / 16) ::
      symbol (b.toNat % 16 * 4 + c.toNat / 64) :: symbol (c.toNat % 64) :: encode rest

/-- The byte of a group `w x = =`. -/
def decodeOne (w x : Char) : Option (List UInt8) := do
  let i ← value w
  let j ← value x
  if j % 16 = 0 then some [UInt8.ofNat (i * 4 + j / 16)] else none

/-- The bytes of a group `w x y =`. -/
def decodeTwo (w x y : Char) : Option (List UInt8) := do
  let i ← value w
  let j ← value x
  let k ← value y
  if k % 4 = 0 then some [UInt8.ofNat (i * 4 + j / 16), UInt8.ofNat (j % 16 * 16 + k / 4)] else none

/-- The bytes of a full group. -/
def decodeThree (w x y z : Char) : Option (List UInt8) := do
  let i ← value w
  let j ← value x
  let k ← value y
  let l ← value z
  some [UInt8.ofNat (i * 4 + j / 16), UInt8.ofNat (j % 16 * 16 + k / 4),
    UInt8.ofNat (k % 4 * 64 + l)]

def decode : List Char → Option (List UInt8)
  | [] => some []
  | [w, x, '=', '='] => decodeOne w x
  | [w, x, y, '='] => decodeTwo w x y
  | w :: x :: y :: z :: rest => do
    let group ← decodeThree w x y z
    let bytes ← decode rest
    some (group ++ bytes)
  | _ => none

/-! ## The alphabet -/

theorem value_symbol : ∀ n < 64, value (symbol n) = some n := by decide

theorem symbol_ne_pad : ∀ n < 64, symbol n ≠ '=' := by decide

/-! ## The round trip -/

section Bytes

variable (a b c : UInt8)

theorem byte_lt : a.toNat < 256 := a.toNat_lt

theorem decodeOne_symbol : decodeOne (symbol (a.toNat / 4)) (symbol (a.toNat % 4 * 16)) = some [a] := by
  have ha := byte_lt a
  have hpad : a.toNat % 4 * 16 % 16 = 0 := by omega
  have hbyte : a.toNat / 4 * 4 + a.toNat % 4 * 16 / 16 = a.toNat := by omega
  simp only [decodeOne, value_symbol _ (show a.toNat / 4 < 64 by omega),
    value_symbol _ (show a.toNat % 4 * 16 < 64 by omega), Option.bind_eq_bind, Option.bind_some,
    if_pos hpad, hbyte, UInt8.ofNat_toNat]

theorem decodeTwo_symbol : decodeTwo (symbol (a.toNat / 4))
    (symbol (a.toNat % 4 * 16 + b.toNat / 16)) (symbol (b.toNat % 16 * 4)) = some [a, b] := by
  have ha := byte_lt a
  have hb := byte_lt b
  have hpad : b.toNat % 16 * 4 % 4 = 0 := by omega
  have h1 : a.toNat / 4 * 4 + (a.toNat % 4 * 16 + b.toNat / 16) / 16 = a.toNat := by omega
  have h2 : (a.toNat % 4 * 16 + b.toNat / 16) % 16 * 16 + b.toNat % 16 * 4 / 4 = b.toNat := by omega
  simp only [decodeTwo, value_symbol _ (show a.toNat / 4 < 64 by omega),
    value_symbol _ (show a.toNat % 4 * 16 + b.toNat / 16 < 64 by omega),
    value_symbol _ (show b.toNat % 16 * 4 < 64 by omega), Option.bind_eq_bind, Option.bind_some,
    if_pos hpad, h1, h2, UInt8.ofNat_toNat]

theorem decodeThree_symbol : decodeThree (symbol (a.toNat / 4))
    (symbol (a.toNat % 4 * 16 + b.toNat / 16)) (symbol (b.toNat % 16 * 4 + c.toNat / 64))
    (symbol (c.toNat % 64)) = some [a, b, c] := by
  have ha := byte_lt a
  have hb := byte_lt b
  have hc := byte_lt c
  have h1 : a.toNat / 4 * 4 + (a.toNat % 4 * 16 + b.toNat / 16) / 16 = a.toNat := by omega
  have h2 : (a.toNat % 4 * 16 + b.toNat / 16) % 16 * 16 + (b.toNat % 16 * 4 + c.toNat / 64) / 4 =
      b.toNat := by omega
  have h3 : (b.toNat % 16 * 4 + c.toNat / 64) % 4 * 64 + c.toNat % 64 = c.toNat := by omega
  simp only [decodeThree, value_symbol _ (show a.toNat / 4 < 64 by omega),
    value_symbol _ (show a.toNat % 4 * 16 + b.toNat / 16 < 64 by omega),
    value_symbol _ (show b.toNat % 16 * 4 + c.toNat / 64 < 64 by omega),
    value_symbol _ (show c.toNat % 64 < 64 by omega), Option.bind_eq_bind, Option.bind_some,
    h1, h2, h3, UInt8.ofNat_toNat]

end Bytes

/-- A group whose last character is no padding is a full group. -/
theorem decode_group {w x y z : Char} (hz : z ≠ '=') (rest : List Char) :
    decode (w :: x :: y :: z :: rest) =
      (decodeThree w x y z).bind (fun group => (decode rest).map (fun bytes => group ++ bytes)) := by
  rw [decode.eq_def]
  split
  · next h => cases h
  · next h => simp only [List.cons.injEq] at h; exact absurd h.2.2.2.1 hz
  · next h => simp only [List.cons.injEq] at h; exact absurd h.2.2.2.1 hz
  · next h =>
    simp only [List.cons.injEq] at h
    obtain ⟨rfl, rfl, rfl, rfl, rfl⟩ := h
    cases decodeThree w x y z <;> cases decode rest <;> rfl
  · next h => exact absurd rfl (h w x y z rest)

theorem decode_encode (bytes : List UInt8) : decode (encode bytes) = some bytes := by
  induction bytes using encode.induct with
  | case1 => rfl
  | case2 a => exact decodeOne_symbol a
  | case3 a b =>
    have hy : symbol (b.toNat % 16 * 4) ≠ '=' := symbol_ne_pad _ (by omega)
    -- a group with one pad is no group with two
    have hgroup : ∀ w x y : Char, y ≠ '=' → decode [w, x, y, '='] = decodeTwo w x y := by
      intro w x y h
      rw [decode.eq_def]
      split
      · next heq => cases heq
      · next heq => simp only [List.cons.injEq] at heq; exact absurd heq.2.2.1 h
      · next heq =>
        simp only [List.cons.injEq, and_true] at heq
        obtain ⟨rfl, rfl, rfl⟩ := heq
        rfl
      · next hne heq =>
        simp only [List.cons.injEq] at heq
        obtain ⟨rfl, rfl, rfl, rfl, rfl⟩ := heq
        exact (hne rfl rfl).elim
      · next hne => exact absurd rfl (hne w x y '=' [])
    rw [encode, hgroup _ _ _ hy]
    exact decodeTwo_symbol a b
  | case4 a b c rest ih =>
    rw [encode, decode_group (symbol_ne_pad _ (by omega)), decodeThree_symbol a b c, ih]
    rfl

/-! ## Size -/

theorem encode_length (bytes : List UInt8) : (encode bytes).length = 4 * ((bytes.length + 2) / 3) := by
  induction bytes using encode.induct with
  | case1 => rfl
  | case2 a => simp [encode]
  | case3 a b => simp [encode]
  | case4 a b c rest ih =>
    simp only [encode, List.length_cons, ih]
    omega

/-- What holds of the alphabet and of `=` holds of every character of the text. -/
theorem encode_forall {p : Char → Prop} (hs : ∀ n < 64, p (symbol n)) (hpad : p '=')
    (bytes : List UInt8) : ∀ ch ∈ encode bytes, p ch := by
  induction bytes using encode.induct with
  | case1 => simp [encode]
  | case2 a =>
    have := byte_lt a
    simp only [encode, List.mem_cons, List.not_mem_nil, or_false]
    rintro ch (rfl | rfl | rfl | rfl)
    · exact hs _ (by omega)
    · exact hs _ (by omega)
    · exact hpad
    · exact hpad
  | case3 a b =>
    have := byte_lt a
    have := byte_lt b
    simp only [encode, List.mem_cons, List.not_mem_nil, or_false]
    rintro ch (rfl | rfl | rfl | rfl)
    · exact hs _ (by omega)
    · exact hs _ (by omega)
    · exact hs _ (by omega)
    · exact hpad
  | case4 a b c rest ih =>
    have := byte_lt a
    have := byte_lt b
    have := byte_lt c
    simp only [encode, List.mem_cons]
    rintro ch (rfl | rfl | rfl | rfl | hch)
    · exact hs _ (by omega)
    · exact hs _ (by omega)
    · exact hs _ (by omega)
    · exact hs _ (by omega)
    · exact ih ch hch

theorem encode_ascii (bytes : List UInt8) : ∀ ch ∈ encode bytes, ch.utf8Size = 1 :=
  encode_forall (by decide) (by decide) bytes

theorem encode_ne_quote (bytes : List UInt8) : ∀ ch ∈ encode bytes, ch ≠ '"' :=
  encode_forall (by decide) (by decide) bytes

end Base64
