import Mathlib.Data.List.Basic
import Waypad.Lib.Utf8

/-!
# Waypad.Lib.Query — lists of fields, and percent-encoding

A list of fields is written with one character between a key and its value and another between the fields.
Reading splits at every second one, and each field at the first of the first one, so neither may stand in a
key, and the second not in a value.  Percent-encoding keeps them out of the values.

* `cut`: what stands before and after the first separator.
* `format`, `parse`, `parse_format`: the round trip of the fields.
* `encode`, `decode`, `decode_encode`: the round trip of the bytes.
* `not_mem_encode`: the characters that are kept out.
-/

namespace Query

/-! ## Fields -/

section Fields

variable {α : Type*} [DecidableEq α] {amp eq sep : α}

/-- What stands before and after the first `sep`. -/
def cut (sep : α) (l : List α) : List α × List α :=
  (l.takeWhile (fun x => decide (x ≠ sep)), (l.dropWhile (fun x => decide (x ≠ sep))).drop 1)

def field (eq : α) (p : List α × List α) : List α := p.1 ++ eq :: p.2

def format (amp eq : α) (pairs : List (List α × List α)) : List α :=
  List.intercalate [amp] (pairs.map (field eq))

def parse (amp eq : α) (l : List α) : List (List α × List α) := (l.splitOn amp).map (cut eq)

/-- No separator is taken for another. -/
structure Clean (amp eq : α) (p : List α × List α) : Prop where
  key_amp : amp ∉ p.1
  key_eq : eq ∉ p.1
  value_amp : amp ∉ p.2

theorem cut_append {a : List α} (ha : sep ∉ a) (b : List α) : cut sep (a ++ sep :: b) = (a, b) := by
  have hall : ∀ x ∈ a, decide (x ≠ sep) = true := by
    intro x hx
    refine decide_eq_true ?_
    rintro rfl
    exact ha hx
  unfold cut
  rw [List.takeWhile_append_of_pos hall, List.dropWhile_append_of_pos hall]
  simp

theorem cut_field {p : List α × List α} (h : eq ∉ p.1) : cut eq (field eq p) = p :=
  cut_append h p.2

/-- **Fields are read back as they were written.** -/
theorem parse_format (hne : amp ≠ eq) {pairs : List (List α × List α)} (hpairs : pairs ≠ [])
    (h : ∀ p ∈ pairs, Clean amp eq p) : parse amp eq (format amp eq pairs) = pairs := by
  have hamp : ∀ l ∈ pairs.map (field eq), amp ∉ l := by
    intro l hl
    obtain ⟨p, hp, rfl⟩ := List.mem_map.mp hl
    have hclean := h p hp
    unfold field
    rw [List.mem_append, List.mem_cons]
    rintro (hkey | hsep | hvalue)
    · exact hclean.key_amp hkey
    · exact hne hsep
    · exact hclean.value_amp hvalue
  have hcut : ∀ p ∈ pairs, (cut eq ∘ field eq) p = p := fun p hp => cut_field (h p hp).key_eq
  unfold parse format
  rw [List.splitOn_intercalate amp hamp (by simpa using hpairs), List.map_map, List.map_congr_left hcut,
    List.map_id']

end Fields

/-! ## Percent-encoding -/

/-- The upper-case digit of a value below 16. -/
def hexDigit (n : ℕ) : Char := if n < 10 then Char.ofNat (48 + n) else Char.ofNat (55 + n)

def hexValue (c : Char) : Option ℕ :=
  let n := c.toNat
  if 48 ≤ n ∧ n ≤ 57 then some (n - 48)
  else if 65 ≤ n ∧ n ≤ 70 then some (n - 55)
  else if 97 ≤ n ∧ n ≤ 102 then some (n - 87)
  else none

/-- A byte that is `safe` stands for itself, another one is written with its two digits. -/
def encodeByte (safe : UInt8 → Bool) (b : UInt8) : List Char :=
  if safe b then [Char.ofNat b.toNat] else ['%', hexDigit (b.toNat / 16), hexDigit (b.toNat % 16)]

def encode (safe : UInt8 → Bool) (bytes : List UInt8) : List Char := bytes.flatMap (encodeByte safe)

/-- A `%` before two digits is read as a byte; everything else stands for itself. -/
def decode : List Char → List UInt8
  | [] => []
  | '%' :: a :: b :: rest =>
    match hexValue a, hexValue b with
    | some x, some y => UInt8.ofNat (16 * x + y) :: decode rest
    | _, _ => 0x25 :: decode (a :: b :: rest)
  | c :: rest => Text.utf8 [c] ++ decode rest

/-- Only ASCII bytes other than `%` are safe. -/
def Plain (safe : UInt8 → Bool) : Prop := ∀ b, safe b = true → b.toNat < 0x80 ∧ b ≠ 0x25

theorem hexValue_hexDigit : ∀ n < 16, hexValue (hexDigit n) = some n := by decide

section Percent

variable {safe : UInt8 → Bool}

/-- A safe byte as a character. -/
theorem safe_char (hsafe : Plain safe) {b : UInt8} (hb : safe b = true) :
    Utf8.Ascii (Char.ofNat b.toNat) ∧ UInt8.ofNat (Char.ofNat b.toNat).toNat = b := by
  obtain ⟨hascii, -⟩ := hsafe b hb
  refine ⟨?_, Utf8.byte_ofNat hascii⟩
  unfold Utf8.Ascii
  rw [Utf8.toNat_ofNat (Or.inl (by omega))]
  exact hascii

theorem decode_cons {c : Char} (hc : c ≠ '%') (rest : List Char) :
    decode (c :: rest) = Text.utf8 [c] ++ decode rest := by
  rw [decode]
  rintro a b rest' rfl -
  exact hc rfl

theorem decode_encodeByte (hsafe : Plain safe) (b : UInt8) (rest : List Char) :
    decode (encodeByte safe b ++ rest) = b :: decode rest := by
  unfold encodeByte
  by_cases hb : safe b = true
  · obtain ⟨hascii, hback⟩ := safe_char hsafe hb
    have hne : Char.ofNat b.toNat ≠ '%' := by
      intro he
      rw [he] at hback
      exact (hsafe b hb).2 hback.symm
    rw [if_pos hb, List.singleton_append, decode_cons hne, Utf8.utf8_ascii hascii, hback]
    rfl
  · have hlt : b.toNat < 256 := b.toNat_lt
    rw [if_neg hb]
    show decode ('%' :: hexDigit (b.toNat / 16) :: hexDigit (b.toNat % 16) :: rest) = _
    rw [decode, hexValue_hexDigit _ (by omega), hexValue_hexDigit _ (by omega)]
    show UInt8.ofNat (16 * (b.toNat / 16) + b.toNat % 16) :: decode rest = _
    rw [Nat.div_add_mod, UInt8.ofNat_toNat]

/-- **Bytes are read back from their encoding.** -/
theorem decode_encode (hsafe : Plain safe) (bytes : List UInt8) : decode (encode safe bytes) = bytes := by
  unfold encode
  induction bytes with
  | nil => rfl
  | cons b bytes ih => rw [List.flatMap_cons, decode_encodeByte hsafe, ih]

/-- **What is kept out**: an ASCII character that is not safe, not `%` and not a digit of the encoding. -/
theorem not_mem_encode (hsafe : Plain safe) {c : Char} (hc : safe (UInt8.ofNat c.toNat) = false)
    (hpercent : c ≠ '%') (hdigit : ∀ n < 16, c ≠ hexDigit n) (bytes : List UInt8) :
    c ∉ encode safe bytes := by
  intro hmem
  obtain ⟨b, -, hb⟩ := List.mem_flatMap.mp hmem
  have hlt : b.toNat < 256 := b.toNat_lt
  unfold encodeByte at hb
  split_ifs at hb with hs
  · rw [List.mem_singleton] at hb
    rw [hb, (safe_char hsafe hs).2, hs] at hc
    cases hc
  · simp only [List.mem_cons, List.not_mem_nil, or_false] at hb
    rcases hb with hb | hb | hb
    · exact hpercent hb
    · exact hdigit _ (by omega) hb
    · exact hdigit _ (by omega) hb

end Percent

end Query
