import Mathlib.Data.List.DropRight

/-!
# Waypad.Lib.Text — Unicode text as a list of characters

The white space of the Unicode property `White_Space`, the test `s.trim().is_empty()`, `str::trim_end`
and `str::len`, which counts UTF-8 bytes.
-/

namespace Text

/-- `char::is_whitespace`. -/
def isWhitespace (c : Char) : Bool :=
  let n := c.toNat
  decide (9 ≤ n ∧ n ≤ 13) || n == 0x20 || n == 0x85 || n == 0xA0 || n == 0x1680 ||
    decide (0x2000 ≤ n ∧ n ≤ 0x200A) || n == 0x2028 || n == 0x2029 || n == 0x202F || n == 0x205F ||
    n == 0x3000

/-- `s.trim().is_empty()`. -/
def trimIsEmpty (s : String) : Bool := s.toList.all isWhitespace

/-- `str::trim_end`. -/
def trimEnd (s : List Char) : List Char := s.rdropWhile isWhitespace

/-- `str::len`: the length of the UTF-8 encoding. -/
def len : List Char → ℕ
  | [] => 0
  | c :: s => c.utf8Size + len s

/-- `str::as_bytes`. -/
def utf8 (s : List Char) : List UInt8 := s.flatMap String.utf8EncodeChar

theorem utf8_append (s t : List Char) : utf8 (s ++ t) = utf8 s ++ utf8 t := List.flatMap_append

theorem utf8_intercalate (sep : List Char) (parts : List (List Char)) :
    utf8 (sep.intercalate parts) = (utf8 sep).intercalate (parts.map utf8) := by
  induction parts with
  | nil => rfl
  | cons s parts ih =>
    rcases parts with _ | ⟨t, parts⟩
    · rw [List.intercalate_singleton, List.map_cons, List.map_nil, List.intercalate_singleton]
    · rw [List.intercalate_cons_cons, utf8_append, utf8_append, ih]
      simp only [List.map_cons, List.intercalate_cons_cons]

theorem len_append (s t : List Char) : len (s ++ t) = len s + len t := by
  induction s with
  | nil => simp [len]
  | cons c s ih => simp [len, ih, Nat.add_assoc]

/-- ASCII text has one byte for each character. -/
theorem len_ascii {s : List Char} (h : ∀ c ∈ s, c.utf8Size = 1) : len s = s.length := by
  induction s with
  | nil => rfl
  | cons c s ih =>
    rw [len, h c List.mem_cons_self, ih (fun d hd => h d (List.mem_cons_of_mem c hd)),
      List.length_cons, Nat.add_comm]

/-- A line whose text does not end in white space is read back without its end. -/
theorem trimEnd_newline {s : List Char} {c : Char} (hc : isWhitespace c = false) :
    trimEnd (s ++ [c] ++ ['\n']) = s ++ [c] := by
  have hn : isWhitespace '\n' = true := by decide
  unfold trimEnd
  rw [List.rdropWhile_concat_pos _ _ _ hn, List.rdropWhile_concat_neg]
  simp [hc]

end Text
