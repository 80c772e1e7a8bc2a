import Waypad.Lib.Utf8

/-!
# Waypad.Lib.Grouped — hexadecimal text, and sequences in groups

* `hex`: two lower-case digits for each byte; `hex_length`, `hex_ascii`.
* `chunks`: the pieces of a sequence, all but the last of the same length; `flatten_chunks`.
* `grouped_length`: the length with a separator between the pieces.
* `mapM_read`: pieces that can be read one by one.
-/

namespace Grouped

variable {α β : Type*}

/-! ## Hexadecimal digits -/

def digit (n : ℕ) : Char := "0123456789abcdef".toList.getD n '0'

def hex (bytes : List UInt8) : List Char :=
  bytes.flatMap (fun b => [digit (b.toNat / 16), digit (b.toNat % 16)])

@[simp] theorem hex_length (bytes : List UInt8) : (hex bytes).length = 2 * bytes.length := by
  induction bytes with
  | nil => rfl
  | cons b bytes ih =>
    rw [hex, List.flatMap_cons, List.length_append, ← hex, ih]
    simp only [List.length_cons, List.length_nil]
    omega

theorem digit_ascii : ∀ n < 16, Utf8.Ascii (digit n) := by
  unfold Utf8.Ascii
  decide

theorem hex_ascii (bytes : List UInt8) : ∀ c ∈ hex bytes, Utf8.Ascii c := by
  intro c hc
  obtain ⟨b, -, hb⟩ := List.mem_flatMap.mp hc
  have hlt := b.toNat_lt
  simp only [List.mem_cons, List.not_mem_nil, or_false] at hb
  rcases hb with rfl | rfl
  · exact digit_ascii _ (by omega)
  · exact digit_ascii _ (by omega)

/-! ## Pieces -/

/-- Pieces of `n` elements; what remains is the last one. -/
def chunks (n : ℕ) (l : List α) : List (List α) :=
  (List.range ((l.length + n - 1) / n)).map (fun i => (l.drop (n * i)).take n)

@[simp] theorem chunks_length (n : ℕ) (l : List α) : (chunks n l).length = (l.length + n - 1) / n := by
  rw [chunks, List.length_map, List.length_range]

/-- As many pieces as it takes are the whole. -/
theorem flatten_pieces {n k : ℕ} {l : List α} (h : l.length ≤ n * k) :
    ((List.range k).map (fun i => (l.drop (n * i)).take n)).flatten = l := by
  induction k generalizing l with
  | zero =>
    have hnil : l = [] := List.length_eq_zero_iff.mp (by omega)
    rw [hnil]
    rfl
  | succ k ih =>
    have hrest : (l.drop n).length ≤ n * k := by
      have hsucc : n * (k + 1) = n * k + n := Nat.mul_succ n k
      rw [List.length_drop]
      omega
    have hpieces : ((List.range k).map (fun i => (l.drop (n * (i + 1))).take n)).flatten = l.drop n := by
      rw [← ih hrest]
      simp only [List.drop_drop, Nat.mul_succ, Nat.add_comm n]
    rw [List.range_succ_eq_map, List.map_cons, List.map_map, List.flatten_cons]
    show (l.drop (n * 0)).take n ++ _ = l
    rw [Nat.mul_zero, List.drop_zero]
    exact (congrArg _ hpieces).trans (List.take_append_drop n l)

theorem flatten_chunks {n : ℕ} (hn : 0 < n) (l : List α) : (chunks n l).flatten = l := by
  apply flatten_pieces
  have hdiv := Nat.div_add_mod (l.length + n - 1) n
  have hmod := Nat.mod_lt (l.length + n - 1) hn
  omega

theorem mem_of_mem_chunks {n : ℕ} {l piece : List α} {a : α} (hpiece : piece ∈ chunks n l)
    (ha : a ∈ piece) : a ∈ l := by
  obtain ⟨i, -, rfl⟩ := List.mem_map.mp hpiece
  exact List.mem_of_mem_drop (List.mem_of_mem_take ha)

theorem intercalate_length (sep : List α) (parts : List (List α)) :
    (sep.intercalate parts).length = parts.flatten.length + (parts.length - 1) * sep.length := by
  induction parts with
  | nil => simp
  | cons part parts ih =>
    rcases parts with _ | ⟨other, parts⟩
    · simp
    · rw [List.intercalate_cons_cons, List.length_append, List.length_append, ih]
      simp only [List.flatten_cons, List.length_append, List.length_cons, Nat.add_sub_cancel]
      rw [Nat.succ_mul]
      omega

/-- A separator between two pieces each. -/
theorem grouped_length {n : ℕ} (hn : 0 < n) (sep l : List α) :
    (sep.intercalate (chunks n l)).length = l.length + ((l.length + n - 1) / n - 1) * sep.length := by
  rw [intercalate_length, flatten_chunks hn, chunks_length]

/-- Pieces that can all be read, by what `write` undoes. -/
theorem mapM_read {read : α → Option β} {write : β → α}
    (hread : ∀ a b, read a = some b → write b = a) {parts : List α}
    (h : ∀ a ∈ parts, ∃ b, read a = some b) : ∃ values, parts.mapM read = some values ∧
      values.map write = parts := by
  induction parts with
  | nil => exact ⟨[], rfl, rfl⟩
  | cons a parts ih =>
    obtain ⟨b, hb⟩ := h a List.mem_cons_self
    obtain ⟨values, hvalues, hback⟩ := ih (fun c hc => h c (List.mem_cons_of_mem a hc))
    refine ⟨b :: values, ?_, ?_⟩
    · rw [List.mapM_cons, hb, hvalues]
      rfl
    · rw [List.map_cons, hread a b hb, hback]

end Grouped
