import Waypad.Lib.Lines
import Waypad.Lib.Utf8

/-!
# Waypad.Screen.ProducerError — why a pipeline has died (`src/screen.rs`)

The standard error of a pipeline is read in pieces, by one task for each pipeline that was started for the stream,
and all of them write to one slot.  The stream fails with what is left in it.

* `logChildStderr`: one read.
* `producer_error`: the slot holds the first line with an error, or else the first thing that was said.
-/

namespace Waypad

/-- `str::contains("ERROR")`. -/
def containsError (text : List Char) : Bool := decide ("ERROR".toList <:+: text)

/-- The text of a read. -/
def stderrText (chunk : List UInt8) : List Char := Text.trim (Utf8.lossy chunk)

/-- `first_error`. -/
def firstError (text : List Char) : Option (List Char) := ((Text.lines text).find? containsError).map Text.trim

/-- `slot_has_error`. -/
def slotHasError (slot : Option (List Char)) : Bool := slot.any containsError

/-- What `log_child_stderr` does with a read. -/
def logChildStderr (slot : Option (List Char)) (chunk : List UInt8) : Option (List Char) :=
  let text := stderrText chunk
  if text.isEmpty then slot
  else if slot.isNone || (firstError text).isSome && !slotHasError slot then (firstError text).or (some text)
  else slot

/-- The slot after the reads of all tasks, in their order. -/
def producerError (reads : List (List UInt8)) : Option (List Char) := reads.foldl logChildStderr none

theorem error_word : ∀ c ∈ "ERROR".toList, Text.isWhitespace c = false := Text.word_of_all rfl

/-- A text with an error has a line with one. -/
theorem firstError_isSome (text : List Char) : (firstError text).isSome = containsError text := by
  unfold firstError
  rw [Option.isSome_map, Bool.eq_iff_iff, List.find?_isSome]
  unfold containsError
  simp only [decide_eq_true_eq]
  exact (Text.infix_lines (by decide) (by decide) (by decide) text).symm

/-- The line is kept with its error. -/
theorem containsError_first {text line : List Char} (h : firstError text = some line) :
    containsError line = true := by
  obtain ⟨found, hfound, rfl⟩ := Option.map_eq_some_iff.mp h
  have hcontains := List.find?_some hfound
  unfold containsError at hcontains ⊢
  rw [decide_eq_true_iff] at hcontains ⊢
  exact Text.infix_trim error_word hcontains

theorem firstError_empty {text : List Char} (h : text.isEmpty = true) : firstError text = none := by
  rw [List.isEmpty_iff.mp h]
  rfl

theorem producerError_snoc (reads : List (List UInt8)) (chunk : List UInt8) :
    producerError (reads ++ [chunk]) = logChildStderr (producerError reads) chunk := by
  unfold producerError
  rw [List.foldl_append]
  rfl

/-- The first line with an error, or else the first thing that was said. -/
def firstSaid (reads : List (List UInt8)) : Option (List Char) :=
  (reads.findSome? (fun chunk => firstError (stderrText chunk))).or
    ((reads.map stderrText).find? (fun text => !text.isEmpty))

/-- Without an error in any read, what is kept has none. -/
theorem plain_text {reads : List (List UInt8)} {text : List Char}
    (hplain : reads.findSome? (fun chunk => firstError (stderrText chunk)) = none)
    (h : (reads.map stderrText).find? (fun text => !text.isEmpty) = some text) : containsError text = false := by
  obtain ⟨chunk, hchunk, rfl⟩ := List.mem_map.mp (List.mem_of_find?_eq_some h)
  rw [← firstError_isSome, List.findSome?_eq_none_iff.mp hplain chunk hchunk]
  rfl

/-- One read on a slot with an error, with a text that has none, or with nothing. -/
theorem logChildStderr_error {line : List Char} (hline : containsError line = true) (chunk : List UInt8) :
    logChildStderr (some line) chunk = some line := by
  have hslot : slotHasError (some line) = true := hline
  unfold logChildStderr
  dsimp only
  rw [hslot]
  split_ifs
  · rfl
  · next hcan => simp at hcan
  · rfl

theorem logChildStderr_plain {text : List Char} (htext : containsError text = false) (chunk : List UInt8) :
    logChildStderr (some text) chunk = (firstError (stderrText chunk)).or (some text) := by
  have hslot : slotHasError (some text) = false := htext
  unfold logChildStderr
  dsimp only
  rw [hslot]
  split_ifs with hempty hcan
  · rw [firstError_empty hempty]
    rfl
  · obtain ⟨line, hline⟩ : ∃ line, firstError (stderrText chunk) = some line := by
      simpa [Option.isSome_iff_exists] using hcan
    rw [hline]
    rfl
  · have hnone : firstError (stderrText chunk) = none := by simpa using hcan
    rw [hnone]
    rfl

theorem logChildStderr_none (chunk : List UInt8) :
    logChildStderr none chunk = (firstError (stderrText chunk)).or
      ([stderrText chunk].find? (fun text => !text.isEmpty)) := by
  unfold logChildStderr
  dsimp only
  split_ifs with hempty hcan
  · rw [firstError_empty hempty]
    simp [hempty]
  · simp [hempty]
  · simp at hcan

theorem producerError_eq (reads : List (List UInt8)) : producerError reads = firstSaid reads := by
  induction reads using List.reverseRecOn with
  | nil => rfl
  | append_singleton reads chunk ih =>
    rw [producerError_snoc, ih]
    unfold firstSaid
    rw [List.findSome?_append, List.map_append, List.find?_append, List.map_singleton]
    have hkept := @plain_text reads
    have herror : ∀ line, reads.findSome? (fun chunk => firstError (stderrText chunk)) = some line →
        containsError line = true := by
      intro line hline
      obtain ⟨read, -, hread⟩ := List.exists_of_findSome?_eq_some hline
      exact containsError_first hread
    generalize reads.findSome? (fun chunk => firstError (stderrText chunk)) = error at hkept herror
    generalize (reads.map stderrText).find? (fun text => !text.isEmpty) = said at hkept
    rw [List.findSome?_singleton]
    rcases error with _ | line
    · rcases said with _ | text
      · exact logChildStderr_none chunk
      · exact logChildStderr_plain (hkept rfl rfl) chunk
    · exact logChildStderr_error (herror line rfl) chunk

/-- The word is in the text of a read exactly when its bytes are in the read. -/
theorem containsError_read (chunk : List UInt8) :
    containsError (stderrText chunk) = true ↔ Text.utf8 "ERROR".toList <:+: chunk := by
  have hall : "ERROR".toList.all (fun c => decide (c.toNat < 0x80)) = true := rfl
  have hascii : ∀ c ∈ "ERROR".toList, Utf8.Ascii c := by
    intro c hc
    have hsmall := List.all_eq_true.mp hall c hc
    rw [decide_eq_true_iff] at hsmall
    exact hsmall
  unfold containsError stderrText
  rw [decide_eq_true_iff, ← Utf8.infix_lossy hascii]
  exact ⟨fun h => h.trans (Text.trim_infix _), Text.infix_trim error_word⟩

/-- **The slot tells why**: over every sequence of reads, of one pipeline or of several, it holds the first line
with an error, or else the first thing that was said; and it has an error if, and only if, the bytes of the word
stand together in one of the reads. -/
theorem producer_error (reads : List (List UInt8)) :
    producerError reads = firstSaid reads ∧
      (slotHasError (producerError reads) = true ↔ ∃ chunk ∈ reads, Text.utf8 "ERROR".toList <:+: chunk) := by
  refine ⟨producerError_eq reads, ?_⟩
  rw [producerError_eq]
  unfold firstSaid
  constructor
  · -- without an error line the slot holds the first text, and it names no error
    intro h
    have hkept := @plain_text reads
    rcases herror : reads.findSome? (fun chunk => firstError (stderrText chunk)) with _ | line
    · rw [herror, Option.none_or] at h
      obtain ⟨text, htext, hcontains⟩ := Option.any_eq_true _ _ |>.mp h
      rw [hkept herror htext] at hcontains
      cases hcontains
    · obtain ⟨chunk, hchunk, hline⟩ := List.exists_of_findSome?_eq_some herror
      refine ⟨chunk, hchunk, (containsError_read chunk).mp ?_⟩
      rw [← firstError_isSome, hline]
      rfl
  · rintro ⟨chunk, hchunk, hword⟩
    have hsome : (firstError (stderrText chunk)).isSome = true := by
      rw [firstError_isSome]
      exact (containsError_read chunk).mpr hword
    obtain ⟨line, hline⟩ : ∃ line, reads.findSome? (fun chunk => firstError (stderrText chunk)) = some line :=
      Option.isSome_iff_exists.mp (List.findSome?_isSome_iff.mpr ⟨chunk, hchunk, hsome⟩)
    rw [hline]
    obtain ⟨read, -, hread⟩ := List.exists_of_findSome?_eq_some hline
    exact containsError_first hread

end Waypad
