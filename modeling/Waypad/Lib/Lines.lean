import Mathlib.Data.List.Infix
import Waypad.Lib.Text

/-!
# Waypad.Lib.Lines — the lines of a text and the words of a line

* `lines`: `str::lines`; `lines_unlines`: lines without an end of their own are read back.
* `infix_lines`: a word stands in a text if and only if it stands in one of its lines.
* `trim`: `str::trim`; `infix_trim`: no word is lost.
* `words`: `str::split_whitespace`; `words_cons`: a word is read back whatever follows the space after it.
-/

namespace Text

/-! ## Lines -/

/-- The line without the `\r` of its end. -/
def stripCr (line : List Char) : List Char := if line.getLast? = some '\r' then line.dropLast else line

/-- `str::lines`: what follows the last newline is a line only if it is not empty. -/
def lines (s : List Char) : List (List Char) :=
  (s.splitOn '\n').dropLast.map stripCr ++ [(s.splitOn '\n').getLastD []].filter (fun l => !l.isEmpty)

theorem lines_cons {line : List Char} (h : '\n' ∉ line) (rest : List Char) :
    lines (line ++ '\n' :: rest) = stripCr line :: lines rest := by
  have hsplit : (line ++ '\n' :: rest).splitOn '\n' = line :: rest.splitOn '\n' :=
    List.splitOn_append_cons_self_of_not_mem h rest
  have hne : rest.splitOn '\n' ≠ [] := List.splitOnP_ne_nil _ _
  unfold lines
  rw [hsplit, List.dropLast_cons_of_ne_nil hne, List.map_cons, List.cons_append]
  obtain ⟨part, parts, hparts⟩ := List.exists_cons_of_ne_nil hne
  rw [hparts]
  simp

/-- **Lines are read back**, if they have no end of a line in them. -/
theorem lines_unlines {ls : List (List Char)} (h : ∀ l ∈ ls, '\n' ∉ l ∧ '\r' ∉ l) :
    lines (ls.flatMap (· ++ ['\n'])) = ls := by
  induction ls with
  | nil => rfl
  | cons l ls ih =>
    obtain ⟨hnewline, hreturn⟩ := h l List.mem_cons_self
    have hstrip : stripCr l = l := by
      unfold stripCr
      rw [if_neg]
      intro hlast
      exact hreturn (List.mem_of_getLast? hlast)
    rw [List.flatMap_cons, List.append_assoc, List.singleton_append, lines_cons hnewline, hstrip,
      ih (fun l' hl' => h l' (List.mem_cons_of_mem l hl'))]

/-! ## What stands in a line -/

/-- A word without a separator stands on one of its sides. -/
theorem infix_sides {α : Type*} {w before after : List α} {sep : α} (hsep : sep ∉ w) :
    w <:+: before ++ sep :: after ↔ w <:+: before ∨ w <:+: after := by
  constructor
  · rintro ⟨left, right, h⟩
    rcases List.append_eq_append_iff.mp h with ⟨rest, hbefore, -⟩ | ⟨rest, hleft, hright⟩
    · exact Or.inl ⟨left, rest, hbefore.symm⟩
    · rcases rest with _ | ⟨c, rest⟩
      · rw [List.append_nil] at hleft
        exact Or.inl ⟨left, [], by rw [List.append_nil, hleft]⟩
      obtain ⟨rfl, hafter⟩ := List.cons.inj hright
      rcases List.append_eq_append_iff.mp hleft with ⟨more, -, hw⟩ | ⟨more, -, hw⟩
      · exact absurd (hw ▸ List.mem_append_right _ List.mem_cons_self) hsep
      · rcases more with _ | ⟨d, more⟩
        · exact absurd (hw ▸ List.mem_cons_self : sep ∈ [] ++ w) hsep
        · obtain ⟨-, hrest⟩ := List.cons.inj hw
          exact Or.inr ⟨more, right, by rw [hafter, hrest]; rfl⟩
  · rintro (hbefore | hafter)
    · exact hbefore.trans (List.prefix_append _ _).isInfix
    · exact hafter.trans ((List.suffix_cons sep after).isInfix.trans (List.suffix_append _ _).isInfix)

theorem infix_stripCr {w : List Char} (hne : w ≠ []) (hcr : '\r' ∉ w) (line : List Char) :
    w <:+: stripCr line ↔ w <:+: line := by
  unfold stripCr
  split_ifs with hlast
  · have hline : line = line.dropLast ++ '\r' :: [] := (List.dropLast_append_getLast? '\r' hlast).symm
    rw [hline, List.dropLast_concat, infix_sides hcr]
    have hnone : ¬ w <:+: [] := fun h => hne (List.infix_nil.mp h)
    tauto
  · rfl

/-- A text without a newline is one line, or none. -/
theorem lines_single {s : List Char} (h : '\n' ∉ s) : lines s = [s].filter (fun l => !l.isEmpty) := by
  have hsplit : s.splitOn '\n' = [s] := List.splitOn_eq_singleton h
  unfold lines
  rw [hsplit]
  rfl

/-- **A word stands in a text if and only if it stands in one of its lines.** -/
theorem infix_lines {w : List Char} (hne : w ≠ []) (hnl : '\n' ∉ w) (hcr : '\r' ∉ w) (s : List Char) :
    w <:+: s ↔ ∃ line ∈ lines s, w <:+: line := by
  induction hlen : s.length using Nat.strong_induction_on generalizing s with
  | _ n ih =>
    by_cases hmem : '\n' ∈ s
    · obtain ⟨line, rest, rfl, hline⟩ := List.eq_append_cons_of_mem hmem
      have hrest := ih rest.length (by rw [← hlen, List.length_append, List.length_cons]; omega) rest rfl
      rw [infix_sides hnl, lines_cons hline, hrest, ← infix_stripCr hne hcr line]
      simp
    · rw [lines_single hmem]
      rcases s with _ | ⟨c, s⟩
      · simp [hne]
      · simp

/-- `str::trim`. -/
def trim (s : List Char) : List Char := trimEnd (s.dropWhile isWhitespace)

theorem infix_dropWhile {w : List Char} (hw : ∀ c ∈ w, isWhitespace c = false) {s : List Char} (h : w <:+: s) :
    w <:+: s.dropWhile isWhitespace := by
  induction s with
  | nil => exact h
  | cons c s ih =>
    rw [List.dropWhile_cons]
    split_ifs with hspace
    · rcases List.infix_cons_iff.mp h with hprefix | hinfix
      · rcases w with _ | ⟨d, w⟩
        · exact List.nil_infix
        · obtain ⟨rfl, -⟩ := List.cons_prefix_cons.mp hprefix
          rw [hw d List.mem_cons_self] at hspace
          cases hspace
      · exact ih hinfix
    · exact h

/-- A word without white space is not trimmed off. -/
theorem infix_trim {w : List Char} (hw : ∀ c ∈ w, isWhitespace c = false) {s : List Char} (h : w <:+: s) :
    w <:+: trim s := by
  unfold trim trimEnd
  generalize hline : s.dropWhile isWhitespace = line
  have hfront : w <:+: line := hline ▸ infix_dropWhile hw h
  rw [List.rdropWhile, ← List.reverse_infix, List.reverse_reverse]
  refine infix_dropWhile ?_ (List.reverse_infix.mpr hfront)
  exact fun c hc => hw c (List.mem_reverse.mp hc)

theorem trim_infix (s : List Char) : trim s <:+: s :=
  (List.rdropWhile_prefix _ _).isInfix.trans (List.dropWhile_suffix _).isInfix

/-- A text that neither begins nor ends with white space. -/
structure Bare (s : List Char) : Prop where
  head : ∃ c rest, s = c :: rest ∧ isWhitespace c = false
  last : ∃ init d, s = init ++ [d] ∧ isWhitespace d = false

theorem Bare.append {s t : List Char} (hs : Bare s) (middle : List Char) (ht : Bare t) :
    Bare (s ++ middle ++ t) := by
  obtain ⟨c, rest, rfl, hc⟩ := hs.head
  obtain ⟨init, d, rfl, hd⟩ := ht.last
  exact ⟨⟨c, rest ++ middle ++ (init ++ [d]), rfl, hc⟩, ⟨c :: rest ++ middle ++ init, d, by simp, hd⟩⟩

theorem bare_word {w : List Char} (hne : w ≠ []) (hw : ∀ c ∈ w, isWhitespace c = false) : Bare w := by
  refine ⟨?_, w.dropLast, w.getLast hne, (List.dropLast_append_getLast hne).symm, hw _ (List.getLast_mem hne)⟩
  obtain ⟨c, rest, rfl⟩ := List.exists_cons_of_ne_nil hne
  exact ⟨c, rest, rfl, hw c List.mem_cons_self⟩

/-- Only the newline is trimmed off. -/
theorem trim_newline {s : List Char} (h : Bare s) : trim (s ++ ['\n']) = s := by
  obtain ⟨c, rest, hhead, hc⟩ := h.head
  obtain ⟨init, d, hlast, hd⟩ := h.last
  have hkeep : (s ++ ['\n']).dropWhile isWhitespace = s ++ ['\n'] := by
    rw [hhead, List.cons_append, List.dropWhile_cons, if_neg (by simp [hc])]
  unfold trim
  rw [hkeep, hlast, trimEnd_newline hd]

theorem trim_word {w : List Char} (hw : ∀ c ∈ w, isWhitespace c = false) : trim w = w := by
  have hback : ∀ s : List Char, (∀ c ∈ s, isWhitespace c = false) → s.dropWhile isWhitespace = s := by
    rintro (_ | ⟨c, s⟩) hs
    · rfl
    · rw [List.dropWhile_cons, if_neg (by simp [hs c List.mem_cons_self])]
  unfold trim trimEnd
  rw [hback w hw, List.rdropWhile, hback w.reverse (fun c hc => hw c (List.mem_reverse.mp hc)),
    List.reverse_reverse]

/-- The last line may be without its newline. -/
theorem lines_unlines_last {ls : List (List Char)} (h : ∀ l ∈ ls, '\n' ∉ l ∧ '\r' ∉ l) {last : List Char}
    (hne : last ≠ []) (hlast : '\n' ∉ last) : lines (ls.flatMap (· ++ ['\n']) ++ last) = ls ++ [last] := by
  induction ls with
  | nil =>
    show lines last = [last]
    rw [lines_single hlast, List.filter_cons_of_pos (by simpa using hne)]
    rfl
  | cons l ls ih =>
    obtain ⟨hnewline, hreturn⟩ := h l List.mem_cons_self
    have hstrip : stripCr l = l := if_neg (fun hcr => hreturn (List.mem_of_getLast? hcr))
    have htext : (l :: ls).flatMap (· ++ ['\n']) ++ last = l ++ '\n' :: (ls.flatMap (· ++ ['\n']) ++ last) := by
      simp
    rw [htext, lines_cons hnewline, hstrip, ih (fun l' hl' => h l' (List.mem_cons_of_mem l hl'))]
    rfl

/-! ## Words -/

/-- `str::split_whitespace`. -/
def words (s : List Char) : List (List Char) := (s.splitOnP isWhitespace).filter (fun w => !w.isEmpty)

theorem words_cons {w : List Char} (hw : ∀ c ∈ w, isWhitespace c = false) (hne : w ≠ []) {c : Char}
    (hc : isWhitespace c = true) (rest : List Char) : words (w ++ c :: rest) = w :: words rest := by
  unfold words
  rw [List.splitOnP_append_cons_of_forall_mem hw c hc rest, List.filter_cons_of_pos (by simpa using hne)]

/-- A number is a word. -/
theorem toDigits_word (n : ℕ) : ∀ c ∈ Nat.toDigits 10 n, isWhitespace c = false := by
  intro c hc
  have hdigit : c.isDigit = true := Nat.isDigit_of_mem_toDigits (by decide) (by decide) hc
  have hrange : 48 ≤ c.toNat ∧ c.toNat ≤ 57 := by
    simpa [Char.isDigit, UInt32.le_iff_toNat_le] using hdigit
  unfold isWhitespace
  simp only [Bool.or_eq_false_iff, decide_eq_false_iff_not, beq_eq_false_iff_ne]
  omega

/-- A word can be checked character by character. -/
theorem word_of_all {w : List Char} (h : w.all (fun c => !isWhitespace c) = true) :
    ∀ c ∈ w, isWhitespace c = false := by
  intro c hc
  have hnot := List.all_eq_true.mp h c hc
  rwa [Bool.not_eq_true'] at hnot

/-- The first word, whatever stands behind its first character. -/
theorem words_head {c : Char} (hc : isWhitespace c = false) (rest : List Char) :
    ∃ w more, words (c :: rest) = (c :: w) :: more := by
  obtain ⟨w, more, hsplit⟩ := List.exists_cons_of_ne_nil (List.splitOnP_ne_nil isWhitespace rest)
  refine ⟨w, more.filter (fun w => !w.isEmpty), ?_⟩
  unfold words
  rw [List.splitOnP_cons_eq_if_modifyHead, if_neg (by simp [hc]), hsplit, List.modifyHead_cons,
    List.filter_cons_of_pos (by simp)]

end Text
