import Mathlib.Data.List.Basic

/-!
# Waypad.Lib.Framing — values one after the other, and what their text determines

* `Framing`: how one value is written, and how it is read from the front of what has come.
* `readAll`: the values that are there, and the beginning of the next one.
* `readAll_begins`: of a part of what was written, the first values are read, and of all of it all of them.
* `fill`: a text with holes; `fill_inj`: the text determines what is in the holes.
-/

namespace Framing

variable {α β : Type*}

/-- Values in front of what follows them. -/
structure Format (α β : Type*) where
  bytes : β → List α
  /-- the value can be written -/
  Fits : β → Prop
  read : List α → Option (β × List α)
  read_bytes : ∀ b rest, Fits b → read (bytes b ++ rest) = some (b, rest)
  /-- what has been read stays, whatever comes after it -/
  read_more : ∀ l b rest more, read l = some (b, rest) → read (l ++ more) = some (b, rest ++ more)
  read_shorter : ∀ l b rest, read l = some (b, rest) → rest.length < l.length

namespace Format

variable (F : Format α β)

/-- The values, and what is left over. -/
def readAll (l : List α) : List β × List α :=
  match _h : F.read l with
  | none => ([], l)
  | some (b, rest) => (b :: (readAll rest).1, (readAll rest).2)
termination_by l.length
decreasing_by all_goals exact F.read_shorter l b rest ‹_›

variable {F}

theorem readAll_none {l : List α} (h : F.read l = none) : F.readAll l = ([], l) := by
  unfold readAll
  split
  · rfl
  · next heq =>
    rw [h] at heq
    cases heq

theorem readAll_some {l rest : List α} {b : β} (h : F.read l = some (b, rest)) :
    F.readAll l = (b :: (F.readAll rest).1, (F.readAll rest).2) := by
  rw [readAll]
  split
  · next heq =>
    rw [h] at heq
    cases heq
  · next heq =>
    rw [h] at heq
    obtain ⟨rfl, rfl⟩ := Prod.mk.inj (Option.some.inj heq)
    rfl

/-- Of a value whose end is missing nothing is read. -/
theorem read_cut {b : β} {head rest : List α} (hfits : F.Fits b) (h : F.bytes b = head ++ rest)
    (hrest : rest ≠ []) : F.read head = none := by
  rw [Option.eq_none_iff_forall_ne_some]
  rintro ⟨c, left⟩ hread
  have hmore := F.read_more head c left rest hread
  have hwhole := F.read_bytes b [] hfits
  rw [List.append_nil, h, hmore] at hwhole
  have hnil := (Prod.mk.inj (Option.some.inj hwhole)).2
  exact hrest (List.append_eq_nil_iff.mp hnil).2

/-- **Values are read as they were written**: of a part of their text the first ones, of all of it all. -/
theorem readAll_begins (bs : List β) (hfits : ∀ b ∈ bs, F.Fits b) {got : List α}
    (hgot : got <+: bs.flatMap F.bytes) :
    ∃ n, (F.readAll got).1 = bs.take n ∧ (got = bs.flatMap F.bytes → bs.length ≤ n) := by
  induction bs generalizing got with
  | nil =>
    obtain rfl := List.prefix_nil.mp hgot
    refine ⟨0, ?_, fun _ => Nat.le_refl _⟩
    have hnone : F.read [] = none := by
      rw [Option.eq_none_iff_forall_ne_some]
      rintro ⟨b, rest⟩ hread
      exact absurd (F.read_shorter _ _ _ hread) (Nat.not_lt_zero _)
    rw [readAll_none hnone]
    rfl
  | cons b bs ih =>
    obtain ⟨hb, hbs⟩ := List.forall_mem_cons.mp hfits
    rw [List.flatMap_cons] at hgot ⊢
    by_cases hlen : (F.bytes b).length ≤ got.length
    · -- the first value is there
      obtain ⟨got', rfl⟩ := List.prefix_of_prefix_length_le (List.prefix_append _ _) hgot hlen
      obtain ⟨n, hn, hall⟩ := ih hbs ((List.prefix_append_right_inj _).mp hgot)
      refine ⟨n + 1, ?_, ?_⟩
      · rw [readAll_some (F.read_bytes b got' hb), hn]
        rfl
      · intro heq
        have := hall (List.append_cancel_left heq)
        rw [List.length_cons]
        omega
    · -- its end is missing
      obtain ⟨rest, hrest⟩ := List.prefix_of_prefix_length_le hgot (List.prefix_append _ _) (by omega)
      have hne : rest ≠ [] := by
        rintro rfl
        rw [List.append_nil] at hrest
        rw [hrest] at hlen
        exact hlen (Nat.le_refl _)
      refine ⟨0, ?_, ?_⟩
      · rw [readAll_none (read_cut hb hrest.symm hne)]
        rfl
      · intro heq
        rw [heq, List.length_append] at hlen
        omega

end Format

/-! ## Texts with holes -/

/-- The parts with the holes between them. -/
def fill : List (List α) → List (List α) → List α
  | [], _ => []
  | part :: _, [] => part
  | part :: parts, hole :: holes => part ++ (hole ++ fill parts holes)

theorem fill_take {part : List α} {parts : List (List α)} {holes : List (List α)} {n : ℕ} (hn : n ≤ part.length) :
    (fill (part :: parts) holes).take n = part.take n := by
  cases holes with
  | nil => rfl
  | cons hole holes => exact List.take_append_of_le_length hn

/-- A part ends the hole before it: it begins with an element that is in no hole. -/
def Stops (p : α → Bool) (part : List α) : Prop := part.head?.any (fun a => !p a) = true

instance (p : α → Bool) (part : List α) : Decidable (Stops p part) :=
  inferInstanceAs (Decidable (part.head?.any (fun a => !p a) = true))

theorem Stops.head {p : α → Bool} {part : List α} (h : Stops p part) :
    ∃ a tail, part = a :: tail ∧ p a = false := by
  cases part with
  | nil => cases h
  | cons a tail => exact ⟨a, tail, rfl, Bool.not_eq_true' (p a) |>.mp h⟩

theorem Stops.append {p : α → Bool} {part : List α} (h : Stops p part) (t : List α) : Stops p (part ++ t) := by
  obtain ⟨a, tail, rfl, -⟩ := h.head
  exact h

theorem Stops.fill {p : α → Bool} {part : List α} (h : Stops p part) (parts holes : List (List α)) :
    Stops p (fill (part :: parts) holes) := by
  cases holes with
  | nil => exact h
  | cons hole holes => exact h.append _

theorem append_inj_of_stops {p : α → Bool} {hole hole' t t' : List α} (hhole : ∀ a ∈ hole, p a = true)
    (hhole' : ∀ a ∈ hole', p a = true) (ht : Stops p t) (ht' : Stops p t') (h : hole ++ t = hole' ++ t') :
    hole = hole' ∧ t = t' := by
  have htake : ∀ {hole t : List α}, (∀ b ∈ hole, p b = true) → Stops p t → (hole ++ t).takeWhile p = hole := by
    intro hole t hhole ht
    obtain ⟨a, tail, rfl, ha⟩ := ht.head
    rw [List.takeWhile_append_of_pos hhole, List.takeWhile_cons_of_neg (by rw [ha]; exact Bool.false_ne_true),
      List.append_nil]
  have hholes := congrArg (List.takeWhile p) h
  rw [htake hhole ht, htake hhole' ht'] at hholes
  subst hholes
  exact ⟨rfl, List.append_cancel_left h⟩

/-- **The text determines its holes.** -/
theorem fill_inj {p : α → Bool} {part : List α} {parts : List (List α)} (hparts : ∀ q ∈ parts, Stops p q)
    {holes holes' : List (List α)} (hlen : holes.length = parts.length) (hlen' : holes'.length = parts.length)
    (hholes : ∀ hole ∈ holes, ∀ a ∈ hole, p a = true) (hholes' : ∀ hole ∈ holes', ∀ a ∈ hole, p a = true)
    (h : fill (part :: parts) holes = fill (part :: parts) holes') : holes = holes' := by
  induction parts generalizing part holes holes' with
  | nil => rw [List.length_eq_zero_iff.mp hlen, List.length_eq_zero_iff.mp hlen']
  | cons q parts ih =>
    obtain ⟨hole, holes, rfl⟩ := List.exists_cons_of_length_eq_add_one hlen
    obtain ⟨hole', holes', rfl⟩ := List.exists_cons_of_length_eq_add_one hlen'
    obtain ⟨hq, hrests⟩ := List.forall_mem_cons.mp hparts
    obtain ⟨hhole, hleft⟩ := List.forall_mem_cons.mp hholes
    obtain ⟨hhole', hleft'⟩ := List.forall_mem_cons.mp hholes'
    obtain ⟨rfl, hrest⟩ := append_inj_of_stops hhole hhole' (hq.fill parts holes) (hq.fill parts holes')
      (List.append_cancel_left h)
    rw [ih hrests (Nat.succ.inj hlen) (Nat.succ.inj hlen') hleft hleft' hrest]

end Framing
