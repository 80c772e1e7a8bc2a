import Mathlib.Data.List.TakeDrop
import Mathlib.Logic.Function.Basic

/-!
# Waypad.Lib.Files — names, inodes and their bytes

A name leads to an inode, an open file is an inode, and a `rename` moves a name while the inode stays
open for whoever has it open.

* `Files`: a directory and its inodes; `write`, `openTrunc`, `rename`.
* `WellFormed`: no inode has two names; kept by the three operations.
* `Kept src files files'`: the inodes that do not stand under `src` are as they were.
-/

structure Files (N : Type*) where
  names : N → Option ℕ
  bytes : ℕ → List UInt8
  /-- the next inode -/
  fresh : ℕ

namespace Files

variable {N : Type*} {files : Files N} {src dst n : N} {i j off : ℕ} {part : List UInt8}

/-- A part is written at an offset; a gap before it is filled with zeros. -/
def overwrite (old : List UInt8) (off : ℕ) (part : List UInt8) : List UInt8 :=
  old.take off ++ List.replicate (off - old.length) 0 ++ part ++ old.drop (off + part.length)

/-- `write` on an open file. -/
def write (files : Files N) (i off : ℕ) (part : List UInt8) : Files N :=
  { files with bytes := Function.update files.bytes i (overwrite (files.bytes i) off part) }

/-- Every name leads to an inode of its own. -/
structure WellFormed (files : Files N) : Prop where
  old : ∀ n i, files.names n = some i → i < files.fresh
  inj : ∀ n m i, files.names n = some i → files.names m = some i → n = m

/-- What happens to the file `src` leaves the other inodes alone. -/
structure Kept (src : N) (files files' : Files N) : Prop where
  fresh : files.fresh ≤ files'.fresh
  bytes : ∀ i < files.fresh, files.names src ≠ some i → files'.bytes i = files.bytes i
  names : ∀ i < files.fresh, files.names src ≠ some i → files'.names src ≠ some i

theorem Kept.refl (src : N) (files : Files N) : Kept src files files :=
  ⟨Nat.le_refl _, fun _ _ _ => rfl, fun _ _ h => h⟩

/-- Writing on at the end. -/
theorem overwrite_end {old : List UInt8} (h : old.length = off) : overwrite old off part = old ++ part := by
  subst h
  unfold overwrite
  rw [List.take_length, Nat.sub_self, List.replicate_zero, List.append_nil,
    List.drop_eq_nil_of_le (Nat.le_add_right _ _), List.append_nil]

/-! ## `write` -/

theorem WellFormed.write (h : files.WellFormed) (i off : ℕ) (part : List UInt8) :
    (files.write i off part).WellFormed := ⟨h.old, h.inj⟩

@[simp] theorem write_names : (files.write i off part).names = files.names := rfl

theorem write_bytes : (files.write i off part).bytes i = overwrite (files.bytes i) off part :=
  Function.update_self _ _ _

theorem write_kept (h : files.names n = some i) (off : ℕ) (part : List UInt8) :
    Kept n files (files.write i off part) := by
  refine ⟨Nat.le_refl _, ?_, fun _ _ hj => hj⟩
  intro j _ hj
  refine Function.update_of_ne ?_ _ _
  rintro rfl
  exact hj h

variable [DecidableEq N]

/-! ## `openTrunc` -/

/-- `open` with `O_CREAT | O_TRUNC`. -/
def openTrunc (files : Files N) (n : N) : Files N × ℕ :=
  match files.names n with
  | some i => ({ files with bytes := Function.update files.bytes i [] }, i)
  | none =>
    ({ names := Function.update files.names n (some files.fresh)
       bytes := Function.update files.bytes files.fresh []
       fresh := files.fresh + 1 }, files.fresh)

theorem openTrunc_names (files : Files N) (n : N) :
    (files.openTrunc n).1.names n = some (files.openTrunc n).2 := by
  unfold openTrunc
  split
  · next i hn => exact hn
  · exact Function.update_self _ _ _

theorem openTrunc_names_of_ne {m : N} (h : m ≠ n) : (files.openTrunc n).1.names m = files.names m := by
  unfold openTrunc
  split
  · rfl
  · exact Function.update_of_ne h _ _

theorem openTrunc_bytes (files : Files N) (n : N) :
    (files.openTrunc n).1.bytes (files.openTrunc n).2 = [] := by
  unfold openTrunc
  split <;> exact Function.update_self _ _ _

/-- The opened inode is none of the others. -/
theorem openTrunc_ne (hi : i < files.fresh) (hn : files.names n ≠ some i) : i ≠ (files.openTrunc n).2 := by
  unfold openTrunc
  split
  · next j hj =>
    rintro rfl
    exact hn hj
  · show i ≠ files.fresh
    omega

theorem openTrunc_kept (files : Files N) (n : N) : Kept n files (files.openTrunc n).1 := by
  refine ⟨?_, ?_, ?_⟩
  · unfold openTrunc
    split
    · exact Nat.le_refl _
    · exact Nat.le_succ _
  · intro i hi hn
    have hne := openTrunc_ne hi hn
    unfold openTrunc at hne ⊢
    split at hne <;> exact Function.update_of_ne hne _ _
  · intro i hi hn hsome
    rw [openTrunc_names] at hsome
    exact openTrunc_ne hi hn (Option.some.inj hsome).symm

theorem WellFormed.openTrunc (h : files.WellFormed) (n : N) : (files.openTrunc n).1.WellFormed := by
  unfold Files.openTrunc
  split
  · exact ⟨h.old, h.inj⟩
  · -- only the opened name is new, and its inode is one that no name has
    have hcases : ∀ m i, Function.update files.names n (some files.fresh) m = some i →
        m = n ∧ i = files.fresh ∨ m ≠ n ∧ files.names m = some i := by
      intro m i hm
      by_cases hmn : m = n
      · subst hmn
        rw [Function.update_self] at hm
        exact Or.inl ⟨rfl, (Option.some.inj hm).symm⟩
      · rw [Function.update_of_ne hmn] at hm
        exact Or.inr ⟨hmn, hm⟩
    refine ⟨?_, ?_⟩
    · intro m i hm
      show i < files.fresh + 1
      rcases hcases m i hm with ⟨-, rfl⟩ | ⟨-, hold⟩
      · omega
      · have := h.old m i hold
        omega
    · intro m m' i hm hm'
      rcases hcases m i hm with ⟨rfl, rfl⟩ | ⟨-, hold⟩
      · rcases hcases m' files.fresh hm' with ⟨rfl, -⟩ | ⟨-, hold'⟩
        · rfl
        · exact absurd (h.old m' _ hold') (Nat.lt_irrefl _)
      · rcases hcases m' i hm' with ⟨rfl, rfl⟩ | ⟨-, hold'⟩
        · exact absurd (h.old m _ hold) (Nat.lt_irrefl _)
        · exact h.inj m m' i hold hold'

/-! ## `rename` -/

/-- `rename`, which fails when there is nothing under `src`. -/
def rename (files : Files N) (src dst : N) : Option (Files N) :=
  (files.names src).map (fun i =>
    { files with names := Function.update (Function.update files.names src none) dst (some i) })

/-- What `rename` does when it succeeds. -/
theorem rename_spec (hne : src ≠ dst) {files' : Files N} (h : files.rename src dst = some files') :
    ∃ i, files.names src = some i ∧ files'.names src = none ∧ files'.names dst = some i ∧
      (∀ m, m ≠ src → m ≠ dst → files'.names m = files.names m) ∧ files'.bytes = files.bytes ∧
      files'.fresh = files.fresh := by
  obtain ⟨i, hi, rfl⟩ := Option.map_eq_some_iff.mp h
  refine ⟨i, hi, ?_, Function.update_self _ _ _, ?_, rfl, rfl⟩
  · show Function.update (Function.update files.names src none) dst (some i) src = none
    rw [Function.update_of_ne hne, Function.update_self]
  · intro m hsrc hdst
    show Function.update (Function.update files.names src none) dst (some i) m = files.names m
    rw [Function.update_of_ne hdst, Function.update_of_ne hsrc]

theorem rename_kept (hne : src ≠ dst) {files' : Files N} (h : files.rename src dst = some files') :
    Kept src files files' := by
  obtain ⟨i, -, hsrc, -, -, hbytes, hfresh⟩ := rename_spec hne h
  refine ⟨Nat.le_of_eq hfresh.symm, fun j _ _ => by rw [hbytes], fun j _ _ hsome => ?_⟩
  rw [hsrc] at hsome
  cases hsome

theorem WellFormed.rename (h : files.WellFormed) (hne : src ≠ dst) {files' : Files N}
    (hr : files.rename src dst = some files') : files'.WellFormed := by
  obtain ⟨i, hi, hsrc, hdst, hother, -, hfresh⟩ := rename_spec hne hr
  -- every name of the new directory is one of the old, with the same inode
  have hback : ∀ m j, files'.names m = some j → ∃ m', files.names m' = some j ∧ (m = dst ∧ m' = src ∨
      m ≠ dst ∧ m ≠ src ∧ m' = m) := by
    intro m j hm
    by_cases hmd : m = dst
    · subst hmd
      rw [hdst] at hm
      exact ⟨src, hi.trans hm, Or.inl ⟨rfl, rfl⟩⟩
    · by_cases hms : m = src
      · subst hms
        rw [hsrc] at hm
        cases hm
      · exact ⟨m, (hother m hms hmd).symm.trans hm, Or.inr ⟨hmd, hms, rfl⟩⟩
  refine ⟨?_, ?_⟩
  · intro m j hm
    obtain ⟨m', hm', -⟩ := hback m j hm
    rw [hfresh]
    exact h.old m' j hm'
  · intro m1 m2 j h1 h2
    obtain ⟨m1', h1', hcase1⟩ := hback m1 j h1
    obtain ⟨m2', h2', hcase2⟩ := hback m2 j h2
    have hsame := h.inj m1' m2' j h1' h2'
    subst hsame
    rcases hcase1 with ⟨rfl, rfl⟩ | ⟨-, hn1, rfl⟩
    · rcases hcase2 with ⟨rfl, -⟩ | ⟨-, hn2, rfl⟩
      · rfl
      · exact absurd rfl hn2
    · rcases hcase2 with ⟨-, rfl⟩ | ⟨-, -, rfl⟩
      · exact absurd rfl hn1
      · rfl

end Files
