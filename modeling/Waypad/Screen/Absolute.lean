import Mathlib.Data.Int.Interval
import Waypad.Screen.Monitors
import Waypad.Screen.PortalSize

/-!
# Waypad.Screen.Absolute — the pixels of the desktop on the absolute range (`DesktopBounds::to_abs`)

The device has 65536 places in each direction, whatever the size of the desktop.

* `along`: one direction of `to_abs`; `along_mono`, `along_strictMonoOn`, `along_injOn_iff`.
* `pixels`: the whole numbers from the origin to the far edge.
* `toAbs_faithful`: the order of the points is kept, and up to 65535 pixels no two of them share a place.
-/

namespace Waypad

open Set

namespace DesktopBounds

/-! ## One direction -/

/-- What `to_abs` makes of a coordinate, in the direction with this origin and size. -/
def along (origin : Int32) (size : UInt32) (v : ℚ) : ℤ :=
  scaleToAbsRange ((v - origin.toInt) / (max size 1).toNat)

theorem toAbs_eq_along (self : DesktopBounds) (x y : ℚ) :
    self.toAbs x y = (along self.x self.width x, along self.y self.height y) := rfl

/-- The whole numbers from the origin to the far edge. -/
def span (origin : Int32) (size : UInt32) : Set ℤ := Icc origin.toInt (origin.toInt + size.toNat)

variable {origin : Int32} {size : UInt32}

theorem along_mem (v : ℚ) : along origin size v ∈ Icc 0 ABS_RANGE_MAX := scaleToAbsRange_range _

theorem along_mono : Monotone (along origin size) := by
  intro v w hvw
  apply Round.mark_mono (by norm_num [ABS_RANGE_MAX])
  apply div_le_div_of_nonneg_right _ (Nat.cast_nonneg _)
  linarith

/-- Clamping and rounding lose no pixel, as the pixels are at least a step of the device apart. -/
theorem along_strictMonoOn (hsize : size.toNat ≤ 65535) :
    StrictMonoOn (fun i : ℤ => along origin size i) (span origin size) := by
  have hmax : (max size 1).toNat = max size.toNat 1 := max_toNat size 1
  have hrange : ((max size 1).toNat : ℤ) ≤ ABS_RANGE_MAX := by
    rw [hmax]
    show ((max size.toNat 1 : ℕ) : ℤ) ≤ 65535
    omega
  have hin : ∀ i ∈ span origin size, i - origin.toInt ∈ Icc (0 : ℤ) ((max size 1).toNat : ℤ) := by
    rintro i ⟨hlow, hhigh⟩
    rw [hmax]
    constructor <;> omega
  intro i hi j hj hij
  have hstep := Round.mark_strictMonoOn (α := ℚ) hrange (hin i hi) (hin j hj) (by omega)
  simp only [Int.cast_sub, Int.cast_natCast] at hstep
  exact hstep

/-- Of more pixels some share a place: there are 65536 of them. -/
theorem along_injOn_iff :
    InjOn (fun i : ℤ => along origin size i) (span origin size) ↔ size.toNat ≤ 65535 := by
  refine ⟨?_, fun hsize => (along_strictMonoOn hsize).injOn⟩
  intro hinj
  have hmaps : ∀ i ∈ Finset.Icc origin.toInt (origin.toInt + size.toNat),
      along origin size i ∈ Finset.Icc 0 ABS_RANGE_MAX := fun i _ => Finset.mem_Icc.mpr (along_mem i)
  have hinj' : InjOn (fun i : ℤ => along origin size i)
      (Finset.Icc origin.toInt (origin.toInt + size.toNat) : Set ℤ) := by
    rw [Finset.coe_Icc]
    exact hinj
  have hcard := Finset.card_le_card_of_injOn _ hmaps hinj'
  rw [Int.card_Icc, Int.card_Icc] at hcard
  simp only [ABS_RANGE_MAX] at hcard
  omega

/-! ## The desktop -/

/-- The pixels from the origin to the far corner. -/
def pixels (self : DesktopBounds) : Set (ℤ × ℤ) := span self.x self.width ×ˢ span self.y self.height

theorem toAbs_injOn {self : DesktopBounds} (hwidth : self.width.toNat ≤ 65535)
    (hheight : self.height.toNat ≤ 65535) :
    InjOn (fun pixel : ℤ × ℤ => self.toAbs pixel.1 pixel.2) self.pixels := by
  rintro ⟨i, j⟩ ⟨hi, hj⟩ ⟨i', j'⟩ ⟨hi', hj'⟩ heq
  simp only [toAbs_eq_along, Prod.mk.injEq] at heq
  have hcolumn : i = i' := along_injOn_iff.mpr hwidth hi hi' heq.1
  have hrow : j = j' := along_injOn_iff.mpr hheight hj hj' heq.2
  rw [hcolumn, hrow]

/-- **The desktop on the device**: every point is on it, the order is kept in both directions, and of up to
65535 pixels no two share a place. -/
theorem toAbs_faithful (self : DesktopBounds) :
    (∀ x y : ℚ, (self.toAbs x y).1 ∈ Icc 0 65535 ∧ (self.toAbs x y).2 ∈ Icc 0 65535) ∧
      (∀ y : ℚ, Monotone fun x : ℚ => (self.toAbs x y).1) ∧
      (∀ x : ℚ, Monotone fun y : ℚ => (self.toAbs x y).2) ∧
      (self.width.toNat ≤ 65535 → self.height.toNat ≤ 65535 →
        (∀ y : ℚ, StrictMonoOn (fun i : ℤ => (self.toAbs i y).1) (span self.x self.width)) ∧
        (∀ x : ℚ, StrictMonoOn (fun j : ℤ => (self.toAbs x j).2) (span self.y self.height)) ∧
        InjOn (fun pixel : ℤ × ℤ => self.toAbs pixel.1 pixel.2) self.pixels) := by
  simp only [toAbs_eq_along]
  refine ⟨fun x y => ⟨along_mem x, along_mem y⟩, fun _ => along_mono, fun _ => along_mono, ?_⟩
  intro hwidth hheight
  exact ⟨fun _ => along_strictMonoOn hwidth, fun _ => along_strictMonoOn hheight,
    toAbs_injOn hwidth hheight⟩

/-- Two monitors side by side, the left one left of the origin. -/
theorem toAbs_faithful_two_monitors :
    InjOn (fun pixel : ℤ × ℤ => (DesktopBounds.mk (-1920) 0 3840 1080).toAbs pixel.1 pixel.2)
      (DesktopBounds.mk (-1920) 0 3840 1080).pixels :=
  ((toAbs_faithful _).2.2.2 (by decide) (by decide)).2.2

end DesktopBounds

end Waypad
