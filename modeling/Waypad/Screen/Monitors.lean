import Waypad.Input.Caches
import Waypad.Screen.Envelope

/-!
# Waypad.Screen.Monitors — a point of a picture on the desktop (`src/screen.rs`, `src/uinput.rs`)

`hyprctl monitors -j` is read in two places: `hyprland_monitor_sources` offers each monitor as a source with
its size in physical pixels, `hyprland_desktop_bounds` makes of the same layout the box, in logical pixels,
that absolute pointing is mapped onto.  In between `pointer_move_absolute` turns a point of the picture into
one of the desktop.  Coordinates are rationals.

* `HyprlandMonitor`, `ScreenSource`, `hyprlandMonitorSources`.
* `DesktopBounds`, `hyprlandDesktopBounds`, `toAbs`; `toAbs_range`.
* `absoluteTarget`: the point that is handed on; `pointerMoveAbsolute`: what is written for it.
* `target_unscaled`: on a monitor with a scale of 2 it is not the one under the finger.
* `target_iff`: when it is.
-/

namespace Waypad

/-! ## The monitors -/

structure HyprlandMonitor where
  name : String
  description : String
  width : UInt32
  height : UInt32
  x : Int32
  y : Int32
  scale : ℚ
  focused : Bool
  disabled : Bool
  deriving DecidableEq, Repr

structure ScreenSource where
  id : String
  label : String
  kind : String
  backend : String
  width : UInt32
  height : UInt32
  x : Int32
  y : Int32
  scale : ℚ
  focused : Bool
  deriving DecidableEq, Repr

namespace HyprlandMonitor

/-- The closure of `hyprland_monitor_sources`. -/
def source (self : HyprlandMonitor) : ScreenSource :=
  { id := "hyprland:monitor:" ++ self.name
    label := self.name ++ " (" ++ self.description ++ ")"
    kind := "monitor"
    backend := "hyprland-grim"
    width := self.width
    height := self.height
    x := self.x
    y := self.y
    scale := self.scale
    focused := self.focused }

/-- The point of the desktop, in logical pixels, that a point of the picture in physical ones shows. -/
def logical (self : HyprlandMonitor) (x y : ℚ) : ℚ × ℚ :=
  (self.x.toInt + x / self.scale, self.y.toInt + y / self.scale)

/-- The point is on the monitor. -/
def Contains (self : HyprlandMonitor) (point : ℚ × ℚ) : Prop :=
  ((self.x.toInt : ℚ) ≤ point.1 ∧ point.1 < self.x.toInt + self.width.toNat / self.scale) ∧
    ((self.y.toInt : ℚ) ≤ point.2 ∧ point.2 < self.y.toInt + self.height.toNat / self.scale)

/-- `logical_width`. -/
def logicalWidth (self : HyprlandMonitor) : ℤ := roundCoord (self.width.toNat / max self.scale (1 / 10))

/-- `logical_height`. -/
def logicalHeight (self : HyprlandMonitor) : ℤ := roundCoord (self.height.toNat / max self.scale (1 / 10))

end HyprlandMonitor

/-- `hyprland_monitor_sources`. -/
def hyprlandMonitorSources (monitors : List HyprlandMonitor) : List ScreenSource :=
  (monitors.filter (fun monitor => !monitor.disabled)).map HyprlandMonitor.source

theorem mem_sources {monitors : List HyprlandMonitor} {source : ScreenSource} :
    source ∈ hyprlandMonitorSources monitors ↔
      ∃ monitor ∈ monitors, monitor.disabled = false ∧ monitor.source = source := by
  simp only [hyprlandMonitorSources, List.mem_map, List.mem_filter, Bool.not_eq_true', and_assoc]

/-- What `run_grim_stream_impl` hands `send_frame_grim` for a picture of the source. -/
def grimFrame (source : ScreenSource) (seq timestampMs : ℕ) (payload : List UInt8) : JpegFrame :=
  { seq, timestampMs, width := source.width, height := source.height, payload }

/-! ## The desktop -/

def ABS_RANGE_MAX : ℤ := 65535

structure DesktopBounds where
  x : Int32
  y : Int32
  width : UInt32
  height : UInt32
  deriving DecidableEq, Repr

/-- The four accumulators of `hyprland_desktop_bounds`. -/
structure LayoutBox where
  minX : ℤ
  minY : ℤ
  maxX : ℤ
  maxY : ℤ
  deriving DecidableEq, Repr

namespace LayoutBox

/-- `i64::MAX` and `i64::MIN`. -/
def start : LayoutBox :=
  { minX := 9223372036854775807, minY := 9223372036854775807
    maxX := -9223372036854775808, maxY := -9223372036854775808 }

/-- The body of the loop. -/
def add (self : LayoutBox) (monitor : HyprlandMonitor) : LayoutBox :=
  { minX := min self.minX monitor.x.toInt
    minY := min self.minY monitor.y.toInt
    maxX := max self.maxX (monitor.x.toInt + monitor.logicalWidth)
    maxY := max self.maxY (monitor.y.toInt + monitor.logicalHeight) }

end LayoutBox

/-- `hyprland_desktop_bounds`; a monitor that is disabled counts as well. -/
def hyprlandDesktopBounds (monitors : List HyprlandMonitor) : Option DesktopBounds :=
  let box := monitors.foldl LayoutBox.add .start
  if box.minX = 9223372036854775807 ∨ box.maxX ≤ box.minX ∨ box.maxY ≤ box.minY then none
  else some
    { x := Int32.ofInt box.minX
      y := Int32.ofInt box.minY
      width := UInt32.ofNat (box.maxX - box.minX).toNat
      height := UInt32.ofNat (box.maxY - box.minY).toNat }

namespace DesktopBounds

/-- `DesktopBounds::default`. -/
def default : DesktopBounds := { x := 0, y := 0, width := 1920, height := 1080 }

/-- `DesktopBounds::detect`, for the layout that `hyprctl` has printed. -/
def detect (monitors : List HyprlandMonitor) : DesktopBounds :=
  (hyprlandDesktopBounds monitors).getD default

/-- `scale_to_abs_range`. -/
def scaleToAbsRange (normalized : ℚ) : ℤ := roundCoord (max 0 (min normalized 1) * ABS_RANGE_MAX)

/-- `to_abs`. -/
def toAbs (self : DesktopBounds) (x y : ℚ) : ℤ × ℤ :=
  let width : ℚ := (max self.width 1).toNat
  let height : ℚ := (max self.height 1).toNat
  (scaleToAbsRange ((x - self.x.toInt) / width), scaleToAbsRange ((y - self.y.toInt) / height))

theorem scaleToAbsRange_eq_mark (normalized : ℚ) :
    scaleToAbsRange normalized = Round.mark ABS_RANGE_MAX normalized := rfl

theorem scaleToAbsRange_range (normalized : ℚ) :
    0 ≤ scaleToAbsRange normalized ∧ scaleToAbsRange normalized ≤ ABS_RANGE_MAX := by
  rw [scaleToAbsRange_eq_mark]
  exact Round.mark_mem (by norm_num [ABS_RANGE_MAX]) normalized

/-- The point written is on the device. -/
theorem toAbs_range (self : DesktopBounds) (x y : ℚ) :
    (0 ≤ (self.toAbs x y).1 ∧ (self.toAbs x y).1 ≤ ABS_RANGE_MAX) ∧
      0 ≤ (self.toAbs x y).2 ∧ (self.toAbs x y).2 ≤ ABS_RANGE_MAX :=
  ⟨scaleToAbsRange_range _, scaleToAbsRange_range _⟩

end DesktopBounds

/-! ## Absolute pointing -/

def ABS_X : ℕ := 0x00
def ABS_Y : ℕ := 0x01

/-- The absolute pointer of `VirtualDevices`. -/
structure AbsolutePointer where
  bounds : DesktopBounds
  absolute : List InputEvent
  writes : ℕ

namespace AbsolutePointer

/-- `emit_absolute`. -/
def emitAbsolute (env : InputEnv) (self : AbsolutePointer) (event : InputEvent) :
    Outcome AbsolutePointer AbsolutePointer :=
  if env.accepts self.writes then
    .ok { self with absolute := self.absolute ++ [event], writes := self.writes + 1 }
  else .error (.io, { self with writes := self.writes + 1 })

/-- `VirtualInputBackend::pointer_move_absolute`. -/
def pointerMoveAbsolute (env : InputEnv) (self : AbsolutePointer) (x y : ℚ) :
    Outcome AbsolutePointer AbsolutePointer := do
  let (absX, absY) := self.bounds.toAbs x y
  let self ← self.emitAbsolute env (.abs ABS_X absX)
  let self ← self.emitAbsolute env (.abs ABS_Y absY)
  self.emitAbsolute env .syn

end AbsolutePointer

/-- The point that `screen::pointer_move_absolute` hands the input manager. -/
def absoluteTarget (source : Option ScreenSource) (x y : ℚ) : Except InputError (ℚ × ℚ) :=
  if x < -100000 ∨ y < -100000 ∨ 100000 < x ∨ 100000 < y then
    .error (.message "Absolute pointer coordinate rejected as invalid")
  else match source with
  | some source =>
    if source.backend = "hyprland-grim" then .ok (source.x.toInt + x, source.y.toInt + y) else .ok (x, y)
  | none => .ok (x, y)

/-- `screen::pointer_move_absolute`, for the uinput backend. -/
def pointerMoveAbsolute (env : InputEnv) (self : AbsolutePointer) (source : Option ScreenSource) (x y : ℚ) :
    Outcome AbsolutePointer AbsolutePointer :=
  match absoluteTarget source x y with
  | .error err => .error (err, self)
  | .ok (x, y) => self.pointerMoveAbsolute env x y

/-! ## The point under the finger -/

/-- The point handed on is the one the picture shows there, and on the monitor. -/
def HandsLogical (monitor : HyprlandMonitor) (x y : ℚ) : Prop :=
  absoluteTarget (some monitor.source) x y = .ok (monitor.logical x y) ∧ monitor.Contains (monitor.logical x y)

section Target

variable {monitor : HyprlandMonitor} {x y : ℚ}

/-- A point of the picture shows a point of the monitor. -/
theorem contains_logical (hscale : 0 < monitor.scale) (hx : 0 ≤ x ∧ x < monitor.width.toNat)
    (hy : 0 ≤ y ∧ y < monitor.height.toNat) : monitor.Contains (monitor.logical x y) := by
  have hleft : 0 ≤ x / monitor.scale := div_nonneg hx.1 hscale.le
  have htop : 0 ≤ y / monitor.scale := div_nonneg hy.1 hscale.le
  have hright : x / monitor.scale < monitor.width.toNat / monitor.scale :=
    div_lt_div_of_pos_right hx.2 hscale
  have hbottom : y / monitor.scale < monitor.height.toNat / monitor.scale :=
    div_lt_div_of_pos_right hy.2 hscale
  unfold HyprlandMonitor.Contains HyprlandMonitor.logical
  refine ⟨⟨?_, ?_⟩, ?_, ?_⟩ <;> linarith

theorem target_source (hx : 0 ≤ x) (hy : 0 ≤ y) :
    absoluteTarget (some monitor.source) x y =
      if x ≤ 100000 ∧ y ≤ 100000 then .ok (monitor.x.toInt + x, monitor.y.toInt + y)
      else .error (.message "Absolute pointer coordinate rejected as invalid") := by
  have hleft : ¬ x < -100000 := by linarith
  have htop : ¬ y < -100000 := by linarith
  unfold absoluteTarget
  by_cases hright : x ≤ 100000
  · by_cases hbottom : y ≤ 100000
    · rw [if_neg (by simp only [hleft, htop, not_lt.mpr hright, not_lt.mpr hbottom, or_self, not_false_iff]),
        if_pos ⟨hright, hbottom⟩]
      exact if_pos rfl
    · rw [if_pos (Or.inr (Or.inr (Or.inr (not_le.mp hbottom)))), if_neg (fun h => hbottom h.2)]
  · rw [if_pos (Or.inr (Or.inr (Or.inl (not_le.mp hright)))), if_neg (fun h => hright h.1)]

/-- Scaling changes every coordinate but 0. -/
theorem div_scale {scale : ℚ} (hscale : 0 < scale) (v : ℚ) : v = v / scale ↔ v = 0 ∨ scale = 1 := by
  rw [eq_div_iff hscale.ne']
  refine ⟨?_, ?_⟩
  · intro h
    by_cases hv : v = 0
    · exact Or.inl hv
    · exact Or.inr (mul_left_cancel₀ hv (h.trans (mul_one v).symm))
  · rintro (rfl | rfl)
    · exact zero_mul _
    · exact mul_one v

end Target

/-- A monitor with four physical pixels for each logical one. -/
def retina : HyprlandMonitor :=
  { name := "eDP-1", description := "", width := 3840, height := 2160, x := 0, y := 0, scale := 2
    focused := true, disabled := false }

/-- **The cursor is elsewhere**: a point of the picture of a scaled monitor is handed on in physical
pixels. -/
theorem target_unscaled : retina.source ∈ hyprlandMonitorSources [retina] ∧
    absoluteTarget (some retina.source) 3000 1000 = .ok (3000, 1000) ∧
    retina.logical 3000 1000 = (1500, 500) ∧ ¬ retina.Contains (3000, 1000) := by
  have hx : retina.x.toInt = 0 := by decide
  have hy : retina.y.toInt = 0 := by decide
  have hwidth : retina.width.toNat = 3840 := rfl
  have hscale : retina.scale = 2 := rfl
  refine ⟨mem_sources.mpr ⟨retina, List.mem_cons_self, rfl, rfl⟩, ?_, ?_, ?_⟩
  · rw [target_source (by norm_num) (by norm_num), if_pos (by norm_num), hx, hy]
    norm_num
  · rw [HyprlandMonitor.logical, hx, hy, hscale]
    norm_num
  · rintro ⟨⟨-, hright⟩, -⟩
    rw [hx, hwidth, hscale] at hright
    norm_num at hright

/-- **Touching the picture**: a point of the frames of a monitor's source is handed on as the point of the
desktop it shows exactly when the monitor is not scaled, or the point is the corner, and neither coordinate
is above 100000. -/
theorem target_iff {monitors : List HyprlandMonitor} (hscale : ∀ monitor ∈ monitors, 1 / 10 < monitor.scale)
    {monitor : HyprlandMonitor} (hmonitor : monitor ∈ monitors) (seq timestampMs : ℕ) (payload : List UInt8)
    {x y : ℚ} (hx : 0 ≤ x ∧ x < (grimFrame monitor.source seq timestampMs payload).width.toNat)
    (hy : 0 ≤ y ∧ y < (grimFrame monitor.source seq timestampMs payload).height.toNat) :
    HandsLogical monitor x y ↔
      (monitor.scale = 1 ∨ x = 0 ∧ y = 0) ∧ x ≤ 100000 ∧ y ≤ 100000 := by
  have hpos : 0 < monitor.scale := by
    have h := hscale monitor hmonitor
    linarith
  have hcontains := contains_logical hpos hx hy
  unfold HandsLogical
  rw [and_iff_left hcontains, target_source hx.1 hy.1]
  -- a coordinate past the limit is refused
  by_cases hbound : x ≤ 100000 ∧ y ≤ 100000
  · rw [if_pos hbound, and_iff_left hbound]
    have hpoint : (Except.ok ((monitor.x.toInt : ℚ) + x, (monitor.y.toInt : ℚ) + y) :
        Except InputError (ℚ × ℚ)) = .ok (monitor.logical x y) ↔
          x = x / monitor.scale ∧ y = y / monitor.scale := by
      simp only [HyprlandMonitor.logical, Except.ok.injEq, Prod.mk.injEq, add_right_inj]
    rw [hpoint, div_scale hpos, div_scale hpos]
    tauto
  · rw [if_neg hbound]
    exact iff_of_false nofun (fun h => hbound h.2)

/-- An unscaled monitor to the right of the origin. -/
theorem target_demo : HandsLogical { retina with x := 1920, scale := 1 } 3000 1000 := by
  have hscale : ∀ monitor ∈ [{ retina with x := 1920, scale := 1 }], (1 : ℚ) / 10 < monitor.scale := by
    intro monitor hmonitor
    rw [List.mem_singleton] at hmonitor
    rw [hmonitor]
    norm_num
  have hwidth : (3000 : ℚ) < (3840 : ℕ) := by norm_num
  have hheight : (1000 : ℚ) < (2160 : ℕ) := by norm_num
  exact (target_iff hscale List.mem_cons_self 0 0 [] ⟨by norm_num, hwidth⟩ ⟨by norm_num, hheight⟩).mpr
    ⟨Or.inl rfl, by norm_num, by norm_num⟩

end Waypad
