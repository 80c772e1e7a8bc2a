import Waypad.Input.Commands
import Waypad.Lib.Abrupt
import Waypad.Screen.Monitors

/-!
# Waypad.Input.Setup — what the virtual devices announce (`src/uinput.rs`, `src/gamepad.rs`)

A `uinput` device names the events it will send before it is made, with the range of each axis; the kernel
drops an event that has not been named.  The setups stand in one place of the source and the writes in many
others.

* `UinputSetup`: what the kernel is told; `relativePointer`, `absolutePointer`, `virtualKeyboard`,
  `virtualGamepad`.
* `Takes`: the event has been announced, and has a value in its range.
* `button_taken`, `key_taken`, `padButton_taken`, `axis_taken`, `absolute_taken`: the events of the source.
* `Reported`: nothing waits for a `SYN_REPORT`, unless the kernel has refused a write.
-/

namespace Waypad

open Abrupt

/-! ## The setups -/

/-- `UInputUserDev` and the bits that are set beside it. -/
structure UinputSetup where
  name : String
  bustype : ℕ
  vendor : ℕ
  product : ℕ
  version : ℕ
  evbits : List ℕ
  keybits : List ℕ
  relbits : List ℕ
  absbits : List ℕ
  propbits : List ℕ
  absmax : ℕ → ℤ
  absmin : ℕ → ℤ
  absfuzz : ℕ → ℤ
  absflat : ℕ → ℤ

namespace UinputSetup

/-- `UInputUserDev::named`; no name here is as long as `UINPUT_MAX_NAME_SIZE`. -/
def named (name : String) : UinputSetup :=
  { name, bustype := 0, vendor := 0, product := 0, version := 0, evbits := [], keybits := [], relbits := []
    absbits := [], propbits := [], absmax := fun _ => 0, absmin := fun _ => 0, absfuzz := fun _ => 0
    absflat := fun _ => 0 }

/-- The four lines after it. -/
def usb (self : UinputSetup) (product : ℕ) : UinputSetup :=
  { self with bustype := 0x03, vendor := 0x1209, product, version := 1 }

/-- `configure_axis`. -/
def configureAxis (self : UinputSetup) (code : ℕ) (min max flat fuzz : ℤ) : UinputSetup :=
  { self with
    absmin := Function.update self.absmin code min
    absmax := Function.update self.absmax code max
    absflat := Function.update self.absflat code flat
    absfuzz := Function.update self.absfuzz code fuzz }

end UinputSetup

/-- `create_relative_pointer`. -/
def relativePointer : UinputSetup :=
  { (UinputSetup.named "Waypad Virtual Pointer").usb 0x5752 with
    evbits := [evKey, evRel]
    keybits := [btnLeft, btnRight, btnMiddle]
    relbits := [relX, relY, relWheel, relHwheel, relWheelHiRes, relHwheelHiRes] }

/-- `create_absolute_pointer`. -/
def absolutePointer : UinputSetup :=
  { (UinputSetup.named "Waypad Virtual Absolute Pointer").usb 0x5753 with
    evbits := [evKey, evAbs]
    keybits := [btnLeft, btnRight, btnMiddle]
    absbits := [ABS_X, ABS_Y]
    propbits := [0x00]
    absmax := Function.update (Function.update (fun _ => 0) ABS_X ABS_RANGE_MAX) ABS_Y
      ABS_RANGE_MAX }

/-- `create_keyboard`. -/
def virtualKeyboard : UinputSetup :=
  { (UinputSetup.named "Waypad Virtual Keyboard").usb 0x5754 with
    evbits := [evKey]
    keybits := List.range' 1 Key.max }

/-- `VirtualGamepadBackend::create`. -/
def virtualGamepad : UinputSetup :=
  ({ (UinputSetup.named "Waypad Android Virtual Gamepad").usb 0x5750 with
    evbits := [evKey, evAbs]
    keybits := BUTTONS.map Prod.snd
    absbits := AXES.map Prod.snd }
    |>.configureAxis 0x00 (-STICK_MAX) STICK_MAX 4096 0
    |>.configureAxis 0x01 (-STICK_MAX) STICK_MAX 4096 0
    |>.configureAxis 0x03 (-STICK_MAX) STICK_MAX 4096 0
    |>.configureAxis 0x04 (-STICK_MAX) STICK_MAX 4096 0
    |>.configureAxis 0x02 0 STICK_MAX 0 0
    |>.configureAxis 0x05 0 STICK_MAX 0 0
    |>.configureAxis 0x10 (-1) 1 0 0
    |>.configureAxis 0x11 (-1) 1 0 0)

/-! ## What the kernel passes on -/

namespace UinputSetup

/-- The event has been announced, and its value is one that such an event can have. -/
inductive Takes (setup : UinputSetup) : InputEvent → Prop
  | syn : Takes setup .syn
  | key {code : ℕ} {value : ℤ} (bit : evKey ∈ setup.evbits) (announced : code ∈ setup.keybits)
      (state : value = 0 ∨ value = 1) : Takes setup (.key code value)
  /-- a movement by nothing is dropped -/
  | rel {code : ℕ} {value : ℤ} (bit : evRel ∈ setup.evbits) (announced : code ∈ setup.relbits) (moved : value ≠ 0)
      (fits : -2 ^ 31 ≤ value ∧ value < 2 ^ 31) : Takes setup (.rel code value)
  | abs {code : ℕ} {value : ℤ} (bit : evAbs ∈ setup.evbits) (announced : code ∈ setup.absbits)
      (range : setup.absmin code ≤ value ∧ value ≤ setup.absmax code) : Takes setup (.abs code value)

end UinputSetup

open UinputSetup

theorem button_taken (button : PointerButton) (state : ButtonState) :
    relativePointer.Takes (.key button.uinputCode state.uinputValue) := by
  apply Takes.key
  · decide
  · cases button <;> decide
  · cases state <;> decide

/-- A key of the keyboard; Shift is one of them. -/
theorem key_taken {code : ℕ} (h : 1 ≤ code ∧ code ≤ Key.max) {value : ℤ} (hvalue : value = 0 ∨ value = 1) :
    virtualKeyboard.Takes (.key code value) := by
  refine .key (by decide) ?_ hvalue
  show code ∈ List.range' 1 Key.max
  rw [List.mem_range'_1]
  omega

theorem shift_taken {value : ℤ} (hvalue : value = 0 ∨ value = 1) :
    virtualKeyboard.Takes (.key Key.leftShift value) :=
  key_taken (by decide) hvalue

theorem state_value (state : ButtonState) : state.uinputValue = 0 ∨ state.uinputValue = 1 := by
  cases state <;> decide

/-- The bit of an entry of a table. -/
theorem codeOf_mem {table : List (String × ℕ)} {name : String} {code : ℕ} (h : codeOf table name = some code) :
    (name, code) ∈ table := by
  obtain ⟨entry, hentry, hcode⟩ := List.exists_of_findSome?_eq_some h
  split_ifs at hcode with hname
  obtain ⟨entryName, entryCode⟩ := entry
  obtain rfl : entryName = name := hname
  obtain rfl : entryCode = code := Option.some.inj hcode
  exact hentry

theorem buttonCode_codeOf {button : String} {code : ℕ} (h : buttonCode button = .ok code) :
    codeOf BUTTONS button = some code := by
  unfold buttonCode at h
  split at h
  · next found hfound => rw [hfound, Except.ok.inj h]
  · cases h

theorem axisCode_codeOf {axis : String} {code : ℕ} (h : axisCode axis = .ok code) :
    codeOf AXES axis = some code := by
  unfold axisCode at h
  split at h
  · next found hfound => rw [hfound, Except.ok.inj h]
  · cases h

theorem padButton_taken {name : String} {code : ℕ} (h : (name, code) ∈ BUTTONS) {value : ℤ}
    (hvalue : value = 0 ∨ value = 1) : virtualGamepad.Takes (.key code value) :=
  .key (by decide) (List.mem_map_of_mem h) hvalue

theorem roundCoord_within {x : ℚ} {low high : ℤ} (hlow : low ≤ x) (hhigh : x ≤ high) :
    low ≤ roundCoord x ∧ roundCoord x ≤ high := by
  rw [roundCoord_eq_away]
  refine ⟨?_, Round.away_le hhigh⟩
  calc low = Round.away (low : ℚ) := (Round.away_intCast low).symm
    _ ≤ Round.away x := Round.away_mono hlow

/-- What `scale_axis` makes of the value first. -/
def clampAxis (value : ℚ) : ℚ := max (-1) (min value 1)

theorem clampAxis_mem (value : ℚ) : -1 ≤ clampAxis value ∧ clampAxis value ≤ 1 :=
  ⟨le_max_left _ _, max_le (by norm_num) (min_le_right _ _)⟩

/-- The rounded product of a number between two bounds. -/
theorem product_within {t : ℚ} (low : ℤ) (hlow : low ≤ t) (hnear : -1 ≤ low) (hhigh : t ≤ 1) :
    low * STICK_MAX ≤ roundCoord (Binary64.round (t * STICK_MAX)) ∧
      roundCoord (Binary64.round (t * STICK_MAX)) ≤ STICK_MAX := by
  have hnear' : (-1 : ℚ) ≤ low := by exact_mod_cast hnear
  have hsmall : |t * (STICK_MAX : ℚ)| < 2 ^ 53 := by
    rw [abs_lt]
    simp only [STICK_MAX]
    push_cast
    constructor <;> linarith
  apply roundCoord_within
  · refine Binary64.le_round hsmall ?_
    simp only [STICK_MAX]
    push_cast
    linarith
  · refine Binary64.round_le hsmall ?_
    simp only [STICK_MAX]
    push_cast
    linarith

theorem stick_within (value : ℚ) :
    -STICK_MAX ≤ roundCoord (Binary64.round (clampAxis value * STICK_MAX)) ∧
      roundCoord (Binary64.round (clampAxis value * STICK_MAX)) ≤ STICK_MAX := by
  obtain ⟨hlow, hhigh⟩ := clampAxis_mem value
  have h := product_within (-1) (by exact_mod_cast hlow) le_rfl hhigh
  rwa [neg_one_mul] at h

theorem trigger_within (value : ℚ) :
    0 ≤ roundCoord (Binary64.round (max (clampAxis value) 0 * STICK_MAX)) ∧
      roundCoord (Binary64.round (max (clampAxis value) 0 * STICK_MAX)) ≤ STICK_MAX := by
  have hlow : (0 : ℚ) ≤ max (clampAxis value) 0 := le_max_right _ _
  have hhigh : max (clampAxis value) 0 ≤ 1 := max_le (clampAxis_mem value).2 zero_le_one
  have h := product_within 0 (by exact_mod_cast hlow) (by omega) hhigh
  rwa [zero_mul] at h

theorem hat_within (value : ℚ) : -1 ≤ roundCoord (clampAxis value) ∧ roundCoord (clampAxis value) ≤ 1 := by
  obtain ⟨hlow, hhigh⟩ := clampAxis_mem value
  apply roundCoord_within
  · push_cast
    exact hlow
  · push_cast
    exact hhigh

theorem axis_taken {axis : String} {code : ℕ} (h : (axis, code) ∈ AXES) (value : ℚ) :
    virtualGamepad.Takes (.abs code (scaleAxis axis value)) := by
  refine .abs (by decide) (List.mem_map_of_mem h) ?_
  simp only [AXES, List.mem_cons, Prod.mk.injEq, List.not_mem_nil, or_false] at h
  rcases h with ⟨rfl, rfl⟩ | ⟨rfl, rfl⟩ | ⟨rfl, rfl⟩ | ⟨rfl, rfl⟩ | ⟨rfl, rfl⟩ | ⟨rfl, rfl⟩ | ⟨rfl, rfl⟩ |
    ⟨rfl, rfl⟩
  -- the sticks, the triggers and the hat
  · exact stick_within value
  · exact stick_within value
  · exact stick_within value
  · exact stick_within value
  · exact trigger_within value
  · exact trigger_within value
  · exact hat_within value
  · exact hat_within value

theorem absolute_taken (bounds : DesktopBounds) (x y : ℚ) :
    absolutePointer.Takes (.abs ABS_X (bounds.toAbs x y).1) ∧
      absolutePointer.Takes (.abs ABS_Y (bounds.toAbs x y).2) := by
  obtain ⟨hx, hy⟩ := bounds.toAbs_range x y
  exact ⟨.abs (by decide) (by decide) hx, .abs (by decide) (by decide) hy⟩

/-! ## Reports -/

/-- Nothing waits for a `SYN_REPORT`, unless the kernel has refused a write. -/
def Reported (accepts : ℕ → Bool) (writes : ℕ) (log : List InputEvent) : Prop :=
  (∃ i < writes, accepts i = false) ∨ ∀ event, log.getLast? = some event → event = .syn

section Reported

variable {accepts : ℕ → Bool} {writes : ℕ} {log : List InputEvent}

theorem reported_nil : Reported accepts writes [] := by
  refine Or.inr (fun event h => ?_)
  cases h

theorem reported_syn : Reported accepts writes (log ++ [.syn]) := by
  refine Or.inr (fun event h => ?_)
  rw [List.getLast?_concat] at h
  exact (Option.some.inj h).symm

/-- The write that was refused stays so. -/
theorem Reported.later (h : Reported accepts writes log) : Reported accepts (writes + 1) log := by
  rcases h with ⟨i, hi, hrefused⟩ | hreported
  · exact Or.inl ⟨i, by omega, hrefused⟩
  · exact Or.inr hreported

theorem reported_refused (h : ¬ accepts writes = true) : Reported accepts (writes + 1) log :=
  Or.inl ⟨writes, by omega, Bool.eq_false_of_not_eq_true h⟩

/-- A kernel that takes every write. -/
theorem Reported.last (h : Reported accepts writes log) (hok : ∀ i, accepts i = true) {event : InputEvent}
    (hlast : log.getLast? = some event) : event = .syn := by
  rcases h with ⟨i, -, hrefused⟩ | hreported
  · rw [hok i] at hrefused
    cases hrefused
  · exact hreported event hlast

end Reported

/-- One more event that is taken. -/
theorem takes_append {setup : UinputSetup} {log : List InputEvent} {event : InputEvent}
    (h : ∀ e ∈ log, setup.Takes e) (hevent : setup.Takes event) : ∀ e ∈ log ++ [event], setup.Takes e := by
  intro e he
  rcases List.mem_append.mp he with hold | hnew
  · exact h e hold
  · rw [List.mem_singleton.mp hnew]
    exact hevent

/-- The state an operation ends in, when both of its ends keep a property. -/
theorem Outcome.state_post {σ : Type} {Q : σ → Prop} {result : Outcome σ σ} (h : Post Q Q result) :
    Q result.state := by
  cases result with
  | ok next => exact h
  | error stop => exact h

end Waypad
