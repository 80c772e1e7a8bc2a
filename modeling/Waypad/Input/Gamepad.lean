import Mathlib.Logic.Function.Basic
import Waypad.Input.Held
import Waypad.Lib.Binary64

/-!
# Waypad.Input.Gamepad — the virtual gamepad (`src/gamepad.rs`)

The device is made at the first event that needs it; a button or an axis that has its value already is not
written again.  `File::flush` does nothing and does not fail.

* `ControllerInputManager`: `button`, `axis`, `deviceConnected`, `deviceDisconnected`, `flushPending`.
* `Follows`: `button_state` is what the device holds, as long as the kernel takes every write.
* `button_leaves`, `axis_leaves`, `deviceConnected_leaves`, `deviceDisconnected_leaves`.
-/

namespace Waypad

/-- `BUTTONS`. -/
def BUTTONS : List (String × ℕ) :=
  [("a", 0x130), ("b", 0x131), ("x", 0x134), ("y", 0x133), ("c", 0x132), ("z", 0x135),
    ("left_shoulder", 0x136), ("right_shoulder", 0x137), ("left_trigger_button", 0x138),
    ("right_trigger_button", 0x139), ("select", 0x13a), ("start", 0x13b), ("mode", 0x13c),
    ("left_stick", 0x13d), ("right_stick", 0x13e), ("dpad_up", 0x220), ("dpad_down", 0x221),
    ("dpad_left", 0x222), ("dpad_right", 0x223)]

/-- `AXES`. -/
def AXES : List (String × ℕ) :=
  [("left_x", 0x00), ("left_y", 0x01), ("right_x", 0x03), ("right_y", 0x04), ("left_trigger", 0x02),
    ("right_trigger", 0x05), ("hat_x", 0x10), ("hat_y", 0x11)]

/-- `find_map` over one of the tables. -/
def codeOf (table : List (String × ℕ)) (name : String) : Option ℕ :=
  table.findSome? (fun entry => if entry.1 = name then some entry.2 else none)

/-- `button_code`. -/
def buttonCode (button : String) : Except InputError ℕ :=
  match codeOf BUTTONS button with
  | some code => .ok code
  | none => .error (.message ("Unsupported controller button: " ++ button))

/-- `axis_code`. -/
def axisCode (axis : String) : Except InputError ℕ :=
  match codeOf AXES axis with
  | some code => .ok code
  | none => .error (.message ("Unsupported controller axis: " ++ axis))

def STICK_MAX : ℤ := 32767

/-- `scale_axis`; the product of two doubles is rounded to a double before `f64::round` sees it. -/
def scaleAxis (axis : String) (value : ℚ) : ℤ :=
  let clamped := max (-1) (min value 1)
  match axis with
  | "left_trigger" | "right_trigger" => roundCoord (Binary64.round (max clamped 0 * STICK_MAX))
  | "hat_x" | "hat_y" => roundCoord clamped
  | _ => roundCoord (Binary64.round (clamped * STICK_MAX))

/-- The value lies below half a step of the axis, and its product is rounded up to half a step. -/
example : scaleAxis "left_x" (35185445863425 / 2305843009213693952) = 1 := by decide +kernel

namespace InputEvent

def abs (code : ℕ) (value : ℤ) : InputEvent := ⟨evAbs, code, value⟩

end InputEvent

@[simp] theorem effect_abs (code : ℕ) (value : ℤ) (k : ℕ) :
    (InputEvent.abs code value).effect k = none := by
  simp [InputEvent.effect, InputEvent.abs, evAbs, evKey]

structure VirtualGamepadBackend where
  /-- which of the gamepads created so far it is -/
  device : ℕ
  log : List InputEvent
  buttonState : ℕ → Option ℤ
  axisState : ℕ → Option ℤ
  dirty : Bool
  writes : ℕ

namespace VirtualGamepadBackend

/-- `VirtualGamepadBackend::create`, when the kernel creates the device. -/
def create (device : ℕ) : VirtualGamepadBackend :=
  { device, log := [], buttonState := fun _ => none, axisState := fun _ => none, dirty := false
    writes := 0 }

/-- `emit`. -/
def emit (env : InputEnv) (self : VirtualGamepadBackend) (event : InputEvent) :
    Outcome VirtualGamepadBackend VirtualGamepadBackend :=
  if env.padAccepts self.device self.writes then
    .ok { self with log := self.log ++ [event], writes := self.writes + 1 }
  else .error (.io, { self with writes := self.writes + 1 })

/-- `sync`. -/
def sync (env : InputEnv) (self : VirtualGamepadBackend) :
    Outcome VirtualGamepadBackend VirtualGamepadBackend := do
  let self ← self.emit env .syn
  .ok { self with dirty := true }

/-- `button`. -/
def button (env : InputEnv) (self : VirtualGamepadBackend) (button : String) (state : ButtonState) :
    Outcome VirtualGamepadBackend VirtualGamepadBackend :=
  match buttonCode button with
  | .error err => .error (err, self)
  | .ok code =>
    let value := state.uinputValue
    if self.buttonState code = some value then .ok self
    else do
      let self := { self with buttonState := Function.update self.buttonState code (some value) }
      let self ← self.emit env (.key code value)
      self.sync env

/-- `axis`. -/
def axis (env : InputEnv) (self : VirtualGamepadBackend) (axis : String) (value : ℚ) :
    Outcome VirtualGamepadBackend VirtualGamepadBackend :=
  if ¬ (-1 ≤ value ∧ value ≤ 1) then .error (.axisRange axis value, self)
  else match axisCode axis with
  | .error err => .error (err, self)
  | .ok code =>
    let scaled := scaleAxis axis value
    if self.axisState code = some scaled then .ok self
    else do
      let self := { self with axisState := Function.update self.axisState code (some scaled) }
      let self ← self.emit env (.abs code scaled)
      self.sync env

/-- `flush_pending`. -/
def flushPending (self : VirtualGamepadBackend) : VirtualGamepadBackend := { self with dirty := false }

/-- The first loop of `reset`. -/
def resetButtons (env : InputEnv) (self : VirtualGamepadBackend) :
    List (String × ℕ) → Outcome VirtualGamepadBackend VirtualGamepadBackend
  | [] => .ok self
  | (_, code) :: rest => do
    let self ← self.emit env (.key code 0)
    resetButtons env { self with buttonState := Function.update self.buttonState code (some 0) } rest

/-- The second loop of `reset`. -/
def resetAxes (env : InputEnv) (self : VirtualGamepadBackend) :
    List (String × ℕ) → Outcome VirtualGamepadBackend VirtualGamepadBackend
  | [] => .ok self
  | (axis, code) :: rest => do
    let value := scaleAxis axis 0
    let self ← self.emit env (.abs code value)
    resetAxes env { self with axisState := Function.update self.axisState code (some value) } rest

/-- `reset`. -/
def reset (env : InputEnv) (self : VirtualGamepadBackend) :
    Outcome VirtualGamepadBackend VirtualGamepadBackend := do
  let self ← self.resetButtons env BUTTONS
  let self ← self.resetAxes env AXES
  self.sync env

end VirtualGamepadBackend

structure ControllerInputManager where
  available : Bool
  unavailableReason : String
  backend : Option VirtualGamepadBackend
  /-- gamepads tried to create so far -/
  creations : ℕ

namespace ControllerInputManager

/-- `ControllerInputManager::new`. -/
def new (available : Bool) (reason : String) : ControllerInputManager :=
  { available, unavailableReason := reason, backend := none, creations := 0 }

/-- What a call of the backend makes of the manager. -/
def after (self : ControllerInputManager) :
    Outcome VirtualGamepadBackend VirtualGamepadBackend →
      Outcome ControllerInputManager ControllerInputManager
  | .ok backend => .ok { self with backend := some backend }
  | .error (err, backend) => .error (err, { self with backend := some backend })

/-- `ensure_backend`: the backend is the one of the manager it returns. -/
def ensureBackend (env : InputEnv) (self : ControllerInputManager) :
    Outcome ControllerInputManager (ControllerInputManager × VirtualGamepadBackend) :=
  if !self.available then .error (.message self.unavailableReason, self)
  else match self.backend with
  | some backend => .ok (self, backend)
  | none =>
    let self' := { self with creations := self.creations + 1 }
    if env.padCreates self.creations then
      let backend := .create self.creations
      .ok ({ self' with backend := some backend }, backend)
    else .error (.io, self')

/-- `device_connected`. -/
def deviceConnected (env : InputEnv) (self : ControllerInputManager) :
    Outcome ControllerInputManager ControllerInputManager := do
  let (self, backend) ← self.ensureBackend env
  self.after (backend.reset env)

/-- `device_disconnected`. -/
def deviceDisconnected (env : InputEnv) (self : ControllerInputManager) :
    Outcome ControllerInputManager ControllerInputManager :=
  match self.backend with
  | some backend => self.after (backend.reset env)
  | none => .ok self

/-- `button`. -/
def button (env : InputEnv) (self : ControllerInputManager) (button : String) (state : ButtonState) :
    Outcome ControllerInputManager ControllerInputManager := do
  let (self, backend) ← self.ensureBackend env
  self.after (backend.button env button state)

/-- `axis`. -/
def axis (env : InputEnv) (self : ControllerInputManager) (axis : String) (value : ℚ) :
    Outcome ControllerInputManager ControllerInputManager := do
  let (self, backend) ← self.ensureBackend env
  self.after (backend.axis env axis value)

/-- `flush_pending`. -/
def flushPending (self : ControllerInputManager) : ControllerInputManager :=
  { self with backend := self.backend.map VirtualGamepadBackend.flushPending }

end ControllerInputManager

/-! ## What the operations leave held -/

namespace VirtualGamepadBackend

def held (self : VirtualGamepadBackend) (code : ℕ) : Bool := down self.log code

/-- `button_state` is what the device holds; a button it does not know is up. -/
def Follows (backend : VirtualGamepadBackend) : Prop :=
  ∀ code, backend.held code = ((backend.buttonState code).getD 0 != 0)

abbrev Leaves (backend next : VirtualGamepadBackend) (effect : ℕ → Option Bool) : Prop :=
  LastWrite.Leaves Follows held backend next effect

theorem create_follows (device : ℕ) : (create device).Follows := fun _ => rfl

section Leaves

variable {backend next : VirtualGamepadBackend}

/-- A button event that goes with `button_state`. -/
theorem leaves_key {code : ℕ} {value : ℤ} (h : backend.Follows)
    (hlog : next.log = backend.log ++ [.key code value])
    (hstate : next.buttonState = Function.update backend.buttonState code (some value)) :
    Leaves backend next (fun k => if k = code then some (value != 0) else none) := by
  have hdown : ∀ k, next.held k =
      ((if k = code then some (value != 0) else none) : Option Bool).getD (backend.held k) := by
    intro k
    rw [held, hlog, down_append, LastWrite.last_singleton, effect_key]
    by_cases hk : k = code
    · rw [if_pos hk, if_pos hk.symm]
      rfl
    · rw [if_neg hk, if_neg (Ne.symm hk)]
      rfl
  refine { inv := fun k => ?_, cells := hdown }
  rw [hdown, hstate]
  by_cases hk : k = code
  · rw [if_pos hk, hk, Function.update_self]
    rfl
  · rw [if_neg hk, Function.update_of_ne hk]
    exact h k

/-- An event that is no button event. -/
theorem leaves_quiet {event : InputEvent} (h : backend.Follows) (hevent : ∀ code, event.effect code = none)
    (hlog : next.log = backend.log ++ [event]) (hstate : next.buttonState = backend.buttonState) :
    Leaves backend next (fun _ => none) := by
  have hdown : ∀ k, next.held k = backend.held k := by
    intro k
    rw [held, hlog, down_append, LastWrite.last_singleton, hevent]
    rfl
  refine { inv := fun k => ?_, cells := hdown }
  rw [hdown, hstate]
  exact h k

end Leaves

section Ops

variable {env : InputEnv} {self : VirtualGamepadBackend}

theorem emit_ok (hok : ∀ n i, env.padAccepts n i = true) (event : InputEvent) :
    self.emit env event = .ok { self with log := self.log ++ [event], writes := self.writes + 1 } :=
  if_pos (hok _ _)

theorem sync_leaves (hok : ∀ n i, env.padAccepts n i = true) (h : self.Follows) :
    ∃ next, self.sync env = .ok next ∧ Leaves self next (fun _ => none) := by
  simp only [sync, emit_ok hok, bind, Except.bind]
  exact ⟨_, rfl, leaves_quiet h effect_syn rfl rfl⟩

/-- **`button`**, for a button of the table. -/
theorem button_leaves (hok : ∀ n i, env.padAccepts n i = true) (h : self.Follows) {button : String}
    {code : ℕ} (hcode : buttonCode button = .ok code) (state : ButtonState) :
    ∃ next, self.button env button state = .ok next ∧
      Leaves self next (fun k => if k = code then some state.down else none) := by
  have hvalue : (state.uinputValue != 0) = state.down := by cases state <;> rfl
  unfold VirtualGamepadBackend.button
  rw [hcode]
  dsimp only
  split
  · -- the device has it so already
    next hsame =>
    refine ⟨self, rfl, { inv := h, cells := fun k => ?_ }⟩
    by_cases hk : k = code
    · rw [if_pos hk, hk, h code, hsame]
      exact hvalue
    · rw [if_neg hk]
      rfl
  · simp only [emit_ok hok, bind, Except.bind]
    rw [← hvalue]
    have h1 : Leaves self { self with
        log := self.log ++ [.key code state.uinputValue]
        buttonState := Function.update self.buttonState code (some state.uinputValue)
        writes := self.writes + 1 } _ := leaves_key h rfl rfl
    obtain ⟨next, hnext, h2⟩ := sync_leaves hok h1.inv
    exact ⟨next, hnext, h1.trans h2⟩

theorem axis_leaves (hok : ∀ n i, env.padAccepts n i = true) (h : self.Follows) (axis : String)
    (value : ℚ) : Leaves self (self.axis env axis value).state (fun _ => none) := by
  unfold VirtualGamepadBackend.axis
  split
  · exact LastWrite.Leaves.refl h
  cases axisCode axis with
  | error err => exact LastWrite.Leaves.refl h
  | ok code =>
    dsimp only
    split
    · exact LastWrite.Leaves.refl h
    · simp only [emit_ok hok, bind, Except.bind]
      have h1 : Leaves self { self with
          log := self.log ++ [.abs code (scaleAxis axis value)]
          axisState := Function.update self.axisState code (some (scaleAxis axis value))
          writes := self.writes + 1 } (fun _ => none) := leaves_quiet h (effect_abs _ _) rfl rfl
      obtain ⟨next, hnext, h2⟩ := sync_leaves hok h1.inv
      rw [hnext]
      exact h1.trans h2

theorem resetButtons_leaves (hok : ∀ n i, env.padAccepts n i = true) (h : self.Follows)
    (table : List (String × ℕ)) :
    ∃ next, self.resetButtons env table = .ok next ∧
      Leaves self next (fun k => if k ∈ table.map Prod.snd then some false else none) := by
  induction table generalizing self with
  | nil => exact ⟨self, rfl, LastWrite.Leaves.refl h⟩
  | cons entry rest ih =>
    obtain ⟨name, code⟩ := entry
    simp only [resetButtons, emit_ok hok, bind, Except.bind]
    have h1 : Leaves self { self with
        log := self.log ++ [.key code 0]
        buttonState := Function.update self.buttonState code (some 0)
        writes := self.writes + 1 } _ := leaves_key h rfl rfl
    obtain ⟨next, hnext, h2⟩ := ih h1.inv
    refine ⟨next, hnext, (h1.trans h2).congr (fun k => ?_)⟩
    have hmem : k ∈ List.map Prod.snd ((name, code) :: rest) ↔ k = code ∨ k ∈ rest.map Prod.snd := by
      rw [List.map_cons, List.mem_cons]
    rw [if_congr hmem rfl rfl]
    -- of two entries with one code the later writes last
    by_cases hrest : k ∈ rest.map Prod.snd
    · rw [if_pos hrest, if_pos (Or.inr hrest)]
      rfl
    · rw [if_neg hrest, Option.none_or]
      by_cases hk : k = code
      · rw [if_pos hk, if_pos (Or.inl hk)]
        rfl
      · rw [if_neg hk, if_neg (fun h => h.elim hk hrest)]

theorem resetAxes_leaves (hok : ∀ n i, env.padAccepts n i = true) (h : self.Follows)
    (table : List (String × ℕ)) :
    ∃ next, self.resetAxes env table = .ok next ∧ Leaves self next (fun _ => none) := by
  induction table generalizing self with
  | nil => exact ⟨self, rfl, LastWrite.Leaves.refl h⟩
  | cons entry rest ih =>
    obtain ⟨axis, code⟩ := entry
    simp only [resetAxes, emit_ok hok, bind, Except.bind]
    have h1 : Leaves self { self with
        log := self.log ++ [.abs code (scaleAxis axis 0)]
        axisState := Function.update self.axisState code (some (scaleAxis axis 0))
        writes := self.writes + 1 } (fun _ => none) := leaves_quiet h (effect_abs _ _) rfl rfl
    obtain ⟨next, hnext, h2⟩ := ih h1.inv
    exact ⟨next, hnext, h1.trans h2⟩

/-- `reset` releases the buttons of the table, and there are no others. -/
theorem reset_leaves (hok : ∀ n i, env.padAccepts n i = true) (h : self.Follows) :
    ∃ next, self.reset env = .ok next ∧
      Leaves self next (fun k => if k ∈ BUTTONS.map Prod.snd then some false else none) := by
  obtain ⟨d1, hd1, h1⟩ := resetButtons_leaves hok h BUTTONS
  obtain ⟨d2, hd2, h2⟩ := resetAxes_leaves hok h1.inv AXES
  obtain ⟨d3, hd3, h3⟩ := sync_leaves hok h2.inv
  refine ⟨d3, ?_, h1.trans (h2.trans h3)⟩
  simp only [reset, bind, Except.bind, hd1, hd2, hd3]

end Ops

end VirtualGamepadBackend

namespace ControllerInputManager

def held (self : ControllerInputManager) (code : ℕ) : Bool :=
  match self.backend with
  | some backend => backend.held code
  | none => false

structure Follows (available : Bool) (manager : ControllerInputManager) : Prop where
  available : manager.available = available
  backend : ∀ backend, manager.backend = some backend → backend.Follows

abbrev Leaves (available : Bool) (manager next : ControllerInputManager)
    (effect : ℕ → Option Bool) : Prop :=
  LastWrite.Leaves (Follows available) held manager next effect

/-- What `button` leaves. -/
def buttonLeaves (available : Bool) (button : String) (state : ButtonState) (code : ℕ) : Option Bool :=
  match buttonCode button with
  | .ok code' => if available = true ∧ code = code' then some state.down else none
  | .error _ => none

/-- What `reset` leaves. -/
def resetLeaves (code : ℕ) : Option Bool :=
  if code ∈ BUTTONS.map Prod.snd then some false else none

theorem new_follows (available : Bool) (reason : String) : (new available reason).Follows available :=
  { available := rfl, backend := fun _ h => by cases h }

section Ops

variable {env : InputEnv} {self next : ControllerInputManager} {available : Bool}

theorem ensureBackend_ok (hcreate : ∀ n, env.padCreates n = true) (h : self.Follows true) :
    ∃ next backend, self.ensureBackend env = .ok (next, backend) ∧ next.backend = some backend ∧
      Leaves true self next (fun _ => none) := by
  unfold ensureBackend
  rw [h.available, Bool.not_true, if_neg Bool.false_ne_true]
  cases hb : self.backend with
  | some backend => exact ⟨self, backend, rfl, hb, LastWrite.Leaves.refl h⟩
  | none =>
    dsimp only
    rw [if_pos (hcreate _)]
    refine ⟨_, _, rfl, rfl, { inv := { available := rfl, backend := ?_ }, cells := fun k => ?_ }⟩
    · intro backend hbackend
      cases hbackend
      exact VirtualGamepadBackend.create_follows _
    · show down [] k = self.held k
      rw [held, hb]
      rfl

theorem ensureBackend_unavailable (h : self.Follows false) :
    self.ensureBackend env = .error (.message self.unavailableReason, self) := by
  unfold ensureBackend
  rw [h.available]
  rfl

/-- From the backend to the manager. -/
theorem after_leaves {backend : VirtualGamepadBackend} {effect : ℕ → Option Bool}
    {result : Outcome VirtualGamepadBackend VirtualGamepadBackend} (hnext : self.Follows available)
    (hb : self.backend = some backend) (h : VirtualGamepadBackend.Leaves backend result.state effect) :
    Leaves available self (self.after result).state effect := by
  have hheld : ∀ code, self.held code = backend.held code := fun code => by rw [held, hb]
  have hafter : (self.after result).state = { self with backend := some result.state } := by
    cases result <;> rfl
  rw [hafter]
  refine { inv := { available := hnext.available, backend := ?_ }, cells := fun k => ?_ }
  · intro backend' hbackend
    cases hbackend
    exact h.inv
  · rw [hheld]
    exact h.cells k

/-- A call that makes the gamepad if there is none. -/
theorem ensured_leaves (hcreate : ∀ n, env.padCreates n = true) (h : self.Follows true)
    {effect : ℕ → Option Bool}
    (call : VirtualGamepadBackend → Outcome VirtualGamepadBackend VirtualGamepadBackend)
    (hcall : ∀ backend : VirtualGamepadBackend, backend.Follows →
      VirtualGamepadBackend.Leaves backend (call backend).state effect) :
    Leaves true self (Outcome.state (do
      let (self, backend) ← self.ensureBackend env
      self.after (call backend))) effect := by
  obtain ⟨next, backend, hnext, hb, h1⟩ := ensureBackend_ok hcreate h
  rw [hnext]
  exact (h1.trans (after_leaves h1.inv hb (hcall backend (h1.inv.backend backend hb)))).congr
    (fun k => Option.or_none)

theorem unavailable_leaves (h : self.Follows false) {effect : ℕ → Option Bool}
    {rest : ControllerInputManager × VirtualGamepadBackend →
      Outcome ControllerInputManager ControllerInputManager} (heffect : ∀ k, effect k = none) :
    Leaves false self (Outcome.state (self.ensureBackend env >>= rest)) effect := by
  rw [ensureBackend_unavailable h]
  exact (LastWrite.Leaves.refl h).congr (fun k => (heffect k).symm)

theorem button_leaves (hcreate : ∀ n, env.padCreates n = true) (hok : ∀ n i, env.padAccepts n i = true)
    (h : self.Follows available) (button : String) (state : ButtonState) :
    Leaves available self (self.button env button state).state (buttonLeaves available button state) := by
  cases available with
  | false =>
    refine unavailable_leaves h (fun k => ?_)
    unfold buttonLeaves
    split
    · exact if_neg (fun hk => Bool.false_ne_true hk.1)
    · rfl
  | true =>
    refine ensured_leaves hcreate h (fun backend => backend.button env button state) (fun backend hb => ?_)
    cases hcode : buttonCode button with
    | ok code =>
      obtain ⟨next, hnext, hleaves⟩ := VirtualGamepadBackend.button_leaves hok hb hcode state
      rw [hnext]
      refine hleaves.congr (fun k => ?_)
      simp only [buttonLeaves, hcode, true_and]
    | error err =>
      unfold VirtualGamepadBackend.button
      rw [hcode]
      refine (LastWrite.Leaves.refl hb).congr (fun k => ?_)
      simp only [buttonLeaves, hcode]

theorem axis_leaves (hcreate : ∀ n, env.padCreates n = true) (hok : ∀ n i, env.padAccepts n i = true)
    (h : self.Follows available) (axis : String) (value : ℚ) :
    Leaves available self (self.axis env axis value).state (fun _ => none) := by
  cases available with
  | false => exact unavailable_leaves h (fun _ => rfl)
  | true =>
    exact ensured_leaves hcreate h (fun backend => backend.axis env axis value)
      (fun backend hb => VirtualGamepadBackend.axis_leaves hok hb axis value)

theorem deviceConnected_leaves (hcreate : ∀ n, env.padCreates n = true)
    (hok : ∀ n i, env.padAccepts n i = true) (h : self.Follows available) :
    Leaves available self (self.deviceConnected env).state
      (fun k => if available = true then resetLeaves k else none) := by
  cases available with
  | false => exact unavailable_leaves h (fun _ => rfl)
  | true =>
    refine ensured_leaves hcreate h (fun backend => backend.reset env) (fun backend hb => ?_)
    obtain ⟨next, hnext, hleaves⟩ := VirtualGamepadBackend.reset_leaves hok hb
    rw [hnext]
    exact hleaves

theorem deviceDisconnected_leaves (hok : ∀ n i, env.padAccepts n i = true) (h : self.Follows available) :
    Leaves available self (self.deviceDisconnected env).state resetLeaves := by
  unfold deviceDisconnected
  cases hb : self.backend with
  | some backend =>
    obtain ⟨next, hnext, hleaves⟩ := VirtualGamepadBackend.reset_leaves hok (h.backend backend hb)
    dsimp only
    rw [hnext]
    exact after_leaves h hb hleaves
  | none =>
    refine { inv := h, cells := fun k => ?_ }
    show self.held k = (resetLeaves k).getD (self.held k)
    -- there is no gamepad to reset, and nothing is held on it
    have hup : self.held k = false := by rw [held, hb]
    rw [hup, resetLeaves]
    split <;> rfl

theorem flushPending_leaves (h : self.Follows available) :
    Leaves available self self.flushPending (fun _ => none) := by
  refine
    { inv := { available := h.available, backend := fun backend hbackend => ?_ }
      cells := fun k => ?_ }
  · obtain ⟨old, hold, rfl⟩ := Option.map_eq_some_iff.mp hbackend
    exact h.backend old hold
  · unfold held flushPending
    cases self.backend <;> rfl

end Ops

end ControllerInputManager

end Waypad
