import Waypad.Input.Caches
import Waypad.Input.Commands

/-!
# Waypad.Input.PadDetach — a controller goes away (`handle_external_input` of `src/server.rs`)

`DeviceConnected` attaches a device by its type or by one of its classes; `DeviceDisconnected` has no
classes, and resets the gamepad by the type alone.

* `PadCell`: the buttons and axes of the gamepad, `pad` their values.
* `padWrites`: what an event leaves there, from the event alone.
* `handleExternalInput_pad`, `run_pad`: one event, and a sequence of them.
* `kept_pressed`: a device attached by a class goes away with a button down.
* `detached_iff`: when everything is up and neutral after the device has gone.
-/

namespace Waypad

inductive PadCell
  | button (code : ℕ)
  | axis (code : ℕ)
  deriving DecidableEq, Repr

namespace PadCell

/-- Where the events have it. -/
def address : PadCell → ℕ × ℕ
  | .button code => (evKey, code)
  | .axis code => (evAbs, code)

/-- The cell is one of the device's. -/
def Known : PadCell → Prop
  | .button code => code ∈ BUTTONS.map Prod.snd
  | .axis code => code ∈ AXES.map Prod.snd

instance decidableKnown : DecidablePred Known
  | .button code => inferInstanceAs (Decidable (code ∈ BUTTONS.map Prod.snd))
  | .axis code => inferInstanceAs (Decidable (code ∈ AXES.map Prod.snd))

end PadCell

/-- What `reset` leaves: every axis at rest is at 0. -/
def resetWrites (cell : PadCell) : Option ℤ := if cell.Known then some 0 else none

/-- What an event leaves in a cell, when the controller backend is available. -/
def padWrites (deviceType : ExternalDeviceType) : ExternalInputEvent → PadCell → Option ℤ
  | .deviceConnected _ classes, cell =>
    if isControllerDevice deviceType || classes.any isControllerDevice then resetWrites cell else none
  | .deviceDisconnected, cell => if isControllerDevice deviceType then resetWrites cell else none
  | .controllerButton button state, .button code =>
    if codeOf BUTTONS button = some code then some state.uinputValue else none
  | .controllerAxis axis value, .axis code =>
    if (-1 ≤ value ∧ value ≤ 1) ∧ codeOf AXES axis = some code then some (scaleAxis axis value) else none
  | _, _ => none

/-! ## The gamepad -/

namespace VirtualGamepadBackend

/-- The value last written for a button or an axis. -/
def value (self : VirtualGamepadBackend) (cell : PadCell) : ℤ :=
  (LastWrite.last InputEvent.writes self.log cell.address).getD 0

/-- The backend ends in `next`, and its cells are as `effect` says. -/
abbrev Writes (backend next : VirtualGamepadBackend) (effect : PadCell → Option ℤ) : Prop :=
  LastWrite.Leaves Matched value backend next effect

section Ops

variable {env : InputEnv} {self next : VirtualGamepadBackend}

/-- A synchronisation is no value of a cell. -/
theorem writes_syn (cell : PadCell) : InputEvent.syn.writes cell.address = none := by
  cases cell with
  | button code => exact writes_of_ne (show evSyn ≠ evKey by decide) code
  | axis code => exact writes_of_ne (show evSyn ≠ evAbs by decide) code

theorem value_put {event : InputEvent} (hlog : next.log = self.log ++ [event] ++ [.syn]) (cell : PadCell) :
    next.value cell = (event.writes cell.address).getD (self.value cell) := by
  rw [value, hlog, LastWrite.last_append_getD, LastWrite.last_singleton, writes_syn,
    LastWrite.last_append_getD, LastWrite.last_singleton]
  rfl

/-- The events of `reset`. -/
def resetEvents : List InputEvent :=
  BUTTONS.map (fun entry => .key entry.2 0) ++ AXES.map (fun entry => .abs entry.2 (scaleAxis entry.1 0))

theorem resetButtons_log (self : VirtualGamepadBackend) (hok : ∀ n i, env.padAccepts n i = true)
    (table : List (String × ℕ)) : ∃ next, self.resetButtons env table = .ok next ∧
      next.log = self.log ++ table.map (fun entry => .key entry.2 0) := by
  induction table generalizing self with
  | nil => exact ⟨self, rfl, (List.append_nil _).symm⟩
  | cons entry rest ih =>
    simp only [resetButtons, emit_ok hok, bind, Except.bind]
    obtain ⟨next, hnext, hlog⟩ := ih _
    exact ⟨next, hnext, by rw [hlog, List.append_assoc]; rfl⟩

theorem resetAxes_log (self : VirtualGamepadBackend) (hok : ∀ n i, env.padAccepts n i = true)
    (table : List (String × ℕ)) : ∃ next, self.resetAxes env table = .ok next ∧
      next.log = self.log ++ table.map (fun entry => .abs entry.2 (scaleAxis entry.1 0)) := by
  induction table generalizing self with
  | nil => exact ⟨self, rfl, (List.append_nil _).symm⟩
  | cons entry rest ih =>
    simp only [resetAxes, emit_ok hok, bind, Except.bind]
    obtain ⟨next, hnext, hlog⟩ := ih _
    exact ⟨next, hnext, by rw [hlog, List.append_assoc]; rfl⟩

theorem reset_log (hok : ∀ n i, env.padAccepts n i = true) :
    (self.reset env).state.log = self.log ++ resetEvents ++ [.syn] := by
  obtain ⟨d1, hd1, h1⟩ := resetButtons_log self hok BUTTONS
  obtain ⟨d2, hd2, h2⟩ := resetAxes_log d1 hok AXES
  simp only [reset, bind, Except.bind, hd1, hd2, sync, emit_ok hok, Outcome.state_ok, h2, h1, resetEvents,
    List.append_assoc]

theorem scaleAxis_zero (axis : String) : scaleAxis axis 0 = 0 := by
  have hclamped : max (-1) (min (0 : ℚ) 1) = 0 := by norm_num
  have hround : roundCoord 0 = 0 := by norm_num [roundCoord]
  unfold scaleAxis
  rw [hclamped]
  dsimp only
  split <;> simp [hround, Binary64.round_zero]

/-- What `reset` writes, cell by cell. -/
theorem last_resetEvents (cell : PadCell) :
    LastWrite.last InputEvent.writes resetEvents cell.address = resetWrites cell := by
  have hzero : ∀ event ∈ resetEvents, event.value = 0 := by
    intro event hevent
    rcases List.mem_append.mp hevent with hbutton | haxis
    · obtain ⟨entry, -, rfl⟩ := List.mem_map.mp hbutton
      rfl
    · obtain ⟨entry, -, rfl⟩ := List.mem_map.mp haxis
      exact scaleAxis_zero entry.1
  have hcases : ∀ event ∈ resetEvents,
      event.writes cell.address = none ∨ event.writes cell.address = some 0 := by
    intro event hevent
    unfold InputEvent.writes
    split
    · exact Or.inr (congrArg some (hzero event hevent))
    · exact Or.inl rfl
  unfold resetWrites
  -- every event is a zero, so it is enough to know which cells are written
  by_cases hknown : cell.Known
  · rw [if_pos hknown]
    refine LastWrite.last_const hcases ?_
    cases cell with
    | button code =>
      obtain ⟨entry, hentry, rfl⟩ := List.mem_map.mp hknown
      exact ⟨.key entry.2 0, List.mem_append_left _ (List.mem_map.mpr ⟨entry, hentry, rfl⟩),
        (writes_key _ _ _).trans (if_pos rfl)⟩
    | axis code =>
      obtain ⟨entry, hentry, rfl⟩ := List.mem_map.mp hknown
      refine ⟨.abs entry.2 (scaleAxis entry.1 0),
        List.mem_append_right _ (List.mem_map.mpr ⟨entry, hentry, rfl⟩), ?_⟩
      exact (writes_abs _ _ _).trans ((if_pos rfl).trans (congrArg some (scaleAxis_zero entry.1)))
  · rw [if_neg hknown]
    refine LastWrite.last_none (fun event hevent => ?_)
    cases cell with
    | button code =>
      rcases List.mem_append.mp hevent with hbutton | haxis
      · obtain ⟨entry, hentry, rfl⟩ := List.mem_map.mp hbutton
        refine (writes_key _ _ _).trans (if_neg (fun hcode => hknown ?_))
        exact List.mem_map.mpr ⟨entry, hentry, hcode⟩
      · obtain ⟨entry, -, rfl⟩ := List.mem_map.mp haxis
        exact writes_of_ne (show evAbs ≠ evKey by decide) code
    | axis code =>
      rcases List.mem_append.mp hevent with hbutton | haxis
      · obtain ⟨entry, -, rfl⟩ := List.mem_map.mp hbutton
        exact writes_of_ne (show evKey ≠ evAbs by decide) code
      · obtain ⟨entry, hentry, rfl⟩ := List.mem_map.mp haxis
        refine (writes_abs _ _ _).trans (if_neg (fun hcode => hknown ?_))
        exact List.mem_map.mpr ⟨entry, hentry, hcode⟩

/-- **`reset`.** -/
theorem reset_writes (hok : ∀ n i, env.padAccepts n i = true) (h : self.Matched) :
    Writes self (self.reset env).state resetWrites := by
  refine { inv := reset_matched h, cells := fun cell => ?_ }
  rw [value, reset_log hok, LastWrite.last_append_getD, LastWrite.last_singleton, writes_syn,
    LastWrite.last_append_getD, last_resetEvents]
  rfl

theorem buttonCode_ok {button : String} {code : ℕ} :
    buttonCode button = .ok code ↔ codeOf BUTTONS button = some code := by
  unfold buttonCode
  cases codeOf BUTTONS button <;> simp

theorem axisCode_ok {axis : String} {code : ℕ} :
    axisCode axis = .ok code ↔ codeOf AXES axis = some code := by
  unfold axisCode
  cases codeOf AXES axis <;> simp

/-- A value that the device has already. -/
theorem value_kept {cell : PadCell} {v : ℤ}
    (h : LastWrite.last InputEvent.writes self.log cell.address = some v) : self.value cell = v := by
  rw [value, h]
  rfl

/-- **`button`.** -/
theorem button_writes (hok : ∀ n i, env.padAccepts n i = true) (h : self.Matched) (ty : ExternalDeviceType)
    (button : String) (state : ButtonState) :
    Writes self (self.button env button state).state (padWrites ty (.controllerButton button state)) := by
  rcases button_cases env self button state with
    ⟨hnone, err, herr⟩ | ⟨code, hcode, ⟨hdone, hcall⟩ | ⟨-, hput⟩⟩
  · rw [herr]
    refine (LastWrite.Leaves.refl h).congr (fun cell => ?_)
    cases cell with
    | button code => exact (if_neg (fun hcode => hnone code (buttonCode_ok.mpr hcode))).symm
    | axis code => rfl
  · -- the device has the state already
    rw [hcall]
    refine { inv := h, cells := fun cell => ?_ }
    cases cell with
    | axis other => rfl
    | button other =>
      show self.value _ = (if codeOf BUTTONS button = some other then _ else none : Option ℤ).getD _
      split_ifs with hother
      · obtain rfl := Option.some.inj ((buttonCode_ok.mp hcode).symm.trans hother)
        exact value_kept (h.buttons code _ hdone)
      · rfl
  · have hlog := hput.log ⟨hok _ _, hok _ _⟩
    refine { inv := Put.matched_key h hput hlog, cells := fun cell => (value_put hlog cell).trans ?_ }
    cases cell with
    | axis other =>
      rw [PadCell.address, writes_of_ne (show evKey ≠ evAbs by decide)]
      rfl
    | button other =>
      simp only [PadCell.address, writes_key, padWrites, buttonCode_ok.mp hcode, Option.some.injEq]
      rfl

/-- **`axis`.** -/
theorem axis_writes (hok : ∀ n i, env.padAccepts n i = true) (h : self.Matched) (ty : ExternalDeviceType)
    (axis : String) (value : ℚ) :
    Writes self (self.axis env axis value).state (padWrites ty (.controllerAxis axis value)) := by
  rcases axis_cases env self axis value with
    ⟨hnone, err, herr⟩ | ⟨hrange, code, hcode, ⟨hdone, hcall⟩ | ⟨-, hput⟩⟩
  · rw [herr]
    refine (LastWrite.Leaves.refl h).congr (fun cell => ?_)
    cases cell with
    | button code => rfl
    | axis code => exact (if_neg (fun hcode => hnone code hcode.1 (axisCode_ok.mpr hcode.2))).symm
  · -- the device has the value already
    rw [hcall]
    refine { inv := h, cells := fun cell => ?_ }
    cases cell with
    | button other => rfl
    | axis other =>
      show self.value _ =
        (if (-1 ≤ value ∧ value ≤ 1) ∧ codeOf AXES axis = some other then _ else none : Option ℤ).getD _
      split_ifs with hother
      · obtain rfl := Option.some.inj ((axisCode_ok.mp hcode).symm.trans hother.2)
        exact value_kept (h.axes code _ hdone)
      · rfl
  · have hlog := hput.log ⟨hok _ _, hok _ _⟩
    refine { inv := Put.matched_abs h hput hlog, cells := fun cell => (value_put hlog cell).trans ?_ }
    cases cell with
    | button other =>
      rw [PadCell.address, writes_of_ne (show evAbs ≠ evKey by decide)]
      rfl
    | axis other =>
      simp only [PadCell.address, writes_abs, padWrites, axisCode_ok.mp hcode, Option.some.injEq, hrange,
        and_self, true_and]
      rfl

end Ops

end VirtualGamepadBackend

/-! ## The commands -/

namespace Inputs

/-- The value of a button or an axis; with no gamepad they are all at rest. -/
def pad (self : Inputs) (cell : PadCell) : ℤ :=
  match self.gamepad.backend with
  | some backend => backend.value cell
  | none => 0

/-- The backend is available, and keeps what it has written. -/
structure Plugged (inputs : Inputs) : Prop where
  available : inputs.gamepad.available = true
  matched : ∀ backend, inputs.gamepad.backend = some backend → backend.Matched

abbrev Writes (inputs next : Inputs) (effect : PadCell → Option ℤ) : Prop :=
  LastWrite.Leaves Plugged pad inputs next effect

section Ops

variable {env : InputEnv} {self next : Inputs}

theorem create_matched (device : ℕ) : (VirtualGamepadBackend.create device).Matched :=
  { buttons := nofun, axes := nofun }

/-- From what an operation writes on the backend, or on one just made, to the inputs. -/
theorem backend_writes {backend last : VirtualGamepadBackend} {effect : PadCell → Option ℤ}
    (hbackend : self.gamepad.backend = some backend ∨
      self.gamepad.backend = none ∧ ∃ device, backend = .create device)
    (hwrites : VirtualGamepadBackend.Writes backend last effect)
    (havailable : next.gamepad.available = true)
    (hnext : ∃ dirty, next.gamepad.backend = some { last with dirty }) : Writes self next effect := by
  obtain ⟨dirty, hnext⟩ := hnext
  refine { inv := { available := havailable, matched := ?_ }, cells := fun cell => ?_ }
  · intro other hother
    obtain rfl := Option.some.inj (hnext.symm.trans hother)
    exact { buttons := hwrites.inv.buttons, axes := hwrites.inv.axes }
  · have hpad : self.pad cell = backend.value cell := by
      unfold pad
      rcases hbackend with hsome | ⟨hnone, device, rfl⟩
      · rw [hsome]
      · rw [hnone]
        rfl
    rw [hpad, ← hwrites.cells cell]
    unfold pad
    rw [hnext]
    rfl

/-- A command that needs the gamepad, and makes it if there is none. -/
theorem ensured_writes (hok : env.Willing) (h : self.Plugged) {effect : PadCell → Option ℤ}
    (call : VirtualGamepadBackend → Outcome VirtualGamepadBackend VirtualGamepadBackend)
    (hcall : ∀ backend : VirtualGamepadBackend, backend.Matched →
      VirtualGamepadBackend.Writes backend (call backend).state effect) :
    Writes self (self.onGamepad (do
      let (gamepad, backend) ← self.gamepad.ensureBackend env
      gamepad.after (call backend))).state effect := by
  unfold ControllerInputManager.ensureBackend
  rw [h.available, Bool.not_true, if_neg Bool.false_ne_true]
  cases hb : self.gamepad.backend with
  | some backend =>
    refine backend_writes (Or.inl hb) (hcall backend (h.matched backend hb)) ?_ ?_
    · show (self.onGamepad (self.gamepad.after (call backend))).state.gamepad.available = true
      rw [← h.available]
      cases call backend <;> rfl
    · show ∃ dirty, (self.onGamepad (self.gamepad.after (call backend))).state.gamepad.backend = _
      cases call backend with
      | ok last => exact ⟨false, rfl⟩
      | error e => exact ⟨e.2.dirty, rfl⟩
  | none =>
    -- a new gamepad is at rest
    dsimp only
    rw [if_pos (hok.padCreates _)]
    refine backend_writes (Or.inr ⟨hb, _, rfl⟩) (hcall (.create self.gamepad.creations)
      (create_matched _)) ?_ ?_
    · show (self.onGamepad (ControllerInputManager.after _ (call _))).state.gamepad.available = true
      cases call (.create self.gamepad.creations) <;> rfl
    · show ∃ dirty, (self.onGamepad (ControllerInputManager.after _ (call _))).state.gamepad.backend = _
      cases call (.create self.gamepad.creations) with
      | ok last => exact ⟨false, rfl⟩
      | error e => exact ⟨e.2.dirty, rfl⟩

/-- A command of the pointer or the keyboard. -/
theorem onDevices_writes (h : self.Plugged) (result : Outcome VirtualDevices VirtualDevices) :
    Writes self (self.onDevices result).state (fun _ => none) := by
  cases result <;>
    exact { inv := { available := h.available, matched := h.matched }, cells := fun _ => rfl }

theorem disconnected_writes (hok : env.Willing) (h : self.Plugged) :
    Writes self (self.onGamepad (self.gamepad.deviceDisconnected env)).state resetWrites := by
  unfold ControllerInputManager.deviceDisconnected
  cases hb : self.gamepad.backend with
  | some backend =>
    refine backend_writes (Or.inl hb)
      (VirtualGamepadBackend.reset_writes hok.padAccepts (h.matched backend hb)) ?_ ?_
    · show (self.onGamepad (self.gamepad.after (backend.reset env))).state.gamepad.available = true
      rw [← h.available]
      cases backend.reset env <;> rfl
    · show ∃ dirty, (self.onGamepad (self.gamepad.after (backend.reset env))).state.gamepad.backend = _
      cases backend.reset env with
      | ok last => exact ⟨false, rfl⟩
      | error e => exact ⟨e.2.dirty, rfl⟩
  | none =>
    have hsame : (self.onGamepad (.ok self.gamepad)).state.gamepad.backend = none := by
      show self.gamepad.backend.map VirtualGamepadBackend.flushPending = none
      rw [hb]
      rfl
    refine { inv := { available := h.available, matched := fun other hother => ?_ }, cells := fun cell => ?_ }
    · cases hsame.symm.trans hother
    · -- there is no gamepad to reset, and it is at rest
      show pad _ cell = (resetWrites cell).getD (self.pad cell)
      have hrest : self.pad cell = 0 := by
        unfold pad
        rw [hb]
      unfold pad
      rw [hsame]
      show 0 = (resetWrites cell).getD (self.pad cell)
      rw [hrest, resetWrites]
      split <;> rfl

/-- **One event**: what it leaves in the gamepad is as `padWrites` says, whether or not it is rejected. -/
theorem handleExternalInput_pad (hok : env.Willing) (h : self.Plugged) (deviceType : ExternalDeviceType)
    (event : ExternalInputEvent) :
    Writes self (self.handleExternalInput env deviceType event).state (padWrites deviceType event) := by
  have hquiet : Writes self self (fun _ => none) := LastWrite.Leaves.refl h
  cases event with
  | deviceConnected name classes =>
    dsimp only [handleExternalInput]
    split_ifs with hattach
    · refine (ensured_writes hok h (fun backend => backend.reset env)
        (fun _ hb => VirtualGamepadBackend.reset_writes hok.padAccepts hb)).congr (fun cell => ?_)
      exact (if_pos hattach).symm
    · exact hquiet.congr (fun cell => (if_neg hattach).symm)
  | deviceDisconnected =>
    dsimp only [handleExternalInput]
    split_ifs with hdetach
    · exact (disconnected_writes hok h).congr (fun cell => (if_pos hdetach).symm)
    · exact hquiet.congr (fun cell => (if_neg hdetach).symm)
  | pointerMove dx dy =>
    dsimp only [handleExternalInput, pointerMove]
    split
    · exact hquiet
    · exact onDevices_writes h _
  | pointerButton button state => exact onDevices_writes h _
  | pointerScroll dx dy finish =>
    dsimp only [handleExternalInput, scroll]
    split
    · exact hquiet
    · exact onDevices_writes h _
  | keyboardKey keysym state repeated => exact onDevices_writes h _
  | controllerButton button state =>
    exact ensured_writes hok h (fun backend => backend.button env button state)
      (fun _ hb => VirtualGamepadBackend.button_writes hok.padAccepts hb deviceType button state)
  | controllerAxis axis value =>
    dsimp only [handleExternalInput]
    split_ifs with hrange
    · exact ensured_writes hok h (fun backend => backend.axis env axis value)
        (fun _ hb => VirtualGamepadBackend.axis_writes hok.padAccepts hb deviceType axis value)
    · refine hquiet.congr (fun cell => ?_)
      cases cell with
      | button code => rfl
      | axis code => exact (if_neg (fun hcell => hrange hcell.1)).symm

end Ops

end Inputs

/-! ## Sequences of events -/

/-- An `external_input` command. -/
structure External where
  deviceId : String
  deviceType : ExternalDeviceType
  event : ExternalInputEvent
  deriving DecidableEq, Repr

namespace External

/-- The handler, whether it succeeds or not. -/
def step (env : InputEnv) (self : Inputs) (e : External) : Option Inputs :=
  some (self.handleExternalInput env e.deviceType e.event).state

theorem step_isSome (env : InputEnv) (self : Inputs) (e : External) : (step env self e).isSome = true := rfl

def writes (e : External) : PadCell → Option ℤ := padWrites e.deviceType e.event

/-- A daemon with a controller backend. -/
def start (unavailableReason : String) : Inputs :=
  { devices := .create, gamepad := .new true unavailableReason }

theorem start_plugged (reason : String) : (start reason).Plugged :=
  { available := rfl, matched := nofun }

/-- Only the gamepad's own buttons and axes are written. -/
theorem writes_known {e : External} {cell : PadCell} (hcell : ¬ cell.Known) : e.writes cell = none := by
  have htable : ∀ {table : List (String × ℕ)} {name : String} {code : ℕ}, codeOf table name = some code →
      code ∈ table.map Prod.snd := by
    intro table name code hcode
    obtain ⟨entry, hentry, hsome⟩ := List.exists_of_findSome?_eq_some hcode
    split_ifs at hsome
    exact List.mem_map.mpr ⟨entry, hentry, Option.some.inj hsome⟩
  have hreset : resetWrites cell = none := if_neg hcell
  obtain ⟨deviceId, deviceType, event⟩ := e
  cases event with
  | deviceConnected name classes =>
    show (if _ then resetWrites cell else none) = none
    rw [hreset, ite_self]
  | deviceDisconnected =>
    show (if _ then resetWrites cell else none) = none
    rw [hreset, ite_self]
  | controllerButton button state =>
    cases cell with
    | button code => exact if_neg (fun hcode => hcell (htable hcode))
    | axis code => rfl
  | controllerAxis axis value =>
    cases cell with
    | button code => rfl
    | axis code => exact if_neg (fun hcode => hcell (htable hcode.2))
  | pointerMove dx dy => rfl
  | pointerButton button state => rfl
  | pointerScroll dx dy finish => rfl
  | keyboardKey keysym state repeated => rfl

theorem last_known {events : List External} {cell : PadCell} (hcell : ¬ cell.Known) :
    LastWrite.last writes events cell = none :=
  LastWrite.last_none (fun _ _ => writes_known hcell)

/-- **Runs**: a button or an axis has what the last event to touch it has left. -/
theorem run_pad {env : InputEnv} (hok : env.Willing) {reason : String} {events : List External} {s : Inputs}
    (hs : Trans.run (step env) (start reason) events = some s) (cell : PadCell) :
    s.pad cell = (LastWrite.last writes events cell).getD 0 := by
  have hruns := Trans.runs_free events hs
  have hleaves : Inputs.Writes (start reason) s (LastWrite.last writes events) :=
    LastWrite.runs_leaves (fun self e next h _ hnext => by
      obtain rfl := Option.some.inj hnext
      exact Inputs.handleExternalInput_pad hok h e.deviceType e.event) hruns (start_plugged reason)
  exact hleaves.cells cell

/-- The events leave every button up and every axis at rest. -/
def LeftNeutral (events : List External) : Prop :=
  ∀ cell, (LastWrite.last writes events cell).getD 0 = 0

/-- `DeviceConnected` attaches the device. -/
def attaches (deviceType : ExternalDeviceType) (classes : List ExternalDeviceType) : Bool :=
  isControllerDevice deviceType || classes.any isControllerDevice

end External

namespace Inputs

/-- Every button of the gamepad is up. -/
def ButtonsUp (self : Inputs) : Prop := ∀ code, self.held (.gamepad code) = false

/-- Every axis of the gamepad is neutral. -/
def AxesNeutral (self : Inputs) : Prop :=
  ∀ backend, self.gamepad.backend = some backend → ∀ code, (written backend.log evAbs code).getD 0 = 0

/-- Both, cell by cell. -/
theorem neutral_iff (self : Inputs) : self.ButtonsUp ∧ self.AxesNeutral ↔ ∀ cell, self.pad cell = 0 := by
  have hheld : ∀ code, self.held (.gamepad code) = (self.pad (.button code) != 0) := by
    intro code
    show self.gamepad.held code = _
    unfold ControllerInputManager.held pad
    -- what is no gamepad is at rest
    cases self.gamepad.backend with
    | some backend => exact down_written backend.log code
    | none => rfl
  refine ⟨?_, ?_⟩
  · rintro ⟨hbuttons, haxes⟩ cell
    cases cell with
    | button code => simpa [hheld] using hbuttons code
    | axis code =>
      unfold pad
      cases hb : self.gamepad.backend with
      | some backend => exact haxes backend hb code
      | none => rfl
  · intro hrest
    refine ⟨fun code => by simp [hheld, hrest], fun backend hb code => ?_⟩
    have haxis := hrest (.axis code)
    unfold pad at haxis
    rw [hb] at haxis
    exact haxis

end Inputs

namespace External

variable {env : InputEnv} {reason deviceId name : String} {deviceType : ExternalDeviceType}
  {classes : List ExternalDeviceType} {before since : List External} {s : Inputs}

/-- The value of a cell when a device that has been attached is gone. -/
theorem pad_detached (hok : env.Willing) (hattach : attaches deviceType classes = true)
    (hs : Trans.run (step env) (start reason)
      (before ++ ⟨deviceId, deviceType, .deviceConnected name classes⟩ ::
        (since ++ [⟨deviceId, deviceType, .deviceDisconnected⟩])) = some s) (cell : PadCell) :
    s.pad cell =
      if isControllerDevice deviceType then 0 else (LastWrite.last writes since cell).getD 0 := by
  by_cases hknown : cell.Known
  swap
  · rw [run_pad hok hs, last_known hknown, last_known hknown]
    exact (ite_self _).symm
  have hconnected : writes ⟨deviceId, deviceType, .deviceConnected name classes⟩ cell = some 0 :=
    (if_pos hattach).trans (if_pos hknown)
  rw [run_pad hok hs, LastWrite.last_append, LastWrite.last, LastWrite.last_append, LastWrite.last_singleton,
    hconnected]
  -- only a controller that goes resets the gamepad
  split_ifs with hcontroller
  · have hgone : writes ⟨deviceId, deviceType, .deviceDisconnected⟩ cell = some 0 :=
      (if_pos hcontroller).trans (if_pos hknown)
    rw [hgone]
    rfl
  · have hgone : writes ⟨deviceId, deviceType, .deviceDisconnected⟩ cell = none := if_neg hcontroller
    rw [hgone]
    cases LastWrite.last writes since cell <;> rfl

/-! ## A button that stays down -/

/-- A keyboard with a gamepad class comes, presses a button and goes. -/
def keypadRun : List External :=
  [⟨"k", .keyboard, .deviceConnected "keypad" [.keyboard, .gamepad]⟩,
    ⟨"k", .keyboard, .controllerButton "a" .pressed⟩, ⟨"k", .keyboard, .deviceDisconnected⟩]

/-- **A button stays down** when the device that has pressed it is gone. -/
theorem kept_pressed : attaches .keyboard [.keyboard, .gamepad] = true ∧
    ∃ s, Trans.run (step .willing) (start "") keypadRun = some s ∧ s.held (.gamepad 0x130) = true := by
  refine ⟨rfl, _, rfl, ?_⟩
  decide

/-- **After a controller has gone**: when the event before it attached the device, everything is up and
neutral exactly if its type is that of a controller, or the events since then have left it so. -/
theorem detached_iff (hok : env.Willing) (hattach : attaches deviceType classes = true)
    (hs : Trans.run (step env) (start reason)
      (before ++ ⟨deviceId, deviceType, .deviceConnected name classes⟩ ::
        (since ++ [⟨deviceId, deviceType, .deviceDisconnected⟩])) = some s) :
    s.ButtonsUp ∧ s.AxesNeutral ↔ isControllerDevice deviceType = true ∨ LeftNeutral since := by
  rw [Inputs.neutral_iff]
  simp only [pad_detached hok hattach hs, LeftNeutral]
  by_cases hcontroller : isControllerDevice deviceType = true
  · simp [hcontroller]
  · simp [hcontroller]

/-- A gamepad goes away with a button down and a stick held. -/
theorem detached_demo : ∃ s, Trans.run (step .willing) (start "")
    ([] ++ ⟨"p", .gamepad, .deviceConnected "pad" []⟩ ::
      ([⟨"p", .gamepad, .controllerButton "a" .pressed⟩, ⟨"p", .gamepad, .controllerAxis "left_x" 1⟩] ++
        [⟨"p", .gamepad, .deviceDisconnected⟩])) = some s ∧ s.ButtonsUp ∧ s.AxesNeutral := by
  have hwilling : InputEnv.willing.Willing :=
    { accepts := fun _ => rfl, padCreates := fun _ => rfl, padAccepts := fun _ _ => rfl }
  obtain ⟨s, hs⟩ := Option.isSome_iff_exists.mp (Trans.run_isSome (step_isSome .willing) (start "") _)
  exact ⟨s, hs, (detached_iff hwilling rfl hs).mpr (Or.inl rfl)⟩

end External

end Waypad
