import Waypad.Input.Gamepad

/-!
# Waypad.Input.Commands — the input commands (`handle_command` of `src/server.rs`)

The virtual devices and the gamepad stand behind one lock each, and a handler holds the lock it takes up
to its end.

* `handleCommand`: `handle_external_input`, `send_text`, `send_shortcut` and the arms without a function
  of their own.
* `commandLeaves`: how a command leaves the keys it touches, from the command alone.
* `handleCommand_leaves`: it does, when the kernel takes every write.
-/

namespace Waypad

namespace VirtualDevices

/-- A loop of `send_shortcut`: it ends at the first keysym without a key. -/
def keys (env : InputEnv) (state : ButtonState) (self : VirtualDevices) :
    List UInt32 → Outcome VirtualDevices VirtualDevices
  | [] => .ok self
  | keysym :: rest => do
    let self ← self.key env keysym state
    keys env state self rest

end VirtualDevices

/-- `AppState::input` and `AppState::gamepad`. -/
structure Inputs where
  devices : VirtualDevices
  gamepad : ControllerInputManager

/-- `validate_delta`. -/
def validateDelta (dx dy : ℚ) : Except InputError Unit :=
  if 10000 < |dx| ∨ 10000 < |dy| then .error (.message "Pointer delta rejected as invalid") else .ok ()

/-- `is_controller_device`. -/
def isControllerDevice : ExternalDeviceType → Bool
  | .gamepad | .joystick => true
  | _ => false

namespace Inputs

/-- What a call of the input manager makes of the inputs. -/
def onDevices (self : Inputs) : Outcome VirtualDevices VirtualDevices → Outcome Inputs Inputs
  | .ok devices => .ok { self with devices }
  | .error (err, devices) => .error (err, { self with devices })

/-- What a call of the gamepad, and the flush after it, makes of the inputs. -/
def onGamepad (self : Inputs) :
    Outcome ControllerInputManager ControllerInputManager → Outcome Inputs Inputs
  | .ok gamepad => .ok { self with gamepad := gamepad.flushPending }
  | .error (err, gamepad) => .error (err, { self with gamepad })

def pointerMove (env : InputEnv) (self : Inputs) (dx dy : ℚ) : Outcome Inputs Inputs :=
  match validateDelta dx dy with
  | .error err => .error (err, self)
  | .ok () => self.onDevices (self.devices.pointerMove env dx dy)

def scroll (env : InputEnv) (self : Inputs) (dx dy : ℚ) (finish : Bool) : Outcome Inputs Inputs :=
  match validateDelta dx dy with
  | .error err => .error (err, self)
  | .ok () => self.onDevices (self.devices.scroll env dx dy finish)

/-- `send_text`. -/
def sendText (env : InputEnv) (self : Inputs) (text : String) (copy : Copy) : Outcome Inputs Inputs :=
  if 4096 < text.utf8ByteSize then
    .error (.message "Text input rejected: maximum length is 4096 bytes", self)
  else self.onDevices (self.devices.text env text copy)

/-- `send_shortcut`. -/
def sendShortcut (env : InputEnv) (self : Inputs) (keys : List String) : Outcome Inputs Inputs :=
  if keys = [] ∨ 6 < keys.length then .error (.message "Shortcut must contain 1-6 keys", self)
  else match keys.mapM shortcutKeyToKeysym with
  | .error err => .error (.message err, self)
  | .ok keysyms => self.onDevices (do
    let devices ← self.devices.keys env .pressed keysyms
    devices.keys env .released keysyms.reverse)

/-- `handle_external_input`. -/
def handleExternalInput (env : InputEnv) (self : Inputs) (deviceType : ExternalDeviceType) :
    ExternalInputEvent → Outcome Inputs Inputs
  | .deviceConnected _ classes =>
    if isControllerDevice deviceType || classes.any isControllerDevice then
      self.onGamepad (self.gamepad.deviceConnected env)
    else .ok self
  | .deviceDisconnected =>
    if isControllerDevice deviceType then self.onGamepad (self.gamepad.deviceDisconnected env) else .ok self
  | .pointerMove dx dy => self.pointerMove env dx dy
  | .pointerButton button state => self.onDevices (self.devices.pointerButton env button state)
  | .pointerScroll dx dy finish => self.scroll env dx dy finish
  | .keyboardKey keysym state _ => self.onDevices (self.devices.key env keysym state)
  | .controllerButton button state => self.onGamepad (self.gamepad.button env button state)
  | .controllerAxis axis value =>
    -- refused before a gamepad is created
    if ¬ (-1 ≤ value ∧ value ≤ 1) then .error (.axisRange axis value, self)
    else self.onGamepad (self.gamepad.axis env axis value)

/-- The arms of `handle_command` that write to the devices with keys and buttons; `none` for the others. -/
def handleCommand (env : InputEnv) (self : Inputs) (copy : Copy) : Command → Option (Outcome Inputs Inputs)
  | .pointerMove dx dy => some (self.pointerMove env dx dy)
  | .pointerButton button state => some (self.onDevices (self.devices.pointerButton env button state))
  | .scroll dx dy finish => some (self.scroll env dx dy finish)
  | .externalInput _ deviceType event => some (self.handleExternalInput env deviceType event)
  | .key keysym state => some (self.onDevices (self.devices.key env keysym state))
  | .text text => some (self.sendText env text copy)
  | .shortcut keys => some (self.sendShortcut env keys)
  | _ => none

end Inputs

/-! ## What a command leaves held -/

/-- The kernel takes every write. -/
structure InputEnv.Willing (env : InputEnv) : Prop where
  accepts : ∀ i, env.accepts i = true
  padCreates : ∀ n, env.padCreates n = true
  padAccepts : ∀ n i, env.padAccepts n i = true

def keyLeaves (keysym : UInt32) (state : ButtonState) : HeldKey → Option Bool :=
  match keysymToKey keysym with
  | some mapping => leavesAll [mapping] state.down
  | none => fun _ => none

/-- The keys of the keysyms up to the first that has none. -/
def mappedPrefix : List UInt32 → List KeyMapping
  | [] => []
  | keysym :: rest =>
    match keysymToKey keysym with
    | some mapping => mapping :: mappedPrefix rest
    | none => []

/-- `send_shortcut` releases what it has pressed, unless it ends at a keysym that has no key. -/
def shortcutLeaves (keys : List String) : HeldKey → Option Bool :=
  if keys = [] ∨ 6 < keys.length then fun _ => none
  else match keys.mapM shortcutKeyToKeysym with
  | .error _ => fun _ => none
  | .ok keysyms =>
    leavesAll (mappedPrefix keysyms) (keysyms.any (fun keysym => (keysymToKey keysym).isNone))

def padLeaves (effect : ℕ → Option Bool) : HeldKey → Option Bool
  | .gamepad code => effect code
  | _ => none

def externalLeaves (available : Bool) (deviceType : ExternalDeviceType) :
    ExternalInputEvent → HeldKey → Option Bool
  | .deviceConnected _ classes =>
    if (isControllerDevice deviceType || classes.any isControllerDevice) && available then
      padLeaves ControllerInputManager.resetLeaves
    else fun _ => none
  | .deviceDisconnected =>
    if isControllerDevice deviceType then padLeaves ControllerInputManager.resetLeaves else fun _ => none
  | .pointerButton button state => VirtualDevices.pointerLeaves button state
  | .keyboardKey keysym state _ => keyLeaves keysym state
  | .controllerButton button state => padLeaves (ControllerInputManager.buttonLeaves available button state)
  | .pointerMove _ _ | .pointerScroll _ _ _ | .controllerAxis _ _ => fun _ => none

/-- How a command leaves the keys it touches. -/
def commandLeaves (available : Bool) (copy : Copy) : Command → HeldKey → Option Bool
  | .pointerButton button state => VirtualDevices.pointerLeaves button state
  | .externalInput _ deviceType event => externalLeaves available deviceType event
  | .key keysym state => keyLeaves keysym state
  | .text text => VirtualDevices.textLeaves text copy
  | .shortcut keys => shortcutLeaves keys
  | _ => fun _ => none

namespace VirtualDevices

section Ops

variable {env : InputEnv} {self : VirtualDevices}

theorem keyLeaves_state (hok : ∀ i, env.accepts i = true) (ht : self.Tracked) (keysym : UInt32)
    (state : ButtonState) : Leaves self (self.key env keysym state).state (keyLeaves keysym state) := by
  cases hmap : keysymToKey keysym with
  | some mapping =>
    obtain ⟨next, hnext, h⟩ := key_leaves hok ht hmap state
    rw [hnext, keyLeaves, hmap]
    exact h
  | none =>
    unfold key keyLeaves
    rw [hmap]
    exact LastWrite.Leaves.refl ht

/-- One more key. -/
theorem leavesAll_cons (mapping : KeyMapping) (rest : List KeyMapping) (pressed : Bool) (k : HeldKey) :
    (leavesAll rest pressed k).or (leavesAll [mapping] pressed k) =
      leavesAll (mapping :: rest) pressed k := by
  cases k with
  | keyboard code =>
    simp only [leavesAll, List.exists_mem_cons_iff, List.not_mem_nil, false_and, exists_false, or_false]
    by_cases hmapping : mapping.Touches code <;>
      by_cases hrest : ∃ mapping ∈ rest, mapping.Touches code <;> simp [hmapping, hrest]
  | pointer code => rfl
  | gamepad code => rfl

/-- A loop over keysyms touches the keys up to the first that has none. -/
theorem keys_leaves (hok : ∀ i, env.accepts i = true) (ht : self.Tracked) (keysyms : List UInt32)
    (state : ButtonState) :
    Leaves self (self.keys env state keysyms).state (leavesAll (mappedPrefix keysyms) state.down) := by
  induction keysyms generalizing self with
  | nil =>
    refine (LastWrite.Leaves.refl ht).congr (fun k => ?_)
    cases k <;> simp [leavesAll, mappedPrefix]
  | cons keysym rest ih =>
    cases hmap : keysymToKey keysym with
    | none =>
      unfold keys key
      rw [hmap, mappedPrefix, hmap]
      refine (LastWrite.Leaves.refl ht).congr (fun k => ?_)
      cases k <;> simp [leavesAll]
    | some mapping =>
      obtain ⟨mid, hmid, h1⟩ := key_leaves hok ht hmap state
      unfold keys
      rw [hmid, mappedPrefix, hmap]
      exact (h1.trans (ih h1.inv)).congr (leavesAll_cons mapping _ _)

theorem keys_ok (hok : ∀ i, env.accepts i = true) (ht : self.Tracked) {keysyms : List UInt32}
    (state : ButtonState) (hall : ∀ keysym ∈ keysyms, (keysymToKey keysym).isSome = true) :
    ∃ next, self.keys env state keysyms = .ok next := by
  induction keysyms generalizing self with
  | nil => exact ⟨self, rfl⟩
  | cons keysym rest ih =>
    obtain ⟨mapping, hmap⟩ := Option.isSome_iff_exists.mp (hall keysym List.mem_cons_self)
    obtain ⟨mid, hmid, h1⟩ := key_leaves hok ht hmap state
    unfold keys
    rw [hmid]
    exact ih h1.inv (fun keysym hmem => hall keysym (List.mem_cons_of_mem _ hmem))

theorem keys_error (hok : ∀ i, env.accepts i = true) (ht : self.Tracked) {keysyms : List UInt32}
    (state : ButtonState) (hnone : ∃ keysym ∈ keysyms, (keysymToKey keysym).isNone = true) :
    ∃ err, self.keys env state keysyms = .error err := by
  induction keysyms generalizing self with
  | nil =>
    obtain ⟨keysym, hmem, -⟩ := hnone
    cases hmem
  | cons keysym rest ih =>
    cases hmap : keysymToKey keysym with
    | none =>
      unfold keys key
      rw [hmap]
      exact ⟨_, rfl⟩
    | some mapping =>
      -- the keys before the unknown one are written all the same
      obtain ⟨mid, hmid, h1⟩ := key_leaves hok ht hmap state
      unfold keys
      rw [hmid]
      apply ih h1.inv
      obtain ⟨other, hmem, hother⟩ := hnone
      rcases List.mem_cons.mp hmem with rfl | hmem
      · rw [hmap] at hother
        cases hother
      · exact ⟨other, hmem, hother⟩

theorem mem_mappedPrefix {keysyms : List UInt32}
    (hall : ∀ keysym ∈ keysyms, (keysymToKey keysym).isSome = true) (mapping : KeyMapping) :
    mapping ∈ mappedPrefix keysyms ↔ ∃ keysym ∈ keysyms, keysymToKey keysym = some mapping := by
  induction keysyms with
  | nil => simp [mappedPrefix]
  | cons keysym rest ih =>
    obtain ⟨first, hmap⟩ := Option.isSome_iff_exists.mp (hall keysym List.mem_cons_self)
    rw [mappedPrefix, hmap, List.exists_mem_cons_iff, hmap, Option.some.injEq, List.mem_cons,
      ih (fun keysym hmem => hall keysym (List.mem_cons_of_mem _ hmem)), eq_comm]

/-- The two loops of `send_shortcut`. -/
theorem shortcut_leaves (hok : ∀ i, env.accepts i = true) (ht : self.Tracked) (keysyms : List UInt32) :
    Leaves self (Outcome.state (do
        let devices ← self.keys env .pressed keysyms
        devices.keys env .released keysyms.reverse))
      (leavesAll (mappedPrefix keysyms) (keysyms.any (fun keysym => (keysymToKey keysym).isNone))) := by
  have hpressed := keys_leaves hok ht keysyms .pressed
  -- an unknown key stops the presses, and then nothing is released
  by_cases hnone : ∃ keysym ∈ keysyms, (keysymToKey keysym).isNone = true
  · obtain ⟨⟨err, next⟩, herr⟩ := keys_error hok ht .pressed hnone
    rw [List.any_eq_true.mpr hnone]
    rw [herr] at hpressed ⊢
    exact hpressed
  · have hall : ∀ keysym ∈ keysyms, (keysymToKey keysym).isSome = true := by
      intro keysym hmem
      rw [← Bool.not_eq_false, Option.isSome_eq_false_iff]
      intro h
      exact hnone ⟨keysym, hmem, h⟩
    obtain ⟨mid, hmid⟩ := keys_ok hok ht .pressed hall
    rw [hmid] at hpressed ⊢
    have hreleased := keys_leaves hok hpressed.inv keysyms.reverse .released
    refine (hpressed.trans hreleased).congr (fun k => ?_)
    have hmem : ∀ mapping, mapping ∈ mappedPrefix keysyms.reverse ↔ mapping ∈ mappedPrefix keysyms := by
      intro mapping
      have hall' : ∀ keysym ∈ keysyms.reverse, (keysymToKey keysym).isSome = true :=
        fun keysym h => hall keysym (List.mem_reverse.mp h)
      rw [mem_mappedPrefix hall, mem_mappedPrefix hall']
      simp only [List.mem_reverse]
    have hany : keysyms.any (fun keysym => (keysymToKey keysym).isNone) = false := by
      rw [← Bool.not_eq_true, List.any_eq_true]
      exact hnone
    rw [hany]
    cases k with
    | keyboard code =>
      simp only [leavesAll, hmem, ButtonState.down]
      split_ifs <;> rfl
    | pointer code => rfl
    | gamepad code => rfl

end Ops

end VirtualDevices

namespace Inputs

def held (self : Inputs) : HeldKey → Bool
  | .gamepad code => self.gamepad.held code
  | k => self.devices.held k

structure Follows (available : Bool) (inputs : Inputs) : Prop where
  devices : inputs.devices.Tracked
  gamepad : inputs.gamepad.Follows available

abbrev Leaves (available : Bool) (inputs next : Inputs) (effect : HeldKey → Option Bool) : Prop :=
  LastWrite.Leaves (Follows available) held inputs next effect

section Ops

variable {env : InputEnv} {self : Inputs} {available : Bool}

theorem onDevices_leaves {effect : HeldKey → Option Bool} {result : Outcome VirtualDevices VirtualDevices}
    (hf : self.Follows available) (h : VirtualDevices.Leaves self.devices result.state effect)
    (hpad : ∀ code, effect (.gamepad code) = none) :
    Leaves available self (self.onDevices result).state effect := by
  have hstate : (self.onDevices result).state = { self with devices := result.state } := by
    cases result <;> rfl
  rw [hstate]
  refine { inv := { devices := h.inv, gamepad := hf.gamepad }, cells := fun k => ?_ }
  cases k with
  | keyboard code => exact h.cells (.keyboard code)
  | pointer code => exact h.cells (.pointer code)
  | gamepad code =>
    rw [hpad]
    rfl

theorem onGamepad_leaves {effect : ℕ → Option Bool}
    {result : Outcome ControllerInputManager ControllerInputManager} (hf : self.Follows available)
    (h : ControllerInputManager.Leaves available self.gamepad result.state effect) :
    Leaves available self (self.onGamepad result).state (padLeaves effect) := by
  have hgamepad : ControllerInputManager.Leaves available self.gamepad (self.onGamepad result).state.gamepad
      effect := by
    cases result with
    | ok gamepad => exact (h.trans (ControllerInputManager.flushPending_leaves h.inv))
    | error err => exact h
  have hdevices : (self.onGamepad result).state.devices = self.devices := by cases result <;> rfl
  refine { inv := { devices := hdevices ▸ hf.devices, gamepad := hgamepad.inv }, cells := fun k => ?_ }
  cases k with
  | gamepad code => exact hgamepad.cells code
  | keyboard code =>
    show (self.onGamepad result).state.devices.held (.keyboard code) = _
    rw [hdevices]
    rfl
  | pointer code =>
    show (self.onGamepad result).state.devices.held (.pointer code) = _
    rw [hdevices]
    rfl

theorem refused_leaves (hf : self.Follows available) (err : InputError) :
    Leaves available self (Outcome.state (.error (err, self) : Outcome Inputs Inputs)) (fun _ => none) :=
  LastWrite.Leaves.refl hf

theorem quiet_leaves {result : Outcome VirtualDevices VirtualDevices} (hf : self.Follows available)
    (h : VirtualDevices.Quiet self.devices result) :
    Leaves available self (self.onDevices result).state (fun _ => none) := by
  obtain ⟨next, rfl, hleaves⟩ := h
  exact onDevices_leaves hf hleaves (fun _ => rfl)

theorem pointerMove_leaves (hok : ∀ i, env.accepts i = true) (hf : self.Follows available) (dx dy : ℚ) :
    Leaves available self (self.pointerMove env dx dy).state (fun _ => none) := by
  unfold pointerMove
  split
  · exact refused_leaves hf _
  · exact quiet_leaves hf (VirtualDevices.pointerMove_quiet hok hf.devices dx dy)

theorem scroll_leaves (hok : ∀ i, env.accepts i = true) (hf : self.Follows available) (dx dy : ℚ)
    (finish : Bool) : Leaves available self (self.scroll env dx dy finish).state (fun _ => none) := by
  unfold scroll
  split
  · exact refused_leaves hf _
  · exact quiet_leaves hf (VirtualDevices.scroll_quiet hok hf.devices dx dy finish)

theorem key_leaves (hok : ∀ i, env.accepts i = true) (hf : self.Follows available) (keysym : UInt32)
    (state : ButtonState) :
    Leaves available self (self.onDevices (self.devices.key env keysym state)).state
      (keyLeaves keysym state) := by
  refine onDevices_leaves hf (VirtualDevices.keyLeaves_state hok hf.devices keysym state) (fun code => ?_)
  unfold keyLeaves
  cases keysymToKey keysym <;> rfl

theorem pointerButton_leaves (hok : ∀ i, env.accepts i = true) (hf : self.Follows available)
    (button : PointerButton) (state : ButtonState) :
    Leaves available self (self.onDevices (self.devices.pointerButton env button state)).state
      (VirtualDevices.pointerLeaves button state) :=
  onDevices_leaves hf (VirtualDevices.pointerButton_leaves hok hf.devices button state) (fun _ => rfl)

theorem sendText_leaves (hok : ∀ i, env.accepts i = true) (hf : self.Follows available) (text : String)
    (copy : Copy) :
    Leaves available self (self.sendText env text copy).state (VirtualDevices.textLeaves text copy) := by
  unfold sendText
  split
  · next hsize =>
    refine (refused_leaves hf _).congr (fun k => ?_)
    rw [VirtualDevices.textLeaves, if_pos (Or.inr hsize)]
  · exact onDevices_leaves hf (VirtualDevices.text_leaves hok hf.devices text copy)
      (VirtualDevices.textLeaves_gamepad text copy)

theorem sendShortcut_leaves (hok : ∀ i, env.accepts i = true) (hf : self.Follows available)
    (keys : List String) :
    Leaves available self (self.sendShortcut env keys).state (shortcutLeaves keys) := by
  unfold sendShortcut shortcutLeaves
  split
  · exact refused_leaves hf _
  cases keys.mapM shortcutKeyToKeysym with
  | error err => exact refused_leaves hf _
  | ok keysyms =>
    exact onDevices_leaves hf (VirtualDevices.shortcut_leaves hok hf.devices keysyms) (fun _ => rfl)

theorem handleExternalInput_leaves (hok : env.Willing) (hf : self.Follows available)
    (deviceType : ExternalDeviceType) (event : ExternalInputEvent) :
    Leaves available self (self.handleExternalInput env deviceType event).state
      (externalLeaves available deviceType event) := by
  have hquiet : Leaves available self self (fun _ => none) := LastWrite.Leaves.refl hf
  cases event with
  | deviceConnected name classes =>
    dsimp only [handleExternalInput, externalLeaves]
    by_cases hcontroller : (isControllerDevice deviceType || classes.any isControllerDevice) = true
    · rw [if_pos hcontroller, hcontroller, Bool.true_and]
      have h := onGamepad_leaves hf (ControllerInputManager.deviceConnected_leaves hok.padCreates
        hok.padAccepts hf.gamepad)
      refine h.congr (fun k => ?_)
      cases available <;> cases k <;> rfl
    · rw [if_neg hcontroller, Bool.eq_false_iff.mpr hcontroller]
      exact hquiet
  | deviceDisconnected =>
    dsimp only [handleExternalInput, externalLeaves]
    split
    · exact onGamepad_leaves hf (ControllerInputManager.deviceDisconnected_leaves hok.padAccepts hf.gamepad)
    · exact hquiet
  | pointerMove dx dy => exact pointerMove_leaves hok.accepts hf dx dy
  | pointerButton button state => exact pointerButton_leaves hok.accepts hf button state
  | pointerScroll dx dy finish => exact scroll_leaves hok.accepts hf dx dy finish
  | keyboardKey keysym state repeated => exact key_leaves hok.accepts hf keysym state
  | controllerButton button state =>
    exact onGamepad_leaves hf
      (ControllerInputManager.button_leaves hok.padCreates hok.padAccepts hf.gamepad button state)
  | controllerAxis axis value =>
    -- a value that is no number is refused
    dsimp only [handleExternalInput, externalLeaves]
    split
    · exact refused_leaves hf _
    · refine (onGamepad_leaves hf (ControllerInputManager.axis_leaves hok.padCreates hok.padAccepts
        hf.gamepad axis value)).congr (fun k => ?_)
      cases k <;> rfl

/-- **An input command leaves the keys as `commandLeaves` says.** -/
theorem handleCommand_leaves (hok : env.Willing) (hf : self.Follows available) {copy : Copy}
    {command : Command} {result : Outcome Inputs Inputs}
    (h : self.handleCommand env copy command = some result) :
    Leaves available self result.state (commandLeaves available copy command) := by
  cases command with
  | pointerMove dx dy =>
    cases h
    exact pointerMove_leaves hok.accepts hf dx dy
  | pointerButton button state =>
    cases h
    exact pointerButton_leaves hok.accepts hf button state
  | scroll dx dy finish =>
    cases h
    exact scroll_leaves hok.accepts hf dx dy finish
  | externalInput deviceId deviceType event =>
    cases h
    exact handleExternalInput_leaves hok hf deviceType event
  | key keysym state =>
    cases h
    exact key_leaves hok.accepts hf keysym state
  | text text =>
    cases h
    exact sendText_leaves hok.accepts hf text copy
  | shortcut keys =>
    cases h
    exact sendShortcut_leaves hok.accepts hf keys
  | _ => cases h

end Ops

end Inputs

end Waypad
