import Mathlib.Data.Finset.Sort
import Mathlib.Data.Rat.Floor
import Waypad.Input.Keymap
import Waypad.Lib.LastWrite
import Waypad.Lib.Round
import Waypad.Protocol

/-!
# Waypad.Input.Uinput — the virtual pointer and keyboard (`src/uinput.rs`, `src/input.rs`)

A device is the events written to it.  Whether the kernel takes the `i`th write is the parameter `InputEnv`;
a write it refuses ends the operation, with what was done before it.  Coordinates are rationals, and their
arithmetic is exact.

* `key`, `text`, `pointerButton`, `pointerMove`, `scroll`.
* `down`: the keys the kernel holds down after some events.
-/

namespace Waypad

/-- Whether the kernel takes the `i`th write to the pointer and the keyboard, creates the `n`th gamepad, and
takes the `i`th write to that one. -/
structure InputEnv where
  accepts : ℕ → Bool
  padCreates : ℕ → Bool
  padAccepts : ℕ → ℕ → Bool

/-- A kernel that takes every write. -/
def InputEnv.willing : InputEnv :=
  { accepts := fun _ => true, padCreates := fun _ => true, padAccepts := fun _ _ => true }

inductive InputError
  | message (text : String)
  /-- `Controller axis value out of range for {axis}: {value}` -/
  | axisRange (axis : String) (value : ℚ)
  /-- the operating system's -/
  | io
  deriving DecidableEq, Repr

/-- What an operation on `σ` comes to: an error leaves what was done before it. -/
abbrev Outcome (σ : Type) : Type → Type := Except (InputError × σ)

structure InputEvent where
  eventType : ℕ
  code : ℕ
  value : ℤ
  deriving DecidableEq, Repr

/-! ## Event codes -/

def evSyn : ℕ := 0x00
def evKey : ℕ := 0x01
def evRel : ℕ := 0x02
def evAbs : ℕ := 0x03
def synReport : ℕ := 0x00
def relX : ℕ := 0x00
def relY : ℕ := 0x01
def relHwheel : ℕ := 0x06
def relWheel : ℕ := 0x08
def relWheelHiRes : ℕ := 0x0b
def relHwheelHiRes : ℕ := 0x0c
def btnLeft : ℕ := 0x110
def btnRight : ℕ := 0x111
def btnMiddle : ℕ := 0x112

namespace InputEvent

def syn : InputEvent := ⟨evSyn, synReport, 0⟩

def key (code : ℕ) (value : ℤ) : InputEvent := ⟨evKey, code, value⟩

def rel (code : ℕ) (value : ℤ) : InputEvent := ⟨evRel, code, value⟩

/-- What the kernel makes of the event: the key is down or up. -/
def effect (self : InputEvent) (code : ℕ) : Option Bool :=
  if self.eventType = evKey ∧ self.code = code then some (self.value != 0) else none

end InputEvent

/-- The keys that are down after the events. -/
def down (log : List InputEvent) (code : ℕ) : Bool :=
  (LastWrite.last InputEvent.effect log code).getD false

/-- `uinput_code`. -/
def PointerButton.uinputCode : PointerButton → ℕ
  | .left => btnLeft
  | .right => btnRight
  | .middle => btnMiddle

/-- `uinput_value`. -/
def ButtonState.uinputValue : ButtonState → ℤ
  | .pressed => 1
  | .released => 0

/-- `f64::round`: halves away from zero. -/
def roundCoord (x : ℚ) : ℤ := if 0 ≤ x then ⌊x + 1 / 2⌋ else -⌊-x + 1 / 2⌋

theorem roundCoord_eq_away (x : ℚ) : roundCoord x = Round.away x := rfl

/-- `take_scroll_detents`: the detents and what remains.  `as i32` is exact for what `validate_delta` lets
through. -/
def takeScrollDetents (remainder : ℚ) (finish : Bool) : ℤ × ℚ :=
  if finish ∧ 24 / 8 < |remainder| then (if 0 < remainder then 1 else -1, 0)
  else
    let detents := if 0 ≤ remainder then ⌊remainder / 24⌋ else -⌊-remainder / 24⌋
    (detents, remainder - detents * 24)

/-- What comes of handing a text to `wl-copy`: it is not installed, fails, or takes it. -/
inductive Copy
  | missing | failed | taken
  deriving DecidableEq, Repr

structure VirtualDevices where
  relative : List InputEvent
  keyboard : List InputEvent
  scrollXRemainder : ℚ
  scrollYRemainder : ℚ
  pressedKeys : Finset ℕ
  pressedButtons : Finset ℕ
  /-- writes tried so far -/
  writes : ℕ
  deriving DecidableEq

namespace VirtualDevices

/-- `VirtualInputBackend::create`. -/
def create : VirtualDevices :=
  { relative := [], keyboard := [], scrollXRemainder := 0, scrollYRemainder := 0, pressedKeys := ∅
    pressedButtons := ∅, writes := 0 }

/-- `emit_relative`. -/
def emitRelative (env : InputEnv) (self : VirtualDevices) (event : InputEvent) :
    Outcome VirtualDevices VirtualDevices :=
  if env.accepts self.writes then
    .ok { self with relative := self.relative ++ [event], writes := self.writes + 1 }
  else .error (.io, { self with writes := self.writes + 1 })

/-- `emit_keyboard`. -/
def emitKeyboard (env : InputEnv) (self : VirtualDevices) (event : InputEvent) :
    Outcome VirtualDevices VirtualDevices :=
  if env.accepts self.writes then
    .ok { self with keyboard := self.keyboard ++ [event], writes := self.writes + 1 }
  else .error (.io, { self with writes := self.writes + 1 })

/-- `sync_relative`. -/
def syncRelative (env : InputEnv) (self : VirtualDevices) : Outcome VirtualDevices VirtualDevices :=
  self.emitRelative env .syn

/-- `sync_keyboard`. -/
def syncKeyboard (env : InputEnv) (self : VirtualDevices) : Outcome VirtualDevices VirtualDevices :=
  self.emitKeyboard env .syn

/-- `pointer_move`. -/
def pointerMove (env : InputEnv) (self : VirtualDevices) (dx dy : ℚ) :
    Outcome VirtualDevices VirtualDevices :=
  let dx := roundCoord dx
  let dy := roundCoord dy
  if dx = 0 ∧ dy = 0 then .ok self
  else do
    let self ← if dx ≠ 0 then self.emitRelative env (.rel relX dx) else .ok self
    let self ← if dy ≠ 0 then self.emitRelative env (.rel relY dy) else .ok self
    self.syncRelative env

/-- `scroll`. -/
def scroll (env : InputEnv) (self : VirtualDevices) (dx dy : ℚ) (finish : Bool) :
    Outcome VirtualDevices VirtualDevices :=
  let (horizontal, scrollXRemainder) := takeScrollDetents (self.scrollXRemainder + dx) finish
  let (vertical, scrollYRemainder) := takeScrollDetents (self.scrollYRemainder + dy) finish
  -- the remainders are kept also when nothing is written
  let self := { self with scrollXRemainder, scrollYRemainder }
  if horizontal = 0 ∧ vertical = 0 then .ok self
  else do
    let self ← if vertical ≠ 0 then do
        let self ← self.emitRelative env (.rel relWheel vertical)
        self.emitRelative env (.rel relWheelHiRes (vertical * 120))
      else .ok self
    let self ← if horizontal ≠ 0 then do
        let self ← self.emitRelative env (.rel relHwheel horizontal)
        self.emitRelative env (.rel relHwheelHiRes (horizontal * 120))
      else .ok self
    self.syncRelative env

/-- `pointer_button`. -/
def pointerButton (env : InputEnv) (self : VirtualDevices) (button : PointerButton)
    (state : ButtonState) : Outcome VirtualDevices VirtualDevices :=
  let code := button.uinputCode
  let value := state.uinputValue
  if (value == 1) = decide (code ∈ self.pressedButtons) then .ok self
  else do
    let self := { self with
      pressedButtons :=
        if value = 1 then insert code self.pressedButtons else self.pressedButtons.erase code }
    let self ← self.emitRelative env (.key code value)
    self.syncRelative env

/-- `{keysym:x}`. -/
def hex (n : ℕ) : String := String.ofList (Nat.toDigits 16 n)

/-- `key`. -/
def key (env : InputEnv) (self : VirtualDevices) (keysym : UInt32) (state : ButtonState) :
    Outcome VirtualDevices VirtualDevices :=
  match keysymToKey keysym with
  | none => .error (.message ("Unsupported keysym for uinput: 0x" ++ hex keysym.toNat), self)
  | some mapping => do
    let value := state.uinputValue
    -- the cache changes before the writes, which may fail
    let self := { self with
      pressedKeys :=
        if value = 1 then insert mapping.code self.pressedKeys
        else self.pressedKeys.erase mapping.code }
    let self ←
      if mapping.shift ∧ value = 1 then self.emitKeyboard env (.key Key.leftShift 1) else .ok self
    let self ← self.emitKeyboard env (.key mapping.code value)
    let self ←
      if mapping.shift ∧ value = 0 then self.emitKeyboard env (.key Key.leftShift 0) else .ok self
    self.syncKeyboard env

/-- One character of `text`. -/
def tap (env : InputEnv) (self : VirtualDevices) (mapping : KeyMapping) :
    Outcome VirtualDevices VirtualDevices := do
  let self ← if mapping.shift then self.emitKeyboard env (.key Key.leftShift 1) else .ok self
  let self ← self.emitKeyboard env (.key mapping.code 1)
  let self ← self.emitKeyboard env (.key mapping.code 0)
  let self ← if mapping.shift then self.emitKeyboard env (.key Key.leftShift 0) else .ok self
  self.syncKeyboard env

/-- The loop of `text`. -/
def taps (env : InputEnv) (self : VirtualDevices) : List KeyMapping → Outcome VirtualDevices VirtualDevices
  | [] => .ok self
  | mapping :: rest => do
    let self ← self.tap env mapping
    taps env self rest

/-- `uinput_text`; `copy` is what comes of `wl-copy`, should it be asked. -/
def text (env : InputEnv) (self : VirtualDevices) (text : String) (copy : Copy) :
    Outcome VirtualDevices VirtualDevices :=
  if text.isEmpty then .ok self
  else if 4096 < text.utf8ByteSize then
    .error (.message "Text input rejected: maximum length is 4096 bytes", self)
  else match text.toList.mapM charToKey with
  | some mappings => self.taps env mappings
  | none =>
    -- one character without a key sends the whole text over the clipboard
    match copy with
    | .missing => .error (.message "Text input fallback requires wl-copy from wl-clipboard", self)
    | .failed => .error (.io, self)
    | .taken => do
      let self ← self.key env 0xffe3 .pressed
      let self ← self.key env 0x76 .pressed
      let self ← self.key env 0x76 .released
      self.key env 0xffe3 .released

def emitAllRelative (env : InputEnv) (self : VirtualDevices) :
    List InputEvent → Outcome VirtualDevices VirtualDevices
  | [] => .ok self
  | event :: rest => do
    let self ← self.emitRelative env event
    emitAllRelative env self rest

def emitAllKeyboard (env : InputEnv) (self : VirtualDevices) :
    List InputEvent → Outcome VirtualDevices VirtualDevices
  | [] => .ok self
  | event :: rest => do
    let self ← self.emitKeyboard env event
    emitAllKeyboard env self rest

end VirtualDevices

/-! ## What the events leave -/

/-- The keys that go with a symbol. -/
def KeyMapping.Touches (mapping : KeyMapping) (code : ℕ) : Prop :=
  code = mapping.code ∨ mapping.shift = true ∧ code = Key.leftShift

instance (mapping : KeyMapping) : DecidablePred mapping.Touches := fun code =>
  inferInstanceAs (Decidable (code = mapping.code ∨ mapping.shift = true ∧ code = Key.leftShift))

namespace KeyMapping

/-- The events of `key`. -/
def events (mapping : KeyMapping) : ButtonState → List InputEvent
  | .pressed => (if mapping.shift then [.key Key.leftShift 1] else []) ++ [.key mapping.code 1, .syn]
  | .released =>
    .key mapping.code 0 :: (if mapping.shift then [.key Key.leftShift 0] else []) ++ [.syn]

/-- The events of one character of `text`. -/
def tapEvents (mapping : KeyMapping) : List InputEvent :=
  (if mapping.shift then [.key Key.leftShift 1] else []) ++
    [.key mapping.code 1, .key mapping.code 0] ++
    (if mapping.shift then [.key Key.leftShift 0] else []) ++ [.syn]

end KeyMapping

/-- What a pressed or released button is left as. -/
def ButtonState.down : ButtonState → Bool
  | .pressed => true
  | .released => false

theorem effect_key (code : ℕ) (value : ℤ) (k : ℕ) :
    (InputEvent.key code value).effect k = if code = k then some (value != 0) else none := by
  simp [InputEvent.effect, InputEvent.key]

@[simp] theorem effect_syn (k : ℕ) : InputEvent.syn.effect k = none := by
  simp [InputEvent.effect, InputEvent.syn, evSyn, evKey]

@[simp] theorem effect_rel (code : ℕ) (value : ℤ) (k : ℕ) :
    (InputEvent.rel code value).effect k = none := by
  simp [InputEvent.effect, InputEvent.rel, evRel, evKey]

theorem down_append (log events : List InputEvent) (code : ℕ) :
    down (log ++ events) code =
      (LastWrite.last InputEvent.effect events code).getD (down log code) := by
  rw [down, LastWrite.last_append_getD]
  rfl

/-- The events of a button. -/
theorem last_button (code : ℕ) (state : ButtonState) (k : ℕ) :
    LastWrite.last InputEvent.effect [.key code state.uinputValue, .syn] k =
      if k = code then some state.down else none := by
  rw [LastWrite.last, LastWrite.last_singleton, effect_syn, Option.none_or, effect_key]
  by_cases hk : k = code
  · rw [if_pos hk.symm, if_pos hk]
    cases state <;> rfl
  · rw [if_neg (Ne.symm hk), if_neg hk]

theorem last_events (mapping : KeyMapping) (state : ButtonState) (k : ℕ) :
    LastWrite.last InputEvent.effect (mapping.events state) k =
      if mapping.Touches k then some state.down else none := by
  obtain ⟨code, shift⟩ := mapping
  have hcode : code = k ↔ k = code := eq_comm
  have hshift : Key.leftShift = k ↔ k = Key.leftShift := eq_comm
  cases state <;> cases shift <;>
    simp only [KeyMapping.events, KeyMapping.Touches, ButtonState.down, LastWrite.last, effect_key,
      effect_syn, hcode, hshift, Bool.false_eq_true, ↓reduceIte, List.nil_append, List.cons_append,
      false_and, true_and, or_false, Option.none_or, Option.or_none] <;>
    split_ifs <;> simp_all

theorem last_tapEvents (mapping : KeyMapping) (k : ℕ) :
    LastWrite.last InputEvent.effect mapping.tapEvents k =
      if mapping.Touches k then some false else none := by
  obtain ⟨code, shift⟩ := mapping
  have hcode : code = k ↔ k = code := eq_comm
  have hshift : Key.leftShift = k ↔ k = Key.leftShift := eq_comm
  cases shift <;>
    simp only [KeyMapping.tapEvents, KeyMapping.Touches, LastWrite.last, effect_key, effect_syn, hcode,
      hshift, Bool.false_eq_true, ↓reduceIte, List.nil_append, List.cons_append,
      false_and, true_and, or_false, Option.none_or, Option.or_none] <;>
    split_ifs <;> simp_all

end Waypad
