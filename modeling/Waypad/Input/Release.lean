import Waypad.Input.Commands
import Waypad.Server.Gate

/-!
# Waypad.Input.Release — what is held when nobody is connected

The host of `Waypad.Server.Host` together with the virtual devices its connections share.
`handle_connection` ends at a failed `recv` or `send`, and neither `InputManager::release_all` nor a reset
of the gamepad is called there, so what its commands have left held stays so.

* `Desk`, `Desk.step`: an input command writes to the devices; nothing else does but the start and the end
  of the daemon, which makes and destroys them.
* `leaves`: how an action leaves the keys it touches.
* `run_leaves`: what is held is what the last command to touch it has left.
* `stuck_control`: Ctrl stays down when the connection ends.
* `released_iff`: when nothing is held at rest.
-/

namespace Waypad

/-- `err.to_string()`; `shown` is the part that is not the daemon's. -/
def InputError.text (shown : String) : InputError → String
  | .message text => text
  | .axisRange axis _ => "Controller axis value out of range for " ++ axis ++ ": " ++ shown
  | .io => shown

namespace Inputs

/-- `Result<Option<serde_json::Value>>` of an input command. -/
def answer (shown : String) : Outcome Inputs Inputs → Except String (Option Value)
  | .ok _ => .ok none
  | .error (err, _) => .error (err.text shown)

/-- The devices of a daemon that is not running, or has just been started. -/
def renew (self : Inputs) : Inputs :=
  { devices := { VirtualDevices.create with writes := self.devices.writes }
    gamepad := { self.gamepad with backend := none } }

end Inputs

/-- The host and the virtual devices of its daemon. -/
structure Desk where
  host : Host
  inputs : Inputs

/-- The action makes or destroys the devices. -/
def Act.renews : Act → Bool
  | .serve _ | .exit => true
  | _ => false

namespace Desk

structure Setup where
  host : Waypad.Setup
  env : InputEnv
  /-- `external_input.controller` of the capabilities -/
  available : Bool
  unavailableReason : String

inductive Act
  /-- an input command of an authenticated connection -/
  | input (conn : ConnId) (requestId : String) (command : Command) (copy : Copy) (shown : String)
  /-- anything else -/
  | other (act : Waypad.Act)

def init (P : Setup) : Desk :=
  { host := .init, inputs := { devices := .create, gamepad := .new P.available P.unavailableReason } }

def stepInput (P : Setup) (s : Desk) (c : ConnId) (requestId : String) (command : Command) (copy : Copy)
    (shown : String) : Option Desk :=
  if (s.host.authenticated c).isSome then do
    let result ← s.inputs.handleCommand P.env copy command
    let host ← Host.step P.host s.host (.command c requestId (Inputs.answer shown result))
    some { host, inputs := result.state }
  else none

def step (P : Setup) (s : Desk) : Act → Option Desk
  | .input c requestId command copy shown => s.stepInput P c requestId command copy shown
  | .other act => do
    let host ← Host.step P.host s.host act
    some { host, inputs := if act.renews then s.inputs.renew else s.inputs }

/-- No control connection is open. -/
def AtRest (s : Desk) : Prop := ∀ c, s.host.conn c = none

def held (s : Desk) (k : HeldKey) : Bool := s.inputs.held k

/-- How an action leaves the keys it touches. -/
def leaves (P : Setup) : Act → HeldKey → Option Bool
  | .input _ _ command copy _, k => commandLeaves P.available copy command k
  | .other act, _ => if act.renews then some false else none

abbrev Leaves (P : Setup) (s t : Desk) (effect : HeldKey → Option Bool) : Prop :=
  LastWrite.Leaves (fun s : Desk => s.inputs.Follows P.available) held s t effect

section Runs

variable {P : Setup} {s t : Desk} {a : Act}

theorem init_follows (P : Setup) : (init P).inputs.Follows P.available :=
  { devices := VirtualDevices.create_tracked
    gamepad := ControllerInputManager.new_follows P.available P.unavailableReason }

theorem init_held (P : Setup) (k : HeldKey) : (init P).held k = false := by
  cases k <;> rfl

/-- One step. -/
theorem step_leaves (hok : P.env.Willing) (hf : s.inputs.Follows P.available) (h : step P s a = some t) :
    Leaves P s t (leaves P a) := by
  cases a with
  | input c requestId command copy shown =>
    simp only [step, stepInput, Option.ite_none_right_eq_some, Option.bind_eq_bind,
      Option.bind_eq_some_iff, Option.some.injEq] at h
    obtain ⟨-, result, hresult, host, -, rfl⟩ := h
    have hleaves := Inputs.handleCommand_leaves hok hf hresult
    exact { inv := hleaves.inv, cells := hleaves.cells }
  | other act =>
    simp only [step, Option.bind_eq_bind, Option.bind_eq_some_iff, Option.some.injEq] at h
    obtain ⟨host, -, rfl⟩ := h
    cases hrenews : act.renews with
    | false =>
      refine { inv := hf, cells := fun k => ?_ }
      rw [leaves, hrenews]
      rfl
    | true =>
      -- new devices, and a gamepad without a backend, hold nothing
      refine { inv := ?_, cells := fun k => ?_ }
      · exact
          { devices := { buttons := fun _ => rfl, keys := fun _ hdown => by cases hdown }
            gamepad := { available := hf.gamepad.available, backend := fun _ hb => by cases hb } }
      · rw [leaves, hrenews]
        cases k <;> rfl

/-- **Runs**: what is held is what the last action to touch it has left. -/
theorem run_leaves (hok : P.env.Willing) {as : List Act} (hr : Trans.Runs (step P) Trans.Free (init P) as s)
    (k : HeldKey) : s.held k = (LastWrite.last (leaves P) as k).getD false := by
  have h : Leaves P (init P) s (LastWrite.last (leaves P) as) :=
    LastWrite.runs_leaves (fun _ _ _ hf _ hs => step_leaves hok hf hs) hr (init_follows P)
  rw [h.cells, init_held]

end Runs

/-! ## A key that stays down -/

/-- At every moment of the run at which no connection is open, nothing is held. -/
def ReleasedAtRest (P : Setup) (as : List Act) : Prop :=
  ∀ as1 as2 s, as = as1 ++ as2 → Trans.Runs (step P) Trans.Free (init P) as1 s → s.AtRest →
    ∀ k, s.held k = false

def demoSetup : Setup :=
  { host := Host.demoSetup
    env := { accepts := fun _ => true, padCreates := fun _ => true, padAccepts := fun _ _ => true }
    available := true
    unavailableReason := "" }

/-- A phone that has paired sends a command and is gone. -/
def commandRun (command : Command) : List Act :=
  Host.pairingRun.map .other ++
    [.input 0 "r2" command .missing "", .other (.send 0 true), .other (.hangup 0)]

/-- Ctrl is pressed, and the connection ends. -/
theorem stuck_control : ∃ s, Trans.run (step demoSetup) (init demoSetup)
    (commandRun (.key 0xffe3 .pressed)) = some s ∧ s.AtRest ∧ s.held (.keyboard Key.leftCtrl) = true := by
  refine ⟨_, rfl, fun c => ?_, by decide⟩
  -- the run opened connection 0 only, and has closed it
  by_cases hc : c = 0
  · subst hc
    rfl
  · simp only [Host.conn, Host.drop_daemon, Host.put_daemon, Option.bind_some, Function.update_of_ne hc]
    exact Function.update_of_ne hc _ _

/-! ## When nothing is held -/

/-- At every moment of the run at which no connection is open, the last action to touch a key or a button
has left it up. -/
def BalancedAtRest (P : Setup) (as : List Act) : Prop :=
  ∀ as1 as2 s, as = as1 ++ as2 → Trans.Runs (step P) Trans.Free (init P) as1 s → s.AtRest →
    ∀ k, LastWrite.last (leaves P) as1 k ≠ some true

/-- **Nothing is held at rest** when, and only when, the commands themselves have released it. -/
theorem released_iff (P : Setup) (hok : P.env.Willing) (as : List Act) :
    ReleasedAtRest P as ↔ BalancedAtRest P as := by
  constructor
  · intro h as1 as2 s has hr hrest k hlast
    have hup := h as1 as2 s has hr hrest k
    rw [run_leaves hok hr, hlast] at hup
    cases hup
  · intro h as1 as2 s has hr hrest k
    have hlast := h as1 as2 s has hr hrest k
    rw [run_leaves hok hr]
    cases hleft : LastWrite.last (leaves P) as1 k with
    | none => rfl
    | some pressed =>
      cases pressed with
      | false => rfl
      | true => exact absurd hleft hlast

/-- A run none of whose commands leaves anything held. -/
theorem balanced_of_forall {P : Setup} {as : List Act} (h : ∀ a ∈ as, ∀ k, leaves P a k ≠ some true) :
    BalancedAtRest P as := by
  intro as1 as2 s has _ _ k
  exact LastWrite.last_ne (fun a hmem => h a (has ▸ List.mem_append_left as2 hmem) k)

/-- A text releases what it presses, and so the run holds nothing at its end. -/
theorem released_typed : ∃ s,
    Trans.run (step demoSetup) (init demoSetup) (commandRun (.text "Hi")) = some s ∧
      ReleasedAtRest demoSetup (commandRun (.text "Hi")) := by
  refine ⟨_, rfl, (released_iff demoSetup ⟨fun _ => rfl, fun _ => rfl, fun _ _ => rfl⟩ _).mpr
    (balanced_of_forall (fun a ha k => ?_))⟩
  have hother : ∀ act, leaves demoSetup (.other act) k ≠ some true := by
    intro act
    show (if act.renews then some false else none) ≠ some true
    split <;> simp
  rw [commandRun, List.mem_append, List.mem_map] at ha
  rcases ha with ⟨act, -, rfl⟩ | ha
  · exact hother act
  · simp only [List.mem_cons, List.not_mem_nil, or_false] at ha
    rcases ha with rfl | rfl | rfl
    · exact VirtualDevices.textLeaves_false "Hi" .missing k
    · exact hother _
    · exact hother _

end Desk

end Waypad
