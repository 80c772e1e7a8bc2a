import Waypad.Capability
import Waypad.Input.Gamepad
import Waypad.Screen.Monitors

/-!
# Waypad.Input.Backends — the backends of the input (`src/input.rs`)

`InputManager::from_capabilities` makes the backend that is announced, and `prepare` gets it ready; only the
portal has something to ask for that.

* `PortalBackend`: the requests, `approve_of_request`, and the calls on the session.
* `InputManager.ready`: what `prepare` answers when nothing is left to ask; `prepare_ready`, `prepare_error`.
-/

namespace Waypad

/-! ## The portal -/

/-- A call of `org.freedesktop.portal.RemoteDesktop`. -/
inductive PortalNotify
  | pointerMotion (dx dy : ℚ)
  | pointerMotionAbsolute (stream : UInt32) (x y : ℚ)
  | pointerButton (code : Int32) (state : UInt32)
  | pointerAxis (finish : Bool) (dx dy : ℚ)
  | keyboardKeysym (keysym : Int32) (state : UInt32)

/-- A method of `InputManager`. -/
inductive InputCall
  | pointerMove (dx dy : ℚ)
  | pointerMoveAbsolute (x y : ℚ)
  | pointerButton (button : PointerButton) (state : ButtonState)
  | scroll (dx dy : ℚ) (finish : Bool)
  | key (keysym : UInt32) (state : ButtonState)
  | text (text : String)

def PointerButton.evdevCode : PointerButton → Int32
  | left => 272
  | right => 273
  | middle => 274

def ButtonState.portalState : ButtonState → UInt32
  | released => 0
  | pressed => 1

/-- What the portal answers to the requests of a `prepare`; an error ends it. -/
structure PortalAnswers where
  /-- `CreateSession` (or the proxy it is called on): the response, and the session handle -/
  create : Except String (UInt32 × Option String)
  /-- `OwnedObjectPath::try_from` on the handle -/
  path : Except String Unit
  /-- `SelectDevices` -/
  select : Except String UInt32
  /-- `Start`: the response, and the devices -/
  start : Except String (UInt32 × Option UInt32)

/-- The user has let the session have a pointer or a keyboard. -/
structure PortalAnswers.Approve (answers : PortalAnswers) (handle : String) : Prop where
  create : answers.create = .ok (0, some handle)
  path : answers.path = .ok ()
  select : answers.select = .ok 0
  start : ∃ devices, answers.start = .ok (0, some devices) ∧ devices &&& (1 ||| 2) ≠ 0

structure PortalBackend where
  sessionHandle : Option String
  grantedDevices : UInt32
  deriving DecidableEq

namespace PortalBackend

/-- `WaylandPortalInputBackend::new`. -/
def new : PortalBackend := { sessionHandle := none, grantedDevices := 0 }

def ready (devices : UInt32) : Value :=
  .object [("backend", .string "wayland-portal"), ("devices", .number devices.toNat), ("status", .string "ready")]

/-- The requests of `prepare`: the session and its devices. -/
def request (answers : PortalAnswers) : Except String (String × UInt32) := do
  let (response, handle) ← answers.create
  if response ≠ 0 then throw "Input injection requires portal approval on this session"
  let some handle := handle | throw "RemoteDesktop portal did not return a session handle"
  answers.path
  let response ← answers.select
  if response ≠ 0 then throw "RemoteDesktop device selection was denied by the portal"
  let (response, devices) ← answers.start
  if response ≠ 0 then throw "RemoteDesktop portal approval was denied or cancelled"
  let devices := devices.getD 0
  if devices &&& (1 ||| 2) = 0 then throw "RemoteDesktop portal approved no keyboard or pointer devices"
  return (handle, devices)

/-- `prepare`. -/
def prepare (answers : PortalAnswers) (self : PortalBackend) : Except String Value × PortalBackend :=
  if self.sessionHandle.isSome then (.ok (ready self.grantedDevices), self)
  else match request answers with
  | .error err => (.error err, self)
  | .ok (handle, devices) => (.ok (ready devices), { sessionHandle := some handle, grantedDevices := devices })

/-- `prepare` takes a session when all requests are answered, none is denied and a device is among those. -/
theorem approve_of_request {answers : PortalAnswers} {handle : String} {devices : UInt32}
    (h : request answers = .ok (handle, devices)) : answers.Approve handle := by
  simp only [request, bind, Except.bind, pure, Except.pure, throw, throwThe, MonadExceptOf.throw] at h
  split at h
  · cases h
  next created hcreate =>
  split at h
  · cases h
  next hcreated =>
  split at h
  case h_2 => cases h
  next name hname =>
  split at h
  · cases h
  next hpath =>
  split at h
  · cases h
  next selected hselect =>
  split at h
  · cases h
  next hselected =>
  split at h
  · cases h
  next started hstart =>
  split at h
  · cases h
  next hstarted =>
  split_ifs at h with hdevices
  cases h
  rw [not_not] at hcreated hselected hstarted
  refine ⟨?_, hpath, hselected ▸ hselect, ?_⟩
  · rw [hcreate, ← hcreated, ← hname]
  · obtain ⟨response, devices⟩ := started
    obtain rfl : response = 0 := hstarted
    cases devices with
    | none => exact absurd (by decide) hdevices
    | some devices => exact ⟨devices, hstart, hdevices⟩

/-- The calls each method makes on the session. -/
def notifies : InputCall → List PortalNotify
  | .pointerMove dx dy => [.pointerMotion dx dy]
  | .pointerMoveAbsolute x y => [.pointerMotionAbsolute 0 x y]
  | .pointerButton button state => [.pointerButton button.evdevCode state.portalState]
  | .scroll dx dy finish => [.pointerAxis finish dx dy]
  | .key keysym state => [.keyboardKeysym keysym.toInt32 state.portalState]
  | .text text =>
    if 4096 < text.utf8ByteSize then []
    else text.toList.flatMap (fun ch =>
      [.keyboardKeysym ch.val.toInt32 ButtonState.pressed.portalState,
        .keyboardKeysym ch.val.toInt32 ButtonState.released.portalState])

end PortalBackend

/-! ## The backends -/

/-- The devices of the uinput backend and the cursor of the Hyprland one are not touched here. -/
inductive InputManager
  | noop (reason : String)
  | portal (backend : PortalBackend)
  | hyprland
  | uinput (bounds : DesktopBounds)

/-- How the constructors of the backends end. -/
structure Creations where
  uinput : Except String DesktopBounds
  hyprland : Except String Unit
  portal : Except String Unit

namespace InputManager

/-- `InputManager::from_capabilities`. -/
def fromCapabilities (capabilities : Capabilities) (creations : Creations) : InputManager :=
  if capabilities.input.backend = "wayland-portal" then
    match creations.portal with
    | .ok () => .portal .new
    | .error err => .noop ("Remote input unavailable: " ++ err)
  else if capabilities.input.backend = "uinput" then
    match creations.uinput with
    | .ok bounds => .uinput bounds
    | .error err => .noop ("Virtual uinput input unavailable: " ++ err)
  else if capabilities.input.backend = "hyprland-ipc" ∨ capabilities.input.backend = "hyprland-hyprctl" then
    match creations.hyprland with
    | .ok () => .hyprland
    | .error err => .noop ("Hyprland IPC input fallback unavailable: " ++ err)
  else .noop (capabilities.input.reason.getD "Remote input unsupported on this host")

def hyprlandReady : Value :=
  .object [("backend", .string "hyprland-ipc"),
    ("limitations", .string "uses Hyprland IPC because RemoteDesktop portal is unavailable; ASCII text is injected as key events and unsupported text falls back to clipboard paste"),
    ("status", .string "ready")]

def uinputReady (bounds : DesktopBounds) : Value :=
  .object [("backend", .string "uinput"),
    ("desktop_bounds", .object [("height", .number bounds.height.toNat), ("width", .number bounds.width.toNat),
      ("x", .number bounds.x.toInt), ("y", .number bounds.y.toInt)]),
    ("limitations", .string "text injection assumes a US keymap for punctuation; unmapped characters fall back to clipboard paste"),
    ("status", .string "ready")]

/-- `InputManager::prepare`. -/
def prepare (answers : PortalAnswers) : InputManager → Except String Value × InputManager
  | noop reason => (.error reason, noop reason)
  | portal backend =>
    let (result, backend) := backend.prepare answers
    (result, portal backend)
  | hyprland => (.ok hyprlandReady, hyprland)
  | uinput bounds => (.ok (uinputReady bounds), uinput bounds)

/-- The portal's session. -/
def session : InputManager → Option String
  | portal backend => backend.sessionHandle
  | _ => none

/-- What `prepare` answers when there is nothing left to ask. -/
def ready : InputManager → Option Value
  | noop _ => none
  | portal backend =>
    if backend.sessionHandle.isSome then some (PortalBackend.ready backend.grantedDevices) else none
  | hyprland => some hyprlandReady
  | uinput bounds => some (uinputReady bounds)

/-- `prepare` makes requests. -/
def asks : InputManager → Bool
  | portal backend => backend.sessionHandle.isNone
  | _ => false

section Prepare

variable {m m' : InputManager} {answers : PortalAnswers}

/-- A backend that is ready stays as it is. -/
theorem prepare_ready {value : Value} (h : m.ready = some value) (answers : PortalAnswers) :
    m.prepare answers = (.ok value, m) := by
  cases m with
  | noop reason => cases h
  | portal backend =>
    dsimp only [ready] at h
    split_ifs at h with hsession
    obtain rfl := Option.some.inj h
    show ((backend.prepare answers).1, portal (backend.prepare answers).2) = _
    rw [PortalBackend.prepare, if_pos hsession]
  | hyprland =>
    obtain rfl := Option.some.inj h
    rfl
  | uinput bounds =>
    obtain rfl := Option.some.inj h
    rfl

/-- A backend that is ready has nothing left to ask. -/
theorem asks_of_ready {value : Value} (h : m.ready = some value) : m.asks = false := by
  cases m with
  | portal backend =>
    dsimp only [ready] at h
    split_ifs at h with hsession
    show backend.sessionHandle.isNone = false
    rw [← Option.not_isSome, hsession]
    rfl
  | _ => rfl

/-- A `prepare` that succeeds has made the backend ready. -/
theorem ready_of_prepare {value : Value} (h : m.prepare answers = (.ok value, m')) : m'.ready = some value := by
  cases m with
  | noop reason => cases h
  | portal backend =>
    have h : ((backend.prepare answers).1, portal (backend.prepare answers).2) = (.ok value, m') := h
    unfold PortalBackend.prepare at h
    split at h
    · next hsession =>
      cases h
      exact if_pos hsession
    · split at h <;> cases h
      rfl
  | hyprland =>
    cases h
    rfl
  | uinput bounds =>
    cases h
    rfl

/-- A `prepare` that fails has changed nothing. -/
theorem prepare_error {err : String} (h : m.prepare answers = (.error err, m')) : m' = m ∧ m.ready = none := by
  have hready : m.ready = none := by
    cases hm : m.ready with
    | none => rfl
    | some value =>
      rw [prepare_ready hm] at h
      cases h
  refine ⟨?_, hready⟩
  cases m with
  | noop reason =>
    cases h
    rfl
  | portal backend =>
    have h : ((backend.prepare answers).1, portal (backend.prepare answers).2) = (.error err, m') := h
    unfold PortalBackend.prepare at h
    split at h
    · cases h
    · split at h <;> cases h
      rfl
  | hyprland => cases h
  | uinput bounds => cases h

/-- The session of a portal comes from its requests. -/
theorem session_of_prepare {result : Except String Value} {handle : String}
    (h : m.prepare answers = (result, m')) (hm : m'.session = some handle) :
    m.session = some handle ∨
      m.asks = true ∧ ∃ devices, PortalBackend.request answers = .ok (handle, devices) := by
  cases m with
  | noop reason =>
    cases h
    cases hm
  | portal backend =>
    have h : ((backend.prepare answers).1, portal (backend.prepare answers).2) = (result, m') := h
    unfold PortalBackend.prepare at h
    split at h
    · cases h
      exact Or.inl hm
    · -- only a backend without a session makes a request
      next hsession =>
      have hasks : (portal backend).asks = true := by
        show backend.sessionHandle.isNone = true
        rw [← Option.not_isSome, Bool.eq_false_of_not_eq_true hsession]
        rfl
      split at h
      · cases h
        exact Or.inl hm
      · next granted devices hrequest =>
        cases h
        obtain rfl := Option.some.inj hm
        exact Or.inr ⟨hasks, devices, hrequest⟩
  | hyprland =>
    cases h
    cases hm
  | uinput bounds =>
    cases h
    cases hm

/-- `prepare` does not turn one backend into another. -/
theorem portal_of_prepare {result : Except String Value} {backend : PortalBackend}
    (h : m.prepare answers = (result, portal backend)) : ∃ before, m = portal before := by
  cases m with
  | noop reason => cases h
  | portal before => exact ⟨before, rfl⟩
  | hyprland => cases h
  | uinput bounds => cases h

theorem ready_of_session {handle : String} (h : m.session = some handle) : ∃ value, m.ready = some value := by
  cases m with
  | noop reason => cases h
  | portal backend =>
    have h : backend.sessionHandle = some handle := h
    refine ⟨PortalBackend.ready backend.grantedDevices, if_pos ?_⟩
    rw [h]
    rfl
  | hyprland => cases h
  | uinput bounds => cases h

end Prepare

/-- A portal is made where it is announced. -/
theorem fromCapabilities_portal {capabilities : Capabilities} {creations : Creations} {backend : PortalBackend}
    (h : fromCapabilities capabilities creations = portal backend) :
    capabilities.input.backend = "wayland-portal" := by
  unfold fromCapabilities at h
  split_ifs at h with hportal
  · exact hportal
  · split at h <;> cases h
  · split at h <;> cases h

/-- A new backend has no session. -/
theorem fromCapabilities_session (capabilities : Capabilities) (creations : Creations) :
    (fromCapabilities capabilities creations).session = none := by
  unfold fromCapabilities
  split_ifs
  · split <;> rfl
  · split <;> rfl
  · split <;> rfl
  · rfl

end InputManager

end Waypad
