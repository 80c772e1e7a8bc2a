import Mathlib.Data.List.Infix
import Waypad.Server.Pairing

/-!
# Waypad.Capability — what the host can do (`src/capability.rs`, `src/platform.rs`)

`Capabilities::detect` looks at the environment, the commands, the two portals and `/dev/uinput`; all that
is the `Machine` here.

* `detectSession`, `detectPortal`, `detectScreencastPortal`, `DesktopAudioProbe`: the parts.
* `Capabilities.detect`: the backends that are announced.
* `detectInput_cases`: a backend is announced exactly when there is one, and only on Wayland.
-/

namespace Waypad

/-- The fields of `Config` that are read here. -/
structure CapabilityConfig extends Config where
  allowSuspend : Bool

/-! ## What is found -/

/-- Opening `/dev/uinput`. -/
inductive UinputProbe
  | missing
  | opens
  | denied (err : String)

/-- The bus, the owner of the portal, its proxy and the properties of an interface. -/
inductive PortalProbe
  | noBus
  | noOwner
  | noProxy (err : String)
  | portal (version : Option UInt32) (masks : List UInt32)

/-- `DesktopAudioProbe`. -/
structure DesktopAudioProbe where
  pactlAvailable : Bool
  gstreamerAvailable : Bool
  missingElements : List String
  defaultSink : Option String
  monitorSource : Option String

/-- The host while it is looked at. -/
structure Machine where
  /-- `env::var` -/
  env : String → Option String
  commandExists : String → Bool
  commandOutput : String → List String → Option String
  /-- `pkg-config --exists libei-1.0` -/
  pkgConfigLibei : Bool
  /-- the file at `hyprland_ipc_socket_path` is a socket -/
  hyprlandSocket : Bool
  remoteDesktop : PortalProbe
  screencast : PortalProbe
  /-- for the pointer and the keyboard -/
  uinput : UinputProbe
  /-- for the gamepad -/
  gamepad : UinputProbe
  /-- `h264_encoder_name` -/
  h264Encoder : Option String
  audio : DesktopAudioProbe

structure SessionInfo where
  sessionType : String
  waylandDisplay : Option String
  x11Display : Option String
  currentDesktop : Option String
  desktopSession : Option String
  hyprlandInstanceSignature : Option String
  compositorHint : String
  hyprctlVersion : Option String

/-- `detect_session`. -/
def detectSession (machine : Machine) : SessionInfo :=
  let sessionType := (machine.env "XDG_SESSION_TYPE").getD
    (if (machine.env "WAYLAND_DISPLAY").isSome then "wayland"
    else if (machine.env "DISPLAY").isSome then "x11"
    else "unknown")
  let currentDesktop := machine.env "XDG_CURRENT_DESKTOP"
  let signature := machine.env "HYPRLAND_INSTANCE_SIGNATURE"
  let compositorHint :=
    if signature.isSome ∨ "hyprland".toList <:+: (currentDesktop.getD "").toList.map Char.toLower then "hyprland"
    else if sessionType = "wayland" then "wayland"
    else "unknown"
  { sessionType
    waylandDisplay := machine.env "WAYLAND_DISPLAY"
    x11Display := machine.env "DISPLAY"
    currentDesktop
    desktopSession := machine.env "DESKTOP_SESSION"
    hyprlandInstanceSignature := signature
    compositorHint
    hyprctlVersion := machine.commandOutput "hyprctl" ["version"] }

/-- `hyprland_ipc_available`. -/
def hyprlandIpcAvailable (machine : Machine) : Bool :=
  (machine.env "XDG_RUNTIME_DIR").isSome && (machine.env "HYPRLAND_INSTANCE_SIGNATURE").isSome &&
    machine.hyprlandSocket

structure PortalCapability where
  xdgDesktopPortalAvailable : Bool
  remoteDesktopAvailable : Bool
  remoteDesktopVersion : Option UInt32
  availableDeviceTypes : List String
  libeiAdvertisedByPortal : Bool
  libeiRuntimeAvailable : Bool
  reason : Option String

/-- The names of the bits that are set. -/
def maskNames (mask : UInt32) (names : List (UInt32 × String)) : List String :=
  names.filterMap (fun (bit, name) => if mask &&& bit ≠ 0 then some name else none)

def deviceTypeNames (mask : UInt32) : List String :=
  maskNames mask [(1, "keyboard"), (2, "pointer"), (4, "touchscreen")]

/-- `source_type_names`. -/
def sourceTypeNames (mask : UInt32) : List String :=
  maskNames mask [(1, "monitor"), (2, "window"), (4, "virtual")]

/-- `cursor_mode_names`. -/
def cursorModeNames (mask : UInt32) : List String :=
  maskNames mask [(1, "hidden"), (2, "embedded"), (4, "metadata")]

/-- `detect_portal`. -/
def detectPortal (machine : Machine) : PortalCapability :=
  let libeiRuntimeAvailable := machine.commandExists "ei-debug-events" || machine.pkgConfigLibei
  let unavailable (present : Bool) (reason : String) : PortalCapability :=
    { xdgDesktopPortalAvailable := present
      remoteDesktopAvailable := false
      remoteDesktopVersion := none
      availableDeviceTypes := []
      libeiAdvertisedByPortal := false
      libeiRuntimeAvailable
      reason := some reason }
  match machine.remoteDesktop with
  | .noBus => unavailable false "Cannot connect to the D-Bus session bus"
  | .noOwner => unavailable false "org.freedesktop.portal.Desktop has no owner on the session bus"
  | .noProxy err => unavailable true ("RemoteDesktop proxy unavailable: " ++ err)
  | .portal version masks =>
    { xdgDesktopPortalAvailable := true
      remoteDesktopAvailable := version.isSome
      remoteDesktopVersion := version
      availableDeviceTypes := deviceTypeNames (masks.head?.getD 0)
      libeiAdvertisedByPortal := decide (2 ≤ version.getD 0)
      libeiRuntimeAvailable
      reason := none }

structure ScreenCastPortalInfo where
  xdgDesktopPortalAvailable : Bool
  available : Bool
  version : Option UInt32
  availableSourceTypes : List String
  availableCursorModes : List String

/-- `detect_screencast_portal`. -/
def detectScreencastPortal (machine : Machine) : ScreenCastPortalInfo :=
  match machine.screencast with
  | .noBus | .noOwner => ⟨false, false, none, [], []⟩
  | .noProxy _ => ⟨true, false, none, [], []⟩
  | .portal version masks =>
    { xdgDesktopPortalAvailable := true
      available := version.isSome
      version
      availableSourceTypes := sourceTypeNames (masks.head?.getD 0)
      availableCursorModes := cursorModeNames ((masks.drop 1).head?.getD 0) }

/-- `detect_virtual_pointer_support`. -/
def detectVirtualPointerSupport : UinputProbe → Bool × String
  | .missing => (false, "Virtual pointer input requires /dev/uinput. Load the uinput module and allow the Waypad user to open the device.")
  | .opens => (true, "Pointer, buttons, scroll and keyboard are injected through real Linux uinput devices, so drag, text selection and relative game input behave like physical hardware.")
  | .denied err => (false, "Virtual pointer input requires write access to /dev/uinput; current user cannot open it: " ++ err)

/-- `detect_virtual_gamepad_support`. -/
def detectVirtualGamepadSupport : UinputProbe → Bool × String
  | .missing => (false, "Controller forwarding requires /dev/uinput. Load the uinput module and allow the Waypad user to open the device.")
  | .opens => (true, "Controller events can be forwarded through a Linux uinput virtual gamepad.")
  | .denied err => (false, "Controller forwarding requires write access to /dev/uinput; current user cannot open it: " ++ err)

namespace DesktopAudioProbe

def supported (self : DesktopAudioProbe) : Bool := self.gstreamerAvailable && self.monitorSource.isSome

def reason (self : DesktopAudioProbe) : String :=
  if self.supported then
    "Desktop audio is captured from the monitor of the current default sink (" ++
      self.monitorSource.getD "unknown" ++ ") and encoded to Opus"
  else if !self.gstreamerAvailable then
    "Desktop audio unavailable: GStreamer is missing " ++
      (if self.missingElements.isEmpty then "gst-launch-1.0" else ", ".intercalate self.missingElements)
  else if !self.pactlAvailable then
    "Desktop audio unavailable: pactl is not installed, so the default sink cannot be resolved"
  else "Desktop audio unavailable: no monitor source is exposed for any output device"

end DesktopAudioProbe

/-! ## What is announced -/

structure InputCapability where
  supported : Bool
  backend : String
  requiresUserApproval : Bool
  reason : Option String

structure ExternalInputCapability where
  pointer : Bool
  keyboard : Bool
  controller : Bool
  backend : String
  reason : Option String

structure ConnectivityCapability where
  lanDirect : Bool
  publicDirect : Bool
  publicPairingAllowed : Bool
  relay : Bool
  signaling : Bool
  stun : Bool
  turn : Bool
  backend : String
  reason : Option String

structure CaptureCapability where
  supported : Bool
  backend : String
  requiresUserApproval : Bool
  reason : Option String
  portalScreencastAvailable : Bool
  screencastVersion : Option UInt32
  availableSourceTypes : List String
  availableCursorModes : List String
  pipewireRuntimeAvailable : Bool
  gstreamerPipewireAvailable : Bool
  h264Encoder : Option String
  hyprlandGrimAvailable : Bool

structure AudioCaptureCapability where
  supported : Bool
  backend : String
  codec : Option String
  sampleRate : ℕ
  channels : ℕ
  defaultSink : Option String
  monitorSource : Option String
  pactlAvailable : Bool
  gstreamerOpusAvailable : Bool
  missingElements : List String
  reason : Option String

structure SystemCapabilities where
  volume : Bool
  media : Bool
  brightness : Bool
  clipboard : Bool
  lock : Bool
  suspend : Bool

structure Capabilities where
  session : SessionInfo
  portal : PortalCapability
  input : InputCapability
  externalInput : ExternalInputCapability
  connectivity : ConnectivityCapability
  capture : CaptureCapability
  audioCapture : AudioCaptureCapability
  system : SystemCapabilities

/-- `detect_audio_capture`. -/
def detectAudioCapture (probe : DesktopAudioProbe) : AudioCaptureCapability :=
  { supported := probe.supported
    backend := if probe.supported then "pulse-monitor-opus" else "noop"
    codec := if probe.supported then some "opus" else none
    sampleRate := 48000
    channels := 2
    defaultSink := probe.defaultSink
    monitorSource := probe.monitorSource
    pactlAvailable := probe.pactlAvailable
    gstreamerOpusAvailable := probe.gstreamerAvailable
    missingElements := probe.missingElements
    reason := some probe.reason }

/-- `external_input_reason`. -/
def externalInputReason (inputSupported : Bool) (controllerReason : String) : String :=
  if inputSupported then
    "Android external mouse and keyboard events are forwarded through the active pointer/keyboard input backend. " ++
      controllerReason
  else
    "External mouse/keyboard forwarding requires a supported pointer/keyboard input backend on the host. " ++
      controllerReason

/-- The part of `detect` on the pointer and the keyboard. -/
def detectInput (machine : Machine) (session : SessionInfo) (portal : PortalCapability) : InputCapability :=
  let pointer := portal.availableDeviceTypes.any (fun d => d == "pointer")
  let keyboard := portal.availableDeviceTypes.any (fun d => d == "keyboard")
  let wayland := session.sessionType == "wayland"
  let portalInputSupported := wayland && portal.remoteDesktopAvailable && (pointer || keyboard)
  let hyprlandIpcFallback := wayland && !portal.remoteDesktopAvailable &&
    session.compositorHint == "hyprland" && hyprlandIpcAvailable machine
  let (uinputSupported, uinputReason) := detectVirtualPointerSupport machine.uinput
  let uinputInputAvailable := wayland && uinputSupported
  let supported := uinputInputAvailable || portalInputSupported || hyprlandIpcFallback
  if !wayland then
    ⟨supported, "noop", false, some "Remote input is only enabled for Wayland sessions in this daemon"⟩
  else if uinputInputAvailable then ⟨supported, "uinput", false, some uinputReason⟩
  else if portalInputSupported then
    ⟨supported, "wayland-portal", true,
      some "Input injection requires RemoteDesktop portal approval on this session"⟩
  else if hyprlandIpcFallback then
    ⟨supported, "hyprland-ipc", false, some "RemoteDesktop portal unavailable; using Hyprland IPC fallback for pointer, buttons, scroll, shortcuts, direct ASCII text, and clipboard-backed text for unsupported characters."⟩
  else if !portal.xdgDesktopPortalAvailable then
    ⟨supported, "noop", false,
      some ("Remote input unavailable: xdg-desktop-portal is not running and " ++ uinputReason)⟩
  else if !portal.remoteDesktopAvailable then
    ⟨supported, "noop", false,
      some "Remote input unavailable: org.freedesktop.portal.RemoteDesktop not available"⟩
  else
    ⟨supported, "noop", false, some "Remote input unavailable: portal exposes no pointer or keyboard devices"⟩

/-- The part of `detect` on screen capture. -/
def detectCapture (machine : Machine) (session : SessionInfo) (screencast : ScreenCastPortalInfo) :
    CaptureCapability :=
  let wayland := session.sessionType == "wayland"
  let pipewireRuntimeAvailable := machine.commandExists "pipewire" || machine.commandExists "pw-cli"
  let gstreamerPipewireAvailable := machine.commandExists "gst-launch-1.0" &&
    (machine.commandOutput "gst-inspect-1.0" ["pipewiresrc"]).isSome &&
    (machine.h264Encoder.isSome || (machine.commandOutput "gst-inspect-1.0" ["jpegenc"]).isSome)
  let hyprlandGrimAvailable := wayland && session.compositorHint == "hyprland" &&
    machine.commandExists "grim" && (machine.commandOutput "hyprctl" ["monitors", "-j"]).isSome
  let portalCaptureSupported := wayland && screencast.available && pipewireRuntimeAvailable &&
    gstreamerPipewireAvailable
  let (backend, requiresUserApproval, reason) :=
    if !wayland then
      ("noop", false, "Screen capture is only enabled for Wayland sessions in this daemon")
    else if portalCaptureSupported then
      ("wayland-screencast-portal", true,
        "Screen capture uses XDG Desktop Portal ScreenCast and PipeWire approval")
    else if hyprlandGrimAvailable then
      ("hyprland-grim", false, "ScreenCast portal streaming dependencies are incomplete; using isolated Hyprland grim monitor capture fallback")
    else if !screencast.xdgDesktopPortalAvailable then
      ("noop", false, "Screen capture unavailable: xdg-desktop-portal is not running")
    else if !screencast.available then
      ("noop", false, "Screen capture unavailable: ScreenCast portal not available")
    else if !pipewireRuntimeAvailable then
      ("noop", false, "Screen capture unavailable: PipeWire runtime tools are missing")
    else
      ("noop", false, "Screen capture unavailable: GStreamer PipeWire pipeline is missing an H.264 or JPEG encoder")
  { supported := portalCaptureSupported || hyprlandGrimAvailable
    backend
    requiresUserApproval
    reason := some reason
    portalScreencastAvailable := screencast.available
    screencastVersion := screencast.version
    availableSourceTypes := screencast.availableSourceTypes
    availableCursorModes := screencast.availableCursorModes
    pipewireRuntimeAvailable
    gstreamerPipewireAvailable
    h264Encoder := machine.h264Encoder
    hyprlandGrimAvailable }

/-- The part of `detect` on external devices. -/
def detectExternalInput (machine : Machine) (input : InputCapability) : ExternalInputCapability :=
  let (controllerSupported, controllerReason) := detectVirtualGamepadSupport machine.gamepad
  { pointer := input.supported
    keyboard := input.supported
    controller := controllerSupported
    backend :=
      if input.supported && controllerSupported then
        -- the gamepad already rides on uinput
        if input.backend == "uinput" then "uinput" else input.backend ++ "+uinput"
      else if controllerSupported then "uinput"
      else if input.supported then input.backend
      else "noop"
    reason := some (externalInputReason input.supported controllerReason) }

/-- `Capabilities::detect`. -/
def Capabilities.detect (config : CapabilityConfig) (machine : Machine) : Capabilities :=
  let session := detectSession machine
  let portal := detectPortal machine
  let input := detectInput machine session portal
  { session
    portal
    input
    externalInput := detectExternalInput machine input
    connectivity :=
      { lanDirect := true
        publicDirect := !config.requirePrivateLan
        publicPairingAllowed := !config.requirePrivateLan || config.allowPublicPairing
        relay := false
        signaling := false
        stun := false
        turn := false
        backend := "direct-tcp-invite"
        reason := some "LAN and manually advertised public/direct endpoints are supported through QR invites. WebRTC ICE/STUN/TURN relay is not bundled in this daemon build." }
    capture := detectCapture machine session (detectScreencastPortal machine)
    audioCapture := detectAudioCapture machine.audio
    system :=
      { volume := machine.commandExists "wpctl" || machine.commandExists "pactl"
        media := machine.commandExists "playerctl"
        brightness := machine.commandExists "brightnessctl"
        clipboard := machine.commandExists "wl-copy" && machine.commandExists "wl-paste"
        lock := machine.commandExists "loginctl"
        suspend := config.allowSuspend && machine.commandExists "systemctl" } }

/-! ## A backend, or none -/

/-- The backends for the pointer and the keyboard. -/
def inputBackends : List String := ["uinput", "wayland-portal", "hyprland-ipc"]

theorem detectInput_cases (machine : Machine) (session : SessionInfo) (portal : PortalCapability) :
    ((detectInput machine session portal).supported = true ∧ session.sessionType = "wayland" ∧
        (detectInput machine session portal).backend ∈ inputBackends) ∨
      ((detectInput machine session portal).supported = false ∧
        (detectInput machine session portal).backend = "noop") := by
  have huinputs : "uinput" ∈ inputBackends := by decide
  have hportals : "wayland-portal" ∈ inputBackends := by decide
  have hhyprlands : "hyprland-ipc" ∈ inputBackends := by decide
  unfold detectInput
  dsimp only
  by_cases hwayland : session.sessionType = "wayland"
  · rw [hwayland, beq_self_eq_true]
    simp only [Bool.true_and, Bool.not_true, Bool.false_eq_true, if_false]
    -- uinput, then the portal, then Hyprland; what is left is a reason for none of them
    split_ifs with huinput hportal hhyprland hdesktop hremote
    · exact Or.inl ⟨by rw [huinput]; rfl, trivial, huinputs⟩
    · exact Or.inl ⟨by rw [hportal, Bool.or_true]; rfl, trivial, hportals⟩
    · exact Or.inl ⟨by rw [hhyprland, Bool.or_true], trivial, hhyprlands⟩
    all_goals
      rw [Bool.not_eq_true] at huinput hportal hhyprland
      exact Or.inr ⟨by rw [huinput, hportal, hhyprland]; rfl, rfl⟩
  · have hfalse : (session.sessionType == "wayland") = false := beq_eq_false_iff_ne.mpr hwayland
    rw [hfalse]
    exact Or.inr ⟨rfl, rfl⟩

/-- The portal is announced on Wayland, where there is one and `/dev/uinput` does not open. -/
theorem detectInput_portal {machine : Machine} {session : SessionInfo} {portal : PortalCapability}
    (h : (detectInput machine session portal).backend = "wayland-portal") :
    session.sessionType = "wayland" ∧ portal.remoteDesktopAvailable = true ∧
      (detectVirtualPointerSupport machine.uinput).1 = false := by
  have hnoop : "noop" ≠ "wayland-portal" := by decide
  have huinputs : "uinput" ≠ "wayland-portal" := by decide
  have hhyprlands : "hyprland-ipc" ≠ "wayland-portal" := by decide
  unfold detectInput at h
  dsimp only at h
  split_ifs at h with hno huinput hportal
  · exact absurd h hnoop
  · exact absurd h huinputs
  · rw [Bool.not_eq_true, Bool.not_eq_false'] at hno
    rw [hno, Bool.true_and, Bool.not_eq_true] at huinput
    rw [Bool.and_eq_true, Bool.and_eq_true] at hportal
    exact ⟨beq_iff_eq.mp hno, hportal.1.2, huinput⟩
  · exact absurd h hhyprlands
  all_goals exact absurd h hnoop

/-- What is announced for the input of a machine. -/
theorem Capabilities.detect_input (config : CapabilityConfig) (machine : Machine) :
    ((detect config machine).input.supported = true ∧ (detect config machine).session.sessionType = "wayland" ∧
        (detect config machine).input.backend ∈ inputBackends) ∨
      ((detect config machine).input.supported = false ∧ (detect config machine).input.backend = "noop") :=
  detectInput_cases machine (detectSession machine) (detectPortal machine)

end Waypad
