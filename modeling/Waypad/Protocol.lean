import Mathlib.Data.Rat.Defs

/-!
# Waypad.Protocol — the messages of the control channel (`src/protocol.rs`)

Requests, commands and responses with all their fields.  A JSON number is always finite, so the
`f64` coordinates are rationals here.
-/

namespace Waypad

def PROTOCOL_VERSION : ℕ := 1

/-- A `serde_json::Value`. -/
inductive Value
  | null
  | bool (b : Bool)
  | number (n : ℤ)
  | string (s : String)
  | array (items : List Value)
  | object (fields : List (String × Value))

structure ApiError where
  code : String
  message : String
  retryable : Bool
  deriving DecidableEq, Repr

inductive ServerSecureMessage
  | response (requestId : String) (ok : Bool) (data : Option Value) (error : Option ApiError)
  | event (name : String) (data : Value)

namespace ServerSecureMessage

/-- `ok` of a response; an event answers nothing. -/
def isOk : ServerSecureMessage → Bool
  | response _ ok _ _ => ok
  | event _ _ => false

end ServerSecureMessage

def responseOk (requestId : String) (data : Value) : ServerSecureMessage :=
  .response requestId true (some data) none

def responseEmpty (requestId : String) : ServerSecureMessage :=
  .response requestId true none none

def responseError (requestId : String) (error : ApiError) : ServerSecureMessage :=
  .response requestId false none (some error)

@[simp] theorem responseOk_isOk (r : String) (d : Value) : (responseOk r d).isOk = true := rfl
@[simp] theorem responseEmpty_isOk (r : String) : (responseEmpty r).isOk = true := rfl
@[simp] theorem responseError_isOk (r : String) (e : ApiError) :
    (responseError r e).isOk = false := rfl

inductive PointerButton
  | left | middle | right
  deriving DecidableEq, Repr

inductive ButtonState
  | pressed | released
  deriving DecidableEq, Repr

inductive ExternalDeviceType
  | keyboard | mouse | touchpad | gamepad | joystick | unknown
  deriving DecidableEq, Repr

inductive ExternalInputEvent
  | deviceConnected (name : String) (classes : List ExternalDeviceType)
  | deviceDisconnected
  | pointerMove (dx dy : ℚ)
  | pointerButton (button : PointerButton) (state : ButtonState)
  | pointerScroll (dx dy : ℚ) (finish : Bool)
  | keyboardKey (keysym : UInt32) (state : ButtonState) (repeated : Bool)
  | controllerButton (button : String) (state : ButtonState)
  | controllerAxis (axis : String) (value : ℚ)
  deriving DecidableEq, Repr

inductive MediaAction
  | playPause | next | previous | stop
  deriving DecidableEq, Repr

inductive VolumeAction
  | up | down | muteToggle
  deriving DecidableEq, Repr

inductive BrightnessAction
  | up | down
  deriving DecidableEq, Repr

inductive SystemAction
  | lock | suspend
  deriving DecidableEq, Repr

inductive Command
  | getHealth
  | getHostInfo
  | getCapabilities
  | prepareInput
  | pointerMove (dx dy : ℚ)
  | pointerMoveAbsolute (sourceId : Option String) (x y : ℚ)
  | pointerButton (button : PointerButton) (state : ButtonState)
  | scroll (dx dy : ℚ) (finish : Bool)
  | externalInput (deviceId : String) (deviceType : ExternalDeviceType)
      (event : ExternalInputEvent)
  | key (keysym : UInt32) (state : ButtonState)
  | text (text : String)
  | shortcut (keys : List String)
  | media (action : MediaAction)
  | volume (action : VolumeAction)
  | brightness (action : BrightnessAction)
  | clipboardSet (text : String)
  | listScreenSources
  | startScreenStream (sourceId : Option String) (maxFps : Option UInt32)
      (jpegQuality : Option UInt8) (bitrateKbps maxWidth maxHeight : Option UInt32)
      (audio : Option Bool) (audioBitrateKbps audioFrameMs : Option UInt32)
  | stopScreenStream (sessionId : String)
  | startDesktopAudio (sessionId : String) (bitrateKbps frameMs : Option UInt32)
  | stopDesktopAudio (sessionId : String)
  | setDesktopAudioMute (sessionId : String) (muted : Bool)
  | getDesktopAudioStatus (sessionId : String)
  | requestKeyFrame (sessionId : String)
  | system (action : SystemAction)
  deriving DecidableEq, Repr

structure PairRequest where
  requestId : String
  deviceName : String
  pairingCode : String
  appVersion : Option String
  deriving DecidableEq, Repr

structure AuthRequest where
  requestId : String
  deviceId : String
  sessionToken : String
  appVersion : Option String
  deriving DecidableEq, Repr

inductive ClientSecureMessage
  | pairRequest (request : PairRequest)
  | authRequest (request : AuthRequest)
  | command (requestId : String) (command : Command)
  | ping (requestId : String)
  deriving DecidableEq, Repr

end Waypad
