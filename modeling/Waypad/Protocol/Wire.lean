import Waypad.Lib.Content
import Waypad.Protocol

/-!
# Waypad.Protocol.Wire — the requests as JSON (`src/protocol.rs`)

What `serde` derives for the requests: a union has its variant under `type` or `name`, all names are in snake
case, and an `Option` may be null or missing.

* `PointerButton.codec` and the other enumerations; `u32`, `u8`.
* `ExternalInputEvent.tagged`, `Command.tagged`, `ClientSecureMessage.tagged`: the unions.
* `formed`: the contents that the codecs are about.  `serde` also takes an array for a record, and a number or
  an object of one field for the name of a variant.
* `wire_exact`: what is read of a request that was sent, and from what a request is read.
-/

namespace Waypad

open Content Record

/-! ## Values -/

namespace Wire

def u32 : Codec UInt32 :=
  .int (fun u => u.toNat) (fun n => if 0 ≤ n ∧ n < 4294967296 then some (UInt32.ofNat n.toNat) else none) (by
    intro n u
    have hlt := u.toNat_lt
    constructor
    · intro h
      split_ifs at h with hn
      have hu : UInt32.ofNat n.toNat = u := Option.some.inj h
      have hsize : n.toNat < UInt32.size := show n.toNat < 4294967296 by omega
      have htoNat : n.toNat = u.toNat := by
        rw [← hu, UInt32.toNat_ofNat_of_lt' hsize]
      omega
    · rintro rfl
      have hrange : (0 : ℤ) ≤ u.toNat ∧ (u.toNat : ℤ) < 4294967296 := by omega
      rw [if_pos hrange, Int.toNat_natCast, UInt32.ofNat_toNat])

def u8 : Codec UInt8 :=
  .int (fun u => u.toNat) (fun n => if 0 ≤ n ∧ n < 256 then some (UInt8.ofNat n.toNat) else none) (by
    intro n u
    have hlt := u.toNat_lt
    constructor
    · intro h
      split_ifs at h with hn
      have hu : UInt8.ofNat n.toNat = u := Option.some.inj h
      have hsize : n.toNat < UInt8.size := show n.toNat < 256 by omega
      have htoNat : n.toNat = u.toNat := by
        rw [← hu, UInt8.toNat_ofNat_of_lt' hsize]
      omega
    · rintro rfl
      have hrange : (0 : ℤ) ≤ u.toNat ∧ (u.toNat : ℤ) < 256 := by omega
      rw [if_pos hrange, Int.toNat_natCast, UInt8.ofNat_toNat])

end Wire

def PointerButton.name : PointerButton → String
  | left => "left"
  | middle => "middle"
  | right => "right"

def PointerButton.codec : Codec PointerButton :=
  .names name [left, middle, right] (by rintro ⟨⟩ <;> decide) (by rintro ⟨⟩ ⟨⟩ <;> decide)

def ButtonState.name : ButtonState → String
  | pressed => "pressed"
  | released => "released"

def ButtonState.codec : Codec ButtonState :=
  .names name [pressed, released] (by rintro ⟨⟩ <;> decide) (by rintro ⟨⟩ ⟨⟩ <;> decide)

def ExternalDeviceType.name : ExternalDeviceType → String
  | keyboard => "keyboard"
  | mouse => "mouse"
  | touchpad => "touchpad"
  | gamepad => "gamepad"
  | joystick => "joystick"
  | unknown => "unknown"

def ExternalDeviceType.codec : Codec ExternalDeviceType :=
  .names name [keyboard, mouse, touchpad, gamepad, joystick, unknown] (by rintro ⟨⟩ <;> decide)
    (by rintro ⟨⟩ ⟨⟩ <;> decide)

def MediaAction.name : MediaAction → String
  | playPause => "play_pause"
  | next => "next"
  | previous => "previous"
  | stop => "stop"

def MediaAction.codec : Codec MediaAction :=
  .names name [playPause, next, previous, stop] (by rintro ⟨⟩ <;> decide) (by rintro ⟨⟩ ⟨⟩ <;> decide)

def VolumeAction.name : VolumeAction → String
  | up => "up"
  | down => "down"
  | muteToggle => "mute_toggle"

def VolumeAction.codec : Codec VolumeAction :=
  .names name [up, down, muteToggle] (by rintro ⟨⟩ <;> decide) (by rintro ⟨⟩ ⟨⟩ <;> decide)

def BrightnessAction.name : BrightnessAction → String
  | up => "up"
  | down => "down"

def BrightnessAction.codec : Codec BrightnessAction :=
  .names name [up, down] (by rintro ⟨⟩ <;> decide) (by rintro ⟨⟩ ⟨⟩ <;> decide)

def SystemAction.name : SystemAction → String
  | lock => "lock"
  | suspend => "suspend"

def SystemAction.codec : Codec SystemAction :=
  .names name [lock, suspend] (by rintro ⟨⟩ <;> decide) (by rintro ⟨⟩ ⟨⟩ <;> decide)

/-! ## Fields -/

namespace Wire

def requestId : Record String := field "request_id" .string

def sessionId : Record String := field "session_id" .string

def text : Record String := field "text" .string

def deltas : Record (ℚ × ℚ) := (field "dx" .float).and (field "dy" .float)

/-- The same fields for `Scroll` and `PointerScroll`. -/
def scroll : Record ((ℚ × ℚ) × Bool) := deltas.and (field "finish" .bool)

def state : Record ButtonState := field "state" ButtonState.codec

def pointerButton : Record (PointerButton × ButtonState) := (field "button" PointerButton.codec).and state

end Wire

/-! ## Events of external devices -/

namespace ExternalInputEvent

open Wire

def connected : Record (String × List ExternalDeviceType) :=
  (field "name" .string).and (field "classes" (.list ExternalDeviceType.codec))

def keyboard : Record ((UInt32 × ButtonState) × Bool) :=
  ((field "keysym" u32).and state).and (field "repeat" .bool)

def controller : Record (String × ButtonState) := (field "button" .string).and state

def controllerAxisFields : Record (String × ℚ) := (field "axis" .string).and (field "value" .float)

def tag : ExternalInputEvent → String
  | deviceConnected _ _ => "device_connected"
  | deviceDisconnected => "device_disconnected"
  | pointerMove _ _ => "pointer_move"
  | pointerButton _ _ => "pointer_button"
  | pointerScroll _ _ _ => "pointer_scroll"
  | keyboardKey _ _ _ => "keyboard_key"
  | controllerButton _ _ => "controller_button"
  | controllerAxis _ _ => "controller_axis"

def encode : ExternalInputEvent → Fields
  | deviceConnected name classes => connected.encode (name, classes)
  | deviceDisconnected => empty.encode ()
  | pointerMove dx dy => deltas.encode (dx, dy)
  | pointerButton button state => Wire.pointerButton.encode (button, state)
  | pointerScroll dx dy finish => scroll.encode ((dx, dy), finish)
  | keyboardKey keysym state repeated => keyboard.encode ((keysym, state), repeated)
  | controllerButton button state => controller.encode (button, state)
  | controllerAxis axis value => controllerAxisFields.encode (axis, value)

/-- The variant and the values of enumerations are given by their names. -/
def formed (gs : Fields) : Bool :=
  Fields.texts gs ["type", "state", "button"] && (Fields.at gs "classes").all (fun c =>
    match c with
    | .array items => items.all isText
    | _ => true)

def decode (tag : String) (gs : Fields) : Option ExternalInputEvent :=
  match tag with
  | "device_connected" => (connected.decode gs).map (fun p => deviceConnected p.1 p.2)
  | "device_disconnected" => (empty.decode gs).map (fun _ => deviceDisconnected)
  | "pointer_move" => (deltas.decode gs).map (fun p => pointerMove p.1 p.2)
  | "pointer_button" => (Wire.pointerButton.decode gs).map (fun p => pointerButton p.1 p.2)
  | "pointer_scroll" => (scroll.decode gs).map (fun p => pointerScroll p.1.1 p.1.2 p.2)
  | "keyboard_key" => (keyboard.decode gs).map (fun p => keyboardKey p.1.1 p.1.2 p.2)
  | "controller_button" => (controller.decode gs).map (fun p => controllerButton p.1 p.2)
  | "controller_axis" => (controllerAxisFields.decode gs).map (fun p => controllerAxis p.1 p.2)
  | _ => none

theorem decode_exact (t : String) (gs : Fields) (event : ExternalInputEvent) :
    decode t gs = some event ↔ t = tag event ∧ ReadsFields gs (encode event) := by
  constructor
  · intro h
    unfold decode at h
    split at h
    case h_9 => cases h
    all_goals
      obtain ⟨p, rfl, hread⟩ := (map_exact _ _ gs event).mp h
      exact ⟨rfl, hread⟩
  · rintro ⟨rfl, hread⟩
    cases event with
    | deviceDisconnected => rfl
    | _ => exact (map_exact _ _ gs _).mpr ⟨_, rfl, hread⟩

theorem encode_settled (event : ExternalInputEvent) : Settled (("type", .string (tag event)) :: encode event) := by
  cases event <;> exact settled_cons _ (by decide) _

def tagged : Tagged ExternalInputEvent where
  key := "type"
  tag := tag
  encode := encode
  decode := decode
  exact := decode_exact
  settled := encode_settled

end ExternalInputEvent

/-! ## Commands -/

namespace Command

open Wire

def absolute : Record (Option String × ℚ × ℚ) :=
  (optional "source_id" .string).and ((field "x" .float).and (field "y" .float))

def external : Record (String × ExternalDeviceType × ExternalInputEvent) :=
  (field "device_id" .string).and
    ((field "device_type" ExternalDeviceType.codec).and (field "event" ExternalInputEvent.tagged.codec))

def keyFields : Record (UInt32 × ButtonState) := (field "keysym" u32).and state

def keys : Record (List String) := field "keys" (.list .string)

def screenStream : Record (Option String × Option UInt32 × Option UInt8 × Option UInt32 × Option UInt32 ×
    Option UInt32 × Option Bool × Option UInt32 × Option UInt32) :=
  (optional "source_id" .string).and ((optional "max_fps" u32).and ((optional "jpeg_quality" u8).and
    ((optional "bitrate_kbps" u32).and ((optional "max_width" u32).and ((optional "max_height" u32).and
      ((optional "audio" .bool).and ((optional "audio_bitrate_kbps" u32).and (optional "audio_frame_ms" u32))))))))

def desktopAudio : Record (String × Option UInt32 × Option UInt32) :=
  sessionId.and ((optional "bitrate_kbps" u32).and (optional "frame_ms" u32))

def mute : Record (String × Bool) := sessionId.and (field "muted" .bool)

def tag : Command → String
  | getHealth => "get_health"
  | getHostInfo => "get_host_info"
  | getCapabilities => "get_capabilities"
  | prepareInput => "prepare_input"
  | pointerMove _ _ => "pointer_move"
  | pointerMoveAbsolute _ _ _ => "pointer_move_absolute"
  | pointerButton _ _ => "pointer_button"
  | scroll _ _ _ => "scroll"
  | externalInput _ _ _ => "external_input"
  | key _ _ => "key"
  | text _ => "text"
  | shortcut _ => "shortcut"
  | media _ => "media"
  | volume _ => "volume"
  | brightness _ => "brightness"
  | clipboardSet _ => "clipboard_set"
  | listScreenSources => "list_screen_sources"
  | startScreenStream _ _ _ _ _ _ _ _ _ => "start_screen_stream"
  | stopScreenStream _ => "stop_screen_stream"
  | startDesktopAudio _ _ _ => "start_desktop_audio"
  | stopDesktopAudio _ => "stop_desktop_audio"
  | setDesktopAudioMute _ _ => "set_desktop_audio_mute"
  | getDesktopAudioStatus _ => "get_desktop_audio_status"
  | requestKeyFrame _ => "request_key_frame"
  | system _ => "system"

def encode : Command → Fields
  | getHealth | getHostInfo | getCapabilities | prepareInput | listScreenSources => empty.encode ()
  | pointerMove dx dy => deltas.encode (dx, dy)
  | pointerMoveAbsolute sourceId x y => absolute.encode (sourceId, x, y)
  | pointerButton button state => Wire.pointerButton.encode (button, state)
  | scroll dx dy finish => Wire.scroll.encode ((dx, dy), finish)
  | externalInput deviceId deviceType event => external.encode (deviceId, deviceType, event)
  | key keysym state => keyFields.encode (keysym, state)
  | text content => Wire.text.encode content
  | shortcut names => keys.encode names
  | media action => (field "action" MediaAction.codec).encode action
  | volume action => (field "action" VolumeAction.codec).encode action
  | brightness action => (field "action" BrightnessAction.codec).encode action
  | clipboardSet content => Wire.text.encode content
  | startScreenStream sourceId maxFps jpegQuality bitrateKbps maxWidth maxHeight audio audioBitrateKbps
      audioFrameMs =>
    screenStream.encode (sourceId, maxFps, jpegQuality, bitrateKbps, maxWidth, maxHeight, audio,
      audioBitrateKbps, audioFrameMs)
  | stopScreenStream session | stopDesktopAudio session | getDesktopAudioStatus session
  | requestKeyFrame session => sessionId.encode session
  | startDesktopAudio session bitrateKbps frameMs => desktopAudio.encode (session, bitrateKbps, frameMs)
  | setDesktopAudioMute session muted => mute.encode (session, muted)
  | system action => (field "action" SystemAction.codec).encode action

def formed (gs : Fields) : Bool :=
  Fields.texts gs ["name", "state", "button", "action", "device_type"] &&
    (Fields.at gs "event").all (isRecord ExternalInputEvent.formed)

def decode (tag : String) (gs : Fields) : Option Command :=
  match tag with
  | "get_health" => (empty.decode gs).map (fun _ => getHealth)
  | "get_host_info" => (empty.decode gs).map (fun _ => getHostInfo)
  | "get_capabilities" => (empty.decode gs).map (fun _ => getCapabilities)
  | "prepare_input" => (empty.decode gs).map (fun _ => prepareInput)
  | "pointer_move" => (deltas.decode gs).map (fun p => pointerMove p.1 p.2)
  | "pointer_move_absolute" => (absolute.decode gs).map (fun p => pointerMoveAbsolute p.1 p.2.1 p.2.2)
  | "pointer_button" => (Wire.pointerButton.decode gs).map (fun p => pointerButton p.1 p.2)
  | "scroll" => (Wire.scroll.decode gs).map (fun p => scroll p.1.1 p.1.2 p.2)
  | "external_input" => (external.decode gs).map (fun p => externalInput p.1 p.2.1 p.2.2)
  | "key" => (keyFields.decode gs).map (fun p => key p.1 p.2)
  | "text" => (Wire.text.decode gs).map text
  | "shortcut" => (keys.decode gs).map shortcut
  | "media" => ((field "action" MediaAction.codec).decode gs).map media
  | "volume" => ((field "action" VolumeAction.codec).decode gs).map volume
  | "brightness" => ((field "action" BrightnessAction.codec).decode gs).map brightness
  | "clipboard_set" => (Wire.text.decode gs).map clipboardSet
  | "list_screen_sources" => (empty.decode gs).map (fun _ => listScreenSources)
  | "start_screen_stream" => (screenStream.decode gs).map (fun p =>
      startScreenStream p.1 p.2.1 p.2.2.1 p.2.2.2.1 p.2.2.2.2.1 p.2.2.2.2.2.1 p.2.2.2.2.2.2.1
        p.2.2.2.2.2.2.2.1 p.2.2.2.2.2.2.2.2)
  | "stop_screen_stream" => (sessionId.decode gs).map stopScreenStream
  | "start_desktop_audio" => (desktopAudio.decode gs).map (fun p => startDesktopAudio p.1 p.2.1 p.2.2)
  | "stop_desktop_audio" => (sessionId.decode gs).map stopDesktopAudio
  | "set_desktop_audio_mute" => (mute.decode gs).map (fun p => setDesktopAudioMute p.1 p.2)
  | "get_desktop_audio_status" => (sessionId.decode gs).map getDesktopAudioStatus
  | "request_key_frame" => (sessionId.decode gs).map requestKeyFrame
  | "system" => ((field "action" SystemAction.codec).decode gs).map system
  | _ => none

theorem decode_exact (t : String) (gs : Fields) (command : Command) :
    decode t gs = some command ↔ t = tag command ∧ ReadsFields gs (encode command) := by
  constructor
  · intro h
    unfold decode at h
    split at h
    case h_26 => cases h
    all_goals
      obtain ⟨p, rfl, hread⟩ := (map_exact _ _ gs command).mp h
      exact ⟨rfl, hread⟩
  · rintro ⟨rfl, hread⟩
    cases command with
    | getHealth | getHostInfo | getCapabilities | prepareInput | listScreenSources => rfl
    | _ => exact (map_exact _ _ gs _).mpr ⟨_, rfl, hread⟩

theorem encode_settled (command : Command) : Settled (("name", .string (tag command)) :: encode command) := by
  cases command <;> exact settled_cons _ (by decide) _

def tagged : Tagged Command where
  key := "name"
  tag := tag
  encode := encode
  decode := decode
  exact := decode_exact
  settled := encode_settled

/-- A client from before the H.264 switch sends neither `bitrate_kbps` nor the fields of the audio. -/
example : tagged.codec.decode (.object [("name", .string "start_screen_stream"), ("source_id", .null),
    ("max_fps", .int 30), ("jpeg_quality", .int 70), ("max_width", .null), ("max_height", .null)]) =
    some (.startScreenStream none (some 30) (some 70) none none none none none none) := rfl

end Command

/-! ## Requests -/

namespace ClientSecureMessage

open Wire

def pair : Record (String × String × String × Option String) :=
  Wire.requestId.and ((field "device_name" .string).and
    ((field "pairing_code" .string).and (optional "app_version" .string)))

def auth : Record (String × String × String × Option String) :=
  Wire.requestId.and ((field "device_id" .string).and
    ((field "session_token" .string).and (optional "app_version" .string)))

def commandFields : Record (String × Command) := Wire.requestId.and (field "command" Command.tagged.codec)

def tag : ClientSecureMessage → String
  | pairRequest _ => "pair_request"
  | authRequest _ => "auth_request"
  | command _ _ => "command"
  | ping _ => "ping"

def encode : ClientSecureMessage → Fields
  | pairRequest request =>
    pair.encode (request.requestId, request.deviceName, request.pairingCode, request.appVersion)
  | authRequest request =>
    auth.encode (request.requestId, request.deviceId, request.sessionToken, request.appVersion)
  | command requestId run => commandFields.encode (requestId, run)
  | ping requestId => Wire.requestId.encode requestId

/-- Records stand as objects, and variants and values of enumerations by their names. -/
def formed : Content → Bool :=
  isRecord (fun gs => Fields.texts gs ["type"] && (Fields.at gs "command").all (isRecord Command.formed))

def decode (tag : String) (gs : Fields) : Option ClientSecureMessage :=
  match tag with
  | "pair_request" => (pair.decode gs).map (fun p => pairRequest ⟨p.1, p.2.1, p.2.2.1, p.2.2.2⟩)
  | "auth_request" => (auth.decode gs).map (fun p => authRequest ⟨p.1, p.2.1, p.2.2.1, p.2.2.2⟩)
  | "command" => (commandFields.decode gs).map (fun p => command p.1 p.2)
  | "ping" => (Wire.requestId.decode gs).map ping
  | _ => none

theorem decode_exact (t : String) (gs : Fields) (message : ClientSecureMessage) :
    decode t gs = some message ↔ t = tag message ∧ ReadsFields gs (encode message) := by
  constructor
  · intro h
    unfold decode at h
    split at h
    case h_5 => cases h
    all_goals
      obtain ⟨p, rfl, hread⟩ := (map_exact _ _ gs message).mp h
      exact ⟨rfl, hread⟩
  · rintro ⟨rfl, hread⟩
    cases message <;> exact (map_exact _ _ gs _).mpr ⟨_, rfl, hread⟩

theorem encode_settled (message : ClientSecureMessage) :
    Settled (("type", .string (tag message)) :: encode message) := by
  cases message <;> exact settled_cons _ (by decide) _

def tagged : Tagged ClientSecureMessage where
  key := "type"
  tag := tag
  encode := encode
  decode := decode
  exact := decode_exact
  settled := encode_settled

/-- **The format of the requests**: what is sent is read back exactly when the text of each of its floats is
read as the float; and a request is read from exactly the objects with its variant and its fields, in any order
and among any others, a missing one taken for null and a number without a fraction for the nearest double. -/
theorem wire_exact (reread : ℚ → ℚ) :
    (∀ message, tagged.codec.decode ((tagged.codec.encode message).reprinted reread) = some message ↔
      ∀ q ∈ (tagged.codec.encode message).floats, reread q = q) ∧
      ∀ received message, tagged.codec.decode received = some message ↔
        Reads received (tagged.codec.encode message) :=
  ⟨tagged.codec.decode_reprinted reread, tagged.codec.exact⟩

end ClientSecureMessage

end Waypad
