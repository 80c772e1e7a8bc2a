import Waypad.Lib.BigEndian
import Waypad.Lib.Text

/-!
# Waypad.Screen.Envelope — what stands on the stream socket (`src/screen.rs`, `src/audio.rs`)

* `StreamMagic`: the handshake line that names the codec.
* `frameEnvelope`: two lengths, a header, a payload.
* `VideoFrame`, `JpegFrame`, `AudioPacket`: what `send_h264_frame`, `send_frame` and `pump_audio_stream`
  send, and the envelopes they make of it.
-/

namespace Waypad

/-- `STREAM_MAGIC_V1` for JPEG, `STREAM_MAGIC_V2` for H.264. -/
inductive StreamMagic
  | v1
  | v2
  deriving DecidableEq, Repr

def StreamMagic.line : StreamMagic → List UInt8
  | .v1 => Text.utf8 "WAYPAD_STREAM_V1\n".toList
  | .v2 => Text.utf8 "WAYPAD_STREAM_V2\n".toList

theorem StreamMagic.line_length (m : StreamMagic) : m.line.length = 17 := by
  cases m <;> decide

/-- `frame_envelope`; the lengths are cut to 32 bits. -/
def frameEnvelope (header payload : List UInt8) : List UInt8 :=
  BigEndian.bytes 4 header.length ++ BigEndian.bytes 4 payload.length ++ header ++ payload

structure Envelope where
  header : List UInt8
  payload : List UInt8
  deriving DecidableEq, Repr

def Envelope.bytes (self : Envelope) : List UInt8 := frameEnvelope self.header self.payload

theorem Envelope.bytes_length (self : Envelope) :
    self.bytes.length = 8 + self.header.length + self.payload.length := by
  simp only [bytes, frameEnvelope, List.length_append, BigEndian.bytes_length]

/-! ## Headers

`serde_json` writes the keys of an object in order. -/

def jsonBool (b : Bool) : List Char := if b then "true".toList else "false".toList

def jsonNat (n : ℕ) : List Char := Nat.toDigits 10 n

structure FrameGeometry where
  width : UInt32
  height : UInt32
  sourceWidth : UInt32
  sourceHeight : UInt32
  deriving DecidableEq, Repr

/-- The arguments of `send_h264_frame`, and the time it reads. -/
structure VideoFrame where
  seq : ℕ
  timestampMs : ℕ
  geometry : FrameGeometry
  payload : List UInt8
  keyFrame : Bool
  config : Bool
  deriving DecidableEq, Repr

namespace VideoFrame

/-- `header_fields` and the fields `send_h264_frame` adds. -/
def header (self : VideoFrame) : List Char :=
  "\x7b\"codec\":\"h264\",\"config\":".toList ++ jsonBool self.config ++
    ",\"height\":".toList ++ jsonNat self.geometry.height.toNat ++
    ",\"key_frame\":".toList ++ jsonBool self.keyFrame ++
    ",\"seq\":".toList ++ jsonNat self.seq ++
    ",\"source_height\":".toList ++ jsonNat self.geometry.sourceHeight.toNat ++
    ",\"source_width\":".toList ++ jsonNat self.geometry.sourceWidth.toNat ++
    ",\"timestamp_ms\":".toList ++ jsonNat self.timestampMs ++
    ",\"width\":".toList ++ jsonNat self.geometry.width.toNat ++ "\x7d".toList

def envelope (self : VideoFrame) : Envelope := ⟨Text.utf8 self.header, self.payload⟩

/-- The header begins with the codec. -/
theorem header_codec (self : VideoFrame) :
    ("\x7b\"codec\":\"".toList ++ "h264".toList ++ "\"".toList) <+: self.header := by
  unfold header
  simp only [List.append_assoc]
  refine List.IsPrefix.trans ?_ (List.prefix_append _ _)
  decide

end VideoFrame

/-- The arguments of `jpeg_frame_header`, the time it reads, and the picture. -/
structure JpegFrame where
  seq : ℕ
  timestampMs : ℕ
  width : UInt32
  height : UInt32
  payload : List UInt8
  deriving DecidableEq, Repr

namespace JpegFrame

/-- `jpeg_frame_header`: the size of the source stands for that of the picture. -/
def header (self : JpegFrame) : List Char :=
  "\x7b\"codec\":\"jpeg\",\"height\":".toList ++ jsonNat self.height.toNat ++
    ",\"seq\":".toList ++ jsonNat self.seq ++
    ",\"source_height\":".toList ++ jsonNat self.height.toNat ++
    ",\"source_width\":".toList ++ jsonNat self.width.toNat ++
    ",\"timestamp_ms\":".toList ++ jsonNat self.timestampMs ++
    ",\"width\":".toList ++ jsonNat self.width.toNat ++ "\x7d".toList

def envelope (self : JpegFrame) : Envelope := ⟨Text.utf8 self.header, self.payload⟩

/-- The header begins with the codec. -/
theorem header_codec (self : JpegFrame) :
    ("\x7b\"codec\":\"".toList ++ "jpeg".toList ++ "\"".toList) <+: self.header := by
  unfold header
  simp only [List.append_assoc]
  refine List.IsPrefix.trans ?_ (List.prefix_append _ _)
  decide

end JpegFrame

/-- `AudioFormat`. -/
structure AudioFormat where
  sampleRate : ℕ
  channels : ℕ
  frameMs : ℕ
  preSkip : ℕ
  deriving DecidableEq, Repr

/-- `AudioStreamOptions::format`. -/
def audioFormat (frameMs : ℕ) : AudioFormat :=
  { sampleRate := 48000, channels := 2, frameMs, preSkip := 312 }

/-- An Opus packet and the arguments of its `audio_frame_header`. -/
structure AudioPacket where
  seq : ℕ
  timestampMs : ℕ
  format : AudioFormat
  payload : List UInt8
  deriving DecidableEq, Repr

namespace AudioPacket

/-- `audio_frame_header`. -/
def header (self : AudioPacket) : List Char :=
  "\x7b\"channels\":".toList ++ jsonNat self.format.channels ++
    ",\"codec\":\"opus\",\"config\":".toList ++ jsonBool false ++
    ",\"frame_ms\":".toList ++ jsonNat self.format.frameMs ++
    ",\"key_frame\":".toList ++ jsonBool false ++
    ",\"pre_skip\":".toList ++ jsonNat self.format.preSkip ++
    ",\"sample_rate\":".toList ++ jsonNat self.format.sampleRate ++
    ",\"seq\":".toList ++ jsonNat self.seq ++
    ",\"timestamp_ms\":".toList ++ jsonNat self.timestampMs ++ "\x7d".toList

def envelope (self : AudioPacket) : Envelope := ⟨Text.utf8 self.header, self.payload⟩

end AudioPacket

end Waypad
