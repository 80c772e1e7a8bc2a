import Waypad.Screen.Pump

/-!
# Waypad.Screen.Producer — the video task of a session (`src/screen.rs`, `src/audio.rs`)

`attach_stream_client` spawns one task that runs the portal pipeline, ffmpeg or grim, and grim after a
portal pipeline that has failed before anything was sent.  One stop receiver is handed down to all of
them.  What the portal, the encoders, the socket and the clients do is the sequence of events; the audio
producers write to the same socket.

* `JpegStreamReader`: cuts a pipe into JPEG pictures.
* `StreamWire`: the socket and its handshake flag.
* `VideoTask`: the task, its phases, one step for each point where it waits.
* `Turn`, `step_turn`: every step is one of these.
* `forward_units`: the frames of a read are those of `VideoProducer.forwardUnits`.
-/

namespace Waypad

/-! ## JPEG pictures -/

/-- `find_marker`: the first place from `skip` on where the two bytes stand. -/
def findMarker (buffer : List UInt8) (first second : UInt8) (skip : ℕ) : Option ℕ :=
  ((List.range (buffer.length - 1)).drop skip).find? (fun index =>
    buffer[index]? == some first && buffer[index + 1]? == some second)

structure JpegStreamReader where
  buffer : List UInt8
  deriving DecidableEq, Repr

namespace JpegStreamReader

def new : JpegStreamReader := { buffer := [] }

/-- The loop of `push`: the pictures, and what stays in the buffer. -/
def framesLoop : ℕ → List UInt8 → List (List UInt8) × List UInt8
  | 0, buffer => ([], buffer)
  | fuel + 1, buffer =>
    match findMarker buffer 0xff 0xd8 0 with
    | none => ([], [])
    | some start =>
      let buffer := buffer.drop start
      match findMarker buffer 0xff 0xd9 2 with
      | none => ([], buffer)
      | some stop =>
        let (frames, rest) := framesLoop fuel (buffer.drop (stop + 2))
        (buffer.take (stop + 2) :: frames, rest)

def push (self : JpegStreamReader) (chunk : List UInt8) : List (List UInt8) × JpegStreamReader :=
  let buffer := self.buffer ++ chunk
  let (frames, rest) := framesLoop (buffer.length + 1) buffer
  (frames, { buffer := rest })

theorem lt_of_findMarker {buffer : List UInt8} {first second : UInt8} {skip index : ℕ}
    (h : findMarker buffer first second skip = some index) : index + 1 < buffer.length := by
  have hmem := List.mem_of_mem_drop (List.mem_of_find?_eq_some h)
  rw [List.mem_range] at hmem
  omega

/-- The fuel of `push` is enough: a picture takes more than one byte. -/
theorem framesLoop_fuel (fuel : ℕ) {buffer : List UInt8} (h : buffer.length < fuel) :
    framesLoop (fuel + 1) buffer = framesLoop fuel buffer := by
  induction fuel generalizing buffer with
  | zero => omega
  | succ fuel ih =>
    rw [framesLoop, framesLoop]
    split
    · rfl
    · next start hstart =>
      dsimp only
      split
      · rfl
      · next stop hstop =>
        have hlong := lt_of_findMarker hstop
        rw [ih]
        rw [List.length_drop] at hlong ⊢
        rw [List.length_drop]
        omega

end JpegStreamReader

/-! ## The socket -/

inductive VideoCodec
  | h264
  | jpeg
  deriving DecidableEq, Repr

/-- The value of the `codec` key. -/
def VideoCodec.name : VideoCodec → String
  | .h264 => "h264"
  | .jpeg => "jpeg"

/-- The codec a handshake line names. -/
def StreamMagic.codec : StreamMagic → VideoCodec
  | .v1 => .jpeg
  | .v2 => .h264

/-- What `send_h264_frame`, `send_frame` and `send_frame_grim` send. -/
inductive VideoEnvelope
  | h264 (frame : VideoFrame)
  | jpeg (frame : JpegFrame)
  deriving DecidableEq, Repr

namespace VideoEnvelope

def codec : VideoEnvelope → VideoCodec
  | .h264 _ => .h264
  | .jpeg _ => .jpeg

def header : VideoEnvelope → List Char
  | .h264 frame => frame.header
  | .jpeg frame => frame.header

def envelope : VideoEnvelope → Envelope
  | .h264 frame => frame.envelope
  | .jpeg frame => frame.envelope

/-- The header of an envelope begins with its codec. -/
theorem header_codec (self : VideoEnvelope) :
    ("\x7b\"codec\":\"".toList ++ self.codec.name.toList ++ "\"".toList) <+: self.header := by
  cases self with
  | h264 frame => exact frame.header_codec
  | jpeg frame => exact frame.header_codec

end VideoEnvelope

/-- What one write puts on the wire. -/
inductive WireItem
  | line (magic : StreamMagic)
  | video (envelope : VideoEnvelope)
  | audio (packet : AudioPacket)
  deriving DecidableEq, Repr

def WireItem.bytes : WireItem → List UInt8
  | .line magic => magic.line
  | .video envelope => envelope.envelope.bytes
  | .audio packet => packet.envelope.bytes

/-- What `is_client_disconnect` says of an error. -/
inductive StreamError
  | disconnect
  | other
  deriving DecidableEq, Repr

/-- What becomes of a write: it completes, or the socket takes some of the bytes and then it fails or its
task is aborted. -/
inductive WriteResult
  | completes
  | fails (taken : ℕ) (error : StreamError)
  | aborted (taken : ℕ)
  deriving DecidableEq, Repr

/-- A write that has begun. -/
structure StreamWrite where
  item : WireItem
  result : WriteResult
  deriving DecidableEq, Repr

/-- The bytes the socket has taken. -/
def StreamWrite.bytes (self : StreamWrite) : List UInt8 :=
  match self.result with
  | .completes => self.item.bytes
  | .fails taken _ | .aborted taken => self.item.bytes.take taken

structure StreamWire where
  /-- `magic_sent` -/
  handshakeSent : Bool
  /-- the writes, in order -/
  log : List StreamWrite
  deriving DecidableEq, Repr

namespace StreamWire

def new : StreamWire := { handshakeSent := false, log := [] }

/-- The bytes on the wire. -/
def bytes (self : StreamWire) : List UInt8 := self.log.flatMap StreamWrite.bytes

/-- A write, with the lock held. -/
def write (self : StreamWire) (item : WireItem) (result : WriteResult) : StreamWire :=
  { self with log := self.log ++ [⟨item, result⟩] }

end StreamWire

/-! ## The task -/

/-- Who captures. -/
inductive CaptureBackend
  | portal
  | x11
  | grim
  deriving DecidableEq, Repr

/-- The encoding `run_portal_stream` has chosen. -/
inductive PipelineEncoding
  | h264
  | jpeg
  deriving DecidableEq, Repr

/-- What the task is given, and what `run_portal_stream` finds out once: the encoder that
`detect_h264_encoder` has found, the size of the picture and of the source that the portal hands out. -/
structure VideoSetup where
  /-- `source.backend` -/
  backend : String
  /-- `source.width` -/
  width : UInt32
  /-- `source.height` -/
  height : UInt32
  encoding : PipelineEncoding
  geometry : FrameGeometry
  deriving DecidableEq, Repr

/-- A capture that runs: the locals of its pump. -/
inductive Capture
  /-- `pump_h264_stream` -/
  | h264 (pump : Pump)
  /-- `pump_jpeg_stream`, called by `run_portal_stream` or by `run_x11_stream` -/
  | jpeg (portal : Bool) (reader : JpegStreamReader)
  /-- `run_grim_stream_impl`; `seq` -/
  | grim (seq : ℕ)
  deriving DecidableEq, Repr

/-- A call that a pump makes for a unit or a picture. -/
inductive VideoSend
  | magic (magic : StreamMagic)
  | h264 (payload : List UInt8) (keyFrame config : Bool)
  | jpeg (picture : List UInt8)
  deriving DecidableEq, Repr

inductive VideoPhase
  /-- `PortalScreenCastSession::start`; whether it is the second try -/
  | approving (retried : Bool)
  /-- before gst-launch or ffmpeg is spawned -/
  | spawning (portal : Bool)
  /-- the `select!` of a pump -/
  | pumping (capture : Capture)
  /-- the loop over the units or pictures that were read -/
  | sending (capture : Capture) (sends : List VideoSend)
  /-- `send_magic` writes the line -/
  | writingLine (capture : Capture) (magic : StreamMagic) (sends : List VideoSend)
  /-- `send_magic` has written the line and not yet set the flag -/
  | storing (capture : Capture) (sends : List VideoSend)
  /-- the second `select!` of grim -/
  | pacing (seq : ℕ)
  | ended (result : Except StreamError Unit)
  | aborted
  | panicked

/-- What is noted of a run. -/
inductive VideoNote
  /-- a capture backend has been started -/
  | started (backend : CaptureBackend)
  /-- the stop receiver has yielded -/
  | stopYielded
  /-- it has been polled after that: a panic -/
  | polledAgain
  deriving DecidableEq, Repr

structure VideoTask where
  phase : VideoPhase
  counters : StreamCounters
  socket : StreamWire
  /-- the stop receiver has yielded -/
  stopTaken : Bool
  /-- the audio producers that have seen the flag and go on to write -/
  audio : List ℕ
  /-- ghost -/
  history : List VideoNote

inductive VideoEvent
  | portalStarted
  /-- `PortalScreenCastSession::start` fails; whether a restore token is stored -/
  | portalRefused (hadRestore : Bool) (error : StreamError)
  | spawned
  | spawnFailed (error : StreamError)
  /-- `stop_rx` -/
  | stop
  /-- `stdout.read`; no byte at the end of the pipe -/
  | read (chunk : List UInt8)
  | readFailed (error : StreamError)
  /-- `keyframe_rx` yields a request, so long after the pipeline has started -/
  | keyFrameRequest (elapsedMs : ℕ)
  /-- `keyframe_rx` yields `None` -/
  | keyFrameClosed
  /-- no byte for `flush_idle` -/
  | idle
  /-- `capture_grim_frame` -/
  | captured (picture : List UInt8)
  | captureFailed (error : StreamError)
  /-- `send_magic` reads the flag -/
  | checked
  /-- a `write_all`, and the time the header was made -/
  | wrote (nowMillis : ℕ) (result : WriteResult)
  /-- `send_magic` sets the flag -/
  | stored
  /-- the units are sent; whether grim has time left before its next picture -/
  | drained (early : Bool)
  | slept
  /-- `stop_stream` aborts the task, at an await that is not a write -/
  | aborted
  deriving DecidableEq, Repr

/-- What an audio producer does with a packet. -/
inductive AudioWriteEvent
  /-- it reads `muted` and the flag -/
  | checked (muted : Bool)
  /-- `try_write_envelope` -/
  | wrote (packet : AudioPacket) (result : WriteResult)
  /-- it does not get the lock, or the producer ends -/
  | dropped
  deriving DecidableEq, Repr

inductive ProducerEvent
  | video (event : VideoEvent)
  | audio (id : ℕ) (event : AudioWriteEvent)
  deriving DecidableEq, Repr

namespace Capture

def backend : Capture → CaptureBackend
  | .h264 _ => .portal
  | .jpeg portal _ => if portal then .portal else .x11
  | .grim _ => .grim

/-- The handshake line of the pump. -/
def magic : Capture → StreamMagic
  | .h264 _ => .v2
  | .jpeg _ _ => .v1
  | .grim _ => .v1

/-- The next sequence number. -/
def seq (counters : StreamCounters) : Capture → ℕ
  | .grim seq => seq
  | _ => counters.seq

end Capture

/-- What `pump_h264_stream` does with a unit it forwards. -/
def AccessUnit.sends (unit : AccessUnit) : List VideoSend :=
  .magic .v2 :: (unit.parameterSets.map (fun sets => VideoSend.h264 sets false true)).toList ++
    [.h264 unit.data unit.keyFrame false]

/-- What `pump_jpeg_stream` and grim do with a picture. -/
def pictureSends (picture : List UInt8) : List VideoSend := [.magic .v1, .jpeg picture]

namespace VideoSetup

/-- The pump of a pipeline that has been spawned. -/
def capture (self : VideoSetup) (portal : Bool) : Capture :=
  if portal then
    match self.encoding with
    | .h264 => .h264 .new
    | .jpeg => .jpeg true .new
  else .jpeg false .new

/-- The envelope of a call; `none` for `send_magic`.  The portal's pictures have the size of its source. -/
def envelope (self : VideoSetup) (capture : Capture) (counters : StreamCounters) (nowMillis : ℕ) :
    VideoSend → Option VideoEnvelope
  | .magic _ => none
  | .h264 payload keyFrame config =>
    some (.h264 ⟨capture.seq counters, nowMillis, self.geometry, payload, keyFrame, config⟩)
  | .jpeg picture =>
    if capture.backend = .portal then
      some (.jpeg ⟨capture.seq counters, nowMillis, self.geometry.sourceWidth,
        self.geometry.sourceHeight, picture⟩)
    else some (.jpeg ⟨capture.seq counters, nowMillis, self.width, self.height, picture⟩)

end VideoSetup

namespace VideoTask

/-- `run_grim_stream_on_open`. -/
def startGrim (self : VideoTask) : VideoTask :=
  { self with phase := .pumping (.grim 0), history := self.history ++ [.started .grim] }

/-- The task as it is spawned. -/
def start (setup : VideoSetup) : VideoTask :=
  let self : VideoTask :=
    { phase := .approving false, counters := ⟨0, 0⟩, socket := .new, stopTaken := false, audio := []
      history := [] }
  if setup.backend = "wayland-screencast-portal" then self
  else if setup.backend = "x11-ffmpeg" then { self with phase := .spawning false }
  else self.startGrim

/-- The stream of a backend returns: only a portal stream that was not cut off by the client, on a socket
nothing was sent on, is followed by grim. -/
def finish (self : VideoTask) (backend : CaptureBackend) (result : Except StreamError Unit) : VideoTask :=
  match backend, result with
  | .portal, .error error =>
    if error = .disconnect ∨ self.socket.handshakeSent = true then
      { self with phase := .ended (.error error) }
    else self.startGrim
  | _, _ => { self with phase := .ended result }

/-- The pump of a backend returns: a portal or X11 stream without frames is an error. -/
def pumped (self : VideoTask) (backend : CaptureBackend) (result : Except StreamError Unit) : VideoTask :=
  match backend, result with
  | .grim, _ | _, .error _ => self.finish backend result
  | _, .ok _ =>
    if self.counters.frames = 0 then self.finish backend (.error .other) else self.finish backend (.ok ())

/-- `stop_rx` yields in the `select!` of a pump; polling it again panics. -/
def takeStop (self : VideoTask) (backend : CaptureBackend) : VideoTask :=
  if self.stopTaken then
    { self with phase := .panicked, history := self.history ++ [.polledAgain] }
  else
    let self : VideoTask :=
      { self with stopTaken := true, history := self.history ++ [.stopYielded] }
    self.pumped backend (.ok ())

/-- `PortalScreenCastSession::start` returns. -/
def approve (self : VideoTask) (retried : Bool) : VideoEvent → Option VideoTask
  | .portalStarted => some { self with phase := .spawning true }
  | .portalRefused hadRestore error =>
    if hadRestore && !retried then some { self with phase := .approving true }
    else some (self.finish .portal (.error error))
  | _ => none

/-- gst-launch or ffmpeg is spawned. -/
def spawn (setup : VideoSetup) (self : VideoTask) (portal : Bool) : VideoEvent → Option VideoTask
  | .spawned =>
    let capture := setup.capture portal
    some { self with
      phase := .pumping capture, history := self.history ++ [.started capture.backend] }
  | .spawnFailed error => some (self.finish (if portal then .portal else .x11) (.error error))
  | _ => none

/-- The units of the reader, those before the first key frame of the pipeline left out. -/
def forward (self : VideoTask) (pump : Pump) (units : List AccessUnit) (reader : AnnexBStreamReader) :
    VideoTask :=
  let waiting := pump.waitingForKeyframe
  let sent := if waiting then forwarded units else units
  { self with
    phase := .sending
      (.h264 { pump with
        reader, returned := pump.returned ++ units
        waitingForKeyframe := waiting && units.all (fun unit => !unit.keyFrame) })
      (sent.flatMap AccessUnit.sends) }

/-- The `select!` of `pump_h264_stream`. -/
def selectH264 (self : VideoTask) (pump : Pump) : VideoEvent → Option VideoTask
  | .read chunk =>
    if chunk = [] then some (self.pumped .portal (.ok ()))
    else if chunk.length ≤ 64 * 1024 then
      (pump.reader.push chunk).map (fun r => self.forward pump r.1 r.2)
    else none
  | .readFailed error => some (self.pumped .portal (.error error))
  | .keyFrameRequest elapsedMs =>
    if !pump.keyframeChannelOpen then none
    else if keyframeRestartMinInterval ≤ elapsedMs then some { self with phase := .spawning true }
    else some self
  | .keyFrameClosed =>
    if !pump.keyframeChannelOpen then none
    else some { self with phase := .pumping (.h264 { pump with keyframeChannelOpen := false }) }
  | .idle =>
    if pump.reader.hasPendingPicture then
      pump.reader.flushPending.map (fun r => self.forward pump r.1.toList r.2)
    else none
  | _ => none

/-- The `select!` of `pump_jpeg_stream`. -/
def selectJpeg (self : VideoTask) (portal : Bool) (reader : JpegStreamReader) :
    VideoEvent → Option VideoTask
  | .read chunk =>
    if chunk = [] then some (self.pumped (Capture.jpeg portal reader).backend (.ok ()))
    else if chunk.length ≤ 32 * 1024 then
      let (frames, reader) := reader.push chunk
      some { self with phase := .sending (.jpeg portal reader) (frames.flatMap pictureSends) }
    else none
  | .readFailed error => some (self.pumped (Capture.jpeg portal reader).backend (.error error))
  | _ => none

/-- The first `select!` of `run_grim_stream_impl`. -/
def selectGrim (self : VideoTask) (seq : ℕ) : VideoEvent → Option VideoTask
  | .captured picture => some { self with phase := .sending (.grim seq) (pictureSends picture) }
  | .captureFailed error => some (self.pumped .grim (.error error))
  | _ => none

/-- The `select!` of a pump. -/
def select (self : VideoTask) (capture : Capture) (event : VideoEvent) : Option VideoTask :=
  if event = .stop then some (self.takeStop capture.backend)
  else
    match capture with
    | .h264 pump => self.selectH264 pump event
    | .jpeg portal reader => self.selectJpeg portal reader event
    | .grim seq => self.selectGrim seq event

/-- A frame has been sent. -/
def count (self : VideoTask) (capture : Capture) (sends : List VideoSend) : VideoTask :=
  match capture with
  | .grim seq => { self with phase := .sending (.grim (seq + 1)) sends }
  | _ =>
    { self with
      phase := .sending capture sends
      counters := ⟨self.counters.seq + 1, self.counters.frames + 1⟩ }

/-- A write that has not completed: `?` ends the pump. -/
def cutOff (self : VideoTask) (capture : Capture) (result : WriteResult) : VideoTask :=
  match result with
  | .fails _ error => self.pumped capture.backend (.error error)
  | _ => { self with phase := .aborted }

/-- The loop over the units or pictures. -/
def send (setup : VideoSetup) (self : VideoTask) (capture : Capture) :
    List VideoSend → VideoEvent → Option VideoTask
  | [], .drained early =>
    match capture with
      -- grim waits for its next picture when it is early
    | .grim seq => some { self with phase := if early then .pacing seq else .pumping capture }
    | _ => some { self with phase := .pumping capture }
  | .magic magic :: rest, .checked =>
    if self.socket.handshakeSent then some { self with phase := .sending capture rest }
    else some { self with phase := .writingLine capture magic rest }
  | call :: rest, .wrote nowMillis result =>
    (setup.envelope capture self.counters nowMillis call).map (fun envelope =>
      let self := { self with socket := self.socket.write (.video envelope) result }
      if result = .completes then self.count capture rest else self.cutOff capture result)
  | _, _ => none

/-- `send_magic` writes the line. -/
def writeLine (self : VideoTask) (capture : Capture) (magic : StreamMagic) (rest : List VideoSend) :
    VideoEvent → Option VideoTask
  | .wrote _ result =>
    let self := { self with socket := self.socket.write (.line magic) result }
    some (if result = .completes then { self with phase := .storing capture rest }
      else self.cutOff capture result)
  | _ => none

/-- `send_magic` sets the flag. -/
def store (self : VideoTask) (capture : Capture) (rest : List VideoSend) : VideoEvent → Option VideoTask
  | .stored =>
    some { self with
      phase := .sending capture rest, socket := { self.socket with handshakeSent := true } }
  | _ => none

/-- The second `select!` of `run_grim_stream_impl`. -/
def pace (self : VideoTask) (seq : ℕ) : VideoEvent → Option VideoTask
  | .stop => some (self.takeStop .grim)
  | .slept => some { self with phase := .pumping (.grim seq) }
  | _ => none

/-- What the task does. -/
def videoStep (setup : VideoSetup) (self : VideoTask) (event : VideoEvent) : Option VideoTask :=
  match self.phase with
  | .approving retried => self.approve retried event
  | .spawning portal => self.spawn setup portal event
  | .pumping capture => self.select capture event
  | .sending capture sends => self.send setup capture sends event
  | .writingLine capture magic rest => self.writeLine capture magic rest event
  | .storing capture rest => self.store capture rest event
  | .pacing seq => self.pace seq event
  | .ended _ | .aborted | .panicked => none

/-- The task has not returned. -/
def Alive (self : VideoTask) : Prop :=
  match self.phase with
  | .ended _ | .aborted | .panicked => False
  | _ => True

instance (self : VideoTask) : Decidable self.Alive := by
  unfold Alive
  split <;> infer_instance

/-- The audio part of `pump_audio_stream`: a packet is dropped before the flag is set.  The lock is not
modelled: whoever has seen the flag may write at any time. -/
def audioStep (self : VideoTask) (id : ℕ) : AudioWriteEvent → Option VideoTask
  | .checked muted =>
    if muted || !self.socket.handshakeSent then some self
    else some { self with audio := id :: self.audio }
  | .wrote packet result =>
    if id ∈ self.audio then
      some { self with audio := self.audio.erase id, socket := self.socket.write (.audio packet) result }
    else none
  | .dropped => if id ∈ self.audio then some { self with audio := self.audio.erase id } else none

/-- One step of the task or of an audio producer. -/
def step (setup : VideoSetup) (self : VideoTask) : ProducerEvent → Option VideoTask
  | .audio id event => self.audioStep id event
  | .video .aborted => if self.Alive then some { self with phase := .aborted } else none
  | .video event => self.videoStep setup event

/-! ## One step -/

/-- The call is one of a pump with this handshake line. -/
def Fits (magic : StreamMagic) : VideoSend → Prop
  | .magic named => named = magic
  | .h264 _ _ _ => magic = .v2
  | .jpeg _ => magic = .v1

/-- `send_magic` is called first. -/
def Opens (calls : List VideoSend) : Prop :=
  ∀ call rest, calls = call :: rest → ∃ magic, call = .magic magic

/-- The write a phase waits for. -/
inductive Writes : VideoPhase → WireItem → Prop
  | line (capture : Capture) (magic : StreamMagic) (rest : List VideoSend) :
      Writes (.writingLine capture magic rest) (.line magic)
  | frame (capture : Capture) (call : VideoSend) (rest : List VideoSend) (envelope : VideoEnvelope)
      (frame : ∀ magic, call ≠ .magic magic)
      (codec : ∀ magic, Fits magic call → envelope.codec = magic.codec) :
      Writes (.sending capture (call :: rest)) (.video envelope)

/-- The socket after a phase that has written nothing to the end. -/
def Torn (self : VideoTask) (socket : StreamWire) : Prop :=
  socket = self.socket ∨ ∃ item result, result ≠ .completes ∧ Writes self.phase item ∧
    socket = self.socket.write item result

/-- The phases that follow each other without a write, a new capture or the stop receiver; `sent` is the
flag. -/
inductive Goes (sent : Bool) : VideoPhase → VideoPhase → Prop
  | retries (retried : Bool) : Goes sent (.approving retried) (.approving true)
  | approved (retried : Bool) : Goes sent (.approving retried) (.spawning true)
  | restarts (pump : Pump) : Goes sent (.pumping (.h264 pump)) (.spawning true)
  | waits {capture next : Capture} (backend : next.backend = capture.backend)
      (magic : next.magic = capture.magic) : Goes sent (.pumping capture) (.pumping next)
  | reads {capture next : Capture} {calls : List VideoSend} (backend : next.backend = capture.backend)
      (magic : next.magic = capture.magic) (fits : ∀ call ∈ calls, Fits capture.magic call)
      (first : Opens calls) : Goes sent (.pumping capture) (.sending next calls)
  | drains (capture : Capture) : Goes sent (.sending capture []) (.pumping capture)
  | paces (seq : ℕ) : Goes sent (.sending (.grim seq) []) (.pacing seq)
  | sleeps (seq : ℕ) : Goes sent (.pacing seq) (.pumping (.grim seq))
  | skips (capture : Capture) (magic : StreamMagic) (rest : List VideoSend) (h : sent = true) :
      Goes sent (.sending capture (.magic magic :: rest)) (.sending capture rest)
  | opens (capture : Capture) (magic : StreamMagic) (rest : List VideoSend) (h : sent = false) :
      Goes sent (.sending capture (.magic magic :: rest)) (.writingLine capture magic rest)

/-- What a step does. -/
inductive Turn (setup : VideoSetup) (s : VideoTask) (event : ProducerEvent) : VideoTask → Prop
  | goes (phase : VideoPhase) (alive : s.Alive) (goes : Goes s.socket.handshakeSent s.phase phase) :
      Turn setup s event { s with phase }
  | spawns (portal : Bool) (phase : s.phase = .spawning portal) :
      Turn setup s event { s with
        phase := .pumping (setup.capture portal)
        history := s.history ++ [.started (setup.capture portal).backend] }
  /-- the stop receiver is polled and answers -/
  | stops (backend : CaptureBackend) (stop : event = .video .stop)
      (phase : (∃ capture, s.phase = .pumping capture ∧ capture.backend = backend) ∨
        backend = .grim ∧ ∃ seq, s.phase = .pacing seq) : Turn setup s event (s.takeStop backend)
  /-- the stream of a backend returns, perhaps because of a write -/
  | returns (backend : CaptureBackend) (result : Except StreamError Unit) (socket : StreamWire)
      (alive : s.Alive) (phase : ∀ capture rest, s.phase ≠ .storing capture rest)
      (torn : s.Torn socket) : Turn setup s event ({ s with socket }.pumped backend result)
  | aborts (socket : StreamWire) (alive : s.Alive) (torn : s.Torn socket) :
      Turn setup s event { s with phase := .aborted, socket }
  /-- the handshake line is written -/
  | opens (capture : Capture) (magic : StreamMagic) (rest : List VideoSend)
      (phase : s.phase = .writingLine capture magic rest) :
      Turn setup s event { s with
        phase := .storing capture rest, socket := s.socket.write (.line magic) .completes }
  | stores (capture : Capture) (rest : List VideoSend) (phase : s.phase = .storing capture rest) :
      Turn setup s event { s with
        phase := .sending capture rest, socket := { s.socket with handshakeSent := true } }
  /-- a frame is written -/
  | sends (capture : Capture) (call : VideoSend) (rest : List VideoSend) (envelope : VideoEnvelope)
      (phase : s.phase = .sending capture (call :: rest)) (writes : Writes s.phase (.video envelope)) :
      Turn setup s event
        ({ s with socket := s.socket.write (.video envelope) .completes }.count capture rest)
  /-- an audio producer does something -/
  | audio (id : ℕ) (audio : List ℕ) (socket : StreamWire)
      (heard : ∀ id ∈ audio, id ∈ s.audio ∨ s.socket.handshakeSent = true)
      (wrote : socket = s.socket ∨
        id ∈ s.audio ∧ ∃ packet result, socket = s.socket.write (.audio packet) result) :
      Turn setup s event { s with audio, socket }

section Step

variable {setup : VideoSetup} {s t : VideoTask} {event : ProducerEvent}

theorem torn_refl (s : VideoTask) : s.Torn s.socket := Or.inl rfl

theorem Torn.same {socket : StreamWire} (h : s.Torn socket) :
    socket.handshakeSent = s.socket.handshakeSent := by
  obtain rfl | ⟨item, result, -, -, rfl⟩ := h <;> rfl

/-- **The end of a stream**: the task ends too, or grim takes over from the portal on an untouched
socket. -/
theorem pumped_cases (s : VideoTask) (backend : CaptureBackend) (result : Except StreamError Unit) :
    (∃ result', s.pumped backend result = { s with phase := .ended result' }) ∨
      backend = .portal ∧ s.socket.handshakeSent = false ∧ s.pumped backend result = s.startGrim := by
  have finishes : ∀ result,
      (∃ result', s.finish backend result = { s with phase := .ended result' }) ∨
        backend = .portal ∧ s.socket.handshakeSent = false ∧ s.finish backend result = s.startGrim := by
    intro result
    unfold finish
    split
    · -- grim takes over a portal stream that has not sent its line
      next error =>
      split_ifs with h
      · exact Or.inl ⟨_, rfl⟩
      · push Not at h
        exact Or.inr ⟨rfl, by simpa using h.2, rfl⟩
    · exact Or.inl ⟨_, rfl⟩
  unfold pumped
  split
  · exact finishes _
  · exact finishes _
  · split_ifs
    · exact finishes _
    · exact finishes _

/-! The calls of a pump. -/

theorem fits_unit (unit : AccessUnit) : ∀ call ∈ unit.sends, Fits .v2 call := by
  intro call hcall
  simp only [AccessUnit.sends, List.cons_append, List.mem_cons, List.mem_append, Option.mem_toList,
    Option.map_eq_some_iff, List.not_mem_nil, or_false] at hcall
  obtain rfl | ⟨sets, -, rfl⟩ | rfl := hcall <;> rfl

theorem fits_picture (picture : List UInt8) : ∀ call ∈ pictureSends picture, Fits .v1 call := by
  intro call hcall
  simp only [pictureSends, List.mem_cons, List.not_mem_nil, or_false] at hcall
  obtain rfl | rfl := hcall <;> rfl

theorem fits_flatMap {α : Type} {magic : StreamMagic} {calls : α → List VideoSend}
    (h : ∀ x, ∀ call ∈ calls x, Fits magic call) (xs : List α) :
    ∀ call ∈ xs.flatMap calls, Fits magic call := by
  intro call hcall
  obtain ⟨x, -, hx⟩ := List.mem_flatMap.mp hcall
  exact h x call hx

theorem opens_cons (magic : StreamMagic) (rest : List VideoSend) : Opens (.magic magic :: rest) := by
  intro call rest' h
  exact ⟨magic, (List.cons.inj h).1.symm⟩

theorem opens_flatMap {α : Type} {calls : α → List VideoSend}
    (h : ∀ x, ∃ magic rest, calls x = .magic magic :: rest) (xs : List α) : Opens (xs.flatMap calls) := by
  cases xs with
  | nil =>
    intro call rest hnil
    simp at hnil
  | cons x xs =>
    obtain ⟨magic, rest, hx⟩ := h x
    rw [List.flatMap_cons, hx, List.cons_append]
    exact opens_cons magic _

/-- The forwarded units of a read. -/
theorem forward_turn {pump : Pump} (hphase : s.phase = .pumping (.h264 pump)) (units : List AccessUnit)
    (reader : AnnexBStreamReader) : Turn setup s event (s.forward pump units reader) := by
  refine .goes _ (by simp [Alive, hphase]) ?_
  rw [hphase]
  exact .reads rfl rfl (fits_flatMap fits_unit _) (opens_flatMap (fun unit => ⟨.v2, _, rfl⟩) _)

theorem selectH264_turn {pump : Pump} {video : VideoEvent} (hphase : s.phase = .pumping (.h264 pump))
    (hs : s.selectH264 pump video = some t) : Turn setup s (.video video) t := by
  have halive : s.Alive := by simp [Alive, hphase]
  have hstoring : ∀ capture rest, s.phase ≠ .storing capture rest := by simp [hphase]
  unfold selectH264 at hs
  split at hs
  · split_ifs at hs
    · cases hs
      exact .returns .portal (.ok ()) s.socket halive hstoring (torn_refl _)
    · obtain ⟨⟨units, reader⟩, -, rfl⟩ := Option.map_eq_some_iff.mp hs
      exact forward_turn hphase units reader
  · next error =>
    cases hs
    exact .returns .portal (.error error) s.socket halive hstoring (torn_refl _)
  · split_ifs at hs
    · cases hs
      exact .goes _ halive (hphase ▸ .restarts pump)
    · cases hs
      exact .goes s.phase halive (hphase ▸ .waits rfl rfl)
  · split_ifs at hs
    cases hs
    exact .goes _ halive (hphase ▸ .waits rfl rfl)
  · split_ifs at hs
    obtain ⟨⟨unit, reader⟩, -, rfl⟩ := Option.map_eq_some_iff.mp hs
    exact forward_turn hphase unit.toList reader
  · simp at hs

theorem selectJpeg_turn {portal : Bool} {reader : JpegStreamReader} {video : VideoEvent}
    (hphase : s.phase = .pumping (.jpeg portal reader)) (hs : s.selectJpeg portal reader video = some t) :
    Turn setup s (.video video) t := by
  have halive : s.Alive := by simp [Alive, hphase]
  have hstoring : ∀ capture rest, s.phase ≠ .storing capture rest := by simp [hphase]
  unfold selectJpeg at hs
  split at hs
  · next chunk =>
    split_ifs at hs
    · cases hs
      exact .returns _ (.ok ()) s.socket halive hstoring (torn_refl _)
    · cases hs
      refine .goes _ halive ?_
      rw [hphase]
      exact .reads rfl rfl (fits_flatMap fits_picture _) (opens_flatMap (fun picture => ⟨.v1, _, rfl⟩) _)
  · next error =>
    cases hs
    exact .returns _ (.error error) s.socket halive hstoring (torn_refl _)
  · simp at hs

theorem selectGrim_turn {seq : ℕ} {video : VideoEvent} (hphase : s.phase = .pumping (.grim seq))
    (hs : s.selectGrim seq video = some t) : Turn setup s (.video video) t := by
  have halive : s.Alive := by simp [Alive, hphase]
  unfold selectGrim at hs
  split at hs
  · next picture =>
    cases hs
    refine .goes _ halive ?_
    rw [hphase]
    exact .reads rfl rfl (fits_picture picture) (opens_cons .v1 _)
  · next error =>
    cases hs
    exact .returns .grim (.error error) s.socket halive (by simp [hphase]) (torn_refl _)
  · simp at hs

/-- A write that does not complete ends the stream. -/
theorem cutOff_turn {capture : Capture} {item : WireItem} {result : WriteResult}
    (hresult : result ≠ .completes) (hwrites : Writes s.phase item) :
    Turn setup s event ({ s with socket := s.socket.write item result }.cutOff capture result) := by
  have htorn : s.Torn (s.socket.write item result) := Or.inr ⟨item, result, hresult, hwrites, rfl⟩
  have halive : s.Alive := by
    unfold Alive
    generalize s.phase = phase at hwrites
    cases hwrites <;> trivial
  have hstoring : ∀ capture rest, s.phase ≠ .storing capture rest := by
    rintro capture rest hphase
    rw [hphase] at hwrites
    cases hwrites
  cases result with
  | completes => exact absurd rfl hresult
  | fails taken error => exact .returns _ (.error error) _ halive hstoring htorn
  | aborted taken => exact .aborts _ halive htorn

theorem envelope_codec {capture : Capture} {counters : StreamCounters} {nowMillis : ℕ}
    {call : VideoSend} {envelope : VideoEnvelope}
    (h : setup.envelope capture counters nowMillis call = some envelope) (magic : StreamMagic)
    (hfits : Fits magic call) : envelope.codec = magic.codec := by
  unfold VideoSetup.envelope at h
  split at h
  · simp at h
  · cases h
    obtain rfl : magic = .v2 := hfits
    rfl
  · obtain rfl : magic = .v1 := hfits
    split_ifs at h <;> cases h <;> rfl

theorem send_turn {capture : Capture} {calls : List VideoSend} {video : VideoEvent}
    (hphase : s.phase = .sending capture calls) (hs : s.send setup capture calls video = some t) :
    Turn setup s (.video video) t := by
  have halive : s.Alive := by simp [Alive, hphase]
  unfold send at hs
  split at hs
  · next early =>
    split at hs
    · next seq =>
      cases hs
      refine .goes _ halive ?_
      rw [hphase]
      cases early with
      | true => exact .paces seq
      | false => exact .drains _
    · cases hs
      exact .goes _ halive (hphase ▸ .drains capture)
  · -- the line is written once in a task
    next magic rest =>
    split_ifs at hs with hsent
    · cases hs
      exact .goes _ halive (hphase ▸ .skips capture magic rest hsent)
    · cases hs
      exact .goes _ halive (hphase ▸ .opens capture magic rest (by simpa using hsent))
  · -- a frame that is written, or a write that ends the stream
    next call rest nowMillis result =>
    obtain ⟨envelope, henvelope, rfl⟩ := Option.map_eq_some_iff.mp hs
    have hwrites : Writes s.phase (.video envelope) := by
      rw [hphase]
      refine .frame capture call rest envelope ?_ (envelope_codec henvelope)
      rintro magic rfl
      simp [VideoSetup.envelope] at henvelope
    dsimp only
    split_ifs with hresult
    · subst hresult
      exact .sends capture call rest envelope hphase hwrites
    · exact cutOff_turn hresult hwrites
  · simp at hs

theorem approve_turn {retried : Bool} {video : VideoEvent} (hphase : s.phase = .approving retried)
    (hs : s.approve retried video = some t) : Turn setup s (.video video) t := by
  have halive : s.Alive := by simp [Alive, hphase]
  unfold approve at hs
  split at hs
  · cases hs
    exact .goes _ halive (hphase ▸ .approved retried)
  · next error =>
    split_ifs at hs
    · cases hs
      exact .goes _ halive (hphase ▸ .retries retried)
    · cases hs
      exact .returns .portal (.error error) s.socket halive (by simp [hphase]) (torn_refl _)
  · simp at hs

theorem spawn_turn {portal : Bool} {video : VideoEvent} (hphase : s.phase = .spawning portal)
    (hs : s.spawn setup portal video = some t) : Turn setup s (.video video) t := by
  unfold spawn at hs
  split at hs
  · cases hs
    exact .spawns portal hphase
  · next error =>
    cases hs
    have halive : s.Alive := by simp [Alive, hphase]
    have hreturns := @Turn.returns setup s (.video (.spawnFailed error))
      (if portal then .portal else .x11) (.error error) s.socket halive (by simp [hphase]) (torn_refl _)
    cases portal <;> exact hreturns
  · simp at hs

theorem select_turn {capture : Capture} {video : VideoEvent} (hphase : s.phase = .pumping capture)
    (hs : s.select capture video = some t) : Turn setup s (.video video) t := by
  unfold select at hs
  split_ifs at hs with hstop
  · cases hs
    subst hstop
    exact .stops _ rfl (Or.inl ⟨capture, hphase, rfl⟩)
  · cases capture with
    | h264 pump => exact selectH264_turn hphase hs
    | jpeg portal reader => exact selectJpeg_turn hphase hs
    | grim seq => exact selectGrim_turn hphase hs

theorem writeLine_turn {capture : Capture} {magic : StreamMagic} {rest : List VideoSend}
    {video : VideoEvent} (hphase : s.phase = .writingLine capture magic rest)
    (hs : s.writeLine capture magic rest video = some t) : Turn setup s (.video video) t := by
  unfold writeLine at hs
  split at hs
  · next result =>
    cases hs
    split_ifs with hresult
    · subst hresult
      exact .opens capture magic rest hphase
    · exact cutOff_turn hresult (hphase ▸ .line capture magic rest)
  · simp at hs

theorem store_turn {capture : Capture} {rest : List VideoSend} {video : VideoEvent}
    (hphase : s.phase = .storing capture rest) (hs : s.store capture rest video = some t) :
    Turn setup s (.video video) t := by
  unfold store at hs
  split at hs
  · cases hs
    exact .stores capture rest hphase
  · simp at hs

theorem pace_turn {seq : ℕ} {video : VideoEvent} (hphase : s.phase = .pacing seq)
    (hs : s.pace seq video = some t) : Turn setup s (.video video) t := by
  unfold pace at hs
  split at hs
  · cases hs
    exact .stops _ rfl (Or.inr ⟨rfl, seq, hphase⟩)
  · cases hs
    exact .goes _ (by simp [Alive, hphase]) (hphase ▸ .sleeps seq)
  · simp at hs

theorem videoStep_turn {video : VideoEvent} (hs : s.videoStep setup video = some t) :
    Turn setup s (.video video) t := by
  unfold videoStep at hs
  split at hs
  · next retried hphase => exact approve_turn hphase hs
  · next portal hphase => exact spawn_turn hphase hs
  · next capture hphase => exact select_turn hphase hs
  · next capture calls hphase => exact send_turn hphase hs
  · next capture magic rest hphase => exact writeLine_turn hphase hs
  · next capture rest hphase => exact store_turn hphase hs
  · next seq hphase => exact pace_turn hphase hs
  all_goals simp at hs

theorem audioStep_turn {id : ℕ} {audio : AudioWriteEvent} (hs : s.audioStep id audio = some t) :
    Turn setup s event t := by
  unfold audioStep at hs
  split at hs
  · split_ifs at hs with hdrop
    · cases hs
      exact .audio id s.audio s.socket (fun id hid => Or.inl hid) (Or.inl rfl)
    · cases hs
      refine .audio id (id :: s.audio) s.socket (fun id' hid => Or.inr ?_) (Or.inl rfl)
      simp only [Bool.or_eq_true, Bool.not_eq_true', not_or, Bool.not_eq_true, Bool.not_eq_false] at hdrop
      exact hdrop.2
  · next packet result =>
    split_ifs at hs with hid
    cases hs
    exact .audio id _ _ (fun id' hid' => Or.inl (List.mem_of_mem_erase hid'))
      (Or.inr ⟨hid, packet, result, rfl⟩)
  · split_ifs at hs
    cases hs
    exact .audio id _ s.socket (fun id' hid' => Or.inl (List.mem_of_mem_erase hid')) (Or.inl rfl)

/-- **Every step is one of these.** -/
theorem step_turn (hs : step setup s event = some t) : Turn setup s event t := by
  unfold step at hs
  split at hs
  · exact audioStep_turn hs
  · split_ifs at hs with halive
    cases hs
    exact .aborts s.socket halive (torn_refl _)
  · exact videoStep_turn hs

/-- What a call of `send_h264_frame` sends besides its number. -/
def picked : VideoSend → Option Picked
  | .h264 payload keyFrame config => some ⟨payload, keyFrame, config⟩
  | _ => none

theorem picked_sends (unit : AccessUnit) : unit.sends.filterMap picked = unit.envelopes := by
  unfold AccessUnit.sends AccessUnit.envelopes
  cases unit.parameterSets <;> rfl

theorem picked_units (units : List AccessUnit) :
    (units.flatMap AccessUnit.sends).filterMap picked = units.flatMap AccessUnit.envelopes := by
  rw [List.filterMap_flatMap]
  simp only [picked_sends]

/-- The calls that `forward` leaves to be made are the frames that `VideoProducer.forwardUnits` writes in
one go, and the flag is the same. -/
theorem forward_units {env : StreamEnv} (geometry : FrameGeometry) (hok : ∀ i, env.accepts i = true)
    {producer : VideoProducer} (hn : producer.Numbered) (s : VideoTask) (pump : Pump)
    (units : List AccessUnit) (reader : AnnexBStreamReader) :
    ∃ next pump' calls, (s.forward pump units reader).phase = .sending (.h264 pump') calls ∧
      producer.forwardUnits env geometry pump.waitingForKeyframe units =
        .ok (pump'.waitingForKeyframe, next) ∧
      next.picked = producer.picked ++ calls.filterMap picked := by
  obtain ⟨next, hnext, -, hpicked⟩ :=
    VideoProducer.forwardUnits_ok geometry hok hn pump.waitingForKeyframe units
  refine ⟨next, _, _, rfl, hnext, ?_⟩
  rw [hpicked, picked_units]

/-! ## Before the handshake line -/

/-- Without the handshake line no frame has been counted, and the next call is `send_magic`. -/
def LineFirst (self : VideoTask) : Prop :=
  self.socket.handshakeSent = false → self.counters.frames = 0 ∧
    ∀ capture calls, self.phase = .sending capture calls → Opens calls

theorem LineFirst.pumped {socket : StreamWire} (h : s.LineFirst)
    (hsame : socket.handshakeSent = s.socket.handshakeSent) (backend : CaptureBackend)
    (result : Except StreamError Unit) : ({ s with socket }.pumped backend result).LineFirst := by
  intro hunsent
  obtain ⟨result', ht⟩ | ⟨-, -, ht⟩ := pumped_cases { s with socket } backend result <;>
    rw [ht] at hunsent ⊢ <;> exact ⟨(h (hsame ▸ hunsent)).1, by simp [startGrim]⟩

theorem LineFirst.turn (h : s.LineFirst) (hturn : Turn setup s event t) : t.LineFirst := by
  cases hturn with
  | goes phase _ hgoes =>
    intro hunsent
    refine ⟨(h hunsent).1, ?_⟩
    rintro capture calls rfl
    generalize hfrom : s.phase = phase at hgoes
    cases hgoes with
    | reads _ _ _ first => exact first
    | skips _ magic _ hsent =>
      rw [show s.socket.handshakeSent = false from hunsent] at hsent
      simp at hsent
  | spawns portal _ => exact fun hunsent => ⟨(h hunsent).1, by simp⟩
  | stops backend _ _ =>
    unfold takeStop
    split_ifs
    · intro hunsent
      exact ⟨(h hunsent).1, by simp⟩
    · have h' : ({ s with stopTaken := true, history := s.history ++ [.stopYielded] } :
          VideoTask).LineFirst := h
      exact h'.pumped rfl backend (.ok ())
  | returns backend result socket _ _ torn => exact h.pumped torn.same backend result
  | aborts socket _ torn => exact fun hunsent => ⟨(h (torn.same ▸ hunsent)).1, by simp⟩
  | opens capture magic rest _ => exact fun hunsent => ⟨(h hunsent).1, by simp⟩
  | stores capture rest _ => exact fun hunsent => by simp at hunsent
    -- from here on the line counts as sent
  | sends capture call rest envelope phase writes =>
    intro hunsent
    have hunsent' : s.socket.handshakeSent = false := by
      unfold count at hunsent
      split at hunsent <;> exact hunsent
    obtain ⟨magic, hmagic⟩ := (h hunsent').2 capture _ phase call rest rfl
    rw [phase] at writes
    cases writes with
    | frame _ _ _ _ frame _ => exact absurd hmagic (frame magic)
  | audio id audio socket _ wrote =>
    -- audio does not touch the flag
    have hsame : socket.handshakeSent = s.socket.handshakeSent := by
      obtain rfl | ⟨-, packet, result, rfl⟩ := wrote <;> rfl
    intro hunsent
    exact h (hsame ▸ hunsent)

end Step

theorem start_lineFirst (setup : VideoSetup) : (start setup).LineFirst := by
  unfold start
  dsimp only
  split_ifs <;> exact fun _ => ⟨rfl, by simp [startGrim]⟩

theorem run_lineFirst {setup : VideoSetup} {s : VideoTask} {events : List ProducerEvent}
    (hr : Trans.Runs (step setup) Trans.Free (start setup) events s) : s.LineFirst :=
  hr.inv (fun _ _ _ h _ hs => h.turn (step_turn hs)) (start_lineFirst setup)

end VideoTask

end Waypad
