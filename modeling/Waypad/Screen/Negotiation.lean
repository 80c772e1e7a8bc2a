import Waypad.Screen.PortalSize
import Waypad.Screen.Registry
import Waypad.Screen.Sources

/-!
# Waypad.Screen.Negotiation — what `start_stream` promises, and what the capture is given (`src/screen.rs`)

`start_stream` bounds what the client asks for and answers with a codec, a rate and a quality.  The capture
starts later, in the task of the client that attaches with the token; `run_portal_stream` looks for the
encoder again and settles the bitrate anew, from the size that the portal hands out.

* `StreamStartOptions.tuning`, `resolveBitrateKbps`, `keyframeInterval`: the bounds.
* `gstreamerPipelineArgs`, `portalLaunch`, `x11Launch`, `grimLaunch`: what is launched.
* `StreamDesk.step`: the registry, the encoder that is found once, and the tasks; `step_cases`.
-/

namespace Waypad

/-! ## The answer -/

/-- `Ord::clamp`. -/
def clamp {α : Type*} [LT α] [DecidableLT α] (low high value : α) : α :=
  if value < low then low else if high < value then high else value

/-- `StreamStartOptions`. -/
structure StreamStartOptions where
  sourceId : Option String
  maxFps : Option UInt32
  jpegQuality : Option UInt8
  bitrateKbps : Option UInt32
  maxWidth : Option UInt32
  maxHeight : Option UInt32
  audio : Option Bool
  audioBitrateKbps : Option UInt32
  audioFrameMs : Option UInt32

/-- `StreamTuning`. -/
structure StreamTuning where
  fps : UInt32
  quality : UInt8
  bitrateKbps : Option UInt32
  maxWidth : Option UInt32
  maxHeight : Option UInt32

/-- The tuning of `start_stream`. -/
def StreamStartOptions.tuning (self : StreamStartOptions) : StreamTuning :=
  { fps := clamp 1 60 (self.maxFps.getD 30)
    quality := clamp 35 92 (self.jpegQuality.getD 70)
    bitrateKbps := self.bitrateKbps
    maxWidth := self.maxWidth.map clampLimit
    maxHeight := self.maxHeight.map clampLimit }

/-- `resolve_bitrate_kbps`; its doubles are exact rationals here. -/
def resolveBitrateKbps (requested : Option UInt32) (width height fps : UInt32) (quality : UInt8) : UInt32 :=
  match requested with
  | some kbps => clamp 500 40000 kbps
  | none =>
    let width := if width = 0 then 1920 else width
    let height := if height = 0 then 1080 else height
    let quality := clamp 35 92 quality
    let bitsPerPixel : ℚ := 5 / 100 + (quality.toNat - 35) / 57 * (11 / 100)
    let bits : ℚ := width.toNat * height.toNat * (max fps 1).toNat * bitsPerPixel
    UInt32.ofNat (clamp 800 25000 (roundCoord (bits / 1000))).toNat

/-- `keyframe_interval`. -/
def keyframeInterval (fps : UInt32) : UInt32 := clamp 15 120 (max fps 1 * 2)

/-- `AudioStreamStatus`, as `idle_status` makes it; the other fields are constants. -/
structure AudioStreamStatus where
  frameMs : ℕ
  bitrateKbps : ℕ
  reason : Option String

/-- `StreamStartResponse`; the port and the transport are constants. -/
structure StreamStartResponse where
  sessionId : String
  token : String
  codec : VideoCodec
  source : ScreenSource
  actualFps : UInt32
  actualQuality : UInt8
  actualBitrateKbps : UInt32
  portalLastError : Option String
  audio : AudioStreamStatus

/-- `H264Encoder`. -/
inductive H264Encoder
  | nvenc
  | x264
  deriving DecidableEq, Repr

namespace H264Encoder

def element : H264Encoder → String
  | nvenc => "nvh264enc"
  | x264 => "x264enc"

def rawFormat : H264Encoder → String
  | nvenc => "NV12"
  | x264 => "I420"

def settings (bitrateKbps gopSize : UInt32) : H264Encoder → List String
  | nvenc =>
    ["bitrate=" ++ toString bitrateKbps, "max-bitrate=" ++ toString bitrateKbps, "rc-mode=cbr", "preset=p4",
      "tune=ultra-low-latency", "zerolatency=true", "bframes=0", "gop-size=" ++ toString gopSize,
      "repeat-sequence-header=true", "aud=true"]
  | x264 =>
    ["tune=zerolatency", "speed-preset=veryfast", "bitrate=" ++ toString bitrateKbps,
      "key-int-max=" ++ toString gopSize, "bframes=0", "byte-stream=true", "aud=true"]

end H264Encoder

/-- The answer of `start_stream`; `encoder`: what `detect_h264_encoder` says. -/
def StreamStartOptions.response (self : StreamStartOptions) (id token : String) (source : ScreenSource)
    (encoder : Option H264Encoder) (audio : AudioCapability) (portalLastError : Option String) :
    StreamStartResponse :=
  let tuning := self.tuning
  let h264 := source.backend == "wayland-screencast-portal" && encoder.isSome
  let (targetWidth, targetHeight) :=
    targetDimensions source.width source.height tuning.maxWidth tuning.maxHeight
  let audioOptions := AudioStreamOptions.new (self.audioBitrateKbps.map UInt32.toNat)
    (self.audioFrameMs.map UInt32.toNat)
  { sessionId := id
    token
    codec := if h264 then .h264 else .jpeg
    source
    actualFps := tuning.fps
    actualQuality := tuning.quality
    actualBitrateKbps :=
      resolveBitrateKbps tuning.bitrateKbps (targetWidth.getD source.width) (targetHeight.getD source.height)
        tuning.fps tuning.quality
    portalLastError
    audio :=
      { frameMs := audioOptions.frameMs
        bitrateKbps := audioOptions.bitrateKbps
        reason :=
          if self.audio = some false then some "Desktop audio was disabled by the client for this session"
          else audio.reason } }

/-! ## The captures -/

namespace GStreamer

/-- `PipelineEncoding`, with its fields. -/
inductive PipelineEncoding
  | h264 (encoder : H264Encoder) (bitrateKbps gopSize : UInt32)
  | jpeg (quality : UInt8)
  deriving DecidableEq, Repr

def PipelineEncoding.codec : PipelineEncoding → VideoCodec
  | h264 _ _ _ => .h264
  | jpeg _ => .jpeg

/-- `gstreamer_pipeline_args`. -/
def gstreamerPipelineArgs (streamId fps : UInt32) (encoding : PipelineEncoding)
    (targetWidth targetHeight : Option UInt32) : List String :=
  let format := match encoding with
    | .h264 encoder _ _ => ",format=" ++ encoder.rawFormat
    | .jpeg _ => ""
  let size := match capsSize targetWidth targetHeight with
    | some (width, height) => ",width=" ++ toString width ++ ",height=" ++ toString height
    | none => ""
  ["-q", "pipewiresrc", "fd=3", "path=" ++ toString streamId, "do-timestamp=true", "keepalive-time=1000", "!",
    "queue", "max-size-buffers=4", "leaky=downstream", "!", "videorate", "drop-only=true",
    "max-rate=" ++ toString fps, "!", "videoscale", "!", "videoconvert", "n-threads=4", "!",
    "video/x-raw" ++ format ++ size ++ ",pixel-aspect-ratio=1/1", "!"] ++
  (match encoding with
    | .h264 encoder bitrateKbps gopSize =>
      encoder.element :: encoder.settings bitrateKbps gopSize ++
        ["!", "video/x-h264,profile=high", "!", "h264parse", "config-interval=-1", "!",
          "video/x-h264,stream-format=byte-stream,alignment=au", "!", "queue", "max-size-buffers=8"]
    | .jpeg quality =>
      ["jpegenc", "quality=" ++ toString (min quality 75), "idct-method=1", "!", "queue", "max-size-buffers=8",
        "leaky=downstream"]) ++
  ["!", "fdsink", "fd=1", "sync=false"]

end GStreamer

/-- What a task starts to get its pictures. -/
inductive Launch
  /-- gst-launch-1.0, with these `gstreamer_pipeline_args` -/
  | portal (streamId fps : UInt32) (encoding : GStreamer.PipelineEncoding) (width height : Option UInt32)
  /-- `-framerate`, `-q:v`, `-video_size` of ffmpeg, and whether it scales -/
  | ffmpeg (fps : UInt32) (quality : UInt8) (width height : UInt32) (scales : Bool)
  /-- `-q` and `-s` of grim, its output, and the rate of its loop -/
  | grim (fps : UInt32) (quality : UInt8) (scale : ℚ) (output : Option String)

/-- What the portal hands out. -/
structure PortalGrant where
  streamId : UInt32
  width : UInt32
  height : UInt32

/-- What `run_portal_stream` launches on the source of the portal. -/
def StreamTuning.portalLaunch (self : StreamTuning) (grant : PortalGrant) (encoder : Option H264Encoder) :
    Launch :=
  let (targetWidth, targetHeight) := targetDimensions grant.width grant.height self.maxWidth self.maxHeight
  match encoder with
  | some encoder =>
    let targetWidth := targetWidth.map evenDimension
    let targetHeight := targetHeight.map evenDimension
    .portal grant.streamId self.fps
      (.h264 encoder
        (resolveBitrateKbps self.bitrateKbps (targetWidth.getD grant.width) (targetHeight.getD grant.height)
          self.fps self.quality)
        (keyframeInterval self.fps))
      targetWidth targetHeight
  | none => .portal grant.streamId self.fps (.jpeg self.quality) targetWidth targetHeight

/-- What `run_x11_stream` launches. -/
def StreamTuning.x11Launch (self : StreamTuning) (source : ScreenSource) : Launch :=
  let (targetWidth, targetHeight) := targetDimensions source.width source.height self.maxWidth self.maxHeight
  .ffmpeg self.fps self.quality (targetWidth.getD source.width) (targetHeight.getD source.height)
    (targetWidth.isSome || targetHeight.isSome)

/-- What `run_grim_stream_impl` and `capture_grim_frame` launch for a picture; the scale, a double with four
decimals in the source, is an exact rational. -/
def StreamTuning.grimLaunch (self : StreamTuning) (source : ScreenSource) : Launch :=
  let scale := min (captureScale source.width source.height self.maxWidth self.maxHeight) (4 / 10)
  .grim self.fps (min self.quality 35) scale (source.id.dropPrefix? "hyprland:monitor:" |>.map (·.toString))

/-! ## Bounds -/

theorem clamp_range {α : Type*} [LE α] [LT α] [DecidableLT α] [Std.LawfulOrderLT α] [Std.IsLinearOrder α]
    {low high : α} (h : low ≤ high) (value : α) : low ≤ clamp low high value ∧ clamp low high value ≤ high := by
  unfold clamp
  split_ifs with hlow hhigh
  · exact ⟨Std.le_refl low, h⟩
  · exact ⟨h, Std.le_refl high⟩
  · exact ⟨Std.not_lt.mp hlow, Std.not_lt.mp hhigh⟩

/-- `resolve_bitrate_kbps` keeps to the wider of its two ranges. -/
theorem resolveBitrateKbps_range (requested : Option UInt32) (width height fps : UInt32) (quality : UInt8) :
    500 ≤ resolveBitrateKbps requested width height fps quality ∧
      resolveBitrateKbps requested width height fps quality ≤ 40000 := by
  cases requested with
  | some kbps => exact clamp_range (by decide) kbps
  | none =>
    unfold resolveBitrateKbps
    dsimp only
    generalize roundCoord _ = kbps
    obtain ⟨hlow, hhigh⟩ := clamp_range (show (800 : ℤ) ≤ 25000 by decide) kbps
    have hnat : (UInt32.ofNat (clamp 800 25000 kbps).toNat).toNat = (clamp 800 25000 kbps).toNat := by
      apply UInt32.toNat_ofNat_of_lt
      show _ < 4294967296
      omega
    rw [UInt32.le_iff_toNat_le, UInt32.le_iff_toNat_le, hnat]
    refine ⟨?_, ?_⟩
    · show 500 ≤ _
      omega
    · show _ ≤ 40000
      omega

/-- The numbers of an answer are within their ranges. -/
structure StreamStartResponse.Bounded (self : StreamStartResponse) : Prop where
  fps : 1 ≤ self.actualFps ∧ self.actualFps ≤ 60
  quality : 35 ≤ self.actualQuality ∧ self.actualQuality ≤ 92
  bitrate : 500 ≤ self.actualBitrateKbps ∧ self.actualBitrateKbps ≤ 40000

theorem response_bounded (options : StreamStartOptions) (id token : String) (source : ScreenSource)
    (encoder : Option H264Encoder) (audio : AudioCapability) (portalLastError : Option String) :
    (options.response id token source encoder audio portalLastError).Bounded :=
  ⟨clamp_range (by decide) _, clamp_range (by decide) _, resolveBitrateKbps_range _ _ _ _ _⟩

/-! ## The desk -/

/-- The fields of a `PendingStream` that the registry does not look at, with the token: in the end the one
that the client has presented. -/
structure StreamPlan where
  token : String
  source : ScreenSource
  tuning : StreamTuning

/-- The locals of a video task. -/
structure TaskPlan extends StreamPlan where
  session : String
  /-- what `run_portal_stream` has found out: the source of the portal, and the encoder -/
  portal : Option (PortalGrant × Option H264Encoder)
  /-- `run_portal_stream` has failed -/
  failed : Bool

/-- What `run_portal_stream` has settled. -/
def TaskPlan.pipeline (self : TaskPlan) : Option Launch :=
  self.portal.map (fun (grant, encoder) => self.tuning.portalLaunch grant encoder)

/-- A process that a task has started. -/
structure Launched where
  task : ℕ
  session : String
  token : String
  launch : Launch

structure StreamDesk where
  manager : ScreenManager
  /-- `H264_ENCODER` -/
  encoder : Option (Option H264Encoder)
  /-- with the pending entries -/
  pending : String → Option StreamPlan
  /-- with the attaches between their sections -/
  attaching : String → Option StreamPlan
  tasks : ℕ → Option TaskPlan
  lastPortalError : Option String
  /-- ghost: the answers of `start_stream` -/
  announced : List (StreamStartOptions × StreamStartResponse)
  /-- ghost -/
  launched : List Launched
  /-- ghost: the tasks whose `run_portal_stream` has failed -/
  failures : List ℕ

inductive DeskAction
  /-- `start_stream`, with the source it has selected; `probe`: what a search for the encoder would find -/
  | start (id token : String) (options : StreamStartOptions) (source : ScreenSource) (audio : AudioCapability)
      (probe : Option H264Encoder)
  /-- `Capabilities::detect` asks for the encoder -/
  | detect (probe : Option H264Encoder)
  /-- every other section of the registry -/
  | registry (action : ScreenAction)
  /-- the portal hands out its source, and `run_portal_stream` settles the pipeline -/
  | portalStarts (task : ℕ) (grant : PortalGrant) (probe : Option H264Encoder)
  /-- the pipeline is spawned, for the first time or to get a key frame -/
  | portalSpawns (task : ℕ)
  | portalFails (task : ℕ) (detail : String)
  | portalEnds (task : ℕ)
  | x11Spawns (task : ℕ)
  /-- grim takes a picture -/
  | grimSpawns (task : ℕ)

namespace StreamDesk

def new : StreamDesk :=
  { manager := .new, encoder := none, pending := fun _ => none, attaching := fun _ => none
    tasks := fun _ => none, lastPortalError := none, announced := [], launched := [], failures := [] }

/-- A task that has not ended. -/
def plays (self : StreamDesk) (task : ℕ) : Option TaskPlan :=
  (self.tasks task).filter (fun plan => self.manager.videoTasks.contains (task, plan.session))

def launch (self : StreamDesk) (task : ℕ) (plan : TaskPlan) (launch : Launch) : StreamDesk :=
  { self with launched := self.launched ++ [⟨task, plan.session, plan.token, launch⟩] }

/-- What the registry passes on with an entry. -/
def carry (self : StreamDesk) (manager : ScreenManager) : ScreenAction → StreamDesk
  | .attachTake token id =>
    { self with
      manager, pending := Function.update self.pending id none
      attaching := Function.update self.attaching id ((self.pending id).map (fun plan => { plan with token })) }
  | .attachInsert id =>
    { self with
      manager, attaching := Function.update self.attaching id none
      tasks := Function.update self.tasks self.manager.nextTask ((self.attaching id).map (fun plan =>
        { plan with session := id, portal := none, failed := false })) }
  | _ => { self with manager }

def step (self : StreamDesk) : DeskAction → Option StreamDesk
  | .start id token options source audio probe =>
    -- the encoder is searched for before a portal answer only
    let encoder := if source.backend = "wayland-screencast-portal" then some (self.encoder.getD probe)
      else self.encoder
    let response := options.response id token source (encoder.getD none) audio self.lastPortalError
    (self.manager.step (.start id token options.audio (options.audioBitrateKbps.map UInt32.toNat)
      (options.audioFrameMs.map UInt32.toNat) audio)).map (fun manager =>
        { self with
          manager, encoder
          pending := Function.update self.pending id (some ⟨token, source, options.tuning⟩)
          announced := self.announced ++ [(options, response)] })
  | .detect probe => some { self with encoder := some (self.encoder.getD probe) }
  | .registry action =>
    match action.drawn with
    | none => (self.manager.step action).map (fun manager => self.carry manager action)
    | some _ => none
  | .portalStarts task grant probe =>
    match self.plays task with
    | some plan =>
      if plan.source.backend = "wayland-screencast-portal" ∧ plan.portal.isNone ∧ plan.failed = false then
        let encoder := self.encoder.getD probe
        some { self with
          encoder := some encoder
          tasks := Function.update self.tasks task
            (some { plan with portal := some (grant, encoder) }) }
      else none
    | none => none
  | .portalSpawns task =>
    match self.plays task with
    | some plan =>
      match plan.pipeline with
      | some pipeline => if plan.failed then none else some (self.launch task plan pipeline)
      | none => none
    | none => none
  | .portalFails task detail =>
    match self.plays task with
    | some plan =>
      if plan.source.backend = "wayland-screencast-portal" then
        some { self with
          lastPortalError := some detail
          failures := self.failures ++ [task]
          tasks := Function.update self.tasks task (some { plan with failed := true }) }
      else none
    | none => none
  | .portalEnds task =>
    match self.plays task with
    | some plan =>
      if plan.source.backend = "wayland-screencast-portal" ∧ plan.failed = false then
        some { self with lastPortalError := none }
      else none
    | none => none
  | .x11Spawns task =>
    match self.plays task with
    | some plan =>
      if plan.source.backend = "x11-ffmpeg" then
        some (self.launch task plan (plan.tuning.x11Launch plan.source))
      else none
    | none => none
  -- after a portal that has failed, or as the backend of the source
  | .grimSpawns task =>
    match self.plays task with
    | some plan =>
      if plan.failed ∨
          (plan.source.backend ≠ "wayland-screencast-portal" ∧ plan.source.backend ≠ "x11-ffmpeg") then
        some (self.launch task plan (plan.tuning.grimLaunch plan.source))
      else none
    | none => none

/-! ## One step -/

/-- What a step of the registry leaves to the desk. -/
structure Follows (s t : ScreenManager) : Prop where
  waits : ∀ id token, t.Waits id token → s.Waits id token
  nextTask : s.nextTask ≤ t.nextTask

/-- What a step does, one constructor for each way. -/
inductive Step (s : StreamDesk) : DeskAction → StreamDesk → Prop
  | starts (id token : String) (options : StreamStartOptions) (source : ScreenSource) (audio : AudioCapability)
      (probe : Option H264Encoder) (manager : ScreenManager)
      (waits : ∀ id' token', manager.Waits id' token' → id' = id ∧ token' = token ∨
        id' ≠ id ∧ s.manager.Waits id' token')
      (nextTask : manager.nextTask = s.manager.nextTask) (encoder : Option (Option H264Encoder))
      (found : encoder = if source.backend = "wayland-screencast-portal" then some (s.encoder.getD probe)
        else s.encoder) :
      Step s (.start id token options source audio probe)
        { s with
          manager, encoder
          pending := Function.update s.pending id (some ⟨token, source, options.tuning⟩)
          announced := s.announced ++
            [(options, options.response id token source (encoder.getD none) audio s.lastPortalError)] }
  | detects (probe : Option H264Encoder) :
      Step s (.detect probe) { s with encoder := some (s.encoder.getD probe) }
  | takes (token id : String) (manager : ScreenManager) (waiting : s.manager.Waits id token)
      (waits : ∀ id' token', manager.Waits id' token' → id' ≠ id ∧ s.manager.Waits id' token')
      (nextTask : manager.nextTask = s.manager.nextTask) :
      Step s (.registry (.attachTake token id))
        { s with
          manager, pending := Function.update s.pending id none
          attaching := Function.update s.attaching id ((s.pending id).map (fun plan => { plan with token })) }
  | inserts (id : String) (manager : ScreenManager) (follows : Follows s.manager manager)
      (nextTask : s.manager.nextTask < manager.nextTask) :
      Step s (.registry (.attachInsert id))
        { s with
          manager, attaching := Function.update s.attaching id none
          tasks := Function.update s.tasks s.manager.nextTask ((s.attaching id).map (fun plan =>
            { plan with session := id, portal := none, failed := false })) }
  | registers (action : ScreenAction) (manager : ScreenManager) (follows : Follows s.manager manager) :
      Step s (.registry action) { s with manager }
  | grants (task : ℕ) (grant : PortalGrant) (probe : Option H264Encoder) (plan : TaskPlan)
      (plays : s.tasks task = some plan) (backend : plan.source.backend = "wayland-screencast-portal")
      (first : plan.portal = none) :
      Step s (.portalStarts task grant probe)
        { s with
          encoder := some (s.encoder.getD probe)
          tasks := Function.update s.tasks task
            (some { plan with portal := some (grant, s.encoder.getD probe) }) }
  | spawns (task : ℕ) (plan : TaskPlan) (pipeline : Launch) (plays : s.tasks task = some plan)
      (settled : plan.pipeline = some pipeline) :
      Step s (.portalSpawns task) (s.launch task plan pipeline)
  | fails (task : ℕ) (detail : String) (plan : TaskPlan) (plays : s.tasks task = some plan)
      (backend : plan.source.backend = "wayland-screencast-portal") :
      Step s (.portalFails task detail)
        { s with
          lastPortalError := some detail
          failures := s.failures ++ [task]
          tasks := Function.update s.tasks task (some { plan with failed := true }) }
  | ends (task : ℕ) : Step s (.portalEnds task) { s with lastPortalError := none }
  | x11 (task : ℕ) (plan : TaskPlan) (plays : s.tasks task = some plan)
      (backend : plan.source.backend = "x11-ffmpeg") :
      Step s (.x11Spawns task) (s.launch task plan (plan.tuning.x11Launch plan.source))
  | grim (task : ℕ) (plan : TaskPlan) (plays : s.tasks task = some plan)
      (backend : plan.failed = true ∨ plan.source.backend ≠ "wayland-screencast-portal" ∧
        plan.source.backend ≠ "x11-ffmpeg") :
      Step s (.grimSpawns task) (s.launch task plan (plan.tuning.grimLaunch plan.source))

section Steps

variable {s t : StreamDesk} {a : DeskAction}

theorem plays_some {task : ℕ} {plan : TaskPlan} (h : s.plays task = some plan) : s.tasks task = some plan :=
  (Option.filter_eq_some_iff.mp h).1

/-- The second section of an attach leaves who waits as it is. -/
theorem follows_insert (manager : ScreenManager) (call : Attaching) :
    Follows manager (manager.attachInsert call) := by
  refine ⟨?_, Nat.le_add_right _ 2⟩
  rintro id token ⟨stream, hlookup, rfl⟩
  have hlookup : (manager.sessions.insert call.session _).lookup id = some (.pending stream) := hlookup
  have hne : id ≠ call.session := by
    rintro rfl
    rw [AList.lookup_insert] at hlookup
    cases hlookup
  rw [AList.lookup_insert_ne hne] at hlookup
  exact ⟨stream, hlookup, rfl⟩

/-- Only the two sections of an attach pass something on. -/
theorem carry_other {action : ScreenAction} (haccepts : action.accepts = none)
    (hinsert : ∀ id, action ≠ .attachInsert id) (manager : ScreenManager) :
    s.carry manager action = { s with manager } := by
  cases action with
  | attachTake token id => cases haccepts
  | attachInsert id => exact absurd rfl (hinsert id)
  | _ => rfl

/-- The steps of the registry that are not those of a start. -/
theorem carry_step {action : ScreenAction} {manager : ScreenManager} (hdrawn : action.drawn = none)
    (hs : s.manager.step action = some manager) : Step s (.registry action) (s.carry manager action) := by
  by_cases hinsert : ∃ id, action = .attachInsert id
  · obtain ⟨id, rfl⟩ := hinsert
    obtain ⟨call, -, rfl⟩ := Option.map_eq_some_iff.mp hs
    exact .inserts id _ (follows_insert s.manager call) (Nat.lt_add_of_pos_right (by decide))
  have hinsert : ∀ id, action ≠ .attachInsert id := fun id haction => hinsert ⟨id, haction⟩
  have hother : action.accepts = none → Follows s.manager manager →
      Step s (.registry action) (s.carry manager action) := by
    intro haccepts hfollows
    rw [carry_other haccepts hinsert]
    exact .registers action manager hfollows
  cases ScreenManager.step_registers hs with
  | starts id token stream drawn =>
    rw [hdrawn] at drawn
    cases drawn
  | takes token id stream drawn accepts waiting sessions attaching videoTasks nextTask =>
    have haction : action = .attachTake token id := by
      cases action <;> cases accepts
      rfl
    subst haction
    exact .takes token id manager waiting (fun _ _ hw => ScreenManager.waits_erase sessions hw) nextTask
  | inserts call drawn accepts removes waiting next =>
    subst next
    exact hother accepts (follows_insert s.manager call)
  | removes task id action' ends sessions stays =>
    subst action'
    exact hother rfl ⟨stays.waits, stays.nextTask⟩
  | stays drawn accepts removes same => exact hother accepts ⟨same.waits, same.nextTask⟩

theorem step_cases (hs : s.step a = some t) : Step s a t := by
  cases a with
  | start id token options source audio probe =>
    simp only [step, ScreenManager.step, Option.map_some, Option.some.injEq] at hs
    subst hs
    refine .starts id token options source audio probe _ ?waits ?nextTask _ ?found
    case nextTask => rfl
    case found => rfl
    -- a new start replaces what waited under its id
    rintro id' token' ⟨stream, hlookup, rfl⟩
    have hlookup : (s.manager.sessions.insert id _).lookup id' = some (.pending stream) := hlookup
    by_cases hid : id' = id
    · subst hid
      rw [AList.lookup_insert] at hlookup
      cases hlookup
      exact Or.inl ⟨rfl, rfl⟩
    · rw [AList.lookup_insert_ne hid] at hlookup
      exact Or.inr ⟨hid, stream, hlookup, rfl⟩
  | detect probe =>
    obtain rfl := Option.some.inj hs
    exact .detects probe
  | registry action =>
    -- the other sections of the registry, which draw no token
    simp only [step] at hs
    split at hs
    · next hdrawn =>
      obtain ⟨manager, hmanager, rfl⟩ := Option.map_eq_some_iff.mp hs
      exact carry_step hdrawn hmanager
    · cases hs
  | portalStarts task grant probe =>
    simp only [step] at hs
    split at hs
    · next plan hplays =>
      split_ifs at hs with hcan
      obtain rfl := Option.some.inj hs
      exact .grants task grant probe plan (plays_some hplays) hcan.1 (Option.isNone_iff_eq_none.mp hcan.2.1)
    · cases hs
  | portalSpawns task =>
    simp only [step] at hs
    split at hs
    · next plan hplays =>
      split at hs
      · next pipeline hpipeline =>
        split_ifs at hs
        obtain rfl := Option.some.inj hs
        exact .spawns task plan pipeline (plays_some hplays) hpipeline
      · cases hs
    · cases hs
  | portalFails task detail =>
    simp only [step] at hs
    split at hs
    · next plan hplays =>
      split_ifs at hs with hbackend
      obtain rfl := Option.some.inj hs
      exact .fails task detail plan (plays_some hplays) hbackend
    · cases hs
  | portalEnds task =>
    simp only [step] at hs
    split at hs
    · split_ifs at hs
      obtain rfl := Option.some.inj hs
      exact .ends task
    · cases hs
  | x11Spawns task =>
    simp only [step] at hs
    split at hs
    · next plan hplays =>
      split_ifs at hs with hbackend
      obtain rfl := Option.some.inj hs
      exact .x11 task plan (plays_some hplays) hbackend
    · cases hs
  | grimSpawns task =>
    simp only [step] at hs
    split at hs
    · next plan hplays =>
      split_ifs at hs with hbackend
      obtain rfl := Option.some.inj hs
      exact .grim task plan (plays_some hplays) hbackend
    · cases hs

end Steps

end StreamDesk

end Waypad
