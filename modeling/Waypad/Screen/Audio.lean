import Waypad.Screen.Sessions

/-!
# Waypad.Screen.Audio — the audio tasks of the sessions (`src/audio.rs`, `src/screen.rs`)

The registry of `ScreenManager` with the tasks that `DesktopAudioStream::spawn` starts: each waits for the
video stream to open, captures in up to three attempts, and writes its packets one by one.  A handle in
the registry shares the mute flag with its task, and sends the stop signal when it is dropped.

`stop_audio` takes the handle out and waits for the task with the registry locked, for two seconds at
most; then it lets the task go.

* `AudioTask.next`: `run_audio_stream` and `pump_audio_stream`.
* `AudioHost.step`: the registry, the tasks and the clock.

The UUIDs that a start draws are new.
-/

namespace Waypad

/-- `RESTART_ATTEMPTS`. -/
def restartAttempts : ℕ := 3

/-- `MAX_PACKETS_PER_BATCH`. -/
def maxPacketsPerBatch : ℕ := 8

/-- `AUDIO_WRITE_TIMEOUT`, in milliseconds. -/
def audioWriteTimeout : ℕ := 5000

/-- How long `DesktopAudioStream::stop` waits, in milliseconds. -/
def audioStopTimeout : ℕ := 2000

inductive AudioPhase
  /-- `wait_for_stream_open` -/
  | opening
  /-- the top of an attempt -/
  | attempt (n : ℕ)
  /-- `resolve_monitor_device`, `spawn_audio_pipeline` -/
  | starting (n : ℕ)
  /-- the `select!` of `pump_audio_stream` -/
  | reading (n : ℕ)
  /-- so many packets of a read are still to be sent -/
  | batch (n left : ℕ)
  /-- `try_write_envelope` has the socket; so many packets after this one -/
  | writing (n left since : ℕ)
  /-- between two attempts -/
  | backoff (n : ℕ)
  deriving DecidableEq, Repr

/-- A task of `run_audio_stream` that has not ended. -/
structure AudioTask where
  task : ℕ
  session : String
  muted : Bool
  /-- the stop signal has been sent -/
  stop : Bool
  phase : AudioPhase
  deriving DecidableEq, Repr

inductive AudioEvent
  /-- `handshake_sent()` -/
  | opened
  /-- `stop_rx` -/
  | stopped
  /-- `stop_rx.try_recv()` -/
  | checked
  /-- the monitor device is not found -/
  | noDevice
  /-- the pipeline is there -/
  | started
  /-- the pipeline ends or fails -/
  | ended
  /-- a read yields so many packets -/
  | read (packets : ℕ)
  /-- the packet is dropped: muted, no handshake line yet, or the socket is busy for too long -/
  | dropped
  /-- the socket is taken for the packet -/
  | locked
  | written
  /-- the write fails, or its timeout passes -/
  | failed
  | slept
  deriving DecidableEq, Repr

namespace AudioTask

/-- `DesktopAudioStream::spawn`. -/
def spawn (session : String) (task : ℕ) : AudioTask :=
  { task, session, muted := false, stop := false, phase := .opening }

/-- After a packet. -/
def afterPacket (n : ℕ) : ℕ → AudioPhase
  | 0 => .reading n
  | left => .batch n left

/-- After a pipeline that has ended or failed: `none` when the task gives up. -/
def afterAttempt (self : AudioTask) (n : ℕ) : Option AudioTask :=
  if restartAttempts ≤ n then none else some { self with phase := .backoff n }

/-- What a task does: `none` is not possible, `some none` is its end.  `open_` is whether the handshake
line has been written, `free` whether no other audio task has the socket. -/
def next (self : AudioTask) (open_ free : Bool) (now : ℕ) : AudioEvent → Option (Option AudioTask)
  | .opened =>
    match self.phase with
    | .opening => if open_ then some (some { self with phase := .attempt 1 }) else none
    | _ => none
  | .stopped =>
    -- where a `select` listens for the stop
    match self.phase with
    | .opening | .reading _ | .backoff _ => if self.stop then some none else none
    | _ => none
  | .checked =>
    match self.phase with
    | .attempt n => some (if self.stop then none else some { self with phase := .starting n })
    | _ => none
  | .noDevice =>
    match self.phase with
    | .starting _ => some none
    | _ => none
  | .started =>
    match self.phase with
    | .starting n => some (some { self with phase := .reading n })
    | _ => none
  | .ended =>
    match self.phase with
    | .starting n | .reading n => some (self.afterAttempt n)
    | _ => none
  | .read packets =>
    match self.phase with
    | .reading n =>
      some (some { self with phase := afterPacket n (min packets maxPacketsPerBatch) })
    | _ => none
  | .dropped =>
    match self.phase with
    | .batch n left => some (some { self with phase := afterPacket n (left - 1) })
    | _ => none
  | .locked =>
    -- a muted packet is dropped instead
    match self.phase with
    | .batch n left =>
      if self.muted = false ∧ open_ = true ∧ free = true then
        some (some { self with phase := .writing n (left - 1) now })
      else none
    | _ => none
  | .written =>
    match self.phase with
    | .writing n left since =>
      if now ≤ since + audioWriteTimeout then
        some (some { self with phase := afterPacket n left })
      else none
    | _ => none
  | .failed =>
    match self.phase with
    | .writing .. => some none
    | _ => none
  | .slept =>
    match self.phase with
    | .backoff n => some (some { self with phase := .attempt (n + 1) })
    | _ => none

/-- The task has an audio envelope on its way into the socket. -/
def Writing (self : AudioTask) : Prop := ∃ n left since, self.phase = .writing n left since

/-- The task is in `pump_audio_stream`. -/
def Pumping (self : AudioTask) : Prop :=
  match self.phase with
  | .reading _ | .batch .. | .writing .. => True
  | _ => False

/-- It is there, or past the last look at the stop signal before it. -/
def Capturing (self : AudioTask) : Prop :=
  match self.phase with
  | .starting _ | .reading _ | .batch .. | .writing .. => True
  | _ => False

end AudioTask

/-- The handle in the registry. -/
def ScreenManager.handle (self : ScreenManager) (id : String) : Option DesktopAudioStream :=
  match self.sessions.lookup id with
  | some (.running stream) => stream.audio
  | _ => none

/-- The session for which a section may spawn an audio task. -/
def ScreenAction.spawns : ScreenAction → Option String
  | .attachInsert id | .startAudio id _ _ => some id
  | _ => none

/-- The action is a section of the registry lock. -/
def ScreenAction.locks : ScreenAction → Bool
  | .stopDone _ | .stopAbort _ | .videoDropped _ | .keyFrameTaken _ => false
  | _ => true

/-- What the registry sees of a task: its handle's mute flag, or that the handle is gone. -/
def AudioTask.follow (manager : ScreenManager) (self : AudioTask) : AudioTask :=
  match manager.handle self.session with
  | some handle =>
    if handle.task = self.task then { self with muted := handle.muted } else { self with stop := true }
  | none => { self with stop := true }

/-- A `stop_audio` that waits for the task of the handle. -/
structure StoppingAudio where
  session : String
  task : ℕ
  since : ℕ
  deriving DecidableEq, Repr

structure AudioHost where
  manager : ScreenManager
  /-- the audio tasks that have not ended -/
  tasks : List AudioTask
  /-- it holds the registry lock -/
  stopping : Option StoppingAudio
  /-- the sessions whose handshake line has been written -/
  opened : List String
  /-- milliseconds -/
  now : ℕ

inductive AudioAction
  | tick (ms : ℕ)
  /-- the video producer has written the handshake line -/
  | opens (id : String)
  /-- a step of `ScreenManager` other than those below -/
  | registry (action : ScreenAction)
  /-- `stop_audio` up to `audio.stop().await` -/
  | stopAudio (id : String)
  /-- the task has ended, and `stop_audio` returns `Ok` -/
  | stopAudioJoined
  /-- it has not ended within two seconds, and `stop_audio` returns `Ok` -/
  | stopAudioGivesUp
  | audio (task : ℕ) (event : AudioEvent)
  deriving DecidableEq, Repr

namespace AudioHost

def new : AudioHost :=
  { manager := .new, tasks := [], stopping := none, opened := [], now := 0 }

/-- The registry is at `manager` after the action, and its tasks see it. -/
def enter (self : AudioHost) (spawns : Option String) (manager : ScreenManager) : AudioHost :=
  let spawned := match spawns with
    | some id => (manager.audioTasks.drop self.manager.audioTasks.length).map (AudioTask.spawn id)
    | none => []
  { self with manager, tasks := self.tasks.map (AudioTask.follow manager) ++ spawned }

/-- The step is one the registry takes here: `stop_audio` and the ends of the tasks are below, and no
session is created twice. -/
def admits (self : AudioHost) : ScreenAction → Bool
  | .stopAudio _ | .audioEnds _ => false
  | .start id _ _ _ _ _ => decide (id ∉ self.manager.created)
  | _ => true

/-- `stop_audio` up to its wait, if it has to wait. -/
def stopAudio (self : AudioHost) (id : String) : AudioHost :=
  match self.manager.stopAudio id with
  | .ok manager =>
    { self.enter none manager with
      stopping := (self.manager.handle id).map (fun handle => ⟨id, handle.task, self.now⟩) }
  | .error _ => self

/-- A task of the session has the socket. -/
def busy (self : AudioHost) (id : String) : Bool :=
  self.tasks.any (fun other => other.session == id &&
    match other.phase with
    | .writing .. => true
    | _ => false)

/-- The task is at `next`. -/
def put (self : AudioHost) (task : AudioTask) : Option AudioTask → AudioHost
  | some next =>
    { self with tasks := self.tasks.map (fun other => if other.task = task.task then next else other) }
  | none =>
    { self with
      manager := { self.manager with audioTasks := self.manager.audioTasks.erase task.task }
      tasks := self.tasks.filter (fun other => other.task != task.task) }

def step (self : AudioHost) : AudioAction → Option AudioHost
  | .tick ms => some { self with now := self.now + ms }
  | .opens id => some { self with opened := self.opened ++ [id] }
  | .registry action =>
    if self.admits action = true ∧ (self.stopping = none ∨ action.locks = false) then
      (self.manager.step action).map (self.enter action.spawns)
    else none
  | .stopAudio id => if self.stopping = none then some (self.stopAudio id) else none
  | .stopAudioJoined =>
    match self.stopping with
    | some wait =>
      if wait.task ∈ self.tasks.map AudioTask.task then none else some { self with stopping := none }
    | none => none
  | .stopAudioGivesUp =>
    match self.stopping with
    | some wait =>
      if wait.since + audioStopTimeout ≤ self.now then some { self with stopping := none } else none
    | none => none
  | .audio task event =>
    match self.tasks.find? (fun other => other.task == task) with
    | some found =>
      (found.next (decide (found.session ∈ self.opened)) (!self.busy found.session) self.now event).map
        (self.put found)
    | none => none

end AudioHost

end Waypad
