import Mathlib.Data.List.AList
import Waypad.Lib.Trans

/-!
# Waypad.Screen.Sessions — the registry of `ScreenManager` (`src/screen.rs`)

Each action is one critical section of the registry lock, or the end of a task.  `attach_stream_client`
has two sections: the first takes the pending entry out, the second spawns the producers and inserts the
running one.  `stop_stream` has one, and waits for the video task outside the lock.

* `step`: the sections.
* `Gone`: what an acknowledged stop should leave behind for good.
* `stopped_for_good`: it does, unless a stop falls between the two sections of an attach.
-/

namespace Waypad

/-- `AudioStreamOptions`. -/
structure AudioStreamOptions where
  bitrateKbps : ℕ
  frameMs : ℕ
  deriving DecidableEq, Repr

/-- `AudioStreamOptions::new`. -/
def AudioStreamOptions.new (bitrateKbps frameMs : Option ℕ) : AudioStreamOptions :=
  { bitrateKbps := max 32 (min (bitrateKbps.getD 96) 256)
    frameMs := if frameMs.getD 20 ≤ 15 then 10 else 20 }

/-- The part of `Capabilities` that `start_stream` and `start_audio` read. -/
structure AudioCapability where
  supported : Bool
  reason : Option String
  deriving DecidableEq, Repr

/-- The entry between `start_stream` and the client's connection. -/
structure PendingStream where
  token : String
  audio : Bool
  audioOptions : AudioStreamOptions
  deriving DecidableEq, Repr

/-- The handle of an audio task. -/
structure DesktopAudioStream where
  task : ℕ
  options : AudioStreamOptions
  muted : Bool
  deriving DecidableEq, Repr

structure RunningStream where
  task : ℕ
  /-- a request waits in the channel, which has room for one -/
  keyframe : Bool
  audio : Option DesktopAudioStream
  audioOptions : AudioStreamOptions
  deriving DecidableEq, Repr

inductive StreamSession
  | pending (stream : PendingStream)
  | running (stream : RunningStream)
  deriving DecidableEq, Repr

/-- An `attach_stream_client` between its critical sections. -/
structure Attaching where
  session : String
  stream : PendingStream
  deriving DecidableEq, Repr

/-- A `stop_stream` that has sent the stop signal and waits for the video task. -/
structure Stopping where
  session : String
  task : ℕ
  deriving DecidableEq, Repr

structure ScreenManager where
  sessions : AList (fun _ : String => StreamSession)
  attaching : List Attaching
  stopping : List Stopping
  /-- the video tasks that have not ended, with their sessions -/
  videoTasks : List (ℕ × String)
  /-- the audio tasks that have not ended -/
  audioTasks : List ℕ
  nextTask : ℕ
  /-- ghost: the sessions `start_stream` has created -/
  created : List String
  /-- ghost: the created sessions for which `stop_stream` has returned -/
  acknowledged : List String
  /-- ghost: the sessions of the producer tasks spawned so far -/
  spawned : List String
  /-- ghost: the sessions of the entries inserted so far -/
  inserted : List String

inductive ScreenAction
  /-- the section of `start_stream`, with the UUIDs it has drawn -/
  | start (id token : String) (audio : Option Bool) (bitrateKbps frameMs : Option ℕ)
      (capability : AudioCapability)
  /-- the first section of `attach_stream_client`: the entry it finds for the token -/
  | attachTake (token id : String)
  /-- the first section finds no entry: "Unknown or expired screen stream token" -/
  | attachUnknown (token : String)
  /-- the second section -/
  | attachInsert (id : String)
  /-- the section of `stop_stream` -/
  | stop (id : String)
  /-- the video task has ended within two seconds, and `stop_stream` returns -/
  | stopDone (id : String)
  /-- it has not, and is aborted -/
  | stopAbort (id : String)
  /-- the section at the end of the video task -/
  | videoEnds (task : ℕ)
  /-- a video task that is aborted, or panics, ends without it -/
  | videoDropped (task : ℕ)
  | audioEnds (task : ℕ)
  | startAudio (id : String) (capability : AudioCapability) (options : Option AudioStreamOptions)
  | stopAudio (id : String)
  | setAudioMute (id : String) (muted : Bool)
  | requestKeyFrame (id : String)
  /-- the video task takes the request out of the channel -/
  | keyFrameTaken (id : String)
  deriving DecidableEq, Repr

namespace ScreenManager

def new : ScreenManager :=
  { sessions := ∅, attaching := [], stopping := [], videoTasks := [], audioTasks := []
    nextTask := 0, created := [], acknowledged := [], spawned := [], inserted := [] }

/-- `stop_stream` returns `Ok`. -/
def acknowledge (self : ScreenManager) (id : String) : ScreenManager :=
  { self with
    acknowledged := if id ∈ self.created then self.acknowledged ++ [id] else self.acknowledged }

/-- The second section of `attach_stream_client`. -/
def attachInsert (self : ScreenManager) (call : Attaching) : ScreenManager :=
  let audio := if call.stream.audio then
      some { task := self.nextTask + 1, options := call.stream.audioOptions, muted := false }
    else none
  { self with
    attaching := self.attaching.erase call
    sessions := self.sessions.insert call.session (.running
      { task := self.nextTask, keyframe := false, audio, audioOptions := call.stream.audioOptions })
    videoTasks := self.videoTasks ++ [(self.nextTask, call.session)]
    audioTasks := self.audioTasks ++ (if call.stream.audio then [self.nextTask + 1] else [])
    nextTask := self.nextTask + 2
    spawned := self.spawned ++ call.session :: (if call.stream.audio then [call.session] else [])
    inserted := self.inserted ++ [call.session] }

/-- The section of `stop_stream`. -/
def stopStream (self : ScreenManager) (id : String) : ScreenManager :=
  match self.sessions.lookup id with
  | none => self.acknowledge id
  | some (.pending _) => { self with sessions := self.sessions.erase id }.acknowledge id
  | some (.running stream) =>
    { self with
      sessions := self.sessions.erase id, stopping := self.stopping ++ [⟨id, stream.task⟩] }

/-- `start_audio`. -/
def startAudio (self : ScreenManager) (id : String) (capability : AudioCapability)
    (options : Option AudioStreamOptions) : Except String ScreenManager :=
  if !capability.supported then
    .error (capability.reason.getD "Desktop audio capture is unavailable on this host")
  else
    match self.sessions.lookup id with
    | some (.running stream) =>
      match stream.audio.filter (fun audio => decide (audio.task ∈ self.audioTasks)) with
      | some audio =>
        -- the task still runs
        let audio := some { audio with muted := false }
        .ok { self with sessions := self.sessions.replace id (.running { stream with audio }) }
      | none =>
        let audioOptions := options.getD stream.audioOptions
        -- there is none, or it has ended
        let audio := some { task := self.nextTask, options := audioOptions, muted := false }
        .ok { self with
          sessions := self.sessions.replace id (.running { stream with audio, audioOptions })
          audioTasks := self.audioTasks ++ [self.nextTask]
          nextTask := self.nextTask + 1
          spawned := self.spawned ++ [id] }
    | some (.pending stream) =>
      let audioOptions := options.getD stream.audioOptions
      .ok { self with
        sessions := self.sessions.replace id (.pending { stream with audio := true, audioOptions }) }
    | none => .error "Unknown or expired screen stream session"

/-- `stop_audio`; the stop signal is sent, and the task ends by itself. -/
def stopAudio (self : ScreenManager) (id : String) : Except String ScreenManager :=
  match self.sessions.lookup id with
  | some (.running stream) =>
    .ok { self with sessions := self.sessions.replace id (.running { stream with audio := none }) }
  | some (.pending stream) =>
    .ok { self with sessions := self.sessions.replace id (.pending { stream with audio := false }) }
  | none => .error "Unknown or expired screen stream session"

/-- `set_audio_mute`. -/
def setAudioMute (self : ScreenManager) (id : String) (muted : Bool) : Except String ScreenManager :=
  match self.sessions.lookup id with
  | some (.running stream) =>
    match stream.audio with
    | some audio =>
      let audio := some { audio with muted }
      .ok { self with sessions := self.sessions.replace id (.running { stream with audio }) }
    | none => .error "Desktop audio is not running for this session"
  | some (.pending _) => .ok self
  | none => .error "Unknown or expired screen stream session"

/-- `request_key_frame`: a full or closed channel swallows the request. -/
def requestKeyFrame (self : ScreenManager) (id : String) : Except String ScreenManager :=
  match self.sessions.lookup id with
  | some (.running stream) =>
    let open_ := decide ((stream.task, id) ∈ self.videoTasks)
    .ok { self with
      sessions := self.sessions.replace id
        (.running { stream with keyframe := stream.keyframe || open_ }) }
  | some (.pending _) => .ok self
  | none => .error "Unknown or expired screen stream session"

/-- A command that fails leaves the registry as it is. -/
def settle (self : ScreenManager) : Except String ScreenManager → ScreenManager
  | .ok next => next
  | .error _ => self

def step (self : ScreenManager) : ScreenAction → Option ScreenManager
  | .start id token audio bitrateKbps frameMs capability =>
    some { self with
      sessions := self.sessions.insert id (.pending
        { token, audio := audio.getD true && capability.supported
          audioOptions := .new bitrateKbps frameMs })
      created := self.created ++ [id]
      inserted := self.inserted ++ [id] }
  | .attachTake token id =>
    -- the entry is gone until `attachInsert` puts it back as running
    match self.sessions.lookup id with
    | some (.pending stream) =>
      if stream.token = token then
        some { self with
          sessions := self.sessions.erase id, attaching := self.attaching ++ [⟨id, stream⟩] }
      else none
    | _ => none
  | .attachUnknown token =>
    let waits := self.sessions.entries.any (fun entry =>
      match entry.snd with
      | .pending stream => stream.token == token
      | .running _ => false)
    if waits then none else some self
  | .attachInsert id => (self.attaching.find? (fun call => call.session == id)).map self.attachInsert
  | .stop id => some (self.stopStream id)
  | .stopDone id =>
    -- the task has been joined within two seconds
    match self.stopping.find? (fun call => call.session == id) with
    | some call =>
      if call.task ∈ self.videoTasks.map Prod.fst then none
      else some ({ self with stopping := self.stopping.erase call }.acknowledge id)
    | none => none
  | .stopAbort id =>
    -- or not, and is aborted
    match self.stopping.find? (fun call => call.session == id) with
    | some call =>
      some ({ self with stopping := self.stopping.erase call }.acknowledge id)
    | none => none
  | .videoEnds task =>
    match self.videoTasks.find? (fun running => running.1 == task) with
    | some running =>
      some { self with
        sessions := self.sessions.erase running.2, videoTasks := self.videoTasks.erase running }
    | none => none
  | .videoDropped task =>
    -- an aborted task does not take its session out
    some { self with videoTasks := self.videoTasks.filter (fun running => running.1 != task) }
  | .audioEnds task =>
    if task ∈ self.audioTasks then some { self with audioTasks := self.audioTasks.erase task } else none
  | .startAudio id capability options => some (self.settle (self.startAudio id capability options))
  | .stopAudio id => some (self.settle (self.stopAudio id))
  | .setAudioMute id muted => some (self.settle (self.setAudioMute id muted))
  | .requestKeyFrame id => some (self.settle (self.requestKeyFrame id))
  | .keyFrameTaken id =>
    match self.sessions.lookup id with
    | some (.running stream) =>
      if stream.keyframe then
        some { self with
          sessions := self.sessions.replace id (.running { stream with keyframe := false }) }
      else none
    | _ => none

/-! ## Stops -/

/-- No entry for the session, and no attach that could insert one. -/
structure Gone (s : ScreenManager) (id : String) : Prop where
  entry : id ∉ s.sessions
  attach : ∀ call ∈ s.attaching, call.session ≠ id

/-- A stop meets no attach of its session between the two sections, and no session is created again under
the UUID of one whose stop has begun. -/
def Clear (self : ScreenManager) : ScreenAction → Prop
  | .stop id => ∀ call ∈ self.attaching, call.session ≠ id
  | .start id .. => id ∉ self.acknowledged ∧ ∀ call ∈ self.stopping, call.session ≠ id
  | _ => True

/-- Nothing has been spawned or inserted for the session since. -/
def Still (earlier later : ScreenManager) (id : String) : Prop :=
  later.spawned.count id = earlier.spawned.count id ∧
    later.inserted.count id = earlier.inserted.count id

/-- After an acknowledged stop nothing is spawned or inserted for the session. -/
def StopsAreFinal (actions : List ScreenAction) (self : ScreenManager) : Prop :=
  ∀ id before after earlier, actions = before ++ after →
    Trans.run step new before = some earlier → id ∈ earlier.acknowledged → Still earlier self id

/-! ## One step -/

section Step

variable {s t : ScreenManager} {id : String}

/-- What most sections leave alone. -/
structure Quiet (s t : ScreenManager) : Prop where
  sessions : ∀ id, id ∈ t.sessions → id ∈ s.sessions
  attaching : t.attaching = s.attaching
  stopping : t.stopping = s.stopping
  created : t.created = s.created
  acknowledged : t.acknowledged = s.acknowledged
  inserted : t.inserted = s.inserted
  spawned : ∃ ids, t.spawned = s.spawned ++ ids ∧ ∀ id ∈ ids, id ∈ s.sessions

theorem Quiet.refl (s : ScreenManager) : Quiet s s :=
  { sessions := fun _ h => h, attaching := rfl, stopping := rfl, created := rfl, acknowledged := rfl
    inserted := rfl, spawned := ⟨[], by simp, by simp⟩ }

/-- An entry is changed in place. -/
theorem quiet_replace (s : ScreenManager) (id : String) (entry : StreamSession) :
    Quiet s { s with sessions := s.sessions.replace id entry } :=
  { sessions := fun _ h => AList.mem_replace.mp h, attaching := rfl, stopping := rfl, created := rfl
    acknowledged := rfl, inserted := rfl, spawned := ⟨[], by simp, by simp⟩ }

theorem mem_of_lookup {entry : StreamSession} (h : s.sessions.lookup id = some entry) :
    id ∈ s.sessions := by
  rw [← AList.lookup_isSome, h]
  rfl

theorem quiet_startAudio (s : ScreenManager) (id : String) (capability : AudioCapability)
    (options : Option AudioStreamOptions) : Quiet s (s.settle (s.startAudio id capability options)) := by
  unfold startAudio
  split_ifs
  · exact Quiet.refl s
  · split
    · next stream hlookup =>
      split
      · exact quiet_replace s id _
      · have h := quiet_replace s id (.running { stream with
          audio := some ⟨s.nextTask, options.getD stream.audioOptions, false⟩
          audioOptions := options.getD stream.audioOptions })
        exact { h with spawned := ⟨[id], rfl, by simpa using mem_of_lookup hlookup⟩ }
    · exact quiet_replace s id _
    · exact Quiet.refl s

theorem quiet_stopAudio (s : ScreenManager) (id : String) :
    Quiet s (s.settle (s.stopAudio id)) := by
  unfold stopAudio
  split
  · exact quiet_replace s id _
  · exact quiet_replace s id _
  · exact Quiet.refl s

theorem quiet_setAudioMute (s : ScreenManager) (id : String) (muted : Bool) :
    Quiet s (s.settle (s.setAudioMute id muted)) := by
  unfold setAudioMute
  split
  · split
    · exact quiet_replace s id _
    · exact Quiet.refl s
  · exact Quiet.refl s
  · exact Quiet.refl s

theorem quiet_requestKeyFrame (s : ScreenManager) (id : String) :
    Quiet s (s.settle (s.requestKeyFrame id)) := by
  unfold requestKeyFrame
  split
  · exact quiet_replace s id _
  · exact Quiet.refl s
  · exact Quiet.refl s

/-- What a step does. -/
inductive Effect (s : ScreenManager) (a : ScreenAction) (t : ScreenManager) : Prop
  | starts (id token : String) (audio : Option Bool) (bitrateKbps frameMs : Option ℕ)
      (capability : AudioCapability) (stream : PendingStream)
      (action : a = .start id token audio bitrateKbps frameMs capability)
      (next : t = { s with
        sessions := s.sessions.insert id (.pending stream)
        created := s.created ++ [id], inserted := s.inserted ++ [id] })
  | takes (id : String) (stream : PendingStream) (entry : id ∈ s.sessions)
      (next : t = { s with
        sessions := s.sessions.erase id, attaching := s.attaching ++ [⟨id, stream⟩] })
  | inserts (call : Attaching) (waiting : call ∈ s.attaching) (next : t = s.attachInsert call)
  | stops (id : String) (action : a = .stop id) (next : t = s.stopStream id)
  | returns (call : Stopping) (waiting : call ∈ s.stopping)
      (next : t = { s with stopping := s.stopping.erase call }.acknowledge call.session)
  | quiet (same : Quiet s t)

/-- **Every step has one of these effects.** -/
theorem step_effect {a : ScreenAction} (hs : step s a = some t) : Effect s a t := by
  unfold step at hs
  split at hs
  · -- `start`
    cases hs
    exact .starts _ _ _ _ _ _ _ rfl rfl
  · -- `attachTake`
    split at hs
    · next stream hlookup =>
      split_ifs at hs
      cases hs
      exact .takes _ stream (mem_of_lookup hlookup) rfl
    · cases hs
  · -- `attachUnknown`
    dsimp only at hs
    split_ifs at hs
    cases hs
    exact .quiet (Quiet.refl s)
  · -- `attachInsert`
    obtain ⟨call, hfind, rfl⟩ := Option.map_eq_some_iff.mp hs
    exact .inserts call (List.mem_of_find?_eq_some hfind) rfl
  · -- `stop`
    cases hs
    exact .stops _ rfl rfl
  · -- `stopDone`
    split at hs
    · next call hfind =>
      have hid := List.find?_some hfind
      simp only [beq_iff_eq] at hid
      split_ifs at hs
      cases hs
      exact .returns call (List.mem_of_find?_eq_some hfind) (by rw [hid])
    · cases hs
  · -- `stopAbort`
    split at hs
    · next call hfind =>
      have hid := List.find?_some hfind
      simp only [beq_iff_eq] at hid
      cases hs
      exact .returns call (List.mem_of_find?_eq_some hfind) (by rw [hid])
    · cases hs
  · -- `videoEnds`
    split at hs
    · cases hs
      exact .quiet { Quiet.refl s with sessions := fun _ h => (AList.mem_erase.mp h).2 }
    · cases hs
  · -- `videoDropped`
    cases hs
    exact .quiet { Quiet.refl s with }
  · -- `audioEnds`
    split_ifs at hs
    cases hs
    exact .quiet { Quiet.refl s with }
  · cases hs
    exact .quiet (quiet_startAudio s _ _ _)
  · cases hs
    exact .quiet (quiet_stopAudio s _)
  · cases hs
    exact .quiet (quiet_setAudioMute s _ _)
  · cases hs
    exact .quiet (quiet_requestKeyFrame s _)
  · -- `keyFrameTaken`
    split at hs
    · split_ifs at hs
      cases hs
      exact .quiet (quiet_replace s _ _)
    · cases hs

@[simp] theorem acknowledge_sessions (s : ScreenManager) (id : String) :
    (s.acknowledge id).sessions = s.sessions := rfl

@[simp] theorem acknowledge_attaching (s : ScreenManager) (id : String) :
    (s.acknowledge id).attaching = s.attaching := rfl

@[simp] theorem acknowledge_stopping (s : ScreenManager) (id : String) :
    (s.acknowledge id).stopping = s.stopping := rfl

@[simp] theorem acknowledge_created (s : ScreenManager) (id : String) :
    (s.acknowledge id).created = s.created := rfl

@[simp] theorem acknowledge_spawned (s : ScreenManager) (id : String) :
    (s.acknowledge id).spawned = s.spawned := rfl

@[simp] theorem acknowledge_inserted (s : ScreenManager) (id : String) :
    (s.acknowledge id).inserted = s.inserted := rfl

theorem mem_acknowledge {id' : String} :
    id' ∈ (s.acknowledge id).acknowledged ↔ id' ∈ s.acknowledged ∨ id' = id ∧ id ∈ s.created := by
  unfold acknowledge
  by_cases h : id ∈ s.created <;> simp [h]

/-- The section of `stop_stream`: the entry is gone, the attaches stay, nothing is spawned. -/
structure Stopped (s : ScreenManager) (id : String) (t : ScreenManager) : Prop where
  sessions : ∀ id', id' ∈ t.sessions → id' ≠ id ∧ id' ∈ s.sessions
  attaching : t.attaching = s.attaching
  created : t.created = s.created
  spawned : t.spawned = s.spawned
  inserted : t.inserted = s.inserted
  acknowledged : ∀ id' ∈ t.acknowledged, id' ∈ s.acknowledged ∨ id' = id
  kept : ∀ id' ∈ s.acknowledged, id' ∈ t.acknowledged
  stopping : ∀ call ∈ t.stopping, call ∈ s.stopping ∨ call.session = id ∧ id ∈ s.sessions

theorem stopStream_stopped (s : ScreenManager) (id : String) : s.Stopped id (s.stopStream id) := by
  unfold stopStream
  split
  · next hlookup =>
    have habsent : id ∉ s.sessions := AList.lookup_eq_none.mp hlookup
    exact
      { sessions := fun id' h => ⟨fun he => habsent (he ▸ h), h⟩, attaching := rfl, created := rfl
        spawned := rfl, inserted := rfl
        acknowledged := fun id' h => (mem_acknowledge.mp h).imp_right And.left
        kept := fun id' h => mem_acknowledge.mpr (Or.inl h)
        stopping := fun call h => Or.inl h }
  · exact
      { sessions := fun id' h => AList.mem_erase.mp h, attaching := rfl, created := rfl
        spawned := rfl, inserted := rfl
        acknowledged := fun id' h => (mem_acknowledge.mp h).imp_right And.left
        kept := fun id' h => mem_acknowledge.mpr (Or.inl h)
        stopping := fun call h => Or.inl h }
  · next stream hlookup =>
    refine
      { sessions := fun id' h => AList.mem_erase.mp h, attaching := rfl, created := rfl
        spawned := rfl, inserted := rfl, acknowledged := fun _ h => Or.inl h, kept := fun _ h => h
        stopping := fun call h => ?_ }
    rcases List.mem_append.mp h with h | h
    · exact Or.inl h
    · exact Or.inr ⟨by rw [List.mem_singleton.mp h], mem_of_lookup hlookup⟩

/-- **Gone for good**: nothing but its creation brings a session back. -/
theorem Gone.step {a : ScreenAction} (h : s.Gone id) (hs : s.step a = some t)
    (hnew : ∀ token audio bitrateKbps frameMs capability,
      a ≠ .start id token audio bitrateKbps frameMs capability) : t.Gone id ∧ s.Still t id := by
  cases step_effect hs with
  | starts id' token audio bitrateKbps frameMs capability stream action next =>
    -- another session is created
    have hne : id ≠ id' := fun he => hnew token audio bitrateKbps frameMs capability (he ▸ action)
    subst next
    refine ⟨⟨?_, h.attach⟩, rfl, ?_⟩
    · rw [AList.mem_insert]
      intro hmem
      exact hmem.elim hne h.entry
    · simp [List.count_append, hne.symm]
  | takes id' stream entry next =>
    -- only a listed session is taken, and this one is not
    have hne : id' ≠ id := fun he => h.entry (he ▸ entry)
    subst next
    refine ⟨⟨fun hmem => h.entry (AList.mem_erase.mp hmem).2, fun call hcall => ?_⟩, rfl, rfl⟩
    rcases List.mem_append.mp hcall with hcall | hcall
    · exact h.attach call hcall
    · rw [List.mem_singleton.mp hcall]
      exact hne
  | inserts call waiting next =>
    -- the attach that goes on is another session's
    have hne := h.attach call waiting
    subst next
    refine ⟨⟨?_, fun call' hcall => h.attach call' (List.mem_of_mem_erase hcall)⟩, ?_, ?_⟩
    · rw [attachInsert, AList.mem_insert]
      intro hmem
      exact hmem.elim hne.symm h.entry
    · rw [attachInsert]
      cases call.stream.audio <;> simp [List.count_append, hne]
    · simp [attachInsert, List.count_append, hne]
  | stops id' action next =>
    have hstop := stopStream_stopped s id'
    subst next
    refine ⟨⟨fun hmem => h.entry (hstop.sessions id hmem).2, ?_⟩, ?_, ?_⟩
    · rw [hstop.attaching]
      exact h.attach
    · rw [hstop.spawned]
    · rw [hstop.inserted]
  | returns call waiting next =>
    subst next
    exact ⟨⟨h.entry, h.attach⟩, rfl, rfl⟩
  | quiet same =>
    -- what is spawned is spawned for listed sessions
    obtain ⟨ids, hspawned, hids⟩ := same.spawned
    have hnone : id ∉ ids := fun hmem => h.entry (hids id hmem)
    refine ⟨⟨fun hmem => h.entry (same.sessions id hmem), same.attaching ▸ h.attach⟩, ?_, ?_⟩
    · rw [hspawned, List.count_append, List.count_eq_zero.mpr hnone, Nat.add_zero]
    · rw [same.inserted]

/-- Sessions whose stop has begun are gone, and the registry knows its sessions. -/
structure Inv (s : ScreenManager) : Prop where
  acknowledged : ∀ id ∈ s.acknowledged, s.Gone id
  stopping : ∀ call ∈ s.stopping, s.Gone call.session
  attached : ∀ call ∈ s.attaching, call.session ∈ s.created
  stopped : ∀ call ∈ s.stopping, call.session ∈ s.created
  listed : ∀ id, id ∈ s.sessions → id ∈ s.created

/-- A stop that meets no attach leaves nothing behind. -/
theorem gone_of_stop (hok : s.Clear (.stop id)) : (s.stopStream id).Gone id := by
  have hstop := stopStream_stopped s id
  refine ⟨fun hmem => (hstop.sessions id hmem).1 rfl, ?_⟩
  rw [hstop.attaching]
  exact hok

/-- Who is gone before the step is gone after it. -/
theorem Inv.gone_step {a : ScreenAction} (h : s.Inv) (hok : s.Clear a) (hs : s.step a = some t)
    (hid : id ∈ s.acknowledged ∨ ∃ call ∈ s.stopping, call.session = id) :
    t.Gone id ∧ s.Still t id := by
  have hgone : s.Gone id := by
    rcases hid with hid | ⟨call, hcall, rfl⟩
    · exact h.acknowledged id hid
    · exact h.stopping call hcall
  refine hgone.step hs (fun token audio bitrateKbps frameMs capability ha => ?_)
  subst ha
  rcases hid with hid | ⟨call, hcall, hsession⟩
  · exact hok.1 hid
  · exact hok.2 call hcall hsession

theorem Inv.step {a : ScreenAction} (h : s.Inv) (hok : s.Clear a) (hs : s.step a = some t) :
    t.Inv := by
  -- it is enough to say whose stop begins
  have hbegun : (∀ id ∈ t.acknowledged, id ∈ s.acknowledged ∨ (∃ call ∈ s.stopping, call.session = id) ∨
        a = .stop id) ∧
      (∀ call ∈ t.stopping, call ∈ s.stopping ∨ a = .stop call.session) ∧
      (∀ call ∈ t.attaching, call.session ∈ t.created) ∧
      (∀ call ∈ t.stopping, call.session ∈ t.created) ∧ ∀ id, id ∈ t.sessions → id ∈ t.created := by
    cases step_effect hs with
    | starts id token audio bitrateKbps frameMs capability stream action next =>
      subst next
      refine ⟨fun _ h => Or.inl h, fun _ h => Or.inl h, fun call hcall => ?_, fun call hcall => ?_,
        fun id' hmem => ?_⟩
      · exact List.mem_append_left _ (h.attached call hcall)
      · exact List.mem_append_left _ (h.stopped call hcall)
      · rcases (AList.mem_insert _).mp hmem with rfl | hmem
        · simp
        · exact List.mem_append_left _ (h.listed id' hmem)
    | takes id stream entry next =>
      subst next
      refine ⟨fun _ h => Or.inl h, fun _ h => Or.inl h, fun call hcall => ?_, h.stopped,
        fun id' hmem => h.listed id' (AList.mem_erase.mp hmem).2⟩
      rcases List.mem_append.mp hcall with hcall | hcall
      · exact h.attached call hcall
      · rw [List.mem_singleton.mp hcall]
        exact h.listed id entry
    | inserts call waiting next =>
      -- the session comes back to the registry, where it was before
      subst next
      refine ⟨fun _ h => Or.inl h, fun _ h => Or.inl h,
        fun call' hcall => h.attached call' (List.mem_of_mem_erase hcall), h.stopped, fun id' hmem => ?_⟩
      rcases (AList.mem_insert _).mp hmem with rfl | hmem
      · exact h.attached call waiting
      · exact h.listed id' hmem
    | stops id action next =>
      -- a stop finds the session or acknowledges at once
      have hstop := stopStream_stopped s id
      rw [← next] at hstop
      subst action
      rw [hstop.attaching, hstop.created]
      refine ⟨fun id' hmem => ?_, fun call hcall => ?_, h.attached, fun call hcall => ?_,
        fun id' hmem => h.listed id' (hstop.sessions id' hmem).2⟩
      · exact (hstop.acknowledged id' hmem).imp_right (fun he => Or.inr (by rw [he]))
      · exact (hstop.stopping call hcall).imp_right (fun he => by rw [he.1])
      · rcases hstop.stopping call hcall with hcall | ⟨rfl, hmem⟩
        · exact h.stopped call hcall
        · exact h.listed _ hmem
    | returns call waiting next =>
      -- the stop that returns had begun before
      subst next
      refine ⟨fun id' hmem => ?_, fun call' hcall => Or.inl (List.mem_of_mem_erase hcall), h.attached,
        fun call' hcall => h.stopped call' (List.mem_of_mem_erase hcall), h.listed⟩
      rcases mem_acknowledge.mp hmem with hmem | ⟨rfl, -⟩
      · exact Or.inl hmem
      · exact Or.inr (Or.inl ⟨call, waiting, rfl⟩)
    | quiet same =>
      rw [same.acknowledged, same.stopping, same.attaching, same.created]
      exact ⟨fun _ h => Or.inl h, fun _ h => Or.inl h, h.attached, h.stopped,
        fun id hmem => h.listed id (same.sessions id hmem)⟩
  obtain ⟨hacked, hstopping, hattached, hstopped, hlisted⟩ := hbegun
  have hstop : ∀ id, a = .stop id → t.Gone id := by
    rintro id rfl
    cases hs
    exact gone_of_stop hok
  refine
    { acknowledged := ?_, stopping := ?_, attached := hattached, stopped := hstopped, listed := hlisted }
  · -- gone before the step, or by the stop that is the step
    intro id hid
    rcases hacked id hid with hid | hid | ha
    · exact (h.gone_step hok hs (Or.inl hid)).1
    · exact (h.gone_step hok hs (Or.inr hid)).1
    · exact hstop id ha
  · intro call hcall
    rcases hstopping call hcall with hcall | ha
    · exact (h.gone_step hok hs (Or.inr ⟨call, hcall, rfl⟩)).1
    · exact hstop call.session ha

/-- An acknowledgement is not taken back. -/
theorem acknowledged_step {a : ScreenAction} (hs : s.step a = some t) (hid : id ∈ s.acknowledged) :
    id ∈ t.acknowledged := by
  cases step_effect hs with
  | starts _ _ _ _ _ _ _ _ next => exact next ▸ hid
  | takes _ _ _ next => exact next ▸ hid
  | inserts _ _ next => exact next ▸ hid
  | stops id' _ next => exact next ▸ (stopStream_stopped s id').kept id hid
  | returns _ _ next => exact next ▸ mem_acknowledge.mpr (Or.inl hid)
  | quiet same => exact same.acknowledged ▸ hid

end Step

/-! ## Runs -/

section Runs

variable {s t : ScreenManager} {actions : List ScreenAction}

theorem new_inv : new.Inv :=
  { acknowledged := by simp [new], stopping := by simp [new], attached := by simp [new]
    stopped := by simp [new], listed := fun id h => absurd h (AList.notMem_empty id) }

theorem run_inv (hr : Trans.Runs step Clear new actions s) : s.Inv :=
  hr.inv (fun _ _ _ h hok hs => h.step hok hs) new_inv

theorem run_still (hr : Trans.Runs step Clear new actions s) :
    ∀ id before after earlier, actions = before ++ after →
      Trans.run step new before = some earlier → id ∈ earlier.acknowledged →
      id ∈ s.acknowledged ∧ Still earlier s id := by
  induction hr with
  | nil =>
    intro id before after earlier hsplit hrun hid
    obtain ⟨rfl, rfl⟩ := List.append_eq_nil_iff.mp hsplit.symm
    obtain rfl : new = earlier := Option.some.inj hrun
    exact ⟨hid, rfl, rfl⟩
  | @snoc s t actions a hr hok hs ih =>
    intro id before after earlier hsplit hrun hid
    rcases List.eq_nil_or_concat' after with rfl | ⟨after, b, rfl⟩
    · -- the stop has just returned
      rw [List.append_nil] at hsplit
      have hend := (hr.snoc hok hs).run_eq
      rw [hsplit] at hend
      obtain rfl : t = earlier := Option.some.inj (hend.symm.trans hrun)
      exact ⟨hid, rfl, rfl⟩
    · -- it had returned before the last step
      rw [← List.append_assoc] at hsplit
      obtain ⟨rfl, -⟩ := List.append_inj' hsplit rfl
      obtain ⟨hacked, hspawned, hinserted⟩ := ih id before after earlier rfl hrun hid
      obtain ⟨-, hspawned', hinserted'⟩ := (run_inv hr).gone_step hok hs (Or.inl hacked)
      exact ⟨acknowledged_step hs hacked, hspawned'.trans hspawned, hinserted'.trans hinserted⟩

/-- An attach between its sections ends with one more entry. -/
theorem attach_ends (id : String) (h : ∃ call ∈ s.attaching, call.session = id) :
    ∃ t, s.step (.attachInsert id) = some t ∧ t.inserted.count id = s.inserted.count id + 1 := by
  obtain ⟨call, hcall, hid⟩ := h
  have hsome : (s.attaching.find? (fun call => call.session == id)).isSome = true :=
    List.find?_isSome.mpr ⟨call, hcall, by simpa using hid⟩
  obtain ⟨first, hfirst⟩ := Option.isSome_iff_exists.mp hsome
  have hsession : first.session = id := by simpa using List.find?_some hfirst
  refine ⟨s.attachInsert first, ?_, ?_⟩
  · rw [step, hfirst]
    rfl
  · simp [attachInsert, hsession]

/-- A waiting stop can give up waiting. -/
theorem stop_ends {id : String} (h : ∃ call ∈ s.stopping, call.session = id) (hid : id ∈ s.created) :
    ∃ t, s.step (.stopAbort id) = some t ∧ id ∈ t.acknowledged ∧ t.attaching = s.attaching ∧
      t.sessions = s.sessions := by
  obtain ⟨call, hcall, hsession⟩ := h
  have hsome : (s.stopping.find? (fun call => call.session == id)).isSome = true :=
    List.find?_isSome.mpr ⟨call, hcall, by simpa using hsession⟩
  obtain ⟨first, hfirst⟩ := Option.isSome_iff_exists.mp hsome
  refine ⟨{ s with stopping := s.stopping.erase first }.acknowledge id, ?_,
    mem_acknowledge.mpr (Or.inr ⟨rfl, hid⟩), rfl, rfl⟩
  rw [step, hfirst]

/-- An entry inserted after the stop has returned. -/
theorem not_final {u v : ScreenManager} {id : String} {before : List ScreenAction}
    (after : List ScreenAction) (hu : Trans.run step new before = some u) (hid : id ∈ u.acknowledged)
    (hcount : v.inserted.count id ≠ u.inserted.count id) : ¬ StopsAreFinal (before ++ after) v :=
  fun h => hcount (h id before after u rfl hu hid).2

/-- A stop returns, at once or after it has waited for a task. -/
theorem stop_returns {id : String} (hid : id ∈ s.created) :
    ∃ wait u, Trans.run step (s.stopStream id) wait = some u ∧ id ∈ u.acknowledged ∧
      u.attaching = s.attaching := by
  unfold stopStream
  split
  · exact ⟨[], _, rfl, mem_acknowledge.mpr (Or.inr ⟨rfl, hid⟩), rfl⟩
  · exact ⟨[], _, rfl, mem_acknowledge.mpr (Or.inr ⟨rfl, hid⟩), rfl⟩
  · next stream _ =>
    have hwaits : ∃ call ∈ s.stopping ++ [⟨id, stream.task⟩], call.session = id :=
      ⟨_, List.mem_append_right _ (List.mem_singleton_self _), rfl⟩
    obtain ⟨u, hu, hacked, hsame, -⟩ := stop_ends (s := { s with
      sessions := s.sessions.erase id
      stopping := s.stopping ++ [⟨id, stream.task⟩] }) hwaits hid
    exact ⟨[.stopAbort id], u, by simp [Trans.run, hu], hacked, hsame⟩

/-- A stop overtaken by an attach that stands between its sections. -/
theorem overtaken_stop {id : String} (hrun : Trans.run step new actions = some s)
    (hattach : ∃ call ∈ s.attaching, call.session = id) (hid : id ∈ s.created) :
    ∃ after v, Trans.run step (s.stopStream id) after = some v ∧
      ¬ StopsAreFinal (actions ++ .stop id :: after) v := by
  obtain ⟨wait, u, hwait, hacked, hsame⟩ := stop_returns hid
  have hattaching : ∃ call ∈ u.attaching, call.session = id := by
    rw [hsame]
    exact hattach
  obtain ⟨v, hv, hcount⟩ := attach_ends id hattaching
  have hu : Trans.run step new (actions ++ .stop id :: wait) = some u := by
    rw [Trans.run_append, hrun]
    exact hwait
  have hcount' : v.inserted.count id ≠ u.inserted.count id := by omega
  refine ⟨wait ++ [.attachInsert id], v, ?_, ?_⟩
  · rw [Trans.run_append, hwait]
    simp [Trans.run, hv]
  · have h := not_final [.attachInsert id] hu hacked hcount'
    rwa [List.append_assoc, List.cons_append] at h

/-- The stop of the first session of a name returns, and a client attaches to the second. -/
theorem overtaken_start {id : String} {stream : PendingStream} {a : ScreenAction}
    (hrun : Trans.run step new (actions ++ [a]) = some t)
    (hwaits : ∃ call ∈ t.stopping, call.session = id) (hid : id ∈ t.created)
    (hlookup : t.sessions.lookup id = some (.pending stream)) :
    ∃ after v, Trans.run step t after = some v ∧ ¬ StopsAreFinal (actions ++ a :: after) v := by
  -- the stop returns, and the client attaches
  obtain ⟨u, hu, hacked, -, hsessions⟩ := stop_ends hwaits hid
  have htake : u.step (.attachTake stream.token id) = some { u with
      sessions := u.sessions.erase id, attaching := u.attaching ++ [⟨id, stream⟩] } := by
    rw [← hsessions] at hlookup
    simp only [step, hlookup, if_true]
  obtain ⟨v, hv, hcount⟩ := attach_ends id (s := { u with
    sessions := u.sessions.erase id, attaching := u.attaching ++ [⟨id, stream⟩] })
    ⟨_, List.mem_append_right _ (List.mem_singleton_self _), rfl⟩
  have hrun' : Trans.run step new (actions ++ [a] ++ [.stopAbort id]) = some u := by
    rw [Trans.run_append, hrun]
    simp [Trans.run, hu]
  have hcount' : v.inserted.count id ≠ u.inserted.count id := by
    rw [hcount]
    exact Nat.succ_ne_self _
  refine ⟨[.stopAbort id, .attachTake stream.token id, .attachInsert id], v, ?_, ?_⟩
  · simp [Trans.run, hu, htake, hv]
  · have h := not_final [.attachTake stream.token id, .attachInsert id] hrun' hacked hcount'
    simpa using h

/-- **Elsewhere a stop can be overtaken.** -/
theorem overtaken (hr : Trans.Runs step Clear new actions s) {a : ScreenAction} (hno : ¬ s.Clear a)
    (hs : s.step a = some t) :
    ∃ after v, Trans.run step t after = some v ∧ ¬ StopsAreFinal (actions ++ a :: after) v := by
  have hinv := run_inv hr
  have hrun : Trans.run step new (actions ++ [a]) = some t := by
    rw [Trans.run_append, hr.run_eq]
    simp [Trans.run, hs]
  cases a with
  | stop id =>
    have hattach : ∃ call ∈ s.attaching, call.session = id := by
      simpa [Clear] using hno
    have hid : id ∈ s.created := by
      obtain ⟨call, hcall, hid⟩ := hattach
      exact hid ▸ hinv.attached call hcall
    obtain rfl : s.stopStream id = t := Option.some.inj hs
    exact overtaken_stop hr.run_eq hattach hid
  | start id token audio bitrateKbps frameMs capability =>
    have hentry : ∃ stream : PendingStream, t = { s with
        sessions := s.sessions.insert id (.pending stream)
        created := s.created ++ [id], inserted := s.inserted ++ [id] } := by
      cases hs
      exact ⟨_, rfl⟩
    obtain ⟨stream, ht⟩ := hentry
    -- the session of a stop that has returned, or of one that still waits
    by_cases hacked : id ∈ s.acknowledged
    · have hcount : t.inserted.count id ≠ s.inserted.count id := by simp [ht]
      exact ⟨[], t, rfl, not_final [_] hr.run_eq hacked hcount⟩
    · have hwaits : ∃ call ∈ t.stopping, call.session = id := by
        have h : ¬ ∀ call ∈ s.stopping, call.session ≠ id := fun h => hno ⟨hacked, h⟩
        rw [ht]
        simpa using h
      have hlookup : t.sessions.lookup id = some (.pending stream) := by
        rw [ht]
        exact AList.lookup_insert _
      exact overtaken_start hrun hwaits (by simp [ht]) hlookup
  | _ => exact absurd trivial hno

/-- **Both halves**: in a run whose stops meet no attach between its sections, nothing is spawned or
inserted after an acknowledged stop; the first step against that can be followed by a run that does. -/
theorem stopped_for_good (hr : Trans.Runs step Clear new actions s) :
    StopsAreFinal actions s ∧ ∀ a t, s.step a = some t → ¬ s.Clear a →
      ∃ after v, Trans.run step t after = some v ∧ ¬ StopsAreFinal (actions ++ a :: after) v :=
  ⟨fun id before after earlier hsplit hrun hid => (run_still hr id before after earlier hsplit hrun hid).2,
    fun _ _ hs hno => overtaken hr hno hs⟩

end Runs

/-- A client attaches, the stream is stopped, and the stop waits for the video task. -/
def demoStop : List ScreenAction :=
  [.start "session" "token" none none (some 10) ⟨true, none⟩, .attachTake "token" "session",
    .attachInsert "session", .requestKeyFrame "session", .stop "session", .videoEnds 0,
    .stopDone "session"]

theorem demo_stopped : ∃ s, Trans.run step new demoStop = some s ∧ s.acknowledged = ["session"] ∧
    StopsAreFinal demoStop s ∧ ∀ a t, s.step a = some t → ¬ s.Clear a →
      ∃ after v, Trans.run step t after = some v ∧ ¬ StopsAreFinal (demoStop ++ a :: after) v := by
  refine ⟨_, rfl, rfl, stopped_for_good (Trans.runs_of_run demoStop rfl ?_)⟩
  refine ⟨⟨by simp [new], by simp [new]⟩, trivial, trivial, trivial, ?_, trivial, trivial, trivial⟩
  intro call hcall
  exact absurd hcall List.not_mem_nil

/-- The stop falls between the two sections of the attach. -/
def demoRace : List ScreenAction :=
  [.start "session" "token" none none none ⟨true, none⟩, .attachTake "token" "session",
    .stop "session", .attachInsert "session"]

theorem stop_overtaken : ∃ s, Trans.run step new demoRace = some s ∧
    s.spawned = ["session", "session"] ∧ "session" ∈ s.sessions ∧ ¬ StopsAreFinal demoRace s := by
  refine ⟨_, rfl, rfl, by decide, ?_⟩
  intro h
  obtain ⟨hspawned, -⟩ := h "session" (demoRace.take 3) (demoRace.drop 3) _ rfl rfl (by decide)
  revert hspawned
  decide

end ScreenManager

end Waypad
