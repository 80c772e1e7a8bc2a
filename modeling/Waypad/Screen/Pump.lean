import Mathlib.Data.List.Forall2
import Waypad.Lib.Trans
import Waypad.Screen.AnnexB
import Waypad.Screen.Envelope

/-!
# Waypad.Screen.Pump — `run_portal_stream` and `pump_h264_stream` (`src/screen.rs`)

The loop that forwards the access units of one encoder pipeline, inside the loop that starts the
pipelines.  What the encoder, the socket and the clients do is the sequence of events.

* `VideoProducer`: the counters and what has been written; it outlives the pipelines.
* `Pump`: the reader and the flags of one pipeline.
* `portal_wire`: the envelopes that a run has written.
-/

namespace Waypad

/-- Whether the socket takes the producer's `i`th write, and the time it is made. -/
structure StreamEnv where
  accepts : ℕ → Bool
  nowMillis : ℕ → ℕ

/-- `StreamCounters`. -/
structure StreamCounters where
  seq : ℕ
  frames : ℕ
  deriving DecidableEq, Repr

structure VideoProducer where
  counters : StreamCounters
  /-- the handshake line, once it has been written -/
  magic : Option StreamMagic
  /-- the envelopes written, in order -/
  frames : List VideoFrame
  /-- writes tried so far -/
  writes : ℕ
  deriving DecidableEq, Repr

namespace VideoProducer

/-- `StreamCounters::default()`. -/
def new : VideoProducer := { counters := ⟨0, 0⟩, magic := none, frames := [], writes := 0 }

/-- The bytes written. -/
def wire (self : VideoProducer) : List UInt8 :=
  (self.magic.map StreamMagic.line).getD [] ++ self.frames.flatMap (fun f => f.envelope.bytes)

/-- One write: `?` ends the pump when the socket does not take it. -/
def write (env : StreamEnv) (self next : VideoProducer) : Except VideoProducer VideoProducer :=
  if env.accepts self.writes then .ok { next with writes := self.writes + 1 }
  else .error { self with writes := self.writes + 1 }

/-- `send_magic`. -/
def sendMagic (env : StreamEnv) (self : VideoProducer) (magic : StreamMagic) :
    Except VideoProducer VideoProducer :=
  if self.magic.isSome then .ok self else self.write env { self with magic := some magic }

/-- `send_h264_frame(socket, counters.seq, ..)`. -/
def sendH264Frame (env : StreamEnv) (geometry : FrameGeometry) (self : VideoProducer)
    (payload : List UInt8) (keyFrame config : Bool) : Except VideoProducer VideoProducer :=
  self.write env
    { self with frames := self.frames ++
        [{ seq := self.counters.seq, timestampMs := env.nowMillis self.writes, geometry, payload,
           keyFrame, config }] }

/-- `counters.seq += 1; counters.frames += 1`. -/
def count (self : VideoProducer) : VideoProducer :=
  { self with counters := ⟨self.counters.seq + 1, self.counters.frames + 1⟩ }

/-- What `pump_h264_stream` does with a unit it forwards. -/
def forwardUnit (env : StreamEnv) (geometry : FrameGeometry) (self : VideoProducer)
    (unit : AccessUnit) : Except VideoProducer VideoProducer := do
  let self ← self.sendMagic env .v2
  let self ← match unit.parameterSets with
    | some sets => (self.sendH264Frame env geometry sets false true).map count
    | none => .ok self
  let self ← self.sendH264Frame env geometry unit.data unit.keyFrame false
  .ok self.count

/-- The loop over the units of one read; the flag is `waiting_for_keyframe`. -/
def forwardUnits (env : StreamEnv) (geometry : FrameGeometry) : Bool → VideoProducer →
    List AccessUnit → Except VideoProducer (Bool × VideoProducer)
  | waiting, self, [] => .ok (waiting, self)
  | waiting, self, unit :: rest =>
    if waiting && !unit.keyFrame then forwardUnits env geometry waiting self rest
    else do
      let self ← self.forwardUnit env geometry unit
      forwardUnits env geometry false self rest

end VideoProducer

/-! ## Pipelines -/

/-- The locals of `pump_h264_stream`. -/
structure Pump where
  reader : AnnexBStreamReader
  waitingForKeyframe : Bool
  keyframeChannelOpen : Bool
  /-- ghost: the units the reader has returned -/
  returned : List AccessUnit
  deriving DecidableEq, Repr

def Pump.new : Pump :=
  { reader := .new, waitingForKeyframe := true, keyframeChannelOpen := true, returned := [] }

inductive PortalPhase
  | spawning
  | pumping (pump : Pump)
  | ended (ok : Bool)
  deriving DecidableEq, Repr

structure PortalStream where
  producer : VideoProducer
  phase : PortalPhase
  /-- ghost: the units the readers of the pipelines before this one have returned -/
  earlier : List (List AccessUnit)
  deriving DecidableEq, Repr

inductive PortalEvent
  /-- `spawn_gstreamer_pipewire` returns -/
  | spawned (ok : Bool)
  /-- `stop_rx` -/
  | stop
  /-- `stdout.read` returns an error or some bytes, none at the end of the pipe -/
  | read (data : Option (List UInt8))
  /-- `keyframe_rx` yields a request, so long after the pipeline has started -/
  | request (elapsedMs : ℕ)
  /-- `keyframe_rx` yields `None` -/
  | closed
  /-- no byte for `flush_idle` -/
  | idle
  deriving DecidableEq, Repr

/-- `KEYFRAME_RESTART_MIN_INTERVAL`. -/
def keyframeRestartMinInterval : ℕ := 1000

namespace PortalStream

def start : PortalStream := { producer := .new, phase := .spawning, earlier := [] }

/-- The units the reader of each pipeline has returned. -/
def pipelines (self : PortalStream) : List (List AccessUnit) :=
  match self.phase with
  | .pumping pump => self.earlier ++ [pump.returned]
  | _ => self.earlier

/-- After the loop: a stream without frames is an error. -/
def finish (self : PortalStream) (pump : Pump) : PortalStream :=
  { self with
    phase := .ended (self.producer.counters.frames != 0), earlier := self.earlier ++ [pump.returned] }

/-- The end of an iteration of `pump_h264_stream`: the units of the reader are forwarded. -/
def forward (env : StreamEnv) (geometry : FrameGeometry) (self : PortalStream) (pump : Pump)
    (units : List AccessUnit) (reader : AnnexBStreamReader) : PortalStream :=
  let returned := pump.returned ++ units
  match self.producer.forwardUnits env geometry pump.waitingForKeyframe units with
  | .ok (waiting, producer) =>
    { self with
      producer, phase := .pumping { pump with reader, waitingForKeyframe := waiting, returned } }
  | .error producer =>
    { producer, phase := .ended false, earlier := self.earlier ++ [returned] }

/-- One iteration of the loops. -/
def step (env : StreamEnv) (geometry : FrameGeometry) (self : PortalStream) (event : PortalEvent) :
    Option PortalStream :=
  match self.phase, event with
  | .spawning, .spawned ok => some { self with phase := if ok then .pumping .new else .ended false }
  | .pumping pump, .stop => some (self.finish pump)
  | .pumping pump, .read none =>
    some { self with phase := .ended false, earlier := self.earlier ++ [pump.returned] }
  | .pumping pump, .read (some chunk) =>
    -- the end of the pipeline
    if chunk = [] then some (self.finish pump)
    else if chunk.length ≤ 64 * 1024 then
      (pump.reader.push chunk).map (fun r => self.forward env geometry pump r.1 r.2)
    else none
  | .pumping pump, .request elapsedMs =>
    if !pump.keyframeChannelOpen then none
    else if keyframeRestartMinInterval ≤ elapsedMs then
      some { self with phase := .spawning, earlier := self.earlier ++ [pump.returned] }
    else some self
  | .pumping pump, .closed =>
    if !pump.keyframeChannelOpen then none
    else some { self with phase := .pumping { pump with keyframeChannelOpen := false } }
  | .pumping pump, .idle =>
    if pump.reader.hasPendingPicture then
      pump.reader.flushPending.map (fun r => self.forward env geometry pump r.1.toList r.2)
    else none
  | _, _ => none

end PortalStream

/-! ## What is on the wire -/

/-- What a pipeline's units come to: from the first key frame on. -/
def forwarded (units : List AccessUnit) : List AccessUnit := units.dropWhile (fun unit => !unit.keyFrame)

/-- What an envelope carries besides its number. -/
structure Picked where
  payload : List UInt8
  keyFrame : Bool
  config : Bool
  deriving DecidableEq, Repr

def VideoFrame.picked (self : VideoFrame) : Picked := ⟨self.payload, self.keyFrame, self.config⟩

/-- The envelopes of a unit: its parameter sets, then the unit itself. -/
def AccessUnit.envelopes (unit : AccessUnit) : List Picked :=
  (unit.parameterSets.map (fun sets => ⟨sets, false, true⟩)).toList ++
    [⟨unit.data, unit.keyFrame, false⟩]

namespace VideoProducer

/-- The handshake line stands first, and every envelope has its own number. -/
structure Numbered (producer : VideoProducer) : Prop where
  magic : producer.frames ≠ [] → producer.magic = some .v2
  opened : producer.magic = none ∨ producer.magic = some .v2
  seq : producer.counters.seq = producer.frames.length
  frames : producer.counters.frames = producer.frames.length
  seqs : producer.frames.map VideoFrame.seq = List.range producer.frames.length

def picked (self : VideoProducer) : List Picked := self.frames.map VideoFrame.picked

theorem new_numbered : new.Numbered :=
  { magic := fun h => absurd rfl h, opened := Or.inl rfl, seq := rfl, frames := rfl, seqs := rfl }

section Forward

variable {env : StreamEnv} (geometry : FrameGeometry) {self : VideoProducer}

theorem write_ok (hok : ∀ i, env.accepts i = true) (next : VideoProducer) :
    self.write env next = .ok { next with writes := self.writes + 1 } := by
  rw [write, if_pos (hok _)]

theorem sendMagic_ok (hok : ∀ i, env.accepts i = true) (hn : self.Numbered) :
    ∃ next, self.sendMagic env .v2 = .ok next ∧ next.Numbered ∧ next.magic = some .v2 ∧
      next.picked = self.picked := by
  unfold sendMagic
  rcases hn.opened with hm | hm
  · rw [hm, write_ok hok]
    exact ⟨_, rfl, { hn with magic := fun _ => rfl, opened := Or.inr rfl }, rfl, rfl⟩
  · rw [hm]
    exact ⟨self, rfl, hn, hm, rfl⟩

/-- An envelope is written and counted. -/
theorem sendH264Frame_ok (hok : ∀ i, env.accepts i = true) (hn : self.Numbered)
    (hm : self.magic = some .v2) (payload : List UInt8) (keyFrame config : Bool) :
    ∃ next, self.sendH264Frame env geometry payload keyFrame config = .ok next ∧
      next.count.Numbered ∧ next.count.magic = some .v2 ∧
      next.count.picked = self.picked ++ [⟨payload, keyFrame, config⟩] := by
  rw [sendH264Frame, write_ok hok]
  refine ⟨_, rfl, ?_, hm, ?_⟩
  · have hseq := hn.seq
    have hframes := hn.frames
    refine { magic := fun _ => hm, opened := Or.inr hm, seq := ?_, frames := ?_, seqs := ?_ }
    · simp [count, hseq]
    · simp [count, hframes]
    · rw [count, List.map_append, hn.seqs, List.length_append, List.length_singleton,
        List.range_succ, List.map_singleton, hseq]
  · rw [picked, count, List.map_append]
    rfl

/-- **One unit**: its parameter sets, then the unit. -/
theorem forwardUnit_ok (hok : ∀ i, env.accepts i = true) (hn : self.Numbered) (unit : AccessUnit) :
    ∃ next, self.forwardUnit env geometry unit = .ok next ∧ next.Numbered ∧
      next.picked = self.picked ++ unit.envelopes := by
  obtain ⟨opened, hmagic, hn1, hm1, hp1⟩ := sendMagic_ok hok hn
  unfold forwardUnit AccessUnit.envelopes
  rw [hmagic]
  cases unit.parameterSets with
  | none =>
    obtain ⟨last, hlast, hn2, -, hp2⟩ :=
      sendH264Frame_ok geometry hok hn1 hm1 unit.data unit.keyFrame false
    refine ⟨last.count, ?_, hn2, ?_⟩
    · simp only [bind, Except.bind, hlast]
    · rw [hp2, hp1]
      rfl
  | some sets =>
    obtain ⟨first, hfirst, hn2, hm2, hp2⟩ :=
      sendH264Frame_ok geometry hok hn1 hm1 sets false true
    obtain ⟨last, hlast, hn3, -, hp3⟩ :=
      sendH264Frame_ok geometry hok hn2 hm2 unit.data unit.keyFrame false
    refine ⟨last.count, ?_, hn3, ?_⟩
    · simp only [bind, Except.bind, Except.map, hfirst, hlast]
    · rw [hp3, hp2, hp1, List.append_assoc]
      rfl

/-- **The units of one read**: before the first key frame they are skipped, from it on none is. -/
theorem forwardUnits_ok (hok : ∀ i, env.accepts i = true) (hn : self.Numbered) (waiting : Bool)
    (units : List AccessUnit) :
    ∃ next, self.forwardUnits env geometry waiting units =
        .ok (waiting && units.all (fun unit => !unit.keyFrame), next) ∧ next.Numbered ∧
      next.picked = self.picked ++
        (if waiting then forwarded units else units).flatMap AccessUnit.envelopes := by
  induction units generalizing self waiting with
  | nil =>
    refine ⟨self, ?_, hn, ?_⟩
    · simp [forwardUnits]
    · cases waiting <;> simp [forwarded]
  | cons unit units ih =>
    rw [forwardUnits]
    by_cases hskip : waiting && !unit.keyFrame
    · -- still waiting
      obtain ⟨next, hnext, hn', hp⟩ := ih hn waiting
      obtain ⟨rfl, hkey⟩ : waiting = true ∧ unit.keyFrame = false := by simpa using hskip
      refine ⟨next, ?_, hn', ?_⟩
      · rw [if_pos hskip, hnext]
        simp [hkey]
      · rw [hp]
        simp [forwarded, hkey]
    · -- a key frame, or nothing to wait for
      obtain ⟨mid, hmid, hn1, hp1⟩ := forwardUnit_ok geometry hok hn unit
      obtain ⟨next, hnext, hn2, hp2⟩ := ih hn1 false
      have hall : (waiting && (unit :: units).all (fun unit => !unit.keyFrame)) = false := by
        cases waiting <;> simp_all
      have hrest : (if waiting then forwarded (unit :: units) else unit :: units) = unit :: units := by
        cases waiting <;> simp_all [forwarded]
      refine ⟨next, ?_, hn2, ?_⟩
      · rw [if_neg hskip, hmid, hall]
        exact hnext
      · rw [hrest, hp2, hp1, List.flatMap_cons, List.append_assoc]
        rfl

end Forward

end VideoProducer

namespace PortalStream

/-! ## What the readers are asked

The calls each pipeline's reader gets are read off the events. -/

/-- The reader call an event makes. -/
def call : PortalEvent → Option AnnexBStreamReader.ReaderOp
  | .read (some chunk) => if chunk = [] then none else some (.push chunk)
  | .idle => some .flush
  | _ => none

/-- The reader calls of the pipelines, after one more event. -/
def observe (calls : List (List AnnexBStreamReader.ReaderOp)) (event : PortalEvent) :
    List (List AnnexBStreamReader.ReaderOp) :=
  match call event with
  | some op => calls.dropLast ++ [calls.getLastD [] ++ [op]]
  | none => if event = .spawned true then calls ++ [[]] else calls

/-- The reader calls of each pipeline of a run. -/
def readerCalls (events : List PortalEvent) : List (List AnnexBStreamReader.ReaderOp) :=
  events.foldl observe []

/-- A fresh reader answers the calls with these units. -/
def Returns (calls : List AnnexBStreamReader.ReaderOp) (units : List AccessUnit) : Prop :=
  ∃ reader, AnnexBStreamReader.runOps .new calls = some (units, reader)

/-! ## One iteration -/

section Step

variable {env : StreamEnv} {geometry : FrameGeometry} {portal next : PortalStream} {pump : Pump}
  {event : PortalEvent}

/-- A pipeline starts, or fails to. -/
def Spawns (portal : PortalStream) (event : PortalEvent) (next : PortalStream) : Prop :=
  ∃ ok, event = .spawned ok ∧ portal.phase = .spawning ∧
    next = { portal with phase := if ok then .pumping .new else .ended false }

/-- The pipeline ends. -/
def Ends (portal : PortalStream) (pump : Pump) (event : PortalEvent) (next : PortalStream) : Prop :=
  event ≠ .spawned true ∧ call event = none ∧ ∃ phase, (∀ pump', phase ≠ .pumping pump') ∧
    next = { portal with phase, earlier := portal.earlier ++ [pump.returned] }

/-- Nothing is read. -/
def Stays (portal : PortalStream) (pump : Pump) (event : PortalEvent) (next : PortalStream) : Prop :=
  event ≠ .spawned true ∧ call event = none ∧ ∃ channel,
    next = { portal with phase := .pumping { pump with keyframeChannelOpen := channel } }

/-- The reader is called, and its answer is forwarded. -/
def Forwards (env : StreamEnv) (geometry : FrameGeometry) (portal : PortalStream) (pump : Pump)
    (event : PortalEvent) (next : PortalStream) : Prop :=
  ∃ op units reader, call event = some op ∧
    AnnexBStreamReader.runOps pump.reader [op] = some (units, reader) ∧
    next = portal.forward env geometry pump units reader

theorem step_cases (hs : step env geometry portal event = some next) :
    Spawns portal event next ∨ ∃ pump, portal.phase = .pumping pump ∧
      (Ends portal pump event next ∨ Stays portal pump event next ∨
        Forwards env geometry portal pump event next) := by
  unfold step at hs
  split at hs
  · next ok hphase => exact Or.inl ⟨ok, rfl, hphase, (Option.some.inj hs).symm⟩
  · next pump hphase =>
    refine Or.inr ⟨pump, hphase, Or.inl ⟨by simp, rfl, _, ?_, (Option.some.inj hs).symm⟩⟩
    exact fun _ h => by cases h
  · next pump hphase =>
    refine Or.inr ⟨pump, hphase, Or.inl ⟨by simp, rfl, _, ?_, (Option.some.inj hs).symm⟩⟩
    exact fun _ h => by cases h
  · -- an empty read is the end of the pipeline
    next pump chunk hphase =>
    split_ifs at hs with hempty hlen
    · refine Or.inr ⟨pump, hphase, Or.inl ⟨by simp, if_pos hempty, _, ?_, (Option.some.inj hs).symm⟩⟩
      exact fun _ h => by cases h
    · obtain ⟨r, hr, rfl⟩ := Option.map_eq_some_iff.mp hs
      refine Or.inr ⟨pump, hphase, Or.inr (Or.inr ⟨_, r.1, r.2, if_neg hempty, ?_, rfl⟩)⟩
      simp [AnnexBStreamReader.runOps, hr]
  · next pump elapsedMs hphase =>
    split_ifs at hs <;> cases hs
    · refine Or.inr ⟨pump, hphase, Or.inl ⟨by simp, rfl, _, ?_, rfl⟩⟩
      exact fun _ h => by cases h
    · exact Or.inr ⟨pump, hphase, Or.inr (Or.inl ⟨by simp, rfl, _, by rw [← hphase]⟩)⟩
  · next pump hphase =>
    split_ifs at hs
    exact Or.inr ⟨pump, hphase, Or.inr (Or.inl ⟨by simp, rfl, _, (Option.some.inj hs).symm⟩)⟩
  · next pump hphase =>
    split_ifs at hs
    obtain ⟨r, hr, rfl⟩ := Option.map_eq_some_iff.mp hs
    refine Or.inr ⟨pump, hphase, Or.inr (Or.inr ⟨.flush, r.1.toList, r.2, rfl, ?_, rfl⟩)⟩
    simp [AnnexBStreamReader.runOps, hr]
  · cases hs

/-- Between two iterations, after the reader calls `calls`. -/
structure Relayed (calls : List (List AnnexBStreamReader.ReaderOp)) (portal : PortalStream) : Prop where
  numbered : portal.producer.Numbered
  picked : portal.producer.picked =
    portal.pipelines.flatMap (fun units => (forwarded units).flatMap AccessUnit.envelopes)
  returns : List.Forall₂ Returns calls portal.pipelines
  waiting : ∀ pump, portal.phase = .pumping pump →
    pump.waitingForKeyframe = pump.returned.all (fun unit => !unit.keyFrame)
  current : ∀ pump, portal.phase = .pumping pump →
    ∃ before last, calls = before ++ [last] ∧ List.Forall₂ Returns before portal.earlier ∧
      AnnexBStreamReader.runOps .new last = some (pump.returned, pump.reader)

variable {calls : List (List AnnexBStreamReader.ReaderOp)}

theorem start_relayed : Relayed [] start :=
  { numbered := VideoProducer.new_numbered
    picked := rfl
    returns := .nil
    waiting := fun _ h => by cases h
    current := fun _ h => by cases h }

theorem pipelines_pumping (hphase : portal.phase = .pumping pump) :
    portal.pipelines = portal.earlier ++ [pump.returned] := by
  rw [pipelines, hphase]

theorem Relayed.spawns (h : portal.Relayed calls) (hs : Spawns portal event next) :
    next.Relayed (observe calls event) := by
  obtain ⟨ok, rfl, hphase, rfl⟩ := hs
  have hpicked := h.picked
  have hreturns := h.returns
  have hpipes : portal.pipelines = portal.earlier := by rw [pipelines, hphase]
  rw [hpipes] at hpicked hreturns
  cases ok with
  | true =>
    refine { numbered := h.numbered, picked := ?_, returns := ?_, waiting := ?_, current := ?_ }
    · simpa [pipelines, Pump.new, forwarded] using hpicked
    · exact List.rel_append hreturns (.cons ⟨.new, rfl⟩ .nil)
    · rintro _ ⟨⟩
      rfl
    · rintro _ ⟨⟩
      exact ⟨calls, [], rfl, hreturns, rfl⟩
  | false =>
    -- the pipeline did not start, and there is no new pump
    exact
      { numbered := h.numbered
        picked := hpicked
        returns := hreturns
        waiting := fun _ h => by cases h
        current := fun _ h => by cases h }

theorem Relayed.ends (h : portal.Relayed calls) (hphase : portal.phase = .pumping pump)
    (hs : Ends portal pump event next) : next.Relayed (observe calls event) := by
  obtain ⟨hne, hcall, phase, hnew, rfl⟩ := hs
  have hpicked := h.picked
  have hreturns := h.returns
  have hpipes : pipelines { portal with phase, earlier := portal.earlier ++ [pump.returned] } =
      portal.pipelines := by
    rw [pipelines_pumping hphase, pipelines]
    split
    · next pump' hp => exact absurd hp (hnew pump')
    · rfl
  rw [observe, hcall]
  simp only [hne, ↓reduceIte]
  exact
    { numbered := h.numbered
      picked := hpipes ▸ h.picked
      returns := hpipes ▸ h.returns
      waiting := fun pump' hp => absurd hp (hnew pump')
      current := fun pump' hp => absurd hp (hnew pump') }

theorem Relayed.stays (h : portal.Relayed calls) (hphase : portal.phase = .pumping pump)
    (hs : Stays portal pump event next) : next.Relayed (observe calls event) := by
  obtain ⟨hne, hcall, channel, rfl⟩ := hs
  rw [observe, hcall]
  simp only [hne, ↓reduceIte]
  refine { numbered := h.numbered, picked := ?_, returns := ?_, waiting := ?_, current := ?_ }
  · have hpicked := h.picked
    rw [pipelines_pumping hphase] at hpicked
    exact hpicked
  · have hreturns := h.returns
    rw [pipelines_pumping hphase] at hreturns
    exact hreturns
  · rintro _ ⟨⟩
    exact h.waiting pump hphase
  · rintro _ ⟨⟩
    exact h.current pump hphase

/-- The units that are forwarded are those the reader has just returned, from the first key frame on. -/
theorem forwarded_append (before units : List AccessUnit) :
    forwarded (before ++ units) = forwarded before ++
      (if before.all (fun unit => !unit.keyFrame) then forwarded units else units) := by
  induction before with
  | nil => rfl
  | cons unit before ih =>
    cases hkey : unit.keyFrame with
    | true => simp [forwarded, hkey]
    | false => simpa [forwarded, hkey] using ih

theorem Relayed.forwards (hok : ∀ i, env.accepts i = true) (h : portal.Relayed calls)
    (hphase : portal.phase = .pumping pump) (hs : Forwards env geometry portal pump event next) :
    next.Relayed (observe calls event) := by
  obtain ⟨op, units, reader, hcall, hrun, rfl⟩ := hs
  obtain ⟨producer, hnext, hn, hp⟩ :=
    VideoProducer.forwardUnits_ok geometry hok h.numbered pump.waitingForKeyframe units
  obtain ⟨before, last, rfl, hbefore, hlast⟩ := h.current pump hphase
  have hpicked := h.picked
  have hwaiting := h.waiting pump hphase
  have hlast' : AnnexBStreamReader.runOps .new (last ++ [op]) = some (pump.returned ++ units, reader) := by
    rw [AnnexBStreamReader.runOps_append, hlast]
    simp [hrun]
  rw [pipelines_pumping hphase] at hpicked
  rw [forward, hnext, observe, hcall]
  refine { numbered := hn, picked := ?_, returns := ?_, waiting := ?_, current := ?_ }
  · rw [hp, hpicked, pipelines, hwaiting]
    simp [forwarded_append]
  · simpa [pipelines] using List.rel_append hbefore (.cons ⟨reader, hlast'⟩ .nil)
  · rintro _ ⟨⟩
    rw [hwaiting]
    simp
  · rintro _ ⟨⟩
    exact ⟨before, last ++ [op], by simp, hbefore, hlast'⟩

end Step

/-! ## Runs -/

theorem run_relayed (env : StreamEnv) (geometry : FrameGeometry) (hok : ∀ i, env.accepts i = true)
    {events : List PortalEvent} {portal : PortalStream}
    (hr : Trans.Runs (step env geometry) Trans.Free start events portal) :
    portal.Relayed (readerCalls events) := by
  induction hr with
  | nil => exact start_relayed
  | snoc _ _ hs h =>
    rw [readerCalls, List.foldl_append]
    rcases step_cases hs with hs | ⟨pump, hphase, hs | hs | hs⟩
    · exact h.spawns hs
    · exact h.ends hphase hs
    · exact h.stays hphase hs
    · exact h.forwards hok hphase hs

/-- **What a run writes.**  The envelopes are numbered from zero on, across all pipelines; they carry
what the reader of each pipeline returns from its first key frame on, each unit after its parameter
sets. -/
theorem portal_wire (env : StreamEnv) (geometry : FrameGeometry) (hok : ∀ i, env.accepts i = true)
    (events : List PortalEvent) (portal : PortalStream)
    (hr : Trans.run (step env geometry) start events = some portal) :
    portal.producer.frames.map VideoFrame.seq = List.range portal.producer.frames.length ∧
      ∃ returned, List.Forall₂ Returns (readerCalls events) returned ∧
        portal.producer.frames.map VideoFrame.picked =
          (returned.flatMap forwarded).flatMap AccessUnit.envelopes ∧
        (portal.producer.frames ≠ [] → portal.producer.wire =
          StreamMagic.v2.line ++ portal.producer.frames.flatMap (fun f => f.envelope.bytes)) := by
  have hruns : Trans.Runs (step env geometry) Trans.Free start events portal :=
    Trans.runs_free events hr
  have h := run_relayed env geometry hok hruns
  have hpicked := h.picked
  rw [← List.flatMap_assoc] at hpicked
  refine ⟨h.numbered.seqs, portal.pipelines, h.returns, hpicked, ?_⟩
  intro hframes
  rw [VideoProducer.wire, h.numbered.magic hframes]
  rfl

/-- Two pipelines: the first opens on a slice that depends on others, the second is started by a keyframe
request. -/
def demoEvents : List PortalEvent :=
  [.spawned true, .read (some [0, 0, 1, 0x41, 0x9a, 0, 0, 0, 1, 0x67, 0x42, 0, 0, 1]),
    .read (some [0x65, 0x88, 0, 0, 1, 0x41, 0x9b]), .idle, .request 300, .request 1500,
    .spawned true, .read (some [0, 0, 1, 0x67, 0x42, 0, 0, 1, 0x65, 0x89]), .idle, .closed, .stop]

theorem demo_wire : ∃ portal,
    Trans.run (step ⟨fun _ => true, fun i => i⟩ ⟨16, 16, 16, 16⟩) start demoEvents = some portal ∧
      portal.producer.frames.length = 5 ∧
      portal.producer.frames.map VideoFrame.seq = List.range portal.producer.frames.length ∧
      ∃ returned, List.Forall₂ Returns (readerCalls demoEvents) returned ∧
        portal.producer.frames.map VideoFrame.picked =
          (returned.flatMap forwarded).flatMap AccessUnit.envelopes ∧
        (portal.producer.frames ≠ [] → portal.producer.wire =
          StreamMagic.v2.line ++ portal.producer.frames.flatMap (fun f => f.envelope.bytes)) :=
  ⟨_, rfl, rfl, portal_wire ⟨fun _ => true, fun i => i⟩ ⟨16, 16, 16, 16⟩ (fun _ => rfl) demoEvents _ rfl⟩

end PortalStream

end Waypad
