import Mathlib.Data.List.Perm.Basic
import Waypad.Screen.Pump

/-!
# Waypad.Screen.Keyframe — what becomes of a keyframe request (`src/screen.rs`)

`request_key_frame` puts a request into a channel that has room for one, and answers `Ok` whether it gets
in or not.  The pump of the current pipeline takes it out, and looks how long ago it was started.

* `KeyframeSession.step`: the producer of `run_portal_stream` with a clock and the channel.
* `Accounted`: every accepted request waits or has had its fate.
* `requests_accounted`: a request that is taken restarts the encoder, or finds a pipeline that has not
  opened yet or that is younger than a second.
-/

namespace Waypad

open Trans

/-- What becomes of a request that `request_key_frame` has answered with `Ok`. -/
inductive KeyframeFate
  /-- the channel is full: "coalesced into a pending one" -/
  | coalesced (pending : ℕ)
  /-- the channel is closed: "stream is shutting down" -/
  | closed
  /-- the producer ends while the request waits -/
  | dropped
  /-- the pump takes it, so long after the start of its pipeline; whether the pipeline still waits for its
  opening keyframe, and whether the pump returns `KeyFrameRequested` -/
  | taken (age : ℕ) (opening respawns : Bool)
  deriving DecidableEq, Repr

structure KeyframeSession where
  portal : PortalStream
  /-- milliseconds -/
  now : ℕ
  /-- `started` of the current pump -/
  started : ℕ
  /-- the request in the channel -/
  waiting : Option ℕ
  /-- the producer task has not ended: it holds `keyframe_rx` -/
  receiver : Bool
  /-- the session is in the registry: it holds `keyframe_tx` -/
  registered : Bool
  /-- ghost: the requests answered with `Ok`, numbered from zero on -/
  accepted : ℕ
  /-- ghost: what has become of them -/
  fates : List (ℕ × KeyframeFate)
  deriving DecidableEq, Repr

inductive KeyframeAction
  | tick (ms : ℕ)
  | requestKeyFrame
  /-- an iteration of `run_portal_stream` -/
  | portal (event : PortalEvent)
  /-- the producer task ends, or is aborted -/
  | taskEnds
  /-- the session leaves the registry -/
  | unregister
  deriving DecidableEq, Repr

namespace KeyframeSession

/-- After `attach_stream_client`. -/
def new : KeyframeSession :=
  { portal := .start, now := 0, started := 0, waiting := none, receiver := true, registered := true
    accepted := 0, fates := [] }

/-- `request_key_frame` on a running session: `try_send`. -/
def requestKeyFrame (self : KeyframeSession) : KeyframeSession :=
  let accepted := self.accepted + 1
  if !self.receiver then
    { self with accepted, fates := self.fates ++ [(self.accepted, .closed)] }
  else
    match self.waiting with
    | some pending =>
      { self with accepted, fates := self.fates ++ [(self.accepted, .coalesced pending)] }
    | none => { self with accepted, waiting := some self.accepted }

/-- The pump still waits for the opening keyframe of its pipeline. -/
def opening (self : KeyframeSession) : Bool :=
  match self.portal.phase with
  | .pumping pump => pump.waitingForKeyframe
  | _ => false

/-- `keyframe_rx.recv()` has yielded the request, and the pump is at `portal` after it. -/
def take (self : KeyframeSession) (request : ℕ) (portal : PortalStream) : KeyframeSession :=
  { self with
    portal, waiting := none
    fates := self.fates ++
      [(request, .taken (self.now - self.started) self.opening (portal.phase == .spawning))] }

/-- An event of `run_portal_stream`: requests come from the channel, and their time from the clock. -/
def portalStep (env : StreamEnv) (geometry : FrameGeometry) (self : KeyframeSession) :
    PortalEvent → Option KeyframeSession
  | .request elapsedMs =>
    match self.waiting with
    | some request =>
      if elapsedMs = self.now - self.started then
        (self.portal.step env geometry (.request elapsedMs)).map (self.take request)
      else none
    | none => none
  | .closed =>
    if self.registered = false ∧ self.waiting = none then
      (self.portal.step env geometry .closed).map (fun portal => { self with portal })
    else none
  | .spawned ok =>
    (self.portal.step env geometry (.spawned ok)).map (fun portal =>
      { self with portal, started := self.now })
  | event => (self.portal.step env geometry event).map (fun portal => { self with portal })

def step (env : StreamEnv) (geometry : FrameGeometry) (self : KeyframeSession) :
    KeyframeAction → Option KeyframeSession
  | .tick ms => some { self with now := self.now + ms }
  | .requestKeyFrame => if self.registered then some self.requestKeyFrame else some self
  | .portal event => if self.receiver then self.portalStep env geometry event else none
  | .taskEnds =>
    if self.receiver then
      some { self with
        receiver := false, waiting := none
        fates := self.fates ++ (self.waiting.map (fun request => (request, .dropped))).toList }
    else none
  | .unregister => if self.registered then some { self with registered := false } else none

/-- No request the pump takes is without effect: the encoder is respawned, or the pipeline is still to
open. -/
def NeverWithoutEffect (s : KeyframeSession) : Prop :=
  ∀ request age opening respawns, (request, .taken age opening respawns) ∈ s.fates →
    respawns = true ∨ opening = true

/-- What is known of the accepted requests. -/
structure Accounted (s : KeyframeSession) : Prop where
  /-- each of them waits, or has had one fate -/
  once : (s.fates.map Prod.fst ++ s.waiting.toList).Perm (List.range s.accepted)
  /-- it gets the keyframe of an earlier one -/
  coalesced : ∀ request pending, (request, .coalesced pending) ∈ s.fates → pending < request
  /-- the encoder is respawned, or the pipeline is still to open, or is younger than the interval -/
  taken : ∀ request age opening respawns, (request, .taken age opening respawns) ∈ s.fates →
    respawns = true ∨ opening = true ∨ age < keyframeRestartMinInterval
  /-- a pipeline is still to open when none of its units have been forwarded -/
  opening : ∀ pump, s.portal.phase = .pumping pump →
    (pump.waitingForKeyframe = true ↔ forwarded pump.returned = [])

end KeyframeSession

/-! ## The flag of the pump -/

namespace VideoProducer

/-- The pump waits on as long as it sees no key frame. -/
theorem forwardUnits_waiting {env : StreamEnv} {geometry : FrameGeometry} {waiting waiting' : Bool}
    {self next : VideoProducer} {units : List AccessUnit}
    (h : self.forwardUnits env geometry waiting units = .ok (waiting', next)) :
    waiting' = (waiting && units.all (fun unit => !unit.keyFrame)) := by
  induction units generalizing self waiting with
  | nil =>
    simp only [forwardUnits, Except.ok.injEq, Prod.mk.injEq] at h
    simp [h.1]
  | cons unit units ih =>
    rw [forwardUnits] at h
    -- skipped while waiting, and otherwise nothing waits any more
    split_ifs at h with hskip
    · obtain ⟨rfl, hkey⟩ : waiting = true ∧ unit.keyFrame = false := by simpa using hskip
      rw [ih h]
      simp [hkey]
    · cases hunit : self.forwardUnit env geometry unit with
      | error => simp [hunit, bind, Except.bind] at h
      | ok mid =>
        simp only [hunit, bind, Except.bind] at h
        rw [ih h]
        simp only [Bool.and_eq_true, Bool.not_eq_true', not_and, Bool.not_eq_false] at hskip
        cases waiting with
        | false => simp
        | true => simp [hskip rfl]

end VideoProducer

/-- Nothing is forwarded before a key frame. -/
theorem forwarded_eq_nil (units : List AccessUnit) :
    forwarded units = [] ↔ units.all (fun unit => !unit.keyFrame) = true := by
  rw [forwarded, List.dropWhile_eq_nil_iff, List.all_eq_true]

namespace PortalStream

variable {env : StreamEnv} {geometry : FrameGeometry}

/-- The flag says whether a key frame has been returned. -/
def Flagged (portal : PortalStream) : Prop :=
  ∀ pump, portal.phase = .pumping pump →
    pump.waitingForKeyframe = pump.returned.all (fun unit => !unit.keyFrame)

theorem flagged_step {portal next : PortalStream} {event : PortalEvent} (h : portal.Flagged)
    (hs : step env geometry portal event = some next) : next.Flagged := by
  rcases step_cases hs with ⟨ok, -, -, rfl⟩ | ⟨pump, hphase, hs | hs | hs⟩
  · -- a new pump has forwarded nothing
    intro pump hpump
    cases ok with
    | false => simp at hpump
    | true =>
      obtain rfl : Pump.new = pump := PortalPhase.pumping.inj hpump
      rfl
  · obtain ⟨-, -, phase, hne, rfl⟩ := hs
    intro pump' hpump
    exact absurd hpump (hne pump')
  · obtain ⟨-, -, channel, rfl⟩ := hs
    intro pump' hpump
    obtain rfl := PortalPhase.pumping.inj hpump
    exact h pump hphase
  · obtain ⟨op, units, reader, -, -, rfl⟩ := hs
    intro pump' hpump
    unfold forward at hpump
    split at hpump
    · next waiting producer hforward =>
      obtain rfl := PortalPhase.pumping.inj hpump
      rw [VideoProducer.forwardUnits_waiting hforward, h pump hphase]
      simp
    · simp at hpump

/-- A request is looked at by the pump: it restarts the encoder, or nothing happens. -/
theorem request_cases {portal next : PortalStream} {elapsedMs : ℕ}
    (hs : step env geometry portal (.request elapsedMs) = some next) :
    keyframeRestartMinInterval ≤ elapsedMs ∧ next.phase = .spawning ∨
      elapsedMs < keyframeRestartMinInterval ∧ next = portal := by
  cases hphase : portal.phase with
  | pumping pump =>
    simp only [step, hphase] at hs
    split_ifs at hs with hopen hage
    · exact Or.inl ⟨hage, by rw [← Option.some.inj hs]⟩
    · exact Or.inr ⟨by omega, (Option.some.inj hs).symm⟩
  | spawning => simp [step, hphase] at hs
  | ended ok => simp [step, hphase] at hs

end PortalStream

namespace KeyframeSession

section Step

variable {env : StreamEnv} {geometry : FrameGeometry} {s t : KeyframeSession}

/-- The requests with what has become of them. -/
def known (s : KeyframeSession) : List ℕ := s.fates.map Prod.fst ++ s.waiting.toList

theorem accounted_new : Accounted new where
  once := List.Perm.refl _
  coalesced _ _ h := by simp [new] at h
  taken _ _ _ _ h := by simp [new] at h
  opening pump h := by simp [new, PortalStream.start] at h

theorem Accounted.flagged (h : Accounted s) : s.portal.Flagged := by
  intro pump hpump
  rw [Bool.eq_iff_iff, h.opening pump hpump]
  exact forwarded_eq_nil pump.returned

/-- The request that waits is an accepted one. -/
theorem Accounted.waiting_lt (h : Accounted s) {request : ℕ} (hw : s.waiting = some request) :
    request < s.accepted :=
  List.mem_range.mp (h.once.subset (by simp [hw]))

/-- The log and the channel stay as they are. -/
theorem Accounted.same (h : Accounted s) (hf : t.fates = s.fates) (hw : t.waiting = s.waiting)
    (ha : t.accepted = s.accepted) (hp : t.portal.Flagged) : Accounted t where
  once := by
    rw [hf, hw, ha]
    exact h.once
  coalesced := hf ▸ h.coalesced
  taken := hf ▸ h.taken
  opening pump hpump := by
    rw [hp pump hpump]
    exact (forwarded_eq_nil pump.returned).symm

/-- The request that waits gets its fate. -/
theorem Accounted.fate (h : Accounted s) {request : ℕ} {fate : KeyframeFate}
    (hw : s.waiting = some request) (hwt : t.waiting = none)
    (hf : t.fates = s.fates ++ [(request, fate)]) (ha : t.accepted = s.accepted)
    (hp : t.portal.Flagged) (hc : ∀ pending, fate ≠ .coalesced pending)
    (ht : ∀ age opening respawns, fate = .taken age opening respawns →
      respawns = true ∨ opening = true ∨ age < keyframeRestartMinInterval) : Accounted t where
  once := by
    have honce := h.once
    rw [hw] at honce
    rw [hwt, hf, ha]
    simpa using honce
  coalesced request' pending hmem := by
    rw [hf] at hmem
    rcases List.mem_append.mp hmem with hmem | hmem
    · exact h.coalesced request' pending hmem
    · obtain ⟨-, hfate⟩ := Prod.mk.inj (List.mem_singleton.mp hmem)
      exact absurd hfate.symm (hc pending)
  taken request' age opening respawns hmem := by
    rw [hf] at hmem
    rcases List.mem_append.mp hmem with hmem | hmem
    · exact h.taken request' age opening respawns hmem
    · obtain ⟨-, hfate⟩ := Prod.mk.inj (List.mem_singleton.mp hmem)
      exact ht age opening respawns hfate.symm
  opening pump hpump := by
    rw [hp pump hpump]
    exact (forwarded_eq_nil pump.returned).symm

/-- A request that does not get into the channel. -/
theorem Accounted.refused (h : Accounted s) {fate : KeyframeFate}
    (hc : ∀ pending, fate = .coalesced pending → pending < s.accepted)
    (ht : ∀ age opening respawns, fate ≠ .taken age opening respawns) :
    Accounted { s with
      accepted := s.accepted + 1, fates := s.fates ++ [(s.accepted, fate)] } where
  once := by
    show ((s.fates ++ [(s.accepted, fate)]).map Prod.fst ++ s.waiting.toList).Perm
      (List.range (s.accepted + 1))
    rw [List.range_succ, List.map_append, List.append_assoc]
    refine List.Perm.trans (List.Perm.append_left _ List.perm_append_comm) ?_
    rw [← List.append_assoc]
    exact h.once.append_right [s.accepted]
  coalesced request pending hmem := by
    rcases List.mem_append.mp hmem with hmem | hmem
    · exact h.coalesced request pending hmem
    · obtain ⟨rfl, hfate⟩ := Prod.mk.inj (List.mem_singleton.mp hmem)
      exact hc pending hfate.symm
  taken request age opening respawns hmem := by
    rcases List.mem_append.mp hmem with hmem | hmem
    · exact h.taken request age opening respawns hmem
    · obtain ⟨-, hfate⟩ := Prod.mk.inj (List.mem_singleton.mp hmem)
      exact absurd hfate.symm (ht age opening respawns)
  opening := h.opening

theorem accounted_requestKeyFrame (h : Accounted s) : Accounted s.requestKeyFrame := by
  unfold requestKeyFrame
  dsimp only
  split_ifs
  · exact h.refused (by simp) (by simp)
  · split
    · next pending hw =>
      refine h.refused (fun pending' he => ?_) (by simp)
      obtain rfl := KeyframeFate.coalesced.inj he
      exact h.waiting_lt hw
    · next hw =>
      refine ⟨?_, h.coalesced, h.taken, h.opening⟩
      show (s.fates.map Prod.fst ++ [s.accepted]).Perm (List.range (s.accepted + 1))
      have honce := h.once
      rw [hw, Option.toList_none, List.append_nil] at honce
      rw [List.range_succ]
      exact honce.append_right [s.accepted]

theorem accounted_portalStep (h : Accounted s) {event : PortalEvent}
    (hs : s.portalStep env geometry event = some t) : Accounted t := by
  cases event with
  | request elapsedMs =>
    simp only [portalStep] at hs
    split at hs
    · next request hw =>
      simp only [Option.ite_none_right_eq_some] at hs
      obtain ⟨rfl, hs⟩ := hs
      obtain ⟨portal, hportal, rfl⟩ := Option.map_eq_some_iff.mp hs
      refine h.fate hw rfl rfl rfl (PortalStream.flagged_step h.flagged hportal) (by simp) ?_
      intro age opening respawns hfate
      obtain ⟨rfl, -, rfl⟩ := KeyframeFate.taken.inj hfate
      -- a young pipeline keeps its key frame, an old one is started again
      rcases PortalStream.request_cases hportal with ⟨-, hphase⟩ | ⟨hage, -⟩
      · exact Or.inl (by simp [hphase])
      · exact Or.inr (Or.inr hage)
    · simp at hs
  | closed =>
    simp only [portalStep, Option.ite_none_right_eq_some] at hs
    obtain ⟨portal, hportal, rfl⟩ := Option.map_eq_some_iff.mp hs.2
    exact h.same rfl rfl rfl (PortalStream.flagged_step h.flagged hportal)
  | spawned ok =>
    obtain ⟨portal, hportal, rfl⟩ := Option.map_eq_some_iff.mp hs
    exact h.same rfl rfl rfl (PortalStream.flagged_step h.flagged hportal)
  | _ =>
    obtain ⟨portal, hportal, rfl⟩ := Option.map_eq_some_iff.mp hs
    exact h.same rfl rfl rfl (PortalStream.flagged_step h.flagged hportal)

/-- Every step keeps the account. -/
theorem accounted_step (h : Accounted s) {a : KeyframeAction} (hs : step env geometry s a = some t) :
    Accounted t := by
  cases a with
  | tick ms =>
    obtain rfl := (Option.some.inj hs).symm
    exact h.same rfl rfl rfl h.flagged
  | requestKeyFrame =>
    simp only [step] at hs
    split_ifs at hs
    · exact Option.some.inj hs ▸ accounted_requestKeyFrame h
    · exact Option.some.inj hs ▸ h
  | portal event =>
    simp only [step, Option.ite_none_right_eq_some] at hs
    exact accounted_portalStep h hs.2
  | taskEnds =>
    -- a request that still waits is dropped with the channel
    simp only [step, Option.ite_none_right_eq_some, Option.some.injEq] at hs
    obtain ⟨-, rfl⟩ := hs
    cases hw : s.waiting with
    | none => exact h.same (by simp) hw.symm rfl h.flagged
    | some request =>
      have hf : s.fates ++ ((some request).map (fun r => (r, KeyframeFate.dropped))).toList =
          s.fates ++ [(request, .dropped)] := rfl
      exact h.fate hw rfl hf rfl h.flagged (by simp) (by simp)
  | unregister =>
    simp only [step, Option.ite_none_right_eq_some, Option.some.injEq] at hs
    obtain ⟨-, rfl⟩ := hs
    exact h.same rfl rfl rfl h.flagged

end Step

/-- **No request is lost**: over any run, each accepted request waits or has had its fate, and one that is
taken without effect met a pipeline that is still to open, or is younger than a second. -/
theorem requests_accounted {env : StreamEnv} {geometry : FrameGeometry} {as : List KeyframeAction}
    {s : KeyframeSession} (hr : Runs (step env geometry) Free new as s) : Accounted s :=
  hr.inv (I := Accounted) (fun _ _ _ h _ hs => accounted_step h hs) accounted_new

/-- A pipeline that opens on a key frame within 300 ms. -/
def demoOpening : List KeyframeAction :=
  [.portal (.spawned true), .tick 300,
    .portal (.read (some [0, 0, 1, 0x67, 0x42, 0, 0, 1, 0x65, 0x88])), .portal .idle]

/-- A socket that takes everything. -/
def demoEnv : StreamEnv := ⟨fun _ => true, fun i => i⟩

/-- One request that restarts the encoder, and one that is coalesced into it. -/
def demoRequests : List KeyframeAction :=
  demoOpening ++ [.tick 900, .requestKeyFrame, .requestKeyFrame, .portal (.request 1200)]

theorem requests_accounted_demo : ∃ s, run (step demoEnv ⟨16, 16, 16, 16⟩) new demoRequests = some s ∧
    s.fates = [(1, .coalesced 0), (0, .taken 1200 false true)] ∧ Accounted s := by
  refine ⟨_, rfl, rfl, ?_⟩
  exact @requests_accounted demoEnv ⟨16, 16, 16, 16⟩ demoRequests _
    (runs_free demoRequests rfl)

/-- The picture is there, the decoder is rebuilt, and the request comes 500 ms after the start. -/
theorem request_without_effect : ∃ s, run (step demoEnv ⟨16, 16, 16, 16⟩) new
      (demoOpening ++ [.tick 200, .requestKeyFrame, .portal (.request 500)]) = some s ∧
    s.accepted = 1 ∧ s.waiting = none ∧ s.portal.producer.frames.length = 2 ∧
      ¬ NeverWithoutEffect s := by
  refine ⟨_, rfl, rfl, rfl, rfl, ?_⟩
  intro h
  exact absurd (h 0 500 false false (by decide)) (by decide)

end KeyframeSession

end Waypad
