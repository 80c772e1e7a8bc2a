import Waypad.Screen.Producer

/-!
# Waypad.Screen.ProducerWire — the handshake line and what follows it

* `Opened`: one handshake line, before all envelopes, and every video envelope in its codec.
* `Stage`: how far a run is: nothing sent, the line sent and the flag not set, the flag set.
* `handshake_first`: every run writes an opened stream.
-/

namespace Waypad

open Trans

/-- What may follow a handshake line. -/
def WireItem.Follows (magic : StreamMagic) : WireItem → Prop
  | .line _ => False
  | .video envelope => envelope.codec = magic.codec
  | .audio _ => True

/-- A handshake line that was not written to its end. -/
def StreamWrite.TornLine (self : StreamWrite) : Prop :=
  self.result ≠ .completes ∧ ∃ magic, self.item = .line magic

/-- Pieces of handshake lines; then, if one is written, all of it and what may follow it. -/
def Opened (log : List StreamWrite) : Prop :=
  ∃ torn, (∀ write ∈ torn, write.TornLine) ∧
    (log = torn ∨ ∃ magic rest, log = torn ++ ⟨.line magic, .completes⟩ :: rest ∧
      ∀ write ∈ rest, write.item.Follows magic)

/-- A write that does not complete makes every later one fail. -/
def FailsForGood (log : List StreamWrite) : Prop :=
  ∀ before write after, log = before ++ write :: after → write.result ≠ .completes →
    ∀ later ∈ after, later.result ≠ .completes

/-- The wire begins with a handshake line, unless it has pieces of lines only. -/
def StreamWire.Leads (self : StreamWire) : Prop :=
  (∀ write ∈ self.log, write.TornLine) ∨ ∃ (magic : StreamMagic) (rest : List StreamWrite),
    self.bytes = magic.line ++ rest.flatMap StreamWrite.bytes ∧ ∀ write ∈ rest, write.item.Follows magic

/-- On a socket that fails for good the line is the first thing on the wire. -/
theorem Opened.leads {socket : StreamWire} (h : Opened socket.log) (hgood : FailsForGood socket.log) :
    socket.Leads := by
  unfold StreamWire.Leads StreamWire.bytes
  generalize socket.log = log at h hgood
  obtain ⟨torn, htorn, rfl | ⟨magic, rest, rfl, hfollows⟩⟩ := h
  · exact Or.inl htorn
  · rcases torn with _ | ⟨write, torn⟩
    · exact Or.inr ⟨magic, rest, rfl, hfollows⟩
    · -- after a piece of a line no line is written to its end
      have hcut := (htorn write List.mem_cons_self).1
      have hlater := hgood [] write (torn ++ ⟨.line magic, .completes⟩ :: rest) rfl hcut
        ⟨.line magic, .completes⟩ (by simp)
      exact absurd rfl hlater

namespace VideoPhase

/-- The handshake line of the pump that runs or will run. -/
def magic (setup : VideoSetup) : VideoPhase → Option StreamMagic
  | .approving _ => some (setup.capture true).magic
  | .spawning portal => some (setup.capture portal).magic
  | .pumping capture | .sending capture _ | .writingLine capture _ _ | .storing capture _ =>
    some capture.magic
  | .pacing _ => some .v1
  | .ended _ | .aborted | .panicked => none

/-- The calls the pump has still to make. -/
def calls : VideoPhase → List VideoSend
  | .sending _ calls | .writingLine _ _ calls | .storing _ calls => calls
  | _ => []

end VideoPhase

namespace VideoTask

/-- How far the stream is. -/
inductive Stage (setup : VideoSetup) (socket : StreamWire) (audio : List ℕ) (phase : VideoPhase) : Prop
  /-- nothing but pieces of lines -/
  | before (unsent : socket.handshakeSent = false) (silent : audio = [])
      (storing : ∀ capture rest, phase ≠ .storing capture rest)
      (torn : ∀ write ∈ socket.log, write.TornLine)
  /-- the line is written, the flag is not set, perhaps never will be -/
  | between (unsent : socket.handshakeSent = false) (silent : audio = [])
      (torn : List StreamWrite) (magic : StreamMagic) (htorn : ∀ write ∈ torn, write.TornLine)
      (log : socket.log = torn ++ [⟨.line magic, .completes⟩])
      (storing : (∃ capture rest, phase = .storing capture rest ∧ capture.magic = magic) ∨
        phase = .aborted)
  /-- the flag is set -/
  | after (sent : socket.handshakeSent = true) (torn : List StreamWrite) (magic : StreamMagic)
      (rest : List StreamWrite) (htorn : ∀ write ∈ torn, write.TornLine)
      (log : socket.log = torn ++ ⟨.line magic, .completes⟩ :: rest)
      (follows : ∀ write ∈ rest, write.item.Follows magic)
      (runs : ∀ magic', phase.magic setup = some magic' → magic' = magic)
      (writing : ∀ capture magic' calls, phase ≠ .writingLine capture magic' calls)
      (storing : ∀ capture calls, phase ≠ .storing capture calls)

/-- The pump of a phase makes the calls of its own codec. -/
structure Suited (setup : VideoSetup) (phase : VideoPhase) : Prop where
  fits : ∀ magic, phase.magic setup = some magic → ∀ call ∈ phase.calls, Fits magic call
  line : ∀ capture magic rest, phase = .writingLine capture magic rest → magic = capture.magic
  encoder : phase.magic setup = some .v2 → (setup.capture true).magic = .v2

structure Framed (setup : VideoSetup) (s : VideoTask) : Prop where
  suited : Suited setup s.phase
  stage : Stage setup s.socket s.audio s.phase

section Step

variable {setup : VideoSetup} {s t : VideoTask} {event : ProducerEvent} {socket : StreamWire}
  {audio : List ℕ} {phase next : VideoPhase}

theorem Stage.opened (h : Stage setup socket audio phase) : Opened socket.log := by
  cases h with
  | before _ _ _ torn => exact ⟨socket.log, torn, Or.inl rfl⟩
  | between _ _ torn magic htorn log _ => exact ⟨torn, htorn, Or.inr ⟨magic, [], log, by simp⟩⟩
  | after _ torn magic rest htorn log follows _ _ _ =>
    exact ⟨torn, htorn, Or.inr ⟨magic, rest, log, follows⟩⟩

/-! A change of phase. -/

theorem Goes.magic {sent : Bool} (h : Goes sent phase next) (hsuited : Suited setup phase) :
    next.magic setup = phase.magic setup := by
  cases h with
  | restarts pump => exact congrArg some (hsuited.encoder rfl)
  | waits _ magic => exact congrArg some magic
  | reads _ magic _ _ => exact congrArg some magic
  | _ => rfl

theorem Goes.fits {sent : Bool} (h : Goes sent phase next) (hsuited : Suited setup phase) :
    ∀ magic, phase.magic setup = some magic → ∀ call ∈ next.calls, Fits magic call := by
  have hfits := hsuited.fits
  cases h with
  | reads _ _ fits _ =>
    rintro magic ⟨⟩
    exact fits
  | skips capture magic rest _ =>
    intro magic' hmagic call hcall
    exact hfits magic' hmagic call (List.mem_cons_of_mem _ hcall)
  | opens capture magic rest _ =>
    intro magic' hmagic call hcall
    exact hfits magic' hmagic call (List.mem_cons_of_mem _ hcall)
  | _ =>
    intro magic _ call hcall
    simp [VideoPhase.calls] at hcall

theorem Goes.suited {sent : Bool} (h : Goes sent phase next) (hsuited : Suited setup phase) :
    Suited setup next := by
  have hmagic := h.magic hsuited
  refine { fits := hmagic ▸ h.fits hsuited, line := ?_, encoder := hmagic ▸ hsuited.encoder }
  rintro capture magic rest rfl
  cases h with
  | opens _ _ _ _ => exact hsuited.fits _ rfl (.magic magic) (List.mem_cons_self)

/-- While the line and the flag stay as they are, the phase may change. -/
theorem Stage.moves (h : Stage setup socket audio phase)
    (hstoring : ∀ capture rest, phase ≠ .storing capture rest) (haborted : phase ≠ .aborted)
    (hnext : ∀ capture rest, next ≠ .storing capture rest)
    (hsent : socket.handshakeSent = true →
      (∀ magic, next.magic setup = some magic → phase.magic setup = some magic) ∧
        ∀ capture magic rest, next ≠ .writingLine capture magic rest) :
    Stage setup socket audio next := by
  cases h with
  | before unsent silent _ torn => exact .before unsent silent hnext torn
  | between _ _ _ _ _ _ storing =>
    obtain ⟨capture, rest, hphase, -⟩ | hphase := storing
    · exact absurd hphase (hstoring capture rest)
    · exact absurd hphase haborted
  | after sent torn magic rest htorn log follows runs _ _ =>
    obtain ⟨hmagic, hwriting⟩ := hsent sent
    exact .after sent torn magic rest htorn log follows
      (fun magic' hnext => runs magic' (hmagic magic' hnext)) hwriting hnext

/-- The line is written only where the flag is not set. -/
theorem Goes.stage (h : Goes socket.handshakeSent phase next) (hsuited : Suited setup phase)
    (hstage : Stage setup socket audio phase) : Stage setup socket audio next := by
  have hmagic := h.magic hsuited
  refine hstage.moves ?_ ?_ ?_ (fun hsent => ⟨fun magic hnext => hmagic ▸ hnext, ?_⟩)
  · rintro capture rest rfl
    cases h
  · rintro rfl
    cases h
  · rintro capture rest rfl
    cases h
  · rintro capture magic rest rfl
    cases h with
    | opens _ _ _ hunsent => rw [hsent] at hunsent; simp at hunsent

/-! A stream that ends. -/

theorem suited_ended (h : next.magic setup = none) (hcalls : next.calls = [])
    (hline : ∀ capture magic rest, next ≠ .writingLine capture magic rest) : Suited setup next :=
  { fits := by simp [hcalls]
    line := fun capture magic rest heq => absurd heq (hline capture magic rest)
    encoder := by simp [h] }

/-- After the flag, what follows the line is added to it. -/
theorem Stage.adds (h : Stage setup socket audio phase) (hsent : socket.handshakeSent = true)
    (item : WireItem) (result : WriteResult)
    (hitem : ∀ magic, (∀ magic', phase.magic setup = some magic' → magic' = magic) →
      item.Follows magic) : Stage setup (socket.write item result) audio phase := by
  cases h with
  | before unsent _ _ _ => rw [hsent] at unsent; simp at unsent
  | between unsent _ _ _ _ _ _ => rw [hsent] at unsent; simp at unsent
  | after sent torn magic rest htorn log follows runs writing storing =>
    refine .after sent torn magic (rest ++ [⟨item, result⟩]) htorn ?_ ?_ runs writing storing
    · simp [StreamWire.write, log]
    · intro write hwrite
      obtain hold | hnew := List.mem_append.mp hwrite
      · exact follows write hold
      · obtain rfl := List.mem_singleton.mp hnew
        exact hitem magic runs

/-- A frame has the codec of its phase. -/
theorem Suited.frame {envelope : VideoEnvelope} (h : Suited setup phase)
    (hwrites : Writes phase (.video envelope)) (magic : StreamMagic)
    (hmagic : ∀ magic', phase.magic setup = some magic' → magic' = magic) :
    WireItem.Follows magic (.video envelope) := by
  have hfits := h.fits
  cases hwrites with
  | frame capture call rest _ _ codec =>
    have hcall := codec _ (hfits _ rfl call List.mem_cons_self)
    rw [hmagic _ rfl] at hcall
    exact hcall

/-- A frame is written after the flag has been set. -/
theorem LineFirst.sent {envelope : VideoEnvelope} (hline : s.LineFirst)
    (hwrites : Writes s.phase (.video envelope)) : s.socket.handshakeSent = true := by
  by_contra hunsent
  generalize hphase : s.phase = phase at hwrites
  cases hwrites with
  | frame capture call rest _ frame _ =>
    obtain ⟨magic, hmagic⟩ := (hline (by simpa using hunsent)).2 capture _ hphase call rest rfl
    exact frame magic hmagic

/-- What the phase was writing is not written to its end. -/
theorem Framed.torn (h : s.Framed setup) (hline : s.LineFirst) (htorn : s.Torn socket) :
    Stage setup socket s.audio s.phase := by
  obtain rfl | ⟨item, result, hresult, hwrites, rfl⟩ := htorn
  · exact h.stage
  match item with
  | .line magic =>
    -- the line is cut, so the socket is lost before anything follows it
    obtain ⟨capture, rest, hphase⟩ : ∃ capture rest, s.phase = .writingLine capture magic rest := by
      generalize s.phase = phase at hwrites
      cases hwrites
      exact ⟨_, _, rfl⟩
    cases h.stage with
    | before unsent silent storing torn =>
      refine .before unsent silent storing ?_
      intro write hwrite
      obtain hold | hnew := List.mem_append.mp hwrite
      · exact torn write hold
      · obtain rfl := List.mem_singleton.mp hnew
        exact ⟨hresult, magic, rfl⟩
    | between _ _ _ _ _ _ storing =>
      obtain ⟨_, _, hstoring, -⟩ | hstoring := storing <;> simp [hphase] at hstoring
    | after _ _ _ _ _ _ _ _ writing _ => exact absurd hphase (writing capture magic rest)
  | .video envelope => exact h.stage.adds (hline.sent hwrites) _ result (h.suited.frame hwrites)
  | .audio packet =>
    generalize s.phase = phase at hwrites
    cases hwrites

/-- The task is aborted. -/
theorem Stage.aborts (h : Stage setup socket audio phase) : Stage setup socket audio .aborted := by
  cases h with
  | before unsent silent _ torn => exact .before unsent silent (by simp) torn
  | between unsent silent torn magic htorn log _ =>
    exact .between unsent silent torn magic htorn log (Or.inr rfl)
  | after sent torn magic rest htorn log follows _ _ _ =>
    exact .after sent torn magic rest htorn log follows (by simp [VideoPhase.magic]) (by simp) (by simp)

theorem not_aborted (h : s.Alive) : s.phase ≠ .aborted := by
  intro hphase
  simp [Alive, hphase] at h

/-- The end of a stream: grim takes over on a socket without a line only. -/
theorem Framed.pumped (hstage : Stage setup s.socket s.audio s.phase)
    (hstoring : ∀ capture rest, s.phase ≠ .storing capture rest) (haborted : s.phase ≠ .aborted)
    (backend : CaptureBackend) (result : Except StreamError Unit) :
    (s.pumped backend result).Framed setup := by
  obtain ⟨result', h⟩ | ⟨-, hunsent, h⟩ := pumped_cases s backend result
  · rw [h]
    refine ⟨suited_ended rfl rfl (by simp), hstage.moves hstoring haborted (by simp) (fun _ => ⟨?_, ?_⟩)⟩
    · simp [VideoPhase.magic]
    · simp
  · rw [h]
    refine ⟨?_, hstage.moves hstoring haborted (by simp [startGrim]) (fun hsent => ?_)⟩
    · exact
        { fits := by simp [startGrim, VideoPhase.calls]
          line := by simp [startGrim]
          encoder := by simp [startGrim, VideoPhase.magic, Capture.magic] }
    · rw [hunsent] at hsent
      simp at hsent

theorem count_phase (s : VideoTask) (capture : Capture) (rest : List VideoSend) :
    ∃ next : Capture, next.magic = capture.magic ∧
      (s.count capture rest).phase = .sending next rest ∧ (s.count capture rest).socket = s.socket ∧
      (s.count capture rest).audio = s.audio := by
  unfold count
  split
  · next seq => exact ⟨.grim (seq + 1), rfl, rfl, rfl, rfl⟩
  · exact ⟨capture, rfl, rfl, rfl, rfl⟩

/-- The calls that are left. -/
theorem Suited.keeps (h : Suited setup phase) (hmagic : next.magic setup = phase.magic setup)
    (hcalls : ∀ call ∈ next.calls, call ∈ phase.calls)
    (hline : ∀ capture magic rest, next ≠ .writingLine capture magic rest) : Suited setup next :=
  { fits := fun magic heq call hcall => h.fits magic (hmagic ▸ heq) call (hcalls call hcall)
    line := fun capture magic rest heq => absurd heq (hline capture magic rest)
    encoder := hmagic ▸ h.encoder }

/-- What an audio producer does before the flag is nothing. -/
theorem Framed.plays (h : s.Framed setup) (id : ℕ)
    (heard : ∀ id ∈ audio, id ∈ s.audio ∨ s.socket.handshakeSent = true)
    (wrote : socket = s.socket ∨
      id ∈ s.audio ∧ ∃ packet result, socket = s.socket.write (.audio packet) result) :
    Stage setup socket audio s.phase := by
  by_cases hsent : s.socket.handshakeSent = true
  · have hstage : Stage setup socket s.audio s.phase := by
      obtain rfl | ⟨-, packet, result, rfl⟩ := wrote
      · exact h.stage
      · exact h.stage.adds hsent _ result (fun _ _ => trivial)
    have hsent' : socket.handshakeSent = true := by
      obtain rfl | ⟨-, packet, result, rfl⟩ := wrote <;> exact hsent
    cases hstage with
    | before unsent _ _ _ => rw [hsent'] at unsent; simp at unsent
    | between unsent _ _ _ _ _ _ => rw [hsent'] at unsent; simp at unsent
    | after sent torn magic rest htorn log follows runs writing storing =>
      exact .after sent torn magic rest htorn log follows runs writing storing
  · -- no audio task has heard of the socket before the line is out
    have hsilent : s.audio = [] := by
      cases h.stage with
      | before _ silent _ _ => exact silent
      | between _ silent _ _ _ _ _ => exact silent
      | after sent _ _ _ _ _ _ _ _ _ => exact absurd sent hsent
    have hnone : audio = s.audio := by
      rw [hsilent, List.eq_nil_iff_forall_not_mem]
      intro id' hid
      simpa [hsilent, hsent] using heard id' hid
    obtain rfl | ⟨hid, -⟩ := wrote
    · exact hnone ▸ h.stage
    · rw [hsilent] at hid
      simp at hid

/-- The line is written: nothing but pieces of lines stood before it. -/
theorem Framed.opens (h : s.Framed setup) {capture : Capture} {magic : StreamMagic}
    {rest : List VideoSend} (hphase : s.phase = .writingLine capture magic rest) :
    Stage setup (s.socket.write (.line magic) .completes) s.audio (.storing capture rest) := by
  cases h.stage with
  | before unsent silent _ torn =>
    exact .between unsent silent s.socket.log magic torn rfl
      (Or.inl ⟨capture, rest, rfl, (h.suited.line capture magic rest hphase).symm⟩)
  | between _ _ _ _ _ _ storing =>
    obtain ⟨_, _, hstoring, -⟩ | hstoring := storing <;> simp [hphase] at hstoring
  | after _ _ _ _ _ _ _ _ writing _ => exact absurd hphase (writing capture magic rest)

/-- The flag is set: the line is the last thing written. -/
theorem Framed.stores (h : s.Framed setup) {capture : Capture} {rest : List VideoSend}
    (hphase : s.phase = .storing capture rest) :
    Stage setup { s.socket with handshakeSent := true } s.audio (.sending capture rest) := by
  cases h.stage with
  | before _ _ storing _ => exact absurd hphase (storing capture rest)
  | between _ _ torn magic htorn log storing =>
    obtain ⟨capture', rest', hstoring, rfl⟩ | hstoring := storing
    · rw [hphase] at hstoring
      cases hstoring
      refine .after rfl torn capture.magic [] htorn log (by simp) ?_ (by simp) (by simp)
      intro magic' heq
      exact (Option.some.inj heq).symm
    · simp [hphase] at hstoring
  | after _ _ _ _ _ _ _ _ _ storing => exact absurd hphase (storing capture rest)

/-- A frame is written. -/
theorem Framed.sends (h : s.Framed setup) (hline : s.LineFirst) {capture : Capture} {call : VideoSend}
    {rest : List VideoSend} {envelope : VideoEnvelope} (hphase : s.phase = .sending capture (call :: rest))
    (hwrites : Writes s.phase (.video envelope)) :
    ({ s with socket := s.socket.write (.video envelope) .completes }.count capture rest).Framed
      setup := by
  obtain ⟨next, hnext, hcount, hsocket, haudio⟩ := count_phase
    { s with socket := s.socket.write (.video envelope) .completes } capture rest
  have hmagic : (VideoPhase.sending next rest).magic setup = s.phase.magic setup := by
    rw [hphase]
    exact congrArg some hnext
  refine ⟨?_, ?_⟩
  · rw [hcount]
    refine h.suited.keeps hmagic (fun call' hcall => ?_) (by simp)
    rw [hphase]
    exact List.mem_cons_of_mem _ hcall
  · rw [hcount, hsocket, haudio]
    have hadded := h.stage.adds (hline.sent hwrites) _ .completes (h.suited.frame hwrites)
    exact hadded.moves (by simp [hphase]) (by simp [hphase]) (by simp)
      (fun _ => ⟨fun magic heq => hmagic ▸ heq, by simp⟩)

/-- A stop signal. -/
theorem Framed.stops (h : s.Framed setup) (hstoring : ∀ capture rest, s.phase ≠ .storing capture rest)
    (haborted : s.phase ≠ .aborted) (backend : CaptureBackend) : (s.takeStop backend).Framed setup := by
  unfold takeStop
  split_ifs
  · refine ⟨suited_ended rfl rfl (by simp), h.stage.moves hstoring haborted (by simp) ?_⟩
    intro _
    exact ⟨by simp [VideoPhase.magic], by simp⟩
  · exact Framed.pumped
      (s := { s with stopTaken := true, history := s.history ++ [.stopYielded] }) h.stage hstoring
      haborted backend (.ok ())

/-- **One step** keeps the invariant. -/
theorem Framed.turn (h : s.Framed setup) (hline : s.LineFirst) (hturn : Turn setup s event t) :
    t.Framed setup := by
  cases hturn with
  | goes phase _ goes => exact ⟨goes.suited h.suited, goes.stage h.suited h.stage⟩
  | spawns portal phase =>
    have hmagic : s.phase.magic setup = some (setup.capture portal).magic := by
      rw [phase]
      rfl
    refine ⟨h.suited.keeps hmagic.symm (by simp [VideoPhase.calls]) (by simp), ?_⟩
    exact h.stage.moves (by simp [phase]) (by simp [phase]) (by simp)
      (fun _ => ⟨fun magic hnext => hmagic.trans hnext, by simp⟩)
  | stops backend _ phase =>
    obtain ⟨capture, hphase, -⟩ | ⟨-, seq, hphase⟩ := phase
    · exact h.stops (by simp [hphase]) (by simp [hphase]) backend
    · exact h.stops (by simp [hphase]) (by simp [hphase]) backend
  | returns backend result socket alive phase torn =>
    exact Framed.pumped (s := { s with socket }) (h.torn hline torn) phase (not_aborted alive) backend
      result
  | aborts socket alive torn =>
    exact ⟨suited_ended rfl rfl (by simp), (h.torn hline torn).aborts⟩
  | opens capture magic rest phase =>
    refine ⟨h.suited.keeps ?_ (by simp [phase, VideoPhase.calls]) (by simp), h.opens phase⟩
    rw [phase]
    rfl
  | stores capture rest phase =>
    refine ⟨h.suited.keeps ?_ (by simp [phase, VideoPhase.calls]) (by simp), h.stores phase⟩
    rw [phase]
    rfl
  | sends capture call rest envelope phase writes => exact h.sends hline phase writes
  | audio id audio socket heard wrote => exact ⟨h.suited, h.plays id heard wrote⟩

end Step

/-! ## Runs -/

section Runs

variable {setup : VideoSetup} {s : VideoTask} {events : List ProducerEvent}

theorem start_framed (setup : VideoSetup) : (start setup).Framed setup := by
  unfold start
  dsimp only
  split_ifs
  · refine ⟨⟨by simp [VideoPhase.calls], by simp, ?_⟩, .before rfl rfl (by simp) (by simp [StreamWire.new])⟩
    intro h
    exact Option.some.inj h
  · refine ⟨⟨by simp [VideoPhase.calls], by simp, ?_⟩, .before rfl rfl (by simp) (by simp [StreamWire.new])⟩
    simp [VideoPhase.magic, VideoSetup.capture, Capture.magic]
  · refine ⟨⟨by simp [startGrim, VideoPhase.calls], by simp [startGrim], ?_⟩,
      .before rfl rfl (by simp [startGrim]) (by simp [startGrim, StreamWire.new])⟩
    simp [startGrim, VideoPhase.magic, Capture.magic]

theorem run_framed (hr : Runs (step setup) Free (start setup) events s) : s.Framed setup := by
  induction hr with
  | nil => exact start_framed setup
  | snoc hr _ hs h => exact h.turn (run_lineFirst hr) (step_turn hs)

/-- **The handshake line comes first.**  However the writes end, one handshake line at most is written to
its end, no envelope is begun before it, and the video envelopes after it have its codec.  On a socket
that fails for good the wire begins with it. -/
theorem handshake_first (hr : Runs (step setup) Free (start setup) events s) :
    Opened s.socket.log ∧ (FailsForGood s.socket.log → s.socket.Leads) :=
  ⟨(run_framed hr).stage.opened, Opened.leads (run_framed hr).stage.opened⟩

/-- A portal session without an H.264 encoder: gst-launch cannot be started, and grim takes over. -/
def demoFallback : VideoSetup :=
  { backend := "wayland-screencast-portal", width := 1920, height := 1080, encoding := .jpeg
    geometry := ⟨1920, 1080, 1920, 1080⟩ }

def demoPacket : AudioPacket := { seq := 0, timestampMs := 9, format := audioFormat 20, payload := [1, 2] }

/-- Audio waits for the line of grim. -/
def demoShared : List ProducerEvent :=
  [.video .portalStarted, .video (.spawnFailed .other), .video (.captured [0xff, 0xd8, 0xff, 0xd9]),
    .audio 1 (.checked false), .video .checked, .video (.wrote 8 .completes), .audio 1 (.checked false),
    .video .stored, .audio 1 (.checked false), .audio 1 (.wrote demoPacket .completes),
    .video (.wrote 9 .completes)]

theorem handshake_first_demo : ∃ s, run (step demoFallback) (start demoFallback) demoShared = some s ∧
    s.socket.log = [⟨.line .v1, .completes⟩, ⟨.audio demoPacket, .completes⟩,
      ⟨.video (.jpeg ⟨0, 9, 1920, 1080, [0xff, 0xd8, 0xff, 0xd9]⟩), .completes⟩] ∧
    Opened s.socket.log ∧ (FailsForGood s.socket.log → s.socket.Leads) := by
  refine ⟨_, rfl, rfl, @handshake_first demoFallback _ demoShared ?_⟩
  exact runs_free demoShared rfl

end Runs

end VideoTask

end Waypad
