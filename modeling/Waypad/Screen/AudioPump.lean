import Waypad.Lib.Trans
import Waypad.Screen.Audio
import Waypad.Screen.Envelope
import Waypad.Screen.Rtp

/-!
# Waypad.Screen.AudioPump — one desktop audio producer (`src/audio.rs`)

`run_audio_stream` with the bytes it reads and the envelopes it writes: up to three pipelines, each with a
reader of its own, and one sequence number and one pair of counters for all of them.  A step ends where
the task awaits or reads what others write.

* `AudioProducer.step`: the producer.
* `Effect`, `step_effect`: every step does one of four things to the books.
* `Accounted`: the books agree with the packets.
* `packets_accounted`: they do in every run up to the first write error.
-/

namespace Waypad

open Trans

/-- `stale_packet_count`. -/
def stalePacketCount (available maxBatch : ℕ) : ℕ := available - max maxBatch 1

structure AudioMetrics where
  sent : ℕ
  dropped : ℕ
  deriving DecidableEq, Repr

inductive AudioProducerPhase
  /-- `wait_for_stream_open` -/
  | opening
  /-- the top of an attempt -/
  | attempt (n : ℕ)
  /-- `resolve_monitor_device`, `spawn_audio_pipeline` -/
  | starting (n : ℕ)
  /-- the `select!` of `pump_audio_stream` -/
  | reading (n : ℕ) (reader : RtpStreamReader)
  /-- the loop over the packets of a read -/
  | forwarding (n : ℕ) (reader : RtpStreamReader) (packets : List (List UInt8))
  /-- `try_write_envelope` waits for the socket; the header is made -/
  | locking (n : ℕ) (reader : RtpStreamReader) (packet : AudioPacket) (packets : List (List UInt8))
  /-- it has the socket -/
  | writing (n : ℕ) (reader : RtpStreamReader) (packet : AudioPacket) (packets : List (List UInt8))
  /-- between two attempts -/
  | backoff (n : ℕ)
  | ended
  deriving DecidableEq, Repr

namespace AudioProducerPhase

/-- The packets that were returned and not yet processed. -/
def pending : AudioProducerPhase → List (List UInt8)
  | .forwarding _ _ packets => packets
  | .locking _ _ packet packets | .writing _ _ packet packets => packet.payload :: packets
  | _ => []

/-- The envelope that is on its way. -/
def packet : AudioProducerPhase → Option AudioPacket
  | .locking _ _ packet _ | .writing _ _ packet _ => some packet
  | _ => none

end AudioProducerPhase

structure AudioProducer where
  phase : AudioProducerPhase
  seq : ℕ
  metrics : AudioMetrics
  /-- the envelopes written -/
  wire : List AudioPacket
  /-- ghost: the packets that `RtpStreamReader::push` has returned -/
  returned : List (List UInt8)
  deriving DecidableEq, Repr

inductive AudioProducerEvent
  /-- `handshake_sent()` in `wait_for_stream_open` -/
  | opened
  /-- `stop_rx` -/
  | stopped
  /-- `stop_rx.try_recv()` -/
  | checked (stop : Bool)
  /-- the monitor device is not found -/
  | noDevice
  /-- the pipeline is there -/
  | started
  /-- it cannot be spawned, or its pipe cannot be read -/
  | failed
  /-- `stdout.read`; no byte at the end of the pipe -/
  | read (chunk : List UInt8)
  /-- the flags are read, and the time -/
  | looked (muted handshakeSent : Bool) (nowMillis : ℕ)
  /-- the packets of a read are processed -/
  | drained
  | locked
  /-- the socket is busy for too long -/
  | lockTimeout
  | written
  | writeFailed
  | slept
  deriving DecidableEq, Repr

namespace AudioProducer

/-- `DesktopAudioStream::spawn`. -/
def start : AudioProducer :=
  { phase := .opening, seq := 0, metrics := ⟨0, 0⟩, wire := [], returned := [] }

/-- After a pipeline that has ended or failed. -/
def afterAttempt (self : AudioProducer) (n : ℕ) : AudioProducer :=
  if restartAttempts ≤ n then { self with phase := .ended } else { self with phase := .backoff n }

/-- `push` has returned: the stale packets are dropped. -/
def accept (self : AudioProducer) (n : ℕ) (reader : RtpStreamReader) (packets : List (List UInt8)) :
    AudioProducer :=
  let stale := stalePacketCount packets.length maxPacketsPerBatch
  { self with
    phase := .forwarding n reader (packets.drop stale)
    metrics := { self.metrics with dropped := self.metrics.dropped + stale }
    returned := self.returned ++ packets }

/-- A packet is dropped. -/
def drop (self : AudioProducer) (n : ℕ) (reader : RtpStreamReader) (packets : List (List UInt8)) :
    AudioProducer :=
  { self with
    phase := .forwarding n reader packets
    metrics := { self.metrics with dropped := self.metrics.dropped + 1 } }

/-- The `select!` of `pump_audio_stream`. -/
def select (self : AudioProducer) (n : ℕ) (reader : RtpStreamReader) :
    AudioProducerEvent → Option AudioProducer
  | .stopped => some { self with phase := .ended }
  | .failed => some (self.afterAttempt n)
  | .read chunk =>
    if chunk = [] then some (self.afterAttempt n)
    else if chunk.length ≤ 16 * 1024 then
      (reader.push chunk).map (fun r =>
        match r.1 with
        | .ok packets => self.accept n r.2 packets
        | .error _ => self.afterAttempt n)
    else none
  | _ => none

/-- The loop over the packets. -/
def forward (format : AudioFormat) (self : AudioProducer) (n : ℕ) (reader : RtpStreamReader) :
    List (List UInt8) → AudioProducerEvent → Option AudioProducer
  | [], .drained => some { self with phase := .reading n reader }
  | payload :: packets, .looked muted handshakeSent nowMillis =>
    if muted || !handshakeSent then some (self.drop n reader packets)
    else some { self with phase := .locking n reader ⟨self.seq, nowMillis, format, payload⟩ packets }
  | _, _ => none

/-- One step. -/
def step (format : AudioFormat) (self : AudioProducer) (event : AudioProducerEvent) :
    Option AudioProducer :=
  match self.phase, event with
  | .opening, .opened => some { self with phase := .attempt 1 }
  | .opening, .stopped => some { self with phase := .ended }
  | .attempt n, .checked stop => some { self with phase := if stop then .ended else .starting n }
  | .starting _, .noDevice => some { self with phase := .ended }
  | .starting n, .started => some { self with phase := .reading n .new }
  | .starting n, .failed => some (self.afterAttempt n)
  | .reading n reader, event => self.select n reader event
  | .forwarding n reader packets, event => forward format self n reader packets event
  | .locking n reader packet packets, .locked =>
    some { self with phase := .writing n reader packet packets }
  | .locking n reader _ packets, .lockTimeout => some (self.drop n reader packets)
  | .writing n reader packet packets, .written =>
    some { self with
      phase := .forwarding n reader packets
      seq := self.seq + 1
      metrics := { self.metrics with sent := self.metrics.sent + 1 }
      wire := self.wire ++ [packet] }
  | .writing _ _ _ _, .writeFailed => some { self with phase := .ended }
  | .backoff _, .stopped => some { self with phase := .ended }
  | .backoff n, .slept => some { self with phase := .attempt (n + 1) }
  | _, _ => none

variable {format : AudioFormat} {s t : AudioProducer} {event : AudioProducerEvent}

/-! ## What a step does to the books -/

/-- The step is no failed write. -/
def Writes (_ : AudioProducer) (event : AudioProducerEvent) : Prop := event ≠ .writeFailed

/-- The four things a step can do. -/
inductive Effect (s t : AudioProducer) : Prop
  /-- the books stay as they are -/
  | moves (seq : t.seq = s.seq) (metrics : t.metrics = s.metrics) (wire : t.wire = s.wire)
      (returned : t.returned = s.returned) (pending : t.phase.pending = s.phase.pending)
      (packet : ∀ packet, t.phase.packet = some packet → packet.seq = s.seq ∨
        s.phase.packet = some packet)
  /-- a read, trimmed to its freshest packets -/
  | reads (packets : List (List UInt8)) (stale : ℕ) (le : stale ≤ packets.length)
      (seq : t.seq = s.seq) (metrics : t.metrics = ⟨s.metrics.sent, s.metrics.dropped + stale⟩)
      (wire : t.wire = s.wire) (returned : t.returned = s.returned ++ packets)
      (before : s.phase.pending = []) (pending : t.phase.pending = packets.drop stale)
      (packet : t.phase.packet = none)
  /-- a packet is dropped -/
  | drops (payload : List UInt8) (seq : t.seq = s.seq)
      (metrics : t.metrics = ⟨s.metrics.sent, s.metrics.dropped + 1⟩) (wire : t.wire = s.wire)
      (returned : t.returned = s.returned) (pending : s.phase.pending = payload :: t.phase.pending)
      (packet : t.phase.packet = none)
  /-- an envelope is written -/
  | writes (envelope : AudioPacket) (before : s.phase.packet = some envelope) (seq : t.seq = s.seq + 1)
      (metrics : t.metrics = ⟨s.metrics.sent + 1, s.metrics.dropped⟩)
      (wire : t.wire = s.wire ++ [envelope]) (returned : t.returned = s.returned)
      (pending : s.phase.pending = envelope.payload :: t.phase.pending)
      (packet : t.phase.packet = none)

/-- To a phase without packets. -/
theorem moves_to {phase : AudioProducerPhase} (hbefore : s.phase.pending = [])
    (hpending : phase.pending = []) (hpacket : phase.packet = none) :
    Effect s { s with phase } := by
  refine .moves rfl rfl rfl rfl (hpending.trans hbefore.symm) ?_
  intro packet h
  rw [hpacket] at h
  cases h

theorem afterAttempt_effect {n : ℕ} (hbefore : s.phase.pending = []) :
    Effect s (s.afterAttempt n) := by
  unfold afterAttempt
  split
  · exact moves_to hbefore rfl rfl
  · exact moves_to hbefore rfl rfl

theorem select_effect {n : ℕ} {reader : RtpStreamReader} (hphase : s.phase = .reading n reader)
    (hs : s.select n reader event = some t) : Effect s t := by
  have hbefore : s.phase.pending = [] := by rw [hphase]; rfl
  unfold select at hs
  split at hs
  · cases hs
    exact moves_to hbefore rfl rfl
  · cases hs
    exact afterAttempt_effect hbefore
  · split at hs
    · cases hs
      exact afterAttempt_effect hbefore
    · split at hs
      · obtain ⟨⟨result, reader'⟩, -, rfl⟩ := Option.map_eq_some_iff.mp hs
        cases result with
        | error error => exact afterAttempt_effect hbefore
        | ok packets =>
          exact .reads packets (stalePacketCount packets.length maxPacketsPerBatch) (Nat.sub_le _ _)
            rfl rfl rfl rfl hbefore rfl rfl
      · cases hs
  · cases hs

theorem forward_effect {n : ℕ} {reader : RtpStreamReader} {packets : List (List UInt8)}
    (hphase : s.phase = .forwarding n reader packets)
    (hs : forward format s n reader packets event = some t) : Effect s t := by
  unfold forward at hs
  split at hs
  · cases hs
    refine moves_to ?_ rfl rfl
    rw [hphase]
    rfl
  · next payload packets muted handshakeSent nowMillis =>
    split at hs
    · cases hs
      refine .drops payload rfl rfl rfl rfl ?_ rfl
      rw [hphase]
      rfl
    · cases hs
      refine .moves rfl rfl rfl rfl ?_ ?_
      · rw [hphase]
        rfl
      · intro packet h
        cases h
        exact Or.inl rfl
  · cases hs

/-- **Every step** other than a failed write has one of the four effects. -/
theorem step_effect (hok : Writes s event) (hs : step format s event = some t) : Effect s t := by
  unfold step at hs
  split at hs
  · next hphase =>
    cases hs
    exact moves_to (by rw [hphase]; rfl) rfl rfl
  · next hphase =>
    cases hs
    exact moves_to (by rw [hphase]; rfl) rfl rfl
  · next n stop hphase =>
    cases hs
    cases stop <;> exact moves_to (by rw [hphase]; rfl) rfl rfl
  · next n hphase =>
    cases hs
    exact moves_to (by rw [hphase]; rfl) rfl rfl
  · next n hphase =>
    cases hs
    exact moves_to (by rw [hphase]; rfl) rfl rfl
  · next n hphase =>
    cases hs
    exact afterAttempt_effect (by rw [hphase]; rfl)
  · next n reader event hphase => exact select_effect hphase hs
  · next n reader packets event hphase => exact forward_effect hphase hs
  · next n reader packet packets hphase =>
    cases hs
    refine .moves rfl rfl rfl rfl (by rw [hphase]; rfl) ?_
    intro other h
    rw [hphase]
    exact Or.inr h
  · next n reader packet packets hphase =>
    cases hs
    exact .drops packet.payload rfl rfl rfl rfl (by rw [hphase]; rfl) rfl
  · next n reader packet packets hphase =>
    cases hs
    exact .writes packet (by rw [hphase]; rfl) rfl rfl rfl rfl (by rw [hphase]; rfl) rfl
  · exact absurd rfl hok
  · next n hphase =>
    cases hs
    exact moves_to (by rw [hphase]; rfl) rfl rfl
  · next n hphase =>
    cases hs
    exact moves_to (by rw [hphase]; rfl) rfl rfl
  · cases hs

/-! ## The books -/

/-- The books agree with the packets: `processed` are those returned and not pending. -/
structure Accounted (s : AudioProducer) (processed : List (List UInt8)) : Prop where
  seq : s.seq = s.wire.length
  sent : s.metrics.sent = s.wire.length
  numbered : ∀ (k : ℕ) (packet : AudioPacket), s.wire[k]? = some packet → packet.seq = k
  next : ∀ packet, s.phase.packet = some packet → packet.seq = s.seq
  returned : s.returned = processed ++ s.phase.pending
  order : (s.wire.map AudioPacket.payload).Sublist processed
  counted : s.metrics.sent + s.metrics.dropped = processed.length

theorem accounted_start : Accounted start [] := by
  constructor
  · rfl
  · rfl
  · intro k packet h
    simp [start] at h
  · intro packet h
    cases h
  · rfl
  · exact List.Sublist.refl _
  · rfl

/-- Packets that are thrown away are processed, and counted as dropped. -/
theorem Accounted.discards {processed thrown : List (List UInt8)} (h : Accounted s processed)
    (seq : t.seq = s.seq) (metrics : t.metrics = ⟨s.metrics.sent, s.metrics.dropped + thrown.length⟩)
    (wire : t.wire = s.wire) (returned : t.returned = processed ++ thrown ++ t.phase.pending)
    (packet : t.phase.packet = none) : Accounted t (processed ++ thrown) := by
  have hcounted := h.counted
  constructor
  · rw [seq, wire, h.seq]
  · rw [metrics, wire, h.sent]
  · rw [wire]
    exact h.numbered
  · intro other hother
    rw [packet] at hother
    cases hother
  · exact returned
  · rw [wire]
    exact h.order.trans (List.sublist_append_left _ _)
  · rw [metrics, List.length_append]
    show s.metrics.sent + (s.metrics.dropped + thrown.length) = processed.length + thrown.length
    omega

/-- The envelope at hand is written. -/
theorem Accounted.writes {processed : List (List UInt8)} {envelope : AudioPacket}
    (h : Accounted s processed) (before : s.phase.packet = some envelope) (seq : t.seq = s.seq + 1)
    (metrics : t.metrics = ⟨s.metrics.sent + 1, s.metrics.dropped⟩)
    (wire : t.wire = s.wire ++ [envelope])
    (returned : t.returned = processed ++ [envelope.payload] ++ t.phase.pending)
    (packet : t.phase.packet = none) : Accounted t (processed ++ [envelope.payload]) := by
  have hcounted := h.counted
  constructor
  · rw [seq, wire, h.seq, List.length_append, List.length_singleton]
  · rw [metrics, wire, List.length_append, List.length_singleton, ← h.sent]
  · intro k other hother
    rw [wire] at hother
    by_cases hk : k < s.wire.length
    · rw [List.getElem?_append_left hk] at hother
      exact h.numbered k other hother
    · rw [List.getElem?_append_right (by omega), List.getElem?_singleton] at hother
      split at hother
      · cases hother
        rw [h.next envelope before, h.seq]
        omega
      · cases hother
  · intro other hother
    rw [packet] at hother
    cases hother
  · exact returned
  · rw [wire, List.map_append, List.map_singleton]
    exact h.order.append (List.Sublist.refl _)
  · rw [metrics, List.length_append, List.length_singleton]
    show s.metrics.sent + 1 + s.metrics.dropped = processed.length + 1
    omega

theorem accounted_step {processed : List (List UInt8)} (h : Accounted s processed)
    (heffect : Effect s t) : ∃ processed', Accounted t processed' := by
  cases heffect with
  | moves seq metrics wire returned pending packet =>
    refine ⟨processed, ?_⟩
    constructor
    · rw [seq, wire, h.seq]
    · rw [metrics, wire, h.sent]
    · rw [wire]
      exact h.numbered
    · intro other hother
      rw [seq]
      exact (packet other hother).elim id (h.next other)
    · rw [returned, pending, h.returned]
    · rw [wire]
      exact h.order
    · rw [metrics, h.counted]
  | reads packets stale le seq metrics wire returned before pending packet =>
    refine ⟨processed ++ packets.take stale, h.discards seq ?_ wire ?_ packet⟩
    · rw [metrics, List.length_take, Nat.min_eq_left le]
    · have hbefore := h.returned
      rw [before, List.append_nil] at hbefore
      rw [returned, pending, hbefore, List.append_assoc, List.take_append_drop]
  | drops payload seq metrics wire returned pending packet =>
    refine ⟨processed ++ [payload], h.discards seq metrics wire ?_ packet⟩
    rw [returned, h.returned, pending, List.append_assoc, List.singleton_append]
  | writes envelope before seq metrics wire returned pending packet =>
    refine ⟨processed ++ [envelope.payload], h.writes before seq metrics wire ?_ packet⟩
    rw [returned, h.returned, pending, List.append_assoc, List.singleton_append]

/-- **The packets are accounted for** in every run up to the first write error: the envelopes are numbered
from zero, their payloads are a subsequence of the packets returned, every envelope counts as sent, and
every other packet that was processed as dropped. -/
theorem packets_accounted {events : List AudioProducerEvent}
    (hrun : Runs (step format) Writes start events s) :
    (∀ (k : ℕ) (packet : AudioPacket), s.wire[k]? = some packet → packet.seq = k) ∧
      (s.wire.map AudioPacket.payload).Sublist s.returned ∧
      s.metrics.sent = s.wire.length ∧
      ∃ processed, s.returned = processed ++ s.phase.pending ∧
        s.metrics.sent + s.metrics.dropped = processed.length := by
  have hbooks : ∃ processed, Accounted s processed := by
    refine hrun.inv (I := fun s => ∃ processed, Accounted s processed) ?_ ⟨[], accounted_start⟩
    rintro s event t ⟨processed, h⟩ hok hs
    exact accounted_step h (step_effect hok hs)
  obtain ⟨processed, h⟩ := hbooks
  refine ⟨h.numbered, ?_, h.sent, processed, h.returned, h.counted⟩
  rw [h.returned]
  exact h.order.trans (List.sublist_append_left _ _)

/-- The frame of an RTP packet with one byte of payload. -/
def demoFrame (payload : UInt8) : List UInt8 :=
  [0, 13, 0x80, 0xe0, 0, 1, 0, 0, 0, 0, 1, 2, 3, 4, payload]

/-- A packet is sent and one dropped for the mute; the pipeline ends; of the next one a packet waits too
long for the socket and one is sent. -/
def demoPackets : List AudioProducerEvent :=
  [.opened, .checked false, .started, .read (demoFrame 1 ++ demoFrame 2), .looked false true 5, .locked,
    .written, .looked true true 6, .drained, .read [], .slept, .checked false, .started,
    .read (demoFrame 3), .looked false true 7, .lockTimeout, .drained, .read (demoFrame 4),
    .looked false true 8, .locked, .written]

theorem accounted_demo : ∃ s, run (step (audioFormat 20)) start demoPackets = some s ∧
    s.metrics = ⟨2, 2⟩ ∧ s.wire.map AudioPacket.payload = [[1], [4]] ∧
    (∀ (k : ℕ) (packet : AudioPacket), s.wire[k]? = some packet → packet.seq = k) ∧
      (s.wire.map AudioPacket.payload).Sublist s.returned ∧
      s.metrics.sent = s.wire.length ∧
      ∃ processed, s.returned = processed ++ s.phase.pending ∧
        s.metrics.sent + s.metrics.dropped = processed.length := by
  have hbooks : (run (step (audioFormat 20)) start demoPackets).map
      (fun s => (s.metrics, s.wire.map AudioPacket.payload)) = some (⟨2, 2⟩, [[1], [4]]) := by
    decide +kernel
  obtain ⟨s, hs, hs'⟩ := Option.map_eq_some_iff.mp hbooks
  obtain ⟨hmetrics, hwire⟩ := Prod.mk.inj hs'
  refine ⟨s, hs, hmetrics, hwire, packets_accounted (runs_of_run demoPackets hs ?_)⟩
  have hnone : ∀ event ∈ demoPackets, event ≠ .writeFailed := by decide
  exact meets_of_mem (fun event hevent _ => hnone event hevent) start

end AudioProducer

end Waypad
