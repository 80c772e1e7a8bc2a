import Waypad.Lib.Trans
import Waypad.Screen.JpegStream

/-!
# Waypad.Screen.JpegPump — `pump_jpeg_stream` and the deadline of its frames (`src/screen.rs`)

The runs are those of `VideoTask.videoStep` in which the pipe goes on, nobody stops the stream and the
connection does not fail; a frame may miss its deadline, with any number of its bytes taken.

* `Forwards`: what the client should have of the pictures that were read.
* `Pumping`, `pumping_step`: what every step keeps that is no missed deadline.
* `Stopped`, `stopped_missed`: what a missed deadline leaves.
* `forwards_iff`: the pictures are forwarded if and only if no frame missed its deadline.
-/

namespace Waypad

open Trans

namespace JpegStreamReader

/-- The reader after some calls. -/
def fed : JpegStreamReader → List (List UInt8) → JpegStreamReader
  | self, [] => self
  | self, chunk :: chunks => fed (self.push chunk).2 chunks

theorem fed_concat (self : JpegStreamReader) (chunks : List (List UInt8)) (chunk : List UInt8) :
    self.fed (chunks ++ [chunk]) = ((self.fed chunks).push chunk).2 := by
  induction chunks generalizing self with
  | nil => rfl
  | cons first chunks ih => exact ih (self.push first).2

theorem pushes_concat (self : JpegStreamReader) (chunks : List (List UInt8)) (chunk : List UInt8) :
    self.pushes (chunks ++ [chunk]) = self.pushes chunks ++ ((self.fed chunks).push chunk).1 := by
  induction chunks generalizing self with
  | nil => simp [pushes, fed]
  | cons first chunks ih => simp only [List.cons_append, pushes, fed, ih, List.append_assoc]

end JpegStreamReader

/-! ## What a run reads and writes -/

/-- The bytes a read returns. -/
def VideoEvent.chunk : VideoEvent → Option (List UInt8)
  | .read chunk => some chunk
  | _ => none

/-- A write that takes too long: `timeout` gives up, and the error is not one of the socket. -/
def VideoEvent.Missed : VideoEvent → Prop
  | .wrote _ (.fails _ .other) => True
  | _ => False

/-- The picture of a call. -/
def VideoSend.picture : VideoSend → Option (List UInt8)
  | .jpeg picture => some picture
  | _ => none

/-- The picture of a write. -/
def StreamWrite.picture (self : StreamWrite) : Option (List UInt8) :=
  match self.item with
  | .video (.jpeg frame) => some frame.payload
  | _ => none

/-- The reader of `pump_jpeg_stream` and the calls it has still to make, while it runs. -/
def VideoPhase.jpegPump : VideoPhase → Option (JpegStreamReader × List VideoSend)
  | .pumping (.jpeg _ reader) => some (reader, [])
  | .sending (.jpeg _ reader) sends => some (reader, sends)
  | .writingLine (.jpeg _ reader) _ sends => some (reader, sends)
  | .storing (.jpeg _ reader) sends => some (reader, sends)
  | _ => none

namespace VideoTask

variable {setup : VideoSetup} {start s t : VideoTask} {events : List VideoEvent} {event : VideoEvent}

/-- The steps of a pump that is not stopped, whose pipe goes on and whose connection does not fail: a
write completes, or it is that of a frame and misses the deadline. -/
def PumpingOn (self : VideoTask) : VideoEvent → Prop
  | .read chunk => chunk ≠ []
  | .checked | .stored | .drained _ | .wrote _ .completes => True
  | .wrote _ (.fails _ .other) =>
    ∃ capture picture sends, self.phase = .sending capture (.jpeg picture :: sends)
  | _ => False

/-- The pump goes on; a frame that was not written to the end has no byte on the wire; the frames and the
pictures still to be sent are those that were read, in order. -/
def Forwards (start self : VideoTask) (events : List VideoEvent) : Prop :=
  ∃ written reader sends, self.socket.log = start.socket.log ++ written ∧
    self.phase.jpegPump = some (reader, sends) ∧
    (∀ write ∈ written, write.result ≠ .completes → write.bytes = []) ∧
    written.filterMap StreamWrite.picture ++ sends.filterMap VideoSend.picture =
      JpegStreamReader.new.pushes (events.filterMap VideoEvent.chunk)

/-! ## Steps -/

/-- The pump after steps none of which missed a deadline. -/
structure Pumping (start s : VideoTask) (events : List VideoEvent) (written : List StreamWrite)
    (sends : List VideoSend) : Prop where
  log : s.socket.log = start.socket.log ++ written
  phase : s.phase.jpegPump =
    some (JpegStreamReader.new.fed (events.filterMap VideoEvent.chunk), sends)
  complete : ∀ write ∈ written, write.result = .completes
  pictures : written.filterMap StreamWrite.picture ++ sends.filterMap VideoSend.picture =
    JpegStreamReader.new.pushes (events.filterMap VideoEvent.chunk)

/-- A missed deadline has ended the stream, or the portal's has been given up for grim. -/
def Stopped (self : VideoTask) : Prop :=
  (∃ result, self.phase = .ended result) ∨ ∃ seq, self.phase = .pumping (.grim seq)

theorem picture_sends (pictures : List (List UInt8)) :
    (pictures.flatMap pictureSends).filterMap VideoSend.picture = pictures := by
  induction pictures with
  | nil => rfl
  | cons picture pictures ih =>
    rw [List.flatMap_cons, List.filterMap_append, ih]
    rfl

/-- The phase is that of a JPEG pump. -/
theorem jpegPump_cases {phase : VideoPhase} {reader : JpegStreamReader} {sends : List VideoSend}
    (h : phase.jpegPump = some (reader, sends)) :
    ∃ portal, (phase = .pumping (.jpeg portal reader) ∧ sends = []) ∨
      phase = .sending (.jpeg portal reader) sends ∨
      (∃ magic, phase = .writingLine (.jpeg portal reader) magic sends) ∨
      phase = .storing (.jpeg portal reader) sends := by
  unfold VideoPhase.jpegPump at h
  split at h
  · next portal reader' =>
    cases h
    exact ⟨portal, Or.inl ⟨rfl, rfl⟩⟩
  · next portal reader' sends' =>
    cases h
    exact ⟨portal, Or.inr (Or.inl rfl)⟩
  · next portal reader' magic sends' =>
    cases h
    exact ⟨portal, Or.inr (Or.inr (Or.inl ⟨magic, rfl⟩))⟩
  · next portal reader' sends' =>
    cases h
    exact ⟨portal, Or.inr (Or.inr (Or.inr rfl))⟩
  · cases h

/-- The envelope of a call carries its picture. -/
theorem envelope_picture {capture : Capture} {counters : StreamCounters} {nowMillis : ℕ}
    {call : VideoSend} {envelope : VideoEnvelope} {result : WriteResult}
    (h : setup.envelope capture counters nowMillis call = some envelope) :
    StreamWrite.picture ⟨.video envelope, result⟩ = call.picture := by
  cases call with
  | magic magic => cases h
  | h264 payload keyFrame config =>
    cases h
    rfl
  | jpeg picture =>
    rw [VideoSetup.envelope] at h
    split at h <;> cases h <;> rfl

section Steps

variable {written : List StreamWrite} {sends : List VideoSend} {portal : Bool}
  {reader : JpegStreamReader}

/-- The same log, and nothing read. -/
theorem Pumping.moves {after : List VideoSend} (h : Pumping start s events written sends)
    (hlog : t.socket.log = s.socket.log) (hchunk : event.chunk = none)
    (hphase : t.phase.jpegPump =
      some (JpegStreamReader.new.fed (events.filterMap VideoEvent.chunk), after))
    (hafter : after.filterMap VideoSend.picture = sends.filterMap VideoSend.picture) :
    Pumping start t (events ++ [event]) written after := by
  have hread : (events ++ [event]).filterMap VideoEvent.chunk = events.filterMap VideoEvent.chunk := by
    simp [hchunk]
  constructor
  · rw [hlog, h.log]
  · rw [hread, hphase]
  · exact h.complete
  · rw [hread, hafter, h.pictures]

/-- A write that completes. -/
theorem Pumping.writes {write : StreamWrite} {after : List VideoSend}
    (h : Pumping start s events written sends) (hlog : t.socket.log = s.socket.log ++ [write])
    (hresult : write.result = .completes) (hchunk : event.chunk = none)
    (hphase : t.phase.jpegPump =
      some (JpegStreamReader.new.fed (events.filterMap VideoEvent.chunk), after))
    (hafter : write.picture.toList ++ after.filterMap VideoSend.picture =
      sends.filterMap VideoSend.picture) :
    Pumping start t (events ++ [event]) (written ++ [write]) after := by
  have hread : (events ++ [event]).filterMap VideoEvent.chunk = events.filterMap VideoEvent.chunk := by
    simp [hchunk]
  constructor
  · rw [hlog, h.log, List.append_assoc]
  · rw [hread, hphase]
  · intro w hw
    rcases List.mem_append.mp hw with hw | hw
    · exact h.complete w hw
    · rw [List.mem_singleton.mp hw]
      exact hresult
  · have hone : [write].filterMap StreamWrite.picture = write.picture.toList := by
      cases hpicture : write.picture <;> simp [hpicture]
    rw [hread, List.filterMap_append, List.append_assoc, hone, hafter, h.pictures]

/-- The `select!` of the pump. -/
theorem pumping_select (h : Pumping start s events written sends)
    (hphase : s.phase = .pumping (.jpeg portal reader)) (hnone : sends = []) (hok : PumpingOn s event)
    (hs : s.videoStep setup event = some t) :
    ∃ written sends, Pumping start t (events ++ [event]) written sends := by
  have hreader : reader = JpegStreamReader.new.fed (events.filterMap VideoEvent.chunk) := by
    have hpump := h.phase
    rw [hphase] at hpump
    cases hpump
    rfl
  unfold videoStep at hs
  rw [hphase] at hs
  cases event with
  | read chunk =>
    have hne : chunk ≠ [] := hok
    simp only [select, selectJpeg, if_neg hne, reduceCtorEq, ↓reduceIte] at hs
    split at hs
    · cases hs
      have hread : (events ++ [VideoEvent.read chunk]).filterMap VideoEvent.chunk =
          events.filterMap VideoEvent.chunk ++ [chunk] := by
        rw [List.filterMap_append]
        rfl
      have hpictures := h.pictures
      rw [hnone, List.filterMap_nil, List.append_nil] at hpictures
      refine ⟨written, (reader.push chunk).1.flatMap pictureSends, ?_⟩
      constructor
      · exact h.log
      · rw [hread, JpegStreamReader.fed_concat, ← hreader]
        rfl
      · exact h.complete
      · rw [hread, JpegStreamReader.pushes_concat, ← hreader, picture_sends, hpictures]
    · cases hs
  | stop | readFailed error => exact hok.elim
  | _ => simp [select, selectJpeg] at hs

/-- The loop over the pictures. -/
theorem pumping_send (h : Pumping start s events written sends)
    (hphase : s.phase = .sending (.jpeg portal reader) sends) (hok : PumpingOn s event)
    (hnot : ¬ event.Missed) (hs : s.videoStep setup event = some t) :
    ∃ written sends, Pumping start t (events ++ [event]) written sends := by
  have hreader : reader = JpegStreamReader.new.fed (events.filterMap VideoEvent.chunk) := by
    have hpump := h.phase
    rw [hphase] at hpump
    cases hpump
    rfl
  unfold videoStep at hs
  rw [hphase] at hs
  simp only [send] at hs
  split at hs
  · next early =>
    cases hs
    exact ⟨written, [], h.moves rfl rfl (by rw [← hreader]; rfl) rfl⟩
  · next magic rest =>
    split at hs
    · cases hs
      exact ⟨written, rest, h.moves rfl rfl (by rw [← hreader]; rfl) rfl⟩
    · cases hs
      exact ⟨written, rest, h.moves rfl rfl (by rw [← hreader]; rfl) rfl⟩
  · next _ _ call rest nowMillis result =>
    obtain ⟨envelope, henvelope, rfl⟩ := Option.map_eq_some_iff.mp hs
    -- a write that does not miss and is no fault of the client completes
    have hresult : result = .completes := by
      match result, hok, hnot with
      | .completes, _, _ => rfl
      | .fails _ .other, _, hnot => exact absurd trivial hnot
    rw [if_pos hresult]
    refine ⟨written ++ [⟨.video envelope, result⟩], rest, h.writes rfl hresult rfl ?_ ?_⟩
    · rw [← hreader]
      rfl
    · rw [envelope_picture henvelope]
      cases hpicture : call.picture <;> simp [hpicture]
  · cases hs

/-- **A step that misses no deadline** keeps the pump going. -/
theorem pumping_step (h : Pumping start s events written sends) (hok : PumpingOn s event)
    (hnot : ¬ event.Missed) (hs : s.videoStep setup event = some t) :
    ∃ written sends, Pumping start t (events ++ [event]) written sends := by
  obtain ⟨portal, hcase⟩ := jpegPump_cases h.phase
  rcases hcase with ⟨hphase, hnone⟩ | hphase | ⟨magic, hphase⟩ | hphase
  · exact pumping_select h hphase hnone hok hs
  · exact pumping_send h hphase hok hnot hs
  · simp only [videoStep, hphase, writeLine] at hs
    split at hs
    · next nowMillis result =>
      have hresult : result = .completes := by
        match result, hok, hnot with
        | .completes, _, _ => rfl
        | .fails _ .other, _, hnot => exact absurd trivial hnot
      rw [if_pos hresult] at hs
      cases hs
      exact ⟨written ++ [⟨.line magic, result⟩], sends, h.writes rfl hresult rfl rfl rfl⟩
    · cases hs
  · simp only [videoStep, hphase, store] at hs
    split at hs
    · cases hs
      exact ⟨written, sends, h.moves rfl rfl rfl rfl⟩
    · cases hs

/-- **A missed deadline** ends the stream. -/
theorem stopped_missed (h : Pumping start s events written sends) (hok : PumpingOn s event)
    (hmissed : event.Missed) (hs : s.videoStep setup event = some t) : Stopped t := by
  match event, hmissed with
  | .wrote nowMillis (.fails taken .other), _ =>
    obtain ⟨capture, picture, rest, hphase⟩ := hok
    have hpump := h.phase
    rw [hphase] at hpump
    obtain ⟨portal, reader, rfl⟩ : ∃ portal reader, capture = .jpeg portal reader := by
      cases capture with
      | jpeg portal reader => exact ⟨portal, reader, rfl⟩
      | h264 pump => cases hpump
      | grim seq => cases hpump
    unfold videoStep at hs
    rw [hphase] at hs
    simp only [send] at hs
    obtain ⟨envelope, -, rfl⟩ := Option.map_eq_some_iff.mp hs
    rw [if_neg (by simp)]
    -- a portal stream may go over to grim
    cases portal with
    | false => exact Or.inl ⟨_, rfl⟩
    | true =>
      unfold cutOff pumped Capture.backend finish
      simp only [↓reduceIte]
      split
      · exact Or.inl ⟨_, rfl⟩
      · exact Or.inr ⟨0, rfl⟩

end Steps

/-- Then the pump takes no step. -/
theorem stopped_step (h : Stopped s) (hok : PumpingOn s event) : s.videoStep setup event = none := by
  unfold videoStep
  rcases h with ⟨result, hphase⟩ | ⟨seq, hphase⟩
  · rw [hphase]
  · rw [hphase]
    cases event with
    | stop | captured picture | captureFailed error => exact hok.elim
    | _ => simp [select, selectGrim]

theorem stopped_pump (h : Stopped s) : s.phase.jpegPump = none := by
  rcases h with ⟨result, hphase⟩ | ⟨seq, hphase⟩ <;> rw [hphase] <;> rfl

/-! ## Runs -/

/-- A run keeps the pump going, or ends with a missed deadline. -/
theorem pumping_runs {portal : Bool} (hstart : start.phase = .pumping (.jpeg portal .new))
    (hrun : Runs (videoStep setup) PumpingOn start events t) :
    (∃ written sends, Pumping start t events written sends) ∧ (∀ event ∈ events, ¬ event.Missed) ∨
      Stopped t ∧ ∃ event ∈ events, event.Missed := by
  induction hrun with
  | nil =>
    refine Or.inl ⟨⟨[], [], ?_⟩, by simp⟩
    constructor
    · rw [List.append_nil]
    · rw [hstart]
      rfl
    · intro write hwrite
      cases hwrite
    · rfl
  | snoc hrun hok hs ih =>
    next event =>
    rcases ih with ⟨⟨written, sends, hpump⟩, hall⟩ | ⟨hstopped, -⟩
    · -- the pump goes on until a write is missed
      by_cases hmissed : event.Missed
      · exact Or.inr ⟨stopped_missed hpump hok hmissed hs, event, by simp, hmissed⟩
      · refine Or.inl ⟨pumping_step hpump hok hmissed hs, ?_⟩
        intro e he
        rcases List.mem_append.mp he with he | he
        · exact hall e he
        · rw [List.mem_singleton.mp he]
          exact hmissed
    · rw [stopped_step hstopped hok] at hs
      cases hs

/-- **The pictures are forwarded**, whatever was read, if and only if no frame missed its deadline. -/
theorem forwards_iff {portal : Bool} (hstart : start.phase = .pumping (.jpeg portal .new))
    (hrun : Runs (videoStep setup) PumpingOn start events t) :
    Forwards start t events ↔ ∀ event ∈ events, ¬ event.Missed := by
  rcases pumping_runs hstart hrun with ⟨⟨written, sends, hpump⟩, hall⟩ | ⟨hstopped, event, hmem, hmissed⟩
  · refine ⟨fun _ => hall, fun _ => ?_⟩
    refine ⟨written, _, sends, hpump.log, hpump.phase, ?_, hpump.pictures⟩
    intro write hwrite hne
    exact absurd (hpump.complete write hwrite) hne
  · constructor
    · rintro ⟨written, reader, sends, -, hphase, -⟩
      rw [stopped_pump hstopped] at hphase
      cases hphase
    · intro hall
      exact absurd hmissed (hall event hmem)

/-! ## Two pictures -/

def demoX11 : VideoSetup :=
  { backend := "x11-ffmpeg", width := 2, height := 2, encoding := .jpeg, geometry := ⟨2, 2, 2, 2⟩ }

/-- The pump as `run_x11_stream` calls it. -/
def demoX11Pump : VideoTask :=
  { phase := .pumping (.jpeg false .new), counters := ⟨0, 0⟩, socket := .new, stopTaken := false
    audio := [], history := [.started .x11] }

/-- A read of two pictures and the handshake. -/
def demoRead : List VideoEvent :=
  [.read [0xff, 0xd8, 1, 0xff, 0xd9, 0xff, 0xd8, 2, 0xff, 0xd9], .checked, .wrote 0 .completes, .stored]

/-- Both frames meet the deadline. -/
def demoMet : List VideoEvent :=
  demoRead ++ [.wrote 1 .completes, .checked, .wrote 2 .completes, .drained false]

/-- The first frame misses it with three bytes on the wire. -/
def demoMissed : List VideoEvent := demoRead ++ [.wrote 1 (.fails 3 .other)]

theorem forwards_demo : ∃ t, run (videoStep demoX11) demoX11Pump demoMet = some t ∧
    (Forwards demoX11Pump t demoMet ↔ ∀ event ∈ demoMet, ¬ event.Missed) := by
  refine ⟨_, rfl, forwards_iff rfl (runs_of_run demoMet rfl ?_)⟩
  refine ⟨by simp [PumpingOn], trivial, trivial, trivial, trivial, trivial, trivial, trivial, trivial⟩

/-- **A missed deadline ends the stream**, with three bytes of a frame behind the handshake line. -/
theorem missed_ends : ∃ t, Runs (videoStep demoX11) PumpingOn demoX11Pump demoMissed t ∧
    t.phase = .ended (.error .other) ∧ t.socket.bytes.length = StreamMagic.v1.line.length + 3 ∧
    ¬ Forwards demoX11Pump t demoMissed := by
  obtain ⟨t, ht, hended, hlength⟩ : ∃ t, run (videoStep demoX11) demoX11Pump demoMissed = some t ∧
      t.phase = .ended (.error .other) ∧ t.socket.bytes.length = StreamMagic.v1.line.length + 3 :=
    ⟨_, rfl, rfl, by decide⟩
  refine ⟨t, runs_of_run demoMissed ht ?_, hended, hlength, ?_⟩
  · exact ⟨by simp [PumpingOn], trivial, trivial, trivial, ⟨_, _, _, rfl⟩, trivial⟩
  · rintro ⟨written, reader, sends, -, hphase, -⟩
    rw [hended] at hphase
    cases hphase

end VideoTask

end Waypad
