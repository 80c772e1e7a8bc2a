import Waypad.Lib.Framing
import Waypad.Lib.Utf8
import Waypad.Screen.Producer
import Waypad.Screen.Socket

/-!
# Waypad.Screen.StreamReader — what the bytes of a stream say (`src/screen.rs`, `src/audio.rs`)

The other side of the stream socket: the handshake line names the codec, and two lengths in front of every
envelope say where it ends.  Nothing in a header or a payload is looked at to find that out.

* `Envelope.read`, `readStream`: an envelope, and the stream.
* `StreamFrame`: the frames of both producers; `envelope_injective`: a header says which frame it belongs to.
* `stream_read`: what is read of a stream at any moment.
-/

namespace Waypad

/-! ## Envelopes -/

namespace Envelope

/-- The header and the payload after two lengths, as soon as all of it is there. -/
def read (l : List UInt8) : Option (Envelope × List UInt8) :=
  let headerLen := BigEndian.value (l.take 4)
  let payloadLen := BigEndian.value ((l.drop 4).take 4)
  if 8 + headerLen + payloadLen ≤ l.length then
    some (⟨(l.drop 8).take headerLen, (l.drop (8 + headerLen)).take payloadLen⟩,
      l.drop (8 + headerLen + payloadLen))
  else none

/-- The lengths have 32 bits. -/
def Fits (self : Envelope) : Prop := self.header.length < 256 ^ 4 ∧ self.payload.length < 256 ^ 4

instance (self : Envelope) : Decidable self.Fits :=
  inferInstanceAs (Decidable (self.header.length < 256 ^ 4 ∧ self.payload.length < 256 ^ 4))

theorem read_bytes (self : Envelope) (rest : List UInt8) (h : self.Fits) :
    read (self.bytes ++ rest) = some (self, rest) := by
  have hlens : self.bytes ++ rest = BigEndian.bytes 4 self.header.length ++
      (BigEndian.bytes 4 self.payload.length ++ (self.header ++ (self.payload ++ rest))) := by
    simp only [bytes, frameEnvelope, List.append_assoc]
  have hbody : self.bytes ++ rest = (BigEndian.bytes 4 self.header.length ++
      BigEndian.bytes 4 self.payload.length) ++ (self.header ++ (self.payload ++ rest)) := by
    simp only [bytes, frameEnvelope, List.append_assoc]
  have hheader : BigEndian.value ((self.bytes ++ rest).take 4) = self.header.length := by
    rw [hlens, List.take_left' (BigEndian.bytes_length 4 _), BigEndian.value_bytes, Nat.mod_eq_of_lt h.1]
  have hpayload : BigEndian.value (((self.bytes ++ rest).drop 4).take 4) = self.payload.length := by
    rw [hlens, List.drop_left' (BigEndian.bytes_length 4 _), List.take_left' (BigEndian.bytes_length 4 _),
      BigEndian.value_bytes, Nat.mod_eq_of_lt h.2]
  have hdrop : (self.bytes ++ rest).drop 8 = self.header ++ (self.payload ++ rest) := by
    rw [hbody, List.drop_left' (by simp)]
  have hlength := self.bytes_length
  unfold read
  rw [hheader, hpayload]
  dsimp only
  rw [if_pos (by rw [List.length_append]; omega), ← List.drop_drop, hdrop, List.take_left, List.drop_left,
    List.take_left, List.drop_left' hlength]

theorem read_more (l : List UInt8) (self : Envelope) (rest more : List UInt8) (h : read l = some (self, rest)) :
    read (l ++ more) = some (self, rest ++ more) := by
  unfold read at h ⊢
  dsimp only at h ⊢
  split_ifs at h with hlen
  obtain ⟨rfl, rfl⟩ := Prod.mk.inj (Option.some.inj h)
  have hheader : (l ++ more).take 4 = l.take 4 := List.take_append_of_le_length (by omega)
  have hpayload : ((l ++ more).drop 4).take 4 = (l.drop 4).take 4 := by
    rw [List.drop_append_of_le_length (by omega), List.take_append_of_le_length (by simp; omega)]
  rw [hheader, hpayload, if_pos (by rw [List.length_append]; omega)]
  rw [List.drop_append_of_le_length (by omega), List.drop_append_of_le_length (by omega),
    List.drop_append_of_le_length (by omega), List.take_append_of_le_length (by simp; omega),
    List.take_append_of_le_length (by simp; omega)]

theorem read_shorter (l : List UInt8) (self : Envelope) (rest : List UInt8) (h : read l = some (self, rest)) :
    rest.length < l.length := by
  unfold read at h
  dsimp only at h
  split_ifs at h with hlen
  obtain ⟨-, rfl⟩ := Prod.mk.inj (Option.some.inj h)
  rw [List.length_drop]
  omega

/-- `frame_envelope` and its reader. -/
def format : Framing.Format UInt8 Envelope where
  bytes := bytes
  Fits := Fits
  read := read
  read_bytes := read_bytes
  read_more := read_more
  read_shorter := read_shorter

end Envelope

/-! ## Frames -/

/-- What the two producers send. -/
inductive StreamFrame
  | video (frame : VideoFrame)
  | jpeg (frame : JpegFrame)
  | audio (packet : AudioPacket)

theorem jsonNat_inj {m n : ℕ} (h : jsonNat m = jsonNat n) : m = n := by
  have hdigits := congrArg (fun digits => Nat.ofDigitChars 10 digits 0) h
  simpa only [jsonNat, Nat.ofDigitChars_ten_toDigits] using hdigits

theorem jsonNat_alphanum (n : ℕ) : ∀ c ∈ jsonNat n, c.isAlphanum = true := by
  intro c hc
  have hdigit : c.isDigit = true := Nat.isDigit_of_mem_toDigits (by decide) (by decide) hc
  unfold Char.isAlphanum
  rw [hdigit, Bool.or_true]

theorem jsonBool_inj {a b : Bool} (h : jsonBool a = jsonBool b) : a = b := by
  revert a b
  decide

theorem jsonBool_alphanum (b : Bool) : ∀ c ∈ jsonBool b, c.isAlphanum = true := by
  cases b
  · exact List.all_eq_true.mp rfl
  · exact List.all_eq_true.mp rfl

namespace VideoFrame

def parts : List (List Char) :=
  [",\"height\":".toList, ",\"key_frame\":".toList, ",\"seq\":".toList, ",\"source_height\":".toList,
    ",\"source_width\":".toList, ",\"timestamp_ms\":".toList, ",\"width\":".toList, "\x7d".toList]

theorem parts_stop : ∀ q ∈ parts, Framing.Stops Char.isAlphanum q := by decide

def holes (self : VideoFrame) : List (List Char) :=
  [jsonBool self.config, jsonNat self.geometry.height.toNat, jsonBool self.keyFrame, jsonNat self.seq,
    jsonNat self.geometry.sourceHeight.toNat, jsonNat self.geometry.sourceWidth.toNat, jsonNat self.timestampMs,
    jsonNat self.geometry.width.toNat]

theorem holes_length (self : VideoFrame) : self.holes.length = parts.length := rfl

theorem header_fill (self : VideoFrame) :
    self.header = Framing.fill ("\x7b\"codec\":\"h264\",\"config\":".toList :: parts) self.holes := by
  unfold header parts holes
  simp only [Framing.fill, List.append_assoc]

theorem holes_alphanum (self : VideoFrame) : ∀ hole ∈ self.holes, ∀ c ∈ hole, c.isAlphanum = true := by
  simp only [holes, List.forall_mem_cons]
  exact ⟨jsonBool_alphanum _, jsonNat_alphanum _, jsonBool_alphanum _, jsonNat_alphanum _, jsonNat_alphanum _,
    jsonNat_alphanum _, jsonNat_alphanum _, jsonNat_alphanum _, List.forall_mem_nil _⟩

theorem envelope_inj {a b : VideoFrame} (h : a.envelope = b.envelope) : a = b := by
  obtain ⟨hheader, hpayload⟩ := Envelope.mk.inj h
  have htext := Utf8.utf8_injective hheader
  rw [header_fill, header_fill] at htext
  have hholes := Framing.fill_inj parts_stop a.holes_length b.holes_length a.holes_alphanum b.holes_alphanum htext
  simp only [holes, List.cons.injEq, and_true] at hholes
  obtain ⟨hconfig, hheight, hkey, hseq, hsourceHeight, hsourceWidth, htime, hwidth⟩ := hholes
  obtain ⟨seq, time, ⟨width, height, sourceWidth, sourceHeight⟩, payload, key, config⟩ := a
  obtain ⟨seq', time', ⟨width', height', sourceWidth', sourceHeight'⟩, payload', key', config'⟩ := b
  obtain rfl : payload = payload' := hpayload
  obtain rfl := jsonBool_inj hconfig
  obtain rfl := jsonBool_inj hkey
  obtain rfl := jsonNat_inj hseq
  obtain rfl := jsonNat_inj htime
  obtain rfl := UInt32.toNat_inj.mp (jsonNat_inj hheight)
  obtain rfl := UInt32.toNat_inj.mp (jsonNat_inj hwidth)
  obtain rfl := UInt32.toNat_inj.mp (jsonNat_inj hsourceHeight)
  obtain rfl := UInt32.toNat_inj.mp (jsonNat_inj hsourceWidth)
  rfl

end VideoFrame

namespace JpegFrame

def parts : List (List Char) :=
  [",\"seq\":".toList, ",\"source_height\":".toList, ",\"source_width\":".toList, ",\"timestamp_ms\":".toList,
    ",\"width\":".toList, "\x7d".toList]

theorem parts_stop : ∀ q ∈ parts, Framing.Stops Char.isAlphanum q := by decide

def holes (self : JpegFrame) : List (List Char) :=
  [jsonNat self.height.toNat, jsonNat self.seq, jsonNat self.height.toNat, jsonNat self.width.toNat,
    jsonNat self.timestampMs, jsonNat self.width.toNat]

theorem holes_length (self : JpegFrame) : self.holes.length = parts.length := rfl

theorem header_fill (self : JpegFrame) :
    self.header = Framing.fill ("\x7b\"codec\":\"jpeg\",\"height\":".toList :: parts) self.holes := by
  unfold header parts holes
  simp only [Framing.fill, List.append_assoc]

theorem holes_alphanum (self : JpegFrame) : ∀ hole ∈ self.holes, ∀ c ∈ hole, c.isAlphanum = true := by
  simp only [holes, List.forall_mem_cons]
  exact ⟨jsonNat_alphanum _, jsonNat_alphanum _, jsonNat_alphanum _, jsonNat_alphanum _, jsonNat_alphanum _,
    jsonNat_alphanum _, List.forall_mem_nil _⟩

theorem envelope_inj {a b : JpegFrame} (h : a.envelope = b.envelope) : a = b := by
  obtain ⟨hheader, hpayload⟩ := Envelope.mk.inj h
  have htext := Utf8.utf8_injective hheader
  rw [header_fill, header_fill] at htext
  have hholes := Framing.fill_inj parts_stop a.holes_length b.holes_length a.holes_alphanum b.holes_alphanum htext
  simp only [holes, List.cons.injEq, and_true] at hholes
  obtain ⟨hheight, hseq, -, -, htime, hwidth⟩ := hholes
  obtain ⟨seq, time, width, height, payload⟩ := a
  obtain ⟨seq', time', width', height', payload'⟩ := b
  obtain rfl : payload = payload' := hpayload
  obtain rfl := jsonNat_inj hseq
  obtain rfl := jsonNat_inj htime
  obtain rfl := UInt32.toNat_inj.mp (jsonNat_inj hheight)
  obtain rfl := UInt32.toNat_inj.mp (jsonNat_inj hwidth)
  rfl

end JpegFrame

namespace AudioPacket

def parts : List (List Char) :=
  [",\"codec\":\"opus\",\"config\":".toList, ",\"frame_ms\":".toList, ",\"key_frame\":".toList,
    ",\"pre_skip\":".toList, ",\"sample_rate\":".toList, ",\"seq\":".toList, ",\"timestamp_ms\":".toList,
    "\x7d".toList]

theorem parts_stop : ∀ q ∈ parts, Framing.Stops Char.isAlphanum q := by decide

def holes (self : AudioPacket) : List (List Char) :=
  [jsonNat self.format.channels, jsonBool false, jsonNat self.format.frameMs, jsonBool false,
    jsonNat self.format.preSkip, jsonNat self.format.sampleRate, jsonNat self.seq, jsonNat self.timestampMs]

theorem holes_length (self : AudioPacket) : self.holes.length = parts.length := rfl

theorem header_fill (self : AudioPacket) :
    self.header = Framing.fill ("\x7b\"channels\":".toList :: parts) self.holes := by
  unfold header parts holes
  simp only [Framing.fill, List.append_assoc]

theorem holes_alphanum (self : AudioPacket) : ∀ hole ∈ self.holes, ∀ c ∈ hole, c.isAlphanum = true := by
  simp only [holes, List.forall_mem_cons]
  exact ⟨jsonNat_alphanum _, jsonBool_alphanum _, jsonNat_alphanum _, jsonBool_alphanum _, jsonNat_alphanum _,
    jsonNat_alphanum _, jsonNat_alphanum _, jsonNat_alphanum _, List.forall_mem_nil _⟩

theorem envelope_inj {a b : AudioPacket} (h : a.envelope = b.envelope) : a = b := by
  obtain ⟨hheader, hpayload⟩ := Envelope.mk.inj h
  have htext := Utf8.utf8_injective hheader
  rw [header_fill, header_fill] at htext
  have hholes := Framing.fill_inj parts_stop a.holes_length b.holes_length a.holes_alphanum b.holes_alphanum htext
  simp only [holes, List.cons.injEq, and_true] at hholes
  obtain ⟨hchannels, -, hframe, -, hskip, hrate, hseq, htime⟩ := hholes
  obtain ⟨seq, time, ⟨rate, channels, frame, skip⟩, payload⟩ := a
  obtain ⟨seq', time', ⟨rate', channels', frame', skip'⟩, payload'⟩ := b
  obtain rfl : payload = payload' := hpayload
  obtain rfl := jsonNat_inj hchannels
  obtain rfl := jsonNat_inj hframe
  obtain rfl := jsonNat_inj hskip
  obtain rfl := jsonNat_inj hrate
  obtain rfl := jsonNat_inj hseq
  obtain rfl := jsonNat_inj htime
  rfl

end AudioPacket

namespace StreamFrame

def envelope : StreamFrame → Envelope
  | video frame => frame.envelope
  | jpeg frame => frame.envelope
  | audio packet => packet.envelope

/-- The headers of the three differ in their first characters. -/
def start : StreamFrame → List Char
  | video _ => "\x7b\"codec\":\"h".toList
  | jpeg _ => "\x7b\"codec\":\"j".toList
  | audio _ => "\x7b\"channels\"".toList

theorem header_start (frame : StreamFrame) :
    ∃ text, frame.envelope.header = Text.utf8 text ∧ text.take 11 = frame.start := by
  cases frame with
  | video frame =>
    have hlen : 11 ≤ "\x7b\"codec\":\"h264\",\"config\":".toList.length := by decide
    refine ⟨frame.header, by simp only [envelope, VideoFrame.envelope], ?_⟩
    rw [frame.header_fill, Framing.fill_take hlen]
    rfl
  | jpeg frame =>
    have hlen : 11 ≤ "\x7b\"codec\":\"jpeg\",\"height\":".toList.length := by decide
    refine ⟨frame.header, by simp only [envelope, JpegFrame.envelope], ?_⟩
    rw [frame.header_fill, Framing.fill_take hlen]
    rfl
  | audio packet =>
    have hlen : 11 ≤ "\x7b\"channels\":".toList.length := by decide
    refine ⟨packet.header, by simp only [envelope, AudioPacket.envelope], ?_⟩
    rw [packet.header_fill, Framing.fill_take hlen]
    rfl

/-- **An envelope says which frame it belongs to.** -/
theorem envelope_injective : Function.Injective envelope := by
  intro a b h
  have hstart : a.start = b.start := by
    obtain ⟨text, htext, hhead⟩ := a.header_start
    obtain ⟨text', htext', hhead'⟩ := b.header_start
    rw [h, htext'] at htext
    rw [← hhead, ← hhead', Utf8.utf8_injective htext]
  have hvideo : "\x7b\"codec\":\"h".toList ≠ "\x7b\"codec\":\"j".toList := by decide
  have haudio : "\x7b\"codec\":\"h".toList ≠ "\x7b\"channels\"".toList := by decide
  have hjpeg : "\x7b\"codec\":\"j".toList ≠ "\x7b\"channels\"".toList := by decide
  -- the first characters of the header tell the three kinds apart
  cases a with
  | video frame =>
    cases b with
    | video frame' => rw [VideoFrame.envelope_inj h]
    | jpeg frame' => exact absurd hstart hvideo
    | audio packet' => exact absurd hstart haudio
  | jpeg frame =>
    cases b with
    | video frame' => exact absurd hstart.symm hvideo
    | jpeg frame' => rw [JpegFrame.envelope_inj h]
    | audio packet' => exact absurd hstart hjpeg
  | audio packet =>
    cases b with
    | video frame' => exact absurd hstart.symm haudio
    | jpeg frame' => exact absurd hstart.symm hjpeg
    | audio packet' => rw [AudioPacket.envelope_inj h]

end StreamFrame

/-! ## Streams -/

/-- The handshake line and the envelopes of a stream, as far as it has arrived. -/
def readStream (got : List UInt8) : Option (StreamMagic × List Envelope) :=
  if got.take 17 = StreamMagic.v1.line then some (.v1, (Envelope.format.readAll (got.drop 17)).1)
  else if got.take 17 = StreamMagic.v2.line then some (.v2, (Envelope.format.readAll (got.drop 17)).1)
  else none

theorem readStream_line (magic : StreamMagic) (body : List UInt8) :
    readStream (magic.line ++ body) = some (magic, (Envelope.format.readAll body).1) := by
  have htake : (magic.line ++ body).take 17 = magic.line := List.take_left' magic.line_length
  have hdrop : (magic.line ++ body).drop 17 = body := List.drop_left' magic.line_length
  have hne : StreamMagic.v2.line ≠ StreamMagic.v1.line := by decide
  unfold readStream
  rw [htake, hdrop]
  cases magic with
  | v1 => rw [if_pos rfl]
  | v2 => rw [if_neg hne, if_pos rfl]

theorem readStream_short {got : List UInt8} (h : got.length < 17) : readStream got = none := by
  have hne : ∀ magic : StreamMagic, got.take 17 ≠ magic.line := by
    intro magic heq
    have hlen := congrArg List.length heq
    rw [magic.line_length, List.length_take] at hlen
    omega
  unfold readStream
  rw [if_neg (hne .v1), if_neg (hne .v2)]

namespace StreamSocket

variable {s : StreamSocket} {actions : List SocketAction}

/-- In every phase the wire is a part of the handshake line, or the line and a part of the log. -/
theorem Phase.wire_begins (h : s.Phase) :
    (s.log = [] ∧ (s.wire.length < 17 ∨ ∃ line : StreamMagic, s.wire = line.line)) ∨
      ∃ line : StreamMagic, ∃ body, s.wire = line.line ++ body ∧ body <+: s.log.flatMap Envelope.bytes ∧
        (s.lock = none → s.cut = false → body = s.log.flatMap Envelope.bytes) := by
  cases h with
  | untouched _ _ _ log wire => exact Or.inl ⟨log, Or.inl (by rw [wire]; decide)⟩
  | opening write line lock _ _ _ log wire =>
    have hlen := congrArg List.length wire
    rw [line.line_length, List.length_append] at hlen
    -- the line has just been written, or its end is missing
    by_cases hrest : write.rest = []
    · rw [hrest, List.append_nil] at wire
      exact Or.inl ⟨log, Or.inr ⟨line, wire⟩⟩
    · have hpos := List.length_pos_iff.mpr hrest
      exact Or.inl ⟨log, Or.inl (by omega)⟩
  | between line _ _ _ wire => exact Or.inr ⟨line, _, wire, List.prefix_rfl, fun _ _ => rfl⟩
  | writing write line done envelope head lock _ _ _ log bytes wire =>
    refine Or.inr ⟨line, done.flatMap Envelope.bytes ++ head, ?_, ?_, ?_⟩
    · rw [wire, opened, List.append_assoc]
    · rw [log, List.flatMap_append, List.flatMap_singleton, bytes, ← List.append_assoc]
      exact List.prefix_append _ _
    · intro hlock
      rw [hlock] at lock
      cases lock
  | severed line done envelope head rest _ _ cut _ log bytes _ wire =>
    refine Or.inr ⟨line, done.flatMap Envelope.bytes ++ head, ?_, ?_, ?_⟩
    · rw [wire, opened, List.append_assoc]
    · rw [log, List.flatMap_append, List.flatMap_singleton, bytes, ← List.append_assoc]
      exact List.prefix_append _ _
    · intro _ huncut
      rw [huncut] at cut
      cases cut

/-- What is read of a part of the line and the envelopes. -/
theorem read_prefix {line magic : StreamMagic} {body got : List UInt8} {log envelopes : List Envelope}
    (hbody : body <+: log.flatMap Envelope.bytes) (hfits : ∀ e ∈ log, e.Fits) (hgot : got <+: line.line ++ body)
    (hread : readStream got = some (magic, envelopes)) : magic = line ∧ ∃ n, envelopes = log.take n := by
  have hlen : 17 ≤ got.length := by
    by_contra hshort
    rw [readStream_short (by omega)] at hread
    cases hread
  obtain ⟨got', rfl⟩ : line.line <+: got :=
    List.prefix_of_prefix_length_le (List.prefix_append _ _) hgot (by rw [line.line_length]; exact hlen)
  rw [readStream_line] at hread
  obtain ⟨rfl, rfl⟩ := Prod.mk.inj (Option.some.inj hread)
  have hgot' := (List.prefix_append_right_inj _).mp hgot
  obtain ⟨n, hn, -⟩ := Envelope.format.readAll_begins log hfits (hgot'.trans hbody)
  exact ⟨rfl, n, hn⟩

/-- **What the bytes of a stream say**: whatever part of them has arrived, its codec and its frames are those
of the stream, from the first one on, and no other frames have these bytes; and when nothing is being written
or has been cut, they are all there. -/
theorem stream_read (hr : Trans.Runs step Unshared start actions s) (frames : List StreamFrame)
    (hlog : s.log = frames.map StreamFrame.envelope) (hfits : ∀ f ∈ frames, f.envelope.Fits) :
    (∀ got, got <+: s.wire → ∀ magic envelopes, readStream got = some (magic, envelopes) →
      magic.line <+: s.wire ∧
        ∃ n, ∀ seen : List StreamFrame, seen.map StreamFrame.envelope = envelopes ↔ seen = frames.take n) ∧
      (s.lock = none → s.cut = false → frames ≠ [] →
        ∃ magic, readStream s.wire = some (magic, frames.map StreamFrame.envelope)) := by
  have hphase := (run_phase hr).wire_begins
  have hall : ∀ e ∈ s.log, e.Fits := by
    rw [hlog, List.forall_mem_map]
    exact hfits
  have hframes : ∀ (n : ℕ) (seen : List StreamFrame),
      seen.map StreamFrame.envelope = s.log.take n ↔ seen = frames.take n := by
    intro n seen
    rw [hlog, ← List.map_take]
    exact (List.map_injective_iff.mpr StreamFrame.envelope_injective).eq_iff
  refine ⟨?_, ?_⟩
  · intro got hgot magic envelopes hread
    rcases hphase with ⟨-, hshort | ⟨line, hwire⟩⟩ | ⟨line, body, hwire, hbody, -⟩
    · rw [readStream_short (Nat.lt_of_le_of_lt hgot.length_le hshort)] at hread
      cases hread
    · rw [hwire, ← List.append_nil line.line] at hgot
      obtain ⟨rfl, n, rfl⟩ := read_prefix List.nil_prefix hall hgot hread
      exact ⟨hwire ▸ List.prefix_rfl, n, hframes n⟩
    · rw [hwire] at hgot
      obtain ⟨rfl, n, rfl⟩ := read_prefix hbody hall hgot hread
      exact ⟨hwire ▸ List.prefix_append _ _, n, hframes n⟩
  · intro hlock hcut hne
    have hlogged : s.log ≠ [] := by
      rw [hlog]
      exact mt List.map_eq_nil_iff.mp hne
    rcases hphase with ⟨hnone, -⟩ | ⟨line, body, hwire, hbody, hwhole⟩
    · exact absurd hnone hlogged
    · obtain ⟨n, hn, hlen⟩ := Envelope.format.readAll_begins s.log hall hbody
      have htake : s.log.take n = s.log := List.take_of_length_le (hlen (hwhole hlock hcut))
      exact ⟨line, by rw [hwire, readStream_line, hn, htake, hlog]⟩

/-- A picture and a packet, one after the other. -/
def demoWrites : List SocketAction :=
  [.sendMagic .v2, .take 17, .finish, .writeAll demoFrame.envelope, .take demoFrame.envelope.bytes.length, .finish,
    .tryWriteEnvelope 0 demoPacket.envelope, .take demoPacket.envelope.bytes.length, .finish]

def demoReadEnd : StreamSocket :=
  { wire := StreamMagic.v2.line ++ (demoFrame.envelope.bytes ++ demoPacket.envelope.bytes), magicSent := true
    lock := none, video := true, audio := [0], spawned := 1, registered := true
    log := [demoFrame.envelope, demoPacket.envelope], cut := false }

theorem demoWrites_unshared : ∀ a ∈ demoWrites, ∀ s : StreamSocket, s.Unshared a := by
  unfold demoWrites
  simp only [List.forall_mem_cons]
  exact ⟨fun _ => trivial, fun _ => trivial, fun _ => trivial, fun _ => trivial, fun _ => trivial,
    fun _ => trivial,
    fun _ => trivial, fun _ => trivial, fun _ => trivial, List.forall_mem_nil _⟩

theorem demo_read : ∃ magic, readStream demoReadEnd.wire = some (magic,
    [StreamFrame.video demoFrame, .audio demoPacket].map StreamFrame.envelope) :=
  have hrun : Trans.run step start (.startAudio :: demoWrites) = some demoReadEnd := by decide +kernel
  have hlog : demoReadEnd.log = [StreamFrame.video demoFrame, .audio demoPacket].map StreamFrame.envelope := by
    simp only [demoReadEnd, List.map_cons, List.map_nil, StreamFrame.envelope]
  (stream_read (Trans.runs_of_run _ hrun ⟨rfl, Trans.meets_of_mem demoWrites_unshared _⟩) _ hlog
    (by decide +kernel)).2 rfl rfl (List.cons_ne_nil _ _)

end StreamSocket

end Waypad
