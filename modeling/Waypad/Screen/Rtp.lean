import Waypad.Lib.BigEndian

/-!
# Waypad.Screen.Rtp — `RtpStreamReader` (`src/audio.rs`)

The reader that splits the RFC 4571 stream of the audio pipeline into Opus packets.  An outer `none` is a
panic of the source: an index or a slice out of range.

* `rtpPayload_bounds`: no frame makes `rtp_payload` leave its bounds.
* `RtpPacket`: an RTP packet with all its optional parts; `rtpPayload_packet` takes its payload out.
* `packetsLoop_stream`: what the loop of `push` does with any first part of a stream of packets.
* `packets_returned`: the reader returns the payloads, however the bytes are cut.
-/

namespace Waypad

/-- `MAX_RTP_FRAME_BYTES`. -/
def maxRtpFrameBytes : ℕ := 8 * 1024

/-! ## `rtp_payload` -/

/-- Where the payload starts: the header extension is skipped. -/
def payloadStart (packet : List UInt8) (offset : ℕ) (hasExtension : Bool) : Option (Option ℕ) :=
  if hasExtension then
    if packet.length < offset + 4 then some none
    else do
      let high ← packet[offset + 2]?
      let low ← packet[offset + 3]?
      some (some (offset + (4 + BigEndian.value [high, low] * 4)))
  else some (some offset)

/-- Where the payload ends: `checked_sub` of the padding. -/
def payloadEnd (packet : List UInt8) (hasPadding : Bool) : Option ℕ :=
  if hasPadding then
    packet.getLast?.bind (fun padding =>
      if padding.toNat ≤ packet.length then some (packet.length - padding.toNat) else none)
  else some packet.length

/-- `&packet[offset..end]`, when both are there and in order. -/
def packetPart (packet : List UInt8) : Option ℕ → Option ℕ → Option (Option (List UInt8))
  | some offset, some stop =>
    if stop < offset then some none
    else if stop ≤ packet.length then some (some ((packet.take stop).drop offset))
    else none
  | _, _ => some none

def rtpPayload (packet : List UInt8) : Option (Option (List UInt8)) :=
  if packet.length < 12 then some none
  else
    packet[0]?.bind (fun first : UInt8 =>
      if first >>> 6 ≠ 2 then some none
      else
        (payloadStart packet (12 + (first &&& 0x0f).toNat * 4) (first &&& 0x10 != 0)).bind (fun start =>
          packetPart packet start (payloadEnd packet (first &&& 0x20 != 0))))

/-! ## The reader -/

/-- `push` bails. -/
inductive RtpError
  | invalidLength (length : ℕ)
  deriving DecidableEq, Repr

def RtpError.message : RtpError → String
  | .invalidLength length =>
    "desktop audio producer emitted an invalid RTP frame length: " ++ toString length

structure RtpStreamReader where
  buffer : List UInt8
  deriving DecidableEq, Repr

namespace RtpStreamReader

def new : RtpStreamReader := { buffer := [] }

/-- What a frame adds to the packets: a payload that is not empty. -/
def packet : Option (List UInt8) → List (List UInt8)
  | some payload => if payload = [] then [] else [payload]
  | none => []

/-- The loop of `push`, and the buffer it leaves; an error loses the packets. -/
def packetsLoop : ℕ → List UInt8 → Option (Except RtpError (List (List UInt8)) × List UInt8)
  | 0, buffer => some (.ok [], buffer)
  | fuel + 1, buffer =>
    match buffer with
    | high :: low :: rest =>
      let length := BigEndian.value [high, low]
      if length = 0 ∨ maxRtpFrameBytes < length then some (.error (.invalidLength length), buffer)
      else if rest.length < length then some (.ok [], buffer)
      else do
        let payload ← rtpPayload (rest.take length)
        let (packets, buffer) ← packetsLoop fuel (rest.drop length)
        some (packets.map (fun packets => packet payload ++ packets), buffer)
    | _ => some (.ok [], buffer)

def push (self : RtpStreamReader) (chunk : List UInt8) :
    Option (Except RtpError (List (List UInt8)) × RtpStreamReader) :=
  let buffer := self.buffer ++ chunk
  (packetsLoop (buffer.length + 1) buffer).map (fun r => (r.1, { buffer := r.2 }))

/-- Calls one after the other, up to the first error. -/
def pushes : RtpStreamReader → List (List UInt8) →
    Option (Except RtpError (List (List UInt8)) × RtpStreamReader)
  | self, [] => some (.ok [], self)
  | self, chunk :: chunks => do
    match ← self.push chunk with
    | (.error error, self) => some (.error error, self)
    | (.ok packets, self) => do
      let (others, self) ← pushes self chunks
      some (others.map (fun others => packets ++ others), self)

/-- The fuel of `push` is enough: a frame takes more than two bytes. -/
theorem packetsLoop_fuel (fuel : ℕ) {buffer : List UInt8} (h : buffer.length < fuel) :
    packetsLoop (fuel + 1) buffer = packetsLoop fuel buffer := by
  induction fuel generalizing buffer with
  | zero => omega
  | succ fuel ih =>
    match buffer with
    | [] | [_] => rfl
    | high :: low :: rest =>
      rw [packetsLoop, packetsLoop]
      have hrest : (rest.drop (BigEndian.value [high, low])).length < fuel := by
        simp only [List.length_cons] at h
        rw [List.length_drop]
        omega
      simp only [ih hrest]

end RtpStreamReader

/-! ## Bounds -/

section Bounds

variable {packet : List UInt8} {offset stop : ℕ} {flag : Bool}

theorem payloadStart_bounds : ∃ start, payloadStart packet offset flag = some start := by
  unfold payloadStart
  split
  · split
    · exact ⟨none, rfl⟩
    · next hlen =>
      have hhigh : offset + 2 < packet.length := by omega
      have hlow : offset + 3 < packet.length := by omega
      rw [List.getElem?_eq_getElem hhigh, List.getElem?_eq_getElem hlow]
      exact ⟨_, rfl⟩
  · exact ⟨some offset, rfl⟩

theorem payloadEnd_le (h : payloadEnd packet flag = some stop) : stop ≤ packet.length := by
  unfold payloadEnd at h
  split at h
  · obtain ⟨padding, -, h⟩ := Option.bind_eq_some_iff.mp h
    split at h
    · cases h
      exact Nat.sub_le _ _
    · cases h
  · cases h
    exact Nat.le_refl _

/-- **Bounds**: every frame is skipped or yields a part of itself. -/
theorem rtpPayload_bounds (packet : List UInt8) : ∃ result, rtpPayload packet = some result ∧
    ∀ payload, result = some payload → payload <:+: packet := by
  have hskip : ∃ result : Option (List UInt8), some none = some result ∧
      ∀ payload, result = some payload → payload <:+: packet := ⟨none, rfl, by simp⟩
  unfold rtpPayload
  split
  · exact hskip
  · next hlen =>
    have hpos : 0 < packet.length := by omega
    rw [List.getElem?_eq_getElem hpos, Option.bind_some]
    split
    · exact hskip
    · obtain ⟨start, hstart⟩ : ∃ start, payloadStart packet (12 + (packet[0] &&& 0x0f).toNat * 4)
          (packet[0] &&& 0x10 != 0) = some start := payloadStart_bounds
      rw [hstart, Option.bind_some]
      -- a packet without a payload is skipped
      cases hend : payloadEnd packet (packet[0] &&& 0x20 != 0) with
      | none => cases start <;> exact hskip
      | some stop =>
        cases start with
        | none => exact hskip
        | some offset =>
          rw [packetPart, if_pos (payloadEnd_le hend)]
          split
          · exact hskip
          · refine ⟨_, rfl, ?_⟩
            intro payload hpayload
            cases hpayload
            exact (List.drop_suffix _ _).isInfix.trans (List.take_prefix _ _).isInfix

end Bounds

/-- No bytes at all make the loop of `push` panic. -/
theorem RtpStreamReader.packetsLoop_returns (fuel : ℕ) (buffer : List UInt8) :
    ∃ result, packetsLoop fuel buffer = some result := by
  induction fuel generalizing buffer with
  | zero => exact ⟨_, rfl⟩
  | succ fuel ih =>
    match buffer with
    | [] | [_] => exact ⟨_, rfl⟩
    | high :: low :: rest =>
      obtain ⟨payload, hpayload, -⟩ := rtpPayload_bounds (rest.take (BigEndian.value [high, low]))
      obtain ⟨others, hothers⟩ := ih (rest.drop (BigEndian.value [high, low]))
      simp only [packetsLoop, hpayload, hothers, Option.bind_eq_bind, Option.bind_some]
      split
      · exact ⟨_, rfl⟩
      · split <;> exact ⟨_, rfl⟩

theorem RtpStreamReader.push_returns (self : RtpStreamReader) (chunk : List UInt8) :
    ∃ result, self.push chunk = some result := by
  obtain ⟨result, hresult⟩ :=
    packetsLoop_returns ((self.buffer ++ chunk).length + 1) (self.buffer ++ chunk)
  exact ⟨_, by rw [push, hresult]; rfl⟩

/-! ## Packets -/

/-- An RTP packet of version 2. -/
structure RtpPacket where
  /-- marker bit and payload type -/
  kind : UInt8
  sequence : UInt16
  timestamp : UInt32
  ssrc : UInt32
  csrcs : List UInt32
  /-- the header extension: its profile and its words -/
  extension : Option (UInt16 × List UInt32)
  payload : List UInt8
  /-- the padding before its last byte, which is the number of padding bytes -/
  padding : Option (List UInt8)
  csrcs_le : csrcs.length ≤ 15
  extension_lt : ∀ profile words, extension = some (profile, words) → words.length < 2 ^ 16
  padding_le : ∀ fill, padding = some fill → fill.length + 1 ≤ 255

namespace RtpPacket

/-- Version, padding, extension and CSRC count. -/
def flags (padding extension : Bool) (count : ℕ) : UInt8 :=
  0x80 ||| (if padding then 0x20 else 0) ||| (if extension then 0x10 else 0) ||| UInt8.ofNat count

def header (self : RtpPacket) : List UInt8 :=
  flags self.padding.isSome self.extension.isSome self.csrcs.length :: self.kind ::
    (BigEndian.bytes 2 self.sequence.toNat ++ BigEndian.bytes 4 self.timestamp.toNat ++
      BigEndian.bytes 4 self.ssrc.toNat)

/-- 32-bit words, one after the other. -/
def words (ws : List UInt32) : List UInt8 := ws.flatMap (fun w => BigEndian.bytes 4 w.toNat)

def extensionBytes (self : RtpPacket) : List UInt8 :=
  match self.extension with
  | some (profile, ws) =>
    BigEndian.bytes 2 profile.toNat ++ BigEndian.bytes 2 ws.length ++ words ws
  | none => []

def paddingBytes (self : RtpPacket) : List UInt8 :=
  match self.padding with
  | some fill => fill ++ [UInt8.ofNat (fill.length + 1)]
  | none => []

def bytes (self : RtpPacket) : List UInt8 :=
  self.header ++ words self.csrcs ++ self.extensionBytes ++ self.payload ++ self.paddingBytes

/-- The packet with its big-endian u16 length. -/
def framed (self : RtpPacket) : List UInt8 := BigEndian.bytes 2 self.bytes.length ++ self.bytes

variable {p : RtpPacket}

theorem flags_fields (padding extension : Bool) (count : Fin 16) :
    flags padding extension count >>> 6 = 2 ∧
      (flags padding extension count &&& 0x0f).toNat = count ∧
      (flags padding extension count &&& 0x10 != 0) = extension ∧
      (flags padding extension count &&& 0x20 != 0) = padding := by
  revert padding extension count
  decide

@[simp] theorem header_length (p : RtpPacket) : p.header.length = 12 := by
  simp [header]

@[simp] theorem words_length (ws : List UInt32) : (words ws).length = 4 * ws.length := by
  induction ws with
  | nil => rfl
  | cons w ws ih =>
    have hcons : words (w :: ws) = BigEndian.bytes 4 w.toNat ++ words ws := rfl
    rw [hcons, List.length_append, ih, BigEndian.bytes_length, List.length_cons]
    omega

theorem two_bytes (n : ℕ) : BigEndian.bytes 2 n = [UInt8.ofNat (n / 256), UInt8.ofNat n] := rfl

/-- The length of the extension is read back, and leads to its end. -/
theorem payloadStart_packet (before after : List UInt8) :
    payloadStart (before ++ p.extensionBytes ++ after) before.length p.extension.isSome =
      some (some (before.length + p.extensionBytes.length)) := by
  unfold payloadStart extensionBytes
  cases hext : p.extension with
  | none => rfl
  | some extension =>
    obtain ⟨profile, ws⟩ := extension
    have hsmall := p.extension_lt profile ws hext
    have hlong : ¬ (before ++
        (BigEndian.bytes 2 profile.toNat ++ BigEndian.bytes 2 ws.length ++ words ws) ++
        after).length < before.length + 4 := by
      simp only [List.length_append, BigEndian.bytes_length]
      omega
    have hvalue : BigEndian.value [UInt8.ofNat (ws.length / 256), UInt8.ofNat ws.length] = ws.length := by
      rw [← two_bytes, BigEndian.value_bytes, Nat.mod_eq_of_lt (by simpa using hsmall)]
    rw [Option.isSome_some, if_pos rfl, if_neg hlong]
    simp only [two_bytes, List.append_assoc, List.cons_append, List.nil_append]
    rw [List.getElem?_append_right (by omega), List.getElem?_append_right (by omega)]
    simp only [Nat.add_sub_cancel_left, List.getElem?_cons_succ, List.getElem?_cons_zero,
      Option.bind_eq_bind, Option.bind_some, hvalue, List.length_cons, words_length]
    congr 2
    omega

theorem payloadEnd_packet (before : List UInt8) :
    payloadEnd (before ++ p.paddingBytes) p.padding.isSome = some before.length := by
  unfold payloadEnd paddingBytes
  cases hpad : p.padding with
  | none => simp
  | some fill =>
    have hsmall := p.padding_le fill hpad
    have hcount : (UInt8.ofNat (fill.length + 1)).toNat = fill.length + 1 := by
      rw [UInt8.toNat_ofNat']
      omega
    rw [Option.isSome_some, if_pos rfl, ← List.append_assoc, List.getLast?_concat, Option.bind_some,
      hcount, if_pos (by simp)]
    simp

/-- **`rtp_payload`** takes the payload out. -/
theorem rtpPayload_packet (p : RtpPacket) : rtpPayload p.bytes = some (some p.payload) := by
  obtain ⟨hversion, hcount, hextension, hpadding⟩ :=
    flags_fields p.padding.isSome p.extension.isSome ⟨p.csrcs.length, by
      have := p.csrcs_le
      omega⟩
  dsimp only at hversion hcount hextension hpadding
  have hlong : ¬ p.bytes.length < 12 := by
    simp only [bytes, List.length_append, header_length]
    omega
  have hfirst : p.bytes[0]? = some (flags p.padding.isSome p.extension.isSome p.csrcs.length) := rfl
  -- the header, the sources, the extension, the payload and the padding, in this order
  have hoffset : 12 + p.csrcs.length * 4 = (p.header ++ words p.csrcs).length := by
    simp only [List.length_append, header_length, words_length]
    omega
  have hstart : payloadStart p.bytes (p.header ++ words p.csrcs).length p.extension.isSome =
      some (some (p.header ++ words p.csrcs ++ p.extensionBytes).length) := by
    rw [@List.length_append _ _ p.extensionBytes,
      ← payloadStart_packet _ (p.payload ++ p.paddingBytes)]
    simp only [bytes, List.append_assoc]
  have hend : payloadEnd p.bytes p.padding.isSome =
      some (p.header ++ words p.csrcs ++ p.extensionBytes ++ p.payload).length := payloadEnd_packet _
  rw [rtpPayload, if_neg hlong, hfirst, Option.bind_some, if_neg (by rw [hversion]; decide), hcount,
    hextension, hpadding, hoffset, hstart, hend, Option.bind_some, packetPart,
    if_neg (by simp only [List.length_append]; omega),
    if_pos (by simp only [bytes, List.length_append]; omega)]
  rw [bytes, List.take_left, List.drop_left]

/-- What a stream of packets should give: the payloads that are not empty. -/
def payloads (packets : List RtpPacket) : List (List UInt8) :=
  packets.flatMap (fun p => if p.payload = [] then [] else [p.payload])

/-- Packets one after the other, each framed. -/
def stream (packets : List RtpPacket) : List UInt8 := packets.flatMap framed

@[simp] theorem stream_nil : stream [] = [] := rfl

@[simp] theorem stream_cons (p : RtpPacket) (packets : List RtpPacket) :
    stream (p :: packets) = p.framed ++ stream packets := rfl

@[simp] theorem stream_append (packets more : List RtpPacket) :
    stream (packets ++ more) = stream packets ++ stream more := List.flatMap_append

theorem payloads_append (packets more : List RtpPacket) :
    payloads (packets ++ more) = payloads packets ++ payloads more := List.flatMap_append

theorem bytes_pos (p : RtpPacket) : 12 ≤ p.bytes.length := by
  simp only [bytes, List.length_append, header_length]
  omega

/-- The two bytes of the length and the packet. -/
theorem framed_eq (p : RtpPacket) : p.framed =
    UInt8.ofNat (p.bytes.length / 256) :: UInt8.ofNat p.bytes.length :: p.bytes := rfl

theorem framed_length (p : RtpPacket) : p.framed.length = p.bytes.length + 2 := by
  rw [framed_eq]
  rfl

theorem framed_value (hsize : p.bytes.length ≤ maxRtpFrameBytes) :
    BigEndian.value [UInt8.ofNat (p.bytes.length / 256), UInt8.ofNat p.bytes.length] =
      p.bytes.length := by
  have hsmall : p.bytes.length < 256 ^ 2 := Nat.lt_of_le_of_lt hsize (by decide)
  rw [← two_bytes, BigEndian.value_bytes, Nat.mod_eq_of_lt hsmall]

end RtpPacket

namespace RtpStreamReader

variable {p : RtpPacket} {packets : List RtpPacket} {buffer : List UInt8}

/-! ## One `push` -/

/-- A whole frame is taken off. -/
theorem packetsLoop_packet (fuel : ℕ) (hsize : p.bytes.length ≤ maxRtpFrameBytes) (rest : List UInt8) :
    packetsLoop (fuel + 1) (p.framed ++ rest) = (packetsLoop fuel rest).map (fun r =>
      (r.1.map (fun packets => packet (some p.payload) ++ packets), r.2)) := by
  have hpos := p.bytes_pos
  have hvalid : ¬ (p.bytes.length = 0 ∨ maxRtpFrameBytes < p.bytes.length) := by omega
  have hthere : ¬ (p.bytes ++ rest).length < p.bytes.length := by
    rw [List.length_append]
    omega
  rw [p.framed_eq]
  simp only [List.cons_append, packetsLoop, RtpPacket.framed_value hsize, if_neg hvalid, if_neg hthere,
    List.take_left, List.drop_left, p.rtpPayload_packet, Option.bind_eq_bind, Option.bind_some]
  cases packetsLoop fuel rest <;> rfl

/-- A part of a frame stays in the buffer. -/
theorem packetsLoop_part (fuel : ℕ) (hsize : p.bytes.length ≤ maxRtpFrameBytes)
    (hpart : buffer <+: p.framed) (hshort : buffer.length < p.framed.length) :
    packetsLoop (fuel + 1) buffer = some (.ok [], buffer) := by
  have hpos := p.bytes_pos
  rw [p.framed_length] at hshort
  match buffer with
  | [] | [_] => rfl
  | high :: low :: rest =>
    rw [p.framed_eq, List.cons_prefix_cons, List.cons_prefix_cons] at hpart
    obtain ⟨rfl, rfl, -⟩ := hpart
    simp only [List.length_cons] at hshort
    have hvalid : ¬ (p.bytes.length = 0 ∨ maxRtpFrameBytes < p.bytes.length) := by omega
    simp only [packetsLoop, RtpPacket.framed_value hsize, if_neg hvalid]
    rw [if_pos (by omega)]

theorem packet_payload (p : RtpPacket) (packets : List RtpPacket) :
    packet (some p.payload) ++ RtpPacket.payloads packets = RtpPacket.payloads (p :: packets) := rfl

/-- **The loop on a first part of a stream** returns the payloads of the whole frames in it and keeps
what is left of the next one. -/
theorem packetsLoop_stream (packets : List RtpPacket) (fuel : ℕ)
    (hsize : ∀ p ∈ packets, p.bytes.length ≤ maxRtpFrameBytes)
    (hpart : buffer <+: RtpPacket.stream packets) (hfuel : buffer.length < fuel) :
    ∃ done rest left, packets = done ++ rest ∧ buffer = RtpPacket.stream done ++ left ∧
      (∀ p more, rest = p :: more → left.length < p.framed.length) ∧
      packetsLoop fuel buffer = some (.ok (RtpPacket.payloads done), left) := by
  induction packets generalizing buffer fuel with
  | nil =>
    obtain ⟨fuel, rfl⟩ : ∃ f, fuel = f + 1 := ⟨fuel - 1, by omega⟩
    obtain rfl : buffer = [] := List.prefix_nil.mp hpart
    refine ⟨[], [], [], rfl, rfl, ?_, rfl⟩
    intro p more h
    cases h
  | cons p packets ih =>
    obtain ⟨fuel, rfl⟩ : ∃ f, fuel = f + 1 := ⟨fuel - 1, by omega⟩
    have hp := hsize p List.mem_cons_self
    rw [RtpPacket.stream_cons] at hpart
    -- the next packet is there whole, or the buffer is a part of it
    by_cases hwhole : p.framed.length ≤ buffer.length
    · obtain ⟨next, rfl⟩ : p.framed <+: buffer :=
        List.prefix_of_prefix_length_le (List.prefix_append _ _) hpart hwhole
      rw [List.prefix_append_right_inj] at hpart
      rw [List.length_append, p.framed_length] at hfuel
      obtain ⟨done, rest, left, rfl, rfl, hleft, hloop⟩ :=
        ih fuel (fun q hq => hsize q (List.mem_cons_of_mem p hq)) hpart (by omega)
      refine ⟨p :: done, rest, left, rfl, ?_, hleft, ?_⟩
      · rw [RtpPacket.stream_cons, List.append_assoc]
      · rw [packetsLoop_packet fuel hp, hloop, ← packet_payload]
        rfl
    · have hinside : buffer <+: p.framed :=
        List.prefix_of_prefix_length_le hpart (List.prefix_append _ _) (by omega)
      refine ⟨[], p :: packets, buffer, rfl, rfl, ?_, ?_⟩
      · intro q more h
        obtain ⟨rfl, -⟩ := List.cons.inj h
        omega
      · exact packetsLoop_part fuel hp hinside (by omega)

/-! ## Reads -/

/-- A reader that holds a part of the first frame. -/
theorem pushes_stream (chunks : List (List UInt8)) (packets : List RtpPacket) (held : List UInt8)
    (hsize : ∀ p ∈ packets, p.bytes.length ≤ maxRtpFrameBytes)
    (hbytes : held ++ chunks.flatten = RtpPacket.stream packets)
    (hshort : ∀ p more, packets = p :: more → held.length < p.framed.length) :
    pushes ⟨held⟩ chunks = some (.ok (RtpPacket.payloads packets), new) := by
  induction chunks generalizing packets held with
  | nil =>
    rw [List.flatten_nil, List.append_nil] at hbytes
    cases packets with
    | nil =>
      obtain rfl : held = [] := hbytes
      rfl
    | cons p more =>
      have hlt := hshort p more rfl
      rw [hbytes, RtpPacket.stream_cons, List.length_append] at hlt
      omega
  | cons chunk chunks ih =>
    rw [List.flatten_cons, ← List.append_assoc] at hbytes
    have hpart : held ++ chunk <+: RtpPacket.stream packets := ⟨_, hbytes⟩
    obtain ⟨done, rest, left, rfl, hleft, hnext, hloop⟩ :=
      packetsLoop_stream packets ((held ++ chunk).length + 1) hsize hpart (Nat.lt_succ_self _)
    have hrest : left ++ chunks.flatten = RtpPacket.stream rest := by
      rw [hleft, RtpPacket.stream_append, List.append_assoc] at hbytes
      exact List.append_cancel_left hbytes
    have hothers := ih rest left (fun p hp => hsize p (List.mem_append_right done hp)) hrest hnext
    simp only [pushes, push, hloop, hothers, Option.map_some, Option.bind_eq_bind, Option.bind_some]
    rw [RtpPacket.payloads_append]
    rfl

/-- **The reader returns the payloads** that are not empty, in order, however the framed packets are cut,
and is left empty; and no frame at all makes `rtp_payload` leave its bounds. -/
theorem packets_returned :
    (∀ (packets : List RtpPacket) (chunks : List (List UInt8)),
      (∀ p ∈ packets, p.bytes.length ≤ maxRtpFrameBytes) →
      chunks.flatten = RtpPacket.stream packets →
      new.pushes chunks = some (.ok (RtpPacket.payloads packets), new)) ∧
    ∀ frame, ∃ result, rtpPayload frame = some result ∧
      ∀ payload, result = some payload → payload <:+: frame := by
  refine ⟨?_, rtpPayload_bounds⟩
  intro packets chunks hsize hbytes
  apply pushes_stream chunks packets [] hsize hbytes
  intro p more _
  rw [List.length_nil, p.framed_length]
  omega

/-- The packet of the test of the source: one CSRC, an extension of one word, three bytes of padding. -/
def demoPacket : RtpPacket where
  kind := 0xe0
  sequence := 1
  timestamp := 0
  ssrc := 0x01020304
  csrcs := [0x09090909]
  extension := some (0xbede, [0x07070707])
  payload := [0xfc, 42]
  padding := some [0, 0]
  csrcs_le := by decide
  extension_lt := by
    intro profile words h
    cases h
    decide
  padding_le := by
    intro fill h
    cases h
    decide

/-- The same without a payload. -/
def demoEmpty : RtpPacket := { demoPacket with payload := [] }

/-- Cut inside a length and inside an extension. -/
theorem packets_demo : new.pushes [(RtpPacket.stream [demoEmpty, demoPacket]).take 20,
      ((RtpPacket.stream [demoEmpty, demoPacket]).drop 20).take 10,
      (RtpPacket.stream [demoEmpty, demoPacket]).drop 30] =
    some (.ok [[0xfc, 42]], new) := by
  refine packets_returned.1 [demoEmpty, demoPacket] _ ?_ (by decide)
  decide

end RtpStreamReader

end Waypad
