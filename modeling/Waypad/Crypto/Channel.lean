import Waypad.Lib.Base64
import Waypad.Lib.BigEndian
import Waypad.Lib.Text

/-!
# Waypad.Crypto.Channel — `SecureChannel` (`src/crypto.rs`)

* `WireFrame` and its JSON text; `readPlainJson`, `writePlainJson` with their size limits.
* `SecureChannel` with `server`, `send`, `recv`.
* `mirror`: the other end of a channel.

`serde_json` is the parameter `Json`, AES-256-GCM are the functions `sealInPlace` and `openInPlace`;
whether the socket takes a line is the argument `written`.  Text is the list of its characters.
-/

namespace Waypad

inductive CryptoError
  | protocol (message : String)
  | io
  | json
  | base64
  | crypto
  deriving DecidableEq, Repr

structure WireFrame where
  seq : UInt64
  ciphertext : List Char
  deriving DecidableEq, Repr

/-- The calls of `serde_json` a channel for messages `M` makes. -/
structure Json (M : Type) where
  /-- `serde_json::to_vec(message)` -/
  toVec : M → Option (List UInt8)
  /-- `serde_json::from_slice(&plaintext)` -/
  fromSlice : List UInt8 → Option M
  /-- `serde_json::from_str::<WireFrame>(line)` -/
  frameFromStr : List Char → Option WireFrame

/-- A call of the cipher: the text is sealed or opened. -/
structure AeadCall (K : Type) where
  key : K
  nonce : List UInt8
  aad : List UInt8
  text : List UInt8
  deriving DecidableEq, Repr

namespace WireFrame

/-- `serde_json::to_vec(&frame)`; base64 text needs no escapes. -/
def toText (frame : WireFrame) : List Char :=
  "\x7b\"seq\":".toList ++ Nat.toDigits 10 frame.seq.toNat ++ ",\"ciphertext\":\"".toList ++
    frame.ciphertext ++ "\"\x7d".toList

end WireFrame

/-! ## Reading a frame back

`ofText` reads the texts `toText` writes; it stands for `serde_json::from_str` in concrete runs. -/

namespace WireFrame

/-- The rest of a text after a known beginning. -/
def afterHead : List Char → List Char → Option (List Char)
  | [], s => some s
  | c :: cs, d :: s => if c = d then afterHead cs s else none
  | _ :: _, [] => none

def ofText (s : List Char) : Option WireFrame := do
  let s ← afterHead "\x7b\"seq\":".toList s
  let seq := s.takeWhile Char.isDigit
  let s ← afterHead ",\"ciphertext\":\"".toList (s.dropWhile Char.isDigit)
  let ciphertext := s.takeWhile (fun c => c != '"')
  let s ← afterHead "\"\x7d".toList (s.dropWhile (fun c => c != '"'))
  if s = [] then some ⟨UInt64.ofNat (Nat.ofDigitChars 10 seq 0), ciphertext⟩ else none

theorem afterHead_append (head s : List Char) : afterHead head (head ++ s) = some s := by
  induction head with
  | nil => rfl
  | cons c head ih => simp [afterHead, ih]

/-- A stretch of characters that pass a test, up to one that fails it. -/
theorem takeWhile_stop {p : Char → Bool} {s : List Char} {c : Char} {t : List Char}
    (hs : ∀ d ∈ s, p d = true) (hc : p c = false) :
    (s ++ c :: t).takeWhile p = s ∧ (s ++ c :: t).dropWhile p = c :: t := by
  refine ⟨?_, ?_⟩
  · rw [List.takeWhile_append_of_pos hs, List.takeWhile_cons_of_neg (by simp [hc]), List.append_nil]
  · rw [List.dropWhile_append_of_pos hs, List.dropWhile_cons_of_neg (by simp [hc])]

theorem ofText_toText (frame : WireFrame) (hq : ∀ c ∈ frame.ciphertext, c ≠ '"') :
    ofText frame.toText = some frame := by
  have hseq : ∀ c ∈ Nat.toDigits 10 frame.seq.toNat, c.isDigit = true := fun c hc =>
    Nat.isDigit_of_mem_toDigits (by decide) (by decide) hc
  have hct : ∀ c ∈ frame.ciphertext, (c != '"') = true := fun c hc => by simpa using hq c hc
  have hmid : ",\"ciphertext\":\"".toList = ',' :: "\"ciphertext\":\"".toList := by decide
  have hend : "\"\x7d".toList = '"' :: ['}'] := by decide
  have h1 := takeWhile_stop (t := "\"ciphertext\":\"".toList ++ (frame.ciphertext ++ "\"\x7d".toList))
    hseq (by decide : ','.isDigit = false)
  have h2 := takeWhile_stop (t := ['}']) hct (by decide : ('"' != '"') = false)
  unfold ofText toText
  simp only [List.append_assoc, afterHead_append, Option.bind_eq_bind, Option.bind_some]
  rw [hmid, List.cons_append, h1.1, h1.2, ← List.cons_append, ← hmid, afterHead_append]
  simp only [Option.bind_some]
  rw [hend, h2.1, h2.2]
  have hnat : Nat.ofDigitChars 10 (Nat.toDigits 10 frame.seq.toNat) 0 = frame.seq.toNat :=
    Nat.ofDigitChars_toDigits (by decide) (by decide)
  simp [afterHead, hnat]

end WireFrame

/-! ## Lines -/

/-- `256 * 1024`. -/
def maxLine : ℕ := 256 * 1024

/-- What `reader.read_line` yields. -/
inductive Incoming
  | line (text : List Char)
  | closed
  | failed

/-- `read_plain_json`. -/
def readPlainJson {T : Type} (fromStr : List Char → Option T) : Incoming → Except CryptoError T
  | .failed => .error .io
  | .closed => .error (.protocol "connection closed")
  | .line text =>
    if maxLine < Text.len text then .error (.protocol "frame too large")
    else
      match fromStr (Text.trimEnd text) with
      | none => .error .json
      | some value => .ok value

/-- `write_plain_json` on the rendered message; `ok` carries the line the socket took. -/
def writePlainJson (raw : List Char) (written : Bool) : Except CryptoError (List Char) :=
  if maxLine < Text.len raw then .error (.protocol "frame too large")
  else if written then .ok (raw ++ ['\n'])
  else .error .io

/-! ## The channel -/

structure SecureChannel (K : Type) where
  inboundKey : K
  outboundKey : K
  inboundPrefix : List UInt8
  outboundPrefix : List UInt8
  nextInboundSeq : UInt64
  nextOutboundSeq : UInt64

/-- `seq.to_be_bytes()`. -/
def seqBytes (seq : UInt64) : List UInt8 := BigEndian.bytes 8 seq.toNat

/-- `nonce(prefix, seq)`. -/
def nonce (head : List UInt8) (seq : UInt64) : List UInt8 := head ++ seqBytes seq

/-- `*b"C2S\0"`. -/
def c2sPrefix : List UInt8 := [67, 50, 83, 0]

/-- `*b"S2C\0"`. -/
def s2cPrefix : List UInt8 := [83, 50, 67, 0]

def unexpectedSeq (got expected : UInt64) : CryptoError :=
  .protocol ("unexpected encrypted frame sequence " ++ got.toNat.repr ++ ", expected " ++
    expected.toNat.repr)

namespace SecureChannel

variable {K M : Type}

/-- The channel `server` returns, for the keys of `derive_keys`. -/
def server (c2s s2c : K) : SecureChannel K :=
  { inboundKey := c2s, outboundKey := s2c, inboundPrefix := c2sPrefix, outboundPrefix := s2cPrefix,
    nextInboundSeq := 0, nextOutboundSeq := 0 }

/-- The other end of the channel: keys, prefixes and counters change sides. -/
def mirror (self : SecureChannel K) : SecureChannel K :=
  { inboundKey := self.outboundKey, outboundKey := self.inboundKey,
    inboundPrefix := self.outboundPrefix, outboundPrefix := self.inboundPrefix,
    nextInboundSeq := self.nextOutboundSeq, nextOutboundSeq := self.nextInboundSeq }

/-- The call of `seal_in_place_append_tag` that `send` makes, if the message can be rendered. -/
def sealCall (J : Json M) (self : SecureChannel K) (message : M) : Option (AeadCall K) :=
  (J.toVec message).map (fun plaintext =>
    { key := self.outboundKey, nonce := nonce self.outboundPrefix self.nextOutboundSeq,
      aad := seqBytes self.nextOutboundSeq, text := plaintext })

/-- `self.next_outbound_seq += 1`. -/
def sent (self : SecureChannel K) : SecureChannel K :=
  { self with nextOutboundSeq := self.nextOutboundSeq + 1 }

/-- `send`: the counter advances before anything can fail. -/
def send (J : Json M) (sealInPlace : AeadCall K → Option (List UInt8)) (self : SecureChannel K)
    (message : M) (written : Bool) : Except CryptoError (List Char) × SecureChannel K :=
  let result :=
    match self.sealCall J message with
    | none => .error .json
    | some call =>
      match sealInPlace call with
      | none => .error .crypto
      | some ciphertext =>
        let frame : WireFrame :=
          { seq := self.nextOutboundSeq, ciphertext := Base64.encode ciphertext }
        writePlainJson frame.toText written
  (result, self.sent)

/-- The call of `open_in_place` that `recv` makes. -/
def openCall (self : SecureChannel K) (seq : UInt64) (ciphertext : List UInt8) : AeadCall K :=
  { key := self.inboundKey, nonce := nonce self.inboundPrefix seq, aad := seqBytes seq,
    text := ciphertext }

/-- `self.next_inbound_seq += 1`. -/
def received (self : SecureChannel K) : SecureChannel K :=
  { self with nextInboundSeq := self.nextInboundSeq + 1 }

/-- `recv` from the frame on: what follows the check of the sequence number. -/
def openFrame (J : Json M) (openInPlace : AeadCall K → Option (List UInt8)) (self : SecureChannel K)
    (frame : WireFrame) : Except CryptoError M :=
  match Base64.decode frame.ciphertext with
  | none => .error .base64
  | some ciphertext =>
    match openInPlace (self.openCall frame.seq ciphertext) with
    | none => .error .crypto
    | some plaintext =>
      match J.fromSlice plaintext with
      | none => .error .json
      | some message => .ok message

/-- `recv`: the counter advances before the frame is opened. -/
def recv (J : Json M) (openInPlace : AeadCall K → Option (List UInt8)) (self : SecureChannel K)
    (incoming : Incoming) : Except CryptoError M × SecureChannel K :=
  match readPlainJson J.frameFromStr incoming with
  | .error err => (.error err, self)
  | .ok frame =>
    if frame.seq ≠ self.nextInboundSeq then
      (.error (unexpectedSeq frame.seq self.nextInboundSeq), self)
    else (self.openFrame J openInPlace frame, self.received)

/-! ## What the operations do -/

section Spec

variable {J : Json M} {sealInPlace openInPlace : AeadCall K → Option (List UInt8)}
  {self self' : SecureChannel K} {message : M}

@[simp] theorem send_channel (written : Bool) :
    (self.send J sealInPlace message written).2 = self.sent := rfl

/-- An accepted message was rendered, sealed under the next number, and its text is short enough. -/
theorem send_ok {written : Bool} {line : List Char}
    (h : (self.send J sealInPlace message written).1 = .ok line) :
    ∃ call ciphertext, self.sealCall J message = some call ∧ sealInPlace call = some ciphertext ∧
      written = true ∧
      let frame : WireFrame := ⟨self.nextOutboundSeq, Base64.encode ciphertext⟩
      Text.len frame.toText ≤ maxLine ∧ line = frame.toText ++ ['\n'] := by
  unfold send at h
  dsimp only at h
  split at h
  · cases h
  · next call hcall =>
    split at h
    · cases h
    · next ciphertext hseal =>
      unfold writePlainJson at h
      split at h
      · cases h
      · next hlen =>
        split at h
        · next hw =>
          cases h
          exact ⟨call, ciphertext, hcall, hseal, hw, Nat.le_of_not_lt hlen, rfl⟩
        · cases h

/-- `recv` moves nothing but the inbound counter. -/
theorem recv_channel (incoming : Incoming) : (self.recv J openInPlace incoming).2 = self ∨
    (self.recv J openInPlace incoming).2 = self.received := by
  unfold recv
  split
  · exact Or.inl rfl
  · split
    · exact Or.inl rfl
    · exact Or.inr rfl

/-- A message `recv` returns was opened under the expected number. -/
theorem recv_ok {incoming : Incoming}
    (h : self.recv J openInPlace incoming = (.ok message, self')) :
    self' = self.received ∧ ∃ ciphertext plaintext,
      openInPlace (self.openCall self.nextInboundSeq ciphertext) = some plaintext ∧
      J.fromSlice plaintext = some message := by
  unfold recv at h
  split at h
  · simp at h
  · next frame hframe =>
    split at h
    · simp at h
    · next hseq =>
      rw [not_not] at hseq
      simp only [Prod.mk.injEq] at h
      obtain ⟨hopen, rfl⟩ := h
      refine ⟨rfl, ?_⟩
      unfold openFrame at hopen
      split at hopen
      · cases hopen
      · next ciphertext hdec =>
        split at hopen
        · cases hopen
        · next plaintext hopened =>
          split at hopen
          · cases hopen
          · next m hm =>
            cases hopen
            exact ⟨ciphertext, plaintext, hseq ▸ hopened, hm⟩

end Spec

end SecureChannel

end Waypad
