import Waypad.Crypto.Channel

/-!
# Waypad.Crypto.LineLimit — what `send` accepts and `recv` takes

`write_plain_json` compares the JSON without its newline with `256 * 1024`, `read_plain_json` the line
with it, and `send` counts a message before it can fail.

* `frameLen`: the length of a frame's JSON, from the number and the length of the plaintext.
* `Delivered`: every message `send` accepted is returned by the other end.
* `fullLine_breaks`: a frame of exactly `256 * 1024` bytes is sent and not received.
* `delivered_iff`: exactly when a sequence of messages is delivered (`Agrees`).
-/

namespace Waypad

/-! ## The length of a frame -/

/-- The length of the JSON of frame `seq` for a plaintext of `n` bytes. -/
def frameLen (seq : UInt64) (n : ℕ) : ℕ :=
  24 + (Nat.toDigits 10 seq.toNat).length + 4 * ((n + 16 + 2) / 3)

theorem isDigit_ascii {c : Char} (h : c.isDigit = true) : c.utf8Size = 1 := by
  simp only [Char.isDigit, Bool.and_eq_true, decide_eq_true_eq] at h
  have hle : c.val ≤ 127 := UInt32.le_trans h.2 (by decide)
  simp [Char.utf8Size, hle]

theorem len_toText (seq : UInt64) (ciphertext : List UInt8) :
    Text.len (WireFrame.toText ⟨seq, Base64.encode ciphertext⟩) =
      24 + (Nat.toDigits 10 seq.toNat).length + 4 * ((ciphertext.length + 2) / 3) := by
  have hdigits : Text.len (Nat.toDigits 10 seq.toNat) = (Nat.toDigits 10 seq.toNat).length :=
    Text.len_ascii (fun c hc => isDigit_ascii (Nat.isDigit_of_mem_toDigits (by decide) (by decide) hc))
  have hbody : Text.len (Base64.encode ciphertext) = 4 * ((ciphertext.length + 2) / 3) := by
    rw [Text.len_ascii (Base64.encode_ascii ciphertext), Base64.encode_length]
  have h1 : Text.len "\x7b\"seq\":".toList = 7 := by decide
  have h2 : Text.len ",\"ciphertext\":\"".toList = 15 := by decide
  have h3 : Text.len "\"\x7d".toList = 2 := by decide
  unfold WireFrame.toText
  rw [Text.len_append, Text.len_append, Text.len_append, Text.len_append, hdigits, hbody, h1, h2, h3]
  omega

/-- The text of a frame does not end in white space. -/
theorem trimEnd_toText (frame : WireFrame) : Text.trimEnd (frame.toText ++ ['\n']) = frame.toText := by
  have hend : "\"\x7d".toList = ['"'] ++ ['}'] := by decide
  unfold WireFrame.toText
  rw [hend, ← List.append_assoc]
  exact Text.trimEnd_newline (by decide)

namespace SecureChannel

variable {K M : Type}

/-! ## A sequence of messages -/

/-- The messages for which `send` returns ok, with the lines it wrote. -/
def accepted (J : Json M) (sealInPlace : AeadCall K → Option (List UInt8)) :
    SecureChannel K → List (M × Bool) → List (M × List Char)
  | _, [] => []
  | tx, (message, written) :: rest =>
    match tx.send J sealInPlace message written with
    | (.ok line, tx) => (message, line) :: accepted J sealInPlace tx rest
    | (.error _, tx) => accepted J sealInPlace tx rest

/-- What `recv` returns for one line after the other. -/
def recvAll (J : Json M) (openInPlace : AeadCall K → Option (List UInt8)) :
    SecureChannel K → List (List Char) → List (Except CryptoError M)
  | _, [] => []
  | rx, line :: rest =>
    let (result, rx) := rx.recv J openInPlace (.line line)
    result :: recvAll J openInPlace rx rest

/-- The other end returns every accepted message. -/
def Delivered (J : Json M) (sealInPlace openInPlace : AeadCall K → Option (List UInt8))
    (tx : SecureChannel K) (messages : List (M × Bool)) : Prop :=
  recvAll J openInPlace tx.mirror ((accepted J sealInPlace tx messages).map Prod.snd) =
    (accepted J sealInPlace tx messages).map (fun m => .ok m.1)

/-- What is assumed of `serde_json` and of AES-256-GCM: they read back what they wrote, and the tag
takes sixteen bytes. -/
structure Libraries (J : Json M) (sealInPlace openInPlace : AeadCall K → Option (List UInt8)) :
    Prop where
  json : ∀ message plaintext, J.toVec message = some plaintext → J.fromSlice plaintext = some message
  frame : ∀ seq bytes, J.frameFromStr (WireFrame.toText ⟨seq, Base64.encode bytes⟩) =
    some ⟨seq, Base64.encode bytes⟩
  aead : ∀ call ciphertext, sealInPlace call = some ciphertext →
    openInPlace { call with text := ciphertext } = some call.text
  tag : ∀ call ciphertext, sealInPlace call = some ciphertext →
    ciphertext.length = call.text.length + 16

/-! ## When messages are delivered -/

/-- The message can be rendered and sealed, its frame is not too long, and the socket takes the line. -/
def acceptable (J : Json M) (sealInPlace : AeadCall K → Option (List UInt8)) (tx : SecureChannel K)
    (message : M) (written : Bool) : Bool :=
  match tx.sealCall J message with
  | none => false
  | some call => (sealInPlace call).isSome &&
      decide (frameLen tx.nextOutboundSeq call.text.length ≤ maxLine) && written

/-- The frame of the message has exactly the maximal length. -/
def full (J : Json M) (tx : SecureChannel K) (message : M) : Bool :=
  (J.toVec message).any (fun plaintext => frameLen tx.nextOutboundSeq plaintext.length == maxLine)

/-- No acceptable message comes after one that is not (`failed` counts those, as the `u64` counter of
the channel does), and no acceptable message has a full frame. -/
def Agrees (J : Json M) (sealInPlace : AeadCall K → Option (List UInt8)) :
    UInt64 → SecureChannel K → List (M × Bool) → Prop
  | _, _, [] => True
  | failed, tx, (message, written) :: rest =>
    if acceptable J sealInPlace tx message written then
      failed = 0 ∧ full J tx message = false ∧ Agrees J sealInPlace failed tx.sent rest
    else Agrees J sealInPlace (failed + 1) tx.sent rest

instance decidableAgrees (J : Json M) (sealInPlace : AeadCall K → Option (List UInt8)) :
    ∀ failed tx messages, Decidable (Agrees J sealInPlace failed tx messages)
  | _, _, [] => .isTrue trivial
  | failed, tx, (message, written) :: rest =>
    have := decidableAgrees J sealInPlace failed tx.sent rest
    have := decidableAgrees J sealInPlace (failed + 1) tx.sent rest
    inferInstanceAs (Decidable (if acceptable J sealInPlace tx message written then
      failed = 0 ∧ full J tx message = false ∧ Agrees J sealInPlace failed tx.sent rest
      else Agrees J sealInPlace (failed + 1) tx.sent rest))

section Agree

variable {J : Json M} {sealInPlace openInPlace : AeadCall K → Option (List UInt8)}
  {tx rx : SecureChannel K} {message : M} {written : Bool}

/-- An acceptable message is accepted, with its frame as the line. -/
theorem send_acceptable (hl : Libraries J sealInPlace openInPlace)
    (h : acceptable J sealInPlace tx message written = true) :
    ∃ call ciphertext, tx.sealCall J message = some call ∧ sealInPlace call = some ciphertext ∧
      (tx.send J sealInPlace message written).1 =
        .ok (WireFrame.toText ⟨tx.nextOutboundSeq, Base64.encode ciphertext⟩ ++ ['\n']) := by
  unfold acceptable at h
  split at h
  · cases h
  · next call hcall =>
    simp only [Bool.and_eq_true, Option.isSome_iff_exists, decide_eq_true_eq] at h
    obtain ⟨⟨⟨ciphertext, hseal⟩, hlen⟩, rfl⟩ := h
    refine ⟨call, ciphertext, hcall, hseal, ?_⟩
    have hnot : ¬ maxLine < Text.len
        (WireFrame.toText ⟨tx.nextOutboundSeq, Base64.encode ciphertext⟩) := by
      rw [len_toText, hl.tag call ciphertext hseal]
      unfold frameLen at hlen
      omega
    simp [send, hcall, hseal, writePlainJson, hnot]

/-- Any other message is not. -/
theorem send_not_acceptable (hl : Libraries J sealInPlace openInPlace)
    (h : acceptable J sealInPlace tx message written = false) :
    ∃ err, (tx.send J sealInPlace message written).1 = .error err := by
  cases hs : (tx.send J sealInPlace message written).1 with
  | error err => exact ⟨err, rfl⟩
  | ok line =>
    obtain ⟨call, ciphertext, hcall, hseal, rfl, hlen, -⟩ := send_ok hs
    rw [len_toText, hl.tag call ciphertext hseal] at hlen
    simp [acceptable, hcall, hseal, frameLen, hlen] at h

/-- The receiver has the sender's key and prefix. -/
structure Mirrors (tx rx : SecureChannel K) : Prop where
  key : rx.inboundKey = tx.outboundKey
  head : rx.inboundPrefix = tx.outboundPrefix

/-- The length of an accepted line is that of its frame and one. -/
theorem line_len (hl : Libraries J sealInPlace openInPlace) {call : AeadCall K}
    {ciphertext : List UInt8} (hcall : tx.sealCall J message = some call)
    (hseal : sealInPlace call = some ciphertext) :
    ∃ plaintext, J.toVec message = some plaintext ∧ call.text = plaintext ∧
      Text.len (WireFrame.toText ⟨tx.nextOutboundSeq, Base64.encode ciphertext⟩ ++ ['\n']) =
        frameLen tx.nextOutboundSeq plaintext.length + 1 := by
  obtain ⟨plaintext, hv, rfl⟩ := Option.map_eq_some_iff.mp hcall
  have hnewline : Text.len ['\n'] = 1 := by decide
  refine ⟨plaintext, hv, rfl, ?_⟩
  rw [Text.len_append, hnewline, len_toText, hl.tag _ _ hseal]
  rfl

/-- A frame of the maximal length is one byte too long with its newline. -/
theorem recv_full (hl : Libraries J sealInPlace openInPlace) {call : AeadCall K}
    {ciphertext : List UInt8} (hcall : tx.sealCall J message = some call)
    (hseal : sealInPlace call = some ciphertext) (hfull : full J tx message = true) :
    (rx.recv J openInPlace
      (.line (WireFrame.toText ⟨tx.nextOutboundSeq, Base64.encode ciphertext⟩ ++ ['\n']))).1 =
        .error (.protocol "frame too large") := by
  obtain ⟨plaintext, hv, -, hlen⟩ := line_len hl hcall hseal
  have hmax : frameLen tx.nextOutboundSeq plaintext.length = maxLine := by
    simpa [full, hv] using hfull
  simp [recv, readPlainJson, hlen, hmax]

/-- Any other accepted line is parsed, and then the numbers decide. -/
theorem recv_line (hl : Libraries J sealInPlace openInPlace) (hm : Mirrors tx rx)
    {call : AeadCall K} {ciphertext : List UInt8} (hcall : tx.sealCall J message = some call)
    (hseal : sealInPlace call = some ciphertext)
    (hacc : acceptable J sealInPlace tx message written = true)
    (hfull : full J tx message = false) :
    rx.recv J openInPlace
      (.line (WireFrame.toText ⟨tx.nextOutboundSeq, Base64.encode ciphertext⟩ ++ ['\n'])) =
        if tx.nextOutboundSeq ≠ rx.nextInboundSeq then
          (.error (unexpectedSeq tx.nextOutboundSeq rx.nextInboundSeq), rx)
        else (.ok message, rx.received) := by
  obtain ⟨plaintext, hv, rfl, hlen⟩ := line_len hl hcall hseal
  have hle : frameLen tx.nextOutboundSeq call.text.length ≤ maxLine := by
    simp only [acceptable, hcall, Bool.and_eq_true, decide_eq_true_eq] at hacc
    exact hacc.1.2
  -- a line of just the limit is read without its end
  have hne : frameLen tx.nextOutboundSeq call.text.length ≠ maxLine := by
    simpa [full, hv] using hfull
  have hread : readPlainJson J.frameFromStr
      (.line (WireFrame.toText ⟨tx.nextOutboundSeq, Base64.encode ciphertext⟩ ++ ['\n'])) =
        .ok ⟨tx.nextOutboundSeq, Base64.encode ciphertext⟩ := by
    unfold readPlainJson
    dsimp only
    rw [hlen, if_neg (by omega), trimEnd_toText, hl.frame]
  have hopen : rx.openCall tx.nextOutboundSeq ciphertext = { call with text := ciphertext } := by
    obtain ⟨p, -, rfl⟩ := Option.map_eq_some_iff.mp hcall
    simp [openCall, hm.key, hm.head]
  have hmsg : rx.openFrame J openInPlace ⟨tx.nextOutboundSeq, Base64.encode ciphertext⟩ =
      .ok message := by
    simp [openFrame, Base64.decode_encode, hopen, hl.aead call ciphertext hseal,
      hl.json message call.text hv]
  simp only [recv, hread, hmsg]

theorem Mirrors.sent (hm : Mirrors tx rx) : Mirrors tx.sent rx := ⟨hm.key, hm.head⟩

theorem Mirrors.received (hm : Mirrors tx rx) : Mirrors tx rx.received := ⟨hm.key, hm.head⟩

/-- With `failed` messages not accepted since the counters were equal, the rest is delivered exactly when
it agrees. -/
theorem recvAll_iff (hl : Libraries J sealInPlace openInPlace) (messages : List (M × Bool))
    (failed : UInt64) {tx rx : SecureChannel K} (hm : Mirrors tx rx)
    (hseq : tx.nextOutboundSeq = rx.nextInboundSeq + failed) :
    recvAll J openInPlace rx ((accepted J sealInPlace tx messages).map Prod.snd) =
        (accepted J sealInPlace tx messages).map (fun m => .ok m.1) ↔
      Agrees J sealInPlace failed tx messages := by
  induction messages generalizing failed tx rx with
  | nil => simp [accepted, recvAll, Agrees]
  | cons m rest ih =>
    obtain ⟨message, written⟩ := m
    cases hacc : acceptable J sealInPlace tx message written with
    | false =>
      -- refused by the sender: its number is used up, and the receiver does not know
      obtain ⟨err, herr⟩ := send_not_acceptable hl hacc
      have hsend : tx.send J sealInPlace message written = (.error err, tx.sent) :=
        Prod.ext herr rfl
      simp only [accepted, hsend, Agrees, hacc]
      apply ih (failed + 1) hm.sent
      rw [SecureChannel.sent, hseq, UInt64.add_assoc]
    | true =>
      -- a full line is cut by the reader; another is read if no number was lost before it
      obtain ⟨call, ciphertext, hcall, hseal, hok⟩ := send_acceptable hl hacc
      have hsend : tx.send J sealInPlace message written = (.ok (WireFrame.toText
          ⟨tx.nextOutboundSeq, Base64.encode ciphertext⟩ ++ ['\n']), tx.sent) := Prod.ext hok rfl
      simp only [accepted, hsend, Agrees, hacc, ↓reduceIte, List.map_cons, recvAll, List.cons.injEq]
      cases hfull : full J tx message with
      | true => simp [recv_full hl hcall hseal hfull]
      | false =>
        rw [recv_line hl hm hcall hseal hacc hfull]
        by_cases hf : failed = 0
        · subst hf
          have heq : tx.nextOutboundSeq = rx.nextInboundSeq := by simpa using hseq
          rw [if_neg (not_not.mpr heq)]
          simp only [true_and]
          exact ih 0 hm.sent.received (by simp [SecureChannel.sent, SecureChannel.received, heq])
        · have hne : tx.nextOutboundSeq ≠ rx.nextInboundSeq := by
            rw [hseq]
            intro h
            exact hf (by simpa using h)
          simp [hne, hf]

end Agree

/-! ## The full line -/

/-- Messages are their own JSON, and the tag is sixteen zeros. -/
def demoJson : Json (List UInt8) := ⟨some, some, WireFrame.ofText⟩

def demoSeal (call : AeadCall ℕ) : Option (List UInt8) := some (call.text ++ List.replicate 16 0)

def demoOpen (call : AeadCall ℕ) : Option (List UInt8) :=
  some (call.text.take (call.text.length - 16))

theorem demo_libraries : Libraries demoJson demoSeal demoOpen := by
  refine ⟨?_, fun seq bytes => ?_, ?_, ?_⟩
  · rintro message plaintext ⟨⟩
    rfl
  · exact WireFrame.ofText_toText _ (Base64.encode_ne_quote bytes)
  · rintro call ciphertext ⟨⟩
    simp [demoOpen]
  · rintro call ciphertext ⟨⟩
    simp

/-- The server's end after a thousand messages. -/
def thousandSent : SecureChannel ℕ := { SecureChannel.server 0 1 with nextOutboundSeq := 1000 }

/-- Its frame has exactly `256 * 1024` bytes. -/
def fullMessage : List UInt8 := List.replicate 196571 0

theorem fullMessage_frame : frameLen 1000 fullMessage.length = maxLine := by
  have hdigits : (Nat.toDigits 10 (1000 : UInt64).toNat).length = 4 := by decide
  rw [frameLen, hdigits, fullMessage, List.length_replicate, maxLine]

/-- An acceptable message with a full frame is not delivered. -/
theorem not_delivered_full {J : Json M} {sealInPlace openInPlace : AeadCall K → Option (List UInt8)}
    (hl : Libraries J sealInPlace openInPlace) {tx : SecureChannel K} {message : M} {written : Bool}
    (hacc : acceptable J sealInPlace tx message written = true) (hfull : full J tx message = true) :
    ¬ Delivered J sealInPlace openInPlace tx [(message, written)] := by
  intro h
  have hagrees := (recvAll_iff hl [(message, written)] 0 ⟨rfl, rfl⟩ (by simp [mirror])).mp h
  simp [Agrees, hacc, hfull] at hagrees

theorem thousandSent_full {message : List UInt8} (h : frameLen 1000 message.length = maxLine) :
    acceptable demoJson demoSeal thousandSent message true = true ∧
      full demoJson thousandSent message = true := by
  simp [acceptable, full, sealCall, demoJson, demoSeal, thousandSent, h]

theorem fullLine_breaks : ¬ Delivered demoJson demoSeal demoOpen thousandSent [(fullMessage, true)] :=
  have h := thousandSent_full fullMessage_frame
  not_delivered_full demo_libraries h.1 h.2

/-- **Delivery**: a sequence of messages is delivered exactly when no acceptable message comes after one
that is not and none has a full frame. -/
theorem delivered_iff {J : Json M} {sealInPlace openInPlace : AeadCall K → Option (List UInt8)}
    (hl : Libraries J sealInPlace openInPlace) (tx : SecureChannel K) (messages : List (M × Bool)) :
    Delivered J sealInPlace openInPlace tx messages ↔ Agrees J sealInPlace 0 tx messages :=
  recvAll_iff hl messages 0 ⟨rfl, rfl⟩ (by simp [mirror])

/-- Two short messages and one that the socket does not take are delivered. -/
theorem delivered_iff_short :
    Delivered demoJson demoSeal demoOpen thousandSent [([1, 2], true), ([3], true), ([4], false)] :=
  (delivered_iff demo_libraries thousandSent _).mpr (by decide)

end SecureChannel

end Waypad
