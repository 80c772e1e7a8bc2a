import Waypad.Crypto.Channel
import Waypad.Lib.Grouped
import Waypad.Lib.Utf8
import Waypad.Signal.Client

/-!
# Waypad.Crypto.Transcript — what the key of the host signs (`src/crypto.rs`, `src/signal.rs`)

The same key signs the handshake of the control channel and the registration at the signaling server.
Neither text says how long its parts are.

* `fingerprint`: SHA-256 is the parameter `sha256`; `fingerprint_ok`: it does not panic, and has 79 bytes.
* `SecureChannel.handshake`: `server` with what it sends and signs; `ring` and `serde_json` are the
  parameter `HandshakeCalls`.
* `handshakeTranscript_inj`, `registerTranscript_inj`, `register_ne_handshake`.
* `handshake_ne_register`: the handshake signs nothing the signaling server would take for a registration.
* `transcripts_separate`: no text can be taken for another.
-/

namespace Waypad

/-! ## The fingerprint -/

/-- `sha256_hex`. -/
def sha256Hex (sha256 : List UInt8 → List UInt8) (data : List UInt8) : List Char :=
  Grouped.hex (sha256 data)

/-- `fingerprint`; `none` is the panic of `from_utf8(chunk).unwrap()`. -/
def fingerprint (sha256 : List UInt8 → List UInt8) (publicKey : List UInt8) : Option String :=
  let hex := sha256Hex sha256 publicKey
  ((Grouped.chunks 4 (Text.utf8 hex)).mapM Utf8.strict).map (fun groups =>
    String.ofList ([':'].intercalate groups))

/-- The groups of a fingerprint are the pieces of the digits. -/
theorem fingerprint_groups (sha256 : List UInt8 → List UInt8) (publicKey : List UInt8) :
    ∃ fp, fingerprint sha256 publicKey = some fp ∧ Text.utf8 fp.toList =
      (Text.utf8 [':']).intercalate (Grouped.chunks 4 (Text.utf8 (sha256Hex sha256 publicKey))) := by
  have hascii : ∀ c ∈ sha256Hex sha256 publicKey, Utf8.Ascii c := Grouped.hex_ascii _
  have hpieces : ∀ piece ∈ Grouped.chunks 4 (Text.utf8 (sha256Hex sha256 publicKey)),
      ∃ s, Utf8.strict piece = some s := by
    intro piece hpiece
    apply Utf8.strict_of_ascii
    intro b hb
    exact Utf8.toNat_of_mem_utf8 hascii (Grouped.mem_of_mem_chunks hpiece hb)
  obtain ⟨groups, hgroups, hback⟩ :=
    Grouped.mapM_read (fun _ _ h => Utf8.utf8_of_strict h) hpieces
  refine ⟨String.ofList ([':'].intercalate groups), ?_, ?_⟩
  · unfold fingerprint
    dsimp only
    rw [hgroups, Option.map_some]
  · rw [String.toList_ofList, Text.utf8_intercalate, hback]

/-- **Sixteen groups of four digits.** -/
theorem fingerprint_ok {sha256 : List UInt8 → List UInt8} {publicKey : List UInt8}
    (hlen : (sha256 publicKey).length = 32) :
    ∃ fp, fingerprint sha256 publicKey = some fp ∧ (Text.utf8 fp.toList).length = 79 := by
  obtain ⟨fp, hfp, hbytes⟩ := fingerprint_groups sha256 publicKey
  have hdigits : (Text.utf8 (sha256Hex sha256 publicKey)).length = 64 := by
    rw [sha256Hex, Utf8.utf8_eq_map (Grouped.hex_ascii _), List.length_map, Grouped.hex_length, hlen]
  have hcolon : (Text.utf8 [':']).length = 1 := by decide
  refine ⟨fp, hfp, ?_⟩
  rw [hbytes, Grouped.grouped_length (by omega), hdigits, hcolon]

theorem fingerprint_length {sha256 : List UInt8 → List UInt8} {publicKey : List UInt8} {fp : String}
    (hlen : (sha256 publicKey).length = 32) (h : fingerprint sha256 publicKey = some fp) :
    (Text.utf8 fp.toList).length = 79 := by
  obtain ⟨fp', hfp', hbytes⟩ := fingerprint_ok hlen
  rw [h] at hfp'
  cases hfp'
  exact hbytes

/-! ## The handshake -/

/-- `b"WAYPAD-HANDSHAKE-v1"`. -/
def handshakeTranscriptPrefix : List UInt8 := Text.utf8 "WAYPAD-HANDSHAKE-v1".toList

/-- The `transcript` of `server`. -/
def handshakeTranscript (clientPub serverPub nonce : List UInt8) : List UInt8 :=
  handshakeTranscriptPrefix ++ clientPub ++ serverPub ++ nonce

/-- `ClientPlain`. -/
structure ClientHello where
  protocol : UInt16
  clientEphemeralPub : List Char
  deviceId : Option String

inductive ServerPlain
  | serverHello (protocol : ℕ) (hostPublicKey : List Char) (hostFingerprint : String)
      (serverEphemeralPub signature sessionNonce : List Char)
  | error (code message : String)

structure HostIdentity where
  privateKeyPkcs8B64 : List Char
  publicKeyB64 : List Char
  fingerprint : String

/-- The calls of `ring` and `serde_json` in `server`, for random bytes that are already drawn. -/
structure HandshakeCalls (K P S : Type) where
  /-- `serde_json::from_str::<ClientPlain>(line)` -/
  helloFromStr : List Char → Option ClientHello
  /-- `serde_json::to_vec(message)` -/
  toVec : ServerPlain → Option (List Char)
  /-- `EphemeralPrivateKey::generate` -/
  generate : Option P
  computePublicKey : P → Option (List UInt8)
  /-- `rng.fill(&mut nonce)` -/
  fill : Option (List UInt8)
  fromPkcs8 : List UInt8 → Option S
  sign : S → List UInt8 → Option (List UInt8)
  agreeEphemeral : P → List UInt8 → Option (List UInt8)
  /-- `hkdf::Salt::new(hkdf::HKDF_SHA256, salt_bytes).extract(shared)` -/
  extract : List UInt8 → List UInt8 → List UInt8
  /-- `prk.expand(&[info], len)?.fill(&mut key)` -/
  expand : List UInt8 → List UInt8 → ℕ → Option (List UInt8)
  /-- `aead::UnboundKey::new(&aead::AES_256_GCM, raw)` -/
  unboundKey : List UInt8 → Option K

/-- What one handshake draws and is given. -/
structure KeyShare (P : Type) where
  secret : P
  serverPub : List UInt8
  clientPub : List UInt8
  nonce : List UInt8

def KeyShare.transcript {P : Type} (self : KeyShare P) : List UInt8 :=
  handshakeTranscript self.clientPub self.serverPub self.nonce

/-- The lines a handshake sends, and the bytes it signs. -/
structure HandshakeLog where
  sent : List (List Char)
  signed : List (List UInt8)

/-- The `?` on a call of `ring`. -/
def orCrypto {α : Type} : Option α → Except CryptoError α
  | some a => .ok a
  | none => .error .crypto

/-- `b64_decode(data)?`. -/
def b64Decode (data : List Char) : Except CryptoError (List UInt8) :=
  match Base64.decode data with
  | some bytes => .ok bytes
  | none => .error .base64

namespace HandshakeCalls

variable {K P S : Type}

/-- `server` up to the transcript. -/
def keyShare (C : HandshakeCalls K P S) (hello : ClientHello) : Except CryptoError (KeyShare P) := do
  let secret ← orCrypto C.generate
  let serverPub ← orCrypto (C.computePublicKey secret)
  let clientPub ← b64Decode hello.clientEphemeralPub
  let nonce ← orCrypto C.fill
  .ok { secret, serverPub, clientPub, nonce }

/-- `identity.key_pair()`. -/
def keyPair (C : HandshakeCalls K P S) (identity : HostIdentity) : Except CryptoError S := do
  let pkcs8 ← b64Decode identity.privateKeyPkcs8B64
  orCrypto (C.fromPkcs8 pkcs8)

/-- `write_plain_json(&mut writer, &message)`. -/
def write (C : HandshakeCalls K P S) (message : ServerPlain) (written : Bool) :
    Except CryptoError (List Char) :=
  match C.toVec message with
  | none => .error .json
  | some raw => writePlainJson raw written

/-- The `ServerHello`, once the secret is shared. -/
def answer (C : HandshakeCalls K P S) (identity : HostIdentity) (share : KeyShare P)
    (signature : List UInt8) (written : Bool) : Except CryptoError (List UInt8 × List Char) := do
  let shared ← orCrypto (C.agreeEphemeral share.secret share.clientPub)
  let line ← C.write (.serverHello PROTOCOL_VERSION identity.publicKeyB64 identity.fingerprint
    (Base64.encode share.serverPub) (Base64.encode signature) (Base64.encode share.nonce)) written
  .ok (shared, line)

/-- `derive_keys`. -/
def deriveKeys (C : HandshakeCalls K P S) (shared salt : List UInt8) :
    Except CryptoError (List UInt8 × List UInt8) := do
  let prk := C.extract salt shared
  let c2s ← orCrypto (C.expand prk (Text.utf8 "waypad v1 c2s".toList) 32)
  let s2c ← orCrypto (C.expand prk (Text.utf8 "waypad v1 s2c".toList) 32)
  .ok (c2s, s2c)

/-- `make_key`. -/
def makeKey (C : HandshakeCalls K P S) (raw : List UInt8) : Except CryptoError K :=
  orCrypto (C.unboundKey raw)

/-- The channel, for the secret that is shared. -/
def channel (C : HandshakeCalls K P S) (shared nonce : List UInt8) :
    Except CryptoError (SecureChannel K) := do
  let (c2s, s2c) ← C.deriveKeys shared nonce
  let inboundKey ← C.makeKey c2s
  let outboundKey ← C.makeKey s2c
  .ok (.server inboundKey outboundKey)

/-- The answer to another version. -/
def unsupported (hello : ClientHello) : ServerPlain :=
  .error "unsupported_protocol" ("protocol " ++ hello.protocol.toNat.repr ++ " is not supported")

end HandshakeCalls

namespace SecureChannel

variable {K P S : Type}

/-- `server`, with what it sends and signs. -/
def handshake (C : HandshakeCalls K P S) (identity : HostIdentity) (incoming : Incoming)
    (written : Bool) : Except CryptoError (SecureChannel K) × HandshakeLog :=
  match readPlainJson C.helloFromStr incoming with
  | .error err => (.error err, { sent := [], signed := [] })
  | .ok hello =>
    if hello.protocol.toNat ≠ PROTOCOL_VERSION then
      match C.write (HandshakeCalls.unsupported hello) written with
      | .error err => (.error err, { sent := [], signed := [] })
      | .ok line => (.error (.protocol "unsupported protocol"), { sent := [line], signed := [] })
    else
      match C.keyShare hello with
      | .error err => (.error err, { sent := [], signed := [] })
      | .ok share =>
        match C.keyPair identity with
        | .error err => (.error err, { sent := [], signed := [] })
        | .ok keypair =>
          match C.sign keypair share.transcript with
          | none => (.error .crypto, { sent := [], signed := [share.transcript] })
          | some signature =>
            match C.answer identity share signature written with
            | .error err => (.error err, { sent := [], signed := [share.transcript] })
            | .ok (shared, line) =>
              (C.channel shared share.nonce, { sent := [line], signed := [share.transcript] })

/-- A handshake signs its transcript, and nothing else. -/
theorem handshake_signed {C : HandshakeCalls K P S} {identity : HostIdentity} {incoming : Incoming}
    {written : Bool} {bytes : List UInt8}
    (h : bytes ∈ (handshake C identity incoming written).2.signed) :
    ∃ hello share, C.keyShare hello = .ok share ∧ bytes = share.transcript := by
  unfold handshake at h
  split at h
  · cases h
  · next hello _ =>
    split at h
    · split at h <;> cases h
    · split at h
      · cases h
      · next share hshare =>
        refine ⟨hello, share, hshare, ?_⟩
        split at h
        · cases h
        · split at h
          · exact List.mem_singleton.mp h
          · split at h
            · exact List.mem_singleton.mp h
            · exact List.mem_singleton.mp h

end SecureChannel

/-! ## No text can be taken for another -/

/-- The prefixes differ within both of them. -/
theorem register_ne_handshake (fp : String) (challenge clientPub serverPub nonce : List UInt8) :
    registerTranscript fp challenge ≠ handshakeTranscript clientPub serverPub nonce := by
  intro heq
  have hregister : registerTranscriptPrefix <+: registerTranscript fp challenge := by
    unfold registerTranscript
    rw [List.append_assoc]
    exact List.prefix_append _ _
  have hhandshake : handshakeTranscriptPrefix <+: registerTranscript fp challenge := by
    rw [heq, handshakeTranscript, List.append_assoc, List.append_assoc]
    exact List.prefix_append _ _
  have hbegin : handshakeTranscriptPrefix.take 8 <+: registerTranscriptPrefix.take 8 := by
    have hshort := (List.take_prefix 8 handshakeTranscriptPrefix).trans hhandshake
    have hlong := (List.take_prefix 8 registerTranscriptPrefix).trans hregister
    exact List.prefix_of_prefix_length_le hshort hlong (by decide)
  revert hbegin
  decide

/-- Whatever the client sends, the handshake signs no registration. -/
theorem handshake_ne_register {K P S : Type} {C : HandshakeCalls K P S} {identity : HostIdentity}
    {incoming : Incoming} {written : Bool} {bytes : List UInt8}
    (h : bytes ∈ (SecureChannel.handshake C identity incoming written).2.signed) (fp : String)
    (challenge : List UInt8) : bytes ≠ registerTranscript fp challenge := by
  obtain ⟨_, share, -, rfl⟩ := SecureChannel.handshake_signed h
  exact (register_ne_handshake fp challenge share.clientPub share.serverPub share.nonce).symm

/-- The parts of known length stand at the end. -/
theorem handshakeTranscript_inj {clientPub clientPub' serverPub serverPub' nonce nonce' : List UInt8}
    (hserver : serverPub.length = serverPub'.length) (hnonce : nonce.length = nonce'.length)
    (h : handshakeTranscript clientPub serverPub nonce = handshakeTranscript clientPub' serverPub' nonce') :
    clientPub = clientPub' ∧ serverPub = serverPub' ∧ nonce = nonce' := by
  unfold handshakeTranscript at h
  obtain ⟨hrest, hnonce_eq⟩ := List.append_inj' h hnonce
  obtain ⟨hclient, hserver_eq⟩ := List.append_inj' hrest hserver
  exact ⟨List.append_cancel_left hclient, hserver_eq, hnonce_eq⟩

/-- The part of known length stands at the beginning. -/
theorem registerTranscript_inj {fp fp' : String} {challenge challenge' : List UInt8}
    (hlen : (Text.utf8 fp.toList).length = (Text.utf8 fp'.toList).length)
    (h : registerTranscript fp challenge = registerTranscript fp' challenge') :
    fp = fp' ∧ challenge = challenge' := by
  unfold registerTranscript at h
  rw [List.append_assoc, List.append_assoc] at h
  obtain ⟨hbytes, hchallenge⟩ := List.append_inj (List.append_cancel_left h) hlen
  exact ⟨String.toList_injective (Utf8.utf8_injective hbytes), hchallenge⟩

/-- **No text can be taken for another**, whatever the client sends as its key and the signaling server as
its challenge. -/
theorem transcripts_separate {sha256 : List UInt8 → List UInt8}
    (hsha256 : ∀ data, (sha256 data).length = 32) :
    (∀ fp challenge clientPub serverPub nonce,
      registerTranscript fp challenge ≠ handshakeTranscript clientPub serverPub nonce) ∧
    (∀ clientPub clientPub' serverPub serverPub' nonce nonce', serverPub.length = 65 →
      serverPub'.length = 65 → nonce.length = 32 → nonce'.length = 32 →
      handshakeTranscript clientPub serverPub nonce = handshakeTranscript clientPub' serverPub' nonce' →
      clientPub = clientPub' ∧ serverPub = serverPub' ∧ nonce = nonce') ∧
    (∀ publicKey publicKey' fp fp' challenge challenge', fingerprint sha256 publicKey = some fp →
      fingerprint sha256 publicKey' = some fp' →
      registerTranscript fp challenge = registerTranscript fp' challenge' →
      fp = fp' ∧ challenge = challenge') := by
  refine ⟨register_ne_handshake, ?_, ?_⟩
  · intro clientPub clientPub' serverPub serverPub' nonce nonce' hserver hserver' hnonce hnonce' h
    exact handshakeTranscript_inj (hserver.trans hserver'.symm) (hnonce.trans hnonce'.symm) h
  · intro publicKey publicKey' fp fp' challenge challenge' hfp hfp' h
    have hlen := fingerprint_length (hsha256 publicKey) hfp
    have hlen' := fingerprint_length (hsha256 publicKey') hfp'
    exact registerTranscript_inj (hlen.trans hlen'.symm) h

/-- A hash that is SHA-256 on `abc`. -/
def abcSha256 (data : List UInt8) : List UInt8 :=
  if data = [97, 98, 99] then
    [0xba, 0x78, 0x16, 0xbf, 0x8f, 0x01, 0xcf, 0xea, 0x41, 0x41, 0x40, 0xde, 0x5d, 0xae, 0x22, 0x23,
      0xb0, 0x03, 0x61, 0xa3, 0x96, 0x17, 0x7a, 0x9c, 0xb4, 0x10, 0xff, 0x61, 0xf2, 0x00, 0x15, 0xad]
  else List.replicate 32 0

def abcFingerprint : String :=
  "ba78:16bf:8f01:cfea:4141:40de:5dae:2223:b003:61a3:9617:7a9c:b410:ff61:f200:15ad"

theorem abcSha256_length (data : List UInt8) : (abcSha256 data).length = 32 := by
  unfold abcSha256
  split <;> rfl

theorem abc_fingerprint : fingerprint abcSha256 [97, 98, 99] = some abcFingerprint := by decide

/-- Two challenges for one fingerprint, and two client keys of different length. -/
theorem transcripts_separate_abc :
    registerTranscript abcFingerprint [1] ≠ registerTranscript abcFingerprint [1, 1] ∧
      handshakeTranscript [4] (4 :: List.replicate 64 7) (List.replicate 32 0) ≠
        handshakeTranscript [4, 4] (4 :: List.replicate 64 7) (List.replicate 32 0) := by
  obtain ⟨-, hhandshake, hregister⟩ := transcripts_separate abcSha256_length
  refine ⟨?_, ?_⟩
  · intro h
    have hsame := (hregister _ _ _ _ _ _ abc_fingerprint abc_fingerprint h).2
    revert hsame
    decide
  · intro h
    have hsame := (hhandshake _ _ _ _ _ _ rfl rfl rfl rfl h).1
    revert hsame
    decide

end Waypad
