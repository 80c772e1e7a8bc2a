import Waypad.Crypto.LineLimit
import Waypad.Server.HandlePair

/-!
# Waypad.Server.Connection — the loop of `handle_connection` (`src/server.rs`)

One connection from the end of its handshake on: `recv`, the handler, `send`, again and again.  A frame
that does not decode leaves `recv` as an error, and the `?` there ends the connection without an answer.

* `ClientFrame`: what a client sends; `Sealed`, `Authentic`: the frames are sealed one after the other.
* `respond`: the arms of the loop; `handleConnection`: the loop.
* `Answers`: one response for each frame.
* `answers_iff`: exactly when the frames are answered.

The two sides of `serde_json` and of the cipher are fields of `ConnectionSetup`.
-/

namespace Waypad

/-- A line of a client, the JSON sealed in it and the request id of that JSON. -/
structure ClientFrame where
  incoming : Incoming
  plaintext : List UInt8
  requestId : String

/-- What one request finds, and what its environment answers.  Other connections run between two requests
and within one, so the stores are those found at each check. -/
structure RequestWorld where
  stores : PairStores
  pair : PairWorld
  /-- `now_unix()` in `handle_auth` -/
  authAt : ℕ
  authSave : SaveOutcome
  authSaveError : String
  capabilities : Value
  /-- what the `match` of `handle_command` yields -/
  run : Command → Except String (Option Value)

/-- What does not change during a connection. -/
structure ConnectionSetup (K : Type) where
  host : Setup
  peer : SocketAddr
  requests : Json ClientSecureMessage
  responses : Json ServerSecureMessage
  sealInPlace : AeadCall K → Option (List UInt8)
  openInPlace : AeadCall K → Option (List UInt8)
  /-- the text JSON has under a key of its outermost object: `value.get(key).and_then(Value::as_str)` -/
  objectString : List UInt8 → String → Option String

/-- Why the loop stands still or has ended. -/
inductive LoopEnd
  /-- in `channel.recv()` -/
  | waiting
  | recvFailed (err : CryptoError)
  | sendFailed (err : CryptoError)
  deriving DecidableEq, Repr

namespace ClientSecureMessage

def requestId : ClientSecureMessage → String
  | pairRequest request => request.requestId
  | authRequest request => request.requestId
  | command requestId _ => requestId
  | ping requestId => requestId

/-- The `type` tags. -/
def types : List String := ["pair_request", "auth_request", "command", "ping"]

end ClientSecureMessage

namespace ServerSecureMessage

def requestId : ServerSecureMessage → Option String
  | response requestId _ _ _ => some requestId
  | event _ _ => none

end ServerSecureMessage

@[simp] theorem responseOk_requestId (r : String) (d : Value) : (responseOk r d).requestId = some r := rfl
@[simp] theorem responseEmpty_requestId (r : String) : (responseEmpty r).requestId = some r := rfl
@[simp] theorem responseError_requestId (r : String) (e : ApiError) :
    (responseError r e).requestId = some r := rfl

/-- The answer to a `Ping`. -/
def pong (requestId : String) : ServerSecureMessage :=
  responseOk requestId (.object [("pong", .bool true), ("protocol", .number PROTOCOL_VERSION)])

namespace Connection

variable {K : Type}

/-- One arm of the loop: the response, and the device that is authenticated from now on. -/
def respond (S : ConnectionSetup K) (authenticated : Option TrustedDevice) (w : RequestWorld) :
    ClientSecureMessage → ServerSecureMessage × Option TrustedDevice
  | .pairRequest request =>
    let ((response, device), _) := handlePair S.host w.capabilities S.peer request w.pair w.stores
    (response, device.or authenticated)
  | .authRequest request =>
    let (response, device, _, _) := handleAuth S.host.sha256Hex
      ⟨S.host.hostName, S.host.fingerprint, w.capabilities⟩ w.stores.devices request w.authAt w.authSave
      w.authSaveError
    (response, device.or authenticated)
  | .command requestId command =>
    if authenticated.isNone then (responseError requestId unauthenticated, authenticated)
    else (commandResponse requestId (w.run command), authenticated)
  | .ping requestId => (pong requestId, authenticated)

/-- The loop of `handle_connection`: the responses it has sent, and how it stands. -/
def handleConnection (S : ConnectionSetup K) : SecureChannel K → Option TrustedDevice →
    List (ClientFrame × RequestWorld) → List ServerSecureMessage × LoopEnd
  | _, _, [] => ([], .waiting)
  | channel, authenticated, (frame, w) :: rest =>
    match channel.recv S.requests S.openInPlace frame.incoming with
    | (.error err, _) => ([], .recvFailed err)
    | (.ok message, channel) =>
      let (response, authenticated) := respond S authenticated w message
      match channel.send S.responses S.sealInPlace response true with
      | (.error err, _) => ([], .sendFailed err)
      | (.ok _, channel) =>
        let (sent, stands) := handleConnection S channel authenticated rest
        (response :: sent, stands)

/-! ## What is asked of it -/

/-- The line is a frame with the number the channel expects, and it opens to the plaintext. -/
def Sealed (S : ConnectionSetup K) (channel : SecureChannel K) (frame : ClientFrame) : Prop :=
  ∃ wire ciphertext, readPlainJson S.requests.frameFromStr frame.incoming = .ok wire ∧
    wire.seq = channel.nextInboundSeq ∧ Base64.decode wire.ciphertext = some ciphertext ∧
    S.openInPlace (channel.openCall wire.seq ciphertext) = some frame.plaintext

/-- The frames are sealed, one number after the other. -/
def Authentic (S : ConnectionSetup K) : SecureChannel K → List ClientFrame → Prop
  | _, [] => True
  | channel, frame :: rest => Sealed S channel frame ∧ Authentic S channel.received rest

/-- The plaintext is a JSON object with a known `type` and a `request_id`. -/
def Carries (S : ConnectionSetup K) (frame : ClientFrame) : Prop :=
  (∃ tag ∈ ClientSecureMessage.types, S.objectString frame.plaintext "type" = some tag) ∧
    S.objectString frame.plaintext "request_id" = some frame.requestId

/-- What is assumed of `serde_json`: of an object it takes the `request_id` that stands in it.  A message can
also be read from an array, which has no keys. -/
structure ReadsObjects (S : ConnectionSetup K) : Prop where
  requestId : ∀ plaintext message requestId, S.objectString plaintext "request_id" = some requestId →
    S.requests.fromSlice plaintext = some message → requestId = message.requestId

/-- A command that is unknown, has arguments that do not decode, or fails. -/
def CannotRun (S : ConnectionSetup K) (frame : ClientFrame) (w : RequestWorld) : Prop :=
  S.objectString frame.plaintext "type" = some "command" ∧
    (S.requests.fromSlice frame.plaintext = none ∨ ∃ requestId command err,
      S.requests.fromSlice frame.plaintext = some (.command requestId command) ∧
      w.run command = .error err)

/-- The response to a frame. -/
structure AnswerTo (S : ConnectionSetup K) (frame : ClientFrame × RequestWorld)
    (response : ServerSecureMessage) : Prop where
  requestId : response.requestId = some frame.1.requestId
  refused : CannotRun S frame.1 frame.2 → response.isOk = false

/-- The loop goes on, and every frame has its response, in order. -/
def Answers (S : ConnectionSetup K) (frames : List (ClientFrame × RequestWorld))
    (result : List ServerSecureMessage × LoopEnd) : Prop :=
  List.Forall₂ (AnswerTo S) frames result.1 ∧ result.2 = .waiting

/-- Every write succeeds. -/
def Writes (result : List ServerSecureMessage × LoopEnd) : Prop :=
  ∀ err, result.2 ≠ .sendFailed err

/-! ## The responses -/

section Respond

variable {S : ConnectionSetup K} {authenticated : Option TrustedDevice} {w : RequestWorld}

theorem commandResponse_requestId (requestId : String) (result : Except String (Option Value)) :
    (commandResponse requestId result).requestId = some requestId := by
  unfold commandResponse
  split <;> rfl

theorem handlePairStore_requestId {sha256Hex : String → String} {info : HostInfo}
    {devices : TrustedDevices} {request : PairRequest} {token : Except String String}
    {uuid saveError : String} {now : ℕ} {save : SaveOutcome} :
    (handlePairStore sha256Hex info devices request token uuid now save saveError).1.requestId =
      some request.requestId := by
  unfold handlePairStore
  split
  · rfl
  · split <;> rfl

theorem handleAuth_requestId {sha256Hex : String → String} {info : HostInfo} {devices : TrustedDevices}
    {request : AuthRequest} {now : ℕ} {save : SaveOutcome} {saveError : String} :
    (handleAuth sha256Hex info devices request now save saveError).1.requestId =
      some request.requestId := by
  unfold handleAuth
  split
  · rfl
  · split <;> rfl

theorem handlePair_requestId {P : Setup} {capabilities : Value} {peer : SocketAddr}
    {request : PairRequest} {w : PairWorld} {s : PairStores} :
    (handlePair P capabilities peer request w s).1.1.requestId = some request.requestId := by
  unfold handlePair
  split
  · rfl
  · split
    · rfl
    · rfl
    · exact handlePairStore_requestId

/-- Every handler answers under the id of its request. -/
theorem respond_requestId (message : ClientSecureMessage) :
    (respond S authenticated w message).1.requestId = some message.requestId := by
  cases message with
  | pairRequest request => exact handlePair_requestId
  | authRequest request => exact handleAuth_requestId
  | command requestId command =>
    simp only [respond]
    split
    · rfl
    · exact commandResponse_requestId requestId _
  | ping requestId => rfl

/-- A command that fails is answered with an error, authenticated or not. -/
theorem respond_failed {requestId err : String} {command : Command} (hrun : w.run command = .error err) :
    (respond S authenticated w (.command requestId command)).1.isOk = false := by
  simp only [respond, hrun]
  split <;> rfl

/-- What the handlers answer is an answer to the frame. -/
theorem answerTo_respond {frame : ClientFrame} {message : ClientSecureMessage} (hreads : ReadsObjects S)
    (hcarries : Carries S frame) (hmessage : S.requests.fromSlice frame.plaintext = some message) :
    AnswerTo S (frame, w) (respond S authenticated w message).1 := by
  refine ⟨?_, ?_⟩
  · rw [respond_requestId, hreads.requestId _ _ _ hcarries.2 hmessage]
  · rintro ⟨-, hnone | ⟨requestId, command, err, hcommand, hrun⟩⟩
    · rw [hmessage] at hnone
      cases hnone
    · rw [hmessage] at hcommand
      obtain rfl := Option.some.inj hcommand
      exact respond_failed hrun

end Respond

/-! ## The loop -/

section Loop

variable {S : ConnectionSetup K} {channel : SecureChannel K} {authenticated : Option TrustedDevice}
  {frame : ClientFrame} {frames : List ClientFrame}

/-- `recv` on an authentic frame: all depends on whether the plaintext decodes. -/
theorem recv_sealed (hsealed : Sealed S channel frame) :
    channel.recv S.requests S.openInPlace frame.incoming =
      (match S.requests.fromSlice frame.plaintext with
        | none => .error .json
        | some message => .ok message, channel.received) := by
  obtain ⟨wire, ciphertext, hread, hseq, hdecode, hopen⟩ := hsealed
  simp only [SecureChannel.recv, hread, hseq, ne_eq, not_true_eq_false, ↓reduceIte]
  rw [hseq] at hopen
  simp only [SecureChannel.openFrame, hdecode, hseq, hopen]
  cases S.requests.fromSlice frame.plaintext with
  | none => rfl
  | some message => rfl

/-- Sending does not move the inbound side. -/
theorem Authentic.sent (h : Authentic S channel frames) : Authentic S channel.sent frames := by
  induction frames generalizing channel with
  | nil => trivial
  | cons frame rest ih => exact ⟨h.1, ih h.2⟩

/-- **The loop**: authentic frames are answered exactly when each of them decodes. -/
theorem handleConnection_answers (hreads : ReadsObjects S) (frames : List (ClientFrame × RequestWorld))
    (hauth : Authentic S channel (frames.map Prod.fst)) (hcarries : ∀ f ∈ frames, Carries S f.1)
    (hwrites : Writes (handleConnection S channel authenticated frames)) :
    Answers S frames (handleConnection S channel authenticated frames) ↔
      ∀ f ∈ frames, S.requests.fromSlice f.1.plaintext ≠ none := by
  induction frames generalizing channel authenticated with
  | nil => simp [Answers, handleConnection]
  | cons f rest ih =>
    obtain ⟨frame, w⟩ := f
    obtain ⟨hsealed, hrest⟩ := hauth
    have hcarry := hcarries _ List.mem_cons_self
    have hcarries' : ∀ f ∈ rest, Carries S f.1 := fun f hf => hcarries f (List.mem_cons_of_mem _ hf)
    have hrecv := recv_sealed hsealed
    rw [List.forall_mem_cons]
    cases hmessage : S.requests.fromSlice frame.plaintext with
    | none =>
      -- the connection ends here, and the frame has no answer
      rw [hmessage] at hrecv
      rw [handleConnection, hrecv]
      refine iff_of_false ?_ ?_
      · rintro ⟨-, hwaiting⟩
        cases hwaiting
      · rintro ⟨hdecodes, -⟩
        exact hdecodes rfl
    | some message =>
      rw [hmessage] at hrecv
      rw [handleConnection, hrecv] at hwrites ⊢
      dsimp only at hwrites ⊢
      have hanswer : AnswerTo S (frame, w) (respond S authenticated w message).1 :=
        answerTo_respond hreads hcarry hmessage
      cases hsend : channel.received.send S.responses S.sealInPlace (respond S authenticated w message).1
          true with
      | mk result after =>
        -- the channel goes on with its counters one further
        have hafter : after = channel.received.sent := (congrArg Prod.snd hsend).symm
        rw [hsend] at hwrites
        cases result with
        | error err => exact absurd rfl (hwrites err)
        | ok line =>
          dsimp only at hwrites ⊢
          rw [hafter] at hwrites ⊢
          have hih := ih hrest.sent hcarries' hwrites
          rw [← hih]
          refine ⟨?_, ?_⟩
          · rintro ⟨hall, hwaiting⟩
            exact ⟨by simp, (List.forall₂_cons.mp hall).2, hwaiting⟩
          · rintro ⟨-, hall, hwaiting⟩
            exact ⟨List.Forall₂.cons hanswer hall, hwaiting⟩

end Loop

/-! ## A command the daemon does not know -/

/-- The bytes of an ASCII text. -/
def asciiBytes (text : String) : List UInt8 := text.toList.map (fun c => UInt8.ofNat c.toNat)

def pingText : List UInt8 := asciiBytes "\x7b\"type\":\"ping\",\"request_id\":\"r0\"\x7d"

def rebootText : List UInt8 :=
  asciiBytes "\x7b\"type\":\"command\",\"request_id\":\"r1\",\"command\":\x7b\"name\":\"reboot\"\x7d\x7d"

/-- The response to the ping. -/
def pongText : List UInt8 :=
  asciiBytes "\x7b\"type\":\"response\",\"request_id\":\"r0\",\"ok\":true," ++
    asciiBytes "\"data\":\x7b\"pong\":true,\"protocol\":1\x7d,\"error\":null\x7d"

/-- `serde_json` on these three texts. -/
def demoConnection : ConnectionSetup ℕ :=
  { host := Host.demoSetup
    peer := Host.demoPeer
    requests :=
      { toVec := fun _ => none
        fromSlice := fun text => if text == pingText then some (.ping "r0") else none
        frameFromStr := WireFrame.ofText }
    responses :=
      { toVec := fun _ => some pongText
        fromSlice := fun _ => none
        frameFromStr := WireFrame.ofText }
    sealInPlace := SecureChannel.demoSeal
    openInPlace := SecureChannel.demoOpen
    objectString := fun text key =>
      if text == pingText then
        ([("type", "ping"), ("request_id", "r0")] : List (String × String)).lookup key
      else if text == rebootText then
        ([("type", "command"), ("request_id", "r1")] : List (String × String)).lookup key
      else none }

/-- The line a client makes of a text. -/
def demoFrame (seq : UInt64) (text : List UInt8) (requestId : String) : ClientFrame :=
  { incoming := .line (WireFrame.toText ⟨seq, Base64.encode (text ++ List.replicate 16 0)⟩ ++ ['\n'])
    plaintext := text
    requestId }

def demoWorld : RequestWorld :=
  { stores := HandlePair.demoStores, pair := HandlePair.demoFull, authAt := 0, authSave := .ok
    authSaveError := "", capabilities := .null, run := fun _ => .ok none }

theorem demo_sealed {channel : SecureChannel ℕ} {text : List UInt8} {requestId : String}
    (hshort : frameLen channel.nextInboundSeq text.length < maxLine) :
    Sealed demoConnection channel (demoFrame channel.nextInboundSeq text requestId) := by
  have hnewline : Text.len ['\n'] = 1 := by decide
  refine ⟨⟨channel.nextInboundSeq, Base64.encode (text ++ List.replicate 16 0)⟩,
    text ++ List.replicate 16 0, ?_, rfl, Base64.decode_encode _, ?_⟩
  · have hlen : Text.len (WireFrame.toText ⟨channel.nextInboundSeq,
        Base64.encode (text ++ List.replicate 16 0)⟩ ++ ['\n']) =
        frameLen channel.nextInboundSeq text.length + 1 := by
      rw [Text.len_append, hnewline, len_toText, List.length_append, List.length_replicate]
      rfl
    have hread := WireFrame.ofText_toText
      ⟨channel.nextInboundSeq, Base64.encode (text ++ List.replicate 16 0)⟩ (Base64.encode_ne_quote _)
    simp only [readPlainJson, demoFrame, demoConnection, hlen, trimEnd_toText, hread]
    rw [if_neg (by omega)]
  · simp [demoConnection, SecureChannel.demoOpen, SecureChannel.openCall, demoFrame]

theorem demo_readsObjects : ReadsObjects demoConnection := by
  refine ⟨fun plaintext message requestId hid hmessage => ?_⟩
  simp only [demoConnection] at hid hmessage
  split at hmessage
  · next htext =>
    obtain rfl := Option.some.inj hmessage
    rw [if_pos htext] at hid
    exact (Option.some.inj hid).symm
  · cases hmessage

theorem demo_carries {seq : UInt64} {text : List UInt8} {requestId : String} (tag : String)
    (htag : tag ∈ ClientSecureMessage.types) (htype : demoConnection.objectString text "type" = some tag)
    (hid : demoConnection.objectString text "request_id" = some requestId) :
    Carries demoConnection (demoFrame seq text requestId) := ⟨⟨tag, htag, htype⟩, hid⟩

theorem reboot_sealed : Authentic demoConnection (SecureChannel.server 0 1) [demoFrame 0 rebootText "r1"] :=
  ⟨demo_sealed (by decide), trivial⟩

theorem ping_sealed : Authentic demoConnection (SecureChannel.server 0 1) [demoFrame 0 pingText "r0"] :=
  ⟨demo_sealed (by decide), trivial⟩

/-- At the command `reboot` the loop ends. -/
theorem reboot_run : handleConnection demoConnection (SecureChannel.server 0 1) none
    [(demoFrame 0 rebootText "r1", demoWorld)] = ([], .recvFailed .json) := by
  have hnone : demoConnection.requests.fromSlice rebootText = none := by decide
  have hrecv := recv_sealed reboot_sealed.1
  rw [show (demoFrame 0 rebootText "r1").plaintext = rebootText from rfl, hnone] at hrecv
  rw [handleConnection, hrecv]

/-- The ping is answered, and the loop waits. -/
theorem ping_run : handleConnection demoConnection (SecureChannel.server 0 1) none
    [(demoFrame 0 pingText "r0", demoWorld)] = ([pong "r0"], .waiting) := by
  have hsome : demoConnection.requests.fromSlice pingText = some (.ping "r0") := by decide
  have hrecv := recv_sealed ping_sealed.1
  rw [show (demoFrame 0 pingText "r0").plaintext = pingText from rfl, hsome] at hrecv
  have hsend : ((SecureChannel.server 0 1).received.send demoConnection.responses
      demoConnection.sealInPlace (pong "r0") true).1.isOk = true := by decide +kernel
  rw [handleConnection, hrecv]
  simp only [respond]
  split
  · next err channel heq =>
    rw [heq] at hsend
    cases hsend
  · rfl

/-- **The connection ends** at a command that is not known, and no response is sent. -/
theorem unknown_ends : ReadsObjects demoConnection ∧
    Authentic demoConnection (SecureChannel.server 0 1) [demoFrame 0 rebootText "r1"] ∧
    Carries demoConnection (demoFrame 0 rebootText "r1") ∧
    Writes (handleConnection demoConnection (SecureChannel.server 0 1) none
      [(demoFrame 0 rebootText "r1", demoWorld)]) ∧
    ¬ Answers demoConnection [(demoFrame 0 rebootText "r1", demoWorld)]
      (handleConnection demoConnection (SecureChannel.server 0 1) none
        [(demoFrame 0 rebootText "r1", demoWorld)]) := by
  refine ⟨demo_readsObjects, reboot_sealed, demo_carries "command" (by decide) (by decide) (by decide),
    ?_, ?_⟩
  · rw [reboot_run]
    rintro err ⟨⟩
  · rw [reboot_run]
    rintro ⟨-, hwaiting⟩
    cases hwaiting

/-- **The responses**: on a connection whose writes succeed, authentic frames with JSON objects are
answered, each one and in order, exactly when every object decodes as a `ClientSecureMessage`. -/
theorem answers_iff {K : Type} {S : ConnectionSetup K} (hreads : ReadsObjects S) (channel : SecureChannel K)
    (authenticated : Option TrustedDevice) (frames : List (ClientFrame × RequestWorld))
    (hauth : Authentic S channel (frames.map Prod.fst)) (hcarries : ∀ f ∈ frames, Carries S f.1)
    (hwrites : Writes (handleConnection S channel authenticated frames)) :
    Answers S frames (handleConnection S channel authenticated frames) ↔
      ∀ f ∈ frames, S.requests.fromSlice f.1.plaintext ≠ none :=
  handleConnection_answers hreads frames hauth hcarries hwrites

/-- The ping is answered. -/
theorem ping_demo : Answers demoConnection [(demoFrame 0 pingText "r0", demoWorld)]
    (handleConnection demoConnection (SecureChannel.server 0 1) none
      [(demoFrame 0 pingText "r0", demoWorld)]) := by
  refine (answers_iff demo_readsObjects _ _ _ ping_sealed ?_ ?_).mpr ?_
  · rw [List.forall_mem_singleton]
    exact demo_carries "ping" (by decide) (by decide) (by decide)
  · rw [ping_run]
    rintro err ⟨⟩
  · rw [List.forall_mem_singleton]
    decide

end Connection

end Waypad
