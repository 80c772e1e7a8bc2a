import Waypad.Lib.Base64
import Waypad.Lib.Text
import Waypad.Lib.Trans
import Waypad.Protocol

/-!
# Waypad.Signal.Client — the client of the signaling server (`src/signal.rs`)

`run_forever` runs one session after another; `run_session` connects, registers and relays.  A step is
what happens between two points at which the task waits: the outcome of a call that can fail, or the
message that comes in, is part of the action, and so are the calls on the client handle.

* `registerFrame`, `decodeEvent`: what is made of a message of the server.
* `step`: the task and the handle.
* `history`: the attempts, the registrations and the ends of the sessions.
-/

namespace Waypad

/-- Seconds: `RECONNECT_MIN`, `RECONNECT_MAX`. -/
def reconnectMin : ℕ := 2
def reconnectMax : ℕ := 60

/-- Messages the daemon sends to the signaling server. -/
inductive ClientMessage
  | register (fingerprint publicKey : String)
  | registerProof (signature : String)
  | signal (session : String) (payload : Value)
  | leave (session : String)
  | ping

/-- Messages the signaling server sends back. -/
inductive ServerMessage
  | welcome (protocol : ℕ)
  | challenge (nonce : String)
  | registered (fingerprint : String)
  | peerJoined (session : String)
  | connected (session : String)
  | signal (session : String) (payload : Value)
  | peerLeft (session reason : String)
  | pong
  | error (reason : String) (detail : Option String)

inductive SignalEvent
  | registered
  | peerJoined (session : String)
  | signal (session : String) (payload : Value)
  | peerLeft (session reason : String)
  | disconnected (reason : String)

/-- What `stream.next()` yields. -/
inductive SignalFrame
  /-- a text message, and what `serde_json` reads from it -/
  | text (message : Option ServerMessage)
  | close
  /-- a binary message, a ping or a pong -/
  | other
  | failed (err : String)
  /-- the end of the stream -/
  | ended

/-- The identity of the host, and the code of other crates that its registration rests on. -/
structure SignalSetup where
  fingerprint : String
  publicKeyB64 : String
  /-- `key_pair()?.sign(..)`: the signature depends on random bytes -/
  sign : List UInt8 → List UInt8 → Except String (List UInt8)
  /-- `{other:?}` -/
  debug : ServerMessage → String

/-- `REGISTER_TRANSCRIPT_PREFIX`. -/
def registerTranscriptPrefix : List UInt8 := Text.utf8 "WAYPAD-SIGNAL-REGISTER-v1".toList

/-- `register_transcript`. -/
def registerTranscript (fingerprint : String) (nonce : List UInt8) : List UInt8 :=
  registerTranscriptPrefix ++ Text.utf8 fingerprint.toList ++ nonce

/-- Where `register` is. -/
inductive RegisterStage
  /-- before the `Register` message is sent -/
  | register
  /-- waiting for the challenge -/
  | challenge
  /-- before the proof for a nonce is sent -/
  | proof (nonce : List UInt8)
  /-- waiting for the confirmation -/
  | confirm
  deriving DecidableEq, Repr

inductive SignalPhase
  /-- in `connect_async` -/
  | connecting
  | registering (stage : RegisterStage)
  /-- in the loop of `run_session` -/
  | relaying
  /-- `run_session` has returned, and the delay runs -/
  | sleeping
  deriving DecidableEq, Repr

/-- What has happened. -/
inductive SignalNote
  /-- `run_session` is called, and tries to connect -/
  | attempt
  /-- `register` has returned `Ok` -/
  | registered
  /-- `run_session` has returned `Ok`: the outbound channel is closed -/
  | closed
  /-- `run_session` has returned an error -/
  | failed (reason : String)
  /-- the delay before the next attempt, in seconds -/
  | waited (secs : ℕ)
  deriving DecidableEq, Repr

structure SignalClient where
  /-- the handle that `start` returned has not been dropped -/
  handle : Bool
  /-- the messages in the outbound channel -/
  outbound : List ClientMessage
  /-- the events sent to the handle -/
  events : List SignalEvent
  backoff : ℕ
  phase : SignalPhase
  /-- the messages sent on the socket of this session -/
  wire : List ClientMessage
  /-- ghost -/
  history : List SignalNote

inductive SignalAction
  /-- `send_signal`, `leave` and the drop of the handle -/
  | sendSignal (session : String) (payload : Value)
  | leave (session : String)
  | drop
  /-- `connect_async` returns; `none` when `HANDSHAKE_TIMEOUT` passes first -/
  | connect (reached : Option Bool)
  /-- `HANDSHAKE_TIMEOUT` passes in `register` -/
  | registerTimeout
  | sendRegister (sent : Bool)
  | sendProof (random : List UInt8) (sent : Bool)
  | receive (frame : SignalFrame)
  /-- `outbound.recv()` yields, and what it yields is sent -/
  | outgoing (sent : Bool)
  | keepalive (sent : Bool)
  /-- the delay is over -/
  | wake

/-- `detail.map(|d| format!(" ({d})")).unwrap_or_default()`. -/
def errorDetail (detail : Option String) : String :=
  (detail.map (fun d => " (" ++ d ++ ")")).getD ""

def couldNotSend : String := "could not send to the signaling server"

def cannotParse : String := "signaling server sent a message we cannot parse"

/-- `expect_message`: the next text message; the other frames but a close are skipped. -/
def expectMessage : SignalFrame → Except String (Option ServerMessage)
  | .ended | .close => .error "signaling server closed the connection during registration"
  | .failed err => .error err
  | .text none => .error cannotParse
  | .text (some message) => .ok (some message)
  | .other => .ok none

/-- The two loops of `register`: the stage after a frame, `none` once it returns `Ok`. -/
def registerFrame (P : SignalSetup) (stage : RegisterStage) (frame : SignalFrame) :
    Except String (Option RegisterStage) := do
  match ← expectMessage frame with
  | none => .ok (some stage)
  | some message =>
    match stage, message with
    | .challenge, .welcome _ => .ok (some stage)
    | .challenge, .challenge nonce =>
      match Base64.decode nonce.toList with
      | some bytes => .ok (some (.proof bytes))
      | none => .error "signaling challenge nonce is not valid base64"
    | .challenge, .error reason detail =>
      .error ("signaling server rejected registration: " ++ reason ++ errorDetail detail)
    | .confirm, .registered _ => .ok none
    | .confirm, .welcome _ | .confirm, .pong => .ok (some stage)
    | .confirm, .error reason detail =>
      .error ("signaling server rejected the proof: " ++ reason ++ errorDetail detail)
    | _, other => .error ("unexpected message while registering: " ++ P.debug other)

/-- `decode_event`. -/
def decodeEvent : ServerMessage → Option SignalEvent
  | .peerJoined session => some (.peerJoined session)
  | .signal session payload => some (.signal session payload)
  | .peerLeft session reason => some (.peerLeft session reason)
  | _ => none

/-- What the loop of `run_session` makes of a frame. -/
def relayFrame : SignalFrame → Except String (Option SignalEvent)
  | .ended | .close => .error "signaling server closed the connection"
  | .failed err => .error err
  | .text none => .error cannotParse
  | .text (some message) => .ok (decodeEvent message)
  | .other => .ok none

namespace SignalClient

/-- `SignalClient::start`: `run_forever` enters its first session. -/
def start : SignalClient :=
  { handle := true, outbound := [], events := [], backoff := reconnectMin, phase := .connecting
    wire := [], history := [.attempt] }

/-- `events.send`, whose result is ignored. -/
def emit (self : SignalClient) (event : SignalEvent) : SignalClient :=
  if self.handle then { self with events := self.events ++ [event] } else self

/-- `run_session` returns an error. -/
def fail (self : SignalClient) (reason : String) : SignalClient :=
  { self.emit (.disconnected reason) with
    phase := .sleeping, history := self.history ++ [.failed reason] }

/-- `run_session` returns `Ok(())`. -/
def close (self : SignalClient) : SignalClient :=
  { self with
    phase := .sleeping, backoff := reconnectMin, history := self.history ++ [.closed] }

/-- `send`. -/
def send (self : SignalClient) (message : ClientMessage) (sent : Bool) (next : SignalPhase) :
    SignalClient :=
  if sent then { self with wire := self.wire ++ [message], phase := next } else self.fail couldNotSend

def step (P : SignalSetup) (self : SignalClient) (action : SignalAction) : Option SignalClient :=
  match action, self.phase with
  | .sendSignal session payload, _ =>
    if self.handle then some { self with outbound := self.outbound ++ [.signal session payload] }
    else none
  | .leave session, _ =>
    if self.handle then some { self with outbound := self.outbound ++ [.leave session] } else none
  | .drop, _ => if self.handle then some { self with handle := false } else none
  | .connect none, .connecting => some (self.fail "timed out connecting to the signaling server")
  | .connect (some false), .connecting => some (self.fail "could not reach the signaling server")
  | .connect (some true), .connecting =>
    some { self with phase := .registering .register, wire := [] }
  | .registerTimeout, .registering _ =>
    some (self.fail "timed out registering with the signaling server")
  | .sendRegister sent, .registering .register =>
    some (self.send (.register P.fingerprint P.publicKeyB64) sent (.registering .challenge))
  | .sendProof random sent, .registering (.proof nonce) =>
    match P.sign random (registerTranscript P.fingerprint nonce) with
    | .error err => some (self.fail err)
    | .ok signature =>
      some (self.send (.registerProof (String.ofList (Base64.encode signature))) sent
        (.registering .confirm))
  | .receive frame, .registering stage =>
    if stage = .challenge ∨ stage = .confirm then
      match registerFrame P stage frame with
      | .error err => some (self.fail err)
      | .ok (some stage) => some { self with phase := .registering stage }
      | .ok none =>
        some { self.emit .registered with
          phase := .relaying, history := self.history ++ [.registered] }
    else none
  | .receive frame, .relaying =>
    match relayFrame frame with
    | .error err => some (self.fail err)
    | .ok (some event) => some (self.emit event)
    | .ok none => some self
  | .outgoing sent, .relaying =>
    match self.outbound with
    | message :: rest => some ({ self with outbound := rest }.send message sent .relaying)
    | [] => if self.handle then none else some self.close
  | .keepalive sent, .relaying => some (self.send .ping sent .relaying)
  | .wake, .sleeping =>
    some { self with
      phase := .connecting, backoff := min (self.backoff * 2) reconnectMax
      history := self.history ++ [.waited self.backoff, .attempt] }
  | _, _ => none

end SignalClient

end Waypad
