import Waypad.Protocol.Wire
import Waypad.Server.Connection

/-!
# Waypad.Server.Requests — from the JSON of the requests to their responses (`src/server.rs`)

The two sides of `serde_json` that `ConnectionSetup` takes are put together here from its parser and what is
derived for the requests.

* `ReadsJson`: the setup reads its requests so; `Means`: the JSON of a frame is formed, and a message.
* `respondAll`: the arms of the loop, message after message.
* `requests_answered`: the loop over any frames that are messages.
-/

namespace Waypad

open Content

namespace Connection

variable {K : Type}

/-- `parse` is the parser of `serde_json`, and what is derived for the requests takes the formed contents so. -/
def ReadsJson (S : ConnectionSetup K) (parse : List UInt8 → Option Content) : Prop :=
  ∀ plaintext received, parse plaintext = some received → ClientSecureMessage.formed received = true →
    S.requests.fromSlice plaintext = ClientSecureMessage.tagged.codec.decode received

/-- The JSON of the frame is formed and read as the message. -/
def Means (parse : List UInt8 → Option Content) (frame : ClientFrame) (message : ClientSecureMessage) : Prop :=
  ∃ received, parse frame.plaintext = some received ∧ ClientSecureMessage.formed received = true ∧
    Reads received (ClientSecureMessage.tagged.codec.encode message)

/-- The responses to the messages, one after the other. -/
def respondAll (S : ConnectionSetup K) : Option TrustedDevice → List (ClientSecureMessage × RequestWorld) →
    List ServerSecureMessage
  | _, [] => []
  | authenticated, (message, w) :: rest =>
    let (response, authenticated) := respond S authenticated w message
    response :: respondAll S authenticated rest

section Requests

variable {S : ConnectionSetup K} {parse : List UInt8 → Option Content}

theorem Means.fromSlice (hjson : ReadsJson S parse) {frame : ClientFrame} {message : ClientSecureMessage}
    (h : Means parse frame message) : S.requests.fromSlice frame.plaintext = some message := by
  obtain ⟨received, hparse, hformed, hread⟩ := h
  rw [hjson _ _ hparse hformed]
  exact (ClientSecureMessage.tagged.codec.exact received message).mpr hread

/-- **The requests are answered**: authentic frames whose JSON is read as messages have the responses to
these messages, in order and each under the id of its message, and the loop waits for the next one. -/
theorem requests_answered (hjson : ReadsJson S parse) (channel : SecureChannel K)
    (authenticated : Option TrustedDevice) (frames : List (ClientFrame × RequestWorld))
    (messages : List ClientSecureMessage) (hauth : Authentic S channel (frames.map Prod.fst))
    (hmeans : List.Forall₂ (Means parse) (frames.map Prod.fst) messages)
    (hwrites : Writes (handleConnection S channel authenticated frames)) :
    handleConnection S channel authenticated frames =
        (respondAll S authenticated (messages.zip (frames.map Prod.snd)), .waiting) ∧
      (handleConnection S channel authenticated frames).1.map ServerSecureMessage.requestId =
        messages.map (fun message => some message.requestId) := by
  induction frames generalizing channel authenticated messages with
  | nil =>
    obtain rfl := List.forall₂_nil_left_iff.mp hmeans
    exact ⟨rfl, rfl⟩
  | cons f rest ih =>
    obtain ⟨frame, w⟩ := f
    obtain ⟨message, messages', hmessage, hrest, rfl⟩ := List.forall₂_cons_left_iff.mp hmeans
    have hrecv := recv_sealed hauth.1
    rw [hmessage.fromSlice hjson] at hrecv
    rw [handleConnection, hrecv] at hwrites ⊢
    dsimp only at hwrites ⊢
    -- every answer can be written
    cases hsend : channel.received.send S.responses S.sealInPlace (respond S authenticated w message).1 true with
    | mk result after =>
      have hafter : after = channel.received.sent := (congrArg Prod.snd hsend).symm
      rw [hsend] at hwrites
      cases result with
      | error err => exact absurd rfl (hwrites err)
      | ok line =>
        dsimp only at hwrites ⊢
        rw [hafter] at hwrites ⊢
        obtain ⟨hloop, hids⟩ := ih _ _ messages' hauth.2.sent hrest hwrites
        refine ⟨?_, ?_⟩
        · rw [hloop]
          rfl
        · rw [List.map_cons, hids, respond_requestId]
          rfl

end Requests

/-- The text of the ping, with the fields in another order and one more. -/
def demoParse (plaintext : List UInt8) : Option Content :=
  if plaintext == pingText then
    some (.object [("request_id", .string "r0"), ("sent_at", .int 5), ("type", .string "ping")])
  else none

def demoRequests : ConnectionSetup ℕ :=
  { demoConnection with
    requests :=
      { demoConnection.requests with
        fromSlice := fun plaintext => (demoParse plaintext).bind ClientSecureMessage.tagged.codec.decode } }

theorem demo_readsJson : ReadsJson demoRequests demoParse := by
  intro plaintext received hparse _
  show (demoParse plaintext).bind _ = _
  rw [hparse, Option.bind_some]

theorem demo_means : Means demoParse (demoFrame 0 pingText "r0") (.ping "r0") := by
  refine ⟨_, if_pos (by decide), by decide, ?_⟩
  exact (ClientSecureMessage.tagged.codec.exact _ _).mp rfl

theorem demo_writes : Writes (handleConnection demoRequests (SecureChannel.server 0 1) none
    [(demoFrame 0 pingText "r0", demoWorld)]) := by
  have hsealed : Sealed demoRequests (SecureChannel.server 0 1) (demoFrame 0 pingText "r0") := ping_sealed.1
  have hrecv := recv_sealed hsealed
  rw [demo_means.fromSlice demo_readsJson] at hrecv
  have hsend : ((SecureChannel.server 0 1).received.send demoRequests.responses
      demoRequests.sealInPlace (pong "r0") true).1.isOk = true := by decide +kernel
  rw [handleConnection, hrecv]
  simp only [respond]
  split
  · next err channel heq =>
    rw [heq] at hsend
    cases hsend
  · rintro err ⟨⟩

theorem demo_answered : handleConnection demoRequests (SecureChannel.server 0 1) none
    [(demoFrame 0 pingText "r0", demoWorld)] = ([pong "r0"], .waiting) :=
  (requests_answered demo_readsJson (SecureChannel.server 0 1) none [(demoFrame 0 pingText "r0", demoWorld)]
    [.ping "r0"] ping_sealed (.cons demo_means .nil) demo_writes).1

end Connection

end Waypad
