import Mathlib.Data.List.Nodup
import Waypad.Crypto.Channel
import Waypad.Lib.Trans

/-!
# Waypad.Crypto.Session — two ends of a channel and an attacker between them

Each direction has a sender, the messages passed to its `send` and the messages its receiver's `recv`
has returned before the first error.  The attacker owns the network: a `deliver` step hands a receiver
any line at all, so lines can be injected, dropped, doubled, reordered, altered or reflected.

The cipher is ideal: it opens exactly what was sealed before under the same key, nonce and associated
data (`openSealed`).

* `Secured`: what is received is a prefix of what was passed to `send`, and no nonce is used twice.
* `SessionInv`: sealed texts are the messages of their direction, numbered; `session_secured`.
-/

namespace Waypad

inductive Direction
  | c2s | s2c
  deriving DecidableEq, Repr

inductive Side
  | server | client
  deriving DecidableEq, Repr

namespace Direction

def sender : Direction → Side
  | c2s => .client
  | s2c => .server

def receiver : Direction → Side
  | c2s => .server
  | s2c => .client

def head : Direction → List UInt8
  | c2s => c2sPrefix
  | s2c => s2cPrefix

end Direction

/-- What does not change in a session: the keys, the messages of each direction and their JSON, and the
cipher's choice of ciphertexts. -/
structure SessionSetup (K : Type) (M : Direction → Type) where
  key : Direction → K
  json : (d : Direction) → Json (M d)
  sealInPlace : AeadCall K → Option (List UInt8)

structure Session (K : Type) (M : Direction → Type) where
  channel : Side → SecureChannel K
  /-- the messages passed to `send` -/
  passed : (d : Direction) → List (M d)
  /-- the messages `recv` returned before its first error -/
  got : (d : Direction) → List (M d)
  /-- `recv` has returned an error, so the receiver has dropped the channel -/
  dropped : Direction → Bool
  /-- every call of the cipher's seal -/
  calls : List (AeadCall K)
  /-- the calls that succeeded, with their ciphertexts -/
  ledger : List (AeadCall K × List UInt8)

inductive SessionAct (M : Direction → Type)
  | send (d : Direction) (message : M d) (written : Bool)
  | deliver (d : Direction) (incoming : Incoming)

namespace Session

variable {K : Type} {M : Direction → Type}

def init (P : SessionSetup K M) : Session K M :=
  { channel := fun side =>
      match side with
      | .server => .server (P.key .c2s) (P.key .s2c)
      | .client => (SecureChannel.server (P.key .c2s) (P.key .s2c)).mirror
    passed := fun _ => [], got := fun _ => [], dropped := fun _ => false, calls := [], ledger := [] }

/-- The ideal cipher: the plaintext of the ledger's entry with the key, nonce, data and ciphertext. -/
def openSealed [DecidableEq K] (ledger : List (AeadCall K × List UInt8)) (call : AeadCall K) :
    Option (List UInt8) :=
  (ledger.find? (fun e => e.1.key == call.key && e.1.nonce == call.nonce && e.1.aad == call.aad &&
    e.2 == call.text)).map (fun e => e.1.text)

/-- One end calls `send`. -/
def stepSend (P : SessionSetup K M) (s : Session K M) (d : Direction) (message : M d)
    (written : Bool) : Session K M :=
  let channel := s.channel d.sender
  let call := channel.sealCall (P.json d) message
  { s with
    channel := Function.update s.channel d.sender
      (channel.send (P.json d) P.sealInPlace message written).2
    passed := Function.update s.passed d (s.passed d ++ [message])
    calls := s.calls ++ call.toList
    ledger := s.ledger ++ (call.bind (fun call =>
      (P.sealInPlace call).map (fun ciphertext => (call, ciphertext)))).toList }

/-- One end calls `recv` and gets what the attacker hands it. -/
def stepDeliver [DecidableEq K] (P : SessionSetup K M) (s : Session K M) (d : Direction)
    (incoming : Incoming) : Option (Session K M) :=
  if s.dropped d then none
  else
    match (s.channel d.receiver).recv (P.json d) (openSealed s.ledger) incoming with
    | (.ok message, channel) => some { s with
        channel := Function.update s.channel d.receiver channel
        got := Function.update s.got d (s.got d ++ [message]) }
    | (.error _, channel) => some { s with
        channel := Function.update s.channel d.receiver channel
        dropped := Function.update s.dropped d true }

def step [DecidableEq K] (P : SessionSetup K M) (s : Session K M) : SessionAct M → Option (Session K M)
  | .send d message written => some (s.stepSend P d message written)
  | .deliver d incoming => s.stepDeliver P d incoming

/-- What the parser makes of a message that was rendered. -/
def ReadBack (P : SessionSetup K M) (d : Direction) (message message' : M d) : Prop :=
  ∃ plaintext, (P.json d).toVec message = some plaintext ∧ (P.json d).fromSlice plaintext = some message'

/-- What is received is what is read back of a prefix of what was passed to `send`, and no nonce is used twice
under one key. -/
structure Secured (P : SessionSetup K M) (s : Session K M) : Prop where
  received : ∀ d, ∃ sent, sent <+: s.passed d ∧ List.Forall₂ (ReadBack P d) sent (s.got d)
  nonces : (s.calls.map (fun call => (call.key, call.nonce))).Nodup

/-- What was rendered parses, if at all, as the same message. -/
def Faithful (P : SessionSetup K M) : Prop :=
  ∀ d message plaintext message', (P.json d).toVec message = some plaintext →
    (P.json d).fromSlice plaintext = some message' → message' = message

/-- Then what is read back is what was passed. -/
theorem Secured.prefix_of_faithful {P : SessionSetup K M} {s : Session K M} (h : Secured P s)
    (hjson : Faithful P) (d : Direction) : s.got d <+: s.passed d := by
  obtain ⟨sent, hsent, hread⟩ := h.received d
  have heq : s.got d = sent := by
    refine List.forall₂_eq_eq_eq ▸ hread.flip.imp ?_
    rintro message' message ⟨plaintext, hvec, hfrom⟩
    exact hjson d message plaintext message' hvec hfrom
  rw [heq]
  exact hsent

/-- Each direction stays below `2 ^ 64` frames. -/
def Short (s : Session K M) : SessionAct M → Prop
  | .send d _ _ => (s.passed d).length + 1 < 2 ^ 64
  | .deliver _ _ => True

/-! ## The invariant -/

/-- The seal of message number `i` of a direction. -/
def Numbered (P : SessionSetup K M) (s : Session K M) (call : AeadCall K) : Prop :=
  ∃ d i message, (s.passed d)[i]? = some message ∧ (P.json d).toVec message = some call.text ∧
    call.key = P.key d ∧ call.nonce = nonce d.head (UInt64.ofNat i)

/-- The sender's end of direction `d` after `n` messages. -/
def Sends (P : SessionSetup K M) (d : Direction) (n : ℕ) (channel : SecureChannel K) : Prop :=
  channel.outboundKey = P.key d ∧ channel.outboundPrefix = d.head ∧
    channel.nextOutboundSeq = UInt64.ofNat n

/-- The receiver's end of direction `d` after `n` messages. -/
def Receives (P : SessionSetup K M) (d : Direction) (n : ℕ) (channel : SecureChannel K) : Prop :=
  channel.inboundKey = P.key d ∧ channel.inboundPrefix = d.head ∧
    channel.nextInboundSeq = UInt64.ofNat n

structure SessionInv (P : SessionSetup K M) (s : Session K M) : Prop where
  sender : ∀ d, Sends P d (s.passed d).length (s.channel d.sender)
  receiver : ∀ d, s.dropped d = false → Receives P d (s.got d).length (s.channel d.receiver)
  short : ∀ d, (s.passed d).length < 2 ^ 64
  numbered : ∀ call ∈ s.calls, Numbered P s call
  ledger : ∀ e ∈ s.ledger, e.1 ∈ s.calls
  secured : Secured P s

theorem sender_inj {d d' : Direction} (h : d.sender = d'.sender) : d = d' := by
  cases d <;> cases d' <;> first | rfl | cases h

theorem receiver_inj {d d' : Direction} (h : d.receiver = d'.receiver) : d = d' := by
  cases d <;> cases d' <;> first | rfl | cases h

theorem key_inj {P : SessionSetup K M} (hkeys : P.key .c2s ≠ P.key .s2c) {d d' : Direction}
    (h : P.key d = P.key d') : d = d' := by
  cases d <;> cases d' <;> first | rfl | exact absurd h hkeys | exact absurd h.symm hkeys

/-- Numbers below `2 ^ 64` have different nonces. -/
theorem nonce_inj {head : List UInt8} {i j : ℕ} (hi : i < 2 ^ 64) (hj : j < 2 ^ 64)
    (h : nonce head (UInt64.ofNat i) = nonce head (UInt64.ofNat j)) : i = j := by
  have hb := List.append_cancel_left h
  have hi' : (UInt64.ofNat i).toNat = i := UInt64.toNat_ofNat_of_lt' hi
  have hj' : (UInt64.ofNat j).toNat = j := UInt64.toNat_ofNat_of_lt' hj
  rw [seqBytes, seqBytes, hi', hj'] at hb
  exact BigEndian.bytes_inj (by omega) (by omega) hb

/-- The cipher opens only what was sealed. -/
theorem openSealed_some [DecidableEq K] {ledger : List (AeadCall K × List UInt8)} {call : AeadCall K}
    {plaintext : List UInt8} (h : openSealed ledger call = some plaintext) :
    ∃ e ∈ ledger, e.1.key = call.key ∧ e.1.nonce = call.nonce ∧ e.1.text = plaintext := by
  obtain ⟨e, hfind, htext⟩ := Option.map_eq_some_iff.mp h
  have hmatch := List.find?_some hfind
  simp only [Bool.and_eq_true, beq_iff_eq] at hmatch
  exact ⟨e, List.mem_of_find?_eq_some hfind, hmatch.1.1.1, hmatch.1.1.2, htext⟩

section Inv

variable {P : SessionSetup K M} {s t : Session K M} {d : Direction}

theorem sessionInv_init (P : SessionSetup K M) : SessionInv P (init P) := by
  refine ⟨fun d => ?_, fun d _ => ?_, by simp [init], by simp [init], by simp [init],
    ⟨fun d => ⟨[], List.nil_prefix, .nil⟩, by simp [init]⟩⟩
  · cases d <;> exact ⟨rfl, rfl, rfl⟩
  · cases d <;> exact ⟨rfl, rfl, rfl⟩

/-- The calls of a `send`: none, or the one under the sender's next number. -/
theorem mem_sealCall {channel : SecureChannel K} {J : Json (M d)} {message : M d} {n : ℕ}
    {call : AeadCall K} (hs : Sends P d n channel) (h : channel.sealCall J message = some call) :
    J.toVec message = some call.text ∧ call.key = P.key d ∧
      call.nonce = nonce d.head (UInt64.ofNat n) := by
  obtain ⟨hk, hp, hn⟩ := hs
  obtain ⟨plaintext, hv, rfl⟩ := Option.map_eq_some_iff.mp h
  exact ⟨hv, hk, by simp only [hp, hn]⟩

/-- Messages already passed keep their numbers. -/
theorem Numbered.send {call : AeadCall K} {message : M d} {written : Bool}
    (h : Numbered P s call) : Numbered P (s.stepSend P d message written) call := by
  obtain ⟨d', i, m, hi, hv, hk, hn⟩ := h
  refine ⟨d', i, m, ?_, hv, hk, hn⟩
  by_cases hd : d' = d
  · subst hd
    simp only [stepSend, Function.update_self]
    rw [List.getElem?_append_left (List.getElem?_eq_some_iff.mp hi).1]
    exact hi
  · simpa [stepSend, Function.update_of_ne hd] using hi

/-- What `send` leaves of a channel: all but the outbound counter. -/
theorem channel_send (message : M d) (written : Bool) (side : Side) :
    (s.stepSend P d message written).channel side =
      if side = d.sender then (s.channel side).sent else s.channel side := by
  by_cases hside : side = d.sender
  · subst hside
    simp [stepSend]
  · simp [stepSend, hside]

theorem passed_length (d' : Direction) (message : M d) (written : Bool) :
    ((s.stepSend P d message written).passed d').length =
      (s.passed d').length + if d' = d then 1 else 0 := by
  by_cases hd : d' = d
  · subst hd
    simp [stepSend]
  · simp [stepSend, hd]

/-- The new nonce has a number no call had before. -/
theorem SessionInv.fresh_nonce (h : SessionInv P s) (hkeys : P.key .c2s ≠ P.key .s2c) {message : M d}
    {call call' : AeadCall K} (hmem : call ∈ s.calls)
    (hcall : (s.channel d.sender).sealCall (P.json d) message = some call') :
    (call.key, call.nonce) ≠ (call'.key, call'.nonce) := by
  intro heq
  rw [Prod.mk.injEq] at heq
  obtain ⟨-, hk', hn'⟩ := mem_sealCall (h.sender d) hcall
  obtain ⟨d₀, i, m, hi, -, hk, hn⟩ := h.numbered call hmem
  obtain rfl : d₀ = d := key_inj hkeys (hk.symm.trans (heq.1.trans hk'))
  have hlt := (List.getElem?_eq_some_iff.mp hi).1
  have hshort := h.short d₀
  have hsame := nonce_inj (by omega) hshort (hn.symm.trans (heq.2.trans hn'))
  omega

theorem SessionInv.send (h : SessionInv P s) (hkeys : P.key .c2s ≠ P.key .s2c) {message : M d}
    {written : Bool} (hshort : (s.passed d).length + 1 < 2 ^ 64) :
    SessionInv P (s.stepSend P d message written) := by
  refine ⟨fun d' => ?_, fun d' hdrop => ?_, fun d' => ?_, fun call hmem => ?_, fun e he => ?_, ?_⟩
  · rw [passed_length, channel_send]
    obtain ⟨hk, hp, hn⟩ := h.sender d'
    by_cases hd : d' = d
    · subst hd
      simp only [↓reduceIte]
      exact ⟨hk, hp, by simp [SecureChannel.sent, hn]⟩
    · simp only [hd, ↓reduceIte, if_neg (fun he => hd (sender_inj he))]
      exact ⟨hk, hp, hn⟩
  · rw [channel_send]
    split <;> exact h.receiver d' hdrop
  · rw [passed_length]
    have hbefore := h.short d'
    split
    · next hd => subst hd; omega
    · omega
  · simp only [stepSend, List.mem_append, Option.mem_toList] at hmem
    rcases hmem with hold | hnew
    · exact (h.numbered call hold).send
    · obtain ⟨hv, hk, hn⟩ := mem_sealCall (h.sender d) hnew
      exact ⟨d, _, message, by simp [stepSend], hv, hk, hn⟩
  · simp only [stepSend, List.mem_append, Option.mem_toList] at he ⊢
    rcases he with hold | hnew
    · exact Or.inl (h.ledger e hold)
    · obtain ⟨call, hc, hnew⟩ := Option.bind_eq_some_iff.mp hnew
      obtain ⟨ciphertext, -, rfl⟩ := Option.map_eq_some_iff.mp hnew
      exact Or.inr hc
  · refine ⟨fun d' => ?_, ?_⟩
    · obtain ⟨sent, hsent, hread⟩ := h.secured.received d'
      refine ⟨sent, ?_, hread⟩
      by_cases hd : d' = d
      · subst hd
        simp only [stepSend, Function.update_self]
        exact hsent.trans (List.prefix_append _ _)
      · simpa [stepSend, hd] using hsent
    · simp only [stepSend, List.map_append]
      refine List.Nodup.append h.secured.nonces ?_ ?_
      · cases (s.channel d.sender).sealCall (P.json d) message <;> simp
      · -- a nonce is used once: the number is new, or the key is the other direction's
        intro x hx hnew
        obtain ⟨call, hmem, rfl⟩ := List.mem_map.mp hx
        obtain ⟨call', hmem', heq⟩ := List.mem_map.mp hnew
        exact h.fresh_nonce hkeys hmem (Option.mem_toList.mp hmem') heq.symm

/-- A message `recv` returns is read back of the next one that was passed to `send`. -/
theorem SessionInv.opened [DecidableEq K] (h : SessionInv P s)
    (hkeys : P.key .c2s ≠ P.key .s2c) (hdrop : s.dropped d = false)
    {incoming : Incoming} {message : M d} {channel : SecureChannel K}
    (hr : (s.channel d.receiver).recv (P.json d) (openSealed s.ledger) incoming =
      (.ok message, channel)) :
    ∃ m, (s.passed d)[(s.got d).length]? = some m ∧ ReadBack P d m message := by
  obtain ⟨-, ciphertext, plaintext, hopen, hfrom⟩ := SecureChannel.recv_ok hr
  obtain ⟨hk, hp, hn⟩ := h.receiver d hdrop
  obtain ⟨e, he, hek, hen, rfl⟩ := openSealed_some hopen
  obtain ⟨d₀, i, m, hi, hv, hk₀, hn₀⟩ := h.numbered e.1 (h.ledger e he)
  obtain rfl : d₀ = d := key_inj hkeys (hk₀.symm.trans (hek.trans hk))
  have hnonce : nonce d₀.head (UInt64.ofNat i) = nonce d₀.head (UInt64.ofNat (s.got d₀).length) := by
    rw [← hn₀, hen, ← hn, ← hp]
    rfl
  obtain ⟨sent, hsent, hread⟩ := h.secured.received d₀
  have hgot : (s.got d₀).length ≤ (s.passed d₀).length := hread.length_eq ▸ hsent.length_le
  have hshort := h.short d₀
  have hlt := (List.getElem?_eq_some_iff.mp hi).1
  obtain rfl := nonce_inj (by omega) (by omega) hnonce
  exact ⟨m, hi, e.1.text, hv, hfrom⟩

/-- A prefix and the entry after it. -/
theorem prefix_snoc {α : Type} {l l' : List α} {x : α} (h : l <+: l') (hx : l'[l.length]? = some x) :
    l ++ [x] <+: l' := by
  obtain ⟨rest, rfl⟩ := h
  cases rest with
  | nil => simp at hx
  | cons y rest =>
    obtain rfl : y = x := by simpa using hx
    exact ⟨rest, by simp⟩

/-- The other ends of a receiving channel. -/
theorem update_receiver {channel : SecureChannel K} {d' : Direction} {n : ℕ}
    (hc : channel = s.channel d.receiver ∨ channel = (s.channel d.receiver).received)
    (hs : Sends P d' n (s.channel d'.sender)) :
    Sends P d' n (Function.update s.channel d.receiver channel d'.sender) := by
  by_cases hside : d'.sender = d.receiver
  · rw [hside, Function.update_self]
    rw [hside] at hs
    rcases hc with rfl | rfl
    · exact hs
    · exact hs
  · rw [Function.update_of_ne hside]
    exact hs

theorem SessionInv.deliver [DecidableEq K] (h : SessionInv P s)
    (hkeys : P.key .c2s ≠ P.key .s2c) {incoming : Incoming}
    (hs : s.stepDeliver P d incoming = some t) : SessionInv P t := by
  unfold stepDeliver at hs
  split at hs
  · cases hs
  · next hdrop =>
    rw [Bool.not_eq_true] at hdrop
    have hother : ∀ {channel : SecureChannel K} {d' : Direction}, d' ≠ d →
        Function.update s.channel d.receiver channel d'.receiver = s.channel d'.receiver :=
      fun hd => Function.update_of_ne (fun he => hd (receiver_inj he)) _ _
    split at hs
    · -- opened: it is the next message of the sender
      next message channel hr =>
      cases hs
      obtain ⟨m, hnext, hreadBack⟩ := h.opened hkeys hdrop hr
      have hchan := (SecureChannel.recv_ok hr).1
      refine ⟨fun d' => update_receiver (Or.inr hchan) (h.sender d'), fun d' hd' => ?_, h.short,
        h.numbered, h.ledger, fun d' => ?_, h.secured.nonces⟩
      · obtain ⟨hk, hp, hn⟩ := h.receiver d' hd'
        by_cases hd : d' = d
        · subst hd
          simp only [Function.update_self, hchan]
          exact ⟨hk, hp, by simp [SecureChannel.received, hn]⟩
        · simp only [Function.update_of_ne hd, hother hd]
          exact ⟨hk, hp, hn⟩
      · obtain ⟨sent, hsent, hread⟩ := h.secured.received d'
        by_cases hd : d' = d
        · subst hd
          simp only [Function.update_self]
          rw [← hread.length_eq] at hnext
          exact ⟨sent ++ [m], prefix_snoc hsent hnext, List.rel_append hread (.cons hreadBack .nil)⟩
        · simp only [Function.update_of_ne hd]
          exact ⟨sent, hsent, hread⟩
    · -- refused: nothing more is read in this direction
      next err channel hr =>
      cases hs
      have hchan : channel = s.channel d.receiver ∨ channel = (s.channel d.receiver).received := by
        have hrecv : ((s.channel d.receiver).recv (P.json d) (openSealed s.ledger) incoming).2 =
            channel := by rw [hr]
        rw [← hrecv]
        exact SecureChannel.recv_channel incoming
      refine ⟨fun d' => update_receiver hchan (h.sender d'), fun d' hd' => ?_, h.short, h.numbered,
        h.ledger, h.secured.received, h.secured.nonces⟩
      by_cases hd : d' = d
      · subst hd
        simp at hd'
      · simp only [Function.update_of_ne hd] at hd'
        simp only [hother hd]
        exact h.receiver d' hd'

end Inv

/-- **The channel is secure**: with different keys for the two directions and fewer than `2 ^ 64` frames
in each, whatever the attacker delivers, each end returns what is read back of a prefix of what the other end
passed to `send`, which is the prefix itself when no message is read back as another one, and no nonce is used
twice under one key. -/
theorem session_secured [DecidableEq K] (P : SessionSetup K M) (hkeys : P.key .c2s ≠ P.key .s2c)
    {as : List (SessionAct M)} {s : Session K M} (hr : Trans.Runs (step P) Short (init P) as s) :
    Secured P s ∧ (Faithful P → ∀ d, s.got d <+: s.passed d) := by
  have hstep : ∀ s a t, SessionInv P s → Short s a → step P s a = some t → SessionInv P t := by
    intro s a t h hshort hs
    cases a with
    | send d message written =>
      cases hs
      exact h.send hkeys hshort
    | deliver d incoming => exact h.deliver hkeys hs
  have hsecured := (hr.inv hstep (sessionInv_init P)).secured
  exact ⟨hsecured, fun hjson => hsecured.prefix_of_faithful hjson⟩

/-- Messages are their own JSON, and the tag is sixteen zeros. -/
def demoSession : SessionSetup Bool (fun _ => List UInt8) :=
  { key := fun d => d == .c2s
    json := fun _ => ⟨some, some, WireFrame.ofText⟩
    sealInPlace := fun call => some (call.text ++ List.replicate 16 0) }

/-- The line of message `text` under number `seq`. -/
def demoLine (seq : UInt64) (text : List UInt8) : Incoming :=
  .line (WireFrame.toText ⟨seq, Base64.encode (text ++ List.replicate 16 0)⟩ ++ ['\n'])

/-- The server gets the client's first message, then the same line again; the client gets its own
message back. -/
def replayRun : List (SessionAct (fun _ => List UInt8)) :=
  [.send .c2s [1, 2] true, .send .c2s [3] false, .deliver .c2s (demoLine 0 [1, 2]),
    .deliver .c2s (demoLine 0 [1, 2]), .deliver .s2c (demoLine 0 [1, 2])]

theorem session_secured_replay : ∃ s,
    Trans.run (step demoSession) (init demoSession) replayRun = some s ∧
    s.got .c2s = [[1, 2]] ∧ s.got .s2c = [] ∧ Secured demoSession s ∧ ∀ d, s.got d <+: s.passed d := by
  have hjson : Faithful demoSession := by
    rintro d message plaintext message' ⟨⟩ ⟨⟩
    rfl
  have hsecured := session_secured demoSession (by decide) (Trans.runs_of_run replayRun rfl ?_)
  · exact ⟨_, rfl, by decide, by decide, hsecured.1, hsecured.2 hjson⟩
  · exact ⟨(by decide : 0 + 1 < 2 ^ 64), (by decide : 1 + 1 < 2 ^ 64), trivial, trivial, trivial, trivial⟩

end Session

end Waypad
