import Waypad.Lib.Trans
import Waypad.Screen.Envelope

/-!
# Waypad.Screen.Socket — the producers on one stream socket (`src/screen.rs`, `src/audio.rs`)

`StreamSocket` is written by the video producer and by the audio producers that `start_audio` spawns.
A write takes the lock, the socket takes its bytes a few at a time, and the write ends or its deadline
drops it; the producer whose write was dropped ends, the others do not learn of it.

* `Framed`: whole envelopes and at most one truncated envelope at the end.
* `framed_of_unshared`: what holds as long as a write is only cut where nobody else is left.
* `unframed_of_shared`: every other cut can be followed by bytes.
-/

namespace Waypad

inductive Producer
  | video
  | audio (id : ℕ)
  deriving DecidableEq, Repr

/-- A `write_all` with the lock held. -/
structure SocketWrite where
  producer : Producer
  /-- the envelope; `none` for the handshake line -/
  envelope : Option Envelope
  /-- the bytes the socket has not taken yet -/
  rest : List UInt8
  deriving DecidableEq, Repr

structure StreamSocket where
  /-- the bytes the socket has taken -/
  wire : List UInt8
  magicSent : Bool
  lock : Option SocketWrite
  /-- the video producer has not ended -/
  video : Bool
  /-- the audio producers that have not ended -/
  audio : List ℕ
  spawned : ℕ
  /-- the session is in the registry -/
  registered : Bool
  /-- ghost: the envelopes whose write has begun -/
  log : List Envelope
  /-- ghost: a write has been cut -/
  cut : Bool
  deriving DecidableEq, Repr

inductive SocketAction
  /-- the video producer, before each frame: the handshake line, without a deadline -/
  | sendMagic (magic : StreamMagic)
  /-- `write_all`, called by the video producer after `send_magic` -/
  | writeAll (envelope : Envelope)
  /-- `try_write_envelope`, called by an audio producer after `handshake_sent` -/
  | tryWriteEnvelope (id : ℕ) (envelope : Envelope)
  /-- `try_write_envelope` does not get the lock in time and returns `false` -/
  | lockTimeout (id : ℕ)
  /-- the socket takes the next bytes -/
  | take (n : ℕ)
  /-- all bytes are taken -/
  | finish
  /-- the deadline of the write passes -/
  | timeout
  /-- `DesktopAudioStream::spawn` -/
  | startAudio
  /-- the video producer ends for another reason -/
  | endVideo
  /-- an audio producer ends for another reason: its stop signal, its pipeline -/
  | endAudio (id : ℕ)
  /-- the session leaves the registry -/
  | unregister
  deriving DecidableEq, Repr

/-- `write_all` or `try_write_envelope`. -/
def Producer.write : Producer → Envelope → SocketAction
  | .video, envelope => .writeAll envelope
  | .audio id, envelope => .tryWriteEnvelope id envelope

namespace StreamSocket

/-- After `attach_stream_client`. -/
def start : StreamSocket :=
  { wire := [], magicSent := false, lock := none, video := true, audio := [], spawned := 0
    registered := true, log := [], cut := false }

def Alive (self : StreamSocket) : Producer → Prop
  | .video => self.video = true
  | .audio id => id ∈ self.audio

instance (self : StreamSocket) : DecidablePred self.Alive
  | .video => inferInstanceAs (Decidable (self.video = true))
  | .audio id => inferInstanceAs (Decidable (id ∈ self.audio))

/-- The producer returns. -/
def drop (self : StreamSocket) : Producer → StreamSocket
  | .video => { self with video := false }
  | .audio id => { self with audio := self.audio.filter (fun other => other != id) }

/-- A producer takes the lock for an envelope. -/
def lockFor (self : StreamSocket) (producer : Producer) (envelope : Envelope) : Option StreamSocket :=
  if self.Alive producer ∧ self.lock = none ∧ self.magicSent = true then
    some { self with
      lock := some ⟨producer, some envelope, envelope.bytes⟩, log := self.log ++ [envelope] }
  else none

def step (self : StreamSocket) : SocketAction → Option StreamSocket
  | .sendMagic magic =>
    if self.Alive .video ∧ self.lock = none ∧ self.magicSent = false then
      some { self with lock := some ⟨.video, none, magic.line⟩ }
    else none
  | .writeAll envelope => self.lockFor .video envelope
  | .tryWriteEnvelope id envelope => self.lockFor (.audio id) envelope
  | .lockTimeout id => if self.Alive (.audio id) ∧ self.lock ≠ none then some self else none
  | .take n =>
    match self.lock with
    | some write =>
      if 0 < n ∧ n ≤ write.rest.length then
        some { self with
          wire := self.wire ++ write.rest.take n
          lock := some { write with rest := write.rest.drop n } }
      else none
    | none => none
  | .finish =>
    match self.lock with
    | some write =>
      if write.rest = [] then
        some { self with lock := none, magicSent := self.magicSent || write.envelope.isNone }
      else none
    | none => none
  | .timeout =>
    match self.lock with
    | some write =>
      if write.envelope ≠ none ∧ write.rest ≠ [] then
        some ({ self with lock := none, cut := true }.drop write.producer)
      else none
    | none => none
  | .startAudio =>
    if self.registered then
      some { self with audio := self.audio ++ [self.spawned], spawned := self.spawned + 1 }
    else none
  | .endVideo =>
    -- `stop_stream` aborts a task that has not stopped within two seconds, also inside `write_all`: that is no
    -- step here
    if self.Alive .video ∧ self.lock.map SocketWrite.producer ≠ some .video then
      some (self.drop .video)
    else none
  | .endAudio id =>
    if self.Alive (.audio id) ∧ self.lock.map SocketWrite.producer ≠ some (.audio id) then
      some (self.drop (.audio id))
    else none
  | .unregister => if self.registered then some { self with registered := false } else none

/-! ## Framing -/

/-- The bytes are whole envelopes of the log, then at most one that is truncated. -/
def Framed (log : List Envelope) (body : List UInt8) : Prop :=
  ∃ whole : List Envelope, ∃ tail : List UInt8, body = whole.flatMap Envelope.bytes ++ tail ∧
    (∀ e ∈ whole, e ∈ log) ∧ (tail = [] ∨ ∃ e ∈ log, tail <+: e.bytes ∧ tail ≠ e.bytes)

/-- So are the bytes after the handshake line. -/
def WireFramed (self : StreamSocket) : Prop :=
  (∃ magic : StreamMagic, self.wire <+: magic.line) ∨
    ∃ magic : StreamMagic, ∃ body, self.wire = magic.line ++ body ∧ Framed self.log body

/-- No byte follows a write that was cut. -/
def SilentAfterCut (actions : List SocketAction) (self : StreamSocket) : Prop :=
  ∀ before after cut, actions = before ++ .timeout :: after →
    Trans.run step start (before ++ [.timeout]) = some cut → self.wire = cut.wire

/-- A write is cut only where no other producer is left, and none is started after a cut. -/
def Unshared (self : StreamSocket) : SocketAction → Prop
  | .timeout => ∀ producer, self.Alive producer →
      self.lock.map SocketWrite.producer = some producer
  | .startAudio => self.cut = false
  | _ => True

/-! ## One step -/

/-- The handshake line and the bytes of some envelopes. -/
def opened (magic : StreamMagic) (envelopes : List Envelope) : List UInt8 :=
  magic.line ++ envelopes.flatMap Envelope.bytes

/-- How far the wire is. -/
inductive Phase (s : StreamSocket) : Prop
  | untouched (lock : s.lock = none) (magic : s.magicSent = false) (cut : s.cut = false)
      (log : s.log = []) (wire : s.wire = [])
  | opening (write : SocketWrite) (line : StreamMagic) (lock : s.lock = some write)
      (envelope : write.envelope = none) (magic : s.magicSent = false) (cut : s.cut = false)
      (log : s.log = []) (wire : s.wire ++ write.rest = line.line)
  | between (line : StreamMagic) (lock : s.lock = none) (magic : s.magicSent = true)
      (cut : s.cut = false) (wire : s.wire = opened line s.log)
  | writing (write : SocketWrite) (line : StreamMagic) (done : List Envelope) (envelope : Envelope)
      (head : List UInt8) (lock : s.lock = some write) (kind : write.envelope = some envelope)
      (magic : s.magicSent = true) (cut : s.cut = false) (log : s.log = done ++ [envelope])
      (bytes : envelope.bytes = head ++ write.rest) (wire : s.wire = opened line done ++ head)
  | severed (line : StreamMagic) (done : List Envelope) (envelope : Envelope)
      (head rest : List UInt8) (lock : s.lock = none) (magic : s.magicSent = true)
      (cut : s.cut = true) (dead : ∀ producer, ¬ s.Alive producer)
      (log : s.log = done ++ [envelope]) (bytes : envelope.bytes = head ++ rest) (left : rest ≠ [])
      (wire : s.wire = opened line done ++ head)

theorem framed_whole (envelopes : List Envelope) : Framed envelopes (envelopes.flatMap Envelope.bytes) :=
  ⟨envelopes, [], (List.append_nil _).symm, fun _ h => h, Or.inl rfl⟩

theorem framed_head (done : List Envelope) (envelope : Envelope) {head rest : List UInt8}
    (h : envelope.bytes = head ++ rest) :
    Framed (done ++ [envelope]) (done.flatMap Envelope.bytes ++ head) := by
  by_cases hrest : rest = []
  · rw [hrest, List.append_nil] at h
    rw [← h]
    have hall : (done ++ [envelope]).flatMap Envelope.bytes =
        done.flatMap Envelope.bytes ++ envelope.bytes := by simp
    exact hall ▸ framed_whole (done ++ [envelope])
  · refine ⟨done, head, rfl, fun e he => List.mem_append_left _ he, Or.inr ⟨envelope, by simp, ?_, ?_⟩⟩
    · exact ⟨rest, h.symm⟩
    · intro heq
      rw [h] at heq
      exact hrest (List.self_eq_append_right.mp heq)

/-- In every phase the wire is framed. -/
theorem Phase.framed {s : StreamSocket} (h : s.Phase) : s.WireFramed := by
  cases h with
  | untouched _ _ _ _ wire => exact Or.inl ⟨.v1, wire ▸ List.nil_prefix⟩
  | opening write line _ _ _ _ _ wire => exact Or.inl ⟨line, write.rest, wire⟩
  | between line _ _ _ wire => exact Or.inr ⟨line, _, wire, framed_whole s.log⟩
  | writing write line done envelope head _ _ _ _ log bytes wire =>
    refine Or.inr ⟨line, done.flatMap Envelope.bytes ++ head, ?_, log ▸ framed_head done envelope bytes⟩
    rw [wire, opened, List.append_assoc]
  | severed line done envelope head rest _ _ _ _ log bytes _ wire =>
    refine Or.inr ⟨line, done.flatMap Envelope.bytes ++ head, ?_, log ▸ framed_head done envelope bytes⟩
    rw [wire, opened, List.append_assoc]

section Step

variable {s t : StreamSocket}

@[simp] theorem drop_wire (s : StreamSocket) (p : Producer) : (s.drop p).wire = s.wire := by
  cases p <;> rfl

@[simp] theorem drop_lock (s : StreamSocket) (p : Producer) : (s.drop p).lock = s.lock := by
  cases p <;> rfl

@[simp] theorem drop_magicSent (s : StreamSocket) (p : Producer) :
    (s.drop p).magicSent = s.magicSent := by
  cases p <;> rfl

@[simp] theorem drop_cut (s : StreamSocket) (p : Producer) : (s.drop p).cut = s.cut := by
  cases p <;> rfl

@[simp] theorem drop_log (s : StreamSocket) (p : Producer) : (s.drop p).log = s.log := by
  cases p <;> rfl

/-- A producer that has returned does not come back, and no other one with it. -/
theorem alive_drop {p q : Producer} (h : (s.drop p).Alive q) : s.Alive q ∧ q ≠ p := by
  cases p <;> cases q <;> simp_all [drop, Alive]

theorem alive_drop_of_ne {p q : Producer} (h : s.Alive q) (hne : q ≠ p) : (s.drop p).Alive q := by
  cases p <;> cases q <;> simp_all [drop, Alive]

/-- The phase depends on the wire, the lock, the flags and the log; nobody may come back. -/
theorem Phase.same (h : s.Phase) (hwire : t.wire = s.wire) (hlock : t.lock = s.lock)
    (hmagic : t.magicSent = s.magicSent) (hcut : t.cut = s.cut) (hlog : t.log = s.log)
    (halive : s.cut = true → ∀ producer, t.Alive producer → s.Alive producer) : t.Phase := by
  cases h with
  | untouched lock magic cut log wire =>
    exact .untouched (hlock ▸ lock) (hmagic ▸ magic) (hcut ▸ cut) (hlog ▸ log) (hwire ▸ wire)
  | opening write line lock envelope magic cut log wire =>
    exact .opening write line (hlock ▸ lock) envelope (hmagic ▸ magic) (hcut ▸ cut) (hlog ▸ log)
      (hwire ▸ wire)
  | between line lock magic cut wire =>
    exact .between line (hlock ▸ lock) (hmagic ▸ magic) (hcut ▸ cut) (by rw [hwire, hlog, wire])
  | writing write line done envelope head lock kind magic cut log bytes wire =>
    exact .writing write line done envelope head (hlock ▸ lock) kind (hmagic ▸ magic) (hcut ▸ cut)
      (hlog ▸ log) bytes (hwire ▸ wire)
  | severed line done envelope head rest lock magic cut dead log bytes left wire =>
    exact .severed line done envelope head rest (hlock ▸ lock) (hmagic ▸ magic) (hcut ▸ cut)
      (fun p hp => dead p (halive cut p hp)) (hlog ▸ log) bytes left (hwire ▸ wire)

/-- A producer takes the lock: no write has been cut, for it is alive. -/
theorem Phase.lockFor (h : s.Phase) {p : Producer} {envelope : Envelope}
    (hs : s.lockFor p envelope = some t) : t.Phase := by
  unfold StreamSocket.lockFor at hs
  split_ifs at hs with hg
  obtain ⟨halive, hlock, hmagic⟩ := hg
  cases hs
  cases h with
  | untouched _ magic => simp [magic] at hmagic
  | opening _ _ lock => simp [lock] at hlock
  | between line _ _ cut wire =>
    exact .writing _ line s.log envelope [] rfl rfl hmagic cut rfl rfl (by simpa using wire)
  | writing _ _ _ _ _ lock => simp [lock] at hlock
  | severed _ _ _ _ _ _ _ _ dead => exact absurd halive (dead p)

/-- The socket takes bytes of the write that holds the lock. -/
theorem Phase.take (h : s.Phase) {n : ℕ} (hs : s.step (.take n) = some t) : t.Phase := by
  unfold StreamSocket.step at hs
  cases h with
  | untouched lock => simp [lock] at hs
  | between _ lock => simp [lock] at hs
  | severed _ _ _ _ _ lock => simp [lock] at hs
  | opening write line lock envelope magic cut log wire =>
    simp only [lock] at hs
    split_ifs at hs
    cases hs
    refine .opening _ line rfl envelope magic cut log ?_
    rw [List.append_assoc, List.take_append_drop, wire]
  | writing write line done envelope head lock kind magic cut log bytes wire =>
    simp only [lock] at hs
    split_ifs at hs
    cases hs
    refine .writing _ line done envelope (head ++ write.rest.take n) rfl kind magic cut log ?_ ?_
    · rw [List.append_assoc, List.take_append_drop, bytes]
    · rw [← List.append_assoc, ← wire]

/-- The write ends: the next producer finds the wire at the end of an envelope. -/
theorem Phase.finish (h : s.Phase) (hs : s.step .finish = some t) : t.Phase := by
  unfold StreamSocket.step at hs
  cases h with
  | untouched lock => simp [lock] at hs
  | between _ lock => simp [lock] at hs
  | severed _ _ _ _ _ lock => simp [lock] at hs
  | opening write line lock envelope magic cut log wire =>
    -- the line is out whole
    simp only [lock] at hs
    split_ifs at hs with hrest
    cases hs
    refine .between line rfl ?_ cut ?_
    · simp [envelope]
    · rw [hrest, List.append_nil] at wire
      simp [opened, log, wire]
  | writing write line done envelope head lock kind magic cut log bytes wire =>
    -- and so is the envelope
    simp only [lock] at hs
    split_ifs at hs with hrest
    cases hs
    refine .between line rfl ?_ cut ?_
    · simp [magic]
    · rw [hrest, List.append_nil] at bytes
      simp [opened, log, wire, bytes]

/-- The write is cut, by the only producer that is left. -/
theorem Phase.timeout (h : s.Phase) (hok : s.Unshared .timeout) (hs : s.step .timeout = some t) :
    t.Phase := by
  unfold StreamSocket.step at hs
  cases h with
  | untouched lock => simp [lock] at hs
  | between _ lock => simp [lock] at hs
  | severed _ _ _ _ _ lock => simp [lock] at hs
  | opening write line lock envelope => simp [lock, envelope] at hs
  | writing write line done envelope head lock kind magic cut log bytes wire =>
    simp only [lock] at hs
    split_ifs at hs with hcut
    cases hs
    refine .severed line done envelope head write.rest (by simp) (by simpa using magic) (by simp) ?_
      (by simpa using log) bytes hcut.2 (by simpa using wire)
    intro producer hp
    obtain ⟨halive, hne⟩ := alive_drop hp
    have honly : s.lock.map SocketWrite.producer = some producer := hok producer halive
    rw [lock] at honly
    exact hne (Option.some.inj honly).symm

/-- **One step keeps the phase**, if it meets the condition. -/
theorem Phase.step (h : s.Phase) {a : SocketAction} (hok : s.Unshared a) (hs : s.step a = some t) :
    t.Phase := by
  have hdrop : ∀ p, (s.drop p).Phase := fun p =>
    h.same (drop_wire s p) (drop_lock s p) (drop_magicSent s p) (drop_cut s p) (drop_log s p)
      (fun _ _ hp => (alive_drop hp).1)
  cases a with
  | sendMagic magic =>
    -- the line opens the stream, and is written once
    unfold StreamSocket.step at hs
    dsimp only at hs
    split_ifs at hs with hg
    obtain ⟨-, hlock, hsent⟩ := hg
    cases hs
    cases h with
    | untouched _ _ cut log wire =>
      exact .opening _ magic rfl rfl hsent cut log (by simp [wire])
    | opening _ _ lock => simp [lock] at hlock
    | between _ _ sent => simp [sent] at hsent
    | writing _ _ _ _ _ lock => simp [lock] at hlock
    | severed _ _ _ _ _ _ sent => simp [sent] at hsent
  | writeAll envelope => exact h.lockFor hs
    -- whoever takes the lock writes a whole envelope
  | tryWriteEnvelope id envelope => exact h.lockFor hs
  | lockTimeout id =>
    unfold StreamSocket.step at hs
    dsimp only at hs
    split_ifs at hs
    cases hs
    exact h
  | take n => exact h.take hs
  | finish => exact h.finish hs
  | timeout => exact h.timeout hok hs
  | startAudio =>
    -- no producer joins after a cut
    unfold StreamSocket.step at hs
    dsimp only at hs
    split_ifs at hs
    cases hs
    have hcut : s.cut = false := hok
    exact h.same rfl rfl rfl rfl rfl (fun hc => by simp [hcut] at hc)
  | endVideo =>
    unfold StreamSocket.step at hs
    dsimp only at hs
    split_ifs at hs
    cases hs
    exact hdrop .video
  | endAudio id =>
    unfold StreamSocket.step at hs
    dsimp only at hs
    split_ifs at hs
    cases hs
    exact hdrop (.audio id)
  | unregister =>
    -- the socket stays open while a producer holds it
    unfold StreamSocket.step at hs
    dsimp only at hs
    split_ifs at hs
    cases hs
    exact h.same rfl rfl rfl rfl rfl (fun _ p hp => by cases p <;> exact hp)

end Step

/-! ## Runs -/

section Runs

variable {s t u : StreamSocket} {actions : List SocketAction}

/-- Only `take` changes the wire, and only under the lock. -/
theorem wire_step {a : SocketAction} (hlock : s.lock = none) (hs : s.step a = some t) :
    t.wire = s.wire := by
  unfold step lockFor at hs
  cases a <;> dsimp only at hs <;> (try simp only [hlock] at hs) <;> (try split_ifs at hs) <;>
    cases hs <;> simp

/-- Only a deadline sets the mark, and nothing takes it away. -/
theorem cut_step {a : SocketAction} (hs : s.step a = some t) :
    (s.cut = true → t.cut = true) ∧ (s.cut = false → t.cut = true → a = .timeout) := by
  unfold step lockFor at hs
  cases a <;> dsimp only at hs <;> (try split at hs) <;> (try split_ifs at hs) <;> cases hs <;>
    simp_all

theorem Phase.cut_lock (h : s.Phase) (hcut : s.cut = true) : s.lock = none ∧ s.magicSent = true := by
  cases h with
  | untouched _ _ cut => simp [cut] at hcut
  | opening _ _ _ _ _ cut => simp [cut] at hcut
  | between _ _ _ cut => simp [cut] at hcut
  | writing _ _ _ _ _ _ _ _ cut => simp [cut] at hcut
  | severed _ _ _ _ _ lock magic => exact ⟨lock, magic⟩

theorem run_phase (hr : Trans.Runs step Unshared start actions s) : s.Phase :=
  hr.inv (fun _ _ _ h hok hs => h.step hok hs) (.untouched rfl rfl rfl rfl rfl)

/-- A run with a cut write: the mark is set, and the wire is as the cut left it. -/
theorem run_silent (hr : Trans.Runs step Unshared start actions s) :
    ∀ before after cut, actions = before ++ .timeout :: after →
      Trans.run step start (before ++ [.timeout]) = some cut → s.cut = true ∧ s.wire = cut.wire := by
  induction hr with
  | nil =>
    intro before after cut h
    simp at h
  | @snoc s t actions a hr hok hs ih =>
    intro before after cut hsplit hcut
    rcases List.eq_nil_or_concat' after with rfl | ⟨after, b, rfl⟩
    · -- the last step is the cut
      obtain ⟨rfl, hlast⟩ := List.append_inj' hsplit rfl
      obtain rfl : a = .timeout := by simpa using hlast
      have hrun := (hr.snoc hok hs).run_eq
      obtain rfl : t = cut := Option.some.inj (hrun.symm.trans hcut)
      refine ⟨?_, rfl⟩
      unfold step at hs
      dsimp only at hs
      split at hs
      · split_ifs at hs
        cases hs
        simp
      · cases hs
    · rw [← List.cons_append, ← List.append_assoc] at hsplit
      obtain ⟨rfl, hlast⟩ := List.append_inj' hsplit rfl
      obtain ⟨hmark, hwire⟩ := ih before after cut rfl hcut
      obtain ⟨hlock, -⟩ := (run_phase hr).cut_lock hmark
      exact ⟨(cut_step hs).1 hmark, (wire_step hlock hs).trans hwire⟩

/-- A producer that has not ended can write a byte when the lock is free. -/
theorem writes_byte {p : Producer} (halive : t.Alive p) (hlock : t.lock = none)
    (hmagic : t.magicSent = true) :
    ∃ u, Trans.run step t [p.write ⟨[], []⟩, .take 1] = some u ∧
      u.wire = t.wire ++ [0] := by
  have hfor : t.lockFor p ⟨[], []⟩ = some { t with
      lock := some ⟨p, some ⟨[], []⟩, Envelope.bytes ⟨[], []⟩⟩, log := t.log ++ [⟨[], []⟩] } :=
    if_pos ⟨halive, hlock, hmagic⟩
  have hstep : t.step (p.write ⟨[], []⟩) = t.lockFor p ⟨[], []⟩ := by cases p <;> rfl
  refine ⟨{ t with
    wire := t.wire ++ [0], lock := some ⟨p, some ⟨[], []⟩, [0, 0, 0, 0, 0, 0, 0]⟩
    log := t.log ++ [⟨[], []⟩] }, ?_, rfl⟩
  rw [Trans.run, hstep, hfor]
  rfl

/-- After a cut that the wire still ends with, a producer that is left writes one more byte. -/
theorem loud_after_cut {p : Producer} {a : SocketAction} {before after : List SocketAction}
    {cut : StreamSocket} (halive : t.Alive p) (hlock : t.lock = none) (hmagic : t.magicSent = true)
    (hsplit : actions ++ [a] = before ++ .timeout :: after)
    (hcut : Trans.run step start (before ++ [.timeout]) = some cut) (hwire : t.wire = cut.wire) :
    ∃ after u, Trans.run step t after = some u ∧ ¬ u.SilentAfterCut (actions ++ a :: after) := by
  obtain ⟨u, hu, hbyte⟩ := writes_byte halive hlock hmagic
  refine ⟨_, u, hu, ?_⟩
  intro hsilent
  have hsame := hsilent before (after ++ [p.write ⟨[], []⟩, .take 1]) cut
    (by rw [← List.singleton_append, ← List.append_assoc, hsplit]; simp) hcut
  rw [hbyte, hwire] at hsame
  simp at hsame

/-- An envelope is written after the handshake line. -/
theorem Phase.magic_sent {write : SocketWrite} (h : s.Phase) (hlock : s.lock = some write)
    (henvelope : write.envelope ≠ none) : s.magicSent = true := by
  cases h with
  | untouched lock =>
    rw [lock] at hlock
    cases hlock
  | opening _ _ lock envelope =>
    obtain rfl := Option.some.inj (lock.symm.trans hlock)
    exact absurd envelope henvelope
  | between _ _ magic => exact magic
  | writing _ _ _ _ _ _ _ magic => exact magic
  | severed _ _ _ _ _ _ magic => exact magic

/-- **Elsewhere bytes can follow**: after any other step, a producer that is left writes on. -/
theorem unframed_of_shared (hr : Trans.Runs step Unshared start actions s) {a : SocketAction}
    (hno : ¬ s.Unshared a) (hs : s.step a = some t) :
    ∃ after u, Trans.run step t after = some u ∧
      ¬ u.SilentAfterCut (actions ++ a :: after) := by
  have hphase := run_phase hr
  cases a with
  | timeout =>
    obtain ⟨p, hp⟩ := not_forall.mp hno
    obtain ⟨halive, hother⟩ := Classical.not_imp.mp hp
    have hrun : Trans.run step start (actions ++ [.timeout]) = some t := by
      rw [Trans.run_append, hr.run_eq]
      simp [Trans.run, hs]
    unfold step at hs
    dsimp only at hs
    split at hs
    · next write hlock =>
      split_ifs at hs with hwrite
      cases hs
      have hne : p ≠ write.producer := fun h => hother (by rw [hlock, h]; rfl)
      have hmagic := hphase.magic_sent hlock hwrite.1
      exact loud_after_cut (alive_drop_of_ne halive hne) (by simp) (by simpa using hmagic) rfl hrun rfl
    · cases hs
  | startAudio =>
    have hcut : s.cut = true := by simpa [Unshared] using hno
    -- the cut that the new producer comes after
    obtain ⟨before, b, after, u, v, rfl, hbefore, hb, -, hu, hv⟩ :=
      hr.origin (F := fun s => s.cut = true) (by simp [start]) hcut
    obtain rfl : b = .timeout := (cut_step hb).2 (by simpa using hu) hv
    have hrun : Trans.run step start (before ++ [.timeout]) = some v := by
      rw [Trans.run_append, hbefore.run_eq]
      simp [Trans.run, hb]
    obtain ⟨-, hwire⟩ := run_silent hr before after v rfl hrun
    obtain ⟨hlock, hmagic⟩ := hphase.cut_lock hcut
    have hspawned : t.Alive (.audio s.spawned) ∧ t.lock = s.lock ∧ t.magicSent = s.magicSent := by
      unfold step at hs
      dsimp only at hs
      split_ifs at hs
      cases hs
      exact ⟨by simp [Alive], rfl, rfl⟩
    have hsplit : before ++ .timeout :: after ++ [.startAudio] =
        before ++ .timeout :: (after ++ [.startAudio]) := by simp
    exact loud_after_cut hspawned.1 (hspawned.2.1.trans hlock) (hspawned.2.2.trans hmagic) hsplit hrun
      ((wire_step hlock hs).trans hwire)
  | _ => exact absurd trivial hno

/-- **Both halves**: a run whose writes are cut only where nobody else is left keeps the framing and
nothing follows a cut; the first step against that can be followed by bytes. -/
theorem framed_of_unshared (hr : Trans.Runs step Unshared start actions s) :
    (s.WireFramed ∧ s.SilentAfterCut actions) ∧
      ∀ a t, s.step a = some t → ¬ s.Unshared a →
        ∃ after u, Trans.run step t after = some u ∧ ¬ u.SilentAfterCut (actions ++ a :: after) := by
  refine ⟨⟨(run_phase hr).framed, ?_⟩, fun a t hs hno => unframed_of_shared hr hno hs⟩
  intro before after cut hsplit hcut
  exact (run_silent hr before after cut hsplit hcut).2

end Runs

/-- The audio producer has ended before the write of the video producer is cut. -/
def demoAlone : List SocketAction :=
  [.sendMagic .v2, .take 17, .finish, .startAudio, .tryWriteEnvelope 0 ⟨[], [1]⟩, .take 9, .finish,
    .endAudio 0, .writeAll ⟨[2], []⟩, .take 5, .timeout]

def demoAloneEnd : StreamSocket :=
  { wire := StreamMagic.v2.line ++ [0, 0, 0, 0, 0, 0, 0, 1, 1, 0, 0, 0, 1, 0], magicSent := true
    lock := none, video := false, audio := [], spawned := 1, registered := true
    log := [⟨[], [1]⟩, ⟨[2], []⟩], cut := true }

theorem demo_framed : (demoAloneEnd.WireFramed ∧ demoAloneEnd.SilentAfterCut demoAlone) ∧
    ∀ a t, demoAloneEnd.step a = some t → ¬ demoAloneEnd.Unshared a →
      ∃ after u, Trans.run step t after = some u ∧ ¬ u.SilentAfterCut (demoAlone ++ a :: after) := by
  have honly : ∀ p : Producer, ({ demoAloneEnd with video := true } : StreamSocket).Alive p →
      some Producer.video = some p := by
    intro p hp
    cases p with
    | video => rfl
    | audio id => simp [Alive, demoAloneEnd] at hp
  exact framed_of_unshared (Trans.runs_of_run demoAlone (by decide +kernel)
    ⟨trivial, trivial, trivial, rfl, trivial, trivial, trivial, trivial, trivial, trivial, honly, trivial⟩)

/-! ## A cut that is not the last word -/

def demoFrame : VideoFrame :=
  { seq := 0, timestampMs := 1700000000000, geometry := ⟨1280, 720, 1920, 1080⟩
    payload := [0, 0, 0, 1, 0x65, 0x88], keyFrame := true, config := false }

def demoPacket : AudioPacket :=
  { seq := 0, timestampMs := 1700000000010, format := audioFormat 20, payload := [0xfc, 0xff] }

/-- The last byte of a frame is not taken in time; the audio producer sends its packet. -/
def demoCut : List SocketAction :=
  [.sendMagic .v2, .take 17, .finish, .startAudio, .writeAll demoFrame.envelope,
    .take (demoFrame.envelope.bytes.length - 1), .timeout,
    .tryWriteEnvelope 0 demoPacket.envelope, .take demoPacket.envelope.bytes.length, .finish]

/-- A body that begins with no envelope of the log and is longer than each is not framed. -/
theorem not_framed {log : List Envelope} {body : List UInt8} (hbody : body ≠ [])
    (h : ∀ e ∈ log, ¬ e.bytes <+: body ∧ ¬ body <+: e.bytes) : ¬ Framed log body := by
  rintro ⟨whole, tail, hsplit, hwhole, htail⟩
  cases whole with
  | nil =>
    simp only [List.flatMap_nil, List.nil_append] at hsplit
    subst hsplit
    rcases htail with htail | ⟨e, he, hprefix, -⟩
    · exact hbody htail
    · exact (h e he).2 hprefix
  | cons e whole =>
    refine (h e (hwhole e List.mem_cons_self)).1 ⟨whole.flatMap Envelope.bytes ++ tail, ?_⟩
    rw [hsplit, List.flatMap_cons, List.append_assoc]

/-- What the video producer leaves behind. -/
def demoHead : List UInt8 :=
  demoFrame.envelope.bytes.take (demoFrame.envelope.bytes.length - 1)

def demoSevered : StreamSocket :=
  { wire := StreamMagic.v2.line ++ demoHead, magicSent := true, lock := none, video := false
    audio := [0], spawned := 1, registered := true, log := [demoFrame.envelope], cut := true }

def demoMixed : StreamSocket :=
  { demoSevered with
    wire := StreamMagic.v2.line ++ (demoHead ++ demoPacket.envelope.bytes)
    log := [demoFrame.envelope, demoPacket.envelope] }

theorem cut_shared : Trans.run step start demoCut = some demoMixed ∧
    ¬ demoMixed.WireFramed ∧ ¬ demoMixed.SilentAfterCut demoCut := by
  refine ⟨by decide +kernel, ?_, ?_⟩
  · rintro (⟨magic, hmagic⟩ | ⟨magic, body, hsplit, hframed⟩)
    · have hle := hmagic.length_le
      rw [StreamMagic.line_length] at hle
      revert hle
      decide +kernel
    · have hwire : demoMixed.wire = StreamMagic.v2.line ++ (demoHead ++ demoPacket.envelope.bytes) := rfl
      have hlines : StreamMagic.v2.line.length = magic.line.length := by
        rw [StreamMagic.line_length, StreamMagic.line_length]
      obtain ⟨-, rfl⟩ := List.append_inj (hwire.symm.trans hsplit) hlines
      -- after the line no envelope begins what was written
      have hlog : ∀ e ∈ [demoFrame.envelope, demoPacket.envelope],
          ¬ e.bytes <+: demoHead ++ demoPacket.envelope.bytes ∧
            ¬ demoHead ++ demoPacket.envelope.bytes <+: e.bytes := by decide +kernel
      exact not_framed (by decide +kernel) hlog hframed
  · intro h
    have hcut : Trans.run step start (demoCut.take 6 ++ [.timeout]) = some demoSevered := by
      decide +kernel
    have hsame := h (demoCut.take 6) (demoCut.drop 7) demoSevered rfl hcut
    have hlen := congrArg List.length hsame
    revert hlen
    decide +kernel

end StreamSocket

end Waypad
