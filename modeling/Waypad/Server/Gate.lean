import Waypad.Server.PairingCode

/-!
# Waypad.Server.Gate — who may send commands

`authenticated` of `handle_connection` is set from `handle_pair` and `handle_auth` only, and
`handle_command` is called only where it is set.

* `Phase.Backed`: the checks a request in this phase has passed are in the log.
* `Explained`: what must stand in the log before an event.
* `GateInv`: the invariant of every run.
* `AdmitsPair`, `AcceptsCode`, `AcceptsDevice`: the moments at which the checks are made.
* `gate`: commands are authenticated, ok answers are earned, error answers grant nothing.
-/

namespace Waypad

/-! ## What is in the log -/

/-- The checks behind an ok answer to request `n` of connection `c`. -/
def Kind.Backed (log : List Event) (c : ConnId) (n : ℕ) : Kind → Prop
  | .pair request code => ∃ issue time, code = some issue ∧ .admitted c n request ∈ log ∧
      .codeAccepted c n request issue time ∈ log
  | .auth request => .authAccepted c n request ∈ log
  | _ => True

/-- The checks behind the phase of request `n` of connection `c`. -/
def Phase.Backed (log : List Event) (c : ConnId) (n : ℕ) : Phase → Prop
  | .recv => True
  | .codeExists request | .codeRead request | .codeCheck request _ _ => .admitted c n request ∈ log
  | .codeRemove request issue | .store request issue => .admitted c n request ∈ log ∧
      ∃ time, .codeAccepted c n request issue time ∈ log
  | .reply kind response => response.isOk = true → kind.Backed log c n

theorem Kind.Backed.mono {log log' : List Event} {c : ConnId} {n : ℕ} {kind : Kind}
    (hsub : log ⊆ log') (h : kind.Backed log c n) : kind.Backed log' c n := by
  cases kind with
  | pair request code =>
    obtain ⟨issue, time, hc, h1, h2⟩ := h
    exact ⟨issue, time, hc, hsub h1, hsub h2⟩
  | auth request => exact hsub h
  | command | ping => trivial

theorem Phase.Backed.mono {log log' : List Event} {c : ConnId} {n : ℕ} {phase : Phase}
    (hsub : log ⊆ log') (h : phase.Backed log c n) : phase.Backed log' c n := by
  cases phase with
  | recv => trivial
  | codeExists | codeRead | codeCheck => exact hsub h
  | codeRemove | store =>
    obtain ⟨h1, time, h2⟩ := h
    exact ⟨hsub h1, time, hsub h2⟩
  | reply kind response => exact fun hok => (h hok).mono hsub

namespace Host

/-- Connection `c` has been answered ok to a pairing or an authentication. -/
def Granted (log : List Event) (c : ConnId) : Prop :=
  ∃ n kind time, kind.grants = true ∧ .answered c n kind true time ∈ log

/-- What must stand in the log before an event. -/
def Explained (log : List Event) : Event → Prop
  | .commandRun c => Granted log c
  | .answered c n kind true _ => kind.Backed log c n
  | _ => True

/-- The task is about to send an ok answer to a pairing or an authentication. -/
def Granting : Phase → Prop
  | .reply kind response => kind.grants = true ∧ response.isOk = true
  | _ => False

structure GateInv (s : Host) : Prop where
  backed : ∀ c k, s.conn c = some k → k.phase.Backed s.log c k.serial
  granted : ∀ c k, s.conn c = some k → k.authenticated.isSome = true →
    Granted s.log c ∨ Granting k.phase
  causal : Trans.Causal Explained s.log

theorem gateInv_init : GateInv init := by
  refine ⟨?_, ?_, Trans.causal_nil _⟩ <;> simp [init, conn]

section Inv

variable {P : Setup} {s t : Host} {a : Act} {c : ConnId} {d : Daemon} {k : Conn} {phase : Phase}

namespace GateInv

theorem backed_step (h : GateInv s) (ht : Took P s a t) :
    ∀ c k, t.conn c = some k → k.phase.Backed t.log c k.serial := by
  have hs : ∀ c k, s.conn c = some k → k.phase.Backed t.log c k.serial :=
    fun c k hk => (h.backed c k hk).mono ht.log_subset
  -- the phase a moved task was in
  have was : ∀ {c d k phase}, s.task c = some (d, k, phase) → phase.Backed t.log c k.serial :=
    fun htask => by
      have := hs _ _ (conn_of_task htask)
      rwa [(task_eq.mp htask).2.2] at this
  cases ht with
  | clock | pairCode | revokeLoad | revokeMiss | revokeSave => exact hs
  | serve hd => simp [conn]
  | exit hd => simp [conn]
  | detect hd => simpa [conn, hd] using hs
  | accept hd => exact forall_conn_opened hd hs trivial
  | pairRefused ht => exact forall_conn_moved ht rfl rfl hs (fun hok => by simp at hok)
  | pairAdmitted ht => exact forall_conn_moved ht rfl rfl hs (by simp [Conn.start, Phase.Backed])
  | codeAbsent ht | codeUnread ht | codeDenied ht =>
    exact forall_conn_moved ht rfl rfl hs (fun hok => by simp at hok)
  | codePresent ht | codeRead ht | codeRemove ht =>
    have hb := was ht
    exact forall_conn_moved ht rfl rfl hs hb
  | codeAccepted ht =>
    exact forall_conn_moved ht rfl rfl hs ⟨was ht, _, by simp; exact Or.inr ⟨rfl, rfl⟩⟩
  | store ht hh =>
    obtain ⟨h1, time, h2⟩ := was ht
    exact forall_conn_moved ht rfl rfl hs (fun _ => ⟨_, time, rfl, h1, h2⟩)
  | authRequest ht hh =>
    refine forall_conn_moved ht rfl rfl hs (fun hok => ?_)
    have hg := (handleAuth_granted hh).symm.trans hok
    simp [Conn.start, Conn.grant, Kind.Backed, hg]
  | commandRefused ht | commandRun ht | ping ht =>
    exact forall_conn_moved ht rfl rfl hs (fun _ => trivial)
  | sent ht => exact forall_conn_moved ht rfl rfl hs trivial
  | sendFailed ht => exact forall_conn_dropped ht hs
  | hangup ht => exact forall_conn_dropped ht hs

/-- Outside of a granting answer an authenticated task has been answered ok. -/
theorem granted_old (h : GateInv s) (ht : s.task c = some (d, k, phase)) (hp : ¬ Granting phase)
    (ha : k.authenticated.isSome = true) : Granted s.log c := by
  rcases h.granted c k (conn_of_task ht) ha with hg | hg
  · exact hg
  · rw [(task_eq.mp ht).2.2] at hg
    exact absurd hg hp

theorem granted_step (h : GateInv s) (ht : Took P s a t) :
    ∀ c k, t.conn c = some k → k.authenticated.isSome = true →
      Granted t.log c ∨ Granting k.phase := by
  have mono : ∀ {c}, Granted s.log c → Granted t.log c :=
    fun ⟨n, kind, time, hk, he⟩ => ⟨n, kind, time, hk, ht.log_subset he⟩
  have hs : ∀ c k, s.conn c = some k → k.authenticated.isSome = true →
      Granted t.log c ∨ Granting k.phase := fun c k hk ha => (h.granted c k hk ha).imp_left mono
  cases ht with
  | clock | pairCode | revokeLoad | revokeMiss | revokeSave => exact hs
  | serve hd => simp [conn]
  | exit hd => simp [conn]
  | detect hd => simpa [conn, hd] using hs
  | accept hd => exact forall_conn_opened hd hs (fun ha => by cases ha)
  | pairRefused ht | pairAdmitted ht | codeAbsent ht | codePresent ht | codeRead ht | codeUnread ht
  | codeAccepted ht | codeDenied ht | codeRemove ht | commandRefused ht | commandRun ht | ping ht =>
    exact forall_conn_moved ht rfl rfl hs
      (fun ha => Or.inl (mono (h.granted_old ht (by simp [Granting]) ha)))
  | @store c request d k issue token uuid saveError save response granted devices saved ht hh =>
    refine forall_conn_moved ht rfl rfl hs (fun ha => ?_)
    cases granted with
    | some device => exact Or.inr ⟨rfl, handlePairStore_granted hh⟩
    | none => exact Or.inl (mono (h.granted_old ht (by simp [Granting]) ha))
  | @authRequest c request d k saveError save response granted devices saved ht hh =>
    refine forall_conn_moved ht rfl rfl hs (fun ha => ?_)
    cases granted with
    | some device => exact Or.inr ⟨rfl, handleAuth_granted hh⟩
    | none => exact Or.inl (mono (h.granted_old ht (by simp [Granting]) ha))
  | @sent c d k kind response ht =>
    refine forall_conn_moved ht rfl rfl hs (fun ha => Or.inl ?_)
    rcases h.granted c k (conn_of_task ht) ha with hg | hg
    · exact mono hg
    · -- the ok answer that granted it is the one sent now
      rw [(task_eq.mp ht).2.2] at hg
      exact ⟨k.serial, kind, s.wall, hg.1, by simp [hg.2]⟩
  | sendFailed ht => exact forall_conn_dropped ht hs
  | hangup ht => exact forall_conn_dropped ht hs

theorem causal_step (h : GateInv s) (ht : Took P s a t) : Trans.Causal Explained t.log := by
  rcases ht.log with hl | ⟨e, hl, hj⟩
  · exact hl ▸ h.causal
  · rw [hl]
    apply h.causal.snoc
    cases e with
    | commandRun c =>
      obtain ⟨-, d, k, htask, ha⟩ := hj
      exact h.granted_old htask (by simp [Granting]) ha
    | answered c n kind ok time =>
      cases ok with
      | false => trivial
      | true =>
        obtain ⟨-, -, d, k, response, htask, rfl, hok⟩ := hj
        have hb := h.backed c k (conn_of_task htask)
        rw [(task_eq.mp htask).2.2] at hb
        exact hb hok.symm
    | admitted | codeAccepted | authAccepted | revoked => trivial

theorem step (h : GateInv s) (ht : Took P s a t) : GateInv t :=
  ⟨h.backed_step ht, h.granted_step ht, h.causal_step ht⟩

end GateInv

end Inv

/-! ## Requests -/

end Host

/-- The request a connection task is working on. -/
def Conn.pending (k : Conn) : Option ℕ :=
  match k.phase with
  | .recv => none
  | _ => some k.serial

/-- The connection an action belongs to. -/
def Act.conn : Act → Option ConnId
  | .pairRequest c _ | .codeExists c | .codeRead c _ | .codeCheck c | .codeRemove c _
  | .store c _ _ _ _ | .authRequest c _ _ _ | .command c _ _ | .ping c _ | .send c _
  | .hangup c => some c
  | _ => none

namespace Host

/-- The request connection `c` is working on. -/
def pending (s : Host) (c : ConnId) : Option ℕ := (s.conn c).bind Conn.pending

/-- The device connection `c` is authenticated as. -/
def authenticated (s : Host) (c : ConnId) : Option TrustedDevice :=
  (s.conn c).bind Conn.authenticated

section Requests

variable {P : Setup} {s t : Host} {a : Act} {c : ConnId} {d : Daemon} {k k' : Conn} {phase : Phase}
  {n : ℕ}

/-- A task has the request it had before, or the step took a new one up. -/
theorem pending_step (ht : Took P s a t) : ∀ c k, t.conn c = some k → ∀ n, k.pending = some n →
    s.pending c = some n ∨ n = s.serials ∧ t.serials = s.serials + 1 ∧ a.conn = some c := by
  have hs : ∀ c k, s.conn c = some k → ∀ n, k.pending = some n →
      s.pending c = some n ∨ n = s.serials ∧ t.serials = s.serials + 1 ∧ a.conn = some c :=
    fun c k hk n hn => Or.inl (by simp [pending, hk, hn])
  have was : ∀ {c d k phase}, s.task c = some (d, k, phase) → s.pending c = k.pending :=
    fun htask => by simp [pending, conn_of_task htask]
  cases ht with
  | clock | pairCode | revokeLoad | revokeMiss | revokeSave => exact hs
  | serve hd => simp [conn]
  | exit hd => simp [conn]
  | detect hd => simpa [conn, hd] using hs
  | accept hd => exact forall_conn_opened hd hs (fun n hn => by cases hn)
  | pairRefused ht | pairAdmitted ht | authRequest ht | commandRefused ht | commandRun ht | ping ht =>
    refine forall_conn_moved ht rfl rfl hs (fun n hn => Or.inr ⟨?_, rfl, rfl⟩)
    simpa [Conn.pending, Conn.start, eq_comm] using hn
  | codeAbsent ht | codePresent ht | codeRead ht | codeUnread ht | codeAccepted ht | codeDenied ht
  | codeRemove ht | store ht =>
    refine forall_conn_moved ht rfl rfl hs (fun n hn => Or.inl ?_)
    rw [was ht]
    simpa [Conn.pending, Conn.goto, Conn.grant, (task_eq.mp ht).2.2] using hn
  | sent ht => exact forall_conn_moved ht rfl rfl hs (fun n hn => by cases hn)
  | sendFailed ht => exact forall_conn_dropped ht hs
  | hangup ht => exact forall_conn_dropped ht hs

theorem Took.serials (ht : Took P s a t) : s.serials ≤ t.serials := by
  cases ht <;> simp [stepPairCode]

/-- Requests have different numbers, and an answered request is no longer worked on. -/
structure Serials (s : Host) : Prop where
  below : ∀ c n, s.pending c = some n → n < s.serials
  one : ∀ c c' n, s.pending c = some n → s.pending c' = some n → c = c'
  answered : ∀ c n kind ok time, .answered c n kind ok time ∈ s.log →
    n < s.serials ∧ ∀ c', s.pending c' ≠ some n

theorem serials_init : Serials init := by
  constructor <;> simp [init, pending, conn]

theorem pending_cases (ht : Took P s a t) (hn : t.pending c = some n) :
    s.pending c = some n ∨ n = s.serials ∧ t.serials = s.serials + 1 ∧ a.conn = some c := by
  obtain ⟨k, hk, hn⟩ := Option.bind_eq_some_iff.mp hn
  exact pending_step ht c k hk n hn

theorem Serials.step (h : Serials s) (ht : Took P s a t) : Serials t := by
  refine ⟨fun c n hn => ?_, fun c c' n hn hn' => ?_, fun c n kind ok time he => ?_⟩
  · have hle := ht.serials
    rcases pending_cases ht hn with hold | ⟨rfl, hnew, -⟩
    · have := h.below c n hold
      omega
    · omega
  · rcases pending_cases ht hn with hold | ⟨rfl, -, ha⟩ <;>
      rcases pending_cases ht hn' with hold' | ⟨hs, -, ha'⟩
    · exact h.one c c' n hold hold'
    · have := h.below c n hold
      omega
    · have := h.below c' _ hold'
      omega
    · exact Option.some.inj (ha.symm.trans ha')
  · have hle := ht.serials
    have old : .answered c n kind ok time ∈ s.log →
        n < t.serials ∧ ∀ c', t.pending c' ≠ some n := fun hs => by
      obtain ⟨hlt, hnone⟩ := h.answered c n kind ok time hs
      refine ⟨by omega, ?_⟩
      intro c' hn
      rcases pending_cases ht hn with hold | ⟨rfl, -, -⟩
      · exact hnone c' hold
      · omega
    rcases ht.log with hl | ⟨e, hl, hj⟩
    · exact old (hl ▸ he)
    · rw [hl, List.mem_append, List.mem_singleton] at he
      rcases he with hs | rfl
      · exact old hs
      · obtain ⟨-, rfl, d, k, response, htask, rfl, -⟩ := hj
        have hpend : s.pending c = some k.serial := by
          simp [pending, conn_of_task htask, Conn.pending, (task_eq.mp htask).2.2]
        have hlt := h.below c _ hpend
        refine ⟨by omega, ?_⟩
        intro c' hn
        rcases pending_cases ht hn with hold | ⟨hs, -, -⟩
        · obtain rfl := h.one c c' _ hpend hold
          cases ht with
          | sent _ => simp [pending, conn, Conn.pending, Conn.goto] at hn
        · omega

/-! ## Error answers grant nothing -/

/-- The request a step works on. -/
def handles (s : Host) : Act → Option ℕ
  | .pairRequest _ _ | .authRequest _ _ _ _ | .command _ _ _ | .ping _ _ => some s.serials
  | .codeExists c | .codeRead c _ | .codeCheck c | .codeRemove c _ | .store c _ _ _ _
  | .send c _ => s.pending c
  | _ => none

/-- Request `n` is, or is being, answered ok. -/
structure AnsweredOk (n : ℕ) (s : Host) : Prop where
  below : n < s.serials
  pending : ∀ c k, s.conn c = some k → k.pending = some n → Granting k.phase
  answered : ∀ c kind ok time, .answered c n kind ok time ∈ s.log → ok = true

theorem AnsweredOk.pending_step (h : AnsweredOk n s) (ht : Took P s a t) :
    ∀ c k, t.conn c = some k → k.pending = some n → Granting k.phase := by
  have hbelow := h.below
  have hs := h.pending
  -- a task in another phase than its answer works on another request
  have other : ∀ {c d k phase}, s.task c = some (d, k, phase) → ¬ Granting phase → phase ≠ .recv →
      k.serial ≠ n := by
    intro c d k phase htask hp hr hn
    have hphase := (task_eq.mp htask).2.2
    refine hp (hphase ▸ hs c k (conn_of_task htask) ?_)
    unfold Conn.pending
    split
    · next hrecv => exact absurd (hphase.symm.trans hrecv) hr
    · rw [hn]
  cases ht with
  | clock | pairCode | revokeLoad | revokeMiss | revokeSave => exact hs
  | serve hd => simp [conn]
  | exit hd => simp [conn]
  | detect hd => simpa [conn, hd] using hs
  | accept hd => exact forall_conn_opened hd hs (fun hn => by cases hn)
  | pairRefused ht | pairAdmitted ht | authRequest ht | commandRefused ht | commandRun ht | ping ht =>
    refine forall_conn_moved ht rfl rfl hs (fun hn => ?_)
    have : s.serials = n := by simpa [Conn.pending, Conn.start] using hn
    omega
  | codeAbsent ht | codePresent ht | codeRead ht | codeUnread ht | codeAccepted ht | codeDenied ht
  | codeRemove ht | store ht hh =>
    refine forall_conn_moved ht rfl rfl hs (fun hn => ?_)
    exact absurd (by simpa [Conn.pending, Conn.goto, Conn.grant] using hn)
      (other ht (by simp [Granting]) (by simp))
  | sent ht => exact forall_conn_moved ht rfl rfl hs (fun hn => by cases hn)
  | sendFailed ht => exact forall_conn_dropped ht hs
  | hangup ht => exact forall_conn_dropped ht hs

theorem AnsweredOk.step (h : AnsweredOk n s) (ht : Took P s a t) : AnsweredOk n t := by
  refine ⟨lt_of_lt_of_le h.below ht.serials, h.pending_step ht, ?_⟩
  intro c kind ok time he
  rcases ht.log with hl | ⟨e, hl, hj⟩
  · exact h.answered c kind ok time (hl ▸ he)
  · rw [hl, List.mem_append, List.mem_singleton] at he
    rcases he with hs | rfl
    · exact h.answered c kind ok time hs
    · obtain ⟨-, -, d, k, response, htask, hserial, rfl⟩ := hj
      have hphase := (task_eq.mp htask).2.2
      have hg := h.pending c k (conn_of_task htask) (by simp [Conn.pending, hphase, hserial])
      rw [hphase] at hg
      exact hg.2

/-- **A step that authenticates a connection works on a request that is then answered ok.** -/
theorem grants_step (ht : Took P s a t) : ∀ c k, t.conn c = some k →
    k.authenticated = s.authenticated c ∨ k.authenticated = none ∨
      s.handles a = some k.serial ∧ Granting k.phase ∧ k.pending = some k.serial := by
  have hs : ∀ c k, s.conn c = some k → k.authenticated = s.authenticated c ∨
      k.authenticated = none ∨ s.handles a = some k.serial ∧ Granting k.phase ∧
        k.pending = some k.serial := fun c k hk => Or.inl (by simp [authenticated, hk])
  have was : ∀ {c d k phase}, s.task c = some (d, k, phase) → s.authenticated c = k.authenticated :=
    fun htask => by simp [authenticated, conn_of_task htask]
  cases ht with
  | clock | pairCode | revokeLoad | revokeMiss | revokeSave => exact hs
  | serve hd => simp [conn]
  | exit hd => simp [conn]
  | detect hd => simpa [conn, hd, authenticated] using hs
  | accept hd => exact forall_conn_opened hd hs (Or.inr (Or.inl rfl))
  | pairRefused ht | pairAdmitted ht | codeAbsent ht | codePresent ht | codeRead ht | codeUnread ht
  | codeAccepted ht | codeDenied ht | codeRemove ht | commandRefused ht | commandRun ht | ping ht
  | sent ht =>
    have hwas := was ht
    exact forall_conn_moved ht rfl rfl hs (Or.inl hwas.symm)
  | @store c request d k issue token uuid saveError save response granted devices saved ht hh =>
    have hwas := was ht
    apply forall_conn_moved ht rfl rfl hs
    cases granted with
    | none => exact Or.inl hwas.symm
    | some device =>
      refine Or.inr (Or.inr ⟨?_, ⟨rfl, handlePairStore_granted hh⟩, rfl⟩)
      simp [handles, pending, conn_of_task ht, Conn.pending, (task_eq.mp ht).2.2, Conn.goto,
        Conn.grant]
  | @authRequest c request d k saveError save response granted devices saved ht hh =>
    have hwas := was ht
    apply forall_conn_moved ht rfl rfl hs
    cases granted with
    | none => exact Or.inl hwas.symm
    | some device => exact Or.inr (Or.inr ⟨rfl, ⟨rfl, handleAuth_granted hh⟩, rfl⟩)
  | sendFailed ht => exact forall_conn_dropped ht hs
  | hangup ht => exact forall_conn_dropped ht hs

end Requests

/-! ## The gate -/

/-- Pair request `n` of connection `c` passes the name check, the rate limiter and the public-pairing
policy. -/
def AdmitsPair (P : Setup) (c : ConnId) (n : ℕ) (request : PairRequest) (s : Host) (a : Act) : Prop :=
  n = s.serials ∧ a = .pairRequest c request ∧ nameRejected request.deviceName = false ∧
    ∃ d k, s.task c = some (d, k, .recv) ∧
      (d.limiter.allow k.peer.ip P.config.maxPairAttemptsPerMinute s.mono).1 = true ∧
      canPairPublicly P.config k.peer = true

/-- Pair request `n` of connection `c` passes the check of code `issue`. -/
def AcceptsCode (P : Setup) (c : ConnId) (n : ℕ) (request : PairRequest) (issue : ℕ) (s : Host)
    (a : Act) : Prop :=
  a = .codeCheck c ∧ s.pending c = some n ∧
    ∃ file, s.codes[issue]? = some file ∧
      file.valid P.sha256Hex request.pairingCode s.wall = true

/-- Auth request `n` of connection `c` finds its device, unrevoked, under the hash of its token. -/
def AcceptsDevice (P : Setup) (c : ConnId) (n : ℕ) (request : AuthRequest) (s : Host) (a : Act) :
    Prop :=
  n = s.serials ∧ (∃ save saveError, a = .authRequest c request save saveError) ∧
    ∃ d, s.daemon = some d ∧
      TrustedDevices.Holds P.sha256Hex request.deviceId request.sessionToken d.devices

/-- The gate, for the run `as` to `s`. -/
structure Gate (P : Setup) (as : List Act) (s : Host) : Prop where
  /-- before a command, the same connection was answered ok to a pairing or an authentication -/
  command : ∀ pre c post, s.log = pre ++ .commandRun c :: post → Granted pre c
  /-- an ok to an authentication comes after the moment at which the daemon held the device -/
  auth : ∀ pre c n request time post,
    s.log = pre ++ .answered c n (.auth request) true time :: post →
    .authAccepted c n request ∈ pre ∧ Trans.At (step P) init as (AcceptsDevice P c n request)
  /-- an ok to a pairing comes after the moments at which the four checks were passed -/
  pair : ∀ pre c n request code time post,
    s.log = pre ++ .answered c n (.pair request code) true time :: post →
    ∃ issue checked, code = some issue ∧
      .admitted c n request ∈ pre ∧ .codeAccepted c n request issue checked ∈ pre ∧
      Trans.At (step P) init as (AdmitsPair P c n request) ∧
      Trans.At (step P) init as (AcceptsCode P c n request issue)
  /-- no step that works on a request answered with an error authenticates a connection -/
  error : ∀ c n kind time, .answered c n kind false time ∈ s.log →
    ∀ as1 a as2 u v, as = as1 ++ a :: as2 → Trans.Runs (step P) Trans.Free init as1 u →
      step P u a = some v → u.handles a = some n →
      ∀ c', v.authenticated c' = u.authenticated c' ∨ v.authenticated c' = none

section Gate

variable {P : Setup} {as : List Act} {s : Host}

theorem moment_of_mem {e : Event} (hr : Trans.Runs (step P) Trans.Free init as s) (he : e ∈ s.log) :
    Trans.At (step P) init as (fun u a => Justified P u a e) := by
  refine hr.moment (F := fun s => e ∈ s.log) (by simp [init]) he (fun u a v hs hu hv => ?_)
  rcases (took_of_step hs).log with hl | ⟨e', hl, hj⟩
  · exact absurd (hl ▸ hv) hu
  · rw [hl, List.mem_append, List.mem_singleton] at hv
    rcases hv with hv | rfl
    · exact absurd hv hu
    · exact hj

theorem admits_of_mem {c : ConnId} {n : ℕ} {request : PairRequest}
    (hr : Trans.Runs (step P) Trans.Free init as s) (he : .admitted c n request ∈ s.log) :
    Trans.At (step P) init as (AdmitsPair P c n request) := by
  refine (moment_of_mem hr he).mono (fun as1 u a _ hj => ?_)
  obtain ⟨hn, ha, d, k, limiter, htask, hadmit⟩ := hj
  obtain ⟨hname, hallow, hpolicy⟩ := handlePairAdmit_none hadmit
  exact ⟨hn, ha, hname, d, k, htask, by rw [hallow], hpolicy⟩

theorem acceptsCode_of_mem {c : ConnId} {n issue time : ℕ} {request : PairRequest}
    (hr : Trans.Runs (step P) Trans.Free init as s)
    (he : .codeAccepted c n request issue time ∈ s.log) :
    Trans.At (step P) init as (AcceptsCode P c n request issue) := by
  refine (moment_of_mem hr he).mono (fun as1 u a hu hj => ?_)
  obtain ⟨-, ha, d, k, file, htask, rfl, hv⟩ := hj
  have hknown : Known P u :=
    hu.inv (fun _ _ _ h _ hs => h.step (took_of_step hs)) (known_init P)
  have hv' := hv
  simp only [PairingCodeFile.valid, Bool.and_eq_true] at hv'
  have hst : u.stake P c = some (issue, .read file) := by
    rw [stake_of_task htask, Phase.stake, if_pos hv'.2]
  refine ⟨ha, ?_, file, hknown.read c issue file hst, hv⟩
  simp [pending, conn_of_task htask, Conn.pending, (task_eq.mp htask).2.2]

theorem acceptsDevice_of_mem {c : ConnId} {n : ℕ} {request : AuthRequest}
    (hr : Trans.Runs (step P) Trans.Free init as s) (he : .authAccepted c n request ∈ s.log) :
    Trans.At (step P) init as (AcceptsDevice P c n request) := by
  refine (moment_of_mem hr he).mono (fun as1 u a _ hj => ?_)
  obtain ⟨hn, ha, d, k, htask, hholds⟩ := hj
  exact ⟨hn, ha, d, (task_eq.mp htask).1, hholds⟩

/-- Once a step has authenticated a connection for request `n`, every answer to `n` is ok. -/
theorem answers_ok {as1 as2 : List Act} {a : Act} {u v : Host} {n : ℕ} {c : ConnId}
    (hu : Trans.Runs (step P) Trans.Free init as1 u) (hs : step P u a = some v)
    (hv : Trans.Runs (step P) Trans.Free v as2 s) (hn : u.handles a = some n)
    (hne : v.authenticated c ≠ u.authenticated c) (hsome : v.authenticated c ≠ none) :
    ∀ c' kind ok time, .answered c' n kind ok time ∈ s.log → ok = true := by
  have ht := took_of_step hs
  have hserials : Serials v :=
    (hu.inv (fun _ _ _ h _ hs => h.step (took_of_step hs)) serials_init).step ht
  obtain ⟨k, hk⟩ : ∃ k, v.conn c = some k := by
    rw [← Option.isSome_iff_exists, Option.isSome_iff_ne_none]
    intro hnone
    simp [authenticated, hnone] at hsome
  have hauth : v.authenticated c = k.authenticated := by simp [authenticated, hk]
  -- a connection that comes to be authenticated has an ok answer to send
  rcases grants_step ht c k hk with h | h | ⟨hh, hg, hp⟩
  · exact absurd (hauth.trans h) hne
  · exact absurd (hauth.trans h) hsome
  · obtain rfl : n = k.serial := Option.some.inj (hn.symm.trans hh)
    have hpend : v.pending c = some k.serial := by simp [pending, hk, hp]
    have hok : AnsweredOk k.serial v := by
      refine ⟨hserials.below c _ hpend, fun c' k' hk' hp' => ?_, fun c' kind ok time he => ?_⟩
      · obtain rfl := hserials.one c c' _ hpend (by simp [pending, hk', hp'])
        obtain rfl : k = k' := Option.some.inj (hk.symm.trans hk')
        exact hg
      · exact absurd hpend ((hserials.answered c' _ kind ok time he).2 c)
    exact (hv.inv (fun _ _ _ h _ hs => h.step (took_of_step hs)) hok).answered

/-- **The gate**: it holds of every run. -/
theorem gate (P : Setup) {as : List Act} {s : Host}
    (hr : Trans.Runs (step P) Trans.Free init as s) : Gate P as s := by
  have hinv : GateInv s := hr.inv (fun _ _ _ h _ hs => h.step (took_of_step hs)) gateInv_init
  refine ⟨fun pre c post hl => hinv.causal pre _ post hl, ?_, ?_, ?_⟩
  · intro pre c n request time post hl
    have hb : .authAccepted c n request ∈ pre := hinv.causal pre _ post hl
    exact ⟨hb, acceptsDevice_of_mem hr (by rw [hl]; exact List.mem_append_left _ hb)⟩
  · intro pre c n request code time post hl
    obtain ⟨issue, checked, hc, h1, h2⟩ := hinv.causal pre _ post hl
    exact ⟨issue, checked, hc, h1, h2,
      admits_of_mem hr (by rw [hl]; exact List.mem_append_left _ h1),
      acceptsCode_of_mem hr (by rw [hl]; exact List.mem_append_left _ h2)⟩
  · rintro c n kind time he as1 a as2 u v rfl hu hs hn c'
    by_contra hnot
    push Not at hnot
    cases answers_ok hu hs (hr.rest hu hs) hn hnot.1 hnot.2 c kind false time he

/-- One phone pairs and sends a command, another one is refused. -/
def gatedRun : List Act :=
  onceRun ++ [.command 0 "r3" (.ok none), .send 0 true, .command 1 "r4" (.ok none), .send 1 true]

theorem gate_demo : ∃ s, Trans.run (step demoSetup) init gatedRun = some s ∧
    .commandRun 0 ∈ s.log ∧ .commandRun 1 ∉ s.log ∧ Gate demoSetup gatedRun s :=
  ⟨_, rfl, by decide, by decide,
    gate demoSetup (Trans.runs_free gatedRun rfl)⟩

end Gate

end Host

end Waypad
