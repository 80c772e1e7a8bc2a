import Waypad.Server.Host

/-!
# Waypad.Server.HandlePair — one call of `handle_pair` (`src/server.rs`, `src/state.rs`)

The call from its first check to its answer, when nobody else touches what it touches.

* `PairStores`: what it reads and changes; `PairWorld`: what its environment answers.
* `handlePair`: the call.
* `handlePair_host`: it is what the steps of the host make of the request.
* `CodeAccepted`, `refused_unchanged`: a request whose code is not accepted changes nothing.
* `failed_stores`: what an error leaves; `unsaved_held`: what a failed save leaves in memory.
-/

namespace Waypad

structure PairStores where
  limiter : PairRateLimiter
  /-- in memory -/
  devices : TrustedDevices
  /-- `trusted_devices.json` -/
  trustedFile : Option TrustedDevices
  /-- `pairing_code.json`, and which code it is -/
  codeFile : Option (ℕ × PairingCodeFile)

/-- The clocks, the outcomes of the file operations and the random values of one call. -/
structure PairWorld where
  mono : ℕ
  /-- `now_unix()` at the check of the code -/
  checkedAt : ℕ
  /-- `read_to_string` or the parser fails -/
  readError : Option String
  /-- `remove_file` succeeds -/
  removed : Bool
  token : Except String String
  uuid : String
  /-- `now_unix()` in `pair_device` -/
  pairedAt : ℕ
  save : SaveOutcome
  saveError : String

/-- `validate_pairing_code`. -/
def validatePairingCode (sha256Hex : String → String) (codeFile : Option (ℕ × PairingCodeFile))
    (code : String) (w : PairWorld) : Except String Bool × Option (ℕ × PairingCodeFile) :=
  match codeFile with
  | none => (.ok false, none)
  | some (issue, file) =>
    match w.readError with
    | some err => (.error err, some (issue, file))
    | none =>
      if file.valid sha256Hex code w.checkedAt then
        (.ok true, if w.removed then none else some (issue, file))
      else (.ok false, some (issue, file))

/-- `handle_pair`. -/
def handlePair (P : Setup) (capabilities : Value) (peer : SocketAddr) (request : PairRequest)
    (w : PairWorld) (s : PairStores) : (ServerSecureMessage × Option TrustedDevice) × PairStores :=
  match handlePairAdmit P.config s.limiter peer w.mono request with
  | (some err, limiter) => ((responseError request.requestId err, none), { s with limiter })
  | (none, limiter) =>
    match validatePairingCode P.sha256Hex s.codeFile request.pairingCode w with
    | (.error err, codeFile) =>
      ((responseError request.requestId (pairingStateError err), none), { s with limiter, codeFile })
    | (.ok false, codeFile) =>
      ((responseError request.requestId pairingDenied, none), { s with limiter, codeFile })
    | (.ok true, codeFile) =>
      match handlePairStore P.sha256Hex ⟨P.hostName, P.fingerprint, capabilities⟩ s.devices request
          w.token w.uuid w.pairedAt w.save w.saveError with
      | (response, granted, devices, saved) =>
        ((response, granted),
          { limiter, devices, codeFile
            trustedFile := if saved then w.save.write s.trustedFile (some devices) else s.trustedFile })

namespace HandlePair

variable {P : Setup} {capabilities : Value} {peer : SocketAddr} {request : PairRequest} {w : PairWorld}
  {s : PairStores}

/-! ## `validate_pairing_code` -/

section Validate

variable {sha256Hex : String → String} {code : String} {issue : ℕ} {file : PairingCodeFile}

theorem validate_absent : validatePairingCode sha256Hex none code w = (.ok false, none) := rfl

theorem validate_unread {found : ℕ × PairingCodeFile} {err : String} (hread : w.readError = some err) :
    validatePairingCode sha256Hex (some found) code w = (.error err, some found) := by
  simp only [validatePairingCode, hread]

theorem validate_denied (hread : w.readError = none)
    (hvalid : ¬ file.valid sha256Hex code w.checkedAt = true) :
    validatePairingCode sha256Hex (some (issue, file)) code w = (.ok false, some (issue, file)) := by
  simp only [validatePairingCode, hread, if_neg hvalid]

theorem validate_accepted (hread : w.readError = none)
    (hvalid : file.valid sha256Hex code w.checkedAt = true) :
    validatePairingCode sha256Hex (some (issue, file)) code w =
      (.ok true, if w.removed then none else some (issue, file)) := by
  simp only [validatePairingCode, hread, if_pos hvalid]

end Validate

/-! ## The steps of the host -/

section Steps

open Host

variable {h : Host} {c : ConnId} {phase : Phase}

/-- Connection `c` of the running daemon is at `phase`, over these stores. -/
def Handling (h : Host) (c : ConnId) (peer : SocketAddr) (capabilities : Value) (s : PairStores)
    (phase : Phase) : Prop :=
  ∃ d k, h.task c = some (d, k, phase) ∧ k.peer = peer ∧ d.capabilities = capabilities ∧
    d.limiter = s.limiter ∧ d.devices = s.devices ∧ h.trustedFile = s.trustedFile ∧
    h.codeFile = s.codeFile

theorem task_put (h : Host) (d : Daemon) (c : ConnId) (k : Conn) :
    (h.put d c k).task c =
      some ({ d with conns := Function.update d.conns c (some k) }, k, k.phase) := by
  rw [task_eq]
  exact ⟨rfl, Function.update_self _ _ _, rfl⟩

/-- The action leads there, and the clocks stand still. -/
def Leads (P : Setup) (h : Host) (action : Act) (c : ConnId) (peer : SocketAddr) (capabilities : Value)
    (s : PairStores) (phase : Phase) : Prop :=
  ∃ h', step P h action = some h' ∧ Handling h' c peer capabilities s phase ∧ h'.wall = h.wall ∧
    h'.mono = h.mono

/-- The task goes to another phase. -/
theorem leads_goto {action : Act} {next : Phase} (hs : Handling h c peer capabilities s phase)
    (hstep : ∀ d k, h.task c = some (d, k, phase) → ∃ log,
      step P h action = some { h.put d c (k.goto next) with log }) :
    Leads P h action c peer capabilities s next := by
  obtain ⟨d, k, htask, hpeer, hcapabilities, hlimiter, hdevices, htrusted, hcode⟩ := hs
  obtain ⟨log, hstep⟩ := hstep d k htask
  exact ⟨_, hstep, ⟨_, _, task_put h d c _, hpeer, hcapabilities, hlimiter, hdevices, htrusted, hcode⟩,
    rfl, rfl⟩

theorem handling_code (hs : Handling h c peer capabilities s phase) : h.codeFile = s.codeFile := by
  obtain ⟨-, -, -, -, -, -, -, -, hcode⟩ := hs
  exact hcode

theorem leads_refuse {err : ApiError} {limiter : PairRateLimiter}
    (hs : Handling h c peer capabilities s .recv)
    (hchecks : handlePairAdmit P.config s.limiter peer h.mono request = (some err, limiter)) :
    Leads P h (.pairRequest c request) c peer capabilities { s with limiter }
      (.reply (.pair request none) (responseError request.requestId err)) := by
  obtain ⟨d, k, htask, rfl, rfl, hlimiter, hdevices, htrusted, hcode⟩ := hs
  have hstep : step P h (.pairRequest c request) =
      some { h.put { d with limiter } c (k.start h.serials
          (.reply (.pair request none) (responseError request.requestId err))) with
        serials := h.serials + 1 } := by
    simp only [step, stepPairRequest, htask, hlimiter, hchecks]
  exact ⟨_, hstep, ⟨_, _, task_put h { d with limiter } c _, rfl, rfl, rfl, hdevices, htrusted, hcode⟩,
    rfl, rfl⟩

theorem leads_admit {limiter : PairRateLimiter} (hs : Handling h c peer capabilities s .recv)
    (hchecks : handlePairAdmit P.config s.limiter peer h.mono request = (none, limiter)) :
    Leads P h (.pairRequest c request) c peer capabilities { s with limiter } (.codeExists request) := by
  obtain ⟨d, k, htask, rfl, rfl, hlimiter, hdevices, htrusted, hcode⟩ := hs
  have hstep : step P h (.pairRequest c request) =
      some { h.put { d with limiter } c (k.start h.serials (.codeExists request)) with
        serials := h.serials + 1
        log := h.log ++ [.admitted c h.serials request] } := by
    simp only [step, stepPairRequest, htask, hlimiter, hchecks]
  exact ⟨_, hstep, ⟨_, _, task_put h { d with limiter } c _, rfl, rfl, rfl, hdevices, htrusted, hcode⟩,
    rfl, rfl⟩

theorem leads_absent (hs : Handling h c peer capabilities s (.codeExists request))
    (hfile : s.codeFile = none) : Leads P h (.codeExists c) c peer capabilities s
      (.reply (.pair request none) (responseError request.requestId pairingDenied)) := by
  have hcode := (handling_code hs).trans hfile
  refine leads_goto hs (fun d k htask => ⟨h.log, ?_⟩)
  simp only [step, stepCodeExists, htask, hcode]
  rfl

theorem leads_exists {file : ℕ × PairingCodeFile}
    (hs : Handling h c peer capabilities s (.codeExists request)) (hfile : s.codeFile = some file) :
    Leads P h (.codeExists c) c peer capabilities s (.codeRead request) := by
  have hcode := (handling_code hs).trans hfile
  refine leads_goto hs (fun d k htask => ⟨h.log, ?_⟩)
  simp only [step, stepCodeExists, htask, hcode]
  rfl

theorem leads_unread (err : String) (hs : Handling h c peer capabilities s (.codeRead request)) :
    Leads P h (.codeRead c (.error err)) c peer capabilities s
      (.reply (.pair request none) (responseError request.requestId (pairingStateError err))) := by
  refine leads_goto hs (fun d k htask => ⟨h.log, ?_⟩)
  simp only [step, stepCodeRead, htask]
  rfl

theorem leads_read {issue : ℕ} {file : PairingCodeFile}
    (hs : Handling h c peer capabilities s (.codeRead request)) (hfile : s.codeFile = some (issue, file)) :
    Leads P h (.codeRead c (.ok ())) c peer capabilities s (.codeCheck request issue file) := by
  have hcode := (handling_code hs).trans hfile
  refine leads_goto hs (fun d k htask => ⟨h.log, ?_⟩)
  simp only [step, stepCodeRead, htask, hcode]
  rfl

theorem leads_deny {issue : ℕ} {file : PairingCodeFile}
    (hs : Handling h c peer capabilities s (.codeCheck request issue file))
    (hvalid : ¬ file.valid P.sha256Hex request.pairingCode h.wall = true) :
    Leads P h (.codeCheck c) c peer capabilities s
      (.reply (.pair request (some issue)) (responseError request.requestId pairingDenied)) := by
  refine leads_goto hs (fun d k htask => ⟨h.log, ?_⟩)
  simp only [step, stepCodeCheck, htask, if_neg hvalid]
  rfl

theorem leads_accept {issue : ℕ} {file : PairingCodeFile}
    (hs : Handling h c peer capabilities s (.codeCheck request issue file))
    (hvalid : file.valid P.sha256Hex request.pairingCode h.wall = true) :
    Leads P h (.codeCheck c) c peer capabilities s (.codeRemove request issue) := by
  refine leads_goto hs (fun d k htask => ⟨h.log ++ [.codeAccepted c k.serial request issue h.wall], ?_⟩)
  simp only [step, stepCodeCheck, htask, if_pos hvalid]

theorem leads_remove {issue : ℕ} (removed : Bool)
    (hs : Handling h c peer capabilities s (.codeRemove request issue)) :
    Leads P h (.codeRemove c removed) c peer capabilities
      { s with codeFile := if removed then none else s.codeFile } (.store request issue) := by
  obtain ⟨d, k, htask, hpeer, hcapabilities, hlimiter, hdevices, htrusted, hcode⟩ := hs
  have hstep : step P h (.codeRemove c removed) =
      some { h.put d c (k.goto (.store request issue)) with
        codeFile := if removed then none else h.codeFile } := by
    simp only [step, stepCodeRemove, htask]
  refine ⟨_, hstep, ⟨_, _, task_put h d c _, hpeer, hcapabilities, hlimiter, hdevices, htrusted, ?_⟩,
    rfl, rfl⟩
  rw [← hcode]

theorem leads_store {issue : ℕ} {token : Except String String} {uuid saveError : String}
    {save : SaveOutcome} {response : ServerSecureMessage} {granted : Option TrustedDevice}
    {devices : TrustedDevices} {saved : Bool}
    (hs : Handling h c peer capabilities s (.store request issue))
    (hstore : handlePairStore P.sha256Hex ⟨P.hostName, P.fingerprint, capabilities⟩ s.devices request
      token uuid h.wall save saveError = (response, granted, devices, saved)) :
    Leads P h (.store c token uuid save saveError) c peer capabilities
      { s with
        devices
        trustedFile := if saved then save.write s.trustedFile (some devices) else s.trustedFile }
      (.reply (.pair request (some issue)) response) := by
  obtain ⟨d, k, htask, hpeer, rfl, hlimiter, hdevices, htrusted, hcode⟩ := hs
  rw [← hdevices] at hstore
  have hstep : step P h (.store c token uuid save saveError) =
      some { h.put { d with devices } c
          ((k.grant granted).goto (.reply (.pair request (some issue)) response)) with
        trustedFile := if saved then save.write h.trustedFile (some devices) else h.trustedFile } := by
    simp only [step, stepStore, htask, info, hstore]
  refine ⟨_, hstep, ⟨_, _, task_put h { d with devices } c _, hpeer, rfl, hlimiter, rfl, ?_, hcode⟩,
    rfl, rfl⟩
  rw [← htrusted]

/-- The clock is set. -/
theorem handling_clock (hs : Handling h c peer capabilities s phase) (wall : ℕ) :
    ∃ h', step P h (.clock wall h.mono) = some h' ∧ Handling h' c peer capabilities s phase ∧
      h'.wall = wall ∧ h'.mono = h.mono := by
  refine ⟨{ h with wall }, ?_, hs, rfl, rfl⟩
  rw [step, if_pos (Nat.le_refl _)]

/-- From the check of the code to the answer. -/
theorem handling_check {issue : ℕ} {file : PairingCodeFile} {limiter : PairRateLimiter}
    (hs : Handling h c peer capabilities { s with limiter } (.codeCheck request issue file))
    (hfile : s.codeFile = some (issue, file)) (hread : w.readError = none)
    (hwall : h.wall = w.checkedAt)
    (hchecks : handlePairAdmit P.config s.limiter peer w.mono request = (none, limiter)) :
    ∃ actions h' kind, Trans.run (step P) h actions = some h' ∧
      Handling h' c peer capabilities (handlePair P capabilities peer request w s).2
        (.reply kind (handlePair P capabilities peer request w s).1.1) := by
  unfold handlePair
  rw [hchecks, hfile]
  dsimp only
  by_cases hvalid : file.valid P.sha256Hex request.pairingCode w.checkedAt = true
  · rw [validate_accepted hread hvalid]
    obtain ⟨h1, hstep1, hs1, -, -⟩ := leads_accept hs (by rw [hwall]; exact hvalid)
    obtain ⟨h2, hstep2, hs2, -, -⟩ := leads_remove (P := P) w.removed hs1
    obtain ⟨h3, hstep3, hs3, hwall3, -⟩ := handling_clock (P := P) hs2 w.pairedAt
    cases hstore : handlePairStore P.sha256Hex ⟨P.hostName, P.fingerprint, capabilities⟩ s.devices request
        w.token w.uuid w.pairedAt w.save w.saveError with
    | mk response rest =>
      obtain ⟨granted, devices, saved⟩ := rest
      rw [← hwall3] at hstore
      obtain ⟨h4, hstep4, hs4, -, -⟩ := leads_store hs3 hstore
      have hrun := Trans.run_cons hstep1 (Trans.run_cons hstep2 (Trans.run_cons hstep3
        (Trans.run_cons hstep4 (Trans.run_nil _))))
      refine ⟨_, h4, .pair request (some issue), hrun, ?_⟩
      rw [hfile] at hs4
      exact hs4
  · rw [validate_denied hread hvalid]
    obtain ⟨h1, hstep1, hs1, -, -⟩ := leads_deny hs (by rw [hwall]; exact hvalid)
    refine ⟨_, h1, .pair request (some issue), Trans.run_cons hstep1 (Trans.run_nil _), ?_⟩
    rw [← hfile]
    exact hs1

/-- **The steps of the host**: alone on the host, the request is answered as `handlePair` says, and the
stores are those it returns. -/
theorem handlePair_host (hs : Handling h c peer capabilities s .recv) (hmono : h.mono = w.mono) :
    ∃ actions h' kind, Trans.run (step P) h actions = some h' ∧
      Handling h' c peer capabilities (handlePair P capabilities peer request w s).2
        (.reply kind (handlePair P capabilities peer request w s).1.1) := by
  cases hchecks : handlePairAdmit P.config s.limiter peer w.mono request with
  | mk refused limiter =>
    have hchecks' := hchecks
    rw [← hmono] at hchecks'
    cases refused with
    | some err =>
      obtain ⟨h1, hstep1, hs1, -, -⟩ := leads_refuse hs hchecks'
      refine ⟨_, h1, .pair request none, Trans.run_cons hstep1 (Trans.run_nil _), ?_⟩
      rw [handlePair, hchecks]
      exact hs1
    | none =>
      obtain ⟨h1, hstep1, hs1, -, -⟩ := leads_admit hs hchecks'
      cases hfile : s.codeFile with
      | none =>
        obtain ⟨h2, hstep2, hs2, -, -⟩ := leads_absent (P := P) hs1 hfile
        have hrun := Trans.run_cons hstep1 (Trans.run_cons hstep2 (Trans.run_nil _))
        refine ⟨_, h2, .pair request none, hrun, ?_⟩
        rw [handlePair, hchecks, hfile, validate_absent]
        rw [← hfile]
        exact hs2
      | some found =>
        obtain ⟨issue, file⟩ := found
        obtain ⟨h2, hstep2, hs2, -, -⟩ := leads_exists (P := P) hs1 hfile
        cases hread : w.readError with
        | some err =>
          obtain ⟨h3, hstep3, hs3, -, -⟩ := leads_unread (P := P) err hs2
          have hrun := Trans.run_cons hstep1 (Trans.run_cons hstep2 (Trans.run_cons hstep3
            (Trans.run_nil _)))
          refine ⟨_, h3, .pair request none, hrun, ?_⟩
          rw [handlePair, hchecks, hfile, validate_unread hread]
          rw [← hfile]
          exact hs3
        | none =>
          obtain ⟨h3, hstep3, hs3, -, -⟩ := leads_read (P := P) hs2 hfile
          -- the clock goes on to the time at which the code is checked
          obtain ⟨h4, hstep4, hs4, hwall4, -⟩ := handling_clock (P := P) hs3 w.checkedAt
          obtain ⟨actions, h', kind, hrun, hdone⟩ := handling_check hs4 hfile hread hwall4 hchecks
          exact ⟨_, h', kind, Trans.run_cons hstep1 (Trans.run_cons hstep2 (Trans.run_cons hstep3
            (Trans.run_cons hstep4 hrun))), hdone⟩

end Steps

/-! ## What an error leaves -/

/-- The request passes the name check, the limiter and the policy, and its code is the one in the file. -/
def CodeAccepted (P : Setup) (peer : SocketAddr) (request : PairRequest) (w : PairWorld)
    (s : PairStores) : Prop :=
  (handlePairAdmit P.config s.limiter peer w.mono request).1 = none ∧
    (validatePairingCode P.sha256Hex s.codeFile request.pairingCode w).1 = .ok true

/-- The devices in memory, their file and the pairing-code file are the same. -/
structure Unchanged (s s' : PairStores) : Prop where
  devices : s'.devices = s.devices
  trustedFile : s'.trustedFile = s.trustedFile
  codeFile : s'.codeFile = s.codeFile

/-- A code that is not accepted stays in its file. -/
theorem validate_keeps {sha256Hex : String → String} {codeFile : Option (ℕ × PairingCodeFile)}
    {code : String} (h : (validatePairingCode sha256Hex codeFile code w).1 ≠ .ok true) :
    (validatePairingCode sha256Hex codeFile code w).2 = codeFile := by
  unfold validatePairingCode at h ⊢
  split
  · rfl
  · next issue file =>
    dsimp only at h
    split
    · rfl
    · next hread =>
      rw [hread] at h
      dsimp only at h
      split
      · next hvalid =>
        rw [if_pos hvalid] at h
        exact absurd rfl h
      · rfl

/-- An accepted code is gone, unless its file cannot be removed. -/
theorem validate_consumes {sha256Hex : String → String} {codeFile : Option (ℕ × PairingCodeFile)}
    {code : String} (h : (validatePairingCode sha256Hex codeFile code w).1 = .ok true) :
    (validatePairingCode sha256Hex codeFile code w).2 = if w.removed then none else codeFile := by
  unfold validatePairingCode at h ⊢
  split
  · simp at h
  · next issue file =>
    dsimp only at h
    split
    · next err hread =>
      rw [hread] at h
      cases h
    · next hread =>
      rw [hread] at h
      dsimp only at h
      split
      · rfl
      · next hvalid =>
        rw [if_neg hvalid] at h
        cases h

/-- **A request whose code is not accepted** changes none of the three. -/
theorem refused_unchanged (h : ¬ CodeAccepted P peer request w s) :
    Unchanged s (handlePair P capabilities peer request w s).2 := by
  unfold handlePair
  cases hchecks : handlePairAdmit P.config s.limiter peer w.mono request with
  | mk refused limiter =>
    cases refused with
    | some err => exact ⟨rfl, rfl, rfl⟩
    | none =>
      have hcode : (validatePairingCode P.sha256Hex s.codeFile request.pairingCode w).1 ≠ .ok true := by
        intro hok
        exact h ⟨by rw [hchecks], hok⟩
      have hkept := validate_keeps hcode
      cases hvalidate : validatePairingCode P.sha256Hex s.codeFile request.pairingCode w with
      | mk result codeFile =>
        rw [hvalidate] at hkept hcode
        cases result with
        | error err => exact ⟨rfl, rfl, hkept⟩
        | ok valid =>
          cases valid with
          | false => exact ⟨rfl, rfl, hkept⟩
          | true => exact absurd rfl hcode

/-- **Once the code is accepted** it is used up, and the last section decides the rest. -/
theorem handlePair_accepted (capabilities : Value) (h : CodeAccepted P peer request w s) :
    ∃ response granted devices saved, handlePairStore P.sha256Hex ⟨P.hostName, P.fingerprint, capabilities⟩
        s.devices request w.token w.uuid w.pairedAt w.save w.saveError =
        (response, granted, devices, saved) ∧
      (handlePair P capabilities peer request w s).1.1 = response ∧
      (handlePair P capabilities peer request w s).2.codeFile = (if w.removed then none else s.codeFile) ∧
      (handlePair P capabilities peer request w s).2.devices = devices ∧
      (handlePair P capabilities peer request w s).2.trustedFile =
        if saved then w.save.write s.trustedFile (some devices) else s.trustedFile := by
  obtain ⟨hchecks, hcode⟩ := h
  have hgone := validate_consumes hcode
  unfold handlePair
  cases hadmitted : handlePairAdmit P.config s.limiter peer w.mono request with
  | mk refused limiter =>
    rw [hadmitted] at hchecks
    obtain rfl : refused = none := hchecks
    cases hvalidate : validatePairingCode P.sha256Hex s.codeFile request.pairingCode w with
    | mk result codeFile =>
      rw [hvalidate] at hgone hcode
      obtain rfl : result = .ok true := hcode
      exact ⟨_, _, _, _, rfl, rfl, hgone, rfl, rfl⟩

/-- **A save that fails** is answered with an error, and the device stays in memory beside all others, with the
token that nobody has been told. -/
theorem unsaved_held (capabilities : Value) (h : CodeAccepted P peer request w s) {token : String}
    (htoken : w.token = .ok token) (hsave : w.save.isOk = false) :
    (handlePair P capabilities peer request w s).1.1.isOk = false ∧
      TrustedDevices.Holds P.sha256Hex w.uuid token (handlePair P capabilities peer request w s).2.devices ∧
      ∀ d ∈ s.devices.devices, d.id ≠ w.uuid →
        d ∈ (handlePair P capabilities peer request w s).2.devices.devices := by
  obtain ⟨response, granted, devices, saved, hstore, hresponse, -, hdevices, -⟩ :=
    handlePair_accepted capabilities h
  rw [hresponse, hdevices]
  cases hpaired : TrustedDevices.pairDevice P.sha256Hex s.devices request.deviceName request.appVersion w.token
      w.uuid w.pairedAt with
  | mk result paired =>
    have hmade := hpaired
    rw [htoken, TrustedDevices.pairDevice] at hmade
    obtain ⟨hresult, hpairedDevices⟩ := Prod.mk.inj hmade
    rw [handlePairStore, hpaired, ← hresult] at hstore
    simp only [hsave, Bool.not_false, ↓reduceIte] at hstore
    cases hstore
    rw [htoken, ← hresult] at hpaired
    refine ⟨rfl, (TrustedDevices.pairDevice_ok hpaired).2, ?_⟩
    intro d hd hne
    rw [← hpairedDevices]
    exact List.mem_append_left _ (List.mem_filter.mpr ⟨hd, by simpa using hne⟩)

/-- **What an error leaves**: nothing is changed unless the code was accepted.  Then the code is used up;
a device that could not be made changes nothing else, and a save that fails before its rename leaves the
file of the devices. -/
theorem failed_stores (P : Setup) (capabilities : Value) (peer : SocketAddr) (request : PairRequest)
    (w : PairWorld) (s : PairStores)
    (herror : (handlePair P capabilities peer request w s).1.1.isOk = false) :
    (¬ CodeAccepted P peer request w s ∧
      Unchanged s (handlePair P capabilities peer request w s).2) ∨
    (CodeAccepted P peer request w s ∧
      (handlePair P capabilities peer request w s).2.codeFile = (if w.removed then none else s.codeFile) ∧
      ((∃ err, w.token = .error err) ∧
          (handlePair P capabilities peer request w s).2.devices = s.devices ∧
          (handlePair P capabilities peer request w s).2.trustedFile = s.trustedFile ∨
        w.save.isOk = false ∧ (w.save = .failedBefore →
          (handlePair P capabilities peer request w s).2.trustedFile = s.trustedFile))) := by
  by_cases haccepted : CodeAccepted P peer request w s
  · obtain ⟨response, granted, devices, saved, hstore, hresponse, hcode, hdevices, htrusted⟩ :=
      handlePair_accepted capabilities haccepted
    refine Or.inr ⟨haccepted, hcode, ?_⟩
    rw [hresponse] at herror
    rw [hdevices, htrusted]
    cases htoken : w.token with
    | error err =>
      -- no token could be drawn, and the devices are not touched
      rw [htoken] at hstore
      cases hstore
      exact Or.inl ⟨⟨err, rfl⟩, rfl, rfl⟩
    | ok token =>
      -- the save has failed
      refine Or.inr ⟨?_, ?_⟩
      · by_contra hsaved
        rw [Bool.not_eq_false] at hsaved
        rw [htoken, handlePairStore, TrustedDevices.pairDevice] at hstore
        simp only [hsaved, Bool.not_true, Bool.false_eq_true, ↓reduceIte] at hstore
        cases hstore
        cases herror
      · intro hsave
        rw [hsave]
        split <;> rfl
  · exact Or.inl ⟨haccepted, refused_unchanged haccepted⟩

/-- A code for the phone, and a disk that is full when the store is saved. -/
def demoStores : PairStores :=
  { limiter := .empty, devices := .empty, trustedFile := none, codeFile := some (0, ⟨"123456", 0, 300⟩) }

def demoFull : PairWorld :=
  { mono := 0, checkedAt := 10, readError := none, removed := true, token := .ok "token", uuid := "dev"
    pairedAt := 10, save := .failedBefore, saveError := "No space left on device" }

/-- **The code is lost and the device held** although the answer is an error. -/
theorem error_changes : ¬ ∀ (P : Setup) (capabilities : Value) (peer : SocketAddr) (request : PairRequest)
    (w : PairWorld) (s : PairStores), (handlePair P capabilities peer request w s).1.1.isOk = false →
    Unchanged s (handlePair P capabilities peer request w s).2 := by
  intro h
  have hsame := h Host.demoSetup .null Host.demoPeer (Host.demoPair "123456") demoFull demoStores
    (by decide)
  have hdevices : (handlePair Host.demoSetup .null Host.demoPeer (Host.demoPair "123456") demoFull
      demoStores).2.devices.devices.length = 1 := by decide
  rw [hsame.devices] at hdevices
  cases hdevices

/-- The phone whose code was right, and the disk full. -/
theorem failed_demo :
    (¬ CodeAccepted Host.demoSetup Host.demoPeer (Host.demoPair "123456") demoFull demoStores ∧
      Unchanged demoStores
        (handlePair Host.demoSetup .null Host.demoPeer (Host.demoPair "123456") demoFull demoStores).2) ∨
    (CodeAccepted Host.demoSetup Host.demoPeer (Host.demoPair "123456") demoFull demoStores ∧
      (handlePair Host.demoSetup .null Host.demoPeer (Host.demoPair "123456") demoFull
          demoStores).2.codeFile = (if demoFull.removed then none else demoStores.codeFile) ∧
      ((∃ err, demoFull.token = .error err) ∧
          (handlePair Host.demoSetup .null Host.demoPeer (Host.demoPair "123456") demoFull
            demoStores).2.devices = demoStores.devices ∧
          (handlePair Host.demoSetup .null Host.demoPeer (Host.demoPair "123456") demoFull
            demoStores).2.trustedFile = demoStores.trustedFile ∨
        demoFull.save.isOk = false ∧ (demoFull.save = .failedBefore →
          (handlePair Host.demoSetup .null Host.demoPeer (Host.demoPair "123456") demoFull
            demoStores).2.trustedFile = demoStores.trustedFile))) :=
  failed_stores Host.demoSetup .null Host.demoPeer (Host.demoPair "123456") demoFull demoStores (by decide)

end HandlePair

end Waypad
