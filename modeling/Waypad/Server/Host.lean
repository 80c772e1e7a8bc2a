import Mathlib.Order.Basic
import Waypad.Lib.Trans
import Waypad.Server.Pairing

/-!
# Waypad.Server.Host — the daemon, its connections and the command line tools as one system

The state of a host: the clock, the files `trusted_devices.json` and `pairing_code.json`, the running
daemon with its in-memory store, rate limiter and connection tasks, and the `devices revoke` processes
between their load and their save.  `step` takes one atomic section of one of them:

* a connection task (`handle_connection` of `src/server.rs`) between two points where another task can
  interfere: the lock sections of `handle_pair` and `handle_auth`, and the file operations `exists`,
  `read_to_string`, `remove_file` of `validate_pairing_code` one by one;
* a `pair-code`/`invite` process writing a new code (`create_pairing_code`);
* a `devices revoke` process loading and marking, or saving (`devices_command` of `src/main.rs`);
* the start of the daemon (`run`: the store is loaded once) and its end.

The outcome of every operation that can fail is part of the action, so a run ranges over all of them.
`codes`, `serials`, `nextConn` and `log` are history: the codes written so far (a code is named by its
position), the number of requests and of connections so far, and what has happened.
-/

namespace Waypad

abbrev ConnId := ℕ
abbrev Pid := ℕ

/-! ## State -/

/-- What a request asks; a pairing carries the code it was checked against, once it was. -/
inductive Kind
  | pair (request : PairRequest) (issue : Option ℕ)
  | auth (request : AuthRequest)
  | command (requestId : String)
  | ping (requestId : String)
  deriving DecidableEq, Repr

/-- The kinds whose handler may set `authenticated`. -/
def Kind.grants : Kind → Bool
  | .pair _ _ | .auth _ => true
  | _ => false

/-- Where a connection task is in `handle_connection`. -/
inductive Phase
  /-- in `channel.recv` -/
  | recv
  /-- before `paths.pairing_code.exists()` -/
  | codeExists (request : PairRequest)
  /-- before `fs::read_to_string(&paths.pairing_code)` -/
  | codeRead (request : PairRequest)
  /-- the file is read, before `valid` is computed -/
  | codeCheck (request : PairRequest) (issue : ℕ) (file : PairingCodeFile)
  /-- the code is valid, before `fs::remove_file(&paths.pairing_code)` -/
  | codeRemove (request : PairRequest) (issue : ℕ)
  /-- before the device lock of `handle_pair` -/
  | store (request : PairRequest) (issue : ℕ)
  /-- before `channel.send(&response)` -/
  | reply (kind : Kind) (response : ServerSecureMessage)

structure Conn where
  peer : SocketAddr
  authenticated : Option TrustedDevice
  serial : ℕ
  phase : Phase

namespace Conn

/-- The task moves on. -/
def goto (k : Conn) (phase : Phase) : Conn := { k with phase }

/-- The task takes up request `serial`. -/
def start (k : Conn) (serial : ℕ) (phase : Phase) : Conn := { k with serial, phase }

/-- `if let Some(device) = device { authenticated = Some(device); }`. -/
def grant (k : Conn) (device : Option TrustedDevice) : Conn :=
  { k with authenticated := device.or k.authenticated }

end Conn

structure Daemon where
  devices : TrustedDevices
  limiter : PairRateLimiter
  capabilities : Value
  conns : ConnId → Option Conn

inductive Event
  /-- request `serial` passed the name check, the rate limiter and the public-pairing policy -/
  | admitted (conn : ConnId) (serial : ℕ) (request : PairRequest)
  /-- request `serial` passed the check of pairing code `issue` -/
  | codeAccepted (conn : ConnId) (serial : ℕ) (request : PairRequest) (issue time : ℕ)
  /-- `handle_auth` accepted the device -/
  | authAccepted (conn : ConnId) (serial : ℕ) (request : AuthRequest)
  /-- the response to request `serial` was sent -/
  | answered (conn : ConnId) (serial : ℕ) (kind : Kind) (ok : Bool) (time : ℕ)
  /-- `handle_command` was called -/
  | commandRun (conn : ConnId)
  /-- `devices revoke` printed `Revoked device` -/
  | revoked (deviceId : String)
  deriving DecidableEq, Repr

structure Host where
  wall : ℕ
  mono : ℕ
  trustedFile : Option TrustedDevices
  codeFile : Option (ℕ × PairingCodeFile)
  daemon : Option Daemon
  revokers : Pid → Option (String × TrustedDevices)
  codes : List PairingCodeFile
  serials : ℕ
  nextConn : ConnId
  log : List Event

/-- What does not change: the configuration, the hash, and the host's name and fingerprint. -/
structure Setup where
  config : Config
  sha256Hex : String → String
  hostName : String
  fingerprint : String

namespace Host

/-- A host before the first start of the daemon. -/
def init : Host :=
  { wall := 0, mono := 0, trustedFile := none, codeFile := none, daemon := none,
    revokers := fun _ => none, codes := [], serials := 0, nextConn := 0, log := [] }

/-- `load_trusted_devices`. -/
def loadTrustedDevices (s : Host) : TrustedDevices := s.trustedFile.getD .empty

/-- The daemon, connection `c` of it, and where its task is. -/
def task (s : Host) (c : ConnId) : Option (Daemon × Conn × Phase) :=
  match s.daemon with
  | none => none
  | some d => (d.conns c).map (fun k => (d, k, k.phase))

/-- The host with daemon `d`, connection `c` of which is `k`. -/
def put (s : Host) (d : Daemon) (c : ConnId) (k : Conn) : Host :=
  { s with daemon := some { d with conns := Function.update d.conns c (some k) } }

/-- The host with daemon `d`, connection `c` of which is gone. -/
def drop (s : Host) (d : Daemon) (c : ConnId) : Host :=
  { s with daemon := some { d with conns := Function.update d.conns c none } }

end Host

/-! ## Steps -/

inductive Act
  | clock (wall mono : ℕ)
  | pairCode (code : String) (ttl : ℕ) (save : SaveOutcome)
  | revokeLoad (pid : Pid) (deviceId : String)
  | revokeSave (pid : Pid) (save : SaveOutcome)
  | serve (capabilities : Value)
  | exit
  | detect (capabilities : Value)
  | accept (peer : SocketAddr)
  | pairRequest (conn : ConnId) (request : PairRequest)
  | codeExists (conn : ConnId)
  | codeRead (conn : ConnId) (io : Except String Unit)
  | codeCheck (conn : ConnId)
  | codeRemove (conn : ConnId) (removed : Bool)
  | store (conn : ConnId) (token : Except String String) (uuid : String) (save : SaveOutcome)
      (saveError : String)
  | authRequest (conn : ConnId) (request : AuthRequest) (save : SaveOutcome) (saveError : String)
  | command (conn : ConnId) (requestId : String) (result : Except String (Option Value))
  | ping (conn : ConnId) (requestId : String)
  | send (conn : ConnId) (sent : Bool)
  | hangup (conn : ConnId)

def unauthenticated : ApiError :=
  ⟨"unauthenticated", "Authenticate before sending control commands", false⟩

/-- The response `handle_command` makes of its result. -/
def commandResponse (requestId : String) : Except String (Option Value) → ServerSecureMessage
  | .ok (some data) => responseOk requestId data
  | .ok none => responseEmpty requestId
  | .error err => responseError requestId ⟨"command_failed", err, true⟩

namespace Host

def info (P : Setup) (d : Daemon) : HostInfo := ⟨P.hostName, P.fingerprint, d.capabilities⟩

/-- The `PairRequest` arm up to the first file operation. -/
def stepPairRequest (P : Setup) (s : Host) (c : ConnId) (request : PairRequest) : Option Host :=
  match s.task c with
  | some (d, k, .recv) =>
    match handlePairAdmit P.config d.limiter k.peer s.mono request with
    | (some err, limiter) =>
      let response := responseError request.requestId err
      some { s.put { d with limiter } c (k.start s.serials (.reply (.pair request none) response)) with
        serials := s.serials + 1 }
    | (none, limiter) =>
      some { s.put { d with limiter } c (k.start s.serials (.codeExists request)) with
        serials := s.serials + 1
        log := s.log ++ [.admitted c s.serials request] }
  | _ => none

/-- `if !paths.pairing_code.exists()`. -/
def stepCodeExists (s : Host) (c : ConnId) : Option Host :=
  match s.task c with
  | some (d, k, .codeExists request) =>
    match s.codeFile with
    | none =>
      let response := responseError request.requestId pairingDenied
      some (s.put d c (k.goto (.reply (.pair request none) response)))
    | some _ => some (s.put d c (k.goto (.codeRead request)))
  | _ => none

/-- `fs::read_to_string`, which fails on a file that is gone by then. -/
def stepCodeRead (s : Host) (c : ConnId) (io : Except String Unit) : Option Host :=
  match s.task c with
  | some (d, k, .codeRead request) =>
    match io, s.codeFile with
    | .ok (), some (issue, file) => some (s.put d c (k.goto (.codeCheck request issue file)))
    | .ok (), none => none
    | .error err, _ =>
      let response := responseError request.requestId (pairingStateError err)
      some (s.put d c (k.goto (.reply (.pair request none) response)))
  | _ => none

/-- `let valid = ...`. -/
def stepCodeCheck (P : Setup) (s : Host) (c : ConnId) : Option Host :=
  match s.task c with
  | some (d, k, .codeCheck request issue file) =>
    if file.valid P.sha256Hex request.pairingCode s.wall then
      some { s.put d c (k.goto (.codeRemove request issue)) with
        log := s.log ++ [.codeAccepted c k.serial request issue s.wall] }
    else
      let response := responseError request.requestId pairingDenied
      some (s.put d c (k.goto (.reply (.pair request (some issue)) response)))
  | _ => none

/-- `let _ = fs::remove_file(..)`: whatever code file is there, and a failure is ignored. -/
def stepCodeRemove (s : Host) (c : ConnId) (removed : Bool) : Option Host :=
  match s.task c with
  | some (d, k, .codeRemove request issue) =>
    some { s.put d c (k.goto (.store request issue)) with
      codeFile := if removed then none else s.codeFile }
  | _ => none

/-- The device lock section of `handle_pair`, and `authenticated = Some(device)` on success. -/
def stepStore (P : Setup) (s : Host) (c : ConnId) (token : Except String String) (uuid : String)
    (save : SaveOutcome) (saveError : String) : Option Host :=
  match s.task c with
  | some (d, k, .store request issue) =>
    match handlePairStore P.sha256Hex (info P d) d.devices request token uuid s.wall save
        saveError with
    | (response, granted, devices, saved) =>
      some { s.put { d with devices } c
          ((k.grant granted).goto (.reply (.pair request (some issue)) response)) with
        trustedFile := if saved then save.write s.trustedFile (some devices) else s.trustedFile }
  | _ => none

/-- The `AuthRequest` arm. -/
def stepAuthRequest (P : Setup) (s : Host) (c : ConnId) (request : AuthRequest)
    (save : SaveOutcome) (saveError : String) : Option Host :=
  match s.task c with
  | some (d, k, .recv) =>
    match handleAuth P.sha256Hex (info P d) d.devices request s.wall save saveError with
    | (response, granted, devices, saved) =>
      some { s.put { d with devices } c
          ((k.grant granted).start s.serials (.reply (.auth request) response)) with
        trustedFile := if saved then save.write s.trustedFile (some devices) else s.trustedFile
        serials := s.serials + 1
        log := if granted.isSome then s.log ++ [.authAccepted c s.serials request] else s.log }
  | _ => none

/-- The `Command` arm. -/
def stepCommand (s : Host) (c : ConnId) (requestId : String)
    (result : Except String (Option Value)) : Option Host :=
  match s.task c with
  | some (d, k, .recv) =>
    if k.authenticated.isNone then
      let response := responseError requestId unauthenticated
      some { s.put d c (k.start s.serials (.reply (.command requestId) response)) with
        serials := s.serials + 1 }
    else
      let response := commandResponse requestId result
      some { s.put d c (k.start s.serials (.reply (.command requestId) response)) with
        serials := s.serials + 1
        log := s.log ++ [.commandRun c] }
  | _ => none

/-- The `Ping` arm. -/
def stepPing (s : Host) (c : ConnId) (requestId : String) : Option Host :=
  match s.task c with
  | some (d, k, .recv) =>
    let response := responseOk requestId
      (.object [("pong", .bool true), ("protocol", .number PROTOCOL_VERSION)])
    some { s.put d c (k.start s.serials (.reply (.ping requestId) response)) with
      serials := s.serials + 1 }
  | _ => none

/-- `channel.send(&response).await?`: a failure ends the connection. -/
def stepSend (s : Host) (c : ConnId) (sent : Bool) : Option Host :=
  match s.task c with
  | some (d, k, .reply kind response) =>
    if sent then
      some { s.put d c (k.goto .recv) with
        log := s.log ++ [.answered c k.serial kind response.isOk s.wall] }
    else some (s.drop d c)
  | _ => none

/-- `channel.recv().await?` fails: the connection ends. -/
def stepHangup (s : Host) (c : ConnId) : Option Host :=
  match s.task c with
  | some (d, _, .recv) => some (s.drop d c)
  | _ => none

/-- `create_pairing_code`. -/
def stepPairCode (P : Setup) (s : Host) (code : String) (ttl : ℕ) (save : SaveOutcome) : Host :=
  let file := PairingCodeFile.create P.sha256Hex code s.wall ttl
  { s with
    codeFile := save.write s.codeFile (some (s.codes.length, file))
    codes := s.codes ++ [file] }

/-- `devices revoke`: load and mark; an unknown id ends the process. -/
def stepRevokeLoad (s : Host) (p : Pid) (deviceId : String) : Option Host :=
  match s.revokers p with
  | some _ => none
  | none =>
    match s.loadTrustedDevices.revoke deviceId with
    | (true, devices) =>
      some { s with revokers := Function.update s.revokers p (some (deviceId, devices)) }
    | (false, _) => some s

/-- `devices revoke`: save and report. -/
def stepRevokeSave (s : Host) (p : Pid) (save : SaveOutcome) : Option Host :=
  match s.revokers p with
  | none => none
  | some (deviceId, devices) =>
    some { s with
      trustedFile := save.write s.trustedFile (some devices)
      revokers := Function.update s.revokers p none
      log := if save.isOk then s.log ++ [.revoked deviceId] else s.log }

/-- `run`: the store is loaded once, at the start. -/
def stepServe (s : Host) (capabilities : Value) : Option Host :=
  match s.daemon with
  | some _ => none
  | none => some { s with daemon := some {
      devices := s.loadTrustedDevices, limiter := .empty, capabilities, conns := fun _ => none } }

/-- A refreshed `capabilities`. -/
def stepDetect (s : Host) (capabilities : Value) : Option Host :=
  s.daemon.map (fun d => { s with daemon := some { d with capabilities } })

/-- `listener.accept()` and the handshake. -/
def stepAccept (s : Host) (peer : SocketAddr) : Option Host :=
  s.daemon.map (fun d =>
    { s.put d s.nextConn { peer, authenticated := none, serial := 0, phase := .recv } with
      nextConn := s.nextConn + 1 })

def step (P : Setup) (s : Host) : Act → Option Host
  | .clock wall mono => if s.mono ≤ mono then some { s with wall, mono } else none
  | .pairCode code ttl save => some (s.stepPairCode P code ttl save)
  | .revokeLoad p deviceId => s.stepRevokeLoad p deviceId
  | .revokeSave p save => s.stepRevokeSave p save
  | .serve capabilities => s.stepServe capabilities
  | .exit => s.daemon.map (fun _ => { s with daemon := none })
  | .detect capabilities => s.stepDetect capabilities
  | .accept peer => s.stepAccept peer
  | .pairRequest c request => s.stepPairRequest P c request
  | .codeExists c => s.stepCodeExists c
  | .codeRead c io => s.stepCodeRead c io
  | .codeCheck c => s.stepCodeCheck P c
  | .codeRemove c removed => s.stepCodeRemove c removed
  | .store c token uuid save saveError => s.stepStore P c token uuid save saveError
  | .authRequest c request save saveError => s.stepAuthRequest P c request save saveError
  | .command c requestId result => s.stepCommand c requestId result
  | .ping c requestId => s.stepPing c requestId
  | .send c sent => s.stepSend c sent
  | .hangup c => s.stepHangup c

/-! ## What `put` and `drop` leave alone -/

section Frame

variable (s : Host) (d : Daemon) (c c' : ConnId) (k : Conn)

/-- Connection `c` of the running daemon. -/
def conn (s : Host) (c : ConnId) : Option Conn := s.daemon.bind (fun d => d.conns c)

@[simp] theorem put_daemon : (s.put d c k).daemon =
    some { d with conns := Function.update d.conns c (some k) } := rfl
@[simp] theorem drop_daemon : (s.drop d c).daemon =
    some { d with conns := Function.update d.conns c none } := rfl
@[simp] theorem put_wall : (s.put d c k).wall = s.wall := rfl
@[simp] theorem put_mono : (s.put d c k).mono = s.mono := rfl
@[simp] theorem put_trustedFile : (s.put d c k).trustedFile = s.trustedFile := rfl
@[simp] theorem put_codeFile : (s.put d c k).codeFile = s.codeFile := rfl
@[simp] theorem put_revokers : (s.put d c k).revokers = s.revokers := rfl
@[simp] theorem put_codes : (s.put d c k).codes = s.codes := rfl
@[simp] theorem put_serials : (s.put d c k).serials = s.serials := rfl
@[simp] theorem put_nextConn : (s.put d c k).nextConn = s.nextConn := rfl
@[simp] theorem put_log : (s.put d c k).log = s.log := rfl
@[simp] theorem drop_wall : (s.drop d c).wall = s.wall := rfl
@[simp] theorem drop_mono : (s.drop d c).mono = s.mono := rfl
@[simp] theorem drop_trustedFile : (s.drop d c).trustedFile = s.trustedFile := rfl
@[simp] theorem drop_codeFile : (s.drop d c).codeFile = s.codeFile := rfl
@[simp] theorem drop_revokers : (s.drop d c).revokers = s.revokers := rfl
@[simp] theorem drop_codes : (s.drop d c).codes = s.codes := rfl
@[simp] theorem drop_serials : (s.drop d c).serials = s.serials := rfl
@[simp] theorem drop_nextConn : (s.drop d c).nextConn = s.nextConn := rfl
@[simp] theorem drop_log : (s.drop d c).log = s.log := rfl

theorem task_eq {s : Host} {c : ConnId} {d : Daemon} {k : Conn} {phase : Phase} :
    s.task c = some (d, k, phase) ↔ s.daemon = some d ∧ d.conns c = some k ∧ k.phase = phase := by
  unfold task
  cases hd : s.daemon with
  | none => simp
  | some d' =>
    simp only [Option.map_eq_some_iff, Prod.mk.injEq, Option.some.injEq]
    constructor
    · rintro ⟨k', hk, rfl, rfl, rfl⟩
      exact ⟨rfl, hk, rfl⟩
    · rintro ⟨rfl, hk, rfl⟩
      exact ⟨k, hk, rfl, rfl, rfl⟩

end Frame

section Conns

variable {s t : Host} {c : ConnId} {d d' : Daemon} {k k' : Conn} {phase : Phase}
  {I : ConnId → Conn → Prop}

theorem conn_of_task (ht : s.task c = some (d, k, phase)) : s.conn c = some k := by
  obtain ⟨hd, hk, -⟩ := task_eq.mp ht
  simp [conn, hd, hk]

theorem conn_of_daemon (hd : s.daemon = some d) : s.conn = d.conns := by
  ext1 c
  rw [conn, hd]
  rfl

/-- A property of all entries, one of which is replaced. -/
theorem forall_update {κ ε : Type*} [DecidableEq κ] {f : κ → Option ε} {v : Option ε} {x : κ}
    {I : κ → ε → Prop} (hf : ∀ y e, y ≠ x → f y = some e → I y e) (hv : ∀ e, v = some e → I x e) :
    ∀ y e, Function.update f x v y = some e → I y e := by
  intro y e he
  by_cases hyx : y = x
  · rw [hyx, Function.update_self] at he
    exact hyx ▸ hv e he
  · rw [Function.update_of_ne hyx] at he
    exact hf y e hyx he

/-- One connection moved: what holds of every connection before and of the moved one holds of every
connection after. -/
theorem forall_conn_moved (ht : s.task c = some (d, k, phase)) (hd' : t.daemon = some d')
    (hc : d'.conns = Function.update d.conns c (some k')) (hs : ∀ c k, s.conn c = some k → I c k)
    (hk : I c k') : ∀ c k, t.conn c = some k → I c k := by
  rw [conn_of_daemon (task_eq.mp ht).1] at hs
  rw [conn_of_daemon hd', hc]
  exact forall_update (fun c k _ => hs c k) (fun k h => Option.some.inj h ▸ hk)

theorem forall_conn_dropped (ht : s.task c = some (d, k, phase))
    (hs : ∀ c k, s.conn c = some k → I c k) : ∀ c' k, (s.drop d c).conn c' = some k → I c' k := by
  rw [conn_of_daemon (task_eq.mp ht).1] at hs
  rw [conn_of_daemon (drop_daemon s d c)]
  exact forall_update (fun c k _ => hs c k) (fun k h => by cases h)

theorem forall_conn_opened (hd : s.daemon = some d) (hs : ∀ c k, s.conn c = some k → I c k)
    (hk : I c k') : ∀ c' k, (s.put d c k').conn c' = some k → I c' k := by
  rw [conn_of_daemon hd] at hs
  rw [conn_of_daemon (put_daemon s d c k')]
  exact forall_update (fun c k _ => hs c k) (fun k h => Option.some.inj h ▸ hk)

end Conns

/-! ## What a step can do

`Took P s a t` lists the ways action `a` leads from `s` to `t`, guards included; `took_of_step` is the
only place `step` is unfolded. -/

inductive Took (P : Setup) (s : Host) : Act → Host → Prop
  | clock {wall mono : ℕ} (h : s.mono ≤ mono) : Took P s (.clock wall mono) { s with wall, mono }
  | pairCode {code : String} {ttl : ℕ} {save : SaveOutcome} :
      Took P s (.pairCode code ttl save) (s.stepPairCode P code ttl save)
  | revokeLoad {p : Pid} {id : String} {devices : TrustedDevices} (hp : s.revokers p = none)
      (hr : s.loadTrustedDevices.revoke id = (true, devices)) :
      Took P s (.revokeLoad p id)
        { s with revokers := Function.update s.revokers p (some (id, devices)) }
  | revokeMiss {p : Pid} {id : String} : Took P s (.revokeLoad p id) s
  | revokeSave {p : Pid} {id : String} {devices : TrustedDevices} {save : SaveOutcome}
      (hp : s.revokers p = some (id, devices)) :
      Took P s (.revokeSave p save) { s with
        trustedFile := save.write s.trustedFile (some devices)
        revokers := Function.update s.revokers p none
        log := if save.isOk then s.log ++ [.revoked id] else s.log }
  | serve {capabilities : Value} (hd : s.daemon = none) :
      Took P s (.serve capabilities) { s with daemon := some {
        devices := s.loadTrustedDevices, limiter := .empty, capabilities, conns := fun _ => none } }
  | exit {d : Daemon} (hd : s.daemon = some d) : Took P s .exit { s with daemon := none }
  | detect {d : Daemon} {capabilities : Value} (hd : s.daemon = some d) :
      Took P s (.detect capabilities) { s with daemon := some { d with capabilities } }
  | accept {d : Daemon} {peer : SocketAddr} (hd : s.daemon = some d) :
      Took P s (.accept peer) { s.put d s.nextConn ⟨peer, none, 0, .recv⟩ with
        nextConn := s.nextConn + 1 }
  | pairRefused {c : ConnId} {request : PairRequest} {d : Daemon} {k : Conn} {err : ApiError}
      {limiter : PairRateLimiter} (ht : s.task c = some (d, k, .recv))
      (ha : handlePairAdmit P.config d.limiter k.peer s.mono request = (some err, limiter)) :
      Took P s (.pairRequest c request) { s.put { d with limiter } c (k.start s.serials
          (.reply (.pair request none) (responseError request.requestId err))) with
        serials := s.serials + 1 }
  | pairAdmitted {c : ConnId} {request : PairRequest} {d : Daemon} {k : Conn}
      {limiter : PairRateLimiter} (ht : s.task c = some (d, k, .recv))
      (ha : handlePairAdmit P.config d.limiter k.peer s.mono request = (none, limiter)) :
      Took P s (.pairRequest c request)
        { s.put { d with limiter } c (k.start s.serials (.codeExists request)) with
          serials := s.serials + 1
          log := s.log ++ [.admitted c s.serials request] }
  | codeAbsent {c : ConnId} {request : PairRequest} {d : Daemon} {k : Conn}
      (ht : s.task c = some (d, k, .codeExists request)) (hf : s.codeFile = none) :
      Took P s (.codeExists c) (s.put d c (k.goto
        (.reply (.pair request none) (responseError request.requestId pairingDenied))))
  | codePresent {c : ConnId} {request : PairRequest} {d : Daemon} {k : Conn}
      {f : ℕ × PairingCodeFile} (ht : s.task c = some (d, k, .codeExists request))
      (hf : s.codeFile = some f) :
      Took P s (.codeExists c) (s.put d c (k.goto (.codeRead request)))
  | codeRead {c : ConnId} {request : PairRequest} {d : Daemon} {k : Conn} {issue : ℕ}
      {file : PairingCodeFile} (ht : s.task c = some (d, k, .codeRead request))
      (hf : s.codeFile = some (issue, file)) :
      Took P s (.codeRead c (.ok ())) (s.put d c (k.goto (.codeCheck request issue file)))
  | codeUnread {c : ConnId} {request : PairRequest} {d : Daemon} {k : Conn} {err : String}
      (ht : s.task c = some (d, k, .codeRead request)) :
      Took P s (.codeRead c (.error err)) (s.put d c (k.goto
        (.reply (.pair request none) (responseError request.requestId (pairingStateError err)))))
  | codeAccepted {c : ConnId} {request : PairRequest} {d : Daemon} {k : Conn} {issue : ℕ}
      {file : PairingCodeFile} (ht : s.task c = some (d, k, .codeCheck request issue file))
      (hv : file.valid P.sha256Hex request.pairingCode s.wall = true) :
      Took P s (.codeCheck c) { s.put d c (k.goto (.codeRemove request issue)) with
        log := s.log ++ [.codeAccepted c k.serial request issue s.wall] }
  | codeDenied {c : ConnId} {request : PairRequest} {d : Daemon} {k : Conn} {issue : ℕ}
      {file : PairingCodeFile} (ht : s.task c = some (d, k, .codeCheck request issue file))
      (hv : file.valid P.sha256Hex request.pairingCode s.wall = false) :
      Took P s (.codeCheck c) (s.put d c (k.goto
        (.reply (.pair request (some issue)) (responseError request.requestId pairingDenied))))
  | codeRemove {c : ConnId} {request : PairRequest} {d : Daemon} {k : Conn} {issue : ℕ}
      {removed : Bool} (ht : s.task c = some (d, k, .codeRemove request issue)) :
      Took P s (.codeRemove c removed) { s.put d c (k.goto (.store request issue)) with
        codeFile := if removed then none else s.codeFile }
  | store {c : ConnId} {request : PairRequest} {d : Daemon} {k : Conn} {issue : ℕ}
      {token : Except String String} {uuid saveError : String} {save : SaveOutcome}
      {response : ServerSecureMessage} {granted : Option TrustedDevice} {devices : TrustedDevices}
      {saved : Bool} (ht : s.task c = some (d, k, .store request issue))
      (hh : handlePairStore P.sha256Hex (info P d) d.devices request token uuid s.wall save
        saveError = (response, granted, devices, saved)) :
      Took P s (.store c token uuid save saveError) { s.put { d with devices } c
          ((k.grant granted).goto (.reply (.pair request (some issue)) response)) with
        trustedFile := if saved then save.write s.trustedFile (some devices) else s.trustedFile }
  | authRequest {c : ConnId} {request : AuthRequest} {d : Daemon} {k : Conn} {saveError : String}
      {save : SaveOutcome} {response : ServerSecureMessage} {granted : Option TrustedDevice}
      {devices : TrustedDevices} {saved : Bool} (ht : s.task c = some (d, k, .recv))
      (hh : handleAuth P.sha256Hex (info P d) d.devices request s.wall save saveError =
        (response, granted, devices, saved)) :
      Took P s (.authRequest c request save saveError) { s.put { d with devices } c
          ((k.grant granted).start s.serials (.reply (.auth request) response)) with
        trustedFile := if saved then save.write s.trustedFile (some devices) else s.trustedFile
        serials := s.serials + 1
        log := if granted.isSome then s.log ++ [.authAccepted c s.serials request] else s.log }
  | commandRefused {c : ConnId} {requestId : String} {result : Except String (Option Value)}
      {d : Daemon} {k : Conn} (ht : s.task c = some (d, k, .recv)) (hn : k.authenticated = none) :
      Took P s (.command c requestId result) { s.put d c (k.start s.serials
          (.reply (.command requestId) (responseError requestId unauthenticated))) with
        serials := s.serials + 1 }
  | commandRun {c : ConnId} {requestId : String} {result : Except String (Option Value)}
      {d : Daemon} {k : Conn} (ht : s.task c = some (d, k, .recv))
      (hn : k.authenticated.isSome = true) :
      Took P s (.command c requestId result) { s.put d c (k.start s.serials
          (.reply (.command requestId) (commandResponse requestId result))) with
        serials := s.serials + 1
        log := s.log ++ [.commandRun c] }
  | ping {c : ConnId} {requestId : String} {d : Daemon} {k : Conn} {response : ServerSecureMessage}
      (ht : s.task c = some (d, k, .recv)) :
      Took P s (.ping c requestId) { s.put d c (k.start s.serials
          (.reply (.ping requestId) response)) with
        serials := s.serials + 1 }
  | sent {c : ConnId} {d : Daemon} {k : Conn} {kind : Kind} {response : ServerSecureMessage}
      (ht : s.task c = some (d, k, .reply kind response)) :
      Took P s (.send c true) { s.put d c (k.goto .recv) with
        log := s.log ++ [.answered c k.serial kind response.isOk s.wall] }
  | sendFailed {c : ConnId} {d : Daemon} {k : Conn} {kind : Kind} {response : ServerSecureMessage}
      (ht : s.task c = some (d, k, .reply kind response)) :
      Took P s (.send c false) (s.drop d c)
  | hangup {c : ConnId} {d : Daemon} {k : Conn} (ht : s.task c = some (d, k, .recv)) :
      Took P s (.hangup c) (s.drop d c)

theorem took_of_step {P : Setup} {s t : Host} {a : Act} (h : step P s a = some t) :
    Took P s a t := by
  cases a with
  | clock wall mono =>
    simp only [step, Option.ite_none_right_eq_some, Option.some.injEq] at h
    obtain ⟨hm, rfl⟩ := h
    exact .clock hm
  | pairCode code ttl save =>
    simp only [step, Option.some.injEq] at h
    exact h ▸ .pairCode
  | revokeLoad p id =>
    simp only [step, stepRevokeLoad] at h
    split at h
    · cases h
    · next hp =>
      split at h
      · next devices hr => cases h; exact .revokeLoad hp hr
      · cases h; exact .revokeMiss
  | revokeSave p save =>
    simp only [step, stepRevokeSave] at h
    split at h
    · cases h
    · next id devices hp => cases h; exact .revokeSave hp
  | serve capabilities =>
    simp only [step, stepServe] at h
    split at h
    · cases h
    · next hd => cases h; exact .serve hd
  | exit =>
    simp only [step, Option.map_eq_some_iff] at h
    obtain ⟨d, hd, rfl⟩ := h
    exact .exit hd
  | detect capabilities =>
    simp only [step, stepDetect, Option.map_eq_some_iff] at h
    obtain ⟨d, hd, rfl⟩ := h
    exact .detect hd
  | accept peer =>
    simp only [step, stepAccept, Option.map_eq_some_iff] at h
    obtain ⟨d, hd, rfl⟩ := h
    exact .accept hd
  | pairRequest c request =>
    simp only [step, stepPairRequest] at h
    split at h
    · next d k ht =>
      split at h
      · next ha => cases h; exact .pairRefused ht ha
      · next ha => cases h; exact .pairAdmitted ht ha
    · cases h
  | codeExists c =>
    simp only [step, stepCodeExists] at h
    split at h
    · next d k request ht =>
      split at h
      · next hf => cases h; exact .codeAbsent ht hf
      · next hf => cases h; exact .codePresent ht hf
    · cases h
  | codeRead c io =>
    simp only [step, stepCodeRead] at h
    split at h
    · next d k request ht =>
      split at h
      · next hf => cases h; exact .codeRead ht hf
      · cases h
      · cases h; exact .codeUnread ht
    · cases h
  | codeCheck c =>
    -- a code that is wrong or expired ends in the reply; a good one is removed next
    simp only [step, stepCodeCheck] at h
    split at h
    · next d k request issue file ht =>
      split at h
      · next hv => cases h; exact .codeAccepted ht hv
      · next hv => cases h; exact .codeDenied ht (by simpa using hv)
    · cases h
  | codeRemove c removed =>
    simp only [step, stepCodeRemove] at h
    split at h
    · next ht => cases h; exact .codeRemove ht
    · cases h
  | store c token uuid save saveError =>
    simp only [step, stepStore] at h
    split at h
    · next ht => cases h; exact .store ht rfl
    · cases h
  | authRequest c request save saveError =>
    simp only [step, stepAuthRequest] at h
    split at h
    · next ht => cases h; exact .authRequest ht rfl
    · cases h
  | command c requestId result =>
    -- before an authentication no command runs
    simp only [step, stepCommand] at h
    split at h
    · next d k ht =>
      split at h
      · next hn => cases h; exact .commandRefused ht (by simpa using hn)
      · next hn => cases h; exact .commandRun ht (by simpa [Option.isSome_iff_ne_none] using hn)
    · cases h
  | ping c requestId =>
    simp only [step, stepPing] at h
    split at h
    · next ht => cases h; exact .ping ht
    · cases h
  | send c sent =>
    -- a reply that cannot be sent ends the connection
    simp only [step, stepSend] at h
    split at h
    · next ht =>
      split at h
      · next hs => cases h; subst hs; exact .sent ht
      · next hs =>
        cases h
        have : sent = false := by simpa using hs
        subst this
        exact .sendFailed ht
    · cases h
  | hangup c =>
    simp only [step, stepHangup] at h
    split at h
    · next ht => cases h; exact .hangup ht
    · cases h

/-! ## What a step logs -/

/-- Why a step of `s` may log an event. -/
def Justified (P : Setup) (s : Host) (a : Act) : Event → Prop
  | .admitted c n request => n = s.serials ∧ a = .pairRequest c request ∧
      ∃ d k limiter, s.task c = some (d, k, .recv) ∧
        handlePairAdmit P.config d.limiter k.peer s.mono request = (none, limiter)
  | .codeAccepted c n request issue time => time = s.wall ∧ a = .codeCheck c ∧
      ∃ d k file, s.task c = some (d, k, .codeCheck request issue file) ∧ k.serial = n ∧
        file.valid P.sha256Hex request.pairingCode s.wall = true
  | .authAccepted c n request => n = s.serials ∧
      (∃ save saveError, a = .authRequest c request save saveError) ∧
      ∃ d k, s.task c = some (d, k, .recv) ∧
        TrustedDevices.Holds P.sha256Hex request.deviceId request.sessionToken d.devices
  | .answered c n kind ok time => time = s.wall ∧ a = .send c true ∧
      ∃ d k response, s.task c = some (d, k, .reply kind response) ∧ k.serial = n ∧
        ok = response.isOk
  | .commandRun c => (∃ requestId result, a = .command c requestId result) ∧
      ∃ d k, s.task c = some (d, k, .recv) ∧ k.authenticated.isSome = true
  | .revoked id => ∃ p save devices, a = .revokeSave p save ∧ save.isOk = true ∧
      s.revokers p = some (id, devices)

/-- **A step logs at most one event, and only a justified one.** -/
theorem Took.log {P : Setup} {s t : Host} {a : Act} (h : Took P s a t) :
    t.log = s.log ∨ ∃ e, t.log = s.log ++ [e] ∧ Justified P s a e := by
  cases h with
  | revokeSave hp =>
    dsimp only
    split
    · next hs => exact Or.inr ⟨_, rfl, _, _, _, rfl, hs, hp⟩
    · exact Or.inl rfl
  | pairAdmitted ht ha => exact Or.inr ⟨_, rfl, rfl, rfl, _, _, _, ht, ha⟩
  | codeAccepted ht hv => exact Or.inr ⟨_, rfl, rfl, rfl, _, _, _, ht, rfl, hv⟩
  | authRequest ht hh =>
    dsimp only
    split
    · next hg =>
      have hok := handleAuth_ok hh ((handleAuth_granted hh).trans hg)
      exact Or.inr ⟨_, rfl, rfl, ⟨_, _, rfl⟩, _, _, ht, hok⟩
    · exact Or.inl rfl
  | commandRun ht hn => exact Or.inr ⟨_, rfl, ⟨_, _, rfl⟩, _, _, ht, hn⟩
  | sent ht => exact Or.inr ⟨_, rfl, rfl, rfl, _, _, _, ht, rfl, rfl⟩
  | _ => exact Or.inl rfl

/-- The log only grows. -/
theorem Took.log_subset {P : Setup} {s t : Host} {a : Act} (h : Took P s a t) : s.log ⊆ t.log := by
  rcases h.log with hl | ⟨e, hl, -⟩ <;> simp [hl]

/-! ## A setup for concrete runs -/

/-- The default policy, with a transparent hash. -/
def demoSetup : Setup :=
  { config := { requirePrivateLan := true, allowPublicPairing := false,
                maxPairAttemptsPerMinute := 5 }
    sha256Hex := id, hostName := "host", fingerprint := "aa:bb" }

def demoPeer : SocketAddr := ⟨.v4 192 168 1 2, 40000⟩

def demoPair (code : String) : PairRequest := ⟨"r", "phone", code, none⟩

/-- A phone pairs with the running daemon. -/
def pairingRun : List Act :=
  [.serve .null, .pairCode "123456" 300 .ok, .accept demoPeer, .pairRequest 0 (demoPair "123456"),
    .codeExists 0, .codeRead 0 (.ok ()), .codeCheck 0, .codeRemove 0 true,
    .store 0 (.ok "token") "dev" .ok "", .send 0 true]

end Host

end Waypad
