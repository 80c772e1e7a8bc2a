import Mathlib.Logic.Function.Basic
import Waypad.Lib.Text
import Waypad.Protocol
import Waypad.State

/-!
# Waypad.Server.Pairing — the checks and answers of `handle_pair` and `handle_auth`

The two handlers of `src/server.rs`, cut where they touch state other tasks share:

* `handlePairAdmit`: name, rate limiter, public-pairing policy (one section of the limiter's lock);
* `handlePairStore`: `pair_device` and the save, one section of the device lock;
* `handleAuth`: `authenticate` and the save, one section of the device lock.

The file operations of `validate_pairing_code` between the first two are steps of
`Waypad.Server.Host`.  Every error of the source keeps its code, message and `retryable` flag.
-/

namespace Waypad

/-! ## Peers and configuration -/

inductive IpAddr
  | v4 (a b c d : UInt8)
  | v6 (s0 s1 s2 s3 s4 s5 s6 s7 : UInt16)
  deriving DecidableEq, Repr

structure SocketAddr where
  ip : IpAddr
  port : UInt16
  deriving DecidableEq, Repr

/-- The fields of `Config` the pairing path reads. -/
structure Config where
  requirePrivateLan : Bool
  allowPublicPairing : Bool
  maxPairAttemptsPerMinute : ℕ
  deriving DecidableEq, Repr

def isPrivateIpv4 (a b : UInt8) : Bool :=
  a == 127 || (a == 10 || (a == 172 && decide (16 ≤ b ∧ b ≤ 31)) || (a == 192 && b == 168)) ||
    (a == 169 && b == 254) || (a == 100 && decide (64 ≤ b ∧ b ≤ 127))

def isPrivateIpv6 (s0 s1 s2 s3 s4 s5 s6 s7 : UInt16) : Bool :=
  (s0 == 0 && s1 == 0 && s2 == 0 && s3 == 0 && s4 == 0 && s5 == 0 && s6 == 0 && s7 == 1) ||
    (s0 &&& 0xfe00) == 0xfc00 || (s0 &&& 0xffc0) == 0xfe80

def isPrivateOrLocal (addr : SocketAddr) : Bool :=
  match addr.ip with
  | .v4 a b _ _ => isPrivateIpv4 a b
  | .v6 s0 s1 s2 s3 s4 s5 s6 s7 => isPrivateIpv6 s0 s1 s2 s3 s4 s5 s6 s7

def canPairPublicly (config : Config) (peer : SocketAddr) : Bool :=
  if !config.requirePrivateLan then true
  else if config.allowPublicPairing then true
  else isPrivateOrLocal peer

/-! ## The rate limiter -/

/-- The admitted attempts of each address, oldest first; an instant is in nanoseconds. -/
structure PairRateLimiter where
  attempts : IpAddr → List ℕ

namespace PairRateLimiter

/-- `PairRateLimiter::default()`. -/
def empty : PairRateLimiter := ⟨fun _ => []⟩

/-- `Duration::from_secs(60)`. -/
def window : ℕ := 60 * 1000000000

/-- `allow`: forget what is older than a minute, then admit while fewer than the maximum are left. -/
def allow (self : PairRateLimiter) (ip : IpAddr) (maxPerMinute now : ℕ) : Bool × PairRateLimiter :=
  let bucket := (self.attempts ip).dropWhile (fun t => decide (window < now - t))
  if maxPerMinute ≤ bucket.length then (false, ⟨Function.update self.attempts ip bucket⟩)
  else (true, ⟨Function.update self.attempts ip (bucket ++ [now])⟩)

end PairRateLimiter

/-! ## `handle_pair` -/

/-- `device_name.trim().is_empty() || device_name.len() > 80`. -/
def nameRejected (deviceName : String) : Bool :=
  Text.trimIsEmpty deviceName || decide (80 < deviceName.utf8ByteSize)

def invalidDeviceName : ApiError :=
  ⟨"invalid_device_name", "Device name must be 1-80 characters", false⟩

def rateLimited : ApiError :=
  ⟨"rate_limited", "Too many pairing attempts; wait one minute", true⟩

def publicPairingDenied : ApiError :=
  ⟨"public_pairing_denied", "This host blocks pairing from public networks. To pair remotely, " ++
    "the host admin must set allow_public_pairing=true or require_private_lan=false in the daemon config.",
    false⟩

def pairingDenied : ApiError :=
  ⟨"pairing_denied", "Pairing code is missing, expired, or incorrect", true⟩

def pairingStateError (err : String) : ApiError := ⟨"pairing_state_error", err, false⟩

def pairingFailed (err : String) : ApiError := ⟨"pairing_failed", err, false⟩

def pairingStoreFailed (err : String) : ApiError := ⟨"pairing_store_failed", err, false⟩

/-- `handle_pair` up to `validate_pairing_code`: the error it answers, if any, and whether the limiter
admitted the attempt. -/
def handlePairAdmit (config : Config) (limiter : PairRateLimiter) (peer : SocketAddr) (now : ℕ)
    (request : PairRequest) : Option ApiError × PairRateLimiter :=
  if nameRejected request.deviceName then (some invalidDeviceName, limiter)
  else
    match limiter.allow peer.ip config.maxPairAttemptsPerMinute now with
    | (false, limiter) => (some rateLimited, limiter)
    | (true, limiter) =>
      if !canPairPublicly config peer then (some publicPairingDenied, limiter)
      else (none, limiter)

/-- What the successful answers carry of the host. -/
structure HostInfo where
  hostName : String
  fingerprint : String
  capabilities : Value

/-- `handle_pair` from the device lock on: the answer, the device that becomes authenticated, the
devices in memory, and the content the save was asked to write, if it was called. -/
def handlePairStore (sha256Hex : String → String) (info : HostInfo) (devices : TrustedDevices)
    (request : PairRequest) (token : Except String String) (uuid : String) (now : ℕ)
    (save : SaveOutcome) (saveError : String) :
    ServerSecureMessage × Option TrustedDevice × TrustedDevices × Bool :=
  match TrustedDevices.pairDevice sha256Hex devices request.deviceName request.appVersion token
      uuid now with
  | (.error err, devices) =>
    (responseError request.requestId (pairingFailed err), none, devices, false)
  | (.ok (device, token), devices) =>
    -- in memory the device stays paired
    if !save.isOk then
      (responseError request.requestId (pairingStoreFailed saveError), none, devices, true)
    else
      (responseOk request.requestId (.object [
        ("device_id", .string device.id),
        ("session_token", .string token),
        ("host_name", .string info.hostName),
        ("host_fingerprint", .string info.fingerprint),
        ("capabilities", info.capabilities)]), some device, devices, true)

/-! ## `handle_auth` -/

def authFailed : ApiError := ⟨"auth_failed", "Unknown, revoked, or invalid device token", false⟩

def authStoreFailed (err : String) : ApiError := ⟨"auth_store_failed", err, false⟩

/-- `handle_auth`, one section of the device lock; the components are those of `handlePairStore`. -/
def handleAuth (sha256Hex : String → String) (info : HostInfo) (devices : TrustedDevices)
    (request : AuthRequest) (now : ℕ) (save : SaveOutcome) (saveError : String) :
    ServerSecureMessage × Option TrustedDevice × TrustedDevices × Bool :=
  match TrustedDevices.authenticate sha256Hex devices request.deviceId request.sessionToken now with
  | (none, devices) => (responseError request.requestId authFailed, none, devices, false)
  | (some device, devices) =>
    if !save.isOk then
      (responseError request.requestId (authStoreFailed saveError), none, devices, true)
    else
      (responseOk request.requestId (.object [
        ("authenticated", .bool true),
        ("host_name", .string info.hostName),
        ("capabilities", info.capabilities)]), some device, devices, true)

/-! ## What the handlers decide -/

section Decide

variable {sha256Hex : String → String} {info : HostInfo} {devices devices' : TrustedDevices}
  {token : Except String String} {uuid saveError : String} {now : ℕ} {save : SaveOutcome}
  {resp : ServerSecureMessage} {granted : Option TrustedDevice} {saved : Bool}

/-- A request that reaches `validate_pairing_code` passed the name check, was admitted by the limiter
and passed the policy. -/
theorem handlePairAdmit_none {config : Config} {limiter limiter' : PairRateLimiter}
    {peer : SocketAddr} {request : PairRequest}
    (h : handlePairAdmit config limiter peer now request = (none, limiter')) :
    nameRejected request.deviceName = false ∧
      limiter.allow peer.ip config.maxPairAttemptsPerMinute now = (true, limiter') ∧
      canPairPublicly config peer = true := by
  unfold handlePairAdmit at h
  by_cases hname : nameRejected request.deviceName = true
  · simp [hname] at h
  · rw [if_neg hname] at h
    rcases ha : limiter.allow peer.ip config.maxPairAttemptsPerMinute now with ⟨admitted, limiter1⟩
    rw [ha] at h
    cases admitted with
    | false => simp at h
    | true =>
      by_cases hpol : canPairPublicly config peer = true
      · have hlim : limiter1 = limiter' := by simpa [hpol] using h
        exact ⟨by simpa using hname, by rw [hlim], hpol⟩
      · simp [hpol] at h

/-- A pairing is answered ok exactly when it grants the connection a device. -/
theorem handlePairStore_granted {request : PairRequest}
    (h : handlePairStore sha256Hex info devices request token uuid now save saveError =
      (resp, granted, devices', saved)) : resp.isOk = granted.isSome := by
  unfold handlePairStore at h
  split at h
  · simp only [Prod.mk.injEq] at h
    obtain ⟨rfl, rfl, -⟩ := h
    rfl
  · split at h <;>
    · simp only [Prod.mk.injEq] at h
      obtain ⟨rfl, rfl, -⟩ := h
      rfl

/-- An authentication is answered ok exactly when it grants the connection a device. -/
theorem handleAuth_granted {request : AuthRequest}
    (h : handleAuth sha256Hex info devices request now save saveError =
      (resp, granted, devices', saved)) : resp.isOk = granted.isSome := by
  unfold handleAuth at h
  split at h
  · simp only [Prod.mk.injEq] at h
    obtain ⟨rfl, rfl, -⟩ := h
    rfl
  · split at h <;>
    · simp only [Prod.mk.injEq] at h
      obtain ⟨rfl, rfl, -⟩ := h
      rfl

/-- **An authentication is answered ok only for a device that is held, unrevoked, under the hash of
the presented token.** -/
theorem handleAuth_ok {request : AuthRequest}
    (h : handleAuth sha256Hex info devices request now save saveError =
      (resp, granted, devices', saved)) (hok : resp.isOk = true) :
    TrustedDevices.Holds sha256Hex request.deviceId request.sessionToken devices := by
  unfold handleAuth at h
  split at h
  · simp only [Prod.mk.injEq] at h
    obtain ⟨rfl, -⟩ := h
    simp at hok
  · next device ds hau => exact (TrustedDevices.authenticate_some hau).2

/-- The devices in memory after `handle_pair`'s last section. -/
theorem handlePairStore_devices {request : PairRequest}
    (h : handlePairStore sha256Hex info devices request token uuid now save saveError =
      (resp, granted, devices', saved)) :
    devices' = (TrustedDevices.pairDevice sha256Hex devices request.deviceName request.appVersion
      token uuid now).2 := by
  unfold handlePairStore at h
  split at h
  · next err ds hp => simp only [Prod.mk.injEq] at h; rw [hp]; exact h.2.2.1.symm
  · next d tok ds hp => split at h <;> (simp only [Prod.mk.injEq] at h; rw [hp]; exact h.2.2.1.symm)

/-- The devices in memory after `handle_auth`. -/
theorem handleAuth_devices {request : AuthRequest}
    (h : handleAuth sha256Hex info devices request now save saveError =
      (resp, granted, devices', saved)) :
    devices' = (TrustedDevices.authenticate sha256Hex devices request.deviceId request.sessionToken
      now).2 := by
  unfold handleAuth at h
  split at h
  · next ds hp => simp only [Prod.mk.injEq] at h; rw [hp]; exact h.2.2.1.symm
  · next d ds hp => split at h <;> (simp only [Prod.mk.injEq] at h; rw [hp]; exact h.2.2.1.symm)

end Decide

end Waypad
