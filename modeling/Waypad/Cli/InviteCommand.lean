import Waypad.Cli.Invite
import Waypad.Lib.LastWrite
import Waypad.Server.Pairing

/-!
# Waypad.Cli.InviteCommand — what an invite says of pairing from outside

`invite_command` reads the configuration and its own options, the daemon reads the configuration alone.

* `inviteOption`, `inviteArgs`: the loop over the options.
* `given`: the value an option is given last; `inviteArgs_given`: what the loop makes of it.
* `createPairingCode`, `inviteCommand`: the code and the payload.
* `Advertised`: the payload says that pairing from outside is open.
* `advertised_iff`: it says what the daemon does exactly if the configuration allows it, or the option is
  given exactly where the daemon does not require a private network.
-/

namespace Waypad

/-- The fields of the configuration that the command reads. -/
structure InviteConfig extends Config where
  controlPort : UInt16
  pairingCodeTtlSeconds : UInt64

/-! ## The options -/

/-- `str::parse` of an unsigned number, digit by digit. -/
def parseDigits (max : ℕ) : ℕ → List Char → Except String ℕ
  | n, [] => .ok n
  | n, c :: rest =>
    if c.isDigit then
      if max < n * 10 + (c.toNat - 48) then .error "number too large to fit in target type"
      else parseDigits max (n * 10 + (c.toNat - 48)) rest
    else .error "invalid digit found in string"

def parseUnsigned (max : ℕ) (s : String) : Except String ℕ :=
  match s.toList with
  | [] => .error "cannot parse integer from empty string"
  | ['+'] => .error "invalid digit found in string"
  | '+' :: digits => parseDigits max 0 digits
  | digits => parseDigits max 0 digits

/-- The variables of the loop. -/
structure InviteOptions where
  qr : Bool
  address : Option String
  remoteAddress : Option String
  allowPublicPairing : Bool
  port : UInt16
  ttl : UInt64

/-- The options that call `args.next()`. -/
def takesValue (arg : String) : Bool :=
  arg == "--address" || arg == "--remote-address" || arg == "--port" || arg == "--ttl"

/-- One turn of the loop; `next` is what `args.next()` yields. -/
def inviteOption (options : InviteOptions) (arg : String) (next : Option String) :
    Except String InviteOptions :=
  if arg = "--qr" then .ok { options with qr := true }
  else if arg = "--address" then .ok { options with address := next }
  else if arg = "--remote-address" then .ok { options with remoteAddress := next }
  else if arg = "--allow-public-pairing" then .ok { options with allowPublicPairing := true }
  else if arg = "--port" then
    match next with
    | none => .error "usage: invite --port <1-65535>"
    | some value => do .ok { options with port := UInt16.ofNat (← parseUnsigned 65535 value) }
  else if arg = "--ttl" then
    match next with
    | none => .error "usage: invite --ttl <seconds>"
    | some value => do
      .ok { options with ttl := UInt64.ofNat (← parseUnsigned 18446744073709551615 value) }
  else .error ("unknown invite option: " ++ arg)

/-- The loop over `trailing`. -/
def inviteArgs : List String → InviteOptions → Except String InviteOptions
  | [], options => .ok options
  | [arg], options => inviteOption options arg none
  | arg :: next :: rest, options =>
    if takesValue arg then do inviteArgs rest (← inviteOption options arg (some next))
    else do inviteArgs (next :: rest) (← inviteOption options arg none)

/-! ## The command -/

/-- What the command finds, and the outcomes of its calls. -/
structure InviteSetup where
  /-- the fingerprint that `load_or_create_identity` returns -/
  identity : Except String String
  /-- `ensure_state_dir` -/
  stateDir : Except String Unit
  /-- `random_pairing_code` -/
  randomCode : Except String String
  /-- `now_unix` -/
  now : UInt64
  sha256Hex : String → String
  /-- `write_private_json` -/
  write : PairingCodeFile → Except String Unit
  /-- `default_invite_address` -/
  defaultAddress : String
  /-- `discovery_hostname` -/
  hostname : String

/-- `create_pairing_code`: the code and its `expires_at`. -/
def createPairingCode (setup : InviteSetup) (ttl : UInt64) : Except String (String × UInt64) := do
  setup.stateDir
  let code ← setup.randomCode
  setup.write (PairingCodeFile.create setup.sha256Hex code setup.now.toNat ttl.toNat)
  .ok (code, setup.now + ttl)

/-- What is printed up to the payload, and whether it is handed to `qrencode`. -/
structure InviteOutput where
  expiresAt : UInt64
  code : String
  payload : String
  qr : Bool

/-- The route and the policy that the payload names. -/
def routePolicy (config : Config) (options : InviteOptions) : String × String :=
  if options.remoteAddress.isSome then
    let canPairPublicly := !config.requirePrivateLan || options.allowPublicPairing
    ("direct-public", if canPairPublicly then "public-pairing" else "public-reconnect")
  else ("direct-lan", "lan-only")

/-- `invite_command`. -/
def inviteCommand (setup : InviteSetup) (config : InviteConfig) (trailing : List String) :
    Except String InviteOutput := do
  let fingerprint ← setup.identity
  let options ← inviteArgs trailing
    { qr := false, address := none, remoteAddress := none
      allowPublicPairing := config.allowPublicPairing, port := config.controlPort
      ttl := config.pairingCodeTtlSeconds }
  let (code, expiresAt) ← createPairingCode setup (min (max options.ttl 30) 900)
  let localAddress := options.address.getD setup.defaultAddress
  let (route, policy) := routePolicy config.toConfig options
  let payload := invitePayload
    { host := setup.hostname, address := localAddress, remoteAddress := options.remoteAddress
      port := options.port, fingerprint := fingerprint, code := code, expires := expiresAt
      route := route, policy := policy, allowPublicPairing := options.allowPublicPairing }
  .ok { expiresAt := expiresAt, code := code, payload := payload, qr := options.qr }

/-- `public_pairing_allowed` of the capabilities the daemon reports. -/
def publicPairingAllowed (config : Config) : Bool := !config.requirePrivateLan || config.allowPublicPairing

/-! ## What the options say -/

/-- The options of an argument list, with what `args.next()` yields for them. -/
def optionsOf : List String → List (String × Option String)
  | [] => []
  | [arg] => [(arg, none)]
  | arg :: next :: rest =>
    if takesValue arg then (arg, some next) :: optionsOf rest else (arg, none) :: optionsOf (next :: rest)

/-- What the option `key` is given last; `none` when it is not there. -/
def given (key : String) (args : List String) : Option (Option String) :=
  LastWrite.last (fun (option : String × Option String) key =>
    if option.1 = key then some option.2 else none) (optionsOf args) key

/-- A remote address is supplied. -/
def RemoteGiven (args : List String) : Prop := ∃ remote, given "--remote-address" args = some (some remote)

/-- `--allow-public-pairing` is there. -/
def AllowGiven (args : List String) : Prop := (given "--allow-public-pairing" args).isSome = true

/-- The payload says that pairing from outside is open: by its policy, and by its own field. -/
def Advertised (payload : String) : Prop :=
  ("policy", some "public-pairing") ∈ readInvite payload ∧
    ("public_pairing_allowed", some "true") ∈ readInvite payload

section Options

variable {options options' : InviteOptions} {arg key : String} {next value : Option String}
  {args : List String}

/-- A step that can fail, and what follows it. -/
theorem except_bind_ok {α β : Type} {x : Except String α} {f : α → Except String β} {b : β}
    (h : (x >>= f) = .ok b) : ∃ a, x = .ok a ∧ f a = .ok b := by
  cases x with
  | error err => cases h
  | ok a => exact ⟨a, rfl, h⟩

/-- One option: the remote address and the permission after it. -/
theorem inviteOption_given (h : inviteOption options arg next = .ok options') :
    options'.remoteAddress = (if arg = "--remote-address" then next else options.remoteAddress) ∧
      options'.allowPublicPairing =
        (options.allowPublicPairing || decide (arg = "--allow-public-pairing")) := by
  unfold inviteOption at h
  -- the options in the order in which they are compared
  split_ifs at h with hqr haddress hremote hallow hport httl
  · obtain rfl := Except.ok.inj h
    subst hqr
    exact ⟨rfl, (Bool.or_false _).symm⟩
  · obtain rfl := Except.ok.inj h
    subst haddress
    exact ⟨rfl, (Bool.or_false _).symm⟩
  · obtain rfl := Except.ok.inj h
    subst hremote
    exact ⟨rfl, (Bool.or_false _).symm⟩
  · obtain rfl := Except.ok.inj h
    subst hallow
    exact ⟨rfl, (Bool.or_true _).symm⟩
  · subst hport
    cases next with
    | none => cases h
    | some value =>
      obtain ⟨n, -, hn⟩ := except_bind_ok h
      obtain rfl := Except.ok.inj hn
      exact ⟨rfl, (Bool.or_false _).symm⟩
  · subst httl
    cases next with
    | none => cases h
    | some value =>
      obtain ⟨n, -, hn⟩ := except_bind_ok h
      obtain rfl := Except.ok.inj hn
      exact ⟨rfl, (Bool.or_false _).symm⟩

/-- What one option adds to what is given. -/
theorem given_cons (p : String × Option String) {rest : List String}
    (h : optionsOf args = p :: optionsOf rest) :
    given key args = (given key rest).or (if p.1 = key then some p.2 else none) := by
  unfold given
  rw [h]
  rfl

/-- The rest of the loop after one option. -/
theorem given_step (rest : List String) {options1 : InviteOptions}
    (hargs : optionsOf args = (arg, next) :: optionsOf rest)
    (hoption : inviteOption options arg next = .ok options1)
    (ih : options'.remoteAddress = (given "--remote-address" rest).getD options1.remoteAddress ∧
      options'.allowPublicPairing =
        (options1.allowPublicPairing || (given "--allow-public-pairing" rest).isSome)) :
    options'.remoteAddress = (given "--remote-address" args).getD options.remoteAddress ∧
      options'.allowPublicPairing =
        (options.allowPublicPairing || (given "--allow-public-pairing" args).isSome) := by
  obtain ⟨hremote, hallow⟩ := inviteOption_given hoption
  rw [ih.1, ih.2, hremote, hallow, given_cons _ hargs, given_cons _ hargs]
  refine ⟨?_, ?_⟩
  · cases given "--remote-address" rest with
    | some value => rfl
    | none => by_cases h : arg = "--remote-address" <;> simp [h]
  · cases given "--allow-public-pairing" rest with
    | some value => simp
    | none => by_cases h : arg = "--allow-public-pairing" <;> simp [h]

/-- **What the loop makes of the options**: the remote address given last, and the permission if it is
given at all. -/
theorem inviteArgs_given (args : List String) (options : InviteOptions)
    (h : inviteArgs args options = .ok options') :
    options'.remoteAddress = (given "--remote-address" args).getD options.remoteAddress ∧
      options'.allowPublicPairing =
        (options.allowPublicPairing || (given "--allow-public-pairing" args).isSome) := by
  induction args, options using inviteArgs.induct with
  | case1 options =>
    rw [inviteArgs] at h
    obtain rfl := Except.ok.inj h
    exact ⟨rfl, (Bool.or_false _).symm⟩
  | case2 arg options =>
    rw [inviteArgs] at h
    exact given_step [] rfl h ⟨rfl, (Bool.or_false _).symm⟩
  | case3 arg next rest options hvalue ih =>
    rw [inviteArgs, if_pos hvalue] at h
    obtain ⟨options1, hoption, hrest⟩ := except_bind_ok h
    exact given_step rest (by rw [optionsOf, if_pos hvalue]) hoption (ih options1 hrest)
  | case4 arg next rest options hvalue ih =>
    rw [inviteArgs, if_neg hvalue] at h
    obtain ⟨options1, hoption, hrest⟩ := except_bind_ok h
    exact given_step (next :: rest) (by rw [optionsOf, if_neg hvalue]) hoption (ih options1 hrest)

end Options

/-! ## What the payload says -/

section Advertised

variable {setup : InviteSetup} {config : InviteConfig} {trailing : List String} {out : InviteOutput}
  {fields : InviteFields} {peer : SocketAddr}

theorem policy_read (fields : InviteFields) (v : String) :
    ("policy", some v) ∈ readInvite (invitePayload fields) ↔ v = fields.policy := by
  rw [readInvite_payload]
  cases hremote : fields.remoteAddress <;> simp [inviteQuery, hremote]

theorem allowed_read (fields : InviteFields) (v : String) :
    ("public_pairing_allowed", some v) ∈ readInvite (invitePayload fields) ↔
      v = truth fields.allowPublicPairing := by
  rw [readInvite_payload]
  cases hremote : fields.remoteAddress <;> simp [inviteQuery, hremote]

/-- **The payload of the command**: its policy and its permission, from the configuration and the options. -/
theorem inviteCommand_ok (hout : inviteCommand setup config trailing = .ok out) :
    ∃ fields, out.payload = invitePayload fields ∧
      fields.remoteAddress = (given "--remote-address" trailing).join ∧
      fields.allowPublicPairing =
        (config.allowPublicPairing || (given "--allow-public-pairing" trailing).isSome) ∧
      (fields.remoteAddress.isSome = true → fields.policy =
        if !config.requirePrivateLan || fields.allowPublicPairing then "public-pairing"
        else "public-reconnect") := by
  unfold inviteCommand at hout
  obtain ⟨fingerprint, -, hout⟩ := except_bind_ok hout
  obtain ⟨options, hargs, hout⟩ := except_bind_ok hout
  obtain ⟨⟨code, expiresAt⟩, -, hout⟩ := except_bind_ok hout
  obtain ⟨hremote, hallow⟩ := inviteArgs_given _ _ hargs
  obtain rfl := Except.ok.inj hout
  refine ⟨_, rfl, ?_, hallow, ?_⟩
  · show options.remoteAddress = _
    rw [hremote]
    cases given "--remote-address" trailing <;> rfl
  · show options.remoteAddress.isSome = true → (routePolicy config.toConfig options).2 = _
    intro hsome
    unfold routePolicy
    rw [if_pos hsome]

/-- Outside the private networks the daemon's check is what its capabilities report. -/
theorem canPairPublicly_outside (config : Config) (hpeer : isPrivateOrLocal peer = false) :
    canPairPublicly config peer = publicPairingAllowed config := by
  unfold canPairPublicly publicPairingAllowed
  rw [hpeer]
  cases config.requirePrivateLan <;> cases config.allowPublicPairing <;> rfl

theorem advertised_given (hout : inviteCommand setup config trailing = .ok out)
    (hremote : RemoteGiven trailing) :
    Advertised out.payload ↔ config.allowPublicPairing = true ∨ AllowGiven trailing := by
  obtain ⟨fields, hpayload, haddress, hallow, hpolicy⟩ := inviteCommand_ok hout
  obtain ⟨remote, hgiven⟩ := hremote
  have hsome : fields.remoteAddress.isSome = true := by
    rw [haddress, hgiven]
    rfl
  have hcond : fields.allowPublicPairing = true ↔
      config.allowPublicPairing = true ∨ AllowGiven trailing := by
    rw [hallow, Bool.or_eq_true]
    rfl
  unfold Advertised
  rw [hpayload, policy_read, allowed_read, hpolicy hsome, ← hcond]
  refine ⟨fun h => truth_injective _ _ h.2.symm, fun h => ?_⟩
  rw [h, Bool.or_true, if_pos rfl]
  exact ⟨rfl, rfl⟩

/-- **What an invite says and what the daemon does**: they agree exactly if the configuration allows pairing
from outside, or the option is given exactly where the daemon does not require a private network. -/
theorem advertised_iff (hout : inviteCommand setup config trailing = .ok out)
    (hremote : RemoteGiven trailing) (hpeer : isPrivateOrLocal peer = false) :
    (Advertised out.payload ↔ canPairPublicly config.toConfig peer = true) ↔
      (config.allowPublicPairing = true ∨ (AllowGiven trailing ↔ config.requirePrivateLan = false)) := by
  rw [advertised_given hout hremote, canPairPublicly_outside config.toConfig hpeer]
  unfold publicPairingAllowed
  rw [Bool.or_eq_true, Bool.not_eq_true']
  tauto

end Advertised

/-! ## The default configuration -/

def demoInvite : InviteSetup :=
  { identity := .ok "aa:bb", stateDir := .ok (), randomCode := .ok "123456", now := 1000
    sha256Hex := id, write := fun _ => .ok (), defaultAddress := "192.168.1.20", hostname := "pc" }

/-- `Config::default()`. -/
def demoDefaults : InviteConfig :=
  { requirePrivateLan := true, allowPublicPairing := false, maxPairAttemptsPerMinute := 5
    controlPort := 47771, pairingCodeTtlSeconds := 300 }

def demoOutside : SocketAddr := { ip := .v4 198 51 100 7, port := 40000 }

def demoRequest : PairRequest :=
  { requestId := "1", deviceName := "phone", pairingCode := "123456", appVersion := none }

def demoAllowed : List String := ["--allow-public-pairing", "--remote-address", "203.0.113.10"]

theorem demoAllowed_remote : RemoteGiven demoAllowed := ⟨"203.0.113.10", rfl⟩

/-- The option is given, and the daemon answers that this host blocks pairing from public networks. -/
theorem invite_overstates : ∃ out, inviteCommand demoInvite demoDefaults demoAllowed = .ok out ∧
    RemoteGiven demoAllowed ∧ isPrivateOrLocal demoOutside = false ∧
    ¬ (Advertised out.payload ↔ canPairPublicly demoDefaults.toConfig demoOutside = true) ∧
    (handlePairAdmit demoDefaults.toConfig .empty demoOutside 0 demoRequest).1 =
      some publicPairingDenied := by
  refine ⟨_, rfl, demoAllowed_remote, by decide, ?_, rfl⟩
  have hallow : AllowGiven demoAllowed := rfl
  have hsays := (@advertised_given demoInvite demoDefaults demoAllowed _ rfl demoAllowed_remote).mpr
    (Or.inr hallow)
  intro h
  exact absurd (h.mp hsays) (by decide)

def demoRemote : List String := ["--remote-address", "203.0.113.10"]

/-- Without the option the default configuration and its invite agree. -/
theorem advertised_demo : ∃ out, inviteCommand demoInvite demoDefaults demoRemote = .ok out ∧
    (Advertised out.payload ↔ canPairPublicly demoDefaults.toConfig demoOutside = true) := by
  refine ⟨_, rfl, ?_⟩
  refine (@advertised_iff demoInvite demoDefaults demoRemote _ demoOutside rfl ⟨"203.0.113.10", rfl⟩
    (by decide)).mpr (Or.inr ?_)
  exact iff_of_false Bool.false_ne_true (by decide)

end Waypad
