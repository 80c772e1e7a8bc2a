import Mathlib.Data.List.Nodup
import Waypad.Lib.FirstMatch

/-!
# Waypad.State — the persistent store (`src/state.rs`)

* `TrustedDevices` with `pairDevice`, `authenticate`, `revoke`.  The SHA-256 of the source is the
  parameter `sha256Hex`; the random token, the uuid and the clock are arguments.
* `PairingCodeFile` and the check `PairingCodeFile.valid` of `validate_pairing_code`.
* `SaveOutcome`: the three ways `write_private_json` can end.
* `Distinct`: no two records share an id, kept by the three operations.
* `RevokedIn id`: every record of `id` is revoked and there is one; kept by the operations of other
  ids, and no token authenticates `id` then (`not_holds_of_revokedIn`).
-/

namespace Waypad

open FirstMatch

structure TrustedDevice where
  id : String
  name : String
  tokenHash : String
  createdAt : ℕ
  lastSeenAt : Option ℕ
  revoked : Bool
  appVersion : Option String
  deriving DecidableEq, Repr

structure TrustedDevices where
  devices : List TrustedDevice
  deriving DecidableEq, Repr

structure PairingCodeFile where
  codeHash : String
  createdAt : ℕ
  expiresAt : ℕ
  deriving DecidableEq, Repr

/-- How `write_private_json` ends: the new content is in place, it failed before the `rename`, or it
failed after it, when only the permissions of the renamed file were still to be set. -/
inductive SaveOutcome
  | ok | failedBefore | failedAfter
  deriving DecidableEq, Repr

namespace SaveOutcome

/-- `Ok(())` is returned. -/
def isOk : SaveOutcome → Bool
  | ok => true
  | _ => false

/-- The content of the file after the call. -/
def write {α : Type*} (old new : α) : SaveOutcome → α
  | failedBefore => old
  | _ => new

end SaveOutcome

/-! ## The operations -/

namespace TrustedDevices

/-- `TrustedDevices::default()`. -/
def empty : TrustedDevices := ⟨[]⟩

/-- `pair_device`; `token` is the result of `random_token()`, `uuid` that of `Uuid::new_v4()`. -/
def pairDevice (sha256Hex : String → String) (self : TrustedDevices) (name : String)
    (appVersion : Option String) (token : Except String String) (uuid : String) (now : ℕ) :
    Except String (TrustedDevice × String) × TrustedDevices :=
  match token with
  | .error err => (.error err, self)
  | .ok token =>
    let device : TrustedDevice :=
      { id := uuid, name, tokenHash := sha256Hex token, createdAt := now, lastSeenAt := some now,
        revoked := false, appVersion }
    (.ok (device, token), ⟨self.devices.filter (fun d => d.id != device.id) ++ [device]⟩)

/-- The test `authenticate` looks the device up with. -/
def accepts (sha256Hex : String → String) (deviceId token : String) (d : TrustedDevice) : Bool :=
  d.id == deviceId && !d.revoked && d.tokenHash == sha256Hex token

/-- `device.last_seen_at = Some(now)`. -/
def seen (now : ℕ) (d : TrustedDevice) : TrustedDevice := { d with lastSeenAt := some now }

/-- `authenticate`: the first accepted record, with its `last_seen_at` set to `now`. -/
def authenticate (sha256Hex : String → String) (self : TrustedDevices) (deviceId token : String)
    (now : ℕ) : Option TrustedDevice × TrustedDevices :=
  match modifyFirst (accepts sha256Hex deviceId token) (seen now) self.devices with
  | some (device, devices) => (some device, ⟨devices⟩)
  | none => (none, self)

/-- `device.revoked = true`. -/
def markRevoked (d : TrustedDevice) : TrustedDevice := { d with revoked := true }

/-- `revoke`: marks the first record of the id; `false` when there is none. -/
def revoke (self : TrustedDevices) (deviceId : String) : Bool × TrustedDevices :=
  match modifyFirst (fun d => d.id == deviceId) markRevoked self.devices with
  | some (_, devices) => (true, ⟨devices⟩)
  | none => (false, self)

/-! ## What the operations keep -/

/-- No two records share an id. -/
def Distinct (self : TrustedDevices) : Prop := (self.devices.map TrustedDevice.id).Nodup

/-- The id is known and every record of it is revoked. -/
def RevokedIn (id : String) (self : TrustedDevices) : Prop :=
  (∃ d ∈ self.devices, d.id = id) ∧ ∀ d ∈ self.devices, d.id = id → d.revoked = true

instance (id : String) (self : TrustedDevices) : Decidable (RevokedIn id self) :=
  inferInstanceAs (Decidable (_ ∧ _))

/-- The id is known and not revoked, under the hash of `token`. -/
def Holds (sha256Hex : String → String) (id token : String) (self : TrustedDevices) : Prop :=
  ∃ d ∈ self.devices, d.id = id ∧ d.revoked = false ∧ d.tokenHash = sha256Hex token

variable {sha256Hex : String → String} {self self' : TrustedDevices} {name id token uuid : String}
  {appVersion : Option String} {rand : Except String String} {now : ℕ} {device : TrustedDevice}

theorem empty_distinct : Distinct empty := by simp [Distinct, empty]

theorem accepts_iff {d : TrustedDevice} : accepts sha256Hex id token d = true ↔
    d.id = id ∧ d.revoked = false ∧ d.tokenHash = sha256Hex token := by
  simp [accepts, and_assoc]

/-! ### One updated record

`authenticate` and `revoke` both update the first match, keep its id and never take a revocation
back. -/

theorem distinct_of_modifyFirst {p : TrustedDevice → Bool} {f : TrustedDevice → TrustedDevice}
    {y : TrustedDevice} {l' : List TrustedDevice} (hid : ∀ d, (f d).id = d.id)
    (hm : modifyFirst p f self.devices = some (y, l')) (h : Distinct self) : Distinct ⟨l'⟩ := by
  unfold Distinct
  dsimp only
  rw [modifyFirst_map TrustedDevice.id hid hm]
  exact h

theorem revokedIn_of_modifyFirst {p : TrustedDevice → Bool} {f : TrustedDevice → TrustedDevice}
    {y : TrustedDevice} {l' : List TrustedDevice} (hid : ∀ d, (f d).id = d.id)
    (hrev : ∀ d, d.revoked = true → (f d).revoked = true)
    (hm : modifyFirst p f self.devices = some (y, l')) (h : RevokedIn id self) :
    RevokedIn id ⟨l'⟩ := by
  obtain ⟨⟨d, hd, hdid⟩, hall⟩ := h
  refine ⟨?_, ?_⟩
  · have hmem : id ∈ l'.map TrustedDevice.id := by
      rw [modifyFirst_map TrustedDevice.id hid hm]
      exact List.mem_map.mpr ⟨d, hd, hdid⟩
    obtain ⟨e, he, heid⟩ := List.mem_map.mp hmem
    exact ⟨e, he, heid⟩
  · intro e he heid
    rcases mem_modifyFirst hm he with he | ⟨x, hx, -, rfl⟩
    · exact hall e he heid
    · rw [hid] at heid
      exact hrev x (hall x hx heid)

/-! ### `pair_device` -/

/-- A device `pair_device` returns is in the store, unrevoked, under the hash of its token. -/
theorem pairDevice_ok {tok : String}
    (h : pairDevice sha256Hex self name appVersion rand uuid now = (.ok (device, tok), self')) :
    device.id = uuid ∧ Holds sha256Hex uuid tok self' := by
  cases rand with
  | error err => simp [pairDevice] at h
  | ok t =>
    simp only [pairDevice, Prod.mk.injEq, Except.ok.injEq] at h
    obtain ⟨⟨rfl, rfl⟩, rfl⟩ := h
    exact ⟨rfl, _, List.mem_append_right _ (List.mem_singleton.mpr rfl), rfl, rfl, rfl⟩

theorem pairDevice_distinct (h : Distinct self) :
    Distinct (pairDevice sha256Hex self name appVersion rand uuid now).2 := by
  cases rand with
  | error err => exact h
  | ok t =>
    have hsub : ((self.devices.filter (fun d => d.id != uuid)).map TrustedDevice.id).Sublist
        (self.devices.map TrustedDevice.id) := List.filter_sublist.map _
    simp only [Distinct, pairDevice, List.map_append, List.map_cons, List.map_nil]
    apply List.Nodup.append (h.sublist hsub) (by simp)
    intro x hx hu
    obtain ⟨d, hd, rfl⟩ := List.mem_map.mp hx
    have hne : d.id ≠ uuid := by simpa using (List.mem_filter.mp hd).2
    exact hne (List.mem_singleton.mp hu)

theorem pairDevice_revoked (hne : uuid ≠ id) (h : RevokedIn id self) :
    RevokedIn id (pairDevice sha256Hex self name appVersion rand uuid now).2 := by
  cases rand with
  | error err => exact h
  | ok t =>
    obtain ⟨⟨d, hd, hid⟩, hall⟩ := h
    refine ⟨⟨d, ?_, hid⟩, ?_⟩
    · have : d.id ≠ uuid := by rw [hid]; exact hne.symm
      simp [pairDevice, hd, this]
    · intro e he heid
      simp only [pairDevice, List.mem_append, List.mem_filter, List.mem_singleton] at he
      rcases he with he | rfl
      · exact hall e he.1 heid
      · exact absurd heid hne

/-! ### `authenticate` -/

/-- A device `authenticate` returns was in the store, unrevoked, under the hash of the token. -/
theorem authenticate_some
    (h : authenticate sha256Hex self id token now = (some device, self')) :
    device.id = id ∧ Holds sha256Hex id token self := by
  unfold authenticate at h
  cases hm : modifyFirst (accepts sha256Hex id token) (seen now) self.devices with
  | none => simp [hm] at h
  | some r =>
    obtain ⟨y, l'⟩ := r
    rw [hm] at h
    simp only [Prod.mk.injEq, Option.some.injEq] at h
    obtain ⟨l1, x, l2, hl, -, hx, hy, -⟩ := modifyFirst_eq_some hm
    have hx' := accepts_iff.mp hx
    refine ⟨?_, x, by rw [hl]; simp, hx'⟩
    rw [← h.1, hy]
    exact hx'.1

theorem authenticate_distinct (h : Distinct self) :
    Distinct (authenticate sha256Hex self id token now).2 := by
  unfold authenticate
  cases hm : modifyFirst (accepts sha256Hex id token) (seen now) self.devices with
  | none => exact h
  | some r => exact distinct_of_modifyFirst (f := seen now) (fun _ => rfl) hm h

/-- `authenticate` takes no revocation back. -/
theorem authenticate_revoked {id' : String} (h : RevokedIn id self) :
    RevokedIn id (authenticate sha256Hex self id' token now).2 := by
  unfold authenticate
  cases hm : modifyFirst (accepts sha256Hex id' token) (seen now) self.devices with
  | none => exact h
  | some r => exact revokedIn_of_modifyFirst (f := seen now) (fun _ => rfl) (fun _ h => h) hm h

/-- **No token authenticates a revoked id.** -/
theorem not_holds_of_revokedIn (h : RevokedIn id self) : ¬ Holds sha256Hex id token self := by
  rintro ⟨d, hd, hid, hrev, -⟩
  simp [h.2 d hd hid] at hrev

/-! ### `revoke` -/

theorem revoke_distinct (h : Distinct self) : Distinct (revoke self id).2 := by
  unfold revoke
  cases hm : modifyFirst (fun d => d.id == id) markRevoked self.devices with
  | none => exact h
  | some r => exact distinct_of_modifyFirst (f := markRevoked) (fun _ => rfl) hm h

/-- A reported `revoke` leaves no unrevoked record of the id. -/
theorem revoke_revoked (hd : Distinct self) (h : (revoke self id).1 = true) :
    RevokedIn id (revoke self id).2 := by
  unfold revoke at h ⊢
  cases hm : modifyFirst (fun d => d.id == id) markRevoked self.devices with
  | none => simp [hm] at h
  | some r =>
    obtain ⟨y, l'⟩ := r
    obtain ⟨l1, x, l2, hl, -, hx, -, hr⟩ := modifyFirst_eq_some hm
    have hxid : x.id = id := by simpa using hx
    dsimp only
    rw [hr]
    refine ⟨⟨markRevoked x, by simp, hxid⟩, ?_⟩
    -- by distinctness no record of `id` stands before or after the marked one
    have hnd : ((l1 ++ x :: l2).map TrustedDevice.id).Nodup := hl ▸ hd
    simp only [List.map_append, List.map_cons, List.nodup_middle, List.nodup_cons, List.mem_append,
      not_or, List.mem_map, not_exists, not_and] at hnd
    intro d hd' hdid
    simp only [List.mem_append, List.mem_cons] at hd'
    rcases hd' with hd' | rfl | hd'
    · exact absurd (hdid.trans hxid.symm) (hnd.1.1 d hd')
    · rfl
    · exact absurd (hdid.trans hxid.symm) (hnd.1.2 d hd')

/-- `revoke` of any id keeps every revoked id revoked. -/
theorem revoke_keeps {id' : String} (h : RevokedIn id self) : RevokedIn id (revoke self id').2 := by
  unfold revoke
  cases hm : modifyFirst (fun d => d.id == id') markRevoked self.devices with
  | none => exact h
  | some r => exact revokedIn_of_modifyFirst (f := markRevoked) (fun _ => rfl) (fun _ _ => rfl) hm h

end TrustedDevices

/-! ## Pairing codes -/

namespace PairingCodeFile

/-- The file `create_pairing_code` writes for `code`. -/
def create (sha256Hex : String → String) (code : String) (now ttl : ℕ) : PairingCodeFile :=
  { codeHash := sha256Hex code, createdAt := now, expiresAt := now + ttl }

/-- The decision of `validate_pairing_code` on the file it read. -/
def valid (sha256Hex : String → String) (file : PairingCodeFile) (code : String) (now : ℕ) : Bool :=
  decide (now ≤ file.expiresAt) && file.codeHash == sha256Hex code

end PairingCodeFile

end Waypad
