import Mathlib.Data.Set.Function
import Waypad.Lib.LastWrite
import Waypad.State

/-!
# Waypad.Server.DeviceStore — the list of trusted devices is a map (`src/state.rs`)

`pair_device`, `authenticate` and `revoke` search a list; what they do to it over any sequence of calls is
what they would do to a map from ids to tokens.

* `TrustedCall`, `after`: the calls, and the store they leave.
* `Changes`: what one call does to the list; `records_call`: it does not touch the records of another id.
* `hashOf`, `tokenOf`: what the store holds for an id, and what the map does; `after_hashOf`: the store
  refines the map.
* `authenticates_iff`: who is let in; `after_revoked`: a revoked device stays revoked.
-/

namespace Waypad

open FirstMatch

inductive TrustedCall
  | pair (name : String) (appVersion : Option String) (token : Except String String) (uuid : String)
      (now : ℕ)
  | authenticate (id token : String) (now : ℕ)
  | revoke (id : String)
  deriving DecidableEq

namespace TrustedCall

/-- The id the call is about. -/
def id : TrustedCall → String
  | pair _ _ _ uuid _ => uuid
  | authenticate id _ _ => id
  | revoke id => id

/-- The id and the token the call generates. -/
def generated : TrustedCall → Option (String × String)
  | pair _ _ (.ok token) uuid _ => some (uuid, token)
  | _ => none

/-- What the call leaves in the map from ids to tokens. -/
def effect : TrustedCall → String → Option (Option String)
  | pair _ _ (.ok token) uuid _, k => if uuid = k then some (some token) else none
  | revoke id, k => if id = k then some none else none
  | _, _ => none

/-- A call leaves a token if it generates it, and takes one away if it revokes the id. -/
theorem effect_eq_some {call : TrustedCall} {k token : String} :
    call.effect k = some (some token) ↔ call.generated = some (k, token) := by
  rcases call with ⟨name, version, err | token', uuid, now⟩ | ⟨id, token', now⟩ | id <;>
    simp [effect, generated]

theorem effect_eq_none {call : TrustedCall} {k : String} :
    call.effect k = none ↔ (∀ token, call.generated ≠ some (k, token)) ∧ call ≠ revoke k := by
  rcases call with ⟨name, version, err | token', uuid, now⟩ | ⟨id, token', now⟩ | id <;>
    simp [effect, generated]

end TrustedCall

namespace TrustedDevices

/-- The store after the call. -/
def call (sha256Hex : String → String) (self : TrustedDevices) : TrustedCall → TrustedDevices
  | .pair name appVersion token uuid now => (self.pairDevice sha256Hex name appVersion token uuid now).2
  | .authenticate id token now => (self.authenticate sha256Hex id token now).2
  | .revoke id => (self.revoke id).2

/-- The store after the calls, from an empty one. -/
def after (sha256Hex : String → String) (calls : List TrustedCall) : TrustedDevices :=
  calls.foldl (call sha256Hex) empty

/-- The records of the id. -/
def records (self : TrustedDevices) (id : String) : List TrustedDevice :=
  self.devices.filter (fun d => d.id == id)

/-- The hash under which the id is let in. -/
def hashOf (self : TrustedDevices) (id : String) : Option String :=
  ((self.records id).find? (fun d => !d.revoked)).map TrustedDevice.tokenHash

/-- The map: the token of the id, after the calls. -/
def tokenOf (calls : List TrustedCall) (id : String) : Option String :=
  (LastWrite.last TrustedCall.effect calls id).getD none

variable {sha256Hex : String → String} {self : TrustedDevices} {id token : String}

/-! ## What a call does -/

/-- What a call does to the list: nothing, one new record for its id, or an update of the first record of its
id that meets a test. -/
inductive Changes (sha256Hex : String → String) (self : TrustedDevices) (c : TrustedCall) :
    TrustedDevices → Prop
  | same : Changes sha256Hex self c self
  | adds (device : TrustedDevice) (token : String) (generates : c.generated = some (device.id, token))
      (id : device.id = c.id) :
      Changes sha256Hex self c ⟨self.devices.filter (fun d => d.id != device.id) ++ [device]⟩
  | updates (p : TrustedDevice → Bool) (f : TrustedDevice → TrustedDevice) (device : TrustedDevice)
      (devices : List TrustedDevice) (test : ∀ d, p d = true → d.id = c.id) (ids : ∀ d, (f d).id = d.id)
      (found : modifyFirst p f self.devices = some (device, devices)) : Changes sha256Hex self c ⟨devices⟩

theorem call_changes (self : TrustedDevices) (c : TrustedCall) :
    Changes sha256Hex self c (self.call sha256Hex c) := by
  rcases c with ⟨name, version, err | tok, uuid, now⟩ | ⟨other, tok, now⟩ | other
  · exact .same
  · exact .adds _ tok rfl rfl
  · simp only [call, authenticate]
    split
    · next device devices hm =>
      exact .updates _ (seen now) device devices (fun d hd => (accepts_iff.mp hd).1) (fun _ => rfl) hm
    · exact .same
  · simp only [call, revoke]
    split
    · next device devices hm =>
      exact .updates _ markRevoked device devices (fun d hd => beq_iff_eq.mp hd) (fun _ => rfl) hm
    · exact .same

/-- **A call on one id does not touch the records of another.** -/
theorem records_call {c : TrustedCall} (hne : c.id ≠ id) :
    (self.call sha256Hex c).records id = self.records id := by
  have hchanges : Changes sha256Hex self c _ := call_changes self c
  generalize self.call sha256Hex c = next at hchanges
  cases hchanges with
  | same => rfl
  | adds device token generates hid =>
    have hdevice : device.id ≠ id := fun h => hne (hid ▸ h)
    have hkept : ∀ d : TrustedDevice, (d.id == id && d.id != device.id) = (d.id == id) := by
      intro d
      by_cases hd : d.id = id
      · simp [hd, hdevice.symm]
      · simp [hd]
    simp only [records, List.filter_append, List.filter_filter, hkept]
    simp [hdevice]
  | updates p f device devices test ids found =>
    apply filter_modifyFirst (fun d hd => ?_) (fun d => ?_) found
    · simpa [test d hd] using hne
    · rw [ids]

/-- The records after a call are of known ids, or of the one it generates. -/
theorem mem_ids_call {c : TrustedCall} (h : id ∈ (self.call sha256Hex c).devices.map TrustedDevice.id) :
    id ∈ self.devices.map TrustedDevice.id ∨ ∃ tok, c.generated = some (id, tok) := by
  have hchanges : Changes sha256Hex self c _ := call_changes self c
  generalize self.call sha256Hex c = next at h hchanges
  cases hchanges with
  | same => exact Or.inl h
  | adds device token generates hid =>
    rw [List.map_append, List.mem_append] at h
    rcases h with h | h
    · exact Or.inl ((List.filter_sublist.map _).subset h)
    · obtain rfl := List.mem_singleton.mp h
      exact Or.inr ⟨token, generates⟩
  | updates p f device devices test ids found =>
    rw [modifyFirst_map TrustedDevice.id ids found] at h
    exact Or.inl h

theorem call_distinct (h : Distinct self) (c : TrustedCall) : Distinct (self.call sha256Hex c) := by
  rcases c with ⟨name, version, tok, uuid, now⟩ | ⟨other, tok, now⟩ | other
  · exact pairDevice_distinct h
  · exact authenticate_distinct h
  · exact revoke_distinct h

/-! ## What a call writes -/

/-- What `hashOf` reads of a record. -/
def key (d : TrustedDevice) : String × Bool × String := (d.id, d.revoked, d.tokenHash)

theorem hashOf_eq (self : TrustedDevices) (id : String) : self.hashOf id =
    ((self.devices.map key).find? (fun k => k.1 == id && !k.2.1)).map (fun k => k.2.2) := by
  simp only [hashOf, records, List.find?_filter, List.find?_map, Option.map_map, Bool.decide_and,
    Bool.decide_eq_true]
  rfl

theorem hashOf_authenticate (other tok : String) (now : ℕ) :
    (self.authenticate sha256Hex other tok now).2.hashOf id = self.hashOf id := by
  simp only [authenticate]
  split
  · next device devices hm =>
    have hkeys : devices.map key = self.devices.map key :=
      modifyFirst_map (f := seen now) key (fun _ => rfl) hm
    rw [hashOf_eq, hashOf_eq, hkeys]
  · rfl

theorem hashOf_pairDevice (name : String) (version : Option String) (tok uuid : String) (now : ℕ) :
    (self.pairDevice sha256Hex name version (.ok tok) uuid now).2.hashOf uuid = some (sha256Hex tok) := by
  have hnone : ∀ d : TrustedDevice, (d.id == uuid && d.id != uuid) = false := by
    intro d
    cases hd : d.id == uuid <;> simp [bne, hd]
  simp only [hashOf, records, pairDevice, List.filter_append, List.filter_filter, hnone]
  simp

/-- Distinct ids: `revoke` finds the only record. -/
theorem hashOf_revoke (h : Distinct self) : (self.revoke id).2.hashOf id = none := by
  rw [hashOf, Option.map_eq_none_iff, List.find?_eq_none]
  intro d hd
  have hmem := List.mem_filter.mp hd
  by_cases hfound : (self.revoke id).1 = true
  · have hrevoked := (revoke_revoked h hfound).2 d hmem.1 (by simpa using hmem.2)
    simp [hrevoked]
  · unfold revoke at hfound hmem
    cases hm : modifyFirst (fun d => d.id == id) markRevoked self.devices with
    | none =>
      rw [hm] at hmem
      have hother := modifyFirst_eq_none.mp hm d hmem.1
      rw [hmem.2] at hother
      cases hother
    | some r => simp [hm] at hfound

/-- **What one call does to the map.** -/
theorem call_leaves (h : Distinct self) (c : TrustedCall) :
    LastWrite.Leaves Distinct hashOf self (self.call sha256Hex c)
      (fun k => (c.effect k).map (Option.map sha256Hex)) := by
  refine { inv := call_distinct h c, cells := fun k => ?_ }
  by_cases hne : c.id = k
  · subst hne
    rcases c with ⟨name, version, _ | tok, uuid, now⟩ | ⟨other, tok, now⟩ | other
    · rfl
    · show (self.pairDevice sha256Hex name version (.ok tok) uuid now).2.hashOf uuid = _
      rw [hashOf_pairDevice]
      simp [TrustedCall.effect, TrustedCall.id]
    · exact hashOf_authenticate other tok now
    · show (self.revoke other).2.hashOf other = _
      rw [hashOf_revoke h]
      simp [TrustedCall.effect, TrustedCall.id]
  · have heffect : c.effect k = none := by
      rcases c with ⟨name, version, _ | tok, uuid, now⟩ | ⟨other, tok, now⟩ | other
      · rfl
      · exact if_neg hne
      · rfl
      · exact if_neg hne
    rw [heffect, hashOf, records_call hne]
    rfl

/-! ## Over any sequence of calls -/

theorem after_leaves (calls : List TrustedCall) :
    LastWrite.Leaves Distinct hashOf empty (after sha256Hex calls)
      (LastWrite.last (fun c k => (TrustedCall.effect c k).map (Option.map sha256Hex)) calls) := by
  have hruns : Trans.Runs (fun s c => some (call sha256Hex s c)) Trans.Free empty calls
      (after sha256Hex calls) := Trans.runs_foldl _ (fun _ _ _ => trivial) _
  apply LastWrite.runs_leaves _ hruns empty_distinct
  intro s c t hs _ ht
  obtain rfl := Option.some.inj ht
  exact call_leaves hs c

theorem after_distinct (calls : List TrustedCall) : Distinct (after sha256Hex calls) :=
  (after_leaves calls).inv

/-- **The store refines the map.** -/
theorem after_hashOf (calls : List TrustedCall) (id : String) :
    (after sha256Hex calls).hashOf id = (tokenOf calls id).map sha256Hex := by
  have hempty : empty.hashOf id = none := rfl
  rw [(after_leaves calls).cells id, hempty, tokenOf]
  have hread : LastWrite.last (fun c k => (TrustedCall.effect c k).map (Option.map sha256Hex)) calls id =
      (LastWrite.last TrustedCall.effect calls id).map (Option.map sha256Hex) :=
    LastWrite.last_map (Option.map sha256Hex) (fun k => k) calls id
  rw [hread]
  cases LastWrite.last TrustedCall.effect calls id <;> rfl

/-- `authenticate` reads the map, under the hash. -/
theorem authenticate_isSome (h : Distinct self) (now : ℕ) :
    (self.authenticate sha256Hex id token now).1.isSome = true ↔
      self.hashOf id = some (sha256Hex token) := by
  have hfirst : (self.authenticate sha256Hex id token now).1.isSome = true ↔
      Holds sha256Hex id token self := by
    unfold authenticate Holds
    cases hm : modifyFirst (accepts sha256Hex id token) (seen now) self.devices with
    | none =>
      refine iff_of_false (by simp) ?_
      rintro ⟨d, hd, hholds⟩
      have hno := modifyFirst_eq_none.mp hm d hd
      rw [accepts_iff.mpr hholds] at hno
      cases hno
    | some r =>
      obtain ⟨l1, x, l2, hl, -, hx, -, -⟩ := modifyFirst_eq_some hm
      refine iff_of_true rfl ⟨x, ?_, accepts_iff.mp hx⟩
      rw [hl]
      simp
  rw [hfirst, hashOf, Option.map_eq_some_iff]
  refine ⟨?_, ?_⟩
  · -- ids are unique, so the record that is found first is this one
    rintro ⟨d, hd, hid, hrevoked, hhash⟩
    have hsome : ((self.records id).find? (fun d => !d.revoked)).isSome = true := by
      rw [List.find?_isSome]
      exact ⟨d, List.mem_filter.mpr ⟨hd, by simpa using hid⟩, by simp [hrevoked]⟩
    obtain ⟨e, he⟩ := Option.isSome_iff_exists.mp hsome
    have hmem := List.mem_filter.mp (List.mem_of_find?_eq_some he)
    have hsame : e = d := List.inj_on_of_nodup_map h hmem.1 hd ((beq_iff_eq.mp hmem.2).trans hid.symm)
    exact ⟨e, he, hsame ▸ hhash⟩
  · rintro ⟨d, hd, hhash⟩
    have hmem := List.mem_filter.mp (List.mem_of_find?_eq_some hd)
    have hrevoked := List.find?_some hd
    exact ⟨d, hmem.1, beq_iff_eq.mp hmem.2, by simpa using hrevoked, hhash⟩

/-! ## Who is let in -/

/-- The ids the pairings generate. -/
def ids (calls : List TrustedCall) : List String := (calls.filterMap TrustedCall.generated).map Prod.fst

/-- The tokens the pairings generate. -/
def tokens (calls : List TrustedCall) : List String := (calls.filterMap TrustedCall.generated).map Prod.snd

/-- No two pairings generate the same id. -/
def FreshIds (calls : List TrustedCall) : Prop := (ids calls).Nodup

instance (calls : List TrustedCall) : Decidable (FreshIds calls) :=
  inferInstanceAs (Decidable (List.Nodup _))

theorem mem_ids {calls : List TrustedCall} :
    id ∈ ids calls ↔ ∃ c ∈ calls, ∃ tok, c.generated = some (id, tok) := by
  simp only [ids, List.mem_map, List.mem_filterMap]
  refine ⟨?_, ?_⟩
  · rintro ⟨⟨_, tok⟩, ⟨c, hc, hgen⟩, rfl⟩
    exact ⟨c, hc, tok, hgen⟩
  · rintro ⟨c, hc, tok, hgen⟩
    exact ⟨(id, tok), ⟨c, hc, hgen⟩, rfl⟩

theorem ids_append (calls calls' : List TrustedCall) : ids (calls ++ calls') = ids calls ++ ids calls' := by
  rw [ids, List.filterMap_append, List.map_append, ids, ids]

theorem tokenOf_eq_some {calls : List TrustedCall} (hfresh : FreshIds calls) :
    tokenOf calls id = some token ↔ ∃ before c after, calls = before ++ c :: after ∧
      c.generated = some (id, token) ∧ TrustedCall.revoke id ∉ after := by
  have hlast : tokenOf calls id = some token ↔
      LastWrite.last TrustedCall.effect calls id = some (some token) := by
    unfold tokenOf
    cases LastWrite.last TrustedCall.effect calls id <;> simp
  rw [hlast, LastWrite.last_eq_some_iff]
  refine ⟨?_, ?_⟩
  · rintro ⟨before, c, after, hcalls, hc, hafter⟩
    refine ⟨before, c, after, hcalls, TrustedCall.effect_eq_some.mp hc, ?_⟩
    intro hmem
    exact (TrustedCall.effect_eq_none.mp (hafter _ hmem)).2 rfl
  · rintro ⟨before, c, after, hcalls, hc, hafter⟩
    refine ⟨before, c, after, hcalls, TrustedCall.effect_eq_some.mpr hc, ?_⟩
    intro c' hmem
    refine TrustedCall.effect_eq_none.mpr ⟨?_, fun h => hafter (h ▸ hmem)⟩
    -- a second pairing with this id is excluded
    intro token' hc'
    have hids : id ∈ ids after := mem_ids.mpr ⟨c', hmem, token', hc'⟩
    have hhead : ids (c :: after) = id :: ids after := by
      rw [ids, List.filterMap_cons_some hc, List.map_cons, ids]
    unfold FreshIds at hfresh
    rw [hcalls, ids_append, hhead, List.nodup_middle, List.nodup_cons] at hfresh
    exact hfresh.1 (List.mem_append_right _ hids)

/-- The call is a `pair_device` that returns the id and the token. -/
def Returns (sha256Hex : String → String) (self : TrustedDevices) (c : TrustedCall) (id token : String) :
    Prop :=
  ∃ name appVersion rand uuid now device, c = .pair name appVersion rand uuid now ∧
    (self.pairDevice sha256Hex name appVersion rand uuid now).1 = .ok (device, token) ∧ device.id = id

theorem returns_iff {c : TrustedCall} :
    self.Returns sha256Hex c id token ↔ c.generated = some (id, token) := by
  refine ⟨?_, ?_⟩
  · rintro ⟨name, version, rand, uuid, now, device, rfl, hpair, rfl⟩
    rcases rand with err | tok
    · cases hpair
    · cases hpair
      rfl
  · intro hc
    rcases c with ⟨name, version, err | tok, uuid, now⟩ | ⟨other, tok, now⟩ | other
    · cases hc
    · cases hc
      exact ⟨name, version, .ok token, id, now, _, rfl, rfl, rfl⟩
    · cases hc
    · cases hc

/-- Who is let in: the one the token was given to, until the id is revoked. -/
theorem authenticates_iff {calls : List TrustedCall} (hfresh : FreshIds calls)
    (hinj : Set.InjOn sha256Hex (insert token {t | t ∈ tokens calls})) (now : ℕ) :
    ((after sha256Hex calls).authenticate sha256Hex id token now).1.isSome = true ↔
      ∃ earlier c later, calls = earlier ++ c :: later ∧
        (after sha256Hex earlier).Returns sha256Hex c id token ∧ TrustedCall.revoke id ∉ later := by
  simp only [returns_iff]
  rw [authenticate_isSome (after_distinct calls), after_hashOf, ← tokenOf_eq_some hfresh,
    Option.map_eq_some_iff]
  refine ⟨?_, fun h => ⟨token, h, rfl⟩⟩
  rintro ⟨tok, htok, hhash⟩
  -- the token found is one of the tokens generated, so its hash tells it apart
  obtain ⟨earlier, c, later, hcalls, hc, -⟩ := (tokenOf_eq_some hfresh).mp htok
  have hmem : tok ∈ tokens calls := by
    have hin : c ∈ calls := hcalls ▸ List.mem_append_right _ List.mem_cons_self
    exact List.mem_map.mpr ⟨_, List.mem_filterMap.mpr ⟨c, hin, hc⟩, rfl⟩
  rw [← hinj (Set.mem_insert_of_mem _ hmem) (Set.mem_insert _ _) hhash]
  exact htok

/-! ## Revoked devices -/

theorem call_revoked {c : TrustedCall} (h : RevokedIn id self) (hc : ∀ tok, c.generated ≠ some (id, tok)) :
    RevokedIn id (self.call sha256Hex c) := by
  rcases c with ⟨name, version, err | tok, uuid, now⟩ | ⟨other, tok, now⟩ | other
  · exact h
  · have hne : uuid ≠ id := fun huuid => hc tok (huuid ▸ rfl)
    exact pairDevice_revoked hne h
  · exact authenticate_revoked h
  · exact revoke_keeps h

/-- Every record is of an id that a pairing has generated. -/
theorem ids_generated {calls : List TrustedCall}
    (h : id ∈ (after sha256Hex calls).devices.map TrustedDevice.id) : id ∈ ids calls := by
  have hruns : Trans.Runs (fun s c => some (call sha256Hex s c)) (fun _ c => c ∈ calls) empty calls
      (after sha256Hex calls) := Trans.runs_foldl _ (fun _ hc _ => hc) _
  have hstep : ∀ s c t, s.devices.map TrustedDevice.id ⊆ ids calls → c ∈ calls →
      some (call sha256Hex s c) = some t → t.devices.map TrustedDevice.id ⊆ ids calls := by
    intro s c t hs hc ht k hk
    obtain rfl := Option.some.inj ht
    rcases mem_ids_call hk with hk | ⟨tok, htok⟩
    · exact hs hk
    · exact mem_ids.mpr ⟨c, hc, tok, htok⟩
  exact hruns.inv hstep (List.nil_subset _) h

/-- **A revoked device stays revoked**, whatever calls follow. -/
theorem after_revoked {earlier later : List TrustedCall}
    (hfresh : FreshIds (earlier ++ .revoke id :: later))
    (hrevoked : ((after sha256Hex earlier).revoke id).1 = true) :
    RevokedIn id (after sha256Hex (earlier ++ .revoke id :: later)) := by
  have hmarked : RevokedIn id ((after sha256Hex earlier).revoke id).2 :=
    revoke_revoked (after_distinct earlier) hrevoked
  have hmarked' : RevokedIn id (after sha256Hex (earlier ++ [.revoke id])) := by
    unfold after
    rw [List.foldl_append]
    exact hmarked
  -- the id was generated before, so no later pairing generates it
  have hknown : id ∈ ids earlier := by
    obtain ⟨d, hd, hid⟩ := hmarked'.1
    have hmem := ids_generated (List.mem_map.mpr ⟨d, hd, hid⟩)
    rw [ids_append] at hmem
    exact (List.mem_append.mp hmem).resolve_right (by simp [ids, TrustedCall.generated])
  have hlater : ∀ c ∈ later, ∀ tok, c.generated ≠ some (id, tok) := by
    intro c hc tok hgen
    have hmem : id ∈ ids (.revoke id :: later) := mem_ids.mpr ⟨c, List.mem_cons_of_mem _ hc, tok, hgen⟩
    unfold FreshIds at hfresh
    rw [ids_append, List.nodup_append] at hfresh
    exact hfresh.2.2 id hknown id hmem rfl
  have hruns : Trans.Runs (fun s c => some (call sha256Hex s c))
      (fun _ c => ∀ tok, c.generated ≠ some (id, tok)) (after sha256Hex (earlier ++ [.revoke id])) later
      (later.foldl (call sha256Hex) (after sha256Hex (earlier ++ [.revoke id]))) :=
    Trans.runs_foldl _ (fun c hc _ => hlater c hc) _
  have hend : RevokedIn id (later.foldl (call sha256Hex) (after sha256Hex (earlier ++ [.revoke id]))) :=
    hruns.inv (fun s c t hs hc ht => Option.some.inj ht ▸ call_revoked hs hc) hmarked'
  have happend : later.foldl (call sha256Hex) (after sha256Hex (earlier ++ [.revoke id])) =
      after sha256Hex (earlier ++ .revoke id :: later) := by
    rw [after, after, ← List.foldl_append, List.append_assoc, List.singleton_append]
  exact happend ▸ hend

theorem authenticate_eq_none (h : RevokedIn id self) (now : ℕ) :
    (self.authenticate sha256Hex id token now).1 = none := by
  rcases hauth : self.authenticate sha256Hex id token now with ⟨_ | device, self'⟩
  · rfl
  · exact absurd (authenticate_some hauth).2 (not_holds_of_revokedIn h)

/-- **The store over any sequence of calls** whose pairings generate different ids: where no two tokens have
one hash, it lets in who was given the token and is not revoked since; its ids stay distinct; a call on one
id leaves the others alone; and what was revoked stays so. -/
theorem trusted_devices_map {calls : List TrustedCall} (hfresh : FreshIds calls) :
    (∀ id token now, Set.InjOn sha256Hex (insert token {t | t ∈ tokens calls}) →
      (((after sha256Hex calls).authenticate sha256Hex id token now).1.isSome = true ↔
        ∃ earlier c later, calls = earlier ++ c :: later ∧
          (after sha256Hex earlier).Returns sha256Hex c id token ∧ TrustedCall.revoke id ∉ later)) ∧
      Distinct (after sha256Hex calls) ∧
      (∀ c id, c.id ≠ id →
        ((after sha256Hex calls).call sha256Hex c).records id = (after sha256Hex calls).records id) ∧
      (∀ earlier id later, calls = earlier ++ .revoke id :: later →
        ((after sha256Hex earlier).revoke id).1 = true → ∀ token now,
          ((after sha256Hex calls).authenticate sha256Hex id token now).1 = none) := by
  refine ⟨fun id token now hinj => authenticates_iff hfresh hinj now, after_distinct calls,
    fun c id hne => records_call hne, ?_⟩
  rintro earlier id later rfl hrevoked token now
  exact authenticate_eq_none (after_revoked hfresh hrevoked) now

/-! ### Two devices, one of them revoked -/

def phoneId : String := "7f3c1f0e-5f0a-4c59-9f0e-2f6a1d0b7c11"
def tabletId : String := "b1d0a9a4-0f5e-4c0b-8f39-6b6d5f1f2e22"
def phoneToken : String := "AAAAAAAAAAAAAAAAAAAAAAAAAAAAAAAAAAAAAAAAAAA="
def tabletToken : String := "AQEBAQEBAQEBAQEBAQEBAQEBAQEBAQEBAQEBAQEBAQE="

/-- SHA-256 of the two tokens. -/
def hashTable (token : String) : String :=
  if token = phoneToken then "51643eac9777b63a7b268174d1fd4276daedec9bc9ea0bc6e5abf69047bc54f6"
  else if token = tabletToken then "c57cc3b55d39f9a6f772f508e3821e0a280822352c0d0f0d259fba63b74da9a0"
  else ""

def revokedRun : List TrustedCall :=
  [.pair "phone" none (.ok phoneToken) phoneId 1, .authenticate phoneId phoneToken 2, .revoke phoneId,
    .pair "tablet" (some "1.0") (.ok tabletToken) tabletId 3, .authenticate phoneId phoneToken 4]

theorem trusted_devices_map_revokedRun :
    ((after hashTable revokedRun).authenticate hashTable tabletId tabletToken 5).1.isSome = true ∧
      ∀ token now, ((after hashTable revokedRun).authenticate hashTable phoneId token now).1 = none := by
  have hfresh : FreshIds revokedRun := by decide
  obtain ⟨hiff, -, -, hrevoked⟩ := @trusted_devices_map hashTable _ hfresh
  refine ⟨(hiff tabletId tabletToken 5 ?_).mpr ?_, ?_⟩
  · have hset : insert tabletToken {t | t ∈ tokens revokedRun} = {phoneToken, tabletToken} := by
      have htokens : tokens revokedRun = [phoneToken, tabletToken] := rfl
      ext t
      simp [htokens]
    have hne : hashTable phoneToken ≠ hashTable tabletToken := by decide
    rw [hset, Set.injOn_pair]
    exact fun h => absurd h hne
  · refine ⟨revokedRun.take 3, _, [.authenticate phoneId phoneToken 4], rfl, returns_iff.mpr rfl, ?_⟩
    simp
  · exact hrevoked (revokedRun.take 2) phoneId (revokedRun.drop 3) rfl (by decide)

end TrustedDevices

end Waypad
