import Mathlib.Data.List.Pairwise
import Waypad.Server.Host

/-!
# Waypad.Server.Revocation — `devices revoke` against a running daemon

The store has several copies: the file, the daemon's memory (loaded once by `run`) and the copy of
every `devices revoke` process between its load and its save.  Any of them may become the file.

* `EveryCopy G`: every copy satisfies `G`; kept by every step when `pair_device`, `authenticate` and
  `revoke` keep `G` (`EveryCopy.step`).
* `RevocationFinal`: what a reported revocation should mean.
* `lostRun` breaks it: the daemon never reloads, so its memory still accepts the revoked device, and
  its next save takes the revocation back on disk.
* `revocation_final`: it holds in every run in which, whenever a revoke process saves, the running
  daemon and the other revoke processes already see the device revoked (`RevokeAlone`).
-/

namespace Waypad

/-- The uuid `pair_device` draws in a step. -/
def Act.uuid : Act → Option String
  | .store _ _ uuid _ _ => some uuid
  | _ => none

namespace Host

open TrustedDevices

/-! ## Copies of the store -/

/-- Every copy of the store satisfies `G`. -/
structure EveryCopy (G : TrustedDevices → Prop) (s : Host) : Prop where
  file : G s.loadTrustedDevices
  memory : ∀ d, s.daemon = some d → G d.devices
  revoker : ∀ p id devices, s.revokers p = some (id, devices) → G devices

section Copies

variable {P : Setup} {G : TrustedDevices → Prop} {s t : Host} {a : Act}

/-- A save puts one of the copies, or leaves the file. -/
theorem load_write {old : Option TrustedDevices} {new : TrustedDevices} (save : SaveOutcome)
    (ho : G (old.getD .empty)) (hn : G new) : G ((save.write old (some new)).getD .empty) := by
  cases save with
  | failedBefore => exact ho
  | ok => exact hn
  | failedAfter => exact hn

/-- A step that touches no copy: the daemon only changes in its other fields. -/
theorem EveryCopy.quiet {c : ConnId} {d d' : Daemon} {k : Conn} {phase : Phase}
    (h : EveryCopy G s) (ht : s.task c = some (d, k, phase)) (hd' : t.daemon = some d')
    (hdev : d'.devices = d.devices) (hf : t.trustedFile = s.trustedFile)
    (hr : t.revokers = s.revokers) : EveryCopy G t := by
  refine ⟨?_, ?_, ?_⟩
  · unfold loadTrustedDevices
    rw [hf]
    exact h.file
  · intro e he
    rw [hd', Option.some.injEq] at he
    rw [← he, hdev]
    exact h.memory d (task_eq.mp ht).1
  · rw [hr]
    exact h.revoker

/-- One revoke process changes what it holds. -/
theorem EveryCopy.revoker_update (h : EveryCopy G s) {p : Pid} {v : Option (String × TrustedDevices)}
    (hv : ∀ e, v = some e → G e.2) :
    ∀ q id devices, Function.update s.revokers p v q = some (id, devices) → G devices :=
  fun q id devices => forall_update (I := fun _ e => G e.2) (fun q e _ => h.revoker q e.1 e.2) hv q
    (id, devices)

/-- The daemon changes its store and saves it, or fails to. -/
theorem EveryCopy.saved {d : Daemon} {devices : TrustedDevices} {save : SaveOutcome} {saved : Bool}
    (h : EveryCopy G s) (hmem : G devices) (hd : t.daemon = some d) (hdev : d.devices = devices)
    (hf : t.trustedFile = if saved then save.write s.trustedFile (some devices) else s.trustedFile)
    (hr : t.revokers = s.revokers) : EveryCopy G t := by
  refine ⟨?_, ?_, ?_⟩
  · unfold loadTrustedDevices
    rw [hf]
    split
    · exact load_write save h.file hmem
    · exact h.file
  · intro d' hd'
    rw [hd, Option.some.injEq] at hd'
    rw [← hd', hdev]
    exact hmem
  · rw [hr]
    exact h.revoker

/-- **Every step keeps what the three operations keep.** -/
theorem EveryCopy.step
    (hpair : ∀ devices name version token uuid now, a.uuid = some uuid → G devices →
      G (pairDevice P.sha256Hex devices name version token uuid now).2)
    (hauth : ∀ devices id token now, G devices →
      G (authenticate P.sha256Hex devices id token now).2)
    (hrev : ∀ devices id, G devices → G (revoke devices id).2)
    (h : EveryCopy G s) (ht : Took P s a t) : EveryCopy G t := by
  cases ht with
  | clock => exact ⟨h.file, h.memory, h.revoker⟩
  | pairCode => exact ⟨h.file, h.memory, h.revoker⟩
  | revokeMiss => exact h
  | @revokeLoad p id devices hp hr =>
    -- the process marks its own copy of the file
    have hmarked : G devices := by
      have hfile := hrev _ id h.file
      rwa [hr] at hfile
    refine ⟨h.file, h.memory, h.revoker_update (fun e he => ?_)⟩
    rw [← Option.some.inj he]
    exact hmarked
  | @revokeSave p id devices save hp =>
    -- and puts it over the file, whatever was saved in between
    exact ⟨load_write save h.file (h.revoker p id devices hp), h.memory,
      h.revoker_update (fun e he => by cases he)⟩
  | serve hd =>
    -- the daemon reads the file once
    refine ⟨h.file, ?_, h.revoker⟩
    intro d hd'
    simp only [Option.some.injEq] at hd'
    exact hd' ▸ h.file
  | exit hd => exact ⟨h.file, by simp, h.revoker⟩
  | @detect d _ hd =>
    refine ⟨h.file, ?_, h.revoker⟩
    intro d' hd'
    simp only [Option.some.injEq] at hd'
    subst hd'
    exact h.memory d hd
  | @accept d _ hd =>
    refine ⟨h.file, ?_, h.revoker⟩
    intro d' hd'
    simp only [put_daemon, Option.some.injEq] at hd'
    subst hd'
    exact h.memory d hd
  -- before the store a pairing touches no copy
  | pairRefused ht ha => exact h.quiet ht rfl rfl rfl rfl
  | pairAdmitted ht ha => exact h.quiet ht rfl rfl rfl rfl
  | codeAbsent ht hf => exact h.quiet ht rfl rfl rfl rfl
  | codePresent ht hf => exact h.quiet ht rfl rfl rfl rfl
  | codeRead ht hf => exact h.quiet ht rfl rfl rfl rfl
  | codeUnread ht => exact h.quiet ht rfl rfl rfl rfl
  | codeAccepted ht hv => exact h.quiet ht rfl rfl rfl rfl
  | codeDenied ht hv => exact h.quiet ht rfl rfl rfl rfl
  | codeRemove ht => exact h.quiet ht rfl rfl rfl rfl
  | @store c request d k issue token uuid saveError save response granted devices saved ht hh =>
    have hmem : G devices := by
      rw [handlePairStore_devices hh]
      exact hpair _ _ _ _ _ _ rfl (h.memory d (task_eq.mp ht).1)
    exact h.saved hmem rfl rfl rfl rfl
  | @authRequest c request d k saveError save response granted devices saved ht hh =>
    have hmem : G devices := by
      rw [handleAuth_devices hh]
      exact hauth _ _ _ _ (h.memory d (task_eq.mp ht).1)
    exact h.saved hmem rfl rfl rfl rfl
  | commandRefused ht hn => exact h.quiet ht rfl rfl rfl rfl
  | commandRun ht hn => exact h.quiet ht rfl rfl rfl rfl
  | ping ht => exact h.quiet ht rfl rfl rfl rfl
  | sent ht => exact h.quiet ht rfl rfl rfl rfl
  | sendFailed ht => exact h.quiet ht rfl rfl rfl rfl
  | hangup ht => exact h.quiet ht rfl rfl rfl rfl

theorem EveryCopy.distinct_step (h : EveryCopy Distinct s) (ht : Took P s a t) :
    EveryCopy Distinct t :=
  h.step (fun _ _ _ _ _ _ _ hd => pairDevice_distinct hd)
    (fun _ _ _ _ hd => authenticate_distinct hd) (fun _ _ hd => revoke_distinct hd) ht

/-- A revocation every copy has is kept, as long as no new device draws its id. -/
theorem EveryCopy.revoked_step {id : String} (hfresh : a.uuid ≠ some id)
    (h : EveryCopy (RevokedIn id) s) (ht : Took P s a t) : EveryCopy (RevokedIn id) t := by
  refine h.step ?_ (fun _ _ _ _ hd => authenticate_revoked hd) (fun _ _ hd => revoke_keeps hd) ht
  intro devices name version token uuid now hu hd
  refine pairDevice_revoked ?_ hd
  rintro rfl
  exact hfresh hu

end Copies

/-! ## What a reported revocation should mean -/

/-- Once `devices revoke id` has reported success, no later `auth_request` for `id` is accepted, and
the file shows `id` revoked. -/
def RevocationFinal (s : Host) : Prop :=
  ∀ id,
    s.log.Pairwise (fun e e' => e = .revoked id →
      ∀ c n request, e' = .authAccepted c n request → request.deviceId ≠ id) ∧
    (.revoked id ∈ s.log → RevokedIn id s.loadTrustedDevices)

/-! ## The lost revocation -/

/-- The phone has paired, `devices revoke dev` runs to its end, and the phone authenticates again. -/
def lostRun : List Act :=
  pairingRun ++ [.revokeLoad 1 "dev", .revokeSave 1 .ok,
    .authRequest 0 ⟨"r2", "dev", "token", none⟩ .ok ""]

theorem lostRun_breaks : ∃ s, Trans.run (step demoSetup) init lostRun = some s ∧
    ¬ RevocationFinal s := by
  refine ⟨_, rfl, ?_⟩
  intro h
  have hfile := (h "dev").2 (by decide)
  revert hfile
  decide

/-! ## When a revocation is final -/

/-- The condition on a step: a `devices revoke` reports only when the running daemon and the other
revoke processes already see the device revoked, and no new device draws an id that was revoked. -/
def RevokeAlone (s : Host) : Act → Prop
  | .revokeSave p .ok => ∀ id devices, s.revokers p = some (id, devices) →
    (∀ d, s.daemon = some d → RevokedIn id d.devices) ∧
    ∀ q id' devices', q ≠ p → s.revokers q = some (id', devices') → RevokedIn id devices'
  | .store _ _ uuid _ _ => .revoked uuid ∉ s.log
  | _ => True

/-- The invariant of such runs: reported revocations are in every copy. -/
structure RevocationInv (s : Host) : Prop where
  distinct : EveryCopy Distinct s
  marked : ∀ p id devices, s.revokers p = some (id, devices) → RevokedIn id devices
  everywhere : ∀ id, .revoked id ∈ s.log → EveryCopy (RevokedIn id) s
  order : ∀ id, s.log.Pairwise (fun e e' => e = .revoked id →
    ∀ c n request, e' = .authAccepted c n request → request.deviceId ≠ id)

/-- With the daemon stopped and no other revoke process, the condition is met. -/
theorem revokeAlone_stopped {s : Host} {p : Pid} (hd : s.daemon = none)
    (hr : ∀ q, q ≠ p → s.revokers q = none) : RevokeAlone s (.revokeSave p .ok) := by
  refine fun id devices _ => ⟨by simp [hd], ?_⟩
  intro q id' devices' hq hq'
  rw [hr q hq] at hq'
  cases hq'

theorem RevokeAlone.fresh {s : Host} {a : Act} {id : String} (h : RevokeAlone s a)
    (hid : .revoked id ∈ s.log) : a.uuid ≠ some id := by
  cases a with
  | store c token uuid save err =>
    rintro ⟨⟩
    exact h hid
  | _ => simp [Act.uuid]

theorem revocationInv_init : RevocationInv init := by
  refine ⟨⟨empty_distinct, ?_, ?_⟩, ?_, ?_, ?_⟩ <;> simp [init]

section Inv

variable {P : Setup} {s t : Host} {a : Act}

/-- A revoke process holds a copy in which its own device is revoked. -/
theorem RevocationInv.marked_step (h : RevocationInv s) (ht : Took P s a t) :
    ∀ p id devices, t.revokers p = some (id, devices) → RevokedIn id devices := by
  have hmarked : ∀ p (e : String × TrustedDevices), s.revokers p = some e → RevokedIn e.1 e.2 := by
    intro p e
    exact h.marked p e.1 e.2
  cases ht with
  | @revokeLoad p id devices hp hr =>
    have hrev : (revoke s.loadTrustedDevices id).1 = true →
        RevokedIn id (revoke s.loadTrustedDevices id).2 := revoke_revoked h.distinct.file
    rw [hr] at hrev
    intro q id' devices'
    refine forall_update (fun q e _ => hmarked q e) (fun e he => ?_) q (id', devices')
    rw [← Option.some.inj he]
    exact hrev rfl
  | @revokeSave p id devices save hp =>
    intro q id' devices'
    exact forall_update (I := fun _ e => RevokedIn e.1 e.2) (fun q e _ => hmarked q e)
      (fun e he => absurd he.symm (Option.some_ne_none e)) q (id', devices')
  | _ => exact h.marked

/-- A save that meets `RevokeAlone` and succeeds puts the revocation into every copy. -/
theorem RevocationInv.report (h : RevocationInv s) (hok : RevokeAlone s a) (ht : Took P s a t)
    {p : Pid} {save : SaveOutcome} {id : String} {devices : TrustedDevices}
    (ha : a = .revokeSave p save) (hs : save.isOk = true) (hp : s.revokers p = some (id, devices)) :
    EveryCopy (RevokedIn id) t := by
  have hsave : save = .ok := by cases save <;> simp [SaveOutcome.isOk] at hs ⊢
  subst ha hsave
  obtain ⟨hmem, hothers⟩ := hok id devices hp
  cases ht with
  | @revokeSave _ id' devices' _ hp' =>
    rw [hp, Option.some.injEq, Prod.mk.injEq] at hp'
    obtain ⟨rfl, rfl⟩ := hp'
    refine ⟨h.marked p id devices hp, hmem, ?_⟩
    intro q id' devices'
    exact forall_update (I := fun _ e => RevokedIn id e.2)
      (fun q e hqp => hothers q e.1 e.2 hqp) (fun e he => absurd he.symm (Option.some_ne_none e)) q
      (id', devices')

theorem RevocationInv.everywhere_step (h : RevocationInv s) (hok : RevokeAlone s a)
    (ht : Took P s a t) : ∀ id, .revoked id ∈ t.log → EveryCopy (RevokedIn id) t := by
  intro id hid
  have hold : .revoked id ∈ s.log → EveryCopy (RevokedIn id) t := fun hs =>
    (h.everywhere id hs).revoked_step (hok.fresh hs) ht
  rcases ht.log with hl | ⟨e, hl, hj⟩
  · exact hold (hl ▸ hid)
  · rw [hl, List.mem_append, List.mem_singleton] at hid
    rcases hid with hs | rfl
    · exact hold hs
    · obtain ⟨p, save, devices, ha, hs, hp⟩ := hj
      exact h.report hok ht ha hs hp

/-- A device whose revocation was reported is not accepted: every copy, the daemon's memory too, has it
revoked. -/
theorem RevocationInv.order_step (h : RevocationInv s) (ht : Took P s a t) (id : String) :
    t.log.Pairwise (fun e e' => e = .revoked id →
      ∀ c n request, e' = .authAccepted c n request → request.deviceId ≠ id) := by
  rcases ht.log with hl | ⟨e, hl, hj⟩
  · rw [hl]
    exact h.order id
  · rw [hl, List.pairwise_append]
    refine ⟨h.order id, by simp, ?_⟩
    intro e0 he0 e1 he1 hrev c n request hacc hid
    rw [List.mem_singleton] at he1
    rw [he1] at hacc
    rw [hacc] at hj
    obtain ⟨-, -, d, k, htask, hholds⟩ := hj
    rw [hid] at hholds
    rw [hrev] at he0
    exact not_holds_of_revokedIn ((h.everywhere id he0).memory d (task_eq.mp htask).1) hholds

theorem RevocationInv.step (h : RevocationInv s) (hok : RevokeAlone s a)
    (ht : Took P s a t) : RevocationInv t :=
  ⟨h.distinct.distinct_step ht, h.marked_step ht, h.everywhere_step hok ht, h.order_step ht⟩

end Inv

/-- **Revocation**: in every run whose revoke processes save alone, a reported revocation is final. -/
theorem revocation_final (P : Setup) {as : List Act} {s : Host}
    (hr : Trans.Runs (step P) RevokeAlone init as s) : RevocationFinal s := by
  have hinv : RevocationInv s :=
    hr.inv (fun _ _ _ h hok hs => h.step hok (took_of_step hs)) revocationInv_init
  intro id
  exact ⟨hinv.order id, fun hid => (hinv.everywhere id hid).file⟩

/-- The pairing of `lostRun`, the daemon stopped for the revocation and started again. -/
def stoppedRun : List Act :=
  pairingRun ++ [.exit, .revokeLoad 1 "dev", .revokeSave 1 .ok, .serve .null]

theorem revocation_final_stopped : ∃ s, Trans.run (step demoSetup) init stoppedRun = some s ∧
    .revoked "dev" ∈ s.log ∧ RevocationFinal s := by
  have hmeets : Trans.Meets (step demoSetup) RevokeAlone init stoppedRun := ?_
  · exact ⟨_, rfl, by decide, revocation_final demoSetup (Trans.runs_of_run stoppedRun rfl hmeets)⟩
  have hfresh : Event.revoked "dev" ∉
      [.admitted 0 0 (demoPair "123456"), .codeAccepted 0 0 (demoPair "123456") 0 0] := by decide
  exact ⟨trivial, trivial, trivial, trivial, trivial, trivial, trivial, trivial, hfresh, trivial,
    trivial, trivial, revokeAlone_stopped rfl (fun q hq => Function.update_of_ne hq _ _), trivial,
    trivial⟩

end Host

end Waypad
