import Mathlib.Data.Nat.Init
import Waypad.Signal.Reconnect

/-!
# Waypad.Signal.Backoff — the delays of `run_forever`

The delay doubles from one attempt to the next and goes back to the shortest in one arm of the loop, that of
a session which returns `Ok`.  A session that registered and lost its connection later returns an error.

* `account`: what the notes say of the session that runs or has just ended, and of the delay before it.
* `Account.due`: the delay that is due after it.
* `delay_bounds`: every delay lies between the shortest and the longest.
* `delays_iff`: every delay is the one that is due exactly as long as no session but the first that had
  registered ends with an error and is waited after.
-/

namespace Waypad

/-- What is known of the session that runs or has just ended. -/
structure Account where
  /-- it has completed its registration -/
  registered : Bool
  /-- it has returned an error -/
  failed : Bool
  /-- the delay before it; the first has none -/
  delay : Option ℕ

namespace Account

def first : Account := { registered := false, failed := false, delay := none }

def note (self : Account) : SignalNote → Account
  | .attempt => { self with registered := false, failed := false }
  | .registered => { self with registered := true }
  | .closed => self
  | .failed _ => { self with failed := true }
  | .waited secs => { self with delay := some secs }

/-- Twice the delay before, up to the longest. -/
def doubled (self : Account) : ℕ :=
  match self.delay with
  | none => reconnectMin
  | some secs => min (2 * secs) reconnectMax

/-- The delay after the session: the shortest once it has registered. -/
def due (self : Account) : ℕ := if self.registered then reconnectMin else self.doubled

/-- The session had registered and ended with an error, and it was not the first. -/
def Lapsed (self : Account) : Prop :=
  self.registered = true ∧ self.failed = true ∧ self.delay.isSome = true

instance (self : Account) : Decidable self.Lapsed := by
  unfold Lapsed
  infer_instance

end Account

def account (notes : List SignalNote) : Account := notes.foldl Account.note .first

theorem account_snoc (notes : List SignalNote) (e : SignalNote) :
    account (notes ++ [e]) = (account notes).note e := by
  simp [account]

/-- A delay is the one that is due, and within the bounds. -/
def DelayDue (before : List SignalNote) (e : SignalNote) : Prop :=
  ∀ secs, e = .waited secs →
    secs = (account before).due ∧ reconnectMin ≤ secs ∧ secs ≤ reconnectMax

theorem DelayDue.of_ne {before : List SignalNote} {e : SignalNote} (h : ∀ secs, e ≠ .waited secs) :
    DelayDue before e :=
  fun secs he => absurd he (h secs)

namespace SignalClient

/-- Every delay so far was the one that was due. -/
def DelaysDue (self : SignalClient) : Prop := Trans.Causal DelayDue self.history

/-- A delay is not waited out after a session, other than the first, that had registered and ended with an
error. -/
def Unlapsed (self : SignalClient) : SignalAction → Prop
  | .wake => ¬ (account self.history).Lapsed
  | _ => True

theorem unlapsed_of_ne {s : SignalClient} {a : SignalAction} (ha : a ≠ .wake) : s.Unlapsed a := by
  unfold Unlapsed
  split
  · exact absurd rfl ha
  · trivial

/-- The delay that runs next, as the notes tell it. -/
structure Backed (client : SignalClient) : Prop where
  early : client.phase.Early → (account client.history).registered = false
  relaying : client.phase = .relaying → (account client.history).registered = true
  running : client.phase ≠ .sleeping →
    (account client.history).failed = false ∧ client.backoff = (account client.history).doubled
  sleeping : client.phase = .sleeping →
    ((account client.history).failed = true ∧ client.backoff = (account client.history).doubled) ∨
      ((account client.history).failed = false ∧ (account client.history).registered = true ∧
        client.backoff = reconnectMin)
  bounded : ∀ secs ∈ (account client.history).delay, reconnectMin ≤ secs ∧ secs ≤ reconnectMax

theorem start_backed : start.Backed where
  early := fun _ => rfl
  relaying := nofun
  running := fun _ => ⟨rfl, rfl⟩
  sleeping := nofun
  bounded := nofun

section Step

variable {P : SignalSetup} {s t : SignalClient} {a : SignalAction}

theorem early_running {phase : SignalPhase} (h : phase.Early) :
    phase ≠ .sleeping ∧ phase ≠ .relaying := by
  cases phase <;> first | exact absurd h id | exact ⟨nofun, nofun⟩

/-- Doubling stays within the bounds. -/
theorem doubled_bounds {acc : Account} (h : ∀ secs ∈ acc.delay, reconnectMin ≤ secs ∧ secs ≤ reconnectMax) :
    reconnectMin ≤ acc.doubled ∧ acc.doubled ≤ reconnectMax := by
  unfold Account.doubled
  split
  · show reconnectMin ≤ reconnectMin ∧ reconnectMin ≤ reconnectMax
    unfold reconnectMin reconnectMax
    omega
  · next secs hsecs =>
    obtain ⟨hlow, hhigh⟩ := h secs hsecs
    unfold reconnectMin reconnectMax at *
    omega

/-- The backoff is within the bounds. -/
theorem Backed.bounds (h : s.Backed) : reconnectMin ≤ s.backoff ∧ s.backoff ≤ reconnectMax := by
  have hdoubled := doubled_bounds h.bounded
  by_cases hphase : s.phase = .sleeping
  · rcases h.sleeping hphase with ⟨-, hb⟩ | ⟨-, -, hb⟩
    · rw [hb]
      exact hdoubled
    · rw [hb]
      unfold reconnectMin reconnectMax
      omega
  · rw [(h.running hphase).2]
    exact hdoubled

/-- Before its registration, a session has neither registered nor failed. -/
theorem backed_early (hphase : t.phase.Early) (hregistered : (account t.history).registered = false)
    (hrun : (account t.history).failed = false ∧ t.backoff = (account t.history).doubled)
    (hbounded : ∀ secs ∈ (account t.history).delay, reconnectMin ≤ secs ∧ secs ≤ reconnectMax) :
    t.Backed where
  early := fun _ => hregistered
  relaying := fun hp => absurd hp (early_running hphase).2
  running := fun _ => hrun
  sleeping := fun hp => absurd hp (early_running hphase).1
  bounded := hbounded

theorem backed_relaying (hphase : t.phase = .relaying) (hregistered : (account t.history).registered = true)
    (hrun : (account t.history).failed = false ∧ t.backoff = (account t.history).doubled)
    (hbounded : ∀ secs ∈ (account t.history).delay, reconnectMin ≤ secs ∧ secs ≤ reconnectMax) :
    t.Backed where
  early := fun hp => absurd hphase (early_running hp).2
  relaying := fun _ => hregistered
  running := fun _ => hrun
  sleeping := by
    rw [hphase]
    nofun
  bounded := hbounded

theorem backed_sleeping (hphase : t.phase = .sleeping)
    (hended : ((account t.history).failed = true ∧ t.backoff = (account t.history).doubled) ∨
      ((account t.history).failed = false ∧ (account t.history).registered = true ∧
        t.backoff = reconnectMin))
    (hbounded : ∀ secs ∈ (account t.history).delay, reconnectMin ≤ secs ∧ secs ≤ reconnectMax) :
    t.Backed where
  early := fun hp => absurd hphase (early_running hp).1
  relaying := by
    rw [hphase]
    nofun
  running := fun hp => absurd hphase hp
  sleeping := fun _ => hended
  bounded := hbounded

/-- What the loop does not see. -/
theorem Backed.congr (h : s.Backed) (hhistory : t.history = s.history) (hbackoff : t.backoff = s.backoff)
    (hphase : t.phase = s.phase) : t.Backed := by
  refine { early := ?_, relaying := ?_, running := ?_, sleeping := ?_, bounded := ?_ }
  all_goals rw [hhistory]
  · rw [hphase]
    exact h.early
  · rw [hphase]
    exact h.relaying
  · rw [hphase, hbackoff]
    exact h.running
  · rw [hphase, hbackoff]
    exact h.sleeping
  · exact h.bounded

/-- **The step lemma.** -/
theorem backed_step (h : s.Backed) (hs : s.step P a = some t) : t.Backed := by
  cases turn hs with
  | quiet _ hhistory hbackoff hsame =>
    rcases hsame with hsame | ⟨hearly, hearly'⟩
    · exact h.congr hhistory hbackoff hsame
    · apply backed_early hearly' <;> rw [hhistory]
      · exact h.early hearly
      · rw [hbackoff]
        exact h.running (early_running hearly).1
      · exact h.bounded
  | failed reason _ hrunning hhistory hbackoff hphase =>
    -- the account notes the failure, and the delay stays
    have hacc : account t.history = { account s.history with failed := true } := by
      rw [hhistory, account_snoc]
      rfl
    apply backed_sleeping hphase <;> rw [hacc]
    · exact Or.inl ⟨rfl, hbackoff.trans (h.running hrunning).2⟩
    · exact h.bounded
  | registered _ hearly hhistory hbackoff hphase =>
    have hacc : account t.history = { account s.history with registered := true } := by
      rw [hhistory, account_snoc]
      rfl
    obtain ⟨hfailed, hback⟩ := h.running (early_running hearly).1
    apply backed_relaying hphase <;> rw [hacc]
    · exact ⟨hfailed, hbackoff.trans hback⟩
    · exact h.bounded
  | closed _ hclosing ht =>
    -- a session that was registered ends, and the delay has been reset
    have hrelaying := hclosing.relaying
    have hrun : s.phase ≠ .sleeping := by
      rw [hrelaying]
      nofun
    have hacc : account t.history = account s.history := by
      rw [ht]
      exact account_snoc s.history .closed
    apply backed_sleeping (by rw [ht]; rfl) <;> rw [hacc]
    · exact Or.inr ⟨(h.running hrun).1, h.relaying hrelaying, by rw [ht]; rfl⟩
    · exact h.bounded
  | woken _ _ hhistory hbackoff hphase =>
    -- the new account starts with the delay that was slept
    have hacc : account t.history = { registered := false, failed := false, delay := some s.backoff } := by
      rw [hhistory, ← List.singleton_append, ← List.append_assoc, account_snoc, account_snoc]
      rfl
    apply backed_early (by rw [hphase]; trivial) <;> rw [hacc]
    · refine ⟨rfl, ?_⟩
      rw [hbackoff, Nat.mul_comm]
      rfl
    · rintro secs hsecs
      obtain rfl := Option.some.inj hsecs
      exact h.bounds

/-- Once the session has ended, the backoff is the delay that is due unless the session has lapsed. -/
theorem backoff_due_iff (h : s.Backed) (hphase : s.phase = .sleeping) :
    s.backoff = (account s.history).due ↔ ¬ (account s.history).Lapsed := by
  unfold Account.due Account.Lapsed
  rcases h.sleeping hphase with ⟨hfailed, hb⟩ | ⟨hfailed, hregistered, hb⟩
  · rw [hb, hfailed]
    by_cases hregistered : (account s.history).registered = true
    · rw [if_pos hregistered]
      have hbounded := h.bounded
      unfold Account.doubled
      -- doubled once, a delay is longer than the shortest
      split
      · next hnone => simp [hnone]
      · next secs hsecs =>
        obtain ⟨hlow, hhigh⟩ := hbounded secs hsecs
        simp only [hregistered, hsecs, Option.isSome_some, and_self, not_true_eq_false, iff_false]
        unfold reconnectMin reconnectMax at *
        omega
    · rw [if_neg hregistered]
      exact iff_of_true rfl (fun hl => hregistered hl.1)
  · rw [hb, if_pos hregistered, hfailed]
    exact iff_of_true rfl (by simp)

theorem delays_step (h : s.Backed) (hs : s.step P a = some t) :
    t.DelaysDue ↔ s.DelaysDue ∧ s.Unlapsed a := by
  unfold DelaysDue
  have adds : ∀ e, a ≠ .wake → (∀ secs, e ≠ .waited secs) → t.history = s.history ++ [e] →
      (Trans.Causal DelayDue t.history ↔ Trans.Causal DelayDue s.history ∧ s.Unlapsed a) := by
    intro e ha hne hhistory
    rw [hhistory, Trans.causal_concat, and_iff_left (DelayDue.of_ne hne), and_iff_left (unlapsed_of_ne ha)]
  cases turn hs with
  | quiet ha hhistory _ _ => rw [hhistory, and_iff_left (unlapsed_of_ne ha)]
  | failed reason ha _ hhistory _ _ => exact adds (.failed reason) ha nofun hhistory
  | registered ha _ hhistory _ _ => exact adds .registered ha nofun hhistory
  | closed ha _ ht => exact adds .closed ha nofun (by rw [ht]; rfl)
  | woken ha hphase hhistory _ _ =>
    have hdue : DelayDue s.history (.waited s.backoff) ↔ s.Unlapsed a := by
      rw [ha]
      refine Iff.trans ?_ (backoff_due_iff h hphase)
      refine ⟨fun hd => (hd s.backoff rfl).1, fun hb secs hsecs => ?_⟩
      obtain rfl := SignalNote.waited.inj hsecs
      exact ⟨hb, h.bounds⟩
    rw [hhistory, ← List.singleton_append, ← List.append_assoc, Trans.causal_concat, Trans.causal_concat,
      and_iff_left (DelayDue.of_ne (e := .attempt) nofun), hdue]

end Step

/-! ## Runs -/

section Runs

variable {P : SignalSetup} {s : SignalClient} {actions : List SignalAction}

theorem run_backed (hr : Trans.run (step P) start actions = some s) : s.Backed :=
  (Trans.runs_free actions hr).inv (fun _ _ _ h _ hs => backed_step h hs) start_backed

/-- **The bounds**: whatever the sessions come to, the delay lies between the shortest and the longest. -/
theorem delay_bounds (hr : Trans.run (step P) start actions = some s) :
    reconnectMin ≤ s.backoff ∧ s.backoff ≤ reconnectMax :=
  (run_backed hr).bounds

/-- **The delays**: each is the one that is due exactly as long as no delay is waited out after a session,
other than the first, that had registered and ended with an error. -/
theorem delays_iff (hr : Trans.run (step P) start actions = some s) :
    s.DelaysDue ↔ Trans.Meets (step P) Unlapsed start actions := by
  have h := Trans.iff_meets_of_stays (I := Backed) (fun _ _ _ h hs => backed_step h hs)
    (fun _ _ _ h hs => delays_step h hs) hr start_backed
  rw [h]
  refine and_iff_right ?_
  show Trans.Causal DelayDue ([] ++ [.attempt])
  exact (Trans.causal_nil DelayDue).snoc (DelayDue.of_ne nofun)

end Runs

/-- A session that registered and is closed by the server. -/
def demoLost : List SignalAction := demoSession ++ [.receive .close]

/-- The server is not there, then registers the daemon, then goes away: the daemon waits 4 seconds. -/
theorem delay_kept : ∃ s,
    Trans.run (step demoSignal) start ([.connect (some false), .wake] ++ demoLost ++ [.wake]) = some s ∧
      s.history = [.attempt, .failed "could not reach the signaling server", .waited 2, .attempt,
        .registered, .failed "signaling server closed the connection", .waited 4, .attempt] ∧
      ¬ s.DelaysDue := by
  refine ⟨_, rfl, rfl, ?_⟩
  intro h
  have hdue := (h [.attempt, .failed "could not reach the signaling server", .waited 2, .attempt,
    .registered, .failed "signaling server closed the connection"] (.waited 4) [.attempt] rfl 4 rfl).1
  exact absurd hdue (by decide)

/-- The first session is lost; then the server is not there, twice. -/
theorem delays_demo : ∃ s,
    Trans.run (step demoSignal) start (demoLost ++ [.wake, .connect none, .wake, .connect none, .wake]) =
      some s ∧ s.backoff = 16 ∧ s.DelaysDue := by
  refine ⟨_, rfl, rfl, ?_⟩
  refine (@delays_iff demoSignal _ (demoLost ++ [.wake, .connect none, .wake, .connect none, .wake])
    rfl).mpr ?_
  -- the first delay comes after the first session, the others after sessions that have not registered
  exact ⟨trivial, trivial, trivial, trivial, trivial, trivial, trivial,
    fun h => Bool.false_ne_true h.2.2, trivial, fun h => Bool.false_ne_true h.1, trivial,
    fun h => Bool.false_ne_true h.1, trivial⟩

end SignalClient

end Waypad
