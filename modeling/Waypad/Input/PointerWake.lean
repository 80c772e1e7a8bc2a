import Waypad.Input.Pointer

/-!
# Waypad.Input.PointerWake — no wake-up of the pointer is lost (`src/input.rs`)

`flush_pointer` and the worker sleep on each other.  Whatever the order in which targets are set,
`notify_one` is called, and the two look and go to sleep: a target that nobody has been told of is on
the way to a worker that is awake, and a flush that waits has a worker that will still call
`notify_one`.

* `Awake`: the invariant, `awake_step`: every step keeps it.
* `rank_step`: every step of the worker brings its next call of `notify_one` nearer.
-/

namespace Waypad

open Trans

variable {F : Type} {R : CursorArith F}

/-- A step of `run_hyprland_pointer_worker`. -/
def PointerAction.ofWorker : PointerAction F → Bool
  | .workerAwait | .workerTake | .workerDone _ => true
  | _ => false

namespace PointerDesk

/-- The worker is in its inner loop, or has a notification waiting, or one is to come. -/
def Busy (self : PointerDesk F) : Prop :=
  self.worker ≠ .waiting ∨ 0 < self.notifying ∨ self.pointerNotify.permit = true

/-- The worker sleeps. -/
def WorkerParked (self : PointerDesk F) : Prop := self.pointerNotify.waiters ≠ []

/-- The flush sleeps. -/
def FlushParked (self : PointerDesk F) : Prop := self.pointerIdleNotify.waiters ≠ []

/-- Here the worker calls `pointer_idle_notify.notify_one()`. -/
def CallsIdle (self : PointerDesk F) : PointerAction F → Prop
  | .workerTake => self.state.pendingCursor = none
  | .workerDone _ => True
  | _ => False

/-- The worker is not stuck, and calls `pointer_idle_notify.notify_one()` within four of its steps. -/
def WillNotify (R : CursorArith F) (self : PointerDesk F) : Prop :=
  (∃ a t, (a = .notify ∨ a.ofWorker = true) ∧ step R self a = some t) ∧
    ∀ as t, Runs (step R) Free self as t → 4 ≤ as.countP PointerAction.ofWorker →
      At (step R) self as CallsIdle

/-- No wake-up is lost. -/
structure NoLostWakeup (R : CursorArith F) (s : PointerDesk F) : Prop where
  /-- a target is set and its move has returned: the worker is at it, or has a permit -/
  pending : s.state.pendingCursor ≠ none → s.notifying = 0 →
    s.worker ≠ .waiting ∨ s.pointerNotify.permit = true
  /-- a flush waits: it has a permit, or the worker will call `notify_one` -/
  flush : s.flush = .waiting → s.pointerIdleNotify.permit = true ∨ WillNotify R s
  /-- which wakes a flush that sleeps, and leaves a permit to one that does not yet -/
  wakes : ∀ a t, s.CallsIdle a → step R s a = some t →
    (s.FlushParked → t.flush = .check) ∧ (¬ s.FlushParked → t.pointerIdleNotify.permit = true)
  /-- the worker sleeps and no move is to wake it: there is nothing to do, and no flush sleeps -/
  quiet : s.WorkerParked → s.notifying = 0 → s.state.Settled ∧ ¬ s.FlushParked

/-! ## The invariant -/

structure Awake (s : PointerDesk F) : Prop where
  workerParked : s.pointerNotify.waiters = [] ∨ s.pointerNotify.waiters = [()] ∧ s.worker = .waiting
  flushParked : s.pointerIdleNotify.waiters = [] ∨
    s.pointerIdleNotify.waiters = [()] ∧ s.flush = .waiting
  inFlight : s.state.pointerInFlight = true → s.worker ≠ .waiting
  pending : s.state.pendingCursor ≠ none → s.Busy
  flush : s.flush = .waiting → s.pointerIdleNotify.permit = true ∨ s.Busy

theorem awake_new (cursor : CursorPosition) (x y : F) : Awake (new cursor x y) where
  workerParked := Or.inl rfl
  flushParked := Or.inl rfl
  inFlight h := absurd h (by simp [new])
  pending h := absurd rfl h
  flush h := absurd h (by simp [new])

section Steps

variable {s t : PointerDesk F}

/-- What `pointer_notify.notify_one()` does: the worker is awake, or there is a permit. -/
theorem notifyPointer_spec (h : s.pointerNotify.waiters = [] ∨
      s.pointerNotify.waiters = [()] ∧ s.worker = .waiting) :
    s.notifyPointer.pointerNotify.waiters = [] ∧ s.notifyPointer.Busy ∧
      (s.worker ≠ .waiting → s.notifyPointer.worker = s.worker) ∧
      (s.pointerNotify.waiters = [] → s.notifyPointer.worker = s.worker) ∧
      (s.pointerNotify.waiters ≠ [] → s.notifyPointer.worker = .take) := by
  rcases h with h | ⟨h, hw⟩
  · obtain ⟨h1, h2, h3⟩ := Notify.notifyOne_none h
    have hworker : s.notifyPointer.worker = s.worker := by simp [notifyPointer, h1]
    exact ⟨h3, Or.inr (Or.inr h2), fun _ => hworker, fun _ => hworker, fun hne => absurd h hne⟩
  · obtain ⟨h1, h2, h3⟩ := Notify.notifyOne_waiters h
    have hworker : s.notifyPointer.worker = .take := by simp [notifyPointer, h1]
    refine ⟨h3, Or.inl ?_, fun hne => absurd hw hne, fun he => ?_, fun _ => hworker⟩
    · rw [hworker]
      simp
    · rw [h] at he
      simp at he

/-- What `pointer_idle_notify.notify_one()` does: the flush is awake, or there is a permit. -/
theorem notifyIdle_spec (h : s.pointerIdleNotify.waiters = [] ∨
      s.pointerIdleNotify.waiters = [()] ∧ s.flush = .waiting) :
    s.notifyIdle.pointerIdleNotify.waiters = [] ∧
      (s.pointerIdleNotify.waiters ≠ [] → s.notifyIdle.flush = .check) ∧
      (s.pointerIdleNotify.waiters = [] → s.notifyIdle.pointerIdleNotify.permit = true) ∧
      (s.notifyIdle.flush = .waiting → s.notifyIdle.pointerIdleNotify.permit = true) := by
  rcases h with h | ⟨h, hf⟩
  · obtain ⟨h1, h2, h3⟩ := Notify.notifyOne_none h
    exact ⟨h3, fun hne => absurd h hne, fun _ => h2, fun _ => h2⟩
  · obtain ⟨h1, h2, h3⟩ := Notify.notifyOne_waiters h
    have hflush : s.notifyIdle.flush = .check := by simp [notifyIdle, h1]
    refine ⟨h3, fun _ => hflush, fun he => ?_, fun hw => ?_⟩
    · rw [h] at he
      simp at he
    · rw [hflush] at hw
      simp at hw

/-- A call of `pointer_idle_notify.notify_one()` comes last in its step. -/
theorem callsIdle_step {a : PointerAction F} (hs : step R s a = some t) (hc : s.CallsIdle a) :
    ∃ u : PointerDesk F, t = u.notifyIdle ∧ u.pointerIdleNotify = s.pointerIdleNotify ∧
      u.flush = s.flush := by
  cases a with
  | workerTake =>
    have hc : s.state.pendingCursor = none := hc
    simp only [step, hc, Option.ite_none_right_eq_some, Option.some.injEq] at hs
    exact ⟨_, hs.2.symm, rfl, rfl⟩
  | workerDone failure =>
    simp only [step] at hs
    split at hs
    · exact ⟨_, (Option.some.inj hs).symm, rfl, rfl⟩
    · simp at hs
  | _ => exact hc.elim

/-- A move: only a target that is new waits for its `notify_one`. -/
theorem moveTo_spec (state : HyprlandState F) (x y : F) :
    (state.moveTo R x y).2.pointerInFlight = state.pointerInFlight ∧
      ((state.moveTo R x y).1 = .set ∨
        (state.moveTo R x y).2.pendingCursor = state.pendingCursor) := by
  unfold HyprlandState.moveTo
  split
  · exact ⟨rfl, Or.inr rfl⟩
  · dsimp only
    split
    · exact ⟨rfl, Or.inr rfl⟩
    · exact ⟨rfl, Or.inl rfl⟩

theorem awake_moved (h : Awake s) (x y : F) : Awake (s.moved (s.state.moveTo R x y)) := by
  obtain ⟨hflight, hpending⟩ := moveTo_spec (R := R) s.state x y
  have hbusy : s.Busy → (s.moved (s.state.moveTo R x y)).Busy := by
    rintro (hb | hb | hb)
    · exact Or.inl hb
    · exact Or.inr (Or.inl (Nat.lt_of_lt_of_le hb (Nat.le_add_right _ _)))
    · exact Or.inr (Or.inr hb)
  refine ⟨h.workerParked, h.flushParked, fun hf => h.inFlight (hflight ▸ hf), fun hp => ?_,
    fun hf => (h.flush hf).imp_right hbusy⟩
  rcases hpending with hset | hsame
  · exact Or.inr (Or.inl (by simp [moved, hset]))
  · exact hbusy (h.pending (hsame ▸ hp))

theorem awake_notify (h : Awake s) :
    Awake { s with notifying := s.notifying - 1 }.notifyPointer := by
  obtain ⟨hnil, hbusy, hkeep, -, -⟩ :=
    notifyPointer_spec (s := { s with notifying := s.notifying - 1 }) h.workerParked
  exact ⟨Or.inl hnil, h.flushParked, fun hf => by rw [hkeep (h.inFlight hf)]; exact h.inFlight hf,
    fun _ => hbusy, fun _ => Or.inr hbusy⟩

/-- A flush that goes to sleep saw a target, or one in flight: the worker is at work. -/
theorem awake_flushCheck (h : Awake s) (hs : step R s .flushCheck = some t) : Awake t := by
  simp only [step, Option.ite_none_right_eq_some] at hs
  obtain ⟨hcheck, hs⟩ := hs
  have hawake : s.pointerIdleNotify.waiters = [] :=
    h.flushParked.resolve_right (fun hw => by simp [hcheck] at hw)
  split at hs
  · obtain rfl := (Option.some.inj hs).symm
    exact ⟨h.workerParked, Or.inl hawake, h.inFlight, h.pending, fun hf => by simp at hf⟩
  · obtain rfl := (Option.some.inj hs).symm
    refine ⟨h.workerParked, Or.inl hawake, h.inFlight, h.pending, fun hf => Or.inr ?_⟩
    have hsettled : ¬ s.state.Settled := fun hset => by simp [hset] at hf
    by_cases hp : s.state.pendingCursor = none
    · have hflight : s.state.pointerInFlight = true := by
        by_contra hfl
        exact hsettled ⟨hp, by simpa using hfl⟩
      exact Or.inl (h.inFlight hflight)
    · exact h.pending hp

theorem awake_flushAwait (h : Awake s) (hs : step R s .flushAwait = some t) : Awake t := by
  simp only [step, Option.ite_none_right_eq_some, Option.some.injEq] at hs
  obtain ⟨⟨hwait, hnil⟩, rfl⟩ := hs
  by_cases hp : s.pointerIdleNotify.permit = true
  · obtain ⟨h1, -, h3⟩ := Notify.notified_permit () hp
    exact ⟨h.workerParked, Or.inl h3, h.inFlight, h.pending, fun hf => by simp [h1] at hf⟩
  · obtain ⟨h1, -, h3⟩ := Notify.notified_wait () (by simpa using hp)
    refine ⟨h.workerParked, Or.inr ⟨by simpa [hnil] using h3, by simp [h1]⟩, h.inFlight, h.pending,
      fun _ => Or.inr ?_⟩
    exact (h.flush hwait).resolve_left hp

/-- The worker takes its permit, or goes to sleep with a `notify_one` to come. -/
theorem awake_workerAwait (h : Awake s) (hs : step R s .workerAwait = some t) : Awake t := by
  simp only [step, Option.ite_none_right_eq_some, Option.some.injEq] at hs
  obtain ⟨⟨hwait, hnil⟩, rfl⟩ := hs
  by_cases hp : s.pointerNotify.permit = true
  · obtain ⟨h1, -, h3⟩ := Notify.notified_permit () hp
    have hbusy : ({ s with
        pointerNotify := (s.pointerNotify.notified ()).2
        worker := if (s.pointerNotify.notified ()).1 then WorkerPhase.take else .waiting } :
        PointerDesk F).Busy := Or.inl (by simp [h1])
    exact ⟨Or.inl h3, h.flushParked, fun _ => by simp [h1], fun _ => hbusy, fun _ => Or.inr hbusy⟩
  · obtain ⟨h1, -, h3⟩ := Notify.notified_wait () (by simpa using hp)
    have hnotifying : s.Busy → 0 < s.notifying := by
      rintro (hb | hb | hb)
      · exact absurd hwait hb
      · exact hb
      · exact absurd hb hp
    exact ⟨Or.inr ⟨by simpa [hnil] using h3, by simp [h1]⟩, h.flushParked,
      fun hf => absurd hwait (h.inFlight hf),
      fun hpend => Or.inr (Or.inl (hnotifying (h.pending hpend))),
      fun hf => (h.flush hf).imp_right (fun hb => Or.inr (Or.inl (hnotifying hb)))⟩

/-- After `pointer_idle_notify.notify_one()` no flush sleeps. -/
theorem awake_notifyIdle (hw : s.pointerNotify.waiters = [])
    (hf : s.pointerIdleNotify.waiters = [] ∨
      s.pointerIdleNotify.waiters = [()] ∧ s.flush = .waiting)
    (hi : s.state.pointerInFlight = false) (hp : s.state.pendingCursor ≠ none → s.worker ≠ .waiting) :
    Awake s.notifyIdle := by
  obtain ⟨hnil, -, -, hpermit⟩ := notifyIdle_spec hf
  exact ⟨Or.inl hw, Or.inl hnil, fun h => absurd (hi.symm.trans h) (by simp),
    fun h => Or.inl (hp h), fun h => Or.inl (hpermit h)⟩

theorem awake_workerTake (h : Awake s) (hs : step R s .workerTake = some t) : Awake t := by
  simp only [step, Option.ite_none_right_eq_some] at hs
  obtain ⟨htake, hs⟩ := hs
  have hawake : s.pointerNotify.waiters = [] :=
    h.workerParked.resolve_right (fun hw => by simp [htake] at hw)
  split at hs
  · next hnone =>
    obtain rfl := (Option.some.inj hs).symm
    exact awake_notifyIdle hawake h.flushParked rfl (fun hp => absurd hnone hp)
  · obtain rfl := (Option.some.inj hs).symm
    exact ⟨Or.inl hawake, h.flushParked, fun _ => by simp, fun _ => Or.inl (by simp),
      fun _ => Or.inr (Or.inl (by simp))⟩

theorem awake_workerDone (h : Awake s) {failure : Option String}
    (hs : step R s (.workerDone failure) = some t) : Awake t := by
  simp only [step] at hs
  split at hs
  · next target hworker =>
    obtain rfl := (Option.some.inj hs).symm
    have hawake : s.pointerNotify.waiters = [] :=
      h.workerParked.resolve_right (fun hw => by simp [hworker] at hw)
    exact awake_notifyIdle hawake h.flushParked rfl
      (fun hp => by simp [show s.state.pendingCursor ≠ none from hp])
  · simp at hs

/-- Every step keeps the invariant. -/
theorem awake_step {a : PointerAction F} (h : Awake s) (hs : step R s a = some t) : Awake t := by
  cases a with
  | pointerMove dx dy =>
    obtain rfl := (Option.some.inj hs).symm
    exact awake_moved h _ _
  | pointerMoveAbsolute x y =>
    obtain rfl := (Option.some.inj hs).symm
    exact awake_moved h _ _
  | notify =>
    simp only [step, Option.ite_none_right_eq_some, Option.some.injEq] at hs
    exact hs.2 ▸ awake_notify h
  | flush =>
    -- a flush that has not begun is not parked
    simp only [step, Option.ite_none_right_eq_some, Option.some.injEq] at hs
    obtain ⟨hidle, rfl⟩ := hs
    have hawake : s.pointerIdleNotify.waiters = [] :=
      h.flushParked.resolve_right (fun hw => by simp [hidle] at hw)
    exact ⟨h.workerParked, Or.inl hawake, h.inFlight, h.pending, fun hf => by simp at hf⟩
  | flushCheck => exact awake_flushCheck h hs
  | flushAwait => exact awake_flushAwait h hs
  | workerAwait => exact awake_workerAwait h hs
  | workerTake => exact awake_workerTake h hs
  | workerDone failure => exact awake_workerDone h hs

/-! ## The worker gets to its next `notify_one` -/

/-- The steps of the worker before its next `notify_one`, at most. -/
def rank (self : PointerDesk F) : ℕ :=
  match self.worker with
  | .dispatching _ => 1
  | .take => 2
  | .waiting => if self.pointerNotify.waiters = [] then 4 else 3

theorem rank_pos (s : PointerDesk F) : 0 < s.rank := by
  unfold rank
  split
  · omega
  · omega
  · split <;> omega

theorem rank_le (s : PointerDesk F) : s.rank ≤ 4 := by
  unfold rank
  split
  · omega
  · omega
  · split <;> omega

theorem rank_congr (hw : t.worker = s.worker)
    (hn : t.pointerNotify.waiters = s.pointerNotify.waiters) : t.rank = s.rank := by
  simp [rank, hw, hn]

theorem rank_take (h : s.worker = .take) : s.rank = 2 := by
  simp [rank, h]

/-- A worker that waits is at least three steps from its next call. -/
theorem rank_waiting (h : s.worker = .waiting) : 3 ≤ s.rank := by
  simp only [rank, h]
  split <;> omega

theorem rank_notify (h : Awake s) :
    ({ s with notifying := s.notifying - 1 } : PointerDesk F).notifyPointer.rank ≤ s.rank := by
  obtain ⟨hnil, -, -, hkeep, hwake⟩ :=
    notifyPointer_spec (s := { s with notifying := s.notifying - 1 }) h.workerParked
  by_cases hp : s.pointerNotify.waiters = []
  · exact Nat.le_of_eq (rank_congr (hkeep hp) (hnil.trans hp.symm))
  · have hwaiting := (h.workerParked.resolve_left hp).2
    rw [rank_take (hwake hp)]
    have := rank_waiting hwaiting
    omega

theorem rank_workerAwait (hs : step R s .workerAwait = some t) : t.rank + 1 ≤ s.rank := by
  simp only [step, Option.ite_none_right_eq_some, Option.some.injEq] at hs
  obtain ⟨⟨hwait, hnil⟩, rfl⟩ := hs
  have hfour : s.rank = 4 := by simp [rank, hwait, hnil]
  by_cases hp : s.pointerNotify.permit = true
  · have h1 := (Notify.notified_permit () hp).1
    rw [hfour, rank_take (by simp [h1])]
    omega
  · obtain ⟨h1, -, h3⟩ := Notify.notified_wait () (by simpa using hp)
    rw [hfour]
    simp [rank, h1, h3]

/-- A step calls `notify_one`, or the worker has come nearer to it by its own steps. -/
theorem rank_step {a : PointerAction F} (h : Awake s) (hs : step R s a = some t) :
    s.CallsIdle a ∨ t.rank + (if a.ofWorker then 1 else 0) ≤ s.rank := by
  cases a with
  | pointerMove dx dy =>
    obtain rfl := (Option.some.inj hs).symm
    exact Or.inr (Nat.le_of_eq (rank_congr rfl rfl))
  | pointerMoveAbsolute x y =>
    obtain rfl := (Option.some.inj hs).symm
    exact Or.inr (Nat.le_of_eq (rank_congr rfl rfl))
  | notify =>
    simp only [step, Option.ite_none_right_eq_some, Option.some.injEq] at hs
    obtain ⟨-, rfl⟩ := hs
    exact Or.inr (rank_notify h)
  | flush =>
    simp only [step, Option.ite_none_right_eq_some, Option.some.injEq] at hs
    obtain ⟨-, rfl⟩ := hs
    exact Or.inr (Nat.le_of_eq (rank_congr rfl rfl))
  | flushCheck =>
    simp only [step, Option.ite_none_right_eq_some] at hs
    obtain ⟨-, hs⟩ := hs
    right
    split at hs <;>
    · obtain rfl := (Option.some.inj hs).symm
      exact Nat.le_of_eq (rank_congr rfl rfl)
  | flushAwait =>
    simp only [step, Option.ite_none_right_eq_some, Option.some.injEq] at hs
    obtain ⟨-, rfl⟩ := hs
    exact Or.inr (Nat.le_of_eq (rank_congr rfl rfl))
  | workerAwait => exact Or.inr (rank_workerAwait hs)
  | workerTake =>
    simp only [step, Option.ite_none_right_eq_some] at hs
    obtain ⟨htake, hs⟩ := hs
    split at hs
    · -- the worker found nothing and the calls may go on
      next hnone => exact Or.inl hnone
    · obtain rfl := (Option.some.inj hs).symm
      rw [rank_take htake]
      exact Or.inr (Nat.le_of_eq rfl)
  | workerDone failure => exact Or.inl trivial

/-- Over a run: `notify_one` is called, or the worker has used up its steps. -/
theorem rank_runs {as : List (PointerAction F)} (hr : Runs (step R) Free s as t) (h : Awake s) :
    Awake t ∧ (At (step R) s as CallsIdle ∨ t.rank + as.countP PointerAction.ofWorker ≤ s.rank) := by
  induction hr with
  | nil => exact ⟨h, Or.inr (by simp)⟩
  | @snoc t u as a hr _ hs ih =>
    obtain ⟨hawake, hcalls⟩ := ih
    refine ⟨awake_step hawake hs, ?_⟩
    rcases hcalls with hcalls | hcount
    · exact Or.inl (hcalls.append [a])
    · rcases rank_step hawake hs with hcall | hle
      · exact Or.inl (hr.at_last hs hcall)
      · right
        rw [List.countP_append, List.countP_singleton]
        omega

/-- A worker at work is not stuck. -/
theorem progress (R : CursorArith F) (h : s.Busy) :
    ∃ a t, (a = .notify ∨ a.ofWorker = true) ∧ step R s a = some t := by
  have henabled : ∃ a : PointerAction F,
      (a = .notify ∨ a.ofWorker = true) ∧ (step R s a).isSome = true := by
    cases hw : s.worker with
    | take =>
      refine ⟨.workerTake, Or.inr rfl, ?_⟩
      cases hp : s.state.pendingCursor <;> simp [step, hw, hp]
    | dispatching target => exact ⟨.workerDone none, Or.inr rfl, by simp [step, hw]⟩
    | waiting =>
      rcases h with hb | hb | hb
      · exact absurd hw hb
      · exact ⟨.notify, Or.inl rfl, by simp [step, hb]⟩
      · exact ⟨.workerAwait, Or.inr rfl, by simp [step, hw, s.pointerNotify.exclusive hb]⟩
  obtain ⟨a, ha, hsome⟩ := henabled
  obtain ⟨t, ht⟩ := Option.isSome_iff_exists.mp hsome
  exact ⟨a, t, ha, ht⟩

theorem willNotify (h : Awake s) (hb : s.Busy) : WillNotify R s := by
  refine ⟨progress R hb, ?_⟩
  intro as t hr hfour
  rcases (rank_runs hr h).2 with hcalls | hcount
  · exact hcalls
  · have := rank_pos t
    have := rank_le s
    omega

/-- A state with the invariant loses no wake-up. -/
theorem Awake.noLostWakeup (h : Awake s) : NoLostWakeup R s where
  pending hp hn := by
    rcases h.pending hp with hb | hb | hb
    · exact Or.inl hb
    · omega
    · exact Or.inr hb
  flush hf := (h.flush hf).imp_right (willNotify h)
  wakes a t hc hs := by
    obtain ⟨u, rfl, hidle, hflush⟩ := callsIdle_step hs hc
    obtain ⟨-, hwake, hpermit, -⟩ := notifyIdle_spec (s := u) (hidle ▸ hflush ▸ h.flushParked)
    exact ⟨fun hp => hwake (hidle ▸ hp), fun hp => hpermit (hidle ▸ not_not.mp hp)⟩
  quiet hw hn := by
    have hwaiting := (h.workerParked.resolve_left hw).2
    have hidle : ¬ s.Busy := by
      rintro (hb | hb | hb)
      · exact hb hwaiting
      · omega
      · exact hw (s.pointerNotify.exclusive hb)
    refine ⟨⟨not_not.mp (fun hp => hidle (h.pending hp)), ?_⟩, fun hf => ?_⟩
    · -- a move in flight is with a worker, and this one waits
      by_contra hflight
      exact h.inFlight (by simpa using hflight) hwaiting
    · have hpermit := (h.flush (h.flushParked.resolve_left hf).2).resolve_right hidle
      exact hf (s.pointerIdleNotify.exclusive hpermit)

end Steps

theorem Runs.awake {cursor : CursorPosition} {x y : F} {as : List (PointerAction F)}
    {s : PointerDesk F} (hr : Runs (step R) Free (new cursor x y) as s) : Awake s :=
  hr.inv (I := Awake) (fun _ _ _ h _ hs => awake_step h hs) (awake_new cursor x y)

/-- However moves, flushes and the worker interleave, no wake-up is lost. -/
theorem no_lost_wakeup {cursor : CursorPosition} {x y : F} {as : List (PointerAction F)}
    {s : PointerDesk F} (hr : Runs (step R) Free (new cursor x y) as s) : NoLostWakeup R s :=
  (Runs.awake hr).noLostWakeup

/-- Coordinates that are whole numbers. -/
def wholeArith : CursorArith Int := { add := (· + ·), clamp := id, round := id }

/-- A flush sleeps while the worker dispatches the target it is to wait for. -/
theorem no_lost_wakeup_flush :
    ∃ s, run (step wholeArith) (new ⟨0, 0⟩ 0 0)
        [.workerAwait, .pointerMove 3 4, .notify, .workerTake, .flush, .flushCheck, .flushAwait] =
        some s ∧
      s.FlushParked ∧ WillNotify wholeArith s := by
  refine ⟨_, rfl, ?_, ?_⟩
  · show [()] ≠ []
    simp
  · have hno := @no_lost_wakeup Int wholeArith ⟨0, 0⟩ 0 0 _ _
      (runs_free
        [.workerAwait, .pointerMove 3 4, .notify, .workerTake, .flush, .flushCheck, .flushAwait] rfl)
    exact (hno.flush rfl).resolve_left (by decide)

end PointerDesk

end Waypad
