import Waypad.Input.PointerWake

/-!
# Waypad.Input.PointerStale — where the cursor is when a flush has returned (`src/input.rs`)

A failed `movecursor` leaves its error in `pointer_last_error`, and the next call to find it returns it.
What is called after that is not told again.

* `PointerNotes`: the moves and dispatches as an observer sees them, `note`.
* `Traced`: the state against the notes, `traced_step`.
* `flushResult`: what `flush_pointer` returns.
* `flushed_elsewhere`: the second flush after a failed dispatch returns `Ok`.
* `flush_told`: when a flush returns `Ok`, the cursor is where the last move wanted it, or a call has
  returned the error of the dispatch there.
-/

namespace Waypad

open Trans

/-- What has been seen of the moves and the dispatches. -/
structure PointerNotes where
  /-- the target of the last accepted move that changed the target -/
  wanted : Option CursorPosition
  /-- the target of the last dispatch that succeeded -/
  reached : Option CursorPosition
  /-- the target of the dispatch whose error nobody has returned yet -/
  failed : Option CursorPosition
  /-- the target of the dispatch whose error a call has returned since `wanted` was set -/
  told : Option CursorPosition
  deriving DecidableEq, Repr

namespace PointerNotes

def new : PointerNotes := { wanted := none, reached := none, failed := none, told := none }

/-- A call returns the error. -/
def tells (self : PointerNotes) : PointerNotes := { self with failed := none, told := self.failed }

/-- A move has left its lock section. -/
def moved {F : Type} (self : PointerNotes) (result : HyprlandState.Moved × HyprlandState F) : PointerNotes :=
  match result.1 with
  | .set => { self with wanted := result.2.pendingCursor, told := none }
  | .same => self
  | .failed _ => self.tells

/-- A dispatch has returned. -/
def dispatched (self : PointerNotes) (target : CursorPosition) : Option String → PointerNotes
  | none => { self with reached := some target, failed := none }
  | some _ => { self with failed := some target }

end PointerNotes

variable {F : Type} {R : CursorArith F}

namespace PointerDesk

def note (R : CursorArith F) (b : PointerNotes) (s : PointerDesk F) : PointerAction F → PointerNotes
  | .pointerMove dx dy => b.moved (s.state.pointerMove R dx dy)
  | .pointerMoveAbsolute x y => b.moved (s.state.pointerMoveAbsolute R x y)
  | .flushCheck => if s.state.pointerLastError.isSome then b.tells else b
  | .workerDone failure =>
    match s.worker with
    | .dispatching target => b.dispatched target failure
    | _ => b
  | _ => b

/-- What `flush_pointer` returns at its lock section, if it does. -/
def flushResult (self : PointerDesk F) : Option (Except String Unit) :=
  if self.flush = .check then
    match self.state.pointerLastError with
    | some err => some (.error err)
    | none => if self.state.Settled then some (.ok ()) else none
  else none

/-- The lock section of `flush_pointer` ends the call when it has something to return. -/
theorem flushResult_step {s t : PointerDesk F} (hs : step R s .flushCheck = some t) :
    t.flush = .idle ↔ s.flushResult.isSome = true := by
  simp only [step, Option.ite_none_right_eq_some] at hs
  obtain ⟨hcheck, hs⟩ := hs
  split at hs
  · next err herr =>
    obtain rfl := (Option.some.inj hs).symm
    rw [flushResult, if_pos hcheck, herr]
    simp
  · next hnone =>
    obtain rfl := (Option.some.inj hs).symm
    rw [flushResult, if_pos hcheck, hnone]
    by_cases hsettled : s.state.Settled <;> simp [hsettled]

/-- Nothing is on its way to the cursor: what has become of the last target. -/
def Arrived (b : PointerNotes) (w : CursorPosition) : Prop :=
  (b.failed = none ∧ (b.reached = some w ∨ b.told = some w)) ∨ b.failed = some w

/-- The state and the notes. -/
structure Traced (s : PointerDesk F) (b : PointerNotes) : Prop where
  slot : b.failed = none ↔ s.state.pointerLastError = none
  pending : ∀ p, s.state.pendingCursor = some p → b.wanted = some p
  flight : ∀ p, s.worker = .dispatching p → s.state.pointerInFlight = true
  /-- the last target is to be dispatched, is being dispatched, or has been -/
  wanted : ∀ w, b.wanted = some w → s.state.pendingCursor = none →
    s.worker = .dispatching w ∨ (∀ p, s.worker ≠ .dispatching p) ∧ Arrived b w

section Steps

variable {s t : PointerDesk F} {b : PointerNotes}

theorem traced_new (cursor : CursorPosition) (x y : F) : Traced (new cursor x y) .new :=
  { slot := iff_of_true rfl rfl, pending := nofun, flight := nofun, wanted := nofun }

/-- Traces do not depend on what wakes whom. -/
theorem Traced.congr (h : Traced s b) (hstate : t.state = s.state)
    (hworker : ∀ p, t.worker = .dispatching p ↔ s.worker = .dispatching p) : Traced t b := by
  refine { slot := ?_, pending := ?_, flight := ?_, wanted := ?_ }
  · rw [hstate]
    exact h.slot
  · rw [hstate]
    exact h.pending
  · intro p hp
    rw [hstate]
    exact h.flight p ((hworker p).mp hp)
  · intro w hw hnone
    rw [hstate] at hnone
    refine (h.wanted w hw hnone).imp (hworker w).mpr (And.imp_left ?_)
    exact fun hnot p hp => hnot p ((hworker p).mp hp)

/-- A call returns the error. -/
theorem traced_tells (h : Traced s b) {err : String} (herr : s.state.pointerLastError = some err)
    (hslot : t.state.pointerLastError = none) (hpending : t.state.pendingCursor = s.state.pendingCursor)
    (hflight : t.state.pointerInFlight = s.state.pointerInFlight) (hworker : t.worker = s.worker) :
    Traced t b.tells := by
  have hfailed : b.failed ≠ none := fun hnone => by
    rw [h.slot.mp hnone] at herr
    cases herr
  refine { slot := iff_of_true rfl hslot, pending := ?_, flight := ?_, wanted := ?_ }
  · rw [hpending]
    exact h.pending
  · rw [hworker, hflight]
    exact h.flight
  · intro w hw hnone
    rw [hpending] at hnone
    rw [hworker]
    refine (h.wanted w hw hnone).imp_right (And.imp_right ?_)
    rintro (⟨hnot, -⟩ | hlast)
    · exact absurd hnot hfailed
    · exact Or.inl ⟨rfl, Or.inr hlast⟩

/-- A move. -/
theorem traced_moved (h : Traced s b) (x y : F) :
    Traced (s.moved (s.state.moveTo R x y)) (b.moved (s.state.moveTo R x y)) := by
  unfold HyprlandState.moveTo
  cases herr : s.state.pointerLastError with
  | some err => exact traced_tells h herr rfl rfl rfl rfl
  | none =>
    dsimp only
    split
    · exact { slot := h.slot.trans (by rw [herr]; rfl), pending := h.pending, flight := h.flight
              wanted := h.wanted }
    · refine { slot := ?_, pending := ?_, flight := h.flight, wanted := ?_ }
      · exact h.slot.trans (by rw [herr]; rfl)
      · intro p hp
        exact hp
      · intro w hw hnone
        cases hnone

theorem traced_notify (h : Traced s b) (hawake : Awake s) :
    Traced { s with notifying := s.notifying - 1 }.notifyPointer b := by
  obtain ⟨-, -, hkeep, hparked, hwake⟩ :=
    notifyPointer_spec (s := { s with notifying := s.notifying - 1 }) hawake.workerParked
  refine h.congr rfl (fun p => ?_)
  by_cases hw : s.worker = .waiting
  · -- a worker that waits is not dispatching, woken or not
    have hnot : s.worker ≠ .dispatching p := fun hp => by
      rw [hw] at hp
      cases hp
    refine iff_of_false (fun hp => ?_) hnot
    by_cases hwaiters : s.pointerNotify.waiters = []
    · exact hnot ((hparked hwaiters).symm.trans hp)
    · cases (hwake hwaiters).symm.trans hp
  · rw [hkeep hw]

theorem traced_flushCheck (h : Traced s b) (hs : step R s .flushCheck = some t) :
    Traced t (note R b s .flushCheck) := by
  simp only [step, Option.ite_none_right_eq_some] at hs
  obtain ⟨-, hs⟩ := hs
  unfold note
  split at hs
  · next err herr =>
    obtain rfl := (Option.some.inj hs).symm
    rw [herr]
    exact traced_tells h herr rfl rfl rfl rfl
  · next hnone =>
    obtain rfl := (Option.some.inj hs).symm
    rw [hnone]
    exact h.congr rfl (fun _ => Iff.rfl)

theorem traced_workerTake (h : Traced s b) (hs : step R s .workerTake = some t) : Traced t b := by
  simp only [step, Option.ite_none_right_eq_some] at hs
  obtain ⟨htake, hs⟩ := hs
  split at hs
  · -- nothing is pending, so what is wanted has arrived or is with the worker
    next hnone =>
    obtain rfl := (Option.some.inj hs).symm
    refine { slot := h.slot, pending := h.pending, flight := ?_, wanted := ?_ }
    · rintro p hp
      cases hp
    intro w hw _
    rcases h.wanted w hw hnone with hdispatching | ⟨-, harrived⟩
    · rw [htake] at hdispatching
      cases hdispatching
    · refine Or.inr ⟨?_, harrived⟩
      rintro p hp
      cases hp
  · next target hsome =>
    obtain rfl := (Option.some.inj hs).symm
    refine { slot := h.slot, pending := ?_, flight := fun _ _ => rfl, wanted := ?_ }
    · rintro p hp
      cases hp
    intro w hw _
    obtain rfl := Option.some.inj ((h.pending target hsome).symm.trans hw)
    exact Or.inl rfl

theorem traced_workerDone (h : Traced s b) {failure : Option String}
    (hs : step R s (.workerDone failure) = some t) : Traced t (note R b s (.workerDone failure)) := by
  simp only [step] at hs
  split at hs
  · next target hworker =>
    obtain rfl := (Option.some.inj hs).symm
    unfold note
    rw [hworker]
    have hidle : ∀ p, (if s.state.pendingCursor = none then WorkerPhase.waiting else .take) ≠
        .dispatching p := by
      rintro p hp
      split_ifs at hp
    have hlast : ∀ w, b.wanted = some w → s.state.pendingCursor = none → w = target := by
      intro w hw hnone
      rcases h.wanted w hw hnone with hdispatching | ⟨hnot, -⟩
      · exact WorkerPhase.dispatching.inj (hdispatching.symm.trans hworker)
      · exact absurd hworker (hnot target)
    cases failure with
    | none =>
      refine { slot := iff_of_true rfl rfl, pending := h.pending, flight := ?_, wanted := ?_ }
      · exact fun p hp => absurd hp (hidle p)
      · intro w hw hnone
        obtain rfl := hlast w hw hnone
        exact Or.inr ⟨hidle, Or.inl ⟨rfl, Or.inl rfl⟩⟩
    | some err =>
      refine { slot := iff_of_false (Option.some_ne_none _) (Option.some_ne_none _)
               pending := h.pending, flight := ?_, wanted := ?_ }
      · exact fun p hp => absurd hp (hidle p)
      · intro w hw hnone
        obtain rfl := hlast w hw hnone
        exact Or.inr ⟨hidle, Or.inr rfl⟩
  · cases hs

/-- **The step lemma.** -/
theorem traced_step {a : PointerAction F} (h : Traced s b) (hawake : Awake s) (hs : step R s a = some t) :
    Traced t (note R b s a) := by
  cases a with
  | pointerMove dx dy =>
    obtain rfl := (Option.some.inj hs).symm
    exact traced_moved h _ _
  | pointerMoveAbsolute x y =>
    obtain rfl := (Option.some.inj hs).symm
    exact traced_moved h _ _
  | notify =>
    simp only [step, Option.ite_none_right_eq_some, Option.some.injEq] at hs
    exact hs.2 ▸ traced_notify h hawake
  | flush =>
    simp only [step, Option.ite_none_right_eq_some, Option.some.injEq] at hs
    obtain ⟨-, rfl⟩ := hs
    exact h.congr rfl (fun _ => Iff.rfl)
  | flushCheck => exact traced_flushCheck h hs
  | flushAwait =>
    simp only [step, Option.ite_none_right_eq_some, Option.some.injEq] at hs
    obtain ⟨-, rfl⟩ := hs
    exact h.congr rfl (fun _ => Iff.rfl)
  | workerAwait =>
    simp only [step, Option.ite_none_right_eq_some, Option.some.injEq] at hs
    obtain ⟨⟨hwait, -⟩, rfl⟩ := hs
    refine h.congr rfl (fun p => iff_of_false (fun hp => ?_) (fun hp => ?_))
    · dsimp only at hp
      split at hp <;> cases hp
    · rw [hwait] at hp
      cases hp
  | workerTake => exact traced_workerTake h hs
  | workerDone failure => exact traced_workerDone h hs

end Steps

/-- The notes on a run. -/
def notes (R : CursorArith F) (start : PointerDesk F) (as : List (PointerAction F)) : PointerNotes :=
  record (step R) (note R) .new start as

theorem Runs.traced {cursor : CursorPosition} {x y : F} {as : List (PointerAction F)} {s : PointerDesk F}
    (hr : Runs (step R) Free (new cursor x y) as s) : Traced s (notes R (new cursor x y) as) := by
  have hboth : Awake s ∧ Traced s (notes R (new cursor x y) as) :=
    hr.recorded (I := fun s b => Awake s ∧ Traced s b)
      (fun _ _ _ _ h _ hs => ⟨awake_step h.1 hs, traced_step h.2 h.1 hs⟩)
      ⟨awake_new cursor x y, traced_new cursor x y⟩
  exact hboth.2

/-! ## A flush that is not told -/

/-- A dispatch fails, and two commands flush the pointer. -/
def failedRun : List (PointerAction Int) :=
  [.workerAwait, .pointerMove 3 4, .notify, .workerTake, .workerDone (some "busy"), .flush, .flushCheck, .flush]

/-- **The cursor is elsewhere**: the second flush returns `Ok`, and nothing has moved the cursor. -/
theorem flushed_elsewhere : ∃ s, run (step wholeArith) (new ⟨0, 0⟩ 0 0) failedRun = some s ∧
    s.flushResult = some (.ok ()) ∧
    (notes wholeArith (new ⟨0, 0⟩ 0 0) failedRun).wanted = some ⟨3, 4⟩ ∧
    (notes wholeArith (new ⟨0, 0⟩ 0 0) failedRun).reached = none :=
  ⟨_, rfl, rfl, rfl, rfl⟩

/-- **After a flush**: when it returns `Ok`, the last dispatch that succeeded is for the target of the last
accepted move that changed the target, or a call has returned the error of a dispatch for that target since
that move; otherwise it returns an error. -/
theorem flush_told {cursor : CursorPosition} {x y : F} {as : List (PointerAction F)} {s : PointerDesk F}
    (hr : Runs (step R) Free (new cursor x y) as s) {result : Except String Unit}
    (hresult : s.flushResult = some result) :
    (∃ err, result = .error err) ∨
      result = .ok () ∧ ∀ w, (notes R (new cursor x y) as).wanted = some w →
        (notes R (new cursor x y) as).reached = some w ∨ (notes R (new cursor x y) as).told = some w := by
  have htraced := Runs.traced hr
  simp only [flushResult, Option.ite_none_right_eq_some] at hresult
  obtain ⟨-, hresult⟩ := hresult
  split at hresult
  · next err herr =>
    exact Or.inl ⟨err, (Option.some.inj hresult).symm⟩
  · next hslot =>
    simp only [Option.ite_none_right_eq_some, Option.some.injEq] at hresult
    obtain ⟨⟨hpending, hflight⟩, rfl⟩ := hresult
    refine Or.inr ⟨rfl, fun w hw => ?_⟩
    rcases htraced.wanted w hw hpending with hdispatching | ⟨-, ⟨-, harrived⟩ | hfailed⟩
    · rw [htraced.flight w hdispatching] at hflight
      cases hflight
    · exact harrived
    · rw [htraced.slot.mpr hslot] at hfailed
      cases hfailed

/-- A dispatch succeeds before the flush. -/
def reachedRun : List (PointerAction Int) :=
  [.workerAwait, .pointerMove 3 4, .notify, .workerTake, .workerDone none, .flush]

theorem flush_told_demo : ∃ s, run (step wholeArith) (new ⟨0, 0⟩ 0 0) reachedRun = some s ∧
    s.flushResult = some (.ok ()) ∧
    (notes wholeArith (new ⟨0, 0⟩ 0 0) reachedRun).reached = some ⟨3, 4⟩ := by
  refine ⟨_, rfl, rfl, ?_⟩
  have hruns : Runs (step wholeArith) Free (new ⟨0, 0⟩ 0 0) reachedRun _ :=
    runs_free reachedRun rfl
  rcases flush_told hruns rfl with ⟨err, herr⟩ | ⟨-, hwanted⟩
  · cases herr
  · refine (hwanted ⟨3, 4⟩ rfl).resolve_right (fun htold => ?_)
    exact absurd htold (by decide)

end PointerDesk

end Waypad
