import Waypad.Lib.Notify
import Waypad.Lib.Trans

/-!
# Waypad.Input.Pointer — the pointer of the Hyprland backend (`src/input.rs`)

`pointer_move` and `pointer_move_absolute` only say where the cursor should be; a worker task sends the
`movecursor` commands, the latest target each time.  `flush_pointer` waits until the worker has nothing
left to do.  The state is behind a mutex; the two sides wake each other through two `Notify`.

* `HyprlandState.moveTo`: the lock section of a move.
* `PointerDesk.step`: a move, its `notify_one`, and the sections of `flush_pointer` and of
  `run_hyprland_pointer_worker`.

What a coordinate is does not matter: its addition, clamp and rounding are parameters.
-/

namespace Waypad

structure CursorPosition where
  x : Int
  y : Int
  deriving DecidableEq, Repr

/-- The arithmetic of the `f64` coordinates. -/
structure CursorArith (F : Type) where
  add : F → F → F
  /-- `clamp_cursor_f64` -/
  clamp : F → F
  /-- `round() as i64` -/
  round : F → Int

/-- `HyprlandState`, without the remainders that only `scroll` reads. -/
structure HyprlandState (F : Type) where
  cursor : CursorPosition
  cursorX : F
  cursorY : F
  pendingCursor : Option CursorPosition
  inFlightCursor : Option CursorPosition
  pointerInFlight : Bool
  pointerLastError : Option String

namespace HyprlandState

variable {F : Type}

/-- What the lock section of a move comes to. -/
inductive Moved
  /-- an earlier dispatch failed: "Hyprland pointer dispatch failed: .." -/
  | failed (err : String)
  /-- the cursor is there or on its way: `Ok` -/
  | same
  /-- `pending_cursor` is set, and `notify_one` is to come -/
  | set
  deriving DecidableEq, Repr

/-- The lock section of a move to a point. -/
def moveTo (R : CursorArith F) (self : HyprlandState F) (x y : F) : Moved × HyprlandState F :=
  match self.pointerLastError with
  | some err => (.failed err, { self with pointerLastError := none })
  | none =>
    let target : CursorPosition := ⟨R.round x, R.round y⟩
    let latest := (self.pendingCursor.or self.inFlightCursor).getD self.cursor
    if latest = target then (.same, { self with cursorX := x, cursorY := y })
    else (.set, { self with cursorX := x, cursorY := y, pendingCursor := some target })

/-- `pointer_move`. -/
def pointerMove (R : CursorArith F) (self : HyprlandState F) (dx dy : F) : Moved × HyprlandState F :=
  self.moveTo R (R.clamp (R.add self.cursorX dx)) (R.clamp (R.add self.cursorY dy))

/-- `pointer_move_absolute`. -/
def pointerMoveAbsolute (R : CursorArith F) (self : HyprlandState F) (x y : F) :
    Moved × HyprlandState F :=
  self.moveTo R (R.clamp x) (R.clamp y)

/-- The cursor is where it should be: `flush_pointer` may return. -/
def Settled (self : HyprlandState F) : Prop :=
  self.pendingCursor = none ∧ self.pointerInFlight = false

instance (self : HyprlandState F) : Decidable self.Settled :=
  inferInstanceAs (Decidable (_ ∧ _))

/-- The lock section after a dispatch. -/
def dispatched (self : HyprlandState F) (target : CursorPosition) (failure : Option String) :
    HyprlandState F :=
  { self with
    cursor := if failure = none then target else self.cursor
    pointerLastError := failure, pointerInFlight := false, inFlightCursor := none }

end HyprlandState

/-- Where `flush_pointer` is. -/
inductive FlushPhase
  /-- not called -/
  | idle
  /-- before the lock -/
  | check
  /-- at `notified.await` -/
  | waiting
  deriving DecidableEq, Repr

/-- Where `run_hyprland_pointer_worker` is. -/
inductive WorkerPhase
  /-- at `pointer_notify.notified().await` -/
  | waiting
  /-- at the top of the inner loop -/
  | take
  /-- in `hyprland_dispatch` -/
  | dispatching (target : CursorPosition)
  deriving DecidableEq, Repr

structure PointerDesk (F : Type) where
  state : HyprlandState F
  pointerNotify : Notify Unit
  pointerIdleNotify : Notify Unit
  /-- the moves between setting `pending_cursor` and their `notify_one` -/
  notifying : ℕ
  flush : FlushPhase
  worker : WorkerPhase

inductive PointerAction (F : Type)
  | pointerMove (dx dy : F)
  | pointerMoveAbsolute (x y : F)
  /-- `self.pointer_notify.notify_one()` -/
  | notify
  /-- `flush_pointer` is called -/
  | flush
  /-- its lock section -/
  | flushCheck
  /-- it polls `notified` -/
  | flushAwait
  /-- the worker polls `pointer_notify.notified()` -/
  | workerAwait
  /-- its lock section before a dispatch -/
  | workerTake
  /-- the dispatch has returned, and its lock section after it -/
  | workerDone (failure : Option String)

namespace PointerDesk

variable {F : Type}

/-- `HyprlandHyprctlInputBackend::new`, with the cursor position that Hyprland reports. -/
def new (cursor : CursorPosition) (x y : F) : PointerDesk F :=
  { state :=
      { cursor, cursorX := x, cursorY := y, pendingCursor := none, inFlightCursor := none
        pointerInFlight := false, pointerLastError := none }
    pointerNotify := .new, pointerIdleNotify := .new, notifying := 0, flush := .idle
    worker := .waiting }

/-- A move has left its lock section. -/
def moved (self : PointerDesk F) (result : HyprlandState.Moved × HyprlandState F) : PointerDesk F :=
  { self with
    state := result.2, notifying := self.notifying + (if result.1 = .set then 1 else 0) }

/-- `pointer_notify.notify_one()`: a worker that waits is woken. -/
def notifyPointer (self : PointerDesk F) : PointerDesk F :=
  { self with
    pointerNotify := self.pointerNotify.notifyOne.2
    worker := if self.pointerNotify.notifyOne.1.isSome then .take else self.worker }

/-- `pointer_idle_notify.notify_one()`: a flush that waits is woken, and checks again. -/
def notifyIdle (self : PointerDesk F) : PointerDesk F :=
  { self with
    pointerIdleNotify := self.pointerIdleNotify.notifyOne.2
    flush := if self.pointerIdleNotify.notifyOne.1.isSome then .check else self.flush }

def step (R : CursorArith F) (self : PointerDesk F) : PointerAction F → Option (PointerDesk F)
  | .pointerMove dx dy => some (self.moved (self.state.pointerMove R dx dy))
  | .pointerMoveAbsolute x y => some (self.moved (self.state.pointerMoveAbsolute R x y))
  | .notify =>
    if 0 < self.notifying then
      some { self with notifying := self.notifying - 1 }.notifyPointer
    else none
  | .flush => if self.flush = .idle then some { self with flush := .check } else none
  | .flushCheck =>
    -- the flush that finds an error takes it out of the slot
    if self.flush = .check then
      match self.state.pointerLastError with
      | some _ => some { self with
          flush := .idle, state := { self.state with pointerLastError := none } }
      | none => some { self with flush := if self.state.Settled then .idle else .waiting }
    else none
  | .flushAwait =>
    if self.flush = .waiting ∧ self.pointerIdleNotify.waiters = [] then
      some { self with
        pointerIdleNotify := (self.pointerIdleNotify.notified ()).2
        flush := if (self.pointerIdleNotify.notified ()).1 then .check else .waiting }
    else none
  | .workerAwait =>
    if self.worker = .waiting ∧ self.pointerNotify.waiters = [] then
      some { self with
        pointerNotify := (self.pointerNotify.notified ()).2
        worker := if (self.pointerNotify.notified ()).1 then .take else .waiting }
    else none
  | .workerTake =>
    if self.worker = .take then
      match self.state.pendingCursor with
      | none => some { self with
          state := { self.state with pointerInFlight := false, inFlightCursor := none }
          worker := .waiting }.notifyIdle
      | some target => some { self with
          state := { self.state with
            pendingCursor := none, pointerInFlight := true, inFlightCursor := some target }
          worker := .dispatching target }
    else none
  | .workerDone failure =>
    -- a move that came in meanwhile is taken without waiting
    match self.worker with
    | .dispatching target => some { self with
        state := self.state.dispatched target failure
        worker := if self.state.pendingCursor = none then .waiting else .take }.notifyIdle
    | _ => none

end PointerDesk

end Waypad
