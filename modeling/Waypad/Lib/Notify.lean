import Mathlib.Data.List.Basic

/-!
# Waypad.Lib.Notify — a notification that is not lost

`notify_one` wakes the task that has waited longest; when no task waits it leaves a permit, at most
one, and the next task that would wait takes it and goes on.

* `notifyOne`, `notified`: the two operations.
* `notifyOne_waiters`, `notifyOne_none`, `notified_permit`, `notified_wait`: what each does.
-/

/-- A `Notify` and the tasks that wait for it; nobody waits while there is a permit. -/
structure Notify (ω : Type*) where
  permit : Bool
  waiters : List ω
  exclusive : permit = true → waiters = []

namespace Notify

variable {ω : Type*}

/-- `Notify::new()`. -/
def new : Notify ω := { permit := false, waiters := [], exclusive := fun _ => rfl }

/-- `notify_one`: the task it wakes, if any. -/
def notifyOne (self : Notify ω) : Option ω × Notify ω :=
  match self.waiters with
  | task :: rest => (some task, { permit := false, waiters := rest, exclusive := by simp })
  | [] => (none, { permit := true, waiters := [], exclusive := fun _ => rfl })

/-- The first poll of `notified().await`: whether the task goes on. -/
def notified (self : Notify ω) (task : ω) : Bool × Notify ω :=
  if self.permit then (true, { permit := false, waiters := self.waiters, exclusive := by simp })
  else (false, { permit := false, waiters := self.waiters ++ [task], exclusive := by simp })

section Operations

variable {n : Notify ω} {rest : List ω}

@[simp] theorem new_permit : (new : Notify ω).permit = false := rfl

@[simp] theorem new_waiters : (new : Notify ω).waiters = [] := rfl

/-- A task that waits is woken. -/
theorem notifyOne_waiters {task : ω} (h : n.waiters = task :: rest) :
    n.notifyOne.1 = some task ∧ n.notifyOne.2.permit = false ∧ n.notifyOne.2.waiters = rest := by
  unfold notifyOne
  split
  · next task' rest' h' =>
    obtain ⟨rfl, rfl⟩ := List.cons.inj (h'.symm.trans h)
    exact ⟨rfl, rfl, rfl⟩
  · next h' => exact absurd (h'.symm.trans h) (by simp)

/-- No task waits: the notification stays. -/
theorem notifyOne_none (h : n.waiters = []) :
    n.notifyOne.1 = none ∧ n.notifyOne.2.permit = true ∧ n.notifyOne.2.waiters = [] := by
  unfold notifyOne
  split
  · next h' => exact absurd (h'.symm.trans h) (by simp)
  · exact ⟨rfl, rfl, rfl⟩

/-- A permit is taken. -/
theorem notified_permit (task : ω) (h : n.permit = true) :
    (n.notified task).1 = true ∧ (n.notified task).2.permit = false ∧
      (n.notified task).2.waiters = [] := by
  unfold notified
  rw [if_pos h]
  exact ⟨rfl, rfl, n.exclusive h⟩

/-- Without a permit the task waits. -/
theorem notified_wait (task : ω) (h : n.permit = false) :
    (n.notified task).1 = false ∧ (n.notified task).2.permit = false ∧
      (n.notified task).2.waiters = n.waiters ++ [task] := by
  unfold notified
  rw [if_neg (by simp [h])]
  exact ⟨rfl, rfl, rfl⟩

end Operations

end Notify
