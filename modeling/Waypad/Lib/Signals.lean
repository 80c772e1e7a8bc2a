import Mathlib.Data.List.Nodup

/-!
# Waypad.Lib.Signals — a stream that keeps the signals of one path

A signal is passed to the streams that are open when it is emitted, and to nobody else.

* `SignalStream.listen`, `hear`: a stream is opened; a signal is emitted.
* `on`: the signals of a path in a log; `on_single`: there is one at most where paths do not repeat.
* `Hears`: the stream keeps all signals of a log on its path; `hears_listen`, `Hears.hear`.
-/

/-- The path that a stream listens to and the signals that it has not yielded yet. -/
structure SignalStream (π μ : Type*) where
  path : π
  queue : List μ

namespace SignalStream

variable {π μ : Type*} [DecidableEq π]

/-- A stream that has just been opened. -/
def listen (path : π) : SignalStream π μ := { path, queue := [] }

/-- A signal is emitted. -/
def hear (self : SignalStream π μ) (path : π) (signal : μ) : SignalStream π μ :=
  if path = self.path then { self with queue := self.queue ++ [signal] } else self

/-- The signals of a path. -/
def on (path : π) (log : List (π × μ)) : List μ :=
  (log.filter (fun entry => decide (entry.1 = path))).map Prod.snd

section Log

variable {path : π} {log : List (π × μ)} {signal : μ}

theorem on_snoc (other : π) :
    on path (log ++ [(other, signal)]) = on path log ++ if other = path then [signal] else [] := by
  unfold on
  rw [List.filter_append, List.map_append]
  congr 1
  by_cases h : other = path
  · simp [h]
  · simp [h]

theorem on_none (h : path ∉ log.map Prod.fst) : on path log = [] := by
  unfold on
  rw [List.map_eq_nil_iff, List.filter_eq_nil_iff]
  intro entry hentry heq
  rw [← of_decide_eq_true heq] at h
  exact h (List.mem_map_of_mem hentry)

/-- Where no path comes twice, a signal is the only one of its path. -/
theorem on_single (hlog : (log.map Prod.fst).Nodup) (h : (path, signal) ∈ log) : on path log = [signal] := by
  induction log with
  | nil => cases h
  | cons entry log ih =>
    obtain ⟨hnot, hrest⟩ := List.nodup_cons.mp hlog
    unfold on
    rcases List.mem_cons.mp h with rfl | hmem
    · rw [List.filter_cons_of_pos (by simp), List.map_cons]
      exact congrArg (List.cons signal) (on_none hnot)
    · have hne : entry.1 ≠ path := by
        intro heq
        rw [heq] at hnot
        exact hnot (List.mem_map.mpr ⟨(path, signal), hmem, rfl⟩)
      rw [List.filter_cons_of_neg (by simp [hne])]
      exact ih hrest hmem

/-- What is on a path is in the log. -/
theorem mem_of_on (h : signal ∈ on path log) : (path, signal) ∈ log := by
  obtain ⟨entry, hentry, rfl⟩ := List.mem_map.mp h
  obtain ⟨hmem, hpath⟩ := List.mem_filter.mp hentry
  have hpath : entry.1 = path := of_decide_eq_true hpath
  rwa [← hpath]

end Log

/-- All signals of the log that are on the path wait in the stream. -/
def Hears (self : SignalStream π μ) (log : List (π × μ)) : Prop := self.queue = on self.path log

variable {stream : SignalStream π μ} {log : List (π × μ)}

/-- A stream hears everything from its opening on. -/
theorem hears_listen {path : π} (h : path ∉ log.map Prod.fst) : (listen path : SignalStream π μ).Hears log :=
  (on_none h).symm

@[simp] theorem hear_path (path : π) (signal : μ) : (stream.hear path signal).path = stream.path := by
  unfold hear
  split <;> rfl

theorem Hears.hear (h : stream.Hears log) (path : π) (signal : μ) :
    (stream.hear path signal).Hears (log ++ [(path, signal)]) := by
  unfold Hears
  rw [hear_path, on_snoc]
  unfold SignalStream.hear
  split
  · exact congrArg (· ++ [signal]) h
  · exact h.trans (List.append_nil _).symm

end SignalStream
