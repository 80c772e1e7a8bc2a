import Mathlib.Data.List.Basic
import Mathlib.Data.List.Induction
import Mathlib.Order.Lattice

/-!
# Waypad.Lib.SlidingWindow — at most so many admissions in a sliding window

A limiter keeps the times of what it has admitted, oldest first, and forgets the old ones only when
it is asked.  When a time is `old` is up to the caller; it only has to stay so (`Ages`).

* `ask`: one question; `Entry`: a question and its answer.
* `replay`: the answers that are due, a function of the times of the questions.
* `Tracks`: the bucket has the admitted times that are not old, the answers are the ones that were due,
  and no window holds more admissions than the maximum.
* `Tracks.later`, `Tracks.ask`: time passes, a question is asked.
-/

namespace SlidingWindow

variable {τ : Type*} {old : τ → τ → Bool} {max : ℕ}

/-- Forget what is old; admit while fewer than `max` times are left. -/
def ask (old : τ → τ → Bool) (max : ℕ) (bucket : List τ) (now : τ) : Bool × List τ :=
  let kept := bucket.dropWhile (fun t => old t now)
  if max ≤ kept.length then (false, kept) else (true, kept ++ [now])

/-- A question and its answer. -/
structure Entry (τ : Type*) where
  time : τ
  admitted : Bool
  deriving DecidableEq, Repr

/-- The times that were admitted. -/
def admissions (log : List (Entry τ)) : List τ :=
  (log.filter Entry.admitted).map Entry.time

/-- The admitted times that are not old at `now`. -/
def recent (old : τ → τ → Bool) (log : List (Entry τ)) (now : τ) : List τ :=
  (admissions log).filter (fun t => !old t now)

/-- The answer that is due. -/
def due (old : τ → τ → Bool) (max : ℕ) (log : List (Entry τ)) (now : τ) : Bool :=
  decide ((recent old log now).length < max)

/-- Ask the questions one after another. -/
def replay (old : τ → τ → Bool) (max : ℕ) (times : List τ) : List (Entry τ) :=
  times.foldl (fun log now => log ++ [⟨now, due old max log now⟩]) []

theorem replay_append (times : List τ) (now : τ) :
    replay old max (times ++ [now]) =
      replay old max times ++ [⟨now, due old max (replay old max times) now⟩] := by
  simp [replay]

theorem admissions_append (log : List (Entry τ)) (e : Entry τ) :
    admissions (log ++ [e]) = admissions log ++ (if e.admitted then [e.time] else []) := by
  unfold admissions
  by_cases h : e.admitted <;> simp [h]

/-- In a replayed log every answer is the one due at its time. -/
theorem replay_due {log : List (Entry τ)} (h : replay old max (log.map Entry.time) = log) :
    ∀ pre e post, log = pre ++ e :: post → e.admitted = due old max pre e.time := by
  induction log using List.reverseRecOn with
  | nil =>
    intro pre e post hlog
    simp at hlog
  | append_singleton log last ih =>
    intro pre e post hlog
    rw [List.map_append, List.map_singleton, replay_append] at h
    obtain ⟨hlog', hlast⟩ := List.append_inj' h rfl
    rcases List.eq_nil_or_concat' post with rfl | ⟨post, x, rfl⟩
    · obtain ⟨rfl, he⟩ := List.append_inj' hlog rfl
      obtain rfl : last = e := by simpa using he
      rw [hlog', List.singleton_inj] at hlast
      rw [← hlast]
    · rw [← List.cons_append, ← List.append_assoc] at hlog
      exact ih hlog' pre e post (List.append_inj' hlog rfl).1

variable [LinearOrder τ]

/-- What is old stays old, and what came before it is old as well. -/
structure Ages (old : τ → τ → Bool) : Prop where
  earlier : ∀ t u now, t ≤ u → old u now = true → old t now = true
  later : ∀ t now now', now ≤ now' → old t now = true → old t now' = true

/-- In a list in order the old times are its head. -/
theorem dropWhile_old (ages : Ages old) (now : τ) {ts : List τ} (h : ts.Pairwise (· ≤ ·)) :
    ts.dropWhile (fun t => old t now) = ts.filter (fun t => !old t now) := by
  induction ts with
  | nil => rfl
  | cons t ts ih =>
    rw [List.pairwise_cons] at h
    by_cases ht : old t now = true
    · have hrest := ih h.2
      simpa [ht] using hrest
    · have hkeep : ∀ u ∈ ts, old u now = false := by
        intro u hu
        have hnot : ¬ old u now = true := fun hold => ht (ages.earlier t u now (h.1 u hu) hold)
        simpa using hnot
      have hall : ts.filter (fun t => !old t now) = ts :=
        List.filter_eq_self.mpr (fun u hu => by simp [hkeep u hu])
      simp [ht, hall]

/-- The bucket follows the log: it has every admitted time that is not old. -/
structure Tracks (old : τ → τ → Bool) (max : ℕ) (log : List (Entry τ)) (bucket : List τ) (now : τ) :
    Prop where
  inOrder : bucket.Pairwise (· ≤ ·)
  past : ∀ t ∈ bucket, t ≤ now
  kept : ∀ u, now ≤ u → bucket.filter (fun t => !old t u) = recent old log u
  answers : replay old max (log.map Entry.time) = log
  window : ∀ u, ((admissions log).filter (fun t => decide (t ≤ u) && !old t u)).length ≤ max

namespace Tracks

variable {log : List (Entry τ)} {bucket : List τ} {now now' : τ}

theorem empty (now : τ) : Tracks old max [] [] now :=
  { inOrder := .nil
    past := by simp
    kept := by simp [recent, admissions]
    answers := rfl
    window := by simp [admissions] }

theorem later (h : Tracks old max log bucket now) (hle : now ≤ now') : Tracks old max log bucket now' :=
  { h with
    past := fun t ht => (h.past t ht).trans hle
    kept := fun u hu => h.kept u (hle.trans hu) }

/-- What the limiter counts is what it should count. -/
theorem counts (ages : Ages old) (h : Tracks old max log bucket now) :
    bucket.dropWhile (fun t => old t now) = recent old log now := by
  rw [dropWhile_old ages now h.inOrder, h.kept now le_rfl]

/-- What is not old later was not old before. -/
theorem filter_recent (ages : Ages old) {u : τ} (hle : now ≤ u) (log : List (Entry τ)) :
    (recent old log now).filter (fun t => !old t u) = recent old log u := by
  unfold recent
  rw [List.filter_filter]
  refine List.filter_congr (fun t _ => ?_)
  by_cases hold : old t now = true
  · simp [hold, ages.later t now u hle hold]
  · simp [hold]

/-- One more admission, at `now`, keeps to the maximum in every window. -/
theorem window_ask (ages : Ages old) (h : Tracks old max log bucket now)
    (hroom : (recent old log now).length < max) (u : τ) :
    ((admissions log ++ [now]).filter (fun t => decide (t ≤ u) && !old t u)).length ≤ max := by
  rw [List.filter_append, List.length_append]
  by_cases hin : now ≤ u ∧ old now u = false
  · -- every earlier admission in the window still counts at `now`
    have hsub : ((admissions log).filter (fun t => decide (t ≤ u) && !old t u)).length ≤
        (recent old log now).length := by
      refine (List.monotone_filter_right _ ?_).length_le
      intro t ht
      simp only [Bool.and_eq_true, Bool.not_eq_true'] at ht ⊢
      by_contra hold
      rw [Bool.not_eq_false] at hold
      rw [ages.later t now u hin.1 hold] at ht
      exact absurd ht.2 (by simp)
    have hone : (([now] : List τ).filter (fun t => decide (t ≤ u) && !old t u)).length ≤ 1 :=
      List.length_filter_le _ _
    omega
  · have hnone : ([now] : List τ).filter (fun t => decide (t ≤ u) && !old t u) = [] := by
      rw [List.filter_eq_nil_iff]
      intro t ht hboth
      rw [List.mem_singleton.mp ht] at hboth
      simp only [Bool.and_eq_true, decide_eq_true_eq, Bool.not_eq_true'] at hboth
      exact hin hboth
    have hold := h.window u
    rw [hnone, List.length_nil]
    omega

/-- **A question is asked**: the answer is the one that is due, and the bucket follows on. -/
theorem ask (ages : Ages old) (h : Tracks old max log bucket now) :
    Tracks old max (log ++ [⟨now, (SlidingWindow.ask old max bucket now).1⟩])
      (SlidingWindow.ask old max bucket now).2 now := by
  have hcounts := h.counts ages
  have hsub : (bucket.dropWhile (fun t => old t now)).Sublist bucket := List.dropWhile_sublist _
  have hpast : ∀ t ∈ bucket.dropWhile (fun t => old t now), t ≤ now :=
    fun t ht => h.past t (hsub.subset ht)
  by_cases hfull : max ≤ (bucket.dropWhile (fun t => old t now)).length
  · have hask : SlidingWindow.ask old max bucket now =
        (false, bucket.dropWhile (fun t => old t now)) := if_pos hfull
    have hdue : due old max log now = false := by
      rw [due, ← hcounts]
      simpa using hfull
    have hsame : admissions (log ++ [⟨now, false⟩]) = admissions log := by
      simp [admissions_append]
    rw [hask]
    refine ⟨h.inOrder.sublist hsub, hpast, fun u hu => ?_, ?_, fun u => ?_⟩
    · rw [hcounts, filter_recent ages hu, recent, recent, hsame]
    · rw [List.map_append, List.map_singleton, replay_append, h.answers, hdue]
    · rw [hsame]
      exact h.window u
  · have hask : SlidingWindow.ask old max bucket now =
        (true, bucket.dropWhile (fun t => old t now) ++ [now]) := if_neg hfull
    have hdue : due old max log now = true := by
      rw [due, ← hcounts]
      simpa using hfull
    have hmore : admissions (log ++ [⟨now, true⟩]) = admissions log ++ [now] := by
      simp [admissions_append]
    have hroom : (recent old log now).length < max := by
      rw [← hcounts]
      omega
    rw [hask]
    refine ⟨?_, fun t ht => ?_, fun u hu => ?_, ?_, fun u => ?_⟩
    · refine List.pairwise_append.mpr ⟨h.inOrder.sublist hsub, List.pairwise_singleton _ _, ?_⟩
      intro t ht u hu
      rw [List.mem_singleton.mp hu]
      exact hpast t ht
    · rcases List.mem_append.mp ht with ht | ht
      · exact hpast t ht
      · exact (List.mem_singleton.mp ht).le
    · rw [hcounts, List.filter_append, filter_recent ages hu, recent, recent, hmore,
        List.filter_append]
    · rw [List.map_append, List.map_singleton, replay_append, h.answers, hdue]
    · rw [hmore]
      exact h.window_ask ages hroom u

end Tracks

end SlidingWindow
