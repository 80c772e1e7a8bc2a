import Waypad.Lib.Trans

/-!
# Waypad.Lib.LastWrite — state that the last writer determines

Each action writes some of the cells: `effect a k` is what `a` leaves in the cell `k`, `none` when it does
not touch it.  `last effect as k` is what the actions `as` leave there.

* `last_eq_some_iff`: which action it is; `last_ne`, `last_const`: what it cannot and what it must leave.
* `Leaves`: what one step, or several, keep and write.
* `runs_leaves`: when every step writes what its action says, so does a run.
-/

namespace LastWrite

variable {α κ β : Type*} {effect : α → κ → Option β}

/-- What the last of the actions that touch the cell leaves in it. -/
def last (effect : α → κ → Option β) : List α → κ → Option β
  | [], _ => none
  | a :: as, k => (last effect as k).or (effect a k)

theorem last_append (as bs : List α) (k : κ) :
    last effect (as ++ bs) k = (last effect bs k).or (last effect as k) := by
  induction as with
  | nil => simp [last]
  | cons a as ih => rw [List.cons_append, last, ih, last, Option.or_assoc]

@[simp] theorem last_singleton (a : α) (k : κ) : last effect [a] k = effect a k := rfl

/-- Later actions win over earlier ones. -/
theorem last_append_getD (as bs : List α) (k : κ) (b : β) :
    (last effect (as ++ bs) k).getD b = (last effect bs k).getD ((last effect as k).getD b) := by
  rw [last_append]
  cases last effect bs k <;> rfl

/-- Actions made of smaller ones. -/
theorem last_flatMap {γ : Type*} (f : γ → List α) (cs : List γ) (k : κ) :
    last effect (cs.flatMap f) k = last (fun c => last effect (f c)) cs k := by
  induction cs with
  | nil => rfl
  | cons c cs ih => rw [List.flatMap_cons, last_append, ih, last]

/-- A reading of what the actions write, for some of the cells. -/
theorem last_map {ι γ : Type*} (f : β → γ) (g : ι → κ) (as : List α) (i : ι) :
    last (fun a i => (effect a (g i)).map f) as i = (last effect as (g i)).map f := by
  induction as with
  | nil => rfl
  | cons a as ih =>
    rw [last, last, ih]
    cases last effect as (g i) <;> rfl

/-- No action touches the cell. -/
theorem last_none {as : List α} {k : κ} (h : ∀ a ∈ as, effect a k = none) : last effect as k = none := by
  induction as with
  | nil => rfl
  | cons a as ih =>
    rw [last, ih (fun c hc => h c (List.mem_cons_of_mem a hc)), h a List.mem_cons_self]
    rfl

theorem last_none_iff {as : List α} {k : κ} : last effect as k = none ↔ ∀ a ∈ as, effect a k = none := by
  refine ⟨?_, last_none⟩
  intro h a ha
  induction as with
  | nil => cases ha
  | cons c as ih =>
    rw [last, Option.or_eq_none_iff] at h
    rcases List.mem_cons.mp ha with rfl | ha
    · exact h.2
    · exact ih h.1 ha

/-- Some action leaves `b` there, and none of the later ones touches the cell. -/
theorem last_eq_some_iff {as : List α} {k : κ} {b : β} : last effect as k = some b ↔
    ∃ before a after, as = before ++ a :: after ∧ effect a k = some b ∧ ∀ c ∈ after, effect c k = none := by
  refine ⟨?_, ?_⟩
  · intro h
    induction as with
    | nil => cases h
    | cons a as ih =>
      rw [last] at h
      by_cases hlater : last effect as k = some b
      · obtain ⟨before, c, after, rfl, hc, hafter⟩ := ih hlater
        exact ⟨a :: before, c, after, rfl, hc, hafter⟩
      · have hnone : last effect as k = none := by
          rcases hlast : last effect as k with _ | b'
          · rfl
          · rw [hlast, Option.some_or] at h
            exact absurd (hlast.trans h) hlater
        rw [hnone, Option.none_or] at h
        exact ⟨[], a, as, rfl, h, last_none_iff.mp hnone⟩
  · rintro ⟨before, a, after, rfl, ha, hafter⟩
    rw [last_append, last, last_none hafter, ha]
    rfl

/-- No action leaves `b` there. -/
theorem last_ne {as : List α} {k : κ} {b : β} (h : ∀ a ∈ as, effect a k ≠ some b) :
    last effect as k ≠ some b := by
  intro hlast
  obtain ⟨before, a, after, rfl, ha, -⟩ := last_eq_some_iff.mp hlast
  exact h a (List.mem_append_right before List.mem_cons_self) ha

/-- All actions that touch the cell leave the same there. -/
theorem last_const {as : List α} {k : κ} {b : β} (h : ∀ a ∈ as, effect a k = none ∨ effect a k = some b)
    (hsome : ∃ a ∈ as, effect a k = some b) : last effect as k = some b := by
  rcases hlast : last effect as k with _ | b'
  · obtain ⟨a, ha, he⟩ := hsome
    rw [last_none_iff.mp hlast a ha] at he
    cases he
  · obtain ⟨before, a, after, rfl, ha, -⟩ := last_eq_some_iff.mp hlast
    rcases h a (List.mem_append_right before List.mem_cons_self) with hnone | hb
    · rw [hnone] at ha
      cases ha
    · exact ha.symm.trans hb

/-- The step from `s` to `t` keeps `I`, and writes the cells as `effect` says. -/
structure Leaves {σ : Type*} (I : σ → Prop) (read : σ → κ → β) (s t : σ)
    (effect : κ → Option β) : Prop where
  inv : I t
  cells : ∀ k, read t k = (effect k).getD (read s k)

namespace Leaves

variable {σ : Type*} {I : σ → Prop} {read : σ → κ → β} {s t u : σ} {e1 e2 : κ → Option β}

theorem refl (h : I s) : Leaves I read s s (fun _ => none) :=
  { inv := h, cells := fun _ => rfl }

theorem trans (h1 : Leaves I read s t e1) (h2 : Leaves I read t u e2) :
    Leaves I read s u (fun k => (e2 k).or (e1 k)) := by
  refine { inv := h2.inv, cells := fun k => ?_ }
  rw [h2.cells, h1.cells]
  cases e2 k <;> rfl

theorem congr (h : Leaves I read s t e1) (heq : ∀ k, e1 k = e2 k) : Leaves I read s t e2 :=
  { inv := h.inv, cells := fun k => heq k ▸ h.cells k }

end Leaves

/-- **Runs**: the last state holds what the run has left in each cell. -/
theorem runs_leaves {σ : Type*} {step : σ → α → Option σ} {ok : σ → α → Prop} {I : σ → Prop}
    {read : σ → κ → β}
    (hstep : ∀ s a t, I s → ok s a → step s a = some t → Leaves I read s t (effect a))
    {s t : σ} {as : List α} (hr : Trans.Runs step ok s as t) (h0 : I s) :
    Leaves I read s t (last effect as) := by
  induction hr with
  | nil => exact Leaves.refl h0
  | snoc _ hok hs ih =>
    refine (ih.trans (hstep _ _ _ ih.inv hok hs)).congr (fun k => ?_)
    rw [last_append, last_singleton]

end LastWrite
