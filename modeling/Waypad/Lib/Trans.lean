import Mathlib.Data.List.Basic

/-!
# Waypad.Lib.Trans — runs of a system whose step is a partial function

A system is a function `step : σ → α → Option σ`: `none` when the action is not enabled.

* `run step s as`: the state after the actions `as`, computable, for concrete runs.
* `Runs step ok s as t`: the run `as` leads from `s` to `t` and every one of its steps meets `ok` in
  the state it is taken in.  `ok := Free` puts no condition on the steps.
* `runs_foldl`: where every action is enabled, a run is a fold.
* `Runs.inv`: what holds at the start and is kept by every step of the run holds at its end.
* `Runs.origin`: a fact that holds at the end and not at the start became true at one step of the run;
  `At`, `Runs.moment` say so for the steps that can bring it about.
* `Always`, `always_iff_meets`, `iff_meets_of_stays`: when all states of a run, or its last one, meet a
  property.
* `Causal Q log`: every entry of a log is explained, in the sense of `Q`, by the entries before it.
* `record step note`: what an observer of a run has noted down, which the system does not read.
-/

namespace Trans

variable {σ α : Type*} {step : σ → α → Option σ} {ok ok' : σ → α → Prop}

/-- The state after the actions, `none` as soon as one of them is not enabled. -/
def run (step : σ → α → Option σ) : σ → List α → Option σ
  | s, [] => some s
  | s, a :: as => (step s a).bind (fun t => run step t as)

/-- No condition on the steps of a run. -/
def Free (_ : σ) (_ : α) : Prop := True

/-- The run `as` from `s` to `t`, every step of which meets `ok`. -/
inductive Runs (step : σ → α → Option σ) (ok : σ → α → Prop) : σ → List α → σ → Prop
  | nil (s : σ) : Runs step ok s [] s
  | snoc {s t u : σ} {as : List α} {a : α} :
      Runs step ok s as t → ok t a → step t a = some u → Runs step ok s (as ++ [a]) u

theorem Runs.mono (h : ∀ s a, ok s a → ok' s a) {s t : σ} {as : List α}
    (hr : Runs step ok s as t) : Runs step ok' s as t := by
  induction hr with
  | nil => exact .nil _
  | snoc _ hok hs ih => exact .snoc ih (h _ _ hok) hs

theorem Runs.free {s t : σ} {as : List α} (hr : Runs step ok s as t) :
    Runs step Free s as t :=
  hr.mono (fun _ _ _ => trivial)

theorem Runs.trans {s t u : σ} {as bs : List α} (h1 : Runs step ok s as t)
    (h2 : Runs step ok t bs u) : Runs step ok s (as ++ bs) u := by
  induction h2 with
  | nil => simpa using h1
  | snoc _ hok hs ih =>
    rw [← List.append_assoc]
    exact .snoc ih hok hs

theorem Runs.one {s t : σ} {a : α} (hok : ok s a) (hs : step s a = some t) :
    Runs step ok s [a] t :=
  Runs.snoc (.nil s) hok hs

/-- Every step of the computed run meets `ok`. -/
def Meets (step : σ → α → Option σ) (ok : σ → α → Prop) : σ → List α → Prop
  | _, [] => True
  | s, a :: as => ok s a ∧
    match step s a with
    | some t => Meets step ok t as
    | none => True

instance decidableMeets [hok : ∀ s a, Decidable (ok s a)] : ∀ s as, Decidable (Meets step ok s as)
  | _, [] => .isTrue trivial
  | s, a :: as =>
    match hs : step s a with
    | some t =>
      have := decidableMeets t as
      decidable_of_iff (ok s a ∧ Meets step ok t as) (by rw [Meets, hs])
    | none => decidable_of_iff (ok s a ∧ True) (by rw [Meets, hs])

/-- A computed run whose steps meet `ok` is a run. -/
theorem runs_of_run : ∀ (as : List α) {s t : σ}, run step s as = some t → Meets step ok s as →
    Runs step ok s as t
  | [], s, t, h, _ => by
    simp only [run, Option.some.injEq] at h
    exact h ▸ .nil s
  | a :: as, s, t, h, hm => by
    simp only [run, Option.bind_eq_some_iff] at h
    obtain ⟨u, hu, hr⟩ := h
    obtain ⟨hok, hrest⟩ := hm
    rw [hu] at hrest
    exact (Runs.one hok hu).trans (runs_of_run as hr hrest)

theorem run_append (s : σ) (as bs : List α) :
    run step s (as ++ bs) = (run step s as).bind (fun t => run step t bs) := by
  induction as generalizing s with
  | nil => rfl
  | cons a as ih =>
    simp only [List.cons_append, run]
    cases step s a with
    | none => rfl
    | some u => exact ih u

theorem run_nil (s : σ) : run step s [] = some s := rfl

theorem run_cons {s t u : σ} {a : α} {as : List α} (hs : step s a = some t)
    (hr : run step t as = some u) : run step s (a :: as) = some u := by
  rw [run, hs, Option.bind_some, hr]

/-- When every action is enabled everywhere, a run does not stop. -/
theorem run_isSome (hstep : ∀ s a, (step s a).isSome = true) (s : σ) (as : List α) :
    (run step s as).isSome = true := by
  induction as generalizing s with
  | nil => rfl
  | cons a as ih =>
    obtain ⟨t, ht⟩ := Option.isSome_iff_exists.mp (hstep s a)
    rw [run, ht]
    exact ih t

/-- A run is computed by `run`, so it is determined by its actions. -/
theorem Runs.run_eq {s t : σ} {as : List α} (hr : Runs step ok s as t) :
    run step s as = some t := by
  induction hr with
  | nil => rfl
  | snoc _ _ hs ih => simp [run_append, ih, run, hs]

/-- A condition on the actions alone. -/
theorem meets_of_mem {as : List α} (h : ∀ a ∈ as, ∀ s, ok s a) (s : σ) : Meets step ok s as := by
  induction as generalizing s with
  | nil => trivial
  | cons a as ih =>
    refine ⟨h a List.mem_cons_self s, ?_⟩
    split
    · exact ih (fun b hb => h b (List.mem_cons_of_mem a hb)) _
    · trivial

theorem meets_free (s : σ) (as : List α) : Meets step Free s as :=
  meets_of_mem (fun _ _ _ => trivial) s

/-- A computed run is a run, with no condition on its steps. -/
theorem runs_free {s t : σ} (as : List α) (h : run step s as = some t) : Runs step Free s as t :=
  runs_of_run as h (meets_free s as)

/-- Actions that are always enabled. -/
theorem runs_foldl (f : σ → α → σ) {as : List α} (h : ∀ a ∈ as, ∀ s, ok s a) (s : σ) :
    Runs (fun t a => some (f t a)) ok s as (as.foldl f s) := by
  refine runs_of_run as ?_ (meets_of_mem h s)
  clear h
  induction as generalizing s with
  | nil => rfl
  | cons a as ih => exact ih (f s a)

/-- Every state of the computed run meets `P`. -/
def Always (step : σ → α → Option σ) (P : σ → Prop) : σ → List α → Prop
  | s, [] => P s
  | s, a :: as => P s ∧
    match step s a with
    | some t => Always step P t as
    | none => True

/-- **Exactness rule**: when a step keeps `P` exactly if it meets `ok`, all states of a run meet `P` exactly
if all its steps meet `ok`. -/
theorem always_iff_meets {P : σ → Prop} (hstep : ∀ s a t, P s → step s a = some t → (P t ↔ ok s a))
    {s : σ} {as : List α} (hrun : (run step s as).isSome = true) (h0 : P s) :
    Always step P s as ↔ Meets step ok s as := by
  induction as generalizing s with
  | nil => exact iff_of_true h0 trivial
  | cons a as ih =>
    rw [run] at hrun
    rw [Always, Meets]
    cases hs : step s a with
    | none =>
      rw [hs] at hrun
      cases hrun
    | some t =>
      rw [hs, Option.bind_some] at hrun
      have hiff := hstep s a t h0 hs
      refine ⟨?_, ?_⟩
      · rintro ⟨-, hrest⟩
        have ht : P t := by
          cases as with
          | nil => exact hrest
          | cons b bs => exact hrest.1
        exact ⟨hiff.mp ht, (ih hrun ht).mp hrest⟩
      · rintro ⟨hok, hrest⟩
        have ht := hiff.mpr hok
        exact ⟨h0, (ih hrun ht).mpr hrest⟩

/-- **Exactness rule for what stays**: where a step keeps `P` exactly if it meets `ok`, and never brings it
back, `P` holds at the end of a run exactly if it held at the start and all steps meet `ok`.  The step may
rest on an invariant. -/
theorem iff_meets_of_stays {I P : σ → Prop} (hinv : ∀ s a t, I s → step s a = some t → I t)
    (hstep : ∀ s a t, I s → step s a = some t → (P t ↔ P s ∧ ok s a)) {s t : σ} {as : List α}
    (hrun : run step s as = some t) (h0 : I s) : P t ↔ P s ∧ Meets step ok s as := by
  induction as generalizing s with
  | nil =>
    obtain rfl : s = t := Option.some.inj hrun
    exact (and_iff_left trivial).symm
  | cons a as ih =>
    simp only [run, Option.bind_eq_some_iff] at hrun
    obtain ⟨u, hu, hr⟩ := hrun
    rw [ih hr (hinv s a u h0 hu), hstep s a u h0 hu, Meets, hu, and_assoc]

/-- What follows a step of a run is a run from the state after the step. -/
theorem Runs.rest {s t u v : σ} {as1 as2 : List α} {a : α} (hr : Runs step ok s (as1 ++ a :: as2) t)
    (hu : Runs step ok' s as1 u) (hs : step u a = some v) : Runs step Free v as2 t := by
  have hrun := hr.run_eq
  simp only [run_append, hu.run_eq, run, hs, Option.bind_some] at hrun
  exact runs_free as2 hrun

/-- **Invariant rule**: what every step of the run keeps is kept by the run. -/
theorem Runs.inv {I : σ → Prop} (hstep : ∀ s a t, I s → ok s a → step s a = some t → I t)
    {s t : σ} {as : List α} (hr : Runs step ok s as t) (h0 : I s) : I t := by
  induction hr with
  | nil => exact h0
  | snoc _ hok hs ih => exact hstep _ _ _ ih hok hs

/-- **Origin rule**: a fact that holds at the end of a run and not at its start became true at one of
its steps. -/
theorem Runs.origin {F : σ → Prop} {s t : σ} {as : List α} (hr : Runs step ok s as t)
    (h0 : ¬ F s) (h1 : F t) :
    ∃ as1 a as2 u v, as = as1 ++ a :: as2 ∧ Runs step ok s as1 u ∧ step u a = some v ∧
      Runs step ok v as2 t ∧ ¬ F u ∧ F v := by
  induction hr with
  | nil => exact absurd h1 h0
  | @snoc t u as a hr hok hs ih =>
    by_cases hF : F t
    · obtain ⟨as1, b, as2, x, y, rfl, h2, h3, h4, h5, h6⟩ := ih hF
      exact ⟨as1, b, as2 ++ [a], x, y, by simp, h2, h3, h4.snoc hok hs, h5, h6⟩
    · exact ⟨as, a, [], t, u, rfl, hr, hs, .nil u, hF, h1⟩

/-! ## Moments and logs -/

/-- Some step of the run `as` from `s` is taken where `Q` holds. -/
def At (step : σ → α → Option σ) (s : σ) (as : List α) (Q : σ → α → Prop) : Prop :=
  ∃ as1 a as2 u v, as = as1 ++ a :: as2 ∧ Runs step Free s as1 u ∧ step u a = some v ∧ Q u a

theorem At.mono {s : σ} {as : List α} {Q Q' : σ → α → Prop} (h : At step s as Q)
    (hQ : ∀ as1 u a, Runs step Free s as1 u → Q u a → Q' u a) : At step s as Q' := by
  obtain ⟨as1, a, as2, u, v, has, hr, hs, hq⟩ := h
  exact ⟨as1, a, as2, u, v, has, hr, hs, hQ as1 u a hr hq⟩

theorem At.append {s : σ} {as : List α} {Q : σ → α → Prop} (h : At step s as Q) (bs : List α) :
    At step s (as ++ bs) Q := by
  obtain ⟨as1, a, as2, u, v, rfl, hr, hs, hq⟩ := h
  exact ⟨as1, a, as2 ++ bs, u, v, by simp, hr, hs, hq⟩

/-- The step after a run is a moment of the longer run. -/
theorem Runs.at_last {Q : σ → α → Prop} {s t u : σ} {as : List α} {a : α}
    (hr : Runs step ok s as t) (hs : step t a = some u) (hq : Q t a) : At step s (as ++ [a]) Q :=
  ⟨as, a, [], t, u, rfl, hr.free, hs, hq⟩

/-- A fact only steps with `Q` can bring about: the run has such a step. -/
theorem Runs.moment {F : σ → Prop} {Q : σ → α → Prop} {s t : σ} {as : List α}
    (hr : Runs step ok s as t) (h0 : ¬ F s) (h1 : F t)
    (hQ : ∀ u a v, step u a = some v → ¬ F u → F v → Q u a) : At step s as Q := by
  obtain ⟨as1, a, as2, u, v, has, hr1, hs, -, hu, hv⟩ := hr.origin h0 h1
  exact ⟨as1, a, as2, u, v, has, hr1.free, hs, hQ u a v hs hu hv⟩

/-- Every entry of the log is explained by the entries before it. -/
def Causal {ε : Type*} (Q : List ε → ε → Prop) (log : List ε) : Prop :=
  ∀ pre e post, log = pre ++ e :: post → Q pre e

theorem causal_nil {ε : Type*} (Q : List ε → ε → Prop) : Causal Q [] := by
  intro pre e post h
  simp at h

theorem Causal.snoc {ε : Type*} {Q : List ε → ε → Prop} {log : List ε} {e : ε}
    (h : Causal Q log) (he : Q log e) : Causal Q (log ++ [e]) := by
  intro pre e' post heq
  rcases List.eq_nil_or_concat' post with rfl | ⟨post', x, rfl⟩
  · obtain ⟨rfl, h2⟩ := List.append_inj' heq rfl
    simp only [List.cons.injEq, and_true] at h2
    exact h2 ▸ he
  · rw [← List.cons_append, ← List.append_assoc] at heq
    exact h pre e' post' (List.append_inj' heq rfl).1

/-- One more entry. -/
theorem causal_concat {ε : Type*} {Q : List ε → ε → Prop} {log : List ε} {e : ε} :
    Causal Q (log ++ [e]) ↔ Causal Q log ∧ Q log e := by
  refine ⟨fun h => ⟨fun pre e' post heq => ?_, h log e [] rfl⟩, fun ⟨h, he⟩ => h.snoc he⟩
  exact h pre e' (post ++ [e]) (by rw [heq]; simp)

/-! ## Observers -/

section Record

variable {β : Type*} {note : β → σ → α → β}

/-- The notes on a run: `note` sees each state and the action taken there. -/
def record (step : σ → α → Option σ) (note : β → σ → α → β) : β → σ → List α → β
  | b, _, [] => b
  | b, s, a :: as =>
    match step s a with
    | some t => record step note (note b s a) t as
    | none => b

theorem record_append (b : β) {s t : σ} (as bs : List α) (h : run step s as = some t) :
    record step note b s (as ++ bs) = record step note (record step note b s as) t bs := by
  induction as generalizing s b with
  | nil =>
    obtain rfl : s = t := Option.some.inj h
    rfl
  | cons a as ih =>
    simp only [run, Option.bind_eq_some_iff] at h
    obtain ⟨u, hu, hr⟩ := h
    simp only [List.cons_append, record, hu]
    exact ih _ hr

/-- One more step, one more note. -/
theorem record_snoc (b : β) {s t u : σ} {as : List α} {a : α} (h : run step s as = some t)
    (hs : step t a = some u) :
    record step note b s (as ++ [a]) = note (record step note b s as) t a := by
  rw [record_append b as [a] h]
  simp [record, hs]

/-- **Observer rule**: what holds of the first state and note, and is kept by every step with its note,
holds of the last state and all that has been noted. -/
theorem Runs.recorded {I : σ → β → Prop}
    (hstep : ∀ s b a t, I s b → ok s a → step s a = some t → I t (note b s a)) {s t : σ} {b : β}
    {as : List α} (hr : Runs step ok s as t) (h0 : I s b) : I t (record step note b s as) := by
  induction hr with
  | nil => exact h0
  | snoc hr hok hs ih =>
    rw [record_snoc b hr.run_eq hs]
    exact hstep _ _ _ _ ih hok hs

end Record

end Trans
