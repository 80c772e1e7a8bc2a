import Waypad.Signal.Client

/-!
# Waypad.Signal.Reconnect — what `run_forever` does after its last session

A session ends with `Ok` when it finds the outbound channel closed, that is when the handle has been
dropped and nothing is left to relay.  `run_forever` goes on as after a failure: it waits and tries again.

* `Closing`: the step in which a session ends with `Ok`.
* `Turn`: what a step does to the loop.
* `NoneAfterClose`: nothing is tried after it.
* `reconnects`: as long as no session ends so; from then on, up to the end of the delay and no further.
-/

namespace Waypad

namespace SignalClient

/-- The session finds the outbound channel closed and returns `Ok`. -/
def Closing (self : SignalClient) : SignalAction → Prop
  | .outgoing _ => self.phase = .relaying ∧ self.outbound = [] ∧ self.handle = false
  | _ => False

/-- No session returns `Ok` in this step. -/
def Unclosed (self : SignalClient) (a : SignalAction) : Prop := ¬ self.Closing a

/-- After a session that has returned `Ok` there is no attempt to connect and no registration. -/
def NoneAfterClose (self : SignalClient) : Prop :=
  ∀ before after, self.history = before ++ .closed :: after →
    .attempt ∉ after ∧ .registered ∉ after

end SignalClient

/-- The session has not registered. -/
def SignalPhase.Early : SignalPhase → Prop
  | .connecting | .registering _ => True
  | .relaying | .sleeping => False

namespace SignalClient

/-- What a step does to the reconnect loop. -/
inductive Turn (s : SignalClient) (a : SignalAction) (t : SignalClient) : Prop
  /-- nothing -/
  | quiet : a ≠ .wake → t.history = s.history → t.backoff = s.backoff →
      (t.phase = s.phase ∨ s.phase.Early ∧ t.phase.Early) → Turn s a t
  | failed (reason : String) : a ≠ .wake → s.phase ≠ .sleeping →
      t.history = s.history ++ [.failed reason] → t.backoff = s.backoff → t.phase = .sleeping →
      Turn s a t
  | registered : a ≠ .wake → s.phase.Early → t.history = s.history ++ [.registered] →
      t.backoff = s.backoff → t.phase = .relaying → Turn s a t
  | closed : a ≠ .wake → s.Closing a → t = s.close → Turn s a t
  | woken : a = .wake → s.phase = .sleeping → t.history = s.history ++ [.waited s.backoff, .attempt] →
      t.backoff = min (s.backoff * 2) reconnectMax → t.phase = .connecting → Turn s a t

section Step

theorem Closing.relaying {s : SignalClient} {a : SignalAction} (h : s.Closing a) : s.phase = .relaying := by
  cases a with
  | outgoing => exact h.1
  | _ => exact absurd h id

variable {P : SignalSetup} {s t u : SignalClient} {a : SignalAction}

@[simp] theorem emit_phase (s : SignalClient) (event : SignalEvent) : (s.emit event).phase = s.phase := by
  unfold emit
  split_ifs <;> rfl

@[simp] theorem emit_backoff (s : SignalClient) (event : SignalEvent) :
    (s.emit event).backoff = s.backoff := by
  unfold emit
  split_ifs <;> rfl

@[simp] theorem emit_history (s : SignalClient) (event : SignalEvent) :
    (s.emit event).history = s.history := by
  unfold emit
  split_ifs <;> rfl

/-- A message is sent, or the session fails. -/
theorem send_cases (s : SignalClient) (message : ClientMessage) (sent : Bool) (next : SignalPhase) :
    ((s.send message sent next).phase = next ∧ (s.send message sent next).backoff = s.backoff ∧
        (s.send message sent next).history = s.history) ∨
      s.send message sent next = s.fail couldNotSend := by
  unfold send
  split_ifs
  · exact Or.inl ⟨rfl, rfl, rfl⟩
  · exact Or.inr rfl

/-- **What a step can do**: nothing that concerns the reconnect loop, the session fails, registers or finds
its channel closed, or the delay ends. -/
theorem turn (hs : s.step P a = some t) : Turn s a t := by
  have stays : ∀ {t : SignalClient}, a ≠ .wake → t.history = s.history → t.backoff = s.backoff →
      t.phase = s.phase → Turn s a t :=
    fun ha hhistory hbackoff hphase => .quiet ha hhistory hbackoff (Or.inl hphase)
  have fails : ∀ {s' : SignalClient} reason, a ≠ .wake → s.phase ≠ .sleeping →
      s'.history = s.history → s'.backoff = s.backoff → Turn s a (s'.fail reason) := by
    intro s' reason ha hphase hhistory hbackoff
    refine .failed reason ha hphase ?_ ?_ rfl
    · show s'.history ++ [.failed reason] = _
      rw [hhistory]
    · show (s'.emit _).backoff = _
      rw [emit_backoff, hbackoff]
  have sends : ∀ {s' : SignalClient} message sent next, a ≠ .wake → s.phase ≠ .sleeping →
      s'.history = s.history → s'.backoff = s.backoff → (next = s.phase ∨ s.phase.Early ∧ next.Early) →
      Turn s a (s'.send message sent next) := by
    intro s' message sent next ha hphase hhistory hbackoff hnext
    rcases send_cases s' message sent next with ⟨h1, h2, h3⟩ | h
    · exact .quiet ha (h3.trans hhistory) (h2.trans hbackoff) (h1.symm ▸ hnext)
    · rw [h]
      exact fails _ ha hphase hhistory hbackoff
  -- the calls on the handle, then the phases in their order
  unfold step at hs
  split at hs
  · split_ifs at hs
    cases hs
    exact stays nofun rfl rfl rfl
  · split_ifs at hs
    cases hs
    exact stays nofun rfl rfl rfl
  · split_ifs at hs
    cases hs
    exact stays nofun rfl rfl rfl
  · next hphase =>
    cases hs
    exact fails _ nofun (by rw [hphase]; nofun) rfl rfl
  · next hphase =>
    cases hs
    exact fails _ nofun (by rw [hphase]; nofun) rfl rfl
  · next hphase =>
    cases hs
    exact .quiet nofun rfl rfl (Or.inr ⟨by rw [hphase]; trivial, trivial⟩)
  · next hphase =>
    cases hs
    exact fails _ nofun (by rw [hphase]; nofun) rfl rfl
  · next hphase =>
    cases hs
    exact sends _ _ _ nofun (by rw [hphase]; nofun) rfl rfl (Or.inr ⟨by rw [hphase]; trivial, trivial⟩)
  · next hphase =>
    split at hs
    · cases hs
      exact fails _ nofun (by rw [hphase]; nofun) rfl rfl
    · cases hs
      exact sends _ _ _ nofun (by rw [hphase]; nofun) rfl rfl
        (Or.inr ⟨by rw [hphase]; trivial, trivial⟩)
  · next hphase =>
    split_ifs at hs
    split at hs
    · cases hs
      exact fails _ nofun (by rw [hphase]; nofun) rfl rfl
    · cases hs
      exact .quiet nofun rfl rfl (Or.inr ⟨by rw [hphase]; trivial, trivial⟩)
    · cases hs
      exact .registered nofun (by rw [hphase]; trivial) rfl (emit_backoff s _) rfl
  · next hphase =>
    split at hs
    · cases hs
      exact fails _ nofun (by rw [hphase]; nofun) rfl rfl
    · cases hs
      exact stays nofun (emit_history s _) (emit_backoff s _) (emit_phase s _)
    · cases hs
      exact stays nofun rfl rfl rfl
  · next hphase =>
    split at hs
    · cases hs
      exact sends _ _ _ nofun (by rw [hphase]; nofun) rfl rfl (Or.inl hphase.symm)
    · next hnone =>
      split_ifs at hs with hhandle
      cases hs
      exact .closed nofun ⟨hphase, hnone, by simpa using hhandle⟩ rfl
  · next hphase =>
    cases hs
    exact sends _ _ _ nofun (by rw [hphase]; nofun) rfl rfl (Or.inl hphase.symm)
  · next hphase =>
    cases hs
    exact .woken rfl hphase rfl rfl rfl
  · cases hs

/-- **What a step notes**: the end of a session is noted only where the session ends. -/
theorem history_step (hs : s.step P a = some t) :
    ∃ new, t.history = s.history ++ new ∧ (.closed ∈ new → s.Closing a) := by
  cases turn hs with
  | quiet _ hhistory _ _ => exact ⟨[], by rw [hhistory, List.append_nil], by simp⟩
  | failed reason _ _ hhistory _ _ => exact ⟨[.failed reason], hhistory, by simp⟩
  | registered _ _ hhistory _ _ => exact ⟨[.registered], hhistory, by simp⟩
  | closed _ hclosing ht => exact ⟨[.closed], by rw [ht]; rfl, fun _ => hclosing⟩
  | woken _ _ hhistory _ _ => exact ⟨[.waited s.backoff, .attempt], hhistory, by simp⟩

/-- While the delay runs, the task does nothing but end it. -/
theorem sleeping_step (hphase : s.phase = .sleeping) (hs : s.step P a = some t) :
    (∃ secs, a = .wake ∧ t.history = s.history ++ [.waited secs, .attempt]) ∨
      a ≠ .wake ∧ t.phase = .sleeping ∧ t.history = s.history := by
  cases turn hs with
  | quiet ha hhistory _ hsame =>
    rcases hsame with hsame | ⟨hearly, -⟩
    · exact Or.inr ⟨ha, hsame.trans hphase, hhistory⟩
    · rw [hphase] at hearly
      exact absurd hearly id
  | failed _ _ hrunning _ _ _ => exact absurd hphase hrunning
  | registered _ hearly _ _ _ =>
    rw [hphase] at hearly
    exact absurd hearly id
  | closed _ hclosing _ =>
    have hrelaying := hclosing.relaying
    rw [hphase] at hrelaying
    cases hrelaying
  | woken ha _ hhistory _ _ => exact Or.inl ⟨_, ha, hhistory⟩

/-- The delay can end. -/
theorem wakes (P : SignalSetup) (hphase : s.phase = .sleeping) : ∃ u, s.step P .wake = some u := by
  unfold step
  rw [hphase]
  exact ⟨_, rfl⟩

/-- The session that ends so leaves the task in the delay. -/
theorem closing_step (hclosing : s.Closing a) (hs : s.step P a = some t) : t = s.close := by
  cases a with
  | outgoing sent =>
    obtain ⟨hphase, hnone, hhandle⟩ := hclosing
    unfold step at hs
    rw [hphase, hnone] at hs
    simpa [hhandle] using hs.symm
  | _ => exact absurd hclosing id

end Step

/-! ## Runs -/

section Runs

variable {P : SignalSetup} {s t v : SignalClient} {actions : List SignalAction}

/-- What has been noted stays. -/
theorem run_history {after : List SignalAction} (hr : Trans.run (step P) s after = some v) :
    ∃ new, v.history = s.history ++ new := by
  refine (Trans.runs_free after hr).inv
    (I := fun v => ∃ new, v.history = s.history ++ new) ?_ ⟨[], (List.append_nil _).symm⟩
  rintro t a u ⟨new, hnew⟩ _ hs
  obtain ⟨more, hmore, -⟩ := history_step hs
  exact ⟨new ++ more, by rw [hmore, hnew, List.append_assoc]⟩

/-- No session has ended so. -/
theorem run_unclosed (hr : Trans.Runs (step P) Unclosed start actions s) : .closed ∉ s.history := by
  refine hr.inv (I := fun s => .closed ∉ s.history) ?_ (by simp [start])
  intro s a t h hopen hs
  obtain ⟨new, hnew, hclosed⟩ := history_step hs
  rw [hnew, List.mem_append]
  rintro (hmem | hmem)
  · exact h hmem
  · exact hopen (hclosed hmem)

/-- From the delay on, the first thing noted is the next attempt. -/
theorem sleeping_run {after : List SignalAction} (hphase : s.phase = .sleeping)
    (hr : Trans.run (step P) s after = some v) :
    (.wake ∉ after ∧ v.history = s.history) ∨
      .wake ∈ after ∧ ∃ secs more, v.history = s.history ++ .waited secs :: .attempt :: more := by
  induction after generalizing s with
  | nil =>
    obtain rfl : s = v := Option.some.inj hr
    exact Or.inl ⟨List.not_mem_nil, rfl⟩
  | cons a after ih =>
    simp only [Trans.run, Option.bind_eq_some_iff] at hr
    obtain ⟨t, hs, hrest⟩ := hr
    -- the delay ends, or the client sleeps on
    rcases sleeping_step hphase hs with ⟨secs, rfl, hnew⟩ | ⟨hne, hphase', hsame⟩
    · obtain ⟨more, hmore⟩ := run_history hrest
      refine Or.inr ⟨List.mem_cons_self, secs, more, ?_⟩
      rw [hmore, hnew]
      simp
    · rcases ih hphase' hrest with ⟨hno, hall⟩ | ⟨hyes, secs, more, hall⟩
      · refine Or.inl ⟨?_, hall.trans hsame⟩
        rw [List.mem_cons]
        rintro (h | h)
        · exact hne h.symm
        · exact hno h
      · exact Or.inr ⟨List.mem_cons_of_mem a hyes, secs, more, by rw [hall, hsame]⟩

/-- **After the last session**: until a session finds the channel closed nothing is against it; from
then on nothing is tried exactly as long as the delay runs, and the delay ends by itself. -/
theorem reconnects (hr : Trans.Runs (step P) Unclosed start actions s) :
    s.NoneAfterClose ∧ ∀ a t, s.step P a = some t → s.Closing a →
      (∃ u, t.step P .wake = some u) ∧
        ∀ after v, Trans.run (step P) t after = some v → (v.NoneAfterClose ↔ .wake ∉ after) := by
  have hnone := run_unclosed hr
  refine ⟨fun before after hsplit => ?_, fun a t hs hclosing => ?_⟩
  · refine absurd ?_ hnone
    rw [hsplit]
    simp
  · obtain rfl := closing_step hclosing hs
    refine ⟨wakes P rfl, ?_⟩
    intro after v hrun
    rcases sleeping_run rfl hrun with ⟨hno, hsame⟩ | ⟨hyes, secs, more, hall⟩
    · refine ⟨fun _ => hno, ?_⟩
      intro _ before rest hsplit
      -- the end of the session is the last thing noted
      rw [hsame] at hsplit
      have hlast : rest = [] := by
        rcases List.eq_nil_or_concat' rest with h | ⟨rest, x, rfl⟩
        · exact h
        · rw [← List.cons_append, ← List.append_assoc] at hsplit
          obtain ⟨hinit, -⟩ := List.append_inj' hsplit rfl
          exact absurd (by rw [hinit]; simp) hnone
      simp [hlast]
    · refine ⟨fun h => ?_, fun h => absurd hyes h⟩
      have hsplit : v.history = s.history ++ .closed :: .waited secs :: .attempt :: more := by
        rw [hall]
        simp [close]
      exact absurd (by simp) (h _ _ hsplit).1

end Runs

/-! ## A daemon that drops its client -/

def demoSignal : SignalSetup :=
  { fingerprint := "aa:bb", publicKeyB64 := "BA==", sign := fun random _ => .ok random
    debug := fun _ => "" }

/-- One session up to its registration. -/
def demoSession : List SignalAction :=
  [.connect (some true), .sendRegister true, .receive (.text (some (.welcome 1))),
    .receive (.text (some (.challenge "AAEC"))), .sendProof [7] true,
    .receive (.text (some (.registered "aa:bb")))]

/-- The handle is dropped with a message left, which is relayed first. -/
def demoDrop : List SignalAction :=
  demoSession ++ [.leave "session", .drop, .outgoing true]

theorem reconnects_demo : ∃ s, Trans.run (step demoSignal) start demoDrop = some s ∧
    s.Closing (.outgoing true) ∧ s.NoneAfterClose ∧ ∀ a t, s.step demoSignal a = some t → s.Closing a →
      (∃ u, t.step demoSignal .wake = some u) ∧ ∀ after v,
        Trans.run (step demoSignal) t after = some v → (v.NoneAfterClose ↔ .wake ∉ after) := by
  refine ⟨_, rfl, ⟨rfl, rfl, rfl⟩, reconnects (Trans.runs_of_run demoDrop rfl ?_)⟩
  exact ⟨id, id, id, id, id, id, id, id, fun h => List.cons_ne_nil _ _ h.2.1, trivial⟩

/-- The session ends, and two seconds later the daemon registers again. -/
theorem registers_again : ∃ s,
    Trans.run (step demoSignal) start (demoDrop ++ [.outgoing true, .wake] ++ demoSession) = some s ∧
      s.handle = false ∧
      s.history = [.attempt, .registered, .closed, .waited 2, .attempt, .registered] ∧
      ¬ s.NoneAfterClose := by
  refine ⟨_, rfl, rfl, rfl, ?_⟩
  intro h
  have hafter := (h [.attempt, .registered] [.waited 2, .attempt, .registered] rfl).1
  exact hafter (by simp)

end SignalClient

end Waypad
