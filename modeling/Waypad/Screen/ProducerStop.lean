import Waypad.Screen.Producer

/-!
# Waypad.Screen.ProducerStop — what a video task does after its stop signal

A pump that takes the stop signal returns like one whose pipe has ended, and a portal stream without
frames is an error on which grim takes over.

* `StopIsFinal`: after the signal no capture is started and the receiver is not polled.
* `Clear`: a portal pump takes the signal only after the handshake line.
* `stop_is_final`: the one holds of a run exactly when the other holds of its steps.
-/

namespace Waypad

open Trans

namespace VideoTask

/-- Once the stop receiver has yielded, no capture backend is started and the receiver is not polled. -/
def StopIsFinal (self : VideoTask) : Prop :=
  ∀ before after, self.history = before ++ .stopYielded :: after →
    (∀ backend, .started backend ∉ after) ∧ .polledAgain ∉ after

/-- A pump of the portal stream takes the stop signal only after the handshake line, that is when a first
frame has come. -/
def Clear (self : VideoTask) (event : ProducerEvent) : Prop :=
  event = .video .stop → ∀ capture, self.phase = .pumping capture → capture.backend = .portal →
    self.socket.handshakeSent = true

/-- The receiver has not yielded, or the task ended when it did. -/
def Settled (self : VideoTask) : Prop :=
  (self.stopTaken = false ∧ .stopYielded ∉ self.history) ∨
    ¬ self.Alive ∧ ∃ before, self.history = before ++ [.stopYielded] ∧ .stopYielded ∉ before

section Step

variable {setup : VideoSetup} {s t : VideoTask} {event : ProducerEvent}

theorem not_alive_ended (result : Except StreamError Unit) (h : s.phase = .ended result) : ¬ s.Alive := by
  simp [Alive, h]

/-- Nothing but an audio producer moves when the task has returned. -/
theorem Turn.alive (h : Turn setup s event t) :
    s.Alive ∨ ∃ audio socket, t = { s with audio, socket } := by
  cases h with
  | goes phase alive _ => exact Or.inl alive
  | spawns portal phase => exact Or.inl (by simp [Alive, phase])
  | stops backend _ phase =>
    obtain ⟨capture, hphase, -⟩ | ⟨-, seq, hphase⟩ := phase <;> exact Or.inl (by simp [Alive, hphase])
  | returns backend result socket alive _ _ => exact Or.inl alive
  | aborts socket alive _ => exact Or.inl alive
  | opens capture magic rest phase => exact Or.inl (by simp [Alive, phase])
  | stores capture rest phase => exact Or.inl (by simp [Alive, phase])
  | sends capture call rest envelope phase _ => exact Or.inl (by simp [Alive, phase])
  | audio id audio socket _ _ => exact Or.inr ⟨audio, socket, rfl⟩

/-- The end of a stream does not concern the stop receiver. -/
theorem pumped_history (s : VideoTask) (backend : CaptureBackend) (result : Except StreamError Unit) :
    (s.pumped backend result).stopTaken = s.stopTaken ∧
      ((s.pumped backend result).history = s.history ∨
        (s.pumped backend result).history = s.history ++ [.started .grim]) := by
  obtain ⟨result', h⟩ | ⟨-, -, h⟩ := pumped_cases s backend result <;> rw [h]
  · exact ⟨rfl, Or.inl rfl⟩
  · exact ⟨rfl, Or.inr rfl⟩

theorem count_history (s : VideoTask) (capture : Capture) (rest : List VideoSend) :
    (s.count capture rest).history = s.history ∧ (s.count capture rest).stopTaken = s.stopTaken := by
  unfold count
  split <;> exact ⟨rfl, rfl⟩

/-- **What a step notes**: only the step that polls the stop receiver notes that it has yielded. -/
theorem Turn.history (h : Turn setup s event t) :
    (∃ new, t.history = s.history ++ new) ∧
      (event ≠ .video .stop → .stopYielded ∉ s.history → .stopYielded ∉ t.history) ∧
      (event ≠ .video .stop → t.stopTaken = s.stopTaken) := by
  have quiet : ∀ {t : VideoTask}, t.history = s.history → t.stopTaken = s.stopTaken →
      (∃ new, t.history = s.history ++ new) ∧
        (event ≠ .video .stop → .stopYielded ∉ s.history → .stopYielded ∉ t.history) ∧
        (event ≠ .video .stop → t.stopTaken = s.stopTaken) := by
    intro t hhistory hstop
    exact ⟨⟨[], by rw [hhistory, List.append_nil]⟩, fun _ hnone => hhistory ▸ hnone, fun _ => hstop⟩
  have starts : ∀ {t : VideoTask} backend, t.history = s.history ++ [.started backend] →
      t.stopTaken = s.stopTaken →
      (∃ new, t.history = s.history ++ new) ∧
        (event ≠ .video .stop → .stopYielded ∉ s.history → .stopYielded ∉ t.history) ∧
        (event ≠ .video .stop → t.stopTaken = s.stopTaken) := by
    intro t backend hhistory hstop
    refine ⟨⟨_, hhistory⟩, fun _ hnone => ?_, fun _ => hstop⟩
    rw [hhistory]
    simpa using hnone
  cases h with
  | goes phase _ _ => exact quiet rfl rfl
  | spawns portal _ => exact starts _ rfl rfl
  | stops backend stop _ =>
    -- a stop may hand the stream to grim, and then two notes are added
    refine ⟨?_, fun hne => absurd stop hne, fun hne => absurd stop hne⟩
    unfold takeStop
    split_ifs
    · exact ⟨_, rfl⟩
    · obtain ⟨-, h | h⟩ := pumped_history
        { s with stopTaken := true, history := s.history ++ [.stopYielded] } backend (.ok ())
      · exact ⟨_, h⟩
      · exact ⟨[.stopYielded, .started .grim], by rw [h, List.append_assoc]; rfl⟩
  | returns backend result socket _ _ _ =>
    obtain ⟨hstop, h | h⟩ := pumped_history { s with socket } backend result
    · exact quiet h hstop
    · exact starts .grim h hstop
  | aborts socket _ _ => exact quiet rfl rfl
  | opens capture magic rest _ => exact quiet rfl rfl
  | stores capture rest _ => exact quiet rfl rfl
  | sends capture call rest envelope _ _ =>
    obtain ⟨hhistory, hstop⟩ := count_history
      { s with socket := s.socket.write (.video envelope) .completes } capture rest
    exact quiet hhistory hstop
  | audio id audio socket _ _ => exact quiet rfl rfl

/-- A stop signal that meets `Clear` ends the task. -/
theorem takeStop_ended {backend : CaptureBackend} (hnone : s.stopTaken = false)
    (hclear : backend = .portal → s.socket.handshakeSent = true) :
    ∃ result, s.takeStop backend =
      { s with
        phase := .ended result, stopTaken := true, history := s.history ++ [.stopYielded] } := by
  unfold takeStop
  rw [if_neg (by simp [hnone])]
  obtain h | ⟨hportal, hunsent, -⟩ := pumped_cases
    { s with stopTaken := true, history := s.history ++ [.stopYielded] } backend (.ok ())
  · exact h
  · rw [hclear hportal] at hunsent
    simp at hunsent

/-- The stop receiver is polled in a `select!` only. -/
theorem stop_step (hs : step setup s (.video .stop) = some t) :
    ∃ backend, t = s.takeStop backend ∧
      ((∃ capture, s.phase = .pumping capture ∧ capture.backend = backend) ∨ backend = .grim) := by
  simp only [step, videoStep] at hs
  split at hs
  · simp [approve] at hs
  · simp [spawn] at hs
  · next capture hphase =>
    simp only [select, if_true, Option.some.injEq] at hs
    exact ⟨capture.backend, hs.symm, Or.inl ⟨capture, hphase, rfl⟩⟩
  · next capture calls hphase => cases calls <;> simp [send] at hs
  · simp [writeLine] at hs
  · simp [store] at hs
  · simp only [pace, Option.some.injEq] at hs
    exact ⟨.grim, hs.symm, Or.inr rfl⟩
  all_goals simp at hs

/-- **A step** that meets `Clear` keeps the invariant. -/
theorem Settled.step (h : s.Settled) (hclear : s.Clear event) (hs : step setup s event = some t) :
    t.Settled := by
  obtain halive | ⟨audio, socket, rfl⟩ := (step_turn hs).alive
  · obtain ⟨hnone, hhistory⟩ | ⟨hended, -⟩ := h
    · by_cases hstop : event = .video .stop
      · subst hstop
        obtain ⟨backend, rfl, hphase⟩ := stop_step hs
        have hportal : backend = .portal → s.socket.handshakeSent = true := by
          rintro rfl
          obtain ⟨capture, hphase, hbackend⟩ | hgrim := hphase
          · exact hclear rfl capture hphase hbackend
          · simp at hgrim
        obtain ⟨result, ht⟩ := takeStop_ended hnone hportal
        rw [ht]
        exact Or.inr ⟨not_alive_ended result rfl, s.history, rfl, hhistory⟩
      · obtain ⟨-, hkeep, hsame⟩ := (step_turn hs).history
        exact Or.inl ⟨(hsame hstop).trans hnone, hkeep hstop hhistory⟩
    · exact absurd halive hended
  · exact h

theorem Settled.final (h : s.Settled) : s.StopIsFinal := by
  intro before after hsplit
  obtain ⟨-, hnone⟩ | ⟨-, all, hhistory, hnone⟩ := h
  · exact absurd (by rw [hsplit]; simp) hnone
  · -- the signal is the last thing noted
    rw [hhistory] at hsplit
    obtain rfl : after = [] := by
      rcases List.eq_nil_or_concat' after with h | ⟨after, note, rfl⟩
      · exact h
      · rw [← List.cons_append, ← List.append_assoc] at hsplit
        obtain ⟨hinit, -⟩ := List.append_inj' hsplit rfl
        exact absurd (by rw [hinit]; simp) hnone
    simp

/-- What was final before a step was final: notes are only added. -/
theorem StopIsFinal.before (h : t.StopIsFinal) (hs : step setup s event = some t) : s.StopIsFinal := by
  obtain ⟨⟨new, hnew⟩, -⟩ := (step_turn hs).history
  intro before after hsplit
  have hfinal := h before (after ++ new) (by rw [hnew, hsplit]; simp)
  simp only [List.mem_append, not_or] at hfinal
  exact ⟨fun backend => (hfinal.1 backend).1, hfinal.2.1⟩

/-- **A stop signal before the handshake line** is followed by grim. -/
theorem grim_starts (hsettled : s.Settled) (hline : s.LineFirst) (hno : ¬ s.Clear event)
    (hs : step setup s event = some t) : ¬ t.StopIsFinal := by
  obtain ⟨rfl, capture, hphase, hportal, hunsent⟩ : event = .video .stop ∧ ∃ capture,
      s.phase = .pumping capture ∧ capture.backend = .portal ∧ s.socket.handshakeSent = false := by
    simp only [Clear, not_forall] at hno
    obtain ⟨hstop, capture, hphase, hportal, hunsent⟩ := hno
    exact ⟨hstop, capture, hphase, hportal, by simpa using hunsent⟩
  have hnone : s.stopTaken = false := by
    obtain ⟨hnone, -⟩ | ⟨hended, -⟩ := hsettled
    · exact hnone
    · exact absurd (by simp [Alive, hphase]) hended
  have ht : t.history = s.history ++ .stopYielded :: [.started .grim] := by
    simp only [step, videoStep, hphase, select, if_true, Option.some.injEq] at hs
    rw [← hs, hportal, takeStop, if_neg (by simp [hnone])]
    simp [pumped, finish, hunsent, (hline hunsent).1, startGrim]
  intro hfinal
  exact (hfinal _ _ ht).1 .grim (by simp)

end Step

/-! ## Runs -/

section Runs

variable {setup : VideoSetup} {s : VideoTask} {events : List ProducerEvent}

theorem start_settled (setup : VideoSetup) : (start setup).Settled := by
  unfold start
  dsimp only
  split_ifs <;> exact Or.inl ⟨rfl, by simp [startGrim]⟩

theorem run_settled (hr : Runs (step setup) Clear (start setup) events s) : s.Settled :=
  hr.inv (fun _ _ _ h hclear hs => h.step hclear hs) (start_settled setup)

/-- **The stop signal is final** in exactly those runs in which no portal pump takes it before the
handshake line. -/
theorem stop_is_final (hr : Runs (step setup) Free (start setup) events s) :
    s.StopIsFinal ↔ Runs (step setup) Clear (start setup) events s := by
  refine ⟨fun hfinal => ?_, fun hclear => (run_settled hclear).final⟩
  induction hr with
  | nil => exact .nil _
  | snoc hr _ hs ih =>
    have hbefore := ih (hfinal.before hs)
    refine .snoc hbefore ?_ hs
    by_contra hno
    exact grim_starts (run_settled hbefore) (run_lineFirst hr) hno hs hfinal

end Runs

/-! ## A portal session -/

def demoSetup : VideoSetup :=
  { backend := "wayland-screencast-portal", width := 1920, height := 1080, encoding := .h264
    geometry := ⟨1280, 720, 1920, 1080⟩ }

/-- The first key frame is read and sent. -/
def demoFirstFrame : List ProducerEvent :=
  [.video .portalStarted, .video .spawned, .video (.read [0, 0, 1, 0x67, 0x42, 0, 0, 1, 0x65, 0x88]),
    .video (.drained false), .video .idle, .video .checked, .video (.wrote 7 .completes), .video .stored,
    .video (.wrote 8 .completes), .video (.wrote 9 .completes), .video (.drained false)]

/-- The encoder is restarted, and stopped before the next frame. -/
def demoStop : List ProducerEvent :=
  demoFirstFrame ++ [.video (.keyFrameRequest 1500), .video .spawned, .video .stop]

theorem demo_clear : Meets (step demoSetup) Clear (start demoSetup) demoStop :=
  ⟨nofun, nofun, nofun, nofun, nofun, nofun, nofun, nofun, nofun, nofun, nofun, nofun, nofun,
    fun _ _ _ _ => rfl, trivial⟩

theorem stop_is_final_demo : ∃ s, run (step demoSetup) (start demoSetup) demoStop = some s ∧
    s.history = [.started .portal, .started .portal, .stopYielded] ∧ s.StopIsFinal ∧
    (s.StopIsFinal ↔ Runs (step demoSetup) Clear (start demoSetup) demoStop s) := by
  have hiff := stop_is_final (runs_free (s := start demoSetup) demoStop rfl)
  exact ⟨_, rfl, rfl, hiff.mpr (runs_of_run demoStop rfl demo_clear), hiff⟩

/-- The client stops the session while the portal pipeline has not yet produced a frame: grim is started,
and its `select!` polls the receiver again. -/
theorem grim_after_stop : ∃ s, run (step demoSetup) (start demoSetup)
      [.video .portalStarted, .video .spawned, .video .stop, .video .stop] = some s ∧
    s.history = [.started .portal, .stopYielded, .started .grim, .polledAgain] ∧ ¬ s.StopIsFinal := by
  refine ⟨_, rfl, rfl, ?_⟩
  intro h
  have hfinal := h [.started .portal] [.started .grim, .polledAgain] rfl
  exact hfinal.2 (by simp)

end VideoTask

end Waypad
