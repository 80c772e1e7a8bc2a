import Waypad.Server.InputService

/-!
# Waypad.Server.PadRefresh — the gamepad and the capabilities that are stored (`src/server.rs`)

A call writes what it has found to the capabilities, and then tells the gamepad; other calls run in between.

* `ControllerInputManager.Kept`: what the calls of the gamepad leave alone.
* `Current`, `gamepad_current`: where no two calls overlap there, the gamepad is as the capabilities say.
-/

namespace Waypad

namespace ControllerInputManager

/-- A call leaves the availability as it is, and makes a gamepad only when there can be one. -/
structure Kept (before next : ControllerInputManager) : Prop where
  available : next.available = before.available
  reason : next.unavailableReason = before.unavailableReason
  backend : next.backend.isSome = true → before.available = true ∨ before.backend.isSome = true

section Kept

variable {env : InputEnv} {self next : ControllerInputManager}

theorem Kept.refl (self : ControllerInputManager) : Kept self self := ⟨rfl, rfl, Or.inr⟩

theorem Kept.flush (h : Kept self next) : Kept self next.flushPending := by
  refine ⟨h.available, h.reason, ?_⟩
  intro hsome
  apply h.backend
  have hsome : (next.backend.map VirtualGamepadBackend.flushPending).isSome = true := hsome
  rwa [Option.isSome_map] at hsome

/-- What a call of the backend makes of the manager. -/
theorem kept_after (h : Kept self next) (hbackend : self.available = true ∨ self.backend.isSome = true)
    (result : Outcome VirtualGamepadBackend VirtualGamepadBackend) : Kept self (next.after result).state := by
  cases result with
  | ok backend => exact ⟨h.available, h.reason, fun _ => hbackend⟩
  | error failed => exact ⟨h.available, h.reason, fun _ => hbackend⟩

theorem kept_ensure (rest : ControllerInputManager × VirtualGamepadBackend →
      Outcome ControllerInputManager ControllerInputManager)
    (hrest : ∀ next backend, self.available = true → Kept self next → Kept self (rest (next, backend)).state) :
    Kept self (Outcome.state (self.ensureBackend env >>= rest)) := by
  unfold ensureBackend
  cases havailable : self.available with
  | false => exact Kept.refl self
  | true =>
    simp only [Bool.not_true, Bool.false_eq_true, if_false]
    cases hb : self.backend with
    | some backend => exact hrest self backend havailable (Kept.refl self)
    | none =>
      dsimp only
      split_ifs
      · exact hrest _ _ havailable ⟨havailable.symm, rfl, fun _ => Or.inl havailable⟩
      · exact ⟨havailable.symm, rfl, fun _ => Or.inl havailable⟩

theorem kept_flushed {result : Outcome ControllerInputManager ControllerInputManager}
    (h : Kept self result.state) : Kept self (flushed result) := by
  cases result with
  | ok next => exact h.flush
  | error failed => exact h

theorem kept_call (call : PadCall) : Kept self (self.call env call) := by
  cases call with
  | deviceConnected =>
    exact kept_flushed (kept_ensure _ (fun next backend havailable h => kept_after h (Or.inl havailable) _))
  | deviceDisconnected =>
    apply kept_flushed
    unfold deviceDisconnected
    cases hb : self.backend with
    | none => exact Kept.refl self
    | some backend => exact kept_after (Kept.refl self) (Or.inr (hb ▸ rfl)) _
  | button button state =>
    exact kept_flushed (kept_ensure _ (fun next backend havailable h => kept_after h (Or.inl havailable) _))
  | axis axis value =>
    exact kept_flushed (kept_ensure _ (fun next backend havailable h => kept_after h (Or.inl havailable) _))

end Kept

end ControllerInputManager

namespace InputService

open Trans

/-! ## Current -/

/-- No call has stored what it found without having told the gamepad. -/
def Quiet (s : InputService) : Prop := ∀ call capabilities next, s.calls call ≠ some (.stored capabilities next)

/-- A call stores what it found only when no other is about to tell the gamepad. -/
def Orderly (s : InputService) : ServiceAction → Prop
  | .store _ => s.Quiet
  | _ => True

/-- The gamepad is that of these capabilities. -/
def Tells (capabilities : Capabilities) (gamepad : ControllerInputManager) : Prop :=
  gamepad.available = capabilities.externalInput.controller ∧
    gamepad.unavailableReason = controllerReason capabilities

/-- The gamepad knows what is stored, or one call is about to tell it. -/
structure Current (s : InputService) : Prop where
  plugged : s.gamepad.backend.isSome = true → s.gamepad.available = true
  told : s.Quiet → Tells s.capabilities s.gamepad
  pending : ∀ call capabilities next, s.calls call = some (.stored capabilities next) →
    capabilities = s.capabilities ∧
      ∀ other found after, s.calls other = some (.stored found after) → other = call

section Current

variable {config : CapabilityConfig} {env : InputEnv} {s t : InputService} {a : ServiceAction}

/-- A step after which the same calls have something to tell. -/
theorem Current.same (h : Current s)
    (hcalls : ∀ call capabilities next,
      t.calls call = some (.stored capabilities next) ↔ s.calls call = some (.stored capabilities next))
    (hcapabilities : t.capabilities = s.capabilities) (hgamepad : s.gamepad.Kept t.gamepad) : Current t := by
  refine ⟨?_, ?_, ?_⟩
  · intro hsome
    rw [hgamepad.available]
    rcases hgamepad.backend hsome with havailable | hbefore
    · exact havailable
    · exact h.plugged hbefore
  · intro hquiet
    obtain ⟨havailable, hreason⟩ := h.told (fun call capabilities next hc =>
      hquiet call capabilities next ((hcalls call capabilities next).mpr hc))
    rw [hcapabilities]
    exact ⟨hgamepad.available.trans havailable, hgamepad.reason.trans hreason⟩
  · intro call capabilities next hc
    obtain ⟨heq, honly⟩ := h.pending call capabilities next ((hcalls call capabilities next).mp hc)
    rw [hcapabilities]
    exact ⟨heq, fun other found after hother => honly other found after ((hcalls other found after).mp hother)⟩

/-- A call that had nothing to tell, and has nothing now. -/
theorem setCall_stored {call : ℕ} {next : Option CallPhase}
    (hbefore : ∀ capabilities after, s.calls call ≠ some (.stored capabilities after))
    (hnext : ∀ capabilities after, next ≠ some (.stored capabilities after)) (c : ℕ) (capabilities : Capabilities)
    (after : AfterRefresh) :
    (s.setCall call next).calls c = some (.stored capabilities after) ↔
      s.calls c = some (.stored capabilities after) := by
  show Function.update s.calls call next c = _ ↔ _
  by_cases heq : c = call
  · subst heq
    rw [Function.update_self]
    exact iff_of_false (hnext capabilities after) (hbefore capabilities after)
  · rw [Function.update_of_ne heq]

/-- The call that had something to tell has told it. -/
theorem Current.tell (h : Current s) {call : ℕ} {capabilities : Capabilities} {after : AfterRefresh}
    (phase : s.calls call = some (.stored capabilities after)) {next : Option CallPhase}
    (hnext : ∀ found rest, next ≠ some (.stored found rest)) :
    Current { s.setCall call next with
      gamepad := s.gamepad.refresh capabilities.externalInput.controller (controllerReason capabilities) } := by
  obtain ⟨rfl, honly⟩ := h.pending call capabilities after phase
  refine ⟨?_, fun _ => ⟨rfl, rfl⟩, ?_⟩
  · intro hsome
    show s.capabilities.externalInput.controller = true
    by_cases havailable : s.capabilities.externalInput.controller = true
    · exact havailable
    · have hsome : (if s.capabilities.externalInput.controller then s.gamepad.backend else none).isSome = true :=
        hsome
      rw [if_neg havailable] at hsome
      cases hsome
  · intro c found rest hc
    have hc : Function.update s.calls call next c = some (.stored found rest) := hc
    by_cases heq : c = call
    · subst heq
      rw [Function.update_self] at hc
      exact absurd hc (hnext found rest)
    · rw [Function.update_of_ne heq] at hc
      exact absurd (honly c found rest hc) heq

theorem current_step (h : Current s) (hok : Orderly s a) (hs : step config env s a = some t) : Current t := by
  cases step_cases hs with
  | looks call machine free =>
    refine h.same (setCall_stored (fun _ _ hc => ?_) (fun _ _ hc => by cases hc)) rfl (.refl _)
    rw [free] at hc
    cases hc
  | prepares => exact h.same (fun _ _ _ => Iff.rfl) rfl (.refl _)
  | fails call answers err manager unlocked free result =>
    refine h.same (setCall_stored (fun _ _ hc => ?_) (fun _ _ hc => by cases hc)) rfl (.refl _)
    rw [free] at hc
    cases hc
  | detects call machine err phase =>
    refine h.same (setCall_stored (fun _ _ hc => ?_) (fun _ _ hc => by cases hc)) rfl (.refl _)
    rw [phase] at hc
    cases hc
  | stores call capabilities next phase =>
    have hquiet : s.Quiet := hok
    have hstored : ∀ c found rest,
        Function.update s.calls call (some (.stored capabilities next)) c = some (.stored found rest) →
          c = call ∧ found = capabilities := by
      intro c found rest hc
      by_cases heq : c = call
      · subst heq
        rw [Function.update_self] at hc
        cases hc
        exact ⟨rfl, rfl⟩
      · rw [Function.update_of_ne heq] at hc
        exact absurd hc (hquiet c found rest)
    refine ⟨h.plugged, ?_, ?_⟩
    · intro hno
      exact absurd (Function.update_self call _ s.calls) (hno call capabilities next)
    · intro c found rest hc
      obtain ⟨rfl, rfl⟩ := hstored c found rest hc
      exact ⟨rfl, fun other found' rest' hother => (hstored other found' rest' hother).1⟩
  | answers call capabilities phase => exact h.tell phase (fun _ _ hc => by cases hc)
  | refreshes call capabilities err phase => exact h.tell phase (fun _ _ hc => by cases hc)
  | replaces call creations answers capabilities firstError result manager phase prepared =>
    refine h.same (setCall_stored (fun _ _ hc => ?_) (fun _ _ hc => by cases hc)) rfl (.refl _)
    rw [phase] at hc
    cases hc
  | injects => exact h.same (fun _ _ _ => Iff.rfl) rfl (.refl _)
  | ignores => exact h
  | pads call => exact h.same (fun _ _ _ => Iff.rfl) rfl (ControllerInputManager.kept_call call)

theorem current_start (config : CapabilityConfig) (machine : Machine) (creations : Creations) :
    Current (start config machine creations) :=
  ⟨fun h => (by cases h), fun _ => ⟨rfl, rfl⟩, fun _ _ _ hc => (by cases hc)⟩

end Current

/-- **The gamepad follows the host**: where calls do not overlap between storing what they found and telling the
gamepad, it is available exactly when the capabilities that are stored say so, refuses with their reason, and
exists only then. -/
theorem gamepad_current (config : CapabilityConfig) (env : InputEnv) (machine : Machine) (creations : Creations)
    {as : List ServiceAction} {s : InputService}
    (hs : Runs (step config env) Orderly (start config machine creations) as s) (hquiet : s.Quiet) :
    s.gamepad.available = s.capabilities.externalInput.controller ∧
      s.gamepad.unavailableReason = controllerReason s.capabilities ∧
      (s.gamepad.backend.isSome = true → s.capabilities.externalInput.controller = true) := by
  have h : Current s :=
    hs.inv (fun _ _ _ h hok hstep => current_step h hok hstep) (current_start config machine creations)
  obtain ⟨havailable, hreason⟩ := h.told hquiet
  exact ⟨havailable, hreason, fun hsome => havailable ▸ h.plugged hsome⟩

/-- A host without its gamepad, seen by one call. -/
def demoUnplugged : Machine := { demoHost with gamepad := .missing }

def demoCalls : List ServiceAction :=
  [.pad .deviceConnected, .getCapabilities 1 demoUnplugged, .store 1, .refresh 1]

theorem demo_unplugged : ∃ s,
    run (step demoConfig .willing) (start demoConfig demoHost demoCreations) demoCalls = some s ∧
    s.gamepad.available = s.capabilities.externalInput.controller ∧
      s.gamepad.unavailableReason = controllerReason s.capabilities ∧
      (s.gamepad.backend.isSome = true → s.capabilities.externalInput.controller = true) := by
  have hfirst : ∀ call capabilities next, Function.update (fun _ => none) 1
      (some (CallPhase.detected (.detect demoConfig demoUnplugged) .answer)) call ≠
        some (.stored capabilities next) := by
    intro call capabilities next hc
    by_cases heq : call = 1
    · subst heq
      cases hc
    · rw [Function.update_of_ne heq] at hc
      cases hc
  refine ⟨_, rfl, gamepad_current demoConfig .willing demoHost demoCreations
    (runs_of_run demoCalls rfl ⟨trivial, trivial, hfirst, trivial, trivial⟩) ?_⟩
  intro call capabilities next hc
  by_cases heq : call = 1
  · subst heq
    cases hc
  · have hc : Function.update (Function.update (Function.update (fun _ => none) 1 _) 1 _) 1 none call =
      some (CallPhase.stored capabilities next) := hc
    rw [Function.update_of_ne heq, Function.update_of_ne heq, Function.update_of_ne heq] at hc
    cases hc

/-- Two calls that overlap, and look at the host in different moments: the last to store is not the last to
tell. -/
example : (run (step demoConfig .willing) (start demoConfig demoHost demoCreations)
    [.getCapabilities 0 demoHost, .getCapabilities 1 demoUnplugged, .store 0, .store 1, .refresh 1,
      .refresh 0]).map (fun s => (s.gamepad.available, s.capabilities.externalInput.controller)) =
    some (true, false) := rfl

end InputService

end Waypad
