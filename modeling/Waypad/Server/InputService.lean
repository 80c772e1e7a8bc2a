import Waypad.Input.Backends
import Waypad.Lib.Trans

/-!
# Waypad.Server.InputService — the input and the capabilities (`src/server.rs`)

`GetCapabilities` and `PrepareInput` look at the host again.  Both store what they have found and pass it on
to the gamepad, each under a lock of its own; a `PrepareInput` whose backend fails makes a new one, and holds
the lock of the input all the time.  Calls of any number of connections run between these steps.

* `InputService.step`: the steps of the calls; `step_cases`.
* `Guarded`, `Answered`: a backend that `prepare` has accepted; `prepared_stays`.
* `Approved`, `input_approved`: what is injected, and where.
-/

namespace Waypad

/-! ## The gamepad -/

namespace ControllerInputManager

/-- `refresh`. -/
def refresh (self : ControllerInputManager) (available : Bool) (reason : String) : ControllerInputManager :=
  { self with
    available
    unavailableReason := reason
    backend := if available then self.backend else none }

end ControllerInputManager

/-- `refresh_controller_manager` and `controller_manager_from_capabilities` take these of the capabilities. -/
def controllerReason (capabilities : Capabilities) : String :=
  capabilities.externalInput.reason.getD "Controller forwarding unsupported on this host"

/-- A call of the gamepad, and the flush after it. -/
inductive PadCall
  | deviceConnected
  | deviceDisconnected
  | button (button : String) (state : ButtonState)
  | axis (axis : String) (value : ℚ)

namespace ControllerInputManager

/-- The flush, unless the call has failed. -/
def flushed : Outcome ControllerInputManager ControllerInputManager → ControllerInputManager
  | .ok next => next.flushPending
  | .error (_, next) => next

def call (env : InputEnv) (self : ControllerInputManager) : PadCall → ControllerInputManager
  | .deviceConnected => flushed (self.deviceConnected env)
  | .deviceDisconnected => flushed (self.deviceDisconnected env)
  | .button button state => flushed (self.button env button state)
  | .axis axis value => flushed (self.axis env axis value)

end ControllerInputManager

/-! ## The calls -/

/-- What a call does when the gamepad has been told. -/
inductive AfterRefresh
  /-- `GetCapabilities` -/
  | answer
  /-- `PrepareInput`, after this error -/
  | replace (firstError : String)

/-- A call on its way through the locks. -/
inductive CallPhase
  /-- `PrepareInput` has failed once -/
  | failed (firstError : String)
  | detected (capabilities : Capabilities) (next : AfterRefresh)
  /-- `*state.capabilities.write().await = capabilities.clone()` is done -/
  | stored (capabilities : Capabilities) (next : AfterRefresh)
  /-- `refresh_controller_manager` is done -/
  | refreshed (capabilities : Capabilities) (firstError : String)

/-- The call is a `PrepareInput` after its first error. -/
def CallPhase.prepares : CallPhase → Bool
  | failed _ => true
  | detected _ .answer => false
  | detected _ (.replace _) => true
  | stored _ .answer => false
  | stored _ (.replace _) => true
  | refreshed _ _ => true

/-- What the call has detected. -/
def CallPhase.capabilities : CallPhase → Option Capabilities
  | failed _ => none
  | detected capabilities _ => some capabilities
  | stored capabilities _ => some capabilities
  | refreshed capabilities _ => some capabilities

structure InputService where
  capabilities : Capabilities
  manager : InputManager
  gamepad : ControllerInputManager
  /-- the `PrepareInput` that holds `AppState::input` -/
  lock : Option ℕ
  calls : ℕ → Option CallPhase
  /-- ghost: what `PrepareInput` has returned -/
  prepared : List (Except String Value)
  /-- ghost: the calls on the portal's sessions -/
  notified : List (String × PortalNotify)
  /-- ghost: how the portal has answered whenever it was asked -/
  asked : List PortalAnswers
  /-- ghost: the machines that were looked at -/
  seen : List Machine

inductive ServiceAction
  /-- `GetCapabilities`, up to the end of `detect` -/
  | getCapabilities (call : ℕ) (machine : Machine)
  /-- `PrepareInput`, up to the end of the first `prepare` -/
  | prepareInput (call : ℕ) (answers : PortalAnswers)
  /-- `detect` after an error -/
  | detect (call : ℕ) (machine : Machine)
  | store (call : ℕ)
  | refresh (call : ℕ)
  /-- `from_capabilities` and the second `prepare` -/
  | replace (call : ℕ) (creations : Creations) (answers : PortalAnswers)
  /-- an input command; this many of its calls reach the portal -/
  | input (call : InputCall) (reach : ℕ)
  | pad (call : PadCall)

namespace InputService

/-- `run`, up to the listener. -/
def start (config : CapabilityConfig) (machine : Machine) (creations : Creations) : InputService :=
  let capabilities := Capabilities.detect config machine
  { capabilities
    manager := .fromCapabilities capabilities creations
    gamepad := .new capabilities.externalInput.controller (controllerReason capabilities)
    lock := none
    calls := fun _ => none
    prepared := []
    notified := []
    asked := []
    seen := [machine] }

def setCall (self : InputService) (call : ℕ) (phase : Option CallPhase) : InputService :=
  { self with calls := Function.update self.calls call phase }

/-- How the portal has answered, after one more `prepare`: it is not asked where a session is there, or
another backend. -/
def asking (self : InputService) (manager : InputManager) (answers : PortalAnswers) : List PortalAnswers :=
  if manager.asks then self.asked ++ [answers] else self.asked

def step (config : CapabilityConfig) (env : InputEnv) (self : InputService) : ServiceAction → Option InputService
  | .getCapabilities call machine =>
    match self.calls call with
    | none => some { self.setCall call (some (.detected (.detect config machine) .answer)) with
        seen := self.seen ++ [machine] }
    | some _ => none
  | .prepareInput call answers =>
    match self.lock, self.calls call with
    | none, none =>
      let (result, manager) := self.manager.prepare answers
      let asked := { self with manager, asked := self.asking self.manager answers }
      match result with
      | .ok value => some { asked with prepared := self.prepared ++ [.ok value] }
      -- the lock stays with the call until its second try
      | .error err => some { asked.setCall call (some (.failed err)) with lock := some call }
    | _, _ => none
  | .detect call machine =>
    match self.calls call with
    | some (.failed err) =>
      some { self.setCall call (some (.detected (.detect config machine) (.replace err))) with
        seen := self.seen ++ [machine] }
    | _ => none
  | .store call =>
    match self.calls call with
    | some (.detected capabilities next) =>
      some { self.setCall call (some (.stored capabilities next)) with capabilities }
    | _ => none
  | .refresh call =>
    match self.calls call with
    | some (.stored capabilities next) =>
      let phase := match next with
        | .answer => none
        | .replace err => some (.refreshed capabilities err)
      some { self.setCall call phase with
        gamepad := self.gamepad.refresh capabilities.externalInput.controller (controllerReason capabilities) }
    | _ => none
  | .replace call creations answers =>
    match self.calls call with
    | some (.refreshed capabilities firstError) =>
      let backend := InputManager.fromCapabilities capabilities creations
      let (result, manager) := backend.prepare answers
      let result := result.mapError (fun err => firstError ++ "; after refresh: " ++ err)
      some { self.setCall call none with
        manager, lock := none, prepared := self.prepared ++ [result], asked := self.asking backend answers }
    | _ => none
  | .input call reach =>
    match self.lock with
    | none =>
      match self.manager.session with
      | some handle => some { self with
          notified := self.notified ++ ((PortalBackend.notifies call).take reach).map
            (fun notify => (handle, notify)) }
      | none => some self
    | some _ => none
  | .pad call => some { self with gamepad := self.gamepad.call env call }

/-! ## One step -/

/-- What a step does, one constructor for each way. -/
inductive Step (config : CapabilityConfig) (env : InputEnv) (s : InputService) :
    ServiceAction → InputService → Prop
  | looks (call : ℕ) (machine : Machine) (free : s.calls call = none) :
      Step config env s (.getCapabilities call machine)
        { s.setCall call (some (.detected (.detect config machine) .answer)) with seen := s.seen ++ [machine] }
  | prepares (call : ℕ) (answers : PortalAnswers) (value : Value) (manager : InputManager)
      (unlocked : s.lock = none) (result : s.manager.prepare answers = (.ok value, manager)) :
      Step config env s (.prepareInput call answers)
        { s with manager, asked := s.asking s.manager answers, prepared := s.prepared ++ [.ok value] }
  | fails (call : ℕ) (answers : PortalAnswers) (err : String) (manager : InputManager) (unlocked : s.lock = none)
      (free : s.calls call = none) (result : s.manager.prepare answers = (.error err, manager)) :
      Step config env s (.prepareInput call answers)
        { s.setCall call (some (.failed err)) with
          manager
          asked := s.asking s.manager answers
          lock := some call }
  | detects (call : ℕ) (machine : Machine) (err : String) (phase : s.calls call = some (.failed err)) :
      Step config env s (.detect call machine)
        { s.setCall call (some (.detected (.detect config machine) (.replace err))) with
          seen := s.seen ++ [machine] }
  | stores (call : ℕ) (capabilities : Capabilities) (next : AfterRefresh)
      (phase : s.calls call = some (.detected capabilities next)) :
      Step config env s (.store call) { s.setCall call (some (.stored capabilities next)) with capabilities }
  | answers (call : ℕ) (capabilities : Capabilities) (phase : s.calls call = some (.stored capabilities .answer)) :
      Step config env s (.refresh call)
        { s.setCall call none with
          gamepad := s.gamepad.refresh capabilities.externalInput.controller (controllerReason capabilities) }
  | refreshes (call : ℕ) (capabilities : Capabilities) (err : String)
      (phase : s.calls call = some (.stored capabilities (.replace err))) :
      Step config env s (.refresh call)
        { s.setCall call (some (.refreshed capabilities err)) with
          gamepad := s.gamepad.refresh capabilities.externalInput.controller (controllerReason capabilities) }
  | replaces (call : ℕ) (creations : Creations) (answers : PortalAnswers) (capabilities : Capabilities)
      (firstError : String) (result : Except String Value) (manager : InputManager)
      (phase : s.calls call = some (.refreshed capabilities firstError))
      (prepared : (InputManager.fromCapabilities capabilities creations).prepare answers = (result, manager)) :
      Step config env s (.replace call creations answers)
        { s.setCall call none with
          manager
          lock := none
          prepared := s.prepared ++ [result.mapError (fun err => firstError ++ "; after refresh: " ++ err)]
          asked := s.asking (.fromCapabilities capabilities creations) answers }
  | injects (call : InputCall) (reach : ℕ) (handle : String) (unlocked : s.lock = none)
      (session : s.manager.session = some handle) :
      Step config env s (.input call reach)
        { s with
          notified :=
            s.notified ++ ((PortalBackend.notifies call).take reach).map (fun notify => (handle, notify)) }
  | ignores (call : InputCall) (reach : ℕ) : Step config env s (.input call reach) s
  | pads (call : PadCall) : Step config env s (.pad call) { s with gamepad := s.gamepad.call env call }

section Steps

variable {config : CapabilityConfig} {env : InputEnv} {s t : InputService} {a : ServiceAction}

theorem step_cases (hs : step config env s a = some t) : Step config env s a t := by
  cases a with
  | getCapabilities call machine =>
    unfold step at hs
    dsimp only at hs
    split at hs
    · next free =>
      obtain rfl := Option.some.inj hs
      exact .looks call machine free
    · cases hs
  | prepareInput call answers =>
    unfold step at hs
    dsimp only at hs
    split at hs
    · next unlocked free =>
      cases hresult : s.manager.prepare answers with
      | mk result manager =>
        rw [hresult] at hs
        cases result with
        | ok value =>
          obtain rfl := Option.some.inj hs
          exact .prepares call answers value manager unlocked hresult
        | error err =>
          obtain rfl := Option.some.inj hs
          exact .fails call answers err manager unlocked free hresult
    · cases hs
  | detect call machine =>
    unfold step at hs
    dsimp only at hs
    split at hs
    · next err phase =>
      obtain rfl := Option.some.inj hs
      exact .detects call machine err phase
    · cases hs
  | store call =>
    unfold step at hs
    dsimp only at hs
    split at hs
    · next capabilities next phase =>
      obtain rfl := Option.some.inj hs
      exact .stores call capabilities next phase
    · cases hs
  | refresh call =>
    unfold step at hs
    dsimp only at hs
    split at hs
    · next capabilities next phase =>
      cases next with
      | answer =>
        obtain rfl := Option.some.inj hs
        exact .answers call capabilities phase
      | replace err =>
        obtain rfl := Option.some.inj hs
        exact .refreshes call capabilities err phase
    · cases hs
  | replace call creations answers =>
    unfold step at hs
    dsimp only at hs
    split at hs
    · next capabilities firstError phase =>
      obtain rfl := Option.some.inj hs
      exact .replaces call creations answers capabilities firstError _ _ phase rfl
    · cases hs
  | input call reach =>
    unfold step at hs
    dsimp only at hs
    split at hs
    · next unlocked =>
      split at hs
      · next handle session =>
        obtain rfl := Option.some.inj hs
        exact .injects call reach handle unlocked session
      · obtain rfl := Option.some.inj hs
        exact .ignores call reach
    · cases hs
  | pad call =>
    obtain rfl := Option.some.inj hs
    exact .pads call

end Steps

/-! ## Ready -/

/-- The lock belongs to the `PrepareInput` that has failed once, and what it waits for is not ready. -/
structure Guarded (s : InputService) : Prop where
  held : ∀ call phase, s.calls call = some phase → phase.prepares = true → s.lock = some call
  waiting : s.lock ≠ none → s.manager.ready = none

section Ready

variable {config : CapabilityConfig} {env : InputEnv} {s t : InputService} {a : ServiceAction}

/-- A call goes on; where it prepares, it has the lock. -/
theorem Guarded.setCall (h : Guarded s) (call : ℕ) (next : Option CallPhase)
    (hnext : ∀ phase, next = some phase → phase.prepares = true → s.lock = some call) :
    Guarded (s.setCall call next) := by
  refine ⟨?_, h.waiting⟩
  intro c phase hc hp
  show s.lock = some c
  have hc : Function.update s.calls call next c = some phase := hc
  by_cases heq : c = call
  · subst heq
    rw [Function.update_self] at hc
    exact hnext phase hc hp
  · rw [Function.update_of_ne heq] at hc
    exact h.held c phase hc hp

theorem guarded_step (h : Guarded s) (hs : step config env s a = some t) : Guarded t := by
  cases step_cases hs with
  | looks call machine free =>
    have hnext := h.setCall call (some (.detected (.detect config machine) .answer))
      (fun phase hphase hp => by obtain rfl := Option.some.inj hphase; cases hp)
    exact ⟨hnext.held, hnext.waiting⟩
  | prepares call answers value manager unlocked result =>
    exact ⟨h.held, fun hlock => absurd unlocked hlock⟩
  | fails call answers err manager unlocked free result =>
    -- the call takes the lock, which nobody held
    obtain ⟨rfl, hready⟩ := InputManager.prepare_error result
    refine ⟨?_, fun _ => hready⟩
    intro c phase hc hp
    have hc : Function.update s.calls call (some (.failed err)) c = some phase := hc
    by_cases heq : c = call
    · exact congrArg some heq.symm
    · rw [Function.update_of_ne heq] at hc
      have hlock := h.held c phase hc hp
      rw [unlocked] at hlock
      cases hlock
  | detects call machine err phase =>
    have hnext := h.setCall call (some (.detected (.detect config machine) (.replace err)))
      (fun _ _ _ => h.held call _ phase rfl)
    exact ⟨hnext.held, hnext.waiting⟩
  | stores call capabilities next phase =>
    have hnext := h.setCall call (some (.stored capabilities next))
      (fun p hp hprep => h.held call _ phase (by obtain rfl := Option.some.inj hp; cases next <;> exact hprep))
    exact ⟨hnext.held, hnext.waiting⟩
  | answers call capabilities phase =>
    have hnext := h.setCall call none (fun _ hp _ => by cases hp)
    exact ⟨hnext.held, hnext.waiting⟩
  | refreshes call capabilities err phase =>
    have hnext := h.setCall call (some (.refreshed capabilities err)) (fun _ _ _ => h.held call _ phase rfl)
    exact ⟨hnext.held, hnext.waiting⟩
  | replaces call creations answers capabilities firstError result manager phase prepared =>
    -- the lock is given back, and no other call has had it
    have hlock := h.held call _ phase rfl
    refine ⟨?_, fun hno => absurd rfl hno⟩
    intro c p hc hp
    have hc : Function.update s.calls call none c = some p := hc
    by_cases heq : c = call
    · subst heq
      rw [Function.update_self] at hc
      cases hc
    · rw [Function.update_of_ne heq] at hc
      have hother := h.held c p hc hp
      rw [hlock] at hother
      exact absurd (Option.some.inj hother).symm heq
  | injects call reach handle unlocked session => exact ⟨h.held, h.waiting⟩
  | ignores call reach => exact h
  | pads call => exact ⟨h.held, h.waiting⟩

theorem guarded_start (config : CapabilityConfig) (machine : Machine) (creations : Creations) :
    Guarded (start config machine creations) :=
  ⟨fun _ _ hc _ => (by cases hc), fun hlock => absurd rfl hlock⟩

/-- The input is replaced only while it is not ready. -/
theorem Guarded.not_ready (h : Guarded s) {call : ℕ} {capabilities : Capabilities} {firstError : String}
    (phase : s.calls call = some (.refreshed capabilities firstError)) : s.manager.ready = none := by
  apply h.waiting
  rw [h.held call _ phase rfl]
  exact Option.some_ne_none call

/-- What has been answered is what the backend still answers. -/
structure Answered (s : InputService) : Prop extends Guarded s where
  answered : ∀ value, .ok value ∈ s.prepared → s.manager.ready = some value

/-- A backend that is ready is not replaced, and answers the same. -/
theorem Guarded.ready_step (h : Guarded s) {value : Value} (hready : s.manager.ready = some value)
    (hs : step config env s a = some t) :
    t.manager = s.manager ∧ t.asked = s.asked ∧
      (t.prepared = s.prepared ∨ t.prepared = s.prepared ++ [.ok value]) := by
  cases step_cases hs with
  | prepares call answers v manager unlocked result =>
    -- a ready backend answers from what it has and makes no request
    rw [InputManager.prepare_ready hready] at result
    cases result
    have hquiet := InputManager.asks_of_ready hready
    exact ⟨rfl, if_neg (by rw [hquiet]; exact Bool.false_ne_true), Or.inr rfl⟩
  | fails call answers err manager unlocked free result =>
    rw [InputManager.prepare_ready hready] at result
    cases result
  | replaces call creations answers capabilities firstError result manager phase prepared =>
    -- under the lock the backend was not ready
    rw [h.not_ready phase] at hready
    cases hready
  | looks => exact ⟨rfl, rfl, Or.inl rfl⟩
  | detects => exact ⟨rfl, rfl, Or.inl rfl⟩
  | stores => exact ⟨rfl, rfl, Or.inl rfl⟩
  | answers => exact ⟨rfl, rfl, Or.inl rfl⟩
  | refreshes => exact ⟨rfl, rfl, Or.inl rfl⟩
  | injects => exact ⟨rfl, rfl, Or.inl rfl⟩
  | ignores => exact ⟨rfl, rfl, Or.inl rfl⟩
  | pads => exact ⟨rfl, rfl, Or.inl rfl⟩

theorem answered_step (h : Answered s) (hs : step config env s a = some t) : Answered t := by
  refine ⟨guarded_step h.toGuarded hs, ?_⟩
  intro value hmem
  -- once something is ready it stays; before that nothing has been answered
  by_cases hany : ∃ v, s.manager.ready = some v
  · obtain ⟨v, hv⟩ := hany
    obtain ⟨hmanager, -, hprepared | hprepared⟩ := h.toGuarded.ready_step hv hs
    · rw [hmanager]
      exact h.answered value (hprepared ▸ hmem)
    · rw [hmanager]
      rw [hprepared, List.mem_append, List.mem_singleton] at hmem
      rcases hmem with hold | hnew
      · exact h.answered value hold
      · cases hnew
        exact hv
  · have hno : ∀ v, .ok v ∉ s.prepared := fun v hv => hany ⟨v, h.answered v hv⟩
    cases step_cases hs with
    | prepares call answers v manager unlocked result =>
      rcases List.mem_append.mp hmem with hold | hnew
      · exact absurd hold (hno value)
      · cases List.mem_singleton.mp hnew
        exact InputManager.ready_of_prepare result
    | replaces call creations answers capabilities firstError result manager phase prepared =>
      rcases List.mem_append.mp hmem with hold | hnew
      · exact absurd hold (hno value)
      · cases result with
        | ok v =>
          cases List.mem_singleton.mp hnew
          exact InputManager.ready_of_prepare prepared
        | error err => cases List.mem_singleton.mp hnew
    | fails => exact absurd hmem (hno value)
    | looks => exact absurd hmem (hno value)
    | detects => exact absurd hmem (hno value)
    | stores => exact absurd hmem (hno value)
    | answers => exact absurd hmem (hno value)
    | refreshes => exact absurd hmem (hno value)
    | injects => exact absurd hmem (hno value)
    | ignores => exact absurd hmem (hno value)
    | pads => exact absurd hmem (hno value)

theorem answered_start (config : CapabilityConfig) (machine : Machine) (creations : Creations) :
    Answered (start config machine creations) :=
  ⟨guarded_start config machine creations, fun _ hv => (by cases hv)⟩

end Ready

open Trans

/-- The states in which every call may be on its way. -/
theorem answered_run {config : CapabilityConfig} {env : InputEnv} {machine : Machine} {creations : Creations}
    {as : List ServiceAction} {s : InputService}
    (hs : Runs (step config env) Free (start config machine creations) as s) : Answered s :=
  hs.inv (fun _ _ _ h _ hstep => answered_step h hstep) (answered_start config machine creations)

/-- **Ready for good**: after a `PrepareInput` has succeeded, no call of any connection replaces the backend
or makes it ask again, and all later ones succeed with the same answer. -/
theorem prepared_stays (config : CapabilityConfig) (env : InputEnv) (machine : Machine) (creations : Creations)
    {before after : List ServiceAction} {s t : InputService} {value : Value}
    (hs : Runs (step config env) Free (start config machine creations) before s)
    (hvalue : .ok value ∈ s.prepared) (ht : Runs (step config env) Free s after t) :
    t.manager = s.manager ∧ t.asked = s.asked ∧
      ∃ later, t.prepared = s.prepared ++ later ∧ ∀ result ∈ later, result = .ok value := by
  have hanswered := answered_run hs
  have hready := hanswered.answered value hvalue
  refine (ht.inv (I := fun u => Guarded u ∧ u.manager = s.manager ∧ u.asked = s.asked ∧
    ∃ later, u.prepared = s.prepared ++ later ∧ ∀ result ∈ later, result = .ok value) ?_ ?_).2
  · rintro u a v ⟨hguarded, hmanager, hasked, later, hprepared, hlater⟩ - hstep
    obtain ⟨hnext, hquiet, hcase⟩ := hguarded.ready_step (hmanager ▸ hready) hstep
    refine ⟨guarded_step hguarded hstep, hnext.trans hmanager, hquiet.trans hasked, ?_⟩
    rcases hcase with hsame | hmore
    · exact ⟨later, hsame.trans hprepared, hlater⟩
    · refine ⟨later ++ [.ok value], ?_, ?_⟩
      · rw [hmore, hprepared, List.append_assoc]
      · intro result hresult
        rcases List.mem_append.mp hresult with hold | hnew
        · exact hlater result hold
        · exact List.mem_singleton.mp hnew
  · exact ⟨hanswered.toGuarded, rfl, rfl, [], (List.append_nil _).symm, fun _ h => (by cases h)⟩

/-- A Wayland host with the portal, and without `/dev/uinput`. -/
def demoHost : Machine :=
  { env := fun name => if name = "XDG_SESSION_TYPE" then some "wayland" else none
    commandExists := fun _ => false
    commandOutput := fun _ _ => none
    pkgConfigLibei := false
    hyprlandSocket := false
    remoteDesktop := .portal (some 2) [7]
    screencast := .noOwner
    uinput := .missing
    gamepad := .opens
    h264Encoder := none
    audio := ⟨false, false, [], none, none⟩ }

def demoConfig : CapabilityConfig :=
  { requirePrivateLan := true, allowPublicPairing := false, maxPairAttemptsPerMinute := 10, allowSuspend := false }

def demoCreations : Creations := ⟨.error "missing", .error "missing", .ok ()⟩

def demoGranted : PortalAnswers := ⟨.ok (0, some "/session/1"), .ok (), .ok 0, .ok (0, some 3)⟩

def demoDenied : PortalAnswers := ⟨.ok (1, none), .ok (), .ok 1, .ok (1, none)⟩

/-- A second `PrepareInput`, beside a `GetCapabilities`, which the portal would have denied. -/
theorem demo_prepared : ∃ s t,
    run (step demoConfig .willing) (start demoConfig demoHost demoCreations)
      [.prepareInput 0 demoGranted] = some s ∧
    run (step demoConfig .willing) s
      [.getCapabilities 1 demoHost, .prepareInput 2 demoDenied, .store 1, .refresh 1] = some t ∧
    t.manager = s.manager ∧ t.asked = s.asked ∧ ∃ later, t.prepared = s.prepared ++ later ∧
      ∀ result ∈ later, result = .ok (PortalBackend.ready 3) :=
  ⟨_, _, rfl, rfl, prepared_stays demoConfig .willing demoHost demoCreations
    (runs_free [.prepareInput 0 demoGranted] rfl) List.mem_cons_self
    (runs_free [.getCapabilities 1 demoHost, .prepareInput 2 demoDenied, .store 1, .refresh 1] rfl)⟩

/-! ## Approved -/

/-- The capabilities of one of the machines that were looked at. -/
def Detected (config : CapabilityConfig) (seen : List Machine) (capabilities : Capabilities) : Prop :=
  ∃ machine ∈ seen, capabilities = .detect config machine

/-- The portal was announced, what it was asked has been answered, and its session is where the calls go. -/
structure Approved (config : CapabilityConfig) (s : InputService) : Prop extends Guarded s where
  detected : ∀ call phase, s.calls call = some phase → ∀ capabilities, phase.capabilities = some capabilities →
    Detected config s.seen capabilities
  announced : ∀ backend, s.manager = .portal backend →
    ∃ capabilities, Detected config s.seen capabilities ∧ capabilities.input.backend = "wayland-portal"
  approved : ∀ handle, s.manager.session = some handle → ∃ granted ∈ s.asked, granted.Approve handle
  injected : ∀ call ∈ s.notified, s.manager.session = some call.1

section Approved

variable {config : CapabilityConfig} {env : InputEnv} {s t : InputService} {a : ServiceAction}

theorem Detected.mono {seen : List Machine} {capabilities : Capabilities} (h : Detected config seen capabilities)
    (more : List Machine) : Detected config (seen ++ more) capabilities := by
  obtain ⟨machine, hmachine, heq⟩ := h
  exact ⟨machine, List.mem_append_left more hmachine, heq⟩

theorem detected_last (config : CapabilityConfig) (seen : List Machine) (machine : Machine) :
    Detected config (seen ++ [machine]) (.detect config machine) :=
  ⟨machine, List.mem_append_right seen List.mem_cons_self, rfl⟩

/-- A call goes on with what was detected. -/
theorem Approved.setCall (h : Approved config s) (call : ℕ) (next : Option CallPhase)
    (hprep : ∀ phase, next = some phase → phase.prepares = true → s.lock = some call)
    (hnext : ∀ phase, next = some phase → ∀ capabilities, phase.capabilities = some capabilities →
      Detected config s.seen capabilities) : Approved config (s.setCall call next) := by
  refine ⟨h.toGuarded.setCall call next hprep, ?_, h.announced, h.approved, h.injected⟩
  intro c phase hc
  have hc : Function.update s.calls call next c = some phase := hc
  by_cases heq : c = call
  · subst heq
    rw [Function.update_self] at hc
    exact hnext phase hc
  · rw [Function.update_of_ne heq] at hc
    exact h.detected c phase hc

/-- More machines are looked at. -/
theorem Approved.see (h : Approved config s) (machine : Machine) :
    Approved config { s with seen := s.seen ++ [machine] } := by
  refine ⟨⟨h.held, h.waiting⟩, ?_, ?_, h.approved, h.injected⟩
  · intro call phase hc capabilities hcap
    exact (h.detected call phase hc capabilities hcap).mono [machine]
  · intro backend hb
    obtain ⟨capabilities, hdet, hport⟩ := h.announced backend hb
    exact ⟨capabilities, hdet.mono [machine], hport⟩

/-- A `prepare` of a backend that was announced. -/
theorem approved_of_prepare {m m' : InputManager} {answers : PortalAnswers} {result : Except String Value}
    (hbefore : ∀ handle, m.session = some handle → ∃ granted ∈ s.asked, granted.Approve handle)
    (h : m.prepare answers = (result, m')) (handle : String) (hsession : m'.session = some handle) :
    ∃ granted ∈ s.asking m answers, granted.Approve handle := by
  rcases InputManager.session_of_prepare h hsession with hold | ⟨hasks, devices, hrequest⟩
  · obtain ⟨granted, hmem, happ⟩ := hbefore handle hold
    refine ⟨granted, ?_, happ⟩
    unfold asking
    split
    · exact List.mem_append_left _ hmem
    · exact hmem
  · refine ⟨answers, ?_, PortalBackend.approve_of_request hrequest⟩
    unfold asking
    rw [if_pos hasks]
    exact List.mem_append_right s.asked List.mem_cons_self

/-- A session that calls went to is still there after a `prepare`. -/
theorem Approved.injected_of_prepare (h : Approved config s) {m' : InputManager} {answers : PortalAnswers}
    {result : Except String Value} (hresult : s.manager.prepare answers = (result, m')) :
    ∀ call ∈ s.notified, m'.session = some call.1 := by
  intro call hcall
  have hsession := h.injected call hcall
  obtain ⟨value, hready⟩ := InputManager.ready_of_session hsession
  rw [InputManager.prepare_ready hready] at hresult
  cases hresult
  exact hsession

theorem approved_step (h : Approved config s) (hs : step config env s a = some t) : Approved config t := by
  have hguarded := guarded_step h.toGuarded hs
  cases step_cases hs with
  | looks call machine free =>
    -- the probe adds a machine and what was detected on it
    have hnext := (h.see machine).setCall call (some (.detected (.detect config machine) .answer))
      (fun phase hphase hp => by obtain rfl := Option.some.inj hphase; cases hp)
      (fun phase hphase capabilities hcap => by
        obtain rfl := Option.some.inj hphase
        obtain rfl := Option.some.inj hcap
        exact detected_last config s.seen machine)
    exact ⟨hguarded, hnext.detected, hnext.announced, hnext.approved, hnext.injected⟩
  | prepares call answers value manager unlocked result =>
    -- the manager's own backend has asked, if it had to
    refine ⟨hguarded, h.detected, ?_, approved_of_prepare h.approved result, h.injected_of_prepare result⟩
    rintro backend rfl
    obtain ⟨before, hbefore⟩ := InputManager.portal_of_prepare result
    exact h.announced before hbefore
  | fails call answers err manager unlocked free result =>
    -- the failed `prepare` leaves the manager as it was, and nothing has been detected for the next one yet
    obtain ⟨rfl, hready⟩ := InputManager.prepare_error result
    refine ⟨hguarded, ?_, h.announced, approved_of_prepare h.approved result, h.injected⟩
    intro c phase hc capabilities hcap
    have hc : Function.update s.calls call (some (.failed err)) c = some phase := hc
    by_cases heq : c = call
    · subst heq
      rw [Function.update_self] at hc
      obtain rfl := Option.some.inj hc
      cases hcap
    · rw [Function.update_of_ne heq] at hc
      exact h.detected c phase hc capabilities hcap
  | detects call machine err phase =>
    have hnext := (h.see machine).setCall call (some (.detected (.detect config machine) (.replace err)))
      (fun _ _ _ => h.held call _ phase rfl)
      (fun p hphase capabilities hcap => by
        obtain rfl := Option.some.inj hphase
        obtain rfl := Option.some.inj hcap
        exact detected_last config s.seen machine)
    exact ⟨hguarded, hnext.detected, hnext.announced, hnext.approved, hnext.injected⟩
  | stores call capabilities next phase =>
    -- stored or refreshed, the capabilities are still those the call has detected
    have hnext := h.setCall call (some (.stored capabilities next))
      (fun p hp hprep => h.held call _ phase (by obtain rfl := Option.some.inj hp; cases next <;> exact hprep))
      (fun p hp c hcap => h.detected call _ phase c (by obtain rfl := Option.some.inj hp; exact hcap))
    exact ⟨hguarded, hnext.detected, hnext.announced, hnext.approved, hnext.injected⟩
  | answers call capabilities phase =>
    have hnext := h.setCall call none (fun _ hp => by cases hp) (fun _ hp => by cases hp)
    exact ⟨hguarded, hnext.detected, hnext.announced, hnext.approved, hnext.injected⟩
  | refreshes call capabilities err phase =>
    have hnext := h.setCall call (some (.refreshed capabilities err)) (fun _ _ _ => h.held call _ phase rfl)
      (fun p hp c hcap => h.detected call _ phase c (by obtain rfl := Option.some.inj hp; exact hcap))
    exact ⟨hguarded, hnext.detected, hnext.announced, hnext.approved, hnext.injected⟩
  | replaces call creations answers capabilities firstError result manager phase prepared =>
    -- the new backend is built from what this call has detected, and starts without a session
    have hnext := h.setCall call none (fun _ hp => by cases hp) (fun _ hp => by cases hp)
    -- nothing has gone to a session while the backend was not ready
    have hquiet : ∀ p ∈ s.notified, False := by
      intro p hp
      obtain ⟨value, hready⟩ := InputManager.ready_of_session (h.injected p hp)
      rw [h.toGuarded.not_ready phase] at hready
      cases hready
    refine ⟨hguarded, hnext.detected, ?_, ?_, fun p hp => (hquiet p hp).elim⟩
    · rintro backend rfl
      obtain ⟨before, hbefore⟩ := InputManager.portal_of_prepare prepared
      exact ⟨capabilities, h.detected call _ phase capabilities rfl,
        InputManager.fromCapabilities_portal hbefore⟩
    · intro handle hsession
      refine approved_of_prepare (fun name hname => ?_) prepared handle hsession
      rw [InputManager.fromCapabilities_session] at hname
      cases hname
  | injects call reach handle unlocked session =>
    -- calls go only to the session of the manager
    refine ⟨hguarded, h.detected, h.announced, h.approved, ?_⟩
    intro p hp
    rcases List.mem_append.mp hp with hold | hnew
    · exact h.injected p hold
    · obtain ⟨notify, -, rfl⟩ := List.mem_map.mp hnew
      exact session
  | ignores call reach => exact h
  | pads call => exact ⟨hguarded, h.detected, h.announced, h.approved, h.injected⟩

theorem approved_start (config : CapabilityConfig) (machine : Machine) (creations : Creations) :
    Approved config (start config machine creations) := by
  refine ⟨guarded_start config machine creations, fun _ _ hc => (by cases hc), ?_, ?_, fun _ hp => (by cases hp)⟩
  · intro backend hb
    exact ⟨_, ⟨machine, List.mem_cons_self, rfl⟩, InputManager.fromCapabilities_portal hb⟩
  · intro handle hsession
    have hsession : (InputManager.fromCapabilities _ creations).session = some handle := hsession
    rw [InputManager.fromCapabilities_session] at hsession
    cases hsession

/-- A session belongs to a portal that one of the machines has announced. -/
theorem Approved.portal_of_session (h : Approved config s) {handle : String}
    (hsession : s.manager.session = some handle) :
    ∃ machine ∈ s.seen, (detectSession machine).sessionType = "wayland" ∧
      (detectPortal machine).remoteDesktopAvailable = true ∧
      (detectVirtualPointerSupport machine.uinput).1 = false := by
  have hportal : ∃ backend, s.manager = .portal backend := by
    cases hm : s.manager with
    | portal backend => exact ⟨backend, rfl⟩
    | noop reason =>
      rw [hm] at hsession
      cases hsession
    | hyprland =>
      rw [hm] at hsession
      cases hsession
    | uinput bounds =>
      rw [hm] at hsession
      cases hsession
  obtain ⟨backend, hbackend⟩ := hportal
  obtain ⟨capabilities, ⟨machine, hmachine, rfl⟩, hannounced⟩ := h.announced backend hbackend
  exact ⟨machine, hmachine, detectInput_portal hannounced⟩

end Approved

/-- **Nothing without approval**: whatever the calls of all connections, every event goes to one session, which
the user has approved for a keyboard or a pointer, on a Wayland host whose `/dev/uinput` did not open. -/
theorem input_approved (config : CapabilityConfig) (env : InputEnv) (machine : Machine) (creations : Creations)
    {as : List ServiceAction} {s : InputService}
    (hs : Runs (step config env) Free (start config machine creations) as s) {handle : String}
    {notify : PortalNotify} (hnotify : (handle, notify) ∈ s.notified) :
    (∃ granted ∈ s.asked, granted.Approve handle) ∧ (∀ other ∈ s.notified, other.1 = handle) ∧
      ∃ machine ∈ s.seen, (detectSession machine).sessionType = "wayland" ∧
        (detectPortal machine).remoteDesktopAvailable = true ∧
        (detectVirtualPointerSupport machine.uinput).1 = false := by
  have h : Approved config s :=
    hs.inv (fun _ _ _ h _ hstep => approved_step h hstep) (approved_start config machine creations)
  have hsession := h.injected _ hnotify
  refine ⟨h.approved handle hsession, ?_, h.portal_of_session hsession⟩
  intro other hother
  have heq := (h.injected other hother).symm.trans hsession
  exact Option.some.inj heq

/-- Approved at the second attempt, after the host was looked at again. -/
def demoInput : List ServiceAction :=
  [.prepareInput 0 demoDenied, .detect 0 demoHost, .store 0, .refresh 0, .replace 0 demoCreations demoGranted,
    .input (.text "a") 2]

theorem demo_injected : ∃ s,
    run (step demoConfig .willing) (start demoConfig demoHost demoCreations) demoInput = some s ∧
    (∃ granted ∈ s.asked, granted.Approve "/session/1") ∧ (∀ other ∈ s.notified, other.1 = "/session/1") ∧
      ∃ machine ∈ s.seen, (detectSession machine).sessionType = "wayland" ∧
        (detectPortal machine).remoteDesktopAvailable = true ∧
        (detectVirtualPointerSupport machine.uinput).1 = false :=
  ⟨_, rfl, input_approved demoConfig .willing demoHost demoCreations (runs_free demoInput rfl)
    (show ("/session/1", PortalNotify.keyboardKeysym 97 1) ∈ _ from List.mem_cons_self)⟩

end InputService

end Waypad
