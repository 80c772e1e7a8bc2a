import Waypad.Input.Gamepad

/-!
# Waypad.Input.Caches — the values kept for de-duplication (`src/uinput.rs`, `src/gamepad.rs`)

`pressed_buttons`, `button_state` and `axis_state` decide whether an event is written at all.  The kernel
may refuse any write, and a refused write writes nothing.

* `written`: the value last written for a code.
* `Caches`: the pointer, the gamepad and the last call, should it have failed; `CacheCall`, `step`.
* `Faithful`: the kept values are those last written, and the call that failed is not taken as done.
* `put_cases`: an event and its synchronisation, and what of them the kernel takes.
* `faithful_step`, `faithful_iff`: the values are right in all states of a run when no call that writes has
  one of its two writes refused.
-/

namespace Waypad

namespace InputEvent

/-- The value the event writes for a code. -/
def writes (self : InputEvent) (cell : ℕ × ℕ) : Option ℤ :=
  if self.eventType = cell.1 ∧ self.code = cell.2 then some self.value else none

end InputEvent

/-- The value last written for the code. -/
def written (log : List InputEvent) (eventType code : ℕ) : Option ℤ :=
  LastWrite.last InputEvent.writes log (eventType, code)

theorem written_snoc (log : List InputEvent) (event : InputEvent) (eventType code : ℕ) :
    written (log ++ [event]) eventType code =
      (event.writes (eventType, code)).or (written log eventType code) := by
  rw [written, LastWrite.last_append, LastWrite.last_singleton]
  rfl

theorem writes_key (code k : ℕ) (value : ℤ) :
    (InputEvent.key code value).writes (evKey, k) = if code = k then some value else none := by
  simp [InputEvent.writes, InputEvent.key]

theorem writes_abs (code k : ℕ) (value : ℤ) :
    (InputEvent.abs code value).writes (evAbs, k) = if code = k then some value else none := by
  simp [InputEvent.writes, InputEvent.abs]

theorem writes_of_ne {event : InputEvent} {eventType : ℕ} (h : event.eventType ≠ eventType) (k : ℕ) :
    event.writes (eventType, k) = none := if_neg (fun hk => h hk.1)

/-- An event of another kind. -/
theorem written_quiet {event : InputEvent} {eventType : ℕ} (h : event.eventType ≠ eventType)
    (log : List InputEvent) (code : ℕ) :
    written (log ++ [event]) eventType code = written log eventType code := by
  rw [written_snoc, writes_of_ne h]
  rfl

/-- A key is down when the value last written for it is not 0. -/
theorem down_written (log : List InputEvent) (code : ℕ) :
    down log code = ((written log evKey code).getD 0 != 0) := by
  have heffect : InputEvent.effect = fun event k => (event.writes (evKey, k)).map (· != 0) := by
    funext event k
    unfold InputEvent.effect InputEvent.writes
    split_ifs <;> rfl
  rw [down, heffect, LastWrite.last_map (· != 0) (fun k => (evKey, k)), written]
  cases LastWrite.last InputEvent.writes log (evKey, code) <;> rfl

/-- What is kept is what has been written. -/
def Kept (cache : ℕ → Option ℤ) (log : List InputEvent) (eventType : ℕ) : Prop :=
  ∀ code value, cache code = some value → written log eventType code = some value

section Kept

variable {cache : ℕ → Option ℤ} {log : List InputEvent} {eventType : ℕ} {event : InputEvent}

/-- An event of another kind changes nothing. -/
theorem Kept.quiet (h : Kept cache log eventType) (hevent : event.eventType ≠ eventType) :
    Kept cache (log ++ [event]) eventType := by
  intro code value hcode
  rw [written_quiet hevent]
  exact h code value hcode

/-- A value is written and kept. -/
theorem Kept.update {code : ℕ} {value : ℤ} (h : Kept cache log eventType)
    (hevent : ∀ k, event.writes (eventType, k) = if code = k then some value else none) :
    Kept (Function.update cache code (some value)) (log ++ [event]) eventType := by
  intro k v hk
  rw [written_snoc, hevent]
  by_cases hcode : code = k
  · rw [hcode, Function.update_self] at hk
    rw [if_pos hcode, hk]
    rfl
  · rw [Function.update_of_ne (Ne.symm hcode)] at hk
    rw [if_neg hcode]
    exact h k v hk

end Kept

/-- What the set says of a button. -/
def kept (buttons : Finset ℕ) (code : ℕ) : ℤ := if code ∈ buttons then 1 else 0

/-! ## Calls -/

inductive CacheCall
  | pointerButton (button : PointerButton) (state : ButtonState)
  | button (button : String) (state : ButtonState)
  | axis (axis : String) (value : ℚ)
  | reset
  deriving DecidableEq, Repr

structure Caches where
  input : VirtualDevices
  pad : VirtualGamepadBackend
  /-- the last call, when it has returned an error -/
  failed : Option CacheCall

/-- The operation has returned an error. -/
def Outcome.failed {σ β : Type} : Outcome σ β → Bool
  | .ok _ => false
  | .error _ => true

namespace Caches

def start : Caches := { input := .create, pad := .create 0, failed := none }

def step (env : InputEnv) (s : Caches) (call : CacheCall) : Option Caches :=
  let pad (result : Outcome VirtualGamepadBackend VirtualGamepadBackend) : Caches :=
    { s with pad := result.state, failed := if result.failed then some call else none }
  match call with
  | .pointerButton button state =>
    let result := s.input.pointerButton env button state
    some { s with input := result.state, failed := if result.failed then some call else none }
  | .button button state => some (pad (s.pad.button env button state))
  | .axis axis value => some (pad (s.pad.axis env axis value))
  | .reset => some (pad (s.pad.reset env))

/-- The call is taken as done already, and nothing is written. -/
def Suppressed (s : Caches) : CacheCall → Prop
  | .pointerButton button state => kept s.input.pressedButtons button.uinputCode = state.uinputValue
  | .button button state => ∃ code, buttonCode button = .ok code ∧
      s.pad.buttonState code = some state.uinputValue
  | .axis axis value => (-1 ≤ value ∧ value ≤ 1) ∧ ∃ code, axisCode axis = .ok code ∧
      s.pad.axisState code = some (scaleAxis axis value)
  | .reset => False

/-- The values kept are those last written, and the call that failed is not taken as done. -/
structure Faithful (s : Caches) : Prop where
  pressed : ∀ code, (written s.input.relative evKey code).getD 0 = kept s.input.pressedButtons code
  buttons : Kept s.pad.buttonState s.pad.log evKey
  axes : Kept s.pad.axisState s.pad.log evAbs
  repeats : ∀ call, s.failed = some call → ¬ s.Suppressed call

/-- The call has an event to write. -/
def Writes (s : Caches) : CacheCall → Prop
  | .pointerButton button state => ¬ s.Suppressed (.pointerButton button state)
  | .button button state => (∃ code, buttonCode button = .ok code) ∧ ¬ s.Suppressed (.button button state)
  | .axis axis value => (-1 ≤ value ∧ value ≤ 1) ∧ (∃ code, axisCode axis = .ok code) ∧
      ¬ s.Suppressed (.axis axis value)
  | .reset => False

/-- The kernel takes the call's event and its synchronisation. -/
def Taken (env : InputEnv) (s : Caches) : CacheCall → Prop
  | .pointerButton _ _ =>
    env.accepts s.input.writes = true ∧ env.accepts (s.input.writes + 1) = true
  | _ => env.padAccepts s.pad.device s.pad.writes = true ∧
      env.padAccepts s.pad.device (s.pad.writes + 1) = true

/-- When the call writes, nothing of it is refused. -/
def Sound (env : InputEnv) (s : Caches) (call : CacheCall) : Prop := s.Writes call → s.Taken env call

end Caches

/-! ## What the kernel takes -/

namespace VirtualGamepadBackend

/-- An event and its synchronisation. -/
def put (env : InputEnv) (self : VirtualGamepadBackend) (event : InputEvent) :
    Outcome VirtualGamepadBackend VirtualGamepadBackend := do
  let self ← self.emit env event
  self.sync env

/-- The kernel takes two more writes. -/
def Takes (env : InputEnv) (self : VirtualGamepadBackend) : Prop :=
  env.padAccepts self.device self.writes = true ∧ env.padAccepts self.device (self.writes + 1) = true

/-- Both writes are taken, or the operation fails; what is kept stays. -/
structure Put (env : InputEnv) (pad : VirtualGamepadBackend) (event : InputEvent)
    (result : Outcome VirtualGamepadBackend VirtualGamepadBackend) : Prop where
  buttons : result.state.buttonState = pad.buttonState
  axes : result.state.axisState = pad.axisState
  log : pad.Takes env → result.state.log = pad.log ++ [event] ++ [.syn]
  failed : result.failed = true ↔ ¬ pad.Takes env

theorem put_cases (env : InputEnv) (self : VirtualGamepadBackend) (event : InputEvent) :
    Put env self event (self.put env event) := by
  unfold put sync emit
  by_cases hfirst : env.padAccepts self.device self.writes = true
  · by_cases hsecond : env.padAccepts self.device (self.writes + 1) = true
    · simp only [hfirst, hsecond, ↓reduceIte, bind, Except.bind]
      exact { buttons := rfl, axes := rfl, log := fun _ => rfl
              failed := iff_of_false Bool.false_ne_true (fun h => h ⟨hfirst, hsecond⟩) }
    · simp only [hfirst, hsecond, ↓reduceIte, bind, Except.bind, Bool.false_eq_true]
      exact { buttons := rfl, axes := rfl, log := fun h => absurd h.2 hsecond
              failed := iff_of_true rfl (fun h => hsecond h.2) }
  · simp only [hfirst, ↓reduceIte, bind, Except.bind, Bool.false_eq_true]
    exact { buttons := rfl, axes := rfl, log := fun h => absurd h.1 hfirst
            failed := iff_of_true rfl (fun h => hfirst h.1) }

/-- The kept values are those last written. -/
structure Matched (pad : VirtualGamepadBackend) : Prop where
  buttons : Kept pad.buttonState pad.log evKey
  axes : Kept pad.axisState pad.log evAbs

section Ops

variable {env : InputEnv} {self : VirtualGamepadBackend}

theorem emit_refused {event : InputEvent} (h : ¬ env.padAccepts self.device self.writes = true) :
    self.emit env event = .error (.io, { self with writes := self.writes + 1 }) := if_neg h

theorem emit_taken {event : InputEvent} (h : env.padAccepts self.device self.writes = true) :
    self.emit env event = .ok { self with log := self.log ++ [event], writes := self.writes + 1 } := if_pos h

/-- A loop that writes before it keeps leaves the kept values right, wherever it is broken off. -/
theorem resetButtons_matched (h : self.Matched) (table : List (String × ℕ)) :
    (self.resetButtons env table).state.Matched := by
  induction table generalizing self with
  | nil => exact h
  | cons entry rest ih =>
    obtain ⟨name, code⟩ := entry
    by_cases htaken : env.padAccepts self.device self.writes = true
    · simp only [resetButtons, emit_taken htaken, bind, Except.bind]
      apply ih
      exact
        { buttons := h.buttons.update (fun k => writes_key code k 0)
          axes := h.axes.quiet (show evKey ≠ evAbs by decide) }
    · simp only [resetButtons, emit_refused htaken, bind, Except.bind]
      exact { buttons := h.buttons, axes := h.axes }

theorem resetAxes_matched (h : self.Matched) (table : List (String × ℕ)) :
    (self.resetAxes env table).state.Matched := by
  induction table generalizing self with
  | nil => exact h
  | cons entry rest ih =>
    obtain ⟨axis, code⟩ := entry
    by_cases htaken : env.padAccepts self.device self.writes = true
    · simp only [resetAxes, emit_taken htaken, bind, Except.bind]
      apply ih
      exact
        { buttons := h.buttons.quiet (show evAbs ≠ evKey by decide)
          axes := h.axes.update (fun k => writes_abs code k (scaleAxis axis 0)) }
    · simp only [resetAxes, emit_refused htaken, bind, Except.bind]
      exact { buttons := h.buttons, axes := h.axes }

theorem sync_matched (h : self.Matched) : (self.sync env).state.Matched := by
  by_cases htaken : env.padAccepts self.device self.writes = true
  · simp only [sync, emit_taken htaken, bind, Except.bind]
    exact { buttons := h.buttons.quiet (by decide), axes := h.axes.quiet (by decide) }
  · simp only [sync, emit_refused htaken, bind, Except.bind]
    exact { buttons := h.buttons, axes := h.axes }

/-- What comes of `x` and then `f` is right when both are. -/
theorem matched_bind {x : Outcome VirtualGamepadBackend VirtualGamepadBackend}
    {f : VirtualGamepadBackend → Outcome VirtualGamepadBackend VirtualGamepadBackend}
    (hx : x.state.Matched) (hf : ∀ next : VirtualGamepadBackend, next.Matched → (f next).state.Matched) :
    (x >>= f).state.Matched := by
  cases x with
  | error e => exact hx
  | ok next => exact hf next hx

/-- **`reset`** writes first and keeps afterwards. -/
theorem reset_matched (h : self.Matched) : (self.reset env).state.Matched :=
  matched_bind (resetButtons_matched h BUTTONS)
    (fun _ h1 => matched_bind (resetAxes_matched h1 AXES) (fun _ h2 => sync_matched h2))

/-- **`button`**: rejected, taken as done, or written. -/
theorem button_cases (env : InputEnv) (self : VirtualGamepadBackend) (button : String) (state : ButtonState) :
    ((∀ code, buttonCode button ≠ .ok code) ∧ ∃ err, self.button env button state = .error (err, self)) ∨
    ∃ code, buttonCode button = .ok code ∧
      ((self.buttonState code = some state.uinputValue ∧ self.button env button state = .ok self) ∨
        (self.buttonState code ≠ some state.uinputValue ∧
          Put env { self with buttonState := Function.update self.buttonState code (some state.uinputValue) }
            (.key code state.uinputValue) (self.button env button state))) := by
  unfold VirtualGamepadBackend.button
  cases buttonCode button with
  | error err => exact Or.inl ⟨nofun, err, rfl⟩
  | ok code =>
    refine Or.inr ⟨code, rfl, ?_⟩
    by_cases hdone : self.buttonState code = some state.uinputValue
    · exact Or.inl ⟨hdone, if_pos hdone⟩
    · refine Or.inr ⟨hdone, ?_⟩
      dsimp only
      rw [if_neg hdone]
      exact put_cases env _ _

/-- **`axis`**: rejected, taken as done, or written. -/
theorem axis_cases (env : InputEnv) (self : VirtualGamepadBackend) (axis : String) (value : ℚ) :
    ((∀ code, (-1 ≤ value ∧ value ≤ 1) → axisCode axis ≠ .ok code) ∧
      ∃ err, self.axis env axis value = .error (err, self)) ∨
    (-1 ≤ value ∧ value ≤ 1) ∧ ∃ code, axisCode axis = .ok code ∧
      ((self.axisState code = some (scaleAxis axis value) ∧ self.axis env axis value = .ok self) ∨
        (self.axisState code ≠ some (scaleAxis axis value) ∧
          Put env { self with axisState := Function.update self.axisState code (some (scaleAxis axis value)) }
            (.abs code (scaleAxis axis value)) (self.axis env axis value))) := by
  unfold VirtualGamepadBackend.axis
  by_cases hrange : -1 ≤ value ∧ value ≤ 1
  swap
  · rw [if_pos hrange]
    exact Or.inl ⟨fun _ h => absurd h hrange, _, rfl⟩
  rw [if_neg (not_not.mpr hrange)]
  cases axisCode axis with
  | error err => exact Or.inl ⟨fun _ _ => nofun, err, rfl⟩
  | ok code =>
    refine Or.inr ⟨hrange, code, rfl, ?_⟩
    by_cases hdone : self.axisState code = some (scaleAxis axis value)
    · exact Or.inl ⟨hdone, if_pos hdone⟩
    · refine Or.inr ⟨hdone, ?_⟩
      dsimp only
      rw [if_neg hdone]
      exact put_cases env _ _

/-- A button that is kept, and then written. -/
theorem Put.matched_key {code : ℕ} {value : ℤ} {result : Outcome VirtualGamepadBackend VirtualGamepadBackend}
    (h : self.Matched)
    (hput : Put env { self with buttonState := Function.update self.buttonState code (some value) }
      (.key code value) result)
    (hlog : result.state.log = self.log ++ [.key code value] ++ [.syn]) : result.state.Matched := by
  refine { buttons := ?_, axes := ?_ }
  · rw [hlog, hput.buttons]
    exact (h.buttons.update (fun k => writes_key code k value)).quiet (show evSyn ≠ evKey by decide)
  · rw [hlog, hput.axes]
    exact (h.axes.quiet (show evKey ≠ evAbs by decide)).quiet (show evSyn ≠ evAbs by decide)

/-- An axis that is kept, and then written. -/
theorem Put.matched_abs {code : ℕ} {value : ℤ} {result : Outcome VirtualGamepadBackend VirtualGamepadBackend}
    (h : self.Matched)
    (hput : Put env { self with axisState := Function.update self.axisState code (some value) }
      (.abs code value) result)
    (hlog : result.state.log = self.log ++ [.abs code value] ++ [.syn]) : result.state.Matched := by
  refine { buttons := ?_, axes := ?_ }
  · rw [hlog, hput.buttons]
    exact (h.buttons.quiet (show evAbs ≠ evKey by decide)).quiet (show evSyn ≠ evKey by decide)
  · rw [hlog, hput.axes]
    exact (h.axes.update (fun k => writes_abs code k value)).quiet (show evSyn ≠ evAbs by decide)

end Ops

end VirtualGamepadBackend

namespace VirtualDevices

/-- The kernel takes two more writes. -/
def Takes (env : InputEnv) (self : VirtualDevices) : Prop :=
  env.accepts self.writes = true ∧ env.accepts (self.writes + 1) = true

/-- Both writes are taken, or the operation fails; `pressed_buttons` stays. -/
structure Put (env : InputEnv) (devices : VirtualDevices) (event : InputEvent)
    (result : Outcome VirtualDevices VirtualDevices) : Prop where
  buttons : result.state.pressedButtons = devices.pressedButtons
  log : devices.Takes env → result.state.relative = devices.relative ++ [event] ++ [.syn]
  failed : result.failed = true ↔ ¬ devices.Takes env

theorem put_cases (env : InputEnv) (self : VirtualDevices) (event : InputEvent) :
    Put env self event (do
      let self ← self.emitRelative env event
      self.syncRelative env) := by
  unfold syncRelative emitRelative
  by_cases hfirst : env.accepts self.writes = true
  · by_cases hsecond : env.accepts (self.writes + 1) = true
    · simp only [hfirst, hsecond, ↓reduceIte, bind, Except.bind]
      exact { buttons := rfl, log := fun _ => rfl
              failed := iff_of_false Bool.false_ne_true (fun h => h ⟨hfirst, hsecond⟩) }
    · simp only [hfirst, hsecond, ↓reduceIte, bind, Except.bind, Bool.false_eq_true]
      exact { buttons := rfl, log := fun h => absurd h.2 hsecond
              failed := iff_of_true rfl (fun h => hsecond h.2) }
  · simp only [hfirst, ↓reduceIte, bind, Except.bind, Bool.false_eq_true]
    exact { buttons := rfl, log := fun h => absurd h.1 hfirst
            failed := iff_of_true rfl (fun h => hfirst h.1) }

end VirtualDevices

namespace Caches

section Step

variable {env : InputEnv} {s t : Caches}

theorem Faithful.pad (h : s.Faithful) : s.pad.Matched := { buttons := h.buttons, axes := h.axes }

/-- A call that returns no error and leaves the kept values right. -/
theorem faithful_ok (hpressed : ∀ code, (written t.input.relative evKey code).getD 0 =
      kept t.input.pressedButtons code) (hpad : t.pad.Matched) (hfailed : t.failed = none) : t.Faithful :=
  { pressed := hpressed, buttons := hpad.buttons, axes := hpad.axes
    repeats := fun call hcall => by rw [hfailed] at hcall; cases hcall }

/-- The set says of a button what `pointer_button` asks it. -/
theorem kept_iff (buttons : Finset ℕ) (code : ℕ) (state : ButtonState) :
    kept buttons code = state.uinputValue ↔
      ((state.uinputValue == 1) = decide (code ∈ buttons)) := by
  unfold kept
  cases state <;> by_cases hmem : code ∈ buttons <;> simp [hmem, ButtonState.uinputValue]

/-- **`pointer_button`.** -/
theorem faithful_pointerButton (h : s.Faithful) {button : PointerButton} {state : ButtonState}
    (hs : s.step env (.pointerButton button state) = some t) :
    t.Faithful ↔ s.Sound env (.pointerButton button state) := by
  obtain rfl := Option.some.inj hs
  -- a repeated state is not written, and nothing else changes
  by_cases hdone : s.Suppressed (.pointerButton button state)
  · have hkeep : s.input.pointerButton env button state = .ok s.input := by
      unfold VirtualDevices.pointerButton
      exact if_pos ((kept_iff _ _ _).mp hdone)
    simp only [hkeep]
    exact iff_of_true (faithful_ok h.pressed h.pad rfl) (fun hwrites => absurd hdone hwrites)
  have hput := VirtualDevices.put_cases env
    { s.input with
      pressedButtons := if state.uinputValue = 1 then insert button.uinputCode s.input.pressedButtons
        else s.input.pressedButtons.erase button.uinputCode }
    (.key button.uinputCode state.uinputValue)
  have hcall : s.input.pointerButton env button state = _ :=
    if_neg (fun hsame => hdone ((kept_iff _ _ _).mpr hsame))
  rw [← hcall] at hput
  -- the set is changed whatever comes of the writes
  have hkept : ∀ code, kept (s.input.pointerButton env button state).state.pressedButtons code =
      if button.uinputCode = code then state.uinputValue else kept s.input.pressedButtons code := by
    intro code
    rw [hput.buttons]
    by_cases hcode : button.uinputCode = code
    · subst hcode
      cases state <;> simp [kept, ButtonState.uinputValue]
    · cases state <;> simp [kept, ButtonState.uinputValue, hcode, Ne.symm hcode]
  by_cases htakes : s.Taken env (.pointerButton button state)
  · refine iff_of_true (faithful_ok (fun code => ?_) h.pad ?_) (fun _ => htakes)
    · show (written (s.input.pointerButton env button state).state.relative evKey code).getD 0 =
        kept (s.input.pointerButton env button state).state.pressedButtons code
      rw [hkept, hput.log htakes, written_quiet (show evSyn ≠ evKey by decide), written_snoc, writes_key]
      by_cases hcode : button.uinputCode = code
      · rw [if_pos hcode, if_pos hcode]
        rfl
      · rw [if_neg hcode, if_neg hcode]
        exact h.pressed code
    · exact if_neg (fun hfailed => hput.failed.mp hfailed htakes)
  · have hfailed := hput.failed.mpr htakes
    refine iff_of_false (fun ht => ht.repeats (.pointerButton button state) (if_pos hfailed) ?_)
      (fun hsound => htakes (hsound hdone))
    show kept (s.input.pointerButton env button state).state.pressedButtons button.uinputCode = _
    rw [hkept, if_pos rfl]

/-- An event of the gamepad that is written and kept. -/
theorem faithful_put {call : CacheCall} {event : InputEvent} {pad : VirtualGamepadBackend}
    {result : Outcome VirtualGamepadBackend VirtualGamepadBackend}
    (h : s.Faithful) (hput : VirtualGamepadBackend.Put env pad event result)
    (ht : t = { s with pad := result.state, failed := if result.failed then some call else none })
    (htakes : s.Taken env call ↔ pad.Takes env) (hwrites : s.Writes call)
    (hkept : result.state.log = pad.log ++ [event] ++ [.syn] → result.state.Matched)
    (hdone : t.Suppressed call) : t.Faithful ↔ s.Sound env call := by
  subst ht
  by_cases hall : s.Taken env call
  · have hpad := htakes.mp hall
    refine iff_of_true (faithful_ok h.pressed (hkept (hput.log hpad)) ?_) (fun _ => hall)
    exact if_neg (fun hfailed => hput.failed.mp hfailed hpad)
  · have hfailed := hput.failed.mpr (fun hpad => hall (htakes.mpr hpad))
    exact iff_of_false (fun ht => ht.repeats call (if_pos hfailed) hdone) (fun hsound => hall (hsound hwrites))

/-- A call of the gamepad that writes nothing: it succeeds, or fails without being taken as done. -/
theorem faithful_unwritten {call : CacheCall}
    {result : Outcome VirtualGamepadBackend VirtualGamepadBackend} (h : s.Faithful)
    (ht : t = { s with pad := result.state, failed := if result.failed then some call else none })
    (hresult : result = .ok s.pad ∨ (∃ err, result = .error (err, s.pad)) ∧ ¬ s.Suppressed call)
    (hwrites : ¬ s.Writes call) : t.Faithful ↔ s.Sound env call := by
  subst ht
  refine iff_of_true ?_ (fun hw => absurd hw hwrites)
  rcases hresult with rfl | ⟨⟨err, rfl⟩, hnot⟩
  · exact faithful_ok h.pressed h.pad rfl
  · refine { pressed := h.pressed, buttons := h.buttons, axes := h.axes, repeats := ?_ }
    intro other hother hdone
    obtain rfl := Option.some.inj hother
    -- what is taken as done does not depend on what has failed
    exact hnot (by cases call <;> exact hdone)

/-- **`button`.** -/
theorem faithful_button (h : s.Faithful) {button : String} {state : ButtonState}
    (hs : s.step env (.button button state) = some t) : t.Faithful ↔ s.Sound env (.button button state) := by
  obtain rfl := Option.some.inj hs
  rcases VirtualGamepadBackend.button_cases env s.pad button state with
    ⟨hnone, herr⟩ | ⟨code, hcode, ⟨hdone, hcall⟩ | ⟨hnew, hput⟩⟩
  · refine faithful_unwritten h rfl (Or.inr ⟨herr, ?_⟩) ?_
    · rintro ⟨code, hcode, -⟩
      exact hnone code hcode
    · rintro ⟨⟨code, hcode⟩, -⟩
      exact hnone code hcode
  · have hsame : s.Suppressed (.button button state) := ⟨code, hcode, hdone⟩
    exact faithful_unwritten h rfl (Or.inl hcall) (fun hwrites => hwrites.2 hsame)
  · refine faithful_put h hput rfl Iff.rfl ⟨⟨code, hcode⟩, ?_⟩ (fun hlog => ?_) ⟨code, hcode, ?_⟩
    · rintro ⟨other, hother, hsame⟩
      obtain rfl := Except.ok.inj (hcode.symm.trans hother)
      exact hnew hsame
    · exact VirtualGamepadBackend.Put.matched_key h.pad hput hlog
    · show (s.pad.button env button state).state.buttonState code = some state.uinputValue
      rw [hput.buttons]
      exact Function.update_self code _ _

/-- **`axis`.** -/
theorem faithful_axis (h : s.Faithful) {axis : String} {value : ℚ}
    (hs : s.step env (.axis axis value) = some t) : t.Faithful ↔ s.Sound env (.axis axis value) := by
  obtain rfl := Option.some.inj hs
  rcases VirtualGamepadBackend.axis_cases env s.pad axis value with
    ⟨hnone, herr⟩ | ⟨hrange, code, hcode, ⟨hdone, hcall⟩ | ⟨hnew, hput⟩⟩
  · refine faithful_unwritten h rfl (Or.inr ⟨herr, ?_⟩) ?_
    · rintro ⟨hrange, code, hcode, -⟩
      exact hnone code hrange hcode
    · rintro ⟨hrange, ⟨code, hcode⟩, -⟩
      exact hnone code hrange hcode
  · have hsame : s.Suppressed (.axis axis value) := ⟨hrange, code, hcode, hdone⟩
    exact faithful_unwritten h rfl (Or.inl hcall) (fun hwrites => hwrites.2.2 hsame)
  · refine faithful_put h hput rfl Iff.rfl ⟨hrange, ⟨code, hcode⟩, ?_⟩ (fun hlog => ?_)
      ⟨hrange, code, hcode, ?_⟩
    · rintro ⟨-, other, hother, hsame⟩
      obtain rfl := Except.ok.inj (hcode.symm.trans hother)
      exact hnew hsame
    · exact VirtualGamepadBackend.Put.matched_abs h.pad hput hlog
    · show (s.pad.axis env axis value).state.axisState code = some (scaleAxis axis value)
      rw [hput.axes]
      exact Function.update_self code _ _

/-- **`reset`** may fail at any of its writes. -/
theorem faithful_reset (h : s.Faithful) (hs : s.step env .reset = some t) : t.Faithful := by
  obtain rfl := Option.some.inj hs
  have hpad : (s.pad.reset env).state.Matched := VirtualGamepadBackend.reset_matched h.pad
  refine { pressed := h.pressed, buttons := hpad.buttons, axes := hpad.axes, repeats := ?_ }
  intro call hcall hdone
  change (if (s.pad.reset env).failed then some CacheCall.reset else none) = some call at hcall
  split_ifs at hcall
  obtain rfl := Option.some.inj hcall
  exact hdone

/-- **The step lemma.** -/
theorem faithful_step (h : s.Faithful) {call : CacheCall} (hs : s.step env call = some t) :
    t.Faithful ↔ s.Sound env call := by
  cases call with
  | pointerButton button state => exact faithful_pointerButton h hs
  | button button state => exact faithful_button h hs
  | axis axis value => exact faithful_axis h hs
  | reset => exact iff_of_true (faithful_reset h hs) False.elim

end Step

theorem step_isSome (env : InputEnv) (s : Caches) (call : CacheCall) : (s.step env call).isSome = true := by
  cases call <;> rfl

theorem faithful_start : start.Faithful :=
  faithful_ok (fun _ => rfl) { buttons := nofun, axes := nofun } rfl

/-! ## A write that is refused -/

/-- The kernel refuses the first write to the pointer, and takes all others. -/
def refusing : InputEnv :=
  { accepts := fun i => decide (i ≠ 0), padCreates := fun _ => true, padAccepts := fun _ _ => true }

/-- **A press that failed is taken as done** when it is repeated. -/
theorem press_suppressed :
    ¬ Trans.Always (step refusing) Faithful start [.pointerButton .left .pressed] := by
  rintro ⟨-, hfaithful⟩
  apply hfaithful.repeats (.pointerButton .left .pressed) rfl
  show kept (VirtualDevices.create.pointerButton refusing .left .pressed).state.pressedButtons btnLeft = 1
  decide

/-- **The values kept for de-duplication**: in all states of a run they are those last written, and no call
that has just failed is taken as done, exactly when no call that writes has its event or the synchronisation
after it refused. -/
theorem faithful_iff (env : InputEnv) (calls : List CacheCall) :
    Trans.Always (step env) Faithful start calls ↔ Trans.Meets (step env) (Sound env) start calls :=
  Trans.always_iff_meets (fun _ _ _ h hs => faithful_step h hs) (Trans.run_isSome (step_isSome env) start calls)
    faithful_start

end Caches

end Waypad
