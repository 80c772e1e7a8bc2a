import Waypad.Input.Release
import Waypad.Input.Scroll
import Waypad.Input.Setup

/-!
# Waypad.Input.Console — the virtual devices keep to what they have announced

The commands of the connections, and whatever the kernel makes of the writes.  An operation that is refused
a write stops there, in the middle of its events.

* `VirtualDevices.Taken`, `VirtualGamepadBackend.Taken`, `AbsolutePointer.Taken`: what every operation keeps,
  whether it comes to its end or not.
* `Inputs.handleCommand_post`: one command.
* `Console`: the desk and its absolute pointer, for any kernel.
* `console_taken`: every event of a run has been announced with its device, and nothing is left without a
  `SYN_REPORT`.
-/

namespace Waypad

open Abrupt UinputSetup

/-! ## The pointer and the keyboard -/

namespace VirtualDevices

/-- All that has been written is taken, and less than a detent is left over; the flags say which of the two
devices have had their report. -/
structure Taken (env : InputEnv) (pointer keys : Bool) (devices : VirtualDevices) : Prop where
  relative : ∀ event ∈ devices.relative, relativePointer.Takes event
  keyboard : ∀ event ∈ devices.keyboard, virtualKeyboard.Takes event
  scrollX : |devices.scrollXRemainder| < 24
  scrollY : |devices.scrollYRemainder| < 24
  pointerDone : pointer = true → Reported env.accepts devices.writes devices.relative
  keysDone : keys = true → Reported env.accepts devices.writes devices.keyboard

variable {env : InputEnv} {self : VirtualDevices} {pointer keys : Bool}

theorem create_taken (env : InputEnv) : Taken env true true create := by
  refine ⟨?_, ?_, ?_, ?_, fun _ => reported_nil, fun _ => reported_nil⟩
  · intro event hevent
    cases hevent
  · intro event hevent
    cases hevent
  · show |(0 : ℚ)| < 24
    norm_num
  · show |(0 : ℚ)| < 24
    norm_num

theorem emitRelative_post (h : Taken env pointer keys self) {event : InputEvent}
    (hevent : relativePointer.Takes event) :
    Post (Taken env false keys) (Taken env true true) (self.emitRelative env event) := by
  refine Post.ite (fun _ => Post.ok ?_) (fun hrefused => Post.error ?_)
  · exact ⟨takes_append h.relative hevent, h.keyboard, h.scrollX, h.scrollY,
      fun hfalse => absurd hfalse Bool.false_ne_true, fun hkeys => (h.keysDone hkeys).later⟩
  · exact ⟨h.relative, h.keyboard, h.scrollX, h.scrollY, fun _ => reported_refused hrefused,
      fun _ => reported_refused hrefused⟩

theorem emitKeyboard_post (h : Taken env pointer keys self) {event : InputEvent}
    (hevent : virtualKeyboard.Takes event) :
    Post (Taken env pointer false) (Taken env true true) (self.emitKeyboard env event) := by
  refine Post.ite (fun _ => Post.ok ?_) (fun hrefused => Post.error ?_)
  · exact ⟨h.relative, takes_append h.keyboard hevent, h.scrollX, h.scrollY,
      fun hpointer => (h.pointerDone hpointer).later, fun hfalse => absurd hfalse Bool.false_ne_true⟩
  · exact ⟨h.relative, h.keyboard, h.scrollX, h.scrollY, fun _ => reported_refused hrefused,
      fun _ => reported_refused hrefused⟩

theorem syncRelative_post (h : Taken env pointer keys self) :
    Post (Taken env true keys) (Taken env true true) (self.syncRelative env) := by
  refine Post.ite (fun _ => Post.ok ?_) (fun hrefused => Post.error ?_)
  · exact ⟨takes_append h.relative .syn, h.keyboard, h.scrollX, h.scrollY, fun _ => reported_syn,
      fun hkeys => (h.keysDone hkeys).later⟩
  · exact ⟨h.relative, h.keyboard, h.scrollX, h.scrollY, fun _ => reported_refused hrefused,
      fun _ => reported_refused hrefused⟩

theorem syncKeyboard_post (h : Taken env pointer keys self) :
    Post (Taken env pointer true) (Taken env true true) (self.syncKeyboard env) := by
  refine Post.ite (fun _ => Post.ok ?_) (fun hrefused => Post.error ?_)
  · exact ⟨h.relative, takes_append h.keyboard .syn, h.scrollX, h.scrollY,
      fun hpointer => (h.pointerDone hpointer).later, fun _ => reported_syn⟩
  · exact ⟨h.relative, h.keyboard, h.scrollX, h.scrollY, fun _ => reported_refused hrefused,
      fun _ => reported_refused hrefused⟩

/-- Less is known of the pointer. -/
theorem Taken.openPointer (h : Taken env pointer keys self) : Taken env false keys self :=
  ⟨h.relative, h.keyboard, h.scrollX, h.scrollY, fun hfalse => absurd hfalse Bool.false_ne_true, h.keysDone⟩

theorem Taken.openKeys (h : Taken env pointer keys self) : Taken env pointer false self :=
  ⟨h.relative, h.keyboard, h.scrollX, h.scrollY, h.pointerDone, fun hfalse => absurd hfalse Bool.false_ne_true⟩

/-- A delta that `validate_delta` lets through fits. -/
theorem moved_taken {code : ℕ} (hcode : code ∈ relativePointer.relbits) {d : ℚ} (hd : |d| ≤ 10000)
    (hmoved : roundCoord d ≠ 0) : relativePointer.Takes (.rel code (roundCoord d)) := by
  have hbound : (-10000 : ℤ) ≤ roundCoord d ∧ roundCoord d ≤ 10000 := by
    rw [abs_le] at hd
    refine roundCoord_within ?_ ?_
    · push_cast
      exact hd.1
    · push_cast
      exact hd.2
  refine .rel (by decide) hcode hmoved ?_
  constructor <;> omega

theorem pointerMove_post (h : Taken env true true self) {dx dy : ℚ} (hdx : |dx| ≤ 10000) (hdy : |dy| ≤ 10000) :
    Post (Taken env true true) (Taken env true true) (self.pointerMove env dx dy) := by
  unfold pointerMove
  refine Post.ite (fun _ => Post.ok h) (fun _ => ?_)
  refine Post.opt (fun hx => emitRelative_post h (moved_taken (by decide) hdx hx)) (fun _ => h.openPointer)
    (fun d1 h1 => ?_)
  refine Post.opt (fun hy => emitRelative_post h1 (moved_taken (by decide) hdy hy)) (fun _ => h1)
    (fun d2 h2 => ?_)
  exact syncRelative_post h2

/-- The detents of one call, and their high-resolution units. -/
theorem detents_bound {remainder d : ℚ} (hremainder : |remainder| < 24) (hd : |d| ≤ 10000) (finish : Bool) :
    |(takeScrollDetents (remainder + d) finish).1| ≤ 417 := by
  rw [takeScrollDetents_eq]
  split
  · show |(if 0 < remainder + d then 1 else -1 : ℤ)| ≤ 417
    split <;> decide
  · have htrunc := abs_truncCoord_le ((remainder + d) / 24)
    have hsum : |remainder + d| < 10024 := by
      have := abs_add_le remainder d
      linarith
    have hlt : |(truncCoord ((remainder + d) / 24) : ℚ)| < 418 := by
      rw [abs_div] at htrunc
      norm_num at htrunc
      linarith
    have hint : |truncCoord ((remainder + d) / 24)| < 418 := by exact_mod_cast hlt
    show |truncCoord ((remainder + d) / 24)| ≤ 417
    omega

theorem wheel_taken {code : ℕ} (hcode : code ∈ relativePointer.relbits) {n : ℤ} (hn : |n| ≤ 417) (h0 : n ≠ 0) :
    relativePointer.Takes (.rel code n) := by
  rw [abs_le] at hn
  refine .rel (by decide) hcode h0 ?_
  constructor <;> omega

theorem hiRes_taken {code : ℕ} (hcode : code ∈ relativePointer.relbits) {n : ℤ} (hn : |n| ≤ 417) (h0 : n ≠ 0) :
    relativePointer.Takes (.rel code (n * 120)) := by
  rw [abs_le] at hn
  refine .rel (by decide) hcode (by omega) ?_
  constructor <;> omega

/-- One of the two wheels, and what follows it. -/
theorem wheel_post (h : Taken env false keys self) {wheel hiRes : ℕ} (hwheel : wheel ∈ relativePointer.relbits)
    (hhiRes : hiRes ∈ relativePointer.relbits) {n : ℤ} (hn : |n| ≤ 417)
    {rest : VirtualDevices → Outcome VirtualDevices VirtualDevices}
    (hrest : ∀ next, Taken env false keys next → Post (Taken env true keys) (Taken env true true) (rest next)) :
    Post (Taken env true keys) (Taken env true true)
      (if n ≠ 0 then do
        let next ← self.emitRelative env (.rel wheel n)
        let next ← next.emitRelative env (.rel hiRes (n * 120))
        rest next
      else do
        let next ← .ok self
        rest next) := by
  refine Post.ite (fun h0 => ?_) (fun _ => hrest self h)
  refine Post.bind (emitRelative_post h (wheel_taken hwheel hn h0)) (fun d1 h1 => ?_)
  exact Post.bind (emitRelative_post h1 (hiRes_taken hhiRes hn h0)) hrest

theorem scroll_post (h : Taken env true true self) {dx dy : ℚ} (hdx : |dx| ≤ 10000) (hdy : |dy| ≤ 10000)
    (finish : Bool) :
    Post (Taken env true true) (Taken env true true) (self.scroll env dx dy finish) := by
  have hx := detents_bound h.scrollX hdx finish
  have hy := detents_bound h.scrollY hdy finish
  have hstart : Taken env true true { self with
      scrollXRemainder := (takeScrollDetents (self.scrollXRemainder + dx) finish).2
      scrollYRemainder := (takeScrollDetents (self.scrollYRemainder + dy) finish).2 } :=
    ⟨h.relative, h.keyboard, detents_remainder _ finish, detents_remainder _ finish, h.pointerDone, h.keysDone⟩
  unfold scroll
  generalize takeScrollDetents (self.scrollXRemainder + dx) finish = scrolledX at hx hstart ⊢
  generalize takeScrollDetents (self.scrollYRemainder + dy) finish = scrolledY at hy hstart ⊢
  obtain ⟨horizontal, restX⟩ := scrolledX
  obtain ⟨vertical, restY⟩ := scrolledY
  refine Post.ite (fun _ => Post.ok hstart) (fun _ => ?_)
  refine wheel_post hstart.openPointer (by decide) (by decide) hy (fun d1 h1 => ?_)
  exact wheel_post h1 (by decide) (by decide) hx (fun d2 h2 => syncRelative_post h2)

theorem pointerButton_post (h : Taken env true true self) (button : PointerButton) (state : ButtonState) :
    Post (Taken env true true) (Taken env true true) (self.pointerButton env button state) := by
  unfold pointerButton
  refine Post.ite (fun _ => Post.ok h) (fun _ => ?_)
  have hstart : Taken env true true { self with
      pressedButtons := if state.uinputValue = 1 then insert button.uinputCode self.pressedButtons
        else self.pressedButtons.erase button.uinputCode } :=
    ⟨h.relative, h.keyboard, h.scrollX, h.scrollY, h.pointerDone, h.keysDone⟩
  exact Post.bind (emitRelative_post hstart (button_taken button state)) (fun d1 h1 => syncRelative_post h1)

theorem key_post (h : Taken env true true self) (keysym : UInt32) (state : ButtonState) :
    Post (Taken env true true) (Taken env true true) (self.key env keysym state) := by
  unfold key
  cases hmapping : keysymToKey keysym with
  | none => exact Post.error h
  | some mapping =>
    have hcode := key_taken (keysymToKey_range hmapping) (state_value state)
    have hstart : Taken env true true { self with
        pressedKeys := if state.uinputValue = 1 then insert mapping.code self.pressedKeys
          else self.pressedKeys.erase mapping.code } :=
      ⟨h.relative, h.keyboard, h.scrollX, h.scrollY, h.pointerDone, h.keysDone⟩
    refine Post.opt (fun _ => emitKeyboard_post hstart (shift_taken (Or.inr rfl))) (fun _ => hstart.openKeys)
      (fun d1 h1 => ?_)
    refine Post.bind (emitKeyboard_post h1 hcode) (fun d2 h2 => ?_)
    refine Post.opt (fun _ => emitKeyboard_post h2 (shift_taken (Or.inl rfl))) (fun _ => h2) (fun d3 h3 => ?_)
    exact syncKeyboard_post h3

theorem tap_post (h : Taken env true true self) {mapping : KeyMapping} (hmapping : mapping.OnKeyboard) :
    Post (Taken env true true) (Taken env true true) (self.tap env mapping) := by
  unfold tap
  refine Post.opt (fun _ => emitKeyboard_post h (shift_taken (Or.inr rfl))) (fun _ => h.openKeys) (fun d1 h1 => ?_)
  refine Post.bind (emitKeyboard_post h1 (key_taken hmapping (Or.inr rfl))) (fun d2 h2 => ?_)
  refine Post.bind (emitKeyboard_post h2 (key_taken hmapping (Or.inl rfl))) (fun d3 h3 => ?_)
  refine Post.opt (fun _ => emitKeyboard_post h3 (shift_taken (Or.inl rfl))) (fun _ => h3) (fun d4 h4 => ?_)
  exact syncKeyboard_post h4

theorem taps_post (h : Taken env true true self) {mappings : List KeyMapping}
    (hmappings : ∀ mapping ∈ mappings, mapping.OnKeyboard) :
    Post (Taken env true true) (Taken env true true) (self.taps env mappings) := by
  induction mappings generalizing self with
  | nil => exact Post.ok h
  | cons mapping rest ih =>
    refine Post.bind (tap_post h (hmappings mapping List.mem_cons_self)) (fun next hnext => ih hnext ?_)
    exact fun m hm => hmappings m (List.mem_cons_of_mem mapping hm)

theorem keys_post (h : Taken env true true self) (keysyms : List UInt32) (state : ButtonState) :
    Post (Taken env true true) (Taken env true true) (VirtualDevices.keys env state self keysyms) := by
  induction keysyms generalizing self with
  | nil => exact Post.ok h
  | cons keysym rest ih => exact Post.bind (key_post h keysym state) (fun next hnext => ih hnext)

theorem mapM_mem {α β : Type} {f : α → Option β} {xs : List α} {ys : List β} (h : xs.mapM f = some ys) :
    ∀ y ∈ ys, ∃ x, f x = some y := by
  induction xs generalizing ys with
  | nil =>
    intro y hy
    rw [List.mapM_nil] at h
    obtain rfl : [] = ys := Option.some.inj h
    cases hy
  | cons x xs ih =>
    simp only [List.mapM_cons, Option.bind_eq_bind, Option.bind_eq_some_iff, Option.pure_def,
      Option.some.injEq] at h
    obtain ⟨y', hx, ys', hxs, rfl⟩ := h
    intro y hy
    rcases List.mem_cons.mp hy with rfl | hrest
    · exact ⟨x, hx⟩
    · exact ih hxs y hrest

theorem text_post (h : Taken env true true self) (text : String) (copy : Copy) :
    Post (Taken env true true) (Taken env true true) (self.text env text copy) := by
  unfold VirtualDevices.text
  refine Post.ite (fun _ => Post.ok h) (fun _ => Post.ite (fun _ => Post.error h) (fun _ => ?_))
  cases hmappings : text.toList.mapM charToKey with
  | some mappings =>
    refine taps_post h (fun mapping hmapping => ?_)
    obtain ⟨value, hvalue⟩ := mapM_mem hmappings mapping hmapping
    exact charToKey_range hvalue
  | none =>
    cases copy with
    | missing => exact Post.error h
    | failed => exact Post.error h
    | taken =>
      refine Post.bind (key_post h _ _) (fun d1 h1 => ?_)
      refine Post.bind (key_post h1 _ _) (fun d2 h2 => ?_)
      refine Post.bind (key_post h2 _ _) (fun d3 h3 => ?_)
      exact key_post h3 _ _

end VirtualDevices

/-! ## The gamepad -/

namespace VirtualGamepadBackend

/-- All that has been written is taken; the flag says whether it has had its report. -/
structure Taken (env : InputEnv) (done : Bool) (backend : VirtualGamepadBackend) : Prop where
  log : ∀ event ∈ backend.log, virtualGamepad.Takes event
  reported : done = true → Reported (env.padAccepts backend.device) backend.writes backend.log

variable {env : InputEnv} {self : VirtualGamepadBackend} {done : Bool}

theorem create_taken (env : InputEnv) (device : ℕ) : (create device).Taken env true := by
  refine ⟨?_, fun _ => reported_nil⟩
  intro event hevent
  cases hevent

theorem emit_post (h : self.Taken env done) {event : InputEvent} (hevent : virtualGamepad.Takes event) :
    Post (Taken env false) (Taken env true) (self.emit env event) := by
  refine Post.ite (fun _ => Post.ok ?_) (fun hrefused => Post.error ?_)
  · exact ⟨takes_append h.log hevent, fun hfalse => absurd hfalse Bool.false_ne_true⟩
  · exact ⟨h.log, fun _ => reported_refused hrefused⟩

theorem sync_post (h : self.Taken env done) : Post (Taken env true) (Taken env true) (self.sync env) := by
  refine Post.bind (Q := Taken env true) (R := Taken env true) ?_ (fun next hnext => Post.ok ?_)
  · refine Post.ite (fun _ => Post.ok ?_) (fun hrefused => Post.error ?_)
    · exact ⟨takes_append h.log .syn, fun _ => reported_syn⟩
    · exact ⟨h.log, fun _ => reported_refused hrefused⟩
  · exact ⟨hnext.log, hnext.reported⟩

theorem button_post (h : self.Taken env true) (button : String) (state : ButtonState) :
    Post (Taken env true) (Taken env true) (self.button env button state) := by
  unfold VirtualGamepadBackend.button
  cases hcode : buttonCode button with
  | error err => exact Post.error h
  | ok code =>
    have hevent := padButton_taken (codeOf_mem (buttonCode_codeOf hcode)) (state_value state)
    refine Post.ite (fun _ => Post.ok h) (fun _ => ?_)
    have hstart : Taken env true { self with
        buttonState := Function.update self.buttonState code (some state.uinputValue) } := ⟨h.log, h.reported⟩
    exact Post.bind (emit_post hstart hevent) (fun next hnext => sync_post hnext)

theorem axis_post (h : self.Taken env true) (axis : String) (value : ℚ) :
    Post (Taken env true) (Taken env true) (self.axis env axis value) := by
  unfold VirtualGamepadBackend.axis
  refine Post.ite (fun _ => Post.error h) (fun _ => ?_)
  cases hcode : axisCode axis with
  | error err => exact Post.error h
  | ok code =>
    have hevent := axis_taken (codeOf_mem (axisCode_codeOf hcode)) value
    refine Post.ite (fun _ => Post.ok h) (fun _ => ?_)
    have hstart : Taken env true { self with
        axisState := Function.update self.axisState code (some (scaleAxis axis value)) } := ⟨h.log, h.reported⟩
    exact Post.bind (emit_post hstart hevent) (fun next hnext => sync_post hnext)

/-- The first loop of `reset`, over entries of the table. -/
theorem resetButtons_post {entries : List (String × ℕ)} (hentries : ∀ entry ∈ entries, entry ∈ BUTTONS)
    (h : self.Taken env false) : Post (Taken env false) (Taken env true) (self.resetButtons env entries) := by
  induction entries generalizing self with
  | nil => exact Post.ok h
  | cons entry rest ih =>
    obtain ⟨name, code⟩ := entry
    have hevent := padButton_taken (hentries _ List.mem_cons_self) (Or.inl rfl)
    refine Post.bind (emit_post h hevent) (fun next hnext => ?_)
    exact ih (fun other hother => hentries other (List.mem_cons_of_mem _ hother)) ⟨hnext.log, hnext.reported⟩

/-- The second loop. -/
theorem resetAxes_post {entries : List (String × ℕ)} (hentries : ∀ entry ∈ entries, entry ∈ AXES)
    (h : self.Taken env false) : Post (Taken env false) (Taken env true) (self.resetAxes env entries) := by
  induction entries generalizing self with
  | nil => exact Post.ok h
  | cons entry rest ih =>
    obtain ⟨axis, code⟩ := entry
    have hevent := axis_taken (hentries _ List.mem_cons_self) 0
    refine Post.bind (emit_post h hevent) (fun next hnext => ?_)
    exact ih (fun other hother => hentries other (List.mem_cons_of_mem _ hother)) ⟨hnext.log, hnext.reported⟩

theorem reset_post (h : self.Taken env true) : Post (Taken env true) (Taken env true) (self.reset env) := by
  have hopen : self.Taken env false := ⟨h.log, fun hfalse => absurd hfalse Bool.false_ne_true⟩
  refine Post.bind (resetButtons_post (fun _ hentry => hentry) hopen) (fun b1 h1 => ?_)
  exact Post.bind (resetAxes_post (fun _ hentry => hentry) h1) (fun b2 h2 => sync_post h2)

end VirtualGamepadBackend

namespace ControllerInputManager

/-- The gamepad, if there is one. -/
def Taken (env : InputEnv) (manager : ControllerInputManager) : Prop :=
  ∀ backend, manager.backend = some backend → backend.Taken env true

variable {env : InputEnv} {self : ControllerInputManager}

theorem after_post {result : Outcome VirtualGamepadBackend VirtualGamepadBackend}
    (h : Post (VirtualGamepadBackend.Taken env true) (VirtualGamepadBackend.Taken env true) result) :
    Post (Taken env) (Taken env) (self.after result) := by
  cases result with
  | ok backend =>
    rintro _ ⟨rfl⟩
    exact h
  | error stop =>
    rintro _ ⟨rfl⟩
    exact h

theorem ensureBackend_post (h : self.Taken env) :
    Post (fun found => found.1.Taken env ∧ found.2.Taken env true) (Taken env) (self.ensureBackend env) := by
  unfold ensureBackend
  refine Post.ite (fun _ => Post.error h) (fun _ => ?_)
  cases hbackend : self.backend with
  | some backend => exact Post.ok ⟨h, h backend hbackend⟩
  | none =>
    -- the gamepad is made now
    refine Post.ite (fun _ => Post.ok ⟨?_, VirtualGamepadBackend.create_taken env _⟩) (fun _ => Post.error ?_)
    · rintro _ ⟨rfl⟩
      exact VirtualGamepadBackend.create_taken env _
    · rintro _ ⟨⟩

theorem deviceConnected_post (h : self.Taken env) : Post (Taken env) (Taken env) (self.deviceConnected env) :=
  Post.bind (ensureBackend_post h) (fun _ hfound => after_post (VirtualGamepadBackend.reset_post hfound.2))

theorem deviceDisconnected_post (h : self.Taken env) :
    Post (Taken env) (Taken env) (self.deviceDisconnected env) := by
  unfold deviceDisconnected
  cases hbackend : self.backend with
  | none => exact Post.ok h
  | some backend => exact after_post (VirtualGamepadBackend.reset_post (h backend hbackend))

theorem button_post (h : self.Taken env) (button : String) (state : ButtonState) :
    Post (Taken env) (Taken env) (self.button env button state) :=
  Post.bind (ensureBackend_post h) (fun _ hfound => after_post (VirtualGamepadBackend.button_post hfound.2 _ _))

theorem axis_post (h : self.Taken env) (axis : String) (value : ℚ) :
    Post (Taken env) (Taken env) (self.axis env axis value) :=
  Post.bind (ensureBackend_post h) (fun _ hfound => after_post (VirtualGamepadBackend.axis_post hfound.2 _ _))

theorem flushPending_taken (h : self.Taken env) : self.flushPending.Taken env := by
  intro backend hbackend
  obtain ⟨before, hbefore, rfl⟩ := Option.map_eq_some_iff.mp hbackend
  have htaken := h before hbefore
  exact ⟨htaken.log, htaken.reported⟩

end ControllerInputManager

/-! ## The commands -/

namespace Inputs

structure Taken (env : InputEnv) (inputs : Inputs) : Prop where
  devices : inputs.devices.Taken env true true
  gamepad : inputs.gamepad.Taken env

variable {env : InputEnv} {self : Inputs}

theorem onDevices_post (h : self.Taken env) {result : Outcome VirtualDevices VirtualDevices}
    (hresult : Post (VirtualDevices.Taken env true true) (VirtualDevices.Taken env true true) result) :
    Post (Taken env) (Taken env) (self.onDevices result) := by
  cases result with
  | ok devices => exact ⟨hresult, h.gamepad⟩
  | error stop => exact ⟨hresult, h.gamepad⟩

theorem onGamepad_post (h : self.Taken env) {result : Outcome ControllerInputManager ControllerInputManager}
    (hresult : Post (ControllerInputManager.Taken env) (ControllerInputManager.Taken env) result) :
    Post (Taken env) (Taken env) (self.onGamepad result) := by
  cases result with
  | ok gamepad => exact ⟨h.devices, ControllerInputManager.flushPending_taken hresult⟩
  | error stop => exact ⟨h.devices, hresult⟩

/-- What `validate_delta` lets through. -/
theorem validateDelta_ok {dx dy : ℚ} (h : validateDelta dx dy = .ok ()) : |dx| ≤ 10000 ∧ |dy| ≤ 10000 := by
  unfold validateDelta at h
  split_ifs at h with hfar
  rw [not_or, not_lt, not_lt] at hfar
  exact hfar

theorem pointerMove_post (h : self.Taken env) (dx dy : ℚ) :
    Post (Taken env) (Taken env) (self.pointerMove env dx dy) := by
  unfold pointerMove
  cases hvalid : validateDelta dx dy with
  | error err => exact Post.error h
  | ok _ =>
    obtain ⟨hdx, hdy⟩ := validateDelta_ok hvalid
    exact onDevices_post h (VirtualDevices.pointerMove_post h.devices hdx hdy)

theorem scroll_post (h : self.Taken env) (dx dy : ℚ) (finish : Bool) :
    Post (Taken env) (Taken env) (self.scroll env dx dy finish) := by
  unfold scroll
  cases hvalid : validateDelta dx dy with
  | error err => exact Post.error h
  | ok _ =>
    obtain ⟨hdx, hdy⟩ := validateDelta_ok hvalid
    exact onDevices_post h (VirtualDevices.scroll_post h.devices hdx hdy finish)

theorem sendText_post (h : self.Taken env) (text : String) (copy : Copy) :
    Post (Taken env) (Taken env) (self.sendText env text copy) :=
  Post.ite (fun _ => Post.error h) (fun _ => onDevices_post h (VirtualDevices.text_post h.devices text copy))

theorem sendShortcut_post (h : self.Taken env) (keys : List String) :
    Post (Taken env) (Taken env) (self.sendShortcut env keys) := by
  unfold sendShortcut
  refine Post.ite (fun _ => Post.error h) (fun _ => ?_)
  cases keys.mapM shortcutKeyToKeysym with
  | error err => exact Post.error h
  | ok keysyms =>
    refine onDevices_post h (Post.bind (VirtualDevices.keys_post h.devices keysyms .pressed) ?_)
    exact fun next hnext => VirtualDevices.keys_post hnext keysyms.reverse .released

theorem handleExternalInput_post (h : self.Taken env) (deviceType : ExternalDeviceType)
    (event : ExternalInputEvent) :
    Post (Taken env) (Taken env) (self.handleExternalInput env deviceType event) := by
  cases event with
  | deviceConnected name classes =>
    exact Post.ite (fun _ => onGamepad_post h (ControllerInputManager.deviceConnected_post h.gamepad))
      (fun _ => Post.ok h)
  | deviceDisconnected =>
    exact Post.ite (fun _ => onGamepad_post h (ControllerInputManager.deviceDisconnected_post h.gamepad))
      (fun _ => Post.ok h)
  | pointerMove dx dy => exact pointerMove_post h dx dy
  | pointerButton button state => exact onDevices_post h (VirtualDevices.pointerButton_post h.devices button state)
  | pointerScroll dx dy finish => exact scroll_post h dx dy finish
  | keyboardKey keysym state code => exact onDevices_post h (VirtualDevices.key_post h.devices keysym state)
  | controllerButton button state =>
    exact onGamepad_post h (ControllerInputManager.button_post h.gamepad button state)
  | controllerAxis axis value =>
    exact Post.ite (fun _ => Post.error h)
      (fun _ => onGamepad_post h (ControllerInputManager.axis_post h.gamepad axis value))

/-- **One command**: whatever it comes to. -/
theorem handleCommand_post (h : self.Taken env) {copy : Copy} {command : Command}
    {result : Outcome Inputs Inputs} (hresult : self.handleCommand env copy command = some result) :
    Post (Taken env) (Taken env) result := by
  cases command with
  | pointerMove dx dy =>
    obtain rfl := Option.some.inj hresult
    exact pointerMove_post h dx dy
  | pointerButton button state =>
    obtain rfl := Option.some.inj hresult
    exact onDevices_post h (VirtualDevices.pointerButton_post h.devices button state)
  | scroll dx dy finish =>
    obtain rfl := Option.some.inj hresult
    exact scroll_post h dx dy finish
  | externalInput deviceId deviceType event =>
    obtain rfl := Option.some.inj hresult
    exact handleExternalInput_post h deviceType event
  | key keysym state =>
    obtain rfl := Option.some.inj hresult
    exact onDevices_post h (VirtualDevices.key_post h.devices keysym state)
  | text text =>
    obtain rfl := Option.some.inj hresult
    exact sendText_post h text copy
  | shortcut keys =>
    obtain rfl := Option.some.inj hresult
    exact sendShortcut_post h keys
  | _ => cases hresult

end Inputs

/-! ## The absolute pointer -/

namespace AbsolutePointer

structure Taken (env : InputEnv) (done : Bool) (pointer : AbsolutePointer) : Prop where
  absolute : ∀ event ∈ pointer.absolute, absolutePointer.Takes event
  reported : done = true → Reported env.accepts pointer.writes pointer.absolute

variable {env : InputEnv} {self : AbsolutePointer} {done : Bool}

theorem emitAbsolute_post (h : self.Taken env done) {event : InputEvent} (hevent : absolutePointer.Takes event) :
    Post (Taken env false) (Taken env true) (self.emitAbsolute env event) := by
  refine Post.ite (fun _ => Post.ok ?_) (fun hrefused => Post.error ?_)
  · exact ⟨takes_append h.absolute hevent, fun hfalse => absurd hfalse Bool.false_ne_true⟩
  · exact ⟨h.absolute, fun _ => reported_refused hrefused⟩

theorem syncAbsolute_post (h : self.Taken env done) :
    Post (Taken env true) (Taken env true) (self.emitAbsolute env .syn) := by
  refine Post.ite (fun _ => Post.ok ?_) (fun hrefused => Post.error ?_)
  · exact ⟨takes_append h.absolute .syn, fun _ => reported_syn⟩
  · exact ⟨h.absolute, fun _ => reported_refused hrefused⟩

theorem pointerMoveAbsolute_post (h : self.Taken env true) (source : Option ScreenSource) (x y : ℚ) :
    Post (Taken env true) (Taken env true) (Waypad.pointerMoveAbsolute env self source x y) := by
  unfold Waypad.pointerMoveAbsolute
  cases absoluteTarget source x y with
  | error err => exact Post.error h
  | ok point =>
    obtain ⟨hx, hy⟩ := absolute_taken self.bounds point.1 point.2
    refine Post.bind (emitAbsolute_post h hx) (fun p1 h1 => ?_)
    exact Post.bind (emitAbsolute_post h1 hy) (fun p2 h2 => syncAbsolute_post h2)

end AbsolutePointer

/-! ## Runs -/

/-- The desk and its absolute pointer. -/
structure Console where
  desk : Desk
  pointer : AbsolutePointer

namespace Console

structure Setup where
  desk : Desk.Setup
  /-- whether the kernel takes the writes to the absolute pointer -/
  absolute : InputEnv

inductive Act
  /-- `bounds` is what `DesktopBounds::detect` finds, should the devices be made -/
  | desk (act : Desk.Act) (bounds : DesktopBounds)
  /-- `Command::PointerMoveAbsolute` of an authenticated connection, whose source has been looked up -/
  | pointerMoveAbsolute (conn : ConnId) (requestId : String) (source : Option ScreenSource) (x y : ℚ)
      (shown : String)

def init (P : Setup) (bounds : DesktopBounds) : Console :=
  { desk := .init P.desk, pointer := { bounds, absolute := [], writes := 0 } }

/-- The devices are made or destroyed. -/
def renews : Desk.Act → Bool
  | .other act => act.renews
  | .input _ _ _ _ _ => false

def step (P : Setup) (s : Console) : Act → Option Console
  | .desk act bounds => do
    let desk ← Desk.step P.desk s.desk act
    some { desk, pointer := if renews act then { s.pointer with bounds, absolute := [] } else s.pointer }
  | .pointerMoveAbsolute c requestId source x y shown =>
    if (s.desk.host.authenticated c).isSome then do
      let result := Waypad.pointerMoveAbsolute P.absolute s.pointer source x y
      let answer : Except String (Option Value) :=
        match result with
        | .ok _ => .ok none
        | .error (err, _) => .error (err.text shown)
      let host ← Host.step P.desk.host s.desk.host (.command c requestId answer)
      some { desk := { s.desk with host }
             pointer := result.state }
    else none

/-- The devices, with what each has been set up for and what has been written to it. -/
def devices (s : Console) : List (UinputSetup × List InputEvent) :=
  [(relativePointer, s.desk.inputs.devices.relative), (virtualKeyboard, s.desk.inputs.devices.keyboard),
    (absolutePointer, s.pointer.absolute)] ++
    s.desk.inputs.gamepad.backend.toList.map (fun backend => (virtualGamepad, backend.log))

structure Taken (P : Setup) (s : Console) : Prop where
  inputs : s.desk.inputs.Taken P.desk.env
  pointer : s.pointer.Taken P.absolute true

section Runs

variable {P : Setup} {s t : Console} {act : Act}

theorem init_taken (P : Setup) (bounds : DesktopBounds) : (init P bounds).Taken P := by
  refine ⟨⟨VirtualDevices.create_taken P.desk.env, ?_⟩, ⟨?_, fun _ => reported_nil⟩⟩
  · intro backend hbackend
    cases hbackend
  · intro event hevent
    cases hevent

/-- The desk, one step. -/
theorem desk_taken {d e : Desk} {Q : Desk.Setup} {a : Desk.Act} (h : d.inputs.Taken Q.env)
    (hs : Desk.step Q d a = some e) : e.inputs.Taken Q.env := by
  cases a with
  | input c requestId command copy shown =>
    simp only [Desk.step, Desk.stepInput, Option.ite_none_right_eq_some, Option.bind_eq_bind,
      Option.bind_eq_some_iff, Option.some.injEq] at hs
    obtain ⟨-, result, hresult, host, -, rfl⟩ := hs
    exact Outcome.state_post (Inputs.handleCommand_post h hresult)
  | other act =>
    simp only [Desk.step, Option.bind_eq_bind, Option.bind_eq_some_iff, Option.some.injEq] at hs
    obtain ⟨host, -, rfl⟩ := hs
    show Inputs.Taken Q.env (if act.renews then d.inputs.renew else d.inputs)
    split
    · -- nothing has been written to the new devices
      have hnew := VirtualDevices.create_taken Q.env
      refine ⟨⟨hnew.relative, hnew.keyboard, hnew.scrollX, hnew.scrollY, fun _ => reported_nil,
        fun _ => reported_nil⟩, ?_⟩
      intro backend hbackend
      cases hbackend
    · exact h

/-- **One step**. -/
theorem step_taken (h : s.Taken P) (hs : step P s act = some t) : t.Taken P := by
  cases act with
  | desk act bounds =>
    simp only [step, Option.bind_eq_bind, Option.bind_eq_some_iff, Option.some.injEq] at hs
    obtain ⟨desk, hdesk, rfl⟩ := hs
    refine ⟨desk_taken h.inputs hdesk, ?_⟩
    show AbsolutePointer.Taken P.absolute true (if renews act then _ else _)
    split
    · refine ⟨?_, fun _ => reported_nil⟩
      intro event hevent
      cases hevent
    · exact h.pointer
  | pointerMoveAbsolute c requestId source x y shown =>
    simp only [step, Option.ite_none_right_eq_some, Option.bind_eq_bind, Option.bind_eq_some_iff,
      Option.some.injEq] at hs
    obtain ⟨-, host, -, rfl⟩ := hs
    exact ⟨h.inputs, Outcome.state_post (AbsolutePointer.pointerMoveAbsolute_post h.pointer source x y)⟩

theorem runs_taken {bounds : DesktopBounds} {acts : List Act}
    (hr : Trans.Runs (step P) Trans.Free (init P bounds) acts s) : s.Taken P :=
  hr.inv (fun _ _ _ h _ hs => step_taken h hs) (init_taken P bounds)

/-- **Runs**: whatever the connections send and whatever writes the kernel refuses, every event has been
announced with its device and has a value in its range; and with a kernel that takes every write, no device
is left without a `SYN_REPORT`. -/
theorem console_taken {bounds : DesktopBounds} {acts : List Act}
    (hr : Trans.Runs (step P) Trans.Free (init P bounds) acts s) {setup : UinputSetup} {log : List InputEvent}
    (hdevice : (setup, log) ∈ s.devices) :
    (∀ event ∈ log, setup.Takes event) ∧
      (P.desk.env.Willing → P.absolute.Willing → ∀ event, log.getLast? = some event → event = .syn) := by
  have h := runs_taken hr
  simp only [devices, List.cons_append, List.nil_append, List.mem_cons, Prod.mk.injEq, List.mem_map,
    Option.mem_toList] at hdevice
  rcases hdevice with ⟨rfl, rfl⟩ | ⟨rfl, rfl⟩ | ⟨rfl, rfl⟩ | ⟨backend, hbackend, rfl, rfl⟩
  · exact ⟨h.inputs.devices.relative,
      fun hdesk _ _ hlast => (h.inputs.devices.pointerDone rfl).last hdesk.accepts hlast⟩
  · exact ⟨h.inputs.devices.keyboard,
      fun hdesk _ _ hlast => (h.inputs.devices.keysDone rfl).last hdesk.accepts hlast⟩
  · exact ⟨h.pointer.absolute, fun _ habsolute _ hlast => (h.pointer.reported rfl).last habsolute.accepts hlast⟩
  · have hpad := h.inputs.gamepad backend hbackend
    exact ⟨hpad.log, fun hdesk _ _ hlast => (hpad.reported rfl).last (hdesk.padAccepts _) hlast⟩

end Runs

def demoSetup : Setup := { desk := Desk.demoSetup, absolute := .willing }

/-- A phone that has paired tilts a stick, and points at the middle of the desktop. -/
def demoRun : List Act :=
  Host.pairingRun.map (fun act => .desk (.other act) .default) ++
    [.desk (.input 0 "r2" (.externalInput "pad" .gamepad (.controllerAxis "left_y" (-1 / 2))) .missing "")
        .default,
      .desk (.other (.send 0 true)) .default, .pointerMoveAbsolute 0 "r3" none 960 540 ""]

theorem demo_taken : ∃ s, Trans.run (step demoSetup) (init demoSetup .default) demoRun = some s ∧
    s.pointer.absolute = [.abs ABS_X 32768, .abs ABS_Y 32768, .syn] ∧
    (∀ event ∈ s.pointer.absolute, absolutePointer.Takes event) ∧
    ∀ event, s.pointer.absolute.getLast? = some event → event = .syn := by
  obtain ⟨s, hs⟩ : ∃ s, Trans.run (step demoSetup) (init demoSetup .default) demoRun = some s := ⟨_, rfl⟩
  have hwilling : InputEnv.willing.Willing := ⟨fun _ => rfl, fun _ => rfl, fun _ _ => rfl⟩
  have hpointer : (absolutePointer, s.pointer.absolute) ∈ s.devices := by simp [devices]
  obtain ⟨htakes, hlast⟩ := console_taken (Trans.runs_free _ hs) hpointer
  have hwritten : (Trans.run (step demoSetup) (init demoSetup .default) demoRun).map
      (fun s => s.pointer.absolute) = some [.abs ABS_X 32768, .abs ABS_Y 32768, .syn] := by decide +kernel
  rw [hs] at hwritten
  exact ⟨s, hs, Option.some.inj hwritten, htakes, hlast hwilling hwilling⟩

end Console

end Waypad
