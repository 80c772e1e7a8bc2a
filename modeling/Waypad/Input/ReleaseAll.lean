import Waypad.Input.KeyCalls

/-!
# Waypad.Input.ReleaseAll — `release_all` after calls that succeeded (`src/uinput.rs`)

The kernel may refuse any write; a call it refuses one of is no step here.

* `Outcome.Goes`: what succeeds, succeeds under a kernel that takes every write, and comes to the same.
* `heldKeys`: the keys that are down, the events folded one by one.
* `Synced`: every release has been synchronised.
* `DeviceCall.tracked_step`: a call keeps `Tracked`.
* `released_after`: what the kernel holds after `release_all`.
-/

namespace Waypad

namespace Outcome

variable {σ β γ : Type}

/-- Whatever `x` succeeds with, `y` succeeds with. -/
def Goes (x y : Outcome σ β) : Prop := ∀ r, x = .ok r → y = .ok r

theorem Goes.refl (x : Outcome σ β) : Goes x x := fun _ h => h

theorem Goes.bind {x y : Outcome σ β} {f g : β → Outcome σ γ} (hx : Goes x y) (hf : ∀ a, Goes (f a) (g a)) :
    Goes (x >>= f) (y >>= g) := by
  intro r hr
  cases x with
  | error e => cases hr
  | ok a =>
    rw [hx a rfl]
    exact hf a r hr

theorem Goes.ite {p : Prop} [Decidable p] {x x' y y' : Outcome σ β} (hx : Goes x x') (hy : Goes y y') :
    Goes (if p then x else y) (if p then x' else y') := by
  by_cases hp : p
  · rwa [if_pos hp, if_pos hp]
  · rwa [if_neg hp, if_neg hp]

/-- A step that is taken or not, and what follows it. -/
theorem Goes.opt {p : Prop} [Decidable p] {x x' y : Outcome σ β} {f g : β → Outcome σ γ} (hx : Goes x x')
    (hf : ∀ a, Goes (f a) (g a)) :
    Goes (if p then x >>= f else y >>= f) (if p then x' >>= g else y >>= g) :=
  .ite (hx.bind hf) ((Goes.refl y).bind hf)

end Outcome

theorem accepts_willing (i : ℕ) : InputEnv.willing.accepts i = true := rfl

namespace VirtualDevices

open Outcome (Goes)

section Goes

variable (env : InputEnv) (self : VirtualDevices)

theorem emitRelative_goes (event : InputEvent) :
    Goes (self.emitRelative env event) (self.emitRelative .willing event) := by
  intro next h
  unfold emitRelative at h
  split_ifs at h
  rw [emitRelative_ok accepts_willing]
  exact h

theorem emitKeyboard_goes (event : InputEvent) :
    Goes (self.emitKeyboard env event) (self.emitKeyboard .willing event) := by
  intro next h
  unfold emitKeyboard at h
  split_ifs at h
  rw [emitKeyboard_ok accepts_willing]
  exact h

theorem key_goes (keysym : UInt32) (state : ButtonState) :
    Goes (self.key env keysym state) (self.key .willing keysym state) := by
  unfold key
  cases keysymToKey keysym with
  | none => exact .refl _
  | some mapping =>
    apply Goes.opt (emitKeyboard_goes env _ _)
    intro d1
    apply Goes.bind (emitKeyboard_goes env d1 _)
    intro d2
    apply Goes.opt (emitKeyboard_goes env d2 _)
    exact fun d3 => emitKeyboard_goes env d3 _

theorem tap_goes (mapping : KeyMapping) : Goes (self.tap env mapping) (self.tap .willing mapping) := by
  unfold tap
  apply Goes.opt (emitKeyboard_goes env self _)
  intro d1
  apply Goes.bind (emitKeyboard_goes env d1 _)
  intro d2
  apply Goes.bind (emitKeyboard_goes env d2 _)
  intro d3
  apply Goes.opt (emitKeyboard_goes env d3 _)
  exact fun d4 => emitKeyboard_goes env d4 _

theorem taps_goes (mappings : List KeyMapping) :
    Goes (self.taps env mappings) (self.taps .willing mappings) := by
  induction mappings generalizing self with
  | nil => exact .refl _
  | cons mapping rest ih => exact .bind (tap_goes env self mapping) ih

theorem typeText_goes (text : String) :
    Goes (self.typeText env text) (self.typeText .willing text) := by
  unfold typeText
  cases text.toList.mapM charToKey with
  | none => exact .refl _
  | some mappings => exact .bind (taps_goes env self mappings) (fun _ => .refl _)

theorem pointerButton_goes (button : PointerButton) (state : ButtonState) :
    Goes (self.pointerButton env button state) (self.pointerButton .willing button state) := by
  unfold pointerButton
  exact .ite (.refl _) (.bind (emitRelative_goes env _ _) (fun d => emitRelative_goes env d _))

theorem emitAllRelative_goes (events : List InputEvent) :
    Goes (self.emitAllRelative env events) (self.emitAllRelative .willing events) := by
  induction events generalizing self with
  | nil => exact .refl _
  | cons event rest ih => exact .bind (emitRelative_goes env self event) ih

theorem emitAllKeyboard_goes (events : List InputEvent) :
    Goes (self.emitAllKeyboard env events) (self.emitAllKeyboard .willing events) := by
  induction events generalizing self with
  | nil => exact .refl _
  | cons event rest ih => exact .bind (emitKeyboard_goes env self event) ih

theorem releaseAllIn_goes (buttons keys : Finset ℕ → List ℕ) :
    Goes (self.releaseAllIn env buttons keys) (self.releaseAllIn .willing buttons keys) := by
  refine .bind (emitAllRelative_goes env self _) (fun d1 => ?_)
  -- the set has been cleared
  refine .bind (.refl _) (fun d2 => ?_)
  refine .bind (emitAllKeyboard_goes env d2 _) (fun d3 => ?_)
  refine .bind (emitKeyboard_goes env _ _) (fun d4 => ?_)
  exact .bind (emitRelative_goes env d4 _) (fun d5 => emitKeyboard_goes env d5 _)

end Goes

end VirtualDevices

/-! ## What the kernel makes of the events -/

namespace InputEvent

/-- The keys that are down after one more event. -/
def apply (held : Finset ℕ) (self : InputEvent) : Finset ℕ :=
  if self.eventType = evKey then
    if self.value ≠ 0 then insert self.code held else held.erase self.code
  else held

theorem mem_apply (held : Finset ℕ) (self : InputEvent) (code : ℕ) :
    code ∈ self.apply held ↔ (self.effect code).getD (decide (code ∈ held)) = true := by
  unfold apply effect
  by_cases hkey : self.eventType = evKey
  · by_cases hcode : self.code = code
    · by_cases hvalue : self.value = 0
      · simp [hkey, hcode, hvalue]
      · simp [hkey, hcode, hvalue]
    · have hne : code ≠ self.code := Ne.symm hcode
      by_cases hvalue : self.value = 0
      · simp [hkey, hcode, hvalue, hne]
      · simp [hkey, hcode, hvalue, hne]
  · simp [hkey]

/-- The event releases a key or a button. -/
def IsRelease (self : InputEvent) : Prop := self.eventType = evKey ∧ self.value = 0

end InputEvent

/-- The kernel's state: the keys that are down, the events folded one by one. -/
def heldKeys (log : List InputEvent) : Finset ℕ := log.foldl InputEvent.apply ∅

theorem mem_foldl_apply (log : List InputEvent) (held : Finset ℕ) (code : ℕ) :
    code ∈ log.foldl InputEvent.apply held ↔
      (LastWrite.last InputEvent.effect log code).getD (decide (code ∈ held)) = true := by
  induction log generalizing held with
  | nil => simp [LastWrite.last]
  | cons event log ih =>
    rw [List.foldl_cons, ih, LastWrite.last]
    cases LastWrite.last InputEvent.effect log code with
    | some value => rfl
    | none => simp [InputEvent.mem_apply]

/-- The fold and the last event for each code agree. -/
theorem mem_heldKeys (log : List InputEvent) (code : ℕ) : code ∈ heldKeys log ↔ down log code = true := by
  rw [heldKeys, mem_foldl_apply]
  rfl

/-- Every release of a key has been followed by a synchronisation. -/
def Synced (log : List InputEvent) : Prop :=
  ∀ before event after, log = before ++ event :: after → event.IsRelease → .syn ∈ after

theorem synced_syn (log : List InputEvent) : Synced (log ++ [.syn]) := by
  intro before event after heq hrelease
  rcases List.eq_nil_or_concat' after with rfl | ⟨rest, last, rfl⟩
  · obtain ⟨-, hevent⟩ := List.append_inj' heq rfl
    obtain rfl := List.singleton_injective hevent
    exact absurd hrelease.1 (by decide)
  · rw [← List.cons_append, ← List.append_assoc] at heq
    obtain ⟨-, hlast⟩ := List.append_inj' heq rfl
    obtain rfl := List.singleton_injective hlast
    exact List.mem_append_right rest List.mem_cons_self

/-! ## Calls -/

inductive DeviceCall
  | key (keysym : UInt32) (state : ButtonState)
  | text (text : String)
  | pointerButton (button : PointerButton) (state : ButtonState)
  deriving DecidableEq, Repr

namespace DeviceCall

/-- A call that succeeds. -/
def step (env : InputEnv) (self : VirtualDevices) : DeviceCall → Option VirtualDevices
  | .key keysym state => (self.key env keysym state).toOption
  | .text typed => (self.typeText env typed).toOption.map Prod.snd
  | .pointerButton button state => (self.pointerButton env button state).toOption

theorem toOption_some {σ β : Type} {x : Outcome σ β} {r : β} (h : x.toOption = some r) : x = .ok r := by
  cases x with
  | error e => cases h
  | ok a => exact congrArg Except.ok (Option.some.inj h)

variable {env : InputEnv} {self next : VirtualDevices}

theorem tracked_key (ht : self.Tracked) {keysym : UInt32} {state : ButtonState}
    (hs : self.key env keysym state = .ok next) : next.Tracked := by
  have hwilling := VirtualDevices.key_goes env self keysym state next hs
  cases hmap : keysymToKey keysym with
  | none =>
    unfold VirtualDevices.key at hs
    rw [hmap] at hs
    cases hs
  | some mapping =>
    obtain ⟨other, hother, h⟩ := VirtualDevices.key_leaves accepts_willing ht hmap state
    obtain rfl := Except.ok.inj (hwilling.symm.trans hother)
    exact h.inv

theorem tracked_text (ht : self.Tracked) {text : String} {typed : Bool}
    (hs : self.typeText env text = .ok (typed, next)) : next.Tracked := by
  have hwilling := VirtualDevices.typeText_goes env self text _ hs
  unfold VirtualDevices.typeText at hwilling
  cases hmap : text.toList.mapM charToKey with
  | none =>
    rw [hmap] at hwilling
    obtain ⟨-, rfl⟩ := Prod.mk.inj (Except.ok.inj hwilling)
    exact ht
  | some mappings =>
    obtain ⟨other, hother, h⟩ := VirtualDevices.taps_leaves accepts_willing ht mappings
    simp only [hmap, hother, bind, Except.bind] at hwilling
    obtain ⟨-, rfl⟩ := Prod.mk.inj (Except.ok.inj hwilling)
    exact h.inv

theorem tracked_button (ht : self.Tracked) {button : PointerButton} {state : ButtonState}
    (hs : self.pointerButton env button state = .ok next) : next.Tracked := by
  have hwilling := VirtualDevices.pointerButton_goes env self button state next hs
  have h := VirtualDevices.pointerButton_leaves accepts_willing ht button state
  rw [hwilling] at h
  exact h.inv

/-- **The step lemma**: a call that succeeds keeps track of what is down. -/
theorem tracked_step (ht : self.Tracked) {call : DeviceCall} (hs : call.step env self = some next) :
    next.Tracked := by
  cases call with
  | key keysym state => exact tracked_key ht (toOption_some hs)
  | text typed =>
    obtain ⟨⟨done, other⟩, hother, rfl⟩ := Option.map_eq_some_iff.mp hs
    exact tracked_text ht (toOption_some hother)
  | pointerButton button state => exact tracked_button ht (toOption_some hs)

end DeviceCall

namespace VirtualDevices

/-- The calls one after the other, each of which succeeds. -/
def calls (env : InputEnv) : VirtualDevices → List DeviceCall → Option VirtualDevices :=
  Trans.run (fun self call => call.step env self)

theorem calls_tracked {env : InputEnv} {made : List DeviceCall} {self : VirtualDevices}
    (hcalls : calls env .create made = some self) : self.Tracked :=
  (Trans.runs_free made hcalls).inv (fun _ _ _ ht _ hs => DeviceCall.tracked_step ht hs) create_tracked

/-- **After `release_all`**: when the calls before it and `release_all` itself have succeeded, the kernel
holds no key and no button, and both devices have been synchronised after the last release, in whatever
order the sets are walked. -/
theorem released_after {env : InputEnv} {made : List DeviceCall} {self next : VirtualDevices}
    {buttons keys : Finset ℕ → List ℕ} (hbuttons : Walks buttons) (hkeys : Walks keys)
    (hcalls : calls env .create made = some self)
    (hrelease : self.releaseAllIn env buttons keys = .ok next) :
    heldKeys next.keyboard = ∅ ∧ heldKeys next.relative = ∅ ∧ Synced next.keyboard ∧ Synced next.relative := by
  have ht := calls_tracked hcalls
  obtain ⟨other, hother, h⟩ := releaseAllIn_released accepts_willing self buttons keys
  obtain rfl := Except.ok.inj ((releaseAllIn_goes env self buttons keys next hrelease).symm.trans hother)
  refine ⟨?_, ?_, ?_, ?_⟩
  · refine Finset.eq_empty_of_forall_notMem (fun code hmem => ?_)
    rw [mem_heldKeys, h.keyboard_up ht hkeys] at hmem
    cases hmem
  · refine Finset.eq_empty_of_forall_notMem (fun code hmem => ?_)
    rw [mem_heldKeys, h.relative_up ht hbuttons] at hmem
    cases hmem
  · rw [h.keyboard]
    exact synced_syn _
  · rw [h.relative]
    exact synced_syn _

/-- A shifted symbol is held while a text and a drag go on. -/
def draggingCalls : List DeviceCall :=
  [.key 0x41 .pressed, .text "Ah", .pointerButton .left .pressed, .key 0xffe3 .pressed]

theorem released_after_demo : ∃ self next,
    calls .willing .create draggingCalls = some self ∧
      self.releaseAllIn .willing (Finset.sort · (· ≤ ·)) (Finset.sort · (· ≤ ·)) = .ok next ∧
      heldKeys next.keyboard = ∅ ∧ heldKeys next.relative = ∅ ∧ Synced next.keyboard ∧
      Synced next.relative := by
  have hsome : (calls .willing .create draggingCalls).isSome = true := by decide
  obtain ⟨self, hself⟩ := Option.isSome_iff_exists.mp hsome
  obtain ⟨next, hnext, -⟩ := releaseAllIn_released accepts_willing self
    (Finset.sort · (· ≤ ·)) (Finset.sort · (· ≤ ·))
  exact ⟨self, next, hself, hnext, released_after walks_sort walks_sort hself hnext⟩

end VirtualDevices

end Waypad
