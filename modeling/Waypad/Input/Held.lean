import Waypad.Input.Uinput

/-!
# Waypad.Input.Held — what the operations of the virtual devices leave held

For a kernel that takes every write.

* `Tracked`: what `pressed_keys` and `pressed_buttons` know of the keys that are down.
* `Leaves`: which keys an operation touches, and how it leaves them.
* `key_leaves`, `text_leaves`, `pointerButton_leaves`, `pointerMove_quiet`, `scroll_quiet`.
* `releaseAllIn`: `release_all`, whatever the order it walks its sets in; `Released`: what it writes.
-/

namespace Waypad

/-- A key or button of the three devices. -/
inductive HeldKey
  | keyboard (code : ℕ)
  | pointer (code : ℕ)
  | gamepad (code : ℕ)
  deriving DecidableEq, Repr

/-- The state an operation ends in, whether or not it fails. -/
def Outcome.state {σ : Type} : Outcome σ σ → σ
  | .ok next => next
  | .error (_, next) => next

@[simp] theorem Outcome.state_ok {σ : Type} (next : σ) :
    Outcome.state (.ok next : Outcome σ σ) = next := rfl

@[simp] theorem Outcome.state_error {σ : Type} (error : InputError) (next : σ) :
    Outcome.state (.error (error, next) : Outcome σ σ) = next := rfl

/-- The mappings' keys are left in one state. -/
def leavesAll (mappings : List KeyMapping) (held : Bool) : HeldKey → Option Bool
  | .keyboard code => if ∃ mapping ∈ mappings, mapping.Touches code then some held else none
  | _ => none

theorem leavesAll_false (mappings : List KeyMapping) (k : HeldKey) :
    leavesAll mappings false k ≠ some true := by
  cases k with
  | keyboard code =>
    unfold leavesAll
    split <;> simp
  | pointer code => simp [leavesAll]
  | gamepad code => simp [leavesAll]

namespace VirtualDevices

def held (self : VirtualDevices) : HeldKey → Bool
  | .keyboard code => down self.keyboard code
  | .pointer code => down self.relative code
  | .gamepad _ => false

/-- The sets follow the devices; a Shift that goes with a symbol is not tracked. -/
structure Tracked (devices : VirtualDevices) : Prop where
  buttons : ∀ code, down devices.relative code = decide (code ∈ devices.pressedButtons)
  keys : ∀ code, down devices.keyboard code = true → code ∈ devices.pressedKeys ∨ code = Key.leftShift

theorem create_tracked : create.Tracked :=
  { buttons := fun code => rfl, keys := fun code h => by cases h }

/-- The operation leads from `devices` to `next`, and leaves the keys as `effect` says. -/
abbrev Leaves (devices next : VirtualDevices) (effect : HeldKey → Option Bool) : Prop :=
  LastWrite.Leaves Tracked held devices next effect

section Ops

variable {env : InputEnv} {self : VirtualDevices}

theorem emitRelative_ok (hok : ∀ i, env.accepts i = true) (event : InputEvent) :
    self.emitRelative env event =
      .ok { self with relative := self.relative ++ [event], writes := self.writes + 1 } :=
  if_pos (hok _)

theorem emitKeyboard_ok (hok : ∀ i, env.accepts i = true) (event : InputEvent) :
    self.emitKeyboard env event =
      .ok { self with keyboard := self.keyboard ++ [event], writes := self.writes + 1 } :=
  if_pos (hok _)

/-- The keyboard gets some events, and nothing else happens but in `pressed_keys`. -/
structure Typed (devices next : VirtualDevices) (events : List InputEvent) (keys : Finset ℕ) : Prop where
  keyboard : next.keyboard = devices.keyboard ++ events
  relative : next.relative = devices.relative
  buttons : next.pressedButtons = devices.pressedButtons
  keys : next.pressedKeys = keys

/-- **`key`** of a mapped keysym. -/
theorem key_typed (self : VirtualDevices) (hok : ∀ i, env.accepts i = true) {keysym : UInt32}
    {mapping : KeyMapping} (hmap : keysymToKey keysym = some mapping) (state : ButtonState) :
    ∃ next, self.key env keysym state = .ok next ∧ Typed self next (mapping.events state)
      (match state with
        | .pressed => insert mapping.code self.pressedKeys
        | .released => self.pressedKeys.erase mapping.code) := by
  obtain ⟨code, shift⟩ := mapping
  unfold key
  rw [hmap]
  cases state <;> cases shift <;>
    simp only [ButtonState.uinputValue, syncKeyboard, emitKeyboard_ok hok, bind, Except.bind,
      Bool.false_eq_true, false_and, true_and, one_ne_zero, zero_ne_one, ↓reduceIte] <;>
    exact ⟨_, rfl,
      { keyboard := by simp [KeyMapping.events], relative := rfl, buttons := rfl, keys := rfl }⟩

/-- One character. -/
theorem tap_typed (self : VirtualDevices) (hok : ∀ i, env.accepts i = true) (mapping : KeyMapping) :
    ∃ next, self.tap env mapping = .ok next ∧
      Typed self next mapping.tapEvents self.pressedKeys := by
  obtain ⟨code, shift⟩ := mapping
  unfold tap
  cases shift <;>
    simp only [syncKeyboard, emitKeyboard_ok hok, bind, Except.bind, Bool.false_eq_true, ↓reduceIte] <;>
    exact ⟨_, rfl,
      { keyboard := by simp [KeyMapping.tapEvents], relative := rfl, buttons := rfl, keys := rfl }⟩

/-- From the events to what they leave. -/
theorem Typed.leaves {devices next : VirtualDevices} {events : List InputEvent} {keys : Finset ℕ}
    {mappings : List KeyMapping} {pressed : Bool} (h : Typed devices next events keys)
    (ht : devices.Tracked)
    (hlast : ∀ code, LastWrite.last InputEvent.effect events code =
      if ∃ mapping ∈ mappings, mapping.Touches code then some pressed else none)
    (hkeys : ∀ code, down next.keyboard code = true → code ∈ keys ∨ code = Key.leftShift) :
    Leaves devices next (leavesAll mappings pressed) := by
  refine { inv := { buttons := ?_, keys := ?_ }, cells := ?_ }
  · rw [h.relative, h.buttons]
    exact ht.buttons
  · rw [h.keys]
    exact hkeys
  · intro k
    cases k with
    | keyboard code =>
      rw [held, h.keyboard, down_append, hlast]
      rfl
    | pointer code =>
      rw [held, h.relative]
      rfl
    | gamepad code => rfl

theorem key_leaves (hok : ∀ i, env.accepts i = true) (ht : self.Tracked) {keysym : UInt32}
    {mapping : KeyMapping} (hmap : keysymToKey keysym = some mapping) (state : ButtonState) :
    ∃ next, self.key env keysym state = .ok next ∧ Leaves self next (leavesAll [mapping] state.down) := by
  obtain ⟨next, hnext, h⟩ := key_typed self hok hmap state
  refine ⟨next, hnext, h.leaves ht (fun code => ?_) (fun code hdown => ?_)⟩
  · rw [last_events]
    simp
  · rw [h.keyboard, down_append, last_events] at hdown
    split_ifs at hdown with htouch
    · cases state with
      | released => cases hdown
      | pressed =>
        rcases htouch with rfl | ⟨-, hshift⟩
        · exact Or.inl (Finset.mem_insert_self _ _)
        · exact Or.inr hshift
    · have hne : code ≠ mapping.code := fun he => htouch (Or.inl he)
      refine (ht.keys code hdown).imp_left (fun hmem => ?_)
      cases state with
      | pressed => exact Finset.mem_insert_of_mem hmem
      | released => exact Finset.mem_erase.mpr ⟨hne, hmem⟩

/-! ## `text` -/

theorem taps_typed (self : VirtualDevices) (hok : ∀ i, env.accepts i = true) (mappings : List KeyMapping) :
    ∃ next, self.taps env mappings = .ok next ∧
      Typed self next (mappings.flatMap KeyMapping.tapEvents) self.pressedKeys := by
  induction mappings generalizing self with
  | nil =>
    exact ⟨self, rfl,
      { keyboard := (List.append_nil _).symm, relative := rfl, buttons := rfl, keys := rfl }⟩
  | cons mapping rest ih =>
    obtain ⟨mid, hmid, h1⟩ := tap_typed self hok mapping
    obtain ⟨next, hnext, h2⟩ := ih mid
    refine ⟨next, ?_, ?_⟩
    · simp only [taps, hmid, bind, Except.bind, hnext]
    · exact
        { keyboard := by rw [h2.keyboard, h1.keyboard, List.append_assoc, List.flatMap_cons]
          relative := h2.relative.trans h1.relative
          buttons := h2.buttons.trans h1.buttons
          keys := h2.keys.trans h1.keys }

theorem last_tapped (mappings : List KeyMapping) (code : ℕ) :
    LastWrite.last InputEvent.effect (mappings.flatMap KeyMapping.tapEvents) code =
      if ∃ mapping ∈ mappings, mapping.Touches code then some false else none := by
  rw [LastWrite.last_flatMap]
  split_ifs with h
  · obtain ⟨mapping, hmem, htouch⟩ := h
    refine LastWrite.last_const (fun other _ => ?_) ⟨mapping, hmem, ?_⟩
    · rw [last_tapEvents]
      split_ifs
      · exact Or.inr rfl
      · exact Or.inl rfl
    · rw [last_tapEvents, if_pos htouch]
  · refine LastWrite.last_none (fun mapping hmem => ?_)
    rw [last_tapEvents, if_neg (fun htouch => h ⟨mapping, hmem, htouch⟩)]

/-- What is typed is released. -/
theorem taps_leaves (hok : ∀ i, env.accepts i = true) (ht : self.Tracked) (mappings : List KeyMapping) :
    ∃ next, self.taps env mappings = .ok next ∧ Leaves self next (leavesAll mappings false) := by
  obtain ⟨next, hnext, h⟩ := taps_typed self hok mappings
  refine ⟨next, hnext, h.leaves ht (last_tapped mappings) (fun code hdown => ?_)⟩
  rw [h.keyboard, down_append, last_tapped] at hdown
  split_ifs at hdown
  · cases hdown
  · exact ht.keys code hdown

/-- The paste shortcut of the fallback. -/
theorem paste_leaves (hok : ∀ i, env.accepts i = true) (ht : self.Tracked) :
    ∃ next, (do
        let self ← self.key env 0xffe3 .pressed
        let self ← self.key env 0x76 .pressed
        let self ← self.key env 0x76 .released
        self.key env 0xffe3 .released) = .ok next ∧
      Leaves self next (leavesAll [plain Key.leftCtrl, plain 47] false) := by
  have hctrl : keysymToKey 0xffe3 = some (plain Key.leftCtrl) := by decide
  have hv : keysymToKey 0x76 = some (plain 47) := by decide
  -- Ctrl down, V down, V up, Ctrl up
  obtain ⟨d1, hd1, h1⟩ := key_leaves hok ht hctrl .pressed
  obtain ⟨d2, hd2, h2⟩ := key_leaves hok h1.inv hv .pressed
  obtain ⟨d3, hd3, h3⟩ := key_leaves hok h2.inv hv .released
  obtain ⟨d4, hd4, h4⟩ := key_leaves hok h3.inv hctrl .released
  refine ⟨d4, ?_, (h1.trans (h2.trans (h3.trans h4))).congr (fun k => ?_)⟩
  · simp only [hd1, hd2, hd3, hd4, bind, Except.bind]
  · cases k with
    | keyboard code =>
      simp only [leavesAll, exists_eq_left, List.mem_cons, List.not_mem_nil, or_false,
        exists_eq_or_imp, ButtonState.down]
      by_cases hc : (plain Key.leftCtrl).Touches code <;> by_cases hv : (plain 47).Touches code <;>
        simp [hc, hv]
    | pointer code => rfl
    | gamepad code => rfl

/-- What `text` leaves. -/
def textLeaves (text : String) (copy : Copy) : HeldKey → Option Bool :=
  if text.isEmpty ∨ 4096 < text.utf8ByteSize then fun _ => none
  else match text.toList.mapM charToKey with
  | some mappings => leavesAll mappings false
  | none => if copy = .taken then leavesAll [plain Key.leftCtrl, plain 47] false else fun _ => none

/-- What a text presses, it releases. -/
theorem textLeaves_false (text : String) (copy : Copy) (k : HeldKey) :
    textLeaves text copy k ≠ some true := by
  have hnone : (none : Option Bool) ≠ some true := Option.some_ne_none true |>.symm
  unfold textLeaves
  split
  · exact hnone
  cases text.toList.mapM charToKey with
  | some mappings => exact leavesAll_false mappings k
  | none =>
    dsimp only
    split
    · exact leavesAll_false _ k
    · exact hnone

theorem textLeaves_gamepad (text : String) (copy : Copy) (code : ℕ) :
    textLeaves text copy (.gamepad code) = none := by
  unfold textLeaves
  split
  · rfl
  cases text.toList.mapM charToKey with
  | some mappings => rfl
  | none => cases copy <;> rfl

theorem text_leaves (hok : ∀ i, env.accepts i = true) (ht : self.Tracked) (text : String)
    (copy : Copy) : Leaves self (self.text env text copy).state (textLeaves text copy) := by
  unfold VirtualDevices.text textLeaves
  by_cases hempty : text.isEmpty = true
  · rw [if_pos hempty, if_pos (Or.inl hempty)]
    exact LastWrite.Leaves.refl ht
  by_cases hsize : 4096 < text.utf8ByteSize
  · rw [if_neg hempty, if_pos hsize, if_pos (Or.inr hsize)]
    exact LastWrite.Leaves.refl ht
  have hno : ¬ (text.isEmpty = true ∨ 4096 < text.utf8ByteSize) := fun h => h.elim hempty hsize
  rw [if_neg hempty, if_neg hsize, if_neg hno]
  cases text.toList.mapM charToKey with
  | some mappings =>
    obtain ⟨next, hnext, h⟩ := taps_leaves hok ht mappings
    dsimp only
    rw [hnext]
    exact h
  | none =>
    cases copy with
    | missing | failed => exact LastWrite.Leaves.refl ht
    | taken =>
      obtain ⟨next, hnext, h⟩ := paste_leaves hok ht
      dsimp only
      rw [hnext]
      exact h

/-! ## The pointer -/

/-- What `pointer_button` leaves. -/
def pointerLeaves (button : PointerButton) (state : ButtonState) : HeldKey → Option Bool
  | .pointer code => if code = button.uinputCode then some state.down else none
  | _ => none

/-- The button is already as it should be. -/
theorem pointer_same (ht : self.Tracked) {button : PointerButton} {state : ButtonState}
    (hsame : (state.uinputValue == 1) = decide (button.uinputCode ∈ self.pressedButtons)) :
    Leaves self self (pointerLeaves button state) := by
  refine { inv := ht, cells := fun k => ?_ }
  cases k with
  | pointer code =>
    show down self.relative code =
      ((if code = button.uinputCode then some state.down else none) : Option Bool).getD
        (down self.relative code)
    by_cases hcode : code = button.uinputCode
    · have hdown : (state.uinputValue == 1) = state.down := by cases state <;> rfl
      rw [if_pos hcode, hcode, ht.buttons, ← hsame, hdown, Option.getD_some]
    · rw [if_neg hcode, Option.getD_none]
  | keyboard code => rfl
  | gamepad code => rfl

theorem pointerButton_leaves (hok : ∀ i, env.accepts i = true) (ht : self.Tracked)
    (button : PointerButton) (state : ButtonState) :
    Leaves self (self.pointerButton env button state).state (pointerLeaves button state) := by
  unfold pointerButton
  dsimp only
  split
  · -- the button is that way already, for the caches and so for the device
    next hsame => exact pointer_same ht hsame
  · simp only [syncRelative, emitRelative_ok hok, bind, Except.bind, Outcome.state_ok, List.append_assoc,
      List.singleton_append]
    have hdown : ∀ code,
        down (self.relative ++ [.key button.uinputCode state.uinputValue, .syn]) code =
          ((if code = button.uinputCode then some state.down else none) : Option Bool).getD
            (down self.relative code) := by
      intro code
      rw [down_append, last_button]
    refine { inv := { buttons := fun code => ?_, keys := ht.keys }, cells := fun k => ?_ }
    · have hbuttons := ht.buttons code
      dsimp only
      rw [hdown, hbuttons]
      by_cases hcode : code = button.uinputCode
      · subst hcode
        cases state <;> simp [ButtonState.down, ButtonState.uinputValue]
      · cases state <;> simp [ButtonState.uinputValue, hcode]
    · cases k with
      | pointer code => exact hdown code
      | keyboard code => rfl
      | gamepad code => rfl

/-- The operation succeeds and touches no key. -/
def Quiet (devices : VirtualDevices) (result : Outcome VirtualDevices VirtualDevices) : Prop :=
  ∃ next, result = .ok next ∧ Leaves devices next (fun _ => none)

theorem quiet_ok (ht : self.Tracked) : Quiet self (.ok self) := ⟨self, rfl, LastWrite.Leaves.refl ht⟩

theorem Quiet.after {devices : VirtualDevices} {result : Outcome VirtualDevices VirtualDevices}
    (h : Leaves self devices (fun _ => none)) (hq : Quiet devices result) : Quiet self result := by
  obtain ⟨next, hnext, hleaves⟩ := hq
  exact ⟨next, hnext, h.trans hleaves⟩

theorem Quiet.bind {result : Outcome VirtualDevices VirtualDevices}
    {rest : VirtualDevices → Outcome VirtualDevices VirtualDevices} (h : Quiet self result)
    (hrest : ∀ next : VirtualDevices, next.Tracked → Quiet next (rest next)) :
    Quiet self (result >>= rest) := by
  obtain ⟨mid, rfl, hmid⟩ := h
  exact (hrest mid hmid.inv).after hmid

/-- An event that is no key event. -/
theorem emitRelative_quiet (hok : ∀ i, env.accepts i = true) (ht : self.Tracked) {event : InputEvent}
    (hevent : ∀ code, event.effect code = none) : Quiet self (self.emitRelative env event) := by
  have hdown : ∀ code, down (self.relative ++ [event]) code = down self.relative code := by
    intro code
    rw [down_append, LastWrite.last_singleton, hevent]
    rfl
  refine ⟨_, emitRelative_ok hok event,
    { inv := { buttons := fun code => ?_, keys := ht.keys }, cells := fun k => ?_ }⟩
  · exact (hdown code).trans (ht.buttons code)
  · cases k with
    | pointer code => exact hdown code
    | keyboard code => rfl
    | gamepad code => rfl

theorem syncRelative_quiet (hok : ∀ i, env.accepts i = true) (ht : self.Tracked) :
    Quiet self (self.syncRelative env) :=
  emitRelative_quiet hok ht effect_syn

theorem pointerMove_quiet (hok : ∀ i, env.accepts i = true) (ht : self.Tracked) (dx dy : ℚ) :
    Quiet self (self.pointerMove env dx dy) := by
  have hvertical : ∀ d : VirtualDevices, d.Tracked → Quiet d (do
      let d ← if roundCoord dy ≠ 0 then d.emitRelative env (.rel relY (roundCoord dy)) else .ok d
      d.syncRelative env) := by
    intro d hd
    split
    · exact (emitRelative_quiet hok hd (effect_rel _ _)).bind (fun _ h => syncRelative_quiet hok h)
    · exact syncRelative_quiet hok hd
  unfold pointerMove
  dsimp only
  split
  · exact quiet_ok ht
  · split
    · exact (emitRelative_quiet hok ht (effect_rel _ _)).bind hvertical
    · exact hvertical self ht

/-- The two events of a wheel, and what follows. -/
theorem wheel_quiet (hok : ∀ i, env.accepts i = true) (ht : self.Tracked) (axis hiRes : ℕ) (detents : ℤ)
    {rest : VirtualDevices → Outcome VirtualDevices VirtualDevices}
    (hrest : ∀ next : VirtualDevices, next.Tracked → Quiet next (rest next)) :
    Quiet self (do
      let self ← self.emitRelative env (.rel axis detents)
      let self ← self.emitRelative env (.rel hiRes (detents * 120))
      rest self) :=
  (emitRelative_quiet hok ht (effect_rel _ _)).bind
    (fun _ h => (emitRelative_quiet hok h (effect_rel _ _)).bind hrest)

theorem scroll_quiet (hok : ∀ i, env.accepts i = true) (ht : self.Tracked) (dx dy : ℚ) (finish : Bool) :
    Quiet self (self.scroll env dx dy finish) := by
  unfold scroll
  dsimp only
  generalize takeScrollDetents (self.scrollXRemainder + dx) finish = horizontal
  generalize takeScrollDetents (self.scrollYRemainder + dy) finish = vertical
  have hrest : ∀ d : VirtualDevices, d.Tracked → Quiet d (do
      let d ← if horizontal.1 ≠ 0 then do
          let d ← d.emitRelative env (.rel relHwheel horizontal.1)
          d.emitRelative env (.rel relHwheelHiRes (horizontal.1 * 120))
        else .ok d
      d.syncRelative env) := by
    intro d hd
    split
    · exact wheel_quiet hok hd _ _ _ (fun _ h => syncRelative_quiet hok h)
    · exact syncRelative_quiet hok hd
  -- the remainders are no part of what is held
  have hself : Leaves self { self with scrollXRemainder := horizontal.2, scrollYRemainder := vertical.2 }
      (fun _ => none) :=
    { inv := { buttons := ht.buttons, keys := ht.keys }, cells := fun k => by cases k <;> rfl }
  apply Quiet.after hself
  split
  · exact quiet_ok hself.inv
  · split
    · exact wheel_quiet hok hself.inv _ _ _ hrest
    · exact hrest _ hself.inv

/-! ## `release_all` -/

theorem emitAllRelative_ok (hok : ∀ i, env.accepts i = true) (events : List InputEvent) :
    self.emitAllRelative env events =
      .ok { self with relative := self.relative ++ events, writes := self.writes + events.length } := by
  induction events generalizing self with
  | nil => simp [emitAllRelative]
  | cons event rest ih =>
    simp only [emitAllRelative, emitRelative_ok hok, bind, Except.bind, ih, List.append_assoc,
      List.singleton_append, List.length_cons]
    congr 2
    omega

theorem emitAllKeyboard_ok (hok : ∀ i, env.accepts i = true) (events : List InputEvent) :
    self.emitAllKeyboard env events =
      .ok { self with keyboard := self.keyboard ++ events, writes := self.writes + events.length } := by
  induction events generalizing self with
  | nil => simp [emitAllKeyboard]
  | cons event rest ih =>
    simp only [emitAllKeyboard, emitKeyboard_ok hok, bind, Except.bind, ih, List.append_assoc,
      List.singleton_append, List.length_cons]
    congr 2
    omega

/-- The release events of some keys. -/
abbrev released (codes : List ℕ) : List InputEvent := codes.map (fun code => .key code 0)

theorem last_released (codes : List ℕ) (code : ℕ) :
    LastWrite.last InputEvent.effect (released codes) code = if code ∈ codes then some false else none := by
  have heffect : ∀ event ∈ released codes, event.effect code = none ∨ event.effect code = some false := by
    intro event hmem
    obtain ⟨other, -, rfl⟩ := List.mem_map.mp hmem
    rw [effect_key]
    split
    · exact Or.inr rfl
    · exact Or.inl rfl
  split_ifs with hmem
  · exact LastWrite.last_const heffect ⟨.key code 0, List.mem_map.mpr ⟨code, hmem, rfl⟩, by simp [effect_key]⟩
  · refine LastWrite.last_none (fun event hevent => ?_)
    obtain ⟨other, hother, rfl⟩ := List.mem_map.mp hevent
    have hne : other ≠ code := fun he => hmem (he ▸ hother)
    rw [effect_key, if_neg hne]

/-- `release_all`, when the sets are walked in the given orders. -/
def releaseAllIn (env : InputEnv) (self : VirtualDevices) (buttons keys : Finset ℕ → List ℕ) :
    Outcome VirtualDevices VirtualDevices := do
  let self ← self.emitAllRelative env (released (buttons self.pressedButtons))
  let self := { self with pressedButtons := ∅ }
  -- as in the source: the set has just been cleared, so this never writes
  let self ← if self.pressedButtons ≠ ∅ then self.syncRelative env else .ok self
  let self ← self.emitAllKeyboard env (released (keys self.pressedKeys))
  let self := { self with pressedKeys := ∅ }
  let self ← self.emitKeyboard env (.key Key.leftShift 0)
  let self ← self.syncRelative env
  self.syncKeyboard env

/-- The order walks over the whole set, and over nothing else. -/
def Walks (order : Finset ℕ → List ℕ) : Prop := ∀ codes code, code ∈ order codes ↔ code ∈ codes

theorem walks_sort : Walks (Finset.sort · (· ≤ ·)) := fun _ _ => Finset.mem_sort _

/-- What `release_all` writes. -/
structure Released (devices next : VirtualDevices) (buttons keys : Finset ℕ → List ℕ) : Prop where
  relative : next.relative = devices.relative ++ released (buttons devices.pressedButtons) ++ [.syn]
  keyboard : next.keyboard =
    devices.keyboard ++ released (keys devices.pressedKeys) ++ [.key Key.leftShift 0] ++ [.syn]
  noButtons : next.pressedButtons = ∅
  noKeys : next.pressedKeys = ∅

theorem releaseAllIn_released (hok : ∀ i, env.accepts i = true) (self : VirtualDevices)
    (buttons keys : Finset ℕ → List ℕ) :
    ∃ next, self.releaseAllIn env buttons keys = .ok next ∧ Released self next buttons keys := by
  unfold releaseAllIn
  simp only [emitAllRelative_ok hok, emitAllKeyboard_ok hok, emitKeyboard_ok hok, emitRelative_ok hok,
    syncRelative, syncKeyboard, bind, Except.bind, ne_eq, not_true_eq_false, ↓reduceIte]
  exact ⟨_, rfl, { relative := rfl, keyboard := rfl, noButtons := rfl, noKeys := rfl }⟩

section Released

variable {next : VirtualDevices} {buttons keys : Finset ℕ → List ℕ}

theorem Released.relative_up (h : Released self next buttons keys) (ht : self.Tracked)
    (hbuttons : Walks buttons) (code : ℕ) : down next.relative code = false := by
  rw [h.relative, down_append, down_append, LastWrite.last_singleton, effect_syn, last_released]
  split_ifs with hmem
  · rfl
  · rw [hbuttons] at hmem
    rw [Option.getD_none, Option.getD_none, ht.buttons code, decide_eq_false hmem]

theorem Released.keyboard_up (h : Released self next buttons keys) (ht : self.Tracked)
    (hkeys : Walks keys) (code : ℕ) : down next.keyboard code = false := by
  rw [h.keyboard, down_append, down_append, down_append, LastWrite.last_singleton, LastWrite.last_singleton,
    effect_syn, effect_key, last_released]
  split_ifs with hshift hmem hmem
  · rfl
  · rfl
  · rfl
  · -- neither tracked nor Shift
    show down self.keyboard code = false
    rw [← Bool.not_eq_true]
    intro hdown
    rcases ht.keys code hdown with hkey | hkey
    · exact hmem ((hkeys _ code).mpr hkey)
    · exact hshift hkey.symm

end Released

end Ops

end VirtualDevices

end Waypad
