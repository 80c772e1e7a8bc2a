import Waypad.Input.Held

/-!
# Waypad.Input.KeyCalls — `key` and `text` against what the client holds (`src/uinput.rs`)

A client holds the keysyms whose last `key` call was a press.  Several keysyms have one key, and Shift is a
key of its own as well as part of every shifted symbol.

* `KeyClient`: the devices and the keysyms the client holds; `KeyCall`, `step`.
* `Wanted`: the keys that go with what the client holds; `Exact`: just these are down.
* `Spares`: a call releases no key that goes with another keysym the client holds.
* `exact_step`, `exact_iff`: all states of a run are exact when all its calls spare.
-/

namespace Waypad

namespace VirtualDevices

/-- `VirtualInputBackend::text`: `false`, and nothing typed, when a character has no key. -/
def typeText (env : InputEnv) (self : VirtualDevices) (text : String) :
    Outcome VirtualDevices (Bool × VirtualDevices) :=
  match text.toList.mapM charToKey with
  | none => .ok (false, self)
  | some mappings => do
    let self ← self.taps env mappings
    .ok (true, self)

end VirtualDevices

/-- The state an operation with a result ends in, whether or not it fails. -/
def Outcome.stateOf {σ β : Type} : Outcome σ (β × σ) → σ
  | .ok (_, next) => next
  | .error (_, next) => next

inductive KeyCall
  | key (keysym : UInt32) (state : ButtonState)
  | text (text : String)
  deriving DecidableEq, Repr

structure KeyClient where
  devices : VirtualDevices
  /-- the keysyms whose last `key` call was a press -/
  pressed : Finset UInt32

namespace KeyClient

def start : KeyClient := { devices := .create, pressed := ∅ }

def step (env : InputEnv) (s : KeyClient) : KeyCall → Option KeyClient
  | .key keysym state => some
    { devices := (s.devices.key env keysym state).state
      pressed := match state with
        | .pressed => insert keysym s.pressed
        | .released => s.pressed.erase keysym }
  | .text text => some { s with devices := (s.devices.typeText env text).stateOf }

/-- The key goes with the keysym: it is its key, or Shift when the symbol is shifted. -/
def GoesWith (keysym : UInt32) (code : ℕ) : Prop :=
  ∃ mapping, keysymToKey keysym = some mapping ∧ mapping.Touches code

/-- The key goes with a keysym the client holds. -/
def Wanted (s : KeyClient) (code : ℕ) : Prop := ∃ keysym ∈ s.pressed, GoesWith keysym code

/-- The keys that are down are those that go with what the client holds. -/
def Exact (s : KeyClient) : Prop := ∀ code, down s.devices.keyboard code = true ↔ s.Wanted code

/-- The keys a call releases. -/
def Releases : KeyCall → ℕ → Prop
  | .key keysym .released, code => GoesWith keysym code
  | .key _ .pressed, _ => False
  | .text text, code => ∃ mappings, text.toList.mapM charToKey = some mappings ∧
      ∃ mapping ∈ mappings, mapping.Touches code

/-- The call releases no key that goes with a keysym the client still holds after it. -/
def Spares (s : KeyClient) (call : KeyCall) : Prop :=
  ∀ code, Releases call code → ∀ keysym ∈ s.pressed, call ≠ .key keysym .released → ¬ GoesWith keysym code

section Step

variable {env : InputEnv} {s t : KeyClient} {keysym : UInt32} {code : ℕ}

/-- A keysym without a key changes nothing. -/
theorem key_unmapped (state : ButtonState) (hmap : keysymToKey keysym = none) :
    (s.devices.key env keysym state).state = s.devices := by
  unfold VirtualDevices.key
  rw [hmap]
  rfl

theorem goesWith_some {mapping : KeyMapping} (hmap : keysymToKey keysym = some mapping) :
    GoesWith keysym code ↔ mapping.Touches code := by
  refine ⟨?_, fun h => ⟨mapping, hmap, h⟩⟩
  rintro ⟨other, hother, htouch⟩
  obtain rfl := Option.some.inj (hmap.symm.trans hother)
  exact htouch

/-- **`key`**: the keys that go with the keysym are left as the call says. -/
theorem down_key (hok : ∀ i, env.accepts i = true) (state : ButtonState) :
    down (s.devices.key env keysym state).state.keyboard code = true ↔
      (GoesWith keysym code ∧ state = .pressed) ∨
        (¬ GoesWith keysym code ∧ down s.devices.keyboard code = true) := by
  cases hmap : keysymToKey keysym with
  | none =>
    have hnot : ¬ GoesWith keysym code := by
      rintro ⟨mapping, hsome, -⟩
      rw [hmap] at hsome
      cases hsome
    rw [key_unmapped state hmap]
    simp [hnot]
  | some mapping =>
    obtain ⟨next, hnext, htyped⟩ := VirtualDevices.key_typed s.devices hok hmap state
    rw [hnext, Outcome.state_ok, htyped.keyboard, down_append, last_events, goesWith_some hmap]
    by_cases htouch : mapping.Touches code
    · rw [if_pos htouch, Option.getD_some]
      cases state <;> simp [htouch, ButtonState.down]
    · rw [if_neg htouch, Option.getD_none]
      simp [htouch]

theorem releases_text {text : String} {mappings : List KeyMapping}
    (hmap : text.toList.mapM charToKey = some mappings) :
    Releases (.text text) code ↔ ∃ mapping ∈ mappings, mapping.Touches code := by
  refine ⟨?_, fun h => ⟨mappings, hmap, h⟩⟩
  rintro ⟨others, hothers, htouch⟩
  obtain rfl := Option.some.inj (hmap.symm.trans hothers)
  exact htouch

/-- **`text`**: the keys it types are up. -/
theorem down_text (hok : ∀ i, env.accepts i = true) (text : String) :
    down (s.devices.typeText env text).stateOf.keyboard code = true ↔
      ¬ Releases (.text text) code ∧ down s.devices.keyboard code = true := by
  cases hmap : text.toList.mapM charToKey with
  | none =>
    have hnot : ¬ Releases (.text text) code := by
      rintro ⟨mappings, hsome, -⟩
      rw [hmap] at hsome
      cases hsome
    rw [VirtualDevices.typeText, hmap]
    simp [hnot, Outcome.stateOf]
  | some mappings =>
    obtain ⟨next, hnext, htyped⟩ := VirtualDevices.taps_typed s.devices hok mappings
    rw [VirtualDevices.typeText, hmap, releases_text hmap]
    simp only [hnext, bind, Except.bind, Outcome.stateOf, htyped.keyboard, down_append,
      VirtualDevices.last_tapped]
    by_cases htouch : ∃ mapping ∈ mappings, mapping.Touches code
    · simp [htouch]
    · simp [htouch]

/-- A press is always right. -/
theorem exact_press (hok : ∀ i, env.accepts i = true) (h : s.Exact)
    (hs : s.step env (.key keysym .pressed) = some t) : t.Exact := by
  obtain rfl := Option.some.inj hs
  intro code
  rw [down_key hok, h code]
  simp only [Wanted, Finset.mem_insert, exists_eq_or_imp, and_true]
  refine ⟨?_, ?_⟩
  · rintro (hgoes | ⟨-, hwanted⟩)
    · exact Or.inl hgoes
    · exact Or.inr hwanted
  · intro hwanted
    by_cases hgoes : GoesWith keysym code
    · exact Or.inl hgoes
    · exact Or.inr ⟨hgoes, hwanted.resolve_left hgoes⟩

/-- A release is right exactly when it spares what the client still holds. -/
theorem exact_release (hok : ∀ i, env.accepts i = true) (h : s.Exact)
    (hs : s.step env (.key keysym .released) = some t) :
    t.Exact ↔ s.Spares (.key keysym .released) := by
  obtain rfl := Option.some.inj hs
  have hdown : ∀ code, down (s.devices.key env keysym .released).state.keyboard code = true ↔
      ¬ GoesWith keysym code ∧ s.Wanted code := by
    intro code
    rw [down_key hok, h code]
    simp
  refine ⟨?_, ?_⟩
  · -- a key that another call still wants is let go with this one
    intro ht code hreleases other hother hne hgoes
    have hwanted : down (s.devices.key env keysym .released).state.keyboard code = true :=
      (ht code).mpr ⟨other, Finset.mem_erase.mpr ⟨fun heq => hne (by rw [heq]), hother⟩, hgoes⟩
    exact ((hdown code).mp hwanted).1 hreleases
  · intro hspares code
    rw [hdown code]
    refine ⟨?_, ?_⟩
    · rintro ⟨hnot, other, hother, hgoes⟩
      refine ⟨other, Finset.mem_erase.mpr ⟨?_, hother⟩, hgoes⟩
      rintro rfl
      exact hnot hgoes
    · rintro ⟨other, hother, hgoes⟩
      obtain ⟨hne, hmem⟩ := Finset.mem_erase.mp hother
      refine ⟨fun hreleases => ?_, other, hmem, hgoes⟩
      exact hspares code hreleases other hmem (by simp [hne.symm]) hgoes

/-- A text is right exactly when it spares what the client holds. -/
theorem exact_text (hok : ∀ i, env.accepts i = true) (h : s.Exact) {text : String}
    (hs : s.step env (.text text) = some t) : t.Exact ↔ s.Spares (.text text) := by
  obtain rfl := Option.some.inj hs
  have hdown : ∀ code, down (s.devices.typeText env text).stateOf.keyboard code = true ↔
      ¬ Releases (.text text) code ∧ s.Wanted code := by
    intro code
    rw [down_text hok, h code]
  refine ⟨?_, ?_⟩
  · intro ht code hreleases other hother _ hgoes
    exact ((hdown code).mp ((ht code).mpr ⟨other, hother, hgoes⟩)).1 hreleases
  · intro hspares code
    rw [hdown code]
    refine ⟨And.right, ?_⟩
    rintro ⟨other, hother, hgoes⟩
    refine ⟨fun hreleases => ?_, other, hother, hgoes⟩
    exact hspares code hreleases other hother (by simp) hgoes

/-- **The step lemma.** -/
theorem exact_step (hok : ∀ i, env.accepts i = true) (h : s.Exact) {call : KeyCall}
    (hs : s.step env call = some t) : t.Exact ↔ s.Spares call := by
  cases call with
  | key keysym state =>
    cases state with
    | pressed => exact iff_of_true (exact_press hok h hs) (fun code hreleases => hreleases.elim)
    | released => exact exact_release hok h hs
  | text text => exact exact_text hok h hs

end Step

theorem step_isSome (env : InputEnv) (s : KeyClient) (call : KeyCall) :
    (s.step env call).isSome = true := by
  cases call <;> rfl

theorem exact_start : start.Exact := by
  intro code
  refine iff_of_false ?_ ?_
  · simp [start, VirtualDevices.create, down, LastWrite.last]
  · rintro ⟨keysym, hkeysym, -⟩
    simp [start] at hkeysym

/-! ## A Shift the client holds -/

/-- Left Shift is held, and `A` is pressed and released. -/
def shiftedCalls : List KeyCall :=
  [.key 0xffe1 .pressed, .key 0x41 .pressed, .key 0x41 .released]

/-- **A release lets go of Shift** while the client holds it. -/
theorem shift_released : ¬ Trans.Always (step .willing) Exact start shiftedCalls := by
  rintro ⟨-, -, -, hexact⟩
  have hshift := (hexact Key.leftShift).mpr
    ⟨0xffe1, by decide, plain Key.leftShift, by decide, Or.inl rfl⟩
  exact absurd hshift (by decide)

/-- **The keys that are down**: after each call of a sequence they are those that go with what the
client holds, exactly when no call releases a key that goes with a keysym the client still holds. -/
theorem exact_iff {env : InputEnv} (hok : ∀ i, env.accepts i = true) (calls : List KeyCall) :
    Trans.Always (step env) Exact start calls ↔ Trans.Meets (step env) Spares start calls :=
  Trans.always_iff_meets (fun _ _ _ h hs => exact_step hok h hs) (Trans.run_isSome (step_isSome env) start calls)
    exact_start

/-- Two keys that share nothing. -/
theorem exact_demo : Trans.Always (step .willing) Exact start
    [.key 0xffe3 .pressed, .key 0x63 .pressed, .key 0x63 .released, .key 0xffe3 .released] := by
  refine (exact_iff (fun _ => rfl) _).mpr ⟨nofun, nofun, ?_, ?_, trivial⟩
  · intro code hreleases other hother hne hgoes
    have hctrl : other = 0xffe3 := by
      have hcases : other = 0x63 ∨ other = 0xffe3 := by simpa [start] using hother
      refine hcases.resolve_left ?_
      rintro rfl
      exact hne rfl
    subst hctrl
    have h46 : code = 46 ∨ false = true ∧ code = Key.leftShift :=
      (goesWith_some (by decide : keysymToKey 0x63 = some (plain 46))).mp hreleases
    have h29 : code = 29 ∨ false = true ∧ code = Key.leftShift :=
      (goesWith_some (by decide : keysymToKey 0xffe3 = some (plain 29))).mp hgoes
    simp only [Bool.false_eq_true, false_and, or_false] at h46 h29
    omega
  · intro code hreleases other hother hne hgoes
    have hcases : other = 0xffe3 := by simpa [start] using hother
    exact hne (by rw [hcases])

end KeyClient

end Waypad
