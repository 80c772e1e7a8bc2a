import Waypad.Input.Commands

/-!
# Waypad.Input.Shortcut — `send_shortcut` over two backends (`src/server.rs`, `src/input.rs`)

The names of a shortcut are all looked up before the first key is pressed, but the backend looks each keysym
up again, in a table of its own, when its turn comes.

* `KeyBackend`: what `send_shortcut` asks of a backend; `sendShortcut`.
* `held_sendShortcut`: what a shortcut leaves; `noneLeft_iff`: exactly when it leaves no new key down.
* `uinputBackend`, `hyprlandBackend`: the two backends.
* `shortcut_released`: both of them at once.
-/

namespace Waypad

/-! ## Any backend -/

/-- An input backend that presses and releases keys `κ`. -/
structure KeyBackend (σ κ : Type) where
  key : σ → UInt32 → ButtonState → Outcome σ σ
  held : σ → κ → Bool
  /-- the keys that go with a keysym, if it has one -/
  keysOf : UInt32 → Option (κ → Bool)
  mapped : ∀ s keysym state keys, keysOf keysym = some keys → ∃ next, key s keysym state = .ok next ∧
    ∀ k, held next k = if keys k then state.down else held s k
  unmapped : ∀ s keysym state, keysOf keysym = none → ∃ err next, key s keysym state = .error (err, next) ∧
    ∀ k, held next k = held s k

namespace KeyBackend

variable {σ κ : Type}

/-- A loop of `send_shortcut`. -/
def keys (B : KeyBackend σ κ) (state : ButtonState) : σ → List UInt32 → Outcome σ σ
  | s, [] => .ok s
  | s, keysym :: rest => do
    let s ← B.key s keysym state
    B.keys state s rest

/-- `send_shortcut`. -/
def sendShortcut (B : KeyBackend σ κ) (s : σ) (keys : List String) : Outcome σ σ :=
  if keys = [] ∨ 6 < keys.length then .error (.message "Shortcut must contain 1-6 keys", s)
  else match keys.mapM shortcutKeyToKeysym with
  | .error err => .error (.message err, s)
  | .ok keysyms => do
    let s ← B.keys .pressed s keysyms
    B.keys .released s keysyms.reverse

/-- The keys of the keysyms before the first that has none. -/
def upTo (B : KeyBackend σ κ) : List UInt32 → List (κ → Bool)
  | [] => []
  | keysym :: rest =>
    match B.keysOf keysym with
    | some keys => keys :: B.upTo rest
    | none => []

/-- Every keysym has a key. -/
def Completes (B : KeyBackend σ κ) (keysyms : List UInt32) : Prop :=
  ∀ keysym ∈ keysyms, (B.keysOf keysym).isSome = true

/-- What is pressed before the first keysym without a key was down already. -/
def AlreadyDown (B : KeyBackend σ κ) (s : σ) (keysyms : List UInt32) : Prop :=
  ∀ keys ∈ B.upTo keysyms, ∀ k, keys k = true → B.held s k = true

/-- No key that was up is down. -/
def NoneLeft (B : KeyBackend σ κ) (s next : σ) : Prop :=
  ∀ k, B.held s k = false → B.held next k = false

section Any

variable {B : KeyBackend σ κ} {s : σ} {keysyms : List UInt32} {k : κ}

/-- **A loop** leaves the keys up to the first keysym without a key as it is told to. -/
theorem held_keys (B : KeyBackend σ κ) (s : σ) (state : ButtonState) (keysyms : List UInt32) (k : κ) :
    B.held (B.keys state s keysyms).state k =
      if (B.upTo keysyms).any (fun keys => keys k) then state.down else B.held s k := by
  induction keysyms generalizing s with
  | nil => rfl
  | cons keysym rest ih =>
    cases hkeys : B.keysOf keysym with
    | none =>
      obtain ⟨err, next, herr, hheld⟩ := B.unmapped s keysym state hkeys
      rw [keys, herr, upTo, hkeys]
      exact hheld k
    | some cells =>
      obtain ⟨next, hnext, hheld⟩ := B.mapped s keysym state cells hkeys
      rw [keys, hnext, upTo, hkeys]
      show B.held (B.keys state next rest).state k = _
      rw [ih, hheld, List.any_cons]
      cases cells k <;> cases (B.upTo rest).any (fun keys => keys k) <;> rfl

theorem keys_ok (s : σ) (state : ButtonState) (h : B.Completes keysyms) :
    ∃ next, B.keys state s keysyms = .ok next := by
  induction keysyms generalizing s with
  | nil => exact ⟨s, rfl⟩
  | cons keysym rest ih =>
    obtain ⟨cells, hkeys⟩ := Option.isSome_iff_exists.mp (h keysym List.mem_cons_self)
    obtain ⟨next, hnext, -⟩ := B.mapped s keysym state cells hkeys
    rw [keys, hnext]
    exact ih next (fun other hother => h other (List.mem_cons_of_mem _ hother))

theorem keys_error (s : σ) (state : ButtonState) (h : ¬ B.Completes keysyms) :
    ∃ err, B.keys state s keysyms = .error err := by
  induction keysyms generalizing s with
  | nil => exact absurd (fun keysym hmem => by cases hmem) h
  | cons keysym rest ih =>
    cases hkeys : B.keysOf keysym with
    | none =>
      obtain ⟨err, next, herr, -⟩ := B.unmapped s keysym state hkeys
      rw [keys, herr]
      exact ⟨_, rfl⟩
    | some cells =>
      obtain ⟨next, hnext, -⟩ := B.mapped s keysym state cells hkeys
      rw [keys, hnext]
      refine ih next (fun hrest => h ?_)
      intro other hother
      rcases List.mem_cons.mp hother with rfl | hmem
      · rw [hkeys]
        rfl
      · exact hrest other hmem

/-- When every keysym has a key, all of them are reached, in either direction. -/
theorem upTo_any (h : B.Completes keysyms) (k : κ) :
    (B.upTo keysyms).any (fun keys => keys k) =
      keysyms.any (fun keysym => (B.keysOf keysym).any (fun keys => keys k)) := by
  induction keysyms with
  | nil => rfl
  | cons keysym rest ih =>
    obtain ⟨cells, hkeys⟩ := Option.isSome_iff_exists.mp (h keysym List.mem_cons_self)
    have hrest := ih (fun other hother => h other (List.mem_cons_of_mem _ hother))
    rw [upTo, hkeys, List.any_cons, List.any_cons, hrest, hkeys]
    rfl

theorem Completes.reverse (h : B.Completes keysyms) : B.Completes keysyms.reverse :=
  fun keysym hmem => h keysym (List.mem_reverse.mp hmem)

theorem sendShortcut_accepted {keys : List String} (hlen : 1 ≤ keys.length ∧ keys.length ≤ 6)
    (haccepted : keys.mapM shortcutKeyToKeysym = .ok keysyms) :
    B.sendShortcut s keys = (do
      let s ← B.keys .pressed s keysyms
      B.keys .released s keysyms.reverse) := by
  have hsize : ¬ (keys = [] ∨ 6 < keys.length) := by
    rintro (rfl | hmany)
    · exact absurd hlen.1 (by decide)
    · omega
  rw [sendShortcut, if_neg hsize, haccepted]

/-- **What a shortcut leaves**: what it has pressed is up again, unless it ended at a keysym without a key;
then it is down. -/
theorem held_sendShortcut {keys : List String} (hlen : 1 ≤ keys.length ∧ keys.length ≤ 6)
    (haccepted : keys.mapM shortcutKeyToKeysym = .ok keysyms) (s : σ) (k : κ) :
    (B.Completes keysyms → B.held (B.sendShortcut s keys).state k =
      if (B.upTo keysyms).any (fun keys => keys k) then false else B.held s k) ∧
    (¬ B.Completes keysyms → B.held (B.sendShortcut s keys).state k =
      if (B.upTo keysyms).any (fun keys => keys k) then true else B.held s k) := by
  rw [sendShortcut_accepted hlen haccepted]
  have hpressed := B.held_keys s .pressed keysyms k
  refine ⟨fun h => ?_, fun h => ?_⟩
  · -- all are pressed, and the same ones released
    obtain ⟨mid, hmid⟩ := keys_ok s .pressed h
    rw [hmid] at hpressed ⊢
    show B.held (B.keys .released mid keysyms.reverse).state k = _
    have hreverse : (B.upTo keysyms.reverse).any (fun keys => keys k) =
        (B.upTo keysyms).any (fun keys => keys k) := by
      rw [upTo_any h.reverse, upTo_any h, List.any_reverse]
    rw [held_keys, hreverse]
    rw [Outcome.state_ok] at hpressed
    rw [hpressed]
    split_ifs <;> rfl
  · -- an error among the presses is the last thing that happens
    obtain ⟨⟨err, next⟩, herr⟩ := keys_error s .pressed h
    rw [herr] at hpressed ⊢
    exact hpressed

/-- **Exactly when a shortcut leaves no new key down.** -/
theorem noneLeft_iff {keys : List String} (hlen : 1 ≤ keys.length ∧ keys.length ≤ 6)
    (haccepted : keys.mapM shortcutKeyToKeysym = .ok keysyms) (s : σ) :
    B.NoneLeft s (B.sendShortcut s keys).state ↔ B.Completes keysyms ∨ B.AlreadyDown s keysyms := by
  by_cases hall : B.Completes keysyms
  · refine iff_of_true ?_ (Or.inl hall)
    intro k hup
    rw [(held_sendShortcut hlen haccepted s k).1 hall, hup]
    split <;> rfl
  · have hheld := fun k => (held_sendShortcut hlen haccepted s k).2 hall
    rw [or_iff_right hall]
    refine ⟨?_, ?_⟩
    · -- what stays down at the end was down before
      intro hleft cells hcells k hk
      by_contra hup
      rw [Bool.not_eq_true] at hup
      have hafter := hleft k hup
      rw [hheld, if_pos (List.any_eq_true.mpr ⟨cells, hcells, hk⟩)] at hafter
      cases hafter
    · intro hdown k hup
      rw [hheld]
      split
      · next hany =>
        obtain ⟨cells, hcells, hk⟩ := List.any_eq_true.mp hany
        rw [hdown cells hcells k hk] at hup
        cases hup
      · exact hup

end Any

end KeyBackend

/-! ## uinput -/

/-- The keys of a mapping. -/
def KeyMapping.keys (mapping : KeyMapping) : HeldKey → Bool
  | .keyboard code => decide (mapping.Touches code)
  | _ => false

/-- The virtual keyboard, when the kernel takes every write. -/
def uinputBackend (env : InputEnv) (hok : ∀ i, env.accepts i = true) :
    KeyBackend VirtualDevices HeldKey where
  key := VirtualDevices.key env
  held := VirtualDevices.held
  keysOf keysym := (keysymToKey keysym).map KeyMapping.keys
  mapped := by
    intro s keysym state cells hcells
    obtain ⟨mapping, hmap, rfl⟩ := Option.map_eq_some_iff.mp hcells
    obtain ⟨next, hnext, htyped⟩ := VirtualDevices.key_typed s hok hmap state
    refine ⟨next, hnext, fun k => ?_⟩
    cases k with
    | keyboard code =>
      simp only [VirtualDevices.held, htyped.keyboard, down_append, last_events, KeyMapping.keys,
        decide_eq_true_eq]
      split_ifs <;> rfl
    | pointer code =>
      simp only [VirtualDevices.held, htyped.relative, KeyMapping.keys, Bool.false_eq_true, ↓reduceIte]
    | gamepad code => rfl
  unmapped := by
    intro s keysym state hnone
    rw [Option.map_eq_none_iff] at hnone
    rw [VirtualDevices.key, hnone]
    exact ⟨_, s, rfl, fun _ => rfl⟩

theorem uinputBackend_keys {env : InputEnv} (hok : ∀ i, env.accepts i = true) (state : ButtonState)
    (devices : VirtualDevices) (keysyms : List UInt32) :
    (uinputBackend env hok).keys state devices keysyms = devices.keys env state keysyms := by
  induction keysyms generalizing devices with
  | nil => rfl
  | cons keysym rest ih =>
    rw [KeyBackend.keys, VirtualDevices.keys]
    show (devices.key env keysym state >>= fun s => (uinputBackend env hok).keys state s rest) = _
    simp only [ih]

/-- The shortcut of the server is that of the backend. -/
theorem uinputBackend_sendShortcut {env : InputEnv} (hok : ∀ i, env.accepts i = true) (inputs : Inputs)
    (keys : List String) : inputs.sendShortcut env keys =
      inputs.onDevices ((uinputBackend env hok).sendShortcut inputs.devices keys) := by
  unfold Inputs.sendShortcut KeyBackend.sendShortcut
  split
  · rfl
  · cases keys.mapM shortcutKeyToKeysym with
    | error err => rfl
    | ok keysyms => simp only [uinputBackend_keys]

/-! ## Hyprland -/

/-- `keysym_to_hyprland_key`. -/
def keysymToHyprlandKey (keysym : UInt32) : Option String :=
  match keysym.toNat with
  | 0xffe3 | 0xffe4 => some "Ctrl_L"
  | 0xffe9 | 0xffea => some "Alt_L"
  | 0xffe1 | 0xffe2 => some "Shift_L"
  | 0xffeb | 0xffec => some "Super_L"
  | 0xff0d => some "RETURN"
  | 0xff1b => some "Escape"
  | 0xff09 => some "Tab"
  | 0x0020 => some "Space"
  | 0xff08 => some "BackSpace"
  | 0xffff => some "Delete"
  | 0xff51 => some "left"
  | 0xff52 => some "up"
  | 0xff53 => some "right"
  | 0xff54 => some "down"
  | 0x30 => some "0"
  | 0x31 => some "1"
  | 0x32 => some "2"
  | 0x33 => some "3"
  | 0x34 => some "4"
  | 0x35 => some "5"
  | 0x36 => some "6"
  | 0x37 => some "7"
  | 0x38 => some "8"
  | 0x39 => some "9"
  | 0x61 | 0x41 => some "A"
  | 0x62 | 0x42 => some "B"
  | 0x63 | 0x43 => some "C"
  | 0x64 | 0x44 => some "D"
  | 0x65 | 0x45 => some "E"
  | 0x66 | 0x46 => some "F"
  | 0x67 | 0x47 => some "G"
  | 0x68 | 0x48 => some "H"
  | 0x69 | 0x49 => some "I"
  | 0x6a | 0x4a => some "J"
  | 0x6b | 0x4b => some "K"
  | 0x6c | 0x4c => some "L"
  | 0x6d | 0x4d => some "M"
  | 0x6e | 0x4e => some "N"
  | 0x6f | 0x4f => some "O"
  | 0x70 | 0x50 => some "P"
  | 0x71 | 0x51 => some "Q"
  | 0x72 | 0x52 => some "R"
  | 0x73 | 0x53 => some "S"
  | 0x74 | 0x54 => some "T"
  | 0x75 | 0x55 => some "U"
  | 0x76 | 0x56 => some "V"
  | 0x77 | 0x57 => some "W"
  | 0x78 | 0x58 => some "X"
  | 0x79 | 0x59 => some "Y"
  | 0x7a | 0x5a => some "Z"
  | _ => none

/-- `hyprland_state`. -/
def ButtonState.hyprlandState : ButtonState → String
  | .pressed => "down"
  | .released => "up"

/-- What Hyprland makes of the requests: the error the `i`th `flush_pointer` finds, and how the `i`th
dispatch fails. -/
structure HyprlandEnv where
  flushes : ℕ → Option String
  answers : ℕ → String → Option InputError

/-- The keys Hyprland has been told of. -/
structure HyprlandKeys where
  states : List (String × ButtonState)
  /-- calls so far -/
  calls : ℕ
  deriving DecidableEq

namespace HyprlandKeys

/-- `HyprlandHyprctlInputBackend::key`. -/
def key (env : HyprlandEnv) (self : HyprlandKeys) (keysym : UInt32) (state : ButtonState) :
    Outcome HyprlandKeys HyprlandKeys :=
  let called := { self with calls := self.calls + 1 }
  match env.flushes self.calls with
  | some error => .error (.message ("Hyprland pointer dispatch failed: " ++ error), called)
  | none =>
    match keysymToHyprlandKey keysym with
    | none =>
      .error (.message ("Unsupported Hyprland key keysym: 0x" ++ VirtualDevices.hex keysym.toNat), called)
    | some key =>
      match env.answers self.calls
          ("sendkeystate , " ++ key ++ "," ++ state.hyprlandState ++ ",activewindow") with
      | some err => .error (err, called)
      | none => .ok { called with states := self.states ++ [(key, state)] }

/-- What a key state leaves. -/
def effect (event : String × ButtonState) (key : String) : Option Bool :=
  if event.1 = key then some event.2.down else none

def held (self : HyprlandKeys) (key : String) : Bool := (LastWrite.last effect self.states key).getD false

end HyprlandKeys

/-- Nothing fails between the daemon and Hyprland. -/
structure HyprlandEnv.Willing (env : HyprlandEnv) : Prop where
  flushes : ∀ i, env.flushes i = none
  answers : ∀ i text, env.answers i text = none

/-- The keyboard of Hyprland, when nothing fails on the way to it. -/
def hyprlandBackend (env : HyprlandEnv) (hok : env.Willing) : KeyBackend HyprlandKeys String where
  key := HyprlandKeys.key env
  held := HyprlandKeys.held
  keysOf keysym := (keysymToHyprlandKey keysym).map (fun key other => decide (key = other))
  mapped := by
    intro s keysym state cells hcells
    obtain ⟨key, hmap, rfl⟩ := Option.map_eq_some_iff.mp hcells
    refine ⟨{ states := s.states ++ [(key, state)], calls := s.calls + 1 }, ?_, fun other => ?_⟩
    · simp only [HyprlandKeys.key, hok.flushes, hmap, hok.answers]
    · show (LastWrite.last HyprlandKeys.effect (s.states ++ [(key, state)]) other).getD false = _
      rw [LastWrite.last_append_getD, LastWrite.last_singleton]
      simp only [HyprlandKeys.effect, decide_eq_true_eq]
      split_ifs <;> rfl
  unmapped := by
    intro s keysym state hnone
    rw [Option.map_eq_none_iff] at hnone
    simp only [HyprlandKeys.key, hok.flushes, hnone]
    exact ⟨_, { s with calls := s.calls + 1 }, rfl, fun _ => rfl⟩

/-! ## Both of them -/

namespace KeyBackend

/-- No key of the inputs that was up is down. -/
def NoneLeftOn (inputs next : Inputs) : Prop := ∀ k, inputs.held k = false → next.held k = false

theorem noneLeftOn_iff {env : InputEnv} (hok : ∀ i, env.accepts i = true) (inputs : Inputs)
    (result : Outcome VirtualDevices VirtualDevices) :
    NoneLeftOn inputs (inputs.onDevices result).state ↔
      (uinputBackend env hok).NoneLeft inputs.devices result.state := by
  have hstate : (inputs.onDevices result).state = { inputs with devices := result.state } := by
    cases result <;> rfl
  rw [hstate]
  refine ⟨fun h k hup => ?_, fun h k hup => ?_⟩
  · cases k with
    | keyboard code => exact h (.keyboard code) hup
    | pointer code => exact h (.pointer code) hup
    | gamepad code => rfl
  · cases k with
    | keyboard code => exact h (.keyboard code) hup
    | pointer code => exact h (.pointer code) hup
    | gamepad code => exact hup

/-- A host without a gamepad, and nothing pressed. -/
def demoInputs : Inputs := { devices := .create, gamepad := .new false "" }

def demoHyprland : HyprlandEnv := { flushes := fun _ => none, answers := fun _ _ => none }

theorem demoHyprland_willing : demoHyprland.Willing := ⟨fun _ => rfl, fun _ _ => rfl⟩

/-- **Control stays down**: `é` has a keysym and no key of the virtual keyboard, `-` has none in Hyprland's
table. -/
theorem control_left : ["ctrl", "é"].mapM shortcutKeyToKeysym = .ok [0xffe3, 0xe9] ∧
    ¬ NoneLeftOn demoInputs (demoInputs.sendShortcut .willing ["ctrl", "é"]).state ∧
    ["ctrl", "-"].mapM shortcutKeyToKeysym = .ok [0xffe3, 0x2d] ∧
    ¬ (hyprlandBackend demoHyprland demoHyprland_willing).NoneLeft ⟨[], 0⟩
      ((hyprlandBackend demoHyprland demoHyprland_willing).sendShortcut ⟨[], 0⟩ ["ctrl", "-"]).state := by
  refine ⟨by decide +kernel, ?_, by decide +kernel, ?_⟩
  · intro hleft
    exact absurd (hleft (.keyboard Key.leftCtrl) (by decide)) (by decide +kernel)
  · intro hleft
    exact absurd (hleft "Ctrl_L" (by decide)) (by decide +kernel)

/-- **Shortcuts**: one to six accepted names leave no new key down, on either backend, exactly when the
backend has a key for every keysym or what is pressed before the first without a key was down already. -/
theorem shortcut_released {keys : List String} {keysyms : List UInt32}
    (hlen : 1 ≤ keys.length ∧ keys.length ≤ 6)
    (haccepted : keys.mapM shortcutKeyToKeysym = .ok keysyms) :
    (∀ (env : InputEnv) (hok : ∀ i, env.accepts i = true) (inputs : Inputs),
      NoneLeftOn inputs (inputs.sendShortcut env keys).state ↔
        (uinputBackend env hok).Completes keysyms ∨
          (uinputBackend env hok).AlreadyDown inputs.devices keysyms) ∧
    ∀ (env : HyprlandEnv) (hok : env.Willing) (s : HyprlandKeys),
      (hyprlandBackend env hok).NoneLeft s ((hyprlandBackend env hok).sendShortcut s keys).state ↔
        (hyprlandBackend env hok).Completes keysyms ∨
          (hyprlandBackend env hok).AlreadyDown s keysyms := by
  refine ⟨fun env hok inputs => ?_, fun env hok s => noneLeft_iff hlen haccepted s⟩
  rw [uinputBackend_sendShortcut hok, noneLeftOn_iff hok]
  exact noneLeft_iff hlen haccepted inputs.devices

/-- Copying, on both backends. -/
theorem copy_demo : NoneLeftOn demoInputs (demoInputs.sendShortcut .willing ["Ctrl", "C"]).state ∧
    (hyprlandBackend demoHyprland demoHyprland_willing).NoneLeft ⟨[], 0⟩
      ((hyprlandBackend demoHyprland demoHyprland_willing).sendShortcut ⟨[], 0⟩ ["Ctrl", "C"]).state := by
  have hboth := @shortcut_released ["Ctrl", "C"] [0xffe3, 0x63] (by decide)
    (by decide +kernel)
  refine ⟨(hboth.1 .willing (fun _ => rfl) demoInputs).mpr (Or.inl ?_),
    (hboth.2 demoHyprland demoHyprland_willing ⟨[], 0⟩).mpr (Or.inl ?_)⟩
  · intro keysym hmem
    have hcases : keysym = 0xffe3 ∨ keysym = 0x63 := by simpa using hmem
    rcases hcases with rfl | rfl <;> rfl
  · intro keysym hmem
    have hcases : keysym = 0xffe3 ∨ keysym = 0x63 := by simpa using hmem
    rcases hcases with rfl | rfl <;> rfl

end KeyBackend

end Waypad
