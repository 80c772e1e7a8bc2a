import Waypad.Input.Held
import Waypad.Lib.Keyboard

/-!
# Waypad.Input.Typing — what a text enters (`src/uinput.rs`, `src/input.rs`)

A text is typed symbol by symbol when the keymap has all its characters, and pasted through the clipboard
otherwise.  Here the events of the virtual keyboard are read by a US keyboard in front of an application.

* `charToKey_symbol`: the key of a character enters it.
* `TextCall`, `delivered`: what a call is meant to enter.
* `Typist`, `type`: a call, and what the application makes of its events.
* `typed_run`: what the calls enter, one after the other.
-/

namespace Waypad

open Keyboard

/-- A carriage return is typed with the Enter key. -/
def entered (c : Char) : Char := if c = '\r' then '\n' else c

/-! ## The keymap -/

/-- The character is on the key, on the level that the mapping asks for. -/
def KeyMapping.Enters (mapping : KeyMapping) (c : Char) : Prop :=
  ∃ plain shifted, us mapping.code = .symbol plain shifted ∧ c = if mapping.shift then shifted else plain

theorem letter_symbol {value : Char} (h : 'a' ≤ value ∧ value ≤ 'z') :
    us (letterCode value) = .symbol value value.toUpper := by
  have hall : ∀ n < 26, us (letterCode (Char.ofNat (97 + n))) =
      .symbol (Char.ofNat (97 + n)) (Char.ofNat (97 + n)).toUpper := by decide
  have hlo : 97 ≤ value.toNat := h.1
  have hhi : value.toNat ≤ 122 := h.2
  have hvalue : value = Char.ofNat (97 + (value.toNat - 97)) := by
    rw [Nat.add_sub_cancel' hlo, Char.ofNat_toNat]
  rw [hvalue]
  exact hall _ (by omega)

theorem capital_symbol {value : Char} (h : 'A' ≤ value ∧ value ≤ 'Z') :
    us (letterCode value.toLower) = .symbol value.toLower value := by
  have hall : ∀ n < 26, us (letterCode (Char.ofNat (65 + n)).toLower) =
      .symbol (Char.ofNat (65 + n)).toLower (Char.ofNat (65 + n)) := by decide
  have hlo : 65 ≤ value.toNat := h.1
  have hhi : value.toNat ≤ 90 := h.2
  have hvalue : value = Char.ofNat (65 + (value.toNat - 65)) := by
    rw [Nat.add_sub_cancel' hlo, Char.ofNat_toNat]
  rw [hvalue]
  exact hall _ (by omega)

theorem digit_symbol {value : Char} (h : '1' ≤ value ∧ value ≤ '9') :
    ∃ shifted, us (2 + (value.toNat - '1'.toNat)) = .symbol value shifted := by
  have hall : ∀ n < 9, us (2 + n) = .symbol (Char.ofNat (49 + n)) ("!@#$%^&*(".toList.getD n ' ') := by decide
  have hlo : 49 ≤ value.toNat := h.1
  have hhi : value.toNat ≤ 57 := h.2
  have hvalue : value = Char.ofNat (49 + (value.toNat - 49)) := by
    rw [Nat.add_sub_cancel' hlo, Char.ofNat_toNat]
  refine ⟨"!@#$%^&*(".toList.getD (value.toNat - 49) ' ', ?_⟩
  have hkey := hall (value.toNat - 49) (by omega)
  rw [← hvalue] at hkey
  exact hkey

/-- **The keymap is right**: on a US keyboard the key of a character enters it. -/
theorem charToKey_symbol {c : Char} {mapping : KeyMapping} (h : charToKey c = some mapping) :
    mapping.Enters (entered c) := by
  have hplain : ∀ {c d : Char} {code : ℕ}, d ≠ '\r' → us code = .symbol d c →
      (plain code).Enters (entered d) := by
    intro c d code hd hcode
    exact ⟨d, c, hcode, if_neg hd⟩
  have hshifted : ∀ {c d : Char} {code : ℕ}, d ≠ '\r' → us code = .symbol c d →
      (shifted code).Enters (entered d) := by
    intro c d code hd hcode
    exact ⟨c, d, hcode, if_neg hd⟩
  have hreturn : ∀ {c d : Char}, d ≤ c → '\r'.toNat < d.toNat → c ≠ '\r' := by
    rintro c d hle hlt rfl
    have hnat : d.toNat ≤ '\r'.toNat := hle
    omega
  unfold charToKey at h
  -- letters, capitals, digits, and the table of what is left
  split_ifs at h with hlower hupper hdigit
  · cases h
    exact hplain (hreturn hlower.1 (by decide)) (letter_symbol hlower)
  · cases h
    exact hshifted (hreturn hupper.1 (by decide)) (capital_symbol hupper)
  · cases h
    obtain ⟨other, hother⟩ := digit_symbol hdigit
    exact hplain (hreturn hdigit.1 (by decide)) hother
  · split at h <;> cases h <;> exact ⟨_, _, rfl, rfl⟩

/-! ## Events and strokes -/

/-- The event of a key that goes down or up. -/
def InputEvent.stroke (self : InputEvent) : Option Stroke :=
  if self.eventType = evKey then
    if self.value = 1 then some ⟨self.code, true⟩
    else if self.value = 0 then some ⟨self.code, false⟩
    else none
  else none

def strokes (events : List InputEvent) : List Stroke := events.filterMap InputEvent.stroke

theorem strokes_tap (mapping : KeyMapping) :
    strokes mapping.tapEvents = tap Key.leftShift mapping.code mapping.shift := by
  obtain ⟨code, shift⟩ := mapping
  cases shift <;> rfl

/-- The keys of a text, with what they enter. -/
theorem strokes_text : ∀ {cs : List Char} {mappings : List KeyMapping}, cs.mapM charToKey = some mappings →
    ∃ keys : List (ℕ × Bool × Char),
      strokes (mappings.flatMap KeyMapping.tapEvents) =
        keys.flatMap (fun key => tap Key.leftShift key.1 key.2.1) ∧
      keys.map (fun key => key.2.2) = cs.map entered ∧
      ∀ key ∈ keys, ∃ plain shifted, us key.1 = .symbol plain shifted ∧
        key.2.2 = if key.2.1 then shifted else plain
  | [], mappings, h => by
    obtain rfl : [] = mappings := Option.some.inj h
    exact ⟨[], rfl, rfl, fun key hkey => absurd hkey List.not_mem_nil⟩
  | c :: cs, mappings, h => by
    rw [List.mapM_cons] at h
    obtain ⟨mapping, hmapping, hrest⟩ := Option.bind_eq_some_iff.mp h
    obtain ⟨rest, hcs, hmappings⟩ := Option.bind_eq_some_iff.mp hrest
    obtain rfl : mapping :: rest = mappings := Option.some.inj hmappings
    obtain ⟨keys, hstrokes, hchars, henters⟩ := strokes_text hcs
    obtain ⟨plain, shifted, hcode, hc⟩ := charToKey_symbol hmapping
    refine ⟨(mapping.code, mapping.shift, entered c) :: keys, ?_, ?_, ?_⟩
    · rw [List.flatMap_cons, List.flatMap_cons, ← hstrokes, ← strokes_tap]
      exact List.filterMap_append
    · rw [List.map_cons, List.map_cons, hchars]
    · intro key hkey
      rcases List.mem_cons.mp hkey with rfl | hkey
      · exact ⟨plain, shifted, hcode, hc⟩
      · exact henters key hkey

/-! ## Calls -/

structure TextCall where
  text : String
  copy : Copy

namespace TextCall

/-- What the call is meant to enter. -/
def delivered (call : TextCall) : List Char :=
  if call.text.isEmpty ∨ 4096 < call.text.utf8ByteSize then []
  else if (call.text.toList.mapM charToKey).isSome then call.text.toList.map entered
  else if call.copy = .taken then call.text.toList
  else []

/-- `wl-copy` is run, and takes the text. -/
def Copies (call : TextCall) : Prop :=
  ¬ call.text.isEmpty ∧ call.text.utf8ByteSize ≤ 4096 ∧ (call.text.toList.mapM charToKey).isSome = false ∧
    call.copy = .taken

instance (call : TextCall) : Decidable call.Copies := inferInstanceAs (Decidable (_ ∧ _ ∧ _ ∧ _))

/-- The desk once `wl-copy` has run. -/
def copied (call : TextCall) (desk : Desk) : Desk :=
  if call.Copies then { desk with clipboard := call.text.toList } else desk

end TextCall

/-- The virtual devices, and the desk of the application in front. -/
structure Typist where
  devices : VirtualDevices
  desk : Desk

namespace Typist

def start : Typist := { devices := .create, desk := .start }

/-- The call, and the reading of the events it has written. -/
def type (env : InputEnv) (self : Typist) (call : TextCall) : Typist :=
  let next := (self.devices.text env call.text call.copy).state
  { devices := next
    desk := read us (call.copied self.desk) (strokes (next.keyboard.drop self.devices.keyboard.length)) }

variable {env : InputEnv}

/-- The paste shortcut writes Control and `v`. -/
theorem paste_typed (self : VirtualDevices) (hok : ∀ i, env.accepts i = true) :
    ∃ next events, (do
        let self ← self.key env 0xffe3 .pressed
        let self ← self.key env 0x76 .pressed
        let self ← self.key env 0x76 .released
        self.key env 0xffe3 .released) = .ok next ∧ next.keyboard = self.keyboard ++ events ∧
      strokes events = [⟨Key.leftCtrl, true⟩, ⟨47, true⟩, ⟨47, false⟩, ⟨Key.leftCtrl, false⟩] := by
  have hctrl : keysymToKey 0xffe3 = some (plain Key.leftCtrl) := by decide
  have hv : keysymToKey 0x76 = some (plain 47) := by decide
  obtain ⟨d1, hd1, h1⟩ := VirtualDevices.key_typed self hok hctrl .pressed
  obtain ⟨d2, hd2, h2⟩ := VirtualDevices.key_typed d1 hok hv .pressed
  obtain ⟨d3, hd3, h3⟩ := VirtualDevices.key_typed d2 hok hv .released
  obtain ⟨d4, hd4, h4⟩ := VirtualDevices.key_typed d3 hok hctrl .released
  refine ⟨d4, (plain Key.leftCtrl).events .pressed ++ ((plain 47).events .pressed ++
    ((plain 47).events .released ++ (plain Key.leftCtrl).events .released)), ?_, ?_, rfl⟩
  · simp only [hd1, hd2, hd3, hd4, bind, Except.bind]
  · rw [h4.keyboard, h3.keyboard, h2.keyboard, h1.keyboard, List.append_assoc, List.append_assoc,
      List.append_assoc]

/-- A call that writes nothing and copies nothing. -/
theorem type_idle (self : Typist) {call : TextCall}
    (hstate : (self.devices.text env call.text call.copy).state = self.devices) (hcopies : ¬ call.Copies) :
    (self.type env call).desk = self.desk := by
  unfold type
  rw [hstate]
  show read us (call.copied self.desk) (strokes (self.devices.keyboard.drop self.devices.keyboard.length)) = _
  rw [List.drop_length, TextCall.copied, if_neg hcopies]
  rfl

/-- A call that writes some events. -/
theorem type_read (self : Typist) {call : TextCall} {next : VirtualDevices} {events : List InputEvent}
    (hnext : self.devices.text env call.text call.copy = .ok next)
    (hkeyboard : next.keyboard = self.devices.keyboard ++ events) :
    (self.type env call).desk = read us (call.copied self.desk) (strokes events) := by
  unfold type
  rw [hnext]
  show read us (call.copied self.desk) (strokes (next.keyboard.drop self.devices.keyboard.length)) = _
  rw [hkeyboard, List.drop_left]

/-- **One call**: it enters what it is meant to, and nothing else changes. -/
theorem type_delivered (hok : ∀ i, env.accepts i = true) (self : Typist) (hcalm : self.desk.Calm)
    (call : TextCall) :
    (self.type env call).desk.Calm ∧ (self.type env call).desk.text = self.desk.text ++ call.delivered := by
  -- nothing is written, and nothing copied
  have hidle : (self.devices.text env call.text call.copy).state = self.devices → ¬ call.Copies →
      call.delivered = [] →
      (self.type env call).desk.Calm ∧ (self.type env call).desk.text = self.desk.text ++ call.delivered := by
    intro hstate hcopies hnone
    rw [self.type_idle hstate hcopies, hnone, List.append_nil]
    exact ⟨hcalm, rfl⟩
  -- an empty text and one of more than 4096 bytes are refused
  by_cases hempty : call.text.isEmpty = true
  · refine hidle ?_ (fun h => h.1 hempty) (if_pos (Or.inl hempty))
    unfold VirtualDevices.text
    rw [if_pos hempty]
    rfl
  by_cases hlong : 4096 < call.text.utf8ByteSize
  · refine hidle ?_ (fun h => absurd h.2.1 (by omega)) (if_pos (Or.inr hlong))
    unfold VirtualDevices.text
    rw [if_neg hempty, if_pos hlong]
    rfl
  have hshort : ¬ (call.text.isEmpty = true ∨ 4096 < call.text.utf8ByteSize) := by
    rintro (h | h)
    · exact hempty h
    · exact hlong h
  cases hmapped : call.text.toList.mapM charToKey with
  | some mappings =>
    -- typed
    obtain ⟨next, htaps, htyped⟩ := VirtualDevices.taps_typed self.devices hok mappings
    have htext : self.devices.text env call.text call.copy = .ok next := by
      unfold VirtualDevices.text
      rw [if_neg hempty, if_neg hlong, hmapped]
      exact htaps
    obtain ⟨keys, hstrokes, hchars, hkeys⟩ := strokes_text hmapped
    have hcopies : ¬ call.Copies := by
      rintro ⟨-, -, hnone, -⟩
      rw [hmapped] at hnone
      cases hnone
    have hdelivered : call.delivered = call.text.toList.map entered := by
      unfold TextCall.delivered
      rw [if_neg hshort, hmapped]
      exact if_pos rfl
    rw [self.type_read htext htyped.keyboard, hstrokes, TextCall.copied, if_neg hcopies,
      read_taps hcalm rfl keys hkeys, hchars, hdelivered]
    exact ⟨hcalm.enter _, rfl⟩
  | none =>
    have hunmapped : call.delivered = if call.copy = .taken then call.text.toList else [] := by
      unfold TextCall.delivered
      rw [if_neg hshort, hmapped]
      exact if_neg Bool.false_ne_true
    by_cases hcopy : call.copy = .taken
    · -- pasted
      obtain ⟨next, events, hpaste, hkeyboard, hstrokes⟩ := paste_typed self.devices hok
      have hcopies : call.Copies := ⟨hempty, by omega, by rw [hmapped]; rfl, hcopy⟩
      have htext : self.devices.text env call.text call.copy = .ok next := by
        unfold VirtualDevices.text
        rw [if_neg hempty, if_neg hlong, hmapped, hcopy]
        exact hpaste
      rw [self.type_read htext hkeyboard, hstrokes, TextCall.copied, if_pos hcopies,
        read_paste (hcalm.copy _) rfl rfl, hunmapped, if_pos hcopy]
      exact ⟨(hcalm.copy _).enter _, rfl⟩
    · -- not copied
      refine hidle ?_ (fun h => hcopy h.2.2.2) (hunmapped.trans (if_neg hcopy))
      unfold VirtualDevices.text
      rw [if_neg hempty, if_neg hlong, hmapped]
      cases hc : call.copy with
      | missing => rfl
      | failed => rfl
      | taken => exact absurd hc hcopy

theorem run_calm (hok : ∀ i, env.accepts i = true) (calls : List TextCall) (self : Typist)
    (hcalm : self.desk.Calm) : (calls.foldl (type env) self).desk.Calm := by
  induction calls generalizing self with
  | nil => exact hcalm
  | cons call calls ih => exact ih (self.type env call) (type_delivered hok self hcalm call).1

theorem run_text (hok : ∀ i, env.accepts i = true) (calls : List TextCall) (self : Typist)
    (hcalm : self.desk.Calm) :
    (calls.foldl (type env) self).desk.text = self.desk.text ++ calls.flatMap TextCall.delivered := by
  induction calls generalizing self with
  | nil => exact (List.append_nil _).symm
  | cons call calls ih =>
    obtain ⟨hnext, htext⟩ := type_delivered hok self hcalm call
    rw [List.foldl_cons, ih (self.type env call) hnext, htext, List.append_assoc, List.flatMap_cons]

/-- **What is sent is what is entered**: the calls enter their texts one after the other, whichever of them
are typed and whichever are pasted. -/
theorem typed_run (hok : ∀ i, env.accepts i = true) (calls : List TextCall) (self : Typist)
    (hcalm : self.desk.Calm) :
    (calls.foldl (type env) self).desk.Calm ∧
      (calls.foldl (type env) self).desk.text = self.desk.text ++ calls.flatMap TextCall.delivered :=
  ⟨run_calm hok calls self hcalm, run_text hok calls self hcalm⟩

/-- Typed, pasted, refused for want of `wl-copy`, and typed again. -/
def demoCalls : List TextCall := [⟨"Hi, ~", .missing⟩, ⟨"né", .taken⟩, ⟨"ü", .missing⟩, ⟨"A\r", .failed⟩]

theorem demo_typed : (demoCalls.foldl (type .willing) start).desk.Calm ∧
    (demoCalls.foldl (type .willing) start).desk.text = "Hi, ~néA\n".toList := by
  have hdelivered : demoCalls.flatMap TextCall.delivered = "Hi, ~néA\n".toList := by decide
  have hwilling : ∀ i, InputEnv.willing.accepts i = true := fun _ => rfl
  obtain ⟨hcalm, htext⟩ := typed_run hwilling demoCalls start start_calm
  exact ⟨hcalm, htext.trans hdelivered⟩

end Typist

end Waypad
