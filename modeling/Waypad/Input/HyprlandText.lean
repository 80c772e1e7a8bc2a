import Waypad.Input.Shortcut
import Waypad.Input.Typing

/-!
# Waypad.Input.HyprlandText — a text through Hyprland (`src/input.rs`)

Hyprland is asked for one shortcut for each character, or for the paste.  What the window in front makes of a
shortcut is not in the source: it is a parameter, and a window that reads a US keyboard is assumed to make of
it what its key and its modifier say.

* `textCharToHyprlandShortcut`, `text`: the characters and the call.
* `symbol`, `SendsShortcuts`: what a shortcut stands for, and what is assumed of the window.
* `shortcut_symbol`: the shortcut of a character stands for it, and there is one exactly when there is a key.
* `hyprland_run`: what the calls enter, also when dispatches fail, and that it is what the virtual keyboard
  enters.
-/

namespace Waypad

open Keyboard

structure HyprlandShortcut where
  mods : String
  key : String
  deriving DecidableEq, Repr

/-- `ascii_letter_key`. -/
def asciiLetterKey (ch : Char) : String := String.singleton ch.toUpper

/-- `ascii_digit_key`. -/
def asciiDigitKey (ch : Char) : String := String.singleton ch

/-- `text_char_to_hyprland_shortcut`. -/
def textCharToHyprlandShortcut (ch : Char) : Option HyprlandShortcut :=
  if 'a' ≤ ch ∧ ch ≤ 'z' then some ⟨"", asciiLetterKey ch⟩
  else if 'A' ≤ ch ∧ ch ≤ 'Z' then some ⟨"SHIFT", asciiLetterKey ch⟩
  else if '0' ≤ ch ∧ ch ≤ '9' then some ⟨"", asciiDigitKey ch⟩
  else match ch with
  | ' ' => some ⟨"", "Space"⟩
  | '\n' => some ⟨"", "RETURN"⟩
  | '\r' => some ⟨"", "RETURN"⟩
  | '\t' => some ⟨"", "Tab"⟩
  | '!' => some ⟨"SHIFT", "1"⟩
  | '@' => some ⟨"SHIFT", "2"⟩
  | '#' => some ⟨"SHIFT", "3"⟩
  | '$' => some ⟨"SHIFT", "4"⟩
  | '%' => some ⟨"SHIFT", "5"⟩
  | '^' => some ⟨"SHIFT", "6"⟩
  | '&' => some ⟨"SHIFT", "7"⟩
  | '*' => some ⟨"SHIFT", "8"⟩
  | '(' => some ⟨"SHIFT", "9"⟩
  | ')' => some ⟨"SHIFT", "0"⟩
  | '-' => some ⟨"", "minus"⟩
  | '_' => some ⟨"SHIFT", "minus"⟩
  | '=' => some ⟨"", "equal"⟩
  | '+' => some ⟨"SHIFT", "equal"⟩
  | '[' => some ⟨"", "bracketleft"⟩
  | '\x7b' => some ⟨"SHIFT", "bracketleft"⟩
  | ']' => some ⟨"", "bracketright"⟩
  | '\x7d' => some ⟨"SHIFT", "bracketright"⟩
  | ';' => some ⟨"", "semicolon"⟩
  | ':' => some ⟨"SHIFT", "semicolon"⟩
  | '\x27' => some ⟨"", "apostrophe"⟩
  | '\x22' => some ⟨"SHIFT", "apostrophe"⟩
  | ',' => some ⟨"", "comma"⟩
  | '<' => some ⟨"SHIFT", "comma"⟩
  | '.' => some ⟨"", "period"⟩
  | '>' => some ⟨"SHIFT", "period"⟩
  | '/' => some ⟨"", "slash"⟩
  | '?' => some ⟨"SHIFT", "slash"⟩
  | '\x5c' => some ⟨"", "backslash"⟩
  | '|' => some ⟨"SHIFT", "backslash"⟩
  | '\x60' => some ⟨"", "grave"⟩
  | '~' => some ⟨"SHIFT", "grave"⟩
  | _ => none

/-- The shortcuts Hyprland has taken. -/
structure HyprlandText where
  sent : List HyprlandShortcut
  /-- calls so far -/
  calls : ℕ

namespace HyprlandText

/-- `send_shortcut`. -/
def sendShortcut (env : HyprlandEnv) (self : HyprlandText) (shortcut : HyprlandShortcut) :
    Outcome HyprlandText HyprlandText :=
  let called := { self with calls := self.calls + 1 }
  match env.answers self.calls ("sendshortcut " ++ shortcut.mods ++ ", " ++ shortcut.key ++ ",activewindow") with
  | some err => .error (err, called)
  | none => .ok { called with sent := self.sent ++ [shortcut] }

/-- The loop of `send_text_as_key_events`. -/
def sendShortcuts (env : HyprlandEnv) (self : HyprlandText) :
    List HyprlandShortcut → Outcome HyprlandText HyprlandText
  | [] => .ok self
  | shortcut :: rest => do
    let self ← self.sendShortcut env shortcut
    sendShortcuts env self rest

/-- `text`; `copy` is what comes of `wl-copy`, should it be asked. -/
def text (env : HyprlandEnv) (self : HyprlandText) (text : String) (copy : Copy) :
    Outcome HyprlandText HyprlandText :=
  let called := { self with calls := self.calls + 1 }
  match env.flushes self.calls with
  | some error => .error (.message ("Hyprland pointer dispatch failed: " ++ error), called)
  | none =>
    if text.isEmpty then .ok called
    else if 4096 < text.utf8ByteSize then
      .error (.message "Text input rejected: maximum length is 4096 bytes", called)
    else
      match text.toList.mapM textCharToHyprlandShortcut with
      | some shortcuts => called.sendShortcuts env shortcuts
      | none =>
        match copy with
        | .missing =>
          .error (.message "Hyprland text input fallback requires wl-copy from wl-clipboard", called)
        | .failed => .error (.io, called)
        | .taken => called.sendShortcut env ⟨"CTRL", "V"⟩

end HyprlandText

/-! ## The keys -/

/-- The keys by the names they have in a shortcut. -/
def keyCodes : List (String × ℕ) :=
  [("1", 2), ("2", 3), ("3", 4), ("4", 5), ("5", 6), ("6", 7), ("7", 8), ("8", 9), ("9", 10), ("0", 11),
    ("minus", 12), ("equal", 13), ("Tab", 15), ("Q", 16), ("W", 17), ("E", 18), ("R", 19), ("T", 20),
    ("Y", 21), ("U", 22), ("I", 23), ("O", 24), ("P", 25), ("bracketleft", 26), ("bracketright", 27),
    ("RETURN", 28), ("A", 30), ("S", 31), ("D", 32), ("F", 33), ("G", 34), ("H", 35), ("J", 36), ("K", 37),
    ("L", 38), ("semicolon", 39), ("apostrophe", 40), ("grave", 41), ("backslash", 43), ("Z", 44), ("X", 45),
    ("C", 46), ("V", 47), ("B", 48), ("N", 49), ("M", 50), ("comma", 51), ("period", 52), ("slash", 53),
    ("Space", 57)]

/-- The character that a shortcut stands for: that of its key on a US keyboard, or the other one with Shift. -/
def HyprlandShortcut.symbol (self : HyprlandShortcut) : Option Char :=
  match (keyCodes.lookup self.key).map us with
  | some (.symbol plain shifted) =>
    if self.mods = "" then some plain else if self.mods = "SHIFT" then some shifted else none
  | _ => none

/-- What is assumed of the window in front: with no modifier held and Caps Lock off, a shortcut enters its
character, and Control with `V` pastes. -/
structure SendsShortcuts (sends : HyprlandShortcut → Desk → Desk) : Prop where
  symbol : ∀ {shortcut : HyprlandShortcut} {c : Char} {desk : Desk}, desk.Calm → shortcut.symbol = some c →
    sends shortcut desk = { desk with text := desk.text ++ [c] }
  paste : ∀ {desk : Desk}, desk.Calm →
    sends ⟨"CTRL", "V"⟩ desk = { desk with text := desk.text ++ desk.clipboard }

theorem shortcut_ascii {c : Char} {shortcut : HyprlandShortcut}
    (h : textCharToHyprlandShortcut c = some shortcut) : c.toNat < 128 := by
  unfold textCharToHyprlandShortcut at h
  split_ifs at h with hlower hupper hdigit
  · have hle : c.toNat ≤ 'z'.toNat := hlower.2
    exact lt_of_le_of_lt hle (by decide)
  · have hle : c.toNat ≤ 'Z'.toNat := hupper.2
    exact lt_of_le_of_lt hle (by decide)
  · have hle : c.toNat ≤ '9'.toNat := hdigit.2
    exact lt_of_le_of_lt hle (by decide)
  · split at h <;> first | decide | cases h

theorem charToKey_ascii {c : Char} {mapping : KeyMapping} (h : charToKey c = some mapping) : c.toNat < 128 := by
  unfold charToKey at h
  split_ifs at h with hlower hupper hdigit
  · have hle : c.toNat ≤ 'z'.toNat := hlower.2
    exact lt_of_le_of_lt hle (by decide)
  · have hle : c.toNat ≤ 'Z'.toNat := hupper.2
    exact lt_of_le_of_lt hle (by decide)
  · have hle : c.toNat ≤ '9'.toNat := hdigit.2
    exact lt_of_le_of_lt hle (by decide)
  · split at h <;> first | decide | cases h

/-- **The two keymaps agree**: a character has a shortcut exactly when it has a key, and the shortcut stands
for what the key enters. -/
theorem shortcut_symbol (c : Char) :
    (textCharToHyprlandShortcut c).map HyprlandShortcut.symbol =
      (charToKey c).map (fun _ => some (entered c)) := by
  have hall : ∀ n < 128, (textCharToHyprlandShortcut (Char.ofNat n)).map HyprlandShortcut.symbol =
      (charToKey (Char.ofNat n)).map (fun _ => some (entered (Char.ofNat n))) := by
    decide +kernel
  by_cases hascii : c.toNat < 128
  · have hc := hall c.toNat hascii
    rw [Char.ofNat_toNat] at hc
    exact hc
  · -- neither keymap has a character outside of ASCII
    have hshortcut : textCharToHyprlandShortcut c = none :=
      Option.eq_none_iff_forall_ne_some.mpr (fun _ h => hascii (shortcut_ascii h))
    have hkey : charToKey c = none :=
      Option.eq_none_iff_forall_ne_some.mpr (fun _ h => hascii (charToKey_ascii h))
    rw [hshortcut, hkey]
    rfl

theorem symbol_of_shortcut {c : Char} {shortcut : HyprlandShortcut}
    (h : textCharToHyprlandShortcut c = some shortcut) : shortcut.symbol = some (entered c) := by
  have hc := shortcut_symbol c
  rw [h, Option.map_some] at hc
  obtain ⟨-, -, hsymbol⟩ := Option.map_eq_some_iff.mp hc.symm
  exact hsymbol.symm

theorem mapM_isSome {α β : Type} (f : α → Option β) (as : List α) :
    (as.mapM f).isSome = as.all (fun a => (f a).isSome) := by
  induction as with
  | nil => rfl
  | cons a as ih =>
    rw [List.mapM_cons, List.all_cons, ← ih]
    cases f a <;> cases as.mapM f <;> rfl

/-- A text with a key for each character has a shortcut for each of them. -/
theorem mapped_iff (cs : List Char) :
    (cs.mapM textCharToHyprlandShortcut).isSome = (cs.mapM charToKey).isSome := by
  rw [mapM_isSome, mapM_isSome]
  refine congrArg cs.all (funext fun c => ?_)
  have hc := congrArg Option.isSome (shortcut_symbol c)
  rwa [Option.isSome_map, Option.isSome_map] at hc

/-- **A text in shortcuts** is read as the text. -/
theorem read_shortcuts {sends : HyprlandShortcut → Desk → Desk} (hsends : SendsShortcuts sends) :
    ∀ {cs : List Char} {shortcuts : List HyprlandShortcut} {desk : Desk}, desk.Calm →
      cs.mapM textCharToHyprlandShortcut = some shortcuts →
      shortcuts.foldl (fun desk shortcut => sends shortcut desk) desk =
        { desk with text := desk.text ++ cs.map entered }
  | [], shortcuts, desk, hcalm, h => by
    obtain rfl : [] = shortcuts := Option.some.inj h
    show desk = { desk with text := desk.text ++ [] }
    rw [List.append_nil]
  | c :: cs, shortcuts, desk, hcalm, h => by
    rw [List.mapM_cons] at h
    obtain ⟨shortcut, hshortcut, hrest⟩ := Option.bind_eq_some_iff.mp h
    obtain ⟨rest, hcs, hshortcuts⟩ := Option.bind_eq_some_iff.mp hrest
    obtain rfl : shortcut :: rest = shortcuts := Option.some.inj hshortcuts
    -- the first shortcut leaves a calm desk to the others
    rw [List.foldl_cons, hsends.symbol hcalm (symbol_of_shortcut hshortcut),
      read_shortcuts hsends (hcalm.enter _) hcs, List.map_cons]
    show ({ desk with text := desk.text ++ [entered c] ++ cs.map entered } : Desk) = _
    rw [List.append_assoc]
    rfl

/-- The characters of the first shortcuts of a text are the first characters of it. -/
theorem mapM_prefix {α β : Type} (f : α → Option β) : ∀ {cs : List α} {done rest : List β},
    cs.mapM f = some (done ++ rest) → ∃ cs1, cs1 <+: cs ∧ cs1.mapM f = some done ∧ (rest = [] → cs1 = cs)
  | cs, [], rest, h => by
    refine ⟨[], List.nil_prefix, rfl, ?_⟩
    rintro rfl
    -- nothing is done, and all of it only when there was nothing to do
    cases cs with
    | nil => rfl
    | cons c cs =>
      rw [List.mapM_cons] at h
      obtain ⟨b, -, hb⟩ := Option.bind_eq_some_iff.mp h
      obtain ⟨bs, -, hbs⟩ := Option.bind_eq_some_iff.mp hb
      cases Option.some.inj hbs
  | [], b :: done, rest, h => by cases Option.some.inj h
  | c :: cs, b :: done, rest, h => by
    rw [List.mapM_cons] at h
    obtain ⟨b', hb', hrest⟩ := Option.bind_eq_some_iff.mp h
    obtain ⟨bs, hbs, hcons⟩ := Option.bind_eq_some_iff.mp hrest
    obtain ⟨rfl, rfl⟩ := List.cons.inj (Option.some.inj hcons)
    obtain ⟨cs1, hprefix, hcs1, hall⟩ := mapM_prefix f hbs
    refine ⟨c :: cs1, ?_, ?_, fun hrest => ?_⟩
    · rwa [List.cons_prefix_cons, and_iff_right rfl]
    · rw [List.mapM_cons, hb', hcs1]
      rfl
    · rw [hall hrest]

/-! ## Calls -/

namespace HyprlandText

/-- One shortcut: it is taken, or nothing happens. -/
theorem sendShortcut_sent (env : HyprlandEnv) (self : HyprlandText) (shortcut : HyprlandShortcut) :
    ((self.sendShortcut env shortcut).state.sent = self.sent ++ [shortcut] ∧
        ∃ next, self.sendShortcut env shortcut = .ok next) ∨
      ((self.sendShortcut env shortcut).state.sent = self.sent ∧ ¬ env.Willing ∧
        ∃ err next, self.sendShortcut env shortcut = .error (err, next)) := by
  unfold sendShortcut
  cases hanswer : env.answers self.calls
      ("sendshortcut " ++ shortcut.mods ++ ", " ++ shortcut.key ++ ",activewindow") with
  | none => exact Or.inl ⟨rfl, _, rfl⟩
  | some err =>
    refine Or.inr ⟨rfl, ?_, err, _, rfl⟩
    intro hwilling
    rw [hwilling.answers] at hanswer
    cases hanswer

/-- The shortcuts that are taken come first. -/
theorem sendShortcuts_sent (env : HyprlandEnv) (self : HyprlandText) (shortcuts : List HyprlandShortcut) :
    ∃ done rest, shortcuts = done ++ rest ∧
      (self.sendShortcuts env shortcuts).state.sent = self.sent ++ done ∧ (env.Willing → rest = []) := by
  induction shortcuts generalizing self with
  | nil => exact ⟨[], [], rfl, (List.append_nil _).symm, fun _ => rfl⟩
  | cons shortcut shortcuts ih =>
    unfold sendShortcuts
    rcases sendShortcut_sent env self shortcut with ⟨hsent, next, hok⟩ | ⟨hsent, hunwilling, err, next, herr⟩
    · rw [hok] at hsent ⊢
      obtain ⟨done, rest, rfl, hdone, hrest⟩ := ih next
      refine ⟨shortcut :: done, rest, rfl, ?_, hrest⟩
      show (sendShortcuts env next (done ++ rest)).state.sent = _
      rw [hdone, show next.sent = self.sent ++ [shortcut] from hsent, List.append_assoc]
      rfl
    · rw [herr] at hsent ⊢
      refine ⟨[], shortcut :: shortcuts, rfl, ?_, fun h => absurd h hunwilling⟩
      rw [List.append_nil]
      exact hsent

end HyprlandText

/-- Hyprland, and the desk of the application in front. -/
structure HyprlandTypist where
  backend : HyprlandText
  desk : Desk

namespace HyprlandTypist

/-- The call, and what the window makes of the shortcuts that were taken; `wl-copy` is not asked before the
pointer is flushed. -/
def type (env : HyprlandEnv) (sends : HyprlandShortcut → Desk → Desk) (self : HyprlandTypist) (call : TextCall) :
    HyprlandTypist :=
  let next := (self.backend.text env call.text call.copy).state
  let desk := if env.flushes self.backend.calls = none then call.copied self.desk else self.desk
  { backend := next
    desk := (next.sent.drop self.backend.sent.length).foldl (fun desk shortcut => sends shortcut desk) desk }

variable {env : HyprlandEnv} {sends : HyprlandShortcut → Desk → Desk}

/-- The shortcuts a call has sent are read on the desk with the clipboard that goes with it. -/
theorem type_read (env : HyprlandEnv) (sends : HyprlandShortcut → Desk → Desk) (self : HyprlandTypist)
    (call : TextCall) {sent : List HyprlandShortcut}
    (h : (self.backend.text env call.text call.copy).state.sent = self.backend.sent ++ sent) :
    (self.type env sends call).desk = sent.foldl (fun desk shortcut => sends shortcut desk)
      (if env.flushes self.backend.calls = none then call.copied self.desk else self.desk) := by
  unfold type
  show ((self.backend.text env call.text call.copy).state.sent.drop self.backend.sent.length).foldl _ _ = _
  rw [h, List.drop_left]

theorem copied_calm {call : TextCall} {desk : Desk} (hcalm : desk.Calm) : (call.copied desk).Calm := by
  unfold TextCall.copied
  split_ifs
  · exact hcalm.copy _
  · exact hcalm

theorem copied_text (call : TextCall) (desk : Desk) : (call.copied desk).text = desk.text := by
  unfold TextCall.copied
  split_ifs <;> rfl

/-- **One call**: it enters the beginning of what it is meant to, and all of it when nothing fails. -/
theorem type_delivered (env : HyprlandEnv) (hsends : SendsShortcuts sends) (self : HyprlandTypist)
    (hcalm : self.desk.Calm) (call : TextCall) :
    (self.type env sends call).desk.Calm ∧ ∃ part, part <+: call.delivered ∧
      (self.type env sends call).desk.text = self.desk.text ++ part ∧ (env.Willing → part = call.delivered) := by
  -- nothing is sent
  have hidle : (self.backend.text env call.text call.copy).state.sent = self.backend.sent →
      (env.Willing → call.delivered = []) →
      (self.type env sends call).desk.Calm ∧ ∃ part, part <+: call.delivered ∧
        (self.type env sends call).desk.text = self.desk.text ++ part ∧ (env.Willing → part = call.delivered) := by
    intro hsent hnone
    have hread := type_read env sends self call (hsent.trans (List.append_nil _).symm)
    have hboth : (self.type env sends call).desk.Calm ∧ (self.type env sends call).desk.text = self.desk.text := by
      rw [hread]
      split_ifs
      · exact ⟨copied_calm hcalm, copied_text call _⟩
      · exact ⟨hcalm, rfl⟩
    refine ⟨hboth.1, [], List.nil_prefix, ?_, fun hwilling => (hnone hwilling).symm⟩
    rw [hboth.2, List.append_nil]
  cases hflush : env.flushes self.backend.calls with
  | some error =>
    -- the pointer cannot be flushed, so the text is not looked at
    refine hidle ?_ ?_
    · simp only [HyprlandText.text, hflush]
      rfl
    · intro hwilling
      rw [hwilling.flushes] at hflush
      cases hflush
  | none =>
    -- an empty text and one of more than 4096 bytes are refused
    by_cases hempty : call.text.isEmpty = true
    · refine hidle ?_ (fun _ => if_pos (Or.inl hempty))
      simp only [HyprlandText.text, hflush]
      rw [if_pos hempty]
      rfl
    by_cases hlong : 4096 < call.text.utf8ByteSize
    · refine hidle ?_ (fun _ => if_pos (Or.inr hlong))
      simp only [HyprlandText.text, hflush]
      rw [if_neg hempty, if_pos hlong]
      rfl
    have hshort : ¬ (call.text.isEmpty = true ∨ 4096 < call.text.utf8ByteSize) := by
      rintro (h | h)
      · exact hempty h
      · exact hlong h
    have hmapped := mapped_iff call.text.toList
    cases hshortcuts : call.text.toList.mapM textCharToHyprlandShortcut with
    | some shortcuts =>
      -- in shortcuts
      rw [hshortcuts] at hmapped
      have hcopies : ¬ call.Copies := by
        rintro ⟨-, -, hnone, -⟩
        rw [← hmapped] at hnone
        cases hnone
      have hdelivered : call.delivered = call.text.toList.map entered := by
        unfold TextCall.delivered
        rw [if_neg hshort, ← hmapped]
        exact if_pos rfl
      obtain ⟨done, rest, rfl, hsent, hrest⟩ := HyprlandText.sendShortcuts_sent env
        { self.backend with calls := self.backend.calls + 1 } shortcuts
      obtain ⟨cs, hprefix, hcs, hall⟩ := mapM_prefix _ hshortcuts
      have hread := type_read env sends self call ((show _ = _ by
        simp only [HyprlandText.text, hflush]
        rw [if_neg hempty, if_neg hlong, hshortcuts]).trans hsent)
      rw [if_pos hflush, TextCall.copied, if_neg hcopies, read_shortcuts hsends hcalm hcs] at hread
      rw [hread, hdelivered]
      refine ⟨hcalm.enter _, cs.map entered, hprefix.map entered, rfl, ?_⟩
      intro hwilling
      rw [hall (hrest hwilling)]
    | none =>
      rw [hshortcuts] at hmapped
      have hunmapped : call.delivered = if call.copy = .taken then call.text.toList else [] := by
        unfold TextCall.delivered
        rw [if_neg hshort, ← hmapped]
        exact if_neg Bool.false_ne_true
      by_cases hcopy : call.copy = .taken
      · -- pasted
        have hcopies : call.Copies := ⟨hempty, by omega, hmapped.symm, hcopy⟩
        have hstate : (self.backend.text env call.text call.copy).state.sent =
            (HyprlandText.sendShortcut env { self.backend with calls := self.backend.calls + 1 }
              ⟨"CTRL", "V"⟩).state.sent := by
          simp only [HyprlandText.text, hflush]
          rw [if_neg hempty, if_neg hlong, hshortcuts, hcopy]
        rcases HyprlandText.sendShortcut_sent env { self.backend with calls := self.backend.calls + 1 }
          ⟨"CTRL", "V"⟩ with ⟨hsent, -⟩ | ⟨hsent, hunwilling, -⟩
        · have hread := type_read env sends self call (hstate.trans hsent)
          rw [if_pos hflush, TextCall.copied, if_pos hcopies, List.foldl_cons,
            hsends.paste (hcalm.copy _)] at hread
          rw [hread, hunmapped, if_pos hcopy]
          exact ⟨(hcalm.copy _).enter _, call.text.toList, List.prefix_rfl, rfl, fun _ => rfl⟩
        · exact hidle (hstate.trans hsent) (fun hwilling => absurd hwilling hunwilling)
      · -- not copied
        refine hidle ?_ (fun _ => hunmapped.trans (if_neg hcopy))
        simp only [HyprlandText.text, hflush]
        rw [if_neg hempty, if_neg hlong, hshortcuts]
        cases hc : call.copy with
        | missing => rfl
        | failed => rfl
        | taken => exact absurd hc hcopy

/-- **What Hyprland enters**: of each call the beginning, and where nothing fails on the way to it, what the
virtual keyboard enters. -/
theorem hyprland_run (hsends : SendsShortcuts sends) (calls : List TextCall) (self : HyprlandTypist)
    (hcalm : self.desk.Calm) :
    ∃ parts, List.Forall₂ (fun part call => part <+: TextCall.delivered call) parts calls ∧
      (calls.foldl (type env sends) self).desk.text = self.desk.text ++ parts.flatten ∧
      (env.Willing → ∀ (input : InputEnv) (devices : VirtualDevices), (∀ i, input.accepts i = true) →
        (calls.foldl (type env sends) self).desk.text =
          (calls.foldl (Typist.type input) ⟨devices, self.desk⟩).desk.text) := by
  suffices h : ∃ parts, List.Forall₂ (fun part call => part <+: TextCall.delivered call) parts calls ∧
      (calls.foldl (type env sends) self).desk.text = self.desk.text ++ parts.flatten ∧
      (env.Willing → parts = calls.map TextCall.delivered) by
    obtain ⟨parts, hparts, htext, hall⟩ := h
    refine ⟨parts, hparts, htext, ?_⟩
    intro hwilling input devices hok
    rw [htext, hall hwilling, Typist.run_text hok calls ⟨devices, self.desk⟩ hcalm, List.flatMap_def]
  induction calls generalizing self with
  | nil => exact ⟨[], .nil, (List.append_nil _).symm, fun _ => rfl⟩
  | cons call calls ih =>
    obtain ⟨hnext, part, hpart, htext, hwhole⟩ := type_delivered env hsends self hcalm call
    obtain ⟨parts, hparts, hall, hwilling⟩ := ih (self.type env sends call) hnext
    refine ⟨part :: parts, .cons hpart hparts, ?_, ?_⟩
    · rw [List.foldl_cons, hall, htext, List.append_assoc, List.flatten_cons]
    · intro h
      rw [hwhole h, hwilling h, List.map_cons]

/-! ## A window that presses keys -/

/-- The keys of a shortcut, pressed one after the other. -/
def presses (shortcut : HyprlandShortcut) (desk : Desk) : Desk :=
  match keyCodes.lookup shortcut.key with
  | none => desk
  | some code =>
    if shortcut.mods = "" then read us desk (tap Key.leftShift code false)
    else if shortcut.mods = "SHIFT" then read us desk (tap Key.leftShift code true)
    else if shortcut.mods = "CTRL" then
      read us desk [⟨Key.leftCtrl, true⟩, ⟨code, true⟩, ⟨code, false⟩, ⟨Key.leftCtrl, false⟩]
    else desk

theorem presses_sends : SendsShortcuts presses where
  symbol := by
    intro shortcut c desk hcalm h
    obtain ⟨mods, key⟩ := shortcut
    unfold HyprlandShortcut.symbol at h
    unfold presses
    cases hcode : keyCodes.lookup key with
    | none =>
      rw [hcode] at h
      cases h
    | some code =>
      rw [hcode, Option.map_some] at h
      cases hkind : us code with
      | symbol plain shifted =>
        rw [hkind] at h
        show (if mods = "" then _ else _) = _
        change (if mods = "" then some plain else if mods = "SHIFT" then some shifted else none) = some c at h
        -- without modifiers, or with Shift
        split_ifs at h ⊢ with hplain hshift
        · obtain rfl := Option.some.inj h
          exact read_tap hcalm rfl hkind false
        · obtain rfl := Option.some.inj h
          exact read_tap hcalm rfl hkind true
      | _ =>
        rw [hkind] at h
        cases h
  paste := by
    intro desk hcalm
    have hcontrol : us Key.leftCtrl = .control := rfl
    have hv : us 47 = .symbol 'v' 'V' := rfl
    exact read_paste hcalm hcontrol hv

/-- Hyprland refuses the third request it gets. -/
def demoRefusing : HyprlandEnv :=
  { flushes := fun _ => none, answers := fun i _ => if i = 3 then some .io else none }

def demoStart : HyprlandTypist := { backend := ⟨[], 0⟩, desk := .start }

theorem demo_hyprland :
    (([⟨"Hi!", .missing⟩] : List TextCall).foldl (type demoRefusing presses) demoStart).desk.text = "Hi".toList ∧
    ∃ parts, List.Forall₂ (fun part call => part <+: TextCall.delivered call) parts [⟨"Hi!", .missing⟩] ∧
      ([⟨"Hi!", .missing⟩].foldl (type demoRefusing presses) demoStart).desk.text =
        demoStart.desk.text ++ parts.flatten ∧
      (demoRefusing.Willing → ∀ (input : InputEnv) (devices : VirtualDevices), (∀ i, input.accepts i = true) →
        ([⟨"Hi!", .missing⟩].foldl (type demoRefusing presses) demoStart).desk.text =
          ([⟨"Hi!", .missing⟩].foldl (Typist.type input) ⟨devices, demoStart.desk⟩).desk.text) :=
  ⟨by decide, hyprland_run presses_sends _ demoStart start_calm⟩

end HyprlandTypist

end Waypad
