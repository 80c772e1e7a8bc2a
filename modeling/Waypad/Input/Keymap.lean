import Mathlib.Data.Fintype.Basic
import Mathlib.Data.List.Basic
import Mathlib.Tactic.SplitIfs

/-!
# Waypad.Input.Keymap — from keysyms to Linux keycodes (`src/uinput.rs`, `src/server.rs`)

* `keysymToKey`, `charToKey`: the key that gives a symbol, and whether Shift goes with it.
* `shortcutKeyToKeysym`: the names of a shortcut.
* `keysymToKey_range`: every key the maps give is one the virtual keyboard has.
-/

namespace Waypad

/-! ## Keycodes

`KEY_MAX` and the other `KEY_*` constants. -/

namespace Key

/-- The virtual keyboard has the keys from 1 to here. -/
def max : ℕ := 0xf0
def esc : ℕ := 1
def minus : ℕ := 12
def equal : ℕ := 13
def backspace : ℕ := 14
def tab : ℕ := 15
def leftBrace : ℕ := 26
def rightBrace : ℕ := 27
def enter : ℕ := 28
def leftCtrl : ℕ := 29
def semicolon : ℕ := 39
def apostrophe : ℕ := 40
def grave : ℕ := 41
def leftShift : ℕ := 42
def backslash : ℕ := 43
def comma : ℕ := 51
def dot : ℕ := 52
def slash : ℕ := 53
def rightShift : ℕ := 54
def leftAlt : ℕ := 56
def space : ℕ := 57
def capsLock : ℕ := 58
def f1 : ℕ := 59
def f11 : ℕ := 87
def f12 : ℕ := 88
def rightCtrl : ℕ := 97
def rightAlt : ℕ := 100
def home : ℕ := 102
def up : ℕ := 103
def pageUp : ℕ := 104
def left : ℕ := 105
def right : ℕ := 106
def end_ : ℕ := 107
def down : ℕ := 108
def pageDown : ℕ := 109
def insert : ℕ := 110
def delete : ℕ := 111
def leftMeta : ℕ := 125
def rightMeta : ℕ := 126

end Key

/-- A keycode, and whether Shift must be held to produce the symbol. -/
structure KeyMapping where
  code : ℕ
  shift : Bool
  deriving DecidableEq, Repr

def plain (code : ℕ) : KeyMapping := { code, shift := false }

def shifted (code : ℕ) : KeyMapping := { code, shift := true }

/-- `LETTERS` of `letter_code`: the rows of the keyboard. -/
def letters : List (Char × ℕ) :=
  [('q', 16), ('w', 17), ('e', 18), ('r', 19), ('t', 20), ('y', 21), ('u', 22), ('i', 23), ('o', 24),
    ('p', 25), ('a', 30), ('s', 31), ('d', 32), ('f', 33), ('g', 34), ('h', 35), ('j', 36), ('k', 37),
    ('l', 38), ('z', 44), ('x', 45), ('c', 46), ('v', 47), ('b', 48), ('n', 49), ('m', 50)]

/-- `letter_code`. -/
def letterCode (value : Char) : ℕ :=
  (letters.findSome? (fun entry => if entry.1 = value then some entry.2 else none)).getD 0

/-- `char_to_key`. -/
def charToKey (value : Char) : Option KeyMapping :=
  if 'a' ≤ value ∧ value ≤ 'z' then some (plain (letterCode value))
  else if 'A' ≤ value ∧ value ≤ 'Z' then some (shifted (letterCode value.toLower))
  else if '1' ≤ value ∧ value ≤ '9' then some (plain (2 + (value.toNat - '1'.toNat)))
  else match value with
  | '0' => some (plain 11)
  | '!' => some (shifted 2)
  | '@' => some (shifted 3)
  | '#' => some (shifted 4)
  | '$' => some (shifted 5)
  | '%' => some (shifted 6)
  | '^' => some (shifted 7)
  | '&' => some (shifted 8)
  | '*' => some (shifted 9)
  | '(' => some (shifted 10)
  | ')' => some (shifted 11)
  | ' ' => some (plain Key.space)
  | '\n' => some (plain Key.enter)
  | '\r' => some (plain Key.enter)
  | '\t' => some (plain Key.tab)
  | '-' => some (plain Key.minus)
  | '_' => some (shifted Key.minus)
  | '=' => some (plain Key.equal)
  | '+' => some (shifted Key.equal)
  | '[' => some (plain Key.leftBrace)
  | '\x7b' => some (shifted Key.leftBrace)
  | ']' => some (plain Key.rightBrace)
  | '\x7d' => some (shifted Key.rightBrace)
  | ';' => some (plain Key.semicolon)
  | ':' => some (shifted Key.semicolon)
  | '\x27' => some (plain Key.apostrophe)
  | '\x22' => some (shifted Key.apostrophe)
  | '\x60' => some (plain Key.grave)
  | '~' => some (shifted Key.grave)
  | '\x5c' => some (plain Key.backslash)
  | '|' => some (shifted Key.backslash)
  | ',' => some (plain Key.comma)
  | '<' => some (shifted Key.comma)
  | '.' => some (plain Key.dot)
  | '>' => some (shifted Key.dot)
  | '/' => some (plain Key.slash)
  | '?' => some (shifted Key.slash)
  | _ => none

/-- `char::from_u32`. -/
def charOfKeysym (keysym : UInt32) : Option Char :=
  if h : keysym.toNat.isValidChar then some (Char.ofNatAux keysym.toNat h) else none

/-- `keysym_to_key`. -/
def keysymToKey (keysym : UInt32) : Option KeyMapping :=
  match keysym.toNat with
  | 0xff08 => some (plain Key.backspace)
  | 0xff09 => some (plain Key.tab)
  | 0xff0d => some (plain Key.enter)
  | 0xff1b => some (plain Key.esc)
  | 0xff50 => some (plain Key.home)
  | 0xff51 => some (plain Key.left)
  | 0xff52 => some (plain Key.up)
  | 0xff53 => some (plain Key.right)
  | 0xff54 => some (plain Key.down)
  | 0xff55 => some (plain Key.pageUp)
  | 0xff56 => some (plain Key.pageDown)
  | 0xff57 => some (plain Key.end_)
  | 0xff63 => some (plain Key.insert)
  | 0xffff => some (plain Key.delete)
  | 0xffe1 => some (plain Key.leftShift)
  | 0xffe2 => some (plain Key.rightShift)
  | 0xffe3 => some (plain Key.leftCtrl)
  | 0xffe4 => some (plain Key.rightCtrl)
  | 0xffe5 => some (plain Key.capsLock)
  | 0xffe9 => some (plain Key.leftAlt)
  | 0xffea => some (plain Key.rightAlt)
  | 0xffeb => some (plain Key.leftMeta)
  | 0xffec => some (plain Key.rightMeta)
  | 0xffc8 => some (plain Key.f11)
  | 0xffc9 => some (plain Key.f12)
  | n =>
    -- F1 to F10
    if 0xffbe ≤ n ∧ n ≤ 0xffc7 then some (plain (Key.f1 + (n - 0xffbe)))
    else (charOfKeysym keysym).bind charToKey

/-- `shortcut_key_to_keysym`. -/
def shortcutKeyToKeysym (key : String) : Except String UInt32 :=
  match key.map Char.toLower with
  | "ctrl" | "control" => .ok 0xffe3
  | "alt" => .ok 0xffe9
  | "shift" => .ok 0xffe1
  | "super" | "meta" | "win" => .ok 0xffeb
  | "enter" | "return" => .ok 0xff0d
  | "esc" | "escape" => .ok 0xff1b
  | "tab" => .ok 0xff09
  | "space" => .ok 0x0020
  | "backspace" => .ok 0xff08
  | "delete" => .ok 0xffff
  | "left" => .ok 0xff51
  | "up" => .ok 0xff52
  | "right" => .ok 0xff53
  | "down" => .ok 0xff54
  | lower =>
    match lower.toList with
    | [single] => .ok single.val
    | _ => .error ("Unsupported shortcut key: " ++ key)

/-! ## The keys there are -/

/-- The keys of the virtual keyboard: `for code in 1..=KEY_MAX`. -/
def KeyMapping.OnKeyboard (mapping : KeyMapping) : Prop := 1 ≤ mapping.code ∧ mapping.code ≤ Key.max

instance (mapping : KeyMapping) : Decidable mapping.OnKeyboard :=
  inferInstanceAs (Decidable (1 ≤ mapping.code ∧ mapping.code ≤ Key.max))

theorem letterCode_range {value : Char} (h : 'a' ≤ value ∧ value ≤ 'z') :
    1 ≤ letterCode value ∧ letterCode value ≤ Key.max := by
  have hall : ∀ n < 26,
      1 ≤ letterCode (Char.ofNat (97 + n)) ∧ letterCode (Char.ofNat (97 + n)) ≤ Key.max := by decide
  have hlo : 97 ≤ value.toNat := h.1
  have hhi : value.toNat ≤ 122 := h.2
  have hvalue : value = Char.ofNat (97 + (value.toNat - 97)) := by
    rw [Nat.add_sub_cancel' hlo, Char.ofNat_toNat]
  rw [hvalue]
  exact hall _ (by omega)

theorem toLower_range {value : Char} (h : 'A' ≤ value ∧ value ≤ 'Z') :
    'a' ≤ value.toLower ∧ value.toLower ≤ 'z' := by
  have hall : ∀ n < 26, 'a' ≤ (Char.ofNat (65 + n)).toLower ∧ (Char.ofNat (65 + n)).toLower ≤ 'z' := by
    decide
  have hlo : 65 ≤ value.toNat := h.1
  have hhi : value.toNat ≤ 90 := h.2
  have hvalue : value = Char.ofNat (65 + (value.toNat - 65)) := by
    rw [Nat.add_sub_cancel' hlo, Char.ofNat_toNat]
  rw [hvalue]
  exact hall _ (by omega)

theorem charToKey_range {value : Char} {mapping : KeyMapping} (h : charToKey value = some mapping) :
    mapping.OnKeyboard := by
  unfold charToKey at h
  split_ifs at h with hlower hupper hdigit
  · cases h
    exact letterCode_range hlower
  · cases h
    exact letterCode_range (toLower_range hupper)
  · cases h
    have hlo : 49 ≤ value.toNat := hdigit.1
    have hhi : value.toNat ≤ 57 := hdigit.2
    have hone : '1'.toNat = 49 := rfl
    simp only [KeyMapping.OnKeyboard, plain, Key.max, hone]
    omega
  · split at h <;> cases h <;> decide

/-- **Every key of the map is one the virtual keyboard has**, so the kernel takes its events. -/
theorem keysymToKey_range {keysym : UInt32} {mapping : KeyMapping} (h : keysymToKey keysym = some mapping) :
    mapping.OnKeyboard := by
  have hf : ∀ n, n ≤ 0xffc7 → 1 ≤ Key.f1 + (n - 0xffbe) ∧ Key.f1 + (n - 0xffbe) ≤ Key.max := by
    intro n hn
    simp only [Key.f1, Key.max]
    omega
  unfold keysymToKey at h
  split at h
  case h_26 =>
    split_ifs at h with hrange
    · rw [Option.some.injEq] at h
      have hcode := hf keysym.toNat hrange.2
      rw [← h]
      exact hcode
    · obtain ⟨value, -, hvalue⟩ := Option.bind_eq_some_iff.mp h
      exact charToKey_range hvalue
  all_goals cases h; decide

end Waypad
