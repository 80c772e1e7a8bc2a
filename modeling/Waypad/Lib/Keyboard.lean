import Mathlib.Data.Finset.Basic

/-!
# Waypad.Lib.Keyboard — what the keys of a keyboard enter

A keyboard sends keys going down and up.  What they enter depends on the modifiers that are down: a symbol
with or without Shift, the clipboard with Control and the paste key, nothing with another chord.

* `Kind`, `Layout`, `us`: what the keys are for, by their evdev codes.
* `Desk`, `press`, `read`: what the keys do to a text.
* `Calm`: no modifier is down and Caps Lock is off.
* `read_tap`, `read_taps`: symbols typed one by one; `read_paste`: a paste.
-/

namespace Keyboard

inductive Kind
  | symbol (plain shifted : Char)
  | shift
  | control
  /-- Alt and Meta -/
  | modifier
  | capsLock
  | other
  deriving DecidableEq, Repr

abbrev Layout := ℕ → Kind

/-- A key that goes down or up. -/
structure Stroke where
  code : ℕ
  down : Bool
  deriving DecidableEq, Repr

/-- The US keyboard. -/
def us : Layout
  | 2 => .symbol '1' '!' | 3 => .symbol '2' '@' | 4 => .symbol '3' '#' | 5 => .symbol '4' '$'
  | 6 => .symbol '5' '%' | 7 => .symbol '6' '^' | 8 => .symbol '7' '&' | 9 => .symbol '8' '*'
  | 10 => .symbol '9' '(' | 11 => .symbol '0' ')' | 12 => .symbol '-' '_' | 13 => .symbol '=' '+'
  | 15 => .symbol '\t' '\t'
  | 16 => .symbol 'q' 'Q' | 17 => .symbol 'w' 'W' | 18 => .symbol 'e' 'E' | 19 => .symbol 'r' 'R'
  | 20 => .symbol 't' 'T' | 21 => .symbol 'y' 'Y' | 22 => .symbol 'u' 'U' | 23 => .symbol 'i' 'I'
  | 24 => .symbol 'o' 'O' | 25 => .symbol 'p' 'P' | 26 => .symbol '[' '\x7b' | 27 => .symbol ']' '\x7d'
  | 28 => .symbol '\n' '\n' | 29 => .control
  | 30 => .symbol 'a' 'A' | 31 => .symbol 's' 'S' | 32 => .symbol 'd' 'D' | 33 => .symbol 'f' 'F'
  | 34 => .symbol 'g' 'G' | 35 => .symbol 'h' 'H' | 36 => .symbol 'j' 'J' | 37 => .symbol 'k' 'K'
  | 38 => .symbol 'l' 'L' | 39 => .symbol ';' ':' | 40 => .symbol '\x27' '\x22' | 41 => .symbol '\x60' '~'
  | 42 => .shift | 43 => .symbol '\x5c' '|'
  | 44 => .symbol 'z' 'Z' | 45 => .symbol 'x' 'X' | 46 => .symbol 'c' 'C' | 47 => .symbol 'v' 'V'
  | 48 => .symbol 'b' 'B' | 49 => .symbol 'n' 'N' | 50 => .symbol 'm' 'M' | 51 => .symbol ',' '<'
  | 52 => .symbol '.' '>' | 53 => .symbol '/' '?'
  | 54 => .shift | 56 => .modifier | 57 => .symbol ' ' ' ' | 58 => .capsLock
  | 97 => .control | 100 => .modifier | 125 => .modifier | 126 => .modifier
  | _ => .other

/-- What has been entered, and what the next key depends on. -/
structure Desk where
  text : List Char
  clipboard : List Char
  shifts : Finset ℕ
  controls : Finset ℕ
  modifiers : Finset ℕ
  caps : Bool

/-- Nothing that was there before changes what a key enters. -/
structure Desk.Calm (desk : Desk) : Prop where
  shifts : desk.shifts = ∅
  controls : desk.controls = ∅
  modifiers : desk.modifiers = ∅
  caps : desk.caps = false

def Desk.start : Desk :=
  { text := [], clipboard := [], shifts := ∅, controls := ∅, modifiers := ∅, caps := false }

theorem start_calm : Desk.start.Calm :=
  { shifts := rfl, controls := rfl, modifiers := rfl, caps := rfl }

/-- A set of keys that are down. -/
def track (keys : Finset ℕ) (stroke : Stroke) : Finset ℕ :=
  if stroke.down then insert stroke.code keys else keys.erase stroke.code

/-- Caps Lock reverses Shift for the letters. -/
def level (desk : Desk) (plain shifted : Char) : Char :=
  if (decide (desk.shifts ≠ ∅)) != (desk.caps && plain.isAlpha) then shifted else plain

variable (layout : Layout)

/-- One key; `v` is the key that pastes. -/
def press (desk : Desk) (stroke : Stroke) : Desk :=
  match layout stroke.code with
  | .shift => { desk with shifts := track desk.shifts stroke }
  | .control => { desk with controls := track desk.controls stroke }
  | .modifier => { desk with modifiers := track desk.modifiers stroke }
  | .capsLock => if stroke.down then { desk with caps := !desk.caps } else desk
  | .other => desk
  | .symbol plain shifted =>
    if !stroke.down || decide (desk.modifiers ≠ ∅) then desk
    else if desk.controls = ∅ then { desk with text := desk.text ++ [level desk plain shifted] }
    else if plain = 'v' ∧ desk.shifts = ∅ then { desk with text := desk.text ++ desk.clipboard }
    else desk

def read : Desk → List Stroke → Desk := List.foldl (press layout)

theorem read_append (desk : Desk) (first second : List Stroke) :
    read layout desk (first ++ second) = read layout (read layout desk first) second :=
  List.foldl_append

/-- A key that goes down and up, with a Shift around it. -/
def tap (shift code : ℕ) (shifted : Bool) : List Stroke :=
  (if shifted then [⟨shift, true⟩] else []) ++ [⟨code, true⟩, ⟨code, false⟩] ++
    (if shifted then [⟨shift, false⟩] else [])

variable {layout} {desk : Desk} {shift control code : ℕ} {plain shifted : Char}

/-- **One symbol.** -/
theorem read_tap (hcalm : desk.Calm) (hshift : layout shift = .shift) (hcode : layout code = .symbol plain shifted)
    (withShift : Bool) :
    read layout desk (tap shift code withShift) =
      { desk with text := desk.text ++ [if withShift then shifted else plain] } := by
  obtain ⟨text, clipboard, shifts, controls, modifiers, caps⟩ := desk
  obtain ⟨rfl, rfl, rfl, rfl⟩ := hcalm
  cases withShift
  · simp [tap, read, press, hcode, level]
  · simp [tap, read, press, hcode, hshift, level, track]

/-- What is entered does not disturb the desk. -/
theorem Desk.Calm.enter (hcalm : desk.Calm) (text : List Char) : Calm { desk with text := text } :=
  { shifts := hcalm.shifts, controls := hcalm.controls, modifiers := hcalm.modifiers, caps := hcalm.caps }

theorem Desk.Calm.copy (hcalm : desk.Calm) (clipboard : List Char) : Calm { desk with clipboard := clipboard } :=
  { shifts := hcalm.shifts, controls := hcalm.controls, modifiers := hcalm.modifiers, caps := hcalm.caps }

/-- **A text**, typed symbol by symbol: `keys` are the keys of its symbols, and whether they need Shift. -/
theorem read_taps (hcalm : desk.Calm) (hshift : layout shift = .shift) (keys : List (ℕ × Bool × Char))
    (hkeys : ∀ key ∈ keys, ∃ plain shifted, layout key.1 = .symbol plain shifted ∧
      key.2.2 = if key.2.1 then shifted else plain) :
    read layout desk (keys.flatMap (fun key => tap shift key.1 key.2.1)) =
      { desk with text := desk.text ++ keys.map (fun key => key.2.2) } := by
  induction keys generalizing desk with
  | nil =>
    show desk = { desk with text := desk.text ++ [] }
    rw [List.append_nil]
  | cons key keys ih =>
    obtain ⟨plain, shifted, hcode, hsymbol⟩ := hkeys key List.mem_cons_self
    rw [List.flatMap_cons, read_append, read_tap hcalm hshift hcode, ← hsymbol,
      ih (hcalm.enter _) (fun other hother => hkeys other (List.mem_cons_of_mem key hother))]
    simp

/-- **A paste.** -/
theorem read_paste (hcalm : desk.Calm) (hcontrol : layout control = .control)
    (hcode : layout code = .symbol 'v' shifted) :
    read layout desk [⟨control, true⟩, ⟨code, true⟩, ⟨code, false⟩, ⟨control, false⟩] =
      { desk with text := desk.text ++ desk.clipboard } := by
  obtain ⟨text, clipboard, shifts, controls, modifiers, caps⟩ := desk
  obtain ⟨rfl, rfl, rfl, rfl⟩ := hcalm
  simp [read, press, hcode, hcontrol, track]

end Keyboard
