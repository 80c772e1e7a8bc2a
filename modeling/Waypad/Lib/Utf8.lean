import Mathlib.Data.List.Infix
import Mathlib.Tactic.SplitIfs
import Waypad.Lib.Text

/-!
# Waypad.Lib.Utf8 — reading bytes as text, with replacement characters

`String::from_utf8_lossy` puts one `U+FFFD` for each maximal sequence of bytes that begins a character
and does not go on as one.  The decoder below reads byte by byte; what it holds is the beginning of a
character.

* `push`: one byte; `lossy`: the text; `strict`: the text of bytes that are UTF-8.
* `infix_lossy`: an ASCII text occurs in it if and only if its bytes occur in the bytes.
* `lossy_utf8`, `strict_utf8`: text is read back from its bytes.
* `strict_of_ascii`: ASCII bytes are text.
-/

namespace Utf8

/-- `U+FFFD`. -/
def replacement : Char := Char.ofNat 0xFFFD

/-- The beginning of a character: its bits so far, the bytes to come, the bounds of the next one. -/
structure Pending where
  code : ℕ
  need : ℕ
  lower : ℕ
  upper : ℕ
  deriving DecidableEq, Repr

/-- The first byte of a character. -/
def pushFirst (b : UInt8) : List Char × Option Pending :=
  let n := b.toNat
  if n < 0x80 then ([Char.ofNat n], none)
  else if n < 0xC2 then ([replacement], none)
  else if n < 0xE0 then ([], some ⟨n - 0xC0, 1, 0x80, 0xBF⟩)
  else if n = 0xE0 then ([], some ⟨0, 2, 0xA0, 0xBF⟩)
  else if n = 0xED then ([], some ⟨0xD, 2, 0x80, 0x9F⟩)
  else if n < 0xF0 then ([], some ⟨n - 0xE0, 2, 0x80, 0xBF⟩)
  else if n = 0xF0 then ([], some ⟨0, 3, 0x90, 0xBF⟩)
  else if n < 0xF4 then ([], some ⟨n - 0xF0, 3, 0x80, 0xBF⟩)
  else if n = 0xF4 then ([], some ⟨4, 3, 0x80, 0x8F⟩)
  else ([replacement], none)

/-- The next byte: the characters it completes, and what is held after it. -/
def push (held : Option Pending) (b : UInt8) : List Char × Option Pending :=
  match held with
  | none => pushFirst b
  | some p =>
    if p.lower ≤ b.toNat ∧ b.toNat ≤ p.upper then
      let code := p.code * 64 + (b.toNat - 0x80)
      if p.need = 1 then ([Char.ofNat code], none)
      else ([], some ⟨code, p.need - 1, 0x80, 0xBF⟩)
    else (replacement :: (pushFirst b).1, (pushFirst b).2)

def lossyFrom : Option Pending → List UInt8 → List Char
  | none, [] => []
  | some _, [] => [replacement]
  | held, b :: rest => (push held b).1 ++ lossyFrom (push held b).2 rest

/-- `String::from_utf8_lossy`. -/
def lossy (bytes : List UInt8) : List Char := lossyFrom none bytes

/-- `String::from_utf8`: nothing had to be replaced, so the text has these bytes. -/
def strict (bytes : List UInt8) : Option (List Char) :=
  if Text.utf8 (lossy bytes) = bytes then some (lossy bytes) else none

/-! ## Characters that are not ASCII -/

def Ascii (c : Char) : Prop := c.toNat < 0x80

/-- A code that can only become a scalar value beyond ASCII. -/
def Scalar (first last : ℕ) : Prop := 0x80 ≤ first ∧ (last < 0xD800 ∨ 0xDFFF < first ∧ last < 0x110000)

/-- Whatever follows within the bounds makes a character beyond ASCII. -/
def Pending.Sound (p : Pending) : Prop :=
  0x80 ≤ p.lower ∧
    (p.need = 1 ∧ Scalar (p.code * 64 + (p.lower - 0x80)) (p.code * 64 + (p.upper - 0x80)) ∨
      p.need = 2 ∧ Scalar ((p.code * 64 + (p.lower - 0x80)) * 64)
        ((p.code * 64 + (p.upper - 0x80)) * 64 + 63) ∨
      p.need = 3 ∧ Scalar ((p.code * 64 + (p.lower - 0x80)) * 4096)
        ((p.code * 64 + (p.upper - 0x80)) * 4096 + 4095))

theorem replacement_not_ascii : ¬ Ascii replacement := by
  unfold Ascii replacement
  decide

theorem toNat_ofNat {n : ℕ} (h : n.isValidChar) : (Char.ofNat n).toNat = n := by
  unfold Char.ofNat
  rw [dif_pos h]
  unfold Char.ofNatAux Char.toNat
  simp

theorem ofNat_not_ascii {n first last : ℕ} (h : Scalar first last) (hfirst : first ≤ n) (hlast : n ≤ last) :
    ¬ Ascii (Char.ofNat n) := by
  unfold Scalar at h
  have hvalid : n.isValidChar := by
    unfold Nat.isValidChar
    omega
  unfold Ascii
  rw [toNat_ofNat hvalid]
  omega

/-- A first byte is an ASCII character, is replaced, or begins a character beyond ASCII. -/
theorem pushFirst_cases (b : UInt8) :
    (b.toNat < 0x80 ∧ pushFirst b = ([Char.ofNat b.toNat], none)) ∨
      (0x80 ≤ b.toNat ∧ pushFirst b = ([replacement], none)) ∨
      (0x80 ≤ b.toNat ∧ ∃ p : Pending, p.Sound ∧ pushFirst b = ([], some p)) := by
  have hb : b.toNat < 256 := b.toNat_lt
  unfold pushFirst
  dsimp only
  -- the ranges of a first byte, from below
  by_cases hascii : b.toNat < 0x80
  · rw [if_pos hascii]
    exact Or.inl ⟨hascii, rfl⟩
  · rw [if_neg hascii]
    have hbig : 0x80 ≤ b.toNat := Nat.not_lt.mp hascii
    have begins : ∀ p : Pending, p.Sound → ∃ q : Pending, q.Sound ∧
        (([], some p) : List Char × Option Pending) = ([], some q) := fun p hp => ⟨p, hp, rfl⟩
    apply Or.inr
    by_cases hstray : b.toNat < 0xC2
    · rw [if_pos hstray]
      exact Or.inl ⟨hbig, rfl⟩
    rw [if_neg hstray]
    by_cases htwo : b.toNat < 0xE0
    · rw [if_pos htwo]
      refine Or.inr ⟨hbig, begins _ ?_⟩
      unfold Pending.Sound Scalar
      dsimp only
      omega
    rw [if_neg htwo]
    by_cases hE0 : b.toNat = 0xE0
    · rw [if_pos hE0]
      exact Or.inr ⟨hbig, begins _ (by unfold Pending.Sound Scalar; decide)⟩
    rw [if_neg hE0]
    by_cases hED : b.toNat = 0xED
    · rw [if_pos hED]
      exact Or.inr ⟨hbig, begins _ (by unfold Pending.Sound Scalar; decide)⟩
    rw [if_neg hED]
    by_cases hthree : b.toNat < 0xF0
    · rw [if_pos hthree]
      refine Or.inr ⟨hbig, begins _ ?_⟩
      unfold Pending.Sound Scalar
      dsimp only
      omega
    rw [if_neg hthree]
    by_cases hF0 : b.toNat = 0xF0
    · rw [if_pos hF0]
      exact Or.inr ⟨hbig, begins _ (by unfold Pending.Sound Scalar; decide)⟩
    rw [if_neg hF0]
    by_cases hfour : b.toNat < 0xF4
    · rw [if_pos hfour]
      refine Or.inr ⟨hbig, begins _ ?_⟩
      unfold Pending.Sound Scalar
      dsimp only
      omega
    rw [if_neg hfour]
    by_cases hF4 : b.toNat = 0xF4
    · rw [if_pos hF4]
      exact Or.inr ⟨hbig, begins _ (by unfold Pending.Sound Scalar; decide)⟩
    rw [if_neg hF4]
    exact Or.inl ⟨hbig, rfl⟩

/-- The next byte of a character completes it, goes on with it, or begins something else. -/
theorem push_cases {p : Pending} (hp : p.Sound) (b : UInt8) :
    (0x80 ≤ b.toNat ∧ ∃ c, ¬ Ascii c ∧ push (some p) b = ([c], none)) ∨
      (0x80 ≤ b.toNat ∧ ∃ q : Pending, q.Sound ∧ push (some p) b = ([], some q)) ∨
      push (some p) b = (replacement :: (pushFirst b).1, (pushFirst b).2) := by
  unfold push
  dsimp only
  -- a byte out of range ends the character, and is looked at again as a first one
  by_cases hin : p.lower ≤ b.toNat ∧ b.toNat ≤ p.upper
  · obtain ⟨hlower, hkind⟩ := hp
    have hbig : 0x80 ≤ b.toNat := hlower.trans hin.1
    rw [if_pos hin]
    rcases hkind with ⟨hneed, hs⟩ | ⟨hneed, hs⟩ | ⟨hneed, hs⟩
    · rw [if_pos hneed]
      exact Or.inl ⟨hbig, _, ofNat_not_ascii hs (by omega) (by omega), rfl⟩
    · rw [if_neg (by omega)]
      refine Or.inr (Or.inl ⟨hbig, _, ?_, rfl⟩)
      unfold Scalar at hs
      unfold Pending.Sound Scalar
      dsimp only
      omega
    · rw [if_neg (by omega)]
      refine Or.inr (Or.inl ⟨hbig, _, ?_, rfl⟩)
      unfold Scalar at hs
      unfold Pending.Sound Scalar
      dsimp only
      omega
  · rw [if_neg hin]
    exact Or.inr (Or.inr rfl)

/-- What is held is sound. -/
def Held (held : Option Pending) : Prop := ∀ p, held = some p → p.Sound

theorem held_none : Held none := fun _ h => by cases h

theorem held_some {p : Pending} (h : p.Sound) : Held (some p) := fun _ hq => Option.some.inj hq ▸ h

/-- **One byte**: after characters beyond ASCII, an ASCII byte stands for itself; another byte gives no
ASCII character. -/
theorem push_spec {held : Option Pending} (h : Held held) (b : UInt8) :
    (b.toNat < 0x80 ∧ ∃ out, (∀ c ∈ out, ¬ Ascii c) ∧
        push held b = (out ++ [Char.ofNat b.toNat], none)) ∨
      (0x80 ≤ b.toNat ∧ (∀ c ∈ (push held b).1, ¬ Ascii c) ∧ Held (push held b).2) := by
  have hfirst := pushFirst_cases b
  cases held with
  | none =>
    rw [push]
    rcases hfirst with ⟨hb, he⟩ | ⟨hb, he⟩ | ⟨hb, p, hp, he⟩
    · exact Or.inl ⟨hb, [], by simp, he⟩
    · rw [he]
      exact Or.inr ⟨hb, by simpa using replacement_not_ascii, held_none⟩
    · rw [he]
      exact Or.inr ⟨hb, by simp, held_some hp⟩
  | some p =>
    rcases push_cases (h p rfl) b with ⟨hb, c, hc, he⟩ | ⟨hb, q, hq, he⟩ | he
    · rw [he]
      exact Or.inr ⟨hb, by simpa using hc, held_none⟩
    · rw [he]
      exact Or.inr ⟨hb, by simp, held_some hq⟩
    · rw [he]
      rcases hfirst with ⟨hb, hf⟩ | ⟨hb, hf⟩ | ⟨hb, q, hq, hf⟩
      · rw [hf]
        exact Or.inl ⟨hb, [replacement], by simpa using replacement_not_ascii, rfl⟩
      · rw [hf]
        exact Or.inr ⟨hb, by simpa using replacement_not_ascii, held_none⟩
      · rw [hf]
        exact Or.inr ⟨hb, by simpa using replacement_not_ascii, held_some hq⟩

theorem lossyFrom_cons (held : Option Pending) (b : UInt8) (rest : List UInt8) :
    lossyFrom held (b :: rest) = (push held b).1 ++ lossyFrom (push held b).2 rest := by
  cases held <;> rfl

/-! ## ASCII texts -/

/-- The byte of an ASCII character. -/
theorem utf8_ascii {c : Char} (h : Ascii c) (s : List Char) :
    Text.utf8 (c :: s) = UInt8.ofNat c.toNat :: Text.utf8 s := by
  unfold Ascii at h
  have hone : String.utf8EncodeChar c = [UInt8.ofNat c.toNat] := by
    unfold String.utf8EncodeChar
    have hle : c.val.toNat ≤ 0x7f := by
      change c.toNat ≤ 0x7f
      omega
    simp only [hle, if_true]
    rfl
  rw [Text.utf8, List.flatMap_cons, hone]
  rfl

theorem toNat_byte {c : Char} (h : Ascii c) : (UInt8.ofNat c.toNat).toNat = c.toNat := by
  unfold Ascii at h
  rw [UInt8.toNat_ofNat']
  omega

theorem byte_ofNat {b : UInt8} (hb : b.toNat < 0x80) :
    UInt8.ofNat (Char.ofNat b.toNat).toNat = b := by
  have hvalid : b.toNat.isValidChar := Or.inl (by omega)
  rw [toNat_ofNat hvalid, UInt8.ofNat_toNat]

theorem not_ascii_head {c x : Char} {s l : List Char} (hc : Ascii c) (hx : ¬ Ascii x) :
    ¬ c :: s <+: x :: l := by
  intro h
  rw [List.cons_prefix_cons] at h
  exact hx (h.1 ▸ hc)

/-- What is held comes out as a character beyond ASCII. -/
theorem held_head {p : Pending} (hp : p.Sound) (bytes : List UInt8) :
    ∃ x l, ¬ Ascii x ∧ lossyFrom (some p) bytes = x :: l := by
  induction bytes generalizing p with
  | nil => exact ⟨replacement, [], replacement_not_ascii, rfl⟩
  | cons b rest ih =>
    rw [lossyFrom_cons]
    rcases push_cases hp b with ⟨-, c, hc, he⟩ | ⟨-, q, hq, he⟩ | he
    · rw [he]
      exact ⟨c, _, hc, rfl⟩
    · rw [he]
      exact ih hq
    · rw [he]
      exact ⟨replacement, _, replacement_not_ascii, rfl⟩

/-- An ASCII text at the start of the characters stands at the start of the bytes. -/
theorem starts_lossy {s : List Char} (hs : ∀ c ∈ s, Ascii c) {bytes : List UInt8}
    (h : s <+: lossyFrom none bytes) : Text.utf8 s <+: bytes := by
  induction s generalizing bytes with
  | nil => exact List.nil_prefix
  | cons c s ih =>
    have hc : Ascii c := hs c List.mem_cons_self
    cases bytes with
    | nil =>
      rw [lossyFrom] at h
      exact absurd (List.prefix_nil.mp h) (List.cons_ne_nil c s)
    | cons b rest =>
      rw [lossyFrom_cons, push] at h
      -- only an ASCII byte comes out as the ASCII character
      rcases pushFirst_cases b with ⟨hb, he⟩ | ⟨hb, he⟩ | ⟨hb, p, hp, he⟩
      · rw [he, List.singleton_append, List.cons_prefix_cons] at h
        obtain ⟨rfl, hrest⟩ := h
        have hbytes := ih (fun c hc => hs c (List.mem_cons_of_mem _ hc)) hrest
        rw [utf8_ascii hc, byte_ofNat hb, List.cons_prefix_cons]
        exact ⟨rfl, hbytes⟩
      · rw [he, List.singleton_append] at h
        exact absurd h (not_ascii_head hc replacement_not_ascii)
      · rw [he, List.nil_append] at h
        obtain ⟨x, l, hx, hl⟩ := held_head hp rest
        rw [hl] at h
        exact absurd h (not_ascii_head hc hx)

/-- An ASCII text does not reach into characters beyond ASCII. -/
theorem infix_skip {c : Char} {s out l : List Char} (hc : Ascii c) (hout : ∀ x ∈ out, ¬ Ascii x)
    (h : c :: s <:+: out ++ l) : c :: s <:+: l := by
  induction out with
  | nil => exact h
  | cons x out ih =>
    rw [List.cons_append, List.infix_cons_iff] at h
    rcases h with h | h
    · exact absurd h (not_ascii_head hc (hout x List.mem_cons_self))
    · exact ih (fun y hy => hout y (List.mem_cons_of_mem x hy)) h

theorem infix_of_lossyFrom {c : Char} {s : List Char} (hs : ∀ x ∈ c :: s, Ascii x)
    {held : Option Pending} (hheld : Held held) {bytes : List UInt8}
    (h : c :: s <:+: lossyFrom held bytes) : Text.utf8 (c :: s) <:+: bytes := by
  have hc : Ascii c := hs c List.mem_cons_self
  induction bytes generalizing held with
  | nil =>
    cases held with
    | none =>
      rw [lossyFrom] at h
      exact absurd (List.infix_nil.mp h) (List.cons_ne_nil c s)
    | some p =>
      have hskip : c :: s <:+: [] :=
        infix_skip hc (by simpa using replacement_not_ascii) (show c :: s <:+: [replacement] ++ [] from h)
      exact absurd (List.infix_nil.mp hskip) (List.cons_ne_nil c s)
  | cons b rest ih =>
    rw [lossyFrom_cons] at h
    -- only an ASCII byte puts out an ASCII character, its own
    rcases push_spec hheld b with ⟨hb, out, hout, he⟩ | ⟨hb, hout, hnext⟩
    · rw [he, List.append_assoc] at h
      have hskip := infix_skip hc hout h
      rw [List.singleton_append, List.infix_cons_iff] at hskip
      rcases hskip with hhere | hthere
      · have hfirst : lossyFrom none (b :: rest) = Char.ofNat b.toNat :: lossyFrom none rest := by
          rcases pushFirst_cases b with ⟨-, hf⟩ | ⟨hbig, -⟩ | ⟨hbig, -⟩
          · rw [lossyFrom_cons, push, hf]
            rfl
          · omega
          · omega
        rw [← hfirst] at hhere
        exact (starts_lossy hs hhere).isInfix
      · exact List.infix_cons (ih held_none hthere)
    · exact List.infix_cons (ih hnext (infix_skip hc hout h))

/-- The bytes of an ASCII text, read where nothing is held. -/
theorem lossyFrom_ascii {s : List Char} (hs : ∀ c ∈ s, Ascii c) (rest : List UInt8) :
    lossyFrom none (Text.utf8 s ++ rest) = s ++ lossyFrom none rest := by
  induction s with
  | nil => rfl
  | cons c s ih =>
    have hc : Ascii c := hs c List.mem_cons_self
    rw [utf8_ascii hc, List.cons_append, lossyFrom_cons, push]
    rcases pushFirst_cases (UInt8.ofNat c.toNat) with ⟨-, he⟩ | ⟨hbig, -⟩ | ⟨hbig, -⟩
    · rw [he, ih (fun x hx => hs x (List.mem_cons_of_mem c hx)), toNat_byte hc, Char.ofNat_toNat]
      rfl
    · rw [toNat_byte hc] at hbig
      exact absurd hc (Nat.not_lt.mpr hbig)
    · rw [toNat_byte hc] at hbig
      exact absurd hc (Nat.not_lt.mpr hbig)

theorem lossyFrom_infix {c : Char} {s : List Char} (hs : ∀ x ∈ c :: s, Ascii x)
    {held : Option Pending} (hheld : Held held) (before after : List UInt8) :
    c :: s <:+: lossyFrom held (before ++ Text.utf8 (c :: s) ++ after) := by
  have hc : Ascii c := hs c List.mem_cons_self
  induction before generalizing held with
  | nil =>
    rw [List.nil_append, utf8_ascii hc, List.cons_append, lossyFrom_cons]
    rcases push_spec hheld (UInt8.ofNat c.toNat) with ⟨hb, out, -, he⟩ | ⟨hb, -⟩
    · rw [he, lossyFrom_ascii (fun x hx => hs x (List.mem_cons_of_mem c hx)), toNat_byte hc,
        Char.ofNat_toNat]
      exact ⟨out, lossyFrom none after, by simp⟩
    · rw [toNat_byte hc] at hb
      exact absurd hc (Nat.not_lt.mpr hb)
  | cons b before ih =>
    rw [List.cons_append, List.cons_append, lossyFrom_cons]
    have hnext : Held (push held b).2 := by
      rcases push_spec hheld b with ⟨-, out, -, he⟩ | ⟨-, -, hnext⟩
      · rw [he]
        exact held_none
      · exact hnext
    exact (ih hnext).trans (List.suffix_append _ _).isInfix

/-- **An ASCII text occurs in the text if and only if its bytes occur in the bytes.** -/
theorem infix_lossy {s : List Char} (hs : ∀ c ∈ s, Ascii c) (bytes : List UInt8) :
    s <:+: lossy bytes ↔ Text.utf8 s <:+: bytes := by
  cases s with
  | nil => exact ⟨fun _ => List.nil_infix, fun _ => List.nil_infix⟩
  | cons c s =>
    constructor
    · exact infix_of_lossyFrom hs held_none
    · rintro ⟨before, after, rfl⟩
      exact lossyFrom_infix hs held_none before after

/-! ## Text that is UTF-8 -/

/-- The bytes that begin a character of two, three and four bytes, and the bounds of the second byte. -/
theorem pushFirst_two {k : ℕ} (hlow : 2 ≤ k) (hhigh : k < 0x20) :
    pushFirst (UInt8.ofNat (k + 0xC0)) = ([], some ⟨k, 1, 0x80, 0xBF⟩) := by
  have hb : (UInt8.ofNat (k + 0xC0)).toNat = k + 0xC0 := by
    rw [UInt8.toNat_ofNat']
    omega
  unfold pushFirst
  dsimp only
  rw [hb]
  rw [if_neg (by omega), if_neg (by omega), if_pos (by omega), Nat.add_sub_cancel]

theorem pushFirst_three {k j : ℕ} (hk : k < 0x10) (hj : j < 0x40) (hlow : k = 0 → 0x20 ≤ j)
    (hhigh : k = 0xD → j < 0x20) :
    ∃ p : Pending, pushFirst (UInt8.ofNat (k + 0xE0)) = ([], some p) ∧ p.code = k ∧ p.need = 2 ∧
      p.lower ≤ j + 0x80 ∧ j + 0x80 ≤ p.upper := by
  have hb : (UInt8.ofNat (k + 0xE0)).toNat = k + 0xE0 := by
    rw [UInt8.toNat_ofNat']
    omega
  unfold pushFirst
  dsimp only
  rw [hb]
  rw [if_neg (by omega), if_neg (by omega), if_neg (by omega)]
  by_cases hfirst : k = 0
  · rw [if_pos (by omega)]
    exact ⟨_, rfl, hfirst.symm, rfl, by dsimp only; omega, by dsimp only; omega⟩
  rw [if_neg (by omega)]
  by_cases hsurrogate : k = 0xD
  · rw [if_pos (by omega)]
    exact ⟨_, rfl, hsurrogate.symm, rfl, by dsimp only; omega, by dsimp only; omega⟩
  rw [if_neg (by omega), if_pos (by omega), Nat.add_sub_cancel]
  exact ⟨_, rfl, rfl, rfl, by dsimp only; omega, by dsimp only; omega⟩

theorem pushFirst_four {k j : ℕ} (hk : k < 5) (hj : j < 0x40) (hlow : k = 0 → 0x10 ≤ j)
    (hhigh : k = 4 → j < 0x10) :
    ∃ p : Pending, pushFirst (UInt8.ofNat (k + 0xF0)) = ([], some p) ∧ p.code = k ∧ p.need = 3 ∧
      p.lower ≤ j + 0x80 ∧ j + 0x80 ≤ p.upper := by
  have hb : (UInt8.ofNat (k + 0xF0)).toNat = k + 0xF0 := by
    rw [UInt8.toNat_ofNat']
    omega
  unfold pushFirst
  dsimp only
  rw [hb]
  rw [if_neg (by omega), if_neg (by omega), if_neg (by omega), if_neg (by omega), if_neg (by omega),
    if_neg (by omega)]
  by_cases hfirst : k = 0
  · rw [if_pos (by omega)]
    exact ⟨_, rfl, hfirst.symm, rfl, by dsimp only; omega, by dsimp only; omega⟩
  rw [if_neg (by omega)]
  by_cases hlast : k = 4
  · rw [if_neg (by omega), if_pos (by omega)]
    exact ⟨_, rfl, hlast.symm, rfl, by dsimp only; omega, by dsimp only; omega⟩
  rw [if_pos (by omega), Nat.add_sub_cancel]
  exact ⟨_, rfl, rfl, rfl, by dsimp only; omega, by dsimp only; omega⟩

/-- A further byte of a character. -/
theorem push_next {p : Pending} {j : ℕ} (hj : j < 0x40) (hlow : p.lower ≤ j + 0x80)
    (hhigh : j + 0x80 ≤ p.upper) :
    push (some p) (UInt8.ofNat (j + 0x80)) =
      if p.need = 1 then ([Char.ofNat (p.code * 64 + j)], none)
      else ([], some ⟨p.code * 64 + j, p.need - 1, 0x80, 0xBF⟩) := by
  have hb : (UInt8.ofNat (j + 0x80)).toNat = j + 0x80 := by
    rw [UInt8.toNat_ofNat']
    omega
  unfold push
  dsimp only
  rw [hb]
  rw [if_pos ⟨hlow, hhigh⟩, Nat.add_sub_cancel]

/-- The last byte of a character. -/
theorem lossyFrom_last {p : Pending} {j : ℕ} (hneed : p.need = 1) (hj : j < 0x40)
    (hlow : p.lower ≤ j + 0x80) (hhigh : j + 0x80 ≤ p.upper) (rest : List UInt8) :
    lossyFrom (some p) (UInt8.ofNat (j + 0x80) :: rest) =
      Char.ofNat (p.code * 64 + j) :: lossyFrom none rest := by
  rw [lossyFrom_cons, push_next hj hlow hhigh, if_pos hneed]
  rfl

/-- A byte after which the character goes on. -/
theorem lossyFrom_next {p : Pending} {j : ℕ} (hneed : p.need ≠ 1) (hj : j < 0x40)
    (hlow : p.lower ≤ j + 0x80) (hhigh : j + 0x80 ≤ p.upper) (rest : List UInt8) :
    lossyFrom (some p) (UInt8.ofNat (j + 0x80) :: rest) =
      lossyFrom (some ⟨p.code * 64 + j, p.need - 1, 0x80, 0xBF⟩) rest := by
  rw [lossyFrom_cons, push_next hj hlow hhigh, if_neg hneed]
  rfl

/-- **A character is read back from its bytes.** -/
theorem lossyFrom_char (c : Char) (rest : List UInt8) :
    lossyFrom none (String.utf8EncodeChar c ++ rest) = c :: lossyFrom none rest := by
  have hvalid : c.val.toNat < 0xD800 ∨ 0xDFFF < c.val.toNat ∧ c.val.toNat < 0x110000 := c.valid
  have hback : ∀ {n : ℕ}, n = c.val.toNat → Char.ofNat n = c := by
    rintro n rfl
    exact Char.ofNat_toNat c
  unfold String.utf8EncodeChar
  dsimp only
  generalize c.val.toNat = v at hvalid hback ⊢
  -- one case for each length of the encoding
  by_cases hone : v ≤ 0x7f
  · have hb : (UInt8.ofNat v).toNat = v := by
      rw [UInt8.toNat_ofNat']
      omega
    rw [if_pos hone, List.singleton_append, lossyFrom_cons, push]
    rcases pushFirst_cases (UInt8.ofNat v) with ⟨-, he⟩ | ⟨hbig, -⟩ | ⟨hbig, -⟩
    · rw [he, hb, hback rfl]
      rfl
    · omega
    · omega
  by_cases htwo : v ≤ 0x7ff
  · rw [if_neg hone, if_pos htwo]
    rw [List.cons_append, List.singleton_append, lossyFrom_cons, push, pushFirst_two (by omega) (by omega)]
    show lossyFrom (some ⟨v / 64 % 0x20, 1, 0x80, 0xBF⟩) _ = _
    rw [lossyFrom_last rfl (by omega) (by dsimp only; omega) (by dsimp only; omega)]
    rw [hback (by dsimp only; omega)]
  by_cases hthree : v ≤ 0xffff
  · rw [if_neg hone, if_neg htwo, if_pos hthree]
    obtain ⟨p, hp, hcode, hneed, hlow, hhigh⟩ :=
      pushFirst_three (k := v / 4096 % 0x10) (j := v / 64 % 0x40) (by omega) (by omega) (by omega)
        (by omega)
    simp only [List.cons_append, List.nil_append]
    rw [lossyFrom_cons, push, hp]
    show lossyFrom (some p) _ = _
    rw [lossyFrom_next (by omega) (by omega) hlow hhigh,
      lossyFrom_last (by dsimp only; omega) (by omega) (by dsimp only; omega) (by dsimp only; omega)]
    rw [hback (by dsimp only; omega)]
  · rw [if_neg hone, if_neg htwo, if_neg hthree]
    obtain ⟨p, hp, hcode, hneed, hlow, hhigh⟩ :=
      pushFirst_four (k := v / 262144 % 0x08) (j := v / 4096 % 0x40) (by omega) (by omega) (by omega)
        (by omega)
    simp only [List.cons_append, List.nil_append]
    rw [lossyFrom_cons, push, hp]
    show lossyFrom (some p) _ = _
    rw [lossyFrom_next (by omega) (by omega) hlow hhigh,
      lossyFrom_next (by dsimp only; omega) (by omega) (by dsimp only; omega) (by dsimp only; omega),
      lossyFrom_last (by dsimp only; omega) (by omega) (by dsimp only; omega) (by dsimp only; omega)]
    rw [hback (by dsimp only; omega)]

/-- **Text is read back from its bytes.** -/
theorem lossy_utf8 (s : List Char) : lossy (Text.utf8 s) = s := by
  unfold lossy
  induction s with
  | nil => rfl
  | cons c s ih =>
    rw [Text.utf8, List.flatMap_cons, lossyFrom_char]
    exact congrArg (c :: ·) ih

theorem strict_utf8 (s : List Char) : strict (Text.utf8 s) = some s := by
  unfold strict
  rw [lossy_utf8, if_pos rfl]

theorem utf8_of_strict {bytes : List UInt8} {s : List Char} (h : strict bytes = some s) :
    Text.utf8 s = bytes := by
  unfold strict at h
  split at h
  · next hback =>
    cases h
    exact hback
  · cases h

/-- Different texts have different bytes. -/
theorem utf8_injective : Function.Injective Text.utf8 := fun s t h => by
  rw [← lossy_utf8 s, h, lossy_utf8]

/-! ## ASCII bytes -/

theorem utf8_eq_map {s : List Char} (hs : ∀ c ∈ s, Ascii c) :
    Text.utf8 s = s.map (fun c => UInt8.ofNat c.toNat) := by
  induction s with
  | nil => rfl
  | cons c s ih =>
    rw [utf8_ascii (hs c List.mem_cons_self), ih (fun d hd => hs d (List.mem_cons_of_mem c hd)),
      List.map_cons]

theorem toNat_of_mem_utf8 {s : List Char} (hs : ∀ c ∈ s, Ascii c) {b : UInt8}
    (hb : b ∈ Text.utf8 s) : b.toNat < 0x80 := by
  rw [utf8_eq_map hs] at hb
  obtain ⟨c, hc, rfl⟩ := List.mem_map.mp hb
  rw [toNat_byte (hs c hc)]
  exact hs c hc

/-- ASCII bytes are text. -/
theorem strict_of_ascii {bytes : List UInt8} (h : ∀ b ∈ bytes, b.toNat < 0x80) :
    ∃ s, strict bytes = some s := by
  have hascii : ∀ c ∈ bytes.map (fun b => Char.ofNat b.toNat), Ascii c := by
    intro c hc
    obtain ⟨b, hb, rfl⟩ := List.mem_map.mp hc
    have hvalid : b.toNat.isValidChar := Or.inl (by have := h b hb; omega)
    unfold Ascii
    rw [toNat_ofNat hvalid]
    exact h b hb
  have hback : Text.utf8 (bytes.map (fun b => Char.ofNat b.toNat)) = bytes := by
    rw [utf8_eq_map hascii, List.map_map]
    exact List.map_congr_left (fun b hb => byte_ofNat (h b hb)) |>.trans (List.map_id _)
  refine ⟨bytes.map (fun b => Char.ofNat b.toNat), ?_⟩
  have hstrict := strict_utf8 (bytes.map (fun b => Char.ofNat b.toNat))
  rwa [hback] at hstrict

/-- A beginning that does not go on as a character, and one that does. -/
example : lossy [0xE2, 0x82, 0x22, 0xE2, 0x82, 0xAC] = [replacement, '"', '€'] := by decide

end Utf8
