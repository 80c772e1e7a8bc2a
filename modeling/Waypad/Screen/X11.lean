import Waypad.Cli.InviteCommand
import Waypad.Lib.Lines
import Waypad.Lib.Utf8
import Waypad.Screen.Monitors

/-!
# Waypad.Screen.X11 — the monitors that `xrandr` reports (`src/screen.rs`)

`list_x11_monitors` reads each line with ` connected` in it by its words: the first is the name, the third
the geometry.

* `parseI32`, `x11Monitor`, `x11Loop`, `listX11Monitors`: the parser.
* `X11Geometry`, `XrandrOutput`, `XrandrLine`: what `xrandr` prints; `XrandrOutput.offered`.
* `x11Monitor_output`: the parser on the line of an output.
* `listX11_printed`: the monitors it lists, of any report.
-/

namespace Waypad

/-! ## The parser -/

/-- `str::parse::<u32>`. -/
def parseU32 (s : List Char) : Option UInt32 :=
  (parseUnsigned 4294967295 (String.ofList s)).toOption.map UInt32.ofNat

/-- `str::parse::<i32>`: a `-` alone is no number. -/
def parseI32 (s : List Char) : Option Int32 :=
  match s with
  | '-' :: c :: digits =>
    (parseDigits 2147483648 0 (c :: digits)).toOption.map (fun n : ℕ => Int32.ofInt (-(n : ℤ)))
  | s => (parseUnsigned 2147483647 (String.ofList s)).toOption.map (fun n : ℕ => Int32.ofInt (n : ℤ))

/-- `WIDTHxHEIGHT+X+Y`. -/
structure X11Geometry where
  width : UInt32
  height : UInt32
  x : Int32
  y : Int32
  deriving DecidableEq, Repr

/-- The third word of a line. -/
def parseGeometry (geomStr : List Char) : Option X11Geometry :=
  if !geomStr.contains 'x' || !geomStr.contains '+' then none
  else
    match geomStr.splitOn '+' with
    | resStr :: x :: y :: _ =>
      match resStr.splitOn 'x' with
      | [w, h] => do
        let width ← parseU32 w
        let height ← parseU32 h
        let x ← parseI32 x
        let y ← parseI32 y
        some { width, height, x, y }
      | _ => none
    | _ => none

/-- One turn of the loop; `none` where it goes on with the next line. -/
def x11Monitor (line : List Char) : Option (List Char × X11Geometry) :=
  if ¬ " connected".toList <:+: line then none
  else
    match Text.words line with
    | name :: _ :: geomStr :: _ => (parseGeometry geomStr).map (fun geometry => (name, geometry))
    | _ => none

/-- The entry that is pushed. -/
def x11Source (name : List Char) (geometry : X11Geometry) (focused : Bool) : ScreenSource :=
  { id := "x11:" ++ String.ofList name
    label := String.ofList name ++ " (X11 – 60 FPS, no approval)"
    kind := "monitor"
    backend := "x11-ffmpeg"
    width := geometry.width
    height := geometry.height
    x := geometry.x
    y := geometry.y
    scale := 1
    focused }

/-- The loop over the lines, from the monitors pushed so far. -/
def x11Loop (monitors : List ScreenSource) : List (List Char) → List ScreenSource
  | [] => monitors
  | line :: rest =>
    match x11Monitor line with
    | none => x11Loop monitors rest
    | some (name, geometry) => x11Loop (monitors ++ [x11Source name geometry monitors.isEmpty]) rest

/-- `list_x11_monitors`; `output` is what `xrandr` has written, or why there is nothing of it. -/
def listX11Monitors (output : Except String (List UInt8)) : Except String (List ScreenSource) := do
  let stdout ← output
  match x11Loop [] (Text.lines (Utf8.lossy stdout)) with
  | [] => .error "no connected monitors found via xrandr"
  | monitors => .ok monitors

/-- The first source, and only the first, is focused. -/
def focusFirst : List ScreenSource → List ScreenSource
  | [] => []
  | source :: rest =>
    { source with focused := true } :: rest.map (fun source => { source with focused := false })

/-- **The loop**: the monitors it finds, in order, with the first one focused. -/
theorem x11Loop_eq (lines : List (List Char)) :
    x11Loop [] lines =
      focusFirst ((lines.filterMap x11Monitor).map (fun (name, geometry) => x11Source name geometry false)) := by
  have hrest : ∀ (lines : List (List Char)) (monitors : List ScreenSource), monitors ≠ [] →
      x11Loop monitors lines =
        monitors ++ (lines.filterMap x11Monitor).map (fun (name, geometry) => x11Source name geometry false) := by
    intro lines
    induction lines with
    | nil =>
      intro monitors _
      exact (List.append_nil _).symm
    | cons line lines ih =>
      intro monitors hne
      have hempty : monitors.isEmpty = false := by simpa using hne
      rw [x11Loop]
      cases hline : x11Monitor line with
      | none =>
        rw [List.filterMap_cons_none hline]
        exact ih monitors hne
      | some found =>
        rw [List.filterMap_cons_some hline, hempty]
        show x11Loop (monitors ++ [x11Source found.1 found.2 false]) lines = _
        rw [ih _ (by simp), List.append_assoc]
        rfl
  -- the first monitor is the focused one, and the others follow it
  induction lines with
  | nil => rfl
  | cons line lines ih =>
    rw [x11Loop]
    cases hline : x11Monitor line with
    | none =>
      rw [List.filterMap_cons_none hline]
      exact ih
    | some found =>
      rw [List.filterMap_cons_some hline]
      show x11Loop [x11Source found.1 found.2 true] lines = _
      rw [hrest lines _ (by simp), List.map_cons, focusFirst, List.map_map]
      rfl

/-! ## What `xrandr` prints -/

/-- A number with its sign. -/
def signed (n : ℤ) : List Char :=
  if 0 ≤ n then Nat.toDigits 10 n.toNat else '-' :: Nat.toDigits 10 (-n).toNat

def X11Geometry.text (self : X11Geometry) : List Char :=
  (Nat.toDigits 10 self.width.toNat ++ 'x' :: Nat.toDigits 10 self.height.toNat) ++
    '+' :: (signed self.x.toInt ++ '+' :: signed self.y.toInt)

/-- A connected output; `mode` is there when it shows a picture. -/
structure XrandrOutput where
  name : List Char
  primary : Bool
  mode : Option X11Geometry
  /-- the rotations and the size that end the line -/
  rest : List Char
  name_ne : name ≠ []
  name_word : ∀ c ∈ name, Text.isWhitespace c = false
  rest_line : '\n' ∉ rest ∧ '\r' ∉ rest

/-- A line of a report. -/
inductive XrandrLine
  | output (found : XrandrOutput)
  /-- the screen, a mode, or an output that is not connected -/
  | other (text : List Char) (unconnected : ¬ " connected".toList <:+: text)
      (line : '\n' ∉ text ∧ '\r' ∉ text)

namespace XrandrOutput

def text (self : XrandrOutput) : List Char :=
  self.name ++ " connected".toList ++ (if self.primary then " primary".toList else []) ++
    (match self.mode with
      | some geometry => ' ' :: (geometry.text ++ ' ' :: self.rest)
      | none => ' ' :: '(' :: self.rest)

/-- What the parser makes of it: an output that is primary has that word where it looks for the
geometry. -/
def offered (self : XrandrOutput) : Option (List Char × X11Geometry) :=
  if self.primary then none else self.mode.map (fun geometry => (self.name, geometry))

end XrandrOutput

namespace XrandrLine

def text : XrandrLine → List Char
  | .output found => found.text
  | .other text _ _ => text

def offered : XrandrLine → Option (List Char × X11Geometry)
  | .output found => found.offered
  | .other _ _ _ => none

end XrandrLine

/-! ## Numbers -/

theorem parseDigits_ofDigitChars {max : ℕ} : ∀ (digits : List Char) (n : ℕ),
    (∀ c ∈ digits, c.isDigit = true) → Nat.ofDigitChars 10 digits n ≤ max →
      parseDigits max n digits = .ok (Nat.ofDigitChars 10 digits n)
  | [], n, _, _ => rfl
  | c :: digits, n, hdigits, hmax => by
    have hstep : Nat.ofDigitChars 10 (c :: digits) n =
        Nat.ofDigitChars 10 digits (n * 10 + (c.toNat - 48)) := by
      rw [Nat.ofDigitChars_cons, Nat.mul_comm]
      rfl
    rw [hstep] at hmax ⊢
    have hle : n * 10 + (c.toNat - 48) ≤ max := by
      have hgrow : Nat.ofDigitChars 10 digits (n * 10 + (c.toNat - 48)) =
          10 ^ digits.length * (n * 10 + (c.toNat - 48)) + Nat.ofDigitChars 10 digits 0 :=
        Nat.ofDigitChars_eq_ofDigitChars_zero
      have hpow : 0 < 10 ^ digits.length := Nat.pow_pos (by decide)
      have hmul := Nat.le_mul_of_pos_left (n * 10 + (c.toNat - 48)) hpow
      omega
    rw [parseDigits, if_pos (hdigits c List.mem_cons_self), if_neg (by omega)]
    exact parseDigits_ofDigitChars digits _ (fun d hd => hdigits d (List.mem_cons_of_mem c hd)) hmax

/-- A number is read back from its digits. -/
theorem parseDigits_toDigits {max n : ℕ} (h : n ≤ max) : parseDigits max 0 (Nat.toDigits 10 n) = .ok n := by
  have hdigits : ∀ c ∈ Nat.toDigits 10 n, c.isDigit = true := fun c hc =>
    Nat.isDigit_of_mem_toDigits (by decide) (by decide) hc
  have hback : Nat.ofDigitChars 10 (Nat.toDigits 10 n) 0 = n := Nat.ofDigitChars_ten_toDigits
  rw [parseDigits_ofDigitChars _ 0 hdigits (by rw [hback]; exact h), hback]

/-- The digits of a number, the first one apart. -/
theorem toDigits_cons (n : ℕ) : ∃ c digits, Nat.toDigits 10 n = c :: digits ∧ c.isDigit = true := by
  obtain ⟨c, digits, hcons⟩ := List.exists_cons_of_ne_nil (Nat.toDigits_ne_nil (n := n) (b := 10))
  refine ⟨c, digits, hcons, ?_⟩
  exact Nat.isDigit_of_mem_toDigits (b := 10) (n := n) (by decide) (by decide) (by rw [hcons]; simp)

theorem parseUnsigned_toDigits {max n : ℕ} (h : n ≤ max) :
    parseUnsigned max (String.ofList (Nat.toDigits 10 n)) = .ok n := by
  have hback := parseDigits_toDigits h
  obtain ⟨c, digits, hcons, hc⟩ := toDigits_cons n
  rw [hcons] at hback ⊢
  have hplus : c ≠ '+' := by
    rintro rfl
    exact absurd hc (by decide)
  unfold parseUnsigned
  rw [String.toList_ofList]
  split
  · rename_i heq
    cases heq
  · rename_i heq
    exact absurd (List.cons.inj heq).1 hplus
  · rename_i heq
    exact absurd (List.cons.inj heq).1 hplus
  · exact hback

theorem parseU32_toDigits (w : UInt32) : parseU32 (Nat.toDigits 10 w.toNat) = some w := by
  have hlt : w.toNat < 4294967296 := w.toNat_lt
  unfold parseU32
  rw [parseUnsigned_toDigits (by omega)]
  show some (UInt32.ofNat w.toNat) = some w
  rw [UInt32.ofNat_toNat]

theorem parseI32_signed (x : Int32) : parseI32 (signed x.toInt) = some x := by
  have hlow : -2147483648 ≤ x.toInt := x.le_toInt
  have hhigh : x.toInt ≤ 2147483647 := x.toInt_le
  unfold signed
  by_cases hsign : 0 ≤ x.toInt
  · rw [if_pos hsign]
    have hback : parseUnsigned 2147483647 (String.ofList (Nat.toDigits 10 x.toInt.toNat)) =
        .ok x.toInt.toNat := parseUnsigned_toDigits (by omega)
    obtain ⟨c, digits, hcons, hc⟩ := toDigits_cons x.toInt.toNat
    rw [hcons] at hback ⊢
    -- a digit, so the number is read as unsigned
    have hminus : c ≠ '-' := by
      rintro rfl
      exact absurd hc (by decide)
    unfold parseI32
    split
    · rename_i heq
      exact absurd (List.cons.inj heq).1 hminus
    · rw [hback]
      show some (Int32.ofInt (x.toInt.toNat : ℤ)) = some x
      rw [Int.toNat_of_nonneg hsign, Int32.ofInt_toInt]
  · rw [if_neg hsign]
    have hback : parseDigits 2147483648 0 (Nat.toDigits 10 (-x.toInt).toNat) = .ok (-x.toInt).toNat :=
      parseDigits_toDigits (by omega)
    obtain ⟨c, digits, hcons, -⟩ := toDigits_cons (-x.toInt).toNat
    rw [hcons] at hback ⊢
    unfold parseI32
    show (parseDigits 2147483648 0 (c :: digits)).toOption.map _ = _
    rw [hback]
    show some (Int32.ofInt (-((-x.toInt).toNat : ℤ))) = some x
    rw [Int.toNat_of_nonneg (by omega), neg_neg, Int32.ofInt_toInt]

/-! ## Lines -/

theorem not_mem_toDigits {c : Char} (hc : c.isDigit = false) (n : ℕ) : c ∉ Nat.toDigits 10 n := by
  intro hmem
  have hdigit : c.isDigit = true := Nat.isDigit_of_mem_toDigits (by decide) (by decide) hmem
  rw [hc] at hdigit
  cases hdigit

theorem not_mem_signed {c : Char} (hc : c.isDigit = false) (hminus : c ≠ '-') (n : ℤ) : c ∉ signed n := by
  unfold signed
  split_ifs
  · exact not_mem_toDigits hc _
  · rw [List.mem_cons]
    rintro (heq | hmem)
    · exact hminus heq
    · exact not_mem_toDigits hc _ hmem

/-- **A geometry is read back.** -/
theorem parseGeometry_text (geometry : X11Geometry) : parseGeometry geometry.text = some geometry := by
  obtain ⟨width, height, x, y⟩ := geometry
  have hplus : ∀ n, '+' ∉ Nat.toDigits 10 n := not_mem_toDigits (by decide)
  have hres : '+' ∉ Nat.toDigits 10 width.toNat ++ 'x' :: Nat.toDigits 10 height.toNat := by
    rw [List.mem_append, List.mem_cons]
    rintro (hmem | heq | hmem)
    · exact hplus _ hmem
    · exact absurd heq (by decide)
    · exact hplus _ hmem
  have hx : '+' ∉ signed x.toInt := not_mem_signed (by decide) (by decide) _
  have hy : '+' ∉ signed y.toInt := not_mem_signed (by decide) (by decide) _
  have hw : 'x' ∉ Nat.toDigits 10 width.toNat := not_mem_toDigits (by decide) _
  have hh : 'x' ∉ Nat.toDigits 10 height.toNat := not_mem_toDigits (by decide) _
  unfold parseGeometry X11Geometry.text
  rw [if_neg (by simp), List.splitOn_append_cons_self_of_not_mem hres,
    List.splitOn_append_cons_self_of_not_mem hx, List.splitOn_eq_singleton hy]
  show (match List.splitOn 'x' (Nat.toDigits 10 width.toNat ++ 'x' :: Nat.toDigits 10 height.toNat) with
    | [w, h] => _
    | _ => none) = _
  rw [List.splitOn_append_cons_self_of_not_mem hw, List.splitOn_eq_singleton hh]
  simp only [parseU32_toDigits, parseI32_signed]
  rfl

/-- A word that begins with a bracket is no geometry. -/
theorem parseGeometry_bracket (w : List Char) : parseGeometry ('(' :: w) = none := by
  have hcons : ∀ (sep : Char), '(' ≠ sep → ∀ l : List Char,
      ∃ part parts, ('(' :: l).splitOn sep = ('(' :: part) :: parts := by
    intro sep hne l
    obtain ⟨part, parts, hsplit⟩ := List.exists_cons_of_ne_nil (List.splitOn_ne_nil sep l)
    refine ⟨part, parts, ?_⟩
    rw [List.splitOn_cons_eq_if_modifyHead, if_neg (by simpa using hne), hsplit, List.modifyHead_cons]
  have hparse : ∀ l : List Char, parseU32 ('(' :: l) = none := by
    intro l
    unfold parseU32 parseUnsigned
    rw [String.toList_ofList]
    rfl
  -- the first part begins with the bracket, which is no digit
  obtain ⟨part, parts, hplus⟩ := hcons '+' (by decide) w
  obtain ⟨first, more, hx⟩ := hcons 'x' (by decide) part
  unfold parseGeometry
  split_ifs
  · rfl
  · rw [hplus]
    match parts with
    | [] => rfl
    | [_] => rfl
    | x :: y :: rest =>
      show (match List.splitOn 'x' ('(' :: part) with
        | [w, h] => _
        | _ => none) = _
      rw [hx]
      match more with
      | [] => rfl
      | [h] => simp only [hparse]; rfl
      | _ :: _ :: _ => rfl

/-- No character of a geometry is white space. -/
theorem geometry_word (geometry : X11Geometry) : ∀ c ∈ geometry.text, Text.isWhitespace c = false := by
  have hsigned : ∀ n, ∀ c ∈ signed n, Text.isWhitespace c = false := by
    intro n c hc
    unfold signed at hc
    split_ifs at hc
    · exact Text.toDigits_word _ c hc
    · rcases List.mem_cons.mp hc with rfl | hc
      · decide
      · exact Text.toDigits_word _ c hc
  intro c hc
  simp only [X11Geometry.text, List.mem_append, List.mem_cons] at hc
  rcases hc with (hc | rfl | hc) | rfl | hc | rfl | hc
  · exact Text.toDigits_word _ c hc
  · decide
  · exact Text.toDigits_word _ c hc
  · decide
  · exact hsigned _ c hc
  · decide
  · exact hsigned _ c hc

theorem geometry_ne_nil (geometry : X11Geometry) : geometry.text ≠ [] := by simp [X11Geometry.text]

/-- The words of a line after the name and ` connected`. -/
theorem words_connected (self : XrandrOutput) (tail : List Char) :
    Text.words (self.name ++ " connected".toList ++ ' ' :: tail) =
      self.name :: "connected".toList :: Text.words tail := by
  have hsplit : self.name ++ " connected".toList ++ ' ' :: tail =
      self.name ++ ' ' :: ("connected".toList ++ ' ' :: tail) := by
    rw [List.append_assoc]
    rfl
  rw [hsplit, Text.words_cons self.name_word self.name_ne rfl,
    Text.words_cons (Text.word_of_all rfl) (by decide) rfl]

/-- **The line of an output**: its name and its geometry, unless it is primary or shows no picture. -/
theorem x11Monitor_output (self : XrandrOutput) : x11Monitor self.text = self.offered := by
  have hconnected : " connected".toList <:+: self.text := by
    unfold XrandrOutput.text
    rw [List.append_assoc (self.name ++ _)]
    exact List.infix_append _ _ _
  unfold x11Monitor
  rw [if_neg (not_not.mpr hconnected)]
  unfold XrandrOutput.text XrandrOutput.offered
  by_cases hprimary : self.primary = true
  · rw [if_pos hprimary, if_pos hprimary]
    have hline : ∀ tail : List Char, Text.words (self.name ++ " connected".toList ++ " primary".toList ++
        ' ' :: tail) = self.name :: "connected".toList :: "primary".toList :: Text.words tail := by
      intro tail
      have hsplit : self.name ++ " connected".toList ++ " primary".toList ++ ' ' :: tail =
          self.name ++ " connected".toList ++ ' ' :: ("primary".toList ++ ' ' :: tail) := by
        rw [List.append_assoc (self.name ++ _)]
        rfl
      rw [hsplit, words_connected, Text.words_cons (Text.word_of_all rfl) (by decide) rfl]
    cases self.mode with
    | some geometry => rw [hline]; rfl
    | none => rw [hline]; rfl
  · rw [if_neg hprimary, if_neg hprimary, List.append_nil]
    cases self.mode with
    | some geometry =>
      show (match Text.words (self.name ++ " connected".toList ++ ' ' :: (geometry.text ++ ' ' :: self.rest)) with
        | name :: _ :: geomStr :: _ => (parseGeometry geomStr).map (fun geometry => (name, geometry))
        | _ => none) = _
      rw [words_connected, Text.words_cons (geometry_word geometry) (geometry_ne_nil geometry) (by decide)]
      show (parseGeometry geometry.text).map _ = _
      rw [parseGeometry_text, Option.map_some]
    | none =>
      -- the bracket of the modes stands where the geometry would
      obtain ⟨w, more, hwords⟩ := Text.words_head (c := '(') (by decide) self.rest
      show (match Text.words (self.name ++ " connected".toList ++ ' ' :: '(' :: self.rest) with
        | name :: _ :: geomStr :: _ => (parseGeometry geomStr).map (fun geometry => (name, geometry))
        | _ => none) = _
      rw [words_connected, hwords]
      show (parseGeometry ('(' :: w)).map _ = _
      rw [parseGeometry_bracket, Option.map_none]

theorem x11Monitor_line (line : XrandrLine) : x11Monitor line.text = line.offered := by
  cases line with
  | output found => exact x11Monitor_output found
  | other text unconnected _ => exact if_pos unconnected

/-- The text of a line has no end of a line in it. -/
theorem line_text (line : XrandrLine) : '\n' ∉ line.text ∧ '\r' ∉ line.text := by
  have hspace : Text.isWhitespace '\n' = true ∧ Text.isWhitespace '\r' = true := by decide
  have hword : ∀ {w : List Char} {c : Char}, (∀ d ∈ w, Text.isWhitespace d = false) →
      Text.isWhitespace c = true → c ∉ w := by
    intro w c hw hc hmem
    rw [hw c hmem] at hc
    cases hc
  cases line with
  | other text _ hline => exact hline
  | output found =>
    obtain ⟨name, primary, mode, rest, -, hname, hn, hr⟩ := found
    have hgeometry := fun geometry => hword (geometry_word geometry) hspace.1
    have hgeometry' := fun geometry => hword (geometry_word geometry) hspace.2
    have hname1 := hword hname hspace.1
    have hname2 := hword hname hspace.2
    show '\n' ∉ XrandrOutput.text _ ∧ '\r' ∉ XrandrOutput.text _
    unfold XrandrOutput.text
    cases primary <;> cases mode <;> simp [hname1, hname2, hn, hr, hgeometry, hgeometry']

/-- **The monitors that are listed**, of any report: the connected outputs that show a picture and are not
primary, in order, with the first one focused. -/
theorem listX11_printed (report : List XrandrLine) :
    listX11Monitors (.ok (Text.utf8 (report.flatMap (fun line => line.text ++ ['\n'])))) =
      match report.filterMap XrandrLine.offered with
      | [] => .error "no connected monitors found via xrandr"
      | offered => .ok (focusFirst (offered.map (fun (name, geometry) => x11Source name geometry false))) := by
  have hlines : Text.lines (report.flatMap (fun line => line.text ++ ['\n'])) =
      report.map XrandrLine.text := by
    have hmap : report.flatMap (fun line => line.text ++ ['\n']) =
        (report.map XrandrLine.text).flatMap (· ++ ['\n']) := by
      rw [List.flatMap_map]
    rw [hmap, Text.lines_unlines]
    intro l hl
    obtain ⟨line, -, rfl⟩ := List.mem_map.mp hl
    exact line_text line
  have hfound : (report.map XrandrLine.text).filterMap x11Monitor =
      report.filterMap XrandrLine.offered := by
    rw [List.filterMap_map]
    exact List.filterMap_congr (fun line _ => x11Monitor_line line)
  unfold listX11Monitors
  show (match x11Loop [] (Text.lines (Utf8.lossy (Text.utf8 _))) with
    | [] => _
    | monitors => _) = _
  rw [Utf8.lossy_utf8, hlines, x11Loop_eq, hfound]
  cases report.filterMap XrandrLine.offered <;> rfl

end Waypad
