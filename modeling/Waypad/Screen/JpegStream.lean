import Waypad.Screen.Producer

/-!
# Waypad.Screen.JpegStream — pictures through a pipe (`src/screen.rs`)

* `JpegPicture`: the bytes of one picture, with the two markers where they belong.
* `framesLoop_stream`: what the loop of `push` finds in any first part of a stream of pictures.
* `pictures_iff`: the reader returns the pictures unless a read ends after the first byte of one.
-/

namespace Waypad

/-! ## Markers -/

/-- The two bytes stand at `index`. -/
def MarkerAt (buffer : List UInt8) (first second : UInt8) (index : ℕ) : Prop :=
  buffer[index]? = some first ∧ buffer[index + 1]? = some second

instance (buffer : List UInt8) (first second : UInt8) (index : ℕ) :
    Decidable (MarkerAt buffer first second index) :=
  inferInstanceAs (Decidable (_ ∧ _))

section Markers

variable {buffer : List UInt8} {first second : UInt8} {skip index : ℕ}

theorem MarkerAt.lt (h : MarkerAt buffer first second index) : index + 1 < buffer.length := by
  obtain ⟨hlt, -⟩ := List.getElem?_eq_some_iff.mp h.2
  exact hlt

theorem MarkerAt.of_prefix {more : List UInt8} (h : MarkerAt buffer first second index)
    (hmore : buffer <+: more) : MarkerAt more first second index := by
  obtain ⟨tail, rfl⟩ := hmore
  have hlt := h.lt
  constructor
  · rw [List.getElem?_append_left (by omega), h.1]
  · rw [List.getElem?_append_left hlt, h.2]

theorem findMarker_range :
    findMarker buffer first second skip =
      (List.range' skip (buffer.length - 1 - skip)).find? (fun index =>
        buffer[index]? == some first && buffer[index + 1]? == some second) := by
  rw [findMarker, List.range_eq_range', List.drop_range', Nat.mul_one, Nat.zero_add]

/-- The first marker is found. -/
theorem findMarker_some (hskip : skip ≤ index) (hat : MarkerAt buffer first second index)
    (hfirst : ∀ j, skip ≤ j → j < index → ¬ MarkerAt buffer first second j) :
    findMarker buffer first second skip = some index := by
  have hlt := hat.lt
  rw [findMarker_range, List.find?_range'_eq_some]
  refine ⟨?_, ?_, ?_⟩
  · rw [hat.1, hat.2]
    simp
  · rw [List.mem_range'_1]
    omega
  · intro j hj hlt'
    have hnot := hfirst j hj hlt'
    rw [MarkerAt, Decidable.not_and_iff_or_not] at hnot
    simpa using hnot

theorem findMarker_none (h : ∀ j, skip ≤ j → ¬ MarkerAt buffer first second j) :
    findMarker buffer first second skip = none := by
  rw [findMarker_range, List.find?_range'_eq_none]
  intro j hj hlt
  have hnot := h j hj
  rw [MarkerAt, Decidable.not_and_iff_or_not] at hnot
  simpa using hnot

end Markers

/-! ## Pictures -/

structure JpegPicture where
  bytes : List UInt8
  starts : [0xff, 0xd8] <+: bytes
  ends : [0xff, 0xd9] <:+ bytes
  /-- no other end marker from offset 2 on -/
  only : ∀ index, 2 ≤ index → MarkerAt bytes 0xff 0xd9 index → index + 2 = bytes.length

/-- The bytes of some pictures, one after the other. -/
def pictureBytes (pictures : List JpegPicture) : List UInt8 := pictures.flatMap JpegPicture.bytes

@[simp] theorem pictureBytes_nil : pictureBytes [] = [] := rfl

@[simp] theorem pictureBytes_cons (picture : JpegPicture) (pictures : List JpegPicture) :
    pictureBytes (picture :: pictures) = picture.bytes ++ pictureBytes pictures := rfl

@[simp] theorem pictureBytes_append (pictures more : List JpegPicture) :
    pictureBytes (pictures ++ more) = pictureBytes pictures ++ pictureBytes more :=
  List.flatMap_append

namespace JpegPicture

variable {picture : JpegPicture} {part : List UInt8}

/-- The two markers do not overlap. -/
theorem four (picture : JpegPicture) : 4 ≤ picture.bytes.length := by
  obtain ⟨tail, htail⟩ := picture.starts
  obtain ⟨front, hfront⟩ := picture.ends
  rw [← hfront] at htail ⊢
  match front with
  | [] => simp at htail
  | [_] => simp at htail
  | _ :: _ :: front => simp

theorem marker_start (picture : JpegPicture) : MarkerAt picture.bytes 0xff 0xd8 0 := by
  obtain ⟨tail, htail⟩ := picture.starts
  rw [← htail]
  exact ⟨rfl, rfl⟩

theorem marker_end (picture : JpegPicture) :
    MarkerAt picture.bytes 0xff 0xd9 (picture.bytes.length - 2) := by
  obtain ⟨front, hfront⟩ := picture.ends
  rw [← hfront]
  simp [MarkerAt]

/-- A part of at least two bytes begins with the start marker. -/
theorem part_start (hpart : part <+: picture.bytes) (htwo : 2 ≤ part.length) :
    MarkerAt part 0xff 0xd8 0 := by
  obtain ⟨tail, htail⟩ := picture.starts
  obtain ⟨after, hafter⟩ := hpart
  match part, htwo with
  | a :: b :: part, _ =>
    rw [← hafter] at htail
    simp only [List.cons_append, List.nil_append, List.cons.injEq] at htail
    obtain ⟨rfl, rfl, -⟩ := htail
    exact ⟨rfl, rfl⟩

/-- A part that is not the whole picture has no end marker. -/
theorem part_open (hpart : part <+: picture.bytes) (hshort : part.length < picture.bytes.length)
    (index : ℕ) (hindex : 2 ≤ index) : ¬ MarkerAt part 0xff 0xd9 index := by
  intro hat
  have hend := picture.only index hindex (hat.of_prefix hpart)
  have hlt := hat.lt
  omega

end JpegPicture

namespace JpegStreamReader

variable {picture : JpegPicture} {pictures : List JpegPicture} {buffer : List UInt8}

/-! ## One `push` -/

/-- One byte holds no marker. -/
theorem framesLoop_short (fuel : ℕ) (h : buffer.length ≤ 1) :
    framesLoop (fuel + 1) buffer = ([], []) := by
  have hnone : findMarker buffer 0xff 0xd8 0 = none := by
    apply findMarker_none
    intro j _ hat
    have hlt := hat.lt
    omega
  rw [framesLoop, hnone]

/-- A part of a picture stays in the buffer. -/
theorem framesLoop_part (fuel : ℕ) (hpart : buffer <+: picture.bytes)
    (hshort : buffer.length < picture.bytes.length) (htwo : 2 ≤ buffer.length) :
    framesLoop (fuel + 1) buffer = ([], buffer) := by
  have hstart : findMarker buffer 0xff 0xd8 0 = some 0 := by
    apply findMarker_some (Nat.le_refl 0) (JpegPicture.part_start hpart htwo)
    intro j _ hlt
    omega
  have hend : findMarker buffer 0xff 0xd9 2 = none :=
    findMarker_none (JpegPicture.part_open hpart hshort)
  simp only [framesLoop, hstart, List.drop_zero, hend]

/-- A whole picture is cut off. -/
theorem framesLoop_picture (fuel : ℕ) (picture : JpegPicture) (rest : List UInt8) :
    framesLoop (fuel + 1) (picture.bytes ++ rest) =
      (picture.bytes :: (framesLoop fuel rest).1, (framesLoop fuel rest).2) := by
  have hfour := picture.four
  have hprefix : picture.bytes <+: picture.bytes ++ rest := List.prefix_append _ _
  have hstart : findMarker (picture.bytes ++ rest) 0xff 0xd8 0 = some 0 := by
    apply findMarker_some (Nat.le_refl 0) (picture.marker_start.of_prefix hprefix)
    intro j _ hlt
    omega
  have hend : findMarker (picture.bytes ++ rest) 0xff 0xd9 2 = some (picture.bytes.length - 2) := by
    apply findMarker_some (by omega) (picture.marker_end.of_prefix hprefix)
    intro j hj hlt hat
    have hinside : MarkerAt picture.bytes 0xff 0xd9 j := by
      obtain ⟨h0, h1⟩ := hat
      rw [List.getElem?_append_left (by omega)] at h0 h1
      exact ⟨h0, h1⟩
    have := picture.only j hj hinside
    omega
  have hlen : picture.bytes.length - 2 + 2 = picture.bytes.length := by omega
  simp only [framesLoop, hstart, List.drop_zero, hend, hlen, List.drop_left, List.take_left]

/-- **The loop on a first part of a stream** returns the whole pictures in it and keeps what is left of
the next one, except a single byte. -/
theorem framesLoop_stream (pictures : List JpegPicture) (fuel : ℕ)
    (hpart : buffer <+: pictureBytes pictures) (hfuel : buffer.length < fuel) :
    ∃ done rest left, pictures = done ++ rest ∧ buffer = pictureBytes done ++ left ∧
      (∀ picture more, rest = picture :: more → left.length < picture.bytes.length) ∧
      framesLoop fuel buffer =
        (done.map JpegPicture.bytes, if left.length = 1 then [] else left) := by
  induction pictures generalizing buffer fuel with
  | nil =>
    obtain ⟨fuel, rfl⟩ : ∃ f, fuel = f + 1 := ⟨fuel - 1, by omega⟩
    obtain rfl : buffer = [] := List.prefix_nil.mp hpart
    refine ⟨[], [], [], rfl, rfl, ?_, framesLoop_short fuel (Nat.zero_le _)⟩
    intro picture more h
    cases h
  | cons picture pictures ih =>
    obtain ⟨fuel, rfl⟩ : ∃ f, fuel = f + 1 := ⟨fuel - 1, by omega⟩
    have hfour := picture.four
    rw [pictureBytes_cons] at hpart
    -- the next picture is there whole, or the buffer is a part of it
    by_cases hwhole : picture.bytes.length ≤ buffer.length
    · obtain ⟨next, rfl⟩ : picture.bytes <+: buffer :=
        List.prefix_of_prefix_length_le (List.prefix_append _ _) hpart hwhole
      rw [List.prefix_append_right_inj] at hpart
      rw [List.length_append] at hfuel
      obtain ⟨done, rest, left, rfl, rfl, hleft, hloop⟩ := ih fuel hpart (by omega)
      refine ⟨picture :: done, rest, left, rfl, ?_, hleft, ?_⟩
      · rw [pictureBytes_cons, List.append_assoc]
      · rw [framesLoop_picture, hloop, List.map_cons]
    · have hinside : buffer <+: picture.bytes :=
        List.prefix_of_prefix_length_le hpart (List.prefix_append _ _) (by omega)
      refine ⟨[], picture :: pictures, buffer, rfl, rfl, ?_, ?_⟩
      · intro picture' more h
        obtain ⟨rfl, -⟩ := List.cons.inj h
        omega
      · -- two bytes are enough to see the start of a picture; one is thrown away
        by_cases htwo : 2 ≤ buffer.length
        · rw [if_neg (by omega)]
          exact framesLoop_part fuel hinside (by omega) htwo
        · rw [framesLoop_short fuel (by omega)]
          by_cases hone : buffer.length = 1
          · rw [if_pos hone]
            rfl
          · obtain rfl : buffer = [] := List.length_eq_zero_iff.mp (by omega)
            rfl

/-! ## Reads -/

/-- The pictures that a sequence of calls returns. -/
def pushes : JpegStreamReader → List (List UInt8) → List (List UInt8)
  | _, [] => []
  | self, chunk :: chunks => (self.push chunk).1 ++ pushes (self.push chunk).2 chunks

/-- The pictures and what stays in the buffer have no more bytes than there were. -/
theorem framesLoop_bytes (fuel : ℕ) (buffer : List UInt8) :
    (framesLoop fuel buffer).1.flatten.length + (framesLoop fuel buffer).2.length ≤ buffer.length := by
  induction fuel generalizing buffer with
  | zero => simp [framesLoop]
  | succ fuel ih =>
    rw [framesLoop]
    split
    · simp
    · next start _ =>
      dsimp only
      split
      · simp only [List.flatten_nil, List.length_nil, List.length_drop]
        omega
      · next stop hstop =>
        have hlong := lt_of_findMarker hstop
        have hrest := ih ((buffer.drop start).drop (stop + 2))
        rw [List.length_drop] at hlong
        simp only [List.length_drop] at hrest
        simp only [List.flatten_cons, List.length_append, List.length_take, List.length_drop]
        omega

theorem pushes_bytes (chunks : List (List UInt8)) (self : JpegStreamReader) :
    (self.pushes chunks).flatten.length ≤ self.buffer.length + chunks.flatten.length := by
  induction chunks generalizing self with
  | nil => simp [pushes]
  | cons chunk chunks ih =>
    have hpush : (self.push chunk).1.flatten.length + (self.push chunk).2.buffer.length ≤
        (self.buffer ++ chunk).length :=
      framesLoop_bytes ((self.buffer ++ chunk).length + 1) (self.buffer ++ chunk)
    have hrest := ih (self.push chunk).2
    rw [List.length_append] at hpush
    simp only [pushes, List.flatten_append, List.flatten_cons, List.length_append]
    omega

/-- No call ends right after the first byte of a picture, when `held` bytes are in the buffer. -/
def NoSplitStart (held : ℕ) (pictures : List JpegPicture) (chunks : List (List UInt8)) : Prop :=
  ∀ calls before, held + (chunks.take calls).flatten.length ≠
    (pictureBytes (pictures.take before)).length + 1

theorem flatten_pictures (pictures : List JpegPicture) :
    (pictures.map JpegPicture.bytes).flatten = pictureBytes pictures := rfl

theorem take_shorter {before : ℕ} (h : before < pictures.length) :
    (pictureBytes (pictures.take before)).length + 4 ≤ (pictureBytes pictures).length := by
  have hsplit := congrArg pictureBytes (List.take_append_drop before pictures)
  rw [pictureBytes_append] at hsplit
  cases hrest : pictures.drop before with
  | nil =>
    rw [List.drop_eq_nil_iff] at hrest
    omega
  | cons picture rest =>
    have hfour := picture.four
    rw [← hsplit, hrest, pictureBytes_cons]
    simp only [List.length_append]
    omega

/-- The condition after a call that has returned `done`. -/
theorem noSplitStart_cons {done rest : List JpegPicture} {left chunk : List UInt8} {held : ℕ}
    {chunks : List (List UInt8)} (hbytes : held + chunk.length = (pictureBytes done ++ left).length)
    (hheld : held ≠ 1) (hshort : ∀ picture pictures, done ++ rest = picture :: pictures →
      held < picture.bytes.length) :
    NoSplitStart held (done ++ rest) (chunk :: chunks) ↔ NoSplitStart left.length rest chunks := by
  rw [List.length_append] at hbytes
  constructor
  · intro h calls before
    have hhere := h (calls + 1) (done.length + before)
    rw [List.take_succ_cons, List.flatten_cons, List.length_append, List.take_length_add_append,
      pictureBytes_append, List.length_append] at hhere
    omega
  · intro h calls before
    cases calls with
    | zero =>
      rw [List.take_zero, List.flatten_nil, List.length_nil, Nat.add_zero]
      cases before with
      | zero => simpa using hheld
      | succ before =>
        cases hall : done ++ rest with
        | nil => simpa using hheld
        | cons picture pictures =>
          have := hshort picture pictures hall
          rw [List.take_succ_cons, pictureBytes_cons, List.length_append]
          omega
    | succ calls =>
      rw [List.take_succ_cons, List.flatten_cons, List.length_append]
      -- a picture that is out is not split by a later chunk
      by_cases hbefore : before < done.length
      · have hless := take_shorter hbefore
        rw [List.take_append_of_le_length (by omega)]
        omega
      · have hhere := h calls (before - done.length)
        have hsum : before = done.length + (before - done.length) := by omega
        rw [hsum, List.take_length_add_append, pictureBytes_append, List.length_append]
        omega

/-- A reader that holds a part of the first picture. -/
theorem pushes_iff (chunks : List (List UInt8)) (pictures : List JpegPicture) (held : List UInt8)
    (hbytes : held ++ chunks.flatten = pictureBytes pictures) (hheld : held.length ≠ 1)
    (hshort : ∀ picture rest, pictures = picture :: rest → held.length < picture.bytes.length) :
    pushes ⟨held⟩ chunks = pictures.map JpegPicture.bytes ↔
      NoSplitStart held.length pictures chunks := by
  induction chunks generalizing pictures held with
  | nil =>
    rw [List.flatten_nil, List.append_nil] at hbytes
    cases pictures with
    | nil =>
      refine ⟨fun _ calls before => ?_, fun _ => rfl⟩
      simpa using hheld
    | cons picture rest =>
      have hlt := hshort picture rest rfl
      rw [hbytes, pictureBytes_cons, List.length_append] at hlt
      omega
  | cons chunk chunks ih =>
    rw [List.flatten_cons, ← List.append_assoc] at hbytes
    have hpart : held ++ chunk <+: pictureBytes pictures := ⟨_, hbytes⟩
    obtain ⟨done, rest, left, rfl, hleft, hnext, hloop⟩ :=
      framesLoop_stream pictures ((held ++ chunk).length + 1) hpart (Nat.lt_succ_self _)
    have hcount : held.length + chunk.length = (pictureBytes done ++ left).length := by
      rw [← hleft, List.length_append]
    have hrest : left ++ chunks.flatten = pictureBytes rest := by
      rw [hleft, pictureBytes_append, List.append_assoc] at hbytes
      exact List.append_cancel_left hbytes
    have hpush : pushes ⟨held⟩ (chunk :: chunks) =
        done.map JpegPicture.bytes ++ pushes ⟨if left.length = 1 then [] else left⟩ chunks := by
      simp only [pushes, push, hloop]
    rw [noSplitStart_cons hcount hheld hshort, hpush, List.map_append, List.append_right_inj]
    by_cases hone : left.length = 1
    · -- the byte is thrown away, so the rest of the bytes cannot hold the rest of the pictures
      rw [if_pos hone]
      constructor
      · intro hsame
        have hless := pushes_bytes chunks ⟨[]⟩
        have hlen := congrArg List.length hrest
        rw [hsame, flatten_pictures, ← hlen, List.length_append, List.length_nil] at hless
        omega
      · intro hno
        have hzero := hno 0 0
        simp [hone] at hzero
    · rw [if_neg hone]
      exact ih rest left hrest hone hnext

/-- **The reader returns the pictures**, in order and byte for byte, if and only if no read ends right
after the first byte of one. -/
theorem pictures_iff (pictures : List JpegPicture) (chunks : List (List UInt8))
    (hbytes : chunks.flatten = pictureBytes pictures) :
    new.pushes chunks = pictures.map JpegPicture.bytes ↔
      ∀ calls before, (chunks.take calls).flatten.length ≠
        (pictureBytes (pictures.take before)).length + 1 := by
  have hmain := pushes_iff chunks pictures [] hbytes (by simp) (by
    intro picture rest _
    have := picture.four
    rw [List.length_nil]
    omega)
  simp only [NoSplitStart, List.length_nil, Nat.zero_add] at hmain
  exact hmain

/-- The picture of the test of the source. -/
def demoPicture : JpegPicture where
  bytes := [0xff, 0xd8, 1, 2, 0xff, 0xd9]
  starts := by decide
  ends := by decide
  only := by
    intro index hindex hat
    have hlt := hat.lt
    match index, hindex, hlt with
    | 2, _, _ => simp [MarkerAt] at hat
    | 3, _, _ => simp [MarkerAt] at hat
    | 4, _, _ => rfl
    | index + 5, _, hlt =>
      simp only [List.length_cons, List.length_nil] at hlt
      omega

/-- A read that ends inside an end marker. -/
theorem pictures_demo :
    new.pushes [[0xff, 0xd8, 1, 2, 0xff], [0xd9]] = [[0xff, 0xd8, 1, 2, 0xff, 0xd9]] := by
  refine (pictures_iff [demoPicture] [[0xff, 0xd8, 1, 2, 0xff], [0xd9]] rfl).mpr ?_
  intro calls before
  match calls, before with
  | 0, 0 | 0, before + 1 => simp [demoPicture]
  | 1, 0 | 1, before + 1 => simp [demoPicture]
  | calls + 2, 0 | calls + 2, before + 1 => simp [demoPicture]

/-- **A picture is lost** when a read ends after its first byte. -/
theorem picture_lost : ¬ ∀ (pictures : List JpegPicture) (chunks : List (List UInt8)),
    chunks.flatten = pictureBytes pictures → new.pushes chunks = pictures.map JpegPicture.bytes := by
  intro h
  have hlost := h [demoPicture] [[0xff], [0xd8, 1, 2, 0xff, 0xd9]] rfl
  have hnone : new.pushes [[0xff], [0xd8, 1, 2, 0xff, 0xd9]] = [] := by decide
  rw [hnone] at hlost
  cases hlost

end JpegStreamReader

end Waypad
