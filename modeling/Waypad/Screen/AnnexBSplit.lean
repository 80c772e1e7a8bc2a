import Waypad.Screen.AnnexBStream

/-!
# Waypad.Screen.AnnexBSplit — the reader emits exactly the access units of the stream

* `Picture`: the NAL units of one access unit, in the order the standard gives them.
* `pending pics n`: the reader after the first `n` bytes of the units not yet emitted.
* `boundary_pending`, `take_pending`: where it cuts, and what it cuts off.
* `splits_access_units`: over every schedule of pushes and flushes.
-/

namespace Waypad

/-- One access unit. -/
structure Picture where
  delimiter : Option NalUnit
  sets : List NalUnit
  slice : NalUnit
  slices : List NalUnit
  delimiter_kind : ∀ u ∈ delimiter, u.kind = 9
  /-- SEI, SPS and PPS -/
  sets_kind : ∀ u ∈ sets, u.kind = 6 ∨ u.kind = 7 ∨ u.kind = 8
  slice_kind : slice.kind = 1 ∨ slice.kind = 5
  slice_first : slice.firstSlice = true
  slices_kind : ∀ u ∈ slices, u.kind = 1 ∨ u.kind = 5
  slices_rest : ∀ u ∈ slices, u.firstSlice = false

namespace Picture

def units (p : Picture) : List NalUnit := p.delimiter.toList ++ p.sets ++ p.slice :: p.slices

def bytes (p : Picture) : List UInt8 := unitBytes p.units

def size (p : Picture) : ℕ := p.bytes.length

/-- The SPS and PPS of the picture, with their start codes. -/
def setBytes (p : Picture) : List UInt8 :=
  unitBytes (p.units.filter (fun u => u.kind == 7 || u.kind == 8))

/-- The access unit the reader should emit. -/
def unit (p : Picture) : AccessUnit :=
  { data := p.bytes
    keyFrame := p.units.any (fun u => u.kind == 5)
    parameterSets := if p.setBytes.isEmpty then none else some p.setBytes }

end Picture

/-- The bytes of some pictures. -/
def stream (pics : List Picture) : List UInt8 := unitBytes (pics.flatMap Picture.units)

@[simp] theorem stream_nil : stream [] = [] := rfl

@[simp] theorem stream_cons (p : Picture) (pics : List Picture) :
    stream (p :: pics) = p.bytes ++ stream pics := by
  simp [stream, Picture.bytes]

@[simp] theorem stream_append (ps qs : List Picture) : stream (ps ++ qs) = stream ps ++ stream qs := by
  simp [stream]

/-! ## References of whole units -/

section Refs

variable {off n : ℕ}

@[simp] theorem allRefs_length (off : ℕ) (us : List NalUnit) : (allRefs off us).length = us.length := by
  induction us generalizing off with
  | nil => rfl
  | cons u us ih => simp [allRefs, ih]

/-- Whole units are all visible, and what follows them is visible after them. -/
theorem visible_append (us vs : List NalUnit) (hn : (unitBytes us).length ≤ n) :
    visible off n (us ++ vs) = allRefs off us ++
      visible (off + (unitBytes us).length) (n - (unitBytes us).length) vs := by
  induction us generalizing off n with
  | nil => simp [allRefs]
  | cons u us ih =>
    have hlen : (unitBytes (u :: us)).length = u.size + (unitBytes us).length := by
      simp [NalUnit.size]
    have hle := u.head_le_size
    rw [hlen] at hn ⊢
    rw [List.cons_append, visible, if_pos (by omega), ih (by omega), allRefs, List.cons_append,
      Nat.add_assoc, Nat.sub_sub]

/-- What follows units that are not complete is not visible. -/
theorem visible_incomplete (us vs : List NalUnit) (hn : n ≤ (unitBytes us).length) :
    visible off n (us ++ vs) = visible off n us := by
  induction us generalizing off n with
  | nil =>
    obtain rfl : n = 0 := by simpa using hn
    rw [visible_zero, visible_zero]
  | cons u us ih =>
    have hlen : (unitBytes (u :: us)).length = u.size + (unitBytes us).length := by
      simp [NalUnit.size]
    rw [List.cons_append, visible, visible, ih (by omega)]

/-- What is visible of units is the beginning of their references. -/
theorem visible_le (us : List NalUnit) (off n : ℕ) : visible off n us <+: allRefs off us := by
  induction us generalizing off n with
  | nil => exact List.nil_prefix
  | cons u us ih =>
    rw [visible, allRefs]
    split
    · exact (List.cons_prefix_cons).mpr ⟨rfl, ih _ _⟩
    · exact List.nil_prefix

/-- The bytes before a stream only shift what is visible of it. -/
theorem visible_shift (us : List NalUnit) (off n e : ℕ) (he : e ≤ off) :
    (visible off n us).map (fun nal => { nal with start := nal.start - e }) =
      visible (off - e) n us := by
  induction us generalizing off n with
  | nil => rfl
  | cons u us ih =>
    rw [visible, visible]
    split
    · rw [List.map_cons, ih _ _ (by omega), Nat.sub_add_comm he]
      rfl
    · rfl

theorem visible_start (us : List NalUnit) (off n : ℕ) : ∀ nal ∈ visible off n us, off ≤ nal.start := by
  induction us generalizing off n with
  | nil => simp [visible]
  | cons u us ih =>
    rw [visible]
    split
    · intro nal hnal
      rcases List.mem_cons.mp hnal with rfl | hnal
      · exact Nat.le_refl off
      · have := ih _ _ nal hnal
        omega
    · simp

/-- Tests that do not look at the offset. -/
theorem any_allRefs {p : NalRef → Bool} {q : NalUnit → Bool} (hpq : ∀ off u, p (u.ref off) = q u)
    (us : List NalUnit) (off : ℕ) : (allRefs off us).any p = us.any q := by
  induction us generalizing off with
  | nil => rfl
  | cons u us ih => simp [allRefs, hpq, ih]

theorem forall_allRefs {p : NalRef → Prop} {us : List NalUnit} (h : ∀ u ∈ us, ∀ off, p (u.ref off))
    (off : ℕ) : ∀ nal ∈ allRefs off us, p nal := by
  induction us generalizing off with
  | nil => simp [allRefs]
  | cons u us ih =>
    intro nal hnal
    rcases List.mem_cons.mp hnal with rfl | hnal
    · exact h u List.mem_cons_self off
    · exact ih (fun v hv => h v (List.mem_cons_of_mem u hv)) _ nal hnal

theorem allRefs_append (us vs : List NalUnit) (off : ℕ) :
    allRefs off (us ++ vs) = allRefs off us ++ allRefs (off + (unitBytes us).length) vs := by
  induction us generalizing off with
  | nil => simp [allRefs]
  | cons u us ih =>
    have hlen : off + u.size + (unitBytes us).length = off + (unitBytes (u :: us)).length := by
      simp [NalUnit.size, Nat.add_assoc]
    rw [List.cons_append, allRefs, ih, allRefs, List.cons_append, hlen]

end Refs

namespace AnnexBStreamReader

/-! ## Boundaries -/

section Boundary

variable {index : ℕ} {hasSlice : Bool} {l r : List NalRef}

/-- Past units that open no picture. -/
theorem boundaryLoop_append (h : boundaryLoop index hasSlice l = none) :
    boundaryLoop index hasSlice (l ++ r) =
      boundaryLoop (index + l.length) (hasSlice || l.any NalRef.isSlice) r := by
  induction l generalizing index hasSlice with
  | nil => simp
  | cons nal l ih =>
    rw [boundaryLoop] at h
    split at h
    · cases h
    · next hnot =>
      rw [List.cons_append, boundaryLoop, if_neg hnot, ih h]
      simp [Nat.add_assoc, Nat.add_comm 1, Bool.or_assoc]

theorem boundaryLoop_prefix (hp : l <+: r) (h : boundaryLoop index hasSlice r = none) :
    boundaryLoop index hasSlice l = none := by
  obtain ⟨t, rfl⟩ := hp
  induction l generalizing index hasSlice with
  | nil => rfl
  | cons nal l ih =>
    rw [List.cons_append, boundaryLoop] at h
    rw [boundaryLoop]
    split at h
    · cases h
    · next hnot =>
      rw [if_neg hnot]
      exact ih h

/-- Units that open nothing, whether or not there was a slice. -/
theorem boundaryLoop_quiet (h : ∀ nal ∈ l, nal.startsAccessUnit hasSlice = false)
    (hs : hasSlice = true ∨ ∀ nal ∈ l, nal.isSlice = false) : boundaryLoop index hasSlice l = none := by
  induction l generalizing index with
  | nil => rfl
  | cons nal l ih =>
    have hnot : ¬ (0 < index ∧ nal.startsAccessUnit hasSlice = true) := by
      rw [h nal List.mem_cons_self]
      simp
    have hsame : (hasSlice || nal.isSlice) = hasSlice := by
      rcases hs with hs | hs
      · simp [hs]
      · simp [hs nal List.mem_cons_self]
    rw [boundaryLoop, if_neg hnot, hsame]
    exact ih (fun m hm => h m (List.mem_cons_of_mem nal hm))
      (hs.imp_right (fun hs m hm => hs m (List.mem_cons_of_mem nal hm)))

end Boundary

section Picture

variable {off : ℕ} {u : NalUnit}

/-- A parameter set or SEI opens a picture only after a slice, and is no slice. -/
theorem ref_set (h : u.kind = 6 ∨ u.kind = 7 ∨ u.kind = 8) (hasSlice : Bool) :
    (u.ref off).startsAccessUnit hasSlice = hasSlice ∧ (u.ref off).isSlice = false := by
  rcases h with h | h | h <;> simp [NalRef.startsAccessUnit, NalRef.isSlice, NalUnit.ref, h]

/-- A slice opens a picture when it restarts the scan after another slice. -/
theorem ref_slice (h : u.kind = 1 ∨ u.kind = 5) (hasSlice : Bool) :
    (u.ref off).startsAccessUnit hasSlice = (hasSlice && u.firstSlice) ∧
      (u.ref off).isSlice = true := by
  rcases h with h | h <;> simp [NalRef.startsAccessUnit, NalRef.isSlice, NalUnit.ref, h]

theorem ref_delimiter (h : u.kind = 9) (hasSlice : Bool) :
    (u.ref off).startsAccessUnit hasSlice = true ∧ (u.ref off).isSlice = false := by
  simp [NalRef.startsAccessUnit, NalRef.isSlice, NalUnit.ref, h]

variable (p : Picture)

/-- **No boundary lies inside a picture.** -/
theorem boundaryLoop_picture : boundaryLoop 0 false (allRefs off p.units) = none := by
  have hsets : ∀ off, ∀ nal ∈ allRefs off p.sets,
      nal.startsAccessUnit false = false ∧ nal.isSlice = false := fun off =>
    forall_allRefs (fun u hu off => ref_set (p.sets_kind u hu) false) off
  have hslices : ∀ off, ∀ nal ∈ allRefs off p.slices, nal.startsAccessUnit true = false := fun off =>
    forall_allRefs (fun u hu off => by
      rw [(ref_slice (p.slices_kind u hu) true).1, p.slices_rest u hu]
      rfl) off
  -- the delimiter stands first, so it is not asked
  have hdelim : ∀ off, boundaryLoop 0 false (allRefs off p.delimiter.toList) = none ∧
      (allRefs off p.delimiter.toList).any NalRef.isSlice = false := by
    intro off
    cases hd : p.delimiter with
    | none => exact ⟨rfl, rfl⟩
    | some u =>
      have hkind : (u.ref off).isSlice = false := (ref_delimiter (p.delimiter_kind u hd) false).2
      exact ⟨by simp [allRefs, boundaryLoop], by simp [allRefs, hkind]⟩
  rw [Picture.units, allRefs_append, allRefs_append, List.append_assoc,
    boundaryLoop_append (hdelim off).1, (hdelim off).2, Bool.false_or,
    boundaryLoop_append (boundaryLoop_quiet (fun nal hn => (hsets _ nal hn).1)
      (Or.inr (fun nal hn => (hsets _ nal hn).2)))]
  have hany : ∀ off, (allRefs off p.sets).any NalRef.isSlice = false := fun off => by
    rw [List.any_eq_false]
    intro nal hn
    simp [(hsets off nal hn).2]
  -- the first slice is the one that may start a picture, and nothing after it does
  have hslice : ∀ off, (p.slice.ref off).startsAccessUnit false = (false && p.slice.firstSlice) ∧
      (p.slice.ref off).isSlice = true := fun _ => ref_slice p.slice_kind false
  rw [hany, Bool.or_false, allRefs, boundaryLoop, (hslice _).1, (hslice _).2, if_neg (by simp)]
  exact boundaryLoop_quiet (hslices _) (Or.inl rfl)

theorem any_isSlice_picture : (allRefs off p.units).any NalRef.isSlice = true := by
  rw [Picture.units, allRefs_append, List.any_append, allRefs, List.any_cons,
    (ref_slice p.slice_kind false).2]
  simp

/-- The first unit of a picture opens it after a slice. -/
theorem first_unit : ∃ u us, p.units = u :: us ∧ ∀ off, (u.ref off).startsAccessUnit true = true := by
  unfold Picture.units
  cases hd : p.delimiter with
  | some u => exact ⟨u, _, rfl, fun off => (ref_delimiter (p.delimiter_kind u hd) true).1⟩
  | none =>
    cases hs : p.sets with
    | cons u us =>
      exact ⟨u, _, rfl, fun off => (ref_set (p.sets_kind u (by simp [hs])) true).1⟩
    | nil =>
      refine ⟨p.slice, p.slices, rfl, ?_⟩
      intro off
      rw [(ref_slice p.slice_kind true).1, p.slice_first]
      rfl

end Picture

/-! ## The pending bytes -/

/-- The reader after the first `n` bytes of the pictures not yet emitted. -/
def pending (pics : List Picture) (n : ℕ) : AnnexBStreamReader :=
  { buffer := (stream pics).take n
    nals := visible 0 n (pics.flatMap Picture.units)
    scanFrom := n - 4 }

/-- The second picture's first unit is visible, so the first picture can be cut off. -/
def Cuttable : List Picture → ℕ → Prop
  | p :: q :: _, n => ∃ u us, q.units = u :: us ∧ p.size + u.head ≤ n
  | _, _ => False

section Pending

variable {p q : Picture} {pics : List Picture} {n : ℕ}

/-- Once the first picture is complete, its references come first. -/
theorem visible_picture (hn : p.size ≤ n) : visible 0 n ((p :: pics).flatMap Picture.units) =
    allRefs 0 p.units ++ visible p.size (n - p.size) (pics.flatMap Picture.units) := by
  rw [List.flatMap_cons, visible_append p.units _ hn, Nat.zero_add]
  rfl

theorem cuttable_le (h : Cuttable (p :: q :: pics) n) : p.size ≤ n := by
  obtain ⟨u, us, -, hle⟩ := h
  omega

/-- **Where the reader cuts**: after the first picture, once the second one shows. -/
theorem boundary_pending (h : Cuttable (p :: q :: pics) n) :
    (pending (p :: q :: pics) n).nextBoundary = some p.units.length := by
  obtain ⟨u, us, hq, hle⟩ := h
  obtain ⟨u', us', hq', hopen⟩ := first_unit q
  obtain ⟨rfl, rfl⟩ : u = u' ∧ us = us' := by simpa using hq.symm.trans hq'
  have hpos : 0 < p.units.length := by
    rw [Picture.units, List.length_append, List.length_cons]
    omega
  have hvis : visible p.size (n - p.size) ((q :: pics).flatMap Picture.units) =
      u.ref p.size :: visible (p.size + u.size) (n - p.size - u.size)
        (us ++ pics.flatMap Picture.units) := by
    rw [List.flatMap_cons, hq, List.cons_append, visible, if_pos (by omega)]
  unfold nextBoundary pending
  dsimp only
  rw [visible_picture (by omega), boundaryLoop_append (boundaryLoop_picture p), hvis,
    any_isSlice_picture, allRefs_length, Nat.zero_add, boundaryLoop, if_pos ⟨hpos, hopen _⟩]

/-- Otherwise there is no boundary. -/
theorem boundary_none (h : ¬ Cuttable pics n) : (pending pics n).nextBoundary = none := by
  unfold nextBoundary pending
  dsimp only
  cases pics with
  | nil => rfl
  | cons p pics =>
    by_cases hn : n ≤ p.size
    · rw [List.flatMap_cons, visible_incomplete p.units _ hn]
      exact boundaryLoop_prefix (visible_le _ _ _) (boundaryLoop_picture p)
    · have hnone : visible p.size (n - p.size) (pics.flatMap Picture.units) = [] := by
        cases pics with
        | nil => rfl
        | cons q pics =>
          obtain ⟨u, us, hq, -⟩ := first_unit q
          rw [List.flatMap_cons, hq, List.cons_append, visible, if_neg]
          intro hle
          exact h ⟨u, us, hq, by omega⟩
      rw [visible_picture (by omega), hnone, List.append_nil]
      exact boundaryLoop_picture p

theorem slice_mid (x m y : List UInt8) :
    slice (x ++ m ++ y) x.length (x.length + m.length) = some m := by
  have hlen : x.length + m.length ≤ (x ++ m ++ y).length := by
    simp only [List.length_append]
    omega
  rw [slice, if_pos ⟨by omega, hlen⟩, ← List.length_append, List.take_left, List.drop_left]

/-- The SPS and PPS of complete units. -/
theorem parameterSets_units (x y : List UInt8) (us : List NalUnit) {stop : ℕ} {r : List NalRef}
    (hstop : stop = x.length + (unitBytes us).length)
    (hr : (r.head?.map NalRef.start).getD stop = stop) :
    parameterSets (x ++ unitBytes us ++ y) stop us.length (allRefs x.length us ++ r) =
      some (unitBytes (us.filter (fun u => u.kind == 7 || u.kind == 8))) := by
  induction us generalizing x with
  | nil => rfl
  | cons u us ih =>
    have hlen : (x ++ u.bytes).length = x.length + u.size := by
      rw [List.length_append]
      rfl
    have hbuf : x ++ unitBytes (u :: us) ++ y = x ++ u.bytes ++ unitBytes us ++ y := by simp
    -- the unit ends where the next one starts, and the last one at the stop
    have hnext : (((allRefs (x.length + u.size) us ++ r).head?).map NalRef.start).getD stop =
        x.length + u.size := by
      cases us with
      | nil =>
        rw [allRefs, List.nil_append, hr, hstop]
        simp [NalUnit.size]
      | cons v us => rfl
    have hrest := ih (x ++ u.bytes) (by
      rw [hstop, hlen, unitBytes_cons, List.length_append, Nat.add_assoc]
      rfl)
    rw [hlen] at hrest
    have hslice := slice_mid x u.bytes (unitBytes us ++ y)
    rw [← List.append_assoc] at hslice
    rw [hbuf, List.length_cons, allRefs, List.cons_append, parameterSets, hnext, hrest]
    by_cases hk : u.kind = 7 ∨ u.kind = 8
    · have hfilter : (u.kind == 7 || u.kind == 8) = true := by simpa using hk
      rw [if_pos (by exact hk), List.filter_cons, if_pos hfilter, unitBytes_cons]
      simp only [NalUnit.ref, Option.bind_eq_bind]
      rw [show x.length + u.size = x.length + u.bytes.length from rfl, hslice]
      rfl
    · have hfilter : ¬ (u.kind == 7 || u.kind == 8) = true := by simpa using hk
      rw [if_neg (by exact hk), List.filter_cons, if_neg hfilter]
      rfl

/-- **What the reader cuts off**: the first picture, and the rest is pending. -/
theorem take_pending (hn : p.size ≤ n) :
    (pending (p :: pics) n).takeAccessUnitBefore p.units.length p.size =
      some (p.unit, pending pics (n - p.size)) := by
  obtain ⟨u, us, hunits, -⟩ := first_unit p
  have hbytes : p.bytes.length = p.size := rfl
  have hbuf : (pending (p :: pics) n).buffer = p.bytes ++ (stream pics).take (n - p.size) := by
    rw [pending, stream_cons, List.take_append, List.take_of_length_le hn, hbytes]
  have hnals : (pending (p :: pics) n).nals =
      allRefs 0 p.units ++ visible p.size (n - p.size) (pics.flatMap Picture.units) :=
    visible_picture hn
  have htake : (pending (p :: pics) n).nals.take p.units.length = allRefs 0 p.units := by
    rw [hnals, List.take_left' (allRefs_length 0 p.units)]
  have hdrop : (pending (p :: pics) n).nals.drop p.units.length =
      visible p.size (n - p.size) (pics.flatMap Picture.units) := by
    rw [hnals, List.drop_left' (allRefs_length 0 p.units)]
  have hfirst : (pending (p :: pics) n).nals.head? = some (u.ref 0) := by
    rw [hnals, hunits]
    rfl
  have hkey : (allRefs 0 p.units).any (fun nal => nal.kind == 5) =
      p.units.any (fun u => u.kind == 5) := any_allRefs (fun _ _ => rfl) _ _
  -- the next start code, if there is one, is where this picture ends
  have hnext : ((visible p.size (n - p.size) (pics.flatMap Picture.units)).head?.map
      NalRef.start).getD p.size = p.size := by
    cases pics.flatMap Picture.units with
    | nil => rfl
    | cons v vs =>
      rw [visible]
      split <;> rfl
  have hsets : parameterSets (pending (p :: pics) n).buffer p.size p.units.length
      (pending (p :: pics) n).nals = some p.setBytes := by
    rw [hbuf, hnals]
    exact parameterSets_units [] _ p.units (by rw [List.length_nil, Nat.zero_add]; rfl) hnext
  have hdata : slice (pending (p :: pics) n).buffer (u.ref 0).start p.size = some p.bytes := by
    have h := slice_mid [] p.bytes ((stream pics).take (n - p.size))
    rw [List.nil_append, List.length_nil, Nat.zero_add] at h
    rw [hbuf]
    exact h
  -- the units that stay belong to later pictures
  have hlater : (visible p.size (n - p.size) (pics.flatMap Picture.units)).any
      (fun nal => decide (nal.start < p.size)) = false := by
    rw [List.any_eq_false]
    intro nal hnal
    have := visible_start _ _ _ nal hnal
    simpa using this
  have hrest : (pending (p :: pics) n).buffer.drop p.size = (stream pics).take (n - p.size) := by
    rw [hbuf, List.drop_left' hbytes]
  unfold takeAccessUnitBefore
  simp only [hfirst, htake, hkey, hsets, hdata, hdrop, hlater, hrest,
    visible_shift _ _ _ _ (Nat.le_refl p.size), Option.bind_eq_bind, Option.bind_some,
    Bool.false_eq_true, ↓reduceIte, Nat.sub_self]
  have hscan : (pending (p :: pics) n).scanFrom - p.size = n - p.size - 4 := Nat.sub_right_comm n 4 p.size
  rw [hscan]
  rfl

theorem take_boundary (h : Cuttable (p :: q :: pics) n) :
    (pending (p :: q :: pics) n).takeAccessUnit p.units.length =
      some (p.unit, pending (q :: pics) (n - p.size)) := by
  have hn := cuttable_le h
  obtain ⟨u, us, hq, hle⟩ := h
  have hget : (pending (p :: q :: pics) n).nals[p.units.length]? = some (u.ref p.size) := by
    have hnals : (pending (p :: q :: pics) n).nals =
        allRefs 0 p.units ++ visible p.size (n - p.size) ((q :: pics).flatMap Picture.units) :=
      visible_picture hn
    rw [hnals, List.getElem?_append_right (Nat.le_of_eq (allRefs_length _ _)), allRefs_length, Nat.sub_self,
      List.flatMap_cons, hq, List.cons_append, visible, if_pos (by omega)]
    rfl
  unfold takeAccessUnit
  rw [hget]
  exact take_pending hn

/-- The pictures cut off one after the other, and what is left. -/
theorem takeLoop_pending (fuel : ℕ) (pics : List Picture) (n : ℕ)
    (hfuel : (pending pics n).nals.length ≤ fuel) :
    ∃ done rest m, pics = done ++ rest ∧ n = (stream done).length + m ∧ ¬ Cuttable rest m ∧
      takeLoop fuel (pending pics n) = some (done.map Picture.unit, pending rest m) := by
  induction fuel generalizing pics n with
  | zero =>
    have hnil : (pending pics n).nals = [] := List.length_eq_zero_iff.mp (by omega)
    refine ⟨[], pics, n, rfl, (Nat.zero_add n).symm, fun hcut => ?_, rfl⟩
    match pics, hcut with
    | p :: q :: pics, hcut =>
      have h := boundary_pending hcut
      rw [nextBoundary, hnil] at h
      cases h
  | succ fuel ih =>
    by_cases hcut : Cuttable pics n
    · match pics, hcut with
      | p :: q :: pics, hcut =>
        have hn := cuttable_le hcut
        have hnals : (pending (p :: q :: pics) n).nals =
            allRefs 0 p.units ++ visible p.size (n - p.size) ((q :: pics).flatMap Picture.units) :=
          visible_picture hn
        have hshift : (pending (q :: pics) (n - p.size)).nals.length =
            (visible p.size (n - p.size) ((q :: pics).flatMap Picture.units)).length := by
          have h := visible_shift ((q :: pics).flatMap Picture.units) p.size (n - p.size) p.size
            (Nat.le_refl _)
          rw [Nat.sub_self] at h
          rw [pending, ← h, List.length_map]
        have hpos : 0 < p.units.length := by
          rw [Picture.units, List.length_append, List.length_cons]
          omega
        have hless : (pending (q :: pics) (n - p.size)).nals.length ≤ fuel := by
          rw [hnals, List.length_append, allRefs_length] at hfuel
          omega
        obtain ⟨done, rest, m, hsplit, hm, hno, hloop⟩ := ih (q :: pics) (n - p.size) hless
        refine ⟨p :: done, rest, m, by rw [hsplit]; rfl, ?_, hno, ?_⟩
        · rw [stream_cons, List.length_append]
          have hbytes : p.bytes.length = p.size := rfl
          omega
        · rw [takeLoop, boundary_pending hcut]
          simp only [take_boundary hcut, hloop, Option.bind_eq_bind, Option.bind_some,
            List.map_cons]
    · -- no picture is complete
      refine ⟨[], pics, n, rfl, (Nat.zero_add n).symm, hcut, ?_⟩
      rw [takeLoop, boundary_none hcut]
      rfl

end Pending

/-! ## Whole schedules -/

/-- The bytes a schedule pushes. -/
def pushed : List ReaderOp → List UInt8
  | [] => []
  | .push chunk :: rest => chunk ++ pushed rest
  | .flush :: rest => pushed rest

/-- The buffer stays within `MAX_ANNEX_B_BUFFER`. -/
def Within : AnnexBStreamReader → List ReaderOp → Prop
  | _, [] => True
  | self, .push chunk :: rest => ∀ units next, self.pushUnits chunk = some (units, next) →
      next.buffer.length ≤ maxAnnexBBuffer ∧ Within next rest
  | self, .flush :: rest => ∀ unit next, self.flushPending = some (unit, next) → Within next rest

section Schedule

variable {p : Picture} {pics done rest : List Picture} {n m : ℕ} {chunk : List UInt8}

theorem picture_size_pos (p : Picture) : 0 < p.size := by
  obtain ⟨u, us, hu, -⟩ := first_unit p
  have hle := u.head_le_size
  rw [Picture.size, Picture.bytes, hu, unitBytes_cons, List.length_append]
  simp only [NalUnit.head, NalUnit.size] at hle
  omega

theorem not_cuttable_zero (pics : List Picture) : ¬ Cuttable pics 0 := fun hcut => by
  match pics, hcut with
  | p :: _ :: _, hcut =>
    have hpos := picture_size_pos p
    have hle := cuttable_le hcut
    omega

theorem stream_cons_length (p : Picture) (pics : List Picture) :
    (stream (p :: pics)).length = p.size + (stream pics).length := by
  rw [stream_cons, List.length_append]
  rfl

/-- A push cuts off pictures and leaves the rest pending. -/
theorem pushUnits_pending (hn : n ≤ (stream pics).length)
    (hchunk : (stream pics).take n ++ chunk = (stream pics).take (n + chunk.length)) :
    ∃ done rest m, pics = done ++ rest ∧ n + chunk.length = (stream done).length + m ∧
      ¬ Cuttable rest m ∧
      (pending pics n).pushUnits chunk = some (done.map Picture.unit, pending rest m) := by
  have hscan : { pending pics n with buffer := (pending pics n).buffer ++ chunk }.scan =
      pending pics (n + chunk.length) := by
    have hbuf : (pending pics n).buffer.length = n := by
      rw [pending, List.length_take, Nat.min_eq_left hn]
    rw [scan_spec chunk (refs_take _ 0 n).symm (by rw [hbuf]; rfl), List.length_append, hbuf]
    have hbuf' : (pending pics n).buffer ++ chunk = (stream pics).take (n + chunk.length) := hchunk
    rw [hbuf', stream, refs_take]
    rfl
  obtain ⟨done, rest, m, h1, h2, h3, h4⟩ :=
    takeLoop_pending (pending pics (n + chunk.length)).nals.length pics (n + chunk.length) (Nat.le_refl _)
  refine ⟨done, rest, m, h1, h2, h3, ?_⟩
  rw [pushUnits, hscan]
  exact h4

theorem flushPending_none (pics : List Picture) :
    (pending pics 0).flushPending = some (none, pending pics 0) := by
  have hnals : (pending pics 0).nals = [] := visible_zero 0 _
  rw [flushPending, hasPendingPicture, hnals]
  rfl

/-- A flush at the end of a picture that is not emitted yet emits it. -/
theorem flushPending_some (p : Picture) (pics : List Picture) :
    (pending (p :: pics) p.size).flushPending = some (some p.unit, pending pics 0) := by
  have hnals : (pending (p :: pics) p.size).nals = allRefs 0 p.units := by
    show visible 0 p.size ((p :: pics).flatMap Picture.units) = allRefs 0 p.units
    rw [visible_picture (Nat.le_refl p.size), Nat.sub_self, visible_zero, List.append_nil]
  have hbuf : (pending (p :: pics) p.size).buffer.length = p.size := by
    rw [pending, List.length_take, stream_cons_length]
    omega
  have htake : (pending (p :: pics) p.size).takeAccessUnitBefore p.units.length p.size =
      some (p.unit, pending pics 0) := by
    rw [take_pending (Nat.le_refl p.size), Nat.sub_self]
  rw [flushPending, hasPendingPicture, hnals, any_isSlice_picture, allRefs_length, hbuf, htake]
  rfl

/-- Boundaries of the pictures, seen from those left. -/
theorem boundary_rest (done : List Picture) {x j : ℕ}
    (h : (stream done).length + x = (stream ((done ++ rest).take j)).length) :
    ∃ j', x = (stream (rest.take j')).length := by
  rw [List.take_append, stream_append, List.length_append] at h
  by_cases hj : done.length ≤ j
  · rw [List.take_of_length_le hj] at h
    exact ⟨j - done.length, by omega⟩
  · have hsplit := congrArg List.length (stream_append (done.take j) (done.drop j))
    rw [List.take_append_drop, List.length_append] at hsplit
    rw [Nat.sub_eq_zero_of_le (by omega), List.take_zero, stream_nil, List.length_nil] at h
    exact ⟨0, by simp only [List.take_zero, stream_nil, List.length_nil]; omega⟩

/-- A boundary that is not cuttable is the start or the end of the first picture. -/
theorem boundary_head {j : ℕ} (hno : ¬ Cuttable pics n) (h : n = (stream (pics.take j)).length) :
    n = 0 ∨ ∃ p rest, pics = p :: rest ∧ n = p.size := by
  match pics, j with
  | [], _ => exact Or.inl (by simpa using h)
  | _ :: _, 0 => exact Or.inl (by simpa using h)
  | [p], j + 1 =>
    rw [List.take_succ_cons, stream_cons_length] at h
    exact Or.inr ⟨p, [], rfl, by simpa using h⟩
  | p :: q :: rest, 1 =>
    rw [List.take_succ_cons, stream_cons_length] at h
    exact Or.inr ⟨p, _, rfl, by simpa using h⟩
  | p :: q :: rest, j + 2 =>
    obtain ⟨u, us, hq, -⟩ := first_unit q
    have hhead : u.head ≤ q.size := by
      have hle := u.head_le_size
      rw [Picture.size, Picture.bytes, hq, unitBytes_cons, List.length_append]
      simp only [NalUnit.size] at hle
      omega
    rw [List.take_succ_cons, List.take_succ_cons, stream_cons_length, stream_cons_length] at h
    exact absurd ⟨u, us, hq, by omega⟩ hno

theorem nothing_left (h : (stream (done ++ rest)).take 0 ++ pushed [] = stream (done ++ rest))
    (hm : m = (stream rest).length) : m = 0 := by
  have hempty := congrArg List.length h
  rw [List.take_zero, pushed, List.append_nil, stream_append, List.length_append] at hempty
  simp only [List.length_nil] at hempty
  omega

/-- With `n` bytes of the stream pushed, the schedule pushes the others, and flushes between pictures. -/
structure Scheduled (pics : List Picture) (n : ℕ) (ops : List ReaderOp) : Prop where
  bytes : (stream pics).take n ++ pushed ops = stream pics
  flush : ∀ pre post, ops = pre ++ .flush :: post →
    ∃ j, n + (pushed pre).length = (stream (pics.take j)).length

namespace Scheduled

variable {ops : List ReaderOp}

/-- The chunk is the next piece of the stream. -/
theorem next_chunk (h : Scheduled pics n (.push chunk :: ops)) (hn : n ≤ (stream pics).length) :
    (stream pics).take n ++ chunk = (stream pics).take (n + chunk.length) := by
  have hbytes := h.bytes
  have htaken : ((stream pics).take n ++ chunk).length = n + chunk.length := by
    rw [List.length_append, List.length_take, Nat.min_eq_left hn]
  rw [pushed, ← List.append_assoc] at hbytes
  have htake := congrArg (List.take (n + chunk.length)) hbytes
  rwa [List.take_left' htaken] at htake

/-- After a push that cut off `done`. -/
theorem push (h : Scheduled (done ++ rest) n (.push chunk :: ops))
    (hn : n ≤ (stream (done ++ rest)).length) (hm : n + chunk.length = (stream done).length + m) :
    Scheduled rest m ops ∧ m ≤ (stream rest).length := by
  have hchunk := h.next_chunk hn
  have hbytes := h.bytes
  rw [pushed, ← List.append_assoc, hchunk, hm, stream_append, List.take_length_add_append,
    List.append_assoc] at hbytes
  refine ⟨{ bytes := List.append_cancel_left hbytes, flush := fun pre post hops => ?_ }, ?_⟩
  · obtain ⟨j, hj⟩ := h.flush (.push chunk :: pre) post (by rw [hops]; rfl)
    rw [pushed, List.length_append] at hj
    have hj' : (stream done).length + (m + (pushed pre).length) =
        (stream ((done ++ rest).take j)).length := by omega
    exact boundary_rest done hj'
  · have hlen := congrArg List.length hchunk
    rw [stream_append, List.length_append, List.length_take, List.length_take, List.length_append] at hlen
    rw [stream_append, List.length_append] at hn
    omega

/-- After a flush that found nothing. -/
theorem pass (h : Scheduled pics 0 (.flush :: ops)) : Scheduled pics 0 ops :=
  { bytes := h.bytes
    flush := fun pre post hops => h.flush (.flush :: pre) post (by rw [hops]; rfl) }

/-- After a flush that emitted a picture. -/
theorem emit (h : Scheduled (p :: rest) p.size (.flush :: ops)) : Scheduled rest 0 ops := by
  have hfirst : (stream (p :: rest)).take p.size = p.bytes := by
    have hsize : p.bytes.length = p.size := rfl
    rw [stream_cons, List.take_left' hsize]
  have hbytes := h.bytes
  rw [pushed, hfirst, stream_cons] at hbytes
  refine { bytes := List.append_cancel_left hbytes, flush := fun pre post hops => ?_ }
  obtain ⟨j, hj⟩ := h.flush (.flush :: pre) post (by rw [hops]; rfl)
  have hsize : (stream [p]).length = p.size := by
    rw [stream_cons_length, stream_nil, List.length_nil, Nat.add_zero]
  have hj' : (stream [p]).length + (0 + (pushed pre).length) =
      (stream (([p] ++ rest).take j)).length := by
    rw [List.singleton_append, ← hj, hsize, Nat.zero_add]
    rfl
  exact boundary_rest [p] hj'

end Scheduled

/-- What holds of the last operation when it is not this one. -/
theorem getLast?_flush {op : ReaderOp} {ops : List ReaderOp} (hnil : ops = [] → op = .flush → m = 0)
    (hlast : ops.getLast? = some .flush → m = 0) : (op :: ops).getLast? = some .flush → m = 0 := by
  intro h
  rcases ops with _ | ⟨next, ops⟩
  · exact hnil rfl (Option.some.inj h)
  · exact hlast (by rwa [List.getLast?_cons_cons] at h)

/-- **A schedule** emits pictures in order and leaves the rest pending; one that ends with a flush leaves
no bytes. -/
theorem runOps_pending (ops : List ReaderOp) (pics : List Picture) (n : ℕ)
    (hn : n ≤ (stream pics).length) (hno : ¬ Cuttable pics n) (hscheduled : Scheduled pics n ops)
    (hwithin : Within (pending pics n) ops) :
    ∃ done rest m, pics = done ++ rest ∧ m = (stream rest).length ∧
      (ops.getLast? = some .flush → m = 0) ∧
      runOps (pending pics n) ops = some (done.map Picture.unit, pending rest m) := by
  induction ops generalizing pics n with
  | nil =>
    have hlen := congrArg List.length hscheduled.bytes
    rw [pushed, List.append_nil, List.length_take] at hlen
    exact ⟨[], pics, n, rfl, by omega, by simp, rfl⟩
  | cons op ops ih =>
    cases op with
    | push chunk =>
      obtain ⟨done, rest, m, rfl, hm, hno', hpush⟩ := pushUnits_pending hn (hscheduled.next_chunk hn)
      obtain ⟨hbuf, hwithin'⟩ := hwithin _ _ hpush
      obtain ⟨hrest, hle⟩ := hscheduled.push hn hm
      obtain ⟨done', rest', m', rfl, hm', hlast, hrun⟩ := ih rest m hle hno' hrest hwithin'
      refine ⟨done ++ done', rest', m', (List.append_assoc _ _ _).symm, hm',
        getLast?_flush (fun _ hop => by cases hop) hlast, ?_⟩
      have hover : ¬ maxAnnexBBuffer < (pending (done' ++ rest') m).buffer.length := by omega
      simp only [runOps, push, hpush, hrun, hover, Option.bind_eq_bind, Option.bind_some, ↓reduceIte,
        List.map_append]
    | flush =>
      obtain ⟨j, hj⟩ := hscheduled.flush [] ops rfl
      rw [pushed, List.length_nil, Nat.add_zero] at hj
      rcases boundary_head hno hj with rfl | ⟨p, rest, rfl, rfl⟩
      · -- nothing is pending
        obtain ⟨done, rest, m, rfl, hm, hlast, hrun⟩ := ih pics 0 hn hno hscheduled.pass
          (hwithin _ _ (flushPending_none pics))
        refine ⟨done, rest, m, rfl, hm, getLast?_flush (fun hops _ => ?_) hlast, ?_⟩
        · exact nothing_left (hops ▸ hscheduled.pass.bytes) hm
        · simp [runOps, flushPending_none, hrun]
      · -- the first picture is complete and still pending
        obtain ⟨done, rest, m, rfl, hm, hlast, hrun⟩ := ih rest 0 (Nat.zero_le _)
          (not_cuttable_zero rest) hscheduled.emit (hwithin _ _ (flushPending_some p rest))
        refine ⟨p :: done, rest, m, rfl, hm, getLast?_flush (fun hops _ => ?_) hlast, ?_⟩
        · exact nothing_left (hops ▸ hscheduled.emit.bytes) hm
        · simp [runOps, flushPending_some, hrun]

/-- **The reader emits exactly the access units of the stream**, in order, whatever the chunks, with
flushes between the pictures and one at the end. -/
theorem splits_access_units (pics : List Picture) (ops : List ReaderOp)
    (hbytes : pushed ops = stream pics)
    (hflush : ∀ pre post, ops = pre ++ .flush :: post → ∃ j, pushed pre = stream (pics.take j))
    (hend : ops.getLast? = some .flush) (hbuffer : Within new ops) :
    ∃ final, runOps new ops = some (pics.map Picture.unit, final) := by
  have hnew : new = pending pics 0 := by
    rw [pending, visible_zero]
    rfl
  have hscheduled : Scheduled pics 0 ops := by
    refine { bytes := hbytes, flush := fun pre post hops => ?_ }
    obtain ⟨j, hj⟩ := hflush pre post hops
    exact ⟨j, by rw [hj, Nat.zero_add]⟩
  rw [hnew] at hbuffer
  obtain ⟨done, rest, m, rfl, hm, hlast, hrun⟩ :=
    runOps_pending ops pics 0 (Nat.zero_le _) (not_cuttable_zero pics) hscheduled hbuffer
  -- no byte is left, and every picture has bytes
  obtain rfl : rest = [] := by
    have hzero := hlast hend
    match rest with
    | [] => rfl
    | p :: rest =>
      have hpos := picture_size_pos p
      rw [stream_cons_length] at hm
      omega
  exact ⟨pending [] m, by rw [hnew, hrun, List.append_nil]⟩

end Schedule

/-! ## A stream of two pictures -/

theorem within_push {self next : AnnexBStreamReader} {chunk : List UInt8} {units : List AccessUnit}
    {rest : List ReaderOp} (h : self.pushUnits chunk = some (units, next))
    (hle : next.buffer.length ≤ maxAnnexBBuffer) (hrest : Within next rest) :
    Within self (.push chunk :: rest) := by
  intro units' next' h'
  rw [h] at h'
  cases h'
  exact ⟨hle, hrest⟩

theorem within_flush {self next : AnnexBStreamReader} {unit : Option AccessUnit}
    {rest : List ReaderOp} (h : self.flushPending = some (unit, next)) (hrest : Within next rest) :
    Within self (.flush :: rest) := by
  intro unit' next' h'
  rw [h] at h'
  cases h'
  exact hrest

/-- A unit of two bytes. -/
def demoUnit (long : Bool) (header second : UInt8) (h : second ≠ 0) : NalUnit where
  long := long
  payload := [header, second]
  two := Nat.le_refl 2
  clean := fun x _ hin => by
    have hle := hin.length_le
    simp at hle
  closed := by simpa using h

def demoKey : Picture where
  delimiter := some (demoUnit true 0x09 0xf0 (by decide))
  sets := [demoUnit false 0x67 0x42 (by decide), demoUnit true 0x68 0xce (by decide)]
  slice := demoUnit false 0x65 0x88 (by decide)
  slices := []
  delimiter_kind := by decide
  sets_kind := by decide
  slice_kind := by decide
  slice_first := by decide
  slices_kind := by decide
  slices_rest := by decide

def demoDelta : Picture where
  delimiter := none
  sets := []
  slice := demoUnit true 0x41 0x9a (by decide)
  slices := [demoUnit false 0x41 0x1a (by decide)]
  delimiter_kind := by decide
  sets_kind := by decide
  slice_kind := by decide
  slice_first := by decide
  slices_kind := by decide
  slices_rest := by decide

/-- Chunks that end inside a start code and between the two classifying bytes. -/
def demoOps : List ReaderOp :=
  [.push [0, 0, 0, 1, 0x09, 0xf0, 0, 0],
    .push [1, 0x67, 0x42, 0, 0, 0, 1, 0x68, 0xce, 0, 0, 1, 0x65, 0x88], .flush,
    .push [0, 0, 0, 1, 0x41], .push [0x9a, 0, 0, 1, 0x41, 0x1a], .flush]

theorem splits_demo : ∃ final,
    runOps new demoOps = some ([demoKey.unit, demoDelta.unit], final) := by
  refine splits_access_units [demoKey, demoDelta] demoOps (by decide) ?_ rfl ?_
  · intro pre post h
    match pre, h with
    | [_, _], h =>
      simp only [demoOps, List.cons_append, List.nil_append, List.cons.injEq] at h
      obtain ⟨rfl, rfl, -, -⟩ := h
      exact ⟨1, by decide⟩
    | [_, _, _, _, _], h =>
      simp only [demoOps, List.cons_append, List.nil_append, List.cons.injEq] at h
      obtain ⟨rfl, rfl, rfl, rfl, rfl, -, -⟩ := h
      exact ⟨2, by decide⟩
    | [], h | [_], h | [_, _, _], h | [_, _, _, _], h => simp [demoOps] at h
    | _ :: _ :: _ :: _ :: _ :: _ :: pre, h => simp [demoOps] at h
  · exact within_push rfl (by decide) (within_push rfl (by decide) (within_flush rfl
      (within_push rfl (by decide) (within_push rfl (by decide) (within_flush rfl trivial)))))

end AnnexBStreamReader

end Waypad
