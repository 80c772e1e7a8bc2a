import Waypad.Screen.AnnexBSplit

/-!
# Waypad.Screen.AnnexBChunks — arbitrary bytes in arbitrary chunks

* `seen`: the reader that has scanned its buffer; what it knows is a function of the buffer alone.
* `refsFrom_drop`: cut at a NAL unit, the rest of the bytes holds the rest of the NAL units.
* `Cuts`: the loop of `push`, with the units it takes off a buffer and the buffer it leaves.
* `chunk_independent`: two partitions of the same bytes give the same units and the same reader.
-/

namespace Waypad

namespace AnnexBStreamReader

/-! ## Where the NAL units stand -/

section Refs

variable {prev : Bool} {off : ℕ} {l r : List UInt8} {nal : NalRef} {before after : List NalRef}

theorem refsFrom_prefix (r : List UInt8) : refsFrom prev off l <+: refsFrom prev off (l ++ r) := by
  induction l generalizing prev off with
  | nil => exact List.nil_prefix
  | cons a l ih =>
    by_cases h5 : 5 ≤ (a :: l).length
    · have hat : refAt prev off (a :: (l ++ r)) = refAt prev off (a :: l) :=
        refAt_append (l := a :: l) (r := r) h5
      rw [List.cons_append, refsFrom, refsFrom, hat]
      exact (List.prefix_append_right_inj _).mpr ih
    · rw [refsFrom_short (by omega)]
      exact List.nil_prefix

/-- A start code begins at the offset itself, or at the zero before it. -/
theorem refAt_start (h : refAt prev off l = some nal) :
    nal.start = (if prev then off - 1 else off) ∧ 5 ≤ l.length ∧ [0, 0, 1] <+: l := by
  have hlen : 5 ≤ l.length := by
    by_contra hshort
    rw [refAt_short (by omega)] at h
    cases h
  match l with
  | [] | [_] | [_, _] | [_, _, _] | [_, _, _, _] => simp at hlen
  | a :: b :: c :: d :: e :: rest =>
    rw [refAt] at h
    split at h
    · cases h
    · next hm =>
      push Not at hm
      obtain ⟨rfl, rfl, rfl⟩ := hm
      cases h
      exact ⟨rfl, hlen, ⟨d :: e :: rest, rfl⟩⟩

/-- A start code that begins at the offset itself does not use the zero before it. -/
theorem refAt_here (h : refAt prev off l = some nal) (hhere : nal.start = off) :
    refAt false off l = some nal := by
  obtain ⟨-, hlen, -⟩ := refAt_start h
  match l with
  | [] | [_] | [_, _] | [_, _, _] | [_, _, _, _] => simp at hlen
  | a :: b :: c :: d :: e :: rest =>
    rw [refAt] at h ⊢
    split at h
    · cases h
    · next hm =>
      rw [if_neg hm]
      cases h
      simp only [Bool.false_eq_true, ↓reduceIte] at hhere ⊢
      rw [hhere]

theorem refsFrom_start (h : nal ∈ refsFrom prev off l) :
    off ≤ nal.start + (if prev then 1 else 0) ∧ nal.start + 5 ≤ off + l.length := by
  induction l generalizing prev off with
  | nil => simp [refsFrom] at h
  | cons a l ih =>
    rw [refsFrom, List.mem_append, Option.mem_toList] at h
    rw [List.length_cons]
    rcases h with h | h
    · obtain ⟨hstart, hlen, -⟩ := refAt_start h
      rw [List.length_cons] at hlen
      cases prev <;> simp only [Bool.false_eq_true, ↓reduceIte] at hstart ⊢ <;> omega
    · obtain ⟨hlow, hhigh⟩ := ih h
      have hone : (if a == 0 then 1 else 0) ≤ 1 := by split <;> omega
      constructor
      · cases prev <;> simp only [Bool.false_eq_true, ↓reduceIte] <;> omega
      · omega

/-- The offsets do not decrease. -/
theorem refsFrom_sorted (prev : Bool) (off : ℕ) (l : List UInt8) :
    (refsFrom prev off l).Pairwise (fun x y => x.start ≤ y.start) := by
  induction l generalizing prev off with
  | nil => exact List.Pairwise.nil
  | cons a l ih =>
    rw [refsFrom, List.pairwise_append]
    refine ⟨?_, ih _ _, ?_⟩
    · cases refAt prev off (a :: l) <;> simp
    · intro x hx y hy
      obtain ⟨hstart, -, -⟩ := refAt_start (Option.mem_toList.mp hx)
      have hlow := (refsFrom_start hy).1
      have hone : (if a == 0 then 1 else 0) ≤ 1 := by split <;> omega
      have hle : (if prev then off - 1 else off) ≤ off := by split <;> omega
      omega

/-- The byte before a position decides only about the start code at it. -/
theorem refsFrom_prev (h : refAt prev off l = none) : refsFrom prev off l = refsFrom false off l := by
  cases l with
  | nil => rfl
  | cons a l =>
    have hnone : refAt false off (a :: l) = none := by
      match l with
      | [] | [_] | [_, _] | [_, _, _] => rfl
      | b :: c :: d :: e :: rest =>
        rw [refAt] at h ⊢
        split at h
        · next hm => rw [if_pos hm]
        · cases h
    rw [refsFrom, refsFrom, h, hnone]

/-- Two start codes do not share their first two bytes. -/
theorem refAt_next {a : UInt8} {other : NalRef} (h : refAt prev off (a :: l) = some nal) :
    refAt (a == 0) (off + 1) l ≠ some other := by
  intro hnext
  obtain ⟨-, -, ⟨x, hx⟩⟩ := refAt_start h
  obtain ⟨-, -, ⟨y, hy⟩⟩ := refAt_start hnext
  rw [← hy] at hx
  simp at hx

/-- A NAL unit that begins before the offset has its start code at it. -/
theorem refsFrom_before (h : refsFrom true (off + 1) l = before ++ nal :: after)
    (hstart : nal.start = off) : before = [] ∧ refAt true (off + 1) l = some nal := by
  cases l with
  | nil => simp [refsFrom] at h
  | cons a l =>
    rw [refsFrom] at h
    cases hat : refAt true (off + 1) (a :: l) with
    | none =>
      rw [hat, Option.toList_none, List.nil_append] at h
      have hmem : nal ∈ refsFrom (a == 0) (off + 1 + 1) l := by
        rw [h]
        exact List.mem_append_right _ List.mem_cons_self
      have hlow := (refsFrom_start hmem).1
      have hone : (if a == 0 then 1 else 0) ≤ 1 := by split <;> omega
      omega
    | some first =>
      rw [hat, Option.toList_some, List.singleton_append] at h
      cases before with
      | nil =>
        rw [List.nil_append, List.cons.injEq] at h
        exact ⟨rfl, by rw [h.1]⟩
      | cons b before =>
        rw [List.cons_append, List.cons.injEq] at h
        have hmem : nal ∈ refsFrom (a == 0) (off + 1 + 1) l := by
          rw [h.2]
          exact List.mem_append_right _ List.mem_cons_self
        have hlow := (refsFrom_start hmem).1
        have hone : (if a == 0 then 1 else 0) ≤ 1 := by split <;> omega
        omega

/-- A NAL unit at the offset itself is the first one found without the zero before it. -/
theorem refsFrom_here {a : UInt8} (h : refsFrom prev off (a :: l) = before ++ nal :: after)
    (hhere : nal.start = off) : refsFrom false off (a :: l) = nal :: after := by
  rw [refsFrom] at h
  cases hat : refAt prev off (a :: l) with
  | none =>
    -- the zero before the start code is the head
    rw [hat, Option.toList_none, List.nil_append] at h
    have hmem : nal ∈ refsFrom (a == 0) (off + 1) l := by
      rw [h]
      exact List.mem_append_right _ List.mem_cons_self
    have ha : (a == 0) = true := by
      by_contra hne
      rw [Bool.not_eq_true] at hne
      have hlow := (refsFrom_start hmem).1
      rw [hne] at hlow
      simp only [Bool.false_eq_true, ↓reduceIte] at hlow
      omega
    rw [ha] at h
    obtain ⟨rfl, -⟩ := refsFrom_before h hhere
    rw [← refsFrom_prev hat, refsFrom, hat, ha, h]
    rfl
  | some first =>
    rw [hat, Option.toList_some, List.singleton_append] at h
    cases before with
    | nil =>
      rw [List.nil_append, List.cons.injEq] at h
      obtain ⟨rfl, rfl⟩ := h
      rw [refsFrom, refAt_here hat hhere]
      rfl
    | cons b before =>
      rw [List.cons_append, List.cons.injEq] at h
      obtain ⟨-, h⟩ := h
      obtain ⟨-, -, ⟨x, hx⟩⟩ := refAt_start hat
      have ha : a = 0 := by
        rw [List.cons_append, List.cons.injEq] at hx
        exact hx.1.symm
      subst ha
      exact absurd (refsFrom_before h hhere).2 (refAt_next hat)

/-- **Cut at a NAL unit**: its start code and everything after it is found again in the rest. -/
theorem refsFrom_rest (h : refsFrom prev off l = before ++ nal :: after) (hoff : off ≤ nal.start) :
    refsFrom false nal.start (l.drop (nal.start - off)) = nal :: after := by
  induction l generalizing prev off before with
  | nil => simp [refsFrom] at h
  | cons a l ih =>
    by_cases hhere : nal.start = off
    · rw [hhere, Nat.sub_self, List.drop_zero]
      exact refsFrom_here h hhere
    · have hdrop : nal.start - off = (nal.start - (off + 1)) + 1 := by omega
      rw [hdrop, List.drop_succ_cons]
      rw [refsFrom] at h
      cases hat : refAt prev off (a :: l) with
      | none =>
        rw [hat, Option.toList_none, List.nil_append] at h
        exact ih h (by omega)
      | some first =>
        -- the head starts a unit, which comes before the one looked for
        rw [hat, Option.toList_some, List.singleton_append] at h
        cases before with
        | nil =>
          rw [List.nil_append, List.cons.injEq] at h
          obtain ⟨rfl, -⟩ := h
          have hstart := (refAt_start hat).1
          have hle : (if prev then off - 1 else off) ≤ off := by split <;> omega
          omega
        | cons b before =>
          rw [List.cons_append, List.cons.injEq] at h
          exact ih h.2 (by omega)

theorem refAt_shift (k : ℕ) (hpos : prev = true → 0 < off) :
    refAt prev (off + k) l = (refAt prev off l).map (fun n => { n with start := n.start + k }) := by
  match l with
  | [] | [_] | [_, _] | [_, _, _] | [_, _, _, _] => rfl
  | a :: b :: c :: d :: e :: rest =>
    have hstart : (if prev then off + k - 1 else off + k) = (if prev then off - 1 else off) + k := by
      cases prev with
      | false => rfl
      | true =>
        have := hpos rfl
        simp only [↓reduceIte]
        omega
    rw [refAt, refAt, hstart]
    split <;> rfl

theorem refsFrom_shift (k : ℕ) (hpos : prev = true → 0 < off) :
    refsFrom prev (off + k) l =
      (refsFrom prev off l).map (fun n => { n with start := n.start + k }) := by
  induction l generalizing prev off with
  | nil => rfl
  | cons a l ih =>
    have hnext : off + k + 1 = off + 1 + k := by omega
    rw [refsFrom, refsFrom, refAt_shift k hpos, hnext, ih (fun _ => Nat.succ_pos off), List.map_append]
    cases refAt prev off (a :: l) <;> rfl

/-- The same with the offsets of the rest. -/
theorem refsFrom_drop (h : refsFrom false 0 l = before ++ nal :: after) :
    refsFrom false 0 (l.drop nal.start) =
      (nal :: after).map (fun n => { n with start := n.start - nal.start }) := by
  have hrest := refsFrom_rest h (Nat.zero_le _)
  have hshift : refsFrom false (0 + nal.start) (l.drop nal.start) =
      (refsFrom false 0 (l.drop nal.start)).map (fun n => { n with start := n.start + nal.start }) :=
    refsFrom_shift nal.start (by simp)
  rw [Nat.sub_zero] at hrest
  rw [Nat.zero_add, hrest] at hshift
  rw [hshift, List.map_map]
  have hid : (fun n : NalRef => { n with start := n.start - nal.start }) ∘
      (fun n : NalRef => { n with start := n.start + nal.start }) = id := by
    funext n
    simp
  rw [hid, List.map_id]

end Refs

/-! ## A reader between two calls -/

/-- The reader that has scanned its whole buffer. -/
def seen (buffer : List UInt8) : AnnexBStreamReader :=
  { buffer, nals := refsFrom false 0 buffer, scanFrom := buffer.length - 4 }

theorem scan_seen (buffer chunk : List UInt8) :
    { seen buffer with buffer := buffer ++ chunk }.scan = seen (buffer ++ chunk) :=
  @scan_spec (seen buffer) chunk rfl rfl

section Boundary

variable {index boundary : ℕ} {hasSlice : Bool} {l r : List NalRef}

/-- More NAL units do not move a boundary that was found. -/
theorem boundaryLoop_found (h : boundaryLoop index hasSlice l = some boundary) :
    boundaryLoop index hasSlice (l ++ r) = some boundary := by
  induction l generalizing index hasSlice with
  | nil => cases h
  | cons nal l ih =>
    rw [boundaryLoop] at h
    rw [List.cons_append, boundaryLoop]
    split at h
    · next hopen => rw [if_pos hopen, h]
    · next hopen =>
      rw [if_neg hopen]
      exact ih h

/-- A boundary is the index of a NAL unit, and not the first. -/
theorem boundaryLoop_index (h : boundaryLoop index hasSlice l = some boundary) :
    0 < boundary ∧ ∃ before nal after, l = before ++ nal :: after ∧ boundary = index + before.length := by
  induction l generalizing index hasSlice with
  | nil => cases h
  | cons nal l ih =>
    rw [boundaryLoop] at h
    split at h
    · next hopen =>
      cases h
      exact ⟨hopen.1, [], nal, l, rfl, rfl⟩
    · obtain ⟨hpos, before, nal', after, rfl, hindex⟩ := ih h
      refine ⟨hpos, nal :: before, nal', after, rfl, ?_⟩
      rw [List.length_cons]
      omega

end Boundary

section Slices

variable {buffer : List UInt8} {first stop : ℕ}

theorem slice_append (hstop : stop ≤ buffer.length) (more : List UInt8) :
    slice (buffer ++ more) first stop = slice buffer first stop := by
  have hlong : stop ≤ (buffer ++ more).length := by
    rw [List.length_append]
    omega
  unfold slice
  rw [List.take_append_of_le_length hstop]
  by_cases hle : first ≤ stop
  · rw [if_pos ⟨hle, hlong⟩, if_pos ⟨hle, hstop⟩]
  · rw [if_neg (fun h => hle h.1), if_neg (fun h => hle h.1)]

/-- The SPS and PPS before a NAL unit are there, whatever comes after it. -/
theorem parameterSets_before {before after : List NalRef} {nal : NalRef}
    (hsorted : (before ++ nal :: after).Pairwise (fun x y => x.start ≤ y.start))
    (hstop : nal.start ≤ buffer.length) :
    ∃ sets, ∀ more others, parameterSets (buffer ++ more) nal.start before.length
      (before ++ nal :: others) = some sets := by
  induction before with
  | nil => exact ⟨[], fun more others => rfl⟩
  | cons b before ih =>
    rw [List.cons_append, List.pairwise_cons] at hsorted
    obtain ⟨sets, hsets⟩ := ih hsorted.2
    -- where the next NAL unit starts
    obtain ⟨next, hnext, hle, hin⟩ : ∃ next, (∀ others,
        ((before ++ nal :: others).head?.map NalRef.start).getD nal.start = next) ∧ b.start ≤ next ∧
        next ≤ buffer.length := by
      cases before with
      | nil => exact ⟨nal.start, fun others => rfl, hsorted.1 nal (by simp), hstop⟩
      | cons b' before =>
        have hb' := hsorted.1 b' (by simp)
        have hnal := (List.pairwise_cons.mp hsorted.2).1 nal (by simp)
        exact ⟨b'.start, fun others => rfl, hb', Nat.le_trans hnal hstop⟩
    by_cases hkind : b.kind = 7 ∨ b.kind = 8
    · refine ⟨(buffer.take next).drop b.start ++ sets, fun more others => ?_⟩
      rw [List.cons_append, List.length_cons, parameterSets, if_pos hkind, hnext, hsets,
        slice_append hin, slice, if_pos ⟨hle, hin⟩]
      rfl
    · refine ⟨[] ++ sets, fun more others => ?_⟩
      rw [List.cons_append, List.length_cons, parameterSets, if_neg hkind, hsets]
      rfl

end Slices

section Cut

variable {buffer : List UInt8} {first nal : NalRef} {before after : List NalRef}

/-- The NAL units stand in order, and in the buffer. -/
theorem refsFrom_bounds (hrefs : refsFrom false 0 buffer = first :: before ++ nal :: after) :
    (first :: before ++ nal :: after).Pairwise (fun x y => x.start ≤ y.start) ∧
      first.start ≤ nal.start ∧ nal.start ≤ buffer.length := by
  have hsorted := refsFrom_sorted false 0 buffer
  have hmem : nal ∈ refsFrom false 0 buffer := by simp [hrefs]
  have hstop := (refsFrom_start hmem).2
  rw [hrefs] at hsorted
  exact ⟨hsorted, (List.pairwise_cons.mp hsorted).1 nal (by simp), by omega⟩

/-- **`take_access_unit`** on a buffer that was scanned: the bytes between two NAL units, and a reader
that has scanned the rest. -/
theorem takeAccessUnit_seen {sets : List UInt8}
    (hrefs : refsFrom false 0 buffer = first :: before ++ nal :: after)
    (hsets : parameterSets buffer nal.start (first :: before).length (first :: before ++ nal :: after) =
      some sets) :
    (seen buffer).takeAccessUnit (first :: before).length =
      some ({ data := (buffer.take nal.start).drop first.start
              keyFrame := (first :: before).any (fun nal => nal.kind == 5)
              parameterSets := if sets.isEmpty then none else some sets },
        seen (buffer.drop nal.start)) := by
  obtain ⟨hsorted, hfirst, hstop⟩ := refsFrom_bounds hrefs
  have hnals : (seen buffer).nals = first :: before ++ nal :: after := hrefs
  have hat : (seen buffer).nals[(first :: before).length]? = some nal := by
    rw [hnals]
    simp
  have hslice : slice buffer first.start nal.start = some ((buffer.take nal.start).drop first.start) := by
    rw [slice, if_pos ⟨hfirst, hstop⟩]
  have hdrop : (first :: before ++ nal :: after).drop (first :: before).length = nal :: after :=
    List.drop_left
  have htake : (first :: before ++ nal :: after).take (first :: before).length = first :: before :=
    List.take_left
  have hbelow : (nal :: after).any (fun n => decide (n.start < nal.start)) = false := by
    have hafter := (List.pairwise_cons.mp (List.pairwise_append.mp hsorted).2.1).1
    rw [List.any_eq_false]
    intro n hn
    rw [decide_eq_true_eq, Nat.not_lt]
    rcases List.mem_cons.mp hn with rfl | hn
    · exact Nat.le_refl _
    · exact hafter n hn
  have hseen : seen (buffer.drop nal.start) =
      { buffer := buffer.drop nal.start
        nals := (nal :: after).map (fun n => { n with start := n.start - nal.start })
        scanFrom := buffer.length - 4 - nal.start } := by
    rw [← refsFrom_drop hrefs, seen, List.length_drop, Nat.sub_right_comm]
  rw [takeAccessUnit, hat, hseen]
  simp only [Option.bind_eq_bind, Option.bind_some, takeAccessUnitBefore, hnals, htake, hdrop]
  rw [List.cons_append, List.head?_cons, ← List.cons_append]
  simp only [Option.bind_some, hbelow]
  rw [show (seen buffer).buffer = buffer from rfl, hsets, hslice]
  rfl

end Cut

/-- **One cut**: a boundary that was found gives the same unit whatever comes after it, and the reader
that is left has seen the rest. -/
theorem take_seen {buffer : List UInt8} {boundary : ℕ}
    (h : (seen buffer).nextBoundary = some boundary) :
    ∃ first before nal after unit, refsFrom false 0 buffer = first :: before ++ nal :: after ∧
      boundary = (first :: before).length ∧ nal.start ≤ buffer.length ∧ first.start ≤ nal.start ∧
      unit.data = (buffer.take nal.start).drop first.start ∧
      ∀ more, (seen (buffer ++ more)).nextBoundary = some boundary ∧
        (seen (buffer ++ more)).takeAccessUnit boundary =
          some (unit, seen (buffer.drop nal.start ++ more)) := by
  obtain ⟨hpos, before, nal, after, hrefs, hindex⟩ := boundaryLoop_index h
  rw [Nat.zero_add] at hindex
  change refsFrom false 0 buffer = before ++ nal :: after at hrefs
  cases before with
  | nil =>
    rw [List.length_nil] at hindex
    omega
  | cons first before =>
    obtain ⟨hsorted, hfirst, hstop⟩ := refsFrom_bounds hrefs
    obtain ⟨sets, hsets⟩ := parameterSets_before hsorted hstop
    refine ⟨first, before, nal, after,
      { data := (buffer.take nal.start).drop first.start
        keyFrame := (first :: before).any (fun nal => nal.kind == 5)
        parameterSets := if sets.isEmpty then none else some sets },
      hrefs, hindex, hstop, hfirst, rfl, fun more => ?_⟩
    have hmore : refsFrom false 0 buffer <+: refsFrom false 0 (buffer ++ more) := refsFrom_prefix more
    obtain ⟨others, hothers⟩ := hmore
    have hall : refsFrom false 0 (buffer ++ more) = first :: before ++ nal :: (after ++ others) := by
      rw [← hothers, hrefs, List.append_assoc]
      rfl
    refine ⟨?_, ?_⟩
    · -- the bytes that follow move neither the boundary nor what is before it
      show boundaryLoop 0 false (refsFrom false 0 (buffer ++ more)) = some boundary
      rw [← hothers]
      exact boundaryLoop_found h
    · have htake := takeAccessUnit_seen hall (hsets more (after ++ others))
      rw [List.take_append_of_le_length hstop, List.drop_append_of_le_length hstop] at htake
      rw [hindex]
      exact htake

/-! ## From the first start code on -/

/-- What remains of the bytes from the first start code on, of three or of four bytes. -/
def fromStartCode : List UInt8 → List UInt8
  | [] => []
  | a :: l =>
    if [0, 0, 1] <+: a :: l ∨ [0, 0, 0, 1] <+: a :: l then a :: l else fromStartCode l

section StartCode

variable {prev : Bool} {off : ℕ} {l : List UInt8} {first : NalRef} {after : List NalRef}

theorem refAt_code (prev : Bool) (off : ℕ) (hcode : [0, 0, 1] <+: l) (hlen : 5 ≤ l.length) :
    ∃ nal, refAt prev off l = some nal := by
  match l, hcode, hlen with
  | a :: b :: c :: d :: e :: rest, hcode, _ =>
    obtain ⟨x, hx⟩ := hcode
    simp only [List.cons_append, List.nil_append, List.cons.injEq] at hx
    obtain ⟨rfl, rfl, rfl, -⟩ := hx
    exact ⟨_, rfl⟩

/-- Bytes whose first NAL unit stands at their head. -/
theorem fromStartCode_head (h : refsFrom false off l = first :: after) (hstart : first.start = off) :
    fromStartCode l = l := by
  cases l with
  | nil => rfl
  | cons a l =>
    rw [fromStartCode, if_pos]
    rw [refsFrom] at h
    cases hat : refAt false off (a :: l) with
    | some nal => exact Or.inl (refAt_start hat).2.2
    | none =>
      rw [hat, Option.toList_none, List.nil_append] at h
      have hlow := (refsFrom_start (h ▸ List.mem_cons_self : first ∈ refsFrom (a == 0) (off + 1) l)).1
      -- the unit starts here, so its start code has four bytes
      by_cases ha : (a == 0) = true
      · rw [ha] at h
        obtain ⟨-, hnext⟩ := refsFrom_before (show _ = ([] : List NalRef) ++ _ :: _ from h) hstart
        obtain ⟨x, hx⟩ := (refAt_start hnext).2.2
        refine Or.inr ⟨x, ?_⟩
        rw [← hx, beq_iff_eq.mp ha]
        rfl
      · rw [Bool.not_eq_true] at ha
        rw [ha] at hlow
        simp only [Bool.false_eq_true, ↓reduceIte] at hlow
        omega

theorem fromStartCode_drop (h : refsFrom prev off l = first :: after) (hoff : off ≤ first.start) :
    fromStartCode l = l.drop (first.start - off) := by
  induction l generalizing prev off with
  | nil => simp [refsFrom] at h
  | cons a l ih =>
    by_cases hhere : first.start = off
    · have hrest := refsFrom_rest (show _ = ([] : List NalRef) ++ _ :: _ from h) hoff
      rw [hhere, Nat.sub_self, List.drop_zero] at hrest ⊢
      exact fromStartCode_head hrest hhere
    · have hlen := (refsFrom_start (h ▸ List.mem_cons_self : first ∈ refsFrom prev off (a :: l))).2
      rw [List.length_cons] at hlen
      rw [refsFrom] at h
      -- no unit starts at the head, or it would be the first
      have hnone : refAt prev off (a :: l) = none := by
        by_contra hsome
        obtain ⟨nal, hat⟩ := Option.ne_none_iff_exists'.mp hsome
        rw [hat, Option.toList_some, List.singleton_append, List.cons.injEq] at h
        obtain ⟨rfl, -⟩ := h
        have hstart := (refAt_start hat).1
        have hle : (if prev then off - 1 else off) ≤ off := by split <;> omega
        omega
      rw [hnone, Option.toList_none, List.nil_append] at h
      rw [fromStartCode, if_neg, ih h (by omega)]
      · have hdrop : first.start - off = (first.start - (off + 1)) + 1 := by omega
        rw [hdrop, List.drop_succ_cons]
      · rintro (hcode | ⟨x, hx⟩)
        · obtain ⟨nal, hat⟩ := refAt_code prev off hcode (by
            rw [List.length_cons]
            omega)
          rw [hnone] at hat
          cases hat
        · -- a start code of four bytes would be found at the next position
          simp only [List.cons_append, List.nil_append, List.cons.injEq] at hx
          obtain ⟨rfl, rfl⟩ := hx
          obtain ⟨nal, hat⟩ := refAt_code true (off + 1)
            (⟨x, rfl⟩ : [0, 0, 1] <+: 0 :: 0 :: 1 :: x) (by omega)
          have hstart := (refAt_start hat).1
          have hz : ((0 : UInt8) == 0) = true := by decide
          rw [hz, refsFrom, hat, Option.toList_some, List.singleton_append, List.cons.injEq] at h
          obtain ⟨rfl, -⟩ := h
          simp only [↓reduceIte, Nat.add_sub_cancel] at hstart
          exact hhere hstart

end StartCode

/-! ## The loop of `push` -/

/-- `Cuts buffer units rest`: the loop of `push` takes `units` off the buffer and ends by its own
condition, with `rest` left. -/
inductive Cuts : List UInt8 → List AccessUnit → List UInt8 → Prop
  | done {buffer : List UInt8} (h : (seen buffer).nextBoundary = none) : Cuts buffer [] buffer
  | cut {buffer next rest : List UInt8} {boundary : ℕ} {unit : AccessUnit} {units : List AccessUnit}
      (h : (seen buffer).nextBoundary = some boundary)
      (htake : (seen buffer).takeAccessUnit boundary = some (unit, seen next))
      (hnext : Cuts next units rest) : Cuts buffer (unit :: units) rest

namespace Cuts

variable {buffer rest more : List UInt8} {units : List AccessUnit}

/-- A cut leaves fewer NAL units. -/
theorem fewer {first nal : NalRef} {before after : List NalRef}
    (h : refsFrom false 0 buffer = first :: before ++ nal :: after) :
    (refsFrom false 0 (buffer.drop nal.start)).length < (refsFrom false 0 buffer).length := by
  rw [refsFrom_drop h, h]
  simp only [List.length_map, List.length_cons, List.length_append]
  omega

/-- What `take_seen` says of a cut that was made. -/
theorem cut_seen {next : List UInt8} {boundary : ℕ} {unit : AccessUnit}
    (h : (seen buffer).nextBoundary = some boundary)
    (htake : (seen buffer).takeAccessUnit boundary = some (unit, seen next)) :
    ∃ first before nal after, refsFrom false 0 buffer = first :: before ++ nal :: after ∧
      nal.start ≤ buffer.length ∧ first.start ≤ nal.start ∧ next = buffer.drop nal.start ∧
      unit.data = (buffer.take nal.start).drop first.start ∧
      ∀ more, (seen (buffer ++ more)).nextBoundary = some boundary ∧
        (seen (buffer ++ more)).takeAccessUnit boundary = some (unit, seen (next ++ more)) := by
  obtain ⟨first, before, nal, after, unit', hrefs, -, hstop, hfirst, hdata, hmore⟩ := take_seen h
  have hsame := (hmore []).2
  rw [List.append_nil, List.append_nil, htake, Option.some.injEq, Prod.mk.injEq] at hsame
  obtain ⟨rfl, hseen⟩ := hsame
  obtain rfl : next = buffer.drop nal.start := congrArg AnnexBStreamReader.buffer hseen
  exact ⟨first, before, nal, after, hrefs, hstop, hfirst, rfl, hdata, hmore⟩

/-- The loop ends, and never panics. -/
theorem terminates (buffer : List UInt8) : ∃ units rest, Cuts buffer units rest := by
  induction hn : (refsFrom false 0 buffer).length using Nat.strongRecOn generalizing buffer with
  | ind n ih =>
    cases h : (seen buffer).nextBoundary with
    | none => exact ⟨[], buffer, .done h⟩
    | some boundary =>
      obtain ⟨first, before, nal, after, unit, hrefs, -, -, -, -, htake⟩ := take_seen h
      obtain ⟨units, rest, hcuts⟩ := ih _ (hn ▸ fewer hrefs) (buffer.drop nal.start) rfl
      have htake := (htake []).2
      rw [List.append_nil, List.append_nil] at htake
      exact ⟨unit :: units, rest, .cut h htake hcuts⟩

/-- The loop with enough fuel. -/
theorem takeLoop_eq (hcuts : Cuts buffer units rest) (fuel : ℕ)
    (hfuel : (refsFrom false 0 buffer).length ≤ fuel) :
    takeLoop fuel (seen buffer) = some (units, seen rest) := by
  induction hcuts generalizing fuel with
  | done h => cases fuel <;> simp [takeLoop, h]
  | @cut buffer next rest boundary unit units h htake hnext ih =>
    obtain ⟨first, before, nal, after, hrefs, -, -, rfl, -, -⟩ := cut_seen h htake
    have hless := fewer hrefs
    cases fuel with
    | zero => omega
    | succ fuel =>
      rw [takeLoop, h]
      simp only [htake, Option.bind_eq_bind, Option.bind_some, ih fuel (by omega)]

theorem boundary (hcuts : Cuts buffer units rest) : (seen rest).nextBoundary = none := by
  induction hcuts with
  | done h => exact h
  | cut h htake hnext ih => exact ih

/-- **More bytes**: the units are the same, and the loop goes on where it stopped. -/
theorem append {units' : List AccessUnit} {rest' : List UInt8} (hcuts : Cuts buffer units rest)
    (hmore : Cuts (rest ++ more) units' rest') : Cuts (buffer ++ more) (units ++ units') rest' := by
  induction hcuts with
  | done h => exact hmore
  | @cut buffer next rest boundary unit units h htake hnext ih =>
    obtain ⟨first, before, nal, after, -, -, -, -, -, htakeMore⟩ := cut_seen h htake
    obtain ⟨hboundary, hunit⟩ := htakeMore more
    exact .cut hboundary hunit (ih hmore)

/-- **Nothing is lost, doubled or moved**: the units and the rest are the bytes from the first start code
on. -/
theorem bytes (hcuts : Cuts buffer units rest) :
    (units = [] ∧ rest = buffer) ∨ units.flatMap AccessUnit.data ++ rest = fromStartCode buffer := by
  induction hcuts with
  | done h => exact Or.inl ⟨rfl, rfl⟩
  | @cut buffer next rest boundary unit units h htake hnext ih =>
    obtain ⟨first, before, nal, after, hrefs, hstop, hfirst, rfl, hdata, -⟩ := cut_seen h htake
    have hnextCode : fromStartCode (buffer.drop nal.start) = buffer.drop nal.start := by
      have hdrop := refsFrom_drop hrefs
      rw [List.map_cons] at hdrop
      exact fromStartCode_head hdrop (Nat.sub_self _)
    have hrest : units.flatMap AccessUnit.data ++ rest = buffer.drop nal.start := by
      rcases ih with ⟨rfl, rfl⟩ | ih
      · rfl
      · rw [ih, hnextCode]
    refine Or.inr ?_
    rw [fromStartCode_drop hrefs (Nat.zero_le _), List.flatMap_cons, List.append_assoc, hrest, hdata,
      Nat.sub_zero]
    have hkept : first.start ≤ (buffer.take nal.start).length := by
      rw [List.length_take]
      omega
    rw [← List.drop_append_of_le_length hkept, List.take_append_drop]

end Cuts

/-! ## Pushes -/

section Push

variable {buffer chunk rest : List UInt8} {units : List AccessUnit}

theorem pushUnits_seen (hcuts : Cuts (buffer ++ chunk) units rest) :
    (seen buffer).pushUnits chunk = some (units, seen rest) := by
  have hbuffer : (seen buffer).buffer = buffer := rfl
  unfold pushUnits
  dsimp only
  rw [hbuffer, scan_seen]
  exact hcuts.takeLoop_eq _ (Nat.le_refl _)

/-- Any pushes return, an overflow or not. -/
theorem runOps_returns (chunks : List (List UInt8)) (hnone : (seen buffer).nextBoundary = none) :
    ∃ units final, runOps (seen buffer) (chunks.map .push) = some (units, final) ∧
      final.nextBoundary = none := by
  induction chunks generalizing buffer with
  | nil => exact ⟨[], seen buffer, rfl, hnone⟩
  | cons chunk chunks ih =>
    obtain ⟨units, rest, hcuts⟩ := Cuts.terminates (buffer ++ chunk)
    have hpush := pushUnits_seen hcuts
    by_cases hover : maxAnnexBBuffer < (seen rest).buffer.length
    · obtain ⟨units', final, hrun, hfinal⟩ := @ih [] rfl
      refine ⟨units ++ units', final, ?_, hfinal⟩
      have hnew : runOps new (chunks.map .push) = some (units', final) := hrun
      simp only [List.map_cons, runOps, push, hpush, Option.bind_eq_bind, Option.bind_some, if_pos hover,
        hnew]
    · obtain ⟨units', final, hrun, hfinal⟩ := ih hcuts.boundary
      refine ⟨units ++ units', final, ?_, hfinal⟩
      simp only [List.map_cons, runOps, push, hpush, Option.bind_eq_bind, Option.bind_some, if_neg hover,
        hrun]

/-- Pushes without overflow take the units off all their bytes at once. -/
theorem runOps_cuts (chunks : List (List UInt8)) (hnone : (seen buffer).nextBoundary = none)
    (hwithin : Within (seen buffer) (chunks.map .push)) :
    ∃ units rest, Cuts (buffer ++ chunks.flatten) units rest ∧
      runOps (seen buffer) (chunks.map .push) = some (units, seen rest) := by
  induction chunks generalizing buffer with
  | nil =>
    refine ⟨[], buffer, ?_, rfl⟩
    rw [List.flatten_nil, List.append_nil]
    exact .done hnone
  | cons chunk chunks ih =>
    obtain ⟨units, rest, hcuts⟩ := Cuts.terminates (buffer ++ chunk)
    have hpush := pushUnits_seen hcuts
    obtain ⟨hle, hwithin'⟩ := hwithin _ _ hpush
    obtain ⟨units', rest', hcuts', hrun⟩ := ih hcuts.boundary hwithin'
    have hover : ¬ maxAnnexBBuffer < (seen rest).buffer.length := by omega
    refine ⟨units ++ units', rest', ?_, ?_⟩
    · rw [List.flatten_cons, ← List.append_assoc]
      exact hcuts.append hcuts'
    · simp only [List.map_cons, runOps, push, hpush, Option.bind_eq_bind, Option.bind_some, if_neg hover,
        hrun]

end Push

/-- **Chunks do not matter**: pushes always return, and without overflow two partitions of the same bytes
give the same units and the same reader; the units and the buffer are the bytes from the first start code
on, once there is a unit. -/
theorem chunk_independent (chunks chunks' : List (List UInt8)) :
    (∃ units final, runOps new (chunks.map .push) = some (units, final) ∧ final.nextBoundary = none) ∧
    (chunks.flatten = chunks'.flatten → Within new (chunks.map .push) →
      Within new (chunks'.map .push) →
      ∃ units final, runOps new (chunks.map .push) = some (units, final) ∧
        runOps new (chunks'.map .push) = some (units, final) ∧
        (units = [] → final.buffer = chunks.flatten) ∧
        (units ≠ [] →
          units.flatMap AccessUnit.data ++ final.buffer = fromStartCode chunks.flatten)) := by
  refine ⟨@runOps_returns [] chunks rfl, ?_⟩
  intro hbytes hwithin hwithin'
  obtain ⟨units, rest, hcuts, hrun⟩ := @runOps_cuts [] chunks rfl hwithin
  obtain ⟨units', rest', hcuts', hrun'⟩ := @runOps_cuts [] chunks' rfl hwithin'
  rw [List.nil_append] at hcuts hcuts'
  -- the bytes decide the cuts
  have hsame := hcuts.takeLoop_eq _ (Nat.le_refl _)
  rw [hbytes, hcuts'.takeLoop_eq _ (Nat.le_refl _), Option.some.injEq, Prod.mk.injEq] at hsame
  obtain ⟨rfl, hrest⟩ := hsame
  rw [hrest] at hrun'
  refine ⟨units', seen rest, hrun, hrun', ?_, ?_⟩
  · intro hnil
    rcases hcuts.bytes with ⟨-, hbuffer⟩ | hall
    · exact hbuffer
    · subst hnil
      cases hcuts with
      | done h => rfl
  · intro hsome
    rcases hcuts.bytes with ⟨hnil, -⟩ | hall
    · exact absurd hnil hsome
    · exact hall

/-- A malformed stream in two partitions, one that cuts inside the start codes. -/
theorem chunk_independent_demo :
    ∃ units final, runOps new ([[7, 0, 0], [0, 1, 9, 0], [0], [1, 0x65, 0x88, 0, 0, 1, 9, 9]].map
        ReaderOp.push) = some (units, final) ∧
      runOps new ([[7, 0, 0, 0, 1, 9, 0, 0, 1, 0x65, 0x88, 0, 0, 1, 9, 9]].map ReaderOp.push) =
        some (units, final) ∧
      (units = [] → final.buffer = [7, 0, 0, 0, 1, 9, 0, 0, 1, 0x65, 0x88, 0, 0, 1, 9, 9]) ∧
      (units ≠ [] → units.flatMap AccessUnit.data ++ final.buffer =
        fromStartCode [7, 0, 0, 0, 1, 9, 0, 0, 1, 0x65, 0x88, 0, 0, 1, 9, 9]) := by
  apply (chunk_independent [[7, 0, 0], [0, 1, 9, 0], [0], [1, 0x65, 0x88, 0, 0, 1, 9, 9]]
    [[7, 0, 0, 0, 1, 9, 0, 0, 1, 0x65, 0x88, 0, 0, 1, 9, 9]]).2 rfl
  · exact within_push rfl (by decide) (within_push rfl (by decide) (within_push rfl (by decide)
      (within_push rfl (by decide) trivial)))
  · exact within_push rfl (by decide) trivial

end AnnexBStreamReader

end Waypad
