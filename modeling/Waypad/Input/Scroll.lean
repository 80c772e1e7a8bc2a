import Waypad.Input.Uinput

/-!
# Waypad.Input.Scroll — wheel detents of a scroll gesture (`src/uinput.rs`, `src/input.rs`)

Both backends add each delta to a remainder, and give out whole detents of 24 pixels.  The call that
finishes a gesture gives out one detent for any remainder above 3 pixels, and forgets the rest.

* `scrollSteps`, of the Hyprland backend, beside `takeScrollDetents` of the other.
* `Scrolling`, `scrollCalls`: what a sequence of calls has given out, and what remains.
* `Conserves`: less than a detent is missing at every point.
* `detents_remainder`, `calls_unfinished`: one call, and the calls before the last.
* `detents_lost`: a last delta of 100 pixels gives one detent.
* `gesture_iff`: when a gesture loses no detent.
-/

namespace Waypad

/-- `f64::trunc`. -/
def truncCoord (x : ℚ) : ℤ := if 0 ≤ x then ⌊x⌋ else -⌊-x⌋

/-- `as i32` of an `f64`: it saturates. -/
def asI32 (x : ℤ) : ℤ := max (-2147483648) (min x 2147483647)

/-- `scroll_steps`. -/
def scrollSteps (remainder : ℚ) (finish : Bool) : ℤ × ℚ :=
  if finish ∧ 3 < |remainder| then (if 0 < remainder then 1 else -1, 0)
  else
    let steps := asI32 (truncCoord (remainder / 24))
    (steps, remainder - steps * 24)

/-! ## One call -/

theorem truncCoord_near (x : ℚ) : |x - truncCoord x| < 1 := by
  unfold truncCoord
  split
  · have hle := Int.floor_le x
    have hlt := Int.lt_floor_add_one x
    rw [abs_lt]
    constructor <;> linarith
  · have hle := Int.floor_le (-x)
    have hlt := Int.lt_floor_add_one (-x)
    push_cast
    rw [abs_lt]
    constructor <;> linarith

theorem abs_truncCoord_le (x : ℚ) : |(truncCoord x : ℚ)| ≤ |x| := by
  unfold truncCoord
  split
  · next hx =>
    have hfloor : (0 : ℚ) ≤ ⌊x⌋ := by exact_mod_cast Int.floor_nonneg.mpr hx
    rw [abs_of_nonneg hx, abs_of_nonneg hfloor]
    exact Int.floor_le x
  · next hx =>
    have hneg : 0 ≤ -x := by linarith
    have hfloor : (0 : ℚ) ≤ ⌊-x⌋ := by exact_mod_cast Int.floor_nonneg.mpr hneg
    push_cast
    rw [abs_neg, abs_of_nonneg hfloor, ← abs_neg x, abs_of_nonneg hneg]
    exact Int.floor_le (-x)

/-- The whole detents of a remainder. -/
theorem takeScrollDetents_eq (remainder : ℚ) (finish : Bool) :
    takeScrollDetents remainder finish =
      if finish ∧ 3 < |remainder| then (if 0 < remainder then 1 else -1, 0)
      else (truncCoord (remainder / 24), remainder - truncCoord (remainder / 24) * 24) := by
  have hsign : 0 ≤ remainder / 24 ↔ 0 ≤ remainder := by
    constructor <;> intro h <;> linarith
  have hthreshold : (24 : ℚ) / 8 = 3 := by norm_num
  unfold takeScrollDetents truncCoord
  rw [hthreshold]
  simp only [hsign, neg_div]

/-- The count fits into an `i32`. -/
theorem asI32_trunc {remainder : ℚ} (h : |remainder| < 10024) :
    asI32 (truncCoord (remainder / 24)) = truncCoord (remainder / 24) := by
  have hle := abs_truncCoord_le (remainder / 24)
  have hbound : |remainder / 24| < 418 := by
    rw [abs_div]
    norm_num
    linarith
  have hlt : |(truncCoord (remainder / 24) : ℚ)| < 418 := by linarith
  rw [abs_lt] at hlt
  have hlow : -418 < truncCoord (remainder / 24) := by exact_mod_cast hlt.1
  have hhigh : truncCoord (remainder / 24) < 418 := by exact_mod_cast hlt.2
  unfold asI32
  omega

/-- Both functions do the same. -/
theorem scrollSteps_eq {remainder : ℚ} (h : |remainder| < 10024) (finish : Bool) :
    scrollSteps remainder finish = takeScrollDetents remainder finish := by
  rw [takeScrollDetents_eq, scrollSteps]
  simp only [asI32_trunc h]

/-- What remains is less than a detent. -/
theorem detents_remainder (remainder : ℚ) (finish : Bool) : |(takeScrollDetents remainder finish).2| < 24 := by
  rw [takeScrollDetents_eq]
  split
  · norm_num
  · have hnear := truncCoord_near (remainder / 24)
    rw [abs_lt] at hnear ⊢
    constructor <;> linarith [hnear.1, hnear.2]

/-- A call that does not finish gives out what it takes. -/
theorem detents_unfinished (remainder : ℚ) :
    24 * ((takeScrollDetents remainder false).1 : ℚ) + (takeScrollDetents remainder false).2 = remainder := by
  rw [takeScrollDetents_eq, if_neg (by simp)]
  ring

/-- The call that finishes is off by less than a detent, unless two detents or more are left. -/
theorem detents_finished (remainder : ℚ) :
    |24 * ((takeScrollDetents remainder true).1 : ℚ) - remainder| < 24 ↔ |remainder| < 48 := by
  rw [takeScrollDetents_eq]
  split
  · -- a last step in the direction of the remainder
    next hfinish =>
    obtain ⟨-, hlarge⟩ := hfinish
    split
    · next hpos =>
      rw [abs_of_pos hpos] at hlarge ⊢
      rw [abs_lt]
      push_cast
      constructor
      · intro hnear
        linarith [hnear.1, hnear.2]
      · intro hlt
        constructor <;> linarith
    · next hneg =>
      have hle : remainder ≤ 0 := not_lt.mp hneg
      rw [abs_of_nonpos hle] at hlarge ⊢
      rw [abs_lt]
      push_cast
      constructor
      · intro hnear
        linarith [hnear.1, hnear.2]
      · intro hlt
        constructor <;> linarith
  · -- at most three left: the nearest detent towards zero
    next hsmall =>
    have hle : |remainder| ≤ 3 := by
      by_contra hgt
      exact hsmall ⟨rfl, not_le.mp hgt⟩
    have hnear := truncCoord_near (remainder / 24)
    refine iff_of_true ?_ (by linarith)
    rw [abs_lt] at hnear ⊢
    constructor <;> linarith [hnear.1, hnear.2]

/-! ## A sequence of calls -/

structure ScrollCall where
  delta : ℚ
  finish : Bool
  deriving DecidableEq, Repr

/-- What the calls have given out, and what remains. -/
structure Scrolling where
  given : ℤ
  remainder : ℚ
  deriving DecidableEq, Repr

/-- One axis of `scroll`: the delta is added to the remainder first. -/
def scrollCall (scroll : ℚ → Bool → ℤ × ℚ) (s : Scrolling) (call : ScrollCall) : Scrolling :=
  { given := s.given + (scroll (s.remainder + call.delta) call.finish).1
    remainder := (scroll (s.remainder + call.delta) call.finish).2 }

def scrollCalls (scroll : ℚ → Bool → ℤ × ℚ) (s : Scrolling) (calls : List ScrollCall) : Scrolling :=
  calls.foldl (scrollCall scroll) s

/-- `validate_delta` has let the deltas pass. -/
def DeltasBounded (calls : List ScrollCall) : Prop := ∀ call ∈ calls, |call.delta| ≤ 10000

/-- A gesture starts, with what the calls before it have left. -/
def gestureStart (remainder : ℚ) : Scrolling := { given := 0, remainder }

/-- After any of the calls, less than a detent is missing from what has been given out. -/
def Conserves (scroll : ℚ → Bool → ℤ × ℚ) (remainder : ℚ) (calls : List ScrollCall) : Prop :=
  ∀ before after, calls = before ++ after →
    |24 * ((scrollCalls scroll (gestureStart remainder) before).given : ℚ) -
      (remainder + (before.map ScrollCall.delta).sum)| < 24

/-- The calls of a gesture before the last. -/
abbrev unfinished (deltas : List ℚ) : List ScrollCall := deltas.map (fun delta => ⟨delta, false⟩)

/-- A gesture: no call finishes it but the last, if that does. -/
def gesture (deltas : List ℚ) (last : ℚ) (finish : Bool) : List ScrollCall :=
  unfinished deltas ++ [⟨last, finish⟩]

section Calls

variable {s : Scrolling} {calls : List ScrollCall}

theorem calls_remainder (h : |s.remainder| < 24) (calls : List ScrollCall) :
    |(scrollCalls takeScrollDetents s calls).remainder| < 24 := by
  induction calls generalizing s with
  | nil => exact h
  | cons call calls ih => exact ih (detents_remainder _ _)

/-- **Both functions give out the same**, call by call. -/
theorem calls_eq (h : |s.remainder| < 24) (hbounded : DeltasBounded calls) :
    scrollCalls scrollSteps s calls = scrollCalls takeScrollDetents s calls := by
  induction calls generalizing s with
  | nil => rfl
  | cons call calls ih =>
    have hdelta := hbounded call List.mem_cons_self
    have hsum : |s.remainder + call.delta| < 10024 := by
      have htriangle := abs_add_le s.remainder call.delta
      linarith
    have hcall : scrollCall scrollSteps s call = scrollCall takeScrollDetents s call := by
      unfold scrollCall
      rw [scrollSteps_eq hsum]
    have htail : DeltasBounded calls := fun other hother => hbounded other (List.mem_cons_of_mem _ hother)
    show scrollCalls scrollSteps (scrollCall scrollSteps s call) calls = _
    rw [hcall]
    exact ih (detents_remainder _ _) htail

/-- Calls that do not finish give out what they take. -/
theorem calls_unfinished (hcalls : ∀ call ∈ calls, call.finish = false) :
    24 * ((scrollCalls takeScrollDetents s calls).given : ℚ) +
      (scrollCalls takeScrollDetents s calls).remainder =
    24 * (s.given : ℚ) + s.remainder + (calls.map ScrollCall.delta).sum := by
  induction calls generalizing s with
  | nil => simp [scrollCalls]
  | cons call calls ih =>
    have hfinish := hcalls call List.mem_cons_self
    have hone := detents_unfinished (s.remainder + call.delta)
    have hrest := @ih (scrollCall takeScrollDetents s call)
      (fun other hother => hcalls other (List.mem_cons_of_mem _ hother))
    show 24 * ((scrollCalls takeScrollDetents (scrollCall takeScrollDetents s call) calls).given : ℚ) +
      (scrollCalls takeScrollDetents (scrollCall takeScrollDetents s call) calls).remainder = _
    rw [hrest, List.map_cons, List.sum_cons]
    simp only [scrollCall, hfinish]
    push_cast
    linarith

/-- Before the last call of a gesture less than a detent is missing. -/
theorem unfinished_near {remainder : ℚ} (hstart : |remainder| < 24)
    (hcalls : ∀ call ∈ calls, call.finish = false) :
    |24 * ((scrollCalls takeScrollDetents (gestureStart remainder) calls).given : ℚ) -
      (remainder + (calls.map ScrollCall.delta).sum)| < 24 := by
  have hsum : 24 * ((scrollCalls takeScrollDetents (gestureStart remainder) calls).given : ℚ) +
      (scrollCalls takeScrollDetents (gestureStart remainder) calls).remainder =
      remainder + (calls.map ScrollCall.delta).sum := by
    rw [calls_unfinished hcalls]
    simp [gestureStart]
  have hsmall : |(scrollCalls takeScrollDetents (gestureStart remainder) calls).remainder| < 24 :=
    @calls_remainder (gestureStart remainder) hstart calls
  rw [← hsum, abs_lt]
  rw [abs_lt] at hsmall
  constructor <;> linarith [hsmall.1, hsmall.2]

end Calls

/-- What the last call of a gesture starts from. -/
def beforeLast (remainder : ℚ) (deltas : List ℚ) : ℚ :=
  (scrollCalls takeScrollDetents (gestureStart remainder) (unfinished deltas)).remainder

theorem unfinished_finish (deltas : List ℚ) : ∀ call ∈ unfinished deltas, call.finish = false := by
  intro call hcall
  obtain ⟨delta, -, rfl⟩ := List.mem_map.mp hcall
  rfl

/-- What is missing after the last call is what is missing of what that call finds. -/
theorem gesture_missing (remainder : ℚ) (deltas : List ℚ) (last : ℚ) (finish : Bool) :
    24 * ((scrollCalls takeScrollDetents (gestureStart remainder) (gesture deltas last finish)).given : ℚ) -
        (remainder + ((gesture deltas last finish).map ScrollCall.delta).sum) =
      24 * ((takeScrollDetents (beforeLast remainder deltas + last) finish).1 : ℚ) -
        (beforeLast remainder deltas + last) := by
  -- every call but the last conserves
  have hbefore := @calls_unfinished (gestureStart remainder) (unfinished deltas) (unfinished_finish deltas)
  have hcalls : scrollCalls takeScrollDetents (gestureStart remainder) (gesture deltas last finish) =
      scrollCall takeScrollDetents (scrollCalls takeScrollDetents (gestureStart remainder) (unfinished deltas))
        ⟨last, finish⟩ := by
    unfold scrollCalls gesture
    rw [List.foldl_append]
    rfl
  have hsum : ((gesture deltas last finish).map ScrollCall.delta).sum =
      ((unfinished deltas).map ScrollCall.delta).sum + last := by
    unfold gesture
    rw [List.map_append, List.sum_append]
    simp
  rw [hcalls, hsum]
  unfold beforeLast scrollCall
  simp only [gestureStart, Int.cast_zero, mul_zero, zero_add] at hbefore ⊢
  push_cast
  linarith

/-- The last call misses less than a detent exactly when it does not finish, or finds less than two. -/
theorem last_near (remainder : ℚ) (finish : Bool) :
    |24 * ((takeScrollDetents remainder finish).1 : ℚ) - remainder| < 24 ↔
      finish = false ∨ |remainder| < 48 := by
  cases finish with
  | true => simp [detents_finished]
  | false =>
    have hsplit := detents_unfinished remainder
    have hsmall := detents_remainder remainder false
    refine iff_of_true ?_ (Or.inl rfl)
    rw [abs_lt] at hsmall ⊢
    constructor <;> linarith [hsmall.1, hsmall.2]

/-- **A gesture** is conserved exactly when its last call does not finish it, or finds less than two
detents. -/
theorem conserves_gesture {remainder : ℚ} (hstart : |remainder| < 24) (deltas : List ℚ) (last : ℚ)
    (finish : Bool) :
    Conserves takeScrollDetents remainder (gesture deltas last finish) ↔
      finish = false ∨ |beforeLast remainder deltas + last| < 48 := by
  rw [← last_near, ← gesture_missing]
  refine ⟨fun h => h _ [] (List.append_nil _).symm, ?_⟩
  intro hlast before after hsplit
  rcases List.eq_nil_or_concat' after with rfl | ⟨rest, call, rfl⟩
  · rw [List.append_nil] at hsplit
    rw [← hsplit]
    exact hlast
  · rw [← List.append_assoc] at hsplit
    obtain ⟨hunfinished, -⟩ := List.append_inj' hsplit rfl
    refine unfinished_near hstart (fun other hother => unfinished_finish deltas other ?_)
    rw [hunfinished]
    exact List.mem_append_left _ hother

/-! ## A last delta of several detents -/

/-- **Detents are lost** when the last call of a gesture brings several. -/
theorem detents_lost : ¬ Conserves takeScrollDetents 0 (gesture [] 100 true) := by
  intro h
  have hlast := (conserves_gesture (by norm_num) [] 100 true).mp h
  norm_num [beforeLast, scrollCalls, gestureStart, abs_of_pos] at hlast

/-- **A scroll gesture**, after any calls before it: both functions give out the same at every point, and
less than a detent is ever missing, exactly when the last call does not finish the gesture or what remains
and the last delta make less than two detents. -/
theorem gesture_iff {earlier : List ScrollCall} {deltas : List ℚ} {last : ℚ} {finish : Bool} {remainder : ℚ}
    (hearlier : DeltasBounded earlier) (hgesture : DeltasBounded (gesture deltas last finish))
    (hremainder : remainder = (scrollCalls takeScrollDetents (gestureStart 0) earlier).remainder) :
    (Conserves takeScrollDetents remainder (gesture deltas last finish) ∧
      Conserves scrollSteps remainder (gesture deltas last finish) ∧
      (scrollCalls scrollSteps (gestureStart 0) earlier).remainder = remainder ∧
      ∀ before after, gesture deltas last finish = before ++ after →
        scrollCalls scrollSteps (gestureStart remainder) before =
          scrollCalls takeScrollDetents (gestureStart remainder) before) ↔
    finish = false ∨ |beforeLast remainder deltas + last| < 48 := by
  have hzero : |(gestureStart 0).remainder| < 24 := by norm_num [gestureStart]
  have hstart : |remainder| < 24 := hremainder ▸ calls_remainder hzero earlier
  have hsame : ∀ before after, gesture deltas last finish = before ++ after →
      scrollCalls scrollSteps (gestureStart remainder) before =
        scrollCalls takeScrollDetents (gestureStart remainder) before := by
    intro before after hsplit
    refine calls_eq hstart (fun call hcall => hgesture call ?_)
    rw [hsplit]
    exact List.mem_append_left _ hcall
  rw [← conserves_gesture hstart]
  refine ⟨And.left, fun h => ⟨h, ?_, ?_, hsame⟩⟩
  · intro before after hsplit
    rw [hsame before after hsplit]
    exact h before after hsplit
  · rw [calls_eq hzero hearlier, hremainder]

/-- A wheel is turned back and forth, and then let go. -/
theorem gesture_demo : Conserves takeScrollDetents 0 (gesture [100, -30] 20 true) ∧
    Conserves scrollSteps 0 (gesture [100, -30] 20 true) := by
  have hbounded : DeltasBounded (gesture [100, -30] 20 true) := by
    intro call hcall
    simp only [gesture, List.map_cons, List.map_nil, List.cons_append, List.nil_append, List.mem_cons,
      List.not_mem_nil, or_false] at hcall
    rcases hcall with rfl | rfl | rfl <;> norm_num
  have hlast : |beforeLast 0 [100, -30] + 20| < 48 := by
    norm_num [beforeLast, scrollCalls, scrollCall, gestureStart, takeScrollDetents_eq, truncCoord, abs_lt]
  have h := (@gesture_iff [] _ _ _ _ nofun hbounded rfl).mpr (Or.inr hlast)
  exact ⟨h.1, h.2.1⟩

end Waypad
