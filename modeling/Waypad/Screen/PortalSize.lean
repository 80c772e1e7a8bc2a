import Mathlib.Data.Rat.Floor
import Waypad.Input.Uinput
import Waypad.Screen.Producer

/-!
# Waypad.Screen.PortalSize — the size of the H.264 picture (`run_portal_stream` of `src/screen.rs`)

The client may limit the width and the height.  The picture is scaled down to the limits, though never
below a tenth, and not at all for the last thousandth; what has been scaled is made even for the encoder.
The scale is a rational.

* `captureScale`, `targetDimensions`, `evenDimension`, `portalPipeline`: as in the source.
* `encodedSize`: what the caps pin, or the size of the source.
* `Negotiable`: even, within the limits, and announced.
* `odd_encoded`: a source of odd width is encoded as it is.
* `negotiable_iff`: which sizes are negotiable.
-/

namespace Waypad

/-- A limit of the client, as `start_stream` passes it on. -/
def clampLimit (value : UInt32) : UInt32 := max 480 (min value 3840)

/-- `width_scale` and `height_scale`. -/
def limitScale (limit : Option UInt32) (size : UInt32) : ℚ :=
  ((limit.filter (fun _ => 0 < size)).map (fun value => (value.toNat : ℚ) / size.toNat)).getD 1

/-- `capture_scale`. -/
def captureScale (width height : UInt32) (maxWidth maxHeight : Option UInt32) : ℚ :=
  max (min (min (limitScale maxWidth width) (limitScale maxHeight height)) 1) (1 / 10)

/-- One dimension of `target_dimensions`. -/
def scaledDimension (size : UInt32) (scale : ℚ) : UInt32 :=
  UInt32.ofNat (max (roundCoord (size.toNat * scale)) 2).toNat

/-- `target_dimensions`. -/
def targetDimensions (width height : UInt32) (maxWidth maxHeight : Option UInt32) :
    Option UInt32 × Option UInt32 :=
  if width = 0 ∨ height = 0 then (none, none)
  else
    let scale := captureScale width height maxWidth maxHeight
    if 999 / 1000 ≤ scale then (none, none)
    else (some (scaledDimension width scale), some (scaledDimension height scale))

/-- `even_dimension`. -/
def evenDimension (value : UInt32) : UInt32 := max value 2 &&& ~~~(1 : UInt32)

/-- What `run_portal_stream` settles before it starts a producer. -/
structure PortalPipeline where
  encoding : PipelineEncoding
  targetWidth : Option UInt32
  targetHeight : Option UInt32
  geometry : FrameGeometry
  deriving DecidableEq, Repr

/-- The sizes in `run_portal_stream`; `encoder`: `detect_h264_encoder` has found one. -/
def portalPipeline (encoder : Bool) (width height : UInt32) (maxWidth maxHeight : Option UInt32) :
    PortalPipeline :=
  let (targetWidth, targetHeight) := targetDimensions width height maxWidth maxHeight
  let encoding := if encoder then PipelineEncoding.h264 else .jpeg
  let targetWidth := if encoder then targetWidth.map evenDimension else targetWidth
  let targetHeight := if encoder then targetHeight.map evenDimension else targetHeight
  { encoding, targetWidth, targetHeight
    geometry :=
      { width := targetWidth.getD width
        height := targetHeight.getD height
        sourceWidth := width
        sourceHeight := height } }

/-- The size in the caps of `gstreamer_pipeline_args`. -/
def capsSize (targetWidth targetHeight : Option UInt32) : Option (UInt32 × UInt32) :=
  match targetWidth, targetHeight with
  | some width, some height => some (width, height)
  | _, _ => none

/-- What is encoded: the size in the caps, or that of the source. -/
def PortalPipeline.encodedSize (self : PortalPipeline) (width height : UInt32) : UInt32 × UInt32 :=
  (capsSize self.targetWidth self.targetHeight).getD (width, height)

/-- The size is even, within the limits, and the one the frames announce. -/
structure Negotiable (maxWidth maxHeight : Option UInt32) (size : UInt32 × UInt32)
    (geometry : FrameGeometry) : Prop where
  even : Even size.1.toNat ∧ Even size.2.toNat
  width : ∀ limit, maxWidth = some limit → size.1.toNat ≤ limit.toNat
  height : ∀ limit, maxHeight = some limit → size.2.toNat ≤ limit.toNat
  announced : geometry.width = size.1 ∧ geometry.height = size.2

/-- The limit leaves the size as it is, up to the last thousandth. -/
def Unscaled (limit : Option UInt32) (size : UInt32) : Prop :=
  ∀ value, limit = some value → 999 * size.toNat ≤ 1000 * value.toNat

/-- The size is even and within the limit. -/
def FitsAsIs (limit : Option UInt32) (size : UInt32) : Prop :=
  Even size.toNat ∧ ∀ value, limit = some value → size.toNat ≤ value.toNat

/-- A tenth of the size is within the limit, once it has been rounded and made even. -/
def TenthFits (limit : Option UInt32) (size : UInt32) : Prop :=
  ∀ value, limit = some value → size.toNat < 10 * value.toNat + if Even value.toNat then 15 else 5

theorem unscaled_none (size : UInt32) : Unscaled none size := by
  intro value hvalue
  cases hvalue

/-! ## Arithmetic -/

/-- The last bit is cleared. -/
theorem and_not_one (x : UInt32) : (x &&& ~~~(1 : UInt32)).toNat = x.toNat / 2 * 2 := by
  have hbits : x.toBitVec &&& ~~~(1#32) = (x.toBitVec >>> 1) <<< 1 := by
    apply BitVec.eq_of_getLsbD_eq
    intro i hi
    rw [BitVec.getLsbD_and, BitVec.getLsbD_not, BitVec.getLsbD_shiftLeft, BitVec.getLsbD_ushiftRight,
      BitVec.getLsbD_one]
    by_cases h0 : i = 0
    · simp [h0]
    · have hone : 1 + (i - 1) = i := by omega
      simp [hi, h0, hone]
  have hlt := x.toNat_lt
  show (x.toBitVec &&& ~~~(1#32)).toNat = _
  rw [hbits, BitVec.toNat_shiftLeft, BitVec.toNat_ushiftRight, Nat.shiftLeft_eq, Nat.shiftRight_eq_div_pow]
  show x.toNat / 2 * 2 % 4294967296 = _
  omega

/-- `Ord::max` of two sizes. -/
theorem max_toNat (a b : UInt32) : (max a b).toNat = max a.toNat b.toNat := by
  have hmax : max a b = if a ≤ b then b else a := rfl
  rw [hmax]
  split
  · next h => exact (max_eq_right (UInt32.le_iff_toNat_le.mp h)).symm
  · next h =>
    have hlt : ¬ a.toNat ≤ b.toNat := fun hle => h (UInt32.le_iff_toNat_le.mpr hle)
    exact (max_eq_left (by omega)).symm

theorem evenDimension_toNat (value : UInt32) :
    (evenDimension value).toNat = max value.toNat 2 / 2 * 2 := by
  rw [evenDimension, and_not_one, max_toNat]
  rfl

theorem clampLimit_ge (value : UInt32) : 480 ≤ (clampLimit value).toNat := by
  rw [clampLimit, max_toNat]
  exact le_max_left _ _

/-- What has been scaled fits into 32 bits. -/
theorem scaledDimension_toNat {size : UInt32} {scale : ℚ} (h1 : scale ≤ 1) :
    (scaledDimension size scale).toNat = max (roundCoord (size.toNat * scale)).toNat 2 := by
  have hsize := size.toNat_lt
  have hle : (size.toNat : ℚ) * scale ≤ size.toNat := mul_le_of_le_one_right (by positivity) h1
  have hround : roundCoord (size.toNat * scale) ≤ size.toNat := Round.away_le hle
  rw [scaledDimension, UInt32.toNat_ofNat']
  omega

/-- What is encoded of a dimension that is scaled. -/
def encodedDimension (size : UInt32) (scale : ℚ) : UInt32 := evenDimension (scaledDimension size scale)

theorem encodedDimension_toNat {size : UInt32} {scale : ℚ} (h1 : scale ≤ 1) :
    (encodedDimension size scale).toNat =
      max (roundCoord (size.toNat * scale)).toNat 2 / 2 * 2 := by
  rw [encodedDimension, evenDimension_toNat, scaledDimension_toNat h1]
  omega

/-- Scaled down to the limit, a dimension is within it. -/
theorem encodedDimension_le {size value : UInt32} {scale : ℚ} (h1 : scale ≤ 1)
    (hvalue : 2 ≤ value.toNat) (hle : (size.toNat : ℚ) * scale ≤ value.toNat) :
    (encodedDimension size scale).toNat ≤ value.toNat := by
  have hround : roundCoord (size.toNat * scale) ≤ value.toNat := Round.away_le hle
  rw [encodedDimension_toNat h1]
  omega

/-- A tenth, rounded. -/
theorem roundCoord_tenth (n : ℕ) : roundCoord (n * (1 / 10)) = ((n + 5) / 10 : ℕ) := by
  have hmod := Nat.div_add_mod (n + 5) 10
  have hlt := Nat.mod_lt (n + 5) (by norm_num : 0 < 10)
  have hcast : (10 : ℚ) * ((n + 5) / 10 : ℕ) + ((n + 5) % 10 : ℕ) = n + 5 := by exact_mod_cast hmod
  have hsmall : (((n + 5) % 10 : ℕ) : ℚ) < 10 := by exact_mod_cast hlt
  have hbig : (0 : ℚ) ≤ ((n + 5) % 10 : ℕ) := by positivity
  rw [roundCoord_eq_away, Round.away_of_nonneg (by positivity), Int.floor_eq_iff, Int.cast_natCast]
  constructor <;> linarith

/-- A tenth of a dimension is within a limit, or not. -/
theorem encodedDimension_tenth {size value : UInt32} (hvalue : 2 ≤ value.toNat) :
    (encodedDimension size (1 / 10)).toNat ≤ value.toNat ↔
      size.toNat < 10 * value.toNat + if Even value.toNat then 15 else 5 := by
  rw [encodedDimension_toNat (by norm_num), roundCoord_tenth]
  split
  · next heven =>
    have hmod := Nat.even_iff.mp heven
    omega
  · next hodd =>
    have hmod := Nat.not_even_iff.mp hodd
    omega

/-! ## The scale -/

theorem limitScale_some {size value : UInt32} (hsize : 0 < size.toNat) :
    limitScale (some value) size = (value.toNat : ℚ) / size.toNat := by
  have hpos : 0 < size := UInt32.lt_iff_toNat_lt.mpr hsize
  rw [limitScale, Option.filter_some, if_pos (by simpa using hpos)]
  rfl

theorem unscaled_iff {limit : Option UInt32} {size : UInt32} (hsize : 0 < size.toNat) :
    999 / 1000 ≤ limitScale limit size ↔ Unscaled limit size := by
  cases limit with
  | none =>
    refine iff_of_true ?_ nofun
    show (999 : ℚ) / 1000 ≤ 1
    norm_num
  | some value =>
    have hpos : (0 : ℚ) < size.toNat := by exact_mod_cast hsize
    have hcast : (999 : ℚ) * size.toNat ≤ 1000 * value.toNat ↔
        999 * size.toNat ≤ 1000 * value.toNat := by exact_mod_cast Iff.rfl
    rw [limitScale_some hsize, le_div_iff₀ hpos]
    unfold Unscaled
    simp only [Option.some.injEq, forall_eq']
    rw [← hcast]
    constructor <;> intro h <;> linarith

section Scale

variable {width height : UInt32} {maxWidth maxHeight : Option UInt32}

theorem captureScale_ge (hwidth : 0 < width.toNat) (hheight : 0 < height.toNat) :
    999 / 1000 ≤ captureScale width height maxWidth maxHeight ↔
      Unscaled maxWidth width ∧ Unscaled maxHeight height := by
  have hone : (999 : ℚ) / 1000 ≤ 1 := by norm_num
  have htenth : ¬ (999 : ℚ) / 1000 ≤ 1 / 10 := by norm_num
  rw [← unscaled_iff hwidth, ← unscaled_iff hheight, captureScale, le_max_iff, le_min_iff, le_min_iff]
  tauto

/-- The scale is within both ratios, which are not below a tenth; or it is a tenth. -/
theorem captureScale_cases (width height : UInt32) (maxWidth maxHeight : Option UInt32) :
    (captureScale width height maxWidth maxHeight ≤ limitScale maxWidth width ∧
        captureScale width height maxWidth maxHeight ≤ limitScale maxHeight height) ∧
      1 / 10 ≤ limitScale maxWidth width ∧ 1 / 10 ≤ limitScale maxHeight height ∨
    captureScale width height maxWidth maxHeight = 1 / 10 := by
  unfold captureScale
  rcases le_total (1 / 10) (min (min (limitScale maxWidth width) (limitScale maxHeight height)) 1) with h | h
  · left
    rw [max_eq_left h]
    have hboth := h.trans (min_le_left _ _)
    have hmin := min_le_left (min (limitScale maxWidth width) (limitScale maxHeight height)) 1
    exact ⟨⟨hmin.trans (min_le_left _ _), hmin.trans (min_le_right _ _)⟩,
      hboth.trans (min_le_left _ _), hboth.trans (min_le_right _ _)⟩
  · right
    exact max_eq_right h

theorem captureScale_range (width height : UInt32) (maxWidth maxHeight : Option UInt32) :
    0 ≤ captureScale width height maxWidth maxHeight ∧ captureScale width height maxWidth maxHeight ≤ 1 :=
  ⟨le_trans (by norm_num) (le_max_right _ _), max_le (min_le_right _ _) (by norm_num)⟩

end Scale

/-- A dimension that has been scaled is within its limit exactly when a tenth of it would be. -/
theorem encodedDimension_within {size : UInt32} {limit : Option UInt32} {scale : ℚ} (hsize : 0 < size.toNat)
    (h0 : 0 ≤ scale) (h1 : scale ≤ 1) (hlimit : ∀ value, limit = some value → 2 ≤ value.toNat)
    (hscale : scale ≤ limitScale limit size ∧ 1 / 10 ≤ limitScale limit size ∨ scale = 1 / 10) :
    (∀ value, limit = some value → (encodedDimension size scale).toNat ≤ value.toNat) ↔
      TenthFits limit size := by
  refine forall_congr' (fun value => imp_congr_right (fun hvalue => ?_))
  have htwo := hlimit value hvalue
  rcases hscale with ⟨hle, htenth⟩ | rfl
  · subst hvalue
    have hpos : (0 : ℚ) < size.toNat := by exact_mod_cast hsize
    rw [limitScale_some hsize, le_div_iff₀ hpos] at hle htenth
    have hten : size.toNat ≤ 10 * value.toNat := by
      have hcast : (size.toNat : ℚ) ≤ 10 * value.toNat := by linarith
      exact_mod_cast hcast
    refine iff_of_true (encodedDimension_le h1 htwo (by linarith)) ?_
    split <;> omega
  · exact encodedDimension_tenth htwo

/-! ## The picture -/

section Pipeline

variable {width height : UInt32} {maxWidth maxHeight : Option UInt32}

theorem targetDimensions_none (hwidth : 2 ≤ width.toNat) (hheight : 2 ≤ height.toNat)
    (hscale : Unscaled maxWidth width ∧ Unscaled maxHeight height) :
    targetDimensions width height maxWidth maxHeight = (none, none) := by
  unfold targetDimensions
  split
  · rfl
  · exact if_pos ((captureScale_ge (by omega) (by omega)).mpr hscale)

theorem targetDimensions_some (hwidth : 2 ≤ width.toNat) (hheight : 2 ≤ height.toNat)
    (hscale : ¬ (Unscaled maxWidth width ∧ Unscaled maxHeight height)) :
    targetDimensions width height maxWidth maxHeight =
      (some (scaledDimension width (captureScale width height maxWidth maxHeight)),
        some (scaledDimension height (captureScale width height maxWidth maxHeight))) := by
  have hzero : ¬ (width = 0 ∨ height = 0) := by
    rintro (rfl | rfl)
    · exact absurd hwidth (by decide)
    · exact absurd hheight (by decide)
  unfold targetDimensions
  rw [if_neg hzero]
  exact if_neg (fun hge => hscale ((captureScale_ge (by omega) (by omega)).mp hge))

/-- A picture that is not scaled is that of the source. -/
theorem negotiable_unscaled (hwidth : 2 ≤ width.toNat) (hheight : 2 ≤ height.toNat)
    (hscale : Unscaled maxWidth width ∧ Unscaled maxHeight height) :
    Negotiable maxWidth maxHeight
        ((portalPipeline true width height maxWidth maxHeight).encodedSize width height)
        (portalPipeline true width height maxWidth maxHeight).geometry ↔
      FitsAsIs maxWidth width ∧ FitsAsIs maxHeight height := by
  have hpipeline : portalPipeline true width height maxWidth maxHeight =
      { encoding := .h264, targetWidth := none, targetHeight := none
        geometry := ⟨width, height, width, height⟩ } := by
    unfold portalPipeline
    rw [targetDimensions_none hwidth hheight hscale]
    rfl
  rw [hpipeline]
  refine ⟨?_, ?_⟩
  · intro h
    exact ⟨⟨h.even.1, h.width⟩, h.even.2, h.height⟩
  · rintro ⟨⟨hevenWidth, hmaxWidth⟩, hevenHeight, hmaxHeight⟩
    exact { even := ⟨hevenWidth, hevenHeight⟩, width := hmaxWidth, height := hmaxHeight
            announced := ⟨rfl, rfl⟩ }

/-- A picture that is scaled is even, and announced. -/
theorem negotiable_scaled (hwidth : 2 ≤ width.toNat) (hheight : 2 ≤ height.toNat)
    (hmaxWidth : ∀ value, maxWidth = some value → 2 ≤ value.toNat)
    (hmaxHeight : ∀ value, maxHeight = some value → 2 ≤ value.toNat)
    (hscale : ¬ (Unscaled maxWidth width ∧ Unscaled maxHeight height)) :
    Negotiable maxWidth maxHeight
        ((portalPipeline true width height maxWidth maxHeight).encodedSize width height)
        (portalPipeline true width height maxWidth maxHeight).geometry ↔
      TenthFits maxWidth width ∧ TenthFits maxHeight height := by
  have hpipeline : portalPipeline true width height maxWidth maxHeight =
      { encoding := .h264
        targetWidth := some (encodedDimension width (captureScale width height maxWidth maxHeight))
        targetHeight := some (encodedDimension height (captureScale width height maxWidth maxHeight))
        geometry :=
          ⟨encodedDimension width (captureScale width height maxWidth maxHeight),
            encodedDimension height (captureScale width height maxWidth maxHeight), width, height⟩ } := by
    unfold portalPipeline
    rw [targetDimensions_some hwidth hheight hscale]
    rfl
  -- the scale is at least a tenth, so a limit below that is not met
  obtain ⟨h0, h1⟩ := captureScale_range width height maxWidth maxHeight
  have hcases := captureScale_cases width height maxWidth maxHeight
  rw [← encodedDimension_within (by omega) h0 h1 hmaxWidth (hcases.imp_left (fun h => ⟨h.1.1, h.2.1⟩)),
    ← encodedDimension_within (by omega) h0 h1 hmaxHeight (hcases.imp_left (fun h => ⟨h.1.2, h.2.2⟩)),
    hpipeline]
  have heven : ∀ size : UInt32,
      Even (encodedDimension size (captureScale width height maxWidth maxHeight)).toNat := by
    intro size
    rw [encodedDimension_toNat h1, Nat.even_iff]
    omega
  exact ⟨fun h => ⟨h.width, h.height⟩, fun h =>
    { even := ⟨heven width, heven height⟩, width := h.1, height := h.2, announced := ⟨rfl, rfl⟩ }⟩

end Pipeline

/-- When the size can be encoded: as it is, unless the limits ask for less; else scaled. -/
def SizeFits (maxWidth maxHeight : Option UInt32) (width height : UInt32) : Prop :=
  Unscaled maxWidth width ∧ Unscaled maxHeight height ∧
      FitsAsIs maxWidth width ∧ FitsAsIs maxHeight height ∨
    ¬ (Unscaled maxWidth width ∧ Unscaled maxHeight height) ∧
      TenthFits maxWidth width ∧ TenthFits maxHeight height

/-! ## Sizes the encoder does not take -/

/-- **An odd source** is encoded as it is. -/
theorem odd_source : (portalPipeline true 1365 768 none none).encodedSize 1365 768 = (1365, 768) := by
  rw [portalPipeline, targetDimensions_none (by decide) (by decide) ⟨unscaled_none _, unscaled_none _⟩]
  rfl

/-- And that is not even. -/
theorem odd_encoded : ¬ Negotiable none none
    ((portalPipeline true 1365 768 none none).encodedSize 1365 768)
    (portalPipeline true 1365 768 none none).geometry := by
  intro h
  have hodd := h.even.1
  rw [odd_source] at hodd
  exact absurd hodd (by decide)

/-- **The size of the H.264 picture**: for a source of at least 2 by 2 and the limits of any client, it is
even, within the limits and announced exactly when the source is so itself, where the limits leave it
unscaled, and else when a tenth of each dimension is within its limit. -/
theorem negotiable_iff {width height : UInt32} (hwidth : 2 ≤ width.toNat) (hheight : 2 ≤ height.toNat)
    (maxWidth maxHeight : Option UInt32) :
    Negotiable (maxWidth.map clampLimit) (maxHeight.map clampLimit)
        ((portalPipeline true width height (maxWidth.map clampLimit) (maxHeight.map clampLimit)).encodedSize
          width height)
        (portalPipeline true width height (maxWidth.map clampLimit) (maxHeight.map clampLimit)).geometry ↔
      SizeFits (maxWidth.map clampLimit) (maxHeight.map clampLimit) width height := by
  have hlimit : ∀ (limit : Option UInt32) (value : UInt32), limit.map clampLimit = some value →
      2 ≤ value.toNat := by
    intro limit value hvalue
    obtain ⟨raw, -, rfl⟩ := Option.map_eq_some_iff.mp hvalue
    have hclamp := clampLimit_ge raw
    omega
  unfold SizeFits
  -- unscaled the size is the one of the source, and scaled both are even
  by_cases hscale : Unscaled (maxWidth.map clampLimit) width ∧ Unscaled (maxHeight.map clampLimit) height
  · rw [negotiable_unscaled hwidth hheight hscale]
    refine ⟨fun h => Or.inl ⟨hscale.1, hscale.2, h⟩, ?_⟩
    rintro (⟨-, -, h⟩ | ⟨hnot, -⟩)
    · exact h
    · exact absurd hscale hnot
  · rw [negotiable_scaled hwidth hheight (hlimit maxWidth) (hlimit maxHeight) hscale]
    refine ⟨fun h => Or.inr ⟨hscale, h⟩, ?_⟩
    rintro (⟨hw, hh, -⟩ | ⟨-, h⟩)
    · exact absurd ⟨hw, hh⟩ hscale
    · exact h

/-- A large source is scaled to fit a phone. -/
theorem negotiable_demo : Negotiable (some 1280) (some 720)
    ((portalPipeline true 3841 2161 (some 1280) (some 720)).encodedSize 3841 2161)
    (portalPipeline true 3841 2161 (some 1280) (some 720)).geometry := by
  have hclamp : (some (1280 : UInt32)).map clampLimit = some 1280 ∧
      (some (720 : UInt32)).map clampLimit = some 720 := by decide
  have h := @negotiable_iff 3841 2161 (by decide) (by decide) (some 1280) (some 720)
  rw [hclamp.1, hclamp.2] at h
  refine h.mpr (Or.inr ⟨?_, ?_, ?_⟩)
  · rintro ⟨hwidth, -⟩
    exact absurd (hwidth 1280 rfl) (by decide)
  · rintro value hvalue
    obtain rfl := Option.some.inj hvalue
    decide
  · rintro value hvalue
    obtain rfl := Option.some.inj hvalue
    decide

end Waypad
