import Sp11Touch.L2Pipeline.HaloLaw
import Mathlib.Algebra.Order.Ring.Int
/-!
# The moments of an accepted component

At most 48 signals at columns below 68 and rows below 46: every product of
`g6ts_geometry_features` fits its type, no divisor is zero, and what it stores
is what it divided (`GeometryExact`). The major axis is no shorter than the
minor one, so feature 7 is at least one in Q12.
-/
namespace Sp11Touch
open CInt

/-- `trace` -/
def traceQ12 (m : Moments) : Int :=
  max 0 (centralMoment m m.sumXX m.sumX m.sumX + centralMoment m m.sumYY m.sumY m.sumY)

/-- The argument of `discriminant`'s root. -/
def rootArgument (m : Moments) : Int :=
  let delta := centralMoment m m.sumXX m.sumX m.sumX - centralMoment m m.sumYY m.sumY m.sumY
  let covariance := centralMoment m m.sumXY m.sumX m.sumY
  delta * delta + 4 * covariance * covariance

/-- `discriminant` -/
def discriminantQ12 (m : Moments) : Int := intSqrt64 (rootArgument m).toNat

theorem majorHalf_eq (m : Moments) : majorHalf m = (traceQ12 m + discriminantQ12 m).tdiv 2 := rfl

theorem minorHalf_eq (m : Moments) : minorHalf m =
    max 0 ((traceQ12 m - discriminantQ12 m).tdiv 2) := rfl

/-! ## The axes -/

theorem tdiv_two_mono {x y : Int} (h : x ≤ y) : x.tdiv 2 ≤ y.tdiv 2 := Int.tdiv_le_tdiv (by omega) h

/-- The major axis has the greater half under its root. -/
theorem minorHalf_le_majorHalf (m : Moments) : minorHalf m ≤ majorHalf m := by
  have htrace : 0 ≤ traceQ12 m := le_max_left _ _
  have hroot : 0 ≤ discriminantQ12 m := Int.natCast_nonneg _
  rw [majorHalf_eq, minorHalf_eq]
  refine max_le ?_ (tdiv_two_mono (by omega))
  exact Int.tdiv_nonneg (by omega) (by omega)

theorem rawAxisQ12_mono {x y : Int} (h : x ≤ y) : rawAxisQ12 x ≤ rawAxisQ12 y := by
  unfold rawAxisQ12 intSqrt64
  rw [Nat.shiftRight_eq_div_pow, Nat.shiftRight_eq_div_pow]
  refine Nat.div_le_div_right (Nat.mul_le_mul_right _ (Nat.sqrt_le_sqrt (Int.toNat_le_toNat ?_)))
  exact Int.mul_le_mul_of_nonneg_right h (by decide)

theorem square_le {x : Int} {k : Nat} (h : x.natAbs ≤ k) : 0 ≤ x * x ∧ x * x ≤ k * k := by
  have habs := Int.natAbs_mul_self (a := x)
  have hle : x.natAbs * x.natAbs ≤ k * k := Nat.mul_le_mul h h
  have hcast : ((x.natAbs * x.natAbs : Nat) : Int) ≤ ((k * k : Nat) : Int) := Int.ofNat_le.mpr hle
  rw [habs, Int.natCast_mul] at hcast
  exact ⟨mul_self_nonneg x, hcast⟩

/-- What the discriminant takes the root of, and the root. -/
theorem MomentBounds.root {m : Moments} (h : MomentBounds m) :
    0 ≤ rootArgument m ∧ rootArgument m ≤ 1321928790900736 ∧ discriminantQ12 m ≤ 36358338 := by
  have hx := h.varX
  have hy := h.varY
  have hdelta := square_le (x := centralMoment m m.sumXX m.sumX m.sumX - centralMoment m m.sumYY
    m.sumY m.sumY) (k := 26681344)
    (by omega)
  have hcov := square_le h.covariance
  have hbound : 0 ≤ rootArgument m ∧ rootArgument m ≤ 1321928790900736 := by
    have h4 : 4 * centralMoment m m.sumXY m.sumX m.sumY * centralMoment m m.sumXY m.sumX m.sumY =
        4 * (centralMoment m m.sumXY m.sumX m.sumY * centralMoment m m.sumXY m.sumX m.sumY) := by
        ring
    unfold rootArgument
    simp only
    rw [h4]
    omega
  refine ⟨hbound.1, hbound.2, ?_⟩
  have hsqrt : intSqrt64 (rootArgument m).toNat < 36358339 := Nat.sqrt_lt.mpr (by omega)
  unfold discriminantQ12
  omega

theorem MomentBounds.trace {m : Moments} (h : MomentBounds m) : 0 ≤ traceQ12 m ∧
    traceQ12 m ≤ 26681344 := by
  have hx := h.varX
  have hy := h.varY
  exact ⟨le_max_left _ _, max_le (by omega) (by omega)⟩

/-- What the major axis takes the root of, and what it stores. -/
theorem MomentBounds.major {m : Moments} (h : MomentBounds m) :
    0 ≤ majorHalf m ∧ majorHalf m ≤ 31519841 ∧ intSqrt64 (majorHalf m * oneQ12).toNat < 2 ^ 19 ∧
      rawAxisQ12 (majorHalf m) < 2 ^ 22 := by
  have htrace := h.trace
  have hroot := h.root.2.2
  have hpos : 0 ≤ discriminantQ12 m := Int.natCast_nonneg _
  have hhalf : majorHalf m ≤ 31519841 := by
    rw [majorHalf_eq]
    exact tdiv_two_le (by omega)
  have hnonneg : 0 ≤ majorHalf m := by
    rw [majorHalf_eq]
    exact Int.tdiv_nonneg (by omega) (by omega)
  have hsqrt : intSqrt64 (majorHalf m * oneQ12).toNat < 2 ^ 19 := by
    refine Nat.sqrt_lt.mpr ?_
    simp only [oneQ12, classifierShift]
    omega
  refine ⟨hnonneg, hhalf, hsqrt, ?_⟩
  unfold rawAxisQ12 axisScaleQ12 classifierShift
  rw [Nat.shiftRight_eq_div_pow]
  omega

/-! ## Features 7 and 8 -/

theorem geometryFeatures_eight {ts : Heat} (contact : Contact) (h : (momentSums ts).sum ≠ 0) :
    (geometryFeatures ts contact).featuresQ12 8 = if contact.pixels < 2 then (oneQ12 : Int) else
      s32 ((traceQ12 (momentSums ts) * spreadScaleQ12).tdiv
        (u32 (oneQ12 * (contact.pixels - 1)))) := by
  rw [geometryFeatures_eq contact h]
  simp [setFeature, traceQ12]

/-- Where the major axis is no shorter, its quotient by the minor one is at least one. -/
theorem axis_ratio_ge {major minor : Nat} (hpos : 0 < minor) (h : minor ≤ major) :
    oneQ12 ≤ major * oneQ12 / minor := by
  rw [Nat.le_div_iff_mul_le hpos, Nat.mul_comm oneQ12]
  exact Nat.mul_le_mul_right oneQ12 h

/-- The minor axis is at least one, so the quotient is no more than the major one. -/
theorem axis_ratio_le {major minor : Nat} (h : oneQ12 ≤ minor) :
    major * oneQ12 / minor ≤ major := by
  refine Nat.div_le_of_le_mul ?_
  rw [Nat.mul_comm]
  exact Nat.mul_le_mul_right _ h

/-- A flagged cell with a signal is counted. -/
theorem momentSums_pos {ts : Heat} {cell : Nat} (hlt : cell < heatSamples)
    (hc : ts.heatComponent cell = true)
    (hs : 0 < signalQ12 (ts.value cell)) : (momentSums ts).sum ≠ 0 := by
  have hloop : cell < heatSamples → (momentSums ts).sum ≠ 0 := by
    refine loop_ind (fun k (m : Moments) => cell < k → m.sum ≠ 0)
      (fun h => absurd h (Nat.not_lt_zero cell)) fun k m _ ih hk => ?_
    unfold momentsStep
    by_cases he : cell = k
    · subst he
      simp only [hc, Bool.not_true, Bool.false_eq_true, if_false, if_neg (not_le.mpr hs)]
      omega
    · have hold := ih (by omega)
      split
      · exact hold
      · simp only
        split
        · exact hold
        · simp only
          omega
  exact hloop hlt

namespace Accepted
variable {prof : Profile} {ts : Heat} (a : Accepted prof ts)

/-- The moments of the component. -/
def moments : Moments := momentSums a.haloHeat

/-- The contact the geometry is computed for. -/
def passedContact : Contact := (secondaryFeatures a.heat
    (peakedContact prof a.heat (locateContact a.contact))).2

theorem passedContact_box : SameBox a.passedContact a.contact :=
  (SameBox.of_place (secondaryFeatures_place _ _)).trans a.peaked

theorem shaped_geometry {k : Nat} (hk : k ≠ 9) :
    a.shaped.featuresQ12 k = (geometryFeatures a.haloHeat a.passedContact).featuresQ12 k := by
  unfold shaped
  rw [shapeContact_eq]
  show (classifyContact prof (featuredContact prof a.heat (locateContact a.contact))).1.featuresQ12
    k = _
  rw [classifyContact_features]
  simp only [featuredContact, setFeature, Function.update_of_ne hk]
  rfl

theorem moments_in : MomentsIn (flaggedBelow a.haloHeat heatSamples) a.moments :=
  momentSums_in a.haloHeat

theorem flagged_le : flaggedBelow a.haloHeat heatSamples ≤ heatPalmPixels := by
  refine Nat.le_trans (flaggedBelow_le heatSamples fun cell hc => ?_) a.passes.pixels
  rw [a.haloHeat_fields.2] at hc
  exact a.flags.mp hc

theorem moments_sum : a.moments.sum ≠ 0 := by
  obtain ⟨cell, hc, heq⟩ := a.exact.peak.1
  refine momentSums_pos (a.cell_lt hc) ?_ ?_
  · rw [a.haloHeat_fields.2]
    exact a.flags.mpr hc
  · rw [a.haloHeat_fields.1, a.value, heq]
    exact a.peak_pos

end Accepted

/-- Every sum and product under the moments, and every store, of an accepted component. -/
structure GeometryExact {prof : Profile} {ts : Heat} (a : Accepted prof ts) : Prop where
  sum : 0 < a.moments.sum ∧ a.moments.sum ≤ 78624
  sums : a.moments.sumX < 2 ^ 64 ∧ a.moments.sumY < 2 ^ 64 ∧ a.moments.sumXX < 2 ^ 64 ∧
    a.moments.sumYY < 2 ^ 64 ∧
    a.moments.sumXY < 2 ^ 64
  products : a.moments.sumXX * a.moments.sum < 2 ^ 63 ∧ a.moments.sumX * a.moments.sumX < 2 ^ 63 ∧
    a.moments.sumYY * a.moments.sum < 2 ^ 63 ∧ a.moments.sumY * a.moments.sumY < 2 ^ 63 ∧
    a.moments.sumXY * a.moments.sum < 2 ^ 63 ∧ a.moments.sumX * a.moments.sumY < 2 ^ 63
  fits : GeometryFits a.moments a.contact.pixels
  root : 0 ≤ rootArgument a.moments ∧ rootArgument a.moments < 2 ^ 63 ∧
    discriminantQ12 a.moments < 2 ^ 32
  trace : 0 ≤ traceQ12 a.moments ∧ traceQ12 a.moments * spreadScaleQ12 < 2 ^ 63
  halves : 0 ≤ minorHalf a.moments ∧ minorHalf a.moments ≤ majorHalf a.moments ∧
    majorHalf a.moments * oneQ12 < 2 ^ 63
  major : intSqrt64 (majorHalf a.moments * oneQ12).toNat * axisScaleQ12 < 2 ^ 64 ∧
    axisQ12 (majorHalf a.moments) = max oneQ12 (rawAxisQ12 (majorHalf a.moments)) ∧
    axisQ12 (majorHalf a.moments) * oneQ12 < 2 ^ 64
  seven : a.shaped.featuresQ12 7 = (axisQ12 (majorHalf a.moments) * oneQ12 / axisQ12
    (minorHalf a.moments) : Nat)
  ratio : 4096 ≤ a.shaped.featuresQ12 7
  eight : 2 ≤ a.contact.pixels → a.shaped.featuresQ12 8 =
    traceQ12 a.moments * spreadScaleQ12 / (oneQ12 * (a.contact.pixels - 1) : Nat)

theorem MomentsIn.sums {n : Nat} {m : Moments} (h : MomentsIn n m) (hn : n ≤ heatPalmPixels) :
    m.sumX < 2 ^ 64 ∧ m.sumY < 2 ^ 64 ∧ m.sumXX < 2 ^ 64 ∧ m.sumYY < 2 ^ 64 ∧ m.sumXY < 2 ^ 64 := by
  have hsum := h.sum_le hn
  have hx := h.x
  have hy := h.y
  have hxx := h.xx
  have hyy := h.yy
  have hxy := h.xy
  exact ⟨by omega, by omega, by omega, by omega, by omega⟩

theorem MomentsIn.products {n : Nat} {m : Moments} (h : MomentsIn n m) (hn : n ≤ heatPalmPixels) :
    m.sumXX * m.sum < 2 ^ 63 ∧ m.sumX * m.sumX < 2 ^ 63 ∧ m.sumYY * m.sum < 2 ^ 63 ∧
    m.sumY * m.sumY < 2 ^ 63 ∧
      m.sumXY * m.sum < 2 ^ 63 ∧ m.sumX * m.sumY < 2 ^ 63 := by
  have hsum := h.sum_le hn
  have hx := h.x
  have hy := h.y
  have hxx := h.xx
  have hyy := h.yy
  have hxy := h.xy
  have hprod : ∀ {b c : Nat}, b ≤ 4489 * 78624 → c ≤ 67 * 78624 → b * c < 2 ^ 63 := fun hb hc =>
    Nat.lt_of_le_of_lt (Nat.mul_le_mul hb hc) (by decide)
  refine ⟨?_, ?_, ?_, ?_, ?_, ?_⟩ <;> exact hprod (by omega) (by omega)

/-- The major axis is stored as it is. -/
theorem MomentBounds.majorAxis {m : Moments} (h : MomentBounds m) :
    axisQ12 (majorHalf m) = max oneQ12 (rawAxisQ12 (majorHalf m)) ∧
    axisQ12 (majorHalf m) < 2 ^ 22 := by
  obtain ⟨_, _, _, hraw⟩ := h.major
  have hraw32 : rawAxisQ12 (majorHalf m) < 2 ^ 32 := by omega
  have heq : axisQ12 (majorHalf m) = max oneQ12 (rawAxisQ12 (majorHalf m)) :=
    congrArg (max oneQ12) (u32_eq hraw32)
  refine ⟨heq, ?_⟩
  rw [heq]
  exact max_lt (by decide) hraw

/-- Neither axis is below one, and the minor one is no longer than the major one. -/
theorem MomentBounds.axes {m : Moments} (h : MomentBounds m)
    (hminor : axisQ12 (minorHalf m) = max oneQ12 (rawAxisQ12 (minorHalf m))) :
    oneQ12 ≤ axisQ12 (minorHalf m) ∧ axisQ12 (minorHalf m) ≤ axisQ12 (majorHalf m) := by
  rw [hminor, h.majorAxis.1]
  exact ⟨le_max_left _ _, max_le_max (Nat.le_refl _) (rawAxisQ12_mono (minorHalf_le_majorHalf m))⟩

section
variable {prof : Profile} {ts : Heat} (a : Accepted prof ts)

theorem geometry_seven : a.shaped.featuresQ12 7 =
    (axisQ12 (majorHalf a.moments) * oneQ12 / axisQ12 (minorHalf a.moments) : Nat) := by
  have hminor := (a.moments_in.fits a.flagged_le a.pixels_le a.moments_sum).minor
  have haxes := a.moments_in.bounds.axes hminor.2
  have hquot := Nat.lt_of_le_of_lt (axis_ratio_le haxes.1) a.moments_in.bounds.majorAxis.2
  have h7 := geometryFeatures_seven a.passedContact a.moments_sum
  rw [show momentSums a.haloHeat = a.moments from rfl, divU64_eq _ hminor.1] at h7
  rw [a.shaped_geometry (by decide), h7]
  generalize axisQ12 (majorHalf a.moments) * oneQ12 / axisQ12 (minorHalf a.moments) =
    quot at hquot ⊢
  exact s32_eq (by omega) (by omega)

theorem geometry_eight (hp : 2 ≤ a.contact.pixels) : a.shaped.featuresQ12 8 =
    traceQ12 a.moments * spreadScaleQ12 / (oneQ12 * (a.contact.pixels - 1) : Nat) := by
  have htrace := a.moments_in.bounds.trace
  have hsamples := (a.moments_in.fits a.flagged_le a.pixels_le a.moments_sum).samples hp
  have hpixels := a.passedContact_box.pixels
  have hone : oneQ12 ≤ oneQ12 * (a.contact.pixels - 1) := Nat.le_mul_of_pos_right oneQ12 (by omega)
  rw [a.shaped_geometry (by decide), geometryFeatures_eight a.passedContact a.moments_sum,
    if_neg (by omega), hpixels,
    u32_eq hsamples.2, show momentSums a.haloHeat = a.moments from rfl,
    Int.tdiv_eq_ediv_of_nonneg (Int.mul_nonneg htrace.1 (by decide))]
  generalize oneQ12 * (a.contact.pixels - 1) = d at hone hsamples ⊢
  have hhigh : traceQ12 a.moments * spreadScaleQ12 / (d : Int) < 2 ^ 31 := by
    refine Int.ediv_lt_of_lt_mul (by omega) ?_
    simp only [spreadScaleQ12, oneQ12, classifierShift] at hone ⊢
    omega
  have hlow : 0 ≤ traceQ12 a.moments * spreadScaleQ12 / (d : Int) :=
    Int.ediv_nonneg (Int.mul_nonneg htrace.1 (by decide)) (Int.natCast_nonneg d)
  exact s32_eq (by omega) hhigh

theorem geometryExact : GeometryExact a := by
  have hin := a.moments_in
  have hfits := hin.fits a.flagged_le a.pixels_le a.moments_sum
  have hbounds := hin.bounds
  have htrace := hbounds.trace
  have hroot := hbounds.root
  obtain ⟨_, hmajor, hsqrt, _⟩ := hbounds.major
  obtain ⟨hmajorAxis, haxis⟩ := hbounds.majorAxis
  have haxes := hbounds.axes hfits.minor.2
  refine ⟨⟨Nat.pos_of_ne_zero a.moments_sum, hin.sum_le a.flagged_le⟩, hin.sums a.flagged_le,
    hin.products a.flagged_le, hfits,
    ⟨hroot.1, by omega, by omega⟩, ⟨htrace.1, ?_⟩, ⟨le_max_left _ _, minorHalf_le_majorHalf _, ?_⟩,
      ⟨?_, hmajorAxis, ?_⟩,
    geometry_seven a, ?_, geometry_eight a⟩
  · simp only [spreadScaleQ12]
    omega
  · simp only [oneQ12, classifierShift]
    omega
  · simp only [axisScaleQ12]
    omega
  · simp only [oneQ12, classifierShift]
    omega
  · rw [geometry_seven]
    exact Int.ofNat_le.mpr (axis_ratio_ge hfits.minor.1.pos haxes.2)

end

end Sp11Touch
