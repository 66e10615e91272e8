import Sp11Touch.L2Pipeline.ClassScores
import Sp11Touch.L2Pipeline.GeometryLaw
import Mathlib.Algebra.Order.BigOperators.Group.Finset
import Mathlib.Algebra.Order.Ring.Abs
/-!
# The range of the features

`featureMax` bounds each of the ten features of an accepted component
(`Accepted.inRange`). On features in this range no row of a transform and no
squared length leaves its type, in any of the four classes
(`inRange_fits`): the bounds of the rows are added up from the tables.
-/
namespace Sp11Touch
open CInt Region

theorem sumRange_le {n : Nat} {f g : Nat → Int} (h : ∀ k, k < n → f k ≤ g k) :
    sumRange n f ≤ sumRange n g := by
  induction n with
  | zero => exact Int.le_refl _
  | succ n ih =>
    rw [sumRange_succ, sumRange_succ]
    exact Int.add_le_add (ih fun k hk => h k (Nat.lt_succ_of_lt hk)) (h n (Nat.lt_succ_self n))

theorem sumRange_neg (n : Nat) (f : Nat → Int) : sumRange n (fun k => -f k) = -sumRange n f := by
  induction n with
  | zero => rfl
  | succ n ih => rw [sumRange_succ, sumRange_succ, ih, Int.neg_add]

/-- A sum is no greater than the sum of the bounds, either way. -/
theorem sumRange_bounds {n : Nat} {f g : Nat → Int} (h : ∀ k, k < n → -g k ≤ f k ∧ f k ≤ g k) :
    -sumRange n g ≤ sumRange n f ∧ sumRange n f ≤ sumRange n g := by
  refine ⟨?_, sumRange_le fun k hk => (h k hk).2⟩
  rw [← sumRange_neg]
  exact sumRange_le fun k hk => (h k hk).1

/-! ## Rows and distances of bounded residuals -/

namespace ClassifierModel
variable {m : ClassifierModel} {features : Nat → Int} {high : Nat → Nat}

/-- The bound of a row when each residual is at most `high`. -/
def rowMax (m : ClassifierModel) (high : Nat → Nat) (row : Nat) : Int :=
  sumRange (featureCount - row) (fun k => (high (row + k) : Int) *
    (m.transform row (row + k)).natAbs) / 2 ^ classifierShift + 1

/-- The bounds of the rows and of the squared length lie in their types. -/
def RangeFits (m : ClassifierModel) (high : Nat → Nat) : Prop :=
  (∀ row, row < featureCount → m.rowMax high row ≤ intMax) ∧
    sumRange featureCount (fun row => m.rowMax high row * m.rowMax high row) < s64Max

instance : Decidable (m.RangeFits high) := by
  unfold RangeFits
  infer_instance

theorem rowQ12_bounds (h : ∀ col, col < featureCount → (m.residual features col).natAbs ≤ high col)
    (row : Nat) :
    -m.rowMax high row ≤ m.rowQ12 features row ∧ m.rowQ12 features row ≤ m.rowMax high row := by
  have hsum := sumRange_bounds (n := featureCount - row)
    (f := fun k => m.residual features (row + k) * m.transform row (row + k))
    (g := fun k => (high (row + k) : Int) * (m.transform row (row + k)).natAbs) fun k hk => ?_
  · unfold rowQ12 rowMax classifierShift
    omega
  · have hprod : (m.residual features (row + k) * m.transform row (row + k)).natAbs ≤
        high (row + k) * (m.transform row (row + k)).natAbs := by
      rw [Int.natAbs_mul]
      exact Nat.mul_le_mul_right _ (h (row + k) (by omega))
    rw [← Int.natCast_mul]
    omega

/-- Residuals whose bounds fit do not saturate the class. -/
theorem RangeFits.not_saturates (hm : m.RangeFits high)
    (h : ∀ col, col < featureCount → (m.residual features col).natAbs ≤ high col) :
    ¬ m.Saturates features := by
  have hrow := rowQ12_bounds h
  intro hs
  rcases hs with ⟨row, hlt, hbig⟩ | hform
  · have := hm.1 row hlt
    have := hrow row
    omega
  · have hle : m.form features ≤ sumRange featureCount fun row =>
      m.rowMax high row * m.rowMax high row :=
      sumRange_le fun row _ => by simpa only [pow_two] using sq_le_sq' (hrow row).1 (hrow row).2
    exact absurd hform (not_le.mpr (lt_of_le_of_lt hle hm.2))

end ClassifierModel

/-! ## The ten features -/

/-- The greatest value of each feature. -/
def featureMax (col : Nat) : Nat :=
  [196608, 196608, 196608, 196608, 196608, 196608, 196608, 4194304, 167645184, 3203072].getD col 0

/-- Ten features between zero and their greatest values. -/
def InRange (features : Nat → Int) : Prop := ∀ col, col < featureCount → 0 ≤ features col ∧
    features col ≤ featureMax col

theorem featureMax_bounds : ∀ col, col < featureCount → 2 ^ 17 ≤ featureMax col ∧
    featureMax col ≤ 2 ^ 30 := by
  decide

theorem classModel_range : ∀ k, k < classCount → (classModel k).RangeFits featureMax := by
  decide +kernel

section InRange
variable {features : Nat → Int}

theorem InRange.fit (h : InRange features) : FeaturesFit features := fun col hc => by
  have := h col hc
  have := featureMax_bounds col hc
  omega

/-- The means lie in the range too, so no residual leaves it. -/
theorem InRange.residual (h : InRange features) {m : ClassifierModel} (hm : m.MeansFit) {col : Nat}
    (hc : col < featureCount) : (m.residual features col).natAbs ≤ featureMax col := by
  have hf := h col hc
  have hmean := hm col hc
  have hmax := featureMax_bounds col hc
  unfold ClassifierModel.residual
  split
  · exact Nat.zero_le _
  · omega

theorem InRange.not_saturates (h : InRange features) {k : Nat} (hk : k < classCount) :
    ¬ (classModel k).Saturates features :=
  (classModel_range k hk).not_saturates fun _ hc => h.residual (classModel_means k hk) hc

end InRange

/-! ## The features of an accepted component -/

/-- A cell of the two rings has a positive signal below a quarter of the peak. -/
theorem ringCells_signal {ts : Heat} {quarter : Int} {cell : Nat}
    (h : cell ∈ ringCells ts quarter) :
    0 < signalQ12 (ts.value cell) ∧ signalQ12 (ts.value cell) < quarter := by
  have hfed : ∀ {d n : Nat}, Joins ts quarter (d + 1) n cell →
      0 < signalQ12 (ts.value cell) ∧ signalQ12 (ts.value cell) < quarter := by
    intro d n hj
    obtain ⟨hlt, _, hpos, hratio⟩ := hj
    unfold haloRatioQ12 oneQ12 classifierShift at hratio
    omega
  simp only [ringCells, Finset.mem_filter] at h
  obtain ⟨_, hin, hout⟩ := h
  rcases hin with h2 | ⟨_, n, _, _, hj⟩
  · rcases h2 with h1 | ⟨_, n, _, _, hj⟩
    · exact absurd h1 hout
    · exact hfed hj
  · exact hfed hj

namespace Accepted
variable {prof : Profile} {ts : Heat} (a : Accepted prof ts)

theorem quarter_bounds : 0 ≤ quarterPeak a.contact ∧
    4 * quarterPeak a.contact ≤ signalQ12 a.contact.peakValue := by
  have hpos := a.peak_pos
  unfold quarterPeak
  rw [Int.tdiv_eq_ediv_of_nonneg (by omega)]
  omega

theorem ringSum_bounds : 0 ≤ a.ringSum ∧ a.ringSum ≤ heatSamples * quarterPeak a.contact := by
  have hsignal : ∀ cell ∈ ringCells a.heat (quarterPeak a.contact),
      0 < signalQ12 (ts.value cell) ∧ signalQ12 (ts.value cell) < quarterPeak a.contact :=
      fun cell hc =>
    a.value ▸ ringCells_signal hc
  have hrange : ringCells a.heat (quarterPeak a.contact) ⊆ Finset.range heatSamples :=
    fun cell hc => by
    simp only [ringCells, Finset.mem_filter] at hc
    exact hc.1
  have hcard : (ringCells a.heat (quarterPeak a.contact)).card ≤ heatSamples :=
    Nat.le_trans (Finset.card_le_card hrange) (Nat.le_of_eq (Finset.card_range heatSamples))
  refine ⟨Finset.sum_nonneg fun cell hc => le_of_lt (hsignal cell hc).1, ?_⟩
  calc a.ringSum ≤ (ringCells a.heat (quarterPeak a.contact)).card • quarterPeak a.contact :=
        Finset.sum_le_card_nsmul _ _ _ fun cell hc => le_of_lt (hsignal cell hc).2
    _ = (ringCells a.heat (quarterPeak a.contact)).card * quarterPeak a.contact := nsmul_eq_mul _ _
    _ ≤ heatSamples * quarterPeak a.contact :=
        Int.mul_le_mul_of_nonneg_right (Int.ofNat_le.mpr hcard) a.quarter_bounds.1

/-- The halo feature is at most a quarter for each cell of the grid. -/
theorem nine_bounds : 0 ≤ a.shaped.featuresQ12 9 ∧ a.shaped.featuresQ12 9 ≤ 3203072 := by
  have hpos := a.peak_pos
  have hquarter := a.quarter_bounds
  have hsum := a.ringSum_bounds
  have h := haloExact a
  by_cases hs : SmallSpan a.contact
  · have hle : a.ringSum * oneQ12 ≤ 3203072 * signalQ12 a.contact.peakValue := by
      rw [show heatSamples = 3128 from rfl] at hsum
      unfold oneQ12 classifierShift
      omega
    have hquot : 0 ≤ a.ringSum * oneQ12 / signalQ12 a.contact.peakValue ∧
        a.ringSum * oneQ12 / signalQ12 a.contact.peakValue ≤ 3203072 :=
      ⟨Int.ediv_nonneg (Int.mul_nonneg hsum.1 (by decide)) (by omega),
        Int.ediv_le_of_le_mul hpos hle⟩
    rw [h.walk hs, h.rule hs, Int.tdiv_eq_ediv_of_nonneg (Int.mul_nonneg hsum.1 (by decide)),
      s32_eq (by omega) (by omega)]
    exact hquot
  · rw [h.large hs]
    decide

theorem seven_bounds : 0 ≤ a.shaped.featuresQ12 7 ∧ a.shaped.featuresQ12 7 ≤ 4194304 := by
  have h := geometryExact a
  have hmajor : axisQ12 (majorHalf a.moments) ≤ 4194304 := by
    rw [h.major.2.1]
    exact max_le (by decide) (Nat.le_of_lt a.moments_in.bounds.major.2.2.2)
  have hratio : axisQ12 (majorHalf a.moments) * oneQ12 / axisQ12 (minorHalf a.moments) ≤
    axisQ12 (majorHalf a.moments) :=
    axis_ratio_le (le_max_left _ _)
  rw [h.seven]
  exact ⟨Int.natCast_nonneg _, Int.ofNat_le.mpr (Nat.le_trans hratio hmajor)⟩

theorem eight_bounds : 0 ≤ a.shaped.featuresQ12 8 ∧ a.shaped.featuresQ12 8 ≤ 167645184 := by
  have htrace := a.moments_in.bounds.trace
  rcases Nat.lt_or_ge a.contact.pixels 2 with hp | hp
  · rw [a.shaped_geometry (by decide), geometryFeatures_eight a.passedContact a.moments_sum,
      if_pos (by rw [a.passedContact_box.pixels]; exact hp)]
    decide
  · have hone : oneQ12 ≤ oneQ12 * (a.contact.pixels - 1) :=
      Nat.le_mul_of_pos_right oneQ12 (by omega)
    rw [(geometryExact a).eight hp]
    generalize oneQ12 * (a.contact.pixels - 1) = d at hone ⊢
    unfold oneQ12 classifierShift at hone
    refine ⟨Int.ediv_nonneg (Int.mul_nonneg htrace.1 (by decide)) (Int.natCast_nonneg d), ?_⟩
    refine Int.ediv_le_of_le_mul (by omega) ?_
    unfold spreadScaleQ12
    omega

theorem zero_bounds : 0 ≤ a.shaped.featuresQ12 0 ∧ a.shaped.featuresQ12 0 ≤ 196608 := by
  have hpixels : a.contact.pixels ≤ 48 := a.pixels_le
  rw [a.shaped_zero]
  unfold oneQ12 classifierShift
  omega

/-- A pass finds at most as many islands as there are cells. -/
theorem islands_bounds (pass : Nat) (hp : pass < 3) : a.shaped.featuresQ12 (4 + pass) ≤ 196608 := by
  have hpixels : a.contact.pixels ≤ 48 := a.pixels_le
  rcases lt_or_ge 287 (signalQ12 a.contact.peakValue) with hs | hs
  · obtain ⟨accepted, largest, hexact, _, h4⟩ := a.rerun hs pass hp
    have hle := hexact.accepted_le a.flagsOf
    rw [h4]
    unfold oneQ12 classifierShift
    omega
  · rw [(a.skipped hs pass hp).2]
    decide

/-- The features of an accepted component lie in their ranges. -/
theorem inRange : InRange a.shaped.featuresQ12 := by
  have hpixels : a.contact.pixels ≤ 48 := a.pixels_le
  have h := a.secondaryOrdered
  have h1 := h.one
  have h2 := h.two
  have h3 := h.three
  have hleast := h.least
  have h4 := h.four
  have h5 := h.five
  have h6 := h.six
  simp only [oneQ12, classifierShift] at h1 hleast h4 h5 h6
  intro col hc
  have hten : col < 10 := hc
  obtain rfl | rfl | rfl | rfl | rfl | rfl | rfl | rfl | rfl | rfl :
      col = 0 ∨ col = 1 ∨ col = 2 ∨ col = 3 ∨ col = 4 ∨ col = 5 ∨ col = 6 ∨ col = 7 ∨ col = 8 ∨
      col = 9 := by omega
  · exact a.zero_bounds
  · exact ⟨by omega, show _ ≤ (196608 : Int) by omega⟩
  · exact ⟨by omega, show _ ≤ (196608 : Int) by omega⟩
  · exact ⟨by omega, show _ ≤ (196608 : Int) by omega⟩
  · exact ⟨by omega, a.islands_bounds 0 (by decide)⟩
  · exact ⟨by omega, a.islands_bounds 1 (by decide)⟩
  · exact ⟨by omega, a.islands_bounds 2 (by decide)⟩
  · exact a.seven_bounds
  · exact a.eight_bounds
  · exact a.nine_bounds

end Accepted
end Sp11Touch
