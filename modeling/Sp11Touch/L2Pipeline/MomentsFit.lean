import Sp11Touch.L2Pipeline.ShapeFits
/-!
# The second moments fit

The moments of `n` flagged cells are `n` signals at columns below 68 and rows
below 46. So a central moment is at most the squared span, the minor axis is a
divisor that fits 32 bits, and with the 48 cells of the palm gate the products
under the moments fit 64 bits.
-/
namespace Sp11Touch
open CInt

/-- The flagged cells below `k`. -/
def flaggedBelow (ts : Heat) (k : Nat) : Nat := ((List.range k).filter ts.heatComponent).length

theorem flaggedBelow_succ (ts : Heat) (k : Nat) :
    flaggedBelow ts (k + 1) = flaggedBelow ts k + if ts.heatComponent k then 1 else 0 := by
  unfold flaggedBelow
  rw [List.range_succ, List.filter_append, List.length_append]
  cases h : ts.heatComponent k <;> simp [h]

theorem flaggedBelow_le {ts : Heat} {cells : List Nat} (k : Nat)
    (h : ∀ cell, ts.heatComponent cell = true → cell ∈ cells) :
    flaggedBelow ts k ≤ cells.length := by
  have hnodup : ((List.range k).filter ts.heatComponent).Nodup := List.nodup_range.filter _
  refine (hnodup.subperm fun cell hc => ?_).length_le
  exact h cell (by simpa using (List.mem_filter.mp hc).2)

def maxSignalQ12 : Nat := 1638

theorem signalQ12_le (value : Nat) : signalQ12 value ≤ maxSignalQ12 := by
  unfold signalQ12 signalInterceptQ24 signalStepQ24 classifierShift maxSignalQ12
  rw [Int.shiftRight_eq_div_pow]
  omega

/-- A lower byte is a stronger signal. -/
theorem signalQ12_strict {v w : Nat} (h : v < w) : signalQ12 w < signalQ12 v := by
  unfold signalQ12 signalInterceptQ24 signalStepQ24 classifierShift
  rw [Int.shiftRight_eq_div_pow, Int.shiftRight_eq_div_pow]
  omega

theorem signalQ12_anti {v w : Nat} (h : v ≤ w) : signalQ12 w ≤ signalQ12 v := by
  rcases Nat.lt_or_eq_of_le h with hlt | rfl
  · exact le_of_lt (signalQ12_strict hlt)
  · exact le_refl _

theorem signalQ12_active {v : Nat} (h : v ≤ heatActiveMax) : 0 < signalQ12 v :=
  lt_of_lt_of_le (by decide : 0 < signalQ12 heatActiveMax) (signalQ12_anti h)

/-- The sums of at most `n` signals at the columns and rows of the grid. -/
structure MomentsIn (n : Nat) (m : Moments) : Prop where
  sum : m.sum ≤ maxSignalQ12 * n
  x : m.sumX ≤ 67 * m.sum
  y : m.sumY ≤ 45 * m.sum
  xx : m.sumXX ≤ 67 * 67 * m.sum
  yy : m.sumYY ≤ 45 * 45 * m.sum
  xy : m.sumXY ≤ 67 * 45 * m.sum

theorem mul_mul_le {s a b p q : Nat} (ha : a ≤ p) (hb : b ≤ q) : s * a * b ≤ p * q * s :=
  calc s * a * b ≤ s * p * q := Nat.mul_le_mul (Nat.mul_le_mul_left s ha) hb
    _ = p * q * s := by ring

theorem momentsStep_in {ts : Heat} {k : Nat} {m : Moments} (hk : k < heatSamples)
    (h : MomentsIn (flaggedBelow ts k) m) : MomentsIn (flaggedBelow ts (k + 1))
    (momentsStep ts k m) := by
  have hsum : m.sum ≤ 1638 * flaggedBelow ts k := h.sum
  have hx := h.x
  have hy := h.y
  have hxx := h.xx
  have hyy := h.yy
  have hxy := h.xy
  rw [flaggedBelow_succ]
  unfold momentsStep
  cases hc : ts.heatComponent k with
  | false => exact h
  | true =>
    simp only [Bool.not_true, Bool.false_eq_true, if_false, if_true]
    split
    · exact ⟨show m.sum ≤ 1638 * _ by omega, hx, hy, hxx, hyy, hxy⟩
    · have hs : (signalQ12 (ts.value k)).toNat ≤ 1638 := by
        have : signalQ12 (ts.value k) ≤ 1638 := signalQ12_le (ts.value k)
        omega
      have hcol : k % heatCols ≤ 67 := col_le k
      have hrow : k / heatCols ≤ 45 := row_le hk
      generalize (signalQ12 (ts.value k)).toNat = s at hs ⊢
      have h1 := mul_mul_le (s := s) hcol hcol
      have h2 := mul_mul_le (s := s) hrow hrow
      have h3 := mul_mul_le (s := s) hcol hrow
      have h4 := Nat.mul_le_mul_left s hcol
      have h5 := Nat.mul_le_mul_left s hrow
      refine ⟨show m.sum + s ≤ 1638 * _ by omega, ?_, ?_, ?_, ?_, ?_⟩
      all_goals simp only
      all_goals omega

/-- The moments of the flagged cells. -/
def momentSums (ts : Heat) : Moments := loop heatSamples (momentsStep ts) ⟨0, 0, 0, 0, 0, 0⟩

theorem momentSums_in (ts : Heat) : MomentsIn (flaggedBelow ts heatSamples) (momentSums ts) :=
  loop_ind (fun k => MomentsIn (flaggedBelow ts k))
    ⟨Nat.zero_le _, Nat.zero_le _, Nat.zero_le _, Nat.zero_le _, Nat.zero_le _, Nat.zero_le _⟩
    fun _ _ hk h => momentsStep_in hk h

/-! ## Central moments and axes -/

/-- The numerator of a central moment. -/
def momentNumerator (m : Moments) (ab a b : Nat) : Int :=
  (((ab * m.sum : Nat) : Int) - ((a * b : Nat) : Int)) * oneQ12

theorem momentNumerator_le {m : Moments} {ab a b k : Nat} (hab : ab ≤ k * m.sum)
    (h : a * b ≤ k * (m.sum * m.sum)) : (momentNumerator m ab a b).natAbs ≤
    m.sum * m.sum * (k * oneQ12) := by
  have hab' : ab * m.sum ≤ k * (m.sum * m.sum) := by
    rw [← Nat.mul_assoc]
    exact Nat.mul_le_mul_right m.sum hab
  unfold momentNumerator
  rw [Int.natAbs_mul, Int.natAbs_natCast]
  calc _ ≤ k * (m.sum * m.sum) * oneQ12 := Nat.mul_le_mul_right oneQ12 (by omega)
    _ = m.sum * m.sum * (k * oneQ12) := by ring

theorem centralMoment_le {m : Moments} {ab a b k : Nat} (hab : ab ≤ k * m.sum)
    (h : a * b ≤ k * (m.sum * m.sum)) : (centralMoment m ab a b).natAbs ≤ k * oneQ12 := by
  unfold centralMoment
  rw [Int.natAbs_tdiv, Int.natAbs_natCast]
  exact Nat.div_le_of_le_mul (momentNumerator_le hab h)

/-- Two sums below multiples of the total. -/
theorem mul_sums_le {a b p q s : Nat} (ha : a ≤ p * s) (hb : b ≤ q * s) : a * b ≤ p * q * (s * s) :=
  calc a * b ≤ p * s * (q * s) := Nat.mul_le_mul ha hb
    _ = p * q * (s * s) := by ring

/-- A central moment is at most the product of the spans. -/
structure MomentBounds (m : Moments) : Prop where
  varX : (centralMoment m m.sumXX m.sumX m.sumX).natAbs ≤ 18386944
  varY : (centralMoment m m.sumYY m.sumY m.sumY).natAbs ≤ 8294400
  covariance : (centralMoment m m.sumXY m.sumX m.sumY).natAbs ≤ 12349440

theorem MomentsIn.bounds {n : Nat} {m : Moments} (h : MomentsIn n m) : MomentBounds m :=
  ⟨centralMoment_le h.xx (mul_sums_le h.x h.x), centralMoment_le h.yy (mul_sums_le h.y h.y),
    centralMoment_le h.xy (mul_sums_le h.x h.y)⟩

/-- What `minor_axis` takes the root of, before the shift. -/
def minorHalf (m : Moments) : Int :=
  let varX := centralMoment m m.sumXX m.sumX m.sumX
  let varY := centralMoment m m.sumYY m.sumY m.sumY
  let covariance := centralMoment m m.sumXY m.sumX m.sumY
  let trace := max 0 (varX + varY)
  let delta := varX - varY
  let discriminant : Int := intSqrt64 (delta * delta + 4 * covariance * covariance).toNat
  max 0 ((trace - discriminant).tdiv 2)

/-- What `major_axis` takes the root of, before the shift. -/
def majorHalf (m : Moments) : Int :=
  let varX := centralMoment m m.sumXX m.sumX m.sumX
  let varY := centralMoment m m.sumYY m.sumY m.sumY
  let covariance := centralMoment m m.sumXY m.sumX m.sumY
  let trace := max 0 (varX + varY)
  let delta := varX - varY
  let discriminant : Int := intSqrt64 (delta * delta + 4 * covariance * covariance).toNat
  (trace + discriminant).tdiv 2

/-- Features 7 and 8 of a component with signal, from its moments. -/
theorem geometryFeatures_eq {ts : Heat} (contact : Contact) (h : (momentSums ts).sum ≠ 0) :
    let m := momentSums ts
    geometryFeatures ts contact =
      setFeature (setFeature contact 7 (s32 (divU64 (axisQ12 (majorHalf m) * oneQ12)
      (axisQ12 (minorHalf m))))) 8
        (if contact.pixels < 2 then (oneQ12 : Int)
        else s32 ((max 0 (centralMoment m m.sumXX m.sumX m.sumX +
          centralMoment m m.sumYY m.sumY m.sumY) * spreadScaleQ12).tdiv
          (u32 (oneQ12 * (contact.pixels - 1))))) := by
  unfold momentSums at h ⊢
  unfold geometryFeatures
  generalize loop heatSamples (momentsStep ts) _ = m at h ⊢
  simp only
  rw [if_neg h]
  by_cases hp : contact.pixels < 2
  · rw [if_pos hp]
    exact if_pos hp
  · rw [if_neg hp]
    exact if_neg hp

/-- Feature 7 divides by the minor axis. -/
theorem geometryFeatures_seven {ts : Heat} (contact : Contact) (h : (momentSums ts).sum ≠ 0) :
    (geometryFeatures ts contact).featuresQ12 7 =
      s32 (divU64 (axisQ12 (majorHalf (momentSums ts)) * oneQ12)
      (axisQ12 (minorHalf (momentSums ts)))) := by
  rw [geometryFeatures_eq contact h]
  simp [setFeature]

theorem tdiv_two_le {x k : Int} (h : x ≤ 2 * k) : x.tdiv 2 ≤ k := by
  have h2 := Int.tdiv_le_tdiv (by omega : (0 : Int) < 2) h
  rwa [Int.mul_tdiv_cancel_left k (by omega)] at h2

/-- The minor axis has half the largest trace under its root. -/
theorem minorHalf_le {n : Nat} {m : Moments} (h : MomentsIn n m) : 0 ≤ minorHalf m ∧
    minorHalf m ≤ 13340672 := by
  have hx := h.bounds.varX
  have hy := h.bounds.varY
  unfold minorHalf
  simp only
  generalize centralMoment m m.sumXX m.sumX m.sumX = varX at hx ⊢
  generalize centralMoment m m.sumYY m.sumY m.sumY = varY at hy ⊢
  generalize intSqrt64 _ = root
  have hhalf := tdiv_two_le (x := max 0 (varX + varY) - (root : Int)) (k := 13340672) (by omega)
  exact ⟨le_max_left _ _, max_le (by omega) hhalf⟩

/-- An axis before `max` and before its store: `int_sqrt64(half << 12) * 18919 >> 12`. -/
def rawAxisQ12 (half : Int) : Nat := (intSqrt64 (half * oneQ12).toNat * axisScaleQ12) >>>
    classifierShift

theorem rawAxisQ12_lt {half : Int} (h : half ≤ 13340672) :
    intSqrt64 (half * oneQ12).toNat < 2 ^ 32 ∧ rawAxisQ12 half < 2 ^ 32 := by
  have hroot : intSqrt64 (half * oneQ12).toNat < 262144 := by
    refine Nat.sqrt_lt.mpr ?_
    simp only [oneQ12, classifierShift]
    omega
  unfold rawAxisQ12 axisScaleQ12 classifierShift
  rw [Nat.shiftRight_eq_div_pow]
  omega

theorem axisQ12_divisor {half : Int} (h : half ≤ 13340672) :
    Divisor (axisQ12 half) ∧ axisQ12 half = max oneQ12 (rawAxisQ12 half) := by
  have hraw := (rawAxisQ12_lt h).2
  have heq : axisQ12 half = max oneQ12 (rawAxisQ12 half) := congrArg (max oneQ12) (u32_eq hraw)
  refine ⟨⟨?_, ?_⟩, heq⟩
  · rw [heq]; exact Nat.lt_of_lt_of_le (by decide : 0 < oneQ12) (le_max_left _ _)
  · rw [heq]; exact max_lt (by decide) hraw

/-- What `g6ts_geometry_features` divides by on a component with signal: `denominator`,
`minor_axis` and `samples`; and the products under the moments. -/
structure GeometryFits (m : Moments) (pixels : Nat) : Prop where
  denominator : 0 < m.sum * m.sum ∧ m.sum * m.sum < 2 ^ 63
  varX : (momentNumerator m m.sumXX m.sumX m.sumX).natAbs < 2 ^ 63
  varY : (momentNumerator m m.sumYY m.sumY m.sumY).natAbs < 2 ^ 63
  covariance : (momentNumerator m m.sumXY m.sumX m.sumY).natAbs < 2 ^ 63
  minor : Divisor (axisQ12 (minorHalf m)) ∧ axisQ12 (minorHalf m) =
    max oneQ12 (rawAxisQ12 (minorHalf m))
  samples : 2 ≤ pixels → 0 < oneQ12 * (pixels - 1) ∧ oneQ12 * (pixels - 1) < 2 ^ 32

/-- 48 cells have at most 48 times the greatest signal. -/
theorem MomentsIn.sum_le {n : Nat} {m : Moments} (h : MomentsIn n m) (hn : n ≤ heatPalmPixels) :
    m.sum ≤ 78624 := by
  have hsum : m.sum ≤ 1638 * n := h.sum
  have h48 : n ≤ 48 := hn
  omega

theorem MomentsIn.fits {n pixels : Nat} {m : Moments} (h : MomentsIn n m) (hn : n ≤ heatPalmPixels)
    (hp : pixels ≤ heatPalmPixels) (hsum : m.sum ≠ 0) : GeometryFits m pixels := by
  have hle := h.sum_le hn
  have hsq : m.sum * m.sum ≤ 78624 * 78624 := Nat.mul_le_mul hle hle
  have hpos : 0 < m.sum * m.sum := Nat.mul_pos (Nat.pos_of_ne_zero hsum) (Nat.pos_of_ne_zero hsum)
  have hp48 : pixels ≤ 48 := hp
  have hbig : ∀ {ab a b p q : Nat}, p ≤ 67 → q ≤ 67 → ab ≤ p * q * m.sum → a ≤ p * m.sum →
    b ≤ q * m.sum →
      (momentNumerator m ab a b).natAbs < 2 ^ 63 := by
    intro ab a b p q hp hq hab ha hb
    have hpq : p * q ≤ 67 * 67 := Nat.mul_le_mul hp hq
    refine Nat.lt_of_le_of_lt (momentNumerator_le hab (mul_sums_le ha hb)) ?_
    refine Nat.lt_of_le_of_lt (Nat.mul_le_mul hsq (Nat.mul_le_mul_right oneQ12 hpq)) ?_
    simp only [oneQ12, classifierShift]
    omega
  exact { denominator := ⟨hpos, by omega⟩
          varX := hbig (by omega) (by omega) h.xx h.x h.x
          varY := hbig (by omega) (by omega) h.yy h.y h.y
          covariance := hbig (by omega) (by omega) h.xy h.x h.y
          minor := axisQ12_divisor (minorHalf_le h).2
          samples := fun h2 => by simp only [oneQ12, classifierShift]; omega }

end Sp11Touch
