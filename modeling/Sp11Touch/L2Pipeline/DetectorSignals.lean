import Sp11Touch.L2Pipeline.MomentsFit
import Sp11Touch.L2Pipeline.ReferenceDetector
import Mathlib.Tactic.LinearCombination
import Mathlib.Tactic.NormNum
/-!
# Signals in binary64 and in Q12

The detector compares binary64 signals, the driver integers in Q12. A signal
is within `2 ^ -50` of the linear lookup (`signal_near`), and neighbouring
bytes lie `0.002` apart, so the order of two signals is the order of their bytes
on both sides, and each threshold separates the same two bytes
(`seed_agrees`, `strong_agrees`, `skip_agrees`). The cutoffs of the secondary
passes are the same bytes (`cutoff_agrees`).
-/
namespace Sp11Touch.Decoder
open Binary64 CInt

/-- The linear lookup, unrounded. -/
def lookup (value : Nat) : ℚ := 1 - 0.6000000238418579 - 0.002220354275777936 * value

theorem fl_within {x b : ℚ} (h : |x| ≤ b) : x - b / 2 ^ 53 ≤ fl x ∧ fl x ≤ x + b / 2 ^ 53 := by
  have herr := abs_le.mp (fl_near h)
  exact ⟨by linarith [herr.1], by linarith [herr.2]⟩

/-- The constants of the lookup. -/
theorem base_near : |windowsLookupBase - 0.6000000238418579| ≤ 1 / 2 ^ 53 := by
  refine fl_near ?_
  norm_num [abs_le]

theorem step_near : |windowsLookupStep - 0.002220354275777936| ≤ 1 / 2 ^ 61 := by
  have h := fl_near (x := 0.002220354275777936) (b := 1 / 2 ^ 8) (by norm_num [abs_le])
  unfold windowsLookupStep
  exact h.trans (by norm_num)

theorem signal_near {v : Nat} (hv : v ≤ 255) : |windowsSignal v - lookup v| ≤ 1 / 2 ^ 50 := by
  have hbase := abs_le.mp base_near
  have hstep := abs_le.mp step_near
  have hv0 : (0 : ℚ) ≤ v := Nat.cast_nonneg v
  have hv1 : (v : ℚ) ≤ 255 := by exact_mod_cast hv
  -- the product is off by 255 times the error of the step at most
  have hprod : windowsLookupStep * v ≤ 0.002220354275777936 * v + 255 / 2 ^ 61 := by nlinarith
  have hprod' : 0.002220354275777936 * (v : ℚ) - 255 / 2 ^ 61 ≤
    windowsLookupStep * v := by nlinarith
  have hone := fl_within (x := 1 - windowsLookupBase) (b := 1)
    (by rw [abs_le]; constructor <;> linarith)
  have htwo := fl_within (x := windowsLookupStep * v) (b := 1)
    (by rw [abs_le]; constructor <;> linarith)
  have hthree := fl_within (x := windowsLookupIntercept - fl (windowsLookupStep * v)) (b := 1)
    (by unfold windowsLookupIntercept; rw [abs_le]; constructor <;> linarith)
  unfold windowsSignal lookup
  unfold windowsLookupIntercept at *
  rw [abs_le]
  constructor <;> linarith

/-- A lower byte is a stronger signal, by more than the comparisons' epsilons. -/
theorem signal_strict {v w : Nat} (h : v < w) (hw : w ≤ 255) :
    windowsSignal w + 1 / 500 ≤ windowsSignal v := by
  have h1 := abs_le.mp (signal_near (Nat.le_of_lt (Nat.lt_of_lt_of_le h hw)))
  have h2 := abs_le.mp (signal_near hw)
  have hcast : (v : ℚ) + 1 ≤ w := by exact_mod_cast h
  unfold lookup at h1 h2
  linarith [h1.1, h2.2]

theorem signal_anti {v w : Nat} (h : v ≤ w) (hw : w ≤ 255) : windowsSignal w ≤ windowsSignal v := by
  rcases Nat.lt_or_eq_of_le h with hlt | rfl
  · linarith [signal_strict hlt hw]
  · exact le_refl _

/-- A threshold between the signals of `n` and `n + 1`, on either side. -/
theorem threshold_agrees {t : ℚ} {c : Int} {n v : Nat} (hn : n < 255) (hv : v ≤ 255)
    (hin : t < lookup n - 1 / 2 ^ 50)
    (hout : lookup (n + 1) + 1 / 2 ^ 50 ≤ t) (hin' : c < signalQ12 n)
      (hout' : signalQ12 (n + 1) ≤ c) :
    t < windowsSignal v ↔ c < signalQ12 v := by
  have h1 := abs_le.mp (signal_near (Nat.le_of_lt hn))
  have h2 := abs_le.mp (signal_near (v := n + 1) hn)
  rcases Nat.lt_or_ge n v with hlt | hle
  · have hs : windowsSignal v ≤ windowsSignal (n + 1) := signal_anti hlt hv
    have hq : signalQ12 v ≤ signalQ12 (n + 1) := signalQ12_anti hlt
    exact iff_of_false (not_lt.mpr (by linarith [h2.2])) (by omega)
  · have hs := signal_anti hle (Nat.le_of_lt hn)
    have hq := signalQ12_anti hle
    exact iff_of_true (by linarith [h1.1]) (by omega)

/-- A constant of the source that is below one. -/
theorem const_near {x : ℚ} (h : |x| ≤ 1) : |fl x - x| ≤ 1 / 2 ^ 53 := fl_near h

theorem seed_agrees {v : Nat} (hv : v ≤ 255) : windowsSecondarySeed < windowsSignal v ↔
    secondarySeedQ12 < signalQ12 v := by
  have h := abs_le.mp (const_near (x := 0.054999999701976776) (by norm_num [abs_le]))
  refine threshold_agrees (n := 155) (by decide) hv ?_ ?_ (by decide) (by decide)
  · unfold windowsSecondarySeed lookup
    norm_num at h ⊢
    linarith [h.2]
  · unfold windowsSecondarySeed lookup
    norm_num at h ⊢
    linarith [h.1]

theorem strong_agrees {v : Nat} (hv : v ≤ 255) : windowsLocalPeakFloor < windowsSignal v ↔
    localPeakFloorQ12 < signalQ12 v := by
  have h := abs_le.mp (const_near (x := 0.03999999910593033) (by norm_num [abs_le]))
  refine threshold_agrees (n := 162) (by decide) hv ?_ ?_ (by decide) (by decide)
  · unfold windowsLocalPeakFloor lookup
    norm_num at h ⊢
    linarith [h.2]
  · unfold windowsLocalPeakFloor lookup
    norm_num at h ⊢
    linarith [h.1]

theorem floor_near : |windowsSecondaryFloor - 0.05000000074505806| ≤ 1 / 2 ^ 53 :=
  const_near (by norm_num [abs_le])

theorem noise_near : |windowsSecondaryNoise - 0.019999999552965164| ≤ 1 / 2 ^ 53 :=
  const_near (by norm_num [abs_le])

theorem skip_agrees {v : Nat} (hv : v ≤ 255) :
    fl (windowsSecondaryFloor + windowsSecondaryNoise) < windowsSignal v ↔ 287 < signalQ12 v := by
  have h1 := abs_le.mp floor_near
  have h2 := abs_le.mp noise_near
  have h := fl_within (x := windowsSecondaryFloor + windowsSecondaryNoise) (b := 1)
    (by rw [abs_le]; constructor <;> linarith)
  refine threshold_agrees (n := 148) (by decide) hv ?_ ?_ (by decide) (by decide)
  · unfold lookup
    norm_num at h1 h2 h ⊢
    linarith [h.2]
  · unfold lookup
    norm_num at h1 h2 h ⊢
    linarith [h.1]

/-! ## The cutoffs -/

section errors
variable {x l a a0 b b0 c c0 d d0 f : ℚ}

/-- The threshold of a fraction `f`, from a signal `x` near `l`, the floor `a` and the noise `b`. -/
theorem threshold_error (hx : |x - l| ≤ 1 / 2 ^ 50) (ha : |a - a0| ≤ 1 / 2 ^ 53)
    (hb : |b - b0| ≤ 1 / 2 ^ 53)
    (hl : 0 ≤ l ∧ l ≤ 1 / 2) (ha0 : 0 ≤ a0 ∧ a0 ≤ 1 / 10) (hb0 : 0 ≤ b0 ∧ b0 ≤ 1 / 10)
      (hf : 0 ≤ f ∧ f ≤ 1) :
    |fl (a + fl (fl (fl (x - b) - a) * f)) - (a0 + (l - b0 - a0) * f)| ≤ 1 / 2 ^ 49 := by
  rw [abs_le] at hx ha hb
  have h1 := fl_within (x := x - b) (b := 1) (by rw [abs_le]; constructor <;> linarith)
  have h2 := fl_within (x := fl (x - b) - a) (b := 1) (by rw [abs_le]; constructor <;> linarith)
  have hscaled : |fl (fl (x - b) - a) * f - (l - b0 - a0) * f| ≤ 12 / 2 ^ 53 := by
    rw [← sub_mul, abs_mul, abs_of_nonneg hf.1]
    refine (mul_le_of_le_one_right (abs_nonneg _) hf.2).trans ?_
    rw [abs_le]
    constructor <;> linarith
  have hone : |(l - b0 - a0) * f| ≤ 1 / 2 := by
    rw [abs_mul, abs_of_nonneg hf.1]
    refine (mul_le_of_le_one_right (abs_nonneg _) hf.2).trans ?_
    rw [abs_le]
    constructor <;> linarith
  rw [abs_le] at hscaled hone
  have h3 := fl_within (x := fl (fl (x - b) - a) * f) (b := 1)
    (by rw [abs_le]; constructor <;> linarith)
  have h4 := fl_within (x := a + fl (fl (fl (x - b) - a) * f)) (b := 1)
    (by rw [abs_le]; constructor <;> linarith)
  rw [abs_le]
  constructor <;> linarith

/-- The cutoff of a threshold `x` near `l`, before the half is added, with the base `c` and the step `d`. -/
theorem cutoff_error (hx : |x - l| ≤ 1 / 2 ^ 49) (hc : |c - c0| ≤ 1 / 2 ^ 53)
    (hd : |d - d0| ≤ 1 / 2 ^ 61)
    (hl : 0 ≤ l ∧ l ≤ 1 / 2) (hc0 : 0 ≤ c0 ∧ c0 ≤ 1) (hd0 : 1 / 500 ≤ d0 ∧ d0 ≤ 1 / 2 ^ 8) :
    |fl (fl (fl (1 - x) - c) / d) * d0 - (1 - l - c0)| ≤ 1 / 2 ^ 47 := by
  rw [abs_le] at hx hc hd
  have h1 := fl_within (x := 1 - x) (b := 2) (by rw [abs_le]; constructor <;> linarith)
  have h2 := fl_within (x := fl (1 - x) - c) (b := 2) (by rw [abs_le]; constructor <;> linarith)
  generalize fl (fl (1 - x) - c) = y at *
  have hdpos : 0 < d := by linarith
  have hquot : y / d * d = y := div_mul_cancel₀ y hdpos.ne'
  have hbound : |y / d| ≤ 2 ^ 11 := by
    rw [abs_div, abs_of_pos hdpos, div_le_iff₀ hdpos, abs_le]
    constructor <;> linarith
  have hmoved : |y / d * (d0 - d)| ≤ 2 ^ 11 * (1 / 2 ^ 61) := by
    rw [abs_mul]
    refine mul_le_mul hbound ?_ (abs_nonneg _) (by positivity)
    rw [abs_le]
    constructor <;> linarith
  have h3 := fl_within hbound
  have hscaled : |(fl (y / d) - y / d) * d0| ≤ 2 ^ 11 / 2 ^ 53 * (1 / 2 ^ 8) := by
    rw [abs_mul]
    refine mul_le_mul (fl_near hbound) ?_ (abs_nonneg _) (by positivity)
    rw [abs_le]
    constructor <;> linarith
  have hsum : fl (y / d) * d0 - (1 - l - c0) = (fl (y / d) - y / d) * d0 + y / d * (d0 - d) +
    (y - (1 - l - c0)) := by
    linear_combination hquot
  rw [abs_le] at hmoved hscaled
  rw [hsum, abs_le]
  constructor <;> linarith

end errors

/-- The driver's cutoff before the shift by 24, the halves of both roundings included. -/
def cutoffSum (peakValue pass : Nat) : Nat :=
  (oneQ12 - fractionsQ12.getD pass 0) * secondaryAQ12 +
    fractionsQ12.getD pass 0 * (peakValue * oneQ12 + secondaryNoiseQ12) + 2 ^ 11 + 2 ^ 23

/-- The driver's cutoff is never close to the next byte. -/
theorem cutoff_margin : ∀ v, v < 149 → ∀ pass, pass < 3 →
    Sp11Touch.secondaryCutoff v pass * 2 ^ 24 + 2 ^ 19 ≤ cutoffSum v pass ∧
      cutoffSum v pass + 2 ^ 19 ≤ (Sp11Touch.secondaryCutoff v pass + 1) * 2 ^ 24 ∧
      Sp11Touch.secondaryCutoff v pass ≤ 255 := by
  decide +kernel

/-- The threshold of a fraction, unrounded. -/
def thresholdLine (v : Nat) (f : ℚ) : ℚ :=
  0.05000000074505806 + (lookup v - 0.019999999552965164 - 0.05000000074505806) * f

/-- A line near the driver's sum decides the byte. -/
theorem cutoff_of_line {v pass : Nat} {f : ℚ} (hv : v < 149) (hpass : pass < 3) (hf : 0 ≤ f ∧ f ≤ 1)
    (hline : |(1 - thresholdLine v f - 0.6000000238418579) -
      ((cutoffSum v pass : ℚ) / 2 ^ 24 - 1 / 2) * 0.002220354275777936| ≤ 1 / 2 ^ 15) :
    secondaryCutoff v f = Sp11Touch.secondaryCutoff v pass := by
  have hcast : (v : ℚ) ≤ 148 := by exact_mod_cast Nat.le_of_lt_succ hv
  have hpos : (0 : ℚ) ≤ v := Nat.cast_nonneg v
  have hl : lookup v = 1 - 0.6000000238418579 - 0.002220354275777936 * v := rfl
  have hthreshold : |secondaryThreshold v f - thresholdLine v f| ≤ 1 / 2 ^ 49 :=
    threshold_error (signal_near (by omega)) floor_near noise_near (by constructor <;> linarith)
      (by norm_num) (by norm_num) hf
  have hlineAbs := abs_le.mp hline
  obtain ⟨hlow, hhigh, hbyte⟩ := cutoff_margin v hv pass hpass
  have hlowQ : (Sp11Touch.secondaryCutoff v pass : ℚ) * 2 ^ 24 + 2 ^ 19 ≤ cutoffSum v pass := by
    exact_mod_cast hlow
  have hhighQ : (cutoffSum v pass : ℚ) + 2 ^ 19 ≤
    (Sp11Touch.secondaryCutoff v pass + 1) * 2 ^ 24 := by
    exact_mod_cast hhigh
  have hbyteQ : (Sp11Touch.secondaryCutoff v pass : ℚ) ≤ 255 := by exact_mod_cast hbyte
  have hbyte0 : (0 : ℚ) ≤ Sp11Touch.secondaryCutoff v pass := Nat.cast_nonneg _
  generalize Sp11Touch.secondaryCutoff v pass = n at *
  have hquot : |fl (fl (fl (1 - secondaryThreshold v f) - windowsLookupBase) / windowsLookupStep) *
    0.002220354275777936 -
      (1 - thresholdLine v f - 0.6000000238418579)| ≤ 1 / 2 ^ 47 := by
    refine cutoff_error hthreshold base_near step_near ?_ (by norm_num) (by norm_num)
    have hspan : 0 ≤ lookup v - 0.019999999552965164 - 0.05000000074505806 := by linarith
    have hzero := mul_nonneg hspan hf.1
    have hone := mul_le_of_le_one_right hspan hf.2
    unfold thresholdLine
    constructor <;> linarith
  unfold secondaryCutoff
  generalize fl (fl (fl (1 - secondaryThreshold v f) - windowsLookupBase) / windowsLookupStep) = r
    at *
  rw [abs_le] at hquot
  have hr : (n : ℚ) - 1 / 2 + 1 / 2 ^ 9 ≤ r ∧ r ≤ n + 1 / 2 - 1 / 2 ^ 9 := by
    constructor <;> linarith
  have hsum := fl_within (x := r + 1 / 2) (b := 2 ^ 9) (by rw [abs_le]; constructor <;> linarith)
  have hfloor : ⌊fl (r + 1 / 2)⌋ = (n : Int) := by
    rw [Int.floor_eq_iff]
    push_cast
    constructor <;> linarith
  rw [truncate_eq (by linarith), hfloor]
  omega

/-- The three cutoffs of a component above the noise are the driver's. -/
theorem cutoff_agrees {v pass : Nat} (hv : v < 149) (hpass : pass < 3) :
    secondaryCutoff v (windowsSecondaryFractions.getD pass 0) =
    Sp11Touch.secondaryCutoff v pass := by
  have hcast : (v : ℚ) ≤ 148 := by exact_mod_cast Nat.le_of_lt_succ hv
  have hpos : (0 : ℚ) ≤ v := Nat.cast_nonneg v
  obtain rfl | rfl | rfl : pass = 0 ∨ pass = 1 ∨ pass = 2 := by omega
  all_goals
    refine cutoff_of_line hv hpass (by norm_num [windowsSecondaryFractions]) ?_
    simp only [windowsSecondaryFractions, List.getD_cons_zero, List.getD_cons_succ, thresholdLine,
      lookup, cutoffSum,
      fractionsQ12, oneQ12, classifierShift, secondaryAQ12, secondaryNoiseQ12]
    push_cast
    rw [abs_le]
    constructor <;> linarith

end Sp11Touch.Decoder
