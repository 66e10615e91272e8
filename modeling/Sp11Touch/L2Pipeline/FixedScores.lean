import Sp11Touch.L2Pipeline.FormBound
/-!
# The extractor's fixed-point scores (`tools/extract_windows_classifier.py`)

`fixedScores` is `ProjectClassifier.fixed_scores` on the driver's constants,
with no feature mask but the halo's: unbounded integers, no runtime offset, the
disabled score for a class that does not admit the pixels. Its winner is the
driver's unless the offset moves the best score below the disabled one, or
every score is that low and a saturated class stands first at the disabled one
in the driver; `fixedWinner_iff` says exactly when.
-/
namespace Sp11Touch
open CInt

def fixedShift : Nat := 12
def fixedOne : Int := 2 ^ fixedShift

/-- `round(DISABLED_SCORE * FIXED_ONE * FIXED_ONE)` -/
def fixedDisabledScore : Int := -9999 * fixedOne * fixedOne

/-- mirrors tools/extract_windows_classifier.py:283-286 (`residual_q`, the halo masked where it is 100.0) -/
def residualQ (m : ClassifierModel) (featureQ : Nat → Int) (index : Nat) : Int :=
  if index == 9 && featureQ 9 == 100 * fixedOne then 0 else featureQ index - m.meansQ12.getD index 0

/-- mirrors tools/extract_windows_classifier.py:288-294 (`transformed_q`) -/
def transformedQ (m : ClassifierModel) (featureQ : Nat → Int) (row : Nat) : Int :=
  ((List.range' row (featureCount - row)).map fun column =>
    residualQ m featureQ column * m.transform row column).sum >>> fixedShift

/-- mirrors tools/extract_windows_classifier.py:279-299 (one model of `fixed_scores`) -/
def fixedScore (m : ClassifierModel) (pixels : Nat) (featureQ : Nat → Int) : Int :=
  if pixels > m.maxPoints then fixedDisabledScore
  else
    let distanceQ24 := ((List.range featureCount).map fun row =>
      transformedQ m featureQ row * transformedQ m featureQ row).sum
    m.scoreOffsetQ12 * fixedOne - distanceQ24 / 2

/-- mirrors tools/extract_windows_classifier.py:255-300 (`ProjectClassifier.fixed_scores`) -/
def fixedScores (pixels : Nat) (featureQ : Nat → Int) : List Int :=
  classifierModels.map fun m => fixedScore m pixels featureQ

/-- `max(range(4), key=lambda index: fixed[index])` -/
def fixedWinner (pixels : Nat) (featureQ : Nat → Int) : Nat :=
  firstMax (classCount - 1) fun index => (fixedScores pixels featureQ).getD index 0

/-- With the runtime offset a score above it is still above the sentinel. -/
def keptScoreQ24 : Int := excludedScoreQ24 - windowsRuntimeOffsetQ24

/-- Ten features in Q12; the first is the pixel count. -/
structure Q12Features where
  pixels : Nat
  value : Nat → Nat
  le : ∀ col, col < featureCount → value col ≤ 2 ^ 28
  zero : value 0 = pixels * 2 ^ classifierShift

namespace Q12Features
variable (v : Q12Features)

def features (col : Nat) : Int := v.value col

/-- A contact with these features. -/
def contact (base : Contact) : Contact := { base with pixels := v.pixels, featuresQ12 := v.features }

theorem fit : FeaturesFit v.features := fun col hc => by
  have := v.le col hc
  unfold features
  omega

/-- The class admits the pixels. -/
def Admitted (class' : Nat) : Prop := v.pixels ≤ (classModel class').maxPoints

instance : DecidablePred v.Admitted := fun class' => Nat.decLe v.pixels
    (classModel class').maxPoints

/-- The driver computes a score for the class. -/
def Evaluated (class' : Nat) : Prop := (classModel class').Evaluated v.pixels v.features

instance : DecidablePred v.Evaluated := fun class' =>
  inferInstanceAs (Decidable ((classModel class').Evaluated v.pixels v.features))

/-- The score in unbounded integers and without the runtime offset. -/
def plainScore (class' : Nat) : Int := (classModel class').plainScore v.features

/-- The score of a class that is left out where it does not admit the pixels. -/
def openScore (class' : Nat) : Int :=
  if v.pixels ≤ (classModel class').maxPoints then v.plainScore class' else excludedScoreQ24

/-- The driver's distance leaves its type. -/
def Saturates (class' : Nat) : Prop := (classModel class').Saturates v.features

/-- More than 25 pixels, so that class 0 is left out: some admitted class stays above the sentinel
after the offset, or none is above it before. -/
def OffBand : Prop :=
  (∃ k, k < classCount ∧ v.Admitted k ∧ keptScoreQ24 < v.plainScore k) ∨
    ∀ k, k < classCount → v.Admitted k → v.plainScore k ≤ excludedScoreQ24

/-- At most 25 pixels, so that every class is admitted: none saturates, or some class stays above the
sentinel after the offset, or one falls on it with no saturated class before. -/
def OffFloor : Prop :=
  (∀ k, k < classCount → ¬ v.Saturates k) ∨
    (∃ k, k < classCount ∧ keptScoreQ24 < v.plainScore k) ∨
    ∃ j, j < classCount ∧ v.plainScore j = keptScoreQ24 ∧ ∀ i, i < j → ¬ v.Saturates i

def WinnerKept : Prop := (25 < v.pixels → v.OffBand) ∧ (v.pixels ≤ 25 → v.OffFloor)

end Q12Features

/-! ## The two scores of a class -/

theorem residualQ_eq (m : ClassifierModel) (features : Nat → Int) (index : Nat) :
    residualQ m features index = m.residual features index := by
  have hmask : (index == 9 && features 9 == 100 * fixedOne) = haloUnavailable features index := by
    unfold haloUnavailable
    by_cases h : index = 9
    · rw [h]; rfl
    · have hne : (index == 9) = false := by simp [h]
      rw [hne, Bool.false_and, Bool.false_and]
  unfold residualQ ClassifierModel.residual
  rw [hmask]

theorem transformedQ_eq (m : ClassifierModel) (features : Nat → Int) (row : Nat) :
    transformedQ m features row = m.rowQ12 features row := by
  unfold transformedQ ClassifierModel.rowQ12 sumRange
  rw [Int.shiftRight_eq_div_pow, List.range'_eq_map_range, List.map_map]
  rw [List.map_congr_left fun k _ => ?_]
  · rfl
  · simp only [Function.comp, residualQ_eq]

theorem fixedScore_eq (m : ClassifierModel) (pixels : Nat) (features : Nat → Int) :
    fixedScore m pixels features = if pixels ≤ m.maxPoints then m.plainScore features
    else excludedScoreQ24 := by
  unfold fixedScore
  by_cases hp : pixels > m.maxPoints
  · rw [if_pos hp, if_neg (by omega)]
    rfl
  · rw [if_neg hp, if_pos (by omega)]
    simp only [transformedQ_eq]
    rfl

theorem fixedScores_eq (pixels : Nat) (features : Nat → Int) :
    ∀ k, k < classCount → (fixedScores pixels features).getD k 0 =
      if pixels ≤ (classModel k).maxPoints then (classModel k).plainScore features
        else excludedScoreQ24 := by
  intro k hk
  have hget : (fixedScores pixels features).getD k 0 =
    fixedScore (classModel k) pixels features := by
    match k, hk with
    | 0, _ => rfl
    | 1, _ => rfl
    | 2, _ => rfl
    | 3, _ => rfl
  rw [hget, fixedScore_eq]

namespace ClassifierModel
variable {m : ClassifierModel} {features : Nat → Int}

/-- A saturated distance is no small one. -/
theorem Saturates.form_ge (h : m.Saturates features) : 2 ^ 62 ≤ m.form features := by
  rcases h with ⟨row, hrow, hbig⟩ | hform
  · have hle : m.rowQ12 features row * m.rowQ12 features row ≤ m.form features :=
      term_le_sumRange (fun k => mul_self_nonneg _) hrow
    have hsq : 2 ^ 31 * 2 ^ 31 ≤ (m.rowQ12 features row).natAbs *
      (m.rowQ12 features row).natAbs := by
      have : 2 ^ 31 ≤ (m.rowQ12 features row).natAbs := by
        unfold intMax at hbig
        omega
      exact Nat.mul_le_mul this this
    have habs := Int.natAbs_mul_self (a := m.rowQ12 features row)
    omega
  · unfold s64Max at hform
    omega

theorem plainScore_saturated (ho : m.OffsetFits) (h : m.Saturates features) :
    m.plainScore features ≤ excludedScoreQ24 := by
  have hge := h.form_ge
  have hle := ho.2
  unfold plainScore excludedScoreQ24 classifierShift windowsScoreShift
  omega

end ClassifierModel

/-! ## An offset on some of the scores -/

section Offset
variable {n w v : Nat} {score : Nat → Int} {floor offset : Int}
variable {adm ev : Nat → Prop} [DecidablePred ev]

/-- Where every score is moved, or the best one stays above the floor, the offset changes no winner. -/
theorem FirstMax.offset_eq [DecidablePred adm] (hoff : offset ≤ 0) (hev : ∀ k, k < n → ev k → adm k)
    (hlow : ∀ k, k < n → adm k → ¬ ev k → score k ≤ floor)
    (hw : FirstMax n (fun k => if ev k then score k + offset else floor) w)
    (hv : FirstMax n (fun k => if adm k then score k else floor) v)
    (h : (∀ k, k < n → ev k) ∨ ∃ k, k < n ∧ adm k ∧ floor - offset < score k) : w = v := by
  have hbest : ev v ∧ ∀ i, i < n → ¬ ev i → floor < score v + offset := by
    rcases h with hall | ⟨k, hk, hak, hgt⟩
    · exact ⟨hall v hv.lt, fun i hi hne => absurd (hall i hi) hne⟩
    · have hle := hv.le k hk
      rw [if_pos hak] at hle
      have hav : adm v := by
        by_contra hno
        rw [if_neg hno] at hle
        omega
      rw [if_pos hav] at hle
      refine ⟨?_, fun i hi hne => by omega⟩
      by_contra hno
      have := hlow v hv.lt hav hno
      omega
  obtain ⟨hevv, hfloor⟩ := hbest
  refine hw.unique ⟨hv.lt, fun i hi => ?_, fun i hi => ?_⟩
  · simp only [if_pos hevv]
    split
    · next hevi =>
      have hle := hv.le i hi
      simp only [if_pos (hev v hv.lt hevv), if_pos (hev i hi hevi)] at hle
      omega
    · next hno => exact Int.le_of_lt (hfloor i hi hno)
  · have hin := Nat.lt_trans hi hv.lt
    simp only [if_pos hevv]
    split
    · next hevi =>
      have hlt := hv.first i hi
      simp only [if_pos (hev v hv.lt hevv), if_pos (hev i hin hevi)] at hlt
      omega
    · next hno => exact hfloor i hin hno

/-- Otherwise the moved scores end at the floor, and the first class on it wins. -/
theorem FirstMax.offset_floor (hev : ∀ k, k < n → ev k → adm k)
    (hw : FirstMax n (fun k => if ev k then score k + offset else floor) w)
    (hsome : ∃ k, k < n ∧ ¬ ev k) (hnone : ∀ k, k < n → adm k → score k ≤ floor - offset) :
    (¬ ev w ∨ score w = floor - offset) ∧ ∀ i, i < w → ¬ (¬ ev i ∨ score i = floor - offset) := by
  have hle : ∀ k, k < n → (if ev k then score k + offset else floor) ≤ floor := by
    intro k hk
    split
    · next hk' =>
      have := hnone k hk (hev k hk hk')
      omega
    · exact Int.le_refl _
  have hwv : (if ev w then score w + offset else floor) = floor := by
    obtain ⟨k, hk, hno⟩ := hsome
    have hge := hw.le k hk
    simp only [if_neg hno] at hge
    exact Int.le_antisymm (hle w hw.lt) hge
  refine ⟨?_, fun i hi hat => ?_⟩
  · by_cases hevw : ev w
    · rw [if_pos hevw] at hwv
      exact Or.inr (by omega)
    · exact Or.inl hevw
  · have hlt := hw.first i hi
    simp only [hwv] at hlt
    rcases hat with hno | heq
    · rw [if_neg hno] at hlt
      exact Int.lt_irrefl _ hlt
    · split at hlt
      · omega
      · exact Int.lt_irrefl _ hlt

end Offset

/-! ## The two winners -/

namespace Q12Features
variable (v : Q12Features)

theorem openScore_firstMax : FirstMax classCount v.openScore (fixedWinner v.pixels v.features) := by
  have h := firstMax_spec (classCount - 1) fun index => (fixedScores v.pixels v.features).getD index 0
  exact FirstMax.congr h (fixedScores_eq v.pixels v.features)

/-- The scores the driver computes. -/
def driverScore (class' : Nat) : Int :=
  if (classModel class').Evaluated v.pixels v.features then
    (classModel class').plainScore v.features + windowsRuntimeOffsetQ24
  else excludedScoreQ24

theorem driverScore_gt {k : Nat} (hk : k < classCount) : s64Min < v.driverScore k := by
  unfold driverScore
  split
  · next h =>
    have hge := ClassifierModel.plainScore_ge (classModel_offset k hk) h.2
    unfold s64Min windowsRuntimeOffsetQ24
    omega
  · decide

theorem driverScore_firstMax (behaviorV2 : Bool) (base : Contact) :
    FirstMax classCount v.driverScore (classifyContact ⟨false, behaviorV2⟩ (v.contact base)).2 := by
  obtain ⟨scores, hscores, _, hbest⟩ := classifyContact_scores ⟨false, behaviorV2⟩ (v.contact base)
  have hadjust : adjustScore3 ⟨false, behaviorV2⟩ (v.contact base) scores = scores := rfl
  rw [hbest, hadjust]
  have heq : ∀ k, k < classCount → scores k = v.driverScore k := fun k hk =>
    (hscores k hk).trans (ClassifierModel.scoreQ24_eq (classModel_means k hk) v.fit v.pixels)
  refine FirstMax.congr (bestClass_firstMax fun k hk => ?_) heq
  rw [heq k hk]
  exact v.driverScore_gt hk

/-- The driver scores the class as one that is left out. -/
def AtSentinel (class' : Nat) : Prop := ¬ v.Evaluated class' ∨ v.plainScore class' = keptScoreQ24

theorem openScore_admitted {k : Nat} (h : v.Admitted k) : v.openScore k = v.plainScore k := if_pos h

theorem openScore_excluded {k : Nat} (h : ¬ v.Admitted k) :
    v.openScore k = excludedScoreQ24 := if_neg h

theorem plainScore_saturated {k : Nat} (hk : k < classCount) (h : v.Saturates k) :
    v.plainScore k ≤ excludedScoreQ24 :=
  ClassifierModel.plainScore_saturated (classModel_offset k hk) h

/-- The driver's class: that of the extractor, or the first one at the sentinel. -/
theorem driverWinner_cases {w : Nat} (hw : FirstMax classCount v.driverScore w) :
    ((∀ k, k < classCount → v.Evaluated k) ∨ ∃ k, k < classCount ∧ v.Admitted k ∧
    keptScoreQ24 < v.plainScore k) ∧
        w = fixedWinner v.pixels v.features ∨
      ¬ (∀ k, k < classCount → v.Evaluated k) ∧
        (∀ k, k < classCount → v.Admitted k → v.plainScore k ≤ keptScoreQ24) ∧
        v.AtSentinel w ∧ (∀ i, i < w → ¬ v.AtSentinel i) ∧
        (w = fixedWinner v.pixels v.features ↔ FirstMax classCount v.openScore w) := by
  have hv := v.openScore_firstMax
  have hadm : ∀ k, k < classCount → v.Evaluated k → v.Admitted k := fun k _ h => h.1
  have hlow : ∀ k, k < classCount → v.Admitted k → ¬ v.Evaluated k →
    v.plainScore k ≤ excludedScoreQ24 :=
    fun k hk ha hno => v.plainScore_saturated hk (not_not.mp fun hs => hno ⟨ha, hs⟩)
  by_cases hkept : (∀ k, k < classCount → v.Evaluated k) ∨
      ∃ k, k < classCount ∧ v.Admitted k ∧ keptScoreQ24 < v.plainScore k
  · exact Or.inl ⟨hkept, hw.offset_eq (by decide) hadm hlow hv hkept⟩
  · obtain ⟨hall, hbig⟩ := not_or.mp hkept
    have hsome : ∃ k, k < classCount ∧ ¬ v.Evaluated k := by simpa using hall
    have hnone : ∀ k, k < classCount → v.Admitted k → v.plainScore k ≤ keptScoreQ24 :=
      fun k hk ha => not_lt.mp fun hlt => hbig ⟨k, hk, ha, hlt⟩
    obtain ⟨hat, hfirst⟩ := hw.offset_floor hadm hsome hnone
    exact Or.inr ⟨hall, hnone, hat, hfirst, fun heq => heq ▸ hv, fun hmax => hmax.unique hv⟩

/-- With class 0 left out it wins wherever no score stays above the sentinel. -/
theorem winner_large {w : Nat} (hw : FirstMax classCount v.driverScore w) (hp : 25 < v.pixels) :
    w = fixedWinner v.pixels v.features ↔ v.OffBand := by
  have h0 : ¬ v.Admitted 0 := fun h => absurd h (Nat.not_le.mpr hp)
  have hopen0 := v.openScore_excluded h0
  rcases v.driverWinner_cases hw with ⟨hall | hbig, heq⟩ | ⟨_, hnone, _, hfirst, hiff⟩
  · exact absurd (hall 0 (by decide)).1 h0
  · exact iff_of_true heq (Or.inl hbig)
  · have hzero : w = 0 := Nat.eq_zero_of_not_pos fun hpos =>
      hfirst 0 hpos (Or.inl fun he => h0 he.1)
    subst hzero
    rw [hiff]
    apply Iff.intro
    · intro hmax
      refine Or.inr fun k hk ha => ?_
      have hle := hmax.le k hk
      rwa [hopen0, v.openScore_admitted ha] at hle
    · intro hkept
      rcases hkept with ⟨k, hk, ha, hlt⟩ | hle
      · exact absurd hlt (not_lt.mpr (hnone k hk ha))
      · refine ⟨by decide, fun k hk => ?_, fun i hi => absurd hi (Nat.not_lt_zero i)⟩
        rw [hopen0]
        by_cases ha : v.Admitted k
        · rw [v.openScore_admitted ha]
          exact hle k hk ha
        · exact Int.le_of_eq (v.openScore_excluded ha)

theorem admitted_small (hp : v.pixels ≤ 25) : ∀ k, k < classCount → v.Admitted k := by
  have hleast : ∀ k, k < classCount → 25 ≤ (classModel k).maxPoints := by decide
  exact fun k hk => Nat.le_trans hp (hleast k hk)

/-- On a small contact class 3 scores above every class that saturates. -/
theorem plainScore_three (hp : v.pixels ≤ 25) {k : Nat} (hk : k < classCount) (hs : v.Saturates k) :
    v.plainScore k < v.plainScore 3 := by
  have hsmall : ∀ col, col < featureCount → 0 ≤ v.features col ∧ v.features col ≤ smallCap col := by
    intro col hcol
    have hle := v.le col hcol
    unfold features smallCap
    split
    · next hzero =>
      subst hzero
      have hz := v.zero
      unfold classifierShift at *
      omega
    · omega
  have hthree := form_three_lt hsmall
  have hge := hs.form_ge
  have hoff := (classModel_offset k hk).2
  have hoff3 := (classModel_offset 3 (by decide)).1
  unfold plainScore ClassifierModel.plainScore classifierShift
  omega

/-- With every class admitted the first class at the sentinel wins in the driver: in the extractor
it does so only with a score that falls on the sentinel, as no saturated class has the greatest. -/
theorem winner_small {w : Nat} (hw : FirstMax classCount v.driverScore w) (hp : v.pixels ≤ 25) :
    w = fixedWinner v.pixels v.features ↔ v.OffFloor := by
  have hadm := v.admitted_small hp
  have hopen : ∀ k, k < classCount → v.openScore k = v.plainScore k :=
    fun k hk => v.openScore_admitted (hadm k hk)
  have hsat : ∀ k, k < classCount → (¬ v.Evaluated k ↔ v.Saturates k) := fun k hk =>
    ⟨fun hno => not_not.mp fun hs => hno ⟨hadm k hk, hs⟩, fun hs he => he.2 hs⟩
  rcases v.driverWinner_cases hw with ⟨hkept, heq⟩ | ⟨hall, hnone, hat, hfirst, hiff⟩
  · refine iff_of_true heq (hkept.imp (fun hall k hk => (hall k hk).2) fun hbig => Or.inl ?_)
    obtain ⟨k, hk, _, hlt⟩ := hbig
    exact ⟨k, hk, hlt⟩
  · rw [hiff]
    apply Iff.intro
    · intro hmax
      have hkeptw : v.plainScore w = keptScoreQ24 := by
        rcases hat with hno | heq
        · have hlt := v.plainScore_three hp hw.lt ((hsat w hw.lt).mp hno)
          have hle := hmax.le 3 (by decide)
          rw [hopen 3 (by decide), hopen w hw.lt] at hle
          exact absurd hlt (not_lt.mpr hle)
        · exact heq
      exact Or.inr (Or.inr ⟨w, hw.lt, hkeptw, fun i hi hs =>
        hfirst i hi (Or.inl ((hsat i (Nat.lt_trans hi hw.lt)).mpr hs))⟩)
    · intro hkept
      rcases hkept with hno | ⟨k, hk, hlt⟩ | ⟨j, hj, hkeptj, hbefore⟩
      · exact absurd (fun k hk => not_not.mp fun he => hno k hk ((hsat k hk).mp he)) hall
      · exact absurd hlt (not_lt.mpr (hnone k hk (hadm k hk)))
      · have hwj : w ≤ j := not_lt.mp fun hlt => hfirst j hlt (Or.inr hkeptj)
        have hkeptw : v.plainScore w = keptScoreQ24 := by
          rcases Nat.lt_or_eq_of_le hwj with hlt | rfl
          · exact hat.resolve_left fun hno => hbefore w hlt ((hsat w hw.lt).mp hno)
          · exact hkeptj
        refine ⟨hw.lt, fun k hk => ?_, fun i hi => ?_⟩
        · rw [hopen k hk, hopen w hw.lt, hkeptw]
          exact hnone k hk (hadm k hk)
        · have hin := Nat.lt_trans hi hw.lt
          rw [hopen i hin, hopen w hw.lt, hkeptw]
          exact lt_of_le_of_ne (hnone i hin (hadm i hin)) fun heq => hfirst i hi (Or.inr heq)

/-- The driver and the extractor name the same class exactly on the features with `WinnerKept`. -/
theorem fixedWinner_iff (behaviorV2 : Bool) (base : Contact) :
    (classifyContact ⟨false, behaviorV2⟩ (v.contact base)).2 = fixedWinner v.pixels v.features ↔
      v.WinnerKept := by
  have hw := v.driverScore_firstMax behaviorV2 base
  rcases Nat.lt_or_ge 25 v.pixels with hp | hp
  · rw [v.winner_large hw hp]
    exact ⟨fun h => ⟨fun _ => h, fun hle => absurd hp (Nat.not_lt.mpr hle)⟩, fun h => h.1 hp⟩
  · rw [v.winner_small hw hp]
    exact ⟨fun h => ⟨fun hlt => absurd hp (Nat.not_le.mpr hlt), fun _ => h⟩, fun h => h.2 hp⟩

end Q12Features

/-- 32 pixels whose best score lies above the sentinel by less than the offset. -/
def bandFeatures : Q12Features where
  pixels := 32
  value col := [131072, 131072, 131072, 131072, 4096, 4096, 4096, 6000, 6000, 217629].getD col 0
  le := by decide
  zero := rfl

theorem winner_in_band :
    (classifyContact ⟨false, false⟩ (bandFeatures.contact {})).2 = 0 ∧
      fixedWinner bandFeatures.pixels bandFeatures.features = 1 := by
  decide +kernel

end Sp11Touch
