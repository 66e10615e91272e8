import Sp11Touch.L1Encoding.HeatWriter
import Sp11Touch.L2Pipeline.FeatureRange
import Sp11Touch.L2Pipeline.ShiftedCells
/-!
# The sentinel of an excluded class

A class that does not admit the pixels keeps the score `-9999`, and the greatest
score wins. Class 0 comes first and admits 25 pixels. Above that an evaluated
class wins exactly when one of them scores above the sentinel
(`evaluated_wins_iff`): nothing in the code bounds the scores from below.
-/
namespace Sp11Touch
open CInt Region

/-- What `g6ts_classify_contact` takes from the score of a class with `windows_orchestrator`. -/
def penalty (prof : Profile) (contact : Contact) (class' : Nat) : Int :=
  if prof.windowsOrchestrator = true ∧ class' = 3 then
    if contact.localPeakCount = 1 then windowsScore3PrimaryQ24
    else if contact.strongLocalPeakCount = 1 then windowsScore3SingleQ24 else 0
  else 0

theorem penalty_bounds (prof : Profile) (contact : Contact) (class' : Nat) :
    0 ≤ penalty prof contact class' ∧ penalty prof contact class' ≤ 2 ^ 30 := by
  unfold penalty
  split
  · split
    · decide
    split
    · decide
    · decide
  · decide

theorem penalty_zero (prof : Profile) (contact : Contact) : penalty prof contact 0 = 0 := by
  unfold penalty
  rw [if_neg fun h => absurd h.2 (by decide)]

theorem adjustScore3_eq (prof : Profile) (contact : Contact) (scores : Nat → Int) (class' : Nat) :
    adjustScore3 prof contact scores class' = scores class' - penalty prof contact class' := by
  have hupdate : ∀ v : Int, Function.update scores 3 (scores 3 - v) class' =
      scores class' - if class' = 3 then v else 0 := by
    intro v
    by_cases h : class' = 3
    · rw [h, Function.update_self, if_pos rfl]
    · rw [Function.update_of_ne h, if_neg h, Int.sub_zero]
  unfold adjustScore3 penalty
  cases prof.windowsOrchestrator with
  | false => simp
  | true =>
    simp only [if_true, true_and]
    split
    · rw [hupdate]
    split
    · rw [hupdate]
    · simp

namespace Accepted
variable {prof : Profile} {ts : Heat} (a : Accepted prof ts)

/-- The contact `g6ts_classify_contact` is called with. -/
def classified : Contact := featuredContact prof a.heat (locateContact a.contact)

/-- The class admits the pixels, and its distance does not saturate. -/
def Evaluated (class' : Nat) : Prop :=
  a.contact.pixels ≤ (classModel class').maxPoints ∧
    (classModel class').distance a.shaped.featuresQ12 ≠ s64Max

/-- An evaluated class wins if there is one. -/
def EvaluatedWins : Prop := (∃ k, k < classCount ∧ a.Evaluated k) → a.Evaluated a.shaped.shapeClass

/-- What half the squared length of the residuals stays below in a score above the sentinel. -/
def reach (class' : Nat) : Int :=
  (classModel class').scoreOffsetQ12 * 2 ^ classifierShift + windowsRuntimeOffsetQ24 -
    penalty prof a.shaped class' - excludedScoreQ24

/-- The class admits the pixels, and the squared length is short enough. -/
def ScoresAbove (class' : Nat) : Prop :=
  a.contact.pixels ≤ (classModel class').maxPoints ∧
    (classModel class').form a.shaped.featuresQ12 < 2 * a.reach class'

/-! ## The scores of an accepted component -/

/-- The scores the winner is taken from. -/
def finalScore (class' : Nat) : Int :=
  (if a.contact.pixels ≤ (classModel class').maxPoints then
    (classModel class').plainScore a.shaped.featuresQ12 + windowsRuntimeOffsetQ24
  else excludedScoreQ24) - penalty prof a.shaped class'

/-- No distance saturates, so the classes that admit the pixels are the evaluated ones. -/
theorem evaluated_iff {k : Nat} (hk : k < classCount) : a.Evaluated k ↔
    a.contact.pixels ≤ (classModel k).maxPoints := by
  refine ⟨fun h => h.1, fun h => ⟨h, ?_⟩⟩
  have hno := a.inRange.not_saturates hk
  rw [ClassifierModel.distance_eq (classModel_means k hk) a.inRange.fit, if_neg hno]
  exact fun heq => hno (Or.inr (Int.le_of_eq heq.symm))

theorem classScores_eq {k : Nat} (hk : k < classCount) :
    classScores a.contact.pixels a.shaped.featuresQ12 k =
    if a.contact.pixels ≤ (classModel k).maxPoints then
      (classModel k).plainScore a.shaped.featuresQ12 + windowsRuntimeOffsetQ24
    else excludedScoreQ24 := by
  have heq := ClassifierModel.scoreQ24_eq (classModel_means k hk) a.inRange.fit a.contact.pixels
  have hevaluated : (classModel k).Evaluated a.contact.pixels a.shaped.featuresQ12 ↔
      a.contact.pixels ≤ (classModel k).maxPoints :=
      ⟨fun h => h.1, fun h => ⟨h, a.inRange.not_saturates hk⟩⟩
  unfold classScores
  simp only [heq, hevaluated]

theorem finalScore_gt {k : Nat} (hk : k < classCount) : s64Min < a.finalScore k := by
  have hpenalty := penalty_bounds prof a.shaped k
  have hge := ClassifierModel.plainScore_ge (classModel_offset k hk) (a.inRange.not_saturates hk)
  unfold finalScore s64Min excludedScoreQ24 windowsRuntimeOffsetQ24 windowsScoreShift
  split
  · omega
  · omega

theorem shaped_eq : a.shaped = { (classifyContact prof a.classified).1 with
    shapeClass := (classifyContact prof a.classified).2
    shapeAllowed := (classifyContact prof a.classified).2 == 0 ||
      (classifyContact prof a.classified).2 == 2 } :=
  shapeContact_eq prof a.heat (locateContact a.contact)

theorem classified_pixels : a.classified.pixels = a.contact.pixels :=
  ((SameBox.of_place (featuredContact_place prof a.heat _)).trans
    ((centredContact_box prof a.heat _).trans (locateContact_box a.contact))).pixels

theorem classified_features : a.classified.featuresQ12 = a.shaped.featuresQ12 := by
  rw [a.shaped_eq]
  exact (classifyContact_features prof a.classified).symm

theorem classified_penalty (class' : Nat) : penalty prof a.classified class' =
    penalty prof a.shaped class' := by
  rw [a.shaped_eq]
  rfl

/-- The class of an accepted component is the first of the greatest score. -/
theorem shapeClass_firstMax : FirstMax classCount a.finalScore a.shaped.shapeClass := by
  obtain ⟨scores, hscores, _, hbest⟩ := classifyContact_scores prof a.classified
  have hclass : a.shaped.shapeClass = (classifyContact prof a.classified).2 := by rw [a.shaped_eq]
  have heq : ∀ k, k < classCount → adjustScore3 prof a.classified scores k = a.finalScore k := by
    intro k hk
    rw [adjustScore3_eq, hscores k hk, a.classified_pixels, a.classified_features,
      a.classified_penalty, a.classScores_eq hk]
    rfl
  rw [hclass, hbest]
  refine FirstMax.congr (bestClass_firstMax fun k hk => ?_) heq
  rw [heq k hk]
  exact a.finalScore_gt hk

/-- A score is above the sentinel where the class admits the pixels and the length is short enough. -/
theorem finalScore_above (class' : Nat) : excludedScoreQ24 < a.finalScore class' ↔
    a.ScoresAbove class' := by
  have hpenalty := (penalty_bounds prof a.shaped class').1
  unfold finalScore ScoresAbove reach ClassifierModel.plainScore
  by_cases hp : a.contact.pixels ≤ (classModel class').maxPoints
  · rw [if_pos hp]
    refine ⟨fun h => ⟨hp, by omega⟩, fun h => ?_⟩
    have := h.2
    omega
  · rw [if_neg hp]
    exact ⟨fun h => by omega, fun h => absurd h.1 hp⟩

/-- The wide classes are always evaluated. -/
theorem evaluated_one : a.Evaluated 1 := by
  have hpixels : a.contact.pixels ≤ 48 := a.pixels_le
  exact (a.evaluated_iff (by decide)).mpr (Nat.le_trans hpixels (by decide))

theorem above_iff : (∃ k, k < classCount ∧ a.ScoresAbove k) ↔
    excludedScoreQ24 < a.finalScore a.shaped.shapeClass := by
  rw [a.shapeClass_firstMax.above_iff]
  simp only [a.finalScore_above]

/-- With too many pixels for class 0 and no score above the sentinel, class 0 wins. -/
theorem shapeClass_zero (hmany : ¬ a.contact.pixels ≤ (classModel 0).maxPoints)
    (hnone : ¬ ∃ k, k < classCount ∧ a.ScoresAbove k) : a.shaped.shapeClass = 0 := by
  have hfloor : a.finalScore 0 = excludedScoreQ24 := by
    unfold finalScore
    rw [if_neg hmany, penalty_zero, Int.sub_zero]
  refine a.shapeClass_firstMax.eq_zero fun k hk => ?_
  rw [hfloor]
  exact not_lt.mp fun hlt => hnone ⟨k, hk, (a.finalScore_above k).mp hlt⟩

end Accepted

/-- A class that was left out wins exactly above 25 pixels, when every evaluated class scores at the sentinel or below. -/
theorem evaluated_wins_iff {prof : Profile} {ts : Heat} (a : Accepted prof ts) :
    a.EvaluatedWins ↔ a.contact.pixels ≤ (classModel 0).maxPoints ∨ ∃ k, k < classCount ∧
    a.ScoresAbove k := by
  have hleast : ∀ k, k < classCount → (classModel 0).maxPoints ≤
    (classModel k).maxPoints := by decide
  have hlt := a.shapeClass_firstMax.lt
  apply Iff.intro
  · intro hwins
    have hevaluated := hwins ⟨1, by decide, a.evaluated_one⟩
    by_contra hno
    obtain ⟨hmany, hnone⟩ := not_or.mp hno
    rw [a.shapeClass_zero hmany hnone] at hevaluated
    exact hmany hevaluated.1
  · intro h _
    refine (a.evaluated_iff hlt).mpr ?_
    rcases h with hfew | hsome
    · exact Nat.le_trans hfew (hleast _ hlt)
    · exact ((a.finalScore_above _).mp (a.above_iff.mp hsome)).1

/-! ## A component of scattered peaks -/

/-- The bytes of the upper left corner: 36 cells that lie apart, one of them the peak, and 12 weak cells that link them. -/
def scatteredRows : List (List Nat) :=
  let o := 200
  let b := 104
  let w := 160
  let p := 72
  [[o, o, b, o, b, o, b, o, b, o, o],
   [o, b, w, b, w, p, w, b, w, b, o],
   [b, w, b, o, b, o, b, o, b, o, o],
   [o, b, o, b, o, b, o, b, w, b, o],
   [b, w, b, w, b, w, b, o, b, o, o],
   [o, b, o, b, o, b, o, b, o, b, o],
   [o, o, o, o, b, w, b, w, b, w, b],
   [o, o, o, o, o, b, o, b, o, b, o]]

def scatteredValue (cell : Nat) : Nat := (scatteredRows.getD (cell / heatCols) []).getD
    (cell % heatCols) 200

/-- The active cells, row by row. -/
def scatteredCells : List Nat :=
  (List.range 8).flatMap fun row => ((List.range 11).map fun col =>
    row * heatCols + col).filter fun cell =>
    decide (scatteredValue cell ≤ heatActiveMax)

/-- The active cells again, each next to one before it. -/
def scatteredRoute : List Nat :=
  [70, 69, 71, 138, 137, 72, 136, 205, 4, 73, 140, 273, 74, 272, 274, 341, 6, 75, 142, 275, 76, 207,
    276, 343, 8, 77, 144,
   277, 212, 209, 278, 345, 211, 213, 280, 413, 412, 414, 481, 415, 347, 416, 483, 417,
     349, 418, 485]

/-- A grid of these bytes with no noise record. -/
structure Scattered (ts : Heat) : Prop where
  value : ∀ cell, cell < heatSamples → ts.value cell = scatteredValue cell
  quiet : ts.buf.nsrValid = false

/-- A component of these cells, as the moments read it. -/
def scatteredHeat : Heat :=
  { Heat.zero with
    heatComponent := fun _ => true
    buf.heatmap := fun cell => UInt8.ofNat (scatteredValue cell) }

def scatteredMoments : Moments := ⟨27435, 139764, 90588, 925518, 424188, 496899⟩

/-- The features of the component. -/
def scatteredFeatures (col : Nat) : Int :=
  [196608, 4096, 4096, 4096, 147456, 4096, 4096, 5801, 6757, 409600].getD col 0

deriving instance DecidableEq for Moments

theorem scatteredValue_rest {cell : Nat} (h : ¬ (cell / heatCols < 8 ∧ cell % heatCols < 11)) :
    scatteredValue cell = 200 := by
  have hlen : ∀ row ∈ List.range 8, (scatteredRows.getD row []).length = 11 := by decide +kernel
  unfold scatteredValue
  by_cases hrow : cell / heatCols < 8
  · have hcol : 11 ≤ cell % heatCols := not_lt.mp fun hcol => h ⟨hrow, hcol⟩
    exact List.getD_eq_default _ 200 (hlen _ (List.mem_range.mpr hrow) ▸ hcol)
  · rw [List.getD_eq_default scatteredRows [] (not_lt.mp hrow)]
    rfl

theorem scatteredValue_le (cell : Nat) : scatteredValue cell ≤ 200 := by
  have hall : ∀ row ∈ List.range 8, ∀ col ∈ List.range 11, (scatteredRows.getD row []).getD col
    200 ≤ 200 := by decide +kernel
  by_cases h : cell / heatCols < 8 ∧ cell % heatCols < 11
  · exact hall _ (List.mem_range.mpr h.1) _ (List.mem_range.mpr h.2)
  · exact Nat.le_of_eq (scatteredValue_rest h)

theorem scatteredCells_iff {cell : Nat} : cell ∈ scatteredCells ↔
    scatteredValue cell ≤ heatActiveMax := by
  have hmem : cell ∈ scatteredCells ↔
      ∃ row, row < 8 ∧ (∃ col, col < 11 ∧ row * heatCols + col = cell) ∧
      scatteredValue cell ≤ heatActiveMax := by
    simp [scatteredCells]
  rw [hmem]
  refine ⟨fun h => h.elim fun _ h => h.2.2, fun h => ?_⟩
  by_cases hcorner : cell / heatCols < 8 ∧ cell % heatCols < 11
  · exact ⟨_, hcorner.1, ⟨_, hcorner.2, Nat.div_add_mod' cell heatCols⟩, h⟩
  · rw [scatteredValue_rest hcorner] at h
    exact absurd h (by decide)

theorem scatteredCells_lt : ∀ cell ∈ scatteredCells, cell < heatSamples := by
  decide +kernel

theorem scatteredCells_sorted : scatteredCells.Pairwise (· < ·) := by
  decide +kernel

theorem scatteredCells_nodup : scatteredCells.Nodup := scatteredCells_sorted.imp Nat.ne_of_lt

theorem scatteredRoute_iff {cell : Nat} : cell ∈ 2 :: scatteredRoute ↔ cell ∈ scatteredCells := by
  have hsame : (∀ cell ∈ 2 :: scatteredRoute, cell ∈ scatteredCells) ∧
      ∀ cell ∈ scatteredCells, cell ∈ 2 :: scatteredRoute := by
    decide +kernel
  exact ⟨hsame.1 cell, hsame.2 cell⟩

theorem scatteredRoute_grown : Grown heatAdjacent [2] scatteredRoute := by
  decide +kernel

/-- The cells of a pass; those of the first pass, and so of each, lie apart. -/
def scatteredPass (pass : Nat) : List Nat :=
  scatteredCells.filter fun cell => decide (scatteredValue cell ≤ secondaryCutoff 72 pass)

section
variable {pass : Nat} (hp : pass < 3)
include hp

theorem scatteredPass_strong {cell : Nat} (hc : cell ∈ scatteredPass pass) : cell ∈ scatteredCells ∧
    (cell / heatCols + cell % heatCols) % 2 = 0 ∧
    secondarySeedQ12 < signalQ12 (scatteredValue cell) := by
  have hall : ∀ pass, pass < 3 → ∀ cell ∈ scatteredPass pass,
    (cell / heatCols + cell % heatCols) % 2 = 0 ∧
      secondarySeedQ12 < signalQ12 (scatteredValue cell) := by
    decide +kernel
  exact ⟨List.mem_of_mem_filter hc, hall pass hp cell hc⟩

theorem scatteredPass_ne : scatteredPass pass ≠ [] := by
  have hpeak : ∀ pass, pass < 3 → 73 ∈ scatteredPass pass := by decide +kernel
  exact List.ne_nil_of_mem (hpeak pass hp)

theorem scatteredPass_apart {x y : Nat} (hx : x ∈ scatteredPass pass)
    (hy : y ∈ scatteredPass pass) :
    ¬ heatAdjacent x y := by
  intro hadj
  have heven := (scatteredPass_strong hp hx).2.1
  rw [← (scatteredPass_strong hp hy).2.1] at heven
  exact heatAdjacent_parity hadj heven

end

namespace Scattered
variable {ts : Heat} (h : Scattered ts)
include h

theorem active : Flood.OkCells heatSamples ts.heatActive = {cell | cell ∈ scatteredCells} := by
  ext cell
  have hiff : ∀ hlt : cell < heatSamples, ts.heatActive cell = true ↔ cell ∈ scatteredCells := by
    intro hlt
    unfold Heat.heatActive
    rw [h.value cell hlt, decide_eq_true_iff, scatteredCells_iff]
  exact ⟨fun hc => (hiff hc.1).mp hc.2, fun hc =>
    ⟨scatteredCells_lt cell hc, (hiff (scatteredCells_lt cell hc)).mpr hc⟩⟩

theorem accepted (prof : Profile) : ∃ a : Accepted prof ts, {cell | cell ∈ a.cells} =
    {cell | cell ∈ scatteredCells} := by
  have hroute : {cell | cell ∈ 2 :: scatteredRoute} = {cell | cell ∈ scatteredCells} :=
    Set.ext fun _ => scatteredRoute_iff
  have hcorner : ∀ cell ∈ 2 :: scatteredRoute, cell / heatCols < 8 ∧
    cell % heatCols < 11 := by decide +kernel
  obtain ⟨a, ha⟩ := exists_accepted_cells prof (h.active.trans hroute.symm)
    h.quiet scatteredRoute_grown
    (by decide +kernel) (by decide) (by decide) fun a ha b _ =>
      ⟨Nat.lt_add_left _ (Nat.lt_trans (hcorner a ha).1 (by decide)),
        Nat.lt_add_left _ (Nat.lt_trans (hcorner a ha).2 (by decide))⟩
  exact ⟨a, ha.trans hroute⟩

end Scattered

/-- The component of these cells in such a grid. -/
structure ScatteredIn {prof : Profile} {ts : Heat} (a : Accepted prof ts) : Prop where
  grid : Scattered ts
  cells : ∀ cell, cell ∈ a.cells ↔ cell ∈ scatteredCells

theorem scattered_axes : axisQ12 (majorHalf scatteredMoments) = 54290 ∧
    axisQ12 (minorHalf scatteredMoments) = 38332 := by
  have hroot : discriminantQ12 scatteredMoments = 16914 :=
    congrArg Int.ofNat (intSqrt64_eq (by decide +kernel))
  have hmajor : intSqrt64 ((traceQ12 scatteredMoments + 16914).tdiv 2 * oneQ12).toNat = 11754 :=
    intSqrt64_eq (by decide +kernel)
  have hminor : intSqrt64 (max 0 ((traceQ12 scatteredMoments - 16914).tdiv 2) * oneQ12).toNat =
    8299 :=
    intSqrt64_eq (by decide +kernel)
  unfold axisQ12
  rw [majorHalf_eq, minorHalf_eq, hroot, hmajor, hminor]
  decide

namespace ScatteredIn
variable {prof : Profile} {ts : Heat} {a : Accepted prof ts} (h : ScatteredIn a)
include h

theorem value {cell : Nat} (hc : cell ∈ scatteredCells) : ts.value cell = scatteredValue cell :=
  h.grid.value cell (scatteredCells_lt cell hc)

theorem pixels : a.contact.pixels = 48 := by
  have hperm : a.cells.Perm scatteredCells :=
    (List.perm_ext_iff_of_nodup a.nodup scatteredCells_nodup).mpr h.cells
  rw [a.exact.pixels, hperm.length_eq]
  decide +kernel

theorem peak : a.contact.peakValue = 72 := by
  have hleast : ∀ cell ∈ scatteredCells, 72 ≤ scatteredValue cell := by decide +kernel
  have hpeak : 73 ∈ scatteredCells := by decide +kernel
  refine a.exact.peak.unique ⟨⟨73, (h.cells 73).mpr hpeak, ?_⟩, fun v hv => ?_⟩
  · rw [h.value hpeak]
    decide +kernel
  · obtain ⟨cell, hc, rfl⟩ := hv
    rw [h.value ((h.cells cell).mp hc)]
    exact hleast cell ((h.cells cell).mp hc)

/-- Eleven columns are too many for the halo. -/
theorem not_small : ¬ SmallSpan a.contact := by
  have hleft := a.exact.box.left.2 ⟨136, (h.cells 136).mpr (by decide +kernel), rfl⟩
  have hright := a.exact.box.right.2 ⟨418, (h.cells 418).mpr (by decide +kernel), rfl⟩
  have hfirst : 136 % heatCols = 0 := by decide
  have hlast : 418 % heatCols = 10 := by decide
  intro hs
  have hcols := hs.cols
  omega

theorem area (pass : Nat) : secondaryArea a.heat (secondaryCutoff 72 pass) =
    {cell | cell ∈ scatteredPass pass} := by
  ext cell
  have hvalue : a.heat.value cell = ts.value cell := congrFun a.value cell
  simp only [secondaryArea, Flood.OkCells, secondaryCell, scatteredPass, Set.mem_ofPred_eq,
    List.mem_filter, Bool.and_eq_true,
    decide_eq_true_eq, a.flags, h.cells, hvalue]
  refine ⟨fun hc => ⟨hc.2.1, h.value hc.2.1 ▸ hc.2.2⟩,
    fun hc => ⟨scatteredCells_lt cell hc.1, hc.1, ?_⟩⟩
  rw [h.value hc.1]
  exact hc.2

/-- Each cell of a pass is an island. -/
theorem pass_features (pass : Nat) (hp : pass < 3) : a.shaped.featuresQ12 (1 + pass) = 4096 ∧
    a.shaped.featuresQ12 (4 + pass) = ((scatteredPass pass).length * oneQ12 : Nat) := by
  obtain ⟨accepted, largest, hexact, h1, h4⟩ := a.rerun (by rw [h.peak]; decide) pass hp
  rw [h.peak] at hexact
  have hseed : ∀ cell ∈ scatteredPass pass, secondarySeedQ12 < signalQ12 (a.heat.value cell) := by
    intro cell hc
    obtain ⟨hin, _, hsignal⟩ := scatteredPass_strong hp hc
    rw [a.value, h.value hin]
    exact hsignal
  obtain ⟨haccepted, hlargest⟩ := hexact.apart (h.area pass)
    (scatteredCells_nodup.filter _) (scatteredPass_ne hp)
    (fun _ hx _ hy => scatteredPass_apart hp hx hy) hseed
  rw [h1, h4, haccepted, hlargest]
  exact ⟨rfl, rfl⟩

theorem moments : a.moments = scatteredMoments := by
  have hflagged : flagged a.haloHeat = scatteredCells := by
    refine (flagged_sorted _).eq_of_mem_iff scatteredCells_sorted fun cell => ?_
    rw [mem_flagged, a.haloHeat_fields.2, a.flags, h.cells]
    exact and_iff_right_of_imp (scatteredCells_lt cell)
  have hbyte : ∀ cell ∈ scatteredCells, scatteredHeat.value cell = scatteredValue cell := by
    decide +kernel
  have hstep : ∀ m : Moments, ∀ cell ∈ scatteredCells, momentsStep a.haloHeat cell m =
    momentsStep scatteredHeat cell m := by
    intro m cell hc
    have hflag : a.haloHeat.heatComponent cell = true := by
      rw [a.haloHeat_fields.2]
      exact a.flags.mpr ((h.cells cell).mpr hc)
    have hvalue : a.haloHeat.value cell = scatteredHeat.value cell := by
      rw [a.haloHeat_fields.1, a.value, h.value hc, hbyte cell hc]
    unfold momentsStep
    rw [hflag, hvalue]
    rfl
  unfold Accepted.moments
  rw [momentSums_flagged, hflagged, List.foldl_ext _ _ _ hstep]
  decide +kernel

theorem features : ∀ col, col < featureCount →
    a.shaped.featuresQ12 col = scatteredFeatures col := by
  have hgeometry := geometryExact a
  have hseven := hgeometry.seven
  have height := hgeometry.eight (by rw [h.pixels]; decide)
  rw [h.moments] at hseven height
  rw [h.pixels] at height
  intro col hc
  match col, hc with
  | 0, _ => rw [a.shaped_zero, h.pixels]; rfl
  | 1, _ => exact (h.pass_features 0 (by decide)).1
  | 2, _ => exact (h.pass_features 1 (by decide)).1
  | 3, _ => exact (h.pass_features 2 (by decide)).1
  | 4, _ => rw [(h.pass_features 0 (by decide)).2]; decide +kernel
  | 5, _ => rw [(h.pass_features 1 (by decide)).2]; decide +kernel
  | 6, _ => rw [(h.pass_features 2 (by decide)).2]; decide +kernel
  | 7, _ => rw [hseven, scattered_axes.1, scattered_axes.2]; rfl
  | 8, _ => rw [height]; decide +kernel
  | 9, _ => rw [(haloExact a).large h.not_small]; rfl

/-- The two wide classes score below the sentinel, and the others do not admit the pixels. -/
theorem none_above : ¬ ∃ k, k < classCount ∧ a.ScoresAbove k := by
  have hlow : ∀ k, k < classCount → 48 ≤ (classModel k).maxPoints →
      2 * ((classModel k).scoreOffsetQ12 * 2 ^ classifierShift +
      windowsRuntimeOffsetQ24 - excludedScoreQ24) ≤
        (classModel k).form scatteredFeatures := by
    decide +kernel
  intro hsome
  obtain ⟨k, hk, hadmits, hshort⟩ := hsome
  have hle := hlow k hk (h.pixels ▸ hadmits)
  have hpenalty := (penalty_bounds prof a.shaped k).1
  rw [ClassifierModel.form_congr h.features] at hshort
  unfold Accepted.reach at hshort
  omega

theorem class_zero : a.shaped.shapeClass = 0 :=
  a.shapeClass_zero (by rw [h.pixels]; decide) h.none_above

end ScatteredIn

def scatteredBytes : Bytes := (List.range heatSamples).map fun cell =>
    UInt8.ofNat (scatteredValue cell)

theorem scatteredBytes_length : scatteredBytes.length = heatSamples := by
  simp [scatteredBytes]

/-- The report of the grid. -/
def scatteredContent : Bytes := HeatWriter.content scatteredBytes []

theorem scatteredContent_read : ∃ t, HeatFrame.extractHeatmap scatteredContent Heat.zero.buf =
    (t, .ok ()) ∧
    Scattered { Heat.zero with buf := t } := by
  obtain ⟨t, hread, hcells, hnsr⟩ := HeatWriter.content_read [] scatteredBytes_length Heat.zero.buf
  refine ⟨t, hread, fun cell hc => ?_, hnsr⟩
  have hbyte : t.heatmap cell = UInt8.ofNat (scatteredValue cell) := by
    rw [hcells cell hc]
    simp [scatteredBytes, hc]
  have hle := scatteredValue_le cell
  show (t.heatmap cell).toNat = scatteredValue cell
  rw [hbyte, UInt8.toNat_ofNat']
  omega

/-- A report whose component is allowed as a finger: two classes are evaluated, and one that was left out wins. -/
theorem excluded_class_wins : ∃ t, HeatFrame.extractHeatmap scatteredContent Heat.zero.buf =
    (t, .ok ()) ∧
    ∃ a : Accepted ⟨false, false⟩ { Heat.zero with buf := t },
      a.Evaluated 1 ∧ a.Evaluated 3 ∧ ¬ a.Evaluated a.shaped.shapeClass ∧
      a.shaped.shapeAllowed = true := by
  obtain ⟨t, hread, hgrid⟩ := scatteredContent_read
  obtain ⟨a, hcells⟩ := hgrid.accepted ⟨false, false⟩
  have h : ScatteredIn a := ⟨hgrid, fun cell => Set.ext_iff.mp hcells cell⟩
  refine ⟨t, hread, a, a.evaluated_one, (a.evaluated_iff (by decide)).mpr
    (by rw [h.pixels]; decide), fun hevaluated => ?_, ?_⟩
  · rw [h.class_zero] at hevaluated
    exact absurd (h.pixels ▸ hevaluated.1) (by decide)
  · have hclass : (classifyContact ⟨false, false⟩ a.classified).2 = 0 := by
      have := h.class_zero
      rw [a.shaped_eq] at this
      exact this
    rw [a.shaped_eq]
    simp [hclass]

end Sp11Touch
