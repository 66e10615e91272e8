import Sp11Touch.L2Pipeline.Data
/-!
# The four-class shape classifier

The generated tables of `g6ts_classifier_profile.h` and
`g6ts_classify_contact`. A class scores `offset - distance/2`, where the
distance is the squared length of the transformed feature residual; a class
that admits fewer pixels, or whose distance leaves 64 bits, keeps the score
`-9999`. Sums that reach `S64_MAX` stay there, as after the `break`.
-/
namespace Sp11Touch
open CInt

/-- mirrors phase55/modules/g6ts_classifier_profile.h:10-15 (`struct g6ts_classifier_model`) -/
structure ClassifierModel where
  maxPoints : Nat
  scoreOffsetQ12 : Int
  meansQ12 : List Int
  transformQ12 : List (List Int)

/-- mirrors phase55/modules/g6ts_classifier_profile.h:17-94 (`g6ts_classifier_models`) -/
def classifierModels : List ClassifierModel := [
  ⟨25, 69201,
    [23673, 15143, 11507, 9733, 4096, 4210, 4314, 5825, 4248, 1257],
    [[4436, -4353, -552, -403, 0, -6991, -1734, -11172, 31879, 2290],
     [0, 4722, -4650, -402, 0, -21389, -3782, -1423, 4129, -683],
     [0, 0, 6558, -6653, 0, 16454, -18713, -2170, 4013, -2251],
     [0, 0, 0, 3411, 0, 673, 2973, -4213, 10377, -8562],
     [0, 0, 0, 0, 12952689, 0, 0, 0, 0, 0],
     [0, 0, 0, 0, 0, 34310, -14872, -2125, 1078, 205],
     [0, 0, 0, 0, 0, 0, 19755, -7406, 5165, -4256],
     [0, 0, 0, 0, 0, 0, 0, 18819, -25979, -4623],
     [0, 0, 0, 0, 0, 0, 0, 0, 21619, -2922],
     [0, 0, 0, 0, 0, 0, 0, 0, 0, 17268]]⟩,
  ⟨9999, 22537,
    [44522, 26295, 20014, 16012, 4290, 4502, 4878, 9293, 5060, 6484],
    [[2651, -2405, -791, -287, -7039, -765, -1487, -10236, 21680, 2919],
     [0, 3189, -3490, -145, 3092, -6707, -2049, -2082, 2032, 651],
     [0, 0, 3720, -4152, -1126, 6598, -9724, -1214, -110, -525],
     [0, 0, 0, 1699, 38, 1352, 1558, -6660, 5435, -2881],
     [0, 0, 0, 0, 21196, -3134, -583, -511, -3286, 157],
     [0, 0, 0, 0, 0, 15050, -5342, -295, -1551, 679],
     [0, 0, 0, 0, 0, 0, 8604, -2753, -3285, 297],
     [0, 0, 0, 0, 0, 0, 0, 12285, -20929, 2906],
     [0, 0, 0, 0, 0, 0, 0, 0, 18123, -3031],
     [0, 0, 0, 0, 0, 0, 0, 0, 0, 9982]]⟩,
  ⟨30, 20818,
    [49521, 31956, 23366, 17379, 4602, 5687, 6891, 12408, 6246, 3383],
    [[3114, -2822, -403, -341, -4259, -401, -869, -15060, 38505, 1502],
     [0, 3100, -2802, -323, 8054, -5654, -399, 497, -3197, 691],
     [0, 0, 3909, -3577, 590, 9073, -7027, 399, -4118, -315],
     [0, 0, 0, 2544, 2168, 1200, 4596, -3374, 3258, -2384],
     [0, 0, 0, 0, 12320, -3800, 597, -1647, 1344, 1258],
     [0, 0, 0, 0, 0, 8543, -4070, -1598, 923, 1229],
     [0, 0, 0, 0, 0, 0, 5923, -990, -3679, 2912],
     [0, 0, 0, 0, 0, 0, 0, 17840, -40118, 859],
     [0, 0, 0, 0, 0, 0, 0, 0, 15241, -2536],
     [0, 0, 0, 0, 0, 0, 0, 0, 0, 13165]]⟩,
  ⟨50, 15612,
    [73118, 15909, 11125, 8869, 12805, 13176, 12635, 20448, 12870, 2737],
    [[2283, -2597, -257, -722, -13265, -2680, -428, 181, 4916, 282],
     [0, 4070, -2869, -598, 6445, -4628, -233, 317, -1793, 675],
     [0, 0, 6301, -4724, 133, 550, -1225, 278, 240, 169],
     [0, 0, 0, 5560, -774, 462, -806, -5, 2343, -2665],
     [0, 0, 0, 0, 12494, -6339, -1114, 782, -5492, -331],
     [0, 0, 0, 0, 0, 10192, -5053, 688, -6344, 549],
     [0, 0, 0, 0, 0, 0, 7047, -332, -5038, -792],
     [0, 0, 0, 0, 0, 0, 0, 4286, -5370, 2891],
     [0, 0, 0, 0, 0, 0, 0, 0, 4363, -8900],
     [0, 0, 0, 0, 0, 0, 0, 0, 0, 11001]]⟩]

def windowsRuntimeOffsetQ24 : Int := -177430463
def windowsScore3PrimaryQ24 : Int := 838860800
def windowsScore3SingleQ24 : Int := 335544320

/-- `-9999LL * (1LL << G6TS_WINDOWS_SCORE_SHIFT)` -/
def excludedScoreQ24 : Int := -9999 * 2 ^ windowsScoreShift

/-- `G6TS_HALO_UNAVAILABLE_Q12` as a feature value. -/
def haloUnavailable (features : Nat → Int) (col : Nat) : Bool :=
  col == 9 && features col == 100 * 2 ^ classifierShift

def ClassifierModel.transform (m : ClassifierModel) (row col : Nat) : Int :=
  (m.transformQ12.getD row []).getD col 0

/-- One row of the upper-triangular transform. -/
def ClassifierModel.transformed (m : ClassifierModel) (features : Nat → Int) (row : Nat) : Int :=
  loop (featureCount - row) (fun k sum =>
    let col := row + k
    let residual := if haloUnavailable features col then 0
      else s32 (features col - m.meansQ12.getD col 0)
    sum + residual * m.transform row col) 0 >>> classifierShift

/-- The accumulation of one row; `S64_MAX` is the saturated distance. -/
def ClassifierModel.addRow (m : ClassifierModel) (features : Nat → Int) (row : Nat)
    (distance : Int) : Int :=
  let transformed := m.transformed features row
  if distance = s64Max ∨ transformed > intMax ∨ transformed < -intMax ∨
    distance > s64Max - transformed * transformed then s64Max
  else distance + transformed * transformed

def ClassifierModel.distance (m : ClassifierModel) (features : Nat → Int) : Int :=
  loop featureCount (m.addRow features) 0

/-- The score of one class. -/
def ClassifierModel.scoreQ24 (m : ClassifierModel) (pixels : Nat) (features : Nat → Int) : Int :=
  if pixels > m.maxPoints then excludedScoreQ24 else
    let distance := m.distance features
    if distance = s64Max then excludedScoreQ24
    else m.scoreOffsetQ12 * 2 ^ classifierShift - distance.tdiv 2 + windowsRuntimeOffsetQ24

/-- mirrors phase55/modules/mshw0485_touch.c:1517-1525 (the class-3 adjustment) -/
def adjustScore3 (prof : Profile) (contact : Contact) (scores : Nat → Int) : Nat → Int :=
  if prof.windowsOrchestrator then
    if contact.localPeakCount = 1 then
      Function.update scores 3 (scores 3 - windowsScore3PrimaryQ24)
    else if contact.strongLocalPeakCount = 1 then
      Function.update scores 3 (scores 3 - windowsScore3SingleQ24)
    else scores
  else scores

/-- The first class with the greatest score. -/
def bestClass (scores : Nat → Int) : Nat :=
  (loop classCount (fun class' best =>
    if scores class' > best.2 then (class', scores class') else best) (0, s64Min)).1

def emptyModel : ClassifierModel := ⟨0, 0, [], []⟩

/-- mirrors phase55/modules/mshw0485_touch.c:1471-1533 (`g6ts_classify_contact`) -/
def classifyContact (prof : Profile) (contact : Contact) : Contact × Nat :=
  let scores := loop classifierModels.length (fun class' scores =>
    Function.update scores class'
      ((classifierModels.getD class' emptyModel).scoreQ24 contact.pixels contact.featuresQ12))
    contact.scoresQ24
  let scores := adjustScore3 prof contact scores
  ({ contact with scoresQ24 := scores }, bestClass scores)

end Sp11Touch
