import Sp11Touch.Core.Binary64
import Sp11Touch.Core.Search
import Sp11Touch.L1Encoding.HeatDecoder
import Sp11Touch.L2Pipeline.Data
import Mathlib.Data.Finset.Max
/-!
# The offline detector (`tools/decode_heat_frame.py`)

The Python detector that captured frames and the driver's contacts are checked
with. It works on the grid `extract_heatmap` returns: the components are found
with a deque, sorted by strength and put through the three gates; the features
of a component are computed on its list of pixels.

Signals are binary64 numbers of the linear lookup. A number that holds a small
integer is that integer. The moments and the halo ratio are not modelled.
-/
namespace Sp11Touch.Decoder
open Binary64 Bytes

def windowsSignalZero : Nat := 180
def heatThreshold : Nat := 9
def windowsStrongMax : Nat := 162
def windowsNormalCentroidBaseline : Nat := 171
def minContactPixels : Nat := 3
def palmMaxPixels : Nat := 48
def palmMaxSpan : Nat := 12
def maxContacts : Nat := 10
def windowsNsrCutoff : Nat := 655

def windowsLookupBase : ℚ := fl 0.6000000238418579
def windowsLookupIntercept : ℚ := fl (1 - windowsLookupBase)
def windowsLookupStep : ℚ := fl 0.002220354275777936
def windowsSecondaryFloor : ℚ := fl 0.05000000074505806
def windowsSecondaryNoise : ℚ := fl 0.019999999552965164
def windowsSecondarySeed : ℚ := fl 0.054999999701976776
def windowsSecondaryFractions : List ℚ := [0.5, 0.75, 0.875]
def windowsLocalPeakEpsilon : ℚ := fl 0.00009999999747378752
def windowsLocalPeakFloor : ℚ := fl 0.03999999910593033
def windowsLocalPeakCapacity : Nat := 10

def windowsNsrRowToBin : List Nat :=
  [0, 1, 2, 3, 4, 5, 6, 7, 8, 9, 10, 11, 12, 13, 14, 15,
   0, 1, 2, 3, 4, 5, 6, 7, 8, 9, 10, 11, 12, 13, 14, 15,
   2, 3, 4, 5, 6, 7, 8, 9, 10, 11, 12, 13, 14, 15]

/-- mirrors tools/decode_heat_frame.py:355-357 (`windows_signal`) -/
def windowsSignal (value : Nat) : ℚ := fl (windowsLookupIntercept - fl (windowsLookupStep * value))

/-! ## Components -/

/-- `for dr, dc in ((-1, 0), (0, -1), (0, 1), (1, 0))` -/
def detectorOffsets : List (Int × Int) := [(-1, 0), (0, -1), (0, 1), (1, 0)]

/-- The cells that are active and not `seen`. -/
def seenPool (active : Nat → Bool) : Pool (Nat → Bool) where
  mem seen cell := active cell && !seen cell
  del seen cell := Function.update seen cell true
  mem_del seen a b := by
    by_cases h : b = a
    · simp [h]
    · simp [h]

/-- What a component's dictionary holds. -/
structure Component where
  pixels : Nat
  strength : Nat
  peakValue : Nat
  row : ℚ
  col : ℚ
  x32767 : ℚ
  y32767 : ℚ
  rowMin : Nat
  rowMax : Nat
  colMin : Nat
  colMax : Nat
  pixelIndices : List Nat

/-- `max(0, WINDOWS_SIGNAL_ZERO - value)` -/
def strength (grid : Bytes) (index : Nat) : Nat := windowsSignalZero - u8 grid index

/-- `min` and `max` of a list, which here is never empty. -/
def least (l : List Nat) : Nat := l.min?.getD 0
def greatest (l : List Nat) : Nat := l.max?.getD 0

/-- mirrors tools/decode_heat_frame.py:396-458 (the dictionary of one component) -/
def describe (grid : Bytes) (pixels : List Nat) : Component :=
  let total := (pixels.map (strength grid)).sum
  let rows := pixels.map (· / heatCols)
  let cols := pixels.map (· % heatCols)
  let weightedRow := fl ((pixels.map fun index => index / heatCols * strength grid index).sum /
    total)
  let weightedCol := fl ((pixels.map fun index => index % heatCols * strength grid index).sum /
    total)
  { pixels := pixels.length
    strength := total
    peakValue := least (pixels.map (u8 grid))
    row := weightedRow
    col := weightedCol
    x32767 := fl (fl (weightedCol * 32767) / (heatCols - 1 : Nat))
    y32767 := fl (fl (weightedRow * 32767) / (heatRows - 1 : Nat))
    rowMin := least rows
    rowMax := greatest rows
    colMin := least cols
    colMax := greatest cols
    pixelIndices := pixels }

/-- The `while queue` loop of one start: `seen` and `pixels`. -/
def componentPixels (active seen : Nat → Bool) (start : Nat) : (Nat → Bool) × List Nat :=
  let r := (seenPool active).search (heatNeighbours detectorOffsets) gridSamples
    ((seenPool active).del seen start) [start] []
  (r.1, r.2.2)

/-- One turn of the `start` loop. -/
def componentStart (grid : Bytes) (active : Nat → Bool) (s : (Nat → Bool) × List Component)
    (start : Nat) :
    (Nat → Bool) × List Component :=
  if !active start || s.1 start then s else
    let r := componentPixels active s.1 start
    (r.1, s.2 ++ [describe grid r.2])

/-- `value <= active_max` -/
def activeAt (grid : Bytes) (threshold : Nat) (index : Nat) : Bool :=
  (u8 grid index : Int) ≤ windowsSignalZero - threshold

/-- The components in the order found. -/
def foundComponents (grid : Bytes) (threshold : Nat) : List Component :=
  ((List.range gridSamples).foldl (componentStart grid (activeAt grid threshold)) (fun _ => false,
    [])).2

/-- mirrors tools/decode_heat_frame.py:360-462 (`connected_components`); the sort is stable -/
def connectedComponents (grid : Bytes) (threshold : Nat) : List Component :=
  (foundComponents grid threshold).mergeSort fun a b => a.strength ≥ b.strength

/-! ## Contacts -/

def weak (c : Component) : Bool := c.pixels < minContactPixels && c.peakValue > windowsStrongMax

/-- `nsr_bins[nsr_bin] > WINDOWS_NSR_CUTOFF` for the bin of the component's row -/
def nsrVetoed (nsrBins : Option (List Nat)) (c : Component) : Bool :=
  match nsrBins with
  | none => false
  | some bins =>
    let sensorRow := truncate (fl (c.row + 1 / 2))
    if 0 ≤ sensorRow ∧ sensorRow < windowsNsrRowToBin.length then
      let bin := windowsNsrRowToBin.getD sensorRow.toNat 0
      bin < bins.length && bins.getD bin 0 > windowsNsrCutoff
    else false

def palm (c : Component) : Bool :=
  c.pixels > palmMaxPixels || c.rowMax - c.rowMin + 1 > palmMaxSpan ||
    c.colMax - c.colMin + 1 > palmMaxSpan

/-- One turn of the component loop: `accepted` and `palm_rejections`. -/
def acceptStep (nsrBins : Option (List Nat)) (s : List Component × Nat) (c : Component) :
    List Component × Nat :=
  if weak c then s
  else if nsrVetoed nsrBins c then s
  else if palm c then (s.1, s.2 + 1)
  else (s.1 ++ [c], s.2)

/-- mirrors tools/decode_heat_frame.py:706-736 (`accepted_contacts`) -/
def acceptedContacts (grid : Bytes) (threshold : Nat) (nsrBins : Option (List Nat)) :
    List Component × Nat :=
  let r := (connectedComponents grid threshold).foldl (acceptStep nsrBins) ([], 0)
  (r.1.take maxContacts, r.2)

/-- One turn of the index loop: `weighted_x`, `weighted_y` and `total`. -/
def centroidTurn (grid : Bytes) (s : Nat × Nat × Nat) (index : Nat) : Nat × Nat × Nat :=
  if u8 grid index ≥ windowsNormalCentroidBaseline then s else
    let weight := windowsNormalCentroidBaseline - u8 grid index
    (s.1 + index % heatCols * weight, s.2.1 + index / heatCols * weight, s.2.2 + weight)

/-- mirrors tools/decode_heat_frame.py:465-493 (`phase76_output_centroid`) -/
def phase76OutputCentroid (grid : Bytes) (c : Component) : Int × Int :=
  let (weightedX, weightedY, total) := c.pixelIndices.foldl (centroidTurn grid) (0, 0, 0)
  if total = 0 then (truncate c.x32767, truncate c.y32767) else
    ((weightedX * 32767 / (total * (heatCols - 1)) : Nat),
      (weightedY * 32767 / (total * (heatRows - 1)) : Nat))

/-! ## The secondary passes -/

/-- The element that `set.pop` takes at each turn; Python does not say which. -/
structure PopOrder where
  pop : Nat → (eligible : Finset Nat) → eligible.Nonempty → {cell // cell ∈ eligible}

instance : Inhabited PopOrder := ⟨⟨fun _ eligible h => ⟨eligible.min' h, eligible.min'_mem h⟩⟩⟩

/-- `eligible`, and the `island` its cells go to. -/
def eligiblePool : Pool (Finset Nat × List Nat) where
  mem s cell := decide (cell ∈ s.1)
  del s cell := (s.1.erase cell, s.2 ++ [cell])
  mem_del s a b := by
    by_cases h : b = a
    · simp [h]
    · simp [h]

/-- One turn of the `while eligible` loop, from the element popped. -/
def popIsland (eligible : Finset Nat) (start : Nat) : Finset Nat × List Nat :=
  (eligiblePool.search (heatNeighbours detectorOffsets) gridSamples
    (eligiblePool.del (eligible, []) start) [start] []).1

/-- All islands of the eligible cells, for at most as many turns as there are. -/
def popIslands (order : PopOrder) : Nat → Finset Nat → List (List Nat)
  | turns + 1, eligible =>
    if h : eligible.Nonempty then
      (popIsland eligible (order.pop turns eligible h)).2 ::
        popIslands order turns (popIsland eligible (order.pop turns eligible h)).1
    else []
  | 0, _ => []

/-- `threshold` of one fraction -/
def secondaryThreshold (peakValue : Nat) (fraction : ℚ) : ℚ :=
  fl (windowsSecondaryFloor +
    fl (fl (fl (windowsSignal peakValue - windowsSecondaryNoise) - windowsSecondaryFloor) *
    fraction))

/-- `cutoff` of one fraction -/
def secondaryCutoff (peakValue : Nat) (fraction : ℚ) : Nat :=
  (truncate (fl (fl (fl (fl (1 - secondaryThreshold peakValue fraction) - windowsLookupBase) /
    windowsLookupStep) + 1 / 2))
    % 256).toNat

/-- `len(island) > 2 or island_peak > WINDOWS_SECONDARY_SEED` -/
def keptIsland (grid : Bytes) (island : List Nat) : Bool :=
  island.length > 2 || windowsSignal (least (island.map (u8 grid))) > windowsSecondarySeed

/-- One turn of the fraction loop: the number and the greatest size of the islands kept. -/
def secondaryRerun (grid : Bytes) (c : Component) (order : PopOrder) (fraction : ℚ) : Nat × Nat :=
  let eligible := c.pixelIndices.toFinset.filter fun index => u8 grid index ≤
    secondaryCutoff c.peakValue fraction
  let islands := (popIslands order eligible.card eligible).filter (keptIsland grid)
  (islands.length, greatest (islands.map List.length))

/-- mirrors tools/decode_heat_frame.py:496-555 (`secondary_detector_features`), the pairs in order -/
def secondaryDetectorFeatures (grid : Bytes) (c : Component) (order : Nat → PopOrder) :
    List (Nat × Nat) :=
  let area := (c.colMax - c.colMin + 1) * (c.rowMax - c.rowMin + 1)
  if area ≥ 0x4e3 ∨ windowsSignal c.peakValue ≤
    fl (windowsSecondaryFloor + windowsSecondaryNoise) then
    [(1, c.pixels), (1, c.pixels), (1, c.pixels)]
  else windowsSecondaryFractions.mapIdx fun pass fraction =>
    secondaryRerun grid c (order pass) fraction

/-- mirrors tools/decode_heat_frame.py:686-703 (`windows_classifier_features`), the first seven -/
def windowsClassifierFeatures (grid : Bytes) (c : Component) (order : Nat → PopOrder) : List Nat :=
  let secondary := secondaryDetectorFeatures grid c order
  c.pixels :: (secondary.map Prod.snd ++ secondary.map Prod.fst)

/-! ## Local peaks -/

/-- `for dr, dc in ((0, -1), (0, 1), (-1, 0), (1, 0))` -/
def localPeakOffsets : List (Int × Int) := [(0, -1), (0, 1), (-1, 0), (1, 0)]

/-- `lower` and `near_equal`; the index off the grid is -1. -/
structure PeakScan where
  lower : Nat
  nearEqual : List (ℚ × Int)

def scanNeighbour (grid : Bytes) (index : Nat) (t : PeakScan) (o : Int × Int) : PeakScan :=
  let current := windowsSignal (u8 grid index)
  let (neighbour, neighbourIndex) : ℚ × Int :=
    match heatCell ((index / heatCols : Nat) + o.1) ((index % heatCols : Nat) + o.2) with
    | some cell => (windowsSignal (u8 grid cell), cell)
    | none => (0, -1)
  if fl (neighbour + windowsLocalPeakEpsilon) < current then { t with lower := t.lower + 1 }
  else if |fl (current - neighbour)| < windowsLocalPeakEpsilon then
    { t with nearEqual := t.nearEqual ++ [(neighbour, neighbourIndex)] }
  else t

/-- `selected` -/
def localPeak (grid : Bytes) (index : Nat) : Bool :=
  let current := windowsSignal (u8 grid index)
  let t := localPeakOffsets.foldl (scanNeighbour grid index) ⟨0, []⟩
  match t.lower, t.nearEqual with
  | 3, [(neighbour, neighbourIndex)] =>
    neighbour < current || (neighbour = current && (index : Int) < neighbourIndex)
  | lower, _ => lower = 4

/-- One turn of the index loop. -/
def peakTurn (grid : Bytes) (peaks : List Nat) (index : Nat) : List Nat :=
  if localPeak grid index && peaks.length < windowsLocalPeakCapacity then
    peaks ++ [index] else peaks

/-- mirrors tools/decode_heat_frame.py:558-600 (`local_peak_counts`) -/
def localPeakCounts (grid : Bytes) (c : Component) : Nat × Nat :=
  let peaks := (c.pixelIndices.mergeSort (· ≤ ·)).foldl (peakTurn grid) []
  (peaks.length, peaks.countP fun index => windowsSignal (u8 grid index) > windowsLocalPeakFloor)

end Sp11Touch.Decoder
