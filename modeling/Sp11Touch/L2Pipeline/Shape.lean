import Sp11Touch.L2Pipeline.Data
import Sp11Touch.Core.Flood
/-!
# Shape features of one component (`mshw0485_touch.c`)

The functions `findContacts` calls on a component that passed the weak, NSR
and palm gates: output centroid, local peaks, the three secondary flood
fills, second moments and the halo ring. Each reads the grid and the
component flags and sets fields of the contact.
-/
namespace Sp11Touch
open CInt

def signalInterceptQ24 : Int := 6710886
def signalStepQ24 : Int := 37251
def secondaryAQ12 : Nat := 645663
def secondaryNoiseQ12 : Nat := 36895
def secondarySeedQ12 : Int := 225
def localPeakFloorQ12 : Int := 164
def localPeakCapacity : Nat := 10
def axisScaleQ12 : Nat := 18919
def spreadScaleQ12 : Int := 25736
def haloRatioQ12 : Int := 614
def haloUnavailableQ12 : Int := 100 * 2 ^ classifierShift

/-- `1U << G6TS_CLASSIFIER_SHIFT` -/
def oneQ12 : Nat := 2 ^ classifierShift

/-- mirrors phase55/modules/mshw0485_touch.c:1104-1111 (`g6ts_signal_q12`) -/
def signalQ12 (value : Nat) : Int :=
  (signalInterceptQ24 - value * signalStepQ24 + 2 ^ (classifierShift - 1)) >>> classifierShift

/-- mirrors phase55/modules/mshw0485_touch.c:1122-1150 (`g6ts_phase76_output_centroid`) -/
def phase76OutputCentroid (ts : Heat) (contact : Contact) : Contact :=
  let step (index : Nat) (s : Nat × Nat × Nat) : Nat × Nat × Nat :=
    if !ts.heatComponent index || ts.value index ≥ windowsCentroidBaseline then s else
      let weight := windowsCentroidBaseline - ts.value index
      (s.1 + index % heatCols * weight, s.2.1 + index / heatCols * weight, s.2.2 + weight)
  let (weightedX, weightedY, weightTotal) := loop heatSamples step (0, 0, 0)
  if weightTotal = 0 then contact else
    { contact with
      outputX := u16 (divU64 (weightedX * logicalMax) (weightTotal * (heatCols - 1)))
      outputY := u16 (divU64 (weightedY * logicalMax) (weightTotal * (heatRows - 1))) }

/-- The comparison of one cell with one neighbour: `lower`, `near_equal`,
`equal_index` (`none` for `UINT_MAX`) and `equal_signal`. -/
structure PeakTally where
  lower : Nat
  nearEqual : Nat
  equalIndex : Option Nat
  equalSignal : Int

def peakTally (ts : Heat) (index : Nat) : PeakTally :=
  let current := signalQ12 (ts.value index)
  let step (t : PeakTally) (o : Int × Int) : PeakTally :=
    let neighbour := heatCell ((index / heatCols : Nat) + o.2) ((index % heatCols : Nat) + o.1)
    let signal := match neighbour with
      | some cell => signalQ12 (ts.value cell)
      | none => 0
    if current > signal then { t with lower := t.lower + 1 }
    else if current = signal then ⟨t.lower, t.nearEqual + 1, neighbour, signal⟩
    else t
  [((-1 : Int), (0 : Int)), (1, 0), (0, -1), (0, 1)].foldl step ⟨0, 0, none, 0⟩

/-- mirrors phase55/modules/mshw0485_touch.c:1204-1208 (`selected`) -/
def peakSelected (ts : Heat) (index : Nat) : Bool :=
  let t := peakTally ts index
  let current := signalQ12 (ts.value index)
  if t.lower = 3 ∧ t.nearEqual = 1 then
    t.equalSignal < current || (t.equalSignal = current && match t.equalIndex with
      | some cell => index < cell
      | none => true)
  else t.lower = 4

/-- mirrors phase55/modules/mshw0485_touch.c:1158-1216 (`g6ts_local_peak_counts`) -/
def localPeakCounts (ts : Heat) (contact : Contact) : Contact :=
  let step (index : Nat) (contact : Contact) : Contact :=
    if !ts.heatComponent index then contact
    else if !peakSelected ts index || contact.localPeakCount ≥ localPeakCapacity then contact
    else { contact with
      localPeakCount := contact.localPeakCount + 1
      strongLocalPeakCount := contact.strongLocalPeakCount +
        if signalQ12 (ts.value index) > localPeakFloorQ12 then 1 else 0 }
  loop heatSamples step { contact with localPeakCount := 0, strongLocalPeakCount := 0 }

/-! ## Secondary passes -/

def fractionsQ12 : List Nat := [2048, 3072, 3584]

/-- mirrors phase55/modules/mshw0485_touch.c:1218-1235 (`g6ts_secondary_cutoff`) -/
def secondaryCutoff (peakValue pass : Nat) : Nat :=
  let fraction := fractionsQ12.getD pass 0
  let cutoffQ24 := (oneQ12 - fraction) * secondaryAQ12 +
    fraction * (peakValue * oneQ12 + secondaryNoiseQ12)
  let cutoffQ12 := u32 ((cutoffQ24 + 2 ^ (classifierShift - 1)) >>> classifierShift)
  min 255 (u32 ((cutoffQ12 + 2 ^ (classifierShift - 1)) >>> classifierShift))

/-- mirrors phase55/modules/mshw0485_touch.c:1237-1248 (a cell `g6ts_secondary_neighbour`
may enter, apart from the marks) -/
def secondaryCell (ts : Heat) (cutoff cell : Nat) : Bool :=
  ts.heatComponent cell && decide (ts.value cell ≤ cutoff)

def secondaryOffsets : List (Int × Int) := [(0, -1), (-1, 0), (0, 1), (1, 0)]

/-- `accepted`, `largest`, and the arrays the pass writes. -/
structure SecondaryPass where
  accepted : Nat
  largest : Nat
  heatWork : Nat → Bool
  heatQueue : Nat → Nat

/-- The flood fill from `start`: its pixels and its peak byte. -/
def secondaryFill (ts : Heat) (cutoff start : Nat) (s : SecondaryPass) : Flood × Nat × Nat :=
  (Flood.drain (heatNeighbours secondaryOffsets) (secondaryCell ts cutoff)
    (fun index a => (a.1 + 1, min a.2 (ts.value index))) heatSamples 0
    (Flood.push ⟨s.heatWork, s.heatQueue, 0⟩ start) (0, 255)).2

/-- One turn of the `start` loop of a pass. -/
def secondaryStart (ts : Heat) (cutoff start : Nat) (s : SecondaryPass) : SecondaryPass :=
  if !ts.heatComponent start || s.heatWork start || ts.value start > cutoff then s else
    let (fill, pixels, peak) := secondaryFill ts cutoff start s
    let s := { s with heatWork := fill.mark, heatQueue := fill.queue }
    if pixels ≤ 2 ∧ signalQ12 peak ≤ secondarySeedQ12 then s
    else { s with accepted := s.accepted + 1, largest := max s.largest pixels }

def setFeature (contact : Contact) (feature : Nat) (value : Int) : Contact :=
  { contact with featuresQ12 := Function.update contact.featuresQ12 feature value }

/-- One turn of the `pass` loop. -/
def secondaryPass (pass : Nat) (s : Heat × Contact) : Heat × Contact :=
  let cutoff := secondaryCutoff s.2.peakValue pass
  let r := loop heatSamples (secondaryStart s.1 cutoff) ⟨0, 0, fun _ => false, s.1.heatQueue⟩
  ({ s.1 with heatWork := r.heatWork, heatQueue := r.heatQueue },
    setFeature (setFeature s.2 (1 + pass) (r.largest * oneQ12 : Nat)) (4 + pass)
    (r.accepted * oneQ12 : Nat))

/-- mirrors phase55/modules/mshw0485_touch.c:1250-1314 (`g6ts_secondary_features`) -/
def secondaryFeatures (ts : Heat) (contact : Contact) : Heat × Contact :=
  let area := (contact.maxCol - contact.minCol + 1) * (contact.maxRow - contact.minRow + 1)
  let contact := loop 3 (fun pass contact =>
    setFeature (setFeature contact (1 + pass) (contact.pixels * oneQ12 : Nat)) (4 + pass) oneQ12)
      contact
  if area ≥ 0x4e3 ∨ signalQ12 contact.peakValue ≤ 287 then (ts, contact)
  else loop 3 secondaryPass (ts, contact)

/-! ## Moments -/

structure Moments where
  sum : Nat
  sumX : Nat
  sumY : Nat
  sumXX : Nat
  sumYY : Nat
  sumXY : Nat

def momentsStep (ts : Heat) (index : Nat) (m : Moments) : Moments :=
  if !ts.heatComponent index then m else
    let row := index / heatCols
    let col := index % heatCols
    let signal := signalQ12 (ts.value index)
    if signal ≤ 0 then m else
      let signal := signal.toNat
      ⟨m.sum + signal, m.sumX + signal * col, m.sumY + signal * row, m.sumXX + signal * col * col,
        m.sumYY + signal * row * row, m.sumXY + signal * col * row⟩

/-- A second central moment in Q12: `(sum_ab * sum - sum_a * sum_b) / sum²`. -/
def centralMoment (m : Moments) (ab a b : Nat) : Int :=
  (((ab * m.sum : Nat) : Int) - ((a * b : Nat) : Int)) * oneQ12 |>.tdiv (m.sum * m.sum : Nat)

/-- An axis from half the sum or difference of `trace` and `discriminant`. -/
def axisQ12 (half : Int) : Nat :=
  max oneQ12 (u32 ((intSqrt64 (half * oneQ12).toNat * axisScaleQ12) >>> classifierShift))

/-- mirrors phase55/modules/mshw0485_touch.c:1316-1381 (`g6ts_geometry_features`) -/
def geometryFeatures (ts : Heat) (contact : Contact) : Contact :=
  let m := loop heatSamples (momentsStep ts) ⟨0, 0, 0, 0, 0, 0⟩
  if m.sum = 0 then setFeature (setFeature contact 7 oneQ12) 8 oneQ12 else
    let varX := centralMoment m m.sumXX m.sumX m.sumX
    let varY := centralMoment m m.sumYY m.sumY m.sumY
    let covariance := centralMoment m m.sumXY m.sumX m.sumY
    let trace := max 0 (varX + varY)
    let delta := varX - varY
    let discriminant : Int := intSqrt64 (delta * delta + 4 * covariance * covariance).toNat
    let majorAxis := axisQ12 ((trace + discriminant).tdiv 2)
    let minorAxis := axisQ12 (max 0 ((trace - discriminant).tdiv 2))
    let contact := setFeature contact 7 (s32 (divU64 (majorAxis * oneQ12) minorAxis))
    if contact.pixels < 2 then setFeature contact 8 oneQ12
    else setFeature contact 8
      (s32 ((trace * spreadScaleQ12).tdiv (u32 (oneQ12 * (contact.pixels - 1)))))

/-! ## Halo -/

/-- `state[16][16]` by grid row and column; the source subtracts the origin
`(min_row - 3, min_col - 3)`. -/
abbrev HaloState : Type := Int → Int → Nat

def HaloState.set (st : HaloState) (row col : Int) (v : Nat) : HaloState :=
  fun r c => if r = row ∧ c = col then v else st r c

/-- `for (row = lo; row <= hi; row++)` -/
def forRows {σ : Type} (lo hi : Int) (body : Int → σ → σ) (s : σ) : σ :=
  loop (hi + 1 - lo).toNat (fun k => body (lo + k)) s

/-- The box of the contact grown by `r`, clipped to the grid. -/
def forBox {σ : Type} (contact : Contact) (r : Nat) (body : Int → Int → σ → σ) (s : σ) : σ :=
  forRows (max 0 ((contact.minRow : Int) - r)) (min (heatRows - 1 : Nat) (contact.maxRow + r : Nat))
    (fun row => forRows (max 0 ((contact.minCol : Int) - r))
      (min (heatCols - 1 : Nat) (contact.maxCol + r : Nat)) (body row)) s

def haloOffsets : List (Int × Int) := [(0, -1), (-1, 0), (0, 1), (1, 0)]

/-- mirrors phase55/modules/mshw0485_touch.c:1401-1413 (the initial states) -/
def haloInit (ts : Heat) (contact : Contact) : HaloState :=
  forBox contact 3 (fun row col st =>
    match heatCell row col with
    | none => st
    | some index =>
      if ts.heatComponent index then st.set row col 0
      else if !ts.heatActive index then st.set row col 4 else st) fun _ _ => 5

/-- The neighbours of a cell that lie in the grid and are background. -/
def haloBackground (st : HaloState) (row col : Int) (o : Int × Int) : Option (Int × Int × Nat) :=
  match heatCell (row + o.1) (col + o.2) with
  | none => none
  | some index => if st (row + o.1) (col + o.2) ≠ 4 then none else some (row + o.1, col + o.2, index)

/-- mirrors phase55/modules/mshw0485_touch.c:1414-1431 (depth 1: strong neighbours) -/
def haloStrong (ts : Heat) (contact : Contact) (peakThreshold : Int) (st : HaloState) : HaloState :=
  forBox contact 0 (fun row col st =>
    if st row col ≠ 0 then st else
      haloOffsets.foldl (fun st o => match haloBackground st row col o with
        | none => st
        | some (nr, nc, index) =>
          if signalQ12 (ts.value index) > peakThreshold then st.set nr nc 1 else st) st) st

/-- One neighbour in the ring loop. -/
def haloRingCell (ts : Heat) (peakThreshold current : Int) (radius : Nat) (row col : Int)
    (s : HaloState × Int) (o : Int × Int) : HaloState × Int :=
  match haloBackground s.1 row col o with
  | none => s
  | some (nr, nc, index) =>
    let next := signalQ12 (ts.value index)
    if next < peakThreshold ∧ current > next ∧ current > 0 ∧
      next * oneQ12 > current * haloRatioQ12 then
      (s.1.set nr nc (radius + 1), s.2 + next)
    else s

/-- mirrors phase55/modules/mshw0485_touch.c:1432-1467 (one `radius`) -/
def haloRing (ts : Heat) (contact : Contact) (peakThreshold : Int) (radius : Nat)
    (s : HaloState × Int) : HaloState × Int :=
  forBox contact radius (fun row col s =>
    if s.1 row col > radius then s else
      match heatCell row col with
      | none => s
      | some index => haloOffsets.foldl
          (haloRingCell ts peakThreshold (signalQ12 (ts.value index)) radius row col) s) s

/-- mirrors phase55/modules/mshw0485_touch.c:1383-1469 (`g6ts_halo_feature`) -/
def haloFeature (ts : Heat) (contact : Contact) : Int :=
  let peak := signalQ12 contact.peakValue
  let peakThreshold := peak.tdiv 4
  if contact.maxCol - contact.minCol + 1 ≥ 11 ∨
    contact.maxRow - contact.minRow + 1 ≥ 11 ∨ peak ≤ 0 then
    haloUnavailableQ12
  else
    let st := haloStrong ts contact peakThreshold (haloInit ts contact)
    let r := haloRing ts contact peakThreshold 2 (haloRing ts contact peakThreshold 1 (st, 0))
    s32 ((r.2 * oneQ12).tdiv peak)

end Sp11Touch
