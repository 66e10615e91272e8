import Sp11Touch.L1Encoding.HeatFrame
import Sp11Touch.Core.CInt
import Sp11Touch.Core.Hungarian
/-!
# The contact pipeline's data (`mshw0485_touch.c`)

`Heat` is the part of `struct g6ts` that one Heat frame reads and writes:
the parsed grid, the flood-fill scratch arrays, the contacts of the frame,
the ten tracks and the assignment workspace. C arrays are functions of the
index. The frame profile is the two read-only module parameters.
-/
namespace Sp11Touch

def heatSignalZero : Nat := 180
def heatThreshold : Nat := 9
def heatActiveMax : Nat := heatSignalZero - heatThreshold
def heatStrongMax : Nat := 162
def heatMinPixels : Nat := 3
def heatPalmPixels : Nat := 48
def heatPalmSpan : Nat := 12
def maxContacts : Nat := 10
def logicalMax : Nat := 32767
def trackMatchMax : Nat := 4096
def contactHoldFrames : Nat := 6
def trackConfirmNormal : Nat := 3
def trackConfirmWeak : Nat := 5
def trackConfirmSplit : Nat := 8
def trackSplitRadius : Nat := 2048
def behaviorConfirmNormal : Nat := 2
def windowsCentroidBaseline : Nat := 171
def nsrCutoff : Nat := 655
def featureCount : Nat := 10
def classCount : Nat := 4
def classifierShift : Nat := 12
def windowsUnclassified : Nat := 4
def windowsHistoryCapacity : Nat := 10
def windowsScoreShift : Nat := 24

/-- An index into `tracks`; `input_mt` slots are the same numbers. -/
abbrev Slot : Type := Fin 10

/-- There is a slot `0`. -/
instance slotNeZero : NeZero 10 := ⟨by decide⟩

/-- The module parameters `windows_orchestrator` and `behavior_v2`. -/
structure Profile where
  windowsOrchestrator : Bool
  behaviorV2 : Bool
  deriving DecidableEq, Repr

/-- mirrors phase55/modules/mshw0485_touch.c:396-418 (`struct g6ts_contact`) -/
structure Contact where
  weightedX : Nat := 0
  weightedY : Nat := 0
  strength : Nat := 0
  sensorXQ24 : Nat := 0
  sensorYQ24 : Nat := 0
  pixels : Nat := 0
  x : Nat := 0
  y : Nat := 0
  outputX : Nat := 0
  outputY : Nat := 0
  peakValue : Nat := 0
  minCol : Nat := 0
  maxCol : Nat := 0
  minRow : Nat := 0
  maxRow : Nat := 0
  featuresQ12 : Nat → Int := fun _ => 0
  scoresQ24 : Nat → Int := fun _ => 0
  localPeakCount : Nat := 0
  strongLocalPeakCount : Nat := 0
  shapeClass : Nat := 0
  shapeAllowed : Bool := false

/-- mirrors phase55/modules/mshw0485_touch.c:420-443 (`struct g6ts_track`) -/
structure Track where
  strength : Nat := 0
  rawX : Nat := 0
  rawY : Nat := 0
  outputX : Nat := 0
  outputY : Nat := 0
  pixels : Nat := 0
  sensorXQ24 : Nat := 0
  sensorYQ24 : Nat := 0
  sensorVelocityXQ24 : Int := 0
  sensorVelocityYQ24 : Int := 0
  velocityX : Int := 0
  velocityY : Int := 0
  age : Nat := 0
  scoreHistoryQ24 : Nat → Nat → Int := fun _ _ => 0
  missed : Nat := 0
  evidence : Nat := 0
  requiredEvidence : Nat := 0
  shapeClass : Nat := 0
  windowsClass : Nat := 0
  scoreHistoryCount : Nat := 0
  active : Bool := false
  confirmed : Bool := false

/-- `memset(track, 0, sizeof(*track))` -/
def Track.zero : Track := {}

/-- mirrors phase55/modules/mshw0485_touch.c:445-454 (`struct g6ts_assignment_workspace`) -/
structure AssignmentWorkspace where
  cost : Nat → Nat → Int
  work : Hungarian.Work
  activeSlots : Nat → Slot

def AssignmentWorkspace.zero : AssignmentWorkspace := ⟨fun _ _ => 0, .zero, fun _ => 0⟩

/-- The fields of `struct g6ts` one Heat frame works on. -/
structure Heat where
  buf : HeatBuf
  heatComponent : Nat → Bool
  heatWork : Nat → Bool
  heatQueue : Nat → Nat
  contacts : Nat → Contact
  tracks : Slot → Track
  assignment : AssignmentWorkspace
  heatFrames : Nat
  heatErrors : Nat
  componentTotal : Nat
  contactTotal : Nat
  weakRejections : Nat
  nsrRejections : Nat
  palmRejections : Nat
  assignmentMatches : Nat
  newTracks : Nat
  outputFrames : Nat
  outputContacts : Nat

def zeroTracks : Slot → Track := fun _ => .zero

/-- `devm_kzalloc` -/
def Heat.zero : Heat where
  buf := ⟨fun _ => 0, fun _ => 0, fun _ => 0, 0, false⟩
  heatComponent := fun _ => false
  heatWork := fun _ => false
  heatQueue := fun _ => 0
  contacts := fun _ => {}
  tracks := zeroTracks
  assignment := .zero
  heatFrames := 0
  heatErrors := 0
  componentTotal := 0
  contactTotal := 0
  weakRejections := 0
  nsrRejections := 0
  palmRejections := 0
  assignmentMatches := 0
  newTracks := 0
  outputFrames := 0
  outputContacts := 0

/-- `ts->heatmap[index]` -/
def Heat.value (h : Heat) (index : Nat) : Nat := (h.buf.heatmap index).toNat

/-- mirrors phase55/modules/mshw0485_touch.c:1080-1083 (`g6ts_heat_active`) -/
def Heat.heatActive (h : Heat) (index : Nat) : Bool := h.value index ≤ heatActiveMax

/-- The grid cell at a row and column, if it is one. -/
def heatCell (row col : Int) : Option Nat :=
  if 0 ≤ row ∧ row < heatRows ∧ 0 ≤ col ∧ col < heatCols then
    some (row.toNat * heatCols + col.toNat) else none

/-- The neighbours of a cell inside the grid, in the order of the offsets. -/
def heatNeighbours (offsets : List (Int × Int)) (index : Nat) : List Nat :=
  offsets.filterMap fun o => heatCell ((index / heatCols : Nat) + o.1)
    ((index % heatCols : Nat) + o.2)

theorem heatCell_lt {row col : Int} {cell : Nat} (h : heatCell row col = some cell) :
    cell < heatSamples := by
  unfold heatCell at h
  split at h
  · next hc =>
    simp only [Option.some.injEq] at h
    simp only [heatRows, heatCols, heatSamples] at hc h ⊢
    omega
  · cases h

theorem heatNeighbours_lt (offsets : List (Int × Int)) (index : Nat) :
    ∀ x ∈ heatNeighbours offsets index, x < heatSamples := by
  intro x hx
  simp only [heatNeighbours, List.mem_filterMap] at hx
  obtain ⟨o, _, ho⟩ := hx
  exact heatCell_lt ho

end Sp11Touch
