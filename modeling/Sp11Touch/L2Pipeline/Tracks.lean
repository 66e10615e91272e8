import Sp11Touch.L2Pipeline.Data
/-!
# Tracks: update, ageing, creation (`mshw0485_touch.c`)

The operations of the frame transaction on single tracks, and the loops that
apply them to the ten slots. `current_slots`, a bit mask in the source, is
the predicate `Slot → Bool`.
-/
namespace Sp11Touch
open CInt

/-! ## Class history (windows_orchestrator) -/

/-- The fields of `struct g6ts_transition_rule` that are read.
mirrors phase55/modules/g6ts_lifecycle_profile.h:16-25 -/
structure TransitionRule where
  historyMargins : List Int
  currentMargins : List Int
  absoluteMinimum : Int
  historyDepth : Nat
  initialAgeLimit : Nat

/-- mirrors phase55/modules/g6ts_lifecycle_profile.h:32-253 (`g6ts_transition_rules`) -/
def transitionRules : List TransitionRule := [
  ⟨[0, 0, 0, 0], [255, 255, 255, 255], 0, 0, 0⟩,
  ⟨[20, 0, 10, 30], [100, 0, 10, 30], -500, 5, 3⟩,
  ⟨[2, 30, 0, 30], [255, 255, 255, 255], -25, 2, 0⟩,
  ⟨[200, 15, 7, 0], [255, 255, 255, 255], -45, 1, 0⟩,
  ⟨[0, 5, 5, 40], [255, 255, 255, 255], -2, 8, 0⟩,
  ⟨[0, 0, 0, 0], [255, 255, 255, 255], 0, 0, 0⟩,
  ⟨[1, 30, 0, 40], [255, 255, 255, 255], -25, 4, 0⟩,
  ⟨[30, 30, 30, 0], [255, 255, 255, 255], -20, 30, 0⟩,
  ⟨[0, 15, 1, 15], [255, 255, 255, 255], -25, 2, 0⟩,
  ⟨[40, 0, 80, 30], [100, 0, 80, 80], -500, 5, 3⟩,
  ⟨[0, 0, 0, 0], [255, 255, 255, 255], 0, 0, 0⟩,
  ⟨[50, 10, 30, 0], [255, 255, 255, 255], -15, 4, 0⟩,
  ⟨[0, 15, 1, 15], [255, 255, 255, 255], -25, 1, 0⟩,
  ⟨[20, 0, 40, 100], [255, 255, 255, 255], -40, 5, 0⟩,
  ⟨[2, 12, 0, 30], [255, 255, 255, 255], -25, 3, 0⟩,
  ⟨[0, 0, 0, 0], [255, 255, 255, 255], 0, 0, 0⟩,
  ⟨[0, 6, 1, 30], [0, 10, 1, 30], -3, 2, 3⟩,
  ⟨[22, 0, 15, 15], [255, 255, 255, 255], -9999, 2, 0⟩,
  ⟨[1, 3, 0, 8], [255, 255, 255, 255], -8, 4, 3⟩,
  ⟨[100, 7, 8, 0], [100, 30, 10, 0], -20, 3, 3⟩]

def classPointMinimums : List Nat := [0, 6, 4, 4]
def classPointMaximums : List Nat := [20, 9999, 50, 100]

def emptyRule : TransitionRule := ⟨[], [], 0, 0, 0⟩

/-- The C types of a rule's fields. -/
structure TransitionRule.Typed (rule : TransitionRule) : Prop where
  history : ∀ margin ∈ rule.historyMargins, -2 ^ 31 ≤ margin ∧ margin < 2 ^ 31
  current : ∀ margin ∈ rule.currentMargins, -2 ^ 31 ≤ margin ∧ margin < 2 ^ 31
  minimum : -2 ^ 15 ≤ rule.absoluteMinimum ∧ rule.absoluteMinimum < 2 ^ 15
  depth : rule.historyDepth < 2 ^ 8
  ageLimit : rule.initialAgeLimit < 2 ^ 8

/-- Twenty rules, old class by new class, and the point limits of each class. -/
structure Lifecycle where
  rules : List TransitionRule
  pointMinimums : List Nat
  pointMaximums : List Nat
  twenty : rules.length = 20
  typed : ∀ rule ∈ rules, rule.Typed

/-- `rules[new_class + old_class * CLASS_COUNT]` -/
def Lifecycle.rule (l : Lifecycle) (oldClass newClass : Nat) : TransitionRule :=
  l.rules.getD (oldClass * classCount + newClass) emptyRule

theorem Lifecycle.rule_ageLimit (l : Lifecycle) (oldClass newClass : Nat) :
    (l.rule oldClass newClass).initialAgeLimit < 2 ^ 8 := by
  unfold Lifecycle.rule
  rw [List.getD_eq_getElem?_getD]
  cases h : l.rules[oldClass * classCount + newClass]? with
  | none => decide
  | some rule => exact (l.typed rule (List.mem_of_getElem? h)).ageLimit

/-- The tables compiled into the kernel. -/
def g6tsLifecycle : Lifecycle :=
  ⟨transitionRules, classPointMinimums, classPointMaximums, rfl, by
    simp only [transitionRules, List.forall_mem_cons, List.not_mem_nil, false_implies,
      implies_true, and_true]
    refine ⟨?_, ?_, ?_, ?_, ?_, ?_, ?_, ?_, ?_, ?_, ?_, ?_, ?_, ?_, ?_, ?_, ?_, ?_, ?_, ?_⟩ <;>
      exact ⟨by decide, by decide, by decide, by decide, by decide⟩⟩

/-- The margins of one score vector: every other class is beaten by its
margin, and the absolute minimum is reached. -/
def marginsPass (margins : List Int) (minimum : Int) (candidate : Nat)
    (scores : Nat → Int) : Bool :=
  ((List.range classCount).all fun class' => class' == candidate ||
    decide (margins.getD class' 0 * 2 ^ windowsScoreShift ≤
    s64 (scores candidate - scores class'))) &&
  decide (minimum * 2 ^ windowsScoreShift ≤ scores candidate)

/-- mirrors phase55/modules/mshw0485_touch.c:1664-1684 (`g6ts_transition_current_passes`) -/
def transitionCurrentPasses (rule : TransitionRule) (candidate : Nat) (scores : Nat → Int) : Bool :=
  marginsPass rule.currentMargins rule.absoluteMinimum candidate scores

/-- mirrors phase55/modules/mshw0485_touch.c:1686-1715 (`g6ts_transition_history_passes`) -/
def transitionHistoryPasses (track : Track) (rule : TransitionRule) (candidate : Nat) : Bool :=
  decide (rule.historyDepth ≤ windowsHistoryCapacity) &&
  decide (rule.historyDepth ≤ track.scoreHistoryCount) &&
  (List.range rule.historyDepth).all fun sample =>
    marginsPass rule.historyMargins rule.absoluteMinimum candidate (track.scoreHistoryQ24 sample)

/-- The history with a new first sample; the last one of a full history drops out. -/
def pushHistory (track : Track) (scores : Nat → Int) : Track :=
  { track with
    scoreHistoryQ24 := fun sample =>
      if sample = 0 then scores
      else if sample ≤ min track.scoreHistoryCount (windowsHistoryCapacity - 1) then
        track.scoreHistoryQ24 (sample - 1)
      else track.scoreHistoryQ24 sample
    scoreHistoryCount :=
      if track.scoreHistoryCount < windowsHistoryCapacity then track.scoreHistoryCount + 1
      else track.scoreHistoryCount }

/-- The first class with the greatest score. -/
def candidateClass (scores : Nat → Int) : Nat :=
  loop (classCount - 1) (fun k candidate =>
    if scores candidate < scores (k + 1) then k + 1 else candidate) 0

/-- The decision on a candidate that differs from the current class. -/
def transitionAccepted (l : Lifecycle) (track : Track) (contact : Contact)
    (candidate : Nat) : Bool :=
  let rule := l.rule track.windowsClass candidate
  let current := (track.age == 1 || decide (track.age ≤ rule.initialAgeLimit)) &&
    transitionCurrentPasses rule candidate contact.scoresQ24
  (current || (decide (track.age > 1) && transitionHistoryPasses track rule candidate)) &&
  decide (l.pointMinimums.getD candidate 0 ≤ contact.pixels) &&
  decide (contact.pixels ≤ l.pointMaximums.getD candidate 0)

/-- The function with its tables as an argument.
mirrors phase55/modules/mshw0485_touch.c:1722-1765 (`g6ts_windows_update_class`) -/
def windowsUpdateClassBy (l : Lifecycle) (track : Track) (contact : Contact) : Track :=
  let track := pushHistory track contact.scoresQ24
  let candidate := candidateClass contact.scoresQ24
  let accepted := track.windowsClass == candidate || transitionAccepted l track contact candidate
  let windowsClass := if accepted then candidate else track.windowsClass
  { track with windowsClass := windowsClass, confirmed := windowsClass == 0 || windowsClass == 2 }

def windowsUpdateClass (track : Track) (contact : Contact) : Track :=
  windowsUpdateClassBy g6tsLifecycle track contact

/-! ## One track and one contact -/

/-- mirrors phase55/modules/mshw0485_touch.c:1774-1791 (`g6ts_filter_coordinate`) -/
def filterCoordinate (previous sample : Nat) : Nat :=
  let delta := if previous > sample then previous - sample else sample - previous
  if delta ≤ 64 then u16 ((3 * previous + sample + 2) / 4)
  else if delta ≤ 256 then u16 ((previous + 3 * sample + 2) / 4)
  else sample

/-- The position fields of `g6ts_update_track`. -/
def moveTrack (prof : Profile) (track : Track) (contact : Contact) : Track :=
  let track := { track with
    rawX := contact.x
    rawY := contact.y
    velocityX := s16 ((contact.x : Int) - track.rawX)
    velocityY := s16 ((contact.y : Int) - track.rawY)
    sensorXQ24 := contact.sensorXQ24
    sensorYQ24 := contact.sensorYQ24
    sensorVelocityXQ24 := s32 ((contact.sensorXQ24 : Int) - track.sensorXQ24)
    sensorVelocityYQ24 := s32 ((contact.sensorYQ24 : Int) - track.sensorYQ24) }
  if prof.windowsOrchestrator then { track with outputX := contact.x, outputY := contact.y }
  else if prof.behaviorV2 then { track with outputX := contact.outputX, outputY := contact.outputY }
  else { track with
    outputX := filterCoordinate track.outputX contact.x
    outputY := filterCoordinate track.outputY contact.y }

/-- The admission evidence of the default and behavior_v2 profiles. -/
def addEvidence (track : Track) (contact : Contact) : Track :=
  if !track.confirmed && contact.shapeAllowed && decide (track.evidence < 255) then
    { track with
      evidence := track.evidence + 1
      confirmed := decide (track.evidence + 1 ≥ track.requiredEvidence) }
  else track

/-- mirrors phase55/modules/mshw0485_touch.c:1987-2032 (`g6ts_update_track`) -/
def updateTrack (prof : Profile) (track : Track) (contact : Contact) : Track :=
  let track := moveTrack prof track contact
  let track := { track with
    strength := contact.strength
    pixels := contact.pixels
    shapeClass := contact.shapeClass
    age := if track.age < 65535 then track.age + 1 else track.age }
  let track := if prof.windowsOrchestrator then windowsUpdateClass track contact
    else addEvidence track contact
  { track with missed := 0 }

/-! ## Creation -/

/-- The requirement after looking at one track. -/
def requirementNear (contact : Contact) (track : Track) (required : Nat) : Nat :=
  if !track.active || !track.confirmed || track.missed ≠ 0 then required else
    let dx : Int := track.rawX - contact.x
    let dy : Int := track.rawY - contact.y
    if dx * dx + dy * dy > trackSplitRadius * trackSplitRadius then required
    else if contact.strength * 2 ≤ track.strength ∨ contact.pixels * 2 ≤ track.pixels then
      trackConfirmSplit
    else max required trackConfirmWeak

/-- The requirement before looking at other tracks. -/
def requirementAlone (prof : Profile) (contact : Contact) : Nat :=
  let required := if contact.pixels < heatMinPixels then trackConfirmWeak
    else if prof.behaviorV2 then behaviorConfirmNormal else trackConfirmNormal
  if contact.shapeAllowed then required else max required trackConfirmWeak

/-- mirrors phase55/modules/mshw0485_touch.c:1836-1881 (`g6ts_confirmation_requirement`) -/
def confirmationRequirement (prof : Profile) (tracks : Slot → Track) (contact : Contact) : Nat :=
  (List.finRange 10).foldl (fun required slot => requirementNear contact (tracks slot) required)
    (requirementAlone prof contact)

/-- The track `g6ts_new_track` builds; `tracks` has its slot zeroed but for
the fields set so far, so it is not active there. -/
def freshTrack (prof : Profile) (tracks : Slot → Track) (contact : Contact) : Track :=
  let track : Track :=
    { rawX := contact.x
      rawY := contact.y
      outputX := if prof.behaviorV2 then contact.outputX else contact.x
      outputY := if prof.behaviorV2 then contact.outputY else contact.y
      sensorXQ24 := contact.sensorXQ24
      sensorYQ24 := contact.sensorYQ24
      strength := contact.strength
      pixels := contact.pixels
      shapeClass := contact.shapeClass
      age := 1 }
  let track := if prof.windowsOrchestrator then
      windowsUpdateClass { track with windowsClass := windowsUnclassified } contact
    else
      let required := confirmationRequirement prof tracks contact
      { track with
        evidence := if contact.shapeAllowed then 1 else 0
        requiredEvidence := required
        confirmed := decide (required ≤ 1) }
  { track with active := true }

/-- The first slot without an active track. -/
def freeSlot (tracks : Slot → Track) : Option Slot :=
  (List.finRange 10).find? fun slot => !(tracks slot).active

/-- mirrors phase55/modules/mshw0485_touch.c:2034-2069 (`g6ts_new_track`); `none` is `-ENOSPC` -/
def newTrack (prof : Profile) (ts : Heat) (contact : Contact) : Heat × Option Slot :=
  match freeSlot ts.tracks with
  | none => (ts, none)
  | some slot =>
    ({ ts with
        tracks := Function.update ts.tracks slot (freshTrack prof ts.tracks contact)
        newTracks := ts.newTracks + 1 }, some slot)

/-! ## The loops over slots and contacts -/

/-- One track of `g6ts_advance_unmatched_tracks`. -/
def advanceTrack (current : Bool) (track : Track) : Track :=
  if !track.active || current then track
  else if track.missed < contactHoldFrames then
    { track with
      missed := track.missed + 1
      velocityX := track.velocityX.tdiv 2
      velocityY := track.velocityY.tdiv 2
      sensorVelocityXQ24 := track.sensorVelocityXQ24.tdiv 2
      sensorVelocityYQ24 := track.sensorVelocityYQ24.tdiv 2 }
  else .zero

/-- mirrors phase55/modules/mshw0485_touch.c:2071-2091 (`g6ts_advance_unmatched_tracks`) -/
def advanceUnmatchedTracks (currentSlots : Slot → Bool) (tracks : Slot → Track) : Slot → Track :=
  fun slot => advanceTrack (currentSlots slot) (tracks slot)

/-- `current_slots | BIT(slot)` -/
def setSlot (currentSlots : Slot → Bool) (slot : Slot) : Slot → Bool :=
  Function.update currentSlots slot true

/-- The state of the loops over contacts: the pairs of contact and slot so
far are kept beside the mask. -/
structure Feed where
  ts : Heat
  currentSlots : Slot → Bool
  pairs : List (Nat × Slot)

/-- mirrors phase55/modules/mshw0485_touch.c:2154-2161 (one matched contact) -/
def updateMatched (prof : Profile) (contactSlots : Nat → Option Slot) (i : Nat) (f : Feed) : Feed :=
  match contactSlots i with
  | none => f
  | some slot =>
    let track := updateTrack prof (f.ts.tracks slot) (f.ts.contacts i)
    { ts := { f.ts with tracks := Function.update f.ts.tracks slot track }
      currentSlots := setSlot f.currentSlots slot
      pairs := (i, slot) :: f.pairs }

/-- One turn of `g6ts_create_unmatched_tracks`. -/
def createUnmatched (prof : Profile) (contactSlots : Nat → Option Slot) (i : Nat)
    (f : Feed) : Feed :=
  match contactSlots i with
  | some _ => f
  | none => match newTrack prof f.ts (f.ts.contacts i) with
    | (ts, none) => { f with ts := ts }
    | (ts, some slot) =>
      { ts := ts, currentSlots := setSlot f.currentSlots slot, pairs := (i, slot) :: f.pairs }

/-- mirrors phase55/modules/mshw0485_touch.c:2093-2110 (`g6ts_create_unmatched_tracks`) -/
def createUnmatchedTracks (prof : Profile) (count : Nat) (contactSlots : Nat → Option Slot)
    (f : Feed) : Feed :=
  loop count (createUnmatched prof contactSlots) f

end Sp11Touch
