import Sp11Touch.L2Pipeline.Data
/-!
# The reference tracker (`tools/track_heat_contacts.py`)

`ContactTracker` with its default parameters. `self.tracks`, a dict keyed by
the slot, is a function to `Option Track`; `used_mask` and the sets of matched
slots and samples are predicates. The coordinates of a measurement are the
kernel's, from `0` to `LOGICAL_MAX`, so `hypot` takes the root of an integer
below `2 ^ 31`: it never lies on a rounding boundary, and `round(hypot(..))`
is the nearest integer.
-/
namespace Sp11Touch.Oracle
open CInt

/-- mirrors tools/track_heat_contacts.py:53-67 (`Measurement`) -/
structure Measurement where
  x : Nat
  y : Nat
  pixels : Nat
  strength : Nat
  deriving DecidableEq, Repr

/-- mirrors tools/track_heat_contacts.py:48-50 (`TrackState`) -/
inductive TrackState where
  | active
  | coasting
  deriving DecidableEq, Repr

/-- mirrors tools/track_heat_contacts.py:70-94 (`Track`) -/
structure Track where
  slot : Slot
  rawX : Nat
  rawY : Nat
  outputX : Nat
  outputY : Nat
  velocityX : Int := 0
  velocityY : Int := 0
  age : Nat := 1
  missed : Nat := 0
  evidence : Nat := 1
  requiredEvidence : Nat := trackConfirmNormal
  confirmed : Bool := false
  state : TrackState := .active
  pixels : Nat := 0
  strength : Nat := 0
  deriving DecidableEq, Repr

/-- mirrors tools/track_heat_contacts.py:97-106 (`TrackedContact`) -/
structure TrackedContact where
  slot : Slot
  x : Nat
  y : Nat
  rawX : Nat
  rawY : Nat
  age : Nat
  missed : Nat
  held : Bool
  deriving DecidableEq, Repr

/-- `predicted_x` and `predicted_y`. -/
def predicted (raw : Nat) (velocity : Int) : Int := min (logicalMax : Int) (max 0 (raw + velocity))

/-- `round(hypot(dx, dy))`: the integer nearest to the root of the sum of squares. -/
def roundHypot (dx dy : Int) : Nat :=
  let squared := (dx * dx + dy * dy).toNat
  let root := Nat.sqrt squared
  if squared ≤ root * root + root then root else root + 1

/-- mirrors tools/track_heat_contacts.py:109-120 (`_smooth`) -/
def smooth (previous sample : Nat) : Nat :=
  let delta := ((sample : Int) - previous).natAbs
  if delta ≤ 64 then (3 * previous + (4 - 3) * sample + 4 / 2) / 4
  else if delta ≤ 256 then (1 * previous + (4 - 1) * sample + 4 / 2) / 4
  else sample

/-! ## Matching -/

/-- `round(hypot(..))` from the predicted position to the measurement. -/
def distance (track : Track) (sample : Measurement) : Nat :=
  roundHypot (predicted track.rawX track.velocityX - sample.x)
    (predicted track.rawY track.velocityY - sample.y)

/-- A row of `costs`. -/
def costRow (samples : List Measurement) (track : Track) : List (Option Int) :=
  samples.map fun sample =>
    if distance track sample ≤ trackMatchMax then some (distance track sample : Int) else none

/-- `(matched, total, pairs)`; a pair is a track index and a measurement index. -/
structure Solution where
  matched : Nat
  total : Int
  pairs : List (Nat × Nat)

/-- The inner `solve` on the rows from `trackIndex`. -/
def solve : List (List (Option Int)) → Nat → (Nat → Bool) → Solution
  | [], _, _ => ⟨0, 0, []⟩
  | row :: rest, trackIndex, used =>
    loop row.length (fun i best =>
      match row.getD i none with
      | none => best
      | some cost =>
        if used i then best else
          let sub := solve rest (trackIndex + 1) (Function.update used i true)
          let candidate : Solution := ⟨sub.matched + 1, sub.total + cost,
            (trackIndex, i) :: sub.pairs⟩
          if candidate.matched > best.matched ∨
            candidate.matched = best.matched ∧
            candidate.total < best.total then candidate else best)
      (solve rest (trackIndex + 1) used)

/-- mirrors tools/track_heat_contacts.py:123-172 (`minimum_cost_matches`) -/
def minimumCostMatches (tracks : List Track) (samples : List Measurement) : List (Nat × Nat) :=
  if tracks.isEmpty || samples.isEmpty then []
  else (solve (tracks.map (costRow samples)) 0 fun _ => false).pairs

/-! ## Frames -/

/-- `self.tracks` -/
abbrev Tracks : Type := Slot → Option Track

/-- The requirement after looking at one track. -/
def requirementNear (sample : Measurement) (track : Track) (required : Nat) : Nat :=
  if !track.confirmed || track.state ≠ .active then required else
    let dx : Int := track.rawX - sample.x
    let dy : Int := track.rawY - sample.y
    if dx * dx + dy * dy > trackSplitRadius * trackSplitRadius then required
    else if sample.strength * 2 ≤ track.strength ∨ sample.pixels * 2 ≤ track.pixels then
      max (max required trackConfirmWeak) trackConfirmSplit
    else max required trackConfirmWeak

/-- The order of `self.tracks.values()` does not matter: every step is a maximum.
mirrors tools/track_heat_contacts.py:272-285 (`_confirmation_requirement`) -/
def confirmationRequirement (tracks : Tracks) (sample : Measurement) : Nat :=
  (List.finRange 10).foldl (fun required slot => match tracks slot with
    | none => required
    | some track => requirementNear sample track required)
    (if sample.pixels < 3 then max trackConfirmNormal trackConfirmWeak else trackConfirmNormal)

/-- A matched track. -/
def observe (track : Track) (sample : Measurement) : Track :=
  { track with
    rawX := sample.x
    rawY := sample.y
    velocityX := (sample.x : Int) - track.rawX
    velocityY := (sample.y : Int) - track.rawY
    outputX := smooth track.outputX sample.x
    outputY := smooth track.outputY sample.y
    age := track.age + 1
    evidence := if !track.confirmed then track.evidence + 1 else track.evidence
    confirmed := track.confirmed || decide (track.evidence + 1 ≥ track.requiredEvidence)
    missed := 0
    state := .active
    pixels := sample.pixels
    strength := sample.strength }

/-- An unmatched track; `none` is the deletion. Python's `//` rounds down. -/
def coast (track : Track) : Option Track :=
  if track.missed + 1 > contactHoldFrames then none
  else some { track with
    missed := track.missed + 1
    state := .coasting
    velocityX := track.velocityX / 2
    velocityY := track.velocityY / 2 }

/-- A new track in a free slot. -/
def create (tracks : Tracks) (slot : Slot) (sample : Measurement) : Track :=
  { slot := slot
    rawX := sample.x
    rawY := sample.y
    outputX := sample.x
    outputY := sample.y
    pixels := sample.pixels
    strength := sample.strength
    requiredEvidence := confirmationRequirement tracks sample }

/-- The slots in `self.tracks`, sorted. -/
def activeSlots (tracks : Tracks) : List Slot :=
  (List.finRange 10).filter fun slot => (tracks slot).isSome

/-- `free_slots` -/
def freeSlots (tracks : Tracks) : List Slot :=
  (List.finRange 10).filter fun slot => (tracks slot).isNone

/-- One turn of the loop over the pairs. -/
def updatePair (slots : List Slot) (samples : List Measurement) (tracks : Tracks)
    (pair : Nat × Nat) : Tracks :=
  match slots[pair.1]?, samples[pair.2]? with
  | some slot, some sample => Function.update tracks slot ((tracks slot).map fun track => observe track sample)
  | _, _ => tracks

/-- The loop over the unmatched slots. -/
def missSlots (matched : Slot → Bool) (tracks : Tracks) : Tracks := fun slot =>
  if matched slot then tracks slot else (tracks slot).bind coast

/-- One turn of the loop over the samples; `free_slots` is popped beside the tracks. -/
def createTrack (samples : List Measurement) (matched : Nat → Bool) (i : Nat)
    (s : Tracks × List Slot) :
    Tracks × List Slot :=
  if matched i then s else
    match s.2, samples[i]? with
    | slot :: free, some sample => (Function.update s.1 slot (some (create s.1 slot sample)), free)
    | _, _ => s

/-- The list returned, in slot order. -/
def report (tracks : Tracks) : List TrackedContact :=
  (List.finRange 10).filterMap fun slot => match tracks slot with
    | none => none
    | some track =>
      if track.state = .active ∧ track.confirmed then
        some ⟨track.slot, track.outputX, track.outputY, track.rawX, track.rawY,
          track.age, track.missed,
          decide (track.state = .coasting)⟩
      else none

/-- The pairs of slot and sample. -/
def framePairs (tracks : Tracks) (samples : List Measurement) : List (Nat × Nat) :=
  minimumCostMatches ((activeSlots tracks).filterMap tracks) samples

/-- mirrors tools/track_heat_contacts.py:290-371 (`ContactTracker.update`) -/
def update (tracks : Tracks) (measurements : List Measurement) : Tracks × List TrackedContact :=
  let samples := measurements.take maxContacts
  let slots := activeSlots tracks
  let pairs := framePairs tracks samples
  let observed := pairs.foldl (updatePair slots samples) tracks
  let aged := missSlots (fun slot => pairs.any fun p => slots[p.1]? == some slot) observed
  let created := loop samples.length (createTrack samples fun i => pairs.any fun p => p.2 == i)
    (aged, freeSlots aged)
  (created.1, report created.1)

end Sp11Touch.Oracle
