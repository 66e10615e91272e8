import Sp11Touch.L2Pipeline.Shape
import Sp11Touch.L2Pipeline.Classifier
/-!
# Components and contacts (`g6ts_find_contacts`)

Every active cell starts a flood fill unless an earlier fill saw it. A
component that is not weak, not vetoed by its NSR bin and not palm-sized
becomes a contact; the array keeps at most ten, the weakest is replaced.
-/
namespace Sp11Touch
open CInt

/-- mirrors phase55/modules/mshw0485_touch.c:390-394 (`g6ts_nsr_row_to_bin`) -/
def nsrRowToBin : List Nat :=
  [0, 1, 2, 3, 4, 5, 6, 7, 8, 9, 10, 11, 12, 13, 14, 15,
   0, 1, 2, 3, 4, 5, 6, 7, 8, 9, 10, 11, 12, 13, 14, 15,
   2, 3, 4, 5, 6, 7, 8, 9, 10, 11, 12, 13, 14, 15]

/-- The index of the weakest stored contact, the first one on a tie. -/
def weakestContact (contacts : Nat → Contact) : Nat :=
  loop (maxContacts - 1) (fun k weakest =>
    if (contacts (k + 1)).strength < (contacts weakest).strength then k + 1 else weakest) 0

/-- mirrors phase55/modules/mshw0485_touch.c:1085-1102 (`g6ts_store_contact`) -/
def storeContact (contacts : Nat → Contact) (contact : Contact) (contactCount : Nat) :
    (Nat → Contact) × Nat :=
  if contactCount < maxContacts then (Function.update contacts contactCount contact,
    contactCount + 1)
  else
    let weakest := weakestContact contacts
    if contact.strength > (contacts weakest).strength then
      (Function.update contacts weakest contact, contactCount)
    else (contacts, contactCount)

/-- The neighbours `(dr, dc)` with `abs(dr) + abs(dc) == 1`, in loop order. -/
def componentOffsets : List (Int × Int) := [(-1, 0), (0, -1), (0, 1), (1, 0)]

/-- The accumulation of one dequeued cell. -/
def addCell (ts : Heat) (index : Nat) (contact : Contact) : Contact :=
  let row := index / heatCols
  let col := index % heatCols
  let strength := heatSignalZero - ts.value index
  { contact with
    pixels := contact.pixels + 1
    strength := contact.strength + strength
    weightedX := contact.weightedX + col * strength
    weightedY := contact.weightedY + row * strength
    minCol := min contact.minCol col
    maxCol := max contact.maxCol col
    minRow := min contact.minRow row
    maxRow := max contact.maxRow row
    peakValue := min contact.peakValue (ts.value index) }

/-- The contact before its first cell. -/
def freshContact : Contact := { minCol := heatCols - 1, minRow := heatRows - 1, peakValue := 255 }

/-- The component of `start`: the flood fill's arrays and the sums. -/
def component (ts : Heat) (seen : Nat → Bool) (start : Nat) : Flood × Contact :=
  (Flood.drain (heatNeighbours componentOffsets) ts.heatActive (addCell ts) heatSamples 0
    (Flood.push ⟨seen, ts.heatQueue, 0⟩ start) freshContact).2

/-- mirrors phase55/modules/mshw0485_touch.c:1598-1602 (the weak gate) -/
def weakComponent (contact : Contact) : Bool :=
  contact.pixels < heatMinPixels && contact.peakValue > heatStrongMax

/-- mirrors phase55/modules/mshw0485_touch.c:1603-1617 (the NSR gate) -/
def nsrRejected (buf : HeatBuf) (contact : Contact) : Bool :=
  buf.nsrValid &&
    let sensorRow := divU64 (contact.weightedY + contact.strength / 2) contact.strength
    match nsrRowToBin[sensorRow]? with
    | none => false
    | some bin => bin < buf.nsrBinCount && buf.nsrBins bin > nsrCutoff

/-- mirrors phase55/modules/mshw0485_touch.c:1618-1623 (the palm gate) -/
def palmSized (contact : Contact) : Bool :=
  contact.pixels > heatPalmPixels || contact.maxCol - contact.minCol + 1 > heatPalmSpan ||
    contact.maxRow - contact.minRow + 1 > heatPalmSpan

/-- mirrors phase55/modules/mshw0485_touch.c:1624-1633 (the positions) -/
def locateContact (contact : Contact) : Contact :=
  let x := u16 (divU64 (contact.weightedX * logicalMax) (contact.strength * (heatCols - 1)))
  let y := u16 (divU64 (contact.weightedY * logicalMax) (contact.strength * (heatRows - 1)))
  { contact with
    x := x
    y := y
    outputX := x
    outputY := y
    sensorXQ24 := u32 (divU64 (contact.weightedX * 2 ^ 24) contact.strength)
    sensorYQ24 := u32 (divU64 (contact.weightedY * 2 ^ 24) contact.strength) }

/-- mirrors phase55/modules/mshw0485_touch.c:1637-1648 (features and class), on
the component flags set from the queue -/
def shapeContact (prof : Profile) (ts : Heat) (contact : Contact) : Heat × Contact :=
  let contact := if prof.behaviorV2 then phase76OutputCentroid ts contact else contact
  let contact := localPeakCounts ts contact
  let contact := setFeature contact 0 (contact.pixels * oneQ12 : Nat)
  let (ts, contact) := secondaryFeatures ts contact
  let contact := geometryFeatures ts contact
  let contact := setFeature contact 9 (haloFeature ts contact)
  let (contact, shapeClass) := classifyContact prof contact
  (ts, { contact with shapeClass := shapeClass, shapeAllowed := shapeClass == 0 || shapeClass == 2 })

/-- `while (tail) heat_component[heat_queue[--tail]] = 1` after the `memset` -/
def componentFlags (fill : Flood) (index : Nat) : Bool :=
  (List.range fill.tail).any fun k => fill.queue k == index

/-- The locals of the `start` loop. -/
structure FindState where
  ts : Heat
  seen : Nat → Bool
  contactCount : Nat

/-- What `find_contacts` does with one complete component. -/
def admitComponent (prof : Profile) (s : FindState) (fill : Flood)
    (contact : Contact) : FindState :=
  if weakComponent contact then { s with ts.weakRejections := s.ts.weakRejections + 1 }
  else if nsrRejected s.ts.buf contact then { s with ts.nsrRejections := s.ts.nsrRejections + 1 }
  else if palmSized contact then { s with ts.palmRejections := s.ts.palmRejections + 1 }
  else
    let (ts, contact) :=
      shapeContact prof { s.ts with heatComponent := componentFlags fill } (locateContact contact)
    let (contacts, contactCount) := storeContact ts.contacts contact s.contactCount
    { ts := { ts with heatComponent := fun _ => false, contacts := contacts }
      seen := s.seen
      contactCount := contactCount }

/-- One turn of the `start` loop. -/
def findStart (prof : Profile) (start : Nat) (s : FindState) : FindState :=
  if s.seen start || !s.ts.heatActive start then s else
    let (fill, contact) := component s.ts s.seen start
    admitComponent prof
      { s with ts.heatQueue := fill.queue, ts.componentTotal := s.ts.componentTotal + 1, seen := fill.mark }
      fill contact

/-- The end of `find_contacts`. -/
def FindState.finish (s : FindState) : Heat × Nat :=
  ({ s.ts with
      buf.heatSeen := fun i => if s.seen i then 1 else 0
      contactTotal := s.ts.contactTotal + s.contactCount }, s.contactCount)

/-- mirrors phase55/modules/mshw0485_touch.c:1535-1662 (`g6ts_find_contacts`) -/
def findContacts (prof : Profile) (ts : Heat) : Heat × Nat :=
  (loop heatSamples (findStart prof) ⟨ts, fun _ => false, 0⟩).finish

/-! ## The frame's contacts leave the tracks alone -/

theorem storeContact_count (contacts : Nat → Contact) (contact : Contact) {count : Nat}
    (h : count ≤ maxContacts) : (storeContact contacts contact count).2 ≤ maxContacts := by
  unfold storeContact
  split
  · next hlt => exact hlt
  · simp only
    split <;> exact h

/-- The secondary passes leave all but their two arrays alone. -/
theorem secondaryFeatures_frame (ts : Heat) (contact : Contact) :
    ∃ w q, (secondaryFeatures ts contact).1 = { ts with heatWork := w, heatQueue := q } := by
  unfold secondaryFeatures
  simp only
  split
  · exact ⟨ts.heatWork, ts.heatQueue, rfl⟩
  · refine loop_keeps (fun s : Heat × Contact => ∃ w q, s.1 =
      { ts with heatWork := w, heatQueue := q })
      ⟨ts.heatWork, ts.heatQueue, rfl⟩ fun i t _ h => ?_
    obtain ⟨w, q, h⟩ := h
    unfold secondaryPass
    simp only
    rw [h]
    exact ⟨_, _, rfl⟩

theorem shapeContact_frame (prof : Profile) (ts : Heat) (contact : Contact) :
    ∃ w q, (shapeContact prof ts contact).1 = { ts with heatWork := w, heatQueue := q } := by
  unfold shapeContact
  exact secondaryFeatures_frame ts _

theorem shapeContact_tracks (prof : Profile) (ts : Heat) (contact : Contact) :
    (shapeContact prof ts contact).1.tracks = ts.tracks := by
  obtain ⟨w, q, h⟩ := shapeContact_frame prof ts contact
  rw [h]

/-- At most ten contacts, and the tracks as before. -/
structure Found (tracks : Slot → Track) (s : FindState) : Prop where
  tracks : s.ts.tracks = tracks
  count : s.contactCount ≤ maxContacts

theorem admitComponent_found {prof : Profile} {s : FindState} {tracks : Slot → Track}
    (h : Found tracks s) (fill : Flood) (contact : Contact) :
    Found tracks (admitComponent prof s fill contact) := by
  unfold admitComponent
  split
  · exact ⟨h.tracks, h.count⟩
  split
  · exact ⟨h.tracks, h.count⟩
  split
  · exact ⟨h.tracks, h.count⟩
  · exact ⟨(shapeContact_tracks prof _ _).trans h.tracks, storeContact_count _ _ h.count⟩

theorem findStart_found {prof : Profile} {s : FindState} {tracks : Slot → Track} (start : Nat)
    (h : Found tracks s) : Found tracks (findStart prof start s) := by
  unfold findStart
  split
  · exact h
  · generalize component s.ts s.seen start = r
    cases r with
    | mk fill contact =>
      apply admitComponent_found
      exact ⟨h.tracks, h.count⟩

theorem finish_found {tracks : Slot → Track} {s : FindState} (h : Found tracks s) :
    s.finish.1.tracks = tracks ∧ s.finish.2 ≤ maxContacts := ⟨h.tracks, h.count⟩

theorem findContacts_found (prof : Profile) (ts : Heat) :
    (findContacts prof ts).1.tracks = ts.tracks ∧ (findContacts prof ts).2 ≤ maxContacts := by
  have h0 : Found ts.tracks ⟨ts, fun _ => false, 0⟩ := ⟨rfl, Nat.zero_le _⟩
  unfold findContacts
  exact finish_found (loop_keeps (Found ts.tracks) h0 fun i _ _ h => findStart_found i h)

end Sp11Touch
