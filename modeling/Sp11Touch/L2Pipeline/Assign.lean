import Sp11Touch.L2Pipeline.Tracks
import Sp11Touch.Core.HungarianInv
/-!
# Assignment of contacts to tracks (`g6ts_assign_tracks`)

The cost matrix is square: rows are the active tracks and one dummy per
contact, columns the contacts and one dummy per track. A gated-out pair costs
more than closing one track and opening another.
-/
namespace Sp11Touch
open CInt

def assignUnmatchedCost : Int := 1000000
def assignInvalidCost : Int := 3000000
def windowsAssignXScaleQ24 : Nat := 68082944
def windowsAssignYScaleQ24 : Nat := 67306464
def windowsAssignRadius : Nat := 5

/-- mirrors phase55/modules/mshw0485_touch.c:1767-1772 (`g6ts_windows_assignment_coordinate`);
with a `u32` position and either scale the product is below `2 ^ 59`, so the `u64` does not wrap. -/
def windowsAssignmentCoordinate (positionQ24 scaleQ24 : Nat) : Nat :=
  min ((positionQ24 * scaleQ24 + 2 ^ 47) >>> 48) 32767

/-- The position a track is expected at, in sensor cells. -/
def predictedQ24 (position : Nat) (velocity : Int) (cells : Nat) : Nat :=
  (clamp (position + velocity) 0 ((cells - 1 : Nat) * 2 ^ 24)).toNat

/-- mirrors phase55/modules/mshw0485_touch.c:1796-1821 (windows_orchestrator or behavior_v2) -/
def windowsTrackDistance (track : Track) (contact : Contact) : Int :=
  let coordX (p : Nat) : Int := windowsAssignmentCoordinate p windowsAssignXScaleQ24
  let coordY (p : Nat) : Int := windowsAssignmentCoordinate p windowsAssignYScaleQ24
  let dx := coordX (predictedQ24 track.sensorXQ24 track.sensorVelocityXQ24 heatCols) -
    coordX contact.sensorXQ24
  let dy := coordY (predictedQ24 track.sensorYQ24 track.sensorVelocityYQ24 heatRows) -
    coordY contact.sensorYQ24
  let squared := (dx * dx + dy * dy).toNat
  if squared ≥ windowsAssignRadius * windowsAssignRadius then assignInvalidCost else squared

/-- mirrors phase55/modules/mshw0485_touch.c:1823-1833 (the default profile) -/
def linuxTrackDistance (track : Track) (contact : Contact) : Int :=
  let dx := clamp (track.rawX + track.velocityX) 0 logicalMax - contact.x
  let dy := clamp (track.rawY + track.velocityY) 0 logicalMax - contact.y
  let squared := (dx * dx + dy * dy).toNat
  if squared > trackMatchMax * trackMatchMax then assignInvalidCost else intSqrt64 squared

/-- mirrors phase55/modules/mshw0485_touch.c:1793-1834 (`g6ts_track_distance`) -/
def trackDistance (prof : Profile) (track : Track) (contact : Contact) : Int :=
  if prof.windowsOrchestrator || prof.behaviorV2 then windowsTrackDistance track contact
  else linuxTrackDistance track contact

/-- `active_slots`, in slot order. -/
def activeSlots (tracks : Slot → Track) : List Slot :=
  (List.finRange 10).filter fun slot => (tracks slot).active

/-- The square cost matrix. -/
def assignmentCost (prof : Profile) (ts : Heat) (slots : List Slot) (count row col : Nat) : Int :=
  if row < slots.length then
    if col < count then trackDistance prof (ts.tracks (slots.getD row 0)) (ts.contacts col)
    else assignUnmatchedCost
  else if col < count then assignUnmatchedCost else 0

/-- mirrors phase55/modules/mshw0485_touch.c:1973-1981 (column `j` of the solution) -/
def readColumn (prof : Profile) (slots : List Slot) (count : Nat) (cost : Nat → Nat → Int)
    (p : Nat → Nat) (col : Nat) (contactSlots : Nat → Option Slot) : Nat → Option Slot :=
  if p (col + 1) = 0 then contactSlots else
    let row := p (col + 1) - 1
    if row < slots.length ∧ col < count ∧ cost row col < assignInvalidCost ∧
      (prof.windowsOrchestrator || prof.behaviorV2 || decide (cost row col ≤ trackMatchMax)) then
      Function.update contactSlots col slots[row]?
    else contactSlots

/-- mirrors phase55/modules/mshw0485_touch.c:1888-1985 (`g6ts_assign_tracks`) -/
def assignTracks (prof : Profile) (ts : Heat) (count : Nat) : Heat × (Nat → Option Slot) :=
  let slots := activeSlots ts.tracks
  let work : AssignmentWorkspace := { AssignmentWorkspace.zero with
    activeSlots := fun k => slots.getD k 0 }
  if slots.length = 0 ∨ count = 0 then ({ ts with assignment := work }, fun _ => none)
  else
    let n := slots.length + count
    let cost := assignmentCost prof ts slots count
    let solved := Hungarian.solve cost n intMax work.work
    let contactSlots := loop n (readColumn prof slots count cost solved.p) fun _ => none
    ({ ts with
        assignment := { work with
          cost := fun row col => if row < n ∧ col < n then cost row col else 0
          work := solved }
        assignmentMatches := ts.assignmentMatches +
          ((List.range count).filter fun i => (contactSlots i).isSome).length }, contactSlots)

/-! ## The pairing is injective and stays on active slots -/

theorem trackDistance_bounds (prof : Profile) (track : Track) (contact : Contact) :
    0 ≤ trackDistance prof track contact ∧ trackDistance prof track contact ≤
    assignInvalidCost := by
  unfold trackDistance
  split
  · unfold windowsTrackDistance
    simp only
    split
    · decide
    · next h => simp only [windowsAssignRadius, assignInvalidCost] at h ⊢; omega
  · unfold linuxTrackDistance
    simp only
    split
    · decide
    · next h =>
      have hs := Nat.sqrt_le_sqrt (Nat.le_of_not_gt h)
      rw [Nat.sqrt_eq] at hs
      simp only [intSqrt64, assignInvalidCost, trackMatchMax] at hs ⊢
      omega

theorem assignmentCost_bounds (prof : Profile) (ts : Heat) (slots : List Slot)
    (count row col : Nat) :
    0 ≤ assignmentCost prof ts slots count row col ∧
      assignmentCost prof ts slots count row col ≤ assignInvalidCost := by
  unfold assignmentCost
  split
  · split
    · exact trackDistance_bounds _ _ _
    · decide
  · split <;> decide

theorem activeSlots_nodup (tracks : Slot → Track) : (activeSlots tracks).Nodup :=
  (List.nodup_finRange 10).filter _

theorem active_of_mem {tracks : Slot → Track} {slot : Slot} (h : slot ∈ activeSlots tracks) :
    (tracks slot).active = true := by
  simpa [activeSlots] using h

/-- A slot read from the solution comes from a matched column of a contact. -/
theorem readColumns_some {prof : Profile} {slots : List Slot} {count : Nat} {cost : Nat → Nat → Int}
    {p : Nat → Nat} {n i : Nat} {slot : Slot}
    (h : loop n (readColumn prof slots count cost p) (fun _ => none) i = some slot) :
    i < n ∧ i < count ∧ p (i + 1) ≠ 0 ∧ slots[p (i + 1) - 1]? = some slot := by
  revert h
  refine loop_ind (fun m (cs : Nat → Option Slot) => cs i = some slot →
    i < m ∧ i < count ∧ p (i + 1) ≠ 0 ∧ slots[p (i + 1) - 1]? = some slot) (by simp) ?_
  intro m cs _ ih hcs
  unfold readColumn at hcs
  split at hcs
  · exact ⟨Nat.lt_succ_of_lt (ih hcs).1, (ih hcs).2⟩
  · next hp =>
    simp only at hcs
    split at hcs
    · next hc =>
      by_cases him : i = m
      · subst him
        rw [Function.update_self] at hcs
        exact ⟨Nat.lt_succ_self i, hc.2.1, hp, hcs⟩
      · rw [Function.update_of_ne him] at hcs
        exact ⟨Nat.lt_succ_of_lt (ih hcs).1, (ih hcs).2⟩
    · exact ⟨Nat.lt_succ_of_lt (ih hcs).1, (ih hcs).2⟩

/-- What the frame relies on: only active slots, none of them twice. -/
structure Pairing (tracks : Slot → Track) (count : Nat)
    (contactSlots : Nat → Option Slot) : Prop where
  lt : ∀ i slot, contactSlots i = some slot → i < count
  active : ∀ i slot, contactSlots i = some slot → (tracks slot).active = true
  inj : ∀ i j slot, contactSlots i = some slot → contactSlots j = some slot → i = j

theorem readColumns_pairing (prof : Profile) (ts : Heat) (count : Nat) (cost : Nat → Nat → Int)
    {n : Nat}
    {w : Hungarian.Work} (hw : Hungarian.Matched cost n n w) :
    Pairing ts.tracks count
      (loop n (readColumn prof (activeSlots ts.tracks) count cost w.p) fun _ => none) := by
  refine ⟨fun i slot h => (readColumns_some h).2.1, fun i slot h => ?_, fun i j slot hi hj => ?_⟩
  · exact active_of_mem (List.mem_of_getElem? (readColumns_some h).2.2.2)
  · obtain ⟨h1, _, h2, h3⟩ := readColumns_some hi
    obtain ⟨h4, _, h5, h6⟩ := readColumns_some hj
    have hlt : w.p (i + 1) - 1 < (activeSlots ts.tracks).length :=
      (List.getElem?_eq_some_iff.mp h3).1
    have hrow := (List.getElem?_inj hlt (activeSlots_nodup ts.tracks)).mp (h3.trans h6.symm)
    have hcol := hw.inj (i + 1) (j + 1) ⟨by omega, h1⟩ ⟨by omega, h4⟩ h2 (by omega)
    omega

theorem assignTracks_pairing (prof : Profile) (ts : Heat) (count : Nat) :
    Pairing ts.tracks count (assignTracks prof ts count).2 := by
  unfold assignTracks
  simp only
  split
  · exact ⟨fun _ _ h => (nomatch h), fun _ _ h => (nomatch h), fun _ _ _ h => (nomatch h)⟩
  · apply readColumns_pairing
    exact Hungarian.solve_matched (assignmentCost_bounds prof ts _ count) (by decide)

theorem assignTracks_frame (prof : Profile) (ts : Heat) (count : Nat) :
    (assignTracks prof ts count).1.tracks = ts.tracks := by
  unfold assignTracks
  simp only
  split <;> rfl

theorem assignTracks_contacts (prof : Profile) (ts : Heat) (count : Nat) :
    (assignTracks prof ts count).1.contacts = ts.contacts := by
  unfold assignTracks
  simp only
  split <;> rfl

end Sp11Touch
