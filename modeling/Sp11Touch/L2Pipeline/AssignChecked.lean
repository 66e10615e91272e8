import Sp11Touch.L2Pipeline.Assign
import Sp11Touch.L2Pipeline.FindContacts
import Sp11Touch.Core.HungarianChecked
/-!
# `g6ts_assign_tracks` stays within its arrays and within `int`

The function once more, statement by statement, with every array access and
every sum of the solver checked against `struct g6ts_assignment_workspace`.
`findContacts_found` gives the bound on `count` its caller relies on.
-/
namespace Sp11Touch
open CInt Hungarian

/-- `G6TS_ASSIGN_MAX` and the range of `int`. -/
def assignLimits : Limits := ⟨maxContacts * 2, -2 ^ 31, intMax⟩

/-- An index into an array of `G6TS_MAX_CONTACTS` elements. -/
def contactIndex (i : Nat) : Except Fault Unit := if i < maxContacts then .ok () else .error .index

/-- mirrors phase55/modules/mshw0485_touch.c:1899-1902 (`active_slots[active_count++] = i`) -/
def fillSlots (tracks : Slot → Track) (slots : List Slot) (slot : Slot) :
    Except Fault (List Slot) :=
  if (tracks slot).active then do
    contactIndex slots.length
    return slots ++ [slot]
  else .ok slots

/-- mirrors phase55/modules/mshw0485_touch.c:1909-1920 (one entry) -/
def entryChecked (prof : Profile) (ts : Heat) (slots : List Slot) (count row col : Nat) :
    Except Fault Int :=
  if row < slots.length ∧ col < count then do
    contactIndex row
    contactIndex col
    return trackDistance prof (ts.tracks (slots.getD row 0)) (ts.contacts col)
  else if row < slots.length ∨ col < count then .ok assignUnmatchedCost
  else .ok 0

/-- mirrors phase55/modules/mshw0485_touch.c:1973-1981 (column `j`; `p[j] = 0` makes `row` the largest unsigned) -/
def readColumnChecked (prof : Profile) (slots : List Slot) (count : Nat) (cost : Nat → Nat → Int)
    (p : Nat → Nat) (col : Nat) (contactSlots : Nat → Option Slot) :
    Except Fault (Nat → Option Slot) := do
  let found ← assignLimits.get p (col + 1)
  if found = 0 then .ok contactSlots
  else if found - 1 < slots.length ∧ col < count then do
    let price ← assignLimits.getCost cost found (col + 1)
    if price < assignInvalidCost ∧
      (prof.windowsOrchestrator || prof.behaviorV2 || decide (price ≤ trackMatchMax)) then do
      contactIndex (found - 1)
      contactIndex col
      return Function.update contactSlots col slots[found - 1]?
    else .ok contactSlots
  else .ok contactSlots

/-- mirrors phase55/modules/mshw0485_touch.c:1982-1984 (contact `i`) -/
def countMatch (contactSlots : Nat → Option Slot) (i matched : Nat) : Except Fault Nat := do
  contactIndex i
  return if (contactSlots i).isSome then matched + 1 else matched

/-- mirrors phase55/modules/mshw0485_touch.c:1888-1985 (`g6ts_assign_tracks`) -/
def assignTracksChecked (prof : Profile) (ts : Heat) (count : Nat) :
    Except Fault (Heat × (Nat → Option Slot)) := do
  let slots ← (List.finRange 10).foldlM (fillSlots ts.tracks) []
  let work : AssignmentWorkspace := { AssignmentWorkspace.zero with
    activeSlots := fun k => slots.getD k 0 }
  if slots.length = 0 ∨ count = 0 then .ok ({ ts with assignment := work }, fun _ => none)
  else do
    let n := slots.length + count
    let cost ← fillChecked assignLimits n (entryChecked prof ts slots count)
    let solved ← solveChecked assignLimits cost n work.work
    let contactSlots ← loopChecked n (readColumnChecked prof slots count cost solved.p) fun _ =>
      none
    let matched ← loopChecked count (countMatch contactSlots) ts.assignmentMatches
    return ({ ts with
      assignment := { work with cost := cost, work := solved }
      assignmentMatches := matched }, contactSlots)

/-! ## The checks pass -/

theorem contactIndex_ok {i : Nat} (h : i < maxContacts) : contactIndex i = .ok () := if_pos h

theorem fillSlots_ok {tracks : Slot → Track} (l slots : List Slot)
    (h : slots.length + l.length ≤ maxContacts) :
    l.foldlM (fillSlots tracks) slots = .ok (slots ++ l.filter fun slot =>
      (tracks slot).active) := by
  induction l generalizing slots with
  | nil => simp [pure, Except.pure]
  | cons slot l ih =>
    rw [List.length_cons] at h
    rw [List.foldlM_cons, fillSlots]
    cases hact : (tracks slot).active with
    | true =>
      rw [if_pos rfl, contactIndex_ok (by omega), ok_bind]
      change List.foldlM (fillSlots tracks) (slots ++ [slot]) l = _
      rw [ih _ (by rw [List.length_append, List.length_singleton]; omega), List.filter_cons, hact]
      simp
    | false =>
      rw [if_neg Bool.false_ne_true, ok_bind, ih _ (by omega), List.filter_cons, hact]
      simp

theorem activeSlots_length (tracks : Slot → Track) : (activeSlots tracks).length ≤ maxContacts := by
  have := List.length_filter_le (fun slot => (tracks slot).active) (List.finRange 10)
  rwa [List.length_finRange] at this

section
variable {prof : Profile} {ts : Heat} {slots : List Slot} {count : Nat}
  (hslots : slots.length ≤ maxContacts)
  (hcount : count ≤ maxContacts)

include hslots hcount in
theorem entryChecked_ok (row col : Nat) :
    entryChecked prof ts slots count row col =
    .ok (assignmentCost prof ts slots count row col) := by
  unfold entryChecked assignmentCost
  by_cases hrow : row < slots.length <;> by_cases hcol : col < count <;>
    simp only [hrow, hcol, true_and, and_true,
    false_and, or_true, or_false, if_true, if_false]
  rw [contactIndex_ok (by omega), ok_bind, contactIndex_ok (by omega), ok_bind]
  rfl

include hslots hcount in
theorem readColumnChecked_ok {n : Nat} (hn : slots.length + count = n) {cost : Nat → Nat → Int}
    (p : Nat → Nat)
    {col : Nat} (hcol : col < n) (contactSlots : Nat → Option Slot) :
    readColumnChecked prof slots count (square n cost) p col contactSlots =
      .ok (readColumn prof slots count cost p col contactSlots) := by
  have hsize : n ≤ assignLimits.size := by
    simp only [assignLimits]
    omega
  unfold readColumnChecked readColumn
  rw [get_ok _ (by omega), ok_bind]
  by_cases hp : p (col + 1) = 0
  · rw [if_pos hp, if_pos hp]
  · rw [if_neg hp, if_neg hp]
    by_cases hin : p (col + 1) - 1 < slots.length ∧ col < count
    · have hrow : Col assignLimits.size (p (col + 1)) := ⟨Nat.pos_of_ne_zero hp, by omega⟩
      have hcol' : Col assignLimits.size (col + 1) := ⟨Nat.succ_pos col, by omega⟩
      have hsquare : square n cost (p (col + 1) - 1) col = cost (p (col + 1) - 1) col :=
        if_pos ⟨by omega, hcol⟩
      rw [if_pos hin, getCost_ok _ hrow hcol', ok_bind, Nat.add_sub_cancel, hsquare]
      simp only [hin.1, hin.2, true_and]
      split
      · rw [contactIndex_ok (by omega), ok_bind, contactIndex_ok (by omega), ok_bind]
        rfl
      · rfl
    · rw [if_neg hin]
      simp only [← and_assoc]
      rw [if_neg fun h => hin h.1.1]

theorem countMatches_ok (hcount : count ≤ maxContacts) (contactSlots : Nat → Option Slot)
    (matched : Nat) :
    loopChecked count (countMatch contactSlots) matched =
      .ok (matched + ((List.range count).filter fun i => (contactSlots i).isSome).length) := by
  have hstep : ∀ i t, i < count → t = matched +
    ((List.range i).filter fun i => (contactSlots i).isSome).length →
      ∃ t', countMatch contactSlots i t = .ok t' ∧
        t' = matched + ((List.range (i + 1)).filter fun i => (contactSlots i).isSome).length := by
    intro i t hi ht
    refine ⟨if (contactSlots i).isSome then t + 1 else t, ?_, ?_⟩
    · rw [countMatch, contactIndex_ok (by omega), ok_bind]
      rfl
    · rw [ht, List.range_succ, List.filter_append]
      cases h : (contactSlots i).isSome <;> simp [h, Nat.add_assoc]
  obtain ⟨t, hrun, rfl⟩ := loopChecked_ind (s := matched)
    (fun k t => t = matched + ((List.range k).filter fun i => (contactSlots i).isSome).length)
    (by simp) hstep
  exact hrun

end

/-- The workspace has room for every matrix of the function. -/
theorem assignLimits_room {n : Nat} (hn : n ≤ maxContacts * 2) :
    assignLimits.Room n assignInvalidCost := by
  refine ⟨hn, ?_, by decide⟩
  simp only [maxContacts, assignLimits, assignInvalidCost] at hn ⊢
  omega

theorem assignTracksChecked_ok (prof : Profile) (ts : Heat) {count : Nat}
    (hcount : count ≤ maxContacts) :
    assignTracksChecked prof ts count = .ok (assignTracks prof ts count) := by
  have hslots := activeSlots_length ts.tracks
  have hfill : (List.finRange 10).foldlM (fillSlots ts.tracks) [] = .ok (activeSlots ts.tracks) :=
    fillSlots_ok _ [] (by simp [maxContacts])
  unfold assignTracksChecked assignTracks
  rw [hfill, ok_bind]
  generalize activeSlots ts.tracks = slots at hslots ⊢
  simp only
  by_cases hempty : slots.length = 0 ∨ count = 0
  · rw [if_pos hempty, if_pos hempty]
  · rw [if_neg hempty, if_neg hempty]
    have hn : slots.length + count ≤ maxContacts * 2 := by omega
    have hc := assignmentCost_bounds prof ts slots count
    have hroom := assignLimits_room hn
    let solved := solve (assignmentCost prof ts slots count) (slots.length + count) intMax .zero
    have hread := loopChecked_ok (fun _ _ => True) (s := fun _ => none) trivial
      (fun _ _ _ _ => trivial)
      fun col contactSlots hcol _ => @readColumnChecked_ok prof slots count hslots hcount _ rfl
        (assignmentCost prof ts slots count) solved.p col hcol contactSlots
    have hsolve : solveChecked assignLimits (square (slots.length + count)
      (assignmentCost prof ts slots count))
        (slots.length + count) .zero = .ok solved := by
      rw [solveChecked_ok (square_bounds hc) hroom]
      exact congrArg Except.ok (solve_square hc hroom.high)
    rw [fillChecked_ok hn fun row col _ _ => entryChecked_ok hslots hcount row col, ok_bind]
    simp only [AssignmentWorkspace.zero, hsolve, ok_bind, hread, countMatches_ok hcount]
    rfl

/-- No check fails: not in the solver on any matrix the function can build, not around it, and not on the contacts
a frame finds. -/
theorem assignTracks_checked :
    (∀ (n : Nat) (cost : Nat → Nat → Int), n ≤ maxContacts * 2 →
      (∀ row col, 0 ≤ cost row col ∧ cost row col ≤ assignInvalidCost) →
      solveChecked assignLimits cost n .zero = .ok (solve cost n intMax .zero)) ∧
    (∀ (prof : Profile) (ts : Heat) (count : Nat), count ≤ maxContacts →
      assignTracksChecked prof ts count = .ok (assignTracks prof ts count)) ∧
    ∀ (prof : Profile) (ts : Heat), assignTracksChecked prof (findContacts prof ts).1
      (findContacts prof ts).2 =
      .ok (assignTracks prof (findContacts prof ts).1 (findContacts prof ts).2) := by
  refine ⟨fun n cost hn hc => ?_, fun prof ts count hcount => ?_, fun prof ts => ?_⟩
  · exact solveChecked_ok hc (assignLimits_room hn)
  · exact assignTracksChecked_ok prof ts hcount
  · exact assignTracksChecked_ok prof _ (findContacts_found prof ts).2

/-- Two rows that both want the second column, and one track with one contact. -/
theorem assignTracks_checked_two :
    solveChecked assignLimits (fun row col => if col = 1 then (row : Int) % 2 else 7) 2 .zero =
      .ok (solve (fun row col => if col = 1 then (row : Int) % 2 else 7) 2 intMax .zero) ∧
    (solve (fun row col => if col = 1 then (row : Int) % 2 else 7) 2 intMax .zero).p 2 = 1 ∧
    assignTracksChecked ⟨false, false⟩
        { Heat.zero with tracks := fun slot => { zeroTracks slot with active := slot = 3 } } 1 =
      .ok (assignTracks ⟨false, false⟩
        { Heat.zero with tracks := fun slot => { zeroTracks slot with active := slot = 3 } } 1) ∧
    (assignTracks ⟨false, false⟩
      { Heat.zero with tracks := fun slot => { zeroTracks slot with active := slot = 3 } } 1).2
      0 = some 3 := by
  refine ⟨assignTracks_checked.1 2 _ (by decide) fun row col => ?_, by decide +kernel,
    assignTracks_checked.2.1 ⟨false, false⟩ _ 1 (by decide), by decide +kernel⟩
  have h := Int.emod_two_eq row
  simp only [assignInvalidCost]
  split <;> omega

end Sp11Touch
