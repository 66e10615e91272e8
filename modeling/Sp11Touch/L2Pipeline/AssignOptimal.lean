import Sp11Touch.L2Pipeline.Assign
import Sp11Touch.Core.HungarianOpt
import Mathlib.Data.Fintype.Card
import Mathlib.Data.List.GetD
/-!
# The assignment is the best pairing

A slot may take a contact when it is active and their distance is not the
invalid cost (`Gate`). `assignTracks` returns the pairing with the most such
pairs and, of those, the least total distance.
-/
namespace Sp11Touch
open CInt

/-- The pairs the assignment may use. -/
structure Gate (prof : Profile) (ts : Heat) (slot : Slot) (i : Nat) : Prop where
  active : (ts.tracks slot).active = true
  valid : trackDistance prof (ts.tracks slot) (ts.contacts i) ≠ assignInvalidCost
  near : prof.windowsOrchestrator = false → prof.behaviorV2 = false →
    trackDistance prof (ts.tracks slot) (ts.contacts i) ≤ trackMatchMax

/-- The cost of a pair of slot and contact. -/
def slotCost (prof : Profile) (ts : Heat) (slot : Slot) (i : Nat) : Int :=
  trackDistance prof (ts.tracks slot) (ts.contacts i)

/-! ## The gate of the distances -/

theorem linuxTrackDistance_gate (track : Track) (contact : Contact) :
    linuxTrackDistance track contact = assignInvalidCost ∨
    linuxTrackDistance track contact ≤ trackMatchMax := by
  unfold linuxTrackDistance
  simp only
  split
  · exact Or.inl rfl
  · next h =>
    refine Or.inr ?_
    have hs := Nat.sqrt_le_sqrt (Nat.le_of_not_gt h)
    rw [Nat.sqrt_eq] at hs
    simp only [intSqrt64, trackMatchMax] at hs ⊢
    omega

theorem windowsTrackDistance_gate (track : Track) (contact : Contact) :
    windowsTrackDistance track contact = assignInvalidCost ∨
      windowsTrackDistance track contact ≤ trackMatchMax := by
  unfold windowsTrackDistance
  simp only
  split
  · exact Or.inl rfl
  · next h =>
    refine Or.inr ?_
    simp only [windowsAssignRadius, trackMatchMax] at h ⊢
    omega

/-- A valid distance is at most the match radius, in every profile. -/
theorem trackDistance_gate (prof : Profile) (track : Track) (contact : Contact) :
    trackDistance prof track contact = assignInvalidCost ∨
    trackDistance prof track contact ≤ trackMatchMax := by
  unfold trackDistance
  split
  · exact windowsTrackDistance_gate track contact
  · exact linuxTrackDistance_gate track contact

theorem gate_iff {prof : Profile} {ts : Heat} {slot : Slot} {i : Nat} : Gate prof ts slot i ↔
    (ts.tracks slot).active = true ∧ slotCost prof ts slot i < assignInvalidCost := by
  have hle := (trackDistance_bounds prof (ts.tracks slot) (ts.contacts i)).2
  unfold slotCost
  refine ⟨fun h => ⟨h.active, lt_of_le_of_ne hle h.valid⟩,
    fun h => ⟨h.1, ne_of_lt h.2, fun _ _ => ?_⟩⟩
  exact (trackDistance_gate prof (ts.tracks slot) (ts.contacts i)).resolve_left (ne_of_lt h.2)

theorem Gate.cost_bounds {prof : Profile} {ts : Heat} {slot : Slot} {i : Nat}
    (h : Gate prof ts slot i) :
    0 ≤ slotCost prof ts slot i ∧ slotCost prof ts slot i ≤ trackMatchMax :=
  ⟨(trackDistance_bounds prof _ _).1, (trackDistance_gate prof _ _).resolve_left h.valid⟩

/-! ## Rows and slots -/

/-- The real part of the cost matrix. -/
def rowCost (prof : Profile) (ts : Heat) (row col : Nat) : Int :=
  slotCost prof ts ((activeSlots ts.tracks).getD row 0) col

theorem assignmentCost_padded (prof : Profile) (ts : Heat) (count : Nat) :
    assignmentCost prof ts (activeSlots ts.tracks) count =
      Hungarian.padded (activeSlots ts.tracks).length count assignUnmatchedCost
      (rowCost prof ts) := rfl

theorem mem_activeSlots {tracks : Slot → Track} {slot : Slot} :
    slot ∈ activeSlots tracks ↔ (tracks slot).active = true := by
  simp [activeSlots]

/-- The slot of the row of an active slot. -/
theorem activeSlots_row {tracks : Slot → Track} {slot : Slot} (h : (tracks slot).active = true) :
    (activeSlots tracks).idxOf slot < (activeSlots tracks).length ∧
      (activeSlots tracks).getD ((activeSlots tracks).idxOf slot) 0 = slot := by
  have hlt := List.idxOf_lt_length_of_mem (mem_activeSlots.mpr h)
  refine ⟨hlt, ?_⟩
  rw [List.getD_eq_getElem _ _ hlt, List.getElem_idxOf]

/-- What is read for contact `j`. -/
theorem readColumns_at (prof : Profile) (slots : List Slot) (count : Nat) (cost : Nat → Nat → Int)
    (p : Nat → Nat) (n j : Nat) : loop n (readColumn prof slots count cost p) (fun _ => none) j =
      if j < n then readColumn prof slots count cost p j (fun _ => none) j else none := by
  refine loop_ind (fun m (cs : Nat → Option Slot) => cs j =
    if j < m then readColumn prof slots count cost p j (fun _ => none) j else none) (by simp) ?_
  intro m cs _ ih
  by_cases hjm : j = m
  · subst hjm
    rw [if_pos (Nat.lt_succ_self j)]
    rw [if_neg (Nat.lt_irrefl j)] at ih
    unfold readColumn
    simp only
    split
    · exact ih
    · split
      · rw [Function.update_self, Function.update_self]
      · exact ih
  · have hsame : readColumn prof slots count cost p m cs j = cs j := by
      unfold readColumn
      simp only
      split
      · rfl
      · split
        · exact Function.update_of_ne hjm _ _
        · rfl
    rw [hsame, ih]
    simp only [lt_succ_iff_of_ne hjm]

/-- The slots read are those of the rows read from the solution. -/
theorem readColumns_rows (prof : Profile) (ts : Heat) {count n : Nat} {p : Nat → Nat}
    (hn : (activeSlots ts.tracks).length + count = n) (hcov : Hungarian.Covered n n p) :
    loop n (readColumn prof (activeSlots ts.tracks) count
      (assignmentCost prof ts (activeSlots ts.tracks) count) p) (fun _ => none) = fun j =>
      (Hungarian.readRow (activeSlots ts.tracks).length count (rowCost prof ts)
        assignInvalidCost p j).map
        fun row => (activeSlots ts.tracks).getD row 0 := by
  funext j
  rw [readColumns_at]
  by_cases hj : j < count
  · have hjn : j < n := by omega
    rw [if_pos hjn]
    unfold readColumn Hungarian.readRow
    rw [if_neg (hcov.ne_zero hjn)]
    simp only [← Hungarian.rowOf.eq_def]
    by_cases hrow : Hungarian.rowOf p j < (activeSlots ts.tracks).length
    · have hcost : assignmentCost prof ts (activeSlots ts.tracks) count (Hungarian.rowOf p j) j =
          rowCost prof ts (Hungarian.rowOf p j) j := by
        unfold assignmentCost
        rw [if_pos hrow, if_pos hj]
        rfl
      rw [hcost]
      by_cases hlt : rowCost prof ts (Hungarian.rowOf p j) j < assignInvalidCost
      · have hnear : rowCost prof ts (Hungarian.rowOf p j) j ≤ trackMatchMax :=
          (trackDistance_gate prof _ _).resolve_left (ne_of_lt hlt)
        simp [hrow, hj, hlt, hnear]
      · simp [hlt]
    · simp [hrow]
  · unfold readColumn Hungarian.readRow
    simp [hj]

/-! ## The best pairing -/

section
variable {prof : Profile} {ts : Heat} {count : Nat} {q : Nat → Option Slot}

/-- A pairing of slots as one of rows. -/
theorem slots_to_rows (hq : Pairs.Valid (Gate prof ts) count q) :
    Pairs.Valid (fun row j => row < (activeSlots ts.tracks).length ∧
    rowCost prof ts row j < assignInvalidCost)
      count fun j => (q j).map (activeSlots ts.tracks).idxOf := by
  refine hq.map (fun slot j h => ?_) fun s t i j hs ht he => ?_
  · obtain ⟨hact, hlt⟩ := gate_iff.mp h
    obtain ⟨h1, h2⟩ := activeSlots_row hact
    refine ⟨h1, ?_⟩
    unfold rowCost
    rw [h2]
    exact hlt
  · rw [← (activeSlots_row hs.active).2, he, (activeSlots_row ht.active).2]

theorem penal_rows (d : Int) (hq : Pairs.Valid (Gate prof ts) count q) :
    Pairs.penal (rowCost prof ts) d count (fun j => (q j).map (activeSlots ts.tracks).idxOf) =
      Pairs.penal (slotCost prof ts) d count q := by
  refine Pairs.penal_map d fun slot j h => ?_
  unfold rowCost
  rw [(activeSlots_row (hq.ok j slot h).active).2]

/-- A pairing of rows as one of slots. -/
theorem rows_to_slots {rows : Nat → Option Nat}
    (h : Pairs.Valid (fun row j => row < (activeSlots ts.tracks).length ∧
      rowCost prof ts row j < assignInvalidCost) count rows) :
    Pairs.Valid (Gate prof ts) count fun j => (rows j).map fun row =>
      (activeSlots ts.tracks).getD row 0 := by
  refine h.map (fun row j hr => ?_) fun r s i j hr hs he => ?_
  · refine gate_iff.mpr ⟨active_of_mem ?_, hr.2⟩
    rw [List.getD_eq_getElem _ _ hr.1]
    exact List.getElem_mem hr.1
  · rw [List.getD_eq_getElem _ _ hr.1, List.getD_eq_getElem _ _ hs.1] at he
    exact (activeSlots_nodup ts.tracks).getElem_inj_iff.mp he

theorem size_le_ten (hq : Pairs.Valid (Gate prof ts) count q) : Pairs.size count q ≤ 10 := by
  have := hq.size_le (P := Finset.univ) fun s _ _ => Finset.mem_univ s
  simpa using this

/-- With no tracks or no contacts nothing can be paired. -/
theorem pairing_empty (h : (activeSlots ts.tracks).length = 0 ∨ count = 0)
    (hq : Pairs.Valid (Gate prof ts) count q) : q = fun _ => none := by
  funext j
  cases hqj : q j with
  | none => rfl
  | some slot =>
    have hlt := hq.lt j slot hqj
    have hrow := (activeSlots_row (hq.ok j slot hqj).active).1
    omega

/-- The total with the reward for every pair that the dummies stand for. -/
def slotPenal (prof : Profile) (ts : Heat) (count : Nat) (q : Nat → Option Slot) : Int :=
  Pairs.penal (slotCost prof ts) (2 * assignUnmatchedCost) count q

end

theorem assignTracks_valid_least (prof : Profile) (ts : Heat) (count : Nat) :
    Pairs.Valid (Gate prof ts) count (assignTracks prof ts count).2 ∧
      ∀ q, Pairs.Valid (Gate prof ts) count q →
        slotPenal prof ts count (assignTracks prof ts count).2 ≤ slotPenal prof ts count q := by
  unfold assignTracks
  simp only
  split
  · next h =>
    refine ⟨Pairs.Valid.empty, fun q hq => ?_⟩
    rw [pairing_empty h hq]
  · have hc := assignmentCost_bounds prof ts (activeSlots ts.tracks) count
    have hbig : 2 * assignInvalidCost < (intMax : Int) := by decide
    have hcov := Hungarian.solve_covered (n := (activeSlots ts.tracks).length + count) hc hbig
    have hrows := Hungarian.readRow_valid (c := rowCost prof ts) assignInvalidCost hcov
    simp only [AssignmentWorkspace.zero, readColumns_rows prof ts rfl hcov]
    refine ⟨rows_to_slots hrows, fun q hq => ?_⟩
    unfold slotPenal
    rw [Pairs.penal_map (2 * assignUnmatchedCost) fun _ _ _ => rfl, ← penal_rows _ hq]
    rw [assignmentCost_padded] at hc ⊢
    exact Hungarian.padded_penal (by decide) hc hbig (slots_to_rows hq)

/-- A pair is worth more than every total, so the least penalised pairing is the best. -/
theorem best_of_slotPenal {prof : Profile} {ts : Heat} {count : Nat} {p : Nat → Option Slot}
    (hp : Pairs.Valid (Gate prof ts) count p)
    (hleast : ∀ q, Pairs.Valid (Gate prof ts) count q →
      slotPenal prof ts count p ≤ slotPenal prof ts count q) :
    Pairs.Best (Gate prof ts) (slotCost prof ts) count p :=
  Pairs.best_of_penal hp (fun _ _ hg => hg.cost_bounds) (by decide)
    (fun _ hr => size_le_ten hr) (by decide) hleast

/-- Where only one pairing is the best, the solver finds it. -/
theorem assignTracks_unique {prof : Profile} {ts : Heat} {count : Nat} {q : Nat → Option Slot}
    (h : Pairs.Unique (Gate prof ts) (slotCost prof ts) count q) :
    (assignTracks prof ts count).2 = q := by
  obtain ⟨hvalid, hleast⟩ := assignTracks_valid_least prof ts count
  exact h.only _ (best_of_slotPenal hvalid hleast)

theorem assignTracks_optimal (prof : Profile) (ts : Heat) (count : Nat) :
    Pairs.Best (Gate prof ts) (slotCost prof ts) count (assignTracks prof ts count).2 := by
  obtain ⟨hvalid, hleast⟩ := assignTracks_valid_least prof ts count
  exact best_of_slotPenal hvalid hleast

end Sp11Touch
