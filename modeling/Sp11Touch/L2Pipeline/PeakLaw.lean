import Sp11Touch.L2Pipeline.Accepted
/-!
# Local peaks

A cell is selected when no neighbour has a stronger signal and at most one, of a
greater index, has the same. So selected cells are never adjacent
(`selected_independent`), and a cell with the strictly strongest signal of an
island is selected: outside the island the grid is inactive, and off the grid
the walk reads zero. `peaks_exact` collects this for every accepted component.
-/
namespace Sp11Touch
open CInt Region

/-- The neighbours of the peak walk, as `(column, row)` offsets. -/
def peakOffsets : List (Int × Int) := [(-1, 0), (1, 0), (0, -1), (0, 1)]

def peakNeighbour (index : Nat) (o : Int × Int) : Option Nat :=
  heatCell ((index / heatCols : Nat) + o.2) ((index % heatCols : Nat) + o.1)

/-- The signal the walk compares with: zero off the grid. -/
def peakSignal (ts : Heat) (index : Nat) (o : Int × Int) : Int :=
  match peakNeighbour index o with
  | some cell => signalQ12 (ts.value cell)
  | none => 0

theorem peakNeighbour_iff {a : Nat} (ha : a < heatSamples) (b : Nat) :
    (∃ o ∈ peakOffsets, peakNeighbour a o = some b) ↔ heatAdjacent a b := by
  simp only [peakNeighbour, heatCell_eq_some]
  apply Iff.intro
  · intro h
    obtain ⟨o, hmem, hb, hrow, hcol⟩ := h
    simp only [peakOffsets, List.mem_cons, List.not_mem_nil, or_false, Prod.ext_iff] at hmem
    exact ⟨ha, hb, by omega⟩
  · intro h
    obtain ⟨_, hb, hd⟩ := h
    refine ⟨((b % heatCols : Nat) - (a % heatCols : Nat),
      (b / heatCols : Nat) - (a / heatCols : Nat)), ?_, hb, ?_, ?_⟩
    · simp only [peakOffsets, List.mem_cons, List.not_mem_nil, or_false, Prod.ext_iff]
      omega
    · simp only
      omega
    · simp only
      omega

/-! ## The comparison of one cell -/

/-- What the fold over some neighbours leaves. -/
structure Tallied (ts : Heat) (index : Nat) (offsets : List (Int × Int))
    (t : PeakTally) : Prop where
  lower : t.lower = offsets.countP fun o => peakSignal ts index o < signalQ12 (ts.value index)
  equal : t.nearEqual = offsets.countP fun o => signalQ12 (ts.value index) = peakSignal ts index o
  last : t.nearEqual ≠ 0 → ∃ o ∈ offsets, peakSignal ts index o = signalQ12 (ts.value index) ∧
    t.equalIndex = peakNeighbour index o ∧ t.equalSignal = signalQ12 (ts.value index)

/-- The comparison with one neighbour. -/
def tallyStep (ts : Heat) (index : Nat) (t : PeakTally) (o : Int × Int) : PeakTally :=
  if signalQ12 (ts.value index) > peakSignal ts index o then { t with lower := t.lower + 1 }
  else if signalQ12 (ts.value index) = peakSignal ts index o then
    ⟨t.lower, t.nearEqual + 1, peakNeighbour index o, peakSignal ts index o⟩
  else t

theorem peakTally_eq (ts : Heat) (index : Nat) :
    peakTally ts index = peakOffsets.foldl (tallyStep ts index) ⟨0, 0, none, 0⟩ := rfl

theorem tallyStep_tallied {ts : Heat} {index : Nat} {offsets : List (Int × Int)} {t : PeakTally}
    (h : Tallied ts index offsets t) (o : Int × Int) : Tallied ts index (offsets ++ [o])
    (tallyStep ts index t o) := by
  have hlast : t.nearEqual ≠ 0 → ∃ o' ∈ offsets ++ [o], peakSignal ts index o' =
    signalQ12 (ts.value index) ∧
      t.equalIndex = peakNeighbour index o' ∧ t.equalSignal = signalQ12 (ts.value index) := by
    intro hne
    obtain ⟨o', hmem, h1⟩ := h.last hne
    exact ⟨o', List.mem_append_left _ hmem, h1⟩
  unfold tallyStep
  split
  · next hgt =>
    refine ⟨?_, ?_, hlast⟩
    · simp [List.countP_append, h.lower, hgt]
    · have hne : signalQ12 (ts.value index) ≠ peakSignal ts index o := by omega
      simp [List.countP_append, h.equal, hne]
  split
  · next hle heq =>
    refine ⟨?_, ?_, fun _ => ⟨o, by simp, heq.symm, rfl, heq.symm⟩⟩
    · simp [List.countP_append, h.lower, not_lt.mp hle]
    · simp [List.countP_append, h.equal, heq]
  · next hle hne =>
    refine ⟨?_, ?_, hlast⟩
    · simp [List.countP_append, h.lower, not_lt.mp hle]
    · simp [List.countP_append, h.equal, hne]

theorem peakTally_tallied (ts : Heat) (index : Nat) :
    Tallied ts index peakOffsets (peakTally ts index) := by
  have hall : ∀ offsets : List (Int × Int), Tallied ts index offsets
    (offsets.foldl (tallyStep ts index) ⟨0, 0, none, 0⟩) := by
    intro offsets
    induction offsets using List.reverseRecOn with
    | nil => exact ⟨rfl, rfl, fun h => absurd rfl h⟩
    | append_singleton offsets o ih =>
      rw [List.foldl_append]
      exact tallyStep_tallied ih o
  rw [peakTally_eq]
  exact hall peakOffsets

/-- What a selected cell says of its neighbours. -/
structure Selected (ts : Heat) (index : Nat) : Prop where
  highest : ∀ o ∈ peakOffsets, peakSignal ts index o ≤ signalQ12 (ts.value index)
  tie : ∀ o ∈ peakOffsets, peakSignal ts index o = signalQ12 (ts.value index) →
    ∀ cell, peakNeighbour index o = some cell → index < cell

/-- Two of the four that a count of one counts are the same. -/
theorem eq_of_countP_one {α : Type} {p : α → Bool} {l : List α} (h : l.countP p = 1) {a b : α}
    (ha : a ∈ l) (hb : b ∈ l)
    (hpa : p a = true) (hpb : p b = true) : a = b := by
  rw [List.countP_eq_length_filter, List.length_eq_one_iff] at h
  obtain ⟨c, hc⟩ := h
  have h1 : a ∈ l.filter p := List.mem_filter.mpr ⟨ha, hpa⟩
  have h2 : b ∈ l.filter p := List.mem_filter.mpr ⟨hb, hpb⟩
  rw [hc, List.mem_singleton] at h1 h2
  rw [h1, h2]

theorem countP_lower_equal_le {α : Type} (f : α → Int) (c : Int) (l : List α) :
    (l.countP fun o => f o < c) + (l.countP fun o => c = f o) ≤ l.length := by
  induction l with
  | nil => exact Nat.le_refl _
  | cons o l ih =>
    simp only [List.countP_cons, List.length_cons, decide_eq_true_eq]
    rcases lt_trichotomy (f o) c with hlt | heq | hgt
    · rw [if_pos hlt, if_neg (by omega)]; omega
    · rw [if_neg (by omega), if_pos heq.symm]; omega
    · rw [if_neg (by omega), if_neg (by omega)]; omega

/-- Where every entry is counted as lower or equal, none is greater. -/
theorem le_of_countP {α : Type} {f : α → Int} {c : Int} {l : List α}
    (h : l.length ≤ (l.countP fun o => f o < c) + (l.countP fun o => c = f o)) :
    ∀ o ∈ l, f o ≤ c := by
  induction l with
  | nil => exact fun o ho => absurd ho List.not_mem_nil
  | cons o l ih =>
    have hle := countP_lower_equal_le f c l
    simp only [List.countP_cons, List.length_cons, decide_eq_true_eq] at h
    have hhead : f o ≤ c := by
      by_contra hgt
      rw [if_neg (by omega), if_neg (by omega)] at h
      omega
    intro o' ho'
    rcases List.mem_cons.mp ho' with rfl | ho'
    · exact hhead
    · refine ih ?_ o' ho'
      rcases lt_or_eq_of_le hhead with hlt | heq
      · rw [if_pos hlt, if_neg (by omega)] at h; omega
      · rw [if_neg (by omega), if_pos heq.symm] at h; omega

theorem tallied_le {ts : Heat} {index : Nat} {t : PeakTally} (h : Tallied ts index peakOffsets t)
    (hall : t.lower + t.nearEqual = 4) : ∀ o ∈ peakOffsets, peakSignal ts index o ≤
    signalQ12 (ts.value index) := by
  rw [h.lower, h.equal] at hall
  exact le_of_countP (Nat.le_of_eq hall.symm)

theorem peakSelected_selected {ts : Heat} {index : Nat} (h : peakSelected ts index = true) :
    Selected ts index := by
  have ht := peakTally_tallied ts index
  unfold peakSelected at h
  simp only at h
  split at h
  · next hcount =>
    refine ⟨tallied_le ht (by omega), fun o ho heq cell hcell => ?_⟩
    obtain ⟨o', ho', heq', hindex, hsignal⟩ := ht.last (by omega)
    have hone := hcount.2
    rw [ht.equal] at hone
    obtain rfl : o = o' := eq_of_countP_one hone ho ho' (by simp [heq]) (by simp [heq'])
    rw [hindex, hcell, hsignal] at h
    simpa using h
  · have hfour : (peakTally ts index).lower = 4 := by simpa using h
    have hlower := ht.lower
    rw [hfour] at hlower
    have hall := List.countP_eq_length.mp (hlower.symm.trans (show 4 = peakOffsets.length from rfl))
    simp only [decide_eq_true_eq] at hall
    exact ⟨fun o ho => le_of_lt (hall o ho), fun o ho heq => absurd heq (ne_of_lt (hall o ho))⟩

/-- A cell all of whose neighbours are lower is selected. -/
theorem peakSelected_of_lower {ts : Heat} {index : Nat}
    (h : ∀ o ∈ peakOffsets, peakSignal ts index o < signalQ12 (ts.value index)) :
    peakSelected ts index = true := by
  have ht := peakTally_tallied ts index
  have hfour : (peakTally ts index).lower = 4 := by
    rw [ht.lower]
    exact List.countP_eq_length.mpr fun o ho => decide_eq_true (h o ho)
  unfold peakSelected
  simp only [hfour]
  simp

theorem Selected.le_of_adjacent {ts : Heat} {a b : Nat} (h : Selected ts a)
    (hab : heatAdjacent a b) :
    signalQ12 (ts.value b) ≤ signalQ12 (ts.value a) ∧
      (signalQ12 (ts.value b) = signalQ12 (ts.value a) → a < b) := by
  obtain ⟨o, ho, hb⟩ := (peakNeighbour_iff hab.1 b).mpr hab
  have hsignal : peakSignal ts a o = signalQ12 (ts.value b) := by
    unfold peakSignal
    rw [hb]
  refine ⟨?_, fun heq => h.tie o ho (hsignal.trans heq) b hb⟩
  rw [← hsignal]
  exact h.highest o ho

/-- No two selected cells are adjacent. -/
theorem selected_independent {ts : Heat} {a b : Nat} (ha : Selected ts a) (hb : Selected ts b) :
    ¬ heatAdjacent a b := by
  intro hab
  obtain ⟨hle, hlt⟩ := ha.le_of_adjacent hab
  obtain ⟨hle', hlt'⟩ := hb.le_of_adjacent (heatAdjacent_symm a b hab)
  have heq := Int.le_antisymm hle hle'
  exact Nat.lt_asymm (hlt heq) (hlt' heq.symm)

/-! ## The two counts -/

/-- One turn of the peak walk. -/
def peakStep (ts : Heat) (index : Nat) (contact : Contact) : Contact :=
  if !ts.heatComponent index then contact
  else if !peakSelected ts index || contact.localPeakCount ≥ localPeakCapacity then contact
  else { contact with
    localPeakCount := contact.localPeakCount + 1
    strongLocalPeakCount := contact.strongLocalPeakCount +
      if signalQ12 (ts.value index) > localPeakFloorQ12 then 1 else 0 }

theorem localPeakCounts_loop (ts : Heat) (contact : Contact) : localPeakCounts ts contact =
    loop heatSamples (peakStep ts) { contact with localPeakCount := 0, strongLocalPeakCount := 0 } := rfl

/-- The flagged cells below `k` that are selected. -/
def selectedBelow (ts : Heat) (k : Nat) : Nat :=
  (List.range k).countP fun index => ts.heatComponent index && peakSelected ts index

theorem selectedBelow_succ (ts : Heat) (k : Nat) : selectedBelow ts (k + 1) =
    selectedBelow ts k + if (ts.heatComponent k && peakSelected ts k) = true then 1 else 0 := by
  unfold selectedBelow
  rw [List.range_succ, List.countP_append]
  simp [List.countP_cons]

/-- After the cells below `k`. -/
structure PeakCounted (ts : Heat) (k : Nat) (contact : Contact) : Prop where
  count : contact.localPeakCount = min localPeakCapacity (selectedBelow ts k)
  strong : contact.strongLocalPeakCount ≤ contact.localPeakCount

theorem peakStep_counted {ts : Heat} {k : Nat} {c : Contact} (h : PeakCounted ts k c) :
    PeakCounted ts (k + 1) (peakStep ts k c) := by
  have hcount := h.count
  have hstrong := h.strong
  have hsucc := selectedBelow_succ ts k
  unfold peakStep
  cases hc : ts.heatComponent k with
  | false =>
    refine ⟨?_, hstrong⟩
    rw [hsucc, hc]
    simpa using hcount
  | true =>
    cases hs : peakSelected ts k with
    | false =>
      refine ⟨?_, hstrong⟩
      rw [hsucc, hc, hs]
      simpa using hcount
    | true =>
      rw [hc, hs] at hsucc
      simp only [Bool.not_true, Bool.false_or, Bool.false_eq_true, if_false, decide_eq_true_eq]
      split
      · next hfull => exact ⟨by simp at hsucc; omega, hstrong⟩
      · next hroom =>
        refine ⟨?_, ?_⟩
        · simp at hsucc
          simp only
          omega
        · simp only
          split <;> omega

theorem localPeakCounts_counted (ts : Heat) (contact : Contact) :
    PeakCounted ts heatSamples (localPeakCounts ts contact) := by
  rw [localPeakCounts_loop]
  exact loop_ind (PeakCounted ts) ⟨rfl, Nat.le_refl _⟩ fun _ _ _ h => peakStep_counted h

/-! ## Every accepted component -/

/-- The fields the peak walk sets. -/
structure SamePeaks (a b : Contact) : Prop where
  count : a.localPeakCount = b.localPeakCount
  strong : a.strongLocalPeakCount = b.strongLocalPeakCount

theorem secondaryFeatures_peaks (ts : Heat) (contact : Contact) :
    SamePeaks (secondaryFeatures ts contact).2 contact := by
  have hinit : SamePeaks (loop 3 (fun pass contact => setFeature (setFeature contact (1 + pass)
      (contact.pixels * oneQ12 : Nat)) (4 + pass) oneQ12) contact) contact :=
    loop_keeps (fun c : Contact => SamePeaks c contact) ⟨rfl, rfl⟩ fun _ _ _ h =>
      ⟨h.count, h.strong⟩
  unfold secondaryFeatures
  simp only
  split
  · exact hinit
  · exact loop_keeps (fun s : Heat × Contact => SamePeaks s.2 contact) hinit fun _ _ _ h =>
      ⟨h.count, h.strong⟩

theorem geometryFeatures_peaks (ts : Heat) (contact : Contact) :
    SamePeaks (geometryFeatures ts contact) contact := by
  unfold geometryFeatures
  simp only
  split
  · exact ⟨rfl, rfl⟩
  split
  · exact ⟨rfl, rfl⟩
  · exact ⟨rfl, rfl⟩

theorem shapeContact_peaks (prof : Profile) (ts : Heat) (contact : Contact) :
    SamePeaks (shapeContact prof ts contact).2
    (localPeakCounts ts (centredContact prof ts contact)) := by
  rw [shapeContact_eq]
  have hgeometry := geometryFeatures_peaks (secondaryFeatures ts (peakedContact prof ts contact)).1
    (secondaryFeatures ts (peakedContact prof ts contact)).2
  have hsecondary := secondaryFeatures_peaks ts (peakedContact prof ts contact)
  exact ⟨hgeometry.count.trans hsecondary.count, hgeometry.strong.trans hsecondary.strong⟩

namespace Accepted
variable {prof : Profile} {ts : Heat} (a : Accepted prof ts)

/-- A neighbour of the component that is not in it is inactive. -/
theorem inactive_of_adjacent {x y : Nat} (hx : x ∈ a.cells) (hy : y ∉ a.cells)
    (h : heatAdjacent x y) :
    heatActiveMax < ts.value y := by
  by_contra hle
  have hok : y ∈ Flood.OkCells heatSamples ts.heatActive := ⟨h.2.1, decide_eq_true (not_lt.mp hle)⟩
  have hmem : y ∈ {cell | cell ∈ a.cells} := by
    rw [a.island.eq_island heatAdjacent_symm hx]
    exact Relation.ReflTransGen.single ⟨h, hok⟩
  exact hy hmem

/-- The only cell at the peak byte is selected. -/
theorem peak_selected {cell : Nat} (hc : cell ∈ a.cells) (hv : ts.value cell = a.contact.peakValue)
    (hone : ∀ y ∈ a.cells, ts.value y = a.contact.peakValue → y = cell) :
    peakSelected a.heat cell = true := by
  refine peakSelected_of_lower fun o ho => ?_
  have hactive : ts.value cell ≤ heatActiveMax := of_decide_eq_true (a.active hc)
  unfold peakSignal
  rw [a.value]
  cases hn : peakNeighbour cell o with
  | none => exact signalQ12_active hactive
  | some y =>
    have hadj : heatAdjacent cell y := (peakNeighbour_iff (a.cell_lt hc) y).mp ⟨o, ho, hn⟩
    refine signalQ12_strict ?_
    by_cases hy : y ∈ a.cells
    · have hge := a.exact.peak.2 ⟨y, hy, rfl⟩
      have hne : ts.value y ≠ a.contact.peakValue := by
        intro heq
        obtain rfl := hone y hy heq
        have hd := hadj.2.2
        omega
      omega
    · exact Nat.lt_of_le_of_lt hactive (a.inactive_of_adjacent hc hy hadj)

end Accepted

/-- What the peak walk says of an accepted component. -/
structure PeaksExact {prof : Profile} {ts : Heat} (a : Accepted prof ts) : Prop where
  count : a.shaped.localPeakCount = min localPeakCapacity (selectedBelow a.heat heatSamples)
  independent : ∀ x ∈ a.cells, ∀ y ∈ a.cells, peakSelected a.heat x = true →
    peakSelected a.heat y = true → ¬ heatAdjacent x y
  highest : ∀ x ∈ a.cells, peakSelected a.heat x = true → ∀ y, heatAdjacent x y →
    signalQ12 (ts.value y) ≤ signalQ12 (ts.value x)
  strong : a.shaped.strongLocalPeakCount ≤ a.shaped.localPeakCount
  capacity : a.shaped.localPeakCount ≤ 10
  peak : (∃! cell, cell ∈ a.cells ∧ ts.value cell = a.contact.peakValue) →
    1 ≤ a.shaped.localPeakCount

theorem peaks_exact {prof : Profile} {ts : Heat} (a : Accepted prof ts) : PeaksExact a := by
  have hcounted := localPeakCounts_counted a.heat
    (centredContact prof a.heat (locateContact a.contact))
  have hpeaks := shapeContact_peaks prof a.heat (locateContact a.contact)
  have hcount : a.shaped.localPeakCount = min localPeakCapacity
    (selectedBelow a.heat heatSamples) :=
    hpeaks.count.trans hcounted.count
  refine ⟨hcount, fun x _ y _ hx hy => ?_, fun x _ hx y hxy => ?_, ?_, ?_, fun hunique => ?_⟩
  · exact selected_independent (peakSelected_selected hx) (peakSelected_selected hy)
  · rw [← a.value]
    exact ((peakSelected_selected hx).le_of_adjacent hxy).1
  · exact hpeaks.count ▸ hpeaks.strong ▸ hcounted.strong
  · rw [hcount]
    exact Nat.min_le_left _ _
  · obtain ⟨cell, ⟨hc, hv⟩, hone⟩ := hunique
    have hselected := a.peak_selected hc hv fun y hy heq => hone y ⟨hy, heq⟩
    have hpos : 0 < selectedBelow a.heat heatSamples := by
      refine List.countP_pos_iff.mpr ⟨cell, List.mem_range.mpr (a.cell_lt hc), ?_⟩
      rw [a.flags.mpr hc, hselected]
      rfl
    rw [hcount]
    exact Nat.le_min.mpr ⟨by decide, hpos⟩

end Sp11Touch
