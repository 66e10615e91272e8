import Sp11Touch.L2Pipeline.DetectorContacts
import Sp11Touch.L2Pipeline.DetectorSignals
import Sp11Touch.L2Pipeline.PeakLaw
import Sp11Touch.L2Pipeline.ShiftedCells
/-!
# Local peaks and the output centroid of the detector

The detector compares signals up to an epsilon of 1e-4, the driver in Q12. Two
bytes differ by more than that on both sides, so each comparison is one of the
bytes (`lower_iff`, `near_iff`): the walks tally alike, select the same cells
and count the same peaks (`peaks_agree`).
-/
namespace Sp11Touch.Decoder
open Binary64 Bytes

/-! ## One comparison -/

theorem epsilon_near : |windowsLocalPeakEpsilon - 0.00009999999747378752| ≤ 1 / 2 ^ 53 :=
  const_near (by norm_num [abs_le])

theorem signal_le {v : Nat} (hv : v ≤ 255) : |windowsSignal v| ≤ 1 / 2 := by
  have h := abs_le.mp (signal_near hv)
  have hcast : (v : ℚ) ≤ 255 := by exact_mod_cast hv
  have hpos : (0 : ℚ) ≤ v := Nat.cast_nonneg v
  unfold lookup at h
  norm_num at h
  rw [abs_le]
  constructor <;> linarith

section compare
variable {v w : Nat}

/-- A neighbour is lower when its byte is greater. -/
theorem lower_iff (hv : v ≤ 255) (hw : w ≤ 255) :
    fl (windowsSignal w + windowsLocalPeakEpsilon) < windowsSignal v ↔ v < w := by
  have heps := abs_le.mp epsilon_near
  have hbound := abs_le.mp (signal_le hw)
  norm_num at heps
  have hsum := fl_within (x := windowsSignal w + windowsLocalPeakEpsilon) (b := 1)
    (by rw [abs_le]; constructor <;> linarith)
  norm_num at hsum
  rcases Nat.lt_or_ge v w with hlt | hle
  · have hs := signal_strict hlt hw
    exact iff_of_true (by linarith) hlt
  · have hs := signal_anti hle hv
    exact iff_of_false (not_lt.mpr (by linarith)) (Nat.not_lt.mpr hle)

/-- Two signals within the epsilon are those of one byte. -/
theorem near_iff (hv : v ≤ 255) (hw : w ≤ 255) :
    |fl (windowsSignal v - windowsSignal w)| < windowsLocalPeakEpsilon ↔ v = w := by
  have heps := abs_le.mp epsilon_near
  have hboundv := abs_le.mp (signal_le hv)
  have hboundw := abs_le.mp (signal_le hw)
  norm_num at heps
  have hdiff := fl_within (x := windowsSignal v - windowsSignal w) (b := 1)
    (by rw [abs_le]; constructor <;> linarith)
  norm_num at hdiff
  rcases Nat.lt_trichotomy v w with hlt | rfl | hgt
  · have hs := signal_strict hlt hw
    refine iff_of_false (not_lt.mpr (le_abs.mpr (Or.inl ?_))) (Nat.ne_of_lt hlt)
    linarith
  · rw [sub_self, fl_zero, abs_zero]
    exact iff_of_true (by linarith) rfl
  · have hs := signal_strict hgt hv
    refine iff_of_false (not_lt.mpr (le_abs.mpr (Or.inr ?_))) (Nat.ne_of_gt hgt)
    linarith

/-- Off the grid the signal is zero, below that of an active cell. -/
theorem lower_zero (hv : v ≤ heatActiveMax) :
    fl (0 + windowsLocalPeakEpsilon) < windowsSignal v := by
  have heps := abs_le.mp epsilon_near
  have hnear := abs_le.mp (signal_near (v := 171) (by decide))
  have hs : windowsSignal 171 ≤ windowsSignal v := signal_anti hv (by decide)
  norm_num at heps
  have hsum := fl_within (x := 0 + windowsLocalPeakEpsilon) (b := 1)
    (by rw [abs_le]; constructor <;> linarith)
  norm_num [lookup] at hnear
  norm_num at hsum ⊢
  linarith

end compare

/-! ## The walk of one cell -/

section walk
variable {ts : Heat} {index : Nat}

/-- The two tallies say the same. -/
structure ScanAlike (ts : Heat) (index : Nat) (t : PeakScan) (u : PeakTally) : Prop where
  lower : t.lower = u.lower
  count : t.nearEqual.length = u.nearEqual
  last : ∀ p ∈ t.nearEqual.getLast?, p.1 = windowsSignal (ts.value index) ∧
    u.equalSignal = signalQ12 (ts.value index) ∧ ∃ cell : Nat, u.equalIndex = some cell ∧ p.2 = cell

theorem scanNeighbour_alike (hlt : index < heatSamples) (hactive : ts.value index ≤ heatActiveMax)
    {t : PeakScan}
    {u : PeakTally} (h : ScanAlike ts index t u) (o : Int × Int) :
    ScanAlike ts index (scanNeighbour (grid ts.buf) index t o.swap) (tallyStep ts index u o) := by
  have hbyte := value_le ts index
  have hcell : heatCell ((index / heatCols : Nat) + o.swap.1)
    ((index % heatCols : Nat) + o.swap.2) =
    peakNeighbour index o := rfl
  unfold scanNeighbour tallyStep peakSignal
  rw [value_grid ts hlt, hcell]
  cases hn : peakNeighbour index o with
  | none =>
    -- off the grid
    simp only
    rw [if_pos (lower_zero hactive), if_pos (signalQ12_active hactive)]
    exact ⟨congrArg (· + 1) h.lower, h.count, h.last⟩
  | some cell =>
    have hcell : cell < heatSamples := (heatCell_eq_some.mp hn).1
    simp only [value_grid ts hcell]
    rcases Nat.lt_trichotomy (ts.value index) (ts.value cell) with hlow | heq | hhigh
    · rw [if_pos ((lower_iff hbyte (value_le ts cell)).mpr hlow), if_pos (signalQ12_strict hlow)]
      exact ⟨congrArg (· + 1) h.lower, h.count, h.last⟩
    · rw [if_neg (by rw [lower_iff hbyte (value_le ts cell)]; omega),
        if_pos ((near_iff hbyte (value_le ts cell)).mpr heq),
        ← heq, if_neg (lt_irrefl _), if_pos rfl]
      refine ⟨h.lower, ?_, fun p hp => ?_⟩
      · simp [h.count]
      · simp only [List.getLast?_append, List.getLast?_singleton, Option.some_or,
          Option.mem_some_iff] at hp
        subst hp
        exact ⟨rfl, rfl, cell, rfl, rfl⟩
    · have hq := signalQ12_strict hhigh
      rw [if_neg (by rw [lower_iff hbyte (value_le ts cell)]; omega),
        if_neg (by rw [near_iff hbyte (value_le ts cell)]; omega), if_neg (by omega),
        if_neg (by omega)]
      exact h

theorem scan_alike (hlt : index < heatSamples) (hactive : ts.value index ≤ heatActiveMax)
    (offsets : List (Int × Int)) :
    ScanAlike ts index ((offsets.map Prod.swap).foldl (scanNeighbour (grid ts.buf) index) ⟨0, []⟩)
      (offsets.foldl (tallyStep ts index) ⟨0, 0, none, 0⟩) := by
  induction offsets using List.reverseRecOn with
  | nil => exact ⟨rfl, rfl, fun p hp => by simp at hp⟩
  | append_singleton offsets o ih =>
    rw [List.map_append, List.foldl_append, List.foldl_append]
    exact scanNeighbour_alike hlt hactive ih o

/-- Both walks select the cell or neither does. -/
theorem localPeak_agrees (hlt : index < heatSamples) (hactive : ts.value index ≤ heatActiveMax) :
    localPeak (grid ts.buf) index = peakSelected ts index := by
  have h := scan_alike hlt hactive peakOffsets
  rw [show peakOffsets.map Prod.swap = localPeakOffsets from rfl, ← peakTally_eq] at h
  unfold localPeak peakSelected
  simp only
  rw [value_grid ts hlt, ← h.lower, ← h.count]
  generalize localPeakOffsets.foldl (scanNeighbour (grid ts.buf) index) ⟨0, []⟩ = t at h
  obtain ⟨lower, nearEqual⟩ := t
  match nearEqual, h with
  | [], h => simp
  | [(neighbour, neighbourIndex)], h =>
    obtain ⟨hneighbour, hsignal, cell, hindex, hcell⟩ := h.last (neighbour, neighbourIndex) rfl
    simp only at hneighbour hcell
    by_cases hlower : lower = 3
    · simp [hlower, hneighbour, hsignal, hindex, hcell]
    · simp [hlower]
  | _ :: _ :: _, h => simp

end walk

/-! ## The two counts -/

/-- The peaks so far, on both sides. -/
structure PeaksAlike (ts : Heat) (peaks : List Nat) (contact : Contact) : Prop where
  count : contact.localPeakCount = peaks.length
  strong : contact.strongLocalPeakCount = peaks.countP fun index =>
    windowsSignal (u8 (grid ts.buf) index) > windowsLocalPeakFloor

section counts
variable {ts : Heat} {index : Nat} {peaks : List Nat} {contact : Contact}

theorem peakTurn_alike (hlt : index < heatSamples) (hactive : ts.value index ≤ heatActiveMax)
    (hflag : ts.heatComponent index = true) (h : PeaksAlike ts peaks contact) :
    PeaksAlike ts (peakTurn (grid ts.buf) peaks index) (peakStep ts index contact) := by
  have hstrong := strong_agrees (value_le ts index)
  unfold peakTurn peakStep
  rw [hflag, localPeak_agrees hlt hactive, h.count]
  cases peakSelected ts index with
  | false => simpa using h
  | true =>
    by_cases hroom : peaks.length < 10
    · simp only [Bool.not_true, Bool.false_or, Bool.true_and, Bool.false_eq_true, if_false,
        localPeakCapacity,
        windowsLocalPeakCapacity, hroom, ge_iff_le, Nat.not_le.mpr hroom, decide_true,
          decide_false, if_true]
      refine ⟨?_, ?_⟩
      · simp
      · simp [List.countP_append, h.strong, value_grid ts hlt, List.countP_cons, hstrong]
    · simp only [Bool.not_true, Bool.false_or, Bool.true_and, Bool.false_eq_true, if_false,
        localPeakCapacity,
        windowsLocalPeakCapacity, hroom, ge_iff_le, Nat.not_lt.mp hroom, decide_true,
          decide_false, if_true]
      exact h

/-- The walk over the flagged cells, and the loop that passes over the others. -/
theorem peakTurns_alike (contact : Contact) (hactive : ∀ index ∈
    flagged ts, ts.value index ≤ heatActiveMax) :
    PeaksAlike ts ((flagged ts).foldl (peakTurn (grid ts.buf)) [])
      (Sp11Touch.localPeakCounts ts contact) := by
  have hskip : ∀ k c, ts.heatComponent k = false → peakStep ts k c = c :=
    fun k c hflag => by simp [peakStep, hflag]
  rw [localPeakCounts_loop, CInt.loop_filter hskip]
  refine List.foldl_rel ⟨rfl, rfl⟩ fun index hindex peaks contact h => ?_
  obtain ⟨hlt, hflag⟩ := mem_flagged.mp hindex
  exact peakTurn_alike hlt (hactive index hindex) hflag h

end counts

section accepted
variable {prof : Profile} {ts : Heat} (a : Accepted prof ts)

/-- The queue holds the flagged cells. -/
theorem cells_perm : a.cells.Perm (flagged a.heat) := by
  have hnodup : (flagged a.heat).Nodup := List.nodup_range.filter _
  rw [List.perm_ext_iff_of_nodup a.nodup hnodup]
  intro cell
  rw [mem_flagged, a.flags]
  exact ⟨fun hc => ⟨a.cell_lt hc, hc⟩, fun hc => hc.2⟩

theorem sorted_cells : a.cells.mergeSort (· ≤ ·) = flagged a.heat :=
  List.Perm.eq_of_pairwise' (r := (· ≤ ·)) (List.pairwise_mergeSort' _ _)
    ((flagged_sorted a.heat).imp Nat.le_of_lt)
    ((List.mergeSort_perm _ _).trans (cells_perm a))

/-- The detector counts the driver's peaks and its strong peaks. -/
theorem peaks_agree : localPeakCounts (grid ts.buf) (describe (grid ts.buf) a.cells) =
    (a.shaped.localPeakCount, a.shaped.strongLocalPeakCount) := by
  have hactive : ∀ index ∈ flagged a.heat, a.heat.value index ≤ heatActiveMax := by
    intro index hindex
    rw [a.value]
    exact of_decide_eq_true (a.active (a.flags.mp (mem_flagged.mp hindex).2))
  have hstored := shapeContact_peaks prof a.heat (locateContact a.contact)
  have hwalk := peakTurns_alike (centredContact prof a.heat (locateContact a.contact)) hactive
  rw [← sorted_cells, a.buf] at hwalk
  unfold localPeakCounts Accepted.shaped
  rw [hstored.count, hstored.strong, hwalk.count, hwalk.strong, a.buf]
  rfl

end accepted

/-! ## The output centroid -/

section centroid
variable {prof : Profile} {ts : Heat}

theorem centroidTurn_eq (grid : Bytes) (s : Nat × Nat × Nat) (index : Nat) :
    centroidTurn grid s index =
    (s.1 + index % heatCols * (windowsNormalCentroidBaseline - u8 grid index),
      s.2.1 + index / heatCols * (windowsNormalCentroidBaseline - u8 grid index),
      s.2.2 + (windowsNormalCentroidBaseline - u8 grid index)) := by
  unfold centroidTurn
  split
  · next hge => simp [Nat.sub_eq_zero_of_le hge]
  · rfl

/-- The order of the pixels does not matter. -/
theorem centroidTurn_comm (grid : Bytes) (s : Nat × Nat × Nat) (a b : Nat) :
    centroidTurn grid (centroidTurn grid s a) b = centroidTurn grid (centroidTurn grid s b) a := by
  simp only [centroidTurn_eq, Prod.mk.injEq]
  omega

theorem outputSums_flagged (ts : Heat) : outputSums ts =
    (flagged ts).foldl (centroidTurn (grid ts.buf)) (0, 0, 0) := by
  have hskip : ∀ k s, ts.heatComponent k = false → outputStep ts k s = s :=
    fun k s hflag => by simp [outputStep, hflag]
  unfold outputSums
  rw [CInt.loop_filter hskip]
  refine List.foldl_rel (r := Eq) rfl fun index hindex s s' h => ?_
  obtain ⟨hlt, hflag⟩ := mem_flagged.mp hindex
  subst h
  unfold outputStep centroidTurn
  rw [value_grid ts hlt, hflag]
  simp only [Bool.not_true, Bool.false_or, decide_eq_true_eq]
  rfl

variable (a : Accepted prof ts)

theorem outputSums_cells : outputSums a.heat = a.cells.foldl (centroidTurn (grid ts.buf))
    (0, 0, 0) := by
  rw [outputSums_flagged, a.buf]
  exact ((cells_perm a).foldl_eq' (fun _ _ _ _ s => centroidTurn_comm (grid ts.buf) s _ _)
    (0, 0, 0)).symm

theorem accepted_made : Made (findBefore prof ts a.start).ts a.comp.1 a.comp.2 := by
  have hfills := a.fills
  unfold startComponent at hfills
  split at hfills
  · cases hfills
  · next hn =>
    simp only [Bool.or_eq_true, Bool.not_eq_true', not_or, Bool.not_eq_true, Bool.not_eq_false]
      at hn
    rw [← Option.some.inj hfills]
    exact component_made a.lt hn.1 hn.2

theorem foldl_centroidTurn (grid : Bytes) (cells : List Nat) (s : Nat × Nat × Nat) :
    (cells.foldl (centroidTurn grid) s).2.2 =
      s.2.2 + (cells.map fun cell => windowsNormalCentroidBaseline - u8 grid cell).sum := by
  induction cells generalizing s with
  | nil => rfl
  | cons cell cells ih =>
    rw [List.foldl_cons, ih, centroidTurn_eq, List.map_cons, List.sum_cons, Nat.add_assoc]

/-- The weights add up to nothing when every cell is at the baseline. -/
theorem outputSums_zero : (outputSums a.heat).2.2 = 0 ↔
    ∀ cell ∈ a.cells, windowsCentroidBaseline ≤ ts.value cell := by
  rw [outputSums_cells, foldl_centroidTurn, Nat.zero_add, List.sum_eq_zero_iff_forall_eq_nat]
  simp only [List.mem_map, forall_exists_index, and_imp, forall_apply_eq_imp_iff₂,
    Nat.sub_eq_zero_iff_le]
  refine forall₂_congr fun cell hc => ?_
  rw [value_grid ts (a.cell_lt hc)]
  rfl

/-- The detector's `position` beside the stored one: equal, or one less where the driver's division leaves no rest. -/
def PositionNear (sum weight span : Nat) (position : Int) (stored : Nat) : Prop :=
  position = stored ∨ weight * span ∣ sum * logicalMax ∧ position + 1 = stored

/-- The positions of an accepted component, `c` in the detector. -/
structure CentroidAgrees (a : Accepted prof ts) (c : Component) : Prop where
  x : PositionNear a.contact.weightedX a.contact.strength (heatCols - 1)
    (truncate c.x32767) a.shaped.x
  y : PositionNear a.contact.weightedY a.contact.strength (heatRows - 1)
    (truncate c.y32767) a.shaped.y
  output : prof.behaviorV2 = true → (∃ cell ∈ a.cells, ts.value cell < windowsCentroidBaseline) →
    phase76OutputCentroid (grid ts.buf) c = ((a.shaped.outputX : Int), (a.shaped.outputY : Int))
  fallback : prof.behaviorV2 = true → (∀ cell ∈ a.cells, windowsCentroidBaseline ≤ ts.value cell) →
    phase76OutputCentroid (grid ts.buf) c = (truncate c.x32767, truncate c.y32767) ∧
      a.shaped.outputX = a.shaped.x ∧ a.shaped.outputY = a.shaped.y

/-- The fields that place a contact. -/
structure SamePlace (a b : Contact) : Prop where
  x : a.x = b.x
  y : a.y = b.y
  outputX : a.outputX = b.outputX
  outputY : a.outputY = b.outputY

theorem shaped_place : SamePlace a.shaped (centredContact prof a.heat
    (locateContact a.contact)) := by
  have hfield : ∀ c : Contact, SamePlace c c.place := fun _ => ⟨rfl, rfl, rfl, rfl⟩
  have hplace : a.shaped.place = (centredContact prof a.heat (locateContact a.contact)).place :=
    shapeContact_place prof a.heat _
  have hstored := hfield a.shaped
  have hcentred := hfield (centredContact prof a.heat (locateContact a.contact))
  rw [hplace] at hstored
  exact ⟨hstored.x.trans hcentred.x.symm, hstored.y.trans hcentred.y.symm,
    hstored.outputX.trans hcentred.outputX.symm,
    hstored.outputY.trans hcentred.outputY.symm⟩

theorem centredContact_position (prof : Profile) (heat : Heat) (contact : Contact) :
    (centredContact prof heat contact).x = contact.x ∧
    (centredContact prof heat contact).y = contact.y := by
  unfold centredContact
  split
  · rw [phase76OutputCentroid_eq]
    split
    · exact ⟨rfl, rfl⟩
    · exact ⟨rfl, rfl⟩
  · exact ⟨rfl, rfl⟩

/-- The stored position is that of the sums. -/
theorem shaped_position : a.shaped.x = a.contact.weightedX * logicalMax /
    (a.contact.strength * (heatCols - 1)) ∧
    a.shaped.y = a.contact.weightedY * logicalMax / (a.contact.strength * (heatRows - 1)) := by
  have hplace := shaped_place a
  have hcentred := centredContact_position prof a.heat (locateContact a.contact)
  have hmade := accepted_made a
  have hs := hmade.sums
  have hm := hmade.summed
  exact ⟨hplace.x.trans (hcentred.1.trans (u16_mean hm.cols hs.perCol hm.maxCol)),
    hplace.y.trans (hcentred.2.trans (u16_mean hm.rows hs.perRow hm.maxRow))⟩

/-- The strength of an accepted component, for the roundings. -/
theorem accepted_sums : 0 < a.contact.strength ∧ a.contact.strength ≤ 180 * 48 ∧
    a.contact.weightedX ≤ 2 ^ 10 * a.contact.strength ∧
    a.contact.weightedY ≤ 2 ^ 10 * a.contact.strength := by
  have hmade := accepted_made a
  have hstrength : a.contact.strength ≤ 180 * a.cells.length := hmade.summed.strength_le
  have hpixels : a.cells.length ≤ 48 := a.passes.pixels
  have hx : a.contact.weightedX ≤ 67 * a.contact.strength :=
    (hmade.summed.cols.widen (Nat.zero_le _) hmade.summed.maxCol).high
  have hy : a.contact.weightedY ≤ 45 * a.contact.strength :=
    (hmade.summed.rows.widen (Nat.zero_le _) hmade.summed.maxRow).high
  exact ⟨hmade.sums.strength.pos, by omega, by omega, by omega⟩

/-- The detector divides the driver's sums. -/
theorem detectorCentroid_eq : phase76OutputCentroid (grid ts.buf) (describe (grid ts.buf) a.cells) =
    if (outputSums a.heat).2.2 = 0 then (truncate (describe (grid ts.buf) a.cells).x32767,
      truncate (describe (grid ts.buf) a.cells).y32767)
    else (((outputSums a.heat).1 * logicalMax / ((outputSums a.heat).2.2 * (heatCols - 1)) : Nat),
      ((outputSums a.heat).2.1 * logicalMax /
      ((outputSums a.heat).2.2 * (heatRows - 1)) : Nat)) := by
  have hsums : outputSums a.heat = (describe (grid ts.buf) a.cells).pixelIndices.foldl
    (centroidTurn (grid ts.buf)) (0, 0, 0) :=
    outputSums_cells a
  rw [hsums]
  rfl

/-- The driver's output is its position, or the centroid of the weights in the second profile. -/
theorem shaped_output (hv2 : prof.behaviorV2 = true) : (a.shaped.outputX, a.shaped.outputY) =
    if (outputSums a.heat).2.2 = 0 then (a.shaped.x, a.shaped.y)
    else ((outputSums a.heat).1 * logicalMax / ((outputSums a.heat).2.2 * (heatCols - 1)),
      (outputSums a.heat).2.1 * logicalMax / ((outputSums a.heat).2.2 * (heatRows - 1))) := by
  have hplace := shaped_place a
  rw [hplace.outputX, hplace.outputY, hplace.x, hplace.y, centredContact, if_pos hv2,
    phase76OutputCentroid_eq]
  by_cases hzero : (outputSums a.heat).2.2 = 0
  · simp only [if_pos hzero]
    rfl
  · have hfits : OutputFits (outputSums a.heat) := ((accepted_made a).fits prof).output hzero
    simp only [if_neg hzero]
    rw [hfits.x, hfits.y]

/-- The detector's positions and output centroid of every accepted component. -/
theorem centroid_agrees : CentroidAgrees a (describe (grid ts.buf) a.cells) := by
  have hd := accepted_described a
  obtain ⟨hpos, hstrength, hwx, hwy⟩ := accepted_sums a
  obtain ⟨hx, hy⟩ := shaped_position a
  have hzero := outputSums_zero a
  refine ⟨?_, ?_, fun hv2 hsome => ?_, fun hv2 hall => ?_⟩
  · unfold PositionNear
    rw [hx, hd.x]
    exact truncate_scaled (m := 32767) hpos (by decide) hwx (by decide)
      (by simp only [heatCols]; omega)
  · unfold PositionNear
    rw [hy, hd.y]
    exact truncate_scaled (m := 32767) hpos (by decide) hwy (by decide)
      (by simp only [heatRows]; omega)
  · have hne : (outputSums a.heat).2.2 ≠ 0 := by
      rw [ne_eq, hzero]
      obtain ⟨cell, hc, hlt⟩ := hsome
      exact fun hall => absurd (hall cell hc) (Nat.not_le.mpr hlt)
    have hout := shaped_output a hv2
    rw [if_neg hne, Prod.mk.injEq] at hout
    rw [detectorCentroid_eq, if_neg hne, hout.1, hout.2]
  · have hout := shaped_output a hv2
    rw [if_pos (hzero.mpr hall), Prod.mk.injEq] at hout
    rw [detectorCentroid_eq, if_pos (hzero.mpr hall)]
    exact ⟨rfl, hout⟩

end centroid

end Sp11Touch.Decoder
