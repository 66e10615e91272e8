import Sp11Touch.L1Encoding.HeatAgree
import Sp11Touch.L2Pipeline.HeatContacts
import Sp11Touch.L2Pipeline.ReferenceDetector
import Sp11Touch.L2Pipeline.StrongestContacts
import Mathlib.Algebra.BigOperators.Ring.List
import Mathlib.Algebra.Order.BigOperators.Group.List
/-!
# The detector finds the driver's contacts

Both floods run in lockstep, so on the grid of a report the detector finds the
driver's components, each with the same cells in the same order
(`foundComponents_eq`). Its dictionaries hold the driver's sums and box, and the
three gates decide alike (`weak_agrees`, `nsr_agrees`, `palm_agrees`): the means
that select an NSR bin are a binary64 quotient here and an integer one there.
-/
namespace Sp11Touch.Decoder
open Binary64 Bytes

theorem value_grid (ts : Heat) {i : Nat} (h : i < heatSamples) :
    u8 (grid ts.buf) i = ts.value i := by
  unfold u8 grid Heat.value
  rw [List.getD_eq_getElem?_getD, List.getElem?_map, List.getElem?_range h]
  rfl

theorem active_agrees (ts : Heat) {i : Nat} (h : i < heatSamples) :
    activeAt (grid ts.buf) heatThreshold i = ts.heatActive i := by
  unfold activeAt Heat.heatActive
  rw [value_grid ts h]
  simp only [windowsSignalZero, heatThreshold, heatActiveMax, heatSignalZero,
    Sp11Touch.heatThreshold]
  grind

theorem strength_grid (ts : Heat) {i : Nat} (h : i < heatSamples) :
    strength (grid ts.buf) i = ts.weight i := by
  unfold strength Heat.weight
  rw [value_grid ts h]
  rfl

theorem least_eq {f : Nat → Nat} {cells : List Nat} {m : Nat}
    (h : IsLeast {v | ∃ c ∈ cells, f c = v} m) :
    least (cells.map f) = m := by
  have hmin : (cells.map f).min? = some m := by
    rw [List.min?_eq_some_iff]
    refine ⟨by simpa using h.1, fun b hb => h.2 (by simpa using hb)⟩
  unfold least
  rw [hmin]
  rfl

theorem greatest_eq {f : Nat → Nat} {cells : List Nat} {m : Nat}
    (h : IsGreatest {v | ∃ c ∈ cells, f c = v} m) :
    greatest (cells.map f) = m := by
  have hmax : (cells.map f).max? = some m := by
    rw [List.max?_eq_some_iff]
    refine ⟨by simpa using h.1, fun b hb => h.2 (by simpa using hb)⟩
  unfold greatest
  rw [hmax]
  rfl

/-- The dictionary of a component holds what the driver's contact holds. -/
structure Described (c : Component) (contact : Contact) : Prop where
  pixels : c.pixels = contact.pixels
  strength : c.strength = contact.strength
  peak : c.peakValue = contact.peakValue
  left : c.colMin = contact.minCol
  right : c.colMax = contact.maxCol
  top : c.rowMin = contact.minRow
  bottom : c.rowMax = contact.maxRow
  row : c.row = fl ((contact.weightedY : ℚ) / contact.strength)
  x : c.x32767 = fl (fl (fl ((contact.weightedX : ℚ) / contact.strength) * 32767) /
    (heatCols - 1 : Nat))
  y : c.y32767 = fl (fl (fl ((contact.weightedY : ℚ) / contact.strength) * 32767) /
    (heatRows - 1 : Nat))

theorem describe_exact {ts : Heat} {cells : List Nat} {contact : Contact}
    (h : Exact ts cells contact)
    (hlt : ∀ cell ∈ cells, cell < heatSamples) :
      Described (describe (grid ts.buf) cells) contact := by
  have hweight : cells.map (strength (grid ts.buf)) = cells.map ts.weight :=
    List.map_congr_left fun cell hc => strength_grid ts (hlt cell hc)
  have hrows : (cells.map fun index => index / heatCols * strength (grid ts.buf) index) =
      cells.map fun cell => cell / heatCols * ts.weight cell :=
    List.map_congr_left fun cell hc => by rw [strength_grid ts (hlt cell hc)]
  have hcols : (cells.map fun index => index % heatCols * strength (grid ts.buf) index) =
      cells.map fun cell => cell % heatCols * ts.weight cell :=
    List.map_congr_left fun cell hc => by rw [strength_grid ts (hlt cell hc)]
  have hvalues : cells.map (u8 (grid ts.buf)) = cells.map ts.value :=
    List.map_congr_left fun cell hc => value_grid ts (hlt cell hc)
  refine ⟨h.pixels.symm, ?_, ?_, least_eq h.box.left, greatest_eq h.box.right, least_eq h.box.top,
    greatest_eq h.box.bottom, ?_, ?_, ?_⟩
  · rw [h.strength, ← hweight]
    rfl
  · rw [← least_eq h.peak, ← hvalues]
    rfl
  · rw [h.weightedY, h.strength, ← hweight, ← hrows]
    rfl
  · rw [h.weightedX, h.strength, ← hweight, ← hcols]
    rfl
  · rw [h.weightedY, h.strength, ← hweight, ← hrows]
    rfl

/-! ## The gates -/

section gates
variable {c : Component} {contact : Contact}

theorem weak_agrees (h : Described c contact) : weak c = weakComponent contact := by
  unfold weak weakComponent
  rw [h.pixels, h.peak]
  rfl

theorem palm_agrees (h : Described c contact) : palm c = palmSized contact := by
  unfold palm palmSized
  rw [h.pixels, h.left, h.right, h.top, h.bottom, Bool.or_right_comm]
  rfl

/-- The row the detector looks up is the driver's. -/
theorem sensorRow_agrees (h : Described c contact) (hd : CInt.Divisor contact.strength)
    (hw : contact.weightedY ≤ 2 ^ 10 * contact.strength) :
    truncate (fl (c.row + 1 / 2)) = (CInt.divU64 (contact.weightedY + contact.strength / 2)
      contact.strength : Nat) := by
  have hmean := floor_mean hd.pos (Nat.le_of_lt hd.fits) hw
  rw [CInt.divU64_eq _ hd, ← hmean, h.row]
  exact truncate_eq (Int.floor_nonneg.mp (hmean ▸ Int.natCast_nonneg _))

theorem nsr_agrees {t : HeatBuf} (h : Described c contact) (hd : CInt.Divisor contact.strength)
    (hw : contact.weightedY ≤ 2 ^ 10 * contact.strength) :
    nsrVetoed (nsr t) c = nsrRejected t contact := by
  unfold nsrVetoed nsrRejected nsr
  rw [sensorRow_agrees h hd hw]
  generalize CInt.divU64 (contact.weightedY + contact.strength / 2) contact.strength = m
  cases t.nsrValid with
  | false => rfl
  | true =>
    simp only [if_true, Bool.true_and, List.length_map, List.length_range, Int.natCast_nonneg,
      true_and, Int.toNat_natCast,
      Nat.cast_lt]
    rw [show windowsNsrRowToBin = nsrRowToBin from rfl]
    cases hm : nsrRowToBin[m]? with
    | none =>
      rw [if_neg (by simpa using hm)]
    | some bin =>
      have hget : nsrRowToBin.getD m 0 = bin := by
        rw [List.getD_eq_getElem?_getD, hm, Option.getD_some]
      simp only [if_pos (List.getElem?_eq_some_iff.mp hm).1, hget]
      by_cases hbin : bin < t.nsrBinCount
      · simp [hbin, List.getD_eq_getElem?_getD, windowsNsrCutoff, nsrCutoff]
      · simp [hbin]

end gates

/-! ## The components -/

/-- The cells not yet taken are the same on both sides. -/
def SeenAlike (ts : Heat) (seen seen' : Nat → Bool) : Prop :=
  ∀ c, c < heatSamples →
    (activeAt (grid ts.buf) heatThreshold c && !seen c) = (ts.heatActive c && !seen' c)

theorem seenPool_mem (active seen : Nat → Bool) (c : Nat) :
    (seenPool active).mem seen c = (active c && !seen c) := rfl

section turns
variable {prof : Profile} {ts : Heat} {k : Nat} {seen : Nat → Bool}

/-- One flood of the detector takes the cells the driver's queues. -/
theorem componentPixels_eq (hs : Sweeping prof ts k) (hk : k < heatSamples)
    (h : SeenAlike ts seen (findBefore prof ts k).seen) {c : Flood × Contact}
    (hc : startComponent (findBefore prof ts k) k = some c) :
    (componentPixels (activeAt (grid ts.buf) heatThreshold) seen k).2 = queuedCells c ∧
      SeenAlike ts (componentPixels (activeAt (grid ts.buf) heatThreshold) seen k).1 c.1.mark := by
  have hactive := heatActive_of_buf hs.buf
  have hclosed := hs.closed
  unfold startComponent at hc
  rw [hactive] at hc hclosed
  split at hc
  · cases hc
  · next hn =>
    simp only [Bool.or_eq_true, Bool.not_eq_true', not_or, Bool.not_eq_true, Bool.not_eq_false]
      at hn
    obtain rfl := Option.some.inj hc
    have hpool : ∀ c, c < heatSamples → (seenPool (activeAt (grid ts.buf) heatThreshold)).mem seen
      c =
        (ts.heatActive c && !(findBefore prof ts k).seen c) :=
        fun c hlt => (seenPool_mem _ _ _).trans (h c hlt)
    have hsearch := Pool.search_filled (heatGrid componentOffsets_four) hk hn.2 hn.1 hclosed hpool
      (addCell (findBefore prof ts k).ts)
      (findBefore prof ts k).ts.heatQueue freshContact
    unfold component componentPixels
    rw [hactive, show gridSamples = heatSamples from rfl,
      show detectorOffsets = componentOffsets from rfl]
    exact ⟨hsearch.found, fun c hlt => (seenPool_mem _ _ _).symm.trans (hsearch.mem c hlt)⟩

/-- A start is passed over on one side if and only if it is on the other. -/
theorem start_agrees (hs : Sweeping prof ts k) (hk : k < heatSamples)
    (h : SeenAlike ts seen (findBefore prof ts k).seen) :
    (!activeAt (grid ts.buf) heatThreshold k || seen k) = true ↔
      startComponent (findBefore prof ts k) k = none := by
  have hactive := heatActive_of_buf hs.buf
  have hk' := h k hk
  unfold startComponent
  rw [hactive]
  generalize activeAt (grid ts.buf) heatThreshold k = x at hk' ⊢
  generalize seen k = y at hk' ⊢
  cases hx : ts.heatActive k <;> cases hy : (findBefore prof ts k).seen k <;>
    cases x <;> cases y <;> simp_all

variable {s : (Nat → Bool) × List Component}

/-- The detector before the turn `k`: the driver's components so far. -/
structure FoundAlike (prof : Profile) (ts : Heat) (k : Nat)
    (s : (Nat → Bool) × List Component) : Prop where
  seen : SeenAlike ts s.1 (findBefore prof ts k).seen
  components : s.2 = (componentsBelow prof ts k).map fun c => describe (grid ts.buf) (queuedCells c)

theorem componentStart_alike (hs : Sweeping prof ts k) (hk : k < heatSamples)
    (h : FoundAlike prof ts k s) :
    FoundAlike prof ts (k + 1) (componentStart (grid ts.buf)
      (activeAt (grid ts.buf) heatThreshold) s k) := by
  have hstart := start_agrees hs hk h.seen
  unfold componentStart
  cases hc : startComponent (findBefore prof ts k) k with
  | none =>
    have hsame : findBefore prof ts (k + 1) = findBefore prof ts k := by
      rw [findBefore_succ, findStart_eq, hc]
    rw [if_pos (hstart.mpr hc)]
    refine ⟨hsame ▸ h.seen, ?_⟩
    rw [h.components, componentsBelow_succ, hc]
    simp
  | some c =>
    obtain ⟨hpixels, hseen⟩ := componentPixels_eq hs hk h.seen hc
    rw [if_neg fun hskip => by rw [hstart.mp hskip] at hc; cases hc]
    refine ⟨(hs.turn hk hc).2.seen ▸ hseen, ?_⟩
    rw [h.components, componentsBelow_succ, hc]
    simp [hpixels]

end turns

/-- The components of the detector are the driver's, in the order found. -/
theorem foundComponents_eq (prof : Profile) (ts : Heat) :
    foundComponents (grid ts.buf) heatThreshold =
    (components prof ts).map fun c => describe (grid ts.buf) (queuedCells c) := by
  have hall : ∀ k, k ≤ heatSamples → FoundAlike prof ts k ((List.range k).foldl
      (componentStart (grid ts.buf) (activeAt (grid ts.buf) heatThreshold))
      (fun _ => false, [])) := by
    intro k
    induction k with
    | zero =>
      have h0 : findBefore prof ts 0 = ⟨ts, fun _ => false, 0⟩ := CInt.loop_zero _ _
      refine fun _ => ⟨fun c hc => ?_, rfl⟩
      rw [active_agrees ts hc, h0]
      rfl
    | succ k ih =>
      intro hk
      rw [List.range_succ, List.foldl_append, List.foldl_cons, List.foldl_nil]
      exact componentStart_alike (findBefore_sweeping prof ts (Nat.le_of_succ_le hk)) hk
        (ih (Nat.le_of_succ_le hk))
  unfold foundComponents components
  rw [show gridSamples = heatSamples from rfl, (hall heatSamples (Nat.le_refl _)).components]

/-! ## The gates of one component -/

/-- A component passes the driver's gates. -/
def passesGates (buf : HeatBuf) (contact : Contact) : Bool :=
  !weakComponent contact && !nsrRejected buf contact && !palmSized contact

/-- It reaches the palm gate and fails it. -/
def failsPalm (buf : HeatBuf) (contact : Contact) : Bool :=
  !weakComponent contact && !nsrRejected buf contact && palmSized contact

/-- The same two for the detector. -/
def accepts (nsrBins : Option (List Nat)) (c : Component) : Bool :=
  !weak c && !nsrVetoed nsrBins c && !palm c
def rejectsPalm (nsrBins : Option (List Nat)) (c : Component) : Bool :=
  !weak c && !nsrVetoed nsrBins c && palm c

theorem acceptStep_foldl (nsrBins : Option (List Nat)) (l : List Component)
    (s : List Component × Nat) :
    l.foldl (acceptStep nsrBins) s = (s.1 ++ l.filter (accepts nsrBins),
      s.2 + l.countP (rejectsPalm nsrBins)) := by
  induction l generalizing s with
  | nil => simp
  | cons c l ih =>
    rw [List.foldl_cons, ih]
    unfold acceptStep
    cases hw : weak c <;> cases hn : nsrVetoed nsrBins c <;> cases hp : palm c <;>
      simp [accepts, rejectsPalm, hw, hn, hp]
    all_goals omega

section component
variable {prof : Profile} {ts : Heat} {c : Flood × Contact}

theorem component_lt (h : c ∈ components prof ts) : ∀ cell ∈ queuedCells c, cell < heatSamples := by
  intro cell hc
  have hisland := ((findContacts_exact prof ts).islands _).mp ⟨c, h, rfl⟩
  exact (hisland.1.subset hc).1

theorem component_described (h : c ∈ components prof ts) :
    Described (describe (grid ts.buf) (queuedCells c)) c.2 :=
  describe_exact ((findContacts_exact prof ts).sums c h) (component_lt h)

theorem component_divisor (h : c ∈ components prof ts) : CInt.Divisor c.2.strength := by
  obtain ⟨k, hk, hc⟩ := mem_components h
  exact ((findBefore_sweeping prof ts (Nat.le_of_lt hk)).turn hk hc).1.divisor

theorem component_rows (h : c ∈ components prof ts) : c.2.weightedY ≤ 2 ^ 10 * c.2.strength := by
  have hexact := (findContacts_exact prof ts).sums c h
  rw [hexact.weightedY, hexact.strength, ← List.sum_map_mul_left]
  refine List.sum_le_sum fun cell hc => Nat.mul_le_mul_right _ ?_
  have hrow := row_le (component_lt h cell hc)
  simp only [heatRows] at hrow
  omega

theorem gates_agree (h : c ∈ components prof ts) :
    accepts (nsr ts.buf) (describe (grid ts.buf) (queuedCells c)) = passesGates ts.buf c.2 ∧
      rejectsPalm (nsr ts.buf) (describe (grid ts.buf) (queuedCells c)) = failsPalm ts.buf c.2 := by
  have hdescribed := component_described h
  unfold accepts rejectsPalm passesGates failsPalm
  rw [weak_agrees hdescribed, palm_agrees hdescribed,
    nsr_agrees hdescribed (component_divisor h) (component_rows h)]
  exact ⟨rfl, rfl⟩

end component

/-! ## The driver's accepted components -/

section accepted
variable {prof : Profile} {ts : Heat}

theorem passesGates_iff {k : Nat} {c : Flood × Contact} (hs : Sweeping prof ts k)
    (hk : k < heatSamples)
    (hc : startComponent (findBefore prof ts k) k = some c) :
    passesGates ts.buf c.2 = true ↔ Passes ts (queuedCells c) := by
  obtain ⟨hfill, _⟩ := hs.turn hk hc
  rw [passes_iff (hfill.exact.of_buf hs.buf) hfill.divisor]
  unfold passesGates
  simp [and_assoc]

/-- The accepted components, their contacts and their cells, each in the order found. -/
theorem acceptedBelow {k : Nat} (hk : k ≤ heatSamples) : ∃ l : List (Accepted prof ts),
    l.map Accepted.shaped = handedBelow prof ts k ∧
      l.map Accepted.cells = ((componentsBelow prof ts k).filter fun c =>
      passesGates ts.buf c.2).map queuedCells := by
  induction k with
  | zero => exact ⟨[], rfl, rfl⟩
  | succ k ih =>
    obtain ⟨l, hshaped, hcells⟩ := ih (Nat.le_of_succ_le hk)
    have hs := findBefore_sweeping prof ts (Nat.le_of_succ_le hk)
    have hhanded : handedBelow prof ts (k + 1) =
        handedBelow prof ts k ++ (handedContact prof (findBefore prof ts k) k).toList := by
      unfold handedBelow
      rw [List.range_succ, List.filterMap_append]
      cases h : handedContact prof (findBefore prof ts k) k <;> simp [h]
    rw [hhanded, componentsBelow_succ, List.filter_append, List.map_append, ← hshaped, ← hcells]
    cases hc : startComponent (findBefore prof ts k) k with
    | none => exact ⟨l, by simp [handedContact, hc], by simp⟩
    | some c =>
      have hiff := passesGates_iff hs hk hc
      have hfill := (hs.turn hk hc).1
      by_cases hp : Passes ts (queuedCells c)
      · refine ⟨l ++ [⟨k, hk, c, hc, hp⟩], ?_, ?_⟩
        · rw [handedContact_passes hc hfill (hp.of_buf hs.buf.symm)]
          simp [Accepted.shaped, Accepted.heat, Accepted.contact]
        · simp [hiff.mpr hp, Accepted.cells]
      · have hno : ¬ passesGates ts.buf c.2 = true := fun hyes => hp (hiff.mp hyes)
        exact ⟨l, by simp [handedContact_rejected hc hfill fun h => hp (h.of_buf hs.buf)], by simp [hno]⟩

end accepted

/-! ## The palm counter -/

theorem admitComponent_palms (prof : Profile) (s : FindState) (fill : Flood) (contact : Contact) :
    (admitComponent prof s fill contact).ts.palmRejections =
      s.ts.palmRejections + (failsPalm s.ts.buf contact).toNat := by
  unfold admitComponent failsPalm
  cases hw : weakComponent contact with
  | true => simp
  | false => cases hn : nsrRejected s.ts.buf contact with
    | true => simp
    | false => cases hp : palmSized contact with
      | true => simp
      | false =>
        obtain ⟨w, q, h⟩ := shapeContact_frame prof
          { s.ts with heatComponent := componentFlags fill } (locateContact contact)
        simp [h]

theorem findBefore_palms {prof : Profile} {ts : Heat} {k : Nat} (hk : k ≤ heatSamples) :
    (findBefore prof ts k).ts.palmRejections =
      ts.palmRejections + (componentsBelow prof ts k).countP fun c => failsPalm ts.buf c.2 := by
  induction k with
  | zero =>
    rw [show findBefore prof ts 0 = ⟨ts, fun _ => false, 0⟩ from CInt.loop_zero _ _]
    rfl
  | succ k ih =>
    have hs := findBefore_sweeping prof ts (Nat.le_of_succ_le hk)
    rw [componentsBelow_succ, List.countP_append, findBefore_succ, findStart_eq]
    cases hc : startComponent (findBefore prof ts k) k with
    | none => simpa using ih (Nat.le_of_succ_le hk)
    | some c =>
      have hbuf : failsPalm ((findBefore prof ts k).filled c.1).ts.buf c.2 =
        failsPalm ts.buf c.2 := by
        rw [← hs.buf]
        rfl
      have hsame : ((findBefore prof ts k).filled c.1).ts.palmRejections =
        (findBefore prof ts k).ts.palmRejections := rfl
      simp only [admitComponent_palms, hbuf, hsame, ih (Nat.le_of_succ_le hk)]
      cases hf : failsPalm ts.buf c.2 <;> simp [hf]
      omega

/-! ## The contacts of a frame -/

theorem accepted_described {prof : Profile} {ts : Heat} (a : Accepted prof ts) :
    Described (describe (grid ts.buf) a.cells) a.contact :=
  describe_exact a.exact fun _ hc => a.cell_lt hc

theorem centredContact_strength (prof : Profile) (ts : Heat) (contact : Contact) :
    (centredContact prof ts contact).strength = contact.strength := by
  unfold centredContact
  split
  · rw [phase76OutputCentroid_eq]
    split
    · rfl
    · rfl
  · rfl

theorem locateContact_strength (contact : Contact) :
    (locateContact contact).strength = contact.strength := by
  have hany : ∀ x y sensorX sensorY : Nat, Contact.strength { contact with
      x := x, y := y, outputX := x, outputY := y, sensorXQ24 := sensorX, sensorYQ24 := sensorY } =
        contact.strength :=
    fun _ _ _ _ => rfl
  exact hany _ _ _ _

/-- The stored contact keeps the component's strength and box. -/
theorem shaped_strength {prof : Profile} {ts : Heat} (a : Accepted prof ts) :
    a.shaped.strength = a.contact.strength := by
  have hfield : ∀ contact : Contact, contact.place.strength = contact.strength := fun _ => rfl
  unfold Accepted.shaped
  rw [← hfield, shapeContact_place, hfield, centredContact_strength, locateContact_strength]

/-- What the detector returns, `r`, beside the driver's frame. `l` are the driver's accepted components,
`full` the detector's in its own order. -/
structure ContactsAgree (prof : Profile) (ts : Heat) (r : List Component × Nat) : Prop where
  palms : (findContacts prof ts).1.palmRejections = ts.palmRejections + r.2
  count : (findContacts prof ts).2 = r.1.length
  strengths : ((List.range (findContacts prof ts).2).map fun i =>
    ((findContacts prof ts).1.contacts i).strength).Perm
    (r.1.map Component.strength)
  kept : ∃ (l : List (Accepted prof ts)) (full : List Component),
    l.map Accepted.shaped = Sp11Touch.acceptedContacts prof ts ∧
    full.Perm (l.map fun a => describe (grid ts.buf) a.cells) ∧
    full.Pairwise (fun a b => a.strength ≥ b.strength) ∧ r.1 = full.take maxContacts

section frame
variable (prof : Profile) (ts : Heat)

/-- The detector's accepted components, strongest first, before the cut at ten. -/
def sortedAccepted : List Component :=
  (connectedComponents (grid ts.buf) heatThreshold).filter (accepts (nsr ts.buf))

theorem acceptedContacts_eq :
    (acceptedContacts (grid ts.buf) heatThreshold (nsr ts.buf)).1 =
    (sortedAccepted ts).take maxContacts ∧
      (acceptedContacts (grid ts.buf) heatThreshold (nsr ts.buf)).2 =
        (connectedComponents (grid ts.buf) heatThreshold).countP (rejectsPalm (nsr ts.buf)) := by
  unfold acceptedContacts sortedAccepted
  simp only [acceptStep_foldl, List.nil_append, Nat.zero_add, and_self]

theorem sortedAccepted_sorted : (sortedAccepted ts).Pairwise fun a b =>
    a.strength ≥ b.strength := by
  have hsorted : (connectedComponents (grid ts.buf) heatThreshold).Pairwise
      fun a b => decide (a.strength ≥ b.strength) = true :=
    List.pairwise_mergeSort (fun a b c hab hbc => by simp at hab hbc ⊢; omega)
      (fun a b => by simp; omega) _
  exact (hsorted.filter _).imp fun h => by simpa using h

theorem connectedComponents_perm : (connectedComponents (grid ts.buf) heatThreshold).Perm
    ((components prof ts).map fun c => describe (grid ts.buf) (queuedCells c)) := by
  rw [← foundComponents_eq]
  exact List.mergeSort_perm _ _

theorem sortedAccepted_perm {l : List (Accepted prof ts)}
    (hcells : l.map Accepted.cells = ((components prof ts).filter fun c =>
    passesGates ts.buf c.2).map queuedCells) :
    (sortedAccepted ts).Perm (l.map fun a => describe (grid ts.buf) a.cells) := by
  have hfilter : (components prof ts).filter (accepts (nsr ts.buf) ∘ fun c =>
    describe (grid ts.buf) (queuedCells c)) =
      (components prof ts).filter fun c => passesGates ts.buf c.2 :=
    List.filter_congr fun c hc => (gates_agree hc).1
  have hmap : (l.map fun a => describe (grid ts.buf) a.cells) =
      ((components prof ts).filter fun c => passesGates ts.buf c.2).map fun c =>
      describe (grid ts.buf) (queuedCells c) := by
    have hdescribe := congrArg (List.map (describe (grid ts.buf))) hcells
    simpa [List.map_map, Function.comp_def] using hdescribe
  rw [hmap, ← hfilter, ← List.filter_map]
  exact (connectedComponents_perm prof ts).filter _

theorem finish_palms (s : FindState) : s.finish.1.palmRejections = s.ts.palmRejections := rfl

theorem palms_agree : (findContacts prof ts).1.palmRejections =
    ts.palmRejections + (connectedComponents (grid ts.buf) heatThreshold).countP
    (rejectsPalm (nsr ts.buf)) := by
  have hrun : (findContacts prof ts).1.palmRejections =
    (findBefore prof ts heatSamples).ts.palmRejections := by
    rw [(findContacts_exact prof ts).run, finish_palms]
  have hgates : (components prof ts).countP (rejectsPalm (nsr ts.buf) ∘ fun c =>
    describe (grid ts.buf) (queuedCells c)) =
      (components prof ts).countP fun c => failsPalm ts.buf c.2 :=
    List.countP_congr fun c hc => by rw [Function.comp_apply, (gates_agree hc).2]
  rw [hrun, findBefore_palms (Nat.le_refl _), (connectedComponents_perm prof ts).countP_eq,
    List.countP_map, hgates,
    components]

/-- The strengths of the accepted components, strongest first. -/
theorem sortedAccepted_strengths {l : List (Accepted prof ts)}
    (hperm : (sortedAccepted ts).Perm (l.map fun a => describe (grid ts.buf) a.cells)) :
    (sortedAccepted ts).map Component.strength =
      ((l.map Accepted.shaped).map Contact.strength).mergeSort (· ≥ ·) := by
  refine List.Perm.eq_of_pairwise' (r := (· ≥ ·)) (List.pairwise_map.mpr (sortedAccepted_sorted ts))
    (List.pairwise_mergeSort' _ _) ?_
  refine (hperm.map Component.strength).trans
    (List.Perm.trans (List.Perm.of_eq ?_) (List.mergeSort_perm _ _).symm)
  rw [List.map_map, List.map_map]
  exact List.map_congr_left fun a _ => (accepted_described a).strength.trans
    (shaped_strength a).symm

/-- What the array of a frame holds; for any frame, so that the frame is not run to see it. -/
theorem top_frame {l : List Contact} {p : Heat × Nat} (h : TopContacts l (p.1.contacts, p.2)) :
    p.2 = min Sp11Touch.maxContacts l.length ∧
      ((List.range p.2).map fun i => (p.1.contacts i).strength).Perm
        (((l.map Contact.strength).mergeSort (· ≥ ·)).take Sp11Touch.maxContacts) :=
        ⟨h.count, h.strengths⟩

theorem accepted_agree : ContactsAgree prof ts
    (acceptedContacts (grid ts.buf) heatThreshold (nsr ts.buf)) := by
  obtain ⟨l, hshaped, hcells⟩ : ∃ l : List (Accepted prof ts), _ :=
    acceptedBelow (Nat.le_refl heatSamples)
  have hperm := sortedAccepted_perm prof ts hcells
  have htop := storeContacts_top ts.contacts (Sp11Touch.acceptedContacts prof ts)
  rw [← findContacts_stores] at htop
  obtain ⟨hcount, hstrengths⟩ := top_frame htop
  have hall : l.map Accepted.shaped = Sp11Touch.acceptedContacts prof ts := by
    rw [hshaped, Sp11Touch.acceptedContacts]
  have hlen : (sortedAccepted ts).length = (Sp11Touch.acceptedContacts prof ts).length := by
    rw [hperm.length_eq, List.length_map, ← hall, List.length_map]
  obtain ⟨hkept, hpalms⟩ := acceptedContacts_eq ts
  refine ⟨?_, ?_, ?_, l, sortedAccepted ts, hall, hperm, sortedAccepted_sorted ts, hkept⟩
  · rw [hpalms]
    exact palms_agree prof ts
  · rw [hcount, hkept, List.length_take, hlen]
    rfl
  · rw [← hall, ← sortedAccepted_strengths prof ts hperm, ← List.map_take] at hstrengths
    rw [hkept]
    exact hstrengths

end frame

/-! ## A whole report -/

theorem trackContacts_count (prof : Profile) (found : Heat × Nat) :
    (trackContacts prof found).2.contactCount = found.2 := rfl

theorem reportHeatContacts_ok {prof : Profile} {ts ts' : Heat} {c : Bytes} {report : Report}
    (h : reportHeatContacts prof c ts = (ts', .ok report)) :
    ∃ t, HeatFrame.extractHeatmap c ts.buf = (t, .ok ()) ∧
      report.contactCount = (findContacts prof { ts with buf := t }).2 := by
  unfold reportHeatContacts at h
  split at h
  · cases h
  · next t _ hextract =>
    rw [Prod.mk.injEq, Except.ok.injEq] at h
    exact ⟨t, hextract, by rw [← h.2, parsedFrame, trackContacts_count]⟩

theorem reportHeatContacts_of {prof : Profile} {ts : Heat} {c : Bytes} {t : HeatBuf}
    (h : HeatFrame.extractHeatmap c ts.buf = (t, .ok ())) : reportHeatContacts prof c ts =
      ((parsedFrame prof { ts with buf := t }).1,
      .ok (parsedFrame prof { ts with buf := t }).2) := by
  unfold reportHeatContacts
  rw [h]

/-- On a report that both read, the driver reports the contacts the detector accepts. -/
theorem report_contacts {prof : Profile} {ts ts' : Heat} {c g : Bytes} {v : Option (List Nat)}
    {report : Report}
    (h : reportHeatContacts prof c ts = (ts', .ok report)) (hacc : Accepts (0x12 :: c) g v) :
    report.contactCount = (acceptedContacts g heatThreshold v).1.length ∧
      ∃ t, HeatFrame.extractHeatmap c ts.buf = (t, .ok ()) ∧
      ContactsAgree prof { ts with buf := t } (acceptedContacts g heatThreshold v) := by
  obtain ⟨t, hextract, hcount⟩ := reportHeatContacts_ok h
  obtain ⟨hgrid, hnsr⟩ := decoded_eq hacc (HeatFrame.accepted_grammar hextract).2
  have hagree := accepted_agree prof { ts with buf := t }
  rw [← hgrid, ← hnsr]
  exact ⟨hcount.trans hagree.count, t, hextract, hagree⟩

/-- A finger of four cells on an empty panel. -/
def fingerGrid : Bytes := (List.range heatSamples).map fun cell =>
  if cell = 1598 ∨ cell = 1599 ∨ cell = 1666 ∨ cell = 1667 then 90 else 0xb5

theorem fingerGrid_length : fingerGrid.length = heatSamples := by
  unfold fingerGrid
  rw [List.length_map, List.length_range]

theorem report_contacts_finger : ∃ ts report g v,
    reportHeatContacts ⟨true, true⟩ (HeatWriter.content fingerGrid []) Heat.zero =
    (ts, .ok report) ∧
      Accepts (HeatWriter.makeReport fingerGrid []) g v ∧
      report.contactCount = (acceptedContacts g heatThreshold v).1.length := by
  obtain ⟨t, hextract, _⟩ := HeatWriter.content_read [] fingerGrid_length Heat.zero.buf
  obtain ⟨g, v, hacc⟩ := grammar_accepts (b := 0x12)
    (HeatWriter.content_grammar [] fingerGrid_length) (by
    rw [(HeatWriter.content_sections [] fingerGrid_length).2.1]
    exact List.length_filter_le _ _)
  have hreport : reportHeatContacts ⟨true, true⟩ _ _ = _ := reportHeatContacts_of hextract
  exact ⟨_, _, g, v, hreport, hacc, (report_contacts hreport hacc).1⟩

end Sp11Touch.Decoder
