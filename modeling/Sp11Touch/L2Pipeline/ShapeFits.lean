import Sp11Touch.L2Pipeline.ContactFits
/-!
# The shape stage divides by numbers that fit

A contact that passed the palm gate has at most 48 flagged cells. So the sums
of the output centroid and of the second moments stay small: their divisors fit
32 bits, the products under the moments fit 64, and the stage leaves the
position fields of the contact alone but for the output centroid.
-/
namespace Sp11Touch
open CInt

theorem componentFlags_iff {fill : Flood} {index : Nat} :
    componentFlags fill index = true ↔ index ∈ fill.entries fill.tail := by
  simp [componentFlags, Flood.mem_entries]

/-! ## Fields the stage keeps -/

/-- The contact without its features and its class. -/
def Contact.place (contact : Contact) : Contact :=
  { contact with
    featuresQ12 := fun _ => 0
    scoresQ24 := fun _ => 0
    localPeakCount := 0
    strongLocalPeakCount := 0
    shapeClass := 0
    shapeAllowed := false }

theorem setFeature_place (contact : Contact) (feature : Nat) (value : Int) :
    (setFeature contact feature value).place = contact.place := rfl

theorem localPeakCounts_place (ts : Heat) (contact : Contact) :
    (localPeakCounts ts contact).place = contact.place := by
  unfold localPeakCounts
  refine loop_keeps (fun c : Contact => c.place = contact.place) rfl fun i c _ h => ?_
  split
  · exact h
  split
  · exact h
  · exact h

theorem secondaryFeatures_place (ts : Heat) (contact : Contact) :
    (secondaryFeatures ts contact).2.place = contact.place := by
  have hinit : (loop 3 (fun pass contact => setFeature (setFeature contact (1 + pass)
      (contact.pixels * oneQ12 : Nat)) (4 + pass) oneQ12) contact).place = contact.place :=
    loop_keeps (fun c : Contact => c.place = contact.place) rfl fun _ _ _ h => h
  unfold secondaryFeatures
  simp only
  split
  · exact hinit
  · exact loop_keeps (fun s : Heat × Contact => s.2.place = contact.place) hinit fun _ _ _ h => h

theorem geometryFeatures_place (ts : Heat) (contact : Contact) :
    (geometryFeatures ts contact).place = contact.place := by
  unfold geometryFeatures
  simp only
  split
  · rfl
  split
  · rfl
  · rfl

/-- The contact with its output centroid, where the profile computes one. -/
def centredContact (prof : Profile) (ts : Heat) (contact : Contact) : Contact :=
  if prof.behaviorV2 then phase76OutputCentroid ts contact else contact

/-- The contact with its peaks and its first feature. -/
def peakedContact (prof : Profile) (ts : Heat) (contact : Contact) : Contact :=
  let contact := localPeakCounts ts (centredContact prof ts contact)
  setFeature contact 0 (contact.pixels * oneQ12 : Nat)

/-- The contact `g6ts_classify_contact` is called with. -/
def featuredContact (prof : Profile) (ts : Heat) (contact : Contact) : Contact :=
  let s := secondaryFeatures ts (peakedContact prof ts contact)
  let contact := geometryFeatures s.1 s.2
  setFeature contact 9 (haloFeature s.1 contact)

theorem shapeContact_eq (prof : Profile) (ts : Heat) (contact : Contact) :
    (shapeContact prof ts contact).2 =
      { (classifyContact prof (featuredContact prof ts contact)).1 with
        shapeClass := (classifyContact prof (featuredContact prof ts contact)).2
        shapeAllowed := (classifyContact prof (featuredContact prof ts contact)).2 == 0 ||
          (classifyContact prof (featuredContact prof ts contact)).2 == 2 } := rfl

theorem featuredContact_place (prof : Profile) (ts : Heat) (contact : Contact) :
    (featuredContact prof ts contact).place = (centredContact prof ts contact).place := by
  unfold featuredContact
  simp only
  rw [setFeature_place, geometryFeatures_place, secondaryFeatures_place]
  exact localPeakCounts_place ts _

theorem shapeContact_place (prof : Profile) (ts : Heat) (contact : Contact) :
    (shapeContact prof ts contact).2.place = (centredContact prof ts contact).place := by
  rw [shapeContact_eq]
  exact featuredContact_place prof ts contact

theorem ContactFits.of_place {a b : Contact} (h : ContactFits b) (hp : a.place = b.place) :
    ContactFits a := by
  have hs : SumsFit a.place := by rw [hp]; exact ⟨h.sums.1, h.sums.2, h.sums.3, h.sums.4, h.sums.5, h.sums.6⟩
  have hf : ContactFits a.place := by
    rw [hp]
    exact { h with sums := hp ▸ hs }
  exact { hf with sums := ⟨hs.1, hs.2, hs.3, hs.4, hs.5, hs.6⟩ }

/-! ## The output centroid -/

/-- One turn of the loop: `weighted_x`, `weighted_y`, `weight_total`. -/
def outputStep (ts : Heat) (index : Nat) (s : Nat × Nat × Nat) : Nat × Nat × Nat :=
  if !ts.heatComponent index || ts.value index ≥ windowsCentroidBaseline then s else
    let weight := windowsCentroidBaseline - ts.value index
    (s.1 + index % heatCols * weight, s.2.1 + index / heatCols * weight, s.2.2 + weight)

def outputSums (ts : Heat) : Nat × Nat × Nat := loop heatSamples (outputStep ts) (0, 0, 0)

theorem phase76OutputCentroid_eq (ts : Heat) (contact : Contact) :
    phase76OutputCentroid ts contact =
      if (outputSums ts).2.2 = 0 then contact else
        { contact with
          outputX := u16 (divU64 ((outputSums ts).1 * logicalMax)
            ((outputSums ts).2.2 * (heatCols - 1)))
          outputY := u16 (divU64 ((outputSums ts).2.1 * logicalMax)
            ((outputSums ts).2.2 * (heatRows - 1))) } := by
  unfold phase76OutputCentroid outputSums
  delta outputStep
  simp only

/-- The sums stay in the box of the contact. -/
structure OutputSums (contact : Contact) (n : Nat) (s : Nat × Nat × Nat) : Prop where
  cols : Weighed contact.minCol contact.maxCol s.2.2 s.1
  rows : Weighed contact.minRow contact.maxRow s.2.2 s.2.1
  total : s.2.2 ≤ windowsCentroidBaseline * n

/-- The flags of the component lie in the box of the contact. -/
def FlagsIn (ts : Heat) (contact : Contact) : Prop := ∀ cell, ts.heatComponent cell = true →
  contact.minCol ≤ cell % heatCols ∧ cell % heatCols ≤ contact.maxCol ∧
    contact.minRow ≤ cell / heatCols ∧ cell / heatCols ≤ contact.maxRow

theorem outputStep_sums {ts : Heat} {contact : Contact} {n : Nat} {s : Nat × Nat × Nat}
    (hf : FlagsIn ts contact)
    (h : OutputSums contact n s) : OutputSums contact (n + 1) (outputStep ts n s) := by
  have htotal : s.2.2 ≤ 171 * n := h.total
  unfold outputStep
  split
  · exact ⟨h.cols, h.rows, show s.2.2 ≤ 171 * (n + 1) by omega⟩
  · next hn =>
    simp only [Bool.or_eq_true, Bool.not_eq_true', decide_eq_true_eq, not_or, Bool.not_eq_false]
      at hn
    obtain ⟨h1, h2, h3, h4⟩ := hf n hn.1
    exact ⟨h.cols.add h1 h2, h.rows.add h3 h4,
      show s.2.2 + (171 - ts.value n) ≤ 171 * (n + 1) by omega⟩

theorem outputSums_sums {ts : Heat} {contact : Contact} (hf : FlagsIn ts contact) :
    OutputSums contact heatSamples (outputSums ts) :=
  loop_ind (OutputSums contact) ⟨Weighed.zero _ _, Weighed.zero _ _, Nat.le_refl _⟩ fun _ _ _ h =>
    outputStep_sums hf h

/-- What the output centroid divides by, and what it stores. -/
structure OutputFits (s : Nat × Nat × Nat) : Prop where
  perCol : Divisor (s.2.2 * (heatCols - 1))
  perRow : Divisor (s.2.2 * (heatRows - 1))
  wideX : s.1 * logicalMax < 2 ^ 64
  wideY : s.2.1 * logicalMax < 2 ^ 64
  x : u16 (divU64 (s.1 * logicalMax) (s.2.2 * (heatCols - 1))) =
    s.1 * logicalMax / (s.2.2 * (heatCols - 1))
  y : u16 (divU64 (s.2.1 * logicalMax) (s.2.2 * (heatRows - 1))) =
    s.2.1 * logicalMax / (s.2.2 * (heatRows - 1))

theorem OutputSums.fits {contact : Contact} {s : Nat × Nat × Nat}
    (h : OutputSums contact heatSamples s)
    (hc : contact.maxCol ≤ heatCols - 1) (hr : contact.maxRow ≤ heatRows - 1) (hpos : s.2.2 ≠ 0) :
      OutputFits s := by
  have ht : s.2.2 ≤ 171 * 3128 := h.total
  have hx := (h.cols.widen (Nat.zero_le _) hc).high
  have hy := (h.rows.widen (Nat.zero_le _) hr).high
  have hcol : Divisor (s.2.2 * (heatCols - 1)) :=
    ⟨by simp only [heatCols]; omega, by simp only [heatCols]; omega⟩
  have hrow : Divisor (s.2.2 * (heatRows - 1)) :=
    ⟨by simp only [heatRows]; omega, by simp only [heatRows]; omega⟩
  simp only [heatCols, heatRows] at hx hy
  exact { perCol := hcol, perRow := hrow, wideX := by simp only [logicalMax]; omega,
          wideY := by simp only [logicalMax]; omega, x := u16_mean h.cols hcol hc, y := u16_mean h.rows hrow hr }

theorem phase76OutputCentroid_fits {ts : Heat} {contact : Contact} (h : ContactFits contact)
    (hf : FlagsIn ts contact) : ContactFits (phase76OutputCentroid ts contact) := by
  have hs := outputSums_sums hf
  rw [phase76OutputCentroid_eq]
  split
  · exact h
  · next hpos =>
    have ho := hs.fits h.maxCol h.maxRow hpos
    have hw := Nat.pos_of_ne_zero hpos
    have hx := inSpan_mean (heatCols - 1) hs.cols hw (by decide)
    have hy := inSpan_mean (heatRows - 1) hs.rows hw (by decide)
    rw [← ho.x] at hx
    rw [← ho.y] at hy
    exact { h with
            sums := ⟨h.sums.1, h.sums.2, h.sums.3, h.sums.4, h.sums.5, h.sums.6⟩
            outX := hx
            outY := hy }

end Sp11Touch
