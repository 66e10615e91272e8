import Sp11Touch.L2Pipeline.ShiftedCells
import Sp11Touch.L2Pipeline.PeakLaw
import Mathlib.Data.Set.Card
/-!
# Features do not depend on the place

The peak walk reads the neighbours of a flagged cell: those of the component
move with it, and the others are inactive or off the grid, which are both lower
than any active cell. With `ShiftedCells` this makes features 0 to 8 and both
peak counts of a component the same wherever it fits (`geometry_exact`).
-/
namespace Sp11Touch
open CInt Region

variable {dr dc : Int} {ts ts' : Heat}

/-! ## Peaks -/

/-- The flagged cells are active and no other active cell is next to them. -/
structure Isolated (ts : Heat) : Prop where
  active : ∀ a, ts.heatComponent a = true → ts.value a ≤ heatActiveMax
  apart : ∀ a b, ts.heatComponent a = true → ts.heatComponent b = false → heatAdjacent a b →
    heatActiveMax < ts.value b

/-- A neighbour that is not flagged is lower. -/
theorem Isolated.lower (h : Isolated ts) {a : Nat} (ha : ts.heatComponent a = true)
    (hlt : a < heatSamples)
    {o : Int × Int} (ho : o ∈ peakOffsets) (hn : ∀ n, peakNeighbour a o = some n →
      ts.heatComponent n = false) :
    peakSignal ts a o < signalQ12 (ts.value a) := by
  have hactive := h.active a ha
  unfold peakSignal
  cases hcell : peakNeighbour a o with
  | none => exact signalQ12_active hactive
  | some n =>
    have hadj : heatAdjacent a n := (peakNeighbour_iff hlt n).mp ⟨o, ho, hcell⟩
    exact signalQ12_strict (Nat.lt_of_le_of_lt hactive (h.apart a n ha (hn n hcell) hadj))

theorem peakNeighbour_shift (h : Shifted dr dc ts ts') {a n : Nat} (ha : ts.heatComponent a = true)
    (hn : ts.heatComponent n = true) {o : Int × Int} (hcell : peakNeighbour a o = some n) :
    peakNeighbour (shiftCell dr dc a) o = some (shiftCell dr dc n) := by
  unfold peakNeighbour at hcell ⊢
  rw [heatCell_eq_some] at hcell ⊢
  have hga := h.goes a ha
  have hgn := h.goes n hn
  refine ⟨hgn.lt, ?_, ?_⟩
  · rw [hgn.row, hga.row]; omega
  · rw [hgn.col, hga.col]; omega

/-- The same comparison, and the same cell where it is equal. -/
structure SameTally (dr dc : Int) (ts : Heat) (t t' : PeakTally) : Prop where
  lower : t'.lower = t.lower
  nearEqual : t'.nearEqual = t.nearEqual
  signal : t'.equalSignal = t.equalSignal
  index : (t.equalIndex = none ∧ t'.equalIndex = none) ∨
    ∃ n, ts.heatComponent n = true ∧ t.equalIndex = some n ∧
    t'.equalIndex = some (shiftCell dr dc n)

theorem tallyStep_same (h : Shifted dr dc ts ts') (hi : Isolated ts) (hi' : Isolated ts') {a : Nat}
    (ha : ts.heatComponent a = true) {o : Int × Int} (ho : o ∈ peakOffsets) {t t' : PeakTally}
    (ht : SameTally dr dc ts t t') :
    SameTally dr dc ts (tallyStep ts a t o) (tallyStep ts' (shiftCell dr dc a) t' o) := by
  by_cases hmoved : ∃ n, peakNeighbour a o = some n ∧ ts.heatComponent n = true
  · obtain ⟨n, hcell, hn⟩ := hmoved
    have hcell' := peakNeighbour_shift h ha hn hcell
    have hsignal : peakSignal ts' (shiftCell dr dc a) o = peakSignal ts a o := by
      unfold peakSignal
      rw [hcell, hcell']
      exact congrArg signalQ12 (h.value n hn)
    unfold tallyStep
    rw [h.value a ha, hsignal]
    split
    · exact ⟨congrArg (· + 1) ht.lower, ht.nearEqual, ht.signal, ht.index⟩
    split
    · exact ⟨ht.lower, congrArg (· + 1) ht.nearEqual, rfl, Or.inr ⟨n, hn, hcell, hcell'⟩⟩
    · exact ht
  · have hlow := hi.lower ha (h.lt a ha) ho fun n hcell => by
      rw [← Bool.not_eq_true]
      exact fun hn => hmoved ⟨n, hcell, hn⟩
    have hlow' := hi'.lower (h.flag a ha) (h.goes a ha).lt ho fun n hcell => by
      rw [← Bool.not_eq_true]
      intro hn
      have hback := peakNeighbour_shift h.symm (h.flag a ha) hn hcell
      rw [(h.back ha).2] at hback
      exact hmoved ⟨_, hback, h.symm.flag n hn⟩
    unfold tallyStep
    rw [if_pos hlow, if_pos hlow']
    exact ⟨congrArg (· + 1) ht.lower, ht.nearEqual, ht.signal, ht.index⟩

theorem peakTally_same (h : Shifted dr dc ts ts') (hi : Isolated ts) (hi' : Isolated ts') {a : Nat}
    (ha : ts.heatComponent a = true) : SameTally dr dc ts (peakTally ts a)
    (peakTally ts' (shiftCell dr dc a)) := by
  rw [peakTally_eq, peakTally_eq]
  exact List.foldl_rel ⟨rfl, rfl, rfl, Or.inl ⟨rfl, rfl⟩⟩ fun o ho t t' ht =>
    tallyStep_same h hi hi' ha ho ht

theorem peakSelected_same (h : Shifted dr dc ts ts') (hi : Isolated ts) (hi' : Isolated ts')
    {a : Nat}
    (ha : ts.heatComponent a = true) : peakSelected ts' (shiftCell dr dc a) =
      peakSelected ts a := by
  have ht := peakTally_same h hi hi' ha
  unfold peakSelected
  simp only
  rw [ht.lower, ht.nearEqual, ht.signal, h.value a ha]
  rcases ht.index with hnone | hsome
  · rw [hnone.1, hnone.2]
  · obtain ⟨n, hn, h1, h2⟩ := hsome
    rw [h1, h2]
    simp only [(h.goes a ha).lt_iff (h.goes n hn)]

theorem peakStep_skip {k : Nat} (h : ts.heatComponent k = false) (contact : Contact) :
    peakStep ts k contact = contact := by
  simp [peakStep, h]

theorem localPeakCounts_same (h : Shifted dr dc ts ts') (hi : Isolated ts) (hi' : Isolated ts')
    (c c' : Contact) :
    SamePeaks (localPeakCounts ts c) (localPeakCounts ts' c') := by
  rw [localPeakCounts_loop, localPeakCounts_loop]
  refine h.walk SamePeaks (fun _ c hk => peakStep_skip hk c)
    (fun _ c hk => peakStep_skip hk c) ⟨rfl, rfl⟩
    fun a ha s t hst => ?_
  unfold peakStep
  rw [h.flag a ha, ha, peakSelected_same h hi hi' ha, h.value a ha, hst.count]
  split
  · exact hst
  split
  · exact hst
  · exact ⟨rfl, congrArg (· + _) hst.strong⟩

/-! ## Secondary islands -/

theorem secondaryCell_shift (h : Shifted dr dc ts ts') (cutoff : Nat) {a : Nat}
    (ha : ts.heatComponent a = true) :
    secondaryCell ts' cutoff (shiftCell dr dc a) = secondaryCell ts cutoff a := by
  unfold secondaryCell
  rw [h.flag a ha, h.value a ha, ha]

theorem Shifted.inj (h : Shifted dr dc ts ts') : Set.InjOn (shiftCell dr dc)
    {a | ts.heatComponent a = true} := by
  intro a ha b hb heq
  rw [← (h.back ha).2, heq, (h.back hb).2]

/-- The cells of every cutoff are copied. -/
theorem Shifted.copies (h : Shifted dr dc ts ts') (cutoff : Nat) :
    Copies heatAdjacent heatAdjacent (shiftCell dr dc) (secondaryArea ts cutoff)
    (secondaryArea ts' cutoff) := by
  have hflag : ∀ {a}, a ∈ secondaryArea ts cutoff → ts.heatComponent a = true :=
    fun ha => secondaryArea_flags ha
  refine ⟨h.inj.mono secondaryArea_flags, ?_, fun a ha b hb => ⟨fun hadj => ?_, fun hadj => ?_⟩⟩
  · ext b
    apply Iff.intro
    · intro hb
      obtain ⟨a, ha, rfl⟩ := hb
      exact ⟨(h.goes a (hflag ha)).lt, (secondaryCell_shift h cutoff (hflag ha)).trans ha.2⟩
    · intro hb
      obtain ⟨a, ha, rfl⟩ := h.onto b (secondaryArea_flags hb)
      exact ⟨a, ⟨h.lt a ha, (secondaryCell_shift h cutoff ha).symm.trans hb.2⟩, rfl⟩
  · exact (h.back (hflag ha)).1.adjacent (h.back (hflag hb)).1 hadj
  · exact (h.goes a (hflag ha)).adjacent (h.goes b (hflag hb)) hadj

/-- An image has as many cells. -/
theorem Shifted.ncard (h : Shifted dr dc ts ts') {T : Set Nat}
    (hT : T ⊆ {a | ts.heatComponent a = true}) :
    (shiftCell dr dc '' T).ncard = T.ncard := Set.InjOn.ncard_image (h.inj.mono hT)

theorem Shifted.big (h : Shifted dr dc ts ts') {T : Set Nat}
    (hT : T ⊆ {a | ts.heatComponent a = true}) :
    Big ts' (shiftCell dr dc '' T) ↔ Big ts T := by
  unfold Big
  rw [h.ncard hT]
  refine or_congr_right ?_
  apply Iff.intro
  · intro hseed
    obtain ⟨_, ⟨a, ha, rfl⟩, hlt⟩ := hseed
    exact ⟨a, ha, by rwa [h.value a (hT ha)] at hlt⟩
  · intro hseed
    obtain ⟨a, ha, hlt⟩ := hseed
    exact ⟨_, ⟨a, ha, rfl⟩, by rwa [h.value a (hT ha)]⟩

theorem BigIsland.flags {cutoff : Nat} {T : Set Nat} (h : BigIsland ts cutoff T) :
    T ⊆ {a | ts.heatComponent a = true} :=
  fun _ ha => secondaryArea_flags (h.1.1.subset ha)

/-- A pass accepts the images of the islands it accepted. -/
theorem Shifted.islands (h : Shifted dr dc ts ts') (cutoff : Nat) :
    {Q | BigIsland ts' cutoff Q} = Set.image (shiftCell dr dc) '' {T | BigIsland ts cutoff T} := by
  have hcopy := h.copies cutoff
  ext Q
  apply Iff.intro
  · intro hQ
    obtain ⟨T, hT, rfl⟩ := (hcopy.isIsland_iff heatAdjacent_symm heatAdjacent_symm).mp hQ.1
    have hflags : T ⊆ {a | ts.heatComponent a = true} :=
      fun _ ha => secondaryArea_flags (hT.1.subset ha)
    exact ⟨T, ⟨hT, (h.big hflags).mp hQ.2⟩, rfl⟩
  · intro hQ
    obtain ⟨T, hT, rfl⟩ := hQ
    have hT : BigIsland ts cutoff T := hT
    exact ⟨(hcopy.isIsland_iff heatAdjacent_symm heatAdjacent_symm).mpr ⟨T, hT.1, rfl⟩,
      (h.big hT.flags).mpr hT.2⟩

theorem Shifted.pass (h : Shifted dr dc ts ts') {cutoff accepted accepted' largest largest' : Nat}
    (hne : {T | BigIsland ts cutoff T}.Nonempty) (hp : PassExact ts cutoff accepted largest)
    (hp' : PassExact ts' cutoff accepted' largest') : accepted' = accepted ∧
      largest' = largest := by
  have hislands := h.islands cutoff
  refine ⟨?_, ?_⟩
  · rw [← hp.accepted, ← hp'.accepted, hislands]
    refine Set.InjOn.ncard_image fun T hT T' hT' heq => ?_
    exact (h.inj.image_eq_image_iff (BigIsland.flags hT) (BigIsland.flags hT')).mp heq
  · have hne' : {Q | BigIsland ts' cutoff Q}.Nonempty := hislands ▸ hne.image _
    have hsizes : {n | ∃ Q, BigIsland ts' cutoff Q ∧ Q.ncard = n} =
      {n | ∃ T, BigIsland ts cutoff T ∧ T.ncard = n} := by
      ext n
      apply Iff.intro
      · intro hn
        obtain ⟨Q, hQ, rfl⟩ := hn
        have hmem : Q ∈ {Q | BigIsland ts' cutoff Q} := hQ
        rw [hislands] at hmem
        obtain ⟨T, hT, rfl⟩ := hmem
        exact ⟨T, hT, (h.ncard (BigIsland.flags hT)).symm⟩
      · intro hn
        obtain ⟨T, hT, rfl⟩ := hn
        have hmem : shiftCell dr dc '' T ∈ {Q | BigIsland ts' cutoff Q} := hislands ▸ ⟨T, hT, rfl⟩
        exact ⟨_, hmem, h.ncard (BigIsland.flags hT)⟩
    have hgreatest' := hp'.largest hne'
    rw [hsizes] at hgreatest'
    exact hgreatest'.unique (hp.largest hne)

/-! ## Every place the component fits -/

/-- The bytes of an accepted component in another place of a grid with no other active cell. -/
structure Translation {prof : Profile} {ts : Heat} (a : Accepted prof ts) where
  rows : Int
  cols : Int
  image : Heat
  fits : ∀ cell ∈ a.cells, Fits rows cols cell
  value : ∀ cell ∈ a.cells, image.value (shiftCell rows cols cell) = ts.value cell
  rest : ∀ cell, cell < heatSamples → (∀ c ∈ a.cells, shiftCell rows cols c ≠ cell) →
    image.heatActive cell = false

/-- Features 0 to 8 and both peak counts. -/
structure SameShape (x y : Contact) : Prop where
  features : ∀ k, k ≤ 8 → y.featuresQ12 k = x.featuresQ12 k
  peaks : y.localPeakCount = x.localPeakCount
  strong : y.strongLocalPeakCount = x.strongLocalPeakCount

theorem Accepted.isolated {prof : Profile} {ts : Heat} (a : Accepted prof ts) :
    Isolated a.heat := by
  refine ⟨fun cell hc => ?_, fun x y hx hy hadj => ?_⟩
  · rw [a.value]
    exact of_decide_eq_true (a.active (a.flags.mp hc))
  · rw [a.value]
    refine a.inactive_of_adjacent (a.flags.mp hx) (fun hin => ?_) hadj
    rw [a.flags.mpr hin] at hy
    cases hy

namespace Translation
variable {prof : Profile} {ts : Heat} {a : Accepted prof ts} (t : Translation a)

/-- The cells of the image. -/
def cells : Set Nat := shiftCell t.rows t.cols '' {cell | cell ∈ a.cells}

/-- The active cells of the image grid are the image. -/
theorem active : Flood.OkCells heatSamples t.image.heatActive = t.cells := by
  ext cell
  apply Iff.intro
  · intro hok
    by_contra hno
    have hrest := t.rest cell hok.1 fun c hc heq => hno ⟨c, hc, heq⟩
    rw [hok.2] at hrest
    cases hrest
  · intro hc
    obtain ⟨c, hc, rfl⟩ := hc
    refine ⟨(t.fits c hc).goes.lt, ?_⟩
    unfold Heat.heatActive
    rw [t.value c hc]
    exact a.active hc

/-- The image has the shape of the component. -/
theorem copies : Copies heatAdjacent heatAdjacent (shiftCell t.rows t.cols)
    {cell | cell ∈ a.cells} t.cells := by
  have hgoes : ∀ {c}, c ∈ a.cells → Goes t.rows t.cols c (shiftCell t.rows t.cols c) :=
    fun hc => (t.fits _ hc).goes
  refine ⟨fun c hc d hd heq => ?_, rfl, fun c hc d hd =>
    ⟨fun hadj => ?_, fun hadj => (hgoes hc).adjacent (hgoes hd) hadj⟩⟩
  · have hback := (hgoes hc).back (a.cell_lt hc)
    rw [heq] at hback
    exact hback.unique ((hgoes hd).back (a.cell_lt hd))
  · exact ((hgoes hc).back (a.cell_lt hc)).adjacent ((hgoes hd).back (a.cell_lt hd)) hadj

/-- The image is one island. -/
theorem island : IsIsland heatAdjacent (Flood.OkCells heatSamples t.image.heatActive) t.cells := by
  rw [t.active]
  exact (t.copies.isIsland_iff heatAdjacent_symm heatAdjacent_symm).mpr ⟨_, a.island.1.whole, rfl⟩

/-- The only component of the image grid is the image. -/
theorem cells_eq (b : Accepted prof t.image) : {cell | cell ∈ b.cells} = t.cells := by
  obtain ⟨cell, hc⟩ := b.island.1.nonempty
  have hcells : cell ∈ t.cells := t.active ▸ b.island.1.subset hc
  exact b.island.eq_of_mem heatAdjacent_symm t.island hc hcells

theorem shifted (b : Accepted prof t.image) : Shifted t.rows t.cols a.heat b.heat := by
  have hmem : ∀ {cell}, cell ∈ b.cells ↔ cell ∈ t.cells :=
    fun {cell} => Set.ext_iff.mp (t.cells_eq b) cell
  refine ⟨fun c hc => a.cell_lt (a.flags.mp hc), fun c hc => (t.fits c (a.flags.mp hc)).goes,
    fun c hc => ?_, fun c hc => ?_,
    fun d hd => ?_⟩
  · exact b.flags.mpr (hmem.mpr ⟨c, a.flags.mp hc, rfl⟩)
  · rw [a.value, b.value]
    exact t.value c (a.flags.mp hc)
  · obtain ⟨c, hc, heq⟩ := hmem.mp (b.flags.mp hd)
    exact ⟨c, a.flags.mpr hc, heq⟩

theorem pixels_eq (b : Accepted prof t.image) : b.contact.pixels = a.contact.pixels := by
  have hset : {cell | b.heat.heatComponent cell = true} =
    shiftCell t.rows t.cols '' {cell | a.heat.heatComponent cell = true} := by
    have hb : {cell | b.heat.heatComponent cell = true} = {cell | cell ∈ b.cells} :=
      Set.ext fun _ => b.flags
    have ha : {cell | a.heat.heatComponent cell = true} = {cell | cell ∈ a.cells} :=
      Set.ext fun _ => a.flags
    rw [hb, ha, t.cells_eq b]
    rfl
  rw [← b.flagsOf.pixels, ← a.flagsOf.pixels, hset, (t.shifted b).ncard subset_rfl]

theorem peak_eq (b : Accepted prof t.image) : b.contact.peakValue = a.contact.peakValue := by
  have hset : {v | ∃ cell ∈ b.cells, t.image.value cell = v} =
    {v | ∃ cell ∈ a.cells, ts.value cell = v} := by
    ext v
    apply Iff.intro
    · intro hv
      obtain ⟨cell, hcell, rfl⟩ := hv
      obtain ⟨c, hc, rfl⟩ := (Set.ext_iff.mp (t.cells_eq b) cell).mp hcell
      exact ⟨c, hc, (t.value c hc).symm⟩
    · intro hv
      obtain ⟨c, hc, rfl⟩ := hv
      exact ⟨_, (Set.ext_iff.mp (t.cells_eq b) _).mpr ⟨c, hc, rfl⟩, t.value c hc⟩
  have hpeak := b.exact.peak
  rw [hset] at hpeak
  exact hpeak.unique a.exact.peak

/-- Features 1 to 6. -/
theorem secondary_eq (b : Accepted prof t.image) (pass : Nat) (hp : pass < 3) :
    b.shaped.featuresQ12 (1 + pass) = a.shaped.featuresQ12 (1 + pass) ∧
      b.shaped.featuresQ12 (4 + pass) = a.shaped.featuresQ12 (4 + pass) := by
  have hpeak := t.peak_eq b
  by_cases hs : signalQ12 a.contact.peakValue ≤ 287
  · have h := a.skipped hs pass hp
    have h' := b.skipped (hpeak ▸ hs) pass hp
    rw [t.pixels_eq b] at h'
    exact ⟨h'.1.trans h.1.symm, h'.2.trans h.2.symm⟩
  · have hs : 287 < signalQ12 a.contact.peakValue := not_le.mp hs
    have hfall := cutoffs_fall hs
    have hcutoff : ∀ pass, pass < 3 → a.contact.peakValue ≤
      secondaryCutoff a.contact.peakValue pass := by
      have h1 := hfall.peak
      have h2 := hfall.last
      have h3 := hfall.first
      intro pass hp
      match pass, hp with
      | 0, _ => omega
      | 1, _ => omega
      | 2, _ => omega
    have hne := bigIsland_peak a.flagsOf hs (hcutoff pass hp)
    obtain ⟨accepted, largest, hexact, h1, h4⟩ := a.rerun hs pass hp
    obtain ⟨accepted', largest', hexact', h1', h4'⟩ := b.rerun (hpeak ▸ hs) pass hp
    rw [hpeak] at hexact'
    obtain ⟨rfl, rfl⟩ := (t.shifted b).pass hne hexact hexact'
    exact ⟨h1'.trans h1.symm, h4'.trans h4.symm⟩

/-- Features 7 and 8. -/
theorem geometry_eq (b : Accepted prof t.image) : b.shaped.featuresQ12 7 = a.shaped.featuresQ12 7 ∧
    b.shaped.featuresQ12 8 = a.shaped.featuresQ12 8 := by
  have hsame : SameCentral a.moments b.moments :=
    (momentSums_moved ((t.shifted b).of_fields a.haloHeat_fields b.haloHeat_fields)).central
  have hseven := (geometryExact a).seven
  have hseven' := (geometryExact b).seven
  have height := geometryFeatures_eight a.passedContact a.moments_sum
  have height' := geometryFeatures_eight b.passedContact b.moments_sum
  rw [← a.shaped_geometry (by decide), a.passedContact_box.pixels] at height
  rw [← b.shaped_geometry (by decide), b.passedContact_box.pixels, t.pixels_eq b] at height'
  refine ⟨?_, ?_⟩
  · rw [hseven, hseven', hsame.halves.1, hsame.halves.2]
  · rw [height, height']
    show (if _ then _ else s32 ((traceQ12 b.moments * spreadScaleQ12).tdiv _)) = _
    rw [hsame.trace]
    rfl

theorem shape_eq (b : Accepted prof t.image) : SameShape a.shaped b.shaped := by
  have hpeaks := localPeakCounts_same (t.shifted b) a.isolated b.isolated
    (centredContact prof a.heat (locateContact a.contact))
    (centredContact prof b.heat (locateContact b.contact))
  have ha : SamePeaks a.shaped _ := shapeContact_peaks prof a.heat (locateContact a.contact)
  have hb : SamePeaks b.shaped _ := shapeContact_peaks prof b.heat (locateContact b.contact)
  refine ⟨fun k hk => ?_, hb.count.trans (hpeaks.count.symm.trans ha.count.symm),
    hb.strong.trans (hpeaks.strong.symm.trans ha.strong.symm)⟩
  match k, hk with
  | 0, _ => rw [a.shaped_zero, b.shaped_zero, t.pixels_eq b]
  | 1, _ => exact (t.secondary_eq b 0 (by decide)).1
  | 2, _ => exact (t.secondary_eq b 1 (by decide)).1
  | 3, _ => exact (t.secondary_eq b 2 (by decide)).1
  | 4, _ => exact (t.secondary_eq b 0 (by decide)).2
  | 5, _ => exact (t.secondary_eq b 1 (by decide)).2
  | 6, _ => exact (t.secondary_eq b 2 (by decide)).2
  | 7, _ => exact (t.geometry_eq b).1
  | 8, _ => exact (t.geometry_eq b).2

/-- Without noise rows the image passes the gates. -/
theorem accepted (h : t.image.buf.nsrValid = false) : Nonempty (Accepted prof t.image) := by
  have hcopy := t.copies
  rw [← t.active] at hcopy
  obtain ⟨b, _⟩ := a.exists_copy a.island.1.whole hcopy t.value h fun x hx y hy => by
    have hspan := a.passes.span x hx y hy
    have hgx := (t.fits x hx).goes
    have hgy := (t.fits y hy).goes
    have h1 := hgx.row
    have h2 := hgx.col
    have h3 := hgy.row
    have h4 := hgy.col
    omega
  exact ⟨b⟩

end Translation

/-- The component's bytes in another place, with no other active cell and no noise record. -/
def Accepted.moved {prof : Profile} {ts : Heat} (a : Accepted prof ts) (rows cols : Int) : Heat :=
  { Heat.zero with
    buf.heatmap := fun cell =>
      let source := shiftCell (-rows) (-cols) cell
      if source ∈ a.cells ∧ shiftCell rows cols source = cell then ts.buf.heatmap source
        else UInt8.ofNat heatSignalZero }

namespace Accepted
variable {prof : Profile} {ts : Heat} (a : Accepted prof ts) {rows cols : Int}

theorem moved_value {cell : Nat} (hc : cell ∈ a.cells) (h : Fits rows cols cell) :
    (a.moved rows cols).value (shiftCell rows cols cell) = ts.value cell := by
  have hback : shiftCell (-rows) (-cols) (shiftCell rows cols cell) = cell :=
    (h.goes.back (a.cell_lt hc)).eq
  simp only [Heat.value, moved, hback]
  rw [if_pos ⟨hc, True.intro⟩]

theorem moved_rest {cell : Nat} (h : ∀ c ∈ a.cells, shiftCell rows cols c ≠ cell) :
    (a.moved rows cols).heatActive cell = false := by
  have hvalue : (a.moved rows cols).value cell = heatSignalZero := by
    simp only [Heat.value, moved]
    rw [if_neg fun hin => h _ hin.1 hin.2]
    decide
  unfold Heat.heatActive
  rw [hvalue]
  decide

/-- A place where the component fits. -/
def translate (hfits : ∀ cell ∈ a.cells, Fits rows cols cell) : Translation a where
  rows := rows
  cols := cols
  image := a.moved rows cols
  fits := hfits
  value _ hc := a.moved_value hc (hfits _ hc)
  rest _ _ h := a.moved_rest h

end Accepted

theorem geometry_exact (prof : Profile) (ts : Heat) (a : Accepted prof ts) :
    GeometryExact a ∧ (∀ t : Translation a, (∀ b : Accepted prof t.image,
    SameShape a.shaped b.shaped) ∧
      (t.image.buf.nsrValid = false → Nonempty (Accepted prof t.image))) ∧
      ∀ rows cols, (∀ cell ∈ a.cells, Fits rows cols cell) → ∃ t : Translation a, t.rows = rows ∧
        t.cols = cols ∧
        ∃ b : Accepted prof t.image, SameShape a.shaped b.shaped := by
  refine ⟨geometryExact a, fun t => ⟨t.shape_eq, t.accepted⟩, fun rows cols hfits => ?_⟩
  let t := a.translate hfits
  obtain ⟨b⟩ := t.accepted rfl
  exact ⟨t, rfl, rfl, b, t.shape_eq b⟩

/-- The fingertip five rows down and seven columns right, away from the edges. -/
theorem geometry_exact_fingertip : ∃ (a : Accepted ⟨false, false⟩ fingertip) (t : Translation a),
    t.rows = 5 ∧ t.cols = 7 ∧
    ∃ b : Accepted ⟨false, false⟩ t.image, SameShape a.shaped b.shaped := by
  obtain ⟨a, ha⟩ := fingertip_accepted ⟨false, false⟩
  have hfits : ∀ cell ∈ 0 :: fingertipRoute, Fits 5 7 cell := by
    have hcorner : ∀ cell ∈ 0 :: fingertipRoute, cell / heatCols < 4 ∧
      cell % heatCols < 3 := by decide
    intro cell hc
    obtain ⟨hrow, hcol⟩ := hcorner cell hc
    refine ⟨?_, ?_, ?_, ?_⟩
    all_goals simp only [heatRows, heatCols] at hrow hcol ⊢
    all_goals omega
  exact ⟨a, (geometry_exact ⟨false, false⟩ fingertip a).2.2 5 7 fun cell hc =>
    hfits cell ((Fingertip.mem ha).mp hc)⟩

end Sp11Touch
