import Sp11Touch.L2Pipeline.FloodFill
/-!
# Accepted components

`Accepted prof ts` is a component of the frame that passes the gates, with what
the shape stage reads (`heat`) and the contact it stores (`shaped`). Its cells
are an island of active cells with at most 48 cells and spans of at most twelve,
and the flags the stage reads are those cells.
-/
namespace Sp11Touch
open CInt Region

/-- The box and the sums of a contact. -/
structure SameBox (a b : Contact) : Prop where
  pixels : a.pixels = b.pixels
  peak : a.peakValue = b.peakValue
  left : a.minCol = b.minCol
  right : a.maxCol = b.maxCol
  top : a.minRow = b.minRow
  bottom : a.maxRow = b.maxRow

theorem SameBox.refl (contact : Contact) : SameBox contact contact := ⟨rfl, rfl, rfl, rfl, rfl, rfl⟩

theorem SameBox.trans {a b c : Contact} (h : SameBox a b) (h' : SameBox b c) : SameBox a c :=
  ⟨h.pixels.trans h'.pixels, h.peak.trans h'.peak, h.left.trans h'.left, h.right.trans h'.right,
    h.top.trans h'.top,
    h.bottom.trans h'.bottom⟩

theorem SameBox.of_place {a b : Contact} (h : a.place = b.place) : SameBox a b := by
  have hfield : ∀ f : Contact → Nat, (∀ c : Contact, f c.place = f c) → f a = f b := by
    intro f hf
    rw [← hf a, h, hf]
  exact ⟨hfield Contact.pixels fun _ => rfl, hfield Contact.peakValue fun _ => rfl,
    hfield Contact.minCol fun _ => rfl,
    hfield Contact.maxCol fun _ => rfl, hfield Contact.minRow fun _ => rfl,
      hfield Contact.maxRow fun _ => rfl⟩

theorem locateContact_box (contact : Contact) : SameBox (locateContact contact) contact := by
  have hany : ∀ x y sensorX sensorY : Nat, SameBox { contact with
      x := x, y := y, outputX := x, outputY := y, sensorXQ24 := sensorX, sensorYQ24 :=
        sensorY } contact :=
    fun _ _ _ _ => ⟨rfl, rfl, rfl, rfl, rfl, rfl⟩
  exact hany _ _ _ _

theorem centredContact_box (prof : Profile) (ts : Heat) (contact : Contact) :
    SameBox (centredContact prof ts contact) contact := by
  have hany : ∀ x y : Nat, SameBox { contact with outputX := x, outputY := y } contact :=
    fun _ _ => ⟨rfl, rfl, rfl, rfl, rfl, rfl⟩
  unfold centredContact
  split
  · rw [phase76OutputCentroid_eq]
    split
    · exact SameBox.refl contact
    · exact hany _ _
  · exact SameBox.refl contact

theorem peakedContact_place (prof : Profile) (ts : Heat) (contact : Contact) :
    (peakedContact prof ts contact).place = (centredContact prof ts contact).place :=
  localPeakCounts_place ts _

/-- The flags are those of a component of `pixels` cells with the given peak byte. -/
structure FlagsOf (ts : Heat) (pixels peakValue : Nat) : Prop where
  lt : ∀ cell, ts.heatComponent cell = true → cell < heatSamples
  pixels : {cell | ts.heatComponent cell = true}.ncard = pixels
  peak : ∃ cell, ts.heatComponent cell = true ∧ ts.value cell = peakValue

theorem FlagsOf.finite {ts : Heat} {pixels peakValue : Nat} (h : FlagsOf ts pixels peakValue) :
    {cell | ts.heatComponent cell = true}.Finite :=
  (Set.finite_lt_nat heatSamples).subset fun cell hc => h.lt cell hc

/-- A component of the frame that passes the gates: the turn that fills it hands it to `g6ts_store_contact`. -/
structure Accepted (prof : Profile) (ts : Heat) where
  start : Nat
  lt : start < heatSamples
  comp : Flood × Contact
  fills : startComponent (findBefore prof ts start) start = some comp
  passes : Passes ts (queuedCells comp)

/-- An island whose cells pass the gates is an accepted component. -/
theorem exists_accepted {prof : Profile} {ts : Heat} {T : Set Nat}
    (hT : IsIsland heatAdjacent (Flood.OkCells heatSamples ts.heatActive) T)
    (hp : ∀ cells : List Nat, cells.Nodup → {cell | cell ∈ cells} = T → Passes ts cells) :
    ∃ a : Accepted prof ts, {cell | cell ∈ queuedCells a.comp} = T := by
  obtain ⟨c, hc, hcells⟩ := ((findContacts_exact prof ts).islands T).mpr hT
  obtain ⟨k, hk, hsome⟩ := mem_components hc
  exact ⟨⟨k, hk, c, hsome, hp _ ((findContacts_exact prof ts).queue c hc).1 hcells⟩, hcells⟩

/-- A frame without noise rows whose active cells are one connected list, neither too few nor too many. -/
theorem exists_accepted_cells (prof : Profile) {ts : Heat} {start : Nat} {route : List Nat}
    (hactive : Flood.OkCells heatSamples ts.heatActive = {cell | cell ∈ start :: route})
    (hquiet : ts.buf.nsrValid = false) (hroute : Grown heatAdjacent [start] route)
      (hnodup : (start :: route).Nodup)
    (hmin : heatMinPixels ≤ (start :: route).length)
      (hmax : (start :: route).length ≤ heatPalmPixels)
    (hspan : ∀ a ∈ start :: route, ∀ b ∈ start :: route,
      a / heatCols < b / heatCols + heatPalmSpan ∧ a % heatCols < b % heatCols + heatPalmSpan) :
    ∃ a : Accepted prof ts, {cell | cell ∈ queuedCells a.comp} =
      {cell | cell ∈ start :: route} := by
  have hisland : IsIsland heatAdjacent (Flood.OkCells heatSamples ts.heatActive)
    {cell | cell ∈ start :: route} := by
    rw [hactive]
    exact hroute.isIsland heatAdjacent_symm (fun _ hc => hc) fun _ _ _ _ hc => hc
  refine exists_accepted hisland fun cells hnd hcells => ?_
  have hmem : ∀ cell, cell ∈ cells ↔ cell ∈ start :: route := fun cell => Set.ext_iff.mp hcells cell
  have hlength : cells.length = (start :: route).length :=
    ((List.perm_ext_iff_of_nodup hnd hnodup).mpr hmem).length_eq
  refine ⟨fun hweak => ?_, fun hvalid => ?_, hlength ▸ hmax, fun a ha b hb => ?_⟩
  · exact absurd (hlength ▸ hweak.1) (Nat.not_lt.mpr hmin)
  · rw [hquiet] at hvalid
    cases hvalid
  · exact hspan a ((hmem a).mp ha) b ((hmem b).mp hb)

namespace Accepted
variable {prof : Profile} {ts : Heat} (a : Accepted prof ts)

def cells : List Nat := queuedCells a.comp

/-- The sums of the component. -/
def contact : Contact := a.comp.2

/-- What the shape stage reads: the grid, and the flags of the component. -/
def heat : Heat := shapedHeat (findBefore prof ts a.start).ts a.comp.1

/-- The contact handed to `g6ts_store_contact`. -/
def shaped : Contact := (shapeContact prof a.heat (locateContact a.contact)).2

theorem sweeping : Sweeping prof ts a.start := findBefore_sweeping prof ts (Nat.le_of_lt a.lt)

theorem fill : FillExact (findBefore prof ts a.start) a.start a.comp :=
  (a.sweeping.turn a.lt a.fills).1

theorem exact : Exact ts a.cells a.contact := a.fill.exact.of_buf a.sweeping.buf

theorem buf : a.heat.buf = ts.buf := a.sweeping.buf

theorem value : a.heat.value = ts.value := value_of_buf a.buf

theorem heatActive : a.heat.heatActive = ts.heatActive := heatActive_of_buf a.buf

theorem flags {cell : Nat} : a.heat.heatComponent cell = true ↔ cell ∈ a.cells := componentFlags_iff

theorem island : IsIsland heatAdjacent (Flood.OkCells heatSamples ts.heatActive)
    {cell | cell ∈ a.cells} := by
  have hok : a.start ∈ Flood.OkCells heatSamples (findBefore prof ts a.start).ts.heatActive :=
    ⟨a.lt, (startComponent_exact a.lt a.sweeping.closed a.fills).1⟩
  have hcells : {cell | cell ∈ a.cells} = _ := a.fill.filled.cells
  rw [hcells, ← heatActive_of_buf a.sweeping.buf]
  exact island_isIsland heatAdjacent_symm hok

theorem nodup : a.cells.Nodup := a.fill.filled.good.entries_nodup

theorem cell_lt {cell : Nat} (h : cell ∈ a.cells) : cell < heatSamples := (a.island.1.subset h).1

theorem active {cell : Nat} (h : cell ∈ a.cells) : ts.heatActive cell = true :=
  (a.island.1.subset h).2

theorem pixels_le : a.contact.pixels ≤ heatPalmPixels := a.exact.pixels ▸ a.passes.pixels

/-- The box of an accepted component spans at most twelve rows and columns. -/
theorem span : a.contact.maxRow < a.contact.minRow + heatPalmSpan ∧
    a.contact.maxCol < a.contact.minCol + heatPalmSpan := by
  obtain ⟨top, htop, htopeq⟩ := a.exact.box.top.1
  obtain ⟨bottom, hbottom, hbottomeq⟩ := a.exact.box.bottom.1
  obtain ⟨left, hleft, hlefteq⟩ := a.exact.box.left.1
  obtain ⟨right, hright, hrighteq⟩ := a.exact.box.right.1
  rw [← htopeq, ← hbottomeq, ← hlefteq, ← hrighteq]
  exact ⟨(a.passes.span bottom hbottom top htop).1, (a.passes.span right hright left hleft).2⟩

theorem flagsOf : FlagsOf a.heat a.contact.pixels a.contact.peakValue := by
  refine ⟨fun cell hc => a.cell_lt (a.flags.mp hc), ?_, ?_⟩
  · have hset : {cell | a.heat.heatComponent cell = true} = {cell | cell ∈ a.cells} := by
      ext cell
      exact a.flags
    rw [hset, Flood.cells_ncard a.nodup, a.exact.pixels]
  · obtain ⟨cell, hc, heq⟩ := a.exact.peak.1
    exact ⟨cell, a.flags.mpr hc, by rw [a.value, heq]⟩

/-- The passes run on the component's own sums and box. -/
theorem peaked : SameBox (peakedContact prof a.heat (locateContact a.contact)) a.contact :=
  (SameBox.of_place (peakedContact_place prof a.heat _)).trans
    ((centredContact_box prof a.heat _).trans (locateContact_box a.contact))

theorem area : (a.contact.maxCol - a.contact.minCol + 1) *
    (a.contact.maxRow - a.contact.minRow + 1) < 0x4e3 := by
  obtain ⟨hrows, hcols⟩ := a.span
  simp only [heatPalmSpan] at hrows hcols
  have h1 : a.contact.maxCol - a.contact.minCol + 1 ≤ 12 := by omega
  have h2 : a.contact.maxRow - a.contact.minRow + 1 ≤ 12 := by omega
  exact Nat.lt_of_le_of_lt (Nat.mul_le_mul h1 h2) (by decide)

/-- In a frame without noise rows, a copy of the component that spans no more is accepted. -/
theorem exists_copy {image : Heat} {S : Set Nat} {f : Nat → Nat}
    (hS : IsIsland heatAdjacent S {cell | cell ∈ a.cells})
    (hcopy : Copies heatAdjacent heatAdjacent f S (Flood.OkCells heatSamples image.heatActive))
    (hvalue : ∀ cell ∈ a.cells, image.value (f cell) = ts.value cell)
      (hquiet : image.buf.nsrValid = false)
    (hspan : ∀ x ∈ a.cells, ∀ y ∈ a.cells,
      f x / heatCols < f y / heatCols + heatPalmSpan ∧
      f x % heatCols < f y % heatCols + heatPalmSpan) :
    ∃ b : Accepted prof image, {cell | cell ∈ b.cells} = f '' {cell | cell ∈ a.cells} := by
  have hisland := (hcopy.isIsland_iff heatAdjacent_symm heatAdjacent_symm).mpr ⟨_, hS, rfl⟩
  refine exists_accepted hisland fun cells hnodup hcells => ?_
  have hmem : ∀ {cell}, cell ∈ cells ↔ cell ∈ f '' {cell | cell ∈ a.cells} :=
    fun {cell} => Set.ext_iff.mp hcells cell
  have hlength : cells.length = a.cells.length := by
    rw [← Flood.cells_ncard hnodup, hcells, ← Flood.cells_ncard a.nodup]
    exact Set.InjOn.ncard_image (hcopy.inj.mono hS.1.subset)
  refine ⟨fun hweak => ?_, fun hvalid => ?_, ?_, fun x hx y hy => ?_⟩
  · refine a.passes.strong ⟨hlength ▸ hweak.1, fun cell hcell => ?_⟩
    have hweakCell := hweak.2 _ (hmem.mpr ⟨cell, hcell, rfl⟩)
    rwa [hvalue cell hcell] at hweakCell
  · rw [hquiet] at hvalid
    cases hvalid
  · rw [hlength]
    exact a.passes.pixels
  · obtain ⟨u, hu, rfl⟩ := hmem.mp hx
    obtain ⟨v, hv, rfl⟩ := hmem.mp hy
    exact hspan u hu v hv

end Accepted
end Sp11Touch
