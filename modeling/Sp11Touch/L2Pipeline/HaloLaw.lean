import Sp11Touch.L2Pipeline.HaloTile
/-!
# The halo of every accepted component

On an accepted component with spans of at most ten the walk stays in its tile
and the stored feature is the sum over the two rings of the rule. The rule reads
distances only, so a mirror of the grid keeps it (`ringSum_mirror`), and the
mirrored frame accepts the image of every component (`GridMirror.accepted`):
`halo_exact` states both for every frame.
-/
namespace Sp11Touch
open CInt Region

/-! ## Mirrors -/

def rowGap (a b : Nat) : Nat := ((a / heatCols : Nat) - (b / heatCols : Nat) : Int).natAbs
def colGap (a b : Nat) : Nat := ((a % heatCols : Nat) - (b % heatCols : Nat) : Int).natAbs

/-- An involution of the grid that keeps row and column distances. -/
structure GridMirror where
  map : Nat → Nat
  lt : ∀ a, a < heatSamples → map a < heatSamples
  involutive : ∀ a, a < heatSamples → map (map a) = a
  rows : ∀ a b, a < heatSamples → b < heatSamples → rowGap (map a) (map b) = rowGap a b
  cols : ∀ a b, a < heatSamples → b < heatSamples → colGap (map a) (map b) = colGap a b

/-- The cell in the mirrored column. -/
def mirroredColumn (a : Nat) : Nat := a / heatCols * heatCols + (heatCols - 1 - a % heatCols)

theorem mirroredColumn_lt (a : Nat) (ha : a < heatSamples) : mirroredColumn a < heatSamples := by
  simp only [mirroredColumn, heatSamples, heatRows, heatCols] at *
  omega

theorem mirroredColumn_mirroredColumn (a : Nat) (_ : a < heatSamples) :
    mirroredColumn (mirroredColumn a) = a := by
  simp only [mirroredColumn, heatCols] at *
  omega

theorem rowGap_mirroredColumn (a b : Nat) (_ : a < heatSamples) (_ : b < heatSamples) :
    rowGap (mirroredColumn a) (mirroredColumn b) = rowGap a b := by
  simp only [mirroredColumn, rowGap, heatCols] at *
  omega

theorem colGap_mirroredColumn (a b : Nat) (_ : a < heatSamples) (_ : b < heatSamples) :
    colGap (mirroredColumn a) (mirroredColumn b) = colGap a b := by
  simp only [mirroredColumn, colGap, heatCols] at *
  omega

/-- Left and right exchanged. -/
def mirrorColumns : GridMirror where
  map := mirroredColumn
  lt := mirroredColumn_lt
  involutive := mirroredColumn_mirroredColumn
  rows := rowGap_mirroredColumn
  cols := colGap_mirroredColumn

/-- The cell in the mirrored row. -/
def mirroredRow (a : Nat) : Nat := (heatRows - 1 - a / heatCols) * heatCols + a % heatCols

theorem mirroredRow_lt (a : Nat) (ha : a < heatSamples) : mirroredRow a < heatSamples := by
  simp only [mirroredRow, heatSamples, heatRows, heatCols] at *
  omega

theorem mirroredRow_mirroredRow (a : Nat) (ha : a < heatSamples) :
    mirroredRow (mirroredRow a) = a := by
  simp only [mirroredRow, heatSamples, heatRows, heatCols] at *
  omega

theorem rowGap_mirroredRow (a b : Nat) (ha : a < heatSamples) (hb : b < heatSamples) :
    rowGap (mirroredRow a) (mirroredRow b) = rowGap a b := by
  simp only [mirroredRow, rowGap, heatSamples, heatRows, heatCols] at *
  omega

theorem colGap_mirroredRow (a b : Nat) (ha : a < heatSamples) (hb : b < heatSamples) :
    colGap (mirroredRow a) (mirroredRow b) = colGap a b := by
  simp only [mirroredRow, colGap, heatSamples, heatRows, heatCols] at *
  omega

/-- Top and bottom exchanged. -/
def mirrorRows : GridMirror where
  map := mirroredRow
  lt := mirroredRow_lt
  involutive := mirroredRow_mirroredRow
  rows := rowGap_mirroredRow
  cols := colGap_mirroredRow

/-- The grid as it is. -/
def mirrorNone : GridMirror where
  map a := a
  lt _ ha := ha
  involutive _ _ := rfl
  rows _ _ _ _ := rfl
  cols _ _ _ _ := rfl

/-- `ts'` is the mirror image of `ts`. -/
structure Mirrored (g : GridMirror) (ts ts' : Heat) : Prop where
  value : ∀ a, a < heatSamples → ts'.value (g.map a) = ts.value a
  flags : ∀ a, a < heatSamples → ts'.heatComponent (g.map a) = ts.heatComponent a

variable {g : GridMirror} {ts ts' : Heat}

theorem GridMirror.adjacent (g : GridMirror) {a b : Nat} (h : heatAdjacent a b) :
    heatAdjacent (g.map a) (g.map b) := by
  obtain ⟨ha, hb, hd⟩ := h
  refine ⟨g.lt a ha, g.lt b hb, ?_⟩
  show rowGap (g.map a) (g.map b) + colGap (g.map a) (g.map b) = 1
  rw [g.rows a b ha hb, g.cols a b ha hb]
  exact hd

theorem Mirrored.symm (h : Mirrored g ts ts') : Mirrored g ts' ts := by
  refine ⟨fun a ha => ?_, fun a ha => ?_⟩
  · rw [← h.value (g.map a) (g.lt a ha), g.involutive a ha]
  · rw [← h.flags (g.map a) (g.lt a ha), g.involutive a ha]

theorem Mirrored.background (h : Mirrored g ts ts') {a : Nat} (ha : a < heatSamples)
    (hb : Background ts a) :
    Background ts' (g.map a) := by
  have hvalue := h.value a ha
  refine ⟨(h.flags a ha).trans hb.1, ?_⟩
  have hactive := hb.2
  unfold Heat.heatActive at hactive ⊢
  rw [hvalue]
  exact hactive

theorem Mirrored.joins (h : Mirrored g ts ts') {quarter : Int} {d n a : Nat} (hn : n < heatSamples)
    (ha : a < heatSamples)
    (hj : Joins ts quarter d n a) : Joins ts' quarter d (g.map n) (g.map a) := by
  have h1 := h.value n hn
  have h2 := h.value a ha
  cases d with
  | zero =>
    simp only [Joins] at hj ⊢
    rw [h2]
    exact hj
  | succ d =>
    simp only [Joins, Feeds] at hj ⊢
    rw [h1, h2]
    exact hj

/-- A mirror takes each depth to the same depth. -/
theorem Mirrored.depth (h : Mirrored g ts ts') {quarter : Int} :
    ∀ {d a : Nat}, a < heatSamples → a ∈ Depth ts quarter d → g.map a ∈ Depth ts' quarter d := by
  intro d
  induction d with
  | zero =>
    intro a ha hin
    exact (h.flags a ha).trans hin
  | succ d ih =>
    intro a ha hin
    rcases hin with hold | hnew
    · exact Or.inl (ih ha hold)
    · obtain ⟨hb, n, hn, hadj, hjoin⟩ := hnew
      exact Or.inr ⟨h.background ha hb, g.map n, ih hadj.1 hn, g.adjacent hadj,
        h.joins hadj.1 ha hjoin⟩

theorem Mirrored.depth_iff (h : Mirrored g ts ts') {quarter : Int} {d a : Nat}
    (ha : a < heatSamples) :
    g.map a ∈ Depth ts' quarter d ↔ a ∈ Depth ts quarter d := by
  apply Iff.intro
  · intro hin
    have hback := h.symm.depth (g.lt a ha) hin
    rwa [g.involutive a ha] at hback
  · exact h.depth ha

theorem ringSum_mirror (h : Mirrored g ts ts') (quarter : Int) :
    ∑ cell ∈ ringCells ts' quarter, signalQ12 (ts'.value cell) = ∑ cell ∈
    ringCells ts quarter, signalQ12 (ts.value cell) := by
  have hmem : ∀ {ts ts' : Heat}, Mirrored g ts ts' →
    ∀ a ∈ ringCells ts quarter, g.map a ∈ ringCells ts' quarter := by
    intro ts ts' h a ha
    simp only [ringCells, Finset.mem_filter, Finset.mem_range] at ha ⊢
    exact ⟨g.lt a ha.1, (h.depth_iff ha.1).mpr ha.2.1,
      fun hin => ha.2.2 ((h.depth_iff ha.1).mp hin)⟩
  have hlt : ∀ {ts : Heat}, ∀ a ∈ ringCells ts quarter, a < heatSamples := by
    intro ts a ha
    simp only [ringCells, Finset.mem_filter, Finset.mem_range] at ha
    exact ha.1
  refine Finset.sum_bij' (fun a _ => g.map a) (fun a _ => g.map a) (hmem h.symm) (hmem h)
    (fun a ha => g.involutive a (hlt a ha))
    (fun a ha => g.involutive a (hlt a ha)) fun a ha => ?_
  rw [h.symm.value a (hlt a ha)]

/-! ## The stored feature -/

namespace Accepted
variable {prof : Profile} {ts : Heat} (a : Accepted prof ts)

/-- What the halo walk reads: the passes before it changed two scratch arrays. -/
def haloHeat : Heat := (secondaryFeatures a.heat
    (peakedContact prof a.heat (locateContact a.contact))).1

/-- The contact the halo walk reads. -/
def haloContact : Contact :=
  geometryFeatures a.haloHeat (secondaryFeatures a.heat
    (peakedContact prof a.heat (locateContact a.contact))).2

theorem shaped_nine : a.shaped.featuresQ12 9 = haloFeature a.haloHeat a.haloContact := by
  unfold shaped
  rw [shapeContact_eq]
  show (classifyContact prof (featuredContact prof a.heat (locateContact a.contact))).1.featuresQ12
    9 = _
  rw [classifyContact_features]
  simp only [featuredContact, setFeature, Function.update_self]
  rfl

theorem haloContact_box : SameBox a.haloContact a.contact := by
  have hplace : a.haloContact.place = (peakedContact prof a.heat (locateContact a.contact)).place :=
    (geometryFeatures_place _ _).trans (secondaryFeatures_place _ _)
  exact (SameBox.of_place hplace).trans a.peaked

theorem haloHeat_fields : a.haloHeat.value = a.heat.value ∧
    a.haloHeat.heatComponent = a.heat.heatComponent := by
  obtain ⟨w, q, h⟩ := secondaryFeatures_frame a.heat
    (peakedContact prof a.heat (locateContact a.contact))
  unfold haloHeat
  rw [h]
  exact ⟨rfl, rfl⟩

theorem haloHeat_flagged : Flagged a.haloHeat a.haloContact := by
  have hbox := a.haloContact_box
  have hflags : ∀ cell, a.haloHeat.heatComponent cell = true → cell ∈ a.cells := by
    intro cell hc
    rw [a.haloHeat_fields.2] at hc
    exact a.flags.mp hc
  refine ⟨fun cell hc => a.cell_lt (hflags cell hc), fun cell hc => ?_⟩
  have hin := hflags cell hc
  rw [hbox.left, hbox.right, hbox.top, hbox.bottom]
  exact ⟨a.exact.box.left.2 ⟨cell, hin, rfl⟩, a.exact.box.right.2 ⟨cell, hin, rfl⟩,
    a.exact.box.top.2 ⟨cell, hin, rfl⟩,
    a.exact.box.bottom.2 ⟨cell, hin, rfl⟩⟩

theorem peak_pos : 0 < signalQ12 a.contact.peakValue := by
  obtain ⟨cell, hc, heq⟩ := a.exact.peak.1
  rw [← heq]
  exact signalQ12_active (of_decide_eq_true (a.active hc))

/-- The sum of the signals of the two rings. -/
noncomputable def ringSum : Int := ∑ cell ∈ ringCells a.heat (quarterPeak a.contact),
  signalQ12 (ts.value cell)

theorem haloHeat_sum : ∑ cell ∈ ringCells a.haloHeat (quarterPeak a.contact), signalQ12
    (a.haloHeat.value cell) = a.ringSum := by
  have hsame : Mirrored mirrorNone a.heat a.haloHeat :=
    ⟨fun cell _ => congrFun a.haloHeat_fields.1 cell,
      fun cell _ => congrFun a.haloHeat_fields.2 cell⟩
  rw [ringSum_mirror hsame, ringSum, a.value]

theorem haloContact_span (h : SmallSpan a.contact) : SmallSpan a.haloContact := by
  have hbox := a.haloContact_box
  refine ⟨?_, ?_⟩
  · rw [hbox.left, hbox.right]; exact h.cols
  · rw [hbox.top, hbox.bottom]; exact h.rows

theorem quarter_eq : quarterPeak a.haloContact = quarterPeak a.contact := by
  unfold quarterPeak
  rw [a.haloContact_box.peak]

end Accepted

/-- What the halo of an accepted component says. -/
structure HaloExact {prof : Profile} {ts : Heat} (a : Accepted prof ts) : Prop where
  inside : SmallSpan a.contact → (tileWalk a.haloHeat a.haloContact
    (quarterPeak a.contact)).1.inside = true
  walk : SmallSpan a.contact → a.shaped.featuresQ12 9 =
    s32 (((tileWalk a.haloHeat a.haloContact (quarterPeak a.contact)).2 * oneQ12).tdiv
    (signalQ12 a.contact.peakValue))
  rule : SmallSpan a.contact → (tileWalk a.haloHeat a.haloContact (quarterPeak a.contact)).2 =
    a.ringSum
  large : ¬ SmallSpan a.contact → a.shaped.featuresQ12 9 = haloUnavailableQ12

theorem haloExact {prof : Profile} {ts : Heat} (a : Accepted prof ts) : HaloExact a := by
  have hbox := a.haloContact_box
  have htile : SmallSpan a.contact → _ := fun hs => tileWalk_inside a.haloHeat
    (quarterPeak a.contact) (a.haloContact_span hs)
  refine ⟨fun hs => (htile hs).1, fun hs => ?_, fun hs => ?_, fun hno => ?_⟩
  · have hspan := a.haloContact_span hs
    rw [a.shaped_nine, haloFeature_small _ hspan.cols hspan.rows (hbox.peak ▸ a.peak_pos),
      a.quarter_eq, hbox.peak,
      (htile hs).2]
  · rw [(htile hs).2, haloWalk_rule a.haloHeat_flagged, a.haloHeat_sum]
  · have hspan : a.haloContact.maxCol - a.haloContact.minCol + 1 ≥ 11 ∨
      a.haloContact.maxRow - a.haloContact.minRow + 1 ≥ 11 := by
      rw [hbox.left, hbox.right, hbox.top, hbox.bottom]
      by_contra hnot
      exact hno ⟨by omega, by omega⟩
    rw [a.shaped_nine]
    unfold haloFeature
    simp only
    rw [if_pos (by omega)]

/-! ## Mirrored frames -/

/-- An accepted component of a grid and its image in the mirrored grid. -/
structure MirroredPair (prof : Profile) where
  mirror : GridMirror
  grid : Heat
  image : Heat
  a : Accepted prof grid
  b : Accepted prof image
  value : ∀ cell, cell < heatSamples → image.value (mirror.map cell) = grid.value cell
  cells : ∀ cell, cell < heatSamples → (mirror.map cell ∈ b.cells ↔ cell ∈ a.cells)

namespace MirroredPair
variable {prof : Profile} (m : MirroredPair prof)

theorem heats : Mirrored m.mirror m.a.heat m.b.heat := by
  refine ⟨fun cell hc => ?_, fun cell hc => ?_⟩
  · rw [m.a.value, m.b.value]
    exact m.value cell hc
  · rw [Bool.eq_iff_iff, m.a.flags, m.b.flags]
    exact m.cells cell hc

/-- The pair the other way round. -/
def swap : MirroredPair prof where
  mirror := m.mirror
  grid := m.image
  image := m.grid
  a := m.b
  b := m.a
  value cell hc := by
    rw [← m.value _ (m.mirror.lt cell hc), m.mirror.involutive cell hc]
  cells cell hc := by
    rw [← m.cells _ (m.mirror.lt cell hc), m.mirror.involutive cell hc]

theorem image_mem {cell : Nat} (h : cell ∈ m.a.cells) : m.mirror.map cell ∈ m.b.cells :=
  (m.cells cell (m.a.cell_lt h)).mpr h

/-- The image spans at least as much and has no weaker peak. -/
theorem box_le : m.a.contact.maxRow + m.b.contact.minRow ≤ m.b.contact.maxRow + m.a.contact.minRow ∧
    m.a.contact.maxCol + m.b.contact.minCol ≤ m.b.contact.maxCol + m.a.contact.minCol ∧
    m.b.contact.peakValue ≤ m.a.contact.peakValue := by
  obtain ⟨top, htop, htopeq⟩ := m.a.exact.box.top.1
  obtain ⟨bottom, hbottom, hbottomeq⟩ := m.a.exact.box.bottom.1
  obtain ⟨left, hleft, hlefteq⟩ := m.a.exact.box.left.1
  obtain ⟨right, hright, hrighteq⟩ := m.a.exact.box.right.1
  obtain ⟨peak, hpeak, hpeakeq⟩ := m.a.exact.peak.1
  have hrows := m.mirror.rows bottom top (m.a.cell_lt hbottom) (m.a.cell_lt htop)
  have hcols := m.mirror.cols right left (m.a.cell_lt hright) (m.a.cell_lt hleft)
  have h1 := m.b.exact.box.bottom.2 ⟨_, m.image_mem hbottom, rfl⟩
  have h2 := m.b.exact.box.top.2 ⟨_, m.image_mem hbottom, rfl⟩
  have h3 := m.b.exact.box.bottom.2 ⟨_, m.image_mem htop, rfl⟩
  have h4 := m.b.exact.box.top.2 ⟨_, m.image_mem htop, rfl⟩
  have h5 := m.b.exact.box.right.2 ⟨_, m.image_mem hright, rfl⟩
  have h6 := m.b.exact.box.left.2 ⟨_, m.image_mem hright, rfl⟩
  have h7 := m.b.exact.box.right.2 ⟨_, m.image_mem hleft, rfl⟩
  have h8 := m.b.exact.box.left.2 ⟨_, m.image_mem hleft, rfl⟩
  unfold rowGap at hrows
  unfold colGap at hcols
  refine ⟨by omega, by omega, ?_⟩
  have hle := m.b.exact.peak.2 ⟨_, m.image_mem hpeak, rfl⟩
  rw [m.value peak (m.a.cell_lt hpeak), hpeakeq] at hle
  exact hle

theorem halo_eq : m.b.shaped.featuresQ12 9 = m.a.shaped.featuresQ12 9 := by
  obtain ⟨hrow, hcol, hpeak⟩ := m.box_le
  have hswap : m.b.contact.maxRow + m.a.contact.minRow ≤ m.a.contact.maxRow + m.b.contact.minRow ∧
    m.b.contact.maxCol + m.a.contact.minCol ≤ m.a.contact.maxCol + m.b.contact.minCol ∧
    m.a.contact.peakValue ≤ m.b.contact.peakValue := m.swap.box_le
  have ha := haloExact m.a
  have hb := haloExact m.b
  by_cases hs : SmallSpan m.a.contact
  · have hsb : SmallSpan m.b.contact := ⟨by have := hs.cols; omega, by have := hs.rows; omega⟩
    have hpeakeq : m.b.contact.peakValue = m.a.contact.peakValue := by omega
    have hsum : m.b.ringSum = m.a.ringSum := by
      unfold Accepted.ringSum quarterPeak
      rw [hpeakeq, ← m.a.value, ← m.b.value]
      exact ringSum_mirror m.heats _
    rw [ha.walk hs, ha.rule hs, hb.walk hsb, hb.rule hsb, hsum, hpeakeq]
  · have hsb : ¬ SmallSpan m.b.contact := fun h =>
      hs ⟨by have := h.cols; omega, by have := h.rows; omega⟩
    rw [ha.large hs, hb.large hsb]

end MirroredPair

/-- The grid seen in the mirror, with no noise record. -/
def GridMirror.image (g : GridMirror) (ts : Heat) : Heat :=
  { Heat.zero with buf.heatmap := fun cell => ts.buf.heatmap (g.map cell) }

namespace GridMirror
variable {prof : Profile} (g : GridMirror) {ts : Heat}

theorem image_value {cell : Nat} (hc : cell < heatSamples) :
    (g.image ts).value (g.map cell) = ts.value cell := by
  show (ts.buf.heatmap (g.map (g.map cell))).toNat = _
  rw [g.involutive cell hc]
  rfl

theorem image_active {cell : Nat} (hc : cell < heatSamples) :
    (g.image ts).heatActive (g.map cell) = ts.heatActive cell := by
  unfold Heat.heatActive
  rw [g.image_value hc]

/-- The active cells are mirrored with their neighbours. -/
theorem copies : Copies heatAdjacent heatAdjacent g.map (Flood.OkCells heatSamples ts.heatActive)
    (Flood.OkCells heatSamples (g.image ts).heatActive) := by
  refine ⟨fun x hx y hy heq => ?_, ?_, fun x hx y hy => ⟨fun hadj => ?_, g.adjacent⟩⟩
  · rw [← g.involutive x hx.1, heq, g.involutive y hy.1]
  · ext cell
    apply Iff.intro
    · intro hin
      obtain ⟨c, hc, rfl⟩ := hin
      exact ⟨g.lt c hc.1, (g.image_active hc.1).trans hc.2⟩
    · intro hok
      have hback := g.involutive cell hok.1
      refine ⟨g.map cell, ⟨g.lt cell hok.1, ?_⟩, hback⟩
      rw [← g.image_active (g.lt cell hok.1), hback]
      exact hok.2
  · have hback := g.adjacent hadj
    rwa [g.involutive x hx.1, g.involutive y hy.1] at hback

/-- The mirrored frame accepts the image of an accepted component. -/
theorem accepted (a : Accepted prof ts) :
    ∃ b : Accepted prof (g.image ts), ∀ cell, cell < heatSamples →
    (g.map cell ∈ b.cells ↔ cell ∈ a.cells) := by
  obtain ⟨b, hb⟩ := a.exists_copy a.island g.copies (fun cell hc => g.image_value (a.cell_lt hc))
    rfl fun x hx y hy => by
    have hspan := a.passes.span x hx y hy
    have hback := a.passes.span y hy x hx
    have hrows := g.rows x y (a.cell_lt hx) (a.cell_lt hy)
    have hcols := g.cols x y (a.cell_lt hx) (a.cell_lt hy)
    unfold rowGap at hrows
    unfold colGap at hcols
    omega
  refine ⟨b, fun cell hc => ⟨fun hin => ?_, fun hin => (Set.ext_iff.mp hb _).mpr ⟨cell, hin, rfl⟩⟩⟩
  obtain ⟨c, hin', heq⟩ := (Set.ext_iff.mp hb _).mp hin
  rw [← g.involutive cell hc, ← heq, g.involutive c (a.cell_lt hin')]
  exact hin'

end GridMirror

theorem halo_exact (prof : Profile) :
    (∀ (ts : Heat) (a : Accepted prof ts), HaloExact a) ∧
      (∀ m : MirroredPair prof, m.b.shaped.featuresQ12 9 = m.a.shaped.featuresQ12 9) ∧
      ∀ (g : GridMirror) (ts : Heat) (a : Accepted prof ts), ∃ b : Accepted prof (g.image ts),
        (∀ cell, cell < heatSamples → (g.map cell ∈ b.cells ↔ cell ∈ a.cells)) ∧
          b.shaped.featuresQ12 9 = a.shaped.featuresQ12 9 := by
  refine ⟨fun _ a => haloExact a, fun m => m.halo_eq, fun g ts a => ?_⟩
  obtain ⟨b, hb⟩ := g.accepted a
  let m : MirroredPair prof := ⟨g, ts, g.image ts, a, b, fun _ hc => g.image_value hc, hb⟩
  exact ⟨b, hb, m.halo_eq⟩

/-! ## A fingertip at the left edge -/

/-- Ten active cells between rows 0 and 3, and weaker ones around them. -/
def fingertipRows : List (List Nat) :=
  [[150, 140, 173],
   [100, 96, 144, 173],
   [90, 110, 150, 176],
   [140, 158, 174],
   [175, 176]]

def fingertip : Heat :=
  { Heat.zero with
    buf.heatmap := fun cell => UInt8.ofNat ((fingertipRows.getD (cell / heatCols) []).getD
      (cell % heatCols) heatSignalZero) }

/-- Its active cells, each next to one before it. -/
def fingertipRoute : List Nat := [1, 68, 69, 70, 136, 137, 138, 204, 205]

theorem fingertip_active : Flood.OkCells heatSamples fingertip.heatActive =
    {cell | cell ∈ 0 :: fingertipRoute} := by
  have hcells : ∀ row, row < heatRows → ∀ col, col < heatCols →
      (fingertip.heatActive (row * heatCols + col) = true ↔
      row * heatCols + col ∈ 0 :: fingertipRoute) := by
    decide +kernel
  have hcell : ∀ cell, cell < heatSamples → (fingertip.heatActive cell = true ↔
    cell ∈ 0 :: fingertipRoute) := by
    intro cell hc
    rw [← Nat.div_add_mod' cell heatCols]
    exact hcells _ ((Nat.div_lt_iff_lt_mul (by decide)).mpr hc) _ (Nat.mod_lt _ (by decide))
  have hlt : ∀ cell ∈ 0 :: fingertipRoute, cell < heatSamples := by decide
  ext cell
  exact ⟨fun hok => (hcell cell hok.1).mp hok.2,
    fun hc => ⟨hlt cell hc, (hcell cell (hlt cell hc)).mpr hc⟩⟩

theorem fingertip_accepted (prof : Profile) :
    ∃ a : Accepted prof fingertip, {cell | cell ∈ a.cells} =
    {cell | cell ∈ 0 :: fingertipRoute} := by
  have hcorner : ∀ cell ∈ 0 :: fingertipRoute, cell / heatCols < 4 ∧
    cell % heatCols < 3 := by decide
  exact exists_accepted_cells prof fingertip_active rfl (by decide +kernel)
    (by decide) (by decide) (by decide)
    fun x hx y _ => ⟨Nat.lt_add_left _ (Nat.lt_trans (hcorner x hx).1 (by decide)),
      Nat.lt_add_left _ (Nat.lt_trans (hcorner x hx).2 (by decide))⟩

namespace Fingertip
variable {prof : Profile} {a : Accepted prof fingertip}
  (h : {cell | cell ∈ a.cells} = {cell | cell ∈ 0 :: fingertipRoute})
include h

theorem mem {cell : Nat} : cell ∈ a.cells ↔ cell ∈ 0 :: fingertipRoute := Set.ext_iff.mp h cell

theorem peak : a.contact.peakValue = 90 := by
  have hleast : ∀ cell ∈ 0 :: fingertipRoute, 90 ≤ fingertip.value cell := by decide +kernel
  refine a.exact.peak.unique ⟨⟨136, (mem h).mpr (by decide), by decide +kernel⟩, fun v hv => ?_⟩
  obtain ⟨cell, hc, rfl⟩ := hv
  exact hleast cell ((mem h).mp hc)

theorem smallSpan : SmallSpan a.contact := by
  have hcorner : ∀ cell ∈ 0 :: fingertipRoute, cell / heatCols < 4 ∧
    cell % heatCols < 3 := by decide
  obtain ⟨right, hright, hrighteq⟩ := a.exact.box.right.1
  obtain ⟨bottom, hbottom, hbottomeq⟩ := a.exact.box.bottom.1
  have h1 := (hcorner right ((mem h).mp hright)).2
  have h2 := (hcorner bottom ((mem h).mp hbottom)).1
  exact ⟨by omega, by omega⟩

/-- Cell 1 feeds cell 2. -/
theorem ring : 2 ∈ ringCells a.heat (quarterPeak a.contact) := by
  have hquarter : quarterPeak a.contact = 205 := by
    unfold quarterPeak
    rw [peak h]
    decide
  have hflag : a.heat.heatComponent 2 ≠ true :=
    fun hin => absurd ((mem h).mp (a.flags.mp hin)) (by decide)
  have hback : Background a.heat 2 := ⟨by simpa using hflag, by rw [a.heatActive]; decide⟩
  have hjoins : Joins a.heat 205 1 1 2 := by
    simp only [Joins, Feeds, a.value]
    decide
  have hweak : ¬ 205 < signalQ12 (a.heat.value 2) := by
    rw [a.value]
    decide
  simp only [ringCells, Finset.mem_filter, Finset.mem_range, hquarter]
  refine ⟨by decide, Or.inl (Or.inr ⟨hback, 1,
    Or.inl (a.flags.mpr ((mem h).mpr (by decide))), by decide, hjoins⟩), ?_⟩
  rintro (hin | hin)
  · exact hflag hin
  · obtain ⟨_, n, _, _, hstrong⟩ := hin
    exact hweak hstrong

end Fingertip

/-- Its image at the right edge has the same halo, which has a cell. -/
theorem halo_exact_fingertip : ∃ m : MirroredPair ⟨false, false⟩, m.mirror = mirrorColumns ∧
    m.grid = fingertip ∧
    SmallSpan m.a.contact ∧ (ringCells m.a.heat (quarterPeak m.a.contact)).Nonempty ∧
      m.b.shaped.featuresQ12 9 = m.a.shaped.featuresQ12 9 := by
  obtain ⟨a, ha⟩ := fingertip_accepted ⟨false, false⟩
  obtain ⟨b, hb⟩ := mirrorColumns.accepted a
  let m : MirroredPair ⟨false, false⟩ :=
    ⟨mirrorColumns, fingertip, mirrorColumns.image fingertip, a, b,
      fun _ hc => mirrorColumns.image_value hc, hb⟩
  exact ⟨m, rfl, rfl, Fingertip.smallSpan ha, ⟨2, Fingertip.ring ha⟩,
    (halo_exact ⟨false, false⟩).2.1 m⟩

end Sp11Touch
