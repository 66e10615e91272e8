import Sp11Touch.L2Pipeline.HaloRule
/-!
# The halo stays in its tile

The walk again, on the source's `state[16][16]`: each access goes through the
index `[row - origin_row][col - origin_col]`, and `inside` turns false at the
first one that leaves `0..15`. On a component whose spans are at most ten it
stays true, and the walk computes what `haloFeature` does (`tileWalk_inside`).
-/
namespace Sp11Touch
open CInt

structure HaloTile where
  state : HaloState
  inside : Bool

/-- Both indices of `state[row - origin_row][col - origin_col]` are in `0..15`. -/
def InTile (contact : Contact) (row col : Int) : Prop :=
  0 ≤ row - ((contact.minRow : Int) - 3) ∧ row - ((contact.minRow : Int) - 3) ≤ 15 ∧
    0 ≤ col - ((contact.minCol : Int) - 3) ∧ col - ((contact.minCol : Int) - 3) ≤ 15

instance (contact : Contact) (row col : Int) : Decidable (InTile contact row col) :=
  inferInstanceAs (Decidable (_ ∧ _))

/-- One access, a read or a write. -/
def HaloTile.access (contact : Contact) (row col : Int) (t : HaloTile) : HaloTile :=
  { t with inside := t.inside && decide (InTile contact row col) }

def HaloTile.put (contact : Contact) (row col : Int) (v : Nat) (t : HaloTile) : HaloTile :=
  { t.access contact row col with state := t.state.set row col v }

/-- mirrors phase55/modules/mshw0485_touch.c:1401-1413 -/
def tileInit (ts : Heat) (contact : Contact) : HaloTile :=
  forBox contact 3 (fun row col t =>
    match heatCell row col with
    | none => t
    | some index =>
      if ts.heatComponent index then t.put contact row col 0
      else if !ts.heatActive index then t.put contact row col 4 else t) ⟨fun _ _ => 5, true⟩

/-- The read of a neighbour's state, and the write of `mark` where `go` says so. -/
def tileNeighbour (contact : Contact) (row col : Int) (go : Nat → Bool) (mark : Nat) (t : HaloTile)
    (o : Int × Int) :
    HaloTile × Option Nat :=
  match heatCell (row + o.1) (col + o.2) with
  | none => (t, none)
  | some index =>
    let t := t.access contact (row + o.1) (col + o.2)
    if t.state (row + o.1) (col + o.2) ≠ 4 then (t, none)
    else if go index then (t.put contact (row + o.1) (col + o.2) mark, some index) else (t, none)

/-- mirrors phase55/modules/mshw0485_touch.c:1414-1431 -/
def tileStrong (ts : Heat) (contact : Contact) (quarter : Int) (t : HaloTile) : HaloTile :=
  forBox contact 0 (fun row col t =>
    let t := t.access contact row col
    if t.state row col ≠ 0 then t else
      haloOffsets.foldl (fun t o =>
        (tileNeighbour contact row col (fun index => decide (signalQ12 (ts.value index) > quarter))
          1 t o).1) t) t

/-- The test of the ring loop on one neighbour. -/
def ringGoes (ts : Heat) (quarter current : Int) (index : Nat) : Bool :=
  decide (signalQ12 (ts.value index) < quarter ∧
    current > signalQ12 (ts.value index) ∧ current > 0 ∧
    signalQ12 (ts.value index) * oneQ12 > current * haloRatioQ12)

/-- mirrors phase55/modules/mshw0485_touch.c:1432-1467 (one `radius`) -/
def tileRing (ts : Heat) (contact : Contact) (quarter : Int) (radius : Nat) (s : HaloTile × Int) :
    HaloTile × Int :=
  forBox contact radius (fun row col s =>
    let t := s.1.access contact row col
    if t.state row col > radius then (t, s.2) else
      match heatCell row col with
      | none => (t, s.2)
      | some index => haloOffsets.foldl (fun s o =>
          match tileNeighbour contact row col (ringGoes ts quarter (signalQ12 (ts.value index)))
            (radius + 1) s.1 o with
          | (t, none) => (t, s.2)
          | (t, some cell) => (t, s.2 + signalQ12 (ts.value cell))) (t, s.2)) s

/-- The three phases. -/
def tileWalk (ts : Heat) (contact : Contact) (quarter : Int) : HaloTile × Int :=
  tileRing ts contact quarter 2 (tileRing ts contact quarter 1
    (tileStrong ts contact quarter (tileInit ts contact), 0))

/-! ## The tile holds every access -/

/-- The tile has the walk's states, and no access left it. -/
structure Inside (t : HaloTile) (st : HaloState) : Prop where
  state : t.state = st
  inside : t.inside = true

/-- Spans of at most ten. -/
structure SmallSpan (contact : Contact) : Prop where
  cols : contact.maxCol - contact.minCol + 1 ≤ 10
  rows : contact.maxRow - contact.minRow + 1 ≤ 10

variable {contact : Contact} {t : HaloTile} {st : HaloState}

theorem InBox.inTile {r cell : Nat} {row col : Int} (hs : SmallSpan contact) (hr : r ≤ 3)
    (h : InBox contact r cell)
    (hc : heatCell row col = some cell) : InTile contact row col := by
  obtain ⟨_, hrow, hcol⟩ := heatCell_eq_some.mp hc
  obtain ⟨_, h1, h2, h3, h4⟩ := h
  have h5 := hs.cols
  have h6 := hs.rows
  unfold InTile
  omega

theorem Inside.access {row col : Int} (h : Inside t st) (hin : InTile contact row col) :
    Inside (t.access contact row col) st := by
  refine ⟨h.state, ?_⟩
  simp [HaloTile.access, h.inside, hin]

theorem Inside.put {row col : Int} (h : Inside t st) (hin : InTile contact row col) (v : Nat) :
    Inside (t.put contact row col v) (st.set row col v) := by
  refine ⟨?_, (h.access hin).inside⟩
  show t.state.set row col v = _
  rw [h.state]

theorem tileInit_inside (ts : Heat) (hs : SmallSpan contact) : Inside (tileInit ts contact)
    (haloInit ts contact) := by
  unfold tileInit haloInit
  rw [forBox_foldl, forBox_foldl]
  refine List.foldl_rel (r := Inside) ⟨rfl, rfl⟩ fun p hp t st h => ?_
  have hbox := mem_boxCells.mp hp
  have hcell : heatCell ((p / heatCols : Nat) : Int) ((p % heatCols : Nat) : Int) = some p :=
    heatCell_eq_some.mpr ⟨hbox.1, rfl, rfl⟩
  have hin := hbox.inTile hs (Nat.le_refl 3) hcell
  rw [hcell]
  simp only
  split
  · exact h.put hin 0
  split
  · exact h.put hin 4
  · exact h

/-- The neighbour of a cell of the box: its access stays inside, and the state is the walk's. -/
theorem tileNeighbour_inside {r p : Nat} (hs : SmallSpan contact) (hr : r + 1 ≤ 3)
    (hp : InBox contact r p)
    (go : Nat → Bool) (mark : Nat) (h : Inside t st) (o : Int × Int) (ho : o ∈ haloOffsets) :
    Inside (tileNeighbour contact ((p / heatCols : Nat) : Int)
      ((p % heatCols : Nat) : Int) go mark t o).1
        (match haloBackground st ((p / heatCols : Nat) : Int) ((p % heatCols : Nat) : Int) o with
          | none => st
          | some (nr, nc, index) => if go index then st.set nr nc mark else st) ∧
      (tileNeighbour contact ((p / heatCols : Nat) : Int)
        ((p % heatCols : Nat) : Int) go mark t o).2 =
        (match haloBackground st ((p / heatCols : Nat) : Int) ((p % heatCols : Nat) : Int) o with
          | none => none
          | some (_, _, index) => if go index then some index else none) := by
  unfold tileNeighbour haloBackground
  cases hcell : heatCell ((p / heatCols : Nat) + o.1) ((p % heatCols : Nat) + o.2) with
  | none => exact ⟨h, rfl⟩
  | some index =>
    have hadj : heatAdjacent p index := by
      obtain ⟨hlt, hrow, hcol⟩ := heatCell_eq_some.mp hcell
      simp only [haloOffsets, List.mem_cons, List.not_mem_nil, or_false, Prod.ext_iff] at ho
      exact ⟨hp.1, hlt, by omega⟩
    have hin := (hp.adjacent hadj).inTile hs hr hcell
    have haccess := h.access hin
    simp only
    rw [haccess.state]
    by_cases hopen : st ((p / heatCols : Nat) + o.1) ((p % heatCols : Nat) + o.2) = 4
    · simp only [if_neg (not_not.mpr hopen)]
      cases go index with
      | true => exact ⟨haccess.put hin mark, rfl⟩
      | false => exact ⟨haccess, rfl⟩
    · simp only [if_pos hopen]
      exact ⟨haccess, trivial⟩

theorem tileStrong_inside (ts : Heat) (quarter : Int) (hs : SmallSpan contact) (h : Inside t st) :
    Inside (tileStrong ts contact quarter t) (haloStrong ts contact quarter st) := by
  unfold tileStrong haloStrong
  rw [forBox_foldl, forBox_foldl]
  refine List.foldl_rel (r := Inside) h fun p hp t st h => ?_
  have hbox := mem_boxCells.mp hp
  have hcell : heatCell ((p / heatCols : Nat) : Int) ((p % heatCols : Nat) : Int) = some p :=
    heatCell_eq_some.mpr ⟨hbox.1, rfl, rfl⟩
  have haccess := h.access (hbox.inTile hs (by decide) hcell)
  simp only
  rw [haccess.state]
  split
  · exact haccess
  · refine List.foldl_rel (r := Inside) haccess fun o ho t st h => ?_
    have hn := (tileNeighbour_inside hs (by decide) hbox
      (fun index => decide (signalQ12 (ts.value index) > quarter)) 1 h o ho).1
    cases hb : haloBackground st ((p / heatCols : Nat) : Int) ((p % heatCols : Nat) : Int) o with
    | none =>
      rw [hb] at hn
      exact hn
    | some found =>
      rw [hb] at hn
      simpa using hn

/-- A walk with its sum, in the tile. -/
def InsideWalk (t : HaloTile × Int) (s : HaloState × Int) : Prop := Inside t.1 s.1 ∧ t.2 = s.2

theorem tileRing_inside (ts : Heat) (quarter : Int) {radius : Nat} (hs : SmallSpan contact)
    (hr : radius + 1 ≤ 3)
    {t : HaloTile × Int} {s : HaloState × Int} (h : InsideWalk t s) :
    InsideWalk (tileRing ts contact quarter radius t) (haloRing ts contact quarter radius s) := by
  unfold tileRing haloRing
  rw [forBox_foldl, forBox_foldl]
  refine List.foldl_rel (r := InsideWalk) h fun p hp t s h => ?_
  have hbox := mem_boxCells.mp hp
  have hcell : heatCell ((p / heatCols : Nat) : Int) ((p % heatCols : Nat) : Int) = some p :=
    heatCell_eq_some.mpr ⟨hbox.1, rfl, rfl⟩
  have haccess := h.1.access (hbox.inTile hs (by omega) hcell)
  simp only
  rw [haccess.state, hcell]
  split
  · exact ⟨haccess, h.2⟩
  · refine List.foldl_rel (r := InsideWalk) ⟨haccess, h.2⟩ fun o ho t s h => ?_
    have hn := tileNeighbour_inside hs hr hbox (ringGoes ts quarter (signalQ12 (ts.value p)))
      (radius + 1) h.1 o ho
    unfold haloRingCell
    generalize tileNeighbour contact _ _ _ _ _ _ = found at hn ⊢
    cases hb : haloBackground s.1 ((p / heatCols : Nat) : Int) ((p % heatCols : Nat) : Int) o with
    | none =>
      rw [hb] at hn
      obtain ⟨hinside, hnone⟩ := hn
      cases found with
      | mk tile cell =>
        simp only at hnone
        subst hnone
        exact ⟨hinside, h.2⟩
    | some next =>
      rw [hb] at hn
      simp only at hn ⊢
      by_cases hgo : ringGoes ts quarter (signalQ12 (ts.value p)) next.2.2 = true
      · rw [if_pos hgo, if_pos hgo] at hn
        rw [if_pos (of_decide_eq_true hgo)]
        obtain ⟨hinside, hsome⟩ := hn
        cases found with
        | mk tile cell =>
          simp only at hsome
          subst hsome
          exact ⟨hinside, congrArg (· + _) h.2⟩
      · rw [if_neg hgo, if_neg hgo] at hn
        rw [if_neg fun hyes => hgo (decide_eq_true hyes)]
        obtain ⟨hinside, hnone⟩ := hn
        cases found with
        | mk tile cell =>
          simp only at hnone
          subst hnone
          exact ⟨hinside, h.2⟩

/-- The walk of the tile never leaves it and has the sum of the halo. -/
theorem tileWalk_inside (ts : Heat) (quarter : Int) (hs : SmallSpan contact) :
    (tileWalk ts contact quarter).1.inside = true ∧ (tileWalk ts contact quarter).2 =
      (haloRing ts contact quarter 2 (haloRing ts contact quarter 1
        (haloStrong ts contact quarter (haloInit ts contact), 0))).2 := by
  have hstrong : InsideWalk (tileStrong ts contact quarter (tileInit ts contact), 0)
      (haloStrong ts contact quarter (haloInit ts contact), 0) :=
    ⟨tileStrong_inside ts quarter hs (tileInit_inside ts hs), rfl⟩
  have hwalk := tileRing_inside ts quarter hs (by decide : 2 + 1 ≤ 3)
    (tileRing_inside ts quarter hs (by decide : 1 + 1 ≤ 3) hstrong)
  exact ⟨hwalk.1.inside, hwalk.2⟩

end Sp11Touch
