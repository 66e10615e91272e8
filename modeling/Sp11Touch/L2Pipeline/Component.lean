import Sp11Touch.L2Pipeline.FindContacts
import Sp11Touch.Core.Centroid
import Mathlib.Order.Bounds.Basic
/-!
# What a component adds up to

`component` runs the flood fill from one start cell. Its contact is the fold
of `addCell` over the queue (`component_made`); `Summed` is what the fold keeps
of each sum, and `Boxed` that the four corners are the cells' bounding box.
-/
namespace Sp11Touch
open CInt

/-- The sums of the contact over `cells`. -/
structure Summed (cells : List Nat) (contact : Contact) : Prop where
  pixels : contact.pixels = cells.length
  strength_ge : heatThreshold * cells.length ≤ contact.strength
  strength_le : contact.strength ≤ heatSignalZero * cells.length
  cols : Weighed contact.minCol contact.maxCol contact.strength contact.weightedX
  rows : Weighed contact.minRow contact.maxRow contact.strength contact.weightedY
  maxCol : contact.maxCol ≤ heatCols - 1
  maxRow : contact.maxRow ≤ heatRows - 1

/-- The corners are those of the cells' bounding box. -/
structure Boxed (cells : List Nat) (contact : Contact) : Prop where
  left : IsLeast {col | ∃ cell ∈ cells, cell % heatCols = col} contact.minCol
  right : IsGreatest {col | ∃ cell ∈ cells, cell % heatCols = col} contact.maxCol
  top : IsLeast {row | ∃ cell ∈ cells, cell / heatCols = row} contact.minRow
  bottom : IsGreatest {row | ∃ cell ∈ cells, cell / heatCols = row} contact.maxRow

/-- Cells of the grid that are active, none of them twice. -/
structure ActiveCells (ts : Heat) (cells : List Nat) : Prop where
  nodup : cells.Nodup
  lt : ∀ cell ∈ cells, cell < heatSamples
  active : ∀ cell ∈ cells, ts.heatActive cell = true

theorem col_le (cell : Nat) : cell % heatCols ≤ heatCols - 1 := by
  have := Nat.mod_lt cell (show 0 < heatCols by decide)
  omega

theorem row_le {cell : Nat} (h : cell < heatSamples) : cell / heatCols ≤ heatRows - 1 := by
  simp only [heatSamples, heatRows, heatCols] at h ⊢
  omega

theorem ActiveCells.length_le {ts : Heat} {cells : List Nat} (h : ActiveCells ts cells) :
    cells.length ≤ heatSamples := by
  have hsub : cells ⊆ List.range heatSamples := fun cell hc => List.mem_range.mpr (h.lt cell hc)
  simpa using (h.nodup.subperm hsub).length_le

/-! ## The fold over the cells -/

theorem freshContact_summed : Summed [] freshContact :=
  ⟨rfl, Nat.le_refl _, Nat.le_refl _, Weighed.zero _ _, Weighed.zero _ _, Nat.zero_le _,
    Nat.zero_le _⟩

theorem addCell_summed {ts : Heat} {cells : List Nat} {contact : Contact} {cell : Nat}
    (h : Summed cells contact)
    (hlt : cell < heatSamples) (ha : ts.heatActive cell = true) :
    Summed (cells ++ [cell]) (addCell ts cell contact) := by
  have hv : ts.value cell ≤ heatActiveMax := of_decide_eq_true ha
  have hge := h.strength_ge
  have hle := h.strength_le
  refine ⟨?_, ?_, ?_, h.cols.addMinMax _ _, h.rows.addMinMax _ _, ?_, ?_⟩
  · simp [addCell, h.pixels]
  · simp only [addCell, List.length_append, List.length_singleton]
    simp only [heatActiveMax, heatSignalZero, heatThreshold] at hv hge ⊢
    omega
  · simp only [addCell, List.length_append, List.length_singleton]
    simp only [heatSignalZero] at hle ⊢
    omega
  · exact max_le h.maxCol (col_le cell)
  · exact max_le h.maxRow (row_le hlt)

theorem cells_summed {ts : Heat} {cells : List Nat} (hlt : ∀ cell ∈ cells, cell < heatSamples)
    (ha : ∀ cell ∈ cells, ts.heatActive cell = true) :
    Summed cells (cells.foldl (fun contact cell => addCell ts cell contact) freshContact) := by
  induction cells using List.reverseRecOn with
  | nil => exact freshContact_summed
  | append_singleton cells cell ih =>
    rw [List.foldl_append]
    have hin : ∀ {p : Nat → Prop}, (∀ x ∈ cells ++ [cell], p x) → (∀ x ∈ cells, p x) ∧
      p cell := fun h =>
      ⟨fun x hx => h x (by simp [hx]), h cell (by simp)⟩
    exact addCell_summed (ih (hin hlt).1 (hin ha).1) (hin hlt).2 (hin ha).2

/-- The least value of one more cell. -/
theorem isLeast_concat {f : Nat → Nat} {cells : List Nat} {m : Nat} (cell : Nat)
    (h : IsLeast {v | ∃ c ∈ cells, f c = v} m) :
    IsLeast {v | ∃ c ∈ cells ++ [cell], f c = v} (min m (f cell)) := by
  have heq : {v | ∃ c ∈ cells ++ [cell], f c = v} = insert (f cell) {v | ∃ c ∈ cells, f c = v} := by
    ext v
    simp [or_and_right, exists_or, or_comm, eq_comm]
  rw [heq, min_comm]
  exact h.insert (f cell)

theorem isGreatest_concat {f : Nat → Nat} {cells : List Nat} {m : Nat} (cell : Nat)
    (h : IsGreatest {v | ∃ c ∈ cells, f c = v} m) :
    IsGreatest {v | ∃ c ∈ cells ++ [cell], f c = v} (max m (f cell)) := by
  have heq : {v | ∃ c ∈ cells ++ [cell], f c = v} = insert (f cell) {v | ∃ c ∈ cells, f c = v} := by
    ext v
    simp [or_and_right, exists_or, or_comm, eq_comm]
  rw [heq, max_comm]
  exact h.insert (f cell)

theorem isLeast_one (f : Nat → Nat) (cell : Nat) : IsLeast {v | ∃ c ∈ [cell], f c = v}
    (f cell) := by
  simp [IsLeast, lowerBounds]

theorem isGreatest_one (f : Nat → Nat) (cell : Nat) : IsGreatest {v | ∃ c ∈ [cell], f c = v}
    (f cell) := by
  simp [IsGreatest, upperBounds]

/-- The first cell is the box: the fresh corners lie outside. -/
theorem firstCell_boxed (ts : Heat) {cell : Nat} (hlt : cell < heatSamples) :
    Boxed [cell] (addCell ts cell freshContact) := by
  have hcol : (addCell ts cell freshContact).minCol = cell % heatCols := min_eq_right (col_le cell)
  have hrow : (addCell ts cell freshContact).minRow = cell / heatCols := min_eq_right (row_le hlt)
  have hcol' : (addCell ts cell freshContact).maxCol = cell % heatCols :=
    max_eq_right (Nat.zero_le _)
  have hrow' : (addCell ts cell freshContact).maxRow = cell / heatCols :=
    max_eq_right (Nat.zero_le _)
  refine ⟨?_, ?_, ?_, ?_⟩
  · rw [hcol]; exact isLeast_one _ cell
  · rw [hcol']; exact isGreatest_one _ cell
  · rw [hrow]; exact isLeast_one _ cell
  · rw [hrow']; exact isGreatest_one _ cell

theorem addCell_boxed (ts : Heat) {cells : List Nat} {contact : Contact} (cell : Nat)
    (h : Boxed cells contact) :
    Boxed (cells ++ [cell]) (addCell ts cell contact) :=
  ⟨isLeast_concat cell h.left, isGreatest_concat cell h.right, isLeast_concat cell h.top,
    isGreatest_concat cell h.bottom⟩

theorem cells_boxed (ts : Heat) {cells : List Nat} (hne : cells ≠ [])
    (hlt : ∀ cell ∈ cells, cell < heatSamples) :
    Boxed cells (cells.foldl (fun contact cell => addCell ts cell contact) freshContact) := by
  induction cells using List.reverseRecOn with
  | nil => exact absurd rfl hne
  | append_singleton cells cell ih =>
    rw [List.foldl_append]
    by_cases h0 : cells = []
    · subst h0
      exact firstCell_boxed ts (hlt cell (by simp))
    · exact addCell_boxed ts cell (ih h0 fun c hc => hlt c (by simp [hc]))

/-! ## The component of a start cell -/

/-- The contact is made of the cells in the queue. -/
structure Made (ts : Heat) (fill : Flood) (contact : Contact) : Prop where
  nonempty : fill.entries fill.tail ≠ []
  cells : ActiveCells ts (fill.entries fill.tail)
  summed : Summed (fill.entries fill.tail) contact
  boxed : Boxed (fill.entries fill.tail) contact

/-- The flood fill's contact is the fold over its queue. -/
theorem component_visited {ts : Heat} {seen : Nat → Bool} {start : Nat} (hlt : start < heatSamples)
    (hs : seen start = false) (ha : ts.heatActive start = true) :
    1 ≤ (component ts seen start).1.tail ∧
      Flood.Visited ts.heatActive (addCell ts) freshContact (component ts seen start).1.tail
        (component ts seen start).1 (component ts seen start).2 :=
  Flood.flood_visited (heatNeighbours_lt componentOffsets) hlt ha hs freshContact

theorem component_good {ts : Heat} {seen : Nat → Bool} {start : Nat} (hlt : start < heatSamples)
    (hs : seen start = false) : Flood.Good heatSamples (component ts seen start).1 :=
  (Flood.drain_exits (heatNeighbours_lt componentOffsets) (Flood.first_good hlt hs)
    (Nat.zero_le _) (Nat.le_refl _)).2

theorem component_made {ts : Heat} {seen : Nat → Bool} {start : Nat} (hlt : start < heatSamples)
    (hs : seen start = false) (ha : ts.heatActive start = true) :
    Made ts (component ts seen start).1 (component ts seen start).2 := by
  have hfill : Flood.Good heatSamples (component ts seen start).1 := component_good hlt hs
  obtain ⟨htail, hvis⟩ := component_visited hlt hs ha
  generalize component ts seen start = r at hfill htail hvis ⊢
  have hcells : ActiveCells ts (r.1.entries r.1.tail) := by
    refine ⟨hfill.entries_nodup, fun cell hc => ?_, fun cell hc => ?_⟩
    · obtain ⟨k, hk, rfl⟩ := Flood.mem_entries.mp hc
      exact hfill.lt k hk
    · obtain ⟨k, hk, rfl⟩ := Flood.mem_entries.mp hc
      exact hvis.ok k hk
  have hne : r.1.entries r.1.tail ≠ [] := List.ne_nil_of_mem (Flood.mem_entries.mpr ⟨0, htail, rfl⟩)
  have hacc : r.2 = _ := hvis.acc
  refine ⟨hne, hcells, ?_, ?_⟩
  · rw [hacc]; exact cells_summed hcells.lt hcells.active
  · rw [hacc]; exact cells_boxed ts hne hcells.lt

end Sp11Touch
