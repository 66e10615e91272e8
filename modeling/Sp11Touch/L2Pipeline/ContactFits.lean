import Sp11Touch.L2Pipeline.Component
/-!
# The numbers of one component fit their C types

From what a component adds up to (`Made`): the sums and the divisors of its
positions fit (`SumsFit`), a component that passes the palm gate gets its
positions by exact divisions, inside its bounding box (`ContactFits`), and the
output centroid and the second moments divide by numbers that fit.
-/
namespace Sp11Touch
open CInt

/-- Between the logical coordinates of the cells `lo` and `hi` of an axis of `span + 1` cells. -/
def InSpan (lo hi span v : Nat) : Prop := lo * logicalMax / span ≤ v ∧ v ≤ hi * logicalMax / span

theorem InSpan.le {lo hi span v : Nat} (h : InSpan lo hi span v) (hh : hi ≤ span) :
    v ≤ logicalMax := by
  refine Nat.le_trans h.2 (Nat.div_le_of_le_mul ?_)
  exact Nat.mul_le_mul_right logicalMax hh

theorem inSpan_mean {lo hi weight sum : Nat} (span : Nat) (h : Weighed lo hi weight sum)
    (hw : 0 < weight)
    (hs : 0 < span) : InSpan lo hi span (sum * logicalMax / (weight * span)) :=
  ⟨h.le_mean logicalMax hw hs, h.mean_le logicalMax hw hs⟩

/-! ## Before the gates -/

structure SumsFit (contact : Contact) : Prop where
  pixels : contact.pixels < 2 ^ 16
  strength : Divisor contact.strength
  perCol : Divisor (contact.strength * (heatCols - 1))
  perRow : Divisor (contact.strength * (heatRows - 1))
  wideX : contact.weightedX * 2 ^ 24 < 2 ^ 64
  wideY : contact.weightedY * 2 ^ 24 < 2 ^ 64

theorem Made.sums {ts : Heat} {fill : Flood} {contact : Contact} (h : Made ts fill contact) :
    SumsFit contact := by
  have hlen := h.cells.length_le
  have hpos := List.length_pos_iff.mpr h.nonempty
  have hge := h.summed.strength_ge
  have hle := h.summed.strength_le
  have hx := (h.summed.cols.widen (Nat.zero_le _) h.summed.maxCol).high
  have hy := (h.summed.rows.widen (Nat.zero_le _) h.summed.maxRow).high
  simp only [heatThreshold, heatSignalZero, heatSamples, heatCols, heatRows] at hlen hge hle hx hy
  refine ⟨?_, ⟨by omega, by omega⟩, ⟨?_, ?_⟩, ⟨?_, ?_⟩, by omega, by omega⟩
  · rw [h.summed.pixels]; omega
  all_goals simp only [heatCols, heatRows]; omega

/-! ## The positions -/

/-- A contact as `find_contacts` stores it. -/
structure ContactFits (contact : Contact) : Prop where
  sums : SumsFit contact
  maxCol : contact.maxCol ≤ heatCols - 1
  maxRow : contact.maxRow ≤ heatRows - 1
  x : contact.x = contact.weightedX * logicalMax / (contact.strength * (heatCols - 1))
  y : contact.y = contact.weightedY * logicalMax / (contact.strength * (heatRows - 1))
  sensorX : contact.sensorXQ24 = contact.weightedX * 2 ^ 24 / contact.strength
  sensorY : contact.sensorYQ24 = contact.weightedY * 2 ^ 24 / contact.strength
  inX : InSpan contact.minCol contact.maxCol (heatCols - 1) contact.x
  inY : InSpan contact.minRow contact.maxRow (heatRows - 1) contact.y
  outX : InSpan contact.minCol contact.maxCol (heatCols - 1) contact.outputX
  outY : InSpan contact.minRow contact.maxRow (heatRows - 1) contact.outputY
  sensorXMax : contact.sensorXQ24 ≤ (heatCols - 1) * 2 ^ 24
  sensorYMax : contact.sensorYQ24 ≤ (heatRows - 1) * 2 ^ 24

/-- The positions of a contact are logical coordinates. -/
theorem ContactFits.logical {contact : Contact} (h : ContactFits contact) :
    contact.x ≤ logicalMax ∧ contact.y ≤ logicalMax ∧ contact.outputX ≤ logicalMax ∧
      contact.outputY ≤ logicalMax :=
  ⟨h.inX.le h.maxCol, h.inY.le h.maxRow, h.outX.le h.maxCol, h.outY.le h.maxRow⟩

/-- A coordinate is stored as it was divided. -/
theorem u16_mean {lo hi weight sum span : Nat} (h : Weighed lo hi weight sum)
    (hd : Divisor (weight * span))
    (hh : hi ≤ span) : u16 (divU64 (sum * logicalMax) (weight * span)) =
      sum * logicalMax / (weight * span) := by
  rw [divU64_eq _ hd]
  have hle := (inSpan_mean span h (Nat.pos_of_mul_pos_right hd.pos)
    (Nat.pos_of_mul_pos_left hd.pos)).le hh
  exact u16_eq (Nat.lt_of_le_of_lt hle (by decide))

/-- A sensor position is stored as it was divided. -/
theorem u32_sensor {lo hi weight sum span : Nat} (h : Weighed lo hi weight sum)
    (hd : Divisor weight)
    (hh : hi ≤ span) (hspan : span < 2 ^ 8) :
    u32 (divU64 (sum * 2 ^ 24) weight) = sum * 2 ^ 24 / weight ∧
      sum * 2 ^ 24 / weight ≤ span * 2 ^ 24 := by
  have hle : sum * 2 ^ 24 / weight ≤ span * 2 ^ 24 := by
    refine Nat.div_le_of_le_mul ?_
    calc sum * 2 ^ 24 ≤ hi * weight * 2 ^ 24 := Nat.mul_le_mul_right _ h.high
      _ ≤ span * weight * 2 ^ 24 := Nat.mul_le_mul_right _ (Nat.mul_le_mul_right _ hh)
      _ = weight * (span * 2 ^ 24) := by ring
  refine ⟨?_, hle⟩
  rw [divU64_eq _ hd]
  exact u32_eq (by omega)

theorem Made.located {ts : Heat} {fill : Flood} {contact : Contact} (h : Made ts fill contact) :
    ContactFits (locateContact contact) := by
  have hs := h.sums
  have hm := h.summed
  have hx := u16_mean hm.cols hs.perCol hm.maxCol
  have hy := u16_mean hm.rows hs.perRow hm.maxRow
  have hin := inSpan_mean (heatCols - 1) hm.cols hs.strength.pos (by decide)
  have hin' := inSpan_mean (heatRows - 1) hm.rows hs.strength.pos (by decide)
  have hsx := u32_sensor hm.cols hs.strength hm.maxCol (by decide)
  have hsy := u32_sensor hm.rows hs.strength hm.maxRow (by decide)
  unfold locateContact
  rw [hx, hy, hsx.1, hsy.1]
  exact { sums := ⟨hs.pixels, hs.strength, hs.perCol, hs.perRow, hs.wideX, hs.wideY⟩,
          maxCol := hm.maxCol, maxRow := hm.maxRow, x := rfl, y := rfl, sensorX := rfl,
          sensorY := rfl,
          inX := hin, inY := hin', outX := hin, outY := hin', sensorXMax := hsx.2,
            sensorYMax := hsy.2 }

end Sp11Touch
