import Mathlib.Algebra.Module.Basic
import Mathlib.Algebra.Module.LinearMap.Defs
import Mathlib.Algebra.Order.Ring.Defs
import Mathlib.Order.Lattice
import Mathlib.Tactic.Ring
/-!
# Bounds from the corners of a box

A box is spanned from a point by columns: each is a direction with a range for
its coefficient. A function that is convex on every line (`LineConvex`, here
without division, so that it makes sense over the integers) lies below the
greater end of each (`LineConvex.le_max`). What bounds it at the corners,
which `CornersBelow` visits one by one, bounds it in the whole box
(`CornersBelow.of_spans`).
-/
namespace Sp11Touch

/-- A direction and the range of its coefficient. -/
structure Column (R V : Type) where
  low : R
  high : R
  direction : V

variable {R V : Type} [CommRing R] [LinearOrder R] [AddCommGroup V] [Module R V]

/-! ## Functions that are convex on every line -/

def LineConvex (f : V → R) : Prop :=
  ∀ (s d : V) (low t high : R), low ≤ t → t ≤ high →
    (high - low) * f (s + t • d) ≤
      (high - t) * f (s + low • d) + (t - low) * f (s + high • d)

theorem lineConvex_zero : LineConvex fun _ : V => (0 : R) := by
  intro s d low t high _ _
  simp

section LineConvex
variable [IsStrictOrderedRing R] {f g : V → R}

theorem LineConvex.add (hf : LineConvex f) (hg : LineConvex g) :
    LineConvex fun s => f s + g s := by
  intro s d low t high hlow hhigh
  have hsum := add_le_add (hf s d low t high hlow hhigh) (hg s d low t high hlow hhigh)
  simp only [mul_add]
  calc (high - low) * f (s + t • d) + (high - low) * g (s + t • d)
      ≤ _ := hsum
    _ = _ := by ring

/-- The square of a linear function. -/
theorem lineConvex_mul_self (φ : V →ₗ[R] R) : LineConvex fun s => φ s * φ s := by
  intro s d low t high hlow hhigh
  simp only [map_add, map_smul, smul_eq_mul]
  have hgap : 0 ≤ (high - low) * ((t - low) * (high - t)) * (φ d * φ d) :=
    mul_nonneg (mul_nonneg (sub_nonneg.mpr (hlow.trans hhigh))
      (mul_nonneg (sub_nonneg.mpr hlow) (sub_nonneg.mpr hhigh))) (mul_self_nonneg _)
  refine sub_nonneg.mp (hgap.trans_eq ?_)
  ring

theorem LineConvex.le_max (hf : LineConvex f) (s d : V) {low t high : R} (hlow : low ≤ t)
    (hhigh : t ≤ high) : f (s + t • d) ≤ max (f (s + low • d)) (f (s + high • d)) := by
  rcases (hlow.trans hhigh).eq_or_lt with heq | hlt
  · have ht : t = low := le_antisymm (hhigh.trans_eq heq.symm) hlow
    rw [ht]
    exact le_max_left _ _
  · have hends : (high - low) * f (s + t • d) ≤
        (high - low) * max (f (s + low • d)) (f (s + high • d)) := by
      calc (high - low) * f (s + t • d)
          ≤ (high - t) * f (s + low • d) + (t - low) * f (s + high • d) :=
            hf s d low t high hlow hhigh
        _ ≤ (high - t) * max (f (s + low • d)) (f (s + high • d)) +
            (t - low) * max (f (s + low • d)) (f (s + high • d)) :=
          add_le_add (mul_le_mul_of_nonneg_left (le_max_left _ _) (sub_nonneg.mpr hhigh))
            (mul_le_mul_of_nonneg_left (le_max_right _ _) (sub_nonneg.mpr hlow))
        _ = (high - low) * max (f (s + low • d)) (f (s + high • d)) := by ring
    exact le_of_mul_le_mul_left hends (sub_pos.mpr hlt)

end LineConvex

/-! ## The corners -/

/-- Both ends of every column, one column after the other. -/
def CornersBelow (f : V → R) (bound : R) : List (Column R V) → V → Prop
  | [], s => f s < bound
  | c :: columns, s => CornersBelow f bound columns (s + c.low • c.direction) ∧
      CornersBelow f bound columns (s + c.high • c.direction)

instance CornersBelow.decidable (f : V → R) (bound : R) :
    (columns : List (Column R V)) → (s : V) → Decidable (CornersBelow f bound columns s)
  | [], s => inferInstanceAs (Decidable (f s < bound))
  | c :: columns, s =>
    have := CornersBelow.decidable f bound columns (s + c.low • c.direction)
    have := CornersBelow.decidable f bound columns (s + c.high • c.direction)
    inferInstanceAs (Decidable (_ ∧ _))

/-- The points of the box that the columns span from `s`. -/
inductive Spans : List (Column R V) → V → V → Prop
  | nil (s : V) : Spans [] s s
  | cons {c : Column R V} {columns : List (Column R V)} {s x : V} {t : R} (hlow : c.low ≤ t)
      (hhigh : t ≤ c.high) (h : Spans columns (s + t • c.direction) x) : Spans (c :: columns) s x

section Corners
variable [IsStrictOrderedRing R] {f : V → R} {bound : R} {columns : List (Column R V)}

/-- A bound at the corners of two boxes holds at those of every box between them. -/
theorem CornersBelow.between (hf : LineConvex f) {s d : V} {low t high : R}
    (hl : CornersBelow f bound columns (s + low • d))
    (hh : CornersBelow f bound columns (s + high • d)) (hlow : low ≤ t) (hhigh : t ≤ high) :
    CornersBelow f bound columns (s + t • d) := by
  induction columns generalizing s with
  | nil => exact (hf.le_max s d hlow hhigh).trans_lt (max_lt hl hh)
  | cons c columns ih =>
    obtain ⟨hll, hlh⟩ := hl
    obtain ⟨hhl, hhh⟩ := hh
    rw [add_right_comm] at hll hlh hhl hhh
    refine ⟨?_, ?_⟩
    · rw [add_right_comm]
      exact ih hll hhl
    · rw [add_right_comm]
      exact ih hlh hhh

theorem CornersBelow.of_spans (hf : LineConvex f) {s x : V} (hspan : Spans columns s x)
    (hcorners : CornersBelow f bound columns s) : f x < bound := by
  induction hspan with
  | nil s => exact hcorners
  | cons hlow hhigh _ ih => exact ih (hcorners.1.between hf hcorners.2 hlow hhigh)

end Corners

end Sp11Touch
