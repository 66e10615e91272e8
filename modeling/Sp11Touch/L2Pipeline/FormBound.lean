import Sp11Touch.L2Pipeline.ClassScores
import Sp11Touch.Core.Corners
import Mathlib.LinearAlgebra.Pi
/-!
# The squared length of class 3 on small contacts

On at most 25 pixels the first feature is small, and class 3 weighs the other
nine so lightly that its squared length stays below the `2^62` of a saturated
distance (`form_three_lt`). The rows are a combination of the transform's
columns with the residuals as coefficients, each in a range of its own, so the
`2^10` corners of that box bound the length; rounding the rows to Q12 costs a
sixteenth.
-/
namespace Sp11Touch

/-! ## Rounded rows -/

/-- A row rounded down to Q12 is hardly longer than the row. -/
theorem sq_shift_le (y : Int) :
    2 ^ 28 * (y / 2 ^ 12 * (y / 2 ^ 12)) ≤ 17 * (y * y) + 272 * 2 ^ 24 := by
  have hsplit := Int.mul_ediv_add_emod y (2 ^ 12)
  have hlow := Int.emod_nonneg y (b := 2 ^ 12) (by decide)
  have hhigh := Int.emod_lt_of_pos y (b := 2 ^ 12) (by decide)
  generalize y / 2 ^ 12 = q at *
  generalize y % 2 ^ 12 = r at *
  subst hsplit
  have hr : r * r ≤ 2 ^ 12 * 2 ^ 12 := mul_le_mul hhigh.le hhigh.le hlow (by decide)
  have hsq : 0 ≤ (2 ^ 12 * q + 17 * r) * (2 ^ 12 * q + 17 * r) := mul_self_nonneg _
  have hgap : 17 * ((2 ^ 12 * q + r) * (2 ^ 12 * q + r)) + 272 * 2 ^ 24 - 2 ^ 28 * (q * q) =
      (2 ^ 12 * q + 17 * r) * (2 ^ 12 * q + 17 * r) + 272 * (2 ^ 12 * 2 ^ 12 - r * r) := by ring
  omega

theorem sumRange_shift_le (n : Nat) (y : Nat → Int) :
    2 ^ 28 * sumRange n (fun k => y k / 2 ^ 12 * (y k / 2 ^ 12)) ≤
      17 * sumRange n (fun k => y k * y k) + n * (272 * 2 ^ 24) := by
  induction n with
  | zero => exact Int.le_refl _
  | succ n ih =>
    have hlast := sq_shift_le (y n)
    rw [sumRange_succ, sumRange_succ, Nat.cast_succ]
    omega

theorem sumRange_zero (n : Nat) : sumRange n (fun _ => 0) = 0 := by
  simp [sumRange]

/-- A sum whose first terms are zero. -/
theorem sumRange_skip {n row : Nat} (term : Nat → Int) (hrow : row ≤ n)
    (hzero : ∀ k, k < row → term k = 0) :
    sumRange (n - row) (fun k => term (row + k)) = sumRange n term := by
  induction n with
  | zero => rw [Nat.zero_sub]; rfl
  | succ n ih =>
    rcases Nat.lt_or_eq_of_le hrow with hlt | rfl
    · have hle := Nat.le_of_lt_succ hlt
      rw [Nat.succ_sub hle, sumRange_succ, sumRange_succ, ih hle, Nat.add_sub_cancel' hle]
    · rw [Nat.sub_self, sumRange_congr hzero, sumRange_zero]
      rfl

/-! ## The rows as a combination of columns -/

/-- The squared length of the first `n` rows. -/
def squares (n : Nat) (rows : Nat → Int) : Int := sumRange n fun row => rows row * rows row

theorem squares_lineConvex (n : Nat) : LineConvex (squares n) := by
  induction n with
  | zero => exact lineConvex_zero
  | succ n ih =>
    have hlast := lineConvex_mul_self (LinearMap.proj n : (Nat → Int) →ₗ[Int] Int)
    have heq : squares (n + 1) = fun rows => squares n rows + rows n * rows n :=
      funext fun rows => sumRange_succ n _
    rw [heq]
    exact ih.add hlast

namespace ClassifierModel
variable (m : ClassifierModel) (cap : Nat → Int)

/-- The residuals of one feature between zero and `cap`, and the column they scale. -/
def column (col : Nat) : Column Int (Nat → Int) :=
  ⟨-m.meansQ12.getD col 0, cap col - m.meansQ12.getD col 0, fun row => m.transform row col⟩

/-- The rows before their rounding. -/
def exactRow (features : Nat → Int) (row : Nat) : Int :=
  sumRange featureCount fun col => m.residual features col * m.transform row col

/-- The entries below the diagonal are zero. -/
def UpperTriangular : Prop :=
  ∀ row, row < featureCount → ∀ col, col < row → m.transform row col = 0

instance : Decidable m.UpperTriangular := by
  unfold UpperTriangular
  infer_instance

variable {m} {cap} {features : Nat → Int}

theorem rowQ12_exact (hm : m.UpperTriangular) {row : Nat} (hrow : row < featureCount) :
    m.rowQ12 features row = m.exactRow features row / 2 ^ classifierShift := by
  unfold rowQ12 exactRow
  rw [sumRange_skip (fun col => m.residual features col * m.transform row col)
    (Nat.le_of_lt hrow) fun col hcol => ?_]
  rw [hm row hrow col hcol, Int.mul_zero]

theorem form_le_squares (hm : m.UpperTriangular) :
    2 ^ 28 * m.form features ≤
      17 * squares featureCount (m.exactRow features) + 10 * (272 * 2 ^ 24) := by
  unfold form
  rw [sumRange_congr fun row hrow => by rw [rowQ12_exact hm hrow]]
  exact sumRange_shift_le featureCount (m.exactRow features)

theorem spans_columns (h : ∀ col, col < featureCount →
      -m.meansQ12.getD col 0 ≤ m.residual features col ∧
      m.residual features col ≤ cap col - m.meansQ12.getD col 0)
    (cols : List Nat) (hcols : ∀ col ∈ cols, col < featureCount) (start : Nat → Int) :
    Spans (cols.map (m.column cap)) start fun row =>
      start row + (cols.map fun col => m.residual features col * m.transform row col).sum := by
  induction cols generalizing start with
  | nil =>
    simp only [List.map_nil, List.sum_nil, Int.add_zero]
    exact Spans.nil start
  | cons col cols ih =>
    obtain ⟨hlow, hhigh⟩ := h col (hcols col List.mem_cons_self)
    refine Spans.cons hlow hhigh ?_
    have hrest := ih (fun k hk => hcols k (List.mem_cons_of_mem col hk))
      (start + m.residual features col • (m.column cap col).direction)
    have hsum : (fun row => start row +
          ((col :: cols).map fun k => m.residual features k * m.transform row k).sum) =
        fun row => (start + m.residual features col • (m.column cap col).direction) row +
          (cols.map fun k => m.residual features k * m.transform row k).sum := by
      funext row
      rw [List.map_cons, List.sum_cons, ← Int.add_assoc]
      rfl
    rw [hsum]
    exact hrest

end ClassifierModel

/-! ## Class 3 -/

/-- The greatest features of a contact of at most 25 pixels. -/
def smallCap (col : Nat) : Int := if col = 0 then 25 * 2 ^ classifierShift else 2 ^ 28

theorem corners_three :
    CornersBelow (squares featureCount) (15 * 2 ^ 82)
      ((List.range featureCount).map ((classModel 3).column smallCap)) 0 := by
  decide +kernel

theorem upperTriangular_three : (classModel 3).UpperTriangular := by
  decide +kernel

/-- The means lie between zero and the greatest features, so the mask of the halo stays inside. -/
theorem smallCap_residual {features : Nat → Int}
    (h : ∀ col, col < featureCount → 0 ≤ features col ∧ features col ≤ smallCap col) :
    ∀ col, col < featureCount →
      -(classModel 3).meansQ12.getD col 0 ≤ (classModel 3).residual features col ∧
      (classModel 3).residual features col ≤ smallCap col - (classModel 3).meansQ12.getD col 0 := by
  have hmean : ∀ col, col < featureCount → 0 ≤ (classModel 3).meansQ12.getD col 0 ∧
      (classModel 3).meansQ12.getD col 0 ≤ smallCap col := by
    decide +kernel
  intro col hcol
  have hf := h col hcol
  have hm := hmean col hcol
  unfold ClassifierModel.residual
  split <;> omega

theorem form_three_lt {features : Nat → Int}
    (h : ∀ col, col < featureCount → 0 ≤ features col ∧ features col ≤ smallCap col) :
    (classModel 3).form features < 2 ^ 62 - 2 ^ 40 := by
  have hspan := ClassifierModel.spans_columns (smallCap_residual h) (List.range featureCount)
    (fun col hcol => List.mem_range.mp hcol) 0
  have hbox := corners_three.of_spans (squares_lineConvex featureCount) hspan
  have hrows : (fun row => (0 : Nat → Int) row + ((List.range featureCount).map fun col =>
      (classModel 3).residual features col * (classModel 3).transform row col).sum) =
      (classModel 3).exactRow features := funext fun row => Int.zero_add _
  rw [hrows] at hbox
  have hform : 2 ^ 28 * (classModel 3).form features ≤
      17 * squares featureCount ((classModel 3).exactRow features) + 10 * (272 * 2 ^ 24) :=
    ClassifierModel.form_le_squares upperTriangular_three
  omega

end Sp11Touch
