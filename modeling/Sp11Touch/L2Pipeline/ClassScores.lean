import Sp11Touch.L2Pipeline.Classifier
import Sp11Touch.Core.FirstMax
import Mathlib.Algebra.Order.Ring.Int
/-!
# The classifier's scores without its loops

Each class measures the squared length `form` of the transformed residuals, in
unbounded integers. On features that fit 30 bits the code's row sums are exact
(`transformed_eq`), its saturating distance is the form or the mark of one that
left its types (`distance_eq`), and the class it returns is the first of the
greatest score (`bestClass_firstMax`).
-/
namespace Sp11Touch
open CInt

/-- `sum(..)` over `range(n)` -/
def sumRange (n : Nat) (term : Nat → Int) : Int := ((List.range n).map term).sum

theorem sumRange_succ (n : Nat) (term : Nat → Int) : sumRange (n + 1) term =
    sumRange n term + term n := by
  simp [sumRange, List.range_succ]

theorem loop_sum (n : Nat) (term : Nat → Int) :
    loop n (fun k sum => sum + term k) 0 = sumRange n term := by
  induction n with
  | zero => rw [loop_zero]; rfl
  | succ n ih => rw [loop_succ, ih, sumRange_succ]

theorem sumRange_congr {n : Nat} {f g : Nat → Int} (h : ∀ k, k < n → f k = g k) :
    sumRange n f = sumRange n g := by
  unfold sumRange
  rw [List.map_congr_left fun k hk => h k (List.mem_range.mp hk)]

/-- A sum of squares grows with its length. -/
theorem sumRange_mono {term : Nat → Int} (h : ∀ k, 0 ≤ term k) (n : Nat) :
    sumRange n term ≤ sumRange (n + 1) term := by
  rw [sumRange_succ]
  exact Int.le_add_of_nonneg_right (h n)

theorem sumRange_nonneg {term : Nat → Int} (h : ∀ k, 0 ≤ term k) (n : Nat) :
    0 ≤ sumRange n term := by
  induction n with
  | zero => exact Int.le_refl _
  | succ n ih => exact Int.le_trans ih (sumRange_mono h n)

theorem term_le_sumRange {term : Nat → Int} (h : ∀ k, 0 ≤ term k) {n k : Nat} (hk : k < n) :
    term k ≤ sumRange n term := by
  induction n with
  | zero => exact absurd hk (Nat.not_lt_zero k)
  | succ n ih =>
    rcases Nat.lt_succ_iff_lt_or_eq.mp hk with hk | rfl
    · exact Int.le_trans (ih hk) (sumRange_mono h n)
    · rw [sumRange_succ]
      exact Int.le_add_of_nonneg_left (sumRange_nonneg h k)

/-- Ten features that a `s32` residual holds. -/
def FeaturesFit (features : Nat → Int) : Prop :=
  ∀ col, col < featureCount → -2 ^ 30 ≤ features col ∧ features col ≤ 2 ^ 30

namespace ClassifierModel
variable (m : ClassifierModel) (features : Nat → Int)

/-- A feature less its mean; the unavailable halo counts as its mean. -/
def residual (col : Nat) : Int :=
  if haloUnavailable features col then 0 else features col - m.meansQ12.getD col 0

/-- One row of the transform applied to the residuals, rounded down to Q12. -/
def rowQ12 (row : Nat) : Int :=
  sumRange (featureCount - row) (fun k => m.residual features (row + k) * m.transform row
    (row + k)) / 2 ^ classifierShift

/-- The squared length of the transformed residuals. -/
def form : Int := sumRange featureCount fun row => m.rowQ12 features row * m.rowQ12 features row

/-- A row or the squared length leaves its type. -/
def Saturates : Prop :=
  (∃ row, row < featureCount ∧ intMax < (m.rowQ12 features row).natAbs) ∨ s64Max ≤ m.form features

instance : Decidable (m.Saturates features) := by
  unfold Saturates
  infer_instance

/-- The means are small against the residual's type. -/
def MeansFit : Prop := ∀ col, col < featureCount → 0 ≤ m.meansQ12.getD col 0 ∧
    m.meansQ12.getD col 0 ≤ 2 ^ 17

instance : Decidable m.MeansFit := by
  unfold MeansFit
  infer_instance

variable {m} {features}

theorem residual_eq (hm : m.MeansFit) (hf : FeaturesFit features) {col : Nat}
    (hc : col < featureCount) :
    (if haloUnavailable features col then 0 else s32 (features col - m.meansQ12.getD col 0)) =
      m.residual features col := by
  have h1 := hm col hc
  have h2 := hf col hc
  unfold residual
  split
  · rfl
  · exact s32_eq (by omega) (by omega)

/-- The length reads the ten features only. -/
theorem form_congr {other : Nat → Int} (h : ∀ col, col < featureCount → features col = other col) :
    m.form features = m.form other := by
  have hresidual : ∀ col, col < featureCount → m.residual features col = m.residual other col := by
    intro col hc
    unfold residual haloUnavailable
    rw [h col hc]
  refine sumRange_congr fun row _ => ?_
  unfold rowQ12
  rw [sumRange_congr fun k hk => by rw [hresidual (row + k) (by omega)]]

theorem transformed_eq (hm : m.MeansFit) (hf : FeaturesFit features) (row : Nat) :
    m.transformed features row = m.rowQ12 features row := by
  unfold transformed rowQ12
  simp only
  rw [loop_sum, Int.shiftRight_eq_div_pow]
  rw [sumRange_congr fun k hk => ?_]
  · rfl
  · rw [residual_eq hm hf (by omega)]

/-- The rows before `n` left their type, or their squares did. -/
def Overflows (m : ClassifierModel) (features : Nat → Int) (n : Nat) : Prop :=
  (∃ row, row < n ∧ intMax < (m.rowQ12 features row).natAbs) ∨
    s64Max ≤ sumRange n fun row => m.rowQ12 features row * m.rowQ12 features row

theorem Overflows.succ {n : Nat} (h : m.Overflows features n) : m.Overflows features (n + 1) := by
  rcases h with ⟨row, hrow, hbig⟩ | hsum
  · exact Or.inl ⟨row, Nat.lt_succ_of_lt hrow, hbig⟩
  · exact Or.inr (Int.le_trans hsum (sumRange_mono (fun row => mul_self_nonneg _) n))

/-- After the rows before `n`: the sum of the squares, or the mark. -/
def Summing (m : ClassifierModel) (features : Nat → Int) (n : Nat) (distance : Int) : Prop :=
  (m.Overflows features n ∧ distance = s64Max) ∨
    (¬ m.Overflows features n ∧ distance = sumRange n fun row =>
    m.rowQ12 features row * m.rowQ12 features row)

theorem addRow_summing (hm : m.MeansFit) (hf : FeaturesFit features) {n : Nat} {distance : Int}
    (h : m.Summing features n distance) : m.Summing features (n + 1)
    (m.addRow features n distance) := by
  unfold addRow
  simp only [transformed_eq hm hf]
  rcases h with ⟨hover, rfl⟩ | ⟨hno, rfl⟩
  · rw [if_pos (Or.inl rfl)]
    exact Or.inl ⟨hover.succ, rfl⟩
  · have hlt := not_le.mp fun hle => hno (Or.inr hle)
    have hsucc := sumRange_succ n fun row => m.rowQ12 features row * m.rowQ12 features row
    by_cases hbig : intMax < (m.rowQ12 features n).natAbs
    · rw [if_pos (by omega)]
      exact Or.inl ⟨Or.inl ⟨n, Nat.lt_succ_self n, hbig⟩, rfl⟩
    · by_cases hsum : s64Max ≤ sumRange (n + 1) fun row =>
        m.rowQ12 features row * m.rowQ12 features row
      · refine Or.inl ⟨Or.inr hsum, ?_⟩
        split
        · rfl
        · next hn => omega
      · refine Or.inr ⟨?_, ?_⟩
        · intro hover
          rcases hover with ⟨row, hrow, hb⟩ | hs
          · rcases Nat.lt_succ_iff_lt_or_eq.mp hrow with hrow | rfl
            · exact hno (Or.inl ⟨row, hrow, hb⟩)
            · exact hbig hb
          · exact hsum hs
        · rw [if_neg (by omega), hsucc]

theorem distance_eq (hm : m.MeansFit) (hf : FeaturesFit features) :
    m.distance features = if m.Saturates features then s64Max else m.form features := by
  have h : m.Summing features featureCount (m.distance features) := by
    unfold distance
    refine loop_ind (m.Summing features) ?_ fun n d _ h => addRow_summing hm hf h
    refine Or.inr ⟨fun hover => ?_, rfl⟩
    rcases hover with ⟨row, hrow, _⟩ | hs
    · exact absurd hrow (Nat.not_lt_zero row)
    · exact absurd (show s64Max ≤ 0 from hs) (by decide)
  rcases h with ⟨hover, heq⟩ | ⟨hno, heq⟩
  · rw [if_pos (show m.Saturates features from hover), heq]
  · rw [if_neg (show ¬ m.Saturates features from hno), heq]
    rfl

theorem form_nonneg (m : ClassifierModel) (features : Nat → Int) : 0 ≤ m.form features :=
  sumRange_nonneg (fun _ => mul_self_nonneg _) featureCount

/-- `score_offset_q12 << 12` less half the squared length: the score without the runtime offset. -/
def plainScore (m : ClassifierModel) (features : Nat → Int) : Int :=
  m.scoreOffsetQ12 * 2 ^ classifierShift - m.form features / 2

/-- The class admits the pixels and its distance fits: it is evaluated. -/
def Evaluated (m : ClassifierModel) (pixels : Nat) (features : Nat → Int) : Prop :=
  pixels ≤ m.maxPoints ∧ ¬ m.Saturates features

instance (pixels : Nat) : Decidable (m.Evaluated pixels features) := by
  unfold Evaluated
  infer_instance

theorem scoreQ24_eq (hm : m.MeansFit) (hf : FeaturesFit features) (pixels : Nat) :
    m.scoreQ24 pixels features =
      if m.Evaluated pixels features then m.plainScore features + windowsRuntimeOffsetQ24
        else excludedScoreQ24 := by
  unfold scoreQ24
  by_cases hp : pixels > m.maxPoints
  · have hnot : ¬ m.Evaluated pixels features := fun h => by
      have := h.1
      omega
    rw [if_pos hp, if_neg hnot]
  · rw [if_neg hp]
    simp only
    rw [distance_eq hm hf]
    by_cases hs : m.Saturates features
    · have hnot : ¬ m.Evaluated pixels features := fun h => h.2 hs
      rw [if_pos hs, if_pos rfl, if_neg hnot]
    · have hne : m.form features ≠ s64Max := fun he => hs (Or.inr (Int.le_of_eq he.symm))
      have hyes : m.Evaluated pixels features := ⟨by omega, hs⟩
      rw [if_neg hs, if_neg hne, if_pos hyes, Int.tdiv_eq_ediv_of_nonneg (form_nonneg m features)]
      rfl

/-- The offset is small against the distance's type. -/
def OffsetFits (m : ClassifierModel) : Prop := 0 ≤ m.scoreOffsetQ12 ∧ m.scoreOffsetQ12 ≤ 2 ^ 20

instance : Decidable m.OffsetFits := by
  unfold OffsetFits
  infer_instance

/-- An evaluated score stays far inside its type. -/
theorem plainScore_ge (ho : m.OffsetFits) (h : ¬ m.Saturates features) :
    -2 ^ 62 ≤ m.plainScore features := by
  have hlt : m.form features < s64Max := not_le.mp fun hle => h (Or.inr hle)
  have hge := ho.1
  unfold s64Max at hlt
  unfold plainScore classifierShift
  omega

end ClassifierModel

/-! ## The four classes -/

/-- `g6ts_classifier_models[class]` -/
def classModel (class' : Nat) : ClassifierModel := classifierModels.getD class' emptyModel

theorem classModel_means : ∀ k, k < classCount → (classModel k).MeansFit := by
  decide +kernel

theorem classModel_offset : ∀ k, k < classCount → (classModel k).OffsetFits := by
  decide +kernel

/-- The scores before the adjustment of class 3. -/
def classScores (pixels : Nat) (features : Nat → Int) (class' : Nat) : Int :=
  (classModel class').scoreQ24 pixels features

theorem classifyContact_scores (prof : Profile) (contact : Contact) :
    ∃ scores : Nat → Int, (∀ k, k < classCount →
    scores k = classScores contact.pixels contact.featuresQ12 k) ∧
      (classifyContact prof contact).1.scoresQ24 = adjustScore3 prof contact scores ∧
      (classifyContact prof contact).2 = bestClass (adjustScore3 prof contact scores) := by
  refine ⟨_, ?_, rfl, rfl⟩
  intro k hk
  refine loop_ind (fun n (scores : Nat → Int) => k < n →
    scores k = classScores contact.pixels contact.featuresQ12 k)
    (fun h => absurd h (Nat.not_lt_zero k)) (fun n scores _ ih hkn => ?_) hk
  by_cases he : k = n
  · subst he
    rw [Function.update_self]
    rfl
  · rw [Function.update_of_ne he]
    exact ih (by omega)

theorem bestClass_firstMax {scores : Nat → Int} (h : ∀ k, k < classCount → s64Min < scores k) :
    FirstMax classCount scores (bestClass scores) :=
  scan_firstMax h

end Sp11Touch
