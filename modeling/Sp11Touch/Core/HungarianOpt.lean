import Sp11Touch.Core.HungarianInv
import Sp11Touch.Core.Pairing
/-!
# The solved assignment is the best one

The solver matches every row (`solve_covered`), so its columns list the rows
and the potentials add up to the cost. On a matrix padded with a dummy row per
column and a dummy column per row (`padded`), the pairs read from the solution
have the least penalised total of all pairings of the real rows
(`padded_penal`): the potentials bound the others from below.
-/
namespace Sp11Touch.Hungarian
open CInt

variable {cost : Nat → Nat → Int} {n : Nat} {C intMax : Int}

/-! ## Every row is matched -/

/-- Every row up to `i` has a column. -/
def Covered (n i : Nat) (p : Nat → Nat) : Prop := ∀ r, Col i r → ∃ j, Col n j ∧ p j = r

/-- Every row up to `i` has a place other than `c`. -/
def CoveredBut (n i c : Nat) (p : Nat → Nat) : Prop := ∀ r, Col i r → ∃ j, j ≤ n ∧ j ≠ c ∧ p j = r

/-- Column `c` takes the row of `d`, and `d` becomes the free place. -/
theorem CoveredBut.move {i c d : Nat} {p : Nat → Nat} (h : CoveredBut n i c p) (hc : c ≤ n)
    (hd : d ≠ c) :
    CoveredBut n i d (Function.update p c (p d)) := by
  intro r hr
  obtain ⟨j, hj, hjc, hp⟩ := h r hr
  by_cases hjd : j = d
  · refine ⟨c, hc, hd.symm, ?_⟩
    rw [Function.update_self, ← hjd, hp]
  · refine ⟨j, hj, hjd, ?_⟩
    rw [Function.update_of_ne hjc, hp]

theorem shiftColumn_p (delta : Int) (j : Nat) (w : Work) : (shiftColumn delta j w).p = w.p := by
  unfold shiftColumn
  split
  · rfl
  · split <;> rfl

theorem shift_p (delta : Int) (w : Work) : (shift n delta w).p = w.p := by
  unfold shift
  refine loop_keeps (fun t : Work => t.p = w.p) rfl fun j t _ h => ?_
  rw [shiftColumn_p, h]

theorem search_p : ∀ (fuel : Nat) (w : Work) (j0 : Nat),
    (search cost n intMax fuel w j0).1.p = w.p := by
  intro fuel
  induction fuel with
  | zero => exact fun w j0 => rfl
  | succ fuel ih =>
    intro w j0
    have hturn : (turn cost n intMax w j0).1.p = w.p := shift_p _ _
    unfold search
    simp only
    split
    · rw [ih, hturn]
    · exact hturn

theorem augment_covered {i k : Nat} {rank : Nat → Nat} {w0 : Work} {je : Nat}
    (ht : Tree cost n C intMax i k rank w0 je) : ∀ (fuel : Nat) (w : Work) (c : Nat),
    w.way = w0.way → CoveredBut n i c w.p → c ≠ 0 → w0.used c = true ∨ c = je → rank c ≤ fuel →
    Covered n i (augment fuel w c).p := by
  intro fuel
  induction fuel with
  | zero =>
    intro w c _ _ hc0 hcu hf
    have := (ht.back c hcu hc0).2.1
    omega
  | succ fuel ih =>
    intro w c hway h hc0 hcu hf
    obtain ⟨hb1, hb2, _⟩ := ht.back c hcu hc0
    have hcn := ht.le_of_back hcu
    have hne : w0.way c ≠ c := fun he => by rw [he] at hb2; exact Nat.lt_irrefl _ hb2
    have hmove := h.move hcn hne
    unfold augment
    simp only
    rw [hway]
    by_cases hw0 : w0.way c ≠ 0
    · rw [if_pos hw0]
      exact ih _ _ rfl hmove hw0 (Or.inl hb1) (by omega)
    · rw [if_neg hw0]
      rw [Classical.not_not.mp hw0] at hmove ⊢
      intro r hr
      obtain ⟨j, hj, hj0, hp⟩ := hmove r hr
      exact ⟨j, col_of_ne hj hj0, hp⟩

section
variable (hc : ∀ r c, 0 ≤ cost r c ∧ cost r c ≤ C) (hbig : 2 * C < intMax)

include hc hbig in
theorem insertRow_covered {i : Nat} {w : Work} (hi : Col n (i + 1)) (h : Matched cost n i w)
    (hcov : Covered n i w.p) : Covered n (i + 1) (insertRow cost n intMax (i + 1) w).p := by
  obtain ⟨k, rank, ht, hp, hcol⟩ := search_ends hc hbig hi (n + 1) 0 (fun _ => 0) _ 0 (h.tree hc hi)
    (by simp) (Nat.le_refl _)
  have hsame : (search cost n intMax (n + 1)
      { w with p := Function.update w.p 0 (i + 1), minv := fun _ => intMax, used := fun _ => false } 0).1.p =
      Function.update w.p 0 (i + 1) := search_p _ _ _
  unfold insertRow
  simp only
  generalize search cost n intMax (n + 1) _ 0 = r at ht hp hcol hsame ⊢
  have hne : r.2 ≠ 0 := fun h0 => by have := hcol.1; omega
  have hbut : CoveredBut n (i + 1) r.2 r.1.p := by
    intro row hrow
    rw [hsame] at hp ⊢
    rcases hrow.cases with hold | rfl
    · obtain ⟨j, hj, hpj⟩ := hcov row hold
      have hj0 : j ≠ 0 := fun h0 => by have := hj.1; omega
      refine ⟨j, hj.2, fun he => ?_, by rw [Function.update_of_ne hj0, hpj]⟩
      rw [← he, Function.update_of_ne hj0, hpj] at hp
      have := hold.1
      omega
    · exact ⟨0, Nat.zero_le n, hne.symm, by rw [Function.update_self]⟩
  have := ht.k_le
  exact augment_covered ht (n + 1) r.1 r.2 rfl hbut hne (Or.inr rfl) (by rw [ht.rankHead]; omega)

include hc hbig in
theorem solve_covered : Covered n n (solve cost n intMax .zero).p := by
  unfold solve
  refine (loop_ind (fun i w => Matched cost n i w ∧ Covered n i w.p) ⟨?_, ?_⟩ fun i t hi h =>
    ⟨insertRow_matched hc hbig ⟨by omega, hi⟩ h.1,
      insertRow_covered hc hbig ⟨by omega, hi⟩ h.1 h.2⟩).2
  · exact zero_matched hc
  · intro r hr
    unfold Col at hr
    omega

end

/-! ## The columns list the rows -/

/-- The row matched to the zero-based column `j`. -/
def rowOf (p : Nat → Nat) (j : Nat) : Nat := p (j + 1) - 1

theorem Covered.image {p : Nat → Nat} (h : Covered n n p) :
    Finset.range n = (Finset.range n).image (rowOf p) := by
  refine Finset.eq_of_subset_of_card_le (fun r hr => ?_) ?_
  · obtain ⟨j, hj, hp⟩ := h (r + 1) ⟨by omega, Finset.mem_range.mp hr⟩
    have hj1 := hj.1
    refine Finset.mem_image.mpr ⟨j - 1, Finset.mem_range.mpr (by have := hj.2; omega), ?_⟩
    rw [rowOf, Nat.sub_add_cancel hj1, hp]
    omega
  · exact Finset.card_image_le

theorem Covered.injOn {p : Nat → Nat} (h : Covered n n p) :
    Set.InjOn (rowOf p) (Finset.range n : Set Nat) := by
  apply Finset.card_image_iff.mp
  rw [← h.image]

/-- No column is left free: it would share row `0` with the column of row `1`. -/
theorem Covered.ne_zero {p : Nat → Nat} (h : Covered n n p) {j : Nat} (hj : j < n) :
    p (j + 1) ≠ 0 := by
  intro h0
  obtain ⟨l, hl, hp⟩ := h 1 ⟨Nat.le_refl 1, by omega⟩
  have hl1 := hl.1
  have hln := hl.2
  have hrow : rowOf p j = rowOf p (l - 1) := by
    unfold rowOf
    rw [Nat.sub_add_cancel hl1, hp, h0]
  have hsame : j = l - 1 := h.injOn (by simpa using hj) (by simp; omega) hrow
  rw [hsame, Nat.sub_add_cancel hl1] at h0
  omega

theorem Covered.sum {p : Nat → Nat} (h : Covered n n p) (f : Nat → Int) :
    ∑ j ∈ Finset.range n, f (rowOf p j) = ∑ r ∈ Finset.range n, f r := by
  conv_rhs => rw [h.image]
  exact (Finset.sum_image h.injOn).symm

/-! ## A matrix padded with dummies -/

section
variable (a m : Nat) (U : Int) (c : Nat → Nat → Int)

/-- Real rows below `a`, real columns below `m`; leaving one of either out costs `U`. -/
def padded (row col : Nat) : Int :=
  if row < a then if col < m then c row col else U else if col < m then U else 0

/-- The pairs of real rows and columns below the cost `I`. -/
def readRow (I : Int) (p : Nat → Nat) (j : Nat) : Option Nat :=
  if rowOf p j < a ∧ j < m ∧ c (rowOf p j) j < I then some (rowOf p j) else none

/-- The row potential with the cost of leaving the row out taken off. -/
def rowDual (w : Work) (r : Nat) : Int := w.u (r + 1) - if r < a then U else 0

/-- The column potential with the cost of leaving the column out taken off. -/
def colDual (w : Work) (j : Nat) : Int := w.v (j + 1) - if j < m then U else 0

/-- The potentials together. -/
def dualSum (w : Work) : Int :=
  ∑ r ∈ Finset.range (a + m), rowDual a U w r + ∑ j ∈ Finset.range (a + m), colDual m U w j

end

section
variable {a m : Nat} {U I : Int} {c : Nat → Nat → Int} {w : Work}

theorem Dual.le_padded (h : Dual (padded a m U c) (a + m) w) {r j : Nat} (hr : r < a + m)
    (hj : j < a + m) :
    rowDual a U w r + colDual m U w j ≤
      padded a m U c r j - (if r < a then U else 0) - if j < m then U else 0 := by
  have := h.feas (r + 1) (j + 1) ⟨by omega, hr⟩ ⟨by omega, hj⟩
  simp only [red, Nat.add_sub_cancel] at this
  unfold rowDual colDual
  omega

/-- The potentials bound every pairing of the real rows from below. A real row left out goes with
its dummy column, a column left out with its dummy row; the dummies of a pair go together. -/
theorem dualSum_le (h : Dual (padded a m U c) (a + m) w) {q : Nat → Option Nat}
    (hq : Pairs.Valid (fun r j => r < a ∧ c r j < I) m q) :
    dualSum a m U w ≤ Pairs.penal c (2 * U) m q := by
  have hrow : ∀ r, r < a → rowDual a U w r + colDual m U w (m + r) ≤ 0 := by
    intro r hr
    have := h.le_padded (r := r) (j := m + r) (by omega) (by omega)
    simp only [padded, hr, if_true, show ¬ m + r < m by omega, if_false] at this
    omega
  have hcol : ∀ j, j < m → colDual m U w j + rowDual a U w (a + j) ≤ 0 := by
    intro j hj
    have := h.le_padded (r := a + j) (j := j) (by omega) (by omega)
    simp only [padded, hj, if_true, show ¬ a + j < a by omega, if_false] at this
    omega
  have hpair : ∀ r j, r < a → j < m → rowDual a U w r + colDual m U w (m + r) +
      (colDual m U w j + rowDual a U w (a + j)) ≤ c r j - 2 * U := by
    intro r j hr hj
    have h1 := h.le_padded (r := r) (j := j) (by omega) (by omega)
    have h2 := h.le_padded (r := a + j) (j := m + r) (by omega) (by omega)
    simp only [padded, hr, hj, if_true] at h1
    simp only [padded, show ¬ a + j < a by omega, show ¬ m + r < m by omega, if_false] at h2
    omega
  have hrows : ∑ r ∈ Finset.range a, (rowDual a U w r + colDual m U w (m + r)) ≤
      ∑ j ∈ Finset.range m, (q j).elim 0 fun r => rowDual a U w r + colDual m U w (m + r) :=
    Pairs.sum_le_elim _ m (Finset.range a) (fun r hr => hrow r (Finset.mem_range.mp hr))
      (fun j r _ hj => Finset.mem_range.mpr (hq.ok j r hj).1) hq.inj
  have hcols : ∑ j ∈ Finset.range m, ((q j).elim 0
    (fun r => rowDual a U w r + colDual m U w (m + r)) +
      (colDual m U w j + rowDual a U w (a + j))) ≤ Pairs.penal c (2 * U) m q := by
    rw [Pairs.penal_eq]
    refine Finset.sum_le_sum fun j hj => ?_
    have hjm := Finset.mem_range.mp hj
    cases hqj : q j with
    | none =>
      have := hcol j hjm
      simp only [Option.elim_none]
      omega
    | some r => exact hpair r j (hq.ok j r hqj).1 hjm
  have hsplit : dualSum a m U w = ∑ r ∈ Finset.range a, (rowDual a U w r + colDual m U w (m + r)) +
      ∑ j ∈ Finset.range m, (colDual m U w j + rowDual a U w (a + j)) := by
    unfold dualSum
    rw [Finset.sum_range_add, Nat.add_comm a m, Finset.sum_range_add, Finset.sum_add_distrib,
      Finset.sum_add_distrib]
    omega
  rw [Finset.sum_add_distrib] at hcols
  omega

/-- The pairs read from the solution cost at most the potentials: a gated-out pair counts `I`, which
is at least what leaving both out counts. -/
theorem readRow_le (hI : 2 * U ≤ I) (h : Matched (padded a m U c) (a + m) (a + m) w)
    (hcov : Covered (a + m) (a + m) w.p) :
    Pairs.penal c (2 * U) m (readRow a m c I w.p) ≤ dualSum a m U w := by
  have htight : ∀ j, j < a + m → rowDual a U w (rowOf w.p j) + colDual m U w j =
      padded a m U c (rowOf w.p j) j - (if rowOf w.p j < a then U else 0) -
      if j < m then U else 0 := by
    intro j hj
    have h0 := hcov.ne_zero hj
    have := h.tight (j + 1) ⟨by omega, hj⟩ h0
    simp only [red, Nat.add_sub_cancel] at this
    unfold rowDual colDual rowOf
    rw [Nat.sub_add_cancel (Nat.pos_of_ne_zero h0)]
    omega
  have hsum : dualSum a m U w = ∑ j ∈ Finset.range (m + a),
      (rowDual a U w (rowOf w.p j) + colDual m U w j) := by
    unfold dualSum
    rw [← hcov.sum, ← Finset.sum_add_distrib, Nat.add_comm a m]
  -- a dummy column counts nothing
  have hdummy : ∑ x ∈ Finset.range a, (rowDual a U w (rowOf w.p (m + x)) + colDual m U w (m + x)) =
    0 := by
    refine Finset.sum_eq_zero fun x hx => ?_
    have hxa := Finset.mem_range.mp hx
    rw [htight _ (by omega)]
    unfold padded
    simp only [show ¬ m + x < m by omega, if_false]
    split <;> omega
  rw [hsum, Finset.sum_range_add, hdummy, Pairs.penal_eq, add_zero]
  refine Finset.sum_le_sum fun j hj => ?_
  have hjm := Finset.mem_range.mp hj
  rw [htight j (by omega)]
  unfold readRow padded
  simp only [hjm, if_true, true_and]
  by_cases hr : rowOf w.p j < a <;> by_cases hlt : c (rowOf w.p j) j < I <;>
    simp only [hr, hlt, if_true, if_false, true_and, false_and, Option.elim_none,
      Option.elim_some] <;> omega

theorem readRow_valid (I : Int) (hcov : Covered (a + m) (a + m) w.p) :
    Pairs.Valid (fun r j => r < a ∧ c r j < I) m (readRow a m c I w.p) := by
  have hread : ∀ j r, readRow a m c I w.p j = some r →
      j < m ∧ r = rowOf w.p j ∧ r < a ∧ c r j < I := by
    intro j r h
    unfold readRow at h
    split at h
    · next hg => cases h; exact ⟨hg.2.1, rfl, hg.1, hg.2.2⟩
    · cases h
  refine ⟨fun j r h => (hread j r h).1, fun j r h => (hread j r h).2.2, fun i j r hi hj => ?_⟩
  obtain ⟨him, hir, _⟩ := hread i r hi
  obtain ⟨hjm, hjr, _⟩ := hread j r hj
  exact hcov.injOn (by simp; omega) (by simp; omega) (hir.symm.trans hjr)

/-- Of all pairings of the real rows, the one read from the solution has the least penalised total. -/
theorem padded_penal (hI : 2 * U ≤ I) (hc : ∀ r j, 0 ≤ padded a m U c r j ∧ padded a m U c r j ≤ C)
    (hbig : 2 * C < intMax) {q : Nat → Option Nat}
    (hq : Pairs.Valid (fun r j => r < a ∧ c r j < I) m q) :
    Pairs.penal c (2 * U) m (readRow a m c I (solve (padded a m U c) (a + m) intMax .zero).p) ≤
      Pairs.penal c (2 * U) m q :=
  (readRow_le hI (solve_matched hc hbig) (solve_covered hc hbig)).trans
    (dualSum_le (solve_matched hc hbig).dual hq)

end
end Sp11Touch.Hungarian
