import Sp11Touch.Core.Hungarian
import Mathlib.Order.Interval.Finset.Nat
/-!
# What the assignment solver keeps

`Matched i` holds between rows: the rows inserted so far are matched to
distinct columns, the potentials are feasible and tight on the matching, and
free columns have potential zero. `Tree i k rank` holds at the head of the
search loop: `k` columns are used, `way` leads from every used column back to
column `0` along tight pairs and falling `rank`, and `minv` is the least
reduced cost over the used rows. `Hole c` holds while augmenting: everything
but column `c` is a matching. Whenever a column is free, it bounds the
potentials of all the others (`Open`).

Costs lie in `0 .. C` and `2 * C < intMax`, so the search always finds a
column below `intMax`, and it ends at a free column (`search_ends`).
-/
namespace Sp11Touch.Hungarian
open CInt

variable {cost : Nat → Nat → Int} {n : Nat} {C intMax : Int}

/-- The reduced cost of row `r` and column `j`. -/
def red (cost : Nat → Nat → Int) (w : Work) (r j : Nat) : Int := cost (r - 1)
    (j - 1) - w.u r - w.v j

/-- `j` is a column of the matrix. -/
def Col (n j : Nat) : Prop := 1 ≤ j ∧ j ≤ n

instance (n j : Nat) : Decidable (Col n j) := inferInstanceAs (Decidable (1 ≤ j ∧ j ≤ n))

/-- The potentials against the matching `p`. -/
structure Dual (cost : Nat → Nat → Int) (n : Nat) (w : Work) : Prop where
  feas : ∀ r j, Col n r → Col n j → 0 ≤ red cost w r j
  vLe : ∀ j, Col n j → w.v j ≤ 0
  uNonneg : ∀ r, Col n r → 0 ≤ w.u r

/-! ## The scan -/

/-- What the scan has done up to column `m`. -/
structure Scanned (cost : Nat → Nat → Int) (intMax : Int) (w : Work) (j0 m : Nat)
    (s : Scan) : Prop where
  minv : ∀ j, s.minv j = if Col m j ∧ w.used j = false ∧ red cost w (w.p j0) j < w.minv j then
    red cost w (w.p j0) j else w.minv j
  way : ∀ j, s.way j = if Col m j ∧ w.used j = false ∧ red cost w (w.p j0) j < w.minv j then
    j0 else w.way j
  least : ∀ j, Col m j → w.used j = false → s.delta ≤ s.minv j
  j1 : s.delta = intMax ∧ s.j1 = 0 ∨
    s.delta < intMax ∧ Col m s.j1 ∧ w.used s.j1 = false ∧ s.delta = s.minv s.j1

theorem Col.succ {m j : Nat} (h : Col m j) : Col (m + 1) j := ⟨h.1, Nat.le_succ_of_le h.2⟩

theorem Col.cases {m j : Nat} (h : Col (m + 1) j) : Col m j ∨ j = m + 1 := by
  unfold Col at *; omega

theorem not_col_succ (m : Nat) : ¬ Col m (m + 1) := by
  unfold Col; omega

theorem col_last (m : Nat) : Col (m + 1) (m + 1) := ⟨by omega, Nat.le_refl _⟩

/-- The minimum and its column before the comparison with `delta`. -/
theorem Scanned.lower {w : Work} {j0 m : Nat} {s : Scan} (h : Scanned cost intMax w j0 m s) :
    s.minv (m + 1) = w.minv (m + 1) ∧ s.way (m + 1) = w.way (m + 1) := by
  rw [h.minv, h.way, if_neg fun hc => not_col_succ m hc.1, if_neg fun hc => not_col_succ m hc.1]
  exact ⟨rfl, rfl⟩

theorem col_succ_iff {m j : Nat} (h : j ≠ m + 1) : Col (m + 1) j ↔ Col m j :=
  ⟨fun hc => hc.cases.resolve_right h, Col.succ⟩

/-- The first comparison of `scanColumn`: `x` is the reduced cost of column `j`. -/
def lowered (x : Int) (j0 j : Nat) (s : Scan) : Scan :=
  if x < s.minv j then
    { s with minv := Function.update s.minv j x, way := Function.update s.way j j0 } else s

theorem scanColumn_eq (w : Work) (j0 m : Nat) (s : Scan) : scanColumn cost w (w.p j0) j0 (m + 1) s =
    if w.used (m + 1) then s else
      let s := lowered (red cost w (w.p j0) (m + 1)) j0 (m + 1) s
      if s.minv (m + 1) < s.delta then { s with delta := s.minv (m + 1), j1 := m + 1 } else s := rfl

section
variable (x : Int) (j0 j : Nat) (s : Scan)

@[simp] theorem lowered_delta : (lowered x j0 j s).delta = s.delta := by
  unfold lowered; split <;> rfl

@[simp] theorem lowered_j1 : (lowered x j0 j s).j1 = s.j1 := by
  unfold lowered; split <;> rfl

theorem lowered_self : (lowered x j0 j s).minv j = (if x < s.minv j then x else s.minv j) ∧
    (lowered x j0 j s).way j = if x < s.minv j then j0 else s.way j := by
  unfold lowered; split <;> simp

theorem lowered_of_ne {l : Nat} (h : l ≠ j) :
    (lowered x j0 j s).minv l = s.minv l ∧ (lowered x j0 j s).way l = s.way l := by
  unfold lowered; split <;> simp [h]

end

/-- A used column changes nothing. -/
theorem Scanned.skip {w : Work} {j0 m : Nat} {s : Scan} (h : Scanned cost intMax w j0 m s)
    (hu : w.used (m + 1) = true) : Scanned cost intMax w j0 (m + 1) s := by
  have hcol : ∀ j, (Col (m + 1) j ∧ w.used j = false) ↔ (Col m j ∧ w.used j = false) := by
    intro j
    by_cases hj : j = m + 1
    · rw [hj, hu]; simp
    · rw [col_succ_iff hj]
  refine ⟨fun j => ?_, fun j => ?_, fun j hj hn => h.least j ((hcol j).mp ⟨hj, hn⟩).1 hn, ?_⟩
  · rw [h.minv]; simp only [← and_assoc, hcol]
  · rw [h.way]; simp only [← and_assoc, hcol]
  · rcases h.j1 with h1 | ⟨h1, h2, h3, h4⟩
    · exact Or.inl h1
    · exact Or.inr ⟨h1, h2.succ, h3, h4⟩

/-- The minima and predecessors after the first comparison at an unused column. -/
theorem Scanned.minima {w : Work} {j0 m : Nat} {s : Scan} (h : Scanned cost intMax w j0 m s)
    (hu : w.used (m + 1) = false) (j : Nat) :
    (lowered (red cost w (w.p j0) (m + 1)) j0 (m + 1) s).minv j =
      (if Col (m + 1) j ∧ w.used j = false ∧ red cost w (w.p j0) j < w.minv j then
        red cost w (w.p j0) j else w.minv j) ∧
    (lowered (red cost w (w.p j0) (m + 1)) j0 (m + 1) s).way j =
      if Col (m + 1) j ∧ w.used j = false ∧ red cost w (w.p j0) j < w.minv j then j0
        else w.way j := by
  by_cases hj : j = m + 1
  · obtain ⟨hmv, hwy⟩ := h.lower
    subst hj
    simp only [lowered_self, hmv, hwy, col_last m, hu, true_and, and_self]
  · obtain ⟨h1, h2⟩ := lowered_of_ne (red cost w (w.p j0) (m + 1)) j0 (m + 1) s hj
    rw [h1, h2, h.minv, h.way]
    simp only [col_succ_iff hj, and_self]

theorem scanColumn_scanned {w : Work} {j0 m : Nat} {s : Scan} (h : Scanned cost intMax w j0 m s) :
    Scanned cost intMax w j0 (m + 1) (scanColumn cost w (w.p j0) j0 (m + 1) s) := by
  rw [scanColumn_eq]
  cases hu : w.used (m + 1) with
  | true => exact h.skip hu
  | false =>
    simp only [Bool.false_eq_true, if_false]
    have hlow := h.minima hu
    have hold : ∀ j, Col m j →
        (lowered (red cost w (w.p j0) (m + 1)) j0 (m + 1) s).minv j = s.minv j := fun j hc =>
      (lowered_of_ne _ _ _ _ fun he => by rw [he] at hc; exact not_col_succ m hc).1
    have hdelta := lowered_delta (red cost w (w.p j0) (m + 1)) j0 (m + 1) s
    have hj1 := lowered_j1 (red cost w (w.p j0) (m + 1)) j0 (m + 1) s
    generalize lowered (red cost w (w.p j0) (m + 1)) j0 (m + 1) s = s1 at hlow hold hdelta hj1 ⊢
    by_cases hlt : s1.minv (m + 1) < s1.delta
    · -- the column becomes the new least one
      rw [if_pos hlt]
      rw [hdelta] at hlt
      refine ⟨fun j => (hlow j).1, fun j => (hlow j).2, fun j hj hn => ?_,
        Or.inr ⟨?_, col_last m, hu, rfl⟩⟩
      · rcases hj.cases with hc | rfl
        · have := h.least j hc hn
          simp only
          rw [hold j hc]
          omega
        · exact Int.le_refl _
      · rcases h.j1 with h1 | h1 <;> simp only <;> omega
    · rw [if_neg hlt]
      refine ⟨fun j => (hlow j).1, fun j => (hlow j).2, fun j hj hn => ?_, ?_⟩
      · rcases hj.cases with hc | rfl
        · rw [hdelta, hold j hc]; exact h.least j hc hn
        · omega
      · rw [hdelta, hj1]
        rcases h.j1 with h1 | ⟨h1, h2, h3, h4⟩
        · exact Or.inl h1
        · rw [hold _ h2]
          exact Or.inr ⟨h1, h2.succ, h3, h4⟩

theorem scan_scanned (w : Work) (j0 : Nat) :
    Scanned cost intMax w j0 n (scan cost n intMax w j0) := by
  unfold scan
  refine loop_ind (Scanned cost intMax w j0) ?_ fun i t _ h => scanColumn_scanned h
  have hno : ∀ j, ¬ Col 0 j := fun j h => by unfold Col at h; omega
  exact ⟨fun j => by simp [hno], fun j => by simp [hno], fun j h => absurd h (hno j),
    Or.inl ⟨rfl, rfl⟩⟩

section
variable {w : Work} {j0 j : Nat} {s : Scan}

theorem Scanned.minv_le (h : Scanned cost intMax w j0 n s) (hj : Col n j) (hu : w.used j = false) :
    s.minv j ≤ red cost w (w.p j0) j ∧ s.minv j ≤ w.minv j := by
  rw [h.minv]
  simp only [hj, hu, true_and]
  split <;> omega

/-- A column's minimum and predecessor are from this scan or from before it. -/
theorem Scanned.source (h : Scanned cost intMax w j0 n s) (hj : Col n j) (hu : w.used j = false) :
    s.way j = j0 ∧ s.minv j = red cost w (w.p j0) j ∨ s.way j = w.way j ∧ s.minv j = w.minv j := by
  rw [h.minv, h.way]
  simp only [hj, hu, true_and]
  split
  · exact Or.inl ⟨rfl, rfl⟩
  · exact Or.inr ⟨rfl, rfl⟩

theorem Scanned.way_used (h : Scanned cost intMax w j0 n s) (hu : w.used j = true) :
    s.way j = w.way j := by
  rw [h.way]
  simp [hu]

/-- An unused column with a minimum below `intMax` gives the scan its column. -/
theorem Scanned.found (h : Scanned cost intMax w j0 n s) (hj : Col n j) (hu : w.used j = false)
    (hlt : s.minv j < intMax) : Col n s.j1 ∧ w.used s.j1 = false ∧ s.delta = s.minv s.j1 := by
  have hle := h.least j hj hu
  rcases h.j1 with ⟨h1, _⟩ | ⟨_, h2⟩
  · omega
  · exact h2

end

/-! ## The shift -/

/-- The shift of the columns below `m`. -/
structure Shifted (w : Work) (delta : Int) (m : Nat) (t : Work) : Prop where
  p : t.p = w.p
  way : t.way = w.way
  used : t.used = w.used
  v : ∀ j, t.v j = if j < m ∧ w.used j = true then w.v j - delta else w.v j
  minv : ∀ j, t.minv j = if j < m ∧ j ≠ 0 ∧ w.used j = false then w.minv j - delta else w.minv j
  uTree : ∀ j, j < m → w.used j = true → t.u (w.p j) = w.u (w.p j) + delta
  uRest : ∀ r, (∀ j, j < m → w.used j = true → w.p j ≠ r) → t.u r = w.u r

theorem shiftColumn_shifted {w t : Work} {delta : Int} {m : Nat}
    (hinj : ∀ j k, j < m + 1 → k < m + 1 → w.used j = true → w.used k = true →
    w.p j = w.p k → j = k)
    (h : Shifted w delta m t) : Shifted w delta (m + 1) (shiftColumn delta m t) := by
  unfold shiftColumn
  rw [h.used, h.p]
  cases hu : w.used m with
  | true =>
    have hum : t.u (w.p m) = w.u (w.p m) := h.uRest _ fun j hj hused he =>
      absurd (hinj j m (Nat.lt_succ_of_lt hj) (Nat.lt_succ_self m) hused hu he) (Nat.ne_of_lt hj)
    simp only [if_true]
    refine ⟨rfl, h.way, rfl, fun j => ?_, fun j => ?_, fun j hj hused => ?_, fun r hr => ?_⟩
    · by_cases hjm : j = m
      · subst hjm; simp [hu, h.v]
      · simp [hjm, h.v, lt_succ_iff_of_ne hjm]
    · by_cases hjm : j = m
      · subst hjm; simp [hu, h.minv]
      · simp [h.minv, lt_succ_iff_of_ne hjm]
    · by_cases hjm : j = m
      · subst hjm; simp [hum]
      · have hne : w.p j ≠ w.p m := fun he => hjm (hinj j m hj (Nat.lt_succ_self m) hused hu he)
        simp [hne, h.uTree j (by omega) hused]
    · have hne : r ≠ w.p m := fun he => hr m (Nat.lt_succ_self m) hu he.symm
      simp [hne, h.uRest r fun j hj => hr j (Nat.lt_succ_of_lt hj)]
  | false =>
    simp only [Bool.false_eq_true, if_false]
    have hv : ∀ j, t.v j = if j < m + 1 ∧ w.used j = true then w.v j - delta else w.v j := by
      intro j
      by_cases hjm : j = m
      · subst hjm; simp [hu, h.v]
      · simp [h.v, lt_succ_iff_of_ne hjm]
    have hu1 : ∀ j, j < m + 1 → w.used j = true → t.u (w.p j) = w.u (w.p j) + delta := by
      intro j hj hused
      have hjm : j ≠ m := fun he => by rw [he, hu] at hused; cases hused
      exact h.uTree j (by omega) hused
    have hu2 : ∀ r, (∀ j, j < m + 1 → w.used j = true → w.p j ≠ r) → t.u r = w.u r := fun r hr =>
      h.uRest r fun j hj => hr j (Nat.lt_succ_of_lt hj)
    by_cases hm0 : m = 0
    · rw [if_neg (not_not_intro hm0)]
      refine ⟨h.p, h.way, h.used, hv, fun j => ?_, hu1, hu2⟩
      have : (j < m + 1 ∧ j ≠ 0 ∧ w.used j = false) ↔ (j < m ∧ j ≠ 0 ∧ w.used j = false) := by omega
      rw [h.minv]; simp only [this]
    · rw [if_pos hm0]
      refine ⟨rfl, h.way, rfl, hv, fun j => ?_, hu1, hu2⟩
      by_cases hjm : j = m
      · subst hjm; simp [hu, hm0, h.minv]
      · simp [hjm, h.minv, lt_succ_iff_of_ne hjm]

theorem shift_shifted {w : Work} (delta : Int)
    (hinj : ∀ j k, j ≤ n → k ≤ n → w.used j = true → w.used k = true → w.p j = w.p k → j = k) :
    Shifted w delta (n + 1) (shift n delta w) := by
  unfold shift
  refine loop_ind (Shifted w delta) ?_ fun i t hi h =>
    shiftColumn_shifted (fun j k hj hk => hinj j k (by omega) (by omega)) h
  exact ⟨rfl, rfl, rfl, fun j => by simp, fun j => by simp,
    fun j hj => absurd hj (Nat.not_lt_zero j),
    fun _ _ => rfl⟩

section
variable {w t : Work} {delta : Int} {j l : Nat}

theorem Shifted.v_col (h : Shifted w delta (n + 1) t) (hj : Col n j) :
    t.v j = if w.used j = true then w.v j - delta else w.v j := by
  have hlt : j < n + 1 := Nat.lt_succ_of_le hj.2
  rw [h.v]
  simp only [hlt, true_and]

theorem Shifted.minv_col (h : Shifted w delta (n + 1) t) (hj : Col n j) (hu : w.used j = false) :
    t.minv j = w.minv j - delta := by
  have hlt : j < n + 1 := Nat.lt_succ_of_le hj.2
  have hne : j ≠ 0 := Nat.ne_of_gt hj.1
  rw [h.minv]
  simp [hlt, hne, hu]

/-- A tree row and a used column keep their reduced cost. -/
theorem Shifted.red_used (h : Shifted w delta (n + 1) t) (hln : l ≤ n) (hl : w.used l = true)
    (hj : Col n j) (hu : w.used j = true) : red cost t (w.p l) j = red cost w (w.p l) j := by
  unfold red
  rw [h.uTree l (Nat.lt_succ_of_le hln) hl, h.v_col hj, if_pos hu]
  omega

/-- A tree row and an unused column come closer by `delta`. -/
theorem Shifted.red_unused (h : Shifted w delta (n + 1) t) (hln : l ≤ n) (hl : w.used l = true)
    (hj : Col n j) (hu : w.used j = false) : red cost t (w.p l) j =
    red cost w (w.p l) j - delta := by
  unfold red
  rw [h.uTree l (Nat.lt_succ_of_le hln) hl, h.v_col hj, hu, if_neg Bool.false_ne_true]
  omega

/-- A row outside the tree. -/
theorem Shifted.red_rest (h : Shifted w delta (n + 1) t) {r : Nat}
    (hr : ∀ l, w.used l = true → w.p l ≠ r)
    (hj : Col n j) : red cost t r j = red cost w r j + if w.used j = true then delta else 0 := by
  unfold red
  rw [h.uRest r fun l _ hl => hr l hl, h.v_col hj]
  split <;> omega

end

/-! ## One turn of the search -/

/-- Column `0` holds the row being inserted, the others hold earlier rows. -/
structure Rows (i n : Nat) (p : Nat → Nat) : Prop where
  p0 : p 0 = i
  lt : ∀ j, Col n j → p j < i
  inj : ∀ j l, Col n j → Col n l → p j ≠ 0 → p j = p l → j = l

theorem col_of_ne {j : Nat} (h : j ≤ n) (h0 : j ≠ 0) : Col n j := ⟨Nat.pos_of_ne_zero h0, h⟩

theorem Rows.inj0 {i : Nat} {p : Nat → Nat} (h : Rows i n p) {j l : Nat} (hj : j ≤ n) (hl : l ≤ n)
    (hp : p j ≠ 0) (he : p j = p l) : j = l := by
  by_cases hj0 : j = 0 <;> by_cases hl0 : l = 0
  · rw [hj0, hl0]
  · have := h.lt l (col_of_ne hl hl0)
    rw [← he, hj0, h.p0] at this
    exact absurd this (Nat.lt_irrefl i)
  · have := h.lt j (col_of_ne hj hj0)
    rw [he, hl0, h.p0] at this
    exact absurd this (Nat.lt_irrefl i)
  · exact h.inj j l (col_of_ne hj hj0) (col_of_ne hl hl0) hp he

/-- Fewer than `n` rows leave a column free. -/
theorem Rows.exists_free {i : Nat} {p : Nat → Nat} (h : Rows i n p) (hi : Col n i) :
    ∃ f, Col n f ∧ p f = 0 := by
  by_contra hno
  have hne : ∀ j, Col n j → p j ≠ 0 := fun j hj h0 => hno ⟨j, hj, h0⟩
  have hcard : (Finset.Icc 1 n).card ≤ (Finset.Icc 1 (i - 1)).card := by
    apply Finset.card_le_card_of_injOn p
    · intro j hj
      have hc : Col n j := by simpa [Col] using hj
      have := h.lt j hc
      have := hne j hc
      simp only [Finset.coe_Icc, Set.mem_Icc]
      omega
    · intro j hj l hl he
      have hcj : Col n j := by simpa [Col] using hj
      have hcl : Col n l := by simpa [Col] using hl
      exact h.inj j l hcj hcl (hne j hcj) he
  have := hi.1
  have := hi.2
  simp only [Nat.card_Icc] at hcard
  omega

/-- How many of the columns `0 .. n` are unused. -/
def unused (n : Nat) (w : Work) : Nat := ((Finset.range (n + 1)).filter fun j =>
    w.used j = false).card

structure Tree (cost : Nat → Nat → Int) (n : Nat) (C intMax : Int) (i k : Nat) (rank : Nat → Nat)
    (w : Work) (j0 : Nat) : Prop where
  dual : Dual cost n w
  rows : Rows i n w.p
  tight : ∀ j, Col n j → w.p j ≠ 0 → red cost w (w.p j) j = 0
  free : ∀ j, Col n j → w.p j = 0 → w.v j = 0
  vBound : ∀ j, Col n j → w.used j = false → -C ≤ w.v j
  usedP : ∀ j, w.used j = true → j ≤ n ∧ w.p j ≠ 0
  head : j0 ≤ n ∧ w.used j0 = false
  count : unused n w + k = n + 1
  rankUsed : ∀ j, w.used j = true → rank j < k
  rankHead : rank j0 = k
  back : ∀ j, w.used j = true ∨ j = j0 → j ≠ 0 → w.used (w.way j) = true ∧
    rank (w.way j) < rank j ∧ red cost w (w.p (w.way j)) j = 0
  minvLe : ∀ j l, Col n j → w.used j = false → w.used l = true → w.minv j ≤ red cost w (w.p l) j
  minvAt : ∀ j, Col n j → w.used j = false → w.minv j < intMax →
    w.used (w.way j) = true ∧ w.minv j = red cost w (w.p (w.way j)) j

theorem Rows.row {i : Nat} {p : Nat → Nat} (h : Rows i n p) (hi : Col n i) {l : Nat} (hl : l ≤ n)
    (hp : p l ≠ 0) : Col n (p l) := by
  by_cases hl0 : l = 0
  · rw [hl0, h.p0]; exact hi
  · have := h.lt l (col_of_ne hl hl0)
    exact ⟨Nat.pos_of_ne_zero hp, by have := hi.2; omega⟩

/-- The state of a turn after its scan, before the shift. -/
structure Ripe (cost : Nat → Nat → Int) (n : Nat) (intMax : Int) (i k : Nat) (rank : Nat → Nat)
    (C : Int)
    (w : Work) (s : Scan) : Prop where
  dual : Dual cost n w
  rows : Rows i n w.p
  tight : ∀ j, Col n j → w.p j ≠ 0 → red cost w (w.p j) j = 0
  free : ∀ j, Col n j → w.p j = 0 → w.v j = 0
  vBound : ∀ j, Col n j → w.used j = false → -C ≤ w.v j
  usedP : ∀ j, w.used j = true → j ≤ n ∧ w.p j ≠ 0
  count : unused n w + k = n + 1
  rankUsed : ∀ j, w.used j = true → rank j < k
  back : ∀ j, w.used j = true → j ≠ 0 → w.used (w.way j) = true ∧
    rank (w.way j) < rank j ∧ red cost w (w.p (w.way j)) j = 0
  minvLe : ∀ j l, Col n j → w.used j = false → w.used l = true → w.minv j ≤ red cost w (w.p l) j
  minvAt : ∀ j, Col n j → w.used j = false →
    w.used (w.way j) = true ∧ w.minv j = red cost w (w.p (w.way j)) j
  least : ∀ j, Col n j → w.used j = false → s.delta ≤ w.minv j
  j1 : Col n s.j1 ∧ w.used s.j1 = false ∧ s.delta = w.minv s.j1

/-- Marking the head and scanning. -/
def scanned (cost : Nat → Nat → Int) (n : Nat) (intMax : Int) (w : Work) (j0 : Nat) : Work × Scan :=
  let w := { w with used := Function.update w.used j0 true }
  let s := scan cost n intMax w j0
  ({ w with minv := s.minv, way := s.way }, s)

theorem turn_eq (w : Work) (j0 : Nat) : turn cost n intMax w j0 =
    (shift n (scanned cost n intMax w j0).2.delta (scanned cost n intMax w j0).1,
      (scanned cost n intMax w j0).2.j1) := rfl

theorem unused_mark {w : Work} {j0 : Nat} (hle : j0 ≤ n) (hu : w.used j0 = false) :
    unused n { w with used := Function.update w.used j0 true } + 1 = unused n w := by
  have he : ((Finset.range (n + 1)).filter fun j => Function.update w.used j0 true j = false) =
      ((Finset.range (n + 1)).filter fun j => w.used j = false).erase j0 := by
    ext j
    by_cases hj : j = j0
    · subst hj; simp
    · simp [hj]
  unfold unused
  simp only [he]
  exact Finset.card_erase_add_one (by simp [hu]; omega)

theorem mark_used {used : Nat → Bool} {j0 j : Nat} :
    Function.update used j0 true j = true ↔ used j = true ∨ j = j0 := by
  by_cases hj : j = j0
  · subst hj; simp
  · simp [hj]

theorem mark_fresh {used : Nat → Bool} {j0 j : Nat} :
    Function.update used j0 true j = false ↔ used j = false ∧ j ≠ j0 := by
  by_cases hj : j = j0
  · subst hj; simp
  · simp [hj]

section
variable (hc : ∀ r c, 0 ≤ cost r c ∧ cost r c ≤ C) (hbig : 2 * C < intMax)

include hc in
theorem Dual.red_le {w : Work} (h : Dual cost n w) {r j : Nat} (hr : Col n r) (hv : -C ≤ w.v j) :
    red cost w r j ≤ 2 * C := by
  have h1 := h.uNonneg r hr
  have h2 := hc (r - 1) (j - 1)
  unfold red
  omega

include hc hbig in
theorem Tree.ripe {i k : Nat} {rank : Nat → Nat} {w : Work} {j0 : Nat} (hi : Col n i)
    (h : Tree cost n C intMax i k rank w j0) (hp : w.p j0 ≠ 0) :
    Ripe cost n intMax i (k + 1) rank C (scanned cost n intMax w j0).1
      (scanned cost n intMax w j0).2 := by
  have hs : Scanned cost intMax { w with used := Function.update w.used j0 true } j0 n
    (scan cost n intMax { w with used := Function.update w.used j0 true } j0) := scan_scanned _ _
  unfold scanned
  simp only
  generalize scan cost n intMax { w with used := Function.update w.used j0 true } j0 = s at hs ⊢
  have husedP : ∀ j, Function.update w.used j0 true j = true → j ≤ n ∧ w.p j ≠ 0 := by
    intro j hj
    rcases mark_used.mp hj with hu | rfl
    · exact h.usedP j hu
    · exact ⟨h.head.1, hp⟩
  -- every unused column has a minimum below `intMax`, so a row of the tree reaches it
  have hlt : ∀ j, Col n j → Function.update w.used j0 true j = false → s.minv j < intMax := by
    intro j hj hu
    have hsmall : red cost w (w.p j0) j ≤ 2 * C :=
      h.dual.red_le hc (h.rows.row hi h.head.1 hp) (h.vBound j hj (mark_fresh.mp hu).1)
    have hle : s.minv j ≤ red cost w (w.p j0) j := (hs.minv_le hj hu).1
    omega
  have hat : ∀ j, Col n j → Function.update w.used j0 true j = false →
      Function.update w.used j0 true (s.way j) = true ∧
      s.minv j = red cost w (w.p (s.way j)) j := by
    intro j hj hu
    have hmin := hlt j hj hu
    rcases hs.source hj hu with ⟨hw, hm⟩ | ⟨hw, hm⟩
    · rw [hw]
      exact ⟨mark_used.mpr (Or.inr rfl), hm⟩
    · rw [hm] at hmin
      obtain ⟨h1, h2⟩ := h.minvAt j hj (mark_fresh.mp hu).1 hmin
      rw [hw]
      exact ⟨mark_used.mpr (Or.inl h1), hm.trans h2⟩
  refine { dual := ⟨h.dual.feas, h.dual.vLe, h.dual.uNonneg⟩, rows := h.rows, tight := h.tight,
           free := h.free, vBound := fun j hj hu => h.vBound j hj (mark_fresh.mp hu).1,
           usedP := husedP, count := ?_, rankUsed := ?_, back := ?_, minvLe := ?_, minvAt := hat,
           least := hs.least, j1 := ?_ }
  · have h1 := unused_mark (w := w) h.head.1 h.head.2
    have h2 := h.count
    change unused n { w with used := Function.update w.used j0 true } + (k + 1) = n + 1
    omega
  · intro j hj
    rcases mark_used.mp hj with hu | rfl
    · exact Nat.lt_succ_of_lt (h.rankUsed j hu)
    · rw [h.rankHead]; exact Nat.lt_succ_self k
  · intro j hj hj0
    obtain ⟨h1, h2, h3⟩ := h.back j (mark_used.mp hj) hj0
    simp only [hs.way_used hj]
    exact ⟨mark_used.mpr (Or.inl h1), h2, h3⟩
  · intro j l hj hu hl
    rcases mark_used.mp hl with hul | rfl
    · exact Int.le_trans (hs.minv_le hj hu).2 (h.minvLe j l hj (mark_fresh.mp hu).1 hul)
    · exact (hs.minv_le hj hu).1
  · -- a free column is unused
    obtain ⟨f, hf, hpf⟩ := h.rows.exists_free hi
    have huf : Function.update w.used j0 true f = false :=
      Bool.eq_false_iff.mpr fun hu => (husedP f hu).2 hpf
    exact hs.found hf huf (hlt f hf huf)

/-- The column the scan found is at a distance from the tree that is not negative. -/
theorem Ripe.delta_nonneg {i k : Nat} {rank : Nat → Nat} {w : Work} {s : Scan} (hi : Col n i)
    (h : Ripe cost n intMax i k rank C w s) : 0 ≤ s.delta := by
  obtain ⟨hc1, hu1, hd1⟩ := h.j1
  obtain ⟨hm1, hm2⟩ := h.minvAt s.j1 hc1 hu1
  obtain ⟨hwn, hwp⟩ := h.usedP _ hm1
  rw [hd1, hm2]
  exact h.dual.feas _ s.j1 (h.rows.row hi hwn hwp) hc1

theorem Ripe.shifted {i k : Nat} {rank : Nat → Nat} {w : Work} {s : Scan}
    (h : Ripe cost n intMax i k rank C w s) : Shifted w s.delta (n + 1) (shift n s.delta w) :=
  shift_shifted s.delta fun _ _ hj hl huj _ he => h.rows.inj0 hj hl (h.usedP _ huj).2 he

/-- The shift keeps the potentials feasible: `delta` is at most every distance. -/
theorem Ripe.dual_shift {i k : Nat} {rank : Nat → Nat} {w t : Work} {s : Scan} (hi : Col n i)
    (h : Ripe cost n intMax i k rank C w s) (ht : Shifted w s.delta (n + 1) t) : Dual cost n t := by
  have hdelta := h.delta_nonneg hi
  refine ⟨fun r j hr hj => ?_, fun j hj => ?_, fun r hr => ?_⟩
  · have hfeas := h.dual.feas r j hr hj
    by_cases hex : ∃ l, w.used l = true ∧ w.p l = r
    · obtain ⟨l, hl, rfl⟩ := hex
      have hln := (h.usedP l hl).1
      cases hu : w.used j with
      | true => rw [ht.red_used hln hl hj hu]; exact hfeas
      | false =>
        have h1 := h.least j hj hu
        have h2 := h.minvLe j l hj hu hl
        rw [ht.red_unused hln hl hj hu]; omega
    · rw [ht.red_rest (fun l hl he => hex ⟨l, hl, he⟩) hj]
      split <;> omega
  · have hv := h.dual.vLe j hj
    rw [ht.v_col hj]
    split <;> omega
  · have hu := h.dual.uNonneg r hr
    by_cases hex : ∃ l, w.used l = true ∧ w.p l = r
    · obtain ⟨l, hl, rfl⟩ := hex
      rw [ht.uTree l (Nat.lt_succ_of_le (h.usedP l hl).1) hl]; omega
    · rw [ht.uRest r fun l _ hl he => hex ⟨l, hl, he⟩]; exact hu

/-- A matched pair stays tight: both sides are shifted, or neither. -/
theorem Ripe.tight_shift {i k : Nat} {rank : Nat → Nat} {w t : Work} {s : Scan} {j : Nat}
    (h : Ripe cost n intMax i k rank C w s) (ht : Shifted w s.delta (n + 1) t)
    (hj : Col n j) (hp : w.p j ≠ 0) : red cost t (w.p j) j = 0 := by
  cases hu : w.used j with
  | true => rw [ht.red_used hj.2 hu hj hu]; exact h.tight j hj hp
  | false =>
    have hout : ∀ l, w.used l = true → w.p l ≠ w.p j := by
      intro l hl he
      obtain ⟨hln, hlp⟩ := h.usedP l hl
      rw [h.rows.inj0 hln hj.2 hlp he, hu] at hl
      cases hl
    rw [ht.red_rest hout hj, h.tight j hj hp, hu]; rfl

/-- The shift makes the pair of `j1` tight and keeps everything else. -/
theorem Ripe.tree {i k : Nat} {rank : Nat → Nat} {w : Work} {s : Scan} (hi : Col n i)
    (h : Ripe cost n intMax i k rank C w s) :
    Tree cost n C intMax i k (Function.update rank s.j1 k) (shift n s.delta w) s.j1 := by
  obtain ⟨hc1, hu1, hd1⟩ := h.j1
  have ht := h.shifted
  generalize shift n s.delta w = t at ht ⊢
  have hcount : unused n t = unused n w := by unfold unused; rw [ht.used]
  have hne : ∀ j, w.used j = true → j ≠ s.j1 := fun j hj he => by rw [he, hu1] at hj; cases hj
  refine { dual := h.dual_shift hi ht, rows := ht.p ▸ h.rows, tight := ?_, free := ?_, vBound := ?_,
           usedP := ?_, head := ⟨hc1.2, ht.used ▸ hu1⟩, count := hcount ▸ h.count, rankUsed := ?_,
           rankHead := Function.update_self .., back := ?_, minvLe := ?_, minvAt := ?_ }
  · intro j hj hp
    rw [ht.p] at hp ⊢
    exact h.tight_shift ht hj hp
  · intro j hj hp
    rw [ht.p] at hp
    have hu : w.used j = false := Bool.eq_false_iff.mpr fun hu => (h.usedP j hu).2 hp
    rw [ht.v_col hj, hu]
    exact h.free j hj hp
  · intro j hj hu
    rw [ht.used] at hu
    rw [ht.v_col hj, hu]
    exact h.vBound j hj hu
  · intro j hj
    rw [ht.used] at hj
    rw [ht.p]
    exact h.usedP j hj
  · intro j hj
    rw [ht.used] at hj
    rw [Function.update_of_ne (hne j hj)]
    exact h.rankUsed j hj
  · intro j hj hj0
    rw [ht.used] at hj
    rw [ht.used, ht.p, ht.way]
    by_cases hj1 : j = s.j1
    · -- the new head: its minimum is attained at its predecessor
      subst hj1
      obtain ⟨hm1, hm2⟩ := h.minvAt s.j1 hc1 hu1
      rw [Function.update_self, Function.update_of_ne (hne _ hm1),
        ht.red_unused (h.usedP _ hm1).1 hm1 hc1 hu1]
      exact ⟨hm1, h.rankUsed _ hm1, by omega⟩
    · have hu := hj.resolve_right hj1
      obtain ⟨hb1, hb2, hb3⟩ := h.back j hu hj0
      rw [Function.update_of_ne hj1, Function.update_of_ne (hne _ hb1),
        ht.red_used (h.usedP _ hb1).1 hb1 (col_of_ne (h.usedP j hu).1 hj0) hu]
      exact ⟨hb1, hb2, hb3⟩
  · intro j l hj hu hl
    rw [ht.used] at hu hl
    have hmin := h.minvLe j l hj hu hl
    rw [ht.p, ht.minv_col hj hu, ht.red_unused (h.usedP l hl).1 hl hj hu]
    omega
  · intro j hj hu _
    rw [ht.used] at hu
    obtain ⟨hm1, hm2⟩ := h.minvAt j hj hu
    rw [ht.used, ht.p, ht.way, ht.minv_col hj hu, ht.red_unused (h.usedP _ hm1).1 hm1 hj hu]
    exact ⟨hm1, by omega⟩

/-! ## The whole search -/

theorem unused_pos {w : Work} {j0 : Nat} (hle : j0 ≤ n) (hu : w.used j0 = false) :
    0 < unused n w := by
  have := unused_mark hle hu
  omega

theorem Tree.le_of_back {i k : Nat} {rank : Nat → Nat} {w : Work} {j0 c : Nat}
    (h : Tree cost n C intMax i k rank w j0) (hc : w.used c = true ∨ c = j0) : c ≤ n := by
  rcases hc with hu | rfl
  · exact (h.usedP c hu).1
  · exact h.head.1

theorem Tree.k_le {i k : Nat} {rank : Nat → Nat} {w : Work} {j0 : Nat}
    (h : Tree cost n C intMax i k rank w j0) : k ≤ n := by
  have h1 := unused_pos h.head.1 h.head.2
  have h2 := h.count
  omega

include hc hbig in
/-- With fuel for every unused column the search ends, at a free column. -/
theorem search_ends {i : Nat} (hi : Col n i) : ∀ (fuel k : Nat) (rank : Nat → Nat) (w : Work)
    (j0 : Nat),
    Tree cost n C intMax i k rank w j0 → w.p j0 ≠ 0 → n + 1 ≤ fuel + k →
    ∃ k' rank', Tree cost n C intMax i k' rank' (search cost n intMax fuel w j0).1
      (search cost n intMax fuel w j0).2 ∧
      (search cost n intMax fuel w j0).1.p (search cost n intMax fuel w j0).2 = 0 ∧
      Col n (search cost n intMax fuel w j0).2 := by
  intro fuel
  induction fuel with
  | zero =>
    intro k rank w j0 h _ hf
    have := h.k_le
    omega
  | succ fuel ih =>
    intro k rank w j0 h hp hf
    have hr := h.ripe hc hbig hi hp
    have ht := hr.tree hi
    have hcol := hr.j1.1
    unfold search
    rw [turn_eq]
    generalize shift n (scanned cost n intMax w j0).2.delta
      (scanned cost n intMax w j0).1 = t at ht ⊢
    generalize (scanned cost n intMax w j0).2.j1 = j1 at ht hcol ⊢
    by_cases hpj : t.p j1 ≠ 0
    · simp only [if_pos hpj]
      exact ih (k + 1) _ t j1 ht hpj (by omega)
    · simp only [if_neg hpj]
      exact ⟨k + 1, _, ht, by simpa using hpj, hcol⟩

/-! ## The augmentation -/

/-- Between rows: `i` rows are matched. -/
structure Matched (cost : Nat → Nat → Int) (n i : Nat) (w : Work) : Prop where
  dual : Dual cost n w
  pLe : ∀ j, Col n j → w.p j ≤ i
  inj : ∀ j l, Col n j → Col n l → w.p j ≠ 0 → w.p j = w.p l → j = l
  tight : ∀ j, Col n j → w.p j ≠ 0 → red cost w (w.p j) j = 0
  free : ∀ j, Col n j → w.p j = 0 → w.v j = 0

/-- A matching but for column `c`; columns of lower rank are as in `w0`. -/
structure Hole (cost : Nat → Nat → Int) (n i : Nat) (rank : Nat → Nat) (w0 w : Work) (c : Nat) : Prop where
  u : w.u = w0.u
  v : w.v = w0.v
  way : w.way = w0.way
  pLe : ∀ j, j ≤ n → w.p j ≤ i
  inj : ∀ j l, j ≤ n → l ≤ n → j ≠ c → l ≠ c → w.p j ≠ 0 → w.p j = w.p l → j = l
  tight : ∀ j, Col n j → j ≠ c → w.p j ≠ 0 → red cost w0 (w.p j) j = 0
  free : ∀ j, Col n j → j ≠ c → w.p j = 0 → w0.v j = 0
  old : ∀ j, rank j < rank c → w.p j = w0.p j

/-- Filling column `c` moves the hole to its predecessor. -/
theorem Hole.step {i k : Nat} {rank : Nat → Nat} {w0 w : Work} {je c : Nat}
    (ht : Tree cost n C intMax i k rank w0 je) (h : Hole cost n i rank w0 w c)
    (hc0 : c ≠ 0) (hcu : w0.used c = true ∨ c = je) :
    Hole cost n i rank w0 { w with p := Function.update w.p c (w.p (w.way c)) } (w.way c) := by
  obtain ⟨hb1, hb2, hb3⟩ := ht.back c hcu hc0
  obtain ⟨hwn, hwp⟩ := ht.usedP _ hb1
  rw [h.way]
  have hpold : w.p (w0.way c) = w0.p (w0.way c) := h.old _ hb2
  have hne : w0.way c ≠ c := fun he => by rw [he] at hb2; exact Nat.lt_irrefl _ hb2
  have hval : ∀ j, j ≠ c → Function.update w.p c (w.p (w0.way c)) j = w.p j := fun j hj =>
    Function.update_of_ne hj _ _
  refine { u := h.u, v := h.v, way := rfl, pLe := ?_, inj := ?_, tight := ?_, free := ?_, old := ?_ }
  · intro j hj
    by_cases hjc : j = c
    · subst hjc; simp only [Function.update_self]; exact h.pLe _ hwn
    · simp only [hval j hjc]; exact h.pLe j hj
  · intro j l hj hl hjw hlw hp he
    by_cases hjc : j = c <;> by_cases hlc : l = c
    · rw [hjc, hlc]
    · subst hjc
      simp only [Function.update_self, hval l hlc] at hp he
      exact absurd (h.inj _ l hwn hl hne hlc hp he).symm hlw
    · subst hlc
      simp only [Function.update_self, hval j hjc] at hp he
      exact absurd (h.inj j _ hj hwn hjc hne hp he) hjw
    · simp only [hval j hjc, hval l hlc] at hp he
      exact h.inj j l hj hl hjc hlc hp he
  · intro j hj _ hp
    by_cases hjc : j = c
    · subst hjc; simp only [Function.update_self]; rw [hpold]; exact hb3
    · simp only [hval j hjc] at hp ⊢; exact h.tight j hj hjc hp
  · intro j hj _ hp
    by_cases hjc : j = c
    · subst hjc
      simp only [Function.update_self] at hp
      exact absurd (hpold ▸ hp) hwp
    · simp only [hval j hjc] at hp; exact h.free j hj hjc hp
  · intro j hj
    have hjc : j ≠ c := fun he => by rw [he] at hj; omega
    simp only [hval j hjc]
    exact h.old j (by omega)

theorem Hole.matched {i k : Nat} {rank : Nat → Nat} {w0 w : Work} {je : Nat}
    (ht : Tree cost n C intMax i k rank w0 je) (h : Hole cost n i rank w0 w 0) :
    Matched cost n i w := by
  have hred : ∀ r j, red cost w r j = red cost w0 r j := by
    intro r j; unfold red; rw [h.u, h.v]
  have hne : ∀ j, Col n j → j ≠ 0 := fun j hj h0 => by have := hj.1; omega
  refine { dual := ⟨?_, ?_, ?_⟩, pLe := fun j hj => h.pLe j hj.2,
           inj := fun j l hj hl => h.inj j l hj.2 hl.2 (hne j hj) (hne l hl), tight :=
           ?_, free := ?_ }
  · intro r j hr hj; rw [hred]; exact ht.dual.feas r j hr hj
  · intro j hj; rw [h.v]; exact ht.dual.vLe j hj
  · intro r hr; rw [h.u]; exact ht.dual.uNonneg r hr
  · intro j hj hp; rw [hred]; exact h.tight j hj (hne j hj) hp
  · intro j hj hp; rw [h.v]; exact h.free j hj (hne j hj) hp

theorem augment_matched {i k : Nat} {rank : Nat → Nat} {w0 : Work} {je : Nat}
    (ht : Tree cost n C intMax i k rank w0 je) : ∀ (fuel : Nat) (w : Work) (c : Nat),
    Hole cost n i rank w0 w c → c ≠ 0 → w0.used c = true ∨ c = je → rank c ≤ fuel →
    Matched cost n i (augment fuel w c) := by
  intro fuel
  induction fuel with
  | zero =>
    intro w c _ hc0 hcu hf
    have := (ht.back c hcu hc0).2.1
    omega
  | succ fuel ih =>
    intro w c h hc0 hcu hf
    obtain ⟨hb1, hb2, _⟩ := ht.back c hcu hc0
    have hs := h.step ht hc0 hcu
    unfold augment
    simp only
    rw [h.way] at hs ⊢
    by_cases hw0 : w0.way c ≠ 0
    · rw [if_pos hw0]
      exact ih _ _ hs hw0 (Or.inl hb1) (by omega)
    · rw [if_neg hw0]
      rw [Classical.not_not.mp hw0] at hs ⊢
      exact hs.matched ht

/-! ## Open columns -/

include hc in
/-- A free column bounds all row potentials. -/
theorem Dual.u_le {w : Work} (h : Dual cost n w) {f r : Nat} (hf : Col n f) (hv : w.v f = 0)
    (hr : Col n r) :
    w.u r ≤ C := by
  have h1 := h.feas r f hr hf
  have h2 := hc (r - 1) (f - 1)
  unfold red at h1
  omega

/-- All columns are matched tightly or free, and one is free. -/
structure Open (cost : Nat → Nat → Int) (n i : Nat) (w : Work) : Prop where
  dual : Dual cost n w
  rows : Rows i n w.p
  tight : ∀ j, Col n j → w.p j ≠ 0 → red cost w (w.p j) j = 0
  free : ∀ j, Col n j → w.p j = 0 → w.v j = 0

include hc in
theorem Open.u_le {i : Nat} {w : Work} (hi : Col n i) (h : Open cost n i w) {r : Nat}
    (hr : Col n r) : w.u r ≤ C := by
  obtain ⟨f, hf, hpf⟩ := h.rows.exists_free hi
  exact h.dual.u_le hc hf (h.free f hf hpf) hr

include hc in
theorem Open.le_v {i : Nat} {w : Work} (hi : Col n i) (h : Open cost n i w) {j : Nat}
    (hj : Col n j) : -C ≤ w.v j := by
  have h0 := hc (w.p j - 1) (j - 1)
  by_cases hp : w.p j = 0
  · have := h.free j hj hp
    omega
  · have h1 := h.tight j hj hp
    have h2 := h.u_le hc hi (h.rows.row hi hj.2 hp)
    unfold red at h1
    omega

theorem Tree.toOpen {i k : Nat} {rank : Nat → Nat} {w : Work} {j0 : Nat} (h : Tree cost n C intMax i k rank w j0) :
    Open cost n i w := ⟨h.dual, h.rows, h.tight, h.free⟩

/-! ## All rows -/

include hc in
/-- The first head of row `i + 1`: column `0`, nothing used. -/
theorem Matched.tree {i : Nat} {w : Work} (hi : Col n (i + 1)) (h : Matched cost n i w) :
    Tree cost n C intMax (i + 1) 0 (fun _ => 0)
      { w with p := Function.update w.p 0 (i + 1), minv := fun _ => intMax, used := fun _ => false } 0 := by
  have hne : ∀ j, Col n j → j ≠ 0 := fun j hj h0 => by have := hj.1; omega
  have hval : ∀ j, Col n j → Function.update w.p 0 (i + 1) j = w.p j := fun j hj =>
    Function.update_of_ne (hne j hj) _ _
  have hrows : Rows (i + 1) n (Function.update w.p 0 (i + 1)) := by
    refine ⟨by simp, fun j hj => ?_, fun j l hj hl hp he => ?_⟩
    · rw [hval j hj]; exact Nat.lt_succ_of_le (h.pLe j hj)
    · rw [hval j hj] at hp he; rw [hval l hl] at he; exact h.inj j l hj hl hp he
  have hopen : Open cost n (i + 1)
      { w with p := Function.update w.p 0 (i + 1), minv := fun _ => intMax, used := fun _ => false } := by
    refine ⟨⟨h.dual.feas, h.dual.vLe, h.dual.uNonneg⟩, hrows, fun j hj hp => ?_, fun j hj hp => ?_⟩
    · simp only [hval j hj] at hp ⊢
      exact h.tight j hj hp
    · simp only [hval j hj] at hp
      exact h.free j hj hp
  exact { dual := hopen.dual, rows := hrows, tight := hopen.tight, free := hopen.free
          vBound := fun j hj _ => hopen.le_v hc hi hj, usedP := by simp, head := ⟨Nat.zero_le n, rfl⟩
          count := by simp [unused], rankUsed := by simp, rankHead := rfl, back := by simp, minvLe := by simp
          minvAt := by simp }

include hc hbig in
theorem insertRow_matched {i : Nat} {w : Work} (hi : Col n (i + 1)) (h : Matched cost n i w) :
    Matched cost n (i + 1) (insertRow cost n intMax (i + 1) w) := by
  obtain ⟨k, rank, ht, hp, hcol⟩ := search_ends hc hbig hi (n + 1) 0 (fun _ => 0) _ 0 (h.tree hc hi)
    (by simp) (Nat.le_refl _)
  unfold insertRow
  simp only
  generalize search cost n intMax (n + 1) _ 0 = r at ht hp hcol ⊢
  have hrow : ∀ j, j ≤ n → r.1.p j ≤ i + 1 := by
    intro j hj
    by_cases hj0 : j = 0
    · rw [hj0, ht.rows.p0]
    · exact Nat.le_of_lt (ht.rows.lt j (col_of_ne hj hj0))
  have hhole : Hole cost n (i + 1) rank r.1 r.1 r.2 :=
    { u := rfl, v := rfl, way := rfl, pLe := hrow
      inj := fun j l hj hl _ _ hpj he => ht.rows.inj0 hj hl hpj he
      tight := fun j hj _ hpj => ht.tight j hj hpj
      free := fun j hj _ hpj => ht.free j hj hpj
      old := fun _ _ => rfl }
  have := ht.k_le
  refine augment_matched ht (n + 1) r.1 r.2 hhole (fun h0 => ?_) (Or.inr rfl)
    (by rw [ht.rankHead]; omega)
  have := hcol.1
  omega

include hc in
/-- No row is inserted yet. -/
theorem zero_matched : Matched cost n 0 .zero := by
  refine { dual := ⟨fun r j _ _ => ?_, fun j _ => Int.le_refl 0, fun r _ => Int.le_refl 0⟩
           pLe := fun j _ => Nat.le_refl 0, inj := ?_, tight := ?_, free := fun _ _ _ => rfl }
  · have := hc (r - 1) (j - 1)
    unfold red
    simp [Work.zero, this.1]
  · intro j l _ _ hp
    exact absurd rfl hp
  · intro j _ hp
    exact absurd rfl hp

include hc hbig in
/-- The solver matches distinct rows to distinct columns. -/
theorem solve_matched : Matched cost n n (solve cost n intMax .zero) := by
  unfold solve
  exact loop_ind (Matched cost n) (zero_matched hc) fun i t hi h =>
    insertRow_matched hc hbig ⟨by omega, hi⟩ h

end
end Sp11Touch.Hungarian
