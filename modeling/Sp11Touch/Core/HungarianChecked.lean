import Sp11Touch.Core.HungarianInv
/-!
# The assignment solver never leaves its arrays or its integers

The same solver on arrays of `size + 1` entries (`size` times `size` costs) and
integers between `intMin` and `intMax`: every index and every sum is checked,
a search that finds no column fails, and so does a loop that outlives its
fuel. For costs in `0 .. C` with room for `2 * C` and `- n * C` no check fails
(`solveChecked_ok`).

The column potentials lie in `- C .. 0`, the row potentials in `0 .. C` as long
as a column is free, and reduced costs, minima and `delta` in `0 .. 2 * C`.
Only `v 0` goes on falling; every row takes it down by at most `C`, what the
row's own potential goes up (`Ints`).
-/
namespace Sp11Touch.Hungarian
open CInt

inductive Fault where
  | index
  | range
  /-- A scan selects no column, `j1 = 0`. -/
  | noColumn
  /-- A `do .. while` loop goes on after `n + 1` turns. -/
  | endless
deriving DecidableEq, Repr

/-- The sizes of the arrays and of `int`. -/
structure Limits where
  size : Nat
  intMin : Int
  intMax : Int

namespace Limits
variable {α : Type} (m : Limits)

/-- `a[i]` -/
def get (a : Nat → α) (i : Nat) : Except Fault α := if i ≤ m.size then .ok (a i) else .error .index

/-- `a[i] = x` -/
def set (a : Nat → α) (i : Nat) (x : α) : Except Fault (Nat → α) :=
  if i ≤ m.size then .ok (Function.update a i x) else .error .index

/-- `cost[row - 1][col - 1]` -/
def getCost (cost : Nat → Nat → Int) (row col : Nat) : Except Fault Int :=
  if (1 ≤ row ∧ row ≤ m.size) ∧ 1 ≤ col ∧ col ≤ m.size then .ok (cost (row - 1) (col - 1))
    else .error .index

/-- `cost[row][col] = x` -/
def setCost (cost : Nat → Nat → Int) (row col : Nat) (x : Int) : Except Fault (Nat → Nat → Int) :=
  if row < m.size ∧ col < m.size then .ok (Function.update cost row
    (Function.update (cost row) col x))
  else .error .index

/-- A value computed in `int`. -/
def int (x : Int) : Except Fault Int := if m.intMin ≤ x ∧ x ≤ m.intMax then .ok x else .error .range

end Limits

/-- The turns `0 .. n - 1` of a loop whose body can fail. -/
def loopChecked {σ : Type} : Nat → (Nat → σ → Except Fault σ) → σ → Except Fault σ
  | 0, _, s => .ok s
  | n + 1, body, s => loopChecked n body s >>= body n

section
variable (m : Limits) (cost : Nat → Nat → Int) (n : Nat)

/-- The loops that fill the cost matrix. -/
def fillChecked (entry : Nat → Nat → Except Fault Int) : Except Fault (Nat → Nat → Int) :=
  loopChecked n (fun row => loopChecked n fun col cost => do
    let x ← entry row col
    m.setCost cost row col x) fun _ _ => 0

def lowerChecked (reducedCost : Int) (j0 j : Nat) (s : Scan) : Except Fault Scan := do
  let least ← m.get s.minv j
  if reducedCost < least then do
    let minv ← m.set s.minv j reducedCost
    let way ← m.set s.way j j0
    return { s with minv := minv, way := way }
  else .ok s

def takeChecked (j : Nat) (s : Scan) : Except Fault Scan := do
  let least ← m.get s.minv j
  if least < s.delta then .ok { s with delta := least, j1 := j } else .ok s

def scanColumnChecked (w : Work) (i0 j0 j : Nat) (s : Scan) : Except Fault Scan := do
  let used ← m.get w.used j
  if used then .ok s
  else do
    let price ← m.getCost cost i0 j
    let rowPotential ← m.get w.u i0
    let rest ← m.int (price - rowPotential)
    let colPotential ← m.get w.v j
    let reducedCost ← m.int (rest - colPotential)
    let s ← lowerChecked m reducedCost j0 j s
    takeChecked m j s

def scanChecked (w : Work) (j0 : Nat) : Except Fault Scan := do
  let i0 ← m.get w.p j0
  loopChecked n (fun j => scanColumnChecked m cost w i0 j0 (j + 1)) ⟨w.minv, w.way, m.intMax, 0⟩

def shiftColumnChecked (delta : Int) (j : Nat) (w : Work) : Except Fault Work := do
  let used ← m.get w.used j
  if used then do
    let row ← m.get w.p j
    let rowPotential ← m.get w.u row
    let raised ← m.int (rowPotential + delta)
    let u ← m.set w.u row raised
    let colPotential ← m.get w.v j
    let lowered ← m.int (colPotential - delta)
    let v ← m.set w.v j lowered
    return { w with u := u, v := v }
  else if j ≠ 0 then do
    let least ← m.get w.minv j
    let lowered ← m.int (least - delta)
    let minv ← m.set w.minv j lowered
    return { w with minv := minv }
  else .ok w

def turnChecked (w : Work) (j0 : Nat) : Except Fault (Work × Nat) := do
  let used ← m.set w.used j0 true
  let w := { w with used := used }
  let s ← scanChecked m cost n w j0
  if s.j1 = 0 then .error .noColumn
  else do
    let w ← loopChecked (n + 1) (shiftColumnChecked m s.delta)
      { w with minv := s.minv, way := s.way }
    return (w, s.j1)

def searchChecked : Nat → Work → Nat → Except Fault (Work × Nat)
  | 0, _, _ => .error .endless
  | fuel + 1, w, j0 => do
    let next ← turnChecked m cost n w j0
    let row ← m.get next.1.p next.2
    if row ≠ 0 then searchChecked fuel next.1 next.2 else .ok next

def augmentChecked : Nat → Work → Nat → Except Fault Work
  | 0, _, _ => .error .endless
  | fuel + 1, w, j0 => do
    let j1 ← m.get w.way j0
    let row ← m.get w.p j1
    let p ← m.set w.p j0 row
    let w := { w with p := p }
    if j1 ≠ 0 then augmentChecked fuel w j1 else .ok w

/-- The loop that resets `minv` and `used`; what lies behind `n` is never read. -/
def resetChecked (w : Work) : Except Fault Work := do
  loopChecked (n + 1) (fun j _ => do
    let _ ← m.set w.minv j m.intMax
    let _ ← m.set w.used j false
    return ()) ()
  return { w with minv := fun _ => m.intMax, used := fun _ => false }

def insertRowChecked (i : Nat) (w : Work) : Except Fault Work := do
  let p ← m.set w.p 0 i
  let w ← resetChecked m n { w with p := p }
  let found ← searchChecked m cost n (n + 1) w 0
  augmentChecked m (n + 1) found.1 found.2

def solveChecked (w : Work) : Except Fault Work :=
  loopChecked n (fun i => insertRowChecked m cost n (i + 1)) w

end

/-! ## Checks that pass -/

section
variable {m : Limits} {σ τ : Type}

@[simp] theorem ok_bind (a : σ) (f : σ → Except Fault τ) : (Except.ok a >>= f) = f a := rfl

theorem get_ok (a : Nat → σ) {i : Nat} (h : i ≤ m.size) : m.get a i = .ok (a i) := if_pos h

theorem set_ok (a : Nat → σ) {i : Nat} (x : σ) (h : i ≤ m.size) :
    m.set a i x = .ok (Function.update a i x) := if_pos h

theorem getCost_ok (cost : Nat → Nat → Int) {row col : Nat} (hrow : Col m.size row)
    (hcol : Col m.size col) :
    m.getCost cost row col = .ok (cost (row - 1) (col - 1)) := if_pos ⟨hrow, hcol⟩

theorem int_ok {x : Int} (h : m.intMin ≤ x) (h' : x ≤ m.intMax) : m.int x = .ok x := if_pos ⟨h, h'⟩

theorem loopChecked_ind {body : Nat → σ → Except Fault σ} (I : Nat → σ → Prop) {s : σ} {n : Nat}
    (h0 : I 0 s)
    (hstep : ∀ i t, i < n → I i t → ∃ t', body i t = .ok t' ∧ I (i + 1) t') :
    ∃ t, loopChecked n body s = .ok t ∧ I n t := by
  induction n with
  | zero => exact ⟨s, rfl, h0⟩
  | succ n ih =>
    obtain ⟨t, hrun, hinv⟩ := ih fun i t hi => hstep i t (Nat.lt_succ_of_lt hi)
    rw [loopChecked, hrun, ok_bind]
    exact hstep n t (Nat.lt_succ_self n) hinv

/-- A loop no turn of which fails. -/
theorem loopChecked_ok {bodyChecked : Nat → σ → Except Fault σ} {body : Nat → σ → σ}
    (I : Nat → σ → Prop)
    {s : σ} {n : Nat} (h0 : I 0 s) (hstep : ∀ i t, i < n → I i t → I (i + 1) (body i t))
    (hok : ∀ i t, i < n → I i t → bodyChecked i t = .ok (body i t)) :
    loopChecked n bodyChecked s = .ok (loop n body s) := by
  obtain ⟨t, hrun, ht, _⟩ := loopChecked_ind (fun i t => t = loop i body s ∧ I i t)
    ⟨(loop_zero body s).symm, h0⟩
    fun i t hi h => ⟨body i t, hok i t hi h.2, by rw [h.1, loop_succ], hstep i t hi h.2⟩
  rw [hrun, ht]

theorem Col.mono {k n j : Nat} (h : Col n j) (hle : n ≤ k) : Col k j := ⟨h.1, Nat.le_trans h.2 hle⟩

end

/-! ## The bounds of the potentials -/

variable {m : Limits} {cost : Nat → Nat → Int} {n : Nat} {C : Int}

/-- Room for `n` rows of costs in `0 .. C`. -/
structure Limits.Room (m : Limits) (n : Nat) (C : Int) : Prop where
  size : n ≤ m.size
  low : m.intMin ≤ -(n * C)
  high : 2 * C < m.intMax

theorem Limits.Room.row_low (h : m.Room n C) (hC : 0 ≤ C) {i : Nat} (hi : i ≤ n) :
    m.intMin ≤ -(i * C) := by
  have hle : (i : Int) * C ≤ n * C := Int.mul_le_mul_of_nonneg_right (Int.ofNat_le.mpr hi) hC
  have := h.low
  omega

theorem Limits.Room.low_one (h : m.Room n C) (hC : 0 ≤ C) {i : Nat} (hi : Col n i) :
    m.intMin ≤ -C := by
  have := h.row_low hC (Nat.le_trans hi.1 hi.2)
  omega

section
variable {w : Work} (hc : ∀ r c, 0 ≤ cost r c ∧ cost r c ≤ C)

variable {i : Nat} (hi : Col n i)

/-- While row `i` is inserted: what `v 0` has lost in this row is in the row's own potential. -/
structure Ints (C : Int) (i : Nat) (w : Work) : Prop where
  sum : -((i - 1 : Nat) * C) ≤ w.v 0 + w.u i
  v0 : w.v 0 ≤ 0
  fresh : ∀ r, i < r → w.u r = 0

include hc hi in
theorem Ints.v0_low (h : Ints C i w) (ho : Open cost n i w) : -(i * C) ≤ w.v 0 := by
  have hu := ho.u_le hc hi hi
  have hsum := h.sum
  have hi1 : ((i - 1 : Nat) : Int) = i - 1 := by
    have := hi.1
    omega
  have hmul : ((i : Int) - 1) * C = i * C - C := by rw [Int.sub_mul, Int.one_mul]
  rw [hi1, hmul] at hsum
  omega

end

/-! ## The scan -/

section
variable {i k : Nat} {rank : Nat → Nat} {w : Work} {j0 : Nat}

theorem lowerChecked_ok (x : Int) (j0 : Nat) {j : Nat} (s : Scan) (hj : j ≤ m.size) :
    lowerChecked m x j0 j s = .ok (lowered x j0 j s) := by
  unfold lowerChecked lowered
  rw [get_ok _ hj, ok_bind, set_ok _ _ hj, ok_bind, set_ok _ _ hj, ok_bind]
  split <;> rfl

theorem takeChecked_ok {j : Nat} (s : Scan) (hj : j ≤ m.size) :
    takeChecked m j s = .ok (if s.minv j < s.delta then { s with delta := s.minv j, j1 := j }
    else s) := by
  unfold takeChecked
  rw [get_ok _ hj, ok_bind]
  split <;> rfl

theorem scanColumnChecked_ok {i0 j : Nat} (s : Scan) (hrow : Col m.size i0)
    (hj : Col m.size j) (h1 : m.intMin ≤ cost (i0 - 1) (j - 1) - w.u i0)
    (h2 : cost (i0 - 1) (j - 1) - w.u i0 ≤ m.intMax)
    (h3 : w.used j = false → m.intMin ≤ red cost w i0 j ∧ red cost w i0 j ≤ m.intMax) :
    scanColumnChecked m cost w i0 j0 j s = .ok (scanColumn cost w i0 j0 j s) := by
  unfold scanColumnChecked scanColumn
  rw [get_ok _ hj.2, ok_bind]
  cases hu : w.used j with
  | true => rfl
  | false =>
    obtain ⟨h3, h4⟩ := h3 hu
    unfold red at h3 h4
    simp only [Bool.false_eq_true, if_false, getCost_ok cost hrow hj, get_ok _ hrow.2,
      get_ok _ hj.2, int_ok h1 h2,
      int_ok h3 h4, ok_bind, lowerChecked_ok _ _ _ hj.2]
    exact takeChecked_ok _ hj.2

variable (hc : ∀ r c, 0 ≤ cost r c ∧ cost r c ≤ C) (hm : m.Room n C) (hi : Col n i)

include hc hm hi in
theorem scanChecked_ok (h : Tree cost n C m.intMax i k rank w j0) (hp : w.p j0 ≠ 0) :
    scanChecked m cost n { w with used := Function.update w.used j0 true } j0 =
      .ok (scan cost n m.intMax { w with used := Function.update w.used j0 true } j0) := by
  have hC : 0 ≤ C := Int.le_trans (hc 0 0).1 (hc 0 0).2
  have hlow := hm.low_one hC hi
  have hhigh := hm.high
  have hrow := h.rows.row hi h.head.1 hp
  unfold scanChecked scan
  rw [get_ok _ (Nat.le_trans h.head.1 hm.size), ok_bind]
  refine loopChecked_ok (fun _ _ => True) trivial (fun _ _ _ _ => trivial) fun j s hj _ => ?_
  have hcol : Col n (j + 1) := ⟨Nat.succ_pos j, hj⟩
  have hcost := hc (w.p j0 - 1) j
  have hu0 := h.dual.uNonneg _ hrow
  have huC := h.toOpen.u_le hc hi hrow
  refine scanColumnChecked_ok s (hrow.mono hm.size) (hcol.mono hm.size) ?_ ?_ fun hu => ⟨?_, ?_⟩
  · simp only [Nat.add_sub_cancel]
    omega
  · simp only [Nat.add_sub_cancel]
    omega
  · have hred := h.dual.feas _ _ hrow hcol
    change m.intMin ≤ red cost w (w.p j0) (j + 1)
    omega
  · have hred := h.dual.red_le hc hrow (h.vBound _ hcol (mark_fresh.mp hu).1)
    change red cost w (w.p j0) (j + 1) ≤ m.intMax
    omega

end
/-! ## The shift -/

section
variable {w : Work} {delta : Int} {j : Nat}

theorem shiftColumnChecked_used (hj : j ≤ m.size) (hused : w.used j = true) (hp : w.p j ≤ m.size)
    (hu : m.intMin ≤ w.u (w.p j) + delta ∧ w.u (w.p j) + delta ≤ m.intMax)
    (hv : m.intMin ≤ w.v j - delta ∧ w.v j - delta ≤ m.intMax) :
    shiftColumnChecked m delta j w = .ok (shiftColumn delta j w) := by
  unfold shiftColumnChecked shiftColumn
  simp only [get_ok _ hj, ok_bind, hused, if_true, get_ok _ hp, int_ok hu.1 hu.2, set_ok _ _ hp,
    int_ok hv.1 hv.2,
    set_ok _ _ hj]
  rfl

theorem shiftColumnChecked_unused (hj : j ≤ m.size) (hused : w.used j = false)
    (hv : j ≠ 0 → m.intMin ≤ w.minv j - delta ∧ w.minv j - delta ≤ m.intMax) :
    shiftColumnChecked m delta j w = .ok (shiftColumn delta j w) := by
  unfold shiftColumnChecked shiftColumn
  rw [get_ok _ hj, ok_bind, hused, if_neg Bool.false_ne_true, if_neg Bool.false_ne_true]
  by_cases h0 : j = 0
  · rw [if_neg (not_not_intro h0), if_neg (not_not_intro h0)]
  · rw [if_pos h0, if_pos h0, get_ok _ hj, ok_bind, int_ok (hv h0).1 (hv h0).2, ok_bind,
      set_ok _ _ hj, ok_bind]
    rfl

end

section
variable {i k : Nat} {rank : Nat → Nat} {w t : Work} {s : Scan} {intMax : Int} {j : Nat}

/-- All used columns hang on column `0`. -/
theorem Ripe.used_zero (h : Ripe cost n intMax i k rank C w s) (hu : w.used j = true) :
    w.used 0 = true := by
  induction hr : rank j using Nat.strong_induction_on generalizing j with
  | _ r ih =>
    by_cases hj : j = 0
    · exact hj ▸ hu
    · obtain ⟨hback, hlt, _⟩ := h.back j hu hj
      exact ih _ (hr ▸ hlt) hback rfl

variable (hc : ∀ r c, 0 ≤ cost r c ∧ cost r c ≤ C) (hm : m.Room n C) (hi : Col n i)

include hi in
/-- `delta` moves from `v 0` to the row's own potential. -/
theorem Ints.shift (h : Ints C i w) (hr : Ripe cost n intMax i k rank C w s) :
    Ints C i (shift n s.delta w) := by
  have ht := hr.shifted
  have h0 : w.used 0 = true := hr.used_zero (hr.minvAt s.j1 hr.j1.1 hr.j1.2.1).1
  have hv : (Hungarian.shift n s.delta w).v 0 = w.v 0 - s.delta := by
    rw [ht.v, if_pos ⟨Nat.succ_pos n, h0⟩]
  have hu : (Hungarian.shift n s.delta w).u i = w.u i + s.delta := by
    have := ht.uTree 0 (Nat.succ_pos n) h0
    rwa [hr.rows.p0] at this
  have hdelta := hr.delta_nonneg hi
  have hv0 := h.v0
  refine ⟨?_, ?_, fun r hlt => ?_⟩
  · rw [hv, hu]
    have := h.sum
    omega
  · omega
  · rw [ht.uRest r fun l hl _ he => ?_]
    · exact h.fresh r hlt
    · by_cases hl0 : l = 0
      · rw [hl0, hr.rows.p0] at he
        omega
      · have := hr.rows.lt l (col_of_ne (Nat.le_of_lt_succ hl) hl0)
        omega

include hc hi in
theorem Ripe.shift_u (h : Ripe cost n intMax i k rank C w s) (hj : j ≤ n) (hu : w.used j = true) :
    0 ≤ w.u (w.p j) + s.delta ∧ w.u (w.p j) + s.delta ≤ C := by
  have hopen := (h.tree hi).toOpen
  have hrow := h.rows.row hi hj (h.usedP j hu).2
  rw [← h.shifted.uTree j (Nat.lt_succ_of_le hj) hu]
  exact ⟨hopen.dual.uNonneg _ hrow, hopen.u_le hc hi hrow⟩

include hc hm hi in
theorem Ripe.shift_v (h : Ripe cost n intMax i k rank C w s) (hw : Ints C i w) (hj : j ≤ n)
    (hu : w.used j = true) :
    m.intMin ≤ w.v j - s.delta ∧ w.v j - s.delta ≤ 0 := by
  have hC : 0 ≤ C := Int.le_trans (hc 0 0).1 (hc 0 0).2
  have hopen := (h.tree hi).toOpen
  have hv := h.shifted.v j
  rw [if_pos ⟨Nat.lt_succ_of_le hj, hu⟩] at hv
  rw [← hv]
  by_cases h0 : j = 0
  · have hints := hw.shift hi h
    rw [h0]
    exact ⟨Int.le_trans (hm.row_low hC hi.2) (hints.v0_low hc hi hopen), hints.v0⟩
  · have hcol := col_of_ne hj h0
    exact ⟨Int.le_trans (hm.low_one hC hi) (hopen.le_v hc hi hcol), hopen.dual.vLe j hcol⟩

include hc hi in
theorem Ripe.shift_minv (h : Ripe cost n intMax i k rank C w s) (hj : Col n j)
    (hu : w.used j = false) :
    0 ≤ w.minv j - s.delta ∧ w.minv j - s.delta ≤ 2 * C := by
  obtain ⟨hway, hat⟩ := h.minvAt j hj hu
  obtain ⟨hle, hp⟩ := h.usedP _ hway
  have hred := h.dual.red_le hc (h.rows.row hi hle hp) (h.vBound j hj hu)
  have hleast := h.least j hj hu
  have hdelta := h.delta_nonneg hi
  omega

include hc hm hi in
theorem shiftChecked_ok (h : Ripe cost n intMax i k rank C w s) (hw : Ints C i w) :
    loopChecked (n + 1) (shiftColumnChecked m s.delta) w = .ok (shift n s.delta w) := by
  have hC : 0 ≤ C := Int.le_trans (hc 0 0).1 (hc 0 0).2
  have hlow := hm.low_one hC hi
  have hhigh := hm.high
  have hinj : ∀ j l, j ≤ n → l ≤ n → w.used j = true → w.used l = true → w.p j = w.p l → j = l :=
    fun _ _ hj hl huj _ he => h.rows.inj0 hj hl (h.usedP _ huj).2 he
  have h0 : Shifted w s.delta 0 w :=
    ⟨rfl, rfl, rfl, fun j => by simp, fun j => by simp, fun j hj => absurd hj (Nat.not_lt_zero j),
      fun _ _ => rfl⟩
  unfold shift
  refine loopChecked_ok (Shifted w s.delta) h0 (fun j t hj ht =>
    shiftColumn_shifted (fun l l' hl hl' => hinj l l' (by omega) (by omega)) ht) fun j t hj ht => ?_
  have hjn : j ≤ n := Nat.le_of_lt_succ hj
  have hsize := Nat.le_trans hjn hm.size
  cases hu : w.used j with
  | true =>
    have hrow := h.rows.row hi hjn (h.usedP j hu).2
    have hum : t.u (w.p j) = w.u (w.p j) := ht.uRest _ fun l hl hused he =>
      absurd (hinj l j (by omega) hjn hused hu he) (Nat.ne_of_lt hl)
    have hvm : t.v j = w.v j := by rw [ht.v, if_neg fun hlt => Nat.lt_irrefl j hlt.1]
    have hsu := h.shift_u hc hi hjn hu
    have hsv := h.shift_v hc hm hi hw hjn hu
    refine shiftColumnChecked_used hsize (ht.used ▸ hu) ?_ ?_ ?_
    · rw [ht.p]
      exact Nat.le_trans hrow.2 hm.size
    · rw [ht.p, hum]
      omega
    · rw [hvm]
      omega
  | false =>
    have hmm : t.minv j = w.minv j := by rw [ht.minv, if_neg fun hlt => Nat.lt_irrefl j hlt.1]
    refine shiftColumnChecked_unused hsize (ht.used ▸ hu) fun hne => ?_
    have hsm := h.shift_minv hc hi (col_of_ne hjn hne) hu
    rw [hmm]
    omega

end
/-! ## The search and the augmentation -/

section
variable {i : Nat} (hc : ∀ r c, 0 ≤ cost r c ∧ cost r c ≤ C) (hm : m.Room n C) (hi : Col n i)

include hc hm hi in
theorem turnChecked_ok {k : Nat} {rank : Nat → Nat} {w : Work} {j0 : Nat}
    (h : Tree cost n C m.intMax i k rank w j0)
    (hw : Ints C i w) (hp : w.p j0 ≠ 0) : turnChecked m cost n w j0 =
      .ok (turn cost n m.intMax w j0) := by
  have hr := h.ripe hc hm.high hi hp
  have hj1 : (scanned cost n m.intMax w j0).2.j1 ≠ 0 := Nat.ne_of_gt hr.j1.1.1
  have hshift := shiftChecked_ok hc hm hi hr ⟨hw.sum, hw.v0, hw.fresh⟩
  unfold turnChecked
  rw [set_ok _ _ (Nat.le_trans h.head.1 hm.size), ok_bind]
  simp only [scanChecked_ok hc hm hi h hp, ok_bind]
  rw [turn_eq]
  unfold scanned at hshift hj1 ⊢
  rw [if_neg hj1, hshift, ok_bind]
  rfl

include hc hm hi in
theorem searchChecked_ok : ∀ (fuel k : Nat) (rank : Nat → Nat) (w : Work) (j0 : Nat),
    Tree cost n C m.intMax i k rank w j0 → Ints C i w → w.p j0 ≠ 0 → n + 1 ≤ fuel + k →
    searchChecked m cost n fuel w j0 = .ok (search cost n m.intMax fuel w j0) ∧
      Ints C i (search cost n m.intMax fuel w j0).1 := by
  intro fuel
  induction fuel with
  | zero =>
    intro k rank w j0 h _ _ hf
    have := h.k_le
    omega
  | succ fuel ih =>
    intro k rank w j0 h hw hp hf
    have hr := h.ripe hc hm.high hi hp
    have ht := hr.tree hi
    have hints : Ints C i (shift n (scanned cost n m.intMax w j0).2.delta
      (scanned cost n m.intMax w j0).1) :=
      Ints.shift hi ⟨hw.sum, hw.v0, hw.fresh⟩ hr
    have hcol := hr.j1.1
    unfold searchChecked search
    rw [turnChecked_ok hc hm hi h hw hp, turn_eq, ok_bind]
    generalize shift n (scanned cost n m.intMax w j0).2.delta (scanned cost n m.intMax w j0).1 =
      t at ht hints ⊢
    generalize (scanned cost n m.intMax w j0).2.j1 = j1 at ht hcol ⊢
    simp only [get_ok _ (Nat.le_trans hcol.2 hm.size), ok_bind]
    by_cases hpj : t.p j1 ≠ 0
    · rw [if_pos hpj, if_pos hpj]
      exact ih (k + 1) _ t j1 ht hints hpj (by omega)
    · rw [if_neg hpj, if_neg hpj]
      exact ⟨rfl, hints⟩

/-- The matching is shifted back along falling ranks, so `rank c` turns suffice. -/
theorem augmentChecked_ok {intMax : Int} {k : Nat} {rank : Nat → Nat} {w0 : Work} {je : Nat}
    (hn : n ≤ m.size)
    (ht : Tree cost n C intMax i k rank w0 je) : ∀ (fuel : Nat) (w : Work)
      (c : Nat), w.way = w0.way →
    c ≠ 0 → w0.used c = true ∨ c = je → rank c ≤ fuel →
      augmentChecked m fuel w c = .ok (augment fuel w c) := by
  intro fuel
  induction fuel with
  | zero =>
    intro w c _ hc0 hcu hf
    have := (ht.back c hcu hc0).2.1
    omega
  | succ fuel ih =>
    intro w c hway hc0 hcu hf
    obtain ⟨hb1, hb2, _⟩ := ht.back c hcu hc0
    have hcn := ht.le_of_back hcu
    have hwn : w.way c ≤ m.size := by
      rw [hway]
      exact Nat.le_trans (ht.usedP _ hb1).1 hn
    have hcm := Nat.le_trans hcn hn
    unfold augmentChecked augment
    simp only [get_ok _ hcm, get_ok _ hwn, set_ok _ _ hcm, ok_bind]
    by_cases hw0 : w.way c ≠ 0
    · rw [if_pos hw0, if_pos hw0]
      refine ih _ _ hway hw0 (Or.inl (hway ▸ hb1)) ?_
      rw [hway]
      omega
    · rw [if_neg hw0, if_neg hw0]

theorem augment_potentials (fuel : Nat) (w : Work) (c : Nat) : (augment fuel w c).u = w.u ∧
    (augment fuel w c).v = w.v := by
  induction fuel generalizing w c with
  | zero => exact ⟨rfl, rfl⟩
  | succ fuel ih =>
    unfold augment
    simp only
    split
    · exact ih _ _
    · exact ⟨rfl, rfl⟩

theorem resetChecked_ok (hn : n ≤ m.size) (w : Work) :
    resetChecked m n w = .ok { w with minv := fun _ => m.intMax, used := fun _ => false } := by
  have hloop : loopChecked (n + 1) (fun j _ => do
      let _ ← m.set w.minv j m.intMax
      let _ ← m.set w.used j false
      return ()) () = .ok (loop (n + 1) (fun _ s => s) ()) := by
    refine loopChecked_ok (fun _ _ => True) trivial (fun _ _ _ _ => trivial) fun j _ hj _ => ?_
    have hsize := Nat.le_trans (Nat.le_of_lt_succ hj) hn
    rw [set_ok _ _ hsize, ok_bind, set_ok _ _ hsize, ok_bind]
    rfl
  unfold resetChecked
  rw [hloop, ok_bind]
  rfl

end

/-! ## All rows -/

/-- Between rows: `v 0` has lost at most `C` for each row. -/
structure Rested (C : Int) (i : Nat) (w : Work) : Prop where
  v0 : -(i * C) ≤ w.v 0 ∧ w.v 0 ≤ 0
  fresh : ∀ r, i < r → w.u r = 0

section
variable {i : Nat} (hc : ∀ r c, 0 ≤ cost r c ∧ cost r c ≤ C) (hm : m.Room n C)

theorem Rested.ints {w : Work} (h : Rested C i w) : Ints C (i + 1) w := by
  refine ⟨?_, h.v0.2, fun r hr => h.fresh r (Nat.lt_of_succ_lt hr)⟩
  rw [h.fresh (i + 1) (Nat.lt_succ_self i), Nat.add_sub_cancel, Int.add_zero]
  exact h.v0.1

include hc hm in
theorem insertRowChecked_ok {w : Work} (hi : Col n (i + 1)) (h : Matched cost n i w)
    (hw : Rested C i w) :
    insertRowChecked m cost n (i + 1) w = .ok (insertRow cost n m.intMax (i + 1) w) ∧
      Rested C (i + 1) (insertRow cost n m.intMax (i + 1) w) := by
  have htree : Tree cost n C m.intMax (i + 1) 0 (fun _ => 0) _ 0 := h.tree hc hi
  have hints := hw.ints
  have hp0 : Function.update w.p 0 (i + 1) 0 ≠ 0 := by simp
  obtain ⟨hrun, hend⟩ := searchChecked_ok hc hm hi (n + 1) 0 (fun _ => 0) _ 0 htree
    ⟨hints.sum, hints.v0, hints.fresh⟩ hp0 (Nat.le_refl _)
  obtain ⟨k, rank, ht, _, hcol⟩ := search_ends hc hm.high hi (n + 1) 0 (fun _ => 0) _ 0
    htree hp0 (Nat.le_refl _)
  unfold insertRowChecked insertRow
  rw [set_ok _ _ (Nat.zero_le _), ok_bind, resetChecked_ok hm.size, ok_bind, hrun, ok_bind]
  simp only
  generalize search cost n m.intMax (n + 1) _ 0 = r at ht hcol hend ⊢
  have hk := ht.k_le
  refine ⟨augmentChecked_ok hm.size ht (n + 1) r.1 r.2 rfl (Nat.ne_of_gt hcol.1) (Or.inr rfl) ?_,
    ?_⟩
  · rw [ht.rankHead]
    omega
  · obtain ⟨hu, hv⟩ := augment_potentials (n + 1) r.1 r.2
    refine ⟨?_, fun s hs => ?_⟩
    · rw [hv]
      exact ⟨hend.v0_low hc hi ht.toOpen, hend.v0⟩
    · rw [hu]
      exact hend.fresh s hs

theorem zero_rested : Rested C 0 .zero := by
  refine ⟨⟨?_, Int.le_refl 0⟩, fun _ _ => rfl⟩
  simp [Work.zero]

include hc hm in
/-- The checked solver never fails, and computes the same matching. -/
theorem solveChecked_ok : solveChecked m cost n .zero = .ok (solve cost n m.intMax .zero) := by
  unfold solveChecked solve
  refine loopChecked_ok (fun i w => Matched cost n i w ∧ Rested C i w)
    ⟨zero_matched hc, zero_rested⟩
    (fun i w hi h => ?_) fun i w hi h => ?_
  · have hrow : Col n (i + 1) := ⟨Nat.succ_pos i, hi⟩
    exact ⟨insertRow_matched hc hm.high hrow h.1, (insertRowChecked_ok hc hm hrow h.1 h.2).2⟩
  · exact (insertRowChecked_ok hc hm ⟨Nat.succ_pos i, hi⟩ h.1 h.2).1

end

/-! ## The filled matrix -/

/-- The cost matrix in its array: nothing behind the square. -/
def square (n : Nat) (entry : Nat → Nat → Int) (row col : Nat) : Int :=
  if row < n ∧ col < n then entry row col else 0

section
variable {entry : Nat → Nat → Int}

/-- One row of the fill. -/
theorem fillRow_ok {entryChecked : Nat → Nat → Except Fault Int} {row : Nat} (hn : n ≤ m.size)
    (hrow : row < n)
    (h : ∀ col, col < n → entryChecked row col = .ok (entry row col)) (cost : Nat → Nat → Int) :
    loopChecked n (fun col cost => entryChecked row col >>= m.setCost cost row col) cost =
      .ok fun r c => if r = row ∧ c < n then entry r c else cost r c := by
  have hstep : ∀ col t, col < n → (t = fun r c => if r = row ∧ c < col then entry r c
    else cost r c) →
      ∃ t', (entryChecked row col >>= m.setCost t row col) = .ok t' ∧
        t' = fun r c => if r = row ∧ c < col + 1 then entry r c else cost r c := by
    intro col t hcol ht
    refine ⟨_, ?_, rfl⟩
    rw [h col hcol, ok_bind, Limits.setCost, if_pos ⟨by omega, by omega⟩, ht]
    congr 1
    funext r c
    by_cases hr : r = row
    · subst hr
      by_cases hc : c = col
      · subst hc
        simp
      · simp [hc, lt_succ_iff_of_ne hc]
    · simp [hr]
  obtain ⟨t, hrun, rfl⟩ := loopChecked_ind (s := cost)
    (fun col t => t = fun r c => if r = row ∧ c < col then entry r c else cost r c) (by simp) hstep
  exact hrun

theorem fillChecked_ok {entryChecked : Nat → Nat → Except Fault Int} (hn : n ≤ m.size)
    (h : ∀ row col, row < n → col < n → entryChecked row col = .ok (entry row col)) :
    fillChecked m n entryChecked = .ok (square n entry) := by
  have hstep : ∀ row t, row < n → (t = fun r c => if r < row ∧ c < n then entry r c else 0) →
      ∃ t', loopChecked n (fun col cost => entryChecked row col >>= m.setCost cost row col) t =
      .ok t' ∧
        t' = fun r c => if r < row + 1 ∧ c < n then entry r c else 0 := by
    intro row t hrow ht
    refine ⟨_, fillRow_ok hn hrow (fun col hcol => h row col hrow hcol) t, ?_⟩
    rw [ht]
    funext r c
    by_cases hr : r = row
    · subst hr
      simp
    · simp [hr, lt_succ_iff_of_ne hr]
  obtain ⟨t, hrun, rfl⟩ := loopChecked_ind (s := fun _ _ => 0)
    (fun row t => t = fun r c => if r < row ∧ c < n then entry r c else 0) (by simp) hstep
  exact hrun

/-! ## The solver reads the square only -/

variable {cost' : Nat → Nat → Int} (h : ∀ r c, r < m.size → c < m.size → cost r c = cost' r c)

include h in
theorem getCost_congr : m.getCost cost = m.getCost cost' := by
  funext row col
  unfold Limits.getCost
  split
  · next hin => rw [h _ _ (by omega) (by omega)]
  · rfl

include h in
theorem turnChecked_congr : turnChecked m cost n = turnChecked m cost' n := by
  funext w j0
  unfold turnChecked scanChecked scanColumnChecked
  rw [getCost_congr h]

include h in
theorem searchChecked_congr (fuel : Nat) (w : Work) (j0 : Nat) :
    searchChecked m cost n fuel w j0 = searchChecked m cost' n fuel w j0 := by
  induction fuel generalizing w j0 with
  | zero => rfl
  | succ fuel ih =>
    unfold searchChecked
    simp only [turnChecked_congr h, ih]

include h in
theorem solveChecked_congr (w : Work) : solveChecked m cost n w = solveChecked m cost' n w := by
  unfold solveChecked insertRowChecked
  simp only [searchChecked_congr h]

end

theorem square_bounds (hc : ∀ r c, 0 ≤ cost r c ∧ cost r c ≤ C) (r c : Nat) :
    0 ≤ square n cost r c ∧ square n cost r c ≤ C := by
  unfold square
  split
  · exact hc r c
  · exact ⟨Int.le_refl 0, Int.le_trans (hc 0 0).1 (hc 0 0).2⟩

/-- With arrays of `n` entries the solver cannot tell the square from the matrix. -/
theorem solve_square {intMax : Int} (hc : ∀ r c, 0 ≤ cost r c ∧ cost r c ≤ C)
    (hbig : 2 * C < intMax) :
    solve (square n cost) n intMax .zero = solve cost n intMax .zero := by
  have hm : Limits.Room ⟨n, -(n * C), intMax⟩ n C := ⟨Nat.le_refl n, Int.le_refl _, hbig⟩
  have hsame : solveChecked ⟨n, -(n * C), intMax⟩ (square n cost) n .zero =
      solveChecked ⟨n, -(n * C), intMax⟩ cost n .zero :=
      solveChecked_congr (fun r c hr hcol => if_pos ⟨hr, hcol⟩) .zero
  rw [solveChecked_ok (square_bounds hc) hm, solveChecked_ok hc hm] at hsame
  exact Except.ok.inj hsame

end Sp11Touch.Hungarian
