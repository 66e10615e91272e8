import Sp11Touch.L2Pipeline.GeometryLaw
import Mathlib.Data.List.Sort
/-!
# Flagged cells in another place

`Shifted dr dc ts ts'`: the flagged cells of `ts'` are those of `ts`, moved by
`dr` rows and `dc` columns with their bytes. The walks meet them in the same
order (`flagged_shift`), so the moments move by polynomials in `dr` and `dc`
that cancel in every central moment, a cell and its image are compared with the
same signals, and the islands of every cutoff are images of each other.
-/
namespace Sp11Touch
open CInt Region

/-- The cell `dr` rows and `dc` columns away. -/
def shiftCell (dr dc : Int) (cell : Nat) : Nat :=
  (((cell / heatCols : Nat) : Int) + dr).toNat * heatCols +
    (((cell % heatCols : Nat) : Int) + dc).toNat

/-- The cell `dr` rows and `dc` columns away is in the grid. -/
structure Fits (dr dc : Int) (cell : Nat) : Prop where
  top : 0 ≤ ((cell / heatCols : Nat) : Int) + dr
  bottom : ((cell / heatCols : Nat) : Int) + dr < heatRows
  left : 0 ≤ ((cell % heatCols : Nat) : Int) + dc
  right : ((cell % heatCols : Nat) : Int) + dc < heatCols

/-- Where a cell goes. -/
structure Goes (dr dc : Int) (a b : Nat) : Prop where
  lt : b < heatSamples
  row : ((b / heatCols : Nat) : Int) = ((a / heatCols : Nat) : Int) + dr
  col : ((b % heatCols : Nat) : Int) = ((a % heatCols : Nat) : Int) + dc

variable {dr dc : Int}

theorem Fits.goes {cell : Nat} (h : Fits dr dc cell) : Goes dr dc cell (shiftCell dr dc cell) := by
  obtain ⟨h1, h2, h3, h4⟩ := h
  unfold shiftCell
  simp only [heatCols, heatRows] at h1 h2 h3 h4 ⊢
  refine ⟨?_, ?_, ?_⟩
  all_goals simp only [heatCols, heatSamples, heatRows]
  all_goals omega

/-- Cells with the same row and column are the same. -/
theorem cell_ext {a b : Nat} (hrow : ((a / heatCols : Nat) : Int) = ((b / heatCols : Nat) : Int))
    (hcol : ((a % heatCols : Nat) : Int) = ((b % heatCols : Nat) : Int)) : a = b := by
  have ha := Nat.div_add_mod a heatCols
  have hb := Nat.div_add_mod b heatCols
  rw [← ha, ← hb, Int.ofNat_inj.mp hrow, Int.ofNat_inj.mp hcol]

theorem Goes.back {a b : Nat} (h : Goes dr dc a b) (ha : a < heatSamples) : Goes (-dr) (-dc) b a :=
  ⟨ha, by rw [h.row]; omega, by rw [h.col]; omega⟩

theorem Goes.unique {a b b' : Nat} (h : Goes dr dc a b) (h' : Goes dr dc a b') : b = b' :=
  cell_ext (h.row.trans h'.row.symm) (h.col.trans h'.col.symm)

/-- The arithmetic of `shiftCell` finds it. -/
theorem Goes.eq {a b : Nat} (h : Goes dr dc a b) : shiftCell dr dc a = b := by
  unfold shiftCell
  rw [← h.row, ← h.col]
  exact Nat.div_add_mod' b heatCols

theorem Goes.lt_iff {a b x y : Nat} (ha : Goes dr dc a x) (hb : Goes dr dc b y) :
    x < y ↔ a < b := by
  have h1 := ha.row
  have h2 := ha.col
  have h3 := hb.row
  have h4 := hb.col
  simp only [heatCols] at *
  omega

theorem Goes.adjacent {a b x y : Nat} (ha : Goes dr dc a x) (hb : Goes dr dc b y)
    (hab : heatAdjacent a b) :
    heatAdjacent x y := by
  refine ⟨ha.lt, hb.lt, ?_⟩
  rw [ha.row, ha.col, hb.row, hb.col]
  have hd := hab.2.2
  omega

structure Shifted (dr dc : Int) (ts ts' : Heat) : Prop where
  lt : ∀ a, ts.heatComponent a = true → a < heatSamples
  goes : ∀ a, ts.heatComponent a = true → Goes dr dc a (shiftCell dr dc a)
  flag : ∀ a, ts.heatComponent a = true → ts'.heatComponent (shiftCell dr dc a) = true
  value : ∀ a, ts.heatComponent a = true → ts'.value (shiftCell dr dc a) = ts.value a
  onto : ∀ b, ts'.heatComponent b = true → ∃ a, ts.heatComponent a = true ∧ shiftCell dr dc a = b

variable {ts ts' : Heat}

/-- The cells go back where they came from. -/
theorem Shifted.back (h : Shifted dr dc ts ts') {a : Nat} (ha : ts.heatComponent a = true) :
    Goes (-dr) (-dc) (shiftCell dr dc a) a ∧ shiftCell (-dr) (-dc) (shiftCell dr dc a) = a :=
  have hback := (h.goes a ha).back (h.lt a ha)
  ⟨hback, hback.eq⟩

theorem Shifted.symm (h : Shifted dr dc ts ts') : Shifted (-dr) (-dc) ts' ts := by
  refine ⟨fun b hb => ?_, fun b hb => ?_, fun b hb => ?_, fun b hb => ?_, fun a ha => ?_⟩
  · obtain ⟨a, ha, rfl⟩ := h.onto b hb
    exact (h.goes a ha).lt
  · obtain ⟨a, ha, rfl⟩ := h.onto b hb
    rw [(h.back ha).2]
    exact (h.back ha).1
  · obtain ⟨a, ha, rfl⟩ := h.onto b hb
    rw [(h.back ha).2]
    exact ha
  · obtain ⟨a, ha, rfl⟩ := h.onto b hb
    rw [(h.back ha).2]
    exact (h.value a ha).symm
  · exact ⟨_, h.flag a ha, (h.back ha).2⟩

/-- The relation reads the flags and the bytes only. -/
theorem Shifted.of_fields (h : Shifted dr dc ts ts') {us us' : Heat}
    (hu : us.value = ts.value ∧ us.heatComponent = ts.heatComponent)
    (hu' : us'.value = ts'.value ∧ us'.heatComponent = ts'.heatComponent) :
      Shifted dr dc us us' := by
  refine ⟨?_, ?_, ?_, ?_, ?_⟩
  · rw [hu.2]; exact h.lt
  · rw [hu.2]; exact h.goes
  · rw [hu.2, hu'.2]; exact h.flag
  · rw [hu.1, hu.2, hu'.1]; exact h.value
  · rw [hu.2, hu'.2]; exact h.onto

/-! ## The walks -/

/-- The flagged cells in the order of the walks. -/
def flagged (ts : Heat) : List Nat := (List.range heatSamples).filter ts.heatComponent

theorem mem_flagged {a : Nat} : a ∈ flagged ts ↔ a < heatSamples ∧ ts.heatComponent a = true := by
  simp [flagged]

theorem flagged_sorted (ts : Heat) : (flagged ts).Pairwise (· < ·) :=
  List.pairwise_lt_range.filter _

/-- The walks meet the images in the order of the cells. -/
theorem flagged_shift (h : Shifted dr dc ts ts') :
    flagged ts' = (flagged ts).map (shiftCell dr dc) := by
  have hmap : ((flagged ts).map (shiftCell dr dc)).Pairwise (· < ·) := by
    refine List.pairwise_map.mpr ((flagged_sorted ts).imp_of_mem fun ha hb hlt => ?_)
    exact ((h.goes _ (mem_flagged.mp ha).2).lt_iff (h.goes _ (mem_flagged.mp hb).2)).mpr hlt
  refine (flagged_sorted ts').eq_of_mem_iff hmap fun b => ?_
  rw [mem_flagged, List.mem_map]
  apply Iff.intro
  · intro hb
    obtain ⟨a, ha, heq⟩ := h.onto b hb.2
    exact ⟨a, mem_flagged.mpr ⟨h.lt a ha, ha⟩, heq⟩
  · intro hb
    obtain ⟨a, ha, rfl⟩ := hb
    exact ⟨(h.goes a (mem_flagged.mp ha).2).lt, h.flag a (mem_flagged.mp ha).2⟩

/-- Two walks that pass over unflagged cells, in lockstep. -/
theorem Shifted.walk (h : Shifted dr dc ts ts') {σ : Type} {f g : Nat → σ → σ} (R : σ → σ → Prop)
    {s t : σ}
    (hf : ∀ k s, ts.heatComponent k = false → f k s = s)
      (hg : ∀ k s, ts'.heatComponent k = false → g k s = s)
    (h0 : R s t)
    (hstep : ∀ a, ts.heatComponent a = true → ∀ s t, R s t → R (f a s) (g (shiftCell dr dc a) t)) :
    R (loop heatSamples f s) (loop heatSamples g t) := by
  rw [loop_filter hf, loop_filter hg]
  show R ((flagged ts).foldl _ s) ((flagged ts').foldl _ t)
  rw [flagged_shift h, List.foldl_map]
  exact List.foldl_rel h0 fun a ha s t hr => hstep a (mem_flagged.mp ha).2 s t hr

/-! ## Moments -/

theorem momentsStep_skip {k : Nat} (h : ts.heatComponent k = false) (m : Moments) :
    momentsStep ts k m = m := by
  simp [momentsStep, h]

theorem momentSums_flagged (ts : Heat) :
    momentSums ts = (flagged ts).foldl (fun m k => momentsStep ts k m) ⟨0, 0, 0, 0, 0, 0⟩ :=
  loop_filter (fun _ m hk => momentsStep_skip hk m) _

/-- The moments of the image. -/
structure MomentsMoved (dr dc : Int) (m m' : Moments) : Prop where
  sum : m'.sum = m.sum
  x : (m'.sumX : Int) = m.sumX + dc * m.sum
  y : (m'.sumY : Int) = m.sumY + dr * m.sum
  xx : (m'.sumXX : Int) = m.sumXX + 2 * dc * m.sumX + dc * dc * m.sum
  yy : (m'.sumYY : Int) = m.sumYY + 2 * dr * m.sumY + dr * dr * m.sum
  xy : (m'.sumXY : Int) = m.sumXY + dr * m.sumX + dc * m.sumY + dr * dc * m.sum

theorem momentsStep_moved (h : Shifted dr dc ts ts') {a : Nat} (ha : ts.heatComponent a = true)
    {m m' : Moments}
    (hm : MomentsMoved dr dc m m') : MomentsMoved dr dc (momentsStep ts a m)
      (momentsStep ts' (shiftCell dr dc a) m') := by
  have hrow := (h.goes a ha).row
  have hcol := (h.goes a ha).col
  unfold momentsStep
  rw [h.value a ha, h.flag a ha, ha]
  simp only [Bool.not_true, Bool.false_eq_true, if_false]
  generalize shiftCell dr dc a / heatCols = row' at hrow ⊢
  generalize shiftCell dr dc a % heatCols = col' at hcol ⊢
  generalize a / heatCols = row at hrow ⊢
  generalize a % heatCols = col at hcol ⊢
  split
  · exact hm
  · generalize (signalQ12 (ts.value a)).toNat = s
    obtain ⟨h0, hx, hy, hxx, hyy, hxy⟩ := hm
    refine ⟨?_, ?_, ?_, ?_, ?_, ?_⟩
    all_goals push_cast
    · rw [h0]
    · rw [hx, hcol]; ring
    · rw [hy, hrow]; ring
    · rw [hxx, hcol]; ring
    · rw [hyy, hrow]; ring
    · rw [hxy, hrow, hcol]; ring

theorem momentSums_moved (h : Shifted dr dc ts ts') : MomentsMoved dr dc (momentSums ts)
    (momentSums ts') :=
  h.walk (MomentsMoved dr dc) (fun _ m hk => momentsStep_skip hk m)
    (fun _ m hk => momentsStep_skip hk m)
    ⟨rfl, by simp, by simp, by simp, by simp, by simp⟩ fun _ ha _ _ hm => momentsStep_moved h ha hm

/-- The second central moments. -/
structure SameCentral (m m' : Moments) : Prop where
  varX : centralMoment m' m'.sumXX m'.sumX m'.sumX = centralMoment m m.sumXX m.sumX m.sumX
  varY : centralMoment m' m'.sumYY m'.sumY m'.sumY = centralMoment m m.sumYY m.sumY m.sumY
  covariance : centralMoment m' m'.sumXY m'.sumX m'.sumY = centralMoment m m.sumXY m.sumX m.sumY

/-- The products of the shift cancel before the division. -/
theorem MomentsMoved.central {m m' : Moments} (h : MomentsMoved dr dc m m') : SameCentral m m' := by
  obtain ⟨h0, hx, hy, hxx, hyy, hxy⟩ := h
  have hsame : ∀ {ab a b ab' a' b' : Nat},
      (((ab' * m'.sum : Nat) : Int) - ((a' * b' : Nat) : Int)) =
      (((ab * m.sum : Nat) : Int) - ((a * b : Nat) : Int)) →
      centralMoment m' ab' a' b' = centralMoment m ab a b := by
    intro ab a b ab' a' b' heq
    unfold centralMoment
    rw [heq, h0]
  refine ⟨hsame ?_, hsame ?_, hsame ?_⟩
  · push_cast
    rw [hxx, hx, h0]
    ring
  · push_cast
    rw [hyy, hy, h0]
    ring
  · push_cast
    rw [hxy, hx, hy, h0]
    ring

theorem SameCentral.trace {m m' : Moments} (h : SameCentral m m') : traceQ12 m' = traceQ12 m := by
  unfold traceQ12
  rw [h.varX, h.varY]

theorem SameCentral.discriminant {m m' : Moments} (h : SameCentral m m') :
    discriminantQ12 m' = discriminantQ12 m := by
  unfold discriminantQ12 rootArgument
  rw [h.varX, h.varY, h.covariance]

theorem SameCentral.halves {m m' : Moments} (h : SameCentral m m') : majorHalf m' = majorHalf m ∧
    minorHalf m' = minorHalf m := by
  rw [majorHalf_eq, majorHalf_eq, minorHalf_eq, minorHalf_eq, h.trace, h.discriminant]
  exact ⟨rfl, rfl⟩

end Sp11Touch
