import Sp11Touch.Core.Marking
import Sp11Touch.L2Pipeline.SecondaryIslands
/-!
# The halo without its scan order

`Depth ts quarter d` is the declarative rule: depth 0 is the component, depth 1
its strong background neighbours, and each ring adds the background cells a cell
of smaller depth feeds. Each phase of the walk takes the states of one depth to
the next (`HaloAt`), because a mark made in a ring is never a source of that
ring. So the walk's sum is the sum over the two rings (`haloWalk_rule`).
-/
namespace Sp11Touch
open CInt Marking

/-! ## The rule -/

/-- Neither in the component nor active. -/
def Background (ts : Heat) (cell : Nat) : Prop := ts.heatComponent cell = false ∧
    ts.heatActive cell = false

/-- `n` has a positive, stronger signal, within the ratio. -/
def Feeds (ts : Heat) (n cell : Nat) : Prop :=
  signalQ12 (ts.value cell) < signalQ12 (ts.value n) ∧ 0 < signalQ12 (ts.value n) ∧
    signalQ12 (ts.value n) * haloRatioQ12 < signalQ12 (ts.value cell) * oneQ12

instance (ts : Heat) (n cell : Nat) : Decidable (Feeds ts n cell) :=
  inferInstanceAs (Decidable (_ ∧ _))

/-- What lets a neighbour `n` of depth at most `d` give `cell` the depth `d + 1`. -/
def Joins (ts : Heat) (quarter : Int) : Nat → Nat → Nat → Prop
  | 0, _, cell => quarter < signalQ12 (ts.value cell)
  | _ + 1, n, cell => signalQ12 (ts.value cell) < quarter ∧ Feeds ts n cell

instance (ts : Heat) (quarter : Int) (d n cell : Nat) : Decidable (Joins ts quarter d n cell) := by
  cases d
  · exact inferInstanceAs (Decidable (_ < _))
  · exact inferInstanceAs (Decidable (_ ∧ _))

/-- The cells of depth at most `d`. -/
def Depth (ts : Heat) (quarter : Int) : Nat → Set Nat
  | 0 => {cell | ts.heatComponent cell = true}
  | d + 1 => {cell | cell ∈ Depth ts quarter d ∨
      (Background ts cell ∧ ∃ n ∈ Depth ts quarter d, heatAdjacent n cell ∧
      Joins ts quarter d n cell)}

open Classical in
/-- The cells of ring 1 and ring 2. -/
noncomputable def ringCells (ts : Heat) (quarter : Int) : Finset Nat :=
  (Finset.range heatSamples).filter fun cell => cell ∈ Depth ts quarter 3 ∧
    cell ∉ Depth ts quarter 1

/-! ## The walk on cell numbers -/

/-- The cells `forBox` visits, in its order. -/
def boxCells (contact : Contact) (r : Nat) : List Nat :=
  (List.range (min (heatRows - 1) (contact.maxRow + r) + 1 - (contact.minRow - r))).flatMap fun i =>
    (List.range (min (heatCols - 1) (contact.maxCol + r) + 1 - (contact.minCol - r))).map fun j =>
      (contact.minRow - r + i) * heatCols + (contact.minCol - r + j)

/-- The box grown by `r` on the grid. -/
def InBox (contact : Contact) (r cell : Nat) : Prop :=
  cell < heatSamples ∧ contact.minRow ≤ cell / heatCols + r ∧ cell / heatCols ≤ contact.maxRow + r ∧
    contact.minCol ≤ cell % heatCols + r ∧ cell % heatCols ≤ contact.maxCol + r

theorem mem_boxCells {contact : Contact} {r cell : Nat} : cell ∈ boxCells contact r ↔
    InBox contact r cell := by
  have hcols : heatCols = 68 := rfl
  have hrows : heatRows = 46 := rfl
  have hsamples : heatSamples = 3128 := rfl
  simp only [boxCells, InBox, List.mem_flatMap, List.mem_map, List.mem_range, hcols,
    hrows, hsamples]
  apply Iff.intro
  · intro h
    obtain ⟨i, hi, j, hj, rfl⟩ := h
    omega
  · intro h
    exact ⟨cell / 68 - (contact.minRow - r), by omega,
      cell % 68 - (contact.minCol - r), by omega, by omega⟩

theorem forRows_foldl {σ : Type} (lo hi : Nat) (body : Int → σ → σ) (s : σ) :
    forRows lo hi body s = (List.range (hi + 1 - lo)).foldl
    (fun s k => body ((lo + k : Nat) : Int) s) s := by
  unfold forRows
  rw [loop_foldl]
  have hn : ((hi : Int) + 1 - lo).toNat = hi + 1 - lo := by omega
  rw [hn]
  simp

theorem forBox_foldl {σ : Type} (contact : Contact) (r : Nat) (body : Int → Int → σ → σ) (s : σ) :
    forBox contact r body s =
      (boxCells contact r).foldl (fun s cell => body ((cell / heatCols : Nat) : Int)
      ((cell % heatCols : Nat) : Int) s) s := by
  have hlo : ∀ x : Nat, max 0 ((x : Int) - r) = ((x - r : Nat) : Int) := fun x => by omega
  have hhi : ∀ m x : Nat, min (m : Int) ((x + r : Nat) : Int) = ((min m (x + r) : Nat) : Int) :=
    fun m x => by omega
  unfold forBox boxCells
  rw [hlo, hlo, hhi, hhi, forRows_foldl, List.foldl_flatMap]
  refine List.foldl_ext _ _ s fun t i _ => ?_
  rw [forRows_foldl, List.foldl_map]
  refine List.foldl_ext _ _ t fun u j hj => ?_
  have hcol : contact.minCol - r + j < heatCols := by
    have := List.mem_range.mp hj
    have hcols : heatCols = 68 := rfl
    omega
  have hdiv : ((contact.minRow - r + i) * heatCols + (contact.minCol - r + j)) / heatCols =
    contact.minRow - r + i := by
    rw [Nat.mul_comm, Nat.mul_add_div (by decide), Nat.div_eq_of_lt hcol, Nat.add_zero]
  have hmod : ((contact.minRow - r + i) * heatCols + (contact.minCol - r + j)) % heatCols =
    contact.minCol - r + j := by
    rw [Nat.mul_comm, Nat.mul_add_mod, Nat.mod_eq_of_lt hcol]
  rw [hdiv, hmod]

/-- The state of a cell. -/
def cellState (st : HaloState) (cell : Nat) : Nat := st ((cell / heatCols : Nat) : Int)
    ((cell % heatCols : Nat) : Int)

theorem cellState_eq {st : HaloState} {row col : Int} {cell : Nat}
    (h : heatCell row col = some cell) :
    st row col = cellState st cell := by
  obtain ⟨_, hrow, hcol⟩ := heatCell_eq_some.mp h
  unfold cellState
  rw [hrow, hcol]

theorem cellState_set {st : HaloState} {row col : Int} {cell : Nat}
    (h : heatCell row col = some cell) (v : Nat) :
    cellState (st.set row col v) = Function.update (cellState st) cell v := by
  obtain ⟨_, hrow, hcol⟩ := heatCell_eq_some.mp h
  funext k
  unfold cellState HaloState.set
  by_cases hk : k = cell
  · rw [hk, Function.update_self, if_pos ⟨hrow, hcol⟩]
  · rw [Function.update_of_ne hk, if_neg]
    intro hand
    have h1 : k / heatCols = cell / heatCols := by omega
    have h2 : k % heatCols = cell % heatCols := by omega
    have hsplit := Nat.div_add_mod k heatCols
    rw [h1, h2, Nat.div_add_mod] at hsplit
    exact hk hsplit.symm

/-- The attempts of one phase: a cell of depth at most `d` on a neighbour. -/
def haloPass (ts : Heat) (quarter : Int) (d : Nat) (hd : d < 3) : Rule Nat (Nat × Nat) where
  opened := 4
  mark := d + 1
  target := fun e => e.2
  go := fun e => decide (Joins ts quarter d e.1 e.2)
  weight := fun cell => signalQ12 (ts.value cell)
  mark_ne := by omega

/-- The attempts of one source. -/
def haloOuts (p : Nat) : List (Nat × Nat) := (heatNeighbours haloOffsets p).map fun t => (p, t)

/-- One phase on cell numbers. -/
def haloWalk (ts : Heat) (contact : Contact) (quarter : Int) (d : Nat) (hd : d < 3)
    (s : (Nat → Nat) × Int) :
    (Nat → Nat) × Int :=
  (boxCells contact d).foldl (fun t p =>
    if decide (t.1 p ≤ d) = true then (haloOuts p).foldl
      (haloPass ts quarter d hd).attempt t else t) s

theorem haloOuts_foldl {σ : Type} (f : σ → Nat × Nat → σ) (p : Nat) (s : σ) :
    (haloOuts p).foldl f s = haloOffsets.foldl (fun t o =>
      match heatCell ((p / heatCols : Nat) + o.1) ((p % heatCols : Nat) + o.2) with
      | some cell => f t (p, cell)
      | none => t) s := by
  unfold haloOuts heatNeighbours
  rw [List.foldl_map, List.foldl_filterMap]
  refine List.foldl_ext _ _ s fun t o _ => ?_
  cases heatCell ((p / heatCols : Nat) + o.1) ((p % heatCols : Nat) + o.2) with
  | none => rfl
  | some cell => rfl

theorem haloStrong_walk (ts : Heat) (contact : Contact) (quarter : Int) (st : HaloState) (n : Int) :
    cellState (haloStrong ts contact quarter st) =
    (haloWalk ts contact quarter 0 (by decide) (cellState st, n)).1 := by
  unfold haloStrong haloWalk
  rw [forBox_foldl]
  refine List.foldl_rel (r := fun (a : HaloState) (t : (Nat → Nat) × Int) => cellState a = t.1)
    rfl fun p _ a t hr => ?_
  have hsource : a ((p / heatCols : Nat) : Int) ((p % heatCols : Nat) : Int) =
    t.1 p := congrFun hr p
  rw [hsource]
  by_cases hp : t.1 p = 0
  · rw [if_neg (by omega), if_pos (by simp [hp]), haloOuts_foldl]
    refine List.foldl_rel (r := fun (a : HaloState) (t : (Nat → Nat) × Int) => cellState a = t.1) hr
      fun o _ a t hr => ?_
    unfold haloBackground
    cases hcell : heatCell ((p / heatCols : Nat) + o.1) ((p % heatCols : Nat) + o.2) with
    | none => exact hr
    | some index =>
      have htarget : a ((p / heatCols : Nat) + o.1) ((p % heatCols : Nat) + o.2) =
        cellState a index := cellState_eq hcell
      simp only
      rw [htarget, hr]
      by_cases hopen : t.1 index = 4
      · rw [if_neg (by omega)]
        simp only
        by_cases hgo : signalQ12 (ts.value index) > quarter
        · rw [if_pos hgo, cellState_set hcell, hr,
            Rule.attempt_pos (r := haloPass ts quarter 0 (by decide)) (e := (p, index))
            ⟨hopen, decide_eq_true hgo⟩]
          rfl
        · rw [if_neg hgo, Rule.attempt_neg (r := haloPass ts quarter 0 (by decide))
            (e := (p, index))
            (fun h => hgo (of_decide_eq_true h.2))]
          exact hr
      · rw [if_pos hopen, Rule.attempt_neg (r := haloPass ts quarter 0 (by decide))
          (e := (p, index)) (fun h => hopen h.1)]
        exact hr
  · rw [if_pos hp, if_neg (by simpa using hp)]
    exact hr

/-- A walk's state on cell numbers, with the same sum. -/
def SameWalk (a : HaloState × Int) (t : (Nat → Nat) × Int) : Prop := cellState a.1 = t.1 ∧ a.2 = t.2

theorem haloRingCell_walk {ts : Heat} {quarter : Int} {d : Nat} (hd : d + 1 < 3) (p : Nat)
    {a : HaloState × Int}
    {t : (Nat → Nat) × Int} (hr : SameWalk a t) (o : Int × Int) :
    SameWalk (haloRingCell ts quarter (signalQ12 (ts.value p)) (d + 1) ((p / heatCols : Nat) : Int)
      ((p % heatCols : Nat) : Int) a o)
      (match heatCell ((p / heatCols : Nat) + o.1) ((p % heatCols : Nat) + o.2) with
        | some cell => (haloPass ts quarter (d + 1) hd).attempt t (p, cell)
        | none => t) := by
  unfold haloRingCell haloBackground
  cases hcell : heatCell ((p / heatCols : Nat) + o.1) ((p % heatCols : Nat) + o.2) with
  | none => exact hr
  | some index =>
    have htarget : a.1 ((p / heatCols : Nat) + o.1) ((p % heatCols : Nat) + o.2) =
      cellState a.1 index := cellState_eq hcell
    simp only
    rw [htarget, hr.1]
    by_cases hopen : t.1 index = 4
    · rw [if_neg (by omega)]
      simp only
      by_cases hgo : Joins ts quarter (d + 1) p index
      · have hcond := hgo
        simp only [Joins, Feeds] at hcond
        rw [if_pos (by omega), Rule.attempt_pos (r := haloPass ts quarter (d + 1) hd)
          (e := (p, index))
          ⟨hopen, decide_eq_true hgo⟩]
        exact ⟨(cellState_set hcell _).trans (by rw [hr.1]; rfl), by rw [hr.2]; rfl⟩
      · have hcond := hgo
        simp only [Joins, Feeds] at hcond
        rw [if_neg (by omega), Rule.attempt_neg (r := haloPass ts quarter (d + 1) hd)
          (e := (p, index))
          (fun h => hgo (of_decide_eq_true h.2))]
        exact hr
    · rw [if_pos hopen, Rule.attempt_neg (r := haloPass ts quarter (d + 1) hd)
        (e := (p, index)) (fun h => hopen h.1)]
      exact hr

theorem haloRing_walk (ts : Heat) (contact : Contact) (quarter : Int) {d : Nat} (hd : d + 1 < 3)
    {a : HaloState × Int}
    {t : (Nat → Nat) × Int} (hr : SameWalk a t) :
    SameWalk (haloRing ts contact quarter (d + 1) a)
      (haloWalk ts contact quarter (d + 1) hd t) := by
  unfold haloRing haloWalk
  rw [forBox_foldl]
  refine List.foldl_rel (r := SameWalk) hr fun p hp a t hr => ?_
  have hsource : a.1 ((p / heatCols : Nat) : Int) ((p % heatCols : Nat) : Int) = t.1 p :=
    congrFun hr.1 p
  have hcell : heatCell ((p / heatCols : Nat) : Int) ((p % heatCols : Nat) : Int) = some p :=
    heatCell_eq_some.mpr ⟨(mem_boxCells.mp hp).1, rfl, rfl⟩
  rw [hsource, hcell]
  by_cases hle : t.1 p ≤ d + 1
  · rw [if_neg (by omega), if_pos (by simp [hle]), haloOuts_foldl]
    exact List.foldl_rel (r := SameWalk) hr fun o _ a t hr => haloRingCell_walk hd p hr o
  · rw [if_pos (by omega), if_neg (by simpa using hle)]
    exact hr

/-! ## From one depth to the next -/

theorem InBox.mono {contact : Contact} {r r' cell : Nat} (h : InBox contact r cell) (hr : r ≤ r') :
    InBox contact r' cell := by
  obtain ⟨hlt, h1, h2, h3, h4⟩ := h
  exact ⟨hlt, by omega, by omega, by omega, by omega⟩

theorem InBox.adjacent {contact : Contact} {r a b : Nat} (h : InBox contact r a)
    (hab : heatAdjacent a b) :
    InBox contact (r + 1) b := by
  obtain ⟨_, h1, h2, h3, h4⟩ := h
  obtain ⟨_, hb, hd⟩ := hab
  exact ⟨hb, by omega, by omega, by omega, by omega⟩

/-- The flags lie in the grid and in the box of the contact. -/
structure Flagged (ts : Heat) (contact : Contact) : Prop where
  lt : ∀ cell, ts.heatComponent cell = true → cell < heatSamples
  box : FlagsIn ts contact

variable {ts : Heat} {contact : Contact} {quarter : Int}

theorem Flagged.inBox (h : Flagged ts contact) {cell : Nat} (hc : ts.heatComponent cell = true) :
    InBox contact 0 cell := by
  obtain ⟨h1, h2, h3, h4⟩ := h.box cell hc
  exact ⟨h.lt cell hc, by omega, by omega, by omega, by omega⟩

theorem depth_succ_of {d cell : Nat} (h : cell ∈ Depth ts quarter d) :
    cell ∈ Depth ts quarter (d + 1) := Or.inl h

/-- A depth stays in its box. -/
theorem depth_inBox (h : Flagged ts contact) : ∀ {d cell : Nat}, cell ∈ Depth ts quarter d →
    InBox contact d cell := by
  intro d
  induction d with
  | zero => exact fun hc => h.inBox hc
  | succ d ih =>
    intro cell hc
    rcases hc with hc | hc
    · exact (ih hc).mono (Nat.le_succ d)
    · obtain ⟨_, n, hn, hadj, _⟩ := hc
      exact (ih hn).adjacent hadj

/-- The states of one depth: at most `d` in `Depth d`, `4` for the background of the tile outside it. -/
structure HaloAt (ts : Heat) (contact : Contact) (quarter : Int) (d : Nat)
    (f : Nat → Nat) : Prop where
  low : ∀ cell, cell < heatSamples → (f cell ≤ d ↔ cell ∈ Depth ts quarter d)
  opened : ∀ cell, cell < heatSamples →
    (f cell = 4 ↔ Background ts cell ∧ InBox contact 3 cell ∧ cell ∉ Depth ts quarter d)
  values : ∀ cell, cell < heatSamples → f cell ≤ d ∨ f cell = 4 ∨ f cell = 5

/-- The attempts of a phase from the states `f`. -/
def haloAttempts (contact : Contact) (d : Nat) (f : Nat → Nat) : List (Nat × Nat) :=
  ((boxCells contact d).filter fun p => decide (f p ≤ d)).flatMap haloOuts

theorem haloWalk_eq (ts : Heat) (contact : Contact) (quarter : Int) {d : Nat} (hd : d < 3)
    (s : (Nat → Nat) × Int) :
    haloWalk ts contact quarter d hd s = (haloAttempts contact d s.1).foldl
      (haloPass ts quarter d hd).attempt s := by
  have hopened : decide ((haloPass ts quarter d hd).opened ≤ d) = false :=
    decide_eq_false (show ¬ 4 ≤ d by omega)
  have hmark : decide ((haloPass ts quarter d hd).mark ≤ d) = false :=
    decide_eq_false (show ¬ d + 1 ≤ d by omega)
  exact Rule.foldl_guarded (fun p => p) (fun x => decide (x ≤ d)) hopened
    hmark s (boxCells contact d)

/-- The attempts hit the cells some cell of depth at most `d` joins. -/
theorem haloAttempts_hits (hf : Flagged ts contact) {d : Nat} (hd : d < 3) {f : Nat → Nat}
    (h : HaloAt ts contact quarter d f) (cell : Nat) :
    (haloPass ts quarter d hd).Hits (haloAttempts contact d f) cell ↔
      ∃ n ∈ Depth ts quarter d, heatAdjacent n cell ∧ Joins ts quarter d n cell := by
  have hfour : FourOffsets haloOffsets := by
    intro o
    simp only [haloOffsets, List.mem_cons, List.not_mem_nil, or_false, Prod.ext_iff]
    omega
  apply Iff.intro
  · intro hhit
    obtain ⟨e, he, rfl, hgo⟩ := hhit
    obtain ⟨p, hp, hout⟩ := List.mem_flatMap.mp he
    obtain ⟨hbox, hle⟩ := List.mem_filter.mp hp
    obtain ⟨cell, hcell, rfl⟩ := List.mem_map.mp hout
    have hlt := (mem_boxCells.mp hbox).1
    exact ⟨p, (h.low p hlt).mp (of_decide_eq_true hle),
      (heatNeighbours_iff hfour hlt cell).mp hcell, of_decide_eq_true hgo⟩
  · intro hn
    obtain ⟨n, hn, hadj, hjoin⟩ := hn
    have hbox := depth_inBox hf hn
    refine ⟨(n, cell), List.mem_flatMap.mpr ⟨n, List.mem_filter.mpr ⟨mem_boxCells.mpr hbox, ?_⟩,
      ?_⟩, rfl, decide_eq_true hjoin⟩
    · exact decide_eq_true ((h.low n hbox.1).mpr hn)
    · exact List.mem_map.mpr ⟨cell, (heatNeighbours_iff hfour hbox.1 cell).mpr hadj, rfl⟩

/-- What a phase takes is what the next depth adds. -/
theorem taken_iff (hf : Flagged ts contact) {d : Nat} (hd : d < 3) {f : Nat → Nat}
    (h : HaloAt ts contact quarter d f)
    {cell : Nat} (hc : cell < heatSamples) :
    (f cell = 4 ∧ (haloPass ts quarter d hd).Hits (haloAttempts contact d f) cell) ↔
      cell ∈ Depth ts quarter (d + 1) ∧ cell ∉ Depth ts quarter d := by
  rw [haloAttempts_hits hf hd h, h.opened cell hc]
  apply Iff.intro
  · intro ht
    exact ⟨Or.inr ⟨ht.1.1, ht.2⟩, ht.1.2.2⟩
  · intro ht
    rcases ht.1 with hold | hnew
    · exact absurd hold ht.2
    · exact ⟨⟨hnew.1, (depth_inBox hf ht.1).mono hd, ht.2⟩, hnew.2⟩

/-- The step lemma: a phase takes the states of one depth to the next. -/
theorem haloWalk_at (hf : Flagged ts contact) {d : Nat} (hd : d < 3) {s : (Nat → Nat) × Int}
    (h : HaloAt ts contact quarter d s.1) : HaloAt ts contact quarter (d + 1)
    (haloWalk ts contact quarter d hd s).1 := by
  have hstate : ∀ cell, (haloWalk ts contact quarter d hd s).1 cell =
      if s.1 cell = 4 ∧ (haloPass ts quarter d hd).Hits (haloAttempts contact d s.1) cell then d + 1
        else s.1 cell := by
    intro cell
    rw [haloWalk_eq]
    exact Rule.foldl_state s _ cell
  refine ⟨fun cell hc => ?_, fun cell hc => ?_, fun cell hc => ?_⟩
  · rw [hstate]
    have hiff := taken_iff hf hd h hc
    have hlow := h.low cell hc
    have hvalues := h.values cell hc
    by_cases ht : s.1 cell = 4 ∧ (haloPass ts quarter d hd).Hits (haloAttempts contact d s.1) cell
    · rw [if_pos ht]
      exact iff_of_true (Nat.le_refl _) (hiff.mp ht).1
    · rw [if_neg ht]
      apply Iff.intro
      · exact fun hle => depth_succ_of (hlow.mp (by omega))
      · intro hin
        have hold : cell ∈ Depth ts quarter d := by
          by_contra hout
          exact ht (hiff.mpr ⟨hin, hout⟩)
        have := hlow.mpr hold
        omega
  · rw [hstate]
    have hiff := taken_iff hf hd h hc
    have hopened := h.opened cell hc
    by_cases ht : s.1 cell = 4 ∧ (haloPass ts quarter d hd).Hits (haloAttempts contact d s.1) cell
    · rw [if_pos ht]
      exact iff_of_false (by omega) fun hb => hb.2.2 (hiff.mp ht).1
    · rw [if_neg ht, hopened]
      refine and_congr_right fun _ => and_congr_right fun _ => ?_
      apply Iff.intro
      · intro hout hin
        exact ht (hiff.mpr ⟨hin, hout⟩)
      · exact fun hout hin => hout (depth_succ_of hin)
  · rw [hstate]
    split
    · exact Or.inl (Nat.le_refl _)
    · rcases h.values cell hc with hle | heq
      · exact Or.inl (Nat.le_succ_of_le hle)
      · exact Or.inr heq

open Classical in
/-- The cells a phase adds. -/
noncomputable def addedCells (ts : Heat) (quarter : Int) (d : Nat) : Finset Nat :=
  (Finset.range heatSamples).filter fun cell => cell ∈ Depth ts quarter (d + 1) ∧
    cell ∉ Depth ts quarter d

theorem haloWalk_sum (hf : Flagged ts contact) {d : Nat} (hd : d < 3) {s : (Nat → Nat) × Int}
    (h : HaloAt ts contact quarter d s.1) : (haloWalk ts contact quarter d hd s).2 =
      s.2 + ∑ cell ∈ addedCells ts quarter d, signalQ12 (ts.value cell) := by
  rw [haloWalk_eq, Rule.foldl_sum]
  have hset : (haloPass ts quarter d hd).taken s.1 (haloAttempts contact d s.1) =
    addedCells ts quarter d := by
    ext cell
    rw [Rule.mem_taken]
    simp only [addedCells, Finset.mem_filter, Finset.mem_range]
    apply Iff.intro
    · intro ht
      obtain ⟨_, _, hadj, _⟩ := (haloAttempts_hits hf hd h cell).mp ht.2
      exact ⟨hadj.2.1, (taken_iff hf hd h hadj.2.1).mp ht⟩
    · exact fun ht => (taken_iff hf hd h ht.1).mpr ht.2
  rw [hset]
  rfl

/-! ## The whole walk -/

/-- The state `memset` and the first loop give a cell of the tile. -/
def tileState (ts : Heat) (cell : Nat) : Nat :=
  if ts.heatComponent cell then 0 else if !ts.heatActive cell then 4 else 5

theorem haloInit_cells (ts : Heat) (contact : Contact) (cell : Nat) :
    cellState (haloInit ts contact) cell = if cell ∈ boxCells contact 3 then
    tileState ts cell else 5 := by
  have hl : ∀ p ∈ boxCells contact 3, p < heatSamples := fun p hp => (mem_boxCells.mp hp).1
  unfold haloInit
  rw [forBox_foldl]
  generalize boxCells contact 3 = l at hl ⊢
  induction l using List.reverseRecOn with
  | nil => rfl
  | append_singleton l p ih =>
    have hp : heatCell ((p / heatCols : Nat) : Int) ((p % heatCols : Nat) : Int) = some p :=
      heatCell_eq_some.mpr ⟨hl p (by simp), rfl, rfl⟩
    have ih := ih fun q hq => hl q (by simp [hq])
    rw [List.foldl_append, List.foldl_cons, List.foldl_nil]
    generalize l.foldl _ _ = st at ih
    simp only [hp, List.mem_append, List.mem_singleton]
    by_cases hcell : cell = p
    · subst hcell
      have hkeep : ts.heatComponent cell = false → ts.heatActive cell = true →
        cellState st cell = 5 := by
        intro h1 h2
        rw [ih]
        simp [tileState, h1, h2]
      have hself : ∀ v, cellState (HaloState.set st ((cell / heatCols : Nat) : Int)
        ((cell % heatCols : Nat) : Int) v) cell = v := by
        intro v
        rw [cellState_set hp]
        exact Function.update_self _ _ _
      cases h1 : ts.heatComponent cell with
      | true => simp only [h1, if_true, hself, tileState, or_true]
      | false =>
        cases h2 : ts.heatActive cell with
        | false => simp only [h1, h2, Bool.false_eq_true, if_false, Bool.not_false, if_true, hself, tileState, or_true]
        | true => simp only [h1, h2, Bool.false_eq_true, if_false, Bool.not_true, if_true, hkeep, tileState, or_true]
    · have hother : ∀ v, cellState (HaloState.set st ((p / heatCols : Nat) : Int)
        ((p % heatCols : Nat) : Int) v) cell =
          cellState st cell := by
        intro v
        rw [cellState_set hp]
        exact Function.update_of_ne hcell _ _
      simp only [hcell, or_false, ← ih]
      split
      · exact hother 0
      split
      · exact hother 4
      · rfl

theorem haloInit_at (hf : Flagged ts contact) :
    HaloAt ts contact quarter 0 (cellState (haloInit ts contact)) := by
  have hout : ∀ cell, ts.heatComponent cell = true → cell ∈ boxCells contact 3 := fun cell hc =>
    mem_boxCells.mpr ((hf.inBox hc).mono (by decide))
  refine ⟨fun cell hc => ?_, fun cell hc => ?_, fun cell hc => ?_⟩
  · rw [haloInit_cells]
    show _ ↔ ts.heatComponent cell = true
    cases h1 : ts.heatComponent cell with
    | true => simp [hout cell h1, tileState, h1]
    | false =>
      have hne : ¬ (if cell ∈ boxCells contact 3 then tileState ts cell else 5) ≤ 0 := by
        unfold tileState
        rw [h1]
        split
        · simp only [Bool.false_eq_true, if_false]
          split <;> omega
        · omega
      simp [hne]
  · rw [haloInit_cells]
    unfold Background
    rw [← mem_boxCells]
    cases h1 : ts.heatComponent cell with
    | true => simp [hout cell h1, tileState, h1]
    | false =>
      have hdepth : cell ∉ Depth ts quarter 0 := fun hin => by
        have : ts.heatComponent cell = true := hin
        rw [h1] at this
        cases this
      by_cases hbox : cell ∈ boxCells contact 3
      · cases h2 : ts.heatActive cell <;> simp [hbox, tileState, h1, h2, hdepth]
      · simp [hbox]
  · rw [haloInit_cells]
    unfold tileState
    split
    · split
      · exact Or.inl (Nat.le_refl 0)
      · split
        · exact Or.inr (Or.inl rfl)
        · exact Or.inr (Or.inr rfl)
    · exact Or.inr (Or.inr rfl)

theorem ringCells_eq (ts : Heat) (quarter : Int) :
    ∑ cell ∈ ringCells ts quarter, signalQ12 (ts.value cell) =
      ∑ cell ∈ addedCells ts quarter 1, signalQ12 (ts.value cell) + ∑ cell ∈
      addedCells ts quarter 2, signalQ12 (ts.value cell) := by
  classical
  have hdisjoint : Disjoint (addedCells ts quarter 1) (addedCells ts quarter 2) := by
    rw [Finset.disjoint_left]
    intro cell h1 h2
    simp only [addedCells, Finset.mem_filter] at h1 h2
    exact h2.2.2 h1.2.1
  rw [← Finset.sum_union hdisjoint]
  refine Finset.sum_congr ?_ fun _ _ => rfl
  ext cell
  simp only [ringCells, addedCells, Finset.mem_union, Finset.mem_filter]
  apply Iff.intro
  · intro h
    by_cases h2 : cell ∈ Depth ts quarter 2
    · exact Or.inl ⟨h.1, h2, h.2.2⟩
    · exact Or.inr ⟨h.1, h.2.1, h2⟩
  · intro h
    rcases h with h | h
    · exact ⟨h.1, depth_succ_of h.2.1, h.2.2⟩
    · exact ⟨h.1, h.2.1, fun h1 => h.2.2 (depth_succ_of h1)⟩

/-- The sum of the walk is the sum of the signals of the two rings. -/
theorem haloWalk_rule (hf : Flagged ts contact) (quarter : Int) :
    (haloRing ts contact quarter 2 (haloRing ts contact quarter 1
      (haloStrong ts contact quarter (haloInit ts contact), 0))).2 =
        ∑ cell ∈ ringCells ts quarter, signalQ12 (ts.value cell) := by
  have hstrong := haloStrong_walk ts contact quarter (haloInit ts contact) 0
  have h1 := haloWalk_at (s := (cellState (haloInit ts contact), 0)) hf (by decide : 0 < 3) (d := 0)
    (haloInit_at hf : HaloAt ts contact quarter 0 _)
  rw [← hstrong] at h1
  have hsame : SameWalk (haloStrong ts contact quarter (haloInit ts contact), 0)
      (cellState (haloStrong ts contact quarter (haloInit ts contact)), 0) := ⟨rfl, rfl⟩
  have hring1 := haloRing_walk ts contact quarter (by decide : 0 + 1 < 3) hsame
  have h2 := haloWalk_at (s := (cellState (haloStrong ts contact quarter (haloInit ts contact)), 0))
    hf
    (by decide : 1 < 3) h1
  have hring2 := haloRing_walk ts contact quarter (by decide : 1 + 1 < 3) hring1
  have hsum1 := haloWalk_sum (s := (cellState (haloStrong ts contact quarter (haloInit ts contact)),
    0)) hf
    (by decide : 1 < 3) h1
  have hsum2 := haloWalk_sum hf (by decide : 2 < 3) h2
  rw [hsum1] at hsum2
  have hsum := hring2.2.trans hsum2
  rw [hsum, ringCells_eq]
  simp

/-- The quarter of the peak. -/
def quarterPeak (contact : Contact) : Int := (signalQ12 contact.peakValue).tdiv 4

/-- The halo of a contact with small spans and a signal. -/
theorem haloFeature_small (ts : Heat) {contact : Contact}
    (hcols : contact.maxCol - contact.minCol + 1 ≤ 10)
    (hrows : contact.maxRow - contact.minRow + 1 ≤ 10) (hpeak : 0 < signalQ12 contact.peakValue) :
    haloFeature ts contact =
      s32 (((haloRing ts contact (quarterPeak contact) 2
      (haloRing ts contact (quarterPeak contact) 1
        (haloStrong ts contact (quarterPeak contact) (haloInit ts contact), 0))).2 * oneQ12).tdiv
          (signalQ12 contact.peakValue)) := by
  unfold haloFeature
  simp only
  rw [if_neg (by omega)]
  rfl

end Sp11Touch
