import Sp11Touch.Core.Sweep
import Sp11Touch.L2Pipeline.FindFits
import Mathlib.Algebra.BigOperators.Group.List.Basic
/-!
# The flood fill of a frame is exact

`components` lists what the turns of the `start` loop fill. Their queues are the
islands of active cells, each cell in one (`findBefore_swept`), their sums and
corners are those of their cells (`Exact`), and a component goes to
`g6ts_store_contact` if and only if its cells pass the three gates (`Turn`);
all of it for any grid in `findContacts_exact`.

Both flood fills and the peak and halo walks visit the four neighbours of a
cell, each in its own order. `heatAdjacent` is the relation they share: two
cells of the grid at distance one.
-/
namespace Sp11Touch
open CInt Region

/-! ## Neighbours in the grid -/

/-- Cells that differ by one row or by one column. -/
def heatAdjacent (a b : Nat) : Prop :=
  a < heatSamples ∧ b < heatSamples ∧
    ((a / heatCols : Nat) - (b / heatCols : Nat) : Int).natAbs +
    ((a % heatCols : Nat) - (b % heatCols : Nat) : Int).natAbs = 1

instance : DecidableRel heatAdjacent := fun _ _ => inferInstanceAs (Decidable (_ ∧ _ ∧ _))

theorem heatAdjacent_symm (a b : Nat) (h : heatAdjacent a b) : heatAdjacent b a := by
  obtain ⟨ha, hb, hd⟩ := h
  exact ⟨hb, ha, by omega⟩

/-- A step changes the colour of the cell, as on a chessboard. -/
theorem heatAdjacent_parity {a b : Nat} (h : heatAdjacent a b) :
    (a / heatCols + a % heatCols) % 2 ≠ (b / heatCols + b % heatCols) % 2 := by
  have hd := h.2.2
  omega

/-- A cell is where its row and column say. -/
theorem heatCell_eq_some {row col : Int} {cell : Nat} :
    heatCell row col = some cell ↔
      cell < heatSamples ∧ ((cell / heatCols : Nat) : Int) = row ∧
      ((cell % heatCols : Nat) : Int) = col := by
  have hcols : heatCols = 68 := rfl
  have hrows : heatRows = 46 := rfl
  have hsamples : heatSamples = 3128 := rfl
  unfold heatCell
  apply Iff.intro
  · intro h
    split at h
    · next hin =>
      simp only [Option.some.injEq] at h
      rw [hcols] at h hin ⊢
      omega
    · cases h
  · intro h
    rw [hcols] at h ⊢
    rw [if_pos (by omega)]
    simp only [Option.some.injEq]
    omega

/-- The offsets of the four neighbours, in any order. -/
def FourOffsets (offsets : List (Int × Int)) : Prop := ∀ o : Int × Int, o ∈ offsets ↔
    o.1.natAbs + o.2.natAbs = 1

theorem heatNeighbours_iff {offsets : List (Int × Int)} (ho : FourOffsets offsets) {a : Nat}
    (ha : a < heatSamples)
    (b : Nat) : b ∈ heatNeighbours offsets a ↔ heatAdjacent a b := by
  simp only [heatNeighbours, List.mem_filterMap, heatCell_eq_some]
  apply Iff.intro
  · intro h
    obtain ⟨o, hmem, hb, hrow, hcol⟩ := h
    have hd := (ho o).mp hmem
    exact ⟨ha, hb, by omega⟩
  · intro h
    obtain ⟨_, hb, hd⟩ := h
    refine ⟨((b / heatCols : Nat) - (a / heatCols : Nat),
      (b % heatCols : Nat) - (a % heatCols : Nat)), (ho _).mpr ?_, hb, ?_, ?_⟩
    · simp only
      omega
    · simp only
      omega
    · simp only
      omega

theorem heatGrid {offsets : List (Int × Int)} (ho : FourOffsets offsets) :
    Flood.Grid heatSamples (heatNeighbours offsets) heatAdjacent :=
  ⟨heatNeighbours_lt offsets, fun _ ha b => heatNeighbours_iff ho ha b, heatAdjacent_symm⟩

theorem heatAdjacent_lt (a : Nat) (_ : a < heatSamples) (b : Nat) (h : heatAdjacent a b) :
    b < heatSamples := h.2.1

theorem componentOffsets_four : FourOffsets componentOffsets := by
  intro o
  simp only [componentOffsets, List.mem_cons, List.not_mem_nil, or_false, Prod.ext_iff]
  omega

/-! ## What the sums say of the cells -/

/-- The signal of a cell above the reference level. -/
def Heat.weight (ts : Heat) (cell : Nat) : Nat := heatSignalZero - ts.value cell

structure Exact (ts : Heat) (cells : List Nat) (contact : Contact) : Prop where
  pixels : contact.pixels = cells.length
  strength : contact.strength = (cells.map ts.weight).sum
  weightedX : contact.weightedX = (cells.map fun cell => cell % heatCols * ts.weight cell).sum
  weightedY : contact.weightedY = (cells.map fun cell => cell / heatCols * ts.weight cell).sum
  box : Boxed cells contact
  peak : IsLeast {v | ∃ cell ∈ cells, ts.value cell = v} contact.peakValue

theorem cells_sums (ts : Heat) (cells : List Nat) :
    (cells.foldl (fun contact cell => addCell ts cell contact) freshContact).pixels = cells.length ∧
    (cells.foldl (fun contact cell => addCell ts cell contact) freshContact).strength =
      (cells.map ts.weight).sum ∧
    (cells.foldl (fun contact cell => addCell ts cell contact) freshContact).weightedX =
      (cells.map fun cell => cell % heatCols * ts.weight cell).sum ∧
    (cells.foldl (fun contact cell => addCell ts cell contact) freshContact).weightedY =
      (cells.map fun cell => cell / heatCols * ts.weight cell).sum := by
  induction cells using List.reverseRecOn with
  | nil => exact ⟨rfl, rfl, rfl, rfl⟩
  | append_singleton cells cell ih =>
    obtain ⟨h1, h2, h3, h4⟩ := ih
    simp only [List.foldl_append, List.foldl_cons, List.foldl_nil, List.map_append,
      List.map_cons, List.map_nil,
      List.sum_append, List.sum_cons, List.sum_nil, List.length_append,
        List.length_singleton, Nat.add_zero]
    generalize cells.foldl (fun contact cell => addCell ts cell contact) freshContact =
      contact at h1 h2 h3 h4 ⊢
    simp only [addCell, h1, h2, h3, h4, Heat.weight, and_self]

theorem value_le (ts : Heat) (cell : Nat) : ts.value cell ≤ 255 := by
  have := (ts.buf.heatmap cell).toNat_lt
  unfold Heat.value
  omega

/-- A peak that starts at 255 and takes the smaller byte at every cell is the least byte. -/
theorem foldl_peak (ts : Heat) {σ : Type} {step : σ → Nat → σ} {p : σ → Nat} {s : σ}
    {cells : List Nat} (hs : p s = 255)
    (hstep : ∀ s cell, p (step s cell) = min (p s) (ts.value cell)) (hne : cells ≠ []) :
    IsLeast {v | ∃ cell ∈ cells, ts.value cell = v} (p (cells.foldl step s)) := by
  induction cells using List.reverseRecOn with
  | nil => exact absurd rfl hne
  | append_singleton cells cell ih =>
    rw [List.foldl_append, List.foldl_cons, List.foldl_nil, hstep]
    by_cases h0 : cells = []
    · subst h0
      rw [List.foldl_nil, hs, min_eq_right (value_le ts cell)]
      exact isLeast_one ts.value cell
    · exact isLeast_concat cell (ih h0)

theorem cells_peak (ts : Heat) {cells : List Nat} (hne : cells ≠ []) :
    IsLeast {v | ∃ cell ∈ cells, ts.value cell = v}
      (cells.foldl (fun contact cell => addCell ts cell contact) freshContact).peakValue :=
  foldl_peak ts (p := Contact.peakValue) rfl (fun _ _ => rfl) hne

theorem cells_exact (ts : Heat) {cells : List Nat} (hne : cells ≠ [])
    (hlt : ∀ cell ∈ cells, cell < heatSamples) :
    Exact ts cells (cells.foldl (fun contact cell => addCell ts cell contact) freshContact) := by
  obtain ⟨h1, h2, h3, h4⟩ := cells_sums ts cells
  exact ⟨h1, h2, h3, h4, cells_boxed ts hne hlt, cells_peak ts hne⟩

theorem Made.exact {ts : Heat} {seen : Nat → Bool} {start : Nat} (hlt : start < heatSamples)
    (hs : seen start = false) (ha : ts.heatActive start = true)
    (h : Made ts (component ts seen start).1 (component ts seen start).2) :
    Exact ts ((component ts seen start).1.entries (component ts seen start).1.tail)
      (component ts seen start).2 := by
  have hacc := (component_visited hlt hs ha).2.acc
  rw [hacc]
  exact cells_exact ts h.nonempty h.cells.lt

/-! ## The gates -/

/-- The row of the weighted mean, rounded. -/
def meanRow (ts : Heat) (cells : List Nat) : Nat :=
  ((cells.map fun cell => cell / heatCols * ts.weight cell).sum + (cells.map ts.weight).sum / 2) /
    (cells.map ts.weight).sum

/-- Neither weak nor noisy nor the size of a palm. -/
structure Passes (ts : Heat) (cells : List Nat) : Prop where
  strong : ¬ (cells.length < heatMinPixels ∧ ∀ cell ∈ cells, heatStrongMax < ts.value cell)
  quiet : ts.buf.nsrValid = true → ∀ bin, nsrRowToBin[meanRow ts cells]? = some bin →
    bin < ts.buf.nsrBinCount → ts.buf.nsrBins bin ≤ nsrCutoff
  pixels : cells.length ≤ heatPalmPixels
  span : ∀ a ∈ cells, ∀ b ∈ cells,
    a / heatCols < b / heatCols + heatPalmSpan ∧ a % heatCols < b % heatCols + heatPalmSpan

theorem weakComponent_iff {ts : Heat} {cells : List Nat} {contact : Contact}
    (h : Exact ts cells contact) :
    weakComponent contact = true ↔ cells.length < heatMinPixels ∧
      ∀ cell ∈ cells, heatStrongMax < ts.value cell := by
  simp only [weakComponent, Bool.and_eq_true, decide_eq_true_eq, h.pixels]
  refine and_congr_right fun _ => ?_
  apply Iff.intro
  · exact fun hpeak cell hc => Nat.lt_of_lt_of_le hpeak (h.peak.2 ⟨cell, hc, rfl⟩)
  · intro hall
    obtain ⟨cell, hc, heq⟩ := h.peak.1
    exact heq ▸ hall cell hc

theorem nsrRejected_iff {ts : Heat} {cells : List Nat} {contact : Contact}
    (h : Exact ts cells contact)
    (hd : Divisor contact.strength) :
    nsrRejected ts.buf contact = true ↔ ¬ (ts.buf.nsrValid = true →
      ∀ bin, nsrRowToBin[meanRow ts cells]? = some bin →
      bin < ts.buf.nsrBinCount → ts.buf.nsrBins bin ≤ nsrCutoff) := by
  have hrow : divU64 (contact.weightedY + contact.strength / 2) contact.strength =
    meanRow ts cells := by
    rw [divU64_eq _ hd, h.weightedY, h.strength]
    rfl
  unfold nsrRejected
  simp only [hrow]
  generalize nsrRowToBin[meanRow ts cells]? = found
  cases found with
  | none => simp
  | some bin => simp

theorem palmSized_iff {ts : Heat} {cells : List Nat} {contact : Contact}
    (h : Exact ts cells contact) :
    palmSized contact = true ↔ ¬ (cells.length ≤ heatPalmPixels ∧ ∀ a ∈ cells, ∀ b ∈ cells,
      a / heatCols < b / heatCols + heatPalmSpan ∧ a % heatCols < b % heatCols + heatPalmSpan) := by
  have hspan : (∀ a ∈ cells, ∀ b ∈ cells,
      a / heatCols < b / heatCols + heatPalmSpan ∧ a % heatCols < b % heatCols + heatPalmSpan) ↔
      contact.maxRow < contact.minRow + heatPalmSpan ∧
        contact.maxCol < contact.minCol + heatPalmSpan := by
    apply Iff.intro
    · intro hall
      obtain ⟨top, htop, htopeq⟩ := h.box.top.1
      obtain ⟨bottom, hbottom, hbottomeq⟩ := h.box.bottom.1
      obtain ⟨left, hleft, hlefteq⟩ := h.box.left.1
      obtain ⟨right, hright, hrighteq⟩ := h.box.right.1
      rw [← htopeq, ← hbottomeq, ← hlefteq, ← hrighteq]
      exact ⟨(hall bottom hbottom top htop).1, (hall right hright left hleft).2⟩
    · intro hbox a ha b hb
      have h1 := h.box.bottom.2 ⟨a, ha, rfl⟩
      have h2 := h.box.top.2 ⟨b, hb, rfl⟩
      have h3 := h.box.right.2 ⟨a, ha, rfl⟩
      have h4 := h.box.left.2 ⟨b, hb, rfl⟩
      exact ⟨by omega, by omega⟩
  rw [hspan]
  simp only [palmSized, Bool.or_eq_true, decide_eq_true_eq, h.pixels]
  have : 0 < heatPalmSpan := by decide
  omega

theorem passes_iff {ts : Heat} {cells : List Nat} {contact : Contact} (h : Exact ts cells contact)
    (hd : Divisor contact.strength) : Passes ts cells ↔
      weakComponent contact = false ∧ nsrRejected ts.buf contact = false ∧
      palmSized contact = false := by
  simp only [← Bool.not_eq_true, weakComponent_iff h, nsrRejected_iff h hd,
    palmSized_iff h, not_not]
  apply Iff.intro
  · exact fun hp => ⟨hp.strong, hp.quiet, hp.pixels, hp.span⟩
  · exact fun hp => ⟨hp.1, hp.2.1, hp.2.2.1, hp.2.2.2⟩

/-! ## The turns -/

/-- What the turn `start` fills. -/
def startComponent (s : FindState) (start : Nat) : Option (Flood × Contact) :=
  if s.seen start || !s.ts.heatActive start then none else some (component s.ts s.seen start)

/-- The components of the turns below `k`. -/
def componentsBelow (prof : Profile) (ts : Heat) (k : Nat) : List (Flood × Contact) :=
  (List.range k).filterMap fun start => startComponent (findBefore prof ts start) start

/-- The components of the frame, in the order found. -/
def components (prof : Profile) (ts : Heat) : List (Flood × Contact) :=
  componentsBelow prof ts heatSamples

/-- The cells in the queue. -/
def queuedCells (c : Flood × Contact) : List Nat := c.1.entries c.1.tail

theorem componentsBelow_succ (prof : Profile) (ts : Heat) (k : Nat) :
    componentsBelow prof ts (k + 1) =
      componentsBelow prof ts k ++ (startComponent (findBefore prof ts k) k).toList := by
  unfold componentsBelow
  rw [List.range_succ, List.filterMap_append]
  cases h : startComponent (findBefore prof ts k) k <;> simp [h]

theorem findBefore_succ (prof : Profile) (ts : Heat) (k : Nat) :
    findBefore prof ts (k + 1) = findStart prof k (findBefore prof ts k) := loop_succ k _ _

/-- The state a complete component is admitted to. -/
def FindState.filled (s : FindState) (fill : Flood) : FindState :=
  ⟨{ s.ts with heatQueue := fill.queue, componentTotal := s.ts.componentTotal + 1 }, fill.mark,
    s.contactCount⟩

theorem findStart_eq (prof : Profile) (s : FindState) (start : Nat) :
    findStart prof start s = match startComponent s start with
      | none => s
      | some c => admitComponent prof (s.filled c.1) c.1 c.2 := by
  unfold findStart startComponent
  split <;> rfl

/-- What one complete component does to the contacts and the counters. -/
structure Admitted (prof : Profile) (s s' : FindState) (fill : Flood)
    (contact : Contact) : Prop where
  buf : s'.ts.buf = s.ts.buf
  seen : s'.seen = fill.mark
  stored : Passes s.ts (fill.entries fill.tail) →
    (s'.ts.contacts, s'.contactCount) = storeContact s.ts.contacts
        (shapeContact prof (shapedHeat s.ts fill) (locateContact contact)).2 s.contactCount ∧
      s'.ts.weakRejections + s'.ts.nsrRejections + s'.ts.palmRejections =
        s.ts.weakRejections + s.ts.nsrRejections + s.ts.palmRejections
  rejected : ¬ Passes s.ts (fill.entries fill.tail) →
    s'.ts.contacts = s.ts.contacts ∧ s'.contactCount = s.contactCount ∧
      s'.ts.weakRejections + s'.ts.nsrRejections + s'.ts.palmRejections =
        s.ts.weakRejections + s.ts.nsrRejections + s.ts.palmRejections + 1

theorem admitComponent_admitted {prof : Profile} {s : FindState} {fill : Flood} {contact : Contact}
    (h : Exact s.ts (fill.entries fill.tail) contact) (hd : Divisor contact.strength) :
    Admitted prof s (admitComponent prof (s.filled fill) fill contact) fill contact := by
  have hp := passes_iff h hd
  have hreject : ∀ ts : Heat, ts.buf = s.ts.buf → ts.contacts = s.ts.contacts →
    ts.weakRejections + ts.nsrRejections +
      ts.palmRejections = s.ts.weakRejections + s.ts.nsrRejections + s.ts.palmRejections + 1 →
      ¬ Passes s.ts (fill.entries fill.tail) →
        Admitted prof s { s.filled fill with ts := ts } fill contact :=
    fun _ hb hc hsum hno => ⟨hb, rfl, fun hpass => absurd hpass hno, fun _ => ⟨hc, rfl, hsum⟩⟩
  unfold admitComponent
  by_cases hw : weakComponent contact = true
  · rw [if_pos hw]
    refine hreject _ rfl rfl ?_ fun hpass => by simp [hw] at hp; exact hp hpass
    simp only [FindState.filled]
    omega
  rw [if_neg hw]
  by_cases hn : nsrRejected s.ts.buf contact = true
  · rw [if_pos (show nsrRejected (s.filled fill).ts.buf contact = true from hn)]
    refine hreject _ rfl rfl ?_ fun hpass => by simp [hn] at hp; exact hp hpass
    simp only [FindState.filled]
    omega
  rw [if_neg (show ¬ nsrRejected (s.filled fill).ts.buf contact = true from hn)]
  by_cases hpalm : palmSized contact = true
  · rw [if_pos hpalm]
    refine hreject _ rfl rfl ?_ fun hpass => by simp [hpalm] at hp; exact hp hpass
    simp only [FindState.filled]
    omega
  rw [if_neg hpalm]
  have hpass : Passes s.ts (fill.entries fill.tail) :=
    hp.mpr ⟨by simpa using hw, by simpa using hn, by simpa using hpalm⟩
  obtain ⟨w, q, hs⟩ := shapeContact_frame prof (shapedHeat s.ts fill) (locateContact contact)
  have hshaped : shapeContact prof { (s.filled fill).ts with heatComponent := componentFlags fill }
    (locateContact contact)
      = shapeContact prof (shapedHeat s.ts fill) (locateContact contact) := rfl
  rw [hshaped]
  generalize hr : shapeContact prof (shapedHeat s.ts fill) (locateContact contact) = r at hs
  cases r with
  | mk heat shaped =>
    simp only at hs
    subst hs
    refine ⟨rfl, rfl, fun _ => ⟨?_, rfl⟩, fun hno => absurd hpass hno⟩
    rw [hr]
    rfl

/-! ## The whole loop -/

theorem value_of_buf {a b : Heat} (h : a.buf = b.buf) : a.value = b.value := by
  funext cell
  unfold Heat.value
  rw [h]

theorem heatActive_of_buf {a b : Heat} (h : a.buf = b.buf) : a.heatActive = b.heatActive := by
  funext cell
  unfold Heat.heatActive
  rw [value_of_buf h]

theorem Exact.of_buf {a b : Heat} {cells : List Nat} {contact : Contact} (hb : a.buf = b.buf)
    (h : Exact a cells contact) : Exact b cells contact := by
  have hv := value_of_buf hb
  have hw : a.weight = b.weight := by
    funext cell
    unfold Heat.weight
    rw [hv]
  refine ⟨h.pixels, ?_, ?_, ?_, h.box, ?_⟩
  · rw [← hw]; exact h.strength
  · rw [← hw]; exact h.weightedX
  · rw [← hw]; exact h.weightedY
  · rw [← hv]; exact h.peak

/-- A component that one turn fills. -/
structure FillExact (s : FindState) (start : Nat) (c : Flood × Contact) : Prop where
  exits : (Flood.drain (heatNeighbours componentOffsets) s.ts.heatActive
    (addCell s.ts) heatSamples 0
    (Flood.push ⟨s.seen, s.ts.heatQueue, 0⟩ start) freshContact).1 = c.1.tail
  filled : Flood.Filled heatSamples heatAdjacent s.ts.heatActive s.seen start c.1
  exact : Exact s.ts (queuedCells c) c.2
  divisor : Divisor c.2.strength

theorem startComponent_exact {s : FindState} {start : Nat} {c : Flood × Contact}
    (hlt : start < heatSamples)
    (hc : Flood.Closed heatAdjacent s.ts.heatActive s.seen) (h : startComponent s start = some c) :
    s.ts.heatActive start = true ∧ FillExact s start c := by
  unfold startComponent at h
  split at h
  · cases h
  · next hn =>
    simp only [Bool.or_eq_true, Bool.not_eq_true', not_or, Bool.not_eq_true, Bool.not_eq_false]
      at hn
    obtain rfl : component s.ts s.seen start = c := by simpa using h
    have hmade := component_made hlt hn.1 hn.2
    have hdrain : (Flood.drain (heatNeighbours componentOffsets) s.ts.heatActive
      (addCell s.ts) heatSamples 0
        (Flood.push ⟨s.seen, s.ts.heatQueue, 0⟩ start) freshContact).1 =
        (component s.ts s.seen start).1.tail ∧ _ :=
      Flood.drain_filled (heatGrid componentOffsets_four) hlt hn.2 hn.1 hc
        s.ts.heatQueue freshContact
    exact ⟨hn.2, hdrain.1, hdrain.2, hmade.exact hlt hn.1 hn.2, hmade.sums.strength⟩

/-- Before the turn `k`: the grid is the frame's, and the components below are islands. -/
structure Sweeping (prof : Profile) (ts : Heat) (k : Nat) : Prop where
  buf : (findBefore prof ts k).ts.buf = ts.buf
  swept : Flood.Swept heatSamples heatAdjacent ts.heatActive k (findBefore prof ts k).seen
    ((componentsBelow prof ts k).map queuedCells)

theorem Sweeping.closed {prof : Profile} {ts : Heat} {k : Nat} (h : Sweeping prof ts k) :
    Flood.Closed heatAdjacent (findBefore prof ts k).ts.heatActive (findBefore prof ts k).seen := by
  rw [heatActive_of_buf h.buf]
  exact h.swept.closed heatAdjacent_symm heatAdjacent_lt

theorem Sweeping.turn {prof : Profile} {ts : Heat} {k : Nat} {c : Flood × Contact}
    (h : Sweeping prof ts k)
    (hk : k < heatSamples) (hc : startComponent (findBefore prof ts k) k = some c) :
    FillExact (findBefore prof ts k) k c ∧
      Admitted prof (findBefore prof ts k) (findBefore prof ts (k + 1)) c.1 c.2 := by
  have hfill := (startComponent_exact hk h.closed hc).2
  refine ⟨hfill, ?_⟩
  rw [findBefore_succ, findStart_eq, hc]
  exact admitComponent_admitted hfill.exact hfill.divisor

theorem Sweeping.succ {prof : Profile} {ts : Heat} {k : Nat} (h : Sweeping prof ts k)
    (hk : k < heatSamples) :
    Sweeping prof ts (k + 1) := by
  have hactive := heatActive_of_buf h.buf
  cases hc : startComponent (findBefore prof ts k) k with
  | none =>
    have hs : findBefore prof ts (k + 1) = findBefore prof ts k := by
      rw [findBefore_succ, findStart_eq, hc]
    have hskip : ((findBefore prof ts k).seen k || !ts.heatActive k) = true := by
      unfold startComponent at hc
      rw [hactive] at hc
      split at hc
      · assumption
      · cases hc
    refine ⟨hs ▸ h.buf, ?_⟩
    rw [hs, componentsBelow_succ, hc, Option.toList_none, List.append_nil]
    exact h.swept.skip hskip
  | some c =>
    obtain ⟨hfill, hgates⟩ := h.turn hk hc
    have hstart := (startComponent_exact hk h.closed hc).1
    refine ⟨hgates.buf.trans h.buf, ?_⟩
    rw [hgates.seen, componentsBelow_succ, hc, Option.toList_some, List.map_append]
    have hfilled := hfill.filled
    rw [hactive] at hfilled hstart
    exact h.swept.flood heatAdjacent_symm hk hstart hfilled

theorem findBefore_sweeping (prof : Profile) (ts : Heat) : ∀ {k : Nat}, k ≤ heatSamples →
    Sweeping prof ts k := by
  intro k
  induction k with
  | zero =>
    intro _
    have h0 : findBefore prof ts 0 = ⟨ts, fun _ => false, 0⟩ := loop_zero _ _
    refine ⟨by rw [h0], ?_⟩
    rw [h0]
    exact Flood.Swept.zero
  | succ k ih => exact fun hk => (ih (Nat.le_of_succ_le hk)).succ hk

/-- The turn that filled a component of the frame. -/
theorem mem_components {prof : Profile} {ts : Heat} {c : Flood × Contact}
    (h : c ∈ components prof ts) :
    ∃ k, k < heatSamples ∧ startComponent (findBefore prof ts k) k = some c := by
  obtain ⟨k, hk, hc⟩ := List.mem_filterMap.mp h
  exact ⟨k, List.mem_range.mp hk, hc⟩

/-- What one turn of the loop does. -/
structure TurnExact (prof : Profile) (ts : Heat) (start : Nat) : Prop where
  idle : startComponent (findBefore prof ts start) start = none →
    findBefore prof ts (start + 1) = findBefore prof ts start
  fills : ∀ c, startComponent (findBefore prof ts start) start = some c →
    FillExact (findBefore prof ts start) start c ∧
      Admitted prof (findBefore prof ts start) (findBefore prof ts (start + 1)) c.1 c.2

/-- The components of a frame are the islands of active cells, and go through the gates by their cells. -/
structure FrameExact (prof : Profile) (ts : Heat) : Prop where
  run : findContacts prof ts = (findBefore prof ts heatSamples).finish
  islands : ∀ T : Set Nat, (∃ c ∈ components prof ts, {cell | cell ∈ queuedCells c} = T) ↔
    IsIsland heatAdjacent (Flood.OkCells heatSamples ts.heatActive) T
  once : ∀ cell, cell < heatSamples → ts.heatActive cell = true →
    ∃! i, ∃ hi : i < (components prof ts).length, cell ∈ queuedCells (components prof ts)[i]
  queue : ∀ c ∈ components prof ts, (queuedCells c).Nodup ∧ c.1.tail ≤ heatSamples
  sums : ∀ c ∈ components prof ts, Exact ts (queuedCells c) c.2
  grid : ∀ start, start < heatSamples → (findBefore prof ts start).ts.buf = ts.buf
  turns : ∀ start, start < heatSamples → TurnExact prof ts start

theorem findContacts_exact (prof : Profile) (ts : Heat) : FrameExact prof ts := by
  have hsweep := (findBefore_sweeping prof ts (Nat.le_refl heatSamples)).swept
  have hturn : ∀ {k : Nat}, k < heatSamples → Sweeping prof ts k :=
    fun hk => findBefore_sweeping prof ts (Nat.le_of_lt hk)
  refine ⟨rfl, fun T => ?_, fun cell hlt ha => ?_, fun c hc => ?_, fun c hc => ?_,
    fun start hs => (hturn hs).buf,
    fun start hs => ⟨fun hnone => ?_, fun c hc => (hturn hs).turn hs hc⟩⟩
  · apply Iff.intro
    · intro h
      obtain ⟨c, hc, rfl⟩ := h
      exact hsweep.island _ (List.mem_map.mpr ⟨c, hc, rfl⟩)
    · intro hT
      obtain ⟨q, hq, heq⟩ := hsweep.complete heatAdjacent_symm hT
      obtain ⟨c, hc, rfl⟩ := List.mem_map.mp hq
      exact ⟨c, hc, heq⟩
  · have hunique := hsweep.unique hlt ha
    simpa [components] using hunique
  · obtain ⟨k, hk, hsome⟩ := mem_components hc
    have hgood := ((hturn hk).turn hk hsome).1.filled.good
    exact ⟨hgood.entries_nodup, hgood.tail_le⟩
  · obtain ⟨k, hk, hsome⟩ := mem_components hc
    exact ((hturn hk).turn hk hsome).1.exact.of_buf (hturn hk).buf
  · rw [findBefore_succ, findStart_eq, hnone]

end Sp11Touch
