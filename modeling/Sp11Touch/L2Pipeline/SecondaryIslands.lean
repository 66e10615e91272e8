import Sp11Touch.L2Pipeline.Accepted
/-!
# The secondary passes count islands

A pass floods the cells of the component at most `cutoff`. Its `accepted` and
`largest` are the number and the greatest size of the islands with more than two
cells or a peak above the seed (`PassExact`). The three cutoffs fall from pass
to pass and stay above the peak byte, so each island of a later pass lies in one
of an earlier pass and the features are ordered (`SecondaryExact`).
-/
namespace Sp11Touch
open CInt Region

theorem secondaryOffsets_four : FourOffsets secondaryOffsets := by
  intro o
  simp only [secondaryOffsets, List.mem_cons, List.not_mem_nil, or_false, Prod.ext_iff]
  omega

/-! ## The cutoffs -/

/-- The peak bytes the rerun is not skipped for. -/
theorem peak_of_signal {v : Nat} (h : 287 < signalQ12 v) : v < 149 := by
  by_contra hv
  have hle := signalQ12_anti (not_lt.mp hv)
  have h149 : signalQ12 149 ≤ 287 := by decide
  omega

structure CutoffsFall (peakValue : Nat) : Prop where
  peak : peakValue ≤ secondaryCutoff peakValue 2
  last : secondaryCutoff peakValue 2 ≤ secondaryCutoff peakValue 1
  first : secondaryCutoff peakValue 1 ≤ secondaryCutoff peakValue 0

theorem cutoffs_fall {v : Nat} (h : 287 < signalQ12 v) : CutoffsFall v := by
  have hall : ∀ v, v < 149 → v ≤ secondaryCutoff v 2 ∧ secondaryCutoff v 2 ≤ secondaryCutoff v 1 ∧
      secondaryCutoff v 1 ≤ secondaryCutoff v 0 := by
    decide +kernel
  obtain ⟨h1, h2, h3⟩ := hall v (peak_of_signal h)
  exact ⟨h1, h2, h3⟩

/-! ## One pass -/

/-- The cells of the component at most `cutoff`. -/
def secondaryArea (ts : Heat) (cutoff : Nat) : Set Nat :=
  Flood.OkCells heatSamples (secondaryCell ts cutoff)

/-- More than two cells, or a peak above the seed. -/
def Big (ts : Heat) (T : Set Nat) : Prop := 2 < T.ncard ∨
    ∃ cell ∈ T, secondarySeedQ12 < signalQ12 (ts.value cell)

/-- An island the pass accepts. -/
def BigIsland (ts : Heat) (cutoff : Nat) (T : Set Nat) : Prop :=
  IsIsland heatAdjacent (secondaryArea ts cutoff) T ∧ Big ts T

def bigQueue (ts : Heat) (q : List Nat) : Bool :=
  decide (2 < q.length) || q.any fun cell => decide (secondarySeedQ12 < signalQ12 (ts.value cell))

theorem bigQueue_iff {ts : Heat} {q : List Nat} (h : q.Nodup) : bigQueue ts q = true ↔
    Big ts {c | c ∈ q} := by
  unfold bigQueue Big
  rw [Flood.cells_ncard h]
  simp

/-- The pixels and the peak byte of the queued cells. -/
def secondaryVisit (ts : Heat) (index : Nat) (a : Nat × Nat) : Nat × Nat :=
  (a.1 + 1, min a.2 (ts.value index))

theorem secondary_pixels (ts : Heat) (cells : List Nat) :
    (cells.foldl (fun a cell => secondaryVisit ts cell a) (0, 255)).1 = cells.length := by
  induction cells using List.reverseRecOn with
  | nil => rfl
  | append_singleton cells cell ih =>
    rw [List.foldl_append, List.length_append, ← ih]
    rfl

theorem secondary_peak (ts : Heat) {cells : List Nat} (hne : cells ≠ []) :
    IsLeast {v | ∃ cell ∈ cells, ts.value cell = v}
      (cells.foldl (fun a cell => secondaryVisit ts cell a) (0, 255)).2 :=
  foldl_peak ts (p := Prod.snd) rfl (fun _ _ => rfl) hne

theorem seed_iff {ts : Heat} {cells : List Nat} {peak : Nat}
    (h : IsLeast {v | ∃ cell ∈ cells, ts.value cell = v} peak) :
    secondarySeedQ12 < signalQ12 peak ↔ ∃ cell ∈ cells, secondarySeedQ12 <
      signalQ12 (ts.value cell) := by
  apply Iff.intro
  · intro hpeak
    obtain ⟨cell, hc, rfl⟩ := h.1
    exact ⟨cell, hc, hpeak⟩
  · intro hcell
    obtain ⟨cell, hc, hlt⟩ := hcell
    exact lt_of_lt_of_le hlt (signalQ12_anti (h.2 ⟨cell, hc, rfl⟩))

/-- The flood of one start cell: the island, and what the two sums say of it. -/
theorem secondaryFill_filled {ts : Heat} {cutoff start : Nat} {s : SecondaryPass}
    (hlt : start < heatSamples)
    (hok : secondaryCell ts cutoff start = true) (hm : s.heatWork start = false)
    (hc : Flood.Closed heatAdjacent (secondaryCell ts cutoff) s.heatWork) :
    Flood.Filled heatSamples heatAdjacent (secondaryCell ts cutoff) s.heatWork start
      (secondaryFill ts cutoff start s).1 ∧
      (secondaryFill ts cutoff start s).2.1 =
        ((secondaryFill ts cutoff start s).1.entries
        (secondaryFill ts cutoff start s).1.tail).length ∧
      (¬ ((secondaryFill ts cutoff start s).2.1 ≤ 2 ∧
        signalQ12 (secondaryFill ts cutoff start s).2.2 ≤ secondarySeedQ12) ↔
        bigQueue ts ((secondaryFill ts cutoff start s).1.entries
          (secondaryFill ts cutoff start s).1.tail) = true) := by
  have hfilled : _ ∧ Flood.Filled heatSamples heatAdjacent
    (secondaryCell ts cutoff) s.heatWork start
      (secondaryFill ts cutoff start s).1 := Flood.drain_filled
      (heatGrid secondaryOffsets_four) hlt hok hm hc _ _
  have hvisited : 1 ≤ (secondaryFill ts cutoff start s).1.tail ∧
    Flood.Visited (secondaryCell ts cutoff) (secondaryVisit ts)
      (0, 255) (secondaryFill ts cutoff start s).1.tail (secondaryFill ts cutoff start s).1
      (secondaryFill ts cutoff start s).2 :=
    Flood.flood_visited (heatNeighbours_lt secondaryOffsets) hlt hok hm _
  generalize secondaryFill ts cutoff start s = r at hfilled hvisited ⊢
  have hacc : r.2 = _ := hvisited.2.acc
  have hne : r.1.entries r.1.tail ≠ [] := List.ne_nil_of_mem
    (Flood.mem_entries.mpr ⟨0, hvisited.1, rfl⟩)
  have hpixels := secondary_pixels ts (r.1.entries r.1.tail)
  have hpeak := secondary_peak ts hne
  rw [← hacc] at hpixels hpeak
  refine ⟨hfilled.2, hpixels, ?_⟩
  unfold bigQueue
  simp only [Bool.or_eq_true, decide_eq_true_eq, List.any_eq_true, ← seed_iff hpeak, ← hpixels]
  omega

/-- After the starts below `k`: the islands so far, and what the accepted ones come to. -/
structure PassSwept (ts : Heat) (cutoff k : Nat) (s : SecondaryPass)
    (islands : List (List Nat)) : Prop where
  swept : Flood.Swept heatSamples heatAdjacent (secondaryCell ts cutoff) k s.heatWork islands
  accepted : s.accepted = (islands.filter (bigQueue ts)).length
  upper : ∀ q ∈ islands.filter (bigQueue ts), q.length ≤ s.largest
  attained : s.largest = 0 ∨ ∃ q ∈ islands.filter (bigQueue ts), q.length = s.largest

section
variable {ts : Heat} {cutoff k : Nat} {s : SecondaryPass} {islands : List (List Nat)}

/-- One more island, of which the counts take no notice. -/
theorem PassSwept.small (h : PassSwept ts cutoff k s islands) {fill : Flood} {queue : List Nat}
    (hs : Flood.Swept heatSamples heatAdjacent (secondaryCell ts cutoff) (k + 1)
    fill.mark (islands ++ [queue]))
    (hsmall : bigQueue ts queue = false) :
    PassSwept ts cutoff (k + 1) { s with heatWork := fill.mark, heatQueue := fill.queue }
      (islands ++ [queue]) := by
  have hfilter : (islands ++ [queue]).filter (bigQueue ts) = islands.filter (bigQueue ts) := by
    rw [List.filter_append, List.filter_singleton, hsmall]
    simp
  refine ⟨hs, ?_, ?_, ?_⟩
  · rw [hfilter]; exact h.accepted
  · rw [hfilter]; exact h.upper
  · rw [hfilter]; exact h.attained

/-- One more island that is counted. -/
theorem PassSwept.big (h : PassSwept ts cutoff k s islands) {fill : Flood} {queue : List Nat}
    (hs : Flood.Swept heatSamples heatAdjacent (secondaryCell ts cutoff) (k + 1)
    fill.mark (islands ++ [queue]))
    (hbig : bigQueue ts queue = true) :
    PassSwept ts cutoff (k + 1)
      ⟨s.accepted + 1, max s.largest queue.length, fill.mark, fill.queue⟩ (islands ++ [queue]) := by
  have hfilter : (islands ++ [queue]).filter (bigQueue ts) =
    islands.filter (bigQueue ts) ++ [queue] := by
    rw [List.filter_append, List.filter_singleton, hbig]
    simp
  refine ⟨hs, ?_, fun q hq => ?_, ?_⟩
  · rw [hfilter, List.length_append, ← h.accepted]
    rfl
  · rw [hfilter] at hq
    rcases List.mem_append.mp hq with hq | hq
    · exact le_max_of_le_left (h.upper q hq)
    · rw [List.mem_singleton.mp hq]
      exact le_max_right _ _
  · rw [hfilter]
    simp only
    rcases le_total s.largest queue.length with hge | hle
    · rw [max_eq_right hge]
      exact Or.inr ⟨_, List.mem_append_right _ (List.mem_singleton.mpr rfl), rfl⟩
    · rw [max_eq_left hle]
      rcases h.attained with hzero | hsome
      · exact Or.inl hzero
      · obtain ⟨q, hq, hlen⟩ := hsome
        exact Or.inr ⟨q, List.mem_append_left _ hq, hlen⟩

/-- A start is passed over, or is the first cell of one more island. -/
theorem secondaryStart_swept (h : PassSwept ts cutoff k s islands) (hk : k < heatSamples) :
    ∃ islands', PassSwept ts cutoff (k + 1) (secondaryStart ts cutoff k s) islands' := by
  unfold secondaryStart
  by_cases hskip : (!ts.heatComponent k || s.heatWork k || ts.value k > cutoff) = true
  · rw [if_pos hskip]
    refine ⟨islands, h.swept.skip ?_, h.accepted, h.upper, h.attained⟩
    unfold secondaryCell
    cases hcomp : ts.heatComponent k <;> cases hwork : s.heatWork k <;> simp_all
  rw [if_neg hskip]
  have hok : secondaryCell ts cutoff k = true ∧ s.heatWork k = false := by
    unfold secondaryCell
    cases hcomp : ts.heatComponent k <;> cases hwork : s.heatWork k <;> simp_all
  have hclosed := h.swept.closed heatAdjacent_symm heatAdjacent_lt
  obtain ⟨hfilled, hpixels, hbig⟩ := secondaryFill_filled hk hok.1 hok.2 hclosed
  have hswept := h.swept.flood heatAdjacent_symm hk hok.1 hfilled
  generalize secondaryFill ts cutoff k s = r at hpixels hbig hswept ⊢
  refine ⟨islands ++ [r.1.entries r.1.tail], ?_⟩
  simp only
  by_cases hsmall : r.2.1 ≤ 2 ∧ signalQ12 r.2.2 ≤ secondarySeedQ12
  · rw [if_pos hsmall]
    refine h.small hswept ?_
    rw [← Bool.not_eq_true]
    exact fun hyes => hbig.mpr hyes hsmall
  · rw [if_neg hsmall, hpixels]
    exact h.big hswept (hbig.mp hsmall)

end

/-- `accepted` and `largest` of one pass. -/
structure PassExact (ts : Heat) (cutoff accepted largest : Nat) : Prop where
  accepted : {T | BigIsland ts cutoff T}.ncard = accepted
  largest : {T | BigIsland ts cutoff T}.Nonempty →
    IsGreatest {n | ∃ T, BigIsland ts cutoff T ∧ T.ncard = n} largest
  finite : {T | BigIsland ts cutoff T}.Finite

/-- Cells that lie apart are islands of one cell each; a pass accepts them all if each is above the seed. -/
theorem PassExact.apart {ts : Heat} {cutoff accepted largest : Nat} {l : List Nat}
    (h : PassExact ts cutoff accepted largest)
    (harea : secondaryArea ts cutoff = {c | c ∈ l}) (hl : l.Nodup) (hne : l ≠ [])
    (hapart : ∀ a ∈ l, ∀ b ∈ l, ¬ heatAdjacent a b)
      (hseed : ∀ c ∈ l, secondarySeedQ12 < signalQ12 (ts.value c)) :
    accepted = l.length ∧ largest = 1 := by
  have hbig : ∀ T, BigIsland ts cutoff T ↔ ∃ c, c ∈ l ∧ {c} = T := by
    intro T
    have hone : IsIsland heatAdjacent {c | c ∈ l} T ↔ ∃ c, c ∈ l ∧
      {c} = T := isIsland_of_independent heatAdjacent_symm hapart
    unfold BigIsland
    rw [harea, hone]
    refine ⟨fun hT => hT.1, fun hT => ⟨hT, ?_⟩⟩
    obtain ⟨c, hc, rfl⟩ := hT
    exact Or.inr ⟨c, rfl, hseed c hc⟩
  have himage : {T | BigIsland ts cutoff T} = (fun c => ({c} : Set Nat)) ''
    {c | c ∈ l} := Set.ext hbig
  refine ⟨?_, ?_⟩
  · rw [← h.accepted, himage, Set.ncard_image_of_injective _ Set.singleton_injective,
      Flood.cells_ncard hl]
  · obtain ⟨c, hc⟩ := List.exists_mem_of_ne_nil l hne
    obtain ⟨T, hT, hlargest⟩ := (h.largest ⟨{c}, (hbig {c}).mpr ⟨c, hc, rfl⟩⟩).1
    obtain ⟨d, _, rfl⟩ := (hbig T).mp hT
    rw [← hlargest, Set.ncard_singleton]

/-- A pass reads the flags and the grid only. -/
theorem PassExact.frame {ts : Heat} {w : Nat → Bool} {q : Nat → Nat} {cutoff accepted largest : Nat}
    (h : PassExact { ts with heatWork := w, heatQueue := q } cutoff accepted largest) :
    PassExact ts cutoff accepted largest := ⟨h.accepted, h.largest, h.finite⟩

/-- Before the start `k` of a pass. -/
def passBefore (ts : Heat) (cutoff k : Nat) : SecondaryPass :=
  loop k (secondaryStart ts cutoff) ⟨0, 0, fun _ => false, ts.heatQueue⟩

theorem passBefore_swept (ts : Heat) (cutoff : Nat) :
    ∀ {k : Nat}, k ≤ heatSamples → ∃ islands, PassSwept ts cutoff k
    (passBefore ts cutoff k) islands := by
  intro k
  induction k with
  | zero =>
    intro _
    unfold passBefore
    rw [loop_zero]
    exact ⟨[], Flood.Swept.zero, rfl, fun q hq => absurd hq List.not_mem_nil, Or.inl rfl⟩
  | succ k ih =>
    intro hk
    obtain ⟨islands, h⟩ := ih (Nat.le_of_succ_le hk)
    unfold passBefore
    rw [loop_succ]
    exact secondaryStart_swept h hk

/-- The counts of all islands of a pass. -/
theorem PassSwept.exact {ts : Heat} {cutoff : Nat} {s : SecondaryPass} {islands : List (List Nat)}
    (h : PassSwept ts cutoff heatSamples s islands) : PassExact ts cutoff s.accepted s.largest := by
  have hp : ∀ q ∈ islands, bigQueue ts q = true ↔ Big ts {c | c ∈ q} :=
    fun q hq => bigQueue_iff (h.swept.nodup q hq)
  have heq : {T | BigIsland ts cutoff T} = {T | ∃ q ∈
    islands.filter (bigQueue ts), {c | c ∈ q} = T} :=
    h.swept.islands_eq heatAdjacent_symm hp
  have hlen : ∀ q ∈ islands.filter (bigQueue ts), {c | c ∈ q}.ncard = q.length := fun q hq =>
    Flood.cells_ncard (h.swept.nodup q (List.mem_filter.mp hq).1)
  refine ⟨?_, fun hne => ⟨?_, fun n hn => ?_⟩, ?_⟩
  · rw [h.accepted]
    exact h.swept.count heatAdjacent_symm hp
  · rw [heq] at hne
    obtain ⟨_, q, hq, rfl⟩ := hne
    have hbig : ∀ q ∈ islands.filter (bigQueue ts), BigIsland ts cutoff {c | c ∈ q} := by
      intro q hq
      have hmem : {c | c ∈ q} ∈ {T | BigIsland ts cutoff T} := heq ▸ ⟨q, hq, rfl⟩
      exact hmem
    rcases h.attained with hzero | hsome
    · refine ⟨{c | c ∈ q}, hbig q hq, ?_⟩
      have hupper := h.upper q hq
      rw [hlen q hq]
      omega
    · obtain ⟨q', hq', hlargest⟩ := hsome
      exact ⟨{c | c ∈ q'}, hbig q' hq', (hlen q' hq').trans hlargest⟩
  · obtain ⟨T, hT, rfl⟩ := hn
    have hmem : T ∈ {T | BigIsland ts cutoff T} := hT
    rw [heq] at hmem
    obtain ⟨q, hq, rfl⟩ := hmem
    rw [hlen q hq]
    exact h.upper q hq
  · rw [heq]
    refine (List.finite_toSet ((islands.filter (bigQueue ts)).map fun q => {c | c ∈ q})).subset
      fun T hT => ?_
    obtain ⟨q, hq, rfl⟩ := hT
    exact List.mem_map.mpr ⟨q, hq, rfl⟩

theorem pass_exact (ts : Heat) (cutoff : Nat) :
    PassExact ts cutoff (passBefore ts cutoff heatSamples).accepted
    (passBefore ts cutoff heatSamples).largest := by
  obtain ⟨islands, h⟩ := passBefore_swept ts cutoff (Nat.le_refl heatSamples)
  exact h.exact

/-- The queue of a pass holds at most as many entries as the grid has cells. -/
theorem secondaryFill_tail (ts : Heat) (cutoff : Nat) {k : Nat} (hk : k < heatSamples)
    (hok : secondaryCell ts cutoff k = true) (hm : (passBefore ts cutoff k).heatWork k = false) :
    (secondaryFill ts cutoff k (passBefore ts cutoff k)).1.tail ≤ heatSamples := by
  obtain ⟨islands, h⟩ := passBefore_swept ts cutoff (Nat.le_of_lt hk)
  exact (secondaryFill_filled hk hok hm (h.swept.closed heatAdjacent_symm
    heatAdjacent_lt)).1.good.tail_le

/-! ## The three passes -/

/-- The features a pass sets are its two numbers. -/
def PassFeatures (ts : Heat) (peakValue pass : Nat) (features : Nat → Int) : Prop :=
  ∃ accepted largest : Nat, PassExact ts (secondaryCutoff peakValue pass) accepted largest ∧
    features (1 + pass) = (largest * oneQ12 : Nat) ∧ features (4 + pass) = (accepted * oneQ12 : Nat)

/-- After the passes below `n`. -/
structure PassesDone (ts : Heat) (contact : Contact) (n : Nat) (s : Heat × Contact) : Prop where
  heat : ∃ w q, s.1 = { ts with heatWork := w, heatQueue := q }
  peak : s.2.peakValue = contact.peakValue
  features : ∀ pass, pass < n → PassFeatures ts contact.peakValue pass s.2.featuresQ12

theorem secondaryPass_done {ts : Heat} {contact : Contact} {n : Nat} {s : Heat × Contact}
    (hn : n < 3)
    (h : PassesDone ts contact n s) : PassesDone ts contact (n + 1) (secondaryPass n s) := by
  obtain ⟨w, q, hs⟩ := h.heat
  have hexact := pass_exact s.1 (secondaryCutoff s.2.peakValue n)
  unfold secondaryPass
  unfold passBefore at hexact
  simp only
  generalize loop heatSamples (secondaryStart s.1 _) _ = r at hexact
  rw [h.peak, hs] at hexact
  have hexact := hexact.frame
  refine ⟨⟨r.heatWork, r.heatQueue, by rw [hs]⟩, h.peak, fun pass hpass => ?_⟩
  simp only [setFeature]
  rcases Nat.lt_succ_iff_lt_or_eq.mp hpass with hlt | rfl
  · obtain ⟨accepted, largest, hp, h1, h4⟩ := h.features pass hlt
    refine ⟨accepted, largest, hp, ?_, ?_⟩
    · rw [Function.update_of_ne (by omega), Function.update_of_ne (by omega), h1]
    · rw [Function.update_of_ne (by omega), Function.update_of_ne (by omega), h4]
  · refine ⟨r.accepted, r.largest, hexact, ?_, ?_⟩
    · rw [Function.update_of_ne (by omega), Function.update_self]
    · rw [Function.update_self]

theorem secondaryFeatures_passes {ts : Heat} {contact : Contact}
    (harea : (contact.maxCol - contact.minCol + 1) * (contact.maxRow - contact.minRow + 1) < 0x4e3)
    (hpeak : 287 < signalQ12 contact.peakValue) :
    ∀ pass, pass < 3 → PassFeatures ts contact.peakValue pass
      (secondaryFeatures ts contact).2.featuresQ12 := by
  have hinit : (loop 3 (fun pass contact => setFeature (setFeature contact (1 + pass)
      (contact.pixels * oneQ12 : Nat)) (4 + pass) oneQ12) contact).peakValue = contact.peakValue :=
    loop_keeps (fun c : Contact => c.peakValue = contact.peakValue) rfl fun _ _ _ h => h
  unfold secondaryFeatures
  simp only
  rw [if_neg (by rw [hinit]; omega)]
  generalize loop 3 (fun pass contact => setFeature _ (4 + pass) oneQ12) contact = start at hinit
  have hdone : PassesDone ts contact 3 (loop 3 secondaryPass (ts, start)) := by
    refine loop_ind (PassesDone ts contact) ⟨⟨ts.heatWork, ts.heatQueue, rfl⟩, hinit,
      fun pass hp => ?_⟩
      fun n s hn h => secondaryPass_done hn h
    exact absurd hp (Nat.not_lt_zero pass)
  exact hdone.features

/-- A skipped rerun leaves the defaults. -/
theorem secondaryFeatures_skipped (ts : Heat) {contact : Contact}
    (h : signalQ12 contact.peakValue ≤ 287) :
    ∀ pass, pass < 3 → (secondaryFeatures ts contact).2.featuresQ12 (1 + pass) =
      (contact.pixels * oneQ12 : Nat) ∧
      (secondaryFeatures ts contact).2.featuresQ12 (4 + pass) = oneQ12 := by
  have hinit : ∀ n, n ≤ 3 → (loop n (fun pass contact => setFeature (setFeature contact (1 + pass)
      (contact.pixels * oneQ12 : Nat)) (4 + pass) oneQ12) contact).place = contact.place := by
    intro n _
    exact loop_keeps (fun c : Contact => c.place = contact.place) rfl fun _ _ _ h => h
  have hdefaults : ∀ pass, pass < 3 → (loop 3
    (fun pass contact => setFeature (setFeature contact (1 + pass)
      (contact.pixels * oneQ12 : Nat)) (4 + pass) oneQ12) contact).featuresQ12 (1 + pass) =
      (contact.pixels * oneQ12 : Nat) ∧
      (loop 3 (fun pass contact => setFeature (setFeature contact (1 + pass)
      (contact.pixels * oneQ12 : Nat)) (4 + pass) oneQ12) contact).featuresQ12
        (4 + pass) = oneQ12 := by
    simp only [loop_succ, loop_zero]
    intro pass hp
    match pass, hp with
    | 0, _ => simp [setFeature]
    | 1, _ => simp [setFeature]
    | 2, _ => simp [setFeature]
  have hpeak := congrArg Contact.peakValue (hinit 3 (Nat.le_refl 3))
  unfold secondaryFeatures
  simp only
  rw [if_pos (Or.inr ?_)]
  · exact hdefaults
  · show signalQ12 (loop 3 _ contact).place.peakValue ≤ 287
    rw [hpeak]
    exact h

/-! ## The order of the features -/

theorem secondaryArea_flags {ts : Heat} {cutoff : Nat} :
    secondaryArea ts cutoff ⊆ {cell | ts.heatComponent cell = true} := by
  intro cell hc
  have hcell : secondaryCell ts cutoff cell = true := hc.2
  simp only [secondaryCell, Bool.and_eq_true] at hcell
  exact hcell.1

theorem secondaryArea_mono {ts : Heat} {low high : Nat} (h : low ≤ high) :
    secondaryArea ts low ⊆ secondaryArea ts high := by
  intro cell hc
  have hcell : secondaryCell ts low cell = true := hc.2
  refine ⟨hc.1, ?_⟩
  simp only [secondaryCell, Bool.and_eq_true, decide_eq_true_eq] at hcell ⊢
  exact ⟨hcell.1, Nat.le_trans hcell.2 h⟩

/-- An accepted island lies in an accepted island of every higher cutoff. -/
theorem BigIsland.grow {ts : Heat} {low high : Nat}
    (hfin : {cell | ts.heatComponent cell = true}.Finite) (h : low ≤ high)
    {T : Set Nat} (hT : BigIsland ts low T) : ∃ T', BigIsland ts high T' ∧ T.ncard ≤ T'.ncard := by
  obtain ⟨a, ha⟩ := hT.1.1.nonempty
  have harea : a ∈ secondaryArea ts high := secondaryArea_mono h (hT.1.1.subset ha)
  have hsub : T ⊆ island heatAdjacent (secondaryArea ts high) a := by
    rw [hT.1.eq_island heatAdjacent_symm ha]
    exact island_mono (secondaryArea_mono h)
  have hfinite : (island heatAdjacent (secondaryArea ts high) a).Finite :=
    hfin.subset fun cell hc => secondaryArea_flags (island_subset harea hc)
  have hcard := Set.ncard_le_ncard hsub hfinite
  refine ⟨_, ⟨island_isIsland heatAdjacent_symm harea, ?_⟩, hcard⟩
  rcases hT.2 with hmany | hseed
  · exact Or.inl (Nat.lt_of_lt_of_le hmany hcard)
  · obtain ⟨cell, hc, hlt⟩ := hseed
    exact Or.inr ⟨cell, hsub hc, hlt⟩

/-- The island of the peak is accepted. -/
theorem bigIsland_peak {ts : Heat} {pixels peakValue cutoff : Nat}
    (hf : FlagsOf ts pixels peakValue)
    (hs : 287 < signalQ12 peakValue) (hc : peakValue ≤ cutoff) :
      {T | BigIsland ts cutoff T}.Nonempty := by
  obtain ⟨cell, hcell, rfl⟩ := hf.peak
  have harea : cell ∈ secondaryArea ts cutoff :=
    ⟨hf.lt cell hcell, by simp [secondaryCell, hcell, hc]⟩
  refine ⟨island heatAdjacent (secondaryArea ts cutoff) cell,
    island_isIsland heatAdjacent_symm harea, Or.inr ⟨cell, mem_island, ?_⟩⟩
  exact lt_trans (by decide) hs

/-- A pass above the peak accepts an island and none greater than the component. -/
theorem PassExact.bounds {ts : Heat} {pixels peakValue cutoff accepted largest : Nat}
    (hf : FlagsOf ts pixels peakValue)
    (hs : 287 < signalQ12 peakValue) (hc : peakValue ≤ cutoff)
      (h : PassExact ts cutoff accepted largest) :
    1 ≤ accepted ∧ 1 ≤ largest ∧ largest ≤ pixels := by
  have hne := bigIsland_peak hf hs hc
  have hgreatest := h.largest hne
  have hcard : ∀ T, BigIsland ts cutoff T → T.ncard ≤ pixels := by
    intro T hT
    rw [← hf.pixels]
    exact Set.ncard_le_ncard (fun cell hc => secondaryArea_flags (hT.1.1.subset hc)) hf.finite
  obtain ⟨T, hT, hlargest⟩ := hgreatest.1
  refine ⟨?_, ?_, hlargest ▸ hcard T hT⟩
  · rw [← h.accepted]
    exact (Set.ncard_pos h.finite).mpr hne
  · rw [← hlargest]
    exact (Set.ncard_pos (hf.finite.subset fun cell hc =>
      secondaryArea_flags (hT.1.1.subset hc))).mpr hT.1.1.nonempty

/-- A pass accepts no more islands than the component has cells. -/
theorem PassExact.accepted_le {ts : Heat} {pixels peakValue cutoff accepted largest : Nat}
    (hf : FlagsOf ts pixels peakValue) (h : PassExact ts cutoff accepted largest) :
    accepted ≤ pixels := by
  have hfin : (secondaryArea ts cutoff).Finite := hf.finite.subset secondaryArea_flags
  rw [← h.accepted, ← hf.pixels]
  exact Nat.le_trans (ncard_islands_le heatAdjacent_symm hfin fun T hT => hT.1)
    (Set.ncard_le_ncard secondaryArea_flags hf.finite)

/-- A later pass has no greater island. -/
theorem PassExact.largest_le {ts : Heat} {pixels peakValue low high accepted accepted' largest largest' : Nat}
    (hf : FlagsOf ts pixels peakValue) (hs : 287 < signalQ12 peakValue) (hc : peakValue ≤ low)
    (hle : low ≤ high)
    (h : PassExact ts low accepted largest) (h' : PassExact ts high accepted' largest') :
      largest ≤ largest' := by
  obtain ⟨T, hT, rfl⟩ := (h.largest (bigIsland_peak hf hs hc)).1
  obtain ⟨T', hT', hcard⟩ := hT.grow hf.finite hle
  exact Nat.le_trans hcard ((h'.largest ⟨T', hT'⟩).2 ⟨T', hT', rfl⟩)

/-- `pixels >= f1 >= f2 >= f3 >= 1` and no count below one, in Q12. -/
structure SecondaryOrdered (pixels : Nat) (features : Nat → Int) : Prop where
  one : features 1 ≤ (pixels * oneQ12 : Nat)
  two : features 2 ≤ features 1
  three : features 3 ≤ features 2
  least : (oneQ12 : Int) ≤ features 3
  four : (oneQ12 : Int) ≤ features 4
  five : (oneQ12 : Int) ≤ features 5
  six : (oneQ12 : Int) ≤ features 6

theorem passes_ordered {ts : Heat} {pixels peakValue : Nat} {features : Nat → Int}
    (hf : FlagsOf ts pixels peakValue)
    (hs : 287 < signalQ12 peakValue) (h : ∀ pass, pass < 3 →
      PassFeatures ts peakValue pass features) :
    SecondaryOrdered pixels features := by
  have hc := cutoffs_fall hs
  obtain ⟨a0, l0, p0, f1, f4⟩ := h 0 (by decide)
  obtain ⟨a1, l1, p1, f2, f5⟩ := h 1 (by decide)
  obtain ⟨a2, l2, p2, f3, f6⟩ := h 2 (by decide)
  have hpeak1 := Nat.le_trans hc.peak hc.last
  have hpeak0 := Nat.le_trans hpeak1 hc.first
  have b0 := p0.bounds hf hs hpeak0
  have b1 := p1.bounds hf hs hpeak1
  have b2 := p2.bounds hf hs hc.peak
  have h10 := p1.largest_le hf hs hpeak1 hc.first p0
  have h21 := p2.largest_le hf hs hc.peak hc.last p1
  simp only [Nat.add_zero, Nat.reduceAdd] at f1 f2 f3 f4 f5 f6
  have hone : 0 < oneQ12 := by decide
  have hmul : ∀ {a b : Nat}, a ≤ b → ((a * oneQ12 : Nat) : Int) ≤ (b * oneQ12 : Nat) := fun hab =>
    Int.ofNat_le.mpr (Nat.mul_le_mul_right oneQ12 hab)
  have hleast : ∀ {a : Nat}, 1 ≤ a → (oneQ12 : Int) ≤ (a * oneQ12 : Nat) := fun ha =>
    Int.ofNat_le.mpr (Nat.le_mul_of_pos_left oneQ12 ha)
  refine ⟨?_, ?_, ?_, ?_, ?_, ?_, ?_⟩
  · rw [f1]; exact hmul b0.2.2
  · rw [f2, f1]; exact hmul h10
  · rw [f3, f2]; exact hmul h21
  · rw [f3]; exact hleast b2.2.1
  · rw [f4]; exact hleast b0.1
  · rw [f5]; exact hleast b1.1
  · rw [f6]; exact hleast b2.1

/-! ## Every accepted component -/

theorem geometryFeatures_others (ts : Heat) (contact : Contact) {k : Nat} (h : k ≠ 7 ∧ k ≠ 8) :
    (geometryFeatures ts contact).featuresQ12 k = contact.featuresQ12 k := by
  unfold geometryFeatures
  simp only
  split
  · simp [setFeature, Function.update_of_ne h.1, Function.update_of_ne h.2]
  split
  · simp [setFeature, Function.update_of_ne h.1, Function.update_of_ne h.2]
  · simp [setFeature, Function.update_of_ne h.1, Function.update_of_ne h.2]

/-- The passes leave feature 0. -/
theorem secondaryFeatures_zero (ts : Heat) (contact : Contact) :
    (secondaryFeatures ts contact).2.featuresQ12 0 = contact.featuresQ12 0 := by
  have hset : ∀ (c : Contact) (pass : Nat) (v w : Int),
      (setFeature (setFeature c (1 + pass) v) (4 + pass) w).featuresQ12 0 = c.featuresQ12 0 := by
    intro c pass v w
    simp only [setFeature]
    rw [Function.update_of_ne (by omega), Function.update_of_ne (by omega)]
  have hinit : (loop 3 (fun pass contact => setFeature (setFeature contact (1 + pass)
      (contact.pixels * oneQ12 : Nat)) (4 + pass) oneQ12) contact).featuresQ12 0 =
      contact.featuresQ12 0 :=
    loop_keeps (fun c : Contact => c.featuresQ12 0 = contact.featuresQ12 0) rfl fun _ _ _ h =>
      (hset _ _ _ _).trans h
  unfold secondaryFeatures
  simp only
  split
  · exact hinit
  · exact loop_keeps (fun s : Heat × Contact => s.2.featuresQ12 0 = contact.featuresQ12 0) hinit
      fun _ _ _ h => (hset _ _ _ _).trans h

theorem classifyContact_features (prof : Profile) (contact : Contact) :
    (classifyContact prof contact).1.featuresQ12 = contact.featuresQ12 := rfl

/-- The first seven features of the stored contact are those after the passes. -/
theorem shapeContact_secondary (prof : Profile) (ts : Heat) (contact : Contact) {k : Nat}
    (h : k < 7) :
    (shapeContact prof ts contact).2.featuresQ12 k =
      (secondaryFeatures ts (peakedContact prof ts contact)).2.featuresQ12 k := by
  rw [shapeContact_eq]
  show (classifyContact prof (featuredContact prof ts contact)).1.featuresQ12 k = _
  rw [classifyContact_features]
  unfold featuredContact
  simp only [setFeature]
  rw [Function.update_of_ne (by omega), geometryFeatures_others _ _ (by omega)]

/-- Feature 0 is the pixel count. -/
theorem Accepted.shaped_zero {prof : Profile} {ts : Heat} (a : Accepted prof ts) :
    a.shaped.featuresQ12 0 = (a.contact.pixels * oneQ12 : Nat) := by
  unfold shaped
  rw [shapeContact_secondary prof a.heat (locateContact a.contact) (by decide),
    secondaryFeatures_zero]
  unfold peakedContact
  simp only [setFeature, Function.update_self]
  rw [← a.peaked.pixels]
  rfl

namespace Accepted
variable {prof : Profile} {ts : Heat} (a : Accepted prof ts)

/-- A rerun stores what its pass found. -/
theorem rerun (hs : 287 < signalQ12 a.contact.peakValue) (pass : Nat) (hp : pass < 3) :
    PassFeatures a.heat a.contact.peakValue pass a.shaped.featuresQ12 := by
  have hbox := a.peaked
  have harea := a.area
  rw [← hbox.left, ← hbox.right, ← hbox.top, ← hbox.bottom] at harea
  obtain ⟨accepted, largest, hexact, h1, h4⟩ :=
    secondaryFeatures_passes harea (hbox.peak ▸ hs) pass hp
  rw [hbox.peak] at hexact
  refine ⟨accepted, largest, hexact, ?_, ?_⟩
  · exact (shapeContact_secondary prof a.heat (locateContact a.contact) (by omega)).trans h1
  · exact (shapeContact_secondary prof a.heat (locateContact a.contact) (by omega)).trans h4

theorem skipped (hs : signalQ12 a.contact.peakValue ≤ 287) (pass : Nat) (hp : pass < 3) :
    a.shaped.featuresQ12 (1 + pass) = (a.contact.pixels * oneQ12 : Nat) ∧
    a.shaped.featuresQ12 (4 + pass) = oneQ12 := by
  obtain ⟨h1, h4⟩ := secondaryFeatures_skipped a.heat (a.peaked.peak ▸ hs) pass hp
  rw [a.peaked.pixels] at h1
  exact ⟨(shapeContact_secondary prof a.heat (locateContact a.contact) (by omega)).trans h1,
    (shapeContact_secondary prof a.heat (locateContact a.contact) (by omega)).trans h4⟩

theorem secondaryOrdered : SecondaryOrdered a.contact.pixels a.shaped.featuresQ12 := by
  rcases lt_or_ge 287 (signalQ12 a.contact.peakValue) with hs | hs
  · exact passes_ordered a.flagsOf hs (a.rerun hs)
  · have h0 := a.skipped hs 0 (by decide)
    have h1 := a.skipped hs 1 (by decide)
    have h2 := a.skipped hs 2 (by decide)
    simp only [Nat.add_zero, Nat.reduceAdd] at h0 h1 h2
    have hpos : 1 ≤ a.contact.pixels := by
      rw [a.exact.pixels]
      obtain ⟨cell, hc, _⟩ := a.exact.peak.1
      exact List.length_pos_of_mem hc
    have hleast : (oneQ12 : Int) ≤ (a.contact.pixels * oneQ12 : Nat) :=
      Int.ofNat_le.mpr (Nat.le_mul_of_pos_left oneQ12 hpos)
    exact ⟨by omega, by omega, by omega, by omega, by omega, by omega, by omega⟩

end Accepted

/-- What the secondary features of an accepted component say. -/
structure SecondaryExact {prof : Profile} {ts : Heat} (a : Accepted prof ts) : Prop where
  cutoffs : 287 < signalQ12 a.contact.peakValue → CutoffsFall a.contact.peakValue
  rerun : 287 < signalQ12 a.contact.peakValue →
    ∀ pass, pass < 3 → PassFeatures a.heat a.contact.peakValue pass a.shaped.featuresQ12
  skipped : signalQ12 a.contact.peakValue ≤ 287 → ∀ pass, pass < 3 →
    a.shaped.featuresQ12 (1 + pass) = (a.contact.pixels * oneQ12 : Nat) ∧
    a.shaped.featuresQ12 (4 + pass) = oneQ12
  ordered : SecondaryOrdered a.contact.pixels a.shaped.featuresQ12
  queue : ∀ w q cutoff k, k < heatSamples → secondaryCell a.heat cutoff k = true →
    (passBefore { a.heat with heatWork := w, heatQueue := q } cutoff k).heatWork k = false →
    (secondaryFill { a.heat with heatWork := w, heatQueue := q } cutoff k
      (passBefore { a.heat with heatWork := w, heatQueue := q } cutoff k)).1.tail ≤ heatSamples

theorem secondary_exact {prof : Profile} {ts : Heat} (a : Accepted prof ts) : SecondaryExact a where
  cutoffs := cutoffs_fall
  rerun := a.rerun
  skipped := a.skipped
  ordered := a.secondaryOrdered
  queue _ _ cutoff _ hk hok hm := secondaryFill_tail _ cutoff hk hok hm

end Sp11Touch
