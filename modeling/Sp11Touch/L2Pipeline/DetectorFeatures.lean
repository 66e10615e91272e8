import Sp11Touch.L2Pipeline.DetectorContacts
import Sp11Touch.L2Pipeline.DetectorSignals
import Sp11Touch.L2Pipeline.SecondaryIslands
/-!
# The secondary passes of the detector

The detector empties a set of eligible cells, an island at a time, from
whatever element `set.pop` hands out. In every order the islands are those of
the driver's pass (`popIslands_swept`), the seed and the cutoffs are the same
bytes, and so the first seven features are the driver's.
-/
namespace Sp11Touch.Decoder
open Flood Region Bytes

/-! ## Emptying the set -/

section pop
variable {ok mark : Nat → Bool} {eligible : Finset Nat} {start : Nat}

/-- `eligible` holds the cells that are `ok` and in no island yet. -/
structure Left (ok mark : Nat → Bool) (eligible : Finset Nat) : Prop where
  mem : ∀ c, c < heatSamples → decide (c ∈ eligible) = (ok c && !mark c)
  lt : ∀ c ∈ eligible, c < heatSamples

theorem detectorOffsets_four : FourOffsets detectorOffsets := componentOffsets_four

theorem eligiblePool_mem (s : Finset Nat × List Nat) (c : Nat) :
    eligiblePool.mem s c = decide (c ∈ s.1) := rfl

/-- One island: a flood of the cells left, and what is left after it. -/
theorem popIsland_filled (h : Left ok mark eligible) (hs : start ∈ eligible)
    (hc : Closed heatAdjacent ok mark) :
    ∃ f, Filled heatSamples heatAdjacent ok mark start f ∧
      (popIsland eligible start).2 = f.entries f.tail ∧
      Left ok f.mark (popIsland eligible start).1 ∧ (popIsland eligible start).1 ⊂ eligible := by
  have hlt := h.lt start hs
  obtain ⟨hok, hm⟩ : ok start = true ∧ mark start = false := by simpa [hs] using h.mem start hlt
  have hpool : ∀ c, c < heatSamples → eligiblePool.mem (eligible, []) c = (ok c && !mark c) := h.mem
  obtain ⟨f, hfilled, hsearch⟩ := Pool.search_island (heatGrid detectorOffsets_four) hlt
    hok hm hc hpool
  have hlog : (popIsland eligible start).2 = _ ++ _ :=
    Pool.search_log Prod.snd (fun _ _ => rfl) heatSamples rfl
  have hsub : ∀ c, c ∈ (popIsland eligible start).1 → c ∈ eligible ∧ c ≠ start := by
    intro c hc
    have hmem : eligiblePool.mem (eligiblePool.del (eligible, []) start) c = true :=
      Pool.search_subset heatSamples ((eligiblePool_mem (popIsland eligible start) c).trans
        (decide_eq_true hc))
    rw [eligiblePool.mem_del, eligiblePool_mem] at hmem
    simpa using hmem
  refine ⟨f, hfilled, ?_, ⟨fun c hc => ?_, fun c hc => h.lt c (hsub c hc).1⟩, ?_⟩
  · rw [hlog, hsearch.empty, List.append_nil, hsearch.found]
  · exact hsearch.mem c hc
  · rw [Finset.ssubset_iff_of_subset fun c hc => (hsub c hc).1]
    exact ⟨start, hs, fun hin => (hsub start hin).2 rfl⟩

/-- Nothing left: every cell is in an island. -/
theorem Left.done {islands : List (List Nat)} (h : Left ok mark ∅)
    (hs : Swept heatSamples heatAdjacent ok 0 mark islands) :
    Swept heatSamples heatAdjacent ok heatSamples mark islands :=
  ⟨hs.island, hs.nodup, hs.disjoint, hs.marked, fun c hc hok => by simpa [hok] using h.mem c hc⟩

/-- In any order, the loop finds every island of the cells left once. -/
theorem popIslands_swept (order : PopOrder) (turns : Nat) (hturns : eligible.card ≤ turns)
    {islands : List (List Nat)}
    (h : Left ok mark eligible) (hs : Swept heatSamples heatAdjacent ok 0 mark islands) :
    ∃ mark', Swept heatSamples heatAdjacent ok heatSamples mark'
      (islands ++ popIslands order turns eligible) := by
  induction turns generalizing eligible mark islands with
  | zero =>
    have hempty : eligible = ∅ := Finset.card_eq_zero.mp (Nat.le_zero.mp hturns)
    subst hempty
    exact ⟨mark, by simpa [popIslands] using h.done hs⟩
  | succ turns ih =>
    unfold popIslands
    by_cases hne : eligible.Nonempty
    · rw [dif_pos hne]
      have hstart := (order.pop turns eligible hne).2
      generalize (order.pop turns eligible hne).1 = start at hstart ⊢
      have hclosed := hs.closed heatAdjacent_symm heatAdjacent_lt
      obtain ⟨f, hfilled, hfound, hleft, hsub⟩ := popIsland_filled h hstart hclosed
      have hlt := h.lt start hstart
      have hok : ok start = true := by
        have hmem := h.mem start hlt
        simp [hstart] at hmem
        exact hmem.1
      have hcard := Finset.card_lt_card hsub
      obtain ⟨mark', hswept⟩ := ih (by omega) hleft (hs.add heatAdjacent_symm hlt hok hfilled)
      rw [hfound]
      exact ⟨mark', by simpa using hswept⟩
    · rw [dif_neg hne, List.append_nil]
      have hempty := Finset.not_nonempty_iff_eq_empty.mp hne
      subst hempty
      exact ⟨mark, h.done hs⟩

end pop

/-! ## One rerun -/

theorem greatest_spec (l : List Nat) : (∀ x ∈ l, x ≤ greatest l) ∧
    (greatest l = 0 ∨ greatest l ∈ l) := by
  unfold greatest
  cases hm : l.max? with
  | none =>
    rw [List.max?_eq_none_iff] at hm
    simp [hm]
  | some m =>
    obtain ⟨hmem, hle⟩ := List.max?_eq_some_iff.mp hm
    exact ⟨fun x hx => hle x hx, Or.inr hmem⟩

section rerun
variable {prof : Profile} {ts : Heat} (a : Accepted prof ts)

/-- The cells of a component at most `cutoff`. -/
def eligibleCells (cutoff : Nat) : Finset Nat := a.cells.toFinset.filter fun index =>
    u8 (grid ts.buf) index ≤ cutoff

theorem eligibleCells_left (cutoff : Nat) :
    Left (Sp11Touch.secondaryCell a.heat cutoff) (fun _ => false) (eligibleCells a cutoff) := by
  refine ⟨fun c hc => ?_, fun c hc => ?_⟩
  · unfold eligibleCells secondaryCell
    have hflag : (a.heat.heatComponent c = true) = (c ∈ a.cells) := propext a.flags
    rw [a.value]
    cases hcomp : a.heat.heatComponent c with
    | false =>
      rw [hcomp] at hflag
      simp [← hflag]
    | true =>
      rw [hcomp] at hflag
      simp [← hflag, value_grid ts hc]
  · simp only [eligibleCells, Finset.mem_filter, List.mem_toFinset] at hc
    exact a.cell_lt hc.1

/-- An island is kept on both sides or on neither. -/
theorem keptIsland_agrees {q : List Nat} (hne : q ≠ []) (hlt : ∀ cell ∈ q, cell < heatSamples) :
    keptIsland (grid ts.buf) q = bigQueue a.heat q := by
  have hvalues : q.map (u8 (grid ts.buf)) = q.map ts.value :=
    List.map_congr_left fun cell hc => value_grid ts (hlt cell hc)
  obtain ⟨m, hm⟩ : ∃ m, IsLeast {v | ∃ cell ∈ q, ts.value cell = v} m :=
    ⟨_, secondary_peak ts hne⟩
  have hbyte : m ≤ 255 := by
    obtain ⟨cell, _, rfl⟩ := hm.1
    exact value_le ts cell
  unfold keptIsland bigQueue
  rw [hvalues, least_eq hm, a.value]
  congr 1
  rw [Bool.eq_iff_iff]
  simp only [decide_eq_true_eq, List.any_eq_true, gt_iff_lt, seed_agrees hbyte]
  exact seed_iff hm

/-- A rerun of the detector counts what a pass of the driver counts. -/
theorem secondaryRerun_exact (order : PopOrder) {fraction : ℚ} {cutoff : Nat}
    (hcutoff : secondaryCutoff a.contact.peakValue fraction = cutoff) :
    PassExact a.heat cutoff (secondaryRerun (grid ts.buf)
      (describe (grid ts.buf) a.cells) order fraction).1
      (secondaryRerun (grid ts.buf) (describe (grid ts.buf) a.cells) order fraction).2 := by
  obtain ⟨mark, hswept⟩ := popIslands_swept order (eligibleCells a cutoff).card (Nat.le_refl _)
    (eligibleCells_left a cutoff) Flood.Swept.zero
  rw [List.nil_append] at hswept
  have heligible : ((describe (grid ts.buf) a.cells).pixelIndices.toFinset.filter fun index =>
      u8 (grid ts.buf) index ≤ secondaryCutoff (describe (grid ts.buf) a.cells).peakValue
        fraction) = eligibleCells a cutoff := by
    rw [(accepted_described a).peak, hcutoff]
    rfl
  have hkept : (popIslands order (eligibleCells a cutoff).card (eligibleCells a cutoff)).filter
    (keptIsland (grid ts.buf)) =
      (popIslands order (eligibleCells a cutoff).card (eligibleCells a cutoff)).filter
      (bigQueue a.heat) := by
    refine List.filter_congr fun q hq => ?_
    have hisland := hswept.island q hq
    obtain ⟨cell, hcell⟩ := hisland.1.nonempty
    exact keptIsland_agrees a (List.ne_nil_of_mem hcell) fun cell hc => (hisland.1.subset hc).1
  unfold secondaryRerun
  simp only
  rw [heligible, hkept]
  generalize popIslands order (eligibleCells a cutoff).card (eligibleCells a cutoff) =
    islands at hswept
  obtain ⟨hupper, hattained⟩ := greatest_spec ((islands.filter (bigQueue a.heat)).map List.length)
  have hpass : PassSwept a.heat cutoff heatSamples ⟨(islands.filter (bigQueue a.heat)).length,
      greatest ((islands.filter (bigQueue a.heat)).map List.length), mark, fun _ => 0⟩ islands := by
    refine ⟨hswept, rfl, fun q hq => hupper _ (List.mem_map_of_mem hq), ?_⟩
    rcases hattained with hzero | hsome
    · exact Or.inl hzero
    · exact Or.inr (List.mem_map.mp hsome)
  exact hpass.exact

/-- The two numbers of a pass are determined once an island is accepted. -/
theorem passExact_unique {heat : Heat} {cutoff accepted accepted' largest largest' : Nat}
    (hne : {T | BigIsland heat cutoff T}.Nonempty) (h : PassExact heat cutoff accepted largest)
    (h' : PassExact heat cutoff accepted' largest') : accepted = accepted' ∧ largest = largest' :=
  ⟨h.accepted.symm.trans h'.accepted, (h.largest hne).unique (h'.largest hne)⟩

/-- The pairs of the three passes are features 4 to 6 and 1 to 3. -/
theorem secondary_agrees (order : Nat → PopOrder) : ∃ r : Nat → Nat × Nat,
    secondaryDetectorFeatures (grid ts.buf) (describe (grid ts.buf) a.cells) order =
    (List.range 3).map r ∧
      ∀ pass, pass < 3 → a.shaped.featuresQ12 (4 + pass) = ((r pass).1 * oneQ12 : Nat) ∧
        a.shaped.featuresQ12 (1 + pass) = ((r pass).2 * oneQ12 : Nat) := by
  have hd := accepted_described a
  have hbyte : a.contact.peakValue ≤ 255 := by
    obtain ⟨cell, _, hcell⟩ := a.flagsOf.peak
    exact hcell ▸ value_le a.heat cell
  have hskip := skip_agrees hbyte
  have harea : ¬ (a.contact.maxCol - a.contact.minCol + 1) *
    (a.contact.maxRow - a.contact.minRow + 1) ≥ 0x4e3 :=
    Nat.not_le.mpr a.area
  unfold secondaryDetectorFeatures
  simp only [hd.left, hd.right, hd.top, hd.bottom, hd.peak, hd.pixels, harea, false_or,
    ← not_lt, hskip]
  by_cases hs : 287 < signalQ12 a.contact.peakValue
  · rw [if_neg (not_not.mpr hs)]
    refine ⟨fun pass => secondaryRerun (grid ts.buf) (describe (grid ts.buf) a.cells) (order pass)
      (windowsSecondaryFractions.getD pass 0), rfl, fun pass hp => ?_⟩
    obtain ⟨accepted, largest, hpass, h1, h4⟩ := a.rerun hs pass hp
    have hfall := cutoffs_fall hs
    have hpeak : a.contact.peakValue ≤ Sp11Touch.secondaryCutoff a.contact.peakValue pass := by
      have hp0 := hfall.first
      have hp1 := hfall.last
      have hp2 := hfall.peak
      obtain rfl | rfl | rfl : pass = 0 ∨ pass = 1 ∨ pass = 2 := by omega
      · omega
      · omega
      · exact hp2
    have hrerun := secondaryRerun_exact a (order pass) (cutoff_agrees (peak_of_signal hs) hp)
    obtain ⟨haccepted, hlargest⟩ := passExact_unique
      (bigIsland_peak a.flagsOf hs hpeak) hpass hrerun
    rw [h1, h4, haccepted, hlargest]
    exact ⟨rfl, rfl⟩
  · rw [if_pos hs]
    refine ⟨fun _ => (1, a.contact.pixels), rfl, fun pass hp => ?_⟩
    obtain ⟨h1, h4⟩ := a.skipped (not_lt.mp hs) pass hp
    exact ⟨by rw [h4, Nat.one_mul], h1⟩

/-- In every order of `set.pop`, the first seven features of the detector are the driver's. -/
theorem features_agree (order : Nat → PopOrder) :
    (List.range 7).map a.shaped.featuresQ12 =
      (windowsClassifierFeatures (grid ts.buf) (describe (grid ts.buf) a.cells) order).map
        fun n => ((n * oneQ12 : Nat) : Int) := by
  obtain ⟨r, hr, hfeatures⟩ := secondary_agrees a order
  obtain ⟨h4, h1⟩ := hfeatures 0 (by decide)
  obtain ⟨h5, h2⟩ := hfeatures 1 (by decide)
  obtain ⟨h6, h3⟩ := hfeatures 2 (by decide)
  have h0 := a.shaped_zero
  have hpixels := (accepted_described a).pixels
  unfold windowsClassifierFeatures
  simp only [hr, List.range, List.range.loop, List.map_cons, List.map_nil, List.cons_append,
    List.nil_append, hpixels]
  simp only [Nat.add_zero, Nat.reduceAdd] at h1 h2 h3 h4 h5 h6
  rw [h0, h1, h2, h3, h4, h5, h6]

end rerun

end Sp11Touch.Decoder
