import Sp11Touch.Core.Handout
import Sp11Touch.Core.Pairing
import Sp11Touch.L2Pipeline.TrackerOracle
/-!
# The reference matching is a best pairing

`solve` is a recursion over the rows of the cost table with the set of used
columns. Its pairs, read as a pairing of columns with places, are the best
pairing the table allows (`solve_best`): a row more either stays free or takes
a column and leaves the best of the rest.
-/
namespace Sp11Touch.Oracle
open CInt

section
variable {S : Type} (places : List S) (row : S → List (Option Int))

/-- The place that takes the column `i`. -/
def readPairs (pairs : List (Nat × Nat)) (i : Nat) : Option S :=
  (pairs.find? fun p => p.2 == i).bind fun p => places[p.1]?

/-- The table has a cost for the pair. -/
def Allowed (s : S) (i : Nat) : Prop := ∃ cost, (row s).getD i none = some cost

/-- The cost of an allowed pair. -/
def rowCost (s : S) (i : Nat) : Int := ((row s).getD i none).getD 0

theorem readPairs_cons (t i : Nat) (pairs : List (Nat × Nat)) :
    readPairs places ((t, i) :: pairs) = Function.update (readPairs places pairs) i places[t]? := by
  funext j
  unfold readPairs
  by_cases hj : j = i
  · subst hj
    simp
  · have hij : (i == j) = false := by simpa using Ne.symm hj
    simp only [List.find?_cons, hij, Function.update_of_ne hj]

end

section
variable {S : Type} {places : List S} {row : S → List (Option Int)} {m : Nat}

/-- Every pair listed is the one read for its column, and no column is listed twice. -/
structure Listed (places : List S) (pairs : List (Nat × Nat)) : Prop where
  read : ∀ p ∈ pairs, ∃ s, places[p.1]? = some s ∧ readPairs places pairs p.2 = some s
  nodup : (pairs.map Prod.snd).Nodup

theorem Listed.nil : Listed places [] := ⟨fun _ h => absurd h List.not_mem_nil, List.nodup_nil⟩

theorem Listed.cons {pairs : List (Nat × Nat)} {t i : Nat} {s : S} (h : Listed places pairs)
    (hs : places[t]? = some s) (hi : readPairs places pairs i = none) :
    Listed places ((t, i) :: pairs) := by
  have hne : ∀ p ∈ pairs, p.2 ≠ i := by
    intro p hp he
    obtain ⟨s', _, hr⟩ := h.read p hp
    rw [he, hi] at hr
    cases hr
  refine ⟨fun p hp => ?_, ?_⟩
  · rw [readPairs_cons]
    rcases List.mem_cons.mp hp with rfl | hp
    · exact ⟨s, hs, by rw [Function.update_self, hs]⟩
    · rw [Function.update_of_ne (hne p hp)]
      exact h.read p hp
  · rw [List.map_cons, List.nodup_cons]
    refine ⟨fun hm => ?_, h.nodup⟩
    obtain ⟨p, hp, he⟩ := List.mem_map.mp hm
    exact hne p hp he

/-- What is read is listed. -/
theorem readPairs_mem {pairs : List (Nat × Nat)} {i : Nat} {s : S}
    (h : readPairs places pairs i = some s) :
    ∃ t, (t, i) ∈ pairs ∧ places[t]? = some s := by
  unfold readPairs at h
  obtain ⟨p, hp, hs⟩ := Option.bind_eq_some_iff.mp h
  have hi := List.find?_some hp
  have hmem := List.mem_of_find?_eq_some hp
  simp only [beq_iff_eq] at hi
  exact ⟨p.1, hi ▸ hmem, hs⟩

/-- The solution describes a best pairing of the places of the list. -/
structure Solves (places : List S) (row : S → List (Option Int)) (m : Nat) (suffix : List S)
    (used : Nat → Bool) (sol : Solution) : Prop where
  best : Pairs.Best (Pairs.On suffix used (Allowed row)) (rowCost row) m
    (readPairs places sol.pairs)
  matched : sol.matched = Pairs.size m (readPairs places sol.pairs)
  total : sol.total = Pairs.total (rowCost row) m (readPairs places sol.pairs)
  listed : Listed places sol.pairs

/-- The solution so far is no worse than leaving the place free and than the columns below `k`. -/
structure Visited (places : List S) (row : S → List (Option Int)) (m : Nat) (s : S)
    (suffix : List S)
    (used : Nat → Bool) (k : Nat) (sol : Solution) : Prop where
  valid : Pairs.Valid (Pairs.On (s :: suffix) used (Allowed row)) m (readPairs places sol.pairs)
  matched : sol.matched = Pairs.size m (readPairs places sol.pairs)
  total : sol.total = Pairs.total (rowCost row) m (readPairs places sol.pairs)
  listed : Listed places sol.pairs
  skip : ∃ q, Pairs.Best (Pairs.On suffix used (Allowed row)) (rowCost row) m q ∧
    Pairs.NoWorse (sol.matched, sol.total) (Pairs.value (rowCost row) m q)
  add : ∀ i, i < k → used i = false → Allowed row s i →
    ∃ q, Pairs.Best (Pairs.On suffix (Function.update used i true) (Allowed row))
    (rowCost row) m q ∧
      Pairs.NoWorse (sol.matched, sol.total)
        ((Pairs.value (rowCost row) m q).1 + 1, (Pairs.value (rowCost row) m q).2 + rowCost row s i)

theorem Visited.next {s : S} {suffix : List S} {used : Nat → Bool} {k : Nat} {sol : Solution}
    (h : Visited places row m s suffix used k sol) (hno : used k = false → ¬ Allowed row s k) :
    Visited places row m s suffix used (k + 1) sol := by
  refine ⟨h.valid, h.matched, h.total, h.listed, h.skip, fun i hi hu ha => ?_⟩
  by_cases hik : i = k
  · subst hik
    exact absurd ha (hno hu)
  · exact h.add i (by omega) hu ha

/-- Before the first column the place stays free. -/
theorem Visited.start {s : S} {suffix : List S} {used : Nat → Bool} {sol : Solution}
    (h : Solves places row m suffix used sol) : Visited places row m s suffix used 0 sol := by
  refine ⟨h.best.valid.wider, h.matched, h.total, h.listed, ⟨_, h.best, ?_⟩,
    fun i hi => absurd hi (Nat.not_lt_zero i)⟩
  rw [h.matched, h.total]
  exact Pairs.NoWorse.refl _

/-- A free column with a cost, and a best pairing of the places behind it. -/
theorem Visited.consider {s : S} {suffix : List S} {used : Nat → Bool} {t i : Nat} {cost : Int}
    {best sub : Solution}
    (h : Visited places row m s suffix used i best) (hs : places[t]? = some s) (hfresh : s ∉ suffix)
      (him : i < m)
    (hu : used i = false) (hc : (row s).getD i none = some cost)
    (hsub : Solves places row m suffix (Function.update used i true) sub) :
    Visited places row m s suffix used (i + 1)
      (if sub.matched + 1 > best.matched ∨ sub.matched + 1 = best.matched ∧
      sub.total + cost < best.total then
        ⟨sub.matched + 1, sub.total + cost, (t, i) :: sub.pairs⟩
      else best) := by
  have hcost : rowCost row s i = cost := by unfold rowCost; rw [hc]; rfl
  have hnone := hsub.best.valid.used_none (i := i) (Function.update_self ..)
  have hread : readPairs places ((t, i) :: sub.pairs) =
    Function.update (readPairs places sub.pairs) i (some s) := by
    rw [readPairs_cons, hs]
  have hval : Pairs.value (rowCost row) m (readPairs places sub.pairs) =
    (sub.matched, sub.total) := by
    rw [hsub.matched, hsub.total]; rfl
  -- whatever is no worse than the candidate and than the solution so far
  have hadd : ∀ v : Nat × Int, Pairs.NoWorse v (sub.matched + 1, sub.total + cost) →
      Pairs.NoWorse v (best.matched, best.total) → ∀ j, j < i + 1 → used j = false →
      Allowed row s j →
      ∃ q, Pairs.Best (Pairs.On suffix (Function.update used j true) (Allowed row))
        (rowCost row) m q ∧
        Pairs.NoWorse v ((Pairs.value (rowCost row) m q).1 + 1,
          (Pairs.value (rowCost row) m q).2 + rowCost row s j) := by
    intro v hcandidate hbest j hj huj ha
    by_cases hji : j = i
    · subst hji
      refine ⟨_, hsub.best, ?_⟩
      rw [hval, hcost]
      exact hcandidate
    · obtain ⟨q, hq, hno⟩ := h.add j (by omega) huj ha
      exact ⟨q, hq, hbest.trans hno⟩
  by_cases hbetter : sub.matched + 1 > best.matched ∨ sub.matched + 1 = best.matched ∧
    sub.total + cost < best.total
  · rw [if_pos hbetter]
    have hnew : Pairs.NoWorse (sub.matched + 1, sub.total + cost) (best.matched, best.total) := by
      unfold Pairs.NoWorse; simp only; omega
    refine ⟨?_, ?_, ?_, hsub.listed.cons hs hnone, ?_, hadd _ (Pairs.NoWorse.refl _) hnew⟩
    · simp only [hread]
      exact hsub.best.valid.add hfresh him hu ⟨cost, hc⟩
    · simp only [hread]
      rw [Pairs.size_update him s hnone, hsub.matched]
    · simp only [hread]
      rw [Pairs.total_update him s hnone, hsub.total, hcost]
    · obtain ⟨q, hq, hno⟩ := h.skip
      exact ⟨q, hq, hnew.trans hno⟩
  · rw [if_neg hbetter]
    have hkeep : Pairs.NoWorse (best.matched, best.total) (sub.matched + 1, sub.total + cost) := by
      unfold Pairs.NoWorse; simp only; omega
    exact ⟨h.valid, h.matched, h.total, h.listed, h.skip, hadd _ hkeep (Pairs.NoWorse.refl _)⟩

/-- After the last column. -/
theorem Visited.solves {s : S} {suffix : List S} {used : Nat → Bool} {sol : Solution}
    (h : Visited places row m s suffix used m sol) :
    Solves places row m (s :: suffix) used sol := by
  refine ⟨Pairs.best_cons h.valid ?_ fun i hi hu ha => ?_, h.matched, h.total, h.listed⟩
  · unfold Pairs.value
    rw [← h.matched, ← h.total]
    exact h.skip
  · have hadd := h.add i hi hu ha
    rw [h.matched, h.total] at hadd
    exact hadd

/-- By induction on the places that are left; the loop visits the columns of the first. -/
theorem solve_best (hlen : ∀ s, (row s).length = m) (hnodup : places.Nodup) :
    ∀ (suffix : List S) (t : Nat) (used : Nat → Bool), places.drop t = suffix →
      Solves places row m suffix used (solve (suffix.map row) t used) := by
  intro suffix
  induction suffix with
  | nil =>
    intro t used _
    have hnone : readPairs places (solve ([].map row) t used).pairs = fun _ => none := rfl
    refine ⟨hnone ▸ Pairs.best_nil, ?_, ?_, Listed.nil⟩
    · rw [hnone]; simp [Pairs.size, solve]
    · rw [hnone]; simp [Pairs.total, solve]
  | cons s suffix ih =>
    intro t used hdrop
    have hs : places[t]? = some s := by
      rw [← List.head?_drop, hdrop, List.head?_cons]
    have hrest : places.drop (t + 1) = suffix := by
      rw [← List.tail_drop, hdrop, List.tail_cons]
    have hfresh : s ∉ suffix := by
      have hn := hnodup.sublist (List.drop_sublist t places)
      rw [hdrop] at hn
      exact (List.nodup_cons.mp hn).1
    have hsub := fun used' => ih (t + 1) used' hrest
    rw [List.map_cons, solve]
    apply Visited.solves
    have hm := hlen s
    rw [← hm]
    refine loop_ind (Visited places row (row s).length s suffix used)
      (Visited.start (hm ▸ hsub used)) fun i best hi h => ?_
    cases hc : (row s).getD i none with
    | none =>
      refine h.next fun _ ha => ?_
      obtain ⟨cost, hcost⟩ := ha
      rw [hc] at hcost
      cases hcost
    | some cost =>
      cases hu : used i with
      | true => exact h.next fun hf => by rw [hu] at hf; cases hf
      | false => exact h.consider hs hfresh hi hu hc (hm ▸ hsub (Function.update used i true))

end

/-! ## The pairing of a frame -/

/-- The row of the slot's track in `costs`. -/
def slotRow (tracks : Tracks) (samples : List Measurement) (slot : Slot) : List (Option Int) :=
  ((tracks slot).map (costRow samples)).getD (samples.map fun _ => none)

/-- The table has a cost for the slot and the sample. -/
def Gate (tracks : Tracks) (samples : List Measurement) : Slot → Nat →
    Prop := Allowed (slotRow tracks samples)

def slotCost (tracks : Tracks) (samples : List Measurement) : Slot → Nat → Int :=
  rowCost (slotRow tracks samples)

/-- The slot the reference tracker matches to each sample. -/
def pairing (tracks : Tracks) (samples : List Measurement) : Nat → Option Slot :=
  readPairs (activeSlots tracks) (framePairs tracks samples)

section
variable {tracks : Tracks} {samples : List Measurement}

theorem slotRow_length (slot : Slot) : (slotRow tracks samples slot).length = samples.length := by
  unfold slotRow
  cases tracks slot with
  | none => simp
  | some track => simp [costRow]

theorem mem_activeSlots {slot : Slot} : slot ∈ activeSlots tracks ↔
    (tracks slot).isSome = true := by
  simp [activeSlots]

theorem activeSlots_nodup : (activeSlots tracks).Nodup := (List.nodup_finRange 10).filter _

theorem Gate.isSome {slot : Slot} {i : Nat} (h : Gate tracks samples slot i) :
    (tracks slot).isSome = true := by
  unfold Gate Allowed slotRow at h
  obtain ⟨cost, hc⟩ := h
  cases ht : tracks slot with
  | none =>
    rw [ht] at hc
    simp only [Option.map_none, Option.getD_none, List.getD_eq_getElem?_getD, List.getElem?_map]
      at hc
    cases hs : samples[i]? <;> simp [hs] at hc
  | some track => rfl

theorem on_activeSlots : Pairs.On (activeSlots tracks) (fun _ => false) (Gate tracks samples) =
    Gate tracks samples := by
  funext slot i
  exact propext ⟨fun h => h.ok, fun h => ⟨mem_activeSlots.mpr h.isSome, rfl, h⟩⟩

/-- The table has one row for each slot in use. -/
theorem rows_eq : ((activeSlots tracks).filterMap tracks).map (costRow samples) =
    (activeSlots tracks).map (slotRow tracks samples) := by
  have hall : ∀ l : List Slot, (∀ slot ∈ l, (tracks slot).isSome = true) →
      (l.filterMap tracks).map (costRow samples) = l.map (slotRow tracks samples) := by
    intro l
    induction l with
    | nil => exact fun _ => rfl
    | cons slot l ih =>
      intro h
      obtain ⟨track, ht⟩ := Option.isSome_iff_exists.mp (h slot List.mem_cons_self)
      rw [List.filterMap_cons_some ht, List.map_cons, List.map_cons,
        ih fun s hs => h s (List.mem_cons_of_mem _ hs)]
      unfold slotRow
      rw [ht]
      rfl
  exact hall _ fun slot hs => mem_activeSlots.mp hs

/-- Without columns nothing is matched. -/
theorem solve_no_columns : ∀ (rows : List (List (Option Int))) (t : Nat) (used : Nat → Bool),
    (∀ row ∈ rows, row = []) → solve rows t used = ⟨0, 0, []⟩
  | [], _, _, _ => rfl
  | row :: rows, t, used, h => by
    have hrow := h row List.mem_cons_self
    rw [hrow, solve, List.length_nil, loop_zero]
    exact solve_no_columns rows _ _ fun r hr => h r (List.mem_cons_of_mem _ hr)

theorem framePairs_eq : framePairs tracks samples =
    (solve ((activeSlots tracks).map (slotRow tracks samples)) 0 fun _ => false).pairs := by
  unfold framePairs minimumCostMatches
  rw [rows_eq]
  by_cases hs : samples = []
  · subst hs
    rw [solve_no_columns _ _ _ fun row hr => ?_]
    · simp
    · obtain ⟨slot, _, he⟩ := List.mem_map.mp hr
      exact List.eq_nil_of_length_eq_zero (he ▸ slotRow_length slot)
  · by_cases ht : (activeSlots tracks).filterMap tracks = []
    · have hrows : _ = (activeSlots tracks).map (slotRow tracks samples) := rows_eq
      rw [ht, List.map_nil] at hrows
      rw [← hrows, ht]
      rfl
    · simp [hs, ht]

theorem pairing_solves : Solves (activeSlots tracks) (slotRow tracks samples) samples.length
    (activeSlots tracks) (fun _ => false)
    (solve ((activeSlots tracks).map (slotRow tracks samples)) 0 fun _ => false) :=
  solve_best slotRow_length activeSlots_nodup _ 0 _ rfl

theorem pairing_best :
    Pairs.Best (Gate tracks samples) (slotCost tracks samples) samples.length
    (pairing tracks samples) := by
  have hsolve : Solves _ (slotRow tracks samples) samples.length _ _ _ := pairing_solves
  have h := hsolve.best
  unfold pairing
  rw [framePairs_eq]
  rw [← Gate.eq_def, on_activeSlots] at h
  exact h

theorem pairing_listed : Listed (activeSlots tracks) (framePairs tracks samples) := by
  rw [framePairs_eq]
  exact pairing_solves.listed

/-! ## The loops over pairs and slots -/

/-- A listed pair is the one read for its sample. -/
theorem pair_read {p : Nat × Nat} (hp : p ∈ framePairs tracks samples) :
    ∃ slot, (activeSlots tracks)[p.1]? = some slot ∧ pairing tracks samples p.2 = some slot :=
  pairing_listed.read p hp

theorem slot_read {p : Nat × Nat} {slot : Slot} (hp : p ∈ framePairs tracks samples)
    (hs : (activeSlots tracks)[p.1]? = some slot) : pairing tracks samples p.2 = some slot := by
  obtain ⟨s, hs', hr⟩ := pair_read hp
  rw [hs] at hs'
  rw [hr, hs']

theorem any_sample (i : Nat) : ((framePairs tracks samples).any fun p => p.2 == i) =
    (pairing tracks samples i).isSome := by
  rw [Bool.eq_iff_iff, List.any_eq_true, Option.isSome_iff_exists]
  refine ⟨fun h => ?_, fun h => ?_⟩
  · obtain ⟨p, hp, he⟩ := h
    obtain ⟨slot, _, hr⟩ := pair_read hp
    rw [beq_iff_eq] at he
    exact ⟨slot, he ▸ hr⟩
  · obtain ⟨slot, hr⟩ := h
    obtain ⟨t, hp, _⟩ := readPairs_mem hr
    exact ⟨(t, i), hp, by simp⟩

theorem any_slot (slot : Slot) :
    ((framePairs tracks samples).any fun p => (activeSlots tracks)[p.1]? == some slot) = true ↔
      ∃ i, pairing tracks samples i = some slot := by
  rw [List.any_eq_true]
  refine ⟨fun h => ?_, fun h => ?_⟩
  · obtain ⟨p, hp, he⟩ := h
    rw [beq_iff_eq] at he
    exact ⟨p.2, slot_read hp he⟩
  · obtain ⟨i, hr⟩ := h
    obtain ⟨t, hp, hs⟩ := readPairs_mem hr
    exact ⟨(t, i), hp, by simp [hs]⟩

end

/-- Pairs of other slots leave a slot alone. -/
theorem foldl_other {slots : List Slot} {samples : List Measurement} {slot : Slot} :
    ∀ (pairs : List (Nat × Nat)) (tracks : Tracks), (∀ p ∈ pairs, slots[p.1]? ≠ some slot) →
      pairs.foldl (updatePair slots samples) tracks slot = tracks slot
  | [], _, _ => rfl
  | p :: pairs, tracks, h => by
    rw [List.foldl_cons, foldl_other pairs _ fun r hr => h r (List.mem_cons_of_mem p hr)]
    have hp := h p List.mem_cons_self
    unfold updatePair
    cases hs : slots[p.1]? with
    | none => rfl
    | some s =>
      cases samples[p.2]? with
      | none => rfl
      | some _ => exact Function.update_of_ne (fun he => hp (by rw [hs, he])) _ _

/-- The one pair of a slot updates its track. -/
theorem foldl_once {slots : List Slot} {samples : List Measurement} {slot : Slot}
    {sample : Measurement} {t i : Nat}
    (hs : slots[t]? = some slot) (hi : samples[i]? = some sample) :
    ∀ (pairs : List (Nat × Nat)) (tracks : Tracks), (pairs.map Prod.snd).Nodup → (t, i) ∈ pairs →
      (∀ p ∈ pairs, slots[p.1]? = some slot → p.2 = i) →
      pairs.foldl (updatePair slots samples) tracks slot =
        (tracks slot).map fun track => observe track sample
  | [], _, _, hm, _ => absurd hm List.not_mem_nil
  | p :: pairs, tracks, hn, hm, hsame => by
    rw [List.map_cons, List.nodup_cons] at hn
    rw [List.foldl_cons]
    have hfresh : p.2 = i → ∀ r ∈ pairs, slots[r.1]? ≠ some slot := fun he r hr hrs =>
      hn.1 (List.mem_map.mpr ⟨r, hr, (hsame r (List.mem_cons_of_mem p hr) hrs).trans he.symm⟩)
    rcases List.mem_cons.mp hm with rfl | hmem
    · rw [foldl_other pairs _ (hfresh rfl)]
      unfold updatePair
      simp only [hs, hi, Function.update_self]
    · -- the pair comes later: this one belongs to another slot
      have hne : slots[p.1]? ≠ some slot := fun he =>
        hn.1 (List.mem_map.mpr ⟨(t, i), hmem, (hsame p List.mem_cons_self he).symm⟩)
      rw [foldl_once hs hi pairs _ hn.2 hmem fun r hr => hsame r (List.mem_cons_of_mem p hr)]
      have hkeep : updatePair slots samples tracks p slot = tracks slot :=
        foldl_other [p] tracks fun r hr => by rw [List.mem_singleton.mp hr]; exact hne
      rw [hkeep]

/-- The tracks after the loops over pairs and slots. -/
def agedTracks (tracks : Tracks) (samples : List Measurement) : Tracks :=
  missSlots (fun slot => (framePairs tracks samples).any fun p =>
    (activeSlots tracks)[p.1]? == some slot)
    ((framePairs tracks samples).foldl (updatePair (activeSlots tracks) samples) tracks)

section
variable {tracks : Tracks} {samples : List Measurement}

theorem agedTracks_matched {i : Nat} {slot : Slot} {sample : Measurement}
    (hr : pairing tracks samples i = some slot) (hi : samples[i]? = some sample) :
    agedTracks tracks samples slot = (tracks slot).map fun track => observe track sample := by
  obtain ⟨t, hp, hs⟩ := readPairs_mem hr
  unfold agedTracks missSlots
  rw [if_pos ((any_slot slot).mpr ⟨i, hr⟩)]
  exact foldl_once hs hi _ _ pairing_listed.nodup hp fun p hp hps =>
    pairing_best.valid.inj p.2 i slot (slot_read hp hps) hr

theorem agedTracks_rest {slot : Slot} (hno : ∀ i, pairing tracks samples i ≠ some slot) :
    agedTracks tracks samples slot = (tracks slot).bind coast := by
  unfold agedTracks missSlots
  rw [if_neg fun h => by
    obtain ⟨i, hi⟩ := (any_slot slot).mp h
    exact hno i hi]
  rw [foldl_other _ _ fun p hp hps => hno p.2 (slot_read hp hps)]

theorem update_eq (hlen : samples.length ≤ maxContacts) : update tracks samples =
    let created := loop samples.length (createTrack samples fun i =>
      (pairing tracks samples i).isSome)
      (agedTracks tracks samples, freeSlots (agedTracks tracks samples))
    (created.1, report created.1) := by
  unfold update
  simp only [List.take_of_length_le hlen, any_sample]
  rfl

/-- Filling the first free slot pops it. -/
theorem freeSlots_update {slot : Slot} {free : List Slot} (h : freeSlots tracks = slot :: free)
    (track : Track) :
    freeSlots (Function.update tracks slot (some track)) = free :=
  Handout.filter_update (p := Option.isNone) (List.nodup_finRange 10) h rfl

end
end Sp11Touch.Oracle
