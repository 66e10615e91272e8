import Sp11Touch.Core.Flood
import Sp11Touch.Core.Region
import Mathlib.Data.Set.Card
/-!
# A sweep of floods finds the islands

A flood from an unmarked cell queues the island of that cell, if the marks are
closed under steps to `ok` cells (`Spread.island`). A sweep floods from each
cell that is `ok` and unmarked, and keeps the marks. `Swept` says what it has
after some cells: the queues are islands, disjoint, and cover the `ok` cells
passed (`Swept.skip`, `Swept.flood`).
-/
namespace Sp11Touch.Flood
open Region

variable {n : Nat} {f : Flood} {ok : Nat → Bool} {nbrs : Nat → List Nat} {adj : Nat → Nat → Prop}

/-- `nbrs` lists the cells adjacent to a cell of the grid. -/
structure Grid (n : Nat) (nbrs : Nat → List Nat) (adj : Nat → Nat → Prop) : Prop where
  lt : ∀ a, ∀ b ∈ nbrs a, b < n
  mem : ∀ a, a < n → ∀ b, b ∈ nbrs a ↔ adj a b
  symm : ∀ a b, adj a b → adj b a

/-- The cells of the grid that are `ok`. -/
def OkCells (n : Nat) (ok : Nat → Bool) : Set Nat := {c | c < n ∧ ok c = true}

theorem push_entries (f : Flood) (cell : Nat) :
    (f.push cell).entries (f.push cell).tail = f.entries f.tail ++ [cell] := by
  show (f.push cell).entries (f.tail + 1) = _
  rw [entries_succ, push_queue_tail, entries_congr fun i hi => push_queue_lt cell hi]

/-! ## One flood -/

/-- The queue holds new cells that `start` reaches; the steps of the first `head` are marked. -/
structure Spread (n : Nat) (adj : Nat → Nat → Prop) (nbrs : Nat → List Nat) (ok marked : Nat → Bool)
    (start head : Nat) (f : Flood) : Prop where
  first : start ∈ f.entries f.tail
  mark : ∀ c, f.mark c = true ↔ marked c = true ∨ c ∈ f.entries f.tail
  fresh : ∀ c ∈ f.entries f.tail, marked c = false
  reach : ∀ c ∈ f.entries f.tail, Reach adj (OkCells n ok) start c
  closed : ∀ k, k < head → ∀ x ∈ nbrs (f.queue k), ok x = true → f.mark x = true
  head_le : head ≤ f.tail

variable {marked : Nat → Bool} {start head : Nat}

theorem Spread.enter {cell : Nat} (h : Spread n adj nbrs ok marked start head f)
    (hr : ok cell = true → Reach adj (OkCells n ok) start cell) :
    Spread n adj nbrs ok marked start head (enter ok f cell) ∧
      (∀ c, f.mark c = true → (Flood.enter ok f cell).mark c = true) ∧
      (ok cell = true → (Flood.enter ok f cell).mark cell = true) := by
  unfold Flood.enter
  split
  · next hskip =>
    refine ⟨h, fun _ hc => hc, fun hok => ?_⟩
    simpa [hok] using hskip
  · next hnew =>
    simp only [Bool.or_eq_true, Bool.not_eq_true', not_or, Bool.not_eq_true, Bool.not_eq_false]
      at hnew
    have hmark : ∀ c, (f.push cell).mark c = true ↔ f.mark c = true ∨ c = cell := by
      intro c
      by_cases he : c = cell
      · simp [he, push]
      · simp [push, he]
    have hnotMarked : marked cell = false := by
      cases hm : marked cell with
      | false => rfl
      | true => exact absurd ((h.mark cell).mpr (Or.inl hm)) (by simp [hnew.1])
    refine ⟨⟨?_, fun c => ?_, fun c hc => ?_, fun c hc => ?_, fun k hk x hx hok => ?_,
      Nat.le_succ_of_le h.head_le⟩,
      fun c hc => (hmark c).mpr (Or.inl hc), fun _ => (hmark cell).mpr (Or.inr rfl)⟩
    · rw [push_entries]
      exact List.mem_append_left _ h.first
    · rw [hmark, h.mark, push_entries]
      simp [or_assoc]
    · rw [push_entries] at hc
      rcases List.mem_append.mp hc with hc | hc
      · exact h.fresh c hc
      · exact List.mem_singleton.mp hc ▸ hnotMarked
    · rw [push_entries] at hc
      rcases List.mem_append.mp hc with hc | hc
      · exact h.reach c hc
      · exact List.mem_singleton.mp hc ▸ hr hnew.2
    · rw [push_queue_lt cell (Nat.lt_of_lt_of_le hk h.head_le)] at hx
      exact (hmark x).mpr (Or.inl (h.closed k hk x hx hok))

theorem Spread.foldl_enter {cells : List Nat} (h : Spread n adj nbrs ok marked start head f)
    (hr : ∀ x ∈ cells, ok x = true → Reach adj (OkCells n ok) start x) :
    Spread n adj nbrs ok marked start head (cells.foldl (Flood.enter ok) f) ∧
      (∀ c, f.mark c = true → (cells.foldl (Flood.enter ok) f).mark c = true) ∧
      (∀ x ∈ cells, ok x = true → (cells.foldl (Flood.enter ok) f).mark x = true) := by
  induction cells generalizing f with
  | nil => exact ⟨h, fun _ hc => hc, fun _ hx => absurd hx List.not_mem_nil⟩
  | cons cell cells ih =>
    obtain ⟨h1, hgrow, hcell⟩ := h.enter (hr cell List.mem_cons_self)
    obtain ⟨h2, hgrow', hcells⟩ := ih h1 fun x hx => hr x (List.mem_cons_of_mem _ hx)
    refine ⟨h2, fun c hc => hgrow' c (hgrow c hc), fun x hx hok => ?_⟩
    rcases List.mem_cons.mp hx with rfl | hx
    · exact hgrow' x (hcell hok)
    · exact hcells x hx hok

theorem foldl_enter_queue_lt {k : Nat} (cells : List Nat) (h : k < f.tail) :
    (cells.foldl (enter ok) f).queue k = f.queue k := by
  induction cells generalizing f with
  | nil => rfl
  | cons cell cells ih =>
    exact (ih (Nat.lt_of_lt_of_le h (tail_le_enter cell))).trans (enter_queue_lt cell h)

theorem Spread.next (hg : Grid n nbrs adj) (hlt : ∀ k, k < f.tail → f.queue k < n)
    (h : Spread n adj nbrs ok marked start head f) (hhead : head < f.tail) :
    Spread n adj nbrs ok marked start (head + 1)
      ((nbrs (f.queue head)).foldl (Flood.enter ok) f) := by
  have hq : Reach adj (OkCells n ok) start (f.queue head) :=
    h.reach _ (mem_entries.mpr ⟨head, hhead, rfl⟩)
  have hstep : ∀ x ∈ nbrs (f.queue head), ok x = true → Reach adj (OkCells n ok) start x := by
    intro x hx hok
    exact Relation.ReflTransGen.tail hq ⟨(hg.mem _ (hlt head hhead) x).mp hx, hg.lt _ x hx, hok⟩
  obtain ⟨h1, hgrow, hcells⟩ := h.foldl_enter hstep
  refine ⟨h1.first, h1.mark, h1.fresh, h1.reach, fun k hk x hx hok => ?_,
    Nat.le_trans hhead (tail_le_foldl_enter _)⟩
  rw [foldl_enter_queue_lt _ (by omega)] at hx
  rcases Nat.lt_succ_iff_lt_or_eq.mp hk with hk | rfl
  · exact hgrow x (h.closed k hk x hx hok)
  · exact hcells x hx hok

section drain
variable {σ : Type} {visit : Nat → σ → σ}

theorem drain_spread (hg : Grid n nbrs adj) : ∀ {fuel head : Nat} {f : Flood} {a : σ}, Good n f →
    Spread n adj nbrs ok marked start head f →
    Spread n adj nbrs ok marked start (drain nbrs ok visit fuel head f a).1
      (drain nbrs ok visit fuel head f a).2.1 := by
  intro fuel
  induction fuel with
  | zero =>
    intro head f a _ h
    unfold drain
    exact h
  | succ fuel ih =>
    intro head f a hgood h
    unfold drain
    split
    · next hlt => exact ih (hgood.foldl_enter ok (hg.lt (f.queue head))).1 (h.next hg hgood.lt hlt)
    · exact h

theorem first_entries (marked : Nat → Bool) (queue : Nat → Nat) (start : Nat) :
    (push ⟨marked, queue, 0⟩ start).entries (push ⟨marked, queue, 0⟩ start).tail = [start] :=
  push_entries ⟨marked, queue, 0⟩ start

theorem first_spread {queue : Nat → Nat} (hm : marked start = false) :
    Spread n adj nbrs ok marked start 0 (push ⟨marked, queue, 0⟩ start) := by
  refine ⟨?_, fun c => ?_, fun c hc => ?_, fun c hc => ?_,
    fun k hk => absurd hk (Nat.not_lt_zero k), Nat.zero_le _⟩
  · rw [first_entries]
    exact List.mem_singleton.mpr rfl
  · rw [first_entries]
    by_cases he : c = start
    · simp [he, push]
    · simp [push, he]
  · rw [first_entries, List.mem_singleton] at hc
    exact hc ▸ hm
  · rw [first_entries, List.mem_singleton] at hc
    rw [hc]
    exact Reach.refl start

/-- The flood at its end: what it queued, and the marks it leaves. -/
structure Filled (n : Nat) (adj : Nat → Nat → Prop) (ok marked : Nat → Bool) (start : Nat)
    (f : Flood) : Prop where
  good : Good n f
  cells : {c | c ∈ f.entries f.tail} = island adj (OkCells n ok) start
  mark : ∀ c, f.mark c = true ↔ marked c = true ∨ c ∈ f.entries f.tail
  fresh : ∀ c ∈ f.entries f.tail, marked c = false

/-- Marks that no step to an `ok` cell leaves. -/
def Closed (adj : Nat → Nat → Prop) (ok marked : Nat → Bool) : Prop :=
  ∀ a, marked a = true → ∀ b, adj a b → ok b = true → marked b = true

theorem drain_filled (hg : Grid n nbrs adj) (hs : start < n) (hok : ok start = true)
    (hm : marked start = false)
    (hc : Closed adj ok marked) (queue : Nat → Nat) (a : σ) :
    (drain nbrs ok visit n 0 (push ⟨marked, queue, 0⟩ start) a).1 =
        (drain nbrs ok visit n 0 (push ⟨marked, queue, 0⟩ start) a).2.1.tail ∧
      Filled n adj ok marked start (drain nbrs ok visit n 0
        (push ⟨marked, queue, 0⟩ start) a).2.1 := by
  have hgood : Good n (push ⟨marked, queue, 0⟩ start) := first_good hs hm
  have hspread : Spread n adj nbrs ok marked start
    (drain nbrs ok visit n 0 (push ⟨marked, queue, 0⟩ start) a).1
      (drain nbrs ok visit n 0 (push ⟨marked, queue, 0⟩ start) a).2.1 :=
      drain_spread hg hgood (first_spread hm)
  have hexits : (drain nbrs ok visit n 0 (push ⟨marked, queue, 0⟩ start) a).1 =
      (drain nbrs ok visit n 0 (push ⟨marked, queue, 0⟩ start) a).2.1.tail ∧ _ :=
    drain_exits hg.lt hgood (Nat.zero_le _) (Nat.le_refl n)
  generalize drain nbrs ok visit n 0 (push ⟨marked, queue, 0⟩ start) a = r at hspread hexits
  obtain ⟨hexit, hfilled⟩ := hexits
  refine ⟨hexit, hfilled, ?_, hspread.mark, hspread.fresh⟩
  refine island_of_closed hspread.first hspread.reach fun b hb c hbc hcok => ?_
  have hbok : b ∈ OkCells n ok := Reach.mem ⟨hs, hok⟩ (hspread.reach b hb)
  obtain ⟨k, hk, rfl⟩ := mem_entries.mp hb
  have hmark := hspread.closed k (hexit ▸ hk) c ((hg.mem _ hbok.1 c).mpr hbc) hcok.2
  rcases (hspread.mark c).mp hmark with hold | hnew
  · have := hc c hold _ (hg.symm _ _ hbc) hbok.2
    rw [hspread.fresh _ hb] at this
    cases this
  · exact hnew

end drain

/-! ## The sweep -/

/-- After the starts below `k`: the queues of the floods so far, in order. -/
structure Swept (n : Nat) (adj : Nat → Nat → Prop) (ok : Nat → Bool) (k : Nat) (mark : Nat → Bool)
    (islands : List (List Nat)) : Prop where
  island : ∀ q ∈ islands, IsIsland adj (OkCells n ok) {c | c ∈ q}
  nodup : ∀ q ∈ islands, q.Nodup
  disjoint : islands.Pairwise List.Disjoint
  marked : ∀ c, mark c = true ↔ ∃ q ∈ islands, c ∈ q
  covered : ∀ c, c < k → ok c = true → mark c = true

variable {k : Nat} {mark : Nat → Bool} {islands : List (List Nat)}

theorem Swept.zero : Swept n adj ok 0 (fun _ => false) [] := by
  refine ⟨?_, ?_, List.Pairwise.nil, ?_, ?_⟩ <;> simp

theorem Swept.skip (h : Swept n adj ok k mark islands) (hk : (mark k || !ok k) = true) :
    Swept n adj ok (k + 1) mark islands := by
  refine ⟨h.island, h.nodup, h.disjoint, h.marked, fun c hc hok => ?_⟩
  rcases Nat.lt_succ_iff_lt_or_eq.mp hc with hc | rfl
  · exact h.covered c hc hok
  · simpa [hok] using hk

theorem Swept.closed (hs : ∀ a b, adj a b → adj b a) (hlt : ∀ a, a < n → ∀ b, adj a b → b < n)
    (h : Swept n adj ok k mark islands) : Closed adj ok mark := by
  intro a ha b hab hb
  obtain ⟨q, hq, haq⟩ := (h.marked a).mp ha
  have hisland := h.island q hq
  have haok : a ∈ OkCells n ok := hisland.1.subset haq
  have hbq : b ∈ {c | c ∈ q} := by
    rw [hisland.eq_island hs haq]
    exact Relation.ReflTransGen.single ⟨hab, hlt a haok.1 b hab, hb⟩
  exact (h.marked b).mpr ⟨q, hq, hbq⟩

/-- One more flood, from any cell that is `ok` and unmarked. -/
theorem Swept.add (hs : ∀ a b, adj a b → adj b a) (h : Swept n adj ok k mark islands)
    (hlt : start < n)
    (hok : ok start = true) {f : Flood} (hf : Filled n adj ok mark start f) :
    Swept n adj ok k f.mark (islands ++ [f.entries f.tail]) := by
  refine ⟨fun q hq => ?_, fun q hq => ?_, ?_, fun c => ?_, fun c hc hokc => ?_⟩
  · rcases List.mem_append.mp hq with hq | hq
    · exact h.island q hq
    · rw [List.mem_singleton.mp hq, hf.cells]
      exact island_isIsland hs ⟨hlt, hok⟩
  · rcases List.mem_append.mp hq with hq | hq
    · exact h.nodup q hq
    · rw [List.mem_singleton.mp hq]
      exact hf.good.entries_nodup
  · refine List.pairwise_append.mpr ⟨h.disjoint, List.pairwise_singleton _ _,
      fun q hq q' hq' c hc hc' => ?_⟩
    rw [List.mem_singleton.mp hq'] at hc'
    have := hf.fresh c hc'
    rw [(h.marked c).mpr ⟨q, hq, hc⟩] at this
    cases this
  · rw [hf.mark, h.marked]
    simp [or_and_right, exists_or]
  · exact (hf.mark c).mpr (Or.inl (h.covered c hc hokc))

/-- The flood of the next start covers that start too. -/
theorem Swept.flood (hs : ∀ a b, adj a b → adj b a) (h : Swept n adj ok k mark islands) (hk : k < n)
    (hok : ok k = true) {f : Flood} (hf : Filled n adj ok mark k f) :
    Swept n adj ok (k + 1) f.mark (islands ++ [f.entries f.tail]) := by
  have hadd := h.add hs hk hok hf
  have hself : k ∈ f.entries f.tail := by
    show k ∈ {c | c ∈ f.entries f.tail}
    rw [hf.cells]
    exact mem_island
  refine ⟨hadd.island, hadd.nodup, hadd.disjoint, hadd.marked, fun c hc hokc => ?_⟩
  rcases Nat.lt_succ_iff_lt_or_eq.mp hc with hc | rfl
  · exact hadd.covered c hc hokc
  · exact (hf.mark _).mpr (Or.inr hself)

/-- At the end every `ok` cell is in exactly one queue. -/
theorem Swept.unique (h : Swept n adj ok n mark islands) {c : Nat} (hc : c < n)
    (hok : ok c = true) :
    ∃! i, ∃ hi : i < islands.length, c ∈ islands[i] := by
  obtain ⟨q, hq, hcq⟩ := (h.marked c).mp (h.covered c hc hok)
  obtain ⟨i, hi, rfl⟩ := List.mem_iff_getElem.mp hq
  refine ⟨i, ⟨hi, hcq⟩, fun j hj => ?_⟩
  obtain ⟨hj, hcj⟩ := hj
  rcases Nat.lt_trichotomy j i with hlt | heq | hgt
  · exact absurd hcq (List.pairwise_iff_getElem.mp h.disjoint j i hj hi hlt hcj)
  · exact heq
  · exact absurd hcj (List.pairwise_iff_getElem.mp h.disjoint i j hi hj hgt hcq)

/-- Every island is found. -/
theorem Swept.complete (hs : ∀ a b, adj a b → adj b a) (h : Swept n adj ok n mark islands)
    {T : Set Nat}
    (hT : IsIsland adj (OkCells n ok) T) : ∃ q ∈ islands, {c | c ∈ q} = T := by
  obtain ⟨c, hc⟩ := hT.1.nonempty
  have hok : c ∈ OkCells n ok := hT.1.subset hc
  obtain ⟨q, hq, hcq⟩ := (h.marked c).mp (h.covered c hok.1 hok.2)
  exact ⟨q, hq, (h.island q hq).eq_of_mem hs hT hcq hc⟩

theorem cells_ncard {q : List Nat} (h : q.Nodup) : {c | c ∈ q}.ncard = q.length := by
  have heq : {c | c ∈ q} = (q.toFinset : Set Nat) := by
    ext c
    simp
  rw [heq, Set.ncard_coe_finset, List.toFinset_card_of_nodup h]

section count
variable {p : List Nat → Bool} {P : Set Nat → Prop}

theorem Swept.islands_eq (hs : ∀ a b, adj a b → adj b a) (h : Swept n adj ok n mark islands)
    (hp : ∀ q ∈ islands, p q = true ↔ P {c | c ∈ q}) :
    {T | IsIsland adj (OkCells n ok) T ∧ P T} = {T | ∃ q ∈ islands.filter p, {c | c ∈ q} = T} := by
  ext T
  simp only [Set.mem_ofPred_eq, List.mem_filter]
  apply Iff.intro
  · intro hT
    obtain ⟨q, hq, rfl⟩ := h.complete hs hT.1
    exact ⟨q, ⟨hq, (hp q hq).mpr hT.2⟩, rfl⟩
  · intro hT
    obtain ⟨q, hq, rfl⟩ := hT
    exact ⟨h.island q hq.1, (hp q hq.1).mp hq.2⟩

/-- The queues with a property are as many as the islands that have it. -/
theorem Swept.count (hs : ∀ a b, adj a b → adj b a) (h : Swept n adj ok n mark islands)
    (hp : ∀ q ∈ islands, p q = true ↔ P {c | c ∈ q}) :
    {T | IsIsland adj (OkCells n ok) T ∧ P T}.ncard = (islands.filter p).length := by
  classical
  have hne : (islands.filter p).Pairwise fun q q' => {c | c ∈ q} ≠ {c | c ∈ q'} := by
    refine List.Pairwise.imp_of_mem (fun {q q'} hq _ hd heq => ?_) (h.disjoint.filter p)
    obtain ⟨c, hc⟩ := (h.island q (List.mem_filter.mp hq).1).1.nonempty
    have hc' : c ∈ {c | c ∈ q'} := heq ▸ hc
    exact hd hc hc'
  have hset : {T | ∃ q ∈ islands.filter p, {c | c ∈ q} = T} =
      (((islands.filter p).map fun q => {c | c ∈ q}).toFinset : Set (Set Nat)) := by
    ext T
    simp
  rw [h.islands_eq hs hp, hset, Set.ncard_coe_finset,
    List.toFinset_card_of_nodup (List.pairwise_map.mpr hne),
    List.length_map]

end count
end Sp11Touch.Flood
