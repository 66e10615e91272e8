import Mathlib.Data.Fintype.EquivFin
import Mathlib.Data.List.Perm.Basic
import Mathlib.Data.List.Nodup
import Mathlib.Logic.Equiv.Basic
/-!
# Places handed out, in order and on lease

The waiting indices below `m` are served in order, each with the next place
of a list: `Given places waits m i s` says that index `i` gets `s`. Which
places are given depends on the number of waiting indices alone, so after a
reordering of the indices the same places are given, and who got one before
gets one of them now (`exists_perm`).

A lease is for a place with slots. Whoever asks names a key and a slot: all
leases of one key are at one place, and a place serves one key at a time.
`Lease.Fits ls p k` says that `p` is a place for the next lease under `k`;
leases may end at any time, which leaves a place that fits one that fits
(`Lease.Fits.sublist`).
-/
namespace Sp11Touch

namespace Handout

variable {S : Type} {places : List S} {waits : Nat → Bool} {m i j : Nat} {s t : S}

/-- Taking the first free place leaves the others. -/
theorem filter_update {β : Type} [DecidableEq S] {p : β → Bool} {state : S → β} {v : β}
    {rest : List S}
    (hl : places.Nodup) (h : places.filter (fun t => p (state t)) = s :: rest) (hv : p v = false) :
    places.filter (fun t => p (Function.update state s v t)) = rest := by
  have hn : (s :: rest).Nodup := h ▸ hl.filter _
  have hsplit : places.filter (fun t => p (Function.update state s v t)) =
      (places.filter fun t => p (state t)).filter fun t => t ≠ s := by
    rw [List.filter_filter]
    refine List.filter_congr fun t _ => ?_
    by_cases ht : t = s
    · simp [ht, hv]
    · simp [ht]
  rw [hsplit, h, List.filter_cons_of_neg (by simp)]
  refine List.filter_eq_self.mpr fun t ht => ?_
  have hne : t ≠ s := fun he => (List.nodup_cons.mp hn).1 (he ▸ ht)
  simpa using hne

/-- How many wait before `k`. -/
def rank (waits : Nat → Bool) (k : Nat) : Nat := (List.range k).countP waits

theorem rank_succ (k : Nat) : rank waits (k + 1) = rank waits k + if waits k then 1 else 0 := by
  unfold rank
  rw [List.range_succ, List.countP_append, List.countP_singleton]

theorem rank_mono {k n : Nat} (h : k ≤ n) : rank waits k ≤ rank waits n := by
  induction h with
  | refl => exact Nat.le_refl _
  | step _ ih =>
    rw [Nat.succ_eq_add_one, rank_succ]
    omega

theorem rank_lt {k n : Nat} (h : k < n) (hk : waits k = true) : rank waits k < rank waits n := by
  have hle : rank waits (k + 1) ≤ rank waits n := rank_mono h
  rw [rank_succ, if_pos hk] at hle
  omega

/-- Every number below the count is a rank. -/
theorem exists_rank {n : Nat} : ∀ {k : Nat}, n < rank waits k → ∃ i, i < k ∧ waits i = true ∧
    rank waits i = n
  | 0, h => absurd h (Nat.not_lt_zero n)
  | k + 1, h => by
    rw [rank_succ] at h
    by_cases hlt : n < rank waits k
    · obtain ⟨i, hi, hw, hr⟩ := exists_rank hlt
      exact ⟨i, Nat.lt_succ_of_lt hi, hw, hr⟩
    · by_cases hk : waits k = true
      · rw [if_pos hk] at h
        exact ⟨k, Nat.lt_succ_self k, hk, by omega⟩
      · rw [if_neg hk] at h
        omega

/-- The count does not depend on the order. -/
theorem rank_reorder {σ : Equiv.Perm Nat} (hσ : ∀ i, σ i < m ↔ i < m) :
    rank (fun i => waits (σ i)) m = rank waits m := by
  have hperm : ((List.range m).map σ).Perm (List.range m) := by
    refine (List.perm_ext_iff_of_nodup (List.nodup_range.map σ.injective) List.nodup_range).mpr
      fun i => ?_
    simp only [List.mem_map, List.mem_range]
    refine ⟨fun h => ?_, fun h => ⟨σ.symm i, ?_, σ.apply_symm_apply i⟩⟩
    · obtain ⟨j, hj, rfl⟩ := h
      exact (hσ j).mpr hj
    · rw [← hσ, σ.apply_symm_apply]
      exact h
  unfold rank
  rw [← hperm.countP_eq waits, List.countP_map]
  rfl

/-- Index `i` gets the place of its rank. -/
structure Given (places : List S) (waits : Nat → Bool) (m i : Nat) (s : S) : Prop where
  lt : i < m
  waiting : waits i = true
  place : places[rank waits i]? = some s

theorem Given.unique (h : Given places waits m i s) (h' : Given places waits m i t) : s = t :=
  Option.some.inj (h.place.symm.trans h'.place)

theorem Given.index (hn : places.Nodup) (h : Given places waits m i s)
    (h' : Given places waits m j s) : i = j := by
  have hrank : rank waits i = rank waits j :=
    (List.getElem?_inj (List.getElem?_eq_some_iff.mp h.place).1 hn).mp (h.place.trans h'.place.symm)
  rcases Nat.lt_trichotomy i j with hlt | heq | hlt
  · exact absurd hrank (Nat.ne_of_lt (rank_lt hlt h.waiting))
  · exact heq
  · exact absurd hrank (Nat.ne_of_gt (rank_lt hlt h'.waiting))

theorem exists_given (henough : rank waits m ≤ places.length) (hi : i < m) (hw : waits i = true) :
    ∃ s, Given places waits m i s := by
  have hlt : rank waits i < places.length := Nat.lt_of_lt_of_le (rank_lt hi hw) henough
  exact ⟨places[rank waits i], hi, hw, List.getElem?_eq_getElem hlt⟩

/-- The places given are the first ones of the list. -/
theorem given_iff : (∃ i, Given places waits m i s) ↔ ∃ n, n < rank waits m ∧
    places[n]? = some s := by
  refine ⟨fun h => ?_, fun h => ?_⟩
  · obtain ⟨i, h⟩ := h
    exact ⟨rank waits i, rank_lt h.lt h.waiting, h.place⟩
  · obtain ⟨n, hn, hs⟩ := h
    obtain ⟨i, hi, hw, rfl⟩ := exists_rank hn
    exact ⟨i, hi, hw, hs⟩

section
variable {σ : Equiv.Perm Nat}

/-- The same places are given after a reordering. -/
theorem given_reorder (hσ : ∀ i, σ i < m ↔ i < m) :
    (∃ i, Given places (fun i => waits (σ i)) m i s) ↔ ∃ i, Given places waits m i s := by
  rw [given_iff, given_iff, rank_reorder hσ]

/-- The places change hands by a permutation that fixes the others. -/
theorem exists_perm [Finite S] (hn : places.Nodup) (henough : rank waits m ≤ places.length)
    (hσ : ∀ i, σ i < m ↔ i < m) : ∃ π : Equiv.Perm S,
    (∀ s, (¬ ∃ i, Given places waits m i s) → π s = s) ∧
      ∀ i s, Given places waits m (σ i) s → Given places (fun i => waits (σ i)) m i (π s) := by
  classical
  have hnext : ∀ s, ∃ t, ((¬ ∃ i, Given places waits m i s) → t = s) ∧
      ∀ i, Given places waits m (σ i) s → Given places (fun i => waits (σ i)) m i t := by
    intro s
    by_cases h : ∃ i, Given places waits m i s
    · obtain ⟨k, hk⟩ := h
      have henough' : rank (fun i => waits (σ i)) m ≤ places.length := by
        rw [rank_reorder hσ]; exact henough
      have hlt : σ.symm k < m := by rw [← hσ, σ.apply_symm_apply]; exact hk.lt
      obtain ⟨t, ht⟩ := exists_given henough' hlt (by rw [σ.apply_symm_apply]; exact hk.waiting)
      refine ⟨t, fun hno => absurd ⟨k, hk⟩ hno, fun i hi => ?_⟩
      have hik : i = σ.symm k := by rw [← hi.index hn hk, σ.symm_apply_apply]
      rw [hik]
      exact ht
    · exact ⟨s, fun _ => rfl, fun i hi => absurd ⟨σ i, hi⟩ h⟩
  choose f hrest hgiven using hnext
  have hinj : Function.Injective f := by
    intro s t hst
    by_cases hs : ∃ i, Given places waits m i s
    · obtain ⟨k, hk⟩ := hs
      have hk' := hgiven s (σ.symm k) (by rw [σ.apply_symm_apply]; exact hk)
      by_cases ht : ∃ i, Given places waits m i t
      · obtain ⟨l, hl⟩ := ht
        have hl' := hgiven t (σ.symm l) (by rw [σ.apply_symm_apply]; exact hl)
        rw [← hst] at hl'
        have hkl : k = l := σ.symm.injective (hk'.index hn hl')
        subst hkl
        exact hk.unique hl
      · rw [hst, hrest t ht] at hk'
        exact absurd ((given_reorder hσ).mp ⟨_, hk'⟩) ht
    · by_cases ht : ∃ i, Given places waits m i t
      · obtain ⟨l, hl⟩ := ht
        have hl' := hgiven t (σ.symm l) (by rw [σ.apply_symm_apply]; exact hl)
        rw [← hst, hrest s hs] at hl'
        exact absurd ((given_reorder hσ).mp ⟨_, hl'⟩) hs
      · rw [← hrest s hs, ← hrest t ht, hst]
  exact ⟨Equiv.ofBijective f (Finite.injective_iff_bijective.mp hinj), hrest, fun i s => hgiven s i⟩

end
end Handout

/-! ## Leases -/

structure Lease (P C K : Type) where
  place : P
  slot : C
  key : K
deriving DecidableEq, Repr

namespace Lease
variable {P C K : Type} {ls ls' : List (Lease P C K)} {p : P} {k : K}

structure Exclusive (ls : List (Lease P C K)) : Prop where
  keyed : ∀ a ∈ ls, ∀ b ∈ ls, a.place = b.place ↔ a.key = b.key
  slots : (ls.map fun a => (a.place, a.slot)).Nodup

def Fits (ls : List (Lease P C K)) (p : P) (k : K) : Prop := ∀ a ∈ ls, a.place = p ↔ a.key = k

theorem Exclusive.nil : Exclusive ([] : List (Lease P C K)) := ⟨by simp, by simp⟩

theorem Exclusive.sublist (h : Exclusive ls) (hs : ls'.Sublist ls) : Exclusive ls' where
  keyed a ha b hb := h.keyed a (hs.subset ha) b (hs.subset hb)
  slots := h.slots.sublist (hs.map _)

theorem Fits.sublist (h : Fits ls p k) (hs : ls'.Sublist ls) : Fits ls' p k :=
  fun a ha => h a (hs.subset ha)

/-- Where a key has a lease, its place fits. -/
theorem Exclusive.fits (h : Exclusive ls) {a : Lease P C K} (ha : a ∈ ls) : Fits ls a.place a.key :=
  fun b hb => h.keyed b hb a ha

/-- A place without leases fits a key without leases. -/
theorem fits_of_unused (hp : ∀ a ∈ ls, a.place ≠ p) (hk : ∀ a ∈ ls, a.key ≠ k) : Fits ls p k :=
  fun a ha => iff_of_false (hp a ha) (hk a ha)

theorem Exclusive.cons {a : Lease P C K} (h : Exclusive ls) (hf : Fits ls a.place a.key)
    (hs : ∀ b ∈ ls, b.place = a.place → b.slot ≠ a.slot) : Exclusive (a :: ls) where
  keyed b hb c hc := by
    rcases List.mem_cons.mp hb with hba | hb'
    · rcases List.mem_cons.mp hc with hca | hc'
      · simp [hba, hca]
      · rw [hba, eq_comm, hf c hc', eq_comm]
    · rcases List.mem_cons.mp hc with hca | hc'
      · rw [hca]; exact hf b hb'
      · exact h.keyed b hb' c hc'
  slots := by
    refine List.nodup_cons.mpr ⟨fun hm => ?_, h.slots⟩
    obtain ⟨b, hb, he⟩ := List.mem_map.mp hm
    exact hs b hb (Prod.mk.inj he).1 (Prod.mk.inj he).2

/-- The lease of a slot. -/
theorem Exclusive.eq_of_slot (h : Exclusive ls) {a b : Lease P C K} (ha : a ∈ ls) (hb : b ∈ ls)
    (hp : a.place = b.place) (hs : a.slot = b.slot) : a = b :=
  List.inj_on_of_nodup_map h.slots ha hb (Prod.ext hp hs)

/-- What ends is no longer among the leases. -/
theorem Exclusive.mem_erase [DecidableEq P] [DecidableEq C] [DecidableEq K] (h : Exclusive ls)
    {a b : Lease P C K} : b ∈ ls.erase a ↔ b ∈ ls ∧ b ≠ a := by
  rw [h.slots.of_map.mem_erase_iff, and_comm]

end Lease

end Sp11Touch
