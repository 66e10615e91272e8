import Mathlib.Algebra.Order.Group.Multiset
import Mathlib.Algebra.Order.Sub.Basic
import Mathlib.Data.Finset.Card
import Mathlib.Data.Finset.Image
import Mathlib.Data.List.Sort
/-!
# The strongest `k` of a growing set

A store with room for `k` items takes every item while it has room, and after
that replaces one of its weakest by a strictly stronger newcomer. What it holds
is then a choice of the strongest items so far (`Strongest`), whatever the order
of arrival. The items sit at the positions of an array and each one once
(`Kept`), and their keys are the first `k` of all keys in descending order
(`Kept.keys_perm`), so ties change which items are held but never their keys.
-/
namespace Sp11Touch

variable {ι κ : Type} [LinearOrder κ] {key : ι → κ} {k : Nat}

/-- `t` holds `k` items of `s`, or all of them, and none outside is stronger. -/
structure Strongest (key : ι → κ) (k : Nat) (s t : Finset ι) : Prop where
  subset : t ⊆ s
  card : t.card = min k s.card
  le : ∀ x ∈ t, ∀ y ∈ s, y ∉ t → key y ≤ key x

variable {s t : Finset ι} {a w : ι}

theorem Strongest.empty : Strongest key k ∅ ∅ := ⟨Finset.empty_subset ∅, by simp, by simp⟩

/-- A choice with room left has taken everything. -/
theorem Strongest.eq_of_room (h : Strongest key k s t) (hroom : t.card < k) : t = s := by
  have hcard := h.card
  exact Finset.eq_of_subset_of_card_le h.subset (by omega)

variable [DecidableEq ι]

theorem Strongest.push (h : Strongest key k s t) (hroom : t.card < k) (ha : a ∉ s) :
    Strongest key k (insert a s) (insert a t) := by
  obtain rfl := h.eq_of_room hroom
  refine ⟨Finset.Subset.refl _, ?_, fun x _ y hy hout => absurd hy hout⟩
  rw [Finset.card_insert_of_notMem ha]
  omega

/-- A full choice stays full. -/
theorem Strongest.full (h : Strongest key k s t) (hfull : t.card = k) (ha : a ∉ s) :
    k = min k (insert a s).card := by
  have hcard := h.card
  rw [Finset.card_insert_of_notMem ha]
  omega

/-- A newcomer that is not above the weakest is passed over. -/
theorem Strongest.skip (h : Strongest key k s t) (hfull : t.card = k) (ha : a ∉ s)
    (hweak : ∀ x ∈ t, key a ≤ key x) : Strongest key k (insert a s) t := by
  refine ⟨h.subset.trans (Finset.subset_insert a s), hfull.trans (h.full hfull ha),
    fun x hx y hy hout => ?_⟩
  rcases Finset.mem_insert.mp hy with rfl | hy
  · exact hweak x hx
  · exact h.le x hx y hy hout

/-- A newcomer above the weakest takes its place. -/
theorem Strongest.replace (h : Strongest key k s t) (hfull : t.card = k) (ha : a ∉ s) (hw : w ∈ t)
    (hweak : ∀ x ∈ t, key w ≤ key x) (hlt : key w < key a) :
    Strongest key k (insert a s) (insert a (t.erase w)) := by
  have hnew : a ∉ t.erase w := fun hmem => ha (h.subset (Finset.mem_of_mem_erase hmem))
  refine ⟨Finset.insert_subset_insert a ((Finset.erase_subset w t).trans h.subset), ?_,
    fun x hx y hy hout => ?_⟩
  · rw [Finset.card_insert_of_notMem hnew, Finset.card_erase_add_one hw, hfull]
    exact h.full hfull ha
  · have hya : y ≠ a := by rintro rfl; exact hout (Finset.mem_insert_self y _)
    have hys : y ∈ s := Finset.mem_of_mem_insert_of_ne hy hya
    -- what is left out is the weakest of the old choice, or was left out before
    have hyw : key y ≤ key w := by
      by_cases hyt : y ∈ t
      · have heq : y = w := by
          by_contra hne
          exact hout (Finset.mem_insert_of_mem (Finset.mem_erase.mpr ⟨hne, hyt⟩))
        rw [heq]
      · exact h.le w hw y hys hyt
    rcases Finset.mem_insert.mp hx with rfl | hx
    · exact hyw.trans hlt.le
    · exact hyw.trans (hweak x (Finset.mem_of_mem_erase hx))

/-- The keys of a choice, in descending order, are the first `k` of all keys. -/
theorem Strongest.take_sorted (h : Strongest key k s t) {all held : List κ}
    (hall : (all : Multiset κ) = s.val.map key)
    (hheld : (held : Multiset κ) = t.val.map key) : held.Perm ((all.mergeSort (· ≥ ·)).take k) := by
  obtain ⟨rest, hrest⟩ : ∃ rest : List κ, (rest : Multiset κ) = (s \ t).val.map key :=
    Quot.exists_rep _
  have hmem : ∀ x, x ∈ held ↔ ∃ i ∈ t, key i = x := fun x => by
    rw [← Multiset.mem_coe, hheld, Multiset.mem_map]
    rfl
  have hmemRest : ∀ x, x ∈ rest ↔ ∃ i ∈ s \ t, key i = x := fun x => by
    rw [← Multiset.mem_coe, hrest, Multiset.mem_map]
    rfl
  -- the held keys before the others, each part in descending order, is the descending order of all
  have hsorted : all.mergeSort (· ≥ ·) = held.mergeSort (· ≥ ·) ++ rest.mergeSort (· ≥ ·) := by
    refine List.Perm.eq_of_pairwise' (r := (· ≥ ·)) (List.pairwise_mergeSort' _ _) ?_ ?_
    · refine List.pairwise_append.mpr ⟨List.pairwise_mergeSort' _ _, List.pairwise_mergeSort' _ _,
        fun x hx y hy => ?_⟩
      obtain ⟨i, hi, rfl⟩ := (hmem x).mp (List.mem_mergeSort.mp hx)
      obtain ⟨j, hj, rfl⟩ := (hmemRest y).mp (List.mem_mergeSort.mp hy)
      exact h.le i hi j (Finset.mem_sdiff.mp hj).1 (Finset.mem_sdiff.mp hj).2
    · refine (List.mergeSort_perm all _).trans (List.Perm.trans ?_
        ((List.mergeSort_perm held _).append (List.mergeSort_perm rest _)).symm)
      rw [← Multiset.coe_eq_coe, ← Multiset.coe_add, hall, hheld, hrest, ← Multiset.map_add,
        Finset.sdiff_val,
        add_tsub_cancel_of_le (Finset.val_le_iff.mpr h.subset)]
  have hlen : (held.mergeSort (· ≥ ·)).length = t.card := by
    rw [List.length_mergeSort, ← Multiset.coe_card, hheld, Multiset.card_map]
    rfl
  have htake : (all.mergeSort (· ≥ ·)).take k = held.mergeSort (· ≥ ·) := by
    rw [hsorted]
    by_cases hroom : t.card < k
    · have hnone : rest = [] := by
        rw [← Multiset.coe_eq_zero, hrest, h.eq_of_room hroom, Finset.sdiff_self]
        rfl
      simp [hnone, List.take_of_length_le (hlen.trans_le hroom.le)]
    · have hk : (held.mergeSort (· ≥ ·)).length = k := by have := h.card; omega
      rw [← hk, List.take_left]
  rw [htake]
  exact (List.mergeSort_perm held _).symm

/-! ## The choice in an array -/

/-- The array positions below `size` hold the items of a choice, each one once. -/
structure Kept (key : ι → κ) (k : Nat) (s : Finset ι) (pos : Nat → ι) (size : Nat) : Prop where
  inj : Set.InjOn pos (Finset.range size)
  strongest : Strongest key k s ((Finset.range size).image pos)

variable {pos : Nat → ι} {size i : Nat}

theorem Kept.empty (pos : Nat → ι) : Kept key k ∅ pos 0 := ⟨by simp, by simpa using Strongest.empty⟩

theorem Kept.card_image (h : Kept key k s pos size) :
    ((Finset.range size).image pos).card = size := by
  rw [Finset.card_image_of_injOn h.inj, Finset.card_range]

theorem Kept.size_eq (h : Kept key k s pos size) : size = min k s.card :=
  h.card_image.symm.trans h.strongest.card

theorem Kept.mem (h : Kept key k s pos size) (hi : i < size) : pos i ∈ s :=
  h.strongest.subset (Finset.mem_image_of_mem pos (Finset.mem_range.mpr hi))

/-- Everything at a position below `size` is one of the held items. -/
theorem Kept.forall_image {p : ι → Prop} (h : ∀ i, i < size → p (pos i)) :
    ∀ x ∈ (Finset.range size).image pos, p x := by
  intro x hx
  obtain ⟨i, hi, rfl⟩ := Finset.mem_image.mp hx
  exact h i (Finset.mem_range.mp hi)

theorem Kept.push (h : Kept key k s pos size) (hroom : size < k) (ha : a ∉ s) :
    Kept key k (insert a s) (Function.update pos size a) (size + 1) := by
  have hkeep : ∀ i ∈ Finset.range size, Function.update pos size a i = pos i := fun i hi =>
    Function.update_of_ne (Finset.mem_range.mp hi).ne a pos
  have himage : (Finset.range (size + 1)).image (Function.update pos size a) =
      insert a ((Finset.range size).image pos) := by
    rw [Finset.range_add_one, Finset.image_insert, Function.update_self, Finset.image_congr hkeep]
  have hnew : a ∉ (Finset.range size).image pos := fun hmem => ha (h.strongest.subset hmem)
  refine ⟨Finset.card_image_iff.mp ?_, himage ▸ h.strongest.push (h.card_image.trans_lt hroom) ha⟩
  rw [himage, Finset.card_insert_of_notMem hnew, h.card_image, Finset.card_range]

theorem Kept.skip (h : Kept key k s pos size) (hfull : size = k) (ha : a ∉ s)
    (hweak : ∀ i, i < size → key a ≤ key (pos i)) : Kept key k (insert a s) pos size := by
  exact ⟨h.inj, h.strongest.skip (h.card_image.trans hfull) ha (Kept.forall_image hweak)⟩

/-- The newcomer at the position of a weakest one. -/
theorem Kept.replace (h : Kept key k s pos size) (hfull : size = k) (ha : a ∉ s) (hi : i < size)
    (hweak : ∀ j, j < size → key (pos i) ≤ key (pos j)) (hlt : key (pos i) < key a) :
    Kept key k (insert a s) (Function.update pos i a) size := by
  have hir := Finset.mem_range.mpr hi
  have hother : ∀ j ∈ (Finset.range size).erase i, Function.update pos i a j = pos j := fun j hj =>
    Function.update_of_ne (Finset.ne_of_mem_erase hj) a pos
  have himage : (Finset.range size).image (Function.update pos i a) =
      insert a (((Finset.range size).image pos).erase (pos i)) := by
    rw [← Finset.insert_erase hir, Finset.image_insert, Function.update_self,
      Finset.image_congr hother,
      Finset.insert_erase hir]
    congr 1
    ext x
    simp only [Finset.mem_image, Finset.mem_erase]
    apply Iff.intro
    · intro hx
      obtain ⟨j, hj, rfl⟩ := hx
      exact ⟨fun heq => hj.1 (h.inj hj.2 hir heq), j, hj.2, rfl⟩
    · intro hx
      obtain ⟨hne, j, hj, rfl⟩ := hx
      exact ⟨j, ⟨fun heq => hne (heq ▸ rfl), hj⟩, rfl⟩
  have hstrong := h.strongest.replace (h.card_image.trans hfull) ha
    (Finset.mem_image_of_mem pos hir)
    (Kept.forall_image hweak) hlt
  refine ⟨Finset.card_image_iff.mp ?_, himage ▸ hstrong⟩
  rw [himage, hstrong.card, ← h.strongest.full (h.card_image.trans hfull) ha,
    Finset.card_range, hfull]

/-- The keys at the positions are the first `k` of all keys in descending order. -/
theorem Kept.keys_perm (h : Kept key k s pos size) {all : List κ}
    (hall : (all : Multiset κ) = s.val.map key) :
    ((List.range size).map fun i => key (pos i)).Perm ((all.mergeSort (· ≥ ·)).take k) := by
  refine h.strongest.take_sorted hall ?_
  rw [Finset.image_val_of_injOn h.inj, Multiset.map_map]
  rfl

end Sp11Touch
