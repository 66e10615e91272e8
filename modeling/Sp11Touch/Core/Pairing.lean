import Mathlib.Algebra.Order.BigOperators.Group.Finset
import Mathlib.Algebra.BigOperators.Ring.Finset
import Mathlib.Algebra.Order.Ring.Int
import Mathlib.Tactic.Ring
/-!
# Partial pairings, and the best of them

A pairing gives an index below `m` a place or none, and no place twice. `Best`
pairs as many indices as the gate allows, and among the pairings of that size
has the least total cost. A large reward for every pair makes both one
minimum (`best_of_penal`).
-/
namespace Sp11Touch.Pairs

variable {S T : Type} {ok : S → Nat → Prop} {cost : S → Nat → Int} {m : Nat} {q r : Nat → Option S}

structure Valid (ok : S → Nat → Prop) (m : Nat) (q : Nat → Option S) : Prop where
  lt : ∀ i s, q i = some s → i < m
  ok : ∀ i s, q i = some s → ok s i
  inj : ∀ i j s, q i = some s → q j = some s → i = j

def size (m : Nat) (q : Nat → Option S) : Nat := ∑ i ∈ Finset.range m, if (q i).isSome then 1 else 0

def total (cost : S → Nat → Int) (m : Nat) (q : Nat → Option S) : Int :=
  ∑ i ∈ Finset.range m, (q i).elim 0 fun s => cost s i

structure Best (ok : S → Nat → Prop) (cost : S → Nat → Int) (m : Nat)
    (q : Nat → Option S) : Prop where
  valid : Valid ok m q
  most : ∀ r, Valid ok m r → size m r ≤ size m q
  least : ∀ r, Valid ok m r → size m r = size m q → total cost m q ≤ total cost m r

/-- The only best pairing. -/
structure Unique (ok : S → Nat → Prop) (cost : S → Nat → Int) (m : Nat)
    (q : Nat → Option S) : Prop where
  best : Best ok cost m q
  only : ∀ r, Best ok cost m r → r = q

theorem Valid.empty : Valid ok m fun _ => none := ⟨nofun, nofun, nofun⟩

@[simp] theorem size_zero : size 0 q = 0 := rfl

@[simp] theorem total_zero : total cost 0 q = 0 := rfl

theorem size_succ : size (m + 1) q = size m q + if (q m).isSome then 1 else 0 :=
  Finset.sum_range_succ _ _

theorem total_succ : total cost (m + 1) q = total cost m q + (q m).elim 0 fun s => cost s m :=
  Finset.sum_range_succ _ _

/-! ## Counting by places -/

/-- A pairing meets each place once, so it collects at most all of a loss. -/
theorem sum_le_elim [DecidableEq S] (h : S → Int) : ∀ (m : Nat) (P : Finset S),
    (∀ s ∈ P, h s ≤ 0) → (∀ i s, i < m → q i = some s → s ∈ P) →
    (∀ i j s, q i = some s → q j = some s → i = j) →
    ∑ s ∈ P, h s ≤ ∑ i ∈ Finset.range m, (q i).elim 0 h := by
  intro m
  induction m with
  | zero => exact fun P hneg _ _ => Finset.sum_nonpos hneg
  | succ m ih =>
    intro P hneg hmem hinj
    rw [Finset.sum_range_succ]
    cases hq : q m with
    | none =>
      rw [Option.elim_none, add_zero]
      exact ih P hneg (fun i s hi => hmem i s (Nat.lt_succ_of_lt hi)) hinj
    | some s =>
      have hs := hmem m s (Nat.lt_succ_self m) hq
      have hrest := ih (P.erase s) (fun t ht => hneg t (Finset.mem_of_mem_erase ht))
        (fun i t hi hqi => by
        refine Finset.mem_erase.mpr ⟨fun he => ?_, hmem i t (Nat.lt_succ_of_lt hi) hqi⟩
        exact absurd (hinj i m s (he ▸ hqi) hq) (Nat.ne_of_lt hi)) hinj
      have hsplit := Finset.add_sum_erase P h hs
      rw [Option.elim_some]
      omega

/-- No more pairs than places. -/
theorem Valid.size_le [DecidableEq S] (hq : Valid ok m q) {P : Finset S}
    (hP : ∀ s i, ok s i → s ∈ P) :
    size m q ≤ P.card := by
  have h := sum_le_elim (q := q) (fun _ => (-1 : Int)) m P (fun _ _ => by decide)
    (fun i s _ hi => hP s i (hq.ok i s hi)) hq.inj
  have hleft : ∑ _s ∈ P, (-1 : Int) = -(P.card : Int) := by simp
  have hright : ∑ i ∈ Finset.range m, ((q i).elim 0 fun _ => (-1 : Int)) = -(size m q : Int) := by
    unfold size
    rw [Nat.cast_sum, ← Finset.sum_neg_distrib]
    refine Finset.sum_congr rfl fun i _ => ?_
    cases q i <;> rfl
  rw [hleft, hright] at h
  omega

/-! ## One number for both -/

/-- The total with a reward of `d` for every pair. -/
def penal (cost : S → Nat → Int) (d : Int) (m : Nat) (q : Nat → Option S) : Int :=
  total cost m q - d * size m q

theorem penal_eq (d : Int) : penal cost d m q =
    ∑ i ∈ Finset.range m, (q i).elim 0 fun s => cost s i - d := by
  unfold penal
  induction m with
  | zero => simp
  | succ m ih =>
    rw [Finset.sum_range_succ, ← ih, total_succ, size_succ]
    cases q m with
    | none => simp
    | some s => simp; ring

theorem Valid.total_bounds {B : Int} (hq : Valid ok m q)
    (hcost : ∀ s i, ok s i → 0 ≤ cost s i ∧ cost s i ≤ B) :
    0 ≤ total cost m q ∧ total cost m q ≤ size m q * B := by
  have hterm : ∀ i, 0 ≤ ((q i).elim 0 fun s => cost s i) ∧
      ((q i).elim 0 fun s => cost s i) ≤ (if (q i).isSome then 1 else 0 : Nat) * B := by
    intro i
    cases h : q i with
    | none => simp
    | some s => simpa using hcost s i (hq.ok i s h)
  refine ⟨Finset.sum_nonneg fun i _ => (hterm i).1, ?_⟩
  unfold size
  rw [Nat.cast_sum, Finset.sum_mul]
  exact Finset.sum_le_sum fun i _ => (hterm i).2

/-- If a pair is worth more than every total, the least penalised total is the best. -/
theorem best_of_penal {B d : Int} {a : Nat} (hq : Valid ok m q)
    (hcost : ∀ s i, ok s i → 0 ≤ cost s i ∧ cost s i ≤ B) (hB : 0 ≤ B)
    (hsize : ∀ r, Valid ok m r → size m r ≤ a) (hd : a * B < d)
    (hle : ∀ r, Valid ok m r → penal cost d m q ≤ penal cost d m r) : Best ok cost m q := by
  refine ⟨hq, fun r hr => ?_, fun r hr he => ?_⟩
  · have hpen := hle r hr
    have hr2 := (hr.total_bounds hcost).2
    have hra : (size m r : Int) * B ≤ a * B :=
      mul_le_mul_of_nonneg_right (by exact_mod_cast hsize r hr) hB
    have hq1 := (hq.total_bounds hcost).1
    by_contra hlt
    have hd0 : 0 ≤ d := le_trans (mul_nonneg (Int.natCast_nonneg a) hB) hd.le
    -- one pair more outweighs the whole total
    have hmore : d * (size m q + 1) ≤ d * size m r := mul_le_mul_of_nonneg_left (by omega) hd0
    unfold penal at hpen
    rw [mul_add, mul_one] at hmore
    omega
  · have hpen := hle r hr
    unfold penal at hpen
    rw [he] at hpen
    omega

/-- Every pair that the gate allows is one of `q`. -/
theorem unique_of_forced (hq : Valid ok m q) (h : ∀ i s, i < m → ok s i → q i = some s) :
    Unique ok cost m q := by
  have hsub : ∀ r, Valid ok m r → ∀ i, r i = none ∨ r i = q i := by
    intro r hr i
    cases hi : r i with
    | none => exact Or.inl rfl
    | some s => exact Or.inr (h i s (hr.lt i s hi) (hr.ok i s hi)).symm
  have hterm : ∀ r, Valid ok m r → ∀ i ∈ Finset.range m,
      (if (r i).isSome then 1 else 0) ≤ if (q i).isSome then 1 else 0 := by
    intro r hr i _
    rcases hsub r hr i with hi | hi
    · rw [hi]
      exact Nat.zero_le _
    · rw [hi]
  -- a pairing of the same size is this one
  have hsame : ∀ r, Valid ok m r → size m r = size m q → r = q := by
    intro r hr he
    funext i
    rcases hsub r hr i with hi | hi
    · cases hqi : q i with
      | none => exact hi
      | some s =>
        have hone := (Finset.sum_eq_sum_iff_of_le (hterm r hr)).mp he i
          (Finset.mem_range.mpr (hq.lt i s hqi))
        rw [hi, hqi] at hone
        cases hone
    · exact hi
  have hmost : ∀ r, Valid ok m r → size m r ≤ size m q := fun r hr => Finset.sum_le_sum (hterm r hr)
  refine ⟨⟨hq, hmost, fun r hr he => ?_⟩, fun r hr => ?_⟩
  · rw [hsame r hr he]
  · exact hsame r hr.valid (Nat.le_antisymm (hmost r hr.valid) (hr.most q hq))

/-- Nothing can be paired. -/
theorem unique_none (h : ∀ s i, i < m → ¬ ok s i) : Unique ok cost m fun _ => none :=
  unique_of_forced Valid.empty fun i s hi hok => absurd hok (h s i hi)

/-- One index and one place for it. -/
theorem unique_one {s : S} (hok : ok s 0) (honly : ∀ t, ok t 0 → t = s) :
    Unique ok cost 1 (Function.update (fun _ => none) 0 (some s)) := by
  have hread : ∀ {i t}, Function.update (fun _ => none) 0 (some s) i = some t → i = 0 ∧ t = s := by
    intro i t h
    by_cases hi : i = 0
    · rw [hi, Function.update_self] at h
      exact ⟨hi, (Option.some.inj h).symm⟩
    · rw [Function.update_of_ne hi] at h
      cases h
  refine unique_of_forced ⟨fun i t h => ?_, fun i t h => ?_, fun i j t hi hj => ?_⟩
    fun i t hi ht => ?_
  · rw [(hread h).1]
    exact Nat.one_pos
  · obtain ⟨rfl, rfl⟩ := hread h
    exact hok
  · rw [(hread hi).1, (hread hj).1]
  · obtain rfl : i = 0 := Nat.lt_one_iff.mp hi
    rw [Function.update_self, honly t ht]

/-! ## Renaming the places -/

section
variable {f : S → T} {okT : T → Nat → Prop} {costT : T → Nat → Int}

theorem Valid.map (hq : Valid ok m q) (hok : ∀ s i, ok s i → okT (f s) i)
    (hinj : ∀ s t i j, ok s i → ok t j → f s = f t → s = t) : Valid okT m fun i => (q i).map f := by
  refine ⟨fun i t h => ?_, fun i t h => ?_, fun i j t hi hj => ?_⟩
  · obtain ⟨s, hs, _⟩ := Option.map_eq_some_iff.mp h
    exact hq.lt i s hs
  · obtain ⟨s, hs, he⟩ := Option.map_eq_some_iff.mp h
    rw [← he]
    exact hok s i (hq.ok i s hs)
  · obtain ⟨s, hs, he⟩ := Option.map_eq_some_iff.mp hi
    obtain ⟨s', hs', he'⟩ := Option.map_eq_some_iff.mp hj
    have hss := hinj s s' i j (hq.ok i s hs) (hq.ok j s' hs') (he.trans he'.symm)
    exact hq.inj i j s hs (hss ▸ hs')

theorem penal_map (d : Int) (hcost : ∀ s i, q i = some s → costT (f s) i = cost s i) :
    penal costT d m (fun i => (q i).map f) = penal cost d m q := by
  rw [penal_eq, penal_eq]
  refine Finset.sum_congr rfl fun i _ => ?_
  cases h : q i with
  | none => rfl
  | some s => simp only [Option.map_some, Option.elim_some, hcost s i h]

end

/-! ## Changing one index -/

theorem sum_update (f : Option S → Nat → Int) {i : Nat} (hi : i < m) (o : Option S) :
    ∑ j ∈ Finset.range m, f (Function.update q i o j) j =
      ∑ j ∈ Finset.range m, f (q j) j + f o i - f (q i) i := by
  have hmem := Finset.mem_range.mpr hi
  have hrest : ∑ j ∈ (Finset.range m).erase i, f (Function.update q i o j) j =
      ∑ j ∈ (Finset.range m).erase i, f (q j) j :=
    Finset.sum_congr rfl fun j hj => by rw [Function.update_of_ne (Finset.ne_of_mem_erase hj)]
  have h1 := Finset.add_sum_erase _ (fun j => f (Function.update q i o j) j) hmem
  have h2 := Finset.add_sum_erase _ (fun j => f (q j) j) hmem
  simp only [Function.update_self] at h1
  omega

theorem size_update {i : Nat} (hi : i < m) (s : S) (hq : q i = none) :
    size m (Function.update q i (some s)) = size m q + 1 := by
  have h := sum_update (q := q) (fun o _ => ((if o.isSome then 1 else 0 : Nat) : Int)) hi (some s)
  simp only [← Nat.cast_sum, hq] at h
  unfold size
  simp only [Option.isSome_some, if_true, Option.isSome_none, Bool.false_eq_true, if_false] at h
  omega

theorem total_update {i : Nat} (hi : i < m) (s : S) (hq : q i = none) :
    total cost m (Function.update q i (some s)) = total cost m q + cost s i := by
  have h := sum_update (q := q) (fun o j => o.elim 0 fun s => cost s j) hi (some s)
  unfold total
  rw [h, hq]
  simp

/-! ## One place more

`On` gates a pairing to the places of a list and the indices that are not
used. A best pairing with one place more leaves the place free, or gives it an
index and is best on the rest without that index.
-/

/-- Places of the list, unused indices, inside the gate. -/
structure On (places : List S) (used : Nat → Bool) (ok : S → Nat → Prop) (s : S)
    (i : Nat) : Prop where
  mem : s ∈ places
  unused : used i = false
  ok : ok s i

/-- At least as good: more pairs, or as many for no more. -/
def NoWorse (a b : Nat × Int) : Prop := b.1 < a.1 ∨ b.1 = a.1 ∧ a.2 ≤ b.2

/-- Size and total. -/
def value (cost : S → Nat → Int) (m : Nat) (q : Nat → Option S) : Nat × Int :=
  (size m q, total cost m q)

theorem NoWorse.refl (a : Nat × Int) : NoWorse a a := Or.inr ⟨rfl, Int.le_refl _⟩

theorem NoWorse.trans {a b c : Nat × Int} (hab : NoWorse a b) (hbc : NoWorse b c) :
    NoWorse a c := by
  unfold NoWorse at *
  omega

theorem best_iff : Best ok cost m q ↔
    Valid ok m q ∧ ∀ r, Valid ok m r → NoWorse (value cost m q) (value cost m r) := by
  refine ⟨fun h => ⟨h.valid, fun r hr => ?_⟩, fun h => ⟨h.1, fun r hr => ?_, fun r hr he => ?_⟩⟩
  · rcases Nat.lt_or_eq_of_le (h.most r hr) with hlt | heq
    · exact Or.inl hlt
    · exact Or.inr ⟨heq, h.least r hr heq⟩
  · rcases h.2 r hr with hlt | ⟨heq, _⟩
    · exact Nat.le_of_lt hlt
    · exact Nat.le_of_eq heq
  · rcases h.2 r hr with hlt | ⟨_, hle⟩
    · exact absurd he (Nat.ne_of_lt hlt)
    · exact hle

section
variable {places : List S} {s : S} {used : Nat → Bool}

theorem Valid.used_none (h : Valid (On places used ok) m q) {i : Nat} (hi : used i = true) :
    q i = none := by
  cases hq : q i with
  | none => rfl
  | some t =>
    have := (h.ok i t hq).unused
    rw [hi] at this
    cases this

/-- A pairing that leaves the place free. -/
theorem Valid.skip (h : Valid (On (s :: places) used ok) m q) (hs : ∀ i, q i ≠ some s) :
    Valid (On places used ok) m q := by
  refine ⟨h.lt, fun i t ht => ?_, h.inj⟩
  have hon := h.ok i t ht
  refine ⟨(List.mem_cons.mp hon.mem).resolve_left fun he => hs i (he ▸ ht), hon.unused, hon.ok⟩

/-- A pairing without the pair of the place. -/
theorem Valid.drop (h : Valid (On (s :: places) used ok) m q) {i : Nat} (hi : q i = some s) :
    Valid (On places (Function.update used i true) ok) m (Function.update q i none) := by
  have hold : ∀ {j t}, Function.update q i none j = some t → j ≠ i ∧ q j = some t := by
    intro j t ht
    by_cases hj : j = i
    · rw [hj, Function.update_self] at ht; cases ht
    · rw [Function.update_of_ne hj] at ht; exact ⟨hj, ht⟩
  refine ⟨fun j t ht => h.lt j t (hold ht).2, fun j t ht => ?_, fun j l t hj hl =>
    h.inj j l t (hold hj).2 (hold hl).2⟩
  obtain ⟨hne, htj⟩ := hold ht
  have hon := h.ok j t htj
  refine ⟨(List.mem_cons.mp hon.mem).resolve_left fun he =>
    hne (h.inj j i s (he ▸ htj) hi), ?_, hon.ok⟩
  rw [Function.update_of_ne hne]
  exact hon.unused

/-- A pairing with one pair more. -/
theorem Valid.add (h : Valid (On places (Function.update used i true) ok) m q) (hs : s ∉ places)
    (hi : i < m)
    (hu : used i = false) (hok : ok s i) :
    Valid (On (s :: places) used ok) m (Function.update q i (some s)) := by
  have hcase : ∀ {j t}, Function.update q i (some s) j = some t → j = i ∧ t = s ∨ j ≠ i ∧
    q j = some t := by
    intro j t ht
    by_cases hj : j = i
    · rw [hj, Function.update_self] at ht
      exact Or.inl ⟨hj, (Option.some.inj ht).symm⟩
    · rw [Function.update_of_ne hj] at ht
      exact Or.inr ⟨hj, ht⟩
  have hfresh : ∀ {j}, q j ≠ some s := fun {j} hj => hs (h.ok j s hj).mem
  refine ⟨fun j t ht => ?_, fun j t ht => ?_, fun j l t hj hl => ?_⟩
  · rcases hcase ht with ⟨rfl, _⟩ | ⟨_, hq⟩
    · exact hi
    · exact h.lt j t hq
  · rcases hcase ht with ⟨rfl, rfl⟩ | ⟨hne, hq⟩
    · exact ⟨List.mem_cons_self, hu, hok⟩
    · have hon := h.ok j t hq
      refine ⟨List.mem_cons_of_mem s hon.mem, ?_, hon.ok⟩
      have hun := hon.unused
      rwa [Function.update_of_ne hne] at hun
  · rcases hcase hj with ⟨rfl, rfl⟩ | ⟨_, hqj⟩ <;> rcases hcase hl with ⟨rfl, he⟩ | ⟨_, hql⟩
    · rfl
    · exact absurd hql hfresh
    · subst he
      exact absurd hqj hfresh
    · exact h.inj j l t hqj hql

theorem Valid.wider (h : Valid (On places used ok) m q) : Valid (On (s :: places) used ok) m q :=
  ⟨h.lt, fun i t ht => ⟨List.mem_cons_of_mem s (h.ok i t ht).mem, (h.ok i t ht).unused,
    (h.ok i t ht).ok⟩, h.inj⟩

/-- What the best pairing of one place more is compared with. -/
theorem best_cons (hq : Valid (On (s :: places) used ok) m q)
    (hskip : ∃ q0, Best (On places used ok) cost m q0 ∧ NoWorse (value cost m q) (value cost m q0))
    (hadd : ∀ i, i < m → used i = false → ok s i →
      ∃ qi, Best (On places (Function.update used i true) ok) cost m qi ∧
        NoWorse (value cost m q) ((value cost m qi).1 + 1, (value cost m qi).2 + cost s i)) :
    Best (On (s :: places) used ok) cost m q := by
  refine best_iff.mpr ⟨hq, fun r hr => ?_⟩
  by_cases hs : ∃ i, r i = some s
  · obtain ⟨i, hi⟩ := hs
    have hon := hr.ok i s hi
    have him := hr.lt i s hi
    obtain ⟨qi, hbest, hno⟩ := hadd i him hon.unused hon.ok
    -- the rest of `r` is no better than the best of the rest
    have hrest := (best_iff.mp hbest).2 _ (hr.drop hi)
    have hsize := size_update (q := Function.update r i none) him s (Function.update_self ..)
    have htotal : total cost _ (Function.update (Function.update r i none) i (some s)) = _ :=
      total_update him s (Function.update_self ..)
    rw [Function.update_idem, ← hi, Function.update_eq_self] at hsize htotal
    refine hno.trans ?_
    unfold NoWorse value at *
    simp only at *
    omega
  · obtain ⟨q0, hbest, hno⟩ := hskip
    exact hno.trans ((best_iff.mp hbest).2 r (hr.skip fun i hi => hs ⟨i, hi⟩))

theorem best_nil : Best (On [] used ok) cost m fun _ => none := by
  have hnone : ∀ r, Valid (On [] used ok) m r → r = fun _ => none := by
    intro r hr
    funext i
    cases h : r i with
    | none => rfl
    | some t => exact absurd (hr.ok i t h).mem List.not_mem_nil
  refine best_iff.mpr ⟨Valid.empty, fun r hr => ?_⟩
  rw [hnone r hr]
  exact NoWorse.refl _

end

/-! ## Reordering the indices -/

section
variable {σ : Equiv.Perm Nat}

theorem sum_reorder {M : Type} [AddCommMonoid M] (f : Nat → M) (hσ : ∀ i, σ i < m ↔ i < m) :
    ∑ i ∈ Finset.range m, f (σ i) = ∑ i ∈ Finset.range m, f i :=
  Finset.sum_equiv σ (fun i => by rw [Finset.mem_range, Finset.mem_range, hσ]) fun _ _ => rfl

theorem size_reorder (hσ : ∀ i, σ i < m ↔ i < m) : size m (fun i => q (σ i)) = size m q :=
  sum_reorder (fun i => if (q i).isSome then 1 else 0) hσ

theorem total_reorder (hσ : ∀ i, σ i < m ↔ i < m) :
    total (fun s i => cost s (σ i)) m (fun i => q (σ i)) = total cost m q :=
  sum_reorder (fun i => (q i).elim 0 fun s => cost s i) hσ

theorem Valid.reorder (hq : Valid ok m q) (hσ : ∀ i, σ i < m ↔ i < m) :
    Valid (fun s i => ok s (σ i)) m fun i => q (σ i) :=
  ⟨fun i s h => (hσ i).mp (hq.lt (σ i) s h), fun i s h => hq.ok (σ i) s h,
    fun i j s hi hj => σ.injective (hq.inj (σ i) (σ j) s hi hj)⟩

/-- A pairing of the reordered indices, in the old order. -/
theorem Valid.restore (hr : Valid (fun s i => ok s (σ i)) m r) (hσ : ∀ i, σ i < m ↔ i < m) :
    Valid ok m fun i => r (σ.symm i) := by
  have h := hr.reorder (σ := σ.symm) fun i => by rw [← hσ, σ.apply_symm_apply]
  simpa only [σ.apply_symm_apply] using h

theorem Best.reorder (hq : Best ok cost m q) (hσ : ∀ i, σ i < m ↔ i < m) :
    Best (fun s i => ok s (σ i)) (fun s i => cost s (σ i)) m fun i => q (σ i) := by
  have hback : ∀ r : Nat → Option S, (fun i => r (σ.symm (σ i))) = r :=
    fun r => funext fun i => by rw [σ.symm_apply_apply]
  have hsize : ∀ r : Nat → Option S, size m r = size m fun i => r (σ.symm i) := fun r => by
    rw [← size_reorder (q := fun i => r (σ.symm i)) hσ, hback]
  refine ⟨hq.valid.reorder hσ, fun r hr => ?_, fun r hr he => ?_⟩
  · rw [size_reorder hσ, hsize r]
    exact hq.most _ (hr.restore hσ)
  · rw [size_reorder hσ, hsize r] at he
    have hle := hq.least _ (hr.restore hσ) he
    rw [← total_reorder hσ, ← total_reorder (q := fun i => r (σ.symm i)) hσ, hback] at hle
    exact hle

theorem Unique.reorder (hq : Unique ok cost m q) (hσ : ∀ i, σ i < m ↔ i < m) :
    Unique (fun s i => ok s (σ i)) (fun s i => cost s (σ i)) m fun i => q (σ i) := by
  refine ⟨hq.best.reorder hσ, fun r hr => ?_⟩
  have hσ' : ∀ i, σ.symm i < m ↔ i < m := fun i => by rw [← hσ, σ.apply_symm_apply]
  have h := hr.reorder hσ'
  simp only [σ.apply_symm_apply] at h
  funext i
  have hi := congrFun (hq.only _ h) (σ i)
  rwa [σ.symm_apply_apply] at hi

end
end Sp11Touch.Pairs
