import Mathlib.Logic.Relation
import Mathlib.Data.Set.Card
import Mathlib.Data.Set.Image
import Mathlib.Order.Minimal
import Mathlib.Tactic.Choose
/-!
# Islands

Cells of any type with a symmetric relation `adj`. An island of a set `S` is a
maximal connected subset of `S`: the cells of `S` that one of its cells reaches
inside `S` (`island_isIsland`). Islands partition `S`, grow with `S`, and are
copied with `S` (`Copies.isIsland_iff`). A list of cells is an island if it
grows from its first cell and no step leaves it (`Grown.isIsland`).
-/
namespace Sp11Touch.Region

variable {α : Type} {adj : α → α → Prop} {S S' T T' : Set α} {a b c : α}

/-- A path from `a` to `b` whose cells after `a` lie in `S`. -/
def Reach (adj : α → α → Prop) (S : Set α) (a b : α) : Prop :=
  Relation.ReflTransGen (fun x y => adj x y ∧ y ∈ S) a b

/-- A connected part of `S`. -/
structure Linked (adj : α → α → Prop) (S T : Set α) : Prop where
  nonempty : T.Nonempty
  subset : T ⊆ S
  reach : ∀ a, a ∈ T → ∀ b, b ∈ T → Reach adj T a b

def IsIsland (adj : α → α → Prop) (S T : Set α) : Prop := Maximal (Linked adj S) T

/-- What `a` reaches inside `S`. -/
def island (adj : α → α → Prop) (S : Set α) (a : α) : Set α := {b | Reach adj S a b}

theorem Reach.refl (a : α) : Reach adj S a a := Relation.ReflTransGen.refl

theorem Reach.mono (hs : S ⊆ S') (h : Reach adj S a b) : Reach adj S' a b :=
  Relation.ReflTransGen.mono (fun _ _ hxy => ⟨hxy.1, hs hxy.2⟩) a b h

theorem Reach.mem (ha : a ∈ S) (h : Reach adj S a b) : b ∈ S := by
  cases Relation.ReflTransGen.cases_tail h with
  | inl heq => exact heq ▸ ha
  | inr hstep => obtain ⟨_, _, _, hb⟩ := hstep; exact hb

theorem Reach.symm (hsymm : ∀ x y, adj x y → adj y x) (ha : a ∈ S) (h : Reach adj S a b) :
    Reach adj S b a := by
  induction h with
  | refl => exact Reach.refl a
  | tail hab hbc ih => exact Relation.ReflTransGen.head ⟨hsymm _ _ hbc.1, Reach.mem ha hab⟩ ih

theorem mem_island : a ∈ island adj S a := Reach.refl a

theorem island_subset (ha : a ∈ S) : island adj S a ⊆ S := fun _ hb => Reach.mem ha hb

theorem island_mono (hs : S ⊆ S') : island adj S a ⊆ island adj S' a := fun _ hb => Reach.mono hs hb

/-- Paths inside `S` from `a` stay in the island of `a`. -/
theorem Reach.inside (h : Reach adj S a b) : Reach adj (island adj S a) a b := by
  induction h with
  | refl => exact Reach.refl a
  | tail hab hbc ih => exact Relation.ReflTransGen.tail ih ⟨hbc.1, Relation.ReflTransGen.tail hab hbc⟩

theorem island_linked (hsymm : ∀ x y, adj x y → adj y x) (ha : a ∈ S) :
    Linked adj S (island adj S a) := by
  refine ⟨⟨a, mem_island⟩, island_subset ha, fun x hx y hy => ?_⟩
  have hxa : Reach adj (island adj S a) x a := Reach.symm hsymm mem_island (Reach.inside hx)
  exact Relation.ReflTransGen.trans hxa (Reach.inside hy)

theorem island_isIsland (hsymm : ∀ x y, adj x y → adj y x) (ha : a ∈ S) :
    IsIsland adj S (island adj S a) := by
  refine ⟨island_linked hsymm ha, fun T hT hsub b hb => ?_⟩
  exact Reach.mono hT.subset (hT.reach a (hsub mem_island) b hb)

/-- An island is what any of its cells reaches. -/
theorem IsIsland.eq_island (hsymm : ∀ x y, adj x y → adj y x) (h : IsIsland adj S T) (ha : a ∈ T) :
    T = island adj S a := by
  have hsub : T ⊆ island adj S a := fun b hb => Reach.mono h.1.subset (h.1.reach a ha b hb)
  exact Set.Subset.antisymm hsub (h.2 (island_linked hsymm (h.1.subset ha)) hsub)

theorem IsIsland.eq_of_mem (hsymm : ∀ x y, adj x y → adj y x) (h : IsIsland adj S T)
    (h' : IsIsland adj S T')
    (ha : a ∈ T) (ha' : a ∈ T') : T = T' :=
  (h.eq_island hsymm ha).trans (h'.eq_island hsymm ha').symm

/-- A connected set is its own island. -/
theorem Linked.whole (h : Linked adj S T) : IsIsland adj T T :=
  ⟨⟨h.nonempty, subset_rfl, h.reach⟩, fun _ hT _ => hT.subset⟩

/-- What `a` reaches and no step leaves is the island of `a`. -/
theorem island_of_closed (ha : a ∈ T) (hreach : ∀ b, b ∈ T → Reach adj S a b)
    (hclosed : ∀ b, b ∈ T → ∀ c, adj b c → c ∈ S → c ∈ T) : T = island adj S a := by
  refine Set.Subset.antisymm (fun b hb => hreach b hb) fun b hb => ?_
  induction hb with
  | refl => exact ha
  | tail _ hbc ih => exact hclosed _ ih _ hbc.1 hbc.2

/-- There are at most as many islands as cells. -/
theorem ncard_islands_le (hsymm : ∀ x y, adj x y → adj y x) (hfin : S.Finite) {F : Set (Set α)}
    (h : ∀ T, T ∈ F → IsIsland adj S T) : F.ncard ≤ S.ncard := by
  rcases S.eq_empty_or_nonempty with rfl | ⟨a₀, _⟩
  · have hF : F = ∅ := Set.eq_empty_of_forall_notMem fun T hT => (h T hT).1.nonempty.ne_empty
      (Set.subset_empty_iff.mp (h T hT).1.subset)
    rw [hF]
    simp
  · have : Nonempty α := ⟨a₀⟩
    have hcell : ∀ T, T ∈ F → ∃ a, a ∈ T := fun T hT => (h T hT).1.nonempty
    choose! cell hcell using hcell
    refine Set.ncard_le_ncard_of_injOn cell (fun T hT => (h T hT).1.subset (hcell T hT))
      (fun T hT T' hT' heq => ?_) hfin
    exact (h T hT).eq_of_mem hsymm (h T' hT') (hcell T hT) (heq ▸ hcell T' hT')

/-- Where no two cells are adjacent, every cell is an island of its own. -/
theorem isIsland_of_independent (hsymm : ∀ x y, adj x y → adj y x)
    (h : ∀ a, a ∈ S → ∀ b, b ∈ S → ¬ adj a b) :
    IsIsland adj S T ↔ ∃ a, a ∈ S ∧ {a} = T := by
  have hone : ∀ a, a ∈ S → {a} = island adj S a := fun a ha =>
    island_of_closed rfl (fun b hb => Set.mem_singleton_iff.mp hb ▸ Reach.refl b)
      fun b hb c hbc hc =>
      absurd hbc (h b (hb ▸ ha) c hc)
  apply Iff.intro
  · intro hT
    obtain ⟨a, ha⟩ := hT.1.nonempty
    exact ⟨a, hT.1.subset ha, (hone a (hT.1.subset ha)).trans (hT.eq_island hsymm ha).symm⟩
  · intro hT
    obtain ⟨a, ha, rfl⟩ := hT
    rw [hone a ha]
    exact island_isIsland hsymm ha

/-! ## Lists of cells -/

/-- Each cell is next to one before it or to one of `seen`. -/
def Grown (adj : α → α → Prop) (seen : List α) : List α → Prop
  | [] => True
  | a :: rest => (∃ c ∈ seen, adj c a) ∧ Grown adj (a :: seen) rest

instance decidableGrown [DecidableRel adj] : ∀ seen rest : List α, Decidable (Grown adj seen rest)
  | _, [] => inferInstanceAs (Decidable True)
  | seen, a :: rest =>
    have := decidableGrown (a :: seen) rest
    inferInstanceAs (Decidable ((∃ c ∈ seen, adj c a) ∧ Grown adj (a :: seen) rest))

theorem Grown.reach {seen rest : List α} (hs : ∀ c ∈ seen, Reach adj T a c) (ht : ∀ c ∈ rest, c ∈ T)
    (h : Grown adj seen rest) : ∀ c ∈ rest, Reach adj T a c := by
  induction rest generalizing seen with
  | nil => exact fun c hc => absurd hc List.not_mem_nil
  | cons b rest ih =>
    obtain ⟨⟨p, hp, hpb⟩, h⟩ := h
    have hb : Reach adj T a b := Relation.ReflTransGen.tail (hs p hp) ⟨hpb, ht b List.mem_cons_self⟩
    have hseen : ∀ c ∈ b :: seen, Reach adj T a c :=
      fun c hc => (List.mem_cons.mp hc).elim (fun he => he ▸ hb) (hs c)
    have hrest := ih hseen (fun c hc => ht c (List.mem_cons_of_mem b hc)) h
    exact fun c hc => (List.mem_cons.mp hc).elim (fun he => he ▸ hb) (hrest c)

theorem Grown.isIsland {rest : List α} (hsymm : ∀ x y, adj x y → adj y x) (h : Grown adj [a] rest)
    (hsub : ∀ c ∈ a :: rest, c ∈ S) (hclosed : ∀ b ∈ a :: rest, ∀ c, adj b c → c ∈ S →
    c ∈ a :: rest) :
    IsIsland adj S {c | c ∈ a :: rest} := by
  have hseen : ∀ c ∈ [a], Reach adj S a c := by
    intro c hc
    rw [List.mem_singleton.mp hc]
    exact Reach.refl a
  have hreach : ∀ c ∈ a :: rest, Reach adj S a c := by
    intro c hc
    rcases List.mem_cons.mp hc with he | hc
    · exact hseen c (List.mem_singleton.mpr he)
    · exact h.reach hseen (fun c hc => hsub c (List.mem_cons_of_mem a hc)) c hc
  have heq : {c | c ∈ a :: rest} = island adj S a :=
    island_of_closed List.mem_cons_self hreach hclosed
  rw [heq]
  exact island_isIsland hsymm (hsub a List.mem_cons_self)

/-! ## Copies -/

section copies
variable {β : Type} {adj' : β → β → Prop} {P : Set β} {f : α → β}

/-- `f` copies `S` onto `P` with its adjacency. -/
structure Copies (adj : α → α → Prop) (adj' : β → β → Prop) (f : α → β) (S : Set α)
    (P : Set β) : Prop where
  inj : Set.InjOn f S
  onto : f '' S = P
  adj : ∀ a, a ∈ S → ∀ b, b ∈ S → (adj' (f a) (f b) ↔ adj a b)

theorem Copies.mem (h : Copies adj adj' f S P) (ha : a ∈ S) : f a ∈ P :=
  h.onto ▸ Set.mem_image_of_mem f ha

theorem Copies.reach (h : Copies adj adj' f S P) (ha : a ∈ S) (hr : Reach adj S a b) :
    Reach adj' P (f a) (f b) := by
  induction hr with
  | refl => exact Reach.refl (f a)
  | tail hab hbc ih =>
    exact Relation.ReflTransGen.tail ih ⟨(h.adj _ (Reach.mem ha hab) _ hbc.2).mpr hbc.1,
      h.mem hbc.2⟩

/-- A path of the copy is the copy of a path. -/
theorem Copies.reach_back (h : Copies adj adj' f S P) (ha : a ∈ S) {y : β}
    (hr : Reach adj' P (f a) y) :
    ∃ b, f b = y ∧ Reach adj S a b := by
  induction hr with
  | refl => exact ⟨a, rfl, Reach.refl a⟩
  | tail _ hbc ih =>
    obtain ⟨b, rfl, hb⟩ := ih
    obtain ⟨c, hc, rfl⟩ := h.onto ▸ hbc.2
    exact ⟨c, rfl, Relation.ReflTransGen.tail hb ⟨(h.adj b (Reach.mem ha hb) c hc).mp hbc.1, hc⟩⟩

theorem Copies.island (h : Copies adj adj' f S P) (ha : a ∈ S) :
    f '' island adj S a = Region.island adj' P (f a) := by
  ext y
  apply Iff.intro
  · intro hy
    obtain ⟨b, hb, rfl⟩ := hy
    exact h.reach ha hb
  · intro hy
    obtain ⟨b, rfl, hb⟩ := h.reach_back ha hy
    exact ⟨b, hb, rfl⟩

/-- The islands of a copy are the copies of the islands. -/
theorem Copies.isIsland_iff (h : Copies adj adj' f S P) (hsymm : ∀ x y, adj x y → adj y x)
    (hsymm' : ∀ x y, adj' x y → adj' y x) {Q : Set β} : IsIsland adj' P Q ↔ ∃ T, IsIsland adj S T ∧
    f '' T = Q := by
  apply Iff.intro
  · intro hQ
    obtain ⟨y, hy⟩ := hQ.1.nonempty
    obtain ⟨a, ha, rfl⟩ := h.onto ▸ hQ.1.subset hy
    exact ⟨_, island_isIsland hsymm ha, (h.island ha).trans (hQ.eq_island hsymm' hy).symm⟩
  · intro hT
    obtain ⟨T, hT, rfl⟩ := hT
    obtain ⟨a, ha⟩ := hT.1.nonempty
    have haS := hT.1.subset ha
    rw [hT.eq_island hsymm ha, h.island haS]
    exact island_isIsland hsymm' (h.mem haS)

end copies

end Sp11Touch.Region
