import Mathlib.Data.List.Induction
import Mathlib.Logic.Relation
/-!
# Merging classes by relabelling

Every vertex carries a label and two vertices are in one class if their labels
agree. Joining `a` and `b` gives every vertex of the class of `b` the label of
`a`, whatever those labels are by then. Joining the pairs of a list one after
another leaves the classes of the equivalence that the old classes and the
pairs generate (`Classes.joined`).
-/
namespace Sp11Touch

open Relation

variable {ι L : Type}

/-- The labels agree on exactly what the relation generates. -/
def Classes (label : ι → L) (r : ι → ι → Prop) : Prop := ∀ i j, label i = label j ↔ EqvGen r i j

theorem Classes.start (label : ι → L) : Classes label fun i j => label i = label j := by
  intro i j
  refine ⟨fun he => EqvGen.rel i j he, fun h => ?_⟩
  induction h with
  | rel _ _ h => exact h
  | refl => rfl
  | symm _ _ _ ih => exact ih.symm
  | trans _ _ _ _ _ ih₁ ih₂ => exact ih₁.trans ih₂

variable [DecidableEq L] {label : ι → L} {r : ι → ι → Prop} {a b : ι}

/-- The class of `b` takes the label of `a`. -/
def joinLabel (label : ι → L) (a b : ι) : ι →
    L := fun i => if label i = label b then label a else label i

/-- The pairs of a list, in order. -/
def joinAll (label : ι → L) (pairs : List (ι × ι)) : ι →
    L := pairs.foldl (fun l p => joinLabel l p.1 p.2) label

theorem joinLabel_of_eq {i j : ι} (h : label i = label j) :
    joinLabel label a b i = joinLabel label a b j := by
  unfold joinLabel
  rw [h]

theorem joinLabel_pair (label : ι → L) (a b : ι) : joinLabel label a b a =
    joinLabel label a b b := by
  unfold joinLabel
  rw [if_pos rfl, ite_self]

theorem Classes.join (h : Classes label r) : Classes (joinLabel label a b) fun i j => r i j ∨
    (i = a ∧ j = b) := by
  have hold : ∀ {i j}, label i = label j → EqvGen (fun i j => r i j ∨ (i = a ∧ j = b)) i j :=
    fun he =>
    EqvGen.mono (fun _ _ => Or.inl) _ _ ((h _ _).mp he)
  have hedge : EqvGen (fun i j => r i j ∨ (i = a ∧ j = b)) a b := EqvGen.rel a b (Or.inr ⟨rfl, rfl⟩)
  intro i j
  apply Iff.intro
  · intro heq
    unfold joinLabel at heq
    by_cases hi : label i = label b
    · by_cases hj : label j = label b
      · exact hold (hi.trans hj.symm)
      · rw [if_pos hi, if_neg hj] at heq
        exact ((hold hi).trans _ _ _ (hedge.symm _ _)).trans _ _ _ (hold heq)
    · rw [if_neg hi] at heq
      by_cases hj : label j = label b
      · rw [if_pos hj] at heq
        exact ((hold heq).trans _ _ _ hedge).trans _ _ _ (hold hj.symm)
      · rw [if_neg hj] at heq
        exact hold heq
  · intro hgen
    induction hgen with
    | rel x y hxy =>
      rcases hxy with hxy | ⟨rfl, rfl⟩
      · exact joinLabel_of_eq ((h x y).mpr (EqvGen.rel x y hxy))
      · exact joinLabel_pair label x y
    | refl => rfl
    | symm _ _ _ ih => exact ih.symm
    | trans _ _ _ _ _ ih₁ ih₂ => exact ih₁.trans ih₂

/-- All pairs joined: the classes of the old classes and the pairs. -/
theorem Classes.joined (label : ι → L) (pairs : List (ι × ι)) :
    Classes (joinAll label pairs) fun i j => label i = label j ∨ (i, j) ∈ pairs := by
  induction pairs using List.reverseRecOn with
  | nil => simpa [joinAll] using Classes.start label
  | append_singleton pairs p ih =>
    have hmore : (fun i j => label i = label j ∨ (i, j) ∈ pairs ++ [p]) =
        fun i j => (label i = label j ∨ (i, j) ∈ pairs) ∨ (i = p.1 ∧ j = p.2) := by
      funext i j
      simp [or_assoc, Prod.ext_iff]
    rw [hmore]
    unfold joinAll
    rw [List.foldl_append]
    exact ih.join

end Sp11Touch
