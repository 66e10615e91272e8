import Mathlib.Algebra.BigOperators.Group.Finset.Basic
import Mathlib.Logic.Function.Basic
import Mathlib.Tactic.Ring
/-!
# Passes that mark open cells once

An attempt marks its target when the target is open and the attempt's own test
holds, and adds the target's weight. The mark is not the open state, so an
attempt on a marked cell does nothing: what a list of attempts leaves depends
only on which attempts are in it (`foldl_state`, `foldl_sum`). `foldl_guarded`
reads the guard of a source in the state before the pass, where neither the
open state nor the mark lets a source through.
-/
namespace Sp11Touch.Marking

/-- The states `opened` and `mark` of a cell, and what the attempts `ε` aim at, test and add. -/
structure Rule (κ ε : Type) where
  opened : Nat
  mark : Nat
  target : ε → κ
  go : ε → Bool
  weight : κ → Int
  mark_ne : mark ≠ opened

namespace Rule
variable {κ ε σ : Type} [DecidableEq κ] (r : Rule κ ε)

def attempt (s : (κ → Nat) × Int) (e : ε) : (κ → Nat) × Int :=
  if s.1 (r.target e) = r.opened ∧ r.go e = true then
    (Function.update s.1 (r.target e) r.mark, s.2 + r.weight (r.target e))
  else s

/-- Some attempt of the list aims at `k` and passes its test. -/
def Hits (l : List ε) (k : κ) : Prop := ∃ e ∈ l, r.target e = k ∧ r.go e = true

instance (l : List ε) (k : κ) : Decidable (r.Hits l k) := inferInstanceAs (Decidable (∃ e ∈ l, _))

variable {r}

omit [DecidableEq κ] in
theorem hits_concat {l : List ε} {e : ε} {k : κ} :
    r.Hits (l ++ [e]) k ↔ r.Hits l k ∨ (r.target e = k ∧ r.go e = true) := by
  simp [Hits, or_and_right, exists_or]

theorem attempt_pos {s : (κ → Nat) × Int} {e : ε}
    (h : s.1 (r.target e) = r.opened ∧ r.go e = true) :
    r.attempt s e = (Function.update s.1 (r.target e) r.mark, s.2 + r.weight (r.target e)) :=
      if_pos h

theorem attempt_neg {s : (κ → Nat) × Int} {e : ε}
    (h : ¬ (s.1 (r.target e) = r.opened ∧ r.go e = true)) :
    r.attempt s e = s := if_neg h

theorem attempt_state (s : (κ → Nat) × Int) (e : ε) (k : κ) :
    (r.attempt s e).1 k = if s.1 k = r.opened ∧ r.target e = k ∧ r.go e = true then r.mark
    else s.1 k := by
  by_cases hgo : s.1 (r.target e) = r.opened ∧ r.go e = true
  · rw [attempt_pos hgo]
    by_cases hk : r.target e = k
    · subst hk
      rw [if_pos ⟨hgo.1, rfl, hgo.2⟩]
      exact Function.update_self _ _ _
    · rw [if_neg (fun h => hk h.2.1)]
      exact Function.update_of_ne (fun h => hk h.symm) _ _
  · rw [attempt_neg hgo, if_neg]
    intro h
    exact hgo ⟨h.2.1 ▸ h.1, h.2.2⟩

theorem foldl_state (s : (κ → Nat) × Int) (l : List ε) (k : κ) :
    (l.foldl r.attempt s).1 k = if s.1 k = r.opened ∧ r.Hits l k then r.mark else s.1 k := by
  induction l using List.reverseRecOn with
  | nil =>
    rw [if_neg (by simp [Hits])]
    rfl
  | append_singleton l e ih =>
    rw [List.foldl_append, List.foldl_cons, List.foldl_nil, attempt_state, ih]
    have hne := r.mark_ne
    by_cases hopen : s.1 k = r.opened
    · by_cases hhit : r.Hits l k
      · simp [hopen, hhit, hits_concat, hne]
      · simp [hopen, hhit, hits_concat]
    · simp [hopen]

/-- The open cells that the list hits. -/
def taken (r : Rule κ ε) (state : κ → Nat) (l : List ε) : Finset κ :=
  (((l.filter r.go).map r.target).toFinset).filter fun k => state k = r.opened

theorem mem_taken {state : κ → Nat} {l : List ε} {k : κ} : k ∈ r.taken state l ↔
    state k = r.opened ∧ r.Hits l k := by
  simp only [taken, Finset.mem_filter, List.mem_toFinset, List.mem_map, List.mem_filter, Hits]
  apply Iff.intro
  · intro h
    obtain ⟨⟨e, ⟨he, hgo⟩, hk⟩, hopen⟩ := h
    exact ⟨hopen, e, he, hk, hgo⟩
  · intro h
    obtain ⟨hopen, e, he, hk, hgo⟩ := h
    exact ⟨⟨e, ⟨he, hgo⟩, hk⟩, hopen⟩

theorem foldl_sum (s : (κ → Nat) × Int) (l : List ε) :
    (l.foldl r.attempt s).2 = s.2 + ∑ k ∈ r.taken s.1 l, r.weight k := by
  induction l using List.reverseRecOn with
  | nil => simp [taken]
  | append_singleton l e ih =>
    rw [List.foldl_append, List.foldl_cons, List.foldl_nil]
    have hstate : (l.foldl r.attempt s).1 (r.target e) = _ := foldl_state s l (r.target e)
    have hmem : ∀ k, k ∈ r.taken s.1 (l ++ [e]) ↔
        k ∈ r.taken s.1 l ∨ (s.1 k = r.opened ∧ r.target e = k ∧ r.go e = true) := by
      intro k
      rw [mem_taken, mem_taken, hits_concat, and_or_left]
    by_cases hnew : (l.foldl r.attempt s).1 (r.target e) = r.opened ∧ r.go e = true
    · -- the target is open before the attempt, so no earlier attempt took it
      have hout : r.target e ∉ r.taken s.1 l := by
        intro hin
        rw [if_pos (mem_taken.mp hin)] at hstate
        exact r.mark_ne (hstate.symm.trans hnew.1)
      rw [if_neg fun h => hout (mem_taken.mpr h)] at hstate
      have htaken : r.taken s.1 (l ++ [e]) = insert (r.target e) (r.taken s.1 l) := by
        ext k
        rw [hmem, Finset.mem_insert]
        apply Iff.intro
        · intro h
          rcases h with hl | he
          · exact Or.inr hl
          · exact Or.inl he.2.1.symm
        · intro h
          rcases h with rfl | h
          · exact Or.inr ⟨hstate.symm.trans hnew.1, rfl, hnew.2⟩
          · exact Or.inl h
      rw [attempt_pos hnew, htaken, Finset.sum_insert hout, ih]
      ring
    · have htaken : r.taken s.1 (l ++ [e]) = r.taken s.1 l := by
        ext k
        rw [hmem]
        refine or_iff_left_of_imp fun he => ?_
        by_contra hout
        obtain ⟨hopen, rfl, hgo⟩ := he
        rw [if_neg fun h => hout (mem_taken.mpr h)] at hstate
        exact hnew ⟨hstate.trans hopen, hgo⟩
      rw [attempt_neg hnew, htaken, ih]

/-- A guard on the source that fails on `opened` and on `mark` may be read before the pass. -/
theorem foldl_guarded (key : σ → κ) (guard : Nat → Bool) {outs : σ → List ε}
    (hopened : guard r.opened = false)
    (hmark : guard r.mark = false) (s : (κ → Nat) × Int) (sources : List σ) :
    sources.foldl (fun t p => if guard (t.1 (key p)) = true then (outs p).foldl r.attempt t else t)
      s =
      ((sources.filter fun p => guard (s.1 (key p))).flatMap outs).foldl r.attempt s := by
  induction sources using List.reverseRecOn with
  | nil => rfl
  | append_singleton sources p ih =>
    rw [List.foldl_append, List.foldl_cons, List.foldl_nil, ih, foldl_state]
    have hguard : ∀ l : List ε, guard (if s.1 (key p) = r.opened ∧ r.Hits l (key p) then r.mark
      else s.1 (key p)) =
        guard (s.1 (key p)) := by
      intro l
      split
      · next h => rw [hmark, h.1, hopened]
      · rfl
    rw [hguard, List.filter_append, List.flatMap_append, List.foldl_append]
    cases hg : guard (s.1 (key p)) with
    | false => simp [hg]
    | true => simp [hg]

end Rule
end Sp11Touch.Marking
