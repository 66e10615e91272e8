import Sp11Touch.Core.CInt
import Mathlib.Order.Defs.LinearOrder
import Mathlib.Order.Lattice
/-!
# The first index of the greatest score

`FirstMax n score b` says that `b` is what a scan from the left with a strict
comparison returns. It is unique (`FirstMax.unique`), and two scans give it
(`firstMax_spec`, `scan_firstMax`).
-/
namespace Sp11Touch
open CInt

variable {α : Type} [LinearOrder α]

structure FirstMax (n : Nat) (score : Nat → α) (b : Nat) : Prop where
  lt : b < n
  le : ∀ k, k < n → score k ≤ score b
  first : ∀ k, k < b → score k < score b

variable {n b c : Nat} {score other : Nat → α}

theorem FirstMax.unique (hb : FirstMax n score b) (hc : FirstMax n score c) : b = c := by
  rcases Nat.lt_trichotomy b c with h | h | h
  · exact absurd (hc.first b h) (not_lt.mpr (hb.le c hc.lt))
  · exact h
  · exact absurd (hb.first c h) (not_lt.mpr (hc.le b hb.lt))

theorem FirstMax.congr (h : FirstMax n score b) (he : ∀ k, k < n → score k = other k) :
    FirstMax n other b :=
  ⟨h.lt, fun k hk => he k hk ▸ he b h.lt ▸ h.le k hk, fun k hk =>
    he k (Nat.lt_trans hk h.lt) ▸ he b h.lt ▸ h.first k hk⟩

/-- The greatest score is above a floor if one of them is. -/
theorem FirstMax.above_iff {floor : α} (h : FirstMax n score b) : floor < score b ↔ ∃ k, k < n ∧
    floor < score k := by
  apply Iff.intro
  · exact fun hlt => ⟨b, h.lt, hlt⟩
  · intro hsome
    obtain ⟨k, hk, hlt⟩ := hsome
    exact lt_of_lt_of_le hlt (h.le k hk)

/-- Where no score is above the first one, the first one wins. -/
theorem FirstMax.eq_zero (h : FirstMax n score b) (hle : ∀ k, k < n → score k ≤ score 0) : b = 0 :=
  Nat.eq_zero_of_not_pos fun hb => absurd (h.first 0 hb) (not_lt.mpr (hle b h.lt))

/-- One more score. -/
theorem FirstMax.succ (h : FirstMax n score b) :
    FirstMax (n + 1) score (if score b < score n then n else b) := by
  have hle : ∀ k, k < n + 1 → k < n ∨ k = n := fun k hk => Nat.lt_succ_iff_lt_or_eq.mp hk
  split
  · next hlt =>
    have hall : ∀ k, k < n → score k < score n := fun k hk => lt_of_le_of_lt (h.le k hk) hlt
    refine ⟨Nat.lt_succ_self n, fun k hk => ?_, hall⟩
    rcases hle k hk with hk | rfl
    · exact le_of_lt (hall k hk)
    · exact le_refl _
  · next hge =>
    refine ⟨Nat.lt_succ_of_lt h.lt, fun k hk => ?_, h.first⟩
    rcases hle k hk with hk | rfl
    · exact h.le k hk
    · exact not_lt.mp hge

/-- The scan that compares with the best index so far. -/
def firstMax (n : Nat) (score : Nat → α) : Nat :=
  loop n (fun k b => if score b < score (k + 1) then k + 1 else b) 0

theorem firstMax_spec (n : Nat) (score : Nat → α) : FirstMax (n + 1) score (firstMax n score) := by
  unfold firstMax
  refine loop_ind (fun k b => FirstMax (k + 1) score b) ?_ fun k b _ h => h.succ
  refine ⟨Nat.one_pos, fun k hk => ?_, fun k hk => absurd hk (Nat.not_lt_zero k)⟩
  rw [Nat.lt_one_iff.mp hk]

/-- The scan that carries the best score, from a bound below all of them. -/
theorem scan_firstMax {low : α} (h : ∀ k, k < n + 1 → low < score k) :
    FirstMax (n + 1) score
      (loop (n + 1) (fun k best => if score k > best.2 then (k, score k) else best)
      (0, low)).1 := by
  have hscan : ∀ m, m ≤ n → FirstMax (m + 1) score
      (loop (m + 1) (fun k best => if score k > best.2 then (k, score k) else best) (0, low)).1 ∧
      (loop (m + 1) (fun k best => if score k > best.2 then (k, score k) else best) (0, low)).2 =
        score (loop (m + 1) (fun k best => if score k > best.2 then (k, score k) else best)
        (0, low)).1 := by
    intro m
    induction m with
    | zero =>
      intro _
      rw [loop_succ, loop_zero, if_pos (h 0 (Nat.succ_pos n))]
      refine ⟨⟨Nat.one_pos, fun k hk => ?_, fun k hk => absurd hk (Nat.not_lt_zero k)⟩, rfl⟩
      rw [Nat.lt_one_iff.mp hk]
    | succ m ih =>
      intro hm
      obtain ⟨hf, hs⟩ := ih (by omega)
      rw [loop_succ, hs]
      have hsucc := hf.succ
      split
      · next hgt => rw [if_pos hgt] at hsucc; exact ⟨hsucc, rfl⟩
      · next hle => rw [if_neg hle] at hsucc; exact ⟨hsucc, hs⟩
  exact (hscan n (Nat.le_refl n)).1

end Sp11Touch
