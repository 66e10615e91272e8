import Mathlib.Data.List.GetD
import Mathlib.Data.Nat.ModEq
import Mathlib.Logic.Function.Basic
/-!
# A queue in a ring of slots

Entry number `k` of an unbounded sequence stands in slot `k % n` of a ring of
`n`. `Holds n slots k l`: the slots from number `k` on hold the entries of
`l`, which is at most a whole ring of them. Writing behind `l` and reading its
head are the two ends of a queue; a cursor that counts bytes is at
`place n size k`.
-/
namespace Sp11Touch.Slots

/-- The offset of entry number `k` in a ring of `n` entries of `size` bytes. -/
def place (n size k : Nat) : Nat := (k % n) * size

/-- One entry on, back to the start at the end of the ring. -/
def advance (len size p : Nat) : Nat := if p + size ≥ len then 0 else p + size

section
variable {n size : Nat}

theorem place_lt (hn : 0 < n) (hs : 0 < size) (k : Nat) : place n size k < n * size :=
  Nat.mul_lt_mul_of_pos_right (Nat.mod_lt k hn) hs

theorem place_div (hs : 0 < size) (k : Nat) : place n size k / size = k % n :=
  Nat.mul_div_cancel _ hs

/-- Cursors less than a ring apart are equal only if they count the same. -/
theorem place_inj (hs : 0 < size) {k i j : Nat} (hi : i < n) (hj : j < n)
    (h : place n size (k + i) = place n size (k + j)) : i = j := by
  have hmod : k + i ≡ k + j [MOD n] := Nat.eq_of_mul_eq_mul_right hs h
  have hij : i % n = j % n := Nat.ModEq.add_left_cancel' k hmod
  rwa [Nat.mod_eq_of_lt hi, Nat.mod_eq_of_lt hj] at hij

theorem advance_place (hn : 0 < n) (hs : 0 < size) (k : Nat) :
    advance (n * size) size (place n size k) = place n size (k + 1) := by
  have hlt : k % n < n := Nat.mod_lt k hn
  have hstep : (k + 1) % n = (k % n + 1) % n := by rw [Nat.mod_add_mod]
  unfold advance place
  rw [hstep, ← Nat.succ_mul]
  rcases Nat.lt_or_ge (k % n + 1) n with h | h
  · rw [if_neg (Nat.not_le.mpr (Nat.mul_lt_mul_of_pos_right h hs)), Nat.mod_eq_of_lt h]
  · rw [if_pos (Nat.mul_le_mul_right size h), show k % n + 1 = n by omega,
      Nat.mod_self, Nat.zero_mul]

/-- The free entries between two cursors that are `d` apart. -/
theorem free_between (hs : 0 < size) {k d : Nat} (hd : d < n) :
    (if place n size (k + d) < place n size k then (place n size k - place n size (k + d)) / size
      else place n size k / size + (n * size - place n size (k + d)) / size) = n - d := by
  have hlt : k % n < n := Nat.mod_lt k (by omega)
  have hsum : (k + d) % n = (k % n + d) % n := by rw [Nat.mod_add_mod]
  unfold place
  rw [hsum, Nat.mul_div_cancel _ hs, ← Nat.sub_mul, ← Nat.sub_mul, Nat.mul_div_cancel _ hs,
    Nat.mul_div_cancel _ hs]
  rcases Nat.lt_or_ge (k % n + d) n with h | h
  · rw [Nat.mod_eq_of_lt h, if_neg (Nat.not_lt.mpr
      (Nat.mul_le_mul_right size (Nat.le_add_right _ d)))]
    omega
  · rw [Nat.mod_eq_sub_mod h, Nat.mod_eq_of_lt (by omega)]
    by_cases hd0 : d = 0
    · omega
    · rw [if_pos (Nat.mul_lt_mul_of_pos_right (by omega) hs)]
      omega

end

/-- The entries from one cursor on to the other. -/
def apart (n size a b : Nat) : Nat := (b / size + n - a / size) % n

section
variable {n size : Nat}

theorem apart_place (hs : 0 < size) {k j : Nat} (hj : j < n) : apart n size (place n size k)
    (place n size (k + j)) = j := by
  have hlt : k % n < n := Nat.mod_lt k (by omega)
  have hsum : (k + j) % n = (k % n + j) % n := by rw [Nat.mod_add_mod]
  unfold apart
  rw [place_div hs, place_div hs, hsum]
  rcases Nat.lt_or_ge (k % n + j) n with h | h
  · rw [Nat.mod_eq_of_lt h, show k % n + j + n - k % n = j + n by omega, Nat.add_mod_right,
      Nat.mod_eq_of_lt hj]
  · rw [Nat.mod_eq_sub_mod h, Nat.mod_eq_of_lt (by omega : k % n + j - n < n),
      show k % n + j - n + n - k % n = j by omega, Nat.mod_eq_of_lt hj]

/-- A cursor is so many entries on from another one. -/
theorem place_apart (hs : 0 < size) {p : Nat} (hp : p < n * size) (hd : size ∣ p) (k : Nat) :
    p = place n size (k + apart n size (place n size k) p) := by
  obtain ⟨q, rfl⟩ := hd
  have hq : q < n := Nat.lt_of_mul_lt_mul_left (a := size) (by rw [Nat.mul_comm size n]; exact hp)
  have hlt : k % n < n := Nat.mod_lt k (by omega)
  have hsum : ∀ x, (k + x) % n = (k % n + x) % n := fun x => by rw [Nat.mod_add_mod]
  unfold apart
  rw [place_div hs, Nat.mul_div_cancel_left _ hs, place, hsum]
  rcases Nat.lt_or_ge q (k % n) with h | h
  · rw [Nat.mod_eq_of_lt (by omega : q + n - k % n < n),
      show k % n + (q + n - k % n) = q + n by omega,
      Nat.add_mod_right, Nat.mod_eq_of_lt hq, Nat.mul_comm]
  · rw [show q + n - k % n = q - k % n + n by omega, Nat.add_mod_right,
      Nat.mod_eq_of_lt (by omega : q - k % n < n),
      show k % n + (q - k % n) = q by omega, Nat.mod_eq_of_lt hq, Nat.mul_comm]

end

/-! ## What the slots hold -/

structure Holds {α : Type} (n : Nat) (slots : Nat → α) (k : Nat) (l : List α) : Prop where
  fits : l.length ≤ n
  entry : ∀ i a, l[i]? = some a → slots ((k + i) % n) = a

namespace Holds
variable {α : Type} {n : Nat} {slots : Nat → α} {k : Nat} {l : List α}

theorem nil (slots : Nat → α) (k : Nat) : Holds n slots k [] :=
  ⟨Nat.zero_le n, fun i a h => by simp at h⟩

theorem head {a : α} (h : Holds n slots k (a :: l)) : slots (k % n) = a := h.entry 0 a rfl

theorem tail {a : α} (h : Holds n slots k (a :: l)) : Holds n slots (k + 1) l := by
  refine ⟨by have := h.fits; rw [List.length_cons] at this; omega, fun i b hb => ?_⟩
  rw [show k + 1 + i = k + (i + 1) by omega]
  exact h.entry (i + 1) b hb

theorem drop (h : Holds n slots k l) : ∀ m, m ≤ l.length → Holds n slots (k + m) (l.drop m)
  | 0, _ => h
  | m + 1, hm => by
    have ih := h.drop m (by omega)
    rw [List.drop_eq_getElem_cons (by omega)] at ih
    exact ih.tail

/-- A slot behind the entries is free to write. -/
theorem push (h : Holds n slots k l) (hl : l.length < n) (a : α) :
    Holds n (Function.update slots ((k + l.length) % n) a) k (l ++ [a]) := by
  refine ⟨by simp; omega, fun i b hb => ?_⟩
  rcases Nat.lt_trichotomy i l.length with hi | rfl | hi
  · have hne : (k + i) % n ≠ (k + l.length) % n := fun he =>
      absurd (place_inj Nat.one_pos (hi.trans hl) hl (by rw [place, place, he])) (Nat.ne_of_lt hi)
    rw [Function.update_of_ne hne]
    rw [List.getElem?_append_left hi] at hb
    exact h.entry i b hb
  · rw [Function.update_self]
    simpa using hb
  · rw [List.getElem?_eq_none (by simp; omega)] at hb
    cases hb

/-- Rewriting the slots of the entries, one by one. -/
theorem map (h : Holds n slots k l) {f : α → α} {slots' : Nat → α}
    (hf : ∀ i, i < l.length → slots' ((k + i) % n) = f (slots ((k + i) % n))) :
    Holds n slots' k (l.map f) := by
  refine ⟨by simpa using h.fits, fun i b hb => ?_⟩
  rw [List.getElem?_map] at hb
  obtain ⟨a, ha, rfl⟩ := Option.map_eq_some_iff.mp hb
  have hi : i < l.length := (List.getElem?_eq_some_iff.mp ha).1
  rw [hf i hi, h.entry i a ha]

end Holds
end Sp11Touch.Slots
