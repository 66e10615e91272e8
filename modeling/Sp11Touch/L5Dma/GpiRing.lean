import Mathlib.Data.Nat.Log
import Sp11Touch.Core.Slots
import Sp11Touch.L5Dma.GpiChannel
/-!
# The rings of a GPI instance (`gpi.c`)

`gpi_alloc_ring` rounds the length up to a power of two and aligns the base
to it inside a buffer of almost twice the size. Read and write pointer are
offsets from that base; `Ring.At n k d` says which entry of an unbounded
sequence they stand at, `k` and `k + d`.

**Results.**
* `allocRing_geometry`: whole entries, at least as many as asked for and fewer
  than twice as many, in an aligned part of the buffer.
* `Ring.At.avail`, `Ring.At.addElement`, `Ring.At.moveRp`: the pointer
  arithmetic of the ring is that of a queue.
-/
namespace Sp11Touch.Gpi
open Slots

/-! ## Geometry -/

/-- `1 << bit`, the length in bytes.
mirrors phase55/modules/gpi.c:1771-1778 (`gpi_alloc_ring`) -/
def ringLen (elements elSize : Nat) : Nat :=
  let len := elements * elSize
  let bit := Nat.log2 len
  if len % 2 ^ bit ≠ 0 then 2 ^ (bit + 1) else 2 ^ bit

/-- A ring, and where it lies. -/
structure RingMem where
  ring : Ring
  physAddr : Nat
  allocSize : Nat

/-- mirrors phase55/modules/gpi.c:1768-1814 (`gpi_alloc_ring`), with the buffer at `dmaHandle`;
`len` is a power of two, so `& ~(len - 1)` rounds down to a multiple of it -/
def allocRing (elements elSize dmaHandle : Nat) : RingMem :=
  let len := ringLen elements elSize
  { ring := ⟨0, 0, len, elSize⟩
    physAddr := (dmaHandle + (len - 1)) / len * len
    allocSize := len + (len - 1) }

theorem ringLen_bounds {elements elSize : Nat} (h : 0 < elements * elSize) :
    elements * elSize ≤ ringLen elements elSize ∧
    ringLen elements elSize < 2 * (elements * elSize) ∧
      ∃ bit, ringLen elements elSize = 2 ^ bit := by
  unfold ringLen
  generalize elements * elSize = len at h
  have hlo : 2 ^ Nat.log2 len ≤ len := Nat.log2_self_le (by omega)
  have hhi : len < 2 ^ (Nat.log2 len + 1) := Nat.lt_log2_self
  have hsucc : 2 ^ (Nat.log2 len + 1) = 2 ^ Nat.log2 len * 2 := Nat.pow_succ _ _
  simp only
  split
  · next hmod =>
    have hne : 2 ^ Nat.log2 len ≠ len := fun he => hmod (by rw [he, Nat.mod_self])
    exact ⟨by omega, by omega, Nat.log2 len + 1, rfl⟩
  · next hmod =>
    -- a multiple of the power, below the next one
    obtain ⟨m, hm⟩ := Nat.dvd_of_mod_eq_zero (not_not.mp hmod)
    generalize hp : 2 ^ Nat.log2 len = power at hm hlo hhi hsucc
    have hm2 : m < 2 := Nat.lt_of_mul_lt_mul_left (a := power) (by omega)
    have hm0 : m ≠ 0 := by rintro rfl; omega
    have hm1 : m = 1 := by omega
    subst hm1
    exact ⟨by omega, by omega, Nat.log2 len, hp.symm⟩

/-- A ring of `n` entries in its buffer. -/
structure Fits (mem : RingMem) (n elSize dmaHandle : Nat) : Prop where
  len : mem.ring.len = n * elSize
  elSize : mem.ring.elSize = elSize
  aligned : mem.ring.len ∣ mem.physAddr
  start : dmaHandle ≤ mem.physAddr
  finish : mem.physAddr + mem.ring.len ≤ dmaHandle + mem.allocSize

theorem allocRing_geometry (elements k dmaHandle : Nat) (h : 0 < elements) :
    ∃ n, elements ≤ n ∧ n < 2 * elements ∧ Fits (allocRing elements (2 ^ k) dmaHandle)
    n (2 ^ k) dmaHandle := by
  have hk : 0 < 2 ^ k := Nat.two_pow_pos k
  obtain ⟨hlo, hhi, bit, hbit⟩ := ringLen_bounds (Nat.mul_pos h hk)
  have hdvd : 2 ^ k ∣ ringLen elements (2 ^ k) := by
    rw [hbit]
    refine Nat.pow_dvd_pow 2 ((Nat.pow_le_pow_iff_right (by omega : 1 < 2)).mp ?_)
    rw [← hbit]
    exact (Nat.le_mul_of_pos_left _ h).trans hlo
  obtain ⟨n, hn⟩ := hdvd
  rw [Nat.mul_comm] at hn
  refine ⟨n, Nat.le_of_mul_le_mul_right (hn ▸ hlo) hk, Nat.lt_of_mul_lt_mul_right (a := 2 ^ k) ?_,
    hn, rfl, ?_, ?_, ?_⟩
  · rw [← hn, Nat.mul_assoc]
    exact hhi
  · exact Nat.dvd_mul_left _ _
  · have hpos : 0 < ringLen elements (2 ^ k) := by rw [hbit]; exact Nat.two_pow_pos bit
    have hmod := Nat.div_add_mod (dmaHandle + (ringLen elements (2 ^ k) - 1))
      (ringLen elements (2 ^ k))
    have hlt := Nat.mod_lt (dmaHandle + (ringLen elements (2 ^ k) - 1)) hpos
    simp only [allocRing]
    rw [Nat.mul_comm]
    omega
  · have hle := Nat.div_mul_le_self (dmaHandle + (ringLen elements (2 ^ k) - 1))
      (ringLen elements (2 ^ k))
    simp only [allocRing]
    omega

/-! ## Pointers -/

namespace Ring

/-- The read pointer is at entry `k`, the write pointer `d` entries on; there are `n` slots. -/
structure At (r : Ring) (n k d : Nat) : Prop where
  size : 0 < r.elSize
  len : r.len = n * r.elSize
  rp : r.rp = place n r.elSize k
  wp : r.wp = place n r.elSize (k + d)
  room : d < n

theorem next_eq (r : Ring) (p : Nat) : r.next p = Slots.advance r.len r.elSize p := rfl

variable {r : Ring} {n k d : Nat}

theorem At.pos (h : r.At n k d) : 0 < n := by have := h.room; omega

theorem At.next (h : r.At n k d) (j : Nat) : r.next (place n r.elSize j) =
    place n r.elSize (j + 1) := by
  rw [next_eq, h.len, advance_place h.pos h.size]

/-- `gpi_ring_num_elements_avail`: one entry always stays free. -/
theorem At.avail (h : r.At n k d) : r.avail = n - 1 - d := by
  have hfree := free_between h.size (k := k) h.room
  have hroom := h.room
  rw [← h.len, ← h.rp, ← h.wp] at hfree
  unfold Ring.avail
  split at hfree
  · next hlt => rw [if_pos hlt]; omega
  · next hge => rw [if_neg hge]; omega

theorem At.addElement (h : r.At n k d) (hd : d + 1 < n) : r.addElement.At n k (d + 1) := by
  have ha : ¬ r.avail ≤ 0 := by rw [h.avail]; omega
  unfold Ring.addElement
  rw [if_neg ha]
  exact ⟨h.size, h.len, h.rp, by rw [h.wp, h.next]; rfl, hd⟩

theorem At.full (h : r.At n k d) (hd : n ≤ d + 1) : r.addElement = r := by
  have ha : r.avail ≤ 0 := by rw [h.avail]; omega
  rw [Ring.addElement, if_pos ha]

/-- The read pointer moves on by `j` entries. -/
theorem At.moveRp (h : r.At n k d) {j : Nat} (hj : j ≤ d) :
    { r with rp := place n r.elSize (k + j) }.At n (k + j) (d - j) := by
  refine ⟨h.size, h.len, rfl, ?_, by have := h.room; omega⟩
  rw [show k + j + (d - j) = k + d by omega]
  exact h.wp

/-- mirrors phase55/modules/gpi.c:1743-1757 (`gpi_ring_recycle_ev_element`) -/
def recycleEvElement (r : Ring) : Ring := { r with wp := r.next r.wp, rp := r.next r.rp }

theorem At.recycle (h : r.At n k d) : r.recycleEvElement.At n (k + 1) d :=
  ⟨h.size, h.len, by rw [recycleEvElement, h.rp, h.next], by
    rw [recycleEvElement, h.wp, h.next, show k + 1 + d = k + d + 1 by omega], h.room⟩

theorem At.reset (h : r.At n k d) : { r with rp := 0, wp := 0 }.At n 0 0 :=
  ⟨h.size, h.len, by simp [place], by simp [place], h.pos⟩

end Ring
end Sp11Touch.Gpi
