import Sp11Touch.Core.LTS
import Sp11Touch.L2Pipeline.TrackFits
import Sp11Touch.L2Pipeline.TrackerOracle
import Mathlib.Order.Interval.Set.UnorderedInterval
import Mathlib.Order.Lattice.Nat
/-!
# The coordinate filter settles at the finger (`g6ts_filter_coordinate`)

The three bands pull the output by a quarter, by three quarters or all the way
to the sample. None of them passes it, and only the stationary band can leave
an output where it is: one unit below the sample, or up to two above it. Held
on one sample, the output goes there without turning back.
-/
namespace Sp11Touch
open CInt

/-- The reference's `_smooth` computes the same on all 16-bit positions. -/
theorem filterCoordinate_eq_smooth {previous sample : Nat} (hp : previous < 2 ^ 16)
    (hs : sample < 2 ^ 16) :
    filterCoordinate previous sample = Oracle.smooth previous sample := by
  have hstill : (3 * previous + (4 - 3) * sample + 4 / 2) / 4 =
    (3 * previous + sample + 2) / 4 := by omega
  have hslow : (1 * previous + (4 - 1) * sample + 4 / 2) / 4 =
    (previous + 3 * sample + 2) / 4 := by omega
  rw [filterCoordinate_eq hp hs]
  unfold Oracle.smooth
  simp only [hstill, hslow]

section Bands

variable {previous sample : Nat} (hp : previous < 2 ^ 16) (hs : sample < 2 ^ 16)
include hp hs

theorem filterCoordinate_below (h : previous ≤ sample) :
    previous ≤ filterCoordinate previous sample ∧ filterCoordinate previous sample ≤ sample := by
  rw [filterCoordinate_eq hp hs]
  split
  · omega
  split
  · omega
  · exact ⟨h, Nat.le_refl sample⟩

theorem filterCoordinate_above (h : sample ≤ previous) :
    filterCoordinate previous sample ≤ previous ∧ sample ≤ filterCoordinate previous sample := by
  rw [filterCoordinate_eq hp hs]
  split
  · omega
  split
  · omega
  · exact ⟨h, Nat.le_refl sample⟩

theorem filterCoordinate_lt : filterCoordinate previous sample < 2 ^ 16 := by
  rcases Nat.le_total previous sample with h | h
  · have := filterCoordinate_below hp hs h
    omega
  · have := filterCoordinate_above hp hs h
    omega

/-- Every move shortens the distance. -/
theorem filterCoordinate_moves : filterCoordinate previous sample = previous ∨
    ((filterCoordinate previous sample : Int) - sample).natAbs <
    ((previous : Int) - sample).natAbs := by
  rcases Nat.le_total previous sample with h | h
  · have := filterCoordinate_below hp hs h
    omega
  · have := filterCoordinate_above hp hs h
    omega

/-- The output rests only within two units of the sample. -/
theorem filterCoordinate_rests (h : filterCoordinate previous sample = previous) :
    ((previous : Int) - sample).natAbs ≤ 2 := by
  rw [filterCoordinate_eq hp hs] at h
  split at h
  · omega
  split at h
  · omega
  · omega

end Bands

/-- What one call does to the error. -/
structure Approaches (previous sample output : Nat) : Prop where
  between : output ∈ Set.uIcc previous sample
  shorter : ((output : Int) - sample).natAbs ≤ ((previous : Int) - sample).natAbs
  sign : 0 ≤ ((output : Int) - sample) * ((previous : Int) - sample)

theorem filterCoordinate_approaches {previous sample : Nat} (hp : previous < 2 ^ 16)
    (hs : sample < 2 ^ 16) :
    Approaches previous sample (filterCoordinate previous sample) := by
  rcases Nat.le_total previous sample with h | h
  · have hb := filterCoordinate_below hp hs h
    exact ⟨Set.mem_uIcc.mpr (Or.inl hb), by omega,
      Int.mul_nonneg_of_nonpos_of_nonpos (by omega) (by omega)⟩
  · have ha := filterCoordinate_above hp hs h
    exact ⟨Set.mem_uIcc.mpr (Or.inr ha.symm), by omega, Int.mul_nonneg (by omega) (by omega)⟩

/-- The outputs under a constant sample. -/
def filterOrbit (previous sample : Nat) (n : Nat) : Nat :=
  (fun output => filterCoordinate output sample)^[n] previous

structure Settles (previous sample : Nat) : Prop where
  monotone : Monotone (filterOrbit previous sample) ∨ Antitone (filterOrbit previous sample)
  rests : ∃ N limit, (∀ n, N ≤ n → filterOrbit previous sample n = limit) ∧
    ((limit : Int) - sample).natAbs ≤ 2

theorem filterOrbit_settles {previous sample : Nat} (hp : previous < 2 ^ 16)
    (hs : sample < 2 ^ 16) :
    Settles previous sample := by
  have hkeep : ∀ output, output < 2 ^ 16 → filterCoordinate output sample < 2 ^ 16 :=
    fun _ h => filterCoordinate_lt h hs
  refine ⟨?_, ?_⟩
  · rcases Nat.le_total previous sample with h | h
    · have hstep : ∀ output, output ≤ sample →
        _ := fun output hle => filterCoordinate_below (hle.trans_lt hs) hs hle
      exact Or.inl (orbit_monotone (fun output hle => (hstep output hle).2)
        (fun output hle => (hstep output hle).1) h)
    · have hstep : ∀ output, output < 2 ^ 16 ∧ sample ≤ output →
        _ := fun output ho => filterCoordinate_above ho.1 hs ho.2
      exact Or.inr (orbit_antitone (fun output ho => ⟨hkeep output ho.1, (hstep output ho).2⟩)
        (fun output ho => (hstep output ho).1) ⟨hp, h⟩)
  · obtain ⟨N, hN⟩ := iterate_settles (fun output : Nat => ((output : Int) - sample).natAbs) hkeep
      (fun _ h => filterCoordinate_moves h hs) hp
    exact ⟨N, filterOrbit previous sample N, fun n hle => iterate_rests hN hle,
      filterCoordinate_rests (iterate_keeps hkeep hp N) hs hN⟩

/-- One call, a constant sample for ever, and the reference, on all 16-bit values. -/
theorem filterCoordinate_law (previous sample : UInt16) :
    Approaches previous.toNat sample.toNat (filterCoordinate previous.toNat sample.toNat) ∧
    Settles previous.toNat sample.toNat ∧
    filterCoordinate previous.toNat sample.toNat = Oracle.smooth previous.toNat sample.toNat :=
  ⟨filterCoordinate_approaches previous.toNat_lt sample.toNat_lt,
    filterOrbit_settles previous.toNat_lt sample.toNat_lt,
    filterCoordinate_eq_smooth previous.toNat_lt sample.toNat_lt⟩

end Sp11Touch
