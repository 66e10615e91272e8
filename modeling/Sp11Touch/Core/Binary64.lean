import Mathlib.Algebra.Order.Field.Power
import Mathlib.Data.Int.Log
import Mathlib.Data.Nat.Log
import Mathlib.Data.Rat.Floor
import Mathlib.Tactic.Linarith
import Mathlib.Tactic.Positivity
/-!
# Binary64 results

A binary64 operation returns the nearest number of 53 significant bits to its
exact result, ties to even: `fl`. Overflow and underflow are left out, so the
magnitudes are meant to be `0` or between `2 ^ -1022` and `2 ^ 1024`.

A number of at most 53 bits is its own result (`fl_exact`); any other is off by
one part in `2 ^ 53` (`fl_error`), so a comparison that the exact values decide
by more than that is decided the same way on the results.

On an integer number of units of one power of two the result is `round` of that
integer, in the same units (`fl_units`), and `round` evaluates.
-/
namespace Sp11Touch.Binary64

/-- The nearest integer, ties to even. -/
def nearest (q : ℚ) : ℤ :=
  if q - ⌊q⌋ < 1 / 2 ∨ q - ⌊q⌋ = 1 / 2 ∧ ⌊q⌋ % 2 = 0 then ⌊q⌋ else ⌊q⌋ + 1

/-- The distance between neighbouring results at the magnitude of `x`. -/
def ulp (x : ℚ) : ℚ := 2 ^ (Int.log 2 |x| - 52)

def fl (x : ℚ) : ℚ := nearest (x / ulp x) * ulp x

/-- Conversion to an integer: towards zero. -/
def truncate (x : ℚ) : ℤ := if 0 ≤ x then ⌊x⌋ else ⌈x⌉

theorem truncate_eq {x : ℚ} (hx : 0 ≤ x) : truncate x = ⌊x⌋ := if_pos hx

theorem nearest_error (q : ℚ) : |(nearest q : ℚ) - q| ≤ 1 / 2 := by
  have hlow := Int.floor_le q
  have hhigh := Int.lt_floor_add_one q
  unfold nearest
  split
  · next hdown =>
    rw [abs_le]
    rcases hdown with h | h
    · exact ⟨by linarith, by linarith⟩
    · exact ⟨by linarith [h.1], by linarith⟩
  · next hup =>
    have hge : 1 / 2 ≤ q - ⌊q⌋ := not_lt.mp fun h => hup (Or.inl h)
    push_cast
    rw [abs_le]
    exact ⟨by linarith, by linarith⟩

theorem nearest_intCast (n : ℤ) : nearest (n : ℚ) = n := by
  unfold nearest
  simp

theorem ulp_pos (x : ℚ) : 0 < ulp x := by
  unfold ulp
  positivity

/-- A unit is at most one part in `2 ^ 52`. -/
theorem ulp_le {x : ℚ} (hx : x ≠ 0) : ulp x * 2 ^ 52 ≤ |x| := by
  have hlog := Int.zpow_log_le_self (b := 2) (by norm_num) (abs_pos.mpr hx)
  have hsplit : ulp x * 2 ^ 52 = (2 : ℚ) ^ Int.log 2 |x| := by
    unfold ulp
    rw [← zpow_natCast, ← zpow_add₀ (by norm_num)]
    congr 1
    norm_num
  rw [hsplit]
  exact_mod_cast hlog

theorem fl_zero : fl 0 = 0 := by
  unfold fl
  rw [zero_div]
  simp [nearest]

theorem fl_error (x : ℚ) : |fl x - x| ≤ |x| / 2 ^ 53 := by
  rcases eq_or_ne x 0 with rfl | hx
  · simp [fl_zero]
  have hpos := ulp_pos x
  have hdiff : fl x - x = (nearest (x / ulp x) - x / ulp x) * ulp x := by
    unfold fl
    rw [sub_mul, div_mul_cancel₀ x hpos.ne']
  calc |fl x - x|
      = |(nearest (x / ulp x) : ℚ) - x / ulp x| * ulp x := by rw [hdiff, abs_mul, abs_of_pos hpos]
    _ ≤ 1 / 2 * ulp x := mul_le_mul_of_nonneg_right (nearest_error _) hpos.le
    _ ≤ |x| / 2 ^ 53 := by linarith [ulp_le hx]

/-- The error where a bound of the magnitude is known. -/
theorem fl_near {x b : ℚ} (h : |x| ≤ b) : |fl x - x| ≤ b / 2 ^ 53 :=
  (fl_error x).trans (div_le_div_of_nonneg_right h (by positivity))

/-- An integer of at most 53 bits times a power of two is a result. -/
theorem fl_exact {m : ℤ} {k : ℤ} (hm : |m| < 2 ^ 53) : fl (m * 2 ^ k) = m * 2 ^ k := by
  rcases eq_or_ne m 0 with rfl | hm0
  · rw [Int.cast_zero, zero_mul, fl_zero]
  have hpos : (0 : ℚ) < |(m : ℚ) * 2 ^ k| := abs_pos.mpr
    (mul_ne_zero (Int.cast_ne_zero.mpr hm0) (by positivity))
  have hlt : |(m : ℚ) * 2 ^ k| < (2 : ℚ) ^ (53 + k) := by
    rw [abs_mul, abs_of_pos (show (0 : ℚ) < 2 ^ k by positivity), zpow_add₀ (by norm_num)]
    exact mul_lt_mul_of_pos_right (by exact_mod_cast hm) (by positivity)
  have hlog : Int.log 2 |(m : ℚ) * 2 ^ k| < 53 + k := by
    refine (Int.lt_zpow_iff_log_lt (by norm_num) hpos).mp ?_
    exact_mod_cast hlt
  obtain ⟨d, hd⟩ := Int.eq_ofNat_of_zero_le (show 0 ≤
    k - (Int.log 2 |(m : ℚ) * 2 ^ k| - 52) by omega)
  have hquot : (m : ℚ) * 2 ^ k / ulp (m * 2 ^ k) = ((m * 2 ^ d : ℤ) : ℚ) := by
    unfold ulp
    rw [mul_div_assoc, ← zpow_sub₀ (by norm_num), hd]
    push_cast
    rw [zpow_natCast]
  unfold fl
  rw [hquot, nearest_intCast, ← hquot, div_mul_cancel₀ _ (ulp_pos _).ne']

/-- A half-integer is a result. -/
theorem fl_half {m : ℤ} (hm : |m| < 2 ^ 53) : fl (m / 2) = m / 2 := by
  have h := fl_exact (k := -1) hm
  rwa [zpow_neg_one, ← div_eq_mul_inv] at h

theorem fl_int {m : ℤ} (hm : |m| < 2 ^ 53) : fl m = m := by
  have h := fl_exact (k := 0) hm
  rwa [zpow_zero, mul_one] at h

theorem nearest_neg (q : ℚ) : nearest (-q) = -nearest q := by
  rcases eq_or_ne q ⌊q⌋ with heq | hne
  · have hneg : -q = ((-⌊q⌋ : ℤ) : ℚ) := by
      rw [Int.cast_neg, ← heq]
    rw [hneg, nearest_intCast]
    nth_rewrite 2 [heq]
    rw [nearest_intCast]
  · have hlow := lt_of_le_of_ne (Int.floor_le q) hne.symm
    have hhigh := Int.lt_floor_add_one q
    have hfloor : ⌊-q⌋ = -⌊q⌋ - 1 := by
      rw [Int.floor_eq_iff]
      push_cast
      exact ⟨by linarith, by linarith⟩
    have hparity : (-⌊q⌋ - 1) % 2 = 0 ↔ ¬ ⌊q⌋ % 2 = 0 := by omega
    have hrest : -q - ((-⌊q⌋ - 1 : ℤ) : ℚ) = 1 - (q - ⌊q⌋) := by
      push_cast
      ring
    unfold nearest
    simp only [hfloor, hparity, hrest]
    generalize q - ⌊q⌋ = r
    rcases lt_trichotomy r (1 / 2) with hlt | rfl | hgt
    · have hup : ¬ (1 - r < 1 / 2 ∨ 1 - r = 1 / 2 ∧ ¬ ⌊q⌋ % 2 = 0) := by
        rintro (h | h)
        · linarith
        · linarith [h.1]
      rw [if_neg hup, if_pos (Or.inl hlt), sub_add_cancel]
    · by_cases heven : ⌊q⌋ % 2 = 0 <;> norm_num [heven]
      ring
    · have hdown : ¬ (r < 1 / 2 ∨ r = 1 / 2 ∧ ⌊q⌋ % 2 = 0) := by
        rintro (h | h)
        · linarith
        · linarith [h.1]
      rw [if_neg hdown, if_pos (Or.inl (by linarith)), neg_add']

/-- The nearest integer to a quotient, by its remainder. -/
theorem nearest_div (n : ℕ) {s : ℕ} (hs : 0 < s) : nearest ((n : ℚ) / s) =
    (if 2 * (n % s) < s ∨ 2 * (n % s) = s ∧ n / s % 2 = 0 then n / s else n / s + 1 : ℕ) := by
  have hs0 : (0 : ℚ) < s := Nat.cast_pos.mpr hs
  have hfloor : ⌊(n : ℚ) / s⌋ = (n / s : ℕ) := Rat.floor_natCast_div_natCast n s
  have hrest : (n : ℚ) / s - ((n / s : ℕ) : ℤ) = (n % s : ℕ) / s := by
    have hnat : (n : ℚ) = s * (n / s : ℕ) + (n % s : ℕ) := by
      exact_mod_cast (Nat.div_add_mod n s).symm
    rw [Int.cast_natCast, sub_eq_iff_eq_add, div_eq_iff hs0.ne', add_mul, div_mul_cancel₀ _ hs0.ne']
    linarith
  have hlt : ((n % s : ℕ) : ℚ) / s < 1 / 2 ↔ 2 * (n % s) < s := by
    rw [div_lt_div_iff₀ hs0 (by norm_num), one_mul]
    norm_cast
    rw [Nat.mul_comm]
  have heq : ((n % s : ℕ) : ℚ) / s = 1 / 2 ↔ 2 * (n % s) = s := by
    rw [div_eq_div_iff hs0.ne' (by norm_num), one_mul]
    norm_cast
    rw [Nat.mul_comm]
  have heven : ((n / s : ℕ) : ℤ) % 2 = 0 ↔ n / s % 2 = 0 := by omega
  unfold nearest
  simp only [hfloor, hrest, hlt, heq, heven]
  split <;> push_cast <;> rfl

theorem fl_neg (x : ℚ) : fl (-x) = -fl x := by
  have hulp : ulp (-x) = ulp x := by
    unfold ulp
    rw [abs_neg]
  unfold fl
  rw [hulp, neg_div, nearest_neg, Int.cast_neg, neg_mul]

theorem ulp_mul {x : ℚ} (hx : x ≠ 0) (k : ℤ) : ulp (x * 2 ^ k) = ulp x * 2 ^ k := by
  have hpow : (0 : ℚ) < 2 ^ k := by positivity
  have hlog : Int.log 2 (|x| * 2 ^ k) = Int.log 2 |x| + k := by
    have hlow := Int.zpow_log_le_self (b := 2) (by norm_num) (abs_pos.mpr hx)
    have hhigh := Int.lt_zpow_succ_log_self (b := 2) (by norm_num) |x|
    have hpos := mul_pos (abs_pos.mpr hx) hpow
    apply le_antisymm
    · refine Int.lt_add_one_iff.mp ((Int.lt_zpow_iff_log_lt (by norm_num) hpos).mp ?_)
      rw [add_right_comm, zpow_add₀ (by norm_num)]
      exact mul_lt_mul_of_pos_right hhigh hpow
    · refine (Int.zpow_le_iff_le_log (by norm_num) hpos).mp ?_
      rw [zpow_add₀ (by norm_num)]
      exact mul_le_mul_of_nonneg_right hlow hpow.le
  unfold ulp
  rw [abs_mul, abs_of_pos hpow, hlog, ← zpow_add₀ (by norm_num)]
  congr 1
  ring

/-- A power of two moves the exponent only. -/
theorem fl_mul (x : ℚ) (k : ℤ) : fl (x * 2 ^ k) = fl x * 2 ^ k := by
  rcases eq_or_ne x 0 with rfl | hx
  · rw [zero_mul, fl_zero, zero_mul]
  · have hpow : (2 : ℚ) ^ k ≠ 0 := by positivity
    unfold fl
    rw [ulp_mul hx, mul_div_mul_right _ _ hpow, mul_assoc]

/-! ## Units of one power of two -/

/-- The magnitude. -/
def roundMagnitude (n : Nat) : Nat :=
  if n < 2 ^ 53 then n else
    let step := 2 ^ (n.log2 - 52)
    let quotient := n / step
    let rest := n % step
    (if 2 * rest < step ∨ 2 * rest = step ∧ quotient % 2 = 0 then quotient else quotient + 1) * step

def round (x : Int) : Int := if x < 0 then -(roundMagnitude x.natAbs : Int)
    else roundMagnitude x.natAbs

/-- `a - b` -/
def sub (a b : Int) : Int := round (a - b)

/-- The integer is a binary64 number. -/
def Exact (x : Int) : Prop := round x = x

instance (x : Int) : Decidable (Exact x) := inferInstanceAs (Decidable (round x = x))

theorem exact_of_lt {x : Int} (h : x.natAbs < 2 ^ 53) : Exact x := by
  unfold Exact round roundMagnitude
  rw [if_pos h]
  split <;> omega

theorem sub_of_exact {a b : Int} (h : Exact (a - b)) : sub a b = a - b := h

theorem fl_natCast (n : ℕ) : fl n = roundMagnitude n := by
  unfold roundMagnitude
  split
  · next hlt => exact fl_int (m := n) (by rw [abs_lt]; omega)
  · next hge =>
    have hn : n ≠ 0 := by omega
    have hlog : 52 ≤ n.log2 := (Nat.le_log2 hn).mpr (Nat.le_trans (by norm_num) (not_lt.mp hge))
    have hulp : ulp (n : ℚ) = ((2 ^ (n.log2 - 52) : ℕ) : ℚ) := by
      unfold ulp
      rw [abs_of_nonneg (Nat.cast_nonneg n), Int.log_natCast, ← Nat.log2_eq_log_two, Nat.cast_pow,
        ← zpow_natCast,
        Nat.cast_sub hlog]
      rfl
    unfold fl
    rw [hulp, nearest_div n (Nat.two_pow_pos _)]
    push_cast
    rfl

theorem fl_intCast (x : ℤ) : fl x = round x := by
  unfold round
  split
  · next hneg =>
    have hx : (x : ℚ) = -((x.natAbs : ℕ) : ℚ) := by
      rw [← Int.cast_natCast, ← Int.cast_neg]
      congr 1
      omega
    rw [hx, fl_neg, fl_natCast, Int.cast_neg, Int.cast_natCast]
  · next hnonneg =>
    have hx : (x : ℚ) = ((x.natAbs : ℕ) : ℚ) := by
      rw [← Int.cast_natCast]
      congr 1
      omega
    rw [hx, fl_natCast, Int.cast_natCast]

theorem fl_units (x k : ℤ) : fl (x * 2 ^ k) = round x * 2 ^ k := by
  rw [fl_mul, fl_intCast]

/-- A difference in units. -/
theorem fl_sub (a b k : ℤ) : fl (a * 2 ^ k - b * 2 ^ k) = sub a b * 2 ^ k := by
  rw [← sub_mul, ← Int.cast_sub, fl_units]
  rfl

end Sp11Touch.Binary64
