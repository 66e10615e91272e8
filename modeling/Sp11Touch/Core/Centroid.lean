import Sp11Touch.Core.Binary64
import Mathlib.Algebra.Order.Group.Nat
import Mathlib.Tactic.Ring
/-!
# Weighted means

Cells at positions `lo .. hi` are added up by weight. `Weighed lo hi w s` says
what the total weight `w` and the weighted sum `s` keep: `s` lies between
`lo * w` and `hi * w`. So the mean in any scale, `s * m / (w * d)`, lies between
the scaled ends of the range (`Weighed.le_mean`, `Weighed.mean_le`).

The same mean in binary64 arithmetic is cut off to the integer one
(`floor_mean`), or in a scale to one less where no rest is left
(`truncate_scaled`).
-/
namespace Sp11Touch

structure Weighed (lo hi weight sum : Nat) : Prop where
  low : lo * weight ≤ sum
  high : sum ≤ hi * weight

namespace Weighed
variable {lo hi weight sum : Nat}

theorem zero (lo hi : Nat) : Weighed lo hi 0 0 := ⟨Nat.le_refl _, Nat.zero_le _⟩

theorem widen {lo' hi' : Nat} (h : Weighed lo hi weight sum) (hl : lo' ≤ lo) (hh : hi ≤ hi') :
    Weighed lo' hi' weight sum :=
  ⟨Nat.le_trans (Nat.mul_le_mul_right weight hl) h.low,
    Nat.le_trans h.high (Nat.mul_le_mul_right weight hh)⟩

/-- One more cell, inside the range. -/
theorem add {pos w : Nat} (h : Weighed lo hi weight sum) (hl : lo ≤ pos) (hh : pos ≤ hi) :
    Weighed lo hi (weight + w) (sum + pos * w) := by
  refine ⟨?_, ?_⟩
  · rw [Nat.mul_add]
    exact Nat.add_le_add h.low (Nat.mul_le_mul_right w hl)
  · rw [Nat.mul_add]
    exact Nat.add_le_add h.high (Nat.mul_le_mul_right w hh)

/-- One more cell, the range grown to hold it. -/
theorem addMinMax (pos w : Nat) (h : Weighed lo hi weight sum) :
    Weighed (min lo pos) (max hi pos) (weight + w) (sum + pos * w) :=
  (h.widen (Nat.min_le_left lo pos) (Nat.le_max_left hi pos)).add (Nat.min_le_right lo pos)
    (Nat.le_max_right hi pos)

theorem le_mean {d : Nat} (m : Nat) (h : Weighed lo hi weight sum) (hw : 0 < weight) (hd : 0 < d) :
    lo * m / d ≤ sum * m / (weight * d) := by
  rw [Nat.le_div_iff_mul_le (Nat.mul_pos hw hd)]
  calc lo * m / d * (weight * d) = lo * m / d * d * weight := by ring
    _ ≤ lo * m * weight := Nat.mul_le_mul_right weight (Nat.div_mul_le_self (lo * m) d)
    _ = lo * weight * m := by ring
    _ ≤ sum * m := Nat.mul_le_mul_right m h.low

theorem mean_le {d : Nat} (m : Nat) (h : Weighed lo hi weight sum) (hw : 0 < weight) (hd : 0 < d) :
    sum * m / (weight * d) ≤ hi * m / d := by
  rw [Nat.le_div_iff_mul_le hd, ← Nat.mul_le_mul_right_iff hw]
  calc sum * m / (weight * d) * d * weight = sum * m / (weight * d) * (weight * d) := by ring
    _ ≤ sum * m := Nat.div_mul_le_self (sum * m) (weight * d)
    _ ≤ hi * weight * m := Nat.mul_le_mul_right m h.high
    _ = hi * m * weight := by ring

end Weighed

namespace Binary64

/-! ## In binary64 -/

/-- Rounding a quotient by adding a half and cutting off agrees with the division of integers. -/
theorem floor_mean {w d : ℕ} (hd : 0 < d) (hfit : d ≤ 2 ^ 32) (hw : w ≤ 2 ^ 10 * d) :
    ⌊fl (fl ((w : ℚ) / d) + 1 / 2)⌋ = ((w + d / 2) / d : ℕ) := by
  have hd0 : (0 : ℚ) < d := Nat.cast_pos.mpr hd
  have hq0 : (0 : ℚ) ≤ w / d := by positivity
  have hq : (w : ℚ) / d ≤ 2 ^ 10 := by
    rw [div_le_iff₀ hd0]
    exact_mod_cast hw
  -- the quotient is a half-integer, or further from the next one than the errors reach
  have hstep : (1 : ℚ) / 2 ^ 33 ≤ 1 / (2 * d) := by
    apply one_div_le_one_div_of_le (by positivity)
    have : (d : ℚ) ≤ 2 ^ 32 := by exact_mod_cast hfit
    linarith
  have herr := fl_near (show |(w : ℚ) / d| ≤ 2 ^ 10 by rwa [abs_of_nonneg hq0])
  rw [abs_le] at herr
  have hsum : |fl ((w : ℚ) / d) + 1 / 2| ≤ 2 ^ 11 := by
    rw [abs_le]
    constructor <;> linarith [herr.1, herr.2]
  have herr' := fl_near hsum
  rw [abs_le] at herr'
  have hlow : (w + d / 2) / d * d ≤ w + d / 2 := Nat.div_mul_le_self _ _
  have hhigh : w + d / 2 < d * ((w + d / 2) / d + 1) := Nat.lt_mul_div_succ _ hd
  generalize (w + d / 2) / d = n at *
  have hnext : (w : ℚ) / d + 1 / 2 + 1 / (2 * d) ≤ n + 1 := by
    have hnat : 2 * w + d + 1 ≤ 2 * (d * (n + 1)) := by omega
    have hcast : (2 * w + d + 1 : ℚ) ≤ 2 * (d * (n + 1)) := by exact_mod_cast hnat
    have hsum' : (w : ℚ) / d + 1 / 2 + 1 / (2 * d) = (2 * w + d + 1) / (2 * d) := by field_simp
    rw [hsum', div_le_iff₀ (by positivity)]
    linarith
  have hbelow : (w : ℚ) / d + 1 / 2 = n ∨ (n : ℚ) + 1 / (2 * d) ≤ w / d + 1 / 2 := by
    have hnat : 2 * w + d = 2 * (n * d) ∨ 2 * (n * d) + 1 ≤ 2 * w + d := by omega
    rcases hnat with heq | hlt
    · have hcast : (2 * w + d : ℚ) = 2 * (n * d) := by exact_mod_cast heq
      left
      field_simp
      linarith
    · have hcast : (2 * (n * d) + 1 : ℚ) ≤ 2 * w + d := by exact_mod_cast hlt
      right
      have hleft : (n : ℚ) + 1 / (2 * d) = (2 * (n * d) + 1) / (2 * d) := by field_simp
      have hright : (w : ℚ) / d + 1 / 2 = (2 * w + d) / (2 * d) := by field_simp
      rw [hleft, hright]
      exact div_le_div_of_nonneg_right hcast (by positivity)
  rw [Int.floor_eq_iff]
  refine ⟨?_, ?_⟩
  · rcases hbelow with heq | hlt
    · have hn : n < 2 ^ 11 := by
        have : (n : ℚ) < 2 ^ 11 := by linarith
        exact_mod_cast this
      have hhalf : fl ((w : ℚ) / d) = w / d := by
        have hval : (w : ℚ) / d = ((2 * n - 1 : ℤ) : ℚ) / 2 := by
          push_cast
          linarith
        rw [hval]
        exact fl_half (by rw [abs_lt]; omega)
      have hint : fl ((n : ℤ) : ℚ) = (n : ℤ) := fl_int (by rw [abs_lt]; omega)
      rw [hhalf, heq]
      exact le_of_eq hint.symm
    · push_cast
      linarith [herr.1, herr'.1]
  · push_cast
    linarith [herr.2, herr'.2]

theorem fl_nonneg {x : ℚ} (h : 0 ≤ x) : 0 ≤ fl x := by
  have herr := abs_le.mp (fl_error x)
  rw [abs_of_nonneg h] at herr
  have hdiv : x / 2 ^ 53 ≤ x := div_le_self h (by norm_num)
  linarith [herr.1]

/-- Off by less than one part, a quotient of integers is cut off as they divide, or one less where they leave no rest. -/
theorem floor_close {a b : ℕ} {x e : ℚ} (hb : 0 < b) (he : e < 1 / b) (h : |x - a / b| ≤ e) :
    ⌊x⌋ = (a / b : ℕ) ∨ b ∣ a ∧ ⌊x⌋ + 1 = (a / b : ℕ) := by
  have hb0 : (0 : ℚ) < b := Nat.cast_pos.mpr hb
  have hone : (1 : ℚ) / b ≤ 1 := (div_le_one hb0).mpr (by exact_mod_cast hb)
  have hdiv : (a : ℚ) / b = (a / b : ℕ) + (a % b : ℕ) / b := by
    have hnat : (a : ℚ) = b * (a / b : ℕ) + (a % b : ℕ) := by
      exact_mod_cast (Nat.div_add_mod a b).symm
    rw [div_eq_iff hb0.ne', add_mul, div_mul_cancel₀ _ hb0.ne']
    linarith
  have hrest : ((a % b : ℕ) : ℚ) / b ≤ 1 - 1 / b := by
    have hlt : ((a % b : ℕ) : ℚ) + 1 ≤ b := by exact_mod_cast Nat.mod_lt a hb
    rw [div_le_iff₀ hb0, sub_mul, one_div_mul_cancel hb0.ne']
    linarith
  rw [hdiv, abs_le] at h
  have hdvd : a % b = 0 → b ∣ a := Nat.dvd_of_mod_eq_zero
  generalize a / b = n at *
  generalize a % b = r at *
  simp only [Int.floor_eq_iff, ← eq_sub_iff_add_eq]
  push_cast
  rcases Nat.eq_zero_or_pos r with rfl | hr
  · rw [Nat.cast_zero, zero_div, add_zero] at h
    rcases le_or_gt (n : ℚ) x with hge | hlt
    · exact Or.inl ⟨hge, by linarith [h.2]⟩
    · exact Or.inr ⟨hdvd rfl, by linarith [h.1], by linarith⟩
  · have hpos : (1 : ℚ) / b ≤ r / b := div_le_div_of_nonneg_right (by exact_mod_cast hr) hb0.le
    exact Or.inl ⟨by linarith [h.1], by linarith [h.2]⟩

/-- The three roundings of a scaled quotient. -/
theorem scaled_error {w s m d : ℕ} (hs : 0 < s) (hd : 0 < d) (hw : w ≤ 2 ^ 10 * s)
    (hm : m ≤ 2 ^ 15) :
    |fl (fl (fl ((w : ℚ) / s) * m) / d) - (w * m : ℕ) / (s * d : ℕ)| ≤ 1 / 2 ^ 25 := by
  have hs0 : (0 : ℚ) < s := Nat.cast_pos.mpr hs
  have hd1 : (1 : ℚ) ≤ d := by exact_mod_cast hd
  have hm0 : (0 : ℚ) ≤ m := Nat.cast_nonneg m
  have hm1 : (m : ℚ) ≤ 2 ^ 15 := by exact_mod_cast hm
  have hq0 : (0 : ℚ) ≤ w / s := by positivity
  have hq : (w : ℚ) / s ≤ 2 ^ 10 := by
    rw [div_le_iff₀ hs0]
    exact_mod_cast hw
  have herr1 := fl_near (show |(w : ℚ) / s| ≤ 2 ^ 10 by rwa [abs_of_nonneg hq0])
  generalize fl ((w : ℚ) / s) = q at herr1 ⊢
  have hscaled : |q * m - (w : ℚ) / s * m| ≤ 1 / 2 ^ 28 := by
    rw [← sub_mul, abs_mul, abs_of_nonneg hm0]
    calc |q - (w : ℚ) / s| * m ≤ 2 ^ 10 / 2 ^ 53 * 2 ^ 15 := mul_le_mul herr1 hm1 hm0 (by norm_num)
      _ = 1 / 2 ^ 28 := by norm_num
  have hmean0 : (0 : ℚ) ≤ w / s * m := mul_nonneg hq0 hm0
  have hmean : (w : ℚ) / s * m ≤ 2 ^ 25 := by
    calc (w : ℚ) / s * m ≤ 2 ^ 10 * 2 ^ 15 := mul_le_mul hq hm1 hm0 (by norm_num)
      _ = 2 ^ 25 := by norm_num
  rw [abs_le] at hscaled
  have herr2 := abs_le.mp (fl_near (show |q * m| ≤ 2 ^ 26 by rw [abs_le]; constructor <;> linarith))
  generalize fl (q * m) = p at herr2 ⊢
  have hp : |p / d - (w : ℚ) / s * m / d| ≤ 1 / 2 ^ 26 := by
    rw [← sub_div, abs_div, abs_of_pos (by linarith : (0 : ℚ) < d)]
    refine (div_le_self (abs_nonneg _) hd1).trans ?_
    rw [abs_le]
    constructor <;> linarith [herr2.1, herr2.2]
  have hexact : (w : ℚ) / s * m / d ≤ 2 ^ 25 := (div_le_self hmean0 hd1).trans hmean
  have hexact0 : (0 : ℚ) ≤ w / s * m / d := by positivity
  rw [abs_le] at hp
  have herr3 := abs_le.mp (fl_near (show |p / d| ≤
    2 ^ 26 by rw [abs_le]; constructor <;> linarith [hp.1, hp.2]))
  have hvalue : (w : ℚ) / s * m / d = (w * m : ℕ) / (s * d : ℕ) := by
    push_cast
    field_simp
  rw [← hvalue, abs_le]
  constructor <;> linarith [herr3.1, herr3.2, hp.1, hp.2]

theorem scaled_nonneg {w s m d : ℕ} : 0 ≤ fl (fl (fl ((w : ℚ) / s) * m) / d) := by
  have h1 : 0 ≤ fl ((w : ℚ) / s) := fl_nonneg (by positivity)
  have h2 : 0 ≤ fl (fl ((w : ℚ) / s) * m) := fl_nonneg (by positivity)
  exact fl_nonneg (by positivity)

/-- Scaling a quotient and cutting off agrees with the division of integers, or is one less where that leaves no rest. -/
theorem truncate_scaled {w s m d : ℕ} (hs : 0 < s) (hd : 0 < d) (hw : w ≤ 2 ^ 10 * s)
    (hm : m ≤ 2 ^ 15) (hfit : s * d < 2 ^ 25) :
    truncate (fl (fl (fl ((w : ℚ) / s) * m) / d)) = (w * m / (s * d) : ℕ) ∨
      s * d ∣ w * m ∧ truncate (fl (fl (fl ((w : ℚ) / s) * m) / d)) + 1 =
      (w * m / (s * d) : ℕ) := by
  have hsd : 0 < s * d := Nat.mul_pos hs hd
  rw [truncate_eq scaled_nonneg]
  exact floor_close hsd (one_div_lt_one_div_of_lt (Nat.cast_pos.mpr hsd) (by exact_mod_cast hfit))
    (scaled_error hs hd hw hm)

end Binary64
end Sp11Touch
