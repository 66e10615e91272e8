import Mathlib.Data.Nat.Sqrt
import Mathlib.Algebra.Group.Int.Defs
import Mathlib.Algebra.Group.Nat.Defs
/-!
# C integers and counted loops

Values are `Nat` or `Int`; a store into a narrower C type is an explicit
cast (`u16 (..)`, `s32 (..)`). Signed division truncates (`Int.tdiv`), a
signed right shift rounds down (`>>>`).

`loop n body` is `for (i = 0; i < n; i++)`; `loop_ind` is its invariant rule.
-/
namespace Sp11Touch.CInt

def u8 (n : Nat) : Nat := n % 2 ^ 8
def u16 (n : Nat) : Nat := n % 2 ^ 16
def u32 (n : Nat) : Nat := n % 2 ^ 32

def s16 (x : Int) : Int := (x + 2 ^ 15) % 2 ^ 16 - 2 ^ 15
def s32 (x : Int) : Int := (x + 2 ^ 31) % 2 ^ 32 - 2 ^ 31
def s64 (x : Int) : Int := (x + 2 ^ 63) % 2 ^ 64 - 2 ^ 63

def intMax : Int := 2 ^ 31 - 1
def s64Max : Int := 2 ^ 63 - 1
def s64Min : Int := -2 ^ 63

/-- `div_u64`: the divisor is a `u32`. -/
def divU64 (dividend divisor : Nat) : Nat := dividend / u32 divisor

/-- `int_sqrt64` -/
def intSqrt64 (x : Nat) : Nat := x.sqrt

theorem intSqrt64_eq {x r : Nat} (h : r * r ≤ x ∧ x < (r + 1) * (r + 1)) : intSqrt64 x = r :=
  (Nat.eq_sqrt.mpr h).symm

/-- `clamp_t` -/
def clamp (x lo hi : Int) : Int := if x < lo then lo else if hi < x then hi else x

/-- An in-range value is unchanged by its cast. -/
theorem s16_eq {x : Int} (h1 : -2 ^ 15 ≤ x) (h2 : x < 2 ^ 15) : s16 x = x := by
  unfold s16; omega

theorem s32_eq {x : Int} (h1 : -2 ^ 31 ≤ x) (h2 : x < 2 ^ 31) : s32 x = x := by
  unfold s32; omega

theorem s64_eq {x : Int} (h1 : s64Min ≤ x) (h2 : x ≤ s64Max) : s64 x = x := by
  unfold s64
  simp only [s64Min, s64Max] at h1 h2
  omega

theorem u16_eq {n : Nat} (h : n < 2 ^ 16) : u16 n = n := Nat.mod_eq_of_lt h

theorem u32_eq {n : Nat} (h : n < 2 ^ 32) : u32 n = n := Nat.mod_eq_of_lt h

/-- A divisor that `div_u64` takes whole. -/
structure Divisor (d : Nat) : Prop where
  pos : 0 < d
  fits : d < 2 ^ 32

theorem divU64_eq (n : Nat) {d : Nat} (h : Divisor d) : divU64 n d = n / d := by
  unfold divU64
  rw [u32_eq h.fits]

section loops
variable {σ : Type}

def loop : Nat → (Nat → σ → σ) → σ → σ
  | 0, _, s => s
  | n + 1, body, s => body n (loop n body s)

theorem loop_zero (body : Nat → σ → σ) (s : σ) : loop 0 body s = s := rfl

theorem loop_succ (n : Nat) (body : Nat → σ → σ) (s : σ) :
    loop (n + 1) body s = body n (loop n body s) := rfl

theorem loop_ind {body : Nat → σ → σ} (I : Nat → σ → Prop) {s : σ} :
    ∀ {n : Nat}, I 0 s → (∀ i t, i < n → I i t → I (i + 1) (body i t)) → I n (loop n body s)
  | 0, h0, _ => h0
  | n + 1, h0, hs =>
    hs n _ (Nat.lt_succ_self n) (loop_ind I h0 fun i t hi => hs i t (Nat.lt_succ_of_lt hi))

/-- An invariant that does not depend on the counter. -/
theorem loop_keeps {body : Nat → σ → σ} (I : σ → Prop) {s : σ} {n : Nat} (h0 : I s)
    (hs : ∀ i t, i < n → I t → I (body i t)) : I (loop n body s) :=
  loop_ind (fun _ => I) h0 hs

/-- Two loops in lockstep. -/
theorem loop_rel {τ : Type} {f : Nat → σ → σ} {g : Nat → τ → τ} (R : σ → τ → Prop) {s : σ} {t : τ} :
    ∀ {n : Nat}, R s t → (∀ i s t, i < n → R s t → R (f i s) (g i t)) → R (loop n f s) (loop n g t)
  | 0, h0, _ => h0
  | n + 1, h0, hs =>
    hs n _ _ (Nat.lt_succ_self n) (loop_rel R h0 fun i s t hi => hs i s t (Nat.lt_succ_of_lt hi))

/-- A counter other than the one of the last turn. -/
theorem lt_succ_iff_of_ne {i n : Nat} (h : i ≠ n) : i < n + 1 ↔ i < n := by omega

/-- A counted loop is a fold over the counter. -/
theorem loop_foldl (n : Nat) (body : Nat → σ → σ) (s : σ) :
    loop n body s = (List.range n).foldl (fun s k => body k s) s := by
  induction n with
  | zero => rfl
  | succ n ih => rw [loop_succ, ih, List.range_succ, List.foldl_append]; rfl

/-- A loop that passes over some counters is a fold over the others. -/
theorem loop_filter {n : Nat} {body : Nat → σ → σ} {p : Nat → Bool}
    (h : ∀ k s, p k = false → body k s = s) (s : σ) :
    loop n body s = ((List.range n).filter p).foldl (fun s k => body k s) s := by
  rw [loop_foldl, List.foldl_filter]
  congr 1
  funext s k
  cases hp : p k with
  | false => exact h k s hp
  | true => rfl

end loops

-- the loop bounds are large literals: reason with the rules above
attribute [irreducible] loop

end Sp11Touch.CInt
