import Mathlib.Data.List.GetD
import Sp11Touch.Core.Proc
import Mathlib.Algebra.GroupWithZero.Nat
/-!
# Byte buffers, little-endian reads and error codes

A buffer is a list of bytes. A read at `i` is a procedure that fails with
`Exit.oob` when the buffer ends before it, so "never reads past the end" is
"never exits with `oob`". `u8`, `u16` and `u32` are the values such reads
return, as numbers.
-/
namespace Sp11Touch

abbrev Bytes := List UInt8

/-- Kernel error codes, returned as `-e`. -/
inductive Errno where
  | EPROTO | EMSGSIZE | EAGAIN | EPIPE | EOVERFLOW | ETIMEDOUT | E2BIG | ENODEV | ENOENT
  | EOPNOTSUPP | EINVAL | EIO | ENOSPC | EBUSY
  | other (code : Nat)
deriving DecidableEq, Repr

/-- How a reader of a buffer fails: with an error code of its own, or by a
read outside the buffer. -/
inductive Exit (ε : Type) where
  | code (e : ε)
  | oob
deriving DecidableEq, Repr

namespace Bytes
variable {σ ε : Type}

/-- The byte at `i`; `0` past the end. -/
def u8 (c : Bytes) (i : Nat) : Nat := (c.getD i 0).toNat

def u16 (c : Bytes) (i : Nat) : Nat := u8 c i + 256 * u8 c (i + 1)

def u32 (c : Bytes) (i : Nat) : Nat := u16 c i + 65536 * u16 c (i + 2)

theorem u8_lt (c : Bytes) (i : Nat) : u8 c i < 256 := (c.getD i 0).toNat_lt

theorem u16_lt (c : Bytes) (i : Nat) : u16 c i < 65536 := by
  have := u8_lt c i; have := u8_lt c (i + 1); unfold u16; omega

theorem u32_lt (c : Bytes) (i : Nat) : u32 c i < 2 ^ 32 := by
  have := u16_lt c i; have := u16_lt c (i + 2); unfold u32; omega

theorem getD_drop (c : Bytes) (o i : Nat) : (c.drop o).getD i 0 = c.getD (o + i) 0 := by
  rw [List.getD_eq_getElem?_getD, List.getElem?_drop, List.getD_eq_getElem?_getD]

theorem u8_drop (c : Bytes) (o i : Nat) : u8 (c.drop o) i = u8 c (o + i) := by
  unfold u8; rw [getD_drop]

theorem u16_drop (c : Bytes) (o i : Nat) : u16 (c.drop o) i = u16 c (o + i) := by
  unfold u16; rw [u8_drop, u8_drop, Nat.add_assoc]

theorem u32_drop (c : Bytes) (o i : Nat) : u32 (c.drop o) i = u32 c (o + i) := by
  unfold u32; rw [u16_drop, u16_drop, Nat.add_assoc]

theorem u8_append {a b : Bytes} {i : Nat} (h : i < a.length) : u8 (a ++ b) i = u8 a i := by
  unfold u8; rw [List.getD_append _ _ _ _ h]

theorem u16_append {a b : Bytes} {i : Nat} (h : i + 2 ≤ a.length) : u16 (a ++ b) i = u16 a i := by
  unfold u16; rw [u8_append (by omega), u8_append (by omega)]

theorem u32_append {a b : Bytes} {i : Nat} (h : i + 4 ≤ a.length) : u32 (a ++ b) i = u32 a i := by
  unfold u32; rw [u16_append (by omega), u16_append (by omega)]

/-- `struct.pack("<H", n)` -/
def pack16 (n : Nat) : Bytes := [UInt8.ofNat n, UInt8.ofNat (n / 256)]

/-- `struct.pack("<I", n)` -/
def pack32 (n : Nat) : Bytes := pack16 n ++ pack16 (n / 65536)

theorem pack32_length (n : Nat) : (pack32 n).length = 4 := rfl

theorem u32_pack32 {n : Nat} (h : n < 2 ^ 32) : u32 (pack32 n) 0 = n := by
  simp only [u32, u16, u8, pack32, pack16, List.cons_append, List.nil_append, List.getD_cons_zero,
    List.getD_cons_succ,
    UInt8.toNat_ofNat', Nat.zero_add]
  omega

theorem ofNat_toNat_mod {n : Nat} {b : UInt8} (h : n % 256 = b.toNat) : UInt8.ofNat n = b := by
  apply UInt8.toNat_inj.mp
  rw [UInt8.toNat_ofNat']
  exact h

/-- Reading four bytes and packing the number gives them back. -/
theorem pack32_u32 {c : Bytes} (h : 4 ≤ c.length) : pack32 (u32 c 0) = c.take 4 := by
  match c, h with
  | b0 :: b1 :: b2 :: b3 :: rest, _ =>
    have h0 := b0.toNat_lt
    have h1 := b1.toNat_lt
    have h2 := b2.toNat_lt
    have h3 := b3.toNat_lt
    simp only [u32, u16, u8, pack32, pack16, List.getD_cons_zero, List.getD_cons_succ, Nat.zero_add,
      List.cons_append,
      List.nil_append, List.take_succ_cons, List.take_zero, List.cons.injEq, and_true]
    refine ⟨ofNat_toNat_mod ?_, ofNat_toNat_mod ?_, ofNat_toNat_mod ?_, ofNat_toNat_mod ?_⟩ <;>
      omega
/-! ## Slices -/

/-- `c[i:j]` -/
def slice {α : Type} (c : List α) (i j : Nat) : List α := (c.drop i).take (j - i)

/-- `c[i:j] = d` -/
def splice {α : Type} (c : List α) (i j : Nat) (d : List α) : List α := c.take i ++ d ++ c.drop j

theorem slice_length {α : Type} {c : List α} {i j : Nat} (h : j ≤ c.length) :
    (slice c i j).length = j - i := by
  unfold slice; rw [List.length_take, List.length_drop]; omega

theorem slice_getD {α : Type} (c : List α) {i j k : Nat} (h : i + k < j) (a : α) :
    (slice c i j).getD k a = c.getD (i + k) a := by
  unfold slice
  rw [List.getD_eq_getElem?_getD, List.getElem?_take_of_lt (by omega), List.getElem?_drop,
    List.getD_eq_getElem?_getD]

theorem splice_length {α : Type} {c d : List α} {i j : Nat} (hij : i ≤ j) (hj : j ≤ c.length)
    (hd : d.length = j - i) : (splice c i j d).length = c.length := by
  unfold splice
  rw [List.length_append, List.length_append, List.length_take, List.length_drop]; omega

theorem splice_getD {α : Type} {c d : List α} {i j : Nat} (hij : i ≤ j) (hj : j ≤ c.length)
    (hd : d.length = j - i) (k : Nat) (a : α) :
    (splice c i j d).getD k a = if i ≤ k ∧ k < j then d.getD (k - i) a else c.getD k a := by
  have hi : (c.take i).length = i := by rw [List.length_take]; omega
  unfold splice
  simp only [List.getD_eq_getElem?_getD]
  by_cases hlo : i ≤ k
  · by_cases hhi : k < j
    · rw [if_pos ⟨hlo, hhi⟩, List.getElem?_append_left (by rw [List.length_append]; omega),
        List.getElem?_append_right (by omega), hi]
    · rw [if_neg (by omega), List.getElem?_append_right (by rw [List.length_append]; omega),
        List.getElem?_drop, List.length_append, hi, hd, show j + (k - (i + (j - i))) = k by omega]
  · rw [if_neg (by omega), List.getElem?_append_left (by rw [List.length_append]; omega),
      List.getElem?_append_left (by omega), List.getElem?_take_of_lt (by omega)]

/-- `d` is the `n` bytes of `c` from `o` on. -/
structure View (d c : Bytes) (o n : Nat) : Prop where
  length : d.length = n
  byte : ∀ i, i < n → d.getD i 0 = c.getD (o + i) 0

namespace View
variable {d c : Bytes} {o n : Nat}

theorem slice (c : Bytes) {o n : Nat} (h : o + n ≤ c.length) : View (slice c o (o + n)) c o n :=
  ⟨by rw [slice_length h]; omega, fun _ hi => slice_getD c (by omega) 0⟩

theorem u8 (h : View d c o n) {i : Nat} (hi : i < n) : u8 d i = Bytes.u8 c (o + i) := by
  unfold Bytes.u8; rw [h.byte i hi]

theorem u16 (h : View d c o n) {i : Nat} (hi : i + 2 ≤ n) : u16 d i = Bytes.u16 c (o + i) := by
  unfold Bytes.u16; rw [h.u8 (by omega), h.u8 (by omega), Nat.add_assoc]

theorem u32 (h : View d c o n) {i : Nat} (hi : i + 4 ≤ n) : u32 d i = Bytes.u32 c (o + i) := by
  unfold Bytes.u32; rw [h.u16 (by omega), h.u16 (by omega), Nat.add_assoc]

end View

theorem u8_cons (b : UInt8) (c : Bytes) (i : Nat) : u8 (b :: c) (1 + i) = u8 c i := by
  unfold u8; rw [Nat.add_comm, List.getD_cons_succ]

theorem u16_cons (b : UInt8) (c : Bytes) (i : Nat) : u16 (b :: c) (1 + i) = u16 c i := by
  unfold u16; rw [Nat.add_assoc, u8_cons, u8_cons]

theorem u32_cons (b : UInt8) (c : Bytes) (i : Nat) : u32 (b :: c) (1 + i) = u32 c i := by
  unfold u32; rw [Nat.add_assoc, u16_cons, u16_cons]

/-! ## Checked reads -/

/-- `buf[i]` -/
def byteAt (buf : Bytes) (i : Nat) : Proc σ (Exit ε) Nat := fun s =>
  match buf[i]? with
  | some b => (s, .ok b.toNat)
  | none => (s, .error .oob)

/-- `get_unaligned_le16(c + i)` -/
def le16At (c : Bytes) (i : Nat) : Proc σ (Exit ε) Nat := do
  let lo ← byteAt c i
  let hi ← byteAt c (i + 1)
  return lo + 256 * hi

/-- `get_unaligned_le32(c + i)` -/
def le32At (c : Bytes) (i : Nat) : Proc σ (Exit ε) Nat := do
  let lo ← le16At c i
  let hi ← le16At c (i + 2)
  return lo + 65536 * hi

theorem byteAt_apply {c : Bytes} {i : Nat} (h : i < c.length) (s : σ) :
    (byteAt c i : Proc σ (Exit ε) Nat) s = (s, .ok (u8 c i)) := by
  unfold byteAt u8
  rw [List.getD_eq_getElem?_getD, List.getElem?_eq_getElem h]
  rfl

theorem le16At_apply {c : Bytes} {i : Nat} (h : i + 2 ≤ c.length) (s : σ) :
    (le16At c i : Proc σ (Exit ε) Nat) s = (s, .ok (u16 c i)) := by
  unfold le16At
  rw [Proc.bind_apply, byteAt_apply (by omega)]
  simp only [Proc.bind_apply]
  rw [byteAt_apply (by omega)]
  rfl

theorem le32At_apply {c : Bytes} {i : Nat} (h : i + 4 ≤ c.length) (s : σ) :
    (le32At c i : Proc σ (Exit ε) Nat) s = (s, .ok (u32 c i)) := by
  unfold le32At
  rw [Proc.bind_apply, le16At_apply (by omega)]
  simp only [Proc.bind_apply]
  rw [le16At_apply (by omega)]
  rfl

theorem byteAt_eq_ok {c : Bytes} {i v : Nat} {s t : σ} :
    (byteAt c i : Proc σ (Exit ε) Nat) s = (t, .ok v) ↔ i < c.length ∧ t = s ∧ v = u8 c i := by
  by_cases h : i < c.length
  · rw [byteAt_apply h, Prod.mk.injEq, Except.ok.injEq]
    apply Iff.intro
    · rintro ⟨rfl, rfl⟩; exact ⟨h, rfl, rfl⟩
    · rintro ⟨_, rfl, rfl⟩; exact ⟨rfl, rfl⟩
  · unfold byteAt
    rw [List.getElem?_eq_none (by omega)]
    simp [h]

theorem le16At_eq_ok {c : Bytes} {i v : Nat} {s t : σ} :
    (le16At c i : Proc σ (Exit ε) Nat) s = (t, .ok v) ↔ i + 2 ≤ c.length ∧ t = s ∧ v = u16 c i := by
  simp only [le16At, Proc.bind_eq_ok, byteAt_eq_ok, Proc.pure_eq_ok]
  apply Iff.intro
  · intro hok
    obtain ⟨_, _, ⟨_, rfl, rfl⟩, _, _, ⟨h, rfl, rfl⟩, rfl, rfl⟩ := hok
    exact ⟨by omega, rfl, rfl⟩
  · intro hfit
    obtain ⟨h, rfl, rfl⟩ := hfit
    exact ⟨_, _, ⟨by omega, rfl, rfl⟩, _, _, ⟨by omega, rfl, rfl⟩, rfl, rfl⟩

theorem le32At_eq_ok {c : Bytes} {i v : Nat} {s t : σ} :
    (le32At c i : Proc σ (Exit ε) Nat) s = (t, .ok v) ↔ i + 4 ≤ c.length ∧ t = s ∧ v = u32 c i := by
  simp only [le32At, Proc.bind_eq_ok, le16At_eq_ok, Proc.pure_eq_ok]
  apply Iff.intro
  · intro hok
    obtain ⟨_, _, ⟨_, rfl, rfl⟩, _, _, ⟨h, rfl, rfl⟩, rfl, rfl⟩ := hok
    exact ⟨by omega, rfl, rfl⟩
  · intro hfit
    obtain ⟨h, rfl, rfl⟩ := hfit
    exact ⟨_, _, ⟨by omega, rfl, rfl⟩, _, _, ⟨by omega, rfl, rfl⟩, rfl, rfl⟩

/-- `memcpy(buf + destination, c + source, count)` on a buffer that is a
function of the index; the source must lie inside `c`. -/
def copyInto (c : Bytes) (source count destination : Nat) (get : σ → Nat → UInt8)
    (put : σ → (Nat → UInt8) → σ) : Proc σ (Exit ε) Unit := fun s =>
  if source + count ≤ c.length then
    (put s fun i => if destination ≤ i ∧ i < destination + count
      then c.getD (source + (i - destination)) 0 else get s i, .ok ())
  else (s, .error .oob)

end Bytes
end Sp11Touch
