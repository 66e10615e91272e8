import Sp11Touch.L1Encoding.HeatFrame
/-!
# What one item of a Heat report does

The three loops of the parser, one item at a time: a block paints its cells
(`heatBlock_ok`), a metadata record may set the `nsr_*` fields
(`nsrRecord_ok`), and each reads inside the report only (`heatBlock_safe`,
`nsrRecord_safe`). Offsets are those of the report's bytes.
-/
namespace Sp11Touch
namespace HeatFrame
open Proc Bytes

/-! ## The fields of an item -/

def sectionLen (c : Bytes) (o : Nat) : Nat := u32 c o
def sectionType (c : Bytes) (o : Nat) : Nat := u16 c (o + 4)

def recordLen (c : Bytes) (p : Nat) : Nat := 4 + u16 c (p + 2)

def blockDest (c : Bytes) (p : Nat) : Nat := u32 c p
def blockCount (c : Bytes) (p : Nat) : Nat := u32 c (p + 4)
def blockLen (c : Bytes) (p : Nat) : Nat := 8 + blockCount c p

/-- The block at `p` writes cell `i`. -/
def Covers (c : Bytes) (p i : Nat) : Prop := blockDest c p ≤ i ∧ i < blockDest c p + blockCount c p

/-- The byte the block at `p` has for cell `i`. -/
def blockByte (c : Bytes) (p i : Nat) : UInt8 := c.getD (p + 8 + (i - blockDest c p)) 0

/-- A well-formed type-`0x04` record: its payload has the eight-byte head and
room for its bins. -/
structure NsrRecord (c : Bytes) (p : Nat) : Prop where
  payload : 4 ≤ u16 c (p + 2)
  bins : u8 c (p + 4) ≤ nsrBinsMax
  fits : u8 c (p + 4) ≤ (u16 c (p + 2) - 4) / 4

/-! ## The effect of an item -/

/-- The grid after the block at `p`. -/
def paint (c : Bytes) (p : Nat) (b : HeatBuf) : HeatBuf :=
  { b with
    heatmap := fun i => if blockDest c p ≤ i ∧ i < blockDest c p + blockCount c p
      then blockByte c p i else b.heatmap i
    heatSeen := fun i => if blockDest c p ≤ i ∧ i < blockDest c p + blockCount c p
      then 1 else b.heatSeen i }

/-- The `nsr_*` fields of the record at `p`. -/
def putNsr (c : Bytes) (p : Nat) (b : HeatBuf) : HeatBuf :=
  { b with
    nsrBins := fun i => if i < u8 c (p + 4) then u16 c (p + 8 + i * 4) else 0
    nsrBinCount := u8 c (p + 4)
    nsrValid := true }

def BlockStep (c : Bytes) (p : Nat) (x y : Nat × HeatBuf) : Prop :=
  blockDest c p + blockCount c p ≤ heatSamples ∧
  (∀ i, Covers c p i → x.2.heatSeen i = 0) ∧
  y = ((x.1 + blockCount c p) % 2 ^ 32, paint c p x.2)

def RecordStep (c : Bytes) (p : Nat) (x y : Unit × HeatBuf) : Prop :=
  if u8 c p = 4 then x.2.nsrValid = false ∧ NsrRecord c p ∧ y.2 = putNsr c p x.2
  else y.2 = x.2

/-! ## Blocks -/

theorem fail_eq_ok {c : Bool} {e : Errno} {s t : HeatBuf} {u : Unit} :
    fail c e s = (t, .ok u) ↔ c = false ∧ t = s := errorIf_eq_ok

theorem markSeen_apply (i : Nat) (s : HeatBuf) : markSeen i s =
    if s.heatSeen i ≠ 0 then (s, .error (.code .EPROTO))
    else ({ s with heatSeen := fun j => if j = i then 1 else s.heatSeen j }, .ok ()) := by
  unfold markSeen fail
  simp only [bind_apply, gets_apply, errorIf_apply, decide_eq_true_eq]
  by_cases h : s.heatSeen i ≠ 0
  · rw [if_pos h, if_pos h]
  · rw [if_neg h, if_neg h]; rfl

/-- Marking a range succeeds when no cell of it is marked yet. -/
theorem forRange_markSeen (n : Nat) : ∀ (d : Nat) (s t : HeatBuf) (u : Unit),
    forRange d n markSeen s = (t, .ok u) ↔ (∀ i, d ≤ i → i < d + n → s.heatSeen i = 0) ∧
    t = { s with heatSeen := fun i => if d ≤ i ∧ i < d + n then 1 else s.heatSeen i } := by
  induction n with
  | zero =>
    intro d s t u
    rw [forRange_zero, Prod.mk.injEq]
    have hnone : ∀ i, ¬ (d ≤ i ∧ i < d + 0) := fun i => by omega
    simp only [hnone, if_false]
    constructor
    · rintro ⟨rfl, _⟩; exact ⟨fun i _ _ => by omega, rfl⟩
    · rintro ⟨_, rfl⟩; exact ⟨rfl, trivial⟩
  | succ n ih =>
    intro d s t u
    rw [forRange_succ, bind_apply, markSeen_apply]
    by_cases h : s.heatSeen d = 0
    · rw [if_neg (by simpa using h)]
      simp only [ih]
      have hmark : ∀ i, (d + 1 ≤ i ∧ i < d + 1 + n ∨ i = d) ↔ d ≤ i ∧ i < d + (n + 1) := by
        intro i; omega
      constructor
      · intro hok
        obtain ⟨h1, rfl⟩ := hok
        refine ⟨fun i hi hj => ?_, ?_⟩
        · by_cases he : i = d
          · rw [he]; exact h
          · have := h1 i (by omega) (by omega)
            rwa [if_neg he] at this
        · congr 1; funext i
          have := hmark i
          grind
      · intro hok
        obtain ⟨h1, rfl⟩ := hok
        refine ⟨fun i hi hj => ?_, ?_⟩
        · rw [if_neg (by omega : i ≠ d)]; exact h1 i (by omega) (by omega)
        · congr 1; funext i
          have := hmark i
          grind
    · rw [if_pos h]
      simp only [Prod.mk.injEq, reduceCtorEq, and_false, false_iff, not_and]
      intro h1
      exact absurd (h1 d (Nat.le_refl _) (by omega)) h

theorem copyInto_eq_ok {c : Bytes} {source count dest : Nat} {s t : HeatBuf} {u : Unit} :
    (copyInto c source count dest (·.heatmap) (fun b m => { b with heatmap := m }) :
      HeatProc Unit) s = (t, .ok u) ↔ source + count ≤ c.length ∧
      t = { s with heatmap := fun i => if dest ≤ i ∧ i < dest + count
        then c.getD (source + (i - dest)) 0 else s.heatmap i } := by
  unfold copyInto
  by_cases h : source + count ≤ c.length
  · rw [if_pos h, Prod.mk.injEq]
    constructor
    · rintro ⟨rfl, _⟩; exact ⟨h, rfl⟩
    · rintro ⟨_, rfl⟩; exact ⟨rfl, rfl⟩
  · rw [if_neg h]; simp [h]

theorem heatBlock_ok {c : Bytes} {stop p w : Nat} {s t : HeatBuf} {n : {n : Nat // p < n}}
    {w' : Nat}
    (hlt : p < stop) (hstop : stop ≤ c.length) :
    heatBlock c stop p w s = (t, .ok (n, w')) ↔
      8 ≤ blockLen c p ∧ p + blockLen c p ≤ stop ∧ n.1 = p + blockLen c p ∧
      BlockStep c p (w, s) (w', t) := by
  simp only [heatBlock, bind_eq_ok, fail_eq_ok, le32At_eq_ok, forRange_markSeen, copyInto_eq_ok,
    pure_eq_ok, decide_eq_false_iff_not, Bool.or_eq_false_iff]
  constructor
  · intro hok
    obtain ⟨_, _, ⟨h1, rfl⟩, _, _, ⟨h2, rfl, rfl⟩, _, _, ⟨h3, rfl, rfl⟩, _, _,
      ⟨⟨⟨h4, h5⟩, h6⟩, rfl⟩, _, _,
      ⟨h7, rfl⟩, _, _, ⟨h8, rfl⟩, rfl, he⟩ := hok
    simp only [Prod.mk.injEq] at he
    obtain ⟨rfl, rfl⟩ := he
    refine ⟨Nat.le_add_right _ _, ?_, ?_, ?_, ?_, ?_⟩
    · unfold blockLen blockCount; omega
    · show p + 8 + _ = _; unfold blockLen blockCount; omega
    · unfold blockDest blockCount; omega
    · exact fun i hi => h7 i hi.1 hi.2
    · rfl
  · intro hblock
    obtain ⟨_, h1, h2, h3, h4, h5⟩ := hblock
    rw [Prod.mk.injEq] at h5
    obtain ⟨rfl, rfl⟩ := h5
    unfold blockLen at h1 h2
    unfold blockDest blockCount at *
    refine ⟨s, (), ⟨by omega, rfl⟩, s, _, ⟨by omega, rfl, rfl⟩, s, _, ⟨by omega, rfl, rfl⟩, s, (),
      ⟨⟨⟨by omega, by omega⟩, by omega⟩, rfl⟩, _, (), ⟨fun i hi hj => h4 i ⟨hi, hj⟩, rfl⟩, _, (),
      ⟨by omega, rfl⟩, rfl, ?_⟩
    rw [Prod.mk.injEq]
    exact ⟨Subtype.ext (by rw [h2]; exact (Nat.add_assoc _ _ _).symm), rfl⟩

/-! ## Records -/

theorem forRange_storeNsrBin {c : Bytes} {r : Nat} (n : Nat) : ∀ (i : Nat) (s : HeatBuf),
    (∀ j, j < i + n → r + 8 + j * 4 + 2 ≤ c.length) →
    forRange i n (storeNsrBin c r) s =
      ({ s with nsrBins := fun j => if i ≤ j ∧ j < i + n
        then u16 c (r + 8 + j * 4) else s.nsrBins j }, .ok ()) := by
  induction n with
  | zero =>
    intro i s _
    have hnone : ∀ j, ¬ (i ≤ j ∧ j < i + 0) := fun j => by omega
    simp only [forRange_zero, hnone, if_false]
  | succ n ih =>
    intro i s h
    rw [forRange_succ, bind_apply, storeNsrBin, bind_apply, le16At_apply (h i (by omega))]
    simp only [modify_apply]
    rw [ih (i + 1) _ fun j hj => h j (by omega)]
    congr 2
    funext j
    by_cases hj : j = i
    · subst hj; simp
    · have hr : (i + 1 ≤ j ∧ j < i + 1 + n) ↔ (i ≤ j ∧ j < i + (n + 1)) := by omega
      simp only [hr, if_neg hj]

theorem storeNsrRecord_ok {c : Bytes} {p n : Nat} {s t : HeatBuf} {u : Unit}
    (hn : n = u16 c (p + 2)) (hin : p + 4 + n ≤ c.length) :
    storeNsrRecord c p n s = (t, .ok u) ↔
      s.nsrValid = false ∧ NsrRecord c p ∧ t = putNsr c p s := by
  simp only [storeNsrRecord, bind_eq_ok, gets_eq_ok, fail_eq_ok, byteAt_eq_ok, modify_eq_ok,
    Bool.or_eq_false_iff, decide_eq_false_iff_not]
  constructor
  · intro hok
    obtain ⟨_, _, ⟨rfl, rfl⟩, _, _, ⟨⟨h1, h2⟩, rfl⟩, _, _, ⟨h3, rfl, rfl⟩, _, _,
      ⟨⟨h4, h5⟩, rfl⟩, _, _,
      rfl, _, _, h6, rfl⟩ := hok
    rw [forRange_storeNsrBin (c := c) (r := p) (u8 c (p + 4)) 0 _ (by intro j hj; omega),
      Prod.mk.injEq] at h6
    obtain ⟨rfl, -⟩ := h6
    refine ⟨h1, ⟨by omega, by omega, by omega⟩, ?_⟩
    unfold putNsr
    congr 1
    funext i
    simp
  · intro hspec
    obtain ⟨h1, ⟨h2, h3, h4⟩, rfl⟩ := hspec
    refine ⟨s, _, ⟨rfl, rfl⟩, s, (), ⟨⟨h1, by omega⟩, rfl⟩, s, _, ⟨by omega, rfl, rfl⟩, s, (),
      ⟨⟨by omega, by omega⟩, rfl⟩, _, (), rfl, _, (),
      forRange_storeNsrBin (u8 c (p + 4)) 0 _ (by intro j hj; omega), ?_⟩
    unfold putNsr
    congr 1
    funext i
    simp

theorem nsrRecord_ok {c : Bytes} {stop p : Nat} {s t : HeatBuf} {n : {n : Nat // p < n}}
    {a b : Unit}
    (hlt : p < stop) (hstop : stop ≤ c.length) :
    nsrRecord c stop p a s = (t, .ok (n, b)) ↔
      4 ≤ recordLen c p ∧ p + recordLen c p ≤ stop ∧ n.1 = p + recordLen c p ∧
      RecordStep c p (a, s) (b, t) := by
  simp only [nsrRecord, bind_eq_ok, fail_eq_ok, le16At_eq_ok, byteAt_eq_ok, pure_eq_ok,
    decide_eq_false_iff_not, onlyIf_eq_ok, decide_eq_true_eq]
  unfold RecordStep recordLen
  constructor
  · intro hok
    obtain ⟨_, _, ⟨h1, rfl⟩, _, _, ⟨h2, rfl, rfl⟩, _, _, ⟨h3, rfl⟩, _, _, ⟨h4, rfl, rfl⟩,
      _, _, h5, rfl,
      he⟩ := hok
    rw [Prod.mk.injEq] at he
    obtain ⟨rfl, -⟩ := he
    refine ⟨by omega, by omega, Nat.add_assoc _ _ _, ?_⟩
    split at h5
    · next ht =>
      rw [if_pos ht]
      exact (storeNsrRecord_ok rfl (by omega)).mp h5
    · next ht =>
      rw [if_neg ht]
      exact h5
  · intro hrec
    obtain ⟨_, h1, h2, h3⟩ := hrec
    refine ⟨s, (), ⟨by omega, rfl⟩, s, _, ⟨by omega, rfl, rfl⟩, s, (), ⟨by omega, rfl⟩, s, _,
      ⟨by omega, rfl, rfl⟩, t, (), ?_, rfl, ?_⟩
    · split at h3
      · next ht =>
        rw [if_pos ht]
        exact (storeNsrRecord_ok rfl (by omega)).mpr h3
      · next ht =>
        rw [if_neg ht]
        exact h3
    · rw [Prod.mk.injEq]
      exact ⟨Subtype.ext (by rw [h2]; exact (Nat.add_assoc _ _ _).symm), rfl⟩

/-! ## Reads stay inside the report -/

/-- No exit of `p` is a read outside the buffer. -/
def Safe {α : Type} (p : HeatProc α) : Prop :=
  Triple (fun _ => True) p (fun _ _ => True) (fun e _ => e ≠ .oob)

namespace Safe
variable {α β : Type}

theorem bind {p : HeatProc α} {f : α → HeatProc β} (hp : Safe p) (hf : ∀ a, Safe (f a)) :
    Safe (p >>= f) := Triple.bind hp hf

theorem fail {c : Bool} {e : Errno} {f : Unit → HeatProc β} (hf : c = false → Safe (f ())) :
    Safe (HeatFrame.fail c e >>= f) :=
  Triple.bind_errorIf (fun _ _ _ => nofun) hf

theorem read {p : HeatProc α} {f : α → HeatProc β} {a : α} (hp : ∀ s, p s = (s, .ok a))
    (hf : Safe (f a)) : Safe (p >>= f) := Triple.bind_eq hp hf

theorem pure (a : α) : Safe (Pure.pure a : HeatProc α) := Triple.pure a fun _ h => h

theorem modify (f : HeatBuf → HeatBuf) : Safe (Proc.modify f) := Triple.modify f fun _ h => h

theorem forRange {n first : Nat} {body : Nat → HeatProc Unit}
    (hb : ∀ i, first ≤ i → i < first + n → Safe (body i)) : Safe (Proc.forRange first n body) :=
  Triple.forRange n body (fun _ _ => True) first hb

theorem walk {stop : Nat} {body : (p : Nat) → α → HeatProc ({n : Nat // p < n} × α)} (lo : Nat)
    (hb : ∀ p a, lo ≤ p → p < stop → Safe (body p a)) (p : Nat) (hp : lo ≤ p) (a : α) :
    Safe (Proc.walk stop body p a) := by
  have h : Triple (fun _ => lo ≤ p) (Proc.walk stop body p a) (fun _ _ => ∃ q, stop ≤ q ∧ lo ≤ q)
      (fun e _ => e ≠ .oob) := by
    refine Triple.walk (R := fun p _ _ => lo ≤ p) (fun p a hlt s hs => ?_) p a
    have h1 := hb p a hs hlt s trivial
    revert h1
    cases body p a s with
    | mk t r => cases r with
      | ok r => intro _; have := r.1.2; show lo ≤ r.1.1; omega
      | error e => exact id
  exact h.conseq (fun _ _ => hp) (fun _ _ _ => trivial) (fun _ _ h => h)

end Safe

theorem markSeen_safe (i : Nat) : Safe (markSeen i) := by
  intro s _
  rw [markSeen_apply]
  by_cases h : s.heatSeen i ≠ 0
  · rw [if_pos h]; exact nofun
  · rw [if_neg h]; trivial

theorem heatBlock_safe {c : Bytes} {stop p : Nat} (hlt : p < stop) (hstop : stop ≤ c.length)
    (w : Nat) :
    Safe (heatBlock c stop p w) := by
  unfold heatBlock
  refine Safe.fail fun h1 => ?_
  rw [decide_eq_false_iff_not] at h1
  refine Safe.read (le32At_apply (by omega)) (Safe.read (le32At_apply (by omega)) ?_)
  refine Safe.fail fun h2 => ?_
  simp only [Bool.or_eq_false_iff, decide_eq_false_iff_not] at h2
  refine Safe.bind (Safe.forRange fun i _ _ => markSeen_safe i) fun _ => ?_
  refine Safe.bind ?_ fun _ => Safe.pure _
  intro s _
  unfold copyInto
  rw [if_pos (by omega)]
  trivial

theorem storeNsrRecord_safe {c : Bytes} {p n : Nat} (hin : p + 4 + n ≤ c.length) :
    Safe (storeNsrRecord c p n) := by
  unfold storeNsrRecord
  refine Safe.bind (Triple.gets _ fun _ h => h) fun v => Safe.fail fun h1 => ?_
  rw [Bool.or_eq_false_iff, decide_eq_false_iff_not] at h1
  refine Safe.read (byteAt_apply (by omega)) (Safe.fail fun h2 => ?_)
  simp only [Bool.or_eq_false_iff, decide_eq_false_iff_not] at h2
  refine Safe.bind (Safe.modify _) fun _ => Safe.bind (Safe.forRange fun i _ hi => ?_) fun _ =>
    Safe.modify _
  unfold storeNsrBin
  exact Safe.read (le16At_apply (by omega)) (Safe.modify _)

theorem nsrRecord_safe {c : Bytes} {stop p : Nat} (hlt : p < stop) (hstop : stop ≤ c.length)
    (a : Unit) :
    Safe (nsrRecord c stop p a) := by
  unfold nsrRecord
  refine Safe.fail fun h1 => ?_
  rw [decide_eq_false_iff_not] at h1
  refine Safe.read (le16At_apply (by omega)) (Safe.fail fun h2 => ?_)
  rw [decide_eq_false_iff_not] at h2
  exact Safe.read (byteAt_apply (by omega)) (Safe.bind
    (Triple.onlyIf (fun _ => storeNsrRecord_safe (by omega)) fun _ _ h => h) fun _ => Safe.pure _)

end HeatFrame
end Sp11Touch
