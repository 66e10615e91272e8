import Mathlib.Data.Finset.Card
import Mathlib.Order.Interval.Finset.Nat
import Sp11Touch.L1Encoding.HeatItems
/-!
# The grammar of a Heat report

`HeatGrammar c` says what a well-formed report is, with no mention of the
parser: the sections tile the container, the records of a metadata section
tile it, one `0x0100` section covers every cell of the grid exactly once.
`Decoded c t` says what the driver's buffers then hold.

A run of the parser's steps over the items of a report exists exactly where
the items are as the grammar has them: `blocks_run` and `blocks_run_exists`
for the blocks of a section, `records_run` and `records_run_exists` for its
records, both by induction over the items.
-/
namespace Sp11Touch
namespace HeatFrame
open Proc Bytes

/-! ## The grammar -/

def containerLen (c : Bytes) : Nat := u32 c 2

def sections (c : Bytes) : List Nat := items (sectionLen c) (2 + containerLen c) 9

/-- The records of the metadata section at `o`, from section byte seven. -/
def records (c : Bytes) (o : Nat) : List Nat := items (recordLen (c.drop o)) (sectionLen c o) 7

def blocks (c : Bytes) (o : Nat) : List Nat := items (blockLen c) (o + sectionLen c o) (o + 8)

/-- The type-`0x04` records of the section at `o`, as offsets of the report. -/
def nsrOf (c : Bytes) (o : Nat) : List Nat :=
  if sectionType c o = metadataSection
  then ((records c o).map (o + ·)).filter (fun p => u8 c p = 4) else []

def nsrIn (c : Bytes) (l : List Nat) : List Nat := l.flatMap (nsrOf c)

def heatIn (c : Bytes) (l : List Nat) : List Nat :=
  l.filter (fun o => sectionType c o = heatSection)

theorem nsrIn_cons (c : Bytes) (o : Nat) (l : List Nat) :
    nsrIn c (o :: l) = nsrOf c o ++ nsrIn c l :=
  List.flatMap_cons

theorem heatIn_cons_heat {c : Bytes} {o : Nat} (h : sectionType c o = heatSection) (l : List Nat) :
    heatIn c (o :: l) = o :: heatIn c l := List.filter_cons_of_pos (by simpa using h)

theorem heatIn_cons_other {c : Bytes} {o : Nat} (h : sectionType c o ≠ heatSection) (l : List Nat) :
    heatIn c (o :: l) = heatIn c l := List.filter_cons_of_neg (by simpa using h)

/-- Blocks that stay in the grid and write each cell exactly once. -/
structure Grid (c : Bytes) (bs : List Nat) : Prop where
  fits : ∀ b ∈ bs, blockDest c b + blockCount c b ≤ heatSamples
  once : ∀ i, i < heatSamples → ∃! b, b ∈ bs ∧ Covers c b i

structure HeatSection (c : Bytes) (o : Nat) : Prop where
  mode : u8 c (o + 6) = 1
  width : u8 c (o + 7) = 8
  tiles : Tiles (blockLen c) 8 (o + 8) (blocks c o) (o + sectionLen c o)
  grid : Grid c (blocks c o)

structure HeatGrammar (c : Bytes) : Prop where
  long : 9 ≤ c.length
  container : 7 ≤ containerLen c ∧ containerLen c ≤ c.length - 2
  tiles : Tiles (sectionLen c) 8 9 (sections c) (2 + containerLen c)
  metadata : ∀ o ∈ sections c, sectionType c o = metadataSection →
    Tiles (recordLen (c.drop o)) 4 7 (records c o) (sectionLen c o)
  nsrOne : (nsrIn c (sections c)).length ≤ 1
  nsr : ∀ p ∈ nsrIn c (sections c), NsrRecord c p
  heat : ∃ o, heatIn c (sections c) = [o] ∧ HeatSection c o

/-- The buffers hold the report: each cell the byte of the block that covers
it, and the `nsr_*` fields the one type-`0x04` record, or none. -/
structure Decoded (c : Bytes) (t : HeatBuf) : Prop where
  cells : ∀ o ∈ heatIn c (sections c), ∀ b ∈ blocks c o, ∀ i, Covers c b i →
    t.heatmap i = blockByte c b i
  nsr : match (nsrIn c (sections c)).head? with
    | none => t.nsrValid = false ∧ t.nsrBinCount = 0
    | some p => t.nsrValid = true ∧ t.nsrBinCount = u8 c (p + 4) ∧
        ∀ i, t.nsrBins i = if i < u8 c (p + 4) then u16 c (p + 8 + i * 4) else 0

/-! ## Runs of blocks -/

theorem paint_seen (c : Bytes) (p : Nat) (b : HeatBuf) (i : Nat) :
    (paint c p b).heatSeen i ≠ 0 ↔ b.heatSeen i ≠ 0 ∨ Covers c p i := by
  unfold paint Covers
  by_cases hi : blockDest c p ≤ i ∧ i < blockDest c p + blockCount c p <;> simp [hi]

def seenCount (b : HeatBuf) : Nat :=
  ((Finset.range heatSamples).filter (fun i => b.heatSeen i ≠ 0)).card

/-- A block that fits and overlaps nothing adds its count. -/
theorem seenCount_paint {c : Bytes} {p : Nat} {b : HeatBuf}
    (hfit : blockDest c p + blockCount c p ≤ heatSamples)
    (hnew : ∀ i, Covers c p i → b.heatSeen i = 0) :
    seenCount (paint c p b) = seenCount b + blockCount c p := by
  have hsplit : (Finset.range heatSamples).filter (fun i => (paint c p b).heatSeen i ≠ 0) =
      (Finset.range heatSamples).filter (fun i => b.heatSeen i ≠ 0) ∪
        Finset.Ico (blockDest c p) (blockDest c p + blockCount c p) := by
    ext i
    simp only [Finset.mem_filter, Finset.mem_range, Finset.mem_union, Finset.mem_Ico, paint_seen]
    unfold Covers
    constructor
    · intro hmem
      obtain ⟨hi, h | h⟩ := hmem
      · exact Or.inl ⟨hi, h⟩
      · exact Or.inr h
    · intro hor
      rcases hor with ⟨hi, h⟩ | h
      · exact ⟨hi, Or.inl h⟩
      · exact ⟨by omega, Or.inr h⟩
  have hdisj : Disjoint ((Finset.range heatSamples).filter (fun i => b.heatSeen i ≠ 0))
      (Finset.Ico (blockDest c p) (blockDest c p + blockCount c p)) := by
    rw [Finset.disjoint_left]
    intro i hi hi'
    exact (Finset.mem_filter.mp hi).2 (hnew i (Finset.mem_Ico.mp hi'))
  unfold seenCount
  rw [hsplit, Finset.card_union_of_disjoint hdisj, Nat.card_Ico]
  omega

theorem seenCount_le (b : HeatBuf) : seenCount b ≤ heatSamples := by
  unfold seenCount
  exact (Finset.card_filter_le _ _).trans (by rw [Finset.card_range])

theorem seenCount_blank {b : HeatBuf} (h : ∀ i, b.heatSeen i = 0) : seenCount b = 0 := by
  unfold seenCount
  rw [Finset.card_eq_zero, Finset.filter_eq_empty_iff]
  exact fun i _ => not_not.mpr (h i)

/-- `written == 3128` says that every cell was seen. -/
theorem seenCount_full {b : HeatBuf} :
    seenCount b = heatSamples ↔ ∀ i, i < heatSamples → b.heatSeen i ≠ 0 := by
  unfold seenCount
  constructor
  · intro h i hi
    have := (Finset.card_filter_eq_iff (s := Finset.range heatSamples)
      (p := fun i => b.heatSeen i ≠ 0)).mp (by rw [h, Finset.card_range])
    exact this i (Finset.mem_range.mpr hi)
  · intro h
    rw [Finset.filter_true_of_mem fun i hi => h i (Finset.mem_range.mp hi), Finset.card_range]

/-- What the blocks `bs`, read one after the other, did to the grid. -/
structure BlocksRead (c : Bytes) (bs : List Nat) (s t : HeatBuf) : Prop where
  fits : ∀ b ∈ bs, blockDest c b + blockCount c b ≤ heatSamples
  seen : ∀ i, t.heatSeen i ≠ 0 ↔ s.heatSeen i ≠ 0 ∨ ∃ b ∈ bs, Covers c b i
  fresh : ∀ b ∈ bs, ∀ i, Covers c b i → s.heatSeen i = 0
  once : ∀ b ∈ bs, ∀ b' ∈ bs, ∀ i, Covers c b i → Covers c b' i → b' = b
  cell : ∀ b ∈ bs, ∀ i, Covers c b i → t.heatmap i = blockByte c b i
  rest : ∀ i, (∀ b ∈ bs, ¬ Covers c b i) → t.heatmap i = s.heatmap i
  nsr : t.nsrValid = s.nsrValid ∧ t.nsrBinCount = s.nsrBinCount ∧ t.nsrBins = s.nsrBins

theorem paint_cell {c : Bytes} {p i : Nat} (b : HeatBuf) (h : Covers c p i) :
    (paint c p b).heatmap i = blockByte c p i := by
  unfold Covers at h; simp only [paint, if_pos h]

theorem paint_rest {c : Bytes} {p i : Nat} (b : HeatBuf) (h : ¬ Covers c p i) :
    (paint c p b).heatmap i = b.heatmap i := by
  unfold Covers at h; simp only [paint, if_neg h]

theorem BlocksRead.nil (c : Bytes) (s : HeatBuf) : BlocksRead c [] s s :=
  ⟨nofun, by simp, nofun, nofun, nofun, fun _ _ => rfl, rfl, rfl, rfl⟩

theorem BlocksRead.cons {c : Bytes} {p : Nat} {bs : List Nat} {s t : HeatBuf}
    (hfit : blockDest c p + blockCount c p ≤ heatSamples)
    (hnew : ∀ i, Covers c p i → s.heatSeen i = 0)
    (h : BlocksRead c bs (paint c p s) t) : BlocksRead c (p :: bs) s t := by
  -- a later block cannot cover a cell of `p`, which is marked by then
  have hlater : ∀ b ∈ bs, ∀ i, Covers c b i → ¬ Covers c p i := fun b hb i hi hp =>
    (paint_seen c p s i).mpr (Or.inr hp) (h.fresh b hb i hi)
  refine ⟨?_, ?_, ?_, ?_, ?_, ?_, h.nsr⟩
  · intro b hb
    rcases List.mem_cons.mp hb with rfl | hb
    · exact hfit
    · exact h.fits b hb
  · intro i
    rw [h.seen, paint_seen, List.exists_mem_cons_iff, or_assoc]
  · intro b hb i hi
    rcases List.mem_cons.mp hb with rfl | hb
    · exact hnew i hi
    · have := mt (paint_seen c p s i).mpr (by rw [not_not]; exact h.fresh b hb i hi)
      rw [not_or, not_not] at this
      exact this.1
  · intro b hb b' hb' i hi hi'
    rcases List.mem_cons.mp hb with h1 | h1 <;> rcases List.mem_cons.mp hb' with h2 | h2
    · rw [h1, h2]
    · rw [h1] at hi; exact absurd hi (hlater b' h2 i hi')
    · rw [h2] at hi'; exact absurd hi' (hlater b h1 i hi)
    · exact h.once b h1 b' h2 i hi hi'
  · intro b hb i hi
    rcases List.mem_cons.mp hb with rfl | hb
    · rw [h.rest i fun b' hb' hc => hlater b' hb' i hc hi, paint_cell s hi]
    · exact h.cell b hb i hi
  · intro i hi
    rw [h.rest i fun b hb => hi b (List.mem_cons_of_mem _ hb),
      paint_rest s (hi p List.mem_cons_self)]

/-- One block counts what it marks, so `written` is the number of marked cells. -/
theorem blocks_run {c : Bytes} {bs : List Nat} {x y : Nat × HeatBuf}
    (h : (steps (BlockStep c)).Run x bs y) (hw : x.1 = seenCount x.2) :
    y.1 = seenCount y.2 ∧ BlocksRead c bs x.2 y.2 := by
  induction h with
  | nil x => exact ⟨hw, .nil c _⟩
  | @cons x m y p ps hst _ ih =>
    obtain ⟨hfit, hnew, rfl⟩ := hst
    have hcount := seenCount_paint hfit hnew
    have hle := seenCount_le (paint c p x.2)
    have hbig : heatSamples < 2 ^ 32 := by decide
    obtain ⟨h1, h2⟩ := ih (by
      show (_ + _) % 2 ^ 32 = _
      rw [hw, ← hcount, Nat.mod_eq_of_lt (by omega)])
    exact ⟨h1, .cons hfit hnew h2⟩

/-- Blocks that fit, meet no marked cell and share no cell can all be read. -/
theorem blocks_run_exists {c : Bytes} {bs : List Nat} (hnd : bs.Nodup)
    (hfit : ∀ b ∈ bs, blockDest c b + blockCount c b ≤ heatSamples)
    (honce : ∀ b ∈ bs, ∀ b' ∈ bs, ∀ i, Covers c b i → Covers c b' i → b' = b) (x : Nat × HeatBuf)
    (hnew : ∀ b ∈ bs, ∀ i, Covers c b i → x.2.heatSeen i = 0) :
    ∃ y, (steps (BlockStep c)).Run x bs y := by
  induction bs generalizing x with
  | nil => exact ⟨x, .nil x⟩
  | cons p bs ih =>
    rw [List.nodup_cons] at hnd
    have hp : p ∈ p :: bs := List.mem_cons_self
    obtain ⟨y, hy⟩ := ih hnd.2 (fun b hb => hfit b (List.mem_cons_of_mem _ hb))
      (fun b hb b' hb' => honce b (List.mem_cons_of_mem _ hb) b' (List.mem_cons_of_mem _ hb'))
      ((x.1 + blockCount c p) % 2 ^ 32, paint c p x.2) (by
        intro b hb i hi
        have hb' : b ∈ p :: bs := List.mem_cons_of_mem _ hb
        have hne : ¬ Covers c p i := fun hc => hnd.1 (honce b hb' p hp i hi hc ▸ hb)
        have := mt (paint_seen c p x.2 i).mp (by rw [not_or, not_not]; exact ⟨hnew b hb' i hi, hne⟩)
        rwa [not_not] at this)
    exact ⟨y, .cons ⟨hfit p hp, hnew p hp, rfl⟩ hy⟩

/-! ## Runs of records -/

/-- The `nsr_*` fields are the same. -/
def SameNsr (s t : HeatBuf) : Prop :=
  t.nsrValid = s.nsrValid ∧ t.nsrBinCount = s.nsrBinCount ∧ t.nsrBins = s.nsrBins

/-- The `nsr_*` fields after the type-`0x04` records `l`. -/
def NsrRead (c : Bytes) : List Nat → HeatBuf → HeatBuf → Prop
  | [], s, t => SameNsr s t
  | p :: l, s, t => s.nsrValid = false ∧ NsrRecord c p ∧ NsrRead c l (putNsr c p s) t

theorem SameNsr.trans {s t u : HeatBuf} (h : SameNsr s t) (h' : SameNsr t u) : SameNsr s u :=
  ⟨h'.1.trans h.1, h'.2.1.trans h.2.1, h'.2.2.trans h.2.2⟩

theorem NsrRead.same {c : Bytes} {l : List Nat} {s t u : HeatBuf} (h : SameNsr s t)
    (h' : NsrRead c l t u) : NsrRead c l s u := by
  cases l with
  | nil => exact h.trans h'
  | cons p l =>
    obtain ⟨h1, h2, h3⟩ := h'
    refine ⟨h.1.symm.trans h1, h2, ?_⟩
    cases l with
    | nil => exact h3
    | cons q l => exact absurd h3.1 (by simp [putNsr])

theorem NsrRead.append {c : Bytes} {l m : List Nat} {s t u : HeatBuf} (h : NsrRead c l s t)
    (h' : NsrRead c m t u) : NsrRead c (l ++ m) s u := by
  induction l generalizing s with
  | nil => exact h'.same h
  | cons p l ih => exact ⟨h.1, h.2.1, ih h.2.2⟩

/-- One record at most: the second finds `nsr_valid` set. -/
theorem NsrRead.length {c : Bytes} {l : List Nat} {s t : HeatBuf} (h : NsrRead c l s t) :
    l.length ≤ 1 := by
  match l, h with
  | [], _ => exact Nat.zero_le _
  | [_], _ => exact Nat.le_refl _
  | _ :: _ :: _, h => exact absurd h.2.2.1 (by simp [putNsr])

theorem NsrRead.wf {c : Bytes} {l : List Nat} {s t : HeatBuf} (h : NsrRead c l s t) :
    ∀ p ∈ l, NsrRecord c p := by
  induction l generalizing s with
  | nil => exact nofun
  | cons p l ih =>
    intro q hq
    rcases List.mem_cons.mp hq with rfl | hq
    · exact h.2.1
    · exact ih h.2.2 q hq

theorem nsrRecord_drop (c : Bytes) (o p : Nat) : NsrRecord (c.drop o) p ↔ NsrRecord c (o + p) := by
  have e1 := u16_drop c o (p + 2)
  have e2 := u8_drop c o (p + 4)
  rw [← Nat.add_assoc] at e1 e2
  constructor
  · intro hrec
    obtain ⟨h1, h2, h3⟩ := hrec
    rw [e1] at h1 h3; rw [e2] at h2 h3
    exact ⟨h1, h2, h3⟩
  · intro hrec
    obtain ⟨h1, h2, h3⟩ := hrec
    exact ⟨by rw [e1]; exact h1, by rw [e2]; exact h2, by rw [e1, e2]; exact h3⟩

theorem putNsr_drop (c : Bytes) (o p : Nat) (b : HeatBuf) :
    putNsr (c.drop o) p b = putNsr c (o + p) b := by
  unfold putNsr
  simp only [u16_drop, u8_drop, Nat.add_assoc]

theorem records_run {c : Bytes} {o : Nat} {l : List Nat} {x y : Unit × HeatBuf}
    (h : (steps (RecordStep (c.drop o))).Run x l y) :
    NsrRead c ((l.map (o + ·)).filter (fun p => u8 c p = 4)) x.2 y.2 ∧
      y.2.heatmap = x.2.heatmap := by
  induction h with
  | nil x => exact ⟨⟨rfl, rfl, rfl⟩, rfl⟩
  | @cons x m y p ps hst _ ih =>
    have hst : RecordStep (c.drop o) p x m := hst
    unfold RecordStep at hst
    rw [u8_drop] at hst
    rw [List.map_cons, List.filter_cons]
    by_cases ht : u8 c (o + p) = 4
    · rw [if_pos ht, nsrRecord_drop, putNsr_drop] at hst
      rw [if_pos (by simpa using ht)]
      obtain ⟨h1, h2, h3⟩ := hst
      rw [h3] at ih
      exact ⟨⟨h1, h2, ih.1⟩, ih.2⟩
    · rw [if_neg ht] at hst
      rw [if_neg (by simpa using ht), ← hst]
      exact ih

theorem records_run_exists {c : Bytes} {o : Nat} (l : List Nat) (x : Unit × HeatBuf)
    (hone : ((l.map (o + ·)).filter (fun p => u8 c p = 4)).length ≤ 1)
    (hwf : ∀ p ∈ (l.map (o + ·)).filter (fun p => u8 c p = 4), NsrRecord c p)
    (hnew : (l.map (o + ·)).filter (fun p => u8 c p = 4) ≠ [] → x.2.nsrValid = false) :
    ∃ y, (steps (RecordStep (c.drop o))).Run x l y := by
  induction l generalizing x with
  | nil => exact ⟨x, .nil x⟩
  | cons p l ih =>
    rw [List.map_cons, List.filter_cons] at hone hwf hnew
    by_cases ht : u8 c (o + p) = 4
    · rw [if_pos (by simpa using ht)] at hone hwf hnew
      have hnil := List.eq_nil_of_length_eq_zero (Nat.le_zero.mp (Nat.le_of_succ_le_succ hone))
      obtain ⟨y, hy⟩ := ih ((), putNsr c (o + p) x.2) (by rw [hnil]; exact Nat.zero_le _)
        (by rw [hnil]; exact nofun) (fun h => absurd hnil h)
      refine ⟨y, .cons ?_ hy⟩
      show RecordStep _ _ _ _
      unfold RecordStep
      rw [u8_drop, if_pos ht, nsrRecord_drop, putNsr_drop]
      exact ⟨hnew (by simp), hwf _ List.mem_cons_self, rfl⟩
    · rw [if_neg (by simpa using ht)] at hone hwf hnew
      obtain ⟨y, hy⟩ := ih x hone hwf hnew
      refine ⟨y, .cons ?_ hy⟩
      show RecordStep _ _ _ _
      unfold RecordStep
      rw [u8_drop, if_neg ht]

/-! ## Runs of sections -/

/-- The grid and the bins after the section at `o`. -/
def SectionStep (c : Bytes) (o : Nat) (x y : Bool × HeatBuf) : Prop :=
  if sectionType c o = metadataSection then
    y.1 = x.1 ∧ Tiles (recordLen (c.drop o)) 4 7 (records c o) (sectionLen c o) ∧
      (steps (RecordStep (c.drop o))).Run ((), x.2) (records c o) ((), y.2)
  else if sectionType c o ≠ heatSection then y = x
  else x.1 = false ∧ y.1 = true ∧ u8 c (o + 6) = 1 ∧ u8 c (o + 7) = 8 ∧
    Tiles (blockLen c) 8 (o + 8) (blocks c o) (o + sectionLen c o) ∧
    (steps (BlockStep c)).Run (0, { x.2 with heatmap := fun _ => 0, heatSeen := fun _ => 0 })
      (blocks c o) (heatSamples, y.2)

/-- Every cell holds the byte of the block of section `o` that covers it. -/
def Cells (c : Bytes) (o : Nat) (m : Nat → UInt8) : Prop :=
  ∀ b ∈ blocks c o, ∀ i, Covers c b i → m i = blockByte c b i

/-- `found` and the grid after the `0x0100` sections `l`. -/
def HeatRead (c : Bytes) : List Nat → Bool × (Nat → UInt8) → Bool × (Nat → UInt8) → Prop
  | [], x, y => y = x
  | o :: l, x, y => x.1 = false ∧ HeatSection c o ∧ ∃ m, Cells c o m ∧ HeatRead c l (true, m) y

/-- The blocks of the `0x0100` section at `o`, once they ran. -/
theorem blocks_grid {c : Bytes} {o : Nat} {s t : HeatBuf} (hs : ∀ i, s.heatSeen i = 0)
    (h : (steps (BlockStep c)).Run (0, s) (blocks c o) (heatSamples, t)) :
    Grid c (blocks c o) ∧ Cells c o t.heatmap ∧ SameNsr s t := by
  obtain ⟨hw, hread⟩ := blocks_run h (seenCount_blank hs).symm
  refine ⟨⟨hread.fits, fun i hi => ?_⟩, hread.cell, hread.nsr⟩
  rcases (hread.seen i).mp (seenCount_full.mp hw.symm i hi) with h1 | ⟨b, hb, hc⟩
  · exact absurd (hs i) h1
  · exact ⟨b, ⟨hb, hc⟩, fun b' h' => hread.once b hb b' h'.1 i hc h'.2⟩

theorem blocks_grid_exists {c : Bytes} {o : Nat} (hsec : HeatSection c o) (s : HeatBuf)
    (hs : ∀ i, s.heatSeen i = 0) :
    ∃ t, (steps (BlockStep c)).Run (0, s) (blocks c o) (heatSamples, t) := by
  have honce : ∀ b ∈ blocks c o, ∀ b' ∈ blocks c o, ∀ i, Covers c b i → Covers c b' i → b' = b := by
    intro b hb b' hb' i hi hi'
    have hlt : i < heatSamples := by have := hsec.grid.fits b hb; unfold Covers at hi; omega
    exact (hsec.grid.once i hlt).unique ⟨hb', hi'⟩ ⟨hb, hi⟩
  obtain ⟨⟨w, t⟩, hrun⟩ := blocks_run_exists (hsec.tiles.nodup (by decide)) hsec.grid.fits honce
    (0, s) (fun _ _ i _ => hs i)
  obtain ⟨hw, hread⟩ := blocks_run hrun (seenCount_blank hs).symm
  have hfull : seenCount t = heatSamples := seenCount_full.mpr fun i hi => by
    obtain ⟨b, hb, _⟩ := hsec.grid.once i hi
    exact (hread.seen i).mpr (Or.inr ⟨b, hb⟩)
  have hw : w = seenCount t := hw
  rw [hw, hfull] at hrun
  exact ⟨t, hrun⟩

end HeatFrame
end Sp11Touch
