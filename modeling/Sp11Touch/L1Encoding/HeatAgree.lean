import Sp11Touch.L1Encoding.HeatDecoder
import Sp11Touch.L1Encoding.HeatWriter
/-!
# The driver and the offline decoder read the same reports

The decoder walks the report in absolute offsets, keeps slices and checks
sums; the driver walks it behind the id and checks remainders. Each walk of
the one is the same walk of the other (`parseSections_ok`,
`extractHeatmap_ok`, `extractNsrBins_ok` on the decoder's side), so
`accepts_iff` states what the decoder accepts on the driver's offsets.

* `decoders_agree`: on a report with at most one `0xff00` section, and with a
  container end or a length that fits in 32 bits, the driver returns 0 iff the
  decoder raises nothing, and the grid and the bins are equal.
* `wrapped_container_differs`: a container end of 2^32 is read by the
  decoder and refused by the driver.
-/
namespace Sp11Touch
namespace Decoder
open Proc Bytes HeatFrame

theorem raiseIf_eq_ok {c : Bool} {e : DecodeError} {s t u : Unit} :
    raiseIf c e s = (t, .ok u) ↔ c = false := by
  unfold raiseIf
  rw [errorIf_eq_ok]
  exact ⟨fun h => h.1, fun h => ⟨h, rfl⟩⟩

/-! ## Sections -/

/-- The section a walk reads at `o`. -/
def sectionAt (r : Bytes) (o : Nat) : Section :=
  ⟨o, u32 r o, u16 r (o + 4), u8 r (o + 6), u8 r (o + 7), slice r o (o + u32 r o)⟩

/-- The offsets `parse_sections` stops at. -/
def offsets (r : Bytes) : List Nat := items (u32 r) (3 + u32 r 3) 10

theorem section_ok {r : Bytes} {stop o : Nat} {a b : Nat × List Section} {s t : Unit}
    {n : {n : Nat // o < n}}
    (hlt : o < stop) (hstop : stop ≤ r.length) :
    parseSection r stop o a s = (t, .ok (n, b)) ↔ 8 ≤ u32 r o ∧ o + u32 r o ≤ stop ∧
      n.1 = o + u32 r o ∧
      (b, t) = ((o + u32 r o, a.2 ++ [sectionAt r o]), s) := by
  simp only [parseSection, bind_eq_ok, raiseIf_eq_ok, le32At_eq_ok, le16At_eq_ok,
    byteAt_eq_ok, pure_eq_ok,
    decide_eq_false_iff_not]
  apply Iff.intro
  · intro hok
    obtain ⟨_, _, h1, _, _, ⟨_, _, rfl⟩, _, fits, _, _, _, ⟨_, _, rfl⟩, _, _, ⟨_, _, rfl⟩, _, _,
      ⟨_, _, rfl⟩, _, he⟩ := hok
    have hf := fits.down
    rw [Prod.mk.injEq] at he
    obtain ⟨rfl, rfl⟩ := he
    exact ⟨hf.1, hf.2, rfl, rfl⟩
  · intro hsec
    obtain ⟨h8, h1, h2, h3⟩ := hsec
    rw [Prod.mk.injEq] at h3
    obtain ⟨rfl, rfl⟩ := h3
    refine ⟨(), (), by omega, (), _, ⟨by omega, trivial, rfl⟩, (), ⟨⟨h8, h1⟩⟩,
      require_eq_ok.mpr rfl, (), _,
      ⟨by omega, trivial, rfl⟩, (), _, ⟨by omega, trivial, rfl⟩, (), _,
        ⟨by omega, trivial, rfl⟩, trivial, ?_⟩
    exact Prod.ext (Subtype.ext h2) rfl

/-- `parse_sections` returns on exactly one list of sections. -/
theorem parseSections_ok {r : Bytes} {p : Parsed} : parseSections r () = ((), .ok p) ↔
    10 ≤ r.length ∧ 10 ≤ 3 + u32 r 3 ∧ 3 + u32 r 3 ≤ r.length ∧
      Tiles (u32 r) 8 10 (offsets r) (3 + u32 r 3) ∧
      p = ⟨u16 r 1, u32 r 3, (offsets r).map (sectionAt r), r.drop (3 + u32 r 3)⟩ := by
  have hwalk : 10 ≤ 3 + u32 r 3 → 3 + u32 r 3 ≤ r.length → ∀ b : Nat × List Section,
      walk (3 + u32 r 3) (parseSection r (3 + u32 r 3)) 10 (10, []) () = ((), .ok b) ↔
        Tiles (u32 r) 8 10 (offsets r) (3 + u32 r 3) ∧
          b = (3 + u32 r 3, (offsets r).map (sectionAt r)) := by
    intro h10 hin b
    have hfold := walk_fold (fun o a => (o + u32 r o, a.2 ++ [sectionAt r o])) (by decide)
      (fun p a s n b t _ hlt => section_ok hlt hin) 10 (10, []) () (Nat.le_refl _) h10 b ()
    rw [hfold]
    apply Iff.intro
    · intro h
      obtain ⟨ht, he⟩ := h
      rw [ht.collect (sectionAt r) []] at he
      exact ⟨ht, congrArg Prod.fst he⟩
    · intro h
      obtain ⟨ht, rfl⟩ := h
      have he := ht.collect (sectionAt r) []
      unfold offsets at he ⊢
      exact ⟨ht, by rw [he]; rfl⟩
  simp only [parseSections, bind_eq_ok, raiseIf_eq_ok, le32At_eq_ok, le16At_eq_ok, pure_eq_ok,
    decide_eq_false_iff_not]
  apply Iff.intro
  · intro hok
    obtain ⟨_, _, h1, _, _, ⟨_, _, rfl⟩, _, _, ⟨_, _, rfl⟩, _, _, h2, _, w, h3, _, _, h4, _, rfl⟩ :=
      hok
    have h10 : 10 ≤ 3 + u32 r 3 := by
      -- a walk over nothing stays at 10, which is not `end`
      by_contra hlt
      rw [walk, if_neg (by omega)] at h3
      cases h3
      omega
    have h5 := (hwalk h10 (by omega) w).mp h3
    obtain ⟨ht, rfl⟩ := h5
    exact ⟨by omega, h10, by omega, ht, rfl⟩
  · intro hsec
    obtain ⟨h1, h10, h2, ht, rfl⟩ := hsec
    exact ⟨(), (), by omega, (), _, ⟨by omega, trivial, rfl⟩, (), _, ⟨by omega, trivial, rfl⟩, (),
      (), by omega,
      (), _, (hwalk h10 h2 _).mpr ⟨ht, rfl⟩, (), (), by simp, trivial, rfl⟩

/-! ## Metadata records -/

/-- The record a walk reads at `p` of the section bytes `d`. -/
def recordAt (d : Bytes) (p : Nat) : MetadataRecord :=
  ⟨p, u8 d p, u8 d (p + 1), slice d (p + 4) (p + 4 + u16 d (p + 2))⟩

theorem metadataRecord_ok {x : Section} {p : Nat} {a b : List MetadataRecord} {s t : Unit}
    {n : {n : Nat // p < n}} (hx : x.data.length = x.length) (hlt : p < x.length) :
    metadataRecord x p a s = (t, .ok (n, b)) ↔ 4 ≤ recordLen x.data p ∧
      p + recordLen x.data p ≤ x.length ∧
      n.1 = p + recordLen x.data p ∧ (b, t) = (a ++ [recordAt x.data p], s) := by
  simp only [metadataRecord, bind_eq_ok, raiseIf_eq_ok, le16At_eq_ok, byteAt_eq_ok, pure_eq_ok,
    decide_eq_false_iff_not]
  unfold recordLen
  apply Iff.intro
  · intro hok
    obtain ⟨_, _, h1, _, _, ⟨_, _, rfl⟩, _, _, h2, _, _, ⟨_, _, rfl⟩, _, _, ⟨_, _, rfl⟩, _, he⟩ :=
      hok
    rw [Prod.mk.injEq] at he
    obtain ⟨rfl, rfl⟩ := he
    exact ⟨by omega, by omega, Nat.add_assoc _ _ _, rfl⟩
  · intro hrec
    obtain ⟨_, h1, h2, h3⟩ := hrec
    rw [Prod.mk.injEq] at h3
    obtain ⟨rfl, rfl⟩ := h3
    refine ⟨(), (), by omega, (), _, ⟨by omega, trivial, rfl⟩, (), (), by omega, (), _,
      ⟨by omega, trivial, rfl⟩, (), _, ⟨by omega, trivial, rfl⟩, trivial, ?_⟩
    exact Prod.ext (Subtype.ext (by rw [h2]; exact (Nat.add_assoc _ _ _).symm)) rfl

theorem parseMetadataRecords_ok {x : Section} {l : List MetadataRecord}
    (hx : x.data.length = x.length)
    (h8 : 8 ≤ x.length) (hk : x.kind = 0xff00) : parseMetadataRecords x () = ((), .ok l) ↔
      Tiles (recordLen x.data) 4 7 (items (recordLen x.data) x.length 7) x.length ∧
        l = (items (recordLen x.data) x.length 7).map (recordAt x.data) := by
  have hfold := walk_fold (fun p a => a ++ [recordAt x.data p]) (by decide)
    (fun p a s n b t _ hlt => metadataRecord_ok hx hlt) 7 [] () (Nat.le_refl _) (by omega) l ()
  rw [foldl_collect, List.nil_append] at hfold
  simp only [parseMetadataRecords, bind_eq_ok, raiseIf_eq_ok, decide_eq_false_iff_not]
  apply Iff.intro
  · intro hok
    obtain ⟨_, _, _, h⟩ := hok
    obtain ⟨ht, he⟩ := hfold.mp h
    exact ⟨ht, congrArg Prod.fst he⟩
  · intro hrec
    exact ⟨(), (), not_not.mpr hk, hfold.mpr ⟨hrec.1, by rw [hrec.2]⟩⟩

theorem bins_ok {d : Bytes} {l : List Nat} (n : Nat) (h : 4 + n * 4 ≤ d.length) :
    bins d n () = ((), .ok l) ↔ l = (List.range n).map fun i => u16 d (4 + i * 4) := by
  induction n generalizing l with
  | zero => exact pure_eq_ok.trans ⟨And.right, fun h => ⟨rfl, h⟩⟩
  | succ n ih =>
    rw [List.range_succ, List.map_append, List.map_singleton]
    simp only [bins, bind_eq_ok, le16At_eq_ok, pure_eq_ok]
    apply Iff.intro
    · intro hok
      obtain ⟨_, m, hm, _, _, ⟨_, _, rfl⟩, _, rfl⟩ := hok
      rw [(ih (by omega)).mp hm]
    · intro hl
      exact ⟨(), _, (ih (by omega)).mpr rfl, (), _, ⟨by omega, trivial, rfl⟩, trivial, hl⟩

/-- The bins of the type-`0x04` records `l` of `c`. -/
def BinsOf (c : Bytes) : List Nat → Option (List Nat) → Prop
  | [], b => b = none
  | [p], b => NsrRecord c p ∧ b = some ((List.range (u8 c (p + 4))).map fun i => u16 c (p + 8 + i * 4))
  | _ :: _ :: _, _ => False

/-- The checks behind the search for the one record. -/
theorem payload_ok {d : Bytes} {p : Nat} (hp : p + recordLen d p ≤ d.length)
    {b : Option (List Nat)} :
    (do raiseIf ((recordAt d p).data.length < 4) .noCountHeader
        let count ← byteAt (recordAt d p).data 0
        raiseIf (count > windowsNsrBins) (.invalidBinCount count)
        raiseIf ((recordAt d p).data.length < 4 + count * 4)
          (.truncatedBins count (recordAt d p).data.length (4 + count * 4))
        let values ← bins (recordAt d p).data count
        return some values : Decode (Option (List Nat))) () = ((), .ok b) ↔ BinsOf d [p] b := by
  unfold recordLen at hp
  have hv : View (recordAt d p).data d (p + 4) (u16 d (p + 2)) := View.slice d (by omega)
  have hlen := hv.length
  have hmap : ∀ n, 4 + n * 4 ≤ u16 d (p + 2) →
      ((List.range n).map fun i => u16 (recordAt d p).data (4 + i * 4)) =
        (List.range n).map fun i => u16 d (p + 8 + i * 4) := by
    intro n hn
    refine List.map_congr_left fun i hi => ?_
    rw [List.mem_range] at hi
    rw [hv.u16 (by omega), ← Nat.add_assoc]
  unfold BinsOf
  simp only [bind_eq_ok, raiseIf_eq_ok, byteAt_eq_ok, pure_eq_ok, decide_eq_false_iff_not]
  apply Iff.intro
  · intro hok
    obtain ⟨_, _, h1, _, _, ⟨h2, _, rfl⟩, _, _, h3, _, _, h4, _, l, h5, _, rfl⟩ := hok
    rw [hv.u8 (by omega), Nat.add_zero] at h3 h4 h5
    rw [bins_ok _ (by omega), hmap _ (by omega)] at h5
    rw [h5]
    have h16 : windowsNsrBins = nsrBinsMax := rfl
    exact ⟨⟨by omega, by omega, by omega⟩, rfl⟩
  · intro hrec
    obtain ⟨⟨h1, h2, h3⟩, rfl⟩ := hrec
    have h16 : windowsNsrBins = nsrBinsMax := rfl
    refine ⟨(), (), by omega, (), _, ⟨by omega, trivial, rfl⟩, (), (), ?_, (), (), ?_, (), _,
      ?_, trivial, rfl⟩
    all_goals rw [hv.u8 (by omega), Nat.add_zero]
    · omega
    · omega
    · rw [bins_ok _ (by omega), hmap _ (by omega)]

theorem extractNsrBins_ok {x : Section} {b : Option (List Nat)} (hx : x.data.length = x.length)
    (h8 : 8 ≤ x.length) (hk : x.kind = 0xff00) : extractNsrBins x () = ((), .ok b) ↔
      Tiles (recordLen x.data) 4 7 (items (recordLen x.data) x.length 7) x.length ∧
        BinsOf x.data ((items (recordLen x.data) x.length 7).filter fun p =>
        u8 x.data p = 4) b := by
  have hfilter : ∀ l : List Nat, (l.map (recordAt x.data)).filter (·.kind = 0x04) =
      (l.filter fun p => u8 x.data p = 4).map (recordAt x.data) := fun l => List.filter_map
  rw [extractNsrBins, bind_eq_ok]
  apply Iff.intro
  · intro hok
    obtain ⟨_, l, hl, h⟩ := hok
    obtain ⟨ht, rfl⟩ := (parseMetadataRecords_ok hx h8 hk).mp hl
    refine ⟨ht, ?_⟩
    rw [hfilter] at h
    cases hf : (items (recordLen x.data) x.length 7).filter fun p => u8 x.data p = 4 with
    | nil =>
      rw [hf] at h
      exact (pure_eq_ok.mp h).2
    | cons p rest =>
      rw [hf] at h
      obtain ⟨_, _, hrest, h⟩ := bind_eq_ok.mp h
      rw [raiseIf_eq_ok, decide_eq_false_iff_not, not_not, List.map_eq_nil_iff] at hrest
      subst hrest
      have hp : p ∈ items (recordLen x.data) x.length 7 :=
        (List.mem_filter.mp (hf ▸ List.mem_cons_self)).1
      exact (payload_ok (by have := (ht.mem hp).2.2; omega)).mp h
  · intro hrec
    obtain ⟨ht, hb⟩ := hrec
    refine ⟨(), _, (parseMetadataRecords_ok hx h8 hk).mpr ⟨ht, rfl⟩, ?_⟩
    rw [hfilter]
    cases hf : (items (recordLen x.data) x.length 7).filter fun p => u8 x.data p = 4 with
    | nil =>
      rw [hf] at hb
      exact pure_eq_ok.mpr ⟨rfl, hb⟩
    | cons p rest =>
      rw [hf] at hb
      cases rest with
      | cons q rest => exact hb.elim
      | nil =>
        have hp : p ∈ items (recordLen x.data) x.length 7 :=
          (List.mem_filter.mp (hf ▸ List.mem_cons_self)).1
        exact bind_eq_ok.mpr ⟨(), (), raiseIf_eq_ok.mpr rfl,
          (payload_ok (by have := (ht.mem hp).2.2; omega)).mpr hb⟩

/-! ## Blocks -/

/-- The canvas after the block at `p` of the section bytes `d`. -/
def painted (d : Bytes) (p : Nat) (x : Canvas) : Canvas :=
  ⟨splice x.output (blockDest d p) (blockDest d p + blockCount d p)
      (slice d (p + 8) (p + 8 + blockCount d p)),
    splice x.written (blockDest d p) (blockDest d p + blockCount d p)
      (List.replicate (blockCount d p) 1)⟩

def PaintStep (d : Bytes) (p : Nat) (x y : Canvas × Unit) : Prop :=
  blockDest d p + blockCount d p ≤ gridSamples ∧
  (slice x.1.written (blockDest d p) (blockDest d p + blockCount d p)).any (· ≠ 0) = false ∧
  y = (painted d p x.1, ())

/-- The driver's buffers that hold a canvas, with no record yet. -/
def Canvas.buf (x : Canvas) : HeatBuf where
  heatmap i := x.output.getD i 0
  heatSeen i := x.written.getD i 0
  nsrBins _ := 0
  nsrBinCount := 0
  nsrValid := false

structure Canvas.Wide (x : Canvas) : Prop where
  output : x.output.length = gridSamples
  written : x.written.length = gridSamples

theorem heatBlock_ok {x : Section} {p : Nat} {a b : Canvas} {s t : Unit} {n : {n : Nat // p < n}}
    (hx : x.data.length = x.length) : Decoder.heatBlock x p a s = (t, .ok (n, b)) ↔
      8 ≤ blockLen x.data p ∧ p + blockLen x.data p ≤ x.length ∧ n.1 = p + blockLen x.data p ∧
        PaintStep x.data p (a, s) (b, t) := by
  simp only [Decoder.heatBlock, bind_eq_ok, raiseIf_eq_ok, le32At_eq_ok, pure_eq_ok,
    decide_eq_false_iff_not]
  unfold PaintStep blockLen
  apply Iff.intro
  · intro hok
    obtain ⟨_, _, h1, _, _, ⟨_, _, rfl⟩, _, _, ⟨_, _, rfl⟩, _, _, h2, _, _, h3, _, _, h4, _, he⟩ :=
      hok
    rw [Prod.mk.injEq] at he
    obtain ⟨rfl, rfl⟩ := he
    unfold blockDest blockCount
    exact ⟨by omega, by omega, Nat.add_assoc _ _ _, by omega, h4, rfl⟩
  · intro hblock
    obtain ⟨_, h1, h2, h3, h4, h5⟩ := hblock
    rw [Prod.mk.injEq] at h5
    obtain ⟨rfl, rfl⟩ := h5
    unfold blockCount at h1 h2
    refine ⟨(), (), by omega, (), _, ⟨by omega, trivial, rfl⟩, (), _, ⟨by omega, trivial, rfl⟩, (),
      (), by omega,
      (), (), by unfold blockDest blockCount at h3; omega, (), (), h4, trivial, ?_⟩
    exact Prod.ext (Subtype.ext (by rw [h2]; exact (Nat.add_assoc _ _ _).symm)) rfl

section
variable {d : Bytes} {p : Nat} {x : Canvas}

theorem painted_wide (h : x.Wide) (hin : p + blockLen d p ≤ d.length)
    (hfit : blockDest d p + blockCount d p ≤ gridSamples) : (painted d p x).Wide := by
  unfold blockLen at hin
  have h1 := h.output
  have h2 := h.written
  refine ⟨?_, ?_⟩
  · exact (splice_length (by omega) (by omega) (by rw [slice_length (by omega)]; omega)).trans h1
  · exact (splice_length (by omega) (by omega) (by rw [List.length_replicate]; omega)).trans h2

/-- Both sides do the same to the grid. -/
theorem painted_buf (h : x.Wide) (hin : p + blockLen d p ≤ d.length)
    (hfit : blockDest d p + blockCount d p ≤ gridSamples) :
    (painted d p x).buf = paint d p x.buf := by
  unfold blockLen at hin
  have h1 := h.output
  have h2 := h.written
  unfold painted Canvas.buf paint
  congr 1
  · funext i
    rw [splice_getD (by omega) (by omega) (by rw [slice_length (by omega)]; omega)]
    by_cases hc : blockDest d p ≤ i ∧ i < blockDest d p + blockCount d p
    · rw [if_pos hc, if_pos hc, slice_getD _ (by omega)]; rfl
    · rw [if_neg hc, if_neg hc]
  · funext i
    rw [splice_getD (by omega) (by omega) (by rw [List.length_replicate]; omega)]
    by_cases hc : blockDest d p ≤ i ∧ i < blockDest d p + blockCount d p
    · rw [if_pos hc, if_pos hc, List.getD_eq_getElem?_getD,
        List.getElem?_replicate_of_lt (by omega)]; rfl
    · rw [if_neg hc, if_neg hc]

/-- `any(written[i:j])` is a marked cell in the range. -/
theorem any_written {i j : Nat} (hj : j ≤ x.written.length) :
    (slice x.written i j).any (· ≠ 0) = false ↔ ∀ k, i ≤ k → k < j → x.buf.heatSeen k = 0 := by
  rw [List.any_eq_false]
  have hget : ∀ k, i + k < j → (slice x.written i j).getD k 0 = x.written.getD (i + k) 0 :=
    fun k hk => slice_getD _ hk 0
  have hlen := slice_length (i := i) hj
  apply Iff.intro
  · intro h k hik hkj
    have hk : k - i < (slice x.written i j).length := by omega
    have h0 := h _ (List.getElem_mem hk)
    have he := hget (k - i) (by omega)
    rw [List.getD_eq_getElem _ _ hk, show i + (k - i) = k by omega] at he
    rw [he, decide_eq_true_eq, not_not] at h0
    exact h0
  · intro h v hv
    obtain ⟨k, hk, rfl⟩ := List.mem_iff_getElem.mp hv
    have he := hget k (by omega)
    rw [List.getD_eq_getElem _ _ hk] at he
    rw [he, decide_eq_true_eq, not_not]
    exact h (i + k) (by omega) (by omega)

theorem all_written (h : x.Wide) : x.written.all (· ≠ 0) = true ↔
    seenCount x.buf = heatSamples := by
  rw [seenCount_full, List.all_eq_true]
  have hlen := h.written
  have hsame : gridSamples = heatSamples := rfl
  apply Iff.intro
  · intro hall i hi
    have h0 := hall _ (List.getElem_mem (show i < x.written.length by omega))
    show x.written.getD i 0 ≠ 0
    rw [List.getD_eq_getElem _ _ (by omega)]
    simpa using h0
  · intro hall v hv
    obtain ⟨i, hi, rfl⟩ := List.mem_iff_getElem.mp hv
    have h0 : x.written.getD i 0 ≠ 0 := hall i (by omega)
    rw [List.getD_eq_getElem _ _ hi] at h0
    simpa using h0

/-- A block is accepted on one side iff it is on the other. -/
theorem paintStep_iff (h : x.Wide) (hin : p + blockLen d p ≤ d.length) {y : Canvas × Unit}
    {w : Nat} :
    PaintStep d p (x, ()) y ↔ y = (painted d p x, ()) ∧
      BlockStep d p (w, x.buf) ((w + blockCount d p) % 2 ^ 32, (painted d p x).buf) := by
  have hsame : gridSamples = heatSamples := rfl
  have hlen := h.written
  unfold PaintStep BlockStep Covers
  apply Iff.intro
  · intro hst
    obtain ⟨h1, h2, rfl⟩ := hst
    rw [any_written (show _ ≤ x.written.length by omega)] at h2
    exact ⟨rfl, h1, fun i hi => h2 i hi.1 hi.2, by rw [painted_buf h hin h1]⟩
  · intro hst
    obtain ⟨rfl, h1, h2, _⟩ := hst
    exact ⟨h1, (any_written (show _ ≤ x.written.length by omega)).mpr fun i hi hj =>
      h2 i ⟨hi, hj⟩, rfl⟩

end

/-- A run of blocks on a canvas is one on the buffers that hold it. -/
theorem paint_run {d : Bytes} {l : List Nat} (hin : ∀ p ∈ l, p + blockLen d p ≤ d.length)
    {x : Canvas}
    (h : x.Wide) (w : Nat) {y : Canvas × Unit} (hrun : (steps (PaintStep d)).Run (x, ()) l y) :
    y.1.Wide ∧ ∃ w', (steps (BlockStep d)).Run (w, x.buf) l (w', y.1.buf) := by
  induction l generalizing x w with
  | nil => cases hrun; exact ⟨h, w, .nil _⟩
  | cons p l ih =>
    cases hrun with
    | cons hst hrun =>
      have hp := hin p List.mem_cons_self
      obtain ⟨rfl, hblock⟩ := (paintStep_iff h hp (w := w)).mp hst
      obtain ⟨hy, w', hw⟩ := ih (fun q hq => hin q (List.mem_cons_of_mem _ hq))
        (painted_wide h hp hblock.1) _ hrun
      exact ⟨hy, w', .cons hblock hw⟩

theorem paint_run_exists {d : Bytes} {l : List Nat} (hin : ∀ p ∈ l, p + blockLen d p ≤ d.length)
    {x : Canvas}
    (h : x.Wide) {w : Nat} {z : Nat × HeatBuf} (hrun : (steps (BlockStep d)).Run (w, x.buf) l z) :
    ∃ y, (steps (PaintStep d)).Run (x, ()) l (y, ()) ∧ y.Wide ∧ z.2 = y.buf := by
  induction l generalizing x w with
  | nil => cases hrun; exact ⟨x, .nil _, h, rfl⟩
  | cons p l ih =>
    cases hrun with
    | cons hst hrun =>
      have hp := hin p List.mem_cons_self
      obtain ⟨hfit, hnew, rfl⟩ := hst
      have hbuf := painted_buf h hp hfit
      have hstep : BlockStep d p (w, x.buf) ((w + blockCount d p) % 2 ^ 32, (painted d p x).buf) :=
        ⟨hfit, hnew, by rw [hbuf]⟩
      rw [← hbuf] at hrun
      obtain ⟨y, hy, hwide, hz⟩ := ih (fun q hq => hin q (List.mem_cons_of_mem _ hq))
        (painted_wide h hp hfit) hrun
      exact ⟨y, .cons ((paintStep_iff h hp).mpr ⟨rfl, hstep⟩) hy, hwide, hz⟩

theorem blank_seen (i : Nat) : Canvas.blank.buf.heatSeen i = 0 := by
  show (List.replicate gridSamples (0 : UInt8)).getD i 0 = 0
  rw [List.getD_eq_getElem?_getD, List.getElem?_getD_replicate_default_eq]

/-- `extract_heatmap` in terms of the driver's block steps. -/
theorem extractHeatmap_ok {x : Section} {g : Bytes} (hx : x.data.length = x.length)
    (h8 : 8 ≤ x.length) :
    Decoder.extractHeatmap x () = ((), .ok g) ↔ x.kind = 0x0100 ∧ x.mode = 1 ∧ x.headerValue = 8 ∧
      Tiles (blockLen x.data) 8 8 (items (blockLen x.data) x.length 8) x.length ∧
      ∃ b, (steps (BlockStep x.data)).Run (0, Canvas.blank.buf) (items (blockLen x.data) x.length 8)
        (heatSamples, b) ∧ g = (List.range heatSamples).map b.heatmap := by
  have hblank : Canvas.blank.Wide := ⟨List.length_replicate, List.length_replicate⟩
  have hout : ∀ y : Canvas, y.Wide → y.output = (List.range heatSamples).map y.buf.heatmap := by
    intro y hy
    have hlen := hy.output
    have hsame : gridSamples = heatSamples := rfl
    refine List.ext_getElem (by rw [List.length_map, List.length_range]; omega) fun i h1 h2 => ?_
    rw [List.getElem_map, List.getElem_range]
    exact (List.getD_eq_getElem _ _ h1).symm
  have hwalk : ∀ y : Canvas, walk x.length (Decoder.heatBlock x) 8 Canvas.blank () = ((), .ok y) ↔
    _ :=
    fun y => walk_items (by decide) (fun p a s n b t _ _ => heatBlock_ok hx) 8
      Canvas.blank () (Nat.le_refl _)
      h8 y ()
  simp only [Decoder.extractHeatmap, bind_eq_ok, raiseIf_eq_ok, pure_eq_ok, decide_eq_false_iff_not,
    Bool.or_eq_false_iff, not_not, Bool.not_eq_false']
  apply Iff.intro
  · intro hok
    obtain ⟨_, _, hk, _, _, ⟨hm, hv⟩, _, y, hy, _, _, hall, _, rfl⟩ := hok
    obtain ⟨ht, hrun⟩ := (hwalk y).mp hy
    obtain ⟨hwide, w, hblocks⟩ := paint_run (fun p hp => by have := (ht.mem hp).2.2; omega) hblank 0
      hrun
    have hw := (blocks_run hblocks (seenCount_blank blank_seen).symm).1
    rw [show w = heatSamples from hw.trans ((all_written hwide).mp hall)] at hblocks
    exact ⟨hk, hm, hv, ht, _, hblocks, hout y hwide⟩
  · intro hgrid
    obtain ⟨hk, hm, hv, ht, b, hblocks, hg⟩ := hgrid
    obtain ⟨y, hrun, hwide, hb⟩ := paint_run_exists (fun p hp => by have := (ht.mem hp).2.2; omega)
      hblank hblocks
    have hw := (blocks_run hblocks (seenCount_blank blank_seen).symm).1
    have hb : b = y.buf := hb
    rw [hb] at hw hg
    exact ⟨(), (), hk, (), (), ⟨hm, hv⟩, (), y, (hwalk y).mpr ⟨ht, hrun⟩, (), (),
      (all_written hwide).mpr hw.symm, trivial, hg.trans (hout y hwide).symm⟩

/-! ## A section of the report -/

theorem recordLen_view {d c : Bytes} {o n p : Nat} (h : View d c o n) (hp : p + 4 ≤ n) :
    recordLen (c.drop o) p = recordLen d p := by
  unfold recordLen
  rw [u16_drop, h.u16 (by omega)]

theorem blockLen_view {d c : Bytes} {o n p : Nat} (h : View d c o n) (hp : p + 8 ≤ n) :
    blockLen c (o + p) = blockLen d p := by
  unfold blockLen blockCount
  rw [h.u32 (by omega), Nat.add_assoc]

theorem blockStep_view {d c : Bytes} {o n p : Nat} (h : View d c o n) (hp : p + blockLen d p ≤ n)
    (x y : Nat × HeatBuf) : BlockStep d p x y ↔ BlockStep c (o + p) x y := by
  unfold blockLen at hp
  have hdest : blockDest c (o + p) = blockDest d p := (h.u32 (by omega)).symm
  have hcount : blockCount c (o + p) = blockCount d p := by
    unfold blockCount; rw [h.u32 (by omega), Nat.add_assoc]
  have hpaint : paint c (o + p) x.2 = paint d p x.2 := by
    unfold paint
    rw [hdest, hcount]
    congr 1
    funext i
    by_cases hc : blockDest d p ≤ i ∧ i < blockDest d p + blockCount d p
    · rw [if_pos hc, if_pos hc]
      unfold blockByte
      rw [hdest, h.byte _ (by omega)]
      congr 1
      omega
    · rw [if_neg hc, if_neg hc]
  unfold BlockStep Covers
  rw [hdest, hcount, hpaint]

theorem binsOf_view {d c : Bytes} {o n : Nat} (h : View d c o n) {l : List Nat}
    (hl : ∀ p ∈ l, p + recordLen d p ≤ n) (b : Option (List Nat)) :
    BinsOf d l b ↔ BinsOf c (l.map (o + ·)) b := by
  match l, hl with
  | [], _ => exact Iff.rfl
  | _ :: _ :: _, _ => exact Iff.rfl
  | [p], hl =>
    have hp := hl p List.mem_cons_self
    unfold recordLen at hp
    show NsrRecord d p ∧ _ ↔ NsrRecord c (o + p) ∧ _
    have hlen : u16 d (p + 2) = u16 c (o + p + 2) := by rw [h.u16 (by omega), Nat.add_assoc]
    by_cases h4 : 4 ≤ u16 d (p + 2)
    · have hcount : u8 d (p + 4) = u8 c (o + p + 4) := by rw [h.u8 (by omega), Nat.add_assoc]
      have hrec : NsrRecord d p ↔ NsrRecord c (o + p) := by
        apply Iff.intro
        · intro hr
          obtain ⟨h1, h2, h3⟩ := hr
          exact ⟨hlen ▸ h1, hcount ▸ h2, hlen ▸ hcount ▸ h3⟩
        · intro hr
          obtain ⟨h1, h2, h3⟩ := hr
          exact ⟨hlen ▸ h1, hcount ▸ h2, by rw [hlen, hcount]; exact h3⟩
      rw [hrec, hcount]
      refine and_congr_right fun hr => ?_
      have hfits := hr.fits
      rw [List.map_congr_left fun i hi => ?_]
      rw [List.mem_range] at hi
      rw [h.u16 (by omega), show o + (p + 8 + i * 4) = o + p + 8 + i * 4 by omega]
    · exact ⟨fun hr => absurd hr.1.payload h4, fun hr => absurd (hlen ▸ hr.1.payload) h4⟩

/-- The blocks of the section at `o` fill the grid `g`. -/
structure GridRead (c : Bytes) (o : Nat) (g : Bytes) : Prop where
  mode : u8 c (o + 6) = 1
  width : u8 c (o + 7) = 8
  tiles : Tiles (blockLen c) 8 (o + 8) (blocks c o) (o + sectionLen c o)
  run : ∃ b, (steps (BlockStep c)).Run (0, Canvas.blank.buf) (blocks c o) (heatSamples, b) ∧
    g = (List.range heatSamples).map b.heatmap

theorem GridRead.sound {c g : Bytes} {o : Nat} (h : GridRead c o g) : HeatSection c o := by
  obtain ⟨b, hrun, _⟩ := h.run
  exact ⟨h.mode, h.width, h.tiles, (blocks_grid blank_seen hrun).1⟩

theorem gridRead_exists {c : Bytes} {o : Nat} (h : HeatSection c o) : ∃ g, GridRead c o g := by
  obtain ⟨b, hrun⟩ := blocks_grid_exists h Canvas.blank.buf blank_seen
  exact ⟨_, h.mode, h.width, h.tiles, b, hrun, rfl⟩

/-- Cells that hold the bytes of their blocks hold the grid. -/
theorem GridRead.eq {c g : Bytes} {o : Nat} (h : GridRead c o g) {m : Nat → UInt8}
    (hm : Cells c o m) :
    (List.range heatSamples).map m = g := by
  obtain ⟨b, hrun, hg⟩ := h.run
  obtain ⟨hgrid, hcells, _⟩ := blocks_grid blank_seen hrun
  rw [hg]
  refine List.map_congr_left fun i hi => ?_
  rw [List.mem_range] at hi
  obtain ⟨p, ⟨hp, hc⟩, _⟩ := hgrid.once i hi
  rw [hm p hp i hc, hcells p hp i hc]

section
variable {b : UInt8} {c : Bytes} {o : Nat}

/-- The section at offset `1 + o` of a report is the one at `o` behind its id. -/
theorem sectionAt_view (hin : o + sectionLen c o ≤ c.length) :
    (sectionAt (b :: c) (1 + o)).length = sectionLen c o ∧
      View (sectionAt (b :: c) (1 + o)).data c o (sectionLen c o) := by
  have hlen : u32 (b :: c) (1 + o) = sectionLen c o := u32_cons b c o
  have hv : View (slice (b :: c) (1 + o) (1 + o + sectionLen c o)) (b :: c)
    (1 + o) (sectionLen c o) :=
    View.slice _ (by rw [List.length_cons]; omega)
  refine ⟨hlen, ?_, fun i hi => ?_⟩
  · show (slice (b :: c) (1 + o) (1 + o + u32 (b :: c) (1 + o))).length = _
    rw [hlen]; exact hv.length
  · show (slice (b :: c) (1 + o) (1 + o + u32 (b :: c) (1 + o))).getD i 0 = _
    rw [hlen, hv.byte i hi, show 1 + o + i = (o + i) + 1 by omega, List.getD_cons_succ]

theorem sectionAt_kind : (sectionAt (b :: c) (1 + o)).kind = sectionType c o := by
  show u16 (b :: c) (1 + o + 4) = _
  rw [Nat.add_assoc, u16_cons]; rfl

theorem grid_section (h8 : 8 ≤ sectionLen c o) (hin : o + sectionLen c o ≤ c.length) {g : Bytes} :
    Decoder.extractHeatmap (sectionAt (b :: c) (1 + o)) () = ((), .ok g) ↔
      sectionType c o = heatSection ∧ GridRead c o g := by
  obtain ⟨hlen, hv⟩ := sectionAt_view (b := b) hin
  have hmode : (sectionAt (b :: c) (1 + o)).mode = u8 c (o + 6) := by
    show u8 (b :: c) (1 + o + 6) = _
    rw [Nat.add_assoc, u8_cons]
  have hwidth : (sectionAt (b :: c) (1 + o)).headerValue = u8 c (o + 7) := by
    show u8 (b :: c) (1 + o + 7) = _
    rw [Nat.add_assoc, u8_cons]
  rw [extractHeatmap_ok (by rw [hv.length, hlen]) (by rw [hlen]; exact h8), sectionAt_kind,
    hmode, hwidth, hlen]
  generalize (sectionAt (b :: c) (1 + o)).data = d at hv
  refine and_congr_right fun _ => ?_
  have hlens : ∀ p, 8 ≤ p → p + 8 ≤ sectionLen c o → blockLen c (o + p) = blockLen d p :=
    fun p _ hp => blockLen_view hv hp
  have hsteps : ∀ l, Tiles (blockLen d) 8 8 l (sectionLen c o) → ∀ p ∈ l, ∀ x y,
      BlockStep d p x y ↔ BlockStep c (o + p) x y := fun l hl p hp x y =>
    blockStep_view hv (hl.mem hp).2.2 x y
  apply Iff.intro
  · intro hgrid
    obtain ⟨h1, h2, ht, buf, hrun, hg⟩ := hgrid
    have htc := ht.shift o hlens
    have hblocks : _ = blocks c o := htc.eq_items (by decide)
    rw [run_map (hsteps _ ht), hblocks] at hrun
    exact ⟨h1, h2, hblocks ▸ htc, buf, hrun, hg⟩
  · intro hgrid
    obtain ⟨h1, h2, htc, buf, hrun, hg⟩ := hgrid
    obtain ⟨l, hl, ht⟩ := htc.unshift rfl rfl hlens
    have hitems := ht.eq_items (by decide)
    rw [hl, ← run_map (hsteps _ ht), hitems] at hrun
    exact ⟨h1, h2, hitems ▸ ht, buf, hrun, hg⟩

theorem nsr_section (h8 : 8 ≤ sectionLen c o) (hin : o + sectionLen c o ≤ c.length)
    (hk : sectionType c o = metadataSection) {v : Option (List Nat)} :
    extractNsrBins (sectionAt (b :: c) (1 + o)) () = ((), .ok v) ↔
      Tiles (recordLen (c.drop o)) 4 7 (records c o) (sectionLen c o) ∧ BinsOf c (nsrOf c o) v := by
  obtain ⟨hlen, hv⟩ := sectionAt_view (b := b) hin
  rw [extractNsrBins_ok (by rw [hv.length, hlen]) (by rw [hlen]; exact h8)
    (by rw [sectionAt_kind]; exact hk), hlen]
  generalize (sectionAt (b :: c) (1 + o)).data = d at hv
  have hlens : ∀ p, 7 ≤ p → p + 4 ≤ sectionLen c o → recordLen (c.drop o) p = recordLen d p :=
    fun p _ hp => recordLen_view hv hp
  have hnsr : ∀ l, Tiles (recordLen d) 4 7 l (sectionLen c o) →
      (BinsOf d (l.filter fun p => u8 d p = 4) v ↔
        BinsOf c ((l.map (o + ·)).filter fun p => u8 c p = 4) v) := by
    intro l hl
    rw [binsOf_view hv fun p hp => (hl.mem (List.mem_filter.mp hp).1).2.2, List.filter_map]
    rw [List.filter_congr fun p hp => ?_]
    have := hl.mem hp
    rw [hv.u8 (by omega)]
    rfl
  have hof : nsrOf c o = ((records c o).map (o + ·)).filter fun p => u8 c p = 4 := if_pos hk
  apply Iff.intro
  · intro hbins
    obtain ⟨ht, hb⟩ := hbins
    have htc := ht.congr hlens
    have hrecords : _ = records c o := htc.eq_items (by decide)
    rw [hnsr _ ht, hrecords, ← hof] at hb
    exact ⟨hrecords ▸ htc, hb⟩
  · intro hbins
    obtain ⟨htc, hb⟩ := hbins
    have ht := htc.congr fun p h1 h2 => (hlens p h1 h2).symm
    have hitems := ht.eq_items (by decide)
    rw [hof, ← hnsr _ ht, hitems] at hb
    exact ⟨hitems ▸ ht, hb⟩

end

/-! ## The whole report -/

/-- The decoder raises nothing on `report`: one `0x0100` section, which gives
`grid`, and no `0xff00` section or one, which gives `nsr`. -/
structure Accepts (report grid : Bytes) (nsr : Option (List Nat)) : Prop where
  parsed : ∃ p, parseSections report () = ((), .ok p) ∧
    (∃ x, p.sections.filter (·.kind = 0x0100) = [x] ∧
    Decoder.extractHeatmap x () = ((), .ok grid)) ∧
    match p.sections.filter (·.kind = 0xff00) with
    | [] => nsr = none
    | [x] => extractNsrBins x () = ((), .ok nsr)
    | _ => False

def metadataIn (c : Bytes) (l : List Nat) : List Nat :=
  l.filter fun o => sectionType c o = metadataSection

theorem nsrIn_metadataIn (c : Bytes) (l : List Nat) :
    nsrIn c l = (metadataIn c l).flatMap (nsrOf c) := by
  induction l with
  | nil => rfl
  | cons o l ih =>
    rw [nsrIn_cons, ih]
    unfold metadataIn
    by_cases h : sectionType c o = metadataSection
    · rw [List.filter_cons_of_pos (by simpa using h), List.flatMap_cons]
    · rw [List.filter_cons_of_neg (by simpa using h), nsrOf, if_neg h, List.nil_append]

section
variable {b : UInt8} {c : Bytes}

theorem sections_view {l : List Section} : (∃ p, parseSections (b :: c) () = ((), .ok p) ∧
    p.sections = l) ↔
    9 ≤ c.length ∧ (7 ≤ containerLen c ∧ containerLen c ≤ c.length - 2) ∧
      Tiles (sectionLen c) 8 9 (sections c) (2 + containerLen c) ∧
      l = (sections c).map fun o => sectionAt (b :: c) (1 + o) := by
  have hlen : u32 (b :: c) 3 = containerLen c := u32_cons b c 2
  have hlens : ∀ p, 9 ≤ p → p + 8 ≤ 2 + containerLen c → u32 (b :: c) (1 + p) = sectionLen c p :=
    fun p _ _ => u32_cons b c p
  have hstop : 3 + containerLen c = 1 + (2 + containerLen c) := by omega
  have hmap : ∀ m : List Nat, (m.map (1 + ·)).map (sectionAt (b :: c)) =
      m.map fun o => sectionAt (b :: c) (1 + o) := fun m => List.map_map
  apply Iff.intro
  · intro hp
    obtain ⟨p, hp, rfl⟩ := hp
    obtain ⟨h1, h2, h3, ht, rfl⟩ := parseSections_ok.mp hp
    rw [List.length_cons] at h1 h3
    rw [hlen] at h2 h3 ht
    obtain ⟨m, hm, htc⟩ := ht.unshift (a := 9) rfl hstop hlens
    have hsec : _ = sections c := htc.eq_items (by decide)
    refine ⟨by omega, by omega, hsec ▸ htc, ?_⟩
    show (offsets (b :: c)).map _ = _
    rw [hm, hmap, hsec]
  · intro hsec
    obtain ⟨h1, h2, htc, rfl⟩ := hsec
    have ht : Tiles (u32 (b :: c)) 8 10 _ (1 + (2 + containerLen c)) := htc.shift 1 hlens
    rw [← hstop, ← hlen] at ht
    have hoff : _ = offsets (b :: c) := ht.eq_items (by decide)
    refine ⟨_, parseSections_ok.mpr ⟨?_, ?_, ?_, hoff ▸ ht, rfl⟩, ?_⟩
    · rw [List.length_cons]; omega
    · omega
    · rw [List.length_cons]; omega
    · show (offsets (b :: c)).map _ = _
      rw [← hoff, hmap]

/-- The sections of one type, on both sides. -/
theorem filter_kind (l : List Nat) (k : Nat) :
    (l.map fun o => sectionAt (b :: c) (1 + o)).filter (·.kind = k) =
    (l.filter fun o => sectionType c o = k).map fun o => sectionAt (b :: c) (1 + o) := by
  rw [List.filter_map]
  congr 1
  refine List.filter_congr fun o _ => ?_
  show decide ((sectionAt (b :: c) (1 + o)).kind = k) = _
  rw [sectionAt_kind]

theorem heat_iff {l : List Nat} (hl : ∀ o ∈ l, 8 ≤ sectionLen c o ∧ o + sectionLen c o ≤ c.length)
    {g : Bytes} :
    (∃ x, (l.map fun o => sectionAt (b :: c) (1 + o)).filter (·.kind = 0x0100) = [x] ∧
      Decoder.extractHeatmap x () = ((), .ok g)) ↔ ∃ o, heatIn c l = [o] ∧ GridRead c o g := by
  rw [filter_kind]
  apply Iff.intro
  · intro hx
    obtain ⟨x, hx, hg⟩ := hx
    obtain ⟨o, ho, rfl⟩ := List.map_eq_singleton_iff.mp hx
    have hmem := hl o (List.mem_of_mem_filter (ho ▸ List.mem_singleton_self o))
    exact ⟨o, ho, ((grid_section hmem.1 hmem.2).mp hg).2⟩
  · intro ho
    obtain ⟨o, ho, hg⟩ := ho
    have hin : o ∈ heatIn c l := ho ▸ List.mem_singleton_self o
    have hmem := hl o (List.mem_of_mem_filter hin)
    have hk : sectionType c o = heatSection := by simpa using (List.mem_filter.mp hin).2
    exact ⟨_, List.map_eq_singleton_iff.mpr ⟨o, ho, rfl⟩, (grid_section hmem.1 hmem.2).mpr ⟨hk, hg⟩⟩

theorem metadata_iff {l : List Nat} (hl : ∀ o ∈ l, 8 ≤ sectionLen c o ∧
    o + sectionLen c o ≤ c.length)
    {v : Option (List Nat)} : (match (l.map fun o => sectionAt (b :: c) (1 + o)).filter
      (·.kind = 0xff00) with
      | [] => v = none
      | [x] => extractNsrBins x () = ((), .ok v)
      | _ => False) ↔ match metadataIn c l with
      | [] => v = none
      | [o] => Tiles (recordLen (c.drop o)) 4 7 (records c o) (sectionLen c o) ∧ BinsOf c (nsrOf c o) v
      | _ => False := by
  rw [filter_kind, show (l.filter fun o => sectionType c o = 0xff00) = metadataIn c l from rfl]
  have hall : ∀ o ∈ metadataIn c l, (8 ≤ sectionLen c o ∧ o + sectionLen c o ≤ c.length) ∧
      sectionType c o = metadataSection := fun o ho =>
    ⟨hl o (List.mem_of_mem_filter ho), by simpa using (List.mem_filter.mp ho).2⟩
  match metadataIn c l, hall with
  | [], _ => exact Iff.rfl
  | _ :: _ :: _, _ => exact Iff.rfl
  | [o], hall =>
    obtain ⟨⟨h8, hin⟩, hk⟩ := hall o List.mem_cons_self
    exact nsr_section h8 hin hk

/-- What the decoder accepts, on the driver's view of the report. -/
theorem accepts_iff {g : Bytes} {v : Option (List Nat)} : Accepts (b :: c) g v ↔
    9 ≤ c.length ∧ (7 ≤ containerLen c ∧ containerLen c ≤ c.length - 2) ∧
      Tiles (sectionLen c) 8 9 (sections c) (2 + containerLen c) ∧
      (∃ o, heatIn c (sections c) = [o] ∧ GridRead c o g) ∧
      match metadataIn c (sections c) with
      | [] => v = none
      | [o] => Tiles (recordLen (c.drop o)) 4 7 (records c o) (sectionLen c o) ∧ BinsOf c (nsrOf c o) v
      | _ => False := by
  have hparts : 9 ≤ c.length → 7 ≤ containerLen c ∧ containerLen c ≤ c.length - 2 →
      Tiles (sectionLen c) 8 9 (sections c) (2 + containerLen c) → ∀ o ∈ sections c,
      8 ≤ sectionLen c o ∧ o + sectionLen c o ≤ c.length := by
    intro _ hc ht o ho
    have := ht.mem ho
    omega
  apply Iff.intro
  · intro hacc
    obtain ⟨p, hp, hheat, hnsr⟩ := hacc
    obtain ⟨h1, h2, ht, hl⟩ := sections_view.mp ⟨p, hp, rfl⟩
    rw [hl] at hheat hnsr
    exact ⟨h1, h2, ht, (heat_iff (hparts h1 h2 ht)).mp hheat,
      (metadata_iff (hparts h1 h2 ht)).mp hnsr⟩
  · intro hacc
    obtain ⟨h1, h2, ht, hheat, hnsr⟩ := hacc
    obtain ⟨p, hp, hl⟩ := sections_view.mpr ⟨h1, h2, ht, rfl⟩
    refine ⟨p, hp, ?_, ?_⟩ <;> rw [hl]
    · exact (heat_iff (hparts h1 h2 ht)).mpr hheat
    · exact (metadata_iff (hparts h1 h2 ht)).mpr hnsr

theorem BinsOf.records {l : List Nat} {v : Option (List Nat)} (h : BinsOf c l v) :
    l.length ≤ 1 ∧ ∀ p ∈ l, NsrRecord c p := by
  match l, h with
  | [], _ => exact ⟨Nat.zero_le _, nofun⟩
  | [p], h => exact ⟨Nat.le_refl _, fun q hq => List.mem_singleton.mp hq ▸ h.1⟩
  | _ :: _ :: _, h => exact h.elim

theorem binsOf_exists {l : List Nat} (hone : l.length ≤ 1) (hwf : ∀ p ∈ l, NsrRecord c p) :
    ∃ v, BinsOf c l v := by
  match l, hone, hwf with
  | [], _, _ => exact ⟨none, rfl⟩
  | [p], _, hwf => exact ⟨_, hwf p List.mem_cons_self, rfl⟩

/-- Every report the decoder accepts follows the grammar. -/
theorem accepts_grammar {g : Bytes} {v : Option (List Nat)} (h : Accepts (b :: c) g v) :
    HeatGrammar c := by
  obtain ⟨h1, h2, ht, ⟨o, ho, hgrid⟩, hnsr⟩ := accepts_iff.mp h
  have hmem : ∀ o ∈ sections c, sectionType c o = metadataSection → o ∈ metadataIn c (sections c) :=
    fun o ho hk => List.mem_filter.mpr ⟨ho, by simpa using hk⟩
  have hin := nsrIn_metadataIn c (sections c)
  cases hm : metadataIn c (sections c) with
  | nil =>
    rw [hm] at hin hmem
    refine ⟨h1, h2, ht, fun o ho hk => absurd (hmem o ho hk) List.not_mem_nil, ?_, ?_, o,
      ho, hgrid.sound⟩
    · rw [hin]; exact Nat.zero_le _
    · rw [hin]; exact nofun
  | cons q rest =>
    rw [hm] at hin hmem hnsr
    cases rest with
    | cons _ _ => exact hnsr.elim
    | nil =>
      rw [List.flatMap_singleton] at hin
      obtain ⟨hone, hwf⟩ := hnsr.2.records
      refine ⟨h1, h2, ht, fun o ho hk => ?_, hin ▸ hone, hin ▸ hwf, o, ho, hgrid.sound⟩
      rw [List.mem_singleton.mp (hmem o ho hk)]
      exact hnsr.1

theorem grammar_accepts (h : HeatGrammar c) (hone : (metadataIn c (sections c)).length ≤ 1) :
    ∃ g v, Accepts (b :: c) g v := by
  obtain ⟨o, ho, hsec⟩ := h.heat
  obtain ⟨g, hgrid⟩ := gridRead_exists hsec
  have hin := nsrIn_metadataIn c (sections c)
  match hm : metadataIn c (sections c), hone with
  | [], _ => exact ⟨g, none, accepts_iff.mpr ⟨h.long, h.container, h.tiles, ⟨o, ho, hgrid⟩, by rw [hm]⟩⟩
  | [q], _ =>
    rw [hm, List.flatMap_singleton] at hin
    obtain ⟨v, hv⟩ := binsOf_exists (hin ▸ h.nsrOne) (hin ▸ h.nsr)
    have hq := List.mem_filter.mp (hm ▸ List.mem_singleton_self q : q ∈ metadataIn c (sections c))
    refine ⟨g, v, accepts_iff.mpr ⟨h.long, h.container, h.tiles, ⟨o, ho, hgrid⟩, ?_⟩⟩
    rw [hm]
    exact ⟨h.metadata q hq.1 (by simpa using hq.2), hv⟩

/-- The grid and the bins the driver's buffers hold. -/
def grid (t : HeatBuf) : Bytes := (List.range heatSamples).map t.heatmap

def nsr (t : HeatBuf) : Option (List Nat) :=
  if t.nsrValid then some ((List.range t.nsrBinCount).map t.nsrBins) else none

/-- Buffers that hold the report hold what the decoder returns. -/
theorem decoded_eq {g : Bytes} {v : Option (List Nat)} {t : HeatBuf} (h : Accepts (b :: c) g v)
    (hd : Decoded c t) : grid t = g ∧ nsr t = v := by
  obtain ⟨_, _, _, ⟨o, ho, hgrid⟩, hnsr⟩ := accepts_iff.mp h
  refine ⟨hgrid.eq (hd.cells o (ho ▸ List.mem_singleton_self o)), ?_⟩
  have hin := nsrIn_metadataIn c (sections c)
  have hbins := hd.nsr
  unfold nsr
  match hm : metadataIn c (sections c), hnsr with
  | [], hnsr =>
    rw [hm] at hin
    rw [hin] at hbins
    have hv : v = none := hnsr
    rw [hbins.1, hv]
    rfl
  | [q], hnsr =>
    rw [hm, List.flatMap_singleton] at hin
    rw [hin] at hbins
    match hl : nsrOf c q, hnsr.2 with
    | [], hv =>
      rw [hl] at hbins
      rw [hbins.1, hv]
      rfl
    | [p], hv =>
      rw [hl] at hbins
      obtain ⟨h1, h2, h3⟩ := hbins
      rw [h1, h2, hv.2, if_pos rfl]
      congr 1
      refine List.map_congr_left fun i hi => ?_
      rw [h3, if_pos (List.mem_range.mp hi)]

/-- The number of `0xff00` sections, on both sides. -/
theorem metadata_count {p : Parsed} (hp : parseSections (b :: c) () = ((), .ok p)) :
    (p.sections.filter (·.kind = 0xff00)).length = (metadataIn c (sections c)).length := by
  obtain ⟨_, _, _, hl⟩ := sections_view.mp ⟨p, hp, rfl⟩
  rw [hl, filter_kind, List.length_map]
  rfl

end

/-- For every report behind its id and every prior state of the buffers. -/
theorem decoders_agree (c : Bytes) (s : HeatBuf)
    (hone : ∀ p, parseSections (0x12 :: c) () = ((), .ok p) →
      (p.sections.filter (·.kind = 0xff00)).length ≤ 1)
    (hend : containerLen c ≤ 2 ^ 32 - 3 ∨ c.length < 2 ^ 32) :
    ((∃ t, HeatFrame.extractHeatmap c s = (t, .ok ())) ↔ ∃ g v, Accepts (0x12 :: c) g v) ∧
      ∀ t g v, HeatFrame.extractHeatmap c s = (t, .ok ()) → Accepts (0x12 :: c) g v →
        grid t = g ∧ nsr t = v := by
  refine ⟨⟨?_, ?_⟩, fun t g v ht hacc => decoded_eq hacc (accepted_grammar ht).2⟩
  · intro hok
    obtain ⟨t, ht⟩ := hok
    have hg := (accepted_grammar ht).1.1
    obtain ⟨p, hp, _⟩ := (sections_view (b := 0x12)).mpr ⟨hg.long, hg.container, hg.tiles, rfl⟩
    have h1 := hone p hp
    rw [metadata_count hp] at h1
    exact grammar_accepts hg h1
  · intro hacc
    obtain ⟨g, v, hacc⟩ := hacc
    have hg := accepts_grammar hacc
    -- The container of an accepted report ends within it.
    have hwrap : containerLen c ≤ 2 ^ 32 - 3 := by
      have hc := hg.container.2
      omega
    exact grammar_accepted hg hwrap s

theorem content_one (grid' trailer : Bytes) (hg : grid'.length = heatSamples) (p : Parsed)
    (hp : parseSections (HeatWriter.makeReport grid' trailer) () = ((), .ok p)) :
    (p.sections.filter (·.kind = 0xff00)).length ≤ 1 := by
  rw [metadata_count hp, (HeatWriter.content_sections trailer hg).2.1]
  exact List.length_filter_le _ _

/-- The empty panel, all cells at their resting value. -/
theorem decoders_agree_resting :
    ∃ t, HeatFrame.extractHeatmap (HeatWriter.content (List.replicate heatSamples 0xb5) [])
    Canvas.blank.buf =
        (t, .ok ()) ∧
      Accepts (HeatWriter.makeReport (List.replicate heatSamples 0xb5) []) (grid t) (nsr t) := by
  have hlen : (List.replicate heatSamples (0xb5 : UInt8)).length = heatSamples :=
    List.length_replicate
  obtain ⟨hiff, heq⟩ := decoders_agree (HeatWriter.content (List.replicate heatSamples 0xb5) [])
    Canvas.blank.buf
    (content_one _ [] hlen) (Or.inl (by rw [(HeatWriter.content_sections [] hlen).1]; decide))
  obtain ⟨t, ht, _⟩ := HeatWriter.content_read [] hlen Canvas.blank.buf
  obtain ⟨g, v, hacc⟩ := hiff.mp ⟨t, ht⟩
  obtain ⟨hgrid, hnsr⟩ := heq t g v ht hacc
  exact ⟨t, ht, by rw [hgrid, hnsr]; exact hacc⟩

/-- The decoder reads a report of 2^32 + 1 bytes whose container end is 0 in
32 bits; the driver finds no section in it. -/
theorem wrapped_container_differs : ∃ c : Bytes,
    (∀ p, parseSections (0x12 :: c) () = ((), .ok p) →
    (p.sections.filter (·.kind = 0xff00)).length ≤ 1) ∧
    (∃ g v, Accepts (0x12 :: c) g v) ∧ ∀ s t, HeatFrame.extractHeatmap c s ≠ (t, .ok ()) := by
  have hg := wrapped_grammar (2 ^ 32 - 3161) (by decide)
  obtain ⟨hC, htiles⟩ := wrapped_sections (2 ^ 32 - 3161)
  obtain ⟨h9, hT⟩ := wrapped_types (2 ^ 32 - 3161)
  generalize wrappedReport (2 ^ 32 - 3161) = c at hg hC htiles h9 hT
  have hnone : metadataIn c (sections c) = [] := by
    have hsec : _ = sections c := htiles.eq_items (by decide)
    unfold metadataIn
    rw [← hsec, List.filter_cons_of_neg (by rw [h9]; decide),
      List.filter_cons_of_neg (by rw [hT]; decide)]
    rfl
  refine ⟨c, fun p hp => ?_, grammar_accepts hg (by rw [hnone]; exact Nat.zero_le _),
    fun s t ht => ?_⟩
  · rw [metadata_count hp, hnone]
    exact Nat.zero_le _
  · have h := (accepted_grammar ht).1.2
    rw [hC] at h
    exact absurd h (by decide)

end Decoder
end Sp11Touch
