import Sp11Touch.L1Encoding.HeatAccept
/-!
# Reports of one block

`makeReport` is the report the decoder's tests build around a grid: one
`0x0100` section with one block of all cells. `content_read`: the driver
accepts it and its buffers hold the grid.
-/
namespace Sp11Touch
namespace HeatWriter
open Bytes HeatFrame

/-- mirrors tests/test_heat_decoder.py:52-58 (`make_section`) -/
def makeSection (blocks : List (Nat × Bytes)) (kind mode headerValue : Nat) : Bytes :=
  let payload := blocks.flatMap fun (destination, data) =>
    pack32 destination ++ pack32 data.length ++ data
  pack32 (8 + payload.length) ++ pack16 kind ++ [UInt8.ofNat mode,
    UInt8.ofNat headerValue] ++ payload

/-- The report of `make_report` behind its id `0x12`. -/
def content (grid trailer : Bytes) : Bytes :=
  let section' := makeSection [(0, grid)] 0x0100 1 8
  pack16 0x1234 ++ pack32 (7 + section'.length) ++ [0, 0, 0] ++ section' ++ trailer

/-- mirrors tests/test_heat_decoder.py:61-71 (`make_report`) -/
def makeReport (grid trailer : Bytes) : Bytes := 0x12 :: content grid trailer

/-- What stands before the cells of a grid of `n` bytes. -/
def head (n : Nat) : Bytes :=
  pack16 0x1234 ++ pack32 (23 + n) ++ [0, 0, 0] ++ pack32 (16 + n) ++ pack16 0x0100 ++ [1, 8] ++
    pack32 0 ++ pack32 n

theorem content_eq (grid trailer : Bytes) : content grid trailer =
    head grid.length ++ (grid ++ trailer) := by
  have hlen : (makeSection [(0, grid)] 0x0100 1 8).length = 16 + grid.length := by
    unfold makeSection
    simp only [List.flatMap_cons, List.flatMap_nil, List.append_nil, List.length_append,
      List.length_cons,
      List.length_nil, pack32, pack16]
    omega
  have hpay : 8 + (pack32 0 ++ (pack32 grid.length ++ grid)).length = 16 + grid.length := by
    simp only [List.length_append, List.length_cons, List.length_nil, pack32, pack16]
    omega
  unfold content head
  simp only [hlen]
  rw [show 7 + (16 + grid.length) = 23 + grid.length by omega]
  unfold makeSection
  simp only [List.flatMap_cons, List.flatMap_nil, List.append_nil, List.append_assoc, hpay]
  rfl

section
variable {grid : Bytes} (trailer : Bytes) (hg : grid.length = heatSamples)
include hg

theorem content_u32 {i : Nat} (h : i + 4 ≤ 25) : u32 (content grid trailer) i =
    u32 (head heatSamples) i := by
  rw [content_eq, hg]
  exact u32_append h

theorem content_u16 {i : Nat} (h : i + 2 ≤ 25) : u16 (content grid trailer) i =
    u16 (head heatSamples) i := by
  rw [content_eq, hg]
  exact u16_append h

theorem content_u8 {i : Nat} (h : i < 25) : u8 (content grid trailer) i =
    u8 (head heatSamples) i := by
  rw [content_eq, hg]
  exact u8_append h

theorem content_cell {i : Nat} (h : i < heatSamples) :
    (content grid trailer).getD (25 + i) 0 = grid.getD i 0 := by
  have hhead : (head grid.length).length = 25 := rfl
  rw [content_eq, List.getD_append_right _ _ _ _ (by omega), hhead, Nat.add_sub_cancel_left,
    List.getD_append _ _ _ _ (by omega)]

theorem content_length : (content grid trailer).length = 3153 + trailer.length := by
  have hhead : (head grid.length).length = 25 := rfl
  rw [content_eq, List.length_append, List.length_append, hhead, hg]
  show 25 + (3128 + _) = _
  omega

theorem content_sections : containerLen (content grid trailer) = 3151 ∧
    sections (content grid trailer) = [9] ∧ sectionLen (content grid trailer) 9 = 3144 ∧
    Tiles (sectionLen (content grid trailer)) 8 9 [9]
      (2 + containerLen (content grid trailer)) := by
  have hC : containerLen (content grid trailer) = 3151 := content_u32 trailer hg (by decide)
  have h9 : sectionLen (content grid trailer) 9 = 3144 := content_u32 trailer hg (by decide)
  have htiles : Tiles (sectionLen (content grid trailer)) 8 9 [9]
    (2 + containerLen (content grid trailer)) := by
    refine .cons (by omega) ?_
    rw [h9, hC]
    exact .nil _
  exact ⟨hC, (htiles.eq_items (by decide)).symm, h9, htiles⟩

theorem content_type : sectionType (content grid trailer) 9 = heatSection :=
  content_u16 trailer hg (by decide)

theorem content_blocks : blockDest (content grid trailer) 17 = 0 ∧
    blockCount (content grid trailer) 17 = heatSamples ∧ blocks (content grid trailer) 9 = [17] ∧
    Tiles (blockLen (content grid trailer)) 8 (9 + 8) [17]
      (9 + sectionLen (content grid trailer) 9) := by
  have hcount : blockCount (content grid trailer) 17 = heatSamples :=
    content_u32 trailer hg (by decide)
  have htiles : Tiles (blockLen (content grid trailer)) 8 (9 + 8) [17]
      (9 + sectionLen (content grid trailer) 9) := by
    refine .cons (Nat.le_add_right _ _) ?_
    unfold blockLen
    rw [hcount, (content_sections trailer hg).2.2.1]
    exact .nil _
  exact ⟨content_u32 trailer hg (by decide), hcount, (htiles.eq_items (by decide)).symm, htiles⟩

theorem content_nsr : nsrIn (content grid trailer) (sections (content grid trailer)) = [] := by
  have hne : sectionType (content grid trailer) 9 ≠ metadataSection := by
    rw [content_type trailer hg]; decide
  rw [(content_sections trailer hg).2.1, nsrIn_cons, nsrOf, if_neg hne]
  rfl

theorem content_heat : heatIn (content grid trailer) (sections (content grid trailer)) = [9] := by
  rw [(content_sections trailer hg).2.1, heatIn_cons_heat (content_type trailer hg)]
  rfl

theorem content_grammar : HeatGrammar (content grid trailer) := by
  obtain ⟨hC, hsec, _, htiles⟩ := content_sections trailer hg
  obtain ⟨hdest, hcount, hb, hblocks⟩ := content_blocks trailer hg
  have hlen : (content grid trailer).length = _ := content_length trailer hg
  refine ⟨by omega, by omega, by rw [hsec]; exact htiles, ?_, ?_, ?_, 9,
    content_heat trailer hg, ?_, ?_,
    by rw [hb]; exact hblocks, ?_, ?_⟩
  · intro o ho hm
    rw [hsec] at ho
    rw [List.mem_singleton.mp ho, content_type trailer hg] at hm
    exact absurd hm (by decide)
  · rw [content_nsr trailer hg]; exact Nat.zero_le _
  · rw [content_nsr trailer hg]; exact nofun
  · exact content_u8 trailer hg (by decide)
  · exact content_u8 trailer hg (by decide)
  · intro p hp
    rw [hb] at hp
    rw [List.mem_singleton.mp hp, hdest, hcount, Nat.zero_add]
  · intro i hi
    refine ⟨17, ⟨by rw [hb]; exact List.mem_singleton_self _, ?_⟩, fun p hp => ?_⟩
    · unfold Covers
      rw [hdest, hcount]
      omega
    · rw [hb] at hp
      exact List.mem_singleton.mp hp.1

/-- The driver reads back the grid that was written. -/
theorem content_read (s : HeatBuf) : ∃ t, extractHeatmap (content grid trailer) s = (t, .ok ()) ∧
    (∀ i, i < heatSamples → t.heatmap i = grid.getD i 0) ∧ t.nsrValid = false := by
  have hend : containerLen (content grid trailer) ≤ 2 ^ 32 - 3 := by
    rw [(content_sections trailer hg).1]; decide
  obtain ⟨t, ht⟩ := grammar_accepted (content_grammar trailer hg) hend s
  have hd := (accepted_grammar ht).2
  obtain ⟨hdest, hcount, hb, _⟩ := content_blocks trailer hg
  refine ⟨t, ht, fun i hi => ?_, ?_⟩
  · have hc : Covers (content grid trailer) 17 i := by
      unfold Covers
      rw [hdest, hcount]
      omega
    rw [hd.cells 9 (by rw [content_heat trailer hg]; exact List.mem_singleton_self _) 17
      (by rw [hb]; exact List.mem_singleton_self _) i hc]
    unfold blockByte
    rw [hdest]
    exact content_cell trailer hg hi
  · have hn := hd.nsr
    rw [content_nsr trailer hg] at hn
    exact hn.1

end

end HeatWriter
end Sp11Touch
