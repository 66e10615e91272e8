import Sp11Touch.Core.Twin
import Sp11Touch.L1Encoding.HeatFrame
/-!
# The parser's buffers carry nothing over

`extractHeatmap` on one content from two states of its buffers exits the same
way, and after a normal return the buffers agree on all that is read later.
The grid is cleared by the `0x0100` section, the bins by the type-`0x04`
record, `nsr_valid` and `nsr_bin_count` before the first section; bins that
no record set are behind a clear `nsr_valid`.
-/
namespace Sp11Touch
namespace HeatFrame
open Proc Bytes

/-- The fields a frame may read agree; the grid does once it was `found`. -/
structure SameBuf (found : Bool) (a b : HeatBuf) : Prop where
  valid : a.nsrValid = b.nsrValid
  count : a.nsrBinCount = b.nsrBinCount
  bins : a.nsrValid = true → a.nsrBins = b.nsrBins
  heatmap : found = true → a.heatmap = b.heatmap

/-- Inside the `0x0100` section the marks agree too. -/
structure SameGrid (a b : HeatBuf) : Prop where
  buf : SameBuf true a b
  seen : a.heatSeen = b.heatSeen

/-- A bin in the making: the array was cleared. -/
structure SameBins (found : Bool) (a b : HeatBuf) : Prop where
  bins : a.nsrBins = b.nsrBins
  heatmap : found = true → a.heatmap = b.heatmap

theorem storeNsrBin_twin (found : Bool) (c : Bytes) (record i : Nat) :
    Twin (SameBins found) (storeNsrBin c record i) fun _ => SameBins found := by
  unfold storeNsrBin
  refine Twin.bind (Twin.silent (Silent.le16At c _)) fun value => Twin.modify fun a b h => ?_
  exact ⟨by rw [h.bins], h.heatmap⟩

theorem storeNsrRecord_twin (found : Bool) (c : Bytes) (record payloadLen : Nat) :
    Twin (SameBuf found) (storeNsrRecord c record payloadLen) fun _ => SameBuf found := by
  unfold storeNsrRecord
  refine Twin.bind (Twin.gets fun a b h => h.valid) fun valid => ?_
  refine Twin.bind (Twin.silent (Silent.errorIf _ _)) fun _ => ?_
  refine Twin.bind (Twin.silent (Silent.byteAt c _)) fun count => ?_
  refine Twin.bind (Twin.silent (Silent.errorIf _ _)) fun _ => ?_
  have hclear : Twin (SameBuf found) (modify fun b =>
    { b with nsrBins := fun _ => 0 } : HeatProc Unit)
      fun _ => SameBins found := Twin.modify fun a b h => ⟨rfl, h.heatmap⟩
  refine Twin.bind hclear fun _ => ?_
  refine Twin.bind (Twin.forRange (fun i => storeNsrBin_twin found c record i) 0) fun _ => ?_
  exact Twin.modify fun a b h => ⟨rfl, rfl, fun _ => h.bins, h.heatmap⟩

theorem nsrRecord_twin (found : Bool) (c : Bytes) (sectionLen position : Nat) (a : Unit) :
    Twin (SameBuf found) (nsrRecord c sectionLen position a) fun _ => SameBuf found := by
  unfold nsrRecord
  refine Twin.bind (Twin.silent (Silent.errorIf _ _)) fun _ => ?_
  refine Twin.bind (Twin.silent (Silent.le16At c _)) fun payloadLen => ?_
  refine Twin.bind (Twin.silent (Silent.errorIf _ _)) fun _ => ?_
  refine Twin.bind (Twin.silent (Silent.byteAt c _)) fun type => ?_
  refine Twin.bind (Twin.onlyIf (storeNsrRecord_twin found c _ _)) fun _ => ?_
  exact Twin.pure _ fun _ _ h => h

theorem extractNsrMetadata_twin (found : Bool) (c : Bytes) (sectionLen : Nat) :
    Twin (SameBuf found) (extractNsrMetadata c sectionLen) fun _ => SameBuf found := by
  unfold extractNsrMetadata
  exact Twin.walk (R := fun _ => SameBuf found) (fun p a => nsrRecord_twin found c sectionLen p a) 7
    ()

theorem markSeen_twin (cell : Nat) : Twin SameGrid (markSeen cell) fun _ => SameGrid := by
  unfold markSeen
  refine Twin.bind (Twin.gets fun a b h => by rw [h.seen]) fun seen => ?_
  refine Twin.bind (Twin.silent (Silent.errorIf _ _)) fun _ => Twin.modify fun a b h => ?_
  exact ⟨⟨h.buf.valid, h.buf.count, h.buf.bins, h.buf.heatmap⟩, by rw [h.seen]⟩

theorem copyInto_twin (c : Bytes) (source count destination : Nat) :
    Twin SameGrid (copyInto c source count destination (·.heatmap)
    (fun b m => { b with heatmap := m }) :
      HeatProc Unit) fun _ => SameGrid := by
  unfold copyInto
  intro a b h
  by_cases hfit : source + count ≤ c.length
  · simp only [if_pos hfit]
    refine ⟨trivial, fun _ _ => ⟨⟨h.buf.valid, h.buf.count, h.buf.bins, fun _ => ?_⟩, h.seen⟩⟩
    simp only [h.buf.heatmap rfl]
  · simp only [if_neg hfit]
    exact ⟨trivial, fun _ he => nomatch he⟩

theorem heatBlock_twin (c : Bytes) (sectionEnd p w : Nat) :
    Twin SameGrid (heatBlock c sectionEnd p w) fun _ => SameGrid := by
  unfold heatBlock
  refine Twin.bind (Twin.silent (Silent.errorIf _ _)) fun _ => ?_
  refine Twin.bind (Twin.silent (Silent.le32At c _)) fun destination => ?_
  refine Twin.bind (Twin.silent (Silent.le32At c _)) fun count => ?_
  refine Twin.bind (Twin.silent (Silent.errorIf _ _)) fun _ => ?_
  refine Twin.bind (Twin.forRange markSeen_twin _) fun _ => ?_
  refine Twin.bind (copyInto_twin c _ _ _) fun _ => ?_
  exact Twin.pure _ fun _ _ h => h

theorem heatBlocks_twin (found : Bool) (c : Bytes) (offset sectionEnd : Nat) :
    Twin (SameBuf found) (heatBlocks c offset sectionEnd) fun _ => SameBuf true := by
  unfold heatBlocks
  have hclear : Twin (SameBuf found)
      (modify fun b => { b with heatmap := fun _ => 0, heatSeen := fun _ => 0 } : HeatProc Unit)
      fun _ => SameGrid := Twin.modify fun a b h => ⟨⟨h.valid, h.count, h.bins, fun _ => rfl⟩, rfl⟩
  refine Twin.bind hclear fun _ => ?_
  refine Twin.bind (Twin.walk (R := fun _ => SameGrid)
    (fun p w => heatBlock_twin c sectionEnd p w) _ 0) fun w => ?_
  exact (Twin.silent (Silent.errorIf _ _)).conseq (fun _ _ h => h) fun _ _ _ h => h.buf

/-- One section; `found` says whether the grid is this frame's. -/
theorem containerSection_twin (c : Bytes) (containerEnd offset : Nat) (found : Bool) :
    Twin (SameBuf found) (containerSection c containerEnd offset found) fun r => SameBuf r.2 := by
  unfold containerSection
  refine Twin.bind (Twin.silent (Silent.errorIf _ _)) fun _ => ?_
  refine Twin.bind (Twin.silent (Silent.le32At c _)) fun sectionLen => ?_
  refine Twin.bind (Twin.silent (Silent.require _ _)) fun fits => ?_
  refine Twin.bind (Twin.silent (Silent.le16At c _)) fun sectionType => ?_
  refine Twin.ite ?_ (Twin.ite (Twin.pure _ fun _ _ h => h) ?_)
  · exact Twin.bind (extractNsrMetadata_twin found _ _) fun _ => Twin.pure _ fun _ _ h => h
  · refine Twin.bind (Twin.silent (Silent.byteAt c _)) fun mode => ?_
    refine Twin.bind (Twin.silent (Silent.byteAt c _)) fun width => ?_
    refine Twin.bind (Twin.silent (Silent.errorIf _ _)) fun _ => ?_
    exact Twin.bind (heatBlocks_twin found c _ _) fun _ => Twin.pure _ fun _ _ h => h

/-- Whatever the buffers hold before, the exit is the same, and after a normal
return they agree. -/
theorem extractHeatmap_twin (c : Bytes) : Twin (fun _ _ => True)
    (extractHeatmap c) fun _ => SameBuf true := by
  unfold extractHeatmap
  refine Twin.bind (Twin.silent (Silent.errorIf _ _)) fun _ => ?_
  refine Twin.bind (Twin.silent (Silent.le32At c _)) fun containerLen => ?_
  refine Twin.bind (Twin.silent (Silent.errorIf _ _)) fun _ => ?_
  have hclear : Twin (fun _ _ => True) (modify fun b =>
    { b with nsrValid := false, nsrBinCount := 0 } :
      HeatProc Unit) fun _ => SameBuf false := Twin.modify fun a b _ => ⟨rfl, rfl, nofun, nofun⟩
  refine Twin.bind hclear fun _ => ?_
  refine Twin.bind (Twin.walk (fun p found => containerSection_twin c _ p found) 9 false)
    fun found => ?_
  -- a normal return has found the grid
  intro a b h
  cases found with
  | false => exact ⟨rfl, fun _ he => nomatch he⟩
  | true => exact ⟨rfl, fun _ _ => h⟩

end HeatFrame
end Sp11Touch
