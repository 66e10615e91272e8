import Sp11Touch.Core.Bytes
import Sp11Touch.Core.Walk
/-!
# The Heat report parser (`mshw0485_touch.c`)

Report `0x12` is a two-byte scan time, a seven-byte Heat container header
and length-prefixed sections. `extractHeatmap` copies the one `0x0100`
section, a list of (destination, count, bytes) blocks, into the 46×68 grid
and `extractNsrMetadata` keeps the one type-`0x04` record of the `0xff00`
sections. Every read is checked against the bytes given, so reading past
`content_len` is the exit `oob`.

`content_len` is a `size_t` and `container_len` a `u32`: `2 + container_len`
is computed in 32 bits.
-/
namespace Sp11Touch

def heatRows : Nat := 46
def heatCols : Nat := 68
def heatSamples : Nat := heatRows * heatCols
def heatSection : Nat := 0x0100
def metadataSection : Nat := 0xff00
def nsrBinsMax : Nat := 16

/-- What the parser fills: `heatmap`, `heat_seen` and the `nsr_*` fields of
`struct g6ts`. -/
structure HeatBuf where
  heatmap : Nat → UInt8
  heatSeen : Nat → UInt8
  nsrBins : Nat → Nat
  nsrBinCount : Nat
  nsrValid : Bool

abbrev HeatProc (α : Type) : Type := Proc HeatBuf (Exit Errno) α

namespace HeatFrame
open Proc Bytes

/-- `if (c) return -e;` -/
def fail (c : Bool) (e : Errno) : HeatProc Unit := errorIf c (.code e)

/-- mirrors phase55/modules/mshw0485_touch.c:978-982 (`nsr_bins[i] = value`) -/
def storeNsrBin (section' : Bytes) (record i : Nat) : HeatProc Unit := do
  let value ← le16At section' (record + 8 + i * 4)
  modify fun b => { b with nsrBins := fun j => if j = i then value else b.nsrBins j }

/-- mirrors phase55/modules/mshw0485_touch.c:970-986 (the `record[0] == 0x04` branch) -/
def storeNsrRecord (section' : Bytes) (record payloadLen : Nat) : HeatProc Unit := do
  let nsrValid ← gets (·.nsrValid)
  fail (nsrValid || payloadLen < 4) .EPROTO
  let count ← byteAt section' (record + 4)
  fail (count > nsrBinsMax || count > (payloadLen - 4) / 4) .EPROTO
  modify fun b => { b with nsrBins := fun _ => 0 }
  forRange 0 count (storeNsrBin section' record)
  modify fun b => { b with nsrBinCount := count, nsrValid := true }

/-- The next record and the next block lie behind their headers. -/
theorem lt_nextRecord (position len : Nat) : position < position + 4 + len := by omega

theorem lt_nextBlock (position count : Nat) : position < position + 8 + count := by omega

/-- One turn of the record loop of `g6ts_extract_nsr_metadata`. -/
def nsrRecord (section' : Bytes) (sectionLen position : Nat) (_ : Unit) :
    HeatProc ({n : Nat // position < n} × Unit) := do
  fail (sectionLen - position < 4) .EPROTO
  let payloadLen ← le16At section' (position + 2)
  fail (payloadLen > sectionLen - position - 4) .EPROTO
  let type ← byteAt section' position
  onlyIf (type = 0x04) (storeNsrRecord section' position payloadLen)
  return (⟨position + 4 + payloadLen, lt_nextRecord position payloadLen⟩, ())

/-- mirrors phase55/modules/mshw0485_touch.c:952-991 (`g6ts_extract_nsr_metadata`) -/
def extractNsrMetadata (section' : Bytes) (sectionLen : Nat) : HeatProc Unit :=
  walk sectionLen (nsrRecord section' sectionLen) 7 ()

/-- mirrors phase55/modules/mshw0485_touch.c:1061-1065 (the overlap check of one cell) -/
def markSeen (cell : Nat) : HeatProc Unit := do
  let seen ← gets (·.heatSeen cell)
  fail (seen ≠ 0) .EPROTO
  modify fun b => { b with heatSeen := fun i => if i = cell then 1 else b.heatSeen i }

/-- One turn of the block loop of `g6ts_extract_heatmap`. -/
def heatBlock (content : Bytes) (sectionEnd position written : Nat) :
    HeatProc ({n : Nat // position < n} × Nat) := do
  fail (sectionEnd - position < 8) .EPROTO
  let destination ← le32At content position
  let count ← le32At content (position + 4)
  fail (count > sectionEnd - (position + 8) || count > heatSamples ||
    destination > heatSamples - count) .EPROTO
  forRange destination count markSeen
  copyInto content (position + 8) count destination (·.heatmap) fun b m => { b with heatmap := m }
  return (⟨position + 8 + count, lt_nextBlock position count⟩, (written + count) % 2 ^ 32)

/-- mirrors phase55/modules/mshw0485_touch.c:1041-1072 (the `0x0100` section) -/
def heatBlocks (content : Bytes) (offset sectionEnd : Nat) : HeatProc Unit := do
  modify fun b => { b with heatmap := fun _ => 0, heatSeen := fun _ => 0 }
  let written ← walk sectionEnd (heatBlock content sectionEnd) (offset + 8) 0
  fail (written ≠ heatSamples) .EPROTO

/-- One turn of the section loop of `g6ts_extract_heatmap`. -/
def containerSection (content : Bytes) (containerEnd offset : Nat) (found : Bool) :
    HeatProc ({n : Nat // offset < n} × Bool) := do
  fail (containerEnd - offset < 8) .EPROTO
  let sectionLen ← le32At content offset
  let fits ← require (8 ≤ sectionLen ∧ sectionLen ≤ containerEnd - offset) (.code .EPROTO)
  let next : {n : Nat // offset < n} := ⟨offset + sectionLen, by have := fits.down; omega⟩
  let sectionType ← le16At content (offset + 4)
  if sectionType = metadataSection then
    extractNsrMetadata (content.drop offset) sectionLen
    return (next, found)
  else if sectionType ≠ heatSection then
    return (next, found)
  else
    let mode ← byteAt content (offset + 6)
    let width ← byteAt content (offset + 7)
    fail (found || mode ≠ 1 || width ≠ 8) .EPROTO
    heatBlocks content offset (offset + sectionLen)
    return (next, true)

/-- mirrors phase55/modules/mshw0485_touch.c:993-1078 (`g6ts_extract_heatmap`) -/
def extractHeatmap (content : Bytes) : HeatProc Unit := do
  fail (content.length < 9) .EMSGSIZE
  let containerLen ← le32At content 2
  fail (containerLen < 7 || containerLen > content.length - 2) .EPROTO
  let containerEnd := (2 + containerLen) % 2 ^ 32
  modify fun b => { b with nsrValid := false, nsrBinCount := 0 }
  let found ← walk containerEnd (containerSection content containerEnd) 9 false
  fail (!found) .ENOENT

end HeatFrame
end Sp11Touch
