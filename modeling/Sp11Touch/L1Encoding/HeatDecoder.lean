import Sp11Touch.L1Encoding.HeatFrame
/-!
# The offline Heat decoder (`tools/decode_heat_frame.py`)

The Python reader that captures and tests are checked with. It reads a whole
report, the id `0x12` included, with absolute offsets and unbounded sums,
collects the sections first and opens them afterwards. A `ValueError` of the
source is a constructor of `DecodeError`; `struct.unpack_from` or an index
past the end is the exit `oob`.
-/
namespace Sp11Touch

namespace Decoder
open Proc Bytes

def gridSamples : Nat := 46 * 68
def windowsNsrBins : Nat := 16

inductive DecodeError where
  | truncatedReport
  | containerOverruns (stop report : Nat)
  | truncatedSectionHeader (offset : Nat)
  | invalidSectionLength (length offset stop : Nat)
  | sectionWalkEnded (offset expected : Nat)
  | expectedHeat (kind : Nat)
  | unsupportedEncoding (mode header : Nat)
  | truncatedBlockHeader
  | truncatedBlockPayload
  | blockOverrunsGrid (offset count : Nat)
  | blockOverlaps (offset count : Nat)
  | unwritten (missing : Nat)
  | expectedMetadata (kind : Nat)
  | truncatedMetadataHeader (offset : Nat)
  | recordOverruns (offset length section' : Nat)
  | manyNsrRecords (found : Nat)
  | noCountHeader
  | invalidBinCount (count : Nat)
  | truncatedBins (count payload required : Nat)
deriving DecidableEq, Repr

/-- A function of the decoder: it has no state and returns or raises. -/
abbrev Decode (α : Type) : Type := Proc Unit (Exit DecodeError) α

/-- `if c: raise ValueError` -/
def raiseIf (c : Bool) (e : DecodeError) : Decode Unit := errorIf c (.code e)

structure Section where
  offset : Nat
  length : Nat
  kind : Nat
  mode : Nat
  headerValue : Nat
  data : Bytes
deriving DecidableEq, Repr

structure MetadataRecord where
  offset : Nat
  kind : Nat
  flags : Nat
  data : Bytes
deriving DecidableEq, Repr

structure Parsed where
  scanTime : Nat
  containerLength : Nat
  sections : List Section
  trailer : Bytes
deriving DecidableEq, Repr

/-- One turn of the section loop of `parse_sections`. -/
def parseSection (report : Bytes) (stop offset : Nat) (walked : Nat × List Section) :
    Decode ({n : Nat // offset < n} × (Nat × List Section)) := do
  raiseIf (offset + 8 > stop) (.truncatedSectionHeader offset)
  let length ← le32At report offset
  let fits ← require (8 ≤ length ∧ offset + length ≤ stop)
    (.code (.invalidSectionLength length offset stop))
  let kind ← le16At report (offset + 4)
  let mode ← byteAt report (offset + 6)
  let headerValue ← byteAt report (offset + 7)
  return (⟨offset + length, by have := fits.down; omega⟩, offset + length,
    walked.2 ++ [⟨offset, length, kind, mode, headerValue, slice report offset (offset + length)⟩])

/-- mirrors tools/decode_heat_frame.py:151-186 (`parse_sections`) -/
def parseSections (report : Bytes) : Decode Parsed := do
  raiseIf (report.length < 10) .truncatedReport
  let scanTime ← le16At report 1
  let containerLength ← le32At report 3
  let stop := 3 + containerLength
  raiseIf (stop > report.length) (.containerOverruns stop report.length)
  let (offset, sections) ← walk stop (parseSection report stop) 10 (10, [])
  raiseIf (offset ≠ stop) (.sectionWalkEnded offset stop)
  return ⟨scanTime, containerLength, sections, report.drop stop⟩

/-- `output` and `written` -/
structure Canvas where
  output : Bytes
  written : Bytes
deriving DecidableEq, Repr

def Canvas.blank : Canvas := ⟨List.replicate gridSamples 0, List.replicate gridSamples 0⟩

/-- One turn of the block loop of `extract_heatmap`. -/
def heatBlock (s : Section) (position : Nat) (c : Canvas) :
    Decode ({n : Nat // position < n} × Canvas) := do
  raiseIf (position + 8 > s.length) .truncatedBlockHeader
  let destination ← le32At s.data position
  let count ← le32At s.data (position + 4)
  raiseIf (position + 8 + count > s.length) .truncatedBlockPayload
  raiseIf (destination + count > gridSamples) (.blockOverrunsGrid destination count)
  raiseIf ((slice c.written destination (destination + count)).any (· ≠ 0))
    (.blockOverlaps destination count)
  return (⟨position + 8 + count, HeatFrame.lt_nextBlock position count⟩,
    ⟨splice c.output destination (destination + count)
    (slice s.data (position + 8) (position + 8 + count)),
      splice c.written destination (destination + count) (List.replicate count 1)⟩)

/-- mirrors tools/decode_heat_frame.py:189-223 (`extract_heatmap`) -/
def extractHeatmap (s : Section) : Decode Bytes := do
  raiseIf (s.kind ≠ 0x0100) (.expectedHeat s.kind)
  raiseIf (s.mode ≠ 1 || s.headerValue ≠ 8) (.unsupportedEncoding s.mode s.headerValue)
  let canvas ← walk s.length (heatBlock s) 8 Canvas.blank
  raiseIf (!canvas.written.all (· ≠ 0)) (.unwritten (canvas.written.count 0))
  return canvas.output

/-- One turn of the record loop of `parse_metadata_records`. -/
def metadataRecord (s : Section) (position : Nat) (records : List MetadataRecord) :
    Decode ({n : Nat // position < n} × List MetadataRecord) := do
  raiseIf (position + 4 > s.length) (.truncatedMetadataHeader position)
  let length ← le16At s.data (position + 2)
  let stop := position + 4 + length
  raiseIf (stop > s.length) (.recordOverruns position length s.length)
  let kind ← byteAt s.data position
  let flags ← byteAt s.data (position + 1)
  return (⟨stop, HeatFrame.lt_nextRecord position length⟩,
    records ++ [⟨position, kind, flags, slice s.data (position + 4) stop⟩])

/-- mirrors tools/decode_heat_frame.py:226-257 (`parse_metadata_records`) -/
def parseMetadataRecords (s : Section) : Decode (List MetadataRecord) := do
  raiseIf (s.kind ≠ 0xff00) (.expectedMetadata s.kind)
  walk s.length (metadataRecord s) 7 []

/-- `tuple(u16(payload, 4 + index * 4) for index in range(count))` -/
def bins (payload : Bytes) : Nat → Decode (List Nat)
  | 0 => return []
  | count + 1 => do
    let front ← bins payload count
    let value ← le16At payload (4 + count * 4)
    return front ++ [value]

/-- mirrors tools/decode_heat_frame.py:325-345 (`extract_nsr_bins`) -/
def extractNsrBins (s : Section) : Decode (Option (List Nat)) := do
  let records ← parseMetadataRecords s
  match records.filter (·.kind = 0x04) with
  | [] => return none
  | record :: rest => do
    raiseIf (rest ≠ []) (.manyNsrRecords (rest.length + 1))
    let payload := record.data
    raiseIf (payload.length < 4) .noCountHeader
    let count ← byteAt payload 0
    raiseIf (count > windowsNsrBins) (.invalidBinCount count)
    raiseIf (payload.length < 4 + count * 4) (.truncatedBins count payload.length (4 + count * 4))
    let values ← bins payload count
    return some values

end Decoder
end Sp11Touch
