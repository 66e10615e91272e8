import Sp11Touch.Core.Bytes
/-!
# A transfer of the debugger log (`tools/extract_kdnet_hidspi.py`)

The debugger prints the transmitted bytes of a SPI request, and the bytes it
completed with. `Transfer` reads HID-over-SPI from them; the text of the log
is left to the script.

**Result.** `decode_frame`: header, content and padding of a write come apart
again, whatever the content is.
-/
namespace Sp11Touch
open Bytes

/-- mirrors tools/extract_kdnet_hidspi.py:37-45 (`Transfer`), without the place in the log -/
structure Transfer where
  txLen : Nat
  rxLen : Nat
  tx : Bytes
  rx : Bytes := []

namespace Transfer
variable (t : Transfer)

/-- mirrors tools/extract_kdnet_hidspi.py:47-49 (`is_write`) -/
def isWrite : Bool := decide (0 < t.txLen) && t.rxLen == 0

/-- mirrors tools/extract_kdnet_hidspi.py:51-53 (`is_hidspi_write`) -/
def isHidspiWrite : Bool := t.isWrite && decide (8 ≤ t.tx.length) &&
    t.tx.take 4 == [0xe2, 0x00, 0x20, 0x00]

/-- mirrors tools/extract_kdnet_hidspi.py:55-57 (`is_header_read`) -/
def isHeaderRead : Bool := t.tx.take 4 == [0xeb, 0x00, 0x10, 0x00] && t.rxLen == 4

/-- mirrors tools/extract_kdnet_hidspi.py:59-61 (`is_body_read`) -/
def isBodyRead : Bool := t.tx.take 4 == [0xeb, 0x00, 0x10, 0x04] && decide (4 ≤ t.rxLen)

/-- mirrors tools/extract_kdnet_hidspi.py:63-65 (`report_type`) -/
def reportType : Option Nat := if t.isHidspiWrite then some (u8 t.tx 4) else none

/-- mirrors tools/extract_kdnet_hidspi.py:67-69 (`content_len`) -/
def contentLen : Option Nat := if t.isHidspiWrite then some (u16 t.tx 5) else none

/-- mirrors tools/extract_kdnet_hidspi.py:71-73 (`content_id`) -/
def contentId : Option Nat := if t.isHidspiWrite then some (u8 t.tx 7) else none

/-- mirrors tools/extract_kdnet_hidspi.py:75-80 (`content`) -/
def content : Bytes := if t.isHidspiWrite then slice t.tx 8 (8 + t.contentLen.getD 0) else []

/-- mirrors tools/extract_kdnet_hidspi.py:82-87 (`padding`) -/
def padding : Bytes := if t.isHidspiWrite then t.tx.drop (8 + t.contentLen.getD 0) else []

/-- The body prefix is there. -/
def hasPrefix : Bool := t.isBodyRead && decide (4 ≤ t.rx.length)

/-- mirrors tools/extract_kdnet_hidspi.py:89-91 (`response_class`) -/
def responseClass : Option Nat := if t.hasPrefix then some (u8 t.rx 0) else none

/-- mirrors tools/extract_kdnet_hidspi.py:93-97 (`response_content_len`) -/
def responseContentLen : Option Nat := if t.hasPrefix then some (u16 t.rx 1) else none

/-- mirrors tools/extract_kdnet_hidspi.py:99-101 (`response_content_id`) -/
def responseContentId : Option Nat := if t.hasPrefix then some (u8 t.rx 3) else none

/-- mirrors tools/extract_kdnet_hidspi.py:103-113 (`response_valid`) -/
def responseValid : Bool :=
  match t.responseContentLen with
  | none => false
  | some length => decide (4 + length ≤ t.rx.length)

/-- A write of `tx`, as it is logged. -/
def ofWrite (tx : Bytes) : Transfer := ⟨tx.length, 0, tx, []⟩

/-! ## Writes -/

section
variable {reportType contentId : UInt8} {content padding : Bytes}

/-- A write with its header written out; `lo` and `hi` are the length. -/
def frame (reportType lo hi contentId : UInt8) (content padding : Bytes) : Bytes :=
  [0xe2, 0x00, 0x20, 0x00, reportType, lo, hi, contentId] ++ content ++ padding

theorem ofWrite_isHidspiWrite (lo hi : UInt8) :
    (ofWrite (frame reportType lo hi contentId content padding)).isHidspiWrite = true := by
  simp [isHidspiWrite, isWrite, ofWrite, frame]

/-- What the log shows of a write whose length field counts its content. -/
structure Decodes (t : Transfer) (reportType contentId : UInt8)
    (content padding : Bytes) : Prop where
  reportType : t.reportType = some reportType.toNat
  contentLen : t.contentLen = some content.length
  contentId : t.contentId = some contentId.toNat
  content : t.content = content
  padding : t.padding = padding

theorem decode_frame {lo hi : UInt8} (h : lo.toNat + 256 * hi.toNat = content.length) :
    Decodes (ofWrite (frame reportType lo hi contentId content padding)) reportType
    contentId content padding := by
  have hw : (ofWrite (frame reportType lo hi contentId content padding)).isHidspiWrite = true :=
    ofWrite_isHidspiWrite lo hi
  have hlen : (ofWrite (frame reportType lo hi contentId content padding)).contentLen =
    some content.length := by
    rw [contentLen, if_pos hw]
    exact congrArg some h
  refine ⟨by rw [Transfer.reportType, if_pos hw]; rfl,
    hlen, by rw [Transfer.contentId, if_pos hw]; rfl, ?_, ?_⟩
  · rw [Transfer.content, if_pos hw, hlen]
    simp [slice, ofWrite, frame]
  · rw [Transfer.padding, if_pos hw, hlen]
    exact List.drop_left' (by simp; omega)

end

end Transfer
end Sp11Touch
