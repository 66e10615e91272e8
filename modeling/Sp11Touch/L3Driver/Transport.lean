import Sp11Touch.L3Driver.State
/-!
# HID-over-SPI transport and one response (`mshw0485_touch.c`)

Reading one pending response, handing it to the input code while input is
open, and the two notes that close input: a panel reset and a host fault.
The caller holds `io_lock`; a function below is part of its atomic section.
-/
namespace Sp11Touch

def maxBody : Nat := 8192
def headerSync : Nat := 0x5a
def headerVersion : Nat := 0x03
def heatmapReportId : Nat := 0x12
def resetStormWindowMs : Nat := 5000
def resetStormLimit : UInt8 := 3
def hidspiInputBodyHeaderSize : Nat := 4
def hidspiDeviceDescriptorSize : Nat := 24

/-! The response classes and output types of `linux/hid-over-spi.h`. -/

def classData : Nat := 1
def classResetResponse : Nat := 3
def classGetFeatureResponse : Nat := 5
def classDeviceDescriptorResponse : Nat := 7
def classReportDescriptorResponse : Nat := 8
def classSetFeatureResponse : Nat := 9
def classOutputReportResponse : Nat := 10
def typeSetFeature : Nat := 3
def typeGetFeature : Nat := 4
def typeOutputReport : Nat := 5

/-- `payload[i]` of the last body -/
def Io.payload (io : Io) (i : Nat) : Nat := (io.body (hidspiInputBodyHeaderSize + i)).toNat

/-- The first `len` payload bytes. -/
def Io.content (io : Io) (len : Nat) : Bytes :=
  (List.range len).map fun i => io.body (hidspiInputBodyHeaderSize + i)

theorem Io.content_length (io : Io) (n : Nat) : (io.content n).length = n := by
  simp [Io.content]

/-- `get_unaligned_le16(&payload[i])` -/
def Io.payload16 (io : Io) (i : Nat) : Nat := io.payload i + 256 * io.payload (i + 1)

def Io.payload32 (io : Io) (i : Nat) : Nat := io.payload16 i + 65536 * io.payload16 (i + 2)

namespace Driver
open Proc CInt

section
variable (c : Config) (w : World)

/-! ## Transfers -/

/-- mirrors phase55/modules/mshw0485_touch.c:845-867 (`g6ts_dma_read_pair`); `put` stores
the bytes the transfer leaves behind -/
def dmaReadPair (put : (Nat → UInt8) → Io → Io) : TsProc (Option Errno) := do
  let r ← ask w.read
  modifyIo (put r.1)
  return r.2

/-- mirrors phase55/modules/mshw0485_touch.c:869-882 (`g6ts_dma_output`) -/
def dmaOutput (packet : Bytes) : TsProc (Option Errno) := do
  modifyIo fun io => { io with wire := packet :: io.wire }
  ask w.write

/-- The packet of one output: header, content, zero padding to four bytes. -/
def hidspiPacket (reportType contentId : Nat) (content : Bytes) : Bytes :=
  let head : Bytes := [0xe2, 0x00, 0x20, 0x00, UInt8.ofNat reportType,
    UInt8.ofNat (content.length % 256), UInt8.ofNat (content.length / 256), UInt8.ofNat contentId]
  head ++ content ++ List.replicate ((4 - content.length % 4) % 4) 0

/-- mirrors phase55/modules/mshw0485_touch.c:884-905 (`g6ts_dma_hidspi_output`) -/
def dmaHidspiOutput (reportType contentId : Nat) (content : Bytes) : TsProc (Option Errno) :=
  if content.length > 72 - 8 then Pure.pure (some .E2BIG)
  else dmaOutput w (hidspiPacket reportType contentId content)

/-- mirrors phase55/modules/mshw0485_touch.c:907-910 (`g6ts_pending`) -/
def pending : TsProc (Except Errno Bool) := ask w.gpio

/-- `atomic64_read(&ts->interrupt_edges) > ts->handled_interrupt_edges` -/
def newEdges : TsProc Bool := do
  let edges ← ask w.edges
  let handled ← getsIo (·.handledInterruptEdges)
  return decide (edges > handled)

/-- mirrors phase55/modules/mshw0485_touch.c:912-918 (`g6ts_has_unread_response`) -/
def hasUnreadResponse : TsProc Bool := do
  let pending ← pending w
  match pending with
  | .ok true => return true
  | _ => newEdges w

/-- The polling loop, for `n` turns. -/
def pollPending : Nat → TsProc Unit
  | 0 => throw .ETIMEDOUT
  | n + 1 => do
    let value ← pending w
    match value with
    | .error e => throw e
    | .ok true => return ()
    | .ok false => do
      let edge ← newEdges w
      if edge then return () else pollPending n

/-- mirrors phase55/modules/mshw0485_touch.c:928-943 (`g6ts_wait_pending`) -/
def waitPending : TsProc Unit := do
  let polls ← ask w.polls
  pollPending w (polls + 1)

/-- mirrors phase55/modules/mshw0485_touch.c:945-950 (`g6ts_clear_last_response`) -/
def clearLastResponse : TsProc Unit :=
  modifyIo fun io => { io with lastClass := 0xff, lastContentLen := 0, lastContentId := 0xff }

/-! ## Input reports -/

/-- mirrors phase55/modules/mshw0485_touch.c:2204-2214 (report `0x40`) -/
def forwardTouch (s : Ts) : Ts :=
  s.note (.touch (s.io.payload 0 % 2 == 1) (s.io.payload16 1) (s.io.payload16 3))

/-- mirrors phase55/modules/mshw0485_touch.c:2224-2229 (a malformed Heat frame) -/
def malformedHeat (s : Ts) : Ts :=
  let s := if s.awaitingReadyHeat then
    { s with stats.readyVerificationFailures := s.stats.readyVerificationFailures + 1 } else s
  Ts.note .malformed s.releaseContacts

/-- The contacts of an accepted Heat frame, and the end of the wait for it. -/
def acceptedHeat (heat : Heat) (report : Report) (s : Ts) : Ts :=
  let s := Ts.note (.contacts report.reported) { Ts.note .accepted s with heat := heat }
  if s.awaitingReadyHeat then
    { s with awaitingReadyHeat := false, stats.readyHeatFrames := s.stats.readyHeatFrames + 1 }
  else s

/-- mirrors phase55/modules/mshw0485_touch.c:2217-2234 (report `0x12`) -/
def handleHeat (s : Ts) : Ts :=
  match reportHeatContacts c.p.profile (s.io.content s.io.lastContentLen) s.heat with
  | (heat, .ok report) => acceptedHeat heat report s
  | (heat, .error _) => malformedHeat { s with heat := heat }

/-- mirrors phase55/modules/mshw0485_touch.c:2187-2235 (`g6ts_handle_data_report`) -/
def handleDataReport (s : Ts) : Ts :=
  if s.io.lastClass ≠ classData then s
  else if s.awaitingReadyHeat ∧ s.io.lastContentId ≠ heatmapReportId then s
  else if s.io.lastContentId = 0x40 ∧ s.io.lastContentLen = 5 then forwardTouch s
  else if s.io.lastContentId = heatmapReportId ∧
    s.io.lastContentLen + 1 ≤ maxBody then handleHeat c s
  else s

/-! ## One response -/

/-- Nothing to read: the line is not asserted and no edge is new. -/
def nothingPending (pending : Except Errno Bool) (newEdge : Bool) : TsProc Unit :=
  match pending with
  | .error e => errorIf (!newEdge) e
  | .ok false => errorIf (!newEdge) .EAGAIN
  | .ok true => Pure.pure ()

/-- mirrors phase55/modules/mshw0485_touch.c:2247-2255 (the edges taken) -/
def takeEdges : TsProc Unit := do
  let pending ← pending w
  let edges ← ask w.edges
  let handled ← getsIo (·.handledInterruptEdges)
  nothingPending pending (decide (edges > handled))
  modifyIo fun io => { io with handledInterruptEdges := edges }

/-- mirrors phase55/modules/mshw0485_touch.c:2268-2282 (an invalid header) -/
def invalidHeader : TsProc Unit := do
  onlyIf c.p.readyQuiesce do
    let pending ← pending w
    match pending with
    | .ok false => do
      modifyIo fun io => { io with quiescedEmptyReads := io.quiescedEmptyReads + 1 }
      throw .EAGAIN
    | .error e => throw e
    | .ok true => return ()
  let _ ← pending w
  throw .EPROTO

def headerValid (io : Io) : Bool :=
  (io.lastHeader 0).toNat % 16 == headerVersion && (io.lastHeader 3).toNat == headerSync

/-- mirrors phase55/modules/mshw0485_touch.c:2257-2282 (the header) -/
def readHeader : TsProc Unit := do
  let ret ← dmaReadPair w fun bytes io =>
    { io with lastHeader := fun i => if i < 4 then bytes i else io.lastHeader i }
  checkTransport ret
  let valid ← getsIo headerValid
  if valid then return () else invalidHeader c w

/-- The body length the header announces. -/
def bodyLen (io : Io) : Nat :=
  ((io.lastHeader 1).toNat + 256 * (io.lastHeader 2).toNat) % 0x4000 * 4

/-- mirrors phase55/modules/mshw0485_touch.c:2284-2301 (the body) -/
def readBody (len : Nat) : TsProc Unit := do
  errorIf (len < hidspiInputBodyHeaderSize || len > maxBody) .EMSGSIZE
  let ret ← dmaReadPair w fun bytes io =>
    { io with body := fun i => if i < len then bytes i else io.body i }
  checkTransport ret
  modifyIo fun io => { io with
    lastClass := (io.body 0).toNat
    lastContentLen := (io.body 1).toNat + 256 * (io.body 2).toNat
    lastContentId := (io.body 3).toNat }
  let contentLen ← getsIo (·.lastContentLen)
  errorIf (contentLen > len - hidspiInputBodyHeaderSize) .EPROTO

/-- mirrors phase55/modules/mshw0485_touch.c:2303-2309 (the announced report descriptor) -/
def noteDescriptor (io : Io) : Io :=
  if io.lastClass = classDeviceDescriptorResponse ∧
    io.lastContentLen = hidspiDeviceDescriptorSize then
    { io with expectedReportDescriptorLen := io.payload16 4 } else io

/-- mirrors phase55/modules/mshw0485_touch.c:2238-2314 (`g6ts_dma_read_response`) -/
def dmaReadResponse : TsProc Unit := do
  clearLastResponse
  takeEdges w
  readHeader c w
  let len ← getsIo bodyLen
  readBody w len
  modifyIo noteDescriptor
  let modeEnabled ← gets (·.modeEnabled)
  onlyIf modeEnabled (modify (handleDataReport c))

/-! ## Closing input -/

/-- The interval since the last reset in milliseconds, `0` for the first. -/
def resetInterval (now : Nat) (s : Ts) : Nat :=
  if s.lastResetJiffies = 0 then 0
  else u32 ((now + 2 ^ 64 - s.lastResetJiffies) % 2 ^ 64 * c.msPerJiffy)

/-- mirrors phase55/modules/mshw0485_touch.c:2331-2345 (the storm breaker) -/
def stormBreaker (intervalMs : Nat) (s : Ts) : Ts :=
  if c.p.resetStormBreaker then
    let streak := if intervalMs ≠ 0 ∧ intervalMs ≤ resetStormWindowMs then
      s.rapidResetStreak + 1 else 1
    if streak ≥ resetStormLimit then
      { s with
        rapidResetStreak := streak
        recoveryPath := .HARDWARE
        stats.resetStormEscalations := s.stats.resetStormEscalations + 1 }
    else { s with rapidResetStreak := streak }
  else s

/-- `if (!READ_ONCE(ts->stopping)) schedule_delayed_work(..)` -/
def scheduleRecovery (s : Ts) : Ts := if s.stopping then s else { s with workPending := true }

/-- mirrors phase55/modules/mshw0485_touch.c:2325-2330 (input closes, the path is chosen) -/
def closeForReset (now : Nat) (s : Ts) : Ts :=
  { s with
    io.clk := s.io.clk + 1
    lastResetJiffies := now
    stats.resetNotifications := s.stats.resetNotifications + 1
    modeEnabled := false
    awaitingReadyHeat := false
    recoveryPath := if c.p.resetRecoveryV2 then .SOFTWARE else .HARDWARE }

/-- mirrors phase55/modules/mshw0485_touch.c:2317-2354 (`g6ts_note_panel_reset_locked`) -/
def notePanelReset (schedule : Bool) (s : Ts) : Ts :=
  let now := w.jiffies s.io.clk
  let interval := resetInterval c now s
  let s := (stormBreaker c interval (closeForReset c now s)).releaseContacts.note .panelReset
  if schedule then scheduleRecovery s else s

/-- The counters of a host fault. -/
def countFault (error : Errno) (s : Ts) : Ts :=
  let s := { s with lastHostFault := some error }
  if error = .EPROTO ∨ error = .EMSGSIZE then
    { s with stats.irqProtocolErrors := s.stats.irqProtocolErrors + 1 }
  else { s with stats.irqTransportErrors := s.stats.irqTransportErrors + 1 }

/-- mirrors phase55/modules/mshw0485_touch.c:2376-2381 (input closes, the latch is cleared) -/
def closeForFault (s : Ts) : Ts :=
  { s with
    fatalTransportError := false
    modeEnabled := false
    awaitingReadyHeat := false
    recoveryPath := .HARDWARE
    rapidResetStreak := 0
    stats.hostFaultRecoveries := s.stats.hostFaultRecoveries + 1 }

/-- mirrors phase55/modules/mshw0485_touch.c:2357-2390 (`g6ts_note_host_fault_locked`) -/
def noteHostFault (error : Errno) (s : Ts) : Ts :=
  let s := countFault error s
  if c.p.hostFaultRecovery then scheduleRecovery ((closeForFault s).releaseContacts.note .hostFault)
    else s

end

/-! ## What these functions leave alone -/

theorem handleDataReport_frame (c : Config) (s : Ts) : ∃ heat stats awaiting log,
    handleDataReport c s = { s with heat := heat, stats := stats, awaitingReadyHeat := awaiting, log := log } := by
  unfold handleDataReport
  split
  · exact ⟨_, _, _, _, rfl⟩
  split
  · exact ⟨_, _, _, _, rfl⟩
  split
  · exact ⟨_, _, _, _, rfl⟩
  split
  · unfold handleHeat
    split
    · unfold acceptedHeat
      simp only
      split <;> exact ⟨_, _, _, _, rfl⟩
    · unfold malformedHeat
      simp only
      split <;> exact ⟨_, _, _, _, rfl⟩
  · exact ⟨_, _, _, _, rfl⟩

theorem stormBreaker_frame (c : Config) (intervalMs : Nat) (s : Ts) : ∃ streak path stats,
    stormBreaker c intervalMs s = { s with rapidResetStreak := streak, recoveryPath := path, stats := stats } ∧
      stats.resetNotifications = s.stats.resetNotifications := by
  unfold stormBreaker
  split
  · generalize (if intervalMs ≠ 0 ∧ intervalMs ≤ resetStormWindowMs then s.rapidResetStreak + 1
      else 1) = streak
    simp only
    split <;> exact ⟨_, _, _, rfl, rfl⟩
  · exact ⟨_, _, _, rfl, rfl⟩

/-- A noted reset, up to the streak, the path and the counters. -/
theorem notePanelReset_frame (c : Config) (w : World) (s : Ts) : ∃ streak path stats,
    notePanelReset c w false s = ({ closeForReset c (w.jiffies s.io.clk) s with
      rapidResetStreak := streak, recoveryPath := path, stats := stats }).releaseContacts.note
        .panelReset ∧
      stats.resetNotifications = s.stats.resetNotifications + 1 := by
  obtain ⟨streak, path, stats, heq, hn⟩ := stormBreaker_frame c (resetInterval c (w.jiffies s.io.clk) s)
    (closeForReset c (w.jiffies s.io.clk) s)
  refine ⟨streak, path, stats, ?_, hn⟩
  unfold notePanelReset
  simp only [heq, Bool.false_eq_true, if_false]

theorem notePanelReset_true (c : Config) (w : World) (s : Ts) :
    notePanelReset c w true s = scheduleRecovery (notePanelReset c w false s) := rfl

theorem countFault_frame (error : Errno) (s : Ts) : ∃ stats,
    countFault error s = { s with lastHostFault := some error, stats := stats } := by
  unfold countFault
  simp only
  split <;> exact ⟨_, rfl⟩

theorem scheduleRecovery_eq (s : Ts) :
    scheduleRecovery s = { s with workPending := s.workPending || !s.stopping } := by
  unfold scheduleRecovery
  split
  · next h =>
    have hp : (s.workPending || !s.stopping) = s.workPending := by simp [h]
    rw [hp]
  · next h => simp [h]

end Driver
end Sp11Touch
