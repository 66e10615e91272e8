import Sp11Touch.L3Driver.Transport
/-!
# Power, feature exchange and full initialization (`mshw0485_touch.c`)

`fullReinitializeLocked` is the whole start-up of the panel, from the power cycle
(hardware path) or from re-enumeration (software path) to the point where
input opens. With `windows_init_parity` it ends at the first provider
boundary that is not available, with input closed.
-/
namespace Sp11Touch

def featureResponseLimit : Nat := 64
def windowsFeedbackLen : Nat := 63
def windowsReport56IdLen : Nat := 6
def windowsCfuOfferLen : Nat := 16
def windowsCfuVersionLen : Nat := 60
def windowsCfuToken : UInt8 := 0xa0
def modeConfigMax : Nat := 64

def deviceDescriptorCmd : Bytes := [0xe2, 0x00, 0x20, 0x00, 0x01, 0x00, 0x00, 0x00]
def reportDescriptorCmd : Bytes := [0xe2, 0x00, 0x20, 0x00, 0x02, 0x00, 0x00, 0x00]
def modeEnable : Bytes := [0x01]
def modeHandshake : Bytes := [0xbc, 0xe6, 0x4a, 0x2e, 0x86, 0x78, 0x00]
def sp11CfuOffer : Bytes :=
  [0x00, 0x00, 0x12, 0x00, 0x89, 0x14, 0x00, 0x3f, 0xff, 0xff, 0xff, 0xff, 0x04, 0x04, 0x75, 0x00]

/-- `memcpy(&buf[at], bytes, ..)` -/
def patch (buf : Bytes) (offset : Nat) (bytes : Bytes) : Bytes :=
  buf.take offset ++ bytes ++ buf.drop (offset + bytes.length)

/-- `put_unaligned_le16` / `put_unaligned_le32` of an `int` -/
def le16Bytes (x : Int) : Bytes := [UInt8.ofNat (x % 2 ^ 8).toNat,
    UInt8.ofNat (x / 2 ^ 8 % 2 ^ 8).toNat]
def le32Bytes (x : Int) : Bytes := le16Bytes x ++ le16Bytes (x / 2 ^ 16)

namespace Params
variable (p : Params)

/-- mirrors phase55/modules/mshw0485_touch.c:2531-2540 (`g6ts_windows_feedback_provider_valid`) -/
def windowsFeedbackProviderValid : Bool :=
  0 ≤ p.parityDisplayBitmap && p.parityDisplayBitmap ≤ 255 &&
  (p.parityStitchingFlag == 0 || p.parityStitchingFlag == 1) && 0 ≤ p.parityHingeAngle &&
  0 ≤ p.parityFastHostId && p.parityFastHostId ≤ 65535

/-- mirrors phase55/modules/mshw0485_touch.c:2542-2548 (`g6ts_windows_config_provider_valid`) -/
def windowsConfigProviderValid : Bool :=
  p.parityReport56IdentityCount == windowsReport56IdLen &&
  (p.parityReport56Flag == 0 || p.parityReport56Flag == 1)

/-- `g6ts_parity_cfu_offer` -/
def cfuOffer : Bytes := (List.range windowsCfuOfferLen).map p.parityCfuOffer

/-- mirrors phase55/modules/mshw0485_touch.c:2574-2581 (`g6ts_windows_cfu_provider_valid`) -/
def windowsCfuProviderValid : Bool :=
  p.parityCfuOfferCount == windowsCfuOfferLen && (p.parityCfuOffer 1).toNat < 0x40 &&
  p.cfuOffer == sp11CfuOffer

/-- mirrors phase55/modules/mshw0485_touch.c:2550-2559 (`g6ts_build_windows_feedback_a1`) -/
def windowsFeedbackA1 : Bytes :=
  let content := patch (List.replicate windowsFeedbackLen 0) 0
    [0x8e, 0xa1, UInt8.ofNat (p.parityDisplayBitmap % 256).toNat,
    UInt8.ofNat (p.parityStitchingFlag % 256).toNat]
  patch (patch content 4 (le32Bytes p.parityHingeAngle)) 40 (le16Bytes p.parityFastHostId)

/-- mirrors phase55/modules/mshw0485_touch.c:2561-2572 (`g6ts_build_windows_feedback_a5`) -/
def windowsFeedbackA5 : Bytes :=
  let content := patch (List.replicate windowsFeedbackLen 0) 0 [0x8e, 0xa5, 0, 2]
  patch (patch content 39 (le16Bytes p.parityFastHostId)) 46 (le16Bytes 0x0040)

/-- `report56` -/
def report56 : Bytes :=
  (List.range windowsReport56IdLen).map p.parityReport56Identity ++
    [UInt8.ofNat (p.parityReport56Flag % 256).toNat]

end Params

/-- mirrors phase55/modules/mshw0485_touch.c:2583-2591 (`g6ts_build_windows_cfu_info`) -/
def windowsCfuInfo (informationCode : UInt8) : Bytes :=
  patch (List.replicate windowsCfuOfferLen 0) 0 [informationCode, 0, 0xff, windowsCfuToken]

/-- mirrors phase55/modules/mshw0485_touch.c:2593-2600 (`g6ts_windows_cfu_response_well_formed`) -/
def Io.cfuResponseWellFormed (io : Io) : Bool :=
  io.payload 0 == 0 && io.payload 1 == 0 && io.payload 2 == 0 &&
  io.payload 3 == windowsCfuToken.toNat && io.payload32 4 == 0 &&
  io.payload 9 == 0 && io.payload 10 == 0 && io.payload 11 == 0 &&
  io.payload 13 == 0 && io.payload 14 == 0 && io.payload 15 == 0

/-- The last response, as the callers of `g6ts_expect_response` compare it. -/
def Io.isResponse (io : Io) (responseClass contentId minContentLen : Nat) : Bool :=
  io.lastClass == responseClass && io.lastContentId == contentId &&
    decide (minContentLen ≤ io.lastContentLen)

/-- The fields of the device descriptor, as the SP11 firmware sends them. -/
def Io.sp11DeviceDescriptor (io : Io) : Bool :=
  io.payload16 0 == hidspiDeviceDescriptorSize && io.payload16 2 == 0x0300 &&
    io.payload16 4 == 1484 &&
  io.payload16 6 == 8192 && io.payload16 8 == 512 && io.payload16 10 == 8192 &&
  io.payload16 12 == 0x045e && io.payload16 14 == 0x0c83 && io.payload16 16 == 0x0004 &&
  io.payload16 18 == 0x0001 && io.payload32 20 == 0

/-- mirrors phase55/modules/mshw0485_touch.c:2677-2681 (the version header and its component) -/
def Io.cfuVersionMatches (io : Io) (p : Params) : Bool :=
  io.payload 0 == 1 && io.payload 1 == 0 && io.payload 2 == 0 && io.payload 3 == 4 &&
  (List.range 4).all (fun i => io.payload (4 + i) == (p.parityCfuOffer (4 + i)).toNat) &&
  io.payload 9 == (p.parityCfuOffer 2).toNat

namespace Driver
open Proc

section
variable (c : Config) (w : World)

/-! ## Power -/

/-- mirrors phase55/modules/mshw0485_touch.c:776-790 (ACPI `_PS0` and `_RST`) -/
def acpiPowerOn (afterPs0 : TsProc Unit) : TsProc Unit := do
  let ret ← ask w.acpi
  check ret
  afterPs0
  let ret ← ask w.acpi
  match ret with
  | some e => do
    let _ ← ask w.acpi
    throw e
  | none => return ()

/-- mirrors phase55/modules/mshw0485_touch.c:763-789 (`g6ts_power_on`) -/
def powerOn : TsProc Unit :=
  if c.gpioPair then Pure.pure () else acpiPowerOn w (Pure.pure ())

/-- mirrors phase55/modules/mshw0485_touch.c:796-827 (`g6ts_windows_power_on`) -/
def windowsPowerOn : TsProc Unit := do
  setStage .WINDOWS_POWER_PS0
  if c.gpioPair then setStage .WINDOWS_RESET_METHOD
  else acpiPowerOn w (setStage .WINDOWS_RESET_METHOD)

/-- mirrors phase55/modules/mshw0485_touch.c:829-839 (`g6ts_power_off`) -/
def powerOff : TsProc Unit :=
  if c.gpioPair then Pure.pure () else do
    let ret ← ask w.acpi
    check ret

/-! ## Replies -/

/-- Reads responses until `done`; a reset ends the wait, streaming data and
the acknowledgement of report `0x09` are skipped. -/
def awaitReply (done : Io → Bool) : Nat → TsProc Unit
  | 0 => throw .EOVERFLOW
  | n + 1 => do
    waitPending w
    dmaReadResponse c w
    let io ← getsIo id
    if done io then return ()
    else if io.lastClass = classResetResponse then do
      modify (notePanelReset c w false)
      throw .EPIPE
    else if io.lastClass = classData ∨ io.lastClass = classOutputReportResponse ∧
      io.lastContentId = 0x09 then
      awaitReply done n
    else throw .EPROTO

/-- mirrors phase55/modules/mshw0485_touch.c:2434-2486 (`g6ts_dma_feature_exchange`) -/
def dmaFeatureExchange (reportType contentId : Nat) (content : Bytes) : TsProc Unit := do
  errorIf (reportType ≠ typeSetFeature && reportType ≠ typeGetFeature) .EINVAL
  let expected := if reportType = typeSetFeature then classSetFeatureResponse
    else classGetFeatureResponse
  let ret ← dmaHidspiOutput w reportType contentId content
  checkTransport ret
  awaitReply c w (fun io => io.isResponse expected contentId 0) featureResponseLimit

/-- mirrors phase55/modules/mshw0485_touch.c:2888-2923 (`g6ts_recovery_read_expected`) -/
def recoveryReadExpected (responseClass contentId minContentLen : Nat) : TsProc Unit :=
  awaitReply c w (fun io => io.isResponse responseClass contentId minContentLen)
    featureResponseLimit

/-- mirrors phase55/modules/mshw0485_touch.c:2488-2497 (`g6ts_expect_response`) -/
def expectResponse (responseClass contentId minContentLen : Nat) : TsProc Unit := do
  let ok ← getsIo fun io => io.isResponse responseClass contentId minContentLen
  errorIf (!ok) .EPROTO

/-- The callers that want an exact content length. -/
def expectExact (responseClass contentId contentLen : Nat) : TsProc Unit := do
  expectResponse responseClass contentId contentLen
  let len ← getsIo (·.lastContentLen)
  errorIf (len ≠ contentLen) .EPROTO

/-- Feature exchange and exact response. -/
def exchangeExact (reportType responseClass contentId : Nat) (content : Bytes) (contentLen : Nat) :
    TsProc Unit := do
  dmaFeatureExchange c w reportType contentId content
  expectExact responseClass contentId contentLen

/-- mirrors phase55/modules/mshw0485_touch.c:2499-2526 (`g6ts_validate_sp11_device_descriptor`) -/
def validateSp11DeviceDescriptor : TsProc Unit := do
  let io ← getsIo id
  errorIf (io.lastClass ≠ classDeviceDescriptorResponse || io.lastContentId ≠ 0 ||
    io.lastContentLen ≠ hidspiDeviceDescriptorSize) .EPROTO
  errorIf (!io.sp11DeviceDescriptor) .ENODEV

/-! ## Windows CFU inventory -/

/-- mirrors phase55/modules/mshw0485_touch.c:2602-2621 (`g6ts_windows_cfu_send_locked`) -/
def windowsCfuSend (content : Bytes) : TsProc Unit := do
  let ret ← dmaHidspiOutput w typeOutputReport 0x65 content
  check ret
  recoveryReadExpected c w classData 0x65 windowsCfuOfferLen
  let io ← getsIo id
  errorIf (io.lastContentLen ≠ windowsCfuOfferLen) .EPROTO
  errorIf (!io.cfuResponseWellFormed) .EPROTO

/-- mirrors phase55/modules/mshw0485_touch.c:2623-2632 (`g6ts_windows_cfu_expect_info_accept`) -/
def windowsCfuExpectInfoAccept : TsProc Unit := do
  let io ← getsIo id
  errorIf (io.payload 8 ≠ 0xff || io.payload 12 ≠ 0x01) .EPROTO

/-- One information exchange of the inventory. -/
def windowsCfuInform (stage : InitializationStage) (informationCode : UInt8) : TsProc Unit := do
  setStage stage
  windowsCfuSend c w (windowsCfuInfo informationCode)
  windowsCfuExpectInfoAccept

def setParityRequired (f : ParityRequired → ParityRequired) : TsProc Unit :=
  modifyIo fun io => { io with parityRequired := f io.parityRequired }

def setParityBuffers (f : Io → ParityBuffers → ParityBuffers) : TsProc Unit :=
  modifyIo fun io => { io with parityBuffers := f io io.parityBuffers }

/-- `ts->awaiting_ready_heat = awaiting; ts->mode_enabled = true;` -/
def openInput (awaiting : Bool) : TsProc Unit :=
  modify fun s => Ts.note .opened { s with awaitingReadyHeat := awaiting, modeEnabled := true }

/-- `ts->mode_enabled = false` -/
def closeInput : TsProc Unit := modify fun s => { s with modeEnabled := false }

/-- mirrors phase55/modules/mshw0485_touch.c:2709-2747 (the end of the list, feature `0x73`, Heat) -/
def windowsCfuFinish : TsProc Unit := do
  windowsCfuInform c w .WINDOWS_CFU_END_LIST 2
  setStage .WINDOWS_FINAL_FEATURE73
  exchangeExact c w typeGetFeature classGetFeatureResponse 0x73 [] 2
  setParityBuffers fun io b => { b with feature73Late := io.content 2 }
  if c.p.parityHeatInput then do
    setStage .WAIT_HEAT
    openInput true
  else do
    setStage .WINDOWS_HEAT_OWNER_REQUIRED
    setParityRequired fun r => { r with heatOwner := true }

/-- mirrors phase55/modules/mshw0485_touch.c:2634-2749 (`g6ts_windows_cfu_inventory_locked`) -/
def windowsCfuInventory : TsProc Unit := do
  setStage .WINDOWS_CFU_GET_VERSION
  exchangeExact c w typeGetFeature classGetFeatureResponse 0x60 [] windowsCfuVersionLen
  setParityBuffers fun io b => { b with cfuVersionPrefix := io.content 12 }
  let io ← getsIo id
  errorIf (!io.cfuVersionMatches c.p) .EPROTO
  windowsCfuInform c w .WINDOWS_CFU_START_TRANSACTION 0
  windowsCfuInform c w .WINDOWS_CFU_START_LIST 1
  setStage .WINDOWS_CFU_OFFER
  windowsCfuSend c w (patch c.p.cfuOffer 3 [windowsCfuToken])
  setParityBuffers fun io b => { b with cfuOfferResponse := io.content windowsCfuOfferLen }
  let io ← getsIo id
  if io.payload 8 ≠ 0 ∨ io.payload 12 ≠ 0x02 then do
    setStage .WINDOWS_CFU_BRANCH_REQUIRED
    setParityRequired fun r => { r with cfuBranch := true }
  else windowsCfuFinish c w

/-! ## Windows cold attach -/

/-- mirrors phase55/modules/mshw0485_touch.c:2838-2885 (features `0x70` and `0x56`, CFU) -/
def windowsConfigOwner : TsProc Unit := do
  setStage .WINDOWS_GET_FEATURE70
  exchangeExact c w typeGetFeature classGetFeatureResponse 0x70 [] 1
  let io ← getsIo id
  errorIf (io.payload 0 ≠ 0x02) .EPROTO
  setStage .WINDOWS_SET_FEATURE70
  exchangeExact c w typeSetFeature classSetFeatureResponse 0x70 modeEnable 0
  setStage .WINDOWS_SET_FEATURE56
  exchangeExact c w typeSetFeature classSetFeatureResponse 0x56 c.p.report56 0
  if !c.p.parityCfuInventory || !c.p.windowsCfuProviderValid then do
    setStage .WINDOWS_CFU_OWNER_REQUIRED
    setParityRequired fun r => { r with cfuOwner := true }
    closeInput
  else windowsCfuInventory c w

/-- mirrors phase55/modules/mshw0485_touch.c:2797-2836 (feedback A1 and A5, feature `0x05`) -/
def windowsFeedback : TsProc Unit := do
  setStage .WINDOWS_FEEDBACK_A1
  let ret ← dmaHidspiOutput w typeOutputReport 0x09 c.p.windowsFeedbackA1
  check ret
  recoveryReadExpected c w classData 0xa0 1
  let io ← getsIo id
  errorIf (io.lastContentLen ≠ 1 || io.payload 0 ≠ 0x01) .EPROTO
  setStage .WINDOWS_FEEDBACK_A5
  let ret ← dmaHidspiOutput w typeOutputReport 0x09 c.p.windowsFeedbackA5
  check ret
  setStage .WINDOWS_SET_FEATURE05
  exchangeExact c w typeSetFeature classSetFeatureResponse 0x05 modeEnable 0
  if !c.p.windowsConfigProviderValid then do
    setStage .WINDOWS_CONFIG_OWNER_REQUIRED
    setParityRequired fun r => { r with configOwner := true }
    closeInput
  else windowsConfigOwner c w

/-- mirrors phase55/modules/mshw0485_touch.c:2757-2886 (`g6ts_windows_cold_attach_locked`) -/
def windowsColdAttach : TsProc Unit := do
  setStage .WINDOWS_EARLY_FEATURE73
  exchangeExact c w typeGetFeature classGetFeatureResponse 0x73 [] 2
  setParityBuffers fun io b => { b with feature73Early := io.content 2 }
  let io ← getsIo id
  errorIf (io.payload 0 ≠ 0xfe || io.payload 1 ≠ 0xff) .EPROTO
  setStage .WINDOWS_HEAT_CAPS06
  exchangeExact c w typeGetFeature classGetFeatureResponse 0x06 [] 119
  setParityBuffers fun io b => { b with feature06Prefix := io.content 16 }
  if !c.p.windowsFeedbackProviderValid then do
    setStage .WINDOWS_FEEDBACK_REQUIRED
    setParityRequired fun r => { r with feedback := true }
    closeInput
  else windowsFeedback c w

/-! ## Full initialization -/

/-- mirrors phase55/modules/mshw0485_touch.c:2936-2954 (the cleared fields) -/
def beginInitialization (s : Ts) : Ts :=
  { s with
    modeEnabled := false
    awaitingReadyHeat := false
    io.expectedReportDescriptorLen := 0
    io.initializationStage := .IDLE
    io.parityRequired := {}
    io.parityBuffers := {} }

/-- The power-on of the hardware path. -/
def panelPowerOn : TsProc Unit :=
  if c.p.windowsInitParity && !c.p.parityLinuxPower then windowsPowerOn c w else powerOn c w

/-- mirrors phase55/modules/mshw0485_touch.c:2956-2984 (power cycle and reset response) -/
def powerCycle (path : RecoveryPath) : TsProc Unit :=
  match path with
  | .SOFTWARE => do
    modifyIo fun io => { io with softwareRecoveryAttempts := io.softwareRecoveryAttempts + 1 }
    setStage .RESET_RESPONSE
  | .HARDWARE => do
    modifyIo fun io => { io with hardwareRecoveryAttempts := io.hardwareRecoveryAttempts + 1 }
    powerOff c w
    panelPowerOn c w
    setStage .RESET_RESPONSE
    waitPending w
    dmaReadResponse c w
    expectResponse classResetResponse 0 0

/-- mirrors phase55/modules/mshw0485_touch.c:2986-3021 (the two descriptors) -/
def enumerate : TsProc Unit := do
  setStage .DEVICE_DESCRIPTOR
  let ret ← dmaOutput w deviceDescriptorCmd
  checkTransport ret
  recoveryReadExpected c w classDeviceDescriptorResponse 0 hidspiDeviceDescriptorSize
  validateSp11DeviceDescriptor
  let expected ← getsIo (·.expectedReportDescriptorLen)
  errorIf (expected = 0 || expected > maxBody - hidspiInputBodyHeaderSize) .EPROTO
  setStage .REPORT_DESCRIPTOR
  let ret ← dmaOutput w reportDescriptorCmd
  checkTransport ret
  recoveryReadExpected c w classReportDescriptorResponse 0 expected
  let io ← getsIo id
  errorIf (io.lastContentLen ≠ io.expectedReportDescriptorLen) .EPROTO

/-- mirrors phase55/modules/mshw0485_touch.c:3053-3074 (the panel's `0x70` content) -/
def captureModeConfig (io : Io) : Io :=
  if c.p.modeConfigFix then
    let config := io.content (min io.lastContentLen modeConfigMax)
    { io with modeConfig := config, modeConfigValid := decide (config.length > 0) }
  else io

/-- mirrors phase55/modules/mshw0485_touch.c:3076-3104 (the content of SET_FEATURE `0x70`) -/
def setFeature70Content (io : Io) : Bytes :=
  if c.p.feature70OneByte then modeEnable
  else if c.p.modeConfigFix && io.modeConfigValid then 0x01 :: io.modeConfig
  else modeEnable

/-- mirrors phase55/modules/mshw0485_touch.c:3116-3132 (the short report `0x09`) -/
def sendReport09 : TsProc Unit := do
  let io ← getsIo id
  onlyIf (c.p.modeConfigFix && io.modeConfigValid) do
    let ret ← dmaHidspiOutput w typeOutputReport 0x09 (0x8e :: io.modeConfig)
    checkTransport ret

/-- mirrors phase55/modules/mshw0485_touch.c:3034-3155 (the mode handshake) -/
def enterMode : TsProc Unit := do
  setStage .SET_FEATURE05
  dmaFeatureExchange c w typeSetFeature 0x05 modeEnable
  expectResponse classSetFeatureResponse 0x05 0
  setStage .GET_FEATURE70
  modifyIo fun io => { io with modeConfigValid := false, modeConfig := [] }
  dmaFeatureExchange c w typeGetFeature 0x70 []
  expectResponse classGetFeatureResponse 0x70 1
  modifyIo (captureModeConfig c)
  setStage .SET_FEATURE70
  let content ← getsIo (setFeature70Content c)
  dmaFeatureExchange c w typeSetFeature 0x70 content
  expectResponse classSetFeatureResponse 0x70 0
  sendReport09 c w
  setStage .SET_FEATURE56
  dmaFeatureExchange c w typeSetFeature 0x56 modeHandshake
  expectResponse classSetFeatureResponse 0x56 0
  onlyIf c.p.resetRecoveryV2 (setStage .WAIT_HEAT)
  openInput c.p.resetRecoveryV2

/-- mirrors phase55/modules/mshw0485_touch.c:3023-3032 (parity) and :3034-3155 -/
def attach (path : RecoveryPath) : TsProc Unit :=
  if c.p.windowsInitParity then do
    errorIf (path ≠ .HARDWARE) .EOPNOTSUPP
    windowsColdAttach c w
  else enterMode c w

/-- The two `return ret` before the label leave input closed as well.
mirrors phase55/modules/mshw0485_touch.c:2931-3159 (`g6ts_full_reinitialize_locked`) -/
def fullReinitializeLocked (path : RecoveryPath) : TsProc Unit :=
  Proc.onError (do
    modify beginInitialization
    powerCycle c w path
    enumerate c w
    attach c w path) fun s => { s with modeEnabled := false }

end
end Driver
end Sp11Touch
