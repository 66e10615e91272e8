import Sp11Touch.Core.Emits
import Sp11Touch.L3Driver.ModeConfig
/-!
# The outputs of initialization, in order

Initialization never repeats an output: one call puts a word on the wire that
the parameters fix, up to the mode configuration the panel reports in between,
and a failing call the beginning of such a word.

**Results.**
* `Watches`: a condition on what was captured is kept by everything that is not
  an output, and nothing of that reaches the wire.
* `enterMode_emits`, `windowsColdAttach_emits`, ..: one word for each function of the chain.
* `fullReinitializeLocked_emits`: the word of one call. `Framed`: every packet of it
  is a packet of `dma_hidspi_output`, its content no longer than the buffer.
-/
namespace Sp11Touch

/-- A packet as `g6ts_dma_hidspi_output` builds it. -/
def Framed (packet : Bytes) : Prop :=
  ∃ reportType contentId content, reportType < 256 ∧ contentId < 256 ∧ content.length ≤ 64 ∧
    packet = Driver.hidspiPacket reportType contentId content

/-! ## The words -/

def getPacket (contentId : Nat) : Bytes := Driver.hidspiPacket typeGetFeature contentId []
def setPacket (contentId : Nat) (content : Bytes) : Bytes :=
  Driver.hidspiPacket typeSetFeature contentId content
def outputPacket (contentId : Nat) (content : Bytes) : Bytes :=
  Driver.hidspiPacket typeOutputReport contentId content

namespace Params
variable (p : Params)

/-- From the CFU version to the end of the list, where the offer was skipped as expected. -/
def inventoryWords : Language Bytes :=
  {[getPacket 0x60, outputPacket 0x65 (windowsCfuInfo 0), outputPacket 0x65 (windowsCfuInfo 1),
    outputPacket 0x65 (patch p.cfuOffer 3 [windowsCfuToken])]} *
  (1 + {[outputPacket 0x65 (windowsCfuInfo 2), getPacket 0x73]})

/-- From GET_FEATURE `0x70`. -/
def configWords : Language Bytes :=
  {[getPacket 0x70, setPacket 0x70 modeEnable, setPacket 0x56 p.report56]} *
  (if !p.parityCfuInventory || !p.windowsCfuProviderValid then 1 else p.inventoryWords)

def feedbackWords : Language Bytes :=
  {[outputPacket 0x09 p.windowsFeedbackA1, outputPacket 0x09 p.windowsFeedbackA5,
    setPacket 0x05 modeEnable]} *
  (if !p.windowsConfigProviderValid then 1 else p.configWords)

/-- The Windows start-up after the descriptors: each provider that is missing ends it. -/
def coldWords : Language Bytes :=
  {[getPacket 0x73, getPacket 0x06]} * (if !p.windowsFeedbackProviderValid then 1
    else p.feedbackWords)

/-- The mode handshake after `config` was captured. -/
def handshakeWord (config : Bytes) : List Bytes :=
  [setPacket 0x70 (if p.feature70OneByte then modeEnable
    else if p.modeConfigFix && decide (0 < config.length) then 0x01 :: config else modeEnable)] ++
  (if p.modeConfigFix && decide (0 < config.length) then [outputPacket 0x09 (0x8e :: config)]
    else []) ++
  [setPacket 0x56 modeHandshake]

/-- The mode handshake for some configuration that fits `mode_config`. -/
def handshakeWords : Language Bytes :=
  {word | ∃ config : Bytes, config.length ≤ modeConfigMax ∧ word = p.handshakeWord config}

/-- The default start-up after the descriptors. -/
def modeWords : Language Bytes := {[setPacket 0x05 modeEnable, getPacket 0x70]} * p.handshakeWords

/-- A complete initialization. -/
def initWords : Language Bytes :=
  {[deviceDescriptorCmd, reportDescriptorCmd]} *
    (if p.windowsInitParity then p.coldWords else p.modeWords)

end Params

namespace Driver
open Proc

/-- `p` puts a word of `L` on the wire, framed packets only. -/
abbrev Puts {α : Type} (I : Ts → Prop) (L : Language Bytes) (p : TsProc α) (J : Ts → Prop) : Prop :=
  Emits (fun s : Ts => s.io.wire) Framed I L p J

/-- `p` puts nothing on the wire. -/
abbrev Silent {α : Type} (I : Ts → Prop) (p : TsProc α) : Prop := Puts I 1 p I

/-- A condition on nothing but the captured mode configuration. -/
structure Watches (I : Ts → Prop) : Prop where
  io : ∀ s t : Ts, t.io.modeConfig = s.io.modeConfig →
    t.io.modeConfigValid = s.io.modeConfigValid → I s → I t

variable {c : Config} {w : World} {I : Ts → Prop}

instance : Nonempty Errno := ⟨.EPROTO⟩
instance : Nonempty (Except Errno Bool) := ⟨.ok true⟩
instance : Nonempty Io := ⟨probedIo⟩

/-! ## Everything but the outputs -/

namespace Watches

theorem anything : Watches fun _ => True := ⟨fun _ _ _ _ _ => trivial⟩

theorem captured (config : Bytes) (valid : Bool) : Watches (Captured config valid) :=
  ⟨fun _ _ hc hv h => ⟨hc.trans h.config, hv.trans h.valid⟩⟩

theorem modify (h : Watches I) (f : Ts → Ts) (hf : ∀ s, (f s).io.wire = s.io.wire ∧
    (f s).io.modeConfig = s.io.modeConfig ∧ (f s).io.modeConfigValid = s.io.modeConfigValid) :
    Silent I (Proc.modify f : TsProc Unit) :=
  Emits.modify f (fun s => (hf s).1) fun s hs => h.io s _ (hf s).2.1 (hf s).2.2 hs

theorem modifyIo (h : Watches I) (f : Io → Io) (hf : ∀ io, (f io).wire = io.wire ∧
    (f io).modeConfig = io.modeConfig ∧ (f io).modeConfigValid = io.modeConfigValid) :
    Silent I (Driver.modifyIo f) := h.modify _ fun s => hf s.io

theorem getsIo {α : Type} (f : Io → α) : Silent I (Driver.getsIo f) := Emits.gets _

theorem ask {α : Type} (h : Watches I) (f : Nat → α) : Silent I (Driver.ask f) where
  word := ⟨[], Language.nil_mem_one⟩
  run s hs := ⟨h.io s _ rfl rfl hs, [], Language.nil_mem_one, .nil rfl⟩

theorem setStage (h : Watches I) (stage : InitializationStage) : Silent I (Driver.setStage stage) :=
  h.modifyIo _ fun _ => ⟨rfl, rfl, rfl⟩

theorem throw {α : Type} (e : Errno) : Silent I (Proc.throw e : TsProc α) :=
  Emits.throw e ⟨[], Language.nil_mem_one⟩

theorem pure {α : Type} (a : α) : Silent I (Pure.pure a : TsProc α) := Emits.pure a fun _ h => h

theorem check (ret : Option Errno) : Silent I (Driver.check ret) := by
  cases ret with
  | none => exact pure ()
  | some e => exact throw e

theorem checkTransport (h : Watches I) (ret : Option Errno) :
    Silent I (Driver.checkTransport ret) := by
  cases ret with
  | none => exact pure ()
  | some e => exact Emits.quiet (h.modify _ fun _ => ⟨rfl, rfl, rfl⟩) fun _ => throw e

theorem newEdges (h : Watches I) : Silent I (newEdges w) :=
  Emits.quiet (h.ask _) fun _ => Emits.quiet (getsIo _) fun _ => pure _

theorem pollPending (h : Watches I) : ∀ n, Silent I (pollPending w n)
  | 0 => throw _
  | n + 1 => by
    refine Emits.quiet (h.ask _) fun value => ?_
    cases value with
    | error e => exact throw e
    | ok b => cases b with
      | true => exact pure _
      | false => exact Emits.quiet h.newEdges fun _ => Emits.ite (fun _ => pure _) fun _ => h.pollPending n

theorem waitPending (h : Watches I) : Silent I (waitPending w) :=
  Emits.quiet (h.ask _) fun _ => h.pollPending _

theorem takeEdges (h : Watches I) : Silent I (takeEdges w) := by
  refine Emits.quiet (h.ask _) fun value => Emits.quiet (h.ask _) fun _ =>
    Emits.quiet (getsIo _) fun _ =>
    Emits.quiet ?_ fun _ => h.modifyIo _ fun _ => ⟨rfl, rfl, rfl⟩
  cases value with
  | error e => exact Emits.errorIf _ _
  | ok b => cases b with
    | true => exact pure _
    | false => exact Emits.errorIf _ _

theorem dmaReadPair (h : Watches I) (put : (Nat → UInt8) → Io → Io)
    (hput : ∀ bytes io, (put bytes io).wire = io.wire ∧
    (put bytes io).modeConfig = io.modeConfig ∧
      (put bytes io).modeConfigValid = io.modeConfigValid) :
    Silent I (dmaReadPair w put) :=
  Emits.quiet (h.ask _) fun _ => Emits.quiet (h.modifyIo _ (hput _)) fun _ => pure _

theorem invalidHeader (h : Watches I) : Silent I (invalidHeader c w) := by
  refine Emits.quiet (Emits.onlyIf (Emits.quiet (h.ask _) fun value => ?_)) fun _ =>
    Emits.quiet (h.ask _) fun _ => throw _
  cases value with
  | error e => exact throw e
  | ok b => cases b with
    | true => exact pure _
    | false => exact Emits.quiet (h.modifyIo _ fun _ => ⟨rfl, rfl, rfl⟩) fun _ => throw _

theorem readHeader (h : Watches I) : Silent I (readHeader c w) :=
  Emits.quiet (h.dmaReadPair _ fun _ _ => ⟨rfl, rfl, rfl⟩) fun _ =>
    Emits.quiet (h.checkTransport _) fun _ =>
    Emits.quiet (getsIo _) fun _ => Emits.ite (fun _ => pure _) fun _ => h.invalidHeader

theorem readBody (h : Watches I) (len : Nat) : Silent I (readBody w len) :=
  Emits.quiet (Emits.errorIf _ _) fun _ => Emits.quiet
    (h.dmaReadPair _ fun _ _ => ⟨rfl, rfl, rfl⟩) fun _ =>
    Emits.quiet (h.checkTransport _) fun _ =>
      Emits.quiet (h.modifyIo _ fun _ => ⟨rfl, rfl, rfl⟩) fun _ =>
      Emits.quiet (getsIo _) fun _ => Emits.errorIf _ _

theorem dmaReadResponse (h : Watches I) : Silent I (dmaReadResponse c w) := by
  refine Emits.quiet (h.modifyIo _ fun _ => ⟨rfl, rfl, rfl⟩) fun _ =>
    Emits.quiet h.takeEdges fun _ =>
    Emits.quiet h.readHeader fun _ => Emits.quiet (getsIo _) fun len =>
      Emits.quiet (h.readBody len) fun _ =>
      Emits.quiet (h.modifyIo _ fun io => ?_) fun _ => Emits.quiet (Emits.gets _) fun _ =>
        Emits.onlyIf (h.modify _ fun s => ?_)
  · unfold noteDescriptor
    split <;> exact ⟨rfl, rfl, rfl⟩
  · obtain ⟨_, _, _, _, he⟩ := handleDataReport_frame c s
    rw [he]
    exact ⟨rfl, rfl, rfl⟩

/-- By induction on the responses. -/
theorem awaitReply (h : Watches I) (done : Io → Bool) : ∀ n, Silent I (awaitReply c w done n)
  | 0 => throw _
  | n + 1 => by
    refine Emits.quiet h.waitPending fun _ => Emits.quiet h.dmaReadResponse fun _ =>
      Emits.quiet (getsIo _) fun _ =>
      Emits.ite (fun _ => pure _) fun _ => Emits.ite
        (fun _ => Emits.quiet (h.modify _ fun s => ?_) fun _ => throw _)
        fun _ => Emits.ite (fun _ => h.awaitReply done n) fun _ => throw _
    obtain ⟨_, _, _, he, _⟩ := notePanelReset_frame c w s
    rw [he]
    exact ⟨rfl, rfl, rfl⟩

theorem recoveryReadExpected (h : Watches I) (responseClass contentId minContentLen : Nat) :
    Silent I (recoveryReadExpected c w responseClass contentId minContentLen) := h.awaitReply _ _

theorem expectResponse (responseClass contentId minContentLen : Nat) :
    Silent I (expectResponse responseClass contentId minContentLen) :=
  Emits.quiet (getsIo _) fun _ => Emits.errorIf _ _

theorem expectExact (responseClass contentId contentLen : Nat) :
    Silent I (expectExact responseClass contentId contentLen) :=
  Emits.quiet (expectResponse _ _ _) fun _ => Emits.quiet (getsIo _) fun _ => Emits.errorIf _ _

theorem validateSp11DeviceDescriptor : Silent I validateSp11DeviceDescriptor :=
  Emits.quiet (getsIo _) fun _ => Emits.quiet (Emits.errorIf _ _) fun _ => Emits.errorIf _ _

theorem acpiPowerOn (h : Watches I) {p : TsProc Unit} (hp : Silent I p) :
    Silent I (acpiPowerOn w p) := by
  refine Emits.quiet (h.ask _) fun _ => Emits.quiet (check _) fun _ => Emits.quiet hp fun _ =>
    Emits.quiet (h.ask _) fun ret => ?_
  cases ret with
  | none => exact pure _
  | some e => exact Emits.quiet (h.ask _) fun _ => throw e

theorem powerOff (h : Watches I) : Silent I (powerOff c w) :=
  Emits.ite (fun _ => pure _) fun _ => Emits.quiet (h.ask _) fun _ => check _

theorem panelPowerOn (h : Watches I) : Silent I (panelPowerOn c w) :=
  Emits.ite
    (fun _ => Emits.quiet (h.setStage _) fun _ => Emits.ite (fun _ => h.setStage _) fun _ =>
    h.acpiPowerOn (h.setStage _))
    fun _ => Emits.ite (fun _ => pure _) fun _ => h.acpiPowerOn (pure _)

theorem powerCycle (h : Watches I) (path : RecoveryPath) : Silent I (powerCycle c w path) := by
  cases path with
  | SOFTWARE => exact Emits.quiet (h.modifyIo _ fun _ => ⟨rfl, rfl, rfl⟩) fun _ => h.setStage _
  | HARDWARE =>
    exact Emits.quiet (h.modifyIo _ fun _ => ⟨rfl, rfl, rfl⟩) fun _ =>
      Emits.quiet h.powerOff fun _ =>
      Emits.quiet h.panelPowerOn fun _ => Emits.quiet (h.setStage _) fun _ =>
        Emits.quiet h.waitPending fun _ =>
        Emits.quiet h.dmaReadResponse fun _ => expectResponse _ _ _

theorem setParityRequired (h : Watches I) (f : ParityRequired → ParityRequired) :
    Silent I (Driver.setParityRequired f) := h.modifyIo _ fun _ => ⟨rfl, rfl, rfl⟩

theorem setParityBuffers (h : Watches I) (f : Io → ParityBuffers → ParityBuffers) :
    Silent I (Driver.setParityBuffers f) := h.modifyIo _ fun _ => ⟨rfl, rfl, rfl⟩

theorem openInput (h : Watches I) (awaiting : Bool) : Silent I (Driver.openInput awaiting) :=
  h.modify _ fun _ => ⟨rfl, rfl, rfl⟩

/-- A provider boundary. -/
theorem boundary (h : Watches I) (stage : InitializationStage)
    (f : ParityRequired → ParityRequired) :
    Silent I (do Driver.setStage stage; Driver.setParityRequired f; Driver.closeInput) :=
  Emits.quiet (h.setStage _) fun _ => Emits.quiet (h.setParityRequired _) fun _ =>
    h.modify _ fun _ => ⟨rfl, rfl, rfl⟩

/-! ## The outputs -/

/-- A packet that fits goes out once, whatever the bus answers. -/
theorem dmaOutput (h : Watches I) {packet : Bytes} (hp : Framed packet) : Puts I {[packet]}
    (dmaOutput w packet) I :=
  Emits.rest (Emits.emit _ hp (fun _ => rfl) fun s hs => h.io s _ rfl rfl hs) fun _ => h.ask _

/-- An output and the check of its result; content that does not fit is refused before the bus. -/
theorem send (h : Watches I) (reportType contentId : Nat) (content : Bytes) (ht : reportType < 256)
    (hi : contentId < 256) {check : Option Errno → TsProc Unit} (hc : ∀ ret, Silent I (check ret))
    (hfail : ∀ s, ∃ t, check (some .E2BIG) s = (t, .error .E2BIG) ∧ t.io = s.io)
      {f : Unit → TsProc Unit}
    {L : Language Bytes} {J : Ts → Prop} (hf : ∀ u, Puts I L (f u) J) :
    Puts I ({[hidspiPacket reportType contentId content]} * L)
      (dmaHidspiOutput w reportType contentId content >>= fun ret => check ret >>= f) J := by
  have hword : ∃ l, l ∈ ({[hidspiPacket reportType contentId content]} : Language Bytes) * L :=
    exists_mem_mul ⟨_, rfl⟩ (hf ()).word
  unfold dmaHidspiOutput
  split
  · refine ⟨hword, fun s _ => ?_⟩
    obtain ⟨t, ht, hio⟩ := hfail s
    simp only [Proc.bind_apply, Proc.pure_apply, ht]
    exact ⟨[], nil_mem_prefixes hword, .nil (congrArg Io.wire hio)⟩
  · next hlen =>
    have hg : Framed (hidspiPacket reportType contentId content) :=
      ⟨_, _, content, ht, hi, by omega, rfl⟩
    exact (h.dmaOutput hg).bind fun ret => Emits.quiet (hc ret) hf

theorem sendTransport (h : Watches I) (reportType contentId : Nat) (content : Bytes)
    (ht : reportType < 256)
    (hi : contentId < 256) {f : Unit → TsProc Unit} {L : Language Bytes} {J : Ts → Prop}
      (hf : ∀ u, Puts I L (f u) J) :
    Puts I ({[hidspiPacket reportType contentId content]} * L)
      (dmaHidspiOutput w reportType contentId content >>= fun ret =>
      Driver.checkTransport ret >>= f) J :=
  h.send _ _ _ ht hi h.checkTransport (fun s => ⟨s.latch, rfl, rfl⟩) hf

theorem sendChecked (h : Watches I) (reportType contentId : Nat) (content : Bytes)
    (ht : reportType < 256)
    (hi : contentId < 256) {f : Unit → TsProc Unit} {L : Language Bytes} {J : Ts → Prop}
      (hf : ∀ u, Puts I L (f u) J) :
    Puts I ({[hidspiPacket reportType contentId content]} * L)
      (dmaHidspiOutput w reportType contentId content >>= fun ret => Driver.check ret >>= f) J :=
  h.send _ _ _ ht hi check (fun s => ⟨s, rfl, rfl⟩) hf

theorem dmaFeatureExchange (h : Watches I) (reportType contentId : Nat) (content : Bytes)
    (ht : reportType < 256)
    (hi : contentId < 256) : Puts I {[hidspiPacket reportType contentId content]}
      (dmaFeatureExchange c w reportType contentId content) I := by
  have hs := fun expected => h.sendTransport (w := w) reportType contentId content ht hi fun _ =>
    h.awaitReply (c := c) (w := w) (fun io => io.isResponse expected contentId 0)
      featureResponseLimit
  simp only [mul_one] at hs
  exact Emits.quiet (Emits.errorIf _ _) fun _ => hs _

theorem exchangeExact (h : Watches I) (reportType responseClass contentId : Nat) (content : Bytes)
    (contentLen : Nat)
    (ht : reportType < 256) (hi : contentId < 256) :
      Puts I {[hidspiPacket reportType contentId content]}
      (exchangeExact c w reportType responseClass contentId content contentLen) I :=
  Emits.rest (h.dmaFeatureExchange _ _ _ ht hi) fun _ => expectExact _ _ _

/-! ## The Windows start-up -/

theorem windowsCfuSend (h : Watches I) (content : Bytes) :
    Puts I {[outputPacket 0x65 content]} (windowsCfuSend c w content) I := by
  have hs := h.sendChecked (w := w) typeOutputReport 0x65 content (by decide)
    (by decide) fun _ => Emits.quiet (h.recoveryReadExpected (c := c) (w := w) classData 0x65
    windowsCfuOfferLen) fun _ =>
      Emits.quiet (getsIo id) fun io => Emits.quiet
        (Emits.errorIf (io.lastContentLen ≠ windowsCfuOfferLen) .EPROTO)
        fun _ => Emits.errorIf (!io.cfuResponseWellFormed) .EPROTO
  rw [mul_one] at hs
  exact hs

theorem windowsCfuInform (h : Watches I) (stage : InitializationStage) (informationCode : UInt8) :
    Puts I {[outputPacket 0x65 (windowsCfuInfo informationCode)]}
    (windowsCfuInform c w stage informationCode) I :=
  Emits.quiet (h.setStage _) fun _ => Emits.rest (h.windowsCfuSend _) fun _ =>
    Emits.quiet (getsIo _) fun _ => Emits.errorIf _ _

theorem windowsCfuFinish (h : Watches I) :
    Puts I {[outputPacket 0x65 (windowsCfuInfo 2), getPacket 0x73]} (windowsCfuFinish c w) I :=
  Emits.cons (h.windowsCfuInform _ _) fun _ => Emits.quiet (h.setStage _) fun _ =>
    Emits.rest (h.exchangeExact _ _ _ _ _ (by decide) (by decide)) fun _ =>
      Emits.quiet (h.setParityBuffers _) fun _ =>
      Emits.ite (fun _ => Emits.quiet (h.setStage _) fun _ => h.openInput _)
        fun _ => Emits.quiet (h.setStage _) fun _ => h.setParityRequired _

theorem windowsCfuInventory (h : Watches I) :
    Puts I c.p.inventoryWords (windowsCfuInventory c w) I := by
  have hbranch : Puts I (1 + {[outputPacket 0x65 (windowsCfuInfo 2), getPacket 0x73]} : Language Bytes)
      (do Driver.setStage .WINDOWS_CFU_BRANCH_REQUIRED; Driver.setParityRequired fun r => { r with cfuBranch := true }) I :=
    Emits.conseq (Emits.quiet (h.setStage _) fun _ => h.setParityRequired _)
      (fun _ hs => hs) (fun _ hl => Or.inl hl)
      fun _ hs => hs
  have hfinish : Puts I (1 + {[outputPacket 0x65 (windowsCfuInfo 2), getPacket 0x73]} : Language
    Bytes)
      (Driver.windowsCfuFinish c w) I :=
    h.windowsCfuFinish.conseq (fun _ hs => hs) (fun _ hl => Or.inr hl) fun _ hs => hs
  exact Emits.quiet (h.setStage _) fun _ => Emits.consMul
    (h.exchangeExact _ _ _ _ _ (by decide) (by decide)) fun _ =>
    Emits.quiet (h.setParityBuffers _) fun _ => Emits.quiet (getsIo _) fun _ =>
      Emits.quiet (Emits.errorIf _ _) fun _ =>
      Emits.consMul (h.windowsCfuInform _ _) fun _ =>
        Emits.consMul (h.windowsCfuInform _ _) fun _ =>
        Emits.quiet (h.setStage _) fun _ => Emits.bind (h.windowsCfuSend _) fun _ =>
          Emits.quiet (h.setParityBuffers _) fun _ => Emits.quiet (getsIo _) fun _ =>
            Emits.ite (fun _ => hbranch) fun _ => hfinish

theorem windowsConfigOwner (h : Watches I) : Puts I c.p.configWords (windowsConfigOwner c w) I := by
  have hend : Puts I (if !c.p.parityCfuInventory || !c.p.windowsCfuProviderValid then 1
    else c.p.inventoryWords)
      (if !c.p.parityCfuInventory || !c.p.windowsCfuProviderValid then (do
        Driver.setStage .WINDOWS_CFU_OWNER_REQUIRED
        Driver.setParityRequired fun r => { r with cfuOwner := true }
        closeInput) else Driver.windowsCfuInventory c w) I := by
    split
    · exact h.boundary _ _
    · exact h.windowsCfuInventory
  exact Emits.quiet (h.setStage _) fun _ => Emits.consMul
    (h.exchangeExact _ _ _ _ _ (by decide) (by decide)) fun _ =>
    Emits.quiet (getsIo _) fun _ => Emits.quiet (Emits.errorIf _ _) fun _ =>
      Emits.quiet (h.setStage _) fun _ =>
      Emits.consMul (h.exchangeExact _ _ _ _ _ (by decide) (by decide)) fun _ =>
        Emits.quiet (h.setStage _) fun _ =>
        Emits.bind (h.exchangeExact _ _ _ _ _ (by decide) (by decide)) fun _ => hend

theorem windowsFeedback (h : Watches I) : Puts I c.p.feedbackWords (windowsFeedback c w) I := by
  have hend : Puts I (if !c.p.windowsConfigProviderValid then 1 else c.p.configWords)
      (if !c.p.windowsConfigProviderValid then (do
        Driver.setStage .WINDOWS_CONFIG_OWNER_REQUIRED
        Driver.setParityRequired fun r => { r with configOwner := true }
        closeInput) else Driver.windowsConfigOwner c w) I := by
    split
    · exact h.boundary _ _
    · exact h.windowsConfigOwner
  have hlast : Puts I ({[setPacket 0x05 modeEnable]} * _) _ I :=
    Emits.quiet (h.setStage .WINDOWS_SET_FEATURE05) fun _ =>
    Emits.bind (h.exchangeExact (c := c) (w := w) typeSetFeature classSetFeatureResponse 0x05
      modeEnable 0 (by decide) (by decide)) fun _ => hend
  have hsecond := h.sendChecked (w := w) typeOutputReport 0x09 c.p.windowsFeedbackA5 (by decide)
    (by decide) fun _ => hlast
  have hfirst := h.sendChecked (w := w) typeOutputReport 0x09 c.p.windowsFeedbackA1
    (by decide) (by decide) fun _ =>
      Emits.quiet (h.recoveryReadExpected (c := c) (w := w) classData 0xa0 1) fun _ =>
        Emits.quiet (getsIo id) fun io =>
        Emits.quiet (Emits.errorIf (io.lastContentLen ≠ 1 || io.payload 0 ≠ 0x01) .EPROTO) fun _ =>
          Emits.quiet (h.setStage .WINDOWS_FEEDBACK_A5) fun _ => hsecond
  rw [← mul_assoc, ← mul_assoc, word_mul, word_mul] at hfirst
  exact Emits.quiet (h.setStage _) fun _ => hfirst

theorem windowsColdAttach (h : Watches I) : Puts I c.p.coldWords (windowsColdAttach c w) I := by
  have hend : Puts I (if !c.p.windowsFeedbackProviderValid then 1 else c.p.feedbackWords)
      (if !c.p.windowsFeedbackProviderValid then (do
        Driver.setStage .WINDOWS_FEEDBACK_REQUIRED
        Driver.setParityRequired fun r => { r with feedback := true }
        closeInput) else Driver.windowsFeedback c w) I := by
    split
    · exact h.boundary _ _
    · exact h.windowsFeedback
  exact Emits.quiet (h.setStage _) fun _ => Emits.consMul
    (h.exchangeExact _ _ _ _ _ (by decide) (by decide)) fun _ =>
    Emits.quiet (h.setParityBuffers _) fun _ => Emits.quiet (getsIo _) fun _ =>
      Emits.quiet (Emits.errorIf _ _) fun _ =>
      Emits.quiet (h.setStage _) fun _ => Emits.bind
        (h.exchangeExact _ _ _ _ _ (by decide) (by decide)) fun _ =>
        Emits.quiet (h.setParityBuffers _) fun _ => hend

end Watches

/-! ## The default start-up -/

section
variable {config : Bytes} {valid : Bool}

/-- The short report repeats the captured bytes. -/
theorem sendReport09_emits : Puts (Captured config valid)
    {if c.p.modeConfigFix && valid then [outputPacket 0x09 (0x8e :: config)] else []}
    (sendReport09 c w)
    (Captured config valid) := by
  have hw := Watches.captured config valid
  have heq : ∀ s, Captured config valid s → sendReport09 c w s =
    Proc.onlyIf (c.p.modeConfigFix && valid) (do
      let ret ← dmaHidspiOutput w typeOutputReport 0x09 (0x8e :: config)
      checkTransport ret) s := by
    intro s hs
    simp [sendReport09, Proc.bind_apply, getsIo, hs.config, hs.valid]
  refine Emits.of_eq heq ?_
  cases c.p.modeConfigFix && valid with
  | false => exact Watches.pure ()
  | true =>
    have hs := hw.sendTransport (w := w) typeOutputReport 0x09 (0x8e :: config) (by decide)
      (by decide) fun _ => Watches.pure ()
    rw [mul_one] at hs
    refine Emits.of_eq (fun s _ => ?_) hs
    simp only [Proc.onlyIf, if_true, Proc.bind_apply, Proc.pure_apply]
    cases dmaHidspiOutput w typeOutputReport 0x09 (0x8e :: config) s with
    | mk t r => cases r with
      | error e => rfl
      | ok ret =>
        simp only
        cases checkTransport ret t with
        | mk u r => cases r <;> rfl

theorem handshake_emits (content : Bytes) : Puts (Captured config valid)
    {[setPacket 0x70 content] ++ (if c.p.modeConfigFix && valid then
    [outputPacket 0x09 (0x8e :: config)] else []) ++
      [setPacket 0x56 modeHandshake]} (handshake c w content) (Captured config valid) := by
  have hw := Watches.captured config valid
  have hlast : ∀ _ : Unit, Puts (Captured config valid) {[setPacket 0x56 modeHandshake]} (do
      setStage .SET_FEATURE56
      dmaFeatureExchange c w typeSetFeature 0x56 modeHandshake
      expectResponse classSetFeatureResponse 0x56 0
      onlyIf c.p.resetRecoveryV2 (setStage .WAIT_HEAT)
      openInput c.p.resetRecoveryV2) (Captured config valid) := fun _ =>
    Emits.quiet (hw.setStage _) fun _ => Emits.rest
      (hw.dmaFeatureExchange _ _ _ (by decide) (by decide)) fun _ =>
      Emits.quiet (Watches.expectResponse _ _ _) fun _ =>
        Emits.quiet (Emits.onlyIf (hw.setStage _)) fun _ =>
        hw.openInput _
  have h := Emits.bind (hw.dmaFeatureExchange (c := c) (w := w) typeSetFeature 0x70 content
    (by decide) (by decide)) fun _ =>
      Emits.quiet (Watches.expectResponse classSetFeatureResponse 0x70 0) fun _ =>
        Emits.bind (sendReport09_emits (c := c) (w := w)) hlast
  rw [word_mul, word_mul, ← List.append_assoc] at h
  exact h

end

/-- A configuration that fits. -/
abbrev ModeConfig : Type := { config : Bytes // config.length ≤ modeConfigMax }

instance : Nonempty ModeConfig := ⟨⟨[], Nat.zero_le _⟩⟩

/-- What is captured says of itself whether it is valid. -/
theorem captureModeConfig_emits : Puts (Captured [] false) 1
    (modifyIo (captureModeConfig c)) fun s =>
    ∃ config : ModeConfig, Captured config.1 (decide (0 < config.1.length)) s := by
  refine Emits.modify _ (fun s => ?_) fun s hs => ?_
  · unfold captureModeConfig
    split <;> rfl
  · unfold captureModeConfig
    split
    · refine ⟨⟨s.io.content (min s.io.lastContentLen modeConfigMax), ?_⟩, rfl, rfl⟩
      rw [s.io.content_length]
      exact Nat.min_le_right _ _
    · exact ⟨⟨[], Nat.zero_le _⟩, hs.config, hs.valid⟩

theorem configureMode_emits : Puts (Captured [] false) c.p.handshakeWords
    (configureMode c w) fun _ => True := by
  have hrest : ∀ config : ModeConfig, Puts (Captured config.1 (decide (0 < config.1.length)))
      {c.p.handshakeWord config.1} (do
        setStage .SET_FEATURE70
        let content ← getsIo (setFeature70Content c)
        handshake c w content) fun _ => True := fun config => by
    refine Emits.quiet ((Watches.captured _ _).setStage _) fun _ =>
      Emits.gets_known (fun s hs => ?_)
      ((handshake_emits _).conseq (fun _ hs => hs) (fun _ hl => hl) fun _ _ => trivial)
    unfold setFeature70Content
    rw [hs.config, hs.valid]
  have hall := Emits.ofExists hrest
  refine Emits.quiet captureModeConfig_emits fun _ => hall.conseq (fun _ hs => hs)
    (fun word hword => ?_) fun _ hs => hs
  obtain ⟨config, rfl⟩ := hword
  exact ⟨config.1, config.2, rfl⟩

theorem enterMode_emits : Puts (fun _ => True) c.p.modeWords (enterMode c w) fun _ => True := by
  have hany := Watches.anything
  have hcap := Watches.captured [] false
  have hreset : Puts (fun _ => True) 1 (modifyIo fun io =>
    { io with modeConfigValid := false, modeConfig := [] })
      (Captured [] false) := Emits.modify _ (fun _ => rfl) fun _ _ => ⟨rfl, rfl⟩
  rw [enterMode_eq]
  exact Emits.quiet (hany.setStage _) fun _ =>
    Emits.consMul (hany.dmaFeatureExchange _ _ _ (by decide) (by decide)) fun _ =>
    Emits.quiet (Watches.expectResponse _ _ _) fun _ => Emits.quiet (hany.setStage _) fun _ =>
      Emits.quiet hreset fun _ => Emits.bind (hcap.dmaFeatureExchange _ _ _ (by decide) (by decide))
        fun _ =>
        Emits.quiet (Watches.expectResponse _ _ _) fun _ => configureMode_emits

/-! ## One call -/

theorem deviceDescriptorCmd_framed : Framed deviceDescriptorCmd :=
  ⟨1, 0, [], by decide, by decide, by decide, by decide⟩

theorem reportDescriptorCmd_framed : Framed reportDescriptorCmd :=
  ⟨2, 0, [], by decide, by decide, by decide, by decide⟩

theorem enumerate_emits : Puts (fun _ => True) {[deviceDescriptorCmd, reportDescriptorCmd]}
    (enumerate c w) fun _ => True := by
  have h := Watches.anything
  exact Emits.quiet (h.setStage _) fun _ => Emits.cons
    (h.dmaOutput deviceDescriptorCmd_framed) fun _ =>
    Emits.quiet (h.checkTransport _) fun _ => Emits.quiet (h.recoveryReadExpected _ _ _) fun _ =>
      Emits.quiet Watches.validateSp11DeviceDescriptor fun _ =>
        Emits.quiet (Watches.getsIo _) fun _ =>
        Emits.quiet (Emits.errorIf _ _) fun _ => Emits.quiet (h.setStage _) fun _ =>
          Emits.rest (h.dmaOutput reportDescriptorCmd_framed) fun _ =>
            Emits.quiet (h.checkTransport _) fun _ =>
            Emits.quiet (h.recoveryReadExpected _ _ _) fun _ =>
              Emits.quiet (Watches.getsIo _) fun _ => Emits.errorIf _ _

theorem attach_emits (path : RecoveryPath) : Puts (fun _ => True)
    (if c.p.windowsInitParity then c.p.coldWords else c.p.modeWords)
    (attach c w path) fun _ => True := by
  unfold attach
  split
  · exact Emits.quiet (Emits.errorIf _ _) fun _ => Watches.anything.windowsColdAttach
  · exact enterMode_emits

/-- One call puts one word on the wire, and a failing one its beginning. -/
theorem fullReinitializeLocked_emits (path : RecoveryPath) :
    Puts (fun _ => True) c.p.initWords (fullReinitializeLocked c w path) fun _ => True := by
  have h := Watches.anything
  exact Emits.onError (Emits.quiet (h.modify _ fun _ => ⟨rfl, rfl, rfl⟩) fun _ =>
    Emits.quiet (h.powerCycle path) fun _ =>
    Emits.bind enumerate_emits fun _ => attach_emits path) fun _ => rfl

end Driver
end Sp11Touch
