import Sp11Touch.L3Driver.Steady
/-!
# The rule for initialization

Everything initialization does outside `Io` is one of five steps: it sets
the transport latch, notes a panel reset, hands a DATA response to the open
input, closes input, and opens input as its last act. `InitRule I O` lists
what a pair of conditions needs from these steps (`IoRule`, `PacketRule` and
`ReadRule` are its parts for a question, for the transfers of one response and
for the response itself); `fullReinitializeLocked_rule` is then: from `I` after
the first assignments, an error return lands in `I`, a normal return in `O`.
Callers never look inside the functions again.
`ExitRule I E O` has a condition `E` of its own for the error return.
-/
namespace Sp11Touch.Driver
open Proc

variable (c : Config) (w : World)

/-- What a question to the world needs of a condition. -/
structure IoRule (I : Ts → Prop) : Prop where
  io : ∀ s io, I s → I { s with io := io }

/-- What the transfers of a response need of a condition. -/
structure PacketRule (I : Ts → Prop) : Prop extends IoRule I where
  latch : ∀ s, I s → I s.latch

/-- What reading a response needs of a condition. -/
structure ReadRule (I : Ts → Prop) : Prop extends PacketRule I where
  data : ∀ s, I s → s.modeEnabled = true → I (handleDataReport c s)

structure InitRule (I O : Ts → Prop) : Prop extends ReadRule c I where
  reset : ∀ s, I s → I (notePanelReset c w false s)
  close : ∀ s, I s → I { s with modeEnabled := false }
  paused : ∀ s, I s → O s
  opened : ∀ s, I s → O (Ts.note .opened { s with awaitingReadyHeat := c.awaits, modeEnabled := true })

variable {c w} {I O : Ts → Prop}

/-! ## Questions to the world -/

namespace IoRule

theorem steady (h : IoRule I) : Steady I := ⟨fun s io _ hs => h.io s io hs⟩

theorem modifyIo (h : IoRule I) (f : Io → Io) : Keeps I (Driver.modifyIo f) :=
  Keeps.modify fun s hs => h.io s _ hs

theorem ask {α : Type} (h : IoRule I) (f : Nat → α) : Keeps I (Driver.ask f) := h.steady.ask f

theorem getsIo {α : Type} (f : Io → α) : Keeps I (Driver.getsIo f) := Keeps.gets _

theorem setStage (h : IoRule I) (stage : InitializationStage) : Keeps I (Driver.setStage stage) :=
  h.modifyIo _

theorem check (ret : Option Errno) : Keeps I (Driver.check ret) := Steady.check ret

theorem dmaReadPair (h : IoRule I) (put : (Nat → UInt8) → Io → Io) : Keeps I (dmaReadPair w put) :=
  Keeps.bind (h.ask _) fun _ => Keeps.bind (h.modifyIo _) fun _ => Keeps.pure _

theorem dmaOutput (h : IoRule I) (packet : Bytes) : Keeps I (dmaOutput w packet) :=
  Keeps.bind (h.modifyIo _) fun _ => h.ask _

theorem dmaHidspiOutput (h : IoRule I) (reportType contentId : Nat) (content : Bytes) :
    Keeps I (dmaHidspiOutput w reportType contentId content) :=
  Keeps.ite (Keeps.pure _) (h.dmaOutput _)

theorem newEdges (h : IoRule I) : Keeps I (newEdges w) := h.steady.newEdges

theorem hasUnreadResponse (h : IoRule I) : Keeps I (hasUnreadResponse w) := by
  refine Keeps.bind (h.ask _) fun value => ?_
  cases value with
  | error e => exact h.newEdges
  | ok b => cases b with
    | true => exact Keeps.pure _
    | false => exact h.newEdges

theorem waitPending (h : IoRule I) : Keeps I (waitPending w) := h.steady.waitPending

theorem takeEdges (h : IoRule I) : Keeps I (takeEdges w) := h.steady.takeEdges

theorem invalidHeader (h : IoRule I) : Keeps I (invalidHeader c w) := h.steady.invalidHeader

theorem powerOn (h : IoRule I) : Keeps I (powerOn c w) := h.steady.powerOn

theorem panelPowerOn (h : IoRule I) : Keeps I (panelPowerOn c w) := h.steady.panelPowerOn

theorem powerOff (h : IoRule I) : Keeps I (powerOff c w) := h.steady.powerOff

end IoRule

/-! ## Reading -/

namespace PacketRule

theorem checkTransport (h : PacketRule I) (ret : Option Errno) :
    Keeps I (Driver.checkTransport ret) := by
  cases ret with
  | none => exact Keeps.pure ()
  | some e => exact Keeps.bind (Keeps.modify h.latch) fun _ => Keeps.throw e

theorem readHeader (h : PacketRule I) : Keeps I (readHeader c w) :=
  Keeps.bind (h.dmaReadPair _) fun _ => Keeps.bind (h.checkTransport _) fun _ =>
    Keeps.bind (IoRule.getsIo _) fun _ => Keeps.ite (Keeps.pure _) h.invalidHeader

theorem readBody (h : PacketRule I) (len : Nat) : Keeps I (readBody w len) :=
  Keeps.bind (Keeps.errorIf _ _) fun _ => Keeps.bind (h.dmaReadPair _) fun _ =>
    Keeps.bind (h.checkTransport _) fun _ => Keeps.bind (h.modifyIo _) fun _ =>
      Keeps.bind (IoRule.getsIo _) fun _ => Keeps.errorIf _ _

end PacketRule

namespace ReadRule

/-- Only an open input sees the response. -/
theorem dmaReadResponse (h : ReadRule c I) : Keeps I (dmaReadResponse c w) := by
  refine Keeps.bind (h.modifyIo _) fun _ => Keeps.bind h.takeEdges fun _ =>
    Keeps.bind h.readHeader fun _ =>
    Keeps.bind (IoRule.getsIo _) fun len => Keeps.bind (h.readBody len) fun _ =>
      Keeps.bind (h.modifyIo _) fun _ => ?_
  intro s hs
  cases hm : s.modeEnabled with
  | true => simpa [Proc.bind_apply, onlyIf, hm] using h.data s hs hm
  | false => simpa [Proc.bind_apply, onlyIf, hm] using hs

end ReadRule

/-! ## Initialization -/

/-- What initialization needs of conditions `I` on the way, `E` at an error
return and `O` at a normal return: a panel reset is noted once, on the way out. -/
structure ExitRule (c : Config) (w : World) (I E O : Ts → Prop) : Prop extends ReadRule c I where
  reset : ∀ s, I s → E (notePanelReset c w false s)
  fail : ∀ s, I s → E s
  close : ∀ s, I s → I { s with modeEnabled := false }
  closeFailed : ∀ s, E s → E { s with modeEnabled := false }
  paused : ∀ s, I s → O s
  opened : ∀ s, I s → O (Ts.note .opened { s with awaitingReadyHeat := c.awaits, modeEnabled := true })

theorem InitRule.exits (h : InitRule c w I O) : ExitRule c w I I O where
  toReadRule := h.toReadRule
  reset := h.reset
  fail _ hs := hs
  close := h.close
  closeFailed := h.close
  paused := h.paused
  opened := h.opened

namespace ExitRule
variable {E : Ts → Prop}

theorem keeps {α : Type} {p : TsProc α} (h : ExitRule c w I E O) (hp : Keeps I p) :
    Triple I p (fun _ => I) (fun _ => E) :=
  Triple.conseq hp (fun _ hs => hs) (fun _ _ hs => hs) fun _ => h.fail

theorem throws {α : Type} (h : ExitRule c w I E O) (e : Errno) :
    Triple I (Proc.throw e : TsProc α) (fun _ => I) (fun _ => E) := h.keeps (Keeps.throw e)

theorem errorIf (h : ExitRule c w I E O) (b : Bool) (e : Errno) :
    Triple I (Proc.errorIf b e) (fun _ => I) (fun _ => E) := h.keeps (Keeps.errorIf b e)

theorem getsIo {α : Type} (h : ExitRule c w I E O) (f : Io → α) :
    Triple I (Driver.getsIo f) (fun _ => I) (fun _ => E) := h.keeps (Keeps.gets _)

theorem modifyIo (h : ExitRule c w I E O) (f : Io → Io) :
    Triple I (Driver.modifyIo f) (fun _ => I) (fun _ => E) := h.keeps (h.toIoRule.modifyIo f)

theorem setStage (h : ExitRule c w I E O) (stage : InitializationStage) :
    Triple I (Driver.setStage stage) (fun _ => I) (fun _ => E) := h.modifyIo _

theorem check (h : ExitRule c w I E O) (ret : Option Errno) :
    Triple I (Driver.check ret) (fun _ => I) (fun _ => E) := h.keeps (IoRule.check ret)

theorem checkTransport (h : ExitRule c w I E O) (ret : Option Errno) :
    Triple I (Driver.checkTransport ret) (fun _ => I) (fun _ => E) :=
    h.keeps (h.toReadRule.checkTransport ret)

theorem dmaOutput (h : ExitRule c w I E O) (packet : Bytes) :
    Triple I (Driver.dmaOutput w packet) (fun _ => I) (fun _ => E) :=
    h.keeps (h.toIoRule.dmaOutput packet)

theorem dmaHidspiOutput (h : ExitRule c w I E O) (reportType contentId : Nat) (content : Bytes) :
    Triple I (Driver.dmaHidspiOutput w reportType contentId content) (fun _ => I) (fun _ => E) :=
  h.keeps (h.toIoRule.dmaHidspiOutput reportType contentId content)

/-- By induction on the responses; the reset ends the wait with an error. -/
theorem awaitReply (h : ExitRule c w I E O) (done : Io → Bool) :
    ∀ n, Triple I (awaitReply c w done n) (fun _ => I) (fun _ => E)
  | 0 => h.throws _
  | n + 1 => by
    refine Triple.bind (h.keeps h.toIoRule.waitPending) fun _ =>
      Triple.bind (h.keeps h.toReadRule.dmaReadResponse)
      fun _ => Triple.bind (h.getsIo _) fun io =>
        Triple.ite (fun _ => h.keeps (Keeps.pure _)) fun _ =>
        Triple.ite (fun _ => ?_) fun _ => Triple.ite (fun _ => h.awaitReply done n)
          fun _ => h.throws _
    exact Triple.bind (R := fun _ => E) (Triple.modify _ h.reset) fun _ =>
      Triple.throw _ fun _ hs => hs

theorem dmaFeatureExchange (h : ExitRule c w I E O) (reportType contentId : Nat) (content : Bytes) :
    Triple I (dmaFeatureExchange c w reportType contentId content) (fun _ => I) (fun _ => E) :=
  Triple.bind (h.errorIf _ _) fun _ => Triple.bind (h.dmaHidspiOutput _ _ _) fun _ =>
    Triple.bind (h.checkTransport _) fun _ => h.awaitReply _ _

theorem recoveryReadExpected (h : ExitRule c w I E O)
    (responseClass contentId minContentLen : Nat) :
    Triple I (recoveryReadExpected c w responseClass contentId minContentLen)
      (fun _ => I) (fun _ => E) :=
  h.awaitReply _ _

theorem expectResponse (h : ExitRule c w I E O) (responseClass contentId minContentLen : Nat) :
    Triple I (expectResponse responseClass contentId minContentLen) (fun _ => I) (fun _ => E) :=
  Triple.bind (h.getsIo _) fun _ => h.errorIf _ _

theorem exchangeExact (h : ExitRule c w I E O) (reportType responseClass contentId : Nat)
    (content : Bytes)
    (contentLen : Nat) : Triple I (exchangeExact c w reportType responseClass
      contentId content contentLen)
      (fun _ => I) (fun _ => E) :=
  Triple.bind (h.dmaFeatureExchange _ _ _) fun _ => Triple.bind (h.expectResponse _ _ _) fun _ =>
    Triple.bind (h.getsIo _) fun _ => h.errorIf _ _

theorem validateSp11DeviceDescriptor (h : ExitRule c w I E O) :
    Triple I validateSp11DeviceDescriptor (fun _ => I) (fun _ => E) :=
  Triple.bind (h.getsIo _) fun _ => Triple.bind (h.errorIf _ _) fun _ => h.errorIf _ _

theorem windowsCfuSend (h : ExitRule c w I E O) (content : Bytes) :
    Triple I (windowsCfuSend c w content) (fun _ => I) (fun _ => E) :=
  Triple.bind (h.dmaHidspiOutput _ _ _) fun _ => Triple.bind (h.check _) fun _ =>
    Triple.bind (h.recoveryReadExpected _ _ _) fun _ => Triple.bind (h.getsIo _) fun _ =>
      Triple.bind (h.errorIf _ _) fun _ => h.errorIf _ _

theorem windowsCfuInform (h : ExitRule c w I E O) (stage : InitializationStage)
    (informationCode : UInt8) :
    Triple I (windowsCfuInform c w stage informationCode) (fun _ => I) (fun _ => E) :=
  Triple.bind (h.setStage _) fun _ => Triple.bind (h.windowsCfuSend _) fun _ =>
    Triple.bind (h.getsIo _) fun _ => h.errorIf _ _

/-- A last act that leaves input closed. -/
theorem pause (h : ExitRule c w I E O) {p : TsProc Unit}
    (hp : Triple I p (fun _ => I) (fun _ => E)) :
    Triple I p (fun _ => O) (fun _ => E) :=
  Triple.conseq hp (fun _ hs => hs) (fun _ => h.paused) (fun _ _ hs => hs)

theorem closeInput (h : ExitRule c w I E O) : Triple I closeInput (fun _ => I) (fun _ => E) :=
  Triple.modify _ h.close

/-- The provider boundaries. -/
theorem boundary (h : ExitRule c w I E O) (stage : InitializationStage)
    (f : ParityRequired → ParityRequired) :
    Triple I (do Driver.setStage stage; Driver.setParityRequired f; Driver.closeInput) (fun _ => I) (fun _ => E) :=
  Triple.bind (h.setStage _) fun _ => Triple.bind (h.modifyIo _) fun _ => h.closeInput

theorem openInput (h : ExitRule c w I E O) {awaiting : Bool} (ha : awaiting = c.awaits) :
    Triple I (openInput awaiting) (fun _ => O) (fun _ => E) := by
  subst ha
  exact Triple.modify _ h.opened

theorem windowsCfuFinish (h : ExitRule c w I E O) :
    Triple I (windowsCfuFinish c w) (fun _ => O) (fun _ => E) :=
  Triple.bind (h.windowsCfuInform _ _) fun _ => Triple.bind (h.setStage _) fun _ =>
    Triple.bind (h.exchangeExact _ _ _ _ _) fun _ => Triple.bind (h.modifyIo _) fun _ =>
      Triple.ite (fun hp => Triple.bind (h.setStage _) fun _ =>
          h.openInput (by rw [Config.awaits, c.parity_of_heatInput hp]; rfl))
        fun _ => h.pause (Triple.bind (h.setStage _) fun _ => h.modifyIo _)

theorem windowsCfuInventory (h : ExitRule c w I E O) :
    Triple I (windowsCfuInventory c w) (fun _ => O) (fun _ => E) :=
  Triple.bind (h.setStage _) fun _ => Triple.bind (h.exchangeExact _ _ _ _ _) fun _ =>
    Triple.bind (h.modifyIo _) fun _ => Triple.bind (h.getsIo _) fun _ =>
      Triple.bind (h.errorIf _ _) fun _ => Triple.bind (h.windowsCfuInform _ _) fun _ =>
        Triple.bind (h.windowsCfuInform _ _) fun _ => Triple.bind (h.setStage _) fun _ =>
          Triple.bind (h.windowsCfuSend _) fun _ => Triple.bind (h.modifyIo _) fun _ =>
            Triple.bind (h.getsIo _) fun _ =>
              Triple.ite (fun _ => h.pause (Triple.bind (h.setStage _) fun _ => h.modifyIo _))
                fun _ => h.windowsCfuFinish

theorem windowsConfigOwner (h : ExitRule c w I E O) :
    Triple I (windowsConfigOwner c w) (fun _ => O) (fun _ => E) :=
  Triple.bind (h.setStage _) fun _ => Triple.bind (h.exchangeExact _ _ _ _ _) fun _ =>
    Triple.bind (h.getsIo _) fun _ => Triple.bind (h.errorIf _ _) fun _ =>
      Triple.bind (h.setStage _) fun _ => Triple.bind (h.exchangeExact _ _ _ _ _) fun _ =>
        Triple.bind (h.setStage _) fun _ => Triple.bind (h.exchangeExact _ _ _ _ _) fun _ =>
          Triple.ite (fun _ => h.pause (h.boundary _ _)) fun _ => h.windowsCfuInventory

theorem windowsFeedback (h : ExitRule c w I E O) :
    Triple I (windowsFeedback c w) (fun _ => O) (fun _ => E) :=
  Triple.bind (h.setStage _) fun _ => Triple.bind (h.dmaHidspiOutput _ _ _) fun _ =>
    Triple.bind (h.check _) fun _ => Triple.bind (h.recoveryReadExpected _ _ _) fun _ =>
      Triple.bind (h.getsIo _) fun _ => Triple.bind (h.errorIf _ _) fun _ =>
        Triple.bind (h.setStage _) fun _ => Triple.bind (h.dmaHidspiOutput _ _ _) fun _ =>
          Triple.bind (h.check _) fun _ => Triple.bind (h.setStage _) fun _ =>
            Triple.bind (h.exchangeExact _ _ _ _ _) fun _ =>
              Triple.ite (fun _ => h.pause (h.boundary _ _)) fun _ => h.windowsConfigOwner

theorem windowsColdAttach (h : ExitRule c w I E O) :
    Triple I (windowsColdAttach c w) (fun _ => O) (fun _ => E) :=
  Triple.bind (h.setStage _) fun _ => Triple.bind (h.exchangeExact _ _ _ _ _) fun _ =>
    Triple.bind (h.modifyIo _) fun _ => Triple.bind (h.getsIo _) fun _ =>
      Triple.bind (h.errorIf _ _) fun _ => Triple.bind (h.setStage _) fun _ =>
        Triple.bind (h.exchangeExact _ _ _ _ _) fun _ => Triple.bind (h.modifyIo _) fun _ =>
          Triple.ite (fun _ => h.pause (h.boundary _ _)) fun _ => h.windowsFeedback

theorem sendReport09 (h : ExitRule c w I E O) : Triple I (sendReport09 c w) (fun _ => I)
    (fun _ => E) :=
  Triple.bind (h.getsIo _) fun _ => Triple.onlyIf
    (fun _ => Triple.bind (h.dmaHidspiOutput _ _ _) fun _ => h.checkTransport _) fun _ _ hs => hs

theorem enterMode (h : ExitRule c w I E O) (hp : c.p.windowsInitParity = false) :
    Triple I (enterMode c w) (fun _ => O) (fun _ => E) :=
  Triple.bind (h.setStage _) fun _ => Triple.bind (h.dmaFeatureExchange _ _ _) fun _ =>
    Triple.bind (h.expectResponse _ _ _) fun _ => Triple.bind (h.setStage _) fun _ =>
      Triple.bind (h.modifyIo _) fun _ => Triple.bind (h.dmaFeatureExchange _ _ _) fun _ =>
        Triple.bind (h.expectResponse _ _ _) fun _ => Triple.bind (h.modifyIo _) fun _ =>
          Triple.bind (h.setStage _) fun _ => Triple.bind (h.getsIo _) fun _ =>
            Triple.bind (h.dmaFeatureExchange _ _ _) fun _ =>
              Triple.bind (h.expectResponse _ _ _) fun _ =>
              Triple.bind h.sendReport09 fun _ => Triple.bind (h.setStage _) fun _ =>
                Triple.bind (h.dmaFeatureExchange _ _ _) fun _ =>
                  Triple.bind (h.expectResponse _ _ _) fun _ =>
                  Triple.bind (h.keeps (Keeps.onlyIf (h.toIoRule.setStage _))) fun _ =>
                    h.openInput (by rw [Config.awaits, hp]; rfl)

theorem powerCycle (h : ExitRule c w I E O) (path : RecoveryPath) :
    Triple I (powerCycle c w path) (fun _ => I) (fun _ => E) := by
  cases path with
  | SOFTWARE => exact Triple.bind (h.modifyIo _) fun _ => h.setStage _
  | HARDWARE =>
    exact Triple.bind (h.modifyIo _) fun _ => Triple.bind (h.keeps h.toIoRule.powerOff) fun _ =>
      Triple.bind (h.keeps h.toIoRule.panelPowerOn) fun _ => Triple.bind (h.setStage _) fun _ =>
        Triple.bind (h.keeps h.toIoRule.waitPending) fun _ =>
          Triple.bind (h.keeps h.toReadRule.dmaReadResponse)
          fun _ => h.expectResponse _ _ _

theorem enumerate (h : ExitRule c w I E O) : Triple I (enumerate c w) (fun _ => I) (fun _ => E) :=
  Triple.bind (h.setStage _) fun _ => Triple.bind (h.dmaOutput _) fun _ =>
    Triple.bind (h.checkTransport _) fun _ => Triple.bind (h.recoveryReadExpected _ _ _) fun _ =>
      Triple.bind h.validateSp11DeviceDescriptor fun _ => Triple.bind (h.getsIo _) fun _ =>
        Triple.bind (h.errorIf _ _) fun _ => Triple.bind (h.setStage _) fun _ =>
          Triple.bind (h.dmaOutput _) fun _ => Triple.bind (h.checkTransport _) fun _ =>
            Triple.bind (h.recoveryReadExpected _ _ _) fun _ => Triple.bind (h.getsIo _) fun _ =>
              h.errorIf _ _

theorem attach (h : ExitRule c w I E O) (path : RecoveryPath) :
    Triple I (attach c w path) (fun _ => O) (fun _ => E) :=
  Triple.ite (fun _ => Triple.bind (h.errorIf _ _) fun _ => h.windowsColdAttach)
    fun hp => h.enterMode (by simpa using hp)

/-- Errors return with input closed. -/
theorem fullReinitializeLocked (h : ExitRule c w I E O) (path : RecoveryPath) :
    Triple (fun s => I (beginInitialization s)) (fullReinitializeLocked c w path) (fun _ => O)
      (fun _ s => E s ∧ s.modeEnabled = false) :=
  Triple.onError
    (Triple.bind (Triple.modify _ fun _ hs => hs) fun _ => Triple.bind (h.powerCycle path) fun _ =>
      Triple.bind h.enumerate fun _ => h.attach path)
    fun _ s hs => ⟨h.closeFailed s hs, rfl⟩

end ExitRule

theorem InitRule.fullReinitializeLocked_rule (h : InitRule c w I O) (path : RecoveryPath) :
    Triple (fun s => I (beginInitialization s)) (fullReinitializeLocked c w path) (fun _ => O)
      (fun _ s => I s ∧ s.modeEnabled = false) :=
  h.exits.fullReinitializeLocked path

end Sp11Touch.Driver
