import Mathlib.Logic.Basic
import Sp11Touch.L3Driver.ColdReplies
import Sp11Touch.L3Driver.Drain
/-!
# The Windows start-up ends in one of three ways

With `windows_init_parity` initialization either fails with everything closed,
or stops at the provider boundary that its stage names, or opens input to wait
for the first Heat frame. The last takes the whole dialogue with the panel.

**Results.**
* `exchangeExact_replied`, `windowsCfuSend_replied`: one exchange, from the
  responses before it to the response it compares.
* `windowsCfuFinish_ends`, `windowsCfuInventory_ends`, ..: one triple for each
  function of the chain, each from the triple of the function it ends with.
* `fullReinitializeLocked_ends`: the three ends, for every panel. The length of
  the reset response is the one length that is not compared
  (`long_reset_attaches`).
-/
namespace Sp11Touch

/-! ## The expected responses -/

def anyContent (_ : Bytes) : Bool := true

/-- The answer to a report `0x65` output: reason and status. -/
def cfuResponse (reason status : UInt8) : Expected :=
  ⟨classData, 0x65, some windowsCfuOfferLen,
    fun content => content == [0, 0, 0, windowsCfuToken, 0, 0, 0, 0, reason, 0, 0, 0,
      status, 0, 0, 0]⟩

/-- The 24 bytes of the SP11 device descriptor. -/
def sp11Descriptor : Bytes :=
  [24, 0, 0, 3, 0xcc, 5, 0, 32, 0, 2, 0, 32, 0x5e, 4, 0x83, 0x0c, 4, 0, 1, 0, 0, 0, 0, 0]

/-- The responses of a complete start-up; `resetLen` is the content length of the first. -/
def coldReplies (resetLen : Option Nat) : List Expected := [
  ⟨classResetResponse, 0, resetLen, anyContent⟩,
  ⟨classDeviceDescriptorResponse, 0, some hidspiDeviceDescriptorSize,
    fun content => content == sp11Descriptor⟩,
  ⟨classReportDescriptorResponse, 0, some 1484, anyContent⟩,
  ⟨classGetFeatureResponse, 0x73, some 2, fun content => content == [0xfe, 0xff]⟩,
  ⟨classGetFeatureResponse, 0x06, some 119, anyContent⟩,
  ⟨classData, 0xa0, some 1, fun content => content == [0x01]⟩,
  ⟨classSetFeatureResponse, 0x05, some 0, anyContent⟩,
  ⟨classGetFeatureResponse, 0x70, some 1, fun content => content == [0x02]⟩,
  ⟨classSetFeatureResponse, 0x70, some 0, anyContent⟩,
  ⟨classSetFeatureResponse, 0x56, some 0, anyContent⟩,
  ⟨classGetFeatureResponse, 0x60, some windowsCfuVersionLen, fun content =>
    content.take 8 == [1, 0, 0, 4, 0x89, 0x14, 0x00, 0x3f] && content.getD 9 0 == 0x12⟩,
  cfuResponse 0xff 0x01,
  cfuResponse 0xff 0x01,
  cfuResponse 0x00 0x02,
  cfuResponse 0xff 0x01,
  ⟨classGetFeatureResponse, 0x73, some 2, anyContent⟩]

/-- The flag that the stage of a boundary names. -/
def InitializationStage.requires : InitializationStage → Option ParityRequired
  | .WINDOWS_FEEDBACK_REQUIRED => some { feedback := true }
  | .WINDOWS_CONFIG_OWNER_REQUIRED => some { configOwner := true }
  | .WINDOWS_CFU_OWNER_REQUIRED => some { cfuOwner := true }
  | .WINDOWS_CFU_BRANCH_REQUIRED => some { cfuBranch := true }
  | .WINDOWS_HEAT_OWNER_REQUIRED => some { heatOwner := true }
  | _ => none

theorem Io.isResponse_iff (io : Io) (responseClass contentId minContentLen : Nat) :
    io.isResponse responseClass contentId minContentLen = true ↔
      io.lastClass = responseClass ∧ io.lastContentId = contentId ∧
      minContentLen ≤ io.lastContentLen := by
  simp [Io.isResponse, and_assoc]

/-! ## Compared bytes -/

theorem Io.payload_lt (io : Io) (i : Nat) : io.payload i < 256 := (io.body _).toNat_lt

theorem byte_eq {b : UInt8} {v : Nat} (h : b.toNat = v) : b = UInt8.ofNat v := by
  rw [← h, UInt8.ofNat_toNat]

theorem Io.payload_of_payload16 {io : Io} {i v : Nat} (h : io.payload16 i = v) :
    io.payload i = v % 256 ∧ io.payload (i + 1) = v / 256 := by
  have h0 := io.payload_lt i
  have h1 : io.payload i + 256 * io.payload (i + 1) = v := h
  omega

theorem Io.payload_of_payload32 {io : Io} {i v : Nat} (h : io.payload32 i = v) :
    io.payload16 i = v % 65536 ∧ io.payload16 (i + 2) = v / 65536 := by
  have h0 := io.payload_lt i
  have h1 := io.payload_lt (i + 1)
  have h2 : io.payload i + 256 * io.payload (i + 1) + 65536 * io.payload16 (i + 2) = v := h
  have h3 : io.payload16 i = io.payload i + 256 * io.payload (i + 1) := rfl
  omega

theorem Io.content_cfuResponse {io : Io} (h : io.cfuResponseWellFormed = true) :
    io.content windowsCfuOfferLen =
      [0, 0, 0, windowsCfuToken, 0, 0, 0, 0, io.body 12, 0, 0, 0, io.body 16, 0, 0, 0] := by
  simp only [Io.cfuResponseWellFormed, Bool.and_eq_true, beq_iff_eq] at h
  obtain ⟨⟨⟨⟨⟨⟨⟨⟨⟨⟨h0, h1⟩, h2⟩, h3⟩, h4⟩, h9⟩, h10⟩, h11⟩, h13⟩, h14⟩, h15⟩ := h
  obtain ⟨hlow, hhigh⟩ := Io.payload_of_payload32 h4
  obtain ⟨h4, h5⟩ := Io.payload_of_payload16 hlow
  obtain ⟨h6, h7⟩ := Io.payload_of_payload16 hhigh
  have b4 : io.body 4 = 0 := byte_eq h0
  have b5 : io.body 5 = 0 := byte_eq h1
  have b6 : io.body 6 = 0 := byte_eq h2
  have b7 : io.body 7 = windowsCfuToken := byte_eq h3
  have b8 : io.body 8 = 0 := byte_eq h4
  have b9 : io.body 9 = 0 := byte_eq h5
  have b10 : io.body 10 = 0 := byte_eq h6
  have b11 : io.body 11 = 0 := byte_eq h7
  have b13 : io.body 13 = 0 := byte_eq h9
  have b14 : io.body 14 = 0 := byte_eq h10
  have b15 : io.body 15 = 0 := byte_eq h11
  have b17 : io.body 17 = 0 := byte_eq h13
  have b18 : io.body 18 = 0 := byte_eq h14
  have b19 : io.body 19 = 0 := byte_eq h15
  have hlist : io.content windowsCfuOfferLen =
    [io.body 4, io.body 5, io.body 6, io.body 7, io.body 8, io.body 9,
    io.body 10, io.body 11, io.body 12, io.body 13, io.body 14, io.body 15, io.body 16,
      io.body 17, io.body 18,
    io.body 19] := rfl
  rw [hlist, b4, b5, b6, b7, b8, b9, b10, b11, b13, b14, b15, b17, b18, b19]

theorem Io.content_descriptor {io : Io} (h : io.sp11DeviceDescriptor = true) :
    io.content hidspiDeviceDescriptorSize = sp11Descriptor := by
  simp only [Io.sp11DeviceDescriptor, Bool.and_eq_true, beq_iff_eq] at h
  obtain ⟨⟨⟨⟨⟨⟨⟨⟨⟨⟨h0, h2⟩, h4⟩, h6⟩, h8⟩, h10⟩, h12⟩, h14⟩, h16⟩, h18⟩, h20⟩ := h
  obtain ⟨h20, h22⟩ := Io.payload_of_payload32 h20
  have hpair : ∀ {i v : Nat}, io.payload16 i = v → io.body (4 + i) = UInt8.ofNat (v % 256) ∧
      io.body (4 + (i + 1)) = UInt8.ofNat (v / 256) := fun h =>
    ⟨byte_eq (Io.payload_of_payload16 h).1, byte_eq (Io.payload_of_payload16 h).2⟩
  have hlist : io.content hidspiDeviceDescriptorSize =
    [io.body 4, io.body 5, io.body 6, io.body 7, io.body 8,
    io.body 9, io.body 10, io.body 11, io.body 12, io.body 13, io.body 14, io.body 15,
      io.body 16, io.body 17,
    io.body 18, io.body 19, io.body 20, io.body 21, io.body 22, io.body 23, io.body 24,
      io.body 25, io.body 26,
    io.body 27] := rfl
  rw [hlist, (hpair h0).1, (hpair h0).2, (hpair h2).1, (hpair h2).2, (hpair h4).1, (hpair h4).2,
    (hpair h6).1,
    (hpair h6).2, (hpair h8).1, (hpair h8).2, (hpair h10).1, (hpair h10).2, (hpair h12).1,
      (hpair h12).2,
    (hpair h14).1, (hpair h14).2, (hpair h16).1, (hpair h16).2, (hpair h18).1, (hpair h18).2,
      (hpair h20).1,
    (hpair h20).2, (hpair h22).1, (hpair h22).2]
  rfl

theorem Params.cfuOffer_eq {p : Params} (h : p.windowsCfuProviderValid = true) :
    p.cfuOffer = sp11CfuOffer := by
  simp only [Params.windowsCfuProviderValid, Bool.and_eq_true, beq_iff_eq] at h
  exact h.2

theorem Params.parityCfuOffer_eq {p : Params} (h : p.windowsCfuProviderValid = true) {i : Nat}
    (hi : i < windowsCfuOfferLen) : p.parityCfuOffer i = sp11CfuOffer.getD i 0 := by
  have hget : p.cfuOffer.getD i 0 = p.parityCfuOffer i := by
    simp [Params.cfuOffer, List.getD_eq_getElem?_getD, List.getElem?_range hi]
  rw [← hget, Params.cfuOffer_eq h]

theorem Io.content_version {io : Io} {p : Params} (h : io.cfuVersionMatches p = true)
    (hp : p.windowsCfuProviderValid = true) :
    (io.content windowsCfuVersionLen).take 8 = [1, 0, 0, 4, 0x89, 0x14, 0x00, 0x3f] ∧
      (io.content windowsCfuVersionLen).getD 9 0 = 0x12 := by
  simp only [Io.cfuVersionMatches, Bool.and_eq_true, beq_iff_eq, List.all_eq_true, List.mem_range]
    at h
  obtain ⟨⟨⟨⟨⟨h0, h1⟩, h2⟩, h3⟩, h4⟩, h9⟩ := h
  have hoffer : ∀ i, i < 4 → io.body (4 + (4 + i)) = sp11CfuOffer.getD (4 + i) 0 := fun i hi => by
    have hb : io.body (4 + (4 + i)) = UInt8.ofNat (p.parityCfuOffer (4 + i)).toNat :=
      byte_eq (h4 i hi)
    rw [hb, UInt8.ofNat_toNat]
    exact Params.parityCfuOffer_eq hp (by simp only [windowsCfuOfferLen]; omega)
  have b4 : io.body 4 = 1 := byte_eq h0
  have b5 : io.body 5 = 0 := byte_eq h1
  have b6 : io.body 6 = 0 := byte_eq h2
  have b7 : io.body 7 = 4 := byte_eq h3
  have b13 : io.body 13 = 0x12 := by
    have hb : io.body 13 = UInt8.ofNat (p.parityCfuOffer 2).toNat := byte_eq h9
    rw [hb, UInt8.ofNat_toNat]
    exact Params.parityCfuOffer_eq hp (by decide)
  have hlist : (io.content windowsCfuVersionLen).take 8 =
    [io.body 4, io.body 5, io.body 6, io.body 7, io.body 8,
    io.body 9, io.body 10, io.body 11] := rfl
  have hnine : (io.content windowsCfuVersionLen).getD 9 0 = io.body 13 := rfl
  apply And.intro
  · rw [hlist, b4, b5, b6, b7]
    rw [show io.body 8 = 0x89 from hoffer 0 (by decide),
      show io.body 9 = 0x14 from hoffer 1 (by decide),
      show io.body 10 = 0x00 from hoffer 2 (by decide),
        show io.body 11 = 0x3f from hoffer 3 (by decide)]
  · rw [hnine, b13]

namespace Driver
open Proc

/-! ## The three ends -/

/-- An error return. -/
structure Failed (t : Ts) : Prop where
  modeEnabled : t.modeEnabled = false
  awaitingReadyHeat : t.awaitingReadyHeat = false
  parityRequired : t.io.parityRequired = {}

/-- A normal return without input: one flag is set, the one the stage names. -/
structure AtBoundary (t : Ts) : Prop where
  modeEnabled : t.modeEnabled = false
  awaitingReadyHeat : t.awaitingReadyHeat = false
  named : t.io.initializationStage.requires = some t.io.parityRequired

/-- A normal return with input, after all the responses `es`. -/
structure Attached (c : Config) (w : World) (es : List Expected) (s t : Ts) : Prop where
  modeEnabled : t.modeEnabled = true
  awaitingReadyHeat : t.awaitingReadyHeat = true
  parityRequired : t.io.parityRequired = {}
  feedback : c.p.windowsFeedbackProviderValid = true
  config : c.p.windowsConfigProviderValid = true
  cfu : c.p.windowsCfuProviderValid = true
  cfuInventory : c.p.parityCfuInventory = true
  heatInput : c.p.parityHeatInput = true
  arrives : Arrives w s.io.clk es t.io.clk

/-- Exactly one of the three ends; input opens on the hardware path only. -/
def Ends (c : Config) (w : World) (es : List Expected) (path : RecoveryPath) (s t : Ts) :
    Except Errno Unit → Prop
  | .error _ => Failed t
  | .ok _ => Xor (AtBoundary t) (path = .HARDWARE ∧ Attached c w es s t)

/-- The report `0x65` outputs from `s` to `t` are a prefix of the inventory. -/
def Inventoried (c : Config) (s t : Ts) : Prop :=
  ∃ sent, sent <+: c.p.inventoryOutputs ∧
    report65Outputs t.io.wire = report65Outputs s.io.wire ++ sent

variable {c : Config} {w : World} {s₀ : Ts} {d : Nat} {seen : List Expected} {sent : List Bytes}

/-! ## Outputs -/

theorem dmaOutput_sends (packet : Bytes) (h : sent ++ report65Outputs [packet] <+:
    c.p.inventoryOutputs) :
    Triple (Progress c w s₀ d seen sent) (dmaOutput w packet)
      (fun _ => Progress c w s₀ d seen (sent ++ report65Outputs [packet]))
      (fun _ => Abandoned c s₀) := by
  refine Triple.bind (Triple.modify _ fun s hs => ?_) fun _ =>
    Progress.keeps (Progress.steady.ask _)
  refine ⟨⟨hs.modeEnabled, hs.awaitingReadyHeat, hs.parityRequired, ?_, h⟩,
    hs.announced, hs.arrives⟩
  rw [report65Outputs_cons, hs.outputs, List.append_assoc]

theorem dmaOutput_other (packet : Bytes) (h : report65Outputs [packet] = []) :
    Triple (Progress c w s₀ d seen sent) (dmaOutput w packet) (fun _ => Progress c w s₀ d seen sent)
      (fun _ => Abandoned c s₀) := by
  intro s hs
  have hkeep : sent ++ report65Outputs [packet] = sent := by rw [h, List.append_nil]
  have hout : Triple (Progress c w s₀ d seen sent) (dmaOutput w packet)
      (fun _ => Progress c w s₀ d seen (sent ++ report65Outputs [packet]))
      (fun _ => Abandoned c s₀) :=
    dmaOutput_sends packet (by rw [hkeep]; exact hs.bounded)
  rw [hkeep] at hout
  exact hout s hs

theorem dmaHidspiOutput_other (reportType contentId : Nat) (content : Bytes)
    (h : UInt8.ofNat reportType ≠ UInt8.ofNat typeOutputReport ∨ UInt8.ofNat contentId ≠ 0x65) :
    Triple (Progress c w s₀ d seen sent) (dmaHidspiOutput w reportType contentId content)
      (fun _ => Progress c w s₀ d seen sent) (fun _ => Abandoned c s₀) := by
  refine Triple.ite (fun _ => Triple.pure _ fun _ hs => hs) fun _ => dmaOutput_other _ ?_
  rcases h with h | h
  · simp [report65Outputs, hidspiPacket, beq_eq_false_iff_ne.mpr h]
  · simp [report65Outputs, hidspiPacket, beq_eq_false_iff_ne.mpr h]

theorem dmaHidspiOutput_sends (content : Bytes) (hlen : ¬ content.length > 72 - 8)
    (h : sent ++ [hidspiPacket typeOutputReport 0x65 content] <+: c.p.inventoryOutputs) :
    Triple (Progress c w s₀ d seen sent) (dmaHidspiOutput w typeOutputReport 0x65 content)
      (fun _ => Progress c w s₀ d seen (sent ++ [hidspiPacket typeOutputReport 0x65 content]))
      (fun _ => Abandoned c s₀) := by
  rw [dmaHidspiOutput, if_neg hlen]
  exact dmaOutput_sends _ h

/-! ## Exchanges -/

/-- The last response is the one that was asked for; its content is not compared yet. -/
structure Replied (c : Config) (w : World) (s₀ : Ts) (d : Nat) (seen : List Expected)
    (sent : List Bytes)
    (responseClass contentId contentLen : Nat) (s : Ts) :
      Prop extends Heard c w s₀ d seen sent s where
  lastClass : s.io.lastClass = responseClass
  lastContentId : s.io.lastContentId = contentId
  lastContentLen : s.io.lastContentLen = contentLen

variable {responseClass contentId contentLen : Nat}

theorem Replied.accept {s : Ts} (h : Replied c w s₀ d seen sent
    responseClass contentId contentLen s)
    (hclass : responseClass ≠ classDeviceDescriptorResponse) {accepts : Bytes → Bool}
    (hbytes : accepts (s.io.content contentLen) = true) :
    Progress c w s₀ d (seen ++ [⟨responseClass, contentId, some contentLen, accepts⟩]) sent s := by
  have hd : announcedLen d s.io = d := if_neg fun hc => hclass (h.lastClass.symm.trans hc.1)
  have hp := h.toHeard.accept (e := ⟨responseClass, contentId, some contentLen, accepts⟩)
    h.lastClass h.lastContentId
    (fun n hn => by rw [h.lastContentLen]; exact Option.some.inj hn)
      (by rw [h.lastContentLen]; exact hbytes)
  rwa [hd] at hp

theorem recoveryReadExpected_hears (minContentLen : Nat) :
    Triple (Progress c w s₀ d seen sent) (recoveryReadExpected c w responseClass
    contentId minContentLen)
      (fun _ s => Heard c w s₀ d seen sent s ∧ s.io.lastClass = responseClass ∧
      s.io.lastContentId = contentId)
      (fun _ => Abandoned c s₀) :=
  Triple.conseq (awaitReply_hears _ _) (fun _ hs => hs)
    (fun _ _ hs => ⟨hs.1, ((Io.isResponse_iff ..).mp hs.2).1, ((Io.isResponse_iff ..).mp hs.2).2.1⟩)
    fun _ _ hs => hs

theorem exchangeExact_replied (reportType : Nat) (content : Bytes) :
    Triple (Progress c w s₀ d seen sent)
      (exchangeExact c w reportType responseClass contentId content contentLen)
      (fun _ => Replied c w s₀ d seen sent responseClass contentId contentLen)
        (fun _ => Abandoned c s₀) := by
  have hexchange : Triple (Progress c w s₀ d seen sent)
    (dmaFeatureExchange c w reportType contentId content)
      (fun _ => Heard c w s₀ d seen sent) (fun _ => Abandoned c s₀) := by
    refine Triple.bind_errorIf (fun _ _ hs => hs.abandoned) fun htype => ?_
    have hother : UInt8.ofNat reportType ≠ UInt8.ofNat typeOutputReport := by
      rcases Classical.em (reportType = typeSetFeature) with h | h
      · rw [h]; decide
      · have hget : reportType = typeGetFeature := by simpa [h] using htype
        rw [hget]; decide
    refine Triple.bind (dmaHidspiOutput_other _ _ _ (Or.inl hother)) fun ret =>
      Triple.bind (checkTransport_abandons ret fun _ hs => hs.abandoned) fun _ => ?_
    exact Triple.conseq (awaitReply_hears _ _) (fun _ hs => hs)
      (fun _ _ hs => hs.1) fun _ _ hs => hs
  refine Triple.bind hexchange fun _ => Triple.bind (R := fun _ s => Heard c w s₀ d seen sent s ∧
    s.io.lastClass = responseClass ∧ s.io.lastContentId = contentId) ?_ fun _ => ?_
  · intro s hs
    simp only [expectResponse, getsIo, Proc.bind_apply, gets_apply, errorIf_apply]
    cases hr : s.io.isResponse responseClass contentId contentLen with
    | false => exact hs.abandoned
    | true => exact ⟨hs, ((Io.isResponse_iff ..).mp hr).1, ((Io.isResponse_iff ..).mp hr).2.1⟩
  · intro s hs
    simp only [getsIo, Proc.bind_apply, gets_apply, errorIf_apply]
    by_cases hlen : s.io.lastContentLen = contentLen
    · simp only [hlen, ne_eq, not_true, decide_false, Bool.false_eq_true, if_false]
      exact ⟨hs.1, hs.2.1, hs.2.2, hlen⟩
    · simp only [ne_eq, hlen, not_false_eq_true, decide_true, if_true]
      exact hs.1.abandoned

/-- Where only the length of the reply is compared. -/
theorem exchangeExact_progress (reportType : Nat) (content : Bytes)
    (hclass : responseClass ≠ classDeviceDescriptorResponse) :
    Triple (Progress c w s₀ d seen sent)
      (exchangeExact c w reportType responseClass contentId content contentLen)
      (fun _ => Progress c w s₀ d (seen ++ [⟨responseClass, contentId, some contentLen,
        anyContent⟩]) sent)
      (fun _ => Abandoned c s₀) :=
  Triple.conseq (exchangeExact_replied _ _) (fun _ hs => hs)
    (fun _ _ hs => hs.accept hclass rfl) fun _ _ hs => hs

theorem Replied.note {s : Ts} (h : Replied c w s₀ d seen sent responseClass contentId contentLen s)
    (buffers : ParityBuffers) : Replied c w s₀ d seen sent responseClass contentId contentLen
      { s with io := { s.io with parityBuffers := buffers } } :=
  ⟨h.toHeard.note buffers _, h.lastClass, h.lastContentId, h.lastContentLen⟩

theorem setParityBuffers_replied (f : Io → ParityBuffers → ParityBuffers) :
    Triple (Replied c w s₀ d seen sent responseClass contentId contentLen) (setParityBuffers f)
      (fun _ => Replied c w s₀ d seen sent responseClass contentId contentLen)
      (fun _ => Abandoned c s₀) :=
  Triple.modify _ fun _ hs => hs.note _

theorem setParityBuffers_progress (f : Io → ParityBuffers → ParityBuffers) :
    Triple (Progress c w s₀ d seen sent) (setParityBuffers f) (fun _ => Progress c w s₀ d seen sent)
      (fun _ => Abandoned c s₀) :=
  Progress.keeps (Progress.steady.modifyIo fun _ => ⟨Nat.le_refl _, rfl, rfl, rfl⟩)

theorem setStage_progress (stage : InitializationStage) :
    Triple (Progress c w s₀ d seen sent) (setStage stage) (fun _ => Progress c w s₀ d seen sent)
      (fun _ => Abandoned c s₀) :=
  Progress.keeps (Progress.steady.setStage _)

/-- The check of the content, then `p`. -/
theorem Replied.check {e : Errno} {p : TsProc Unit} {Q : Unit → Ts → Prop} (accepts : Bytes → Bool)
    (bad : Io → Bool) (hclass : responseClass ≠ classDeviceDescriptorResponse)
    (haccepts : ∀ io : Io, bad io = false → accepts (io.content contentLen) = true)
    (hp : Triple (Progress c w s₀ d (seen ++ [⟨responseClass, contentId, some contentLen, accepts⟩])
      sent) p Q
      (fun _ => Abandoned c s₀)) :
    Triple (Replied c w s₀ d seen sent responseClass contentId contentLen)
      (do let io ← getsIo id; errorIf (bad io) e; p) Q (fun _ => Abandoned c s₀) := by
  refine Triple.bind (R := fun io s => io = s.io ∧
    Replied c w s₀ d seen sent responseClass contentId contentLen s)
    (Triple.gets _ fun _ hs => ⟨rfl, hs⟩) fun io => ?_
  refine Triple.bind_errorIf (fun _ _ hs => hs.2.abandoned) fun hbad => ?_
  exact Triple.conseq hp (fun s hs => hs.2.accept hclass (haccepts _ (by rw [← hs.1]; exact hbad)))
    (fun _ _ hs => hs) fun _ _ hs => hs

/-! ## The inventory -/

theorem windowsCfuInfo_length (informationCode : UInt8) :
    (windowsCfuInfo informationCode).length = windowsCfuOfferLen :=
  rfl

theorem tokenOffer_length (p : Params) : (patch p.cfuOffer 3 [windowsCfuToken]).length =
    windowsCfuOfferLen := rfl

theorem windowsCfuSend_replied (content : Bytes) (hlen : content.length = windowsCfuOfferLen)
    (h : sent ++ [hidspiPacket typeOutputReport 0x65 content] <+: c.p.inventoryOutputs) :
    Triple (Progress c w s₀ d seen sent) (windowsCfuSend c w content)
      (fun _ s => s.io.cfuResponseWellFormed = true ∧ Replied c w s₀ d seen
        (sent ++ [hidspiPacket typeOutputReport 0x65 content]) classData 0x65 windowsCfuOfferLen s)
      (fun _ => Abandoned c s₀) := by
  refine Triple.bind (dmaHidspiOutput_sends content (by rw [hlen]; decide) h) fun ret =>
    Triple.bind (check_abandons ret fun _ hs => hs.abandoned) fun _ =>
      Triple.bind (recoveryReadExpected_hears _) fun _ => ?_
  intro s hs
  obtain ⟨hs, hclass, hid⟩ := hs
  simp only [getsIo, Proc.bind_apply, gets_apply, errorIf_apply, id_eq]
  by_cases hl : s.io.lastContentLen = windowsCfuOfferLen
  · simp only [hl, ne_eq, not_true, decide_false, Bool.false_eq_true, if_false]
    cases hw : s.io.cfuResponseWellFormed with
    | false => exact hs.abandoned
    | true => exact ⟨hw, hs, hclass, hid, hl⟩
  · simp only [ne_eq, hl, not_false_eq_true, decide_true, if_true]
    exact hs.abandoned

theorem windowsCfuInform_progress (stage : InitializationStage) (informationCode : UInt8)
    (h : sent ++ [hidspiPacket typeOutputReport 0x65 (windowsCfuInfo informationCode)] <+:
    c.p.inventoryOutputs) :
    Triple (Progress c w s₀ d seen sent) (windowsCfuInform c w stage informationCode)
      (fun _ => Progress c w s₀ d (seen ++ [cfuResponse 0xff 0x01])
        (sent ++ [hidspiPacket typeOutputReport 0x65 (windowsCfuInfo informationCode)]))
      (fun _ => Abandoned c s₀) := by
  refine Triple.bind (setStage_progress _) fun _ =>
    Triple.bind (windowsCfuSend_replied _ (windowsCfuInfo_length _) h) fun _ => ?_
  intro s hs
  obtain ⟨hw, hs⟩ := hs
  simp only [windowsCfuExpectInfoAccept, getsIo, Proc.bind_apply, gets_apply, errorIf_apply, id_eq]
  cases hbad : (decide (s.io.payload 8 ≠ 0xff) || decide (s.io.payload 12 ≠ 0x01)) with
  | true => exact hs.abandoned
  | false =>
    simp only [ne_eq, Bool.or_eq_false_iff, decide_eq_false_iff_not, not_not] at hbad
    apply hs.accept (by decide)
    have b12 : s.io.body 12 = 0xff := byte_eq hbad.1
    have b16 : s.io.body 16 = 0x01 := byte_eq hbad.2
    rw [Io.content_cfuResponse hw, b12, b16]
    rfl

/-! ## Boundaries and the end -/

/-- A normal return of a part of the start-up. -/
def Finished (c : Config) (w : World) (s₀ t : Ts) : Prop :=
  (AtBoundary t ∨ Attached c w (coldReplies none) s₀ t) ∧ Inventoried c s₀ t

theorem Paused.inventoried {s : Ts} (h : Paused c s₀ sent s) : Inventoried c s₀ s :=
  ⟨sent, h.bounded, h.outputs⟩

theorem Progress.boundary {s : Ts} (h : Progress c w s₀ d seen sent s) {stage : InitializationStage}
    {flags : ParityRequired} (hf : stage.requires = some flags) :
    Finished c w s₀ { s with io := { s.io with initializationStage := stage, parityRequired := flags } } :=
  ⟨Or.inl ⟨h.modeEnabled, h.awaitingReadyHeat, hf⟩, h.toPaused.inventoried⟩

/-- A boundary that is left to the caller to close. -/
theorem required_finishes {stage : InitializationStage} {f : ParityRequired → ParityRequired}
    (hf : stage.requires = some (f {})) :
    Triple (Progress c w s₀ d seen sent) (do setStage stage; setParityRequired f)
      (fun _ => Finished c w s₀)
      (fun _ => Abandoned c s₀) := by
  intro s hs
  simp only [setStage, setParityRequired, modifyIo, Proc.bind_apply, modify_apply, hs.parityRequired]
  exact hs.boundary hf

theorem boundary_finishes {stage : InitializationStage} {f : ParityRequired → ParityRequired}
    (hf : stage.requires = some (f {})) :
    Triple (Progress c w s₀ d seen sent) (do setStage stage; setParityRequired f; closeInput)
      (fun _ => Finished c w s₀) (fun _ => Abandoned c s₀) := by
  intro s hs
  simp only [setStage, setParityRequired, closeInput, modifyIo, Proc.bind_apply, modify_apply,
    hs.parityRequired]
  exact ⟨Or.inl ⟨rfl, hs.awaitingReadyHeat, hf⟩, hs.toPaused.inventoried⟩

/-- The providers that the start-up asked for on its way. -/
structure Provided (c : Config) : Prop where
  feedback : c.p.windowsFeedbackProviderValid = true
  config : c.p.windowsConfigProviderValid = true
  cfu : c.p.windowsCfuProviderValid = true
  cfuInventory : c.p.parityCfuInventory = true

theorem openInput_finishes (hp : Provided c) (hh : c.p.parityHeatInput = true) :
    Triple (Progress c w s₀ d (coldReplies none) sent) (openInput true) (fun _ => Finished c w s₀)
      (fun _ => Abandoned c s₀) :=
  Triple.modify _ fun _ hs => ⟨Or.inr ⟨rfl, rfl, hs.parityRequired, hp.feedback, hp.config, hp.cfu,
    hp.cfuInventory,
    hh, hs.arrives⟩, hs.toPaused.inventoried⟩

theorem windowsCfuFinish_ends (hp : Provided c) :
    Triple (Progress c w s₀ d ((coldReplies none).take 14) (c.p.inventoryOutputs.take 3))
    (windowsCfuFinish c w)
      (fun _ => Finished c w s₀) (fun _ => Abandoned c s₀) := by
  refine Triple.bind (windowsCfuInform_progress _ _ (List.prefix_refl _)) fun _ =>
    Triple.bind (setStage_progress _) fun _ =>
      Triple.bind (exchangeExact_progress _ _ (by decide)) fun _ =>
      Triple.bind (setParityBuffers_progress _) fun _ =>
        Triple.ite (fun hh => ?_) fun _ => required_finishes rfl
  exact Triple.bind (setStage_progress _) fun _ => openInput_finishes hp hh

/-- The branch on the answer to the offer. -/
theorem offer_ends (hp : Provided c) {stop : TsProc Unit}
    (hstop : ∀ seen, Triple (Progress c w s₀ d seen (c.p.inventoryOutputs.take 3)) stop
    (fun _ => Finished c w s₀)
      (fun _ => Abandoned c s₀)) :
    Triple (fun s => s.io.cfuResponseWellFormed = true ∧
      Replied c w s₀ d ((coldReplies none).take 13)
        (c.p.inventoryOutputs.take 3) classData 0x65 windowsCfuOfferLen s)
      (do
        let io ← getsIo id
        if io.payload 8 ≠ 0 ∨ io.payload 12 ≠ 0x02 then stop else windowsCfuFinish c w)
      (fun _ => Finished c w s₀) (fun _ => Abandoned c s₀) := by
  refine Triple.bind (R := fun io s => io = s.io ∧ s.io.cfuResponseWellFormed = true ∧
    Replied c w s₀ d
    ((coldReplies none).take 13) (c.p.inventoryOutputs.take 3) classData 0x65 windowsCfuOfferLen s)
      (Triple.gets _ fun _ hs => ⟨rfl, hs⟩) fun io => Triple.ite (fun _ => ?_) fun haccept => ?_
  · exact Triple.conseq (hstop _) (fun s hs => hs.2.2.skip (by rw [hs.2.2.lastClass]; decide))
      (fun _ _ hs => hs)
      fun _ _ hs => hs
  · refine Triple.conseq (windowsCfuFinish_ends (d := d) hp) (fun s hs => ?_)
      (fun _ _ hs => hs) fun _ _ hs => hs
    obtain ⟨hio, hw, hs⟩ := hs
    rw [hio, not_or, not_not, not_not] at haccept
    have b12 : s.io.body 12 = 0 := byte_eq haccept.1
    have b16 : s.io.body 16 = 0x02 := byte_eq haccept.2
    have hbytes : (cfuResponse 0x00 0x02).accepts (s.io.content windowsCfuOfferLen) = true := by
      rw [Io.content_cfuResponse hw, b12, b16]
      rfl
    exact hs.accept (by decide) hbytes

theorem windowsCfuInventory_ends (hp : Provided c) :
    Triple (Progress c w s₀ d ((coldReplies none).take 10) []) (windowsCfuInventory c w)
      (fun _ => Finished c w s₀) (fun _ => Abandoned c s₀) := by
  refine Triple.bind (setStage_progress _) fun _ => Triple.bind (exchangeExact_replied _ _) fun _ =>
    Triple.bind (setParityBuffers_replied _) fun _ => Replied.check
      (fun content => content.take 8 == [1, 0, 0, 4, 0x89, 0x14, 0x00, 0x3f] &&
      content.getD 9 0 == 0x12)
      (fun io => !io.cfuVersionMatches c.p) (by decide) (fun io hv => ?_) ?_
  · obtain ⟨h1, h2⟩ := Io.content_version (by simpa using hv) hp.cfu
    rw [h1, h2]
    rfl
  · refine Triple.bind (windowsCfuInform_progress _ _ ⟨_, rfl⟩) fun _ =>
      Triple.bind (windowsCfuInform_progress _ _ ⟨_, rfl⟩) fun _ =>
        Triple.bind (setStage_progress _) fun _ =>
        Triple.bind (windowsCfuSend_replied _ (tokenOffer_length c.p) ⟨_, rfl⟩) fun _ =>
          Triple.bind (Triple.modify _ fun _ hs => ⟨hs.1, hs.2.note _⟩) fun _ =>
            offer_ends hp fun _ => required_finishes rfl

/-! ## The chain before it -/

theorem windowsConfigOwner_ends (hf : c.p.windowsFeedbackProviderValid = true)
    (hc : c.p.windowsConfigProviderValid = true) :
    Triple (Progress c w s₀ d ((coldReplies none).take 7) []) (windowsConfigOwner c w)
      (fun _ => Finished c w s₀) (fun _ => Abandoned c s₀) := by
  refine Triple.bind (setStage_progress _) fun _ => Triple.bind (exchangeExact_replied _ _) fun _ =>
    Replied.check (fun content => content == [0x02]) (fun io => decide (io.payload 0 ≠ 0x02))
      (by decide)
      (fun io hv => ?_) ?_
  · have b4 : io.body 4 = 0x02 := byte_eq (v := 0x02) (Decidable.of_not_not (of_decide_eq_false hv))
    have hlist : io.content 1 = [io.body 4] := rfl
    rw [hlist, b4]
    rfl
  · refine Triple.bind (setStage_progress _) fun _ =>
      Triple.bind (exchangeExact_progress _ _ (by decide)) fun _ =>
      Triple.bind (setStage_progress _) fun _ =>
        Triple.bind (exchangeExact_progress _ _ (by decide)) fun _ =>
        Triple.ite (fun _ => boundary_finishes rfl) fun hvalid => windowsCfuInventory_ends ?_
    have hboth : c.p.parityCfuInventory = true ∧ c.p.windowsCfuProviderValid = true := by
      simpa using hvalid
    exact ⟨hf, hc, hboth.2, hboth.1⟩

theorem windowsFeedback_ends (hf : c.p.windowsFeedbackProviderValid = true) :
    Triple (Progress c w s₀ d ((coldReplies none).take 5) []) (windowsFeedback c w)
      (fun _ => Finished c w s₀) (fun _ => Abandoned c s₀) := by
  refine Triple.bind (setStage_progress _) fun _ =>
    Triple.bind (dmaHidspiOutput_other _ _ _ (Or.inr (by decide))) fun ret =>
      Triple.bind (check_abandons ret fun _ hs => hs.abandoned) fun _ =>
        Triple.bind (recoveryReadExpected_hears _) fun _ => Triple.bind
          (R := fun io s => io = s.io ∧ Heard c w s₀ d ((coldReplies none).take 5) [] s ∧
            s.io.lastClass = classData ∧ s.io.lastContentId = 0xa0)
            (Triple.gets _ fun _ hs => ⟨rfl, hs⟩) fun io => ?_
  refine Triple.bind_errorIf (fun _ _ hs => hs.2.1.abandoned) fun hbad => ?_
  simp only [ne_eq, Bool.or_eq_false_iff, decide_eq_false_iff_not, not_not] at hbad
  have hrest : Triple (Progress c w s₀ d ((coldReplies none).take 6) []) (do
      setStage .WINDOWS_FEEDBACK_A5
      let ret ← dmaHidspiOutput w typeOutputReport 0x09 c.p.windowsFeedbackA5
      check ret
      setStage .WINDOWS_SET_FEATURE05
      exchangeExact c w typeSetFeature classSetFeatureResponse 0x05 modeEnable 0
      if !c.p.windowsConfigProviderValid then do
        setStage .WINDOWS_CONFIG_OWNER_REQUIRED
        setParityRequired fun r => { r with configOwner := true }
        closeInput
      else windowsConfigOwner c w) (fun _ => Finished c w s₀) (fun _ => Abandoned c s₀) :=
    Triple.bind (setStage_progress _) fun _ =>
      Triple.bind (dmaHidspiOutput_other _ _ _ (Or.inr (by decide))) fun ret =>
        Triple.bind (check_abandons ret fun _ hs => hs.abandoned) fun _ =>
          Triple.bind (setStage_progress _) fun _ =>
          Triple.bind (exchangeExact_progress _ _ (by decide)) fun _ =>
            Triple.ite (fun _ => boundary_finishes rfl)
            fun hvalid => windowsConfigOwner_ends hf (by simpa using hvalid)
  refine Triple.conseq hrest (fun s hs => ?_) (fun _ _ hs => hs) fun _ _ hs => hs
  obtain ⟨hio, hs, hclass, hid⟩ := hs
  rw [hio] at hbad
  have hreplied : Replied c w s₀ d ((coldReplies none).take 5) [] classData 0xa0 1 s :=
    ⟨hs, hclass, hid, hbad.1⟩
  have b4 : s.io.body 4 = 0x01 := byte_eq hbad.2
  have hlist : s.io.content 1 = [s.io.body 4] := rfl
  have hbytes : (fun content : Bytes => content == [0x01]) (s.io.content 1) = true := by
    rw [hlist, b4]
    rfl
  exact hreplied.accept (by decide) hbytes

theorem windowsColdAttach_ends :
    Triple (Progress c w s₀ d ((coldReplies none).take 3) []) (windowsColdAttach c w)
      (fun _ => Finished c w s₀) (fun _ => Abandoned c s₀) := by
  refine Triple.bind (setStage_progress _) fun _ => Triple.bind (exchangeExact_replied _ _) fun _ =>
    Triple.bind (setParityBuffers_replied _) fun _ =>
      Replied.check (fun content => content == [0xfe, 0xff])
      (fun io => decide (io.payload 0 ≠ 0xfe) || decide (io.payload 1 ≠ 0xff)) (by decide)
        (fun io hv => ?_) ?_
  · simp only [ne_eq, Bool.or_eq_false_iff, decide_eq_false_iff_not, not_not] at hv
    have b4 : io.body 4 = 0xfe := byte_eq hv.1
    have b5 : io.body 5 = 0xff := byte_eq hv.2
    have hlist : io.content 2 = [io.body 4, io.body 5] := rfl
    rw [hlist, b4, b5]
    rfl
  · exact Triple.bind (setStage_progress _) fun _ =>
      Triple.bind (exchangeExact_progress _ _ (by decide)) fun _ =>
      Triple.bind (setParityBuffers_progress _) fun _ =>
        Triple.ite (fun _ => boundary_finishes rfl) fun hvalid =>
          windowsFeedback_ends (by simpa using hvalid)

/-! ## Power cycle and descriptors -/

theorem powerCycle_hardware :
    Triple (Progress c w s₀ 0 [] []) (powerCycle c w .HARDWARE)
      (fun _ => Progress c w s₀ 0 ((coldReplies none).take 1) []) (fun _ => Abandoned c s₀) := by
  refine Triple.bind (Progress.keeps (Progress.steady.modifyIo fun _ =>
    ⟨Nat.le_refl _, rfl, rfl, rfl⟩)) fun _ =>
    Triple.bind (Progress.keeps Progress.steady.powerOff) fun _ =>
      Triple.bind (Progress.keeps Progress.steady.panelPowerOn) fun _ =>
        Triple.bind (setStage_progress _) fun _ =>
        Triple.bind (Progress.keeps Progress.steady.waitPending) fun _ =>
          Triple.bind dmaReadResponse_hears fun _ => ?_
  intro s hs
  simp only [expectResponse, getsIo, Proc.bind_apply, gets_apply, errorIf_apply]
  cases hr : s.io.isResponse classResetResponse 0 0 with
  | false => exact hs.abandoned
  | true =>
    obtain ⟨hclass, hid, _⟩ := (Io.isResponse_iff ..).mp hr
    have hd : announcedLen 0 s.io = 0 := if_neg
      fun h => by rw [hclass] at h; exact absurd h.1 (by decide)
    have hp := hs.accept (e := ⟨classResetResponse, 0, none, anyContent⟩) hclass hid
      (fun n hn => by cases hn) rfl
    rwa [hd] at hp

theorem powerCycle_software :
    Triple (Progress c w s₀ d seen sent) (powerCycle c w .SOFTWARE)
      (fun _ => Progress c w s₀ d seen sent) (fun _ => Abandoned c s₀) :=
  Triple.bind (Progress.keeps (Progress.steady.modifyIo fun _ => ⟨Nat.le_refl _, rfl, rfl, rfl⟩))
    fun _ =>
    setStage_progress _

/-- The SP11 descriptor announces a report descriptor of 1484 bytes. -/
theorem enumerate_progress :
    Triple (Progress c w s₀ d seen []) (enumerate c w)
      (fun _ => Progress c w s₀ 1484 (seen ++ ((coldReplies none).drop 1).take 2) [])
      (fun _ => Abandoned c s₀) := by
  refine Triple.bind (setStage_progress _) fun _ => Triple.bind (dmaOutput_other _ rfl) fun ret =>
    Triple.bind (checkTransport_abandons ret fun _ hs => hs.abandoned) fun _ =>
      Triple.bind (recoveryReadExpected_hears _) fun _ => Triple.bind
        (R := fun _ => Progress c w s₀ 1484 (seen ++ ((coldReplies none).drop 1).take 1) [])
        ?_ fun _ => ?_
  · intro s hs
    obtain ⟨hs, hclass, hid⟩ := hs
    by_cases hlen : s.io.lastContentLen = hidspiDeviceDescriptorSize
    · simp only [validateSp11DeviceDescriptor, getsIo, Proc.bind_apply, gets_apply, errorIf_apply,
        id_eq, hclass, hid,
        hlen, ne_eq, not_true, decide_false, Bool.or_self, Bool.false_eq_true, if_false]
      cases hdesc : s.io.sp11DeviceDescriptor with
      | false => exact hs.abandoned
      | true =>
        have hlong : announcedLen d s.io = 1484 := by
          rw [announcedLen, if_pos ⟨hclass, hlen⟩]
          simp only [Io.sp11DeviceDescriptor, Bool.and_eq_true, beq_iff_eq] at hdesc
          obtain ⟨⟨⟨⟨⟨⟨⟨⟨⟨⟨_, _⟩, h4⟩, _⟩, _⟩, _⟩, _⟩, _⟩, _⟩, _⟩, _⟩ := hdesc
          exact h4
        rw [← hlong]
        refine hs.accept hclass hid (fun n hn => hlen.trans (Option.some.inj hn)) ?_
        rw [hlen, Io.content_descriptor hdesc]
        rfl
    · simp only [validateSp11DeviceDescriptor, getsIo, Proc.bind_apply, gets_apply, errorIf_apply,
        id_eq, hclass, hid,
        hlen, ne_eq, not_true, not_false_eq_true, decide_true, Bool.or_true, if_true]
      exact hs.abandoned
  · refine Triple.bind (Triple.gets _ fun _ hs => hs) fun expected =>
      Triple.bind (Triple.errorIf _ _ (fun _ _ hs => hs.abandoned) fun _ _ hs => hs) fun _ =>
        Triple.bind (setStage_progress _) fun _ => Triple.bind (dmaOutput_other _ rfl) fun ret =>
          Triple.bind (checkTransport_abandons ret fun _ hs => hs.abandoned) fun _ =>
            Triple.bind (recoveryReadExpected_hears _) fun _ => ?_
    intro s hs
    obtain ⟨hs, hclass, hid⟩ := hs
    have hkeep : announcedLen 1484 s.io = 1484 :=
      if_neg fun h => by rw [hclass] at h; exact absurd h.1 (by decide)
    have hlong : s.io.expectedReportDescriptorLen = 1484 := hs.announced.trans hkeep
    simp only [getsIo, Proc.bind_apply, gets_apply, errorIf_apply, id_eq, hlong]
    by_cases hlen : s.io.lastContentLen = 1484
    · simp only [hlen, ne_eq, not_true, decide_false, Bool.false_eq_true, if_false]
      have hp := hs.accept (e := ⟨classReportDescriptorResponse, 0, some 1484, anyContent⟩) hclass
        hid
        (fun n hn => hlen.trans (Option.some.inj hn)) rfl
      rw [hkeep, List.append_assoc] at hp
      exact hp
    · simp only [ne_eq, hlen, not_false_eq_true, decide_true, if_true]
      exact hs.abandoned

/-! ## Every start-up -/

theorem beginInitialization_progress (s₀ : Ts) : Progress c w s₀ 0 [] []
    (beginInitialization s₀) where
  modeEnabled := rfl
  awaitingReadyHeat := rfl
  parityRequired := rfl
  outputs := (List.append_nil _).symm
  bounded := List.nil_prefix
  announced := rfl
  arrives := .none (Nat.le_refl _)

theorem attach_hardware (hp : c.p.windowsInitParity = true) :
    Triple (Progress c w s₀ d ((coldReplies none).take 3) []) (attach c w .HARDWARE)
      (fun _ => Finished c w s₀) (fun _ => Abandoned c s₀) := by
  rw [attach, if_pos hp]
  exact Triple.bind (Triple.errorIf _ _ (fun _ h => absurd h (by decide)) fun _ _ hs => hs) fun _ =>
    windowsColdAttach_ends

theorem attach_software (hp : c.p.windowsInitParity = true) :
    Triple (Progress c w s₀ d seen sent) (attach c w .SOFTWARE) (fun _ _ => False)
    (fun _ => Abandoned c s₀) := by
  rw [attach, if_pos hp]
  exact Triple.bind_errorIf (fun _ _ hs => hs.abandoned) fun h => absurd h (by decide)

/-- The return of `fullReinitializeLocked` for each path. -/
theorem fullReinitializeLocked_finishes (hp : c.p.windowsInitParity = true) (path : RecoveryPath) :
    Triple (fun s => s = s₀) (fullReinitializeLocked c w path)
      (fun _ t => path = .HARDWARE ∧ Finished c w s₀ t)
      (fun _ t => t.modeEnabled = false ∧ Abandoned c s₀ t) := by
  refine Triple.onError (E := fun _ => Abandoned c s₀)
    (Triple.bind (R := fun _ => Progress c w s₀ 0 [] [])
    (Triple.modify _ fun s hs => ?_) fun _ => ?_)
    fun _ _ hs => ⟨rfl, hs.closeInput⟩
  · rw [hs]
    exact beginInitialization_progress s₀
  · cases path with
    | HARDWARE =>
      exact Triple.conseq (Triple.bind powerCycle_hardware fun _ =>
        Triple.bind enumerate_progress fun _ =>
        attach_hardware hp) (fun _ hs => hs) (fun _ _ hs => ⟨rfl, hs⟩) fun _ _ hs => hs
    | SOFTWARE =>
      exact Triple.conseq (Triple.bind powerCycle_software fun _ =>
        Triple.bind enumerate_progress fun _ =>
        attach_software hp) (fun _ hs => hs) (fun _ _ hs => hs.elim) fun _ _ hs => hs

theorem Abandoned.failed {t : Ts} (h : Abandoned c s₀ t) : Failed t ∧ Inventoried c s₀ t := by
  obtain ⟨sent, h⟩ := h
  exact ⟨⟨h.modeEnabled, h.awaitingReadyHeat, h.parityRequired⟩, h.inventoried⟩

/-- With `windows_init_parity` initialization ends in one of three ways,
whatever the panel sends and whatever transfer fails, and never sends more than
the inventory. -/
theorem fullReinitializeLocked_ends (c : Config) (w : World) (path : RecoveryPath) (s : Ts)
    (hp : c.p.windowsInitParity = true) :
    Ends c w (coldReplies none) path s (fullReinitializeLocked c w path s).1
      (fullReinitializeLocked c w path s).2 ∧
      Inventoried c s (fullReinitializeLocked c w path s).1 := by
  have h := fullReinitializeLocked_finishes (w := w) hp path s rfl
  revert h
  cases fullReinitializeLocked c w path s with
  | mk t r => cases r with
    | error e => exact fun h => h.2.failed
    | ok _ =>
      intro h
      obtain ⟨hpath, hend, hsent⟩ := h
      refine ⟨?_, hsent⟩
      rcases hend with hb | ha
      · exact Or.inl ⟨hb, fun h => absurd (hb.modeEnabled.symm.trans h.2.modeEnabled) (by decide)⟩
      · exact Or.inr ⟨⟨hpath, ha⟩, fun h => absurd (h.modeEnabled.symm.trans ha.modeEnabled)
          (by decide)⟩

/-! ## The length of the reset response -/

/-- The panel of `cadenceBoot`, with one byte of content in its reset response. -/
def longReset : World := { panel [] 0 with
  read := fun t =>
    if t < 42 then (panel (⟨classResetResponse, 0, 1, [0]⟩ :: coldAttach.tail) 0).read t
    else (panel inventory 43).read t }

theorem fullReinitializeLocked_ends_longReset :
    Ends cadenceConfig longReset (coldReplies none) .HARDWARE probedTs
        (fullReinitializeLocked cadenceConfig longReset .HARDWARE probedTs).1
        (fullReinitializeLocked cadenceConfig longReset .HARDWARE probedTs).2 ∧
      Inventoried cadenceConfig probedTs (fullReinitializeLocked cadenceConfig longReset
        .HARDWARE probedTs).1 :=
  fullReinitializeLocked_ends cadenceConfig longReset .HARDWARE probedTs rfl

/-- No transfer of that panel leaves a reset response without content. -/
theorem longReset_body : ∀ k, k < 112 → ((longReset.read k).1 0).toNat = classResetResponse →
    ((longReset.read k).1 3).toNat = 0 → ((longReset.read k).1 1).toNat + 256 *
    ((longReset.read k).1 2).toNat ≠ 0 := by
  decide +kernel

theorem longReset_opens :
    (match fullReinitializeLocked cadenceConfig longReset .HARDWARE probedTs with
      | (t, .ok _) => t.modeEnabled && decide (t.io.clk ≤ 112)
      | (_, .error _) => false) = true := by
  decide +kernel

/-- **Counterexample**: input opens after a reset response with one byte of content. -/
theorem long_reset_attaches :
    cadenceConfig.p.windowsInitParity = true ∧
    ¬ Ends cadenceConfig longReset (coldReplies (some 0)) .HARDWARE probedTs
      (fullReinitializeLocked cadenceConfig longReset .HARDWARE probedTs).1
      (fullReinitializeLocked cadenceConfig longReset .HARDWARE probedTs).2 := by
  refine ⟨rfl, ?_⟩
  have hopens := longReset_opens
  revert hopens
  cases fullReinitializeLocked cadenceConfig longReset .HARDWARE probedTs with
  | mk t r => cases r with
    | error e => exact fun h => absurd h Bool.false_ne_true
    | ok _ =>
      intro hopens hend
      simp only [Bool.and_eq_true, decide_eq_true_eq] at hopens
      obtain ⟨hmode, hclk⟩ := hopens
      rcases hend with hb | ha
      · exact absurd (hb.1.modeEnabled.symm.trans hmode) (by decide)
      · obtain ⟨k, m, hk, hdel, hmeets⟩ := ha.1.2.arrives.exists_delivers (List.mem_cons_self ..)
        have hbound : k + 2 ≤ t.io.clk := hk
        have hclass : m.responseClass = classResetResponse := hmeets.responseClass
        have hid : m.contentId = 0 := hmeets.contentId
        have hlen := hmeets.contentLen 0 rfl
        rw [← hdel.message] at hclass hid hlen
        exact longReset_body (k + 1) (by omega) hclass hid (by simpa [messageOf] using hlen)

end Driver
end Sp11Touch
