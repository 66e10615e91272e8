import Sp11Touch.L3Driver.Threads
/-!
# The captured mode configuration and the output packet

`mode_config` holds up to 64 bytes of the panel's `0x70` content, and both
outputs derived from it put one byte in front. A packet has room for 64. So
with `mode_config_fix` a content of 64 bytes or more fails the size check of
`g6ts_dma_hidspi_output` and latches the transport error, and a shorter one
never does (`feature70_fits_iff`).
-/
namespace Sp11Touch

/-- No answer of the world is the error `e`. -/
structure World.Spares (w : World) (e : Errno) : Prop where
  gpio : ∀ k, w.gpio k ≠ .error e
  read : ∀ k, (w.read k).2 ≠ some e
  write : ∀ k, w.write k ≠ some e

namespace Driver
open Proc

section
variable (c : Config) (w : World)

/-- mirrors phase55/modules/mshw0485_touch.c:3078-3155 (SET_FEATURE `0x70` with `content`, and the rest) -/
def handshake (content : Bytes) : TsProc Unit := do
  dmaFeatureExchange c w typeSetFeature 0x70 content
  expectResponse classSetFeatureResponse 0x70 0
  sendReport09 c w
  setStage .SET_FEATURE56
  dmaFeatureExchange c w typeSetFeature 0x56 modeHandshake
  expectResponse classSetFeatureResponse 0x56 0
  onlyIf c.p.resetRecoveryV2 (setStage .WAIT_HEAT)
  openInput c.p.resetRecoveryV2

/-- mirrors phase55/modules/mshw0485_touch.c:3062-3155 (from the accepted `0x70` response on) -/
def configureMode : TsProc Unit := do
  modifyIo (captureModeConfig c)
  setStage .SET_FEATURE70
  let content ← getsIo (setFeature70Content c)
  handshake c w content

theorem enterMode_eq : enterMode c w = (do
    setStage .SET_FEATURE05
    dmaFeatureExchange c w typeSetFeature 0x05 modeEnable
    expectResponse classSetFeatureResponse 0x05 0
    setStage .GET_FEATURE70
    modifyIo fun io => { io with modeConfigValid := false, modeConfig := [] }
    dmaFeatureExchange c w typeGetFeature 0x70 []
    expectResponse classGetFeatureResponse 0x70 1
    configureMode c w) := rfl

/-- `mode_config` and `mode_config_valid` are `config` and `valid`. -/
structure Captured (config : Bytes) (valid : Bool) (s : Ts) : Prop where
  config : s.io.modeConfig = config
  valid : s.io.modeConfigValid = valid

/-- `p` leaves what was captured and does not return `-E2BIG`. -/
def Sized (config : Bytes) (valid : Bool) {α : Type} (p : TsProc α) : Prop :=
  Triple (Captured config valid) p (fun _ => Captured config valid) (fun e _ => e ≠ .E2BIG)

end

variable {c : Config} {w : World} {config : Bytes} {valid : Bool} {α β : Type}

/-! ## Everything but the size check -/

namespace Sized

theorem pure (a : α) : Sized config valid (Pure.pure a : TsProc α) := Triple.pure a fun _ h => h

theorem throw {e : Errno} (he : e ≠ .E2BIG) : Sized config valid (Proc.throw e : TsProc α) :=
  Triple.throw e fun _ _ => he

theorem bind {p : TsProc α} {f : α → TsProc β} (hp : Sized config valid p)
    (hf : ∀ a, Sized config valid (f a)) :
    Sized config valid (p >>= f) := Triple.bind hp hf

/-- The first part promises `R` of its result. -/
theorem bind_of {p : TsProc α} {f : α → TsProc β} {R : α → Prop}
    (hp : Triple (Captured config valid) p (fun a s => R a ∧ Captured config valid s)
    (fun e _ => e ≠ .E2BIG))
    (hf : ∀ a, R a → Sized config valid (f a)) : Sized config valid (p >>= f) :=
  Triple.bind hp fun a s hs => hf a hs.1 s hs.2

theorem errorIf (b : Bool) {e : Errno} (he : e ≠ .E2BIG) : Sized config valid (Proc.errorIf b e) :=
  Triple.errorIf b e (fun _ _ _ => he) fun _ _ h => h

theorem getsIo (f : Io → α) : Sized config valid (Driver.getsIo f) := Triple.gets _ fun _ h => h

theorem modifyIo {f : Io → Io} (hc : ∀ io, (f io).modeConfig = io.modeConfig)
    (hv : ∀ io, (f io).modeConfigValid = io.modeConfigValid) :
    Sized config valid (Driver.modifyIo f) :=
  Triple.modify _ fun s h => ⟨(hc s.io).trans h.config, (hv s.io).trans h.valid⟩

theorem setStage (stage : InitializationStage) : Sized config valid (Driver.setStage stage) :=
  modifyIo (fun _ => rfl) fun _ => rfl

/-- An answer of the world is one of its answers. -/
theorem ask {f : Nat → α} {R : α → Prop} (h : ∀ k, R (f k)) :
    Triple (Captured config valid) (Driver.ask f) (fun a s => R a ∧ Captured config valid s)
    (fun e _ => e ≠ .E2BIG) :=
  fun s hs => ⟨h s.io.clk, hs.config, hs.valid⟩

theorem pending_bind (h : w.Spares .E2BIG) {f : Except Errno Bool → TsProc β}
    (hf : ∀ r, r ≠ .error .E2BIG → Sized config valid (f r)) :
    Sized config valid (pending w >>= f) :=
  bind_of (ask h.gpio) hf

theorem newEdges : Sized config valid (newEdges w) :=
  bind_of (R := fun _ => True) (ask fun _ => trivial) fun _ _ => bind (getsIo _) fun _ => pure _

theorem pollPending (h : w.Spares .E2BIG) : ∀ n, Sized config valid (pollPending w n)
  | 0 => throw (by decide)
  | n + 1 => by
    refine pending_bind h fun value hv => ?_
    cases value with
    | error e => exact throw fun he => hv (he ▸ rfl)
    | ok b => cases b with
      | true => exact pure _
      | false => exact bind newEdges fun edge => Triple.ite (fun _ => pure _) fun _ => pollPending h n

theorem waitPending (h : w.Spares .E2BIG) : Sized config valid (waitPending w) :=
  bind_of (R := fun _ => True) (ask fun _ => trivial) fun _ _ => pollPending h _

theorem takeEdges (h : w.Spares .E2BIG) : Sized config valid (takeEdges w) := by
  refine pending_bind h fun value hv => bind_of (R := fun _ => True)
    (ask fun _ => trivial) fun _ _ =>
    bind (getsIo _) fun _ => bind ?_ fun _ => modifyIo (fun _ => rfl) fun _ => rfl
  cases value with
  | error e => exact errorIf _ fun he => hv (he ▸ rfl)
  | ok b => cases b with
    | true => exact pure _
    | false => exact errorIf _ (by decide)

theorem checkTransport {ret : Option Errno} (h : ret ≠ some .E2BIG) :
    Sized config valid (Driver.checkTransport ret) := by
  cases ret with
  | none => exact pure ()
  | some e =>
    exact bind (Triple.modify _ fun _ hs => ⟨hs.config, hs.valid⟩) fun _ =>
      throw fun he => h (he ▸ rfl)

theorem dmaReadPair_bind (h : w.Spares .E2BIG) {put : (Nat → UInt8) → Io → Io}
    {f : Option Errno → TsProc β}
    (hc : ∀ bytes io, (put bytes io).modeConfig = io.modeConfig)
    (hv : ∀ bytes io, (put bytes io).modeConfigValid = io.modeConfigValid)
    (hf : ∀ ret, ret ≠ some .E2BIG → Sized config valid (f ret)) :
      Sized config valid (dmaReadPair w put >>= f) := by
  refine bind_of (R := fun ret => ret ≠ some .E2BIG) ?_ hf
  refine Triple.bind (ask (R := fun r : (Nat → UInt8) × Option Errno => r.2 ≠ some .E2BIG) h.read)
    fun r => ?_
  exact Triple.bind (R := fun _ s => r.2 ≠ some .E2BIG ∧ Captured config valid s)
    (Triple.modify _ fun s hs => ⟨hs.1, (hc _ s.io).trans hs.2.config,
    (hv _ s.io).trans hs.2.valid⟩)
    fun _ => Triple.pure _ fun _ hs => hs

theorem invalidHeader (h : w.Spares .E2BIG) : Sized config valid (invalidHeader c w) := by
  refine bind (Triple.onlyIf (fun _ => pending_bind h fun value hv => ?_) fun _ _ hs => hs) fun _ =>
    pending_bind h fun _ _ => throw (by decide)
  cases value with
  | error e => exact throw fun he => hv (he ▸ rfl)
  | ok b => cases b with
    | true => exact pure _
    | false => exact bind (modifyIo (fun _ => rfl) fun _ => rfl) fun _ => throw (by decide)

theorem readHeader (h : w.Spares .E2BIG) : Sized config valid (readHeader c w) :=
  dmaReadPair_bind h (fun _ _ => rfl) (fun _ _ => rfl) fun _ hr => bind (checkTransport hr) fun _ =>
    bind (getsIo _) fun _ => Triple.ite (fun _ => pure _) fun _ => invalidHeader h

theorem readBody (h : w.Spares .E2BIG) (len : Nat) : Sized config valid (readBody w len) :=
  bind (errorIf _ (by decide)) fun _ => dmaReadPair_bind h (fun _ _ => rfl)
    (fun _ _ => rfl) fun _ hr =>
    bind (checkTransport hr) fun _ => bind (modifyIo (fun _ => rfl) fun _ => rfl) fun _ =>
      bind (getsIo _) fun _ => errorIf _ (by decide)

theorem dmaReadResponse (h : w.Spares .E2BIG) : Sized config valid (dmaReadResponse c w) := by
  have hnote : ∀ io, (noteDescriptor io).modeConfig = io.modeConfig ∧
    (noteDescriptor io).modeConfigValid = io.modeConfigValid := by
    intro io
    unfold noteDescriptor
    split <;> exact ⟨rfl, rfl⟩
  refine bind (modifyIo (fun _ => rfl) fun _ => rfl) fun _ => bind (takeEdges h) fun _ =>
    bind (readHeader h) fun _ =>
    bind (getsIo _) fun len => bind (readBody h len) fun _ =>
      bind (modifyIo (fun io => (hnote io).1) fun io => (hnote io).2)
      fun _ => bind (Triple.gets _ fun _ hs => hs) fun _ =>
        Triple.onlyIf (fun _ => Triple.modify _ fun s hs => ?_)
        fun _ _ hs => hs
  obtain ⟨heat, stats, awaiting, log, heq⟩ := handleDataReport_frame c s
  rw [heq]
  exact ⟨hs.config, hs.valid⟩

/-- By induction on the responses. -/
theorem awaitReply (h : w.Spares .E2BIG) (done : Io → Bool) :
    ∀ n, Sized config valid (awaitReply c w done n)
  | 0 => throw (by decide)
  | n + 1 =>
    bind (waitPending h) fun _ => bind (dmaReadResponse h) fun _ => bind (getsIo _) fun _ =>
      Triple.ite (fun _ => pure _) fun _ => Triple.ite
        (fun _ => Triple.bind (R := fun _ _ => True) (Triple.modify _ fun _ _ => trivial) fun _ =>
        Triple.throw _ fun _ _ => by decide)
        fun _ => Triple.ite (fun _ => awaitReply h done n) fun _ => throw (by decide)

/-- A content of at most 64 bytes goes to the bus. -/
theorem dmaHidspiOutput_bind (h : w.Spares .E2BIG) {reportType contentId : Nat} {content : Bytes}
    (hlen : content.length ≤ 64) {f : Option Errno → TsProc β}
    (hf : ∀ ret, ret ≠ some .E2BIG → Sized config valid (f ret)) :
    Sized config valid (dmaHidspiOutput w reportType contentId content >>= f) := by
  unfold Driver.dmaHidspiOutput
  rw [if_neg (by omega)]
  refine bind_of (R := fun ret => ret ≠ some .E2BIG) ?_ hf
  exact Triple.bind (R := fun _ => Captured config valid)
    (modifyIo (fun _ => rfl) fun _ => rfl) fun _ => ask h.write

theorem dmaFeatureExchange (h : w.Spares .E2BIG) {reportType contentId : Nat} {content : Bytes}
    (hlen : content.length ≤ 64) : Sized config valid
    (dmaFeatureExchange c w reportType contentId content) :=
  bind (errorIf _ (by decide)) fun _ => dmaHidspiOutput_bind h hlen fun _ hr =>
    bind (checkTransport hr) fun _ =>
    awaitReply h _ _

theorem expectResponse (responseClass contentId minContentLen : Nat) :
    Sized config valid (expectResponse responseClass contentId minContentLen) :=
  bind (getsIo _) fun _ => errorIf _ (by decide)

end Sized

/-! ## A panel that acknowledges the output -/

/-- A header for a body of four bytes at tick `k`, and the acknowledgement of SET_FEATURE `0x70`. -/
def set70Response : Response := ⟨classSetFeatureResponse, 0x70, 0, []⟩

def acknowledging (k : Nat) : World where
  gpio _ := .ok true
  edges _ := 0
  polls _ := 0
  read t := (if t = k then set70Response.header else set70Response.body, none)
  write _ := none
  jiffies _ := 1
  acpi _ := none

theorem acknowledging_spares (k : Nat) : (acknowledging k).Spares .E2BIG := by
  refine ⟨fun _ => ?_, fun _ => ?_, fun _ => ?_⟩
  all_goals simp [acknowledging]

/-- `p` returns normally. -/
def Returns (P : Ts → Prop) (p : TsProc α) (Q : Ts → Prop) : Prop :=
  Triple P p (fun _ => Q) (fun _ _ => False)

theorem acknowledging_waits {k n : Nat} :
    Returns (fun s => s.io.clk = n) (waitPending (acknowledging k))
    (fun s => s.io.clk = n + 2) := by
  intro s hs
  show s.io.clk + 2 = n + 2
  rw [hs]

theorem acknowledging_takes {k n : Nat} :
    Returns (fun s => s.io.clk = n) (takeEdges (acknowledging k)) (fun s => s.io.clk = n + 2) := by
  intro s hs
  show s.io.clk + 2 = n + 2
  rw [hs]

theorem acknowledging_header {k : Nat} :
    Returns (fun s => s.io.clk = k) (readHeader c (acknowledging k))
    (fun s => s.io.clk ≠ k ∧ bodyLen s.io = 4) := by
  intro s hs
  subst hs
  have hv : headerValid { s.io with
      clk := s.io.clk + 1, lastHeader := fun i => if i < 4 then set70Response.header i
        else s.io.lastHeader i } = true := rfl
  simp [readHeader, Proc.bind_apply, dmaReadPair, ask, acknowledging, modifyIo, checkTransport,
    getsIo, Proc.pure_apply, hv]
  rfl

theorem acknowledging_body {k : Nat} : Returns (fun s => s.io.clk ≠ k)
    (readBody (acknowledging k) 4)
    (fun s => s.io.lastClass = classSetFeatureResponse ∧ s.io.lastContentId = 0x70) := by
  intro s hs
  simp [readBody, Proc.bind_apply, dmaReadPair, ask, acknowledging, modifyIo, checkTransport,
    getsIo, Proc.pure_apply,
    errorIf_apply, hs, hidspiInputBodyHeaderSize, maxBody]
  exact ⟨rfl, rfl⟩

theorem acknowledging_reads {k n : Nat} (hn : n + 2 = k) : Returns (fun s => s.io.clk = n)
    (dmaReadResponse c (acknowledging k))
    (fun s => s.io.lastClass = classSetFeatureResponse ∧ s.io.lastContentId = 0x70) := by
  subst hn
  refine Triple.bind (R := fun _ (s : Ts) => s.io.clk = n) (Triple.modify _ fun _ hs => hs) fun _ =>
    Triple.bind (R := fun _ (s : Ts) => s.io.clk = n + 2) acknowledging_takes fun _ =>
      Triple.bind acknowledging_header fun _ =>
      Triple.bind (R := fun len (s : Ts) => s.io.clk ≠ n + 2 ∧ len = 4)
        (Triple.gets _ fun _ hs => hs) fun len => ?_
  refine Triple.bind (R := fun _ (s : Ts) => s.io.lastClass = classSetFeatureResponse ∧
    s.io.lastContentId = 0x70) ?_ fun _ =>
    Triple.bind (R := fun _ (s : Ts) => s.io.lastClass = classSetFeatureResponse ∧
      s.io.lastContentId = 0x70) (Triple.modify _ fun s hs => ?_)
      fun _ => Triple.bind (Triple.gets _ fun _ hs => hs) fun _ =>
        Triple.onlyIf (fun _ => Triple.modify _ fun s hs => ?_)
        fun _ _ hs => hs
  · intro s hs
    obtain ⟨hclk, rfl⟩ := hs
    exact acknowledging_body s hclk
  · unfold noteDescriptor
    split <;> exact hs
  · obtain ⟨heat, stats, awaiting, log, heq⟩ := handleDataReport_frame c s
    rw [heq]
    exact hs

/-- A first response that ends the wait. -/
theorem Returns.reply {P R : Ts → Prop} {done : Io → Bool} {n : Nat}
    (hw : Returns P (waitPending w) R)
    (hr : Returns R (dmaReadResponse c w) (fun s => done s.io = true)) :
    Returns P (awaitReply c w done (n + 1)) (fun s => done s.io = true) := by
  refine Triple.bind (R := fun _ => R) hw fun _ =>
    Triple.bind (R := fun _ (s : Ts) => done s.io = true) hr fun _ =>
    Triple.bind (R := fun io (s : Ts) => io = s.io ∧ done s.io = true)
      (Triple.gets _ fun s hs => ⟨rfl, hs⟩) fun io =>
      Triple.ite (fun _ => Triple.pure () fun _ hs => hs.2) fun hno s hs => absurd (hs.1 ▸ hs.2) hno

/-- The output goes out, the acknowledgement comes first. -/
theorem acknowledging_exchange {k n : Nat} (hn : n + 5 = k) : Returns (fun s => s.io.clk = n)
    (dmaFeatureExchange c (acknowledging k) typeSetFeature 0x70 modeEnable)
    (fun s => s.io.isResponse classSetFeatureResponse 0x70 0 = true) := by
  refine Triple.bind (R := fun _ (s : Ts) => s.io.clk = n)
    (Triple.errorIf _ _ (fun _ h => nomatch h) fun _ _ hs => hs) fun _ =>
    Triple.bind (R := fun ret (s : Ts) => ret = none ∧ s.io.clk = n + 1)
      (fun s hs => ⟨rfl, congrArg (· + 1) hs⟩) fun ret =>
      Triple.bind (R := fun _ (s : Ts) => s.io.clk = n + 1) (fun s hs => ?_) fun _ =>
        Returns.reply (R := fun s => s.io.clk = n + 1 + 2) acknowledging_waits ?_
  · obtain ⟨rfl, hclk⟩ := hs
    exact hclk
  · refine Triple.conseq (acknowledging_reads (by omega)) (fun _ hs => hs)
      (fun _ s hs => ?_) fun _ _ hs => hs
    simp [Io.isResponse, hs.1, hs.2]

/-! ## The size check -/

theorem dmaFeatureExchange_big {reportType contentId : Nat} {content : Bytes}
    (h : 64 < content.length)
    (ht : reportType = typeSetFeature) (s : Ts) :
    dmaFeatureExchange c w reportType contentId content s = (s.latch, .error .E2BIG) := by
  subst ht
  have hbig : dmaHidspiOutput w typeSetFeature contentId content s = (s, .ok (some .E2BIG)) := by
    unfold dmaHidspiOutput
    rw [if_pos (by omega)]
    rfl
  unfold dmaFeatureExchange
  simp [Proc.bind_apply, errorIf_apply, typeSetFeature, typeGetFeature] at hbig ⊢
  rw [hbig]
  rfl

/-- What `captureModeConfig` leaves of an accepted response. -/
theorem captured_of_fix (hfix : c.p.modeConfigFix = true) (io : Io) (h : 1 ≤ io.lastContentLen) :
    (captureModeConfig c io).modeConfig.length = min io.lastContentLen 64 ∧
    (captureModeConfig c io).modeConfigValid = true := by
  unfold captureModeConfig
  rw [if_pos hfix]
  simp only [io.content_length, modeConfigMax, decide_eq_true_eq]
  exact ⟨trivial, by omega⟩

/-- The short report carries one byte more than was captured. -/
theorem sendReport09_big (hfix : c.p.modeConfigFix = true) (h : 64 ≤ config.length) :
    Triple (Captured config true) (sendReport09 c w) (fun _ _ => False)
    (fun e s => e = .E2BIG ∧ s.fatalTransportError = true) := by
  intro s hs
  have hbig : dmaHidspiOutput w typeOutputReport 0x09 (0x8e :: s.io.modeConfig) s =
    (s, .ok (some .E2BIG)) := by
    unfold dmaHidspiOutput
    rw [if_pos (by rw [hs.config, List.length_cons]; omega)]
    rfl
  have hrun : sendReport09 c w s = (s.latch, .error .E2BIG) := by
    simp [sendReport09, Proc.bind_apply, getsIo, onlyIf, hfix, hs.valid, hbig, checkTransport]
  rw [hrun]
  exact ⟨rfl, rfl⟩

/-- The size check fails in a run from `s`: the call returns `-E2BIG` and latches the transport error. -/
def FailsSize (c : Config) (w : World) (s : Ts) : Prop :=
  ∃ t, configureMode c w s = (t, .error .E2BIG) ∧ t.fatalTransportError = true

/-- Where no transfer answers `-E2BIG`, no call returns it. -/
def SizeSafe (c : Config) (s : Ts) : Prop :=
  ∀ w : World, w.Spares .E2BIG → (configureMode c w s).2 ≠ .error .E2BIG

theorem Sized.sendReport09 (h : w.Spares .E2BIG)
    (hlen : c.p.modeConfigFix = true → config.length < 64) :
    Sized config valid (Driver.sendReport09 c w) := by
  refine bind_of (R := fun io : Io => io.modeConfig = config)
    (Triple.gets _ fun t ht => ⟨ht.config, ht⟩) fun io hio =>
    Triple.onlyIf (fun hsend => ?_) fun _ _ ht => ht
  simp only [Bool.and_eq_true] at hsend
  refine dmaHidspiOutput_bind h ?_ fun _ hr => checkTransport hr
  have hlt := hlen hsend.1
  rw [List.length_cons, hio]
  omega

theorem Sized.handshake (h : w.Spares .E2BIG) {content : Bytes} (h70 : content.length ≤ 64)
    (h09 : c.p.modeConfigFix = true → config.length < 64) :
    Sized config valid (Driver.handshake c w content) :=
  bind (dmaFeatureExchange h h70) fun _ => bind (expectResponse _ _ _) fun _ =>
    bind (sendReport09 h h09) fun _ =>
    bind (setStage _) fun _ => bind (dmaFeatureExchange h (by decide)) fun _ =>
      bind (expectResponse _ _ _) fun _ =>
      bind (Triple.onlyIf (fun _ => setStage _) fun _ _ hs => hs) fun _ =>
        Triple.modify _ fun _ hs => ⟨hs.config, hs.valid⟩

/-- The state after the capture. -/
def captured (c : Config) (s : Ts) : Ts :=
  { s with io := { captureModeConfig c s.io with initializationStage := .SET_FEATURE70 } }

theorem configureMode_eq (c : Config) (w : World) (s : Ts) : configureMode c w s =
    handshake c w (setFeature70Content c (captureModeConfig c s.io)) (captured c s) := rfl

theorem captured_captured (c : Config) (s : Ts) :
    Captured (captureModeConfig c s.io).modeConfig (captureModeConfig c s.io).modeConfigValid
    (captured c s) := ⟨rfl, rfl⟩

theorem captured_clk (c : Config) (s : Ts) : (captured c s).io.clk = s.io.clk := by
  unfold captured captureModeConfig
  split <;> rfl

/-- Both contents fit. -/
theorem configureMode_sized (h : w.Spares .E2BIG) {s : Ts}
    (h70 : (setFeature70Content c (captureModeConfig c s.io)).length ≤ 64)
    (h09 : c.p.modeConfigFix = true → (captureModeConfig c s.io).modeConfig.length < 64) :
    (configureMode c w s).2 ≠ .error .E2BIG := by
  have hsized : Sized _ (captureModeConfig c s.io).modeConfigValid _ := Sized.handshake h h70 h09
  rw [configureMode_eq]
  intro hno
  exact Triple.error hsized (captured_captured c s) (Prod.ext rfl hno) rfl

/-- 64 captured bytes and SET_FEATURE `0x70` derived from them. -/
theorem fails_feature70 (hfix : c.p.modeConfigFix = true) (hone : c.p.feature70OneByte = false)
    {s : Ts}
    (h : 64 ≤ s.io.lastContentLen) (w : World) : FailsSize c w s := by
  obtain ⟨hlen, hvalid⟩ := captured_of_fix hfix s.io (by omega)
  have hbig : 64 < (setFeature70Content c (captureModeConfig c s.io)).length := by
    unfold setFeature70Content
    rw [if_neg (by rw [hone]; decide), if_pos (by rw [hfix, hvalid]; rfl), List.length_cons, hlen]
    omega
  refine ⟨(captured c s).latch, ?_, rfl⟩
  rw [configureMode_eq]
  unfold handshake
  rw [bind_apply, dmaFeatureExchange_big hbig rfl]

/-- 64 captured bytes and report `0x09` derived from them, after the acknowledged one-byte content. -/
theorem fails_report09 (hfix : c.p.modeConfigFix = true) (hone : c.p.feature70OneByte = true)
    {s : Ts}
    (h : 64 ≤ s.io.lastContentLen) : FailsSize c (acknowledging (s.io.clk + 5)) s := by
  obtain ⟨hlen, hvalid⟩ := captured_of_fix hfix s.io (by omega)
  have hcontent : setFeature70Content c (captureModeConfig c s.io) = modeEnable := by
    unfold setFeature70Content
    rw [if_pos hone]
  have hcap := captured_captured c s
  rw [hvalid] at hcap
  have hsized : Sized (captureModeConfig c s.io).modeConfig true
      (dmaFeatureExchange c (acknowledging (s.io.clk + 5)) typeSetFeature 0x70 modeEnable) :=
    Sized.dmaFeatureExchange (acknowledging_spares _) (by decide)
  have hfail : Triple (fun t => t.io.clk = s.io.clk ∧
    Captured (captureModeConfig c s.io).modeConfig true t)
      (handshake c (acknowledging (s.io.clk + 5)) modeEnable) (fun _ _ => False)
      (fun e t => e = .E2BIG ∧ t.fatalTransportError = true) := by
    refine Triple.bind (Triple.conseq (Triple.and (acknowledging_exchange rfl) hsized)
      (fun _ ht => ht) (fun _ _ ht => ht)
      fun _ _ ht => ht.1.elim) fun _ => Triple.bind
        (R := fun _ => Captured (captureModeConfig c s.io).modeConfig true) ?_
        fun _ => Triple.bind (sendReport09_big hfix (by omega)) fun _ _ hno => hno.elim
    refine Triple.bind (R := fun ok t => ok = true ∧
      Captured (captureModeConfig c s.io).modeConfig true t)
      (Triple.gets _ fun t ht => ht) fun ok => Triple.errorIf _ _
        (fun _ hb ht => ?_) fun _ _ ht => ht.2
    rw [ht.1] at hb
    cases hb
  obtain ⟨t, e, hrun, rfl, hlatch⟩ := hfail.exists_error (s := captured c s)
    ⟨captured_clk c s, hcap⟩
  refine ⟨t, ?_, hlatch⟩
  rw [configureMode_eq, hcontent, hrun]

/-- Exactly the contents of 64 bytes and more fail, and only with `mode_config_fix`. -/
theorem feature70_fits_iff (c : Config) (s : Ts)
    (h : s.io.isResponse classGetFeatureResponse 0x70 1 = true) :
    SizeSafe c s ↔ (c.p.modeConfigFix = true → s.io.lastContentLen ≤ 63) := by
  have hlen : 1 ≤ s.io.lastContentLen := by
    simp only [Io.isResponse, Bool.and_eq_true, decide_eq_true_eq] at h
    exact h.2
  apply Iff.intro
  · intro hsafe hfix
    by_contra hbig
    cases hone : c.p.feature70OneByte with
    | false =>
      obtain ⟨t, hrun, _⟩ := fails_feature70 hfix hone (s := s) (by omega) (acknowledging 0)
      exact hsafe _ (acknowledging_spares 0) (by rw [hrun])
    | true =>
      obtain ⟨t, hrun, _⟩ := fails_report09 hfix hone (s := s) (by omega)
      exact hsafe _ (acknowledging_spares _) (by rw [hrun])
  · intro hfits w hw
    refine configureMode_sized hw ?_ fun hfix => ?_
    · unfold setFeature70Content
      split
      · exact Nat.le_of_ble_eq_true rfl
      split
      · next hfix =>
        simp only [Bool.and_eq_true] at hfix
        rw [List.length_cons, (captured_of_fix hfix.1 s.io hlen).1]
        have := hfits hfix.1
        omega
      · exact Nat.le_of_ble_eq_true rfl
    · rw [(captured_of_fix hfix s.io hlen).1]
      have := hfits hfix
      omega

/-- The defaults. -/
def defaultConfig : Config := ⟨{}, Params.default_accepted, true, 4⟩

/-- After a response with `len` bytes of `0x70` content. -/
def feature70Reply (len : Nat) : Ts :=
  { probedTs with io := { probedIo with
      lastClass := classGetFeatureResponse, lastContentId := 0x70, lastContentLen := len } }

theorem feature70_fits_short : SizeSafe defaultConfig (feature70Reply 8) :=
  (feature70_fits_iff defaultConfig (feature70Reply 8) rfl).mpr (by decide)

/-- The answers of a start-up with a content of 64 bytes. -/
def oversized : List Response := resetResponse :: startup.take 3 ++
    [⟨classGetFeatureResponse, 0x70, 64, []⟩]

/-- **Counterexample**: with the defaults a 64-byte content ends the start-up, latches the
transport error and leaves the worker without a retry. -/
theorem mode_config_too_big : (feature70Reply 64).io.isResponse
    classGetFeatureResponse 0x70 1 = true ∧
    ¬ SizeSafe defaultConfig (feature70Reply 64) ∧
    (recoverySection defaultConfig (panel oversized 0) probedTs).2 = .failure false ∧
    (recoverySection defaultConfig (panel oversized 0) probedTs).1.transportErrors = 1 := by
  refine ⟨rfl, fun hsafe => ?_, by decide +kernel, by decide +kernel⟩
  obtain ⟨t, hrun, _⟩ := fails_feature70 (c := defaultConfig) (s := feature70Reply 64) rfl
    rfl (by decide) silentWorld
  exact hsafe silentWorld ⟨fun _ h => (nomatch h), fun _ h => (nomatch h), fun _ h => (nomatch h)⟩
    (by rw [hrun])

end Driver
end Sp11Touch
