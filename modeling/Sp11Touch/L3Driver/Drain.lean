import Sp11Touch.L3Driver.Threads
/-!
# The edge-triggered interrupt and its drain

The interrupt is edge triggered: a response that is left unread when the IRQ
thread returns is only noticed if a later edge latches another interrupt, or
if recovery is on its way. With `host_fault_recovery` every exit of the loop
takes care of it, but for the one that `windows_read_cadence` adds by design
and a transfer that fails with `-EAGAIN`, which the loop takes for an empty
line.

**Results.**
* `post_drainRule`: what each exit knows (`DrainPost`), by the rule for the
  drain.
* `Quiet.unread`: between a question that finds the line deasserted and the
  return a new response brings an edge.
* `drain_settles`: every return leaves nothing unread, or one of the others.
  `cadence_strands` shows that the two exceptions do happen.
-/
namespace Sp11Touch.Driver
open Proc

/-- GPIO reads succeed, the edge counter counts up, and the line is not
asserted anew without an edge. -/
structure Coherent (w : World) : Prop where
  gpio : ∀ n, ∃ value, w.gpio n = .ok value
  edges : ∀ m n, m ≤ n → w.edges m ≤ w.edges n
  falling : ∀ m n, m ≤ n → w.gpio m = .ok false → w.gpio n = .ok true → w.edges m < w.edges n

/-! ## When the thread returns -/

/-- A response is advertised: the line is asserted or a counted edge is not handled. -/
def unread (w : World) (t : Ts) : Bool :=
  match w.gpio t.io.clk with
  | .ok true => true
  | _ => decide (t.io.handledInterruptEdges < w.edges t.io.clk)

/-- An edge came since tick `start`; it latched another interrupt. -/
def laterEdge (w : World) (start : Nat) (t : Ts) : Prop := w.edges start < w.edges t.io.clk

/-- Recovery is scheduled and input is closed. -/
def Recovering (t : Ts) : Prop := t.workPending = true ∧ t.modeEnabled = false

/-! ## One section -/

/-- Since `s0`, while the device is not removed. -/
structure Since (s0 s : Ts) : Prop where
  clk : s0.io.clk ≤ s.io.clk
  stopping : s.stopping = false
  errors : s0.transportErrors ≤ s.transportErrors

section
variable (w : World)

/-- The edges counted at a tick since `s0` are handled. -/
structure Taken (s0 s : Ts) : Prop extends Since s0 s where
  edges : ∃ m, s0.io.clk ≤ m ∧ m < s.io.clk ∧ s.io.handledInterruptEdges = w.edges m

/-- Since `start` the line was once deasserted, and the edges were once all handled. -/
structure Quiet (start : Nat) (s : Ts) : Prop where
  line : ∃ m, start ≤ m ∧ m < s.io.clk ∧ w.gpio m = .ok false
  edges : ∃ m, start ≤ m ∧ m < s.io.clk ∧ w.edges m ≤ s.io.handledInterruptEdges

/-- The last question since `s0` was a read transfer. It returned `-EAGAIN`, which was counted as
a transport error. -/
structure ReadAgain (s0 s : Ts) : Prop where
  counted : s0.transportErrors < s.transportErrors
  last : ∃ m, s0.io.clk ≤ m ∧ s.io.clk = m + 1 ∧ (w.read m).2 = some Errno.EAGAIN

/-- An error of `g6ts_dma_read_response`; `-EAGAIN` has a reason. -/
structure ReadError (s0 : Ts) (e : Errno) (s : Ts) : Prop extends Since s0 s where
  again : e = .EAGAIN → Quiet w s0.io.clk s ∨ ReadAgain w s0 s

end

variable {w : World} {start : Nat} {s0 : Ts}

/-- A new response after a quiet moment brings an edge. -/
theorem Quiet.unread {t : Ts} (hc : Coherent w) (h : Quiet w start t) :
    unread w t = false ∨ laterEdge w start t := by
  obtain ⟨m, hm, hmt, hline⟩ := h.line
  obtain ⟨k, hk, hkt, hedges⟩ := h.edges
  by_cases he : w.edges start < w.edges t.io.clk
  · exact Or.inr he
  · left
    have h1 := hc.edges start m hm
    have h2 := hc.edges m t.io.clk (Nat.le_of_lt hmt)
    have h3 := hc.edges start k hk
    have h4 := hc.edges k t.io.clk (Nat.le_of_lt hkt)
    have hnew : ¬ t.io.handledInterruptEdges < w.edges t.io.clk := by omega
    obtain ⟨value, hv⟩ := hc.gpio t.io.clk
    unfold Driver.unread
    cases value with
    | true =>
      -- The line fell between `m` and now: an edge, which there was not.
      have hf := hc.falling m t.io.clk (Nat.le_of_lt hmt) hline hv
      omega
    | false => rw [hv]; exact decide_eq_false hnew

/-! ## Reading one response -/

theorem takeEdges_post (hc : Coherent w) :
    Triple (Since s0) (takeEdges w) (fun _ => Taken w s0) (ReadError w s0) := by
  intro s hs
  obtain ⟨value, hv⟩ := hc.gpio s.io.clk
  have hedge : s0.io.clk ≤ s.io.clk + 1 := Nat.le_succ_of_le hs.clk
  have hclk : s0.io.clk ≤ s.io.clk + 1 + 1 := Nat.le_succ_of_le hedge
  have htaken : ∀ t : Ts, t.io.clk = s.io.clk + 1 + 1 → t.stopping = s.stopping →
      t.transportErrors = s.transportErrors → t.io.handledInterruptEdges = w.edges (s.io.clk + 1) →
      Taken w s0 t := by
    intro t h1 h2 h3 h4
    exact ⟨⟨h1 ▸ hclk, h2.trans hs.stopping, h3 ▸ hs.errors⟩, s.io.clk + 1, hedge, by omega, h4⟩
  cases value with
  | true =>
    simp only [takeEdges, pending, ask, getsIo, modifyIo, nothingPending, Proc.bind_apply,
      Proc.pure_apply,
      gets_apply, modify_apply, hv]
    exact htaken _ rfl rfl rfl rfl
  | false =>
    simp only [takeEdges, pending, ask, getsIo, modifyIo, nothingPending,
      Proc.bind_apply, gets_apply,
      modify_apply, errorIf_apply, hv]
    by_cases hnew : w.edges (s.io.clk + 1) > s.io.handledInterruptEdges
    · simp only [hnew, decide_true, Bool.not_true, Bool.false_eq_true, if_false]
      exact htaken _ rfl rfl rfl rfl
    · simp only [hnew, decide_false, Bool.not_false, if_true]
      exact ⟨⟨hclk, hs.stopping, hs.errors⟩, fun _ => Or.inl
        ⟨⟨s.io.clk, hs.clk, by simp only; omega, hv⟩,
        ⟨s.io.clk + 1, hedge, by simp only; omega, by simp only; omega⟩⟩⟩

theorem Taken.advance {s t : Ts} (h : Taken w s0 s) (hclk : s.io.clk ≤ t.io.clk)
    (hhandled : t.io.handledInterruptEdges = s.io.handledInterruptEdges)
    (hstop : t.stopping = s.stopping)
    (herrors : t.transportErrors = s.transportErrors) : Taken w s0 t := by
  obtain ⟨m, hm, hmt, he⟩ := h.edges
  exact ⟨⟨Nat.le_trans h.clk hclk, hstop.trans h.stopping, herrors ▸ h.errors⟩, m, hm,
    Nat.lt_of_lt_of_le hmt hclk,
    hhandled.trans he⟩

/-- Clock and counter are left alone. -/
def KeepsClock (f : Io → Io) : Prop :=
  ∀ io, (f io).clk = io.clk ∧ (f io).handledInterruptEdges = io.handledInterruptEdges

variable {E : Errno → Ts → Prop}

theorem modifyIo_since {f : Io → Io} (hf : KeepsClock f) :
    Triple (Since s0) (modifyIo f) (fun _ => Since s0) E :=
  Triple.modify _ fun s hs => ⟨Nat.le_trans hs.clk (Nat.le_of_eq (hf s.io).1.symm),
    hs.stopping, hs.errors⟩

theorem modifyIo_taken {f : Io → Io} (hf : KeepsClock f) :
    Triple (Taken w s0) (modifyIo f) (fun _ => Taken w s0) E :=
  Triple.modify _ fun s hs => hs.advance (Nat.le_of_eq (hf s.io).1.symm) (hf s.io).2 rfl rfl

/-- The last question was the transfer that returned `ret`. -/
def Transferred (w : World) (s0 : Ts) (ret : Option Errno) (s : Ts) : Prop :=
  Taken w s0 s ∧ ∃ m, s0.io.clk ≤ m ∧ s.io.clk = m + 1 ∧ (w.read m).2 = ret

theorem dmaReadPair_post {put : (Nat → UInt8) → Io → Io} (hput : ∀ bytes, KeepsClock (put bytes)) :
    Triple (Taken w s0) (dmaReadPair w put) (Transferred w s0) (ReadError w s0) := by
  intro s hs
  obtain ⟨hclk, hhandled⟩ := hput (w.read s.io.clk).1 { s.io with clk := s.io.clk + 1 }
  have hle : s.io.clk ≤ (put (w.read s.io.clk).1 { s.io with clk := s.io.clk + 1 }).clk := by
    rw [hclk]; exact Nat.le_succ _
  exact ⟨hs.advance hle hhandled rfl rfl, s.io.clk, hs.clk, hclk, rfl⟩

theorem checkTransport_post (ret : Option Errno) :
    Triple (Transferred w s0 ret) (checkTransport ret) (fun _ => Taken w s0) (ReadError w s0) := by
  cases ret with
  | none => exact fun s hs => hs.1
  | some e =>
    intro s hs
    obtain ⟨ht, m, hm, hclk, hread⟩ := hs
    exact ⟨⟨ht.clk, ht.stopping, Nat.le_succ_of_le ht.errors⟩, fun he => Or.inr
      ⟨Nat.lt_succ_of_le ht.errors, m, hm, hclk, by rw [hread, he]⟩⟩

theorem taken_error {e : Errno} (he : e ≠ .EAGAIN) (s : Ts) (hs : Taken w s0 s) :
    ReadError w s0 e s :=
  ⟨hs.toSince, fun h => absurd h he⟩

/-- After `ready_quiesce` has found the line deasserted nothing is left: the
edges were taken before the header. -/
theorem invalidHeader_post (c : Config) (hc : Coherent w) :
    Triple (Taken w s0) (invalidHeader c w) (fun _ => Taken w s0) (ReadError w s0) := by
  intro s hs
  obtain ⟨value, hv⟩ := hc.gpio s.io.clk
  have hle : s.io.clk ≤ s.io.clk + 1 + 1 := by omega
  have hfault : ∀ t : Ts, s.io.clk ≤ t.io.clk →
    t.io.handledInterruptEdges = s.io.handledInterruptEdges →
      t.stopping = s.stopping → t.transportErrors = s.transportErrors → ReadError w s0 .EPROTO t :=
    fun t h1 h2 h3 h4 => taken_error (by decide) t (hs.advance h1 h2 h3 h4)
  cases hq : c.p.readyQuiesce with
  | false =>
    simp only [invalidHeader, pending, ask, onlyIf, Proc.bind_apply, throw_apply, hq,
      Bool.false_eq_true, if_false]
    exact hfault _ (Nat.le_succ _) rfl rfl rfl
  | true =>
    cases value with
    | true =>
      simp only [invalidHeader, pending, ask, onlyIf, Proc.bind_apply, Proc.pure_apply, throw_apply,
        hq, hv, if_true]
      exact hfault _ hle rfl rfl rfl
    | false =>
      simp only [invalidHeader, pending, ask, modifyIo, onlyIf, Proc.bind_apply, modify_apply,
        throw_apply, hq, hv,
        if_true]
      obtain ⟨m, hm, hmt, he⟩ := hs.edges
      exact ⟨⟨Nat.le_succ_of_le hs.clk, hs.stopping, hs.errors⟩, fun _ => Or.inl
        ⟨⟨s.io.clk, hs.clk, Nat.lt_succ_self _, hv⟩,
        ⟨m, hm, Nat.lt_succ_of_lt hmt, Nat.le_of_eq he.symm⟩⟩⟩

theorem readHeader_post (c : Config) (hc : Coherent w) :
    Triple (Taken w s0) (readHeader c w) (fun _ => Taken w s0) (ReadError w s0) :=
  Triple.bind (dmaReadPair_post fun _ _ => ⟨rfl, rfl⟩) fun ret =>
    Triple.bind (checkTransport_post ret) fun _ =>
    Triple.bind (Triple.gets _ fun _ hs => hs) fun _ =>
      Triple.ite (fun _ => Triple.pure () fun _ hs => hs) fun _ => invalidHeader_post c hc

theorem readBody_post (len : Nat) :
    Triple (Taken w s0) (readBody w len) (fun _ => Taken w s0) (ReadError w s0) :=
  Triple.bind (Triple.errorIf _ _ (fun s _ hs => taken_error (by decide) s hs) fun _ _ hs => hs)
    fun _ =>
    Triple.bind (dmaReadPair_post fun _ _ => ⟨rfl, rfl⟩) fun ret =>
      Triple.bind (checkTransport_post ret) fun _ =>
      Triple.bind (modifyIo_taken fun _ => ⟨rfl, rfl⟩) fun _ =>
        Triple.bind (Triple.gets _ fun _ hs => hs) fun _ =>
          Triple.errorIf _ _ (fun s _ hs => taken_error (by decide) s hs) fun _ _ hs => hs

theorem noteDescriptor_clk : KeepsClock noteDescriptor := by
  intro io
  unfold noteDescriptor
  split <;> exact ⟨rfl, rfl⟩

theorem dmaReadResponse_post (c : Config) (hc : Coherent w) :
    Triple (Since s0) (dmaReadResponse c w) (fun _ => Since s0) (ReadError w s0) := by
  refine Triple.bind (modifyIo_since fun _ => ⟨rfl, rfl⟩) fun _ =>
    Triple.bind (takeEdges_post hc) fun _ => Triple.bind (readHeader_post c hc) fun _ =>
      Triple.bind (Triple.gets _ fun _ hs => hs) fun len =>
        Triple.bind (readBody_post len) fun _ => ?_
  refine Triple.bind (modifyIo_taken noteDescriptor_clk) fun _ =>
    Triple.bind (Triple.gets _ fun _ hs => hs.toSince)
    fun _ => Triple.onlyIf (fun _ => Triple.modify _ fun s hs => ?_) fun _ _ hs => hs
  obtain ⟨_, _, _, _, he⟩ := handleDataReport_frame c s
  rw [he]
  exact ⟨hs.clk, hs.stopping, hs.errors⟩

/-! ## The exits of the loop -/

theorem hasUnreadResponse_post (hc : Coherent w) {s : Ts} (hs : Since s0 s) :
    ∃ t unread, hasUnreadResponse w s = (t, .ok unread) ∧ Since s0 t ∧
    (unread = false → Quiet w s0.io.clk t) := by
  obtain ⟨value, hv⟩ := hc.gpio s.io.clk
  have hclk : s0.io.clk ≤ s.io.clk + 1 := Nat.le_succ_of_le hs.clk
  cases value with
  | true =>
    refine ⟨{ s with io.clk := s.io.clk + 1 }, true, ?_, ⟨hclk, hs.stopping, hs.errors⟩,
      fun h => by cases h⟩
    simp only [hasUnreadResponse, pending, ask, Proc.bind_apply, Proc.pure_apply, hv]
  | false =>
    refine ⟨{ s with io.clk := s.io.clk + 1 + 1 },
      decide (w.edges (s.io.clk + 1) > s.io.handledInterruptEdges), ?_,
      ⟨Nat.le_succ_of_le hclk, hs.stopping, hs.errors⟩, fun h => ?_⟩
    · simp only [hasUnreadResponse, pending, newEdges, ask, getsIo, Proc.bind_apply,
        Proc.pure_apply, gets_apply, hv]
    · have hle : w.edges (s.io.clk + 1) ≤ s.io.handledInterruptEdges :=
        Nat.le_of_not_lt (of_decide_eq_false h)
      exact ⟨⟨s.io.clk, hs.clk, by simp only; omega, hv⟩,
        ⟨s.io.clk + 1, hclk, Nat.lt_succ_self _, hle⟩⟩

theorem scheduleRecovery_recovering {s : Ts} (hm : s.modeEnabled = false)
    (hs : s.stopping = false) :
    Recovering (scheduleRecovery s) := by
  rw [scheduleRecovery_eq]
  exact ⟨by simp [hs], hm⟩

theorem noteHostFault_recovering {c : Config} (hf : c.p.hostFaultRecovery = true) (e : Errno)
    {s : Ts}
    (hs : s.stopping = false) : Recovering (noteHostFault c e s) := by
  obtain ⟨_, he⟩ := countFault_frame e s
  unfold noteHostFault
  simp only [hf, if_true, he]
  exact scheduleRecovery_recovering rfl hs

theorem notePanelReset_recovering (c : Config) (w : World) {s : Ts} (hs : s.stopping = false) :
    Recovering (notePanelReset c w true s) := by
  obtain ⟨_, _, _, he, _⟩ := notePanelReset_frame c w s
  rw [notePanelReset_true, he]
  exact scheduleRecovery_recovering rfl hs

/-- What is known at each exit. -/
def DrainPost (c : Config) (w : World) (s0 t : Ts) : DrainExit → Prop
  | .empty => Quiet w s0.io.clk t
  | .again => Quiet w s0.io.clk t ∨ ReadAgain w s0 t
  | .fault _ => Recovering t
  | .reset => Recovering t
  | .single => c.p.windowsReadCadence = true
  | .full => Since s0 t

theorem post_drainRule {c : Config} (hc : Coherent w) (hf : c.p.hostFaultRecovery = true) :
    DrainRule c w (Since s0) (ReadError w s0) (fun exit t => DrainPost c w s0 t exit) where
  unread s hs := by
    obtain ⟨t, unread, hu, ht, hquiet⟩ := hasUnreadResponse_post hc hs
    rw [hu]
    exact ⟨fun _ => ht, hquiet⟩
  read := dmaReadResponse_post c hc
  again _ hs := hs.again rfl
  fault e _ _ hs := noteHostFault_recovering hf e hs.stopping
  reset _ hs := notePanelReset_recovering c w hs.stopping
  single _ hcad _ := hcad

theorem irqSection_post {c : Config} (hc : Coherent w) (hf : c.p.hostFaultRecovery = true) {s : Ts}
    (hs : s.stopping = false) :
    Quiet w s.io.clk (irqSection c w s).1 ∨ Recovering (irqSection c w s).1 ∨
      (c.p.windowsReadCadence = true ∧ (irqSection c w s).2 = .single) ∨
      ((irqSection c w s).2 = .again ∧ ReadAgain w s (irqSection c w s).1) := by
  have h0 : Since s s := ⟨Nat.le_refl _, hs, Nat.le_refl _⟩
  rcases (post_drainRule hc hf).irqSection h0 with ⟨exit, hpost, hexit⟩ | ⟨_, t, ht, heq⟩
  · cases exit with
    | empty => exact Or.inl hpost
    | again =>
      rcases hexit with ⟨hempty, _⟩ | ⟨_, hagain⟩
      · cases hempty
      · exact hpost.elim Or.inl fun ha => Or.inr (Or.inr (Or.inr ⟨hagain.symm, ha⟩))
    | fault e => exact Or.inr (Or.inl hpost)
    | reset => exact Or.inr (Or.inl hpost)
    | single =>
      rcases hexit with ⟨hempty, _⟩ | ⟨_, hsingle⟩
      · cases hempty
      · exact Or.inr (Or.inr (Or.inl ⟨hpost, hsingle.symm⟩))
    | full =>
      rcases hexit with ⟨hempty, _⟩ | ⟨hfull, _⟩
      · cases hempty
      · exact absurd rfl hfull
  · rw [heq]
    exact Or.inr (Or.inl (noteHostFault_recovering hf _ ht.stopping))

/-! ## Every return -/

/-- Nothing unread, or a later edge latched, or recovery on its way. -/
def Settled (w : World) (start : Nat) (t : Ts) : Prop :=
  unread w t = false ∨ laterEdge w start t ∨ Recovering t

/-- With `host_fault_recovery` the IRQ thread returns with the stream
settled, unless `windows_read_cadence` ended it after one response or its last
transfer returned `-EAGAIN`. -/
theorem drain_settles (c : Config) (w : World) (hc : Coherent w) (hf : c.p.hostFaultRecovery = true)
    (s : Ts)
    (hs : s.stopping = false) :
    Settled w s.io.clk (irqSection c w s).1 ∨
      (c.p.windowsReadCadence = true ∧ (irqSection c w s).2 = .single) ∨
      ((irqSection c w s).2 = .again ∧ ReadAgain w s (irqSection c w s).1) := by
  rcases irqSection_post hc hf hs with h | h | h | h
  · exact Or.inl ((h.unread hc).elim Or.inl fun he => Or.inr (Or.inl he))
  · exact Or.inl (Or.inr (Or.inr h))
  · exact Or.inr (Or.inl h)
  · exact Or.inr (Or.inr h)

/-- The line stays asserted, and no edge comes. -/
def Asserted (w : World) : Prop := (∀ n, w.gpio n = .ok true) ∧ ∀ n, w.edges n = 0

theorem Asserted.coherent (h : Asserted w) : Coherent w where
  gpio n := ⟨true, h.1 n⟩
  edges m n _ := by rw [h.2, h.2]
  falling m _ _ hm _ := by rw [h.1] at hm; cases hm

theorem Asserted.not_settled (h : Asserted w) {t : Ts} (hp : t.workPending = false) :
    ¬ Settled w start t := by
  intro hcase
  rcases hcase with hu | he | hr
  · simp [unread, h.1] at hu
  · simp [laterEdge, h.2] at he
  · exact Bool.false_ne_true (hp.symm.trans hr.1)

/-- Host faults are recovered. -/
def faultConfig : Config := ⟨{ hostFaultRecovery := true, modeConfigFix := false }, rfl, true, 4⟩

/-- After the start-up an invalid header closes input, and recovery is on its way. -/
theorem drain_settles_invalid_header : ∃ s, (driver faultConfig).Run probed
    [boot, .leave, .irqEnter] s ∧
    s.ts.modeEnabled = true ∧ (irqSection faultConfig (panel [] 0) s.ts).2 = .fault .EPROTO ∧
    (Settled (panel [] 0) s.ts.io.clk (irqSection faultConfig (panel [] 0) s.ts).1 ∨
      (faultConfig.p.windowsReadCadence = true ∧
      (irqSection faultConfig (panel [] 0) s.ts).2 = .single) ∨
      ((irqSection faultConfig (panel [] 0) s.ts).2 = .again ∧
        ReadAgain (panel [] 0) s.ts (irqSection faultConfig (panel [] 0) s.ts).1)) := by
  have hrun : (LTS.exec (threadStep faultConfig) (fun _ _ => True) probed
    [boot, .leave, .irqEnter]).any (fun s =>
      s.ts.modeEnabled && !s.ts.stopping &&
        decide ((irqSection faultConfig (panel [] 0) s.ts).2 = .fault .EPROTO)) = true := by
    decide +kernel
  obtain ⟨s, hs, hp⟩ := (Option.any_eq_true _ _).mp hrun
  simp only [Bool.and_eq_true, Bool.not_eq_true', decide_eq_true_eq] at hp
  have hc : Coherent (panel [] 0) := Asserted.coherent ⟨fun _ => rfl, fun _ => rfl⟩
  exact ⟨s, LTS.run_of_exec hs, hp.1.1, hp.2,
    drain_settles faultConfig (panel [] 0) hc rfl s.ts hp.1.2⟩

/-- The whole Windows start-up, with input, and its response cadence. -/
def cadenceConfig : Config := ⟨{
    hostFaultRecovery := true
    windowsInitParity := true
    windowsReadCadence := true
    parityDisplayBitmap := 1
    parityStitchingFlag := 0
    parityHingeAngle := 0
    parityFastHostId := 0
    parityReport56IdentityCount := 6
    parityReport56Flag := 0
    parityCfuInventory := true
    parityCfuOffer := fun i => sp11CfuOffer.getD i 0
    parityCfuOfferCount := 16
    parityHeatInput := true }, rfl, true, 4⟩

/-- The panel accepts an information exchange of the inventory. -/
def infoAccept : Response :=
  ⟨classData, 0x65, 16, [0, 0, 0, 0xa0, 0, 0, 0, 0, 0xff, 0, 0, 0, 1, 0, 0, 0]⟩

/-- The answers up to feedback A1. -/
def coldAttach : List Response := resetResponse :: startup.take 2 ++ [
  ⟨classGetFeatureResponse, 0x73, 2, [0xfe, 0xff]⟩,
  ⟨classGetFeatureResponse, 0x06, 119, []⟩,
  ⟨classData, 0xa0, 1, [1]⟩]

/-- The answers after feedback A5, which has none. -/
def inventory : List Response := [
  ⟨classSetFeatureResponse, 0x05, 0, []⟩,
  ⟨classGetFeatureResponse, 0x70, 1, [2]⟩,
  ⟨classSetFeatureResponse, 0x70, 0, []⟩,
  ⟨classSetFeatureResponse, 0x56, 0, []⟩,
  ⟨classGetFeatureResponse, 0x60, 60, [1, 0, 0, 4, 0x89, 0x14, 0, 0x3f, 0, 0x12]⟩,
  infoAccept, infoAccept,
  ⟨classData, 0x65, 16, [0, 0, 0, 0xa0, 0, 0, 0, 0, 0, 0, 0, 0, 2, 0, 0, 0]⟩,
  infoAccept,
  ⟨classGetFeatureResponse, 0x73, 2, []⟩]

def cadenceBoot : Label := .work { panel [] 0 with
  read := fun t => if t < 42 then (panel coldAttach 0).read t else (panel inventory 43).read t }

def touchReport : Response := ⟨classData, 0x40, 5, [1]⟩

/-- The transfers return `-EAGAIN`. -/
def busyBus : World := { panel [] 0 with read := fun _ => (fun _ => 0, some Errno.EAGAIN) }

/-- In `w`, after the steps `ls`, the IRQ thread leaves the stream unsettled. -/
def Strands (c : Config) (w : World) (ls : List Label) : Prop :=
  c.p.hostFaultRecovery = true ∧ Coherent w ∧ ∃ s, (driver c).Run probed ls s ∧
    s.irqEntered = true ∧
    s.ts.stopping = false ∧ ¬ Settled w s.ts.io.clk (irqSection c w s.ts).1

theorem strands_of_exec {c : Config} {ls : List Label} (hc : c.p.hostFaultRecovery = true)
    (h : Asserted w)
    (hrun : (LTS.exec (threadStep c) (fun _ _ => True) probed ls).any (fun s =>
      s.irqEntered && !s.ts.stopping && !(irqSection c w s.ts).1.workPending) =
        true) : Strands c w ls := by
  obtain ⟨s, hs, hp⟩ := (Option.any_eq_true _ _).mp hrun
  simp only [Bool.and_eq_true, Bool.not_eq_true'] at hp
  exact ⟨hc, h.coherent, s, LTS.run_of_exec hs, hp.1.1, hp.1.2, h.not_settled hp.2⟩

/-- **Counterexample**: the panel advertises more than the one response that
the cadence serves, or the bus is busy. -/
theorem cadence_strands :
    Strands cadenceConfig (panel [touchReport] 111) [cadenceBoot, .leave, .irqEnter] ∧
      Strands faultConfig busyBus [boot, .leave, .irqEnter] := by
  constructor
  · exact strands_of_exec rfl ⟨fun _ => rfl, fun _ => rfl⟩ (by decide +kernel)
  · exact strands_of_exec rfl ⟨fun _ => rfl, fun _ => rfl⟩ (by decide +kernel)

end Sp11Touch.Driver
