import Sp11Touch.L1Encoding.HeatAccept
import Sp11Touch.L3Driver.StaleBody
/-!
# Only the response just read

A body transfer has between 4 and 8192 bytes and writes no others; a failed
read leaves nothing but the bookkeeping of the transfer (`Discarded`). With
the two-run results of the procedures, the sections of both threads and so
every run are the same from any two contents of the buffer
(`response_only`).
-/
namespace Sp11Touch

/-- The threads with another body buffer. -/
def Driver.Threads.withBody (b : Nat → UInt8) (s : Driver.Threads) : Driver.Threads :=
  { s with ts := s.ts.withBody b }

/-- The bookkeeping of a transfer and the transport latch; nothing else differs. -/
def Discarded (s t : Ts) : Prop := ∃ clk body header cls len id edges quiesced fatal errors, t =
    { s with
  io := { s.io with
    clk := clk
    body := body
    lastHeader := header
    lastClass := cls
    lastContentLen := len
    lastContentId := id
    handledInterruptEdges := edges
    quiescedEmptyReads := quiesced }
  fatalTransportError := fatal
  transportErrors := errors }

theorem Discarded.trans {s t u : Ts} (h : Discarded s t) (h' : Discarded t u) : Discarded s u := by
  obtain ⟨_, _, _, _, _, _, _, _, _, _, rfl⟩ := h
  obtain ⟨_, _, _, _, _, _, _, _, _, _, rfl⟩ := h'
  exact ⟨_, _, _, _, _, _, _, _, _, _, rfl⟩

theorem discarded_latch (t : Ts) : Discarded t t.latch := ⟨_, _, _, _, _, _, _, _, _, _, rfl⟩

namespace Driver
open Proc

/-! ## One read -/

/-- The body was transferred at tick `k`: as many bytes as the header says, from 4 to 8192. -/
structure Transfer (w : World) (s t : Ts) (k : Nat) : Prop where
  atLeast : hidspiInputBodyHeaderSize ≤ bodyLen t.io
  atMost : bodyLen t.io ≤ maxBody
  bytes : ∀ i, t.io.body i = if i < bodyLen t.io then (w.read k).1 i else s.io.body i

/-- A response is handed on. -/
structure ResponseRead (w : World) (s t : Ts) : Prop where
  body : ∃ k, Transfer w s t k ∧ (w.read k).2 = none
  content : hidspiInputBodyHeaderSize + t.io.lastContentLen ≤ bodyLen t.io

/-- No response is handed on: the body is as before or was transferred, and nothing is done with it. -/
structure ReadFailed (w : World) (s t : Ts) : Prop where
  discarded : Discarded s t
  body : t.io.body = s.io.body ∨ ∃ k, Transfer w s t k

section
variable {c : Config} {w : World} {s : Ts}

/-- Before the body is transferred. -/
def Headed (s t : Ts) : Prop := Discarded s t ∧ t.io.body = s.io.body

theorem Headed.failed {t : Ts} (h : Headed s t) : ReadFailed w s t := ⟨h.1, Or.inl h.2⟩

theorem Headed.refl (t : Ts) : Headed t t := ⟨⟨_, _, _, _, _, _, _, _, _, _, rfl⟩, rfl⟩

/-- A write to the bookkeeping alone. -/
theorem modify_headed {f : Ts → Ts} (hf : ∀ t, Headed t (f t)) : Keeps (Headed s)
    (modify f : TsProc Unit) := by
  refine Keeps.modify fun t ht => ?_
  obtain ⟨hd, hbody⟩ := hf t
  exact ⟨ht.1.trans hd, hbody.trans ht.2⟩

theorem ask_headed {α : Type} (f : Nat → α) : Keeps (Headed s) (ask f) := by
  refine Keeps.of_state fun t ht => ?_
  exact ⟨ht.1.trans ⟨_, _, _, _, _, _, _, _, _, _, rfl⟩, ht.2⟩

theorem clearLastResponse_headed : Keeps (Headed s) clearLastResponse :=
  modify_headed fun _ => ⟨⟨_, _, _, _, _, _, _, _, _, _, rfl⟩, rfl⟩

theorem takeEdges_headed : Keeps (Headed s) (takeEdges w) := by
  refine Keeps.bind (ask_headed _) fun _ => Keeps.bind (ask_headed _) fun edges =>
    Keeps.bind (Keeps.gets _) fun _ =>
    Keeps.bind (Steady.nothingPending _ _) fun _ => modify_headed fun _ => ?_
  exact ⟨⟨_, _, _, _, _, _, edges, _, _, _, rfl⟩, rfl⟩

theorem checkTransport_headed (ret : Option Errno) : Keeps (Headed s) (checkTransport ret) := by
  cases ret with
  | none => exact Keeps.pure ()
  | some e => exact Keeps.bind (modify_headed fun t => ⟨discarded_latch t, rfl⟩) fun _ => Keeps.throw e

theorem invalidHeader_headed : Keeps (Headed s) (invalidHeader c w) := by
  refine Keeps.bind (Keeps.onlyIf (Keeps.bind (ask_headed _) fun value => ?_)) fun _ =>
    Keeps.bind (ask_headed _) fun _ => Keeps.throw _
  cases value with
  | error e => exact Keeps.throw e
  | ok b => cases b with
    | true => exact Keeps.pure _
    | false =>
      refine Keeps.bind (modify_headed fun t => ?_) fun _ => Keeps.throw _
      exact ⟨⟨_, _, _, _, _, _, _, _, _, _, rfl⟩, rfl⟩

theorem readHeader_headed : Keeps (Headed s) (readHeader c w) := by
  refine Keeps.bind (Keeps.bind (ask_headed _) fun _ =>
    Keeps.bind (modify_headed fun t => ?_) fun _ => Keeps.pure _)
    fun _ => Keeps.bind (checkTransport_headed _) fun _ => Keeps.bind (Keeps.gets _) fun _ =>
      Keeps.ite (Keeps.pure _) invalidHeader_headed
  exact ⟨⟨_, _, _, _, _, _, _, _, _, _, rfl⟩, rfl⟩

/-- The transfer itself, with the status it returns. -/
def Carried (w : World) (s : Ts) (len : Nat) (ret : Option Errno) (t : Ts) : Prop :=
  Discarded s t ∧ len = bodyLen t.io ∧ ∃ k, Transfer w s t k ∧ (w.read k).2 = ret

theorem Carried.failed {len : Nat} {ret : Option Errno} {t : Ts} (h : Carried w s len ret t) :
    ReadFailed w s t := by
  obtain ⟨hd, _, k, hk, _⟩ := h
  exact ⟨hd, Or.inr ⟨k, hk⟩⟩

theorem bodyLen_of_header {t u : Ts} (h : u.io.lastHeader = t.io.lastHeader) :
    bodyLen u.io = bodyLen t.io := by
  unfold bodyLen
  rw [h]

/-- A transfer is seen in the header and the body. -/
theorem Transfer.of_io {t u : Ts} {k : Nat} (h : Transfer w s t k)
    (hheader : u.io.lastHeader = t.io.lastHeader)
    (hbody : u.io.body = t.io.body) : Transfer w s u k := by
  have heq := bodyLen_of_header hheader
  refine ⟨by rw [heq]; exact h.atLeast, by rw [heq]; exact h.atMost, fun i => ?_⟩
  rw [hbody, heq]
  exact h.bytes i

theorem Carried.of_io {len : Nat} {ret : Option Errno} {t u : Ts} (h : Carried w s len ret t)
    (hd : Discarded t u)
    (hheader : u.io.lastHeader = t.io.lastHeader) (hbody : u.io.body = t.io.body) :
      Carried w s len ret u := by
  obtain ⟨hs, hlen, k, hk, hret⟩ := h
  exact ⟨hs.trans hd, hlen.trans (bodyLen_of_header hheader).symm, k, hk.of_io hheader hbody, hret⟩

theorem dmaReadPair_carried {len : Nat} (h4 : hidspiInputBodyHeaderSize ≤ len)
    (hmax : len ≤ maxBody) :
    Triple (fun t => Headed s t ∧ len = bodyLen t.io) (dmaReadPair w fun bytes io =>
      { io with body := fun i => if i < len then bytes i else io.body i }) (Carried w s len)
        (fun _ => ReadFailed w s) := by
  intro t ht
  obtain ⟨⟨⟨clk, body, header, cls, n, id, edges, quiesced, fatal, errors, rfl⟩, hbody⟩, hlen⟩ := ht
  refine ⟨⟨_, _, _, _, _, _, _, _, _, _, rfl⟩, hlen, clk, ⟨?_, ?_, fun i => ?_⟩, rfl⟩
  · exact hlen ▸ h4
  · exact hlen ▸ hmax
  · have hbody : body = s.io.body := hbody
    show (if i < len then (w.read clk).1 i else body i) = if i < bodyLen _ then (w.read clk).1 i
      else s.io.body i
    rw [hbody, hlen]
    rfl

theorem readBody_read (len : Nat) : Triple (fun t => Headed s t ∧ len = bodyLen t.io)
    (readBody w len)
    (fun _ => ResponseRead w s) (fun _ => ReadFailed w s) := by
  refine Triple.bind_errorIf (fun _ _ h => h.1.failed) fun hb => ?_
  simp only [Bool.or_eq_false_iff, decide_eq_false_iff_not, Nat.not_lt] at hb
  refine Triple.bind (dmaReadPair_carried hb.1 hb.2) fun ret =>
    Triple.bind (R := fun _ => Carried w s len none) ?_ fun _ =>
      Triple.bind (R := fun _ => Carried w s len none) (Triple.modify _ fun t h => ?_) fun _ =>
        Triple.bind (R := fun n (t : Ts) => Carried w s len none t ∧ n = t.io.lastContentLen)
          (Triple.gets _ fun _ h => ⟨h, rfl⟩) fun n =>
          Triple.errorIf _ _ (fun _ _ h => h.1.failed) fun t hn h => ?_
  · cases ret with
    | none => exact Triple.pure () fun _ h => h
    | some e =>
      refine Triple.bind (R := fun _ => ReadFailed w s) (Triple.modify _ fun t h => ?_) fun _ =>
        Triple.throw _ fun _ h => h
      exact (h.of_io (discarded_latch t) rfl rfl).failed
  · exact h.of_io ⟨_, _, _, _, _, _, _, _, _, _, rfl⟩ rfl rfl
  · obtain ⟨⟨_, hlen, k, hk, hret⟩, rfl⟩ := h
    refine ⟨⟨k, hk, hret⟩, ?_⟩
    simp only [decide_eq_false_iff_not, Nat.not_lt] at hn
    omega

theorem ResponseRead.of_io {t u : Ts} (h : ResponseRead w s t)
    (hheader : u.io.lastHeader = t.io.lastHeader)
    (hbody : u.io.body = t.io.body) (hlen : u.io.lastContentLen = t.io.lastContentLen) :
      ResponseRead w s u := by
  obtain ⟨⟨k, hk, hret⟩, hcontent⟩ := h
  refine ⟨⟨k, hk.of_io hheader hbody, hret⟩, ?_⟩
  rw [bodyLen_of_header hheader, hlen]
  exact hcontent

theorem dmaReadResponse_read (c : Config) (w : World) (s : Ts) :
    Triple (fun t => t = s) (dmaReadResponse c w) (fun _ => ResponseRead w s)
    (fun _ => ReadFailed w s) := by
  have hkeeps : ∀ {α : Type} {p : TsProc α}, Keeps (Headed s) p →
    Triple (Headed s) p (fun _ => Headed s) (fun _ => ReadFailed w s) :=
    fun hp => Triple.conseq hp (fun _ h => h) (fun _ _ h => h) fun _ _ h => h.failed
  refine Triple.bind (Triple.conseq (hkeeps clearLastResponse_headed) (fun t h => ?_)
    (fun _ _ h => h) fun _ _ h => h) fun _ =>
    Triple.bind (hkeeps takeEdges_headed) fun _ => Triple.bind (hkeeps readHeader_headed) fun _ =>
      Triple.bind (R := fun len (t : Ts) => Headed s t ∧ len = bodyLen t.io)
        (Triple.gets _ fun _ h => ⟨h, rfl⟩) fun len =>
        Triple.bind (readBody_read len) fun _ => Triple.bind (R := fun _ => ResponseRead w s)
          (Triple.modify _ fun t h => ?_) fun _ =>
          Triple.bind (R := fun _ => ResponseRead w s) (Triple.gets _ fun _ h => h) fun _ =>
            Triple.onlyIf (fun _ => Triple.modify _ fun t h => ?_) fun _ _ h => h
  · subst h
    exact Headed.refl t
  · have hnote : (noteDescriptor t.io).lastHeader = t.io.lastHeader ∧
      (noteDescriptor t.io).body = t.io.body ∧
        (noteDescriptor t.io).lastContentLen = t.io.lastContentLen := by
      unfold noteDescriptor
      split <;> exact ⟨rfl, rfl, rfl⟩
    exact h.of_io hnote.1 hnote.2.1 hnote.2.2
  · obtain ⟨_, _, _, _, heq⟩ := handleDataReport_frame c t
    rw [heq]
    exact h.of_io rfl rfl rfl

/-! ## The sections -/

theorem held_withBody (b : Nat → UInt8) (s : Ts) : Held 0 s (s.withBody b) :=
  ⟨b, rfl, fun i hi => absurd hi (Nat.not_lt_zero i)⟩

theorem scheduleRecovery_withBody (b : Nat → UInt8) (s : Ts) :
    scheduleRecovery (s.withBody b) = (scheduleRecovery s).withBody b := by
  rw [scheduleRecovery_eq, scheduleRecovery_eq]
  rfl

/-- A failed read is counted by its error. -/
theorem noteHostFault_withBody (e : Errno) (b : Nat → UInt8) (s : Ts) :
    noteHostFault c e (s.withBody b) = (noteHostFault c e s).withBody b := by
  have hcount : countFault e (s.withBody b) = (countFault e s).withBody b := by
    unfold countFault
    simp only
    split <;> rfl
  unfold noteHostFault
  rw [hcount]
  cases c.p.hostFaultRecovery with
  | true => exact scheduleRecovery_withBody b (Ts.note .hostFault (closeForFault (countFault e s)).releaseContacts)
  | false => rfl

/-- The same exit, from and to any two buffers. -/
def SameExit {α : Type} (f : Ts → Ts × α) : Prop := ∀ s t, Held 0 s t → Held 0 (f s).1 (f t).1 ∧
    (f t).2 = (f s).2

theorem afterResponse_same : SameExit (afterResponse c w) := by
  intro s t h
  obtain ⟨b, rfl, _⟩ := h
  have hclass : (s.withBody b).io.lastClass = s.io.lastClass := rfl
  unfold afterResponse
  rw [hclass, notePanelReset_withBody]
  split
  · exact ⟨held_withBody b _, rfl⟩
  split <;> exact ⟨held_withBody b _, rfl⟩

theorem drainTurn_same : SameExit (drainTurn c w) := by
  intro s t h
  obtain ⟨b, rfl, _⟩ := h
  unfold drainTurn
  rw [BodyBlind.hasUnreadResponse b s]
  cases hasUnreadResponse w s with
  | mk u r => cases r with
    | error e => exact ⟨held_withBody b u, rfl⟩
    | ok unread => cases unread with
      | false => exact ⟨held_withBody b u, rfl⟩
      | true =>
        have hread := dmaReadResponse_twins (c := c) (w := w) u (u.withBody b) (held_withBody b u)
        simp only
        revert hread
        cases dmaReadResponse c w u with
        | mk v r => cases dmaReadResponse c w (u.withBody b) with
          | mk v' r' =>
            intro hread
            obtain ⟨heq, hok, herr⟩ := hread
            have heq : r = r' := heq
            subst heq
            cases r with
            | ok _ => exact afterResponse_same v v' (hok () rfl).none
            | error e =>
              obtain ⟨b', rfl, _⟩ := herr e rfl
              by_cases he : e = .EAGAIN
              · subst he
                exact ⟨held_withBody b' v, rfl⟩
              · have hfault : Held 0 (noteHostFault c e v) (noteHostFault c e (v.withBody b')) := by
                  rw [noteHostFault_withBody]
                  exact held_withBody b' _
                cases e <;> first | exact absurd rfl he | exact ⟨hfault, rfl⟩

/-- By induction on the turns. -/
theorem drainLoop_same : ∀ n, SameExit (drainLoop c w n)
  | 0 => fun _ _ h => ⟨h, rfl⟩
  | n + 1 => by
    intro s t h
    have hturn := drainTurn_same (c := c) (w := w) s t h
    unfold drainLoop
    revert hturn
    cases drainTurn c w s with
    | mk u r => cases drainTurn c w t with
      | mk u' r' =>
        intro hturn
        obtain ⟨hheld, heq⟩ := hturn
        have heq : r' = r := heq
        subst heq
        cases r' with
        | some exit => exact ⟨hheld, rfl⟩
        | none => exact drainLoop_same n u u' hheld

theorem drainOverflow_held {s t : Ts} (h : Held 0 s t) : Held 0 (drainOverflow c w s)
    (drainOverflow c w t) := by
  obtain ⟨b, rfl, _⟩ := h
  unfold drainOverflow
  rw [BodyBlind.hasUnreadResponse b s]
  cases hasUnreadResponse w s with
  | mk u r => cases r with
    | error e => exact held_withBody b u
    | ok unread => cases unread with
      | false => exact held_withBody b u
      | true =>
        refine ⟨b, ?_, fun i hi => absurd hi (Nat.not_lt_zero i)⟩
        exact noteHostFault_withBody .EOVERFLOW b
          { u with stats.irqDrainOverflows := u.stats.irqDrainOverflows + 1 }

theorem irqSection_same : SameExit (irqSection c w) := by
  intro s t h
  have hloop := drainLoop_same (c := c) (w := w) irqDrainLimit s t h
  unfold irqSection
  revert hloop
  cases drainLoop c w irqDrainLimit s with
  | mk u exit => cases drainLoop c w irqDrainLimit t with
    | mk u' exit' =>
      intro hloop
      obtain ⟨hheld, heq⟩ := hloop
      have heq : exit' = exit := heq
      subst heq
      cases exit' with
      | full => exact ⟨drainOverflow_held hheld, rfl⟩
      | _ => exact ⟨hheld, rfl⟩

theorem attemptFailed_same (path : RecoveryPath) : SameExit (attemptFailed path) := by
  intro s t h
  obtain ⟨b, rfl, _⟩ := h
  have hfatal : (countFailure (s.withBody b)).fatalTransportError =
    (countFailure s).fatalTransportError := rfl
  unfold attemptFailed
  simp only [hfatal]
  split
  · exact ⟨held_withBody b _, rfl⟩
  · exact ⟨held_withBody b _, rfl⟩

theorem recoverySection_same : SameExit (recoverySection c w) := by
  intro s t h
  obtain ⟨b, rfl, _⟩ := h
  have hinit := fullReinitializeLocked_reads (c := c) (w := w) s.recoveryPath (beginAttempt s)
    (beginAttempt (s.withBody b))
    (held_withBody b (beginAttempt s))
  have hpath : (s.withBody b).recoveryPath = s.recoveryPath := rfl
  have hstopping : (s.withBody b).stopping = s.stopping := rfl
  unfold recoverySection attempt
  rw [hpath, hstopping]
  split
  · exact ⟨held_withBody b s, rfl⟩
  revert hinit
  cases fullReinitializeLocked c w s.recoveryPath (beginAttempt s) with
  | mk u r => cases fullReinitializeLocked c w s.recoveryPath (beginAttempt (s.withBody b)) with
    | mk u' r' =>
      intro hinit
      obtain ⟨heq, hok, herr⟩ := hinit
      have heq : r = r' := heq
      subst heq
      cases r with
      | ok _ =>
        obtain ⟨b', rfl, _⟩ := hok () rfl
        exact ⟨held_withBody b' _, rfl⟩
      | error e =>
        obtain ⟨hheld, hretry⟩ := attemptFailed_same s.recoveryPath u u' (herr e rfl)
        exact ⟨hheld, congrArg Outcome.failure hretry⟩

/-! ## Runs -/

/-- A step from another buffer. -/
theorem threadStep_withBody {s s' : Threads} {l : Label} (b : Nat → UInt8)
    (h : threadStep c s l = some s') :
    ∃ b', threadStep c (s.withBody b) l = some (s'.withBody b') := by
  cases l with
  | irqEnter =>
    obtain ⟨hif, h⟩ := Option.ite_none_right_eq_some.mp h
    cases h
    exact ⟨b, if_pos hif⟩
  | irq w =>
    obtain ⟨hif, h⟩ := Option.ite_none_right_eq_some.mp h
    cases h
    obtain ⟨⟨b', hb', _⟩, _⟩ := irqSection_same (c := c) (w := w) s.ts
      (s.ts.withBody b) (held_withBody b s.ts)
    refine ⟨b', (if_pos hif).trans ?_⟩
    show some { s with ts := (irqSection c w (s.ts.withBody b)).1, irqEntered := false } = _
    rw [hb']
    rfl
  | work w =>
    obtain ⟨hif, h⟩ := Option.ite_none_right_eq_some.mp h
    cases h
    obtain ⟨⟨b', hb', _⟩, hretry⟩ := recoverySection_same (c := c) (w := w) (dequeued s.ts)
      (dequeued (s.ts.withBody b))
      (held_withBody b (dequeued s.ts))
    refine ⟨b', (if_pos hif).trans ?_⟩
    show some { s with
      ts := (recoverySection c w (dequeued (s.ts.withBody b))).1
      leaving := some (recoverySection c w (dequeued (s.ts.withBody b))).2.retry } = _
    rw [hb', hretry]
    rfl
  | leave =>
    obtain ⟨retry, hleaving, rfl⟩ := Option.map_eq_some_iff.mp h
    refine ⟨b, Option.map_eq_some_iff.mpr ⟨retry, hleaving, ?_⟩⟩
    cases retry with
    | true =>
      show { s with ts := scheduleRecovery (s.ts.withBody b), leaving := none } = _
      rw [scheduleRecovery_withBody]
      rfl
    | false => rfl

theorem run_withBody {s s' : Threads} {ls : List Label} (b : Nat → UInt8)
    (h : (driver c).Run s ls s') :
    ∃ b', (driver c).Run (s.withBody b) ls (s'.withBody b') := by
  have hfollow := h.follow (R := fun s t => ∃ b, t = Threads.withBody b s)
    (fun s t l s' hst hstep => by
    obtain ⟨b, rfl⟩ := hst
    obtain ⟨b', hb'⟩ := threadStep_withBody b hstep
    exact ⟨_, hb', b', rfl⟩) ⟨b, rfl⟩
  obtain ⟨_, hrun, b', rfl⟩ := hfollow
  exact ⟨b', hrun⟩

/-! ## The result -/

theorem parser_inside (content : Bytes) (buf : HeatBuf) :
    (HeatFrame.extractHeatmap content buf).2 ≠ .error .oob := by
  have hsafe := HeatFrame.extractHeatmap_safe content buf trivial
  intro h
  cases hx : HeatFrame.extractHeatmap content buf with
  | mk t r =>
    rw [hx] at hsafe h
    have h : r = .error .oob := h
    subst h
    exact hsafe rfl

end

/-- Only the response just read is interpreted. -/
structure ResponseOnly (c : Config) : Prop where
  /-- a read from two buffers ends alike, with the whole response the same -/
  read : ∀ w, Twins (Held 0) (dmaReadResponse c w) (fun _ => Got) (Held 0)
  /-- the header and the body come from the transfers, the body with 4 to 8192 bytes -/
  served : ∀ w s t, dmaReadResponse c w s = (t, .ok ()) → ResponseRead w s t
  /-- a failed read leaves input, descriptor and captured contents as they were -/
  failed : ∀ w s t e, dmaReadResponse c w s = (t, .error e) → ReadFailed w s t
  dataReport : ∀ s t, Got s t → Got (handleDataReport c s) (handleDataReport c t)
  /-- the Heat parser does not run past the content it is given -/
  heat : ∀ content buf, (HeatFrame.extractHeatmap content buf).2 ≠ .error .oob
  descriptor : Twins Got validateSp11DeviceDescriptor (fun _ => Got) (Held 0)
  feature : ∀ w reportType contentId content,
    Twins (Held 0) (dmaFeatureExchange c w reportType contentId content) (fun _ => Got) (Held 0)
  expected : ∀ w responseClass contentId n,
    Twins (Held 0) (recoveryReadExpected c w responseClass contentId n) (fun _ => Got) (Held 0)
  cfu : ∀ w, Reads 0 (windowsCfuInventory c w) 0
  coldAttach : ∀ w, Reads 0 (windowsColdAttach c w) 0
  modeConfig : ∀ s t, Got s t → Held 0 { s with io := captureModeConfig c s.io }
    { t with io := captureModeConfig c t.io }
  /-- after a failed read: the fault, and the failure of an attempt -/
  hostFault : ∀ e b s, noteHostFault c e (s.withBody b) = (noteHostFault c e s).withBody b
  attemptFailed : ∀ path, SameExit (attemptFailed path)
  /-- the sections of the two threads -/
  sections : ∀ w, SameExit (irqSection c w) ∧ SameExit (recoverySection c w)
  runs : ∀ s s' ls b, (driver c).Run s ls s' →
    ∃ b', (driver c).Run (s.withBody b) ls (s'.withBody b')

theorem response_only (c : Config) : ResponseOnly c where
  read _ := dmaReadResponse_twins
  served w s _ h := Triple.ok (dmaReadResponse_read c w s) rfl h
  failed w s _ _ h := Triple.error (dmaReadResponse_read c w s) rfl h
  dataReport _ _ := handleDataReport_got
  heat := parser_inside
  descriptor := validateSp11DeviceDescriptor_twins
  feature _ := dmaFeatureExchange_twins
  expected _ _ _ _ := Twins.conseq (recoveryReadExpected_twins _ _ _) (fun _ _ h => h)
    (fun _ _ _ h => h.1) fun _ _ h => h
  cfu _ := windowsCfuInventory_reads
  coldAttach _ := windowsColdAttach_reads
  modeConfig _ _ := captureModeConfig_held
  hostFault := noteHostFault_withBody
  attemptFailed := attemptFailed_same
  sections _ := ⟨irqSection_same, recoverySection_same⟩
  runs _ _ _ b := run_withBody b

end Driver
end Sp11Touch
