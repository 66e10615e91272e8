import Sp11Touch.L3Driver.BodyBlind
/-!
# Initialization does not see an earlier body

Every consumer of a response compares the content length before it looks at
the content: exactly, at least, or through the call before it. `Reads k p n`:
from states that agree on the first `k` bytes of the body `p` exits alike, and
after a normal return they agree on the first `n`. The consumers are chained
by what each leaves for the next; the whole initialization needs nothing of
the body (`fullReinitializeLocked_blind`).
-/
namespace Sp11Touch.Driver
open Proc

/-- Behaves alike from states with the same first `k` bytes, and leaves the first `n` the same. -/
abbrev Reads {α : Type} (k : Nat) (p : TsProc α) (n : Nat) : Prop :=
  Twins (Held k) p (fun _ => Held n) (Held 0)

namespace Reads
variable {α β : Type} {k m n : Nat}

theorem bind {p : TsProc α} {f : α → TsProc β} (hp : Reads k p m) (hf : ∀ a, Reads m (f a) n) :
    Reads k (p >>= f) n :=
  Twins.bind hp hf

theorem weaken {p : TsProc α} (hp : Reads k p m) (hle : n ≤ m) : Reads k p n :=
  Twins.conseq hp (fun _ _ h => h) (fun _ _ _ h => h.mono hle) fun _ _ h => h

/-- What is held is more than `p` needs. -/
theorem forget {R : Ts → Ts → Prop} {p : TsProc α} (hp : Reads 0 p n)
    (h : ∀ s t, R s t → Held 0 s t) :
    Twins R p (fun _ => Held n) (Held 0) := Twins.conseq hp h (fun _ _ _ h => h) fun _ _ h => h

theorem of_blind {p : TsProc α} (hp : BodyBlind p) : Reads k p k := hp.twins k

theorem pure (a : α) : Reads k (Pure.pure a : TsProc α) k := of_blind (Blind.pure a)

theorem errorIf (b : Bool) (e : Errno) : Reads k (Proc.errorIf b e) k :=
  of_blind (Blind.errorIf b e)

theorem setStage (stage : InitializationStage) : Reads k (Driver.setStage stage) k :=
  of_blind (BodyBlind.setStage stage)

theorem getsIo {f : Io → α} (h : ∀ (b : Nat → UInt8) (io : Io), f { io with body := b } = f io) :
    Reads k (Driver.getsIo f) k := of_blind (BodyBlind.getsIo h)

/-- The code below reads what is held. -/
theorem readIo {f : Io → TsProc β} (hg : ∀ s t, Held k s t → f t.io = f s.io)
    (hf : ∀ io, Reads k (f io) n) :
    Reads k (Driver.getsIo id >>= f) n :=
  Twins.gets_bind hg fun s => Twins.conseq (hf s.io) (fun _ _ h => h.1)
    (fun _ _ _ h => h) fun _ _ h => h

theorem setParityBuffers {f : Io → ParityBuffers → ParityBuffers}
    (h : ∀ s t, Held k s t → f t.io = f s.io) :
    Reads k (Driver.setParityBuffers f) k := by
  refine Twins.modify fun s t hst => ?_
  have hio := h s t hst
  obtain ⟨b, rfl, hb⟩ := hst
  exact ⟨b, congrArg (fun g => Ts.withBody b { s with
    io := { s.io with parityBuffers := g s.io.parityBuffers } }) hio, hb⟩

end Reads

section
variable {c : Config} {w : World}

theorem setParityRequired_blind (f : ParityRequired → ParityRequired) :
    BodyBlind (setParityRequired f) :=
  BodyBlind.modifyIo fun _ _ => rfl

theorem openInput_blind (awaiting : Bool) : BodyBlind (openInput awaiting) :=
  Blind.modify fun _ _ => rfl

theorem closeInput_blind : BodyBlind closeInput := Blind.modify fun _ _ => rfl

theorem notePanelReset_withBody (schedule : Bool) (b : Nat → UInt8) (s : Ts) :
    notePanelReset c w schedule (s.withBody b) = (notePanelReset c w schedule s).withBody b := by
  have hstorm : ∀ interval t, stormBreaker c interval (Ts.withBody b t) =
    (stormBreaker c interval t).withBody b := by
    intro interval t
    have hstreak : (Ts.withBody b t).rapidResetStreak = t.rapidResetStreak := rfl
    unfold stormBreaker
    rw [hstreak]
    split
    · generalize (if interval ≠ 0 ∧ interval ≤ resetStormWindowMs then t.rapidResetStreak + 1
        else 1) = streak
      simp only
      split <;> rfl
    · rfl
  have hschedule : ∀ t, scheduleRecovery (Ts.withBody b t) = (scheduleRecovery t).withBody b := by
    intro t
    rw [scheduleRecovery_eq, scheduleRecovery_eq]
    rfl
  have hclose : ∀ now, closeForReset c now (s.withBody b) =
    (closeForReset c now s).withBody b := fun _ => rfl
  have hinterval : ∀ now, resetInterval c now (s.withBody b) = resetInterval c now s := fun _ => rfl
  have hclk : (s.withBody b).io.clk = s.io.clk := rfl
  have hnote : ∀ t, Ts.note .panelReset (Ts.withBody b t).releaseContacts =
    (Ts.note .panelReset t.releaseContacts).withBody b :=
    fun _ => rfl
  unfold notePanelReset
  simp only [hclose, hinterval, hclk, hstorm, hnote]
  cases schedule with
  | true => exact hschedule _
  | false => rfl

/-! ## The replies -/

/-- By induction on the responses: the last one is held, and it is the one waited for. -/
theorem awaitReply_twins {done : Io → Bool} (hdone : ∀ (b : Nat → UInt8) (io : Io), done
    { io with body := b } = done io) :
    ∀ n, Twins (Held 0) (awaitReply c w done n) (fun _ s t => Got s t ∧ done s.io = true) (Held 0)
  | 0 => Twins.throw _ fun _ _ h => h
  | n + 1 => by
    refine Twins.bind (BodyBlind.waitPending.twins 0) fun _ =>
      Twins.bind dmaReadResponse_twins fun _ =>
      Twins.gets_bind (fun s t h => ?_) fun s =>
        Twins.ite (fun hd => Twins.pure _ fun s' t' h => ?_) fun _ =>
        Twins.ite (fun _ => ?_) fun _ => Twins.ite (fun _ => ?_) fun _ =>
          Twins.throw _ fun _ _ h => h.1.none
    · obtain ⟨b, rfl, _⟩ := h
      show (if done { s.io with body := b } = true then _ else _) =
        (if done s.io = true then _ else _)
      rw [hdone]
      rfl
    · obtain ⟨hgot, rfl⟩ := h
      exact ⟨hgot, hd⟩
    · refine Twins.bind (S := fun _ => Held 0) (Twins.modify fun s' t' h => ?_) fun _ =>
        Twins.throw _ fun _ _ h => h
      obtain ⟨b, rfl, _⟩ := h.1
      rw [notePanelReset_withBody]
      exact ⟨b, rfl, fun i hi => absurd hi (Nat.not_lt_zero i)⟩
    · exact Twins.conseq (awaitReply_twins hdone n) (fun _ _ h => h.1.none)
        (fun _ _ _ h => h) fun _ _ h => h

theorem dmaFeatureExchange_twins (reportType contentId : Nat) (content : Bytes) :
    Twins (Held 0) (dmaFeatureExchange c w reportType contentId content) (fun _ => Got) (Held 0) :=
  Twins.bind (Reads.errorIf _ _) fun _ => Twins.bind
    ((BodyBlind.dmaHidspiOutput _ _ _).twins 0) fun _ =>
    Twins.bind ((BodyBlind.checkTransport _).twins 0) fun _ =>
      Twins.conseq (awaitReply_twins (fun _ _ => rfl) _) (fun _ _ h => h)
        (fun _ _ _ h => h.1) fun _ _ h => h

theorem recoveryReadExpected_twins (responseClass contentId minContentLen : Nat) :
    Twins (Held 0) (recoveryReadExpected c w responseClass contentId minContentLen)
      (fun _ s t => Got s t ∧ minContentLen ≤ s.io.lastContentLen) (Held 0) := by
  refine Twins.conseq (awaitReply_twins (fun _ _ => rfl) _) (fun _ _ h => h)
    (fun _ s t h => ⟨h.1, ?_⟩) fun _ _ h => h
  have hlen := h.2
  simp only [Io.isResponse, Bool.and_eq_true, decide_eq_true_eq] at hlen
  exact hlen.2

theorem recoveryReadExpected_reads (responseClass contentId minContentLen : Nat) :
    Reads 0 (recoveryReadExpected c w responseClass contentId minContentLen)
    (hidspiInputBodyHeaderSize + minContentLen) :=
  Twins.conseq (recoveryReadExpected_twins _ _ _) (fun _ _ h => h)
    (fun _ _ _ h => h.1.mono (Nat.add_le_add_left h.2 _)) fun _ _ h => h

theorem expectResponse_twins (responseClass contentId minContentLen : Nat) :
    Twins Got (expectResponse responseClass contentId minContentLen)
      (fun _ s t => Got s t ∧ minContentLen ≤ s.io.lastContentLen) (Held 0) := by
  refine Twins.gets_bind (fun s t h => ?_) fun s =>
    Twins.errorIf (fun hb s' t' h => ?_) fun _ _ h => h.1.none
  · obtain ⟨b, rfl, _⟩ := h
    rfl
  · obtain ⟨hgot, rfl⟩ := h
    simp only [Bool.not_eq_false', Io.isResponse, Bool.and_eq_true, decide_eq_true_eq] at hb
    exact ⟨hgot, hb.2⟩

theorem exchangeExact_reads (reportType responseClass contentId : Nat) (content : Bytes)
    (contentLen : Nat) :
    Reads 0 (exchangeExact c w reportType responseClass contentId content contentLen)
      (hidspiInputBodyHeaderSize + contentLen) := by
  refine Twins.bind (dmaFeatureExchange_twins _ _ _) fun _ =>
    Twins.bind (expectResponse_twins _ _ _) fun _ =>
    Twins.gets_bind (fun s t h => ?_) fun s =>
      Twins.errorIf (fun _ s' t' h => h.1.1.mono (by omega)) fun _ _ h => h.1.1.none
  obtain ⟨b, rfl, _⟩ := h.1
  rfl

/-- The descriptor is looked at when it has its whole length. -/
theorem validateSp11DeviceDescriptor_twins : Twins Got validateSp11DeviceDescriptor (fun _ => Got)
    (Held 0) := by
  refine Twins.gets_bind (fun s t h => errorIf_bind_congr ?_ fun hlen => ?_) fun s =>
    Twins.bind (S := fun _ => Got) (Twins.errorIf (fun _ _ _ h => h.1) fun _ _ h => h.1.none)
      fun _ =>
      Twins.errorIf (fun _ _ _ h => h) fun _ _ h => h.none
  · obtain ⟨b, rfl, _⟩ := h
    rfl
  · have hheld : Held (hidspiInputBodyHeaderSize + hidspiDeviceDescriptorSize) s t := by
      refine Held.mono h ?_
      simp only [id_eq, Bool.or_eq_false_iff, decide_eq_false_iff_not, Decidable.not_not] at hlen
      omega
    have h16 : ∀ i, i + 2 ≤ hidspiDeviceDescriptorSize →
      t.io.payload16 i = s.io.payload16 i := fun i hi =>
      hheld.payload16 (by omega)
    have h32 : t.io.payload32 20 = s.io.payload32 20 := hheld.payload32 (by decide)
    have hdescriptor : t.io.sp11DeviceDescriptor = s.io.sp11DeviceDescriptor := by
      unfold Io.sp11DeviceDescriptor
      simp only [h32, h16 0 (by decide), h16 2 (by decide), h16 4 (by decide), h16 6 (by decide),
        h16 8 (by decide),
        h16 10 (by decide), h16 12 (by decide), h16 14 (by decide), h16 16 (by decide),
          h16 18 (by decide)]
    rw [id_eq, id_eq, hdescriptor]

/-! ## CFU -/

/-- The response has its sixteen bytes when they are looked at. -/
theorem windowsCfuSend_reads (content : Bytes) :
    Reads 0 (windowsCfuSend c w content) (hidspiInputBodyHeaderSize + windowsCfuOfferLen) := by
  refine Reads.bind (.of_blind (BodyBlind.dmaHidspiOutput _ _ _)) fun _ =>
    Reads.bind (.of_blind (BodyBlind.check _)) fun _ =>
    Reads.bind (recoveryReadExpected_reads _ _ _) fun _ => Reads.readIo (fun s t h => ?_) fun _ =>
      Reads.bind (.errorIf _ _) fun _ => .errorIf _ _
  have hpayload : ∀ i, i < windowsCfuOfferLen → t.io.payload i = s.io.payload i :=
    fun i hi => h.payload (by omega)
  have h32 : t.io.payload32 4 = s.io.payload32 4 := h.payload32 (by decide)
  have hformed : t.io.cfuResponseWellFormed = s.io.cfuResponseWellFormed := by
    unfold Io.cfuResponseWellFormed
    simp only [h32, hpayload 0 (by decide), hpayload 1 (by decide), hpayload 2 (by decide),
      hpayload 3 (by decide),
      hpayload 9 (by decide), hpayload 10 (by decide), hpayload 11 (by decide),
        hpayload 13 (by decide),
      hpayload 14 (by decide), hpayload 15 (by decide)]
  have hlen : t.io.lastContentLen = s.io.lastContentLen := by
    obtain ⟨b, rfl, _⟩ := h
    rfl
  simp only [hlen, hformed]

/-- No length check of its own: the one of the send holds. -/
theorem windowsCfuExpectInfoAccept_reads : Reads (hidspiInputBodyHeaderSize + windowsCfuOfferLen)
    windowsCfuExpectInfoAccept 0 :=
  Reads.readIo (fun s t h => by simp only [h.payload (i := 8) (by decide), h.payload (i := 12) (by decide)])
    fun _ => (Reads.errorIf _ _).weaken (Nat.zero_le _)

theorem windowsCfuInform_reads (stage : InitializationStage) (informationCode : UInt8) :
    Reads 0 (windowsCfuInform c w stage informationCode) 0 :=
  Reads.bind (.setStage _) fun _ => Reads.bind (windowsCfuSend_reads _) fun _ =>
    windowsCfuExpectInfoAccept_reads

theorem windowsCfuFinish_reads : Reads 0 (windowsCfuFinish c w) 0 := by
  refine Reads.bind (windowsCfuInform_reads _ _) fun _ => Reads.bind (.setStage _) fun _ =>
    Reads.bind (exchangeExact_reads _ _ _ _ _) fun _ =>
      Reads.bind (.setParityBuffers fun s t h => ?_) fun _ =>
      Reads.weaken (Twins.ite (fun _ => Reads.bind (.setStage _) fun _ =>
        .of_blind (openInput_blind _))
        fun _ => Reads.bind (.setStage _) fun _ => .of_blind (setParityRequired_blind _))
          (Nat.zero_le _)
  rw [h.content (Nat.le_refl _)]

theorem windowsCfuInventory_reads : Reads 0 (windowsCfuInventory c w) 0 := by
  refine Reads.bind (.setStage _) fun _ => Reads.bind (exchangeExact_reads _ _ _ _ _) fun _ =>
    Reads.bind (.setParityBuffers fun s t h => ?_) fun _ => Reads.readIo (fun s t h => ?_) fun _ =>
      Reads.bind (.weaken (.errorIf _ _) (Nat.zero_le _)) fun _ =>
        Reads.bind (windowsCfuInform_reads _ _) fun _ =>
        Reads.bind (windowsCfuInform_reads _ _) fun _ => Reads.bind (.setStage _) fun _ =>
          Reads.bind (windowsCfuSend_reads _) fun _ =>
            Reads.bind (.setParityBuffers fun s t h => ?_) fun _ =>
            Reads.readIo (fun s t h => ?_) fun _ => Twins.ite
              (fun _ => Reads.weaken (Reads.bind (.setStage _) fun _ =>
              .of_blind (setParityRequired_blind _)) (Nat.zero_le _))
              fun _ => windowsCfuFinish_reads.forget fun _ _ h => h.none
  · rw [h.content (by decide)]
  · have hpayload : ∀ i, i < windowsCfuVersionLen → t.io.payload i = s.io.payload i :=
      fun i hi => h.payload (by omega)
    have hversion : t.io.cfuVersionMatches c.p = s.io.cfuVersionMatches c.p := by
      have hall : (List.range 4).all (fun i => t.io.payload (4 + i) ==
        (c.p.parityCfuOffer (4 + i)).toNat) =
          (List.range 4).all (fun i => s.io.payload (4 + i) ==
          (c.p.parityCfuOffer (4 + i)).toNat) := by
        simp only [List.range_succ, List.range_zero, List.nil_append, List.all_append,
          List.all_cons, List.all_nil,
          hpayload 4 (by decide), hpayload (4 + 1) (by decide), hpayload (4 + 2) (by decide),
            hpayload (4 + 3) (by decide)]
      unfold Io.cfuVersionMatches
      simp only [hall, hpayload 0 (by decide), hpayload 1 (by decide), hpayload 2 (by decide),
        hpayload 3 (by decide),
        hpayload 9 (by decide)]
    simp only [hversion]
  · rw [h.content (Nat.le_refl _)]
  · simp only [h.payload (i := 8) (by decide), h.payload (i := 12) (by decide)]

/-! ## Windows cold attach -/

theorem boundary_blind (stage : InitializationStage) (f : ParityRequired → ParityRequired) :
    BodyBlind (do Driver.setStage stage; Driver.setParityRequired f; Driver.closeInput) :=
  Blind.bind (BodyBlind.setStage _) fun _ => Blind.bind (setParityRequired_blind _) fun _ =>
    closeInput_blind

theorem windowsConfigOwner_reads : Reads 0 (windowsConfigOwner c w) 0 := by
  refine Reads.bind (.setStage _) fun _ => Reads.bind (exchangeExact_reads _ _ _ _ _) fun _ =>
    Reads.readIo (fun s t h => ?_) fun _ => Reads.bind
      (.weaken (.errorIf _ _) (Nat.zero_le _)) fun _ =>
      Reads.bind (.setStage _) fun _ => Reads.bind (exchangeExact_reads _ _ _ _ _) fun _ =>
        Twins.bind (Reads.weaken (.setStage _) (Nat.zero_le _)) fun _ =>
          Reads.bind ((exchangeExact_reads _ _ _ _ _).weaken (Nat.zero_le _)) fun _ =>
            Twins.ite (fun _ => Reads.of_blind (boundary_blind _ _)) fun _ =>
              windowsCfuInventory_reads
  simp only [h.payload (i := 0) (by decide)]

theorem windowsFeedback_reads : Reads 0 (windowsFeedback c w) 0 := by
  refine Reads.bind (.setStage _) fun _ => Reads.bind
    (.of_blind (BodyBlind.dmaHidspiOutput _ _ _)) fun _ =>
    Reads.bind (.of_blind (BodyBlind.check _)) fun _ =>
      Reads.bind (recoveryReadExpected_reads _ _ _) fun _ =>
      Reads.readIo (fun s t h => ?_) fun _ =>
        Reads.bind (.weaken (.errorIf _ _) (Nat.zero_le _)) fun _ =>
        Reads.bind (.setStage _) fun _ => Reads.bind
          (.of_blind (BodyBlind.dmaHidspiOutput _ _ _)) fun _ =>
          Reads.bind (.of_blind (BodyBlind.check _)) fun _ => Reads.bind (.setStage _) fun _ =>
            Reads.bind ((exchangeExact_reads _ _ _ _ _).weaken (Nat.zero_le _)) fun _ =>
              Twins.ite (fun _ => Reads.of_blind (boundary_blind _ _)) fun _ =>
                windowsConfigOwner_reads
  have hlen : t.io.lastContentLen = s.io.lastContentLen := by
    obtain ⟨b, rfl, _⟩ := h
    rfl
  simp only [hlen, h.payload (i := 0) (by decide)]

theorem windowsColdAttach_reads : Reads 0 (windowsColdAttach c w) 0 := by
  refine Reads.bind (.setStage _) fun _ => Reads.bind (exchangeExact_reads _ _ _ _ _) fun _ =>
    Reads.bind (.setParityBuffers fun s t h => ?_) fun _ => Reads.readIo (fun s t h => ?_) fun _ =>
      Reads.bind (.weaken (.errorIf _ _) (Nat.zero_le _)) fun _ => Reads.bind (.setStage _) fun _ =>
        Reads.bind (exchangeExact_reads _ _ _ _ _) fun _ =>
          Reads.bind (.setParityBuffers fun s t h => ?_) fun _ =>
          Twins.ite (fun _ => Reads.weaken (Reads.of_blind (boundary_blind _ _)) (Nat.zero_le _))
            fun _ => windowsFeedback_reads.forget fun _ _ h => h.none
  · rw [h.content (Nat.le_refl _)]
  · simp only [h.payload (i := 0) (by decide), h.payload (i := 1) (by decide)]
  · rw [h.content (by decide)]

/-! ## Full initialization -/

/-- At most the content of the response is captured. -/
theorem captureModeConfig_held {s t : Ts} (h : Got s t) :
    Held 0 { s with io := captureModeConfig c s.io } { t with io := captureModeConfig c t.io } := by
  have hcontent : t.io.content (min s.io.lastContentLen modeConfigMax) =
    s.io.content (min s.io.lastContentLen modeConfigMax) :=
    Held.content h (by omega)
  obtain ⟨b, rfl, _⟩ := h
  refine ⟨b, ?_, fun i hi => absurd hi (Nat.not_lt_zero i)⟩
  have hlen : (s.withBody b).io.lastContentLen = s.io.lastContentLen := rfl
  unfold captureModeConfig
  rw [hlen, hcontent]
  split <;> rfl

theorem sendReport09_reads : Reads 0 (sendReport09 c w) 0 := by
  refine Reads.readIo (fun s t h => ?_) fun _ => .of_blind (Blind.onlyIf
    (Blind.bind (BodyBlind.dmaHidspiOutput _ _ _) fun _ => BodyBlind.checkTransport _))
  obtain ⟨b, rfl, _⟩ := h
  rfl

theorem enterMode_reads : Reads 0 (enterMode c w) 0 := by
  have hreply : ∀ n (s t : Ts), Got s t ∧ n ≤ s.io.lastContentLen →
    Held 0 s t := fun _ _ _ h => h.1.none
  refine Reads.bind (.setStage _) fun _ => Twins.bind (dmaFeatureExchange_twins _ _ _) fun _ =>
    Twins.bind (expectResponse_twins _ _ _) fun _ =>
      Twins.bind ((Reads.setStage _).forget (hreply _)) fun _ =>
      Reads.bind (.of_blind (BodyBlind.modifyIo fun _ _ => rfl)) fun _ =>
        Twins.bind (dmaFeatureExchange_twins _ _ _) fun _ =>
        Twins.bind (expectResponse_twins _ _ _) fun _ =>
          Twins.bind (S := fun _ => Held 0) (Twins.modify fun _ _ h =>
            captureModeConfig_held h.1) fun _ =>
            Reads.bind (.setStage _) fun _ => Reads.bind (.getsIo fun _ _ => rfl) fun _ =>
              Twins.bind (dmaFeatureExchange_twins _ _ _) fun _ =>
                Twins.bind (expectResponse_twins _ _ _) fun _ =>
                Twins.bind (sendReport09_reads.forget (hreply _)) fun _ =>
                  Reads.bind (.setStage _) fun _ =>
                  Twins.bind (dmaFeatureExchange_twins _ _ _) fun _ =>
                    Twins.bind (expectResponse_twins _ _ _) fun _ =>
                    Reads.forget (Reads.bind (.of_blind (Blind.onlyIf (BodyBlind.setStage _)))
                      fun _ =>
                      .of_blind (openInput_blind _)) (hreply _)

theorem powerCycle_reads (path : RecoveryPath) : Reads 0 (powerCycle c w path) 0 := by
  cases path with
  | SOFTWARE => exact Reads.bind (.of_blind (BodyBlind.modifyIo fun _ _ => rfl)) fun _ => .setStage _
  | HARDWARE =>
    exact Reads.bind (.of_blind (BodyBlind.modifyIo fun _ _ => rfl)) fun _ =>
      Reads.bind (.of_blind BodyBlind.powerOff) fun _ =>
      Reads.bind (.of_blind BodyBlind.panelPowerOn) fun _ => Reads.bind (.setStage _) fun _ =>
        Reads.bind (.of_blind BodyBlind.waitPending) fun _ =>
          Twins.bind dmaReadResponse_twins fun _ =>
          Twins.conseq (expectResponse_twins _ _ _) (fun _ _ h => h)
            (fun _ _ _ h => h.1.none) fun _ _ h => h

theorem enumerate_reads : Reads 0 (enumerate c w) 0 := by
  refine Reads.bind (.setStage _) fun _ => Reads.bind (.of_blind (BodyBlind.dmaOutput _)) fun _ =>
    Reads.bind (.of_blind (BodyBlind.checkTransport _)) fun _ =>
      Twins.bind (recoveryReadExpected_twins _ _ _) fun _ =>
      Twins.bind (Twins.conseq validateSp11DeviceDescriptor_twins (fun _ _ h => h.1)
        (fun _ _ _ h => h.none) fun _ _ h => h)
        fun _ => Reads.bind (.getsIo fun _ _ => rfl) fun _ => Reads.bind (.errorIf _ _) fun _ =>
          Reads.bind (.setStage _) fun _ =>
          Reads.bind (.of_blind (BodyBlind.dmaOutput _)) fun _ =>
            Reads.bind (.of_blind (BodyBlind.checkTransport _)) fun _ =>
            Reads.bind ((recoveryReadExpected_reads _ _ _).weaken (Nat.zero_le _)) fun _ =>
              Reads.readIo (fun s t h => ?_) fun _ => .errorIf _ _
  obtain ⟨b, rfl, _⟩ := h
  rfl

theorem attach_reads (path : RecoveryPath) : Reads 0 (attach c w path) 0 :=
  Twins.ite (fun _ => Reads.bind (.errorIf _ _) fun _ => windowsColdAttach_reads) fun _ =>
    enterMode_reads

/-- The whole initialization, from any two buffers. -/
theorem fullReinitializeLocked_reads (path : RecoveryPath) :
    Reads 0 (fullReinitializeLocked c w path) 0 := by
  refine Twins.onError (Reads.bind (.of_blind (Blind.modify fun _ _ => rfl)) fun _ =>
    Reads.bind (powerCycle_reads path) fun _ =>
    Reads.bind enumerate_reads fun _ => attach_reads path) fun s t h => ?_
  obtain ⟨b, rfl, hb⟩ := h
  exact ⟨b, rfl, hb⟩

end
end Sp11Touch.Driver
