import Sp11Touch.Core.Twin
import Sp11Touch.L3Driver.Threads
/-!
# The body buffer before a read

The buffer of the last body is never cleared. `Held k s t`: two driver states
that differ only in it, and agree on its first `k` bytes. Everything but the
code that reads a response is blind to the buffer; `dmaReadResponse_twins`: a
read from any two buffers ends alike, with the whole response held after a
normal return.
-/
namespace Sp11Touch

/-- Another body buffer. -/
def Ts.withBody (b : Nat → UInt8) (s : Ts) : Ts := { s with io := { s.io with body := b } }

/-- The same state but for the body, with the same first `k` bytes. -/
def Held (k : Nat) (s t : Ts) : Prop := ∃ b, t = s.withBody b ∧ ∀ i, i < k → b i = s.io.body i

/-- The last response is held. -/
def Got (s t : Ts) : Prop := Held (hidspiInputBodyHeaderSize + s.io.lastContentLen) s t

theorem Held.mono {k n : Nat} {s t : Ts} (h : Held k s t) (hle : n ≤ k) : Held n s t := by
  obtain ⟨b, rfl, hb⟩ := h
  exact ⟨b, rfl, fun i hi => hb i (Nat.lt_of_lt_of_le hi hle)⟩

theorem Held.none {k : Nat} {s t : Ts} (h : Held k s t) : Held 0 s t := h.mono (Nat.zero_le k)

theorem Held.payload {k i : Nat} {s t : Ts} (h : Held k s t)
    (hi : hidspiInputBodyHeaderSize + i < k) :
    t.io.payload i = s.io.payload i := by
  obtain ⟨b, rfl, hb⟩ := h
  exact congrArg UInt8.toNat (hb _ hi)

theorem Held.content {k n : Nat} {s t : Ts} (h : Held k s t)
    (hn : hidspiInputBodyHeaderSize + n ≤ k) :
    t.io.content n = s.io.content n := by
  obtain ⟨b, rfl, hb⟩ := h
  exact List.map_congr_left fun i hi => hb _ (by have := List.mem_range.mp hi; omega)

theorem Held.payload16 {k i : Nat} {s t : Ts} (h : Held k s t)
    (hi : hidspiInputBodyHeaderSize + i + 1 < k) :
    t.io.payload16 i = s.io.payload16 i := by
  unfold Io.payload16
  rw [h.payload (by omega), h.payload (by omega)]

theorem Held.payload32 {k i : Nat} {s t : Ts} (h : Held k s t)
    (hi : hidspiInputBodyHeaderSize + i + 3 < k) :
    t.io.payload32 i = s.io.payload32 i := by
  unfold Io.payload32
  rw [h.payload16 (by omega), h.payload16 (by omega)]

namespace Driver
open Proc

/-- `p` is blind to the body. -/
abbrev BodyBlind {α : Type} (p : TsProc α) : Prop := Blind Ts.withBody p

/-- `p` keeps what is held. -/
theorem BodyBlind.twins {α : Type} {p : TsProc α} (hp : BodyBlind p) (k : Nat) :
    Twins (Held k) p (fun _ => Held k) (Held 0) := by
  have hbody : ∀ s, (p s).1.io.body = s.io.body := by
    intro s
    have h := hp s.io.body s
    have hself : s.withBody s.io.body = s := rfl
    rw [hself] at h
    rw [h]
    rfl
  refine Twins.of_blind hp fun s t h => ?_
  obtain ⟨b, rfl, hb⟩ := h
  refine ⟨b, rfl, fun _ _ => ⟨b, rfl, fun i hi => ?_⟩,
    fun _ _ => ⟨b, rfl, fun i hi => absurd hi (Nat.not_lt_zero i)⟩⟩
  rw [hbody s]
  exact hb i hi

namespace BodyBlind
variable {c : Config} {w : World}

theorem ask {α : Type} (f : Nat → α) : BodyBlind (Driver.ask f) := fun _ _ => rfl

theorem modifyIo {f : Io → Io} (h : ∀ (b : Nat → UInt8) (io : Io), f { io with body := b } =
    { f io with body := b }) :
    BodyBlind (Driver.modifyIo f) :=
  Blind.modify fun b s => by
    show ({ s with io := f { s.io with body := b } } : Ts) =
      { s with io := { f s.io with body := b } }
    rw [h]

theorem getsIo {α : Type} {f : Io → α} (h : ∀ (b : Nat → UInt8) (io : Io), f
    { io with body := b } = f io) :
    BodyBlind (Driver.getsIo f) := Blind.gets fun b s => h b s.io

theorem setStage (stage : InitializationStage) : BodyBlind (Driver.setStage stage) :=
  modifyIo fun _ _ => rfl

theorem check (ret : Option Errno) : BodyBlind (Driver.check ret) := by
  cases ret with
  | none => exact Blind.pure ()
  | some e => exact Blind.throw e

theorem checkTransport (ret : Option Errno) : BodyBlind (Driver.checkTransport ret) := by
  cases ret with
  | none => exact Blind.pure ()
  | some e => exact Blind.bind (Blind.modify fun _ _ => rfl) fun _ => Blind.throw e

theorem dmaOutput (packet : Bytes) : BodyBlind (Driver.dmaOutput w packet) :=
  Blind.bind (modifyIo fun _ _ => rfl) fun _ => ask _

theorem dmaHidspiOutput (reportType contentId : Nat) (content : Bytes) :
    BodyBlind (Driver.dmaHidspiOutput w reportType contentId content) :=
  Blind.ite (Blind.pure _) (dmaOutput _)

theorem newEdges : BodyBlind (Driver.newEdges w) :=
  Blind.bind (ask _) fun _ => Blind.bind (getsIo fun _ _ => rfl) fun _ => Blind.pure _

theorem hasUnreadResponse : BodyBlind (Driver.hasUnreadResponse w) := by
  refine Blind.bind (ask _) fun value => ?_
  cases value with
  | error e => exact newEdges
  | ok b => cases b with
    | true => exact Blind.pure _
    | false => exact newEdges

theorem pollPending : ∀ n, BodyBlind (Driver.pollPending w n)
  | 0 => Blind.throw _
  | n + 1 => by
    refine Blind.bind (ask _) fun value => ?_
    cases value with
    | error e => exact Blind.throw e
    | ok b => cases b with
      | true => exact Blind.pure _
      | false => exact Blind.bind newEdges fun _ => Blind.ite (Blind.pure _) (pollPending n)

theorem waitPending : BodyBlind (Driver.waitPending w) := Blind.bind (ask _) fun _ => pollPending _

theorem nothingPending (pending : Except Errno Bool) (newEdge : Bool) :
    BodyBlind (Driver.nothingPending pending newEdge) := by
  cases pending with
  | error e => exact Blind.errorIf _ _
  | ok b => cases b with
    | true => exact Blind.pure _
    | false => exact Blind.errorIf _ _

theorem takeEdges : BodyBlind (Driver.takeEdges w) :=
  Blind.bind (ask _) fun _ => Blind.bind (ask _) fun _ =>
    Blind.bind (getsIo fun _ _ => rfl) fun _ =>
    Blind.bind (nothingPending _ _) fun _ => modifyIo fun _ _ => rfl

theorem invalidHeader : BodyBlind (Driver.invalidHeader c w) := by
  refine Blind.bind (Blind.onlyIf (Blind.bind (ask _) fun value => ?_)) fun _ =>
    Blind.bind (ask _) fun _ => Blind.throw _
  cases value with
  | error e => exact Blind.throw e
  | ok b => cases b with
    | true => exact Blind.pure _
    | false => exact Blind.bind (modifyIo fun _ _ => rfl) fun _ => Blind.throw _

theorem readHeader : BodyBlind (Driver.readHeader c w) :=
  Blind.bind (Blind.bind (ask _) fun _ => Blind.bind (modifyIo fun _ _ => rfl) fun _ =>
    Blind.pure _) fun _ =>
    Blind.bind (checkTransport _) fun _ => Blind.bind (getsIo fun _ _ => rfl) fun _ =>
      Blind.ite (Blind.pure _) invalidHeader

theorem acpiPowerOn {p : TsProc Unit} (hp : BodyBlind p) : BodyBlind (Driver.acpiPowerOn w p) := by
  refine Blind.bind (ask _) fun _ => Blind.bind (check _) fun _ => Blind.bind hp fun _ =>
    Blind.bind (ask _) fun ret => ?_
  cases ret with
  | none => exact Blind.pure _
  | some e => exact Blind.bind (ask _) fun _ => Blind.throw e

theorem powerOff : BodyBlind (Driver.powerOff c w) :=
  Blind.ite (Blind.pure _) (Blind.bind (ask _) fun _ => check _)

theorem panelPowerOn : BodyBlind (Driver.panelPowerOn c w) :=
  Blind.ite (Blind.bind (setStage _) fun _ => Blind.ite (setStage _) (acpiPowerOn (setStage _)))
    (Blind.ite (Blind.pure _) (acpiPowerOn (Blind.pure _)))

end BodyBlind

/-! ## One response -/

variable {c : Config} {w : World}

theorem acceptedHeat_withBody (b : Nat → UInt8) (heat : Heat) (report : Report) (s : Ts) :
    acceptedHeat heat report (s.withBody b) = (acceptedHeat heat report s).withBody b := by
  unfold acceptedHeat
  show (if s.awaitingReadyHeat = true then _ else _) =
    Ts.withBody b (if s.awaitingReadyHeat = true then _ else _)
  split <;> rfl

theorem malformedHeat_withBody (b : Nat → UInt8) (s : Ts) :
    malformedHeat (s.withBody b) = (malformedHeat s).withBody b := by
  unfold malformedHeat
  show Ts.note _ (Ts.releaseContacts (if s.awaitingReadyHeat = true then _ else _)) =
    Ts.withBody b (Ts.note _ (Ts.releaseContacts (if s.awaitingReadyHeat = true then _ else _)))
  split <;> rfl

/-- The input code reads the content and no more. -/
theorem handleDataReport_withBody {s : Ts} {b : Nat → UInt8}
    (hb : ∀ i, i < hidspiInputBodyHeaderSize + s.io.lastContentLen → b i = s.io.body i) :
    handleDataReport c (s.withBody b) = (handleDataReport c s).withBody b := by
  have hheld : Held (hidspiInputBodyHeaderSize + s.io.lastContentLen) s
    (s.withBody b) := ⟨b, rfl, hb⟩
  have htouch : s.io.lastContentLen = 5 → forwardTouch (s.withBody b) =
    (forwardTouch s).withBody b := by
    intro hlen
    unfold forwardTouch
    rw [hheld.payload (by omega), hheld.payload16 (by omega), hheld.payload16 (by omega)]
    rfl
  have hheat : handleHeat c (s.withBody b) = (handleHeat c s).withBody b := by
    have hcontent : (s.withBody b).io.content (s.withBody b).io.lastContentLen =
      s.io.content s.io.lastContentLen :=
      hheld.content (Nat.le_refl _)
    unfold handleHeat
    rw [hcontent, show (s.withBody b).heat = s.heat from rfl]
    generalize reportHeatContacts c.p.profile (s.io.content s.io.lastContentLen) s.heat = found
    cases found with
    | mk heat r => cases r with
      | ok report => exact acceptedHeat_withBody b heat report s
      | error e => exact malformedHeat_withBody b { s with heat := heat }
  unfold handleDataReport
  show (if s.io.lastClass ≠ classData then _ else
    if s.awaitingReadyHeat = true ∧ s.io.lastContentId ≠ heatmapReportId then _
    else if s.io.lastContentId = 0x40 ∧ s.io.lastContentLen = 5 then _
    else if s.io.lastContentId = heatmapReportId ∧
      s.io.lastContentLen + 1 ≤ maxBody then _ else _) = _
  split
  · rfl
  split
  · rfl
  split
  · next h => exact htouch h.2
  split
  · exact hheat
  · rfl

theorem handleDataReport_got {s t : Ts} (h : Got s t) : Got (handleDataReport c s)
    (handleDataReport c t) := by
  obtain ⟨b, rfl, hb⟩ := h
  obtain ⟨heat, stats, awaiting, log, heq⟩ := handleDataReport_frame c s
  rw [handleDataReport_withBody hb]
  refine ⟨b, rfl, ?_⟩
  rw [heq]
  exact hb

theorem noteDescriptor_got {s t : Ts} (h : Got s t) :
    Got { s with io := noteDescriptor s.io } { t with io := noteDescriptor t.io } := by
  have hpayload : s.io.lastContentLen = hidspiDeviceDescriptorSize →
    t.io.payload16 4 = s.io.payload16 4 := by
    intro hlen
    refine Held.payload16 h ?_
    rw [hlen]
    decide
  obtain ⟨b, rfl, hb⟩ := h
  unfold noteDescriptor
  by_cases hd : s.io.lastClass = classDeviceDescriptorResponse ∧
    s.io.lastContentLen = hidspiDeviceDescriptorSize
  · have hd' : (s.withBody b).io.lastClass = classDeviceDescriptorResponse ∧
        (s.withBody b).io.lastContentLen = hidspiDeviceDescriptorSize := hd
    rw [if_pos hd, if_pos hd', hpayload hd.2]
    exact ⟨b, rfl, hb⟩
  · have hd' : ¬ ((s.withBody b).io.lastClass = classDeviceDescriptorResponse ∧
        (s.withBody b).io.lastContentLen = hidspiDeviceDescriptorSize) := hd
    rw [if_neg hd, if_neg hd']
    exact ⟨b, rfl, hb⟩

/-- A transfer of `len` bytes is held whatever was there before. -/
theorem dmaReadPair_body (len : Nat) : Twins (Held 0) (dmaReadPair w fun bytes io =>
    { io with body := fun i => if i < len then bytes i else io.body i })
      (fun _ => Held len) (Held 0) := by
  refine Twins.bind ((BodyBlind.ask _).twins 0) fun r =>
    Twins.bind (S := fun _ => Held len) (Twins.modify fun s t h => ?_)
    fun _ => Twins.pure _ fun _ _ h => h
  obtain ⟨b, rfl, _⟩ := h
  refine ⟨fun i => if i < len then r.1 i else b i, rfl, fun i hi => ?_⟩
  simp only [if_pos hi]

theorem readBody_twins (len : Nat) : Twins (Held 0) (readBody w len) (fun _ => Got) (Held 0) := by
  refine Twins.bind (S := fun _ s t => Held 0 s t ∧ hidspiInputBodyHeaderSize ≤ len)
    (Twins.errorIf (fun hb s t h => ⟨h, ?_⟩) fun _ _ h => h)
    fun _ => ?_
  · simp only [Bool.or_eq_false_iff, decide_eq_false_iff_not] at hb
    omega
  by_cases hlen : hidspiInputBodyHeaderSize ≤ len
  swap
  · exact fun s t h => absurd h.2 hlen
  refine Twins.bind (Twins.conseq (dmaReadPair_body len) (fun _ _ h => h.1) (fun _ _ _ h => h)
    fun _ _ h => h) fun ret =>
    Twins.bind ((BodyBlind.checkTransport ret).twins len) fun _ =>
      Twins.bind (S := fun _ => Held len) (Twins.modify fun s t h => ?_) fun _ =>
        Twins.gets_bind (fun s t h => ?_) fun s =>
          Twins.errorIf (fun hb s' t' h => ?_) fun _ _ h => h.1.none
  · obtain ⟨b, rfl, hb⟩ := h
    have hfour : ∀ i, i < hidspiInputBodyHeaderSize → b i = s.io.body i :=
      fun i hi => hb i (by omega)
    refine ⟨b, ?_, hb⟩
    show ({ s with io := { s.io with
        body := b
        lastClass := (b 0).toNat
        lastContentLen := (b 1).toNat + 256 * (b 2).toNat
        lastContentId := (b 3).toNat } } : Ts) = _
    rw [hfour 0 (by decide), hfour 1 (by decide), hfour 2 (by decide), hfour 3 (by decide)]
    rfl
  · obtain ⟨b, rfl, _⟩ := h
    rfl
  · obtain ⟨hheld, rfl⟩ := h
    simp only [decide_eq_false_iff_not] at hb
    exact hheld.mono (by omega)

/-- A read from any two buffers. -/
theorem dmaReadResponse_twins : Twins (Held 0) (dmaReadResponse c w) (fun _ => Got) (Held 0) := by
  have hclear : BodyBlind clearLastResponse := BodyBlind.modifyIo fun _ _ => rfl
  refine Twins.bind (hclear.twins 0) fun _ => Twins.bind (BodyBlind.takeEdges.twins 0) fun _ =>
    Twins.bind (BodyBlind.readHeader.twins 0) fun _ =>
      Twins.bind ((BodyBlind.getsIo fun _ _ => rfl).twins 0) fun len =>
      Twins.bind (readBody_twins len) fun _ => Twins.bind (S := fun _ => Got)
        (Twins.modify fun _ _ h => noteDescriptor_got h)
        fun _ => Twins.gets_bind (fun s t h => ?_) fun s =>
          Twins.onlyIf (fun _ => Twins.modify fun _ _ h => handleDataReport_got h.1)
          fun _ _ _ h => h.1
  obtain ⟨b, rfl, _⟩ := h
  rfl

end Driver
end Sp11Touch
