import Sp11Touch.L3Driver.Steady
/-!
# Responses on the bus, and what a Windows start-up expects of them

`Delivers w k m`: the world has response `m` at tick `k`, a valid header and
the body behind it. `Arrives w start es hi`: between the ticks `start` and `hi`
responses that meet the expectations `es` came, in this order.

A procedure of the start-up is described from the first tick `s₀` on:
`Progress` before it, `Heard` when it has read a response that it has not
compared yet, `Abandoned` when it returns an error.

**Results.**
* `dmaReadResponse_hears`: the fields of the last response are those of a
  response on the bus.
* `awaitReply_hears`: by induction over the responses, the skipped ones change
  nothing.
* `Heard.accept`: a response that passed the checks of its caller is one more
  expectation met.
-/
namespace Sp11Touch

/-! ## Messages -/

/-- A response without its padding. -/
structure Message where
  responseClass : Nat
  contentId : Nat
  content : Bytes

/-- The message in the bytes of a body. -/
def messageOf (body : Nat → UInt8) : Message where
  responseClass := (body 0).toNat
  contentId := (body 3).toNat
  content := (List.range ((body 1).toNat + 256 * (body 2).toNat)).map
    fun i => body (hidspiInputBodyHeaderSize + i)

/-- Header at tick `k`, body at the next one. -/
structure World.Delivers (w : World) (k : Nat) (m : Message) : Prop where
  header : (w.read k).2 = none
  version : ((w.read k).1 0).toNat % 16 = headerVersion
  sync : ((w.read k).1 3).toNat = headerSync
  body : (w.read (k + 1)).2 = none
  message : messageOf (w.read (k + 1)).1 = m
  fits : hidspiInputBodyHeaderSize + m.content.length ≤
    (((w.read k).1 1).toNat + 256 * ((w.read k).1 2).toNat) % 0x4000 * 4

/-- What is checked of one response; `none` is any content length. -/
structure Expected where
  responseClass : Nat
  contentId : Nat
  contentLen : Option Nat
  accepts : Bytes → Bool

structure Expected.Meets (e : Expected) (m : Message) : Prop where
  responseClass : m.responseClass = e.responseClass
  contentId : m.contentId = e.contentId
  contentLen : ∀ n, e.contentLen = some n → m.content.length = n
  accepts : e.accepts m.content = true

/-- Responses that meet `es` in order, between `start` and `hi`. -/
inductive Arrives (w : World) (start : Nat) : List Expected → Nat → Prop
  | none {hi : Nat} (h : start ≤ hi) : Arrives w start [] hi
  | next {es : List Expected} {e : Expected} {k hi : Nat} {m : Message} (h : Arrives w start es k)
      (hm : w.Delivers k m) (he : e.Meets m) (hk : k + 2 ≤ hi) : Arrives w start (es ++ [e]) hi

theorem Arrives.mono {w : World} {start hi hi' : Nat} {es : List Expected}
    (h : Arrives w start es hi)
    (hle : hi ≤ hi') : Arrives w start es hi' := by
  cases h with
  | none h => exact .none (Nat.le_trans h hle)
  | next h hm he hk => exact .next h hm he (Nat.le_trans hk hle)

/-- The last expectation of the list was met by some response. -/
theorem Arrives.exists_delivers {w : World} {start hi : Nat} {es : List Expected}
    (h : Arrives w start es hi)
    {e : Expected} (he : e ∈ es) : ∃ k m, k + 2 ≤ hi ∧ w.Delivers k m ∧ e.Meets m := by
  induction h with
  | none _ => cases he
  | next _ hm hmeets hk ih =>
    rcases List.mem_append.mp he with hin | hlast
    · obtain ⟨k, m, hk', hd, hm'⟩ := ih hin
      exact ⟨k, m, by omega, hd, hm'⟩
    · rw [List.mem_singleton.mp hlast]
      exact ⟨_, _, hk, hm, hmeets⟩

/-- The report `0x65` outputs of a wire, oldest first. -/
def report65Outputs (wire : List Bytes) : List Bytes :=
  wire.reverse.filter fun packet => packet.getD 4 0 == UInt8.ofNat typeOutputReport &&
    packet.getD 7 0 == 0x65

theorem report65Outputs_cons (packet : Bytes) (wire : List Bytes) :
    report65Outputs (packet :: wire) = report65Outputs wire ++ report65Outputs [packet] := by
  simp [report65Outputs, List.filter_append]

/-- The inventory in full: information 0 and 1, the offer with the token, information 2. -/
def Params.inventoryOutputs (p : Params) : List Bytes :=
  [windowsCfuInfo 0, windowsCfuInfo 1, patch p.cfuOffer 3 [windowsCfuToken], windowsCfuInfo 2].map
    (Driver.hidspiPacket typeOutputReport 0x65)

/-- The fields of the last response are those of `m`. -/
structure Io.Last (io : Io) (m : Message) : Prop where
  responseClass : io.lastClass = m.responseClass
  contentId : io.lastContentId = m.contentId
  content : io.content io.lastContentLen = m.content

theorem Io.Last.contentLen {io : Io} {m : Message} (h : io.Last m) :
    m.content.length = io.lastContentLen := by
  rw [← h.content, io.content_length]

namespace Driver
open Proc

section
variable (c : Config) (w : World) (s₀ : Ts)

/-- Input is closed and no boundary is noted; `sent` are the report `0x65` outputs since `s₀`. -/
structure Paused (sent : List Bytes) (s : Ts) : Prop where
  modeEnabled : s.modeEnabled = false
  awaitingReadyHeat : s.awaitingReadyHeat = false
  parityRequired : s.io.parityRequired = {}
  outputs : report65Outputs s.io.wire = report65Outputs s₀.io.wire ++ sent
  bounded : sent <+: c.p.inventoryOutputs

def Abandoned (s : Ts) : Prop := ∃ sent, Paused c s₀ sent s

/-- `d` is the announced length of the report descriptor. -/
structure Progress (d : Nat) (seen : List Expected) (sent : List Bytes) (s : Ts) : Prop
    extends Paused c s₀ sent s where
  announced : s.io.expectedReportDescriptorLen = d
  arrives : Arrives w s₀.io.clk seen s.io.clk

/-- The announced length after the last response. -/
def announcedLen (d : Nat) (io : Io) : Nat :=
  if io.lastClass = classDeviceDescriptorResponse ∧ io.lastContentLen = hidspiDeviceDescriptorSize
  then io.payload16 4 else d

/-- The last response came after those of `seen`. -/
structure Heard (d : Nat) (seen : List Expected) (sent : List Bytes) (s : Ts) : Prop
    extends Paused c s₀ sent s where
  announced : s.io.expectedReportDescriptorLen = announcedLen d s.io
  response : ∃ k m, Arrives w s₀.io.clk seen k ∧ w.Delivers k m ∧ k + 2 ≤ s.io.clk ∧ s.io.Last m

end

variable {c : Config} {w : World} {s₀ : Ts} {d : Nat} {seen : List Expected} {sent : List Bytes}

/-! ## Idle steps -/

theorem Paused.idle {s : Ts} {io : Io} (h : Paused c s₀ sent s) (hi : Idles s.io io) :
    Paused c s₀ sent { s with io := io } :=
  ⟨h.modeEnabled, h.awaitingReadyHeat, hi.parityRequired.trans h.parityRequired, by
    rw [← h.outputs]; exact congrArg report65Outputs hi.wire, h.bounded⟩

theorem Progress.idle {s : Ts} {io : Io} (h : Progress c w s₀ d seen sent s) (hi : Idles s.io io) :
    Progress c w s₀ d seen sent { s with io := io } :=
  ⟨h.toPaused.idle hi, hi.announced.trans h.announced, h.arrives.mono hi.clk⟩

theorem Progress.steady : Steady (Progress c w s₀ d seen sent) := ⟨fun _ _ hi hs => hs.idle hi⟩

theorem Progress.abandoned {s : Ts} (h : Progress c w s₀ d seen sent s) : Abandoned c s₀ s :=
  ⟨_, h.toPaused⟩

theorem Heard.abandoned {s : Ts} (h : Heard c w s₀ d seen sent s) : Abandoned c s₀ s :=
  ⟨_, h.toPaused⟩

/-- An error return of an idle procedure abandons the start-up. -/
theorem Progress.keeps {α : Type} {p : TsProc α} (h : Keeps (Progress c w s₀ d seen sent) p) :
    Triple (Progress c w s₀ d seen sent) p (fun _ => Progress c w s₀ d seen sent)
    (fun _ => Abandoned c s₀) :=
  Triple.conseq h (fun _ hs => hs) (fun _ _ hs => hs) fun _ _ hs => hs.abandoned

theorem Abandoned.latch {s : Ts} (h : Abandoned c s₀ s) : Abandoned c s₀ s.latch := by
  obtain ⟨sent, h⟩ := h
  exact ⟨sent, h.modeEnabled, h.awaitingReadyHeat, h.parityRequired, h.outputs, h.bounded⟩

theorem Abandoned.closeInput {s : Ts} (h : Abandoned c s₀ s) :
    Abandoned c s₀ { s with modeEnabled := false } := by
  obtain ⟨sent, h⟩ := h
  exact ⟨sent, rfl, h.awaitingReadyHeat, h.parityRequired, h.outputs, h.bounded⟩

theorem Abandoned.notePanelReset {s : Ts} (h : Abandoned c s₀ s) :
    Abandoned c s₀ (notePanelReset c w false s) := by
  obtain ⟨sent, h⟩ := h
  obtain ⟨_, _, _, he, _⟩ := notePanelReset_frame c w s
  rw [he]
  exact ⟨sent, rfl, rfl, h.parityRequired, h.outputs, h.bounded⟩

variable {P : Ts → Prop}

theorem check_abandons (ret : Option Errno) (hP : ∀ s, P s → Abandoned c s₀ s) :
    Triple P (check ret) (fun _ => P) (fun _ => Abandoned c s₀) := by
  cases ret with
  | none => exact Triple.pure () fun _ hs => hs
  | some e => exact Triple.throw e hP

theorem checkTransport_abandons (ret : Option Errno) (hP : ∀ s, P s → Abandoned c s₀ s) :
    Triple P (checkTransport ret) (fun _ => P) (fun _ => Abandoned c s₀) := by
  cases ret with
  | none => exact Triple.pure () fun _ hs => hs
  | some e => exact Triple.bind (Triple.modify _ fun s hs => (hP s hs).latch) fun _ => Triple.throw e fun _ hs => hs

/-! ## One response -/

/-- The header transfer was made at tick `k`, just now, with status `ret`. -/
structure HeaderRead (c : Config) (w : World) (s₀ : Ts) (d : Nat) (seen : List Expected)
    (sent : List Bytes)
    (ret : Option Errno) (k : Nat) (s : Ts) : Prop extends Paused c s₀ sent s where
  announced : s.io.expectedReportDescriptorLen = d
  arrives : Arrives w s₀.io.clk seen k
  clk : s.io.clk = k + 1
  status : (w.read k).2 = ret
  lastHeader : ∀ i, i < 4 → s.io.lastHeader i = (w.read k).1 i

theorem HeaderRead.progress {ret : Option Errno} {k : Nat} {s : Ts}
    (h : HeaderRead c w s₀ d seen sent ret k s) :
    Progress c w s₀ d seen sent s :=
  ⟨h.toPaused, h.announced, h.arrives.mono (by rw [h.clk]; exact Nat.le_succ k)⟩

theorem dmaReadPair_apply (put : (Nat → UInt8) → Io → Io) (s : Ts) :
    dmaReadPair w put s = ({ s with io := put (w.read s.io.clk).1 { s.io with clk := s.io.clk + 1 } },
      .ok (w.read s.io.clk).2) := rfl

theorem headerTransfer_reads :
    Triple (Progress c w s₀ d seen sent)
      (dmaReadPair w fun bytes io => { io with lastHeader := fun i => if i < 4 then bytes i else io.lastHeader i })
      (fun ret s => ∃ k, HeaderRead c w s₀ d seen sent ret k s) (fun _ => Abandoned c s₀) := by
  intro s hs
  rw [dmaReadPair_apply]
  exact ⟨s.io.clk, hs.toPaused.idle ⟨Nat.le_succ _, rfl, rfl, rfl⟩, hs.announced, hs.arrives, rfl, rfl,
    fun i hi => if_pos hi⟩

theorem readHeader_reads :
    Triple (Progress c w s₀ d seen sent) (readHeader c w)
      (fun _ s => headerValid s.io = true ∧ ∃ k, HeaderRead c w s₀ d seen sent none k s)
      (fun _ => Abandoned c s₀) := by
  refine Triple.bind headerTransfer_reads fun ret => Triple.bind (R := fun _ s => ∃ k,
    HeaderRead c w s₀ d seen sent none k s) ?_ fun _ => Triple.bind (R := fun valid s => valid = headerValid s.io ∧
      ∃ k, HeaderRead c w s₀ d seen sent none k s) (Triple.gets _ fun s hs => ⟨rfl, hs⟩)
      fun valid => ?_
  · cases ret with
    | none => exact Triple.pure () fun _ hs => hs
    | some e => exact Triple.bind (Triple.modify _ fun s ⟨_, hs⟩ => hs.progress.abandoned.latch) fun _ =>
        Triple.throw e fun _ hs => hs
  · refine Triple.ite (fun hv => Triple.pure () fun s hs => ⟨hs.1.symm.trans hv, hs.2⟩) fun _ => ?_
    have hsteady : Steady (Progress c w s₀ d seen sent) := Progress.steady
    exact Triple.conseq hsteady.invalidHeader_fails (fun _ hs => hs.2.elim fun _ h => h.progress)
      (fun _ _ hs => hs.elim) fun _ _ hs => hs.abandoned

/-- The body transfer of `len` bytes was made at tick `k + 1`, just now, with status `ret`. -/
structure BodyRead (c : Config) (w : World) (s₀ : Ts) (d : Nat) (seen : List Expected)
    (sent : List Bytes)
    (len : Nat) (ret : Option Errno) (k : Nat) (s : Ts) : Prop extends Paused c s₀ sent s where
  announced : s.io.expectedReportDescriptorLen = d
  arrives : Arrives w s₀.io.clk seen k
  clk : s.io.clk = k + 2
  header : (w.read k).2 = none
  version : ((w.read k).1 0).toNat % 16 = headerVersion
  sync : ((w.read k).1 3).toNat = headerSync
  len_eq : len = (((w.read k).1 1).toNat + 256 * ((w.read k).1 2).toNat) % 0x4000 * 4
  le_len : hidspiInputBodyHeaderSize ≤ len
  status : (w.read (k + 1)).2 = ret
  body : ∀ i, i < len → s.io.body i = (w.read (k + 1)).1 i

theorem BodyRead.abandoned {len k : Nat} {ret : Option Errno} {s : Ts}
    (h : BodyRead c w s₀ d seen sent len ret k s) : Abandoned c s₀ s := ⟨_, h.toPaused⟩

theorem headerValid_iff (io : Io) :
    headerValid io = true ↔ (io.lastHeader 0).toNat % 16 = headerVersion ∧
    (io.lastHeader 3).toNat = headerSync := by
  simp [headerValid]

theorem bodyTransfer_reads {len : Nat} (hlen : hidspiInputBodyHeaderSize ≤ len) :
    Triple (fun s => len = bodyLen s.io ∧ headerValid s.io = true ∧
    ∃ k, HeaderRead c w s₀ d seen sent none k s)
      (dmaReadPair w fun bytes io => { io with body := fun i => if i < len then bytes i else io.body i })
      (fun ret s => ∃ k, BodyRead c w s₀ d seen sent len ret k s) (fun _ => Abandoned c s₀) := by
  intro s hs
  obtain ⟨hl, hv, k, hk⟩ := hs
  obtain ⟨hversion, hsync⟩ := (headerValid_iff s.io).mp hv
  rw [dmaReadPair_apply, hk.clk]
  rw [bodyLen, hk.lastHeader 1 (by decide), hk.lastHeader 2 (by decide)] at hl
  rw [hk.lastHeader 0 (by decide)] at hversion
  rw [hk.lastHeader 3 (by decide)] at hsync
  exact ⟨k, hk.toPaused.idle ⟨by rw [hk.clk]; exact Nat.le_succ _, rfl, rfl, rfl⟩, hk.announced,
    hk.arrives, rfl,
    hk.status, hversion, hsync, hl, hlen, rfl, fun i hi => if_pos hi⟩

/-- The last response is one from the bus, after those of `seen`. -/
structure Received (c : Config) (w : World) (s₀ : Ts) (d : Nat) (seen : List Expected)
    (sent : List Bytes)
    (s : Ts) : Prop extends Paused c s₀ sent s where
  announced : s.io.expectedReportDescriptorLen = d
  response : ∃ k m, Arrives w s₀.io.clk seen k ∧ w.Delivers k m ∧ k + 2 ≤ s.io.clk ∧ s.io.Last m

/-- The fields of the last response, from the body. -/
def takeLast (io : Io) : Io :=
  { io with
    lastClass := (io.body 0).toNat
    lastContentLen := (io.body 1).toNat + 256 * (io.body 2).toNat
    lastContentId := (io.body 3).toNat }

theorem BodyRead.received {len k : Nat} {s : Ts} (h : BodyRead c w s₀ d seen sent len none k s)
    (hfit : ¬ (takeLast s.io).lastContentLen > len - hidspiInputBodyHeaderSize) :
    Received c w s₀ d seen sent { s with io := takeLast s.io } := by
  have hlen := h.le_len
  simp only [hidspiInputBodyHeaderSize] at hlen
  have h0 := h.body 0 (by omega)
  have h1 := h.body 1 (by omega)
  have h2 := h.body 2 (by omega)
  have h3 := h.body 3 (by omega)
  have hmsg : (takeLast s.io).lastContentLen =
      ((w.read (k + 1)).1 1).toNat + 256 * ((w.read (k + 1)).1 2).toNat := by
    simp only [takeLast, h1, h2]
  have hfits : hidspiInputBodyHeaderSize + (takeLast s.io).lastContentLen ≤ len := by
    simp only [hidspiInputBodyHeaderSize] at hfit ⊢
    omega
  refine ⟨h.toPaused.idle ⟨Nat.le_refl _, rfl, rfl, rfl⟩, h.announced, k,
    messageOf (w.read (k + 1)).1, h.arrives,
    ⟨h.header, h.version, h.sync, h.status, rfl, ?_⟩, Nat.le_of_eq h.clk.symm, ?_⟩
  · rw [← h.len_eq]
    simpa only [messageOf, List.length_map, List.length_range, ← hmsg] using hfits
  · refine ⟨by simp only [takeLast, messageOf, h0], by simp only [takeLast, messageOf, h3], ?_⟩
    unfold Io.content messageOf
    rw [← hmsg]
    apply List.map_congr_left
    intro i hi
    have hi' : i < (takeLast s.io).lastContentLen := List.mem_range.mp hi
    exact h.body _ (by omega)

theorem readBody_reads (len : Nat) :
    Triple (fun s => len = bodyLen s.io ∧ headerValid s.io = true ∧
    ∃ k, HeaderRead c w s₀ d seen sent none k s)
      (readBody w len) (fun _ => Received c w s₀ d seen sent) (fun _ => Abandoned c s₀) := by
  refine Triple.bind_errorIf (fun s _ hs => hs.2.2.elim fun _ h => h.progress.abandoned) fun hlen => ?_
  have hlen4 : hidspiInputBodyHeaderSize ≤ len := by
    simp only [Bool.or_eq_false_iff, decide_eq_false_iff_not] at hlen
    omega
  refine Triple.bind (bodyTransfer_reads hlen4) fun ret => Triple.bind (R := fun _ s => ∃ k,
    BodyRead c w s₀ d seen sent len none k s) ?_ fun _ => ?_
  · cases ret with
    | none => exact Triple.pure () fun _ hs => hs
    | some e => exact Triple.bind (Triple.modify _ fun s ⟨_, hs⟩ => hs.abandoned.latch) fun _ =>
        Triple.throw e fun _ hs => hs
  · refine Triple.bind (R := fun _ s => ∃ t k, BodyRead c w s₀ d seen sent len none k t ∧
      s = { t with io := takeLast t.io }) (Triple.modify _ fun t ⟨k, hk⟩ =>
      ⟨t, k, hk, rfl⟩) fun _ =>
        Triple.bind (R := fun n s => n = s.io.lastContentLen ∧
          ∃ t k, BodyRead c w s₀ d seen sent len none k t ∧
          s = { t with io := takeLast t.io }) (Triple.gets _ fun _ hs => ⟨rfl, hs⟩) fun n =>
            Triple.errorIf _ _ (fun s _ hs => ?_) fun s hfit hs => ?_
    · obtain ⟨_, t, k, hk, rfl⟩ := hs
      exact ⟨_, hk.toPaused.idle ⟨Nat.le_refl _, rfl, rfl, rfl⟩⟩
    · obtain ⟨hn, t, k, hk, rfl⟩ := hs
      exact hk.received (by rw [← hn]; exact of_decide_eq_false hfit)

theorem noteDescriptor_hears :
    Triple (Received c w s₀ d seen sent) (modifyIo noteDescriptor)
    (fun _ => Heard c w s₀ d seen sent)
      (fun _ => Abandoned c s₀) := by
  refine Triple.modify _ fun s hs => ?_
  obtain ⟨k, m, harr, hdel, hk, hlast⟩ := hs.response
  by_cases hd : s.io.lastClass = classDeviceDescriptorResponse ∧
    s.io.lastContentLen = hidspiDeviceDescriptorSize
  · rw [noteDescriptor, if_pos hd]
    exact ⟨⟨hs.modeEnabled, hs.awaitingReadyHeat, hs.parityRequired, hs.outputs, hs.bounded⟩,
      (if_pos hd).symm,
      k, m, harr, hdel, hk, hlast.responseClass, hlast.contentId, hlast.content⟩
  · rw [noteDescriptor, if_neg hd]
    exact ⟨hs.toPaused, hs.announced.trans (if_neg hd).symm, k, m, harr, hdel, hk, hlast⟩

/-- Input is closed, so that no response is handled as input. -/
theorem dmaReadResponse_hears :
    Triple (Progress c w s₀ d seen sent) (dmaReadResponse c w) (fun _ => Heard c w s₀ d seen sent)
      (fun _ => Abandoned c s₀) := by
  refine Triple.bind (Progress.keeps (Progress.steady.modifyIo fun _ =>
    ⟨Nat.le_refl _, rfl, rfl, rfl⟩)) fun _ =>
    Triple.bind (Progress.keeps Progress.steady.takeEdges) fun _ =>
      Triple.bind readHeader_reads fun _ =>
      Triple.bind (Triple.gets _ fun s hs => ⟨rfl, hs⟩) fun len =>
        Triple.bind (readBody_reads len) fun _ =>
        Triple.bind noteDescriptor_hears fun _ => ?_
  intro s hs
  simp only [Proc.bind_apply, gets_apply, onlyIf, hs.modeEnabled, Bool.false_eq_true, if_false]
  exact hs

/-! ## Waiting for a reply -/

/-- A response that is skipped is no device descriptor. -/
theorem Heard.skip {s : Ts} (h : Heard c w s₀ d seen sent s)
    (hc : s.io.lastClass ≠ classDeviceDescriptorResponse) :
    Progress c w s₀ d seen sent s := by
  obtain ⟨k, m, harr, _, hk, _⟩ := h.response
  exact ⟨h.toPaused, h.announced.trans (if_neg fun hd => hc hd.1), harr.mono (by omega)⟩

theorem awaitReply_hears (done : Io → Bool) :
    ∀ n, Triple (Progress c w s₀ d seen sent) (awaitReply c w done n)
      (fun _ s => Heard c w s₀ d seen sent s ∧ done s.io = true) (fun _ => Abandoned c s₀)
  | 0 => Triple.throw _ fun _ hs => hs.abandoned
  | n + 1 => by
    refine Triple.bind (Progress.keeps Progress.steady.waitPending) fun _ =>
      Triple.bind dmaReadResponse_hears fun _ => Triple.bind (R := fun io s => io = s.io ∧
        Heard c w s₀ d seen sent s) (Triple.gets _ fun _ hs => ⟨rfl, hs⟩) fun io => ?_
    refine Triple.ite (fun hdone => Triple.pure () fun s hs =>
      ⟨hs.2, by rw [← hs.1]; exact hdone⟩) fun _ =>
      Triple.ite (fun _ => ?_) fun _ => Triple.ite (fun hskip => ?_) fun _ =>
        Triple.throw _ fun _ hs => hs.2.abandoned
    · exact Triple.bind (Triple.modify _ fun s hs => hs.2.abandoned.notePanelReset) fun _ =>
        Triple.throw _ fun _ hs => hs
    · refine Triple.conseq (awaitReply_hears done n) (fun s hs => ?_)
        (fun _ _ hs => hs) fun _ _ hs => hs
      apply hs.2.skip
      rw [← hs.1]
      rcases hskip with h | h
      · rw [h]; decide
      · rw [h.1]; decide

/-! ## Accepting a reply -/

/-- The response `e` asks for, as far as the code compares it. -/
theorem Heard.accept {s : Ts} (h : Heard c w s₀ d seen sent s) {e : Expected}
    (hclass : s.io.lastClass = e.responseClass) (hid : s.io.lastContentId = e.contentId)
    (hlen : ∀ n, e.contentLen = some n → s.io.lastContentLen = n)
    (hbytes : e.accepts (s.io.content s.io.lastContentLen) = true) :
    Progress c w s₀ (announcedLen d s.io) (seen ++ [e]) sent s := by
  obtain ⟨k, m, harr, hdel, hk, hlast⟩ := h.response
  refine ⟨h.toPaused, h.announced, .next harr hdel ⟨hlast.responseClass.symm.trans hclass,
    hlast.contentId.symm.trans hid, fun n hn => hlast.contentLen.trans (hlen n hn), ?_⟩ hk⟩
  rw [← hlast.content]
  exact hbytes

/-- What may happen between a reply and the checks of its content. -/
theorem Heard.note {s : Ts} (h : Heard c w s₀ d seen sent s) (buffers : ParityBuffers)
    (stage : InitializationStage) :
    Heard c w s₀ d seen sent { s with
      io := { s.io with parityBuffers := buffers, initializationStage := stage } } := by
  obtain ⟨k, m, harr, hdel, hk, hlast⟩ := h.response
  exact ⟨⟨h.modeEnabled, h.awaitingReadyHeat, h.parityRequired, h.outputs, h.bounded⟩, h.announced,
    k, m, harr, hdel,
    hk, hlast.responseClass, hlast.contentId, hlast.content⟩

end Driver
end Sp11Touch
