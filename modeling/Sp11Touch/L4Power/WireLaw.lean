import Sp11Touch.L1Encoding.KdnetTransfer
import Sp11Touch.L3Driver.ColdReplies
import Sp11Touch.L3Driver.WireScript
import Sp11Touch.L4Power.Pm
/-!
# What a run puts on the wire

Only the worker writes. One run of its section puts the word of one
initialization on the wire, or its beginning where it failed; the IRQ thread
and the power calls put nothing there.

**Results.**
* `pmStep_wrote`: one step of a thread or of a call.
* `wire_words`: the wire of a run with `n` recovery attempts is `n` beginnings
  of initializations, one after the other, and complete where one succeeded.
* `log_decodes`: the log script takes every packet apart into what the driver
  put in, and calls a body valid where the driver accepts it.
-/
namespace Sp11Touch

namespace Proc

theorem bind_of_ok {σ ε α β : Type} {p : Proc σ ε α} {f : α → Proc σ ε β} {s t : σ} {a : α}
    (h : p s = (t, .ok a)) :
    (p >>= f) s = f a t := by
  rw [bind_apply, h]

/-- A quiet procedure, as an invariant. -/
theorem Emits.keeps {σ ε α β : Type} {out : σ → List β} {G : β → Prop} {p : Proc σ ε α}
    (h : Emits out G (fun _ => True) 1 p fun _ => True) (o : List β) :
    Keeps (fun s => out s = o) p := by
  refine Keeps.of_state fun s hs => ?_
  have hr := h.run s trivial
  revert hr
  cases p s with
  | mk t r => cases r with
    | ok a =>
      intro hr
      obtain ⟨-, l, hl, hw⟩ := hr
      rw [(Language.mem_one _).mp hl] at hw
      exact hw.out.trans hs
    | error e =>
      intro hr
      obtain ⟨k, ⟨l, hl, hk⟩, hw⟩ := hr
      rw [(Language.mem_one _).mp hl, List.prefix_nil] at hk
      rw [hk] at hw
      exact hw.out.trans hs

end Proc

namespace Driver
open Proc

abbrev WroteWire (s : Ts) (word : List Bytes) (t : Ts) : Prop :=
  Wrote (fun s : Ts => s.io.wire) Framed s word t

variable {c : Config} {w : World}

/-! ## The IRQ thread -/

theorem countFault_wire (e : Errno) (s : Ts) : (countFault e s).io.wire = s.io.wire := by
  obtain ⟨_, he⟩ := countFault_frame e s
  rw [he]

theorem noteHostFault_wire (e : Errno) (s : Ts) : (noteHostFault c e s).io.wire = s.io.wire := by
  unfold noteHostFault
  simp only
  split
  · rw [scheduleRecovery_eq]
    exact countFault_wire e s
  · exact countFault_wire e s

theorem notePanelReset_wire (s : Ts) : (notePanelReset c w true s).io.wire = s.io.wire := by
  obtain ⟨_, _, _, he, _⟩ := notePanelReset_frame c w s
  rw [notePanelReset_true, scheduleRecovery_eq, he]
  rfl

theorem wire_drainRule (wire : List Bytes) :
    DrainRule c w (fun s => s.io.wire = wire) (fun _ s => s.io.wire = wire)
    (fun _ s => s.io.wire = wire) where
  unread := by
    have hw : Steady fun s : Ts => s.io.wire = wire := ⟨fun _ _ hi hs => hi.wire.trans hs⟩
    refine Triple.conseq (show Keeps _ (hasUnreadResponse w) from
      Keeps.bind (hw.ask _) fun value => ?_)
      (fun _ hs => hs) (fun _ _ hs => ⟨fun _ => hs, fun _ => hs⟩) fun _ _ hs => hs
    cases value with
    | error e => exact hw.newEdges
    | ok b => cases b with
      | true => exact Keeps.pure _
      | false => exact hw.newEdges
  read := Watches.anything.dmaReadResponse.keeps wire
  again _ hs := hs
  fault e s _ hs := (noteHostFault_wire e s).trans hs
  reset s hs := (notePanelReset_wire s).trans hs
  single _ _ hs := hs

theorem irqSection_wire (s : Ts) : (irqSection c w s).1.io.wire = s.io.wire := by
  rcases (wire_drainRule (c := c) (w := w) s.io.wire).irqSection
    rfl with ⟨_, hexit, _⟩ | ⟨_, t, ht, heq⟩
  · exact hexit
  · rw [heq, noteHostFault_wire]
    exact ht

/-! ## The worker -/

/-- What one run of the section put on the wire. -/
theorem recoverySection_wrote (w : World) (s : Ts) :
    match (recoverySection c w s).2 with
    | .stopped => (recoverySection c w s).1 = s
    | .success => ∃ word ∈ c.p.initWords, WroteWire s word (recoverySection c w s).1
    | .failure _ => ∃ word ∈ prefixes c.p.initWords, WroteWire s word (recoverySection c w s).1 := by
  have hr := (fullReinitializeLocked_emits (c := c) (w := w) s.recoveryPath).run
    (beginAttempt s) trivial
  unfold recoverySection
  by_cases hs : s.stopping = true
  · simp only [hs, if_true]
  · simp only [hs, Bool.false_eq_true, if_false]
    unfold attempt
    revert hr
    cases fullReinitializeLocked c w s.recoveryPath (beginAttempt s) with
    | mk t r => cases r with
      | ok _ =>
        intro hr
        obtain ⟨-, word, hword, hw⟩ := hr
        exact ⟨word, hword, hw.out, hw.good⟩
      | error _ =>
        intro hr
        obtain ⟨word, hword, hw⟩ := hr
        have hwire : (attemptFailed s.recoveryPath t).1.io.wire = t.io.wire := by
          unfold attemptFailed
          simp only
          split <;> rfl
        exact ⟨word, hword, hwire.trans hw.out, hw.good⟩

/-- Stopped, complete or not: a beginning. -/
theorem recoverySection_prefix (w : World) (s : Ts) :
    ∃ word ∈ prefixes c.p.initWords, WroteWire s word (recoverySection c w s).1 := by
  have h := recoverySection_wrote (c := c) w s
  revert h
  cases (recoverySection c w s).2 with
  | stopped => exact fun h => ⟨[], nil_mem_prefixes (fullReinitializeLocked_emits (c := c) (w := w) .HARDWARE).word, .nil (by rw [h])⟩
  | success =>
    intro h
    obtain ⟨word, hword, hw⟩ := h
    exact ⟨word, mem_prefixes_of_mem hword, hw⟩
  | failure _ => exact id

end Driver

/-! ## Runs -/

namespace Power
open Driver Proc

/-- The sections of the worker in a run. -/
def workSections : List PmLabel → Nat
  | [] => 0
  | .thread (.work _) :: ls => workSections ls + 1
  | _ :: ls => workSections ls

theorem workSections_cons (l : PmLabel) (ls : List PmLabel) :
    workSections (l :: ls) = workSections [l] + workSections ls := by
  cases l with
  | thread l => cases l <;> simp [workSections, Nat.add_comm]
  | _ => simp [workSections]

theorem threadStep_wrote {c : Config} {l : Label} {t u : Threads} (h : threadStep c t l = some u) :
    ∃ word ∈ prefixes c.p.initWords ^ workSections [.thread l], WroteWire t.ts word u.ts := by
  have hnil : ∀ {v : Ts}, v.io.wire = t.ts.io.wire →
    ∃ word ∈ prefixes c.p.initWords ^ 0, WroteWire t.ts word v :=
    fun hv => ⟨[], by rw [pow_zero]; exact Language.nil_mem_one, .nil hv⟩
  cases l with
  | irqEnter =>
    obtain ⟨_, rfl⟩ := Option.ite_some_none_eq_some.mp h
    exact hnil rfl
  | irq w =>
    obtain ⟨_, rfl⟩ := Option.ite_some_none_eq_some.mp h
    exact hnil (irqSection_wire t.ts)
  | work w =>
    obtain ⟨_, rfl⟩ := Option.ite_some_none_eq_some.mp h
    obtain ⟨word, hword, hw⟩ := recoverySection_prefix (c := c) w (dequeued t.ts)
    exact ⟨word, by rw [workSections, workSections, zero_add, pow_one]; exact hword,
      hw.out, hw.good⟩
  | leave =>
    obtain ⟨retry, _, rfl⟩ := Option.map_eq_some_iff.mp h
    refine hnil ?_
    unfold reschedule
    rw [scheduleRecovery_eq]
    split <;> rfl

/-- No call of the power management writes. -/
theorem called_wire {c : Config} {w : World} {s t : Pm} (h : Called c w s t) :
    t.threads.ts.io.wire = s.threads.ts.io.wire := by
  obtain ⟨threads, pc, failed⟩ := s
  obtain ⟨pc', u, hstep, rfl⟩ := h
  have hsteady : Steady fun s : Ts => s.io.wire = threads.ts.io.wire :=
    ⟨fun _ _ hi hs => hi.wire.trans hs⟩
  have hoff : (suspendPower c w threads.ts).1.io.wire = threads.ts.io.wire :=
    Keeps.state (Keeps.bind (Keeps.modify fun _ hs => hs) fun _ => hsteady.powerOff) rfl
  have hon : (resumePower c w threads.ts).1.io.wire = threads.ts.io.wire :=
    Keeps.state (Keeps.bind (Keeps.modify fun _ hs => hs) fun _ => hsteady.powerOn) rfl
  cases hstep with
  | suspendOff hr => rw [hr] at hoff; exact hoff
  | suspendFails hr => rw [hr] at hoff; exact hoff
  | resumeOn hr => rw [hr] at hon; exact hon
  | resumeFails hr => rw [hr] at hon; exact hon
  | removePower => exact hsteady.powerOff.state rfl
  | _ => rfl

theorem pmStep_wrote {c : Config} {l : PmLabel} {s t : Pm} (h : pmStep c s l = some t) :
    ∃ word ∈ prefixes c.p.initWords ^ workSections [l], WroteWire
    s.threads.ts word t.threads.ts := by
  cases l with
  | thread l =>
    obtain ⟨u, hu, rfl⟩ := Option.map_eq_some_iff.mp h
    exact threadStep_wrote hu
  | suspend w => exact ⟨[], Language.nil_mem_one, .nil (called_wire (suspendStep_called h))⟩
  | resume w => exact ⟨[], Language.nil_mem_one, .nil (called_wire (resumeStep_called h))⟩
  | remove w => exact ⟨[], Language.nil_mem_one, .nil (called_wire (removeStep_called h))⟩

/-- By induction on the run. -/
theorem run_wrote {c : Config} {s t : Pm} {ls : List PmLabel} (h : (pm c).Run s ls t) :
    ∃ word ∈ prefixes c.p.initWords ^ workSections ls, WroteWire
    s.threads.ts word t.threads.ts := by
  induction h with
  | nil => exact ⟨[], Language.nil_mem_one, .nil rfl⟩
  | cons hst _ ih =>
    obtain ⟨k, hk, hwk⟩ := pmStep_wrote hst
    obtain ⟨l, hl, hwl⟩ := ih
    refine ⟨k ++ l, ?_, hwk.append hwl⟩
    rw [workSections_cons, pow_add]
    exact Language.append_mem_mul hk hl

/-- Threads, suspend, resume and remove in any order: the wire is one beginning of an
initialization for each section of the worker, and the whole of it where the section succeeds. -/
theorem wire_words (c : Config) :
    (∀ w s, match (recoverySection c w s).2 with
      | .stopped => (recoverySection c w s).1 = s
      | .success => ∃ word ∈ c.p.initWords, (recoverySection c w s).1.io.wire = word.reverse ++ s.io.wire
      | .failure _ => ∃ word ∈ prefixes c.p.initWords, (recoverySection c w s).1.io.wire = word.reverse ++ s.io.wire) ∧
    ∀ s ls t, (pm c).Run s ls t → ∃ word ∈ prefixes c.p.initWords ^ workSections ls,
      t.threads.ts.io.wire = word.reverse ++ s.threads.ts.io.wire := by
  refine ⟨fun w s => ?_, fun s ls t h => ?_⟩
  · have hw := recoverySection_wrote (c := c) w s
    revert hw
    cases (recoverySection c w s).2 with
    | stopped => exact id
    | success => exact fun ⟨word, hword, hw⟩ => ⟨word, hword, hw.out⟩
    | failure _ => exact fun ⟨word, hword, hw⟩ => ⟨word, hword, hw.out⟩
  · obtain ⟨word, hword, hw⟩ := run_wrote h
    exact ⟨word, hword, hw.out⟩

/-- The first start-up: one section, six packets. -/
theorem wire_words_boot : ∃ t, (pm softwareConfig).Run probedPm [.thread boot] t ∧
    t.threads.ts.io.wire.length = 6 ∧
    ∃ word ∈ prefixes softwareConfig.p.initWords ^ 1, t.threads.ts.io.wire =
      word.reverse ++ [] := by
  have hrun : (LTS.exec (pmStep softwareConfig) (fun _ _ => True) probedPm [.thread boot]).any
      (fun t => t.threads.ts.io.wire.length == 6) = true := by decide +kernel
  obtain ⟨t, ht, hl⟩ := (Option.any_eq_true _ _).mp hrun
  have hr : (pm softwareConfig).Run probedPm [.thread boot] t := LTS.run_of_exec ht
  exact ⟨t, hr, by simpa using hl, (wire_words softwareConfig).2 probedPm _ t hr⟩

/-! ## The log -/

/-- The log shows what the driver put into the packet, and zeros up to a whole word. -/
def LogsFrame (packet : Bytes) : Prop :=
  ∃ (reportType contentId : UInt8) (content padding : Bytes),
    (Transfer.ofWrite packet).Decodes reportType contentId content padding ∧
    content.length ≤ 64 ∧ (∀ b ∈ padding, b = 0) ∧ padding.length < 4 ∧ packet.length % 4 = 0 ∧
    packet = hidspiPacket reportType.toNat contentId.toNat content

theorem Framed.logs {packet : Bytes} (h : Framed packet) : LogsFrame packet := by
  obtain ⟨reportType, contentId, content, ht, hi, hlen, rfl⟩ := h
  have hnum : ∀ {n : Nat}, n < 256 → (UInt8.ofNat n).toNat = n := fun hn => by
    rw [UInt8.toNat_ofNat', Nat.mod_eq_of_lt (by simpa using hn)]
  refine ⟨UInt8.ofNat reportType, UInt8.ofNat contentId, content,
    List.replicate ((4 - content.length % 4) % 4) 0, ?_, hlen,
    fun b hb => (List.mem_replicate.mp hb).2, by rw [List.length_replicate]; omega, ?_, by rw [hnum ht, hnum hi]⟩
  · exact Transfer.decode_frame (by rw [hnum (by omega), hnum (by omega)]; omega)
  · simp only [hidspiPacket, List.length_append, List.length_replicate, List.length_cons,
      List.length_nil]
    omega

/-- mirrors phase55/modules/mshw0485_touch.c:365-367 (`g6ts_read_body`) -/
def readBodyCmd : Bytes := [0xeb, 0x00, 0x10, 0x04, 0xff, 0xff, 0xff, 0xff]

/-- The log of a body read of `len` bytes at tick `k`. -/
def bodyTransfer (w : World) (k len : Nat) : Transfer :=
  ⟨8, len, readBodyCmd, (List.range len).map (w.read k).1⟩

/-- The log shows the fields the driver keeps, and calls the body valid where the driver does. -/
structure LogsBody (w : World) (s : Ts) (len : Nat) : Prop where
  valid : (readBody w len s).2 = .ok () ↔ (bodyTransfer w s.io.clk len).responseValid = true
  responseClass : (bodyTransfer w s.io.clk len).responseClass =
    some (readBody w len s).1.io.lastClass
  contentLen : (bodyTransfer w s.io.clk len).responseContentLen =
    some (readBody w len s).1.io.lastContentLen
  contentId : (bodyTransfer w s.io.clk len).responseContentId =
    some (readBody w len s).1.io.lastContentId

/-- The buffer after a body transfer. -/
def readInto (w : World) (len : Nat) (io : Io) : Io :=
  { io with clk := io.clk + 1, body := fun i => if i < len then (w.read io.clk).1 i else io.body i }

/-- A transfer that came through. -/
theorem readBody_transferred {w : World} {s : Ts} {len : Nat}
    (hlo : hidspiInputBodyHeaderSize ≤ len) (hhi : len ≤ maxBody)
    (hr : (w.read s.io.clk).2 = none) : ∃ (t : Ts)
      (r : Except Errno Unit), readBody w len s = (t, r) ∧
      (r = .ok () ↔ t.io.lastContentLen ≤ len - hidspiInputBodyHeaderSize) ∧
      t.io.lastClass = ((w.read s.io.clk).1 0).toNat ∧
      t.io.lastContentLen = ((w.read s.io.clk).1 1).toNat + 256 * ((w.read s.io.clk).1 2).toNat ∧
      t.io.lastContentId = ((w.read s.io.clk).1 3).toNat := by
  simp only [hidspiInputBodyHeaderSize] at hlo
  have h1 : ¬ len < hidspiInputBodyHeaderSize := by simp only [hidspiInputBodyHeaderSize]; omega
  have h2 : ¬ len > maxBody := by omega
  have hread : dmaReadPair w (fun bytes io =>
    { io with body := fun i => if i < len then bytes i else io.body i }) s =
      ({ s with io := readInto w len s.io }, .ok none) := by
    rw [dmaReadPair_apply, hr]
    rfl
  have hrun : readBody w len s = ({ s with io := takeLast (readInto w len s.io) },
      if (takeLast (readInto w len s.io)).lastContentLen > len - hidspiInputBodyHeaderSize then
        .error .EPROTO else .ok ()) := by
    have hfits : (errorIf (len < hidspiInputBodyHeaderSize || len > maxBody) .EMSGSIZE : TsProc
      Unit) s = (s, .ok ()) := by
      rw [errorIf_apply, decide_eq_false h1, decide_eq_false h2]
      rfl
    unfold readBody
    rw [bind_of_ok hfits, bind_of_ok hread]
    by_cases hc : (takeLast (readInto w len s.io)).lastContentLen > len - hidspiInputBodyHeaderSize
    · rw [if_pos hc]
      exact if_pos (decide_eq_true hc)
    · rw [if_neg hc]
      exact if_neg fun h => hc (of_decide_eq_true h)
  have hbyte : ∀ i, i < 4 → (readInto w len s.io).body i = (w.read s.io.clk).1 i :=
    fun i hi => if_pos (by omega)
  refine ⟨_, _, hrun, ?_, by rw [takeLast, hbyte 0 (by decide)], by rw [takeLast, hbyte 1 (by decide), hbyte 2 (by decide)],
    by rw [takeLast, hbyte 3 (by decide)]⟩
  by_cases hc : (takeLast (readInto w len s.io)).lastContentLen > len - hidspiInputBodyHeaderSize
  · rw [if_pos hc]
    exact ⟨fun h => by simp at h, fun h => absurd hc (Nat.not_lt.mpr h)⟩
  · rw [if_neg hc]
    exact ⟨fun _ => Nat.not_lt.mp hc, fun _ => rfl⟩

theorem readBody_logs {w : World} {s : Ts} {len : Nat} (hlo : hidspiInputBodyHeaderSize ≤ len)
    (hhi : len ≤ maxBody)
    (hr : (w.read s.io.clk).2 = none) : LogsBody w s len := by
  obtain ⟨t, r, ht, hok, hclass, hlen, hid⟩ := readBody_transferred hlo hhi hr
  simp only [hidspiInputBodyHeaderSize] at hlo
  have hrx : (bodyTransfer w s.io.clk len).rx.length = len := by simp [bodyTransfer]
  have hprefix : (bodyTransfer w s.io.clk len).hasPrefix = true := by
    simp [Transfer.hasPrefix, Transfer.isBodyRead, bodyTransfer, readBodyCmd, hlo]
  have hbyte : ∀ i, i < 4 → Bytes.u8 (bodyTransfer w s.io.clk len).rx i =
    ((w.read s.io.clk).1 i).toNat := fun i hi => by
    have hlt : i < len := by omega
    simp [Bytes.u8, bodyTransfer, List.getD_eq_getElem?_getD, List.getElem?_range hlt]
  have hcontent : (bodyTransfer w s.io.clk len).responseContentLen = some t.io.lastContentLen := by
    rw [Transfer.responseContentLen, if_pos hprefix, hlen, Bytes.u16, hbyte 1 (by decide),
      hbyte 2 (by decide)]
  refine ⟨?_, ?_, by rw [ht]; exact hcontent, ?_⟩
  · rw [ht, Transfer.responseValid, hcontent]
    simp only [hrx, decide_eq_true_eq, hidspiInputBodyHeaderSize] at hok ⊢
    rw [hok]
    omega
  · rw [ht, Transfer.responseClass, if_pos hprefix, hclass, hbyte 0 (by decide)]
  · rw [ht, Transfer.responseContentId, if_pos hprefix, hid, hbyte 3 (by decide)]

/-- The log of a run, read back by the script: every packet on the wire comes apart into report
type, content id and content, whatever the interleaving; a body is valid exactly where the driver goes on. -/
theorem log_decodes (c : Config) :
    (∀ s ls t, (pm c).Run s ls t → ∃ word : List Bytes, t.threads.ts.io.wire =
    word.reverse ++ s.threads.ts.io.wire ∧
      ∀ packet ∈ word, LogsFrame packet) ∧
    ∀ w s len, hidspiInputBodyHeaderSize ≤ len → len ≤ maxBody → (w.read s.io.clk).2 = none →
      LogsBody w s len := by
  refine ⟨fun s ls t h => ?_, fun w s len => readBody_logs⟩
  obtain ⟨word, -, hw⟩ := run_wrote h
  exact ⟨word, hw.out, fun packet hp => Framed.logs (hw.good packet hp)⟩

/-- The packets of the first start-up, and a body of four bytes. -/
theorem log_decodes_boot : (∃ t, (pm softwareConfig).Run probedPm [.thread boot] t ∧
    t.threads.ts.io.wire.length = 6 ∧
      ∀ packet ∈ t.threads.ts.io.wire, LogsFrame packet) ∧ LogsBody silentWorld probedTs 4 := by
  have hrun : (LTS.exec (pmStep softwareConfig) (fun _ _ => True) probedPm [.thread boot]).any
      (fun t => t.threads.ts.io.wire.length == 6) = true := by decide +kernel
  obtain ⟨t, ht, hl⟩ := (Option.any_eq_true _ _).mp hrun
  have hr : (pm softwareConfig).Run probedPm [.thread boot] t := LTS.run_of_exec ht
  obtain ⟨word, hword, hlog⟩ := (log_decodes softwareConfig).1 probedPm _ t hr
  refine ⟨⟨t, hr, by simpa using hl, fun packet hp => hlog packet ?_⟩,
    (log_decodes softwareConfig).2 silentWorld probedTs 4 (by decide) (by decide) rfl⟩
  rw [hword] at hp
  simpa [probedPm, probed, probedTs, probedIo] using hp

end Power
end Sp11Touch
