import Sp11Touch.L3Driver.InitializeRule
/-!
# What one DATA response does to input (`mshw0485_touch.c`)

`Handled` lists the four ends of `g6ts_handle_data_report` with the events each
of them emits and the state it leaves; `ReadGate` says when the read routine
comes there at all. Both speak of any state, and of what the function leaves in it.

**Results.**
* `handleDataReport_handled`: the input code ends in one of the four ways.
* `notePanelReset_shut`, `noteHostFault_shut`: input is closed, no track is left.
* `dmaReadResponse_gate`: with input closed, or after an error, a read leaves
  flags, tracks and log; with input open it ends with the input code.
-/
namespace Sp11Touch

/-- Input is closed and no track is left. -/
def Ts.Shut (s : Ts) : Prop :=
  s.modeEnabled = false ∧ s.awaitingReadyHeat = false ∧ s.heat.tracks = zeroTracks

/-- The verdict of the parser on the content of the last response. -/
def Ts.heatVerdict (s : Ts) : Except (Exit Errno) Unit :=
  (HeatFrame.extractHeatmap (s.io.content s.io.lastContentLen) s.heat.buf).2

/-- An event that only a DATA response causes. -/
def Event.ofData : Event → Bool
  | .touch _ _ _ => true
  | .contacts _ => true
  | .accepted => true
  | .malformed => true
  | _ => false

/-- From `s` to `t` entries that meet `P` were logged. -/
def Logged (P : Entry → Prop) (s t : Ts) : Prop := ∃ new, t.log = new ++ s.log ∧ ∀ e ∈ new, P e

/-- Not an event of a DATA response. -/
def Entry.Silent (e : Entry) : Prop := e.event.ofData = false

namespace Logged
variable {P Q : Entry → Prop} {s t u : Ts}

theorem refl (s : Ts) : Logged P s s := ⟨[], rfl, nofun⟩

theorem of_log (h : Logged P s t) (hlog : u.log = t.log) : Logged P s u := by
  obtain ⟨new, ht, hP⟩ := h
  exact ⟨new, hlog.trans ht, hP⟩

theorem imp (h : Logged P s t) (himp : ∀ e, P e → Q e) : Logged Q s t := by
  obtain ⟨new, ht, hP⟩ := h
  exact ⟨new, ht, fun e he => himp e (hP e he)⟩

theorem forall_mem (h : Logged P s t) (hs : ∀ e ∈ s.log, P e) : ∀ e ∈ t.log, P e := by
  obtain ⟨new, ht, hP⟩ := h
  intro e he
  rw [ht] at he
  exact (List.mem_append.mp he).elim (hP e) (hs e)

theorem cons (h : Logged P s t) {e : Entry} (he : P e) (hlog : u.log = e :: t.log) :
    Logged P s u := by
  obtain ⟨new, ht, hP⟩ := h
  refine ⟨e :: new, by rw [hlog, ht]; rfl, fun x hx => ?_⟩
  rcases List.mem_cons.mp hx with rfl | hx
  · exact he
  · exact hP x hx

theorem trans (h : Logged P s t) (h' : Logged P t u) : Logged P s u := by
  obtain ⟨new, ht, hP⟩ := h
  obtain ⟨later, hu, hP'⟩ := h'
  refine ⟨later ++ new, by rw [hu, ht, List.append_assoc], fun e he => ?_⟩
  exact (List.mem_append.mp he).elim (hP' e) (hP e)

theorem note (h : Logged Entry.Silent s t) {event : Event} (he : event.ofData = false) :
    Logged Entry.Silent s (t.note event) :=
  h.cons (e := ⟨event, t.modeEnabled, t.awaitingReadyHeat, t.heat.tracks⟩) he rfl

theorem releaseContacts (h : Logged Entry.Silent s t) :
    Logged Entry.Silent s t.releaseContacts := by
  have hreleased : Logged Entry.Silent s { t with heat := Sp11Touch.releaseContacts t.heat } :=
    h.of_log rfl
  exact hreleased.note rfl

end Logged

namespace Driver
open Proc

/-- `s` holds a report that the driver looks at: a report `0x40` of its length, or
report `0x12`, and while the first Heat frame is awaited only the latter. -/
def Known (s : Ts) : Prop :=
  s.io.lastClass = classData ∧ (s.awaitingReadyHeat = true → s.io.lastContentId = heatmapReportId) ∧
    (s.io.lastContentId = 0x40 ∧ s.io.lastContentLen = 5 ∨
      s.io.lastContentId = heatmapReportId ∧ s.io.lastContentLen + 1 ≤ maxBody)

/-- From `s` to `t`, the input code handled the response in the buffer. -/
inductive Handled (c : Config) (s t : Ts) : Prop
  | ignored (hskip : ¬ Known s) (heq : t = s)
  | touch (hclass : s.io.lastClass = classData) (hready : s.awaitingReadyHeat = false)
      (hid : s.io.lastContentId = 0x40) (hlen : s.io.lastContentLen = 5)
      (heq : t = s.note (.touch (s.io.payload 0 % 2 == 1) (s.io.payload16 1) (s.io.payload16 3)))
  | accepted (heat : Heat) (report : Report) (hclass : s.io.lastClass = classData)
      (hid : s.io.lastContentId = heatmapReportId) (hvalid : s.heatVerdict = .ok ())
      (hreport : reportHeatContacts c.p.profile (s.io.content s.io.lastContentLen) s.heat =
        (heat, .ok report))
      (hmode : t.modeEnabled = s.modeEnabled) (hready : t.awaitingReadyHeat = false)
      (hheat : t.heat = heat)
      (hlog : t.log =
        ⟨.contacts report.reported, s.modeEnabled, s.awaitingReadyHeat, heat.tracks⟩ ::
        ⟨.accepted, s.modeEnabled, s.awaitingReadyHeat, s.heat.tracks⟩ :: s.log)
  | malformed (e : Exit Errno) (hclass : s.io.lastClass = classData)
      (hid : s.io.lastContentId = heatmapReportId)
      (hbad : s.heatVerdict = .error e) (hmode : t.modeEnabled = s.modeEnabled)
      (hready : t.awaitingReadyHeat = s.awaitingReadyHeat) (htracks : t.heat.tracks = zeroTracks)
      (hlog : t.log = ⟨.malformed, s.modeEnabled, s.awaitingReadyHeat, zeroTracks⟩ ::
        ⟨.release, s.modeEnabled, s.awaitingReadyHeat, zeroTracks⟩ :: s.log)

/-! ## The input code -/

/-- A Heat frame is reported exactly if the parser accepts it. -/
theorem reportHeatContacts_verdict (c : Config) (s : Ts) :
    (s.heatVerdict = .ok () ∧ ∃ heat report,
      reportHeatContacts c.p.profile (s.io.content s.io.lastContentLen) s.heat =
      (heat, .ok report)) ∨
    ∃ e, s.heatVerdict = .error e ∧ ∃ heat,
      reportHeatContacts c.p.profile (s.io.content s.io.lastContentLen) s.heat =
      (heat, .error e) := by
  unfold Ts.heatVerdict reportHeatContacts
  cases HeatFrame.extractHeatmap (s.io.content s.io.lastContentLen) s.heat.buf with
  | mk buf r => cases r with
    | ok _ => exact Or.inl ⟨rfl, _, _, rfl⟩
    | error e => exact Or.inr ⟨e, rfl, _, rfl⟩

theorem handleHeat_handled (c : Config) {s : Ts} (hclass : s.io.lastClass = classData)
    (hid : s.io.lastContentId = heatmapReportId) : Handled c s (handleHeat c s) := by
  rcases reportHeatContacts_verdict c s with ⟨hvalid, heat, report, hr⟩ | ⟨e, hbad, heat, hr⟩
  · have he : handleHeat c s = acceptedHeat heat report s := by
      unfold handleHeat
      rw [hr]
    rw [he]
    unfold acceptedHeat
    simp only
    split
    · exact .accepted heat report hclass hid hvalid hr rfl rfl rfl rfl
    next hready => exact .accepted heat report hclass hid hvalid hr rfl (Bool.eq_false_iff.mpr hready) rfl rfl
  · have he : handleHeat c s = malformedHeat { s with heat := heat } := by
      unfold handleHeat
      rw [hr]
    rw [he]
    unfold malformedHeat
    simp only
    split <;> exact .malformed e hclass hid hbad rfl rfl rfl rfl

/-- The spec of `g6ts_handle_data_report`, one case for each of its branches. -/
theorem handleDataReport_handled (c : Config) (s : Ts) : Handled c s (handleDataReport c s) := by
  unfold handleDataReport
  split
  · next hclass => exact .ignored (fun hk => hclass hk.1) rfl
  next hclass =>
  have hdata : s.io.lastClass = classData := not_not.mp hclass
  split
  · next hheld => exact .ignored (fun hk => hheld.2 (hk.2.1 hheld.1)) rfl
  next hheld =>
  split
  · next htouch =>
    -- Report `0x40` is not Heat, so the wait is over.
    have hid : s.io.lastContentId ≠ heatmapReportId := by rw [htouch.1]; decide
    have hready : s.awaitingReadyHeat = false := Bool.eq_false_iff.mpr fun ha => hheld ⟨ha, hid⟩
    exact .touch hdata hready htouch.1 htouch.2 rfl
  next htouch =>
  split
  · next hheat => exact handleHeat_handled c hdata hheat.1
  next hheat => exact .ignored (fun hk => hk.2.2.elim htouch hheat) rfl

/-- The input code never touches `mode_enabled`. -/
theorem Handled.modeEnabled {c : Config} {s t : Ts} (h : Handled c s t) :
    t.modeEnabled = s.modeEnabled := by
  cases h with
  | ignored _ heq => rw [heq]
  | touch _ _ _ _ heq => rw [heq]; rfl
  | accepted _ _ _ _ _ _ hmode => exact hmode
  | malformed _ _ _ _ hmode => exact hmode

theorem Handled.logged {c : Config} {s t : Ts} (h : Handled c s t) :
    ∃ new, t.log = new ++ s.log := by
  cases h with
  | ignored _ heq => exact ⟨[], by rw [heq]; rfl⟩
  | touch _ _ _ _ heq => exact ⟨[_], by rw [heq]; rfl⟩
  | accepted _ _ _ _ _ _ _ _ _ hlog => exact ⟨[_, _], hlog⟩
  | malformed _ _ _ _ _ _ _ hlog => exact ⟨[_, _], hlog⟩

/-- The input code emitted this event, in a state with `mode_enabled` set. -/
def Sourced (c : Config) (e : Entry) : Prop :=
  e.event.ofData = true → ∃ s t, s.modeEnabled = true ∧ t = handleDataReport c s ∧ Handled c s t ∧
    ∃ new, t.log = new ++ s.log ∧ e ∈ new

theorem handleDataReport_sourced (c : Config) {s : Ts} (hm : s.modeEnabled = true) :
    Logged (Sourced c) s (handleDataReport c s) := by
  obtain ⟨new, hnew⟩ := (handleDataReport_handled c s).logged
  exact ⟨new, hnew, fun e he _ => ⟨s, _, hm, rfl, handleDataReport_handled c s, new, hnew, he⟩⟩

theorem Sourced.of_silent (c : Config) {e : Entry} (he : e.Silent) : Sourced c e :=
  fun hd => absurd (he.symm.trans hd) Bool.false_ne_true

/-! ## Closing input -/

theorem notePanelReset_shut (c : Config) (w : World) (schedule : Bool) (s : Ts) :
    (notePanelReset c w schedule s).Shut ∧ Logged Entry.Silent s
    (notePanelReset c w schedule s) := by
  obtain ⟨_, _, _, he, _⟩ := notePanelReset_frame c w s
  have hfalse : (notePanelReset c w false s).Shut ∧
    Logged Entry.Silent s (notePanelReset c w false s) := by
    rw [he]
    have hlog : Logged Entry.Silent s (closeForReset c (w.jiffies s.io.clk) s) :=
      (Logged.refl s).of_log rfl
    exact ⟨⟨rfl, rfl, rfl⟩, ((hlog.of_log rfl).releaseContacts).note rfl⟩
  cases schedule with
  | false => exact hfalse
  | true =>
    rw [notePanelReset_true, scheduleRecovery_eq]
    exact ⟨hfalse.1, hfalse.2.of_log rfl⟩

theorem noteHostFault_shut {c : Config} (hf : c.p.hostFaultRecovery = true) (e : Errno) (s : Ts) :
    (noteHostFault c e s).Shut := by
  unfold noteHostFault
  simp only [hf, if_true]
  rw [scheduleRecovery_eq]
  exact ⟨rfl, rfl, rfl⟩

theorem noteHostFault_silent (c : Config) (e : Errno) (s : Ts) :
    Logged Entry.Silent s (noteHostFault c e s) := by
  have hlog : Logged Entry.Silent s (countFault e s) := by
    obtain ⟨_, he⟩ := countFault_frame e s
    rw [he]
    exact (Logged.refl s).of_log rfl
  unfold noteHostFault
  simp only
  split
  · have hclosed : Logged Entry.Silent s (closeForFault (countFault e s)) := hlog.of_log rfl
    rw [scheduleRecovery_eq]
    exact (hclosed.releaseContacts.note rfl).of_log rfl
  · exact hlog

/-! ## The read routine -/

/-- What the gate is made of is as it was. -/
structure GateFrame (s t : Ts) : Prop where
  modeEnabled : t.modeEnabled = s.modeEnabled
  awaitingReadyHeat : t.awaitingReadyHeat = s.awaitingReadyHeat
  heat : t.heat = s.heat
  log : t.log = s.log

theorem GateFrame.refl (s : Ts) : GateFrame s s := ⟨rfl, rfl, rfl, rfl⟩

theorem gateFrame_rule (s0 : Ts) : PacketRule (GateFrame s0) where
  io _ _ h := ⟨h.modeEnabled, h.awaitingReadyHeat, h.heat, h.log⟩
  latch _ h := ⟨h.modeEnabled, h.awaitingReadyHeat, h.heat, h.log⟩

/-- What a read does to the gate, by its result. -/
structure ReadGate (c : Config) (s : Ts) (r : Ts × Except Errno Unit) : Prop where
  closed : s.modeEnabled = false → GateFrame s r.1
  failed : ∀ e, r.2 = .error e → GateFrame s r.1
  /-- the response was read into the buffers of `t`, and the input code has handled it there -/
  handled : s.modeEnabled = true → r.2 = .ok () →
    ∃ t, GateFrame s t ∧ t.io = r.1.io ∧ r.1 = handleDataReport c t ∧ Handled c t r.1

theorem handleDataReport_io (c : Config) (s : Ts) : (handleDataReport c s).io = s.io := by
  obtain ⟨_, _, _, _, he⟩ := handleDataReport_frame c s
  rw [he]

theorem dmaReadResponse_gate (c : Config) (w : World) (s : Ts) :
    ReadGate c s (dmaReadResponse c w s) := by
  have h : Triple (GateFrame s) (dmaReadResponse c w)
      (fun _ r => ∃ t, GateFrame s t ∧ t.io = r.io ∧
      r = if s.modeEnabled then handleDataReport c t else t)
      (fun _ => GateFrame s) := by
    have rule := gateFrame_rule s
    refine Triple.bind (rule.modifyIo _) fun _ => Triple.bind rule.takeEdges fun _ =>
      Triple.bind rule.readHeader
      fun _ => Triple.bind (IoRule.getsIo _) fun len => Triple.bind (rule.readBody len) fun _ =>
        Triple.bind (rule.modifyIo _) fun _ => ?_
    intro t ht
    have hm := ht.modeEnabled
    cases hs : s.modeEnabled with
    | true =>
      simp only [Proc.bind_apply, gets_apply, onlyIf, hm, hs, if_true, modify_apply]
      exact ⟨t, ht, (handleDataReport_io c t).symm, rfl⟩
    | false =>
      simp only [Proc.bind_apply, gets_apply, onlyIf, hm, hs, Bool.false_eq_true, if_false]
      exact ⟨t, ht, rfl, rfl⟩
  have hr := h s (GateFrame.refl s)
  revert hr
  cases dmaReadResponse c w s with
  | mk r res => cases res with
    | error e =>
      intro hr
      refine ⟨fun _ => hr, fun _ _ => hr, fun _ hok => ?_⟩
      cases hok
    | ok _ =>
      intro hr
      obtain ⟨t, ht, hio, heq⟩ := hr
      refine ⟨fun hs => ?_, fun _ he => by simp at he, fun hs _ => ⟨t, ht, hio, ?_⟩⟩
      · rw [hs] at heq
        simp only [heq, Bool.false_eq_true, if_false]
        exact ht
      · rw [hs] at heq
        simp only [if_true] at heq
        simp only [heq]
        exact ⟨trivial, handleDataReport_handled c t⟩

end Driver
end Sp11Touch
