import Sp11Touch.L3Driver.GateLog
import Sp11Touch.L3Driver.StormFields
/-!
# The input gate

What a section of the IRQ thread or of the worker leaves of the gate, by its
outcome: a noted reset, a recovered host fault and a failed attempt leave input
closed and no track, and a section that begins with input closed emits no event
of a DATA response. `DataReport` says the same of one response, `GateLog` of
the history.

**Results.**
* `irqSection_gate`, `recoverySection_work`: the sections, by the rules for the
  drain and for initialization.
* `Held.step`: from a state whose open input waits, the wait goes on until a
  Heat frame is accepted.
* `input_gate`: `InputGate`, all of it, in every reachable state.
-/
namespace Sp11Touch.Driver
open Proc

/-! ## The IRQ thread -/

/-- From `s` to `t` a section of the IRQ thread ended at `exit`. -/
structure IrqGate (c : Config) (s t : Ts) (exit : DrainExit) : Prop where
  closed : s.modeEnabled = false → t.modeEnabled = false ∧ Logged Entry.Silent s t
  sourced : Logged (Sourced c) s t
  reset : exit = .reset → t.Shut
  fault : ∀ e, exit = .fault e → c.p.hostFaultRecovery = true → t.Shut
  /-- a reset or a fault, whichever way it came to be counted -/
  noted : t.stats.resetNotifications ≠ s.stats.resetNotifications → t.Shut
  counted : hostFaults t ≠ hostFaults s → c.p.hostFaultRecovery = true → t.Shut

/-- Between the turns of the drain nothing is counted. -/
structure IrqWay (c : Config) (s0 t : Ts) : Prop where
  storm : StormFrame s0 t
  closed : s0.modeEnabled = false → t.modeEnabled = false ∧ Logged Entry.Silent s0 t
  sourced : Logged (Sourced c) s0 t

theorem irqWay_rule (c : Config) (s0 : Ts) : ReadRule c (IrqWay c s0) where
  io s io h := ⟨(stormFrame_rule c s0).io s io h.storm,
    fun hs => ⟨(h.closed hs).1, (h.closed hs).2.of_log rfl⟩,
    h.sourced.of_log rfl⟩
  latch s h := ⟨(stormFrame_rule c s0).latch s h.storm,
    fun hs => ⟨(h.closed hs).1, (h.closed hs).2.of_log rfl⟩, h.sourced.of_log rfl⟩
  data s h hm := ⟨(stormFrame_rule c s0).data s h.storm hm,
    fun hs => absurd ((h.closed hs).1.symm.trans hm) Bool.false_ne_true,
    h.sourced.trans (handleDataReport_sourced c hm)⟩

/-- An exit that counts nothing. -/
theorem IrqWay.quiet {c : Config} {s t u : Ts} {exit : DrainExit} (h : IrqWay c s t)
    (hlog : u.log = t.log)
    (hm : u.modeEnabled = t.modeEnabled) (hn : u.stats.resetNotifications =
      t.stats.resetNotifications)
    (hf : hostFaults u = hostFaults t) (hreset : exit ≠ .reset) (hfault : ∀ e, exit ≠ .fault e) :
    IrqGate c s u exit where
  closed hs := ⟨hm.trans (h.closed hs).1, (h.closed hs).2.of_log hlog⟩
  sourced := h.sourced.of_log hlog
  reset he := absurd he hreset
  fault e he := absurd he (hfault e)
  noted hne := absurd (hn.trans h.storm.notifications) hne
  counted hne := absurd (hf.trans h.storm.faults) hne

theorem IrqWay.reset {c : Config} {s t : Ts} (h : IrqWay c s t) (w : World) :
    IrqGate c s (notePanelReset c w true t) .reset where
  closed hs := ⟨(notePanelReset_shut c w true t).1.1,
    (h.closed hs).2.trans (notePanelReset_shut c w true t).2⟩
  sourced := h.sourced.trans ((notePanelReset_shut c w true t).2.imp fun _ => Sourced.of_silent c)
  reset _ := (notePanelReset_shut c w true t).1
  fault _ he := nomatch he
  noted _ := (notePanelReset_shut c w true t).1
  counted _ _ := (notePanelReset_shut c w true t).1

theorem noteHostFault_modeEnabled (c : Config) (e : Errno) {s : Ts} (h : s.modeEnabled = false) :
    (noteHostFault c e s).modeEnabled = false := by
  obtain ⟨_, he⟩ := countFault_frame e s
  unfold noteHostFault
  simp only
  split
  · rw [scheduleRecovery_eq]
    rfl
  · rw [he]
    exact h

theorem IrqWay.fault {c : Config} {s t : Ts} {exit : DrainExit} (h : IrqWay c s t) (e : Errno)
    (hreset : exit ≠ .reset) : IrqGate c s (noteHostFault c e t) exit where
  closed hs := ⟨noteHostFault_modeEnabled c e (h.closed hs).1,
    (h.closed hs).2.trans (noteHostFault_silent c e t)⟩
  sourced := h.sourced.trans ((noteHostFault_silent c e t).imp fun _ => Sourced.of_silent c)
  reset he := absurd he hreset
  fault _ _ hf := noteHostFault_shut hf e t
  noted hne := absurd (noteHostFault_faulted c e h.storm).notifications hne
  counted _ hf := noteHostFault_shut hf e t

theorem gate_drainRule (c : Config) (w : World) (s : Ts) :
    DrainRule c w (IrqWay c s) (fun _ => IrqWay c s) (fun exit t => IrqGate c s t exit) where
  unread := Triple.conseq (irqWay_rule c s).hasUnreadResponse (fun _ h => h)
    (fun _ _ h => ⟨fun _ => h, fun _ => h.quiet rfl rfl rfl rfl nofun nofun⟩)
    fun _ _ h => h.quiet rfl rfl rfl rfl nofun nofun
  read := (irqWay_rule c s).dmaReadResponse
  again _ h := h.quiet rfl rfl rfl rfl nofun nofun
  fault e _ _ h := h.fault e nofun
  reset _ h := h.reset w
  single _ _ h := h.quiet rfl rfl rfl rfl nofun nofun

theorem irqSection_gate (c : Config) (w : World) (s : Ts) :
    IrqGate c s (irqSection c w s).1 (irqSection c w s).2 := by
  have hstart : IrqWay c s s := ⟨.refl s, fun hs => ⟨hs, .refl s⟩, .refl s⟩
  rcases (gate_drainRule c w s).irqSection hstart with ⟨exit, hexit, he⟩ | ⟨hfull, t, ht, heq⟩
  · rcases he with ⟨rfl, hfull⟩ | ⟨_, rfl⟩
    · rw [hfull]
      exact ⟨hexit.closed, hexit.sourced, nofun, nofun, hexit.noted, hexit.counted⟩
    · exact hexit
  · have hcounted : IrqWay c s { t with stats.irqDrainOverflows :=
      t.stats.irqDrainOverflows + 1 } :=
      ⟨⟨ht.storm.streak, ht.storm.last, ht.storm.path, ht.storm.notifications, ht.storm.faults,
        ht.storm.successes,
        ht.storm.stopping⟩, fun hs => ⟨(ht.closed hs).1, (ht.closed hs).2.of_log rfl⟩,
          ht.sourced.of_log rfl⟩
    rw [hfull, heq]
    exact hcounted.fault _ nofun

/-! ## The worker -/

/-- From `s` to `t` a section of the worker had `outcome`. -/
structure WorkGate (c : Config) (s t : Ts) (outcome : Outcome) : Prop where
  silent : Logged Entry.Silent s t
  stopped : outcome = .stopped → t = s
  failed : ∀ retry, outcome = .failure retry → t.Shut
  succeeded : outcome = .success →
    t.heat.tracks = zeroTracks ∧ (t.modeEnabled = true ∧ t.awaitingReadyHeat = c.awaits ∨ t.Shut)
  /-- a reset inside the attempt -/
  noted : t.stats.resetNotifications ≠ s.stats.resetNotifications → t.Shut

/-- During initialization input is closed. -/
structure WorkWay (s0 t : Ts) : Prop where
  shut : t.Shut
  silent : Logged Entry.Silent s0 t

/-- Initialization returned: input is open, or a provider boundary left it closed. -/
structure WorkDone (c : Config) (s0 t : Ts) : Prop where
  silent : Logged Entry.Silent s0 t
  notifications : t.stats.resetNotifications = s0.stats.resetNotifications
  tracks : t.heat.tracks = zeroTracks
  gate : t.modeEnabled = true ∧ t.awaitingReadyHeat = c.awaits ∨ t.Shut

theorem workWay_exitRule (c : Config) (w : World) (s0 : Ts) :
    ExitRule c w (fun t => WorkWay s0 t ∧ t.stats.resetNotifications = s0.stats.resetNotifications)
    (WorkWay s0)
      (WorkDone c s0) where
  io _ _ h := ⟨⟨h.1.shut, h.1.silent.of_log rfl⟩, h.2⟩
  latch _ h := ⟨⟨h.1.shut, h.1.silent.of_log rfl⟩, h.2⟩
  data _ h hm := absurd (h.1.shut.1.symm.trans hm) Bool.false_ne_true
  reset s h := ⟨(notePanelReset_shut c w false s).1,
    h.1.silent.trans (notePanelReset_shut c w false s).2⟩
  fail _ h := h.1
  close _ h := ⟨⟨⟨rfl, h.1.shut.2⟩, h.1.silent.of_log rfl⟩, h.2⟩
  closeFailed _ h := ⟨⟨rfl, h.shut.2⟩, h.silent.of_log rfl⟩
  paused _ h := ⟨h.1.silent, h.2, h.1.shut.2.2, Or.inr h.1.shut⟩
  opened s h :=
    have hopen : Logged Entry.Silent s0 { s with awaitingReadyHeat := c.awaits, modeEnabled := true } :=
      h.1.silent.of_log rfl
    ⟨hopen.note rfl, h.2, h.1.shut.2.2, Or.inl ⟨rfl, rfl⟩⟩

theorem beginAttempt_way (s : Ts) : WorkWay s (beginInitialization (beginAttempt s)) := by
  have hattempt : Logged Entry.Silent s { s with modeEnabled := false } :=
    (Logged.refl s).of_log rfl
  have hnoted : Logged Entry.Silent s ({ s with modeEnabled := false }.note .attempt) :=
    hattempt.note rfl
  have hbegun : Logged Entry.Silent s (beginAttempt s) := hnoted.releaseContacts
  exact ⟨⟨rfl, rfl, rfl⟩, hbegun.of_log rfl⟩

theorem attemptFailed_silent (path : RecoveryPath) (s : Ts) :
    Logged Entry.Silent s (attemptFailed path s).1 := by
  have hcounted : Logged Entry.Silent s { s with
      stats.recoveryFailures := s.stats.recoveryFailures + 1
      recoveryFailStreak := s.recoveryFailStreak + 1 } := (Logged.refl s).of_log rfl
  have hfailed : Logged Entry.Silent s (countFailure s) := hcounted.note rfl
  unfold attemptFailed
  simp only
  split
  · exact hfailed.of_log rfl
  · exact hfailed

/-- A failure is counted, and no more. -/
theorem attemptFailed_flags (path : RecoveryPath) (s : Ts) :
    (attemptFailed path s).1.modeEnabled = s.modeEnabled ∧
      (attemptFailed path s).1.awaitingReadyHeat = s.awaitingReadyHeat ∧
      (attemptFailed path s).1.heat = s.heat := by
  unfold attemptFailed
  simp only
  split <;> exact ⟨rfl, rfl, rfl⟩

theorem attemptFailed_way {s0 t : Ts} (path : RecoveryPath) (h : WorkWay s0 t) :
    WorkWay s0 (attemptFailed path t).1 := by
  obtain ⟨hmode, hready, hheat⟩ := attemptFailed_flags path t
  refine ⟨⟨hmode.trans h.shut.1, hready.trans h.shut.2.1, ?_⟩,
    h.silent.trans (attemptFailed_silent path t)⟩
  rw [hheat]
  exact h.shut.2.2

theorem recoverySection_work (c : Config) (w : World) (s : Ts) :
    WorkGate c s (recoverySection c w s).1 (recoverySection c w s).2 := by
  have hf := (workWay_exitRule c w s).fullReinitializeLocked s.recoveryPath (beginAttempt s)
    ⟨beginAttempt_way s, rfl⟩
  unfold recoverySection attempt
  split
  · exact ⟨.refl s, fun _ => rfl, nofun, nofun, fun hne => absurd rfl hne⟩
  · revert hf
    cases fullReinitializeLocked c w s.recoveryPath (beginAttempt s) with
    | mk t r => cases r with
      | ok _ =>
        intro ht
        exact ⟨ht.silent.of_log rfl, nofun, nofun, fun _ => ⟨ht.tracks, ht.gate⟩,
          fun hne => absurd ht.notifications hne⟩
      | error _ =>
        intro ht
        have hfailed := attemptFailed_way s.recoveryPath ht.1
        exact ⟨hfailed.silent, nofun, fun _ _ => hfailed.shut, nofun, fun _ => hfailed.shut⟩

/-! ## The wait for the first Heat frame -/

/-- Open input awaits its first Heat frame. -/
def Awaiting (s : Ts) : Prop := s.modeEnabled = true → s.awaitingReadyHeat = true

/-- Unless a Heat frame was accepted since `s0`, no report `0x40` was forwarded, no
contact was reported and open input still waits. -/
def Held (s0 t : Ts) : Prop := ∃ new, t.log = new ++ s0.log ∧
  ((∀ e ∈ new, e.event ≠ .accepted) → Awaiting t ∧ ∀ e ∈ new, e.event.fromData = false)

theorem Held.of_log {s0 t u : Ts} (h : Held s0 t) (hlog : u.log = t.log)
    (hw : Awaiting t → Awaiting u) :
    Held s0 u := by
  obtain ⟨new, ht, himp⟩ := h
  exact ⟨new, hlog.trans ht, fun hno => ⟨hw (himp hno).1, (himp hno).2⟩⟩

theorem Held.silent {s0 t u : Ts} (h : Held s0 t) (hs : Logged Entry.Silent t u)
    (hw : Awaiting t → Awaiting u) :
    Held s0 u := by
  obtain ⟨new, ht, himp⟩ := h
  obtain ⟨later, hu, hsilent⟩ := hs
  refine ⟨later ++ new, by rw [hu, ht, List.append_assoc], fun hno => ?_⟩
  obtain ⟨hwait, hdata⟩ := himp fun e he => hno e (List.mem_append_right _ he)
  refine ⟨hw hwait, fun e he => ?_⟩
  rcases List.mem_append.mp he with hl | hn
  · exact Event.fromData_of_ofData (hsilent e hl)
  · exact hdata e hn

theorem awaiting_of_shut {s : Ts} (h : s.Shut) : Awaiting s :=
  fun hm => absurd (h.1.symm.trans hm) Bool.false_ne_true

/-- A response at open input: report `0x40` is held back, and a malformed frame changes nothing. -/
theorem Held.data {c : Config} {s0 t u : Ts} (h : Held s0 t) (hm : t.modeEnabled = true)
    (hu : Handled c t u) :
    Held s0 u := by
  cases hu with
  | ignored _ heq =>
    rw [heq]
    exact h
  | touch _ hready _ _ heq =>
    obtain ⟨new, ht, himp⟩ := h
    rw [heq]
    refine ⟨_ :: new, congrArg (_ :: ·) ht, fun hno => ?_⟩
    have hwait := (himp fun e he => hno e (List.mem_cons_of_mem _ he)).1 hm
    exact absurd (hready.symm.trans hwait) Bool.false_ne_true
  | accepted _ _ _ _ _ _ _ _ _ hlog =>
    obtain ⟨new, ht, _⟩ := h
    refine ⟨_ :: _ :: new, by rw [hlog, ht]; rfl, fun hno => ?_⟩
    exact absurd rfl (hno _ (List.mem_cons_of_mem _ List.mem_cons_self))
  | malformed _ _ _ _ hmode hready _ hlog =>
    obtain ⟨new, ht, himp⟩ := h
    refine ⟨_ :: _ :: new, by rw [hlog, ht]; rfl, fun hno => ?_⟩
    obtain ⟨hwait, hdata⟩ := himp fun e he =>
      hno e (List.mem_cons_of_mem _ (List.mem_cons_of_mem _ he))
    refine ⟨fun _ => hready.trans (hwait hm), fun e he => ?_⟩
    rcases List.mem_cons.mp he with rfl | he
    · rfl
    rcases List.mem_cons.mp he with rfl | he
    · rfl
    · exact hdata e he

theorem noteHostFault_awaiting (c : Config) (e : Errno) {s : Ts} (h : Awaiting s) :
    Awaiting (noteHostFault c e s) := by
  by_cases hf : c.p.hostFaultRecovery = true
  · exact awaiting_of_shut (noteHostFault_shut hf e s)
  · obtain ⟨_, he⟩ := countFault_frame e s
    unfold noteHostFault
    simp only [if_neg hf, he]
    exact h

theorem held_irqRule (c : Config) (w : World) (s0 : Ts) : IrqRule c w (Held s0) where
  io _ _ h := h.of_log rfl id
  latch _ h := h.of_log rfl id
  data s h hm := h.data hm (handleDataReport_handled c s)
  reset s h := h.silent (notePanelReset_shut c w true s).2 fun _ =>
    awaiting_of_shut (notePanelReset_shut c w true s).1
  fault e s h := h.silent (noteHostFault_silent c e s) (noteHostFault_awaiting c e)
  counted _ _ h := h.of_log rfl id

/-- Initialization opens input to wait. -/
theorem held_initRule {c : Config} (ha : c.awaits = true) (w : World) (s0 : Ts) :
    InitRule c w (Held s0) (Held s0) where
  toReadRule := (held_irqRule c w s0).toReadRule
  reset s h :=
    h.silent (notePanelReset_shut c w false s).2 fun _ =>
      awaiting_of_shut (notePanelReset_shut c w false s).1
  close _ h := h.of_log rfl fun _ hm => absurd hm Bool.false_ne_true
  paused _ h := h
  opened s h :=
    have hopen : Held s0 { s with awaitingReadyHeat := c.awaits, modeEnabled := true } :=
      h.of_log rfl fun _ _ => ha
    hopen.silent ((Logged.refl _).note rfl) id

theorem held_recoverySection {c : Config} (ha : c.awaits = true) (w : World) {s0 s : Ts}
    (h : Held s0 s) :
    Held s0 (recoverySection c w s).1 :=
  recoverySection_rule (held_initRule ha w s0)
    (fun s hs => hs.silent (beginAttempt_way s).silent fun _ =>
    awaiting_of_shut (beginAttempt_way s).shut)
    (fun _ _ hs => hs.of_log rfl id)
    (fun path s hs hm => hs.silent (attemptFailed_silent path s) fun _ ht =>
      absurd (((attemptFailed_flags path s).1.trans hm).symm.trans ht) Bool.false_ne_true) h

/-- The step lemma. -/
theorem Held.step {c : Config} (ha : c.awaits = true) {s0 : Ts} {s t : Threads} {l : Label}
    (h : Held s0 s.ts)
    (hst : threadStep c s l = some t) : Held s0 t.ts :=
  threadStep_keeps (fun _ _ hs => hs.of_log rfl id)
    (fun w _ hs => (held_irqRule c w s0).irqSection hs)
    (fun w _ hs => held_recoverySection ha w hs) h hst

theorem held_run {c : Config} (ha : c.awaits = true) {s t : Threads} {ls : List Label}
    (hr : (driver c).Run s ls t)
    (hw : Awaiting s.ts) : Held s.ts t.ts :=
  hr.keeps (I := fun t => Held s.ts t.ts) (fun _ _ _ hs hst => hs.step ha hst)
    ⟨[], rfl, fun _ => ⟨hw, nofun⟩⟩

/-! ## Every run -/

theorem sourced_inductive (c : Config) : (driver c).Inductive fun s => ∀ e ∈
    s.ts.log, Sourced c e where
  init s hs := by
    rw [hs.1.log]
    exact nofun
  step _ _ _ := threadStep_keeps (fun _ _ hs => hs)
    (fun w s hs => (irqSection_gate c w s).sourced.forall_mem hs)
    fun w s hs => ((recoverySection_work c w s).silent.imp fun _ =>
      Sourced.of_silent c).forall_mem hs

/-- What the gate guarantees in the state `s` of a run. -/
structure InputGate (c : Config) (s : Threads) : Prop where
  log : LogGate s.ts.log
  sourced : ∀ e ∈ s.ts.log, Sourced c e
  /-- one response, read in any state that a section passes through -/
  read : ∀ w u, ReadGate c u (dmaReadResponse c w u)
  irq : ∀ w, IrqGate c s.ts (irqSection c w s.ts).1 (irqSection c w s.ts).2
  work : ∀ w, WorkGate c s.ts (recoverySection c w s.ts).1 (recoverySection c w s.ts).2
  /-- from the opening on, along every run -/
  waits : c.awaits = true → Awaiting s.ts → ∀ ls t, (driver c).Run s ls t → Held s.ts t.ts

/-- **The input gate**: it holds along every run of IRQ thread and worker, for
every panel, in every configuration. -/
theorem input_gate (c : Config) (s : Threads) (h : (driver c).Reachable s) : InputGate c s where
  log := ((gate_inductive c).reachable s h).log.logGate
  sourced := (sourced_inductive c).reachable s h
  read w u := dmaReadResponse_gate c w u
  irq w := irqSection_gate c w s.ts
  work w := recoverySection_work c w s.ts
  waits ha hw _ _ hr := held_run ha hr hw

/-- Input opens and waits, then the panel resets. -/
theorem input_gate_after_reset :
    ∃ s, (driver softwareConfig).Run probed [boot, .leave, .irqEnter,
    .irq (panel [resetResponse] 47)] s ∧
      s.ts.log.length = 5 ∧ InputGate softwareConfig s := by
  have hrun : (LTS.exec (threadStep softwareConfig) (fun _ _ => True) probed
      [boot, .leave, .irqEnter, .irq (panel [resetResponse] 47)]).any
      (fun s => s.ts.log.length == 5) = true := by
    decide +kernel
  obtain ⟨s, hs, hl⟩ := (Option.any_eq_true _ _).mp hrun
  have hr : (driver softwareConfig).Run probed _ s := LTS.run_of_exec hs
  exact ⟨s, hr, by simpa using hl, input_gate softwareConfig s ⟨probed, _, probed_init, hr⟩⟩

end Sp11Touch.Driver
