import Sp11Touch.L4Power.Pm
/-!
# What suspend and remove leave behind

`g6ts_suspend` clears `mode_enabled` before it stops the worker. A worker
section that reinitializes the panel in between sets it again, and the
suspend returns zero with input open. `g6ts_remove` sets `stopping` first,
which the worker tests under the lock. Each section under `io_lock` is one step:
of a removal whose flags are written while the worker is past that test and
still in its section, nothing is said.

**Results.**
* `quietAt_inductive`: what holds at each point of the calls (`QuietAt`), along
  every run in which no such section falls into the window.
* `suspend_quiesces`: then input is closed and no work pending when suspend or
  remove returns; and every section that opens input in the window can be
  continued to a suspend that returns with input open.
  `suspend_returns_open` is such a run from the probed device.
-/
namespace Sp11Touch.Power
open Driver

/-- Between the write of `mode_enabled` in `g6ts_suspend` and its
`cancel_delayed_work_sync`. -/
def InWindow (pc : PmPc) : Prop := pc = .suspendIrq ∨ pc = .suspendCancel

/-- In the window no section of the worker ends with input open. -/
def KeepsShut (c : Config) (s : Pm) : PmLabel → Prop
  | .thread (.work w) => InWindow s.pc → opensInput c w s.threads = false
  | _ => True

instance (pc : PmPc) : Decidable (InWindow pc) :=
  inferInstanceAs (Decidable (pc = .suspendIrq ∨ pc = .suspendCancel))

instance (c : Config) (s : Pm) : (l : PmLabel) → Decidable (KeepsShut c s l)
  | .thread (.work w) => inferInstanceAs (Decidable (InWindow s.pc → opensInput c w s.threads = false))
  | .thread .irqEnter => isTrue trivial
  | .thread (.irq _) => isTrue trivial
  | .thread .leave => isTrue trivial
  | .suspend _ => isTrue trivial
  | .resume _ => isTrue trivial
  | .remove _ => isTrue trivial

def Returned (pc : PmPc) : Prop := pc = .suspended ∨ pc = .removed

/-- Input is closed, and no thread is left to open it. -/
structure Suspended (t : Threads) : Prop where
  modeEnabled : t.ts.modeEnabled = false
  workPending : t.ts.workPending = false
  leaving : t.leaving = none
  irqEntered : t.irqEntered = false
  irqDepth : 0 < t.ts.irqDepth

structure Removed (t : Threads) : Prop where
  modeEnabled : t.ts.modeEnabled = false
  workPending : t.ts.workPending = false
  leaving : t.leaving = none
  stopping : t.ts.stopping = true

/-- What holds at each point of the calls. -/
def QuietAt (t : Threads) : PmPc → Prop
  | .suspendIrq => t.ts.modeEnabled = false
  | .suspendCancel => t.ts.modeEnabled = false ∧ t.irqEntered = false ∧ 0 < t.ts.irqDepth
  | .suspendSection => Suspended t
  | .suspended => Suspended t
  | .removeFlag => t.ts.stopping = true
  | .removeCancel => t.ts.stopping = true ∧ t.ts.modeEnabled = false
  | .removeSection => Removed t
  | .removePower => Removed t
  | .removed => Removed t
  | _ => True

/-! ## The threads -/

theorem Suspended.thread {c : Config} {l : Label} {t u : Threads} (h : Suspended t)
    (hf : ThreadFrame c l t u) :
    Suspended u := by
  obtain ⟨hp, hl⟩ := hf.idle h.workPending h.leaving (Or.inl h.irqEntered)
  refine ⟨hf.closed h.modeEnabled fun w _ hw _ => ?_, hp, hl, hf.entered h.irqEntered h.irqDepth,
    hf.irqDepth ▸ h.irqDepth⟩
  rw [h.workPending] at hw
  cases hw

theorem Removed.thread {c : Config} {l : Label} {t u : Threads} (h : Removed t)
    (hf : ThreadFrame c l t u) :
    Removed u := by
  obtain ⟨hp, hl⟩ := hf.idle h.workPending h.leaving (Or.inr h.stopping)
  refine ⟨hf.closed h.modeEnabled fun w _ hw _ => ?_, hp, hl, hf.stopping.trans h.stopping⟩
  rw [h.workPending] at hw
  cases hw

theorem quietAt_thread {c : Config} {s : Pm} {l : Label} {u : Threads} (hs : QuietAt s.threads s.pc)
    (hc : KeepsShut c s (.thread l)) (hf : ThreadFrame c l s.threads u) : QuietAt u s.pc := by
  have hshut : InWindow s.pc → s.threads.ts.modeEnabled = false → u.ts.modeEnabled = false := by
    intro hw hm
    refine hf.closed hm fun w hl _ _ => ?_
    subst hl
    exact hc hw
  revert hs hshut
  cases s.pc with
  | suspendIrq => exact fun hs hshut => hshut (Or.inl rfl) hs
  | suspendCancel =>
    intro hs hshut
    obtain ⟨hm, he, hd⟩ := hs
    exact ⟨hshut (Or.inr rfl) hm, hf.entered he hd, hf.irqDepth ▸ hd⟩
  | suspendSection => exact fun hs _ => Suspended.thread hs hf
  | suspended => exact fun hs _ => Suspended.thread hs hf
  | removeFlag => exact fun hs _ => hf.stopping.trans hs
  | removeCancel =>
    intro hs _
    obtain ⟨hstop, hm⟩ := hs
    refine ⟨hf.stopping.trans hstop, hf.closed hm fun w _ _ hno => ?_⟩
    rw [hstop] at hno
    cases hno
  | removeSection => exact fun hs _ => Removed.thread hs hf
  | removePower => exact fun hs _ => Removed.thread hs hf
  | removed => exact fun hs _ => Removed.thread hs hf
  | _ => exact fun _ _ => trivial

/-! ## The calls -/

theorem Suspended.power {t : Threads} (h : Suspended t) {s : Ts} (hf : PowerFrame t.ts s) :
    Suspended { t with ts := s } :=
  ⟨hf.modeEnabled.trans h.modeEnabled, hf.workPending.trans h.workPending, h.leaving, h.irqEntered,
    hf.irqDepth ▸ h.irqDepth⟩

theorem Removed.power {t : Threads} (h : Removed t) {s : Ts} (hf : PowerFrame t.ts s) :
    Removed { t with ts := s } :=
  ⟨hf.modeEnabled.trans h.modeEnabled, hf.workPending.trans h.workPending, h.leaving,
    hf.stopping.trans h.stopping⟩

theorem quietAt_called {c : Config} {w : World} {s t : Pm} (hs : QuietAt s.threads s.pc)
    (h : Called c w s t) :
    QuietAt t.threads t.pc := by
  obtain ⟨threads, pc, failed⟩ := s
  obtain ⟨pc', u, hstep, rfl⟩ := h
  cases hstep with
  | suspendFlag _ => exact rfl
  | suspendIrq he => exact ⟨hs, he, Nat.succ_pos _⟩
  | suspendCancel hl =>
    obtain ⟨hm, he, hd⟩ := hs
    exact ⟨hm, rfl, hl, he, hd⟩
  | suspendOff hr =>
    have hf := suspendPower_frame c w threads.ts
    rw [hr] at hf
    exact Suspended.power hs hf
  | removeFlag _ => exact rfl
  | removeClose => exact ⟨hs, rfl⟩
  | removeCancel hl =>
    obtain ⟨hstop, hm⟩ := hs
    exact ⟨hm, rfl, hl, hstop⟩
  | removeRelease => exact Removed.power hs ⟨rfl, rfl, rfl, rfl⟩
  | removePower => exact Removed.power hs (powerOff_frame c w threads.ts)
  | _ => trivial

theorem quietAt_inductive (c : Config) :
    ((pm c).restrict (KeepsShut c)).Inductive fun s => QuietAt s.threads s.pc where
  init s hs := by rw [hs.pc]; trivial
  step s l t hs hst := by
    obtain ⟨h, hc⟩ := hst
    rcases pmStep_cases h with ⟨l, u, rfl, hu, rfl⟩ | ⟨w, hcall⟩
    · have hnext : QuietAt u s.pc := quietAt_thread hs hc (threadStep_frame hu)
      exact hnext
    · exact quietAt_called hs hcall

theorem QuietAt.returned {t : Threads} {pc : PmPc} (h : QuietAt t pc) (hr : Returned pc) :
    t.ts.modeEnabled = false ∧ t.ts.workPending = false := by
  rcases hr with rfl | rfl
  · exact ⟨h.modeEnabled, h.workPending⟩
  · exact ⟨h.modeEnabled, h.workPending⟩

/-! ## The window is exactly that -/

theorem suspendPower_silent (c : Config) (t : Ts) :
    ∃ u, suspendPower c silentWorld t = (u, .ok ()) ∧ u.modeEnabled = t.modeEnabled := by
  unfold suspendPower powerOff
  cases c.gpioPair with
  | true => exact ⟨t.releaseContacts, rfl, rfl⟩
  | false => exact ⟨{ t.releaseContacts with io.clk := t.releaseContacts.io.clk + 1 }, rfl, rfl⟩

/-- The IRQ thread finds nothing there. -/
theorem irqSection_silent (c : Config) (s : Ts) :
    irqSection c silentWorld s = ({ s with io.clk := s.io.clk + 2 }, .empty) := by
  have hu : hasUnreadResponse silentWorld s = ({ s with io.clk := s.io.clk + 2 }, .ok false) := by
    simp [hasUnreadResponse, pending, newEdges, ask, getsIo, silentWorld, Proc.bind_apply,
      Proc.pure_apply]
  have ht : drainTurn c silentWorld s = ({ s with io.clk := s.io.clk + 2 }, some .empty) := by
    rw [drainTurn, hu]
  have hl : drainLoop c silentWorld irqDrainLimit s =
    ({ s with io.clk := s.io.clk + 2 }, .empty) := by
    rw [irqDrainLimit, drainLoop, ht]
  rw [irqSection, hl]

/-- From the last step of the window, with the worker on its way out. -/
theorem returns_open_from_cancel {c : Config} {s : Pm} {retry : Bool} (hpc : s.pc = .suspendCancel)
    (hl : s.threads.leaving = some retry) (hm : s.threads.ts.modeEnabled = true) :
    ∃ ls t, (pm c).Run s ls t ∧ t.pc = .suspended ∧ t.threads.ts.modeEnabled = true := by
  let s1 : Pm := { s with threads := { s.threads with ts := reschedule retry s.threads.ts, leaving := none } }
  let s2 : Pm := advance cancelWork .suspendSection s1
  obtain ⟨u, hu, hmu⟩ := suspendPower_silent c s2.threads.ts
  have hm1 : s1.threads.ts.modeEnabled = true := by
    simp only [s1, reschedule]
    split
    · rw [scheduleRecovery_eq]; exact hm
    · exact hm
  have h1 : pmStep c s (.thread .leave) = some s1 := by simp [pmStep, threadStep, hl, s1]
  have h2 : pmStep c s1 (.suspend silentWorld) = some s2 := by
    simp [pmStep, suspendStep, s1, s2, hpc]
  have h3 : pmStep c s2 (.suspend silentWorld) = some (advance (fun _ => u) .suspended s2) := by
    simp only [pmStep, suspendStep, show s2.pc = .suspendSection from rfl, hu]
  exact ⟨_, _, .cons h1 (.cons h2 (.cons h3 (.nil _))), rfl, hmu.trans hm1⟩

/-- From the window with input open and the worker on its way out. -/
theorem returns_open {c : Config} {s : Pm} {retry : Bool} (hpc : InWindow s.pc)
    (hl : s.threads.leaving = some retry) (hm : s.threads.ts.modeEnabled = true) :
    ∃ ls t, (pm c).Run s ls t ∧ t.pc = .suspended ∧ t.threads.ts.modeEnabled = true := by
  rcases hpc with hpc | hpc
  · -- The IRQ thread leaves first, if it has entered.
    have hirq : ∃ ls s1, (pm c).Run s ls s1 ∧ s1.pc = .suspendIrq ∧
      s1.threads.leaving = some retry ∧
        s1.threads.ts.modeEnabled = true ∧ s1.threads.irqEntered = false := by
      cases he : s.threads.irqEntered with
      | false => exact ⟨[], s, .nil _, hpc, hl, hm, he⟩
      | true =>
        refine ⟨[.thread (.irq silentWorld)], { s with threads := { s.threads with
          ts := (irqSection c silentWorld s.threads.ts).1, irqEntered := false } },
            .cons ?_ (.nil _), hpc, hl, ?_, rfl⟩
        · show pmStep c s _ = some _
          simp [pmStep, threadStep, he]
        · rw [irqSection_silent]; exact hm
    obtain ⟨ls, s1, hrun, hpc1, hl1, hm1, he1⟩ := hirq
    have hstep : (pm c).step s1 (.suspend silentWorld) (advance disableIrq .suspendCancel s1) := by
      show pmStep c s1 _ = some _
      simp [pmStep, suspendStep, hpc1, he1]
    obtain ⟨ls', t, hrun', ht⟩ := returns_open_from_cancel (c := c)
      (s := advance disableIrq .suspendCancel s1) rfl hl1 hm1
    exact ⟨ls ++ .suspend silentWorld :: ls', t, hrun.append (.cons hstep hrun'), ht⟩
  · exact returns_open_from_cancel hpc hl hm

/-! ## Suspend and remove -/

/-- In every run in which no worker section opens input in the window, input
is closed and no work pending when suspend or remove returns. A section that
does can be continued to a suspend that returns with input open. Sections are
single steps, also beside the flag writes of `g6ts_remove`. -/
theorem suspend_quiesces (c : Config) {s t : Pm} {ls : List PmLabel} (hs : Running s)
    (h : (pm c).RunMeets (KeepsShut c) s ls t) :
    (Returned t.pc → t.threads.ts.modeEnabled = false ∧ t.threads.ts.workPending = false) ∧
    ∀ u w v, InWindow u.pc → opensInput c w u.threads = true → (pm c).step u (.thread (.work w)) v →
      ∃ ls' x, (pm c).Run v ls' x ∧ x.pc = .suspended ∧ x.threads.ts.modeEnabled = true := by
  refine ⟨?_, fun u w v hw ho hst => ?_⟩
  · have hq := (quietAt_inductive c).reachable t ⟨s, ls, hs, LTS.run_restrict h⟩
    exact hq.returned
  · obtain ⟨x, hx, rfl⟩ := Option.map_eq_some_iff.mp hst
    obtain ⟨_, rfl⟩ := Option.ite_some_none_eq_some.mp hx
    exact returns_open hw rfl ho

/-- The worker's first attempt fails while the device suspends. -/
theorem suspend_quiesces_failed_attempt :
    ∃ t, (pm softwareConfig).Run probedPm [.suspend silentWorld, .thread (.work silentWorld),
    .thread .leave,
        .suspend silentWorld, .suspend silentWorld, .suspend silentWorld] t ∧ t.pc = .suspended ∧
      t.threads.ts.modeEnabled = false ∧ t.threads.ts.workPending = false := by
  have hrun : (LTS.exec (pmStep softwareConfig) (KeepsShut softwareConfig)
    probedPm [.suspend silentWorld,
      .thread (.work silentWorld), .thread .leave, .suspend silentWorld, .suspend silentWorld,
      .suspend silentWorld]).any (fun t => decide (t.pc = .suspended)) = true := by
    decide +kernel
  obtain ⟨t, ht, hp⟩ := (Option.any_eq_true _ _).mp hrun
  have hpc : t.pc = .suspended := of_decide_eq_true hp
  have hm : (pm softwareConfig).RunMeets (KeepsShut softwareConfig) probedPm _ t :=
    LTS.runMeets_of_exec ht
  obtain ⟨hq, -⟩ := suspend_quiesces softwareConfig probedPm_running hm
  exact ⟨t, hm.run, hpc, hq (Or.inl hpc)⟩

/-- **Counterexample**: the first initialization completes between the flag
write and `disable_irq`; the suspend returns zero with input open. -/
theorem suspend_returns_open :
    ∃ t, (pm softwareConfig).Run probedPm [.suspend silentWorld, .thread boot, .suspend silentWorld,
        .thread .leave, .suspend silentWorld, .suspend silentWorld] t ∧ t.pc = .suspended ∧
      t.threads.ts.modeEnabled = true := by
  have hrun : (LTS.exec (pmStep softwareConfig) (fun _ _ => True) probedPm
    [.suspend silentWorld, .thread boot,
      .suspend silentWorld, .thread .leave, .suspend silentWorld, .suspend silentWorld]).any
      (fun t => decide (t.pc = .suspended ∧ t.threads.ts.modeEnabled = true)) = true := by
    decide +kernel
  obtain ⟨t, ht, hp⟩ := (Option.any_eq_true _ _).mp hrun
  obtain ⟨hpc, hm⟩ := of_decide_eq_true hp
  exact ⟨t, LTS.run_of_exec ht, hpc, hm⟩

end Sp11Touch.Power
