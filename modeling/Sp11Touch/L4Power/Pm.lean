import Sp11Touch.L3Driver.Threads
/-!
# Suspend, resume and remove beside the threads (`mshw0485_touch.c`)

Each flag write, `disable_irq`, `enable_irq`, `cancel_delayed_work_sync` and
`io_lock` section of `g6ts_suspend`, `g6ts_resume` and `g6ts_remove` is one
step; between two of them IRQ thread and worker run on. `disable_irq` waits
for the IRQ thread, `cancel_delayed_work_sync` for the worker. Sections are not
split: a flag written without the lock falls before or after one.

The PM core resumes after a suspend that returned zero, and takes the device
for running after any resume, so the next call is a suspend again, also when
the resume failed.
-/
namespace Sp11Touch
open Driver

/-- The last return to a running device. -/
inductive PmReturn where
  | probed
  /-- `g6ts_suspend` returned an error -/
  | suspendFailed
  /-- `g6ts_resume` returned zero -/
  | resumed
  /-- `g6ts_resume` returned an error -/
  | resumeFailed
  deriving DecidableEq, Repr

/-- The next step of the call in progress, if there is one. -/
inductive PmPc where
  | running (last : PmReturn)
  | suspendIrq | suspendCancel | suspendSection | suspendEnable | suspendPath | suspendSchedule
  /-- `g6ts_suspend` returned zero -/
  | suspended
  | resumeEnable | resumeSchedule
  | removeFlag | removeCancel | removeSection | removePower
  /-- `g6ts_remove` returned -/
  | removed
  deriving DecidableEq, Repr

structure Pm where
  threads : Threads
  pc : PmPc
  /-- the calls of `g6ts_resume` that returned an error -/
  failedResumes : Nat

/-- A step of a thread or of a call; `w` answers the power methods. -/
inductive PmLabel where
  | thread (l : Label)
  | suspend (w : World)
  | resume (w : World)
  | remove (w : World)

namespace Power

/-! ## The single steps -/

def clearModeEnabled (s : Ts) : Ts := { s with modeEnabled := false }

def setStopping (s : Ts) : Ts := { s with stopping := true }

def disableIrq (s : Ts) : Ts := { s with irqDepth := s.irqDepth + 1 }

/-- An unbalanced `enable_irq` only warns. -/
def enableIrq (s : Ts) : Ts := { s with irqDepth := s.irqDepth - 1 }

def cancelWork (s : Ts) : Ts := { s with workPending := false }

/-- `schedule_delayed_work`, without a test of `stopping` -/
def queueWork (s : Ts) : Ts := { s with workPending := true }

def chooseHardware (s : Ts) : Ts := { s with recoveryPath := .HARDWARE }

section
variable (c : Config) (w : World)

/-- mirrors phase55/modules/mshw0485_touch.c:3356-3359 (under `io_lock`) -/
def suspendPower : TsProc Unit := do
  Proc.modify Ts.releaseContacts
  powerOff c w

/-- The fields that `g6ts_resume` resets. -/
def resetRecovery (s : Ts) : Ts :=
  { s with fatalTransportError := false, recoveryFailStreak := 0, recoveryPath := .HARDWARE }

/-- mirrors phase55/modules/mshw0485_touch.c:3376-3381 (under `io_lock`) -/
def resumePower : TsProc Unit := do
  Proc.modify resetRecovery
  powerOn c w

end

/-! ## The calls -/

/-- A call moves on to `pc`. -/
def advance (f : Ts → Ts) (pc : PmPc) (s : Pm) : Pm :=
  { s with threads.ts := f s.threads.ts, pc := pc }

/-- mirrors phase55/modules/mshw0485_touch.c:3347-3369 (`g6ts_suspend`) -/
def suspendStep (c : Config) (w : World) (s : Pm) : Option Pm :=
  match s.pc with
  | .running _ => some (advance clearModeEnabled .suspendIrq s)
  | .suspendIrq => if s.threads.irqEntered then none else some (advance disableIrq .suspendCancel s)
  | .suspendCancel => if s.threads.leaving.isSome then none else some (advance cancelWork .suspendSection s)
  | .suspendSection => match suspendPower c w s.threads.ts with
    | (t, .ok _) => some (advance (fun _ => t) .suspended s)
    | (t, .error _) => some (advance (fun _ => t) .suspendEnable s)
  | .suspendEnable => some (advance enableIrq .suspendPath s)
  | .suspendPath => some (advance chooseHardware .suspendSchedule s)
  | .suspendSchedule => some (advance queueWork (.running .suspendFailed) s)
  | _ => none

/-- mirrors phase55/modules/mshw0485_touch.c:3371-3389 (`g6ts_resume`) -/
def resumeStep (c : Config) (w : World) (s : Pm) : Option Pm :=
  match s.pc with
  | .suspended => match resumePower c w s.threads.ts with
    | (t, .ok _) => some (advance (fun _ => t) .resumeEnable s)
    | (t, .error _) => some { advance (fun _ => t) (.running .resumeFailed) s with
        failedResumes := s.failedResumes + 1 }
  | .resumeEnable => some (advance enableIrq .resumeSchedule s)
  | .resumeSchedule => some (advance queueWork (.running .resumed) s)
  | _ => none

/-- mirrors phase55/modules/mshw0485_touch.c:3334-3345 (`g6ts_remove`) -/
def removeStep (c : Config) (w : World) (s : Pm) : Option Pm :=
  match s.pc with
  | .running _ => some (advance setStopping .removeFlag s)
  | .removeFlag => some (advance clearModeEnabled .removeCancel s)
  | .removeCancel => if s.threads.leaving.isSome then none else some (advance cancelWork .removeSection s)
  | .removeSection => some (advance Ts.releaseContacts .removePower s)
  | .removePower => some (advance (fun t => (powerOff c w t).1) .removed s)
  | _ => none

def pmStep (c : Config) (s : Pm) : PmLabel → Option Pm
  | .thread l => (threadStep c s.threads l).map fun t => { s with threads := t }
  | .suspend w => suspendStep c w s
  | .resume w => resumeStep c w s
  | .remove w => removeStep c w s

/-- A running device, in any state of its threads, with the interrupt enabled. -/
structure Running (s : Pm) : Prop where
  pc : s.pc = .running .probed
  irqDepth : s.threads.ts.irqDepth = 0
  failedResumes : s.failedResumes = 0

def probedPm : Pm := ⟨probed, .running .probed, 0⟩

theorem probedPm_running : Running probedPm := ⟨rfl, rfl, rfl⟩

def pm (c : Config) : LTS Pm PmLabel := .ofFun Running (pmStep c)

/-! ## The steps of a call -/

/-- One step of a call from one point to the next: what it waits for, and the state it leaves. -/
inductive CallStep (c : Config) (w : World) (t : Threads) : PmPc → PmPc → Ts → Prop
  | suspendFlag (last : PmReturn) : CallStep c w t (.running last)
    .suspendIrq (clearModeEnabled t.ts)
  | suspendIrq (h : t.irqEntered = false) : CallStep c w t .suspendIrq
    .suspendCancel (disableIrq t.ts)
  | suspendCancel (h : t.leaving = none) : CallStep c w t .suspendCancel
    .suspendSection (cancelWork t.ts)
  | suspendOff {u : Ts} (h : suspendPower c w t.ts = (u, .ok ())) :
    CallStep c w t .suspendSection .suspended u
  | suspendFails {u : Ts} {e : Errno} (h : suspendPower c w t.ts = (u, .error e)) :
    CallStep c w t .suspendSection .suspendEnable u
  | suspendEnable : CallStep c w t .suspendEnable .suspendPath (enableIrq t.ts)
  | suspendPath : CallStep c w t .suspendPath .suspendSchedule (chooseHardware t.ts)
  | suspendSchedule : CallStep c w t .suspendSchedule (.running .suspendFailed) (queueWork t.ts)
  | resumeOn {u : Ts} (h : resumePower c w t.ts = (u, .ok ())) :
    CallStep c w t .suspended .resumeEnable u
  | resumeFails {u : Ts} {e : Errno} (h : resumePower c w t.ts = (u, .error e)) :
    CallStep c w t .suspended (.running .resumeFailed) u
  | resumeEnable : CallStep c w t .resumeEnable .resumeSchedule (enableIrq t.ts)
  | resumeSchedule : CallStep c w t .resumeSchedule (.running .resumed) (queueWork t.ts)
  | removeFlag (last : PmReturn) : CallStep c w t (.running last) .removeFlag (setStopping t.ts)
  | removeClose : CallStep c w t .removeFlag .removeCancel (clearModeEnabled t.ts)
  | removeCancel (h : t.leaving = none) : CallStep c w t .removeCancel
    .removeSection (cancelWork t.ts)
  | removeRelease : CallStep c w t .removeSection .removePower t.ts.releaseContacts
  | removePower : CallStep c w t .removePower .removed (powerOff c w t.ts).1

/-- Only a failed resume is counted. -/
def failedBy : PmPc → Nat
  | .running .resumeFailed => 1
  | _ => 0

def Called (c : Config) (w : World) (s t : Pm) : Prop :=
  ∃ pc u, CallStep c w s.threads s.pc pc u ∧ t =
    ⟨{ s.threads with ts := u }, pc, s.failedResumes + failedBy pc⟩

theorem suspendStep_called {c : Config} {w : World} {s t : Pm} (h : suspendStep c w s = some t) :
    Called c w s t := by
  obtain ⟨threads, pc, failed⟩ := s
  cases pc with
  | running last => cases h; exact ⟨_, _, .suspendFlag last, rfl⟩
  | suspendIrq =>
    obtain ⟨he, h⟩ := Option.ite_none_left_eq_some.mp h
    cases h
    exact ⟨_, _, .suspendIrq (Bool.eq_false_of_not_eq_true he), rfl⟩
  | suspendCancel =>
    obtain ⟨hl, h⟩ := Option.ite_none_left_eq_some.mp h
    cases h
    exact ⟨_, _, .suspendCancel (Option.not_isSome_iff_eq_none.mp hl), rfl⟩
  | suspendSection =>
    unfold suspendStep at h
    simp only at h
    split at h
    · next hr => cases h; exact ⟨_, _, .suspendOff hr, rfl⟩
    · next hr => cases h; exact ⟨_, _, .suspendFails hr, rfl⟩
  | suspendEnable => cases h; exact ⟨_, _, .suspendEnable, rfl⟩
  | suspendPath => cases h; exact ⟨_, _, .suspendPath, rfl⟩
  | suspendSchedule => cases h; exact ⟨_, _, .suspendSchedule, rfl⟩
  | _ => cases h

theorem resumeStep_called {c : Config} {w : World} {s t : Pm} (h : resumeStep c w s = some t) :
    Called c w s t := by
  obtain ⟨threads, pc, failed⟩ := s
  cases pc with
  | suspended =>
    unfold resumeStep at h
    simp only at h
    split at h
    · next hr => cases h; exact ⟨_, _, .resumeOn hr, rfl⟩
    · next hr => cases h; exact ⟨_, _, .resumeFails hr, rfl⟩
  | resumeEnable => cases h; exact ⟨_, _, .resumeEnable, rfl⟩
  | resumeSchedule => cases h; exact ⟨_, _, .resumeSchedule, rfl⟩
  | _ => cases h

theorem removeStep_called {c : Config} {w : World} {s t : Pm} (h : removeStep c w s = some t) :
    Called c w s t := by
  obtain ⟨threads, pc, failed⟩ := s
  cases pc with
  | running last => cases h; exact ⟨_, _, .removeFlag last, rfl⟩
  | removeFlag => cases h; exact ⟨_, _, .removeClose, rfl⟩
  | removeCancel =>
    obtain ⟨hl, h⟩ := Option.ite_none_left_eq_some.mp h
    cases h
    exact ⟨_, _, .removeCancel (Option.not_isSome_iff_eq_none.mp hl), rfl⟩
  | removeSection => cases h; exact ⟨_, _, .removeRelease, rfl⟩
  | removePower => cases h; exact ⟨_, _, .removePower, rfl⟩
  | _ => cases h

/-- A step is one of a thread or one of a call. -/
theorem pmStep_cases {c : Config} {l : PmLabel} {s t : Pm} (h : pmStep c s l = some t) :
    (∃ l' u, l = .thread l' ∧ threadStep c s.threads l' = some u ∧ t = { s with threads := u }) ∨
      ∃ w, Called c w s t := by
  cases l with
  | thread l' =>
    obtain ⟨u, hu, rfl⟩ := Option.map_eq_some_iff.mp h
    exact Or.inl ⟨l', u, rfl, hu, rfl⟩
  | suspend w => exact Or.inr ⟨w, suspendStep_called h⟩
  | resume w => exact Or.inr ⟨w, resumeStep_called h⟩
  | remove w => exact Or.inr ⟨w, removeStep_called h⟩

/-! ## What a thread can do to the fields that matter here -/

/-- The worker's section ends with input open. -/
def opensInput (c : Config) (w : World) (t : Threads) : Bool :=
  (recoverySection c w (dequeued t.ts)).1.modeEnabled

/-- The section of the IRQ thread: it never opens input, and it schedules
recovery only while the device is not removed. -/
structure IrqFrame (s0 t : Ts) : Prop where
  irqDepth : t.irqDepth = s0.irqDepth
  stopping : t.stopping = s0.stopping
  closed : s0.modeEnabled = false → t.modeEnabled = false
  idle : s0.stopping = true → t.workPending = s0.workPending

theorem IrqFrame.schedule {s0 t : Ts} (h : IrqFrame s0 t) : IrqFrame s0 (scheduleRecovery t) := by
  rw [scheduleRecovery_eq]
  refine ⟨h.irqDepth, h.stopping, h.closed, fun hs => ?_⟩
  have ht : t.stopping = true := h.stopping.trans hs
  simp [ht, h.idle hs]

theorem irqFrame_rule (c : Config) (w : World) (s0 : Ts) : IrqRule c w (IrqFrame s0) where
  io _ _ h := ⟨h.irqDepth, h.stopping, h.closed, h.idle⟩
  latch _ h := ⟨h.irqDepth, h.stopping, h.closed, h.idle⟩
  data s h _ := by
    obtain ⟨_, _, _, _, he⟩ := handleDataReport_frame c s
    rw [he]
    exact ⟨h.irqDepth, h.stopping, h.closed, h.idle⟩
  reset s h := by
    obtain ⟨_, _, _, he, _⟩ := notePanelReset_frame c w s
    rw [notePanelReset_true, he]
    exact IrqFrame.schedule ⟨h.irqDepth, h.stopping, fun _ => rfl, h.idle⟩
  fault e s h := by
    obtain ⟨_, he⟩ := countFault_frame e s
    unfold noteHostFault
    simp only [he]
    split
    · exact IrqFrame.schedule ⟨h.irqDepth, h.stopping, fun _ => rfl, h.idle⟩
    · exact ⟨h.irqDepth, h.stopping, h.closed, h.idle⟩
  counted _ _ h := ⟨h.irqDepth, h.stopping, h.closed, h.idle⟩

theorem irqSection_frame (c : Config) (w : World) (s : Ts) : IrqFrame s (irqSection c w s).1 :=
  (irqFrame_rule c w s).irqSection ⟨rfl, rfl, id, fun _ => rfl⟩

/-- The section of the worker. -/
structure WorkFrame (s0 t : Ts) : Prop where
  irqDepth : t.irqDepth = s0.irqDepth
  stopping : t.stopping = s0.stopping

theorem workFrame_rule (c : Config) (w : World) (s0 : Ts) : InitRule c w (WorkFrame s0)
    (WorkFrame s0) where
  io _ _ h := ⟨h.irqDepth, h.stopping⟩
  latch _ h := ⟨h.irqDepth, h.stopping⟩
  data s h _ := by
    obtain ⟨_, _, _, _, he⟩ := handleDataReport_frame c s
    rw [he]
    exact ⟨h.irqDepth, h.stopping⟩
  reset s h := by
    obtain ⟨_, _, _, he, _⟩ := notePanelReset_frame c w s
    rw [he]
    exact ⟨h.irqDepth, h.stopping⟩
  close _ h := ⟨h.irqDepth, h.stopping⟩
  paused _ h := h
  opened _ h := ⟨h.irqDepth, h.stopping⟩

theorem recoverySection_frame (c : Config) (w : World) (s : Ts) :
    WorkFrame s (recoverySection c w s).1 := by
  refine recoverySection_rule (workFrame_rule c w s) (fun _ h => ⟨h.irqDepth, h.stopping⟩)
    (fun _ _ h => ⟨h.irqDepth, h.stopping⟩) (fun path t h _ => ?_) ⟨rfl, rfl⟩
  unfold attemptFailed
  simp only
  split <;> exact ⟨h.irqDepth, h.stopping⟩

/-- Any step of the threads. -/
structure ThreadFrame (c : Config) (l : Label) (t u : Threads) : Prop where
  irqDepth : u.ts.irqDepth = t.ts.irqDepth
  stopping : u.ts.stopping = t.ts.stopping
  /-- only an enabled interrupt starts the IRQ thread -/
  entered : t.irqEntered = false → 0 < t.ts.irqDepth → u.irqEntered = false
  /-- work that is neither queued nor running is queued by the IRQ thread of a device that is not removed -/
  idle : t.ts.workPending = false → t.leaving = none → t.irqEntered = false ∨ t.ts.stopping = true →
    u.ts.workPending = false ∧ u.leaving = none
  /-- input is opened by the worker of a device that is not removed -/
  closed : t.ts.modeEnabled = false →
    (∀ w, l = .work w → t.ts.workPending = true → t.ts.stopping = false →
    opensInput c w t = false) →
    u.ts.modeEnabled = false

theorem threadStep_frame {c : Config} {l : Label} {t u : Threads} (h : threadStep c t l = some u) :
    ThreadFrame c l t u := by
  cases l with
  | irqEnter =>
    obtain ⟨hg, rfl⟩ := Option.ite_some_none_eq_some.mp h
    refine ⟨rfl, rfl, fun _ hd => ?_, fun hp hl _ => ⟨hp, hl⟩, fun hm _ => hm⟩
    simp only [Bool.and_eq_true, beq_iff_eq] at hg
    omega
  | irq w =>
    obtain ⟨hg, rfl⟩ := Option.ite_some_none_eq_some.mp h
    have hf := irqSection_frame c w t.ts
    refine ⟨hf.irqDepth, hf.stopping, fun _ _ => rfl, fun hp hl hor => ⟨?_, hl⟩,
      fun hm _ => hf.closed hm⟩
    rcases hor with he | hs
    · rw [he] at hg; cases hg
    · exact (hf.idle hs).trans hp
  | work w =>
    obtain ⟨hg, rfl⟩ := Option.ite_some_none_eq_some.mp h
    have hf := recoverySection_frame c w (dequeued t.ts)
    refine ⟨hf.irqDepth, hf.stopping, fun he _ => he, fun hp _ _ => ?_, fun hm hclosed => ?_⟩
    · rw [hp] at hg; simp at hg
    · rw [Bool.and_eq_true] at hg
      cases hs : t.ts.stopping with
      | false => exact hclosed w rfl hg.1 hs
      | true =>
        have hstop : (dequeued t.ts).stopping = true := hs
        simp only [recoverySection, hstop, if_true]
        exact hm
  | leave =>
    obtain ⟨retry, hl, rfl⟩ := Option.map_eq_some_iff.mp h
    have hr : reschedule retry t.ts = { t.ts with workPending := t.ts.workPending ||
      (retry && !t.ts.stopping) } := by
      unfold reschedule
      cases retry with
      | false => simp
      | true => simp [scheduleRecovery_eq]
    refine ⟨by rw [hr], by rw [hr], fun he _ => he, fun _ hn _ => ?_,
      fun hm _ => by rw [hr]; exact hm⟩
    rw [hn] at hl; cases hl

/-! ## The power methods -/

/-- What the power methods and `release_contacts` leave alone. -/
structure PowerFrame (s0 t : Ts) : Prop where
  modeEnabled : t.modeEnabled = s0.modeEnabled
  workPending : t.workPending = s0.workPending
  irqDepth : t.irqDepth = s0.irqDepth
  stopping : t.stopping = s0.stopping

theorem powerFrame_rule (s0 : Ts) : IoRule (PowerFrame s0) where
  io _ _ h := ⟨h.modeEnabled, h.workPending, h.irqDepth, h.stopping⟩

theorem powerOff_frame (c : Config) (w : World) (s : Ts) : PowerFrame s (powerOff c w s).1 :=
  (powerFrame_rule s).powerOff.state ⟨rfl, rfl, rfl, rfl⟩

theorem suspendPower_frame (c : Config) (w : World) (s : Ts) :
    PowerFrame s (suspendPower c w s).1 :=
  Proc.Keeps.state (Proc.Keeps.bind
    (Proc.Keeps.modify fun _ h => ⟨h.modeEnabled, h.workPending, h.irqDepth, h.stopping⟩)
    fun _ => (powerFrame_rule s).powerOff) ⟨rfl, rfl, rfl, rfl⟩

theorem resumePower_frame (c : Config) (w : World) (s : Ts) : PowerFrame s (resumePower c w s).1 :=
  Proc.Keeps.state (Proc.Keeps.bind
    (Proc.Keeps.modify fun _ h => ⟨h.modeEnabled, h.workPending, h.irqDepth, h.stopping⟩)
    fun _ => (powerFrame_rule s).powerOn) ⟨rfl, rfl, rfl, rfl⟩

end Power
end Sp11Touch
