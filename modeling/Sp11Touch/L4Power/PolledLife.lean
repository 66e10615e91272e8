import Sp11Touch.Core.LTS
import Sp11Touch.L3Driver.PolledPanel
/-!
# The polled driver over its life (`src/g6ts_biosref.c`)

The timer callback, the work item and the call in progress (probe, suspend,
resume, remove) interleave. `g6ts_stop` clears `running` without the lock the
work item holds, so a callback or a work item that already looked at it goes
on; only `hrtimer_cancel` and `cancel_work_sync` wait for them. The calls take
no lock either: what keeps them off the bus while the work item reads is the
order of the steps alone.

The PM core resumes what it suspended and takes the device for running after
any resume, so suspend and remove also come after a resume that failed.

**Results.**
* `polled_exclusive`: work item and calls are never on the bus together nor
  without power, nothing is left running where the device is off, and polling
  never stops on its own.
* `stop_ends`: a stop takes at most twelve steps of all parties together, and
  it never gets stuck.
* `polled_accounts`: what the counters say, in every reachable state.
-/
namespace Sp11Touch.Polled
open Proc

structure Config where
  /-- the power and reset GPIOs are there -/
  gpioPair : Bool
  descriptorProbe : Bool

/-- The callback, between its steps. -/
inductive Timer where
  | idle | armed
  /-- entered, `running` not read -/
  | fired
  /-- `running` was set -/
  | sampling
  deriving DecidableEq, Repr

inductive Exec where
  | idle
  /-- entered, `running` not read -/
  | entered
  /-- `running` was set -/
  | reading
  deriving DecidableEq, Repr

inductive Starter where
  | probe | resume
  deriving DecidableEq, Repr

inductive Stopper where
  | suspend | remove
  deriving DecidableEq, Repr

/-- The next step of the call in progress, if there is one. -/
inductive Pc where
  | probePower
  | readiness (caller : Starter)
  | reset (caller : Starter)
  | descriptor | input | errPower
  | startFlag | startTimer
  | running
  | stopTimer (caller : Stopper)
  | stopWork (caller : Stopper)
  | flushWork (caller : Stopper)
  | stopPower (caller : Stopper)
  | suspended
  /-- `g6ts_resume` returned an error -/
  | unresumed
  | gone
  deriving DecidableEq, Repr

structure Life where
  panel : Panel
  running : Bool := false
  timer : Timer := .idle
  pending : Bool := false
  work : Exec := .idle
  /-- the last power call is a `g6ts_power_on` that returned zero -/
  powered : Bool := false
  pc : Pc := .probePower

inductive LifeLabel where
  | timer (gpio : Except Errno Bool)
  | work (w : World)
  | call (w : World)
  /-- the input device is registered, or it is not -/
  | input (ret : Option Errno)
  | suspend
  | resume (w : World)
  | remove

/-! ## The steps -/

/-- mirrors src/g6ts_biosref.c:494-517 (`g6ts_int_asserted`, `g6ts_timer`) -/
def timerStep (gpio : Except Errno Bool) (s : Life) : Option Life :=
  match s.timer with
  | .idle => none
  | .armed => some { s with timer := .fired }
  | .fired => some { s with timer := if s.running then .sampling else .idle }
  | .sampling => match gpio with
    | .error _ => some { s with timer := .armed, panel := { s.panel with gpioErrors := s.panel.gpioErrors + 1 } }
    | .ok asserted => some { s with timer := .armed, pending := s.pending || asserted }

/-- mirrors src/g6ts_biosref.c:473-492 (`g6ts_work`) -/
def workStep (w : World) (s : Life) : Option Life :=
  match s.work with
  | .idle => if s.pending then some { s with pending := false, work := .entered } else none
  | .entered => some { s with work := if s.running then .reading else .idle }
  | .reading => some { s with work := .idle, panel := workSection w s.panel }

section
variable (c : Config) (w : World)

/-- Probe up to the input device, `g6ts_start`, and `g6ts_stop` with the power off.
mirrors src/g6ts_biosref.c:519-531 (`g6ts_start`, `g6ts_stop`), :605-656 (`g6ts_probe`), :659-666
(`g6ts_remove`), :668-675 (`g6ts_suspend`) and :677-689 (`g6ts_resume`) -/
def callStep (s : Life) : Option Life :=
  match s.pc with
  | .probePower => match powerOn c.gpioPair w s.panel with
    | (p, .ok _) => some { s with panel := p, powered := true, pc := .readiness .probe }
    | (p, .error _) => some { s with panel := p, pc := .gone }
  | .readiness caller => some { s with panel := (readiness w s.panel).1, pc := .reset caller }
  | .reset caller => some { s with
      panel := (resetController c.gpioPair w s.panel).1
      pc := match caller with
        | .probe => if c.descriptorProbe then .descriptor else .input
        | .resume => .startFlag }
  | .descriptor => some { s with panel := (probeDescriptor w s.panel).1, pc := .input }
  | .errPower => some { s with panel := (powerOff c.gpioPair w s.panel).1, powered := false, pc := .gone }
  | .startFlag => some { s with running := true, pc := .startTimer }
  | .startTimer => some { s with timer := .armed, pc := .running }
  -- `hrtimer_cancel` waits for the callback
  | .stopTimer caller =>
    if s.timer = .idle ∨ s.timer = .armed then some { s with timer := .idle, pc := .stopWork caller } else none
  | .stopWork caller => some { s with pending := false, pc := .flushWork caller }
  -- `cancel_work_sync` waits for the work item
  | .flushWork caller => if s.work = .idle then some { s with pc := .stopPower caller } else none
  | .stopPower caller => some { s with
      panel := (powerOff c.gpioPair w s.panel).1
      powered := false
      pc := match caller with
        | .suspend => .suspended
        | .remove => .gone }
  | _ => none

/-- `err_power`, or on to `g6ts_start` -/
def inputStep (ret : Option Errno) (s : Life) : Option Life :=
  if s.pc = .input then some { s with pc := if ret.isSome then .errPower else .startFlag } else none

/-- The first write of `g6ts_stop`. -/
def stopStep (caller : Stopper) (s : Life) : Option Life :=
  if s.pc = .running ∨ s.pc = .unresumed then some { s with running := false, pc := .stopTimer caller } else none

def resumeStep (s : Life) : Option Life :=
  if s.pc = .suspended then
    match powerOn c.gpioPair w s.panel with
    | (p, .ok _) => some { s with panel := p, powered := true, pc := .readiness .resume }
    | (p, .error _) => some { s with panel := p, pc := .unresumed }
  else none

end

def lifeStep (c : Config) (s : Life) : LifeLabel → Option Life
  | .timer gpio => timerStep gpio s
  | .work w => workStep w s
  | .call w => callStep c w s
  | .input ret => inputStep ret s
  | .suspend => stopStep .suspend s
  | .resume w => resumeStep c w s
  | .remove => stopStep .remove s

/-- Fresh from `devm_kzalloc`; the body buffer is not cleared. -/
def Fresh (s : Life) : Prop := ∃ body, s = { panel := { body := body } }

def life (c : Config) : LTS Life LifeLabel := .ofFun Fresh (lifeStep c)

/-! ## Where a call is -/

/-- The call itself is talking to the panel. -/
def Pc.onBus : Pc → Bool
  | .readiness _ | .reset _ | .descriptor => true
  | _ => false

def Pc.stopping : Pc → Bool
  | .stopTimer _ | .stopWork _ | .flushWork _ | .stopPower _ => true
  | _ => false

/-- `running` is set. -/
def Pc.started : Pc → Bool
  | .startTimer | .running => true
  | _ => false

/-- The device has power. -/
def Pc.on : Pc → Bool
  | .readiness _ | .reset _ | .descriptor | .input | .errPower | .startFlag | .startTimer | .running => true
  | _ => false

/-- The device has none. -/
def Pc.off : Pc → Bool
  | .probePower | .suspended | .unresumed | .gone => true
  | _ => false

/-- The next step of the call is `g6ts_power_off`. -/
def Pc.powersOff : Pc → Bool
  | .stopPower _ | .errPower => true
  | _ => false

/-- The timer may still be there. -/
def Pc.timed : Pc → Bool
  | .running | .stopTimer _ => true
  | _ => false

/-- Work may still be queued. -/
def Pc.queued : Pc → Bool
  | .running | .stopTimer _ | .stopWork _ => true
  | _ => false

/-- The work item may still run. -/
def Pc.worked : Pc → Bool
  | .running | .stopTimer _ | .stopWork _ | .flushWork _ => true
  | _ => false

theorem Pc.queued_of_timed {pc : Pc} (h : pc.timed = true) : pc.queued = true := by
  cases pc <;> simp_all [timed, queued]

theorem Pc.worked_of_queued {pc : Pc} (h : pc.queued = true) : pc.worked = true := by
  cases pc <;> simp_all [queued, worked]

theorem Pc.on_of_started {pc : Pc} (h : pc.started = true) : pc.on = true := by
  cases pc <;> simp_all [started, on]

/-! ## The invariant -/

/-- Which party can be active at which point of a call. -/
structure Sane (s : Life) : Prop where
  flag : s.running = s.pc.started
  on : s.pc.on = true → s.powered = true
  off : s.pc.off = true → s.powered = false
  timer : s.timer ≠ .idle → s.pc.timed = true
  live : s.pc = .running → s.timer ≠ .idle
  pending : s.pending = true → s.pc.queued = true
  work : s.work ≠ .idle → s.pc.worked = true
  reading : s.work = .reading → s.powered = true

/-- Neither the timer nor the work item is there, now or later. -/
structure Quiesced (s : Life) : Prop where
  running : s.running = false
  timer : s.timer = .idle
  pending : s.pending = false
  work : s.work = .idle

variable {c : Config} {w : World} {s t : Life}

theorem timerStep_sane {gpio : Except Errno Bool} (h : timerStep gpio s = some t)
    (hi : Sane s) : Sane t := by
  have htimed : s.timer ≠ .idle → s.pc.timed = true := hi.timer
  unfold timerStep at h
  cases ht : s.timer with
  | idle => simp [ht] at h
  | armed =>
    simp only [ht, Option.some.injEq] at h
    subst h
    exact ⟨hi.flag, hi.on, hi.off, fun _ => htimed (by simp [ht]), fun _ => by simp, hi.pending,
      hi.work, hi.reading⟩
  | fired =>
    simp only [ht, Option.some.injEq] at h
    subst h
    have hlive : s.pc = .running → (if s.running then Timer.sampling else .idle) ≠ .idle := by
      intro hpc
      have hf : s.running = true := by rw [hi.flag, hpc]; rfl
      simp [hf]
    exact ⟨hi.flag, hi.on, hi.off, fun _ => htimed (by simp [ht]), hlive, hi.pending,
      hi.work, hi.reading⟩
  | sampling =>
    have htq : s.pc.queued = true := Pc.queued_of_timed (htimed (by simp [ht]))
    cases gpio with
    | error e =>
      simp only [ht, Option.some.injEq] at h
      subst h
      exact ⟨hi.flag, hi.on, hi.off, fun _ => htimed (by simp [ht]), fun _ => by simp, hi.pending,
        hi.work, hi.reading⟩
    | ok asserted =>
      simp only [ht, Option.some.injEq] at h
      subst h
      exact ⟨hi.flag, hi.on, hi.off, fun _ => htimed (by simp [ht]), fun _ => by simp, fun _ => htq,
        hi.work, hi.reading⟩

theorem workStep_sane (h : workStep w s = some t) (hi : Sane s) : Sane t := by
  unfold workStep at h
  cases hw : s.work with
  | idle =>
    simp only [hw, Option.ite_none_right_eq_some, Option.some.injEq] at h
    obtain ⟨hp, rfl⟩ := h
    exact ⟨hi.flag, hi.on, hi.off, hi.timer, hi.live, fun h => by simp at h,
      fun _ => Pc.worked_of_queued (hi.pending hp),
      fun h => by simp at h⟩
  | entered =>
    simp only [hw, Option.some.injEq] at h
    subst h
    refine ⟨hi.flag, hi.on, hi.off, hi.timer, hi.live, hi.pending,
      fun _ => hi.work (by simp [hw]), fun hr => ?_⟩
    -- it goes on only while `running` is set, and then there is power
    have hf : s.running = true := by
      cases hf : s.running with
      | true => rfl
      | false => simp [hf] at hr
    exact hi.on (Pc.on_of_started (hi.flag.symm.trans hf))
  | reading =>
    simp only [hw, Option.some.injEq] at h
    subst h
    exact ⟨hi.flag, hi.on, hi.off, hi.timer, hi.live, hi.pending, fun h => absurd rfl h,
      fun h => by simp at h⟩

/-- A point of a call where no party is left. -/
theorem Sane.quiesced (hi : Sane s) (hf : s.pc.started = false) (hw : s.pc.worked = false) :
    Quiesced s := by
  have hq : s.pc.queued = false := by
    cases hq : s.pc.queued with
    | false => rfl
    | true => rw [Pc.worked_of_queued hq] at hw; cases hw
  have ht : s.pc.timed = false := by
    cases ht : s.pc.timed with
    | false => rfl
    | true => rw [Pc.queued_of_timed ht] at hq; cases hq
  refine ⟨hi.flag.trans hf, ?_, ?_, ?_⟩
  · exact Decidable.byContradiction fun h => by simp [hi.timer h] at ht
  · exact eq_false_of_ne_true fun h => by simp [hi.pending h] at hq
  · exact Decidable.byContradiction fun h => by simp [hi.work h] at hw

/-- A state without any party, at a point where none is needed. -/
theorem Quiesced.sane (h : Quiesced s) (hf : s.pc.started = false)
    (hon : s.pc.on = true → s.powered = true)
    (hoff : s.pc.off = true → s.powered = false) : Sane s := by
  refine ⟨h.running.trans hf.symm, hon, hoff, fun ht => absurd h.timer ht,
    fun hpc => ?_, fun hp => ?_,
    fun hw => absurd h.work hw, fun hr => ?_⟩
  · rw [hpc] at hf
    cases hf
  · rw [h.pending] at hp
    cases hp
  · rw [h.work] at hr
    cases hr

theorem callStep_sane (h : callStep c w s = some t) (hi : Sane s) : Sane t := by
  obtain ⟨panel, running, timer, pending, work, powered, pc⟩ := s
  cases pc with
  | probePower =>
    have hq := hi.quiesced rfl rfl
    unfold callStep at h
    simp only at h
    split at h
    · cases h
      exact Quiesced.sane ⟨hq.running, hq.timer, hq.pending, hq.work⟩ rfl (fun _ => rfl)
        fun h => by simp [Pc.off] at h
    · cases h
      exact Quiesced.sane ⟨hq.running, hq.timer, hq.pending, hq.work⟩ rfl
        (fun h => by simp [Pc.on] at h) fun _ => hi.off rfl
  | readiness caller =>
    have hq := hi.quiesced rfl rfl
    cases h
    exact Quiesced.sane ⟨hq.running, hq.timer, hq.pending, hq.work⟩ rfl (fun _ => hi.on rfl)
      fun h => by simp [Pc.off] at h
  | reset caller =>
    have hq := hi.quiesced rfl rfl
    cases h
    cases caller with
    | probe =>
      by_cases hd : c.descriptorProbe = true
      · exact Quiesced.sane ⟨hq.running, hq.timer, hq.pending, hq.work⟩
          (by simp [hd, Pc.started]) (fun _ => hi.on rfl)
          fun h => by simp [hd, Pc.off] at h
      · exact Quiesced.sane ⟨hq.running, hq.timer, hq.pending, hq.work⟩
          (by simp [hd, Pc.started]) (fun _ => hi.on rfl)
          fun h => by simp [hd, Pc.off] at h
    | resume => exact Quiesced.sane ⟨hq.running, hq.timer, hq.pending, hq.work⟩ rfl (fun _ => hi.on rfl) fun h => by simp [Pc.off] at h
  | descriptor =>
    have hq := hi.quiesced rfl rfl
    cases h
    exact Quiesced.sane ⟨hq.running, hq.timer, hq.pending, hq.work⟩ rfl (fun _ => hi.on rfl)
      fun h => by simp [Pc.off] at h
  | errPower =>
    have hq := hi.quiesced rfl rfl
    cases h
    exact Quiesced.sane ⟨hq.running, hq.timer, hq.pending, hq.work⟩ rfl
      (fun h => by simp [Pc.on] at h) fun _ => rfl
  | startFlag =>
    have hq := hi.quiesced rfl rfl
    cases h
    exact ⟨rfl, fun _ => hi.on rfl, fun h => by simp [Pc.off] at h, fun h => absurd hq.timer h,
      fun h => by simp at h,
      fun h => absurd hq.pending (by simp [show pending = true from h]),
        fun h => absurd hq.work h, hi.reading⟩
  | startTimer =>
    cases h
    exact ⟨hi.flag, fun _ => hi.on rfl, fun h => by simp [Pc.off] at h, fun _ => rfl, fun _ => by simp, fun _ => rfl, fun _ => rfl,
      hi.reading⟩
  | stopTimer caller =>
    obtain ⟨ht, h⟩ := Option.ite_none_right_eq_some.mp h
    cases h
    exact ⟨hi.flag, fun h => by simp [Pc.on] at h, fun h => by simp [Pc.off] at h, fun h => absurd rfl h, fun h => by simp at h,
      fun _ => rfl, fun _ => rfl, hi.reading⟩
  | stopWork caller =>
    cases h
    exact ⟨hi.flag, fun h => by simp [Pc.on] at h, fun h => by simp [Pc.off] at h, hi.timer,
      fun h => by simp at h,
      fun h => by simp at h, fun _ => rfl, hi.reading⟩
  | flushWork caller =>
    obtain ⟨hw, h⟩ := Option.ite_none_right_eq_some.mp h
    cases h
    exact ⟨hi.flag, fun h => by simp [Pc.on] at h, fun h => by simp [Pc.off] at h, hi.timer,
      fun h => by simp at h, hi.pending,
      fun h => absurd hw h, hi.reading⟩
  | stopPower caller =>
    have hq := hi.quiesced rfl rfl
    cases h
    cases caller with
    | suspend => exact Quiesced.sane ⟨hq.running, hq.timer, hq.pending, hq.work⟩ rfl (fun h => by simp [Pc.on] at h) fun _ => rfl
    | remove => exact Quiesced.sane ⟨hq.running, hq.timer, hq.pending, hq.work⟩ rfl (fun h => by simp [Pc.on] at h) fun _ => rfl
  | _ => cases h

theorem inputStep_sane {ret : Option Errno} (h : inputStep ret s = some t)
    (hi : Sane s) : Sane t := by
  obtain ⟨panel, running, timer, pending, work, powered, pc⟩ := s
  obtain ⟨hpc, h⟩ := Option.ite_none_right_eq_some.mp h
  subst hpc
  have hq := hi.quiesced rfl rfl
  cases h
  cases ret with
  | none => exact Quiesced.sane ⟨hq.running, hq.timer, hq.pending, hq.work⟩ rfl (fun _ => hi.on rfl) fun h => by simp [Pc.off] at h
  | some e => exact Quiesced.sane ⟨hq.running, hq.timer, hq.pending, hq.work⟩ rfl (fun _ => hi.on rfl) fun h => by simp [Pc.off] at h

theorem stopStep_sane {caller : Stopper} (h : stopStep caller s = some t)
    (hi : Sane s) : Sane t := by
  obtain ⟨panel, running, timer, pending, work, powered, pc⟩ := s
  obtain ⟨hpc, h⟩ := Option.ite_none_right_eq_some.mp h
  cases h
  exact ⟨rfl, fun h => by simp [Pc.on] at h, fun h => by simp [Pc.off] at h, fun _ => rfl,
    fun h => by simp at h,
    fun _ => rfl, fun _ => rfl, hi.reading⟩

theorem resumeStep_sane (h : resumeStep c w s = some t) (hi : Sane s) : Sane t := by
  obtain ⟨panel, running, timer, pending, work, powered, pc⟩ := s
  obtain ⟨hpc, h⟩ := Option.ite_none_right_eq_some.mp h
  subst hpc
  have hq := hi.quiesced rfl rfl
  simp only at h
  split at h
  · cases h
    exact Quiesced.sane ⟨hq.running, hq.timer, hq.pending, hq.work⟩ rfl (fun _ => rfl)
      fun h => by simp [Pc.off] at h
  · cases h
    exact Quiesced.sane ⟨hq.running, hq.timer, hq.pending, hq.work⟩ rfl
      (fun h => by simp [Pc.on] at h) fun _ => hi.off rfl

theorem lifeStep_sane {l : LifeLabel} (h : lifeStep c s l = some t) (hi : Sane s) : Sane t := by
  cases l with
  | timer gpio => exact timerStep_sane h hi
  | work w => exact workStep_sane h hi
  | call w => exact callStep_sane h hi
  | input ret => exact inputStep_sane h hi
  | suspend => exact stopStep_sane h hi
  | resume w => exact resumeStep_sane h hi
  | remove => exact stopStep_sane h hi

theorem sane_inductive (c : Config) : (life c).Inductive Sane where
  init := by
    intro s hs
    obtain ⟨body, rfl⟩ := hs
    exact Quiesced.sane ⟨rfl, rfl, rfl, rfl⟩ rfl (fun h => by simp [Pc.on] at h) fun _ => rfl
  step s l t hi h := lifeStep_sane h hi

theorem Pc.not_worked_of_onBus {pc : Pc} (h : pc.onBus = true) : pc.worked = false ∧
    pc.started = false ∧ pc.on = true := by
  cases pc <;> simp_all [onBus, worked, started, on]

theorem Pc.not_worked_of_off {pc : Pc} (h : pc.off = true) : pc.worked = false ∧
    pc.started = false := by
  cases pc <;> simp_all [off, worked, started]

theorem Pc.not_worked_of_powersOff {pc : Pc} (h : pc.powersOff = true) : pc.worked = false ∧
    pc.started = false := by
  cases pc <;> simp_all [powersOff, worked, started]

/-- Timer, work item and calls in any order: the work item and the calls are never on the bus
together, and never without power; where the device is off, or about to be, nothing is left of
`g6ts_start`; while it runs, the timer is there. -/
theorem polled_exclusive (c : Config) : ∀ s, (life c).Reachable s →
    (s.work = .reading → s.powered = true ∧ s.pc.onBus = false) ∧
    (s.pc.onBus = true → s.powered = true ∧ Quiesced s) ∧
    (s.pc.off = true → s.powered = false ∧ Quiesced s) ∧
    (s.pc.powersOff = true → Quiesced s) ∧
    (s.pc = .running → s.powered = true ∧ s.running = true ∧ s.timer ≠ .idle) := by
  intro s hs
  have hi : Sane s := (sane_inductive c).reachable s hs
  refine ⟨fun hr => ⟨hi.reading hr, ?_⟩, fun hb => ?_, fun ho => ?_, fun ho => ?_, fun hpc => ?_⟩
  · have hw : s.pc.worked = true := hi.work (by simp [hr])
    exact eq_false_of_ne_true fun hb => by simp [(Pc.not_worked_of_onBus hb).1] at hw
  · obtain ⟨hw, hf, hon⟩ := Pc.not_worked_of_onBus hb
    exact ⟨hi.on hon, hi.quiesced hf hw⟩
  · obtain ⟨hw, hf⟩ := Pc.not_worked_of_off ho
    exact ⟨hi.off ho, hi.quiesced hf hw⟩
  · obtain ⟨hw, hf⟩ := Pc.not_worked_of_powersOff ho
    exact hi.quiesced hf hw
  · exact ⟨hi.on (by simp [hpc, Pc.on]), by simp [hi.flag, hpc, Pc.started], hi.live hpc⟩

/-- A panel that never asserts the line, and has one finger down: headers at even ticks, bodies at odd ones. -/
def fingerDown : World where
  xfer k := (fun i => if k % 2 = 0 then [0, 3, 0, 0x5a].getD i 0
    else [1, 5, 0, 0x40, 1, 0x20, 0, 0x40, 0].getD i 0, none)
  gpio _ := .ok false
  polls _ := 0
  acpi _ := none

def viaGpios : Config := ⟨true, false⟩

def fresh : Life := { panel := { body := fun _ => 0 } }

theorem reachable_fresh {c : Config} {ls : List LifeLabel} {p : Life → Bool}
    (h : (LTS.exec (lifeStep c) (fun _ _ => True) fresh ls).any p = true) :
    ∃ s, (life c).Reachable s ∧ p s = true := by
  obtain ⟨s, hs, hp⟩ := (Option.any_eq_true _ _).mp h
  exact ⟨s, ⟨fresh, ls, ⟨_, rfl⟩, LTS.run_of_exec hs⟩, hp⟩

/-- Probe, one poll with the line asserted, and suspend while the work item reads. -/
def suspendedRead : List LifeLabel :=
  [.call fingerDown, .call fingerDown, .call fingerDown, .input none, .call fingerDown,
    .call fingerDown,
    .timer (.ok true), .timer (.ok true), .timer (.ok true), .work fingerDown, .work fingerDown,
    .suspend, .call fingerDown, .call fingerDown]

theorem polled_exclusive_read : ∃ s, (life viaGpios).Reachable s ∧ s.pc = .flushWork .suspend ∧
    s.work = .reading ∧
    s.powered = true ∧ s.pc.onBus = false := by
  have hrun : (LTS.exec (lifeStep viaGpios) (fun _ _ => True) fresh suspendedRead).any
      (fun s => s.pc == .flushWork .suspend && s.work == .reading) = true := by decide +kernel
  obtain ⟨s, hs, hp⟩ := reachable_fresh hrun
  simp only [Bool.and_eq_true, beq_iff_eq] at hp
  exact ⟨s, hs, hp.1, hp.2, (polled_exclusive viaGpios s hs).1 hp.2⟩

/-! ## A stop comes to its end -/

def Timer.left : Timer → Nat
  | .idle => 0
  | .armed => 2
  | .fired => 1
  | .sampling => 5

def Exec.left : Exec → Nat
  | .idle => 0
  | .entered | .reading => 1

def Pc.left : Pc → Nat
  | .stopTimer _ => 4
  | .stopWork _ => 3
  | .flushWork _ => 2
  | .stopPower _ => 1
  | _ => 0

/-- The steps that callback, work item and stop can still take, once `running` is cleared. -/
def Life.left (s : Life) : Nat := s.timer.left + (if s.pending then 2 else 0) +
    s.work.left + s.pc.left

theorem left_le (s : Life) : s.left ≤ 12 := by
  have ht : s.timer.left ≤ 5 := by cases s.timer <;> simp [Timer.left]
  have hw : s.work.left ≤ 1 := by cases s.work <;> simp [Exec.left]
  have hp : s.pc.left ≤ 4 := by cases s.pc <;> simp [Pc.left]
  unfold Life.left
  split <;> omega

/-- The states and steps of a stop. -/
def InStop (s : Life) (_ : LifeLabel) : Prop := s.pc.stopping = true ∧ s.running = false

theorem lifeStep_left {l : LifeLabel} (h : lifeStep c s l = some t) (hst : InStop s l) :
    t.left < s.left := by
  obtain ⟨panel, running, timer, pending, work, powered, pc⟩ := s
  obtain ⟨hpc, hrun⟩ := hst
  simp only at hpc hrun
  subst hrun
  cases l with
  | timer gpio =>
    simp only [lifeStep] at h
    cases timer with
    | idle => simp [timerStep] at h
    | armed => cases h; simp [Life.left, Timer.left]
    | fired => cases h; simp [Life.left, Timer.left]
    | sampling => cases gpio with
      | error e => cases h; simp [Life.left, Timer.left]
      | ok asserted => cases h; cases pending <;> cases asserted <;> simp [Life.left, Timer.left]
  | work w =>
    simp only [lifeStep] at h
    cases work with
    | idle =>
      obtain ⟨hp, h⟩ := Option.ite_none_right_eq_some.mp h
      simp only at hp
      subst hp
      cases h
      simp [Life.left, Exec.left]
    | entered => cases h; simp [Life.left, Exec.left]
    | reading => cases h; simp [Life.left, Exec.left]
  | call w =>
    cases pc with
    | stopTimer caller =>
      obtain ⟨_, h⟩ := Option.ite_none_right_eq_some.mp h
      cases h
      simp only [Life.left, Timer.left, Pc.left]
      omega
    | stopWork caller =>
      cases h
      simp only [Life.left, Pc.left]
      cases pending with
      | true => simp only [reduceIte, Bool.false_eq_true]; omega
      | false => simp only [reduceIte, Bool.false_eq_true]; omega
    | flushWork caller =>
      obtain ⟨_, h⟩ := Option.ite_none_right_eq_some.mp h
      cases h
      simp only [Life.left, Pc.left]
      omega
    | stopPower caller => cases h; cases caller <;> simp [Life.left, Pc.left]
    | _ => simp [Pc.stopping] at hpc
  | input ret => cases pc <;> simp_all [lifeStep, inputStep, Pc.stopping]
  | suspend => cases pc <;> simp_all [lifeStep, stopStep, Pc.stopping]
  | resume w => cases pc <;> simp_all [lifeStep, resumeStep, Pc.stopping]
  | remove => cases pc <;> simp_all [lifeStep, stopStep, Pc.stopping]

/-- The party a stop waits for can go on, whatever the panel answers. -/
theorem stop_enabled (h : s.pc.stopping = true) (w : World) (gpio : Except Errno Bool) :
    ∃ l ∈ [LifeLabel.timer gpio, .work w, .call w], ∃ t, (life c).step s l t := by
  obtain ⟨panel, running, timer, pending, work, powered, pc⟩ := s
  cases pc with
  | stopTimer caller => cases timer with
    | idle => exact ⟨.call w, by simp, _, by simp [life, LTS.ofFun, lifeStep, callStep]; rfl⟩
    | armed => exact ⟨.call w, by simp, _, by simp [life, LTS.ofFun, lifeStep, callStep]; rfl⟩
    | fired => exact ⟨.timer gpio, by simp, _, rfl⟩
    | sampling => cases gpio with
      | error e => exact ⟨.timer (.error e), by simp, _, rfl⟩
      | ok asserted => exact ⟨.timer (.ok asserted), by simp, _, rfl⟩
  | stopWork caller => exact ⟨.call w, by simp, _, rfl⟩
  | flushWork caller => cases work with
    | idle => exact ⟨.call w, by simp, _, by simp [life, LTS.ofFun, lifeStep, callStep]; rfl⟩
    | entered => exact ⟨.work w, by simp, _, rfl⟩
    | reading => exact ⟨.work w, by simp, _, rfl⟩
  | stopPower caller => exact ⟨.call w, by simp, _, rfl⟩
  | _ => simp [Pc.stopping] at h

theorem Pc.not_started_of_stopping {pc : Pc} (h : pc.stopping = true) : pc.started = false := by
  cases pc <;> simp_all [stopping, started]

/-- A stop that is not over stays one. -/
theorem stop_step {l : LifeLabel} (h : lifeStep c s l = some t) (hs : s.pc.stopping = true) :
    t.pc.stopping = true ∨ t.pc = .suspended ∨ t.pc = .gone := by
  obtain ⟨panel, running, timer, pending, work, powered, pc⟩ := s
  cases l with
  | timer gpio =>
    refine Or.inl ?_
    simp only [lifeStep] at h
    cases timer with
    | idle => simp [timerStep] at h
    | armed => cases h; exact hs
    | fired => cases h; exact hs
    | sampling => cases gpio <;> cases h <;> exact hs
  | work w =>
    refine Or.inl ?_
    simp only [lifeStep] at h
    cases work with
    | idle =>
      obtain ⟨_, h⟩ := Option.ite_none_right_eq_some.mp h
      cases h
      exact hs
    | entered => cases h; exact hs
    | reading => cases h; exact hs
  | call w =>
    cases pc with
    | stopTimer caller =>
      obtain ⟨_, h⟩ := Option.ite_none_right_eq_some.mp h
      cases h
      exact Or.inl rfl
    | stopWork caller => cases h; exact Or.inl rfl
    | flushWork caller =>
      obtain ⟨_, h⟩ := Option.ite_none_right_eq_some.mp h
      cases h
      exact Or.inl rfl
    | stopPower caller => cases h; cases caller <;> simp
    | _ => simp [Pc.stopping] at hs
  | input ret => cases pc <;> simp_all [lifeStep, inputStep, Pc.stopping]
  | suspend => cases pc <;> simp_all [lifeStep, stopStep, Pc.stopping]
  | resume w => cases pc <;> simp_all [lifeStep, resumeStep, Pc.stopping]
  | remove => cases pc <;> simp_all [lifeStep, stopStep, Pc.stopping]

theorem inStop_run {ls : List LifeLabel} (h : (life c).RunMeets
    (fun s _ => s.pc.stopping = true) s ls t)
    (hi : Sane s) : (life c).RunMeets InStop s ls t := by
  induction h with
  | nil => exact .nil _
  | cons hst hc _ ih => exact .cons hst ⟨hc, hi.flag.trans (Pc.not_started_of_stopping hc)⟩ (ih (lifeStep_sane hst hi))

/-- `g6ts_stop` and the power off behind it: at most twelve steps of callback, work item and call
together, each time one of them can go on, and at the end nothing is left and the power is off. -/
theorem stop_ends (c : Config) : ∀ s, (life c).Reachable s → s.pc.stopping = true →
    (∀ ls t, (life c).RunMeets (fun s _ => s.pc.stopping = true) s ls t → ls.length ≤ 12) ∧
    (∀ w gpio, ∃ l ∈ [LifeLabel.timer gpio, .work w, .call w], ∃ t, (life c).step s l t) ∧
    ∀ l t, (life c).step s l t → t.pc.stopping = true ∨
      (t.pc = .suspended ∨ t.pc = .gone) ∧ t.powered = false ∧ Quiesced t := by
  intro s hs hstop
  have hi : Sane s := (sane_inductive c).reachable s hs
  refine ⟨fun ls t hr => ?_, stop_enabled hstop, fun l t hst => ?_⟩
  · have hrun : ((life c).restrict InStop).Run s ls t := LTS.run_restrict (inStop_run hr hi)
    have hdown : ∀ s l t, ((life c).restrict InStop).step s l t → t.left < s.left :=
      fun _ _ _ h => lifeStep_left h.1 h.2
    have hlen : ls.length + t.left ≤ s.left := hrun.length_le hdown
    have := left_le s
    omega
  · have ht : Sane t := lifeStep_sane hst hi
    rcases stop_step hst hstop with h | h
    · exact Or.inl h
    · have hoff : t.pc.off = true := by rcases h with h | h <;> simp [h, Pc.off]
      obtain ⟨hw, hf⟩ := Pc.not_worked_of_off hoff
      exact Or.inr ⟨h, ht.off hoff, ht.quiesced hf hw⟩

/-- A stop that waits for a reading work item. -/
theorem stop_ends_read : ∃ s, (life viaGpios).Reachable s ∧ s.work = .reading ∧
    s.pc.stopping = true ∧
    ∀ ls t, (life viaGpios).RunMeets (fun s _ => s.pc.stopping = true) s ls t → ls.length ≤ 12 := by
  have hrun : (LTS.exec (lifeStep viaGpios) (fun _ _ => True) fresh suspendedRead).any
      (fun s => s.work == .reading && s.pc.stopping) = true := by decide +kernel
  obtain ⟨s, hs, hp⟩ := reachable_fresh hrun
  simp only [Bool.and_eq_true, beq_iff_eq] at hp
  exact ⟨s, hs, hp.1, hp.2, (stop_ends viaGpios s hs hp.2).1⟩

/-! ## The counters -/

theorem accounts_inductive (c : Config) : (life c).Inductive fun s => Accounts none 0 s.panel where
  init := by
    intro s hs
    obtain ⟨body, rfl⟩ := hs
    exact ⟨⟨rfl, rfl, rfl, rfl⟩, rfl, trivial, Nat.le_refl 0, fun h => by simp at h⟩
  step := by
    intro s l t hi h
    obtain ⟨panel, running, timer, pending, work, powered, pc⟩ := s
    simp only [life, LTS.ofFun] at h
    cases l with
    | timer gpio =>
      cases timer with
      | idle => simp [lifeStep, timerStep] at h
      | armed => cases h; exact hi
      | fired => cases h; exact hi
      | sampling => cases gpio with
        | error e => cases h; exact hi.of_book rfl
        | ok asserted => cases h; exact hi
    | work w =>
      cases work with
      | idle =>
        obtain ⟨_, h⟩ := Option.ite_none_right_eq_some.mp h
        cases h
        exact hi
      | entered => cases h; exact hi
      | reading => cases h; exact workSection_accounts w hi
    | call w =>
      cases pc with
      | probePower =>
        have hp := Keeps.state (powerOn_accounts c.gpioPair w) hi
        revert hp
        simp only [lifeStep, callStep] at h
        split at h
        · next heq => cases h; rw [heq]; exact id
        · next heq => cases h; rw [heq]; exact id
      | readiness caller => cases h; exact (readiness_accounts w).state hi
      | reset caller => cases h; exact (resetController_accounts c.gpioPair w).state hi
      | descriptor => cases h; exact (probeDescriptor_accounts w).state hi
      | errPower => cases h; exact (powerOff_accounts c.gpioPair w).state hi
      | stopTimer caller =>
        obtain ⟨_, h⟩ := Option.ite_none_right_eq_some.mp h
        cases h
        exact hi
      | flushWork caller =>
        obtain ⟨_, h⟩ := Option.ite_none_right_eq_some.mp h
        cases h
        exact hi
      | stopPower caller => cases h; exact (powerOff_accounts c.gpioPair w).state hi
      | startFlag => cases h; exact hi
      | startTimer => cases h; exact hi
      | stopWork caller => cases h; exact hi
      | _ => cases h
    | input ret =>
      obtain ⟨_, h⟩ := Option.ite_none_right_eq_some.mp h
      cases h
      exact hi
    | resume w =>
      obtain ⟨_, h⟩ := Option.ite_none_right_eq_some.mp h
      have hp := Keeps.state (powerOn_accounts c.gpioPair w) hi
      revert hp
      simp only at h
      split at h
      · next heq => cases h; rw [heq]; exact id
      · next heq => cases h; rw [heq]; exact id
    | suspend =>
      obtain ⟨_, h⟩ := Option.ite_none_right_eq_some.mp h
      cases h
      exact hi
    | remove =>
      obtain ⟨_, h⟩ := Option.ite_none_right_eq_some.mp h
      cases h
      exact hi

/-- Whatever the panel answers and in whatever order: each response is counted once under its
class, each position once, every input is that of the touch report right before it, errors are
fewer than reads, and a validated descriptor is one that was sent. -/
theorem polled_accounts (c : Config) : ∀ s, (life c).Reachable s → Accounts none 0 s.panel :=
  fun s hs => (accounts_inductive c).reachable s hs

/-- The finger is read once, on the way into suspend. -/
theorem polled_accounts_read : ∃ s, (life viaGpios).Reachable s ∧ s.pc = .suspended ∧
    s.panel.touches = 1 ∧
    Accounts none 0 s.panel := by
  have hrun : (LTS.exec (lifeStep viaGpios) (fun _ _ => True) fresh
      (suspendedRead ++ [.work fingerDown, .call fingerDown, .call fingerDown])).any
      (fun s => s.pc == .suspended && s.panel.touches == 1) = true := by decide +kernel
  obtain ⟨s, hs, hp⟩ := reachable_fresh hrun
  simp only [Bool.and_eq_true, beq_iff_eq] at hp
  exact ⟨s, hs, hp.1, hp.2, polled_accounts viaGpios s hs⟩

end Sp11Touch.Polled
