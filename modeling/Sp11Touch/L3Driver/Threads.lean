import Sp11Touch.Core.LTS
import Sp11Touch.L3Driver.InitializeRule
/-!
# The IRQ thread and the recovery worker (`mshw0485_touch.c`)

Both do their work in one `io_lock` section: `irqSection` and
`recoverySection`. `driver` interleaves these sections with what the threads
do outside the lock: the IRQ thread tests `mode_enabled` before it, the worker
reschedules itself after it. `DrainExit` records where the loop of the IRQ
thread ends.
-/
namespace Sp11Touch

def irqDrainLimit : Nat := 128
def recoveryLimit : UInt8 := 3

/-- The exits of the loop in `g6ts_interrupt_thread`. -/
inductive DrainExit where
  /-- no unread response -/
  | empty
  /-- `-EAGAIN` -/
  | again
  | fault (e : Errno)
  | reset
  /-- one response under `windows_read_cadence` -/
  | single
  /-- `i == G6TS_IRQ_DRAIN_LIMIT` -/
  | full
  deriving DecidableEq

namespace Driver
open Proc

section
variable (c : Config) (w : World)

/-! ## The IRQ thread -/

/-- The branches after one response was read. -/
def afterResponse (s : Ts) : Ts × Option DrainExit :=
  if s.io.lastClass = classResetResponse then (notePanelReset c w true s, some .reset)
  else if c.p.windowsReadCadence then
    ({ s with stats.cadenceSingleResponseIrqs := s.stats.cadenceSingleResponseIrqs + 1 },
      some .single)
  else (s, none)

/-- One turn of the loop; `none` goes on. -/
def drainTurn (s : Ts) : Ts × Option DrainExit :=
  match hasUnreadResponse w s with
  | (s, .ok true) => match dmaReadResponse c w s with
    | (s, .error .EAGAIN) => (s, some .again)
    | (s, .error e) => (noteHostFault c e s, some (.fault e))
    | (s, .ok _) => afterResponse c w s
  | (s, _) => (s, some .empty)

def drainLoop : Nat → Ts → Ts × DrainExit
  | 0, s => (s, .full)
  | n + 1, s => match drainTurn c w s with
    | (s, some exit) => (s, exit)
    | (s, none) => drainLoop n s

/-- mirrors phase55/modules/mshw0485_touch.c:2426-2429 (the drain limit) -/
def drainOverflow (s : Ts) : Ts :=
  match hasUnreadResponse w s with
  | (s, .ok true) =>
    noteHostFault c .EOVERFLOW { s with stats.irqDrainOverflows := s.stats.irqDrainOverflows + 1 }
  | (s, _) => s

/-- mirrors phase55/modules/mshw0485_touch.c:2401-2430 (under `io_lock`) -/
def irqSection (s : Ts) : Ts × DrainExit :=
  match drainLoop c w irqDrainLimit s with
  | (s, .full) => (drainOverflow c w s, .full)
  | r => r

/-- mirrors phase55/modules/mshw0485_touch.c:2392-2432 (`g6ts_interrupt_thread`) -/
def interruptThread (s : Ts) : Ts := if s.modeEnabled then (irqSection c w s).1 else s

/-! ## The recovery worker -/

/-- mirrors phase55/modules/mshw0485_touch.c:3175-3176 (before the attempt) -/
def beginAttempt (s : Ts) : Ts :=
  Ts.releaseContacts (Ts.note .attempt { s with modeEnabled := false })

/-- mirrors phase55/modules/mshw0485_touch.c:3180-3184 (success) -/
def attemptSucceeded (path : RecoveryPath) (s : Ts) : Ts :=
  { s with
    recoveryFailStreak := 0
    stats.recoverySuccesses := s.stats.recoverySuccesses + 1
    rapidResetStreak := if path = .HARDWARE then 0 else s.rapidResetStreak
    recoveryPath := .HARDWARE }

/-- mirrors phase55/modules/mshw0485_touch.c:3201-3202 (the counters of a failure) -/
def countFailure (s : Ts) : Ts :=
  Ts.note .attemptFailed { s with
    stats.recoveryFailures := s.stats.recoveryFailures + 1
    recoveryFailStreak := s.recoveryFailStreak + 1 }

/-- mirrors phase55/modules/mshw0485_touch.c:3201-3211 (failure); the flag is `retry` -/
def attemptFailed (path : RecoveryPath) (s : Ts) : Ts × Bool :=
  let s := countFailure s
  if path = .SOFTWARE ∧ s.fatalTransportError = false then
    ({ s with
      stats.softwareRecoveryFallbacks := s.stats.softwareRecoveryFallbacks + 1
      recoveryPath := .HARDWARE }, true)
  else (s, !s.fatalTransportError && decide (s.recoveryFailStreak < recoveryLimit))

/-- The outcome of one run of the locked section. -/
inductive Outcome where
  | stopped
  | success
  | failure (retry : Bool)
  deriving DecidableEq

/-- The attempt on the path chosen when the section begins. -/
def attempt (path : RecoveryPath) (s : Ts) : Ts × Outcome :=
  match fullReinitializeLocked c w path (beginAttempt s) with
  | (s, .ok _) => (attemptSucceeded path s, .success)
  | (s, .error _) => ((attemptFailed path s).1, .failure (attemptFailed path s).2)

/-- mirrors phase55/modules/mshw0485_touch.c:3169-3219 (under `io_lock`) -/
def recoverySection (s : Ts) : Ts × Outcome :=
  if s.stopping then (s, .stopped) else attempt c w s.recoveryPath s

/-- The local variable `retry` at the end of the section. -/
def Outcome.retry : Outcome → Bool
  | .failure retry => retry
  | _ => false

/-- mirrors phase55/modules/mshw0485_touch.c:3221-3223 (the worker reschedules itself) -/
def reschedule (retry : Bool) (s : Ts) : Ts := if retry then scheduleRecovery s else s

/-- The work is dequeued before it runs. -/
def dequeued (s : Ts) : Ts := { s with workPending := false }

/-- One run of the queued work.
mirrors phase55/modules/mshw0485_touch.c:3161-3224 (`g6ts_recovery_work`) -/
def recoveryWork (s : Ts) : Ts × Outcome :=
  let r := recoverySection c w (dequeued s)
  (reschedule r.2.retry r.1, r.2)

end

/-! ## The rules for the IRQ thread -/

/-- What the loop of the IRQ thread needs: `I` between its turns, `E` after a failed read, `Q` at an exit. -/
structure DrainRule (c : Config) (w : World) (I : Ts → Prop) (E : Errno → Ts → Prop)
    (Q : DrainExit → Ts → Prop) :
    Prop where
  unread : Triple I (hasUnreadResponse w) (fun unread t => (unread = true → I t) ∧
    (unread = false → Q .empty t))
    fun _ => Q .empty
  read : Triple I (dmaReadResponse c w) (fun _ => I) E
  again : ∀ s, E .EAGAIN s → Q .again s
  fault : ∀ e s, e ≠ .EAGAIN → E e s → Q (.fault e) (noteHostFault c e s)
  reset : ∀ s, I s → Q .reset (notePanelReset c w true s)
  single : ∀ s, c.p.windowsReadCadence = true → I s →
    Q .single { s with stats.cadenceSingleResponseIrqs := s.stats.cadenceSingleResponseIrqs + 1 }

namespace DrainRule
variable {c : Config} {w : World} {I : Ts → Prop} {E : Errno → Ts → Prop}
  {Q : DrainExit → Ts → Prop}

theorem afterResponse (h : DrainRule c w I E Q) {s : Ts} (hs : I s) :
    match afterResponse c w s with
    | (t, some exit) => exit ≠ .full ∧ Q exit t
    | (t, none) => I t := by
  unfold Driver.afterResponse
  by_cases hreset : s.io.lastClass = classResetResponse
  · rw [if_pos hreset]
    exact ⟨by decide, h.reset s hs⟩
  · rw [if_neg hreset]
    by_cases hcad : c.p.windowsReadCadence = true
    · rw [if_pos hcad]
      exact ⟨by decide, h.single s hcad hs⟩
    · rw [if_neg hcad]
      exact hs

/-- A turn ends the loop at an exit, or goes on. -/
theorem drainTurn (h : DrainRule c w I E Q) {s : Ts} (hs : I s) :
    match drainTurn c w s with
    | (t, some exit) => exit ≠ .full ∧ Q exit t
    | (t, none) => I t := by
  have hu := h.unread s hs
  unfold Driver.drainTurn
  revert hu
  cases hasUnreadResponse w s with
  | mk t r => cases r with
    | error e => exact fun hu => ⟨by decide, hu⟩
    | ok unread =>
      intro hu
      cases unread with
      | false => exact ⟨by decide, hu.2 rfl⟩
      | true =>
        have hr := h.read t (hu.1 rfl)
        simp only
        revert hr
        cases dmaReadResponse c w t with
        | mk v r => cases r with
          | ok _ => exact fun hr => h.afterResponse hr
          | error e =>
            intro hr
            by_cases he : e = .EAGAIN
            · subst he
              exact ⟨by decide, h.again v hr⟩
            · have hf := h.fault e v he hr
              cases e <;> first | exact absurd rfl he | exact ⟨nofun, hf⟩

/-- By induction on the turns. -/
theorem drainLoop (h : DrainRule c w I E Q) : ∀ n {s : Ts}, I s →
    (drainLoop c w n s).2 = .full ∧ I (drainLoop c w n s).1 ∨
      (drainLoop c w n s).2 ≠ .full ∧ Q (drainLoop c w n s).2 (drainLoop c w n s).1
  | 0, _, hs => Or.inl ⟨rfl, hs⟩
  | n + 1, s, hs => by
    have ht := h.drainTurn hs
    unfold Driver.drainLoop
    revert ht
    cases Driver.drainTurn c w s with
    | mk t r => cases r with
      | some exit => exact Or.inr
      | none => exact fun ht => h.drainLoop n ht

/-- At the limit the line is asked once more. -/
theorem drainOverflow (h : DrainRule c w I E Q) {s : Ts} (hs : I s) :
    Q .empty (drainOverflow c w s) ∨ ∃ t, I t ∧ drainOverflow c w s =
      noteHostFault c .EOVERFLOW { t with stats.irqDrainOverflows :=
      t.stats.irqDrainOverflows + 1 } := by
  have hu := h.unread s hs
  unfold Driver.drainOverflow
  revert hu
  cases hasUnreadResponse w s with
  | mk t r => cases r with
    | error e => exact Or.inl
    | ok unread => cases unread with
      | false => exact fun hu => Or.inl (hu.2 rfl)
      | true => exact fun hu => Or.inr ⟨t, hu.1 rfl, rfl⟩

/-- The section ends at an exit of the loop, or in an overflow. -/
theorem irqSection (h : DrainRule c w I E Q) {s : Ts} (hs : I s) :
    (∃ exit, Q exit (irqSection c w s).1 ∧
      (exit = .empty ∧ (irqSection c w s).2 = .full ∨ exit ≠ .full ∧ exit = (irqSection c w s).2)) ∨
      (irqSection c w s).2 = .full ∧ ∃ t, I t ∧ (irqSection c w s).1 =
        noteHostFault c .EOVERFLOW { t with stats.irqDrainOverflows :=
        t.stats.irqDrainOverflows + 1 } := by
  have hl := h.drainLoop irqDrainLimit hs
  unfold Driver.irqSection
  revert hl
  cases Driver.drainLoop c w irqDrainLimit s with
  | mk t exit =>
    intro hl
    rcases hl with ⟨hfull, ht⟩ | ⟨hexit, hq⟩
    · cases hfull
      exact (h.drainOverflow ht).imp (fun hq => ⟨.empty, hq, Or.inl ⟨rfl, rfl⟩⟩)
        fun hover => ⟨rfl, hover⟩
    · cases exit with
      | full => exact absurd rfl hexit
      | _ => exact Or.inl ⟨_, hq, Or.inr ⟨hexit, rfl⟩⟩

end DrainRule

/-- What the section of the IRQ thread needs of a condition. -/
structure IrqRule (c : Config) (w : World) (I : Ts → Prop) : Prop extends ReadRule c I where
  reset : ∀ s, I s → I (notePanelReset c w true s)
  fault : ∀ e s, I s → I (noteHostFault c e s)
  counted : ∀ s stats, I s → I { s with stats := stats }

namespace IrqRule
variable {c : Config} {w : World} {I : Ts → Prop}

theorem drainRule (h : IrqRule c w I) : DrainRule c w I (fun _ => I) (fun _ => I) where
  unread := Triple.conseq h.hasUnreadResponse (fun _ hs => hs)
    (fun _ _ hs => ⟨fun _ => hs, fun _ => hs⟩) fun _ _ hs => hs
  read := h.dmaReadResponse
  again _ hs := hs
  fault e s _ hs := h.fault e s hs
  reset := h.reset
  single s _ hs := h.counted s _ hs

theorem irqSection (h : IrqRule c w I) {s : Ts} (hs : I s) : I (irqSection c w s).1 := by
  rcases h.drainRule.irqSection hs with ⟨_, hexit, _⟩ | ⟨_, t, ht, heq⟩
  · exact hexit
  · rw [heq]
    exact h.fault _ _ (h.counted t _ ht)

end IrqRule

/-- The rule for the section of the worker: `J` between the sections, `I`
during initialization, `O` after it. -/
theorem recoverySection_rule {c : Config} {w : World} {I O J : Ts → Prop} (h : InitRule c w I O)
    (hbegin : ∀ s, J s → I (beginInitialization (beginAttempt s)))
    (hok : ∀ path s, O s → J (attemptSucceeded path s))
    (herr : ∀ path s, I s → s.modeEnabled = false → J (attemptFailed path s).1) {s : Ts}
      (hs : J s) :
    J (recoverySection c w s).1 := by
  have hf := h.fullReinitializeLocked_rule s.recoveryPath (beginAttempt s) (hbegin s hs)
  unfold recoverySection attempt
  split
  · exact hs
  · revert hf
    cases fullReinitializeLocked c w s.recoveryPath (beginAttempt s) with
    | mk t r => cases r with
      | ok _ => exact hok _ t
      | error _ => exact fun ht => herr _ t ht.1 ht.2

/-! ## The probed device and its threads -/

/-- mirrors phase55/modules/mshw0485_touch.c:3321-3331 (the end of `g6ts_probe`): the
allocated structure is zeroed, the body buffer is not. -/
structure Probed (s : Ts) : Prop where
  modeEnabled : s.modeEnabled = false
  awaitingReadyHeat : s.awaitingReadyHeat = false
  fatalTransportError : s.fatalTransportError = false
  transportErrors : s.transportErrors = 0
  recoveryPath : s.recoveryPath = .HARDWARE
  recoveryFailStreak : s.recoveryFailStreak = 0
  rapidResetStreak : s.rapidResetStreak = 0
  lastResetJiffies : s.lastResetJiffies = 0
  stopping : s.stopping = false
  workPending : s.workPending = true
  irqDepth : s.irqDepth = 0
  tracks : s.heat.tracks = zeroTracks
  log : s.log = []

/-- The driver with the points between the atomic sections of its threads. -/
structure Threads where
  ts : Ts
  /-- the IRQ thread found `mode_enabled` set and has not taken `io_lock` yet -/
  irqEntered : Bool
  /-- the worker has dropped `io_lock`, with `retry` -/
  leaving : Option Bool

inductive Label where
  | irqEnter
  | irq (w : World)
  | work (w : World)
  | leave

/-- One atomic step. The interrupt is not delivered while it is disabled; a
work item does not run beside itself. -/
def threadStep (c : Config) (s : Threads) : Label → Option Threads
  | .irqEnter => if s.ts.modeEnabled && s.ts.irqDepth == 0 && !s.irqEntered
      then some { s with irqEntered := true } else none
  | .irq w => if s.irqEntered
      then some { s with ts := (irqSection c w s.ts).1, irqEntered := false } else none
  | .work w => if s.ts.workPending && s.leaving.isNone then
      let r := recoverySection c w (dequeued s.ts)
      some { s with ts := r.1, leaving := some r.2.retry } else none
  | .leave => s.leaving.map fun retry => { s with ts := reschedule retry s.ts, leaving := none }

def ProbedThreads (s : Threads) : Prop := Probed s.ts ∧ s.irqEntered = false ∧ s.leaving = none

/-- IRQ thread and worker after `g6ts_probe`, with any behaviour of the outside world. -/
def driver (c : Config) : LTS Threads Label := .ofFun ProbedThreads (threadStep c)

/-- A step keeps what both sections keep and what does not depend on `workPending`. -/
theorem threadStep_keeps {c : Config} {I : Ts → Prop}
    (hpending : ∀ s pending, I s → I { s with workPending := pending })
    (hirq : ∀ w s, I s → I (irqSection c w s).1) (hwork : ∀ w s, I s → I (recoverySection c w s).1)
    {s t : Threads} {l : Label} (hs : I s.ts) (hst : threadStep c s l = some t) : I t.ts := by
  cases l with
  | irqEnter =>
    obtain ⟨_, rfl⟩ := Option.ite_some_none_eq_some.mp hst
    exact hs
  | irq w =>
    obtain ⟨_, rfl⟩ := Option.ite_some_none_eq_some.mp hst
    exact hirq w _ hs
  | work w =>
    obtain ⟨_, rfl⟩ := Option.ite_some_none_eq_some.mp hst
    exact hwork w _ (hpending _ _ hs)
  | leave =>
    obtain ⟨retry, _, rfl⟩ := Option.map_eq_some_iff.mp hst
    unfold reschedule
    rw [scheduleRecovery_eq]
    split
    · exact hpending _ _ hs
    · exact hs

/-! ## A probed device, and a panel that answers from a script -/

/-- Reset recovery in software, and nothing that clears the latch. -/
def softwareConfig : Config := ⟨{ resetRecoveryV2 := true, modeConfigFix := false }, rfl, true, 4⟩

def probedIo : Io where
  clk := 0
  body _ := 0
  lastHeader _ := 0
  lastClass := 0
  lastContentLen := 0
  lastContentId := 0
  expectedReportDescriptorLen := 0
  modeConfig := []
  modeConfigValid := false
  handledInterruptEdges := 0
  initializationStage := .IDLE
  parityRequired := {}
  parityBuffers := {}
  quiescedEmptyReads := 0
  hardwareRecoveryAttempts := 0
  softwareRecoveryAttempts := 0
  wire := []

/-- With zeros in the body buffer. -/
def probedTs : Ts where
  io := probedIo
  heat := .zero
  stats := {}
  modeEnabled := false
  awaitingReadyHeat := false
  fatalTransportError := false
  recoveryPath := .HARDWARE
  recoveryFailStreak := 0
  rapidResetStreak := 0
  lastResetJiffies := 0
  lastHostFault := none
  stopping := false
  workPending := true
  irqDepth := 0
  transportErrors := 0
  log := []

def probed : Threads := ⟨probedTs, false, none⟩

theorem probed_init : ProbedThreads probed :=
  ⟨⟨rfl, rfl, rfl, rfl, rfl, rfl, rfl, rfl, rfl, rfl, rfl, rfl, rfl⟩, rfl, rfl⟩

/-- One response of the panel; missing content bytes are zero. -/
structure Response where
  responseClass : Nat
  contentId : Nat
  contentLen : Nat
  content : Bytes

def Response.header (r : Response) (i : Nat) : UInt8 :=
  let words := (r.contentLen + hidspiInputBodyHeaderSize + 3) / 4
  [0x03, UInt8.ofNat (words % 256), UInt8.ofNat (words / 256), 0x5a].getD i 0

def Response.body (r : Response) (i : Nat) : UInt8 :=
  ([UInt8.ofNat r.responseClass, UInt8.ofNat (r.contentLen % 256), UInt8.ofNat (r.contentLen / 256),
    UInt8.ofNat r.contentId] ++ r.content).getD i 0

/-- Response `k` has its header read at tick `first + 7 * k + 4` and its body at the next;
the line stays asserted. -/
def panel (script : List Response) (first : Nat) : World where
  gpio _ := .ok true
  edges _ := 0
  polls _ := 0
  read t :=
    let r := script.getD ((t - first) / 7) ⟨0, 0, 0, []⟩
    (if (t - first) % 7 = 4 then r.header else r.body, none)
  write _ := none
  jiffies _ := 1
  acpi _ := none

/-- The line is not asserted, no edge, no error, no time. -/
def silentWorld : World where
  gpio _ := .ok false
  edges _ := 0
  polls _ := 0
  read _ := (fun _ => 0, none)
  write _ := none
  jiffies _ := 1
  acpi _ := none

def resetResponse : Response := ⟨classResetResponse, 0, 0, []⟩

/-- The answers from the device descriptor to the mode handshake. -/
def startup : List Response := [
  ⟨classDeviceDescriptorResponse, 0, 24, [24, 0, 0, 3, 0xcc, 5, 0, 32, 0, 2, 0, 32, 0x5e, 4, 0x83,
    0x0c, 4, 0, 1]⟩,
  ⟨classReportDescriptorResponse, 0, 1484, []⟩,
  ⟨classSetFeatureResponse, 0x05, 0, []⟩,
  ⟨classGetFeatureResponse, 0x70, 1, []⟩,
  ⟨classSetFeatureResponse, 0x70, 0, []⟩,
  ⟨classSetFeatureResponse, 0x56, 0, []⟩]

/-- The hardware start-up of a probed device. -/
def boot : Label := .work (panel (resetResponse :: startup) 0)

end Driver
end Sp11Touch
