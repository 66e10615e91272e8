import Sp11Touch.L3Driver.Threads
import Sp11Touch.Core.LTS
/-!
# When a failed recovery attempt is retried

By design a failed attempt is retried unless the transport failed in that
attempt: always after the software path, which falls back to hardware, and
below the fail limit after the hardware path (`retryLaw`). The code decides
by the latch `fatal_transport_error`. An IRQ read that fails on the bus sets
the latch too, and without `host_fault_recovery` nothing but a resume clears
it, so it can be left over from before the attempt.

**Results.**
* `retry_law`: along every run whose attempts begin `Fresh` every attempt
  obeys the law, and a state is `Fresh` exactly when the next attempt obeys
  it in every world. `stale_latch_drops_retry` is a run that breaks it.
* `retry_bound_iff`: from every state the worker runs at most six times, four
  from streak zero, and the fallback to hardware happens, unless a software
  attempt begins with the latch set.
-/
namespace Sp11Touch.Driver
open Proc

/-! ## What an attempt keeps -/

/-- The fields of `s0` that initialization leaves alone, and the latch. -/
structure AttemptFrame (s0 t : Ts) : Prop where
  stopping : t.stopping = s0.stopping
  streak : t.recoveryFailStreak = s0.recoveryFailStreak
  workPending : t.workPending = s0.workPending
  errors : s0.transportErrors ≤ t.transportErrors
  latch : t.fatalTransportError = (s0.fatalTransportError ||
    decide (s0.transportErrors < t.transportErrors))

theorem AttemptFrame.refl (s : Ts) : AttemptFrame s s :=
  ⟨rfl, rfl, rfl, Nat.le_refl _, by simp⟩

theorem AttemptFrame.latched {s0 t : Ts} (h : AttemptFrame s0 t) : AttemptFrame s0 t.latch := by
  have he : s0.transportErrors < t.latch.transportErrors := Nat.lt_succ_of_le h.errors
  exact ⟨h.stopping, h.streak, h.workPending,
    Nat.le_of_lt he, by rw [decide_eq_true he, Bool.or_true]; rfl⟩

/-- The input code touches none of these fields. -/
theorem AttemptFrame.data {s0 t : Ts} (c : Config) (h : AttemptFrame s0 t) :
    AttemptFrame s0 (handleDataReport c t) := by
  obtain ⟨_, _, _, _, he⟩ := handleDataReport_frame c t
  rw [he]
  exact ⟨h.stopping, h.streak, h.workPending, h.errors, h.latch⟩

theorem AttemptFrame.reset {s0 t : Ts} (c : Config) (w : World) (h : AttemptFrame s0 t) :
    AttemptFrame s0 (notePanelReset c w false t) := by
  obtain ⟨_, _, _, he, _⟩ := notePanelReset_frame c w t
  rw [he]
  exact ⟨h.stopping, h.streak, h.workPending, h.errors, h.latch⟩

theorem attemptFrame_rule (c : Config) (w : World) (s0 : Ts) :
    InitRule c w (AttemptFrame s0) (AttemptFrame s0) where
  io _ _ h := ⟨h.stopping, h.streak, h.workPending, h.errors, h.latch⟩
  latch _ h := h.latched
  data _ h _ := h.data c
  reset _ h := h.reset c w
  close _ h := ⟨h.stopping, h.streak, h.workPending, h.errors, h.latch⟩
  paused _ h := h
  opened _ h := ⟨h.stopping, h.streak, h.workPending, h.errors, h.latch⟩

theorem fullReinitializeLocked_frame (c : Config) (w : World) (path : RecoveryPath) (s : Ts) :
    AttemptFrame s (fullReinitializeLocked c w path s).1 := by
  have h := (attemptFrame_rule c w s).fullReinitializeLocked_rule path s
    ⟨rfl, rfl, rfl, Nat.le_refl _, by simp [beginInitialization]⟩
  revert h
  cases fullReinitializeLocked c w path s with
  | mk t r => cases r with
    | ok _ => exact id
    | error _ => exact fun h => h.1

/-! ## One attempt -/

/-- The transport failed between `s` and `t`. -/
def erred (s t : Ts) : Bool := decide (s.transportErrors < t.transportErrors)

/-- A failed attempt that left the fields of `s` alone up to `u`. -/
theorem recoverySection_failed {c : Config} {w : World} {s t : Ts} {retry : Bool}
    (h : recoverySection c w s = (t, .failure retry)) :
    s.stopping = false ∧ ∃ u, AttemptFrame s u ∧ attemptFailed s.recoveryPath u = (t, retry) := by
  unfold recoverySection at h
  split at h
  · cases h
  next hstop =>
    refine ⟨by simpa using hstop, ?_⟩
    have hf := fullReinitializeLocked_frame c w s.recoveryPath (beginAttempt s)
    unfold attempt at h
    split at h
    · cases h
    next u e hu =>
      rw [hu] at hf
      obtain ⟨rfl, hr⟩ := Prod.mk.inj h
      cases hr
      exact ⟨u, ⟨hf.stopping, hf.streak, hf.workPending, hf.errors, hf.latch⟩, rfl⟩

/-- The design: a function of the path, the streak before the attempt and the
transport errors of the attempt. -/
def retryLaw (path : RecoveryPath) (streak : UInt8) (transportError : Bool) : Bool :=
  !transportError && (decide (path = .SOFTWARE) || decide (streak + 1 < recoveryLimit))

/-- If the attempt from `s` fails, it is retried by the law, and without a
transport error the software path falls back to hardware. -/
def Lawful (c : Config) (w : World) (s : Ts) : Prop :=
  ∀ t retry, recoverySection c w s = (t, .failure retry) →
    retry = retryLaw s.recoveryPath s.recoveryFailStreak (erred s t) ∧
    (s.recoveryPath = .SOFTWARE → erred s t = false → t.recoveryPath = .HARDWARE)

/-- The latch is not left over, or it cannot matter: the section does not
attempt, or the fail limit stops the retry anyway. -/
def Fresh (s : Ts) : Prop :=
  s.fatalTransportError = false ∨ s.stopping = true ∨
    s.recoveryPath = .HARDWARE ∧ ¬ s.recoveryFailStreak + 1 < recoveryLimit

/-- What a failed attempt does, in terms of the latch. -/
theorem attemptFailed_eq {s u t : Ts} {retry : Bool} (hu : AttemptFrame s u)
    (h : attemptFailed s.recoveryPath u = (t, retry)) :
    t.fatalTransportError = (s.fatalTransportError || erred s t) ∧
    t.recoveryFailStreak = s.recoveryFailStreak + 1 ∧ t.stopping = s.stopping ∧
    t.workPending = s.workPending ∧
    retry = (!t.fatalTransportError && (decide (s.recoveryPath = .SOFTWARE) ||
      decide (s.recoveryFailStreak + 1 < recoveryLimit))) ∧
    (s.recoveryPath = .SOFTWARE → t.fatalTransportError = false → t.recoveryPath = .HARDWARE) := by
  by_cases hc : s.recoveryPath = .SOFTWARE ∧ (countFailure u).fatalTransportError = false
  · simp only [attemptFailed, if_pos hc, Prod.mk.injEq] at h
    obtain ⟨rfl, rfl⟩ := h
    refine ⟨hu.latch, congrArg (· + 1) hu.streak, hu.stopping, hu.workPending, ?_, fun _ _ => rfl⟩
    simp [hc.1, hc.2]
  · simp only [attemptFailed, if_neg hc, Prod.mk.injEq] at h
    obtain ⟨rfl, rfl⟩ := h
    have hk : (countFailure u).recoveryFailStreak = s.recoveryFailStreak + 1 :=
      congrArg (· + 1) hu.streak
    refine ⟨hu.latch, hk, hu.stopping, hu.workPending, ?_, fun hp hf => absurd ⟨hp, hf⟩ hc⟩
    rw [hk]
    cases hp : s.recoveryPath with
    | HARDWARE => simp
    | SOFTWARE =>
      have hf : (countFailure u).fatalTransportError = true := by simpa [hp] using hc
      simp [hf]

theorem lawful_of_fresh (c : Config) (w : World) {s : Ts} (hs : Fresh s) : Lawful c w s := by
  intro t retry h
  obtain ⟨hstop, u, hu, ha⟩ := recoverySection_failed h
  obtain ⟨hlatch, -, -, -, hretry, hback⟩ := attemptFailed_eq hu ha
  rcases hs with hf | hf | ⟨hp, hk⟩
  · have hl : t.fatalTransportError = erred s t := by simpa [hf] using hlatch
    exact ⟨by rw [hretry, hl]; rfl, fun hp he => hback hp (hl.trans he)⟩
  · rw [hf] at hstop; cases hstop
  · refine ⟨?_, fun h => ?_⟩
    · rw [hretry, retryLaw, hp, decide_eq_false hk]
      simp
    · rw [hp] at h; cases h

/-! ## The converse: a panel that is silent -/

/-- So far `n` transport errors. -/
def Errors (n : Nat) (s : Ts) : Prop := s.transportErrors = n

theorem errorsRule (n : Nat) : IoRule (Errors n) where
  io _ _ h := h

theorem waitPending_silent (n : Nat) : Fails (Errors n) (waitPending silentWorld) := by
  refine Fails.of_error fun s hs => ⟨{ s with io.clk := s.io.clk + 3 }, Errno.ETIMEDOUT, ?_, hs⟩
  simp [waitPending, pollPending, pending, newEdges, ask, getsIo, silentWorld, Proc.bind_apply,
    Proc.pure_apply]

theorem powerCycle_silent (c : Config) (n : Nat) : Fails (Errors n)
    (powerCycle c silentWorld .HARDWARE) :=
  Fails.bind ((errorsRule n).modifyIo _) fun _ => Fails.bind (errorsRule n).powerOff fun _ =>
    Fails.bind (errorsRule n).panelPowerOn fun _ => Fails.bind ((errorsRule n).setStage _) fun _ =>
      Fails.first (waitPending_silent n)

/-- The command is written, and nothing answers. -/
theorem enumerate_silent (c : Config) (n : Nat) : Fails (Errors n) (enumerate c silentWorld) := by
  refine Fails.bind ((errorsRule n).setStage _) fun _ => ?_
  refine Fails.bind_of (R := fun ret => ret = none) (fun s hs => ⟨rfl, hs⟩) fun ret hret => ?_
  subst hret
  exact Fails.bind (Keeps.pure ()) fun _ => Fails.first (Fails.first (waitPending_silent n))

theorem fullReinitializeLocked_silent (c : Config) (path : RecoveryPath) (n : Nat) :
    Fails (Errors n) (fullReinitializeLocked c silentWorld path) := by
  refine Fails.onError (Fails.bind (Keeps.modify fun _ h => h) fun _ => ?_) fun _ h => h
  cases path with
  | HARDWARE => exact Fails.first (powerCycle_silent c n)
  | SOFTWARE =>
    have hp : Keeps (Errors n) (powerCycle c silentWorld .SOFTWARE) :=
      Keeps.bind ((errorsRule n).modifyIo _) fun _ => (errorsRule n).setStage _
    exact Fails.bind hp fun _ => Fails.first (enumerate_silent c n)

/-- An attempt fails there without a transport error. -/
theorem recoverySection_silent (c : Config) {s : Ts} (hs : s.stopping = false) :
    ∃ t retry, recoverySection c silentWorld s = (t, .failure retry) ∧ erred s t = false := by
  obtain ⟨u, e, hu, he⟩ := (fullReinitializeLocked_silent c s.recoveryPath
    s.transportErrors).exists_error
    (s := beginAttempt s) rfl
  have ht : (attemptFailed s.recoveryPath u).1.transportErrors = s.transportErrors := by
    rw [← he]
    unfold attemptFailed
    simp only
    split <;> rfl
  refine ⟨(attemptFailed s.recoveryPath u).1, (attemptFailed s.recoveryPath u).2, ?_, ?_⟩
  · simp [recoverySection, attempt, hs, hu]
  · exact decide_eq_false (by rw [ht]; exact Nat.lt_irrefl _)

theorem fresh_of_lawful {c : Config} {s : Ts} (h : Lawful c silentWorld s) : Fresh s := by
  by_cases hstop : s.stopping = true
  · exact Or.inr (Or.inl hstop)
  obtain ⟨t, retry, ht, he⟩ := recoverySection_silent c (by simpa using hstop)
  obtain ⟨-, u, hu, ha⟩ := recoverySection_failed ht
  obtain ⟨hlatch, -, -, -, hretry, -⟩ := attemptFailed_eq hu ha
  obtain ⟨hlaw, -⟩ := h t retry ht
  cases hf : s.fatalTransportError with
  | false => exact Or.inl hf
  | true =>
    -- The code does not retry here, so the law must not either.
    have hr : retry = false := by rw [hretry, hlatch, hf]; simp
    rw [hr, he] at hlaw
    refine Or.inr (Or.inr ?_)
    cases hp : s.recoveryPath with
    | SOFTWARE => simp [retryLaw, hp] at hlaw
    | HARDWARE => exact ⟨rfl, by simpa [retryLaw, hp] using hlaw⟩

theorem fresh_iff (c : Config) (s : Ts) : (∀ w, Lawful c w s) ↔ Fresh s :=
  ⟨fun h => fresh_of_lawful (h silentWorld), fun h w => lawful_of_fresh c w h⟩

/-! ## The law along a run -/

/-- `P` holds of every attempt the worker begins. -/
def AtWork (P : World → Ts → Prop) (s : Threads) : Label → Prop
  | .work w => P w (dequeued s.ts)
  | _ => True

theorem AtWork.imp {P Q : World → Ts → Prop} (h : ∀ w s, P w s → Q w s) (s : Threads) :
    ∀ l, AtWork P s l → AtWork Q s l
  | .work w, hp => h w _ hp
  | .irqEnter, _ => trivial
  | .irq _, _ => trivial
  | .leave, _ => trivial

/-- In every run whose attempts begin `Fresh` every attempt obeys the law, and
no weaker condition on the state gives that in every world. -/
theorem retry_law (c : Config) {s0 s : Threads} {ls : List Label}
    (h : (driver c).RunMeets (AtWork fun _ => Fresh) s0 ls s) :
    (driver c).RunMeets (AtWork (Lawful c)) s0 ls s ∧ ∀ u, (∀ w, Lawful c w u) ↔ Fresh u :=
  ⟨h.imp (AtWork.imp fun w _ hs => lawful_of_fresh c w hs), fresh_iff c⟩

def brokenBus : World := { panel [] 0 with read := fun _ => (fun _ => 0, some Errno.EIO) }

/-- A start-up, and a read that fails on the bus. -/
def glitch : List Label := [boot, .leave, .irqEnter, .irq brokenBus]

/-- Host faults are recovered too, which clears the latch. -/
def recoveringConfig : Config :=
  ⟨{ resetRecoveryV2 := true, hostFaultRecovery := true, modeConfigFix := false }, rfl, true, 4⟩

/-- The glitch is recovered, the panel resets, and then nothing answers. -/
def recoveredGlitch : List Label := glitch ++
  [.work (panel (resetResponse :: startup) 52), .leave, .irqEnter, .irq (panel [resetResponse] 99),
    .work silentWorld, .leave, .work silentWorld, .leave]

instance (s : Threads) : ∀ l, Decidable (AtWork (fun _ => Fresh) s l)
  | .work _ => inferInstanceAs (Decidable (_ ∨ _ ∨ _))
  | .irqEnter => isTrue trivial
  | .irq _ => isTrue trivial
  | .leave => isTrue trivial

/-- A failed software attempt after a read error, a recovery and a reset falls back, and the hardware
attempt that fails then is retried. -/
theorem retry_law_recovered_glitch : ∃ t,
    (driver recoveringConfig).RunMeets (AtWork (Lawful recoveringConfig)) probed recoveredGlitch t ∧
      t.ts.transportErrors = 1 ∧ t.ts.stats.resetNotifications = 1 ∧
      t.ts.stats.recoverySuccesses = 2 ∧
      t.ts.stats.recoveryFailures = 2 ∧ t.ts.stats.softwareRecoveryFallbacks = 1 ∧
        t.ts.workPending = true := by
  have hrun : (LTS.exec (threadStep recoveringConfig) (AtWork fun _ => Fresh) probed
    recoveredGlitch).any (fun t =>
      decide (t.ts.transportErrors = 1 ∧ t.ts.stats.resetNotifications = 1 ∧
        t.ts.stats.recoverySuccesses = 2 ∧
        t.ts.stats.recoveryFailures = 2 ∧ t.ts.stats.softwareRecoveryFallbacks = 1 ∧
          t.ts.workPending = true)) = true := by
    decide +kernel
  obtain ⟨t, ht, hp⟩ := (Option.any_eq_true _ _).mp hrun
  exact ⟨t, (retry_law recoveringConfig (LTS.runMeets_of_exec ht)).1, of_decide_eq_true hp⟩

/-- The panel resets. -/
def reset : List Label := [.irqEnter, .irq (panel [resetResponse] 51)]

/-- It recovers in software, and resets again. -/
def secondReset : List Label := [.work (panel startup 59), .leave, .irqEnter,
    .irq (panel [resetResponse] 99)]

/-- **Counterexample**: the glitch is older than the last successful
initialization, and still the next failed attempt is not retried. -/
theorem stale_latch_drops_retry :
    ∃ s1 s, (driver softwareConfig).Run probed glitch s1 ∧ s1.ts.transportErrors = 1 ∧
      (driver softwareConfig).Run s1 (reset ++ secondReset) s ∧ s.ts.transportErrors = 1 ∧
      s.ts.stats.recoverySuccesses = s1.ts.stats.recoverySuccesses + 1 ∧
      ¬ Lawful softwareConfig silentWorld (dequeued s.ts) := by
  have hrun : ((LTS.exec (threadStep softwareConfig) (fun _ _ => True) probed glitch).bind fun s1 =>
      (LTS.exec (threadStep softwareConfig) (fun _ _ => True) s1 (reset ++ secondReset)).map
        fun s => (s1, s)).any
      (fun r => decide (r.1.ts.transportErrors = 1 ∧ r.2.ts.transportErrors = 1 ∧
        r.2.ts.stats.recoverySuccesses = r.1.ts.stats.recoverySuccesses + 1 ∧
        r.2.ts.fatalTransportError = true ∧ r.2.ts.recoveryPath = .SOFTWARE ∧
          r.2.ts.stopping = false)) = true := by
    decide +kernel
  obtain ⟨⟨s1, s⟩, hs, hp⟩ := (Option.any_eq_true _ _).mp hrun
  obtain ⟨u, hu, hs⟩ := Option.bind_eq_some_iff.mp hs
  obtain ⟨v, hv, hs⟩ := Option.map_eq_some_iff.mp hs
  obtain ⟨rfl, rfl⟩ := Prod.mk.inj hs
  obtain ⟨h1, h2, h3, hf, hpath, hstop⟩ := of_decide_eq_true hp
  refine ⟨u, v, LTS.run_of_exec hu, h1, LTS.run_of_exec hv, h2, h3, fun hlaw => ?_⟩
  rcases fresh_of_lawful hlaw with h | h | h
  · exact Bool.noConfusion (hf.symm.trans h)
  · exact Bool.noConfusion (hstop.symm.trans h)
  · exact RecoveryPath.noConfusion (hpath.symm.trans h.1)

/-! ## The bound on retries -/

/-- One run of the worker that fails and reschedules itself. -/
def retryRun (c : Config) (s : Ts) (w : World) : Option Ts :=
  match recoveryWork c w s with
  | (t, .failure _) => if t.workPending then some t else none
  | (_, _) => none

/-- The worker alone, as long as it fails and reschedules itself. -/
def retries (c : Config) : LTS Ts World := .ofFun (fun _ => True) (retryRun c)

theorem recoveryWork_failed {c : Config} {w : World} {s t : Ts} {retry : Bool}
    (h : recoveryWork c w s = (t, .failure retry)) :
    s.stopping = false ∧ t.stopping = false ∧ t.workPending = retry ∧
    t.fatalTransportError = (s.fatalTransportError || erred s t) ∧
    t.recoveryFailStreak = s.recoveryFailStreak + 1 ∧
    retry = (!t.fatalTransportError && (decide (s.recoveryPath = .SOFTWARE) ||
      decide (s.recoveryFailStreak + 1 < recoveryLimit))) ∧
    (s.recoveryPath = .SOFTWARE → t.fatalTransportError = false → t.recoveryPath = .HARDWARE) := by
  obtain ⟨ht, hr⟩ := Prod.mk.inj h
  have hsec : recoverySection c w (dequeued s) =
    ((recoverySection c w (dequeued s)).1, .failure retry) := by
    rw [← hr]
  generalize (recoverySection c w (dequeued s)).1 = v at ht hsec
  obtain ⟨hstop, u, hu, ha⟩ := recoverySection_failed hsec
  obtain ⟨hlatch, hk, hvstop, hpend, hretry, hback⟩ := attemptFailed_eq hu ha
  have hvs : v.stopping = false := hvstop.trans hstop
  rw [hsec] at ht
  cases retry with
  | false =>
    subst ht
    exact ⟨hstop, hvs, hpend, hlatch, hk, hretry, hback⟩
  | true =>
    have hv : t = { v with workPending := true } := by
      rw [← ht]
      simp [reschedule, Outcome.retry, scheduleRecovery, hvs]
    subst hv
    exact ⟨hstop, hvs, rfl, hlatch, hk, hretry, hback⟩

/-- What a retried run does. -/
theorem retryRun_some {c : Config} {w : World} {s t : Ts} (h : retryRun c s w = some t) :
    t.fatalTransportError = false ∧ t.recoveryFailStreak = s.recoveryFailStreak + 1 ∧
    (s.recoveryPath = .SOFTWARE ∧ t.recoveryPath = .HARDWARE ∨
      s.recoveryPath = .HARDWARE ∧ s.recoveryFailStreak + 1 < recoveryLimit) := by
  unfold retryRun at h
  split at h
  · next u retry hu =>
    split at h
    · next hpend =>
      cases h
      obtain ⟨-, -, hp, -, hk, hretry, hback⟩ := recoveryWork_failed hu
      rw [← hp, hpend] at hretry
      have hf : t.fatalTransportError = false := by
        cases hf : t.fatalTransportError with
        | false => rfl
        | true => simp [hf] at hretry
      refine ⟨hf, hk, ?_⟩
      cases hpath : s.recoveryPath with
      | SOFTWARE => exact Or.inl ⟨rfl, hback hpath hf⟩
      | HARDWARE => exact Or.inr ⟨rfl, by simpa [hf, hpath] using hretry⟩
    · cases h
  · cases h

/-- At most this many runs from the hardware path reschedule themselves: the
first one only below the limit. -/
def hardwareBudget (streak : UInt8) : Nat :=
  if streak + 1 < recoveryLimit then 4 - (streak + 1).toNat else 0

/-- A software failure leads to hardware. -/
def retryBudget : RecoveryPath → UInt8 → Nat
  | .HARDWARE, streak => hardwareBudget streak
  | .SOFTWARE, streak => hardwareBudget (streak + 1) + 1

theorem lt_recoveryLimit (k : UInt8) : k < recoveryLimit ↔ k.toNat < 3 := UInt8.lt_iff_toNat_lt

theorem streak_succ (k : UInt8) : (k + 1).toNat = (k.toNat + 1) % 256 := UInt8.toNat_add k 1

theorem hardwareBudget_eq (k : UInt8) :
    hardwareBudget k = if (k.toNat + 1) % 256 < 3 then 4 - (k.toNat + 1) % 256 else 0 := by
  simp only [hardwareBudget, lt_recoveryLimit, streak_succ]

/-- After a hardware failure below the limit either path has a smaller budget. -/
theorem retryBudget_lt (path : RecoveryPath) {k : UInt8} (hk : k + 1 < recoveryLimit) :
    retryBudget path (k + 1) < hardwareBudget k := by
  have hlt : (k.toNat + 1) % 256 < 3 := by rwa [lt_recoveryLimit, streak_succ] at hk
  cases path with
  | HARDWARE =>
    simp only [retryBudget, hardwareBudget_eq, streak_succ]
    split <;> omega
  | SOFTWARE =>
    simp only [retryBudget, hardwareBudget_eq, streak_succ]
    split <;> omega

theorem hardwareBudget_le (k : UInt8) : hardwareBudget k ≤ 4 := by
  rw [hardwareBudget_eq]; split <;> omega

theorem retryBudget_le (path : RecoveryPath) (k : UInt8) : retryBudget path k ≤ 5 := by
  cases path with
  | HARDWARE => exact Nat.le_succ_of_le (hardwareBudget_le k)
  | SOFTWARE => exact Nat.succ_le_succ (hardwareBudget_le (k + 1))

theorem retryBudget_zero (path : RecoveryPath) : retryBudget path 0 = 3 := by
  cases path <;> rfl

theorem retryBudget_step {c : Config} (s : Ts) (w : World) (t : Ts) (h : (retries c).step s w t) :
    retryBudget t.recoveryPath t.recoveryFailStreak < retryBudget s.recoveryPath
    s.recoveryFailStreak := by
  obtain ⟨-, hk, hpath⟩ := retryRun_some h
  rw [hk]
  rcases hpath with ⟨hs, ht⟩ | ⟨hs, hlt⟩
  · rw [hs, ht]
    exact Nat.lt_succ_self _
  · rw [hs]
    exact retryBudget_lt _ hlt

theorem retries_length_le {c : Config} {s t : Ts} {ws : List World} (h : (retries c).Run s ws t) :
    ws.length ≤ retryBudget s.recoveryPath s.recoveryFailStreak :=
  Nat.le_trans (Nat.le_add_right _ _) (h.length_le retryBudget_step)

/-- After a retried run the latch is clear. -/
theorem retries_latch {c : Config} {s t : Ts} {ws : List World} (h : (retries c).Run s ws t)
    (hne : ws ≠ []) : t.fatalTransportError = false := by
  induction h with
  | nil => exact absurd rfl hne
  | @cons s u t w ws hst hrun ih =>
    cases ws with
    | nil => cases hrun; exact (retryRun_some hst).1
    | cons _ _ => exact ih (List.cons_ne_nil _ _)

/-- While every run fails and only the worker reschedules itself: at most six
runs, four from streak zero, and after a failed software attempt without a
transport error the next run is a hardware attempt. A run that is not
rescheduled comes after the rescheduled ones. -/
structure BoundedRetry (c : Config) (s : Ts) : Prop where
  runs : ∀ ws t, (retries c).Run s ws t → ws.length + 1 ≤ 6
  fromZero : s.recoveryFailStreak = 0 → ∀ ws t, (retries c).Run s ws t → ws.length + 1 ≤ 4
  hardware : ∀ ws u w t retry, (retries c).Run s ws u → recoveryWork c w u = (t, .failure retry) →
    u.recoveryPath = .SOFTWARE → erred u t = false → t.workPending = true ∧
    t.recoveryPath = .HARDWARE

/-- A software attempt would begin with the latch set. -/
def StaleSoftware (s : Ts) : Prop :=
  s.fatalTransportError = true ∧ s.recoveryPath = .SOFTWARE ∧ s.stopping = false

theorem bounded_of_not_stale {c : Config} {s : Ts} (hs : ¬ StaleSoftware s) : BoundedRetry c s where
  runs _ _ h := Nat.succ_le_succ (Nat.le_trans (retries_length_le h) (retryBudget_le _ _))
  fromZero hz _ _ h := by
    have hle := retries_length_le h
    rw [hz, retryBudget_zero] at hle
    exact Nat.succ_le_succ hle
  hardware ws u w t retry hrun hw hpath he := by
    obtain ⟨hstop, -, hpend, hlatch, -, hretry, hback⟩ := recoveryWork_failed hw
    have hu : u.fatalTransportError = false := by
      cases ws with
      | nil =>
        cases hrun
        cases hf : s.fatalTransportError with
        | false => rfl
        | true => exact absurd ⟨hf, hpath, hstop⟩ hs
      | cons w' ws' => exact retries_latch hrun (List.cons_ne_nil _ _)
    have ht : t.fatalTransportError = false := by rw [hlatch, hu, he]; rfl
    refine ⟨?_, hback hpath ht⟩
    rw [hpend, hretry]
    simp [ht, hpath]

theorem not_bounded_of_stale {c : Config} {s : Ts} (hs : StaleSoftware s) : ¬ BoundedRetry c s := by
  obtain ⟨hf, hpath, hstop⟩ := hs
  intro h
  obtain ⟨v, retry, hv, he⟩ := recoverySection_silent c (s := dequeued s) hstop
  have hw : recoveryWork c silentWorld s = (reschedule retry v, .failure retry) := by
    rw [recoveryWork, hv]; rfl
  obtain ⟨-, -, hpend, hlatch, -, hretry, -⟩ := recoveryWork_failed hw
  have he' : erred s (reschedule retry v) = false := by
    rw [← he]
    unfold reschedule scheduleRecovery
    split
    · split <;> rfl
    · rfl
  obtain ⟨hp, -⟩ := h.hardware [] s silentWorld _ retry (.nil _) hw hpath he'
  -- The latch is still set, so nothing is pending.
  rw [hpend, hretry, hlatch, hf] at hp
  cases hp

theorem retry_bound_iff (c : Config) (s : Ts) : BoundedRetry c s ↔ ¬ StaleSoftware s :=
  ⟨fun h hs => not_bounded_of_stale hs h, bounded_of_not_stale⟩

/-- **Counterexample**: after a glitch and a reset the software attempt fails
without a transport error, and no hardware attempt follows. -/
theorem software_failure_without_fallback :
    ∃ s, (driver softwareConfig).Run probed (glitch ++ reset) s ∧ s.ts.workPending = true ∧
      ¬ BoundedRetry softwareConfig s.ts := by
  have hrun : (LTS.exec (threadStep softwareConfig) (fun _ _ => True) probed (glitch ++ reset)).any
    (fun s =>
      decide (s.ts.workPending = true ∧ s.ts.fatalTransportError = true ∧
        s.ts.recoveryPath = .SOFTWARE ∧
        s.ts.stopping = false)) = true := by
    decide +kernel
  obtain ⟨s, hs, hp⟩ := (Option.any_eq_true _ _).mp hrun
  obtain ⟨hpend, hstale⟩ := of_decide_eq_true hp
  exact ⟨s, LTS.run_of_exec hs, hpend, not_bounded_of_stale hstale⟩

end Sp11Touch.Driver
