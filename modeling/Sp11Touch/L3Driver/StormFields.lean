import Sp11Touch.L3Driver.Threads
/-!
# One section and the storm breaker

The breaker works on four fields: the streak, the time of the last
notification, the path of the next attempt and the count of notifications. A
section of the IRQ thread or of the worker notes at most one panel reset, and
it notes it last. `IrqStorm` and `WorkStorm` say what a section has done to
these fields, in terms of the one event in it.

**Results.**
* `irqSection_storm`: no event, a notification or a host fault, by the rule
  for the drain.
* `recoverySection_storm`: no attempt, a success, or a failure with or without
  a notification.
* `notePanelReset_noted`: the fields after a notification.
-/
namespace Sp11Touch.Driver
open Proc

/-- The host faults counted so far. -/
def hostFaults (s : Ts) : Nat := s.stats.irqTransportErrors + s.stats.irqProtocolErrors

/-- The interval lies in the window of the breaker. -/
def Rapid (c : Config) (now : Nat) (s : Ts) : Prop :=
  resetInterval c now s ≠ 0 ∧ resetInterval c now s ≤ resetStormWindowMs

instance (c : Config) (now : Nat) (s : Ts) : Decidable (Rapid c now s) :=
  inferInstanceAs (Decidable (_ ∧ _))

/-- The events that the fields depend on have not happened since `s0`. -/
structure StormFrame (s0 t : Ts) : Prop where
  streak : t.rapidResetStreak = s0.rapidResetStreak
  last : t.lastResetJiffies = s0.lastResetJiffies
  path : t.recoveryPath = s0.recoveryPath
  notifications : t.stats.resetNotifications = s0.stats.resetNotifications
  faults : hostFaults t = hostFaults s0
  successes : t.stats.recoverySuccesses = s0.stats.recoverySuccesses
  stopping : t.stopping = s0.stopping

theorem StormFrame.refl (s : Ts) : StormFrame s s := ⟨rfl, rfl, rfl, rfl, rfl, rfl, rfl⟩

/-- The input code counts Heat frames only. -/
theorem handleDataReport_storm (c : Config) (s : Ts) : StormFrame s (handleDataReport c s) := by
  unfold handleDataReport
  split
  · exact .refl s
  split
  · exact .refl s
  split
  · exact ⟨rfl, rfl, rfl, rfl, rfl, rfl, rfl⟩
  split
  · unfold handleHeat
    split
    · unfold acceptedHeat
      simp only
      split <;> exact ⟨rfl, rfl, rfl, rfl, rfl, rfl, rfl⟩
    · unfold malformedHeat
      simp only
      split <;> exact ⟨rfl, rfl, rfl, rfl, rfl, rfl, rfl⟩
  · exact .refl s

theorem StormFrame.trans {s t u : Ts} (h : StormFrame s t) (h' : StormFrame t u) : StormFrame s u :=
  ⟨h'.streak.trans h.streak, h'.last.trans h.last, h'.path.trans h.path,
    h'.notifications.trans h.notifications, h'.faults.trans h.faults,
    h'.successes.trans h.successes,
    h'.stopping.trans h.stopping⟩

theorem stormFrame_rule (c : Config) (s0 : Ts) : ReadRule c (StormFrame s0) where
  io _ _ h := ⟨h.streak, h.last, h.path, h.notifications, h.faults, h.successes, h.stopping⟩
  latch _ h := ⟨h.streak, h.last, h.path, h.notifications, h.faults, h.successes, h.stopping⟩
  data s h _ := h.trans (handleDataReport_storm c s)

/-! ## A notification -/

/-- A panel reset was noted at time `now`, and nothing else. -/
structure Noted (c : Config) (now : Nat) (s0 t : Ts) : Prop where
  streak : t.rapidResetStreak = if Rapid c now s0 then s0.rapidResetStreak + 1 else 1
  last : t.lastResetJiffies = now
  path : t.rapidResetStreak ≥ resetStormLimit → t.recoveryPath = .HARDWARE
  notifications : t.stats.resetNotifications = s0.stats.resetNotifications + 1
  faults : hostFaults t = hostFaults s0
  successes : t.stats.recoverySuccesses = s0.stats.recoverySuccesses

theorem resetInterval_frame (c : Config) (now : Nat) {s0 t : Ts} (h : StormFrame s0 t) :
    resetInterval c now t = resetInterval c now s0 := by
  unfold resetInterval
  rw [h.last]

theorem notePanelReset_noted {c : Config} (hb : c.p.resetStormBreaker = true) (w : World)
    (schedule : Bool)
    {s0 t : Ts} (h : StormFrame s0 t) :
    Noted c (w.jiffies t.io.clk) s0 (notePanelReset c w schedule t) := by
  have hi := resetInterval_frame c (w.jiffies t.io.clk) h
  have hcore : Noted c (w.jiffies t.io.clk) s0
      (stormBreaker c (resetInterval c (w.jiffies t.io.clk) t)
      (closeForReset c (w.jiffies t.io.clk) t)) := by
    unfold stormBreaker
    rw [if_pos hb, hi]
    simp only
    by_cases hlim : (if resetInterval c (w.jiffies t.io.clk) s0 ≠ 0 ∧
      resetInterval c (w.jiffies t.io.clk) s0 ≤ resetStormWindowMs
      then (closeForReset c (w.jiffies t.io.clk) t).rapidResetStreak + 1 else 1) ≥ resetStormLimit
    · rw [if_pos hlim]
      refine ⟨?_, rfl, fun _ => rfl, congrArg (· + 1) h.notifications, h.faults, h.successes⟩
      rw [← h.streak]
      rfl
    · rw [if_neg hlim]
      refine ⟨?_, rfl, fun hge => absurd hge hlim, congrArg (· + 1) h.notifications,
        h.faults, h.successes⟩
      rw [← h.streak]
      rfl
  cases schedule with
  | false => exact ⟨hcore.streak, hcore.last, hcore.path, hcore.notifications, hcore.faults, hcore.successes⟩
  | true =>
    rw [notePanelReset_true, scheduleRecovery_eq]
    exact ⟨hcore.streak, hcore.last, hcore.path, hcore.notifications, hcore.faults, hcore.successes⟩

/-! ## The IRQ thread -/

/-- A host fault: it clears the streak and takes the hardware path, if at all. -/
structure Faulted (s0 t : Ts) : Prop where
  path : t.recoveryPath = s0.recoveryPath ∨ t.recoveryPath = .HARDWARE
  last : t.lastResetJiffies = s0.lastResetJiffies
  notifications : t.stats.resetNotifications = s0.stats.resetNotifications
  faults : hostFaults s0 < hostFaults t

theorem countFault_faults (e : Errno) (s : Ts) :
    hostFaults (countFault e s) = hostFaults s + 1 := by
  unfold countFault hostFaults
  simp only
  split
  · exact (Nat.add_assoc _ _ _).symm
  · exact Nat.add_right_comm _ _ _

theorem countFault_storm (e : Errno) (s : Ts) :
    (countFault e s).recoveryPath = s.recoveryPath ∧
    (countFault e s).lastResetJiffies = s.lastResetJiffies ∧
      (countFault e s).stats.resetNotifications = s.stats.resetNotifications := by
  unfold countFault
  simp only
  split <;> exact ⟨rfl, rfl, rfl⟩

theorem noteHostFault_faulted (c : Config) (e : Errno) {s0 t : Ts} (h : StormFrame s0 t) :
    Faulted s0 (noteHostFault c e t) := by
  obtain ⟨hpath, hlast, hnotes⟩ := countFault_storm e t
  have hfaults : hostFaults s0 < hostFaults (countFault e t) := by
    rw [countFault_faults, h.faults]
    exact Nat.lt_succ_self _
  unfold noteHostFault
  simp only
  split
  · rw [scheduleRecovery_eq]
    exact ⟨Or.inr rfl, hlast.trans h.last, hnotes.trans h.notifications, hfaults⟩
  · exact ⟨Or.inl (hpath.trans h.path), hlast.trans h.last, hnotes.trans h.notifications, hfaults⟩

/-- The section of the IRQ thread. -/
inductive IrqStorm (c : Config) (s0 t : Ts) : Prop
  | quiet (h : StormFrame s0 t)
  | noted (now : Nat) (h : Noted c now s0 t)
  | faulted (h : Faulted s0 t)

theorem storm_drainRule {c : Config} (hb : c.p.resetStormBreaker = true) (w : World) (s0 : Ts) :
    DrainRule c w (StormFrame s0) (fun _ => StormFrame s0) (fun _ => IrqStorm c s0) where
  unread := Triple.conseq (stormFrame_rule c s0).hasUnreadResponse (fun _ h => h)
    (fun _ _ h => ⟨fun _ => h, fun _ => .quiet h⟩) fun _ _ h => .quiet h
  read := (stormFrame_rule c s0).dmaReadResponse
  again _ h := .quiet h
  fault e _ _ h := .faulted (noteHostFault_faulted c e h)
  reset _ h := .noted _ (notePanelReset_noted hb w true h)
  single _ _ h := .quiet ⟨h.streak, h.last, h.path, h.notifications, h.faults,
    h.successes, h.stopping⟩

theorem irqSection_storm {c : Config} (hb : c.p.resetStormBreaker = true) (w : World) (s : Ts) :
    IrqStorm c s (irqSection c w s).1 := by
  rcases (storm_drainRule hb w s).irqSection (StormFrame.refl s) with ⟨_, hexit, _⟩ | ⟨_, t, h, heq⟩
  · exact hexit
  · rw [heq]
    apply IrqStorm.faulted
    exact noteHostFault_faulted c _ ⟨h.streak, h.last, h.path, h.notifications, h.faults,
      h.successes, h.stopping⟩

/-! ## The worker -/

/-- Neither a notification nor a fault nor a success; a failure may choose the hardware path. -/
structure Unnoted (s0 t : Ts) : Prop where
  streak : t.rapidResetStreak = s0.rapidResetStreak
  last : t.lastResetJiffies = s0.lastResetJiffies
  path : t.recoveryPath = s0.recoveryPath ∨ t.recoveryPath = .HARDWARE
  notifications : t.stats.resetNotifications = s0.stats.resetNotifications
  faults : hostFaults t = hostFaults s0
  successes : t.stats.recoverySuccesses = s0.stats.recoverySuccesses

theorem StormFrame.unnoted {s t : Ts} (h : StormFrame s t) : Unnoted s t :=
  ⟨h.streak, h.last, Or.inl h.path, h.notifications, h.faults, h.successes⟩

theorem Unnoted.refl (s : Ts) : Unnoted s s := (StormFrame.refl s).unnoted

/-- Initialization succeeded: on the hardware path it clears the streak. -/
structure Recovered (s0 t : Ts) : Prop where
  streak : t.rapidResetStreak = if s0.recoveryPath = .HARDWARE then 0 else s0.rapidResetStreak
  last : t.lastResetJiffies = s0.lastResetJiffies
  path : t.recoveryPath = .HARDWARE
  notifications : t.stats.resetNotifications = s0.stats.resetNotifications
  faults : hostFaults t = hostFaults s0
  successes : t.stats.recoverySuccesses = s0.stats.recoverySuccesses + 1

/-- The section of the worker. -/
inductive WorkStorm (c : Config) (s0 t : Ts) : Prop
  | unnoted (h : Unnoted s0 t)
  | recovered (h : Recovered s0 t)
  | noted (now : Nat) (h : Noted c now s0 t)

/-- An error of initialization, with or without a notification. -/
def ErrorStorm (c : Config) (s0 t : Ts) : Prop := StormFrame s0 t ∨ ∃ now, Noted c now s0 t

theorem storm_exitRule {c : Config} (hb : c.p.resetStormBreaker = true) (w : World) (s0 : Ts) :
    ExitRule c w (StormFrame s0) (ErrorStorm c s0) (StormFrame s0) where
  toReadRule := stormFrame_rule c s0
  reset _ h := Or.inr ⟨_, notePanelReset_noted hb w false h⟩
  fail _ h := Or.inl h
  close _ h := ⟨h.streak, h.last, h.path, h.notifications, h.faults, h.successes, h.stopping⟩
  closeFailed _ h := by
    rcases h with h | ⟨now, h⟩
    · exact Or.inl ⟨h.streak, h.last, h.path, h.notifications, h.faults, h.successes, h.stopping⟩
    · exact Or.inr ⟨now, h.streak, h.last, h.path, h.notifications, h.faults, h.successes⟩
  paused _ h := h
  opened _ h := ⟨h.streak, h.last, h.path, h.notifications, h.faults, h.successes, h.stopping⟩

theorem attemptFailed_storm {c : Config} (path : RecoveryPath) {s0 t : Ts} (h : ErrorStorm c s0 t) :
    WorkStorm c s0 (attemptFailed path t).1 := by
  unfold attemptFailed
  simp only
  rcases h with h | ⟨now, h⟩
  · apply WorkStorm.unnoted
    split
    · exact ⟨h.streak, h.last, Or.inr rfl, h.notifications, h.faults, h.successes⟩
    · exact ⟨h.streak, h.last, Or.inl h.path, h.notifications, h.faults, h.successes⟩
  · apply WorkStorm.noted now
    split
    · exact ⟨h.streak, h.last, fun _ => rfl, h.notifications, h.faults, h.successes⟩
    · exact ⟨h.streak, h.last, h.path, h.notifications, h.faults, h.successes⟩

theorem attemptSucceeded_storm {s0 t : Ts} (h : StormFrame s0 t) :
    Recovered s0 (attemptSucceeded s0.recoveryPath t) where
  streak := by
    simp only [attemptSucceeded]
    rw [h.streak]
  last := h.last
  path := rfl
  notifications := h.notifications
  faults := h.faults
  successes := congrArg (· + 1) h.successes

theorem recoverySection_storm {c : Config} (hb : c.p.resetStormBreaker = true) (w : World)
    (s : Ts) :
    WorkStorm c s (recoverySection c w s).1 := by
  have hf := (storm_exitRule hb w s).fullReinitializeLocked s.recoveryPath (beginAttempt s)
    ⟨rfl, rfl, rfl, rfl, rfl, rfl, rfl⟩
  unfold recoverySection attempt
  split
  · exact .unnoted (.refl s)
  · revert hf
    cases fullReinitializeLocked c w s.recoveryPath (beginAttempt s) with
    | mk t r => cases r with
      | ok _ => exact fun ht => .recovered (attemptSucceeded_storm ht)
      | error _ => exact fun ht => attemptFailed_storm _ ht.1

end Sp11Touch.Driver
