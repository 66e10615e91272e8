import Sp11Touch.L3Driver.DataReport
import Sp11Touch.L3Driver.Threads
/-!
# The log of the input gate

Input is closed (`mode_enabled` clear), waiting for the first valid Heat
frame (`awaiting_ready_heat` set as well) or open. The gate is spread over
the read routine, two event paths and every exit of initialization; the log
shows what came through it and how it stood at each point.

**Results.**
* `waiting`: the state of the gate that the log alone gives. `GateLog` says of
  every entry what the gate asks there, by its past.
* `gate_inductive`: IRQ thread and worker keep `Gate`, the log's law with the
  flags in agreement with it.
* `GateLog.logGate`: `LogGate`, the same law in terms of openings and accepted
  frames.
-/
namespace Sp11Touch

/-- The input events that come from a DATA response. -/
def Event.fromData : Event → Bool
  | .touch _ _ _ => true
  | .contacts _ => true
  | _ => false

theorem Event.fromData_of_ofData {event : Event} (h : event.ofData = false) :
    event.fromData = false := by
  cases event with
  | touch => cases h
  | contacts => cases h
  | _ => rfl

/-- Input is closed and no track is left. -/
def Entry.Shut (e : Entry) : Prop :=
  e.modeEnabled = false ∧ e.awaitingReadyHeat = false ∧ e.tracks = zeroTracks

namespace Driver
open Proc

/-! ## The law of the log -/

/-- Input was last opened to wait, and no Heat frame was accepted since. The
newest entry comes first. -/
def waiting : List Entry → Bool
  | [] => false
  | e :: past => match e.event with
    | .opened => e.awaitingReadyHeat
    | .accepted => false
    | _ => waiting past

theorem waiting_cons (e : Entry) (past : List Entry) :
    waiting (e :: past) = match e.event with
      | .opened => e.awaitingReadyHeat
      | .accepted => false
      | _ => waiting past := rfl

/-- What the gate asks of an entry after `past`. -/
def GateEntry (c : Config) (e : Entry) (past : List Entry) : Prop :=
  match e.event with
  | .touch _ _ _ => e.modeEnabled = true ∧ waiting past = false
  | .contacts _ => e.modeEnabled = true ∧ waiting past = false
  | .malformed => e.tracks = zeroTracks ∧ (waiting past = true → e.awaitingReadyHeat = true)
  | .opened => e.awaitingReadyHeat = c.awaits
  | .panelReset => e.Shut
  | .hostFault => e.Shut
  | .attemptFailed => e.Shut
  | _ => True

def GateLog (c : Config) : List Entry → Prop
  | [] => True
  | e :: past => GateEntry c e past ∧ GateLog c past

/-- The log obeys the gate, and an open gate that still waits has its flag. -/
structure Gate (c : Config) (s : Ts) : Prop where
  log : GateLog c s.log
  flag : s.modeEnabled = true → waiting s.log = true → s.awaitingReadyHeat = true

/-- The gate during initialization. -/
structure GateClosed (c : Config) (s : Ts) : Prop where
  log : GateLog c s.log
  modeEnabled : s.modeEnabled = false
  awaitingReadyHeat : s.awaitingReadyHeat = false
  tracks : s.heat.tracks = zeroTracks

theorem GateClosed.gate {c : Config} {s : Ts} (h : GateClosed c s) : Gate c s :=
  ⟨h.log, fun hm => absurd (h.modeEnabled.symm.trans hm) Bool.false_ne_true⟩

/-! ## A DATA response -/

/-- While the first Heat frame is awaited nothing but Heat gets past. -/
theorem Handled.gate {c : Config} {s t : Ts} (ht : Handled c s t) (h : Gate c s)
    (hm : s.modeEnabled = true) :
    Gate c t := by
  cases ht with
  | ignored _ heq =>
    rw [heq]
    exact h
  | touch _ hready _ _ heq =>
    have hw : waiting s.log = false := by
      cases hw : waiting s.log with
      | false => rfl
      | true => exact absurd (hready.symm.trans (h.flag hm hw)) Bool.false_ne_true
    rw [heq]
    exact ⟨⟨⟨hm, hw⟩, h.log⟩, h.flag⟩
  | accepted _ _ _ _ _ _ _ _ _ hlog =>
    refine ⟨?_, fun _ hw => ?_⟩
    · rw [hlog]
      exact ⟨⟨hm, rfl⟩, trivial, h.log⟩
    · rw [hlog] at hw
      cases hw
  | malformed _ _ _ _ hmode hready _ hlog =>
    have hflag : waiting s.log = true → s.awaitingReadyHeat = true := h.flag hm
    refine ⟨?_, fun _ hw => ?_⟩
    · rw [hlog]
      exact ⟨⟨rfl, hflag⟩, trivial, h.log⟩
    · rw [hlog] at hw
      exact hready.trans (hflag hw)

/-! ## Resets and host faults -/

theorem scheduleRecovery_closed {c : Config} {s : Ts} (h : GateClosed c s) :
    GateClosed c (scheduleRecovery s) := by
  rw [scheduleRecovery_eq]
  exact ⟨h.log, h.modeEnabled, h.awaitingReadyHeat, h.tracks⟩

/-- Whatever the gate was, a noted reset closes it. -/
theorem notePanelReset_closed {c : Config} (w : World) (schedule : Bool) {s : Ts}
    (h : GateLog c s.log) :
    GateClosed c (notePanelReset c w schedule s) := by
  obtain ⟨_, _, _, he, _⟩ := notePanelReset_frame c w s
  have hclosed : GateClosed c (notePanelReset c w false s) := by
    rw [he]
    exact ⟨⟨⟨rfl, rfl, rfl⟩, trivial, h⟩, rfl, rfl, rfl⟩
  cases schedule with
  | false => exact hclosed
  | true => exact scheduleRecovery_closed hclosed

theorem countFault_gate {c : Config} {s : Ts} (e : Errno) (h : Gate c s) :
    Gate c (countFault e s) := by
  obtain ⟨_, he⟩ := countFault_frame e s
  rw [he]
  exact ⟨h.log, h.flag⟩

theorem noteHostFault_gate {c : Config} {s : Ts} (e : Errno) (h : Gate c s) :
    Gate c (noteHostFault c e s) := by
  have hc := countFault_gate e h
  have hclosed : GateClosed c ((closeForFault (countFault e s)).releaseContacts.note .hostFault) :=
    ⟨⟨⟨rfl, rfl, rfl⟩, trivial, hc.log⟩, rfl, rfl, rfl⟩
  unfold noteHostFault
  simp only
  split
  · exact (scheduleRecovery_closed hclosed).gate
  · exact hc

/-! ## The threads -/

theorem gate_readRule (c : Config) : ReadRule c (Gate c) where
  io _ _ h := ⟨h.log, h.flag⟩
  latch _ h := ⟨h.log, h.flag⟩
  data s h hm := (handleDataReport_handled c s).gate h hm

theorem gate_irqRule (c : Config) (w : World) : IrqRule c w (Gate c) where
  toReadRule := gate_readRule c
  reset _ h := (notePanelReset_closed w true h.log).gate
  fault e _ h := noteHostFault_gate e h
  counted _ _ h := ⟨h.log, h.flag⟩

theorem gate_initRule (c : Config) (w : World) : InitRule c w (GateClosed c) (Gate c) where
  io _ _ h := ⟨h.log, h.modeEnabled, h.awaitingReadyHeat, h.tracks⟩
  latch _ h := ⟨h.log, h.modeEnabled, h.awaitingReadyHeat, h.tracks⟩
  data _ h hm := absurd (h.modeEnabled.symm.trans hm) Bool.false_ne_true
  reset _ h := notePanelReset_closed w false h.log
  close _ h := ⟨h.log, rfl, h.awaitingReadyHeat, h.tracks⟩
  paused _ h := h.gate
  opened _ h := ⟨⟨rfl, h.log⟩, fun _ hw => hw⟩

theorem attemptFailed_gate {c : Config} {s : Ts} (path : RecoveryPath) (h : GateClosed c s) :
    Gate c (attemptFailed path s).1 := by
  have hlog : GateLog c (countFailure s).log :=
    ⟨⟨h.modeEnabled, h.awaitingReadyHeat, h.tracks⟩, h.log⟩
  have hshut : ∀ t : Ts, t.log = (countFailure s).log → t.modeEnabled = s.modeEnabled →
    Gate c t := by
    intro t hl hm
    exact ⟨hl ▸ hlog, fun ht => absurd ((hm.trans h.modeEnabled).symm.trans ht) Bool.false_ne_true⟩
  unfold attemptFailed
  simp only
  split <;> exact hshut _ rfl rfl

theorem recoverySection_gate {c : Config} {s : Ts} (w : World) (h : Gate c s) :
    Gate c (recoverySection c w s).1 :=
  recoverySection_rule (gate_initRule c w) (fun _ hs => ⟨⟨trivial, trivial, hs.log⟩, rfl, rfl, rfl⟩)
    (fun _ _ hs => ⟨hs.log, hs.flag⟩) (fun path _ hs _ => attemptFailed_gate path hs) h

theorem reschedule_gate {c : Config} {s : Ts} (retry : Bool) (h : Gate c s) :
    Gate c (reschedule retry s) := by
  unfold reschedule
  rw [scheduleRecovery_eq]
  split
  · exact ⟨h.log, h.flag⟩
  · exact h

theorem gate_inductive (c : Config) : (driver c).Inductive fun s => Gate c s.ts where
  init s hs := by
    obtain ⟨h, -⟩ := hs
    exact ⟨by rw [h.log]; trivial, fun hm => absurd (h.modeEnabled.symm.trans hm)
      Bool.false_ne_true⟩
  step s l t hs hst := by
    cases l with
    | irqEnter =>
      obtain ⟨_, rfl⟩ := Option.ite_some_none_eq_some.mp hst
      exact hs
    | irq w =>
      obtain ⟨_, rfl⟩ := Option.ite_some_none_eq_some.mp hst
      exact (gate_irqRule c w).irqSection hs
    | work w =>
      obtain ⟨_, rfl⟩ := Option.ite_some_none_eq_some.mp hst
      exact recoverySection_gate w ⟨hs.log, hs.flag⟩
    | leave =>
      obtain ⟨retry, _, rfl⟩ := Option.map_eq_some_iff.mp hst
      exact reschedule_gate retry hs

/-! ## The gate in terms of openings and accepted frames -/

theorem GateLog.entry {c : Config} {e : Entry} {past : List Entry} :
    ∀ {later : List Entry}, GateLog c (later ++ e :: past) → GateEntry c e past ∧ GateLog c past
  | [], h => h
  | _ :: _, h => GateLog.entry h.2

theorem GateLog.mem {c : Config} {log : List Entry} (h : GateLog c log) {e : Entry} (he : e ∈ log) :
    ∃ past, GateEntry c e past := by
  obtain ⟨later, past, rfl⟩ := List.append_of_mem he
  exact ⟨past, h.entry.1⟩

/-- After an opening that waits the log waits until a frame is accepted. Other
openings may come between: they wait as well, as all of one configuration do. -/
theorem waiting_of_opening {c : Config} {o : Entry} {earlier : List Entry} (ho : o.event = .opened)
    (hw : o.awaitingReadyHeat = true) : ∀ {between : List Entry}, GateLog c
    (between ++ o :: earlier) →
    (∀ x ∈ between, x.event ≠ .accepted) → waiting (between ++ o :: earlier) = true
  | [], _, _ => by simp [waiting, ho, hw]
  | x :: between, hlog, hno => by
    obtain ⟨hx, hrest⟩ := hlog
    have ih := waiting_of_opening ho hw hrest fun y hy => hno y (List.mem_cons_of_mem _ hy)
    unfold GateEntry at hx
    rw [List.cons_append, waiting_cons]
    cases hev : x.event with
    | accepted => exact absurd hev (hno x List.mem_cons_self)
    | opened =>
      have hopen := hrest.entry.1
      simp only [GateEntry, ho] at hopen
      simp only [hev] at hx
      exact hx.trans (hopen.symm.trans hw)
    | _ => exact ih

/-- What the gate guarantees of the log, newest entry first. -/
structure LogGate (log : List Entry) : Prop where
  /-- no event from a DATA response while `mode_enabled` is clear -/
  enabled : ∀ e ∈ log, e.event.fromData = true → e.modeEnabled = true
  /-- between an opening that waits and the first accepted Heat frame no event comes from a
  DATA response, and a malformed frame does not end the wait -/
  waits : ∀ later e between o earlier, log = later ++ e :: (between ++ o :: earlier) →
    o.event = .opened → o.awaitingReadyHeat = true → (∀ x ∈ between, x.event ≠ .accepted) →
    e.event.fromData = false ∧ (e.event = .malformed → e.awaitingReadyHeat = true)
  malformed : ∀ e ∈ log, e.event = .malformed → e.tracks = zeroTracks
  shut : ∀ e ∈ log, e.event = .panelReset ∨ e.event = .hostFault ∨ e.event = .attemptFailed → e.Shut

theorem GateLog.logGate {c : Config} {log : List Entry} (h : GateLog c log) : LogGate log where
  enabled e he hd := by
    obtain ⟨past, hp⟩ := h.mem he
    unfold GateEntry at hp
    unfold Event.fromData at hd
    cases hev : e.event with
    | touch a x y => simp only [hev] at hp; exact hp.1
    | contacts r => simp only [hev] at hp; exact hp.1
    | _ => simp [hev] at hd
  waits later e between o earlier hlog ho hw hno := by
    subst hlog
    obtain ⟨hp, hpast⟩ := h.entry
    have hwait := waiting_of_opening ho hw hpast hno
    unfold GateEntry at hp
    cases hev : e.event with
    | touch a x y => simp only [hev] at hp; exact absurd (hp.2.symm.trans hwait) Bool.false_ne_true
    | contacts r => simp only [hev] at hp; exact absurd (hp.2.symm.trans hwait) Bool.false_ne_true
    | malformed => simp only [hev] at hp; exact ⟨rfl, fun _ => hp.2 hwait⟩
    | _ => exact ⟨rfl, fun he => by cases he⟩
  malformed e he hev := by
    obtain ⟨past, hp⟩ := h.mem he
    unfold GateEntry at hp
    simp only [hev] at hp
    exact hp.1
  shut e he hev := by
    obtain ⟨past, hp⟩ := h.mem he
    unfold GateEntry at hp
    rcases hev with hev | hev | hev
    · simp only [hev] at hp; exact hp
    · simp only [hev] at hp; exact hp
    · simp only [hev] at hp; exact hp

end Driver
end Sp11Touch
