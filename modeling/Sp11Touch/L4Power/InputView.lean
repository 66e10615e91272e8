import Sp11Touch.L2Pipeline.FrameLaw
import Sp11Touch.L3Driver.StormFields
import Sp11Touch.L4Power.Suspend
/-!
# What user space sees of the contacts

The driver reports frames and keeps no copy of what the input device shows;
the input core does. It drops the slots a frame leaves out
(`INPUT_MT_DROP_UNUSED`), so `input_mt_sync_frame` alone releases them all.
`view` replays the log on such a device, and the tracks are compared with it.

**Results.**
* `trackContacts_reported`: a frame reports exactly the slots whose track is
  confirmed and was fed by that frame.
* `view_inductive`: threads, suspend, resume and remove keep `Follows` (the
  device shows the tracks) and `ViewAt` (what is released at each point).
* `view_follows`: the device shows the confirmed tracks of the last frame in
  every reachable state, and nothing after a malformed frame, a reset, a
  recovered host fault or a failed attempt, when input opens, while the device
  is suspended, and once remove has released it (each section under `io_lock`
  being one step). `suspend_returns_open` is no exception.
-/
namespace Sp11Touch

/-- The multitouch slots of the input device, and its `BTN_TOUCH`. -/
structure InputMt where
  slots : Slot → Option (Nat × Nat)
  btnTouch : Bool

/-- No finger is down. -/
def InputMt.up : InputMt := ⟨fun _ => none, false⟩

/-- `input_mt_slot`, `input_mt_report_slot_state` and the position, for one contact. -/
def reportSlot (slots : Slot → Option (Nat × Nat)) (contact : Slot × Nat × Nat) : Slot →
    Option (Nat × Nat) :=
  Function.update slots contact.1 (some contact.2)

/-- A frame up to its `input_mt_sync_frame`, which drops the slots left out and presses
`BTN_TOUCH` while a slot is in use. -/
def syncFrame (reported : List (Slot × Nat × Nat)) : InputMt :=
  ⟨reported.foldl reportSlot fun _ => none, !reported.isEmpty⟩

/-- The device after an event. -/
def Event.shown (view : InputMt) : Event → InputMt
  | .touch active _ _ => { view with btnTouch := active }
  | .contacts reported => syncFrame reported
  | .release => syncFrame []
  | _ => view

/-- The device after the log; the newest entry comes first. -/
def view : List Entry → InputMt
  | [] => .up
  | e :: past => e.event.shown (view past)

/-- What a track looks like to user space. -/
def Track.shown (track : Track) : Option (Nat × Nat) :=
  if track.active && track.confirmed && track.missed == 0 then some
    (track.outputX, track.outputY) else none

@[simp] theorem zero_shown : Track.zero.shown = none := rfl

/-! ## A frame -/

/-- Reports that agree with `f` fill in `f`, if the rest of `f` is there. -/
theorem foldl_reportSlot {f : Slot → Option (Nat × Nat)} : ∀ {reported : List (Slot × Nat × Nat)}
    {slots : Slot → Option (Nat × Nat)}, (∀ r ∈ reported, f r.1 = some r.2) →
    (∀ slot, (∀ r ∈ reported, r.1 ≠ slot) → slots slot = f slot) →
      reported.foldl reportSlot slots = f
  | [], _, _, hrest => funext fun slot => hrest slot (by simp)
  | r :: rest, slots, hmem, hrest => by
    rw [List.foldl_cons]
    refine foldl_reportSlot (fun q hq => hmem q (List.mem_cons_of_mem _ hq)) fun slot hslot => ?_
    unfold reportSlot
    by_cases he : slot = r.1
    · subst he
      rw [Function.update_self, hmem r List.mem_cons_self]
    · rw [Function.update_of_ne he]
      refine hrest slot fun q hq => ?_
      rcases List.mem_cons.mp hq with rfl | hq
      · exact fun hs => he hs.symm
      · exact hslot q hq

theorem mem_collect_iff {tracks : Slot → Track} {currentSlots : Slot → Bool} {slot : Slot}
    {p : Nat × Nat} :
    (slot, p) ∈ collectLinuxContacts tracks currentSlots ↔
      (tracks slot).active = true ∧ (tracks slot).confirmed = true ∧ currentSlots slot = true ∧
        p = ((tracks slot).outputX, (tracks slot).outputY) := by
  unfold collectLinuxContacts
  rw [List.mem_filterMap]
  constructor
  · intro hmem
    obtain ⟨s, _, hs⟩ := hmem
    split at hs
    · next hc => cases hs; simpa [and_assoc] using hc
    · cases hs
  · rintro ⟨ha, hc, hs, rfl⟩
    exact ⟨slot, List.mem_finRange slot, by simp [ha, hc, hs]⟩

/-- A track that was not fed is gone or was missed. -/
theorem advanceTrack_unfed (track : Track) (ha : (advanceTrack false track).active = true) :
    (advanceTrack false track).missed ≠ 0 := by
  revert ha
  unfold advanceTrack
  split
  · next h => simp at h; simp [h]
  split
  · simp
  · simp [Track.zero]

/-- The slots of a frame are those whose tracks were just seen. -/
theorem reportFrame_current {prof : Profile} {ts : Heat} {count : Nat}
    {contactSlots : Nat → Option Slot}
    (hp : Pairing ts.tracks count contactSlots) (slot : Slot) :
    let g := renewTracks prof count contactSlots (updateMatchedTracks prof ts count contactSlots)
    (g.ts.tracks slot).active = true → (g.currentSlots slot = true ↔
      (g.ts.tracks slot).missed = 0) := by
  intro g
  have hf := updateMatchedTracks_fed prof ts count contactSlots
  have hg : Renewed _ contactSlots count g := hf.renewed hp prof
  have hb : Built prof (updateMatchedTracks prof ts count contactSlots).agedFeed g :=
    createUnmatchedTracks_built count contactSlots rfl (hf.aged_current hp)
  intro ha
  refine ⟨fun hc => (hg.current slot hc).2, fun hm => ?_⟩
  cases hc : g.currentSlots slot with
  | true => rfl
  | false =>
    -- neither matched nor created: one frame older
    have hno : ¬ ((updateMatchedTracks prof ts count contactSlots).agedFeed.currentSlots slot =
      true ∨
        ∃ i, (i, slot) ∈ g.pairs) := by rw [← hg.slots slot, hc]; exact Bool.false_ne_true
    have hrest := hb.rest slot fun h => hno (Or.inr h)
    have haged := hf.aged_rest (Bool.eq_false_of_not_eq_true fun h => hno (Or.inl h))
    rw [show g.ts.tracks slot = advanceTrack false (ts.tracks slot) from hrest.trans haged] at ha hm
    exact absurd hm (advanceTrack_unfed _ ha)

theorem reportFrame_reported {prof : Profile} {ts : Heat} {count : Nat}
    {contactSlots : Nat → Option Slot}
    (hp : Pairing ts.tracks count contactSlots) (slot : Slot) (p : Nat × Nat) :
    (slot, p) ∈ (reportFrame prof ts count contactSlots).2.reported ↔
      ((reportFrame prof ts count contactSlots).1.tracks slot).shown = some p := by
  have hc := @reportFrame_current prof ts count contactSlots hp slot
  unfold reportFrame
  simp only at hc ⊢
  generalize renewTracks prof count contactSlots
    (updateMatchedTracks prof ts count contactSlots) = g at hc ⊢
  rw [mem_collect_iff]
  unfold Track.shown
  constructor
  · rintro ⟨ha, hcon, hs, rfl⟩
    simp [ha, hcon, (hc ha).mp hs]
  · intro h
    split at h
    · next hon =>
      simp only [Bool.and_eq_true, beq_iff_eq] at hon
      cases h
      exact ⟨hon.1.1, hon.1.2, (hc hon.1.1).mpr hon.2, rfl⟩
    · cases h

/-- A frame reports exactly the confirmed tracks it fed. -/
theorem trackContacts_reported (prof : Profile) (found : Heat × Nat) (slot : Slot) (p : Nat × Nat) :
    (slot, p) ∈ (trackContacts prof found).2.reported ↔
    ((trackContacts prof found).1.tracks slot).shown = some p := by
  have hp := assignTracks_pairing prof found.1 found.2
  rw [← assignTracks_frame prof found.1 found.2] at hp
  exact reportFrame_reported hp slot p

/-! ## The law of the log -/

/-- Where nothing may be down. -/
def Event.released : Event → Bool
  | .malformed => true
  | .opened => true
  | .panelReset => true
  | .hostFault => true
  | .attemptFailed => true
  | _ => false

def ViewLog : List Entry → Prop
  | [] => True
  | e :: past => (e.event.released = true → view past = .up) ∧ ViewLog past

theorem ViewLog.mem {later past : List Entry} {e : Entry} (h : ViewLog (later ++ e :: past)) :
    e.event.released = true → view past = .up := by
  induction later with
  | nil => exact h.1
  | cons _ later ih => exact ih h.2

namespace Driver
open Proc

/-- The device shows the tracks. -/
structure Follows (s : Ts) : Prop where
  log : ViewLog s.log
  slots : ∀ slot, (view s.log).slots slot = (s.heat.tracks slot).shown

/-- Nothing is down and no input can come. -/
structure Dark (s : Ts) : Prop where
  log : ViewLog s.log
  modeEnabled : s.modeEnabled = false
  tracks : s.heat.tracks = zeroTracks
  up : view s.log = .up

theorem Dark.follows {s : Ts} (h : Dark s) : Follows s :=
  ⟨h.log, fun slot => by rw [h.up, h.tracks]; rfl⟩

theorem follows_release {s : Ts} (h : ViewLog s.log) : Follows s.releaseContacts :=
  ⟨⟨nofun, h⟩, fun _ => rfl⟩

theorem acceptedHeat_follows {c : Config} {s : Ts} {buf : HeatBuf} (h : ViewLog s.log) :
    let frame := parsedFrame c.p.profile { s.heat with buf := buf }
    Follows (acceptedHeat frame.1 frame.2 s) := by
  intro frame
  have hslots : (syncFrame frame.2.reported).slots = fun slot => (frame.1.tracks slot).shown := by
    have hmem := trackContacts_reported c.p.profile
      (findContacts c.p.profile { s.heat with buf := buf })
    refine foldl_reportSlot (fun r hr => (hmem r.1 r.2).mp hr) fun slot hslot => ?_
    cases hs : (frame.1.tracks slot).shown with
    | none => rfl
    | some p => exact absurd rfl (hslot (slot, p) ((hmem slot p).mpr hs))
  have hlog : ViewLog (⟨.contacts frame.2.reported, s.modeEnabled, s.awaitingReadyHeat,
    frame.1.tracks⟩ ::
      ⟨.accepted, s.modeEnabled, s.awaitingReadyHeat, s.heat.tracks⟩ :: s.log) := ⟨nofun, nofun, h⟩
  unfold acceptedHeat
  simp only
  split <;> exact ⟨hlog, fun slot => congrFun hslots slot⟩

theorem malformedHeat_follows {s : Ts} (h : ViewLog s.log) : Follows (malformedHeat s) := by
  unfold malformedHeat
  simp only
  split <;> exact ⟨⟨fun _ => rfl, nofun, h⟩, fun _ => rfl⟩

/-- Report `0x40` moves no slot. -/
theorem handleDataReport_follows {c : Config} {s : Ts} (h : Follows s) :
    Follows (handleDataReport c s) := by
  unfold handleDataReport
  split
  · exact h
  split
  · exact h
  split
  · exact ⟨⟨nofun, h.log⟩, h.slots⟩
  split
  · unfold handleHeat reportHeatContacts
    cases HeatFrame.extractHeatmap (s.io.content s.io.lastContentLen) s.heat.buf with
    | mk buf r => cases r with
      | ok _ => exact acceptedHeat_follows h.log
      | error e => exact malformedHeat_follows h.log
  · exact h

theorem notePanelReset_dark {c : Config} (w : World) {s : Ts} (h : ViewLog s.log) :
    Dark (notePanelReset c w false s) := by
  obtain ⟨_, _, _, he, _⟩ := notePanelReset_frame c w s
  rw [he]
  exact ⟨⟨fun _ => rfl, nofun, h⟩, rfl, rfl, rfl⟩

theorem Dark.scheduled {s : Ts} (h : Dark s) : Dark (scheduleRecovery s) := by
  rw [scheduleRecovery_eq]
  exact ⟨h.log, h.modeEnabled, h.tracks, h.up⟩

theorem noteHostFault_dark {c : Config} (e : Errno) {s : Ts} (h : ViewLog s.log)
    (hp : c.p.hostFaultRecovery = true) :
    Dark (noteHostFault c e s) := by
  obtain ⟨_, he⟩ := countFault_frame e s
  have hd : Dark ((closeForFault (countFault e s)).releaseContacts.note .hostFault) := by
    rw [he]
    exact ⟨⟨fun _ => rfl, nofun, h⟩, rfl, rfl, rfl⟩
  unfold noteHostFault
  simp only [hp, if_true]
  exact hd.scheduled

/-! ## The threads -/

theorem follows_ioRule : IoRule Follows := ⟨fun _ _ h => ⟨h.log, h.slots⟩⟩

theorem follows_irqRule (c : Config) (w : World) : IrqRule c w Follows where
  toIoRule := follows_ioRule
  latch _ h := ⟨h.log, h.slots⟩
  data _ h _ := handleDataReport_follows h
  reset _ h := (notePanelReset_dark w h.log).scheduled.follows
  fault e s h := by
    cases hp : c.p.hostFaultRecovery with
    | true => exact (noteHostFault_dark e h.log hp).follows
    | false =>
      obtain ⟨_, he⟩ := countFault_frame e s
      unfold noteHostFault
      simp only [hp, Bool.false_eq_true, if_false, he]
      exact ⟨h.log, h.slots⟩
  counted _ _ h := ⟨h.log, h.slots⟩

theorem follows_initRule (c : Config) (w : World) : InitRule c w Dark fun s => Follows s ∧
    view s.log = .up where
  io _ _ h := ⟨h.log, h.modeEnabled, h.tracks, h.up⟩
  latch _ h := ⟨h.log, h.modeEnabled, h.tracks, h.up⟩
  data _ h hm := absurd (h.modeEnabled.symm.trans hm) Bool.false_ne_true
  reset _ h := notePanelReset_dark w h.log
  close _ h := ⟨h.log, rfl, h.tracks, h.up⟩
  paused _ h := ⟨h.follows, h.up⟩
  opened _ h := ⟨⟨⟨fun _ => h.up, h.log⟩, h.follows.slots⟩, h.up⟩

theorem attemptFailed_follows {s : Ts} (path : RecoveryPath) (h : Dark s) :
    Follows (attemptFailed path s).1 ∧ view (attemptFailed path s).1.log = .up := by
  unfold attemptFailed
  simp only
  split <;> exact ⟨⟨⟨fun _ => h.up, h.log⟩, h.follows.slots⟩, h.up⟩

theorem recoverySection_follows {c : Config} {s : Ts} (w : World) (h : Follows s) :
    Follows (recoverySection c w s).1 :=
  recoverySection_rule (follows_initRule c w) (fun _ hs => ⟨⟨nofun, nofun, hs.log⟩, rfl, rfl, rfl⟩)
    (fun _ _ hs => ⟨hs.1.log, hs.1.slots⟩) (fun path _ hs _ => (attemptFailed_follows path hs).1) h

theorem threadStep_follows {c : Config} {l : Label} {t u : Threads} (h : threadStep c t l = some u)
    (hs : Follows t.ts) : Follows u.ts := by
  cases l with
  | irqEnter =>
    obtain ⟨_, rfl⟩ := Option.ite_some_none_eq_some.mp h
    exact hs
  | irq w =>
    obtain ⟨_, rfl⟩ := Option.ite_some_none_eq_some.mp h
    exact (follows_irqRule c w).irqSection hs
  | work w =>
    obtain ⟨_, rfl⟩ := Option.ite_some_none_eq_some.mp h
    exact recoverySection_follows w ⟨hs.log, hs.slots⟩
  | leave =>
    obtain ⟨retry, _, rfl⟩ := Option.map_eq_some_iff.mp h
    unfold reschedule
    rw [scheduleRecovery_eq]
    split
    · exact ⟨hs.log, hs.slots⟩
    · exact hs

/-! ## With input closed -/

/-- Closed input, with nothing down. -/
structure ClosedUp (s : Ts) : Prop where
  modeEnabled : s.modeEnabled = false
  up : view s.log = .up

theorem closedUp_irqRule (c : Config) (w : World) : IrqRule c w ClosedUp where
  io _ _ h := ⟨h.modeEnabled, h.up⟩
  latch _ h := ⟨h.modeEnabled, h.up⟩
  data _ h hm := absurd (h.modeEnabled.symm.trans hm) Bool.false_ne_true
  reset s h := by
    obtain ⟨_, _, _, he, _⟩ := notePanelReset_frame c w s
    rw [notePanelReset_true, scheduleRecovery_eq, he]
    exact ⟨rfl, rfl⟩
  fault e s h := by
    obtain ⟨_, he⟩ := countFault_frame e s
    unfold noteHostFault
    simp only [he, scheduleRecovery_eq]
    split
    · exact ⟨rfl, rfl⟩
    · exact ⟨h.modeEnabled, h.up⟩
  counted _ _ h := ⟨h.modeEnabled, h.up⟩

/-! ## What a section shows, by its outcome -/

/-- After a section of the IRQ thread that ended at `exit`. -/
structure IrqView (c : Config) (s t : Ts) (exit : DrainExit) : Prop where
  reset : exit = .reset → view t.log = .up
  fault : ∀ e, exit = .fault e → c.p.hostFaultRecovery = true → view t.log = .up
  /-- a reset or a fault, whichever way it came to be counted -/
  noted : t.stats.resetNotifications ≠ s.stats.resetNotifications → view t.log = .up
  counted : hostFaults t ≠ hostFaults s → c.p.hostFaultRecovery = true → view t.log = .up

/-- Between the turns of the drain nothing is counted. -/
theorem viewWay_rule (c : Config) (w : World) (s0 : Ts) : ReadRule c fun t => Follows t ∧
    StormFrame s0 t where
  io s io h := ⟨follows_ioRule.io s io h.1, (stormFrame_rule c s0).io s io h.2⟩
  latch s h := ⟨(follows_irqRule c w).latch s h.1, (stormFrame_rule c s0).latch s h.2⟩
  data s h hm := ⟨handleDataReport_follows h.1, (stormFrame_rule c s0).data s h.2 hm⟩

/-- An exit that counts nothing. -/
theorem irqView_quiet {c : Config} {s0 t : Ts} {exit : DrainExit} (h : StormFrame s0 t)
    (hreset : exit ≠ .reset)
    (hfault : ∀ e, exit ≠ .fault e) : IrqView c s0 t exit where
  reset he := absurd he hreset
  fault e he := absurd he (hfault e)
  noted hne := absurd h.notifications hne
  counted hne := absurd h.faults hne

theorem irqView_fault {c : Config} {s0 t : Ts} {exit : DrainExit} (e : Errno) (hlog : ViewLog t.log)
    (h : StormFrame s0 t) (hreset : exit ≠ .reset) : IrqView c s0 (noteHostFault c e t) exit where
  reset he := absurd he hreset
  fault _ _ hp := (noteHostFault_dark e hlog hp).up
  noted hne := absurd (noteHostFault_faulted c e h).notifications hne
  counted _ hp := (noteHostFault_dark e hlog hp).up

theorem irqView_drainRule (c : Config) (w : World) (s0 : Ts) :
    DrainRule c w (fun t => Follows t ∧ StormFrame s0 t) (fun _ t => Follows t ∧ StormFrame s0 t)
      (fun exit t => IrqView c s0 t exit) where
  unread := Triple.conseq (viewWay_rule c w s0).hasUnreadResponse (fun _ h => h)
    (fun _ _ h => ⟨fun _ => h, fun _ => irqView_quiet h.2 nofun nofun⟩) fun _ _ h =>
    irqView_quiet h.2 nofun nofun
  read := (viewWay_rule c w s0).dmaReadResponse
  again _ h := irqView_quiet h.2 nofun nofun
  fault e _ _ h := irqView_fault e h.1.log h.2 nofun
  reset s h :=
    have hup : view (notePanelReset c w true s).log = .up :=
      (notePanelReset_dark w h.1.log).scheduled.up
    ⟨fun _ => hup, nofun, fun _ => hup, fun _ _ => hup⟩
  single _ _ h := irqView_quiet (h.2.trans ⟨rfl, rfl, rfl, rfl, rfl, rfl, rfl⟩) nofun nofun

theorem irqSection_view (c : Config) (w : World) {s : Ts} (h : Follows s) :
    IrqView c s (irqSection c w s).1 (irqSection c w s).2 := by
  rcases (irqView_drainRule c w s).irqSection ⟨h, .refl s⟩ with ⟨exit, hexit,
    he⟩ | ⟨hfull, t, ht, heq⟩
  · rcases he with ⟨rfl, hfull⟩ | ⟨_, rfl⟩
    · rw [hfull]
      exact ⟨nofun, nofun, hexit.noted, hexit.counted⟩
    · exact hexit
  · rw [hfull, heq]
    exact irqView_fault _ ht.1.log (ht.2.trans ⟨rfl, rfl, rfl, rfl, rfl, rfl, rfl⟩) nofun

/-- After an attempt of the worker nothing is down, whether it failed or opened input. -/
theorem recoverySection_view (c : Config) (w : World) {s : Ts} (h : ViewLog s.log)
    (hran : (recoverySection c w s).2 ≠ .stopped) : view (recoverySection c w s).1.log = .up := by
  have hbegun : Dark (beginInitialization (beginAttempt s)) := ⟨⟨nofun, nofun, h⟩, rfl, rfl, rfl⟩
  have hf := (follows_initRule c w).fullReinitializeLocked_rule
    s.recoveryPath (beginAttempt s) hbegun
  unfold recoverySection attempt at hran ⊢
  split at hran
  · exact absurd rfl hran
  · next hgoing =>
    rw [if_neg hgoing]
    revert hf
    cases fullReinitializeLocked c w s.recoveryPath (beginAttempt s) with
    | mk t r => cases r with
      | ok _ => exact fun hopen => hopen.2
      | error _ => exact fun hfailed => (attemptFailed_follows s.recoveryPath hfailed.1).2

end Driver

/-! ## Suspend, resume and remove -/

namespace Power
open Driver

/-- No thread can take a step: the interrupt is disabled and no work is there. -/
structure Parked (t : Threads) : Prop where
  irqEntered : t.irqEntered = false
  irqDepth : 0 < t.ts.irqDepth
  workPending : t.ts.workPending = false
  leaving : t.leaving = none

theorem Parked.no_step {c : Config} {t u : Threads} (h : Parked t) (l : Label) :
    threadStep c t l ≠ some u := by
  have hd := h.irqDepth
  cases l with
  | irqEnter => simp [threadStep, show t.ts.irqDepth ≠ 0 by omega]
  | irq w => simp [threadStep, h.irqEntered]
  | work w => simp [threadStep, h.workPending]
  | leave => simp [threadStep, h.leaving]

theorem Parked.power {t : Threads} (h : Parked t) {s : Ts} (hf : PowerFrame t.ts s) :
    Parked { t with ts := s } :=
  ⟨h.irqEntered, hf.irqDepth ▸ h.irqDepth, hf.workPending.trans h.workPending, h.leaving⟩

/-- What is parked and released at each point of the calls. Suspend stops the IRQ thread, then the
worker; remove leaves the IRQ thread alone, with input closed for good. -/
def ViewAt (t : Threads) : PmPc → Prop
  | .suspendCancel => t.irqEntered = false ∧ 0 < t.ts.irqDepth
  | .suspendSection => Parked t
  | .suspended => Parked t ∧ view t.ts.log = .up
  | .resumeEnable => Parked t ∧ view t.ts.log = .up
  | .removeFlag => t.ts.stopping = true
  | .removeCancel => t.ts.stopping = true ∧ t.ts.modeEnabled = false
  | .removeSection => Removed t
  | .removePower => Removed t ∧ view t.ts.log = .up
  | .removed => Removed t ∧ view t.ts.log = .up
  | _ => True

/-- After remove only the IRQ thread runs. -/
theorem Removed.view_thread {c : Config} {l : Label} {t u : Threads} (h : Removed t)
    (hst : threadStep c t l = some u)
    (hv : view t.ts.log = .up) : view u.ts.log = .up := by
  cases l with
  | irqEnter => simp [threadStep, h.modeEnabled] at hst
  | irq w =>
    obtain ⟨_, rfl⟩ := Option.ite_some_none_eq_some.mp hst
    exact ((closedUp_irqRule c w).irqSection ⟨h.modeEnabled, hv⟩).up
  | work w => simp [threadStep, h.workPending] at hst
  | leave => simp [threadStep, h.leaving] at hst

theorem viewAt_thread {c : Config} {s : Pm} {l : Label} {u : Threads} (hs : ViewAt s.threads s.pc)
    (hst : threadStep c s.threads l = some u) : ViewAt u s.pc := by
  have hf := threadStep_frame hst
  revert hs
  cases s.pc with
  | suspendCancel => exact fun hs => ⟨hf.entered hs.1 hs.2, hf.irqDepth ▸ hs.2⟩
  | suspendSection => exact fun hs => absurd hst (hs.no_step l)
  | suspended => exact fun hs => absurd hst (hs.1.no_step l)
  | resumeEnable => exact fun hs => absurd hst (hs.1.no_step l)
  | removeFlag => exact fun hs => hf.stopping.trans hs
  | removeCancel =>
    intro hs
    obtain ⟨hstop, hm⟩ := hs
    refine ⟨hf.stopping.trans hstop, hf.closed hm fun w _ _ hno => ?_⟩
    rw [hstop] at hno
    cases hno
  | removeSection => exact fun hs => hs.thread hf
  | removePower => exact fun hs => ⟨hs.1.thread hf, hs.1.view_thread hst hs.2⟩
  | removed => exact fun hs => ⟨hs.1.thread hf, hs.1.view_thread hst hs.2⟩
  | _ => exact fun _ => trivial

/-- Power methods leave the log and the tracks alone. -/
theorem logKept_ioRule (s0 : Ts) : IoRule fun s => s.log = s0.log ∧
    s.heat = s0.heat := ⟨fun _ _ h => h⟩

theorem suspendPower_view (c : Config) (w : World) (s : Ts) :
    (suspendPower c w s).1.log = s.releaseContacts.log ∧
    (suspendPower c w s).1.heat = s.releaseContacts.heat := by
  exact (logKept_ioRule s.releaseContacts).powerOff.state ⟨rfl, rfl⟩

theorem resumePower_view (c : Config) (w : World) (s : Ts) :
    (resumePower c w s).1.log = s.log ∧ (resumePower c w s).1.heat = s.heat := by
  exact (logKept_ioRule s).powerOn.state (s := resetRecovery s) ⟨rfl, rfl⟩

theorem follows_of_eq {s t : Ts} (h : Follows s)
    (he : t.log = s.log ∧ t.heat = s.heat) : Follows t :=
  ⟨by rw [he.1]; exact h.log, by rw [he.1, he.2]; exact h.slots⟩

theorem follows_called {c : Config} {w : World} {s t : Pm} (hs : Follows s.threads.ts)
    (h : Called c w s t) :
    Follows t.threads.ts := by
  obtain ⟨threads, pc, failed⟩ := s
  obtain ⟨pc', u, hstep, rfl⟩ := h
  have hoff := suspendPower_view c w threads.ts
  have hon := resumePower_view c w threads.ts
  cases hstep with
  | suspendOff hr => rw [hr] at hoff; exact follows_of_eq (follows_release hs.log) hoff
  | suspendFails hr => rw [hr] at hoff; exact follows_of_eq (follows_release hs.log) hoff
  | resumeOn hr => rw [hr] at hon; exact follows_of_eq hs hon
  | resumeFails hr => rw [hr] at hon; exact follows_of_eq hs hon
  | removeRelease => exact follows_release hs.log
  | removePower => exact follows_of_eq hs ((logKept_ioRule threads.ts).powerOff.state ⟨rfl, rfl⟩)
  | _ => exact ⟨hs.log, hs.slots⟩

theorem viewAt_called {c : Config} {w : World} {s t : Pm} (hs : ViewAt s.threads s.pc)
    (h : Called c w s t) :
    ViewAt t.threads t.pc := by
  obtain ⟨threads, pc, failed⟩ := s
  obtain ⟨pc', u, hstep, rfl⟩ := h
  have hoff := suspendPower_view c w threads.ts
  have hon := resumePower_view c w threads.ts
  have hfoff := suspendPower_frame c w threads.ts
  have hfon := resumePower_frame c w threads.ts
  cases hstep with
  | suspendIrq he => exact ⟨he, Nat.succ_pos _⟩
  | suspendCancel hl => exact ⟨hs.1, hs.2, rfl, hl⟩
  | suspendOff hr =>
    rw [hr] at hoff hfoff
    exact ⟨hs.power hfoff, by rw [hoff.1]; rfl⟩
  | resumeOn hr =>
    rw [hr] at hon hfon
    exact ⟨hs.1.power hfon, by rw [hon.1]; exact hs.2⟩
  | removeFlag _ => exact rfl
  | removeClose => exact ⟨hs, rfl⟩
  | removeCancel hl => exact ⟨hs.2, rfl, hl, hs.1⟩
  | removeRelease => exact ⟨Removed.power hs ⟨rfl, rfl, rfl, rfl⟩, rfl⟩
  | removePower =>
    refine ⟨Removed.power hs.1 (powerOff_frame c w threads.ts), ?_⟩
    rw [((logKept_ioRule threads.ts).powerOff.state ⟨rfl, rfl⟩).1]
    exact hs.2
  | _ => trivial

/-- A probed device whose calls have not begun. -/
def ProbedPm (s : Pm) : Prop := ProbedThreads s.threads ∧ Running s

def probedSystem (c : Config) : LTS Pm PmLabel := .ofFun ProbedPm (pmStep c)

theorem view_inductive (c : Config) :
    (probedSystem c).Inductive fun s => Follows s.threads.ts ∧ ViewAt s.threads s.pc where
  init s hs := by
    obtain ⟨⟨hprobed, -⟩, hrun⟩ := hs
    refine ⟨⟨by rw [hprobed.log]; trivial, fun slot => ?_⟩, by rw [hrun.pc]; trivial⟩
    rw [hprobed.log, hprobed.tracks]
    rfl
  step s l t hs hst := by
    rcases pmStep_cases hst with ⟨l, u, rfl, hu, rfl⟩ | ⟨w, hcall⟩
    · have hview : ViewAt u s.pc := viewAt_thread hs.2 hu
      exact ⟨threadStep_follows hu hs.1, hview⟩
    · exact ⟨follows_called hs.1 hcall, viewAt_called hs.2 hcall⟩

/-- Nothing is down at these points of the calls. -/
def PcReleased (pc : PmPc) : Prop := pc = .suspended ∨ pc = .resumeEnable ∨
    pc = .removePower ∨ pc = .removed

/-- Threads, suspend, resume and remove in any order: the device shows the confirmed tracks that the
last frame fed and no others, and nothing is down where input is closed or opened. -/
theorem view_follows (c : Config) (s : Pm) (h : (probedSystem c).Reachable s) :
    (∀ slot, (view s.threads.ts.log).slots slot = (s.threads.ts.heat.tracks slot).shown) ∧
    (PcReleased s.pc → view s.threads.ts.log = .up) ∧
    (∀ later e past, s.threads.ts.log = later ++ e :: past → e.event.released = true →
      view past = .up) ∧
    (∀ w, IrqView c s.threads.ts (irqSection c w s.threads.ts).1 (irqSection c w s.threads.ts).2) ∧
    ∀ w, (recoverySection c w s.threads.ts).2 ≠ .stopped →
      view (recoverySection c w s.threads.ts).1.log = .up := by
  obtain ⟨hf, hv⟩ := (view_inductive c).reachable s h
  refine ⟨hf.slots, fun hpc => ?_, fun later e past hlog => ViewLog.mem (hlog ▸ hf.log),
    fun w => irqSection_view c w hf, fun w => recoverySection_view c w hf.log⟩
  rcases hpc with hpc | hpc | hpc | hpc
  · rw [hpc] at hv; exact hv.2
  · rw [hpc] at hv; exact hv.2
  · rw [hpc] at hv; exact hv.2
  · rw [hpc] at hv; exact hv.2

/-- The finger down at (258, 772) in a report `0x40`, with the line deasserted after it. -/
def touchWorld : World :=
  { panel [⟨classData, 0x40, 5, [1, 2, 1, 4, 3]⟩] 47 with
    gpio := fun tick => .ok (decide (tick < 53)) }

def touchRun : List PmLabel := [.thread boot, .thread .leave, .thread .irqEnter,
    .thread (.irq touchWorld)]

/-- No wait for Heat. -/
def defaultConfig : Config := ⟨{ modeConfigFix := false }, rfl, true, 4⟩

/-- A finger is down when the device suspends, and up once it has. -/
theorem view_follows_suspended :
    ∃ s t, (probedSystem defaultConfig).Run probedPm touchRun s ∧
    (view s.threads.ts.log).btnTouch = true ∧
      (probedSystem defaultConfig).Run s (List.replicate 4 (.suspend silentWorld)) t ∧
      t.pc = .suspended ∧
      view t.threads.ts.log = .up := by
  have hrun : (LTS.exec (pmStep defaultConfig) (fun _ _ => True) probedPm touchRun).any
      (fun s => (view s.threads.ts.log).btnTouch &&
      (LTS.exec (pmStep defaultConfig) (fun _ _ => True) s
        (List.replicate 4 (.suspend silentWorld))).any fun t => decide (t.pc = .suspended)) =
        true := by
    decide +kernel
  obtain ⟨s, hs, hdown⟩ := (Option.any_eq_true _ _).mp hrun
  obtain ⟨hb, hnext⟩ := Bool.and_eq_true_iff.mp hdown
  obtain ⟨t, ht, hpc⟩ := (Option.any_eq_true _ _).mp hnext
  have hr : (probedSystem defaultConfig).Run probedPm touchRun s := LTS.run_of_exec hs
  have hr' : (probedSystem defaultConfig).Run s _ t := LTS.run_of_exec ht
  have hup := view_follows defaultConfig t ⟨probedPm, _, ⟨probed_init, probedPm_running⟩,
    hr.append hr'⟩
  exact ⟨s, t, hr, hb, hr', of_decide_eq_true hpc, hup.2.1 (Or.inl (of_decide_eq_true hpc))⟩

end Power
end Sp11Touch
