import Mathlib.Data.List.Forall2
import Sp11Touch.L5Dma.GpiRing
/-!
# Events through the event ring (`gpi.c`)

`GpiChannel` hands events to the channels as they come. In the hardware they
come through a ring of 16-byte entries: the controller writes at its own
pointer (`hw`, the register that `gpi_read_ev_rp` reads) as far as the doorbell
(`db`) allows, the tasklet copies that register and works its own read pointer
up to it, gives each entry back, rings the doorbell and looks again. A reset of
a channel rewrites what is still pending for it. The tasklet holds `pm_lock`
for reading, a reset takes it for writing.

`sent` and `log` are ghosts, oldest first: what the controller wrote, and what
the tasklet dispatched. `seen` and `cut` are the lengths of `log` and `sent` at
the last reset of a channel.

**Results.**
* `evStep_inv`: the ring is a queue (`Slots.Holds`) under every step.
* `events_once`: every event is dispatched once and in the order of writing; one
  that was pending when its channel was reset is dispatched as stale, one that
  was written after its last reset unchanged; and the channels go through a run
  of the model without the ring.
-/
namespace Sp11Touch.Gpi
open Slots

/-! ## Events -/

def XFER_COMPLETE_EV_TYPE : Nat := 0x22
def IMMEDIATE_DATA_EV_TYPE : Nat := 0x30
def QUP_NOTIF_EV_TYPE : Nat := 0x31
def STALE_EV_TYPE : Nat := 0xff

/-- The four dwords of an entry; the last one holds the type and the channel in every format.
mirrors phase55/modules/gpi.c:276-322 (`xfer_compl_event`, `immediate_data_event`, `gpi_event`) -/
structure Event where
  dword0 : Nat
  dword1 : Nat
  dword2 : Nat
  type : Nat
  chid : Nat
deriving DecidableEq, Repr

def Event.ptr (e : Event) : Nat := e.dword0 + 2 ^ 32 * e.dword1
def Event.length (e : Event) : Nat := e.dword2 % 2 ^ 24
def Event.code (e : Event) : Nat := e.dword2 / 2 ^ 24 % 2 ^ 8
def Event.imedLength (e : Event) : Nat := e.dword2 % 2 ^ 4
def Event.treIndex (e : Event) : Nat := e.dword2 / 2 ^ 8 % 2 ^ 16

/-- The codes that the driver tells apart. -/
def TceCode.ofByte : Nat → TceCode
  | 2 => .EOT
  | 4 => .EOB
  | 16 => .UNEXP_ERR
  | _ => .SUCCESS

def Chid.num : Chid → Nat
  | .TX => 0
  | .RX => 1

/-- `&gpii->gchan[chid]` -/
def Chid.ofNat? : Nat → Option Chid
  | 0 => some .TX
  | 1 => some .RX
  | _ => none

/-! ## Dispatch -/

/-- `list_del` and `kfree` without the callback. -/
def dropDesc (g : Gpii) (ch : Chid) (vd : Desc) : Gpii :=
  let c := g.chan ch
  { g.setChan ch { c with issued := c.issued.filter (·.id ≠ vd.id) } with
    log := .free vd.id :: .unlink vd.id :: g.log }

/-- mirrors phase55/modules/gpi.c:1142-1221 (`gpi_process_imed_data_event`) -/
def processImedDataEvent (g : Gpii) (ch : Chid) (treIndex code length : Nat) : Gpii :=
  if (g.chan ch).pmState ≠ .ACTIVE then g
  else match (g.chan ch).issued with
    | [] => g
    | vd :: _ =>
      let g := setRp g ch ((g.chan ch).chRing.elSize * treIndex)
      if TceCode.ofByte code = .EOT ∧ g.ieobSet then
        match ch with
        | .RX => dropDesc g .RX vd
        | .TX => g
      else retire g ch vd ⟨TceCode.ofByte code = .UNEXP_ERR, (vd.len + (2 ^ 32 - length)) % 2 ^ 32⟩

section
variable (phys : Chid → Nat)

/-- The event as the channel sees it; `to_virtual` gives the offset in the ring of the channel. -/
def Event.xfer (e : Event) (ch : Chid) : XferComplEvent :=
  ⟨e.ptr - phys ch, TceCode.ofByte e.code, e.length⟩

/-- mirrors phase55/modules/gpi.c:1433-1469 (the `switch` of `gpi_process_events`) -/
def dispatch (e : Event) (g : Gpii) : Gpii :=
  if e.type = XFER_COMPLETE_EV_TYPE then
    match Chid.ofNat? e.chid with
    | some ch => processXferComplEvent g ch (e.xfer phys ch)
    | none => g
  else if e.type = STALE_EV_TYPE then g
  else if e.type = IMMEDIATE_DATA_EV_TYPE then
    match Chid.ofNat? e.chid with
    | some ch => processImedDataEvent g ch e.treIndex e.code e.imedLength
    | none => g
  else if e.type = QUP_NOTIF_EV_TYPE then processQupNotif g
  else g

/-- The action of the channel model that an event stands for. -/
def Event.act (e : Event) : Option Act :=
  if e.type = XFER_COMPLETE_EV_TYPE then (Chid.ofNat? e.chid).map fun ch =>
    .event ch (e.xfer phys ch)
  else if e.type = QUP_NOTIF_EV_TYPE then some .qupNotif
  else none

end

/-! ## The ring and its two ends -/

/-- Where the tasklet is. -/
inductive Task where
  | idle
  /-- in the inner loop, up to this copy of the register -/
  | scan (rp : Nat)
  /-- the doorbell is rung -/
  | drained
  /-- out of both loops -/
  | ending
deriving DecidableEq, Repr

structure EvSys where
  g : Gpii
  ring : Ring
  slots : Nat → Event
  db : Nat
  hw : Nat
  task : Task := .idle
  sent : List Event := []
  log : List Event := []
  seen : Chid → Nat := fun _ => 0
  cut : Chid → Nat := fun _ => 0

inductive EvLabel where
  | hw (e : Event)
  | task
  | act (a : Act)

/-- Controller side assumption: the channel of an event is one of the two, and the
pointer of a completion is not below the ring of its channel. -/
def Event.Proper (phys : Chid → Nat) (e : Event) : Prop :=
  (e.type = XFER_COMPLETE_EV_TYPE ∨ e.type = IMMEDIATE_DATA_EV_TYPE → e.chid < 2) ∧
    (e.type = XFER_COMPLETE_EV_TYPE → (if e.chid = 0 then phys .TX else phys .RX) ≤ e.ptr)

instance (phys : Chid → Nat) (e : Event) : Decidable (e.Proper phys) :=
  inferInstanceAs (Decidable (_ ∧ _))

def EvLabel.Proper (phys : Chid → Nat) : EvLabel → Prop
  | .hw e => e.Proper phys
  | _ => True

instance (phys : Chid → Nat) : (l : EvLabel) → Decidable (l.Proper phys)
  | .hw e => inferInstanceAs (Decidable (e.Proper phys))
  | .task => .isTrue trivial
  | .act _ => .isTrue trivial

def hwStep (e : Event) (s : EvSys) : Option EvSys :=
  if s.hw = s.db then none
  else some { s with
    slots := Function.update s.slots (s.hw / s.ring.elSize) e
    hw := s.ring.next s.hw
    sent := s.sent ++ [e] }

/-- mirrors phase55/modules/gpi.c:1379-1481 (`gpi_process_events`) and :1484-1505 (`gpi_ev_tasklet`) -/
def taskStep (phys : Chid → Nat) (s : EvSys) : EvSys :=
  match s.task with
  | .idle => { s with task := .scan s.hw }
  | .scan rp =>
    if rp ≠ s.ring.rp then
      let e := s.slots (s.ring.rp / s.ring.elSize)
      { s with g := dispatch phys e s.g, ring := s.ring.recycleEvElement, log := s.log ++ [e] }
    else { s with db := s.ring.wp, task := .drained }
  | .drained => if s.hw ≠ s.ring.rp then { s with task := .scan s.hw } else { s with task := .ending }
  | .ending => { s with g := evTaskletEnd s.g, task := .idle }

def Event.stale (chid : Nat) (e : Event) : Event :=
  if e.chid = chid then { e with type := STALE_EV_TYPE } else e

/-- At most `turns` turns of the loop.
mirrors phase55/modules/gpi.c:1521-1545 (`gpi_mark_stale_events`) -/
def markStaleEvents (ring : Ring) (chid hw : Nat) : Nat → Nat → (Nat → Event) → Nat → Event
  | 0, _, slots => slots
  | turns + 1, p, slots =>
    if p = hw then slots
    else markStaleEvents ring chid hw turns (ring.next p)
      (Function.update slots (p / ring.elSize) ((slots (p / ring.elSize)).stale chid))

/-- The channel that a step of `gpi_terminate_all` resets. -/
def resets (g : Gpii) : Act → Option Chid
  | .terminate true => match g.ctrl with
    | .rxStopped => some .TX
    | .txReset => some .RX
    | _ => none
  | _ => none

/-- The actions of the tasklet are not taken from outside; behind its first step
`gpi_terminate_all` takes `pm_lock` for writing. -/
def outside (s : EvSys) : Act → Bool
  | .event .. | .qupNotif | .taskletEnd => false
  | .terminate _ => s.task = .idle || s.g.ctrl = .idle
  | _ => true

/-- `gpi_reset_chan` marks before it frees the descriptors, under one lock. -/
def actStep (a : Act) (s : EvSys) : Option EvSys :=
  if outside s a then
    (step s.g a).map fun g => match resets s.g a with
      | none => { s with g := g }
      | some ch => { s with
        g := g
        slots := markStaleEvents s.ring ch.num s.hw (s.ring.len / s.ring.elSize) s.ring.rp s.slots
        seen := Function.update s.seen ch s.log.length
        cut := Function.update s.cut ch s.sent.length }
  else none

def evStep (phys : Chid → Nat) (s : EvSys) : EvLabel → Option EvSys
  | .hw e => hwStep e s
  | .task => some (taskStep phys s)
  | .act a => actStep a s

/-- The event ring after `gpi_alloc_ev_chan`, with all entries but one given to the controller.
mirrors phase55/modules/gpi.c:1669-1710 (`gpi_alloc_ev_chan`) and :2388-2395 (`gpi_ch_init`) -/
def freshEv (len elSize elements dmaHandle : Nat) (slots : Nat → Event) : EvSys :=
  let ring := (allocRing elements 16 dmaHandle).ring
  { g := fresh len elSize
    ring := { ring with wp := ring.len - ring.elSize }
    slots := slots
    db := ring.len - ring.elSize
    hw := 0 }

def FreshEv (s : EvSys) : Prop :=
  ∃ len elSize elements dmaHandle slots, 0 < elements ∧
    s = freshEv len elSize elements dmaHandle slots

/-- The controller writes only events that are `Proper`. -/
def evSystem (phys : Chid → Nat) : LTS EvSys EvLabel :=
  (LTS.ofFun FreshEv (evStep phys)).restrict fun _ l => l.Proper phys

/-! ## The queue -/

/-- An event, or the event marked as stale. -/
def AsSent (a b : Event) : Prop := a = b ∨ a = { b with type := STALE_EV_TYPE }

/-- What was written after the last reset of its channel is as it was written. -/
def Unmarked (cut : Chid → Nat) (l sent : List Event) : Prop :=
  ∀ i a b, l[i]? = some a → sent[i]? = some b → (∀ ch, b.chid = ch.num → cut ch ≤ i) → a = b

/-- Comes from the ring. -/
def Act.ofRing : Act → Bool
  | .event .. | .qupNotif => true
  | _ => false

/-- What the ring is at: `queue` is written and not dispatched, `B` entries were dispatched at the last doorbell. -/
structure EvInv (phys : Chid → Nat) (n : Nat) (s : EvSys) (queue : List Event)
    (B : Nat) : Prop where
  ring : s.ring.At n s.log.length (n - 1)
  hw : s.hw = place n s.ring.elSize (s.log.length + queue.length)
  db : s.db = place n s.ring.elSize (B + (n - 1))
  rung : B ≤ s.log.length
  credit : s.log.length + queue.length ≤ B + (n - 1)
  holds : Holds n s.slots s.log.length queue
  scan : ∀ rp, s.task = .scan rp → ∃ j, j ≤ queue.length ∧
    rp = place n s.ring.elSize (s.log.length + j)
  history : List.Forall₂ AsSent (s.log ++ queue) s.sent
  stale : ∀ ch i e, s.seen ch ≤ i → i < s.cut ch → (s.log ++ queue)[i]? = some e → e.chid = ch.num →
    e.type = STALE_EV_TYPE
  unmarked : Unmarked s.cut (s.log ++ queue) s.sent
  cut : ∀ ch, s.cut ch ≤ s.sent.length
  run : (∀ e ∈ s.sent, e.type ≠ IMMEDIATE_DATA_EV_TYPE) → ∃ g0 acts, gpii.init g0 ∧
    gpii.Run g0 acts s.g ∧
    acts.filter Act.ofRing = s.log.filterMap (Event.act phys)

section
variable {phys : Chid → Nat} {n B : Nat} {s t : EvSys} {queue : List Event} {e : Event}

theorem AsSent.refl (a : Event) : AsSent a a := Or.inl rfl

theorem AsSent.stale {a b : Event} (h : AsSent a b) (chid : Nat) : AsSent (a.stale chid) b := by
  unfold Event.stale
  split
  · rcases h with rfl | rfl
    · exact Or.inr rfl
    · exact Or.inr rfl
  · exact h

theorem Unmarked.push {cut : Chid → Nat} {l sent : List Event} (h : Unmarked cut l sent)
    (hlen : l.length = sent.length)
    (e : Event) : Unmarked cut (l ++ [e]) (sent ++ [e]) := by
  intro i a b ha hb hcut
  rcases Nat.lt_or_ge i l.length with hi | hi
  · rw [List.getElem?_append_left hi] at ha
    rw [List.getElem?_append_left (hlen ▸ hi)] at hb
    exact h i a b ha hb hcut
  · rw [List.getElem?_append_right hi] at ha
    rw [List.getElem?_append_right (hlen ▸ hi), ← hlen] at hb
    exact Option.some.inj (ha.symm.trans hb)

/-- A reset marks events of its own channel, all of them written before. -/
theorem Unmarked.reset {cut : Chid → Nat} {l queue sent : List Event}
    (h : Unmarked cut (l ++ queue) sent) (ch : Chid) :
    Unmarked (Function.update cut ch sent.length) (l ++ queue.map (Event.stale ch.num)) sent := by
  intro i a b ha hb hcut
  have hother : b.chid ≠ ch.num := by
    intro hc
    have hle := hcut ch hc
    rw [Function.update_self] at hle
    exact absurd (List.getElem?_eq_some_iff.mp hb).1 (Nat.not_lt.mpr hle)
  have hold : ∀ c, b.chid = c.num → cut c ≤ i := by
    intro c hc
    have hne : c ≠ ch := by
      rintro rfl
      exact hother hc
    simpa [Function.update_of_ne hne] using hcut c hc
  rcases Nat.lt_or_ge i l.length with hi | hi
  · refine h i a b ?_ hb hold
    rw [List.getElem?_append_left hi] at ha ⊢
    exact ha
  · rw [List.getElem?_append_right hi, List.getElem?_map] at ha
    obtain ⟨a', ha', rfl⟩ := Option.map_eq_some_iff.mp ha
    obtain rfl := h i a' b (by rw [List.getElem?_append_right hi]; exact ha') hb hold
    exact if_neg hother

theorem exists_sent {l sent : List Event} (h : List.Forall₂ AsSent l sent) {a : Event}
    (ha : a ∈ l) :
    ∃ b ∈ sent, AsSent a b := by
  induction h with
  | nil => cases ha
  | cons hab _ ih =>
    rcases List.mem_cons.mp ha with rfl | ha
    · exact ⟨_, List.mem_cons_self, hab⟩
    · obtain ⟨b, hb, hab⟩ := ih ha
      exact ⟨b, List.mem_cons_of_mem _ hb, hab⟩

theorem EvInv.queue_lt (h : EvInv phys n s queue B) : queue.length < n := by
  have := h.credit
  have := h.rung
  have := h.ring.pos
  omega

theorem EvInv.log_le (h : EvInv phys n s queue B) :
    s.log.length + queue.length = s.sent.length := by
  rw [← h.history.length_eq, List.length_append]

/-! ### The controller -/

theorem hwStep_inv (h : EvInv phys n s queue B) (hs : hwStep e s = some t) :
    EvInv phys n t (queue ++ [e]) B := by
  obtain ⟨hne, hs⟩ := Option.ite_none_left_eq_some.mp hs
  cases hs
  have hq := h.queue_lt
  -- the doorbell is not reached, so one more entry is left
  have hcredit : s.log.length + queue.length < B + (n - 1) := by
    refine Nat.lt_of_le_of_ne h.credit fun he => hne ?_
    rw [h.hw, h.db, he]
  have hroom : queue.length + 1 < n := by have := h.rung; omega
  have hslot : s.hw / s.ring.elSize = (s.log.length + queue.length) % n := by
    rw [h.hw, place_div h.ring.size]
  refine ⟨h.ring, ?_, h.db, h.rung, by simp; omega, ?_, fun rp hrp => ?_, ?_,
    fun ch i a h1 h2 ha hc => ?_, ?_, fun ch => ?_,
    fun hn => ?_⟩
  · show s.ring.next s.hw = _
    rw [h.hw, h.ring.next, List.length_append]
    rfl
  · show Holds n (Function.update s.slots (s.hw / s.ring.elSize) e) _ _
    rw [hslot]
    exact h.holds.push hq e
  · obtain ⟨j, hj, hp⟩ := h.scan rp hrp
    exact ⟨j, by simp; omega, hp⟩
  · show List.Forall₂ AsSent (s.log ++ (queue ++ [e])) (s.sent ++ [e])
    rw [← List.append_assoc]
    exact List.rel_append h.history (.cons (.refl e) .nil)
  · have hlt : i < (s.log ++ queue).length := by
      rw [List.length_append, h.log_le]
      exact Nat.lt_of_lt_of_le h2 (h.cut ch)
    rw [← List.append_assoc, List.getElem?_append_left hlt] at ha
    exact h.stale ch i a h1 h2 ha hc
  · show Unmarked s.cut (s.log ++ (queue ++ [e])) (s.sent ++ [e])
    rw [← List.append_assoc]
    exact h.unmarked.push h.history.length_eq e
  · have := h.cut ch
    simp only [List.length_append]
    omega
  · exact h.run fun a ha => hn a (List.mem_append_left _ ha)

/-! ### The tasklet -/

/-- An event that is not immediate is handed on as an action of the channel model, or is left. -/
theorem dispatch_act (phys : Chid → Nat) (e : Event) (g : Gpii)
    (he : e.type ≠ IMMEDIATE_DATA_EV_TYPE) :
    match e.act phys with
    | some a => step g a = some (dispatch phys e g) ∧ a.ofRing = true
    | none => dispatch phys e g = g := by
  unfold Event.act dispatch
  by_cases hx : e.type = XFER_COMPLETE_EV_TYPE
  · rw [if_pos hx, if_pos hx]
    cases Chid.ofNat? e.chid with
    | none => rfl
    | some ch => exact ⟨rfl, rfl⟩
  · rw [if_neg hx, if_neg hx]
    by_cases hn : e.type = QUP_NOTIF_EV_TYPE
    · rw [if_pos hn, if_neg (by rw [hn]; decide), if_neg he, if_pos hn]
      exact ⟨rfl, rfl⟩
    · rw [if_neg hn, if_neg hn, if_neg he, ite_self]

theorem run_dispatch {g0 : Gpii} {acts : List Act} {log : List Event} {g : Gpii}
    (hr : gpii.Run g0 acts g) (hf : acts.filter Act.ofRing = log.filterMap (Event.act phys))
    (he : e.type ≠ IMMEDIATE_DATA_EV_TYPE) : ∃ acts', gpii.Run g0 acts' (dispatch phys e g) ∧
      acts'.filter Act.ofRing = (log ++ [e]).filterMap (Event.act phys) := by
  have hd := dispatch_act phys e g he
  rw [List.filterMap_append]
  cases ha : e.act phys with
  | none =>
    rw [ha] at hd
    exact ⟨acts, by rw [hd]; exact hr, by simp [ha, hf]⟩
  | some a =>
    rw [ha] at hd
    exact ⟨acts ++ [a], hr.append (.cons hd.1 (.nil _)), by simp [ha, hf, hd.2]⟩

/-- The tasklet takes the oldest entry that is written. -/
theorem scan_inv {rp : Nat} (h : EvInv phys n s queue B) (ht : s.task = .scan rp)
    (hne : rp ≠ s.ring.rp) :
    ∃ queue', EvInv phys n (taskStep phys s) queue' B := by
  obtain ⟨j, hj, hp⟩ := h.scan rp ht
  have hj0 : j ≠ 0 := by
    rintro rfl
    exact hne (hp.trans h.ring.rp.symm)
  have hstep : taskStep phys s = { s with
      g := dispatch phys (s.slots (s.ring.rp / s.ring.elSize)) s.g
      ring := s.ring.recycleEvElement
      log := s.log ++ [s.slots (s.ring.rp / s.ring.elSize)] } := by
    unfold taskStep
    simp only [ht, ne_eq, hne, not_false_eq_true, if_true]
  cases queue with
  | nil => simp at hj; exact absurd hj hj0
  | cons a queue =>
    have hslot : s.slots (s.ring.rp / s.ring.elSize) = a := by
      rw [h.ring.rp, place_div h.ring.size]
      exact h.holds.head
    rw [hslot] at hstep
    rw [hstep]
    have hlen : (s.log ++ [a]).length = s.log.length + 1 := by simp
    have hq : (a :: queue).length = queue.length + 1 := rfl
    have hlist : (s.log ++ [a]) ++ queue = s.log ++ a :: queue := by simp
    refine ⟨queue, ?_, ?_, h.db, ?_, ?_, ?_, fun rp' hrp => ?_, ?_,
      fun ch i b h1 h2 hb hc => ?_, ?_, h.cut,
      fun hn => ?_⟩
    · show s.ring.recycleEvElement.At n (s.log ++ [a]).length (n - 1)
      rw [hlen]
      exact h.ring.recycle
    · show s.hw = place n s.ring.elSize ((s.log ++ [a]).length + queue.length)
      rw [hlen, h.hw, hq, show s.log.length + (queue.length + 1) =
        s.log.length + 1 + queue.length by omega]
    · show B ≤ (s.log ++ [a]).length
      have := h.rung
      omega
    · show (s.log ++ [a]).length + queue.length ≤ _
      have := h.credit
      omega
    · show Holds n s.slots (s.log ++ [a]).length queue
      rw [hlen]
      exact h.holds.tail
    · have he : rp' = rp := by
        have : Task.scan rp = .scan rp' := ht.symm.trans hrp
        cases this
        rfl
      refine ⟨j - 1, by omega, ?_⟩
      show rp' = place n s.ring.elSize ((s.log ++ [a]).length + (j - 1))
      rw [hlen, he, hp, show s.log.length + 1 + (j - 1) = s.log.length + j by omega]
    · show List.Forall₂ AsSent ((s.log ++ [a]) ++ queue) s.sent
      rw [hlist]
      exact h.history
    · exact h.stale ch i b h1 h2 (by rw [← hlist]; exact hb) hc
    · show Unmarked s.cut ((s.log ++ [a]) ++ queue) s.sent
      rw [hlist]
      exact h.unmarked
    · obtain ⟨g0, acts, h0, hr, hf⟩ := h.run hn
      have hm : a.type ≠ IMMEDIATE_DATA_EV_TYPE := by
        obtain ⟨b, hb, hab⟩ := exists_sent h.history (a := a) (by simp)
        rcases hab with rfl | rfl
        · exact hn _ hb
        · show STALE_EV_TYPE ≠ IMMEDIATE_DATA_EV_TYPE
          decide
      obtain ⟨acts', hr', hf'⟩ := run_dispatch hr hf hm
      exact ⟨g0, acts', h0, hr', hf'⟩

theorem taskStep_inv (h : EvInv phys n s queue B) :
    ∃ queue' B', EvInv phys n (taskStep phys s) queue' B' := by
  cases ht : s.task with
  | idle =>
    have hstep : taskStep phys s = { s with task := .scan s.hw } := by simp [taskStep, ht]
    rw [hstep]
    refine ⟨queue, B, { h with scan := fun rp hrp => ⟨queue.length, Nat.le_refl _, ?_⟩ }⟩
    cases hrp
    exact h.hw
  | scan rp =>
    by_cases hne : rp = s.ring.rp
    · have hstep : taskStep phys s = { s with db := s.ring.wp, task := .drained } := by
        simp [taskStep, ht, hne]
      rw [hstep]
      have hq := h.queue_lt
      exact ⟨queue, s.log.length, { h with
        db := h.ring.wp
        rung := Nat.le_refl _
        credit := by simp only; omega
        scan := fun rp' hrp => by cases hrp }⟩
    · obtain ⟨queue', hq⟩ := scan_inv h ht hne
      exact ⟨queue', B, hq⟩
  | drained =>
    by_cases hne : s.hw = s.ring.rp
    · have hstep : taskStep phys s = { s with task := .ending } := by simp [taskStep, ht, hne]
      rw [hstep]
      exact ⟨queue, B, { h with scan := fun rp hrp => by cases hrp }⟩
    · have hstep : taskStep phys s = { s with task := .scan s.hw } := by simp [taskStep, ht, hne]
      rw [hstep]
      refine ⟨queue, B, { h with scan := fun rp hrp => ⟨queue.length, Nat.le_refl _, ?_⟩ }⟩
      cases hrp
      exact h.hw
  | ending =>
    have hstep : taskStep phys s = { s with g := evTaskletEnd s.g, task := .idle } := by
      simp [taskStep, ht]
    rw [hstep]
    refine ⟨queue, B, { h with scan := fun rp hrp => (by cases hrp), run := fun hn => ?_ }⟩
    obtain ⟨g0, acts, h0, hr, hf⟩ := h.run hn
    have hend : gpii.step s.g .taskletEnd (evTaskletEnd s.g) := rfl
    exact ⟨g0, acts ++ [.taskletEnd], h0, hr.append
      (.cons hend (.nil _)), by simpa [Act.ofRing] using hf⟩

/-! ### The other actions -/

/-- The loop visits the entries from `k + i` to the controller's pointer. -/
theorem markStaleEvents_spec {ring : Ring} {k d hw : Nat} (hat : ring.At n k d) (chid : Nat) :
    ∀ turns i m (slots : Nat → Event), m ≤ turns → i + m < n →
    hw = place n ring.elSize (k + (i + m)) → ∀ j, j < n →
      markStaleEvents ring chid hw turns (place n ring.elSize (k + i)) slots ((k + j) % n) =
        if i ≤ j ∧ j < i + m then (slots ((k + j) % n)).stale chid else slots ((k + j) % n)
  | 0, i, m, slots, hm, _, _, j, _ => by
    rw [markStaleEvents, if_neg (by omega)]
  | turns + 1, i, m, slots, hm, hn, hhw, j, hj => by
    rw [markStaleEvents]
    by_cases he : place n ring.elSize (k + i) = hw
    · have hi : i = i + m := place_inj hat.size (by omega) hn (he.trans hhw)
      rw [if_pos he, if_neg (by omega)]
    · have hm0 : m ≠ 0 := by
        rintro rfl
        exact he hhw.symm
      rw [if_neg he, hat.next, show k + i + 1 = k + (i + 1) by omega,
        markStaleEvents_spec hat chid turns (i + 1) (m - 1) _ (by omega) (by omega)
          (by rw [hhw, show i + 1 + (m - 1) = i + m by omega]) j hj, place_div hat.size]
      by_cases hji : j = i
      · subst hji
        rw [if_neg (by omega), Function.update_self, if_pos (by omega)]
      · have hne : (k + j) % n ≠ (k + i) % n := fun h =>
          hji (place_inj Nat.one_pos hj (by omega : i < n) (by rw [place, place, h]))
        rw [Function.update_of_ne hne]
        have hiff : (i + 1 ≤ j ∧ j < i + 1 + (m - 1)) ↔ (i ≤ j ∧ j < i + m) := by omega
        simp only [hiff]

theorem EvInv.markStale (h : EvInv phys n s queue B) (chid : Nat) :
    Holds n (markStaleEvents s.ring chid s.hw (s.ring.len / s.ring.elSize) s.ring.rp s.slots)
    s.log.length
      (queue.map (Event.stale chid)) := by
  have hq := h.queue_lt
  have hturns : s.ring.len / s.ring.elSize = n := by
    rw [h.ring.len, Nat.mul_div_cancel _ h.ring.size]
  refine h.holds.map fun i hi => ?_
  rw [hturns, h.ring.rp]
  have hhw : s.hw = place n s.ring.elSize (s.log.length + (0 + queue.length)) := by
    rw [h.hw, Nat.zero_add]
  have hspec := markStaleEvents_spec h.ring chid n 0 queue.length s.slots (by omega)
    (by omega) hhw i (by omega)
  rw [Nat.add_zero] at hspec
  rw [hspec, if_pos (by omega)]

theorem run_act {g0 g g' : Gpii} {acts : List Act} {a : Act} {log : List Event}
    (hr : gpii.Run g0 acts g)
    (hf : acts.filter Act.ofRing = log.filterMap (Event.act phys)) (hs : step g a = some g')
      (ha : a.ofRing = false) :
    gpii.Run g0 (acts ++ [a]) g' ∧ (acts ++ [a]).filter Act.ofRing =
      log.filterMap (Event.act phys) :=
  ⟨hr.append (.cons hs (.nil _)), by simp [ha, hf]⟩

theorem outside_not_ofRing {a : Act} (h : outside s a = true) : a.ofRing = false := by
  cases a <;> simp_all [outside, Act.ofRing]

/-- What is pending for the channel is stale from now on. -/
theorem stale_map {ch : Chid} {i : Nat} {e : Event} (hi : s.log.length ≤ i)
    (he : (s.log ++ queue.map (Event.stale ch.num))[i]? = some e) (hc : e.chid = ch.num) :
    e.type = STALE_EV_TYPE := by
  rw [List.getElem?_append_right hi, List.getElem?_map] at he
  obtain ⟨a, -, rfl⟩ := Option.map_eq_some_iff.mp he
  unfold Event.stale at hc ⊢
  by_cases hac : a.chid = ch.num
  · rw [if_pos hac]
  · rw [if_neg hac] at hc
    exact absurd hc hac

theorem Event.stale_type {e : Event} {chid : Nat} (h : e.type = STALE_EV_TYPE) :
    (e.stale chid).type = STALE_EV_TYPE := by
  unfold Event.stale
  split
  · rfl
  · exact h

theorem Event.stale_chid (e : Event) (chid : Nat) : (e.stale chid).chid = e.chid := by
  unfold Event.stale
  split <;> rfl

theorem stale_suffix {chid : Nat} : ∀ (l : List Event)
    {sent : List Event}, List.Forall₂ AsSent (l ++ queue) sent →
    List.Forall₂ AsSent (l ++ queue.map (Event.stale chid)) sent
  | [], _, h => List.forall₂_map_left_iff.mpr (h.imp fun _ _ hab => hab.stale chid)
  | _ :: l, _, .cons hab h => .cons hab (stale_suffix l h)

/-- Marking for another channel leaves what was marked. -/
theorem stale_kept {ch : Chid} {chid i : Nat} {e : Event} (h : EvInv phys n s queue B)
    (h1 : s.seen ch ≤ i)
    (h2 : i < s.cut ch) (he : (s.log ++ queue.map (Event.stale chid))[i]? = some e)
      (hc : e.chid = ch.num) :
    e.type = STALE_EV_TYPE := by
  have hold := fun a => h.stale ch i a h1 h2
  rcases Nat.lt_or_ge i s.log.length with hi | hi
  · rw [List.getElem?_append_left hi] at he
    exact hold e (by rw [List.getElem?_append_left hi]; exact he) hc
  · rw [List.getElem?_append_right hi, List.getElem?_map] at he
    obtain ⟨a, ha, rfl⟩ := Option.map_eq_some_iff.mp he
    rw [Event.stale_chid] at hc
    exact Event.stale_type (hold a (by rw [List.getElem?_append_right hi]; exact ha) hc)

theorem actStep_inv {a : Act} (h : EvInv phys n s queue B) (hs : actStep a s = some t) :
    ∃ queue', EvInv phys n t queue' B := by
  obtain ⟨hout, hs⟩ := Option.ite_none_right_eq_some.mp hs
  obtain ⟨g', hg, rfl⟩ := Option.map_eq_some_iff.mp hs
  have hrun : (∀ e ∈ s.sent, e.type ≠ IMMEDIATE_DATA_EV_TYPE) → ∃ g0 acts, gpii.init g0 ∧
    gpii.Run g0 acts g' ∧
      acts.filter Act.ofRing = s.log.filterMap (Event.act phys) := by
    intro hn
    obtain ⟨g0, acts, h0, hr, hf⟩ := h.run hn
    obtain ⟨hr', hf'⟩ := run_act hr hf hg (outside_not_ofRing hout)
    exact ⟨g0, acts ++ [a], h0, hr', hf'⟩
  cases hres : resets s.g a with
  | none => exact ⟨queue, { h with run := hrun }⟩
  | some ch =>
    have hlen : (queue.map (Event.stale ch.num)).length = queue.length := by simp
    refine ⟨queue.map (Event.stale ch.num), ⟨h.ring, by rw [hlen]; exact h.hw, h.db,
      h.rung, by rw [hlen]; exact h.credit,
      h.markStale ch.num, fun rp hrp => by rw [hlen]; exact h.scan rp hrp, ?_, fun c i e h1 h2 he hc => ?_,
      h.unmarked.reset ch, fun c => ?_, hrun⟩⟩
    · exact stale_suffix s.log h.history
    · by_cases hch : c = ch
      · subst hch
        simp only [Function.update_self] at h1
        exact stale_map h1 he hc
      · simp only [Function.update_of_ne hch] at h1 h2
        exact stale_kept h h1 h2 he hc
    · by_cases hch : c = ch
      · subst hch
        simp
      · simp only [Function.update_of_ne hch]
        exact h.cut c

theorem evStep_inv {l : EvLabel} (h : EvInv phys n s queue B) (hs : evStep phys s l = some t) :
    ∃ queue' B', EvInv phys n t queue' B' := by
  cases l with
  | hw e => exact ⟨queue ++ [e], B, hwStep_inv h hs⟩
  | task =>
    cases hs
    exact taskStep_inv h
  | act a =>
    obtain ⟨queue', hq⟩ := actStep_inv h hs
    exact ⟨queue', B, hq⟩

theorem freshEv_inv (phys : Chid → Nat) (len elSize dmaHandle : Nat) {elements : Nat}
    (slots : Nat → Event) (h : 0 < elements) :
    ∃ n, elements ≤ n ∧ EvInv phys n (freshEv len elSize elements dmaHandle slots) [] 0 := by
  obtain ⟨n, hn, -, hfit⟩ := allocRing_geometry elements 4 dmaHandle h
  have hlen : (allocRing elements 16 dmaHandle).ring.len = n * 16 := hfit.len
  have hlast : (allocRing elements 16 dmaHandle).ring.len - 16 = place n 16 (0 + (n - 1)) := by
    rw [hlen, place, Nat.zero_add, Nat.mod_eq_of_lt (by omega), Nat.sub_mul]
  exact ⟨n, hn, {
    ring := ⟨Nat.zero_lt_succ 15, hlen, by simp [freshEv, place, allocRing], hlast, by omega⟩
    hw := by simp [freshEv, place]
    db := hlast
    rung := Nat.le_refl 0
    credit := by simp [freshEv]
    holds := .nil _ _
    scan := fun rp hrp => by cases hrp
    history := .nil
    stale := fun ch i e _ h2 => absurd h2 (Nat.not_lt_zero i)
    unmarked := fun i a b ha => by simp [freshEv] at ha
    cut := fun _ => Nat.le_refl _
    run := fun _ => ⟨fresh len elSize, [], ⟨len, elSize, rfl⟩, .nil _, rfl⟩ }⟩

theorem evInv_inductive (phys : Chid → Nat) : (evSystem phys).Inductive fun s =>
    ∃ n queue B, EvInv phys n s queue B where
  init := by
    intro s hs
    obtain ⟨len, elSize, elements, dmaHandle, slots, h, rfl⟩ := hs
    obtain ⟨n, -, hi⟩ := freshEv_inv phys len elSize dmaHandle slots h
    exact ⟨n, [], 0, hi⟩
  step := by
    intro s l t hi hs
    obtain ⟨n, queue, B, h⟩ := hi
    obtain ⟨queue', B', h'⟩ := evStep_inv h hs.1
    exact ⟨n, queue', B', h'⟩

/-- Where the tasklet leaves its loops, nothing is left in the ring. -/
theorem drained_empty (h : EvInv phys n s queue B) (ht : s.task = .drained)
    (hend : (taskStep phys s).task = .ending) :
    queue = [] := by
  by_cases hne : s.hw = s.ring.rp
  · have hq := h.queue_lt
    have hplace : place n s.ring.elSize (s.log.length + queue.length) =
      place n s.ring.elSize (s.log.length + 0) := by
      rw [← h.hw, hne, h.ring.rp]
      rfl
    exact List.length_eq_zero_iff.mp (place_inj h.ring.size hq h.ring.pos hplace)
  · simp [taskStep, ht, hne] at hend

/-- Controller, tasklet, client and `gpi_terminate_all` in any order: what was dispatched is what
was written, in that order and each once, the rest is pending; what a reset found pending for its
channel is dispatched as stale, and what was written after the last reset of its channel as it
was written; the tasklet leaves its loops with nothing pending; and without immediate events the
channels go through a run of the channel model that has exactly the dispatched events as its
events, in their order. -/
theorem events_once (phys : Chid → Nat) : ∀ s, (evSystem phys).Reachable s →
    (∃ queue, List.Forall₂ AsSent (s.log ++ queue) s.sent ∧
      (s.task = .drained → (taskStep phys s).task = .ending → queue = [])) ∧
    (∀ ch i e, s.seen ch ≤ i → i < s.cut ch → s.log[i]? = some e → e.chid = ch.num →
      e.type = STALE_EV_TYPE) ∧
    Unmarked s.cut s.log s.sent ∧
    ((∀ e ∈ s.sent, e.type ≠ IMMEDIATE_DATA_EV_TYPE) → ∃ g0 acts, gpii.init g0 ∧
      gpii.Run g0 acts s.g ∧
      acts.filter Act.ofRing = s.log.filterMap (Event.act phys)) := by
  intro s hs
  obtain ⟨n, queue, B, h⟩ := (evInv_inductive phys).reachable s hs
  have hpending : ∀ {i : Nat} {a : Event}, s.log[i]? = some a → (s.log ++ queue)[i]? = some a := by
    intro i a ha
    rw [List.getElem?_append_left (List.getElem?_eq_some_iff.mp ha).1]
    exact ha
  exact ⟨⟨queue, h.history, drained_empty h⟩, fun ch i e h1 h2 he hc =>
    h.stale ch i e h1 h2 (hpending he) hc,
    fun i a b ha => h.unmarked i a b (hpending ha), h.run⟩

/-- One descriptor, its EOT, and the notification, which is written while the tasklet is at work. -/
def notifiedRun : List EvLabel :=
  [.act (.prep .TX 8 true true false), .act (.submit .TX 0), .act (.issue .TX),
    .hw ⟨0x1020, 0, 2 * 2 ^ 24 + 8, XFER_COMPLETE_EV_TYPE, 0⟩, .task, .task,
    .hw ⟨0, 0, 0, QUP_NOTIF_EV_TYPE, 0⟩, .task, .task, .task, .task, .task, .task]

def unwritten : Nat → Event := fun _ => ⟨0, 0, 0, 0, 0⟩

theorem events_once_notified : ∃ s, (evSystem fun _ => 0x1000).Reachable s ∧ s.log.length = 2 ∧
    s.g.log = [.free 0, .unlink 0, .callback 0 ⟨false, 0⟩] ∧
    ∃ queue, List.Forall₂ AsSent (s.log ++ queue) s.sent := by
  have hrun : (LTS.exec (evStep fun _ => 0x1000) (fun _ l => l.Proper fun _ => 0x1000)
    (freshEv 1024 16 32 0 unwritten)
      notifiedRun).any (fun s => s.log.length == 2 && s.g.log ==
      [.free 0, .unlink 0, .callback 0 ⟨false, 0⟩]) = true := by
    decide +kernel
  obtain ⟨s, hs, hp⟩ := (Option.any_eq_true _ _).mp hrun
  have hr : (evSystem fun _ => 0x1000).Reachable s :=
    ⟨_, _, ⟨1024, 16, 32, 0, unwritten, by decide, rfl⟩, LTS.run_restrict (LTS.runMeets_of_exec hs)⟩
  obtain ⟨queue, hq, -⟩ := (events_once (fun _ => 0x1000) s hr).1
  simp only [Bool.and_eq_true, beq_iff_eq] at hp
  exact ⟨s, hr, hp.1, hp.2, queue, hq⟩

end

end Sp11Touch.Gpi
