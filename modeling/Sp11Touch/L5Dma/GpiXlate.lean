import Sp11Touch.Core.Bytes
import Sp11Touch.Core.Handout
import Sp11Touch.Core.Proc
import Sp11Touch.L5Dma.GpiChannel
/-!
# Clients of the GPI controller (`gpi.c`)

A client names a serial engine and a direction; `gpi_of_dma_xlate` looks for the
GPII of that engine, or a free one, and `dma_get_slave_channel` opens the
channel there. `of_dma` lets one request in at a time, but channels are released
under another lock, so that a release may come between the lookup and the take.

The second half is what a client's channel holds: its ring, and with the second
channel of a GPII the event ring and the interrupt. `answers` are the outcomes
of the allocations and commands in the order the code asks for them (`true`
where the list has ended). Commands whose outcome is only logged, the registers
and the descriptors are left out, and so are pause and terminate, which change
none of this.

**Results.**
* `findAvailGpii_spec`: what the lookup promises.
* `leases_exclusive`: clients share a GPII exactly if they named one engine.
-/
namespace Sp11Touch.Gpi

/-! ## The controller -/

/-- What `struct gchan` says about its client. -/
structure XChan where
  clientCount : Nat := 0
  seid : Nat := 0
  protocol : Nat := 0
  pmState : PmState := .DISABLE
  /-- `ch_ring.configured` -/
  configured : Bool := false
deriving DecidableEq, Repr

@[ext] structure XGpii where
  gchan : Chid → XChan := fun _ => {}
  pmState : PmState := .DISABLE
  /-- `ev_ring.configured` -/
  evRing : Bool := false
  configuredIrq : Bool := false

structure GpiDev where
  maxGpii : Nat
  gpiiMask : Nat
  gpiis : Nat → XGpii := fun _ => {}

def XGpii.setChan (g : XGpii) (ch : Chid) (c : XChan) : XGpii :=
  { g with gchan := Function.update g.gchan ch c }

def GpiDev.setGpii (d : GpiDev) (n : Nat) (g : XGpii) : GpiDev :=
  { d with gpiis := Function.update d.gpiis n g }

def GpiDev.chan (d : GpiDev) (n : Nat) (ch : Chid) : XChan := (d.gpiis n).gchan ch

/-- `gpii < max_gpii` and its bit of the mask -/
def GpiDev.usable (d : GpiDev) (n : Nat) : Bool := n < d.maxGpii && d.gpiiMask.testBit n

def XChan.open (c : XChan) : Bool := c.clientCount ≠ 0

/-! ## Looking for a GPII -/

/-- One of the two loops of `gpi_find_avail_gpii`. -/
def GpiDev.scan (d : GpiDev) (p : XGpii → Bool) : Option Nat :=
  (List.range d.maxGpii).find? fun n => d.gpiiMask.testBit n && p (d.gpiis n)

def XGpii.serves (seid : Nat) (g : XGpii) : Bool :=
  ((g.gchan .RX).open && (g.gchan .RX).seid == seid) ||
    ((g.gchan .TX).open && (g.gchan .TX).seid == seid)

def XGpii.vacant (g : XGpii) : Bool := !((g.gchan .TX).open || (g.gchan .RX).open)

/-- mirrors phase55/modules/gpi.c:2552-2590 (`gpi_find_avail_gpii`) -/
def findAvailGpii (d : GpiDev) (seid : Nat) : Option Nat :=
  match d.scan (XGpii.serves seid) with
  | some n => some n
  | none => d.scan XGpii.vacant

/-- What `gpi_of_dma_xlate` has in its locals once a GPII is found. -/
structure Lookup where
  gpii : Nat
  chid : Chid
  seid : Nat
  protocol : Nat
deriving DecidableEq, Repr

/-- `GPI_TX_CHAN`, `GPI_RX_CHAN`; `none` from `MAX_CHANNELS_PER_GPII` on -/
def chidOf : Nat → Option Chid
  | 0 => some .TX
  | 1 => some .RX
  | _ => none

/-- mirrors phase55/modules/gpi.c:2593-2620 (`gpi_of_dma_xlate`), up to the lookup -/
def xlateFind (d : GpiDev) : List Nat → Option Lookup
  | chid :: seid :: protocol :: _ =>
    match chidOf chid, findAvailGpii d seid with
    | some ch, some n => some ⟨n, ch, seid, protocol⟩
    | _, _ => none
  | _ => none

/-! ## What a channel holds -/

def ENOMEM : Errno := .other 12

/-- One GPII while its `ctrl_lock` is held. `held` counts what
`dma_alloc_coherent` gave and nobody freed. -/
structure Bench where
  gpii : XGpii
  held : Nat
  answers : List Bool

def ask (e : Errno) : Proc Bench Errno Unit := fun b =>
  match b.answers with
  | [] => (b, .ok ())
  | a :: rest => ({ b with answers := rest }, if a then .ok () else .error e)

def Bench.setChan (b : Bench) (ch : Chid) (c : XChan) : Bench :=
  { b with gpii := b.gpii.setChan ch c }

/-- mirrors phase55/modules/gpi.c:1768-1814 (`gpi_alloc_ring`), for a transfer ring -/
def allocChRing (ch : Chid) : Proc Bench Errno Unit := do
  ask ENOMEM
  .modify fun b => { b.setChan ch { b.gpii.gchan ch with configured := true } with
    held := b.held + 1 }

/-- mirrors phase55/modules/gpi.c:1768-1814 (`gpi_alloc_ring`), for the event ring -/
def allocEvRing : Proc Bench Errno Unit := do
  ask ENOMEM
  .modify fun b => { b with gpii := { b.gpii with evRing := true }, held := b.held + 1 }

/-- mirrors phase55/modules/gpi.c:1759-1765 (`gpi_free_ring`); `dma_free_coherent` of a null pointer does nothing. -/
def freeChRing (ch : Chid) (b : Bench) : Bench :=
  { b.setChan ch { b.gpii.gchan ch with configured := false } with
    held := if (b.gpii.gchan ch).configured then b.held - 1 else b.held }

def freeEvRing (b : Bench) : Bench :=
  { b with gpii := { b.gpii with evRing := false }, held := if b.gpii.evRing then b.held - 1 else b.held }

def setGpiiPm (p : PmState) (b : Bench) : Bench := { b with gpii := { b.gpii with pmState := p } }

def setChanPm (ch : Chid) (p : PmState) (b : Bench) : Bench :=
  b.setChan ch { b.gpii.gchan ch with pmState := p }

/-- mirrors phase55/modules/gpi.c:816-877 (`gpi_config_interrupts`), the request -/
def configInterrupts : Proc Bench Errno Unit := do
  let irq ← .gets fun b => b.gpii.configuredIrq
  .onlyIf (!irq) (ask .EBUSY)
  .modify fun b => { b with gpii := { b.gpii with configuredIrq := true } }

/-- mirrors phase55/modules/gpi.c:793-813 (`gpi_disable_interrupts`) -/
def disableInterrupts (b : Bench) : Bench := { b with
    gpii := { b.gpii with configuredIrq := false } }

/-- mirrors phase55/modules/gpi.c:1669-1710 (`gpi_alloc_ev_chan`) -/
def allocEvChan : Proc Bench Errno Unit := do
  ask Errno.EIO
  .modify (setGpiiPm .ACTIVE)

/-- mirrors phase55/modules/gpi.c:1618-1666 (`gpi_alloc_chan`), the command -/
def allocChan : Proc Bench Errno Unit := ask Errno.EIO

/-- mirrors phase55/modules/gpi.c:1582-1600 (`gpi_start_chan`) -/
def startChan (ch : Chid) : Proc Bench Errno Unit := do
  ask Errno.EIO
  .modify (setChanPm ch .ACTIVE)

/-- mirrors phase55/modules/gpi.c:2366-2450 (`gpi_ch_init`) -/
def chInit (ch : Chid) : Proc Bench Errno Unit := do
  .modify (setChanPm ch .CONFIG)
  let g ← .gets fun b => b.gpii
  if (g.gchan .TX).pmState ≠ .CONFIG ∨ (g.gchan .RX).pmState ≠ .CONFIG then pure ()
  else do
    .errorIf ((g.gchan .TX).protocol ≠ (g.gchan .RX).protocol) .EINVAL
    allocEvRing
    Proc.onError (do
      .modify (setGpiiPm .PREPARE_HARDWARE)
      configInterrupts
      Proc.onError (do
        allocEvChan
        allocChan
        allocChan
        startChan .TX
        startChan .RX) disableInterrupts) freeEvRing

/-- mirrors phase55/modules/gpi.c:2524-2550 (`gpi_alloc_chan_resources`) -/
def allocChanResources (ch : Chid) : Proc Bench Errno Unit := do
  allocChRing ch
  chInit ch

/-- The event ring goes with the last transfer ring. -/
def freeGpii (b : Bench) : Bench :=
  let wasActive := b.gpii.pmState = .ACTIVE
  let b := freeEvRing (setGpiiPm .PREPARE_TERMINATE b)
  setGpiiPm .DISABLE (if wasActive then disableInterrupts b else b)

/-- mirrors phase55/modules/gpi.c:2453-2521 (`gpi_free_chan_resources`) -/
def freeChanResources (ch : Chid) (b : Bench) : Bench :=
  let b := setChanPm ch .DISABLE (freeChRing ch (setChanPm ch .PREPARE_TERMINATE b))
  if (b.gpii.gchan .TX).configured || (b.gpii.gchan .RX).configured then b else freeGpii b

/-! ## The system -/

structure XlateSys where
  dev : GpiDev
  /-- the request that holds `of_dma_lock` -/
  lookup : Option Lookup := none
  leases : List (Lease Nat Chid Nat) := []
  held : Nat := 0

inductive XlateLabel where
  | find (args : List Nat)
  | take (answers : List Bool)
  | release (a : Lease Nat Chid Nat)

/-- mirrors phase55/modules/gpi.c:2622-2635 (`gpi_of_dma_xlate`), from the found channel on, with `dma_get_slave_channel` -/
def xlateTake (l : Lookup) (answers : List Bool) (s : XlateSys) : XlateSys :=
  let g := s.dev.gpiis l.gpii
  let c := g.gchan l.chid
  if c.open then { s with lookup := none }
  else
    match allocChanResources l.chid ⟨g.setChan l.chid { c with seid := l.seid, protocol := l.protocol }, s.held, answers⟩ with
    | (b, .error _) => { s with dev := s.dev.setGpii l.gpii b.gpii, lookup := none, held := b.held }
    | (b, .ok _) =>
      let c := b.gpii.gchan l.chid
      { s with
        dev := s.dev.setGpii l.gpii (b.gpii.setChan l.chid
          { c with clientCount := c.clientCount + 1 })
        lookup := none
        leases := ⟨l.gpii, l.chid, l.seid⟩ :: s.leases
        held := b.held }

/-- `dma_release_channel` -/
def xlateRelease (a : Lease Nat Chid Nat) (s : XlateSys) : XlateSys :=
  let g := s.dev.gpiis a.place
  let c := g.gchan a.slot
  let g := g.setChan a.slot { c with clientCount := c.clientCount - 1 }
  let b := if c.clientCount - 1 = 0 then freeChanResources a.slot ⟨g, s.held, []⟩
    else ⟨g, s.held, []⟩
  { s with dev := s.dev.setGpii a.place b.gpii, leases := s.leases.erase a, held := b.held }

def xlateStep (s : XlateSys) : XlateLabel → Option XlateSys
  | .find args => if s.lookup.isSome then none else some { s with lookup := xlateFind s.dev args }
  | .take answers => s.lookup.map fun l => xlateTake l answers s
  | .release a => if a ∈ s.leases then some (xlateRelease a s) else none

/-- The controller as `gpi_probe` leaves it. -/
def xlateSystem : LTS XlateSys XlateLabel :=
  .ofFun (fun s => ∃ maxGpii gpiiMask, s = { dev := { maxGpii := maxGpii, gpiiMask := gpiiMask } })
    xlateStep

/-! ## The lookup -/

section
variable {d : GpiDev} {n m : Nat} {ch : Chid} {ls : List (Lease Nat Chid Nat)}

theorem scan_some {p : XGpii → Bool} (h : d.scan p = some n) : d.usable n = true ∧
    p (d.gpiis n) = true := by
  have hp := List.find?_some h
  have hm := List.mem_of_find?_eq_some h
  simp only [Bool.and_eq_true] at hp
  exact ⟨by simp [GpiDev.usable, List.mem_range.mp hm, hp.1], hp.2⟩

theorem scan_none {p : XGpii → Bool} (h : d.scan p = none) (hn : d.usable n = true) :
    p (d.gpiis n) = false := by
  simp only [GpiDev.usable, Bool.and_eq_true, decide_eq_true_eq] at hn
  have := List.find?_eq_none.mp h n (List.mem_range.mpr hn.1)
  simpa [hn.2] using this

/-- The channels agree with the leases. -/
structure Seats (d : GpiDev) (ls : List (Lease Nat Chid Nat)) : Prop where
  open_iff : ∀ n ch, (d.chan n ch).open = true ↔ ∃ a ∈ ls, a.place = n ∧ a.slot = ch
  count : ∀ n ch, (d.chan n ch).clientCount ≤ 1
  seid : ∀ a ∈ ls, (d.chan a.place a.slot).seid = a.key
  usable : ∀ a ∈ ls, d.usable a.place = true

theorem Seats.open_mem (h : Seats d ls) {a : Lease Nat Chid Nat} (ha : a ∈ ls) :
    (d.chan a.place a.slot).open = true :=
  (h.open_iff _ _).mpr ⟨a, ha, rfl, rfl⟩

theorem XGpii.serves_iff {g : XGpii} {seid : Nat} :
    g.serves seid = true ↔ ∃ ch, (g.gchan ch).open = true ∧ (g.gchan ch).seid = seid := by
  simp only [XGpii.serves, Bool.or_eq_true, Bool.and_eq_true, beq_iff_eq]
  constructor
  · rintro (h | h)
    · exact ⟨.RX, h⟩
    · exact ⟨.TX, h⟩
  · rintro ⟨ch, h⟩
    cases ch with
    | TX => exact .inr h
    | RX => exact .inl h

theorem XGpii.vacant_iff {g : XGpii} : g.vacant = true ↔ ∀ ch, (g.gchan ch).open = false := by
  simp only [XGpii.vacant, Bool.not_eq_true', Bool.or_eq_false_iff]
  constructor
  · intro h ch
    cases ch with
    | TX => exact h.1
    | RX => exact h.2
  · exact fun h => ⟨h .TX, h .RX⟩

theorem Seats.serves_iff (h : Seats d ls) (seid : Nat) :
    (d.gpiis n).serves seid = true ↔ ∃ a ∈ ls, a.place = n ∧ a.key = seid := by
  rw [XGpii.serves_iff]
  constructor
  · rintro ⟨ch, ho, hk⟩
    obtain ⟨a, ha, rfl, rfl⟩ := (h.open_iff n ch).mp ho
    exact ⟨a, ha, rfl, by rw [← h.seid a ha]; exact hk⟩
  · rintro ⟨a, ha, rfl, rfl⟩
    exact ⟨a.slot, h.open_mem ha, h.seid a ha⟩

theorem Seats.vacant_iff (h : Seats d ls) : (d.gpiis n).vacant = true ↔ ∀ a ∈ ls, a.place ≠ n := by
  rw [XGpii.vacant_iff]
  constructor
  · rintro hv a ha rfl
    exact absurd (h.open_mem ha) (by simp [GpiDev.chan, hv a.slot])
  · intro hn ch
    refine Bool.eq_false_iff.mpr fun ho => ?_
    obtain ⟨a, ha, hp, _⟩ := (h.open_iff n ch).mp ho
    exact hn a ha hp

/-- A GPII where one is found; a failure means that every GPII has a client, none of them of this engine. -/
theorem findAvailGpii_spec (h : Seats d ls) (he : Lease.Exclusive ls) (seid : Nat) :
    match findAvailGpii d seid with
    | some n => Lease.Fits ls n seid ∧ d.usable n = true
    | none => (∀ a ∈ ls, a.key ≠ seid) ∧ ∀ n, d.usable n = true → ∃ a ∈ ls, a.place = n := by
  unfold findAvailGpii
  cases hs : d.scan (XGpii.serves seid) with
  | some n =>
    obtain ⟨hu, hp⟩ := scan_some hs
    obtain ⟨a, ha, rfl, rfl⟩ := (h.serves_iff seid).mp hp
    exact ⟨he.fits ha, hu⟩
  | none =>
    have hkey : ∀ a ∈ ls, a.key ≠ seid := by
      intro a ha hk
      have hp := scan_none hs (h.usable a ha)
      rw [(h.serves_iff seid).mpr ⟨a, ha, rfl, hk⟩] at hp
      cases hp
    cases hv : d.scan XGpii.vacant with
    | some n =>
      obtain ⟨hu, hp⟩ := scan_some hv
      exact ⟨Lease.fits_of_unused (h.vacant_iff.mp hp) hkey, hu⟩
    | none =>
      refine ⟨hkey, fun n hu => ?_⟩
      have hp := scan_none hv hu
      by_contra hno
      push Not at hno
      rw [h.vacant_iff.mpr hno] at hp
      cases hp

end

/-! ## Clients -/

/-- The client's part of a channel. -/
def XChan.client (c : XChan) : Nat × Nat × Nat := (c.clientCount, c.seid, c.protocol)

def XGpii.clients (g : XGpii) (ch : Chid) : Nat × Nat × Nat := (g.gchan ch).client

theorem XChan.client_eq {c c' : XChan} (h : c.client = c'.client) :
    c.clientCount = c'.clientCount ∧ c.seid = c'.seid ∧ c.open = c'.open := by
  simp only [XChan.client, Prod.mk.injEq] at h
  exact ⟨h.1, h.2.1, by rw [XChan.open, h.1, XChan.open]⟩

theorem clients_setChan {g : XGpii} {ch : Chid} {c : XChan} (h : c.client = (g.gchan ch).client) :
    (g.setChan ch c).clients = g.clients := by
  funext ch'
  by_cases he : ch' = ch
  · subst he; simp [XGpii.clients, XGpii.setChan, h]
  · simp [XGpii.clients, XGpii.setChan, he]

section
variable {v : Chid → Nat × Nat × Nat}

/-- The clients are none of the driver's business. -/
def Clients (v : Chid → Nat × Nat × Nat) (b : Bench) : Prop := b.gpii.clients = v

theorem Clients.setChan {b : Bench} {ch : Chid} {c : XChan} (h : Clients v b)
    (hc : c.client = (b.gpii.gchan ch).client) : Clients v (b.setChan ch c) :=
  (clients_setChan hc).trans h

open Proc

theorem keeps_ask (e : Errno) : Keeps (Clients v) (ask e) := by
  intro b hb
  unfold ask
  cases b.answers with
  | nil => exact hb
  | cons a rest => cases a <;> exact hb

theorem keeps_modify {f : Bench → Bench} (hf : ∀ b, (f b).gpii.gchan = b.gpii.gchan) :
    Keeps (Clients v) (Proc.modify f : Proc Bench Errno Unit) := by
  refine Keeps.modify fun b hb => ?_
  unfold Clients XGpii.clients at *
  rwa [hf b]

theorem keeps_setChanPm (ch : Chid) (p : PmState) :
    Keeps (Clients v) (Proc.modify (setChanPm ch p) : Proc Bench Errno Unit) :=
  Keeps.modify fun _ hb => hb.setChan rfl

theorem keeps_startChan (ch : Chid) : Keeps (Clients v) (startChan ch) :=
  (keeps_ask Errno.EIO).bind fun _ => keeps_setChanPm ch .ACTIVE

theorem keeps_allocEvRing : Keeps (Clients v) allocEvRing := by
  unfold allocEvRing
  exact (keeps_ask ENOMEM).bind fun _ => keeps_modify fun _ => rfl

theorem keeps_configInterrupts : Keeps (Clients v) configInterrupts := by
  unfold configInterrupts
  exact (Keeps.gets _).bind fun _ => (Keeps.onlyIf (keeps_ask .EBUSY)).bind fun _ =>
    keeps_modify fun _ => rfl

theorem keeps_allocEvChan : Keeps (Clients v) allocEvChan := by
  unfold allocEvChan
  exact (keeps_ask Errno.EIO).bind fun _ => keeps_modify fun _ => rfl

theorem keeps_chInit (ch : Chid) : Keeps (Clients v) (chInit ch) := by
  unfold chInit
  refine (keeps_setChanPm ch .CONFIG).bind fun _ => (Keeps.gets _).bind fun g =>
    Keeps.ite (Keeps.pure ()) ?_
  refine (Keeps.errorIf _ _).bind fun _ => keeps_allocEvRing.bind fun _ => ?_
  refine Keeps.onError ?_ fun _ h => h
  refine (keeps_modify (f := setGpiiPm .PREPARE_HARDWARE) fun _ => rfl).bind fun _ => ?_
  refine keeps_configInterrupts.bind fun _ => ?_
  refine Keeps.onError ?_ fun _ h => h
  exact keeps_allocEvChan.bind fun _ => (keeps_ask Errno.EIO).bind fun _ =>
    (keeps_ask Errno.EIO).bind fun _ =>
    (keeps_startChan .TX).bind fun _ => keeps_startChan .RX

theorem keeps_allocChRing (ch : Chid) : Keeps (Clients v) (allocChRing ch) := by
  unfold allocChRing
  refine (keeps_ask ENOMEM).bind fun _ => Keeps.modify fun b hb => ?_
  exact hb.setChan (c := { b.gpii.gchan ch with configured := true }) rfl

theorem keeps_allocChanResources (ch : Chid) : Keeps (Clients v) (allocChanResources ch) :=
  (keeps_allocChRing ch).bind fun _ => keeps_chInit ch

theorem clients_freeGpii {b : Bench} (h : Clients v b) : Clients v (freeGpii b) := by
  unfold freeGpii
  by_cases ha : b.gpii.pmState = .ACTIVE
  · simp only [ha]; exact h
  · simp only [ha]; exact h

theorem clients_freeChanResources {ch : Chid} {b : Bench} (h : Clients v b) :
    Clients v (freeChanResources ch b) := by
  have h1 : Clients v (setChanPm ch .PREPARE_TERMINATE b) := h.setChan rfl
  have h2 : Clients v (freeChRing ch (setChanPm ch .PREPARE_TERMINATE b)) := h1.setChan rfl
  have h3 : Clients v (setChanPm ch .DISABLE (freeChRing ch (setChanPm ch .PREPARE_TERMINATE b))) :=
    h2.setChan rfl
  unfold freeChanResources
  simp only
  split
  · exact h3
  · exact clients_freeGpii h3

end

/-! ## Taking and releasing -/

section
variable {d : GpiDev} {n : Nat} {ch : Chid} {ls : List (Lease Nat Chid Nat)} {g : XGpii}

theorem chan_setGpii (m : Nat) (c : Chid) :
    (d.setGpii n g).chan m c = if m = n then g.gchan c else d.chan m c := by
  unfold GpiDev.chan GpiDev.setGpii
  by_cases h : m = n
  · subst h; simp
  · simp [h]

/-- Only the channel `ch` of GPII `n` has another client than before. -/
def SameBut (d : GpiDev) (n : Nat) (ch : Chid) (g : XGpii) : Prop := ∀ c, c ≠ ch →
    g.clients c = (d.gpiis n).clients c

theorem SameBut.chan (h : SameBut d n ch g) {m : Nat} {c : Chid} (hne : ¬ (m = n ∧ c = ch)) :
    ((d.setGpii n g).chan m c).client = (d.chan m c).client := by
  rw [chan_setGpii]
  by_cases hm : m = n
  · subst hm
    rw [if_pos rfl]
    exact h c fun hc => hne ⟨rfl, hc⟩
  · rw [if_neg hm]

/-- The request came to nothing. -/
theorem Seats.refused (h : Seats d ls) (hg : SameBut d n ch g) (hfree : (d.chan n ch).open = false)
    (h0 : (g.gchan ch).clientCount = 0) : Seats (d.setGpii n g) ls := by
  have hnew : (d.setGpii n g).chan n ch = g.gchan ch := by rw [chan_setGpii, if_pos rfl]
  have hno : ∀ a ∈ ls, ¬ (a.place = n ∧ a.slot = ch) := by
    rintro a ha ⟨rfl, rfl⟩
    rw [h.open_mem ha] at hfree
    cases hfree
  refine ⟨fun m c => ?_, fun m c => ?_, fun a ha => ?_, fun a ha => h.usable a ha⟩
  · by_cases he : m = n ∧ c = ch
    · obtain ⟨rfl, rfl⟩ := he
      rw [hnew]
      refine iff_of_false (by simp [XChan.open, h0]) fun ⟨a, ha, hp⟩ => hno a ha hp
    · rw [(XChan.client_eq (hg.chan he)).2.2]
      exact h.open_iff m c
  · by_cases he : m = n ∧ c = ch
    · obtain ⟨rfl, rfl⟩ := he
      rw [hnew, h0]
      exact Nat.zero_le 1
    · rw [(XChan.client_eq (hg.chan he)).1]
      exact h.count m c
  · rw [(XChan.client_eq (hg.chan (hno a ha))).2.1]
    exact h.seid a ha

theorem Seats.taken (h : Seats d ls) (hg : SameBut d n ch g) (hfree : (d.chan n ch).open = false)
    {k : Nat}
    (h1 : (g.gchan ch).clientCount = 1) (hk : (g.gchan ch).seid = k) (hu : d.usable n = true) :
    Seats (d.setGpii n g) (⟨n, ch, k⟩ :: ls) := by
  have hnew : (d.setGpii n g).chan n ch = g.gchan ch := by rw [chan_setGpii, if_pos rfl]
  refine ⟨fun m c => ?_, fun m c => ?_, fun a ha => ?_, fun a ha => ?_⟩
  · by_cases he : m = n ∧ c = ch
    · obtain ⟨rfl, rfl⟩ := he
      rw [hnew]
      exact iff_of_true (by simp [XChan.open, h1]) ⟨_, List.mem_cons_self, rfl, rfl⟩
    · rw [(XChan.client_eq (hg.chan he)).2.2, h.open_iff m c]
      constructor
      · rintro ⟨a, ha, hp⟩
        exact ⟨a, List.mem_cons_of_mem _ ha, hp⟩
      · rintro ⟨a, ha, rfl, rfl⟩
        rcases List.mem_cons.mp ha with rfl | ha
        · exact absurd ⟨rfl, rfl⟩ he
        · exact ⟨a, ha, rfl, rfl⟩
  · by_cases he : m = n ∧ c = ch
    · obtain ⟨rfl, rfl⟩ := he
      exact Nat.le_of_eq (by rw [hnew, h1])
    · rw [(XChan.client_eq (hg.chan he)).1]
      exact h.count m c
  · rcases List.mem_cons.mp ha with rfl | hm
    · rw [hnew, hk]
    · have hne : ¬ (a.place = n ∧ a.slot = ch) := by
        rintro ⟨rfl, rfl⟩
        rw [h.open_mem hm] at hfree
        cases hfree
      rw [(XChan.client_eq (hg.chan hne)).2.1]
      exact h.seid a hm
  · rcases List.mem_cons.mp ha with rfl | hm
    · exact hu
    · exact h.usable a hm

theorem Seats.released (h : Seats d ls) (he : Lease.Exclusive ls) {a : Lease Nat Chid Nat}
    (ha : a ∈ ls)
    (hg : SameBut d a.place a.slot g) (h0 : (g.gchan a.slot).clientCount = 0) :
    Seats (d.setGpii a.place g) (ls.erase a) := by
  have hnew : (d.setGpii a.place g).chan a.place a.slot = g.gchan a.slot := by
    rw [chan_setGpii, if_pos rfl]
  have hother : ∀ b ∈ ls.erase a, b ∈ ls ∧ ¬ (b.place = a.place ∧ b.slot = a.slot) := by
    intro b hb
    rw [he.mem_erase] at hb
    exact ⟨hb.1, fun hp => hb.2 (he.eq_of_slot hb.1 ha hp.1 hp.2)⟩
  refine ⟨fun m c => ?_, fun m c => ?_, fun b hb => ?_, fun b hb => h.usable b (hother b hb).1⟩
  · by_cases hm : m = a.place ∧ c = a.slot
    · obtain ⟨rfl, rfl⟩ := hm
      rw [hnew]
      exact iff_of_false (by simp [XChan.open, h0]) fun ⟨b, hb, hp⟩ => (hother b hb).2 hp
    · rw [(XChan.client_eq (hg.chan hm)).2.2, h.open_iff m c]
      constructor
      · rintro ⟨b, hb, rfl, rfl⟩
        exact ⟨b, he.mem_erase.mpr ⟨hb, fun hba => hm (hba ▸ ⟨rfl, rfl⟩)⟩, rfl, rfl⟩
      · rintro ⟨b, hb, hp⟩
        exact ⟨b, (hother b hb).1, hp⟩
  · by_cases hm : m = a.place ∧ c = a.slot
    · obtain ⟨rfl, rfl⟩ := hm
      rw [hnew, h0]
      exact Nat.zero_le 1
    · rw [(XChan.client_eq (hg.chan hm)).1]
      exact h.count m c
  · rw [(XChan.client_eq (hg.chan (hother b hb).2)).2.1]
    exact h.seid b (hother b hb).1

end

/-- What the leases are worth. -/
structure XlateInv (s : XlateSys) : Prop where
  exclusive : Lease.Exclusive s.leases
  seats : Seats s.dev s.leases
  fits : ∀ l, s.lookup = some l → Lease.Fits s.leases l.gpii l.seid ∧ s.dev.usable l.gpii = true

theorem xlateFind_fits {s : XlateSys} (h : XlateInv s) {args : List Nat} {l : Lookup}
    (hl : xlateFind s.dev args = some l) :
    Lease.Fits s.leases l.gpii l.seid ∧ s.dev.usable l.gpii = true := by
  unfold xlateFind at hl
  split at hl
  · next chid seid protocol _ =>
    have hspec := findAvailGpii_spec h.seats h.exclusive seid
    split at hl
    · next ch n _ hn =>
      cases hl
      rw [hn] at hspec
      exact hspec
    · cases hl
  · cases hl

theorem XChan.count_of_closed {c : XChan} (h : c.open = false) : c.clientCount = 0 := by
  simpa [XChan.open] using h

theorem XChan.count_of_open {c : XChan} (h : c.open = true) : c.clientCount ≠ 0 := by
  simpa [XChan.open] using h

/-- Asking for the rings of a channel leaves every client as it is. -/
theorem clients_alloc (ch : Chid) (b : Bench) :
    (allocChanResources ch b).1.gpii.clients = b.gpii.clients :=
  (keeps_allocChanResources ch).state (s := b) rfl

theorem clients_free (ch : Chid) (b : Bench) :
    (freeChanResources ch b).gpii.clients = b.gpii.clients :=
  clients_freeChanResources (b := b) rfl

theorem clients_ne {g : XGpii} {ch c : Chid} (x : XChan) (h : c ≠ ch) :
    (g.setChan ch x).clients c = g.clients c := by
  simp [XGpii.clients, XGpii.setChan, h]

theorem clients_self {g : XGpii} {ch : Chid} (x : XChan) :
    (g.setChan ch x).clients ch = x.client := by
  simp [XGpii.clients, XGpii.setChan]

theorem xlateTake_inv {s : XlateSys} (h : XlateInv s) {l : Lookup} (hl : s.lookup = some l)
    (answers : List Bool) :
    XlateInv (xlateTake l answers s) := by
  obtain ⟨hfit, hu⟩ := h.fits l hl
  unfold xlateTake
  simp only
  cases ho : ((s.dev.gpiis l.gpii).gchan l.chid).open with
  | true =>
    rw [if_pos rfl]
    exact ⟨h.exclusive, h.seats, nofun⟩
  | false =>
    rw [if_neg (by simp)]
    have h0 := XChan.count_of_closed ho
    have hc := clients_alloc l.chid ⟨(s.dev.gpiis l.gpii).setChan l.chid
      { (s.dev.gpiis l.gpii).gchan l.chid with seid := l.seid, protocol := l.protocol },
      s.held, answers⟩
    revert hc
    cases allocChanResources l.chid ⟨(s.dev.gpiis l.gpii).setChan l.chid
      { (s.dev.gpiis l.gpii).gchan l.chid with seid := l.seid, protocol := l.protocol }, s.held, answers⟩ with
    | mk b r =>
      intro hc
      have hsame : SameBut s.dev l.gpii l.chid b.gpii := fun c hne => by rw [hc, clients_ne _ hne]
      have hnew : (b.gpii.gchan l.chid).client = (0, l.seid, l.protocol) := by
        have := congrFun hc l.chid
        rw [clients_self] at this
        simpa [XGpii.clients, XChan.client, h0] using this
      simp only [XChan.client, Prod.mk.injEq] at hnew
      cases r with
      | error e => exact ⟨h.exclusive, h.seats.refused hsame ho hnew.1, nofun⟩
      | ok _ =>
        have hsame' : SameBut s.dev l.gpii l.chid (b.gpii.setChan l.chid
            { b.gpii.gchan l.chid with clientCount := (b.gpii.gchan l.chid).clientCount + 1 }) :=
          fun c hne => by rw [clients_ne _ hne]; exact hsame c hne
        refine ⟨h.exclusive.cons hfit fun a ha hp hs => ?_, h.seats.taken hsame' ho ?_ ?_ hu, nofun⟩
        · have := h.seats.open_mem ha
          rw [hp, hs, GpiDev.chan, ho] at this
          cases this
        · simp [XGpii.setChan, hnew.1]
        · simp [XGpii.setChan, hnew.2.1]

theorem XlateInv.count_of_lease {s : XlateSys} (h : XlateInv s) {a : Lease Nat Chid Nat}
    (ha : a ∈ s.leases) :
    ((s.dev.gpiis a.place).gchan a.slot).clientCount = 1 := by
  have hle := h.seats.count a.place a.slot
  have hne := XChan.count_of_open (h.seats.open_mem ha)
  unfold GpiDev.chan at hle hne
  omega

theorem xlateRelease_inv {s : XlateSys} (h : XlateInv s) {a : Lease Nat Chid Nat}
    (ha : a ∈ s.leases) :
    XlateInv (xlateRelease a s) := by
  have h1 := h.count_of_lease ha
  have hsub : (s.leases.erase a).Sublist s.leases := List.erase_sublist
  have hclients := clients_free a.slot ⟨(s.dev.gpiis a.place).setChan a.slot
    { (s.dev.gpiis a.place).gchan a.slot with clientCount := 0 }, s.held, []⟩
  unfold xlateRelease
  simp only [h1, Nat.sub_self, if_true]
  refine ⟨h.exclusive.sublist hsub, h.seats.released h.exclusive ha (fun c hne => ?_) ?_,
    fun l hl => ⟨(h.fits l hl).1.sublist hsub, (h.fits l hl).2⟩⟩
  · rw [hclients, clients_ne _ hne]
  · have := congrFun hclients a.slot
    rw [clients_self] at this
    simp only [XGpii.clients, XChan.client, Prod.mk.injEq] at this
    exact this.1

theorem xlateInv_inductive : xlateSystem.Inductive XlateInv where
  init s hs := by
    obtain ⟨maxGpii, gpiiMask, rfl⟩ := hs
    exact ⟨.nil, ⟨fun n ch => by simp [GpiDev.chan, XChan.open],
      fun n ch => by simp [GpiDev.chan], by simp, by simp⟩,
      nofun⟩
  step s lab t h hst := by
    change xlateStep s lab = some t at hst
    cases lab with
    | find args =>
      simp only [xlateStep] at hst
      split at hst
      · cases hst
      · cases hst
        exact ⟨h.exclusive, h.seats, fun l hl => xlateFind_fits h hl⟩
    | take answers =>
      obtain ⟨l, hl, rfl⟩ := Option.map_eq_some_iff.mp hst
      exact xlateTake_inv h hl answers
    | release a =>
      simp only [xlateStep] at hst
      split at hst
      · next ha =>
        cases hst
        exact xlateRelease_inv h ha
      · cases hst

/-- Clients share a GPII exactly if they named one engine, no channel has two
clients, and a request finds no GPII only when all of them serve other engines. -/
theorem leases_exclusive (s : XlateSys) (h : xlateSystem.Reachable s) :
    (s.leases.map fun a => (a.place, a.slot)).Nodup ∧
    (∀ a ∈ s.leases, ∀ b ∈ s.leases, a.place = b.place ↔ a.key = b.key) ∧
    (∀ a ∈ s.leases, s.dev.usable a.place = true ∧ (s.dev.chan a.place a.slot).clientCount = 1 ∧
      (s.dev.chan a.place a.slot).seid = a.key) ∧
    ∀ seid, findAvailGpii s.dev seid = none ↔
      (∀ a ∈ s.leases, a.key ≠ seid) ∧ ∀ n, s.dev.usable n = true →
      ∃ a ∈ s.leases, a.place = n := by
  have hi := xlateInv_inductive.reachable s h
  refine ⟨hi.exclusive.slots, hi.exclusive.keyed, fun a ha => ?_, fun seid => ?_⟩
  · exact ⟨hi.seats.usable a ha, hi.count_of_lease ha, hi.seats.seid a ha⟩
  · have hspec := findAvailGpii_spec hi.seats hi.exclusive seid
    cases hf : findAvailGpii s.dev seid with
    | none => rw [hf] at hspec; exact iff_of_true rfl hspec
    | some n =>
      rw [hf] at hspec
      refine iff_of_false nofun fun ⟨hkey, hall⟩ => ?_
      obtain ⟨a, ha, hn⟩ := hall n hspec.2
      exact hkey a ha ((hspec.1 a ha).mp hn)

/-- Engine 7 opens both channels of GPII 0; its TX channel is released while engine 5 is on its way to GPII 2. -/
def sharedRun : List XlateLabel :=
  [.find [0, 7, 9], .take [], .find [1, 7, 9], .take [], .find [0, 5, 9],
    .release ⟨0, .TX, 7⟩, .take []]

theorem leases_exclusive_shared : ∃ s, xlateSystem.Reachable s ∧
    s.leases = [⟨2, .TX, 5⟩, ⟨0, .RX, 7⟩] ∧
    ∀ n, s.dev.usable n = true → ∃ a ∈ s.leases, a.place = n := by
  have hrun : (LTS.exec xlateStep (fun _ _ => True) { dev := { maxGpii := 3, gpiiMask := 5 } }
    sharedRun).any
      (fun s => s.leases == [⟨2, .TX, 5⟩, ⟨0, .RX, 7⟩] && findAvailGpii s.dev 8 == none) = true := by decide +kernel
  obtain ⟨s, hs, hp⟩ := (Option.any_eq_true _ _).mp hrun
  have hr : xlateSystem.Reachable s := ⟨_, _, ⟨3, 5, rfl⟩, LTS.run_of_exec hs⟩
  simp only [Bool.and_eq_true, beq_iff_eq] at hp
  exact ⟨s, hr, hp.1, (((leases_exclusive s hr).2.2.2 8).mp hp.2).2⟩

end Sp11Touch.Gpi
