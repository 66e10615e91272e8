import Mathlib.Algebra.BigOperators.Group.Finset.Basic
import Sp11Touch.L5Dma.GpiXlate
/-!
# What the clients of the GPI controller hold (`gpi.c`)

Over the runs in which nothing fails once a channel has its ring, and a channel
is asked for only where the other one of its GPII does not run yet: then each
GPII is idle, waits with one channel, or runs, and what `dma_alloc_coherent`
gave is what the open channels need. (A channel asked for next to one that runs
is never started, and a failed `gpi_ch_init` leaves its ring behind.)

**Results.**
* `chInit_first`, `chInit_second`: what `gpi_ch_init` leaves, for either channel.
* `held_settled`: what is held in every state of these runs.
-/
namespace Sp11Touch.Gpi

/-- One half of a GPII waits for the other, or both run. -/
structure Settled (g : XGpii) : Prop where
  chan : ∀ ch, ((g.gchan ch).pmState = .DISABLE ∧ (g.gchan ch).clientCount = 0 ∧
    (g.gchan ch).configured = false) ∨
    ((g.gchan ch).clientCount = 1 ∧ (g.gchan ch).configured = true ∧
      ((g.gchan ch).pmState = .CONFIG ∧ g.pmState = .DISABLE ∨ (g.gchan ch).pmState = .ACTIVE ∧
      g.pmState = .ACTIVE))
  event : g.pmState = .DISABLE ∧ g.evRing = false ∧ g.configuredIrq = false ∨
    g.pmState = .ACTIVE ∧ g.evRing = true ∧ g.configuredIrq = true ∧
    ∃ ch, (g.gchan ch).pmState = .ACTIVE

/-- The DMA allocations of a GPII. -/
def XGpii.rings (g : XGpii) : Nat := (g.gchan .TX).configured.toNat +
    (g.gchan .RX).configured.toNat + g.evRing.toNat

/-- Every answer is yes. -/
def At (g : XGpii) (k : Nat) (b : Bench) : Prop := b.gpii = g ∧ b.held = k ∧
    ∀ a ∈ b.answers, a = true

def XGpii.setPm (g : XGpii) (ch : Chid) (p : PmState) : XGpii :=
  g.setChan ch { g.gchan ch with pmState := p }

/-- Both channels run. -/
def XGpii.started (g : XGpii) : XGpii where
  gchan ch := { g.gchan ch with pmState := .ACTIVE }
  pmState := .ACTIVE
  evRing := true
  configuredIrq := true

section
variable {g : XGpii} {k : Nat} {ch : Chid}

open Proc

theorem ask_at (e : Errno) : Triple (At g k) (ask e) (fun _ => At g k) (fun _ _ => False) := by
  rintro b ⟨hg, hk, hall⟩
  unfold ask
  cases ha : b.answers with
  | nil => exact ⟨hg, hk, by simp [ha]⟩
  | cons a rest =>
    rw [ha] at hall
    rw [hall a List.mem_cons_self]
    exact ⟨hg, hk, fun a' ha' => hall a' (List.mem_cons_of_mem _ ha')⟩

/-- A change to the GPII, with `n` more allocations. -/
theorem modify_at {f : Bench → Bench} (F : XGpii → XGpii) (n : Nat)
    (hf : ∀ b, f b = ⟨F b.gpii, b.held + n, b.answers⟩) :
    Triple (At g k) (Proc.modify f : Proc Bench Errno Unit)
      (fun _ => At (F g) (k + n)) fun _ _ => False := by
  refine Triple.modify f ?_
  rintro b ⟨rfl, rfl, hall⟩
  rw [hf b]
  exact ⟨rfl, rfl, hall⟩

theorem setChanPm_at (p : PmState) :
    Triple (At g k) (Proc.modify (setChanPm ch p) : Proc Bench Errno Unit)
    (fun _ => At (g.setPm ch p) k)
      fun _ _ => False :=
  modify_at (fun g => g.setPm ch p) 0 fun _ => rfl

theorem startChan_at : Triple (At g k) (startChan ch) (fun _ => At (g.setPm ch .ACTIVE) k)
    (fun _ _ => False) :=
  (ask_at Errno.EIO).bind fun _ => setChanPm_at .ACTIVE

/-- The whole of `gpi_ch_init` past its checks. -/
def XGpii.upTo (g : XGpii) : XGpii :=
  (XGpii.setPm { g with pmState := .ACTIVE, evRing := true, configuredIrq := true } .TX
    .ACTIVE).setPm .RX .ACTIVE

theorem XGpii.upTo_eq (g : XGpii) : g.upTo = g.started := by
  refine XGpii.ext (funext fun ch => ?_) rfl rfl rfl
  cases ch <;> simp [upTo, started, setPm, setChan]

theorem allocEvRing_at : Triple (At g k) allocEvRing (fun _ => At { g with evRing := true } (k + 1))
    fun _ _ => False := by
  unfold allocEvRing
  exact (ask_at ENOMEM).bind fun _ => modify_at (fun g => { g with evRing := true }) 1 fun _ => rfl

theorem configInterrupts_at : Triple (At g k) configInterrupts
    (fun _ => At { g with configuredIrq := true } k)
    fun _ _ => False := by
  unfold configInterrupts
  refine Triple.bind (Triple.gets (Q := fun _ => At g k) _ fun _ hb => hb) fun irq => ?_
  refine Triple.bind (R := fun _ => At g k) (Triple.onlyIf (fun _ => ask_at .EBUSY) fun _ _ h => h)
    fun _ => ?_
  exact modify_at (fun g => { g with configuredIrq := true }) 0 fun _ => rfl

theorem allocEvChan_at : Triple (At g k) allocEvChan (fun _ => At { g with pmState := .ACTIVE } k)
    fun _ _ => False := by
  unfold allocEvChan
  exact (ask_at Errno.EIO).bind fun _ => modify_at (fun g => { g with pmState := .ACTIVE })
    0 fun _ => rfl

/-- What `gpi_ch_init` looks at. -/
theorem gets_at {α : Type} {p : XGpii → Proc Bench Errno α} {Q : α → Bench → Prop}
    {E : Errno → Bench → Prop}
    (h : Triple (At g k) (p g) Q E) : Triple (At g k) (Proc.gets (fun b => b.gpii) >>= p) Q E := by
  intro b hb
  have := h b hb
  rwa [Proc.bind_apply, Proc.gets_apply, hb.1]

/-- The first of two channels. -/
theorem chInit_first (hother : (g.gchan ch.other).pmState ≠ .CONFIG) :
    Triple (At g k) (chInit ch) (fun _ => At (g.setPm ch .CONFIG) k) (fun _ _ => False) := by
  unfold chInit
  refine (setChanPm_at .CONFIG).bind fun _ =>
    gets_at (Triple.ite (fun _ => Triple.pure () fun _ hb => hb) fun hboth => ?_)
  push Not at hboth
  refine absurd ?_ hother
  cases ch with
  | TX => simpa [XGpii.setPm, XGpii.setChan, Chid.other] using hboth.2
  | RX => simpa [XGpii.setPm, XGpii.setChan, Chid.other] using hboth.1

/-- The second of two channels. -/
theorem chInit_second (hother : (g.gchan ch.other).pmState = .CONFIG)
    (hproto : (g.gchan .TX).protocol = (g.gchan .RX).protocol) :
    Triple (At g k) (chInit ch) (fun _ => At g.started (k + 1)) (fun _ _ => False) := by
  have hboth : ∀ c, ((g.setPm ch .CONFIG).gchan c).pmState = .CONFIG := by
    intro c
    cases c <;> cases ch <;> simp_all [XGpii.setPm, XGpii.setChan, Chid.other]
  have hp : ∀ c, ((g.setPm ch .CONFIG).gchan c).protocol = (g.gchan c).protocol := by
    intro c
    cases c <;> cases ch <;> simp [XGpii.setPm, XGpii.setChan]
  have hstarted : (g.setPm ch .CONFIG).started = g.started := by
    refine XGpii.ext (funext fun c => ?_) rfl rfl rfl
    cases c <;> cases ch <;> simp [XGpii.started, XGpii.setPm, XGpii.setChan]
  rw [← hstarted, ← XGpii.upTo_eq]
  unfold chInit
  refine (setChanPm_at .CONFIG).bind fun _ => gets_at (Triple.ite (fun hc => ?_) fun _ => ?_)
  · rw [hboth, hboth] at hc
    simp at hc
  refine Triple.bind_errorIf (fun b hc hb => ?_) fun _ => ?_
  · rw [hp, hp, hproto] at hc
    simp at hc
  refine allocEvRing_at.bind fun _ => ?_
  refine Triple.onError (E := fun _ _ => False) ?_ fun _ _ h => h.elim
  refine (modify_at (fun g => { g with pmState := .PREPARE_HARDWARE }) 0 fun _ => rfl).bind fun _ =>
    ?_
  refine configInterrupts_at.bind fun _ => ?_
  refine Triple.onError (E := fun _ _ => False) ?_ fun _ _ h => h.elim
  exact allocEvChan_at.bind fun _ => (ask_at Errno.EIO).bind fun _ =>
    (ask_at Errno.EIO).bind fun _ =>
    startChan_at.bind fun _ => startChan_at

def XGpii.withRing (g : XGpii) (ch : Chid) : XGpii :=
  g.setChan ch { g.gchan ch with configured := true }

theorem allocChRing_at : Triple (At g k) (allocChRing ch)
    (fun _ => At (g.withRing ch) (k + 1)) fun _ _ => False := by
  unfold allocChRing
  exact (ask_at ENOMEM).bind fun _ => modify_at (fun g => g.withRing ch) 1 fun _ => rfl

theorem withRing_other : (g.withRing ch).gchan ch.other = g.gchan ch.other := by
  cases ch <;> simp [XGpii.withRing, XGpii.setChan, Chid.other]

theorem withRing_protocol (c : Chid) : ((g.withRing ch).gchan c).protocol =
    (g.gchan c).protocol := by
  cases c <;> cases ch <;> simp [XGpii.withRing, XGpii.setChan]

theorem alloc_first (hother : (g.gchan ch.other).pmState ≠ .CONFIG) :
    Triple (At g k) (allocChanResources ch) (fun _ => At ((g.withRing ch).setPm ch .CONFIG) (k + 1))
    (fun _ _ => False) :=
  allocChRing_at.bind fun _ => chInit_first (by rwa [withRing_other])

theorem alloc_second (hother : (g.gchan ch.other).pmState = .CONFIG)
    (hproto : (g.gchan .TX).protocol = (g.gchan .RX).protocol) :
    Triple (At g k) (allocChanResources ch) (fun _ => At (g.withRing ch).started (k + 2))
      (fun _ _ => False) :=
  allocChRing_at.bind fun _ =>
    chInit_second (by rwa [withRing_other]) (by rw [withRing_protocol, withRing_protocol, hproto])

/-- No memory for the transfer ring. -/
theorem alloc_refused {c : Chid} {b : Bench} (h : b.answers.head? = some false) :
    ∃ rest, allocChanResources c b = ({ b with answers := rest }, .error ENOMEM) := by
  obtain ⟨g, k, answers⟩ := b
  cases answers with
  | nil => cases h
  | cons a rest =>
    cases Option.some.inj h
    exact ⟨rest, rfl⟩

end

/-! ## Settled GPIIs -/

section
variable {g : XGpii} {ch : Chid}

theorem forall_chid {p : Chid → Prop} (ch : Chid) (h : p ch) (ho : p ch.other)
    (c : Chid) : p c := by
  cases c <;> cases ch <;> assumption

/-- A GPII with a free channel. -/
theorem Settled.closed (h : Settled g) (ho : (g.gchan ch).open = false) :
    (g.gchan ch).pmState = .DISABLE ∧ (g.gchan ch).configured = false := by
  have h0 := XChan.count_of_closed ho
  rcases h.chan ch with hc | hc
  · exact ⟨hc.1, hc.2.2⟩
  · rw [h0] at hc
    exact absurd hc.1 (by decide)

/-- Unless a channel runs, there is no event ring. -/
theorem Settled.quiet (h : Settled g) (hc : ∀ c, (g.gchan c).pmState ≠ .ACTIVE) :
    g.pmState = .DISABLE ∧ g.evRing = false ∧ g.configuredIrq = false := by
  rcases h.event with he | ⟨_, _, _, c, hact⟩
  · exact he
  · exact absurd hact (hc c)

theorem setChan_self (c : XChan) : (g.setChan ch c).gchan ch = c := by simp [XGpii.setChan]

theorem setChan_other (c : XChan) : (g.setChan ch c).gchan ch.other = g.gchan ch.other := by
  cases ch <;> simp [XGpii.setChan, Chid.other]

theorem rings_eq (g : XGpii) (ch : Chid) :
    g.rings = (g.gchan ch).configured.toNat + (g.gchan ch.other).configured.toNat +
    g.evRing.toNat := by
  cases ch
  · rfl
  · exact congrArg (· + g.evRing.toNat) (Nat.add_comm _ _)

/-- Only the name of the engine has changed. -/
theorem Settled.renamed (h : Settled g) {c : XChan} (hpm : c.pmState = (g.gchan ch).pmState)
    (hcc : c.clientCount = (g.gchan ch).clientCount)
    (hcf : c.configured = (g.gchan ch).configured) :
    Settled (g.setChan ch c) ∧ (g.setChan ch c).rings = g.rings := by
  refine ⟨⟨forall_chid ch ?_ ?_, ?_⟩, ?_⟩
  · rw [setChan_self, hpm, hcc, hcf]; exact h.chan ch
  · rw [setChan_other]; exact h.chan ch.other
  · rcases h.event with he | ⟨h1, h2, h3, hact⟩
    · exact .inl he
    · refine .inr ⟨h1, h2, h3, ?_⟩
      obtain ⟨c', hc'⟩ := hact
      revert hc'
      refine forall_chid (p := fun c' => (g.gchan c').pmState = .ACTIVE → _) ch
        (fun hc' => ?_) (fun hc' => ?_) c'
      · exact ⟨ch, by rw [setChan_self, hpm, hc']⟩
      · exact ⟨ch.other, by rw [setChan_other, hc']⟩
  · rw [rings_eq _ ch, rings_eq g ch, setChan_self, setChan_other, hcf]
    rfl

/-- The first channel waits. -/
theorem Settled.waiting (ch : Chid) (h : Settled g) (hpm : ∀ c, (g.gchan c).pmState ≠ .ACTIVE)
    {c : XChan}
    (hfree : (g.gchan ch).configured = false)
      (hc : c.pmState = .CONFIG ∧ c.clientCount = 1 ∧ c.configured = true) :
    Settled (g.setChan ch c) ∧ (g.setChan ch c).rings = g.rings + 1 := by
  have hq := h.quiet hpm
  refine ⟨⟨forall_chid ch ?_ ?_, .inl hq⟩, ?_⟩
  · rw [setChan_self]
    exact .inr ⟨hc.2.1, hc.2.2, .inl ⟨hc.1, hq.1⟩⟩
  · rw [setChan_other]; exact h.chan ch.other
  · rw [rings_eq _ ch, rings_eq g ch, setChan_self, setChan_other, hc.2.2, hfree]
    simp only [Bool.toNat_true, Bool.toNat_false, XGpii.setChan]
    omega

/-- Both channels run. -/
theorem Settled.run (ch : Chid) (h : Settled g) {g' : XGpii}
    (hev : g'.pmState = .ACTIVE ∧ g'.evRing = true ∧ g'.configuredIrq = true)
    (hold : g.evRing = false) (hother : (g.gchan ch.other).pmState = .CONFIG)
      (hfree : (g.gchan ch).configured = false)
    (hch : ∀ c, (g'.gchan c).pmState = .ACTIVE ∧ (g'.gchan c).clientCount = 1 ∧
      (g'.gchan c).configured = true) :
    Settled g' ∧ g'.rings = g.rings + 2 := by
  refine ⟨⟨fun c => .inr ⟨(hch c).2.1, (hch c).2.2, .inr ⟨(hch c).1, hev.1⟩⟩,
    .inr ⟨hev.1, hev.2.1, hev.2.2, .TX, (hch .TX).1⟩⟩, ?_⟩
  have ho : (g.gchan ch.other).configured = true := by
    rcases h.chan ch.other with hc | hc
    · rw [hc.1] at hother
      cases hother
    · exact hc.2.1
  simp [rings_eq g' ch, rings_eq g ch, hch, hev.2.1, hold, hfree, ho]

/-- The last client of a channel has left. -/
def XGpii.vacated (g : XGpii) (ch : Chid) : XGpii :=
  g.setChan ch { g.gchan ch with clientCount := (g.gchan ch).clientCount - 1 }

def XGpii.cleared (g : XGpii) (ch : Chid) : XGpii :=
  g.setChan ch { g.gchan ch with clientCount := 0, configured := false, pmState := .DISABLE }

theorem freeChRing_apply {k : Nat} {answers : List Bool} (h1 : (g.gchan ch).clientCount = 1)
    (hc : (g.gchan ch).configured = true) :
    setChanPm ch .DISABLE (freeChRing ch (setChanPm ch .PREPARE_TERMINATE
      ⟨g.vacated ch, k + 1, answers⟩)) =
      ⟨g.cleared ch, k, answers⟩ := by
  simp [setChanPm, freeChRing, Bench.setChan, XGpii.setChan, XGpii.vacated, XGpii.cleared, h1, hc]

/-- The event ring is there exactly while the GPII runs. -/
theorem freeGpii_apply {k : Nat} {answers : List Bool}
    (h : g.pmState = .DISABLE ∧ g.evRing = false ∧ g.configuredIrq = false ∨
      g.pmState = .ACTIVE ∧ g.evRing = true ∧ g.configuredIrq = true) :
    freeGpii ⟨g, k + g.evRing.toNat, answers⟩ =
      ⟨{ g with pmState := .DISABLE, evRing := false, configuredIrq := false }, k, answers⟩ := by
  rcases h with ⟨h1, h2, h3⟩ | ⟨h1, h2, h3⟩
  · simp [freeGpii, freeEvRing, setGpiiPm, h1, h2, h3]
  · simp [freeGpii, freeEvRing, setGpiiPm, disableInterrupts, h1, h2]

/-- What is left of a GPII when a channel was released. -/
theorem free_settled (h : Settled g) (h1 : (g.gchan ch).clientCount = 1) {k : Nat}
    (answers : List Bool) :
    ∃ g', freeChanResources ch ⟨g.vacated ch, k + g.rings, answers⟩ = ⟨g', k + g'.rings, answers⟩ ∧ Settled g' := by
  have hc : (g.gchan ch).configured = true := by
    rcases h.chan ch with hc | hc
    · rw [hc.2.1] at h1
      cases h1
    · exact hc.2.1
  have hsplit : k + g.rings = (k + (g.gchan ch.other).configured.toNat + g.evRing.toNat) + 1 := by
    rw [rings_eq g ch, hc, Bool.toNat_true]
    omega
  have hself : (g.cleared ch).gchan ch = { g.gchan ch with clientCount := 0, configured := false, pmState := .DISABLE } :=
    setChan_self _
  have hother : (g.cleared ch).gchan ch.other = g.gchan ch.other := setChan_other _
  have hany : (((g.cleared ch).gchan .TX).configured || ((g.cleared ch).gchan .RX).configured) =
      (g.gchan ch.other).configured := by
    cases ch <;> simp [XGpii.cleared, XGpii.setChan, Chid.other]
  unfold freeChanResources
  simp only [hsplit, freeChRing_apply h1 hc, hany]
  cases ho : (g.gchan ch.other).configured with
  | true =>
    refine ⟨g.cleared ch, ?_, forall_chid ch ?_ ?_, ?_⟩
    · rw [if_pos rfl, rings_eq (g.cleared ch) ch, hself, hother, ho]
      simp [XGpii.cleared, XGpii.setChan, Nat.add_assoc]
    · rw [hself]; exact .inl ⟨rfl, rfl, rfl⟩
    · rw [hother]; exact h.chan ch.other
    · rcases h.event with he | ⟨he1, he2, he3, _⟩
      · exact .inl he
      · refine .inr ⟨he1, he2, he3, ch.other, ?_⟩
        rw [hother]
        rcases h.chan ch.other with hoc | ⟨_, _, hp | hp⟩
        · rw [hoc.2.2] at ho; cases ho
        · rw [he1] at hp; cases hp.2
        · exact hp.1
  | false =>
    have hev : (g.cleared ch).pmState = .DISABLE ∧ (g.cleared ch).evRing = false ∧
      (g.cleared ch).configuredIrq = false ∨
        (g.cleared ch).pmState = .ACTIVE ∧ (g.cleared ch).evRing = true ∧
        (g.cleared ch).configuredIrq = true := by
      rcases h.event with he | ⟨he1, he2, he3, _⟩
      · exact .inl he
      · exact .inr ⟨he1, he2, he3⟩
    refine ⟨{ g.cleared ch with pmState := .DISABLE, evRing := false, configuredIrq := false }, ?_,
      forall_chid ch ?_ ?_, ?_⟩
    · rw [if_neg (by simp)]
      refine (freeGpii_apply (k := k) hev).trans ?_
      rw [rings_eq _ ch]
      simp [hself, hother, ho]
    · exact .inl (by simp [hself])
    · refine .inl ?_
      simp only [hother]
      rcases h.chan ch.other with hoc | hoc
      · exact hoc
      · rw [hoc.2.1] at ho; cases ho
    · exact .inl ⟨rfl, rfl, rfl⟩

/-- A client more. -/
def XGpii.joined (g : XGpii) (ch : Chid) : XGpii :=
  g.setChan ch { g.gchan ch with clientCount := (g.gchan ch).clientCount + 1 }

/-- The GPII with the name of the engine that asks. -/
def XGpii.named (g : XGpii) (ch : Chid) (seid protocol : Nat) : XGpii :=
  g.setChan ch { g.gchan ch with seid := seid, protocol := protocol }

/-- What is left of a GPII when a channel was asked for. -/
theorem alloc_settled (h : Settled g) (hfree : (g.gchan ch).open = false)
    (hrun : (g.gchan ch.other).pmState ≠ .ACTIVE)
    {k protocol : Nat} {answers : List Bool} (s : Nat) (hans : answers.head? = some false ∨
      (∀ a ∈ answers, a = true) ∧ ((g.gchan ch.other).pmState = .CONFIG →
      (g.gchan ch.other).protocol = protocol)) :
    match allocChanResources ch ⟨g.named ch s protocol, k + g.rings, answers⟩ with
    | (b, .error _) => Settled b.gpii ∧ b.held = k + b.gpii.rings
    | (b, .ok _) => Settled (b.gpii.joined ch) ∧ b.held = k + (b.gpii.joined ch).rings := by
  obtain ⟨hpm, hcf⟩ := h.closed hfree
  have h0 := XChan.count_of_closed hfree
  have hname : Settled (g.named ch s protocol) ∧ (g.named ch s protocol).rings = g.rings :=
    h.renamed rfl rfl rfl
  have hself : (g.named ch s protocol).gchan ch =
    { g.gchan ch with seid := s, protocol := protocol } :=
    setChan_self _
  have hother : (g.named ch s protocol).gchan ch.other = g.gchan ch.other := setChan_other _
  rw [← hname.2]
  generalize g.named ch s protocol = g0 at *
  rcases hans with hno | ⟨hyes, hproto⟩
  · obtain ⟨rest, he⟩ := alloc_refused (c := ch) (b := ⟨g0, k + g0.rings, answers⟩) hno
    rw [he]
    exact ⟨hname.1, rfl⟩
  · have hat : At g0 (k + g0.rings) ⟨g0, k + g0.rings, answers⟩ := ⟨rfl, rfl, hyes⟩
    by_cases hwait : (g.gchan ch.other).pmState = .CONFIG
    · -- the other channel has been waiting for this one
      have hp : ∀ c, (g0.gchan c).protocol = protocol :=
        forall_chid ch (by rw [hself]) (by rw [hother, hproto hwait])
      have hspec := alloc_second (k := k + g0.rings) (hother ▸ hwait)
        ((hp .TX).trans (hp .RX).symm) _ hat
      revert hspec
      cases allocChanResources ch ⟨g0, k + g0.rings, answers⟩ with
      | mk b r => cases r with
        | error e => exact False.elim
        | ok _ =>
          rintro ⟨hb, hk, -⟩
          have hoc : (g.gchan ch.other).clientCount = 1 ∧ (g.gchan ch.other).configured = true := by
            rcases h.chan ch.other with hc | hc
            · rw [hc.1] at hwait; cases hwait
            · exact ⟨hc.1, hc.2.1⟩
          have hact : ∀ c, (g.gchan c).pmState ≠ .ACTIVE := forall_chid ch (by simp [hpm]) hrun
          have hsettled : Settled (b.gpii.joined ch) ∧ (b.gpii.joined ch).rings = g0.rings + 2 := by
            refine hname.1.run ch ?_ ?_ (hother ▸ hwait) (by rw [hself, hcf]) (forall_chid ch ?_ ?_)
            · rw [hb]; exact ⟨rfl, rfl, rfl⟩
            · exact (hname.1.quiet (forall_chid ch (by simp [hself, hpm])
                (by rw [hother]; exact hrun))).2.1
            · rw [XGpii.joined, setChan_self, hb]
              simp [XGpii.started, XGpii.withRing, setChan_self, hself, h0]
            · rw [XGpii.joined, setChan_other, hb]
              simp [XGpii.started, withRing_other, hother, hoc]
          exact ⟨hsettled.1, by rw [hk, hsettled.2]; omega⟩
    · have hspec := alloc_first (k := k + g0.rings) (hother ▸ hwait) _ hat
      revert hspec
      cases allocChanResources ch ⟨g0, k + g0.rings, answers⟩ with
      | mk b r => cases r with
        | error e => exact False.elim
        | ok _ =>
          rintro ⟨hb, hk, -⟩
          have heq : b.gpii.joined ch = g0.setChan ch { g0.gchan ch with
              configured := true, pmState := .CONFIG, clientCount :=
                (g0.gchan ch).clientCount + 1 } := by
            rw [hb]
            simp [XGpii.joined, XGpii.setPm, XGpii.withRing, XGpii.setChan]
          have hsettled := hname.1.waiting ch (c := { g0.gchan ch with
              configured := true, pmState := .CONFIG, clientCount :=
                (g0.gchan ch).clientCount + 1 })
            (forall_chid ch (by simp [hself, hpm]) (by rw [hother]; exact hrun))
              (by rw [hself, hcf])
            ⟨rfl, by simp [hself, h0], rfl⟩
          rw [← heq] at hsettled
          exact ⟨hsettled.1, by rw [hk, hsettled.2]; omega⟩

end

/-! ## Runs -/

/-- The other channel of the GPII does not run yet, and what is asked of the
system is granted; or there is no memory for the transfer ring. -/
def Orderly (s : XlateSys) : XlateLabel → Prop
  | .take answers => match s.lookup with
    | none => True
    | some l =>
      let other := (s.dev.gpiis l.gpii).gchan l.chid.other
      other.pmState ≠ .ACTIVE ∧ (answers.head? = some false ∨
        (∀ a ∈ answers, a = true) ∧ (other.pmState = .CONFIG → other.protocol = l.protocol))
  | _ => True

instance (s : XlateSys) (l : XlateLabel) : Decidable (Orderly s l) := by
  cases l with
  | take answers => unfold Orderly; cases s.lookup <;> infer_instance
  | find | release => exact isTrue trivial

structure HeldInv (s : XlateSys) : Prop where
  leases : XlateInv s
  settled : ∀ n, Settled (s.dev.gpiis n)
  held : s.held = ∑ n ∈ Finset.range s.dev.maxGpii, (s.dev.gpiis n).rings

section
variable {d : GpiDev} {n : Nat} {g : XGpii}

theorem sum_setGpii (hn : d.usable n = true) :
    ∃ k, ∑ m ∈ Finset.range d.maxGpii, (d.gpiis m).rings = k + (d.gpiis n).rings ∧
    ∑ m ∈ Finset.range (d.setGpii n g).maxGpii, ((d.setGpii n g).gpiis m).rings = k + g.rings := by
  have hmem : n ∈ Finset.range d.maxGpii := by
    simp only [GpiDev.usable, Bool.and_eq_true, decide_eq_true_eq] at hn
    exact Finset.mem_range.mpr hn.1
  refine ⟨∑ m ∈ (Finset.range d.maxGpii).erase n, (d.gpiis m).rings, ?_, ?_⟩
  · exact (Finset.sum_erase_add _ _ hmem).symm
  · refine (Finset.sum_erase_add _ _ hmem).symm.trans ?_
    have hsame : ∀ m ∈ (Finset.range d.maxGpii).erase n, ((d.setGpii n g).gpiis m).rings =
      (d.gpiis m).rings := by
      intro m hm
      simp [GpiDev.setGpii, Finset.ne_of_mem_erase hm]
    rw [Finset.sum_congr rfl hsame]
    simp [GpiDev.setGpii]

theorem settled_setGpii (h : ∀ m, Settled (d.gpiis m)) (hg : Settled g) (m : Nat) :
    Settled ((d.setGpii n g).gpiis m) := by
  unfold GpiDev.setGpii
  by_cases hm : m = n
  · subst hm; simpa using hg
  · simpa [hm] using h m

end

theorem xlateTake_held {s : XlateSys} (h : HeldInv s) {l : Lookup} (hl : s.lookup = some l)
    {answers : List Bool}
    (ho : Orderly s (.take answers)) : HeldInv (xlateTake l answers s) := by
  have hinv := xlateTake_inv h.leases hl answers
  obtain ⟨hfit, hu⟩ := h.leases.fits l hl
  simp only [Orderly, hl] at ho
  revert hinv
  unfold xlateTake
  simp only
  cases hopen : ((s.dev.gpiis l.gpii).gchan l.chid).open with
  | true =>
    rw [if_pos rfl]
    exact fun hinv => ⟨hinv, h.settled, h.held⟩
  | false =>
    rw [if_neg (by simp)]
    obtain ⟨k, hk, -⟩ := sum_setGpii (d := s.dev) (g := s.dev.gpiis l.gpii) hu
    have hspec := alloc_settled (h.settled l.gpii) hopen ho.1 (k := k) l.seid ho.2
    rw [← hk, ← h.held] at hspec
    revert hspec
    unfold XGpii.named
    cases allocChanResources l.chid ⟨(s.dev.gpiis l.gpii).setChan l.chid
      { (s.dev.gpiis l.gpii).gchan l.chid with seid := l.seid, protocol := l.protocol },
      s.held, answers⟩ with
    | mk b r =>
      cases r with
      | error e =>
        rintro ⟨hset, hheld⟩ hinv
        obtain ⟨k', hk', hsum⟩ := sum_setGpii (d := s.dev) (g := b.gpii) hu
        refine ⟨hinv, settled_setGpii h.settled hset, ?_⟩
        change b.held = _
        rw [hsum, hheld]
        omega
      | ok _ =>
        rintro ⟨hset, hheld⟩ hinv
        obtain ⟨k', hk', hsum⟩ := sum_setGpii (d := s.dev) (g := b.gpii.joined l.chid) hu
        refine ⟨hinv, settled_setGpii h.settled hset, ?_⟩
        change b.held = _
        rw [hheld]
        refine Eq.trans ?_ hsum.symm
        omega

theorem xlateRelease_held {s : XlateSys} (h : HeldInv s) {a : Lease Nat Chid Nat}
    (ha : a ∈ s.leases) :
    HeldInv (xlateRelease a s) := by
  have hinv := xlateRelease_inv h.leases ha
  have h1 := h.leases.count_of_lease ha
  have hu := h.leases.seats.usable a ha
  obtain ⟨k, hk, -⟩ := sum_setGpii (d := s.dev) (g := s.dev.gpiis a.place) hu
  obtain ⟨g', hg', hset⟩ := free_settled (h.settled a.place) h1 (k := k) []
  rw [← hk, ← h.held] at hg'
  unfold XGpii.vacated at hg'
  revert hinv
  unfold xlateRelease
  simp only [h1, Nat.sub_self, if_true] at hg' ⊢
  rw [hg']
  intro hinv
  obtain ⟨k', hk', hsum⟩ := sum_setGpii (d := s.dev) (g := g') hu
  refine ⟨hinv, settled_setGpii h.settled hset, ?_⟩
  change k + g'.rings = _
  rw [hsum]
  omega

theorem settled_fresh : Settled {} := by
  refine ⟨fun ch => .inl ⟨rfl, rfl, rfl⟩, .inl ⟨rfl, rfl, rfl⟩⟩

theorem heldInv_inductive : (xlateSystem.restrict Orderly).Inductive HeldInv where
  init s hs := by
    have hinv := xlateInv_inductive.init s hs
    obtain ⟨maxGpii, gpiiMask, rfl⟩ := hs
    exact ⟨hinv, fun _ => settled_fresh, by simp [XGpii.rings]⟩
  step s lab t h hst := by
    have hinv := xlateInv_inductive.step s lab t h.leases hst.1
    have hstep : xlateStep s lab = some t := hst.1
    cases lab with
    | find args =>
      simp only [xlateStep] at hstep
      split at hstep
      · cases hstep
      · cases hstep
        exact ⟨hinv, h.settled, h.held⟩
    | take answers =>
      obtain ⟨l, hl, rfl⟩ := Option.map_eq_some_iff.mp hstep
      exact xlateTake_held h hl hst.2
    | release a =>
      simp only [xlateStep] at hstep
      split at hstep
      · next ha =>
        cases hstep
        exact xlateRelease_held h ha
      · cases hstep

/-- In an orderly run a channel has its ring exactly while it has a client, the
event ring and the interrupt are there exactly while a channel runs, and no DMA
memory is held but theirs; so when every client has left, nothing is held. -/
theorem held_settled {s0 s : XlateSys} {ls : List XlateLabel} (h0 : xlateSystem.init s0)
    (hr : xlateSystem.RunMeets Orderly s0 ls s) :
    (∀ n ch, (s.dev.chan n ch).configured = (s.dev.chan n ch).open) ∧
    (∀ n, (s.dev.gpiis n).evRing = true ↔ ∃ ch, (s.dev.chan n ch).pmState = .ACTIVE) ∧
    (∀ n, (s.dev.gpiis n).configuredIrq = (s.dev.gpiis n).evRing) ∧
    s.held = ∑ n ∈ Finset.range s.dev.maxGpii, (s.dev.gpiis n).rings ∧
    (s.leases = [] → s.held = 0) := by
  have h := heldInv_inductive.run (LTS.run_restrict hr) (heldInv_inductive.init s0 h0)
  have hring : ∀ n ch, (s.dev.chan n ch).configured = (s.dev.chan n ch).open := by
    intro n ch
    rcases (h.settled n).chan ch with hc | hc
    · simp [GpiDev.chan, XChan.open, hc.2.1, hc.2.2]
    · simp [GpiDev.chan, XChan.open, hc.1, hc.2.1]
  refine ⟨hring, fun n => ?_, fun n => ?_, h.held, fun hno => ?_⟩
  · rcases (h.settled n).event with he | he
    · refine iff_of_false (by simp [he.2.1]) ?_
      rintro ⟨ch, hact⟩
      rcases (h.settled n).chan ch with hc | ⟨_, _, hc | hc⟩
      · rw [GpiDev.chan, hc.1] at hact; cases hact
      · rw [GpiDev.chan, hc.1] at hact; cases hact
      · rw [he.1] at hc; cases hc.2
    · exact iff_of_true he.2.1 he.2.2.2
  · rcases (h.settled n).event with he | he
    · rw [he.2.1, he.2.2]
    · rw [he.2.1, he.2.2.1]
  · rw [h.held]
    refine Finset.sum_eq_zero fun n _ => ?_
    have hclosed : ∀ ch, (s.dev.chan n ch).open = false := by
      refine fun ch => Bool.eq_false_iff.mpr fun ho => ?_
      obtain ⟨a, ha, _⟩ := (h.leases.seats.open_iff n ch).mp ho
      rw [hno] at ha
      cases ha
    have hoff : ∀ ch, ((s.dev.gpiis n).gchan ch).configured = false :=
      fun ch => (hring n ch).trans (hclosed ch)
    have hev : (s.dev.gpiis n).evRing = false := by
      refine ((h.settled n).quiet fun ch hact => ?_).2.1
      rw [((h.settled n).closed (hclosed ch)).1] at hact
      cases hact
    simp [XGpii.rings, hoff, hev]

/-- The first request finds no memory; later both channels run and are released. -/
def releasedRun : List XlateLabel :=
  [.find [0, 7, 9], .take [false], .find [0, 7, 9], .take [true], .find [1, 7, 9],
    .take [true, true, true, true],
    .release ⟨0, .TX, 7⟩, .release ⟨0, .RX, 7⟩]

theorem held_settled_released : ∃ s, xlateSystem.Reachable s ∧ s.leases = [] ∧ s.held = 0 := by
  have hrun : (LTS.exec xlateStep Orderly { dev := { maxGpii := 1, gpiiMask := 1 } }
    releasedRun).any
      (fun s => s.leases == []) = true := by decide +kernel
  obtain ⟨s, hs, hp⟩ := (Option.any_eq_true _ _).mp hrun
  have hr : xlateSystem.RunMeets Orderly _ _ _ := LTS.runMeets_of_exec hs
  have hno : s.leases = [] := by simpa using hp
  exact ⟨s, ⟨_, _, ⟨1, 1, rfl⟩, hr.run⟩, hno, (held_settled ⟨1, 1, rfl⟩ hr).2.2.2.2 hno⟩

end Sp11Touch.Gpi
