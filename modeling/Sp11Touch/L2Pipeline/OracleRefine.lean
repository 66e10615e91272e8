import Sp11Touch.L2Pipeline.AssignOptimal
import Sp11Touch.L2Pipeline.Evidence
import Sp11Touch.L2Pipeline.FilterLaw
import Sp11Touch.L2Pipeline.OracleMatch
/-!
# The frame transaction against the reference tracker

Both trackers get the same contacts. `Mirrors` compares one slot of the two;
`StepOk` is what a frame must meet for them to stay together: the pairing
that is best for the kernel's distance (the root rounded down, gated before
the root) is also the one best for the reference's (the root rounded to the
nearest, gated after it), and no track that coasts has a negative odd
velocity, which `/=` halves towards zero and `//=` downwards.

**Result.** `run_same`: while the frames meet it, the tracks and the reported
contacts are the same after every frame. `coasting_differs` is a run of three
frames that ends with different velocities.
-/
namespace Sp11Touch
open CInt

/-- The contacts of a frame: few, of an allowed shape, inside the logical range. -/
structure Sampled where
  contacts : List Contact
  few : contacts.length ≤ maxContacts
  allowed : ∀ c ∈ contacts, c.shapeAllowed = true
  inRange : ∀ c ∈ contacts, c.x ≤ logicalMax ∧ c.y ≤ logicalMax

/-- What the reference tracker reads of a contact. -/
def Contact.measurement (c : Contact) : Oracle.Measurement := ⟨c.x, c.y, c.pixels, c.strength⟩

def Sampled.samples (f : Sampled) : List Oracle.Measurement := f.contacts.map Contact.measurement

/-- The contacts as the search leaves them. -/
def Heat.withContacts (ts : Heat) (f : Sampled) : Heat :=
  { ts with contacts := fun i => f.contacts.getD i (ts.contacts i) }

/-- The frame transaction of the default profile. -/
def kernelFrame (ts : Heat) (f : Sampled) : Heat × Report :=
  trackContacts ⟨false, false⟩ (ts.withContacts f, f.contacts.length)

/-! ## The comparison -/

/-- The fields compared, of one slot. -/
structure Mirrors (slot : Slot) (k : Track) (o : Oracle.Track) : Prop where
  slot : o.slot = slot
  rawX : o.rawX = k.rawX
  rawY : o.rawY = k.rawY
  outputX : o.outputX = k.outputX
  outputY : o.outputY = k.outputY
  velocityX : o.velocityX = k.velocityX
  velocityY : o.velocityY = k.velocityY
  missed : o.missed = k.missed
  evidence : o.evidence = k.evidence
  requiredEvidence : o.requiredEvidence = k.requiredEvidence
  confirmed : o.confirmed = k.confirmed

/-- The same slots hold the same tracks. -/
def SameTracks (tracks : Slot → Track) (oracle : Oracle.Tracks) : Prop := ∀ slot,
  match oracle slot with
  | none => (tracks slot).active = false
  | some o => (tracks slot).active = true ∧ Mirrors slot (tracks slot) o

/-- The same contacts are reported. -/
def SameReport (r : Report) (out : List Oracle.TrackedContact) : Prop :=
  r.reported = out.map fun c => (c.slot, c.x, c.y)

/-- After every frame of the run. -/
def RunSame : Heat → Oracle.Tracks → List Sampled → Prop
  | _, _, [] => True
  | ts, oracle, f :: rest =>
    SameTracks (kernelFrame ts f).1.tracks (Oracle.update oracle f.samples).1 ∧
      SameReport (kernelFrame ts f).2 (Oracle.update oracle f.samples).2 ∧
      RunSame (kernelFrame ts f).1 (Oracle.update oracle f.samples).1 rest

/-- The only best pairing of the kernel's distances. -/
def KernelBest (ts : Heat) (f : Sampled) (q : Nat → Option Slot) : Prop :=
  Pairs.Unique (Gate ⟨false, false⟩ (ts.withContacts f))
    (slotCost ⟨false, false⟩ (ts.withContacts f))
    f.contacts.length q

/-- The only best pairing of the reference's distances. -/
def OracleBest (oracle : Oracle.Tracks) (f : Sampled) (q : Nat → Option Slot) : Prop :=
  Pairs.Unique (Oracle.Gate oracle f.samples) (Oracle.slotCost oracle f.samples) f.contacts.length q

/-- Rounding half of it towards zero and downwards is the same. -/
def HalvesAlike (v : Int) : Prop := 0 ≤ v ∨ v % 2 = 0

/-- One frame: one pairing is best for both, and the tracks it leaves to coast halve alike. -/
def StepOk (ts : Heat) (oracle : Oracle.Tracks) (f : Sampled) : Prop :=
  ∃ q, KernelBest ts f q ∧ OracleBest oracle f q ∧ ∀ slot, (∀ i, q i ≠ some slot) →
    (ts.tracks slot).active = true → (ts.tracks slot).missed < contactHoldFrames →
    HalvesAlike (ts.tracks slot).velocityX ∧ HalvesAlike (ts.tracks slot).velocityY

/-- Every frame of the run. -/
def RunOk : Heat → Oracle.Tracks → List Sampled → Prop
  | _, _, [] => True
  | ts, oracle, f :: rest =>
    StepOk ts oracle f ∧ RunOk (kernelFrame ts f).1 (Oracle.update oracle f.samples).1 rest

/-! ## One track -/

/-- What the trackers keep beside the comparison. -/
structure Linked (slot : Slot) (k : Track) (o : Oracle.Track) : Prop where
  active : k.active = true
  mirrors : Mirrors slot k o
  pixels : o.pixels = k.pixels
  strength : o.strength = k.strength
  state : o.state = if k.missed = 0 then .active else .coasting
  raw : k.rawX ≤ logicalMax ∧ k.rawY ≤ logicalMax
  output : k.outputX ≤ logicalMax ∧ k.outputY ≤ logicalMax
  required : k.requiredEvidence ≤ trackConfirmSplit
  waiting : k.confirmed = false → k.evidence < k.requiredEvidence

/-- `Linked` where the reference has a track, no track elsewhere. -/
def LinkedSlot (slot : Slot) (k : Track) : Option Oracle.Track → Prop
  | none => k.active = false
  | some o => Linked slot k o

def LinkedAll (tracks : Slot → Track) (oracle : Oracle.Tracks) : Prop :=
  ∀ slot, LinkedSlot slot (tracks slot) (oracle slot)

theorem LinkedAll.same {tracks : Slot → Track} {oracle : Oracle.Tracks}
    (h : LinkedAll tracks oracle) :
    SameTracks tracks oracle := by
  intro slot
  have hs := h slot
  cases ho : oracle slot with
  | none => rw [ho] at hs; exact hs
  | some o => rw [ho] at hs; exact ⟨hs.active, hs.mirrors⟩

theorem filterCoordinate_smooth {previous sample : Nat} (hp : previous ≤ logicalMax)
    (hs : sample ≤ logicalMax) :
    filterCoordinate previous sample = Oracle.smooth previous sample ∧
      filterCoordinate previous sample ≤ logicalMax :=
  ⟨filterCoordinate_eq_smooth (hp.trans_lt (by decide)) (hs.trans_lt (by decide)), (filterCoordinate_fits hp hs).2.2⟩

/-- A track that ageing keeps has missed the frame. -/
theorem advanceTrack_missed {k : Track} (h : (advanceTrack false k).active = true) :
    (advanceTrack false k).missed ≠ 0 := by
  unfold advanceTrack at h ⊢
  split
  · next ha => simp only [ha, if_true] at h; simp [h] at ha
  · split <;> simp_all [Track.zero]

theorem halve_eq {v : Int} (h : HalvesAlike v) : v / 2 = v.tdiv 2 := by
  unfold HalvesAlike at h
  rcases h with h | h
  · rw [Int.tdiv_eq_ediv_of_nonneg h]
  · rw [Int.tdiv_eq_ediv_of_dvd (Int.dvd_of_emod_eq_zero h)]

/-- Evidence of an allowed contact, below the counter's limit. -/
theorem addEvidence_eq {k : Track} {c : Contact} (hall : c.shapeAllowed = true)
    (hlt : k.confirmed = false → k.evidence < 255) : addEvidence k c =
      { k with
        evidence := if !k.confirmed then k.evidence + 1 else k.evidence
        confirmed := k.confirmed || decide (k.evidence + 1 ≥ k.requiredEvidence) } := by
  unfold addEvidence
  rw [hall]
  cases hc : k.confirmed with
  | true =>
    cases k
    cases hc
    rfl
  | false => simp [hlt hc]

/-- A matched track of the default profile, without overflow. -/
theorem updateTrack_eq {k : Track} {c : Contact} (hall : c.shapeAllowed = true)
    (hr : c.x ≤ logicalMax ∧ c.y ≤ logicalMax) (hraw : k.rawX ≤ logicalMax ∧ k.rawY ≤ logicalMax)
    (hlt : k.confirmed = false → k.evidence < 255) : updateTrack ⟨false, false⟩ k c =
      { k with
        rawX := c.x
        rawY := c.y
        velocityX := c.x - k.rawX
        velocityY := c.y - k.rawY
        sensorXQ24 := c.sensorXQ24
        sensorYQ24 := c.sensorYQ24
        sensorVelocityXQ24 := s32 (c.sensorXQ24 - k.sensorXQ24)
        sensorVelocityYQ24 := s32 (c.sensorYQ24 - k.sensorYQ24)
        outputX := filterCoordinate k.outputX c.x
        outputY := filterCoordinate k.outputY c.y
        strength := c.strength
        pixels := c.pixels
        shapeClass := c.shapeClass
        age := if k.age < 65535 then k.age + 1 else k.age
        evidence := if !k.confirmed then k.evidence + 1 else k.evidence
        confirmed := k.confirmed || decide (k.evidence + 1 ≥ k.requiredEvidence)
        missed := 0 } := by
  simp only [logicalMax] at hr hraw
  have hvx : s16 ((c.x : Int) - k.rawX) = c.x - k.rawX := s16_eq (by omega) (by omega)
  have hvy : s16 ((c.y : Int) - k.rawY) = c.y - k.rawY := s16_eq (by omega) (by omega)
  unfold updateTrack moveTrack
  simp only [Bool.false_eq_true, if_false, hvx, hvy]
  rw [addEvidence_eq hall (by exact hlt)]

section
variable {slot : Slot} {k : Track} {o : Oracle.Track} {c : Contact}

theorem Linked.evidence_lt (h : Linked slot k o) (hc : k.confirmed = false) : k.evidence < 255 := by
  have hreq := h.required
  have hwait := h.waiting hc
  simp only [trackConfirmSplit] at hreq
  omega

theorem Linked.observe (h : Linked slot k o) (hall : c.shapeAllowed = true)
    (hr : c.x ≤ logicalMax ∧ c.y ≤ logicalMax) :
    Linked slot (updateTrack ⟨false, false⟩ k c) (Oracle.observe o c.measurement) := by
  obtain ⟨hfx, hfx'⟩ := filterCoordinate_smooth h.output.1 hr.1
  obtain ⟨hfy, hfy'⟩ := filterCoordinate_smooth h.output.2 hr.2
  have hm := h.mirrors
  rw [updateTrack_eq hall hr h.raw h.evidence_lt]
  unfold Oracle.observe Contact.measurement
  refine { active := h.active, pixels := rfl, strength := rfl, state := rfl, raw := hr
           output := ⟨hfx', hfy'⟩, required := h.required, mirrors := ?_, waiting := ?_ }
  · refine { slot := hm.slot, rawX := rfl, rawY := rfl, outputX := ?_, outputY := ?_, velocityX := ?_,
             velocityY := ?_, missed := rfl, evidence := ?_, requiredEvidence := hm.requiredEvidence,
             confirmed := ?_ }
    · simp only [hfx, hm.outputX]
    · simp only [hfy, hm.outputY]
    · simp only [hm.rawX]
    · simp only [hm.rawY]
    · simp only [hm.confirmed, hm.evidence]
    · simp only [hm.confirmed, hm.evidence, hm.requiredEvidence]
  · intro hc
    simp only [Bool.or_eq_false_iff, decide_eq_false_iff_not] at hc
    simp only [hc.1, Bool.not_false, if_true]
    omega

/-- Ageing an active track that was not matched. -/
theorem Linked.coast (h : Linked slot k o)
    (hv : k.missed < contactHoldFrames → HalvesAlike k.velocityX ∧ HalvesAlike k.velocityY) :
    LinkedSlot slot (advanceTrack false k) (Oracle.coast o) := by
  have hm := h.mirrors
  unfold advanceTrack Oracle.coast
  rw [h.active, hm.missed]
  simp only [Bool.not_true, Bool.or_self, Bool.false_eq_true, if_false]
  by_cases hlt : k.missed < contactHoldFrames
  · obtain ⟨hx, hy⟩ := hv hlt
    rw [if_pos hlt, if_neg (by omega)]
    refine { active := rfl, pixels := h.pixels, strength := h.strength, state := by simp, raw := h.raw
             output := h.output, required := h.required, waiting := h.waiting, mirrors := ?_ }
    refine { slot := hm.slot, rawX := hm.rawX, rawY := hm.rawY, outputX := hm.outputX, outputY := hm.outputY,
             velocityX := ?_, velocityY := ?_, missed := rfl, evidence := hm.evidence,
             requiredEvidence := hm.requiredEvidence, confirmed := hm.confirmed }
    · simp only [hm.velocityX, halve_eq hx]
    · simp only [hm.velocityY, halve_eq hy]
  · rw [if_neg hlt, if_pos (by omega)]
    rfl

end

/-! ## Creation -/

theorem requirementNear_eq {slot : Slot} {k : Track} {o : Oracle.Track} (h : Linked slot k o)
    (c : Contact)
    {required : Nat} (hr : required ≤ trackConfirmSplit) :
    requirementNear c k required = Oracle.requirementNear c.measurement o required ∧
      requirementNear c k required ≤ trackConfirmSplit := by
  have hm := h.mirrors
  have hstate := h.state
  unfold requirementNear Oracle.requirementNear Contact.measurement
  simp only [h.active, hm.confirmed, hm.rawX, hm.rawY, h.strength, h.pixels, Bool.not_true,
    Bool.false_or]
  simp only [trackConfirmSplit, trackConfirmWeak] at *
  by_cases hmiss : k.missed = 0
  · rw [if_pos hmiss] at hstate
    simp only [hstate, hmiss]
    cases k.confirmed with
    | false => simpa using hr
    | true =>
      simp only [Bool.not_true, ne_eq, not_true_eq_false, decide_false, Bool.or_self,
        Bool.false_eq_true, if_false]
      split
      · exact ⟨rfl, hr⟩
      · split <;> omega
  · rw [if_neg hmiss] at hstate
    simpa [hstate, hmiss] using hr

theorem confirmationRequirement_eq {tracks : Slot → Track} {oracle : Oracle.Tracks}
    (h : LinkedAll tracks oracle)
    {c : Contact} (hall : c.shapeAllowed = true) :
    confirmationRequirement ⟨false, false⟩ tracks c =
      Oracle.confirmationRequirement oracle c.measurement ∧
      confirmationRequirement ⟨false, false⟩ tracks c ≤ trackConfirmSplit := by
  have hfold : ∀ (l : List Slot) (required : Nat), required ≤ trackConfirmSplit →
      (l.foldl (fun required slot => requirementNear c (tracks slot) required) required =
        l.foldl (fun required slot => match oracle slot with
          | none => required
          | some track => Oracle.requirementNear c.measurement track required) required) ∧
      l.foldl (fun required slot => requirementNear c (tracks slot) required) required ≤
        trackConfirmSplit := by
    intro l
    induction l with
    | nil => exact fun required hr => ⟨rfl, hr⟩
    | cons slot l ih =>
      intro required hr
      have hs := h slot
      simp only [List.foldl_cons]
      cases ho : oracle slot with
      | none =>
        rw [ho] at hs
        have hskip : requirementNear c (tracks slot) required = required := by
          unfold requirementNear
          rw [show (tracks slot).active = false from hs]
          rfl
        rw [hskip]
        exact ih required hr
      | some o =>
        rw [ho] at hs
        obtain ⟨heq, hle⟩ := requirementNear_eq hs c hr
        simp only [← heq]
        exact ih _ hle
  have hstart : requirementAlone ⟨false, false⟩ c =
      (if c.measurement.pixels < 3 then max trackConfirmNormal trackConfirmWeak
      else trackConfirmNormal) := by
    unfold requirementAlone
    simp only [hall, if_true, heatMinPixels, Contact.measurement, Bool.false_eq_true, if_false]
    rfl
  have hle : requirementAlone ⟨false, false⟩ c ≤ trackConfirmSplit := by
    rw [hstart]; split <;> decide
  unfold confirmationRequirement Oracle.confirmationRequirement
  rw [← hstart]
  exact hfold _ _ hle

theorem fresh_linked {tracks : Slot → Track} {oracle : Oracle.Tracks} (h : LinkedAll tracks oracle)
    (slot : Slot)
    {c : Contact} (hall : c.shapeAllowed = true) (hr : c.x ≤ logicalMax ∧ c.y ≤ logicalMax) :
    Linked slot (freshTrack ⟨false, false⟩ tracks c) (Oracle.create oracle slot c.measurement) := by
  obtain ⟨heq, hle⟩ := confirmationRequirement_eq h hall
  have hge : trackConfirmNormal ≤ confirmationRequirement ⟨false, false⟩ tracks c :=
    confirmationRequirement_ge tracks (requirementAlone_bounds ⟨false, false⟩ c).2.1
  simp only [trackConfirmNormal] at hge
  unfold freshTrack Oracle.create
  simp only [Bool.false_eq_true, if_false, hall, if_true]
  refine { active := rfl, pixels := rfl, strength := rfl, state := rfl, raw := hr, output := hr, required := hle
           waiting := fun _ => by simp only; omega, mirrors := ?_ }
  refine { slot := rfl, rawX := rfl, rawY := rfl, outputX := rfl, outputY := rfl, velocityX := rfl,
           velocityY := rfl, missed := rfl, evidence := rfl, requiredEvidence := heq.symm,
           confirmed := ?_ }
  simp only
  rw [eq_comm, decide_eq_false_iff_not]
  omega

/-! ## One frame -/

/-- The two trackers inside the loop over the samples. -/
structure Lockstep (contacts : Nat → Contact) (g : Feed)
    (s : Oracle.Tracks × List Slot) : Prop where
  linked : LinkedAll g.ts.tracks s.1
  free : s.2 = Oracle.freeSlots s.1
  contacts : g.ts.contacts = contacts
  current : ∀ slot, (g.ts.tracks slot).active = true →
    (g.currentSlots slot = true ↔ (g.ts.tracks slot).missed = 0)

theorem LinkedAll.isNone {tracks : Slot → Track} {oracle : Oracle.Tracks}
    (h : LinkedAll tracks oracle)
    (slot : Slot) : (!(tracks slot).active) = (oracle slot).isNone := by
  have hs := h slot
  cases ho : oracle slot with
  | none =>
    rw [ho] at hs
    rw [show (tracks slot).active = false from hs]
    rfl
  | some o =>
    rw [ho] at hs
    rw [hs.active]
    rfl

theorem LinkedAll.freeSlot {tracks : Slot → Track} {oracle : Oracle.Tracks}
    (h : LinkedAll tracks oracle) :
    freeSlot tracks = (Oracle.freeSlots oracle).head? := by
  unfold Sp11Touch.freeSlot Oracle.freeSlots
  rw [List.head?_filter]
  simp only [h.isNone]

theorem createUnmatched_lockstep {f : Sampled} {contacts : Nat → Contact} {q : Nat → Option Slot}
    {i : Nat}
    {g : Feed} {s : Oracle.Tracks × List Slot} (hi : i < f.contacts.length)
    (hc : ∀ i c, f.contacts[i]? = some c → contacts i = c) (h : Lockstep contacts g s) :
    Lockstep contacts (createUnmatched ⟨false, false⟩ q i g)
      (Oracle.createTrack f.samples (fun i => (q i).isSome) i s) := by
  unfold createUnmatched Oracle.createTrack
  cases hq : q i with
  | some slot =>
    simp only [hq, Option.isSome_some, if_true]
    exact h
  | none =>
    have hcontact := List.getElem?_eq_getElem hi
    have hmem : f.contacts[i] ∈ f.contacts := List.getElem_mem hi
    have hsample : f.samples[i]? = some f.contacts[i].measurement := by
      unfold Sampled.samples
      rw [List.getElem?_map, hcontact]
      rfl
    have hci : g.ts.contacts i = f.contacts[i] := by rw [h.contacts]; exact hc i _ hcontact
    have hfree := h.linked.freeSlot
    rw [← h.free] at hfree
    unfold newTrack
    rw [hfree, hsample]
    cases hs : s.2 with
    | nil => simpa [hq, hs] using h
    | cons slot free =>
      simp only [hq, List.head?_cons, Option.isSome_none, Bool.false_eq_true, if_false, hci]
      have hlink := fresh_linked h.linked slot (f.allowed _ hmem) (f.inRange _ hmem)
      refine ⟨fun s' => ?_, ?_, h.contacts, fun s' ha => ?_⟩
      · by_cases he : s' = slot
        · subst he
          simp only [Function.update_self]
          exact hlink
        · simp only [Function.update_of_ne he]
          exact h.linked s'
      · exact (Oracle.freeSlots_update (h.free.symm.trans hs) _).symm
      · by_cases he : s' = slot
        · subst he
          simp [setSlot, freshTrack_missed]
        · simp only [setSlot, Function.update_of_ne he] at ha ⊢
          exact h.current s' ha

/-- The reports of linked trackers. -/
theorem Lockstep.report {contacts : Nat → Contact} {g : Feed} {s : Oracle.Tracks × List Slot}
    (h : Lockstep contacts g s) : collectLinuxContacts g.ts.tracks g.currentSlots =
      (Oracle.report s.1).map fun c => (c.slot, c.x, c.y) := by
  unfold collectLinuxContacts Oracle.report
  rw [List.map_filterMap]
  refine List.filterMap_congr fun slot _ => ?_
  have hs := h.linked slot
  cases ho : s.1 slot with
  | none =>
    rw [ho] at hs
    rw [show (g.ts.tracks slot).active = false from hs]
    rfl
  | some o =>
    rw [ho] at hs
    have hcur := h.current slot hs.active
    have hm := hs.mirrors
    have hstate : o.state = .active ↔ g.currentSlots slot = true := by
      rw [hs.state, hcur]
      by_cases hmiss : (g.ts.tracks slot).missed = 0 <;> simp [hmiss]
    by_cases hc : (g.ts.tracks slot).confirmed = true ∧ g.currentSlots slot = true
    · simp [hs.active, hc.1, hc.2, hm.confirmed, hstate.mpr hc.2, hm.slot, hm.outputX, hm.outputY]
    · have hno : ¬ (o.state = .active ∧ o.confirmed = true) := fun h2 =>
        hc ⟨hm.confirmed ▸ h2.2, hstate.mp h2.1⟩
      have hno' : ¬ ((g.ts.tracks slot).active && (g.ts.tracks slot).confirmed &&
        g.currentSlots slot) = true := by
        simpa [hs.active] using hc
      simp only [if_neg hno, if_neg hno', Option.map_none]

theorem KernelBest.pairing {ts : Heat} {f : Sampled} {q : Nat → Option Slot}
    (h : KernelBest ts f q) :
    (assignTracks ⟨false, false⟩ (ts.withContacts f) f.contacts.length).2 = q :=
  assignTracks_unique h

theorem OracleBest.pairing {oracle : Oracle.Tracks} {f : Sampled} {q : Nat → Option Slot}
    (h : OracleBest oracle f q) : Oracle.pairing oracle f.samples = q := by
  have hbest : Pairs.Best (Oracle.Gate oracle f.samples) _ _ _ := Oracle.pairing_best
  rw [show f.samples.length = f.contacts.length from List.length_map ..] at hbest
  exact h.only _ hbest

/-- The tracks after the matched updates and ageing. -/
theorem aged_linked {ts : Heat} {oracle : Oracle.Tracks} {f : Sampled} {q : Nat → Option Slot}
    {u : Feed}
    (hl : LinkedAll ts.tracks oracle) (hu : Updated ⟨false, false⟩ ts q f.contacts.length u)
    (hfed : Fed ts q f.contacts.length u) (hc : ∀ i c, f.contacts[i]? = some c → ts.contacts i = c)
    (hlt : ∀ i slot, q i = some slot → i < f.contacts.length)
    (hq : Oracle.pairing oracle f.samples = q)
    (hv : ∀ slot, (∀ i, q i ≠ some slot) → (ts.tracks slot).active = true →
      (ts.tracks slot).missed < contactHoldFrames →
      HalvesAlike (ts.tracks slot).velocityX ∧ HalvesAlike (ts.tracks slot).velocityY) :
    LinkedAll (advanceUnmatchedTracks u.currentSlots u.ts.tracks)
      (Oracle.agedTracks oracle f.samples) := by
  intro slot
  have hs := hl slot
  unfold advanceUnmatchedTracks
  by_cases hm : ∃ i, q i = some slot
  · obtain ⟨i, hi⟩ := hm
    have hilt := hlt i slot hi
    have hcontact := List.getElem?_eq_getElem hilt
    have hmem : f.contacts[i] ∈ f.contacts := List.getElem_mem hilt
    have hsample : f.samples[i]? = some f.contacts[i].measurement := by
      unfold Sampled.samples
      rw [List.getElem?_map, hcontact]
      rfl
    rw [(hfed.slots slot).mpr ⟨i, hilt, hi⟩, advanceTrack_current, hu.tracks i slot hilt hi,
      hc i _ hcontact,
      Oracle.agedTracks_matched (hq ▸ hi) hsample]
    -- a matched slot holds a track in both
    cases ho : oracle slot with
    | none =>
      have hg := (Oracle.pairing_best.valid.ok i slot (hq ▸ hi)).isSome
      rw [ho] at hg
      cases hg
    | some o =>
      rw [ho] at hs
      exact Linked.observe hs (f.allowed _ hmem) (f.inRange _ hmem)
  · have hno : ∀ i, q i ≠ some slot := fun i hi => hm ⟨i, hi⟩
    have hcur : u.currentSlots slot = false := by
      refine Bool.eq_false_iff.mpr fun h => ?_
      obtain ⟨i, _, hi⟩ := (hfed.slots slot).mp h
      exact hno i hi
    rw [hcur, hfed.rest slot hcur, Oracle.agedTracks_rest fun i => hq ▸ hno i]
    cases ho : oracle slot with
    | none =>
      rw [ho] at hs
      have ha : (ts.tracks slot).active = false := hs
      simp [LinkedSlot, advanceTrack, ha]
    | some o =>
      rw [ho] at hs
      exact Linked.coast hs (hv slot hno hs.active)

theorem kernelFrame_linked {ts : Heat} {oracle : Oracle.Tracks} {f : Sampled}
    (hl : LinkedAll ts.tracks oracle)
    (hok : StepOk ts oracle f) :
    LinkedAll (kernelFrame ts f).1.tracks (Oracle.update oracle f.samples).1 ∧
      SameReport (kernelFrame ts f).2 (Oracle.update oracle f.samples).2 := by
  obtain ⟨q, hk, ho, hv⟩ := hok
  have hlen : f.samples.length = f.contacts.length := List.length_map ..
  have hpair := assignTracks_pairing ⟨false, false⟩ (ts.withContacts f) f.contacts.length
  have ht := assignTracks_frame ⟨false, false⟩ (ts.withContacts f) f.contacts.length
  have hcs := assignTracks_contacts ⟨false, false⟩ (ts.withContacts f) f.contacts.length
  rw [hk.pairing] at hpair
  unfold kernelFrame trackContacts
  simp only
  rw [hk.pairing, Oracle.update_eq (by rw [hlen]; exact f.few), ho.pairing]
  generalize (assignTracks ⟨false, false⟩ (ts.withContacts f) f.contacts.length).1 = a at ht hcs
  have hc : ∀ i c, f.contacts[i]? = some c → a.contacts i = c := by
    intro i c hi
    rw [hcs]
    simp [Heat.withContacts, List.getD_eq_getElem?_getD, hi]
  have hta : a.tracks = ts.tracks := ht
  have hfed := updateMatchedTracks_fed ⟨false, false⟩ a f.contacts.length q
  have hu : Updated ⟨false, false⟩ a _ _ _ :=
    updateMatchedTracks_updated f.contacts.length hpair.inj
  have hlinked := aged_linked (hta ▸ hl) hu hfed hc hpair.lt ho.pairing (hta ▸ hv)
  unfold reportFrame renewTracks
  simp only
  generalize updateMatchedTracks ⟨false, false⟩ a f.contacts.length q = u at hfed hu hlinked
  have hlock : Lockstep a.contacts
      { u with ts.tracks := advanceUnmatchedTracks u.currentSlots u.ts.tracks, pairs := [] }
      (Oracle.agedTracks oracle f.samples, Oracle.freeSlots
        (Oracle.agedTracks oracle f.samples)) := by
    refine ⟨hlinked, rfl, hu.contacts, fun slot ha => ?_⟩
    simp only [advanceUnmatchedTracks] at ha ⊢
    cases hcur : u.currentSlots slot with
    | true => simp [advanceTrack_current, hfed.fresh slot hcur]
    | false =>
      rw [hcur] at ha
      simp only [Bool.false_eq_true, false_iff]
      exact advanceTrack_missed ha
  have hend : Lockstep a.contacts (loop f.contacts.length (createUnmatched ⟨false, false⟩ q) _)
      (loop f.contacts.length (Oracle.createTrack f.samples fun i => (q i).isSome) _) :=
    loop_rel (Lockstep a.contacts) hlock fun i g s hi h => createUnmatched_lockstep hi hc h
  rw [hlen]
  unfold createUnmatchedTracks
  exact ⟨hend.linked, hend.report⟩

/-! ## Runs -/

theorem runSame_of_linked : ∀ (frames : List Sampled) (ts : Heat) (oracle : Oracle.Tracks),
    LinkedAll ts.tracks oracle → RunOk ts oracle frames → RunSame ts oracle frames
  | [], _, _, _, _ => trivial
  | f :: rest, ts, oracle, hl, hok => by
    obtain ⟨hlinked, hreport⟩ := kernelFrame_linked hl hok.1
    exact ⟨hlinked.same, hreport, runSame_of_linked rest _ _ hlinked hok.2⟩

/-- No tracks on either side. -/
theorem linked_start (ts : Heat) :
    LinkedAll ({ ts with tracks := zeroTracks } : Heat).tracks fun _ => none := fun _ => rfl

/-- From no tracks, while every frame meets `StepOk`. -/
theorem run_same (ts : Heat) (frames : List Sampled)
    (h : RunOk { ts with tracks := zeroTracks } (fun _ => none) frames) :
    RunSame { ts with tracks := zeroTracks } (fun _ => none) frames :=
  runSame_of_linked frames _ _ (linked_start ts) h

/-! ## A touch that moves and lifts -/

/-- Every frame's best pairing is unique under both distances, not always the same one. -/
def RunUnique : Heat → Oracle.Tracks → List Sampled → Prop
  | _, _, [] => True
  | ts, oracle, f :: rest =>
    (∃ q, KernelBest ts f q) ∧ (∃ q, OracleBest oracle f q) ∧
      RunUnique (kernelFrame ts f).1 (Oracle.update oracle f.samples).1 rest

def touchAt (x : Nat) (h : x ≤ logicalMax) : Sampled where
  contacts := [{ x := x, y := 1000, pixels := 10, strength := 1000, shapeAllowed := true }]
  few := by simp [maxContacts]
  allowed := by simp
  inRange := by simpa using ⟨h, by decide⟩

def noTouch : Sampled := ⟨[], by simp, by simp, by simp⟩

/-- The pairing of the one touch with the one track. -/
def firstPair : Nat → Option Slot := Function.update (fun _ => none) 0 (some 0)

section
variable {ts : Heat} {oracle : Oracle.Tracks}

theorem kernelBest_none {f : Sampled} (h : ∀ slot, (ts.tracks slot).active = true →
    f.contacts.length = 0) :
    KernelBest ts f fun _ => none :=
  Pairs.unique_none fun slot i hi hg => by have := h slot hg.active; omega

theorem oracleBest_none {f : Sampled} (h : ∀ slot, (oracle slot).isSome = true →
    f.contacts.length = 0) :
    OracleBest oracle f fun _ => none :=
  Pairs.unique_none fun slot i hi hg => by have := h slot hg.isSome; omega

theorem kernelBest_touch {x : Nat} {hx : x ≤ logicalMax}
    (hd : slotCost ⟨false, false⟩ (ts.withContacts (touchAt x hx)) 0 0 < assignInvalidCost)
    (hact : ∀ slot, (ts.tracks slot).active = true ↔ slot = 0) :
      KernelBest ts (touchAt x hx) firstPair :=
  Pairs.unique_one (gate_iff.mpr ⟨(hact 0).mpr rfl, hd⟩) fun slot hg => (hact slot).mp hg.active

theorem oracleBest_touch {x : Nat} {hx : x ≤ logicalMax}
    (hd : ((Oracle.slotRow oracle (touchAt x hx).samples 0).getD 0 none).isSome = true)
    (hact : ∀ slot, (oracle slot).isSome = true → slot = 0) :
      OracleBest oracle (touchAt x hx) firstPair :=
  Pairs.unique_one (Option.isSome_iff_exists.mp hd) fun slot hg => hact slot (Oracle.Gate.isSome hg)

end

/-- A touch moves by one to the right and lifts. -/
theorem run_same_right :
    RunSame { Heat.zero with tracks := zeroTracks } (fun _ => none)
      [touchAt 1000 (by decide), touchAt 1001 (by decide), noTouch] := by
  refine run_same Heat.zero _ ⟨⟨fun _ => none, kernelBest_none nofun, oracleBest_none nofun, nofun⟩,
    ⟨firstPair, kernelBest_touch ?_ ?_, oracleBest_touch ?_ ?_, fun slot hq ha => ?_⟩,
    ⟨fun _ => none, kernelBest_none fun _ _ => rfl, oracleBest_none fun _ _ => rfl, ?_⟩, trivial⟩
  · decide +kernel
  · decide +kernel
  · decide +kernel
  · decide +kernel
  · -- the only track is matched
    have h0 : ∀ slot : Slot, ((kernelFrame { Heat.zero with tracks := zeroTracks }
        (touchAt 1000 (by decide))).1.tracks slot).active = true → slot = 0 := by decide +kernel
    exact absurd (by rw [h0 slot ha]; rfl) (hq 0)
  · have hv : ∀ slot : Slot,
        (0 : Int) ≤ ((kernelFrame (kernelFrame { Heat.zero with tracks := zeroTracks }
          (touchAt 1000 (by decide))).1 (touchAt 1001 (by decide))).1.tracks slot).velocityX ∧
        (0 : Int) ≤ ((kernelFrame (kernelFrame { Heat.zero with tracks := zeroTracks }
          (touchAt 1000 (by decide))).1 (touchAt 1001 (by decide))).1.tracks
          slot).velocityY := by decide +kernel
    exact fun slot _ _ _ => ⟨Or.inl (hv slot).1, Or.inl (hv slot).2⟩

/-- A touch moves by one to the left and lifts: every best pairing is unique, and the velocity `-1`
is halved to `0` by the kernel and to `-1` by the reference. -/
theorem coasting_differs :
    RunUnique Heat.zero (fun _ => none) [touchAt 1000 (by decide),
    touchAt 999 (by decide), noTouch] ∧
    ¬ RunSame Heat.zero (fun _ => none) [touchAt 1000 (by decide), touchAt 999 (by decide),
      noTouch] := by
  refine ⟨⟨⟨_, kernelBest_none nofun⟩, ⟨_, oracleBest_none nofun⟩,
    ⟨firstPair, kernelBest_touch ?_ ?_⟩,
    ⟨firstPair, oracleBest_touch ?_ ?_⟩, ⟨_, kernelBest_none fun _ _ => rfl⟩,
    ⟨_, oracleBest_none fun _ _ => rfl⟩, trivial⟩, fun h => ?_⟩
  · decide +kernel
  · decide +kernel
  · decide +kernel
  · decide +kernel
  · obtain ⟨_, _, _, _, hlast, _⟩ := h
    have hk : ((kernelFrame (kernelFrame (kernelFrame Heat.zero (touchAt 1000 (by decide))).1
        (touchAt 999 (by decide))).1 noTouch).1.tracks 0).velocityX = 0 := by decide +kernel
    have ho : ((Oracle.update (Oracle.update (Oracle.update (fun _ => none)
        (touchAt 1000 (by decide)).samples).1 (touchAt 999 (by decide)).samples).1
        noTouch.samples).1 0).map
          (fun o => o.velocityX) = some (-1) := by decide +kernel
    have h0 := hlast 0
    generalize (Oracle.update _ noTouch.samples).1 0 = o at ho h0
    cases o with
    | none => cases ho
    | some o =>
      have hv := h0.2.velocityX
      rw [hk] at hv
      rw [Option.map_some, hv] at ho
      cases ho

end Sp11Touch
