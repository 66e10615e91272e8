import Sp11Touch.Core.Handout
import Sp11Touch.L2Pipeline.AssignOptimal
import Sp11Touch.L2Pipeline.Evidence
/-!
# The contacts in another order

The blobs of a frame are found in the order of the scan, which changes with
every movement. When the best pairing is unique, the same pairs are matched in
any order of the contacts, so the tracks after the matched updates and ageing
are the same. Creation gives the unmatched contacts the free slots in order,
and a new track depends on the tracks before creation alone: the scan for its
requirement skips the tracks created beside it, which are not confirmed
(`Queued`). So the frames differ in who gets which of the free slots
(`trackContacts_reordered`).
-/
namespace Sp11Touch
open CInt

/-- The contacts in another order. -/
def Heat.reordered (ts : Heat) (σ : Equiv.Perm Nat) : Heat :=
  { ts with contacts := fun i => ts.contacts (σ i) }

/-- The slots creation may use, in order. -/
def freeSlots (tracks : Slot → Track) : List Slot :=
  (List.finRange 10).filter fun slot => !(tracks slot).active

/-- A contact without a track. -/
def waits (contactSlots : Nat → Option Slot) (i : Nat) : Bool := (contactSlots i).isNone

/-- The tracks creation starts from. -/
def agedTracks (prof : Profile) (ts : Heat) (count : Nat) (contactSlots : Nat → Option Slot) :
    Slot → Track :=
  let f := updateMatchedTracks prof ts count contactSlots
  advanceUnmatchedTracks f.currentSlots f.ts.tracks

/-- The unmatched contacts find a free slot after ageing. -/
def EnoughSlots (prof : Profile) (ts : Heat) (count : Nat) : Prop :=
  Handout.rank (waits (assignTracks prof ts count).2) count ≤
    (freeSlots (agedTracks prof ts count (assignTracks prof ts count).2)).length

/-- The frame `b` of the reordered contacts: the pairs, the freed slots and every track but the new
ones are those of `a`, and the new ones are the same up to their slots. -/
structure SameFrame (σ : Equiv.Perm Nat) (a b : Heat × Report) : Prop where
  matched : ∀ i slot, (i, slot) ∈ b.2.matched ↔ (σ i, slot) ∈ a.2.matched
  freed : b.2.freed = a.2.freed
  slots : ∀ slot, Fills b.2.created slot ↔ Fills a.2.created slot
  kept : ∀ slot, ¬ Fills a.2.created slot → b.1.tracks slot = a.1.tracks slot
  created : ∃ π : Equiv.Perm Slot, (∀ slot, ¬ Fills a.2.created slot → π slot = slot) ∧
    (∀ i slot, (σ i, slot) ∈ a.2.created → (i, π slot) ∈ b.2.created) ∧
    ∀ slot, b.1.tracks (π slot) = a.1.tracks slot

section
variable {prof : Profile} {ts ts' : Heat} {count : Nat} {q : Nat → Option Slot} {σ : Equiv.Perm Nat}

/-! ## The pairs -/

theorem gate_reordered (slot : Slot) (i : Nat) : Gate prof (ts.reordered σ) slot i ↔
    Gate prof ts slot (σ i) :=
  ⟨fun h => ⟨h.active, h.valid, h.near⟩, fun h => ⟨h.active, h.valid, h.near⟩⟩

/-- The unique best pairing moves with the contacts. -/
theorem assignTracks_reordered (hσ : ∀ i, σ i < count ↔ i < count)
    (h : ∃ q, Pairs.Unique (Gate prof ts) (slotCost prof ts) count q) :
    (assignTracks prof (ts.reordered σ) count).2 = fun i =>
      (assignTracks prof ts count).2 (σ i) := by
  obtain ⟨q, hq⟩ := h
  have hgate : Gate prof (ts.reordered σ) = fun slot i => Gate prof ts slot (σ i) :=
    funext fun slot => funext fun i => propext (gate_reordered slot i)
  have hmoved : Pairs.Unique (Gate prof (ts.reordered σ)) (slotCost prof (ts.reordered σ))
    count fun i => q (σ i) :=
    hgate ▸ hq.reorder hσ
  rw [assignTracks_unique hmoved, assignTracks_unique hq]

/-! ## Matched updates and ageing -/

/-- The same tracks, and the contacts in another order. -/
structure Reordered (σ : Equiv.Perm Nat) (ts ts' : Heat) : Prop where
  tracks : ts'.tracks = ts.tracks
  contacts : ∀ i, ts'.contacts i = ts.contacts (σ i)

theorem updateMatchedTracks_reordered (prof : Profile) (h : Reordered σ ts ts')
    (hσ : ∀ i, σ i < count ↔ i < count)
    (hp : Pairing ts.tracks count q) :
    (updateMatchedTracks prof ts' count fun i => q (σ i)).currentSlots =
      (updateMatchedTracks prof ts count q).currentSlots ∧
      (updateMatchedTracks prof ts' count fun i => q (σ i)).ts.tracks =
        (updateMatchedTracks prof ts count q).ts.tracks := by
  have hinj : ∀ i j slot, q (σ i) = some slot → q (σ j) = some slot → i = j := fun i j slot hi hj =>
    σ.injective (hp.inj (σ i) (σ j) slot hi hj)
  have hfed := updateMatchedTracks_fed prof ts count q
  have hfed' := updateMatchedTracks_fed prof ts' count fun i => q (σ i)
  have hupd : Updated prof ts q count _ := updateMatchedTracks_updated count hp.inj
  have hupd' : Updated prof ts' (fun i => q (σ i)) count _ := updateMatchedTracks_updated count hinj
  generalize updateMatchedTracks prof ts count q = f at hfed hupd ⊢
  generalize updateMatchedTracks prof ts' count (fun i => q (σ i)) = f' at hfed' hupd' ⊢
  have hslots : ∀ slot, f'.currentSlots slot = true ↔ f.currentSlots slot = true := by
    intro slot
    rw [hfed.slots, hfed'.slots]
    refine ⟨fun hs => ?_, fun hs => ?_⟩
    · obtain ⟨i, hi, hs⟩ := hs
      exact ⟨σ i, (hσ i).mpr hi, hs⟩
    · obtain ⟨i, hi, hs⟩ := hs
      exact ⟨σ.symm i, by rw [← hσ, σ.apply_symm_apply]; exact hi, by rw [σ.apply_symm_apply]; exact hs⟩
  have hcurrent : f'.currentSlots = f.currentSlots := funext fun slot =>
    Bool.eq_iff_iff.mpr (hslots slot)
  refine ⟨hcurrent, funext fun slot => ?_⟩
  cases hc : f.currentSlots slot with
  | false => rw [hfed.rest slot hc, hfed'.rest slot (by rw [hcurrent]; exact hc), h.tracks]
  | true =>
    obtain ⟨i, hi, hs⟩ := (hfed.slots slot).mp hc
    have hi' : σ.symm i < count := by rw [← hσ, σ.apply_symm_apply]; exact hi
    have hs' : q (σ (σ.symm i)) = some slot := by rw [σ.apply_symm_apply]; exact hs
    rw [hupd.tracks i slot hi hs, hupd'.tracks (σ.symm i) slot hi' hs', h.tracks, h.contacts,
      σ.apply_symm_apply]

theorem agedTracks_reordered (h : Reordered σ ts ts') (hσ : ∀ i, σ i < count ↔ i < count)
    (hp : Pairing ts.tracks count q) : agedTracks prof ts' count (fun i => q (σ i)) =
    agedTracks prof ts count q := by
  obtain ⟨hcurrent, htracks⟩ := updateMatchedTracks_reordered prof h hσ hp
  unfold agedTracks
  simp only [hcurrent, htracks]

/-! ## Creation -/

theorem requirementNear_skip (contact : Contact) {track : Track}
    (h : track.active = false ∨ track.confirmed = false)
    (required : Nat) : requirementNear contact track required = required := by
  unfold requirementNear
  rw [if_pos]
  rcases h with h | h <;> simp [h]

/-- A new track depends on the tracks its requirement does not skip. -/
theorem freshTrack_congr {tracks tracks' : Slot → Track} (contact : Contact)
    (h : prof.windowsOrchestrator = false → ∀ slot required,
      requirementNear contact (tracks' slot) required =
      requirementNear contact (tracks slot) required) :
    freshTrack prof tracks' contact = freshTrack prof tracks contact := by
  cases ho : prof.windowsOrchestrator with
  | true => simp only [freshTrack, ho, if_true]
  | false =>
    have hreq : confirmationRequirement prof tracks' contact =
      confirmationRequirement prof tracks contact := by
      unfold confirmationRequirement
      simp only [h ho]
    simp only [freshTrack, hreq]

theorem freshTrack_pending (ho : prof.windowsOrchestrator = false) (tracks : Slot → Track)
    (contact : Contact) :
    (freshTrack prof tracks contact).confirmed = false := by
  cases prof with
  | mk orchestrator behaviorV2 =>
    cases ho
    exact freshTrack_unconfirmed tracks contact

theorem freeSlot_eq (tracks : Slot → Track) : freeSlot tracks = (freeSlots tracks).head? :=
  List.head?_filter.symm

theorem freeSlots_nodup (tracks : Slot → Track) : (freeSlots tracks).Nodup :=
  (List.nodup_finRange 10).filter _

/-- Filling the first free slot pops it. -/
theorem freeSlots_update {tracks : Slot → Track} {slot : Slot} {free : List Slot}
    (h : freeSlots tracks = slot :: free)
    {track : Track} (ha : track.active = true) :
      freeSlots (Function.update tracks slot track) = free :=
  Handout.filter_update (p := fun track : Track => !track.active)
    (List.nodup_finRange 10) h (by simp [ha])

/-- Creation from `start` after the contacts below `k`: the waiting ones have the first free slots, with tracks
built from those of `start`. -/
structure Queued (prof : Profile) (start g : Feed) (q : Nat → Option Slot) (k : Nat) : Prop where
  contacts : g.ts.contacts = start.ts.contacts
  free : freeSlots g.ts.tracks = (freeSlots start.ts.tracks).drop (Handout.rank (waits q) k)
  pairs : ∀ i slot, (i, slot) ∈ g.pairs ↔ Handout.Given
    (freeSlots start.ts.tracks) (waits q) k i slot
  fresh : ∀ i slot, (i, slot) ∈ g.pairs → g.ts.tracks slot =
    freshTrack prof start.ts.tracks (start.ts.contacts i)
  rest : ∀ slot, ¬ Fills g.pairs slot → g.ts.tracks slot = start.ts.tracks slot

/-- The next new track does not see the new ones before it. -/
theorem Queued.freshTrack {start g : Feed} {k : Nat} (h : Queued prof start g q k)
    (contact : Contact) :
    freshTrack prof g.ts.tracks contact = freshTrack prof start.ts.tracks contact := by
  refine freshTrack_congr contact fun ho slot required => ?_
  by_cases hs : Fills g.pairs slot
  · obtain ⟨i, hi⟩ := hs
    have hfree := List.mem_of_getElem? ((h.pairs i slot).mp hi).place
    have hstart : (start.ts.tracks slot).active = false := by simpa [freeSlots] using hfree
    have hnew : (g.ts.tracks slot).confirmed = false := by
      rw [h.fresh i slot hi]
      exact freshTrack_pending ho _ _
    rw [requirementNear_skip contact (Or.inl hstart), requirementNear_skip contact (Or.inr hnew)]
  · rw [h.rest slot hs]

theorem given_succ_skip {places : List Slot} {k i : Nat} {slot : Slot} (hk : waits q k = false) :
    Handout.Given places (waits q) (k + 1) i slot ↔ Handout.Given places (waits q) k i slot := by
  refine ⟨fun h => ⟨?_, h.waiting, h.place⟩, fun h => ⟨Nat.lt_succ_of_lt h.lt, h.waiting, h.place⟩⟩
  have hne : i ≠ k := fun he => by
    have hw := h.waiting
    rw [he, hk] at hw
    cases hw
  have := h.lt
  omega

/-- A contact that has its slot waits for none. -/
theorem Queued.skip {start g : Feed} {k : Nat} (hw : waits q k = false)
    (h : Queued prof start g q k) :
    Queued prof start g q (k + 1) := by
  refine ⟨h.contacts, ?_, fun i slot => by rw [given_succ_skip hw]; exact h.pairs i slot,
    h.fresh, h.rest⟩
  simp only [Handout.rank_succ, hw]
  exact h.free

/-- The next contact takes the next of the free slots. -/
theorem Queued.fill {start g : Feed} {k : Nat} {sk : Slot} (hw : waits q k = true)
    (hplace : (freeSlots start.ts.tracks)[Handout.rank (waits q) k]? = some sk)
    (hcons : freeSlots g.ts.tracks = sk :: (freeSlots start.ts.tracks).drop
      (Handout.rank (waits q) k + 1))
    (hinactive : (g.ts.tracks sk).active = false) (h : Queued prof start g q k) :
    Queued prof start (g.filled prof k sk) q (k + 1) := by
  refine ⟨h.contacts, ?_, fun i slot => ?_, fun i slot hi => ?_, fun slot hs => ?_⟩
  · simp only [Handout.rank_succ, hw, if_true]
    exact freeSlots_update hcons (freshTrack_active _ _ _)
  · rw [Feed.mem_filled, h.pairs]
    refine ⟨fun hi => ?_, fun hi => ?_⟩
    · rcases hi with ⟨rfl, rfl⟩ | hi
      · exact ⟨Nat.lt_succ_self i, hw, hplace⟩
      · exact ⟨Nat.lt_succ_of_lt hi.lt, hi.waiting, hi.place⟩
    · by_cases hik : i = k
      · subst hik
        exact Or.inl ⟨rfl, Option.some.inj (hi.place.symm.trans hplace)⟩
      · have := hi.lt
        exact Or.inr ⟨by omega, hi.waiting, hi.place⟩
  · rcases Feed.mem_filled.mp hi with ⟨rfl, rfl⟩ | hi
    · simp only [Feed.filled, Function.update_self, h.freshTrack, h.contacts]
    · -- the tracks created before are active
      have hne : slot ≠ sk := fun he => by
        rw [← he, h.fresh i slot hi, freshTrack_active] at hinactive
        cases hinactive
      rw [g.filled_tracks_of_ne hne]
      exact h.fresh i slot hi
  · have hne : slot ≠ sk := fun he => hs ⟨k, Feed.mem_filled.mpr (Or.inl ⟨rfl, he⟩)⟩
    rw [g.filled_tracks_of_ne hne]
    refine h.rest slot fun hold => ?_
    obtain ⟨i, hi⟩ := hold
    exact hs ⟨i, Feed.mem_filled.mpr (Or.inr hi)⟩

theorem createUnmatched_queued {start g : Feed} {k : Nat}
    (henough : Handout.rank (waits q) (k + 1) ≤ (freeSlots start.ts.tracks).length)
    (h : Queued prof start g q k) :
    Queued prof start (createUnmatched prof q k g) q (k + 1) := by
  cases hw : waits q k with
  | false =>
    have hk : q k ≠ none := fun hk => by simp [waits, hk] at hw
    rcases createUnmatched_cases prof q k g with ⟨he, _⟩ | ⟨_, hnone, _⟩
    · rw [he]
      exact h.skip hw
    · exact absurd hnone hk
  | true =>
    have hk : q k = none := by simpa [waits] using hw
    rw [Handout.rank_succ, if_pos hw] at henough
    have hlt : Handout.rank (waits q) k < (freeSlots start.ts.tracks).length := henough
    have hcons := h.free.trans (List.drop_eq_getElem_cons hlt)
    have hslot : freeSlot g.ts.tracks = some (freeSlots
      start.ts.tracks)[Handout.rank (waits q) k] := by
      rw [freeSlot_eq, hcons, List.head?_cons]
    rcases createUnmatched_cases prof q k g with ⟨_, hno⟩ | ⟨sk, _, hf, he⟩
    · rw [hk, hslot] at hno
      simp at hno
    · rw [he]
      rw [hslot] at hf
      cases hf
      exact h.fill hw (List.getElem?_eq_getElem hlt) hcons (freeSlot_inactive hslot)

theorem createUnmatchedTracks_queued {start : Feed} (hpairs : start.pairs = [])
    (henough : Handout.rank (waits q) count ≤ (freeSlots start.ts.tracks).length) :
    Queued prof start (createUnmatchedTracks prof count q start) q count := by
  unfold createUnmatchedTracks
  refine loop_ind (fun k g => Queued prof start g q k)
    ⟨rfl, rfl, fun i slot => ?_, fun i slot hi => ?_, fun _ _ => rfl⟩
    fun k g hk h => createUnmatched_queued (Nat.le_trans (Handout.rank_mono hk) henough) h
  · rw [hpairs]
    exact ⟨fun h => absurd h List.not_mem_nil, fun h => absurd h.lt (Nat.not_lt_zero i)⟩
  · rw [hpairs] at hi
    exact absurd hi List.not_mem_nil

/-! ## The frame -/

/-- A frame in terms of its pairs and the tracks creation starts from. -/
structure Formed (prof : Profile) (ts : Heat) (count : Nat) (q : Nat → Option Slot)
    (after : Heat × Report) : Prop where
  matched : ∀ i slot, (i, slot) ∈ after.2.matched ↔ i < count ∧ q i = some slot
  freed : after.2.freed = freedSlots (updateMatchedTracks prof ts count q).ts.tracks
    (agedTracks prof ts count q)
  created : ∀ i slot, (i, slot) ∈ after.2.created ↔
    Handout.Given (freeSlots (agedTracks prof ts count q)) (waits q) count i slot
  fresh : ∀ i slot, (i, slot) ∈ after.2.created →
    after.1.tracks slot = freshTrack prof (agedTracks prof ts count q) (ts.contacts i)
  kept : ∀ slot, ¬ Fills after.2.created slot →
    after.1.tracks slot = agedTracks prof ts count q slot

theorem reportFrame_formed (hp : Pairing ts.tracks count q)
    (henough : Handout.rank (waits q) count ≤ (freeSlots (agedTracks prof ts count q)).length) :
    Formed prof ts count q (reportFrame prof ts count q) := by
  have hfed := updateMatchedTracks_fed prof ts count q
  have hupd : Updated prof ts q count _ := updateMatchedTracks_updated count hp.inj
  have hqueued : Queued prof { updateMatchedTracks prof ts count q with ts.tracks := agedTracks prof ts count q, pairs := [] }
      (createUnmatchedTracks prof count q
        { updateMatchedTracks prof ts count q with ts.tracks := agedTracks prof ts count q, pairs := [] }) q count :=
    createUnmatchedTracks_queued rfl henough
  refine ⟨hfed.pairs, rfl, hqueued.pairs, fun i slot hi => ?_, hqueued.rest⟩
  have hcontacts : (updateMatchedTracks prof ts count q).ts.contacts = ts.contacts := hupd.contacts
  refine (hqueued.fresh i slot hi).trans ?_
  show freshTrack prof (agedTracks prof ts count q)
    ((updateMatchedTracks prof ts count q).ts.contacts i) = _
  rw [hcontacts]

/-- From the frame of the contacts and that of the reordered ones. -/
theorem Formed.same {a b : Heat × Report} (h : Reordered σ ts ts')
    (hσ : ∀ i, σ i < count ↔ i < count)
    (hp : Pairing ts.tracks count q)
    (henough : Handout.rank (waits q) count ≤ (freeSlots (agedTracks prof ts count q)).length)
    (ha : Formed prof ts count q a) (hb : Formed prof ts' count (fun i => q (σ i)) b) :
      SameFrame σ a b := by
  have haged : agedTracks prof ts' count (fun i => q (σ i)) = agedTracks prof ts count q :=
    agedTracks_reordered h hσ hp
  have hupdated := (updateMatchedTracks_reordered prof h hσ hp).2
  have hcreated : ∀ i slot, (i, slot) ∈ b.2.created ↔
      Handout.Given (freeSlots (agedTracks prof ts count q))
      (fun i => waits q (σ i)) count i slot := by
    intro i slot
    rw [hb.created, haged]
    rfl
  have hslots : ∀ slot, Fills b.2.created slot ↔ Fills a.2.created slot := by
    intro slot
    simp only [Fills, hcreated, ha.created]
    exact Handout.given_reorder hσ
  obtain ⟨π, hfix, hmove⟩ := Handout.exists_perm
    (freeSlots_nodup (agedTracks prof ts count q)) henough hσ
  have hkept : ∀ slot, ¬ Fills a.2.created slot → b.1.tracks slot = a.1.tracks slot := by
    intro slot hs
    rw [ha.kept slot hs, hb.kept slot fun hs' => hs ((hslots slot).mp hs'), haged]
  have hfills : ∀ slot, Fills a.2.created slot ↔
      ∃ i, Handout.Given (freeSlots (agedTracks prof ts count q)) (waits q) count i slot :=
      fun slot => by
    simp only [Fills, ha.created]
  have hnew : ∀ i slot, (σ i, slot) ∈ a.2.created → (i, π slot) ∈ b.2.created := fun i slot hi =>
    (hcreated i _).mpr (hmove i slot ((ha.created _ slot).mp hi))
  refine ⟨fun i slot => ?_, ?_, hslots, hkept, π, fun slot hs => hfix slot fun hg =>
    hs ((hfills slot).mpr hg), hnew,
    fun slot => ?_⟩
  · rw [ha.matched, hb.matched, hσ]
  · rw [ha.freed, hb.freed, haged, hupdated]
  · by_cases hs : Fills a.2.created slot
    · obtain ⟨i, hi⟩ := hs
      have hi' : (σ (σ.symm i), slot) ∈ a.2.created := by rw [σ.apply_symm_apply]; exact hi
      rw [hb.fresh _ _ (hnew _ slot hi'), ha.fresh i slot hi, haged, h.contacts, σ.apply_symm_apply]
    · rw [hfix slot fun hg => hs ((hfills slot).mpr hg)]
      exact hkept slot hs

end

/-- The order of the contacts decides who gets which of the free slots, and nothing else. -/
theorem trackContacts_reordered (prof : Profile) (ts : Heat) (count : Nat) (σ : Equiv.Perm Nat)
    (hσ : ∀ i, σ i < count ↔ i < count) (hunique : ∃ q, Pairs.Unique (Gate prof ts)
    (slotCost prof ts) count q)
    (henough : EnoughSlots prof ts count) :
    SameFrame σ (trackContacts prof (ts, count)) (trackContacts prof (ts.reordered σ, count)) := by
  have hpair := assignTracks_pairing prof ts count
  have hslots := assignTracks_reordered hσ hunique
  have htracks := assignTracks_frame prof ts count
  have hcontacts := assignTracks_contacts prof ts count
  have htracks' := assignTracks_frame prof (ts.reordered σ) count
  have hcontacts' := assignTracks_contacts prof (ts.reordered σ) count
  unfold EnoughSlots at henough
  unfold trackContacts
  simp only [hslots]
  generalize (assignTracks prof ts count).2 = q at hpair henough ⊢
  generalize (assignTracks prof ts count).1 = a at htracks hcontacts ⊢
  generalize (assignTracks prof (ts.reordered σ) count).1 = b at htracks' hcontacts' ⊢
  have hstart : Reordered (Equiv.refl Nat) ts a := ⟨htracks, fun i => by rw [hcontacts]; rfl⟩
  have hab : Reordered σ a b := ⟨by rw [htracks', htracks]; rfl,
    fun i => by rw [hcontacts', hcontacts]; rfl⟩
  have hpaira : Pairing a.tracks count q := by rw [htracks]; exact hpair
  have hpairb : Pairing b.tracks count fun i => q (σ i) := by
    rw [hab.tracks]
    exact ⟨fun i slot hi => (hσ i).mp (hpaira.lt _ slot hi),
      fun i slot hi => hpaira.active _ slot hi,
      fun i j slot hi hj => σ.injective (hpaira.inj _ _ slot hi hj)⟩
  have haged : agedTracks prof a count q = agedTracks prof ts count q :=
    agedTracks_reordered hstart (fun _ => Iff.rfl) hpair
  rw [← haged] at henough
  have henough' : Handout.rank (waits fun i => q (σ i)) count ≤
    (freeSlots (agedTracks prof b count fun i => q (σ i))).length := by
    have hrank : Handout.rank (fun i => waits q (σ i)) count = Handout.rank (waits q) count :=
      Handout.rank_reorder hσ
    rw [agedTracks_reordered hab hσ hpaira]
    exact Nat.le_trans (Nat.le_of_eq hrank) henough
  exact (reportFrame_formed hpaira henough).same hab hσ hpaira henough
    (reportFrame_formed hpairb henough')

/-- Two fingers at rest, confirmed. -/
def twoTracks (slot : Slot) : Track :=
  if slot = 0 then { rawX := 8000, rawY := 9000, outputX := 8000, outputY := 9000, age := 40, active := true, confirmed := true }
  else if slot = 3 then { rawX := 20000, rawY := 4000, outputX := 20000, outputY := 4000, age := 7, active := true, confirmed := true }
  else .zero

/-- Each finger again, a little moved, and two new ones. -/
def fourContacts : List Contact := [
  { x := 20060, y := 4010, strength := 400, pixels := 12, shapeAllowed := true },
  { x := 3000, y := 30000, strength := 250, pixels := 9, shapeAllowed := true },
  { x := 7950, y := 9100, strength := 500, pixels := 15, shapeAllowed := true },
  { x := 31000, y := 31000, strength := 300, pixels := 10, shapeAllowed := true }]

def twoOfFour : Heat := { Heat.zero with tracks := twoTracks, contacts := fun i => fourContacts.getD i {} }

/-- The pairs of `twoOfFour`. -/
def twoPairs (i : Nat) : Option Slot := if i = 0 then some 3 else if i = 2 then some 0 else none

theorem twoPairs_forced : ∀ i, i < 4 → ∀ slot : Slot, (twoTracks slot).active = true ∧
    slotCost ⟨false, false⟩ twoOfFour slot i < assignInvalidCost → twoPairs i = some slot := by
  decide +kernel

theorem twoPairs_ok : ∀ i, i < 4 → ∀ slot : Slot, twoPairs i = some slot → (twoTracks slot).active = true ∧
    slotCost ⟨false, false⟩ twoOfFour slot i < assignInvalidCost := by
  decide +kernel

theorem twoPairs_unique : Pairs.Unique (Gate ⟨false, false⟩ twoOfFour)
    (slotCost ⟨false, false⟩ twoOfFour) 4 twoPairs := by
  have hlt : ∀ i slot, twoPairs i = some slot → i < 4 := by
    intro i slot h
    unfold twoPairs at h
    split at h
    · omega
    split at h
    · omega
    · cases h
  refine Pairs.unique_of_forced ⟨hlt, fun i slot h => ?_, fun i j slot hi hj => ?_⟩
    fun i slot hi hg => ?_
  · exact gate_iff.mpr (twoPairs_ok i (hlt i slot h) slot h)
  · have hinj : ∀ i, i < 4 → ∀ j, j < 4 → ∀ slot : Slot, twoPairs i = some slot →
      twoPairs j = some slot → i = j := by
      decide
    exact hinj i (hlt i slot hi) j (hlt j slot hj) slot hi hj
  · exact twoPairs_forced i hi slot (gate_iff.mp hg)

/-- The first contact, matched, and the last one, new, change places. -/
theorem trackContacts_reordered_two :
    SameFrame (Equiv.swap 0 3) (trackContacts ⟨false, false⟩ (twoOfFour, 4))
      (trackContacts ⟨false, false⟩ (twoOfFour.reordered (Equiv.swap 0 3), 4)) := by
  refine trackContacts_reordered ⟨false, false⟩ twoOfFour 4 (Equiv.swap 0 3) (fun i => ?_) ⟨_, twoPairs_unique⟩
    (by unfold EnoughSlots; decide +kernel)
  rw [Equiv.swap_apply_def]
  split
  · omega
  split
  · omega
  · rfl

end Sp11Touch
