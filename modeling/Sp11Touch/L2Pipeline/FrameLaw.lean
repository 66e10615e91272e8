import Sp11Touch.L2Pipeline.HeatContacts
/-!
# What one frame does to each slot

`reportFrame` runs loops over contacts and slots. `FrameLaw` says what they
leave in a slot: a matched slot holds the update of its track by its contact,
a created one a fresh track for its contact, and every other slot its track
one frame older.
-/
namespace Sp11Touch
open CInt

/-- The slot is fed by a pair of the list. -/
def Fills (pairs : List (Nat × Slot)) (slot : Slot) : Prop := ∃ i, (i, slot) ∈ pairs

/-- The frame from `ts` to `after` with report `r`. A fresh track is built from the tracks at its
creation; those matched in the frame are already as they are after it. -/
structure FrameLaw (prof : Profile) (ts after : Heat) (r : Report) : Prop where
  contacts : after.contacts = ts.contacts
  matched : ∀ i slot, (i, slot) ∈ r.matched → i < r.contactCount ∧ (ts.tracks slot).active = true ∧
    after.tracks slot = updateTrack prof (ts.tracks slot) (ts.contacts i)
  created : ∀ i slot, (i, slot) ∈ r.created → i < r.contactCount ∧ ¬ Fills r.matched slot ∧
    (advanceTrack false (ts.tracks slot)).active = false ∧
    ∃ mid : Slot → Track, (∀ s, Fills r.matched s → mid s = after.tracks s) ∧
      after.tracks slot = freshTrack prof mid (ts.contacts i)
  aged : ∀ slot, ¬ Fills r.matched slot → ¬ Fills r.created slot →
    after.tracks slot = advanceTrack false (ts.tracks slot)
  freed : ∀ slot, slot ∈ r.freed ↔ (ts.tracks slot).active = true ∧ ¬ Fills r.matched slot ∧
    (advanceTrack false (ts.tracks slot)).active = false
  distinct : ∀ i j slot, (i, slot) ∈ r.matched ++ r.created →
    (j, slot) ∈ r.matched ++ r.created → i = j
  reported : ∀ slot x y, (slot, x, y) ∈ r.reported → (after.tracks slot).active = true ∧
    (after.tracks slot).confirmed = true ∧ x = (after.tracks slot).outputX ∧
    y = (after.tracks slot).outputY ∧
    Fills (r.matched ++ r.created) slot

/-! ## Matched slots -/

/-- The slots of the contacts below `k` hold their updates. -/
structure Updated (prof : Profile) (ts : Heat) (contactSlots : Nat → Option Slot) (k : Nat)
    (f : Feed) : Prop where
  contacts : f.ts.contacts = ts.contacts
  tracks : ∀ i slot, i < k → contactSlots i = some slot →
    f.ts.tracks slot = updateTrack prof (ts.tracks slot) (ts.contacts i)

theorem updateMatched_updated {prof : Profile} {ts : Heat} {contactSlots : Nat → Option Slot}
    {k : Nat} {f : Feed}
    (hinj : ∀ i j slot, contactSlots i = some slot → contactSlots j = some slot → i = j)
    (hfed : Fed ts contactSlots k f) (h : Updated prof ts contactSlots k f) :
    Updated prof ts contactSlots (k + 1) (updateMatched prof contactSlots k f) := by
  unfold updateMatched
  cases hk : contactSlots k with
  | none =>
    refine ⟨h.contacts, fun i slot hi hs => ?_⟩
    have hne : i ≠ k := fun he => by rw [he, hk] at hs; cases hs
    exact h.tracks i slot (by omega) hs
  | some sk =>
    -- the slot was not fed before, so its track is the one before the frame
    have hold : f.ts.tracks sk = ts.tracks sk := by
      apply hfed.rest
      refine Bool.eq_false_iff.mpr fun hc => ?_
      obtain ⟨i, hi, hs⟩ := (hfed.slots sk).mp hc
      exact absurd (hinj i k sk hs hk) (Nat.ne_of_lt hi)
    refine ⟨h.contacts, fun i slot hi hs => ?_⟩
    by_cases he : slot = sk
    · subst he
      obtain rfl := hinj i k slot hs hk
      simp only [Function.update_self, hold, h.contacts]
    · have hik : i ≠ k := fun hik => by rw [hik, hk] at hs; exact he (Option.some.inj hs).symm
      simp only [Function.update_of_ne he]
      exact h.tracks i slot (by omega) hs

theorem updateMatchedTracks_updated {prof : Profile} {ts : Heat} {contactSlots : Nat → Option Slot}
    (count : Nat)
    (hinj : ∀ i j slot, contactSlots i = some slot → contactSlots j = some slot → i = j) :
    Updated prof ts contactSlots count (updateMatchedTracks prof ts count contactSlots) := by
  unfold updateMatchedTracks
  refine (loop_ind (fun k f => Fed ts contactSlots k f ∧ Updated prof ts contactSlots k f) ⟨?_, ?_⟩
    fun i t _ h => ⟨updateMatched_fed h.1, updateMatched_updated hinj h.1 h.2⟩).2
  · exact ⟨by simp, by simp, fun _ => rfl, by simp, fun _ _ => rfl⟩
  · exact ⟨rfl, fun i slot hi => absurd hi (Nat.not_lt_zero i)⟩

/-! ## Created slots -/

/-- The slots created so far hold fresh tracks, and the others are as at the start. -/
structure Built (prof : Profile) (start g : Feed) : Prop where
  contacts : g.ts.contacts = start.ts.contacts
  fresh : ∀ i slot, (i, slot) ∈ g.pairs → ∃ mid : Slot → Track,
    (∀ s, (start.ts.tracks s).active = true → mid s = start.ts.tracks s) ∧
    g.ts.tracks slot = freshTrack prof mid (start.ts.contacts i)
  rest : ∀ slot, ¬ Fills g.pairs slot → g.ts.tracks slot = start.ts.tracks slot

theorem createUnmatched_built {prof : Profile} {start g : Feed} {contactSlots : Nat → Option Slot}
    {k : Nat}
    (hr : Renewed start contactSlots k g) (h : Built prof start g) :
    Built prof start (createUnmatched prof contactSlots k g) := by
  rcases createUnmatched_cases prof contactSlots k g with ⟨he, _⟩ | ⟨sk, _, hf, he⟩
  · rw [he]
    exact h
  · rw [he]
    refine ⟨h.contacts, fun i slot hm => ?_, fun slot hs => ?_⟩
    · rcases Feed.mem_filled.mp hm with ⟨rfl, rfl⟩ | hm
      · exact ⟨g.ts.tracks, hr.keep, by simp [Feed.filled, h.contacts]⟩
      · have hne : slot ≠ sk := fun hslot => hr.not_filled (freeSlot_inactive hf) i (hslot ▸ hm)
        rw [g.filled_tracks_of_ne hne]
        exact h.fresh i slot hm
    · have hne : slot ≠ sk := fun hslot => hs ⟨k, Feed.mem_filled.mpr (Or.inl ⟨rfl, hslot⟩)⟩
      rw [g.filled_tracks_of_ne hne]
      refine h.rest slot fun hfill => ?_
      obtain ⟨i, hi⟩ := hfill
      exact hs ⟨i, Feed.mem_filled.mpr (Or.inr hi)⟩

theorem createUnmatchedTracks_built {prof : Profile} {start : Feed} (count : Nat)
    (contactSlots : Nat → Option Slot) (hp : start.pairs = [])
    (hc : ∀ slot, start.currentSlots slot = true →
      (start.ts.tracks slot).active = true ∧ (start.ts.tracks slot).missed = 0) :
    Built prof start (createUnmatchedTracks prof count contactSlots start) := by
  unfold createUnmatchedTracks
  refine (loop_ind (fun k g => Renewed start contactSlots k g ∧ Built prof start g) ⟨?_, ?_⟩
    fun i t _ h => ⟨createUnmatched_renewed h.1, createUnmatched_built h.1 h.2⟩).2
  · exact ⟨hc, by simp [hp], by simp [hp], by simp [hp], by simp [hp], fun _ _ => rfl⟩
  · exact ⟨rfl, by simp [hp], fun _ _ => rfl⟩

/-! ## The frame -/

theorem mem_collectLinuxContacts {tracks : Slot → Track} {currentSlots : Slot → Bool} {slot : Slot}
    {x y : Nat}
    (h : (slot, x, y) ∈ collectLinuxContacts tracks currentSlots) :
    x = (tracks slot).outputX ∧ y = (tracks slot).outputY := by
  unfold collectLinuxContacts at h
  obtain ⟨s, _, hs⟩ := List.mem_filterMap.mp h
  split at hs
  · cases hs; exact ⟨rfl, rfl⟩
  · cases hs

theorem reportFrame_law {prof : Profile} {ts : Heat} {count : Nat}
    {contactSlots : Nat → Option Slot}
    (hp : Pairing ts.tracks count contactSlots) :
    FrameLaw prof ts (reportFrame prof ts count contactSlots).1
      (reportFrame prof ts count contactSlots).2 := by
  have hf := updateMatchedTracks_fed prof ts count contactSlots
  have hu : Updated prof ts contactSlots count _ := updateMatchedTracks_updated count hp.inj
  unfold reportFrame
  simp only
  generalize updateMatchedTracks prof ts count contactSlots = f at hf hu
  have hfills : ∀ slot, f.currentSlots slot = true ↔ Fills f.pairs slot := fun slot => by
    simp only [hf.slots, Fills, hf.pairs]
  have hrest : ∀ slot, ¬ Fills f.pairs slot → f.currentSlots slot = false := fun slot hs =>
    Bool.eq_false_iff.mpr fun hc => hs ((hfills slot).mp hc)
  have hb : Built prof f.agedFeed (renewTracks prof count contactSlots f) :=
    createUnmatchedTracks_built count contactSlots rfl (hf.aged_current hp)
  have hg := hf.renewed hp prof
  generalize renewTracks prof count contactSlots f = g at hb hg
  have hkeep : ∀ slot, Fills f.pairs slot → g.ts.tracks slot = f.ts.tracks slot := by
    intro slot hs
    have hc := (hfills slot).mpr hs
    exact (hg.keep slot (hf.aged_current hp slot hc).1).trans (Feed.aged_fed hc)
  have hapart : ∀ i slot, (i, slot) ∈ g.pairs → ¬ Fills f.pairs slot := by
    intro i slot hi hs
    have hc := (hfills slot).mpr hs
    rw [hf.apart hp hg hi] at hc
    cases hc
  refine { contacts := hb.contacts.trans hu.contacts, matched := fun i slot hi => ?_,
           created := fun i slot hi => ?_, aged := fun slot hm hc => ?_, freed := fun slot => ?_,
           distinct := fun i j slot hi hj => ?_, reported := fun slot x y hr => ?_ }
  · obtain ⟨hlt, hs⟩ := (hf.pairs i slot).mp hi
    refine ⟨hlt, hp.active i slot hs, ?_⟩
    simp only [hkeep slot ⟨i, hi⟩]
    exact hu.tracks i slot hlt hs
  · obtain ⟨mid, hmids, hfresh⟩ := hb.fresh i slot hi
    have hfree : (advanceUnmatchedTracks f.currentSlots f.ts.tracks slot).active = false :=
      hg.created i slot hi
    rw [hf.aged_rest (hf.apart hp hg hi)] at hfree
    refine ⟨(hg.contact i slot hi).1, hapart i slot hi, hfree, mid, fun s hs => ?_, ?_⟩
    · have hc := (hfills s).mpr hs
      exact (hmids s (hf.aged_current hp s hc).1).trans ((Feed.aged_fed hc).trans (hkeep s hs).symm)
    · simp only [hfresh, Feed.agedFeed, hu.contacts]
  · exact (hb.rest slot hc).trans (hf.aged_rest (hrest slot hm))
  · unfold freedSlots
    simp only [List.mem_filter, List.mem_finRange, true_and, Bool.and_eq_true,
      Bool.not_eq_true', hf.active]
    by_cases hs : Fills f.pairs slot
    · simp only [Feed.aged_fed ((hfills slot).mpr hs), hf.active]
      simp [hs]
    · rw [hf.aged_rest (hrest slot hs)]
      simp [hs]
  · exact hf.distinct hp hg i j slot (List.mem_append.mp hi) (List.mem_append.mp hj)
  · obtain ⟨ha, hc, hs⟩ := mem_collect hr
    obtain ⟨hx, hy⟩ := mem_collectLinuxContacts hr
    exact ⟨ha, hc, hx, hy, (hf.feeds hg hs).imp fun _ hi => List.mem_append.mpr hi⟩

theorem trackContacts_law (prof : Profile) (found : Heat × Nat) :
    FrameLaw prof found.1 (trackContacts prof found).1 (trackContacts prof found).2 := by
  have hp := assignTracks_pairing prof found.1 found.2
  have ht := assignTracks_frame prof found.1 found.2
  have hc := assignTracks_contacts prof found.1 found.2
  rw [← ht] at hp
  have h : FrameLaw prof _ _ _ := reportFrame_law hp
  unfold trackContacts
  simp only
  generalize reportFrame prof (assignTracks prof found.1 found.2).1 found.2 _ = frame at h ⊢
  exact { contacts := h.contacts.trans hc
          matched := fun i slot hi => by rw [← ht, ← hc]; exact h.matched i slot hi
          created := fun i slot hi => by rw [← ht, ← hc]; exact h.created i slot hi
          aged := fun slot hm hn => by rw [← ht]; exact h.aged slot hm hn
          freed := fun slot => by rw [← ht]; exact h.freed slot
          distinct := h.distinct, reported := h.reported }

end Sp11Touch
