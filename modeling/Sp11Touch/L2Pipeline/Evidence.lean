import Sp11Touch.L2Pipeline.FrameLaw
/-!
# Admission of tracks (default and behavior_v2)

A track is reported once it was fed often enough by contacts of an allowed
shape. `Life` counts those frames beside the run, from what the frames report
and the contacts they found: creation starts a new life, and every frame that
feeds the slot with an allowed contact adds one.

**Result.** `reported_with_evidence`: along every run from zeroed tracks, a
reported slot has lived through `requiredEvidence` such frames, the
requirement of a track is set at its creation and never changes, and a
confirmed track stays confirmed until it is freed or all are released.
-/
namespace Sp11Touch
open CInt

/-- Frames with an allowed contact in the life of each slot's track. -/
abbrev Life : Type := Slot → Nat

/-- A contact with an allowed shape fed the slot in this frame. -/
def Report.allowed (r : Report) (contacts : Nat → Contact) (slot : Slot) : Bool :=
  (r.matched ++ r.created).any fun p => p.2 == slot && (contacts p.1).shapeAllowed

/-- The lives after a frame. -/
def Report.live (r : Report) (contacts : Nat → Contact) (life : Life) : Life := fun slot =>
  (if r.created.any fun p => p.2 == slot then 0 else life slot) +
    if r.allowed contacts slot then 1 else 0

/-- The lowest requirement of the profile. -/
def confirmBase (behaviorV2 : Bool) : Nat := if behaviorV2 then behaviorConfirmNormal
    else trackConfirmNormal

/-- The contact lies within the split radius of the track's raw position. -/
def NearTrack (contact : Contact) (track : Track) : Prop :=
  ((track.rawX : Int) - contact.x) * (track.rawX - contact.x) +
    ((track.rawY : Int) - contact.y) * (track.rawY - contact.y) ≤
    trackSplitRadius * trackSplitRadius

/-- The contact may be split off the track: it has half its strength or half its pixels at most. -/
def SplitOf (contact : Contact) (track : Track) : Prop :=
  contact.strength * 2 ≤ track.strength ∨ contact.pixels * 2 ≤ track.pixels

/-- Slots that held a confirmed track when the frame ended and were fed in it. -/
def Settled (after : Heat) (r : Report) (slot : Slot) : Prop :=
  Fills (r.matched ++ r.created) slot ∧ (after.tracks slot).confirmed = true

/-- One frame from `before` to `after`; `life` counts up to its end. -/
structure EvidenceSound (behaviorV2 : Bool) (before after : Heat) (life : Life)
    (r : Report) : Prop where
  shown : ∀ slot, r.Shows slot → (after.tracks slot).requiredEvidence ≤ life slot
  kept : ∀ slot, (before.tracks slot).active = true → slot ∉ r.freed →
    (after.tracks slot).requiredEvidence = (before.tracks slot).requiredEvidence ∧
    ((before.tracks slot).confirmed = true → (after.tracks slot).confirmed = true)
  base : ∀ slot, (after.tracks slot).active = true →
    confirmBase behaviorV2 ≤ (after.tracks slot).requiredEvidence
  weak : ∀ i slot, (i, slot) ∈ r.created →
    (after.contacts i).pixels < heatMinPixels ∨ (after.contacts i).shapeAllowed = false ∨
      (∃ s, Settled after r s ∧ NearTrack (after.contacts i) (after.tracks s)) →
    trackConfirmWeak ≤ (after.tracks slot).requiredEvidence
  split : ∀ i slot, (i, slot) ∈ r.created →
    (∃ s, Settled after r s ∧ NearTrack (after.contacts i) (after.tracks s) ∧
      SplitOf (after.contacts i) (after.tracks s)) →
    (after.tracks slot).requiredEvidence = trackConfirmSplit

/-- Every frame of the run is sound. A frame that does not parse ends all lives. -/
def EvidenceRun (behaviorV2 : Bool) : Life → Heat → List Bytes → Prop
  | _, _, [] => True
  | life, ts, content :: rest =>
    match heatFrame ⟨false, behaviorV2⟩ content ts with
    | (after, some r) =>
      EvidenceSound behaviorV2 ts after (r.live after.contacts life) r ∧
        EvidenceRun behaviorV2 (r.live after.contacts life) after rest
    | (after, none) => EvidenceRun behaviorV2 (fun _ => 0) after rest

/-! ## The requirement -/

section
variable {contact : Contact} {track : Track}

theorem requirementNear_ge (contact : Contact) (track : Track) {required : Nat}
    (h : required ≤ trackConfirmSplit) :
    required ≤ requirementNear contact track required ∧
      requirementNear contact track required ≤ trackConfirmSplit := by
  unfold requirementNear
  simp only [trackConfirmSplit, trackConfirmWeak] at *
  split
  · omega
  · split
    · omega
    · split <;> omega

theorem requirementNear_of_near {required : Nat} (ha : track.active = true)
    (hc : track.confirmed = true)
    (hm : track.missed = 0) (hn : NearTrack contact track) :
    requirementNear contact track required =
      if contact.strength * 2 ≤ track.strength ∨
        contact.pixels * 2 ≤ track.pixels then trackConfirmSplit
      else max required trackConfirmWeak := by
  unfold requirementNear
  unfold NearTrack at hn
  simp only [ha, hc, hm, Bool.not_true, Bool.or_self, ne_eq, not_true_eq_false, decide_false,
    Bool.false_eq_true, if_false, gt_iff_lt, not_lt.mpr hn]

end

/-- A bound that one slot reaches and none leaves holds of the whole fold. -/
theorem foldl_reaches {f : Nat → Slot → Nat} {P : Nat → Prop} (hkeep : ∀ r s, P r → P (f r s))
    {s : Slot}
    (hreach : ∀ r, r ≤ trackConfirmSplit → P (f r s))
      (hle : ∀ r s, r ≤ trackConfirmSplit → f r s ≤ trackConfirmSplit) :
    ∀ (l : List Slot) (r : Nat), r ≤ trackConfirmSplit → s ∈ l ∨ P r → P (l.foldl f r)
  | [], r, _, h => h.resolve_left List.not_mem_nil
  | t :: l, r, hr, h => by
    refine foldl_reaches hkeep hreach hle l (f r t) (hle r t hr) ?_
    rcases h with hs | hp
    · rcases List.mem_cons.mp hs with rfl | hs
      · exact Or.inr (hreach r hr)
      · exact Or.inl hs
    · exact Or.inr (hkeep r t hp)

theorem requirementAlone_bounds (prof : Profile) (contact : Contact) :
    requirementAlone prof contact ≤ trackConfirmSplit ∧
      confirmBase prof.behaviorV2 ≤ requirementAlone prof contact ∧
      (contact.pixels < heatMinPixels ∨ contact.shapeAllowed = false →
        trackConfirmWeak ≤ requirementAlone prof contact) := by
  unfold requirementAlone confirmBase
  simp only [trackConfirmSplit, trackConfirmWeak, trackConfirmNormal, behaviorConfirmNormal]
  cases contact.shapeAllowed <;> cases prof.behaviorV2 <;> by_cases hp :
    contact.pixels < heatMinPixels <;>
    simp [hp]

/-- A bound below the requirement stays one, track by track. -/
theorem requirementNear_keeps (contact : Contact) (track : Track) {b required : Nat}
    (h : b ≤ required ∧ required ≤ trackConfirmSplit) :
    b ≤ requirementNear contact track required ∧
      requirementNear contact track required ≤ trackConfirmSplit := by
  obtain ⟨h1, h2⟩ := requirementNear_ge contact track h.2
  exact ⟨Nat.le_trans h.1 h1, h2⟩

theorem confirmationRequirement_ge {prof : Profile} {contact : Contact} {b : Nat}
    (tracks : Slot → Track) (h : b ≤ requirementAlone prof contact) :
    b ≤ confirmationRequirement prof tracks contact := by
  unfold confirmationRequirement
  exact (List.foldlRecOn (motive := fun r => b ≤ r ∧ r ≤ trackConfirmSplit) _ _
    ⟨h, (requirementAlone_bounds prof contact).1⟩ fun _ hr slot _ =>
    requirementNear_keeps contact (tracks slot) hr).1

section
variable {tracks : Slot → Track} {contact : Contact} {s : Slot}

theorem confirmationRequirement_weak (prof : Profile) (ha : (tracks s).active = true)
    (hc : (tracks s).confirmed = true) (hm : (tracks s).missed = 0)
    (hn : NearTrack contact (tracks s)) :
    trackConfirmWeak ≤ confirmationRequirement prof tracks contact := by
  refine (foldl_reaches (P := fun r => trackConfirmWeak ≤ r ∧ r ≤ trackConfirmSplit)
    (s := s) ?_ ?_ ?_ _ _
    (requirementAlone_bounds prof contact).1 (Or.inl (List.mem_finRange s))).1
  · exact fun r t hr => requirementNear_keeps contact (tracks t) hr
  · intro r hr
    refine ⟨?_, (requirementNear_ge contact (tracks s) hr).2⟩
    rw [requirementNear_of_near ha hc hm hn]
    split
    · decide
    · exact Nat.le_max_right _ _
  · exact fun r t hr => (requirementNear_ge contact (tracks t) hr).2

theorem confirmationRequirement_split (prof : Profile) (ha : (tracks s).active = true)
    (hc : (tracks s).confirmed = true) (hm : (tracks s).missed = 0)
    (hn : NearTrack contact (tracks s))
    (hs : SplitOf contact (tracks s)) : confirmationRequirement prof tracks contact =
      trackConfirmSplit := by
  refine foldl_reaches (P := fun r => r = trackConfirmSplit) (s := s) ?_ ?_ ?_ _ _
    (requirementAlone_bounds prof contact).1 (Or.inl (List.mem_finRange s))
  · intro r t hr
    obtain ⟨h1, h2⟩ := requirementNear_ge contact (tracks t) (Nat.le_of_eq hr)
    omega
  · intro r _
    rw [requirementNear_of_near ha hc hm hn]
    exact if_pos hs
  · exact fun r t hr => (requirementNear_ge contact (tracks t) hr).2

end

/-! ## One track -/

/-- The evidence of a track against its life. -/
structure Earned (behaviorV2 : Bool) (life : Nat) (track : Track) : Prop where
  base : confirmBase behaviorV2 ≤ track.requiredEvidence
  evidence : track.evidence ≤ life
  confirmed : track.confirmed = true → track.requiredEvidence ≤ life

section
variable {behaviorV2 : Bool} {life : Nat} {track : Track}

theorem moveTrack_keeps (prof : Profile) (track : Track) (contact : Contact) :
    (moveTrack prof track contact).requiredEvidence = track.requiredEvidence ∧
      (moveTrack prof track contact).evidence = track.evidence ∧
      (moveTrack prof track contact).confirmed = track.confirmed := by
  unfold moveTrack
  simp only
  split
  · exact ⟨rfl, rfl, rfl⟩
  · split <;> exact ⟨rfl, rfl, rfl⟩

theorem addEvidence_earned (contact : Contact) (h : Earned behaviorV2 life track) :
    (addEvidence track contact).requiredEvidence = track.requiredEvidence ∧
      (track.confirmed = true → (addEvidence track contact).confirmed = true) ∧
      Earned behaviorV2 (life + if contact.shapeAllowed then 1 else 0)
        (addEvidence track contact) := by
  unfold addEvidence
  have hev := h.evidence
  split
  · next hc =>
    simp only [Bool.and_eq_true, Bool.not_eq_true', decide_eq_true_eq] at hc
    obtain ⟨⟨hconf, hall⟩, _⟩ := hc
    rw [hall, if_pos rfl]
    refine ⟨rfl, fun ht => ?_, h.base, by simp only; omega, fun ht => ?_⟩
    · rw [hconf] at ht; cases ht
    · simp only [decide_eq_true_eq] at ht ⊢
      omega
  · exact ⟨rfl, id, h.base, by omega, fun ht => by have := h.confirmed ht; omega⟩

theorem updateTrack_earned (contact : Contact) (h : Earned behaviorV2 life track) :
    (updateTrack ⟨false, behaviorV2⟩ track contact).requiredEvidence = track.requiredEvidence ∧
      (track.confirmed = true → (updateTrack ⟨false, behaviorV2⟩ track contact).confirmed = true) ∧
      Earned behaviorV2 (life + if contact.shapeAllowed then 1 else 0)
        (updateTrack ⟨false, behaviorV2⟩ track contact) := by
  obtain ⟨h1, h2, h3⟩ := moveTrack_keeps ⟨false, behaviorV2⟩ track contact
  unfold updateTrack
  simp only [Bool.false_eq_true, if_false]
  generalize moveTrack ⟨false, behaviorV2⟩ track contact = moved at h1 h2 h3 ⊢
  have hm : Earned behaviorV2 life { moved with
      strength := contact.strength
      pixels := contact.pixels
      shapeClass := contact.shapeClass
      age := if moved.age < 65535 then moved.age + 1 else moved.age } :=
    ⟨by rw [h1]; exact h.base, by rw [h2]; exact h.evidence, by rw [h1, h3]; exact h.confirmed⟩
  obtain ⟨e1, e2, e3⟩ := addEvidence_earned contact hm
  exact ⟨e1.trans h1, fun hc => e2 (h3.trans hc), e3.base, e3.evidence, e3.confirmed⟩

/-- Ageing holds the track or frees it. -/
theorem advanceTrack_held_or_zero (b : Bool) (track : Track) :
    advanceTrack b track = .zero ∨
      (advanceTrack b track).active = track.active ∧
      (advanceTrack b track).requiredEvidence = track.requiredEvidence ∧
      (advanceTrack b track).evidence = track.evidence ∧
      (advanceTrack b track).confirmed = track.confirmed := by
  unfold advanceTrack
  split
  · exact Or.inr ⟨rfl, rfl, rfl, rfl⟩
  · split
    · exact Or.inr ⟨rfl, rfl, rfl, rfl⟩
    · exact Or.inl rfl

theorem freshTrack_requirement (tracks : Slot → Track) (contact : Contact) :
    (freshTrack ⟨false, behaviorV2⟩ tracks contact).requiredEvidence =
      confirmationRequirement ⟨false, behaviorV2⟩ tracks contact := rfl

theorem freshTrack_unconfirmed (tracks : Slot → Track) (contact : Contact) :
    (freshTrack ⟨false, behaviorV2⟩ tracks contact).confirmed = false := by
  have hge : confirmBase behaviorV2 ≤ confirmationRequirement ⟨false, behaviorV2⟩ tracks contact :=
    confirmationRequirement_ge tracks (requirementAlone_bounds ⟨false, behaviorV2⟩ contact).2.1
  have hbase : 2 ≤ confirmBase behaviorV2 := by cases behaviorV2 <;> decide
  simp only [freshTrack, Bool.false_eq_true, if_false, decide_eq_false_iff_not]
  omega

theorem freshTrack_earned (tracks : Slot → Track) (contact : Contact) :
    Earned behaviorV2 (if contact.shapeAllowed then 1 else 0)
    (freshTrack ⟨false, behaviorV2⟩ tracks contact) := by
  refine ⟨?_, Nat.le_refl _, fun hc => ?_⟩
  · exact confirmationRequirement_ge tracks (requirementAlone_bounds
      ⟨false, behaviorV2⟩ contact).2.1
  · rw [freshTrack_unconfirmed] at hc; cases hc

end

/-! ## One frame -/

/-- Every active track has earned its state. -/
def AllEarned (behaviorV2 : Bool) (life : Life) (tracks : Slot → Track) : Prop :=
  ∀ slot, (tracks slot).active = true → Earned behaviorV2 (life slot) (tracks slot)

section
variable {behaviorV2 : Bool} {ts after : Heat} {r : Report} {life : Life}

theorem any_fills {pairs : List (Nat × Slot)} {slot : Slot} :
    (pairs.any fun p => p.2 == slot) = true ↔ Fills pairs slot := by
  simp [Fills]

/-- The frame's contribution is that of the contact that fed the slot. -/
theorem FrameLaw.allowed {prof : Profile} (h : FrameLaw prof ts after r) {i : Nat} {slot : Slot}
    (hi : (i, slot) ∈ r.matched ++ r.created) (contacts : Nat → Contact) :
    r.allowed contacts slot = (contacts i).shapeAllowed := by
  unfold Report.allowed
  cases ha : (contacts i).shapeAllowed with
  | true => exact List.any_eq_true.mpr ⟨(i, slot), hi, by simp [ha]⟩
  | false =>
    refine List.any_eq_false.mpr fun p hp hpa => ?_
    simp only [Bool.and_eq_true, beq_iff_eq] at hpa
    obtain ⟨j, s⟩ := p
    obtain ⟨rfl, hsa⟩ := hpa
    rw [h.distinct j i s hp hi, ha] at hsa
    cases hsa

theorem FrameLaw.live_matched {prof : Profile} (h : FrameLaw prof ts after r) {i : Nat}
    {slot : Slot}
    (hi : (i, slot) ∈ r.matched) (contacts : Nat → Contact) (life : Life) :
    r.live contacts life slot = life slot + if (contacts i).shapeAllowed then 1 else 0 := by
  have hno : ¬ Fills r.created slot := fun hf => by
    obtain ⟨j, hj⟩ := hf
    exact (h.created j slot hj).2.1 ⟨i, hi⟩
  unfold Report.live
  rw [h.allowed (List.mem_append_left _ hi), if_neg (mt any_fills.mp hno)]

theorem FrameLaw.live_created {prof : Profile} (h : FrameLaw prof ts after r) {i : Nat}
    {slot : Slot}
    (hi : (i, slot) ∈ r.created) (contacts : Nat → Contact) (life : Life) :
    r.live contacts life slot = if (contacts i).shapeAllowed then 1 else 0 := by
  unfold Report.live
  rw [h.allowed (List.mem_append_right _ hi), if_pos (any_fills.mpr ⟨i, hi⟩), Nat.zero_add]

theorem live_ge (contacts : Nat → Contact) (life : Life) {slot : Slot}
    (hno : ¬ Fills r.created slot) :
    life slot ≤ r.live contacts life slot := by
  unfold Report.live
  rw [if_neg (mt any_fills.mp hno)]
  exact Nat.le_add_right _ _

theorem FrameLaw.earned (h : FrameLaw ⟨false, behaviorV2⟩ ts after r)
    (he : AllEarned behaviorV2 life ts.tracks) :
    AllEarned behaviorV2 (r.live after.contacts life) after.tracks := by
  intro slot ha
  by_cases hm : Fills r.matched slot
  · obtain ⟨i, hi⟩ := hm
    obtain ⟨_, hact, hup⟩ := h.matched i slot hi
    rw [hup, h.live_matched hi, h.contacts]
    exact (updateTrack_earned (ts.contacts i) (he slot hact)).2.2
  · by_cases hc : Fills r.created slot
    · obtain ⟨i, hi⟩ := hc
      obtain ⟨_, _, _, mid, _, hfresh⟩ := h.created i slot hi
      rw [hfresh, h.live_created hi, h.contacts]
      exact freshTrack_earned mid (ts.contacts i)
    · rw [h.aged slot hm hc] at ha ⊢
      have hge := live_ge (r := r) after.contacts life hc
      rcases advanceTrack_held_or_zero false (ts.tracks slot) with hz | ⟨h1, h2, h3, h4⟩
      · rw [hz] at ha; cases ha
      · have hold := he slot (h1.symm.trans ha)
        refine ⟨by rw [h2]; exact hold.base, ?_, fun hconf => ?_⟩
        · rw [h3]; exact Nat.le_trans hold.evidence hge
        · rw [h2]; exact Nat.le_trans (hold.confirmed (h4.symm.trans hconf)) hge

/-- A settled slot held its track already when the frame created others. -/
theorem FrameLaw.settled (h : FrameLaw ⟨false, behaviorV2⟩ ts after r) {s : Slot}
    (hs : Settled after r s) :
    Fills r.matched s ∧ (after.tracks s).active = true ∧ (after.tracks s).missed = 0 := by
  obtain ⟨i, hi⟩ := hs.1
  rcases List.mem_append.mp hi with hm | hc
  · obtain ⟨_, hact, hup⟩ := h.matched i s hm
    refine ⟨⟨i, hm⟩, ?_, ?_⟩
    · rw [hup, updateTrack_active]; exact hact
    · rw [hup]; rfl
  · obtain ⟨_, _, _, mid, _, hfresh⟩ := h.created i s hc
    have hconf := hs.2
    rw [hfresh, freshTrack_unconfirmed] at hconf
    cases hconf

theorem FrameLaw.sound (h : FrameLaw ⟨false, behaviorV2⟩ ts after r)
    (he : AllEarned behaviorV2 life ts.tracks) :
    EvidenceSound behaviorV2 ts after (r.live after.contacts life) r := by
  have hearned := h.earned he
  have hmidActive : ∀ {mid : Slot → Track} {s : Slot},
    (∀ s, Fills r.matched s → mid s = after.tracks s) →
      Settled after r s → mid s = after.tracks s ∧ (mid s).active = true ∧
      (mid s).confirmed = true ∧
        (mid s).missed = 0 := by
    intro mid s hmid hs
    obtain ⟨hf, ha, hm⟩ := h.settled hs
    rw [hmid s hf]
    exact ⟨rfl, ha, hs.2, hm⟩
  refine ⟨fun slot hs => ?_, fun slot ha hf => ?_, fun slot ha => (hearned slot ha).base,
    fun i slot hi hw => ?_, fun i slot hi hw => ?_⟩
  · obtain ⟨x, y, hm⟩ := hs
    obtain ⟨ha, hc, _⟩ := h.reported slot x y hm
    exact (hearned slot ha).confirmed hc
  · by_cases hm : Fills r.matched slot
    · obtain ⟨i, hi⟩ := hm
      obtain ⟨_, hact, hup⟩ := h.matched i slot hi
      obtain ⟨h1, h2, _⟩ := updateTrack_earned (ts.contacts i) (he slot hact)
      rw [hup]
      exact ⟨h1, h2⟩
    · have hlive : (advanceTrack false (ts.tracks slot)).active = true := by
        by_contra hz
        exact hf ((h.freed slot).mpr ⟨ha, hm, Bool.eq_false_iff.mpr hz⟩)
      have hc : ¬ Fills r.created slot := fun hc => by
        obtain ⟨i, hi⟩ := hc
        rw [(h.created i slot hi).2.2.1] at hlive
        cases hlive
      rw [h.aged slot hm hc]
      rcases advanceTrack_held_or_zero false (ts.tracks slot) with hz | ⟨_, h2, _, h4⟩
      · rw [hz] at hlive; cases hlive
      · exact ⟨h2, fun hconf => h4.trans hconf⟩
  · obtain ⟨_, _, _, mid, hmid, hfresh⟩ := h.created i slot hi
    rw [hfresh, freshTrack_requirement, ← h.contacts]
    rcases hw with hw | hw | ⟨s, hs, hn⟩
    · exact confirmationRequirement_ge mid ((requirementAlone_bounds _ _).2.2 (Or.inl hw))
    · exact confirmationRequirement_ge mid ((requirementAlone_bounds _ _).2.2 (Or.inr hw))
    · obtain ⟨heq, h1, h2, h3⟩ := hmidActive hmid hs
      exact confirmationRequirement_weak _ h1 h2 h3 (heq ▸ hn)
  · obtain ⟨_, _, _, mid, hmid, hfresh⟩ := h.created i slot hi
    obtain ⟨s, hs, hn, hsplit⟩ := hw
    obtain ⟨heq, h1, h2, h3⟩ := hmidActive hmid hs
    rw [hfresh, freshTrack_requirement, ← h.contacts]
    exact confirmationRequirement_split _ h1 h2 h3 (heq ▸ hn) (heq ▸ hsplit)

end

/-! ## Runs -/

theorem evidenceRun_of_earned (behaviorV2 : Bool) : ∀ (frames : List Bytes) (life : Life)
    (ts : Heat),
    AllEarned behaviorV2 life ts.tracks → EvidenceRun behaviorV2 life ts frames
  | [], _, _, _ => trivial
  | content :: rest, life, ts, he => by
    unfold EvidenceRun heatFrame reportHeatContacts
    cases HeatFrame.extractHeatmap content ts.buf with
    | mk buf res => cases res with
      | error e =>
        exact evidenceRun_of_earned behaviorV2 rest _ _ fun slot ha => nomatch ha
      | ok _ =>
        simp only [parsedFrame]
        have ht := (findContacts_found ⟨false, behaviorV2⟩ { ts with buf := buf }).1
        have hlaw := trackContacts_law ⟨false, behaviorV2⟩
          (findContacts ⟨false, behaviorV2⟩ { ts with buf := buf })
        generalize findContacts ⟨false, behaviorV2⟩ { ts with buf := buf } = found at ht hlaw ⊢
        have he' : AllEarned behaviorV2 life found.1.tracks := by rw [ht]; exact he
        refine ⟨?_, evidenceRun_of_earned behaviorV2 rest _ _ (hlaw.earned he')⟩
        have hs := hlaw.sound he'
        exact ⟨hs.shown, fun slot ha => by rw [← ht] at *; exact hs.kept slot ha, hs.base,
          hs.weak, hs.split⟩

/-- From zeroed tracks, in both profiles and for every list of frames. -/
theorem reported_with_evidence (behaviorV2 : Bool) (ts : Heat) (frames : List Bytes) :
    EvidenceRun behaviorV2 (fun _ => 0) { ts with tracks := zeroTracks } frames :=
  evidenceRun_of_earned behaviorV2 frames _ _ fun _ ha => nomatch ha

end Sp11Touch
