import Sp11Touch.L1Encoding.HeatFresh
import Sp11Touch.L2Pipeline.HeatContacts
/-!
# A frame depends on earlier frames through the tracks only

Ten scratch arrays of `struct g6ts` are shared by all frames and are cleared
in part only. Two driver states with the same tracks and otherwise arbitrary
contents are run side by side: the parser leaves the same grid
(`extractHeatmap_twin`), a flood fill reads only what it queued itself
(`Flood.drain_alike`), each component sets its own flags, and the contacts
are read below their count only.

* `frames_isolated`: both states return, show and leave the same, for one
  frame and for every run of frames.
-/
namespace Sp11Touch
open CInt

/-! ## Shape features read the grid and the component flags -/

/-- The state with all other fields cleared. -/
def Heat.view (ts : Heat) : Heat :=
  { Heat.zero with buf.heatmap := ts.buf.heatmap, heatComponent := ts.heatComponent }

theorem phase76OutputCentroid_view (ts : Heat) (contact : Contact) :
    phase76OutputCentroid ts contact = phase76OutputCentroid ts.view contact := by
  have hv : ts.value = ts.view.value := rfl
  have hc : ts.heatComponent = ts.view.heatComponent := rfl
  unfold phase76OutputCentroid
  rw [hv, hc]

theorem localPeakCounts_view (ts : Heat) (contact : Contact) :
    localPeakCounts ts contact = localPeakCounts ts.view contact := by
  have hv : ts.value = ts.view.value := rfl
  have hc : ts.heatComponent = ts.view.heatComponent := rfl
  have hp : peakSelected ts = peakSelected ts.view := by
    unfold peakSelected peakTally
    rw [hv]
  unfold localPeakCounts
  rw [hv, hc, hp]

theorem geometryFeatures_view (ts : Heat) (contact : Contact) :
    geometryFeatures ts contact = geometryFeatures ts.view contact := rfl

theorem haloFeature_view (ts : Heat) (contact : Contact) :
    haloFeature ts contact = haloFeature ts.view contact := rfl

theorem value_of_view {a b : Heat} (h : a.view = b.view) : a.value = b.value := by
  show a.view.value = b.view.value
  rw [h]

theorem heatComponent_of_view {a b : Heat} (h : a.view = b.view) :
    a.heatComponent = b.heatComponent := by
  show a.view.heatComponent = b.view.heatComponent
  rw [h]

/-! ## Secondary passes -/

/-- The same marks and counts; the queue may differ. -/
structure SamePass (s t : SecondaryPass) : Prop where
  accepted : s.accepted = t.accepted
  largest : s.largest = t.largest
  work : s.heatWork = t.heatWork

theorem secondaryFill_same {a b : Heat} (hv : a.view = b.view) (cutoff start : Nat)
    {s t : SecondaryPass}
    (h : SamePass s t) : Flood.Alike (secondaryFill a cutoff start s).1
      (secondaryFill b cutoff start t).1 ∧
      (secondaryFill a cutoff start s).2 = (secondaryFill b cutoff start t).2 := by
  have hval := value_of_view hv
  have hcell : secondaryCell a cutoff = secondaryCell b cutoff := by
    unfold secondaryCell
    rw [hval, heatComponent_of_view hv]
  unfold secondaryFill
  rw [hval, hcell, h.work]
  have hempty : Flood.Alike ⟨t.heatWork, s.heatQueue, 0⟩ ⟨t.heatWork, t.heatQueue, 0⟩ :=
    ⟨rfl, rfl, fun k hk => absurd hk (Nat.not_lt_zero k)⟩
  exact Flood.drain_alike heatSamples 0 (hempty.push start) _

theorem secondaryStart_same {a b : Heat} (hv : a.view = b.view) (cutoff start : Nat)
    {s t : SecondaryPass}
    (h : SamePass s t) : SamePass (secondaryStart a cutoff start s)
      (secondaryStart b cutoff start t) := by
  have hval := value_of_view hv
  have hcomp := heatComponent_of_view hv
  obtain ⟨hfill, hres⟩ := secondaryFill_same hv cutoff start h
  unfold secondaryStart
  rw [hval, hcomp, h.work]
  split
  · exact h
  · generalize secondaryFill a cutoff start s = r at hfill hres
    generalize secondaryFill b cutoff start t = r' at hfill hres
    obtain ⟨f, r⟩ := r
    obtain ⟨g, r'⟩ := r'
    have hres : r = r' := hres
    subst hres
    simp only
    split
    · exact ⟨h.accepted, h.largest, hfill.mark⟩
    · exact ⟨by rw [h.accepted], by rw [h.largest], hfill.mark⟩

theorem secondaryPass_same (pass : Nat) {s t : Heat × Contact} (hv : s.1.view = t.1.view)
    (hc : s.2 = t.2) :
    (secondaryPass pass s).1.view = (secondaryPass pass t).1.view ∧
      (secondaryPass pass s).2 = (secondaryPass pass t).2 := by
  obtain ⟨a, c⟩ := s
  obtain ⟨b, d⟩ := t
  have hc : c = d := hc
  subst hc
  have hloop : SamePass (loop heatSamples (secondaryStart a (secondaryCutoff c.peakValue pass))
      ⟨0, 0, fun _ => false, a.heatQueue⟩) (loop heatSamples
      (secondaryStart b (secondaryCutoff c.peakValue pass))
      ⟨0, 0, fun _ => false, b.heatQueue⟩) :=
    loop_rel SamePass ⟨rfl, rfl, rfl⟩ fun i s t _ h => secondaryStart_same hv _ i h
  refine ⟨hv, ?_⟩
  unfold secondaryPass
  simp only
  rw [hloop.largest, hloop.accepted]

theorem secondaryFeatures_same {a b : Heat} (hv : a.view = b.view) (contact : Contact) :
    (secondaryFeatures a contact).1.view = (secondaryFeatures b contact).1.view ∧
      (secondaryFeatures a contact).2 = (secondaryFeatures b contact).2 := by
  unfold secondaryFeatures
  simp only
  split
  · exact ⟨hv, rfl⟩
  · exact loop_rel (fun s t : Heat × Contact => s.1.view = t.1.view ∧ s.2 = t.2) ⟨hv, rfl⟩
      fun i s t _ h => secondaryPass_same i h.1 h.2

/-! ## Contacts -/

theorem shapeContact_same (prof : Profile) {a b : Heat} (hv : a.view = b.view) (contact : Contact) :
    (shapeContact prof a contact).1.view = (shapeContact prof b contact).1.view ∧
      (shapeContact prof a contact).2 = (shapeContact prof b contact).2 := by
  unfold shapeContact
  simp only
  rw [phase76OutputCentroid_view a, phase76OutputCentroid_view b, hv]
  generalize (if prof.behaviorV2 then phase76OutputCentroid b.view contact else contact) = c
  rw [localPeakCounts_view a, localPeakCounts_view b, hv]
  generalize setFeature (localPeakCounts b.view c) 0 _ = d
  obtain ⟨h1, h2⟩ := secondaryFeatures_same hv d
  generalize secondaryFeatures a d = s at h1 h2
  generalize secondaryFeatures b d = t at h1 h2
  obtain ⟨s, e⟩ := s
  obtain ⟨t, e'⟩ := t
  have h2 : e = e' := h2
  subst h2
  refine ⟨h1, ?_⟩
  simp only
  rw [geometryFeatures_view s, geometryFeatures_view t, haloFeature_view s, haloFeature_view t]
  have h1 : s.view = t.view := h1
  rw [h1]

/-- What the `start` loop keeps: the contacts below the count and the parsed
frame. The component flags are set for each component anew. -/
structure SameFind (s t : FindState) : Prop where
  seen : s.seen = t.seen
  count : s.contactCount = t.contactCount
  small : s.contactCount ≤ maxContacts
  contacts : ∀ i, i < s.contactCount → s.ts.contacts i = t.ts.contacts i
  tracks : s.ts.tracks = t.ts.tracks
  buf : HeatFrame.SameBuf true s.ts.buf t.ts.buf

theorem weakestContact_same {f g : Nat → Contact} (h : ∀ i, i < maxContacts → f i = g i) :
    weakestContact f = weakestContact g ∧ weakestContact f < maxContacts := by
  unfold weakestContact
  refine loop_rel (fun s t : Nat => s = t ∧ s < maxContacts) ⟨rfl, by decide⟩ fun k s t hk hst => ?_
  obtain ⟨rfl, hs⟩ := hst
  have h1 : k + 1 < maxContacts := Nat.add_lt_of_lt_sub hk
  rw [h _ h1, h _ hs]
  split
  · exact ⟨rfl, h1⟩
  · exact ⟨rfl, hs⟩

theorem storeContact_same {f g : Nat → Contact} {count : Nat} (hc : count ≤ maxContacts)
    (h : ∀ i, i < count → f i = g i) (contact : Contact) :
    (storeContact f contact count).2 = (storeContact g contact count).2 ∧
      ∀ i, i < (storeContact f contact count).2 →
        (storeContact f contact count).1 i = (storeContact g contact count).1 i := by
  unfold storeContact
  by_cases hlt : count < maxContacts
  · rw [if_pos hlt, if_pos hlt]
    refine ⟨rfl, fun i hi => ?_⟩
    by_cases he : i = count
    · simp only [he, Function.update_self]
    · simp only [Function.update_of_ne he]
      exact h i (by have : i < count + 1 := hi; omega)
  · have hfull : count = maxContacts := by omega
    rw [if_neg hlt, if_neg hlt]
    obtain ⟨hw, hwlt⟩ := weakestContact_same (hfull ▸ h)
    simp only
    rw [← hw, ← h _ (hfull ▸ hwlt)]
    split
    · refine ⟨rfl, fun i hi => ?_⟩
      by_cases he : i = weakestContact f
      · simp only [he, Function.update_self]
      · simp only [Function.update_of_ne he]
        exact h i hi
    · exact ⟨rfl, h⟩

theorem componentFlags_same {f g : Flood} (h : Flood.Alike f g) :
    componentFlags f = componentFlags g := by
  funext index
  unfold componentFlags
  rw [← h.tail]
  refine Bool.eq_iff_iff.mpr ?_
  simp only [List.any_eq_true, List.mem_range]
  apply Iff.intro
  · intro hk
    obtain ⟨k, hk, he⟩ := hk
    exact ⟨k, hk, h.queue k hk ▸ he⟩
  · intro hk
    obtain ⟨k, hk, he⟩ := hk
    exact ⟨k, hk, (h.queue k hk).symm ▸ he⟩

theorem nsrRejected_same {a b : HeatBuf} (h : HeatFrame.SameBuf true a b) (contact : Contact) :
    nsrRejected a contact = nsrRejected b contact := by
  unfold nsrRejected
  rw [← h.valid, ← h.count]
  cases hv : a.nsrValid with
  | false => rfl
  | true => rw [h.bins hv]

theorem admitComponent_same {prof : Profile} {s t : FindState} (h : SameFind s t) {f g : Flood}
    (hf : Flood.Alike f g) (contact : Contact) :
    SameFind (admitComponent prof s f contact) (admitComponent prof t g contact) := by
  unfold admitComponent
  rw [nsrRejected_same h.buf, componentFlags_same hf]
  split
  · exact ⟨h.seen, h.count, h.small, h.contacts, h.tracks, h.buf⟩
  split
  · exact ⟨h.seen, h.count, h.small, h.contacts, h.tracks, h.buf⟩
  split
  · exact ⟨h.seen, h.count, h.small, h.contacts, h.tracks, h.buf⟩
  · have hview : ({ s.ts with heatComponent := componentFlags g } : Heat).view =
        ({ t.ts with heatComponent := componentFlags g } : Heat).view := by
      have hm := h.buf.heatmap rfl
      unfold Heat.view
      simp only [hm]
    obtain ⟨hv, hc⟩ := shapeContact_same prof hview (locateContact contact)
    obtain ⟨w, q, hs⟩ := shapeContact_frame prof { s.ts with heatComponent := componentFlags g }
      (locateContact contact)
    obtain ⟨w', q', ht⟩ := shapeContact_frame prof { t.ts with heatComponent := componentFlags g }
      (locateContact contact)
    generalize shapeContact prof { s.ts with heatComponent := componentFlags g } _ = x at hv hc hs
    generalize shapeContact prof { t.ts with heatComponent := componentFlags g } _ = y at hv hc ht
    obtain ⟨x, c⟩ := x
    obtain ⟨y, d⟩ := y
    have hc : c = d := hc
    have hs : x = _ := hs
    have ht : y = _ := ht
    subst hc hs ht
    obtain ⟨h1, h2⟩ := storeContact_same h.small h.contacts c
    rw [h.count] at h1 h2
    refine ⟨h.seen, ?_, ?_, ?_, h.tracks, h.buf⟩
    · simp only
      rw [h.count]
      exact h1
    · simp only
      rw [h.count]
      exact storeContact_count _ _ (h.count ▸ h.small)
    · simp only
      rw [h.count]
      exact h2

theorem findStart_same {prof : Profile} (start : Nat) {s t : FindState} (h : SameFind s t) :
    SameFind (findStart prof start s) (findStart prof start t) := by
  have hval : s.ts.value = t.ts.value := by
    unfold Heat.value
    rw [h.buf.heatmap rfl]
  have hact : s.ts.heatActive = t.ts.heatActive := by
    unfold Heat.heatActive
    rw [hval]
  have hcomp : Flood.Alike (component s.ts s.seen start).1 (component t.ts t.seen start).1 ∧
      (component s.ts s.seen start).2 = (component t.ts t.seen start).2 := by
    have hadd : addCell s.ts = addCell t.ts := by
      unfold addCell
      rw [hval]
    have hempty : Flood.Alike ⟨t.seen, s.ts.heatQueue, 0⟩ ⟨t.seen, t.ts.heatQueue, 0⟩ :=
      ⟨rfl, rfl, fun k hk => absurd hk (Nat.not_lt_zero k)⟩
    unfold component
    rw [hact, hadd, h.seen]
    exact Flood.drain_alike heatSamples 0 (hempty.push start) _
  unfold findStart
  rw [← hact, ← h.seen]
  rw [← h.seen] at hcomp
  split
  · exact h
  · generalize component s.ts s.seen start = r at hcomp
    generalize component t.ts s.seen start = r' at hcomp
    obtain ⟨f, c⟩ := r
    obtain ⟨g, c'⟩ := r'
    obtain ⟨hf, hc⟩ := hcomp
    have hc : c = c' := hc
    subst hc
    apply admitComponent_same _ hf
    exact ⟨hf.mark, h.count, h.small, h.contacts, h.tracks, h.buf⟩

/-- The same contacts, as many as were counted. -/
structure SameContacts (count : Nat) (a b : Heat) : Prop where
  contacts : ∀ i, i < count → a.contacts i = b.contacts i
  tracks : a.tracks = b.tracks

theorem finish_same {s t : FindState} (h : SameFind s t) :
    s.finish.2 = t.finish.2 ∧ SameContacts s.finish.2 s.finish.1 t.finish.1 :=
  ⟨h.count, h.contacts, h.tracks⟩

theorem findContacts_same (prof : Profile) {a b : Heat} (ht : a.tracks = b.tracks)
    (hb : HeatFrame.SameBuf true a.buf b.buf) : (findContacts prof a).2 = (findContacts prof b).2 ∧
      SameContacts (findContacts prof a).2 (findContacts prof a).1 (findContacts prof b).1 := by
  have h0 : SameFind ⟨a, fun _ => false, 0⟩ ⟨b, fun _ => false, 0⟩ :=
    ⟨rfl, rfl, Nat.zero_le _, fun i hi => absurd hi (Nat.not_lt_zero i), ht, hb⟩
  unfold findContacts
  exact finish_same (loop_rel SameFind h0 fun i s t _ h => findStart_same i h)

/-! ## Assignment and the frame -/

theorem assignTracks_same (prof : Profile) {a b : Heat} {count : Nat} (h : SameContacts count a b) :
    (assignTracks prof a count).2 = (assignTracks prof b count).2 ∧
      SameContacts count (assignTracks prof a count).1 (assignTracks prof b count).1 := by
  have hcost : assignmentCost prof a (activeSlots a.tracks) count =
      assignmentCost prof b (activeSlots a.tracks) count := by
    funext row col
    unfold assignmentCost
    by_cases hc : col < count
    · rw [h.contacts col hc, h.tracks]
    · simp only [if_neg hc]
  have hs : SameContacts count (assignTracks prof a count).1 (assignTracks prof b count).1 := by
    refine ⟨?_, ?_⟩
    · rw [assignTracks_contacts, assignTracks_contacts]
      exact h.contacts
    · rw [assignTracks_frame, assignTracks_frame]
      exact h.tracks
  refine ⟨?_, hs⟩
  unfold assignTracks
  rw [← h.tracks]
  simp only [hcost]
  split <;> rfl

/-- The tracks so far, the fed slots and their pairs. -/
structure SameFeed (count : Nat) (f g : Feed) : Prop where
  ts : SameContacts count f.ts g.ts
  slots : f.currentSlots = g.currentSlots
  pairs : f.pairs = g.pairs

theorem updateMatched_same {prof : Profile} {contactSlots : Nat → Option Slot} {count i : Nat}
    (hi : i < count)
    {f g : Feed} (h : SameFeed count f g) :
    SameFeed count (updateMatched prof contactSlots i f) (updateMatched prof contactSlots i g) := by
  unfold updateMatched
  cases contactSlots i with
  | none => exact h
  | some slot =>
    simp only
    rw [h.ts.contacts i hi, h.ts.tracks, h.slots, h.pairs]
    exact ⟨⟨h.ts.contacts, rfl⟩, rfl, rfl⟩

theorem createUnmatched_same {prof : Profile} {contactSlots : Nat → Option Slot} {count i : Nat}
    (hi : i < count)
    {f g : Feed} (h : SameFeed count f g) :
    SameFeed count (createUnmatched prof contactSlots i f)
      (createUnmatched prof contactSlots i g) := by
  unfold createUnmatched
  cases contactSlots i with
  | some _ => exact h
  | none =>
    unfold newTrack
    rw [h.ts.contacts i hi, h.ts.tracks]
    cases freeSlot g.ts.tracks with
    | none => exact h
    | some slot => exact ⟨⟨h.ts.contacts, rfl⟩, by rw [h.slots], by rw [h.pairs]⟩

theorem reportFrame_same (prof : Profile) {a b : Heat} {count : Nat} (h : SameContacts count a b)
    (contactSlots : Nat → Option Slot) : (reportFrame prof a count contactSlots).2 =
      (reportFrame prof b count contactSlots).2 ∧
    (reportFrame prof a count contactSlots).1.tracks =
      (reportFrame prof b count contactSlots).1.tracks := by
  have hu : SameFeed count (updateMatchedTracks prof a count contactSlots)
      (updateMatchedTracks prof b count contactSlots) :=
    loop_rel (SameFeed count) ⟨h, rfl, rfl⟩ fun i f g hi hs => updateMatched_same hi hs
  unfold reportFrame
  simp only
  generalize updateMatchedTracks prof a count contactSlots = f at hu
  generalize updateMatchedTracks prof b count contactSlots = g at hu
  have hr : SameFeed count (renewTracks prof count contactSlots f)
    (renewTracks prof count contactSlots g) := by
    unfold renewTracks createUnmatchedTracks
    refine loop_rel (SameFeed count) ⟨⟨hu.ts.contacts, ?_⟩, hu.slots, rfl⟩ fun i f g hi hs =>
      createUnmatched_same hi hs
    rw [hu.slots, hu.ts.tracks]
  rw [hu.slots, hu.ts.tracks, hu.pairs, hr.slots, hr.ts.tracks, hr.pairs]
  exact ⟨rfl, rfl⟩

theorem parsedFrame_same (prof : Profile) {a b : Heat} (ht : a.tracks = b.tracks)
    (hb : HeatFrame.SameBuf true a.buf b.buf) : (parsedFrame prof a).2 = (parsedFrame prof b).2 ∧
      (parsedFrame prof a).1.tracks = (parsedFrame prof b).1.tracks := by
  obtain ⟨hcount, hc⟩ := findContacts_same prof ht hb
  obtain ⟨hslots, hassign⟩ := assignTracks_same prof hc
  unfold parsedFrame trackContacts
  simp only
  rw [← hcount, ← hslots]
  exact reportFrame_same prof hassign _

theorem reportHeatContacts_same (prof : Profile) (content : Bytes) {a b : Heat}
    (h : a.tracks = b.tracks) :
    (reportHeatContacts prof content a).2 = (reportHeatContacts prof content b).2 ∧
      (reportHeatContacts prof content a).1.tracks =
      (reportHeatContacts prof content b).1.tracks := by
  obtain ⟨hres, hbuf⟩ := HeatFrame.extractHeatmap_twin content a.buf b.buf trivial
  unfold reportHeatContacts
  cases hx : HeatFrame.extractHeatmap content a.buf with
  | mk s r =>
    cases hy : HeatFrame.extractHeatmap content b.buf with
    | mk t r' =>
      rw [hx, hy] at hres hbuf
      have hres : r = r' := hres
      subst hres
      cases r with
      | error e => exact ⟨rfl, h⟩
      | ok u =>
        have hframe : (parsedFrame prof { a with buf := s }).2 =
          (parsedFrame prof { b with buf := t }).2 ∧ _ :=
          parsedFrame_same prof h (hbuf u rfl)
        exact ⟨congrArg Except.ok hframe.1, hframe.2⟩

theorem heatFrame_same (prof : Profile) (content : Bytes) {a b : Heat} (h : a.tracks = b.tracks) :
    (heatFrame prof content a).2 = (heatFrame prof content b).2 ∧
      (heatFrame prof content a).1.tracks = (heatFrame prof content b).1.tracks := by
  obtain ⟨hres, ht⟩ := reportHeatContacts_same prof content h
  unfold heatFrame
  generalize reportHeatContacts prof content a = x at hres ht
  generalize reportHeatContacts prof content b = y at hres ht
  obtain ⟨s, r⟩ := x
  obtain ⟨t, r'⟩ := y
  have hres : r = r' := hres
  subst hres
  cases r with
  | error e => exact ⟨rfl, rfl⟩
  | ok report => exact ⟨rfl, ht⟩

/-- What the input device sees over a run of frames, and the tracks after it. -/
def runFrames (prof : Profile) : List Bytes → Heat → List (Option Report) × (Slot → Track)
  | [], ts => ([], ts.tracks)
  | content :: rest, ts =>
    let next := heatFrame prof content ts
    let last := runFrames prof rest next.1
    (next.2 :: last.1, last.2)

theorem runFrames_same (prof : Profile) (frames : List Bytes) {a b : Heat}
    (h : a.tracks = b.tracks) :
    runFrames prof frames a = runFrames prof frames b := by
  induction frames generalizing a b with
  | nil => exact Prod.ext rfl h
  | cons content rest ih =>
    obtain ⟨hreport, ht⟩ := heatFrame_same prof content h
    unfold runFrames
    simp only
    rw [hreport, ih ht]

/-- For every profile and tracks, whatever else the two states hold: one frame
returns, shows and leaves the same, and so does every run of frames. -/
theorem frames_isolated (prof : Profile) (tracks : Slot → Track) (a b : Heat) :
    (∀ content, (reportHeatContacts prof content { a with tracks := tracks }).2 =
        (reportHeatContacts prof content { b with tracks := tracks }).2 ∧
      (reportHeatContacts prof content { a with tracks := tracks }).1.tracks =
        (reportHeatContacts prof content { b with tracks := tracks }).1.tracks) ∧
    ∀ frames, runFrames prof frames { a with tracks := tracks } =
      runFrames prof frames { b with tracks := tracks } :=
  ⟨fun content => reportHeatContacts_same prof content rfl,
    fun frames => runFrames_same prof frames rfl⟩

end Sp11Touch
