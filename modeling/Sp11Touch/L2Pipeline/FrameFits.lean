import Sp11Touch.L2Pipeline.FindFits
import Sp11Touch.L2Pipeline.TrackFits
import Sp11Touch.L2Pipeline.FrameLaw
/-!
# Every number of a frame fits

One frame whose tracks fit keeps all its numbers in their C types and leaves
tracks that fit (`parsedFrame_fits`); the tracks of a run start as zero, so this
holds of every frame of every run, in the three profiles.

**Result.** `pipeline_fits`.
-/
namespace Sp11Touch
open CInt

/-- The frame that `find_contacts`, `assign_tracks` and the transaction run on the parsed grid of `ts`. -/
structure FrameFits (prof : Profile) (ts : Heat) : Prop where
  /-- The component of each turn of the `start` loop that fills one. -/
  components : ∀ start, start < heatSamples → (findBefore prof ts start).seen start = false →
    (findBefore prof ts start).ts.heatActive start = true →
    ComponentFits prof (findBefore prof ts start).ts
      (component (findBefore prof ts start).ts (findBefore prof ts start).seen start).1
      (component (findBefore prof ts start).ts (findBefore prof ts start).seen start).2
  contacts : ∀ i, i < (findContacts prof ts).2 → ContactFits ((findContacts prof ts).1.contacts i)
  positions : ∀ i, i < (findContacts prof ts).2 →
    ((findContacts prof ts).1.contacts i).x ≤ logicalMax ∧
    ((findContacts prof ts).1.contacts i).y ≤ logicalMax ∧
    ((findContacts prof ts).1.contacts i).outputX ≤ logicalMax ∧
    ((findContacts prof ts).1.contacts i).outputY ≤ logicalMax
  distances : ∀ slot i, i < (findContacts prof ts).2 →
    DistanceFits (ts.tracks slot) ((findContacts prof ts).1.contacts i)
  costs : ∀ row col, 0 ≤ assignmentCost prof (findContacts prof ts).1 (activeSlots ts.tracks)
    (findContacts prof ts).2 row col ∧
    assignmentCost prof (findContacts prof ts).1 (activeSlots ts.tracks)
      (findContacts prof ts).2 row col ≤ intMax
  updates : ∀ i slot, (i, slot) ∈ (parsedFrame prof ts).2.matched →
    UpdateFits prof (ts.tracks slot) ((findContacts prof ts).1.contacts i) ∧
    (parsedFrame prof ts).1.tracks slot = updateTrack prof (ts.tracks slot)
      ((findContacts prof ts).1.contacts i)
  tracks : ∀ slot, TrackFits ((parsedFrame prof ts).1.tracks slot)
  reported : ∀ slot x y, (slot, x, y) ∈ (parsedFrame prof ts).2.reported → x ≤ logicalMax ∧
    y ≤ logicalMax

/-- The tracks after a frame. -/
theorem FrameLaw.tracksFit {prof : Profile} {ts after : Heat} {r : Report}
    (h : FrameLaw prof ts after r)
    (ht : ∀ slot, TrackFits (ts.tracks slot))
      (hc : ∀ i, i < r.contactCount → ContactFits (ts.contacts i))
    (slot : Slot) : TrackFits (after.tracks slot) := by
  by_cases hm : Fills r.matched slot
  · obtain ⟨i, hi⟩ := hm
    obtain ⟨hlt, _, hup⟩ := h.matched i slot hi
    rw [hup]
    exact (updateTrack_fits prof (ht slot) (hc i hlt)).after
  · by_cases hn : Fills r.created slot
    · obtain ⟨i, hi⟩ := hn
      obtain ⟨hlt, _, _, mid, _, hfresh⟩ := h.created i slot hi
      rw [hfresh]
      exact freshTrack_fits prof mid (hc i hlt)
    · rw [h.aged slot hm hn]
      exact advanceTrack_fits false (ht slot)

theorem trackContacts_count (prof : Profile) (found : Heat × Nat) :
    (trackContacts prof found).2.contactCount = found.2 := rfl

theorem parsedFrame_fits {prof : Profile} {ts : Heat} (ht : ∀ slot, TrackFits (ts.tracks slot)) :
    FrameFits prof ts := by
  have hfound := findContacts_fits prof ts
  have htracks := (findContacts_found prof ts).1
  have hlaw := trackContacts_law prof (findContacts prof ts)
  have hcount := trackContacts_count prof (findContacts prof ts)
  have hfit : ∀ slot, TrackFits ((findContacts prof ts).1.tracks slot) := by
    rw [htracks]
    exact ht
  have hafter := hlaw.tracksFit hfit fun i hi => hfound i (hcount ▸ hi)
  have hcost := assignmentCost_bounds prof (findContacts prof ts).1 (activeSlots ts.tracks)
    (findContacts prof ts).2
  refine { components := fun start => findBefore_fits, contacts := hfound,
           positions := fun i hi => (hfound i hi).logical,
           distances := fun slot i hi => distanceFits (ht slot) (hfound i hi),
           costs := fun row col => ⟨(hcost row col).1, le_trans (hcost row col).2 (by decide)⟩,
           updates := fun i slot hi => ?_, tracks := hafter, reported := fun slot x y hr => ?_ }
  · obtain ⟨hlt, _, hup⟩ := hlaw.matched i slot hi
    rw [htracks] at hup
    exact ⟨updateTrack_fits prof (ht slot) (hfound i (hcount ▸ hlt)), hup⟩
  · obtain ⟨_, _, hx, hy, _⟩ := hlaw.reported slot x y hr
    rw [hx, hy]
    exact ⟨(hafter slot).outputX, (hafter slot).outputY⟩

/-! ## Runs -/

/-- Every accepted frame of the run fits. -/
def FitsRun (prof : Profile) : Heat → List Bytes → Prop
  | _, [] => True
  | ts, content :: rest =>
    (match HeatFrame.extractHeatmap content ts.buf with
      | (_, .error _) => True
      | (buf, .ok _) => FrameFits prof { ts with buf := buf }) ∧
    FitsRun prof (heatFrame prof content ts).1 rest

theorem fitsRun_of_tracks (prof : Profile) : ∀ (frames : List Bytes) (ts : Heat),
    (∀ slot, TrackFits (ts.tracks slot)) → FitsRun prof ts frames
  | [], _, _ => trivial
  | content :: rest, ts, ht => by
    unfold FitsRun heatFrame reportHeatContacts
    cases HeatFrame.extractHeatmap content ts.buf with
    | mk buf res => cases res with
      | error e => exact ⟨trivial, fitsRun_of_tracks prof rest _ fun slot => zero_fits⟩
      | ok _ =>
        have hframe : FrameFits prof { ts with buf := buf } := parsedFrame_fits ht
        exact ⟨hframe, fitsRun_of_tracks prof rest _ hframe.tracks⟩

/-- From zeroed tracks, for every profile and every list of frames. -/
theorem pipeline_fits (prof : Profile) (ts : Heat) (frames : List Bytes) :
    FitsRun prof { ts with tracks := zeroTracks } frames :=
  fitsRun_of_tracks prof frames _ fun _ => zero_fits

end Sp11Touch
