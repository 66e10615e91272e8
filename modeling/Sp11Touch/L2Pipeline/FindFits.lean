import Sp11Touch.L2Pipeline.MomentsFit
/-!
# Every contact of a frame fits

The turn `start` of the loop of `findContacts` fills at most one component.
`findStart_fits` says that its numbers fit at every stage it reaches, and
`findContacts_fits` that each contact the frame keeps is a `ContactFits`.
-/
namespace Sp11Touch
open CInt

/-- The state the shape stage reads: the flags are those of the component. -/
def shapedHeat (ts : Heat) (fill : Flood) : Heat :=
  { ts with
    heatQueue := fill.queue
    componentTotal := ts.componentTotal + 1
    heatComponent := componentFlags fill }

/-- The numbers of one component, from its sums to the contact that is stored. -/
structure ComponentFits (prof : Profile) (ts : Heat) (fill : Flood) (contact : Contact) : Prop where
  made : Made ts fill contact
  sums : SumsFit contact
  output : (outputSums (shapedHeat ts fill)).2.2 ≠ 0 → OutputFits (outputSums (shapedHeat ts fill))
  geometry : palmSized contact = false → (momentSums (shapedHeat ts fill)).sum ≠ 0 →
    GeometryFits (momentSums (shapedHeat ts fill)) contact.pixels
  stored : ContactFits (shapeContact prof (shapedHeat ts fill) (locateContact contact)).2

theorem Made.flags {ts : Heat} {fill : Flood} {contact : Contact} (h : Made ts fill contact) :
    FlagsIn (shapedHeat ts fill) contact := by
  intro cell hc
  have hmem := componentFlags_iff.mp hc
  exact ⟨h.boxed.left.2 ⟨cell, hmem, rfl⟩, h.boxed.right.2 ⟨cell, hmem, rfl⟩,
    h.boxed.top.2 ⟨cell, hmem, rfl⟩, h.boxed.bottom.2 ⟨cell, hmem, rfl⟩⟩

theorem locateContact_flags {ts : Heat} {contact : Contact} (h : FlagsIn ts contact) :
    FlagsIn ts (locateContact contact) := by
  have hany : ∀ x y sensorX sensorY : Nat, FlagsIn ts { contact with
      x := x, y := y, outputX := x, outputY := y, sensorXQ24 := sensorX, sensorYQ24 := sensorY } :=
    fun _ _ _ _ cell hc => h cell hc
  exact hany _ _ _ _

theorem centredContact_fits {ts : Heat} {contact : Contact} (prof : Profile)
    (h : ContactFits contact)
    (hf : FlagsIn ts contact) : ContactFits (centredContact prof ts contact) := by
  unfold centredContact
  split
  · exact phase76OutputCentroid_fits h hf
  · exact h

theorem Made.fits {ts : Heat} {fill : Flood} {contact : Contact} (prof : Profile)
    (h : Made ts fill contact) :
    ComponentFits prof ts fill contact := by
  have hflags := h.flags
  refine ⟨h, h.sums, (outputSums_sums hflags).fits h.summed.maxCol h.summed.maxRow,
    fun hpalm hsum => ?_, ?_⟩
  · have hp : contact.pixels ≤ heatPalmPixels := by
      simp only [palmSized, Bool.or_eq_false_iff, decide_eq_false_iff_not] at hpalm
      exact Nat.le_of_not_gt hpalm.1.1
    have hn : flaggedBelow (shapedHeat ts fill) heatSamples ≤ contact.pixels := by
      rw [h.summed.pixels]
      exact flaggedBelow_le heatSamples fun cell hc => componentFlags_iff.mp hc
    exact (momentSums_in _).fits (Nat.le_trans hn hp) hp hsum
  · exact (centredContact_fits prof h.located (locateContact_flags hflags)).of_place
      (shapeContact_place prof _ _)

/-! ## The array of contacts -/

theorem storeContact_all {P : Contact → Prop} {contacts : Nat → Contact} {contact : Contact}
    {count : Nat}
    (h : ∀ i, i < count → P (contacts i)) (hc : P contact) :
    ∀ i, i < (storeContact contacts contact count).2 →
      P ((storeContact contacts contact count).1 i) := by
  have hupdate : ∀ k i, (i ≠ k → i < count) → P (Function.update contacts k contact i) := by
    intro k i hi
    by_cases he : i = k
    · rw [he, Function.update_self]; exact hc
    · rw [Function.update_of_ne he]; exact h i (hi he)
  intro i
  unfold storeContact
  split
  · intro hi
    have hi' : i < count + 1 := hi
    exact hupdate count i fun _ => by omega
  · simp only
    split
    · exact fun hi => hupdate _ i fun _ => hi
    · exact h i

/-- The contacts found so far. -/
def FindState.Fits (s : FindState) : Prop := ∀ i, i < s.contactCount → ContactFits (s.ts.contacts i)

theorem admitComponent_fits {prof : Profile} {ts : Heat} {seen : Nat → Bool} {count : Nat}
    {fill : Flood}
    {contact : Contact} (h : FindState.Fits ⟨ts, seen, count⟩)
      (hc : ComponentFits prof ts fill contact) :
    (admitComponent prof ⟨{ ts with heatQueue := fill.queue, componentTotal := ts.componentTotal + 1 }, fill.mark, count⟩
      fill contact).Fits := by
  unfold admitComponent
  split
  · exact h
  split
  · exact h
  split
  · exact h
  · obtain ⟨w, q, hs⟩ := shapeContact_frame prof (shapedHeat ts fill) (locateContact contact)
    have hcontacts : (shapeContact prof (shapedHeat ts fill) (locateContact contact)).1.contacts =
      ts.contacts := by
      rw [hs]; rfl
    have hkept : ∀ i, i < count →
        ContactFits ((shapeContact prof (shapedHeat ts fill) (locateContact contact)).1.contacts
        i) := by
      rw [hcontacts]
      exact h
    exact storeContact_all hkept hc.stored

theorem findStart_fits {prof : Profile} {s : FindState} {start : Nat} (hlt : start < heatSamples)
    (h : s.Fits) : (findStart prof start s).Fits := by
  unfold findStart
  split
  · exact h
  · next hn =>
    simp only [Bool.or_eq_true, Bool.not_eq_true', not_or, Bool.not_eq_true, Bool.not_eq_false] at hn
    have hc := (component_made hlt hn.1 hn.2).fits prof
    generalize component s.ts s.seen start = r at hc
    cases r with
    | mk fill contact => exact admitComponent_fits h hc

/-- Before the turn `start`. -/
def findBefore (prof : Profile) (ts : Heat) (start : Nat) : FindState :=
  loop start (findStart prof) ⟨ts, fun _ => false, 0⟩

/-- The component of every turn that fills one. -/
theorem findBefore_fits {prof : Profile} {ts : Heat} {start : Nat} (hlt : start < heatSamples)
    (hs : (findBefore prof ts start).seen start = false)
    (ha : (findBefore prof ts start).ts.heatActive start = true) :
    ComponentFits prof (findBefore prof ts start).ts
      (component (findBefore prof ts start).ts (findBefore prof ts start).seen start).1
      (component (findBefore prof ts start).ts (findBefore prof ts start).seen start).2 :=
  (component_made hlt hs ha).fits prof

theorem finish_fits {s : FindState} (h : s.Fits) :
    ∀ i, i < s.finish.2 → ContactFits (s.finish.1.contacts i) := h

theorem findContacts_fits (prof : Profile) (ts : Heat) :
    ∀ i, i < (findContacts prof ts).2 → ContactFits ((findContacts prof ts).1.contacts i) := by
  have h0 : FindState.Fits ⟨ts, fun _ => false, 0⟩ := fun i hi => absurd hi (Nat.not_lt_zero i)
  have hloop : (loop heatSamples (findStart prof) ⟨ts, fun _ => false, 0⟩).Fits :=
    loop_keeps FindState.Fits h0 fun _ _ hi h => findStart_fits hi h
  unfold findContacts
  exact finish_fits hloop

end Sp11Touch
