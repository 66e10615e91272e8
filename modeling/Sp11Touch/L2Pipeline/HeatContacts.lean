import Sp11Touch.L2Pipeline.FindContacts
import Sp11Touch.L2Pipeline.Assign
/-!
# One Heat frame and runs of frames (`g6ts_report_heat_contacts`)

A frame that parses goes through assignment, matched updates, ageing,
creation and collection. A frame that does not parse releases all contacts.
`Report` is what a frame shows: the slots collected with their positions and,
beside them, which contact fed which slot and which slots ageing freed.

**Result.** `reported_slots_fresh`: along every run from zeroed tracks, in
every profile, each reported slot holds a confirmed active track fed by a
contact of that very frame, no slot is fed twice, and a slot reported in two
consecutive frames was matched in the second one, not freed or created.
-/
namespace Sp11Touch
open CInt

structure Report where
  contactCount : Nat
  matched : List (Nat × Slot)
  freed : List Slot
  created : List (Nat × Slot)
  /-- `input_mt_slot` and the position of `touchscreen_report_pos`, in slot order. -/
  reported : List (Slot × Nat × Nat)

/-- mirrors phase55/modules/mshw0485_touch.c:2112-2135 (`g6ts_collect_linux_contacts`) -/
def collectLinuxContacts (tracks : Slot → Track) (currentSlots : Slot → Bool) :
    List (Slot × Nat × Nat) :=
  (List.finRange 10).filterMap fun slot =>
    if (tracks slot).active && (tracks slot).confirmed && currentSlots slot then
      some (slot, (tracks slot).outputX, (tracks slot).outputY) else none

/-- The slots with a track before and without one after. -/
def freedSlots (before after : Slot → Track) : List Slot :=
  (List.finRange 10).filter fun slot => (before slot).active && !(after slot).active

/-- The matched updates. -/
def updateMatchedTracks (prof : Profile) (ts : Heat) (count : Nat)
    (contactSlots : Nat → Option Slot) : Feed :=
  loop count (updateMatched prof contactSlots) ⟨ts, fun _ => false, []⟩

/-- Ageing and creation after the matched updates `f`. -/
def renewTracks (prof : Profile) (count : Nat) (contactSlots : Nat → Option Slot)
    (f : Feed) : Feed :=
  createUnmatchedTracks prof count contactSlots
    { f with ts.tracks := advanceUnmatchedTracks f.currentSlots f.ts.tracks, pairs := [] }

/-- mirrors phase55/modules/mshw0485_touch.c:2154-2173 (the frame transaction) -/
def reportFrame (prof : Profile) (ts : Heat) (count : Nat) (contactSlots : Nat → Option Slot) :
    Heat × Report :=
  let f := updateMatchedTracks prof ts count contactSlots
  let g := renewTracks prof count contactSlots f
  let reported := collectLinuxContacts g.ts.tracks g.currentSlots
  ({ g.ts with
      outputFrames := g.ts.outputFrames + 1
      outputContacts := g.ts.outputContacts + reported.length
      heatFrames := g.ts.heatFrames + 1 },
    { contactCount := count
      matched := f.pairs
      freed := freedSlots f.ts.tracks (advanceUnmatchedTracks f.currentSlots f.ts.tracks)
      created := g.pairs
      reported := reported })

/-- Assignment and frame transaction for the contacts found. -/
def trackContacts (prof : Profile) (found : Heat × Nat) : Heat × Report :=
  let assigned := assignTracks prof found.1 found.2
  reportFrame prof assigned.1 found.2 assigned.2

def parsedFrame (prof : Profile) (ts : Heat) : Heat × Report :=
  trackContacts prof (findContacts prof ts)

/-- mirrors phase55/modules/mshw0485_touch.c:2137-2178 (`g6ts_report_heat_contacts`) -/
def reportHeatContacts (prof : Profile) (content : Bytes) (ts : Heat) :
    Heat × Except (Exit Errno) Report :=
  match HeatFrame.extractHeatmap content ts.buf with
  | (buf, .error e) => ({ ts with buf := buf, heatErrors := ts.heatErrors + 1 }, .error e)
  | (buf, .ok _) =>
    let frame := parsedFrame prof { ts with buf := buf }
    (frame.1, .ok frame.2)

/-- mirrors phase55/modules/mshw0485_touch.c:2180-2185 (`g6ts_release_contacts`); the
empty input frame is logged by the caller -/
def releaseContacts (ts : Heat) : Heat := { ts with tracks := zeroTracks }

/-- What `g6ts_handle_data_report` does with report `0x12`. -/
def heatFrame (prof : Profile) (content : Bytes) (ts : Heat) : Heat × Option Report :=
  match reportHeatContacts prof content ts with
  | (ts, .ok report) => (ts, some report)
  | (ts, .error _) => (releaseContacts ts, none)

/-! ## Matched updates -/

/-- After the contacts below `k`: fed slots hold a fresh track. -/
structure Fed (ts : Heat) (contactSlots : Nat → Option Slot) (k : Nat) (f : Feed) : Prop where
  slots : ∀ slot, f.currentSlots slot = true ↔ ∃ i, i < k ∧ contactSlots i = some slot
  pairs : ∀ i slot, (i, slot) ∈ f.pairs ↔ i < k ∧ contactSlots i = some slot
  active : ∀ slot, (f.ts.tracks slot).active = (ts.tracks slot).active
  fresh : ∀ slot, f.currentSlots slot = true → (f.ts.tracks slot).missed = 0
  rest : ∀ slot, f.currentSlots slot = false → f.ts.tracks slot = ts.tracks slot

theorem addEvidence_active (track : Track) (contact : Contact) :
    (addEvidence track contact).active = track.active := by
  unfold addEvidence
  split <;> rfl

theorem moveTrack_active (prof : Profile) (track : Track) (contact : Contact) :
    (moveTrack prof track contact).active = track.active := by
  unfold moveTrack
  simp only
  split
  · rfl
  · split <;> rfl

theorem updateTrack_missed (prof : Profile) (track : Track) (contact : Contact) :
    (updateTrack prof track contact).missed = 0 := rfl

theorem updateTrack_active (prof : Profile) (track : Track) (contact : Contact) :
    (updateTrack prof track contact).active = track.active := by
  unfold updateTrack
  simp only
  split
  · exact moveTrack_active prof track contact
  · exact (addEvidence_active _ _).trans (moveTrack_active prof track contact)

theorem setSlot_iff {currentSlots : Slot → Bool} {slot s : Slot} :
    setSlot currentSlots slot s = true ↔ s = slot ∨ currentSlots s = true := by
  unfold setSlot
  by_cases h : s = slot
  · simp [h]
  · simp [h]

/-- The contacts with a slot, when contact `k` comes in. -/
theorem matched_succ_none {contactSlots : Nat → Option Slot} {k : Nat} (hk : contactSlots k = none)
    (i : Nat) (slot : Slot) :
    (i < k + 1 ∧ contactSlots i = some slot) ↔ i < k ∧ contactSlots i = some slot := by
  by_cases hik : i = k
  · subst hik
    simp [hk]
  · rw [lt_succ_iff_of_ne hik]

theorem matched_succ_some {contactSlots : Nat → Option Slot} {k : Nat} {sk : Slot}
    (hk : contactSlots k = some sk)
    (i : Nat) (slot : Slot) : (i < k + 1 ∧ contactSlots i = some slot) ↔
      i = k ∧ slot = sk ∨ i < k ∧ contactSlots i = some slot := by
  by_cases hik : i = k
  · subst hik
    simp [hk, eq_comm]
  · simp [hik, lt_succ_iff_of_ne hik]

theorem updateMatched_fed {prof : Profile} {ts : Heat} {contactSlots : Nat → Option Slot} {k : Nat}
    {f : Feed}
    (h : Fed ts contactSlots k f) : Fed ts contactSlots (k + 1)
      (updateMatched prof contactSlots k f) := by
  unfold updateMatched
  cases hk : contactSlots k with
  | none =>
    have hsucc := matched_succ_none hk
    refine ⟨fun slot => ?_, fun i slot => ?_, h.active, h.fresh, h.rest⟩
    · rw [h.slots]; simp only [hsucc]
    · rw [h.pairs, hsucc]
  | some sk =>
    have hsucc := matched_succ_some hk
    refine ⟨fun slot => ?_, fun i slot => ?_, fun slot => ?_, fun slot hs => ?_, fun slot hs => ?_⟩
    · rw [setSlot_iff, h.slots]
      simp only [hsucc]
      constructor
      · intro hmem
        rcases hmem with rfl | ⟨i, hi⟩
        · exact ⟨k, Or.inl ⟨rfl, rfl⟩⟩
        · exact ⟨i, Or.inr hi⟩
      · intro hmem
        obtain ⟨i, ⟨_, rfl⟩ | hi⟩ := hmem
        · exact Or.inl rfl
        · exact Or.inr ⟨i, hi⟩
    · simp only [List.mem_cons, Prod.mk.injEq, h.pairs, hsucc]
    · by_cases he : slot = sk
      · subst he; simp [updateTrack_active, h.active]
      · simp [he, h.active]
    · by_cases he : slot = sk
      · subst he; simp [updateTrack_missed]
      · simp only [Function.update_of_ne he]
        exact h.fresh slot ((setSlot_iff.mp hs).resolve_left he)
    · have hne : slot ≠ sk := fun he => by simp [setSlot, he] at hs
      simp only [Function.update_of_ne hne]
      exact h.rest slot (by simpa [setSlot, hne] using hs)

theorem updateMatchedTracks_fed (prof : Profile) (ts : Heat) (count : Nat)
    (contactSlots : Nat → Option Slot) :
    Fed ts contactSlots count (updateMatchedTracks prof ts count contactSlots) := by
  unfold updateMatchedTracks
  refine loop_ind (Fed ts contactSlots) ?_ fun i t _ h => updateMatched_fed h
  exact ⟨by simp, by simp, fun _ => rfl, by simp, fun _ _ => rfl⟩

/-! ## Ageing and creation -/

theorem advanceTrack_current (track : Track) : advanceTrack true track = track := by
  simp [advanceTrack]

/-- A held track stays active until it was missed for the whole hold time. -/
theorem advanceTrack_held {track : Track} (ha : track.active = true) (hm : track.missed = 0)
    (b : Bool) :
    (advanceTrack b track).active = true := by
  cases b with
  | true => rw [advanceTrack_current]; exact ha
  | false => simp [advanceTrack, ha, hm, contactHoldFrames]

theorem freshTrack_active (prof : Profile) (tracks : Slot → Track) (contact : Contact) :
    (freshTrack prof tracks contact).active = true := rfl

theorem freshTrack_missed (prof : Profile) (tracks : Slot → Track) (contact : Contact) :
    (freshTrack prof tracks contact).missed = 0 := by
  unfold freshTrack
  simp only
  split <;> rfl

theorem freeSlot_inactive {tracks : Slot → Track} {slot : Slot} (h : freeSlot tracks = some slot) :
    (tracks slot).active = false := by
  simpa using List.find?_some h

/-- Creation from the tracks `start`, after the contacts below `k`. -/
structure Renewed (start : Feed) (contactSlots : Nat → Option Slot) (k : Nat)
    (g : Feed) : Prop where
  current : ∀ slot, g.currentSlots slot = true → (g.ts.tracks slot).active = true ∧
    (g.ts.tracks slot).missed = 0
  slots : ∀ slot, g.currentSlots slot = true ↔
    start.currentSlots slot = true ∨ ∃ i, (i, slot) ∈ g.pairs
  contact : ∀ i slot, (i, slot) ∈ g.pairs → i < k ∧ contactSlots i = none
  created : ∀ i slot, (i, slot) ∈ g.pairs → (start.ts.tracks slot).active = false
  inj : ∀ i j slot, (i, slot) ∈ g.pairs → (j, slot) ∈ g.pairs → i = j
  keep : ∀ slot, (start.ts.tracks slot).active = true → g.ts.tracks slot = start.ts.tracks slot

/-- Contact `i` takes the free slot `slot`. -/
def Feed.filled (prof : Profile) (i : Nat) (slot : Slot) (g : Feed) : Feed :=
  { ts := { g.ts with
      tracks := Function.update g.ts.tracks slot (freshTrack prof g.ts.tracks (g.ts.contacts i))
      newTracks := g.ts.newTracks + 1 }
    currentSlots := setSlot g.currentSlots slot
    pairs := (i, slot) :: g.pairs }

theorem Feed.filled_tracks_of_ne {prof : Profile} {i : Nat} {slot s : Slot} (g : Feed)
    (h : s ≠ slot) :
    (g.filled prof i slot).ts.tracks s = g.ts.tracks s := Function.update_of_ne h _ _

theorem Feed.mem_filled {prof : Profile} {i j : Nat} {slot s : Slot} {g : Feed} :
    (j, s) ∈ (g.filled prof i slot).pairs ↔ j = i ∧ s = slot ∨ (j, s) ∈ g.pairs := by
  simp only [Feed.filled, List.mem_cons, Prod.mk.injEq]

/-- A turn fills a free slot, or there is nothing to fill or no room. -/
theorem createUnmatched_cases (prof : Profile) (contactSlots : Nat → Option Slot) (k : Nat)
    (g : Feed) :
    createUnmatched prof contactSlots k g = g ∧
      (contactSlots k ≠ none ∨ freeSlot g.ts.tracks = none) ∨
      ∃ slot, contactSlots k = none ∧ freeSlot g.ts.tracks = some slot ∧
        createUnmatched prof contactSlots k g = g.filled prof k slot := by
  unfold createUnmatched
  cases hk : contactSlots k with
  | some s => exact Or.inl ⟨rfl, Or.inl (Option.some_ne_none s)⟩
  | none =>
    unfold newTrack
    cases hf : freeSlot g.ts.tracks with
    | none => exact Or.inl ⟨rfl, Or.inr rfl⟩
    | some slot => exact Or.inr ⟨slot, rfl, rfl, rfl⟩

section
variable {prof : Profile} {start g : Feed} {contactSlots : Nat → Option Slot} {k : Nat}
  {slot : Slot}

theorem Renewed.succ (h : Renewed start contactSlots k g) : Renewed start contactSlots (k + 1) g :=
  ⟨h.current, h.slots, fun i slot hm => ⟨Nat.lt_succ_of_lt (h.contact i slot hm).1,
    (h.contact i slot hm).2⟩,
    h.created, h.inj, h.keep⟩

/-- Everything fed so far is active. -/
theorem Renewed.not_current (h : Renewed start contactSlots k g)
    (hfree : (g.ts.tracks slot).active = false) :
    g.currentSlots slot = false := by
  cases hc : g.currentSlots slot with
  | false => rfl
  | true => rw [(h.current slot hc).1] at hfree; cases hfree

theorem Renewed.not_filled (h : Renewed start contactSlots k g)
    (hfree : (g.ts.tracks slot).active = false) (i : Nat) :
    (i, slot) ∉ g.pairs := by
  intro hm
  have hcurrent := (h.slots slot).mpr (Or.inr ⟨i, hm⟩)
  rw [h.not_current hfree] at hcurrent
  cases hcurrent

theorem Renewed.start_free (h : Renewed start contactSlots k g)
    (hfree : (g.ts.tracks slot).active = false) :
    (start.ts.tracks slot).active = false := by
  cases ha : (start.ts.tracks slot).active with
  | false => rfl
  | true => rw [h.keep slot ha, ha] at hfree; cases hfree

theorem Renewed.fill (h : Renewed start contactSlots k g) (hk : contactSlots k = none)
    (hfree : (g.ts.tracks slot).active = false) : Renewed start contactSlots (k + 1)
    (g.filled prof k slot) := by
  refine ⟨fun s hs => ?_, fun s => ?_, fun i s hm => ?_, fun i s hm => ?_, fun i j s hi hj => ?_,
    fun s ha => ?_⟩
  · by_cases he : s = slot
    · subst he
      simp [Feed.filled, freshTrack_active, freshTrack_missed]
    · rw [g.filled_tracks_of_ne he]
      exact h.current s ((setSlot_iff.mp hs).resolve_left he)
  · simp only [Feed.mem_filled]
    refine setSlot_iff.trans ?_
    rw [h.slots]
    constructor
    · intro hmem
      rcases hmem with rfl | hc | ⟨i, hi⟩
      · exact Or.inr ⟨k, Or.inl ⟨rfl, rfl⟩⟩
      · exact Or.inl hc
      · exact Or.inr ⟨i, Or.inr hi⟩
    · intro hmem
      rcases hmem with hc | ⟨i, ⟨_, rfl⟩ | hi⟩
      · exact Or.inr (Or.inl hc)
      · exact Or.inl rfl
      · exact Or.inr (Or.inr ⟨i, hi⟩)
  · rcases Feed.mem_filled.mp hm with ⟨rfl, _⟩ | hm
    · exact ⟨Nat.lt_succ_self _, hk⟩
    · exact h.succ.contact i s hm
  · rcases Feed.mem_filled.mp hm with ⟨_, rfl⟩ | hm
    · exact h.start_free hfree
    · exact h.created i s hm
  · rcases Feed.mem_filled.mp hi with ⟨hik, hs⟩ | hi <;>
      rcases Feed.mem_filled.mp hj with ⟨hjk, hs'⟩ | hj
    · rw [hik, hjk]
    · exact absurd (hs ▸ hj) (h.not_filled hfree j)
    · exact absurd (hs' ▸ hi) (h.not_filled hfree i)
    · exact h.inj i j s hi hj
  · have hne : s ≠ slot := fun he => by rw [he, h.start_free hfree] at ha; cases ha
    rw [g.filled_tracks_of_ne hne]
    exact h.keep s ha

theorem createUnmatched_renewed (h : Renewed start contactSlots k g) :
    Renewed start contactSlots (k + 1) (createUnmatched prof contactSlots k g) := by
  rcases createUnmatched_cases prof contactSlots k g with ⟨he, _⟩ | ⟨slot, hk, hf, he⟩
  · rw [he]
    exact h.succ
  · rw [he]
    exact h.fill hk (freeSlot_inactive hf)

end

theorem createUnmatchedTracks_renewed {p : Profile} {s : Feed} (count : Nat)
    (contactSlots : Nat → Option Slot) (hp : s.pairs = [])
    (hc : ∀ slot, s.currentSlots slot = true → (s.ts.tracks slot).active = true ∧
      (s.ts.tracks slot).missed = 0) :
    Renewed s contactSlots count (createUnmatchedTracks p count contactSlots s) := by
  unfold createUnmatchedTracks
  refine loop_ind (Renewed s contactSlots) ?_ fun i t _ h => createUnmatched_renewed h
  exact ⟨hc, by simp [hp], by simp [hp], by simp [hp], by simp [hp], fun _ _ => rfl⟩

/-! ## Ageing between feeding and creation -/

section
variable {ts : Heat} {count : Nat} {contactSlots : Nat → Option Slot} {f g : Feed}

theorem Feed.aged_fed {slot : Slot} (hs : f.currentSlots slot = true) :
    advanceUnmatchedTracks f.currentSlots f.ts.tracks slot = f.ts.tracks slot := by
  unfold advanceUnmatchedTracks
  rw [hs, advanceTrack_current]

theorem Fed.aged_rest (h : Fed ts contactSlots count f) {slot : Slot}
    (hs : f.currentSlots slot = false) :
    advanceUnmatchedTracks f.currentSlots f.ts.tracks slot =
      advanceTrack false (ts.tracks slot) := by
  unfold advanceUnmatchedTracks
  rw [hs, h.rest slot hs]

theorem Fed.fed_active (h : Fed ts contactSlots count f) (hp : Pairing ts.tracks count contactSlots)
    {slot : Slot}
    (hs : f.currentSlots slot = true) : (f.ts.tracks slot).active = true := by
  obtain ⟨i, _, hi⟩ := (h.slots slot).mp hs
  exact (h.active slot).trans (hp.active i slot hi)

/-- A fed slot is active after ageing, and was just seen. -/
theorem Fed.aged_current (h : Fed ts contactSlots count f)
    (hp : Pairing ts.tracks count contactSlots) (slot : Slot)
    (hs : f.currentSlots slot = true) : (advanceUnmatchedTracks f.currentSlots
      f.ts.tracks slot).active = true ∧
      (advanceUnmatchedTracks f.currentSlots f.ts.tracks slot).missed = 0 := by
  rw [Feed.aged_fed hs]
  exact ⟨h.fed_active hp hs, h.fresh slot hs⟩

/-- The feed that creation starts from. -/
def Feed.agedFeed (f : Feed) : Feed := { f with
    ts.tracks := advanceUnmatchedTracks f.currentSlots f.ts.tracks, pairs := [] }

theorem Fed.renewed (h : Fed ts contactSlots count f) (hp : Pairing ts.tracks count contactSlots)
    (prof : Profile) :
    Renewed f.agedFeed contactSlots count (renewTracks prof count contactSlots f) :=
  createUnmatchedTracks_renewed count contactSlots rfl (h.aged_current hp)

/-- A fed slot is not filled again. -/
theorem Fed.apart (h : Fed ts contactSlots count f) (hp : Pairing ts.tracks count contactSlots)
    (hg : Renewed f.agedFeed contactSlots count g) {i : Nat} {slot : Slot}
    (hi : (i, slot) ∈ g.pairs) :
    f.currentSlots slot = false := by
  refine Bool.eq_false_iff.mpr fun hs => ?_
  have hfree := hg.created i slot hi
  have hactive := (h.aged_current hp slot hs).1
  rw [show (f.agedFeed.ts.tracks slot).active = true from hactive] at hfree
  cases hfree

/-- No slot is fed by two contacts. -/
theorem Fed.distinct (h : Fed ts contactSlots count f) (hp : Pairing ts.tracks count contactSlots)
    (hg : Renewed f.agedFeed contactSlots count g) (i j : Nat) (slot : Slot)
    (hi : (i, slot) ∈ f.pairs ∨ (i, slot) ∈ g.pairs)
    (hj : (j, slot) ∈ f.pairs ∨ (j, slot) ∈ g.pairs) : i = j := by
  have hno : ∀ i j, (i, slot) ∈ f.pairs → (j, slot) ∉ g.pairs := by
    intro i j hi hj
    have hs := (h.slots slot).mpr ⟨i, (h.pairs i slot).mp hi⟩
    rw [h.apart hp hg hj] at hs
    cases hs
  rcases hi with hi | hi
  · rcases hj with hj | hj
    · exact hp.inj i j slot ((h.pairs i slot).mp hi).2 ((h.pairs j slot).mp hj).2
    · exact absurd hj (hno i j hi)
  · rcases hj with hj | hj
    · exact absurd hi (hno j i hj)
    · exact hg.inj i j slot hi hj

/-- Every slot of the frame was fed by a contact. -/
theorem Fed.feeds (h : Fed ts contactSlots count f) (hg : Renewed f.agedFeed contactSlots count g)
    {slot : Slot}
    (hs : g.currentSlots slot = true) : ∃ i, (i, slot) ∈ f.pairs ∨ (i, slot) ∈ g.pairs := by
  rcases (hg.slots slot).mp hs with hc | hi
  · obtain ⟨i, hi⟩ := (h.slots slot).mp hc
    exact ⟨i, Or.inl ((h.pairs i slot).mpr hi)⟩
  · obtain ⟨i, hi⟩ := hi
    exact ⟨i, Or.inr hi⟩

end

/-! ## One frame -/

theorem mem_collect {tracks : Slot → Track} {currentSlots : Slot → Bool} {slot : Slot} {x y : Nat} :
    (slot, x, y) ∈ collectLinuxContacts tracks currentSlots → (tracks slot).active = true ∧
      (tracks slot).confirmed = true ∧ currentSlots slot = true := by
  unfold collectLinuxContacts
  rw [List.mem_filterMap]
  intro hmem
  obtain ⟨s, _, h⟩ := hmem
  split at h
  · next hc =>
    cases h
    simpa [and_assoc] using hc
  · cases h

/-- The contact `i` of the frame fed the slot. -/
def Report.Feeds (r : Report) (i : Nat) (slot : Slot) : Prop := (i, slot) ∈ r.matched ∨
    (i, slot) ∈ r.created

/-- The slot is reported. -/
def Report.Shows (r : Report) (slot : Slot) : Prop := ∃ x y, (slot, x, y) ∈ r.reported

/-- What a frame's report says of the tracks `t` after it; `prev` is the
report of the frame before. -/
structure FrameSound (prev : Option Report) (t : Slot → Track) (r : Report) : Prop where
  shown : ∀ slot, r.Shows slot → (t slot).active = true ∧ (t slot).confirmed = true ∧
    (t slot).missed = 0 ∧ ∃ i, r.Feeds i slot
  contact : ∀ i slot, r.Feeds i slot → i < r.contactCount
  distinct : ∀ i j slot, r.Feeds i slot → r.Feeds j slot → i = j
  held : ∀ slot, 0 < (t slot).missed → ¬ r.Shows slot
  same : ∀ q, prev = some q → ∀ slot, q.Shows slot → r.Shows slot →
    slot ∉ r.freed ∧ (∀ i, (i, slot) ∉ r.created) ∧ ∃ i, (i, slot) ∈ r.matched

/-- The slots `q` showed hold tracks that were just seen. -/
def Recent (prev : Option Report) (t : Slot → Track) : Prop :=
  ∀ q, prev = some q → ∀ slot, q.Shows slot → (t slot).active = true ∧ (t slot).missed = 0

theorem reportFrame_sound {prof : Profile} {ts : Heat} {count : Nat}
    {contactSlots : Nat → Option Slot}
    {prev : Option Report} (hp : Pairing ts.tracks count contactSlots)
      (hr : Recent prev ts.tracks) :
    FrameSound prev (reportFrame prof ts count contactSlots).1.tracks
      (reportFrame prof ts count contactSlots).2 := by
  have hf := updateMatchedTracks_fed prof ts count contactSlots
  unfold reportFrame
  simp only
  generalize updateMatchedTracks prof ts count contactSlots = f at hf
  have hg := hf.renewed hp prof
  generalize renewTracks prof count contactSlots f = g at hg
  -- a slot shown by the frame before is still active after ageing
  have hheld : ∀ q, prev = some q → ∀ slot, q.Shows slot →
      (advanceUnmatchedTracks f.currentSlots f.ts.tracks slot).active = true := by
    intro q hq slot hs
    obtain ⟨ha, hm⟩ := hr q hq slot hs
    cases hc : f.currentSlots slot with
    | true => exact (hf.aged_current hp slot hc).1
    | false =>
      rw [hf.aged_rest hc]
      exact advanceTrack_held ha hm _
  refine ⟨fun slot hs => ?_, fun i slot hi => ?_, hf.distinct hp hg, fun slot hm hs => ?_,
    fun q hq slot hqs hs => ?_⟩
  · obtain ⟨x, y, hm⟩ := hs
    obtain ⟨ha, hc, hs⟩ := mem_collect hm
    exact ⟨ha, hc, (hg.current slot hs).2, hf.feeds hg hs⟩
  · rcases hi with hi | hi
    · exact ((hf.pairs i slot).mp hi).1
    · exact (hg.contact i slot hi).1
  · obtain ⟨x, y, hx⟩ := hs
    have := (hg.current slot (mem_collect hx).2.2).2
    exact absurd this (Nat.ne_of_gt hm)
  · have ha := hheld q hq slot hqs
    have hnew : ∀ i, (i, slot) ∉ g.pairs := fun i hi => by
      have hfree := hg.created i slot hi
      rw [show (f.agedFeed.ts.tracks slot).active = true from ha] at hfree
      cases hfree
    obtain ⟨x, y, hm⟩ := hs
    obtain ⟨i, hi⟩ := hf.feeds hg (mem_collect hm).2.2
    refine ⟨?_, hnew, i, hi.resolve_right (hnew i)⟩
    simp [freedSlots, ha]

/-! ## Runs -/

theorem trackContacts_sound {prof : Profile} {prev : Option Report} (found : Heat × Nat)
    (hr : Recent prev found.1.tracks) :
    FrameSound prev (trackContacts prof found).1.tracks (trackContacts prof found).2 := by
  have hp := assignTracks_pairing prof found.1 found.2
  have ht := assignTracks_frame prof found.1 found.2
  rw [← ht] at hp hr
  exact reportFrame_sound hp hr

theorem parsedFrame_sound {p : Profile} {prev : Option Report} {t : Heat}
    (hr : Recent prev t.tracks) :
    FrameSound prev (parsedFrame p t).1.tracks (parsedFrame p t).2 := by
  have hf := (findContacts_found p t).1
  rw [← hf] at hr
  exact trackContacts_sound _ hr

theorem FrameSound.recent {prev : Option Report} {t : Slot → Track} {r : Report}
    (h : FrameSound prev t r) :
    Recent (some r) t := by
  intro q hq slot hs
  cases hq
  obtain ⟨ha, _, hm, _⟩ := h.shown slot hs
  exact ⟨ha, hm⟩

theorem heatFrame_sound {prof : Profile} {ts : Heat} {prev : Option Report} (content : Bytes)
    (hr : Recent prev ts.tracks) :
    (∀ r, (heatFrame prof content ts).2 = some r →
      FrameSound prev (heatFrame prof content ts).1.tracks r) ∧
      Recent (heatFrame prof content ts).2 (heatFrame prof content ts).1.tracks := by
  unfold heatFrame reportHeatContacts
  cases HeatFrame.extractHeatmap content ts.buf with
  | mk buf res => cases res with
    | error e => exact ⟨fun r h => (nomatch h), fun q h => (nomatch h)⟩
    | ok _ =>
      have hs := parsedFrame_sound (p := prof) (t := { ts with buf := buf }) hr
      simp only
      generalize parsedFrame prof { ts with buf := buf } = frame at hs ⊢
      refine ⟨fun r h => ?_, hs.recent⟩
      cases h
      exact hs

/-- Every frame of the run is sound; `prev` is the report before the run. -/
def RunSound (prof : Profile) : Option Report → Heat → List Bytes → Prop
  | _, _, [] => True
  | prev, ts, content :: rest =>
    (∀ r, (heatFrame prof content ts).2 = some r →
      FrameSound prev (heatFrame prof content ts).1.tracks r) ∧
      RunSound prof (heatFrame prof content ts).2 (heatFrame prof content ts).1 rest

theorem runSound_of_recent (prof : Profile) : ∀ (frames : List Bytes) (prev : Option Report)
    (ts : Heat),
    Recent prev ts.tracks → RunSound prof prev ts frames
  | [], _, _, _ => trivial
  | content :: rest, _, _, hr =>
    have h := heatFrame_sound content hr
    ⟨h.1, runSound_of_recent prof rest _ _ h.2⟩

/-- From zeroed tracks, for every profile and every list of frames. -/
theorem reported_slots_fresh (prof : Profile) (ts : Heat) (frames : List Bytes) :
    RunSound prof none { ts with tracks := zeroTracks } frames :=
  runSound_of_recent prof frames none _ fun _ h => (nomatch h)

end Sp11Touch
