import Sp11Touch.Core.FirstMax
import Sp11Touch.Core.TopK
import Sp11Touch.L2Pipeline.Accepted
/-!
# The ten strongest components of a frame (`g6ts_store_contact`)

`g6ts_store_contact` has room for ten contacts and replaces its weakest by a
strictly stronger one. Over any list of contacts the array then holds ten
different ones of the list, as they came in, with the strengths of the ten
strongest (`TopContacts`); a frame hands over its accepted components in the
order found (`acceptedContacts`).
-/
namespace Sp11Touch
open CInt

/-- The calls of `g6ts_store_contact` for the contacts of a list, in order. -/
def storeContacts (contacts : Nat → Contact) (l : List Contact) : (Nat → Contact) × Nat :=
  l.foldl (fun s contact => storeContact s.1 contact s.2) (contacts, 0)

/-- The strength of the contact at a position of the list. -/
def strengthAt (l : List Contact) (i : Nat) : Nat := (l[i]?.map Contact.strength).getD 0

/-- Different contacts of the list, unmodified, as many as there is room for, with the greatest strengths. -/
structure TopContacts (l : List Contact) (s : (Nat → Contact) × Nat) : Prop where
  count : s.2 = min maxContacts l.length
  distinct : ∃ pos : Nat → Nat, Set.InjOn pos (Set.Iio s.2) ∧ ∀ i, i < s.2 →
    l[pos i]? = some (s.1 i)
  strengths : ((List.range s.2).map fun i => (s.1 i).strength).Perm
    (((l.map Contact.strength).mergeSort (· ≥ ·)).take maxContacts)

/-! ## One call -/

/-- The scan of `g6ts_store_contact` ends at the first of the weakest contacts. -/
theorem weakestContact_firstMax (contacts : Nat → Contact) :
    FirstMax maxContacts (fun i => OrderDual.toDual (contacts i).strength)
    (weakestContact contacts) :=
  firstMax_spec (maxContacts - 1) fun i => OrderDual.toDual (contacts i).strength

theorem weakestContact_lt (contacts : Nat → Contact) : weakestContact contacts < maxContacts :=
  (weakestContact_firstMax contacts).lt

theorem weakestContact_le (contacts : Nat → Contact) {i : Nat} (hi : i < maxContacts) :
    (contacts (weakestContact contacts)).strength ≤ (contacts i).strength :=
  (weakestContact_firstMax contacts).le i hi

/-- After `k` contacts of the list: the array holds a choice of them, `pos` says which. -/
structure Stored (l : List Contact) (k : Nat) (s : (Nat → Contact) × Nat)
    (pos : Nat → Nat) : Prop where
  kept : Kept (strengthAt l) maxContacts (Finset.range k) pos s.2
  holds : ∀ i, i < s.2 → l[pos i]? = some (s.1 i)

theorem Stored.strength {l : List Contact} {k : Nat} {s : (Nat → Contact) × Nat} {pos : Nat → Nat}
    (h : Stored l k s pos) {i : Nat} (hi : i < s.2) : strengthAt l (pos i) = (s.1 i).strength := by
  simp [strengthAt, h.holds i hi]

/-- What is put at a position of the array is what the list has there. -/
theorem Stored.holds_update {l : List Contact} {k n i m : Nat} {s : (Nat → Contact) × Nat}
    {pos : Nat → Nat}
    {contact : Contact} (h : Stored l k s pos) (hm : ∀ j, j < m → j ≠ i → j < s.2)
      (hn : l[n]? = some contact) :
    ∀ j, j < m → l[Function.update pos i n j]? = some (Function.update s.1 i contact j) := by
  intro j hj
  by_cases hji : j = i
  · rw [hji, Function.update_self, Function.update_self, hn]
  · rw [Function.update_of_ne hji, Function.update_of_ne hji]
    exact h.holds j (hm j hj hji)

theorem Stored.call {l : List Contact} {k : Nat} {s : (Nat → Contact) × Nat} {pos : Nat → Nat}
    {contact : Contact}
    (h : Stored l k s pos) (hk : l[k]? = some contact) :
    ∃ pos', Stored l (k + 1) (storeContact s.1 contact s.2) pos' := by
  have hnew : k ∉ Finset.range k := Finset.notMem_range_self
  have hkey : strengthAt l k = contact.strength := by simp [strengthAt, hk]
  unfold storeContact
  split
  · next hroom =>
    refine ⟨Function.update pos s.2 k, Finset.range_add_one ▸ h.kept.push hroom hnew, ?_⟩
    exact h.holds_update (fun j hj hne => by omega) hk
  · next hfull =>
    have hsize : s.2 = maxContacts := by have := h.kept.size_eq; omega
    have hlt : weakestContact s.1 < s.2 := hsize ▸ weakestContact_lt s.1
    have hweak : ∀ j, j < s.2 → strengthAt l (pos (weakestContact s.1)) ≤ strengthAt l (pos j) :=
      fun j hj => by
      rw [h.strength hlt, h.strength hj]
      exact weakestContact_le s.1 (hsize ▸ hj)
    simp only
    split
    · next hgt =>
      refine ⟨Function.update pos (weakestContact s.1) k, Finset.range_add_one ▸ ?_, ?_⟩
      · exact h.kept.replace hsize hnew hlt hweak (by rw [h.strength hlt, hkey]; exact hgt)
      · exact h.holds_update (fun j hj _ => hj) hk
    · next hle =>
      have hbelow : strengthAt l k ≤ strengthAt l (pos (weakestContact s.1)) := by
        rw [h.strength hlt, hkey]
        exact Nat.not_lt.mp hle
      exact ⟨pos, Finset.range_add_one ▸ h.kept.skip hsize hnew fun j hj =>
        hbelow.trans (hweak j hj), h.holds⟩

/-! ## A whole list -/

theorem storeContacts_stored (contacts : Nat → Contact) (l : List Contact) {k : Nat}
    (hk : k ≤ l.length) :
    ∃ pos, Stored l k (storeContacts contacts (l.take k)) pos := by
  induction k with
  | zero => exact ⟨id, Kept.empty id, fun i hi => absurd hi (Nat.not_lt_zero i)⟩
  | succ k ih =>
    obtain ⟨pos, h⟩ := ih (by omega)
    have hrun : storeContacts contacts (l.take (k + 1)) =
      storeContact (storeContacts contacts (l.take k)).1 l[k]
        (storeContacts contacts (l.take k)).2 := by
      unfold storeContacts
      rw [List.take_succ_eq_append_getElem hk, List.foldl_append]
      rfl
    rw [hrun]
    exact h.call (List.getElem?_eq_getElem hk)

theorem strengthAt_range (l : List Contact) :
    ((l.map Contact.strength : List Nat) : Multiset Nat) =
    (Finset.range l.length).val.map (strengthAt l) := by
  have hlist : l.map Contact.strength = (List.range l.length).map (strengthAt l) := by
    refine List.ext_getElem (by simp) fun i h _ => ?_
    simp [strengthAt, List.getElem?_eq_getElem (by simpa using h : i < l.length)]
  rw [hlist]
  rfl

theorem storeContacts_top (contacts : Nat → Contact) (l : List Contact) :
    TopContacts l (storeContacts contacts l) := by
  obtain ⟨pos, h⟩ := storeContacts_stored contacts l (Nat.le_refl l.length)
  rw [List.take_length] at h
  refine ⟨by simpa using h.kept.size_eq, ⟨pos, by simpa using h.kept.inj, h.holds⟩, ?_⟩
  have hkeys := h.kept.keys_perm (strengthAt_range l)
  rwa [List.map_congr_left fun i hi => h.strength (List.mem_range.mp hi)] at hkeys

/-! ## The components of a frame -/

/-- The contact that the turn `start` hands to `g6ts_store_contact`. -/
def handedContact (prof : Profile) (s : FindState) (start : Nat) : Option Contact :=
  match startComponent s start with
  | none => none
  | some (fill, contact) =>
    if weakComponent contact || nsrRejected s.ts.buf contact || palmSized contact then none
    else some (shapeContact prof (shapedHeat s.ts fill) (locateContact contact)).2

/-- The contacts handed over by the turns below `k`. -/
def handedBelow (prof : Profile) (ts : Heat) (k : Nat) : List Contact :=
  (List.range k).filterMap fun start => handedContact prof (findBefore prof ts start) start

/-- The accepted components of the frame, in the order found. -/
def acceptedContacts (prof : Profile) (ts : Heat) : List Contact := handedBelow prof ts heatSamples

theorem Passes.of_buf {a b : Heat} {cells : List Nat} (hb : a.buf = b.buf) (h : Passes a cells) :
    Passes b cells := by
  have hv := value_of_buf hb
  have hw : b.weight = a.weight := by
    funext cell
    simp only [Heat.weight, hv]
  refine ⟨hv ▸ h.strong, ?_, h.pixels, h.span⟩
  have hmean : meanRow b cells = meanRow a cells := by simp only [meanRow, hw]
  rw [hmean, ← hb]
  exact h.quiet

/-- A turn hands its component over if the cells pass the three gates. -/
theorem handedContact_passes {prof : Profile} {s : FindState} {start : Nat} {c : Flood × Contact}
    (hc : startComponent s start = some c) (hfill : FillExact s start c)
    (hpass : Passes s.ts (queuedCells c)) :
    handedContact prof s start = some (shapeContact prof (shapedHeat s.ts c.1)
      (locateContact c.2)).2 := by
  obtain ⟨hweak, hnsr, hpalm⟩ := (passes_iff hfill.exact hfill.divisor).mp hpass
  unfold handedContact
  simp only [hc, hweak, hnsr, hpalm, Bool.or_self, Bool.false_eq_true, if_false]

theorem handedContact_rejected {prof : Profile} {s : FindState} {start : Nat} {c : Flood × Contact}
    (hc : startComponent s start = some c) (hfill : FillExact s start c)
    (hno : ¬ Passes s.ts (queuedCells c)) :
    handedContact prof s start = none := by
  have hgate : (weakComponent c.2 || nsrRejected s.ts.buf c.2 || palmSized c.2) = true := by
    by_contra hne
    exact hno ((passes_iff hfill.exact hfill.divisor).mpr (by simpa [and_assoc] using hne))
  unfold handedContact
  simp only [hc, hgate, if_true]

/-- The contacts handed over are those of the frame's accepted components. -/
theorem mem_acceptedContacts {prof : Profile} {ts : Heat} {contact : Contact} :
    contact ∈ acceptedContacts prof ts ↔ ∃ a : Accepted prof ts, a.shaped = contact := by
  unfold acceptedContacts handedBelow
  rw [List.mem_filterMap]
  apply Iff.intro
  · intro h
    obtain ⟨start, hstart, h⟩ := h
    have hlt := List.mem_range.mp hstart
    have hsweep := findBefore_sweeping prof ts (Nat.le_of_lt hlt)
    cases hc : startComponent (findBefore prof ts start) start with
    | none => simp [handedContact, hc] at h
    | some c =>
      have hfill := (hsweep.turn hlt hc).1
      by_cases hpass : Passes (findBefore prof ts start).ts (queuedCells c)
      · rw [handedContact_passes hc hfill hpass] at h
        exact ⟨⟨start, hlt, c, hc, hpass.of_buf hsweep.buf⟩, Option.some.inj h⟩
      · rw [handedContact_rejected hc hfill hpass] at h
        cases h
  · intro h
    obtain ⟨a, rfl⟩ := h
    exact ⟨a.start, List.mem_range.mpr a.lt, handedContact_passes a.fills a.fill
      (a.passes.of_buf a.sweeping.buf.symm)⟩

/-- One turn of the `start` loop calls `g6ts_store_contact` for the contact it hands over. -/
theorem findBefore_handed {prof : Profile} {ts : Heat} {start : Nat} (hlt : start < heatSamples) :
    ((findBefore prof ts (start + 1)).ts.contacts, (findBefore prof ts (start + 1)).contactCount) =
      match handedContact prof (findBefore prof ts start) start with
      | none => ((findBefore prof ts start).ts.contacts, (findBefore prof ts start).contactCount)
      | some contact => storeContact (findBefore prof ts start).ts.contacts contact (findBefore prof ts start).contactCount := by
  have hturn := (findContacts_exact prof ts).turns start hlt
  cases hc : startComponent (findBefore prof ts start) start with
  | none =>
    have hnone : handedContact prof (findBefore prof ts start) start = none := by
      simp [handedContact, hc]
    rw [hturn.idle hc, hnone]
  | some c =>
    obtain ⟨hfill, hstep⟩ := hturn.fills c hc
    by_cases hpass : Passes (findBefore prof ts start).ts (queuedCells c)
    · rw [handedContact_passes hc hfill hpass]
      exact (hstep.stored hpass).1
    · obtain ⟨hsame, hcount, _⟩ := hstep.rejected hpass
      rw [handedContact_rejected hc hfill hpass, hsame, hcount]

theorem findBefore_stores (prof : Profile) (ts : Heat) {k : Nat} (hk : k ≤ heatSamples) :
    ((findBefore prof ts k).ts.contacts, (findBefore prof ts k).contactCount) =
      storeContacts ts.contacts (handedBelow prof ts k) := by
  induction k with
  | zero =>
    unfold findBefore
    rw [loop_zero]
    rfl
  | succ k ih =>
    have hrun := ih (by omega)
    rw [findBefore_handed hk]
    unfold handedBelow storeContacts at *
    rw [List.range_succ, List.filterMap_append, List.foldl_append, ← hrun]
    cases h : handedContact prof (findBefore prof ts k) k <;> simp [h]

theorem finish_contacts (s : FindState) : (s.finish.1.contacts, s.finish.2) =
    (s.ts.contacts, s.contactCount) := rfl

theorem findContacts_stores (prof : Profile) (ts : Heat) :
    ((findContacts prof ts).1.contacts, (findContacts prof ts).2) =
    storeContacts ts.contacts (acceptedContacts prof ts) := by
  rw [(findContacts_exact prof ts).run]
  exact (finish_contacts _).trans (findBefore_stores prof ts (Nat.le_refl heatSamples))

/-- Any list of contacts, and so the accepted components of any frame, leaves its ten strongest in the array. -/
theorem storeContact_strongest :
    (∀ (contacts : Nat → Contact) (l : List Contact), TopContacts l (storeContacts contacts l)) ∧
    ∀ (prof : Profile) (ts : Heat),
      ((findContacts prof ts).1.contacts, (findContacts prof ts).2) =
      storeContacts ts.contacts (acceptedContacts prof ts) ∧
      TopContacts (acceptedContacts prof ts) ((findContacts prof ts).1.contacts,
        (findContacts prof ts).2) := by
  refine ⟨storeContacts_top, fun prof ts => ⟨findContacts_stores prof ts, ?_⟩⟩
  rw [findContacts_stores]
  exact storeContacts_top _ _

end Sp11Touch
