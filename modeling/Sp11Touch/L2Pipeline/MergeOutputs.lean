import Sp11Touch.Core.Relabel
import Mathlib.Data.Finset.Insert
import Mathlib.Data.List.FinRange
/-!
# Merging nearby output contacts (`merge_nearby_output_contacts`)

The first pass collects the pairs of near contacts of different groups, the
second gives each later group the identifier of the earlier contact, by then
perhaps rewritten itself. Whatever test stands for the squared distance, the
groups left are the connected ones (`Merged`).
-/
namespace Sp11Touch
open Relation

variable {K : Type} {n : Nat}

/-- mirrors tools/windows_tracking_geometry.py:253-266 (`OutputContact`) -/
structure OutputContact (K : Type) where
  x : K
  y : K
  recordType : Int
  groupId : Int
  trackIndex : Int

/-- `record_type in (1, 3)` -/
def OutputContact.mergeable (contact : OutputContact K) : Bool :=
  contact.recordType == 1 || contact.recordType == 3

/-- The body of the `second_index` loop: `(pairs, merged_tracks)`. -/
def collectSecond (near : OutputContact K → OutputContact K → Bool)
    (contacts : Fin n → OutputContact K) (first : Fin n)
    (acc : List (Fin n × Fin n) × Finset Int) (second : Fin n) :
      List (Fin n × Fin n) × Finset Int :=
  if !(contacts second).mergeable then acc
  else if (contacts first).groupId == (contacts second).groupId then acc
  else if near (contacts first) (contacts second) then
    (acc.1 ++ [(first, second)], insert (contacts second).trackIndex
      (insert (contacts first).trackIndex acc.2))
  else acc

/-- The body of the `first_index` loop. -/
def collectFirst (near : OutputContact K → OutputContact K → Bool)
    (contacts : Fin n → OutputContact K)
    (acc : List (Fin n × Fin n) × Finset Int) (first : Fin n) : List (Fin n × Fin n) × Finset Int :=
  if !(contacts first).mergeable then acc
  else ((List.finRange n).filter (first < ·)).foldl (collectSecond near contacts first) acc

/-- mirrors tools/windows_tracking_geometry.py:283-299 (the pairs and their tracks) -/
def collectPairs (near : OutputContact K → OutputContact K → Bool)
    (contacts : Fin n → OutputContact K) :
    List (Fin n × Fin n) × Finset Int :=
  (List.finRange n).foldl (collectFirst near contacts) ([], ∅)

/-- The loop that gives the group `replaced` the identifier of `first`, read anew at every turn. -/
def replaceGroup (first : Fin n) (replaced : Int) (contacts : Fin n → OutputContact K) : Fin n →
    OutputContact K :=
  (List.finRange n).foldl (fun contacts k =>
    if (contacts k).groupId = replaced then
      Function.update contacts k { contacts k with groupId := (contacts first).groupId }
    else contacts) contacts

/-- `if contact.record_type == 1: contact.record_type = 7` -/
def markMerged (contacts : Fin n → OutputContact K) (k : Fin n) : Fin n → OutputContact K :=
  if (contacts k).recordType = 1 then Function.update contacts k
    { contacts k with recordType := 7 } else contacts

/-- mirrors tools/windows_tracking_geometry.py:302-311 (one pair) -/
def mergePair (contacts : Fin n → OutputContact K) (pair : Fin n × Fin n) : Fin n →
    OutputContact K :=
  markMerged (markMerged (replaceGroup pair.1 (contacts pair.2).groupId contacts) pair.1) pair.2

/-- Both passes, for a test in the place of the squared distance. -/
def mergeNear (near : OutputContact K → OutputContact K → Bool)
    (contacts : Fin n → OutputContact K) :
    (Fin n → OutputContact K) × Finset Int :=
  let (pairs, mergedTracks) := collectPairs near contacts
  (pairs.foldl mergePair contacts, mergedTracks)

/-- `dx * dx + dy * dy < distance_squared_limit` -/
def nearTest [Sub K] [Mul K] [Add K] [LT K] [DecidableLT K] (distanceSquaredLimit : K)
    (first second : OutputContact K) : Bool :=
  let dx := first.x - second.x
  let dy := first.y - second.y
  dx * dx + dy * dy < distanceSquaredLimit

/-- mirrors tools/windows_tracking_geometry.py:269-313 (`merge_nearby_output_contacts`) -/
def mergeNearbyOutputContacts [Zero K] [Sub K] [Mul K] [Add K] [LT K] [DecidableLT K]
    (contacts : List (OutputContact K))
    (distanceSquaredLimit : K) : Except String (List (OutputContact K) × Finset Int) :=
  if distanceSquaredLimit < 0 then .error "merge distance-squared limit must be non-negative"
  else
    let (contacts, mergedTracks) := mergeNear (nearTest distanceSquaredLimit) contacts.get
    .ok (List.ofFn contacts, mergedTracks)

/-! ## The pairs -/

/-- A pair that the first pass collects. -/
structure NearPair (near : OutputContact K → OutputContact K → Bool)
    (contacts : Fin n → OutputContact K)
    (first second : Fin n) : Prop where
  lt : first < second
  merges : (contacts first).mergeable = true
  joins : (contacts second).mergeable = true
  apart : (contacts first).groupId ≠ (contacts second).groupId
  near : near (contacts first) (contacts second) = true

/-- The contact is in one of the pairs. -/
def InPairs (pairs : List (Fin n × Fin n)) (k : Fin n) : Prop := ∃ p ∈ pairs, k = p.1 ∨ k = p.2

/-- The tracks are those of the contacts in the pairs. -/
def TracksOf (contacts : Fin n → OutputContact K)
    (acc : List (Fin n × Fin n) × Finset Int) : Prop :=
  ∀ t, t ∈ acc.2 ↔ ∃ k, InPairs acc.1 k ∧ t = (contacts k).trackIndex

theorem inPairs_append {pairs : List (Fin n × Fin n)} {p : Fin n × Fin n} {k : Fin n} :
    InPairs (pairs ++ [p]) k ↔ InPairs pairs k ∨ k = p.1 ∨ k = p.2 := by
  simp only [InPairs, List.mem_append, List.mem_singleton, or_and_right, exists_or, exists_eq_left]

section Collect

variable {near : OutputContact K → OutputContact K → Bool} {contacts : Fin n → OutputContact K}

theorem collectSecond_mem {first second : Fin n} {acc : List (Fin n × Fin n) × Finset Int}
    (hlt : first < second) (hfirst : (contacts first).mergeable = true) (p : Fin n × Fin n) :
    p ∈ (collectSecond near contacts first acc second).1 ↔
      p ∈ acc.1 ∨ (p = (first, second) ∧ NearPair near contacts first second) := by
  unfold collectSecond
  split
  · next h => exact ⟨Or.inl, fun hp => hp.resolve_right fun hp => by simp [hp.2.joins] at h⟩
  split
  · next h => exact ⟨Or.inl, fun hp => hp.resolve_right fun hp => hp.2.apart (by simpa using h)⟩
  split
  · next hm ha hn =>
    have hpair : NearPair near contacts first second :=
      ⟨hlt, hfirst, by simpa using hm, by simpa using ha, hn⟩
    simp [hpair]
  · next h => exact ⟨Or.inl, fun hp => hp.resolve_right fun hp => h hp.2.near⟩

theorem collectSecond_tracks {first second : Fin n} {acc : List (Fin n × Fin n) × Finset Int}
    (h : TracksOf contacts acc) : TracksOf contacts
    (collectSecond near contacts first acc second) := by
  unfold collectSecond
  split
  · exact h
  split
  · exact h
  split
  · intro t
    simp only [Finset.mem_insert, h t, inPairs_append, or_and_right, exists_or, exists_eq_left]
    simp only [or_comm, or_left_comm, or_assoc]
  · exact h

theorem collectSeconds_mem {first : Fin n} (hfirst : (contacts first).mergeable = true)
    (p : Fin n × Fin n)
    {seconds : List (Fin n)} (hlt : ∀ second ∈ seconds, first < second)
      (acc : List (Fin n × Fin n) × Finset Int) :
    p ∈ (seconds.foldl (collectSecond near contacts first) acc).1 ↔
      p ∈ acc.1 ∨ (p.1 = first ∧ p.2 ∈ seconds ∧ NearPair near contacts p.1 p.2) := by
  induction seconds generalizing acc with
  | nil => simp
  | cons second seconds ih =>
    rw [List.foldl_cons, ih fun j hj => hlt j (List.mem_cons_of_mem second hj),
      collectSecond_mem (hlt second List.mem_cons_self) hfirst]
    simp only [List.mem_cons, Prod.ext_iff]
    grind

theorem collectFirst_mem (first : Fin n) (acc : List (Fin n × Fin n) × Finset Int)
    (p : Fin n × Fin n) :
    p ∈ (collectFirst near contacts acc first).1 ↔ p ∈ acc.1 ∨
      (p.1 = first ∧ NearPair near contacts p.1 p.2) := by
  unfold collectFirst
  split
  · next h =>
    refine ⟨Or.inl, fun hp => hp.resolve_right fun hp => ?_⟩
    have hmerges := hp.2.merges
    rw [hp.1] at hmerges
    simp [hmerges] at h
  · next h =>
    rw [collectSeconds_mem (by simpa using h) p (by simp)]
    simp only [List.mem_filter, List.mem_finRange, true_and, decide_eq_true_eq]
    apply or_congr_right
    exact ⟨fun hp => ⟨hp.1, hp.2.2⟩, fun hp => ⟨hp.1, hp.1 ▸ hp.2.lt, hp.2⟩⟩

theorem collectFirst_tracks (first : Fin n) {acc : List (Fin n × Fin n) × Finset Int}
    (h : TracksOf contacts acc) :
    TracksOf contacts (collectFirst near contacts acc first) := by
  unfold collectFirst
  split
  · exact h
  · exact List.foldlRecOn _ _ h fun _ h _ _ => collectSecond_tracks h

theorem collectPairs_mem {p : Fin n × Fin n} :
    p ∈ (collectPairs near contacts).1 ↔ NearPair near contacts p.1 p.2 := by
  have hrun : ∀ (firsts : List (Fin n)) (acc : List (Fin n × Fin n) × Finset Int),
      p ∈ (firsts.foldl (collectFirst near contacts) acc).1 ↔
        p ∈ acc.1 ∨ (p.1 ∈ firsts ∧ NearPair near contacts p.1 p.2) := by
    intro firsts
    induction firsts with
    | nil => simp
    | cons first firsts ih =>
      intro acc
      rw [List.foldl_cons, ih, collectFirst_mem]
      simp only [List.mem_cons, or_and_right, or_assoc]
  unfold collectPairs
  simp [hrun]

theorem collectPairs_tracks : TracksOf contacts (collectPairs near contacts) := by
  refine List.foldlRecOn _ _ (fun t => ?_) fun _ h first _ => collectFirst_tracks first h
  simp [InPairs]

end Collect

/-! ## The relabelling -/

/-- After the turns of `ks`: the contacts of the group among them have the identifier of `first`. -/
theorem replaceGroup_turns (first : Fin n) (replaced : Int) (contacts : Fin n → OutputContact K)
    (ks : List (Fin n))
    (k : Fin n) :
    ks.foldl (fun contacts k =>
      if (contacts k).groupId = replaced then
        Function.update contacts k { contacts k with groupId := (contacts first).groupId }
      else contacts) contacts k =
      if k ∈ ks ∧ (contacts k).groupId = replaced then { contacts k with
        groupId := (contacts first).groupId }
      else contacts k := by
  induction ks using List.reverseRecOn generalizing k with
  | nil => simp
  | append_singleton ks last ih =>
    rw [List.foldl_append, List.foldl_cons, List.foldl_nil]
    generalize ks.foldl _ contacts = after at ih
    have hfirst : (after first).groupId = (contacts first).groupId := by
      rw [ih first]
      by_cases h : first ∈ ks ∧ (contacts first).groupId = replaced
      · rw [if_pos h]
      · rw [if_neg h]
    by_cases hk : k = last
    · subst hk
      by_cases hgroup : (contacts k).groupId = replaced
      · rw [if_pos (show k ∈ ks ++ [k] ∧ (contacts k).groupId = replaced from ⟨by simp, hgroup⟩)]
        -- the contact has the old identifier still, or already the new one
        have hafter : after k = contacts k ∨ after k =
          { contacts k with groupId := (contacts first).groupId } := by
          rw [ih k]
          split
          · exact Or.inr rfl
          · exact Or.inl rfl
        split
        · rw [Function.update_self, hfirst]
          rcases hafter with h | h <;> rw [h]
        · next hne => exact hafter.resolve_left fun h => hne (h ▸ hgroup)
      · have hafter : after k = contacts k := by rw [ih k, if_neg fun h => hgroup h.2]
        rw [if_neg (show ¬ (k ∈ ks ++ [k] ∧ (contacts k).groupId = replaced) from
          fun h => hgroup h.2), hafter, if_neg hgroup,
          hafter]
    · have hother : (if (after last).groupId = replaced then
          Function.update after last { after last with groupId := (after first).groupId }
            else after) k = after k := by
        split
        · exact Function.update_of_ne hk _ _
        · rfl
      rw [hother, ih k]
      simp [hk]

/-- The whole loop: `first` keeps its own identifier throughout. -/
theorem replaceGroup_eq (first : Fin n) (replaced : Int) (contacts : Fin n → OutputContact K)
    (k : Fin n) :
    replaceGroup first replaced contacts k =
      if (contacts k).groupId = replaced then { contacts k with
        groupId := (contacts first).groupId } else contacts k := by
  unfold replaceGroup
  simp [replaceGroup_turns]

@[simp]
theorem markMerged_groupId (contacts : Fin n → OutputContact K) (j k : Fin n) :
    (markMerged contacts j k).groupId = (contacts k).groupId := by
  unfold markMerged
  split
  · by_cases h : k = j
    · rw [h, Function.update_self]
    · rw [Function.update_of_ne h]
  · rfl

/-- All but the group and the type is as before. -/
structure SamePlace (a b : OutputContact K) : Prop where
  x : a.x = b.x
  y : a.y = b.y
  trackIndex : a.trackIndex = b.trackIndex

/-- Marking a type twice, on one condition and then on another. -/
theorem ite_merged_twice {t : Int} {p q : Prop} [Decidable p] [Decidable q] :
    (if (if t = 1 ∧ p then 7 else t) = 1 ∧ q then 7 else if t = 1 ∧ p then 7 else t) =
    if t = 1 ∧ (p ∨ q) then 7 else t := by
  by_cases hp : p <;> by_cases ht : t = 1 <;> simp [hp, ht]

theorem markMerged_recordType (contacts : Fin n → OutputContact K) (j k : Fin n) :
    (markMerged contacts j k).recordType = if (contacts k).recordType = 1 ∧ k = j then 7
    else (contacts k).recordType := by
  unfold markMerged
  split
  · by_cases h : k = j
    · subst h
      simp [*]
    · simp [h]
  · next hne =>
    rw [if_neg]
    rintro ⟨h, rfl⟩
    exact hne h

theorem SamePlace.refl (a : OutputContact K) : SamePlace a a := ⟨rfl, rfl, rfl⟩

theorem SamePlace.trans {a b c : OutputContact K} (h : SamePlace a b) (h' : SamePlace b c) :
    SamePlace a c :=
  ⟨h.x.trans h'.x, h.y.trans h'.y, h.trackIndex.trans h'.trackIndex⟩

theorem markMerged_place (contacts : Fin n → OutputContact K) (j k : Fin n) :
    SamePlace (markMerged contacts j k) (contacts k) := by
  unfold markMerged
  split
  · by_cases h : k = j
    · rw [h, Function.update_self]
      exact ⟨rfl, rfl, rfl⟩
    · rw [Function.update_of_ne h]
      exact SamePlace.refl _
  · exact SamePlace.refl _

theorem mergePair_groupId (contacts : Fin n → OutputContact K) (pair : Fin n × Fin n) :
    (fun k => (mergePair contacts pair k).groupId) =
    joinLabel (fun k => (contacts k).groupId) pair.1 pair.2 := by
  funext k
  unfold mergePair joinLabel
  rw [markMerged_groupId, markMerged_groupId, replaceGroup_eq]
  split <;> rfl

theorem mergePair_recordType (contacts : Fin n → OutputContact K) (pair : Fin n × Fin n)
    (k : Fin n) :
    (mergePair contacts pair k).recordType =
      if (contacts k).recordType = 1 ∧ (k = pair.1 ∨ k = pair.2) then 7
        else (contacts k).recordType := by
  have hreplace : (replaceGroup pair.1 (contacts pair.2).groupId contacts k).recordType =
    (contacts k).recordType := by
    rw [replaceGroup_eq]
    split <;> rfl
  unfold mergePair
  rw [markMerged_recordType, markMerged_recordType, hreplace]
  exact ite_merged_twice

theorem mergePair_place (contacts : Fin n → OutputContact K) (pair : Fin n × Fin n) (k : Fin n) :
    SamePlace (mergePair contacts pair k) (contacts k) := by
  have hreplace : SamePlace (replaceGroup pair.1 (contacts pair.2).groupId contacts k)
    (contacts k) := by
    rw [replaceGroup_eq]
    split <;> exact ⟨rfl, rfl, rfl⟩
  exact ((markMerged_place _ _ k).trans (markMerged_place _ _ k)).trans hreplace

/-! ## All pairs -/

/-- What the second pass makes of the pairs. -/
structure PairsMerged (contacts : Fin n → OutputContact K) (pairs : List (Fin n × Fin n))
    (after : Fin n → OutputContact K) : Prop where
  groups : (fun k => (after k).groupId) = joinAll (fun k => (contacts k).groupId) pairs
  merged : ∀ k, (contacts k).recordType = 1 → InPairs pairs k → (after k).recordType = 7
  kept : ∀ k, ¬ ((contacts k).recordType = 1 ∧ InPairs pairs k) →
    (after k).recordType = (contacts k).recordType
  place : ∀ k, SamePlace (after k) (contacts k)

theorem PairsMerged.pair {contacts after : Fin n → OutputContact K} {pairs : List (Fin n × Fin n)}
    (h : PairsMerged contacts pairs after) (pair : Fin n × Fin n) :
    PairsMerged contacts (pairs ++ [pair]) (mergePair after pair) := by
  refine ⟨?_, fun k ht hin => ?_, fun k hno => ?_,
    fun k => (mergePair_place after pair k).trans (h.place k)⟩
  · rw [mergePair_groupId, h.groups]
    unfold joinAll
    rw [List.foldl_append]
    rfl
  · rw [mergePair_recordType]
    by_cases hold : InPairs pairs k
    · rw [h.merged k ht hold]
      rfl
    · rw [h.kept k fun hk => hold hk.2]
      exact if_pos ⟨ht, (inPairs_append.mp hin).resolve_left hold⟩
  · have hsame : (after k).recordType = (contacts k).recordType :=
      h.kept k fun hk => hno ⟨hk.1, inPairs_append.mpr (Or.inl hk.2)⟩
    rw [mergePair_recordType, hsame]
    exact if_neg fun hk => hno ⟨hk.1, inPairs_append.mpr (Or.inr hk.2)⟩

theorem mergePairs_merged (contacts : Fin n → OutputContact K) (pairs : List (Fin n × Fin n)) :
    PairsMerged contacts pairs (pairs.foldl mergePair contacts) := by
  induction pairs using List.reverseRecOn with
  | nil => exact ⟨rfl, fun k _ h => by simp [InPairs] at h, fun _ _ => rfl, fun k => SamePlace.refl _⟩
  | append_singleton pairs pair ih =>
    rw [List.foldl_append]
    exact ih.pair pair

/-- What the merge leaves: the connected groups, the types of the contacts in a pair, and the tracks of these. -/
structure Merged (near : OutputContact K → OutputContact K → Bool)
    (contacts : Fin n → OutputContact K)
    (r : (Fin n → OutputContact K) × Finset Int) : Prop where
  groups : ∀ i j, (r.1 i).groupId = (r.1 j).groupId ↔
    EqvGen (fun a b => (contacts a).groupId = (contacts b).groupId ∨ NearPair near contacts a b) i j
  changed : ∀ k, (r.1 k).recordType ≠ (contacts k).recordType ↔
    (contacts k).recordType = 1 ∧ ∃ other, NearPair near contacts k other ∨
    NearPair near contacts other k
  seven : ∀ k, (r.1 k).recordType ≠ (contacts k).recordType → (r.1 k).recordType = 7
  tracks : ∀ t, t ∈ r.2 ↔
    ∃ k, (∃ other, NearPair near contacts k other ∨ NearPair near contacts other k) ∧
    t = (contacts k).trackIndex
  place : ∀ k, SamePlace (r.1 k) (contacts k)

theorem collectPairs_in {near : OutputContact K → OutputContact K → Bool}
    {contacts : Fin n → OutputContact K} {k : Fin n} :
    InPairs (collectPairs near contacts).1 k ↔ ∃ other, NearPair near contacts k other ∨
      NearPair near contacts other k := by
  unfold InPairs
  simp only [collectPairs_mem]
  apply Iff.intro
  · rintro ⟨p, hp, rfl | rfl⟩
    · exact ⟨p.2, Or.inl hp⟩
    · exact ⟨p.1, Or.inr hp⟩
  · rintro ⟨other, hp | hp⟩
    · exact ⟨(k, other), hp, Or.inl rfl⟩
    · exact ⟨(other, k), hp, Or.inr rfl⟩

theorem mergeNear_spec (near : OutputContact K → OutputContact K → Bool)
    (contacts : Fin n → OutputContact K) :
    Merged near contacts (mergeNear near contacts) := by
  have h := mergePairs_merged contacts (collectPairs near contacts).1
  have hgroups := Classes.joined (fun k => (contacts k).groupId) (collectPairs near contacts).1
  rw [← h.groups] at hgroups
  simp only [collectPairs_mem] at hgroups
  refine ⟨hgroups, fun k => ?_, fun k hne => ?_, fun t => ?_, h.place⟩
  · rw [← collectPairs_in]
    apply Iff.intro
    · exact fun hne => by_contra fun hno => hne (h.kept k hno)
    · rintro ⟨ht, hin⟩
      simp only [mergeNear, h.merged k ht hin, ht]
      decide
  · have hin : (contacts k).recordType = 1 ∧ InPairs (collectPairs near contacts).1 k :=
      by_contra fun hno => hne (h.kept k hno)
    exact h.merged k hin.1 hin.2
  · simp only [← collectPairs_in]
    exact collectPairs_tracks t

/-- The merge computes the connected groups, for any test and so for the squared distance. -/
theorem merge_connected :
    (∀ (K : Type) (n : Nat) (near : OutputContact K → OutputContact K → Bool)
    (contacts : Fin n → OutputContact K),
      Merged near contacts (mergeNear near contacts)) ∧
    ∀ (K : Type) [Zero K] [Sub K] [Mul K] [Add K] [LT K] [DecidableLT K]
      (contacts : List (OutputContact K)) (limit : K),
      ∃ r, Merged (nearTest limit) contacts.get r ∧
        mergeNearbyOutputContacts contacts limit =
          if limit < 0 then .error "merge distance-squared limit must be non-negative"
            else .ok (List.ofFn r.1, r.2) := by
  refine ⟨fun K n near contacts => mergeNear_spec near contacts,
    fun K _ _ _ _ _ _ contacts limit => ?_⟩
  exact ⟨mergeNear (nearTest limit) contacts.get, mergeNear_spec _ _, rfl⟩

end Sp11Touch
