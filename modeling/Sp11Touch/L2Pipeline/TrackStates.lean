import Mathlib.Data.List.Basic
import Mathlib.Data.List.Induction
/-!
# The two counters of the track states (`windows_output_policy.py`)

The tracker counts its tracks in use and its tracks in states one and two.
Three functions move tracks between states, each with its own counting, and
count in bytes that wrap upwards and stop at zero downwards. Here the arithmetic
of the bytes is a parameter: `byteCounter` is the source's, `strictCounter`
fails where it would wrap or stop. From counters that agree with the states no
run tells the two apart (`run_counts`), so the counters agree for ever.
-/
namespace Sp11Touch
namespace TrackStates

/-- How a counter goes up and down. -/
structure Counter where
  inc : Int → Except String Int
  dec : Int → Except String Int

/-- `(count + 1) & 0xFF`, and `count -= 1` guarded by `if count` -/
def byteCounter : Counter where
  inc count := .ok ((count + 1) % 256)
  dec count := .ok (if count ≠ 0 then count - 1 else count)

/-- The same without a wrap and without a guard that holds. -/
def strictCounter : Counter where
  inc count := if count + 1 ≤ 0xFF then .ok (count + 1) else .error "increment wraps"
  dec count := if count ≠ 0 then .ok (count - 1) else .error "decrement suppressed"

/-- mirrors tools/windows_output_policy.py:182-187 (`TrackStateCounts`) -/
structure TrackStateCounts where
  activeTrackCount : Int
  stateOneTwoCount : Int
deriving DecidableEq, Repr

/-- mirrors tools/windows_output_policy.py:190-193 (`TrackStateTransitionDecision`) -/
structure TrackStateTransitionDecision where
  state : Int
  counts : TrackStateCounts

/-- mirrors tools/windows_output_policy.py:196-200 (`StateThreeCleanupDecision`) -/
structure StateThreeCleanupDecision where
  states : List Int
  counts : TrackStateCounts
  clearedIndexes : List Nat

/-- mirrors tools/windows_output_policy.py:174-179 (`UnmatchedLifecycleDecision`) -/
structure UnmatchedLifecycleDecision where
  state : Int
  stateOneTwoCount : Int
  state4SuppressionAccepted : Bool
  reason : String

/-- `state != 0` -/
def inUse (state : Int) : Bool := state != 0

/-- `state in (1, 2)` -/
def oneTwo (state : Int) : Bool := state == 1 || state == 2

/-- A counter of the tracks with a property, when one track may gain or lose it. -/
def recount (counter : Counter) (was is : Bool) (count : Int) : Except String Int :=
  if !was && is then counter.inc count
  else if was && !is then counter.dec count
  else .ok count

/-- `0 <= state <= 4` -/
def validState (state : Int) : Bool := decide (0 ≤ state) && decide (state ≤ 4)

/-- `0 <= count <= 0xFF` -/
def isByte (count : Int) : Bool := decide (0 ≤ count) && decide (count ≤ 0xFF)

/-- mirrors tools/windows_output_policy.py:202-236 (`apply_track_state_transition`) -/
def applyTrackStateTransition (counter : Counter) (oldState newState : Int)
    (counts : TrackStateCounts) :
    Except String TrackStateTransitionDecision :=
  if !validState oldState || !validState newState then .error "track states must be in [0, 4]"
  else if !isByte counts.activeTrackCount then .error "active-track count must fit an unsigned byte"
  else if !isByte counts.stateOneTwoCount then .error
    "state-one/two count must fit an unsigned byte"
  else do
    let active ← recount counter (inUse oldState) (inUse newState) counts.activeTrackCount
    let stateOneTwo ← recount counter (oneTwo oldState) (oneTwo newState) counts.stateOneTwoCount
    return ⟨newState, ⟨active, stateOneTwo⟩⟩

/-- The `for` loop of the cleanup from `index` on: the new states, the counts and the cleared indexes. -/
def cleanupFrom (counter : Counter) : Nat → List Int → TrackStateCounts →
    Except String StateThreeCleanupDecision
  | _, [], current => .ok ⟨[], current, []⟩
  | index, state :: states, current =>
    if !validState state then .error "track states must be in [0, 4]"
    else if state ≠ 3 then do
      let rest ← cleanupFrom counter (index + 1) states current
      return ⟨state :: rest.states, rest.counts, rest.clearedIndexes⟩
    else do
      let decision ← applyTrackStateTransition counter 3 0 current
      let rest ← cleanupFrom counter (index + 1) states decision.counts
      return ⟨decision.state :: rest.states, rest.counts, index :: rest.clearedIndexes⟩

/-- mirrors tools/windows_output_policy.py:239-257 (`cleanup_state_three_tracks`) -/
def cleanupStateThreeTracks (counter : Counter) (states : List Int) (counts : TrackStateCounts) :
    Except String StateThreeCleanupDecision :=
  if states.length > 48 then .error "Windows tracker has at most 48 track slots"
  else cleanupFrom counter 0 states counts

/-- mirrors tools/windows_output_policy.py:409-456 (`advance_unmatched_track`) -/
def advanceUnmatchedTrack (counter : Counter) (state : Int) (matchedThisFrame : Bool)
    (releaseCounter stateOneTwoCount : Int)
    (state4SuppressionAccepted : Bool) : Except String UnmatchedLifecycleDecision :=
  if !validState state then .error "track state must be in [0, 4]"
  else if !isByte releaseCounter then .error "release counter must fit an unsigned byte"
  else if !isByte stateOneTwoCount then .error "state-one/two count must fit an unsigned byte"
  else if state = 0 ∨ matchedThisFrame then .ok ⟨state, stateOneTwoCount, false, "unchanged"⟩
  else if state = 1 then
    if state4SuppressionAccepted then do return ⟨4, ← counter.dec stateOneTwoCount, true,
      "state1_to_state4"⟩
    else do return ⟨3, ← counter.dec stateOneTwoCount, false, "state1_to_state3"⟩
  else if (state = 2 ∨ state = 4) ∧ releaseCounter = 0 then
    if state = 2 then do return ⟨3, ← counter.dec stateOneTwoCount, false, "state2_to_state3"⟩
    else .ok ⟨3, stateOneTwoCount, false, "state4_to_state3"⟩
  else .ok ⟨state, stateOneTwoCount, false, "release_counter_active"⟩

/-! ## The tracker -/

/-- The states of the slots and the two counters. -/
structure Tracker where
  states : List Int
  counts : TrackStateCounts

/-- One call, with what the caller passes. -/
inductive Call where
  | transition (track : Nat) (newState : Int)
  | cleanup
  | unmatched (track : Nat) (matchedThisFrame : Bool) (releaseCounter : Int)
    (state4SuppressionAccepted : Bool)

/-- The call, and its result stored back. -/
def Tracker.call (counter : Counter) (t : Tracker) : Call → Except String Tracker
  | .transition track newState =>
    match t.states[track]? with
    | none => .error "tuple index out of range"
    | some state => do
      let decision ← applyTrackStateTransition counter state newState t.counts
      return ⟨t.states.set track decision.state, decision.counts⟩
  | .cleanup => do
    let decision ← cleanupStateThreeTracks counter t.states t.counts
    return ⟨decision.states, decision.counts⟩
  | .unmatched track matchedThisFrame releaseCounter state4SuppressionAccepted =>
    match t.states[track]? with
    | none => .error "tuple index out of range"
    | some state => do
      let decision ← advanceUnmatchedTrack counter state matchedThisFrame releaseCounter
        t.counts.stateOneTwoCount
        state4SuppressionAccepted
      return ⟨t.states.set track decision.state,
        ⟨t.counts.activeTrackCount, decision.stateOneTwoCount⟩⟩

/-- A call that raises stores nothing. -/
def Tracker.after (counter : Counter) (t : Tracker) (call : Call) : Tracker :=
  match t.call counter call with
  | .ok t' => t'
  | .error _ => t

/-- The calls of a list, in order. -/
def Tracker.run (counter : Counter) (t : Tracker) (calls : List Call) : Tracker :=
  calls.foldl (Tracker.after counter) t

/-! ## Results that no exact counter changes -/

/-- Right where a byte has room and something to count down from. -/
structure Counter.Exact (counter : Counter) : Prop where
  inc : ∀ n, 0 ≤ n → n < 0xFF → counter.inc n = .ok (n + 1)
  dec : ∀ n, 0 < n → counter.dec n = .ok (n - 1)

theorem byteCounter_exact : byteCounter.Exact := by
  refine ⟨fun n h0 h1 => ?_, fun n h => ?_⟩
  · exact congrArg Except.ok (Int.emod_eq_of_lt (by omega) (by omega))
  · exact congrArg Except.ok (if_pos (by omega))

theorem strictCounter_exact : strictCounter.Exact :=
  ⟨fun _ _ h1 => if_pos (by omega), fun _ h => if_pos (by omega)⟩

/-- All exact counters give one result, and a value it has meets `post`. -/
def Alike {α : Type} (f : Counter → Except String α) (post : α → Prop) : Prop :=
  ∃ r, (∀ counter, counter.Exact → f counter = r) ∧ ∀ a, r = .ok a → post a

namespace Alike
variable {α β : Type} {f g : Counter → Except String α} {post : α → Prop}

theorem error (text : String) : Alike (fun _ => (.error text : Except String α)) post :=
  ⟨_, fun _ _ => rfl, fun _ h => by cases h⟩

theorem ok {a : α} (h : post a) : Alike (fun _ => .ok a) post :=
  ⟨_, fun _ _ => rfl, fun _ he => Except.ok.inj he ▸ h⟩

theorem ite {p : Prop} [Decidable p] (h : p → Alike f post) (h' : ¬ p → Alike g post) :
    Alike (fun counter => if p then f counter else g counter) post := by
  by_cases hp : p
  · simpa only [if_pos hp] using h hp
  · simpa only [if_neg hp] using h' hp

theorem bind {next : Counter → α → Except String β} {post' : β → Prop} (h : Alike f post)
    (h' : ∀ a, post a → Alike (fun counter => next counter a) post') :
    Alike (fun counter => f counter >>= next counter) post' := by
  obtain ⟨r, hr, hpost⟩ := h
  cases r with
  | error text => exact ⟨.error text, fun counter hc => by simp only [hr counter hc]; rfl, fun _ he => by cases he⟩
  | ok a =>
    obtain ⟨r', hr', hpost'⟩ := h' a (hpost a rfl)
    exact ⟨r', fun counter hc => by simp only [hr counter hc]; exact hr' counter hc, hpost'⟩

theorem inc {n : Int} (h0 : 0 ≤ n) (h1 : n < 0xFF) : Alike (fun counter => counter.inc n)
    (· = n + 1) :=
  ⟨.ok (n + 1), fun _ hc => hc.inc n h0 h1, fun _ he => (Except.ok.inj he).symm⟩

theorem dec {n : Int} (h : 0 < n) : Alike (fun counter => counter.dec n) (· = n - 1) :=
  ⟨.ok (n - 1), fun _ hc => hc.dec n h, fun _ he => (Except.ok.inj he).symm⟩

end Alike

/-! ## The three functions -/

theorem recount_alike {n : Nat} {was is : Bool} (hn : n < 0xFF) :
    Alike (fun counter => recount counter was is (n + was.toNat)) fun count =>
    count = n + is.toNat := by
  unfold recount
  cases was <;> cases is
  · exact Alike.ok rfl
  · simpa using Alike.inc (n := n) (by omega) (by omega)
  · simpa using Alike.dec (n := n + 1) (by omega)
  · exact Alike.ok rfl

/-- The counters of a state beside `a` tracks in use and `b` in states one and two. -/
def countsWith (a b : Nat) (state : Int) : TrackStateCounts :=
  ⟨a + (inUse state).toNat, b + (oneTwo state).toNat⟩

theorem transition_alike {a b : Nat} {oldState newState : Int} (ha : a < 0xFF) (hb : b < 0xFF) :
    Alike (fun counter => applyTrackStateTransition counter oldState newState
    (countsWith a b oldState))
      fun decision => decision.state = newState ∧ decision.counts = countsWith a b newState := by
  unfold applyTrackStateTransition
  refine Alike.ite (fun _ => Alike.error _) fun _ => Alike.ite (fun _ => Alike.error _) fun _ =>
    Alike.ite (fun _ => Alike.error _) fun _ => ?_
  refine (recount_alike ha).bind fun active hactive =>
    (recount_alike hb).bind fun stateOneTwo honeTwo => ?_
  exact Alike.ok ⟨rfl, by rw [hactive, honeTwo]; rfl⟩

/-- How many of the states have each property. -/
def countsOf (a b : Nat) (states : List Int) : TrackStateCounts :=
  ⟨a + states.countP inUse, b + states.countP oneTwo⟩

theorem countP_cons_toNat (p : Int → Bool) (state : Int) (states : List Int) :
    (state :: states).countP p = states.countP p + (p state).toNat := by
  rw [List.countP_cons]
  cases p state <;> rfl

/-- The first state counted with the others. -/
theorem countsOf_cons (a b : Nat) (state : Int) (states : List Int) :
    countsOf a b (state :: states) = countsOf (a + (inUse state).toNat)
    (b + (oneTwo state).toNat) states := by
  simp only [countsOf, countP_cons_toNat, TrackStateCounts.mk.injEq, Int.natCast_add]
  omega

/-- All but the first state as the others beside it. -/
theorem countsOf_with (a b : Nat) (state : Int) (states : List Int) :
    countsOf a b (state :: states) = countsWith (a + states.countP inUse)
    (b + states.countP oneTwo) state := by
  simp only [countsOf, countsWith, countP_cons_toNat, TrackStateCounts.mk.injEq, Int.natCast_add]
  omega

theorem cleanupFrom_alike (states : List Int) {a b index : Nat} (ha : a + states.length ≤ 0xFF)
    (hb : b + states.length ≤ 0xFF) :
    Alike (fun counter => cleanupFrom counter index states (countsOf a b states)) fun decision =>
      decision.counts = countsOf a b decision.states ∧ decision.states.length = states.length := by
  induction states generalizing a b index with
  | nil => exact Alike.ok ⟨rfl, rfl⟩
  | cons state states ih =>
    simp only [List.length_cons] at ha hb
    have hactive := List.countP_le_length (p := inUse) (l := states)
    have honeTwo := List.countP_le_length (p := oneTwo) (l := states)
    unfold cleanupFrom
    refine Alike.ite (fun _ => Alike.error _) fun _ => Alike.ite (fun _ => ?_) fun h3 => ?_
    · have huse := Bool.toNat_le (inUse state)
      have hone := Bool.toNat_le (oneTwo state)
      rw [countsOf_cons]
      refine (ih (by omega) (by omega)).bind fun rest hrest => Alike.ok ⟨?_, ?_⟩
      · rw [hrest.1, ← countsOf_cons]
      · simp only [List.length_cons, hrest.2]
    · obtain rfl : state = 3 := by simpa using h3
      rw [countsOf_with]
      refine (transition_alike (by omega) (by omega)).bind fun decision hd => ?_
      -- a cleared track counts for nothing
      have hfree : ∀ states, countsOf a b (0 :: states) = countsOf a b states :=
        fun states => countsOf_cons a b 0 states
      rw [hd.1, hd.2, ← countsOf_with, hfree]
      refine (ih (by omega) (by omega)).bind fun rest hrest => Alike.ok ⟨?_, ?_⟩
      · rw [hrest.1, hfree]
      · simp only [List.length_cons, hrest.2]

theorem unmatched_alike {b : Nat} {state releaseCounter : Int}
    {matchedThisFrame state4SuppressionAccepted : Bool} :
    Alike (fun counter => advanceUnmatchedTrack counter state matchedThisFrame releaseCounter
      (b + (oneTwo state).toNat)
      state4SuppressionAccepted) fun decision =>
        inUse decision.state = inUse state ∧ decision.stateOneTwoCount =
          b + (oneTwo decision.state).toNat := by
  have hdown : ∀ count : Int, count = b + (1 : Nat) - 1 → count = b + (0 : Nat) :=
    fun count h => by omega
  unfold advanceUnmatchedTrack
  refine Alike.ite (fun _ => Alike.error _) fun _ => Alike.ite (fun _ => Alike.error _) fun _ =>
    Alike.ite (fun _ => Alike.error _) fun _ => Alike.ite (fun _ => Alike.ok ⟨rfl, rfl⟩) fun _ => ?_
  refine Alike.ite (fun h1 => ?_) fun _ => Alike.ite (fun hr => ?_) fun _ => Alike.ok ⟨rfl, rfl⟩
  · subst h1
    have hdec := Alike.dec (n := b + (oneTwo 1).toNat) (Int.lt_add_one_of_le (Int.natCast_nonneg b))
    exact Alike.ite (fun _ => hdec.bind fun count hc => Alike.ok ⟨rfl, hdown count hc⟩) fun _ =>
      hdec.bind fun count hc => Alike.ok ⟨rfl, hdown count hc⟩
  · refine Alike.ite (fun h2 => ?_) fun h2 => ?_
    · subst h2
      exact (Alike.dec (n := b + (oneTwo 2).toNat)
        (Int.lt_add_one_of_le (Int.natCast_nonneg b))).bind fun count hc =>
        Alike.ok ⟨rfl, hdown count hc⟩
    · obtain rfl : state = 4 := hr.1.resolve_left h2
      exact Alike.ok ⟨rfl, rfl⟩

/-! ## Runs -/

/-- The counters agree with the states. -/
def Agrees (t : Tracker) : Prop := t.counts = countsOf 0 0 t.states

/-- One state of the list and what the others count. -/
theorem countP_set {p : Int → Bool} {states : List Int} {i : Nat} {old : Int}
    (h : states[i]? = some old) :
    ∃ rest, rest < states.length ∧ states.countP p = rest + (p old).toNat ∧
      ∀ new, (states.set i new).countP p = rest + (p new).toNat := by
  induction states generalizing i with
  | nil => cases h
  | cons state states ih =>
    cases i with
    | zero =>
      obtain rfl : state = old := by simpa using h
      exact ⟨states.countP p, Nat.lt_succ_of_le List.countP_le_length,
        countP_cons_toNat p state states,
        fun new => countP_cons_toNat p new states⟩
    | succ i =>
      obtain ⟨rest, hlt, hold, hnew⟩ := ih (by simpa using h)
      have hhead := Bool.toNat_le (p state)
      refine ⟨rest + (p state).toNat, by simp only [List.length_cons]; omega, ?_, fun new => ?_⟩
      · rw [countP_cons_toNat, hold]
        omega
      · rw [List.set_cons_succ, countP_cons_toNat, hnew]
        omega

/-- One track's state, and the counters beside the other tracks. -/
theorem countsOf_set {states : List Int} {i : Nat} {old : Int} (h : states[i]? = some old) :
    ∃ a b, a < states.length ∧ b < states.length ∧ countsOf 0 0 states = countsWith a b old ∧
      ∀ new, countsOf 0 0 (states.set i new) = countsWith a b new := by
  obtain ⟨a, ha, hold, hnew⟩ := countP_set (p := inUse) h
  obtain ⟨b, hb, hold', hnew'⟩ := countP_set (p := oneTwo) h
  refine ⟨a, b, ha, hb, ?_, fun new => ?_⟩
  · simp [countsOf, countsWith, hold, hold']
  · simp [countsOf, countsWith, hnew, hnew']

/-- One call, whatever its arguments. -/
theorem call_alike {t : Tracker} (h : Agrees t) (hlen : t.states.length ≤ 48) (call : Call) :
    Alike (fun counter => t.call counter call) fun t' => Agrees t' ∧
    t'.states.length = t.states.length := by
  unfold Agrees at h
  cases call with
  | transition track newState =>
    cases hstate : t.states[track]? with
    | none =>
      simp only [Tracker.call, hstate]
      exact Alike.error _
    | some state =>
      obtain ⟨a, b, ha, hb, hold, hnew⟩ := countsOf_set hstate
      have hcall : Alike _ _ := @transition_alike a b state newState (by omega) (by omega)
      simp only [Tracker.call, hstate, h, hold]
      refine hcall.bind fun decision hd => Alike.ok ⟨?_, List.length_set⟩
      rw [Agrees, hd.2, ← hd.1, hnew]
  | cleanup =>
    simp only [Tracker.call, cleanupStateThreeTracks, h, if_neg (Nat.not_lt.mpr hlen)]
    exact (cleanupFrom_alike t.states (by omega) (by omega)).bind fun decision hd => Alike.ok hd
  | unmatched track matchedThisFrame releaseCounter accepted =>
    cases hstate : t.states[track]? with
    | none =>
      simp only [Tracker.call, hstate]
      exact Alike.error _
    | some state =>
      obtain ⟨a, b, ha, hb, hold, hnew⟩ := countsOf_set hstate
      simp only [Tracker.call, hstate, h, hold, countsWith]
      refine unmatched_alike.bind fun decision hd => Alike.ok ⟨?_, List.length_set⟩
      simp only [Agrees, hnew, countsWith, hd.1, hd.2]

theorem run_agrees {t : Tracker} (h : Agrees t) (hlen : t.states.length ≤ 48) (calls : List Call) :
    Agrees (t.run byteCounter calls) ∧ (t.run byteCounter calls).states.length ≤ 48 := by
  induction calls using List.reverseRecOn with
  | nil => exact ⟨h, hlen⟩
  | append_singleton calls call ih =>
    have hlast : t.run byteCounter (calls ++ [call]) =
      (t.run byteCounter calls).after byteCounter call := by
      unfold Tracker.run
      rw [List.foldl_append]
      rfl
    obtain ⟨r, hr, hpost⟩ := call_alike ih.1 ih.2 call
    have hbyte : (t.run byteCounter calls).call byteCounter call = r :=
      hr byteCounter byteCounter_exact
    rw [hlast]
    unfold Tracker.after
    rw [hbyte]
    cases r with
    | error => exact ih
    | ok t' => exact ⟨(hpost t' rfl).1, (hpost t' rfl).2 ▸ ih.2⟩

theorem agrees_iff {t : Tracker} : Agrees t ↔ t.counts.activeTrackCount = t.states.countP (· ≠ 0) ∧
    t.counts.stateOneTwoCount = t.states.countP fun state => state = 1 ∨ state = 2 := by
  have huse : inUse = fun state => decide (state ≠ 0) := by
    funext state
    simp [inUse, bne, BEq.beq]
  have hone : oneTwo = fun state => decide (state = 1 ∨ state = 2) := by
    funext state
    simp [oneTwo, BEq.beq]
  unfold Agrees countsOf
  rw [← huse, ← hone]
  cases t.counts
  simp

/-- After any calls the counters agree with the states, and no call wraps a counter or keeps it from going down. -/
theorem run_counts (t : Tracker) (hlen : t.states.length ≤ 48)
    (hactive : t.counts.activeTrackCount = t.states.countP (· ≠ 0))
    (honeTwo : t.counts.stateOneTwoCount = t.states.countP fun state => state = 1 ∨ state = 2)
      (calls : List Call) :
    (t.run byteCounter calls).counts.activeTrackCount =
      (t.run byteCounter calls).states.countP (· ≠ 0) ∧
    (t.run byteCounter calls).counts.stateOneTwoCount =
      (t.run byteCounter calls).states.countP (fun state => state = 1 ∨ state = 2) ∧
    ∀ call, (t.run byteCounter calls).call strictCounter call =
      (t.run byteCounter calls).call byteCounter call := by
  obtain ⟨hagrees, hlen'⟩ := run_agrees (agrees_iff.mpr ⟨hactive, honeTwo⟩) hlen calls
  obtain ⟨hcount, hcount'⟩ := agrees_iff.mp hagrees
  refine ⟨hcount, hcount', fun call => ?_⟩
  obtain ⟨r, hr, _⟩ := call_alike hagrees hlen' call
  exact (hr strictCounter strictCounter_exact).trans (hr byteCounter byteCounter_exact).symm

theorem run_counts_three :
    ((Tracker.mk [1, 0, 3] ⟨2, 1⟩).run byteCounter [.cleanup, .transition 1 2,
    .unmatched 0 false 0 true]).counts.activeTrackCount =
      ((Tracker.mk [1, 0, 3] ⟨2, 1⟩).run byteCounter [.cleanup, .transition 1 2,
      .unmatched 0 false 0 true]).states.countP
        (· ≠ 0) :=
  (run_counts ⟨[1, 0, 3], ⟨2, 1⟩⟩ (by decide) (by decide) (by decide)
    [.cleanup, .transition 1 2, .unmatched 0 false 0 true]).1

end TrackStates
end Sp11Touch
