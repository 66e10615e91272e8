import Sp11Touch.L2Pipeline.Tracks
import Sp11Touch.Core.Binary64
/-!
# The class history against its reference

`g6ts_windows_update_class` with its tables as an argument, and
`BaseClassHistory` of `tools/extract_windows_lifecycle.py`, run on the same
observations of one track. The kernel computes with Q24 integers in `s64`;
Python computes the same numbers as floats, here in units of `2 ^ -24`, and
rounds every difference (`Binary64.fl_sub`).

**Results.** `classes_agree`: on score vectors whose differences are exact in
both, the classes are the same after every observation, and the kernel's
history is the newest ten vectors, newest first. `rounding_differs`: one
vector of large scores on which Python's difference rounds up to the margin.
The frame transaction is the same function with the tables compiled into the
kernel (`freshTrack_classes`, `updateTrack_classes`).
-/
namespace Sp11Touch
open CInt

/-! ## The kernel -/

/-- What `g6ts_new_track` leaves for the class update. -/
def newClassTrack : Track := { age := 1, windowsClass := windowsUnclassified }

/-- `if (track->age < U16_MAX) track->age++` of `g6ts_update_track`. -/
def Track.older (track : Track) : Track :=
  { track with age := if track.age < 65535 then track.age + 1 else track.age }

/-! ## The reference -/

/-- mirrors tools/extract_windows_lifecycle.py:143-177 (`TransitionRule.passes_current_scores`) -/
def passesCurrentScores (rule : TransitionRule) (oldClass newClass : Nat)
    (scores : Nat → Int) : Bool :=
  if oldClass = newClass then true
  else
    ((List.range classCount).all fun class' => class' == newClass ||
      !decide (Binary64.sub (scores newClass) (scores class') <
      rule.currentMargins.getD class' 0 * 2 ^ 24)) &&
    decide (scores newClass ≥ rule.absoluteMinimum * 2 ^ 24)

/-- mirrors tools/extract_windows_lifecycle.py:179-207 (`TransitionRule.passes_score_history`) -/
def passesScoreHistory (rule : TransitionRule) (oldClass newClass : Nat)
    (history : List (Nat → Int)) : Bool :=
  if oldClass = newClass then true
  else if rule.historyDepth > windowsHistoryCapacity then false
  else if history.length < rule.historyDepth then false
  else (history.take rule.historyDepth).all fun scores =>
    ((List.range classCount).all fun class' => class' == newClass ||
      !decide (Binary64.sub (scores newClass) (scores class') <
      rule.historyMargins.getD class' 0 * 2 ^ 24)) &&
    !decide (scores newClass < rule.absoluteMinimum * 2 ^ 24)

/-- The values of `gate`. -/
inductive DecisionGate where
  | current
  | history
  | pointCount
  deriving DecidableEq, Repr

/-- mirrors tools/extract_windows_lifecycle.py:922-936 (`BaseTransitionDecision`) -/
structure BaseTransitionDecision where
  age : Nat
  previousClass : Nat
  candidateClass : Nat
  selectedClass : Nat
  accepted : Bool
  gate : DecisionGate

/-- mirrors tools/extract_windows_lifecycle.py:939-994 (`BaseClassHistory`) -/
structure BaseClassHistory where
  age : Nat := 0
  currentClass : Nat := windowsUnclassified
  scoreHistory : List (Nat → Int) := []

/-- The score gate and its name. -/
def scoreGate (rule : TransitionRule) (age previous candidate : Nat) (values : Nat → Int)
    (history : List (Nat → Int)) : Bool × DecisionGate :=
  if age = 1 then (passesCurrentScores rule previous candidate values, .current)
  else if age ≤ rule.initialAgeLimit then
    if passesCurrentScores rule previous candidate values then (true, .current)
    else (passesScoreHistory rule previous candidate history, .history)
  else (passesScoreHistory rule previous candidate history, .history)

/-- A pixel count is never negative, so nothing is raised.
mirrors tools/extract_windows_lifecycle.py:948-994 (`BaseClassHistory.update`) -/
def BaseClassHistory.update (l : Lifecycle) (h : BaseClassHistory) (values : Nat → Int)
    (pointCount : Nat) :
    BaseClassHistory × BaseTransitionDecision :=
  let age := h.age + 1
  let scoreHistory := (values :: h.scoreHistory).take windowsHistoryCapacity
  let candidate := loop (classCount - 1) (fun k candidate =>
    if values candidate < values (k + 1) then k + 1 else candidate) 0
  let previous := h.currentClass
  let (accepted, gate) := scoreGate (l.rule previous candidate) age previous
    candidate values scoreHistory
  let inside := decide (l.pointMinimums.getD candidate 0 ≤ pointCount) &&
    decide (pointCount ≤ l.pointMaximums.getD candidate 0)
  let gate := if accepted && !inside then .pointCount else gate
  let accepted := accepted && inside
  let current := if accepted then candidate else h.currentClass
  (⟨age, current, scoreHistory⟩, ⟨age, previous, candidate, current, accepted, gate⟩)

/-! ## Observations -/

/-- A score vector both sides can hold, and the pixel count. -/
structure Observation where
  scores : Nat → Int
  pixels : Nat
  inRange : ∀ c, c < classCount → s64Min ≤ scores c ∧ scores c ≤ s64Max
  double : ∀ c, c < classCount → Binary64.Exact (scores c)

/-- Both sides can hold every difference of two scores. -/
def ExactScores (scores : Nat → Int) : Prop := ∀ c d, c < classCount → d < classCount →
  Binary64.Exact (scores c - scores d) ∧ s64Min ≤ scores c - scores d ∧ scores c - scores d ≤ s64Max

def Observation.contact (o : Observation) : Contact := { scoresQ24 := o.scores, pixels := o.pixels }

/-- The track created for `first` and updated by the others. -/
def kernelClasses (l : Lifecycle) (first : Observation) (rest : List Observation) : Track :=
  rest.foldl (fun track o => windowsUpdateClassBy l track.older o.contact)
    (windowsUpdateClassBy l newClassTrack first.contact)

def referenceClasses (l : Lifecycle) (observations : List Observation) : BaseClassHistory :=
  observations.foldl (fun h o => (h.update l o.scores o.pixels).1) {}

/-- The samples are the newest ten score vectors, newest first. -/
def HoldsNewest (track : Track) (observations : List Observation) : Prop :=
  track.scoreHistoryCount = min observations.length windowsHistoryCapacity ∧
    ∀ k, k < min observations.length windowsHistoryCapacity →
    ∀ o, observations.reverse[k]? = some o →
      track.scoreHistoryQ24 k = o.scores

/-! ## The gates -/

theorem all_congr_mem {α : Type} {p q : α → Bool} : ∀ {l : List α}, (∀ x ∈ l, p x = q x) →
    l.all p = l.all q
  | [], _ => rfl
  | x :: l, h => by
    rw [List.all_cons, List.all_cons, h x List.mem_cons_self,
      all_congr_mem fun y hy => h y (List.mem_cons_of_mem x hy)]

theorem decide_le_eq (a b : Int) : decide (a ≤ b) = !decide (b < a) := by
  rw [Bool.eq_iff_iff]
  simp

theorem marginsPass_eq {scores : Nat → Int} (h : ExactScores scores) (margins : List Int)
    (minimum : Int)
    {candidate : Nat} (hc : candidate < classCount) : marginsPass margins minimum candidate scores =
      (((List.range classCount).all fun class' => class' == candidate ||
        !decide (Binary64.sub (scores candidate) (scores class') <
        margins.getD class' 0 * 2 ^ 24)) &&
      !decide (scores candidate < minimum * 2 ^ 24)) := by
  have hmargin : ∀ class' ∈ List.range classCount,
      (class' == candidate || decide (margins.getD class' 0 * 2 ^ windowsScoreShift ≤
        s64 (scores candidate - scores class'))) =
      (class' == candidate ||
        !decide (Binary64.sub (scores candidate) (scores class') <
        margins.getD class' 0 * 2 ^ 24)) := by
    intro class' hmem
    obtain ⟨hex, h1, h2⟩ := h candidate class' hc (List.mem_range.mp hmem)
    rw [s64_eq h1 h2, Binary64.sub_of_exact hex, decide_le_eq]
    rfl
  unfold marginsPass
  rw [all_congr_mem hmargin, decide_le_eq]
  rfl

theorem passesCurrentScores_eq {scores : Nat → Int} (h : ExactScores scores) (rule : TransitionRule)
    {oldClass newClass : Nat} (hne : oldClass ≠ newClass) (hc : newClass < classCount) :
    passesCurrentScores rule oldClass newClass scores =
      transitionCurrentPasses rule newClass scores := by
  unfold passesCurrentScores transitionCurrentPasses
  rw [if_neg hne, marginsPass_eq h _ _ hc, ← decide_le_eq]

/-- The samples of the track are those of the history. -/
structure Samples (track : Track) (history : List (Nat → Int)) : Prop where
  count : track.scoreHistoryCount = history.length
  sample : ∀ k v, history[k]? = some v → track.scoreHistoryQ24 k = v

theorem Samples.take {track : Track} {history : List (Nat → Int)} (h : Samples track history)
    {depth : Nat}
    (hd : depth ≤ history.length) : history.take depth =
      (List.range depth).map track.scoreHistoryQ24 := by
  apply List.ext_getElem
  · simp [hd]
  · intro k h1 h2
    simp only [List.length_map, List.length_range] at h2
    rw [List.getElem_take, List.getElem_map, List.getElem_range]
    exact (h.sample k _ (List.getElem?_eq_getElem (by omega))).symm

theorem passesScoreHistory_eq {track : Track} {history : List (Nat → Int)}
    (h : Samples track history)
    (hex : ∀ v ∈ history, ExactScores v) (rule : TransitionRule) {oldClass newClass : Nat}
    (hne : oldClass ≠ newClass) (hc : newClass < classCount) :
    passesScoreHistory rule oldClass newClass history =
      transitionHistoryPasses track rule newClass := by
  unfold passesScoreHistory transitionHistoryPasses
  rw [if_neg hne, h.count]
  by_cases hcap : rule.historyDepth ≤ windowsHistoryCapacity
  · by_cases hlen : rule.historyDepth ≤ history.length
    · rw [if_neg (by omega), if_neg (by omega), decide_eq_true hcap, decide_eq_true hlen,
        Bool.true_and,
        Bool.true_and]
      have hall : ∀ v ∈ history.take rule.historyDepth,
          (((List.range classCount).all fun class' => class' == newClass ||
            !decide (Binary64.sub (v newClass) (v class') <
            rule.historyMargins.getD class' 0 * 2 ^ 24)) &&
          !decide (v newClass < rule.absoluteMinimum * 2 ^ 24)) =
          marginsPass rule.historyMargins rule.absoluteMinimum newClass v := fun v hv =>
        (marginsPass_eq (hex v (List.mem_of_mem_take hv)) _ _ hc).symm
      rw [all_congr_mem hall, h.take hlen, List.all_map]
      rfl
    · rw [if_neg (by omega), if_pos (by omega), decide_eq_false hlen]
      simp
  · rw [if_pos (by omega), decide_eq_false hcap]
    simp

/-! ## One observation -/

/-- A pushed vector is the first sample. -/
theorem Samples.push {track : Track} {history : List (Nat → Int)} (h : Samples track history)
    (hlen : history.length ≤ windowsHistoryCapacity) (scores : Nat → Int) :
    Samples (pushHistory track scores) ((scores :: history).take windowsHistoryCapacity) := by
  have hcount := h.count
  unfold pushHistory
  refine ⟨?_, fun k v hv => ?_⟩
  · simp only [hcount, List.length_take, List.length_cons]
    split <;> omega
  · have hk : k < windowsHistoryCapacity := by
      by_contra hk
      rw [List.getElem?_take, if_neg hk] at hv
      cases hv
    rw [List.getElem?_take_of_lt hk] at hv
    simp only
    cases k with
    | zero =>
      rw [if_pos rfl]
      exact Option.some.inj hv
    | succ k =>
      rw [List.getElem?_cons_succ] at hv
      have hkl : k < history.length := (List.getElem?_eq_some_iff.mp hv).1
      rw [if_neg (by omega), if_pos (by omega)]
      exact h.sample k v hv

theorem candidateClass_lt (scores : Nat → Int) : candidateClass scores < classCount := by
  unfold candidateClass
  refine loop_ind (fun _ candidate => candidate < classCount) (by decide) fun k candidate hk h => ?_
  simp only [classCount] at hk h ⊢
  split <;> omega

/-- The two sides after the observations `seen`, newest first. -/
structure Agrees (seen : List Observation) (track : Track) (h : BaseClassHistory) : Prop where
  windowsClass : track.windowsClass = h.currentClass
  samples : Samples track h.scoreHistory
  history : h.scoreHistory = (seen.map Observation.scores).take windowsHistoryCapacity

/-- The decision on a candidate of another class. -/
theorem accepted_eq {l : Lifecycle} {track : Track} {history : List (Nat → Int)}
    {age candidate : Nat}
    {o : Observation} (hs : Samples track history) (hex : ∀ v ∈ history, ExactScores v)
    (ho : ExactScores o.scores) (hage : track.age = min age 65535) (hpos : 1 ≤ age)
    (hne : track.windowsClass ≠ candidate) (hc : candidate < classCount) :
    transitionAccepted l track o.contact candidate =
      ((scoreGate (l.rule track.windowsClass candidate) age track.windowsClass
      candidate o.scores history).1 &&
        (decide (l.pointMinimums.getD candidate 0 ≤ o.pixels) &&
          decide (o.pixels ≤ l.pointMaximums.getD candidate 0))) := by
  have hlimit := l.rule_ageLimit track.windowsClass candidate
  generalize hrule : l.rule track.windowsClass candidate = rule at hlimit
  have hcur := passesCurrentScores_eq ho rule hne hc
  have hhist := passesScoreHistory_eq hs hex rule hne hc
  have hfirst : (track.age == 1) = decide (age = 1) := by
    rw [Bool.eq_iff_iff, beq_iff_eq, decide_eq_true_iff]; omega
  have hyoung : decide (track.age ≤ rule.initialAgeLimit) =
    decide (age ≤ rule.initialAgeLimit) := by
    rw [Bool.eq_iff_iff, decide_eq_true_iff, decide_eq_true_iff]; omega
  have hold : decide (track.age > 1) = decide (age > 1) := by
    rw [Bool.eq_iff_iff, decide_eq_true_iff, decide_eq_true_iff]; omega
  unfold transitionAccepted scoreGate
  simp only [Observation.contact] at hcur ⊢
  rw [hrule, hfirst, hyoung, hold, ← hcur, ← hhist, Bool.and_assoc]
  congr 1
  by_cases h1 : age = 1
  · simp [h1]
  · have hgt : age > 1 := by omega
    by_cases hy : age ≤ rule.initialAgeLimit
    · cases passesCurrentScores rule track.windowsClass candidate o.scores <;> simp [h1, hy, hgt]
    · simp [h1, hy, hgt]

/-- One observation on both sides; `track` has the age of the observation already. -/
theorem Agrees.step {l : Lifecycle} {seen : List Observation} {track : Track} {h : BaseClassHistory}
    {o : Observation}
    (ha : Agrees seen track h) (hage : track.age = min (h.age + 1) 65535)
    (hex : ∀ x ∈ o :: seen, ExactScores x.scores) :
    Agrees (o :: seen) (windowsUpdateClassBy l track o.contact) (h.update l o.scores o.pixels).1 ∧
      (windowsUpdateClassBy l track o.contact).age = track.age ∧
      (h.update l o.scores o.pixels).1.age = h.age + 1 := by
  have hlen : h.scoreHistory.length ≤ windowsHistoryCapacity := by
    rw [ha.history, List.length_take]; omega
  have hpush := ha.samples.push hlen o.scores
  have hnew : (o.scores :: h.scoreHistory).take windowsHistoryCapacity =
      ((o :: seen).map Observation.scores).take windowsHistoryCapacity := by
    rw [ha.history, List.map_cons, windowsHistoryCapacity, List.take_succ_cons, List.take_succ_cons,
      List.take_take]
    rfl
  have hexact : ∀ v ∈ (o.scores :: h.scoreHistory).take windowsHistoryCapacity, ExactScores v := by
    intro v hv
    rw [hnew] at hv
    obtain ⟨x, hx, rfl⟩ := List.mem_map.mp (List.mem_of_mem_take hv)
    exact hex x hx
  have hclass : (pushHistory track o.scores).windowsClass = h.currentClass := ha.windowsClass
  have hc := candidateClass_lt o.scores
  refine ⟨⟨?_, ⟨hpush.count, hpush.sample⟩, hnew⟩, rfl, rfl⟩
  unfold windowsUpdateClassBy BaseClassHistory.update
  simp only [Observation.contact]
  change (if _ then candidateClass o.scores else _) = if _ then candidateClass o.scores else _
  by_cases hsame : h.currentClass = candidateClass o.scores
  · simp [hclass, hsame]
  · have hacc := accepted_eq (l := l) (o := o) hpush hexact
      (hex o List.mem_cons_self) hage (by omega)
      (hclass ▸ hsame) hc
    rw [hclass] at hacc
    simp only [Observation.contact] at hacc
    simp only [hclass, beq_eq_false_iff_ne.mpr hsame, Bool.false_or, hacc]
    rfl

/-! ## Runs -/

theorem runs_agree {l : Lifecycle} : ∀ (rest seen : List Observation) (track : Track)
    (h : BaseClassHistory),
    Agrees seen track h → track.age = min h.age 65535 → (∀ x ∈ rest ++ seen, ExactScores x.scores) →
    Agrees (rest.reverse ++ seen) (rest.foldl
      (fun track o => windowsUpdateClassBy l track.older o.contact) track)
      (rest.foldl (fun h o => (h.update l o.scores o.pixels).1) h)
  | [], _, _, _, ha, _, _ => ha
  | o :: rest, seen, track, h, ha, hage, hex => by
    have holder : track.older.age = min (h.age + 1) 65535 := by
      unfold Track.older
      simp only
      split <;> omega
    obtain ⟨hstep, hage1, hage2⟩ := @Agrees.step l _ track.older _ o
      ⟨ha.windowsClass, ⟨ha.samples.count, ha.samples.sample⟩, ha.history⟩ holder fun x hx => by
        refine hex x ?_
        rcases List.mem_cons.mp hx with rfl | hx
        · exact List.mem_append_left _ List.mem_cons_self
        · exact List.mem_append_right _ hx
    rw [List.reverse_cons, List.append_assoc, List.singleton_append]
    refine runs_agree rest (o :: seen) _ _ hstep ?_ fun x hx => ?_
    · rw [hage1, hage2, holder]
    · refine hex x ?_
      rcases List.mem_append.mp hx with hx | hx
      · exact List.mem_append_left _ (List.mem_cons_of_mem _ hx)
      · rcases List.mem_cons.mp hx with rfl | hx
        · exact List.mem_append_left _ List.mem_cons_self
        · exact List.mem_append_right _ hx

theorem Agrees.holdsNewest {observations : List Observation} {track : Track} {h : BaseClassHistory}
    (ha : Agrees observations.reverse track h) : HoldsNewest track observations := by
  have hcount := ha.samples.count
  rw [ha.history, List.length_take, List.length_map, List.length_reverse] at hcount
  refine ⟨by rw [hcount, Nat.min_comm], fun k hk o ho => ?_⟩
  apply ha.samples.sample
  rw [ha.history, List.getElem?_take, if_pos (by omega), List.getElem?_map, ho]
  rfl

/-- After the first observation and any number `n` of the others. -/
theorem classes_agree (l : Lifecycle) (first : Observation) (rest : List Observation)
    (h : ∀ o ∈ first :: rest, ExactScores o.scores) (n : Nat) :
    (kernelClasses l first (rest.take n)).windowsClass =
      (referenceClasses l (first :: rest.take n)).currentClass ∧
    HoldsNewest (kernelClasses l first (rest.take n)) (first :: rest.take n) := by
  have hstart : Agrees [] newClassTrack {} := ⟨rfl, ⟨rfl, fun k v hv => nomatch hv⟩, rfl⟩
  obtain ⟨hfirst, hage1, hage2⟩ := hstart.step (l := l) (o := first) rfl fun x hx => by
    rw [List.mem_singleton.mp hx]
    exact h first List.mem_cons_self
  have hrun := runs_agree (l := l) (rest.take n) [first] _ _ hfirst
    (by rw [hage1, hage2]; rfl) fun x hx => by
    rcases List.mem_append.mp hx with hx | hx
    · exact h x (List.mem_cons_of_mem _ (List.mem_of_mem_take hx))
    · rw [List.mem_singleton.mp hx]
      exact h first List.mem_cons_self
  refine ⟨hrun.windowsClass, Agrees.holdsNewest (h := referenceClasses l (first :: rest.take n)) ?_⟩
  rw [List.reverse_cons]
  exact hrun

/-- Scores below `2 ^ 28` are exact. -/
theorem exactScores_of_small {scores : Nat → Int}
    (h : ∀ c, c < classCount → (scores c).natAbs < 2 ^ 52) :
    ExactScores scores := by
  intro c d hc hd
  have h1 := h c hc
  have h2 := h d hd
  simp only [s64Min, s64Max]
  exact ⟨Binary64.exact_of_lt (by omega), by omega, by omega⟩

/-- One of the twenty rules, the current margin of class `1` given. -/
def plainLifecycle (margin : Int) (h : -2 ^ 31 ≤ margin ∧ margin < 2 ^ 31) : Lifecycle where
  rules := List.replicate 20 ⟨[0, 0, 0, 0], [0, margin, 0, 0], 0, 1, 0⟩
  pointMinimums := [0, 0, 0, 0]
  pointMaximums := [65535, 65535, 65535, 65535]
  twenty := by simp
  typed := by
    intro rule hr
    rw [List.eq_of_mem_replicate hr]
    exact ⟨by simp, by simpa using h, by simp, by simp, by simp⟩

/-- Class `0` scores `a`, class `1` scores `b`. -/
def twoScores (a b : Int) (ha : Binary64.Exact a ∧ s64Min ≤ a ∧ a ≤ s64Max)
    (hb : Binary64.Exact b ∧ s64Min ≤ b ∧ b ≤ s64Max) : Observation where
  scores := fun c => if c = 0 then a else if c = 1 then b else 0
  pixels := 10
  inRange := by
    intro c _
    split
    · exact ha.2
    · split
      · exact hb.2
      · decide
  double := by
    intro c _
    split
    · exact ha.1
    · split
      · exact hb.1
      · decide

/-- Two observations, the second of which has another best class. -/
theorem classes_agree_two :
    (kernelClasses (plainLifecycle 5 (by decide)) (twoScores (2 ^ 27) 0 (by decide) (by decide))
      ([twoScores 0 (2 ^ 27) (by decide) (by decide)].take 1)).windowsClass =
    (referenceClasses (plainLifecycle 5 (by decide))
      (twoScores (2 ^ 27) 0 (by decide) (by decide) ::
      [twoScores 0 (2 ^ 27) (by decide) (by decide)].take 1)).currentClass ∧
    HoldsNewest (kernelClasses (plainLifecycle 5 (by decide))
      (twoScores (2 ^ 27) 0 (by decide) (by decide))
      ([twoScores 0 (2 ^ 27) (by decide) (by decide)].take 1))
      (twoScores (2 ^ 27) 0 (by decide) (by decide) ::
        [twoScores 0 (2 ^ 27) (by decide) (by decide)].take 1) := by
  refine classes_agree _ _ _ (fun o ho => ?_) 1
  have hcases : o = twoScores (2 ^ 27) 0 (by decide) (by decide) ∨
      o = twoScores 0 (2 ^ 27) (by decide) (by decide) := by simpa using ho
  rcases hcases with rfl | rfl
  · exact exactScores_of_small (by decide)
  · exact exactScores_of_small (by decide)

/-- With scores `2 ^ 30 + 1` and `2 ^ -24` Python's difference rounds up to the margin `2 ^ 30 + 1`, so
it accepts class `0`; the kernel's difference stays below. -/
theorem rounding_differs :
    (kernelClasses (plainLifecycle (2 ^ 30 + 1) (by decide))
      (twoScores (2 ^ 54 + 2 ^ 24) 1 (by decide +kernel) (by decide)) []).windowsClass =
      windowsUnclassified ∧
    (referenceClasses (plainLifecycle (2 ^ 30 + 1) (by decide))
      [twoScores (2 ^ 54 + 2 ^ 24) 1 (by decide +kernel) (by decide)]).currentClass = 0 := by
  decide +kernel

/-! ## The kernel's own tables -/

/-- The fields the class update reads and writes. -/
def SameClasses (a b : Track) : Prop := a.windowsClass = b.windowsClass ∧ a.age = b.age ∧
  a.scoreHistoryCount = b.scoreHistoryCount ∧ a.scoreHistoryQ24 = b.scoreHistoryQ24

theorem freshTrack_classes (behaviorV2 : Bool) (tracks : Slot → Track) (contact : Contact) :
    SameClasses (freshTrack ⟨true, behaviorV2⟩ tracks contact)
    (windowsUpdateClassBy g6tsLifecycle newClassTrack contact) :=
  ⟨rfl, rfl, rfl, rfl⟩

theorem updateTrack_classes (behaviorV2 : Bool) (track : Track) (contact : Contact) :
    SameClasses (updateTrack ⟨true, behaviorV2⟩ track contact)
    (windowsUpdateClassBy g6tsLifecycle track.older contact) :=
  ⟨rfl, rfl, rfl, rfl⟩

end Sp11Touch
