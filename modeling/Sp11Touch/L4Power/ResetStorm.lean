import Sp11Touch.L3Driver.StormFields
import Sp11Touch.L4Power.Pm
/-!
# A storm of panel resets escalates to hardware

`Chain` watches the notifications of a run from outside: how many follow each
other within the window, with no host fault and no hardware recovery among
them, and whether the third or a later one of a chain still waits for its
attempt. `storm` runs it beside the threads and the power calls.

The breaker counts the same thing in a `u8`, from a difference of jiffies in
which zero means that there was no notification before. It would lose count when
two notifications fall into one tick and when a new chain begins before the
attempt, and it does when the streak wraps: a panel that resets in every attempt
keeps a chain alive over suspend and resume, which leave the streak alone.

**Results.**
* `StormInv.step`: as long as notifications are `Countable`, the chain is never
  longer than the streak and a waiting chain has chosen the hardware path.
* `storm_escalates`: by induction, in every run of such steps the attempt after
  the third or a later notification of a chain takes the hardware path.
  `longStorm_softens` is a run in which the streak wraps.
-/
namespace Sp11Touch
open Driver Power

/-! ## Chains of notifications -/

/-- The notifications so far. -/
structure Chain where
  len : Nat
  /-- the time of the last notification -/
  last : Option Nat
  /-- a third or later notification of a chain waits for the next attempt -/
  due : Bool
  deriving DecidableEq, Repr

/-- A notification at `now` follows its predecessor within the window. -/
def Chain.follows (c : Config) (now : Nat) (g : Chain) : Bool :=
  g.last.any fun last => decide (last ≤ now) &&
    decide ((now - last) * c.msPerJiffy ≤ resetStormWindowMs)

def Chain.note (c : Config) (now : Nat) (g : Chain) : Chain :=
  let len := if g.follows c now then g.len + 1 else 1
  ⟨len, some now, g.due || decide (3 ≤ len)⟩

/-- A panel reset was noted from `s` to `t`. -/
def notified (s t : Ts) : Bool := decide (s.stats.resetNotifications < t.stats.resetNotifications)

/-- A host fault, or a successful hardware recovery. -/
def broken (s t : Ts) : Bool :=
  decide (hostFaults s < hostFaults t) ||
    decide (s.stats.recoverySuccesses < t.stats.recoverySuccesses) &&
    decide (s.recoveryPath = .HARDWARE)

/-- The chain after a section from `s` to `t`. -/
def Chain.next (c : Config) (s t : Ts) (g : Chain) : Chain :=
  if notified s t then g.note c t.lastResetJiffies
  else if broken s t then { g with len := 0 }
  else g

/-- An attempt is what a waiting chain waits for. -/
def Chain.begin (s : Ts) (g : Chain) : PmLabel → Chain
  | .thread (.work _) => { g with due := g.due && s.stopping }
  | _ => g

/-- Threads and power calls, with the chain beside them. -/
structure Storm where
  pm : Pm
  chain : Chain

def Storm.ts (x : Storm) : Ts := x.pm.threads.ts

def stormStep (c : Config) (x : Storm) (l : PmLabel) : Option Storm :=
  (pmStep c x.pm l).map fun t => ⟨t, (x.chain.begin x.ts l).next c x.ts t.threads.ts⟩

def storm (c : Config) : LTS Storm PmLabel :=
  .ofFun (fun x => Running x.pm ∧ x.chain = ⟨0, none, false⟩) (stormStep c)

/-! ## Steps without an event -/

theorem unnoted_rule (s0 : Ts) : IoRule (Unnoted s0) where
  io _ _ h := ⟨h.streak, h.last, h.path, h.notifications, h.faults, h.successes⟩

theorem suspendPower_unnoted (c : Config) (w : World) (s : Ts) : Unnoted s (suspendPower c w s).1 :=
  Proc.Keeps.state (Proc.Keeps.bind
    (Proc.Keeps.modify fun _ h => ⟨h.streak, h.last, h.path, h.notifications,
    h.faults, h.successes⟩)
    fun _ => (unnoted_rule s).powerOff) (Unnoted.refl s)

theorem resumePower_unnoted (c : Config) (w : World) (s : Ts) : Unnoted s (resumePower c w s).1 :=
  Proc.Keeps.state (Proc.Keeps.bind
    (Proc.Keeps.modify fun _ h => ⟨h.streak, h.last, Or.inr rfl, h.notifications,
    h.faults, h.successes⟩)
    fun _ => (unnoted_rule s).powerOn) (Unnoted.refl s)

theorem called_unnoted {c : Config} {w : World} {s t : Pm} (h : Called c w s t) :
    Unnoted s.threads.ts t.threads.ts := by
  obtain ⟨pc', u, hstep, rfl⟩ := h
  have hoff := suspendPower_unnoted c w s.threads.ts
  have hon := resumePower_unnoted c w s.threads.ts
  generalize s.pc = pc at hstep
  cases hstep with
  | suspendOff hr => rw [hr] at hoff; exact hoff
  | suspendFails hr => rw [hr] at hoff; exact hoff
  | suspendPath => exact ⟨rfl, rfl, Or.inr rfl, rfl, rfl, rfl⟩
  | resumeOn hr => rw [hr] at hon; exact hon
  | resumeFails hr => rw [hr] at hon; exact hon
  | removePower => exact (unnoted_rule s.threads.ts).powerOff.state (Unnoted.refl _)
  | _ => exact ⟨rfl, rfl, Or.inl rfl, rfl, rfl, rfl⟩

/-- What one step does to the breaker. -/
inductive StepStorm (c : Config) (s t : Ts) : Prop
  | unnoted (h : Unnoted s t)
  | recovered (h : Recovered s t)
  | faulted (h : Faulted s t)
  | noted (now : Nat) (h : Noted c now s t)

theorem threadStep_storm {c : Config} (hb : c.p.resetStormBreaker = true) {l : Label}
    {t u : Threads}
    (h : threadStep c t l = some u) : StepStorm c t.ts u.ts := by
  cases l with
  | irqEnter =>
    obtain ⟨_, rfl⟩ := Option.ite_some_none_eq_some.mp h
    exact .unnoted ⟨rfl, rfl, Or.inl rfl, rfl, rfl, rfl⟩
  | irq w =>
    obtain ⟨_, rfl⟩ := Option.ite_some_none_eq_some.mp h
    cases irqSection_storm hb w t.ts with
    | quiet h => exact .unnoted h.unnoted
    | noted now h => exact .noted now h
    | faulted h => exact .faulted h
  | work w =>
    obtain ⟨_, rfl⟩ := Option.ite_some_none_eq_some.mp h
    cases recoverySection_storm hb w (dequeued t.ts) with
    | unnoted h => exact .unnoted ⟨h.streak, h.last, h.path, h.notifications, h.faults, h.successes⟩
    | recovered h => exact .recovered ⟨h.streak, h.last, h.path, h.notifications, h.faults, h.successes⟩
    | noted now h => exact .noted now ⟨h.streak, h.last, h.path, h.notifications, h.faults, h.successes⟩
  | leave =>
    obtain ⟨retry, _, rfl⟩ := Option.map_eq_some_iff.mp h
    apply StepStorm.unnoted
    unfold reschedule
    split
    · rw [scheduleRecovery_eq]
      exact ⟨rfl, rfl, Or.inl rfl, rfl, rfl, rfl⟩
    · exact ⟨rfl, rfl, Or.inl rfl, rfl, rfl, rfl⟩

theorem pmStep_storm {c : Config} (hb : c.p.resetStormBreaker = true) {l : PmLabel} {s t : Pm}
    (h : pmStep c s l = some t) : StepStorm c s.threads.ts t.threads.ts := by
  rcases pmStep_cases h with ⟨l, u, _, hu, rfl⟩ | ⟨w, hcall⟩
  · exact threadStep_storm hb hu
  · exact .unnoted (called_unnoted hcall)

/-! ## The invariant -/

/-- The breaker does not lose count at this step: a notification within the
window comes in a later tick, a streak that goes on does not wrap, and while a
chain waits for its attempt no other chain begins. -/
def Countable (c : Config) (x : Storm) (l : PmLabel) : Prop :=
  ∀ y, stormStep c x l = some y → notified x.ts y.ts = true →
    (x.chain.follows c y.ts.lastResetJiffies = true →
    resetInterval c y.ts.lastResetJiffies x.ts ≠ 0) ∧
    (Rapid c y.ts.lastResetJiffies x.ts → x.ts.rapidResetStreak ≠ 255) ∧
    ((x.chain.begin x.ts l).due = true → 3 ≤ y.chain.len)

/-- The chain is not longer than the streak, and a waiting one has its path. -/
structure StormInv (g : Chain) (s : Ts) : Prop where
  len : g.len ≤ s.rapidResetStreak.toNat
  last : ∀ last, g.last = some last → s.lastResetJiffies = last
  due : g.due = true → s.recoveryPath = .HARDWARE

/-- The difference of jiffies is exact within the window. -/
theorem resetInterval_le {c : Config} {now last : Nat} {s : Ts} (hs : s.lastResetJiffies = last)
    (hle : last ≤ now)
    (hms : (now - last) * c.msPerJiffy ≤ resetStormWindowMs) :
      resetInterval c now s ≤ resetStormWindowMs := by
  unfold resetInterval
  split
  · exact Nat.zero_le _
  · rcases Nat.eq_zero_or_pos c.msPerJiffy with hz | hpos
    · rw [hz, Nat.mul_zero]
      exact Nat.zero_le _
    · have hdiff : now - last ≤ (now - last) * c.msPerJiffy := Nat.le_mul_of_pos_right _ hpos
      have hsmall : now - last < 2 ^ 64 := by
        simp only [resetStormWindowMs] at hms
        omega
      have hexact : (now + 2 ^ 64 - s.lastResetJiffies) % 2 ^ 64 = now - last := by
        rw [hs]
        omega
      rw [hexact, CInt.u32, Nat.mod_eq_of_lt (by simp only [resetStormWindowMs] at hms; omega)]
      exact hms

theorem StormInv.rapid {c : Config} {now : Nat} {g : Chain} {s : Ts} (hs : StormInv g s)
    (hf : g.follows c now = true) (hz : resetInterval c now s ≠ 0) : Rapid c now s := by
  obtain ⟨last, hl, hwin⟩ := (Option.any_eq_true _ _).mp hf
  simp only [Bool.and_eq_true, decide_eq_true_eq] at hwin
  exact ⟨hz, resetInterval_le (hs.last last hl) hwin.1 hwin.2⟩

theorem toNat_succ {b : UInt8} (h : b ≠ 255) : (b + 1).toNat = b.toNat + 1 := by
  have hne : b.toNat ≠ 255 := fun he => h (UInt8.toNat_inj.mp he)
  have hlt := b.toNat_lt
  rw [UInt8.toNat_add]
  simp only [UInt8.toNat_one]
  omega

/-- A notification that the breaker counts. -/
theorem StormInv.noted_len {c : Config} {now : Nat} {g : Chain} {s t : Ts} (hs : StormInv g s)
    (ht : Noted c now s t) (hz : g.follows c now = true → resetInterval c now s ≠ 0)
    (hwrap : Rapid c now s → s.rapidResetStreak ≠ 255) :
      (g.note c now).len ≤ t.rapidResetStreak.toNat := by
  rw [ht.streak]
  simp only [Chain.note]
  by_cases hr : Rapid c now s
  · rw [if_pos hr, toNat_succ (hwrap hr)]
    have hlen := hs.len
    split <;> omega
  · have hf : ¬ g.follows c now = true := fun hf => hr (hs.rapid hf (hz hf))
    rw [if_neg hr, if_neg hf]
    decide

theorem limit_le {b : UInt8} (h : 3 ≤ b.toNat) : b ≥ resetStormLimit :=
  UInt8.le_iff_toNat_le.mpr h

theorem StormInv.noted {c : Config} {now : Nat} {g : Chain} {s t : Ts} (hs : StormInv g s)
    (ht : Noted c now s t)
    (hz : g.follows c now = true → resetInterval c now s ≠ 0)
    (hwrap : Rapid c now s → s.rapidResetStreak ≠ 255)
      (hdue : g.due = true → 3 ≤ (g.note c now).len) :
    StormInv (g.note c now) t := by
  have hlen := hs.noted_len ht hz hwrap
  refine ⟨hlen, fun last hl => ht.last.trans (Option.some.inj hl), fun hd => ?_⟩
  have hthree : 3 ≤ (g.note c now).len := by
    rcases (Bool.or_eq_true ..).mp hd with h | h
    · exact hdue h
    · exact of_decide_eq_true h
  exact ht.path (limit_le (Nat.le_trans hthree hlen))

/-- A step that cuts the chain. -/
theorem StormInv.cut {g : Chain} {s t : Ts} (hs : StormInv g s)
    (hlast : t.lastResetJiffies = s.lastResetJiffies)
    (hpath : t.recoveryPath = s.recoveryPath ∨ t.recoveryPath = .HARDWARE) :
      StormInv { g with len := 0 } t :=
  ⟨Nat.zero_le _, fun last hl => hlast.trans (hs.last last hl),
    fun hd => hpath.elim (·.trans (hs.due hd)) id⟩

/-- A step that leaves streak and time alone. -/
theorem StormInv.keep {g : Chain} {s t : Ts} (hs : StormInv g s)
    (hstreak : t.rapidResetStreak = s.rapidResetStreak)
    (hlast : t.lastResetJiffies = s.lastResetJiffies)
    (hpath : t.recoveryPath = s.recoveryPath ∨ t.recoveryPath = .HARDWARE) : StormInv g t :=
  ⟨by rw [hstreak]; exact hs.len, fun last hl => hlast.trans (hs.last last hl),
    fun hd => hpath.elim (·.trans (hs.due hd)) id⟩

/-- Without a notification the chain goes on or is cut. -/
theorem next_silent (c : Config) {s t : Ts} (g : Chain)
    (hn : t.stats.resetNotifications = s.stats.resetNotifications) :
    g.next c s t = if broken s t then { g with len := 0 } else g := by
  have hf : notified s t = false := by simp [notified, hn]
  rw [Chain.next, hf, if_neg Bool.false_ne_true]

theorem Noted.notified {c : Config} {now : Nat} {s t : Ts} (h : Noted c now s t) :
    notified s t = true := by
  simp [Sp11Touch.notified, h.notifications]

theorem next_noted {c : Config} {now : Nat} {s t : Ts} (g : Chain) (h : Noted c now s t) :
    g.next c s t = g.note c now := by
  rw [Chain.next, if_pos (Noted.notified h), h.last]

/-- The step lemma, one case for each event. -/
theorem StormInv.next {c : Config} {g : Chain} {s t : Ts} (hs : StormInv g s) (ht : StepStorm c s t)
    (hcount : notified s t = true →
      (g.follows c t.lastResetJiffies = true → resetInterval c t.lastResetJiffies s ≠ 0) ∧
      (Rapid c t.lastResetJiffies s → s.rapidResetStreak ≠ 255) ∧
        (g.due = true → 3 ≤ (g.next c s t).len)) :
    StormInv (g.next c s t) t := by
  cases ht with
  | unnoted h =>
    have hb : broken s t = false := by simp [broken, h.faults, h.successes]
    rw [next_silent c g h.notifications, hb, if_neg Bool.false_ne_true]
    exact hs.keep h.streak h.last h.path
  | recovered h =>
    rw [next_silent c g h.notifications]
    cases hb : broken s t with
    | true => exact hs.cut h.last (Or.inr h.path)
    | false =>
      have hsoft : ¬ s.recoveryPath = .HARDWARE := by simpa [broken, h.faults, h.successes] using hb
      exact hs.keep (h.streak.trans (if_neg hsoft)) h.last (Or.inr h.path)
  | faulted h =>
    have hb : broken s t = true := by simp [broken, h.faults]
    rw [next_silent c g h.notifications, hb, if_pos rfl]
    exact hs.cut h.last h.path
  | noted now h =>
    obtain ⟨hz, hwrap, hdue⟩ := hcount (Noted.notified h)
    rw [h.last] at hz hwrap
    rw [next_noted g h] at hdue ⊢
    exact hs.noted h hz hwrap hdue

theorem StormInv.begin {g : Chain} {s : Ts} (hs : StormInv g s) (l : PmLabel) :
    StormInv (g.begin s l) s := by
  cases l with
  | thread l => cases l with
    | work w => exact ⟨hs.len, hs.last, fun hd => hs.due ((Bool.and_eq_true ..).mp hd).1⟩
    | _ => exact hs
  | _ => exact hs

theorem begin_follows (c : Config) (now : Nat) (s : Ts) (g : Chain) (l : PmLabel) :
    (g.begin s l).follows c now = g.follows c now := by
  cases l with
  | thread l => cases l <;> rfl
  | _ => rfl

theorem storm_inductive {c : Config} (hb : c.p.resetStormBreaker = true) :
    ((storm c).restrict (Countable c)).Inductive fun x => StormInv x.chain x.ts where
  init x hx := by
    rw [hx.2]
    exact ⟨Nat.zero_le _, nofun, nofun⟩
  step x l y hx h := by
    obtain ⟨hstep, hcount⟩ := h
    have hc := hcount y hstep
    obtain ⟨t, ht, rfl⟩ := Option.map_eq_some_iff.mp hstep
    rw [← begin_follows c _ x.ts x.chain l] at hc
    exact (hx.begin l).next (pmStep_storm hb ht) hc

/-! ## Every run -/

/-- The next attempt of the worker takes the hardware path. -/
def TakesHardware (c : Config) (s : Ts) : Prop :=
  ∀ w, s.stopping = false → recoverySection c w (dequeued s) = attempt c w .HARDWARE (dequeued s)

/-- An attempt is due for the third or a later notification of a chain, and it takes the hardware path. -/
def Escalates (c : Config) (x : Storm) : Prop := x.chain.due = true → TakesHardware c x.ts

theorem takesHardware_of_path {c : Config} {s : Ts} (h : s.recoveryPath = .HARDWARE) :
    TakesHardware c s := by
  intro w hstop
  have hd : (dequeued s).stopping = false := hstop
  have hp : (dequeued s).recoveryPath = .HARDWARE := h
  rw [recoverySection, if_neg (by rw [hd]; exact Bool.false_ne_true), hp]

/-- In every run whose notifications are countable the attempt after the third
or a later notification of a chain takes the hardware path. -/
theorem storm_escalates (c : Config) (hb : c.p.resetStormBreaker = true) {x0 x : Storm}
    {ls : List PmLabel}
    (h0 : (storm c).init x0) (h : (storm c).RunMeets (Countable c) x0 ls x) :
      Escalates c x := fun hd =>
  takesHardware_of_path (((storm_inductive hb).run (LTS.run_restrict h)
    ((storm_inductive hb).init x0 h0)).due hd)

/-! ## Three resets -/

/-- Reset recovery in software, with the breaker. -/
def stormConfig : Config :=
  ⟨{ resetRecoveryV2 := true, resetStormBreaker := true, modeConfigFix := false }, rfl, true, 4⟩

def probedStorm : Storm := ⟨probedPm, ⟨0, none, false⟩⟩

theorem probedStorm_init (c : Config) : (storm c).init probedStorm := ⟨probedPm_running, rfl⟩

/-- At tick `k` the panel resets, at time `now`. -/
def resetAt (now k : Nat) : List PmLabel :=
  [.thread .irqEnter, .thread (.irq { panel [resetResponse] k with jiffies := fun _ => now })]

/-- The worker recovers in software. -/
def softwareAt (k : Nat) : List PmLabel := [.thread (.work (panel startup k)), .thread .leave]

/-- A start-up, and three resets a second apart, with a recovery after each of the first two. -/
def threeResets : List PmLabel :=
  [.thread boot, .thread .leave] ++ resetAt 1000 47 ++ softwareAt 55 ++ resetAt
    1250 95 ++ softwareAt 103 ++
    resetAt 1500 143

instance (c : Config) (x : Storm) (l : PmLabel) : Decidable (Countable c x l) :=
  match h : stormStep c x l with
  | none => isTrue fun _ hy => absurd (h.symm.trans hy) nofun
  | some y => decidable_of_iff (notified x.ts y.ts = true →
      (x.chain.follows c y.ts.lastResetJiffies = true →
      resetInterval c y.ts.lastResetJiffies x.ts ≠ 0) ∧
      (Rapid c y.ts.lastResetJiffies x.ts → x.ts.rapidResetStreak ≠ 255) ∧
      ((x.chain.begin x.ts l).due = true → 3 ≤ y.chain.len))
      ⟨fun hy _ hz => Option.some.inj (h.symm.trans hz) ▸ hy, fun hy => hy y h⟩

theorem storm_escalates_third :
    ∃ x, (storm stormConfig).RunMeets (Countable stormConfig) probedStorm threeResets x ∧
      x.chain.due = true ∧ Escalates stormConfig x := by
  have hrun : (LTS.exec (stormStep stormConfig) (Countable stormConfig) probedStorm threeResets).any
      (fun x => x.chain.due) = true := by decide +kernel
  obtain ⟨x, hx, hdue⟩ := (Option.any_eq_true _ _).mp hrun
  have hmeets : (storm stormConfig).RunMeets (Countable stormConfig) probedStorm threeResets x :=
    LTS.runMeets_of_exec hx
  exact ⟨x, hmeets, hdue, storm_escalates stormConfig rfl (probedStorm_init _) hmeets⟩

/-! ## A panel that never comes up -/

/-- A hardware attempt at tick `k`: after its power cycle the panel resets again, at time `now`. -/
def hardwareFails (now k : Nat) : List PmLabel :=
  [.thread (.work { panel [resetResponse, resetResponse] k with jiffies := fun _ => now }),
    .thread .leave]

/-- A software attempt at tick `k`, which the panel answers with a reset. -/
def softwareFails (now k : Nat) : List PmLabel :=
  [.thread (.work { panel [resetResponse] (k + 1) with jiffies := fun _ => now }), .thread .leave]

/-- After three failures the worker gives up, until the machine has slept. -/
def sleep : List PmLabel := List.replicate 4 (.suspend silentWorld) ++
    List.replicate 3 (.resume silentWorld)

/-- The three attempts after resume `i`, two seconds apart. -/
def resumedFails (i : Nat) : List PmLabel :=
  hardwareFails (2500 + 1500 * i) (36 + 42 * i) ++ hardwareFails (3000 + 1500 * i) (50 + 42 * i) ++
    hardwareFails (3500 + 1500 * i) (64 + 42 * i) ++ sleep

/-- 256 attempts, each ended by a reset: three after the probe and after each of 84
resumes, and the first one after the last resume. -/
def longStorm : List PmLabel :=
  hardwareFails 1000 0 ++ softwareFails 1500 14 ++ hardwareFails 2000 22 ++ sleep ++
    (List.range 84).flatMap resumedFails ++ hardwareFails 128500 3564

/-- **Counterexample**: the streak wraps at the 256th notification of a chain, so the
next attempt is one in software. -/
theorem longStorm_softens :
    ∃ x, (storm stormConfig).init probedStorm ∧ (storm stormConfig).Run probedStorm longStorm x ∧
      x.chain.len = 256 ∧ ¬ Escalates stormConfig x := by
  have hrun : (LTS.exec (stormStep stormConfig) (fun _ _ => True) probedStorm longStorm).any
      (fun x => decide (x.chain.len = 256) && x.chain.due && !x.ts.stopping &&
        decide ((recoverySection stormConfig silentWorld
        (dequeued x.ts)).1.io.hardwareRecoveryAttempts ≠
          (attempt stormConfig silentWorld .HARDWARE
          (dequeued x.ts)).1.io.hardwareRecoveryAttempts)) = true := by
    decide +kernel
  obtain ⟨x, hx, hp⟩ := (Option.any_eq_true _ _).mp hrun
  simp only [Bool.and_eq_true, Bool.not_eq_true', decide_eq_true_eq] at hp
  obtain ⟨⟨⟨hlen, hdue⟩, hstop⟩, hne⟩ := hp
  exact ⟨x, probedStorm_init _, LTS.run_of_exec hx, hlen,
    fun h => hne (by rw [h hdue silentWorld hstop])⟩

end Sp11Touch
