import Mathlib.Data.Finset.Card
import Mathlib.Logic.Function.Basic
/-!
# Flood fill with an array queue

Cells are numbers. A cell is entered when it is unmarked and `ok`; entering
marks it and appends it to the queue. `drain` takes the queued cells in
order, hands each to `visit` and enters its neighbours, until the queue is
empty. The loop has fuel; `drain_exits` shows that on a grid of `n` cells
fuel `n` is enough and that the queue never holds more than `n` entries, and
`drain_visited` that the accumulator is the fold of `visit` over the queue.
-/
namespace Sp11Touch

/-- The marks and the queue: entries `0 .. tail - 1`. -/
structure Flood where
  mark : Nat → Bool
  queue : Nat → Nat
  tail : Nat

namespace Flood
variable {σ : Type}

def push (f : Flood) (cell : Nat) : Flood where
  mark := Function.update f.mark cell true
  queue := Function.update f.queue f.tail cell
  tail := f.tail + 1

def enter (ok : Nat → Bool) (f : Flood) (cell : Nat) : Flood :=
  if f.mark cell || !ok cell then f else f.push cell

/-- `while (head < tail)`. The result also holds the head at the exit. -/
def drain (nbrs : Nat → List Nat) (ok : Nat → Bool) (visit : Nat → σ → σ) :
    Nat → Nat → Flood → σ → Nat × Flood × σ
  | 0, head, f, a => (head, f, a)
  | n + 1, head, f, a =>
    if head < f.tail then
      drain nbrs ok visit n (head + 1) ((nbrs (f.queue head)).foldl (enter ok) f)
        (visit (f.queue head) a)
    else (head, f, a)

/-- The queued cells are marked, distinct, and cells of the grid. -/
structure Good (n : Nat) (f : Flood) : Prop where
  marked : ∀ k, k < f.tail → f.mark (f.queue k) = true
  lt : ∀ k, k < f.tail → f.queue k < n
  inj : ∀ k l, k < f.tail → l < f.tail → f.queue k = f.queue l → k = l

variable {n : Nat} {f : Flood} {ok : Nat → Bool} {nbrs : Nat → List Nat} {visit : Nat → σ → σ}

theorem Good.tail_le (h : Good n f) : f.tail ≤ n := by
  have hc : (Finset.range f.tail).card ≤ (Finset.range n).card := by
    apply Finset.card_le_card_of_injOn f.queue
    · intro k hk
      simpa using h.lt k (by simpa using hk)
    · intro k hk l hl heq
      exact h.inj k l (by simpa using hk) (by simpa using hl) heq
  simpa using hc

theorem push_queue_lt {k : Nat} (cell : Nat) (h : k < f.tail) :
    (f.push cell).queue k = f.queue k := by
  simp [push, Function.update_of_ne (Nat.ne_of_lt h)]

theorem push_queue_tail (cell : Nat) : (f.push cell).queue f.tail = cell := by
  simp [push]

theorem Good.push {cell : Nat} (h : Good n f) (hm : f.mark cell = false) (hc : cell < n) :
    Good n (f.push cell) := by
  have hnew : ∀ k, k < f.tail → f.queue k ≠ cell := by
    intro k hk he
    have := h.marked k hk
    rw [he, hm] at this
    cases this
  have hcases : ∀ k, k < (f.push cell).tail → k < f.tail ∨ k = f.tail := fun k hk =>
    Nat.lt_succ_iff_lt_or_eq.mp hk
  constructor
  · intro k hk
    rcases hcases k hk with hk | rfl
    · rw [push_queue_lt cell hk]
      simp [Flood.push, Function.update_of_ne (hnew k hk), h.marked k hk]
    · rw [push_queue_tail]; simp [Flood.push]
  · intro k hk
    rcases hcases k hk with hk | rfl
    · rw [push_queue_lt cell hk]; exact h.lt k hk
    · rw [push_queue_tail]; exact hc
  · intro k l hk hl he
    rcases hcases k hk with hk | rfl <;> rcases hcases l hl with hl | rfl
    · rw [push_queue_lt cell hk, push_queue_lt cell hl] at he; exact h.inj k l hk hl he
    · rw [push_queue_lt cell hk, push_queue_tail] at he; exact absurd he (hnew k hk)
    · rw [push_queue_lt cell hl, push_queue_tail] at he; exact absurd he.symm (hnew l hl)
    · rfl

theorem Good.enter (ok : Nat → Bool) {cell : Nat} (h : Good n f) (hc : cell < n) :
    Good n (enter ok f cell) := by
  unfold Flood.enter
  split
  · exact h
  · next hn => exact h.push (by simp at hn; exact hn.1) hc

theorem tail_le_enter (cell : Nat) : f.tail ≤ (enter ok f cell).tail := by
  unfold enter
  split
  · exact Nat.le_refl _
  · exact Nat.le_succ _

theorem Good.foldl_enter (ok : Nat → Bool) {cells : List Nat} (hc : ∀ cell ∈ cells, cell < n) :
    ∀ {f : Flood}, Good n f → Good n (cells.foldl (Flood.enter ok) f) ∧
      f.tail ≤ (cells.foldl (Flood.enter ok) f).tail := by
  induction cells with
  | nil => intro f h; exact ⟨h, Nat.le_refl _⟩
  | cons cell cells ih =>
    intro f h
    have h1 := ih (fun x hx => hc x (List.mem_cons_of_mem _ hx)) (h.enter ok (hc cell (by simp)))
    exact ⟨h1.1, Nat.le_trans (tail_le_enter cell) h1.2⟩

/-- On a grid of `n` cells the queue runs empty within `n` turns. -/
theorem drain_exits (hn : ∀ cell, ∀ x ∈ nbrs cell, x < n) :
    ∀ {fuel head : Nat} {f : Flood} {a : σ}, Good n f → head ≤ f.tail → n ≤ fuel + head →
      (drain nbrs ok visit fuel head f a).1 = (drain nbrs ok visit fuel head f a).2.1.tail ∧
      Good n (drain nbrs ok visit fuel head f a).2.1 := by
  intro fuel
  induction fuel with
  | zero =>
    intro head f a h hle hf
    have := h.tail_le
    exact ⟨show head = f.tail by omega, h⟩
  | succ fuel ih =>
    intro head f a h hle hf
    unfold drain
    split
    · next hlt =>
      have hg := h.foldl_enter ok (hn (f.queue head))
      exact ih hg.1 (Nat.le_trans hlt hg.2) (by omega)
    · next hge => exact ⟨show head = f.tail by omega, h⟩

/-! ## What was visited -/

/-- The first `k` entries of the queue. -/
def entries (f : Flood) (k : Nat) : List Nat := (List.range k).map f.queue

theorem entries_congr {g : Flood} {k : Nat} (h : ∀ i, i < k → f.queue i = g.queue i) :
    f.entries k = g.entries k :=
  List.map_congr_left fun i hi => h i (List.mem_range.mp hi)

theorem entries_succ (f : Flood) (k : Nat) : f.entries (k + 1) = f.entries k ++ [f.queue k] := by
  simp [entries, List.range_succ]

theorem mem_entries {k cell : Nat} : cell ∈ f.entries k ↔ ∃ i, i < k ∧ f.queue i = cell := by
  simp [entries]

/-- The entries below `head` were visited in order from `start`; all that is queued is `ok`. -/
structure Visited (ok : Nat → Bool) (visit : Nat → σ → σ) (start : σ) (head : Nat) (f : Flood)
    (a : σ) : Prop where
  head_le : head ≤ f.tail
  ok : ∀ k, k < f.tail → ok (f.queue k) = true
  acc : a = (f.entries head).foldl (fun a cell => visit cell a) start

theorem enter_queue_lt {k : Nat} (cell : Nat) (h : k < f.tail) :
    (enter ok f cell).queue k = f.queue k := by
  unfold enter
  split
  · rfl
  · exact push_queue_lt cell h

theorem Visited.enter {start a : σ} {head : Nat} (h : Visited ok visit start head f a)
    (cell : Nat) :
    Visited ok visit start head (enter ok f cell) a := by
  refine ⟨Nat.le_trans h.head_le (tail_le_enter cell), ?_, ?_⟩
  · unfold Flood.enter
    split
    · exact h.ok
    · next hn =>
      intro k hk
      rcases Nat.lt_succ_iff_lt_or_eq.mp hk with hk | rfl
      · rw [push_queue_lt cell hk]; exact h.ok k hk
      · rw [push_queue_tail]; simp at hn; exact hn.2
  · rw [entries_congr fun i hi => enter_queue_lt cell (Nat.lt_of_lt_of_le hi h.head_le)]
    exact h.acc

theorem Visited.foldl_enter {start a : σ} {head : Nat} (cells : List Nat)
    (h : Visited ok visit start head f a) :
    Visited ok visit start head (cells.foldl (Flood.enter ok) f) a := by
  induction cells generalizing f with
  | nil => exact h
  | cons cell cells ih => exact ih (h.enter cell)

theorem Visited.next {start a : σ} {head : Nat} (h : Visited ok visit start head f a)
    (hlt : head < f.tail) :
    Visited ok visit start (head + 1) f (visit (f.queue head) a) := by
  refine ⟨hlt, h.ok, ?_⟩
  rw [entries_succ, List.foldl_append, ← h.acc]
  rfl

/-- The accumulator of a flood is the fold over its queue up to the head. -/
theorem drain_visited {start : σ} : ∀ {fuel head : Nat} {f : Flood}
    {a : σ}, Visited ok visit start head f a →
    Visited ok visit start (drain nbrs ok visit fuel head f a).1
      (drain nbrs ok visit fuel head f a).2.1
      (drain nbrs ok visit fuel head f a).2.2 := by
  intro fuel
  induction fuel with
  | zero => exact fun h => h
  | succ fuel ih =>
    intro head f a h
    unfold drain
    split
    · next hlt => exact ih ((h.next hlt).foldl_enter _)
    · exact h

theorem tail_le_foldl_enter (cells : List Nat) : f.tail ≤ (cells.foldl (enter ok) f).tail := by
  induction cells generalizing f with
  | nil => exact Nat.le_refl _
  | cons cell cells ih => exact Nat.le_trans (tail_le_enter cell) ih

theorem tail_le_drain : ∀ {fuel head : Nat} {f : Flood} {a : σ},
    f.tail ≤ (drain nbrs ok visit fuel head f a).2.1.tail := by
  intro fuel
  induction fuel with
  | zero => exact fun {_ f _} => Nat.le_refl f.tail
  | succ fuel ih =>
    intro head f a
    unfold drain
    split
    · exact Nat.le_trans (tail_le_foldl_enter _) ih
    · exact Nat.le_refl _

/-- The whole flood on `n` cells: every queued cell was visited. -/
theorem drain_complete {start a : σ} (hn : ∀ cell, ∀ x ∈ nbrs cell, x < n) (hg : Good n f)
    (h : Visited ok visit start 0 f a) :
    Good n (drain nbrs ok visit n 0 f a).2.1 ∧ f.tail ≤ (drain nbrs ok visit n 0 f a).2.1.tail ∧
      Visited ok visit start (drain nbrs ok visit n 0 f a).2.1.tail
      (drain nbrs ok visit n 0 f a).2.1
        (drain nbrs ok visit n 0 f a).2.2 := by
  have hdone : Visited ok visit start (drain nbrs ok visit n 0 f a).1
    (drain nbrs ok visit n 0 f a).2.1
      (drain nbrs ok visit n 0 f a).2.2 := drain_visited h
  have hexits : (drain nbrs ok visit n 0 f a).1 = (drain nbrs ok visit n 0 f a).2.1.tail ∧ _ :=
    drain_exits hn hg (Nat.zero_le _) (Nat.le_refl n)
  obtain ⟨hexit, hgood⟩ := hexits
  rw [hexit] at hdone
  exact ⟨hgood, tail_le_drain, hdone⟩

theorem first_good {marked : Nat → Bool} {queue : Nat → Nat} {start : Nat} (hs : start < n)
    (hm : marked start = false) : Good n (push ⟨marked, queue, 0⟩ start) :=
  Good.push ⟨fun k hk => absurd hk (Nat.not_lt_zero k), fun k hk => absurd hk (Nat.not_lt_zero k),
    fun k _ hk => absurd hk (Nat.not_lt_zero k)⟩ hm hs

/-- The flood of one start cell: the accumulator is the fold over the whole queue. -/
theorem flood_visited {marked : Nat → Bool} {queue : Nat → Nat} {start : Nat}
    (hn : ∀ cell, ∀ x ∈ nbrs cell, x < n)
    (hs : start < n) (hok : ok start = true) (hm : marked start = false) (a : σ) :
    1 ≤ (drain nbrs ok visit n 0 (push ⟨marked, queue, 0⟩ start) a).2.1.tail ∧
      Visited ok visit a (drain nbrs ok visit n 0 (push ⟨marked, queue, 0⟩ start) a).2.1.tail
        (drain nbrs ok visit n 0 (push ⟨marked, queue, 0⟩ start) a).2.1
        (drain nbrs ok visit n 0 (push ⟨marked, queue, 0⟩ start) a).2.2 := by
  refine (drain_complete hn (first_good hs hm) ⟨Nat.zero_le _, fun k hk => ?_, rfl⟩).2
  obtain rfl : k = 0 := Nat.lt_one_iff.mp hk
  rw [show (push ⟨marked, queue, 0⟩ start).queue 0 = start from push_queue_tail start]
  exact hok

theorem Good.entries_nodup (h : Good n f) : (f.entries f.tail).Nodup := by
  refine List.Nodup.map_on (fun k hk l hl heq => ?_) List.nodup_range
  exact h.inj k l (List.mem_range.mp hk) (List.mem_range.mp hl) heq

/-! ## Two floods -/

/-- Two floods with the same marks and the same entries in the queue; what
lies behind the tail may differ. -/
structure Alike (f g : Flood) : Prop where
  mark : f.mark = g.mark
  tail : f.tail = g.tail
  queue : ∀ k, k < f.tail → f.queue k = g.queue k

variable {g : Flood}

theorem Alike.push (h : Alike f g) (cell : Nat) : Alike (f.push cell) (g.push cell) := by
  refine ⟨?_, ?_, fun k hk => ?_⟩
  · show Function.update _ _ _ = Function.update _ _ _
    rw [h.mark]
  · show f.tail + 1 = g.tail + 1
    rw [h.tail]
  · rcases Nat.lt_succ_iff_lt_or_eq.mp hk with hk | rfl
    · rw [push_queue_lt cell hk, push_queue_lt cell (h.tail ▸ hk), h.queue k hk]
    · rw [push_queue_tail, h.tail, push_queue_tail]

theorem Alike.enter (h : Alike f g) (cell : Nat) : Alike (enter ok f cell) (enter ok g cell) := by
  unfold Flood.enter
  rw [h.mark]
  split
  · exact h
  · exact h.push cell

theorem Alike.foldl_enter (h : Alike f g) (cells : List Nat) :
    Alike (cells.foldl (Flood.enter ok) f) (cells.foldl (Flood.enter ok) g) := by
  induction cells generalizing f g with
  | nil => exact h
  | cons cell cells ih => exact ih (h.enter cell)

/-- A flood reads only what it queued itself. -/
theorem drain_alike (fuel head : Nat) (h : Alike f g) (a : σ) :
    Alike (drain nbrs ok visit fuel head f a).2.1 (drain nbrs ok visit fuel head g a).2.1 ∧
      (drain nbrs ok visit fuel head f a).2.2 = (drain nbrs ok visit fuel head g a).2.2 := by
  induction fuel generalizing head f g a with
  | zero => exact ⟨h, rfl⟩
  | succ fuel ih =>
    unfold drain
    rw [← h.tail]
    by_cases hlt : head < f.tail
    · rw [if_pos hlt, if_pos hlt, ← h.queue head hlt]
      exact ih (head + 1) (h.foldl_enter _) _
    · rw [if_neg hlt, if_neg hlt]
      exact ⟨h, rfl⟩

attribute [irreducible] drain

end Flood
end Sp11Touch
