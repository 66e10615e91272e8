import Sp11Touch.Core.Sweep
/-!
# Searching a pool of cells with a deque

The same flood without an array queue and marks: the cells not yet entered are
a pool, any type that can be asked for a cell and gives one up (`Pool`). A
search takes the cells from the front of a deque, and each neighbour still in
the pool leaves it for the back of the deque.

It runs in lockstep with `Flood.drain` (`search_drain`). So on a grid of `n`
cells the deque is empty within `n` turns, and the cells found are the island
of the start cell (`search_filled`), in the order of the array queue.
-/
namespace Sp11Touch

/-- A kind of set of cells, with what deleting one cell leaves. -/
structure Pool (σ : Type) where
  mem : σ → Nat → Bool
  del : σ → Nat → σ
  mem_del : ∀ s a b, mem (del s a) b = (mem s b && b != a)

namespace Pool
open Flood
variable {σ τ : Type} (P : Pool σ)

/-- One neighbour. -/
def take (s : σ × List Nat) (cell : Nat) : σ × List Nat :=
  if P.mem s.1 cell then (P.del s.1 cell, s.2 ++ [cell]) else s

/-- The pool, the deque and the cells taken from it, after at most `fuel` turns. -/
def search (nbrs : Nat → List Nat) : Nat → σ → List Nat → List Nat → σ × List Nat × List Nat
  | n + 1, s, cell :: queue, found =>
    search nbrs n ((nbrs cell).foldl P.take (s, queue)).1
      ((nbrs cell).foldl P.take (s, queue)).2 (found ++ [cell])
  | _, s, queue, found => (s, queue, found)

variable {P}

/-- Of `n` cells the pool holds the unmarked ones, and the deque the entries not visited yet. -/
structure Twin (P : Pool σ) (n : Nat) (ok : Nat → Bool) (found : List Nat) (s : σ × List Nat)
    (f : Flood) : Prop where
  mem : ∀ c, c < n → P.mem s.1 c = (ok c && !f.mark c)
  entries : found ++ s.2 = f.entries f.tail

variable {n : Nat} {ok marked : Nat → Bool} {nbrs : Nat → List Nat}
  {adj : Nat → Nat → Prop} {found : List Nat}
  {s : σ × List Nat} {f : Flood}

theorem Twin.enter (h : Twin P n ok found s f) {cell : Nat} (hlt : cell < n) :
    Twin P n ok found (P.take s cell) (enter ok f cell) := by
  have hmem := h.mem cell hlt
  unfold take Flood.enter
  cases hc : P.mem s.1 cell with
  | false =>
    have hskip : (f.mark cell || !ok cell) = true := by
      rw [hc] at hmem
      cases hm : f.mark cell <;> cases ho : ok cell <;> simp_all
    rw [if_pos hskip]
    simpa using h
  | true =>
    have hnew : ¬ (f.mark cell || !ok cell) = true := by
      rw [hc] at hmem
      cases hm : f.mark cell <;> cases ho : ok cell <;> simp_all
    rw [if_neg hnew, if_pos rfl]
    refine ⟨fun c hc => ?_, ?_⟩
    · rw [P.mem_del, h.mem c hc]
      by_cases he : c = cell
      · simp [he, push]
      · simp [he, push]
    · rw [push_entries, ← h.entries, List.append_assoc]

theorem Twin.foldl_enter {cells : List Nat} (h : Twin P n ok found s f)
    (hlt : ∀ cell ∈ cells, cell < n) :
    Twin P n ok found (cells.foldl P.take s) (cells.foldl (Flood.enter ok) f) := by
  induction cells generalizing s f with
  | nil => exact h
  | cons cell cells ih =>
    exact ih (h.enter (hlt cell List.mem_cons_self)) fun c hc =>
      hlt c (List.mem_cons_of_mem cell hc)

theorem length_entries (f : Flood) (k : Nat) : (f.entries k).length = k := by simp [entries]

/-- The cell at the front of the deque is the next entry of the queue. -/
theorem Twin.front {cell : Nat} {queue : List Nat} {t : σ}
    (h : Twin P n ok found (t, cell :: queue) f) :
    found.length < f.tail ∧ f.queue found.length = cell := by
  have hlen := congrArg List.length h.entries
  rw [length_entries, List.length_append, List.length_cons] at hlen
  have hlt : found.length < f.tail := by omega
  refine ⟨hlt, ?_⟩
  have hget : (found ++ cell :: queue)[found.length]? = (f.entries f.tail)[found.length]? := by
    rw [← h.entries]
  simp [Flood.entries, hlt] at hget
  exact hget.symm

theorem Twin.empty {t : σ} (h : Twin P n ok found (t, []) f) : ¬ found.length < f.tail := by
  have hlen := congrArg List.length h.entries
  rw [length_entries, List.append_nil] at hlen
  omega

/-- A search and the flood it is the twin of, with any visit. -/
theorem search_drain (visit : Nat → τ → τ) (hn : ∀ cell, ∀ x ∈ nbrs cell, x < n) (fuel : Nat)
    {t : σ}
    {queue : List Nat} (a : τ) (h : Twin P n ok found (t, queue) f) :
    Twin P n ok (P.search nbrs fuel t queue found).2.2
      ((P.search nbrs fuel t queue found).1, (P.search nbrs fuel t queue found).2.1)
        (drain nbrs ok visit fuel found.length f a).2.1 ∧
      (P.search nbrs fuel t queue found).2.2.length =
        (drain nbrs ok visit fuel found.length f a).1 := by
  induction fuel generalizing found t queue f a with
  | zero =>
    unfold search drain
    exact ⟨h, rfl⟩
  | succ fuel ih =>
    cases queue with
    | nil =>
      unfold search drain
      rw [if_neg h.empty]
      exact ⟨h, rfl⟩
    | cons cell queue =>
      obtain ⟨hlt, hcell⟩ := h.front
      have hnext : Twin P n ok (found ++ [cell]) (t, queue) f := ⟨h.mem, by rw [← h.entries]; simp⟩
      have hlen : (found ++ [cell]).length = found.length + 1 := by simp
      unfold search drain
      rw [if_pos hlt, hcell, ← hlen]
      exact ih (visit cell a) (hnext.foldl_enter (hn cell))

/-- The deque at the start: the start cell has left the pool. -/
theorem first_twin {t : σ} {start : Nat} (hpool : ∀ c, c < n → P.mem t c = (ok c && !marked c))
    (queue : Nat → Nat) :
    Twin P n ok [] (P.del t start, [start]) (push ⟨marked, queue, 0⟩ start) := by
  refine ⟨fun c hc => ?_, ?_⟩
  · rw [P.mem_del, hpool c hc]
    by_cases he : c = start
    · simp [he, push]
    · simp [he, push]
  · rw [first_entries]
    rfl

/-- What a search from `start` leaves: an empty deque, the flood's queue, and the pool without it. -/
structure Searched (P : Pool σ) (n : Nat) (ok : Nat → Bool) (f : Flood)
    (r : σ × List Nat × List Nat) : Prop where
  empty : r.2.1 = []
  found : r.2.2 = f.entries f.tail
  mem : ∀ c, c < n → P.mem r.1 c = (ok c && !f.mark c)

theorem search_filled {t : σ} {start : Nat} (hg : Grid n nbrs adj) (hs : start < n)
    (hok : ok start = true)
    (hm : marked start = false) (hc : Closed adj ok marked)
      (hpool : ∀ c, c < n → P.mem t c = (ok c && !marked c))
    (visit : Nat → τ → τ) (queue : Nat → Nat) (a : τ) :
    Searched P n ok (drain nbrs ok visit n 0 (push ⟨marked, queue, 0⟩ start) a).2.1
      (P.search nbrs n (P.del t start) [start] []) := by
  obtain ⟨hexit, _⟩ : (drain nbrs ok visit n 0 (push ⟨marked, queue, 0⟩ start) a).1 = _ ∧ _ :=
    drain_filled hg hs hok hm hc queue a
  obtain ⟨htwin, hlen⟩ := search_drain visit hg.lt n a (first_twin hpool queue)
  rw [List.length_nil] at htwin hlen
  generalize drain nbrs ok visit n 0 (push ⟨marked, queue, 0⟩ start) a = d at *
  generalize P.search nbrs n (P.del t start) [start] [] = r at *
  have hempty : r.2.1 = [] := by
    have hall := congrArg List.length htwin.entries
    rw [length_entries, List.length_append, hlen, hexit] at hall
    exact List.length_eq_zero_iff.mp (by simpa using hall)
  refine ⟨hempty, ?_, htwin.mem⟩
  have hentries := htwin.entries
  rwa [hempty, List.append_nil] at hentries

/-- What a search finds is the island of its start. -/
theorem search_island {t : σ} {start : Nat} (hg : Grid n nbrs adj) (hs : start < n)
    (hok : ok start = true)
    (hm : marked start = false) (hc : Closed adj ok marked)
      (hpool : ∀ c, c < n → P.mem t c = (ok c && !marked c)) :
    ∃ f, Filled n adj ok marked start f ∧ Searched P n ok f
      (P.search nbrs n (P.del t start) [start] []) :=
  ⟨_, (drain_filled hg hs hok hm hc (fun _ => 0) ()).2,
    search_filled hg hs hok hm hc hpool (fun _ a => a) (fun _ => 0) ()⟩

/-- A search only takes cells out of the pool. -/
theorem search_subset (fuel : Nat) {t : σ} {queue : List Nat} {c : Nat}
    (h : P.mem (P.search nbrs fuel t queue found).1 c = true) : P.mem t c = true := by
  have hfold : ∀ (cells : List Nat) (s : σ × List Nat), P.mem (cells.foldl P.take s).1 c = true →
    P.mem s.1 c = true := by
    intro cells
    induction cells with
    | nil => exact fun s hs => hs
    | cons cell cells ih =>
      intro s hs
      have htake := ih (P.take s cell) hs
      unfold take at htake
      split at htake
      · rw [P.mem_del, Bool.and_eq_true] at htake
        exact htake.1
      · exact htake
  induction fuel generalizing found t queue with
  | zero =>
    unfold search at h
    exact h
  | succ fuel ih =>
    cases queue with
    | nil =>
      unfold search at h
      exact h
    | cons cell queue =>
      unfold search at h
      exact hfold _ _ (ih h)

/-- A pool that lists what was deleted from it lists the cells found and those waiting. -/
theorem search_log (log : σ → List Nat) (hlog : ∀ s c, log (P.del s c) = log s ++ [c]) (fuel : Nat)
    {t : σ}
    {queue : List Nat} (h : log t = found ++ queue) : log (P.search nbrs fuel t queue found).1 =
      (P.search nbrs fuel t queue found).2.2 ++ (P.search nbrs fuel t queue found).2.1 := by
  have hfold : ∀ (cells : List Nat) (s : σ × List Nat) (front : List Nat), log s.1 = front ++ s.2 →
      log (cells.foldl P.take s).1 = front ++ (cells.foldl P.take s).2 := by
    intro cells
    induction cells with
    | nil => exact fun s front hs => hs
    | cons cell cells ih =>
      refine fun s front hs => ih (P.take s cell) front ?_
      unfold take
      split
      · rw [hlog, hs, List.append_assoc]
      · exact hs
  induction fuel generalizing found t queue with
  | zero =>
    unfold search
    exact h
  | succ fuel ih =>
    cases queue with
    | nil =>
      unfold search
      exact h
    | cons cell queue =>
      unfold search
      refine ih (hfold (nbrs cell) (t, queue) (found ++ [cell]) ?_)
      simpa using h

end Pool
end Sp11Touch
