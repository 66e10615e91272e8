import Sp11Touch.Core.LTS
import Sp11Touch.Core.Proc
/-!
# Walks over length-prefixed items

`walk stop body` is the loop `while (position < stop)` of a reader of
length-prefixed items: `body` handles the item at `position` and returns the
position behind it, which is larger. `Tiles len hdr a l b` says that the
items at the offsets `l`, each `len` bytes long and never shorter than its
header of `hdr` bytes, fill `[a, b)` exactly.

`walk_items` reduces a walk to its items: where `body` accepts exactly the
items that fit and changes the state by `step`, the walk returns normally iff
the items a reader stops at tile the range and `step` runs along them.
-/
namespace Sp11Touch

inductive Tiles (len : Nat → Nat) (hdr : Nat) : Nat → List Nat → Nat → Prop where
  | nil (a : Nat) : Tiles len hdr a [] a
  | cons {a b : Nat} {l : List Nat} : hdr ≤ len a → Tiles len hdr (a + len a) l b →
      Tiles len hdr a (a :: l) b

namespace Tiles
variable {len : Nat → Nat} {hdr : Nat}

theorem le {a b : Nat} {l : List Nat} (h : Tiles len hdr a l b) : a ≤ b := by
  induction h with
  | nil => exact Nat.le_refl _
  | cons _ _ ih => omega

/-- An item of a tiling has room for its header and ends inside the range. -/
theorem mem {a b p : Nat} {l : List Nat} (h : Tiles len hdr a l b) (hp : p ∈ l) :
    a ≤ p ∧ hdr ≤ len p ∧ p + len p ≤ b := by
  induction h with
  | nil => cases hp
  | cons hh ht ih =>
    rcases List.mem_cons.mp hp with rfl | hm
    · exact ⟨Nat.le_refl _, hh, ht.le⟩
    · have := ih hm; omega

/-- Items of a nonempty header stand at different offsets. -/
theorem nodup {a b : Nat} {l : List Nat} (h0 : 0 < hdr) (h : Tiles len hdr a l b) : l.Nodup := by
  induction h with
  | nil => exact List.nodup_nil
  | cons hh ht ih =>
    refine List.nodup_cons.mpr ⟨fun hm => ?_, ih⟩
    have := (ht.mem hm).1; omega

end Tiles

/-- The offsets a reader of `[a, stop)` stops at: each item starts where the
one before it ends. -/
def items (len : Nat → Nat) (stop a : Nat) : List Nat :=
  if _ : a < stop ∧ 0 < len a then a :: items len stop (a + len a) else []
termination_by stop - a
decreasing_by omega

theorem foldl_collect {α β : Type} (g : α → β) (l : List α) (acc : List β) :
    l.foldl (fun a p => a ++ [g p]) acc = acc ++ l.map g := by
  induction l generalizing acc with
  | nil => rw [List.foldl_nil, List.map_nil, List.append_nil]
  | cons p l ih => rw [List.foldl_cons, ih, List.append_assoc, List.map_cons, List.singleton_append]

/-- Folding over a tiling: the position ends at the end, and a value for each
item is collected. -/
theorem Tiles.collect {β : Type} {len : Nat → Nat} {hdr a b : Nat} {l : List Nat}
    (h : Tiles len hdr a l b)
    (g : Nat → β) (acc : List β) : l.foldl (fun x p => (p + len p, x.2 ++ [g p])) (a, acc) =
      (b, acc ++ l.map g) := by
  induction h generalizing acc with
  | nil => rw [List.foldl_nil, List.map_nil, List.append_nil]
  | cons _ _ ih => rw [List.foldl_cons, ih, List.append_assoc, List.map_cons, List.singleton_append]

/-- The same items, in a buffer where they start `k` bytes later. -/
theorem Tiles.shift {len len' : Nat → Nat} {hdr a b : Nat} {l : List Nat} (k : Nat)
    (h : Tiles len hdr a l b) (he : ∀ p, a ≤ p → p + hdr ≤ b → len' (k + p) = len p) :
    Tiles len' hdr (k + a) (l.map (k + ·)) (k + b) := by
  induction h with
  | nil => exact .nil _
  | @cons a b l hh ht ih =>
    have hle := ht.le
    have ha := he a (Nat.le_refl _) (by omega)
    refine .cons (by omega) ?_
    rw [ha, Nat.add_assoc]
    exact ih fun p h1 h2 => he p (by omega) h2

/-- The same items, in a buffer with the same bytes there. -/
theorem Tiles.congr {len len' : Nat → Nat} {hdr a b : Nat} {l : List Nat} (h : Tiles len hdr a l b)
    (he : ∀ p, a ≤ p → p + hdr ≤ b → len' p = len p) : Tiles len' hdr a l b := by
  have h0 : Tiles len' _ _ _ _ := Tiles.shift 0 h
    fun p h1 h2 => by rw [Nat.zero_add]; exact he p h1 h2
  simpa only [Nat.zero_add, List.map_id'] using h0

theorem Tiles.unshift {len len' : Nat → Nat} {hdr k a b m n : Nat} {l : List Nat}
    (h : Tiles len' hdr m l n) (hm : m = k + a) (hn : n = k + b)
    (he : ∀ p, a ≤ p → p + hdr ≤ b → len' (k + p) = len p) :
    ∃ l', l = l'.map (k + ·) ∧ Tiles len hdr a l' b := by
  induction h generalizing a with
  | nil m =>
    have hab : a = b := by omega
    subst hab
    exact ⟨[], rfl, .nil _⟩
  | @cons m n l hh ht ih =>
    subst hm
    have hle := ht.le
    have ha := he a (Nat.le_refl _) (by omega)
    obtain ⟨l', hl', ht'⟩ := ih (by rw [ha, Nat.add_assoc]) hn fun p h1 h2 => he p (by omega) h2
    exact ⟨a :: l', by rw [hl', List.map_cons], .cons (by omega) ht'⟩

/-- A tiling is the list of the reader's offsets. -/
theorem Tiles.eq_items {len : Nat → Nat} {hdr a b : Nat} {l : List Nat} (h0 : 0 < hdr)
    (h : Tiles len hdr a l b) : l = items len b a := by
  induction h with
  | nil => rw [items, dif_neg (by omega)]
  | cons hh ht ih =>
    have := ht.le
    rw [items, dif_pos (by omega), ← ih]

namespace Proc
variable {σ ε α : Type}

/-- The loop with its accumulator; `body` returns the next position and the
next accumulator. -/
def walk (stop : Nat) (body : (p : Nat) → α → Proc σ ε ({n : Nat // p < n} × α)) (p : Nat) (a : α) :
    Proc σ ε α := fun s =>
  if p < stop then
    match body p a s with
    | (t, .ok (n, a')) => walk stop body n.1 a' t
    | (t, .error e) => (t, .error e)
  else (s, .ok a)
termination_by stop - p
decreasing_by have := n.2; omega

variable {stop : Nat} {body : (p : Nat) → α → Proc σ ε ({n : Nat // p < n} × α)}

/-- A step relation read as a transition system that starts anywhere. -/
def steps (step : Nat → α × σ → α × σ → Prop) : LTS (α × σ) Nat where
  init _ := True
  step x p y := step p x y

/-- What the walk accepts is what its items accept, one after the other. -/
theorem walk_ok {len : Nat → Nat} {hdr : Nat} {step : Nat → α × σ → α × σ → Prop} {lo : Nat}
    (hdr0 : 0 < hdr)
    (hbody : ∀ p a s n b t, lo ≤ p → p < stop → (body p a s = (t, .ok (n, b)) ↔
      hdr ≤ len p ∧ p + len p ≤ stop ∧ n.1 = p + len p ∧ step p (a, s) (b, t)))
    (p : Nat) (a : α) (s : σ) (hlo : lo ≤ p) (hp : p ≤ stop) (b : α) (t : σ) :
    walk stop body p a s = (t, .ok b) ↔
      ∃ l, Tiles len hdr p l stop ∧ (steps step).Run (a, s) l (b, t) := by
  induction h : stop - p using Nat.strongRecOn generalizing p a s with
  | ind k ih =>
    rw [walk]
    by_cases hlt : p < stop
    · rw [if_pos hlt]
      apply Iff.intro
      · intro hw
        cases hb : body p a s with
        | mk u r =>
          rw [hb] at hw
          cases r with
          | error e => cases hw
          | ok na =>
            obtain ⟨n, a'⟩ := na
            have hn := (hbody p a s n a' u hlo hlt).mp hb
            obtain ⟨h1, h2, h3, h4⟩ := hn
            have hrest := (ih (stop - n.1) (by omega) n.1 a' u (by omega) (by omega) rfl).mp hw
            obtain ⟨l, hl, hrun⟩ := hrest
            rw [h3] at hl
            exact ⟨p :: l, .cons h1 hl, .cons h4 hrun⟩
      · intro hwalk
        obtain ⟨l, hl, hrun⟩ := hwalk
        cases hl with
        | nil => omega
        | cons h1 hl =>
          cases hrun with
          | cons h4 hrun =>
            rename_i mid
            obtain ⟨a', u⟩ := mid
            have hb := (hbody p a s ⟨p + len p, by omega⟩ a' u hlo hlt).mpr ⟨h1, hl.le, rfl, h4⟩
            rw [hb]
            exact (ih (stop - (p + len p)) (by omega) (p + len p) a' u (by omega) hl.le rfl).mpr
              ⟨_, hl, hrun⟩
    · rw [if_neg hlt]
      have he : p = stop := by omega
      subst he
      apply Iff.intro
      · intro hw
        cases hw
        exact ⟨[], .nil _, .nil _⟩
      · intro hwalk
        obtain ⟨l, hl, hrun⟩ := hwalk
        cases hl with
        | nil => cases hrun; rfl
        | cons h1 hl => have := hl.le; omega

/-- `walk_ok` with the one list of items there is. -/
theorem walk_items {len : Nat → Nat} {hdr : Nat} {step : Nat → α × σ → α × σ → Prop} {lo : Nat}
    (hdr0 : 0 < hdr)
    (hbody : ∀ p a s n b t, lo ≤ p → p < stop → (body p a s = (t, .ok (n, b)) ↔
      hdr ≤ len p ∧ p + len p ≤ stop ∧ n.1 = p + len p ∧ step p (a, s) (b, t)))
    (p : Nat) (a : α) (s : σ) (hlo : lo ≤ p) (hp : p ≤ stop) (b : α) (t : σ) :
    walk stop body p a s = (t, .ok b) ↔ Tiles len hdr p (items len stop p) stop ∧
      (steps step).Run (a, s) (items len stop p) (b, t) := by
  rw [walk_ok hdr0 hbody p a s hlo hp b t]
  apply Iff.intro
  · intro hwalk
    obtain ⟨l, hl, hrun⟩ := hwalk
    have he := hl.eq_items hdr0
    subst he
    exact ⟨hl, hrun⟩
  · exact fun h => ⟨_, h⟩

/-- A run over renamed items. -/
theorem run_map {step step' : Nat → α × σ → α × σ → Prop} {g : Nat → Nat} {l : List Nat}
    (h : ∀ p ∈ l, ∀ x y, step p x y ↔ step' (g p) x y) {x y : α × σ} :
    (steps step).Run x l y ↔ (steps step').Run x (l.map g) y := by
  induction l generalizing x with
  | nil =>
    constructor <;> intro hr <;> cases hr <;> exact .nil _
  | cons p l ih =>
    have ih := @ih fun q hq => h q (List.mem_cons_of_mem _ hq)
    have hp := h p List.mem_cons_self
    rw [List.map_cons]
    apply Iff.intro
    · intro hr
      cases hr with
      | cons hst hr => exact .cons ((hp _ _).mp hst) (ih.mp hr)
    · intro hr
      cases hr with
      | cons hst hr => exact .cons ((hp _ _).mpr hst) (ih.mpr hr)

/-- Steps that are a function of the item fold over the items. -/
theorem run_fold {f : Nat → α → α} {l : List Nat} {x y : α × σ} :
    (steps fun p x y => y = (f p x.1, x.2)).Run x l y ↔
    y = (l.foldl (fun a p => f p a) x.1, x.2) := by
  induction l generalizing x with
  | nil =>
    apply Iff.intro
    · intro h; cases h; rfl
    · intro h; subst h; exact .nil _
  | cons p l ih =>
    rw [List.foldl_cons]
    apply Iff.intro
    · intro h
      cases h with
      | cons hst hr => cases hst; exact ih.mp hr
    · exact fun h => .cons rfl (ih.mpr h)

/-- `walk_items` for a reader that keeps its state: what it returns is the
fold of `f` over the items. -/
theorem walk_fold {len : Nat → Nat} {hdr lo : Nat} (f : Nat → α → α) (hdr0 : 0 < hdr)
    (hbody : ∀ p a s n b t, lo ≤ p → p < stop → (body p a s = (t, .ok (n, b)) ↔
      hdr ≤ len p ∧ p + len p ≤ stop ∧ n.1 = p + len p ∧ (b, t) = (f p a, s)))
    (p : Nat) (a : α) (s : σ) (hlo : lo ≤ p) (hp : p ≤ stop) (b : α) (t : σ) :
    walk stop body p a s = (t, .ok b) ↔ Tiles len hdr p (items len stop p) stop ∧
      (b, t) = ((items len stop p).foldl (fun a p => f p a) a, s) := by
  have hwalk : _ ↔ _ ∧ (steps fun p x y => y = (f p x.1, x.2)).Run (a, s) _ (b, t) :=
    walk_items hdr0 hbody p a s hlo hp b t
  rw [hwalk, run_fold]

theorem Triple.walk {R : Nat → α → σ → Prop} {E : ε → σ → Prop}
    (hbody : ∀ p a, p < stop → Triple (R p a) (body p a) (fun r s => R r.1.1 r.2 s) E) (p : Nat)
    (a : α) :
    Triple (R p a) (Proc.walk stop body p a) (fun b s => ∃ q, stop ≤ q ∧ R q b s) E := by
  induction h : stop - p using Nat.strongRecOn generalizing p a with
  | ind k ih =>
    intro s hs
    rw [Proc.walk]
    by_cases hlt : p < stop
    · rw [if_pos hlt]
      have h1 := hbody p a hlt s hs
      revert h1
      cases body p a s with
      | mk u r => cases r with
        | error e => exact id
        | ok na =>
          intro h1
          have := na.1.2
          exact ih (stop - na.1.1) (by omega) na.1.1 na.2 rfl u h1
    · rw [if_neg hlt]
      exact ⟨p, by omega, hs⟩

end Proc
end Sp11Touch
