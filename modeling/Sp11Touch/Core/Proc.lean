/-!
# Fallible stateful procedures and their pre- and postconditions

A C function that changes a structure through a pointer and returns `0` or a
negative error code is `Proc σ ε α`: from a state to a state and either a
result or an error. The state is kept on the error path too, as in C.

`Triple P p Q E` is the Hoare triple with one postcondition per exit: `Q` for
a normal return, `E` for an error return. The rules follow the way such
functions are put together (`bind` is "`ret = f(); if (ret) return ret;`",
`onError` is the `goto out` label). `Keeps I p` is the special case of an
invariant that no exit breaks, `Fails I p` the one of a procedure that never
returns normally.
-/
namespace Sp11Touch

def Proc (σ ε α : Type) : Type := σ → σ × Except ε α

namespace Proc
variable {σ ε α β : Type}

protected def pure (a : α) : Proc σ ε α := fun s => (s, .ok a)

protected def bind (p : Proc σ ε α) (f : α → Proc σ ε β) : Proc σ ε β := fun s =>
  match p s with
  | (t, .ok a) => f a t
  | (t, .error e) => (t, .error e)

instance : Monad (Proc σ ε) where
  pure := Proc.pure
  bind := Proc.bind

/-- `return -e;` -/
def throw (e : ε) : Proc σ ε α := fun s => (s, .error e)

def modify (f : σ → σ) : Proc σ ε Unit := fun s => (f s, .ok ())

def gets (f : σ → α) : Proc σ ε α := fun s => (s, .ok (f s))

/-- `if (c) return -e;` -/
def errorIf (c : Bool) (e : ε) : Proc σ ε Unit := fun s =>
  if c then (s, .error e) else (s, .ok ())

/-- `if (!c) return -e;`, where the code below uses `c`. -/
def require (c : Prop) [Decidable c] (e : ε) : Proc σ ε (PLift c) := fun s =>
  if h : c then (s, .ok ⟨h⟩) else (s, .error e)

/-- `if (c) p;` -/
def onlyIf (c : Bool) (p : Proc σ ε Unit) : Proc σ ε Unit := fun s =>
  if c then p s else (s, .ok ())

/-- `for (i = first; i < first + n; i++)`. -/
def forRange (first : Nat) : Nat → (Nat → Proc σ ε Unit) → Proc σ ε Unit
  | 0, _ => Proc.pure ()
  | n + 1, body => Proc.bind (body first) fun _ => forRange (first + 1) n body

/-- `goto out;` with `h` the code at the label. -/
def onError (p : Proc σ ε α) (h : σ → σ) : Proc σ ε α := fun s =>
  match p s with
  | (t, .ok a) => (t, .ok a)
  | (t, .error e) => (h t, .error e)

theorem bind_apply (p : Proc σ ε α) (f : α → Proc σ ε β) (s : σ) :
    (p >>= f) s = match p s with
      | (t, .ok a) => f a t
      | (t, .error e) => (t, .error e) := rfl

theorem pure_apply (a : α) (s : σ) : (pure a : Proc σ ε α) s = (s, .ok a) := rfl

@[simp] theorem throw_apply (e : ε) (s : σ) : (throw e : Proc σ ε α) s = (s, .error e) := rfl

@[simp] theorem modify_apply (f : σ → σ) (s : σ) :
    (modify f : Proc σ ε Unit) s = (f s, .ok ()) := rfl

@[simp] theorem gets_apply (f : σ → α) (s : σ) : (gets f : Proc σ ε α) s = (s, .ok (f s)) := rfl

theorem errorIf_apply (c : Bool) (e : ε) (s : σ) :
    (errorIf c e : Proc σ ε Unit) s = if c then (s, .error e) else (s, .ok ()) := rfl

theorem forRange_zero (i : Nat) (body : Nat → Proc σ ε Unit) (s : σ) :
    forRange i 0 body s = (s, .ok ()) := rfl

theorem forRange_succ (i n : Nat) (body : Nat → Proc σ ε Unit) :
    forRange i (n + 1) body = (body i >>= fun _ => forRange (i + 1) n body) := rfl

/-- The code below a check matters only where the check passes. -/
theorem errorIf_bind_congr {c d : Bool} {e : ε} {p q : Proc σ ε α} (hcd : c = d)
    (h : d = false → p = q) :
    (errorIf c e >>= fun _ => p) = (errorIf d e >>= fun _ => q) := by
  subst hcd
  cases c with
  | true => rfl
  | false => rw [h rfl]

/-- What a bind returns normally: the first part did, and then the second. -/
theorem bind_eq_ok {p : Proc σ ε α} {f : α → Proc σ ε β} {s u : σ} {b : β} :
    (p >>= f) s = (u, .ok b) ↔ ∃ t a, p s = (t, .ok a) ∧ f a t = (u, .ok b) := by
  rw [bind_apply]
  cases h : p s with
  | mk t r => cases r with
    | ok a =>
      constructor
      · intro hf; exact ⟨t, a, rfl, hf⟩
      · rintro ⟨t', a', he, hf⟩; cases he; exact hf
    | error e => simp

/-! ## Normal returns -/

theorem pure_eq_ok {a b : α} {s t : σ} :
    (Pure.pure a : Proc σ ε α) s = (t, .ok b) ↔ t = s ∧ b = a := by
  rw [pure_apply, Prod.mk.injEq, Except.ok.injEq]; constructor <;>
    rintro ⟨rfl, rfl⟩ <;> exact ⟨rfl, rfl⟩

theorem modify_eq_ok {f : σ → σ} {s t : σ} {u : Unit} :
    (modify f : Proc σ ε Unit) s = (t, .ok u) ↔ t = f s := by
  rw [modify_apply, Prod.mk.injEq]; constructor
  · exact fun h => h.1.symm
  · rintro rfl; exact ⟨rfl, rfl⟩

theorem gets_eq_ok {f : σ → α} {s t : σ} {a : α} :
    (gets f : Proc σ ε α) s = (t, .ok a) ↔ t = s ∧ a = f s := by
  rw [gets_apply, Prod.mk.injEq, Except.ok.injEq]; constructor <;>
    rintro ⟨rfl, rfl⟩ <;> exact ⟨rfl, rfl⟩

theorem errorIf_eq_ok {c : Bool} {e : ε} {s t : σ} {u : Unit} :
    (errorIf c e : Proc σ ε Unit) s = (t, .ok u) ↔ c = false ∧ t = s := by
  rw [errorIf_apply]; cases c
  · simp [eq_comm]
  · simp

theorem require_eq_ok {c : Prop} [Decidable c] {e : ε} {s t : σ} {h : PLift c} :
    (require c e : Proc σ ε (PLift c)) s = (t, .ok h) ↔ t = s := by
  unfold require; rw [dif_pos h.down, Prod.mk.injEq]; constructor
  · exact fun h => h.1.symm
  · rintro rfl; exact ⟨rfl, rfl⟩

theorem onlyIf_eq_ok {c : Bool} {p : Proc σ ε Unit} {s t : σ} {u : Unit} :
    onlyIf c p s = (t, .ok u) ↔ if c then p s = (t, .ok u) else t = s := by
  unfold onlyIf; cases c
  · simp [eq_comm]
  · rfl

/-! ## Triples -/

/-- From a state in `P`, a normal return lands in `Q` and an error return in `E`. -/
def Triple (P : σ → Prop) (p : Proc σ ε α) (Q : α → σ → Prop) (E : ε → σ → Prop) : Prop :=
  ∀ s, P s → match p s with
    | (t, .ok a) => Q a t
    | (t, .error e) => E e t

variable {P P' : σ → Prop} {Q Q' : α → σ → Prop} {E E' : ε → σ → Prop}

theorem Triple.ok {p : Proc σ ε α} (h : Triple P p Q E) {s t : σ} {a : α} (hs : P s)
    (hp : p s = (t, .ok a)) : Q a t := by
  have := h s hs; rw [hp] at this; exact this

theorem Triple.error {p : Proc σ ε α} (h : Triple P p Q E) {s t : σ} {e : ε} (hs : P s)
    (hp : p s = (t, .error e)) : E e t := by
  have := h s hs; rw [hp] at this; exact this

theorem Triple.conseq {p : Proc σ ε α} (h : Triple P p Q E) (hP : ∀ s, P' s → P s)
    (hQ : ∀ a s, Q a s → Q' a s) (hE : ∀ e s, E e s → E' e s) : Triple P' p Q' E' := by
  intro s hs
  have := h s (hP s hs)
  revert this
  cases p s with
  | mk t r => cases r with
    | ok a => exact hQ a t
    | error e => exact hE e t

/-- A procedure without a normal return. -/
theorem Triple.exists_error {p : Proc σ ε α} (h : Triple P p (fun _ _ => False) E) {s : σ}
    (hs : P s) :
    ∃ t e, p s = (t, .error e) ∧ E e t := by
  have := h s hs
  revert this
  cases p s with
  | mk t r => cases r with
    | ok _ => exact False.elim
    | error e => exact fun he => ⟨t, e, rfl, he⟩

/-- Two triples of one procedure. -/
theorem Triple.and {p : Proc σ ε α} (h : Triple P p Q E) (h' : Triple P' p Q' E') :
    Triple (fun s => P s ∧ P' s) p (fun a s => Q a s ∧ Q' a s) (fun e s => E e s ∧ E' e s) := by
  intro s hs
  have h1 := h s hs.1
  have h2 := h' s hs.2
  revert h1 h2
  cases p s with
  | mk t r => cases r with
    | ok a => exact And.intro
    | error e => exact And.intro

theorem Triple.pure (a : α) (h : ∀ s, P s → Q a s) : Triple P (Pure.pure a) Q E :=
  fun s hs => h s hs

theorem Triple.throw (e : ε) (h : ∀ s, P s → E e s) : Triple P (Proc.throw e) Q E :=
  fun s hs => h s hs

theorem Triple.modify (f : σ → σ) {Q : Unit → σ → Prop} (h : ∀ s, P s → Q () (f s)) :
    Triple P (Proc.modify f) Q E :=
  fun s hs => h s hs

theorem Triple.gets (f : σ → α) (h : ∀ s, P s → Q (f s) s) : Triple P (Proc.gets f) Q E :=
  fun s hs => h s hs

theorem Triple.errorIf (c : Bool) (e : ε) {Q : Unit → σ → Prop} (hE : ∀ s, c = true → P s → E e s)
    (hQ : ∀ s, c = false → P s → Q () s) : Triple P (Proc.errorIf c e) Q E := by
  intro s hs
  cases c with
  | true => exact hE s rfl hs
  | false => exact hQ s rfl hs

theorem Triple.require (c : Prop) [Decidable c] (e : ε) {Q : PLift c → σ → Prop}
    (hE : ∀ s, ¬ c → P s → E e s) (hQ : ∀ s (h : c), P s → Q ⟨h⟩ s) :
    Triple P (Proc.require c e) Q E := by
  intro s hs
  unfold Proc.require
  by_cases h : c
  · rw [dif_pos h]; exact hQ s h hs
  · rw [dif_neg h]; exact hE s h hs

theorem Triple.bind {p : Proc σ ε α} {f : α → Proc σ ε β} {R : α → σ → Prop} {Q : β → σ → Prop}
    (hp : Triple P p R E) (hf : ∀ a, Triple (R a) (f a) Q E) : Triple P (p >>= f) Q E := by
  intro s hs
  have h1 := hp s hs
  rw [bind_apply]
  revert h1
  cases p s with
  | mk t r => cases r with
    | ok a => exact fun h1 => hf a t h1
    | error e => exact id

/-- A first part that only returns `a`. -/
theorem Triple.bind_eq {p : Proc σ ε α} {f : α → Proc σ ε β} {Q : β → σ → Prop} {a : α}
    (hp : ∀ s, p s = (s, .ok a)) (hf : Triple P (f a) Q E) : Triple P (p >>= f) Q E := by
  intro s hs
  rw [bind_apply, hp s]; exact hf s hs

/-- The code below a check runs only when the check passed. -/
theorem Triple.bind_errorIf {c : Bool} {e : ε} {f : Unit → Proc σ ε β} {Q : β → σ → Prop}
    (hE : ∀ s, c = true → P s → E e s) (hf : c = false → Triple P (f ()) Q E) :
    Triple P (Proc.errorIf c e >>= f) Q E := by
  intro s hs
  cases c with
  | true => exact hE s rfl hs
  | false => exact hf rfl s hs

theorem Triple.forRange (n : Nat) (body : Nat → Proc σ ε Unit) (R : Nat → σ → Prop) :
    ∀ first, (∀ i, first ≤ i → i < first + n → Triple (R i) (body i) (fun _ => R (i + 1)) E) →
      Triple (R first) (Proc.forRange first n body) (fun _ => R (first + n)) E := by
  induction n with
  | zero => intro first _; exact Triple.pure () fun _ h => h
  | succ n ih =>
    intro first hb
    rw [forRange_succ]
    refine Triple.bind (hb first (Nat.le_refl _) (by omega)) fun _ => ?_
    have h := ih (first + 1) fun i h1 h2 => hb i (by omega) (by omega)
    rw [show first + (n + 1) = first + 1 + n by omega]
    exact h

theorem Triple.onlyIf {c : Bool} {p : Proc σ ε Unit} {Q : Unit → σ → Prop}
    (hp : c = true → Triple P p Q E) (hq : ∀ s, c = false → P s → Q () s) :
    Triple P (Proc.onlyIf c p) Q E := by
  intro s hs
  cases c with
  | true => exact hp rfl s hs
  | false => exact hq s rfl hs

theorem Triple.ite {c : Prop} [Decidable c] {p q : Proc σ ε α} (hp : c → Triple P p Q E)
    (hq : ¬ c → Triple P q Q E) : Triple P (if c then p else q) Q E := by
  by_cases h : c
  · rw [if_pos h]; exact hp h
  · rw [if_neg h]; exact hq h

theorem Triple.onError {p : Proc σ ε α} {h : σ → σ} (hp : Triple P p Q E)
    (hh : ∀ e s, E e s → E' e (h s)) : Triple P (p.onError h) Q E' := by
  intro s hs
  have h1 := hp s hs
  unfold Proc.onError
  revert h1
  cases p s with
  | mk t r => cases r with
    | ok a => exact id
    | error e => exact hh e t

/-- `ret = p;`, with the error left to the caller. -/
def result (p : Proc σ ε α) : Proc σ ε (Except ε α) := fun s => ((p s).1, .ok (p s).2)

theorem Triple.result {p : Proc σ ε α} (h : Triple P p Q E) :
    Triple P p.result (fun r s => match r with
    | .ok a => Q a s
    | .error e => E e s) E' := by
  intro s hs
  have hr := h s hs
  revert hr
  unfold Proc.result
  cases p s with
  | mk t r => cases r with
    | ok a => exact id
    | error e => exact id

/-! ## Invariants of a procedure -/

/-- No exit of `p` breaks `I`. -/
def Keeps (I : σ → Prop) (p : Proc σ ε α) : Prop := Triple I p (fun _ => I) (fun _ => I)

namespace Keeps
variable {I : σ → Prop}

theorem state {p : Proc σ ε α} (h : Keeps I p) {s : σ} (hs : I s) : I (p s).1 := by
  have := h s hs
  revert this
  cases p s with
  | mk t r => cases r <;> exact id

theorem of_state {p : Proc σ ε α} (h : ∀ s, I s → I (p s).1) : Keeps I p := by
  intro s hs
  have := h s hs
  revert this
  cases p s with
  | mk t r => cases r <;> exact id

theorem pure (a : α) : Keeps I (Pure.pure a : Proc σ ε α) := Triple.pure a fun _ h => h

theorem throw (e : ε) : Keeps I (Proc.throw e : Proc σ ε α) := Triple.throw e fun _ h => h

theorem gets (f : σ → α) : Keeps I (Proc.gets f : Proc σ ε α) := Triple.gets f fun _ h => h

theorem modify {f : σ → σ} (h : ∀ s, I s → I (f s)) : Keeps I (Proc.modify f : Proc σ ε Unit) :=
  Triple.modify f h

theorem errorIf (c : Bool) (e : ε) : Keeps I (Proc.errorIf c e : Proc σ ε Unit) :=
  Triple.errorIf c e (fun _ _ h => h) (fun _ _ h => h)

theorem bind {p : Proc σ ε α} {f : α → Proc σ ε β} (hp : Keeps I p) (hf : ∀ a, Keeps I (f a)) :
    Keeps I (p >>= f) :=
  Triple.bind hp hf

theorem onlyIf {c : Bool} {p : Proc σ ε Unit} (hp : Keeps I p) : Keeps I (Proc.onlyIf c p) :=
  Triple.onlyIf (fun _ => hp) fun _ _ h => h

theorem ite {c : Prop} [Decidable c] {p q : Proc σ ε α} (hp : Keeps I p) (hq : Keeps I q) :
    Keeps I (if c then p else q) :=
  Triple.ite (fun _ => hp) (fun _ => hq)

theorem onError {p : Proc σ ε α} {h : σ → σ} (hp : Keeps I p) (hh : ∀ s, I s → I (h s)) :
    Keeps I (p.onError h) :=
  Triple.onError hp fun _ s => hh s

end Keeps

/-! ## Procedures that always fail -/

/-- From `I`, `p` returns an error, and `I` still holds. -/
@[irreducible] def Fails (I : σ → Prop) (p : Proc σ ε α) : Prop :=
  Triple I p (fun _ _ => False) (fun _ => I)

namespace Fails
variable {I : σ → Prop}

theorem of_error {p : Proc σ ε α} (h : ∀ s, I s → ∃ t e, p s = (t, .error e) ∧ I t) :
    Fails I p := by
  unfold Fails
  intro s hs
  obtain ⟨t, e, hp, ht⟩ := h s hs
  rw [hp]; exact ht

theorem exists_error {p : Proc σ ε α} (h : Fails I p) {s : σ} (hs : I s) :
    ∃ t e, p s = (t, .error e) ∧ I t := by
  unfold Fails at h
  exact Triple.exists_error h hs

theorem first {p : Proc σ ε α} {f : α → Proc σ ε β} (hp : Fails I p) : Fails I (p >>= f) := by
  unfold Fails at hp ⊢
  exact Triple.bind hp fun _ _ h => h.elim

/-- The first part may promise `R` of what it returns. -/
theorem bind_of {p : Proc σ ε α} {f : α → Proc σ ε β} {R : α → Prop}
    (hp : Triple I p (fun a s => R a ∧ I s) (fun _ => I)) (hf : ∀ a, R a → Fails I (f a)) :
    Fails I (p >>= f) := by
  unfold Fails at hf ⊢
  exact Triple.bind hp fun a s hs => hf a hs.1 s hs.2

theorem bind {p : Proc σ ε α} {f : α → Proc σ ε β} (hp : Keeps I p) (hf : ∀ a, Fails I (f a)) :
    Fails I (p >>= f) :=
  bind_of (R := fun _ => True) (Triple.conseq hp (fun _ h => h)
    (fun _ _ h => ⟨trivial, h⟩) fun _ _ h => h)
    fun a _ => hf a

theorem onError {p : Proc σ ε α} {h : σ → σ} (hp : Fails I p) (hh : ∀ s, I s → I (h s)) :
    Fails I (p.onError h) := by
  unfold Fails at hp ⊢
  exact Triple.onError hp fun _ s => hh s

end Fails
end Proc
end Sp11Touch
