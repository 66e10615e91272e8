import Mathlib.Logic.Function.Iterate
import Mathlib.Order.Monotone.Basic
/-!
# Transition systems

A component that runs beside others is a step relation over labels; a run is
a list of labels taken one after the other. `Inductive I` is the proof
obligation of an invariant, and `Inductive.reachable` the fact it buys.
`restrict C` keeps the steps whose source state and label meet `C`: what
holds of every reachable state of `M.restrict C` holds along every run of
`M` whose steps all meet `C` (`run_restrict`).

The runs of a single map are its iterates. A map that moves every point of a set
it keeps in one direction has monotone orbits there (`orbit_monotone`,
`orbit_antitone`); where a natural number falls at every move, the orbit comes
to rest after finitely many (`iterate_settles`).
-/
namespace Sp11Touch

structure LTS (S L : Type) where
  init : S → Prop
  step : S → L → S → Prop

namespace LTS
variable {S L : Type}

inductive Run (M : LTS S L) : S → List L → S → Prop where
  | nil (s : S) : Run M s [] s
  | cons {s t u : S} {l : L} {ls : List L} : M.step s l t → Run M t ls u → Run M s (l :: ls) u

theorem Run.append {M : LTS S L} {s t u : S} {ls ls' : List L} (h : M.Run s ls t)
    (h' : M.Run t ls' u) :
    M.Run s (ls ++ ls') u := by
  induction h with
  | nil => exact h'
  | cons hst _ ih => exact .cons hst (ih h')

def Reachable (M : LTS S L) (s : S) : Prop := ∃ s0 ls, M.init s0 ∧ M.Run s0 ls s

/-- `I` holds at the start and no step breaks it. -/
structure Inductive (M : LTS S L) (I : S → Prop) : Prop where
  init : ∀ s, M.init s → I s
  step : ∀ s l t, I s → M.step s l t → I t

/-- What no step breaks holds at the end of a run if it holds at its start. -/
theorem Run.keeps {M : LTS S L} {I : S → Prop} (hstep : ∀ s l t, I s → M.step s l t → I t) {s t : S}
    {ls : List L} (hr : M.Run s ls t) (hs : I s) : I t := by
  induction hr with
  | nil => exact hs
  | cons hst _ ih => exact ih (hstep _ _ _ hs hst)

theorem Inductive.run {M : LTS S L} {I : S → Prop} (h : M.Inductive I) {s t : S} {ls : List L}
    (hr : M.Run s ls t) (hs : I s) : I t := hr.keeps h.step hs

theorem Inductive.reachable {M : LTS S L} {I : S → Prop} (h : M.Inductive I) (s : S)
    (hr : M.Reachable s) : I s := by
  obtain ⟨s0, ls, h0, hrun⟩ := hr
  exact h.run hrun (h.init s0 h0)

/-- The steps that meet `C`. -/
def restrict (M : LTS S L) (C : S → L → Prop) : LTS S L where
  init := M.init
  step s l t := M.step s l t ∧ C s l

/-- Every step of the run meets `C` in the state it is taken from. -/
inductive RunMeets (M : LTS S L) (C : S → L → Prop) : S → List L → S → Prop where
  | nil (s : S) : RunMeets M C s [] s
  | cons {s t u : S} {l : L} {ls : List L} :
      M.step s l t → C s l → RunMeets M C t ls u → RunMeets M C s (l :: ls) u

theorem run_restrict {M : LTS S L} {C : S → L → Prop} {s t : S} {ls : List L}
    (h : M.RunMeets C s ls t) : (M.restrict C).Run s ls t := by
  induction h with
  | nil => exact .nil _
  | cons hst hc _ ih => exact .cons ⟨hst, hc⟩ ih

theorem RunMeets.imp {M : LTS S L} {C D : S → L → Prop} (himp : ∀ s l, C s l → D s l) {s t : S}
    {ls : List L}
    (h : M.RunMeets C s ls t) : M.RunMeets D s ls t := by
  induction h with
  | nil => exact .nil _
  | cons hst hc _ ih => exact .cons hst (himp _ _ hc) ih

/-- A relation that every step of one side can follow on the other is kept along runs. -/
theorem Run.follow {M : LTS S L} {R : S → S → Prop}
    (hstep : ∀ s t l s', R s t → M.step s l s' → ∃ t', M.step t l t' ∧ R s' t') {s s' t : S}
    {ls : List L}
    (hr : M.Run s ls s') (hst : R s t) : ∃ t', M.Run t ls t' ∧ R s' t' := by
  induction hr generalizing t with
  | nil => exact ⟨t, .nil t, hst⟩
  | cons hs _ ih =>
    obtain ⟨u, hu, hru⟩ := hstep _ _ _ _ hst hs
    obtain ⟨t', ht', hrt⟩ := ih hru
    exact ⟨t', .cons hu ht', hrt⟩

/-- A measure that every step decreases bounds the length of a run. -/
theorem Run.length_le {M : LTS S L} {m : S → Nat} (hm : ∀ s l t, M.step s l t → m t < m s) {s t : S}
    {ls : List L} (h : M.Run s ls t) : ls.length + m t ≤ m s := by
  induction h with
  | nil => simp
  | cons hst _ ih =>
    have := hm _ _ _ hst
    rw [List.length_cons]
    omega

/-! ## Deterministic systems -/

/-- The system of a partial step function. -/
def ofFun (init : S → Prop) (f : S → L → Option S) : LTS S L where
  init := init
  step s l t := f s l = some t

/-- Runs `f` along `ls` while each step meets `C`. -/
def exec (f : S → L → Option S) (C : S → L → Prop) [∀ s l, Decidable (C s l)] (s : S) :
    List L → Option S
  | [] => some s
  | l :: ls => if C s l then (f s l).bind fun t => exec f C t ls else none

theorem runMeets_of_exec {init : S → Prop} {f : S → L → Option S} {C : S → L → Prop}
    [∀ s l, Decidable (C s l)] : ∀ {ls : List L} {s t : S}, exec f C s ls = some t →
    (ofFun init f).RunMeets C s ls t
  | [], _, _, h => by cases h; exact .nil _
  | l :: ls, s, t, h => by
    simp only [exec] at h
    split at h
    · next hc =>
      obtain ⟨m, hm, ht⟩ := Option.bind_eq_some_iff.mp h
      exact .cons hm hc (runMeets_of_exec ht)
    · cases h

theorem RunMeets.run {M : LTS S L} {C : S → L → Prop} {s t : S} {ls : List L}
    (h : M.RunMeets C s ls t) : M.Run s ls t := by
  induction h with
  | nil => exact .nil _
  | cons hst _ _ ih => exact .cons hst ih

/-- The run that `f` takes when nothing is asked of its steps. -/
theorem run_of_exec {init : S → Prop} {f : S → L → Option S} {ls : List L} {s t : S}
    (h : exec f (fun _ _ => True) s ls = some t) : (ofFun init f).Run s ls t :=
  (runMeets_of_exec h).run

end LTS

/-! ## Iterations of a map -/

section iterations
variable {α : Type} {f : α → α}

/-- From a fixed point on an orbit is constant. -/
theorem iterate_rests {x : α} {N n : Nat} (h : f (f^[N] x) = f^[N] x) (hle : N ≤ n) :
    f^[n] x = f^[N] x := by
  obtain ⟨k, rfl⟩ := Nat.exists_eq_add_of_le' hle
  rw [Function.iterate_add_apply]
  exact Function.iterate_fixed h k

/-- What a map keeps holds along its orbits. -/
theorem iterate_keeps {p : α → Prop} (h : ∀ x, p x → p (f x)) {x : α} (hx : p x) (n : Nat) :
    p (f^[n] x) := by
  induction n with
  | zero => exact hx
  | succ n ih =>
    rw [Function.iterate_succ_apply']
    exact h _ ih

/-- An orbit along which a natural number falls at every move ends in a fixed point. -/
theorem iterate_settles {p : α → Prop} (e : α → Nat) (hp : ∀ x, p x → p (f x))
    (h : ∀ x, p x → f x = x ∨ e (f x) < e x)
    {x : α} (hx : p x) : ∃ N, f (f^[N] x) = f^[N] x := by
  induction hn : e x using Nat.strong_induction_on generalizing x with
  | _ n ih =>
    rcases h x hx with hfix | hlt
    · exact ⟨0, hfix⟩
    · obtain ⟨N, hN⟩ := ih (e (f x)) (hn ▸ hlt) (hp x hx) rfl
      exact ⟨N + 1, hN⟩

variable [Preorder α] {p : α → Prop} {x : α}

theorem orbit_monotone (hp : ∀ x, p x → p (f x)) (h : ∀ x, p x → x ≤ f x) (hx : p x) :
    Monotone fun n => f^[n] x := by
  refine monotone_nat_of_le_succ fun n => ?_
  rw [Function.iterate_succ_apply']
  exact h _ (iterate_keeps hp hx n)

theorem orbit_antitone (hp : ∀ x, p x → p (f x)) (h : ∀ x, p x → f x ≤ x) (hx : p x) :
    Antitone fun n => f^[n] x :=
  @orbit_monotone αᵒᵈ f _ p x hp h hx

end iterations
end Sp11Touch
