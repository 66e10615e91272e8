import Sp11Touch.Core.Bytes
import Sp11Touch.Core.Walk
/-!
# Two runs of one procedure

`Twin R p S`: from two states in `R`, `p` exits both times with the same
result or the same error, and after a normal return the states are in `S`. It
is the two-run counterpart of `Triple`; what `R` leaves out may differ and
must not be read before it is written. `Silent p` is a procedure that leaves
the state alone and does not look at it, such as a read of the input.

`Twins R p S E` relates the states after an error return as well, and
`Blind act p` is a procedure that does not see a change of the state.
-/
namespace Sp11Touch
namespace Proc
variable {σ ε α β : Type}

def Twin (R : σ → σ → Prop) (p : Proc σ ε α) (S : α → σ → σ → Prop) : Prop :=
  ∀ s t, R s t → (p s).2 = (p t).2 ∧ ∀ a, (p s).2 = .ok a → S a (p s).1 (p t).1

def Silent (p : Proc σ ε α) : Prop := ∃ r, ∀ s, p s = (s, r)

namespace Silent

theorem pure (a : α) : Silent (Pure.pure a : Proc σ ε α) := ⟨.ok a, fun _ => rfl⟩

theorem bind {p : Proc σ ε α} {f : α → Proc σ ε β} (hp : Silent p) (hf : ∀ a, Silent (f a)) :
    Silent (p >>= f) := by
  obtain ⟨r, hr⟩ := hp
  cases r with
  | error e => exact ⟨.error e, fun s => by rw [bind_apply, hr]⟩
  | ok a =>
    obtain ⟨r', hr'⟩ := hf a
    exact ⟨r', fun s => by rw [bind_apply, hr]; exact hr' s⟩

theorem errorIf (c : Bool) (e : ε) : Silent (Proc.errorIf c e : Proc σ ε Unit) := by
  cases c with
  | true => exact ⟨.error e, fun _ => rfl⟩
  | false => exact ⟨.ok (), fun _ => rfl⟩

theorem require (c : Prop) [Decidable c] (e : ε) :
    Silent (Proc.require c e : Proc σ ε (PLift c)) := by
  unfold Proc.require
  by_cases h : c
  · exact ⟨.ok ⟨h⟩, fun _ => dif_pos h⟩
  · exact ⟨.error e, fun _ => dif_neg h⟩

theorem byteAt (buf : Bytes) (i : Nat) : Silent (Bytes.byteAt buf i : Proc σ (Exit ε) Nat) := by
  unfold Bytes.byteAt
  cases buf[i]? with
  | none => exact ⟨.error .oob, fun _ => rfl⟩
  | some b => exact ⟨.ok b.toNat, fun _ => rfl⟩

theorem le16At (c : Bytes) (i : Nat) : Silent (Bytes.le16At c i : Proc σ (Exit ε) Nat) :=
  (byteAt c i).bind fun _ => (byteAt c (i + 1)).bind fun _ => pure _

theorem le32At (c : Bytes) (i : Nat) : Silent (Bytes.le32At c i : Proc σ (Exit ε) Nat) :=
  (le16At c i).bind fun _ => (le16At c (i + 2)).bind fun _ => pure _

end Silent

namespace Twin
variable {R R' : σ → σ → Prop} {S S' : α → σ → σ → Prop}

theorem conseq {p : Proc σ ε α} (h : Twin R p S) (hR : ∀ s t, R' s t → R s t)
    (hS : ∀ a s t, S a s t → S' a s t) : Twin R' p S' := fun s t hst =>
  ⟨(h s t (hR s t hst)).1, fun a ha => hS a _ _ ((h s t (hR s t hst)).2 a ha)⟩

theorem pure (a : α) (h : ∀ s t, R s t → S a s t) : Twin R (Pure.pure a : Proc σ ε α) S :=
  fun s t hst => ⟨rfl, fun b hb => by cases hb; exact h s t hst⟩

theorem modify {f : σ → σ} {S : Unit → σ → σ → Prop} (h : ∀ s t, R s t → S () (f s) (f t)) :
    Twin R (Proc.modify f : Proc σ ε Unit) S := fun s t hst => ⟨rfl, fun _ _ => h s t hst⟩

theorem gets {f : σ → α} (hf : ∀ s t, R s t → f s = f t) :
    Twin R (Proc.gets f : Proc σ ε α) fun _ => R :=
  fun s t hst => ⟨congrArg Except.ok (hf s t hst), fun _ _ => hst⟩

theorem silent {p : Proc σ ε α} (h : Silent p) : Twin R p fun _ => R := by
  obtain ⟨r, hr⟩ := h
  intro s t hst
  rw [hr s, hr t]
  exact ⟨rfl, fun _ _ => hst⟩

theorem bind {p : Proc σ ε α} {f : α → Proc σ ε β} {T : β → σ → σ → Prop} (hp : Twin R p S)
    (hf : ∀ a, Twin (S a) (f a) T) : Twin R (p >>= f) T := by
  intro s t hst
  obtain ⟨h1, h2⟩ := hp s t hst
  rw [bind_apply, bind_apply]
  cases hs : p s with
  | mk s' r =>
    cases ht : p t with
    | mk t' r' =>
      rw [hs, ht] at h1 h2
      have h1 : r = r' := h1
      subst h1
      cases r with
      | error e => exact ⟨rfl, fun b hb => nomatch hb⟩
      | ok a => exact hf a s' t' (h2 a rfl)

theorem onlyIf {c : Bool} {p : Proc σ ε Unit} (h : Twin R p fun _ => R) :
    Twin R (Proc.onlyIf c p) fun _ => R := by
  cases c with
  | true => exact h
  | false => exact fun s t hst => ⟨rfl, fun _ _ => hst⟩

theorem ite {c : Prop} [Decidable c] {p q : Proc σ ε α} (hp : Twin R p S) (hq : Twin R q S) :
    Twin R (if c then p else q) S := by
  by_cases h : c
  · rw [if_pos h]; exact hp
  · rw [if_neg h]; exact hq

theorem forRange {n : Nat} {body : Nat → Proc σ ε Unit} (hb : ∀ i, Twin R (body i) fun _ => R)
    (first : Nat) :
    Twin R (Proc.forRange first n body) fun _ => R := by
  induction n generalizing first with
  | zero => exact fun s t hst => ⟨rfl, fun _ _ => hst⟩
  | succ n ih =>
    rw [forRange_succ]
    exact bind (hb first) fun _ => ih (first + 1)

/-- What the accumulator says of the two states may change with it. -/
theorem walk {stop : Nat} {body : (p : Nat) → α → Proc σ ε ({n : Nat // p < n} × α)}
    {R : α → σ → σ → Prop} (hb : ∀ p a, Twin (R a) (body p a) fun r => R r.2) (p : Nat) (a : α) :
    Twin (R a) (Proc.walk stop body p a) R := by
  induction h : stop - p using Nat.strongRecOn generalizing p a with
  | ind k ih =>
    intro s t hst
    rw [Proc.walk, Proc.walk]
    by_cases hlt : p < stop
    · rw [if_pos hlt, if_pos hlt]
      obtain ⟨h1, h2⟩ := hb p a s t hst
      cases hs : body p a s with
      | mk s' r =>
        cases ht : body p a t with
        | mk t' r' =>
          rw [hs, ht] at h1 h2
          have h1 : r = r' := h1
          subst h1
          cases r with
          | error e => exact ⟨rfl, fun b hb => by cases hb⟩
          | ok na =>
            have := na.1.2
            exact ih (stop - na.1.1) (by omega) na.1.1 na.2 rfl s' t' (h2 na rfl)
    · rw [if_neg hlt, if_neg hlt]
      exact ⟨rfl, fun b hb => by cases hb; exact hst⟩

end Twin

/-! ## Both exits -/

/-- From two states in `R`, `p` exits alike: normally with the same result and states in `S`, or
with the same error and states in `E`. -/
def Twins (R : σ → σ → Prop) (p : Proc σ ε α) (S : α → σ → σ → Prop) (E : σ → σ → Prop) : Prop :=
  ∀ s t, R s t → (p s).2 = (p t).2 ∧ (∀ a, (p s).2 = .ok a → S a (p s).1 (p t).1) ∧
    ∀ e, (p s).2 = .error e → E (p s).1 (p t).1

/-- `p` does not see what `act` changes, and leaves it. -/
def Blind {κ : Type} (act : κ → σ → σ) (p : Proc σ ε α) : Prop :=
  ∀ k s, p (act k s) = (act k (p s).1, (p s).2)

namespace Blind
variable {κ : Type} {act : κ → σ → σ}

theorem pure (a : α) : Blind act (Pure.pure a : Proc σ ε α) := fun _ _ => rfl

theorem throw (e : ε) : Blind act (Proc.throw e : Proc σ ε α) := fun _ _ => rfl

theorem modify {f : σ → σ} (h : ∀ k s, f (act k s) = act k (f s)) :
    Blind act (Proc.modify f : Proc σ ε Unit) :=
  fun k s => by rw [modify_apply, h]; rfl

theorem gets {f : σ → α} (h : ∀ k s, f (act k s) = f s) : Blind act (Proc.gets f : Proc σ ε α) :=
  fun k s => by rw [gets_apply, h]; rfl

theorem errorIf (c : Bool) (e : ε) : Blind act (Proc.errorIf c e : Proc σ ε Unit) := by
  cases c with
  | true => exact fun _ _ => rfl
  | false => exact fun _ _ => rfl

theorem bind {p : Proc σ ε α} {f : α → Proc σ ε β} (hp : Blind act p) (hf : ∀ a, Blind act (f a)) :
    Blind act (p >>= f) := by
  intro k s
  rw [bind_apply, bind_apply, hp k s]
  cases p s with
  | mk t r => cases r with
    | ok a => exact hf a k t
    | error e => rfl

theorem onlyIf {c : Bool} {p : Proc σ ε Unit} (hp : Blind act p) : Blind act (Proc.onlyIf c p) := by
  cases c with
  | true => exact hp
  | false => exact fun _ _ => rfl

theorem ite {c : Prop} [Decidable c] {p q : Proc σ ε α} (hp : Blind act p) (hq : Blind act q) :
    Blind act (if c then p else q) := by
  by_cases h : c
  · rw [if_pos h]; exact hp
  · rw [if_neg h]; exact hq

end Blind

namespace Twins
variable {R R' : σ → σ → Prop} {S S' : α → σ → σ → Prop} {E E' : σ → σ → Prop}

theorem conseq {p : Proc σ ε α} (h : Twins R p S E) (hR : ∀ s t, R' s t → R s t)
    (hS : ∀ a s t, S a s t → S' a s t)
    (hE : ∀ s t, E s t → E' s t) : Twins R' p S' E' := by
  intro s t hst
  obtain ⟨h1, h2, h3⟩ := h s t (hR s t hst)
  exact ⟨h1, fun a ha => hS a _ _ (h2 a ha), fun e he => hE _ _ (h3 e he)⟩

/-- A blind procedure keeps a relation that its two runs keep. -/
theorem of_blind {κ : Type} {act : κ → σ → σ} {p : Proc σ ε α} (hp : Blind act p)
    (h : ∀ s t, R s t → ∃ k, t = act k s ∧ (∀ a, (p s).2 = .ok a → S a (p s).1 (act k (p s).1)) ∧
      ∀ e, (p s).2 = .error e → E (p s).1 (act k (p s).1)) : Twins R p S E := by
  intro s t hst
  obtain ⟨k, rfl, hok, herr⟩ := h s t hst
  rw [hp k s]
  exact ⟨rfl, hok, herr⟩

theorem pure (a : α) (h : ∀ s t, R s t → S a s t) : Twins R (Pure.pure a : Proc σ ε α) S E := by
  refine fun s t hst => ⟨rfl, fun b hb => ?_, fun e he => nomatch he⟩
  cases hb
  exact h s t hst

theorem throw (e : ε) (h : ∀ s t, R s t → E s t) : Twins R (Proc.throw e : Proc σ ε α) S E :=
  fun s t hst => ⟨rfl, fun _ hb => (nomatch hb), fun _ _ => h s t hst⟩

theorem modify {f : σ → σ} {S : Unit → σ → σ → Prop} (h : ∀ s t, R s t → S () (f s) (f t)) :
    Twins R (Proc.modify f : Proc σ ε Unit) S E :=
  fun s t hst => ⟨rfl, fun _ _ => h s t hst, fun _ he => nomatch he⟩

theorem errorIf {c : Bool} {e : ε} {S : Unit → σ → σ → Prop}
    (hS : c = false → ∀ s t, R s t → S () s t)
    (hE : ∀ s t, R s t → E s t) : Twins R (Proc.errorIf c e : Proc σ ε Unit) S E := by
  cases c with
  | true => exact throw e hE
  | false => exact pure () (hS rfl)

theorem bind {p : Proc σ ε α} {f : α → Proc σ ε β} {T : β → σ → σ → Prop} (hp : Twins R p S E)
    (hf : ∀ a, Twins (S a) (f a) T E) : Twins R (p >>= f) T E := by
  intro s t hst
  obtain ⟨h1, h2, h3⟩ := hp s t hst
  rw [bind_apply, bind_apply]
  cases hs : p s with
  | mk s' r =>
    cases ht : p t with
    | mk t' r' =>
      rw [hs, ht] at h1 h2 h3
      have h1 : r = r' := h1
      subst h1
      cases r with
      | error e => exact ⟨rfl, fun b hb => (nomatch hb), fun _ _ => h3 e rfl⟩
      | ok a => exact hf a s' t' (h2 a rfl)

/-- What is read may differ where the rest does not see it. -/
theorem gets_bind {g : σ → α} {f : α → Proc σ ε β} {T : β → σ → σ → Prop}
    (hg : ∀ s t, R s t → f (g t) = f (g s))
    (hf : ∀ s, Twins (fun s' t' => R s' t' ∧ s' = s) (f (g s)) T E) :
      Twins R (Proc.gets g >>= f) T E := by
  intro s t hst
  show (f (g s) s).2 = (f (g t) t).2 ∧ _ ∧ _
  rw [hg s t hst]
  have h := hf s s t ⟨hst, rfl⟩
  have ht : (Proc.gets g >>= f) t = f (g s) t := by
    rw [bind_apply, gets_apply]
    simp only
    rw [hg s t hst]
  rw [ht]
  exact h

theorem onlyIf {c : Bool} {p : Proc σ ε Unit} {S : Unit → σ → σ → Prop}
    (hp : c = true → Twins R p S E)
    (hq : c = false → ∀ s t, R s t → S () s t) : Twins R (Proc.onlyIf c p) S E := by
  cases c with
  | true => exact hp rfl
  | false => exact pure () (hq rfl)

theorem ite {c : Prop} [Decidable c] {p q : Proc σ ε α} (hp : c → Twins R p S E)
    (hq : ¬ c → Twins R q S E) :
    Twins R (if c then p else q) S E := by
  by_cases h : c
  · rw [if_pos h]; exact hp h
  · rw [if_neg h]; exact hq h

theorem onError {p : Proc σ ε α} {h : σ → σ} (hp : Twins R p S E)
    (hh : ∀ s t, E s t → E' (h s) (h t)) :
    Twins R (p.onError h) S E' := by
  intro s t hst
  obtain ⟨h1, h2, h3⟩ := hp s t hst
  unfold Proc.onError
  cases hs : p s with
  | mk s' r =>
    cases ht : p t with
    | mk t' r' =>
      rw [hs, ht] at h1 h2 h3
      have h1 : r = r' := h1
      subst h1
      cases r with
      | error e => exact ⟨rfl, fun b hb => (nomatch hb), fun _ _ => hh _ _ (h3 e rfl)⟩
      | ok a => exact ⟨rfl, fun b hb => h2 b hb, fun _ he => nomatch he⟩

end Twins
end Proc
end Sp11Touch
