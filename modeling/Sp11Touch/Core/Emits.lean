import Mathlib.Computability.Language
import Sp11Touch.Core.Proc
/-!
# What a procedure puts out

A procedure that sends messages leaves a word of messages behind. `Emits out G
I L p J`: from a state in `I`, the word of a normal return is in the language
`L` and the state in `J`; the word of an error return is the beginning of a word
of `L`. Every message meets `G`. `out` holds the messages, newest first.

The rules follow the way such procedures are put together: `bind` is the
product of languages, a quiet part (`1`) drops out, and a part that depends on
something learnt on the way adds up over what may be learnt (`ofExists`).
-/
namespace Sp11Touch

variable {β : Type}

/-- The beginnings of the words of `L`. -/
def prefixes (L : Language β) : Language β := {k | ∃ l ∈ L, k <+: l}

theorem mem_prefixes_of_mem {L : Language β} {l : List β} (h : l ∈ L) : l ∈ prefixes L :=
  ⟨l, h, List.prefix_rfl⟩

theorem nil_mem_prefixes {L : Language β} (h : ∃ l, l ∈ L) : [] ∈ prefixes L :=
  h.elim fun l hl => ⟨l, hl, List.nil_prefix⟩

theorem prefixes_mono {L M : Language β} (h : ∀ l ∈ L, l ∈ M) {k : List β} (hk : k ∈ prefixes L) :
    k ∈ prefixes M := by
  obtain ⟨l, hl, hp⟩ := hk
  exact ⟨l, h l hl, hp⟩

theorem mem_prefixes_mul {L M : Language β} {k : List β} (hk : k ∈ prefixes L) (hM : ∃ m, m ∈ M) :
    k ∈ prefixes (L * M) := by
  obtain ⟨l, hl, hp⟩ := hk
  obtain ⟨m, hm⟩ := hM
  exact ⟨l ++ m, Language.append_mem_mul hl hm, hp.trans (List.prefix_append l m)⟩

theorem append_mem_prefixes_mul {L M : Language β} {l k : List β} (hl : l ∈ L)
    (hk : k ∈ prefixes M) :
    l ++ k ∈ prefixes (L * M) := by
  obtain ⟨m, hm, hp⟩ := hk
  exact ⟨l ++ m, Language.append_mem_mul hl hm, (List.prefix_append_right_inj l).mpr hp⟩

theorem exists_mem_mul {L M : Language β} (hL : ∃ l, l ∈ L) (hM : ∃ m, m ∈ M) : ∃ l, l ∈ L * M := by
  obtain ⟨l, hl⟩ := hL
  obtain ⟨m, hm⟩ := hM
  exact ⟨l ++ m, Language.append_mem_mul hl hm⟩

theorem word_mul (k l : List β) : ({k} : Language β) * {l} = {k ++ l} := by
  rw [Language.mul_def]
  exact Set.image2_singleton

namespace Proc
variable {σ ε α γ : Type}

/-- From `s` to `t` the word `l` was put out. -/
structure Wrote (out : σ → List β) (G : β → Prop) (s : σ) (l : List β) (t : σ) : Prop where
  out : out t = l.reverse ++ out s
  good : ∀ b ∈ l, G b

theorem Wrote.nil {out : σ → List β} {G : β → Prop} {s t : σ} (h : out t = out s) :
    Wrote out G s [] t :=
  ⟨by simp [h], by simp⟩

theorem Wrote.append {out : σ → List β} {G : β → Prop} {s t u : σ} {k l : List β}
    (h : Wrote out G s k t)
    (h' : Wrote out G t l u) : Wrote out G s (k ++ l) u := by
  refine ⟨by rw [h'.out, h.out, List.reverse_append, List.append_assoc], fun b hb => ?_⟩
  rcases List.mem_append.mp hb with hb | hb
  · exact h.good b hb
  · exact h'.good b hb

structure Emits (out : σ → List β) (G : β → Prop) (I : σ → Prop) (L : Language β) (p : Proc σ ε α)
    (J : σ → Prop) :
    Prop where
  /-- an error may come anywhere, so that there has to be a word to begin -/
  word : ∃ l, l ∈ L
  run : ∀ s, I s → match p s with
    | (t, .ok _) => J t ∧ ∃ l ∈ L, Wrote out G s l t
    | (t, .error _) => ∃ l ∈ prefixes L, Wrote out G s l t

namespace Emits
variable {out : σ → List β} {G : β → Prop} {I I' J J' K : σ → Prop} {L M : Language β}

theorem ok {p : Proc σ ε α} (h : Emits out G I L p J) {s t : σ} {a : α} (hs : I s)
    (hp : p s = (t, .ok a)) :
    J t ∧ ∃ l ∈ L, Wrote out G s l t := by
  have := h.run s hs
  rw [hp] at this
  exact this

theorem error {p : Proc σ ε α} (h : Emits out G I L p J) {s t : σ} {e : ε} (hs : I s)
    (hp : p s = (t, .error e)) :
    ∃ l ∈ prefixes L, Wrote out G s l t := by
  have := h.run s hs
  rw [hp] at this
  exact this

theorem conseq {p : Proc σ ε α} (h : Emits out G I L p J) (hI : ∀ s, I' s → I s)
    (hL : ∀ l ∈ L, l ∈ M)
    (hJ : ∀ s, J s → J' s) : Emits out G I' M p J' where
  word := h.word.imp hL
  run s hs := by
    have hr := h.run s (hI s hs)
    revert hr
    cases p s with
    | mk t r => cases r with
      | ok a =>
        intro hr
        obtain ⟨ht, l, hl, hw⟩ := hr
        exact ⟨hJ t ht, l, hL l hl, hw⟩
      | error e =>
        intro hr
        obtain ⟨l, hl, hw⟩ := hr
        exact ⟨l, prefixes_mono hL hl, hw⟩

theorem bind [Nonempty α] {p : Proc σ ε α} {f : α → Proc σ ε γ} (hp : Emits out G I L p J)
    (hf : ∀ a, Emits out G J M (f a) K) : Emits out G I (L * M) (p >>= f) K where
  word := exists_mem_mul hp.word (Nonempty.elim ‹_› fun a => (hf a).word)
  run s hs := by
    have hM : ∃ m, m ∈ M := Nonempty.elim ‹_› fun a => (hf a).word
    have hr := hp.run s hs
    rw [bind_apply]
    revert hr
    cases p s with
    | mk t r => cases r with
      | error e =>
        intro hr
        obtain ⟨l, hl, hw⟩ := hr
        exact ⟨l, mem_prefixes_mul hl hM, hw⟩
      | ok a =>
        intro hr
        obtain ⟨ht, l, hl, hw⟩ := hr
        have hr' := (hf a).run t ht
        simp only
        revert hr'
        cases f a t with
        | mk u r' => cases r' with
          | ok b =>
            intro hr'
            obtain ⟨hu, k, hk, hw'⟩ := hr'
            exact ⟨hu, l ++ k, Language.append_mem_mul hl hk, hw.append hw'⟩
          | error e =>
            intro hr'
            obtain ⟨k, hk, hw'⟩ := hr'
            exact ⟨l ++ k, append_mem_prefixes_mul hl hk, hw.append hw'⟩

/-- A quiet first part. -/
theorem quiet [Nonempty α] {p : Proc σ ε α} {f : α → Proc σ ε γ} (hp : Emits out G I 1 p J)
    (hf : ∀ a, Emits out G J M (f a) K) : Emits out G I M (p >>= f) K := by
  have h := hp.bind hf
  rwa [one_mul] at h

/-- A quiet second part. -/
theorem rest [Nonempty α] {p : Proc σ ε α} {f : α → Proc σ ε γ} (hp : Emits out G I L p J)
    (hf : ∀ a, Emits out G J 1 (f a) K) : Emits out G I L (p >>= f) K := by
  have h := hp.bind hf
  rwa [mul_one] at h

/-- One message, then the rest of a word. -/
theorem cons [Nonempty α] {b : β} {l : List β} {p : Proc σ ε α} {f : α → Proc σ ε γ}
    (hp : Emits out G I {[b]} p J)
    (hf : ∀ a, Emits out G J {l} (f a) K) : Emits out G I {b :: l} (p >>= f) K := by
  have h := hp.bind hf
  rwa [word_mul] at h

/-- One message, then the rest of the first word of a product. -/
theorem consMul [Nonempty α] {b : β} {l : List β} {p : Proc σ ε α} {f : α → Proc σ ε γ}
    (hp : Emits out G I {[b]} p J) (hf : ∀ a, Emits out G J ({l} * L) (f a) K) :
    Emits out G I ({b :: l} * L) (p >>= f) K := by
  have h := hp.bind hf
  rwa [← mul_assoc, word_mul] at h

theorem pure (a : α) (h : ∀ s, I s → J s) : Emits out G I 1 (Pure.pure a : Proc σ ε α) J where
  word := ⟨[], Language.nil_mem_one⟩
  run s hs := ⟨h s hs, [], Language.nil_mem_one, .nil rfl⟩

theorem throw (e : ε) (hL : ∃ l, l ∈ L) : Emits out G I L (Proc.throw e : Proc σ ε α) J where
  word := hL
  run _ _ := ⟨[], nil_mem_prefixes hL, .nil rfl⟩

theorem modify (f : σ → σ) (ho : ∀ s, out (f s) = out s) (h : ∀ s, I s → J (f s)) :
    Emits out G I 1 (Proc.modify f : Proc σ ε Unit) J where
  word := ⟨[], Language.nil_mem_one⟩
  run s hs := ⟨h s hs, [], Language.nil_mem_one, .nil (ho s)⟩

/-- The one rule that puts something out. -/
theorem emit (f : σ → σ) {b : β} (hb : G b) (ho : ∀ s, out (f s) = b :: out s)
    (h : ∀ s, I s → J (f s)) :
    Emits out G I {[b]} (Proc.modify f : Proc σ ε Unit) J where
  word := ⟨[b], rfl⟩
  run s hs := ⟨h s hs, [b], rfl, by simp [ho s], by simpa using hb⟩

theorem gets (f : σ → α) : Emits out G I 1 (Proc.gets f : Proc σ ε α) I where
  word := ⟨[], Language.nil_mem_one⟩
  run _ hs := ⟨hs, [], Language.nil_mem_one, .nil rfl⟩

theorem errorIf (c : Bool) (e : ε) : Emits out G I 1 (Proc.errorIf c e) I := by
  cases c with
  | true => exact throw e ⟨[], Language.nil_mem_one⟩
  | false => exact pure () fun _ h => h

theorem ite {c : Prop} [Decidable c] {p q : Proc σ ε α} (hp : c → Emits out G I L p J)
    (hq : ¬ c → Emits out G I L q J) : Emits out G I L (if c then p else q) J := by
  by_cases h : c
  · rw [if_pos h]; exact hp h
  · rw [if_neg h]; exact hq h

theorem onlyIf {c : Bool} {p : Proc σ ε Unit} (hp : Emits out G I 1 p I) :
    Emits out G I 1 (Proc.onlyIf c p) I := by
  cases c with
  | true => exact hp
  | false => exact pure () fun _ h => h

theorem onError {p : Proc σ ε α} {h : σ → σ} (hp : Emits out G I L p J)
    (ho : ∀ s, out (h s) = out s) :
    Emits out G I L (p.onError h) J where
  word := hp.word
  run s hs := by
    have hr := hp.run s hs
    unfold Proc.onError
    revert hr
    cases p s with
    | mk t r => cases r with
      | ok a => exact id
      | error e =>
        intro hr
        obtain ⟨l, hl, hw⟩ := hr
        exact ⟨l, hl, (ho t).trans hw.out, hw.good⟩

/-- The precondition is that of some `x`, and the word one that goes with it. -/
theorem ofExists {ι : Type} [Nonempty ι] {P : ι → σ → Prop} {N : ι → Language β} {p : Proc σ ε α}
    (h : ∀ x, Emits out G (P x) (N x) p J) :
    Emits out G (fun s => ∃ x, P x s) ({l | ∃ x, l ∈ N x} : Language β) p J where
  word := by
    obtain ⟨x⟩ := ‹Nonempty ι›
    obtain ⟨l, hl⟩ := (h x).word
    exact ⟨l, x, hl⟩
  run s hs := by
    obtain ⟨x, hx⟩ := hs
    have hword : ∀ l ∈ N x, l ∈ ({l | ∃ x, l ∈ N x} : Language β) := fun l hl => ⟨x, hl⟩
    exact ((h x).conseq (fun _ hs => hs) hword fun _ hs => hs).run s hx

/-- On the states of the precondition the two procedures are one. -/
theorem of_eq {p q : Proc σ ε α} (hpq : ∀ s, I s → p s = q s) (h : Emits out G I L q J) :
    Emits out G I L p J where
  word := h.word
  run s hs := by
    rw [hpq s hs]
    exact h.run s hs

/-- A value the precondition knows. -/
theorem gets_known {f : σ → α} {v : α} {k : α → Proc σ ε γ} (hv : ∀ s, I s → f s = v)
    (hk : Emits out G I L (k v) J) : Emits out G I L (Proc.gets f >>= k) J where
  word := hk.word
  run s hs := by
    have hr := hk.run s hs
    rw [bind_apply, gets_apply, hv s hs]
    exact hr

end Emits
end Proc
end Sp11Touch
