import Mathlib.Algebra.Order.Field.Rat
import Mathlib.Order.Lattice.Nat

/-!
# SkyfireBG.Lib.Triple

Pre- and postconditions of programs with a state that may fail, under a watch: the state records
whether everything so far was done under the conditions asked for, and nothing is promised once it
was not.

* `Triple.bind`, `Triple.get_bind`, `Triple.modify`, `Triple.throw` — what programs are made of.
* `Triple.forM` — an invariant of the rounds is one of the loop.
* `Spec`        — what a program does, as a relation of the states before and after it;
  `Spec.use` and `Spec.seq` are how its callers rely on it.
-/

namespace SkyfireBG

variable {ε σ α β : Type}

/-- The states in which the conditions were met so far, and the errors that are excluded. -/
structure Watch (ε σ : Type) where
  met : σ → Prop
  bad : ε → Prop

/-- `Q` holds after `p` and no excluded error comes, if the conditions were met to the end. -/
def Watch.After (W : Watch ε σ) (s : σ) (Q : α → σ → Prop) : EStateM.Result ε σ α → Prop
  | .ok a s' => W.met s' → W.met s ∧ Q a s'
  | .error e s' => W.met s' → W.met s ∧ ¬W.bad e

def Triple (W : Watch ε σ) (P : σ → Prop) (p : EStateM ε σ α) (Q : α → σ → Prop) : Prop :=
  ∀ s, (W.met s → P s) → W.After s Q (p s)

namespace Triple

variable {W : Watch ε σ} {P P' : σ → Prop} {p : EStateM ε σ α} {Q Q' : α → σ → Prop}
  {f : α → EStateM ε σ β} {R : β → σ → Prop}

theorem conseq (h : Triple W P p Q) (hpre : ∀ s, P' s → P s) (hpost : ∀ a s, Q a s → Q' a s) :
    Triple W P' p Q' := by
  intro s hs
  have hr := h s fun hm => hpre s (hs hm)
  cases hp : p s with
  | ok a s' =>
    rw [hp] at hr
    exact fun hm => ⟨(hr hm).1, hpost a s' (hr hm).2⟩
  | error e s' =>
    rw [hp] at hr
    exact hr

theorem pre (h : Triple W P p Q) (hpre : ∀ s, P' s → P s) : Triple W P' p Q :=
  h.conseq hpre fun _ _ hq => hq

theorem pure {a : α} (h : ∀ s, P s → Q a s) : Triple W P (pure a) Q :=
  fun s hs hm => ⟨hm, h s (hs hm)⟩

theorem throw {e : ε} (h : ∀ s, P s → ¬W.bad e) : Triple W P (throw e : EStateM ε σ α) Q :=
  fun s hs hm => ⟨hm, h s (hs hm)⟩

theorem bind (hp : Triple W P p Q) (hf : ∀ a, Triple W (Q a) (f a) R) : Triple W P (p >>= f) R := by
  intro s hs
  have hr := hp s hs
  show W.After s R (EStateM.bind p f s)
  rw [EStateM.bind]
  cases hps : p s with
  | ok a s' =>
    rw [hps] at hr
    have hr' := hf a s' fun hm => (hr hm).2
    show W.After s R (f a s')
    cases hfs : f a s' with
    | ok b s'' =>
      rw [hfs] at hr'
      exact fun hm => ⟨(hr (hr' hm).1).1, (hr' hm).2⟩
    | error e s'' =>
      rw [hfs] at hr'
      exact fun hm => ⟨(hr (hr' hm).1).1, (hr' hm).2⟩
  | error e s' =>
    rw [hps] at hr
    exact hr

theorem get_bind {f : σ → EStateM ε σ β} (h : ∀ s₀, Triple W (fun s => s = s₀ ∧ P s) (f s₀) R) :
    Triple W P (get >>= f) R :=
  fun s hs => h s s fun hm => ⟨rfl, hs hm⟩

theorem modify {g : σ → σ} {Q : PUnit → σ → Prop} (hmet : ∀ s, W.met (g s) → W.met s)
    (h : ∀ s, P s → W.met (g s) → Q ⟨⟩ (g s)) : Triple W P (modify g) Q :=
  fun s hs hm => ⟨hmet s hm, h s (hs (hmet s hm)) hm⟩

theorem forM {l : List α} {f : α → EStateM ε σ PUnit} {I : σ → Prop}
    (h : ∀ a ∈ l, Triple W I (f a) fun _ => I) : Triple W I (l.forM f) fun _ => I := by
  induction l with
  | nil => exact Triple.pure fun s hs => hs
  | cons a l ih =>
    exact Triple.bind (h a List.mem_cons_self) fun _ => ih fun b hb => h b (List.mem_cons_of_mem a hb)

end Triple

/-- From a state with `P` the program leads to one that `Q` relates to it. -/
def Spec (W : Watch ε σ) (P : σ → Prop) (p : EStateM ε σ α) (Q : σ → α → σ → Prop) : Prop :=
  ∀ s₀, Triple W (fun s => s = s₀ ∧ P s) p (Q s₀)

namespace Spec

variable {W : Watch ε σ} {P A : σ → Prop} {p : EStateM ε σ α} {Q : σ → α → σ → Prop}
  {B : α → σ → Prop} {f : α → EStateM ε σ β} {R : β → σ → Prop}

theorem use (h : Spec W P p Q) (hpre : ∀ s, A s → P s) (hpost : ∀ s a s', A s → Q s a s' → B a s') :
    Triple W A p B := by
  intro s hs
  have hr := h s s fun hm => ⟨rfl, hpre s (hs hm)⟩
  cases hp : p s with
  | ok a s' =>
    rw [hp] at hr
    exact fun hm => ⟨(hr hm).1, hpost s a s' (hs (hr hm).1) (hr hm).2⟩
  | error e s' =>
    rw [hp] at hr
    exact hr

theorem seq (h : Spec W P p Q) (hpre : ∀ s, A s → P s)
    (hf : ∀ a, Triple W (fun s' => ∃ s, A s ∧ Q s a s') (f a) R) : Triple W A (p >>= f) R :=
  .bind (h.use hpre fun s _ _ ha hq => ⟨s, ha, hq⟩) hf

end Spec

end SkyfireBG
