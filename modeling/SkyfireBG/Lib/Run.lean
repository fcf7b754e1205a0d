import Mathlib.Algebra.Order.Field.Rat
import Mathlib.Order.Lattice.Nat

/-!
# SkyfireBG.Lib.Run

Runs of a deterministic system under a guard.

`Run step ok s es s'` says that the events `es`, each admitted by `ok` in the state where it
happens, lead from `s` to `s'`.

* `Run.invariant` — a property of the start state that every admitted step keeps holds at the end.
* `Run.eq_foldl`  — where a run ends.
-/

namespace SkyfireBG

variable {σ ε : Type}

inductive Run (step : σ → ε → σ) (ok : σ → ε → Prop) : σ → List ε → σ → Prop where
  | nil {s : σ} : Run step ok s [] s
  | cons {s s' : σ} {e : ε} {es : List ε} :
      ok s e → Run step ok (step s e) es s' → Run step ok s (e :: es) s'

namespace Run

variable {step : σ → ε → σ} {ok ok' : σ → ε → Prop} {s s' s'' : σ} {e : ε} {es es' : List ε}

theorem invariant {I : σ → Prop} (hstep : ∀ s e, I s → ok s e → I (step s e))
    (h : Run step ok s es s') (hs : I s) : I s' := by
  induction h with
  | nil => exact hs
  | cons he _ ih => exact ih (hstep _ _ hs he)

theorem split (h : Run step ok s (es ++ es') s'') :
    ∃ s', Run step ok s es s' ∧ Run step ok s' es' s'' := by
  induction es generalizing s with
  | nil => exact ⟨s, .nil, h⟩
  | cons e es ih =>
    cases h with
    | cons he hr =>
      obtain ⟨s', h₁, h₂⟩ := ih hr
      exact ⟨s', .cons he h₁, h₂⟩

theorem last (h : Run step ok s (es ++ [e]) s'') :
    ∃ s', Run step ok s es s' ∧ ok s' e ∧ s'' = step s' e := by
  obtain ⟨s', h₁, h₂⟩ := h.split
  cases h₂ with
  | cons he hr => cases hr with
    | nil => exact ⟨s', h₁, he, rfl⟩

theorem eq_foldl (h : Run step ok s es s') : s' = es.foldl step s := by
  induction h with
  | nil => rfl
  | cons _ _ ih => exact ih

end Run

def Admitted (step : σ → ε → σ) (ok : σ → ε → Prop) : σ → List ε → Prop
  | _, [] => True
  | s, e :: es => ok s e ∧ Admitted step ok (step s e) es

instance Admitted.decidable {step : σ → ε → σ} {ok : σ → ε → Prop}
    [∀ s e, Decidable (ok s e)] : ∀ s es, Decidable (Admitted step ok s es)
  | _, [] => .isTrue trivial
  | s, e :: es => @instDecidableAnd _ _ _ (Admitted.decidable (step s e) es)

theorem Admitted.run {step : σ → ε → σ} {ok : σ → ε → Prop} {s : σ} {es : List ε}
    (h : Admitted step ok s es) : Run step ok s es (es.foldl step s) := by
  induction es generalizing s with
  | nil => exact .nil
  | cons e es ih => exact .cons h.1 (ih h.2)

theorem Admitted.and {step : σ → ε → σ} {ok ok' : σ → ε → Prop} {s : σ} {es : List ε}
    (h : Admitted step ok s es) (h' : Admitted step ok' s es) :
    Admitted step (fun s e => ok s e ∧ ok' s e) s es := by
  induction es generalizing s with
  | nil => trivial
  | cons e es ih => exact ⟨⟨h.1, h'.1⟩, ih h.2 h'.2⟩

theorem Run.free {step : σ → ε → σ} {s : σ} (es : List ε) :
    Run step (fun _ _ => True) s es (es.foldl step s) := by
  induction es generalizing s with
  | nil => exact .nil
  | cons e es ih => exact .cons trivial ih

end SkyfireBG
