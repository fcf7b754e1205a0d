import SkyfireBG.Lib.Graph
import SkyfireBG.Lib.OrdMap

/-!
# SkyfireBG.Lib.Unfold

Recursion through references.

`run n x s` unfolds `x` to the depth `n` in the state `s`; it is `none` where that is not deep
enough.

* `Unfolds.ends`        — where the references have no cycles some depth is enough.
* `OrdMap.wellFounded`   — references between the keys of a map.
* `not_deep_enough`     — where each unfolding needs another one no depth is.
* `foldlM_ne_none`, `foldlM_mono`, `foldlM_invariant`, `foldlM_bounded`, `foldlM_eq_none` — loops that
  unfold at each step.
-/

namespace SkyfireBG

variable {α β σ : Type} {refs : α → List α} {run : Nat → α → σ → Option β} {x : α} {s : σ} {v : β}
variable {m n : Nat}

structure Unfolds (refs : α → List α) (run : Nat → α → σ → Option β) : Prop where
  /-- What is found stays when it is looked for more deeply. -/
  deeper : ∀ {n x s v}, run n x s = some v → run (n + 1) x s = some v
  /-- Only references are unfolded. -/
  step : ∀ {n x}, (∀ y ∈ refs x, ∀ s, run n y s ≠ none) → ∀ s, run (n + 1) x s ≠ none

namespace Unfolds

theorem mono (h : Unfolds refs run) (hle : m ≤ n) (hv : run m x s = some v) :
    run n x s = some v := by
  induction n, hle using Nat.le_induction with
  | base => exact hv
  | succ n _ ih => exact h.deeper ih

theorem enough (h : Unfolds refs run) (hle : m ≤ n) (hne : run m x s ≠ none) :
    run n x s ≠ none := by
  obtain ⟨v, hv⟩ := Option.ne_none_iff_exists'.mp hne
  rw [h.mono hle hv]
  exact Option.some_ne_none v

theorem common (h : Unfolds refs run) (ys : List α)
    (hys : ∀ y ∈ ys, ∃ n, ∀ s, run n y s ≠ none) :
    ∃ n, ∀ y ∈ ys, ∀ s, run n y s ≠ none := by
  induction ys with
  | nil => exact ⟨0, fun y hy => nomatch hy⟩
  | cons y ys ih =>
    obtain ⟨m, hm⟩ := hys y List.mem_cons_self
    obtain ⟨n, hn⟩ := ih fun z hz => hys z (.tail _ hz)
    refine ⟨max m n, fun z hz s => ?_⟩
    rcases List.mem_cons.mp hz with rfl | hz
    · exact h.enough (Nat.le_max_left m n) (hm s)
    · exact h.enough (Nat.le_max_right m n) (hn z hz s)

theorem ends (h : Unfolds refs run) (hwf : WellFounded fun y x => y ∈ refs x) (x : α) :
    ∃ n, ∀ s, run n x s ≠ none := by
  induction x using hwf.induction with
  | h x ih =>
    obtain ⟨n, hn⟩ := h.common _ ih
    exact ⟨n + 1, h.step hn⟩

/-- What is looked up is unfolded, and what is not found is done with. -/
theorem lookup {τ : Type} {find : α → Option τ} {needs : τ → List α} {miss : σ → β}
    {body : Nat → τ → σ → Option β}
    (hrun : ∀ n x s, run n x s = (find x).elim (some (miss s)) fun t => body n t s)
    (hrefs : ∀ x, refs x = (find x).elim [] needs)
    (hdeeper : ∀ {n t s v}, body n t s = some v → body (n + 1) t s = some v)
    (hstep : ∀ {n t}, (∀ y ∈ needs t, ∀ s, run n y s ≠ none) → ∀ s, body (n + 1) t s ≠ none) :
    Unfolds refs run where
  deeper := by
    intro n x s v h
    rw [hrun] at h ⊢
    cases hx : find x with
    | none => rwa [hx] at h
    | some t =>
      rw [hx] at h
      exact hdeeper h
  step := by
    intro n x h s
    rw [hrefs] at h
    rw [hrun]
    cases hx : find x with
    | none => exact Option.some_ne_none _
    | some t =>
      rw [hx] at h
      exact hstep h s

end Unfolds

/-- Where an unfolding of `S` needs another one of `S` it never ends. -/
theorem not_deep_enough {S : α → σ → Prop} (hzero : ∀ x s, S x s → run 0 x s = none)
    (hstep : ∀ n x s, S x s → run (n + 1) x s ≠ none → ∃ y s', S y s' ∧ run n y s' ≠ none)
    (hx : S x s) : run n x s = none := by
  induction n generalizing x s with
  | zero => exact hzero x s hx
  | succ n ih =>
    by_contra hne
    obtain ⟨y, s', hy, hne'⟩ := hstep n x s hx hne
    exact hne' (ih hy)

theorem OrdMap.wellFounded {ν : Type} {m : OrdMap Nat ν} {E : Nat → Nat → Prop} (h : Acyclic E)
    (hkeys : ∀ x y, E x y → (∃ v, m.find? x = some v) ∧ ∃ v, m.find? y = some v) :
    WellFounded fun y x => E x y := by
  have hbound : ∀ x, (∃ v, m.find? x = some v) →
      x < (m.entries.map fun e => e.1).foldr max 0 + 1 := by
    rintro x ⟨v, hv⟩
    have hmem : x ∈ m.entries.map fun e => e.1 :=
      List.mem_map.mpr ⟨(x, v), OrdMap.find?_eq_some.mp hv, rfl⟩
    generalize m.entries.map (fun e => e.1) = keys at hmem
    induction keys with
    | nil => cases hmem
    | cons key keys ih =>
      rw [List.foldr_cons]
      rcases List.mem_cons.mp hmem with rfl | hmem
      · omega
      · have := ih hmem
        omega
  exact h.wellFounded fun x y he => ⟨hbound x (hkeys x y he).1, hbound y (hkeys x y he).2⟩

theorem LinkPath.cycle_next {E : α → α → Prop} {ls : List (α × α)} (h : LinkPath E x ls x)
    (hne : ls ≠ []) : ∃ y, E x y ∧ ∃ ls', LinkPath E y ls' y ∧ ls' ≠ [] := by
  cases h with
  | nil => exact absurd rfl hne
  | @cons _ y _ ls he hpath =>
    exact ⟨y, he, _, hpath.append (.single he), List.append_ne_nil_of_right_ne_nil _
      (List.cons_ne_nil _ _)⟩

section Fold

variable {σ ε : Type} {f g : σ → ε → Option σ} {es : List ε} {s : σ}

theorem foldlM_ne_none (h : ∀ e ∈ es, ∀ s, f s e ≠ none) : es.foldlM f s ≠ none := by
  induction es generalizing s with
  | nil => exact Option.some_ne_none s
  | cons e es ih =>
    obtain ⟨s', hs'⟩ := Option.ne_none_iff_exists'.mp (h e List.mem_cons_self s)
    rw [List.foldlM_cons, hs']
    exact ih fun e he => h e (.tail _ he)

theorem foldlM_mono {s' : σ} (h : ∀ e ∈ es, ∀ s s', f s e = some s' → g s e = some s')
    (hs : es.foldlM f s = some s') : es.foldlM g s = some s' := by
  induction es generalizing s with
  | nil => exact hs
  | cons e es ih =>
    rw [List.foldlM_cons] at hs ⊢
    obtain ⟨t, ht, hrest⟩ := Option.bind_eq_some_iff.mp hs
    rw [h e List.mem_cons_self s t ht]
    exact ih (fun e he => h e (.tail _ he)) hrest

theorem foldlM_invariant {I : σ → Prop} {s' : σ} (hs : es.foldlM f s = some s') (hI : I s)
    (h : ∀ e ∈ es, ∀ s s', I s → f s e = some s' → I s') : I s' := by
  induction es generalizing s with
  | nil =>
    cases hs
    exact hI
  | cons e es ih =>
    rw [List.foldlM_cons] at hs
    obtain ⟨t, ht, hrest⟩ := Option.bind_eq_some_iff.mp hs
    exact ih hrest (h e List.mem_cons_self s t hI ht) fun e he => h e (.tail _ he)

theorem foldlM_bounded {s' : σ} (size : σ → Nat)
    (hgrow : ∀ e ∈ es, ∀ s s', f s e = some s' → size s ≤ size s')
    (h : ∀ e ∈ es, ∀ s s', f s e = some s' → size s' ≤ n → g s e = some s')
    (hs : es.foldlM f s = some s') (hn : size s' ≤ n) : es.foldlM g s = some s' := by
  induction es generalizing s with
  | nil => exact hs
  | cons e es ih =>
    rw [List.foldlM_cons] at hs ⊢
    obtain ⟨t, ht, hrest⟩ := Option.bind_eq_some_iff.mp hs
    have hle : size t ≤ size s' := foldlM_invariant (I := fun u => size t ≤ size u) hrest le_rfl
      fun e he u u' hu hs => hu.trans (hgrow e (.tail _ he) u u' hs)
    rw [h e List.mem_cons_self s t ht (hle.trans hn)]
    exact ih (fun e he => hgrow e (.tail _ he)) (fun e he => h e (.tail _ he)) hrest

theorem foldlM_eq_none {I : σ → Prop} {e : ε} (he : e ∈ es) (hI : I s)
    (h : ∀ e ∈ es, ∀ s s', I s → f s e = some s' → I s') (hnone : ∀ s, I s → f s e = none) :
    es.foldlM f s = none := by
  induction es generalizing s with
  | nil => cases he
  | cons e' es ih =>
    rw [List.foldlM_cons]
    cases hs' : f s e' with
    | none => rfl
    | some s' =>
      rcases List.mem_cons.mp he with rfl | he
      · rw [hnone s hI] at hs'
        cases hs'
      · exact ih he (h e' List.mem_cons_self s s' hI hs') fun e he => h e (.tail _ he)

end Fold

end SkyfireBG
