import Mathlib.Algebra.BigOperators.Ring.Finset
import Mathlib.Algebra.Order.Field.Rat
import Mathlib.Order.Lattice.Nat

/-!
# SkyfireBG.Lib.Storage

Objects kept in places: each place holds at most one object.

`Single` says that no object is in two places.  `amount` is the weight of all objects kept, whatever
the places; a change of one place changes it by the weight of one object, and `amount_eq_sum` gives
it back as a sum over positions.
-/

namespace SkyfireBG

namespace Storage

variable {P G I : Type*} {held : P → Option G} {p q : P} {g h : G}

def Single (held : P → Option G) : Prop :=
  ∀ p q g, held p = some g → held q = some g → p = q

def Absent (held : P → Option G) (g : G) : Prop := ∀ p, held p ≠ some g

theorem Absent.ne (ha : Absent held g) (hp : held p = some h) : h ≠ g := by
  rintro rfl
  exact ha p hp

section Update

variable [DecidableEq P]

theorem Single.put (hs : Single held) (ha : Absent held g) :
    Single (Function.update held p (some g)) := by
  intro a b x hx hy
  by_cases hap : a = p <;> by_cases hbp : b = p
  · rw [hap, hbp]
  · subst hap
    rw [Function.update_self] at hx
    rw [Function.update_of_ne hbp] at hy
    cases hx
    exact absurd hy (ha b)
  · subst hbp
    rw [Function.update_self] at hy
    rw [Function.update_of_ne hap] at hx
    cases hy
    exact absurd hx (ha a)
  · rw [Function.update_of_ne hap] at hx
    rw [Function.update_of_ne hbp] at hy
    exact hs a b x hx hy

theorem held_of_clear (hx : Function.update held p none q = some g) : q ≠ p ∧ held q = some g := by
  by_cases hq : q = p
  · subst hq
    rw [Function.update_self] at hx
    cases hx
  · rw [Function.update_of_ne hq] at hx
    exact ⟨hq, hx⟩

theorem Single.clear (hs : Single held) : Single (Function.update held p none) := by
  intro a b x hx hy
  exact hs a b x (held_of_clear hx).2 (held_of_clear hy).2

theorem Single.absent_clear (hs : Single held) (hp : held p = some g) :
    Absent (Function.update held p none) g := by
  intro q hq
  obtain ⟨hne, hq⟩ := held_of_clear hq
  exact hne (hs q p g hq hp)

theorem Absent.clear (ha : Absent held g) : Absent (Function.update held p none) g := by
  intro q hq
  exact ha q (held_of_clear hq).2

theorem Absent.put (ha : Absent held g) (hne : h ≠ g) :
    Absent (Function.update held p (some h)) g := by
  intro q hq
  by_cases hqp : q = p
  · subst hqp
    rw [Function.update_self] at hq
    cases hq
    exact hne rfl
  · rw [Function.update_of_ne hqp] at hq
    exact ha q hq

end Update

open Classical in
/-- The objects of `U` that are in some place. -/
noncomputable def stock (U : Finset G) (held : P → Option G) : Finset G :=
  U.filter (fun g => ∃ p, held p = some g)

/-- The weight of the objects of `U` that are in some place. -/
noncomputable def amount (U : Finset G) (held : P → Option G) (w : G → Nat) : Nat :=
  ∑ g ∈ stock U held, w g

variable {U : Finset G} {w w' : G → Nat}

@[simp] theorem mem_stock : g ∈ stock U held ↔ g ∈ U ∧ ∃ p, held p = some g := by
  simp [stock]

theorem amount_congr (hw : ∀ p g, held p = some g → w g = w' g) :
    amount U held w = amount U held w' := by
  refine Finset.sum_congr rfl (fun g hg => ?_)
  obtain ⟨_, p, hp⟩ := mem_stock.mp hg
  exact hw p g hp

theorem amount_put [DecidableEq P] (hg : g ∈ U) (ha : Absent held g) (hp : held p = none) :
    amount U (Function.update held p (some g)) w = amount U held w + w g := by
  classical
  have hstock : stock U (Function.update held p (some g)) = insert g (stock U held) := by
    ext x
    simp only [mem_stock, Finset.mem_insert]
    constructor
    · rintro ⟨hx, q, hq⟩
      by_cases hqp : q = p
      · subst hqp
        rw [Function.update_self] at hq
        exact .inl (Option.some.inj hq).symm
      · rw [Function.update_of_ne hqp] at hq
        exact .inr ⟨hx, q, hq⟩
    · rintro (rfl | ⟨hx, q, hq⟩)
      · exact ⟨hg, p, Function.update_self ..⟩
      · refine ⟨hx, q, ?_⟩
        rw [Function.update_of_ne]
        · exact hq
        · rintro rfl
          rw [hp] at hq
          cases hq
  have hnot : g ∉ stock U held := by
    rintro hin
    obtain ⟨_, q, hq⟩ := mem_stock.mp hin
    exact ha q hq
  rw [amount, hstock, Finset.sum_insert hnot, Nat.add_comm]
  rfl

theorem amount_clear [DecidableEq P] (hs : Single held) (hg : g ∈ U) (hp : held p = some g) :
    amount U (Function.update held p none) w + w g = amount U held w := by
  have hput := amount_put (w := w) (p := p) hg (hs.absent_clear hp) (Function.update_self ..)
  rw [Function.update_idem, ← hp, Function.update_eq_self] at hput
  exact hput.symm

theorem amount_reweigh [DecidableEq P] (hs : Single held) (hg : g ∈ U) (hp : held p = some g)
    (hw : ∀ h, h ≠ g → w' h = w h) : amount U held w' + w g = amount U held w + w' g := by
  have hold := amount_clear (w := w) hs hg hp
  have hnew := amount_clear (w := w') hs hg hp
  have hrest : amount U (Function.update held p none) w' =
      amount U (Function.update held p none) w :=
    amount_congr (fun q h hq => hw h ((hs.absent_clear hp).ne hq))
  omega

theorem amount_eq_sum [DecidableEq G] {S : Finset I} {view : I → Option G}
    (hone : ∀ i ∈ S, ∀ j ∈ S, ∀ g, view i = some g → view j = some g → i = j)
    (hshown : ∀ i ∈ S, ∀ g, view i = some g → g ∈ stock U held)
    (hall : ∀ g ∈ stock U held, ∃ i ∈ S, view i = some g) :
    ∑ i ∈ S, (view i).elim 0 w = amount U held w := by
  have hunion : stock U held = S.biUnion (fun i => (view i).toFinset) := by
    ext g
    simp only [Finset.mem_biUnion, Option.mem_toFinset, Option.mem_def]
    constructor
    · exact hall g
    · rintro ⟨i, hi, hg⟩
      exact hshown i hi g hg
  rw [amount, hunion, Finset.sum_biUnion]
  · refine Finset.sum_congr rfl (fun i _ => ?_)
    cases view i <;> simp
  · intro i hi j hj hij
    refine Finset.disjoint_left.mpr (fun g hgi hgj => hij ?_)
    exact hone i hi j hj g (Option.mem_toFinset.mp hgi) (Option.mem_toFinset.mp hgj)

end Storage

end SkyfireBG
