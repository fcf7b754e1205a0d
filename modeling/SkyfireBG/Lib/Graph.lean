import Mathlib.Algebra.Order.Field.Rat
import Mathlib.Data.Fintype.Order
import Mathlib.Order.Lattice.Nat

/-!
# SkyfireBG.Lib.Graph

Paths of a relation with the links they take, relations without cycles, and induction along them.
-/

namespace SkyfireBG

variable {α : Type} {E E' C : α → α → Prop} {x y z : α} {ls ls' : List (α × α)}

/-- The links `ls` lead from `x` to `y`. -/
inductive LinkPath (E : α → α → Prop) : α → List (α × α) → α → Prop where
  | nil {x : α} : LinkPath E x [] x
  | cons {x y z : α} {ls : List (α × α)} :
      E x y → LinkPath E y ls z → LinkPath E x ((x, y) :: ls) z

def Acyclic (E : α → α → Prop) : Prop := ∀ x ls, LinkPath E x ls x → ls = []

theorem LinkPath.append (h : LinkPath E x ls y) (h' : LinkPath E y ls' z) :
    LinkPath E x (ls ++ ls') z := by
  induction h with
  | nil => exact h'
  | cons he _ ih => exact .cons he (ih h')

theorem LinkPath.single (h : E x y) : LinkPath E x [(x, y)] y := .cons h .nil

theorem LinkPath.mono (h : LinkPath E x ls y) (hE : ∀ l ∈ ls, E l.1 l.2 → E' l.1 l.2) :
    LinkPath E' x ls y := by
  induction h with
  | nil => exact .nil
  | @cons x y z ls he _ ih =>
    exact .cons (hE (x, y) List.mem_cons_self he) (ih fun l hl => hE l (List.mem_cons_of_mem _ hl))

theorem LinkPath.mem (h : LinkPath E x ls y) : ∀ l ∈ ls, E l.1 l.2 := by
  induction h with
  | nil => exact fun _ hl => by cases hl
  | cons he _ ih =>
    intro l hl
    rcases List.mem_cons.mp hl with rfl | hl
    · exact he
    · exact ih l hl

theorem acyclic_cut (h : ∀ x y, E' x y ↔ E x y ∧ ¬ C x y) :
    Acyclic E' ↔ ∀ x ls, LinkPath E x ls x → ls ≠ [] → ∃ l ∈ ls, C l.1 l.2 := by
  constructor
  · intro hacyclic x ls hpath hne
    by_contra hnone
    refine hne (hacyclic x ls (hpath.mono fun l hl he => (h l.1 l.2).mpr ⟨he, fun hc => ?_⟩))
    exact hnone ⟨l, hl, hc⟩
  · intro hcut x ls hpath
    by_contra hne
    obtain ⟨l, hl, hc⟩ := hcut x ls (hpath.mono fun l _ he => ((h l.1 l.2).mp he).1) hne
    exact ((h l.1 l.2).mp (hpath.mem l hl)).2 hc

theorem LinkPath.of_transGen (h : Relation.TransGen E x y) : ∃ ls, ls ≠ [] ∧ LinkPath E x ls y := by
  induction h with
  | single he => exact ⟨_, List.cons_ne_nil _ _, .single he⟩
  | tail _ he ih =>
    obtain ⟨ls, hne, hpath⟩ := ih
    exact ⟨_, List.append_ne_nil_of_left_ne_nil hne _, hpath.append (.single he)⟩

theorem Acyclic.wellFounded {E : Nat → Nat → Prop} {n : Nat} (h : Acyclic E)
    (hlt : ∀ x y, E x y → x < n ∧ y < n) : WellFounded fun y x => E x y := by
  have hirrefl : ∀ x, ¬ Relation.TransGen E x x := fun x hx => by
    obtain ⟨ls, hne, hpath⟩ := LinkPath.of_transGen hx
    exact hne (h x ls hpath)
  let r : Fin n → Fin n → Prop := fun y x => Relation.TransGen E x y
  have : IsTrans (Fin n) r := ⟨fun a b c hab hbc => Relation.TransGen.trans hbc hab⟩
  have : Std.Irrefl r := ⟨fun a => hirrefl a⟩
  have hwf : WellFounded r := Finite.wellFounded_of_trans_of_irrefl r
  have hacc : ∀ x : Fin n, Acc (fun y x => E x y) x.val := by
    intro x
    induction x using hwf.induction with
    | h x ih =>
      refine ⟨_, fun y he => ?_⟩
      exact ih ⟨y, (hlt x y he).2⟩ (Relation.TransGen.single he)
  refine ⟨fun x => ⟨_, fun y he => ?_⟩⟩
  exact hacc ⟨y, (hlt x y he).2⟩

end SkyfireBG
