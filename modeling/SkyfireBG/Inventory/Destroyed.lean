import SkyfireBG.Inventory.Cleared

/-!
# SkyfireBG.Inventory.Destroyed

When `DestroyItemCount` takes exactly what is due.

* `Payable`          — the condition on the inventory.
* `carried_loop`     — the loops over what the player carries.
* `bank_loop`        — the loops over the bank, where no stack is split.
* `destroys_exactly` — `HasItemCount` and `DestroyItemCount` together.
-/

namespace SkyfireBG

/-- A loop that takes each stack that still fits comes to exactly `count`, and no sum wraps. -/
def Fills (count : Nat) : Nat → List Nat → Prop
  | rem, [] => rem = count
  | rem, n :: ns => rem = count ∨ (rem + n ≤ count ∧ Fills count (rem + n) ns) ∨
      (count < rem + n ∧ rem + n < 2 ^ 32 ∧ Fills count rem ns)

namespace Holdings

variable {P : Type}

/-- The loops come to a stack while fewer than `count` units are gone. -/
structure Due (w : Holdings P) (p : P) (entry count : Nat) (before : List Pos) (pos : Pos)
    (g : Nat) : Prop where
  next : ∃ l, carriedPositions = before ++ pos :: l
  pays : w.paysWith p entry pos = some g
  lt : w.units p entry before < count

/-- A stack that is due can be taken as it should: the sum does not wrap, and a bag that has to go
holds nothing else. -/
def Fair (w : Holdings P) (p : P) (entry count : Nat) (before : List Pos) (pos : Pos) (g : Nat) :
    Prop :=
  w.units p entry before + (w.item g).count < 2 ^ 32 ∧
    (w.units p entry before + (w.item g).count ≤ count → w.PaysWhole p entry pos)

/-- The condition for `DestroyItemCount` to take exactly what is due. -/
structure Payable (w : Holdings P) (p : P) (entry count : Nat) : Prop where
  carried : ∀ before pos g, w.Due p entry count before pos g → w.Fair p entry count before pos g
  bank : w.units p entry carriedPositions < count → w.units p entry payPositions ≤ count ∨
    Fills count (w.units p entry carriedPositions) (bankPositions.map (w.paying p entry))

variable {e : ItemStores} {w w' w'' : Holdings P} {p : P} {pos pos' : Pos} {g h : Nat}
  {entry count k n : Nat} {gone l : List Pos}

variable [DecidableEq P]

variable {bank : Bool} {s : Destruction P}

theorem destroyAt_none (hnone : w'.paysWith p entry pos = none) :
    destroyAt p entry count bank { holdings := w', remcount := k } pos =
      { holdings := w', remcount := k } := by
  simp [destroyAt, hnone]

theorem destroyAt_fits (hpays : w'.paysWith p entry pos = some g)
    (hfits : uint32 ((w'.item g).count + k) ≤ count) :
    destroyAt p entry count bank { holdings := w', remcount := k } pos =
      { holdings := w'.destroyItem p pos, remcount := uint32 (k + (w'.item g).count)
        done := decide (count ≤ uint32 (k + (w'.item g).count)) } := by
  simp [destroyAt, hpays, hfits]

theorem destroyAt_split (hpays : w'.paysWith p entry pos = some g)
    (hover : count < uint32 ((w'.item g).count + k)) :
    destroyAt p entry count false { holdings := w', remcount := k } pos =
      { holdings := w'.setCount g (uint32 ((w'.item g).count + k - count)), remcount := k
        done := true } := by
  simp [destroyAt, hpays, Nat.not_le.mpr hover]

theorem destroyAt_skip (hpays : w'.paysWith p entry pos = some g)
    (hover : count < uint32 ((w'.item g).count + k)) :
    destroyAt p entry count true { holdings := w', remcount := k } pos =
      { holdings := w', remcount := k } := by
  simp [destroyAt, hpays, Nat.not_le.mpr hover]

theorem destroyAt_shrunk (hrem : s.remcount ≤ count) :
    Shrunk s.holdings (destroyAt p entry count bank s pos).holdings p ∧
      (destroyAt p entry count bank s pos).remcount ≤ count := by
  unfold destroyAt
  by_cases hdone : s.done
  · rw [if_pos hdone]
    exact ⟨.refl, hrem⟩
  rw [if_neg hdone]
  cases hpays : s.holdings.paysWith p entry pos with
  | none => exact ⟨.refl, hrem⟩
  | some g =>
    dsimp only
    split_ifs with hfits hbank
    · exact ⟨shrunk_destroyItem, by rwa [Nat.add_comm]⟩
    · exact ⟨.refl, hrem⟩
    · refine ⟨shrunk_setCount (Nat.le_trans (Nat.mod_le _ _) ?_), hrem⟩
      omega

theorem violated_foldl (h : Violated w s.holdings p entry count) (hrem : s.remcount ≤ count) :
    Violated w (l.foldl (destroyAt p entry count bank) s).holdings p entry count ∧
      (l.foldl (destroyAt p entry count bank) s).remcount ≤ count := by
  induction l generalizing s with
  | nil => exact ⟨h, hrem⟩
  | cons pos l ih =>
    have hstep : Shrunk s.holdings (destroyAt p entry count bank s pos).holdings p ∧
        (destroyAt p entry count bank s pos).remcount ≤ count := destroyAt_shrunk hrem
    obtain ⟨hshrunk, hrem'⟩ := hstep
    exact ih (h.later hshrunk) hrem'

def Clean (w : Holdings P) (p : P) (entry count : Nat) (gone : List Pos) : Prop :=
  ∀ before pos g, gone <+: before → w.Due p entry count before pos g →
    w.Fair p entry count before pos g

/-- How the loops over what is carried end: with all that is due, or with all that is carried. -/
inductive CarriedEnd (e : ItemStores) (w : Holdings P) (p : P) (entry count : Nat)
    (s : Destruction P) : Prop where
  | taken : s.done = true → Took w s.holdings p entry count →
      count ≤ w.units p entry carriedPositions → CarriedEnd e w p entry count s
  | short : s.done = false → s.remcount = w.units p entry carriedPositions →
      w.units p entry carriedPositions < count →
      Cleared e w s.holdings p entry carriedPositions → CarriedEnd e w p entry count s

omit [DecidableEq P] in
theorem carried_facts (h : carriedPositions = gone ++ pos :: l) : gone.Nodup ∧
    gone ⊆ payPositions ∧ pos ∈ payPositions ∧ pos ∉ gone ∧
      (isBagPos pos = true → pos ∈ wornBagPositions) ∧
      (pos ∈ wornBagPositions → loosePositions ⊆ gone) := by
  have hnodup : (gone ++ pos :: l).Nodup := h ▸ (List.nodup_append.mp payPositions_nodup).1
  have hsub : gone ++ pos :: l ⊆ payPositions := h ▸ List.subset_append_left _ _
  have hmem : pos ∈ carriedPositions := by
    rw [h]
    exact List.mem_append_right _ (.head _)
  obtain ⟨hgone, -, hapart⟩ := List.nodup_append.mp hnodup
  refine ⟨hgone, fun x hx => hsub (List.mem_append_left _ hx),
    hsub (List.mem_append_right _ (.head _)), fun hin => hapart pos hin pos (.head _) rfl,
    fun hbag => ?_, fun hworn => ?_⟩
  · rcases List.mem_append.mp hmem with hloose | hworn
    · rw [loosePositions_plain hloose] at hbag
      cases hbag
    · exact hworn
  · rcases List.append_eq_append_iff.mp (show loosePositions ++ wornBagPositions = _ from h) with
      ⟨m, hm, -⟩ | ⟨m, hm, hrest⟩
    · exact hm ▸ List.subset_append_left _ _
    · cases m with
      | nil => exact hm ▸ by simp
      | cons x m =>
        obtain ⟨rfl, -⟩ := List.cons.inj hrest
        have hloose : pos ∈ loosePositions := hm ▸ List.mem_append_right _ (.head _)
        rw [mem_loosePositions] at hloose
        rw [mem_wornBagPositions] at hworn
        omega

omit [DecidableEq P] in
theorem units_prefix {before : List Pos} (h : gone <+: before) :
    w.units p entry gone ≤ w.units p entry before := by
  obtain ⟨m, rfl⟩ := h
  rw [units_append]
  exact Nat.le_add_right _ _

omit [DecidableEq P] in
theorem clean_of_le (h : count ≤ w.units p entry gone) : w.Clean p entry count gone := by
  intro before pos g hpre hdue
  have hunits : w.units p entry gone ≤ w.units p entry before := units_prefix hpre
  have := hdue.lt
  omega

omit [DecidableEq P] in
theorem clean_all : w.Clean p entry count carriedPositions := by
  intro before pos g hpre hdue
  obtain ⟨l, hl⟩ := hdue.next
  have hlength := congrArg List.length hl
  have hle := hpre.length_le
  rw [List.length_append, List.length_cons] at hlength
  omega

omit [DecidableEq P] in
theorem clean_cons (hl : carriedPositions = gone ++ pos :: l)
    (hlt : w.units p entry gone < count) : w.Clean p entry count gone ↔
      (∀ g, w.paysWith p entry pos = some g → w.Fair p entry count gone pos g) ∧
        w.Clean p entry count (gone ++ [pos]) := by
  constructor
  · intro h
    refine ⟨fun g hpays => h gone pos g (List.prefix_refl _) ⟨⟨l, hl⟩, hpays, hlt⟩, ?_⟩
    intro before pos' g hpre hdue
    exact h before pos' g ((List.prefix_append _ _).trans hpre) hdue
  · rintro ⟨hfirst, hrest⟩ before pos' g ⟨m, rfl⟩ hdue
    obtain ⟨l', hl'⟩ := hdue.next
    rw [hl, List.append_assoc, List.append_cancel_left_eq] at hl'
    cases m with
    | nil =>
      obtain ⟨rfl, -⟩ := List.cons.inj hl'
      rw [List.append_nil]
      exact hfirst g hdue.pays
    | cons x m =>
      obtain ⟨rfl, -⟩ := List.cons.inj hl'
      exact hrest _ pos' g ⟨m, by simp⟩ hdue

inductive CarriedStep (e : ItemStores) (w : Holdings P) (p : P) (entry count : Nat)
    (gone : List Pos) (pos : Pos) (g : Nat) : Destruction P → Prop where
  | last {s : Destruction P} : w.Fair p entry count gone pos g →
      count ≤ w.units p entry gone + (w.item g).count → s.done = true →
      Took w s.holdings p entry count → CarriedStep e w p entry count gone pos g s
  | more {w' : Holdings P} : w.Fair p entry count gone pos g →
      w.units p entry gone + (w.item g).count < count →
      Cleared e w w' p entry (gone ++ [pos]) → CarriedStep e w p entry count gone pos g
        { holdings := w', remcount := w.units p entry gone + (w.item g).count }
  | foul {s : Destruction P} : ¬w.Fair p entry count gone pos g →
      Violated w s.holdings p entry count → s.remcount ≤ count →
      CarriedStep e w p entry count gone pos g s

theorem Cleared.destroyAt_whole (h : Cleared e w w' p entry gone) (hpos : pos ∈ payPositions)
    (hnot : pos ∉ gone) (hpays : w.paysWith p entry pos = some g) (hcount : count < 2 ^ 32)
    (hfits : w.units p entry gone + (w.item g).count ≤ count) :
    destroyAt p entry count bank { holdings := w', remcount := w.units p entry gone } pos =
      { holdings := w'.destroyItem p pos, remcount := w.units p entry gone + (w.item g).count
        done := decide (count ≤ w.units p entry gone + (w.item g).count) } := by
  have hpays' := (h.paysWith hpos hnot).trans hpays
  have hsum : uint32 (w.units p entry gone + (w'.item g).count) =
      w.units p entry gone + (w.item g).count := by
    rw [h.item]
    exact Nat.mod_eq_of_lt (by omega)
  rw [destroyAt_fits hpays' (by rw [Nat.add_comm, hsum]; exact hfits), hsum]

theorem Cleared.destroyAt_wrap (h : Cleared e w w' p entry gone) (hgone : gone.Nodup)
    (hsub : gone ⊆ payPositions) (hpos : pos ∈ payPositions) (hnot : pos ∉ gone)
    (hpays : w.paysWith p entry pos = some g) (hcount : count < 2 ^ 32)
    (hlt : w.units p entry gone < count) (hg : (w.item g).count < 2 ^ 32)
    (hwrap : 2 ^ 32 ≤ w.units p entry gone + (w.item g).count) :
    Violated w (destroyAt p entry count bank
        { holdings := w', remcount := w.units p entry gone } pos).holdings p entry count ∧
      (destroyAt p entry count bank
        { holdings := w', remcount := w.units p entry gone } pos).remcount ≤ count := by
  have hpays' := (h.paysWith hpos hnot).trans hpays
  have hsum : uint32 ((w'.item g).count + w.units p entry gone) ≤ count := by
    rw [h.item, uint32]
    omega
  rw [destroyAt_fits hpays' hsum]
  exact ⟨h.violated_wrap hgone hsub hpos hnot hpays (by omega), by rwa [Nat.add_comm]⟩

theorem carried_step (hcount : count < 2 ^ 32) (hl : carriedPositions = gone ++ pos :: l)
    (h : Cleared e w w' p entry gone) (hlt : w.units p entry gone < count)
    (hpays : w.paysWith p entry pos = some g) (hg : (w.item g).count < 2 ^ 32) :
    CarriedStep e w p entry count gone pos g (destroyAt p entry count false
      { holdings := w', remcount := w.units p entry gone } pos) := by
  obtain ⟨hgone, hsub, hpos, hnot, hworn, hloose⟩ := carried_facts hl
  have hpays' := (h.paysWith hpos hnot).trans hpays
  have hn : (w'.item g).count = (w.item g).count := by rw [h.item]
  by_cases hwrap : w.units p entry gone + (w.item g).count < 2 ^ 32
  · have hsum : uint32 ((w'.item g).count + w.units p entry gone) =
        (w.item g).count + w.units p entry gone := by
      rw [hn]
      exact Nat.mod_eq_of_lt (by omega)
    by_cases hfits : w.units p entry gone + (w.item g).count ≤ count
    · rw [h.destroyAt_whole hpos hnot hpays hcount hfits]
      by_cases hwhole : w.PaysWhole p entry pos
      · have hstep : Cleared e w (w'.destroyItem p pos) p entry (gone ++ [pos]) :=
          h.step hpos hnot hpays fun hbag => h.empty_bag (hloose (hworn hbag)) (hworn hbag) hnot
            (paysWith_view hpays).1 hwhole
        by_cases hdone : count ≤ w.units p entry gone + (w.item g).count
        · refine .last ⟨hwrap, fun _ => hwhole⟩ hdone (decide_eq_true hdone) ?_
          have htook := hstep.took
            (List.nodup_append.mpr ⟨hgone, List.nodup_singleton _, fun a ha b hb hab =>
              hnot (List.mem_singleton.mp hb ▸ hab ▸ ha)⟩)
            (List.append_subset.mpr ⟨hsub, fun x hx => List.mem_singleton.mp hx ▸ hpos⟩)
          rw [units_append, units_singleton, paying_some hpays] at htook
          exact (Nat.le_antisymm hfits hdone) ▸ htook
        · rw [decide_eq_false hdone]
          exact .more ⟨hwrap, fun _ => hwhole⟩ (Nat.lt_of_not_le hdone) hstep
      · refine .foul (fun hfair => hwhole (hfair.2 hfits)) ?_ hfits
        have hbag : pos ∈ wornBagPositions := by
          by_contra hno
          exact hwhole fun hyes => absurd hyes hno
        exact h.violated_bag hbag hpos hnot hpays hwhole
    · rw [destroyAt_split hpays' (by omega)]
      refine .last ⟨hwrap, fun hle => absurd hle hfits⟩ (by omega) rfl ?_
      have htook := h.took_split (k := count - w.units p entry gone) hgone hsub hpos hnot hpays
        (by omega)
      have hleft : uint32 ((w'.item g).count + w.units p entry gone - count) =
          (w.item g).count - (count - w.units p entry gone) := by
        rw [hn, uint32, Nat.mod_eq_of_lt (by omega)]
        omega
      rw [Nat.add_sub_cancel' hlt.le] at htook
      rw [hleft]
      exact htook
  · obtain ⟨hviolated, hrem⟩ := h.destroyAt_wrap hgone hsub hpos hnot hpays hcount hlt hg
      (Nat.not_lt.mp hwrap)
    exact .foul (fun hfair => hwrap hfair.1) hviolated hrem

theorem carried_loop (hcount : count < 2 ^ 32)
    (hitems : ∀ pos g, w.view p pos = some g → (w.item g).count < 2 ^ 32)
    (hl : carriedPositions = gone ++ l) (h : Cleared e w w' p entry gone)
    (hlt : w.units p entry gone < count) :
    let s := l.foldl (destroyAt p entry count false)
      { holdings := w', remcount := w.units p entry gone }
    (w.Clean p entry count gone ∧ CarriedEnd e w p entry count s) ∨
      (¬w.Clean p entry count gone ∧ Violated w s.holdings p entry count ∧
        s.remcount ≤ count) := by
  induction l generalizing gone w' with
  | nil =>
    rw [List.append_nil] at hl
    subst hl
    exact .inl ⟨clean_all, .short rfl rfl hlt h⟩
  | cons pos l ih =>
    obtain ⟨-, -, hpos, hnot, -, -⟩ := carried_facts hl
    have hl' : carriedPositions = (gone ++ [pos]) ++ l := by rw [hl, List.append_assoc]; rfl
    have hclean := clean_cons hl hlt
    dsimp only
    rw [List.foldl_cons]
    cases hpays : w.paysWith p entry pos with
    | none =>
      have hunits : w.units p entry (gone ++ [pos]) = w.units p entry gone := by
        rw [units_append, units_singleton, paying_none hpays, Nat.add_zero]
      rw [destroyAt_none ((h.paysWith hpos hnot).trans hpays)]
      have hrest := ih hl' (h.skip hpays) (hunits ▸ hlt)
      rw [hunits] at hrest
      rw [hpays] at hclean
      have hsame : w.Clean p entry count gone ↔ w.Clean p entry count (gone ++ [pos]) :=
        hclean.trans ⟨fun hand => hand.2, fun hrest => ⟨fun _ hno => (nomatch hno), hrest⟩⟩
      rw [hsame]
      exact hrest
    | some g =>
      have hunits : w.units p entry (gone ++ [pos]) = w.units p entry gone + (w.item g).count := by
        rw [units_append, units_singleton, paying_some hpays]
      have hsplit : w.Clean p entry count gone ↔
          w.Fair p entry count gone pos g ∧ w.Clean p entry count (gone ++ [pos]) := by
        rw [hpays] at hclean
        exact hclean.trans (and_congr_left' ⟨fun hall => hall g rfl,
          fun hfair g' heq => Option.some.inj heq ▸ hfair⟩)
      have hstep := carried_step hcount hl h hlt hpays (hitems pos g (paysWith_view hpays).1)
      generalize destroyAt p entry count false
        { holdings := w', remcount := w.units p entry gone } pos = s at hstep ⊢
      cases hstep with
      | last hfair hle hdone htook =>
        rw [destroyAt_done hdone]
        refine .inl ⟨hsplit.mpr ⟨hfair, clean_of_le (hunits ▸ hle)⟩, .taken hdone htook ?_⟩
        rw [hl', units_append, hunits]
        omega
      | more hfair hlt' hcleared =>
        have hrest := ih hl' hcleared (hunits ▸ hlt')
        rw [hunits] at hrest
        rcases hrest with ⟨hclean', hend⟩ | ⟨hnot', hviolated⟩
        · exact .inl ⟨hsplit.mpr ⟨hfair, hclean'⟩, hend⟩
        · exact .inr ⟨fun hclean' => hnot' (hsplit.mp hclean').2, hviolated⟩
      | foul hunfair hviolated hrem =>
        exact .inr ⟨fun hclean' => hunfair (hsplit.mp hclean').1, violated_foldl hviolated hrem⟩

/-! ## The bank -/

theorem fills_self {ns : List Nat} : Fills count count ns := by
  cases ns with
  | nil => rfl
  | cons => exact .inl rfl

theorem fills_fits {rem : Nat} {ns : List Nat} (hlt : rem < count) (hfits : rem + n ≤ count) :
    Fills count rem (n :: ns) ↔ Fills count (rem + n) ns := by
  constructor
  · rintro (heq | ⟨-, h⟩ | ⟨hover, -⟩)
    · omega
    · exact h
    · omega
  · exact fun h => .inr (.inl ⟨hfits, h⟩)

theorem fills_over {rem : Nat} {ns : List Nat} (hlt : rem < count) (hover : count < rem + n) :
    Fills count rem (n :: ns) ↔ rem + n < 2 ^ 32 ∧ Fills count rem ns := by
  constructor
  · rintro (heq | ⟨hfits, -⟩ | ⟨-, h⟩)
    · omega
    · omega
    · exact h
  · exact fun h => .inr (.inr ⟨hover, h⟩)

omit [DecidableEq P] in
theorem bankPositions_plain (h : pos ∈ bankPositions) : isBagPos pos = false := by
  rw [mem_bankPositions] at h
  rw [Bool.eq_false_iff, ne_eq, isBagPos_iff, isBagSlot_iff]
  omega

structure Left (gone l : List Pos) : Prop where
  nodup : (gone ++ l).Nodup
  sub : gone ++ l ⊆ payPositions
  bank : l ⊆ bankPositions

omit [DecidableEq P] in
theorem Left.before (h : Left gone l) : gone.Nodup ∧ gone ⊆ payPositions :=
  ⟨(List.nodup_append.mp h.nodup).1, fun _ hx => h.sub (List.mem_append_left _ hx)⟩

omit [DecidableEq P] in
theorem Left.head (h : Left gone (pos :: l)) : pos ∈ payPositions ∧ pos ∉ gone :=
  ⟨h.sub (List.mem_append_right _ (.head _)), fun hin =>
    (List.nodup_append.mp h.nodup).2.2 pos hin pos (.head _) rfl⟩

omit [DecidableEq P] in
theorem Left.take (h : Left gone (pos :: l)) : Left (gone ++ [pos]) l := by
  have heq : (gone ++ [pos]) ++ l = gone ++ pos :: l := by simp
  exact ⟨heq ▸ h.nodup, heq ▸ h.sub, fun x hx => h.bank (.tail _ hx)⟩

omit [DecidableEq P] in
theorem Left.skip (h : Left gone (pos :: l)) : Left gone l := by
  have hsub : (gone ++ l).Sublist (gone ++ pos :: l) := (List.sublist_cons_self _ _).append_left _
  exact ⟨hsub.nodup h.nodup, fun x hx => h.sub (hsub.subset hx), fun x hx => h.bank (.tail _ hx)⟩

inductive BankStep (e : ItemStores) (w : Holdings P) (p : P) (entry count : Nat)
    (gone : List Pos) (pos : Pos) (n : Nat) (w' : Holdings P) : Destruction P → Prop where
  | fits {w₁ : Holdings P} : w.units p entry gone + n ≤ count →
      Cleared e w w₁ p entry (gone ++ [pos]) → BankStep e w p entry count gone pos n w'
        { holdings := w₁, remcount := w.units p entry gone + n
          done := decide (count ≤ w.units p entry gone + n) }
  | beyond : count < w.units p entry gone + n → w.units p entry gone + n < 2 ^ 32 →
      BankStep e w p entry count gone pos n w'
        { holdings := w', remcount := w.units p entry gone }
  | foul {s : Destruction P} : 2 ^ 32 ≤ w.units p entry gone + n →
      Violated w s.holdings p entry count → s.remcount ≤ count →
      BankStep e w p entry count gone pos n w' s

theorem bank_step (hcount : count < 2 ^ 32) (hleft : Left gone (pos :: l))
    (h : Cleared e w w' p entry gone) (hlt : w.units p entry gone < count)
    (hpays : w.paysWith p entry pos = some g) (hg : (w.item g).count < 2 ^ 32) :
    BankStep e w p entry count gone pos (w.item g).count w' (destroyAt p entry count true
      { holdings := w', remcount := w.units p entry gone } pos) := by
  obtain ⟨hgone, hsub⟩ := hleft.before
  obtain ⟨hpos, hnot⟩ := hleft.head
  have hplain := bankPositions_plain (hleft.bank (.head _))
  have hpays' := (h.paysWith hpos hnot).trans hpays
  have hn : (w'.item g).count = (w.item g).count := by rw [h.item]
  by_cases hwrap : w.units p entry gone + (w.item g).count < 2 ^ 32
  · have hsum : uint32 ((w'.item g).count + w.units p entry gone) =
        (w.item g).count + w.units p entry gone := by
      rw [hn]
      exact Nat.mod_eq_of_lt (by omega)
    by_cases hfits : w.units p entry gone + (w.item g).count ≤ count
    · rw [h.destroyAt_whole hpos hnot hpays hcount hfits]
      refine .fits hfits (h.step hpos hnot hpays fun hbag => ?_)
      rw [hplain] at hbag
      cases hbag
    · rw [destroyAt_skip hpays' (by omega)]
      exact .beyond (by omega) hwrap
  · obtain ⟨hviolated, hrem⟩ := h.destroyAt_wrap hgone hsub hpos hnot hpays hcount hlt hg
      (Nat.not_lt.mp hwrap)
    exact .foul (Nat.not_lt.mp hwrap) hviolated hrem

theorem bank_all (hcount : count < 2 ^ 32)
    (hitems : ∀ pos g, w.view p pos = some g → (w.item g).count < 2 ^ 32)
    (hleft : Left gone l) (h : Cleared e w w' p entry gone) (hlt : w.units p entry gone < count)
    (hall : w.units p entry gone + w.units p entry l ≤ count) :
    Took w (l.foldl (destroyAt p entry count true)
      { holdings := w', remcount := w.units p entry gone }).holdings p entry
        (w.units p entry gone + w.units p entry l) := by
  induction l generalizing gone w' with
  | nil => exact h.took hleft.before.1 hleft.before.2
  | cons pos l ih =>
    have hcons : w.units p entry (pos :: l) = w.paying p entry pos + w.units p entry l := by
      simp [units]
    have hunits : w.units p entry (gone ++ [pos]) = w.units p entry gone + w.paying p entry pos := by
      rw [units_append, units_singleton]
    rw [List.foldl_cons, hcons]
    rw [hcons] at hall
    cases hpays : w.paysWith p entry pos with
    | none =>
      rw [paying_none hpays, Nat.add_zero] at hunits
      have hrest := ih hleft.take (h.skip hpays) (hunits ▸ hlt) (by omega)
      rw [destroyAt_none ((h.paysWith hleft.head.1 hleft.head.2).trans hpays), paying_none hpays,
        Nat.zero_add]
      rwa [hunits] at hrest
    | some g =>
      have hstep := bank_step hcount hleft h hlt hpays (hitems pos g (paysWith_view hpays).1)
      rw [paying_some hpays] at hall hunits ⊢
      generalize destroyAt p entry count true
        { holdings := w', remcount := w.units p entry gone } pos = s at hstep ⊢
      cases hstep with
      | fits hfits hcleared =>
        by_cases hdone : count ≤ w.units p entry gone + (w.item g).count
        · have htook := hcleared.took hleft.take.before.1 hleft.take.before.2
          rw [destroyAt_done (decide_eq_true hdone)]
          rw [hunits] at htook
          have hzero : w.units p entry l = 0 := by omega
          rw [hzero, Nat.add_zero]
          exact htook
        · rw [decide_eq_false hdone]
          have hrest := ih hleft.take hcleared (by omega) (by omega)
          rwa [hunits, Nat.add_assoc] at hrest
      | beyond hover => omega
      | foul hwrap => omega

theorem bank_loop (hcount : count < 2 ^ 32)
    (hitems : ∀ pos g, w.view p pos = some g → (w.item g).count < 2 ^ 32)
    (hleft : Left gone l) (h : Cleared e w w' p entry gone) (hlt : w.units p entry gone < count) :
    let s := l.foldl (destroyAt p entry count true)
      { holdings := w', remcount := w.units p entry gone }
    (Fills count (w.units p entry gone) (l.map (w.paying p entry)) ∧
        Took w s.holdings p entry count) ∨
      (¬Fills count (w.units p entry gone) (l.map (w.paying p entry)) ∧
        (Violated w s.holdings p entry count ∨ ∃ k < count, Took w s.holdings p entry k)) := by
  induction l generalizing gone w' with
  | nil =>
    refine .inr ⟨fun hfills => ?_, .inr ⟨_, hlt, h.took hleft.before.1 hleft.before.2⟩⟩
    have heq : w.units p entry gone = count := hfills
    omega
  | cons pos l ih =>
    have hunits : w.units p entry (gone ++ [pos]) = w.units p entry gone + w.paying p entry pos := by
      rw [units_append, units_singleton]
    dsimp only
    rw [List.foldl_cons, List.map_cons]
    cases hpays : w.paysWith p entry pos with
    | none =>
      rw [paying_none hpays, Nat.add_zero] at hunits
      have hrest := ih hleft.take (h.skip hpays) (hunits ▸ hlt)
      rw [destroyAt_none ((h.paysWith hleft.head.1 hleft.head.2).trans hpays), paying_none hpays,
        fills_fits hlt hlt.le, Nat.add_zero]
      rwa [hunits] at hrest
    | some g =>
      have hstep := bank_step hcount hleft h hlt hpays (hitems pos g (paysWith_view hpays).1)
      rw [paying_some hpays] at hunits ⊢
      generalize destroyAt p entry count true
        { holdings := w', remcount := w.units p entry gone } pos = s at hstep ⊢
      cases hstep with
      | fits hfits hcleared =>
        rw [fills_fits hlt hfits]
        by_cases hdone : count ≤ w.units p entry gone + (w.item g).count
        · have htook := hcleared.took hleft.take.before.1 hleft.take.before.2
          have heq : w.units p entry gone + (w.item g).count = count := by omega
          rw [destroyAt_done (decide_eq_true hdone)]
          rw [hunits, heq] at htook
          rw [heq]
          exact .inl ⟨fills_self, htook⟩
        · rw [decide_eq_false hdone]
          have hrest := ih hleft.take hcleared (by omega)
          rwa [hunits] at hrest
      | beyond hover hwrap =>
        rw [fills_over hlt hover]
        rcases ih hleft.skip h hlt with ⟨hfills, htook⟩ | ⟨hnot, hless⟩
        · exact .inl ⟨⟨hwrap, hfills⟩, htook⟩
        · exact .inr ⟨fun hand => hnot hand.2, hless⟩
      | foul hwrap hviolated hrem =>
        rw [fills_over hlt (by omega)]
        exact .inr ⟨fun hand => by omega, .inl (violated_foldl hviolated hrem).1⟩

omit [DecidableEq P] in
theorem left_bank : Left carriedPositions bankPositions :=
  ⟨payPositions_nodup, fun _ h => h, fun _ h => h⟩

omit [DecidableEq P] in
theorem Took.unique {k' : Nat} (h : Took w w' p entry k) (h' : Took w w' p entry k') : k = k' := by
  have hk := h.total entry
  have hk' := h'.total entry
  rw [if_pos rfl] at hk hk'
  omega

theorem destroyItemCount_eq : w.destroyItemCount p entry count =
    (bankPositions.foldl (destroyAt p entry count true)
      (carriedPositions.foldl (destroyAt p entry count false) { holdings := w })).holdings := by
  rw [carriedPositions, List.foldl_append]
  rfl

/-- `DestroyItemCount` takes what is due, of all that pays, exactly where the inventory is payable. -/
theorem took_iff (hw : Sound e w)
    (hitems : ∀ pos g, w.view p pos = some g → (w.item g).count < 2 ^ 32)
    (hcount : count < 2 ^ 32) :
    Took w (w.destroyItemCount p entry count) p entry (min count (w.units p entry payPositions)) ↔
      w.Payable p entry count := by
  rcases Nat.eq_zero_or_pos count with rfl | hpos
  · have hsame : w.destroyItemCount p entry 0 = w := by
      refine destroyItemCount_zero fun pos g hpays => ?_
      have hview := (paysWith_view hpays).1
      exact ⟨(hw.counted _ g (held_of_view hview)).1, hitems pos g hview⟩
    have htook : Took w w p entry 0 := (Cleared.refl hw).took .nil (List.nil_subset _)
    rw [hsame, Nat.zero_min]
    refine iff_of_true htook ⟨fun before pos g hdue => ?_, fun hlt => absurd hlt (Nat.not_lt_zero _)⟩
    exact absurd hdue.lt (Nat.not_lt_zero _)
  have hall : w.units p entry payPositions =
      w.units p entry carriedPositions + w.units p entry bankPositions := units_append
  have hclean : w.Clean p entry count [] ↔
      ∀ before pos g, w.Due p entry count before pos g → w.Fair p entry count before pos g :=
    ⟨fun h before pos g => h before pos g (List.nil_prefix),
      fun h before pos g _ => h before pos g⟩
  have hloop := carried_loop hcount hitems (l := carriedPositions) rfl
    (Cleared.refl hw : Cleared e w w p entry []) hpos
  dsimp only at hloop
  rw [units_nil] at hloop
  rw [destroyItemCount_eq]
  generalize carriedPositions.foldl (destroyAt p entry count false) { holdings := w } = s
    at hloop ⊢
  rcases hloop with ⟨hok, hend⟩ | ⟨hnot, hviolated, hrem⟩
  · cases hend with
    | taken hdone htook hle =>
      have hmin : min count (w.units p entry payPositions) = count :=
        Nat.min_eq_left (by omega)
      rw [destroyAt_done hdone, hmin]
      exact iff_of_true htook ⟨hclean.mp hok, fun hlt => absurd hlt (Nat.not_lt.mpr hle)⟩
    | short hdone hrem hlt hcleared =>
      have hs : s = { holdings := s.holdings, remcount := w.units p entry carriedPositions } := by
        rw [← hrem, ← hdone]
      rw [hs]
      by_cases hfew : w.units p entry payPositions ≤ count
      · have htook := bank_all hcount hitems left_bank hcleared hlt (hall ▸ hfew)
        rw [← hall] at htook
        rw [Nat.min_eq_right hfew]
        exact iff_of_true htook ⟨hclean.mp hok, fun _ => .inl hfew⟩
      · rw [Nat.min_eq_left (Nat.le_of_not_le hfew)]
        rcases bank_loop hcount hitems left_bank hcleared hlt with ⟨hfills, htook⟩ | ⟨hnot, hless⟩
        · exact iff_of_true htook ⟨hclean.mp hok, fun _ => .inr hfills⟩
        · refine iff_of_false (fun htook => ?_) fun hpay => (hpay.bank hlt).elim hfew hnot
          rcases hless with hviolated | ⟨k, hk, htook'⟩
          · exact hviolated.not_took (Nat.le_refl _) htook
          · exact Nat.ne_of_lt hk (htook'.unique htook)
  · refine iff_of_false ?_ fun hpay => hnot (hclean.mpr hpay.carried)
    exact (violated_foldl hviolated hrem).1.not_took (Nat.min_le_left _ _)

omit [DecidableEq P] in
theorem reaches_le {ns : List Nat} (h : reaches count ns k = true) : count ≤ k + ns.sum := by
  induction ns generalizing k with
  | nil => cases h
  | cons n ns ih =>
    have hwrap : uint32 (k + n) ≤ k + n := Nat.mod_le _ _
    rw [List.sum_cons]
    unfold reaches at h
    split_ifs at h with hle
    · omega
    · have := ih h
      omega

omit [DecidableEq P] in
theorem sum_paysWith : ((l.filterMap (w.paysWith p entry)).map fun g => (w.item g).count).sum =
    w.units p entry l := by
  induction l with
  | nil => rfl
  | cons pos l ih =>
    have hcons : w.units p entry (pos :: l) = w.paying p entry pos + w.units p entry l := by
      simp [units]
    rw [hcons, ← ih]
    cases hpays : w.paysWith p entry pos with
    | none => simp [hpays, paying_none hpays]
    | some g => simp [hpays, paying_some hpays]

omit [DecidableEq P] in
theorem units_counted : w.units p entry countedPositions = w.units p entry carriedPositions := by
  have hslots : slotPositions EQUIPMENT_SLOT_START INVENTORY_SLOT_ITEM_END =
      slotPositions EQUIPMENT_SLOT_START EQUIPMENT_SLOT_END ++ wornBagPositions ++
        slotPositions INVENTORY_SLOT_ITEM_START INVENTORY_SLOT_ITEM_END := by decide
  simp only [countedPositions, carriedPositions, loosePositions, hslots, units_append]
  omega

omit [DecidableEq P] in
theorem le_units_of_hasItemCount (h : w.hasItemCount p entry count = true) :
    count ≤ w.units p entry carriedPositions := by
  have hle := reaches_le h
  rwa [Nat.zero_add, sum_paysWith, units_counted] at hle

/-- `DestroyItemCount` takes what is asked for where `HasItemCount` has seen it, and else what there
is of it, the bank included. -/
structure DestroysExactly (w : Holdings P) (p : P) (entry count : Nat) : Prop where
  counted : w.hasItemCount p entry count = true →
    Took w (w.destroyItemCount p entry count) p entry count
  general : Took w (w.destroyItemCount p entry count) p entry
    (min count (w.units p entry payPositions))

theorem destroys_exactly (hw : Sound e w)
    (hitems : ∀ pos g, w.view p pos = some g → (w.item g).count < 2 ^ 32)
    (hcount : count < 2 ^ 32) : DestroysExactly w p entry count ↔ w.Payable p entry count := by
  rw [← took_iff hw hitems hcount]
  refine ⟨DestroysExactly.general, fun htook => ⟨fun hhas => ?_, htook⟩⟩
  have hle : count ≤ w.units p entry payPositions := by
    rw [payPositions, units_append]
    exact Nat.le_trans (le_units_of_hasItemCount hhas) (Nat.le_add_right _ _)
  rwa [Nat.min_eq_left hle] at htook

def stackStores : ItemStores where
  store := fun entry => some { itemId := entry, stackable := 20 }
  store_id := by
    rintro entry proto h
    cases h
    rfl
  slots_le := by
    rintro entry proto h
    cases h
    exact Nat.zero_le _

def oneStack (slot : Nat) : Holdings Unit where
  item := fun _ => { proto := { itemId := 200, stackable := 20 }, count := 5 }
  held := fun pl => if pl = .slot () slot then some 1 else none
  nextGuid := 2

theorem oneStack_sound {slot : Nat} (hslot : slot < PLAYER_SLOT_END) :
    Sound stackStores (oneStack slot) := by
  have hheld : ∀ pl g, (oneStack slot).held pl = some g → pl = .slot () slot ∧ g = 1 := by
    intro pl g hg
    simp only [oneStack, Option.ite_none_right_eq_some] at hg
    exact ⟨hg.1, (Option.some.inj hg.2).symm⟩
  constructor
  · intro pl pl' g hg hg'
    exact (hheld pl g hg).1.trans (hheld pl' g hg').1.symm
  · intro pl g hg
    rfl
  · intro pl g hg
    exact ⟨(by decide : 0 < 5), (by decide : 5 ≤ 20)⟩
  · intro pl g hg
    rw [(hheld pl g hg).2]
    exact Nat.lt_succ_self 1
  · intro p s g hg
    rw [(Place.slot.inj (hheld _ g hg).1).2]
    exact hslot
  · intro b j g hg
    cases (hheld _ g hg).1

/-- Three of five in the backpack. -/
theorem destroys_exactly_backpack : (oneStack 23).Payable () 200 3 ∧
    DestroysExactly (oneStack 23) () 200 3 := by
  have hfive : ∀ g, ((oneStack 23).item g).count = 5 := fun _ => rfl
  have hpay : (oneStack 23).Payable () 200 3 := by
    refine ⟨fun before pos g hdue => ?_, fun hlt => absurd hlt (by decide +kernel)⟩
    have hlt := hdue.lt
    refine ⟨?_, fun hle => ?_⟩
    · rw [hfive]
      omega
    · rw [hfive] at hle
      omega
  exact ⟨hpay, (destroys_exactly (oneStack_sound (by decide))
    (fun pos g _ => (by decide : 5 < 2 ^ 32)) (by decide)).mpr hpay⟩

theorem oneStack_bank : (oneStack 39).destroyItemCount () 200 3 = oneStack 39 := by
  have hstep : ∀ bank pos, (bank = true ∨ (oneStack 39).paysWith () 200 pos = none) →
      destroyAt () 200 3 bank { holdings := oneStack 39 } pos = { holdings := oneStack 39 } := by
    intro bank pos h
    cases hpays : (oneStack 39).paysWith () 200 pos with
    | none => exact destroyAt_none hpays
    | some g =>
      rw [hpays] at h
      have hbank : bank = true := h.resolve_right (nomatch ·)
      have hfive : ((oneStack 39).item g).count = 5 := rfl
      simp [destroyAt, hpays, hbank, hfive, uint32]
  have hfold : ∀ bank (l : List Pos),
      (∀ pos ∈ l, bank = true ∨ (oneStack 39).paysWith () 200 pos = none) →
      l.foldl (destroyAt () 200 3 bank) { holdings := oneStack 39 } = { holdings := oneStack 39 } := by
    intro bank l h
    induction l with
    | nil => rfl
    | cons pos l ih =>
      rw [List.foldl_cons, hstep bank pos (h pos List.mem_cons_self)]
      exact ih fun pos' hpos' => h pos' (List.mem_cons_of_mem pos hpos')
  have hcarried : ∀ pos ∈ loosePositions ++ wornBagPositions,
      (oneStack 39).paysWith () 200 pos = none := by decide +kernel
  have hloose := hfold false loosePositions fun pos hpos =>
    .inr (hcarried pos (List.mem_append_left _ hpos))
  have hworn := hfold false wornBagPositions fun pos hpos =>
    .inr (hcarried pos (List.mem_append_right _ hpos))
  have hbank := hfold true bankPositions fun _ _ => .inl rfl
  simp only [destroyItemCount, hloose, hworn, hbank]

/-- Three of five in the bank: nothing is taken. -/
theorem destroys_exactly_bank : ¬ ∀ (e : ItemStores) (w : Holdings Unit) (entry count : Nat),
    Sound e w → (∀ pos g, w.view () pos = some g → (w.item g).count < 2 ^ 32) → count < 2 ^ 32 →
      DestroysExactly w () entry count := by
  intro h
  have htook := (h stackStores (oneStack 39) 200 3 (oneStack_sound (by decide))
    (fun pos g _ => (by decide : 5 < 2 ^ 32)) (by decide)).general.total 200
  have hthree : min 3 ((oneStack 39).units () 200 payPositions) = 3 := by decide +kernel
  rw [oneStack_bank, if_pos rfl, hthree] at htook
  omega

end Holdings

end SkyfireBG
