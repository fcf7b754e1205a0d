import Mathlib.Algebra.Order.BigOperators.Group.Finset
import SkyfireBG.Inventory.Removed

/-!
# SkyfireBG.Inventory.Cleared

What `DestroyItem` takes away, item after item.

* `Took`        — so many units of an entry are gone, and nothing else.
* `Shrunk`      — nothing has come in.
* `Cleared`     — what stood at some positions and paid is gone: `Cleared.step`, `Cleared.took`.
* `Violated`    — too much is gone, or something else; what follows does not make it good.
-/

namespace SkyfireBG

/-- The order of `DestroyItemCount` before the bank. -/
def carriedPositions : List Pos := loosePositions ++ wornBagPositions

/-- All that `DestroyItemCount` looks at. -/
def payPositions : List Pos := carriedPositions ++ bankPositions

namespace Holdings

variable {P : Type}

def units (w : Holdings P) (p : P) (entry : Nat) (l : List Pos) : Nat :=
  (l.map (w.paying p entry)).sum

/-- `w'` is `w` without some of the items, or with less of them. -/
structure Shrunk (w w' : Holdings P) (p : P) : Prop where
  view : ∀ pos g, w'.view p pos = some g → w.view p pos = some g
  proto : ∀ g, (w'.item g).proto = (w.item g).proto
  count : ∀ g, (w'.item g).count ≤ (w.item g).count

/-- `k` units of the entry are gone from the stacks that pay, and nothing else. -/
structure Took (w w' : Holdings P) (p : P) (entry k : Nat) : Prop where
  shrunk : Shrunk w w' p
  total : ∀ x, w'.total p x + (if x = entry then k else 0) = w.total p x
  kept : ∀ pos g, w.view p pos = some g → (pos ∈ payPositions → w.paysWith p entry pos = none) →
    w'.view p pos = some g ∧ w'.item g = w.item g

structure Cleared (e : ItemStores) (w w' : Holdings P) (p : P) (entry : Nat) (gone : List Pos) :
    Prop where
  sound : Sound e w'
  item : w'.item = w.item
  view : ∀ pos, w'.view p pos =
    if pos ∈ gone ∧ w.paysWith p entry pos ≠ none then none else w.view p pos

/-- More than `count` units of the entry are gone, or something that does not pay. -/
def Violated (w w' : Holdings P) (p : P) (entry count : Nat) : Prop :=
  w'.total p entry + count < w.total p entry ∨ ∃ pos g, w.view p pos = some g ∧
    w.paysWith p entry pos = none ∧ w'.view p pos ≠ some g

def PaysWhole (w : Holdings P) (p : P) (entry : Nat) (pos : Pos) : Prop :=
  pos ∈ wornBagPositions → ∀ s h, w.view p (pos.2, s) = some h →
    w.paysWith p entry (pos.2, s) ≠ none

variable {e : ItemStores} {w w' w'' : Holdings P} {p : P} {pos pos' : Pos} {g h : Nat}
  {entry count k n : Nat} {gone l : List Pos}

theorem mem_wornBagPositions :
    pos ∈ wornBagPositions ↔ pos.1 = 255 ∧ 19 ≤ pos.2 ∧ pos.2 < 23 := by
  simp only [wornBagPositions, mem_slotPositions, INVENTORY_SLOT_BAG_0, EQUIPMENT_SLOT_END,
    INVENTORY_SLOT_BAG_END]

theorem mem_bankPositions : pos ∈ bankPositions ↔
    (pos.1 = 255 ∧ 39 ≤ pos.2 ∧ pos.2 < 67) ∨ (67 ≤ pos.1 ∧ pos.1 < 74 ∧ pos.2 < 36) := by
  simp only [bankPositions, List.mem_append, mem_slotPositions, mem_bagPositions,
    INVENTORY_SLOT_BAG_0, BANK_SLOT_ITEM_START, BANK_SLOT_ITEM_END, BANK_SLOT_BAG_START,
    BANK_SLOT_BAG_END, MAX_BAG_SIZE]
  omega

theorem mem_payPositions : pos ∈ payPositions ↔ (pos.1 = 255 ∧ (pos.2 < 67 ∨
    (86 ≤ pos.2 ∧ pos.2 < 150))) ∨
      (((19 ≤ pos.1 ∧ pos.1 < 23) ∨ (67 ≤ pos.1 ∧ pos.1 < 74)) ∧ pos.2 < 36) := by
  simp only [payPositions, carriedPositions, List.mem_append, mem_loosePositions,
    mem_wornBagPositions, mem_bankPositions]
  omega

theorem payPositions_nodup : payPositions.Nodup := by
  have hworn : wornBagPositions.Nodup := slotPositions_nodup
  have hbank : bankPositions.Nodup := by
    refine List.nodup_append.mpr ⟨slotPositions_nodup, bagPositions_nodup, ?_⟩
    intro pos hpos pos' hpos' heq
    subst heq
    rw [mem_slotPositions] at hpos
    rw [mem_bagPositions] at hpos'
    simp only [INVENTORY_SLOT_BAG_0, BANK_SLOT_BAG_START, BANK_SLOT_BAG_END] at hpos hpos'
    omega
  have hcarried : carriedPositions.Nodup := by
    refine List.nodup_append.mpr ⟨loosePositions_nodup, hworn, ?_⟩
    intro pos hpos pos' hpos' heq
    subst heq
    rw [mem_loosePositions] at hpos
    rw [mem_wornBagPositions] at hpos'
    omega
  refine List.nodup_append.mpr ⟨hcarried, hbank, ?_⟩
  intro pos hpos pos' hpos' heq
  subst heq
  rw [carriedPositions, List.mem_append, mem_loosePositions, mem_wornBagPositions] at hpos
  rw [mem_bankPositions] at hpos'
  omega

theorem payPositions_sub (hpos : pos ∈ payPositions) : pos ∈ positions := by
  rw [mem_payPositions] at hpos
  simp only [positions, Finset.mem_union, Finset.mem_product, Finset.mem_singleton,
    Finset.mem_range, Finset.mem_filter, isBagSlot_iff, INVENTORY_SLOT_BAG_0, PLAYER_SLOT_END,
    MAX_BAG_SIZE]
  omega

/-- Apart from the buyback slots `GetItemByPos` shows all there is. -/
theorem getItemByPos_pay (hpos : pos ∈ payPositions) : w.getItemByPos p pos = w.view p pos := by
  rw [mem_payPositions] at hpos
  unfold getItemByPos view
  by_cases hc : pos.1 = INVENTORY_SLOT_BAG_0
  · have hslot : pos.2 < BANK_SLOT_BAG_END ∨
        (KEYRING_SLOT_START ≤ pos.2 ∧ pos.2 < CURRENCYTOKEN_SLOT_END) := by
      simp only [INVENTORY_SLOT_BAG_0] at hc
      simp only [BANK_SLOT_BAG_END, KEYRING_SLOT_START, CURRENCYTOKEN_SLOT_END]
      omega
    rw [if_pos ⟨hc, hslot⟩, if_pos hc]
  · rw [if_neg fun hand => hc hand.1, if_neg hc]
    cases w.getBagByPos p pos.1 <;> rfl

theorem paysWith_view (hpays : w.paysWith p entry pos = some g) :
    w.view p pos = some g ∧ (w.item g).entry = entry :=
  ⟨view_of_getItemByPos (paysWith_some hpays).1, (paysWith_some hpays).2.1⟩

theorem paying_some (hpays : w.paysWith p entry pos = some g) :
    w.paying p entry pos = (w.item g).count := by
  rw [paying, hpays, Option.elim_some]

theorem paying_none (hpays : w.paysWith p entry pos = none) : w.paying p entry pos = 0 := by
  rw [paying, hpays, Option.elim_none]

@[simp] theorem units_nil : w.units p entry [] = 0 := rfl

@[simp] theorem units_append {l l' : List Pos} :
    w.units p entry (l ++ l') = w.units p entry l + w.units p entry l' := by
  simp [units]

@[simp] theorem units_singleton : w.units p entry [pos] = w.paying p entry pos := by
  simp [units]

/-! ## What shrinks -/

theorem Shrunk.refl : Shrunk w w p := ⟨fun _ _ h => h, fun _ => rfl, fun _ => Nat.le_refl _⟩

theorem Shrunk.trans (h : Shrunk w w' p) (h' : Shrunk w' w'' p) : Shrunk w w'' p where
  view pos g hg := h.view pos g (h'.view pos g hg)
  proto g := (h'.proto g).trans (h.proto g)
  count g := Nat.le_trans (h'.count g) (h.count g)

def weight (w : Holdings P) (p : P) (x : Nat) (pos : Pos) : Nat :=
  (w.view p pos).elim 0 (w.entryCount x none)

theorem Shrunk.weight_le (h : Shrunk w w' p) {x : Nat} : w'.weight p x pos ≤ w.weight p x pos := by
  unfold weight
  cases hview : w'.view p pos with
  | none => exact Nat.zero_le _
  | some g =>
    have hentry : (w'.item g).entry = (w.item g).entry := by
      rw [Item.entry, Item.entry, h.proto]
    rw [h.view pos g hview, Option.elim_some, Option.elim_some, entryCount_none, entryCount_none,
      hentry]
    split_ifs
    · exact h.count g
    · exact Nat.le_refl 0

theorem Shrunk.total_le (h : Shrunk w w' p) {x : Nat} : w'.total p x ≤ w.total p x :=
  Finset.sum_le_sum fun _ _ => h.weight_le

theorem Shrunk.total_empty (h : Shrunk w w' p) {x : Nat} (hpos : pos ∈ positions)
    (hempty : w'.view p pos = none) : w'.total p x + w.weight p x pos ≤ w.total p x := by
  have hzero : w'.weight p x pos = 0 := by
    rw [weight, hempty, Option.elim_none]
  have hsum : w'.total p x = ∑ pos' ∈ positions.erase pos, w'.weight p x pos' := by
    have h' := Finset.add_sum_erase positions (w'.weight p x) hpos
    rw [hzero, Nat.zero_add] at h'
    exact h'.symm
  have hle : ∑ pos' ∈ positions.erase pos, w'.weight p x pos' ≤
      ∑ pos' ∈ positions.erase pos, w.weight p x pos' := Finset.sum_le_sum fun _ _ => h.weight_le
  have hadd := Finset.add_sum_erase positions (w.weight p x) hpos
  change _ = w.total p x at hadd
  omega

theorem shrunk_setCount (hn : n ≤ (w.item g).count) : Shrunk w (w.setCount g n) p where
  view _ _ hh := setCount_view ▸ hh
  proto _ := setCount_proto
  count _ := setCount_le hn

variable [DecidableEq P]

theorem getBagByPos_clear {pl : Place P} {b : Nat} (hg : (w.clear pl).getBagByPos p b = some g) :
    w.getBagByPos p b = some g := by
  unfold getBagByPos at hg ⊢
  split_ifs at hg with hb
  obtain ⟨hheld, his⟩ := Option.filter_eq_some_iff.mp hg
  rw [if_pos hb, (Storage.held_of_clear hheld).2]
  exact Option.filter_eq_some_iff.mpr ⟨rfl, his⟩

theorem shrunk_clear (pl : Place P) : Shrunk w (w.clear pl) p := by
  refine ⟨fun pos g hg => ?_, fun _ => rfl, fun _ => Nat.le_refl _⟩
  unfold view at hg ⊢
  split_ifs at hg ⊢
  · exact (Storage.held_of_clear hg).2
  · cases hb : (w.clear pl).getBagByPos p pos.1 with
    | none =>
      rw [hb] at hg
      cases hg
    | some b =>
      rw [hb] at hg
      rw [getBagByPos_clear hb]
      dsimp only at hg ⊢
      split_ifs at hg with hlt
      have hlt' : pos.2 < w.getBagSize b := hlt
      rw [if_pos hlt']
      exact (Storage.held_of_clear hg).2

theorem view_clear_place : (w.clear (w.placeOf p pos)).view p pos = none := by
  unfold view
  split_ifs with hc
  · rw [placeOf, if_pos hc, clear_held, Function.update_self]
  · cases hb : (w.clear (w.placeOf p pos)).getBagByPos p pos.1 with
    | none => rfl
    | some b =>
      have hplace : w.placeOf p pos = .bagslot b pos.2 := by
        rw [placeOf, if_neg hc, getBagByPos_clear hb]
      dsimp only
      rw [hplace, clear_held, Function.update_self]
      exact ite_self none

theorem shrunk_removeItem : Shrunk w (w.removeItem p pos) p := by
  unfold removeItem
  split
  · exact .refl
  · exact shrunk_clear _

theorem shrunk_contents (b : Nat) (l : List Nat) :
    Shrunk w (l.foldl (fun w i => w.removeItem p (b, i)) w) p ∧
      (l.foldl (fun w i => w.removeItem p (b, i)) w).item = w.item := by
  induction l generalizing w with
  | nil => exact ⟨.refl, rfl⟩
  | cons i l ih =>
    obtain ⟨hrest, hitem⟩ := ih (w := w.removeItem p (b, i))
    refine ⟨shrunk_removeItem.trans hrest, hitem.trans ?_⟩
    unfold removeItem
    split <;> rfl

theorem destroyItem_clears (hg : w.getItemByPos p pos = some g) : ∃ w₁, Shrunk w w₁ p ∧
    w₁.item = w.item ∧ w.destroyItem p pos = w₁.clear (w₁.placeOf p pos) := by
  unfold destroyItem
  rw [hg]
  dsimp only
  split_ifs
  · exact ⟨_, (shrunk_contents pos.2 _).1, (shrunk_contents pos.2 _).2, rfl⟩
  · exact ⟨w, .refl, rfl, rfl⟩

theorem shrunk_destroyItem : Shrunk w (w.destroyItem p pos) p := by
  cases hg : w.getItemByPos p pos with
  | none =>
    rw [destroyItem, hg]
    exact .refl
  | some g =>
    obtain ⟨w₁, hshrunk, -, heq⟩ := destroyItem_clears hg
    exact heq ▸ hshrunk.trans (shrunk_clear _)

theorem destroyItem_view (hg : w.getItemByPos p pos = some g) :
    (w.destroyItem p pos).view p pos = none := by
  obtain ⟨w₁, -, -, heq⟩ := destroyItem_clears hg
  exact heq ▸ view_clear_place

theorem destroyItem_contents {s : Nat} (hg : w.getItemByPos p pos = some g)
    (hbag : pos ∈ wornBagPositions) : (w.destroyItem p pos).view p (pos.2, s) = none := by
  have hempty := destroyItem_view hg
  rw [mem_wornBagPositions] at hbag
  have hfirst : pos.1 = INVENTORY_SLOT_BAG_0 := hbag.1
  rw [view, if_pos hfirst] at hempty
  have hne : pos.2 ≠ INVENTORY_SLOT_BAG_0 := by
    unfold INVENTORY_SLOT_BAG_0
    omega
  have hnone : (w.destroyItem p pos).getBagByPos p pos.2 = none := by
    rw [getBagByPos, hempty]
    exact ite_self none
  rw [view, if_neg hne, hnone]

theorem destroyItem_item (hg : w.getItemByPos p pos = some g) :
    (w.destroyItem p pos).item = w.item := by
  obtain ⟨w₁, -, hitem, heq⟩ := destroyItem_clears hg
  rw [heq]
  exact hitem

theorem sound_clear_bag {s : Nat} (hw : Sound e w) (hheld : w.held (.slot p s) = some g)
    (hempty : ∀ j, w.held (.bagslot g j) = none) : Sound e (w.clear (.slot p s)) where
  single := hw.single.clear
  known pl h hh := hw.known pl h (Storage.held_of_clear hh).2
  counted pl h hh := hw.counted pl h (Storage.held_of_clear hh).2
  fresh pl h hh := hw.fresh pl h (Storage.held_of_clear hh).2
  slots q s h hh := hw.slots q s h (Storage.held_of_clear hh).2
  shown b j h hh := by
    rw [clear_held] at hh
    have hold := (Storage.held_of_clear hh).2
    obtain ⟨hlt, hbag, q, s', hs', hb⟩ := hw.shown b j h hold
    refine ⟨hlt, hbag, q, s', hs', ?_⟩
    rw [clear_held, Function.update_of_ne]
    · exact hb
    · intro heq
      rw [heq, hheld] at hb
      rw [← Option.some.inj hb, hempty] at hold
      cases hold

theorem view_clear_bag {s : Nat} (hheld : w.held (.slot p s) = some g)
    (hempty : ∀ j, w.held (.bagslot g j) = none) :
    (w.clear (.slot p s)).view p = Function.update (w.view p) (INVENTORY_SLOT_BAG_0, s) none := by
  funext pos
  by_cases hpos : pos = (INVENTORY_SLOT_BAG_0, s)
  · rw [hpos, Function.update_self, view_slot, clear_held, Function.update_self]
  rw [Function.update_of_ne hpos]
  unfold view
  by_cases hc : pos.1 = INVENTORY_SLOT_BAG_0
  · rw [if_pos hc, if_pos hc, clear_held, Function.update_of_ne]
    intro heq
    exact hpos (Prod.ext hc (Place.slot.inj heq).2)
  rw [if_neg hc, if_neg hc]
  by_cases hbag : pos.1 = s
  · have hafter : (w.clear (.slot p s)).getBagByPos p pos.1 = none := by
      rw [getBagByPos, hbag, clear_held, Function.update_self]
      exact ite_self none
    rw [hafter]
    cases hb : w.getBagByPos p pos.1 with
    | none => rfl
    | some b =>
      have hheld' := (getBagByPos_some hb).2.1
      rw [hbag, hheld] at hheld'
      dsimp only
      rw [← Option.some.inj hheld', hempty, ite_self]
  · have hafter : (w.clear (.slot p s)).getBagByPos p pos.1 = w.getBagByPos p pos.1 := by
      unfold getBagByPos
      rw [clear_held, Function.update_of_ne fun heq => hbag (Place.slot.inj heq).2]
      rfl
    rw [hafter]
    cases w.getBagByPos p pos.1 <;> rfl

theorem destroyItem_exact (hw : Sound e w) (hg : w.getItemByPos p pos = some g)
    (hempty : isBagPos pos = true → ∀ j, w.held (.bagslot g j) = none) :
    Sound e (w.destroyItem p pos) ∧
      (w.destroyItem p pos).view p = Function.update (w.view p) pos none := by
  cases hplain : isBagPos pos with
  | false =>
    obtain ⟨hw', -, hview, -⟩ := reduced_clear hw hg hplain
    rw [destroyItem_plain hw hg hplain]
    exact ⟨hw', hview⟩
  | true =>
    have hnone := hempty hplain
    have hfirst : pos.1 = INVENTORY_SLOT_BAG_0 := (isBagPos_iff.mp hplain).1
    have hnot : w.isNotEmptyBag g = false := by
      simp [isNotEmptyBag, isEmpty, hnone]
    have hclear : w.destroyItem p pos = w.clear (.slot p pos.2) := by
      simp [destroyItem, hg, hnot, placeOf, hfirst]
    have hheld : w.held (.slot p pos.2) = some g := by
      have hview := view_of_getItemByPos hg
      rwa [view, if_pos hfirst] at hview
    have heq : (INVENTORY_SLOT_BAG_0, pos.2) = pos := Prod.ext hfirst.symm rfl
    rw [hclear]
    exact ⟨sound_clear_bag hw hheld hnone, heq ▸ view_clear_bag hheld hnone⟩

omit [DecidableEq P] in
theorem Cleared.refl (hw : Sound e w) : Cleared e w w p entry [] :=
  ⟨hw, rfl, fun _ => by simp⟩

omit [DecidableEq P] in
theorem Cleared.shrunk (h : Cleared e w w' p entry gone) : Shrunk w w' p where
  view pos g hg := by
    rw [h.view] at hg
    split_ifs at hg
    exact hg
  proto g := by rw [h.item]
  count g := by rw [h.item]

omit [DecidableEq P] in
theorem Cleared.view_of_not_mem (h : Cleared e w w' p entry gone) (hnot : pos ∉ gone) :
    w'.view p pos = w.view p pos := by
  rw [h.view, if_neg fun hand => hnot hand.1]

omit [DecidableEq P] in
theorem Cleared.paysWith (h : Cleared e w w' p entry gone) (hpos : pos ∈ payPositions)
    (hnot : pos ∉ gone) : w'.paysWith p entry pos = w.paysWith p entry pos := by
  unfold Holdings.paysWith
  rw [getItemByPos_pay hpos, getItemByPos_pay hpos, h.view_of_not_mem hnot, h.item]

omit [DecidableEq P] in
theorem Cleared.skip (h : Cleared e w w' p entry gone) (hnone : w.paysWith p entry pos = none) :
    Cleared e w w' p entry (gone ++ [pos]) := by
  refine ⟨h.sound, h.item, fun pos' => ?_⟩
  rw [h.view]
  by_cases heq : pos' = pos
  · subst heq
    simp [hnone]
  · simp [heq]

theorem Cleared.step (h : Cleared e w w' p entry gone) (hpos : pos ∈ payPositions)
    (hnot : pos ∉ gone) (hpays : w.paysWith p entry pos = some g)
    (hempty : isBagPos pos = true → ∀ j, w'.held (.bagslot g j) = none) :
    Cleared e w (w'.destroyItem p pos) p entry (gone ++ [pos]) := by
  have hget := (paysWith_some ((h.paysWith hpos hnot).trans hpays)).1
  obtain ⟨hsound, hview⟩ := destroyItem_exact h.sound hget hempty
  refine ⟨hsound, (destroyItem_item hget).trans h.item, fun pos' => ?_⟩
  rw [hview]
  by_cases heq : pos' = pos
  · subst heq
    simp [hpays]
  · rw [Function.update_of_ne heq, h.view]
    simp [heq]

omit [DecidableEq P] in
theorem Cleared.empty_bag (h : Cleared e w w' p entry gone) (hloose : loosePositions ⊆ gone)
    (hpos : pos ∈ wornBagPositions) (hnot : pos ∉ gone) (hg : w.view p pos = some g)
    (hwhole : w.PaysWhole p entry pos) (j : Nat) : w'.held (.bagslot g j) = none := by
  refine Option.eq_none_iff_forall_not_mem.mpr fun x hx => ?_
  obtain ⟨hlt, hbag, -⟩ := h.sound.shown g j x hx
  have hworn := mem_wornBagPositions.mp hpos
  have hfirst : pos.1 = INVENTORY_SLOT_BAG_0 := hworn.1
  have hne : pos.2 ≠ INVENTORY_SLOT_BAG_0 := by
    unfold INVENTORY_SLOT_BAG_0
    omega
  have hheld : w'.held (.slot p pos.2) = some g := by
    rw [← h.view_of_not_mem hnot, Holdings.view, if_pos hfirst] at hg
    exact hg
  have hsize : w'.getBagSize g ≤ MAX_BAG_SIZE := h.sound.slots_le hheld
  have hget : w'.getBagByPos p pos.2 = some g := by
    rw [getBagByPos, if_pos (isBagSlot_iff.mpr (.inl hworn.2)), hheld]
    exact Option.filter_eq_some_iff.mpr ⟨rfl, hbag⟩
  have hview : w'.view p (pos.2, j) = some x := by
    rw [Holdings.view, if_neg hne, hget]
    dsimp only
    rw [if_pos hlt]
    exact hx
  have hmem : (pos.2, j) ∈ gone := hloose <| mem_loosePositions.mpr <| .inr
    ⟨hworn.2.1, hworn.2.2, Nat.lt_of_lt_of_le hlt hsize⟩
  have hold := h.shrunk.view _ _ hview
  rw [h.view, if_pos ⟨hmem, hwhole hpos j x hold⟩] at hview
  cases hview

omit [DecidableEq P] in
theorem sum_weight (hl : l.Nodup) (hsub : l ⊆ payPositions) (f : Pos → Nat) :
    ∑ pos ∈ positions, (if pos ∈ l then f pos else 0) = (l.map f).sum := by
  have hinter : positions ∩ l.toFinset = l.toFinset := by
    refine Finset.inter_eq_right.mpr fun pos hpos => ?_
    exact payPositions_sub (hsub (List.mem_toFinset.mp hpos))
  have hmem : ∀ pos, (if pos ∈ l then f pos else 0) = if pos ∈ l.toFinset then f pos else 0 :=
    fun pos => by simp only [List.mem_toFinset]
  rw [Finset.sum_congr rfl fun pos _ => hmem pos, Finset.sum_ite_mem, hinter,
    List.sum_toFinset f hl]

omit [DecidableEq P] in
theorem Cleared.took (h : Cleared e w w' p entry gone) (hgone : gone.Nodup)
    (hsub : gone ⊆ payPositions) : Took w w' p entry (w.units p entry gone) := by
  have hweight : ∀ x pos, w'.weight p x pos +
      (if x = entry then (if pos ∈ gone then w.paying p entry pos else 0) else 0) =
        w.weight p x pos := by
    intro x pos
    have hcount : ∀ y g, w'.entryCount y none g = w.entryCount y none g :=
      fun y g => entryCount_congr (congrFun h.item g)
    have hcount' : w'.entryCount x none = w.entryCount x none := funext (hcount x)
    unfold weight
    rw [h.view, hcount']
    by_cases hmem : pos ∈ gone
    · cases hpays : w.paysWith p entry pos with
      | none => simp [hmem, paying_none hpays]
      | some g =>
        obtain ⟨hview, hentry⟩ := paysWith_view hpays
        simp only [hmem, paying_some hpays, hview, true_and, ne_eq, reduceCtorEq, not_false_eq_true,
          if_true, Option.elim_none, Option.elim_some, entryCount_none, hentry, Nat.zero_add]
        simp only [eq_comm]
    · simp [hmem]
  refine ⟨h.shrunk, fun x => ?_, fun pos g hg hpay => ?_⟩
  · have hsum : ∑ pos ∈ positions, (if x = entry then
        (if pos ∈ gone then w.paying p entry pos else 0) else 0) =
          if x = entry then w.units p entry gone else 0 := by
      split_ifs
      · exact sum_weight hgone hsub _
      · exact Finset.sum_const_zero
    have hadd := Finset.sum_congr (rfl : positions = positions) fun pos _ => hweight x pos
    rw [Finset.sum_add_distrib, hsum] at hadd
    exact hadd
  · rw [h.item, h.view]
    refine ⟨?_, rfl⟩
    rw [if_neg]
    · exact hg
    · rintro ⟨hmem, hne⟩
      exact hne (hpay (hsub hmem))

omit [DecidableEq P] in
theorem Violated.later (h : Violated w w' p entry count) (hs : Shrunk w' w'' p) :
    Violated w w'' p entry count := by
  rcases h with htotal | ⟨pos, g, hg, hpays, hgone⟩
  · refine .inl ?_
    have := hs.total_le (x := entry)
    omega
  · exact .inr ⟨pos, g, hg, hpays, fun hview => hgone (hs.view pos g hview)⟩

omit [DecidableEq P] in
theorem Violated.not_took (h : Violated w w' p entry count) (hk : k ≤ count) :
    ¬Took w w' p entry k := by
  intro htook
  rcases h with htotal | ⟨pos, g, hg, hpays, hgone⟩
  · have hsum := htook.total entry
    rw [if_pos rfl] at hsum
    omega
  · exact hgone (htook.kept pos g hg fun _ => hpays).1

theorem Cleared.violated_wrap (h : Cleared e w w' p entry gone) (hgone : gone.Nodup)
    (hsub : gone ⊆ payPositions) (hpos : pos ∈ payPositions) (hnot : pos ∉ gone)
    (hpays : w.paysWith p entry pos = some g)
    (hover : count < w.units p entry gone + (w.item g).count) :
    Violated w (w'.destroyItem p pos) p entry count := by
  have hget := (paysWith_some ((h.paysWith hpos hnot).trans hpays)).1
  obtain ⟨hview, hentry⟩ := paysWith_view hpays
  have hweight : w'.weight p entry pos = (w.item g).count := by
    rw [weight, h.view_of_not_mem hnot, hview, Option.elim_some, entryCount_none, h.item, if_pos hentry]
  have hlost := shrunk_destroyItem.total_empty (x := entry) (payPositions_sub hpos)
    (destroyItem_view hget)
  have htotal := (h.took hgone hsub).total entry
  rw [if_pos rfl] at htotal
  refine .inl ?_
  omega

theorem Cleared.violated_bag (h : Cleared e w w' p entry gone) (hworn : pos ∈ wornBagPositions)
    (hpos : pos ∈ payPositions) (hnot : pos ∉ gone) (hpays : w.paysWith p entry pos = some g)
    (hwhole : ¬w.PaysWhole p entry pos) : Violated w (w'.destroyItem p pos) p entry count := by
  have hget := (paysWith_some ((h.paysWith hpos hnot).trans hpays)).1
  unfold PaysWhole at hwhole
  push Not at hwhole
  obtain ⟨-, s, x, hx, hnone⟩ := hwhole
  refine .inr ⟨_, x, hx, hnone, ?_⟩
  rw [destroyItem_contents hget hworn]
  exact fun heq => nomatch heq

omit [DecidableEq P] in
theorem Cleared.took_split (h : Cleared e w w' p entry gone) (hgone : gone.Nodup)
    (hsub : gone ⊆ payPositions) (hpos : pos ∈ payPositions) (hnot : pos ∉ gone)
    (hpays : w.paysWith p entry pos = some g) (hk : k ≤ (w.item g).count) :
    Took w (w'.setCount g ((w.item g).count - k)) p entry (w.units p entry gone + k) := by
  have htook := h.took hgone hsub
  obtain ⟨hview, hentry⟩ := paysWith_view hpays
  have hview' : w'.view p pos = some g := (h.view_of_not_mem hnot).trans hview
  have hcount : (w'.item g).count = (w.item g).count := by rw [h.item]
  have hsame : ∀ pos' x, w'.view p pos' = some x → pos' ≠ pos →
      (w'.setCount g ((w.item g).count - k)).item x = w'.item x := by
    intro pos' x hx hne
    refine setItem_ne fun heq => hne ?_
    rw [heq] at hx
    exact (view_single h.sound hx hview').2
  have hshrunk : Shrunk w' (w'.setCount g ((w.item g).count - k)) p :=
    shrunk_setCount (hcount ▸ Nat.sub_le _ _)
  refine ⟨htook.shrunk.trans hshrunk, fun x => ?_, fun pos' x hx hpay => ?_⟩
  · have hrest : ∑ pos' ∈ positions.erase pos,
        (w'.setCount g ((w.item g).count - k)).weight p x pos' =
          ∑ pos' ∈ positions.erase pos, w'.weight p x pos' := by
      refine Finset.sum_congr rfl fun pos' hmem => ?_
      unfold weight
      rw [setCount_view]
      cases hx : w'.view p pos' with
      | none => rfl
      | some y => exact entryCount_congr (hsame pos' y hx (Finset.ne_of_mem_erase hmem))
    have hold : w'.weight p x pos = if entry = x then (w.item g).count else 0 := by
      rw [weight, hview', Option.elim_some, entryCount_none, h.item, hentry]
    have hnew : (w'.setCount g ((w.item g).count - k)).weight p x pos =
        if entry = x then (w.item g).count - k else 0 := by
      have hitem : ((w'.setCount g ((w.item g).count - k)).item g).entry = entry ∧
          ((w'.setCount g ((w.item g).count - k)).item g).count = (w.item g).count - k := by
        rw [setCount, setItem_same, h.item]
        exact ⟨hentry, rfl⟩
      rw [weight, setCount_view, hview', Option.elim_some, entryCount_none, hitem.1, hitem.2]
    have hadd := Finset.add_sum_erase positions
      ((w'.setCount g ((w.item g).count - k)).weight p x) (payPositions_sub hpos)
    have hadd' := Finset.add_sum_erase positions (w'.weight p x) (payPositions_sub hpos)
    have htotal := htook.total x
    change _ = (w'.setCount g ((w.item g).count - k)).total p x at hadd
    change _ = w'.total p x at hadd'
    rw [hrest, hnew] at hadd
    rw [hold] at hadd'
    by_cases hx : x = entry
    · subst hx
      simp only [if_true] at hadd hadd' htotal ⊢
      omega
    · simp only [hx, Ne.symm hx, if_false] at hadd hadd' htotal ⊢
      omega
  · obtain ⟨hkept, hitem⟩ := htook.kept pos' x hx hpay
    refine ⟨by rwa [setCount_view], (hsame pos' x hkept fun heq => ?_).trans hitem⟩
    rw [heq, hpays] at hpay
    exact absurd (hpay hpos) (Option.some_ne_none g)

end Holdings

end SkyfireBG
