import Mathlib.Algebra.BigOperators.Intervals
import SkyfireBG.Buyback.Data
import SkyfireBG.Inventory.Cleared
import SkyfireBG.Inventory.Stored

/-!
# SkyfireBG.Buyback.Shelf

What is in the buyback slots, next to what is in the rest of the inventory.

* `carried_add_shelfSum`      — both together are what the player has.
* `taken_whole`, `taken_part` — items leave the rest of the inventory.
* `shelf_clear`, `shelf_put`  — a buyback slot is emptied or filled.
* `shelf_store`               — what was in a slot is stored in the rest of the inventory.
-/

namespace SkyfireBG

namespace Holdings

variable {P : Type} {e : ItemStores} {w w' : Holdings P} {p : P} {pos : Pos} {g k n entry : Nat}
  {proto : ItemTemplate} {value value' : Nat → Nat}

theorem isBuybackSlot_iff {slot : Nat} : isBuybackSlot slot = true ↔ 74 ≤ slot ∧ slot < 86 := by
  simp only [isBuybackSlot, Bool.and_eq_true, decide_eq_true_eq]
  rfl

theorem exists_shelf (hk : isBuybackSlot k = true) : w.Exists p (INVENTORY_SLOT_BAG_0, k) := by
  rw [isBuybackSlot_iff] at hk
  rw [Exists, if_pos rfl, PLAYER_SLOT_END]
  omega

theorem isBagPos_shelf (hk : isBuybackSlot k = true) :
    isBagPos (INVENTORY_SLOT_BAG_0, k) = false := by
  rw [isBuybackSlot_iff] at hk
  rw [Bool.eq_false_iff, ne_eq, isBagPos_iff, isBagSlot_iff]
  omega

theorem placeOf_slot : w.placeOf p (INVENTORY_SLOT_BAG_0, k) = .slot p k := by
  rw [placeOf, if_pos rfl]

theorem Usable.ne_shelf (h : w.Usable p pos) (hk : isBuybackSlot k = true) :
    pos ≠ (INVENTORY_SLOT_BAG_0, k) := by
  rintro rfl
  rw [isBuybackSlot_iff] at hk
  simp [Usable, BANK_SLOT_BAG_END, KEYRING_SLOT_START, CURRENCYTOKEN_SLOT_END] at h
  omega

/-- The sum of `value` over what is in the buyback slots. -/
def shelfSum (w : Holdings P) (p : P) (value : Nat → Nat) : Nat :=
  ∑ slot ∈ Finset.Ico BUYBACK_SLOT_START BUYBACK_SLOT_END, (w.held (.slot p slot)).elim 0 value

def carried (w : Holdings P) (p : P) (entry : Nat) : Nat :=
  ∑ pos ∈ positions.filter fun pos =>
    ¬(pos.1 = INVENTORY_SLOT_BAG_0 ∧ isBuybackSlot pos.2 = true),
    (w.view p pos).elim 0 (w.entryCount entry none)

theorem carried_add_shelfSum :
    w.carried p entry + w.shelfSum p (w.entryCount entry none) = w.total p entry := by
  have hshelf : ∑ pos ∈ positions.filter fun pos =>
      pos.1 = INVENTORY_SLOT_BAG_0 ∧ isBuybackSlot pos.2 = true,
      (w.view p pos).elim 0 (w.entryCount entry none) =
        w.shelfSum p (w.entryCount entry none) := by
    refine (Finset.sum_bij (fun slot _ => (INVENTORY_SLOT_BAG_0, slot)) ?_ ?_ ?_ ?_).symm
    · intro slot hslot
      rw [Finset.mem_Ico] at hslot
      simp only [BUYBACK_SLOT_START, BUYBACK_SLOT_END] at hslot
      simp only [positions, PLAYER_SLOT_END, Finset.mem_filter, Finset.mem_union,
        Finset.mem_product, Finset.mem_singleton, Finset.mem_range, isBuybackSlot_iff]
      exact ⟨.inl ⟨trivial, by omega⟩, trivial, hslot⟩
    · intro a _ b _ hab
      exact congrArg Prod.snd hab
    · rintro ⟨b, slot⟩ hpos
      obtain ⟨-, rfl, hslot⟩ := Finset.mem_filter.mp hpos
      exact ⟨slot, Finset.mem_Ico.mpr (isBuybackSlot_iff.mp hslot), rfl⟩
    · intro slot _
      rw [view_slot]
  rw [carried, ← hshelf, Nat.add_comm, Finset.sum_filter_add_sum_filter_not]
  rfl

theorem shelfSum_congr
    (hheld : ∀ slot, isBuybackSlot slot = true → w'.held (.slot p slot) = w.held (.slot p slot))
    (hvalue : ∀ slot g, isBuybackSlot slot = true → w.held (.slot p slot) = some g →
      value' g = value g) : w'.shelfSum p value' = w.shelfSum p value := by
  refine Finset.sum_congr rfl fun slot hslot => ?_
  have hin : isBuybackSlot slot = true := isBuybackSlot_iff.mpr (Finset.mem_Ico.mp hslot)
  rw [hheld slot hin]
  cases hg : w.held (.slot p slot) with
  | none => rfl
  | some g => exact hvalue slot g hin hg

variable [DecidableEq P]

theorem shelfSum_update {x : Option Nat} (hk : isBuybackSlot k = true)
    (hheld : w'.held = Function.update w.held (.slot p k) x) :
    w'.shelfSum p value + (w.held (.slot p k)).elim 0 value =
      w.shelfSum p value + x.elim 0 value := by
  have hmem : k ∈ Finset.Ico BUYBACK_SLOT_START BUYBACK_SLOT_END :=
    Finset.mem_Ico.mpr (isBuybackSlot_iff.mp hk)
  have hrest : ∀ slot ∈ (Finset.Ico BUYBACK_SLOT_START BUYBACK_SLOT_END).erase k,
      (w'.held (.slot p slot)).elim 0 value = (w.held (.slot p slot)).elim 0 value := by
    intro slot hslot
    rw [hheld, Function.update_of_ne fun heq => (Finset.mem_erase.mp hslot).1 (Place.slot.inj heq).2]
  rw [shelfSum, shelfSum, ← Finset.add_sum_erase _ _ hmem, ← Finset.add_sum_erase _ _ hmem,
    Finset.sum_congr rfl hrest, hheld, Function.update_self]
  omega

structure OffShelf (w w' : Holdings P) (p : P) : Prop where
  held : ∀ slot, isBuybackSlot slot = true → w'.held (.slot p slot) = w.held (.slot p slot)
  item : ∀ slot g, isBuybackSlot slot = true → w.held (.slot p slot) = some g →
    w'.item g = w.item g

omit [DecidableEq P] in
theorem OffShelf.shelfSum (h : OffShelf w w' p) (entry : Nat) :
    w'.shelfSum p (w'.entryCount entry none) = w.shelfSum p (w.entryCount entry none) :=
  shelfSum_congr h.held fun slot g hslot hg => entryCount_congr (h.item slot g hslot hg)

/-- `n` items of a template have become a spare object. -/
structure Taken (e : ItemStores) (w w' : Holdings P) (p : P) (g n : Nat) (proto : ItemTemplate) :
    Prop where
  sound : Sound e w'
  spare : w'.Spare g proto
  known : e.store proto.itemId = some proto
  count : (w'.item g).count = n
  pos : 0 < n
  le : n ≤ proto.getMaxStackSize
  total : ∀ x, w'.total p x + (if x = proto.itemId then n else 0) = w.total p x
  shelf : OffShelf w w' p
  loose : ∀ h, w.Loose h → w'.Loose h ∧ w'.item h = w.item h ∧ h ≠ g

omit [DecidableEq P] in
theorem contents_none (hw : Sound e w) (hempty : w.isNotEmptyBag g = false) (j : Nat) :
    w.held (.bagslot g j) = none := by
  cases hj : w.held (.bagslot g j) with
  | none => rfl
  | some h =>
    obtain ⟨hlt, hbag, -⟩ := hw.shown g j h hj
    rw [isNotEmptyBag, hbag, Bool.true_and, Bool.not_eq_false', isEmpty, List.all_eq_true] at hempty
    have hnone := hempty j (List.mem_range.mpr hlt)
    rw [hj] at hnone
    cases hnone

theorem taken_whole (hw : Sound e w) (hget : w.getItemByPos p pos = some g)
    (hempty : w.isNotEmptyBag g = false) :
    Taken e w (w.removeItem p pos) p g (w.item g).count (w.item g).proto := by
  have hdestroy : w.removeItem p pos = w.destroyItem p pos := by
    simp [removeItem, destroyItem, hget, hempty]
  have hseen := view_of_getItemByPos hget
  have hheld := held_of_view hseen
  have huse := usable_of_getItemByPos hget
  have hclear : w.removeItem p pos = w.clear (w.placeOf p pos) := by rw [removeItem, hget]
  obtain ⟨hw', hview⟩ := destroyItem_exact hw hget fun _ => contents_none hw hempty
  rw [← hdestroy] at hw' hview
  have hitem : (w.removeItem p pos).item = w.item := by rw [hclear, clear_item]
  refine ⟨hw', ⟨?_, ?_, by rw [hitem]⟩, hw.known _ g hheld, by rw [hitem], (hw.counted _ g hheld).1,
    (hw.counted _ g hheld).2, ?_, ⟨fun slot hslot => ?_, fun _ _ _ _ => by rw [hitem]⟩, ?_⟩
  · rw [hclear]
    exact hw.single.absent_clear hheld
  · rw [hclear]
    exact hw.fresh _ g hheld
  · intro x
    have htotal : (w.removeItem p pos).total p x + w.entryCount x none g = w.total p x :=
      total_removed hw hw' hview hseen fun _ _ _ => by rw [hitem]
    rw [entryCount_none, Item.entry] at htotal
    simpa only [eq_comm] using htotal
  · rw [hclear, clear_held, Function.update_of_ne]
    intro heq
    refine huse.ne_shelf hslot ?_
    have hplace : w.placeOf p pos = w.placeOf p (INVENTORY_SLOT_BAG_0, slot) := by
      rw [placeOf_slot, heq]
    exact (placeOf_inj hw.single huse.exists (exists_shelf hslot) hplace).2
  · intro h hh
    refine ⟨⟨?_, ?_⟩, by rw [hitem], fun heq => hh.absent _ (heq ▸ hheld)⟩
    · rw [hclear]
      exact hh.absent.clear
    · rw [hclear]
      exact hh.old

omit [DecidableEq P] in
theorem cloneItem_some {i : Item P} (hn : 0 < n) (hle : n ≤ i.proto.getMaxStackSize) :
    ∃ i', i.cloneItem n (some p) = some i' ∧ i'.proto = i.proto ∧ i'.count = n := by
  have hnot : ¬n < 1 := Nat.not_lt.mpr hn
  simp only [Item.cloneItem, Item.create, if_neg hnot, Option.map_some]
  exact ⟨_, rfl, rfl, Nat.min_eq_left hle⟩

/-- What is missing from a stack of `c` is missing from the total. -/
theorem add_of_reweighed {a b c n : Nat} (h : a + c = b + (c - n)) (hn : n ≤ c) : a + n = b := by
  omega

theorem taken_part {i : Item P} (hw : Sound e w) (hget : w.getItemByPos p pos = some g) (hn : 0 < n)
    (hlt : n < (w.item g).count) (hproto : i.proto = (w.item g).proto) (hcount : i.count = n) :
    Taken e w ((w.newItem i).2.setCount g ((w.item g).count - n)) p w.nextGuid n
      (w.item g).proto := by
  have hseen := view_of_getItemByPos hget
  have hheld := held_of_view hseen
  have hfresh := hw.fresh _ g hheld
  obtain ⟨hw₁, hspare, -, hview⟩ := fresh_newItem (p := p) (i := i) hw
  set w₁ := (w.newItem i).2 with hw₁'
  have hold : ∀ h, h ≠ w.nextGuid → w₁.item h = w.item h :=
    fun h hne => Function.update_of_ne hne _ _
  have hg : w₁.item g = w.item g := hold g (Nat.ne_of_lt hfresh)
  have hle := (hw.counted _ g hheld).2
  set w₂ := w₁.setCount g ((w.item g).count - n) with hw₂
  have hother : ∀ h, h ≠ g → w₂.item h = w₁.item h := fun h hne => setItem_ne hne
  have hself : w₂.item g = { w.item g with count := (w.item g).count - n } := by
    rw [hw₂, setCount, setItem_same, hg]
  have hnew : w₂.item w.nextGuid = i := by
    rw [hother _ (Nat.ne_of_gt hfresh), hw₁', newItem]
    exact Function.update_self ..
  have hproto₂ : ∀ h, (w₂.item h).proto = (w₁.item h).proto := by
    intro h
    by_cases hh : h = g
    · rw [hh, hself, hg]
    · rw [hother h hh]
  have hw' : Sound e w₂ := by
    refine hw₁.reitem rfl (Nat.le_refl _) (fun pl h _ => hproto₂ h) fun pl h hh => ?_
    by_cases hhg : h = g
    · rw [hhg, hself, hg]
      exact ⟨Nat.sub_pos_of_lt hlt, Nat.le_trans (Nat.sub_le _ _) hle⟩
    · rw [hother h hhg]
      exact hw₁.counted pl h hh
  have hview₂ : w₂.view p = w₁.view p := setCount_view
  refine ⟨hw', ⟨hspare.absent, hspare.old, by rw [hnew, hproto]⟩, hw.known _ g hheld,
    by rw [hnew, hcount], hn, Nat.le_trans (Nat.le_of_lt hlt) hle, fun x => ?_,
    ⟨fun slot hslot => rfl, fun slot h hslot hh => ?_⟩, fun h hh => ?_⟩
  · have hseen₁ : w₁.view p pos = some g := by rw [hview, hseen]
    have htotal : w₂.total p x + w₁.entryCount x none g = w₁.total p x + w₂.entryCount x none g :=
      total_reweigh hw₁ hw' hview₂ hseen₁ hother
    have hentry : (w₂.item g).entry = (w.item g).entry := by rw [hself]; rfl
    have hless : (w₂.item g).count = (w.item g).count - n := by rw [hself]
    rw [total_congr hw hw₁ hview fun _ _ hh => newItem_item hw (held_of_view hh), entryCount_none,
      entryCount_none, hentry, hless, hg] at htotal
    show _ + (if x = (w.item g).entry then n else 0) = _
    by_cases hx : (w.item g).entry = x
    · rw [if_pos hx, if_pos hx] at htotal
      rw [if_pos hx.symm]
      exact add_of_reweighed htotal (Nat.le_of_lt hlt)
    · rw [if_neg hx, if_neg hx] at htotal
      rw [if_neg fun hc => hx hc.symm, Nat.add_zero]
      exact Nat.add_right_cancel htotal
  · have hne : h ≠ g := by
      rintro rfl
      exact (usable_of_getItemByPos hget).ne_shelf hslot
        (view_single hw hseen (view_slot.trans hh)).2
    rw [hother h hne]
    exact newItem_item hw hh
  · have hne : h ≠ g := fun heq => hh.absent _ (heq ▸ hheld)
    have hnot : h ≠ w.nextGuid := Nat.ne_of_lt hh.old
    exact ⟨⟨hh.absent, Nat.lt_succ_of_lt hh.old⟩, (hother h hne).trans (hold h hnot), hnot⟩

theorem clear_of_none (hk : w.held (.slot p k) = none) : w.clear (.slot p k) = w := by
  rw [clear, ← hk, Function.update_eq_self]

omit [DecidableEq P] in
theorem carried_update (hk : isBuybackSlot k = true) {x : Option Nat}
    (hview : w'.view p = Function.update (w.view p) (INVENTORY_SLOT_BAG_0, k) x)
    (hitem : w'.item = w.item) : w'.carried p entry = w.carried p entry := by
  refine Finset.sum_congr rfl fun pos hpos => ?_
  have hne : pos ≠ (INVENTORY_SLOT_BAG_0, k) := by
    rintro rfl
    exact (Finset.mem_filter.mp hpos).2 ⟨rfl, hk⟩
  rw [hview, Function.update_of_ne hne]
  cases w.view p pos with
  | none => rfl
  | some g => exact entryCount_congr (by rw [hitem])

theorem shelf_clear (hw : Sound e w) (hk : isBuybackSlot k = true) :
    Sound e (w.clear (.slot p k)) ∧
      (∀ x, (w.clear (.slot p k)).total p x + (w.held (.slot p k)).elim 0 (w.entryCount x none) =
        w.total p x) ∧
      ∀ x, (w.clear (.slot p k)).carried p x = w.carried p x := by
  cases hg : w.held (.slot p k) with
  | none =>
    rw [clear_of_none hg]
    exact ⟨hw, fun _ => Nat.add_zero _, fun _ => rfl⟩
  | some g =>
    obtain ⟨hw', -, hview, htotal⟩ :=
      reduced_clear_of_view hw (view_slot.trans hg) (isBagPos_shelf hk)
    rw [placeOf_slot] at hw' hview htotal
    refine ⟨hw', fun x => ?_, fun x => carried_update hk hview rfl⟩
    rw [Option.elim_some, entryCount_none]
    simpa only [eq_comm] using htotal x

theorem shelf_put (hw : Sound e w) (hk : isBuybackSlot k = true) (hempty : w.held (.slot p k) = none)
    (hg : w.Spare g proto) (hkeep : Keepable e w g) :
    Sound e (w.put (.slot p k) g) ∧
      (∀ x, (w.put (.slot p k) g).total p x =
        w.total p x + if x = proto.itemId then (w.item g).count else 0) ∧
      ∀ x, (w.put (.slot p k) g).carried p x = w.carried p x := by
  have hheld : (w.put (.slot p k) g).held =
      Function.update w.held (w.placeOf p (INVENTORY_SLOT_BAG_0, k)) (some g) := by
    rw [placeOf_slot, put_held]
  obtain ⟨hw', hview, htotal⟩ := put_adds hw hheld (fun _ _ => rfl) (Nat.le_refl _)
    (exists_shelf hk) (view_slot.trans hempty) hg.absent
    ⟨hkeep.known, hkeep.pos, hkeep.le, hkeep.fresh⟩
  refine ⟨hw', fun x => ?_, fun x => carried_update hk hview rfl⟩
  rw [htotal, put_item, Item.entry, hg.proto]

theorem shelf_store (hw : Sound e w) (hk : isBuybackSlot k = true)
    (hg : w.held (.slot p k) = some g) {dest : List ItemPosCount}
    (hok : (w.canStore p e (NULL_BAG, NULL_SLOT) [] g false).res = .ok)
    (hdest : (w.canStore p e (NULL_BAG, NULL_SLOT) [] g false).dest = dest) (w₁ w₂ : Holdings P)
    (hw₁ : w₁ = w.clear (.slot p k)) (hw₂ : w₂ = (w₁.storeItem p dest g).2) :
    Sound e w₂ ∧ OffShelf w₁ w₂ p ∧ Later w₁ w₂ g ∧ (∀ x, w₂.total p x = w.total p x) ∧
      ∀ x, w₂.carried p x =
        w.carried p x + if x = (w.item g).entry then (w.item g).count else 0 := by
  have hseen : w.view p (INVENTORY_SLOT_BAG_0, k) = some g := view_slot.trans hg
  obtain ⟨hsound, hred, hview, htotal⟩ := reduced_clear_of_view hw hseen (isBagPos_shelf hk)
  rw [placeOf_slot, ← hw₁] at hsound hred hview htotal
  have hstore := hw.known _ g hg
  have hcount := (hw.counted _ g hg).1
  have hplan := canStoreItem_fits hstore (.inr rfl) hok
  rw [← canStore, hdest] at hplan
  have hsum : (dest.map ItemPosCount.count).sum = (w.item g).count := hplan.sum
  have hout : ∀ g', some g = some g' → ∀ pos, w₁.view p pos ≠ some g' := by
    intro g' hg' pos hpos
    cases hg'
    rw [hview] at hpos
    obtain ⟨hne, hold⟩ := Storage.held_of_clear hpos
    exact hne (view_single hw hold hseen).2
  have hfits := (hplan.fits hcount).reduced hred hout
  have hspare : w₁.Spare g (w.item g).proto := by
    rw [hw₁]
    exact ⟨hw.single.absent_clear hg, hw.fresh _ g hg, rfl⟩
  have hne : dest ≠ [] := by
    rintro rfl
    exact absurd hsum.symm (Nat.ne_of_gt hcount)
  obtain ⟨hstocked, -, hframe⟩ := stocked_storeItem hsound hstore hspare hfits hne
  rw [← hw₂, hsum] at hstocked
  rw [← hw₂] at hframe
  have hoff : OffShelf w₁ w₂ p := by
    have hslot : ∀ slot, isBuybackSlot slot = true →
        (INVENTORY_SLOT_BAG_0, slot) ∉ dest.map ItemPosCount.pos := by
      intro slot hin hmem
      obtain ⟨d, hd, hpos⟩ := List.mem_map.mp hmem
      exact (hfits.room d hd).usable.ne_shelf hin hpos
    refine ⟨fun slot hin => ?_, fun slot h hin hh => ?_⟩
    · rw [← view_slot, ← view_slot]
      exact (hframe _ (hslot slot hin)).1
    · exact (hframe _ (hslot slot hin)).2 h (view_slot.trans hh)
  have hlater : Later w₁ w₂ g := by
    rw [hw₂]
    exact (separate_storeItem ⟨hsound.single, hsound.fresh⟩ ⟨hspare.absent, hspare.old⟩).2
  refine ⟨hstocked.sound, hoff, hlater, fun x => ?_, fun x => ?_⟩
  · rw [hstocked.total, ← htotal x]
    rfl
  · have hcarried : w₁.carried p x = w.carried p x := by
      rw [hw₁]
      exact (shelf_clear hw hk).2.2 x
    have hall : w₁.carried p x + w₁.shelfSum p (w₁.entryCount x none) = w₁.total p x :=
      carried_add_shelfSum
    have hall₂ : w₂.carried p x + w₂.shelfSum p (w₂.entryCount x none) = w₂.total p x :=
      carried_add_shelfSum
    rw [hoff.shelfSum, hstocked.total] at hall₂
    rw [← hcarried]
    show _ = _ + if x = (w.item g).proto.itemId then (w.item g).count else 0
    omega

end Holdings

/-!
## The next slot

The slot that the next sold item gets.
-/

namespace BuybackSlots

open Holdings (isBuybackSlot_iff)

variable {P : Type} {p : P} {s : BuybackSlots P}

def Occupied (p : P) (s : BuybackSlots P) (slot : Nat) : Prop := (s.itemIn p slot).isSome = true

structure Ready (p : P) (s : BuybackSlots P) : Prop where
  current : isBuybackSlot s.currentBuybackSlot = true
  free : ∀ slot, isBuybackSlot slot = true → ¬Occupied p s slot → s.timestamp slot = 0

def SeesFree (p : P) (s : BuybackSlots P) : Prop :=
  ¬Occupied p s s.currentBuybackSlot ∨ ¬Occupied p s BUYBACK_SLOT_START ∨
    ∀ slot, isBuybackSlot slot = true → Occupied p s slot

/-- After the loop `oldest_slot` is the one it began with or an older one. -/
theorem searchBuyBackSlot_spec (n i slot oldest_slot : Nat) :
    let r := (s.searchBuyBackSlot p n i slot (s.timestamp oldest_slot) oldest_slot).2
    (r = oldest_slot ∨
      (i ≤ r ∧ r < i + n) ∧ Occupied p s r ∧ s.timestamp r < s.timestamp oldest_slot) ∧
    ((∀ j, i ≤ j → j < i + n → Occupied p s j) →
      ∀ j, i ≤ j → j < i + n → s.timestamp r ≤ s.timestamp j) := by
  induction n generalizing i slot oldest_slot with
  | zero =>
    refine ⟨.inl rfl, fun _ j hij hjn => ?_⟩
    omega
  | succ n ih =>
    simp only [searchBuyBackSlot]
    by_cases hfree : (s.itemIn p i).isNone = true
    · rw [if_pos hfree]
      refine ⟨.inl rfl, fun hall => ?_⟩
      have hocc := hall i (Nat.le_refl _) (by omega)
      rw [Occupied, Option.isSome_iff_ne_none] at hocc
      exact absurd (Option.isNone_iff_eq_none.mp hfree) hocc
    rw [if_neg hfree]
    have hocc : Occupied p s i :=
      Option.isSome_iff_ne_none.mpr fun hnone => hfree (Option.isNone_iff_eq_none.mpr hnone)
    by_cases holder : s.timestamp oldest_slot > s.timestamp i
    · rw [if_pos holder]
      obtain ⟨hfrom, hmin⟩ := ih (i + 1) slot i
      set r := (s.searchBuyBackSlot p n (i + 1) slot (s.timestamp i) i).2
      have hle : s.timestamp r ≤ s.timestamp i := by
        rcases hfrom with heq | ⟨-, -, hlt⟩
        · rw [heq]
        · exact Nat.le_of_lt hlt
      refine ⟨.inr ?_, fun hall j hij hjn => ?_⟩
      · rcases hfrom with heq | ⟨hin, hr, hlt⟩
        · rw [heq]
          exact ⟨⟨Nat.le_refl _, by omega⟩, hocc, holder⟩
        · exact ⟨⟨by omega, by omega⟩, hr, Nat.lt_trans hlt holder⟩
      · by_cases hj : j = i
        · rw [hj]
          exact hle
        · exact hmin (fun j hij hjn => hall j (by omega) (by omega)) j (by omega) (by omega)
    · rw [if_neg holder]
      obtain ⟨hfrom, hmin⟩ := ih (i + 1) slot oldest_slot
      set r := (s.searchBuyBackSlot p n (i + 1) slot (s.timestamp oldest_slot) oldest_slot).2
      refine ⟨hfrom.imp_right fun ⟨hin, hr, hlt⟩ => ⟨⟨by omega, by omega⟩, hr, hlt⟩,
        fun hall j hij hjn => ?_⟩
      by_cases hj : j = i
      · rw [hj]
        rcases hfrom with heq | ⟨-, -, hlt⟩
        · rw [heq]
          exact Nat.le_of_not_lt holder
        · omega
      · exact hmin (fun j hij hjn => hall j (by omega) (by omega)) j (by omega) (by omega)

theorem nextBuyBackSlot_search (hocc : Occupied p s s.currentBuybackSlot) :
    s.nextBuyBackSlot p = (s.searchBuyBackSlot p 11 75 s.currentBuybackSlot
      (s.timestamp BUYBACK_SLOT_START) BUYBACK_SLOT_START).2 := by
  rw [nextBuyBackSlot]
  exact if_pos hocc

theorem nextBuyBackSlot_free (hfree : ¬Occupied p s s.currentBuybackSlot) :
    s.nextBuyBackSlot p = s.currentBuybackSlot := by
  rw [nextBuyBackSlot]
  exact if_neg hfree

theorem nextBuyBackSlot_isBuybackSlot (hs : Ready p s) :
    isBuybackSlot (s.nextBuyBackSlot p) = true := by
  by_cases hocc : Occupied p s s.currentBuybackSlot
  · rw [nextBuyBackSlot_search hocc]
    obtain ⟨hfrom, -⟩ := searchBuyBackSlot_spec (p := p) (s := s) 11 75 s.currentBuybackSlot
      BUYBACK_SLOT_START
    rw [isBuybackSlot_iff]
    rcases hfrom with heq | ⟨hin, -, -⟩
    · rw [heq, BUYBACK_SLOT_START]
      omega
    · omega
  · rw [nextBuyBackSlot_free hocc]
    exact hs.current

theorem nextBuyBackSlot_oldest (hs : Ready p s) (hsees : SeesFree p s)
    (hgoes : Occupied p s (s.nextBuyBackSlot p)) :
    (∀ slot, isBuybackSlot slot = true → Occupied p s slot) ∧
    ∀ slot, isBuybackSlot slot = true → s.timestamp (s.nextBuyBackSlot p) ≤ s.timestamp slot := by
  by_cases hocc : Occupied p s s.currentBuybackSlot
  swap
  · rw [nextBuyBackSlot_free hocc] at hgoes
    exact absurd hgoes hocc
  obtain ⟨hfrom, hmin⟩ := searchBuyBackSlot_spec (p := p) (s := s) 11 75 s.currentBuybackSlot
    BUYBACK_SLOT_START
  rw [← nextBuyBackSlot_search hocc] at hfrom hmin
  have hfirst : isBuybackSlot BUYBACK_SLOT_START = true := by decide
  have hall : ∀ slot, isBuybackSlot slot = true → Occupied p s slot := by
    rcases hsees with hcurrent | hstart | hall
    · exact absurd hocc hcurrent
    · -- nothing is older than a free slot
      rcases hfrom with heq | ⟨-, -, hlt⟩
      · rw [heq] at hgoes
        exact absurd hgoes hstart
      · rw [hs.free _ hfirst hstart] at hlt
        exact absurd hlt (Nat.not_lt_zero _)
    · exact hall
  refine ⟨hall, fun slot hslot => ?_⟩
  rw [isBuybackSlot_iff] at hslot
  by_cases heq : slot = BUYBACK_SLOT_START
  · rw [heq]
    rcases hfrom with heq | ⟨-, -, hlt⟩
    · rw [heq]
    · exact Nat.le_of_lt hlt
  · rw [BUYBACK_SLOT_START] at heq
    refine hmin (fun j hij hjn => hall j (isBuybackSlot_iff.mpr (by omega))) slot ?_ ?_ <;> omega

theorem nextBuyBackSlot_lost (hsees : ¬SeesFree p s) : Occupied p s (s.nextBuyBackSlot p) ∧
    ∃ slot, isBuybackSlot slot = true ∧ ¬Occupied p s slot := by
  simp only [SeesFree, not_or, not_not, not_forall] at hsees
  obtain ⟨hocc, hfirst, slot, hslot, hfree⟩ := hsees
  refine ⟨?_, slot, hslot, hfree⟩
  obtain ⟨hfrom, -⟩ := searchBuyBackSlot_spec (p := p) (s := s) 11 75 s.currentBuybackSlot
    BUYBACK_SLOT_START
  rw [← nextBuyBackSlot_search hocc] at hfrom
  rcases hfrom with heq | ⟨-, hr, -⟩
  · rw [heq]
    exact hfirst
  · exact hr

end BuybackSlots

end SkyfireBG
