import SkyfireBG.Inventory.Equip
import SkyfireBG.Inventory.Stored

/-!
# SkyfireBG.Inventory.Equipped

What equipping does to the items a player has: one more of what is put on, and nothing is lost when
the off hand is emptied.  The search for a slot changes nothing where it leaves the off hand alone.
-/

namespace SkyfireBG

namespace Belongings

variable {P : Type} {e : ItemStores} {b : Belongings P} {c : Equipper P} {p : P}
  {entry slot g : Nat} {proto : ItemTemplate} {swap : Bool}

/-- How many items of an entry player `p` has, in the inventory and in the mails. -/
def amount (b : Belongings P) (p : P) (entry : Nat) : Nat :=
  b.holdings.total p entry +
    (b.mailed.map fun i => if i.entry = entry then i.count else 0).sum

structure Same (b b' : Belongings P) : Prop where
  held : b'.holdings.held = b.holdings.held
  item : ∀ pl g, b.holdings.held pl = some g → b'.holdings.item g = b.holdings.item g
  mailed : b'.mailed = b.mailed

theorem Same.refl : Same b b := ⟨rfl, fun _ _ _ => rfl, rfl⟩

theorem same_newItem {i : Item P} (hw : Holdings.Sound e b.holdings) :
    Same b { b with holdings := (b.holdings.newItem i).2 } :=
  ⟨rfl, fun _ _ hg => Holdings.newItem_item hw hg, rfl⟩

theorem Same.kept {b' : Belongings P} (h : Same b b') :
    Holdings.Reduced b.holdings b'.holdings p ∧ b'.holdings.view p = b.holdings.view p ∧
      ∀ x, b'.holdings.loose p x = b.holdings.loose p x := by
  obtain ⟨hred, hview⟩ := Holdings.view_kept (p := p) h.held h.item
  refine ⟨hred, hview, fun x => congrArg List.sum (List.map_congr_left fun pos _ => ?_)⟩
  refine Holdings.paysWith_congr (hred.getItemByPos_eq (by rw [hview])) fun g hg => ?_
  exact h.item _ g (Holdings.held_of_view (Holdings.view_of_getItemByPos hg))

theorem Same.amount {b' : Belongings P} (h : Same b b') (hw : Holdings.Sound e b.holdings)
    (hw' : Holdings.Sound e b'.holdings) (x : Nat) : b'.amount p x = b.amount p x := by
  have htotal : b'.holdings.total p x = b.holdings.total p x :=
    Holdings.total_congr hw hw' h.kept.2.1 fun _ g hg => h.item _ g (Holdings.held_of_view hg)
  rw [Belongings.amount, Belongings.amount, htotal, h.mailed]

variable [DecidableEq P]

/-- The off hand is left alone by `FindEquipSlot`. -/
def HandsFree (b : Belongings P) (p : P) (proto : ItemTemplate) : Prop :=
  b.holdings.forcesUnequip p proto = true → b.holdings.getItemByPos p offhand = none

/-- `CanEquipNewItem` gets as far as `FindEquipSlot`. -/
def LooksForSlot (b : Belongings P) (c : Equipper P) (e : ItemStores) (p : P)
    (proto : ItemTemplate) : Prop :=
  let made := b.holdings.newItem { proto := proto, count := 1, owner := some p }
  (made.2.canTakeMoreSimilarItems p e proto.itemId 1 (some made.1)).1 = .ok ∧
    Holdings.canEquipNow c proto = .ok

omit [DecidableEq P] in
theorem HandsFree.newItem {i : Item P} (hw : Holdings.Sound e b.holdings)
    (h : b.HandsFree p proto) :
    HandsFree { b with holdings := (b.holdings.newItem i).2 } p proto := by
  obtain ⟨-, -, hred, hview⟩ := Holdings.fresh_newItem (p := p) (i := i) hw
  have hget : ∀ pos, (b.holdings.newItem i).2.getItemByPos p pos = b.holdings.getItemByPos p pos :=
    fun pos => hred.getItemByPos_eq (by rw [hview])
  unfold HandsFree Holdings.forcesUnequip at h ⊢
  simp only [hget]
  intro hforce
  refine h ?_
  have hany : ((b.holdings.getItemByPos p mainhand).any fun g =>
        ((b.holdings.newItem i).2.item g).proto.isPolearmOrStaff) =
      (b.holdings.getItemByPos p mainhand).any fun g =>
        (b.holdings.item g).proto.isPolearmOrStaff := by
    cases hg : b.holdings.getItemByPos p mainhand with
    | none => rfl
    | some g =>
      have hheld := Holdings.held_of_view (Holdings.view_of_getItemByPos hg)
      simp only [Option.any_some, Holdings.newItem_item hw hheld]
  rwa [← hany]

theorem findEquipSlot_same (h : b.HandsFree p proto) :
    (b.findEquipSlot c e p proto slot swap).2 = b := by
  have hkept : (if b.holdings.forcesUnequip p proto then b.autoUnequipOffhandIfNeed c e p true
      else b) = b := by
    split
    · rename_i hforce
      rw [autoUnequipOffhandIfNeed, h hforce]
    · rfl
  simp only [findEquipSlot, hkept]
  split
  · rfl
  · split <;> rfl

theorem findEquipSlot_asked (h : b.HandsFree p proto) (hslot : slot ≠ NULL_SLOT)
    (hfound : (b.findEquipSlot c e p proto slot false).1 ≠ NULL_SLOT) :
    (b.findEquipSlot c e p proto slot false).1 = slot ∧
      b.holdings.getItemByPos p (INVENTORY_SLOT_BAG_0, slot) = none := by
  have hsame : (b.findEquipSlot c e p proto slot false).2 = b := findEquipSlot_same h
  simp only [findEquipSlot, if_pos hslot] at hfound hsame ⊢
  rw [hsame] at hfound ⊢
  split at hfound
  · rename_i hfree
    rw [if_pos hfree]
    simp only [Bool.false_or, Bool.and_eq_true, Option.isNone_iff_eq_none] at hfree
    exact ⟨rfl, hfree.1⟩
  · exact absurd rfl hfound

theorem canEquipItem_same
    (h : (b.holdings.canTakeMoreSimilarItems p e (b.holdings.item g).entry
        (b.holdings.item g).count (some g)).1 = .ok →
      Holdings.canEquipNow c (b.holdings.item g).proto = .ok →
        b.HandsFree p (b.holdings.item g).proto) (hslot : slot ≠ NULL_SLOT) :
    (b.canEquipItem c e p slot g false).2.2 = b ∧
      ((b.canEquipItem c e p slot g false).1 = .ok →
        (b.canEquipItem c e p slot g false).2.1 = slot ∧
        b.holdings.getItemByPos p (INVENTORY_SLOT_BAG_0, slot) = none) := by
  simp only [canEquipItem]
  split
  · exact ⟨rfl, fun hok => by cases hok⟩
  split
  · exact ⟨rfl, fun hok => by cases hok⟩
  split_ifs with htake hnow hfound hres
  · exact ⟨rfl, fun hok => absurd hok htake⟩
  · exact ⟨rfl, fun hok => absurd hok hnow⟩
  all_goals
    have hfree := h (not_not.mp htake) (not_not.mp hnow)
    have hsame : (b.findEquipSlot c e p (b.holdings.item g).proto slot false).2 = b :=
      findEquipSlot_same hfree
  · exact ⟨hsame, fun hok => by cases hok⟩
  · exact ⟨hsame, fun _ => findEquipSlot_asked hfree hslot hfound⟩
  · exact ⟨hsame, fun hok => absurd hok hres⟩

omit [DecidableEq P] in
theorem create_one (proto : ItemTemplate) (p : P) : Item.create proto 1 (some p) =
    some { proto := proto, count := 1, owner := some p } := by
  rw [Item.create, if_neg (Nat.lt_irrefl 1), Nat.min_eq_left proto.getMaxStackSize_pos]

theorem canEquipNewItem_same (hw : Holdings.Sound e b.holdings)
    (hstore : e.store entry = some proto) (h : b.LooksForSlot c e p proto → b.HandsFree p proto)
    (hslot : slot ≠ NULL_SLOT) :
    Same b (b.canEquipNewItem c e p slot entry false).2.2 ∧
      Holdings.Sound e (b.canEquipNewItem c e p slot entry false).2.2.holdings ∧
      ((b.canEquipNewItem c e p slot entry false).1 = .ok →
        (b.canEquipNewItem c e p slot entry false).2.1 = slot ∧
        b.holdings.getItemByPos p (INVENTORY_SLOT_BAG_0, slot) = none) := by
  set i : Item P := { proto := proto, count := 1, owner := some p } with hi
  obtain ⟨hsound, -, hred, hview⟩ := Holdings.fresh_newItem (p := p) (i := i) hw
  simp only [canEquipNewItem, hstore, Option.bind_some, create_one, ← hi]
  have hnew : (b.holdings.newItem i).2.item (b.holdings.newItem i).1 = i := by
    simp only [Holdings.newItem, Function.update_self]
  set b' : Belongings P := { b with holdings := (b.holdings.newItem i).2 } with hb'
  have hfree : (b'.holdings.canTakeMoreSimilarItems p e
        (b'.holdings.item (b.holdings.newItem i).1).entry
        (b'.holdings.item (b.holdings.newItem i).1).count (some (b.holdings.newItem i).1)).1 = .ok →
      Holdings.canEquipNow c (b'.holdings.item (b.holdings.newItem i).1).proto = .ok →
        b'.HandsFree p (b'.holdings.item (b.holdings.newItem i).1).proto := by
    simp only [hb', hnew]
    intro htake hnow
    exact (h ⟨htake, hnow⟩).newItem hw
  obtain ⟨hkept, hasked⟩ : (b'.canEquipItem c e p slot (b.holdings.newItem i).1 false).2.2 = b' ∧
      ((b'.canEquipItem c e p slot (b.holdings.newItem i).1 false).1 = .ok →
        (b'.canEquipItem c e p slot (b.holdings.newItem i).1 false).2.1 = slot ∧
        b'.holdings.getItemByPos p (INVENTORY_SLOT_BAG_0, slot) = none) :=
    canEquipItem_same hfree hslot
  rw [hkept]
  refine ⟨same_newItem hw, hsound, fun hok => ⟨(hasked hok).1, ?_⟩⟩
  have hnone := (hasked hok).2
  rwa [hb', hred.getItemByPos_eq (by rw [hview])] at hnone

theorem equipItem_empty {w : Holdings P} {pos : Pos} (hempty : w.getItemByPos p pos = none) :
    ∃ i : Item P, w.equipItem p pos g = (some g, (w.setItem g i).put (.slot p pos.2) g) ∧
      i.proto = (w.item g).proto ∧ i.count = (w.item g).count := by
  rw [Holdings.equipItem, hempty]
  exact ⟨_, rfl, rfl, rfl⟩

theorem stocked_equipNewItem {w : Holdings P} (hw : Holdings.Sound e w)
    (hstore : e.store proto.itemId = some proto)
    (huse : w.Usable p (INVENTORY_SLOT_BAG_0, slot))
    (hempty : w.getItemByPos p (INVENTORY_SLOT_BAG_0, slot) = none) :
    Holdings.Stocked e p proto.itemId 1 w
        (w.equipNewItem p e (INVENTORY_SLOT_BAG_0, slot) proto.itemId).2 ∧
      (w.equipNewItem p e (INVENTORY_SLOT_BAG_0, slot) proto.itemId).1.isSome = true := by
  set i : Item P := { proto := proto, count := 1, owner := some p } with hi
  obtain ⟨hw₁, hspare, hred, hview⟩ := Holdings.fresh_newItem (p := p) (i := i) hw
  set w₁ := (w.newItem i).2 with hw₁'
  have hnone : w₁.getItemByPos p (INVENTORY_SLOT_BAG_0, slot) = none := by
    rw [hred.getItemByPos_eq (by rw [hview]), hempty]
  obtain ⟨i', hequip, hproto, hcount⟩ := equipItem_empty (g := w.nextGuid) hnone
  have hold : w₁.item w.nextGuid = i := by
    simp only [hw₁', Holdings.newItem, Function.update_self]
  rw [hold] at hproto hcount
  have hequip : w.equipNewItem p e (INVENTORY_SLOT_BAG_0, slot) proto.itemId =
      (some w.nextGuid, (w₁.setItem w.nextGuid i').put (.slot p slot) w.nextGuid) := by
    rw [Holdings.equipNewItem, hstore, Option.bind_some, create_one]
    exact hequip
  rw [hequip]
  set w' := (w₁.setItem w.nextGuid i').put (.slot p slot) w.nextGuid with hw'
  have hitem : ∀ h, h ≠ w.nextGuid → w'.item h = w₁.item h := fun h => Holdings.setItem_ne
  have hnew : w'.item w.nextGuid = i' := Holdings.setItem_same
  obtain ⟨hsound, -, htotal⟩ := Holdings.put_adds hw₁
    (show w'.held = Function.update w₁.held (w₁.placeOf p (INVENTORY_SLOT_BAG_0, slot)) _ from rfl)
    hitem (Nat.le_refl _) (hred.usable.mpr huse).exists
    (by rw [← (hred.usable.mpr huse).getItemByPos_eq, hnone]) hspare.absent
    ⟨by rw [Item.entry, hnew, hproto, hstore], by rw [hnew, hcount]; exact Nat.one_pos,
      by rw [hnew, hproto, hcount]; exact proto.getMaxStackSize_pos, hspare.old⟩
  refine ⟨⟨hsound, fun x => ?_⟩, rfl⟩
  rw [htotal, Item.entry, hnew, hproto, hcount]
  rw [Holdings.total_congr hw hw₁ hview fun _ _ hh =>
    Holdings.newItem_item hw (Holdings.held_of_view hh)]

theorem amount_autoUnequip {force : Bool} (hw : Holdings.Sound e b.holdings) (x : Nat) :
    (b.autoUnequipOffhandIfNeed c e p force).amount p x = b.amount p x := by
  unfold autoUnequipOffhandIfNeed
  cases hget : b.holdings.getItemByPos p offhand with
  | none => rfl
  | some g =>
    dsimp only
    split
    · rfl
    have hplain : isBagPos offhand = false := by decide
    obtain ⟨hw', hred, hview, htotal⟩ := Holdings.reduced_clear hw hget hplain
    have hseen := Holdings.view_of_getItemByPos hget
    have hheld := Holdings.held_of_view hseen
    have hremove : b.holdings.removeItem p offhand =
        b.holdings.clear (b.holdings.placeOf p offhand) := by
      rw [Holdings.removeItem, hget]
    split
    · rename_i hok
      have hstore := hw.known _ g hheld
      have hplan := Holdings.canStoreItem_fits hstore (.inr rfl) hok
      rw [← Holdings.canStore] at hplan
      have hcount := (hw.counted _ g hheld).1
      have hout : ∀ g', some g = some g' → ∀ pos,
          (b.holdings.clear (b.holdings.placeOf p offhand)).view p pos ≠ some g' := by
        intro g' hg' pos hpos
        cases hg'
        obtain ⟨hold, -, -⟩ := hred.seen pos g hpos
        rw [(Holdings.view_single hw hold hseen).2, hview, Function.update_self] at hpos
        cases hpos
      have hfits := (hplan.fits hcount).reduced hred hout
      have hspare : (b.holdings.clear (b.holdings.placeOf p offhand)).Spare g
          (b.holdings.item g).proto :=
        ⟨hw.single.absent_clear hheld, hw.fresh _ g hheld, rfl⟩
      have hsum := hplan.sum
      rw [Nat.add_zero] at hsum
      have hne : (b.holdings.canStore p e (NULL_BAG, NULL_SLOT) [] g false).dest ≠ [] := by
        intro hnil
        rw [hnil] at hsum
        exact absurd hsum.symm (Nat.ne_of_gt hcount)
      obtain ⟨hstocked, -⟩ := Holdings.stocked_storeItem hw' hstore hspare hfits hne
      simp only [amount, hremove, hstocked.total, hsum]
      rw [← htotal x]
      rfl
    · simp only [amount, Holdings.moveItemFromInventory, hremove, List.map_append, List.sum_append,
        List.map_cons, List.map_nil, List.sum_cons, List.sum_nil]
      rw [← htotal x]
      simp only [eq_comm (a := x)]
      omega

end Belongings

end SkyfireBG
