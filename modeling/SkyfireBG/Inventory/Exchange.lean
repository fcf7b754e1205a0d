import SkyfireBG.Inventory.Sound

/-!
# SkyfireBG.Inventory.Exchange

How an item leaves an inventory for a trade, a mail, an auction or a guild bank, and how it comes
back: `CanUnequipItem`, `Item::CanBeTraded`, `MoveItemFromInventory` and `MoveItemToInventory`.

`Separate` says that no object is in two places and that a new guid is in none.  An object that is
in no place can be stored (`Separate.moveTo`); nothing else but clones of it gets into a place.
-/

namespace SkyfireBG

def ITEM_CLASS_PROJECTILE : Nat := 6
def INVTYPE_SHIELD : Nat := 14
def INVTYPE_HOLDABLE : Nat := 23
def INVTYPE_RELIC : Nat := 28

def ItemTemplate.canChangeEquipStateInCombat (proto : ItemTemplate) : Bool :=
  proto.inventoryType == INVTYPE_RELIC || proto.inventoryType == INVTYPE_SHIELD ||
    proto.inventoryType == INVTYPE_HOLDABLE || proto.itemClass == ITEM_CLASS_WEAPON ||
    proto.itemClass == ITEM_CLASS_PROJECTILE

structure Condition where
  inCombat : Bool := false
  inArena : Bool := false
  /-- `GetLootGUID`, when the player loots an item. -/
  lootGUID : Option Nat := none

namespace Holdings

variable {P : Type} (w : Holdings P)

def canUnequipItem (c : Condition) (p : P) (pos : Pos) (swap : Bool) : InventoryResult :=
  if !isEquipmentPos pos && !isBagPos pos then .ok
  else match w.getItemByPos p pos with
    | none => .ok
    | some g =>
      if (w.item g).lootGenerated then .alreadyLooted
      else if !(w.item g).proto.canChangeEquipStateInCombat && c.inCombat then .notInCombat
      else if !(w.item g).proto.canChangeEquipStateInCombat && c.inArena then .notDuringArenaMatch
      else if !swap && w.isNotEmptyBag g then .canOnlyDoWithEmptyBags
      else .ok

/-- `Item::CanBeTraded` for an item at `pos`; `cond` finds the players in the world. -/
def canBeTraded (cond : P → Option Condition) (pos : Pos) (g : Nat) (mail trade : Bool) : Bool :=
  let i := w.item g
  if i.lootGenerated then false
  else if (!mail || !i.isBoundAccountWide) && (i.soulBound && (!i.bopTradeable || !trade)) then false
  else if i.isBag && (isBagPos pos || !w.isEmpty g) then false
  else match i.owner.bind (fun p => (cond p).map (fun c => (p, c))) with
    | some (p, c) =>
      if w.canUnequipItem c p pos false ≠ .ok then false
      else if c.lootGUID = some g then false
      else !i.boundByEnchant
    | none => !i.boundByEnchant

variable [DecidableEq P]

def moveItemFromInventory (p : P) (pos : Pos) : Holdings P := w.removeItem p pos

def moveItemToInventory (p : P) (dest : List ItemPosCount) (g : Nat) : Holdings P :=
  let r := w.storeItem p dest g
  if r.1 = some g then r.2.setItem g { r.2.item g with owner := some p } else r.2

/-- `GetItemByGuid`: the position of an item that is equipped, carried or in the bank. -/
def getItemByGuid (p : P) (guid : Nat) : Option Pos :=
  let bagPositions (bags : List Nat) : List Pos :=
    bags.flatMap (fun b => ((w.getBagByPos p b).elim [] (fun g =>
      (List.range (w.getBagSize g)).map (fun j => (b, j)))))
  (((slotRange EQUIPMENT_SLOT_START INVENTORY_SLOT_ITEM_END ++
      slotRange KEYRING_SLOT_START CURRENCYTOKEN_SLOT_END ++
      slotRange BANK_SLOT_ITEM_START BANK_SLOT_ITEM_END).map (fun i => (INVENTORY_SLOT_BAG_0, i))) ++
    bagPositions inventoryBags ++ bagPositions bankBags).find?
      (fun pos => w.getItemByPos p pos = some guid)

/-! ## Where objects are -/

structure Separate (w : Holdings P) : Prop where
  single : Storage.Single w.held
  fresh : ∀ pl g, w.held pl = some g → g < w.nextGuid

/-- `g` has been given out and is in no place. -/
structure Loose (w : Holdings P) (g : Nat) : Prop where
  absent : Storage.Absent w.held g
  old : g < w.nextGuid

variable {w} {p : P} {pos : Pos} {g h : Nat} {d : ItemPosCount} {dest : List ItemPosCount}

/-- What a place holds later was in some place before, is `g`, or is new. -/
def Later (w w' : Holdings P) (g : Nat) : Prop :=
  w.nextGuid ≤ w'.nextGuid ∧ ∀ pl h, w'.held pl = some h →
    (∃ pl', w.held pl' = some h) ∨ h = g ∨ w.nextGuid ≤ h

omit [DecidableEq P] in
theorem Later.refl : Later w w g := ⟨Nat.le_refl _, fun pl _ hh => .inl ⟨pl, hh⟩⟩

omit [DecidableEq P] in
theorem Later.trans {w₁ w₂ w₃ : Holdings P} (h₁ : Later w₁ w₂ g) (h₂ : Later w₂ w₃ g) :
    Later w₁ w₃ g := by
  refine ⟨Nat.le_trans h₁.1 h₂.1, fun pl h hh => ?_⟩
  rcases h₂.2 pl h hh with ⟨pl', hh'⟩ | hg | hnew
  · exact h₁.2 pl' h hh'
  · exact .inr (.inl hg)
  · exact .inr (.inr (Nat.le_trans h₁.1 hnew))

omit [DecidableEq P] in
theorem Later.loose {w' : Holdings P} (hl : Later w w' g) (hh : w.Loose h) (hne : h ≠ g) :
    w'.Loose h := by
  refine ⟨fun pl hpl => ?_, Nat.lt_of_lt_of_le hh.old hl.1⟩
  rcases hl.2 pl h hpl with ⟨pl', hpl'⟩ | hg | hnew
  · exact hh.absent pl' hpl'
  · exact hne hg
  · exact absurd hh.old (Nat.not_lt.mpr hnew)

theorem putAt_cases (w : Holdings P) (p : P) (pos : Pos) (g : Nat) :
    (w.putAt p pos g).nextGuid = w.nextGuid ∧
    ((w.putAt p pos g).held = w.held ∨
      (w.putAt p pos g).held = Function.update w.held (w.placeOf p pos) (some g)) := by
  unfold putAt
  split
  · exact ⟨rfl, .inl rfl⟩
  · exact ⟨rfl, .inr rfl⟩

/-- A loose object can be put anywhere. -/
theorem Separate.putAt (hw : Separate w) (hg : w.Loose g) : Separate (w.putAt p pos g) := by
  obtain ⟨hnext, hheld | hheld⟩ := putAt_cases w p pos g
  · exact ⟨hheld ▸ hw.single, by rw [hheld, hnext]; exact hw.fresh⟩
  · refine ⟨hheld ▸ hw.single.put hg.absent, fun pl h hh => ?_⟩
    rw [hheld] at hh
    rw [hnext]
    by_cases hpl : pl = w.placeOf p pos
    · subst hpl
      rw [Function.update_self] at hh
      cases hh
      exact hg.old
    · rw [Function.update_of_ne hpl] at hh
      exact hw.fresh pl h hh

theorem later_putAt : Later w (w.putAt p pos g) g := by
  obtain ⟨hnext, hheld | hheld⟩ := putAt_cases w p pos g
  · exact ⟨Nat.le_of_eq hnext.symm, fun pl h hh => .inl ⟨pl, hheld ▸ hh⟩⟩
  · refine ⟨Nat.le_of_eq hnext.symm, fun pl h hh => ?_⟩
    rw [hheld] at hh
    by_cases hpl : pl = w.placeOf p pos
    · subst hpl
      rw [Function.update_self] at hh
      exact .inr (.inl (Option.some.inj hh).symm)
    · rw [Function.update_of_ne hpl] at hh
      exact .inl ⟨pl, hh⟩

omit [DecidableEq P] in
theorem Separate.congr {w' : Holdings P} (hw : Separate w) (hheld : w'.held = w.held)
    (hnext : w.nextGuid ≤ w'.nextGuid) : Separate w' :=
  ⟨hheld ▸ hw.single, fun pl g hg => Nat.lt_of_lt_of_le (hw.fresh pl g (hheld ▸ hg)) hnext⟩

omit [DecidableEq P] in
theorem Loose.congr {w' : Holdings P} (hg : w.Loose g) (hheld : w'.held = w.held)
    (hnext : w.nextGuid ≤ w'.nextGuid) : w'.Loose g :=
  ⟨hheld ▸ hg.absent, Nat.lt_of_lt_of_le hg.old hnext⟩

omit [DecidableEq P] in
theorem Later.of_eq {w' : Holdings P} (hheld : w'.held = w.held) (hnext : w.nextGuid ≤ w'.nextGuid) :
    Later w w' g :=
  ⟨hnext, fun pl _ hh => .inl ⟨pl, hheld ▸ hh⟩⟩

theorem storeEmpty_clone (hw : Separate w) {count : Nat} :
    Separate (w.storeEmpty p pos g count true).2 ∧
      ∀ x, Later w (w.storeEmpty p pos g count true).2 x := by
  simp only [storeEmpty, if_true]
  cases (w.item g).cloneItem count (some p) with
  | none => exact ⟨hw, fun _ => .refl⟩
  | some i =>
    simp only [Option.map_some, newItem]
    set w₁ : Holdings P :=
      { w with item := Function.update w.item w.nextGuid i, nextGuid := w.nextGuid + 1 } with hw₁
    set w₂ := w₁.setItem w.nextGuid ((w₁.item w.nextGuid).setBinding pos) with hw₂
    have hnext : w.nextGuid ≤ w₂.nextGuid := Nat.le_succ _
    have hloose : w₂.Loose w.nextGuid :=
      ⟨fun pl hpl => Nat.lt_irrefl _ (hw.fresh pl _ hpl), Nat.lt_succ_self _⟩
    have hw' : Separate w₂ := hw.congr rfl hnext
    refine ⟨hw'.putAt hloose, fun x => ?_⟩
    have hput : Later w₂ (w₂.putAt p pos w.nextGuid) w.nextGuid := later_putAt
    refine ⟨Nat.le_trans hnext hput.1, fun pl h hh => ?_⟩
    rcases hput.2 pl h hh with hold | hg | hnew
    · exact .inl hold
    · exact .inr (.inr (Nat.le_of_eq hg.symm))
    · exact .inr (.inr (Nat.le_trans hnext hnew))

theorem storeEmpty_item (hw : Separate w) (hg : w.Loose g) {count : Nat} :
    Separate (w.storeEmpty p pos g count false).2 ∧
      Later w (w.storeEmpty p pos g count false).2 g := by
  simp only [storeEmpty, Bool.false_eq_true, if_false]
  set w₂ := (w.setCount g count).setItem g (((w.setCount g count).item g).setBinding pos) with hw₂
  have hw' : Separate w₂ := hw.congr rfl (Nat.le_refl _)
  have hg' : w₂.Loose g := hg.congr rfl (Nat.le_refl _)
  have hput : Later w₂ (w₂.putAt p pos g) g := later_putAt
  exact ⟨hw'.putAt hg', (Later.of_eq rfl (Nat.le_refl _)).trans hput⟩

/-- A clone is a new object. -/
theorem storeAt_clone (hw : Separate w) :
    Separate (w.storeAt p d g true).2 ∧ ∀ x, Later w (w.storeAt p d g true).2 x := by
  unfold storeAt
  cases w.getItemByPos p d.pos with
  | none => exact storeEmpty_clone hw
  | some g2 => exact ⟨hw.congr rfl (Nat.le_refl _), fun _ => .of_eq rfl (Nat.le_refl _)⟩

theorem storeAt_item (hw : Separate w) (hg : w.Loose g) :
    Separate (w.storeAt p d g false).2 ∧ Later w (w.storeAt p d g false).2 g := by
  unfold storeAt
  cases w.getItemByPos p d.pos with
  | none => exact storeEmpty_item hw hg
  | some g2 => exact ⟨hw.congr rfl (Nat.le_refl _), .of_eq rfl (Nat.le_refl _)⟩

/-- `StoreItem` puts a loose object, and clones of it, into places of their own. -/
theorem separate_storeItem (hw : Separate w) (hg : w.Loose g) :
    Separate (w.storeItem p dest g).2 ∧ Later w (w.storeItem p dest g).2 g := by
  induction dest generalizing w with
  | nil => exact ⟨hw, .refl⟩
  | cons d ds ih =>
    cases ds with
    | nil => exact storeAt_item hw hg
    | cons d' ds =>
      have hclone : Separate (w.storeAt p d g true).2 ∧ ∀ x, Later w (w.storeAt p d g true).2 x :=
        storeAt_clone hw
      obtain ⟨hw₁, hlater⟩ := hclone
      have hg₁ : (w.storeAt p d g true).2.Loose g :=
        (hlater (g + 1)).loose hg (Nat.ne_of_lt (Nat.lt_succ_self g))
      obtain ⟨hw₂, hlater₂⟩ := ih hw₁ hg₁
      exact ⟨hw₂, (hlater g).trans hlater₂⟩

theorem Separate.moveTo (hw : Separate w) (hg : w.Loose g) :
    Separate (w.moveItemToInventory p dest g) ∧ Later w (w.moveItemToInventory p dest g) g := by
  have hstore : Separate (w.storeItem p dest g).2 ∧ Later w (w.storeItem p dest g).2 g :=
    separate_storeItem hw hg
  obtain ⟨hw₁, hlater⟩ := hstore
  unfold moveItemToInventory
  simp only
  split
  · exact ⟨hw₁.congr rfl (Nat.le_refl _), hlater.trans (.of_eq rfl (Nat.le_refl _))⟩
  · exact ⟨hw₁, hlater⟩

/-- An object taken out of an inventory is loose. -/
theorem Separate.moveFrom (hw : Separate w) (hpos : w.getItemByPos p pos = some g) :
    Separate (w.moveItemFromInventory p pos) ∧ (w.moveItemFromInventory p pos).Loose g ∧
      (w.moveItemFromInventory p pos).held = Function.update w.held (w.placeOf p pos) none := by
  have hheld : w.held (w.placeOf p pos) = some g := held_of_view (view_of_getItemByPos hpos)
  unfold moveItemFromInventory removeItem
  simp only [hpos]
  refine ⟨⟨hw.single.clear, fun pl h hh => ?_⟩, ⟨?_, hw.fresh _ g hheld⟩, rfl⟩
  · exact hw.fresh pl h (Storage.held_of_clear hh).2
  · exact hw.single.absent_clear hheld

/-! ## Taking out several items -/

/-- No player has `g` in a bag slot as a bag. -/
def Unworn (w : Holdings P) (g : Nat) : Prop :=
  (w.item g).isBag = true → ∀ q b, isBagSlot b = true → w.held (.slot q b) ≠ some g

/-- `w'` is `w` without some of the items. -/
structure Lighter (w' w : Holdings P) : Prop where
  held : ∀ pl g, w'.held pl = some g → w.held pl = some g
  proto : ∀ g, (w'.item g).proto = (w.item g).proto
  nextGuid : w'.nextGuid = w.nextGuid

section Lighter

variable {w' w'' : Holdings P} {q : P} {b : Nat} {o : Option P}

omit [DecidableEq P]

theorem Lighter.refl : Lighter w w := ⟨fun _ _ h => h, fun _ => rfl, rfl⟩

theorem Lighter.trans (h : Lighter w'' w') (h' : Lighter w' w) : Lighter w'' w where
  held pl g hg := h'.held pl g (h.held pl g hg)
  proto g := (h.proto g).trans (h'.proto g)
  nextGuid := h.nextGuid.trans h'.nextGuid

theorem Lighter.separate (h : Lighter w' w) (hw : Separate w) : Separate w' where
  single a b g ha hb := hw.single a b g (h.held a g ha) (h.held b g hb)
  fresh pl g hg := h.nextGuid ▸ hw.fresh pl g (h.held pl g hg)

theorem Lighter.loose (hl : Lighter w' w) (hg : w.Loose g) : w'.Loose g where
  absent pl hpl := hg.absent pl (hl.held pl g hpl)
  old := hl.nextGuid ▸ hg.old

theorem Lighter.isBag (h : Lighter w' w) : (w'.item g).isBag = (w.item g).isBag := by
  unfold Item.isBag
  rw [h.proto]

theorem Lighter.getBagSize (h : Lighter w' w) : w'.getBagSize b = w.getBagSize b := by
  unfold Holdings.getBagSize
  rw [h.proto]

theorem Lighter.unworn (h : Lighter w' w) (hg : w.Unworn g) : w'.Unworn g := by
  intro hbag q b hb hheld
  exact hg (h.isBag ▸ hbag) q b hb (h.held _ g hheld)

theorem lighter_owner : Lighter (w.setItem g { w.item g with owner := o }) w := by
  refine ⟨fun _ _ h => h, fun h => ?_, rfl⟩
  by_cases hg : h = g
  · subst hg
    simp
  · simp [hg]

theorem Lighter.getBagByPos (hl : Lighter w' w) (hg : w.Unworn g)
    (hrest : ∀ pl h, h ≠ g → w.held pl = some h → w'.held pl = some h) :
    w'.getBagByPos q b = w.getBagByPos q b := by
  unfold Holdings.getBagByPos
  by_cases hb : isBagSlot b = true
  · rw [if_pos hb, if_pos hb]
    cases hx : w.held (.slot q b) with
    | none =>
      cases hx' : w'.held (.slot q b) with
      | none => rfl
      | some x => simp [hl.held _ _ hx'] at hx
    | some x =>
      by_cases hxg : x = g
      · subst hxg
        have hbag : (w.item x).isBag = false := by
          by_contra hbag
          exact hg (by simpa using hbag) q b hb hx
        have hnone : (some x).filter (fun g => (w.item g).isBag) = none := by
          simp [Option.filter, hbag]
        cases hx' : w'.held (.slot q b) with
        | none => rw [hnone, Option.filter_none]
        | some y =>
          have hy : y = x := Option.some.inj ((hl.held _ _ hx').symm.trans hx)
          rw [hnone, hy]
          simp [Option.filter, hl.isBag, hbag]
      · rw [hrest _ x hxg hx]
        simp [Option.filter, hl.isBag]
  · rw [if_neg hb, if_neg hb]

/-- What is not taken out is found where it was, unless it was in a bag that was taken. -/
theorem Lighter.getItemByPos (hl : Lighter w' w) (hg : w.Unworn g)
    (hrest : ∀ pl h, h ≠ g → w.held pl = some h → w'.held pl = some h) (hne : h ≠ g)
    (hpos : w.getItemByPos p pos = some h) : w'.getItemByPos p pos = some h := by
  unfold Holdings.getItemByPos at hpos ⊢
  rw [hl.getBagByPos hg hrest]
  split at hpos
  · rename_i hc
    rw [if_pos hc]
    exact hrest _ h hne hpos
  · rename_i hc
    rw [if_neg hc]
    cases hb : w.getBagByPos p pos.1 with
    | none => simp [hb] at hpos
    | some b =>
      simp only [hb, hl.getBagSize] at hpos ⊢
      by_cases hlt : pos.2 < w.getBagSize b
      · rw [if_pos hlt] at hpos ⊢
        exact hrest _ h hne hpos
      · rw [if_neg hlt] at hpos
        cases hpos

end Lighter

omit [DecidableEq P] in
theorem getItemByPos_of_guid (h : w.getItemByGuid p g = some pos) :
    w.getItemByPos p pos = some g := by
  simpa using List.find?_some h

omit [DecidableEq P] in
/-- And by its guid. -/
theorem Lighter.getItemByGuid {w' : Holdings P} (hl : Lighter w' w) (hg : w.Unworn g)
    (hrest : ∀ pl h, h ≠ g → w.held pl = some h → w'.held pl = some h) (hne : h ≠ g)
    (hf : (w.getItemByGuid p h).isSome = true) : (w'.getItemByGuid p h).isSome = true := by
  obtain ⟨pos, hpos⟩ := Option.isSome_iff_exists.mp hf
  have hmem := List.mem_of_find?_eq_some hpos
  refine List.find?_isSome.mpr ⟨pos, ?_, ?_⟩
  · simpa only [hl.getBagByPos hg hrest, hl.getBagSize] using hmem
  · simpa using hl.getItemByPos hg hrest hne (getItemByPos_of_guid hpos)

omit [DecidableEq P] in
/-- A bag that is worn cannot be traded. -/
theorem unworn_of_canBeTraded {cond : P → Option Condition} {mail trade : Bool} (hw : Separate w)
    (hpos : w.getItemByPos p pos = some g) (ht : w.canBeTraded cond pos g mail trade = true) :
    w.Unworn g := by
  intro hbag q b hb hheld
  have hplain : isBagPos pos = false := by
    by_contra hbp
    simp [canBeTraded, hbag, hbp] at ht
  have hplace : w.placeOf p pos = .slot q b :=
    hw.single _ _ g (held_of_view (view_of_getItemByPos hpos)) hheld
  unfold placeOf at hplace
  split at hplace
  · rename_i hc
    injection hplace with _ hs
    rw [← hs] at hb
    rw [isBagPos_iff.mpr ⟨hc, hb⟩] at hplain
    cases hplain
  · rename_i hc
    cases hb' : w.getBagByPos p pos.1 with
    | none => simp [Holdings.getItemByPos, hc, hb'] at hpos
    | some x =>
      rw [hb'] at hplace
      cases hplace

theorem lighter_moveFrom : Lighter (w.moveItemFromInventory p pos) w := by
  unfold moveItemFromInventory removeItem
  split
  · exact .refl
  · exact ⟨fun _ _ hh => (Storage.held_of_clear hh).2, fun _ => rfl, rfl⟩

theorem Separate.moveFrom_owner {o : Option P} (hw : Separate w) (hpos : w.getItemByPos p pos = some g)
    {w' : Holdings P}
    (hw' : w' = (w.moveItemFromInventory p pos).setItem g { w.item g with owner := o }) :
    Lighter w' w ∧ w'.Loose g ∧ ∀ pl h, h ≠ g → w.held pl = some h → w'.held pl = some h := by
  subst hw'
  obtain ⟨-, hloose, hheld⟩ := hw.moveFrom hpos
  have hitem : (w.moveItemFromInventory p pos).item = w.item := by
    unfold moveItemFromInventory removeItem
    simp only [hpos]
    rfl
  have howner : Lighter ((w.moveItemFromInventory p pos).setItem g { w.item g with owner := o })
      (w.moveItemFromInventory p pos) := by
    rw [← hitem]
    exact lighter_owner
  refine ⟨howner.trans lighter_moveFrom, howner.loose hloose, fun pl h hne hh => ?_⟩
  rw [setItem_held, hheld, Function.update_of_ne]
  · exact hh
  · rintro rfl
    rw [held_of_view (view_of_getItemByPos hpos)] at hh
    exact hne (Option.some.inj hh).symm

end Holdings

/-!
## Destroying

`HasItemCount`, `DestroyItem` and `DestroyItemCount`.

The loops go over positions: a slot of `_items`, or a slot of a bag.  Past the end of a bag, and
where there is no bag, a position is empty.
-/

/-- `INVENTORY_SLOT_BAG_0` with each of the slots from `i` to before `j`. -/
def slotPositions (i j : Nat) : List Pos := (slotRange i j).map fun s => (INVENTORY_SLOT_BAG_0, s)

/-- The slots of the bags in the slots from `i` to before `j`. -/
def bagPositions (i j : Nat) : List Pos :=
  (slotRange i j).flatMap fun b => (List.range MAX_BAG_SIZE).map fun s => (b, s)

/-- Where `HasItemCount` looks, the bank apart. -/
def countedPositions : List Pos :=
  slotPositions EQUIPMENT_SLOT_START INVENTORY_SLOT_ITEM_END ++
    slotPositions KEYRING_SLOT_START CURRENCYTOKEN_SLOT_END ++
    bagPositions INVENTORY_SLOT_BAG_START INVENTORY_SLOT_BAG_END

/-- The order of `DestroyItemCount`, before the bags that are worn and the bank. -/
def loosePositions : List Pos :=
  slotPositions INVENTORY_SLOT_ITEM_START INVENTORY_SLOT_ITEM_END ++
    slotPositions KEYRING_SLOT_START CURRENCYTOKEN_SLOT_END ++
    bagPositions INVENTORY_SLOT_BAG_START INVENTORY_SLOT_BAG_END ++
    slotPositions EQUIPMENT_SLOT_START EQUIPMENT_SLOT_END

def wornBagPositions : List Pos := slotPositions EQUIPMENT_SLOT_END INVENTORY_SLOT_BAG_END

def bankPositions : List Pos :=
  slotPositions BANK_SLOT_ITEM_START BANK_SLOT_ITEM_END ++
    bagPositions BANK_SLOT_BAG_START BANK_SLOT_BAG_END

section Positions

variable {i j : Nat} {pos : Pos}

theorem mem_slotPositions :
    pos ∈ slotPositions i j ↔ pos.1 = INVENTORY_SLOT_BAG_0 ∧ i ≤ pos.2 ∧ pos.2 < j := by
  obtain ⟨b, s⟩ := pos
  simp [slotPositions, and_comm, eq_comm]

theorem mem_bagPositions :
    pos ∈ bagPositions i j ↔ (i ≤ pos.1 ∧ pos.1 < j) ∧ pos.2 < MAX_BAG_SIZE := by
  obtain ⟨b, s⟩ := pos
  simp [bagPositions]

theorem slotPositions_nodup : (slotPositions i j).Nodup :=
  (List.nodup_range').map fun _ _ h => congrArg Prod.snd h

theorem bagPositions_nodup : (bagPositions i j).Nodup := by
  refine List.nodup_flatMap.mpr ⟨fun b _ => ?_, ?_⟩
  · exact List.nodup_range.map fun _ _ h => congrArg Prod.snd h
  · refine (List.nodup_range' (s := i) (n := j - i)).imp fun {b b'} hne pos hb hb' => ?_
    obtain ⟨s, -, rfl⟩ := List.mem_map.mp hb
    obtain ⟨s', -, heq⟩ := List.mem_map.mp hb'
    exact hne (congrArg Prod.fst heq).symm

/-- As numbers of slots: the bags that are worn and the bank are left out. -/
theorem mem_loosePositions : pos ∈ loosePositions ↔
    (pos.1 = 255 ∧ (pos.2 < 19 ∨ (23 ≤ pos.2 ∧ pos.2 < 39) ∨ (86 ≤ pos.2 ∧ pos.2 < 150))) ∨
      (19 ≤ pos.1 ∧ pos.1 < 23 ∧ pos.2 < 36) := by
  simp only [loosePositions, List.mem_append, mem_slotPositions, mem_bagPositions,
    INVENTORY_SLOT_BAG_0, INVENTORY_SLOT_ITEM_START, INVENTORY_SLOT_ITEM_END, MAX_BAG_SIZE,
    INVENTORY_SLOT_BAG_START, INVENTORY_SLOT_BAG_END, KEYRING_SLOT_START, CURRENCYTOKEN_SLOT_END,
    EQUIPMENT_SLOT_START, EQUIPMENT_SLOT_END]
  omega

theorem loosePositions_plain (h : pos ∈ loosePositions) : isBagPos pos = false := by
  rw [mem_loosePositions] at h
  rw [Bool.eq_false_iff, ne_eq, isBagPos_iff, isBagSlot_iff]
  omega

theorem loosePositions_nodup : loosePositions.Nodup := by
  have hapart : ∀ {l l' : List Pos}, l.Nodup → l'.Nodup → (∀ pos ∈ l, pos ∉ l') →
      (l ++ l').Nodup := fun hl hl' h =>
    List.nodup_append.mpr ⟨hl, hl', fun pos hpos pos' hpos' heq => h pos hpos (heq ▸ hpos')⟩
  refine hapart (hapart (hapart slotPositions_nodup slotPositions_nodup ?_) bagPositions_nodup ?_)
    slotPositions_nodup ?_ <;>
  · intro pos
    simp only [List.mem_append, mem_slotPositions, mem_bagPositions, INVENTORY_SLOT_BAG_0,
      INVENTORY_SLOT_ITEM_START, INVENTORY_SLOT_ITEM_END, MAX_BAG_SIZE, INVENTORY_SLOT_BAG_START,
      INVENTORY_SLOT_BAG_END, KEYRING_SLOT_START, CURRENCYTOKEN_SLOT_END, EQUIPMENT_SLOT_START,
      EQUIPMENT_SLOT_END]
    omega

end Positions

namespace Holdings

variable {P : Type} (w : Holdings P) (p : P)

def paysWith (entry : Nat) (pos : Pos) : Option Nat :=
  (w.getItemByPos p pos).filter fun g => (w.item g).entry == entry && !(w.item g).inTrade

/-- `tempcount` over the items that are found, until it gets to `count`. -/
def reaches (count : Nat) : List Nat → Nat → Bool
  | [], _ => false
  | n :: ns, tempcount =>
    if count ≤ uint32 (tempcount + n) then true else reaches count ns (uint32 (tempcount + n))

/-- `HasItemCount` without the bank. -/
def hasItemCount (entry count : Nat) : Bool :=
  reaches count ((countedPositions.filterMap (w.paysWith p entry)).map fun g => (w.item g).count) 0

variable [DecidableEq P]

/-- `DestroyItem`: what is in a bag goes first. -/
def destroyItem (pos : Pos) : Holdings P :=
  match w.getItemByPos p pos with
  | none => w
  | some g =>
    let w := if w.isNotEmptyBag g then
        (List.range MAX_BAG_SIZE).foldl (fun w i => w.removeItem p (pos.2, i)) w
      else w
    w.clear (w.placeOf p pos)

/-- `DestroyItemCount` on its way: what has been destroyed so far, and whether it has returned. -/
structure Destruction (P : Type) where
  holdings : Holdings P
  remcount : Nat := 0
  done : Bool := false

/-- One position of `DestroyItemCount`.  In the bank a stack that is too high is left alone. -/
def destroyAt (entry count : Nat) (bank : Bool) (s : Destruction P) (pos : Pos) : Destruction P :=
  if s.done then s
  else match s.holdings.paysWith p entry pos with
    | none => s
    | some g =>
      let n := (s.holdings.item g).count
      if uint32 (n + s.remcount) ≤ count then
        { holdings := s.holdings.destroyItem p pos
          remcount := uint32 (s.remcount + n)
          done := decide (count ≤ uint32 (s.remcount + n)) }
      else if bank then s
      else { s with
        holdings := s.holdings.setCount g (uint32 (n + s.remcount - count))
        done := true }

def destroyItemCount (entry count : Nat) : Holdings P :=
  let s := loosePositions.foldl (destroyAt p entry count false) { holdings := w }
  let s := wornBagPositions.foldl (destroyAt p entry count false) s
  (bankPositions.foldl (destroyAt p entry count true) s).holdings

end Holdings

end SkyfireBG
