import SkyfireBG.Inventory.Exchange

/-!
# SkyfireBG.Inventory.Equip

`FindEquipSlot`, `CanEquipItem`, `EquipNewItem` and `AutoUnequipOffhandIfNeed`.

An item that finds no room when it is unequipped is sent to the player by mail.  So these functions
act on `Belongings`: the inventory and what is in the mails.
-/

namespace SkyfireBG

def INVTYPE_HEAD : Nat := 1
def INVTYPE_NECK : Nat := 2
def INVTYPE_SHOULDERS : Nat := 3
def INVTYPE_BODY : Nat := 4
def INVTYPE_CHEST : Nat := 5
def INVTYPE_WAIST : Nat := 6
def INVTYPE_LEGS : Nat := 7
def INVTYPE_FEET : Nat := 8
def INVTYPE_WRISTS : Nat := 9
def INVTYPE_HANDS : Nat := 10
def INVTYPE_FINGER : Nat := 11
def INVTYPE_TRINKET : Nat := 12
def INVTYPE_WEAPON : Nat := 13
def INVTYPE_RANGED : Nat := 15
def INVTYPE_CLOAK : Nat := 16
def INVTYPE_2HWEAPON : Nat := 17
def INVTYPE_TABARD : Nat := 19
def INVTYPE_ROBE : Nat := 20
def INVTYPE_WEAPONMAINHAND : Nat := 21
def INVTYPE_WEAPONOFFHAND : Nat := 22
def INVTYPE_THROWN : Nat := 25
def INVTYPE_RANGEDRIGHT : Nat := 26

def ITEM_SUBCLASS_WEAPON_POLEARM : Nat := 6
def ITEM_SUBCLASS_WEAPON_STAFF : Nat := 10

def EQUIPMENT_SLOT_HEAD : Nat := 0
def EQUIPMENT_SLOT_NECK : Nat := 1
def EQUIPMENT_SLOT_SHOULDERS : Nat := 2
def EQUIPMENT_SLOT_BODY : Nat := 3
def EQUIPMENT_SLOT_CHEST : Nat := 4
def EQUIPMENT_SLOT_WAIST : Nat := 5
def EQUIPMENT_SLOT_LEGS : Nat := 6
def EQUIPMENT_SLOT_FEET : Nat := 7
def EQUIPMENT_SLOT_WRISTS : Nat := 8
def EQUIPMENT_SLOT_HANDS : Nat := 9
def EQUIPMENT_SLOT_FINGER1 : Nat := 10
def EQUIPMENT_SLOT_FINGER2 : Nat := 11
def EQUIPMENT_SLOT_TRINKET1 : Nat := 12
def EQUIPMENT_SLOT_TRINKET2 : Nat := 13
def EQUIPMENT_SLOT_BACK : Nat := 14
def EQUIPMENT_SLOT_RANGED : Nat := 17
def EQUIPMENT_SLOT_TABARD : Nat := 18

def CLASS_PALADIN : Nat := 2
def CLASS_DEATH_KNIGHT : Nat := 6
def CLASS_SHAMAN : Nat := 7
def CLASS_DRUID : Nat := 11

def ItemTemplate.isPolearmOrStaff (proto : ItemTemplate) : Bool :=
  proto.subClass == ITEM_SUBCLASS_WEAPON_POLEARM || proto.subClass == ITEM_SUBCLASS_WEAPON_STAFF

/-- What `CanEquipItem` asks of the player himself. -/
structure Equipper (P : Type) where
  condition : Condition := {}
  playerClass : Nat := 1
  canDualWield : Bool := false
  canTitanGrip : Bool := false
  stunned : Bool := false
  /-- `_weaponChangeTimer != 0`. -/
  weaponChange : Bool := false
  casting : Bool := false
  /-- The item scales up to a level that the player has passed. -/
  outgrown : ItemTemplate → Bool := fun _ => false
  canUseItem : ItemTemplate → InventoryResult := fun _ => .ok
  canEquipUniqueItem : Holdings P → ItemTemplate → Nat → InventoryResult := fun _ _ _ => .ok

structure Belongings (P : Type) where
  holdings : Holdings P
  mailed : List (Item P) := []

/-- `INVENTORY_SLOT_BAG_0 << 8 | EQUIPMENT_SLOT_OFFHAND`. -/
def offhand : Pos := (INVENTORY_SLOT_BAG_0, EQUIPMENT_SLOT_OFFHAND)

def mainhand : Pos := (INVENTORY_SLOT_BAG_0, EQUIPMENT_SLOT_MAINHAND)

def slotsOfType : List (Nat × List Nat) :=
  [(INVTYPE_HEAD, [EQUIPMENT_SLOT_HEAD]), (INVTYPE_NECK, [EQUIPMENT_SLOT_NECK]),
    (INVTYPE_SHOULDERS, [EQUIPMENT_SLOT_SHOULDERS]), (INVTYPE_BODY, [EQUIPMENT_SLOT_BODY]),
    (INVTYPE_CHEST, [EQUIPMENT_SLOT_CHEST]), (INVTYPE_ROBE, [EQUIPMENT_SLOT_CHEST]),
    (INVTYPE_WAIST, [EQUIPMENT_SLOT_WAIST]), (INVTYPE_LEGS, [EQUIPMENT_SLOT_LEGS]),
    (INVTYPE_FEET, [EQUIPMENT_SLOT_FEET]), (INVTYPE_WRISTS, [EQUIPMENT_SLOT_WRISTS]),
    (INVTYPE_HANDS, [EQUIPMENT_SLOT_HANDS]),
    (INVTYPE_FINGER, [EQUIPMENT_SLOT_FINGER1, EQUIPMENT_SLOT_FINGER2]),
    (INVTYPE_TRINKET, [EQUIPMENT_SLOT_TRINKET1, EQUIPMENT_SLOT_TRINKET2]),
    (INVTYPE_CLOAK, [EQUIPMENT_SLOT_BACK]), (INVTYPE_SHIELD, [EQUIPMENT_SLOT_OFFHAND]),
    (INVTYPE_RANGED, [EQUIPMENT_SLOT_RANGED]), (INVTYPE_TABARD, [EQUIPMENT_SLOT_TABARD]),
    (INVTYPE_WEAPONMAINHAND, [EQUIPMENT_SLOT_MAINHAND]),
    (INVTYPE_WEAPONOFFHAND, [EQUIPMENT_SLOT_OFFHAND]), (INVTYPE_HOLDABLE, [EQUIPMENT_SLOT_OFFHAND]),
    (INVTYPE_THROWN, [EQUIPMENT_SLOT_RANGED]), (INVTYPE_RANGEDRIGHT, [EQUIPMENT_SLOT_RANGED]),
    (INVTYPE_BAG, slotRange INVENTORY_SLOT_BAG_START INVENTORY_SLOT_BAG_END)]

namespace Holdings

variable {P : Type} (w : Holdings P) (c : Equipper P) (p : P)

def isTwoHandUsed : Bool :=
  (w.getItemByPos p mainhand).any fun g =>
    (w.item g).proto.inventoryType == INVTYPE_2HWEAPON && !c.canTitanGrip

/-- Where `FindEquipSlot` empties the off hand. -/
def forcesUnequip (proto : ItemTemplate) : Bool :=
  proto.inventoryType == INVTYPE_2HWEAPON &&
    ((w.getItemByPos p mainhand).any (fun g => (w.item g).proto.isPolearmOrStaff) ||
      ((w.getItemByPos p offhand).isSome && proto.isPolearmOrStaff))

/-- The array `slots` of `FindEquipSlot`. -/
def equipSlots (proto : ItemTemplate) : List Nat :=
  if proto.inventoryType = INVTYPE_WEAPON then
    EQUIPMENT_SLOT_MAINHAND :: if c.canDualWield then [EQUIPMENT_SLOT_OFFHAND] else []
  else if proto.inventoryType = INVTYPE_2HWEAPON then
    EQUIPMENT_SLOT_MAINHAND ::
      if !w.forcesUnequip p proto && c.canDualWield && c.canTitanGrip &&
          !proto.isPolearmOrStaff then [EQUIPMENT_SLOT_OFFHAND]
      else []
  else if proto.inventoryType = INVTYPE_RELIC then
    if c.playerClass = CLASS_PALADIN ∨ c.playerClass = CLASS_DRUID ∨ c.playerClass = CLASS_SHAMAN ∨
        c.playerClass = CLASS_DEATH_KNIGHT then [EQUIPMENT_SLOT_RANGED]
    else []
  else (slotsOfType.lookup proto.inventoryType).getD []

/-- What `CanEquipItem` refuses before it looks for a slot. -/
def canEquipNow (proto : ItemTemplate) : InventoryResult :=
  if c.stunned then .youAreStunned
  else if !proto.canChangeEquipStateInCombat && c.condition.inCombat then .notInCombat
  else if !proto.canChangeEquipStateInCombat && c.condition.inArena then .notDuringArenaMatch
  else if c.condition.inCombat && (proto.itemClass == ITEM_CLASS_WEAPON ||
      proto.inventoryType == INVTYPE_RELIC) && c.weaponChange then .cantDoRightNow
  else if c.casting then .cantDoRightNow
  else if c.outgrown proto then .itemCantBeEquipped
  else .ok

def otherQuiver (proto : ItemTemplate) (pItem : Nat) (eslot : Nat) (swap : Bool) : Option Nat :=
  if proto.itemClass = ITEM_CLASS_QUIVER then
    (slotRange INVENTORY_SLOT_BAG_START INVENTORY_SLOT_BAG_END).findSome? fun i =>
      (w.getItemByPos p (INVENTORY_SLOT_BAG_0, i)).filter fun pBag =>
        pBag != pItem && (w.item pBag).proto.itemClass == proto.itemClass && (!swap || i != eslot)
  else none

variable [DecidableEq P] (e : ItemStores)

/-- What `CanEquipItem` refuses at a slot. -/
def canEquipAt (g eslot : Nat) (swap : Bool) : InventoryResult :=
  let proto := (w.item g).proto
  let type := proto.inventoryType
  if c.canUseItem proto ≠ .ok then c.canUseItem proto
  else if !swap && (w.getItemByPos p (INVENTORY_SLOT_BAG_0, eslot)).isSome then
    .noEquipmentSlotAvailable
  else if c.canEquipUniqueItem w proto (if swap then eslot else NULL_SLOT) ≠ .ok then
    c.canEquipUniqueItem w proto (if swap then eslot else NULL_SLOT)
  else match w.otherQuiver p proto g eslot swap with
    | some pBag =>
      if (w.item pBag).proto.subClass = ITEM_SUBCLASS_AMMO_POUCH then .canEquipOnly1Ammopouch
      else .canEquipOnly1Quiver
    | none =>
      if eslot = EQUIPMENT_SLOT_OFFHAND ∧ (type = INVTYPE_WEAPON ∨ type = INVTYPE_WEAPONOFFHAND) ∧
          !c.canDualWield then .cantDualWield
      else if eslot = EQUIPMENT_SLOT_OFFHAND ∧ type = INVTYPE_2HWEAPON ∧
          (!c.canDualWield || !c.canTitanGrip) then .cantDualWield
      else if eslot = EQUIPMENT_SLOT_OFFHAND ∧ w.isTwoHandUsed c p then .cantEquipWithTwohanded
      else if type = INVTYPE_2HWEAPON ∧ eslot = EQUIPMENT_SLOT_OFFHAND ∧ !c.canTitanGrip then
        .itemCantBeEquipped
      else if type = INVTYPE_2HWEAPON ∧ eslot ≠ EQUIPMENT_SLOT_OFFHAND ∧
          eslot ≠ EQUIPMENT_SLOT_MAINHAND then .itemCantBeEquipped
      else if type = INVTYPE_2HWEAPON ∧ !c.canTitanGrip ∧
          (w.getItemByPos p offhand).any (fun offItem =>
            w.canUnequipItem c.condition p offhand false != .ok ||
              (w.canStore p e (NULL_BAG, NULL_SLOT) [] offItem false).res != .ok) then
        if swap then .itemsCantBeSwapped else .inventoryFull
      else .ok

/-- `EquipItem`: at an empty slot the item itself, else its count is added. -/
def equipItem (pos : Pos) (g : Nat) : Option Nat × Holdings P :=
  match w.getItemByPos p pos with
  | none =>
    let i := w.item g
    let bound := i.soulBound || i.proto.bonding == BIND_WHEN_EQUIPED ||
      i.proto.bonding == BIND_WHEN_PICKED_UP || i.proto.bonding == BIND_QUEST_ITEM
    (some g, (w.setItem g { i with soulBound := bound, owner := some p }).put (.slot p pos.2) g)
  | some g2 => (some g2, w.setCount g2 ((w.item g2).count + (w.item g).count))

def equipNewItem (pos : Pos) (entry : Nat) : Option Nat × Holdings P :=
  match (e.store entry).bind fun proto => Item.create proto 1 (some p) with
  | none => (none, w)
  | some i => (w.newItem i).2.equipItem p pos (w.newItem i).1

end Holdings

namespace Belongings

variable {P : Type} [DecidableEq P] (b : Belongings P) (c : Equipper P) (e : ItemStores) (p : P)

def autoUnequipOffhandIfNeed (force : Bool) : Belongings P :=
  match b.holdings.getItemByPos p offhand with
  | none => b
  | some offItem =>
    let type := (b.holdings.item offItem).proto.inventoryType
    let force := force ||
      (!c.canDualWield && (type == INVTYPE_WEAPONOFFHAND || type == INVTYPE_WEAPON))
    if !force && (c.canTitanGrip ||
        (type != INVTYPE_2HWEAPON && !b.holdings.isTwoHandUsed c p)) then b
    else
      let off := b.holdings.canStore p e (NULL_BAG, NULL_SLOT) [] offItem false
      if off.res = .ok then
        { b with holdings := ((b.holdings.removeItem p offhand).storeItem p off.dest offItem).2 }
      else
        { holdings := b.holdings.moveItemFromInventory p offhand
          mailed := b.mailed ++ [b.holdings.item offItem] }

/-- `FindEquipSlot`, and what it does to the off hand. -/
def findEquipSlot (proto : ItemTemplate) (slot : Nat) (swap : Bool) : Nat × Belongings P :=
  let slots := b.holdings.equipSlots c p proto
  let b := if b.holdings.forcesUnequip p proto then b.autoUnequipOffhandIfNeed c e p true else b
  let free (s : Nat) : Bool := (b.holdings.getItemByPos p (INVENTORY_SLOT_BAG_0, s)).isNone
  if slot ≠ NULL_SLOT then
    (if (swap || free slot) && slots.contains slot then slot else NULL_SLOT, b)
  else match slots.find? fun s =>
      free s && (s != EQUIPMENT_SLOT_OFFHAND || !b.holdings.isTwoHandUsed c p) with
    | some s => (s, b)
    | none => (if swap then slots.headD NULL_SLOT else NULL_SLOT, b)

/-- `CanEquipItem` in the game: the result, the slot it writes to `dest`, and what is left. -/
def canEquipItem (slot g : Nat) (swap : Bool) : InventoryResult × Nat × Belongings P :=
  let i := b.holdings.item g
  if i.lootGenerated then (.alreadyLooted, 0, b)
  else if i.isBindedNotWith p then (.dontOwnThatItem, 0, b)
  else
    let take := b.holdings.canTakeMoreSimilarItems p e i.entry i.count (some g)
    if take.1 ≠ .ok then (take.1, 0, b)
    else if Holdings.canEquipNow c i.proto ≠ .ok then (Holdings.canEquipNow c i.proto, 0, b)
    else
      let found := b.findEquipSlot c e p i.proto slot swap
      if found.1 = NULL_SLOT then (.itemCantBeEquipped, 0, found.2)
      else
        let res := found.2.holdings.canEquipAt c p e g found.1 swap
        (res, if res = .ok then found.1 else 0, found.2)

/-- `CanEquipNewItem`: the item is made only to be looked at. -/
def canEquipNewItem (slot entry : Nat) (swap : Bool) : InventoryResult × Nat × Belongings P :=
  match (e.store entry).bind fun proto => Item.create proto 1 (some p) with
  | none => (.itemNotFound, 0, b)
  | some i =>
    { b with holdings := (b.holdings.newItem i).2 }.canEquipItem c e p slot (b.holdings.newItem i).1
      swap

end Belongings

end SkyfireBG
