import SkyfireBG.Item.Template

/-!
# SkyfireBG.Inventory.Data

`Item` objects, the places that hold them, and the functions that look at both: `GetItemByPos`,
`GetBagByPos` and the tests on positions.

`P` is the type of the players.  An item is known by its guid.  A `Place` is an entry of one of the
arrays `Player::_items`, `Bag::m_bagslot` and `Guild::BankTab::_items`; a `Pos` is what the code
passes around, a bag slot and a slot in it.
-/

namespace SkyfireBG

def NULL_BAG : Nat := 0
def NULL_SLOT : Nat := 255
def INVENTORY_SLOT_BAG_0 : Nat := 255

def EQUIPMENT_SLOT_START : Nat := 0
def EQUIPMENT_SLOT_MAINHAND : Nat := 15
def EQUIPMENT_SLOT_OFFHAND : Nat := 16
def EQUIPMENT_SLOT_END : Nat := 19
def INVENTORY_SLOT_BAG_START : Nat := 19
def INVENTORY_SLOT_BAG_END : Nat := 23
def INVENTORY_SLOT_ITEM_START : Nat := 23
def INVENTORY_SLOT_ITEM_END : Nat := 39
def BANK_SLOT_ITEM_START : Nat := 39
def BANK_SLOT_ITEM_END : Nat := 67
def BANK_SLOT_BAG_START : Nat := 67
def BANK_SLOT_BAG_END : Nat := 74
def BUYBACK_SLOT_START : Nat := 74
def BUYBACK_SLOT_END : Nat := 86
def KEYRING_SLOT_START : Nat := 86
def KEYRING_SLOT_END : Nat := 118
def CURRENCYTOKEN_SLOT_START : Nat := 118
def CURRENCYTOKEN_SLOT_END : Nat := 150
def PLAYER_SLOT_END : Nat := 150

def getMaxKeyringSize : Nat := KEYRING_SLOT_END - KEYRING_SLOT_START

/-- The slots from `i` to before `j`. -/
def slotRange (i j : Nat) : List Nat := List.range' i (j - i)

@[simp] theorem mem_slotRange {i j s : Nat} : s ∈ slotRange i j ↔ i ≤ s ∧ s < j := by
  simp only [slotRange, List.mem_range'_1]
  omega

/-- A bag and a slot in it: `uint16 pos` with the bag in the high byte. -/
abbrev Pos := Nat × Nat

/-- The slots of `_items` that make the item in them a bag. -/
def isBagSlot (slot : Nat) : Bool :=
  (INVENTORY_SLOT_BAG_START ≤ slot && slot < INVENTORY_SLOT_BAG_END) ||
    (BANK_SLOT_BAG_START ≤ slot && slot < BANK_SLOT_BAG_END)

def isInventoryPos (pos : Pos) : Bool :=
  (pos.1 == INVENTORY_SLOT_BAG_0 && pos.2 == NULL_SLOT) ||
  (pos.1 == INVENTORY_SLOT_BAG_0 &&
    (INVENTORY_SLOT_ITEM_START ≤ pos.2 && pos.2 < INVENTORY_SLOT_ITEM_END)) ||
  (INVENTORY_SLOT_BAG_START ≤ pos.1 && pos.1 < INVENTORY_SLOT_BAG_END) ||
  (pos.1 == INVENTORY_SLOT_BAG_0 &&
    (KEYRING_SLOT_START ≤ pos.2 && pos.2 < CURRENCYTOKEN_SLOT_END))

def isEquipmentPos (pos : Pos) : Bool :=
  pos.1 == INVENTORY_SLOT_BAG_0 && (pos.2 < EQUIPMENT_SLOT_END ||
    (INVENTORY_SLOT_BAG_START ≤ pos.2 && pos.2 < INVENTORY_SLOT_BAG_END))

def isBagPos (pos : Pos) : Bool := pos.1 == INVENTORY_SLOT_BAG_0 && isBagSlot pos.2

section Positions

variable {pos : Pos} {s : Nat}

theorem isBagSlot_iff : isBagSlot s = true ↔ (19 ≤ s ∧ s < 23) ∨ (67 ≤ s ∧ s < 74) := by
  simp only [isBagSlot, Bool.or_eq_true, Bool.and_eq_true, decide_eq_true_eq]
  rfl

theorem isInventoryPos_iff : isInventoryPos pos = true ↔
    (pos.1 = 255 ∧ (pos.2 = 255 ∨ (23 ≤ pos.2 ∧ pos.2 < 39) ∨ (86 ≤ pos.2 ∧ pos.2 < 150))) ∨
      (19 ≤ pos.1 ∧ pos.1 < 23) := by
  simp only [isInventoryPos, Bool.or_eq_true, Bool.and_eq_true, decide_eq_true_eq, beq_iff_eq]
  simp only [INVENTORY_SLOT_BAG_0, NULL_SLOT, INVENTORY_SLOT_ITEM_START, INVENTORY_SLOT_ITEM_END,
    INVENTORY_SLOT_BAG_START, INVENTORY_SLOT_BAG_END, KEYRING_SLOT_START, CURRENCYTOKEN_SLOT_END]
  omega

theorem isEquipmentPos_iff : isEquipmentPos pos = true ↔ pos.1 = 255 ∧ pos.2 < 23 := by
  simp only [isEquipmentPos, Bool.or_eq_true, Bool.and_eq_true, decide_eq_true_eq, beq_iff_eq]
  simp only [INVENTORY_SLOT_BAG_0, EQUIPMENT_SLOT_END, INVENTORY_SLOT_BAG_START,
    INVENTORY_SLOT_BAG_END]
  omega

theorem isBagPos_iff : isBagPos pos = true ↔ pos.1 = 255 ∧ isBagSlot pos.2 = true := by
  simp [isBagPos, INVENTORY_SLOT_BAG_0]

end Positions

/-- The values of `InventoryResult` that the modelled code returns. -/
inductive InventoryResult where
  | ok
  | itemDoesntGoToSlot
  | nonemptyBagOverOtherBag
  | noRequiredProficiency
  | noEquipmentSlotAvailable
  | cantEquipWithTwohanded
  | cantDualWield
  | itemDoesntGoIntoBag
  | cantCarryMoreOfThis
  | itemCantStack
  | itemCantBeEquipped
  | itemsCantBeSwapped
  | itemNotFound
  | cantDropSoulbound
  | triedToSplitMoreThanCount
  | couldntSplitItems
  | canOnlyDoWithEmptyBags
  | dontOwnThatItem
  | canEquipOnly1Quiver
  | canEquipOnly1Ammopouch
  | mustPurchaseThatBagSlot
  | youAreStunned
  | youAreDead
  | cantDoRightNow
  | alreadyLooted
  | inventoryFull
  | bankFull
  | notInCombat
  | notDuringArenaMatch
  | itemMaxLimitCategoryCountExceeded
  /-- Any other refusal of `CanUseItem` or `CanEquipUniqueItem`. -/
  | other
deriving DecidableEq, Repr

/-! ## Items and places -/

/-- An `Item` object; the template is what `GetTemplate` finds. -/
structure Item (P : Type) where
  proto : ItemTemplate
  count : Nat
  owner : Option P := none
  soulBound : Bool := false
  bopTradeable : Bool := false
  boundByEnchant : Bool := false
  lootGenerated : Bool := false
  inTrade : Bool := false
  allowedGUIDs : List P := []
  /-- `GemID` of the enchantment in each socket. -/
  gems : List Nat := []

/-- An entry of `Player::_items`, `Bag::m_bagslot` or `Guild::BankTab::_items`. -/
inductive Place (P : Type) where
  | slot (player : P) (slot : Nat)
  | bagslot (bag slot : Nat)
  | tab (tab slot : Nat)
deriving DecidableEq

/-- Every `Item` object, and what the arrays hold. -/
structure Holdings (P : Type) where
  item : Nat → Item P
  held : Place P → Option Nat
  nextGuid : Nat

namespace Item

variable {P : Type} (i : Item P)

def entry : Nat := i.proto.itemId

def isBag : Bool := i.proto.inventoryType == INVTYPE_BAG

def isBoundAccountWide : Bool := hasMask i.proto.flags ITEM_PROTO_FLAG_BIND_TO_ACCOUNT

def getGemCountWithID (gemID : Nat) : Nat := i.gems.count gemID

def canBeMergedPartlyWith (proto : ItemTemplate) : InventoryResult :=
  if i.lootGenerated then .alreadyLooted
  else if i.entry ≠ proto.itemId then .itemCantStack
  else if i.count ≥ proto.getMaxStackSize then .itemCantStack
  else .ok

def isBindedNotWith [DecidableEq P] (player : P) : Bool :=
  if !i.soulBound then false
  else if i.owner = some player then false
  else if i.bopTradeable && i.allowedGUIDs.contains player then false
  else if i.isBoundAccountWide then false
  else true

end Item

namespace Holdings

variable {P : Type} (w : Holdings P)

/-- `ToBag` of what is in slot `bag`, if that is a bag slot. -/
def getBagByPos (p : P) (bag : Nat) : Option Nat :=
  if isBagSlot bag then (w.held (.slot p bag)).filter (fun g => (w.item g).isBag) else none

def getBagSize (bag : Nat) : Nat := (w.item bag).proto.containerSlots

def getItemByPos (p : P) (pos : Pos) : Option Nat :=
  if pos.1 = INVENTORY_SLOT_BAG_0 ∧ (pos.2 < BANK_SLOT_BAG_END ∨
      (KEYRING_SLOT_START ≤ pos.2 ∧ pos.2 < CURRENCYTOKEN_SLOT_END)) then w.held (.slot p pos.2)
  else match w.getBagByPos p pos.1 with
    | some g => if pos.2 < w.getBagSize g then w.held (.bagslot g pos.2) else none
    | none => none

def isEmpty (bag : Nat) : Bool :=
  (List.range (w.getBagSize bag)).all (fun j => (w.held (.bagslot bag j)).isNone)

def isNotEmptyBag (g : Nat) : Bool := (w.item g).isBag && !w.isEmpty g

def setItem (g : Nat) (i : Item P) : Holdings P :=
  { w with item := Function.update w.item g i }

def setCount (g n : Nat) : Holdings P := w.setItem g { w.item g with count := n }

section Places

variable [DecidableEq P]

def put (place : Place P) (g : Nat) : Holdings P :=
  { w with held := Function.update w.held place (some g) }

def clear (place : Place P) : Holdings P :=
  { w with held := Function.update w.held place none }

end Places

variable {w} {g h n : Nat} {i : Item P} {place : Place P}

@[simp] theorem setItem_same : (w.setItem g i).item g = i := Function.update_self ..

@[simp] theorem setItem_ne (hne : h ≠ g) : (w.setItem g i).item h = w.item h :=
  Function.update_of_ne hne ..

@[simp] theorem setItem_held : (w.setItem g i).held = w.held := rfl

variable [DecidableEq P]

@[simp] theorem put_held : (w.put place g).held = Function.update w.held place (some g) := rfl

@[simp] theorem put_item : (w.put place g).item = w.item := rfl

@[simp] theorem clear_held : (w.clear place).held = Function.update w.held place none := rfl

@[simp] theorem clear_item : (w.clear place).item = w.item := rfl

end Holdings

end SkyfireBG
