import Mathlib.Algebra.Order.Field.Rat
import Mathlib.Order.Lattice.Nat

/-!
# SkyfireBG.Item.Template

The fields of `ItemTemplate` that loot and inventory code reads, the flag masks they are tested
against, and `GetMaxStackSize`.
-/

namespace SkyfireBG

/-- `value & mask`, as a condition. -/
def hasMask (value mask : Nat) : Bool := value &&& mask != 0

/-! ## Masks and constants -/

def ITEM_PROTO_FLAG_PARTY_LOOT : Nat := 0x800
def ITEM_PROTO_FLAG_SMART_LOOT : Nat := 0x2000000
def ITEM_FLAGS_EXTRA_HORDE_ONLY : Nat := 0x1
def ITEM_FLAGS_EXTRA_ALLIANCE_ONLY : Nat := 0x2
def ITEM_FLAGS_EXTRA_NEED_ROLL_DISABLED : Nat := 0x100

def BAG_FAMILY_MASK_ARROWS : Nat := 0x1
def BAG_FAMILY_MASK_BULLETS : Nat := 0x2
def BAG_FAMILY_MASK_SOUL_SHARDS : Nat := 0x4
def BAG_FAMILY_MASK_LEATHERWORKING_SUPP : Nat := 0x8
def BAG_FAMILY_MASK_INSCRIPTION_SUPP : Nat := 0x10
def BAG_FAMILY_MASK_HERBS : Nat := 0x20
def BAG_FAMILY_MASK_ENCHANTING_SUPP : Nat := 0x40
def BAG_FAMILY_MASK_ENGINEERING_SUPP : Nat := 0x80
def BAG_FAMILY_MASK_KEYS : Nat := 0x100
def BAG_FAMILY_MASK_GEMS : Nat := 0x200
def BAG_FAMILY_MASK_MINING_SUPP : Nat := 0x400
def BAG_FAMILY_MASK_CURRENCY_TOKENS : Nat := 0x2000

def ITEM_PROTO_FLAG_BIND_TO_ACCOUNT : Nat := 0x8000000

def ITEM_CLASS_CONTAINER : Nat := 1
def ITEM_CLASS_WEAPON : Nat := 2
def ITEM_CLASS_QUIVER : Nat := 11

def ITEM_SUBCLASS_CONTAINER : Nat := 0
def ITEM_SUBCLASS_SOUL_CONTAINER : Nat := 1
def ITEM_SUBCLASS_HERB_CONTAINER : Nat := 2
def ITEM_SUBCLASS_ENCHANTING_CONTAINER : Nat := 3
def ITEM_SUBCLASS_ENGINEERING_CONTAINER : Nat := 4
def ITEM_SUBCLASS_GEM_CONTAINER : Nat := 5
def ITEM_SUBCLASS_MINING_CONTAINER : Nat := 6
def ITEM_SUBCLASS_LEATHERWORKING_CONTAINER : Nat := 7
def ITEM_SUBCLASS_INSCRIPTION_CONTAINER : Nat := 8
def ITEM_SUBCLASS_QUIVER : Nat := 2
def ITEM_SUBCLASS_AMMO_POUCH : Nat := 3

def INVTYPE_BAG : Nat := 18

def BIND_WHEN_PICKED_UP : Nat := 1
def BIND_WHEN_EQUIPED : Nat := 2
def BIND_QUEST_ITEM : Nat := 4

def MAX_BAG_SIZE : Nat := 36

/-- `ItemTemplate`, restricted to what the modelled code reads. -/
structure ItemTemplate where
  itemId : Nat
  itemClass : Nat := 0
  subClass : Nat := 0
  quality : Nat := 0
  flags : Nat := 0
  flags2 : Nat := 0
  inventoryType : Nat := 0
  bonding : Nat := 0
  requiredSkill : Nat := 0
  maxCount : Int := 0
  stackable : Int := 1
  containerSlots : Nat := 0
  /-- `Spells[1].SpellId`, the spell a recipe teaches. -/
  taughtSpell : Nat := 0
  startQuest : Nat := 0
  bagFamily : Nat := 0
  gemProperties : Nat := 0
  /-- `Socket[0].Color`. -/
  socketColor : Nat := 0
  requiredDisenchantSkill : Nat := 0
  itemLimitCategory : Nat := 0
  disenchantID : Nat := 0
deriving DecidableEq, Repr

/-- `ObjectMgr::GetItemTemplate`. -/
abbrev TemplateStore := Nat → Option ItemTemplate

/-- A non-positive `Stackable` and `INT_MAX` both mean an unlimited stack. -/
def ItemTemplate.getMaxStackSize (proto : ItemTemplate) : Nat :=
  if proto.stackable = 2147483647 ∨ proto.stackable ≤ 0 then 0x7FFFFFFF - 1
  else proto.stackable.toNat

theorem ItemTemplate.getMaxStackSize_pos (proto : ItemTemplate) : 0 < proto.getMaxStackSize := by
  unfold getMaxStackSize
  split
  · decide
  · omega

def itemCanGoIntoBag (proto pBagProto : ItemTemplate) : Bool :=
  if pBagProto.itemClass = ITEM_CLASS_CONTAINER then
    if pBagProto.subClass = ITEM_SUBCLASS_CONTAINER then true
    else if pBagProto.subClass = ITEM_SUBCLASS_SOUL_CONTAINER then
      hasMask proto.bagFamily BAG_FAMILY_MASK_SOUL_SHARDS
    else if pBagProto.subClass = ITEM_SUBCLASS_HERB_CONTAINER then
      hasMask proto.bagFamily BAG_FAMILY_MASK_HERBS
    else if pBagProto.subClass = ITEM_SUBCLASS_ENCHANTING_CONTAINER then
      hasMask proto.bagFamily BAG_FAMILY_MASK_ENCHANTING_SUPP
    else if pBagProto.subClass = ITEM_SUBCLASS_MINING_CONTAINER then
      hasMask proto.bagFamily BAG_FAMILY_MASK_MINING_SUPP
    else if pBagProto.subClass = ITEM_SUBCLASS_ENGINEERING_CONTAINER then
      hasMask proto.bagFamily BAG_FAMILY_MASK_ENGINEERING_SUPP
    else if pBagProto.subClass = ITEM_SUBCLASS_GEM_CONTAINER then
      hasMask proto.bagFamily BAG_FAMILY_MASK_GEMS
    else if pBagProto.subClass = ITEM_SUBCLASS_LEATHERWORKING_CONTAINER then
      hasMask proto.bagFamily BAG_FAMILY_MASK_LEATHERWORKING_SUPP
    else if pBagProto.subClass = ITEM_SUBCLASS_INSCRIPTION_CONTAINER then
      hasMask proto.bagFamily BAG_FAMILY_MASK_INSCRIPTION_SUPP
    else false
  else if pBagProto.itemClass = ITEM_CLASS_QUIVER then
    if pBagProto.subClass = ITEM_SUBCLASS_QUIVER then
      hasMask proto.bagFamily BAG_FAMILY_MASK_ARROWS
    else if pBagProto.subClass = ITEM_SUBCLASS_AMMO_POUCH then
      hasMask proto.bagFamily BAG_FAMILY_MASK_BULLETS
    else false
  else false

/-- `Class == ITEM_CLASS_CONTAINER && SubClass == ITEM_SUBCLASS_CONTAINER`: a bag for all items. -/
def ItemTemplate.isPlainContainer (proto : ItemTemplate) : Bool :=
  proto.itemClass == ITEM_CLASS_CONTAINER && proto.subClass == ITEM_SUBCLASS_CONTAINER

end SkyfireBG
