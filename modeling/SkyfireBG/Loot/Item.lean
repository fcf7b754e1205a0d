import SkyfireBG.Item.Template
import SkyfireBG.Lib.OrdMap

/-!
# SkyfireBG.Loot.Item

The data of a `Loot` object and the functions that read it: `LootItem`, the three per-player lists
of `QuestItem`s, `AllowedForPlayer` and `LootItemInSlot`.

The eight-bit counter `unlootedCount` is a `UInt8`, so it wraps as in the source.  Packets sent to
the players that look at the loot are left out.
-/

namespace SkyfireBG

def MAX_NR_LOOT_ITEMS : Nat := 16
def MAX_NR_QUEST_ITEMS : Nat := 32

inductive Team where
  | alliance
  | horde
deriving DecidableEq, Repr

/-- What loot code asks a `Player`. -/
structure Looter where
  guid : Nat
  team : Team
  hasSkill : Nat → Bool
  hasSpell : Nat → Bool
  hasQuestForItem : Nat → Bool
  /-- `GetQuestStatus(quest) != QUEST_STATUS_NONE`. -/
  questKnown : Nat → Bool
  /-- `ConditionMgr::IsObjectMeetToConditions`. -/
  meetsConditions : List Nat → Bool

/-- `LootStoreItem`: one row of a loot template. -/
structure LootStoreItem where
  itemid : Nat
  needsQuest : Bool := false
  conditions : List Nat := []
deriving DecidableEq, Repr

/-- What the constructor of `LootItem` draws at random. -/
structure LootDraw where
  count : Nat := 1
  randomSuffix : Nat := 0
  randomPropertyId : Int := 0
deriving DecidableEq, Repr

structure LootItem where
  itemid : Nat
  randomSuffix : Nat := 0
  randomPropertyId : Int := 0
  conditions : List Nat := []
  allowedGUIDs : List Nat := []
  count : Nat := 1
  isLooted : Bool := false
  isBlocked : Bool := false
  freeforall : Bool := false
  isUnderthreshold : Bool := false
  isCounted : Bool := false
  needsQuest : Bool := false
deriving DecidableEq, Repr

/-- `QuestItem`: the position of an item in `questItems` or `items`, for one player. -/
structure QuestItem where
  index : Nat
  isLooted : Bool := false
deriving DecidableEq, Repr

abbrev QuestItemMap := OrdMap Nat (List QuestItem)

structure Loot where
  items : List LootItem := []
  questItems : List LootItem := []
  gold : Nat := 0
  unlootedCount : UInt8 := 0
  roundRobinPlayer : Nat := 0
  playerQuestItems : QuestItemMap := ∅
  playerFFAItems : QuestItemMap := ∅
  playerNonQuestNonFFAConditionalItems : QuestItemMap := ∅

def Loot.clear : Loot := {}

def Loot.isLooted (loot : Loot) : Bool := loot.gold == 0 && loot.unlootedCount == 0

/-- `is_looted = true` and one unit less. -/
def Loot.takeItem (loot : Loot) (slot : Nat) : Loot :=
  { loot with items := loot.items.modify slot (fun i => { i with isLooted := true })
              unlootedCount := loot.unlootedCount - 1 }

def Loot.unblockItem (loot : Loot) (slot : Nat) : Loot :=
  { loot with items := loot.items.modify slot (fun i => { i with isBlocked := false }) }

/-- The constructor `LootItem::LootItem(LootStoreItem const&)`. -/
def LootItem.ofStoreItem (store : TemplateStore) (li : LootStoreItem) (d : LootDraw) : LootItem where
  itemid := li.itemid
  conditions := li.conditions
  freeforall := match store li.itemid with
    | some proto => hasMask proto.flags ITEM_PROTO_FLAG_PARTY_LOOT
    | none => false
  needsQuest := li.needsQuest
  count := d.count
  randomSuffix := d.randomSuffix
  randomPropertyId := d.randomPropertyId

def LootItem.allowedForPlayer (store : TemplateStore) (item : LootItem) (player : Looter) : Bool :=
  if !player.meetsConditions item.conditions then false
  else match store item.itemid with
    | none => false
    | some proto =>
      if hasMask proto.flags ITEM_PROTO_FLAG_SMART_LOOT &&
          (!player.hasSkill proto.requiredSkill || player.hasSpell proto.taughtSpell) then false
      else if hasMask proto.flags2 ITEM_FLAGS_EXTRA_HORDE_ONLY && player.team != .horde then false
      else if hasMask proto.flags2 ITEM_FLAGS_EXTRA_ALLIANCE_ONLY && player.team != .alliance then
        false
      else if item.needsQuest then player.hasQuestForItem item.itemid
      else !(proto.startQuest != 0 && player.questKnown proto.startQuest &&
        !player.hasQuestForItem item.itemid)

def LootItem.addAllowedLooter (item : LootItem) (player : Looter) : LootItem :=
  { item with allowedGUIDs := item.allowedGUIDs.insert player.guid }

/-- Where `LootItemInSlot` found an item: in `questItems` or `items`, at which index, and the
position of the `QuestItem` it hands back through each of its pointer arguments. -/
structure SlotItem where
  quest : Bool
  index : Nat
  item : LootItem
  qitem : Option Nat := none
  ffaitem : Option Nat := none
  conditem : Option Nat := none
deriving DecidableEq, Repr

/-- The first entry for `index` in the list of player `guid`, with its position. -/
def QuestItemMap.lookup (m : QuestItemMap) (guid index : Nat) : Option (Nat × QuestItem) :=
  match OrdMap.find? m guid with
  | none => none
  | some ql => match ql.findIdx? (fun q => q.index == index) with
    | none => none
    | some k => ql[k]?.map (fun q => (k, q))

def Loot.lootItemInSlot (loot : Loot) (lootSlot guid : Nat) : Option SlotItem :=
  match loot.items[lootSlot]? with
  | none =>
    -- slots past the ordinary items are positions in the player's quest list
    match loot.playerQuestItems.find? guid with
    | none => none
    | some ql => match ql[lootSlot - loot.items.length]? with
      | none => none
      | some q => match loot.questItems[q.index]? with
        | none => none
        | some item =>
          if q.isLooted then none
          else some { quest := true, index := q.index, item := item,
                      qitem := some (lootSlot - loot.items.length) }
  | some item =>
    let found : SlotItem := { quest := false, index := lootSlot, item := item }
    if item.freeforall then
      match loot.playerFFAItems.lookup guid lootSlot with
      | some (k, q) => if q.isLooted then none else some { found with ffaitem := some k }
      | none => if item.isLooted then none else some found
    else if item.conditions ≠ [] then
      match loot.playerNonQuestNonFFAConditionalItems.lookup guid lootSlot with
      | some (k, q) => if q.isLooted then none else some { found with conditem := some k }
      | none => if item.isLooted then none else some found
    else if item.isLooted then none else some found

def Loot.getMaxSlotInLootFor (loot : Loot) (guid : Nat) : Nat :=
  loot.items.length + match loot.playerQuestItems.find? guid with
    | some ql => ql.length
    | none => 0

end SkyfireBG
