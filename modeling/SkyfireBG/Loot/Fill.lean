import SkyfireBG.Group.Data

/-!
# SkyfireBG.Loot.Fill

The state the loot code works on: one group, every `Loot` object that it may roll for, and the
awards handed out from the loot now on offer.

An `Award` records one loot unit given to a player.  A unit is one item that can be taken once, or
one free-for-all item for one player.
-/

namespace SkyfireBG

/-- One item given out: from `questItems` or `items` of a loot, at which index. -/
structure Award where
  loot : Nat
  quest : Bool
  index : Nat
  freeforall : Bool
  player : Nat
deriving DecidableEq, Repr

inductive LootUnit where
  | single (loot : Nat) (quest : Bool) (index : Nat)
  | perPlayer (loot : Nat) (quest : Bool) (index : Nat) (player : Nat)
deriving DecidableEq, Repr

def Award.unit (a : Award) : LootUnit :=
  if a.freeforall then .perPlayer a.loot a.quest a.index a.player
  else .single a.loot a.quest a.index

structure LootWorld where
  group : Group := {}
  loots : Nat → Loot := fun _ => {}
  given : List Award := []
  nextItemGuid : Nat := 1

namespace LootWorld

def setLoot (w : LootWorld) (l : Nat) (loot : Loot) : LootWorld :=
  { w with loots := Function.update w.loots l loot }

def setRolls (w : LootWorld) (rolls : List Roll) : LootWorld :=
  { w with group := { w.group with rollId := rolls } }

def award (w : LootWorld) (a : Award) : LootWorld := { w with given := a :: w.given }

/-- `StoreNewItem` of `count` items: of none `Item::CreateItem` makes nothing. -/
def awardOf (w : LootWorld) (count : Nat) (a : Award) : LootWorld :=
  { w with given := if 0 < count then a :: w.given else w.given }

/-- Loot `l` is cleared and its awards with it: what it holds next are new units. -/
def forget (w : LootWorld) (l : Nat) : LootWorld :=
  { w with given := w.given.filter (fun a => a.loot != l) }

variable {w : LootWorld} {l l' : Nat} {loot : Loot} {rolls : List Roll} {a : Award}

@[simp] theorem setLoot_loots_same : (w.setLoot l loot).loots l = loot := by
  simp [setLoot]

theorem setLoot_loots_ne (h : l' ≠ l) : (w.setLoot l loot).loots l' = w.loots l' := by
  simp [setLoot, h]

@[simp] theorem setLoot_group : (w.setLoot l loot).group = w.group := rfl

@[simp] theorem setLoot_given : (w.setLoot l loot).given = w.given := rfl

@[simp] theorem setRolls_loots : (w.setRolls rolls).loots = w.loots := rfl

@[simp] theorem setRolls_rollId : (w.setRolls rolls).group.rollId = rolls := rfl

@[simp] theorem setRolls_given : (w.setRolls rolls).given = w.given := rfl

@[simp] theorem award_loots : (w.award a).loots = w.loots := rfl

@[simp] theorem award_group : (w.award a).group = w.group := rfl

@[simp] theorem award_given : (w.award a).given = a :: w.given := rfl

end LootWorld

/-!
## The loot store

The ways a player takes something out of a `Loot`: `Player::StoreLootItem`, the master looter's
`HandleLootMasterGiveOpcode` and the money of `HandleLootMoneyOpcode`.

Whether the receiving player has room is an argument.  The award is recorded where the source calls
`StoreNewItem`.
-/

/-- Set `is_looted` on entry `k` of the list of player `guid`. -/
def QuestItemMap.markLooted (m : QuestItemMap) (guid k : Nat) : QuestItemMap :=
  match OrdMap.find? m guid with
  | none => m
  | some ql => OrdMap.set m guid (ql.modify k (fun q => { q with isLooted := true }))

namespace Loot

def markItemLooted (loot : Loot) (quest : Bool) (index : Nat) : Loot :=
  if quest then
    { loot with questItems := loot.questItems.modify index (fun i => { i with isLooted := true }) }
  else { loot with items := loot.items.modify index (fun i => { i with isLooted := true }) }

/-- The player's own entry for the item, whichever pointer `LootItemInSlot` set. -/
def markEntryLooted (loot : Loot) (s : SlotItem) (guid : Nat) : Loot :=
  match s.qitem with
  | some k => { loot with playerQuestItems := loot.playerQuestItems.markLooted guid k }
  | none => match s.ffaitem with
    | some k => { loot with playerFFAItems := loot.playerFFAItems.markLooted guid k }
    | none => match s.conditem with
      | some k => { loot with playerNonQuestNonFFAConditionalItems :=
                      loot.playerNonQuestNonFFAConditionalItems.markLooted guid k }
      | none => loot

/-- The bookkeeping of `StoreLootItem` once the item is stored. -/
def takeSlot (loot : Loot) (s : SlotItem) (guid : Nat) : Loot :=
  let loot := loot.markEntryLooted s guid
  let loot := if s.item.freeforall then loot else loot.markItemLooted s.quest s.index
  { loot with unlootedCount := loot.unlootedCount - 1 }

/-- The item `StoreLootItem` gives out, if any: quest items use `is_blocked` for something else. -/
def storable (loot : Loot) (lootSlot guid : Nat) : Option SlotItem :=
  match loot.lootItemInSlot lootSlot guid with
  | none => none
  | some s => if s.qitem.isNone && s.item.isBlocked then none else some s

end Loot

namespace LootWorld

def storeLootItem (w : LootWorld) (l lootSlot guid : Nat) (canStore : Bool) : LootWorld :=
  match (w.loots l).storable lootSlot guid with
  | none => w
  | some s =>
    if canStore then
      (w.setLoot l ((w.loots l).takeSlot s guid)).award
        { loot := l, quest := s.quest, index := s.index, freeforall := s.item.freeforall
          player := guid }
    else w

/-- `HandleLootMasterGiveOpcode`, sent by `giver` who has loot `l` open.  The slot is compared with
`>` only, so the position past the last item goes on to read it; `none` is that read. -/
def handleLootMasterGive (w : LootWorld) (l slotid giver target : Nat) (canStore : Bool) :
    Option LootWorld :=
  if w.group.looterGuid ≠ giver then some w
  else if slotid > (w.loots l).items.length then some w
  else match (w.loots l).items[slotid]? with
    | none => none
    | some item =>
      if canStore then
        let loot := (w.loots l).takeItem slotid
        some ((w.setLoot l
            { loot with items := loot.items.modify slotid (fun i => { i with count := 0 }) }).awardOf
          item.count
          { loot := l, quest := false, index := slotid, freeforall := item.freeforall
            player := target })
      else some w

/-- `HandleLootMoneyOpcode`. -/
def handleLootMoney (w : LootWorld) (l : Nat) : LootWorld :=
  w.setLoot l { w.loots l with gold := 0 }

end LootWorld

/-!
## Filling a loot

`Loot::FillLoot`: the drops of the loot template are added, then each looter gets lists of the
quest, free-for-all and conditional items that are offered to that player.

The three list-filling functions share one loop, `fillLoop`; they differ in what a visit to an item
does and in the early exit of `FillQuestLoot`.
-/

/-- What one of the fill loops does with an item: the item as it is left, whether it is listed, and
whether `unlootedCount` goes up. -/
structure Visit where
  item : LootItem
  listed : Bool
  counted : Bool

/-- The loop over the items from position `i` on, which stops once `full` holds of the length of
the list after an item was listed. -/
def fillLoop (visit : LootItem → Visit) (full : Nat → Bool) :
    Nat → List LootItem → List QuestItem → UInt8 → List LootItem × List QuestItem × UInt8
  | _, [], ql, n => ([], ql, n)
  | i, item :: rest, ql, n =>
    let v := visit item
    let ql' := if v.listed then ql ++ [{ index := i }] else ql
    let n' := if v.counted then n + 1 else n
    if v.listed && full ql'.length then (v.item :: rest, ql', n')
    else
      let (items, ql'', n'') := fillLoop visit full (i + 1) rest ql' n'
      (v.item :: items, ql'', n'')

namespace LootItem

/-- The visit of `FillFFALoot`. -/
def visitFFA (store : TemplateStore) (player : Looter) (item : LootItem) : Visit :=
  let hit := !item.isLooted && item.freeforall && item.allowedForPlayer store player
  { item := item, listed := hit, counted := hit }

/-- The visit of `FillQuestLoot`: an item is blocked once it is in some player's list. -/
def visitQuest (store : TemplateStore) (player : Looter) (item : LootItem) : Visit :=
  if !item.isLooted && item.allowedForPlayer store player then
    { item := { item with isBlocked := true }, listed := true
      counted := item.freeforall || !item.isBlocked }
  else { item := item, listed := false, counted := false }

/-- The visit of `FillNonQuestNonFFAConditionalLoot`. -/
def visitConditional (store : TemplateStore) (player : Looter) (presentAtLooting : Bool)
    (item : LootItem) : Visit :=
  if !item.isLooted && !item.freeforall && item.allowedForPlayer store player then
    let item' := if presentAtLooting then item.addAllowedLooter player else item
    if item.conditions ≠ [] then
      { item := { item' with isCounted := true }, listed := true, counted := !item.isCounted }
    else { item := item', listed := false, counted := false }
  else { item := item, listed := false, counted := false }

end LootItem

def QuestItemMap.keep (m : QuestItemMap) (guid : Nat) (ql : List QuestItem) : QuestItemMap :=
  if ql.isEmpty then m else OrdMap.set m guid ql

namespace Loot

def addItem (store : TemplateStore) (loot : Loot) (d : LootStoreItem × LootDraw) : Loot :=
  if d.1.needsQuest then
    if loot.questItems.length < MAX_NR_QUEST_ITEMS then
      { loot with questItems := loot.questItems ++ [LootItem.ofStoreItem store d.1 d.2] }
    else loot
  else if loot.items.length < MAX_NR_LOOT_ITEMS then
    let counted := d.1.conditions.isEmpty && match store d.1.itemid with
      | some proto => !hasMask proto.flags ITEM_PROTO_FLAG_PARTY_LOOT
      | none => true
    { loot with items := loot.items ++ [LootItem.ofStoreItem store d.1 d.2]
                unlootedCount := if counted then loot.unlootedCount + 1 else loot.unlootedCount }
  else loot

def fillFFALoot (store : TemplateStore) (loot : Loot) (player : Looter) : Loot :=
  let (items, ql, n) := fillLoop (LootItem.visitFFA store player) (fun _ => false) 0 loot.items []
    loot.unlootedCount
  { loot with items := items, unlootedCount := n
              playerFFAItems := loot.playerFFAItems.keep player.guid ql }

def fillQuestLoot (store : TemplateStore) (loot : Loot) (player : Looter) : Loot :=
  if loot.items.length = MAX_NR_LOOT_ITEMS then loot
  else
    let (items, ql, n) := fillLoop (LootItem.visitQuest store player)
      (fun k => loot.items.length + k == MAX_NR_LOOT_ITEMS) 0 loot.questItems [] loot.unlootedCount
    { loot with questItems := items, unlootedCount := n
                playerQuestItems := loot.playerQuestItems.keep player.guid ql }

def fillNonQuestNonFFAConditionalLoot (store : TemplateStore) (loot : Loot) (player : Looter)
    (presentAtLooting : Bool) : Loot :=
  let (items, ql, n) := fillLoop (LootItem.visitConditional store player presentAtLooting)
    (fun _ => false) 0 loot.items [] loot.unlootedCount
  { loot with items := items, unlootedCount := n
              playerNonQuestNonFFAConditionalItems :=
                loot.playerNonQuestNonFFAConditionalItems.keep player.guid ql }

/-- The three lists of `FillNotNormalLootFor`, each filled once for a player. -/
def fillLists (store : TemplateStore) (loot : Loot) (player : Looter) (presentAtLooting : Bool) :
    Loot :=
  let loot := if (loot.playerQuestItems.find? player.guid).isNone then
    loot.fillQuestLoot store player else loot
  let loot := if (loot.playerFFAItems.find? player.guid).isNone then
    loot.fillFFALoot store player else loot
  if (loot.playerNonQuestNonFFAConditionalItems.find? player.guid).isNone then
    loot.fillNonQuestNonFFAConditionalLoot store player presentAtLooting
  else loot

/-- The test that makes `FillNotNormalLootFor` store slot `i` at once: a currency token. -/
def autoStored (store : TemplateStore) (loot : Loot) (player : Looter) (i : Nat) : Bool :=
  match (if i < loot.items.length then loot.items[i]?
      else loot.questItems[i - loot.items.length]?) with
  | none => false
  | some item => !item.isLooted && item.freeforall && item.allowedForPlayer store player &&
      match store item.itemid with
      | some proto => hasMask proto.bagFamily BAG_FAMILY_MASK_CURRENCY_TOKENS
      | none => false

end Loot

/-- One player at the filling of a loot; `canStore` answers for each loot slot. -/
structure FillLooter where
  looter : Looter
  presentAtLooting : Bool
  canStore : Nat → Bool

namespace LootWorld

def fillNotNormalLootFor (store : TemplateStore) (l : Nat) (w : LootWorld) (p : FillLooter) :
    LootWorld :=
  let w := w.setLoot l ((w.loots l).fillLists store p.looter p.presentAtLooting)
  if !p.presentAtLooting then w
  else (List.range ((w.loots l).getMaxSlotInLootFor p.looter.guid)).foldl (fun w i =>
    if (w.loots l).autoStored store p.looter i then
      w.storeLootItem l i p.looter.guid (p.canStore i)
    else w) w

/-- The end of `FillLoot` for a group: mark what is under the group's threshold. -/
def markUnderthreshold (store : TemplateStore) (threshold : Nat) (item : LootItem) : LootItem :=
  match store item.itemid with
  | some proto => if proto.quality < threshold then { item with isUnderthreshold := true } else item
  | none => item

/-- `Loot::clear`, with the rolls that were registered with the loot. -/
def clearLoot (w : LootWorld) (l : Nat) : LootWorld :=
  ((w.forget l).setLoot l Loot.clear).setRolls
    (w.group.rollId.map (fun r => if r.loot = some l then { r with loot := none } else r))

/-- A lootable object is filled afresh: `clear`, `FillLoot` with the drops `drops`, and the money.
For a group loot `owner` is the looter and `looters` the linked members; personal loot has the owner
as its only looter. -/
def fillLoot (w : LootWorld) (store : TemplateStore) (l gold : Nat)
    (drops : List (LootStoreItem × LootDraw)) (owner : Option Nat) (looters : List FillLooter) :
    LootWorld :=
  let w := w.clearLoot l
  let w := w.setLoot l { drops.foldl (Loot.addItem store) Loot.clear with gold := gold }
  match owner with
  | none => looters.foldl (fillNotNormalLootFor store l) w
  | some guid =>
    let w := w.setLoot l { w.loots l with roundRobinPlayer := guid }
    let w := looters.foldl (fillNotNormalLootFor store l) w
    w.setLoot l { w.loots l with
      items := (w.loots l).items.map (markUnderthreshold store w.group.lootThreshold) }

end LootWorld

end SkyfireBG
