import SkyfireBG.Inventory.Data
import SkyfireBG.Lib.Byte

/-!
# SkyfireBG.Inventory.CanStore

How many items of an entry or of a limit category a player has, and `CanTakeMoreSimilarItems`.
Sums are `uint32`.
-/

namespace SkyfireBG

def ITEM_LIMIT_CATEGORY_MODE_HAVE : Nat := 0

structure ItemLimitCategoryEntry where
  maxCount : Nat
  mode : Nat
deriving DecidableEq, Repr

structure ItemStores where
  store : TemplateStore
  /-- `sItemSparseStore` has the entry. -/
  hasSparse : Nat → Bool := fun _ => true
  /-- `CONFIG_DB2_ENFORCE_ITEM_ATTRIBUTES`. -/
  enforceItemAttributes : Bool := false
  limitCategory : Nat → Option ItemLimitCategoryEntry := fun _ => none
  store_id : ∀ entry proto, store entry = some proto → proto.itemId = entry
  /-- The loader cuts `ContainerSlots` down to `MAX_BAG_SIZE`. -/
  slots_le : ∀ entry proto, store entry = some proto → proto.containerSlots ≤ MAX_BAG_SIZE

namespace Holdings

variable {P : Type} (w : Holdings P) (p : P)

/-- What `value` gives for the items in these slots of `_items`. -/
def countInSlots (value : Nat → Nat) (slots : List Nat) : Nat :=
  (slots.map (fun s => (w.getItemByPos p (INVENTORY_SLOT_BAG_0, s)).elim 0 value)).sum

/-- What `value` gives for the items in one bag. -/
def countInBag (value : Nat → Nat) (bag : Nat) : Nat :=
  ((List.range (w.getBagSize bag)).map (fun j => (w.held (.bagslot bag j)).elim 0 value)).sum

def countInBags (value : Nat → Nat) (bags : List Nat) : Nat :=
  (bags.map (fun b => (w.getBagByPos p b).elim 0 (w.countInBag value))).sum

/-- `GetCount` of an item of this entry that is not skipped. -/
def entryCount (entry : Nat) (skipItem : Option Nat) (g : Nat) : Nat :=
  if some g = skipItem then 0 else if (w.item g).entry = entry then (w.item g).count else 0

def gemCount (entry : Nat) (skipItem : Option Nat) (g : Nat) : Nat :=
  if some g = skipItem then 0
  else if (w.item g).proto.socketColor ≠ 0 then (w.item g).getGemCountWithID entry else 0

def categoryCount (limitCategory : Nat) (skipItem : Option Nat) (g : Nat) : Nat :=
  if some g = skipItem then 0
  else if (w.item g).proto.itemLimitCategory = limitCategory then (w.item g).count else 0

/-- `Player::GetItemCount`: the gems count where the item to skip is a gem. -/
def getItemCount (entry : Nat) (inBankAlso : Bool) (skipItem : Option Nat) : Nat :=
  let count := w.entryCount entry skipItem
  let gems := if skipItem.any (fun g => (w.item g).proto.gemProperties != 0) then
    w.gemCount entry skipItem else fun _ => 0
  let inBags := fun g => count g + gems g
  let carried :=
    w.countInSlots p count (slotRange EQUIPMENT_SLOT_START INVENTORY_SLOT_ITEM_END) +
    w.countInSlots p count (slotRange KEYRING_SLOT_START CURRENCYTOKEN_SLOT_END) +
    w.countInBags p inBags (slotRange INVENTORY_SLOT_BAG_START INVENTORY_SLOT_BAG_END) +
    w.countInSlots p gems (slotRange EQUIPMENT_SLOT_START INVENTORY_SLOT_ITEM_END)
  let banked :=
    w.countInSlots p count (slotRange BANK_SLOT_ITEM_START BANK_SLOT_ITEM_END) +
    w.countInBags p inBags (slotRange BANK_SLOT_BAG_START BANK_SLOT_BAG_END) +
    w.countInSlots p gems (slotRange BANK_SLOT_ITEM_START BANK_SLOT_ITEM_END)
  uint32 (if inBankAlso then carried + banked else carried)

def getItemCountWithLimitCategory (limitCategory : Nat) (skipItem : Option Nat) : Nat :=
  let count := w.categoryCount limitCategory skipItem
  uint32 (w.countInSlots p count (slotRange EQUIPMENT_SLOT_START INVENTORY_SLOT_ITEM_END) +
    w.countInSlots p count (slotRange KEYRING_SLOT_START CURRENCYTOKEN_SLOT_END) +
    w.countInBags p count (slotRange INVENTORY_SLOT_BAG_START INVENTORY_SLOT_BAG_END) +
    w.countInSlots p count (slotRange BANK_SLOT_ITEM_START BANK_SLOT_ITEM_END) +
    w.countInBags p count (slotRange BANK_SLOT_BAG_START BANK_SLOT_BAG_END))

/-- `Player::CanTakeMoreSimilarItems`, with what it writes to `no_space_count`. -/
def canTakeMoreSimilarItems (e : ItemStores) (entry count : Nat) (pItem : Option Nat) :
    InventoryResult × Option Nat :=
  match e.store entry with
  | none => (.cantCarryMoreOfThis, some count)
  | some proto =>
    if !e.hasSparse entry && e.enforceItemAttributes then (.cantCarryMoreOfThis, some count)
    else if pItem.any (fun g => (w.item g).lootGenerated) then (.alreadyLooted, none)
    -- no maximum
    else if (proto.maxCount ≤ 0 ∧ proto.itemLimitCategory = 0) ∨ proto.maxCount = 2147483647 then
      (.ok, none)
    else
      let curcount := w.getItemCount p proto.itemId true pItem
      if 0 < proto.maxCount ∧ proto.maxCount.toNat < uint32 (curcount + count) then
        (.cantCarryMoreOfThis, some (uint32 (curcount + count) - proto.maxCount.toNat))
      else if proto.itemLimitCategory = 0 then (.ok, none)
      else match e.limitCategory proto.itemLimitCategory with
        | none => (.itemCantBeEquipped, some count)
        | some limitEntry =>
          let curcount := w.getItemCountWithLimitCategory p proto.itemLimitCategory pItem
          if limitEntry.mode = ITEM_LIMIT_CATEGORY_MODE_HAVE ∧
              limitEntry.maxCount < uint32 (curcount + count) then
            (.itemMaxLimitCategoryCountExceeded,
              some (uint32 (curcount + count) - limitEntry.maxCount))
          else (.ok, none)

variable {w} {p} {e : ItemStores} {entry count : Nat} {pItem : Option Nat}

theorem canTake_refused (hl : pItem.any (fun g => (w.item g).lootGenerated) = false)
    (hcount : 0 < count)
    (hr : (w.canTakeMoreSimilarItems p e entry count pItem).1 ≠ .ok) :
    ∃ n, (w.canTakeMoreSimilarItems p e entry count pItem).2 = some n ∧ 0 < n := by
  simp only [canTakeMoreSimilarItems, hl, Bool.false_eq_true, if_false] at hr ⊢
  split at hr
  · exact ⟨count, rfl, hcount⟩
  · by_cases hsparse : (!e.hasSparse entry && e.enforceItemAttributes) = true
    · rw [if_pos hsparse]
      exact ⟨count, rfl, hcount⟩
    · rw [if_neg hsparse] at hr ⊢
      split at hr
      · exact absurd rfl hr
      · rename_i hlimited
        rw [if_neg hlimited]
        split at hr
        · rename_i hmax
          rw [if_pos hmax]
          exact ⟨_, rfl, by omega⟩
        · rename_i hmax
          rw [if_neg hmax]
          split at hr
          · exact absurd rfl hr
          · rename_i hcategory
            rw [if_neg hcategory]
            split at hr
            · exact ⟨count, rfl, hcount⟩
            · split at hr
              · rename_i hmany
                rw [if_pos hmany]
                exact ⟨_, rfl, by omega⟩
              · exact absurd rfl hr

end Holdings

/-!
## The search for room

The searches for room: `CanStoreItem` for the carried inventory and `CanBankItem` for the bank.

Both run a sequence of passes over slots and bags.  The passes share a `Plan`, the vector `dest` and
the count still to be placed; the search stops at the first pass that fails or places the rest.
-/

/-- `ItemPosCount`: so many items to this position. -/
structure ItemPosCount where
  pos : Pos
  count : Nat
deriving DecidableEq, Repr

/-- The vector `dest` and the `count` that is not placed yet. -/
structure Plan where
  dest : List ItemPosCount
  count : Nat
deriving DecidableEq, Repr

namespace Plan

/-- `isContainedIn`: only the positions are compared. -/
def contains (plan : Plan) (pos : Pos) : Bool := plan.dest.any (fun d => d.pos == pos)

/-- As much of the rest as `need_space` allows goes to `pos`. -/
def push (plan : Plan) (pos : Pos) (needSpace : Nat) : Plan where
  dest := plan.dest ++ [{ pos := pos, count := min needSpace plan.count }]
  count := plan.count - min needSpace plan.count

end Plan

namespace Holdings

variable {P : Type} (w : Holdings P) (p : P)

def itemBeside (pos : Pos) (pSrcItem : Option Nat) : Option Nat :=
  if w.getItemByPos p pos = pSrcItem then none else w.getItemByPos p pos

def movesFullBag (pSrcItem : Option Nat) : Bool := pSrcItem.any w.isNotEmptyBag

def canStoreItem_InSpecificSlot (pos : Pos) (plan : Plan) (proto : ItemTemplate) (swap : Bool)
    (pSrcItem : Option Nat) : InventoryResult × Plan :=
  let place (needSpace : Nat) : InventoryResult × Plan :=
    (.ok, if plan.contains pos then plan else plan.push pos needSpace)
  if w.movesFullBag pSrcItem && !isBagPos pos then (.canOnlyDoWithEmptyBags, plan)
  else match (if swap then none else w.itemBeside p pos pSrcItem) with
    | none =>
      if pos.1 = INVENTORY_SLOT_BAG_0 then
        if KEYRING_SLOT_START ≤ pos.2 ∧ pos.2 < KEYRING_SLOT_START + getMaxKeyringSize ∧
            hasMask proto.bagFamily BAG_FAMILY_MASK_KEYS = false then (.itemDoesntGoIntoBag, plan)
        else if CURRENCYTOKEN_SLOT_START ≤ pos.2 ∧ pos.2 < CURRENCYTOKEN_SLOT_END ∧
            hasMask proto.bagFamily BAG_FAMILY_MASK_CURRENCY_TOKENS = false then
          (.itemDoesntGoIntoBag, plan)
        else if (BUYBACK_SLOT_START ≤ pos.2 ∧ pos.2 < BUYBACK_SLOT_END) ∨ PLAYER_SLOT_END ≤ pos.2 then
          (.itemDoesntGoIntoBag, plan)
        else place proto.getMaxStackSize
      else match w.getBagByPos p pos.1 with
        | none => (.itemDoesntGoIntoBag, plan)
        | some pBag =>
          if w.getBagSize pBag ≤ pos.2 then (.itemDoesntGoIntoBag, plan)
          else if !itemCanGoIntoBag proto (w.item pBag).proto then (.itemDoesntGoIntoBag, plan)
          else place proto.getMaxStackSize
    | some pItem2 =>
      if (w.item pItem2).canBeMergedPartlyWith proto ≠ .ok then
        ((w.item pItem2).canBeMergedPartlyWith proto, plan)
      else place (proto.getMaxStackSize - (w.item pItem2).count)

/-- The space a pass finds at a position: on stacks when it merges, else in empty slots. -/
def needSpace (pos : Pos) (proto : ItemTemplate) (merge : Bool) (pSrcItem : Option Nat) :
    Option Nat :=
  match w.itemBeside p pos pSrcItem with
  | none => if merge then none else some proto.getMaxStackSize
  | some pItem2 =>
    if !merge then none
    else if (w.item pItem2).canBeMergedPartlyWith proto ≠ .ok then none
    else some (proto.getMaxStackSize - (w.item pItem2).count)

def storeLoop (bag : Nat) (proto : ItemTemplate) (merge : Bool) (pSrcItem : Option Nat)
    (skip : Nat → Bool) : List Nat → Plan → Plan
  | [], plan => plan
  | j :: slots, plan =>
    if skip j then storeLoop bag proto merge pSrcItem skip slots plan
    else match w.needSpace p (bag, j) proto merge pSrcItem with
      | none => storeLoop bag proto merge pSrcItem skip slots plan
      | some needSpace =>
        if plan.contains (bag, j) then storeLoop bag proto merge pSrcItem skip slots plan
        else if (plan.push (bag, j) needSpace).count = 0 then plan.push (bag, j) needSpace
        else storeLoop bag proto merge pSrcItem skip slots (plan.push (bag, j) needSpace)

def canStoreItem_InBag (bag : Nat) (plan : Plan) (proto : ItemTemplate)
    (merge nonSpecialized : Bool) (pSrcItem : Option Nat) (skip : Pos) : InventoryResult × Plan :=
  if bag = skip.1 then (.itemDoesntGoIntoBag, plan)
  else match w.getBagByPos p bag with
    | none => (.itemDoesntGoIntoBag, plan)
    | some pBag =>
      if some pBag = pSrcItem then (.itemDoesntGoIntoBag, plan)
      else if w.movesFullBag pSrcItem then (.canOnlyDoWithEmptyBags, plan)
      else if nonSpecialized != (w.item pBag).proto.isPlainContainer then
        (.itemDoesntGoIntoBag, plan)
      else if !itemCanGoIntoBag proto (w.item pBag).proto then (.itemDoesntGoIntoBag, plan)
      else (.ok, w.storeLoop p bag proto merge pSrcItem (fun j => j == skip.2)
        (List.range (w.getBagSize pBag)) plan)

def canStoreItem_InInventorySlots (slotBegin slotEnd : Nat) (plan : Plan) (proto : ItemTemplate)
    (merge : Bool) (pSrcItem : Option Nat) (skip : Pos) : InventoryResult × Plan :=
  if w.movesFullBag pSrcItem then (.canOnlyDoWithEmptyBags, plan)
  else (.ok, w.storeLoop p INVENTORY_SLOT_BAG_0 proto merge pSrcItem
    (fun j => INVENTORY_SLOT_BAG_0 == skip.1 && j == skip.2) (slotRange slotBegin slotEnd) plan)

/-- A bag is tried as a special one first, then as a plain one; it is not skipped. -/
def inRequestedBag (bag slot : Nat) (plan : Plan) (proto : ItemTemplate) (merge : Bool)
    (pSrcItem : Option Nat) : InventoryResult × Plan :=
  let special := w.canStoreItem_InBag p bag plan proto merge false pSrcItem (NULL_BAG, slot)
  if special.1 ≠ .ok then w.canStoreItem_InBag p bag plan proto merge true pSrcItem (NULL_BAG, slot)
  else special

end Holdings

/-! ## The searches -/

structure Ended where
  res : InventoryResult
  plan : Plan
  /-- `no_space_count` is written. -/
  counted : Bool := true

abbrev Search := Except Ended Plan

/-- `if (res != EQUIP_ERR_OK) return res; if (count == 0) return EQUIP_ERR_OK;` -/
def orReturn (r : InventoryResult × Plan) : Search :=
  if r.1 ≠ .ok then .error { res := r.1, plan := r.2 }
  else if r.2.count = 0 then .error { res := .ok, plan := r.2 }
  else .ok r.2

/-- `if (res != EQUIP_ERR_OK) continue; if (count == 0) return EQUIP_ERR_OK;` -/
def orContinue (r : InventoryResult × Plan) : Search :=
  if r.1 = .ok ∧ r.2.count = 0 then .error { res := .ok, plan := r.2 } else .ok r.2

namespace Holdings

variable {P : Type} (w : Holdings P) (p : P)

/-- The pass over the bags in `bagSlots`. -/
def inBags (bagSlots : List Nat) (plan : Plan) (proto : ItemTemplate) (merge nonSpecialized : Bool)
    (pItem : Option Nat) (skip : Pos) : Search :=
  bagSlots.foldlM (fun plan i =>
    orContinue (w.canStoreItem_InBag p i plan proto merge nonSpecialized pItem skip)) plan

def inventoryBags : List Nat := slotRange INVENTORY_SLOT_BAG_START INVENTORY_SLOT_BAG_END

def bankBags : List Nat := slotRange BANK_SLOT_BAG_START BANK_SLOT_BAG_END

section CanStoreItem

variable (bag slot : Nat) (proto : ItemTemplate) (pItem : Option Nat)

/-- The pass of `CanStoreItem` over slots of the inventory. -/
def inSlots (slotBegin slotEnd : Nat) (merge : Bool) (plan : Plan) : Search :=
  orReturn (w.canStoreItem_InInventorySlots p slotBegin slotEnd plan proto merge pItem (bag, slot))

def mergeInSlots (plan : Plan) : Search := do
  let plan ← w.inSlots p bag slot proto pItem KEYRING_SLOT_START CURRENCYTOKEN_SLOT_END true plan
  w.inSlots p bag slot proto pItem INVENTORY_SLOT_ITEM_START INVENTORY_SLOT_ITEM_END true plan

/-- Free slots of the keyring or for tokens, when the inventory itself was asked for.  Here a key
goes on to the slots for tokens. -/
def inRequestedSpecialSlots (plan : Plan) : Search :=
  if hasMask proto.bagFamily BAG_FAMILY_MASK_KEYS then do
    let plan ← w.inSlots p bag slot proto pItem KEYRING_SLOT_START
      (KEYRING_SLOT_START + getMaxKeyringSize) false plan
    w.inSlots p bag slot proto pItem CURRENCYTOKEN_SLOT_START CURRENCYTOKEN_SLOT_END false plan
  else if hasMask proto.bagFamily BAG_FAMILY_MASK_CURRENCY_TOKENS then
    w.inSlots p bag slot proto pItem CURRENCYTOKEN_SLOT_START CURRENCYTOKEN_SLOT_END false plan
  else .ok plan

/-- `// in specific bag`. -/
def inSpecificBag (plan : Plan) : Search :=
  if bag = INVENTORY_SLOT_BAG_0 then do
    let plan ← if proto.stackable ≠ 1 then w.mergeInSlots p bag slot proto pItem plan else .ok plan
    let plan ← w.inRequestedSpecialSlots p bag slot proto pItem plan
    w.inSlots p bag slot proto pItem INVENTORY_SLOT_ITEM_START INVENTORY_SLOT_ITEM_END false plan
  else do
    let plan ← if proto.stackable ≠ 1 then
      orReturn (w.inRequestedBag p bag slot plan proto true pItem) else .ok plan
    orReturn (w.inRequestedBag p bag slot plan proto false pItem)

/-- `// search stack for merge to`. -/
def mergeStacks (plan : Plan) : Search := do
  let plan ← w.mergeInSlots p bag slot proto pItem plan
  let plan ← if proto.bagFamily ≠ 0 then
    w.inBags p inventoryBags plan proto true false pItem (bag, slot) else .ok plan
  w.inBags p inventoryBags plan proto true true pItem (bag, slot)

def inSpecialSlots (plan : Plan) : Search :=
  if hasMask proto.bagFamily BAG_FAMILY_MASK_KEYS then
    w.inSlots p bag slot proto pItem KEYRING_SLOT_START (KEYRING_SLOT_START + getMaxKeyringSize)
      false plan
  else if hasMask proto.bagFamily BAG_FAMILY_MASK_CURRENCY_TOKENS then
    w.inSlots p bag slot proto pItem CURRENCYTOKEN_SLOT_START CURRENCYTOKEN_SLOT_END false plan
  else .ok plan

/-- `// search free slot - special bag case`. -/
def inSpecialBags (plan : Plan) : Search := do
  let plan ← w.inSpecialSlots p bag slot proto pItem plan
  w.inBags p inventoryBags plan proto false false pItem (bag, slot)

/-- `// search free slot`. -/
def inFreeSlots (plan : Plan) : Search :=
  if w.movesFullBag pItem then
    .error { res := .nonemptyBagOverOtherBag, plan := plan, counted := false }
  else do
    let plan ← w.inSlots p bag slot proto pItem INVENTORY_SLOT_ITEM_START INVENTORY_SLOT_ITEM_END
      false plan
    let plan ← w.inBags p inventoryBags plan proto false true pItem (bag, slot)
    .error { res := .inventoryFull, plan := plan }

/-- The passes of `CanStoreItem`, in their order. -/
def searchInventory (swap : Bool) (plan : Plan) : Search := do
  let plan ← if bag ≠ NULL_BAG ∧ slot ≠ NULL_SLOT then
    orReturn (w.canStoreItem_InSpecificSlot p (bag, slot) plan proto swap pItem) else .ok plan
  let plan ← if bag ≠ NULL_BAG then w.inSpecificBag p bag slot proto pItem plan else .ok plan
  let plan ← if proto.stackable ≠ 1 then w.mergeStacks p bag slot proto pItem plan else .ok plan
  let plan ← if proto.bagFamily ≠ 0 then w.inSpecialBags p bag slot proto pItem plan else .ok plan
  w.inFreeSlots p bag slot proto pItem plan

end CanStoreItem

/-- What `CanStoreItem` returns, leaves in `dest` and writes to `no_space_count`. -/
structure CanStore where
  res : InventoryResult
  dest : List ItemPosCount
  noSpaceCount : Option Nat := none
deriving DecidableEq, Repr

/-- The end of a search, when `noSimilar` items were left out of it. -/
def finish (noSimilar : Nat) : Search → CanStore
  | .ok plan => { res := .inventoryFull, dest := plan.dest }
  | .error ended =>
    if ended.res = .ok ∧ noSimilar = 0 then { res := .ok, dest := ended.plan.dest }
    else { res := if ended.res = .ok then .cantCarryMoreOfThis else ended.res
           dest := ended.plan.dest
           noSpaceCount :=
             if ended.counted then some (uint32 (ended.plan.count + noSimilar)) else none }

variable [DecidableEq P]

/-- `Player::CanStoreItem`, with `dest` empty at the call or as an earlier call left it. -/
def canStoreItem (e : ItemStores) (pos : Pos) (dest : List ItemPosCount) (entry count : Nat)
    (pItem : Option Nat) (swap : Bool) : CanStore :=
  match e.store entry with
  | none => { res := if swap then .itemsCantBeSwapped else .itemNotFound, dest := dest
              noSpaceCount := some count }
  | some proto =>
    if pItem.any (fun g => (w.item g).lootGenerated) then
      { res := .alreadyLooted, dest := dest, noSpaceCount := some count }
    else if pItem.any (fun g => (w.item g).isBindedNotWith p) then
      { res := .dontOwnThatItem, dest := dest, noSpaceCount := some count }
    else
      let take := w.canTakeMoreSimilarItems p e entry count pItem
      let noSimilar := take.2.getD 0
      if take.1 ≠ .ok ∧ count = noSimilar then
        { res := take.1, dest := dest, noSpaceCount := some noSimilar }
      else
        let count := if take.1 ≠ .ok then uint32 (count + 2 ^ 32 - noSimilar) else count
        finish noSimilar
          (w.searchInventory p pos.1 pos.2 proto pItem swap { dest := dest, count := count })

/-- `CanStoreItem` for an item with all it has. -/
def canStore (e : ItemStores) (pos : Pos) (dest : List ItemPosCount) (g : Nat) (swap : Bool) :
    CanStore :=
  w.canStoreItem p e pos dest (w.item g).entry (w.item g).count (some g) swap

end Holdings

/-!
## Storing

What changes an inventory: `CreateItem`, `CloneItem`, `StoreItem`, `StoreNewItem` and `RemoveItem`.

An `Item` that is merged into a stack is deleted by the source; here its record stays, in no place.
-/

namespace Item

variable {P : Type}

/-- `Item::CreateItem` for an entry with a template. -/
def create (proto : ItemTemplate) (count : Nat) (player : Option P) : Option (Item P) :=
  if count < 1 then none
  else some { proto := proto, count := min count proto.getMaxStackSize, owner := player }

/-- `Item::CloneItem`: the flags are copied, the enchantments are not. -/
def cloneItem (i : Item P) (count : Nat) (player : Option P) : Option (Item P) :=
  (create i.proto count player).map
    (fun n => { n with soulBound := i.soulBound, bopTradeable := i.bopTradeable })

/-- The item becomes soulbound when it is stored at `pos`. -/
def bindsAt (i : Item P) (pos : Pos) : Bool :=
  i.proto.bonding == BIND_WHEN_PICKED_UP || i.proto.bonding == BIND_QUEST_ITEM ||
    (i.proto.bonding == BIND_WHEN_EQUIPED && isBagPos pos)

def setBinding (i : Item P) (pos : Pos) : Item P :=
  if i.bindsAt pos then { i with soulBound := true } else i

@[simp] theorem setBinding_proto {i : Item P} {pos : Pos} : (i.setBinding pos).proto = i.proto := by
  unfold Item.setBinding
  split <;> rfl

@[simp] theorem setBinding_count {i : Item P} {pos : Pos} : (i.setBinding pos).count = i.count := by
  unfold Item.setBinding
  split <;> rfl

end Item

namespace Holdings

variable {P : Type} (w : Holdings P)

def newItem (i : Item P) : Nat × Holdings P :=
  (w.nextGuid, { w with item := Function.update w.item w.nextGuid i, nextGuid := w.nextGuid + 1 })

/-- The array entry `_StoreItem` writes to; without a bag that is an entry of `_items`. -/
def placeOf (p : P) (pos : Pos) : Place P :=
  if pos.1 = INVENTORY_SLOT_BAG_0 then .slot p pos.2
  else match w.getBagByPos p pos.1 with
    | none => .slot p pos.2
    | some pBag => .bagslot pBag pos.2

def ownerAt (p : P) (pos : Pos) : Option P :=
  if pos.1 = INVENTORY_SLOT_BAG_0 then some p
  else match w.getBagByPos p pos.1 with
    | none => some p
    | some pBag => (w.item pBag).owner

variable [DecidableEq P] (p : P)

def putAt (pos : Pos) (g : Nat) : Holdings P :=
  if w.placeOf p pos = .bagslot g pos.2 then w
  else (w.setItem g { w.item g with owner := w.ownerAt p pos }).put (w.placeOf p pos) g

/-- `Player::_StoreItem` at an empty position: the item itself or a clone of it. -/
def storeEmpty (pos : Pos) (g count : Nat) (clone : Bool) : Option Nat × Holdings P :=
  match (if clone then ((w.item g).cloneItem count (some p)).map w.newItem
      else some (g, w.setCount g count)) with
  | none => (none, w)
  | some (g, w) => (some g, (w.setItem g ((w.item g).setBinding pos)).putAt p pos g)

/-- `Player::_StoreItem` at a stack. -/
def storeMerge (pos : Pos) (g2 count : Nat) : Holdings P :=
  w.setItem g2 { (w.item g2).setBinding pos with count := (w.item g2).count + count }

/-- `Player::_StoreItem`. -/
def storeAt (d : ItemPosCount) (g : Nat) (clone : Bool) : Option Nat × Holdings P :=
  match w.getItemByPos p d.pos with
  | none => w.storeEmpty p d.pos g d.count clone
  | some g2 => (some g2, w.storeMerge d.pos g2 d.count)

/-- `Player::StoreItem`: clones go to all positions of `dest` but the last. -/
def storeItem (w : Holdings P) : List ItemPosCount → Nat → Option Nat × Holdings P
  | [], g => (some g, w)
  | [d], g => w.storeAt p d g false
  | d :: ds, g => storeItem (w.storeAt p d g true).2 ds g

def storeNewItem (e : ItemStores) (dest : List ItemPosCount) (entry : Nat) :
    Option Nat × Holdings P :=
  match (e.store entry).bind
      (fun proto => Item.create proto (dest.map ItemPosCount.count).sum (some p)) with
  | none => (none, w)
  | some i => (w.newItem i).2.storeItem p dest (w.newItem i).1

def removeItem (pos : Pos) : Holdings P :=
  match w.getItemByPos p pos with
  | none => w
  | some _ => w.clear (w.placeOf p pos)

end Holdings

end SkyfireBG
