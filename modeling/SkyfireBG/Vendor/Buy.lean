import SkyfireBG.Inventory.Equip
import SkyfireBG.Player.Money

/-!
# SkyfireBG.Vendor.Buy

What a vendor sells and what a player pays with: prices, extended costs, currencies, and the counts
a vendor keeps of the items that are limited.
-/

namespace SkyfireBG

def ITEM_FLAGS_EXTRA_EXT_COST_REQUIRES_GOLD : Nat := 0x4

def PLAYER_CURRENCY_PRECISION : Nat := 100

def CURRENCY_TYPE_CONQUEST_POINTS : Nat := 390
def CURRENCY_TYPE_HONOR_POINTS : Nat := 392
def CURRENCY_TYPE_JUSTICE_POINTS : Nat := 395
def CURRENCY_TYPE_VALOR_POINTS : Nat := 396

/-- The fields of `ItemTemplate` that only vendors read.  The loader reads `BuyCount` from eight
bits and makes 1 of 0. -/
structure ItemPrice where
  buyCount : Nat := 1
  buyPrice : Int := 0
  requiredReputationFaction : Nat := 0
  requiredReputationRank : Nat := 0
  pos : 0 < buyCount := by decide
  lt : buyCount < 256 := by decide

/-- The arrays `RequiredItem` and `RequiredCurrency`, each with its counts. -/
structure ItemExtendedCostEntry where
  requiredArenaSlot : Nat := 0
  requiredItem : List (Nat × Nat) := []
  requiredPersonalArenaRating : Nat := 0
  requiredCurrency : List (Nat × Nat) := []

structure VendorItem where
  item : Nat
  maxcount : Nat := 0
  incrtime : Nat := 0
  extendedCost : Nat := 0
  refilled : maxcount ≠ 0 → 0 < incrtime := by decide

def VendorItem.isGoldRequired (crItem : VendorItem) (proto : ItemTemplate) : Bool :=
  hasMask proto.flags2 ITEM_FLAGS_EXTRA_EXT_COST_REQUIRES_GOLD || crItem.extendedCost == 0

structure PlayerCurrency where
  totalCount : Nat := 0
  weekCount : Nat := 0
deriving DecidableEq

/-- `_GetCurrencyTotalCap` and `_GetCurrencyWeekCap`; 0 is no cap. -/
structure CurrencyCaps where
  total : Nat := 0
  week : Nat := 0

abbrev PlayerCurrencies := Nat → Option PlayerCurrency

namespace PlayerCurrencies

variable (m : PlayerCurrencies)

def getCurrency (id : Nat) : Nat := (m id).elim 0 PlayerCurrency.totalCount

def hasCurrency (id count : Nat) : Bool := (m id).any fun c => decide (count ≤ c.totalCount)

/-- The new total and week counts of `ModifyCurrency`, after the caps. -/
def cappedCounts (caps : CurrencyCaps) (newTotalCount newWeekCount : Int) : Int × Int :=
  let (newTotalCount, newWeekCount) :=
    if caps.total ≠ 0 ∧ toInt32 caps.total < newTotalCount then
      (toInt32 caps.total, newWeekCount - (newTotalCount - toInt32 caps.total))
    else (newTotalCount, newWeekCount)
  if caps.week ≠ 0 ∧ toInt32 caps.week < newWeekCount then
    (newTotalCount - (newWeekCount - toInt32 caps.week), toInt32 caps.week)
  else (newTotalCount, newWeekCount)

/-- `ModifyCurrency`: a total below zero becomes zero. -/
def modifyCurrency (caps : CurrencyCaps) (id : Nat) (count : Int) : PlayerCurrencies :=
  if count = 0 then m
  else
    let old := (m id).getD {}
    let oldTotalCount := toInt32 old.totalCount
    let newCounts := cappedCounts caps (max (oldTotalCount + count) 0)
      (max (toInt32 old.weekCount + max count 0) 0)
    let new : PlayerCurrency := if newCounts.1 ≠ oldTotalCount then
        ⟨(newCounts.1 % 2 ^ 32).toNat, (newCounts.2 % 2 ^ 32).toNat⟩
      else old
    Function.update m id (some new)

end PlayerCurrencies

/-- What a currency of an extended cost comes to: most of them are given in hundredths. -/
def currencyAmount (id count : Nat) : Nat :=
  if id = CURRENCY_TYPE_CONQUEST_POINTS ∨ id = CURRENCY_TYPE_HONOR_POINTS ∨
      id = CURRENCY_TYPE_JUSTICE_POINTS ∨ id = CURRENCY_TYPE_VALOR_POINTS then count
  else count * PLAYER_CURRENCY_PRECISION

structure VendorItemCount where
  count : Nat
  lastIncrementTime : Nat

/-- `_vendorItemCounts`, by item. -/
abbrev VendorItemCounts := Nat → Option VendorItemCount

namespace VendorItemCounts

variable (m : VendorItemCounts) (vItem : VendorItem) (buyCount now : Nat)

def refill (c : VendorItemCount) : Nat :=
  uint32 (c.count + uint32 (uint32 ((now - c.lastIncrementTime) / vItem.incrtime) * buyCount))

/-- `GetVendorItemCurrentCount`, with what it keeps. -/
def getVendorItemCurrentCount : Nat × VendorItemCounts :=
  if vItem.maxcount = 0 then (vItem.maxcount, m)
  else match m vItem.item with
    | none => (vItem.maxcount, m)
    | some c =>
      if c.lastIncrementTime + vItem.incrtime ≤ now then
        if refill vItem buyCount now c ≥ vItem.maxcount then
          (vItem.maxcount, Function.update m vItem.item none)
        else (refill vItem buyCount now c,
          Function.update m vItem.item (some ⟨refill vItem buyCount now c, now⟩))
      else (c.count, m)

def updateVendorItemCurrentCount (usedCount : Nat) : VendorItemCounts :=
  if vItem.maxcount = 0 then m
  else match m vItem.item with
    | none => Function.update m vItem.item (some ⟨vItem.maxcount - usedCount, now⟩)
    | some c =>
      let count := if c.lastIncrementTime + vItem.incrtime ≤ now then
          if refill vItem buyCount now c < vItem.maxcount then refill vItem buyCount now c
          else vItem.maxcount
        else c.count
      Function.update m vItem.item (some ⟨count - usedCount, now⟩)

end VendorItemCounts

/-!
## Buying

`BuyItemFromVendorSlot` and `_StoreOrEquipNewItem`.

What is checked is checked first, one price after the other; then a place is found for the item, the
price is paid, and the item is stored or equipped.
-/

def uint8 (n : Nat) : Nat := n % 2 ^ 8

/-- The values of `BuyResult` that are sent. -/
inductive BuyResult where
  | itemNotFound
  | itemAlreadySold
  | notEnoughtMoney
  | distanceTooFar
  | cantEquipReputation
deriving DecidableEq, Repr

inductive Refusal where
  | silent
  | buyError (msg : BuyResult)
  | equipError (msg : InventoryResult)
  | vendorMissingTurnins
  | cantEquipRank
deriving DecidableEq, Repr

/-- The arguments of `BuyItemFromVendorSlot`, before they become bytes. -/
structure BuyOrder where
  vendorslot : Nat
  item : Nat
  count : Nat
  bag : Nat := NULL_BAG
  slot : Nat := NULL_SLOT

structure Shop (P : Type) where
  belongings : Belongings P
  money : Nat
  currencies : PlayerCurrencies
  vendorItemCounts : VendorItemCounts

structure VendorVisit (P : Type) where
  stores : ItemStores
  price : Nat → ItemPrice
  extendedCost : Nat → Option ItemExtendedCostEntry
  caps : Nat → CurrencyCaps
  isAlive : Bool := true
  /-- The items of the vendor, if the player can interact with him. -/
  vendor : Option (List VendorItem)
  reputationRank : Nat → Nat
  /-- `GetMaxPersonalArenaRatingRequirement`. -/
  arenaRating : Nat → Nat
  /-- A price after the discount: `floor(price * GetReputationPriceDiscount(creature))`. -/
  discount : Nat → Nat
  now : Nat
  equipper : Equipper P

namespace ItemExtendedCostEntry

variable (cost : ItemExtendedCostEntry) (n : Nat)

/-- The required items, each with `RequiredItemCount[i] * count`. -/
def itemCosts : List (Nat × Nat) :=
  (cost.requiredItem.filter fun c => c.1 != 0).map fun c => (c.1, uint32 (c.2 * n))

/-- The required currencies with the amounts that are looked for: they are not multiplied. -/
def currenciesAsked : List (Nat × Nat) :=
  (cost.requiredCurrency.filter fun c => c.1 != 0).map fun c =>
    (c.1, uint32 (currencyAmount c.1 c.2))

def currencyCosts : List (Nat × Nat) :=
  (cost.requiredCurrency.filter fun c => c.1 != 0).map fun c =>
    (c.1, uint32 (currencyAmount c.1 (c.2 * n)))

end ItemExtendedCostEntry

/-- `count` after the first adjustments. -/
def ItemPrice.countAsked (price : ItemPrice) (count : Nat) : Nat :=
  let count := if count < 1 then 1 else count
  if count = price.buyCount then 1 else count

namespace VendorVisit

variable {P : Type} (v : VendorVisit P) (p : P)

def findVendorItem (o : BuyOrder) : Except Refusal (ItemTemplate × VendorItem) :=
  if uint8 o.slot > MAX_BAG_SIZE ∧ uint8 o.slot ≠ NULL_SLOT then .error .silent
  else if !v.isAlive then .error .silent
  else match v.stores.store o.item with
    | none => .error (.buyError .itemNotFound)
    | some proto =>
      match v.vendor with
      | none => .error (.buyError .distanceTooFar)
      | some vItems =>
        -- `GetItemCount` returns a byte
        if vItems.isEmpty || decide (uint8 vItems.length ≤ o.vendorslot) then
          .error (.buyError .itemNotFound)
        else match vItems[o.vendorslot]? with
          | none => .error (.buyError .itemNotFound)
          | some crItem =>
            if crItem.item ≠ o.item then .error (.buyError .itemNotFound) else .ok (proto, crItem)

/-- `HasItemCount` for each required item, then `HasCurrency` for each required currency. -/
def checkCost [DecidableEq P] (s : Shop P) (cost : ItemExtendedCostEntry) (n : Nat) :
    Except Refusal Unit :=
  if !(cost.itemCosts n).all (fun c => s.belongings.holdings.hasItemCount p c.1 c.2) then
    .error .vendorMissingTurnins
  else if !cost.currenciesAsked.all (fun c => s.currencies.hasCurrency c.1 c.2) then
    .error .vendorMissingTurnins
  else if v.arenaRating cost.requiredArenaSlot < cost.requiredPersonalArenaRating then
    .error .cantEquipRank
  else .ok ()

def checkRequirements [DecidableEq P] (s : Shop P) (crItem : VendorItem) (n : Nat) :
    Except Refusal Unit :=
  let price := v.price crItem.item
  if price.requiredReputationFaction ≠ 0 ∧
      v.reputationRank price.requiredReputationFaction < price.requiredReputationRank then
    .error (.buyError .cantEquipReputation)
  else if crItem.extendedCost = 0 then .ok ()
  else match v.extendedCost crItem.extendedCost with
    | none => .error .silent
    | some cost => v.checkCost p s cost n

def goldPrice (proto : ItemTemplate) (crItem : VendorItem) (n : Nat) : Nat × Nat :=
  let buyPrice := (v.price crItem.item).buyPrice
  if crItem.isGoldRequired proto ∧ 0 < buyPrice then
    let maxCount := MAX_MONEY_AMOUNT / buyPrice.toNat
    let n := if maxCount < n then uint8 maxCount else n
    (n, uint32 (v.discount (buyPrice.toNat * n)))
  else (n, 0)

variable [DecidableEq P]

/-- The payment in `_StoreOrEquipNewItem`. -/
def pay (s : Shop P) (crItem : VendorItem) (n price : Nat) : Shop P :=
  let s := { s with money := modifyMoney s.money (-toInt32 price) }
  if crItem.extendedCost = 0 then s
  else match v.extendedCost crItem.extendedCost with
    | none => s
    | some cost =>
      { s with
        belongings :=
          { s.belongings with
            holdings := (cost.itemCosts n).foldl
              (fun w c => w.destroyItemCount p c.1 c.2) s.belongings.holdings }
        currencies := (cost.currencyCosts n).foldl
          (fun m c => m.modifyCurrency (v.caps c.1) c.1 (-toInt32 c.2)) s.currencies }

/-- The vendor has sold `units`, if there is an item. -/
def sell (s : Shop P) (crItem : VendorItem) (units : Nat) (item : Option Nat) : Shop P :=
  let buyCount := (v.price crItem.item).buyCount
  let counts := s.vendorItemCounts.updateVendorItemCurrentCount crItem buyCount v.now units
  if item.isSome then { s with vendorItemCounts := counts } else s

/-- `_StoreOrEquipNewItem` with `bStore`. -/
def storeNewItem (s : Shop P) (crItem : VendorItem) (pos : Pos) (n price : Nat) :
    Except Refusal Unit × Shop P :=
  let units := (v.price crItem.item).buyCount * n
  let plan := s.belongings.holdings.canStoreItem p v.stores pos [] crItem.item units none false
  if plan.res ≠ .ok then (.error (.equipError plan.res), s)
  else
    let s := v.pay p s crItem n price
    let stored := s.belongings.holdings.storeNewItem p v.stores plan.dest crItem.item
    (.ok (), v.sell { s with belongings := { s.belongings with holdings := stored.2 } } crItem units
      stored.1)

/-- `_StoreOrEquipNewItem` without `bStore`. -/
def equipNewItem (s : Shop P) (crItem : VendorItem) (slot n price : Nat) :
    Except Refusal Unit × Shop P :=
  let units := (v.price crItem.item).buyCount * n
  let can := s.belongings.canEquipNewItem v.equipper v.stores p slot crItem.item false
  let s := { s with belongings := can.2.2 }
  if can.1 ≠ .ok then (.error (.equipError can.1), s)
  else
    let s := v.pay p s crItem n price
    let equipped := s.belongings.holdings.equipNewItem p v.stores (INVENTORY_SLOT_BAG_0, can.2.1)
      crItem.item
    let s := v.sell { s with belongings := { s.belongings with holdings := equipped.2 } } crItem
      units equipped.1
    (.ok (), if equipped.1.isSome then
        { s with belongings := s.belongings.autoUnequipOffhandIfNeed v.equipper v.stores p false }
      else s)

def storeOrEquip (s : Shop P) (crItem : VendorItem) (pos : Pos) (n price : Nat) :
    Except Refusal Unit × Shop P :=
  if pos = (NULL_BAG, NULL_SLOT) ∨ isInventoryPos pos then v.storeNewItem p s crItem pos n price
  else if isEquipmentPos pos then
    if (v.price crItem.item).buyCount * n ≠ 1 then (.error (.equipError .itemCantBeEquipped), s)
    else v.equipNewItem p s crItem pos.2 n price
  else (.error (.equipError .itemDoesntGoToSlot), s)

/-- `BuyItemFromVendorSlot`; the value is whether the vendor's list has to be shown again. -/
def buyItemFromVendorSlot (s : Shop P) (o : BuyOrder) : Except Refusal Bool × Shop P :=
  match v.findVendorItem o with
  | .error r => (.error r, s)
  | .ok (proto, crItem) =>
    let price := v.price o.item
    let n := price.countAsked (uint8 o.count)
    let current :=
      s.vendorItemCounts.getVendorItemCurrentCount crItem price.buyCount v.now
    let s := { s with vendorItemCounts := current.2 }
    if crItem.maxcount ≠ 0 ∧ current.1 < price.buyCount * n then
      (.error (.buyError .itemAlreadySold), s)
    else match v.checkRequirements p s crItem n with
      | .error r => (.error r, s)
      | .ok _ =>
        let gold := v.goldPrice proto crItem n
        if s.money < gold.2 then (.error (.buyError .notEnoughtMoney), s)
        else
          let r := v.storeOrEquip p s crItem (uint8 o.bag, uint8 o.slot) gold.1 gold.2
          (r.1.map fun _ => decide (crItem.maxcount ≠ 0), r.2)

end VendorVisit

end SkyfireBG
