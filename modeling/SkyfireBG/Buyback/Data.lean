import SkyfireBG.Vendor.Buy

/-!
# SkyfireBG.Buyback.Data

Sales to a vendor and what is bought back: `HandleSellItemOpcode`, `HandleBuybackItem` and the
buyback slots, which are the entries of `_items` from `BUYBACK_SLOT_START` to before
`BUYBACK_SLOT_END`.
-/

namespace SkyfireBG

/-- The values of `SellResult` that are sent. -/
inductive SellResult where
  | cantFindItem
  | cantSellItem
  | cantFindVendor
deriving DecidableEq, Repr

inductive TradeRefusal where
  | silent
  | sellError (msg : SellResult)
  | buyError (msg : BuyResult)
  | equipError (msg : InventoryResult)
deriving DecidableEq, Repr

structure TradeRules where
  stores : ItemStores
  sellPrice : Nat → Nat
  loginTime : Int

/-- `CMSG_SELL_ITEM`, with what is found when it is handled. -/
structure SellOrder where
  vendor : Bool := true
  itemguid : Nat
  count : Nat
  lootGUID : Nat := 0
  /-- `ITEM_FLAG_REFUNDABLE` of the item -/
  refundable : Bool := false
  now : Int

/-- `CMSG_BUYBACK_ITEM` -/
structure BuybackOrder where
  vendor : Bool := true
  slot : Nat

/-- The inventory, the money and the buyback fields of a player.  The fields are by slot. -/
structure BuybackSlots (P : Type) where
  items : Holdings P
  money : Nat
  currentBuybackSlot : Nat
  /-- `PLAYER_FIELD_VENDORBUYBACK_SLOT_1` -/
  vendorbuyback : Nat → Nat
  /-- `PLAYER_FIELD_BUYBACK_PRICE_1` -/
  price : Nat → Nat
  /-- `PLAYER_FIELD_BUYBACK_TIMESTAMP_1` -/
  timestamp : Nat → Nat
  -- the history: what came to a buyback slot, what was bought back, and what was deleted there
  sold : List Nat
  boughtBack : List Nat
  discarded : List (Nat × Item P)

def isBuybackSlot (slot : Nat) : Bool := BUYBACK_SLOT_START ≤ slot && slot < BUYBACK_SLOT_END

namespace BuybackSlots

variable {P : Type}

def start (items : Holdings P) (money : Nat) : BuybackSlots P where
  items := items
  money := money
  currentBuybackSlot := BUYBACK_SLOT_START
  vendorbuyback := fun _ => 0
  price := fun _ => 0
  timestamp := fun _ => 0
  sold := []
  boughtBack := []
  discarded := []

section Player

variable [DecidableEq P] (p : P) (s : BuybackSlots P)

/-- `_items[slot]` -/
def itemIn (slot : Nat) : Option Nat := s.items.held (.slot p slot)

def deleted (slot : Nat) (del : Bool) : List (Nat × Item P) :=
  match s.itemIn p slot with
  | some g => if del then [(g, s.items.item g)] else []
  | none => []

def removeItemFromBuyBackSlot (slot : Nat) (del : Bool) : BuybackSlots P :=
  if isBuybackSlot slot then
    let items := s.items.clear (.slot p slot)
    { s with
      items := items
      vendorbuyback := Function.update s.vendorbuyback slot 0
      price := Function.update s.price slot 0
      timestamp := Function.update s.timestamp slot 0
      currentBuybackSlot :=
        if (items.held (.slot p s.currentBuybackSlot)).isSome then slot else s.currentBuybackSlot
      discarded := s.deleted p slot del ++ s.discarded }
  else s

/-- The loop over the slots from `i` on, of which there are `n`: the values of `slot` and of
`oldest_slot` after it. -/
def searchBuyBackSlot : (n i slot oldest_time oldest_slot : Nat) → Nat × Nat
  | 0, _, slot, _, oldest_slot => (slot, oldest_slot)
  | n + 1, i, slot, oldest_time, oldest_slot =>
    if (s.itemIn p i).isNone then (i, oldest_slot)
    else if oldest_time > s.timestamp i then
      searchBuyBackSlot n (i + 1) slot (s.timestamp i) i
    else searchBuyBackSlot n (i + 1) slot oldest_time oldest_slot

/-- The slot for the next item.  After the loop `oldest_slot` replaces what it has found. -/
def nextBuyBackSlot : Nat :=
  if (s.itemIn p s.currentBuybackSlot).isSome then
    (s.searchBuyBackSlot p (BUYBACK_SLOT_END - (BUYBACK_SLOT_START + 1)) (BUYBACK_SLOT_START + 1)
      s.currentBuybackSlot (s.timestamp BUYBACK_SLOT_START) BUYBACK_SLOT_START).2
  else s.currentBuybackSlot

/-- `uint32(base - _logintime + (30 * 3600))` -/
def etime (v : TradeRules) (now : Int) : Nat := ((now - v.loginTime + 30 * 3600) % 2 ^ 32).toNat

/-- `SellPrice * count`, as `uint32` -/
def priceOf (v : TradeRules) (entry count : Nat) : Nat := uint32 (v.sellPrice entry * count)

def addItemToBuyBackSlot (v : TradeRules) (now : Int) (g : Nat) : BuybackSlots P :=
  let slot := s.nextBuyBackSlot p
  let s := s.removeItemFromBuyBackSlot p slot true
  { s with
    items := s.items.put (.slot p slot) g
    vendorbuyback := Function.update s.vendorbuyback slot g
    price := Function.update s.price slot (priceOf v (s.items.item g).entry (s.items.item g).count)
    timestamp := Function.update s.timestamp slot (etime v now)
    currentBuybackSlot :=
      if s.currentBuybackSlot < BUYBACK_SLOT_END - 1 then s.currentBuybackSlot + 1
      else s.currentBuybackSlot
    sold := g :: s.sold }

def getItemFromBuyBackSlot (slot : Nat) : Option Nat :=
  if isBuybackSlot slot then s.itemIn p slot else none

/-- What is taken out of the inventory: a clone with a part of the stack, or the item itself. -/
def takeSold (pos : Pos) (g count : Nat) : Option (Nat × Holdings P) :=
  let pItem := s.items.item g
  if count < pItem.count then
    (pItem.cloneItem count (some p)).map fun pNewItem =>
      let r := s.items.newItem pNewItem
      (r.1, r.2.setCount g (pItem.count - count))
  else some (g, s.items.removeItem p pos)

/-- The checks of a sale, and the position, the guid and the count of what is sold. -/
def checkSale (v : TradeRules) (o : SellOrder) : Except TradeRefusal (Pos × Nat × Nat) :=
  if o.itemguid = 0 then .error .silent
  else if !o.vendor then .error (.sellError .cantFindVendor)
  else
    match s.items.getItemByGuid p o.itemguid with
    | none => .error (.sellError .cantFindItem)
    | some pos =>
      let g := o.itemguid
      let pItem := s.items.item g
      if pItem.owner ≠ some p then .error (.sellError .cantSellItem)
      else if s.items.isNotEmptyBag g then .error (.sellError .cantSellItem)
      else if o.lootGUID = g then .error (.sellError .cantSellItem)
      else if o.refundable then .error .silent
      -- `count` is not read when it is 0
      else if o.count > pItem.count then .error (.sellError .cantSellItem)
      else if v.sellPrice pItem.entry = 0 then .error (.sellError .cantSellItem)
      else .ok (pos, g, if o.count = 0 then pItem.count else o.count)

/-- `HandleSellItemOpcode` -/
def handleSellItem (v : TradeRules) (o : SellOrder) : Except TradeRefusal (BuybackSlots P) := do
  let (pos, g, count) ← s.checkSale p v o
  match s.takeSold p pos g count with
  | none => .error (.sellError .cantSellItem)
  | some (sold, items) =>
    let money := priceOf v (s.items.item g).entry count
    let s := { s with items := items }.addItemToBuyBackSlot p v o.now sold
    .ok { s with money := modifyMoney s.money (toInt32 money) }

def handleBuybackItem (v : TradeRules) (o : BuybackOrder) : Except TradeRefusal (BuybackSlots P) :=
  if !o.vendor then .error (.sellError .cantFindVendor)
  else
    match s.getItemFromBuyBackSlot p o.slot with
    | none => .error (.buyError .itemNotFound)
    | some g =>
      let price := s.price o.slot
      if s.money < price then .error (.buyError .notEnoughtMoney)
      else
        let r := s.items.canStore p v.stores (NULL_BAG, NULL_SLOT) [] g false
        if r.res = .ok then
          let s := { s with money := modifyMoney s.money (-toInt32 price) }
          let s := s.removeItemFromBuyBackSlot p o.slot false
          .ok { s with
            items := (s.items.storeItem p r.dest g).2
            boughtBack := g :: s.boughtBack }
        else .error (.equipError r.res)

end Player

inductive Trade where
  | sell (o : SellOrder)
  | buyback (o : BuybackOrder)

variable [DecidableEq P] (p : P) (v : TradeRules)

def trade (s : BuybackSlots P) : Trade → Except TradeRefusal (BuybackSlots P)
  | .sell o => s.handleSellItem p v o
  | .buyback o => s.handleBuybackItem p v o

def step (s : BuybackSlots P) (t : Trade) : BuybackSlots P :=
  match s.trade p v t with
  | .ok s' => s'
  | .error _ => s

def play (s : BuybackSlots P) (ts : List Trade) : BuybackSlots P := ts.foldl (step p v) s

end BuybackSlots

end SkyfireBG
