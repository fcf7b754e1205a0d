import SkyfireBG.Guild.Money
import SkyfireBG.Inventory.Exchange

/-!
# SkyfireBG.Guild.Bank

The guild bank: its tabs, and the moves of items between them and the inventories of members.

The `BankBooks` are the guild with what it writes about its bank: each renewal of a remaining value
and each entry of the bank log.  Items are in `Holdings`, with `Place.tab` for the tabs; a player is
known by his guid.  The clock stands still during a request.
-/

namespace SkyfireBG

inductive GuildBankEventLogTypes where
  | depositItem
  | withdrawItem
  | moveItem
  | depositMoney
  | withdrawMoney
  | repairMoney
deriving DecidableEq, Repr

inductive BankRecord where
  /-- The statement that stores a renewed value. -/
  | renewed (lowguid tabId value : Nat)
  | event (eventType : GuildBankEventLogTypes) (tabId lowguid itemOrMoney itemStackCount
      destTabId : Nat)
deriving DecidableEq, Repr

structure BankBooks where
  guild : Guild
  /-- The last one first. -/
  records : List BankRecord := []

structure GuildBank where
  books : BankBooks
  items : Holdings Nat

/-- `MoveItemData`: one end of a move, a position in the inventory or a slot of a tab. -/
inductive MoveItemData where
  | player (container slotId : Nat)
  | bank (container slotId : Nat)
deriving DecidableEq, Repr

namespace Guild

/-- `GetBankRemainingValue` renews the value. -/
def renews (g : Guild) (guid tabId now : Nat) : Bool :=
  match g.getMember guid with
  | some m => !m.isRank GR_GUILDMASTER && !g.hidden m.rankId tabId &&
      resetDue (m.bankRemaining tabId) now
  | none => false

def memberHasTabRights (g : Guild) (guid tabId : Nat) (rights : BitVec 8) : Bool :=
  match g.getMember guid with
  | some m =>
    if m.isRank GR_GUILDMASTER || g.leaderGuid == guid then true
    else g.getRankBankTabRights m.rankId tabId &&& rights == rights
  | none => false

end Guild

namespace MoveItemData

/-- `IsBank() && GetContainer() == tabId`. -/
def inTab (d : MoveItemData) (tabId : Nat) : Bool :=
  match d with
  | .player _ _ => false
  | .bank container _ => container == tabId

end MoveItemData

namespace BankBooks

def logBankEvent (b : BankBooks) (eventType : GuildBankEventLogTypes)
    (tabId guid itemOrMoney count destTabId : Nat) : BankBooks :=
  if tabId > GUILD_BANK_MAX_TABS then b
  else { b with
    records := .event eventType tabId (lowPart guid) itemOrMoney count destTabId :: b.records }

/-- `_GetMemberRemainingSlots`, `_GetMemberRemainingMoney`. -/
def getMemberRemaining (b : BankBooks) (guid tabId now : Nat) : Nat × BankBooks :=
  let r := b.guild.getMemberRemaining guid tabId now
  (r.1,
    { guild := r.2
      records := if b.guild.renews guid tabId now then
          .renewed (lowPart guid) tabId r.1 :: b.records else b.records })

def decreaseRemaining (b : BankBooks) (guid tabId amount : Nat) : BankBooks :=
  { b with guild := b.guild.decreaseRemaining guid tabId amount }

def decreaseMemberRemainingSlots (b : BankBooks) (guid tabId now : Nat) : BankBooks :=
  let r := b.getMemberRemaining guid tabId now
  if r.1 = 0 then r.2
  else if r.1 < GUILD_WITHDRAW_SLOT_UNLIMITED then r.2.decreaseRemaining guid tabId 1
  else r.2

/-- `_ModifyBankMoney` for a withdrawal. -/
def takeMoney (b : BankBooks) (amount : Nat) : BankBooks :=
  { b with guild := { b.guild with bankMoney := b.guild.bankMoney - amount } }

/-- `HandleMemberWithdrawMoney`, without the player. -/
def handleMemberWithdrawMoney (b : BankBooks) (guid rank amount : Nat) (repair : Bool)
    (now : Nat) : BankBooks :=
  if b.guild.bankMoney < amount then b
  else if !b.guild.hasRankRight rank
      (if repair then GR_RIGHT_WITHDRAW_REPAIR else GR_RIGHT_WITHDRAW_GOLD) then b
  else
    let r := b.getMemberRemaining guid GUILD_BANK_MAX_TABS now
    if r.1 = 0 then r.2
    else if r.1 < amount then r.2
    else
      ((if r.1 < GUILD_WITHDRAW_MONEY_UNLIMITED then
          r.2.decreaseRemaining guid GUILD_BANK_MAX_TABS amount else r.2).takeMoney
        amount).logBankEvent (if repair then .repairMoney else .withdrawMoney) 0 guid amount 0 0

@[simp] theorem logBankEvent_guild (b : BankBooks) (eventType : GuildBankEventLogTypes)
    (tabId guid itemOrMoney count destTabId : Nat) :
    (b.logBankEvent eventType tabId guid itemOrMoney count destTabId).guild = b.guild := by
  unfold logBankEvent
  split <;> rfl

/-- `HasWithdrawRights` of the end `this`. -/
def hasWithdrawRights (b : BankBooks) (guid now : Nat) (this other : MoveItemData) :
    Bool × BankBooks :=
  match this with
  | .player _ _ => (true, b)
  | .bank tabId _ =>
    if other.inTab tabId then (true, b)
    else
      let r := b.getMemberRemaining guid tabId now
      (r.1 != 0, r.2)

def hasStoreRights (b : BankBooks) (guid : Nat) (this other : MoveItemData) : Bool :=
  match this with
  | .player _ _ => true
  | .bank tabId _ =>
    if other.inTab tabId then true
    else b.guild.memberHasTabRights guid tabId GUILD_BANK_RIGHT_DEPOSIT_ITEM

/-- `LogBankEvent` of the end `this`. -/
def logMove (b : BankBooks) (guid : Nat) (this pFrom : MoveItemData) (entry count : Nat) :
    BankBooks :=
  match this, pFrom with
  | .player _ _, .player tabId _ => b.logBankEvent .withdrawItem tabId guid entry count 0
  | .player _ _, .bank tabId _ => b.logBankEvent .withdrawItem tabId guid entry count 0
  | .bank tabId _, .bank fromId _ => b.logBankEvent .moveItem fromId guid entry count tabId
  | .bank tabId _, .player _ _ => b.logBankEvent .depositItem tabId guid entry count 0

/-- What `RemoveItem` of the end `this` takes off the remaining slots. -/
def charge (b : BankBooks) (guid now : Nat) (this other : MoveItemData) : BankBooks :=
  match this with
  | .player _ _ => b
  | .bank tabId _ =>
    if other.inTab tabId then b else b.decreaseMemberRemainingSlots guid tabId now

end BankBooks

namespace Holdings

variable (w : Holdings Nat)

/-- `_StoreItem` of a tab. -/
def storeInSlot (tabId : Nat) (d : ItemPosCount) (g : Nat) (clone : Bool) : Holdings Nat :=
  match w.held (.tab tabId d.pos.2) with
  | some pItemDest => w.setCount pItemDest ((w.item pItemDest).count + d.count)
  | none =>
    match (if clone then ((w.item g).cloneItem d.count none).map w.newItem
        else some (g, w.setCount g d.count)) with
    | none => w
    | some (g, w) =>
      (w.setItem g { w.item g with owner := none }).put (.tab tabId d.pos.2) g

/-- `BankMoveItemData::StoreItem`: clones go to all slots of `m_vec` but the last. -/
def storeInTab (w : Holdings Nat) (tabId : Nat) : List ItemPosCount → Nat → Holdings Nat
  | [], _ => w
  | [d], g => w.storeInSlot tabId d g false
  | d :: ds, g => storeInTab (w.storeInSlot tabId d g true) tabId ds g

/-- `_ReserveSpace`; `none` is the answer `false`. -/
def reserveSpace (slotId : Nat) (pItem : Nat) (pItemDest : Option Nat) (plan : Plan) :
    Option Plan :=
  let stack := (w.item pItem).proto.getMaxStackSize
  match pItemDest with
  | none =>
    some (if plan.contains (NULL_BAG, slotId) then plan else plan.push (NULL_BAG, slotId) stack)
  | some dest =>
    if (w.item dest).entry ≠ (w.item pItem).entry ∨ (w.item dest).count ≥ stack then none
    else some (if plan.contains (NULL_BAG, slotId) then plan
      else plan.push (NULL_BAG, slotId) (stack - (w.item dest).count))

def besideInTab (tabId slotId pItem : Nat) : Option Nat :=
  if w.held (.tab tabId slotId) = some pItem then none else w.held (.tab tabId slotId)

def canStoreItemInTab (tabId pItem skipSlotId : Nat) (merge : Bool) : List Nat → Plan → Plan
  | [], plan => plan
  | slotId :: slots, plan =>
    if plan.count = 0 then plan
    else if slotId = skipSlotId then canStoreItemInTab tabId pItem skipSlotId merge slots plan
    else if (w.besideInTab tabId slotId pItem).isSome != merge then
      canStoreItemInTab tabId pItem skipSlotId merge slots plan
    else canStoreItemInTab tabId pItem skipSlotId merge slots
      ((w.reserveSpace slotId pItem (w.besideInTab tabId slotId pItem) plan).getD plan)

/-- The passes of `BankMoveItemData::CanStore` over the slots of the tab. -/
def searchTab (tabId pItem skipSlotId : Nat) (plan : Plan) : InventoryResult × Plan :=
  let slots := List.range GUILD_BANK_MAX_SLOTS
  let plan := if (w.item pItem).proto.getMaxStackSize > 1 then
    w.canStoreItemInTab tabId pItem skipSlotId true slots plan else plan
  if plan.count = 0 then (.ok, plan)
  else
    let plan := w.canStoreItemInTab tabId pItem skipSlotId false slots plan
    (if plan.count = 0 then .ok else .bankFull, plan)

/-- `BankMoveItemData::CanStore`. -/
def canStoreInTab (purchasedTabs tabId slotId pItem : Nat) (swap : Bool) :
    InventoryResult × List ItemPosCount :=
  let plan : Plan := { dest := [], count := (w.item pItem).count }
  if (w.item pItem).soulBound then (.cantDropSoulbound, [])
  else if tabId ≥ purchasedTabs then (.itemDoesntGoIntoBag, [])
  else if slotId ≠ NULL_SLOT then
    match w.reserveSpace slotId pItem (if swap then none else w.besideInTab tabId slotId pItem)
        plan with
    | none => (.itemCantStack, [])
    | some plan =>
      if plan.count = 0 then (.ok, plan.dest)
      else ((w.searchTab tabId pItem slotId plan).1, (w.searchTab tabId pItem slotId plan).2.dest)
  else ((w.searchTab tabId pItem slotId plan).1, (w.searchTab tabId pItem slotId plan).2.dest)

end Holdings

namespace GuildBank

variable (e : ItemStores) (cond : Nat → Option Condition) (b : GuildBank) (guid now : Nat)

def getItem (tabId slotId : Nat) : Option Nat :=
  if tabId < b.books.guild.purchasedTabs ∧ slotId < GUILD_BANK_MAX_SLOTS then
    b.items.held (.tab tabId slotId) else none

/-- `InitItem`: no full bags from an inventory, and nothing that is bound. -/
def initItem : MoveItemData → Option Nat
  | .bank tabId slotId => b.getItem tabId slotId
  | .player bag slot =>
    (b.items.getItemByPos guid (bag, slot)).filter (fun g =>
      !b.items.isNotEmptyBag g && b.items.canBeTraded cond (bag, slot) g false false)

/-- `CanStore`, with what it leaves in `m_vec`. -/
def canStore (this : MoveItemData) (pItem : Nat) (swap : Bool) :
    InventoryResult × List ItemPosCount :=
  match this with
  | .bank tabId slotId =>
    b.items.canStoreInTab b.books.guild.purchasedTabs tabId slotId pItem swap
  | .player bag slot =>
    ((b.items.canStore guid e (bag, slot) [] pItem swap).res,
      (b.items.canStore guid e (bag, slot) [] pItem swap).dest)

/-- `RemoveItem` of the end `this`, which holds `pItem`. -/
def removeItem (this other : MoveItemData) (pItem splitedAmount : Nat) : GuildBank where
  books := b.books.charge guid now this other
  items :=
    if splitedAmount ≠ 0 then b.items.setCount pItem ((b.items.item pItem).count - splitedAmount)
    else match this with
      | .player bag slot => b.items.moveItemFromInventory guid (bag, slot)
      | .bank tabId slotId => b.items.clear (.tab tabId slotId)

def storeItem (this : MoveItemData) (vec : List ItemPosCount) (pItem : Nat) : GuildBank where
  books := b.books
  items := match this with
    | .player _ _ => b.items.moveItemToInventory guid vec pItem
    | .bank tabId _ => b.items.storeInTab tabId vec pItem

/-- `_DoItemsMove` past its checks, with the item `pItemSrc` of the source and what is moved of it. -/
def exchange (pSrc pDest : MoveItemData) (pItemSrc pSrcItem : Nat) (vecDest : List ItemPosCount)
    (splitedAmount : Nat) : GuildBank :=
  let b₁ : GuildBank := { b with
    books := b.books.logMove guid pDest pSrc (b.items.item pItemSrc).entry
      (b.items.item pSrcItem).count }
  (b₁.removeItem guid now pSrc pDest pItemSrc splitedAmount).storeItem guid pDest vecDest pSrcItem

def swapItemsBetween (pSrc pDest : MoveItemData) (pSrcItem pDestItem : Nat)
    (vecDest vecSrc : List ItemPosCount) : GuildBank :=
  let b₁ : GuildBank := { b with
    books := (b.books.logMove guid pDest pSrc (b.items.item pSrcItem).entry
      (b.items.item pSrcItem).count).logMove guid pSrc pDest (b.items.item pDestItem).entry
        (b.items.item pDestItem).count }
  let b₂ := (b₁.removeItem guid now pSrc pDest pSrcItem 0).removeItem guid now pDest pSrc pDestItem 0
  (b₂.storeItem guid pDest vecDest pSrcItem).storeItem guid pSrc vecSrc pDestItem

/-- `_DoItemsMove`; `none` is the answer `false`. -/
def doItemsMove (pSrc pDest : MoveItemData) (pItemSrc pSrcItem : Nat) (pDestItem : Option Nat)
    (splitedAmount : Nat) : Option GuildBank :=
  let toDest := b.canStore e guid pDest pSrcItem pDestItem.isSome
  if toDest.1 ≠ .ok then none
  else match pDestItem with
    | none => some (b.exchange guid now pSrc pDest pItemSrc pSrcItem toDest.2 splitedAmount)
    | some destItem =>
      let toSrc := b.canStore e guid pSrc destItem true
      if toSrc.1 ≠ .ok then none
      else some (b.swapItemsBetween guid now pSrc pDest pSrcItem destItem toDest.2 toSrc.2)

/-- `_MoveItems` from where the split is known: step 5. -/
def moveSplit (pSrc pDest : MoveItemData) (pItemSrc splitedAmount : Nat) : GuildBank :=
  match (b.items.item pItemSrc).cloneItem splitedAmount none with
  | none => b
  | some clone =>
    let b₁ : GuildBank := { b with items := (b.items.newItem clone).2 }
    (b₁.doItemsMove e guid now pSrc pDest pItemSrc (b.items.newItem clone).1 none
      splitedAmount).getD b₁

def moveSwap (pSrc pDest : MoveItemData) (pItemSrc : Nat) : GuildBank :=
  match b.initItem cond guid pDest with
  | none => b
  | some pItemDest =>
    if !b.books.hasStoreRights guid pSrc pDest then b
    else
      let rights := b.books.hasWithdrawRights guid now pDest pSrc
      let b₁ : GuildBank := { b with books := rights.2 }
      if !rights.1 then b₁
      else (b₁.doItemsMove e guid now pSrc pDest pItemSrc pItemSrc (some pItemDest) 0).getD b₁

def moveItems (pSrc pDest : MoveItemData) (splitedAmount : Nat) : GuildBank :=
  match b.initItem cond guid pSrc with
  | none => b
  | some pItem =>
    if splitedAmount > (b.items.item pItem).count then b
    else if !b.books.hasStoreRights guid pDest pSrc then b
    else
      let rights := b.books.hasWithdrawRights guid now pSrc pDest
      let b₁ : GuildBank := { b with books := rights.2 }
      if !rights.1 then b₁
      else if splitedAmount ≠ 0 ∧ splitedAmount ≠ (b.items.item pItem).count then
        b₁.moveSplit e guid now pSrc pDest pItem splitedAmount
      else match b₁.doItemsMove e guid now pSrc pDest pItem pItem none 0 with
        | some b' => b'
        | none => b₁.moveSwap e cond guid now pSrc pDest pItem

def swapItems (tabId slotId destTabId destSlotId splitedAmount : Nat) : GuildBank :=
  if tabId ≥ b.books.guild.purchasedTabs ∨ slotId ≥ GUILD_BANK_MAX_SLOTS ∨
      destTabId ≥ b.books.guild.purchasedTabs ∨ destSlotId ≥ GUILD_BANK_MAX_SLOTS then b
  else if tabId = destTabId ∧ slotId = destSlotId then b
  else b.moveItems e cond guid now (.bank tabId slotId) (.bank destTabId destSlotId) splitedAmount

def swapItemsWithInventory (toChar : Bool) (tabId slotId playerBag playerSlotId
    splitedAmount : Nat) : GuildBank :=
  if (slotId ≥ GUILD_BANK_MAX_SLOTS ∧ slotId ≠ NULL_SLOT) ∨
      tabId ≥ b.books.guild.purchasedTabs then b
  else if toChar then
    b.moveItems e cond guid now (.bank tabId slotId) (.player playerBag playerSlotId) splitedAmount
  else b.moveItems e cond guid now (.player playerBag playerSlotId) (.bank tabId slotId) splitedAmount

end GuildBank

end SkyfireBG
