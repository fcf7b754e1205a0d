import SkyfireBG.Mail.Proper

/-!
# SkyfireBG.Auction.Data

The auctions and the requests of a player at an auctioneer: `HandleAuctionSellItem`,
`HandleAuctionPlaceBid` and `HandleAuctionRemoveItem`, the end of auctions in `Update`, and the
mails they send.

Amounts that the code computes with floats (the deposit, the cut, five percent of a bid) are given by
the configuration, as is the time an auction takes.
-/

namespace SkyfireBG

/-- The three `AuctionHouseObject`s. -/
inductive AuctionHouse where
  | horde
  | alliance
  | neutral
deriving DecidableEq, Repr

structure AuctionEntry where
  house : AuctionHouse
  id : Nat
  itemGuid : Nat
  owner : Nat
  startbid : Nat
  bid : Nat := 0
  buyout : Nat
  expireTime : Nat
  bidder : Nat := 0
  deposit : Nat
  /-- `GetHouseId` of the entry in AuctionHouse.dbc. -/
  houseId : Nat
deriving DecidableEq, Repr

structure AuctionConfig where
  /-- `GetAuctionDeposit` for a house, a time, an item and a count. -/
  deposit : Nat → Nat → Item Nat → Nat → Nat
  /-- The cut of a bid in a house, as the `int32` the floats give. -/
  cut : Nat → Nat → Int
  /-- `CalculatePctN(bid, 5)`. -/
  fivePct : Nat → Nat
  /-- `etime * RATE_AUCTION_TIME`. -/
  auctionTime : Nat → Nat
  /-- `CONFIG_GM_LOG_TRADE`. -/
  gmLogTrade : Bool := false
  /-- `CONFIG_MAIL_DELIVERY_DELAY`. -/
  deliveryDelay : Nat := 3600

structure AuctionWorld where
  post : MailWorld
  auctions : List AuctionEntry := []
  aItems : List Nat := []
  nextAuctionID : Nat := 1

/-- What the packet of `HandleAuctionSellItem` says; `etime` is in minutes. -/
structure SellItemPacket where
  item : Nat
  count : Nat := 1
  bid : Nat
  buyout : Nat := 0
  etime : Nat := 720

def MIN_AUCTION_TIME : Nat := 12 * 60 * 60

namespace AuctionEntry

variable (cfg : AuctionConfig) (auction : AuctionEntry)

def getAuctionCut : Nat := (max (cfg.cut auction.houseId auction.bid) 0).toNat

def getAuctionOutBid : Nat := if cfg.fivePct auction.bid ≠ 0 then cfg.fivePct auction.bid else 1

/-- `profit`, on 32 bits. -/
def profit : Nat :=
  (((auction.bid + auction.deposit : Nat) - auction.getAuctionCut cfg : Int) % 2 ^ 32).toNat

end AuctionEntry

namespace AuctionWorld

variable (cfg : AuctionConfig) (w : AuctionWorld) (p now : Nat) (auction : AuctionEntry)

/-- `GetAuction` of one of the maps. -/
def getAuction (house : AuctionHouse) (auctionId : Nat) : Option AuctionEntry :=
  w.auctions.find? (fun a => a.house == house && a.id == auctionId)

def removeAuction : AuctionWorld :=
  { w with auctions :=
      w.auctions.filter (fun a => !(a.house == auction.house && a.id == auction.id)) }

def setAuction : AuctionWorld :=
  { w with auctions := w.auctions.map (fun a =>
      if a.house = auction.house ∧ a.id = auction.id then auction else a) }

def removeAItem (g : Nat) : AuctionWorld := { w with aItems := w.aItems.filter (· ≠ g) }

def sendMail (d : MailDraft) (receiver deliverTime : Nat) : AuctionWorld :=
  { w with post := w.post.sendMailTo d .auction auction.houseId receiver deliverTime }

/-- `bidder || bidder_accId`: the account is looked up for the log of game masters only. -/
def winnerFound : Bool :=
  w.post.inWorld auction.bidder || (cfg.gmLogTrade && w.post.account auction.bidder != 0)

def sendAuctionWonMail : AuctionWorld :=
  if auction.itemGuid ∈ w.aItems ∧ w.winnerFound cfg auction = true then
    w.sendMail auction { items := [auction.itemGuid] } auction.bidder now
  else w

def sendAuctionSalePendingMail : AuctionWorld :=
  if w.post.charExists auction.owner then w.sendMail auction {} auction.owner now else w

def sendAuctionSuccessfulMail : AuctionWorld :=
  if w.post.charExists auction.owner then
    w.sendMail auction { money := auction.profit cfg } auction.owner (now + cfg.deliveryDelay)
  else w

def sendAuctionExpiredMail : AuctionWorld :=
  if auction.itemGuid ∈ w.aItems ∧ w.post.charExists auction.owner = true then
    w.sendMail auction { items := [auction.itemGuid] } auction.owner now
  else w

/-- `SendAuctionOutbiddedMail` and `SendAuctionCancelledToBidderMail`. -/
def sendBidBack : AuctionWorld :=
  if w.post.charExists auction.bidder then
    w.sendMail auction { money := auction.bid } auction.bidder now
  else w

/-- `HandleAuctionSellItem` finds the item at this position and takes it. -/
def sellAccepted (houseId : Nat) (pkt : SellItemPacket) (c : MailChecks) : Option Pos :=
  (w.post.items.getItemByGuid p pkt.item).filter (fun pos =>
    w.post.inWorld p && pkt.item != 0 && pkt.bid != 0 &&
      [MIN_AUCTION_TIME, 2 * MIN_AUCTION_TIME, 4 * MIN_AUCTION_TIME].contains
        (uint32 (pkt.etime * 60)) &&
      !w.aItems.contains pkt.item && w.post.items.canBeTraded c.cond pos pkt.item false false &&
      !(hasMask (w.post.items.item pkt.item).proto.flags ITEM_PROTO_FLAG_CONJURED ||
        c.duration pkt.item != 0) &&
      !w.post.items.isNotEmptyBag pkt.item &&
      w.post.money p ≥ uint32 (cfg.deposit houseId (uint32 (pkt.etime * 60))
        (w.post.items.item pkt.item) pkt.count))

def newAuction (house : AuctionHouse) (houseId : Nat) (pkt : SellItemPacket) : AuctionEntry :=
  { house := house, id := w.nextAuctionID, itemGuid := pkt.item, owner := p
    startbid := uint32 pkt.bid, buyout := uint32 pkt.buyout
    expireTime := now + cfg.auctionTime (uint32 (pkt.etime * 60))
    deposit := uint32 (cfg.deposit houseId (uint32 (pkt.etime * 60))
      (w.post.items.item pkt.item) pkt.count)
    houseId := houseId }

def handleAuctionSellItem (house : AuctionHouse) (houseId : Nat) (pkt : SellItemPacket)
    (c : MailChecks) : AuctionWorld :=
  match w.sellAccepted cfg p houseId pkt c with
  | none => w
  | some pos =>
    let auction := w.newAuction cfg p now house houseId pkt
    { post := { w.post.payMoney p (-toInt32 auction.deposit) with
        items := w.post.items.moveItemFromInventory p pos }
      auctions := auction :: w.auctions
      aItems := pkt.item :: w.aItems
      nextAuctionID := w.nextAuctionID + 1 }

/-- The auction that `HandleAuctionPlaceBid` takes the bid for. -/
def bidAccepted (house : AuctionHouse) (auctionId price : Nat) : Option AuctionEntry :=
  (w.getAuction house auctionId).filter (fun a =>
    w.post.inWorld p && auctionId != 0 && price != 0 && a.owner != p &&
      !(!w.post.inWorld a.owner && w.post.account a.owner == w.post.account p) &&
      !(price ≤ a.bid || price < a.startbid) &&
      !((price < a.buyout || a.buyout == 0) && price < a.bid + a.getAuctionOutBid cfg) &&
      w.post.money p ≥ price)

def payMoney (d : Int) : AuctionWorld := { w with post := w.post.payMoney p d }

def bidOn (price : Nat) : AuctionWorld :=
  let w₁ :=
    if auction.bidder > 0 then
      if auction.bidder = p then w.payMoney p (-toInt32 (price - auction.bid))
      else (w.sendBidBack now auction).payMoney p (-toInt32 price)
    else w.payMoney p (-toInt32 price)
  w₁.setAuction { auction with bidder := p, bid := price }

def buyOut : AuctionWorld :=
  let w₁ :=
    if p = auction.bidder then
      w.payMoney p (-toInt32 (auction.buyout + 2 ^ 32 - auction.bid))
    else
      let w₁ := w.payMoney p (-toInt32 auction.buyout)
      if auction.bidder ≠ 0 then w₁.sendBidBack now auction else w₁
  let won := { auction with bidder := p, bid := auction.buyout }
  let w₂ := (((w₁.sendAuctionSalePendingMail now won).sendAuctionSuccessfulMail cfg now
    won).sendAuctionWonMail cfg now won)
  (w₂.removeAItem won.itemGuid).removeAuction won

/-- `HandleAuctionPlaceBid`; the packet has a `uint32` for the price. -/
def handleAuctionPlaceBid (house : AuctionHouse) (auctionId price : Nat) : AuctionWorld :=
  match w.bidAccepted cfg p house auctionId (uint32 price) with
  | none => w
  | some a =>
    if uint32 price < a.buyout ∨ a.buyout = 0 then w.bidOn p now a (uint32 price)
    else w.buyOut cfg p now a

/-- The auction that `HandleAuctionRemoveItem` cancels. -/
def cancelAccepted (house : AuctionHouse) (auctionId : Nat) : Option AuctionEntry :=
  (w.getAuction house auctionId).filter (fun a =>
    w.post.inWorld p && a.owner == p && w.aItems.contains a.itemGuid &&
      (a.bidder == 0 || w.post.money p ≥ a.getAuctionCut cfg))

def handleAuctionRemoveItem (house : AuctionHouse) (auctionId : Nat) : AuctionWorld :=
  match w.cancelAccepted cfg p house auctionId with
  | none => w
  | some a =>
    let w₁ :=
      if a.bidder > 0 then (w.sendBidBack now a).payMoney p (-toInt32 (a.getAuctionCut cfg)) else w
    ((w₁.sendMail a { items := [a.itemGuid] } p now).removeAItem a.itemGuid).removeAuction a

def sendEndMails : AuctionWorld :=
  if auction.bidder = 0 then w.sendAuctionExpiredMail now auction
  else (w.sendAuctionSuccessfulMail cfg now auction).sendAuctionWonMail cfg now auction

/-- One turn of the loop of `Update`.  The item that leaves `mAitems` is read from the entry after
it was deleted: `freed` is what that gives. -/
def expire (house : AuctionHouse) (freed : AuctionEntry → Nat) (auctionId : Nat) : AuctionWorld :=
  match w.getAuction house auctionId with
  | none => w
  | some a => ((w.sendEndMails cfg now a).removeAuction a).removeAItem (freed a)

/-- `SELECT id FROM auctionhouse WHERE time <= %u ORDER BY TIME ASC`. -/
def expiredIds : List Nat :=
  ((w.auctions.filter (fun a => a.expireTime ≤ uint32 (now + 60))).insertionSort
    (fun a b => a.expireTime ≤ b.expireTime)).map (·.id)

def update (house : AuctionHouse) (freed : AuctionEntry → Nat) : AuctionWorld :=
  (w.expiredIds now).foldl (fun w auctionId => w.expire cfg now house freed auctionId) w

def setAccount (account : Nat) : AuctionWorld :=
  if w.post.inWorld p then w
  else { w with post := { w.post with account := Function.update w.post.account p account } }

end AuctionWorld

inductive AuctionEvent where
  | sellItem (player : Nat) (house : AuctionHouse) (houseId : Nat) (pkt : SellItemPacket)
      (c : MailChecks) (now : Nat)
  | placeBid (player : Nat) (house : AuctionHouse) (auctionId price now : Nat)
  | removeItem (player : Nat) (house : AuctionHouse) (auctionId now : Nat)
  | update (house : AuctionHouse) (freed : AuctionEntry → Nat) (now : Nat)
  | login (player : Nat)
  | getMailList (player : Nat)
  | logout (player : Nat)
  | setAccount (player account : Nat)

def AuctionWorld.step (cfg : AuctionConfig) (w : AuctionWorld) : AuctionEvent → AuctionWorld
  | .sellItem p house houseId pkt c now => w.handleAuctionSellItem cfg p now house houseId pkt c
  | .placeBid p house auctionId price now => w.handleAuctionPlaceBid cfg p now house auctionId price
  | .removeItem p house auctionId now => w.handleAuctionRemoveItem cfg p now house auctionId
  | .update house freed now => w.update cfg now house freed
  | .login p => { w with post := w.post.login p }
  | .getMailList p => { w with post := w.post.handleGetMailList p }
  | .logout p => { w with post := w.post.logout p }
  | .setAccount p account => w.setAccount p account

end SkyfireBG
