import SkyfireBG.Inventory.Exchange
import SkyfireBG.Player.Money

/-!
# SkyfireBG.Mail.Data

Mails, the characters they go to, and `MailDraft`.

A mail is known by its id, an item by its guid and a character by the low half of its guid.  `mails`
is the table and, for a player in the world who has loaded his mails, `m_mail`; what such a player
has in `mMitems` is `mItems`.  Texts, stationery and mail templates are left out.
-/

namespace SkyfireBG

def MAX_MAIL_ITEMS : Nat := 12

inductive MailMessageType where
  | normal
  | auction
  | creature
  | gameobject
  | item
deriving DecidableEq, Repr

structure Mail where
  messageID : Nat
  messageType : MailMessageType
  /-- The low guid of a character, or an entry or house id. -/
  sender : Nat
  receiver : Nat
  items : List Nat := []
  money : Nat := 0
  cod : Nat := 0
  deliverTime : Nat := 0
  deleted : Bool := false
deriving DecidableEq, Repr

structure MailDraft where
  items : List Nat := []
  money : Nat := 0
  cod : Nat := 0

/-- Where a character is: a player in the world loads his mails when he opens a mailbox. -/
inductive Presence where
  | offline
  | inWorld (mailsLoaded : Bool)
deriving DecidableEq, Repr

structure MailWorld where
  items : Holdings Nat
  money : Nat → Nat
  presence : Nat → Presence
  /-- `GetPlayerAccountIdByGUID`, zero where there is no such character. -/
  account : Nat → Nat
  mails : List Mail := []
  mItems : Nat → List Nat := fun _ => []
  nextMailID : Nat := 1

/-- `AddItem`: a map, so that an item is in it once. -/
def MailDraft.addItem (d : MailDraft) (g : Nat) : MailDraft :=
  if g ∈ d.items then d else { d with items := d.items ++ [g] }

def mailed (mails : List Mail) : List Nat := mails.flatMap (·.items)

namespace MailWorld

variable (w : MailWorld)

/-- `FindPlayer`. -/
def inWorld (p : Nat) : Bool := w.presence p != .offline

def mailsLoaded (p : Nat) : Bool := w.presence p == .inWorld true

/-- `receiver || rc_account`. -/
def charExists (p : Nat) : Bool := w.inWorld p || w.account p != 0

/-- The player's `ModifyMoney`. -/
def payMoney (p : Nat) (d : Int) : MailWorld :=
  { w with money := Function.update w.money p (modifyMoney (w.money p) d) }

def newMail (d : MailDraft) (messageType : MailMessageType) (sender receiver deliverTime : Nat) :
    Mail :=
  { messageID := w.nextMailID, messageType := messageType, sender := sender, receiver := receiver
    items := d.items, money := d.money, cod := d.cod, deliverTime := deliverTime }

def sendMailTo (d : MailDraft) (messageType : MailMessageType) (sender receiver deliverTime : Nat) :
    MailWorld :=
  { w with
    nextMailID := w.nextMailID + 1
    mails := w.newMail d messageType sender receiver deliverTime :: w.mails
    mItems := if w.mailsLoaded receiver then
        Function.update w.mItems receiver (w.mItems receiver ++ d.items) else w.mItems }

/-- `SendReturnToSender`: the items wait when the accounts differ, and are deleted when the character
is gone.  The account of a receiver in the world is not looked up. -/
def sendReturnToSender (d : MailDraft) (senderAcc sender receiver now delay : Nat) : MailWorld :=
  if !w.charExists receiver then w
  else
    let rcAccount := if w.inWorld receiver then 0 else w.account receiver
    w.sendMailTo d .normal sender receiver
      (if !d.items.isEmpty && senderAcc != rcAccount then now + delay else now)

/-- `GetMail` of a player, who sees nothing before his mails are loaded. -/
def getMail (p mailId : Nat) : Option Mail :=
  if w.mailsLoaded p then
    w.mails.find? (fun m => m.receiver == p && m.messageID == mailId) else none

def modifyMail (p mailId : Nat) (f : Mail → Mail) : MailWorld :=
  { w with mails :=
      w.mails.map (fun m => if m.receiver = p ∧ m.messageID = mailId then f m else m) }

/-- `RemoveMail`, and the rows are deleted too. -/
def removeMail (p mailId : Nat) : MailWorld :=
  { w with mails := w.mails.filter (fun m => !(m.receiver == p && m.messageID == mailId)) }

/-- `RemoveMItem` for each of the items. -/
def removeMItems (p : Nat) (gs : List Nat) : MailWorld :=
  { w with mItems := Function.update w.mItems p ((w.mItems p).filter (fun g => !gs.contains g)) }

/-- `_SaveMail`, of which the rows of deleted mails are left to see. -/
def saveMail (p : Nat) : MailWorld :=
  if w.mailsLoaded p then
    { w with mails := w.mails.filter (fun m => !(m.receiver == p && m.deleted)) } else w

end MailWorld

/-!
## Handlers

The requests of a player at a mailbox, with whatever the packet says: `HandleSendMail`,
`HandleMailTakeItem`, `HandleMailTakeMoney`, `HandleMailReturnToSender` and `HandleMailDelete`.

The id of the mail and the guid of the item are separate fields of the packet.  They are looked up
in two tables of the player, one after the other.
-/

def ITEM_PROTO_FLAG_CONJURED : Nat := 0x2

/-- What the packet of `HandleSendMail` says; no receiver of the name is 0. -/
structure SendMailPacket where
  receiver : Nat
  itemGUIDs : List Nat := []
  money : Nat := 0
  cod : Nat := 0

/-- What decides about a mail besides the state: levels, teams, other fields of items, and what the
players in the world are doing. -/
structure MailChecks where
  levelsOk : Bool := true
  teamsOk : Bool := true
  /-- `ITEM_FIELD_DURATION`. -/
  duration : Nat → Nat := fun _ => 0
  wrapped : Nat → Bool := fun _ => false
  cond : Nat → Option Condition := fun _ => none

structure MailConfig where
  stores : ItemStores
  /-- `CONFIG_MAIL_DELIVERY_DELAY`. -/
  deliveryDelay : Nat := 3600

namespace SendMailPacket

variable (pkt : SendMailPacket)

/-- `cost`. -/
def postage : Nat := if pkt.itemGUIDs.length ≠ 0 then 30 * pkt.itemGUIDs.length else 30

/-- `reqmoney`, on 64 bits. -/
def reqmoney : Nat := (pkt.postage + pkt.money) % 2 ^ 64

end SendMailPacket

namespace MailWorld

variable (cfg : MailConfig) (w : MailWorld) (p now : Nat)

/-- The tests of `HandleSendMail` on one item. -/
def mayAttach (pkt : SendMailPacket) (c : MailChecks) (g : Nat) : Bool :=
  match w.items.getItemByGuid p g with
  | none => false
  | some pos =>
    let i := w.items.item g
    w.items.canBeTraded c.cond pos g true false &&
      !(i.isBoundAccountWide && i.soulBound && w.account p != w.account pkt.receiver) &&
      !(hasMask i.proto.flags ITEM_PROTO_FLAG_CONJURED || c.duration g != 0) &&
      !(pkt.cod != 0 && c.wrapped g) && !w.items.isNotEmptyBag g

/-- `mails_count`, a byte. -/
def mailsCount (rc : Nat) : Nat :=
  (if w.inWorld rc && !w.mailsLoaded rc then 0
    else (w.mails.filter (fun m => m.receiver == rc)).length) % 256

def accountBound (pkt : SendMailPacket) : Bool :=
  !pkt.itemGUIDs.isEmpty && pkt.itemGUIDs.all (fun g =>
    (w.items.getItemByGuid p g).isNone ||
      hasMask (w.items.item g).proto.flags ITEM_PROTO_FLAG_BIND_TO_ACCOUNT)

/-- `HandleSendMail` gets to the end of its tests. -/
def sendAccepted (pkt : SendMailPacket) (c : MailChecks) : Bool :=
  pkt.itemGUIDs.length ≤ MAX_MAIL_ITEMS && pkt.receiver != 0 && c.levelsOk &&
    p != pkt.receiver && w.money p ≥ pkt.reqmoney && w.mailsCount pkt.receiver ≤ 100 &&
    (w.accountBound p pkt || c.teamsOk) && pkt.itemGUIDs.all (fun g => w.mayAttach p pkt c g)

def attach (rc : Nat) (s : Holdings Nat × MailDraft) (g : Nat) : Holdings Nat × MailDraft :=
  match s.1.getItemByGuid p g with
  | none => (s.1, s.2.addItem g)
  | some pos =>
    ((s.1.moveItemFromInventory p pos).setItem g { s.1.item g with owner := some rc },
      s.2.addItem g)

def handleSendMail (pkt : SendMailPacket) (c : MailChecks) : MailWorld :=
  if !w.sendAccepted p pkt c then w
  else
    let s := pkt.itemGUIDs.foldl (attach p pkt.receiver)
      (w.items, { money := pkt.money, cod := pkt.cod })
    ({ w.payMoney p (-toInt32 pkt.reqmoney) with items := s.1 } : MailWorld).sendMailTo s.2 .normal p
      pkt.receiver
      (if !pkt.itemGUIDs.isEmpty && w.account p != w.account pkt.receiver then
        now + cfg.deliveryDelay else now)

/-- `m->state == MAIL_STATE_DELETED || m->deliver_time > time(NULL)` is false. -/
def getOpenMail (mailId : Nat) : Option Mail :=
  (w.getMail p mailId).filter (fun m => !m.deleted && m.deliverTime ≤ now)

/-- `CanStoreItem` for an item of the mails. -/
def canTake (itemId : Nat) : Holdings.CanStore :=
  if itemId ∈ w.mItems p then w.items.canStore p cfg.stores (NULL_BAG, NULL_SLOT) [] itemId false
  else { res := .itemNotFound, dest := [] }

/-- The mail that `HandleMailTakeItem` takes an item through, when it takes one. -/
def takeAccepted (mailId itemId : Nat) : Option Mail :=
  (w.getOpenMail p now mailId).filter (fun m =>
    w.money p ≥ m.cod && (w.canTake cfg p itemId).res = .ok)

def payCOD (m : Mail) : MailWorld :=
  if m.cod > 0 then
    (if w.charExists m.sender then
        w.sendMailTo { money := m.cod } .normal m.receiver m.sender now else w).payMoney p
      (-toInt32 m.cod)
  else w

def handleMailTakeItem (mailId itemId : Nat) : MailWorld :=
  match w.takeAccepted cfg p now mailId itemId with
  | none => w
  | some m =>
    let w₁ := (w.payCOD p now m).modifyMail p mailId
      (fun m => { m with items := m.items.erase itemId, cod := 0 })
    ({ w₁.removeMItems p [itemId] with
        items := w.items.moveItemToInventory p (w.canTake cfg p itemId).dest itemId } :
      MailWorld).saveMail p

def handleMailTakeMoney (mailId : Nat) : MailWorld :=
  match w.getOpenMail p now mailId with
  | none => w
  | some m =>
    ((w.payMoney p (toInt32 m.money)).modifyMail p mailId (fun m => { m with money := 0 })).saveMail p

def handleMailReturnToSender (mailId : Nat) : MailWorld :=
  match w.getOpenMail p now mailId with
  | none => w
  | some m =>
    if m.messageType = .normal ∧ m.sender ≠ 0 then
      ((w.removeMail p mailId).removeMItems p m.items).sendReturnToSender
        { items := m.items.filter (fun g => (w.mItems p).contains g), money := m.money }
        (w.account p) m.receiver m.sender now cfg.deliveryDelay
    else w.removeMail p mailId

def handleMailDelete (mailId : Nat) : MailWorld :=
  match w.getMail p mailId with
  | none => w
  | some m => if m.cod ≠ 0 then w else w.modifyMail p mailId (fun m => { m with deleted := true })

def login : MailWorld :=
  if w.inWorld p then w
  else { w with
    presence := Function.update w.presence p (.inWorld false)
    mItems := Function.update w.mItems p [] }

/-- `HandleGetMailList` loads the mails. -/
def handleGetMailList : MailWorld :=
  if w.presence p = .inWorld false then
    { w with
      presence := Function.update w.presence p (.inWorld true)
      mItems := Function.update w.mItems p
        (w.mItems p ++ mailed (w.mails.filter (fun m => m.receiver == p))) }
  else w

/-- The mails are saved and the objects deleted.  The row of an item that was taken is gone whatever
the mail still lists. -/
def logout : MailWorld :=
  let w₁ := w.saveMail p
  { w₁ with
    presence := Function.update w.presence p .offline
    mItems := Function.update w.mItems p []
    mails := if w.mailsLoaded p then
        w₁.mails.map (fun m => if m.receiver = p then
          { m with items := m.items.filter (fun g => (w.mItems p).contains g) } else m)
      else w₁.mails }

end MailWorld

inductive MailEvent where
  | sendMail (player : Nat) (pkt : SendMailPacket) (c : MailChecks) (now : Nat)
  | takeItem (player mailId itemId now : Nat)
  | takeMoney (player mailId now : Nat)
  | returnToSender (player mailId now : Nat)
  | delete (player mailId : Nat)
  | login (player : Nat)
  | getMailList (player : Nat)
  | logout (player : Nat)

def MailEvent.player : MailEvent → Nat
  | .sendMail p _ _ _ => p
  | .takeItem p _ _ _ => p
  | .takeMoney p _ _ => p
  | .returnToSender p _ _ => p
  | .delete p _ => p
  | .login p => p
  | .getMailList p => p
  | .logout p => p

def MailWorld.step (cfg : MailConfig) (w : MailWorld) : MailEvent → MailWorld
  | .sendMail p pkt c now => w.handleSendMail cfg p now pkt c
  | .takeItem p mailId itemId now => w.handleMailTakeItem cfg p now mailId itemId
  | .takeMoney p mailId now => w.handleMailTakeMoney p now mailId
  | .returnToSender p mailId now => w.handleMailReturnToSender cfg p now mailId
  | .delete p mailId => w.handleMailDelete p mailId
  | .login p => w.login p
  | .getMailList p => w.handleGetMailList p
  | .logout p => w.logout p

end SkyfireBG
