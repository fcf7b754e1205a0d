import Mathlib.Algebra.Order.Field.Rat
import Mathlib.Order.Lattice.Nat

/-!
# SkyfireBG.Guild.Data

A `Guild` with its ranks and members, and what the character objects hold of it.

The position of a rank in `ranks` is what a rank id looks up; the id a `RankInfo` carries is a field
of its own.  The members are in the order in which the unordered map runs through them, with the
low half of the guid as their key.  Names of ranks, notes, news, experience and the tabard are left
out.
-/

namespace SkyfireBG

def GUILD_BANK_MAX_TABS : Nat := 8
def GUILD_BANK_MAX_SLOTS : Nat := 98
def GUILD_RANKS_MIN_COUNT : Nat := 3
def GUILD_RANKS_MAX_COUNT : Nat := 10
def GUILD_RANK_NONE : Nat := 0xFF
def GUILD_WITHDRAW_MONEY_UNLIMITED : Nat := 0xFFFFFFFF
def GUILD_WITHDRAW_SLOT_UNLIMITED : Nat := 0xFFFFFFFF

def GR_GUILDMASTER : Nat := 0
def GR_OFFICER : Nat := 1

def GR_RIGHT_EMPTY : BitVec 32 := 0x00000040
def GR_RIGHT_GCHATLISTEN : BitVec 32 := GR_RIGHT_EMPTY ||| 0x00000001
def GR_RIGHT_GCHATSPEAK : BitVec 32 := GR_RIGHT_EMPTY ||| 0x00000002
def GR_RIGHT_OFFCHATLISTEN : BitVec 32 := GR_RIGHT_EMPTY ||| 0x00000004
def GR_RIGHT_OFFCHATSPEAK : BitVec 32 := GR_RIGHT_EMPTY ||| 0x00000008
def GR_RIGHT_INVITE : BitVec 32 := GR_RIGHT_EMPTY ||| 0x00000010
def GR_RIGHT_REMOVE : BitVec 32 := GR_RIGHT_EMPTY ||| 0x00000020
def GR_RIGHT_PROMOTE : BitVec 32 := GR_RIGHT_EMPTY ||| 0x00000080
def GR_RIGHT_DEMOTE : BitVec 32 := GR_RIGHT_EMPTY ||| 0x00000100
def GR_RIGHT_SETMOTD : BitVec 32 := GR_RIGHT_EMPTY ||| 0x00001000
def GR_RIGHT_EPNOTE : BitVec 32 := GR_RIGHT_EMPTY ||| 0x00002000
def GR_RIGHT_EOFFNOTE : BitVec 32 := GR_RIGHT_EMPTY ||| 0x00008000
def GR_RIGHT_MODIFY_GUILD_INFO : BitVec 32 := GR_RIGHT_EMPTY ||| 0x00010000
def GR_RIGHT_WITHDRAW_REPAIR : BitVec 32 := 0x00040000
def GR_RIGHT_WITHDRAW_GOLD : BitVec 32 := 0x00080000
def GR_RIGHT_ALL : BitVec 32 := 0x001FFFBF

def GUILD_BANK_RIGHT_VIEW_TAB : BitVec 8 := 0x01
def GUILD_BANK_RIGHT_PUT_ITEM : BitVec 8 := 0x02
def GUILD_BANK_RIGHT_DEPOSIT_ITEM : BitVec 8 := GUILD_BANK_RIGHT_VIEW_TAB ||| GUILD_BANK_RIGHT_PUT_ITEM
def GUILD_BANK_RIGHT_FULL : BitVec 8 := 0xFF

/-! ## Ranks and members -/

structure GuildBankRightsAndSlots where
  rights : BitVec 8 := 0
  slots : Nat := 0
deriving DecidableEq

structure Guild.RankInfo where
  rankId : Nat
  rights : BitVec 32
  bankMoneyPerDay : Nat := 0
  bankTabRightsAndSlots : Nat → GuildBankRightsAndSlots := fun _ => {}

structure Guild.RemainingValue where
  value : Nat := 0
  resetTime : Nat := 0
deriving DecidableEq

structure Guild.Member where
  guid : Nat
  name : String
  rankId : Nat
  /-- One value for each tab, and the money at `GUILD_BANK_MAX_TABS`. -/
  bankRemaining : Nat → Guild.RemainingValue := fun _ => {}

structure Guild where
  id : Nat
  leaderGuid : Nat
  bankMoney : Nat := 0
  ranks : List Guild.RankInfo := []
  members : List Guild.Member := []
  /-- `_GetPurchasedTabsSize`. -/
  purchasedTabs : Nat := 0

structure GuildPlayer where
  name : String
  /-- `IsInWorld`: a character that is being teleported is in memory but not in the world. -/
  inWorld : Bool := true
  guildId : Nat := 0
  guildIdInvited : Nat := 0
  /-- `GetRank`: the rank as the character object has it. -/
  rank : Nat := 0
  money : Nat := 0

/-- `GUID_LOPART`. -/
def lowPart (guid : Nat) : Nat := guid % 2 ^ 32

namespace Guild

namespace RankInfo

def getBankMoneyPerDay (r : RankInfo) : Nat :=
  if r.rankId = GR_GUILDMASTER then GUILD_WITHDRAW_MONEY_UNLIMITED else r.bankMoneyPerDay

def getBankTabRights (r : RankInfo) (tabId : Nat) : BitVec 8 :=
  if tabId < GUILD_BANK_MAX_TABS then (r.bankTabRightsAndSlots tabId).rights else 0

def getBankTabSlotsPerDay (r : RankInfo) (tabId : Nat) : Nat :=
  if tabId < GUILD_BANK_MAX_TABS then
    if r.rankId = GR_GUILDMASTER then GUILD_WITHDRAW_SLOT_UNLIMITED
    else (r.bankTabRightsAndSlots tabId).slots
  else 0

def setRights (r : RankInfo) (rights : BitVec 32) : RankInfo :=
  { r with rights := if r.rankId = GR_GUILDMASTER then GR_RIGHT_ALL else rights }

def setBankMoneyPerDay (r : RankInfo) (money : Nat) : RankInfo :=
  { r with
    bankMoneyPerDay := if r.rankId = GR_GUILDMASTER then GUILD_WITHDRAW_MONEY_UNLIMITED else money }

def setBankTabSlotsAndRights (r : RankInfo) (tabId : Nat) (v : GuildBankRightsAndSlots) : RankInfo :=
  let v' := if r.rankId = GR_GUILDMASTER then
      { rights := GUILD_BANK_RIGHT_FULL, slots := GUILD_WITHDRAW_SLOT_UNLIMITED } else v
  { r with
    bankTabRightsAndSlots := fun t => if t = tabId then v' else r.bankTabRightsAndSlots t }

end RankInfo

namespace Member

def isRank (m : Member) (rankId : Nat) : Bool := m.rankId == rankId

/-- `IsRankNotLower`; the argument is a byte. -/
def isRankNotLower (m : Member) (rankId : Nat) : Bool := m.rankId ≤ rankId % 256

def isSamePlayer (m : Member) (guid : Nat) : Bool := m.guid == guid

def resetTabTimes (m : Member) : Member :=
  { m with bankRemaining := fun t =>
      if t < GUILD_BANK_MAX_TABS then { m.bankRemaining t with resetTime := 0 }
      else m.bankRemaining t }

def resetMoneyTime (m : Member) : Member :=
  { m with bankRemaining := fun t =>
      if t = GUILD_BANK_MAX_TABS then { m.bankRemaining t with resetTime := 0 }
      else m.bankRemaining t }

end Member

variable (g : Guild)

/-- `_GetRanksSize`, a byte. -/
def getRanksSize : Nat := g.ranks.length % 256

/-- `_GetLowestRankId`, a byte. -/
def getLowestRankId : Nat := (g.ranks.length + 255) % 256

def getRankInfo (rankId : Nat) : Option RankInfo :=
  if rankId < g.getRanksSize then g.ranks[rankId]? else none

def getMember (guid : Nat) : Option Member :=
  g.members.find? (fun m => lowPart m.guid == lowPart guid)

variable {g} in
theorem getMember_mem {guid : Nat} {m : Member} (h : g.getMember guid = some m) : m ∈ g.members :=
  List.mem_of_find?_eq_some h

variable {g} in
theorem getMember_key {guid : Nat} {m : Member} (h : g.getMember guid = some m) :
    lowPart m.guid = lowPart guid := by
  simpa using List.find?_some h

def getRankRights (rankId : Nat) : BitVec 32 :=
  match g.getRankInfo rankId with
  | some r => r.rights
  | none => 0

def getRankBankMoneyPerDay (rankId : Nat) : Nat :=
  match g.getRankInfo rankId with
  | some r => r.getBankMoneyPerDay
  | none => 0

def getRankBankTabSlotsPerDay (rankId tabId : Nat) : Nat :=
  if tabId < g.purchasedTabs then
    match g.getRankInfo rankId with
    | some r => r.getBankTabSlotsPerDay tabId
    | none => 0
  else 0

def getRankBankTabRights (rankId tabId : Nat) : BitVec 8 :=
  match g.getRankInfo rankId with
  | some r => r.getBankTabRights tabId
  | none => 0

/-- `_HasRankRight` for a player whose character object has the rank `rankId`. -/
def hasRankRight (rankId : Nat) (right : BitVec 32) : Bool :=
  g.getRankRights rankId &&& right != GR_RIGHT_EMPTY

def createRank (rights : BitVec 32) : Guild :=
  if g.getRanksSize ≥ GUILD_RANKS_MAX_COUNT then g
  else { g with ranks := g.ranks ++ [{ rankId := g.getRanksSize, rights := rights }] }

/-- `_CreateDefaultGuildRanks`: master, officer, veteran, member and initiate. -/
def createDefaultGuildRanks : Guild :=
  ((((g.createRank GR_RIGHT_ALL).createRank GR_RIGHT_ALL).createRank
    (GR_RIGHT_GCHATLISTEN ||| GR_RIGHT_GCHATSPEAK)).createRank
    (GR_RIGHT_GCHATLISTEN ||| GR_RIGHT_GCHATSPEAK)).createRank
    (GR_RIGHT_GCHATLISTEN ||| GR_RIGHT_GCHATSPEAK)

def isLeader (guid : Nat) : Bool :=
  if guid = g.leaderGuid then true
  else match g.getMember guid with
    | some m => m.isRank GR_GUILDMASTER
    | none => false

end Guild

end SkyfireBG
