import SkyfireBG.Loot.Item

/-!
# SkyfireBG.Group.Data

A `Group` with its member slots, the counters of its raid subgroups and its open loot rolls.

A `Roll` keeps the votes in `playerVote` and, beside them, four eight-bit totals.  The link to the
`Loot` it belongs to is the identifier of that loot, or `none` once the loot was cleared.
-/

namespace SkyfireBG

def MAXGROUPSIZE : Nat := 5
def MAXRAIDSIZE : Nat := 40
def MAX_RAID_SUBGROUPS : Nat := MAXRAIDSIZE / MAXGROUPSIZE

inductive RollVote where
  | pass
  | need
  | greed
  | disenchant
  | notEmitedYet
  | notValid
deriving DecidableEq, Repr

def ROLL_PASS : Nat := 0
def ROLL_NEED : Nat := 1
def ROLL_GREED : Nat := 2
def ROLL_DISENCHANT : Nat := 3
def MAX_ROLL_TYPE : Nat := 4

def ROLL_FLAG_TYPE_NEED : Nat := 0x02
def ROLL_FLAG_TYPE_DISENCHANT : Nat := 0x08
def ROLL_ALL_TYPE_NO_DISENCHANT : Nat := 0x07
def ROLL_ALL_TYPE_MASK : Nat := 0x0F

structure Roll where
  itemGUID : Nat
  itemid : Nat
  itemRandomPropId : Int
  itemRandomSuffix : Nat
  itemCount : Nat
  playerVote : OrdMap Nat RollVote := ∅
  totalPlayersRolling : UInt8 := 0
  totalNeed : UInt8 := 0
  totalGreed : UInt8 := 0
  totalPass : UInt8 := 0
  itemSlot : Nat := 0
  rollVoteMask : Nat := ROLL_ALL_TYPE_NO_DISENCHANT
  loot : Option Nat := none

/-- The constructor `Roll::Roll`. -/
def Roll.ofItem (guid : Nat) (li : LootItem) : Roll where
  itemGUID := guid
  itemid := li.itemid
  itemRandomPropId := li.randomPropertyId
  itemRandomSuffix := li.randomSuffix
  itemCount := li.count

def Roll.isValid (r : Roll) : Bool := r.loot.isSome

/-- The bits of `GroupType`. -/
structure GroupType where
  bg : Bool := false
  raid : Bool := false
  unk1 : Bool := false
  lfg : Bool := false
deriving DecidableEq, Repr

def GROUPTYPE_NORMAL : GroupType := {}
def GROUPTYPE_BGRAID : GroupType := { bg := true, raid := true }

structure MemberSlot where
  guid : Nat
  group : Nat
deriving DecidableEq, Repr

structure Group where
  /-- `GUID_LOPART(m_guid)`. -/
  lowGuid : Nat := 0
  dbStoreId : Nat := 0
  leaderGuid : Nat := 0
  groupType : GroupType := GROUPTYPE_NORMAL
  isBGGroup : Bool := false
  isBFGroup : Bool := false
  memberSlots : List MemberSlot := []
  /-- The linked (online) members, the last one linked first. -/
  memberMgr : List Nat := []
  /-- `m_subGroupsCounts`, `none` for the null pointer. -/
  subGroupsCounts : Option (List UInt8) := none
  lootThreshold : Nat := 2
  looterGuid : Nat := 0
  maxEnchantingLevel : Nat := 0
  rollId : List Roll := []

namespace Group

def isLFGGroup (g : Group) : Bool := g.groupType.lfg

def isRaidGroup (g : Group) : Bool := g.groupType.raid

def getMembersCount (g : Group) : Nat := g.memberSlots.length

def isFull (g : Group) : Bool :=
  if g.isRaidGroup then g.memberSlots.length ≥ MAXRAIDSIZE else g.memberSlots.length ≥ MAXGROUPSIZE

/-- `_getMemberWSlot`: the first slot of the player. -/
def getMemberSlot (g : Group) (guid : Nat) : Option MemberSlot :=
  g.memberSlots.find? (fun m => m.guid == guid)

/-- `GetMemberGroup`: one past the last subgroup for a player that is no member. -/
def getMemberGroup (g : Group) (guid : Nat) : Nat :=
  match g.getMemberSlot guid with
  | some m => m.group
  | none => MAX_RAID_SUBGROUPS + 1

/-- `LinkMember`: a reference that was linked already is unlinked first. -/
def linkMember (g : Group) (guid : Nat) : Group :=
  { g with memberMgr := guid :: g.memberMgr.erase guid }

def delinkMember (g : Group) (guid : Nat) : Group :=
  { g with memberMgr := g.memberMgr.erase guid }

end Group

/-!
## Members

The operations of a `Group` that change its members, their subgroups or the subgroup counters.

The counters are bytes in an array of `MAX_RAID_SUBGROUPS`; an index past its end, which the source
does not check for, changes nothing here.
-/

namespace Group

def subGroupCounterIncrease (g : Group) (subgroup : Nat) : Group :=
  { g with subGroupsCounts := g.subGroupsCounts.map (fun c => c.modify subgroup (· + 1)) }

def subGroupCounterDecrease (g : Group) (subgroup : Nat) : Group :=
  { g with subGroupsCounts := g.subGroupsCounts.map (fun c => c.modify subgroup (· - 1)) }

/-- `_initRaidSubGroupsCounter`: zero every counter, then count the member slots. -/
def initRaidSubGroupsCounter (g : Group) : Group :=
  { g with subGroupsCounts := some (g.memberSlots.foldl (fun c m => c.modify m.group (· + 1))
      (List.replicate MAX_RAID_SUBGROUPS 0)) }

/-- The subgroup `AddMember` puts a new member in: the first one that is not full, or 0 where
there are no subgroups. -/
def freeSubGroup (g : Group) : Option Nat :=
  match g.subGroupsCounts with
  | none => some 0
  | some c => c.findIdx? (fun n => n.toNat < MAXGROUPSIZE)

/-- `AddMember`; `none` is the answer `false`. -/
def addMember (g : Group) (guid : Nat) : Option Group :=
  match g.freeSubGroup with
  | none => none
  | some subGroup =>
    let g' := { g with memberSlots := g.memberSlots ++ [MemberSlot.mk guid subGroup] }
    some ((g'.subGroupCounterIncrease subGroup).linkMember guid)

/-- The first part of `Create`: the type of the new group, its counters and its leader. -/
def create (lowGuid dbStoreId leaderGuid : Nat) (isBGGroup isBFGroup : Bool) : Option Group :=
  let g : Group :=
    { lowGuid := lowGuid, leaderGuid := leaderGuid, isBGGroup := isBGGroup, isBFGroup := isBFGroup
      looterGuid := leaderGuid
      dbStoreId := if isBGGroup || isBFGroup then 0 else dbStoreId
      groupType := if isBGGroup || isBFGroup then GROUPTYPE_BGRAID else GROUPTYPE_NORMAL }
  (if g.isRaidGroup then g.initRaidSubGroupsCounter else g).addMember leaderGuid

/-- What `Disband` leaves of the object it deletes. -/
def disband (g : Group) : Group :=
  { g with memberSlots := [], memberMgr := [], rollId := [], subGroupsCounts := none
           groupType := GROUPTYPE_NORMAL }

def dropSlot (g : Group) (guid : Nat) : Group :=
  match g.getMemberSlot guid with
  | none => g
  | some slot =>
    { g.subGroupCounterDecrease slot.group with
      memberSlots := g.memberSlots.eraseP (fun m => m.guid == guid) }

/-- The leader after `RemoveMember`: the first member that is online follows a leader who left. -/
def nextLeader (g : Group) (guid : Nat) (online : Nat → Bool) : Group :=
  if g.leaderGuid = guid then
    match g.memberSlots.find? (fun m => online m.guid) with
    | some m => { g with leaderGuid := m.guid }
    | none => g
  else g

/-- The member count `RemoveMember` wants left over. -/
def minMembers (g : Group) : Nat := if g.isBGGroup || g.isLFGGroup || g.isBFGroup then 1 else 2

inductive Removal where
  | refused
  | removed (g : Group)
  | disbanded

/-- `RemoveMember`, the loop over the rolls apart.  `lfgOutside` is the test on the leader's map
that may disband a dungeon group of one. -/
def removeMember (g : Group) (guid : Nat) (kick : Bool) (online : Nat → Bool)
    (lfgOutside : Bool) : Removal :=
  if g.isLFGGroup && kick then .refused
  else if g.getMembersCount > g.minMembers then
    let g' := ((g.delinkMember guid).dropSlot guid).nextLeader guid online
    if g'.isLFGGroup && g'.getMembersCount == 1 && lfgOutside then .disbanded
    else if g'.memberMgr.length < (if g'.isLFGGroup || g'.isBGGroup then 1 else 2) then .disbanded
    else .removed g'
  else .disbanded

def hasFreeSlotSubGroup (g : Group) (subgroup : Nat) : Bool :=
  match g.subGroupsCounts with
  | none => false
  | some counts => match counts[subgroup]? with
    | some n => n.toNat < MAXGROUPSIZE
    | none => false

/-- `slot->group = group` on the first slot of the player. -/
def setSlotGroup (guid group : Nat) : List MemberSlot → List MemberSlot
  | [] => []
  | m :: ms => if m.guid = guid then { m with group := group } :: ms
    else m :: setSlotGroup guid group ms

def changeMembersGroup (g : Group) (guid group : Nat) : Group :=
  if !g.isRaidGroup then g
  else match g.getMemberSlot guid with
    | none => g
    | some _ =>
      let prevSubGroup := g.getMemberGroup guid
      if prevSubGroup = group then g
      else
        let g' := { g with memberSlots := setSlotGroup guid group g.memberSlots }
        (g'.subGroupCounterIncrease group).subGroupCounterDecrease prevSubGroup

/-- `HandleGroupChangeSubGroupOpcode`; `allowed` is the test that the sender leads or assists. -/
def handleGroupChangeSubGroup (g : Group) (allowed : Bool) (guid groupNr : Nat) : Group :=
  if groupNr ≥ MAX_RAID_SUBGROUPS then g
  else if !allowed then g
  else if !g.hasFreeSlotSubGroup groupNr then g
  else g.changeMembersGroup guid groupNr

def convertToLFG (g : Group) : Group :=
  { g with groupType := { g.groupType with lfg := true, unk1 := true } }

def convertToRaid (g : Group) : Group :=
  { g with groupType := { g.groupType with raid := true } }.initRaidSubGroupsCounter

def convertToGroup (g : Group) : Group :=
  if g.memberSlots.length > 5 then g
  else { g with groupType := GROUPTYPE_NORMAL, subGroupsCounts := none }

/-- `LoadMemberFromDB` for a member that exists. -/
def loadMember (g : Group) (guid subgroup : Nat) : Group :=
  let g' := { g with memberSlots := g.memberSlots ++ [MemberSlot.mk guid subgroup] }
  g'.subGroupCounterIncrease subgroup

end Group
end SkyfireBG
