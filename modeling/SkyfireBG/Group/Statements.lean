import SkyfireBG.Group.Leader

/-!
# SkyfireBG.Group.Statements

The statements that the operations on groups send to the database, and the tables that execute them
in order.

A `GroupRecord` is a group with what is stored beside its members: loot method, difficulties, and
the flags and roles of each member.  The groups are kept under their low guid; the rows under the
store id of the group and the guid of the member.
-/

namespace SkyfireBG

inductive LootMethod where
  | freeForAll
  | roundRobin
  | masterLoot
  | groupLoot
  | needBeforeGreed
deriving DecidableEq, Repr

/-- A row of `groups`. -/
structure StoredGroupRow where
  leaderGuid : Nat
  lootMethod : LootMethod
  looterGuid : Nat
  lootThreshold : Nat
  groupType : GroupType
  difficulty : Nat
  raiddifficulty : Nat
deriving DecidableEq

/-- A row of `group_member`; `guid` is the store id of the group. -/
structure StoredMemberRow where
  guid : Nat
  memberFlags : Nat
  subgroup : Nat
  roles : Nat
deriving DecidableEq

inductive GroupStatement where
  /-- `CHAR_ADD_GROUP` and `CHAR_ADD_GROUP_MEMBER`. -/
  | addGroup (guid : Nat) (row : StoredGroupRow)
  | addMember (memberGuid : Nat) (row : StoredMemberRow)
  | delMember (memberGuid : Nat)
  | updateLeader (leaderGuid guid : Nat)
  | updateType (groupType : GroupType) (guid : Nat)
  | updateSubgroup (subgroup memberGuid : Nat)
  | updateFlag (memberFlags memberGuid : Nat)
  | updateDifficulty (difficulty guid : Nat)
  | updateRaidDifficulty (difficulty guid : Nat)
  | delGroup (guid : Nat)
  | delMembers (guid : Nat)
deriving DecidableEq

structure GroupTables where
  groups : OrdMap Nat StoredGroupRow := ∅
  members : OrdMap Nat StoredMemberRow := ∅

def GroupTables.execute (t : GroupTables) : GroupStatement → GroupTables
  | .addGroup guid row => { t with groups := t.groups.insertNew guid row }
  | .addMember memberGuid row => { t with members := t.members.insertNew memberGuid row }
  | .delMember memberGuid => { t with members := t.members.erase memberGuid }
  | .updateLeader leaderGuid guid =>
    { t with groups := t.groups.update guid fun row => { row with leaderGuid := leaderGuid } }
  | .updateType groupType guid =>
    { t with groups := t.groups.update guid fun row => { row with groupType := groupType } }
  | .updateSubgroup subgroup memberGuid =>
    { t with members := t.members.update memberGuid fun row => { row with subgroup := subgroup } }
  | .updateFlag memberFlags memberGuid =>
    { t with members :=
        t.members.update memberGuid fun row => { row with memberFlags := memberFlags } }
  | .updateDifficulty difficulty guid =>
    { t with groups := t.groups.update guid fun row => { row with difficulty := difficulty } }
  | .updateRaidDifficulty difficulty guid =>
    { t with groups := t.groups.update guid fun row => { row with raiddifficulty := difficulty } }
  | .delGroup guid => { t with groups := t.groups.erase guid }
  | .delMembers guid => { t with members := t.members.filter fun _ row => row.guid != guid }

def MEMBER_FLAG_ASSISTANT : Nat := 0x01
def MEMBER_FLAG_MAINTANK : Nat := 0x02
def MEMBER_FLAG_MAINASSIST : Nat := 0x04

/-- `flags &= ~flag`. -/
def clearFlag (flags flag : Nat) : Nat := flags ^^^ (flags &&& flag)

structure GroupRecord where
  group : Group
  lootMethod : LootMethod := .groupLoot
  dungeonDifficulty : Nat := 0
  raidDifficulty : Nat := 0
  flags : Nat → Nat := fun _ => 0
  roles : Nat → Nat := fun _ => 0

namespace GroupRecord

variable (r : GroupRecord)

/-- The row that `Create` writes, and what it should hold from then on. -/
def row : StoredGroupRow :=
  ⟨r.group.leaderGuid, r.lootMethod, r.group.looterGuid, r.group.lootThreshold, r.group.groupType,
    r.dungeonDifficulty, r.raidDifficulty⟩

def memberRow (guid : Nat) : Option StoredMemberRow :=
  (r.group.getMemberSlot guid).map fun slot =>
    ⟨r.group.dbStoreId, r.flags guid, slot.group, r.roles guid⟩

def whenStored (statement : GroupStatement) : List GroupStatement :=
  if r.group.stored then [statement] else []

end GroupRecord

structure GroupStore where
  groups : OrdMap Nat GroupRecord := ∅
  nextGroupId : Nat := 1
  nextGroupDbStoreId : Nat := 1
  tables : GroupTables := {}

namespace GroupStore

variable (w : GroupStore)

/-- The ids that are taken in `GroupDbStore`. -/
def storeIds : List Nat := w.groups.entries.filterMap fun e => e.2.group.storeId

def perform (low : Nat) (r : GroupRecord) (statements : List GroupStatement) : GroupStore :=
  { w with
    groups := w.groups.set low r
    tables := statements.foldl GroupTables.execute w.tables }

/-- `Create` by a leader with his difficulties. -/
def create (leader : Nat) (bg bf : Bool) (dungeonDifficulty raidDifficulty : Nat) : GroupStore :=
  if bg || bf then
    match Group.create w.nextGroupId 0 leader bg bf with
    | none => w
    | some g =>
      { w with
        groups := w.groups.set w.nextGroupId { group := g }
        nextGroupId := w.nextGroupId + 1 }
  else
    let storeId := w.nextGroupDbStoreId
    match nextUnused w.storeIds (storeId + 1) (0xFFFFFFFF - (storeId + 1)),
      Group.create w.nextGroupId storeId leader bg bf with
    | some next, some g =>
      let r : GroupRecord :=
        { group := g, dungeonDifficulty := dungeonDifficulty, raidDifficulty := raidDifficulty }
      { w.perform w.nextGroupId r [.addGroup storeId r.row,
          .addMember leader ⟨storeId, 0, g.getMemberGroup leader, 0⟩] with
        nextGroupId := w.nextGroupId + 1
        nextGroupDbStoreId := next }
    | _, _ => w

def addMember (low guid : Nat) (r : GroupRecord) : GroupStore :=
  match r.group.freeSubGroup, r.group.addMember guid with
  | some subGroup, some g =>
    w.perform low
      { r with
        group := g
        flags := Function.update r.flags guid 0
        roles := Function.update r.roles guid 0 }
      (r.whenStored (.addMember guid ⟨r.group.dbStoreId, 0, subGroup, 0⟩))
  | _, _ => w

def disband (low : Nat) (r : GroupRecord) : GroupStore :=
  if r.group.stored then
    { w with
      groups := w.groups.erase low
      nextGroupDbStoreId := if r.group.dbStoreId < w.nextGroupDbStoreId then r.group.dbStoreId
        else w.nextGroupDbStoreId
      tables := [.delGroup r.group.dbStoreId, .delMembers r.group.dbStoreId].foldl
        GroupTables.execute w.tables }
  else { w with groups := w.groups.erase low }

def flagsOfLeader (r : GroupRecord) (leader : Nat) : Nat → Nat :=
  Function.update r.flags leader (clearFlag (r.flags leader) MEMBER_FLAG_ASSISTANT)

/-- `RemoveMember`.  The row of the player is deleted also where the group is not stored; a group
that is small from the start is disbanded without it. -/
def removeMember (low guid : Nat) (kick : Bool) (online : Nat → Bool) (lfgOutside : Bool)
    (r : GroupRecord) : GroupStore :=
  match r.group.removeMember guid kick online lfgOutside with
  | .refused => w
  | .removed g =>
    -- `ChangeLeader`, if a member is online to follow a leader who left
    if r.group.leaderGuid = guid ∧ (g.memberSlots.any fun m => online m.guid) = true then
      w.perform low { r with group := g, flags := flagsOfLeader r g.leaderGuid }
        (.delMember guid :: r.whenStored (.updateLeader g.leaderGuid r.group.dbStoreId))
    else w.perform low { r with group := g } [.delMember guid]
  | .disbanded =>
    if r.group.getMembersCount > r.group.minMembers then
      { w with tables := w.tables.execute (.delMember guid) }.disband low r
    else w.disband low r

def changeLeader (low guid : Nat) (online : Nat → Bool) (r : GroupRecord) : GroupStore :=
  if (r.group.getMemberSlot guid).isSome && online guid then
    w.perform low
      { r with group := r.group.changeLeader guid online, flags := flagsOfLeader r guid }
      (r.whenStored (.updateLeader guid r.group.dbStoreId))
  else w

/-- `ConvertToLFG`: the loot method changes, but only the type is written. -/
def convertToLFG (low : Nat) (r : GroupRecord) : GroupStore :=
  w.perform low { r with group := r.group.convertToLFG, lootMethod := .needBeforeGreed }
    (r.whenStored (.updateType r.group.convertToLFG.groupType r.group.dbStoreId))

def convertToRaid (low : Nat) (r : GroupRecord) : GroupStore :=
  w.perform low { r with group := r.group.convertToRaid }
    (if !r.group.isBGGroup then [.updateType r.group.convertToRaid.groupType r.group.dbStoreId]
      else [])

/-- `ConvertToGroup`, which writes under the low guid of the group. -/
def convertToGroup (low : Nat) (r : GroupRecord) : GroupStore :=
  if r.group.memberSlots.length > 5 then w
  else
    w.perform low { r with group := r.group.convertToGroup }
      (if !r.group.isBGGroup then [.updateType GROUPTYPE_NORMAL r.group.lowGuid] else [])

/-- `HandleGroupChangeSubGroupOpcode`; the row is written when the member did move. -/
def changeSubGroup (low : Nat) (allowed : Bool) (guid groupNr : Nat) (r : GroupRecord) :
    GroupStore :=
  let g := r.group.handleGroupChangeSubGroup allowed guid groupNr
  w.perform low { r with group := g }
    (if g.getMemberGroup guid = r.group.getMemberGroup guid then []
      else r.whenStored (.updateSubgroup groupNr guid))

/-- The flags after `SetGroupMemberFlag`; a main assist or a main tank is the only one. -/
def flagsWith (r : GroupRecord) (guid : Nat) (apply : Bool) (flag : Nat) : Nat → Nat :=
  let flags := if flag = MEMBER_FLAG_ASSISTANT then r.flags
    else fun m => if r.group.isMember m then clearFlag (r.flags m) flag else r.flags m
  Function.update flags guid (if apply then flags guid ||| flag else clearFlag (flags guid) flag)

/-- `SetGroupMemberFlag`.  Both values of its statement are bound to the first parameter: the guid
is what is left there, and the second one is empty. -/
def setGroupMemberFlag (low guid : Nat) (apply : Bool) (flag : Nat) (r : GroupRecord) :
    GroupStore :=
  if !r.group.isRaidGroup then w
  else if !r.group.isMember guid then w
  else if flag ≠ MEMBER_FLAG_ASSISTANT ∧ flag ≠ MEMBER_FLAG_MAINASSIST ∧
      flag ≠ MEMBER_FLAG_MAINTANK then w
  else w.perform low { r with flags := flagsWith r guid apply flag } [.updateFlag guid 0]

def setLootMethod (low : Nat) (method : LootMethod) (r : GroupRecord) : GroupStore :=
  w.perform low { r with lootMethod := method } []

def setLooterGuid (low guid : Nat) (r : GroupRecord) : GroupStore :=
  w.perform low { r with group := { r.group with looterGuid := guid } } []

def setLootThreshold (low threshold : Nat) (r : GroupRecord) : GroupStore :=
  w.perform low { r with group := { r.group with lootThreshold := threshold } } []

/-- `SetRoles` and `SetLfgRoles`. -/
def setRoles (low guid roles : Nat) (r : GroupRecord) : GroupStore :=
  if r.group.isMember guid then
    w.perform low { r with roles := Function.update r.roles guid roles } []
  else w

def setDungeonDifficulty (low difficulty : Nat) (r : GroupRecord) : GroupStore :=
  w.perform low { r with dungeonDifficulty := difficulty }
    (r.whenStored (.updateDifficulty difficulty r.group.dbStoreId))

def setRaidDifficulty (low difficulty : Nat) (r : GroupRecord) : GroupStore :=
  w.perform low { r with raidDifficulty := difficulty }
    (r.whenStored (.updateRaidDifficulty difficulty r.group.dbStoreId))

end GroupStore

inductive GroupOperation where
  | addMember (guid : Nat)
  | removeMember (guid : Nat) (kick : Bool) (online : Nat → Bool) (lfgOutside : Bool)
  | changeLeader (guid : Nat) (online : Nat → Bool)
  | disband
  | convertToLFG
  | convertToRaid
  | convertToGroup
  | changeSubGroup (allowed : Bool) (guid groupNr : Nat)
  | setGroupMemberFlag (guid : Nat) (apply : Bool) (flag : Nat)
  | setLootMethod (method : LootMethod)
  | setLooterGuid (guid : Nat)
  | setLootThreshold (threshold : Nat)
  | setRoles (guid roles : Nat)
  | setDungeonDifficulty (difficulty : Nat)
  | setRaidDifficulty (difficulty : Nat)

inductive GroupRequest where
  | create (leader : Nat) (bg bf : Bool) (dungeonDifficulty raidDifficulty : Nat)
  | group (low : Nat) (op : GroupOperation)

namespace GroupStore

def apply (w : GroupStore) (low : Nat) (r : GroupRecord) : GroupOperation → GroupStore
  | .addMember guid => w.addMember low guid r
  | .removeMember guid kick online lfgOutside => w.removeMember low guid kick online lfgOutside r
  | .changeLeader guid online => w.changeLeader low guid online r
  | .disband => w.disband low r
  | .convertToLFG => w.convertToLFG low r
  | .convertToRaid => w.convertToRaid low r
  | .convertToGroup => w.convertToGroup low r
  | .changeSubGroup allowed guid groupNr => w.changeSubGroup low allowed guid groupNr r
  | .setGroupMemberFlag guid apply flag => w.setGroupMemberFlag low guid apply flag r
  | .setLootMethod method => w.setLootMethod low method r
  | .setLooterGuid guid => w.setLooterGuid low guid r
  | .setLootThreshold threshold => w.setLootThreshold low threshold r
  | .setRoles guid roles => w.setRoles low guid roles r
  | .setDungeonDifficulty difficulty => w.setDungeonDifficulty low difficulty r
  | .setRaidDifficulty difficulty => w.setRaidDifficulty low difficulty r

def step (w : GroupStore) : GroupRequest → GroupStore
  | .create leader bg bf dungeonDifficulty raidDifficulty =>
    w.create leader bg bf dungeonDifficulty raidDifficulty
  | .group low op => match w.groups.find? low with
    | none => w
    | some r => w.apply low r op

end GroupStore

/-!
## The looter

`Group::UpdateLooterGuid`, by which the members of a group loot in turn.
-/

namespace GroupRecord

variable (inRange : Nat → Bool) (ifneed : Bool) (r : GroupRecord)

def guids : List Nat := r.group.memberSlots.map MemberSlot.guid

def setLooterGuid (guid : Nat) : GroupRecord := { r with group := { r.group with looterGuid := guid } }

/-- `UpdateLooterGuid`, and whether `SendUpdate` is called.  `inRange` holds of the players that are
found within the distance for experience of what is looted. -/
def updateLooterGuid : GroupRecord × Bool :=
  if r.lootMethod = .masterLoot ∨ r.lootMethod = .freeForAll then (r, false)
  else
    let slots := r.group.memberSlots
    let slot := slots.findIdx fun m => m.guid == r.group.looterGuid
    if slot < slots.length ∧ ifneed = true ∧ inRange r.group.looterGuid = true then (r, false)
    else
      let guidItr := if slot < slots.length then slot + 1 else slot
      -- after the looter first, then from the start
      let pNewLooter := ((slots.drop guidItr).find? fun m => inRange m.guid).or
        ((slots.take guidItr).find? fun m => inRange m.guid)
      match pNewLooter with
      | some m =>
        if r.group.looterGuid ≠ m.guid then (r.setLooterGuid m.guid, true) else (r, false)
      | none => (r.setLooterGuid 0, true)

end GroupRecord

/-- All members in turn, from the one after `looter` on. -/
def turnsAfter (looter : Nat) (guids : List Nat) : List Nat :=
  guids.drop (guids.idxOf looter + 1) ++ guids.take (guids.idxOf looter + 1)

section

variable {looter guid j : Nat} {guids pre post : List Nat}

theorem turnsAfter_split (hpre : looter ∉ pre) :
    turnsAfter looter (pre ++ looter :: post) = post ++ (pre ++ [looter]) := by
  have hidx : (pre ++ looter :: post).idxOf looter = pre.length := by
    rw [List.idxOf_append_of_notMem hpre, List.idxOf_cons_self, Nat.add_zero]
  have hsplit : pre ++ looter :: post = (pre ++ [looter]) ++ post := by simp
  have hlen : pre.length + 1 = (pre ++ [looter]).length := by simp
  rw [turnsAfter, hidx, hsplit, hlen, List.drop_left, List.take_left]

theorem turnsAfter_of_notMem (h : looter ∉ guids) : turnsAfter looter guids = guids := by
  have hidx : guids.idxOf looter = guids.length := List.idxOf_eq_length_iff.mpr h
  rw [turnsAfter, hidx, List.drop_of_length_le (Nat.le_succ _),
    List.take_of_length_le (Nat.le_succ _), List.nil_append]

theorem mem_turnsAfter : guid ∈ turnsAfter looter guids ↔ guid ∈ guids := by
  rw [turnsAfter, List.mem_append, or_comm, ← List.mem_append, List.take_append_drop]

theorem turnsAfter_head (hnodup : guids.Nodup) (hj : j < guids.length) :
    (turnsAfter guids[j] guids)[0]? = guids[(j + 1) % guids.length]? := by
  rw [turnsAfter, hnodup.idxOf_getElem j hj]
  by_cases hlast : j + 1 < guids.length
  · rw [Nat.mod_eq_of_lt hlast, List.getElem?_append_left (by rw [List.length_drop]; omega),
      List.getElem?_drop, Nat.add_zero]
  · have heq : j + 1 = guids.length := by omega
    rw [heq, Nat.mod_self, List.drop_length, List.take_length, List.nil_append]

end

namespace GroupRecord

variable {inRange : Nat → Bool} {ifneed : Bool} {r : GroupRecord}

def TakesTurns (r : GroupRecord) : Prop := ¬ (r.lootMethod = .masterLoot ∨ r.lootMethod = .freeForAll)

instance : Decidable r.TakesTurns := inferInstanceAs (Decidable (¬ _))

theorem findIdx_memberSlots (slots : List MemberSlot) (looter : Nat) :
    slots.findIdx (fun m => m.guid == looter) = (slots.map MemberSlot.guid).idxOf looter := by
  rw [List.idxOf, List.findIdx_map]
  rfl

theorem find?_memberSlots (slots : List MemberSlot) :
    (slots.find? fun m => inRange m.guid).map MemberSlot.guid =
      (slots.map MemberSlot.guid).find? inRange := by
  rw [List.find?_map]
  rfl

theorem find?_searches (inRange : Nat → Bool) (slots : List MemberSlot) (looter : Nat) {slot : Nat}
    (hslot : (slots.map MemberSlot.guid).idxOf looter = slot) :
    (((slots.drop (if slot < slots.length then slot + 1 else slot)).find? fun m => inRange m.guid).or
      ((slots.take (if slot < slots.length then slot + 1 else slot)).find?
        fun m => inRange m.guid)).map MemberSlot.guid =
      (turnsAfter looter (slots.map MemberSlot.guid)).find? inRange := by
  rw [Option.map_or, find?_memberSlots, find?_memberSlots, List.map_drop, List.map_take,
    ← List.find?_append, ← List.length_map (f := MemberSlot.guid), ← hslot]
  by_cases hmem : looter ∈ slots.map MemberSlot.guid
  · rw [if_pos (List.idxOf_lt_length_iff.mpr hmem), turnsAfter]
  · rw [List.idxOf_eq_length_iff.mpr hmem, if_neg (Nat.lt_irrefl _), turnsAfter_of_notMem hmem,
      List.drop_length, List.take_length, List.nil_append]

def KeepsTurn (r : GroupRecord) (inRange : Nat → Bool) (ifneed : Bool) : Prop :=
  r.group.looterGuid ∈ r.guids ∧ ifneed = true ∧ inRange r.group.looterGuid = true

instance : Decidable (r.KeepsTurn inRange ifneed) := inferInstanceAs (Decidable (_ ∧ _))

theorem updateLooterGuid_kept (h : ¬ r.TakesTurns ∨ r.KeepsTurn inRange ifneed) :
    r.updateLooterGuid inRange ifneed = (r, false) := by
  unfold updateLooterGuid
  by_cases hmethod : r.lootMethod = .masterLoot ∨ r.lootMethod = .freeForAll
  · rw [if_pos hmethod]
  · obtain ⟨hmem, hneed⟩ := h.resolve_left (not_not.mpr hmethod)
    dsimp only
    rw [if_neg hmethod, findIdx_memberSlots, ← List.length_map (f := MemberSlot.guid),
      if_pos ⟨List.idxOf_lt_length_iff.mpr hmem, hneed⟩]

theorem updateLooterGuid_next (h : r.TakesTurns) (hkeeps : ¬ r.KeepsTurn inRange ifneed) :
    (r.updateLooterGuid inRange ifneed).1 =
      r.setLooterGuid (((turnsAfter r.group.looterGuid r.guids).find? inRange).getD 0) := by
  unfold updateLooterGuid
  dsimp only
  rw [if_neg h, findIdx_memberSlots]
  obtain ⟨slot, hslot⟩ : ∃ slot, (r.group.memberSlots.map MemberSlot.guid).idxOf
    r.group.looterGuid = slot := ⟨_, rfl⟩
  have hstays : ¬ (slot < r.group.memberSlots.length ∧ ifneed = true ∧
      inRange r.group.looterGuid = true) := by
    rintro ⟨hlt, hneed⟩
    rw [← List.length_map (f := MemberSlot.guid), ← hslot] at hlt
    exact hkeeps ⟨List.idxOf_lt_length_iff.mp hlt, hneed⟩
  rw [hslot, if_neg hstays, guids, ← find?_searches inRange _ _ hslot]
  cases ((r.group.memberSlots.drop _).find? fun m => inRange m.guid).or
    ((r.group.memberSlots.take _).find? fun m => inRange m.guid) with
  | none => rfl
  | some m =>
    dsimp only [Option.map_some, Option.getD_some]
    by_cases hsame : r.group.looterGuid ≠ m.guid
    · rw [if_pos hsame]
    · rw [if_neg hsame, ← not_not.mp hsame]
      rfl

/-! ## A round of the group -/

/-- A call without `ifneed`. -/
def turn (inRange : Nat → Bool) (r : GroupRecord) : GroupRecord :=
  (r.updateLooterGuid inRange false).1

@[simp] theorem setLooterGuid_looterGuid {guid : Nat} :
    (r.setLooterGuid guid).group.looterGuid = guid := rfl

@[simp] theorem setLooterGuid_guids {guid : Nat} : (r.setLooterGuid guid).guids = r.guids := rfl

theorem not_keepsTurn : ¬ r.KeepsTurn inRange false := fun h => Bool.false_ne_true h.2.1

theorem turn_eq (h : r.TakesTurns) : r.turn inRange =
    r.setLooterGuid (((turnsAfter r.group.looterGuid r.guids).find? inRange).getD 0) :=
  updateLooterGuid_next h not_keepsTurn

theorem turn_takesTurns (h : r.TakesTurns) : (r.turn inRange).TakesTurns := by
  rw [turn_eq h]
  exact h

theorem turn_guids (h : r.TakesTurns) : (r.turn inRange).guids = r.guids := by
  rw [turn_eq h, setLooterGuid_guids]

theorem turn_looterGuid {guid : Nat} (h : r.TakesTurns)
    (hall : ∀ guid ∈ r.guids, inRange guid = true)
    (hnext : (turnsAfter r.group.looterGuid r.guids)[0]? = some guid) :
    (r.turn inRange).group.looterGuid = guid := by
  have hmem : guid ∈ r.guids := mem_turnsAfter.mp (List.mem_of_getElem? hnext)
  rw [← List.head?_eq_getElem?] at hnext
  obtain ⟨rest, hrest⟩ := List.head?_eq_some_iff.mp hnext
  rw [turn_eq h, setLooterGuid_looterGuid, hrest, List.find?_cons_of_pos (hall guid hmem),
    Option.getD_some]

theorem turns_from {s : Nat} (h : r.TakesTurns) (hall : ∀ guid ∈ r.guids, inRange guid = true)
    (hnodup : r.guids.Nodup) (hs : (turnsAfter r.group.looterGuid r.guids)[0]? = r.guids[s]?)
    (hlt : s < r.guids.length) (k : Nat) :
    ((turn inRange)^[k] r).TakesTurns ∧ ((turn inRange)^[k] r).guids = r.guids ∧
      (turnsAfter ((turn inRange)^[k] r).group.looterGuid r.guids)[0]? =
        r.guids[(s + k) % r.guids.length]? := by
  induction k with
  | zero => exact ⟨h, rfl, by rwa [Nat.add_zero, Nat.mod_eq_of_lt hlt]⟩
  | succ k ih =>
    obtain ⟨htakes, hguids, hnext⟩ := ih
    have hj : (s + k) % r.guids.length < r.guids.length := Nat.mod_lt _ (by omega)
    rw [Function.iterate_succ_apply']
    have hlooter := turn_looterGuid htakes (by rwa [hguids]) <| by
      rw [hguids, hnext, List.getElem?_eq_getElem hj]
    refine ⟨turn_takesTurns htakes, (turn_guids htakes).trans hguids, ?_⟩
    rw [hlooter, turnsAfter_head hnodup hj, Nat.mod_add_mod, Nat.add_assoc]

theorem exists_start (looter : Nat) {guids : List Nat} (h : guids ≠ []) :
    ∃ s, s < guids.length ∧ (turnsAfter looter guids)[0]? = guids[s]? := by
  have hmem : ∀ guid, guid ∈ turnsAfter looter guids ↔ guid ∈ guids := fun _ => mem_turnsAfter
  obtain ⟨guid, hguid⟩ := List.exists_mem_of_ne_nil _ h
  obtain ⟨first, rest, hfirst⟩ := List.exists_cons_of_ne_nil
    (List.ne_nil_of_mem ((hmem guid).mpr hguid))
  obtain ⟨s, hs, heq⟩ := List.getElem_of_mem ((hmem first).mp (hfirst ▸ .head _))
  exact ⟨s, hs, by rw [hfirst, List.getElem?_eq_getElem hs, heq]; rfl⟩

theorem turns_perm (h : r.TakesTurns) (hall : ∀ guid ∈ r.guids, inRange guid = true)
    (hnodup : r.guids.Nodup) :
    ((List.range r.guids.length).map fun k => ((turn inRange)^[k + 1] r).group.looterGuid).Perm
      r.guids := by
  by_cases hnil : r.guids = []
  · rw [hnil]
    exact .nil
  · obtain ⟨s, hlt, hs⟩ := exists_start r.group.looterGuid hnil
    have hround : ((List.range r.guids.length).map fun k =>
        ((turn inRange)^[k + 1] r).group.looterGuid) = r.guids.rotate s := by
      refine List.ext_getElem (by simp) fun k hk _ => ?_
      obtain ⟨htakes, hguids, hnext⟩ := turns_from h hall hnodup hs hlt k
      have hj : (s + k) % r.guids.length < r.guids.length := Nat.mod_lt _ (by omega)
      rw [List.getElem_map, List.getElem_range, List.getElem_rotate,
        Function.iterate_succ_apply']
      refine turn_looterGuid htakes (by rwa [hguids]) ?_
      rw [hguids, hnext, Nat.add_comm s k, List.getElem?_eq_getElem]
    rw [hround]
    exact List.rotate_perm _ _

/-- Where the loot is given out in turn, and the looter does not keep the turn, it goes to the first
member in range after the looter, all around the group, and to nobody when there is none.  With all
members in range each of them gets one turn in as many calls as there are members. -/
theorem updateLooterGuid_fair (r : GroupRecord) (inRange : Nat → Bool) (htakes : r.TakesTurns) :
    (∀ ifneed, ¬ r.KeepsTurn inRange ifneed →
      (∀ pre post, r.guids = pre ++ r.group.looterGuid :: post → r.group.looterGuid ∉ pre →
        (r.updateLooterGuid inRange ifneed).1 =
          r.setLooterGuid (((post ++ (pre ++ [r.group.looterGuid])).find? inRange).getD 0)) ∧
      (r.group.looterGuid ∉ r.guids → (r.updateLooterGuid inRange ifneed).1 =
          r.setLooterGuid ((r.guids.find? inRange).getD 0))) ∧
    (∀ ifneed, r.KeepsTurn inRange ifneed → r.updateLooterGuid inRange ifneed = (r, false)) ∧
    (r.guids.Nodup → (∀ guid ∈ r.guids, inRange guid = true) →
      ((List.range r.guids.length).map fun k =>
        ((turn inRange)^[k + 1] r).group.looterGuid).Perm r.guids) := by
  refine ⟨fun ifneed hkeeps => ⟨fun pre post hsplit hpre => ?_, fun hmem => ?_⟩,
    fun ifneed hkeeps => updateLooterGuid_kept (.inr hkeeps),
    fun hnodup hall => turns_perm htakes hall hnodup⟩
  · rw [updateLooterGuid_next htakes hkeeps, hsplit, turnsAfter_split hpre]
  · rw [updateLooterGuid_next htakes hkeeps, turnsAfter_of_notMem hmem]

def threeMembers (method : LootMethod) : GroupRecord where
  group := { memberSlots := [⟨11, 0⟩, ⟨12, 0⟩, ⟨13, 0⟩], looterGuid := 12 }
  lootMethod := method

theorem updateLooterGuid_fair_three :
    ((List.range 3).map fun k =>
      ((turn fun _ => true)^[k + 1] (threeMembers .groupLoot)).group.looterGuid).Perm [11, 12, 13] :=
  (updateLooterGuid_fair (threeMembers .groupLoot) (fun _ => true) (by decide)).2.2 (by decide)
    fun _ _ => rfl

/-- With a master looter nobody takes turns. -/
theorem updateLooterGuid_master : ¬ ∀ (r : GroupRecord) (inRange : Nat → Bool) (pre post : List Nat),
    r.guids = pre ++ r.group.looterGuid :: post → r.group.looterGuid ∉ pre →
      (r.updateLooterGuid inRange false).1.group.looterGuid =
        ((post ++ (pre ++ [r.group.looterGuid])).find? inRange).getD 0 := by
  intro h
  have hnext : (12 : Nat) = 13 :=
    h (threeMembers .masterLoot) (fun _ => true) [11] [13] rfl (by decide)
  exact absurd hnext (by decide)

end GroupRecord

end SkyfireBG
