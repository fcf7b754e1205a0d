import SkyfireBG.Group.SubGroups
import SkyfireBG.Lib.Lists

/-!
# SkyfireBG.Group.Consistent

All groups of the server, and the tables `groups` and `group_member` they are stored in.

The keys of the tables are those of the schema: the store id of the group, and the guid of the
member.  A battleground or battlefield raid is not stored.  `restart` ends the server and loads the
groups again from what the tables hold.
-/

namespace SkyfireBG

structure GroupRow where
  leaderGuid : Nat
  looterGuid : Nat
  lootThreshold : Nat
  groupType : GroupType

structure MemberRow where
  guid : Nat
  subgroup : Nat

structure GroupWorld where
  groups : List Group := []
  nextGroupId : Nat := 1
  nextGroupDbStoreId : Nat := 1
  groupTable : OrdMap Nat GroupRow := ∅
  memberTable : OrdMap Nat MemberRow := ∅

namespace Group

def stored (g : Group) : Bool := !g.isBGGroup && !g.isBFGroup

/-- The key of a stored group in `GroupDbStore`. -/
def storeId (g : Group) : Option Nat := if g.stored then some g.dbStoreId else none

def isMember (g : Group) (guid : Nat) : Bool := g.memberSlots.any (fun m => m.guid == guid)

/-- `LoadGroupFromDB` for a group whose leader exists. -/
def loadGroup (lowGuid dbStoreId : Nat) (row : GroupRow) : Group :=
  let g : Group :=
    { lowGuid := lowGuid, dbStoreId := dbStoreId, leaderGuid := row.leaderGuid
      looterGuid := row.looterGuid, lootThreshold := row.lootThreshold
      groupType := row.groupType }
  if g.isRaidGroup then g.initRaidSubGroupsCounter else g

end Group

/-- The search of `GenerateNewGroupDbStoreId` for the next unused id from `i` on. -/
def nextUnused (used : List Nat) : Nat → Nat → Option Nat
  | _, 0 => none
  | i, n + 1 => if used.contains i then nextUnused used (i + 1) n else some i

namespace GroupWorld

variable (w : GroupWorld)

def storeIds : List Nat := w.groups.filterMap Group.storeId

/-- `Group::Create` for a new group.  When no store id is left the server shuts down. -/
def create (leader : Nat) (bg bf : Bool) : GroupWorld :=
  if bg || bf then
    match Group.create w.nextGroupId 0 leader bg bf with
    | none => w
    | some g => { w with groups := w.groups ++ [g], nextGroupId := w.nextGroupId + 1 }
  else
    let storeId := w.nextGroupDbStoreId
    match nextUnused w.storeIds (storeId + 1) (0xFFFFFFFF - (storeId + 1)),
      Group.create w.nextGroupId storeId leader bg bf with
    | some next, some g =>
      { groups := w.groups ++ [g]
        nextGroupId := w.nextGroupId + 1
        nextGroupDbStoreId := next
        groupTable := w.groupTable.insertNew storeId
          ⟨leader, leader, g.lootThreshold, GROUPTYPE_NORMAL⟩
        memberTable := w.memberTable.insertNew leader ⟨storeId, g.getMemberGroup leader⟩ }
    | _, _ => w

def addMember (k guid : Nat) : GroupWorld :=
  match w.groups[k]? with
  | none => w
  | some g =>
    match g.freeSubGroup, g.addMember guid with
    | some subGroup, some g' =>
      { w with
        groups := w.groups.set k g'
        memberTable := if g.stored then w.memberTable.insertNew guid ⟨g.dbStoreId, subGroup⟩
          else w.memberTable }
    | _, _ => w

def disband (k : Nat) : GroupWorld :=
  match w.groups[k]? with
  | none => w
  | some g =>
    if g.stored then
      { w with
        groups := w.groups.eraseIdx k
        nextGroupDbStoreId := if g.dbStoreId < w.nextGroupDbStoreId then g.dbStoreId
          else w.nextGroupDbStoreId
        groupTable := w.groupTable.erase g.dbStoreId
        memberTable := w.memberTable.filter (fun _ row => row.guid != g.dbStoreId) }
    else { w with groups := w.groups.eraseIdx k }

/-- `Group::RemoveMember`.  The row of the player goes before anything else is decided, also when
the group itself is not stored; a group that is small from the start is disbanded without it. -/
def removeMember (k guid : Nat) (kick : Bool) (online : Nat → Bool) (lfgOutside : Bool) :
    GroupWorld :=
  match w.groups[k]? with
  | none => w
  | some g =>
    match g.removeMember guid kick online lfgOutside with
    | .refused => w
    | .removed g' =>
      { w with
        groups := w.groups.set k g'
        groupTable := if g.stored && g'.leaderGuid != g.leaderGuid then
            w.groupTable.update g.dbStoreId (fun row => { row with leaderGuid := g'.leaderGuid })
          else w.groupTable
        memberTable := w.memberTable.erase guid }
    | .disbanded =>
      if g.getMembersCount > g.minMembers then
        { w with memberTable := w.memberTable.erase guid }.disband k
      else w.disband k

/-- `HandleGroupChangeSubGroupOpcode`; the row is written when the member did move. -/
def changeSubGroup (k : Nat) (allowed : Bool) (guid groupNr : Nat) : GroupWorld :=
  match w.groups[k]? with
  | none => w
  | some g =>
    let g' := g.handleGroupChangeSubGroup allowed guid groupNr
    { w with
      groups := w.groups.set k g'
      memberTable := if g.stored && g'.getMemberGroup guid != g.getMemberGroup guid then
          w.memberTable.update guid (fun row => { row with subgroup := groupNr })
        else w.memberTable }

/-- The statement `CHAR_UPDATE_GROUP_TYPE`. -/
def setGroupType (table : OrdMap Nat GroupRow) (guid : Nat) (t : GroupType) :
    OrdMap Nat GroupRow :=
  table.update guid (fun row => { row with groupType := t })

def convertToLFG (k : Nat) : GroupWorld :=
  match w.groups[k]? with
  | none => w
  | some g =>
    let g' := g.convertToLFG
    { w with
      groups := w.groups.set k g'
      groupTable := if !g.isBGGroup && !g.isBFGroup then
          setGroupType w.groupTable g.dbStoreId g'.groupType
        else w.groupTable }

def convertToRaid (k : Nat) : GroupWorld :=
  match w.groups[k]? with
  | none => w
  | some g =>
    let g' := g.convertToRaid
    { w with
      groups := w.groups.set k g'
      groupTable := if !g.isBGGroup then setGroupType w.groupTable g.dbStoreId g'.groupType
        else w.groupTable }

/-- `ConvertToGroup`: the row it writes is the one under the low guid of the group, which is not
its store id. -/
def convertToGroup (k : Nat) : GroupWorld :=
  match w.groups[k]? with
  | none => w
  | some g =>
    if g.memberSlots.length > 5 then w
    else
      { w with
        groups := w.groups.set k g.convertToGroup
        groupTable := if !g.isBGGroup then setGroupType w.groupTable g.lowGuid GROUPTYPE_NORMAL
          else w.groupTable }

def memberRows (table : OrdMap Nat MemberRow) (storeId : Nat) : List MemberSlot :=
  (table.entries.filter (fun e => e.2.guid == storeId)).map (fun e => ⟨e.1, e.2.subgroup⟩)

/-- The groups that are left without those that have no leader or less than two members.
`characters` says who has a row in the table of characters. -/
def keptGroups (characters : Nat → Bool) : OrdMap Nat GroupRow :=
  w.groupTable.filter (fun guid row =>
    characters row.leaderGuid && decide (1 < (memberRows w.memberTable guid).length))

/-- The rest of `LoadGroups`: delete the members without a group or a character, and load what is
left. -/
def loadGroups (characters : Nat → Bool) : GroupWorld :=
  let groupTable := w.keptGroups characters
  let memberTable := w.memberTable.filter (fun guid row =>
    (groupTable.find? row.guid).isSome && characters guid)
  { groups := groupTable.entries.zipIdx 1 |>.map (fun (e, n) =>
      (memberRows memberTable e.1).foldl (fun g m => g.loadMember m.guid m.group)
        (Group.loadGroup n e.1 e.2))
    nextGroupId := groupTable.size + 1
    nextGroupDbStoreId := groupTable.entries.foldl (fun n e => if e.1 = n then n + 1 else n) 1
    groupTable := groupTable
    memberTable := memberTable }

/-- `GroupMgr::LoadGroups` in a new process.  When no group is left it returns before it looks at the
members. -/
def restart (characters : Nat → Bool) : GroupWorld :=
  if (w.keptGroups characters).entries.isEmpty then
    { groupTable := w.keptGroups characters, memberTable := w.memberTable }
  else w.loadGroups characters

end GroupWorld

/-- What happens to the groups; `k` is the place of the group among the living ones. -/
inductive GroupEvent where
  | create (leader : Nat) (bg bf : Bool)
  | addMember (k guid : Nat)
  | removeMember (k guid : Nat) (kick : Bool) (online : Nat → Bool) (lfgOutside : Bool)
  | disband (k : Nat)
  | changeSubGroup (k : Nat) (allowed : Bool) (guid groupNr : Nat)
  | convertToLFG (k : Nat)
  | convertToRaid (k : Nat)
  | convertToGroup (k : Nat)
  | restart (characters : Nat → Bool)

def GroupWorld.step (w : GroupWorld) : GroupEvent → GroupWorld
  | .create leader bg bf => w.create leader bg bf
  | .addMember k guid => w.addMember k guid
  | .removeMember k guid kick online lfgOutside => w.removeMember k guid kick online lfgOutside
  | .disband k => w.disband k
  | .changeSubGroup k allowed guid groupNr => w.changeSubGroup k allowed guid groupNr
  | .convertToLFG k => w.convertToLFG k
  | .convertToRaid k => w.convertToRaid k
  | .convertToGroup k => w.convertToGroup k
  | .restart characters => w.restart characters

/-!
## Consistency

`GroupWorld.Consistent` ties the tables to the living groups: a row of `group_member` is the slot
of a living member, and a row of `groups` that is no raid belongs to a group that is no raid.  That
is what a restart needs to give groups with the same limits back.
-/

structure Group.SameObject (g g' : Group) : Prop where
  bg : g'.isBGGroup = g.isBGGroup
  bf : g'.isBFGroup = g.isBFGroup
  id : g'.dbStoreId = g.dbStoreId

namespace Group.SameObject

variable {g g' : Group}

theorem stored (h : g.SameObject g') : g'.stored = g.stored := by
  simp only [Group.stored, h.bg, h.bf]

theorem storeId (h : g.SameObject g') : g'.storeId = g.storeId := by
  simp only [Group.storeId, h.stored, h.id]

theorem addMember {guid : Nat} (h : g.addMember guid = some g') : g.SameObject g' := by
  simp only [Group.addMember] at h
  split at h
  · cases h
  · cases h
    exact ⟨rfl, rfl, rfl⟩

theorem dropSlot {guid : Nat} : g.SameObject (g.dropSlot guid) := by
  simp only [Group.dropSlot]
  split <;> exact ⟨rfl, rfl, rfl⟩

theorem nextLeader {guid : Nat} {online : Nat → Bool} :
    g.SameObject (g.nextLeader guid online) := by
  simp only [Group.nextLeader]
  split
  · split <;> exact ⟨rfl, rfl, rfl⟩
  · exact ⟨rfl, rfl, rfl⟩

theorem changeMembersGroup {guid subgroup : Nat} :
    g.SameObject (g.changeMembersGroup guid subgroup) := by
  rcases Group.Accounted.changeMembersGroup_cases g guid subgroup with he | ⟨_, _, _, _, he⟩
  · rw [he]
    exact ⟨rfl, rfl, rfl⟩
  · rw [he]
    exact ⟨rfl, rfl, rfl⟩

theorem handleGroupChangeSubGroup {allowed : Bool} {guid subgroup : Nat} :
    g.SameObject (g.handleGroupChangeSubGroup allowed guid subgroup) := by
  simp only [Group.handleGroupChangeSubGroup]
  split
  · exact ⟨rfl, rfl, rfl⟩
  · split
    · exact ⟨rfl, rfl, rfl⟩
    · split
      · exact ⟨rfl, rfl, rfl⟩
      · exact changeMembersGroup

end Group.SameObject

theorem Group.removeMember_slots {g g' : Group} {guid : Nat} {kick lfgOutside : Bool}
    {online : Nat → Bool} (h : g.removeMember guid kick online lfgOutside = .removed g') :
    g.SameObject g' ∧ g'.isRaidGroup = g.isRaidGroup ∧
      g'.memberSlots = g.memberSlots.eraseP (fun m => m.guid == guid) := by
  have hdrop : ∀ x : Group, (x.dropSlot guid).memberSlots =
      x.memberSlots.eraseP (fun m => m.guid == guid) := by
    intro x
    simp only [Group.dropSlot, Group.getMemberSlot]
    split
    · rename_i hn
      rw [List.eraseP_of_forall_not]
      intro m hm
      exact List.find?_eq_none.mp hn m hm
    · rfl
  have hraid : ∀ x : Group, (x.dropSlot guid).isRaidGroup = x.isRaidGroup := by
    intro x
    simp only [Group.dropSlot]
    split <;> rfl
  have hnext : ∀ x : Group, (x.nextLeader guid online).memberSlots = x.memberSlots ∧
      (x.nextLeader guid online).isRaidGroup = x.isRaidGroup := by
    intro x
    simp only [Group.nextLeader]
    split
    · split <;> exact ⟨rfl, rfl⟩
    · exact ⟨rfl, rfl⟩
  have hg : g' = ((g.delinkMember guid).dropSlot guid).nextLeader guid online := by
    simp only [Group.removeMember] at h
    split_ifs at h <;> cases h <;> rfl
  rw [hg]
  refine ⟨?_, ?_, ?_⟩
  · have h1 : (g.delinkMember guid).SameObject ((g.delinkMember guid).dropSlot guid) :=
      Group.SameObject.dropSlot
    have h2 : ((g.delinkMember guid).dropSlot guid).SameObject
        (((g.delinkMember guid).dropSlot guid).nextLeader guid online) :=
      Group.SameObject.nextLeader
    exact ⟨h2.bg.trans h1.bg, h2.bf.trans h1.bf, h2.id.trans h1.id⟩
  · rw [(hnext _).2, hraid]
    rfl
  · rw [(hnext _).1, hdrop]
    rfl

theorem Group.addMember_slots {g g' : Group} {guid s : Nat} (h : g.addMember guid = some g')
    (hs : g.freeSubGroup = some s) :
    g'.memberSlots = g.memberSlots ++ [⟨guid, s⟩] ∧ g'.isRaidGroup = g.isRaidGroup := by
  simp only [Group.addMember, hs, Option.some.injEq] at h
  subst h
  exact ⟨rfl, rfl⟩

theorem Group.stored_of_storeId {g : Group} {id : Nat} (h : g.storeId = some id) :
    g.stored = true ∧ g.dbStoreId = id := by
  simp only [Group.storeId] at h
  split at h
  · rename_i hs
    exact ⟨hs, Option.some.inj h⟩
  · cases h

theorem Group.isMember_iff {g : Group} {guid : Nat} :
    g.isMember guid = true ↔ ∃ m ∈ g.memberSlots, m.guid = guid := by
  simp [Group.isMember]

structure GroupWorld.Consistent (w : GroupWorld) : Prop where
  accounted : ∀ g ∈ w.groups, g.Accounted
  ids : w.storeIds.Nodup
  next : w.nextGroupDbStoreId ∉ w.storeIds ∧ 0 < w.nextGroupDbStoreId
  pos : 0 ∉ w.storeIds
  unstored : ∀ g ∈ w.groups, g.stored = false → g.dbStoreId = 0
  rows : ∀ guid row, w.memberTable.find? guid = some row →
    ∃ g ∈ w.groups, g.storeId = some row.guid ∧ ⟨guid, row.subgroup⟩ ∈ g.memberSlots
  types : ∀ g ∈ w.groups, ∀ id row, g.storeId = some id → w.groupTable.find? id = some row →
    row.groupType.raid = false → g.isRaidGroup = false
  keys : w.groupTable.find? 0 = none
  apart : ∀ g ∈ w.groups, ∀ g' ∈ w.groups, ∀ id id' guid, g.storeId = some id →
    g'.storeId = some id' → g.isMember guid = true → g'.isMember guid = true → id = id'

namespace GroupWorld.Consistent

variable {w : GroupWorld} {g g' : Group} {k : Nat}

theorem id_ne (h : w.Consistent) (hk : w.groups[k]? = some g) {x : Group} {id id' : Nat}
    (hx : x ∈ w.groups.eraseIdx k) (hg : g.storeId = some id) (hx' : x.storeId = some id') :
    id' ≠ id :=
  key_ne_of_mem_eraseIdx h.ids hk hx hg hx'

theorem apart_at (h : w.Consistent) (hk : w.groups[k]? = some g) {x : Group} {id id' guid : Nat}
    (hx : x ∈ w.groups.eraseIdx k) (hg : g.storeId = some id) (hx' : x.storeId = some id')
    (hmem : g.isMember guid = true) : x.isMember guid = false := by
  cases hxm : x.isMember guid with
  | false => rfl
  | true =>
    have hg' := List.mem_of_getElem? hk
    have hx'' := List.mem_of_mem_eraseIdx hx
    exact absurd (h.apart g hg' x hx'' id id' guid hg hx' hmem hxm).symm (h.id_ne hk hx hg hx')

/-- Change the group at `k` and the tables.  Rows of other groups stay; a row of this group is one
of its slots; new members are members of no other stored group. -/
theorem replace (h : w.Consistent) (hk : w.groups[k]? = some g) (hsame : g.SameObject g')
    (hacc : g'.Accounted) {members : OrdMap Nat MemberRow} {types : OrdMap Nat GroupRow}
    (hrows : ∀ guid row, members.find? guid = some row →
      (g'.storeId = some row.guid ∧ ⟨guid, row.subgroup⟩ ∈ g'.memberSlots) ∨
      (w.memberTable.find? guid = some row ∧ g.storeId ≠ some row.guid))
    (hapart : ∀ x ∈ w.groups.eraseIdx k, ∀ id id' guid, g'.storeId = some id →
      x.storeId = some id' → g'.isMember guid = true → x.isMember guid = false)
    (htype : ∀ id row, g'.storeId = some id → types.find? id = some row →
      row.groupType.raid = false → g'.isRaidGroup = false)
    (hother : ∀ x ∈ w.groups.eraseIdx k, ∀ id row, x.storeId = some id →
      types.find? id = some row → row.groupType.raid = false → x.isRaidGroup = false)
    (hkeys : types.find? 0 = none) :
    GroupWorld.Consistent { w with
      groups := w.groups.set k g', memberTable := members, groupTable := types } := by
  have hids : (w.groups.set k g').filterMap Group.storeId = w.storeIds :=
    filterMap_set hk hsame.storeId
  refine ⟨?_, ?_, ?_, ?_, ?_, ?_, ?_, hkeys, ?_⟩
  · intro x hx
    rcases mem_set_or hx with rfl | hx
    · exact hacc
    · exact h.accounted x (List.mem_of_mem_eraseIdx hx)
  · show ((w.groups.set k g').filterMap Group.storeId).Nodup
    rw [hids]
    exact h.ids
  · show w.nextGroupDbStoreId ∉ (w.groups.set k g').filterMap Group.storeId ∧ _
    rw [hids]
    exact h.next
  · show 0 ∉ (w.groups.set k g').filterMap Group.storeId
    rw [hids]
    exact h.pos
  · intro x hx hs
    rcases mem_set_or hx with rfl | hx
    · rw [hsame.id]
      exact h.unstored g (List.mem_of_getElem? hk) (hsame.stored ▸ hs)
    · exact h.unstored x (List.mem_of_mem_eraseIdx hx) hs
  · intro guid row hrow
    rcases hrows guid row hrow with hnew | ⟨hold, hne⟩
    · exact ⟨g', mem_set_self hk, hnew⟩
    · obtain ⟨x, hx, hid, hslot⟩ := h.rows guid row hold
      rcases mem_eraseIdx_or hk hx with rfl | hx
      · exact absurd hid hne
      · exact ⟨x, mem_set_of_mem_eraseIdx hx, hid, hslot⟩
  · intro x hx
    rcases mem_set_or hx with rfl | hx
    · exact htype
    · exact hother x hx
  · intro x hx y hy id id' guid hxi hyi hxm hym
    rcases mem_set_or hx with hxg | hxe
    · rcases mem_set_or hy with hyg | hye
      · rw [hxg] at hxi
        rw [hyg] at hyi
        exact Option.some.inj (hxi.symm.trans hyi)
      · rw [hxg] at hxi hxm
        rw [hapart y hye id id' guid hxi hyi hxm] at hym
        cases hym
    · rcases mem_set_or hy with hyg | hye
      · rw [hyg] at hyi hym
        rw [hapart x hxe id' id guid hyi hxi hym] at hxm
        cases hxm
      · exact h.apart x (List.mem_of_mem_eraseIdx hxe) y (List.mem_of_mem_eraseIdx hye)
          id id' guid hxi hyi hxm hym

theorem retype (h : w.Consistent) (hk : w.groups[k]? = some g) (hsame : g.SameObject g')
    (hacc : g'.Accounted) (hslots : g'.memberSlots = g.memberSlots)
    {types : OrdMap Nat GroupRow}
    (htype : ∀ id row, g'.storeId = some id → types.find? id = some row →
      row.groupType.raid = false → g'.isRaidGroup = false)
    (hother : ∀ x ∈ w.groups.eraseIdx k, ∀ id row, x.storeId = some id →
      types.find? id = some row → row.groupType.raid = false → x.isRaidGroup = false)
    (hkeys : types.find? 0 = none) :
    GroupWorld.Consistent { w with groups := w.groups.set k g', groupTable := types } := by
  refine h.replace hk hsame hacc ?_ ?_ htype hother hkeys
  · intro guid row hrow
    by_cases hg : g.storeId = some row.guid
    · obtain ⟨x, hx, hid, hslot⟩ := h.rows guid row hrow
      rcases mem_eraseIdx_or hk hx with rfl | hx
      · exact .inl ⟨hsame.storeId.trans hid, hslots ▸ hslot⟩
      · exact absurd rfl (h.id_ne hk hx hg hid)
    · exact .inr ⟨hrow, hg⟩
  · intro x hx id id' guid hg hx' hmem
    refine h.apart_at hk hx (hsame.storeId ▸ hg) hx' ?_
    rw [Group.isMember, ← hslots]
    exact hmem

theorem own_row (h : w.Consistent) (hk : w.groups[k]? = some g) {guid : Nat} {row : MemberRow}
    (hrow : w.memberTable.find? guid = some row) (hg : g.storeId = some row.guid) :
    ⟨guid, row.subgroup⟩ ∈ g.memberSlots := by
  obtain ⟨x, hx, hid, hslot⟩ := h.rows guid row hrow
  rcases mem_eraseIdx_or hk hx with rfl | hx
  · exact hslot
  · exact absurd rfl (h.id_ne hk hx hg hid)

theorem types_at (h : w.Consistent) (hk : w.groups[k]? = some g) :
    ∀ id row, g.storeId = some id → w.groupTable.find? id = some row →
      row.groupType.raid = false → g.isRaidGroup = false :=
  h.types g (List.mem_of_getElem? hk)

theorem types_other (h : w.Consistent) : ∀ x ∈ w.groups.eraseIdx k, ∀ id row,
    x.storeId = some id → w.groupTable.find? id = some row →
      row.groupType.raid = false → x.isRaidGroup = false :=
  fun x hx => h.types x (List.mem_of_mem_eraseIdx hx)

theorem push (h : w.Consistent) (hacc : g.Accounted)
    (hnew : ∀ id, g.storeId = some id → id ∉ w.storeIds ∧ 0 < id)
    (hdb : g.stored = false → g.dbStoreId = 0) {next : Nat}
    (hnext : next ∉ w.storeIds ∧ (∀ id, g.storeId = some id → next ≠ id) ∧ 0 < next)
    {members : OrdMap Nat MemberRow} {types : OrdMap Nat GroupRow} {lowNext : Nat}
    (hrows : ∀ guid row, members.find? guid = some row →
      w.memberTable.find? guid = some row ∨
      (g.storeId = some row.guid ∧ ⟨guid, row.subgroup⟩ ∈ g.memberSlots))
    (htypes : ∀ id row, types.find? id = some row → w.groupTable.find? id = some row ∨
      g.storeId = some id)
    (htype : g.stored = true → g.isRaidGroup = false)
    (hapart : ∀ x ∈ w.groups, ∀ guid, g.stored = true → x.stored = true →
      g.isMember guid = true → x.isMember guid = false) :
    GroupWorld.Consistent
      ⟨w.groups ++ [g], lowNext, next, types, members⟩ := by
  have hids : (w.groups ++ [g]).filterMap Group.storeId = w.storeIds ++ g.storeId.toList := by
    rw [List.filterMap_append]
    cases hg : g.storeId with
    | none => rw [List.filterMap_cons_none hg]; rfl
    | some id => rw [List.filterMap_cons_some hg]; rfl
  have hmem : ∀ {x}, x ∈ w.groups ++ [g] → x ∈ w.groups ∨ x = g := by
    intro x hx
    simpa using hx
  refine ⟨?_, ?_, ?_, ?_, ?_, ?_, ?_, ?_, ?_⟩
  · intro x hx
    rcases hmem hx with hx | rfl
    · exact h.accounted x hx
    · exact hacc
  · show ((w.groups ++ [g]).filterMap Group.storeId).Nodup
    rw [hids]
    cases hg : g.storeId with
    | none => simpa using h.ids
    | some id =>
      refine List.nodup_append.mpr ⟨h.ids, by simp, ?_⟩
      intro a ha b hb hab
      rw [Option.toList_some, List.mem_singleton] at hb
      subst hb hab
      exact (hnew a hg).1 ha
  · refine ⟨?_, hnext.2.2⟩
    show next ∉ (w.groups ++ [g]).filterMap Group.storeId
    rw [hids]
    intro hc
    rcases List.mem_append.mp hc with hc | hc
    · exact hnext.1 hc
    · exact hnext.2.1 next (Option.mem_toList.mp hc) rfl
  · show 0 ∉ (w.groups ++ [g]).filterMap Group.storeId
    rw [hids]
    intro hc
    rcases List.mem_append.mp hc with hc | hc
    · exact h.pos hc
    · exact absurd (hnew 0 (Option.mem_toList.mp hc)).2 (Nat.lt_irrefl 0)
  · intro x hx hs
    rcases hmem hx with hx | rfl
    · exact h.unstored x hx hs
    · exact hdb hs
  · intro guid row hrow
    rcases hrows guid row hrow with hrow | ⟨hid, hslot⟩
    · obtain ⟨x, hx, hrest⟩ := h.rows guid row hrow
      exact ⟨x, List.mem_append_left _ hx, hrest⟩
    · exact ⟨g, List.mem_append_right _ (.head _), hid, hslot⟩
  · intro x hx id row hid hrow hr
    rcases hmem hx with hx | rfl
    · rcases htypes id row hrow with hrow | hg
      · exact h.types x hx id row hid hrow hr
      · exact absurd (List.mem_filterMap.mpr ⟨x, hx, hid⟩) (hnew id hg).1
    · exact htype (Group.stored_of_storeId hid).1
  · refine Option.eq_none_iff_forall_not_mem.mpr (fun row hrow => ?_)
    rcases htypes 0 row hrow with hrow | hg
    · rw [h.keys] at hrow
      cases hrow
    · exact absurd (hnew 0 hg).2 (Nat.lt_irrefl 0)
  · intro x hx y hy id id' guid hxi hyi hxm hym
    have hxs := (Group.stored_of_storeId hxi).1
    have hys := (Group.stored_of_storeId hyi).1
    rcases hmem hx with hx | hxg
    · rcases hmem hy with hy | hyg
      · exact h.apart x hx y hy id id' guid hxi hyi hxm hym
      · rw [hyg] at hys hym
        rw [hapart x hx guid hys hxs hym] at hxm
        cases hxm
    · rcases hmem hy with hy | hyg
      · rw [hxg] at hxs hxm
        rw [hapart y hy guid hxs hys hxm] at hym
        cases hym
      · rw [hxg] at hxi
        rw [hyg] at hyi
        exact Option.some.inj (hxi.symm.trans hyi)

end GroupWorld.Consistent

end SkyfireBG
