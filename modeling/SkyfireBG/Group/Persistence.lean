import SkyfireBG.Group.Rows

/-!
# SkyfireBG.Group.Persistence

Runs of requests to the groups of the server, and the rows after them.

* `GroupStore.Written` — what a request may change, so that its statements write all of it.
* `groups_persisted`   — then the rows are those of the groups, and each request leaves the rows of
  the other groups alone.
-/

namespace SkyfireBG

namespace GroupStore

variable {w : GroupStore} {r r' : GroupRecord} {low : Nat}

/-- The statements of an operation write what it changes, and write it in the right row. -/
def WrittenBy (w : GroupStore) (low : Nat) (r : GroupRecord) : GroupOperation → Prop
  -- a player joins a stored group from no other stored group
  | .addMember guid => r.group.stored = true → w.Free guid ∧ guid ≠ 0
  | .removeMember guid kick _ _ =>
    r.group.stored = true ∧ r.group.isMember guid = true ∨ w.Free guid ∨
      (r.group.isLFGGroup && kick) = true ∨ ¬ r.group.getMembersCount > r.group.minMembers
  | .convertToLFG => r.group.stored = true → r.lootMethod = .needBeforeGreed
  -- the row under the low guid is the one of the group, or does not change
  | .convertToGroup => r.group.isBGGroup = false → r.group.memberSlots.length ≤ 5 →
    (r.group.stored = true → r.group.dbStoreId = r.group.lowGuid ∨
      r.group.groupType = GROUPTYPE_NORMAL) ∧
    ∀ e ∈ w.groups.entries, e.1 ≠ low → e.2.group.storeId = some r.group.lowGuid →
      e.2.group.groupType = GROUPTYPE_NORMAL
  | .setGroupMemberFlag guid apply flag => r.group.stored = true → r.group.isRaidGroup = true →
    r.group.isMember guid = true → flag = MEMBER_FLAG_ASSISTANT ∨ flag = MEMBER_FLAG_MAINASSIST ∨
      flag = MEMBER_FLAG_MAINTANK → apply = false
  | .setLootMethod method => r.group.stored = true → method = r.lootMethod
  | .setLooterGuid guid => r.group.stored = true → guid = r.group.looterGuid
  | .setLootThreshold threshold => r.group.stored = true → threshold = r.group.lootThreshold
  | .setRoles guid roles =>
    r.group.stored = true → r.group.isMember guid = true → roles = r.roles guid
  | _ => True

def Written (w : GroupStore) : GroupRequest → Prop
  | .create leader bg bf _ _ => (bg || bf) = false → w.Free leader ∧ leader ≠ 0
  | .group low op => match w.groups.find? low with
    | none => True
    | some r => w.WrittenBy low r op

def lowOf (w : GroupStore) : GroupRequest → Nat
  | .create .. => w.nextGroupId
  | .group low _ => low

/-- The rows of `groups` are those of the stored groups, and the rows of `group_member` those of
their members. -/
def RowsHold (w : GroupStore) : Prop :=
  (∀ id row, w.tables.groups.find? id = some row ↔
    ∃ low r, w.groups.find? low = some r ∧ r.group.storeId = some id ∧ row = r.row) ∧
  ∀ guid row, w.tables.members.find? guid = some row ↔
    ∃ low r, w.groups.find? low = some r ∧ r.group.stored = true ∧ r.memberRow guid = some row

/-- The rows of the groups other than the one under `low` are the same in `w'`. -/
def OthersKept (w : GroupStore) (low : Nat) (w' : GroupStore) : Prop :=
  ∀ i r, w.groups.find? i = some r → i ≠ low → r.group.stored = true →
    w'.tables.groups.find? r.group.dbStoreId = w.tables.groups.find? r.group.dbStoreId ∧
    ∀ guid, r.group.isMember guid = true →
      w'.tables.members.find? guid = w.tables.members.find? guid

theorem Persisted.apply (h : Persisted w) (hr : w.groups.find? low = some r) {op : GroupOperation}
    (hop : w.WrittenBy low r op) : Persisted (w.apply low r op) := by
  cases op with
  | addMember guid => exact h.addMember hr hop
  | removeMember guid kick online lfgOutside => exact h.removeMember hr hop
  | changeLeader guid online => exact h.changeLeader hr
  | disband => exact h.disband hr
  | convertToLFG => exact h.convertToLFG hr hop
  | convertToRaid => exact h.convertToRaid hr
  | convertToGroup =>
    refine h.convertToGroup hr fun hbg hsize => ?_
    obtain ⟨hown, hother⟩ := hop hbg hsize
    exact ⟨hown, fun i x hx => hother (i, x) (OrdMap.find?_eq_some.mp hx)⟩
  | changeSubGroup allowed guid groupNr => exact h.changeSubGroup hr
  | setGroupMemberFlag guid apply flag => exact h.setGroupMemberFlag hr hop
  | setLootMethod method =>
    refine h.writeNothing hr rfl ⟨rfl, rfl, rfl⟩ rfl (fun _ => rfl) (fun _ => rfl) fun hs => ?_
    rw [hop hs]
  | setLooterGuid guid =>
    refine h.writeNothing hr rfl ⟨rfl, rfl, rfl⟩ rfl (fun _ => rfl) (fun _ => rfl) fun hs => ?_
    rw [hop hs]
  | setLootThreshold threshold =>
    refine h.writeNothing hr rfl ⟨rfl, rfl, rfl⟩ rfl (fun _ => rfl) (fun _ => rfl) fun hs => ?_
    rw [hop hs]
  | setRoles guid roles => exact h.setRoles hr hop
  | setDungeonDifficulty difficulty => exact h.setDungeonDifficulty hr
  | setRaidDifficulty difficulty => exact h.setRaidDifficulty hr

theorem Persisted.step (h : Persisted w) {request : GroupRequest} (hwritten : w.Written request) :
    Persisted (w.step request) := by
  cases request with
  | create leader bg bf dungeonDifficulty raidDifficulty => exact h.create hwritten
  | group low op =>
    simp only [Written] at hwritten
    simp only [GroupStore.step]
    cases hr : w.groups.find? low with
    | none => exact h
    | some r =>
      rw [hr] at hwritten
      exact h.apply hr hwritten

theorem perform_other {statements : List GroupStatement} {i : Nat} (hi : i ≠ low) :
    (w.perform low r statements).groups.find? i = w.groups.find? i :=
  OrdMap.find?_set_ne hi

theorem disband_other {i : Nat} (hi : i ≠ low) :
    (w.disband low r).groups.find? i = w.groups.find? i := by
  unfold disband
  split_ifs <;> exact OrdMap.find?_erase_ne hi

theorem step_other {request : GroupRequest} {i : Nat} (hi : i ≠ w.lowOf request) :
    (w.step request).groups.find? i = w.groups.find? i := by
  cases request with
  | create leader bg bf dungeonDifficulty raidDifficulty =>
    have hset : ∀ r, (w.groups.set w.nextGroupId r).find? i = w.groups.find? i :=
      fun r => OrdMap.find?_set_ne hi
    show (w.create leader bg bf dungeonDifficulty raidDifficulty).groups.find? i = _
    unfold create
    split
    · split
      · rfl
      · exact hset _
    · dsimp only
      split
      · exact hset _
      · rfl
  | group low op =>
    have hi : i ≠ low := hi
    simp only [step]
    cases w.groups.find? low with
    | none => rfl
    | some r =>
      cases op with
      | addMember guid =>
        unfold apply addMember
        dsimp only
        split
        · exact perform_other hi
        · rfl
      | removeMember guid kick online lfgOutside =>
        unfold apply removeMember
        dsimp only
        split
        · rfl
        · split_ifs <;> exact perform_other hi
        · split_ifs <;> exact disband_other hi
      | changeLeader guid online =>
        unfold apply changeLeader
        dsimp only
        split_ifs
        · exact perform_other hi
        · rfl
      | disband => exact disband_other hi
      | convertToGroup =>
        unfold apply convertToGroup
        dsimp only
        split_ifs
        · rfl
        · exact perform_other hi
        · exact perform_other hi
      | setGroupMemberFlag guid flagged flag =>
        unfold apply setGroupMemberFlag
        dsimp only
        split_ifs
        · rfl
        · rfl
        · rfl
        · exact perform_other hi
      | setRoles guid roles =>
        unfold apply setRoles
        dsimp only
        split_ifs
        · exact perform_other hi
        · rfl
      | _ => exact perform_other hi

theorem Persisted.others (h : Persisted w) {request : GroupRequest}
    (h' : Persisted (w.step request)) : w.OthersKept (w.lowOf request) (w.step request) := by
  intro i x hx hi hs
  have hx' := (step_other hi).trans hx
  have hid := storeId_of_stored hs
  refine ⟨(h'.groupRow_at hx' hid).trans (h.groupRow_at hx hid).symm, fun guid hmem => ?_⟩
  exact (h'.memberRow_at hx' hs hmem).trans (h.memberRow_at hx hs hmem).symm

/-- After every run of requests whose statements write what they change, the rows are those of the
groups, and the next such request leaves the rows of the other groups as they are. -/
theorem groups_persisted {requests : List GroupRequest} (hrun : Run step Written {} requests w) :
    w.RowsHold ∧ ∀ request, w.Written request →
      (w.step request).RowsHold ∧ w.OthersKept (w.lowOf request) (w.step request) := by
  have h : Persisted w :=
    hrun.invariant (fun s request hs hwritten => Persisted.step hs hwritten) persisted_empty
  refine ⟨⟨h.groupRows, h.memberRows⟩, fun request hwritten => ?_⟩
  have h' := h.step hwritten
  exact ⟨⟨h'.groupRows, h'.memberRows⟩, h.others h'⟩

instance (w : GroupStore) (guid : Nat) : Decidable (w.Free guid) := by
  unfold Free
  infer_instance

instance (w : GroupStore) (low : Nat) (r : GroupRecord) : DecidablePred (w.WrittenBy low r)
  | .addMember .. | .removeMember .. | .convertToLFG | .convertToGroup | .setGroupMemberFlag ..
  | .setLootMethod .. | .setLooterGuid .. | .setLootThreshold .. | .setRoles .. => by
    unfold WrittenBy
    infer_instance
  | .changeLeader .. | .disband | .convertToRaid | .changeSubGroup .. | .setDungeonDifficulty ..
  | .setRaidDifficulty .. => .isTrue trivial

instance (w : GroupStore) : DecidablePred w.Written
  | .create .. => by
    unfold Written
    infer_instance
  | .group low op => by
    unfold Written
    dsimp only
    split <;> infer_instance

def raidRequests : List GroupRequest :=
  [.create 1 false false 0 0, .group 1 (.addMember 2), .group 1 (.addMember 3),
    .group 1 .convertToRaid, .group 1 (.changeSubGroup true 3 1),
    .group 1 (.changeLeader 2 fun _ => true), .group 1 (.setRaidDifficulty 1)]

theorem groups_persisted_raid :
    (raidRequests.foldl step {}).RowsHold ∧
      ((raidRequests.foldl step {}).tables.members.find? 3).map StoredMemberRow.subgroup =
        some 1 ∧
      ((raidRequests.foldl step {}).step (.group 1 .disband)).RowsHold := by
  have hrun : Run step Written {} raidRequests (raidRequests.foldl step {}) :=
    Admitted.run (by decide +kernel)
  obtain ⟨hrows, hnext⟩ := groups_persisted hrun
  exact ⟨hrows, by decide +kernel, (hnext (.group 1 .disband) trivial).1⟩

/-- The first group of the server is a battleground raid.  The next one has the low guid 2 and the
store id 1: as a raid it becomes a group again, and its row does not. -/
def bgRaidRequests : List GroupRequest :=
  [.create 9 true false 0 0, .create 1 false false 0 0, .group 2 (.addMember 2),
    .group 2 .convertToRaid, .group 2 .convertToGroup]

theorem groups_persisted_convertToGroup :
    ¬ ∀ requests : List GroupRequest, (requests.foldl step {}).RowsHold := by
  intro h
  have hrow : ∃ r row, (bgRaidRequests.foldl step {}).groups.find? 2 = some r ∧
      r.group.storeId = some 1 ∧ (bgRaidRequests.foldl step {}).tables.groups.find? 1 = some row ∧
      row.groupType ≠ r.group.groupType := by
    refine ⟨_, _, rfl, by decide +kernel, rfl, by decide +kernel⟩
  obtain ⟨r, row, hr, hid, hrow, htype⟩ := hrow
  have hhold := ((h bgRaidRequests).1 1 r.row).mpr ⟨2, r, hr, hid, rfl⟩
  rw [hrow] at hhold
  cases hhold
  exact htype rfl

end GroupStore

end SkyfireBG
