import SkyfireBG.Loot.Step

/-!
# SkyfireBG.Group.RollStep

What one step of the loot system can do to the rolls of the group.

* `rollItems_mem`     — every roll opened for a loot, and the item it is for.
* `dropVoterLoop_eq`  — the loop of `RemoveMember` only takes the player out of each roll: its call
  of `CountRollVote` finds no entry of the player any more and returns.
* `countRollVote_cases` — `CountRollVote` does nothing, records a vote, or closes the roll.
* `roll_step`         — where each roll after a step comes from.
-/

namespace SkyfireBG

/-! ## Opening -/

inductive RollTouched (item : LootItem) : LootItem → Prop where
  | same : RollTouched item item
  | blocked : RollTouched item { item with isBlocked := true }
  | under : RollTouched item { item with isUnderthreshold := true }

/-- The test of the loops that fill `playerVote`. -/
def entitled (store : TemplateStore) (info : Nat → RollMember) (item : LootItem) (g : Nat) : Bool :=
  (info g).hasSession && item.allowedForPlayer store (info g).looter && (info g).near

/-- The item gets a roll: it is not one for each player, its quality is high enough and somebody may
roll for it. -/
def getsRoll (store : TemplateStore) (g : Group) (info : Nat → RollMember) (item : LootItem) : Bool :=
  !item.freeforall &&
    (store item.itemid).any (fun proto => decide (proto.quality ≥ g.lootThreshold)) &&
    g.memberMgr.any (entitled store info item)

section Opening

variable {store : TemplateStore} {g : Group} {info : Nat → RollMember} {mask : ItemTemplate → Nat}
  {l : Nat} {item : LootItem}

theorem enlist_none {ms : List Nat} {r : Roll} (h : ∀ g ∈ ms, entitled store info item g = false) :
    ms.foldl (Roll.enlist store item info) r = r := by
  induction ms generalizing r with
  | nil => rfl
  | cons g ms ih =>
    have hg := h g (.head _)
    simp only [entitled] at hg
    rw [List.foldl_cons, ih (fun g' hg' => h g' (.tail _ hg'))]
    simp only [Roll.enlist, hg, Bool.false_eq_true, if_false]

theorem entitled_of_players {ms : List Nat} {guid : Nat}
    (h : 0 < (openRoll store ms info guid item).totalPlayersRolling) :
    ∃ g ∈ ms, entitled store info item g = true := by
  by_contra hc
  have hall : ∀ g ∈ ms, entitled store info item g = false := by
    intro g hg
    cases he : entitled store info item g with
    | false => rfl
    | true => exact absurd ⟨g, hg, he⟩ hc
  rw [openRoll, enlist_none hall] at h
  exact absurd (show (0 : UInt8) < 0 from h) (by decide)

/-- `r` is the roll opened for `item`, in slot `slot` of loot `l`. -/
structure OpenedFor (store : TemplateStore) (g : Group) (info : Nat → RollMember) (l : Nat)
    (slot : Nat) (item : LootItem) (r : Roll) : Prop where
  votes : r.playerVote = (openRoll store g.memberMgr info r.itemGUID item).playerVote
  players : r.totalPlayersRolling =
    (openRoll store g.memberMgr info r.itemGUID item).totalPlayersRolling
  need : r.totalNeed = (openRoll store g.memberMgr info r.itemGUID item).totalNeed
  greed : r.totalGreed = (openRoll store g.memberMgr info r.itemGUID item).totalGreed
  pass : r.totalPass = (openRoll store g.memberMgr info r.itemGUID item).totalPass
  loot : r.loot = some l
  slot : r.itemSlot = slot
  ordinary : item.freeforall = false
  getsRoll : getsRoll store g info item = true
  some_player : 0 < r.totalPlayersRolling

theorem enlist_itemGUID {item : LootItem} {ms : List Nat} {r : Roll} :
    (ms.foldl (Roll.enlist store item info) r).itemGUID = r.itemGUID := by
  induction ms generalizing r with
  | nil => rfl
  | cons m ms ih =>
    rw [List.foldl_cons, ih]
    simp only [Roll.enlist]
    split
    · split <;> rfl
    · rfl

theorem rollItem_next (slot guid : Nat) (item : LootItem) :
    guid ≤ (rollItem store g info mask l slot guid item).2.2 := by
  simp only [rollItem]
  split
  · exact Nat.le_refl _
  · split
    · exact Nat.le_refl _
    · split
      · split <;> exact Nat.le_succ _
      · exact Nat.le_refl _

theorem rollItem_roll {slot guid : Nat} {item : LootItem} {r : Roll}
    (h : (rollItem store g info mask l slot guid item).2.1 = some r) :
    OpenedFor store g info l slot item r ∧ r.itemGUID = guid ∧
      (rollItem store g info mask l slot guid item).1 = { item with isBlocked := true } ∧
      (rollItem store g info mask l slot guid item).2.2 = guid + 1 := by
  have hg : (openRoll store g.memberMgr info guid item).itemGUID = guid := enlist_itemGUID
  simp only [rollItem] at h ⊢
  split at h
  · cases h
  · rename_i hf
    split at h
    · cases h
    · split at h
      · split at h
        · rename_i proto hproto hq hp
          cases h
          rw [if_neg hf, if_pos hq, if_pos hp]
          obtain ⟨m, hm, he⟩ := entitled_of_players hp
          have hrolls : getsRoll store g info item = true := by
            simp only [getsRoll, hproto, Option.any_some, hq, decide_true, Bool.and_true,
              Bool.and_eq_true, List.any_eq_true]
            exact ⟨by simpa using hf, m, hm, he⟩
          refine ⟨⟨?_, ?_, ?_, ?_, ?_, rfl, rfl, by simpa using hf, hrolls, hp⟩, hg, rfl, rfl⟩ <;>
            simp only [hg]
        · cases h
      · cases h

theorem rollItem_item (slot guid : Nat) (item : LootItem) :
    RollTouched item (rollItem store g info mask l slot guid item).1 := by
  simp only [rollItem]
  split
  · exact .same
  · split
    · exact .same
    · split
      · split
        · exact .blocked
        · exact .same
      · exact .under

theorem rollItems_next (slot guid : Nat) (items : List LootItem) :
    guid ≤ (rollItems store g info mask l slot guid items).2.2 := by
  induction items generalizing slot guid with
  | nil => exact Nat.le_refl _
  | cons item rest ih => exact Nat.le_trans (rollItem_next slot guid item) (ih _ _)

theorem rollItems_mem {slot guid : Nat} {items : List LootItem} {r : Roll}
    (h : r ∈ (rollItems store g info mask l slot guid items).2.1) :
    (∃ k item, items[k]? = some item ∧ OpenedFor store g info l (slot + k) item r) ∧
      guid ≤ r.itemGUID ∧ r.itemGUID < (rollItems store g info mask l slot guid items).2.2 := by
  induction items generalizing slot guid with
  | nil => simp [rollItems] at h
  | cons item rest ih =>
    rcases List.mem_append.mp h with h | h
    · have hr := Option.mem_toList.mp h
      obtain ⟨ho, hg, _, hn⟩ := rollItem_roll hr
      refine ⟨⟨0, item, rfl, ho⟩, Nat.le_of_eq hg.symm, ?_⟩
      calc r.itemGUID < (rollItem store g info mask l slot guid item).2.2 := by omega
        _ ≤ _ := rollItems_next (slot + 1) _ rest
    · obtain ⟨⟨k, x, hk, ho⟩, h1, h2⟩ := ih h
      refine ⟨⟨k + 1, x, by simpa using hk, ?_⟩, Nat.le_trans (rollItem_next _ _ _) h1, h2⟩
      rwa [Nat.add_assoc, Nat.add_comm 1 k] at ho

/-- The rolls opened for one loot have different item guids. -/
theorem rollItems_guids (store : TemplateStore) (g : Group) (info : Nat → RollMember)
    (mask : ItemTemplate → Nat) (l slot guid : Nat) (items : List LootItem) :
    ((rollItems store g info mask l slot guid items).2.1.map Roll.itemGUID).Nodup := by
  induction items generalizing slot guid with
  | nil => simp [rollItems]
  | cons item rest ih =>
    simp only [rollItems, List.map_append]
    refine List.nodup_append.mpr ⟨?_, ih _ _, ?_⟩
    · cases (rollItem store g info mask l slot guid item).2.1 <;> simp
    · intro a ha b hb
      obtain ⟨r, hr, rfl⟩ := List.mem_map.mp ha
      obtain ⟨r', hr', rfl⟩ := List.mem_map.mp hb
      obtain ⟨_, hg, _, hn⟩ := rollItem_roll (Option.mem_toList.mp hr)
      have hlt : guid + 1 ≤ r'.itemGUID := Nat.le_trans (Nat.le_of_eq hn.symm) (rollItems_mem hr').2.1
      omega

end Opening

namespace LootWorld

variable {w : LootWorld} {guid p choice k l : Nat} {env : RollEnv} {r : Roll}

theorem getRoll_some (h : w.getRoll guid = some k) :
    ∃ r l, w.group.rollId[k]? = some r ∧ r.itemGUID = guid ∧ r.loot = some l := by
  obtain ⟨hk, hp, _⟩ := List.findIdx?_eq_some_iff_getElem.mp h
  simp only [Bool.and_eq_true, beq_iff_eq, Roll.isValid, Option.isSome_iff_exists] at hp
  obtain ⟨hg, l, hl⟩ := hp
  exact ⟨_, l, List.getElem?_eq_getElem hk, hg, hl⟩

@[simp] theorem settle_group {res : RollResult} {slot : Nat} :
    (w.settle l slot res).group = w.group := by
  cases res <;> rfl

theorem countTheRoll_eq (env : RollEnv) (hk : w.group.rollId[k]? = some r) (hl : r.loot = some l) :
    w.countTheRoll k env =
      (w.settle l r.itemSlot (r.result env)).setRolls (w.group.rollId.eraseIdx k) := by
  simp only [countTheRoll, hk, hl]

theorem settle_setRolls {res : RollResult} {slot : Nat} {rolls rolls' : List Roll} :
    ((w.setRolls rolls).settle l slot res).setRolls rolls' =
      (w.settle l slot res).setRolls rolls' := by
  cases res <;> rfl

@[simp] theorem cast_itemGUID : (r.cast p choice).itemGUID = r.itemGUID := by
  simp only [Roll.cast]; split_ifs <;> rfl

@[simp] theorem cast_loot : (r.cast p choice).loot = r.loot := by
  simp only [Roll.cast]; split_ifs <;> rfl

@[simp] theorem cast_itemSlot : (r.cast p choice).itemSlot = r.itemSlot := by
  simp only [Roll.cast]; split_ifs <;> rfl

/-- What a vote does when it reaches a roll: the roll at `k` is open and has the voter. -/
structure Voted (w : LootWorld) (p guid choice : Nat) (env : RollEnv) (k : Nat) (r : Roll)
    (l : Nat) (w' : LootWorld) : Prop where
  at_k : w.group.rollId[k]? = some r
  item : r.itemGUID = guid
  loot : r.loot = some l
  voter : (r.playerVote.find? p).isSome
  stocked : (w.loots l).items ≠ []
  step : w' = if (r.cast p choice).allCounted then
      (w.settle l r.itemSlot ((r.cast p choice).result env)).setRolls (w.group.rollId.eraseIdx k)
    else w.setRolls (w.group.rollId.set k (r.cast p choice))

/-- `CountRollVote` changes nothing, or the vote reaches the roll it names. -/
theorem countRollVote_cases (w : LootWorld) (p guid choice : Nat) (env : RollEnv) :
    w.countRollVote p guid choice env = w ∨
      ∃ k r l, Voted w p guid choice env k r l (w.countRollVote p guid choice env) := by
  cases hg : w.getRoll guid with
  | none => exact .inl (by simp only [countRollVote, hg])
  | some k =>
    obtain ⟨r, l, hk, hr, hl⟩ := getRoll_some hg
    simp only [countRollVote, hg, hk, hl]
    by_cases hp : (r.playerVote.find? p).isNone
    · exact .inl (by rw [if_pos hp])
    · by_cases hs : (w.loots l).items.isEmpty
      · exact .inl (by rw [if_neg hp, if_pos hs])
      · refine .inr ⟨k, r, l, hk, hr, hl, ?_, by simpa using hs, ?_⟩
        · simpa [Option.isNone_iff_eq_none, Option.isSome_iff_ne_none] using hp
        · rw [if_neg hp, if_neg hs]
          by_cases hc : (r.cast p choice).allCounted
          · rw [if_pos hc, if_pos hc]
            have hlt : k < w.group.rollId.length := (List.getElem?_eq_some_iff.mp hk).1
            rw [countTheRoll_eq (r := r.cast p choice) (l := l) env (by simp [hlt]) (by simp [hl])]
            rw [settle_setRolls]
            simp [List.eraseIdx_set_eq]
          · rw [if_neg hc, if_neg hc]

/-- A vote of a player who has no part in the roll does nothing. -/
theorem countRollVote_absent
    (h : ∀ r ∈ w.group.rollId, r.itemGUID = guid → r.playerVote.find? p = none) :
    w.countRollVote p guid choice env = w := by
  rcases countRollVote_cases w p guid choice env with h' | ⟨k, r, l, hv⟩
  · exact h'
  · have hn := h r (List.mem_of_getElem? hv.at_k) hv.item
    exact absurd hv.voter (by simp [hn])

@[simp] theorem dropVoter_itemGUID : (r.dropVoter guid).itemGUID = r.itemGUID := by
  simp only [Roll.dropVoter]; split <;> rfl

@[simp] theorem dropVoter_loot : (r.dropVoter guid).loot = r.loot := by
  simp only [Roll.dropVoter]; split <;> rfl

@[simp] theorem dropVoter_itemSlot : (r.dropVoter guid).itemSlot = r.itemSlot := by
  simp only [Roll.dropVoter]; split <;> rfl

theorem dropVoter_of_none (h : r.playerVote.find? guid = none) : r.dropVoter guid = r := by
  simp only [Roll.dropVoter, h]

theorem dropVoter_find? : (r.dropVoter guid).playerVote.find? guid = none := by
  simp only [Roll.dropVoter]
  split
  · assumption
  · exact OrdMap.find?_erase_same

theorem setRolls_setRolls {rolls rolls' : List Roll} :
    (w.setRolls rolls).setRolls rolls' = w.setRolls rolls' := rfl

theorem setRolls_self : w.setRolls w.group.rollId = w := rfl

theorem itemGUID_inj {rolls : List Roll} (hnd : (rolls.map Roll.itemGUID).Nodup) {j k : Nat}
    {r r' : Roll} (hj : rolls[j]? = some r) (hk : rolls[k]? = some r')
    (h : r.itemGUID = r'.itemGUID) : j = k := by
  obtain ⟨hj', rfl⟩ := List.getElem?_eq_some_iff.mp hj
  obtain ⟨hk', rfl⟩ := List.getElem?_eq_some_iff.mp hk
  exact (@List.Nodup.getElem_inj_iff _ _ hnd j (by simpa using hj') k (by simpa using hk')).mp
    (by simpa using h)

/-- Once the entry is gone, the vote `RemoveMember` counts for the player is ignored. -/
theorem countRollVote_dropped {r : Roll} (hnd : (w.group.rollId.map Roll.itemGUID).Nodup)
    (hk : w.group.rollId[k]? = some r) :
    (w.setRolls (w.group.rollId.set k (r.dropVoter guid))).countRollVote guid r.itemGUID choice
      env = w.setRolls (w.group.rollId.set k (r.dropVoter guid)) := by
  apply countRollVote_absent
  intro r' hr hg
  obtain ⟨j, hj⟩ := List.mem_iff_getElem?.mp hr
  simp only [setRolls_rollId] at hj
  by_cases hjk : k = j
  · subst hjk
    rw [List.getElem?_set_self (List.getElem?_eq_some_iff.mp hk).1] at hj
    cases hj
    exact dropVoter_find?
  · rw [List.getElem?_set_ne hjk] at hj
    exact absurd (itemGUID_inj hnd hk hj hg.symm) hjk

/-- The loop of `RemoveMember` drops the voter from every roll and counts none of them. -/
theorem dropVoterLoop_eq (guid : Nat) (env : Nat → RollEnv) {n : Nat}
    (hnd : (w.group.rollId.map Roll.itemGUID).Nodup) (hn : k + n = w.group.rollId.length) :
    dropVoterLoop guid env n k w = w.setRolls
      (w.group.rollId.take k ++ (w.group.rollId.map (fun r => r.dropVoter guid)).drop k) := by
  induction n generalizing k w with
  | zero =>
    have : w.group.rollId.length ≤ k := by omega
    simp [dropVoterLoop, List.take_of_length_le this, List.drop_of_length_le, this, setRolls_self]
  | succ n ih =>
    have hk : k < w.group.rollId.length := by omega
    have hget : w.group.rollId[k]? = some w.group.rollId[k] := List.getElem?_eq_getElem hk
    have htake : w.group.rollId.take (k + 1) = w.group.rollId.take k ++ [w.group.rollId[k]] := by
      rw [List.take_add_one, hget]; rfl
    have hdrop : (w.group.rollId.map (fun r => r.dropVoter guid)).drop k =
        w.group.rollId[k].dropVoter guid ::
          (w.group.rollId.map (fun r => r.dropVoter guid)).drop (k + 1) := by
      rw [List.drop_eq_getElem_cons (by simpa using hk), List.getElem_map]
    simp only [dropVoterLoop, hget]
    by_cases hp : (w.group.rollId[k].playerVote.find? guid).isNone
    · rw [if_pos hp, ih hnd (by omega), htake, hdrop,
        dropVoter_of_none (Option.isNone_iff_eq_none.mp hp), List.append_assoc,
        List.singleton_append]
    · rw [if_neg hp, countRollVote_dropped hnd hget, ih]
      · simp only [setRolls_rollId, setRolls_setRolls, List.map_set]
        rw [hdrop, List.drop_set_of_lt (by omega), List.take_add_one,
          List.getElem?_set_self hk, List.take_set_of_le (Nat.le_refl k)]
        simp
      · have hset : (w.group.rollId.map Roll.itemGUID).set k w.group.rollId[k].itemGUID =
            w.group.rollId.map Roll.itemGUID := by
          rw [← List.map_set, List.set_getElem_self]
        simpa only [setRolls_rollId, List.map_set, dropVoter_itemGUID, hset] using hnd
      · simpa using by omega

@[simp] theorem setLoot_nextItemGuid {loot : Loot} :
    (w.setLoot l loot).nextItemGuid = w.nextItemGuid := rfl

@[simp] theorem setRolls_memberMgr {rolls : List Roll} :
    (w.setRolls rolls).group.memberMgr = w.group.memberMgr := rfl

@[simp] theorem setRolls_nextItemGuid {rolls : List Roll} :
    (w.setRolls rolls).nextItemGuid = w.nextItemGuid := rfl

@[simp] theorem settle_nextItemGuid {res : RollResult} {slot : Nat} :
    (w.settle l slot res).nextItemGuid = w.nextItemGuid := by
  cases res <;> rfl

@[simp] theorem storeLootItem_group {slot : Nat} {b : Bool} :
    (w.storeLootItem l slot guid b).group = w.group := by
  simp only [storeLootItem]
  split
  · rfl
  · split <;> rfl

@[simp] theorem storeLootItem_nextItemGuid {slot : Nat} {b : Bool} :
    (w.storeLootItem l slot guid b).nextItemGuid = w.nextItemGuid := by
  simp only [storeLootItem]
  split
  · rfl
  · split <;> rfl

theorem masterGive_frame {slot giver target : Nat} {b : Bool} {w' : LootWorld}
    (h : w.handleLootMasterGive l slot giver target b = some w') :
    w'.group = w.group ∧ w'.nextItemGuid = w.nextItemGuid := by
  simp only [handleLootMasterGive] at h
  split at h
  · cases h; exact ⟨rfl, rfl⟩
  · split at h
    · cases h; exact ⟨rfl, rfl⟩
    · split at h
      · cases h
      · split at h <;> cases h <;> exact ⟨rfl, rfl⟩

theorem fillNotNormalLootFor_frame (store : TemplateStore) (l : Nat) (w : LootWorld)
    (q : FillLooter) : (fillNotNormalLootFor store l w q).group = w.group ∧
      (fillNotNormalLootFor store l w q).nextItemGuid = w.nextItemGuid := by
  have loop : ∀ (is : List Nat) (v : LootWorld),
      (is.foldl (fun w i => if (w.loots l).autoStored store q.looter i then
        w.storeLootItem l i q.looter.guid (q.canStore i) else w) v).group = v.group ∧
      (is.foldl (fun w i => if (w.loots l).autoStored store q.looter i then
        w.storeLootItem l i q.looter.guid (q.canStore i) else w) v).nextItemGuid =
          v.nextItemGuid := by
    intro is
    induction is with
    | nil => intro v; exact ⟨rfl, rfl⟩
    | cons i is ih =>
      intro v
      rw [List.foldl_cons]
      split
      · simpa using ih (v.storeLootItem l i q.looter.guid (q.canStore i))
      · exact ih v
  simp only [fillNotNormalLootFor]
  split
  · exact ⟨rfl, rfl⟩
  · exact loop _ _

theorem fillAll_frame (store : TemplateStore) (l : Nat) (qs : List FillLooter) (v : LootWorld) :
    (qs.foldl (fillNotNormalLootFor store l) v).group = v.group ∧
      (qs.foldl (fillNotNormalLootFor store l) v).nextItemGuid = v.nextItemGuid := by
  induction qs generalizing v with
  | nil => exact ⟨rfl, rfl⟩
  | cons q qs ih =>
    obtain ⟨h1, h2⟩ := ih (fillNotNormalLootFor store l v q)
    obtain ⟨h3, h4⟩ := fillNotNormalLootFor_frame store l v q
    exact ⟨h1.trans h3, h2.trans h4⟩

theorem fillLoot_frame (w : LootWorld) (store : TemplateStore) (l gold : Nat)
    (drops : List (LootStoreItem × LootDraw)) (owner : Option Nat) (looters : List FillLooter) :
    (w.fillLoot store l gold drops owner looters).group = (w.clearLoot l).group ∧
      (w.fillLoot store l gold drops owner looters).nextItemGuid = w.nextItemGuid := by
  cases owner with
  | none =>
    obtain ⟨h1, h2⟩ := fillAll_frame store l looters
      ((w.clearLoot l).setLoot l { drops.foldl (Loot.addItem store) Loot.clear with gold := gold })
    exact ⟨h1, h2⟩
  | some guid =>
    simp only [fillLoot, setLoot_group, setLoot_nextItemGuid]
    obtain ⟨h1, h2⟩ := fillAll_frame store l looters
      (((w.clearLoot l).setLoot l
        { drops.foldl (Loot.addItem store) Loot.clear with gold := gold }).setLoot l
        { ((w.clearLoot l).setLoot l
            { drops.foldl (Loot.addItem store) Loot.clear with gold := gold }).loots l with
          roundRobinPlayer := guid })
    exact ⟨h1, h2⟩

theorem countTheRoll_sublist :
    ((w.countTheRoll k env).group.rollId).Sublist w.group.rollId := by
  simp only [countTheRoll]
  split
  · exact List.Sublist.refl _
  · split <;> exact List.eraseIdx_sublist _ _

theorem countTheRoll_frame (w : LootWorld) (k : Nat) (env : RollEnv) :
    (w.countTheRoll k env).group.memberMgr = w.group.memberMgr ∧
      (w.countTheRoll k env).nextItemGuid = w.nextItemGuid := by
  simp only [countTheRoll]
  split
  · exact ⟨rfl, rfl⟩
  · split <;> simp

theorem endRollLoop_sublist (w : LootWorld) (l : Nat) (env : Nat → RollEnv) (n : Nat) :
    ((endRollLoop l env n w).group.rollId).Sublist w.group.rollId ∧
      (endRollLoop l env n w).group.memberMgr = w.group.memberMgr ∧
      (endRollLoop l env n w).nextItemGuid = w.nextItemGuid := by
  induction n generalizing w with
  | zero => exact ⟨List.Sublist.refl _, rfl, rfl⟩
  | succ n ih =>
    simp only [endRollLoop]
    split
    · exact ⟨List.Sublist.refl _, rfl, rfl⟩
    · split
      · exact ⟨List.Sublist.refl _, rfl, rfl⟩
      · rename_i k _ _ r _
        obtain ⟨h1, h2, h3⟩ := ih (w.countTheRoll k (env r.itemGUID))
        obtain ⟨h4, h5⟩ := countTheRoll_frame w k (env r.itemGUID)
        exact ⟨h1.trans countTheRoll_sublist, h2.trans h4, h3.trans h5⟩

end LootWorld

/-! ## The step -/

/-- The members are linked once, and every roll has a guid of its own, below the next one. -/
structure RollsWF (w : LootWorld) : Prop where
  linked : w.group.memberMgr.Nodup
  guids : (w.group.rollId.map Roll.itemGUID).Nodup
  fresh : ∀ r ∈ w.group.rollId, r.itemGUID < w.nextItemGuid

/-- Where a roll after the step `e` comes from. -/
inductive RollFrom (store : TemplateStore) (w : LootWorld) : LootEvent → Roll → Prop where
  | kept {e : LootEvent} {r : Roll} : r ∈ w.group.rollId → RollFrom store w e r
  | cleared {e : LootEvent} {r : Roll} : r ∈ w.group.rollId →
      RollFrom store w e { r with loot := none }
  | voted {p choice k l : Nat} {env : RollEnv} {r : Roll} : w.group.rollId[k]? = some r →
      r.loot = some l → (r.playerVote.find? p).isSome → (r.cast p choice).allCounted = false →
      RollFrom store w (.vote p r.itemGUID choice env) (r.cast p choice)
  | left {guid : Nat} {kick lfgOutside : Bool} {online : Nat → Bool} {env : Nat → RollEnv}
      {r : Roll} : r ∈ w.group.rollId →
      RollFrom store w (.removeMember guid kick online lfgOutside env) (r.dropVoter guid)
  | opened {e : LootEvent} {l slot : Nat} {info : Nat → RollMember} {item : LootItem} {r : Roll} :
      e = .groupLoot l info ∨ e = .needBeforeGreed l info →
      (w.loots l).items[slot]? = some item → OpenedFor store w.group info l slot item r →
      RollFrom store w e r

namespace LootWorld

variable {w : LootWorld} {store : TemplateStore}

theorem openRolls_mem {mask : ItemTemplate → Nat} {l : Nat} {info : Nat → RollMember} {r : Roll}
    (h : r ∈ (w.openRolls store mask l info).group.rollId) :
    r ∈ w.group.rollId ∨ r ∈ (rollItems store w.group info mask l 0 w.nextItemGuid
      (w.loots l).items).2.1 :=
  List.mem_append.mp h

theorem openRolls_from {mask : ItemTemplate → Nat} {l : Nat} {info : Nat → RollMember} {r : Roll}
    {e : LootEvent} (he : e = .groupLoot l info ∨ e = .needBeforeGreed l info)
    (h : r ∈ (w.openRolls store mask l info).group.rollId) : RollFrom store w e r := by
  rcases openRolls_mem h with h | h
  · exact .kept h
  · obtain ⟨⟨k, item, hk, ho⟩, _⟩ := rollItems_mem h
    rw [Nat.zero_add] at ho
    exact .opened he hk ho

/-- Opened rolls keep the roll list well formed. -/
theorem openRolls_wf {mask : ItemTemplate → Nat} {l : Nat} {info : Nat → RollMember}
    (hw : RollsWF w) : RollsWF (w.openRolls store mask l info) where
  linked := hw.linked
  guids := by
    have hnew := rollItems_guids store w.group info mask l 0 w.nextItemGuid (w.loots l).items
    show ((w.group.rollId ++ _).map Roll.itemGUID).Nodup
    rw [List.map_append]
    refine List.nodup_append.mpr ⟨hw.guids, hnew, ?_⟩
    intro a ha b hb
    obtain ⟨r, hr, rfl⟩ := List.mem_map.mp ha
    obtain ⟨r', hr', rfl⟩ := List.mem_map.mp hb
    have h1 := hw.fresh r hr
    have h2 := (rollItems_mem hr').2.1
    omega
  fresh := by
    intro r hr
    rcases openRolls_mem hr with hr | hr
    · exact Nat.lt_of_lt_of_le (hw.fresh r hr) (rollItems_next _ _ _)
    · exact (rollItems_mem hr).2.2

end LootWorld

theorem RollsWF.sublist {w w' : LootWorld} (hw : RollsWF w)
    (h : w'.group.rollId.Sublist w.group.rollId) (hm : w'.group.memberMgr = w.group.memberMgr)
    (hn : w'.nextItemGuid = w.nextItemGuid) : RollsWF w' where
  linked := hm ▸ hw.linked
  guids := hw.guids.sublist (h.map _)
  fresh := fun r hr => hn ▸ hw.fresh r (h.subset hr)

theorem RollsWF.map {w w' : LootWorld} {f : Roll → Roll} (hw : RollsWF w)
    (h : w'.group.rollId = w.group.rollId.map f) (hf : ∀ r, (f r).itemGUID = r.itemGUID)
    (hm : w'.group.memberMgr.Nodup) (hn : w'.nextItemGuid = w.nextItemGuid) : RollsWF w' where
  linked := hm
  guids := by
    have : (Roll.itemGUID ∘ f) = Roll.itemGUID := funext hf
    rw [h, List.map_map, this]
    exact hw.guids
  fresh := by
    intro r hr
    rw [h] at hr
    obtain ⟨r', hr', rfl⟩ := List.mem_map.mp hr
    rw [hf, hn]
    exact hw.fresh r' hr'

theorem linkMember_nodup {g : Group} {guid : Nat} (h : g.memberMgr.Nodup) :
    (g.linkMember guid).memberMgr.Nodup := by
  refine List.nodup_cons.mpr ⟨?_, h.erase guid⟩
  intro hm
  exact absurd rfl (h.mem_erase_iff.mp hm).1

theorem addMember_frame {g g' : Group} {guid : Nat} (h : g.addMember guid = some g') :
    g'.memberMgr = guid :: g.memberMgr.erase guid ∧ g'.rollId = g.rollId := by
  simp only [Group.addMember] at h
  split at h
  · cases h
  · cases h; exact ⟨rfl, rfl⟩

theorem dropSlot_memberMgr {g : Group} {guid : Nat} :
    (g.dropSlot guid).memberMgr = g.memberMgr := by
  simp only [Group.dropSlot]; split <;> rfl

theorem nextLeader_memberMgr {g : Group} {guid : Nat} {online : Nat → Bool} :
    (g.nextLeader guid online).memberMgr = g.memberMgr := by
  simp only [Group.nextLeader]
  split
  · split <;> rfl
  · rfl

theorem removeMember_memberMgr {g g' : Group} {guid : Nat} {kick lfgOutside : Bool}
    {online : Nat → Bool} (h : g.removeMember guid kick online lfgOutside = .removed g') :
    g'.memberMgr = g.memberMgr.erase guid := by
  have hg : (((g.delinkMember guid).dropSlot guid).nextLeader guid online).memberMgr =
      g.memberMgr.erase guid := by
    rw [nextLeader_memberMgr, dropSlot_memberMgr]; rfl
  simp only [Group.removeMember] at h
  split_ifs at h <;> cases h <;> exact hg

namespace LootWorld

variable {w : LootWorld} {store : TemplateStore}

/-- The rolls after `RemoveMember`: none, the ones before, or those with the player taken out. -/
theorem removeMember_rolls (hw : RollsWF w) (guid : Nat) (kick : Bool) (online : Nat → Bool)
    (lfgOutside : Bool) (env : Nat → RollEnv) :
    (w.removeMember guid kick online lfgOutside env).nextItemGuid = w.nextItemGuid ∧
    (w.removeMember guid kick online lfgOutside env).loots = w.loots ∧
    ((w.group.removeMember guid kick online lfgOutside = .refused ∧
        w.removeMember guid kick online lfgOutside env = w) ∨
      (w.group.removeMember guid kick online lfgOutside = .disbanded ∧
        (w.removeMember guid kick online lfgOutside env).group.rollId = [] ∧
        (w.removeMember guid kick online lfgOutside env).group.memberMgr = []) ∨
      ((∃ g, w.group.removeMember guid kick online lfgOutside = .removed g) ∧
        (w.removeMember guid kick online lfgOutside env).group.rollId =
          w.group.rollId.map (fun r => r.dropVoter guid) ∧
        (w.removeMember guid kick online lfgOutside env).group.memberMgr =
          w.group.memberMgr.erase guid)) := by
  have hloop := dropVoterLoop_eq (k := 0) guid env hw.guids (Nat.zero_add _)
  simp only [List.take_zero, List.drop_zero, List.nil_append] at hloop
  cases hr : w.group.removeMember guid kick online lfgOutside with
  | refused => simp [removeMember, hr]
  | disbanded =>
    by_cases hc : w.group.getMembersCount > w.group.minMembers
    · simp [removeMember, hr, hc, hloop, setGroup, Group.disband]
    · simp [removeMember, hr, hc, setGroup, Group.disband]
  | removed g =>
    have hm := removeMember_memberMgr hr
    simp [removeMember, hr, hloop, setGroup, hm]

theorem clearLoot_rollId {l : Nat} : (w.clearLoot l).group.rollId =
    w.group.rollId.map (fun r => if r.loot = some l then { r with loot := none } else r) := rfl

theorem clearLoot_from {e : LootEvent} {l : Nat} {r : Roll}
    (h : r ∈ (w.clearLoot l).group.rollId) : RollFrom store w e r := by
  rw [clearLoot_rollId] at h
  obtain ⟨r', hr', rfl⟩ := List.mem_map.mp h
  split
  · exact .cleared hr'
  · exact .kept hr'

theorem clearLoot_wf {l : Nat} (hw : RollsWF w) : RollsWF (w.clearLoot l) :=
  hw.map clearLoot_rollId (fun r => by split <;> rfl) hw.linked rfl

/-- A roll after an event was there before it, or the event opened it. -/
theorem roll_step (hw : RollsWF w) (e : LootEvent) {r : Roll}
    (h : r ∈ (w.step store e).group.rollId) : RollFrom store w e r := by
  cases e with
  | fillLoot l gold drops owner looters =>
    rw [step, (fillLoot_frame w store l gold drops owner looters).1] at h
    exact clearLoot_from h
  | clearLoot l => exact clearLoot_from h
  | groupLoot l info => exact openRolls_from (.inl rfl) h
  | needBeforeGreed l info =>
    simp only [step, needBeforeGreed] at h
    split at h
    · exact openRolls_from (.inr rfl) h
    · exact .kept h
  | storeLootItem l slot guid b =>
    rw [step, storeLootItem_group] at h
    exact .kept h
  | masterGive l slot giver target b =>
    simp only [step] at h
    cases hg : w.handleLootMasterGive l slot giver target b with
    | none => rw [hg] at h; exact .kept h
    | some w' =>
      rw [hg, Option.getD_some, (masterGive_frame hg).1] at h
      exact .kept h
  | lootMoney l => exact .kept h
  | vote p guid choice env =>
    rw [step] at h
    rcases countRollVote_cases w p guid choice env with h' | ⟨k, r', l, hv⟩
    · rw [h'] at h; exact .kept h
    · rw [hv.step] at h
      by_cases hc : (r'.cast p choice).allCounted
      · rw [if_pos hc] at h
        exact .kept (List.mem_of_mem_eraseIdx h)
      · rw [if_neg hc] at h
        rcases List.mem_or_eq_of_mem_set h with h | rfl
        · exact .kept h
        · have := hv.item
          subst this
          exact .voted hv.at_k hv.loot hv.voter (by simpa using hc)
  | endRoll l env => exact .kept ((endRollLoop_sublist w l env _).1.subset h)
  | addMember guid =>
    simp only [step] at h
    split at h
    · rename_i g hg
      rw [setGroup, (addMember_frame hg).2] at h
      exact .kept h
    · exact .kept h
  | login guid => exact .kept h
  | logout guid => exact .kept h
  | removeMember guid kick online lfgOutside env =>
    obtain ⟨_, _, ⟨_, hc⟩ | ⟨_, hc, _⟩ | ⟨_, hc, _⟩⟩ :=
      removeMember_rolls hw guid kick online lfgOutside env
    · rw [step, hc] at h; exact .kept h
    · rw [step, hc] at h; cases h
    · rw [step, hc] at h
      obtain ⟨r', hr', rfl⟩ := List.mem_map.mp h
      exact .left hr'

/-- One event keeps the roll list well formed. -/
theorem step_wf (hw : RollsWF w) (e : LootEvent) : RollsWF (w.step store e) := by
  cases e with
  | fillLoot l gold drops owner looters =>
    have hf := fillLoot_frame w store l gold drops owner looters
    have hc := clearLoot_wf (l := l) hw
    exact ⟨by rw [step, hf.1]; exact hc.linked, by rw [step, hf.1]; exact hc.guids,
      by rw [step, hf.1, hf.2]; exact hc.fresh⟩
  | clearLoot l => exact clearLoot_wf hw
  | groupLoot l info => exact openRolls_wf hw
  | needBeforeGreed l info =>
    simp only [step, needBeforeGreed]
    split
    · exact openRolls_wf hw
    · exact hw
  | storeLootItem l slot guid b =>
    exact hw.sublist (by simp [step]) (by simp [step]) (by simp [step])
  | masterGive l slot giver target b =>
    simp only [step]
    cases hg : w.handleLootMasterGive l slot giver target b with
    | none => exact hw
    | some w' =>
      obtain ⟨h1, h2⟩ := masterGive_frame hg
      exact hw.sublist (by simp [h1]) (by simp [h1]) (by simp [h2])
  | lootMoney l => exact hw.sublist (List.Sublist.refl _) rfl rfl
  | vote p guid choice env =>
    rw [step]
    rcases countRollVote_cases w p guid choice env with h' | ⟨k, r', l, hv⟩
    · rw [h']; exact hw
    · rw [hv.step]
      split
      · exact hw.sublist (List.eraseIdx_sublist _ _) (by simp) (by simp)
      · have hlt := List.getElem?_eq_some_iff.mp hv.at_k
        obtain ⟨hk, hr⟩ := hlt
        have hset : (w.group.rollId.map Roll.itemGUID).set k r'.itemGUID =
            w.group.rollId.map Roll.itemGUID := by
          rw [← List.map_set, ← hr, List.set_getElem_self]
        refine ⟨hw.linked, ?_, ?_⟩
        · rw [setRolls_rollId, List.map_set, cast_itemGUID, hset]
          exact hw.guids
        · intro r hr'
          rcases List.mem_or_eq_of_mem_set hr' with hr' | rfl
          · exact hw.fresh r hr'
          · rw [cast_itemGUID]
            exact hw.fresh r' (List.mem_of_getElem? hv.at_k)
  | endRoll l env =>
    obtain ⟨h1, h2, h3⟩ := endRollLoop_sublist w l env w.group.rollId.length
    exact hw.sublist h1 h2 h3
  | addMember guid =>
    simp only [step]
    split
    · rename_i g hg
      obtain ⟨h1, h2⟩ := addMember_frame hg
      refine ⟨?_, by rw [setGroup, h2]; exact hw.guids, by rw [setGroup, h2]; exact hw.fresh⟩
      rw [setGroup, h1]
      exact linkMember_nodup hw.linked
    · exact hw
  | login guid => exact ⟨linkMember_nodup hw.linked, hw.guids, hw.fresh⟩
  | logout guid => exact ⟨hw.linked.erase guid, hw.guids, hw.fresh⟩
  | removeMember guid kick online lfgOutside env =>
    obtain ⟨hn, _, ⟨_, hc⟩ | ⟨_, hc, hm⟩ | ⟨_, hc, hm⟩⟩ :=
      removeMember_rolls hw guid kick online lfgOutside env
    · rw [step, hc]; exact hw
    · exact ⟨by rw [step, hm]; exact .nil, by rw [step, hc]; exact .nil,
        by rw [step, hc]; intro r hr; cases hr⟩
    · exact hw.map hc (fun r => dropVoter_itemGUID) (by rw [step, hm]; exact hw.linked.erase guid) hn

theorem init_wf : RollsWF {} := ⟨.nil, .nil, by intro r hr; cases hr⟩

end LootWorld

end SkyfireBG
