import SkyfireBG.Loot.Fill

/-!
# SkyfireBG.Group.Roll

The life of a group roll: `GroupLoot` and `NeedBeforeGreed` open rolls, `CountRollVote` records a
vote, `CountTheRoll` hands the item out, `EndRoll` runs when the timer expires, and `RemoveMember`
takes a leaving player out of every roll.

What the code draws or asks elsewhere (`urand`, whether a player is online, whether the winner has
room) is an argument.
-/

namespace SkyfireBG

structure RollMember where
  looter : Looter
  hasSession : Bool
  /-- `IsWithinDistInMap(lootedObject, CONFIG_GROUP_XP_DISTANCE)`. -/
  near : Bool
  passOnGroupLoot : Bool

/-- One member in the loop that fills `playerVote`. -/
def Roll.enlist (store : TemplateStore) (item : LootItem) (info : Nat → RollMember) (r : Roll)
    (guid : Nat) : Roll :=
  let m := info guid
  if m.hasSession && item.allowedForPlayer store m.looter && m.near then
    if m.passOnGroupLoot then
      { r with totalPlayersRolling := r.totalPlayersRolling + 1
               playerVote := r.playerVote.set guid .pass
               totalPass := r.totalPass + 1 }
    else
      { r with totalPlayersRolling := r.totalPlayersRolling + 1
               playerVote := r.playerVote.set guid .notEmitedYet }
  else r

/-- The roll for one item, with every eligible member in `playerVote`. -/
def openRoll (store : TemplateStore) (members : List Nat) (info : Nat → RollMember) (guid : Nat)
    (item : LootItem) : Roll :=
  members.foldl (Roll.enlist store item info) (Roll.ofItem guid item)

/-- One item of loot `l` in the loop that opens the rolls: the item as it is left, the roll opened
for it, and the next item guid. -/
def rollItem (store : TemplateStore) (g : Group) (info : Nat → RollMember)
    (mask : ItemTemplate → Nat) (l slot guid : Nat) (item : LootItem) :
    LootItem × Option Roll × Nat :=
  if item.freeforall then (item, none, guid)
  else match store item.itemid with
    | none => (item, none, guid)
    | some proto =>
      if proto.quality ≥ g.lootThreshold then
        let r := openRoll store g.memberMgr info guid item
        if r.totalPlayersRolling > 0 then
          ({ item with isBlocked := true },
            some { r with loot := some l, itemSlot := slot, rollVoteMask := mask proto }, guid + 1)
        else (item, none, guid + 1)
      else ({ item with isUnderthreshold := true }, none, guid)

/-- The loop over the items of loot `l`, from `slot` on. -/
def rollItems (store : TemplateStore) (g : Group) (info : Nat → RollMember)
    (mask : ItemTemplate → Nat) (l : Nat) :
    Nat → Nat → List LootItem → List LootItem × List Roll × Nat
  | _, guid, [] => ([], [], guid)
  | slot, guid, item :: rest =>
    let (item', roll, guid') := rollItem store g info mask l slot guid item
    let (items, rolls, next) := rollItems store g info mask l (slot + 1) guid' rest
    (item' :: items, roll.toList ++ rolls, next)

def Group.disenchantMask (g : Group) (proto : ItemTemplate) : Nat :=
  if proto.disenchantID ≠ 0 ∧ g.maxEnchantingLevel ≥ proto.requiredDisenchantSkill then
    ROLL_ALL_TYPE_NO_DISENCHANT ||| ROLL_FLAG_TYPE_DISENCHANT
  else ROLL_ALL_TYPE_NO_DISENCHANT

def Group.needMask (g : Group) (proto : ItemTemplate) : Nat :=
  if hasMask proto.flags2 ITEM_FLAGS_EXTRA_NEED_ROLL_DISABLED then
    g.disenchantMask proto &&& (ROLL_ALL_TYPE_MASK - ROLL_FLAG_TYPE_NEED)
  else g.disenchantMask proto

namespace LootWorld

def openRolls (w : LootWorld) (store : TemplateStore) (mask : ItemTemplate → Nat) (l : Nat)
    (info : Nat → RollMember) : LootWorld :=
  let loot := w.loots l
  let (items, rolls, next) := rollItems store w.group info mask l 0 w.nextItemGuid loot.items
  { (w.setLoot l { loot with items := items }).setRolls (w.group.rollId ++ rolls) with
    nextItemGuid := next }

def groupLoot (w : LootWorld) (store : TemplateStore) (l : Nat) (info : Nat → RollMember) :
    LootWorld :=
  w.openRolls store w.group.disenchantMask l info

/-- `Group::NeedBeforeGreed`.  It reads the template of every item it does not skip without the
null check of `GroupLoot`; `none` is that null dereference. -/
def needBeforeGreed (w : LootWorld) (store : TemplateStore) (l : Nat) (info : Nat → RollMember) :
    Option LootWorld :=
  if (w.loots l).items.all (fun i => i.freeforall || (store i.itemid).isSome) then
    some (w.openRolls store w.group.needMask l info)
  else none

end LootWorld

/-! ## Counting a roll -/

structure RollEnv where
  /-- `urand(1, 100)` for a voter. -/
  draw : Nat → Nat
  /-- `ObjectAccessor::FindPlayer` finds the player, with a session. -/
  online : Nat → Bool
  /-- `CanStoreNewItem` answers `EQUIP_ERR_OK`; for one who disenchants, `AutoStoreLoot` has room for
  all that it stores. -/
  canStore : Nat → Bool

def RollVote.isNeed (v : RollVote) : Bool := v == .need

def RollVote.isGreed (v : RollVote) : Bool := v == .greed || v == .disenchant

def RollVote.isPass (v : RollVote) : Bool := v == .pass

structure TopRoll where
  maxguid : Nat
  maxresul : Nat
  rollvote : RollVote

def TopRoll.next (kind : RollVote → Bool) (draw : Nat → Nat) (t : TopRoll) (e : Nat × RollVote) :
    TopRoll :=
  if kind e.2 && t.maxresul < draw e.1 then ⟨e.1, draw e.1, e.2⟩ else t

/-- The loop that looks for the highest number.  Without a vote of the kind it ends at the first
voter, with the number 0. -/
def Roll.winner (r : Roll) (kind : RollVote → Bool) (draw : Nat → Nat) : Option TopRoll :=
  match r.playerVote.entries with
  | [] => none
  | e :: es => some ((e :: es).foldl (TopRoll.next kind draw) ⟨e.1, 0, .notValid⟩)

inductive RollResult where
  | give (guid : Nat)
  /-- The item is marked as looted, and nobody has it or what it was disenchanted to. -/
  | waste
  | unblock
  | nothing
deriving DecidableEq, Repr

/-- What `CountTheRoll` does with the item. -/
def Roll.result (r : Roll) (env : RollEnv) : RollResult :=
  if r.totalNeed > 0 then
    match r.winner RollVote.isNeed env.draw with
    | none => .nothing
    | some t =>
      if !env.online t.maxguid then .nothing
      else if env.canStore t.maxguid then .give t.maxguid else .unblock
  else if r.totalGreed > 0 then
    match r.winner RollVote.isGreed env.draw with
    | none => .nothing
    | some t =>
      if !env.online t.maxguid then .nothing
      else match t.rollvote with
        | .greed => if env.canStore t.maxguid then .give t.maxguid else .unblock
        -- the item is marked as looted before `AutoStoreLoot`, which drops what has no room
        | .disenchant => if env.canStore t.maxguid then .give t.maxguid else .waste
        | _ => .nothing
  else .unblock

namespace LootWorld

/-- The part of `CountTheRoll` that touches the loot. -/
def settle (w : LootWorld) (l slot : Nat) : RollResult → LootWorld
  | .give guid => (w.setLoot l ((w.loots l).takeItem slot)).award
      { loot := l, quest := false, index := slot, freeforall := false, player := guid }
  | .waste => w.setLoot l ((w.loots l).takeItem slot)
  | .unblock => w.setLoot l ((w.loots l).unblockItem slot)
  | .nothing => w

/-- `Group::CountTheRoll` on the roll at position `k`; a roll whose loot is gone is only erased. -/
def countTheRoll (w : LootWorld) (k : Nat) (env : RollEnv) : LootWorld :=
  match w.group.rollId[k]? with
  | none => w
  | some r => match r.loot with
    | none => w.setRolls (w.group.rollId.eraseIdx k)
    | some l => (w.settle l r.itemSlot (r.result env)).setRolls (w.group.rollId.eraseIdx k)

/-- `Group::GetRoll`: the position of the first valid roll for the item. -/
def getRoll (w : LootWorld) (guid : Nat) : Option Nat :=
  w.group.rollId.findIdx? (fun r => r.itemGUID == guid && r.isValid)

end LootWorld

/-- The `switch` of `CountRollVote`: record the vote and raise its total. -/
def Roll.cast (r : Roll) (playerGUID choice : Nat) : Roll :=
  if choice = ROLL_PASS then
    { r with totalPass := r.totalPass + 1, playerVote := r.playerVote.set playerGUID .pass }
  else if choice = ROLL_NEED then
    { r with totalNeed := r.totalNeed + 1, playerVote := r.playerVote.set playerGUID .need }
  else if choice = ROLL_GREED then
    { r with totalGreed := r.totalGreed + 1, playerVote := r.playerVote.set playerGUID .greed }
  else if choice = ROLL_DISENCHANT then
    { r with totalGreed := r.totalGreed + 1
             playerVote := r.playerVote.set playerGUID .disenchant }
  else r

/-- The closing test; the sum is taken in `int`, so it does not wrap. -/
def Roll.allCounted (r : Roll) : Bool :=
  r.totalPass.toNat + r.totalNeed.toNat + r.totalGreed.toNat ≥ r.totalPlayersRolling.toNat

namespace LootWorld

def countRollVote (w : LootWorld) (playerGUID guid choice : Nat) (env : RollEnv) : LootWorld :=
  match w.getRoll guid with
  | none => w
  | some k => match w.group.rollId[k]? with
    | none => w
    | some r =>
      -- a player that joined after the roll began has no entry
      if (r.playerVote.find? playerGUID).isNone then w
      else if (match r.loot with | some l => (w.loots l).items.isEmpty | none => false) then w
      else
        let w' := w.setRolls (w.group.rollId.set k (r.cast playerGUID choice))
        if (r.cast playerGUID choice).allCounted then w'.countTheRoll k env else w'

def endRollLoop (l : Nat) (env : Nat → RollEnv) : Nat → LootWorld → LootWorld
  | 0, w => w
  | fuel + 1, w => match w.group.rollId.findIdx? (fun r => r.loot == some l) with
    | none => w
    | some k => match w.group.rollId[k]? with
      | none => w
      | some r => endRollLoop l env fuel (w.countTheRoll k (env r.itemGUID))

/-- `Group::EndRoll`: every roll of the loot is counted, each time from the front of the list.
One pass erases one roll, so there are at most as many passes as rolls. -/
def endRoll (w : LootWorld) (l : Nat) (env : Nat → RollEnv) : LootWorld :=
  endRollLoop l env w.group.rollId.length w

end LootWorld

def Roll.dropVoter (r : Roll) (guid : Nat) : Roll :=
  match r.playerVote.find? guid with
  | none => r
  | some v =>
    { r with
      totalGreed := if v.isGreed then r.totalGreed - 1 else r.totalGreed
      totalNeed := if v.isNeed then r.totalNeed - 1 else r.totalNeed
      totalPass := if v.isPass then r.totalPass - 1 else r.totalPass
      totalPlayersRolling :=
        if v = .notValid then r.totalPlayersRolling else r.totalPlayersRolling - 1
      playerVote := r.playerVote.erase guid }

namespace LootWorld

/-- The loop of `RemoveMember` over the rolls, `n` of them from position `k` on. -/
def dropVoterLoop (guid : Nat) (env : Nat → RollEnv) : Nat → Nat → LootWorld → LootWorld
  | 0, _, w => w
  | n + 1, k, w => match w.group.rollId[k]? with
    | none => w
    | some r =>
      if (r.playerVote.find? guid).isNone then dropVoterLoop guid env n (k + 1) w
      else
        let w' := w.setRolls (w.group.rollId.set k (r.dropVoter guid))
        dropVoterLoop guid env n (k + 1)
          (w'.countRollVote guid r.itemGUID MAX_ROLL_TYPE (env r.itemGUID))

end LootWorld

/-!
## The winner

Who `CountTheRoll` hands the item to.

`Roll.winner` walks the votes in ascending guid order and keeps the first highest number.
`Roll.Tops` says the same of a player without the loop, and `winner_spec` connects the two.
-/

/-- `g` voted `kind` and drew a positive number that no other such voter beats: a tie goes to the
lower guid. -/
def Roll.Tops (r : Roll) (kind : RollVote → Bool) (draw : Nat → Nat) (g : Nat) : Prop :=
  ∃ v, r.playerVote.find? g = some v ∧ kind v = true ∧ 0 < draw g ∧
    ∀ g' v', r.playerVote.find? g' = some v' → kind v' = true →
      draw g' < draw g ∨ (draw g' = draw g ∧ g ≤ g')

/-- Nobody with a vote of the kind drew a positive number, and `g` is the first voter. -/
def Roll.FirstByDefault (r : Roll) (kind : RollVote → Bool) (draw : Nat → Nat) (g : Nat) : Prop :=
  (∀ g' v', r.playerVote.find? g' = some v' → kind v' = true → draw g' = 0) ∧
    (∃ v, r.playerVote.find? g = some v) ∧ ∀ g' v', r.playerVote.find? g' = some v' → g ≤ g'

section Fold

variable {kind : RollVote → Bool} {draw : Nat → Nat}

/-- The state of the loop after the entries `es`. -/
def Leads (kind : RollVote → Bool) (draw : Nat → Nat) (t₀ t : TopRoll)
    (es : List (Nat × RollVote)) : Prop :=
  (t = t₀ ∧ ∀ e ∈ es, kind e.2 = true → draw e.1 = 0) ∨
    ((t.maxguid, t.rollvote) ∈ es ∧ kind t.rollvote = true ∧ t.maxresul = draw t.maxguid ∧
      0 < t.maxresul ∧
      ∀ e ∈ es, kind e.2 = true →
        draw e.1 < t.maxresul ∨ (draw e.1 = t.maxresul ∧ t.maxguid ≤ e.1))

theorem leads_next {t₀ t : TopRoll} {es : List (Nat × RollVote)} {e : Nat × RollVote}
    (h0 : t₀.maxresul = 0) (hlt : ∀ x ∈ es, x.1 < e.1) (h : Leads kind draw t₀ t es) :
    Leads kind draw t₀ (t.next kind draw e) (es ++ [e]) := by
  simp only [TopRoll.next]
  by_cases hk : kind e.2 = true
  · by_cases hd : t.maxresul < draw e.1
    · -- a higher number takes the lead
      simp only [hk, hd, decide_true, Bool.and_self, if_true]
      refine .inr ⟨by simp, hk, rfl, Nat.lt_of_le_of_lt (Nat.zero_le _) hd, ?_⟩
      intro x hx hkx
      rcases List.mem_append.mp hx with hx | hx
      · refine .inl ?_
        rcases h with ⟨rfl, hz⟩ | ⟨_, _, _, _, hall⟩
        · rw [hz x hx hkx]
          dsimp only
          omega
        · dsimp only
          rcases hall x hx hkx with h | h <;> omega
      · rw [List.mem_singleton.mp hx]
        exact .inr ⟨rfl, Nat.le_refl _⟩
    · simp only [hk, hd, decide_false, Bool.and_false, Bool.false_eq_true, if_false]
      rcases h with ⟨rfl, hz⟩ | ⟨hm, hkt, hr, hpos, hall⟩
      · refine .inl ⟨rfl, fun x hx hkx => ?_⟩
        rcases List.mem_append.mp hx with hx | hx
        · exact hz x hx hkx
        · rw [List.mem_singleton.mp hx]
          omega
      · refine .inr ⟨List.mem_append_left _ hm, hkt, hr, hpos, fun x hx hkx => ?_⟩
        rcases List.mem_append.mp hx with hx | hx
        · exact hall x hx hkx
        · rw [List.mem_singleton.mp hx]
          have := hlt _ hm
          omega
  · simp only [hk, Bool.false_and, Bool.false_eq_true, if_false]
    rcases h with ⟨rfl, hz⟩ | ⟨hm, hkt, hr, hpos, hall⟩
    · refine .inl ⟨rfl, fun x hx hkx => ?_⟩
      rcases List.mem_append.mp hx with hx | hx
      · exact hz x hx hkx
      · rw [List.mem_singleton.mp hx] at hkx
        exact absurd hkx hk
    · refine .inr ⟨List.mem_append_left _ hm, hkt, hr, hpos, fun x hx hkx => ?_⟩
      rcases List.mem_append.mp hx with hx | hx
      · exact hall x hx hkx
      · rw [List.mem_singleton.mp hx] at hkx
        exact absurd hkx hk

theorem leads_fold (kind : RollVote → Bool) (draw : Nat → Nat) {t₀ : TopRoll}
    (h0 : t₀.maxresul = 0) {es : List (Nat × RollVote)}
    (hs : es.Pairwise (fun a b => a.1 < b.1)) :
    Leads kind draw t₀ (es.foldl (TopRoll.next kind draw) t₀) es := by
  induction es using List.reverseRecOn with
  | nil => exact .inl ⟨rfl, by intro e he; cases he⟩
  | append_singleton es e ih =>
    rw [List.pairwise_append] at hs
    rw [List.foldl_append]
    exact leads_next h0 (fun x hx => hs.2.2 x hx e (List.mem_singleton.mpr rfl)) (ih hs.1)

end Fold

theorem winner_leads {r : Roll} {kind : RollVote → Bool} {draw : Nat → Nat} {t : TopRoll}
    (h : r.winner kind draw = some t) : ∃ e es, r.playerVote.entries = e :: es ∧
      Leads kind draw ⟨e.1, 0, .notValid⟩ t r.playerVote.entries := by
  unfold Roll.winner at h
  cases hes : r.playerVote.entries with
  | nil => simp [hes] at h
  | cons e es =>
    simp only [hes, Option.some.injEq] at h
    have hsorted := r.playerVote.sorted
    rw [hes] at hsorted
    exact ⟨e, es, rfl, h ▸ leads_fold kind draw rfl hsorted⟩

theorem winner_spec {r : Roll} {kind : RollVote → Bool} {draw : Nat → Nat} {t : TopRoll}
    (h : r.winner kind draw = some t) :
    (r.Tops kind draw t.maxguid ∧ kind t.rollvote = true) ∨
      (r.FirstByDefault kind draw t.maxguid ∧ t.rollvote = .notValid) := by
  obtain ⟨e, es, hes, hleads⟩ := winner_leads h
  have hsorted := r.playerVote.sorted
  rcases hleads with ⟨rfl, hz⟩ | ⟨hm, hk, hr, hpos, hall⟩
  · refine .inr ⟨⟨fun g' v' hf hkv => ?_, ⟨e.2, ?_⟩, fun g' v' hf => ?_⟩, rfl⟩
    · exact hz (g', v') (OrdMap.find?_eq_some.mp hf) hkv
    · exact OrdMap.find?_eq_some.mpr (hes ▸ List.mem_cons_self)
    · rw [hes] at hsorted
      have hmem := hes ▸ OrdMap.find?_eq_some.mp hf
      rcases List.mem_cons.mp hmem with heq | hmem
      · exact Nat.le_of_eq (congrArg Prod.fst heq).symm
      · exact ((List.pairwise_cons.mp hsorted).1 _ hmem).le
  · refine .inl ⟨⟨t.rollvote, OrdMap.find?_eq_some.mpr hm, hk, hr ▸ hpos, ?_⟩, hk⟩
    intro g' v' hf hkv
    have hlead := hall (g', v') (OrdMap.find?_eq_some.mp hf) hkv
    rwa [hr] at hlead

theorem Roll.Tops.unique {r : Roll} {kind : RollVote → Bool} {draw : Nat → Nat} {g g' : Nat}
    (h : r.Tops kind draw g) (h' : r.Tops kind draw g') : g = g' := by
  obtain ⟨v, hf, hk, _, hall⟩ := h
  obtain ⟨v', hf', hk', _, hall'⟩ := h'
  have h1 := hall g' v' hf' hk'
  have h2 := hall' g v hf hk
  omega

theorem Roll.FirstByDefault.unique {r : Roll} {kind : RollVote → Bool} {draw : Nat → Nat}
    {g g' : Nat} (h : r.FirstByDefault kind draw g) (h' : r.FirstByDefault kind draw g') :
    g = g' := by
  obtain ⟨_, ⟨v, hf⟩, hle⟩ := h
  obtain ⟨_, ⟨v', hf'⟩, hle'⟩ := h'
  exact Nat.le_antisymm (hle g' v' hf') (hle' g v hf)

theorem Roll.Tops.not_default {r : Roll} {kind : RollVote → Bool} {draw : Nat → Nat} {g g' : Nat}
    (h : r.Tops kind draw g) (h' : r.FirstByDefault kind draw g') : False := by
  obtain ⟨v, hf, hk, hpos, _⟩ := h
  have := h'.1 g v hf hk
  omega

theorem winner_isSome {r : Roll} {kind : RollVote → Bool} {draw : Nat → Nat} {g : Nat}
    {v : RollVote} (h : r.playerVote.find? g = some v) : (r.winner kind draw).isSome := by
  have hm := OrdMap.find?_eq_some.mp h
  simp only [Roll.winner]
  split
  · rename_i he; rw [he] at hm; cases hm
  · rfl

/-- The roll can be settled: where somebody wins, the winner is online, and a greed total without
a greed vote does not decide. -/
structure Roll.Releasable (r : Roll) (env : RollEnv) : Prop where
  need : 0 < r.totalNeed → ∃ g, env.online g = true ∧
    (r.Tops RollVote.isNeed env.draw g ∨ r.FirstByDefault RollVote.isNeed env.draw g)
  greed : ¬ 0 < r.totalNeed → 0 < r.totalGreed →
    ∃ g, env.online g = true ∧ r.Tops RollVote.isGreed env.draw g

theorem result_ne_nothing {r : Roll} {env : RollEnv} (h : r.Releasable env) :
    r.result env ≠ .nothing := by
  simp only [Roll.result]
  by_cases hn : 0 < r.totalNeed
  · obtain ⟨g, hon, hg⟩ := h.need hn
    have hsome : (r.winner RollVote.isNeed env.draw).isSome := by
      rcases hg with ⟨v, hf, _⟩ | ⟨_, ⟨v, hf⟩, _⟩ <;> exact winner_isSome hf
    obtain ⟨t, ht⟩ := Option.isSome_iff_exists.mp hsome
    have htg : t.maxguid = g := by
      rcases winner_spec ht with ⟨htop, _⟩ | ⟨hdef, _⟩
      · rcases hg with hg | hg
        · exact htop.unique hg
        · exact (htop.not_default hg).elim
      · rcases hg with hg | hg
        · exact (hg.not_default hdef).elim
        · exact hdef.unique hg
    simp only [gt_iff_lt, hn, if_true, ht, htg, hon, Bool.not_true, Bool.false_eq_true, if_false]
    split <;> simp
  · simp only [gt_iff_lt, hn, if_false]
    by_cases hgr : 0 < r.totalGreed
    · obtain ⟨g, hon, hg⟩ := h.greed hn hgr
      have hsome : (r.winner RollVote.isGreed env.draw).isSome := by
        obtain ⟨v, hf, _⟩ := hg
        exact winner_isSome hf
      obtain ⟨t, ht⟩ := Option.isSome_iff_exists.mp hsome
      have htg : t.maxguid = g ∧ RollVote.isGreed t.rollvote = true := by
        rcases winner_spec ht with ⟨htop, hk⟩ | ⟨hdef, _⟩
        · exact ⟨htop.unique hg, hk⟩
        · exact (hg.not_default hdef).elim
      simp only [hgr, if_true, ht, htg.1, hon, Bool.not_true, Bool.false_eq_true, if_false]
      have hk := htg.2
      cases hv : t.rollvote <;> rw [hv] at hk <;> first | exact absurd hk (by decide) | skip
      · dsimp only; split <;> simp
      · dsimp only; split <;> simp
    · simp [hgr]

theorem releasable_iff {r : Roll} {env : RollEnv} : r.Releasable env ↔ r.result env ≠ .nothing := by
  refine ⟨result_ne_nothing, fun h => ?_⟩
  simp only [Roll.result, gt_iff_lt] at h
  constructor
  · intro hn
    rw [if_pos hn] at h
    cases ht : r.winner RollVote.isNeed env.draw with
    | none => simp [ht] at h
    | some t =>
      cases hon : env.online t.maxguid with
      | false => simp [ht, hon] at h
      | true =>
        refine ⟨t.maxguid, hon, ?_⟩
        rcases winner_spec ht with ⟨htop, _⟩ | ⟨hdef, _⟩
        · exact .inl htop
        · exact .inr hdef
  · intro hn hg
    rw [if_neg hn, if_pos hg] at h
    cases ht : r.winner RollVote.isGreed env.draw with
    | none => simp [ht] at h
    | some t =>
      cases hon : env.online t.maxguid with
      | false => simp [ht, hon] at h
      | true =>
        refine ⟨t.maxguid, hon, ?_⟩
        rcases winner_spec ht with ⟨htop, _⟩ | ⟨_, hv⟩
        · exact htop
        · simp [ht, hon, hv] at h

instance (r : Roll) (env : RollEnv) : Decidable (r.Releasable env) :=
  decidable_of_iff _ releasable_iff.symm

end SkyfireBG
