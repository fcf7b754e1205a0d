import SkyfireBG.Group.Roll
import SkyfireBG.Lib.Run

/-!
# SkyfireBG.Loot.Step

The loot system as a state machine.  A `LootEvent` is one call from outside: a lootable object is
filled or cleared, a roll is opened, a player loots, votes or leaves, the roll timer expires.
-/

namespace SkyfireBG

inductive LootEvent where
  | fillLoot (l gold : Nat) (drops : List (LootStoreItem × LootDraw)) (owner : Option Nat)
      (looters : List FillLooter)
  | clearLoot (l : Nat)
  | groupLoot (l : Nat) (info : Nat → RollMember)
  | needBeforeGreed (l : Nat) (info : Nat → RollMember)
  | storeLootItem (l lootSlot guid : Nat) (canStore : Bool)
  | masterGive (l slotid giver target : Nat) (canStore : Bool)
  | lootMoney (l : Nat)
  | vote (playerGUID itemGUID choice : Nat) (env : RollEnv)
  | endRoll (l : Nat) (env : Nat → RollEnv)
  | addMember (guid : Nat)
  | login (guid : Nat)
  | logout (guid : Nat)
  | removeMember (guid : Nat) (kick : Bool) (online : Nat → Bool) (lfgOutside : Bool)
      (env : Nat → RollEnv)

namespace LootWorld

def setGroup (w : LootWorld) (g : Group) : LootWorld := { w with group := g }

/-- `RemoveMember` with its loop over the rolls. -/
def removeMember (w : LootWorld) (guid : Nat) (kick : Bool) (online : Nat → Bool)
    (lfgOutside : Bool) (env : Nat → RollEnv) : LootWorld :=
  match w.group.removeMember guid kick online lfgOutside with
  | .refused => w
  | .disbanded =>
    -- a group too small is disbanded at once, one that became too small after the loop
    if w.group.getMembersCount > w.group.minMembers then
      let w' := dropVoterLoop guid env w.group.rollId.length 0 w
      w'.setGroup w'.group.disband
    else w.setGroup w.group.disband
  | .removed g =>
    let w' := dropVoterLoop guid env w.group.rollId.length 0 w
    w'.setGroup { g with rollId := w'.group.rollId }

def step (store : TemplateStore) (w : LootWorld) : LootEvent → LootWorld
  | .fillLoot l gold drops owner looters => w.fillLoot store l gold drops owner looters
  | .clearLoot l => w.clearLoot l
  | .groupLoot l info => w.groupLoot store l info
  -- a null dereference is not a step
  | .needBeforeGreed l info => (w.needBeforeGreed store l info).getD w
  | .storeLootItem l lootSlot guid canStore => w.storeLootItem l lootSlot guid canStore
  -- nor is a read past the end of the items
  | .masterGive l slotid giver target canStore =>
    (w.handleLootMasterGive l slotid giver target canStore).getD w
  | .lootMoney l => w.handleLootMoney l
  | .vote playerGUID itemGUID choice env => w.countRollVote playerGUID itemGUID choice env
  | .endRoll l env => w.endRoll l env
  | .addMember guid => match w.group.addMember guid with
    | some g => w.setGroup g
    | none => w
  | .login guid => w.setGroup (w.group.linkMember guid)
  | .logout guid => w.setGroup (w.group.delinkMember guid)
  | .removeMember guid kick online lfgOutside env => w.removeMember guid kick online lfgOutside env

end LootWorld

/-! ## Sample inputs

Used by the runs on fixed inputs that follow the results about all runs. -/

def sampleStore : TemplateStore := fun itemid =>
  if itemid = 7 then some { itemId := 7, quality := 2 }
  else if itemid = 8 then some { itemId := 8, flags := ITEM_PROTO_FLAG_PARTY_LOOT }
  else if itemid = 9 then some { itemId := 9 }
  else none

def sampleLooter (guid : Nat) : Looter where
  guid := guid
  team := .alliance
  hasSkill := fun _ => true
  hasSpell := fun _ => false
  hasQuestForItem := fun _ => true
  questKnown := fun _ => false
  meetsConditions := fun _ => true

def sampleMember (guid : Nat) : RollMember where
  looter := sampleLooter guid
  hasSession := true
  near := true
  passOnGroupLoot := false

def sampleEnv : RollEnv where
  draw := fun _ => 50
  online := fun _ => true
  canStore := fun _ => true

def sampleRoll : List LootEvent :=
  [.addMember 1, .addMember 2, .addMember 3, .addMember 4,
    .fillLoot 0 0 [({ itemid := 7 }, {})] none [], .groupLoot 0 sampleMember]

end SkyfireBG
