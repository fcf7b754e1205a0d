import SkyfireBG.Loot.Item

/-!
# SkyfireBG.Battleground.Queue

The groups that wait for one kind of battleground: `AddGroup`, `RemovePlayer` and `InviteGroupToBG`.

A `GroupQueueInfo` is an object; the lists and the map of players hold pointers to it, here its
number in `group`.  Waiting times, announcements and the counters of the battleground are left out.
-/

namespace SkyfireBG

abbrev MAX_BATTLEGROUND_BRACKETS : Nat := 16

instance : NeZero MAX_BATTLEGROUND_BRACKETS := ⟨by decide⟩
abbrev BG_QUEUE_GROUP_TYPES_COUNT : Nat := 4

abbrev BattlegroundBracketId := Fin MAX_BATTLEGROUND_BRACKETS

/-- The second dimension of `m_QueuedGroups`. -/
abbrev QueueIndex := Fin BG_QUEUE_GROUP_TYPES_COUNT

def BG_QUEUE_PREMADE_ALLIANCE : QueueIndex := 0
def BG_QUEUE_PREMADE_HORDE : QueueIndex := 1
def BG_QUEUE_NORMAL_ALLIANCE : QueueIndex := 2
def BG_QUEUE_NORMAL_HORDE : QueueIndex := 3

namespace Team

def other : Team → Team
  | alliance => horde
  | horde => alliance

/-- `BG_QUEUE_PREMADE_ALLIANCE + i`. -/
def premade : Team → QueueIndex
  | alliance => BG_QUEUE_PREMADE_ALLIANCE
  | horde => BG_QUEUE_PREMADE_HORDE

/-- `BG_QUEUE_NORMAL_ALLIANCE + i`. -/
def normal : Team → QueueIndex
  | alliance => BG_QUEUE_NORMAL_ALLIANCE
  | horde => BG_QUEUE_NORMAL_HORDE

end Team

def QueueIndex.team (i : QueueIndex) : Team := if i.val % 2 = 1 then .horde else .alliance

@[simp] theorem premade_team (t : Team) : QueueIndex.team t.premade = t := by cases t <;> rfl

@[simp] theorem normal_team (t : Team) : QueueIndex.team t.normal = t := by cases t <;> rfl

theorem index_cases (i : QueueIndex) :
    i = (QueueIndex.team i).premade ∨ i = (QueueIndex.team i).normal := by
  revert i
  decide

structure GroupQueueInfo where
  players : OrdMap Nat Unit
  team : Team
  isRated : Bool
  joinTime : Nat
  arenaMatchmakerRating : Nat
  isInvitedToBGInstanceGUID : Nat := 0

/-- What `InviteGroupToBG` writes; a group that is invited already only changes its team. -/
def GroupQueueInfo.invite (info : GroupQueueInfo) (bg : Nat) (side : Option Team) :
    GroupQueueInfo :=
  { info with
    team := side.getD info.team
    isInvitedToBGInstanceGUID :=
      if info.isInvitedToBGInstanceGUID = 0 then bg else info.isInvitedToBGInstanceGUID }

structure BattlegroundQueue where
  /-- `m_QueuedPlayers`: the `GroupInfo` of each player. -/
  queuedPlayers : OrdMap Nat Nat := {}
  queuedGroups : BattlegroundBracketId → QueueIndex → List Nat := fun _ _ => []
  group : Nat → Option GroupQueueInfo := fun _ => none
  nextGroup : Nat := 0

namespace BattlegroundQueue

variable (q : BattlegroundQueue)

def setGroup (g : Nat) (info : Option GroupQueueInfo) : BattlegroundQueue :=
  { q with group := fun g' => if g' = g then info else q.group g' }

def setList (b : BattlegroundBracketId) (i : QueueIndex) (l : List Nat) : BattlegroundQueue :=
  { q with queuedGroups := fun b' i' => if b' = b ∧ i' = i then l else q.queuedGroups b' i' }

/-- `AddGroup`, for a group or for the leader alone. -/
def addGroup (leader : Nat) (team : Team) (members : Option (List Nat)) (b : BattlegroundBracketId)
    (isRated isPremade : Bool) (joinTime matchmakerRating : Nat) : BattlegroundQueue :=
  let i := if !isRated && !isPremade then team.normal else team.premade
  let guids := members.getD [leader]
  let ginfo : GroupQueueInfo :=
    { players := guids.foldl (fun m guid => m.set guid ()) {}
      team := team, isRated := isRated
      joinTime := joinTime, arenaMatchmakerRating := matchmakerRating }
  let q' := (q.setGroup q.nextGroup (some ginfo)).setList b i
    (q.queuedGroups b i ++ [q.nextGroup])
  { q' with
    queuedPlayers := guids.foldl (fun m guid => m.set guid q.nextGroup) q.queuedPlayers
    nextGroup := q.nextGroup + 1 }

/-- The search of `RemovePlayer`: from the highest bracket, in the lists of the group's team. -/
def findGroup (g : Nat) (team : Team) : Option (BattlegroundBracketId × QueueIndex) :=
  (List.finRange MAX_BATTLEGROUND_BRACKETS).reverse.findSome? (fun b =>
    if g ∈ q.queuedGroups b team.normal then some (b, team.normal)
    else if g ∈ q.queuedGroups b team.premade then some (b, team.premade)
    else none)

def dropPlayer (guid g : Nat) (info : GroupQueueInfo) : BattlegroundQueue :=
  { q.setGroup g (some { info with players := info.players.erase guid }) with
    queuedPlayers := q.queuedPlayers.erase guid }

def deleteGroup (b : BattlegroundBracketId) (i : QueueIndex) (g : Nat) : BattlegroundQueue :=
  (q.setGroup g none).setList b i ((q.queuedGroups b i).erase g)

/-- The end of `RemovePlayer`, once the group is found; `again` is the recursive call. -/
def leaveGroup (again : BattlegroundQueue → Nat → BattlegroundQueue) (guid g : Nat)
    (info : GroupQueueInfo) (b : BattlegroundBracketId) (i : QueueIndex) : BattlegroundQueue :=
  match (info.players.erase guid).entries with
  | [] => (q.dropPlayer guid g info).deleteGroup b i g
  | (next, _) :: _ =>
    -- everyone of a rated group that is not invited yet leaves with him
    if info.isInvitedToBGInstanceGUID = 0 && info.isRated then again (q.dropPlayer guid g info) next
    else q.dropPlayer guid g info

/-- `RemovePlayer`; the fuel is the depth of its recursion. -/
def removeLoop : Nat → BattlegroundQueue → Nat → BattlegroundQueue
  | 0, q, _ => q
  | fuel + 1, q, guid =>
    match q.queuedPlayers.find? guid with
    | none => q
    | some g =>
      match q.group g with
      | none => q
      | some info =>
        match q.findGroup g info.team with
        | none => q
        | some (b, i) => q.leaveGroup (removeLoop fuel) guid g info b i

def removePlayer (guid : Nat) : BattlegroundQueue := removeLoop q.queuedPlayers.size q guid

def isInvited (g : Nat) : Bool :=
  (q.group g).any (fun info => info.isInvitedToBGInstanceGUID != 0)

/-- `InviteGroupToBG`; without a side the team stays. -/
def inviteGroupToBG (g bg : Nat) (side : Option Team) : BattlegroundQueue :=
  match q.group g with
  | none => q
  | some info => q.setGroup g (some (info.invite bg side))

/-- `BattleGroundDuelQueueUpdate`, once the battleground is there. -/
def battleGroundDuelQueueUpdate (group1 group2 bg : Nat) : BattlegroundQueue :=
  (q.inviteGroupToBG group1 bg (some .alliance)).inviteGroupToBG group2 bg (some .horde)

section Fields

variable {q} {g g' : Nat} {info : Option GroupQueueInfo} {b b' : BattlegroundBracketId}
  {i i' : QueueIndex} {l : List Nat}

@[simp] theorem setGroup_same : (q.setGroup g info).group g = info := if_pos rfl

@[simp] theorem setGroup_ne (h : g' ≠ g) : (q.setGroup g info).group g' = q.group g' := if_neg h

@[simp] theorem setGroup_queuedGroups : (q.setGroup g info).queuedGroups = q.queuedGroups := rfl

@[simp] theorem setGroup_queuedPlayers : (q.setGroup g info).queuedPlayers = q.queuedPlayers := rfl

@[simp] theorem setList_same : (q.setList b i l).queuedGroups b i = l := if_pos ⟨rfl, rfl⟩

theorem setList_ne (h : ¬ (b' = b ∧ i' = i)) :
    (q.setList b i l).queuedGroups b' i' = q.queuedGroups b' i' := if_neg h

@[simp] theorem setList_group : (q.setList b i l).group = q.group := rfl

end Fields

end BattlegroundQueue

end SkyfireBG
