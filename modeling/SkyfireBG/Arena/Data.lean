import SkyfireBG.Lib.OrdMap
import SkyfireBG.Lib.Run

/-!
# SkyfireBG.Arena.Data

Arena teams: `ArenaTeam`, its `Create`, `AddMember`, `SetCaptain`, `DelMember` and `Disband`, the teams
that `ArenaTeamMgr` holds, and the rows of `arena_team` and `arena_team_member`.

A result `none` stands for an assertion that fails: a team whose type has no slot reads or writes the
fields of a player out of bounds.
-/

namespace SkyfireBG

structure ArenaTeamMember where
  guid : Nat
  name : List Char
deriving DecidableEq

structure ArenaTeam where
  teamId : Nat := 0
  captainGuid : Nat := 0
  type : Nat := 0
  teamName : List Char := []
  members : List ArenaTeamMember := []
deriving DecidableEq

def ARENA_TEAM_2v2 : Nat := 2
def ARENA_TEAM_3v3 : Nat := 3
def ARENA_TEAM_5v5 : Nat := 5

namespace ArenaTeam

variable (team : ArenaTeam)

/-- `GetSlotByType`, `none` for `0xFF`. -/
def slotByType (type : Nat) : Option Nat :=
  if type = ARENA_TEAM_2v2 then some 0
  else if type = ARENA_TEAM_3v3 then some 1
  else if type = ARENA_TEAM_5v5 then some 2
  else none

def slot : Option Nat := slotByType team.type

def guids : List Nat := team.members.map ArenaTeamMember.guid

def isMember (guid : Nat) : Bool := guid ∈ team.guids

/-- `GetMember` by name. -/
def memberByName (name : List Char) : Option ArenaTeamMember :=
  team.members.find? fun m => m.name = name

end ArenaTeam

structure ArenaTeamRow where
  name : List Char
  captainGuid : Nat
  type : Nat
deriving DecidableEq

def ArenaTeam.row (team : ArenaTeam) : ArenaTeamRow := ⟨team.teamName, team.captainGuid, team.type⟩

/-- The teams, what the players keep, and the two tables.  `arenaTeamId` is the field
`ARENA_TEAM_ID` of a player who is online, for each slot.  `FindPlayer` finds those who are in the world
only, and not who is between two maps. -/
structure ArenaWorld where
  store : OrdMap Nat ArenaTeam := ∅
  nextArenaTeamId : Nat := 1
  online : Finset Nat := ∅
  inWorld : Finset Nat := ∅
  arenaTeamId : Nat → Nat → Nat := fun _ _ => 0
  invited : Nat → Nat := fun _ => 0
  teamRows : OrdMap Nat ArenaTeamRow := ∅
  memberRows : List (Nat × Nat) := []

namespace ArenaWorld

variable (s : ArenaWorld) (characters : Nat → Option (List Char))

/-- `GetArenaTeamById`. -/
def byId (arenaTeamId : Nat) : Option ArenaTeam := s.store.find? arenaTeamId

/-- `GetArenaTeamByName`: upper and lower case do not matter. -/
def byName (name : List Char) : Option ArenaTeam :=
  (s.store.entries.find? fun e => e.2.teamName.map Char.toUpper = name.map Char.toUpper).map
    fun e => e.2

/-- `AddArenaTeam`, and the change of a team that is stored. -/
def put (arenaTeamId : Nat) (team : ArenaTeam) : ArenaWorld :=
  { s with store := s.store.set arenaTeamId team }

/-- `GetArenaTeamIdFromDB`. -/
def idFromDB (guid type : Nat) : Nat :=
  match s.memberRows.find? fun r =>
    r.2 = guid ∧ (s.teamRows.find? r.1).any fun row => row.type = type with
  | none => 0
  | some r => r.1

def setArenaTeamId (guid slot value : Nat) : ArenaWorld :=
  { s with arenaTeamId :=
      Function.update s.arenaTeamId guid (Function.update (s.arenaTeamId guid) slot value) }

def hasTeam (team : ArenaTeam) (playerGuid : Nat) : Option Bool :=
  if playerGuid ∈ s.inWorld then
    team.slot.map fun slot => decide (s.arenaTeamId playerGuid slot ≠ 0)
  else some false

def setInArenaTeam (team : ArenaTeam) (playerGuid : Nat) : ArenaWorld :=
  if playerGuid ∈ s.inWorld then
    let s := { s with invited := Function.update s.invited playerGuid 0 }
    team.slot.elim s fun slot => s.setArenaTeamId playerGuid slot team.teamId
  else s

/-- `AddMember`, with the team as it is then and whether it returns true. -/
def addMember (team : ArenaTeam) (playerGuid : Nat) : Option (ArenaWorld × ArenaTeam × Bool) :=
  if team.members.length ≥ team.type * 2 then some (s, team, false)
  else if playerGuid ∉ s.inWorld ∧ characters playerGuid = none then some (s, team, false)
  else (s.hasTeam team playerGuid).map fun (hasTeam : Bool) =>
    if hasTeam ∨ s.idFromDB playerGuid team.type ≠ 0 then (s, team, false)
    else
      let newmember := ⟨playerGuid, (characters playerGuid).getD []⟩
      let s := { s with memberRows := s.memberRows ++ [(team.teamId, playerGuid)] }
      (s.setInArenaTeam team playerGuid, { team with members := team.members ++ [newmember] }, true)

/-- `Create`, with the new team where it returns true.  The name that is looked up is the one of the
new team, which it does not have yet. -/
def create (captainGuid type : Nat) (teamName : List Char) :
    Option (ArenaWorld × Option ArenaTeam) :=
  if captainGuid ∉ s.inWorld then some (s, none)
  else if (s.byName ({} : ArenaTeam).teamName).isSome then some (s, none)
  else
    let team : ArenaTeam :=
      { teamId := s.nextArenaTeamId
        captainGuid := captainGuid
        type := type % 256
        teamName := teamName }
    let s := { s with
      nextArenaTeamId := s.nextArenaTeamId + 1
      teamRows := s.teamRows.set team.teamId team.row }
    (s.addMember characters team captainGuid).map fun (s, team, _) => (s, some team)

def setCaptain (team : ArenaTeam) (guid : Nat) : ArenaWorld :=
  let team := { team with captainGuid := guid }
  { s.put team.teamId team with
    teamRows := s.teamRows.update team.teamId fun row => { row with captainGuid := guid } }

def clearFields (team : ArenaTeam) (guid : Nat) : Option ArenaWorld :=
  if guid ∈ s.inWorld then team.slot.map fun slot => s.setArenaTeamId guid slot 0 else some s

def delMember (team : ArenaTeam) (guid : Nat) (cleanDb : Bool) : Option ArenaWorld :=
  let team := { team with members := team.members.eraseP fun m => m.guid = guid }
  ((s.put team.teamId team).clearFields team guid).map fun s =>
    if cleanDb then { s with memberRows := s.memberRows.filter (· ≠ (team.teamId, guid)) } else s

/-- `Disband`: all members leave, from the front of the list on. -/
def disband (team : ArenaTeam) : Option ArenaWorld :=
  (team.guids.foldlM (fun (s : ArenaWorld) guid => s.clearFields team guid) s).map fun s =>
    { s with
      store := s.store.erase team.teamId
      teamRows := s.teamRows.erase team.teamId
      memberRows := s.memberRows.filter fun r => r.1 ≠ team.teamId }

end ArenaWorld

/-!
## Requests

The requests about arena teams: `ArenaTeamHandler` and the turning in of an arena team charter, the
login and logout of players, and their way from one map to another.

What is looked up for a request is part of it: the players with the given names, levels, factions and
ignore lists, whether a player is in an arena and whether a team is in a fight.
-/

inductive ArenaRequest where
  | create (guid type : Nat) (name : List Char)
  /-- A charter of the player, with those who signed it. -/
  | turnInPetition (guid type : Nat) (name : List Char) (signatures : List Nat)
  /-- `allowed` is what level, faction and ignore list of the invited player say. -/
  | invite (guid arenaTeamId : Nat) (player : Option Nat) (allowed : Bool)
  | accept (guid : Nat) (allied : Bool)
  | decline (guid : Nat)
  | leave (guid arenaTeamId : Nat) (inArena : Bool)
  | disband (guid arenaTeamId : Nat) (isFighting : Bool)
  /-- `none` for a name that is not normalised. -/
  | remove (guid arenaTeamId : Nat) (name : Option (List Char))
  | leader (guid arenaTeamId : Nat) (name : Option (List Char))
  | login (guid : Nat)
  | logout (guid : Nat)
  /-- A teleport to another map begins. -/
  | leaveWorld (guid : Nat)
  | enterWorld (guid : Nat)
deriving DecidableEq

def ArenaRequest.guid : ArenaRequest → Nat
  | create guid .. | turnInPetition guid .. | invite guid .. | accept guid .. | decline guid
  | leave guid .. | disband guid .. | remove guid .. | leader guid .. | login guid
  | logout guid | leaveWorld guid | enterWorld guid => guid

namespace ArenaWorld

variable (characters : Nat → Option (List Char)) (s : ArenaWorld)

def handleArenaTeamCreate (guid type : Nat) (name : List Char) : Option ArenaWorld :=
  (s.create characters guid type name).map fun (s, team) => match team with
    | none => s
    | some team => s.put team.teamId team

def addSignatures (arenaTeamId : Nat) : List Nat → ArenaWorld → Option ArenaWorld
  | [], s => some s
  | guid :: signatures, s => match s.byId arenaTeamId with
    | none => some s
    | some team => (s.addMember characters team guid).bind fun (s, team, _) =>
        addSignatures arenaTeamId signatures (s.put arenaTeamId team)

def handleTurnInPetition (guid type : Nat) (name : List Char) (signatures : List Nat) :
    Option ArenaWorld :=
  match ArenaTeam.slotByType type with
  | none => some s
  | some slot =>
    if s.arenaTeamId guid slot ≠ 0 then some s
    else if (s.byName name).isSome then some s
    else if signatures.length < type - 1 then some s
    else (s.create characters guid type name).bind fun (s, team) => match team with
      | none => some s
      | some team => addSignatures characters team.teamId signatures (s.put team.teamId team)

def handleArenaTeamInvite (arenaTeamId : Nat) (player : Option Nat) (allowed : Bool) :
    Option ArenaWorld :=
  match player, s.byId arenaTeamId with
  | some player, some team =>
    if player ∉ s.inWorld ∨ allowed = false then some s
    else team.slot.map fun slot =>
      if s.arenaTeamId player slot ≠ 0 then s
      else if s.invited player ≠ 0 then s
      else if team.members.length ≥ team.type * 2 then s
      else { s with invited := Function.update s.invited player team.teamId }
  | _, _ => some s

def handleArenaTeamAccept (guid : Nat) (allied : Bool) : Option ArenaWorld :=
  match s.byId (s.invited guid) with
  | none => some s
  | some team => team.slot.bind fun slot =>
    if s.arenaTeamId guid slot ≠ 0 ∨ allied = false then some s
    else (s.addMember characters team guid).map fun (s, team, _) => s.put team.teamId team

def handleArenaTeamLeave (guid arenaTeamId : Nat) (inArena : Bool) : Option ArenaWorld :=
  match s.byId arenaTeamId with
  | none => some s
  | some team =>
    if inArena then some s
    else if guid = team.captainGuid ∧ team.members.length > 1 then some s
    else if guid = team.captainGuid then s.disband team
    else s.delMember team guid true

def handleArenaTeamDisband (guid arenaTeamId : Nat) (isFighting : Bool) : Option ArenaWorld :=
  match s.byId arenaTeamId with
  | none => some s
  | some team => if team.captainGuid ≠ guid ∨ isFighting then some s else s.disband team

def otherMember (team : ArenaTeam) (guid : Nat) (name : Option (List Char)) :
    Option ArenaTeamMember :=
  if team.captainGuid ≠ guid then none
  else (name.bind team.memberByName).filter fun member => team.captainGuid ≠ member.guid

def handleArenaTeamRemove (guid arenaTeamId : Nat) (name : Option (List Char)) :
    Option ArenaWorld :=
  match s.byId arenaTeamId with
  | none => some s
  | some team => match otherMember team guid name with
    | none => some s
    | some member => s.delMember team member.guid true

def handleArenaTeamLeader (guid arenaTeamId : Nat) (name : Option (List Char)) : ArenaWorld :=
  match s.byId arenaTeamId with
  | none => s
  | some team => match otherMember team guid name with
    | none => s
    | some member => s.setCaptain team member.guid

/-- One row in `_LoadArenaTeamInfo`. -/
def loadArenaTeam (guid : Nat) (ids : Nat → Nat) (row : Nat × Nat) : Nat → Nat :=
  if row.2 ≠ guid then ids
  else match (s.byId row.1).bind ArenaTeam.slot with
    | none => ids
    | some slot => Function.update ids slot row.1

/-- What a player has after login: the teams of his rows, checked against their members. -/
def loadArenaTeamInfo (guid : Nat) : Nat → Nat :=
  let ids := s.memberRows.foldl (s.loadArenaTeam guid) fun _ => 0
  fun slot => if (s.byId (ids slot)).any fun team => team.isMember guid then ids slot else 0

def handleLogin (guid : Nat) : ArenaWorld :=
  { s with
    online := insert guid s.online
    inWorld := insert guid s.inWorld
    arenaTeamId := Function.update s.arenaTeamId guid (s.loadArenaTeamInfo guid)
    invited := Function.update s.invited guid 0 }

def handle : ArenaRequest → Option ArenaWorld
  | .create guid type name => s.handleArenaTeamCreate characters guid type name
  | .turnInPetition guid type name signatures =>
    s.handleTurnInPetition characters guid type name signatures
  | .invite _ arenaTeamId player allowed => s.handleArenaTeamInvite arenaTeamId player allowed
  | .accept guid allied => s.handleArenaTeamAccept characters guid allied
  | .decline guid => some { s with invited := Function.update s.invited guid 0 }
  | .leave guid arenaTeamId inArena => s.handleArenaTeamLeave guid arenaTeamId inArena
  | .disband guid arenaTeamId isFighting => s.handleArenaTeamDisband guid arenaTeamId isFighting
  | .remove guid arenaTeamId name => s.handleArenaTeamRemove guid arenaTeamId name
  | .leader guid arenaTeamId name => some (s.handleArenaTeamLeader guid arenaTeamId name)
  | .login _ | .enterWorld _ => some s
  | .leaveWorld guid => some { s with inWorld := s.inWorld.erase guid }
  | .logout guid =>
    some { s with online := s.online.erase guid, inWorld := s.inWorld.erase guid }

/-- Requests come from players who are in the world; after an assertion that failed nothing is done. -/
def step (request : ArenaRequest) : ArenaWorld :=
  match request with
  | .login guid => if guid ∈ s.online then s else s.handleLogin guid
  | .enterWorld guid =>
    if guid ∈ s.online then { s with inWorld := insert guid s.inWorld } else s
  | request => if request.guid ∈ s.inWorld then (s.handle characters request).getD s else s

end ArenaWorld

end SkyfireBG
