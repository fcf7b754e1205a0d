import SkyfireBG.Group.Data
import SkyfireBG.Lib.Lists
import SkyfireBG.Lfg.Data
import SkyfireBG.Lfg.Roles

/-!
# SkyfireBG.Lfg.Compatibility

The search for a group of `LFGMgr`: `CheckCompatibility` and `FindNewGroups`.

Random outcomes are given by `dice`, of which each draw takes the next.
-/

namespace SkyfireBG

def guidHiPart (guid : Nat) : Nat := guid / 2 ^ 48 % 2 ^ 16

/-- `GUID_LOPART` of players and groups. -/
def guidLoPart (guid : Nat) : Nat := guid % 2 ^ 32

def HIGHGUID_PLAYER : Nat := 0x0000

def HIGHGUID_GROUP : Nat := 0x1F50

def isPlayerGuid (guid : Nat) : Bool := guidHiPart guid == HIGHGUID_PLAYER && guid != 0

def isGroupGuid (guid : Nat) : Bool := guidHiPart guid == HIGHGUID_GROUP

/-- Who is queued under a guid, and for what.  A queued group is not larger than a party. -/
structure LfgQueueInfo where
  dungeons : Finset Nat
  roles : LfgRolesMap
  nonempty : 0 < roles.size
  small : roles.size ≤ MAXGROUPSIZE

structure LfgPlayer where
  /-- The low guids of those whom the player ignores. -/
  ignored : List Nat := []
  /-- The low guid of the group, and whether it is one of the dungeon finder. -/
  group : Option (Nat × Bool) := none

structure LfgWorld where
  players : Nat → Option LfgPlayer
  locked : Nat → List Nat
  state : Nat → LfgState
  /-- The groups, by low guid, that exist and are of the dungeon finder. -/
  isLFGGroup : Nat → Bool

inductive LfgProposalState where
  | INITIATING
  | SUCCESS
deriving DecidableEq, Repr

structure LfgProposalPlayer where
  guid : Nat
  role : BitVec 8
  accept : Bool
  groupLowGuid : Nat
deriving DecidableEq, Repr

structure LfgProposal where
  dungeonId : Nat
  state : LfgProposalState
  groupLowGuid : Nat
  leader : Nat
  queues : List Nat
  players : List LfgProposalPlayer
deriving DecidableEq, Repr

/-- The answers that are remembered are those for a list of guids: concatenated with a separator
they are a key. -/
structure LfgQueue where
  queueInfo : Nat → Option LfgQueueInfo
  compatibles : List Nat → Option Bool := fun _ => none
  currentQueue : Nat → List Nat := fun _ => []
  newToQueue : Nat → List Nat := fun _ => []
  used : Nat := 0

def concatenateGuids (check : List Nat) : String := String.intercalate "|" (check.map toString)

namespace LfgQueue

variable (s : LfgQueue) (check : List Nat) (guid : Nat)

def setCompatibles (compatibles : Bool) : LfgQueue :=
  { s with compatibles := Function.update s.compatibles check (some compatibles) }

/-- `RemoveFromCompatibles`: an answer goes when the digits of the guid are found in its key. -/
def removeFromCompatibles : LfgQueue :=
  { s with compatibles := fun key =>
      if (toString guid).toList <:+: (concatenateGuids key).toList then none
      else s.compatibles key }

def removeFromQueue : LfgQueue :=
  { s.removeFromCompatibles guid with
    queueInfo := Function.update s.queueInfo guid none
    currentQueue := fun q => (s.currentQueue q).filter (· ≠ guid)
    newToQueue := fun q => (s.newToQueue q).filter (· ≠ guid) }

end LfgQueue

namespace LfgWorld

variable (dice : Nat → Nat) (w : LfgWorld) (s : LfgQueue)

/-- What the first loop of `CheckCompatibility` finds. -/
structure Gathered where
  numPlayers : Nat := 0
  numLfgGroups : Nat := 0
  groupLowGuid : Nat := 0
  pqInfoMap : OrdMap Nat LfgQueueInfo := ∅

def isQueued (guid : Nat) : Bool := (s.queueInfo guid).isSome && w.state guid == .QUEUED

def isLfgGuid (guid : Nat) : Bool := isGroupGuid guid && w.isLFGGroup (guidLoPart guid)

def gatherOne (c : Gathered) (guid : Nat) (info : LfgQueueInfo) : Gathered where
  numPlayers := c.numPlayers + info.roles.size
  numLfgGroups := c.numLfgGroups + if w.isLfgGuid guid then 1 else 0
  groupLowGuid := if w.isLfgGuid guid ∧ c.numLfgGroups = 0 then guidLoPart guid else c.groupLowGuid
  pqInfoMap := c.pqInfoMap.set guid info

/-- The loop ends early at two groups of the dungeon finder, and at too many players.  The error is
a guid that is not queued. -/
def gather : List Nat → Gathered → Except Nat Gathered
  | [], c => .ok c
  | guid :: check, c =>
    if c.numLfgGroups < 2 ∧ c.numPlayers ≤ MAXGROUPSIZE then
      match s.queueInfo guid with
      | none => .error guid
      | some info =>
        if w.state guid ≠ .QUEUED then .error guid else gather check (w.gatherOne c guid info)
    else .ok c

structure Merged where
  roles : LfgRolesMap := ∅
  leader : Nat := 0
  used : Nat

def mergeOne (m : Merged) (e : Nat × BitVec 8) : Merged :=
  let roles := m.roles.set e.1 e.2
  if e.2 &&& ROLE_LEADER ≠ 0 then
    if m.leader = 0 then ⟨roles, e.1, m.used⟩
    else if dice m.used % 2 ≠ 0 then ⟨roles, e.1, m.used + 1⟩ else ⟨roles, m.leader, m.used + 1⟩
  else ⟨roles, m.leader, m.used⟩

def mergeRoles (pqInfoMap : OrdMap Nat LfgQueueInfo) (used : Nat) : Merged :=
  (pqInfoMap.entries.flatMap fun e => e.2.roles.entries).foldl (mergeOne dice) { used := used }

def ignoring (p q : Nat) : Bool :=
  (w.players p).any (fun x => x.ignored.contains (guidLoPart q)) ||
    (w.players q).any (fun x => x.ignored.contains (guidLoPart p))

def candidates (ps : List Nat) : List Nat :=
  ps.foldl (fun players p =>
    if (w.players p).isSome && !players.any (fun q => w.ignoring p q) then players ++ [p]
    else players) []

def commonDungeons (pqInfoMap : OrdMap Nat LfgQueueInfo) : Finset Nat :=
  match pqInfoMap.entries with
  | [] => ∅
  | e :: es => e.2.dungeons.filter fun d => es.all (fun e => decide (d ∈ e.2.dungeons))

/-- `GetCompatibleDungeons`: those that no player is locked out of. -/
def getCompatibleDungeons (dungeons : Finset Nat) (players : List Nat) : Finset Nat :=
  dungeons.filter fun d => players.all fun p => (w.locked p).all fun entry => entry % 2 ^ 24 != d

def pickDungeon (size : Nat) : Nat → Nat → Nat → Nat × Nat
  | 0, i, used => (i, used)
  | n + 1, i, used =>
    if i < dice used % size then pickDungeon size n (i + 1) (used + 1) else (i, used + 1)

def proposalPlayer (roles : LfgRolesMap) (p : Nat) : LfgProposalPlayer where
  guid := p
  role := (roles.find? p).getD 0
  accept := (w.players p).any fun x => x.group.any Prod.snd
  groupLowGuid := (((w.players p).bind LfgPlayer.group).map Prod.fst).getD 0

def newProposal (check : List Nat) (c : Gathered) (dungeons : Finset Nat) (players : List Nat)
    (leader : Nat) (roles : LfgRolesMap) (used : Nat) : LfgProposal × Nat :=
  let dungeon := pickDungeon dice dungeons.card dungeons.card 0 used
  let drawn := dice dungeon.2 % players.length
  let players' := players.map (w.proposalPlayer roles)
  let proposal :=
    { dungeonId := (ascending dungeons).getD dungeon.1 0
      state := if players'.countP LfgProposalPlayer.accept = MAXGROUPSIZE then .SUCCESS else .INITIATING
      groupLowGuid := c.groupLowGuid
      leader := if leader = 0 then players.getD drawn 0 else leader
      queues := check
      players := players' }
  (proposal, if leader = 0 then dungeon.2 + 1 else dungeon.2)

/-- What `CheckCompatibility` gives back: the answer, and the proposal where there is one now. -/
structure Checked where
  compatible : Bool
  proposal : Option LfgProposal
  queue : LfgQueue

/-- What `CheckCompatibility` does when the guids do not have too many players. -/
def checkGathered (check : List Nat) (pProposal : Option LfgProposal) (s : LfgQueue)
    (c : Gathered) : Checked :=
  let m := mergeRoles dice c.pqInfoMap s.used
  let s := { s with used := m.used }
  if m.roles.size ≠ c.numPlayers then ⟨false, pProposal, s⟩
  else
    let players := w.candidates m.roles.keys
    match (if players.length = c.numPlayers then checkGroupRoles m.roles else none) with
    | none => ⟨false, pProposal, s.setCompatibles check false⟩
    | some roles =>
      let dungeons := w.getCompatibleDungeons (commonDungeons c.pqInfoMap) players
      if dungeons = ∅ then ⟨false, pProposal, s.setCompatibles check false⟩
      else
        let s := s.setCompatibles check true
        if c.numPlayers ≠ MAXGROUPSIZE then ⟨true, pProposal, s⟩
        else
          let r := w.newProposal dice check c dungeons players m.leader roles s.used
          ⟨true, some r.1, { s with used := r.2 }⟩

/-- `CheckCompatibility` from the loop over the guids on. -/
def checkAll (check : List Nat) (pProposal : Option LfgProposal) (s : LfgQueue) : Checked :=
  match w.gather s check {} with
  | .error guid => ⟨false, pProposal, s.removeFromQueue guid⟩
  | .ok c =>
    if check.length = 1 ∧ c.numPlayers ≠ MAXGROUPSIZE then ⟨true, pProposal, s⟩
    else if c.numLfgGroups > 1 ∨ c.numPlayers > MAXGROUPSIZE then
      ⟨false, pProposal, s.setCompatibles check false⟩
    else w.checkGathered dice check pProposal s c

/-- `CheckCompatibility`: without the first guid before with it. -/
def checkCompatibility : List Nat → Option LfgProposal → LfgQueue → Checked
  | [], pProposal, s => ⟨false, pProposal, s⟩
  | front :: check, pProposal, s =>
    if pProposal.isSome then ⟨false, pProposal, s⟩
    else if (front :: check).length > MAXGROUPSIZE then ⟨false, pProposal, s⟩
    else if check = [] ∧ isPlayerGuid front then ⟨true, pProposal, s⟩
    else
      match s.compatibles (front :: check) with
      | some answer => ⟨answer, pProposal, s⟩
      | none =>
        if (front :: check).length > 2 then
          let r := checkCompatibility check pProposal s
          if r.compatible then w.checkAll dice (front :: check) r.proposal r.queue
          else ⟨false, r.proposal, r.queue.setCompatibles (front :: check) false⟩
        else w.checkAll dice (front :: check) pProposal s

/-- What `FindNewGroups` gives back, with what is left of the list `all`. -/
structure Found where
  proposal : Option LfgProposal
  all : List Nat
  queue : LfgQueue

/-- The loop of `FindNewGroups`, which takes what it tries off the list. -/
def matchLoop (find : List Nat → List Nat → LfgQueue → Found) (check : List Nat) :
    Nat → List Nat → Option LfgProposal → LfgQueue → Found
  | 0, all, pProposal, s => ⟨pProposal, all, s⟩
  | n + 1, all, pProposal, s =>
    match pProposal, all with
    | none, guid :: all =>
      let r := find (check ++ [guid]) all s
      matchLoop find check n r.all r.proposal r.queue
    | pProposal, all => ⟨pProposal, all, s⟩

/-- `FindNewGroups`.  Each call but the first has one guid less to try. -/
def findGroups : Nat → List Nat → List Nat → LfgQueue → Found
  | 0, _, all, s => ⟨none, all, s⟩
  | fuel + 1, check, all, s =>
    if check = [] ∨ check.length > MAXGROUPSIZE then ⟨none, all, s⟩
    else
      let r := w.checkCompatibility dice check none s
      if r.compatible then matchLoop (findGroups fuel) check (all.length + 1) all r.proposal r.queue
      else ⟨none, all, r.queue⟩

def findNewGroups (check all : List Nat) (s : LfgQueue) : Found :=
  w.findGroups dice (all.length + 1) check all s

end LfgWorld

end SkyfireBG
