import SkyfireBG.Battleground.Battle

/-!
# SkyfireBG.Battleground.Warsong

The flags of Warsong Gulch.  A flag is named by the team it belongs to; a keeper of zero is `none`.

A dropped flag is an object that a spell of the dropper summons; `dropped` is its guid, or `none`
when the spell made none.  Spells, sounds, messages, world states and the objects' own respawn
times are left out.
-/

namespace SkyfireBG

inductive FlagState where
  | onBase
  | waitRespawn
  | onPlayer
  | onGround
deriving DecidableEq, Repr

def BG_WS_MAX_TEAM_SCORE : Nat := 3
def BG_WS_FLAG_RESPAWN_TIME : Int := 23000
def BG_WS_FLAG_DROP_TIME : Int := 10000

structure WarsongWorld extends BattlegroundSettings where
  getTeam : Nat → Team
  /-- `BgObjects[BG_WS_OBJECT_A_FLAG]` and `BgObjects[BG_WS_OBJECT_H_FLAG]`. -/
  flagObject : Team → Nat

/-- The members that the constructor and `Reset` do not set start with any value. -/
structure BattlegroundWS extends Battleground where
  flagKeepers : Team → Option Nat := fun _ => none
  droppedFlagGUID : Team → Nat := fun _ => 0
  flagState : Team → FlagState := fun _ => .onBase
  flagsTimer : Team → Int
  flagsDropTimer : Team → Int
  lastFlagCaptureTeam : Option Team := none
  teamScores : Team → Nat := fun _ => 0
  flagSpellForceTimer : Int
  bothFlagsKept : Bool
  flagDebuffState : Nat := 0
  minutesElapsed : Nat := 0

namespace BattlegroundWS

def setFlagPicker (t : Team) (keeper : Option Nat) (s : BattlegroundWS) : BattlegroundWS :=
  { s with flagKeepers := Function.update s.flagKeepers t keeper }

def setFlagState (t : Team) (state : FlagState) (s : BattlegroundWS) : BattlegroundWS :=
  { s with flagState := Function.update s.flagState t state }

def endBattleground (winner : Option Team) (s : BattlegroundWS) : BattlegroundWS :=
  { s with toBattleground := s.toBattleground.endBattleground winner }

/-- `captured` only decides which objects are spawned. -/
def respawnFlag (t : Team) (_captured : Bool) (s : BattlegroundWS) : BattlegroundWS :=
  { s.setFlagState t .onBase with bothFlagsKept := false }

def respawnFlagAfterDrop (t : Team) (s : BattlegroundWS) : BattlegroundWS :=
  if s.status ≠ .inProgress then s
  else
    { s.respawnFlag t false with
      droppedFlagGUID := Function.update s.droppedFlagGUID t 0, bothFlagsKept := false }

/-- The team `EventPlayerCapturedFlag` finds at the maximum; the Horde is looked at last. -/
def winner (s : BattlegroundWS) : Option Team :=
  if s.teamScores .horde = BG_WS_MAX_TEAM_SCORE then some .horde
  else if s.teamScores .alliance = BG_WS_MAX_TEAM_SCORE then some .alliance
  else none

def addPoint (t : Team) (s : BattlegroundWS) : BattlegroundWS :=
  { s with teamScores := Function.update s.teamScores t (s.teamScores t + 1) }

def eventPlayerCapturedFlag (w : WarsongWorld) (source : Nat) (s : BattlegroundWS) :
    BattlegroundWS :=
  let team := w.getTeam source
  if s.status ≠ .inProgress ∨ s.flagKeepers team.other = none then s
  else
    let s := (s.setFlagPicker team.other none).setFlagState team.other .waitRespawn
    let s := if s.teamScores team < BG_WS_MAX_TEAM_SCORE then s.addPoint team else s
    let s := { s with lastFlagCaptureTeam := some team }
    match s.winner with
    | some t => s.endBattleground (some t)
    | none =>
      { s with
        flagsTimer := Function.update s.flagsTimer team.other BG_WS_FLAG_RESPAWN_TIME }

def eventPlayerDroppedFlag (w : WarsongWorld) (source : Nat) (dropped : Option Nat)
    (s : BattlegroundWS) : BattlegroundWS :=
  let flag := (w.getTeam source).other
  if s.flagKeepers flag ≠ some source then s
  else if s.status ≠ .inProgress then s.setFlagPicker flag none
  else
    { (s.setFlagPicker flag none).setFlagState flag .onGround with
      droppedFlagGUID :=
        Function.update s.droppedFlagGUID flag (dropped.getD (s.droppedFlagGUID flag)),
      flagsDropTimer := Function.update s.flagsDropTimer flag BG_WS_FLAG_DROP_TIME }

def pickUpFromBase (w : WarsongWorld) (source target : Nat) (t : Team) (s : BattlegroundWS) :
    BattlegroundWS :=
  if w.getTeam source = t.other ∧ s.flagState t = .onBase ∧ w.flagObject t = target then
    { (s.setFlagPicker t (some source)).setFlagState t .onPlayer with
      bothFlagsKept := s.bothFlagsKept || decide (s.flagState t.other = .onPlayer) }
  else s

def clickOnGround (w : WarsongWorld) (source : Nat) (inRange : Bool) (t : Team)
    (s : BattlegroundWS) : BattlegroundWS :=
  if s.flagState t = .onGround ∧ inRange = true then
    if w.getTeam source = t then { s.respawnFlag t false with bothFlagsKept := false }
    else (s.setFlagPicker t (some source)).setFlagState t .onPlayer
  else s

/-- `inRange` is `IsWithinDistInMap` for the player and the object. -/
def eventPlayerClickedOnFlag (w : WarsongWorld) (source target : Nat) (inRange : Bool)
    (s : BattlegroundWS) : BattlegroundWS :=
  if s.status ≠ .inProgress then s
  else
    (((s.pickUpFromBase w source target .alliance).pickUpFromBase w source target .horde)
      |>.clickOnGround w source inRange .alliance).clickOnGround w source inRange .horde

/-- The part of `RemovePlayer` for one flag. -/
def removeKeeper (w : WarsongWorld) (guid : Nat) (online : Bool) (dropped : Option Nat) (t : Team)
    (s : BattlegroundWS) : BattlegroundWS :=
  if s.flagKeepers t = some guid then
    if online then s.eventPlayerDroppedFlag w guid dropped
    else (s.setFlagPicker t none).respawnFlag t false
  else s

def removePlayer (w : WarsongWorld) (guid : Nat) (online : Bool) (dropped : Option Nat)
    (s : BattlegroundWS) : BattlegroundWS :=
  (s.removeKeeper w guid online dropped .alliance).removeKeeper w guid online dropped .horde

def removePlayerAtLeave (w : WarsongWorld) (guid : Nat) (online : Bool) (dropped : Option Nat)
    (s : BattlegroundWS) : BattlegroundWS :=
  { s with toBattleground := s.toBattleground.erasePlayer guid }.removePlayer w guid online dropped

def eventPlayerLoggedOut (w : WarsongWorld) (guid : Nat) (dropped : Option Nat)
    (s : BattlegroundWS) : BattlegroundWS :=
  let s := { s with toBattleground := s.toBattleground.touchPlayer guid }
  if s.status = .inProgress then s.removePlayer w guid true dropped else s

def handleKillPlayer (w : WarsongWorld) (guid : Nat) (dropped : Option Nat)
    (s : BattlegroundWS) : BattlegroundWS :=
  if s.status ≠ .inProgress then s else s.eventPlayerDroppedFlag w guid dropped

def handleAreaTrigger (w : WarsongWorld) (source trigger : Nat) (s : BattlegroundWS) :
    BattlegroundWS :=
  if s.status ≠ .inProgress then s
  else if trigger = 3646 then
    if s.flagState .horde ≠ .onBase ∧ s.flagState .alliance = .onBase ∧
        s.flagKeepers .horde = some source then
      s.eventPlayerCapturedFlag w source
    else s
  else if trigger = 3647 then
    if s.flagState .alliance ≠ .onBase ∧ s.flagState .horde = .onBase ∧
        s.flagKeepers .alliance = some source then
      s.eventPlayerCapturedFlag w source
    else s
  else s

def timeWinner (s : BattlegroundWS) : Option Team :=
  if s.teamScores .alliance = 0 then
    if s.teamScores .horde = 0 then none else some .horde
  else if s.teamScores .horde = 0 then some .alliance
  else if s.teamScores .horde = s.teamScores .alliance then s.lastFlagCaptureTeam
  else if s.teamScores .alliance < s.teamScores .horde then some .horde
  else some .alliance

def checkTime (s : BattlegroundWS) : BattlegroundWS :=
  if 25 * 60 * 1000 ≤ s.startTime then s.endBattleground s.timeWinner
  else if s.minutesElapsed * 60 * 1000 < s.startTime then
    { s with minutesElapsed := (s.minutesElapsed + 1) % 256 }
  else s

def updateRespawn (diff : Nat) (t : Team) (s : BattlegroundWS) : BattlegroundWS :=
  if s.flagState t = .waitRespawn then
    let left := subInt32 (s.flagsTimer t) diff
    if left < 0 then
      { s with flagsTimer := Function.update s.flagsTimer t 0 }.respawnFlag t true
    else { s with flagsTimer := Function.update s.flagsTimer t left }
  else s

def updateDrop (diff : Nat) (t : Team) (s : BattlegroundWS) : BattlegroundWS :=
  if s.flagState t = .onGround then
    let left := subInt32 (s.flagsDropTimer t) diff
    if left < 0 then
      { { s with flagsDropTimer := Function.update s.flagsDropTimer t 0 }.respawnFlagAfterDrop t with
        bothFlagsKept := false }
    else { s with flagsDropTimer := Function.update s.flagsDropTimer t left }
  else s

def updateDebuff (diff : Nat) (s : BattlegroundWS) : BattlegroundWS :=
  if s.bothFlagsKept then
    let s := { s with flagSpellForceTimer := addInt32 s.flagSpellForceTimer diff }
    if s.flagDebuffState = 0 ∧ 10 * 60 * 1000 ≤ s.flagSpellForceTimer then
      { s with flagDebuffState := 1 }
    else if s.flagDebuffState = 1 ∧ 900000 ≤ s.flagSpellForceTimer then
      { s with flagDebuffState := 2 }
    else s
  else { s with flagSpellForceTimer := 0, flagDebuffState := 0 }

def postUpdateImpl (diff : Nat) (s : BattlegroundWS) : BattlegroundWS :=
  if s.status = .inProgress then
    ((s.checkTime.updateRespawn diff .alliance).updateDrop diff .alliance
      |>.updateRespawn diff .horde).updateDrop diff .horde |>.updateDebuff diff
  else s

/-- What an update finds besides the time that passed: the head of the offline queue, if its time
is up, who is online, the object of a flag dropped on the way, and the starting countdown. -/
structure WarsongUpdate where
  diff : Nat
  offline : Option Nat := none
  online : Nat → Bool := fun _ => false
  dropped : Option Nat := none
  delay : StartDelay := .running

def processOfflineQueue (w : WarsongWorld) (u : WarsongUpdate) (s : BattlegroundWS) :
    BattlegroundWS :=
  match u.offline with
  | none => s
  | some guid =>
    if s.players.find? guid = none then s
    else s.removePlayerAtLeave w guid (u.online guid) u.dropped

def processLeave (w : WarsongWorld) (u : WarsongUpdate) (s : BattlegroundWS) : BattlegroundWS :=
  let left := subInt32 s.endTime u.diff
  if left ≤ 0 then
    (s.players.entries.map Prod.fst).foldl
      (fun s guid => s.removePlayerAtLeave w guid (u.online guid) u.dropped)
      { s with endTime := 0 }
  else { s with endTime := left }

def update (w : WarsongWorld) (u : WarsongUpdate) (s : BattlegroundWS) : BattlegroundWS :=
  if s.players.size = 0 then s
  else
    let s := match s.status with
      | .waitJoin => { s with toBattleground := s.toBattleground.processJoin u.delay }
      | .inProgress =>
        let s := s.processOfflineQueue w u
        { s with toBattleground := s.toBattleground.checkPremature w.toBattlegroundSettings u.diff }
      | .waitLeave => s.processLeave w u
    { s with toBattleground := s.toBattleground.addStartTime u.diff }.postUpdateImpl u.diff

inductive Act where
  | addPlayer (guid : Nat) (team : Team)
  | loggedIn (guid : Nat)
  | loggedOut (guid : Nat) (dropped : Option Nat)
  | leave (guid : Nat) (online : Bool) (dropped : Option Nat)
  | click (source target : Nat) (inRange : Bool)
  | drop (source : Nat) (dropped : Option Nat)
  | kill (guid : Nat) (dropped : Option Nat)
  | areaTrigger (source trigger : Nat)
  | update (u : WarsongUpdate)

def act (w : WarsongWorld) (s : BattlegroundWS) : Act → BattlegroundWS
  | .addPlayer guid team => { s with toBattleground := s.toBattleground.addPlayer guid team }
  | .loggedIn guid => { s with toBattleground := s.toBattleground.touchPlayer guid }
  | .loggedOut guid dropped => s.eventPlayerLoggedOut w guid dropped
  | .leave guid online dropped => s.removePlayerAtLeave w guid online dropped
  | .click source target inRange => s.eventPlayerClickedOnFlag w source target inRange
  | .drop source dropped => s.eventPlayerDroppedFlag w source dropped
  | .kill guid dropped => s.handleKillPlayer w guid dropped
  | .areaTrigger source trigger => s.handleAreaTrigger w source trigger
  | .update u => s.update w u

def runActs (w : WarsongWorld) (s : BattlegroundWS) (acts : List Act) : BattlegroundWS :=
  acts.foldl (act w) s

structure Waiting (s : BattlegroundWS) : Prop where
  status : s.status = .waitJoin
  ends : s.ends = []
  keepers : ∀ t, s.flagKeepers t = none
  states : ∀ t, s.flagState t = .onBase
  scores : ∀ t, s.teamScores t = 0

end BattlegroundWS

end SkyfireBG
