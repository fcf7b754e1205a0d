import SkyfireBG.Battleground.Battle

/-!
# SkyfireBG.Battleground.Arathi

The control points of Arathi Basin.

`shown` says which of the banners and auras are spawned, by their place in `BgObjects`.  `casts`
lists the reward spells cast on a team and `occupations` the nodes that were occupied, the last
one first.  Spirit guides, honour, reputation, messages, sounds and map icons are left out.
-/

namespace SkyfireBG

/-- `GetTeamIndexByTeamId`. -/
def Team.index : Team → Nat
  | .alliance => 0
  | .horde => 1

abbrev BasinNode := Fin 5

def BG_AB_NODE_TYPE_NEUTRAL : Nat := 0
def BG_AB_NODE_TYPE_CONTESTED : Nat := 1
def BG_AB_NODE_TYPE_OCCUPIED : Nat := 3
def BG_AB_FLAG_CAPTURING_TIME : Nat := 60000
def BG_AB_WARNING_NEAR_VICTORY_SCORE : Nat := 1400
def BG_AB_MAX_TEAM_SCORE : Nat := 1600
def SPELL_AB_QUEST_REWARD_4_BASES : Nat := 24061
def SPELL_AB_QUEST_REWARD_5_BASES : Nat := 24064

def BG_AB_TickIntervals : List Nat := [0, 12000, 9000, 6000, 3000, 1000]
def BG_AB_TickPoints : List Nat := [0, 10, 10, 10, 10, 30]

structure BannerTimer where
  timer : Nat := 0
  type : Nat := 0
  teamIndex : Nat := 0
deriving DecidableEq, Repr

structure Occupation where
  node : BasinNode
  team : Team
  held : Nat
deriving DecidableEq, Repr

structure BattlegroundAB extends Battleground where
  nodes : BasinNode → Nat := fun _ => 0
  prevNodes : BasinNode → Nat := fun _ => 0
  nodeTimers : BasinNode → Nat := fun _ => 0
  bannerTimers : BasinNode → BannerTimer := fun _ => {}
  shown : Nat → Bool
  /-- The world states `BG_AB_OP_OCCUPIED_BASES_ALLY` and `BG_AB_OP_OCCUPIED_BASES_HORDE`. -/
  occupiedBases : Team → Nat := fun _ => 0
  teamScores : Team → Nat := fun _ => 0
  lastTick : Team → Nat := fun _ => 0
  honorScoreTics : Team → Nat := fun _ => 0
  reputationScoreTics : Team → Nat := fun _ => 0
  isInformedNearVictory : Bool := false
  teamScores500Disadvantage : Team → Bool := fun _ => false
  honorTics : Nat
  reputationTics : Nat
  casts : List (Nat × Team) := []
  occupations : List Occupation := []

namespace BattlegroundAB

/-- How many of the nodes satisfy `p`. -/
def countNodes (p : BasinNode → Bool) : Nat := (List.finRange 5).countP p

def endBattleground (winner : Option Team) (s : BattlegroundAB) : BattlegroundAB :=
  { s with toBattleground := s.toBattleground.endBattleground winner }

def bannerObject (node : BasinNode) (type teamIndex : Nat) : Nat := node * 8 + type + teamIndex

def auraObject (node : BasinNode) (type teamIndex : Nat) : Nat :=
  node * 8 + if type = BG_AB_NODE_TYPE_OCCUPIED then 5 + teamIndex else 7

def spawnBGObject (obj : Nat) (spawned : Bool) (s : BattlegroundAB) : BattlegroundAB :=
  { s with shown := Function.update s.shown obj spawned }

def createBanner (node : BasinNode) (type teamIndex : Nat) (delay : Bool) (s : BattlegroundAB) :
    BattlegroundAB :=
  if delay then
    { s with bannerTimers := Function.update s.bannerTimers node ⟨2000, type, teamIndex⟩ }
  else
    let s := s.spawnBGObject (bannerObject node type teamIndex) true
    if type = 0 then s else s.spawnBGObject (auraObject node type teamIndex) true

def delBanner (node : BasinNode) (type teamIndex : Nat) (s : BattlegroundAB) : BattlegroundAB :=
  let s := s.spawnBGObject (bannerObject node type teamIndex) false
  if type = 0 then s else s.spawnBGObject (auraObject node type teamIndex) false

def held (s : BattlegroundAB) (t : Team) : Nat :=
  countNodes fun i => decide (s.nodes i = t.index + BG_AB_NODE_TYPE_OCCUPIED)

def sendNodeUpdate (s : BattlegroundAB) : BattlegroundAB := { s with occupiedBases := s.held }

/-- `_NodeOccupied` compares the node it was called for, and not the node of the loop. -/
def nodeOccupied (node : BasinNode) (team : Team) (s : BattlegroundAB) : BattlegroundAB :=
  let capturedNodes := countNodes fun i =>
    decide (s.nodes node = team.index + BG_AB_NODE_TYPE_OCCUPIED ∧ s.nodeTimers i = 0)
  let five := if 5 ≤ capturedNodes then [(SPELL_AB_QUEST_REWARD_5_BASES, team)] else []
  let four := if 4 ≤ capturedNodes then [(SPELL_AB_QUEST_REWARD_4_BASES, team)] else []
  { s with
    casts := four ++ five ++ s.casts, occupations := ⟨node, team, s.held team⟩ :: s.occupations }

def setNodeTimer (node : BasinNode) (timer : Nat) (s : BattlegroundAB) : BattlegroundAB :=
  { s with nodeTimers := Function.update s.nodeTimers node timer }

def changeNode (node : BasinNode) (value delType delTeam newType newTeam : Nat)
    (s : BattlegroundAB) : BattlegroundAB :=
  let s := { s with
    prevNodes := Function.update s.prevNodes node (s.nodes node),
    nodes := Function.update s.nodes node value }
  ((s.delBanner node delType delTeam).createBanner node newType newTeam true).sendNodeUpdate

def clickedNode (near : BasinNode → Bool) : Option BasinNode := (List.finRange 5).find? near

/-- The click of a player of `team`; `near` says which nodes' objects are within ten yards. -/
def eventPlayerClickedOnFlag (team : Team) (near : BasinNode → Bool) (s : BattlegroundAB) :
    BattlegroundAB :=
  if s.status ≠ .inProgress then s
  else
    match clickedNode near with
    | none => s
    | some node =>
      if ¬ (s.nodes node = 0 ∨ team.index = s.nodes node % 2) then s
      else if s.nodes node = BG_AB_NODE_TYPE_NEUTRAL then
        (s.changeNode node (team.index + 1) BG_AB_NODE_TYPE_NEUTRAL 0 BG_AB_NODE_TYPE_CONTESTED
          team.index).setNodeTimer node BG_AB_FLAG_CAPTURING_TIME
      else if s.nodes node = 1 ∨ s.nodes node = 2 then
        if s.prevNodes node < BG_AB_NODE_TYPE_OCCUPIED then
          (s.changeNode node (team.index + BG_AB_NODE_TYPE_CONTESTED) BG_AB_NODE_TYPE_CONTESTED
            team.other.index BG_AB_NODE_TYPE_CONTESTED team.index).setNodeTimer node
              BG_AB_FLAG_CAPTURING_TIME
        else
          ((s.changeNode node (team.index + BG_AB_NODE_TYPE_OCCUPIED) BG_AB_NODE_TYPE_CONTESTED
            team.other.index BG_AB_NODE_TYPE_OCCUPIED team.index).setNodeTimer node 0).nodeOccupied
              node team
      else
        (s.changeNode node (team.index + BG_AB_NODE_TYPE_CONTESTED) BG_AB_NODE_TYPE_OCCUPIED
          team.other.index BG_AB_NODE_TYPE_CONTESTED team.index).setNodeTimer node
            BG_AB_FLAG_CAPTURING_TIME

def updateBanner (diff : Nat) (node : BasinNode) (s : BattlegroundAB) : BattlegroundAB :=
  let b := s.bannerTimers node
  if b.timer = 0 then s
  else if diff < b.timer then
    { s with
      bannerTimers := Function.update s.bannerTimers node { b with timer := b.timer - diff } }
  else
    { s with
      bannerTimers := Function.update s.bannerTimers node { b with timer := 0 } }.createBanner node
        b.type b.teamIndex false

def updateTimer (diff : Nat) (node : BasinNode) (s : BattlegroundAB) : BattlegroundAB :=
  if s.nodeTimers node = 0 then s
  else if diff < s.nodeTimers node then s.setNodeTimer node (s.nodeTimers node - diff)
  else
    -- `m_Nodes[node] - 1`, as a `uint8`
    let teamIndex := (s.nodes node + 255) % 256
    let s := (s.setNodeTimer node 0).changeNode node (s.nodes node + 2) BG_AB_NODE_TYPE_CONTESTED
      teamIndex BG_AB_NODE_TYPE_OCCUPIED teamIndex
    s.nodeOccupied node (if teamIndex = 0 then .alliance else .horde)

/-- One turn of the loop over the nodes, with the nodes counted so far for each team. -/
def updateNode (diff : Nat) (r : BattlegroundAB × (Team → Nat)) (node : BasinNode) :
    BattlegroundAB × (Team → Nat) :=
  let s := (r.1.updateBanner diff node).updateTimer diff node
  (s, fun t => if s.nodes node = t.index + BG_AB_NODE_TYPE_OCCUPIED then r.2 t + 1 else r.2 t)

def updateNodes (diff : Nat) (s : BattlegroundAB) : BattlegroundAB × (Team → Nat) :=
  (List.finRange 5).foldl (updateNode diff) (s, fun _ => 0)

def tickInterval (points : Nat) : Nat := BG_AB_TickIntervals.getD points 0

def tickPoints (points : Nat) : Nat := BG_AB_TickPoints.getD points 0

def accumulate (diff points : Nat) (team : Team) (s : BattlegroundAB) : BattlegroundAB :=
  if points = 0 then s
  else
    let tick := (s.lastTick team + diff) % 2 ^ 32
    if tickInterval points < tick then
      let score := s.teamScores team + tickPoints points
      let reputation := s.reputationScoreTics team + tickPoints points
      let honor := s.honorScoreTics team + tickPoints points
      let capped := min score BG_AB_MAX_TEAM_SCORE
      { s with
        lastTick := Function.update s.lastTick team (tick - tickInterval points),
        teamScores := Function.update s.teamScores team capped,
        reputationScoreTics := Function.update s.reputationScoreTics team
          (if s.reputationTics ≤ reputation then reputation - s.reputationTics else reputation),
        honorScoreTics := Function.update s.honorScoreTics team
          (if s.honorTics ≤ honor then honor - s.honorTics else honor),
        isInformedNearVictory :=
          s.isInformedNearVictory || decide (BG_AB_WARNING_NEAR_VICTORY_SCORE < score),
        teamScores500Disadvantage :=
          if s.teamScores team.other + 500 < capped then
            Function.update s.teamScores500Disadvantage team.other true
          else s.teamScores500Disadvantage }
    else { s with lastTick := Function.update s.lastTick team tick }

def testWin (team : Team) (s : BattlegroundAB) : BattlegroundAB :=
  if BG_AB_MAX_TEAM_SCORE ≤ s.teamScores team then s.endBattleground (some team) else s

def postUpdateImpl (diff : Nat) (s : BattlegroundAB) : BattlegroundAB :=
  if s.status = .inProgress then
    let r := s.updateNodes diff
    ((r.1.accumulate diff (r.2 .alliance) .alliance).accumulate diff (r.2 .horde) .horde
      |>.testWin .alliance).testWin .horde
  else s

inductive Act where
  | click (team : Team) (near : BasinNode → Bool)
  | update (diff : Nat)

def act (s : BattlegroundAB) : Act → BattlegroundAB
  | .click team near => s.eventPlayerClickedOnFlag team near
  | .update diff => s.postUpdateImpl diff

structure Opened (s : BattlegroundAB) : Prop where
  status : s.status = .inProgress
  ends : s.ends = []
  nodes : ∀ i, s.nodes i = 0
  prevNodes : ∀ i, s.prevNodes i = 0
  timers : ∀ i, s.nodeTimers i = 0
  banners : ∀ i, (s.bannerTimers i).timer = 0
  shown : ∀ (i : BasinNode) k, k < 8 → (s.shown (i * 8 + k) = true ↔ k = 0)
  scores : ∀ t, s.teamScores t = 0
  casts : s.casts = []
  occupations : s.occupations = []

end BattlegroundAB

end SkyfireBG
