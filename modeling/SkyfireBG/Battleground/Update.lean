import SkyfireBG.Battleground.Queue

/-!
# SkyfireBG.Battleground.Update

`BattlegroundQueueUpdate`: which groups are invited, and which are moved to another list for it.

The two selection pools are emptied before each use, so they are passed along and are no part of the
queue.  What the update reads of the battlegrounds, of the configuration and of the clock is its
argument, a `QueueUpdate`.
-/

namespace SkyfireBG

structure SelectionPool where
  selectedGroups : List Nat := []
  playerCount : Nat := 0

structure QueueUpdate where
  bracket : BattlegroundBracketId
  /-- The battlegrounds of the type and bracket with free slots: the number of the instance and the
  free slots of both teams. -/
  freeSlotQueue : List (Nat × Nat × Nat)
  hasTemplate : Bool := true
  isArena : Bool
  arenaType : Nat := 0
  isRated : Bool := false
  arenaRating : Nat := 0
  minPlayersPerTeam : Nat
  maxPlayersPerTeam : Nat
  isTesting : Bool := false
  isArenaTesting : Bool := false
  /-- `CONFIG_BATTLEGROUND_INVITATION_TYPE`. -/
  invitationType : Nat := 0
  /-- Groups that joined before this leave the premade lists. -/
  timeBefore : Nat := 0
  maxRatingDifference : Nat := 0
  discardTime : Nat := 0
  /-- The instances `CreateNewBattleground` makes, for a premade match and for any other. -/
  premadeBattleground : Option Nat := none
  newBattleground : Option Nat := none

namespace QueueUpdate

variable (u : QueueUpdate)

def minPlayers : Nat :=
  if u.isArena then if u.isArenaTesting then 1 else u.arenaType
  else if u.isTesting then 1 else u.minPlayersPerTeam

def maxPlayers : Nat := if u.isArena then u.arenaType else u.maxPlayersPerTeam

end QueueUpdate

namespace BattlegroundQueue

variable (q : BattlegroundQueue)

/-- `Players.size()`. -/
def playersSize (g : Nat) : Nat := match q.group g with
  | some info => info.players.size
  | none => 0

/-- `SelectionPool::AddGroup`. -/
def addToPool (pool : SelectionPool) (g desiredCount : Nat) : Bool × SelectionPool :=
  if !q.isInvited g && desiredCount ≥ pool.playerCount + q.playersSize g then
    (true, { selectedGroups := pool.selectedGroups ++ [g]
             playerCount := pool.playerCount + q.playersSize g })
  else (decide (pool.playerCount < desiredCount), pool)

/-- The search of `KickGroup`: the last group of about this size, or else the last of the largest. -/
def groupToKick (size : Nat) (acc : Option Nat × Bool) (g : Nat) : Option Nat × Bool :=
  if ((q.playersSize g : Int) - size).natAbs ≤ 1 then (some g, true)
  else if !acc.2 && acc.1.all (fun k => q.playersSize g ≥ q.playersSize k) then (some g, acc.2)
  else acc

def kickGroup (pool : SelectionPool) (size : Nat) : Bool × SelectionPool :=
  match (pool.selectedGroups.foldl (q.groupToKick size) (none, false)).1 with
  | none => (true, pool)
  | some g =>
    if pool.playerCount = 0 then (true, pool)
    else (!decide (q.playersSize g ≤ size + 1),
      { selectedGroups := pool.selectedGroups.erase g
        playerCount := pool.playerCount - q.playersSize g })

/-- The loop that adds groups from the list as long as `AddGroup` wants more. -/
def addWhile (desiredCount : Nat) : SelectionPool → List Nat → SelectionPool × List Nat
  | pool, [] => (pool, [])
  | pool, g :: rest =>
    if (q.addToPool pool g desiredCount).1 then
      addWhile desiredCount (q.addToPool pool g desiredCount).2 rest
    else ((q.addToPool pool g desiredCount).2, g :: rest)

/-- One turn of the loop of `FillPlayersToBG` on the side with less room: a group is kicked, others
take its place, and when nobody is left the other side has to give way.  The flag says to go on. -/
def lighten (free : Nat) (diffOther : Int) (size : Nat) (own : SelectionPool × List Nat)
    (other : SelectionPool) : Bool × (SelectionPool × List Nat) × SelectionPool :=
  let kicked := q.kickGroup own.1 size
  let own' := if kicked.1 then
      q.addWhile (if (free : Int) ≥ diffOther then (free - diffOther).toNat else 0) kicked.2 own.2
    else (kicked.2, own.2)
  if own'.1.playerCount = 0 then
    if (free : Int) ≤ diffOther + 1 then (false, own', other)
    else (true, own', (q.kickGroup other size).2)
  else (true, own', other)

/-- The loop of `FillPlayersToBG`; every turn kicks a group, so that the fuel is the number of
groups. -/
def balance (aliFree hordeFree : Nat) : Nat → SelectionPool × List Nat → SelectionPool × List Nat →
    SelectionPool × SelectionPool
  | 0, ali, horde => (ali.1, horde.1)
  | fuel + 1, ali, horde =>
    let diffAli : Int := aliFree - ali.1.playerCount
    let diffHorde : Int := hordeFree - horde.1.playerCount
    if (diffAli - diffHorde).natAbs > 1 ∧ (0 < horde.1.playerCount ∨ 0 < ali.1.playerCount) then
      if diffAli < diffHorde then
        match q.lighten aliFree diffHorde (diffHorde - diffAli).toNat ali horde.1 with
        | (false, ali, horde') => (ali.1, horde')
        | (true, ali, horde') => balance aliFree hordeFree fuel ali (horde', horde.2)
      else
        match q.lighten hordeFree diffAli (diffAli - diffHorde).toNat horde ali.1 with
        | (false, horde, ali') => (ali', horde.1)
        | (true, horde, ali') => balance aliFree hordeFree fuel (ali', ali.2) horde
    else (ali.1, horde.1)

/-- `FillPlayersToBG`: the pools of both teams. -/
def fillPlayersToBG (u : QueueUpdate) (aliFree hordeFree : Nat) : SelectionPool × SelectionPool :=
  let aliList := q.queuedGroups u.bracket BG_QUEUE_NORMAL_ALLIANCE
  let hordeList := q.queuedGroups u.bracket BG_QUEUE_NORMAL_HORDE
  let ali := q.addWhile aliFree {} aliList
  let horde := q.addWhile hordeFree {} hordeList
  if u.invitationType = 0 then (ali.1, horde.1)
  else q.balance aliFree hordeFree (aliList.length + hordeList.length) ali horde

def invitePools (bg : Nat) (pools : SelectionPool × SelectionPool) : BattlegroundQueue :=
  (pools.1.selectedGroups ++ pools.2.selectedGroups).foldl
    (fun q g => q.inviteGroupToBG g bg none) q

def addUninvited (desiredCount : Nat) : SelectionPool → List Nat → SelectionPool
  | pool, [] => pool
  | pool, g :: rest =>
    if q.isInvited g then addUninvited desiredCount pool rest
    else if (q.addToPool pool g desiredCount).1 then
      addUninvited desiredCount (q.addToPool pool g desiredCount).2 rest
    else (q.addToPool pool g desiredCount).2

def premadeMatch (b : BattlegroundBracketId) (maxPlayers : Nat) :
    Option (SelectionPool × SelectionPool) :=
  match (q.queuedGroups b BG_QUEUE_PREMADE_ALLIANCE).find? (fun g => !q.isInvited g),
      (q.queuedGroups b BG_QUEUE_PREMADE_HORDE).find? (fun g => !q.isInvited g) with
  | some aliGroup, some hordeGroup =>
    let ali := (q.addToPool {} aliGroup maxPlayers).2
    let horde := (q.addToPool {} hordeGroup maxPlayers).2
    let most := min ali.playerCount horde.playerCount
    some (q.addUninvited most ali (q.queuedGroups b BG_QUEUE_NORMAL_ALLIANCE),
      q.addUninvited most horde (q.queuedGroups b BG_QUEUE_NORMAL_HORDE))
  | _, _ => none

def moveGroup (b : BattlegroundBracketId) (i j : QueueIndex) (g : Nat) : BattlegroundQueue :=
  let q' := q.setList b j (g :: q.queuedGroups b j)
  q'.setList b i ((q'.queuedGroups b i).erase g)

/-- The first premade group of a team goes to the normal list, when its time is up or it has become
too small. -/
def demotePremade (b : BattlegroundBracketId) (minPlayers timeBefore : Nat) (t : Team) :
    BattlegroundQueue :=
  match q.queuedGroups b t.premade with
  | [] => q
  | g :: _ =>
    match q.group g with
    | none => q
    | some info =>
      if info.isInvitedToBGInstanceGUID = 0 ∧
          (info.joinTime < timeBefore ∨ info.players.size < minPlayers) then
        q.moveGroup b t.premade t.normal g
      else q

/-- `CheckPremadeMatch`: the pools of a match, or the queue with late groups demoted. -/
def checkPremadeMatch (u : QueueUpdate) : Option (SelectionPool × SelectionPool) × BattlegroundQueue :=
  match q.premadeMatch u.bracket u.maxPlayers with
  | some pools => (some pools, q)
  | none => (none, (q.demotePremade u.bracket u.minPlayers u.timeBefore .alliance).demotePremade
      u.bracket u.minPlayers u.timeBefore .horde)

/-- The first loop of `CheckNormalMatch`, with what is left of the list after it. -/
def addUntil (minPlayers maxPlayers : Nat) : SelectionPool → List Nat → SelectionPool × List Nat
  | pool, [] => (pool, [])
  | pool, g :: rest =>
    if q.isInvited g then addUntil minPlayers maxPlayers pool rest
    else if (q.addToPool pool g maxPlayers).2.playerCount ≥ minPlayers then
      ((q.addToPool pool g maxPlayers).2, rest)
    else addUntil minPlayers maxPlayers (q.addToPool pool g maxPlayers).2 rest

def checkNormalMatch (u : QueueUpdate) : Bool × SelectionPool × SelectionPool :=
  let ali := q.addUntil u.minPlayers u.maxPlayers {}
    (q.queuedGroups u.bracket BG_QUEUE_NORMAL_ALLIANCE)
  let horde := q.addUntil u.minPlayers u.maxPlayers {}
    (q.queuedGroups u.bracket BG_QUEUE_NORMAL_HORDE)
  let full := horde.1.playerCount ≥ u.minPlayers ∧ ali.1.playerCount ≥ u.minPlayers
  let more := u.invitationType ≠ 0 ∧ full
  -- the smaller side is filled up to the other
  let ali' := if more ∧ ¬ horde.1.playerCount < ali.1.playerCount then
      q.addUninvited horde.1.playerCount ali.1 ali.2 else ali.1
  let horde' := if more ∧ horde.1.playerCount < ali.1.playerCount then
      q.addUninvited ali.1.playerCount horde.1 horde.2 else horde.1
  if more ∧ ((horde'.playerCount : Int) - ali'.playerCount).natAbs > 2 then (false, ali', horde')
  else if u.isTesting && !u.isArena && (ali'.playerCount != 0 || horde'.playerCount != 0) then
    (true, ali', horde')
  else (ali'.playerCount ≥ u.minPlayers && horde'.playerCount ≥ u.minPlayers, ali', horde')

def after (g : Nat) : List Nat → Option (List Nat)
  | [] => none
  | x :: rest => if x = g then some rest else after g rest

def changeSide (b : BattlegroundBracketId) (t : Team) (g : Nat) : BattlegroundQueue :=
  match q.group g with
  | none => q
  | some info => (q.setGroup g (some { info with team := t.other })).moveGroup b t.normal
      t.other.normal g

/-- `CheckSkirmishForSameFaction`: the pools of the team and of the groups that change sides. -/
def checkSkirmishForSameFaction (u : QueueUpdate) (pools : SelectionPool × SelectionPool) :
    Option (SelectionPool × SelectionPool × BattlegroundQueue) :=
  if pools.1.playerCount < u.minPlayers ∧ pools.2.playerCount < u.minPlayers then none
  else
    let t : Team := if pools.2.playerCount = u.minPlayers then .horde else .alliance
    let own := if pools.2.playerCount = u.minPlayers then pools.2 else pools.1
    match own.selectedGroups.getLast? with
    | none => none
    | some ginfo =>
      match after ginfo (q.queuedGroups u.bracket t.normal) with
      | none => none
      | some rest =>
        let other := q.addUninvited u.minPlayers {} rest
        if other.playerCount ≠ u.minPlayers then none
        else some (own, other,
          other.selectedGroups.foldl (fun q g => q.changeSide u.bracket t g) q)

def ratingMatches (minRating maxRating discardTime g : Nat) : Bool :=
  match q.group g with
  | none => false
  | some info => info.isInvitedToBGInstanceGUID == 0 &&
      ((info.arenaMatchmakerRating ≥ minRating && info.arenaMatchmakerRating ≤ maxRating) ||
        info.joinTime < discardTime)

/-- The rating the opponents are looked up by; `none` when nobody waits. -/
def ratingFor (u : QueueUpdate) : Option Nat :=
  if u.arenaRating ≠ 0 then some u.arenaRating
  else
    let front1 := (q.queuedGroups u.bracket BG_QUEUE_PREMADE_ALLIANCE).head?.bind q.group
    let front2 := (q.queuedGroups u.bracket BG_QUEUE_PREMADE_HORDE).head?.bind q.group
    match front1, front2 with
    | some i1, some i2 =>
      some (if i1.joinTime < i2.joinTime then i1.arenaMatchmakerRating
        else i2.arenaMatchmakerRating)
    | some i1, none => some i1.arenaMatchmakerRating
    | none, some i2 => some i2.arenaMatchmakerRating
    | none, none => none

def firstMatch (p : Nat → Bool) (maxPlayers : Nat) (l : List Nat) : Option Nat × SelectionPool :=
  match l.find? p with
  | none => (none, {})
  | some g => (some g, (q.addToPool {} g maxPlayers).2)

/-- The two groups of a rated match, for the alliance and for the horde: one of each list, or two of
the same. -/
def ratedPair (u : QueueUpdate) (arenaRating : Nat) : Option (Nat × Nat) :=
  let minRating := if arenaRating ≤ u.maxRatingDifference then 0
    else arenaRating - u.maxRatingDifference
  let p := q.ratingMatches minRating ((arenaRating + u.maxRatingDifference) % 2 ^ 32) u.discardTime
  let ali := q.queuedGroups u.bracket BG_QUEUE_PREMADE_ALLIANCE
  let horde := q.queuedGroups u.bracket BG_QUEUE_PREMADE_HORDE
  let a := q.firstMatch p u.maxPlayers ali
  let h := q.firstMatch p u.maxPlayers horde
  let a' := if a.2.playerCount = 0 ∧ h.2.playerCount ≠ 0 then
      q.firstMatch p u.maxPlayers ((h.1.bind (after · horde)).getD []) else a
  let h' := if h.2.playerCount = 0 ∧ a'.2.playerCount ≠ 0 then
      q.firstMatch p u.maxPlayers ((a'.1.bind (after · ali)).getD []) else h
  if a'.2.playerCount ≠ 0 ∧ h'.2.playerCount ≠ 0 then
    match a'.1, h'.1 with
    | some ali, some horde => some (ali, horde)
    | _, _ => none
  else none

def moveTo (b : BattlegroundBracketId) (t : Team) (g : Nat) : BattlegroundQueue :=
  if (q.group g).any (fun info => info.team != t) then
    q.moveGroup b t.other.premade t.premade g
  else q

/-- The rated part of `BattlegroundQueueUpdate`. -/
def ratedUpdate (u : QueueUpdate) : BattlegroundQueue :=
  match (q.ratingFor u).bind (q.ratedPair u), u.newBattleground with
  | some (ali, horde), some arena =>
    let q' := (q.moveTo u.bracket .alliance ali).moveTo u.bracket .horde horde
    (q'.inviteGroupToBG ali arena (some .alliance)).inviteGroupToBG horde arena (some .horde)
  | _, _ => q

def normalUpdate (u : QueueUpdate) : BattlegroundQueue :=
  match q.checkNormalMatch u with
  | (true, pools) => match u.newBattleground with
    | some bg => q.invitePools bg pools
    | none => q
  | (false, pools) =>
    if u.isArena then
      match q.checkSkirmishForSameFaction u pools with
      | some (own, other, q') => match u.newBattleground with
        | some bg => q'.invitePools bg (own, other)
        | none => q'
      | none => q
    else q

def premadeUpdate (u : QueueUpdate) : Option BattlegroundQueue × BattlegroundQueue :=
  if u.isArena then (some q, q)
  else match q.checkPremadeMatch u with
    | (none, q') => (some q', q')
    | (some pools, q') => match u.premadeBattleground with
      | some bg => (some (q'.invitePools bg pools), q')
      | none => (none, q')

def fillFreeSlots (u : QueueUpdate) : BattlegroundQueue :=
  if u.isArena then q
  else u.freeSlotQueue.foldl
    (fun q bg => q.invitePools bg.1 (q.fillPlayersToBG u bg.2.1 bg.2.2)) q

def battlegroundQueueUpdate (u : QueueUpdate) : BattlegroundQueue :=
  let q₁ := q.fillFreeSlots u
  if (List.finRange BG_QUEUE_GROUP_TYPES_COUNT).all
      (fun i => (q.queuedGroups u.bracket i).isEmpty) then q
  else if !u.hasTemplate then q₁
  else match q₁.premadeUpdate u with
    | (none, q₂) => q₂
    | (some q₂, _) =>
      if !u.isRated then q₂.normalUpdate u
      else if u.isArena then q₂.ratedUpdate u
      else q₂

end BattlegroundQueue

end SkyfireBG
