import SkyfireBG.Lib.OrdMap

/-!
# SkyfireBG.Channel.Data

A chat channel as `Channel.h` declares it, and its constructor.
-/

namespace SkyfireBG

def MEMBER_FLAG_NONE : BitVec 8 := 0x00

def MEMBER_FLAG_OWNER : BitVec 8 := 0x01

def MEMBER_FLAG_MODERATOR : BitVec 8 := 0x02

def MEMBER_FLAG_MUTED : BitVec 8 := 0x08

structure Channel.PlayerInfo where
  player : Nat
  flags : BitVec 8
deriving DecidableEq, Repr

namespace Channel.PlayerInfo

variable (i : PlayerInfo) (state : Bool)

def isOwner : Bool := i.flags &&& MEMBER_FLAG_OWNER != 0

def isModerator : Bool := i.flags &&& MEMBER_FLAG_MODERATOR != 0

def isMuted : Bool := i.flags &&& MEMBER_FLAG_MUTED != 0

def put (flag : BitVec 8) : PlayerInfo :=
  { i with flags := if state then i.flags ||| flag else i.flags &&& ~~~flag }

def setOwner : PlayerInfo := i.put state MEMBER_FLAG_OWNER

def setModerator : PlayerInfo := i.put state MEMBER_FLAG_MODERATOR

def setMuted : PlayerInfo := i.put state MEMBER_FLAG_MUTED

variable {i state}

theorem put_flags (flags : BitVec 8) :
    (flags ||| MEMBER_FLAG_OWNER) &&& MEMBER_FLAG_OWNER ≠ 0 ∧
    (flags &&& ~~~MEMBER_FLAG_OWNER) &&& MEMBER_FLAG_OWNER = 0 ∧
    ∀ flag ∈ [MEMBER_FLAG_MODERATOR, MEMBER_FLAG_MUTED],
      (flags ||| flag) &&& MEMBER_FLAG_OWNER = flags &&& MEMBER_FLAG_OWNER ∧
      (flags &&& ~~~flag) &&& MEMBER_FLAG_OWNER = flags &&& MEMBER_FLAG_OWNER := by
  refine ⟨?_, ?_, fun flag hflag => ?_⟩
  · rw [BitVec.and_or_distrib_right, BitVec.and_self]
    exact fun h => absurd (BitVec.or_eq_zero_iff.mp h).2 (by decide)
  · rw [BitVec.and_assoc]
    exact BitVec.and_zero
  · obtain ⟨hapart, hkeeps⟩ : flag &&& MEMBER_FLAG_OWNER = 0 ∧
        ~~~flag &&& MEMBER_FLAG_OWNER = MEMBER_FLAG_OWNER := by
      revert flag
      decide
    rw [BitVec.and_or_distrib_right, hapart, BitVec.and_assoc, hkeeps]
    exact ⟨BitVec.or_zero, rfl⟩

@[simp] theorem setOwner_isOwner : (i.setOwner state).isOwner = state := by
  obtain ⟨hset, hunset, -⟩ := put_flags i.flags
  cases state with
  | true => exact bne_iff_ne.mpr hset
  | false => exact bne_eq_false_iff_eq.mpr hunset

theorem put_isOwner {flag : BitVec 8} (h : flag ∈ [MEMBER_FLAG_MODERATOR, MEMBER_FLAG_MUTED]) :
    (i.put state flag).isOwner = i.isOwner := by
  obtain ⟨-, -, hkeep⟩ := put_flags i.flags
  cases state with
  | true => exact congrArg (· != 0) (hkeep flag h).1
  | false => exact congrArg (· != 0) (hkeep flag h).2

@[simp] theorem setModerator_isOwner : (i.setModerator state).isOwner = i.isOwner :=
  put_isOwner (by simp)

@[simp] theorem setMuted_isOwner : (i.setMuted state).isOwner = i.isOwner :=
  put_isOwner (by simp)

end Channel.PlayerInfo

def CHANNEL_FLAG_CUSTOM : BitVec 8 := 0x01

def CHANNEL_FLAG_TRADE : BitVec 8 := 0x04

def CHANNEL_FLAG_NOT_LFG : BitVec 8 := 0x08

def CHANNEL_FLAG_GENERAL : BitVec 8 := 0x10

def CHANNEL_FLAG_CITY : BitVec 8 := 0x20

def CHANNEL_FLAG_LFG : BitVec 8 := 0x40

def CHANNEL_DBC_FLAG_TRADE : BitVec 32 := 0x00008

def CHANNEL_DBC_FLAG_CITY_ONLY2 : BitVec 32 := 0x00020

def CHANNEL_DBC_FLAG_LFG : BitVec 32 := 0x40000

inductive ChatNotify where
  | CHAT_WRONG_PASSWORD_NOTICE
  | CHAT_NOT_MEMBER_NOTICE
  | CHAT_NOT_MODERATOR_NOTICE
  | CHAT_PLAYER_NOT_FOUND_NOTICE
  | CHAT_NOT_OWNER_NOTICE
  | CHAT_BANNED_NOTICE
  | CHAT_PLAYER_ALREADY_MEMBER_NOTICE
  | CHAT_NOT_IN_LFG_NOTICE
deriving DecidableEq, Repr

/-- The settings, the built-in channels with their flags, and the comparison of names. -/
structure ChannelConfig where
  preserveCustomChannels : Bool
  restrictedLfgChannel : Bool
  twoSideInteractionChannel : Bool
  chatChannels : Nat → Option (BitVec 32)
  toLower : String → String

/-- A row of the table `channels`. -/
structure ChannelRow where
  announce : Bool
  ownership : Bool
  password : String
  bannedList : Finset Nat

def ChannelRow.added : ChannelRow :=
  { announce := true, ownership := true, password := "", bannedList := ∅ }

/-- A player: whether he is in the world, and what channels ask of him.  No player has the guid 0. -/
structure Chatter where
  guid : Nat
  inWorld : Bool := true
  security : Nat := 0
  team : Nat := 0
  hasGroup : Bool := false
  guid_pos : 0 < guid
deriving DecidableEq

namespace Chatter

def SEC_PLAYER : Nat := 0

def SEC_GAMEMASTER : Nat := 2

def SEC_CONSOLE : Nat := 4

variable (p : Chatter)

def sec : Nat := if p.inWorld then p.security else SEC_PLAYER

def isPlayerAccount : Bool := p.sec == SEC_PLAYER

def isGMAccount : Bool := SEC_GAMEMASTER ≤ p.sec && p.sec ≤ SEC_CONSOLE

end Chatter

structure Channel where
  name : String
  channelId : Nat
  team : Nat
  announce : Bool
  ownership : Bool
  password : String
  flags : BitVec 8
  ownerGUID : Nat := 0
  isSaved : Bool := false
  players : OrdMap Nat Channel.PlayerInfo := ∅
  banned : Finset Nat := ∅

namespace Channel

/-- The constructor.  `row` is what the table holds of the channel. -/
def create (cfg : ChannelConfig) (row : Option ChannelRow) (name : String) (channelId team : Nat) :
    Channel :=
  match cfg.chatChannels channelId with
  | some dbc =>
    { name := name, channelId := channelId, team := team, announce := false, ownership := false
      password := ""
      flags := CHANNEL_FLAG_GENERAL |||
        (if dbc &&& CHANNEL_DBC_FLAG_TRADE != 0 then CHANNEL_FLAG_TRADE else 0) |||
        (if dbc &&& CHANNEL_DBC_FLAG_CITY_ONLY2 != 0 then CHANNEL_FLAG_CITY else 0) |||
        (if dbc &&& CHANNEL_DBC_FLAG_LFG != 0 then CHANNEL_FLAG_LFG else CHANNEL_FLAG_NOT_LFG) }
  | none =>
    let r := if cfg.preserveCustomChannels then row.getD .added else .added
    { name := name, channelId := channelId, team := team, announce := r.announce
      ownership := r.ownership, password := r.password, flags := CHANNEL_FLAG_CUSTOM
      isSaved := cfg.preserveCustomChannels, banned := r.bannedList.erase 0 }

def row (c : Channel) : ChannelRow :=
  { announce := c.announce, ownership := c.ownership, password := c.password
    bannedList := c.banned }

@[simp] theorem create_players (cfg : ChannelConfig) (row : Option ChannelRow) (name : String)
    (channelId team : Nat) : (create cfg row name channelId team).players = ∅ := by
  unfold create
  split <;> rfl

@[simp] theorem create_ownerGUID (cfg : ChannelConfig) (row : Option ChannelRow) (name : String)
    (channelId team : Nat) : (create cfg row name channelId team).ownerGUID = 0 := by
  unfold create
  split <;> rfl

end Channel

/-!
## Requests

What players do in chat channels: the operations of `Channel` on members, owner and bans, the
channels of a `ChannelMgr`, and the handlers of `ChannelHandler.cpp` around them.
-/

namespace Channel

variable (c : Channel) (who guid : Nat) (p : Chatter)

def isOn : Bool := (c.players.find? who).isSome

def isBanned : Bool := guid ∈ c.banned

def isConstant : Bool := c.channelId != 0

/-- `players[who]`, as it is read: who is not on the channel gets an entry of zeros. -/
def info : PlayerInfo := (c.players.find? who).getD ⟨0, 0⟩

/-- A change of `players[who]`. -/
def modify (f : PlayerInfo → PlayerInfo) : Channel :=
  { c with players := c.players.set who (f (c.info who)) }

def remove : Channel := { c with players := c.players.erase who }

def alone : Bool := c.players.entries.all fun e => e.1 == who

/-- `SetOwner` with a guid. -/
def setOwner : Channel :=
  let c := if c.ownerGUID ≠ 0 then
      { c with players := c.players.update c.ownerGUID (·.setOwner false) }
    else c
  let c := { c with ownerGUID := guid }
  if guid ≠ 0 then (c.modify guid (·.setModerator true)).modify guid (·.setOwner true) else c

/-- Why `Join` turns a player away. -/
def joinRefusal (cfg : ChannelConfig) (pass : String) : Option ChatNotify :=
  if c.isOn p.guid then some .CHAT_PLAYER_ALREADY_MEMBER_NOTICE
  else if c.isBanned p.guid then some .CHAT_BANNED_NOTICE
  else if 0 < c.password.length ∧ pass ≠ c.password then some .CHAT_WRONG_PASSWORD_NOTICE
  else if p.inWorld ∧ c.flags &&& CHANNEL_FLAG_LFG ≠ 0 ∧ cfg.restrictedLfgChannel ∧
      p.isPlayerAccount ∧ p.hasGroup then some .CHAT_NOT_IN_LFG_NOTICE
  else none

def letIn : Channel :=
  let c := { c with players := c.players.set p.guid ⟨p.guid, MEMBER_FLAG_NONE⟩ }
  if !c.isConstant && c.ownerGUID == 0 && c.ownership then
    (c.setOwner p.guid).modify p.guid (·.setModerator true)
  else c

def join (cfg : ChannelConfig) (pass : String) : Channel :=
  match c.joinRefusal p cfg pass with
  | some _ => c
  | none => c.letIn p

def handOver : Channel :=
  match c.players.entries with
  | [] => c
  | (_, i) :: _ => (c.modify i.player (·.setModerator true)).setOwner i.player

def leave : Channel :=
  if c.isOn p.guid then
    let changeowner := (c.info p.guid).isOwner
    let c := c.remove p.guid
    if !c.isConstant && (changeowner && c.ownership) then c.handOver else c
  else c

def asModerator : Except ChatNotify Unit :=
  if !c.isOn p.guid then .error .CHAT_NOT_MEMBER_NOTICE
  else if !(c.info p.guid).isModerator && !p.isGMAccount then .error .CHAT_NOT_MODERATOR_NOTICE
  else .ok ()

/-- The player whom `KickOrBan` puts out. -/
def kickTarget (bad : Option Chatter) : Except ChatNotify Chatter := do
  c.asModerator p
  match bad with
  | none => .error .CHAT_PLAYER_NOT_FOUND_NOTICE
  | some b =>
    if !c.isOn b.guid then .error .CHAT_PLAYER_NOT_FOUND_NOTICE
    else if !p.isGMAccount && b.guid == c.ownerGUID && p.guid != c.ownerGUID then
      .error .CHAT_NOT_OWNER_NOTICE
    else .ok b

def ban : Channel := { c with banned := insert guid c.banned }

def putOut (b : Chatter) (isBan : Bool) : Channel :=
  let changeowner := c.ownerGUID == b.guid
  let c := if isBan && !c.isBanned b.guid then c.ban b.guid else c
  let c := c.remove b.guid
  if changeowner && c.ownership && !c.players.entries.isEmpty then
    (c.modify p.guid (·.setModerator true)).setOwner p.guid
  else c

def kickOrBan (bad : Option Chatter) (isBan : Bool) : Channel :=
  match c.kickTarget p bad with
  | .error _ => c
  | .ok b => c.putOut p b isBan

def unBanTarget (bad : Option Chatter) : Except ChatNotify Chatter := do
  c.asModerator p
  match bad with
  | none => .error .CHAT_PLAYER_NOT_FOUND_NOTICE
  | some b => if !c.isBanned b.guid then .error .CHAT_PLAYER_NOT_FOUND_NOTICE else .ok b

def unBan (bad : Option Chatter) : Channel :=
  match c.unBanTarget p bad with
  | .error _ => c
  | .ok b => { c with banned := c.banned.erase b.guid }

/-- `Password`. -/
def setPassword (pass : String) : Channel :=
  match c.asModerator p with
  | .error _ => c
  | .ok _ => { c with password := pass }

/-- The player whose mode `SetMode` changes, if any. -/
def modeTarget (cfg : ChannelConfig) (newp : Option Chatter) (mod : Bool) :
    Except ChatNotify (Option Chatter) := do
  c.asModerator p
  match newp with
  | none => .error .CHAT_PLAYER_NOT_FOUND_NOTICE
  | some n =>
    if p.guid == c.ownerGUID && n.guid == c.ownerGUID && mod then .ok none
    else if !c.isOn n.guid then .error .CHAT_PLAYER_NOT_FOUND_NOTICE
    else if (!p.isGMAccount || !n.isGMAccount) && p.team != n.team &&
        !cfg.twoSideInteractionChannel then .error .CHAT_PLAYER_NOT_FOUND_NOTICE
    else if c.ownerGUID == n.guid && c.ownerGUID != p.guid then .error .CHAT_NOT_OWNER_NOTICE
    else .ok (some n)

def setModerator (set : Bool) : Channel :=
  if (c.info who).isModerator ≠ set then c.modify who (·.setModerator set) else c

def setMute (set : Bool) : Channel :=
  if (c.info who).isMuted ≠ set then c.modify who (·.setMuted set) else c

def setMode (cfg : ChannelConfig) (newp : Option Chatter) (mod set : Bool) : Channel :=
  if p.inWorld then
    match c.modeTarget p cfg newp mod with
    | .ok (some n) => if mod then c.setModerator n.guid set else c.setMute n.guid set
    | _ => c
  else c

/-- The player whom `SetOwner` with a name makes the owner. -/
def ownerTarget (cfg : ChannelConfig) (newp : Option Chatter) : Except ChatNotify Chatter :=
  if !c.isOn p.guid then .error .CHAT_NOT_MEMBER_NOTICE
  else if !p.isGMAccount && p.guid != c.ownerGUID then .error .CHAT_NOT_OWNER_NOTICE
  else match newp with
    | none => .error .CHAT_PLAYER_NOT_FOUND_NOTICE
    | some n =>
      if !c.isOn n.guid then .error .CHAT_PLAYER_NOT_FOUND_NOTICE
      else if n.team != p.team && !cfg.twoSideInteractionChannel then
        .error .CHAT_PLAYER_NOT_FOUND_NOTICE
      else .ok n

/-- `SetOwner` with a name. -/
def setOwnerByName (cfg : ChannelConfig) (newp : Option Chatter) : Channel :=
  if p.inWorld then
    match c.ownerTarget p cfg newp with
    | .error _ => c
    | .ok n => (c.modify n.guid (·.setModerator true)).setOwner n.guid
  else c

end Channel

inductive ChannelRequest where
  | leave
  | kick (bad : Option Chatter)
  | ban (bad : Option Chatter)
  | unBan (bad : Option Chatter)
  | setOwner (newp : Option Chatter)
  | setMode (newp : Option Chatter) (mod set : Bool)
  | password (pass : String)

inductive ChannelEvent where
  /-- `inZone`: a built-in channel may be joined where the player is. -/
  | join (p : Chatter) (name : String) (channelId : Nat) (pass : String) (inZone : Bool)
  | request (p : Chatter) (name : String) (r : ChannelRequest)

def Channel.handle (cfg : ChannelConfig) (c : Channel) (p : Chatter) : ChannelRequest → Channel
  | .leave => c.leave p
  | .kick bad => c.kickOrBan p bad false
  | .ban bad => c.kickOrBan p bad true
  | .unBan bad => c.unBan p bad
  | .setOwner newp => c.setOwnerByName p cfg newp
  | .setMode newp mod set => c.setMode p cfg newp mod set
  | .password pass => c.setPassword p pass

structure ChannelMgr where
  channels : String → Option Channel := fun _ => none
  rows : String × Nat → Option ChannelRow := fun _ => none

namespace ChannelMgr

variable (s : ChannelMgr) (cfg : ChannelConfig) (p : Chatter) (name : String)

def put (c : Channel) : ChannelMgr :=
  { s with channels := Function.update s.channels (cfg.toLower name) (some c) }

/-- `UpdateChannelInDB`.  It is done here after every request; where the source leaves it out
nothing that the row holds has changed. -/
def save (c : Channel) : ChannelMgr :=
  if c.isSaved then
    let key := (cfg.toLower c.name, c.team)
    { s with rows := Function.update s.rows key ((s.rows key).map fun _ => c.row) }
  else s

def addRow (c : Channel) : ChannelMgr :=
  if c.isSaved then
    let key := (cfg.toLower c.name, c.team)
    { s with rows := Function.update s.rows key (some ((s.rows key).getD .added)) }
  else s

/-- `GetJoinChannel`, the channel alone. -/
def joinChannel (channelId : Nat) : Channel :=
  (s.channels (cfg.toLower name)).getD
    (.create cfg (s.rows (cfg.toLower name, p.team)) name channelId p.team)

/-- `HandleJoinChannel` gets as far as the channel. -/
def mayJoin (channelId : Nat) (inZone : Bool) : Bool :=
  (channelId == 0 || (cfg.chatChannels channelId).isSome && inZone) && name != ""

def handleJoin (channelId : Nat) (pass : String) (inZone : Bool) : ChannelMgr :=
  if mayJoin cfg name channelId inZone then
    let c := s.joinChannel cfg p name channelId
    let s := if (s.channels (cfg.toLower name)).isNone then s.addRow cfg c else s
    let c := c.join p cfg pass
    (s.put cfg name c).save cfg c
  else s

def leftChannel : ChannelMgr :=
  match s.channels (cfg.toLower name) with
  | none => s
  | some c =>
    if c.players.size = 0 ∧ ¬ c.isConstant then
      { s with channels := Function.update s.channels (cfg.toLower name) none }
    else s

def handleRequest (r : ChannelRequest) : ChannelMgr :=
  match s.channels (cfg.toLower name) with
  | none => s
  | some c =>
    let c := c.handle cfg p r
    let s := (s.put cfg name c).save cfg c
    match r with
    | .leave => s.leftChannel cfg name
    | _ => s

def step : ChannelEvent → ChannelMgr
  | .join p name channelId pass inZone => s.handleJoin cfg p name channelId pass inZone
  | .request p name r => s.handleRequest cfg p name r

end ChannelMgr

/-- The players who have joined a channel and have not left it or been put out of it since. -/
abbrev Attendance := String → Finset Nat

def Channel.attend (c : Channel) (p : Chatter) (present : Finset Nat) :
    ChannelRequest → Finset Nat
  | .leave => present.erase p.guid
  | .kick bad | .ban bad =>
    match c.kickTarget p bad with
    | .ok b => present.erase b.guid
    | .error _ => present
  | _ => present

structure ChannelWorld where
  mgr : ChannelMgr
  present : Attendance

namespace ChannelWorld

variable (s : ChannelWorld) (cfg : ChannelConfig)

def attend : ChannelEvent → Attendance
  | .join p name channelId pass inZone =>
    let key := cfg.toLower name
    if ChannelMgr.mayJoin cfg name channelId inZone ∧
        (s.mgr.joinChannel cfg p name channelId).joinRefusal p cfg pass = none then
      Function.update s.present key (insert p.guid (s.present key))
    else s.present
  | .request p name r =>
    let key := cfg.toLower name
    match s.mgr.channels key with
    | none => s.present
    | some c => Function.update s.present key (c.attend p (s.present key) r)

def step (e : ChannelEvent) : ChannelWorld :=
  { mgr := s.mgr.step cfg e, present := s.attend cfg e }

def start (rows : String × Nat → Option ChannelRow) : ChannelWorld :=
  { mgr := { rows := rows }, present := fun _ => ∅ }

end ChannelWorld

end SkyfireBG
