import SkyfireBG.Guild.Data

/-!
# SkyfireBG.Guild.Roster

The members and ranks of one guild over time: joining, leaving, promotions, the rank list, the
leader, and the load of the stored guild with its repair in `Validate`.

A character is told from others by its guid, whose high half is zero; a packet may name any 64-bit
guid.  Character objects are changed by the rest of the server as well, in every way
(`GuildEvent.player`); their guild and rank are fields of the object, apart from those of the member.
-/

namespace SkyfireBG

structure GuildWorld where
  guild : Option Guild := none
  player : Nat → Option GuildPlayer

structure StoredCharacter where
  guildId : Nat := 0
  name : String
  /-- The answer of `CheckStats` on its level and class. -/
  statsOk : Bool := true

structure GuildRows where
  id : Nat
  leaderGuid : Nat
  /-- `guild_rank` in the order of the query: id, rights and money per day. -/
  ranks : List (Nat × BitVec 32 × Nat)
  /-- The id is a byte, and part of the key. -/
  ranks_byte : ∀ r ∈ ranks, r.1 < 256
  ranks_key : (ranks.map (·.1)).Nodup
  /-- `guild_member`: guid, rank, name and the answer of `CheckStats`. -/
  members : List (Nat × Nat × String × Bool)
  purchasedTabs : Nat := 0

namespace Guild

/-- `m_members[lowguid] = member`. -/
def insertMember (g : Guild) (m : Member) : Guild :=
  { g with members :=
      if g.members.any (fun x => lowPart x.guid == lowPart m.guid) then
        g.members.map (fun x => if lowPart x.guid = lowPart m.guid then m else x)
      else g.members ++ [m] }

def eraseMember (g : Guild) (guid : Nat) : Guild :=
  { g with members := g.members.filter (fun x => lowPart x.guid != lowPart guid) }

/-- One step of the search of `DeleteMember` for the member who leads next. -/
def betterLeader (guid : Nat) (best : Option Member) (m : Member) : Option Member :=
  if lowPart m.guid = lowPart guid then best
  else match best with
    | none => some m
    | some b => if b.rankId > m.rankId then some m else best

def newLeader (g : Guild) (guid : Nat) : Option Member :=
  g.members.foldl (betterLeader guid) none

/-- `GetMember(session, name)`. -/
def getMemberByName (g : Guild) (name : String) : Option Member :=
  g.members.find? (fun m => m.name == name)

/-- The members with the rank of those `sel` picks changed. -/
def changeRanks (g : Guild) (sel : Member → Bool) (newRank : Nat) : Guild :=
  { g with
    members := g.members.map (fun m => if sel m then { m with rankId := newRank } else m) }

/-- What `_SetLeaderGUID` makes of the guild. -/
def makeLeader (g : Guild) (leader : Member) : Guild :=
  ({ g with leaderGuid := leader.guid } : Guild).changeRanks
    (fun m => lowPart m.guid == lowPart leader.guid) GR_GUILDMASTER

def modifyRank (g : Guild) (rankId : Nat) (f : RankInfo → RankInfo) : Guild :=
  if rankId < g.getRanksSize then { g with ranks := g.ranks.modify rankId f } else g

def resetMembers (g : Guild) (rankId : Nat) (f : Member → Member) : Guild :=
  if rankId < g.getRanksSize then
    { g with members := g.members.map (fun m => if m.isRank rankId then f m else m) }
  else g

def setRankBankMoneyPerDay (g : Guild) (rankId moneyPerDay : Nat) : Guild :=
  (g.resetMembers rankId Member.resetMoneyTime).modifyRank rankId
    (fun r => r.setBankMoneyPerDay moneyPerDay)

def setRankBankTabRightsAndSlots (g : Guild) (rankId tabId : Nat) (v : GuildBankRightsAndSlots) :
    Guild :=
  if tabId ≥ g.purchasedTabs then g
  else (g.resetMembers rankId Member.resetTabTimes).modifyRank rankId
    (fun r => r.setBankTabSlotsAndRights tabId v)

/-- The loop of `Validate` over the ranks. -/
def brokenRanks (g : Guild) : Bool :=
  g.getRanksSize < GUILD_RANKS_MIN_COUNT || g.getRanksSize > GUILD_RANKS_MAX_COUNT ||
    (List.range g.getRanksSize).any (fun i => match g.ranks[i]? with
      | some r => r.rankId != i
      | none => false)

def repairRanks (g : Guild) : Guild :=
  if g.brokenRanks then ({ g with ranks := [] } : Guild).createDefaultGuildRanks else g

/-- The loop of `Validate` over the members. -/
def repairMembers (g : Guild) : Guild :=
  g.changeRanks (fun m => m.rankId > g.getRanksSize) g.getLowestRankId

/-- `LoadFromDB`, `LoadRankFromDB` and `LoadMemberFromDB` on the stored rows. -/
def load (rows : GuildRows) : Guild :=
  let g : Guild :=
    { id := rows.id
      leaderGuid := lowPart rows.leaderGuid
      purchasedTabs := min rows.purchasedTabs GUILD_BANK_MAX_TABS
      ranks := rows.ranks.map (fun r =>
        { rankId := r.1
          rights := if r.1 = GR_GUILDMASTER then r.2.1 ||| GR_RIGHT_ALL else r.2.1
          bankMoneyPerDay := r.2.2 }) }
  (rows.members.filter (fun m => m.2.2.2)).foldl (fun g m =>
    g.insertMember { guid := lowPart m.1, name := m.2.2.1, rankId := m.2.1 % 256 }) g

structure SameRoster (g g' : Guild) : Prop where
  leader : g'.leaderGuid = g.leaderGuid
  members : g'.members.map (fun m => (m.guid, m.rankId)) =
    g.members.map (fun m => (m.guid, m.rankId))
  ranks : g'.ranks.map (·.rankId) = g.ranks.map (·.rankId)

theorem SameRoster.refl (g : Guild) : g.SameRoster g := ⟨rfl, rfl, rfl⟩

theorem SameRoster.trans {g₁ g₂ g₃ : Guild} (h : g₁.SameRoster g₂) (h' : g₂.SameRoster g₃) :
    g₁.SameRoster g₃ :=
  ⟨h'.leader.trans h.leader, h'.members.trans h.members, h'.ranks.trans h.ranks⟩

theorem sameRoster_modifyRank (g : Guild) (rankId : Nat) (f : RankInfo → RankInfo)
    (hf : ∀ r, (f r).rankId = r.rankId) : g.SameRoster (g.modifyRank rankId f) := by
  unfold modifyRank
  split
  · refine ⟨rfl, rfl, ?_⟩
    apply List.ext_getElem?
    intro i
    simp only [List.getElem?_map, List.getElem?_modify]
    cases g.ranks[i]? with
    | none => rfl
    | some r =>
      by_cases hi : rankId = i <;> simp [hi, hf]
  · exact .refl g

theorem sameRoster_resetMembers (g : Guild) (rankId : Nat) (f : Member → Member)
    (hf : ∀ m, ((f m).guid, (f m).rankId) = (m.guid, m.rankId)) :
    g.SameRoster (g.resetMembers rankId f) := by
  unfold resetMembers
  split
  · refine ⟨rfl, ?_, rfl⟩
    rw [List.map_map]
    apply List.map_congr_left
    intro m _
    by_cases hm : m.isRank rankId = true
    · simpa [hm] using hf m
    · simp [hm]
  · exact .refl g

theorem sameRoster_setRankBankMoneyPerDay (g : Guild) (rankId moneyPerDay : Nat) :
    g.SameRoster (g.setRankBankMoneyPerDay rankId moneyPerDay) :=
  (sameRoster_resetMembers g rankId Member.resetMoneyTime (fun _ => rfl)).trans
    (sameRoster_modifyRank _ rankId (·.setBankMoneyPerDay moneyPerDay) (fun _ => rfl))

theorem sameRoster_setRankBankTabRightsAndSlots (g : Guild) (rankId tabId : Nat)
    (v : GuildBankRightsAndSlots) :
    g.SameRoster (g.setRankBankTabRightsAndSlots rankId tabId v) := by
  unfold setRankBankTabRightsAndSlots
  split
  · exact .refl g
  · exact (sameRoster_resetMembers g rankId Member.resetTabTimes (fun _ => rfl)).trans
      (sameRoster_modifyRank _ rankId (·.setBankTabSlotsAndRights tabId v) (fun _ => rfl))

theorem sameRoster_foldl {α : Type} (f : Guild → α → Guild) (hf : ∀ g a, SameRoster g (f g a))
    (l : List α) (g : Guild) : g.SameRoster (l.foldl f g) := by
  induction l generalizing g with
  | nil => exact .refl g
  | cons a l ih => exact (hf g a).trans (ih (f g a))

end Guild

inductive GuildEvent where
  | create (guid newId : Nat) (stored : StoredCharacter)
  /-- `AddMember`, by an accepted invitation, a signed charter or a command. -/
  | addMember (guid : Nat) (stored : StoredCharacter)
  | leaveMember (actor : Nat)
  | removeMember (actor guid : Nat)
  | updateMemberRank (actor guid : Nat) (demote : Bool)
  | addNewRank (actor : Nat)
  | removeRank (actor rankId : Nat)
  | setRankInfo (actor rankId : Nat) (rights : BitVec 32) (moneyPerDay : Nat)
      (rightsAndSlots : List GuildBankRightsAndSlots)
  | setLeader (actor : Nat) (name : String)
  /-- `ChangeMemberRank`, by a command or at the end of `HandleGuildRankOpcode`. -/
  | changeMemberRank (guid newRank : Nat)
  /-- `DeleteMember`, by a command or for a deleted character. -/
  | deleteMember (guid : Nat)
  | disband (actor : Nat)
  /-- The start of the server: load and `Validate`. -/
  | load (rows : GuildRows) (allowMultiple : Bool)
  /-- The unordered map may run through its entries in any other order. -/
  | reorder (i : Nat)
  /-- Anything the rest of the server does to a character object. -/
  | player (guid : Nat) (p : Option GuildPlayer)

def swapAt {α : Type} : Nat → List α → List α
  | 0, a :: b :: l => b :: a :: l
  | i + 1, a :: l => a :: swapAt i l
  | _, l => l

namespace GuildWorld

variable (w : GuildWorld)

def findPlayer (guid : Nat) : Option GuildPlayer := (w.player guid).filter (·.inWorld)

/-- Change the objects, as far as they are in the world, of the characters `sel` picks. -/
def modifyPlayers (sel : Nat → Bool) (f : GuildPlayer → GuildPlayer) : GuildWorld :=
  { w with player := fun guid =>
      (w.player guid).map (fun p => if sel guid && p.inWorld then f p else p) }

/-- `Member::ChangeRank` on the members `sel` picks. -/
def changeRank (g : Guild) (sel : Guild.Member → Bool) (newRank : Nat) : GuildWorld :=
  { (w.modifyPlayers (fun guid => g.members.any (fun m => sel m && m.guid == guid))
      (fun p => { p with rank := newRank })) with
    guild := some (g.changeRanks sel newRank) }

def setLeaderGUID (g : Guild) (leader : Guild.Member) : GuildWorld :=
  w.changeRank { g with leaderGuid := leader.guid }
    (fun m => lowPart m.guid == lowPart leader.guid) GR_GUILDMASTER

/-- `Disband`: every member leaves. -/
def disband (g : Guild) : GuildWorld :=
  { (w.modifyPlayers (fun guid => g.members.any (fun m => m.guid == guid))
      (fun p => { p with guildId := 0, rank := 0 })) with guild := none }

/-- `DeleteMember` past the choice of a new leader. -/
def dropMember (g : Guild) (guid : Nat) : GuildWorld :=
  { (w.modifyPlayers (· == guid) (fun p => { p with guildId := 0, rank := 0 })) with
    guild := some (g.eraseMember guid) }

def deleteMember (g : Guild) (guid : Nat) : GuildWorld :=
  if g.leaderGuid = guid then
    match g.newLeader guid with
    | none => w.disband g
    | some leader => (w.setLeaderGUID g leader).dropMember (g.makeLeader leader) guid
  else w.dropMember g guid

/-- `AddMember`; `none` is the answer `false`. -/
def addMember (g : Guild) (guid : Nat) (rankId : Nat) (stored : StoredCharacter) :
    Option GuildWorld :=
  let rank := if rankId = GUILD_RANK_NONE then g.getLowestRankId else rankId
  match w.findPlayer guid with
  | some p =>
    if p.guildId ≠ 0 then none
    else some { (w.modifyPlayers (· == guid)
        (fun p => { p with guildId := g.id, rank := rank, guildIdInvited := 0 })) with
      guild := some (g.insertMember { guid := guid, name := p.name, rankId := rank }) }
  | none =>
    if stored.guildId ≠ 0 then none
    else if stored.statsOk then
      some { w with
        guild := some (g.insertMember { guid := guid, name := stored.name, rankId := rank }) }
    else none

/-- The part of `Validate` that looks at the leader. -/
def validateLeader (g : Guild) : GuildWorld :=
  match g.getMember g.leaderGuid with
  | none => w.deleteMember g g.leaderGuid
  | some leader => if leader.isRank GR_GUILDMASTER then w else w.setLeaderGUID g leader

def validate (g : Guild) (allowMultiple : Bool) : GuildWorld :=
  let g₁ := g.repairRanks
  let w₁ := w.changeRank g₁ (fun m => m.rankId > g₁.getRanksSize) g₁.getLowestRankId
  let w₂ := w₁.validateLeader g₁.repairMembers
  match w₂.guild with
  | none => w₂
  | some g₂ =>
    if g₂.members.isEmpty then w₂.disband g₂
    else if allowMultiple then w₂
    else w₂.changeRank g₂ (fun m => m.isRank GR_GUILDMASTER && !m.isSamePlayer g₂.leaderGuid)
      GR_OFFICER

def create (guid newId : Nat) (stored : StoredCharacter) : GuildWorld :=
  let g : Guild := ({ id := newId, leaderGuid := guid } : Guild).createDefaultGuildRanks
  match w.addMember g guid GR_GUILDMASTER stored with
  | some w' => w'
  | none => w

/-- `HandleLeaveMember`. -/
def leaveMember (g : Guild) (actor : Nat) : GuildWorld :=
  if g.isLeader actor then
    if g.members.length > 1 then w else w.disband g
  else w.deleteMember g actor

/-- `HandleRemoveMember`. -/
def removeMember (g : Guild) (p : GuildPlayer) (guid : Nat) : GuildWorld :=
  if !g.hasRankRight p.rank GR_RIGHT_REMOVE then w
  else match g.getMember guid with
    | none => w
    | some m =>
      if m.isRank GR_GUILDMASTER then w
      else if m.isRankNotLower p.rank then w
      else w.deleteMember g guid

/-- `HandleUpdateMemberRank`; the new rank is stored in a byte. -/
def updateMemberRank (g : Guild) (actor : Nat) (p : GuildPlayer) (guid : Nat) (demote : Bool) :
    GuildWorld :=
  if !g.hasRankRight p.rank (if demote then GR_RIGHT_DEMOTE else GR_RIGHT_PROMOTE) then w
  else match g.getMember guid with
    | none => w
    | some m =>
      if m.isSamePlayer actor then w
      else if demote then
        if m.isRankNotLower p.rank then w
        else if m.rankId ≥ g.getLowestRankId then w
        else w.changeRank g (fun x => lowPart x.guid == lowPart guid) ((m.rankId + 1) % 256)
      else
        if m.isRankNotLower (p.rank + 1) then w
        else w.changeRank g (fun x => lowPart x.guid == lowPart guid) ((m.rankId + 255) % 256)

/-- `HandleSetLeader`. -/
def setLeader (g : Guild) (actor : Nat) (name : String) : GuildWorld :=
  if !g.isLeader actor then w
  else match g.getMember actor, g.getMemberByName name with
    | some old, some new =>
      (w.setLeaderGUID g new).changeRank (g.makeLeader new)
        (fun m => lowPart m.guid == lowPart old.guid) GR_OFFICER
    | _, _ => w

def changeMemberRank (g : Guild) (guid newRank : Nat) : GuildWorld :=
  if newRank ≤ g.getLowestRankId then
    match g.getMember guid with
    | some _ => w.changeRank g (fun m => lowPart m.guid == lowPart guid) newRank
    | none => w
  else w

/-- `HandleSetRankInfo`. -/
def setRankInfo (g : Guild) (actor rankId : Nat) (rights : BitVec 32) (moneyPerDay : Nat)
    (rightsAndSlots : List GuildBankRightsAndSlots) : GuildWorld :=
  if !g.isLeader actor then w
  else
    let g₁ := (g.modifyRank rankId (·.setRights rights)).setRankBankMoneyPerDay rankId moneyPerDay
    { w with guild := some (rightsAndSlots.zipIdx.foldl
        (fun g v => g.setRankBankTabRightsAndSlots rankId v.2 v.1) g₁) }

/-- `HandleRemoveRank`. -/
def removeRank (g : Guild) (actor rankId : Nat) : GuildWorld :=
  if g.getRanksSize ≤ GUILD_RANKS_MIN_COUNT || rankId ≥ g.getRanksSize then w
  else if !g.isLeader actor then w
  else { w with guild := some { g with ranks := g.ranks.eraseIdx rankId } }

/-- `HandleAddNewRank`. -/
def addNewRank (g : Guild) (actor : Nat) : GuildWorld :=
  if g.getRanksSize ≥ GUILD_RANKS_MAX_COUNT then w
  else if !g.isLeader actor then w
  else { w with guild := some (g.createRank (GR_RIGHT_GCHATLISTEN ||| GR_RIGHT_GCHATSPEAK)) }

/-- `_GetPlayerGuild`: the guild, if the object of the character says it is in it. -/
def asGuildPlayer (actor : Nat) (f : Guild → GuildPlayer → GuildWorld) : GuildWorld :=
  match w.guild, w.player actor with
  | some g, some p => if p.guildId ≠ 0 ∧ p.guildId = g.id then f g p else w
  | _, _ => w

def withGuild (f : Guild → GuildWorld) : GuildWorld :=
  match w.guild with
  | some g => f g
  | none => w

def step : GuildEvent → GuildWorld
  | .create guid newId stored => match w.guild with
    | some _ => w
    | none => w.create (lowPart guid) newId stored
  | .addMember guid stored =>
    w.withGuild (fun g => (w.addMember g (lowPart guid) GUILD_RANK_NONE stored).getD w)
  | .leaveMember actor => w.asGuildPlayer (lowPart actor) (fun g _ => w.leaveMember g (lowPart actor))
  | .removeMember actor guid =>
    w.asGuildPlayer (lowPart actor) (fun g p => w.removeMember g p guid)
  | .updateMemberRank actor guid demote =>
    w.asGuildPlayer (lowPart actor) (fun g p => w.updateMemberRank g (lowPart actor) p guid demote)
  | .addNewRank actor => w.asGuildPlayer (lowPart actor) (fun g _ => w.addNewRank g (lowPart actor))
  | .removeRank actor rankId =>
    w.asGuildPlayer (lowPart actor) (fun g _ => w.removeRank g (lowPart actor) (rankId % 256))
  | .setRankInfo actor rankId rights money tabs =>
    w.asGuildPlayer (lowPart actor)
      (fun g _ => w.setRankInfo g (lowPart actor) (rankId % 256) rights money tabs)
  | .setLeader actor name =>
    w.asGuildPlayer (lowPart actor) (fun g _ => w.setLeader g (lowPart actor) name)
  | .changeMemberRank guid newRank =>
    w.withGuild (fun g => w.changeMemberRank g guid (newRank % 256))
  | .deleteMember guid => w.withGuild (fun g => w.deleteMember g (lowPart guid))
  | .disband actor => w.asGuildPlayer (lowPart actor)
      (fun g _ => if g.isLeader (lowPart actor) then w.disband g else w)
  | .load rows allowMultiple => w.validate (Guild.load rows) allowMultiple
  | .reorder i =>
    w.withGuild (fun g => { w with guild := some { g with members := swapAt i g.members } })
  | .player guid p => { w with player := fun x => if x = lowPart guid then p else w.player x }

/-! ## What each step does to the guild -/

section Guild

variable {w} {g : Guild} {guid actor : Nat}

@[simp] theorem disband_guild : (w.disband g).guild = none := rfl

theorem deleteMember_cases (w : GuildWorld) (g : Guild) (guid : Nat) :
    (w.deleteMember g guid).guild = none ∨
    (g.leaderGuid ≠ guid ∧ (w.deleteMember g guid).guild = some (g.eraseMember guid)) ∨
    ∃ leader, g.leaderGuid = guid ∧ g.newLeader guid = some leader ∧
      (w.deleteMember g guid).guild = some ((g.makeLeader leader).eraseMember guid) := by
  unfold deleteMember
  by_cases hl : g.leaderGuid = guid
  · rw [if_pos hl]
    cases hn : g.newLeader guid with
    | none => exact .inl rfl
    | some leader => exact .inr (.inr ⟨leader, hl, rfl, rfl⟩)
  · rw [if_neg hl]
    exact .inr (.inl ⟨hl, rfl⟩)

theorem addMember_some {rankId : Nat} {stored : StoredCharacter} {w' : GuildWorld}
    (h : w.addMember g guid rankId stored = some w') : ∃ name,
      w'.guild = some (g.insertMember { guid := guid, name := name
                                        rankId := if rankId = GUILD_RANK_NONE then g.getLowestRankId
                                          else rankId }) := by
  unfold addMember at h
  cases hp : w.findPlayer guid with
  | some p =>
    simp only [hp] at h
    split at h
    · cases h
    · cases h
      exact ⟨_, rfl⟩
  | none =>
    simp only [hp] at h
    split at h
    · cases h
    · split at h
      · cases h
        exact ⟨_, rfl⟩
      · cases h

structure Promoted (g : Guild) (actor : Nat) (p : GuildPlayer) (guid : Nat) (demote : Bool)
    (m : Guild.Member) : Prop where
  member : g.getMember guid = some m
  other : m.guid ≠ actor
  demoted : demote = true → p.rank % 256 < m.rankId ∧ m.rankId < g.getLowestRankId
  promoted : demote = false → (p.rank + 1) % 256 < m.rankId

theorem updateMemberRank_cases (w : GuildWorld) (g : Guild) (actor : Nat) (p : GuildPlayer)
    (guid : Nat) (demote : Bool) :
    w.updateMemberRank g actor p guid demote = w ∨
    ∃ m, Promoted g actor p guid demote m ∧
      w.updateMemberRank g actor p guid demote =
        w.changeRank g (fun x => lowPart x.guid == lowPart guid)
          (if demote then (m.rankId + 1) % 256 else (m.rankId + 255) % 256) := by
  unfold updateMemberRank
  by_cases hright : (!g.hasRankRight p.rank
      (if demote then GR_RIGHT_DEMOTE else GR_RIGHT_PROMOTE)) = true
  · exact .inl (if_pos hright)
  · rw [if_neg hright]
    cases hm : g.getMember guid with
    | none => exact .inl rfl
    | some m =>
      simp only
      by_cases hsame : m.isSamePlayer actor = true
      · exact .inl (if_pos hsame)
      · rw [if_neg hsame]
        have hne : m.guid ≠ actor := by simpa [Guild.Member.isSamePlayer] using hsame
        cases demote with
        | true =>
          simp only [if_true]
          by_cases hrank : m.isRankNotLower p.rank = true
          · exact .inl (if_pos hrank)
          · rw [if_neg hrank]
            have hlt : p.rank % 256 < m.rankId := by
              simpa [Guild.Member.isRankNotLower] using hrank
            by_cases hlow : m.rankId ≥ g.getLowestRankId
            · exact .inl (if_pos hlow)
            · rw [if_neg hlow]
              exact .inr ⟨m, ⟨hm, hne, fun _ => ⟨hlt, Nat.lt_of_not_le hlow⟩,
                fun h => nomatch h⟩, rfl⟩
        | false =>
          simp only [Bool.false_eq_true, if_false]
          by_cases hrank : m.isRankNotLower (p.rank + 1) = true
          · exact .inl (if_pos hrank)
          · rw [if_neg hrank]
            have hlt : (p.rank + 1) % 256 < m.rankId := by
              simpa [Guild.Member.isRankNotLower] using hrank
            exact .inr ⟨m, ⟨hm, hne, fun h => (nomatch h), fun _ => hlt⟩, rfl⟩

theorem setLeader_cases (w : GuildWorld) (g : Guild) (actor : Nat) (name : String) :
    w.setLeader g actor name = w ∨
    ∃ old new, g.isLeader actor = true ∧ g.getMember actor = some old ∧
      g.getMemberByName name = some new ∧
      (w.setLeader g actor name).guild = some ((g.makeLeader new).changeRanks
        (fun m => lowPart m.guid == lowPart old.guid) GR_OFFICER) := by
  unfold setLeader
  by_cases hl : g.isLeader actor = true
  · rw [if_neg (by simp [hl])]
    cases ho : g.getMember actor with
    | none => exact .inl rfl
    | some old =>
      cases hn : g.getMemberByName name with
      | none => exact .inl rfl
      | some new => exact .inr ⟨old, new, hl, rfl, rfl, rfl⟩
  · exact .inl (if_pos (by simpa using hl))

/-- A rank that `HandleRemoveRank` takes out. -/
def removes (g : Guild) (actor rankId : Nat) : Bool :=
  g.getRanksSize > GUILD_RANKS_MIN_COUNT && rankId < g.getRanksSize && g.isLeader actor

theorem removeRank_eq (w : GuildWorld) (g : Guild) (actor rankId : Nat) :
    w.removeRank g actor rankId = if removes g actor rankId then
      { w with guild := some { g with ranks := g.ranks.eraseIdx rankId } } else w := by
  unfold removeRank removes
  by_cases h1 : g.getRanksSize ≤ GUILD_RANKS_MIN_COUNT
  · simp [h1, Nat.not_lt.mpr h1]
  · by_cases h2 : g.getRanksSize ≤ rankId
    · simp [h2, Nat.not_lt.mpr h2]
    · have h1' := Nat.lt_of_not_le h1
      have h2' := Nat.lt_of_not_le h2
      cases hl : g.isLeader actor <;> simp [h1, h2, h1', h2']

theorem leaveMember_cases (w : GuildWorld) (g : Guild) (actor : Nat) :
    w.leaveMember g actor = w ∨ (w.leaveMember g actor).guild = none ∨
    (g.isLeader actor = false ∧ w.leaveMember g actor = w.deleteMember g actor) := by
  unfold leaveMember
  cases hl : g.isLeader actor with
  | true =>
    by_cases hn : g.members.length > 1
    · exact .inl (by rw [if_pos rfl, if_pos hn])
    · exact .inr (.inl (by rw [if_pos rfl, if_neg hn, disband_guild]))
  | false => exact .inr (.inr ⟨rfl, rfl⟩)

theorem removeMember_cases (w : GuildWorld) (g : Guild) (p : GuildPlayer) (guid : Nat) :
    w.removeMember g p guid = w ∨
    ∃ m, g.getMember guid = some m ∧ m.rankId ≠ GR_GUILDMASTER ∧
      w.removeMember g p guid = w.deleteMember g guid := by
  unfold removeMember
  by_cases hright : (!g.hasRankRight p.rank GR_RIGHT_REMOVE) = true
  · exact .inl (if_pos hright)
  · rw [if_neg hright]
    cases hm : g.getMember guid with
    | none => exact .inl rfl
    | some m =>
      simp only
      by_cases hmaster : m.isRank GR_GUILDMASTER = true
      · exact .inl (if_pos hmaster)
      · rw [if_neg hmaster]
        by_cases hrank : m.isRankNotLower p.rank = true
        · exact .inl (if_pos hrank)
        · exact .inr ⟨m, rfl, by simpa [Guild.Member.isRank] using hmaster, if_neg hrank⟩

theorem changeMemberRank_cases (w : GuildWorld) (g : Guild) (guid newRank : Nat) :
    w.changeMemberRank g guid newRank = w ∨
    ∃ m, newRank ≤ g.getLowestRankId ∧ g.getMember guid = some m ∧
      w.changeMemberRank g guid newRank =
        w.changeRank g (fun m => lowPart m.guid == lowPart guid) newRank := by
  unfold changeMemberRank
  by_cases hlow : newRank ≤ g.getLowestRankId
  · rw [if_pos hlow]
    cases hm : g.getMember guid with
    | none => exact .inl rfl
    | some m => exact .inr ⟨m, hlow, rfl, rfl⟩
  · exact .inl (if_neg hlow)

theorem addNewRank_cases (w : GuildWorld) (g : Guild) (actor : Nat) :
    w.addNewRank g actor = w ∨
    (w.addNewRank g actor).guild =
      some (g.createRank (GR_RIGHT_GCHATLISTEN ||| GR_RIGHT_GCHATSPEAK)) := by
  unfold addNewRank
  by_cases hsize : g.getRanksSize ≥ GUILD_RANKS_MAX_COUNT
  · exact .inl (if_pos hsize)
  · rw [if_neg hsize]
    by_cases hl : (!g.isLeader actor) = true
    · exact .inl (if_pos hl)
    · exact .inr (by rw [if_neg hl])

theorem setRankInfo_cases (w : GuildWorld) (g : Guild) (actor rankId : Nat) (rights : BitVec 32)
    (moneyPerDay : Nat) (tabs : List GuildBankRightsAndSlots) :
    w.setRankInfo g actor rankId rights moneyPerDay tabs = w ∨
    ∃ g', g.SameRoster g' ∧
      (w.setRankInfo g actor rankId rights moneyPerDay tabs).guild = some g' := by
  unfold setRankInfo
  by_cases hl : (!g.isLeader actor) = true
  · exact .inl (if_pos hl)
  · rw [if_neg hl]
    refine .inr ⟨_, ?_, rfl⟩
    have hrights := Guild.sameRoster_modifyRank g rankId (·.setRights rights) (fun _ => rfl)
    have hmoney := Guild.sameRoster_setRankBankMoneyPerDay
      (g.modifyRank rankId (·.setRights rights)) rankId moneyPerDay
    exact (hrights.trans hmoney).trans (Guild.sameRoster_foldl _
      (fun g (v : _ × Nat) => Guild.sameRoster_setRankBankTabRightsAndSlots g rankId v.2 v.1) _ _)

/-- The leader `Validate` finds or makes: the stored one, or a member in his place. -/
theorem validateLeader_cases (w : GuildWorld) (g : Guild) (hw : w.guild = some g) :
    (w.validateLeader g).guild = none ∨ ∃ leader g', (w.validateLeader g).guild = some g' ∧
      ((g.getMember g.leaderGuid = some leader ∧ leader.rankId = GR_GUILDMASTER ∧ g' = g) ∨
       (g.getMember g.leaderGuid = some leader ∧ g' = g.makeLeader leader) ∨
       (g.getMember g.leaderGuid = none ∧ g.newLeader g.leaderGuid = some leader ∧
        g' = (g.makeLeader leader).eraseMember g.leaderGuid)) := by
  unfold validateLeader
  cases hm : g.getMember g.leaderGuid with
  | none =>
    rcases deleteMember_cases w g g.leaderGuid with h | ⟨hne, _⟩ | ⟨leader, _, hn, h⟩
    · exact .inl h
    · exact absurd rfl hne
    · exact .inr ⟨leader, _, h, .inr (.inr ⟨rfl, hn, rfl⟩)⟩
  | some leader =>
    by_cases hr : leader.isRank GR_GUILDMASTER = true
    · simp only [if_pos hr]
      exact .inr ⟨leader, g, hw, .inl ⟨rfl, by simpa [Guild.Member.isRank] using hr, rfl⟩⟩
    · simp only [if_neg hr]
      exact .inr ⟨leader, _, rfl, .inr (.inl ⟨rfl, rfl⟩)⟩

theorem validate_cases (w : GuildWorld) (g : Guild) (allowMultiple : Bool) :
    (w.validate g allowMultiple).guild = none ∨ ∃ w₁ g₂ : _,
      w₁.guild = some g.repairRanks.repairMembers ∧
      (validateLeader w₁ g.repairRanks.repairMembers).guild = some g₂ ∧
      (w.validate g allowMultiple).guild = some (if allowMultiple then g₂ else
        g₂.changeRanks (fun m => m.isRank GR_GUILDMASTER && !m.isSamePlayer g₂.leaderGuid)
          GR_OFFICER) := by
  unfold validate
  simp only
  generalize hw₁ : w.changeRank g.repairRanks (fun m => m.rankId > g.repairRanks.getRanksSize)
    g.repairRanks.getLowestRankId = w₁
  have hg₁ : w₁.guild = some g.repairRanks.repairMembers := by
    rw [← hw₁]
    rfl
  cases h₂ : (w₁.validateLeader g.repairRanks.repairMembers).guild with
  | none => exact .inl h₂
  | some g₂ =>
    simp only
    by_cases hempty : g₂.members.isEmpty = true
    · rw [if_pos hempty]
      exact .inl rfl
    · rw [if_neg hempty]
      refine .inr ⟨w₁, g₂, hg₁, h₂, ?_⟩
      cases allowMultiple with
      | true => exact h₂
      | false => rfl

theorem asGuildPlayer_keeps {I : GuildWorld → Prop} (h : I w)
    {f : Guild → GuildPlayer → GuildWorld}
    (hf : ∀ g ∈ w.guild, ∀ p ∈ w.player actor, p.guildId = g.id → I (f g p)) :
    I (w.asGuildPlayer actor f) := by
  unfold asGuildPlayer
  split
  · rename_i g p hg hp
    split
    · rename_i hin
      exact hf g hg p hp hin.2
    · exact h
  · exact h

theorem withGuild_keeps {I : GuildWorld → Prop} (h : I w) {f : Guild → GuildWorld}
    (hf : ∀ g ∈ w.guild, I (f g)) : I (w.withGuild f) := by
  unfold withGuild
  split
  · rename_i g hg
    exact hf g hg
  · exact h

end Guild

end GuildWorld

theorem swapAt_perm {α : Type} (i : Nat) (l : List α) : (swapAt i l).Perm l := by
  induction i generalizing l with
  | zero =>
    match l with
    | [] => exact .refl _
    | [_] => exact .refl _
    | a :: b :: l => exact .swap a b l
  | succ i ih =>
    match l with
    | [] => exact .refl _
    | a :: l => exact (ih l).cons a

end SkyfireBG
