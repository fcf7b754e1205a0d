import SkyfireBG.Guild.RankList

/-!
# SkyfireBG.Guild.Master

Who leads a guild, over every history of it.

The leader is stored twice, as the guid of the guild and as a rank of zero.  `HandleSetLeader` gives
the rank to the new leader before it takes it from the old one, so a leader who names himself ends
as an officer.  `ChangeMemberRank` and `AddMember` give a rank without looking at the leader.

* `Guild.Led`         — the stored leader is a member of rank zero.
* `Guild.Mastered`    — and nobody else has that rank.
* `MasterKept`        — the steps that keep it.
* `PromotesBelow`     — what a promotion or demotion may give.
-/

namespace SkyfireBG

namespace Guild

structure Led (g : Guild) : Prop extends g.Sized, g.Keyed where
  low : ∀ m ∈ g.members, m.rankId ≤ GUILD_RANKS_MAX_COUNT
  leader : ∃ m ∈ g.members, m.guid = g.leaderGuid ∧ m.rankId = GR_GUILDMASTER

structure Mastered (g : Guild) : Prop extends g.Led where
  single : ∀ m ∈ g.members, m.rankId = GR_GUILDMASTER → m.guid = g.leaderGuid

section Kept

variable {g g' : Guild} {sel : Member → Bool} {r guid : Nat} {m m' : Member}

theorem Keyed.key_eq (h : g.Keyed) (hm : m ∈ g.members) (hg : guid < 2 ^ 32) :
    lowPart m.guid = lowPart guid ↔ m.guid = guid := by
  rw [lowPart_of_lt (h.guids m hm), lowPart_of_lt hg]

theorem Led.leader_lt (h : g.Led) : g.leaderGuid < 2 ^ 32 := by
  obtain ⟨m, hm, he, _⟩ := h.leader
  exact he ▸ h.guids m hm

theorem Mastered.isLeader_iff (h : g.Mastered) (hg : guid < 2 ^ 32) :
    g.isLeader guid = true ↔ guid = g.leaderGuid := by
  unfold isLeader
  by_cases he : guid = g.leaderGuid
  · simp [he]
  · rw [if_neg he]
    refine ⟨fun hr => ?_, fun h => absurd h he⟩
    cases hm : g.getMember guid with
    | none => simp [hm] at hr
    | some m =>
      have hmem := getMember_mem hm
      have hrank : m.rankId = GR_GUILDMASTER := by simpa [hm, Member.isRank] using hr
      exact ((h.key_eq hmem hg).mp (getMember_key hm)).symm.trans (h.single m hmem hrank)

theorem Keyed.eraseMember (h : g.Keyed) : (g.eraseMember guid).Keyed :=
  ⟨fun m hm => h.guids m (mem_eraseMember.mp hm).1, (h.nodup.sublist (List.filter_sublist.map _))⟩

theorem Led.changeRanks (h : g.Led) (hsel : ∀ m ∈ g.members, sel m = true → m.guid ≠ g.leaderGuid)
    (hr : r ≤ GUILD_RANKS_MAX_COUNT) : (g.changeRanks sel r).Led := by
  obtain ⟨l, hl, hguid, hrank⟩ := h.leader
  refine ⟨⟨h.min, h.max⟩, h.toKeyed.changeRanks, ?_, ⟨l, ?_, hguid, hrank⟩⟩
  · intro m hm
    obtain ⟨x, hx, rfl⟩ := mem_changeRanks.mp hm
    by_cases hs : sel x = true
    · rw [if_pos hs]
      exact hr
    · rw [if_neg hs]
      exact h.low x hx
  · exact mem_changeRanks.mpr ⟨l, hl, if_neg (fun hs => hsel l hl hs hguid)⟩

theorem Mastered.changeRanks (h : g.Mastered)
    (hsel : ∀ m ∈ g.members, sel m = true → m.guid ≠ g.leaderGuid)
    (hr : r ≤ GUILD_RANKS_MAX_COUNT) (h0 : r ≠ GR_GUILDMASTER) : (g.changeRanks sel r).Mastered := by
  refine ⟨h.toLed.changeRanks hsel hr, ?_⟩
  intro m hm hrank
  obtain ⟨x, hx, rfl⟩ := mem_changeRanks.mp hm
  by_cases hs : sel x = true
  · rw [if_pos hs] at hrank
    exact absurd hrank h0
  · rw [if_neg hs] at hrank ⊢
    exact h.single x hx hrank

theorem Mastered.insertMember (h : g.Mastered) (hm : m.guid < 2 ^ 32) (hne : m.guid ≠ g.leaderGuid)
    (hr : m.rankId ≤ GUILD_RANKS_MAX_COUNT) (h0 : m.rankId ≠ GR_GUILDMASTER) :
    (g.insertMember m).Mastered := by
  obtain ⟨l, hl, hguid, hrank⟩ := h.leader
  refine ⟨⟨⟨h.min, h.max⟩, h.toKeyed.insertMember hm, ?_, ⟨l, ?_, hguid, hrank⟩⟩, ?_⟩
  · intro x hx
    rcases mem_insertMember hx with rfl | ⟨hx, _⟩
    · exact hr
    · exact h.low x hx
  · refine insertMember_of_mem hl ?_
    rw [Ne, h.key_eq hl hm, hguid]
    exact hne.symm
  · intro x hx hx0
    rcases mem_insertMember hx with rfl | ⟨hx, _⟩
    · exact absurd hx0 h0
    · exact h.single x hx hx0

theorem Led.of_makeLeader (hs : g.Sized) (hk : g.Keyed)
    (hlow : ∀ m ∈ g.members, m.rankId ≤ GUILD_RANKS_MAX_COUNT) (hm : m ∈ g.members) :
    (g.makeLeader m).Led := by
  refine ⟨⟨hs.min, hs.max⟩, ?_, ?_, ?_⟩
  · exact Keyed.changeRanks (g := { g with leaderGuid := m.guid }) ⟨hk.guids, hk.nodup⟩
  · intro x hx
    obtain ⟨y, hy, rfl⟩ := mem_changeRanks.mp hx
    split
    · exact Nat.zero_le _
    · exact hlow y hy
  · exact ⟨{ m with rankId := GR_GUILDMASTER },
      mem_changeRanks.mpr ⟨m, hm, if_pos (beq_self_eq_true _)⟩, rfl, rfl⟩

theorem Led.eraseMember (h : g.Led) (hne : lowPart g.leaderGuid ≠ lowPart guid) :
    (g.eraseMember guid).Led := by
  obtain ⟨l, hl, hguid, hrank⟩ := h.leader
  refine ⟨⟨h.min, h.max⟩, h.toKeyed.eraseMember, ?_, ⟨l, ?_, hguid, hrank⟩⟩
  · exact fun m hm => h.low m (mem_eraseMember.mp hm).1
  · exact mem_eraseMember.mpr ⟨hl, hguid ▸ hne⟩

theorem Mastered.eraseMember (h : g.Mastered) (hne : lowPart g.leaderGuid ≠ lowPart guid) :
    (g.eraseMember guid).Mastered :=
  ⟨h.toLed.eraseMember hne, fun m hm => h.single m (mem_eraseMember.mp hm).1⟩

theorem Sized.low_repairMembers (h : g.Sized) :
    ∀ m ∈ g.repairMembers.members, m.rankId ≤ GUILD_RANKS_MAX_COUNT := by
  intro m hm
  obtain ⟨x, _, rfl⟩ := mem_changeRanks.mp hm
  have hmax := h.max
  have hlow := h.lowest
  rw [h.ranksSize]
  by_cases hgt : x.rankId > g.ranks.length
  · rw [if_pos (by simpa using hgt)]
    show g.getLowestRankId ≤ _
    omega
  · rw [if_neg (by simpa using hgt)]
    omega

theorem makeLeader_master (hk : g.Keyed) (hm : m ∈ g.members) {x : Member}
    (hx : x ∈ (g.makeLeader m).members) (h0 : x.rankId = GR_GUILDMASTER) :
    x.guid = m.guid ∨ (x ∈ g.members ∧ x.guid ≠ m.guid) := by
  obtain ⟨y, hy, rfl⟩ := mem_changeRanks.mp hx
  by_cases he : y.guid = m.guid
  · left
    split <;> exact he
  · have hkey : ¬ lowPart y.guid = lowPart m.guid := fun h =>
      he ((hk.key_eq hy (hk.guids m hm)).mp h)
    rw [if_neg (by simpa using hkey)]
    exact .inr ⟨hy, he⟩

theorem Mastered.succession (h : g.Mastered) (hm : m ∈ g.members)
    (hne : lowPart m.guid ≠ lowPart g.leaderGuid) :
    ((g.makeLeader m).eraseMember g.leaderGuid).Mastered := by
  refine ⟨(Led.of_makeLeader h.toSized h.toKeyed h.low hm).eraseMember hne, ?_⟩
  intro x hx h0
  obtain ⟨hx, hk⟩ := mem_eraseMember.mp hx
  rcases makeLeader_master h.toKeyed hm hx h0 with he | ⟨hx', _⟩
  · exact he
  · exact absurd (congrArg lowPart (h.single x hx' h0)) hk

theorem Mastered.transfer (h : g.Mastered) (hm : m ∈ g.members) (hm' : m' ∈ g.members)
    (hold : m'.guid = g.leaderGuid) (hne : m.guid ≠ m'.guid) :
    ((g.makeLeader m).changeRanks (fun x => lowPart x.guid == lowPart m'.guid)
      GR_OFFICER).Mastered := by
  have hled := Led.of_makeLeader h.toSized h.toKeyed h.low hm
  have hsel : ∀ x ∈ (g.makeLeader m).members,
      (lowPart x.guid == lowPart m'.guid) = true → x.guid ≠ m.guid := by
    intro x hx hs he
    rw [beq_iff_eq, hled.key_eq hx (h.guids m' hm')] at hs
    exact hne (he.symm.trans hs)
  refine ⟨hled.changeRanks hsel (by decide), ?_⟩
  intro x hx h0
  obtain ⟨y, hy, rfl⟩ := mem_changeRanks.mp hx
  by_cases hs : (lowPart y.guid == lowPart m'.guid) = true
  · rw [if_pos hs] at h0
    exact absurd h0 Nat.one_ne_zero
  · rw [if_neg hs] at h0 ⊢
    rcases makeLeader_master h.toKeyed hm hy h0 with he | ⟨hy', _⟩
    · exact he
    · have := h.single y hy' h0
      rw [this, hold] at hs
      exact absurd (beq_self_eq_true _) hs

/-- What the last loop of `Validate` makes of a guild with a leader. -/
theorem Led.mastered (h : g.Led) : (g.changeRanks
    (fun m => m.isRank GR_GUILDMASTER && !m.isSamePlayer g.leaderGuid) GR_OFFICER).Mastered := by
  refine ⟨h.changeRanks ?_ (by decide), ?_⟩
  · intro m _ hs
    simpa [Member.isSamePlayer] using (Bool.and_eq_true_iff.mp hs).2
  · intro x hx h0
    obtain ⟨y, hy, rfl⟩ := mem_changeRanks.mp hx
    by_cases hs : (y.isRank GR_GUILDMASTER && !y.isSamePlayer g.leaderGuid) = true
    · rw [if_pos hs] at h0
      exact absurd h0 Nat.one_ne_zero
    · rw [if_neg hs] at h0 ⊢
      by_contra hne
      have hne' : ¬ y.guid = g.leaderGuid := hne
      exact hs (by simp [Member.isRank, Member.isSamePlayer, h0, hne'])

theorem Mastered.same (h : g.Mastered) (hs : g.SameRoster g') : g'.Mastered := by
  have hguids : g'.members.map (·.guid) = g.members.map (·.guid) := by
    have := congrArg (List.map Prod.fst) hs.members
    simpa [Function.comp_def] using this
  obtain ⟨l, hl, hguid, hrank⟩ := h.leader
  have hback : SameRoster g' g := ⟨hs.leader.symm, hs.members.symm, hs.ranks.symm⟩
  obtain ⟨l', hl', hguid', hrank'⟩ := hback.member hl
  refine ⟨⟨h.toSized.of_ranks hs.ranks_length, h.toKeyed.same hguids, ?_, ⟨l', hl', ?_, ?_⟩⟩, ?_⟩
  · intro m hm
    obtain ⟨x, hx, _, he⟩ := hs.member hm
    exact he ▸ h.low x hx
  · exact hguid'.trans (hguid.trans hs.leader.symm)
  · exact hrank'.trans hrank
  · intro m hm h0
    obtain ⟨x, hx, hxg, hxr⟩ := hs.member hm
    exact hxg.symm.trans ((h.single x hx (hxr.trans h0)).trans hs.leader.symm)

theorem Mastered.swapAt (h : g.Mastered) (i : Nat) :
    ({ g with members := swapAt i g.members } : Guild).Mastered := by
  have hmem (m : Member) := (swapAt_perm i g.members).mem_iff (a := m)
  obtain ⟨l, hl, hlead⟩ := h.leader
  refine ⟨⟨⟨h.min, h.max⟩, ⟨fun m hm => h.guids m ((hmem m).mp hm), ?_⟩,
    fun m hm => h.low m ((hmem m).mp hm), ⟨l, (hmem l).mpr hl, hlead⟩⟩,
    fun m hm => h.single m ((hmem m).mp hm)⟩
  exact ((swapAt_perm i g.members).map _).nodup_iff.mpr h.nodup

theorem Mastered.setRanks (h : g.Mastered) {ranks : List RankInfo}
    (hs : ({ g with ranks := ranks } : Guild).Sized) :
    ({ g with ranks := ranks } : Guild).Mastered :=
  ⟨⟨hs, ⟨h.guids, h.nodup⟩, h.low, h.leader⟩, h.single⟩

end Kept

end Guild

/-! ## The guild over time -/

namespace GuildWorld

def Mastered (w : GuildWorld) : Prop := ∀ g ∈ w.guild, g.Mastered

/-- The guild of the character as `AddMember` looks it up. -/
def guildIdOf (w : GuildWorld) (guid : Nat) (stored : StoredCharacter) : Nat :=
  match w.findPlayer guid with
  | some p => p.guildId
  | none => stored.guildId

/-- The leader is not taken in again and does not name himself; only he gets the first rank from
`ChangeMemberRank`, and no other; whoever promotes or demotes has the rank his object carries; and
there is one guild master after a load. -/
def MasterKept (w : GuildWorld) : GuildEvent → Prop
  | .addMember guid stored => ∀ g ∈ w.guild, lowPart guid = g.leaderGuid →
      w.guildIdOf (lowPart guid) stored ≠ 0
  | .updateMemberRank actor _ _ => ∀ g ∈ w.guild, ∀ p ∈ w.player (lowPart actor),
      p.guildId = g.id → (g.getMember (lowPart actor)).map (·.rankId) = some p.rank
  | .setLeader actor name => ∀ g ∈ w.guild, ∀ p ∈ w.player (lowPart actor), p.guildId = g.id →
      g.isLeader (lowPart actor) = true →
      ∀ m ∈ g.getMemberByName name, m.guid ≠ lowPart actor
  | .changeMemberRank guid newRank => ∀ g ∈ w.guild, newRank % 256 ≤ g.getLowestRankId →
      ∀ m ∈ g.getMember guid, (newRank % 256 = GR_GUILDMASTER ↔ m.guid = g.leaderGuid)
  | .load _ allowMultiple => allowMultiple = false
  | _ => True

instance (w : GuildWorld) : (e : GuildEvent) → Decidable (w.MasterKept e)
  | .addMember .. => by unfold MasterKept; infer_instance
  | .updateMemberRank .. => by unfold MasterKept; infer_instance
  | .setLeader .. => by unfold MasterKept; infer_instance
  | .changeMemberRank .. => by unfold MasterKept; infer_instance
  | .load .. => by unfold MasterKept; infer_instance
  | .create .. | .leaveMember .. | .removeMember .. | .addNewRank .. | .removeRank .. | .setRankInfo ..
  | .deleteMember .. | .disband .. | .reorder .. | .player .. => .isTrue trivial

/-- A rank changed by a promotion or a demotion stays below that of the member who changed it. -/
def PromotesBelow (w : GuildWorld) : GuildEvent → Prop
  | .updateMemberRank actor guid demote => ∀ g ∈ w.guild, ∀ a ∈ g.getMember (lowPart actor),
      ∀ g' ∈ (w.step (.updateMemberRank actor guid demote)).guild,
      ∀ m ∈ g'.members, m ∈ g.members ∨ a.rankId < m.rankId
  | _ => True

variable {w : GuildWorld} {g : Guild}

theorem Mastered.of_some {w' : GuildWorld} {g' : Guild} (hg : w'.guild = some g')
    (h : g'.Mastered) : w'.Mastered := by
  intro g₁ hg₁
  cases hg.symm.trans hg₁
  exact h

theorem Mastered.of_none {w' : GuildWorld} (hg : w'.guild = none) : w'.Mastered := by
  intro g₁ hg₁
  cases hg.symm.trans hg₁

theorem mastered_deleteMember (h : g.Mastered) {guid : Nat}
    (hguid : guid = g.leaderGuid ∨ lowPart g.leaderGuid ≠ lowPart guid) :
    (w.deleteMember g guid).Mastered := by
  rcases deleteMember_cases w g guid with he | ⟨hne, he⟩ | ⟨leader, heq, hn, he⟩
  · exact .of_none he
  · exact .of_some he (h.eraseMember (hguid.resolve_left (fun hg => hne hg.symm)))
  · obtain ⟨hm, hk⟩ := Guild.newLeader_mem hn
    subst heq
    exact .of_some he (h.succession hm hk)

theorem mastered_deleteMember_low (h : g.Mastered) {guid : Nat} (hg : guid < 2 ^ 32) :
    (w.deleteMember g guid).Mastered := by
  refine mastered_deleteMember h ?_
  rw [Guild.lowPart_of_lt h.leader_lt, Guild.lowPart_of_lt hg]
  exact (Decidable.em (guid = g.leaderGuid)).imp_right (fun hne he => hne he.symm)

theorem addMember_guildId {guid rankId : Nat} {stored : StoredCharacter} {w' : GuildWorld}
    (ha : w.addMember g guid rankId stored = some w') : w.guildIdOf guid stored = 0 := by
  unfold addMember at ha
  unfold guildIdOf
  cases hp : w.findPlayer guid with
  | some p =>
    simp only [hp] at ha ⊢
    by_contra hne
    rw [if_pos hne] at ha
    cases ha
  | none =>
    simp only [hp] at ha ⊢
    by_contra hne
    rw [if_pos hne] at ha
    cases ha

theorem mastered_addMember (h : g.Mastered) {guid : Nat} {stored : StoredCharacter}
    {w' : GuildWorld} (hg : guid < 2 ^ 32)
    (hne : guid = g.leaderGuid → w.guildIdOf guid stored ≠ 0)
    (ha : w.addMember g guid GUILD_RANK_NONE stored = some w') : w'.Mastered := by
  obtain ⟨name, hw'⟩ := addMember_some ha
  have hlow := h.lowest
  have hmin := h.min
  have hmax := h.max
  simp only [GUILD_RANKS_MIN_COUNT, GUILD_RANKS_MAX_COUNT] at hmin hmax
  refine .of_some hw' (h.insertMember hg (fun he => hne he (addMember_guildId ha)) ?_ ?_)
  · show (if GUILD_RANK_NONE = GUILD_RANK_NONE then g.getLowestRankId else GUILD_RANK_NONE) ≤ 10
    rw [if_pos rfl]
    omega
  · show (if GUILD_RANK_NONE = GUILD_RANK_NONE then g.getLowestRankId else GUILD_RANK_NONE) ≠ 0
    rw [if_pos rfl]
    omega

theorem mastered_create (h : w.Mastered) {guid : Nat} (hg : guid < 2 ^ 32) (newId : Nat)
    (stored : StoredCharacter) : (w.create guid newId stored).Mastered := by
  unfold create
  obtain ⟨ranks, hids, he⟩ := Guild.createDefaultGuildRanks_eq
    (g := ({ id := newId, leaderGuid := guid } : Guild)) rfl
  have hlen : ranks.length = 5 := by simpa using congrArg List.length hids
  rw [he]
  cases ha : w.addMember ({ id := newId, leaderGuid := guid, ranks := ranks } : Guild)
      guid GR_GUILDMASTER stored with
  | none => simpa only [ha] using h
  | some w' =>
    simp only [ha]
    obtain ⟨name, hw'⟩ := addMember_some ha
    have hmem : ∀ m ∈ (({ id := newId, leaderGuid := guid, ranks := ranks } : Guild).insertMember
        { guid := guid, name := name, rankId := GR_GUILDMASTER }).members,
        m = { guid := guid, name := name, rankId := GR_GUILDMASTER } := by
      intro m hm
      exact (Guild.mem_insertMember hm).resolve_right (fun hm => by cases hm.1)
    refine .of_some hw' ⟨⟨⟨?_, ?_⟩, ?_, ?_, ⟨_, Guild.insertMember_mem, rfl, rfl⟩⟩, ?_⟩
    · simp [hlen, GUILD_RANKS_MIN_COUNT]
    · simp [hlen, GUILD_RANKS_MAX_COUNT]
    · exact Guild.Keyed.insertMember ⟨fun m hm => (by cases hm), List.nodup_nil⟩ hg
    · intro m hm
      rw [hmem m hm]
      exact Nat.zero_le _
    · intro m hm _
      rw [hmem m hm]
      rfl

theorem Promoted.not_leader {actor : Nat} {p : GuildPlayer} {guid : Nat} {demote : Bool}
    {m : Guild.Member} (hp : Promoted g actor p guid demote m) : m.rankId ≠ GR_GUILDMASTER := by
  intro h0
  cases demote with
  | true =>
    have := (hp.demoted rfl).1
    rw [h0] at this
    exact Nat.not_lt_zero _ this
  | false =>
    have := hp.promoted rfl
    rw [h0] at this
    exact Nat.not_lt_zero _ this

theorem Promoted.newRank {actor : Nat} {p : GuildPlayer} {guid : Nat} {demote : Bool}
    {m : Guild.Member} (h : g.Mastered) (hp : Promoted g actor p guid demote m)
    (hrank : p.rank ≤ GUILD_RANKS_MAX_COUNT) :
    let r := if demote then (m.rankId + 1) % 256 else (m.rankId + 255) % 256
    p.rank < r ∧ r ≤ GUILD_RANKS_MAX_COUNT := by
  have hm := h.low m (Guild.getMember_mem hp.member)
  have hlow := h.lowest
  have hmax := h.max
  simp only [GUILD_RANKS_MAX_COUNT] at *
  cases demote with
  | true =>
    have := hp.demoted rfl
    simp only [if_true]
    omega
  | false =>
    have := hp.promoted rfl
    simp only [Bool.false_eq_true, if_false]
    omega

theorem actor_rank {actor : Nat} {p : GuildPlayer} (h : g.Mastered)
    (hrank : (g.getMember actor).map (·.rankId) = some p.rank) : p.rank ≤ GUILD_RANKS_MAX_COUNT := by
  obtain ⟨a, ha, he⟩ := Option.map_eq_some_iff.mp hrank
  exact he ▸ h.low a (Guild.getMember_mem ha)

theorem mastered_updateMemberRank (h : w.Mastered) (hg : g.Mastered) {actor : Nat}
    {p : GuildPlayer} (hrank : p.rank ≤ GUILD_RANKS_MAX_COUNT) (guid : Nat) (demote : Bool) :
    (w.updateMemberRank g actor p guid demote).Mastered := by
  rcases updateMemberRank_cases w g actor p guid demote with he | ⟨m, hm, he⟩
  · rw [he]
    exact h
  · rw [he]
    obtain ⟨hlt, hmax⟩ := hm.newRank hg hrank
    refine .of_some rfl (hg.changeRanks ?_ hmax (Nat.ne_of_gt (Nat.zero_lt_of_lt hlt)))
    intro x hx hs hl
    have hxm := Keyed_unique hg.toKeyed hx (Guild.getMember_mem hm.member)
      ((by simpa using hs : lowPart x.guid = lowPart guid).trans
        (Guild.getMember_key hm.member).symm)
    obtain ⟨l, hlmem, hlguid, hl0⟩ := hg.leader
    have hlm := Keyed_unique hg.toKeyed hx hlmem (congrArg lowPart (hl.trans hlguid.symm))
    exact hm.not_leader (hxm ▸ hlm ▸ hl0)

theorem mastered_setLeader (h : w.Mastered) (hg : g.Mastered) {actor : Nat}
    (hactor : actor < 2 ^ 32) (name : String) (hne : g.isLeader actor = true →
      ∀ m ∈ g.getMemberByName name, m.guid ≠ actor) :
    (w.setLeader g actor name).Mastered := by
  rcases setLeader_cases w g actor name with he | ⟨old, new, hl, hold, hnew, he⟩
  · rw [he]
    exact h
  · have hmem := Guild.getMember_mem hold
    have hguid : old.guid = actor := (hg.key_eq hmem hactor).mp (Guild.getMember_key hold)
    refine .of_some he (hg.transfer (List.mem_of_find?_eq_some hnew) hmem ?_ ?_)
    · exact hguid.trans ((hg.isLeader_iff hactor).mp hl)
    · rw [hguid]
      exact hne hl new hnew

theorem mastered_changeMemberRank (h : w.Mastered) (hg : g.Mastered) {guid newRank : Nat}
    (hr : newRank ≤ g.getLowestRankId →
      ∀ m ∈ g.getMember guid, (newRank = GR_GUILDMASTER ↔ m.guid = g.leaderGuid)) :
    (w.changeMemberRank g guid newRank).Mastered := by
  rcases changeMemberRank_cases w g guid newRank with he | ⟨m, hlow, hm, he⟩
  · rw [he]
    exact h
  · rw [he]
    have hiff := hr hlow m hm
    have hmem := Guild.getMember_mem hm
    have honly : ∀ x ∈ g.members, (lowPart x.guid == lowPart guid) = true → x = m := by
      intro x hx hs
      exact Keyed_unique hg.toKeyed hx hmem
        ((by simpa using hs : lowPart x.guid = lowPart guid).trans (Guild.getMember_key hm).symm)
    refine .of_some rfl ?_
    by_cases h0 : newRank = GR_GUILDMASTER
    · -- the leader gets the rank he has
      obtain ⟨l, hl, hlguid, hl0⟩ := hg.leader
      have hml : m = l := Keyed_unique hg.toKeyed hmem hl
        (congrArg lowPart ((hiff.mp h0).trans hlguid.symm))
      refine hg.same ⟨rfl, ?_, rfl⟩
      rw [Guild.changeRanks, List.map_map]
      apply List.map_congr_left
      intro x hx
      show ((if (lowPart x.guid == lowPart guid) = true then { x with rankId := newRank } else x).guid,
        (if (lowPart x.guid == lowPart guid) = true then { x with rankId := newRank } else x).rankId)
        = (x.guid, x.rankId)
      by_cases hs : (lowPart x.guid == lowPart guid) = true
      · rw [if_pos hs, h0, honly x hx hs, hml, hl0]
      · rw [if_neg hs]
    · have hmax := hg.max
      have hlowest := hg.lowest
      refine hg.changeRanks ?_ (by omega) h0
      intro x hx hs hl
      rw [honly x hx hs] at hl
      exact h0 (hiff.mpr hl)

theorem led_validateLeader {g₂ : Guild} (hw : w.guild = some g) (hs : g.Sized) (hk : g.Keyed)
    (hlow : ∀ m ∈ g.members, m.rankId ≤ GUILD_RANKS_MAX_COUNT) (hlt : g.leaderGuid < 2 ^ 32)
    (hg₂ : (w.validateLeader g).guild = some g₂) : g₂.Led := by
  rcases validateLeader_cases w g hw with hn | ⟨leader, g', hg', hcase⟩
  · cases hn.symm.trans hg₂
  · cases hg'.symm.trans hg₂
    rcases hcase with ⟨hm, hr, rfl⟩ | ⟨hm, rfl⟩ | ⟨_, hn, rfl⟩
    · have hmem := Guild.getMember_mem hm
      exact ⟨hs, hk, hlow, ⟨leader, hmem, (hk.key_eq hmem hlt).mp (Guild.getMember_key hm), hr⟩⟩
    · exact .of_makeLeader hs hk hlow (Guild.getMember_mem hm)
    · obtain ⟨hmem, hne⟩ := Guild.newLeader_mem hn
      exact (Guild.Led.of_makeLeader hs hk hlow hmem).eraseMember hne

theorem mastered_validate (rows : GuildRows) :
    (w.validate (Guild.load rows) false).Mastered := by
  rcases validate_cases w (Guild.load rows) false with h | ⟨w₁, g₂, hw₁, hg₂, h⟩
  · exact .of_none h
  · obtain ⟨ranks, hg, hids, hmin, hmax⟩ := Guild.repairRanks_load rows
    have hlen : ranks.length = rows.rankCount := by simpa using congrArg List.length hids
    have hsized : (Guild.load rows).repairRanks.Sized := by
      rw [hg]
      exact ⟨hlen.symm ▸ hmin, hlen.symm ▸ hmax⟩
    have hkeyed : (Guild.load rows).repairRanks.Keyed := by
      rw [hg]
      exact ⟨(Guild.keyed_load rows).guids, (Guild.keyed_load rows).nodup⟩
    have hleader : (Guild.load rows).repairRanks.leaderGuid < 2 ^ 32 := by
      rw [hg]
      exact (Guild.load_fields rows).2 ▸ Guild.lowPart_lt _
    have hled : g₂.Led := led_validateLeader hw₁ ⟨hsized.min, hsized.max⟩ hkeyed.changeRanks
      hsized.low_repairMembers hleader hg₂
    exact .of_some h hled.mastered

theorem mastered_step {e : GuildEvent} (h : w.Mastered) (he : w.MasterKept e) :
    (w.step e).Mastered := by
  cases e with
  | create guid newId stored =>
    simp only [step]
    split
    · exact h
    · exact mastered_create h (Guild.lowPart_lt _) _ _
  | addMember guid stored =>
    refine withGuild_keeps h (fun g hg => ?_)
    cases ha : w.addMember g (lowPart guid) GUILD_RANK_NONE stored with
    | none => exact h
    | some w' => exact mastered_addMember (h g hg) (Guild.lowPart_lt _) (he g hg) ha
  | leaveMember actor =>
    refine asGuildPlayer_keeps h (fun g hg _ _ _ => ?_)
    rcases leaveMember_cases w g (lowPart actor) with hs | hs | ⟨_, hs⟩
    · rw [hs]
      exact h
    · exact .of_none hs
    · rw [hs]
      exact mastered_deleteMember_low (h g hg) (Guild.lowPart_lt _)
  | removeMember actor guid =>
    refine asGuildPlayer_keeps h (fun g hg p _ _ => ?_)
    rcases removeMember_cases w g p guid with hs | ⟨m, hm, h0, hs⟩
    · rw [hs]
      exact h
    · rw [hs]
      refine mastered_deleteMember (h g hg) (.inr (fun hk => ?_))
      obtain ⟨l, hl, hguid, hl0⟩ := (h g hg).leader
      have := Keyed_unique (h g hg).toKeyed (Guild.getMember_mem hm) hl
        ((Guild.getMember_key hm).trans (hk.symm.trans (congrArg lowPart hguid.symm)))
      exact h0 (this ▸ hl0)
  | updateMemberRank actor guid demote =>
    refine asGuildPlayer_keeps h (fun g hg p hp hin => ?_)
    exact mastered_updateMemberRank h (h g hg) (actor_rank (h g hg) (he g hg p hp hin)) guid demote
  | addNewRank actor =>
    refine asGuildPlayer_keeps h (fun g hg _ _ _ => ?_)
    rcases addNewRank_cases w g (lowPart actor) with hs | hs
    · rw [hs]
      exact h
    · refine .of_some hs ?_
      have hsized := (h g hg).toSized.createRank (GR_RIGHT_GCHATLISTEN ||| GR_RIGHT_GCHATSPEAK)
      unfold Guild.createRank at hsized ⊢
      split
      · exact h g hg
      · rename_i hsize
        rw [if_neg hsize] at hsized
        exact (h g hg).setRanks hsized
  | removeRank actor rankId =>
    refine asGuildPlayer_keeps h (fun g hg _ _ _ => ?_)
    rw [removeRank_eq]
    by_cases hr : removes g (lowPart actor) (rankId % 256) = true
    · rw [if_pos hr]
      have hmin : GUILD_RANKS_MIN_COUNT < g.getRanksSize := by
        simp only [removes, Bool.and_eq_true, decide_eq_true_eq] at hr
        exact hr.1.1
      exact .of_some rfl ((h g hg).setRanks ((h g hg).toSized.eraseRank hmin _))
    · rw [if_neg hr]
      exact h
  | setRankInfo actor rankId rights money tabs =>
    refine asGuildPlayer_keeps h (fun g hg _ _ _ => ?_)
    rcases setRankInfo_cases w g (lowPart actor) (rankId % 256) rights money tabs with
      hs | ⟨g', hsame, hs⟩
    · rw [hs]
      exact h
    · exact .of_some hs ((h g hg).same hsame)
  | setLeader actor name =>
    refine asGuildPlayer_keeps h (fun g hg p hp hin => ?_)
    exact mastered_setLeader h (h g hg) (Guild.lowPart_lt _) name (he g hg p hp hin)
  | changeMemberRank guid newRank =>
    exact withGuild_keeps h (fun g hg => mastered_changeMemberRank h (h g hg) (he g hg))
  | deleteMember guid =>
    exact withGuild_keeps h
      (fun g hg => mastered_deleteMember_low (h g hg) (Guild.lowPart_lt _))
  | disband actor =>
    refine asGuildPlayer_keeps h (fun g _ _ _ _ => ?_)
    split
    · exact .of_none rfl
    · exact h
  | load rows allowMultiple =>
    have hno : allowMultiple = false := he
    subst hno
    exact mastered_validate rows
  | reorder i =>
    exact withGuild_keeps h (fun g hg => .of_some rfl ((h g hg).swapAt i))
  | player guid p => exact h

theorem promotesBelow {e : GuildEvent} (h : w.Mastered) (he : w.MasterKept e) :
    w.PromotesBelow e := by
  cases e with
  | updateMemberRank actor guid demote =>
    intro g hg a ha
    have same : ∀ g' ∈ w.guild, ∀ m ∈ g'.members, m ∈ g.members ∨ a.rankId < m.rankId := by
      intro g' hg' m hm
      cases Option.some.inj (hg.symm.trans hg')
      exact .inl hm
    refine asGuildPlayer_keeps (I := fun w' => ∀ g' ∈ w'.guild, ∀ m ∈ g'.members,
      m ∈ g.members ∨ a.rankId < m.rankId) same (fun g₀ hg₀ p hp hin => ?_)
    cases Option.some.inj (hg.symm.trans hg₀)
    rcases updateMemberRank_cases w g (lowPart actor) p guid demote with hs | ⟨m, hm, hs⟩
    · rw [hs]
      exact same
    · rw [hs]
      intro g' hg' x hx
      cases hg'
      obtain ⟨y, hy, rfl⟩ := Guild.mem_changeRanks.mp hx
      have hrank := he g hg p hp hin
      have harank : a.rankId = p.rank := by
        simpa [Option.mem_def.mp ha] using hrank
      split
      · refine .inr ?_
        rw [harank]
        exact (hm.newRank (h g hg) (actor_rank (h g hg) hrank)).1
      · exact .inl hy
  | _ => trivial

end GuildWorld

/-- From its founding on a guild is led by one member, who alone has the first rank, as long as no
leader names himself and every promotion is made by a member whose object carries his rank; and then
a promotion or demotion gives only ranks below that of the member who makes it. -/
theorem guild_master {player : Nat → Option GuildPlayer} {es : List GuildEvent} {w : GuildWorld}
    (h : Run GuildWorld.step GuildWorld.MasterKept ⟨none, player⟩ es w) :
    w.Mastered ∧ ∀ e, w.MasterKept e → w.PromotesBelow e := by
  have hm : w.Mastered := h.invariant (fun _ _ => GuildWorld.mastered_step) nofun
  exact ⟨hm, fun _ => GuildWorld.promotesBelow hm⟩

theorem guild_master_handed : ∃ w,
    Run GuildWorld.step GuildWorld.MasterKept ⟨none, newcomers⟩
      [.create 1 7 { name := "Anna" }, .addMember 2 { name := "Bert" },
       .updateMemberRank 1 2 false, .setLeader 1 "Bert", .leaveMember 1] w ∧
    w.Mastered ∧ ∀ e, w.MasterKept e → w.PromotesBelow e :=
  have h := Admitted.run (by decide +kernel)
  ⟨_, h, guild_master h⟩

/-- A leader who hands the guild to himself is an officer of it afterwards, and nobody leads. -/
theorem guild_master_himself : ∃ w g,
    Run GuildWorld.step (fun _ _ => True) ⟨none, newcomers⟩
      [.create 1 7 { name := "Anna" }, .addMember 2 { name := "Bert" }, .setLeader 1 "Anna"] w ∧
    w.guild = some g ∧ g.leaderGuid = 1 ∧
    g.members.map (fun m => (m.guid, m.rankId)) = [(1, GR_OFFICER), (2, 4)] ∧ ¬ w.Mastered := by
  refine ⟨_, _, Run.free _, rfl, rfl, rfl, fun h => ?_⟩
  obtain ⟨m, hm, _, h0⟩ := (h _ rfl).leader
  have hall : ∀ r ∈ [GR_OFFICER, 4], r ≠ GR_GUILDMASTER := by decide
  exact hall m.rankId (List.mem_map.mpr ⟨m, hm, rfl⟩) h0

end SkyfireBG
