import SkyfireBG.Lib.Run
import SkyfireBG.Guild.Roster

/-!
# SkyfireBG.Guild.RankList

The rank list over every history of a guild: rank `i` stands at index `i`, there are three to ten of
them, and every member holds one that exists.

`HandleRemoveRank` takes a rank out of the middle without moving the ones behind it or the members
who held it, and `Validate` lets a member pass whose rank is one past the last.

* `Guild.Sized`  — the number of ranks; it is kept by every step.
* `Guild.Ranked` — the whole invariant.
* `OrderlyRanks` — the steps that keep it.
-/

namespace SkyfireBG

namespace Guild

structure Sized (g : Guild) : Prop where
  min : GUILD_RANKS_MIN_COUNT ≤ g.ranks.length
  max : g.ranks.length ≤ GUILD_RANKS_MAX_COUNT

structure Ranked (g : Guild) : Prop extends g.Sized where
  ids : g.ranks.map (·.rankId) = List.range g.ranks.length
  held : ∀ m ∈ g.members, m.rankId < g.ranks.length

structure Keyed (g : Guild) : Prop where
  guids : ∀ m ∈ g.members, m.guid < 2 ^ 32
  nodup : (g.members.map (·.guid)).Nodup

section Ops

variable {g g' : Guild} {sel : Member → Bool} {r guid : Nat} {m : Member}

theorem lowPart_of_lt {n : Nat} (h : n < 2 ^ 32) : lowPart n = n := Nat.mod_eq_of_lt h

theorem lowPart_lt (n : Nat) : lowPart n < 2 ^ 32 := Nat.mod_lt _ (by decide)

theorem Sized.ranksSize (h : g.Sized) : g.getRanksSize = g.ranks.length :=
  Nat.mod_eq_of_lt (Nat.lt_of_le_of_lt h.max (by decide))

theorem Sized.lowest (h : g.Sized) : g.getLowestRankId + 1 = g.ranks.length := by
  have := h.min
  have := h.max
  simp only [GUILD_RANKS_MIN_COUNT, GUILD_RANKS_MAX_COUNT] at *
  unfold getLowestRankId
  omega

@[simp] theorem insertMember_ranks : (g.insertMember m).ranks = g.ranks := rfl

@[simp] theorem insertMember_leaderGuid : (g.insertMember m).leaderGuid = g.leaderGuid := rfl

theorem mem_changeRanks : m ∈ (g.changeRanks sel r).members ↔
    ∃ x ∈ g.members, (if sel x then { x with rankId := r } else x) = m := List.mem_map

theorem mem_eraseMember : m ∈ (g.eraseMember guid).members ↔
    m ∈ g.members ∧ lowPart m.guid ≠ lowPart guid := by
  simp [eraseMember]

/-- Whoever is a member after `insertMember` was one before, under another key, or is the new one. -/
theorem mem_insertMember {x : Member} (h : x ∈ (g.insertMember m).members) :
    x = m ∨ (x ∈ g.members ∧ lowPart x.guid ≠ lowPart m.guid) := by
  unfold insertMember at h
  by_cases hk : g.members.any (fun x => lowPart x.guid == lowPart m.guid) = true
  · simp only [if_pos hk, List.mem_map] at h
    obtain ⟨y, hy, rfl⟩ := h
    by_cases hym : lowPart y.guid = lowPart m.guid
    · exact .inl (if_pos hym)
    · rw [if_neg hym]
      exact .inr ⟨hy, hym⟩
  · simp only [if_neg hk, List.mem_append, List.mem_singleton] at h
    rcases h with h | h
    · refine .inr ⟨h, fun he => hk ?_⟩
      exact List.any_eq_true.mpr ⟨x, h, by simpa using he⟩
    · exact .inl h

theorem insertMember_mem : m ∈ (g.insertMember m).members := by
  unfold insertMember
  by_cases hk : g.members.any (fun x => lowPart x.guid == lowPart m.guid) = true
  · obtain ⟨y, hy, he⟩ := List.any_eq_true.mp hk
    simp only [if_pos hk, List.mem_map]
    exact ⟨y, hy, if_pos (by simpa using he)⟩
  · simp only [if_neg hk]
    exact List.mem_append_right _ (List.mem_singleton.mpr rfl)

theorem insertMember_of_mem {x : Member} (hx : x ∈ g.members)
    (hne : lowPart x.guid ≠ lowPart m.guid) : x ∈ (g.insertMember m).members := by
  unfold insertMember
  by_cases hk : g.members.any (fun x => lowPart x.guid == lowPart m.guid) = true
  · simp only [if_pos hk, List.mem_map]
    exact ⟨x, hx, if_neg hne⟩
  · simp only [if_neg hk]
    exact List.mem_append_left _ hx

theorem betterLeader_cases {best : Option Member} {x : Member}
    (h : betterLeader guid best x = some m) :
    best = some m ∨ (x = m ∧ lowPart x.guid ≠ lowPart guid) := by
  unfold betterLeader at h
  by_cases hk : lowPart x.guid = lowPart guid
  · rw [if_pos hk] at h
    exact .inl h
  · rw [if_neg hk] at h
    cases best with
    | none =>
      cases h
      exact .inr ⟨rfl, hk⟩
    | some b =>
      by_cases hlt : b.rankId > x.rankId
      · simp only [if_pos hlt] at h
        cases h
        exact .inr ⟨rfl, hk⟩
      · simp only [if_neg hlt] at h
        exact .inl h

theorem foldl_betterLeader {l : List Member} {best : Option Member}
    (h : l.foldl (betterLeader guid) best = some m) :
    best = some m ∨ (m ∈ l ∧ lowPart m.guid ≠ lowPart guid) := by
  induction l generalizing best with
  | nil => exact .inl h
  | cons x l ih =>
    rcases ih h with hx | ⟨hm, hne⟩
    · rcases betterLeader_cases hx with hb | ⟨rfl, hk⟩
      · exact .inl hb
      · exact .inr ⟨List.mem_cons_self, hk⟩
    · exact .inr ⟨List.mem_cons_of_mem _ hm, hne⟩

/-- `newLeader` finds one of the members, and not the one who goes. -/
theorem newLeader_mem (h : g.newLeader guid = some m) :
    m ∈ g.members ∧ lowPart m.guid ≠ lowPart guid :=
  (foldl_betterLeader h).resolve_left nofun

end Ops

/-! ## What the operations keep -/

section Kept

variable {g g' : Guild} {sel : Member → Bool} {r guid : Nat} {m : Member}

theorem Sized.of_ranks (h : g.Sized) (he : g'.ranks.length = g.ranks.length) : g'.Sized :=
  ⟨he ▸ h.min, he ▸ h.max⟩

theorem Sized.createRank (h : g.Sized) (rights : BitVec 32) : (g.createRank rights).Sized := by
  unfold Guild.createRank
  split
  · exact h
  · rename_i hlt
    rw [h.ranksSize] at hlt
    refine ⟨?_, ?_⟩
    · simpa using Nat.le_succ_of_le h.min
    · simpa using Nat.succ_le_of_lt (Nat.lt_of_not_le hlt)

theorem Sized.eraseRank (h : g.Sized) (hr : GUILD_RANKS_MIN_COUNT < g.getRanksSize) (i : Nat) :
    ({ g with ranks := g.ranks.eraseIdx i } : Guild).Sized := by
  rw [h.ranksSize] at hr
  refine ⟨?_, Nat.le_trans (List.length_eraseIdx_le _ _) h.max⟩
  show GUILD_RANKS_MIN_COUNT ≤ (g.ranks.eraseIdx i).length
  rw [List.length_eraseIdx]
  split
  · exact Nat.le_sub_one_of_lt hr
  · exact h.min

theorem createDefaultGuildRanks_eq (h : g.ranks = []) : ∃ ranks : List RankInfo,
    ranks.map (·.rankId) = List.range 5 ∧ g.createDefaultGuildRanks = { g with ranks := ranks } := by
  refine ⟨_, ?_, by simp [createDefaultGuildRanks, Guild.createRank, getRanksSize, h]; rfl⟩
  rfl

theorem Ranked.changeRanks (h : g.Ranked) (hr : r < g.ranks.length) :
    (g.changeRanks sel r).Ranked := by
  refine ⟨⟨h.min, h.max⟩, h.ids, ?_⟩
  intro m hm
  obtain ⟨x, hx, rfl⟩ := mem_changeRanks.mp hm
  by_cases hs : sel x = true
  · rw [if_pos hs]
    exact hr
  · rw [if_neg hs]
    exact h.held x hx

theorem Ranked.zero_lt (h : g.Ranked) : GR_GUILDMASTER < g.ranks.length :=
  Nat.lt_of_lt_of_le (by decide) h.min

theorem Ranked.one_lt (h : g.Ranked) : GR_OFFICER < g.ranks.length :=
  Nat.lt_of_lt_of_le (by decide) h.min

theorem Ranked.makeLeader (h : g.Ranked) : (g.makeLeader m).Ranked :=
  Ranked.changeRanks (g := { g with leaderGuid := m.guid }) ⟨⟨h.min, h.max⟩, h.ids, h.held⟩
    h.zero_lt

theorem Ranked.eraseMember (h : g.Ranked) : (g.eraseMember guid).Ranked :=
  ⟨⟨h.min, h.max⟩, h.ids, fun m hm => h.held m (mem_eraseMember.mp hm).1⟩

theorem Ranked.insertMember (h : g.Ranked) (hm : m.rankId < g.ranks.length) :
    (g.insertMember m).Ranked := by
  refine ⟨⟨h.min, h.max⟩, h.ids, ?_⟩
  intro x hx
  rcases mem_insertMember hx with rfl | ⟨hx, _⟩
  · exact hm
  · exact h.held x hx

theorem Ranked.createRank (h : g.Ranked) (rights : BitVec 32) : (g.createRank rights).Ranked := by
  have hsize := h.toSized.createRank rights
  unfold Guild.createRank at hsize ⊢
  split
  · exact h
  · rename_i hlt
    rw [if_neg hlt] at hsize
    refine ⟨hsize, ?_, ?_⟩
    · simp [h.ids, h.ranksSize, List.range_succ]
    · intro m hm
      have := h.held m hm
      simp only [List.length_append, List.length_singleton]
      omega

theorem Ranked.eraseLast (h : g.Ranked) (hr : GUILD_RANKS_MIN_COUNT < g.getRanksSize)
    (hlast : r + 1 = g.ranks.length) (hfree : ∀ m ∈ g.members, m.rankId ≠ r) :
    ({ g with ranks := g.ranks.eraseIdx r } : Guild).Ranked := by
  have hlen : (g.ranks.eraseIdx r).length = r := by
    rw [List.length_eraseIdx_of_lt (by omega), ← hlast, Nat.add_sub_cancel]
  refine ⟨h.toSized.eraseRank hr r, ?_, ?_⟩
  · show (g.ranks.eraseIdx r).map (·.rankId) = List.range (g.ranks.eraseIdx r).length
    rw [hlen, List.eraseIdx_eq_dropLast hlast, List.map_dropLast, h.ids, ← hlast,
      List.range_succ, List.dropLast_concat]
  · intro m hm
    have hlt := h.held m hm
    have hne := hfree m hm
    show m.rankId < (g.ranks.eraseIdx r).length
    omega

theorem SameRoster.ranks_length (h : g.SameRoster g') : g'.ranks.length = g.ranks.length := by
  have := congrArg List.length h.ranks
  simpa using this

theorem SameRoster.member (h : g.SameRoster g') (hm : m ∈ g'.members) :
    ∃ x ∈ g.members, x.guid = m.guid ∧ x.rankId = m.rankId := by
  have hmem : (m.guid, m.rankId) ∈ g.members.map (fun m => (m.guid, m.rankId)) :=
    h.members ▸ List.mem_map.mpr ⟨m, hm, rfl⟩
  obtain ⟨x, hx, he⟩ := List.mem_map.mp hmem
  exact ⟨x, hx, (Prod.mk.inj he).1, (Prod.mk.inj he).2⟩

theorem Ranked.same (h : g.Ranked) (hs : g.SameRoster g') : g'.Ranked := by
  refine ⟨h.toSized.of_ranks hs.ranks_length, ?_, ?_⟩
  · rw [hs.ranks, hs.ranks_length]
    exact h.ids
  · intro m hm
    obtain ⟨x, hx, _, he⟩ := hs.member hm
    rw [← he, hs.ranks_length]
    exact h.held x hx

theorem Ranked.swapAt (h : g.Ranked) (i : Nat) :
    ({ g with members := swapAt i g.members } : Guild).Ranked :=
  ⟨⟨h.min, h.max⟩, h.ids, fun m hm => h.held m ((swapAt_perm i _).mem_iff.mp hm)⟩

end Kept

end Guild

section Load

variable {rows : GuildRows}

/-- How many ranks the guild has once `Validate` has repaired them. -/
def GuildRows.rankCount (rows : GuildRows) : Nat :=
  if (Guild.load rows).brokenRanks then 5 else rows.ranks.length

namespace Guild

theorem load_fields (rows : GuildRows) :
    (load rows).ranks.map (·.rankId) = rows.ranks.map (·.1) ∧
    (load rows).leaderGuid = lowPart rows.leaderGuid := by
  unfold load
  refine List.foldlRecOn (motive := fun g : Guild =>
    g.ranks.map (·.rankId) = rows.ranks.map (·.1) ∧ g.leaderGuid = lowPart rows.leaderGuid)
    _ _ ?_ (fun _ h _ _ => h)
  exact ⟨by simp, rfl⟩

theorem load_member : ∀ m ∈ (load rows).members, ∃ r ∈ rows.members,
    r.2.2.2 = true ∧ m.guid = lowPart r.1 ∧ m.rankId = r.2.1 % 256 := by
  unfold load
  refine List.foldlRecOn (motive := fun g : Guild => ∀ m ∈ g.members, ∃ r ∈ rows.members,
    r.2.2.2 = true ∧ m.guid = lowPart r.1 ∧ m.rankId = r.2.1 % 256) _ _ ?_ ?_
  · intro m hm
    cases hm
  · intro g hg r hr m hm
    obtain ⟨hr, hok⟩ := List.mem_filter.mp hr
    rcases mem_insertMember hm with rfl | ⟨hm, _⟩
    · exact ⟨r, hr, hok, rfl, rfl⟩
    · exact hg m hm

theorem Keyed.insertMember {g : Guild} {m : Member} (h : g.Keyed) (hm : m.guid < 2 ^ 32) :
    (g.insertMember m).Keyed := by
  refine ⟨?_, ?_⟩
  · intro x hx
    rcases mem_insertMember hx with rfl | ⟨hx, _⟩
    · exact hm
    · exact h.guids x hx
  · unfold Guild.insertMember
    by_cases hk : g.members.any (fun x => lowPart x.guid == lowPart m.guid) = true
    · simp only [if_pos hk, List.map_map]
      have : g.members.map ((·.guid) ∘ fun x => if lowPart x.guid = lowPart m.guid then m else x) =
          g.members.map (·.guid) := by
        apply List.map_congr_left
        intro x hx
        by_cases he : lowPart x.guid = lowPart m.guid
        · rw [lowPart_of_lt (h.guids x hx), lowPart_of_lt hm] at he
          simp [he]
        · simp [he]
      rw [this]
      exact h.nodup
    · simp only [if_neg hk, List.map_append, List.map_cons, List.map_nil]
      refine List.nodup_append.mpr ⟨h.nodup, by simp, ?_⟩
      intro a ha b hb hab
      obtain ⟨x, hx, hxa⟩ := List.mem_map.mp ha
      rw [List.mem_singleton] at hb
      exact hk (List.any_eq_true.mpr ⟨x, hx, by simp [hxa, hab, hb]⟩)

theorem Keyed.same {g g' : Guild} (h : g.Keyed)
    (hs : g'.members.map (·.guid) = g.members.map (·.guid)) : g'.Keyed := by
  refine ⟨?_, hs ▸ h.nodup⟩
  intro m hm
  have : m.guid ∈ g.members.map (·.guid) := hs ▸ List.mem_map.mpr ⟨m, hm, rfl⟩
  obtain ⟨x, hx, he⟩ := List.mem_map.mp this
  exact he ▸ h.guids x hx

theorem Keyed.changeRanks {g : Guild} {sel : Member → Bool} {r : Nat} (h : g.Keyed) :
    (g.changeRanks sel r).Keyed := by
  refine h.same ?_
  simp only [Guild.changeRanks, List.map_map]
  apply List.map_congr_left
  intro m _
  by_cases hs : sel m = true <;> simp [hs]

theorem keyed_load (rows : GuildRows) : (load rows).Keyed := by
  unfold load
  refine List.foldlRecOn (motive := Keyed) _ _ ?_ ?_
  · exact ⟨nofun, List.nodup_nil⟩
  · intro g hg r _
    exact hg.insertMember (lowPart_lt _)

theorem rows_ranks_length (rows : GuildRows) : rows.ranks.length ≤ 256 := by
  have hsub : rows.ranks.map (·.1) ⊆ List.range 256 := by
    intro i hi
    obtain ⟨r, hr, rfl⟩ := List.mem_map.mp hi
    exact List.mem_range.mpr (rows.ranks_byte r hr)
  simpa using (List.subperm_of_subset rows.ranks_key hsub).length_le

/-- The ranks `Validate` leaves: in order, and within the bounds. -/
theorem repairRanks_load (rows : GuildRows) : ∃ ranks : List RankInfo,
    (load rows).repairRanks = { load rows with ranks := ranks } ∧
    ranks.map (·.rankId) = List.range rows.rankCount ∧
    GUILD_RANKS_MIN_COUNT ≤ rows.rankCount ∧ rows.rankCount ≤ GUILD_RANKS_MAX_COUNT := by
  unfold repairRanks GuildRows.rankCount
  cases hb : (load rows).brokenRanks with
  | true =>
    obtain ⟨ranks, hids, he⟩ :=
      createDefaultGuildRanks_eq (g := ({ load rows with ranks := [] } : Guild)) rfl
    refine ⟨ranks, ?_, ?_, ?_⟩
    · rw [if_pos rfl, he]
    · rw [if_pos rfl, hids]
    · rw [if_pos rfl]
      decide
  | false =>
    simp only [brokenRanks, Bool.or_eq_false_iff, decide_eq_false_iff_not, List.any_eq_false,
      List.mem_range] at hb
    obtain ⟨⟨hmin, hmax⟩, hids⟩ := hb
    have hlen : (load rows).ranks.length = rows.ranks.length := by
      simpa using congrArg List.length (load_fields rows).1
    have hle := rows_ranks_length rows
    have hsize : (load rows).getRanksSize = rows.ranks.length := by
      unfold getRanksSize at hmin ⊢
      rw [hlen] at hmin ⊢
      rcases Nat.lt_or_eq_of_le hle with h | h
      · exact Nat.mod_eq_of_lt h
      · rw [h] at hmin
        exact absurd (by decide) hmin
    rw [hsize] at hmin hmax hids
    refine ⟨(load rows).ranks, by simp, ?_, ?_, ?_⟩
    · simp only [Bool.false_eq_true, if_false]
      apply List.ext_getElem
      · simp [hlen]
      · intro i hi hi'
        have hlt : i < (load rows).ranks.length := by simpa using hi
        have := hids i (hlen ▸ hlt)
        simpa [List.getElem?_eq_getElem hlt] using this
    · simpa using hmin
    · simpa using hmax

end Guild

end Load

/-! ## The guild over time -/

namespace GuildWorld

def Ranked (w : GuildWorld) : Prop := ∀ g ∈ w.guild, g.Ranked

/-- Only the last rank is taken out, when nobody holds it; no stored member but the leader has the
rank one past the last. -/
def OrderlyRanks (w : GuildWorld) : GuildEvent → Prop
  | .removeRank actor rankId => ∀ g ∈ w.guild, ∀ p ∈ w.player (lowPart actor), p.guildId = g.id →
      removes g (lowPart actor) (rankId % 256) = true →
      rankId % 256 + 1 = g.ranks.length ∧ ∀ m ∈ g.members, m.rankId ≠ rankId % 256
  | .load rows _ => ∀ r ∈ rows.members, r.2.2.2 = true → r.2.1 % 256 = rows.rankCount →
      lowPart r.1 = lowPart rows.leaderGuid
  | _ => True

instance (w : GuildWorld) (e : GuildEvent) : Decidable (w.OrderlyRanks e) := by
  cases e <;> unfold OrderlyRanks <;> infer_instance

variable {w : GuildWorld} {g : Guild}

theorem Ranked.of_some {w' : GuildWorld} {g' : Guild} (hg : w'.guild = some g') (h : g'.Ranked) :
    w'.Ranked := by
  intro g₁ hg₁
  cases hg.symm.trans hg₁
  exact h

theorem Ranked.of_none {w' : GuildWorld} (hg : w'.guild = none) : w'.Ranked := by
  intro g₁ hg₁
  cases hg.symm.trans hg₁

theorem ranked_deleteMember (h : g.Ranked) (guid : Nat) : (w.deleteMember g guid).Ranked := by
  rcases deleteMember_cases w g guid with he | ⟨_, he⟩ | ⟨leader, _, _, he⟩
  · exact .of_none he
  · exact .of_some he h.eraseMember
  · exact .of_some he h.makeLeader.eraseMember

theorem ranked_addMember (h : g.Ranked) {guid rankId : Nat} {stored : StoredCharacter}
    {w' : GuildWorld} (hr : rankId = GUILD_RANK_NONE ∨ rankId < g.ranks.length)
    (ha : w.addMember g guid rankId stored = some w') : w'.Ranked := by
  obtain ⟨name, hg⟩ := addMember_some ha
  refine .of_some hg (h.insertMember ?_)
  have hlow := h.lowest
  by_cases hn : rankId = GUILD_RANK_NONE
  · simp only [if_pos hn]
    omega
  · simp only [if_neg hn]
    exact hr.resolve_left hn

theorem ranked_create (h : w.Ranked) (guid newId : Nat) (stored : StoredCharacter) :
    (w.create guid newId stored).Ranked := by
  unfold create
  obtain ⟨ranks, hids, he⟩ := Guild.createDefaultGuildRanks_eq
    (g := ({ id := newId, leaderGuid := guid } : Guild)) rfl
  have hlen : ranks.length = 5 := by simpa using congrArg List.length hids
  have hg : ({ id := newId, leaderGuid := guid } : Guild).createDefaultGuildRanks.Ranked := by
    rw [he]
    refine ⟨⟨?_, ?_⟩, ?_, nofun⟩
    · simp [hlen, GUILD_RANKS_MIN_COUNT]
    · simp [hlen, GUILD_RANKS_MAX_COUNT]
    · simp [hlen, hids]
  cases ha : w.addMember ({ id := newId, leaderGuid := guid } : Guild).createDefaultGuildRanks
      guid GR_GUILDMASTER stored with
  | none => simpa only [ha] using h
  | some w' =>
    simp only [ha]
    exact ranked_addMember hg (.inr hg.zero_lt) ha

theorem ranked_updateMemberRank (h : w.Ranked) (hg : g.Ranked) (actor : Nat) (p : GuildPlayer)
    (guid : Nat) (demote : Bool) : (w.updateMemberRank g actor p guid demote).Ranked := by
  rcases updateMemberRank_cases w g actor p guid demote with he | ⟨m, hm, he⟩
  · rw [he]
    exact h
  · rw [he]
    refine .of_some rfl (hg.changeRanks ?_)
    have hheld := hg.held m (Guild.getMember_mem hm.member)
    have hmax := hg.max
    have hlow := hg.lowest
    unfold GUILD_RANKS_MAX_COUNT at hmax
    cases demote with
    | true =>
      have := (hm.demoted rfl).2
      simp only [if_true]
      omega
    | false =>
      have := hm.promoted rfl
      simp only [Bool.false_eq_true, if_false]
      omega

theorem ranked_setLeader (h : w.Ranked) (hg : g.Ranked) (actor : Nat) (name : String) :
    (w.setLeader g actor name).Ranked := by
  rcases setLeader_cases w g actor name with he | ⟨old, new, _, _, _, he⟩
  · rw [he]
    exact h
  · exact .of_some he (hg.makeLeader.changeRanks hg.one_lt)

theorem ranked_changeMemberRank (h : w.Ranked) (hg : g.Ranked) (guid newRank : Nat) :
    (w.changeMemberRank g guid newRank).Ranked := by
  rcases changeMemberRank_cases w g guid newRank with he | ⟨m, hlow, _, he⟩
  · rw [he]
    exact h
  · rw [he]
    have := hg.lowest
    exact .of_some rfl (hg.changeRanks (by omega))

/-- After the repair of the ranks every member holds one of them, but perhaps the leader. -/
structure NearlyRanked (g : Guild) : Prop extends g.Sized, g.Keyed where
  ids : g.ranks.map (·.rankId) = List.range g.ranks.length
  held : ∀ m ∈ g.members, m.rankId < g.ranks.length ∨ lowPart m.guid = lowPart g.leaderGuid

theorem nearlyRanked_load {rows : GuildRows} (he : ∀ r ∈ rows.members, r.2.2.2 = true →
      r.2.1 % 256 = rows.rankCount → lowPart r.1 = lowPart rows.leaderGuid) :
    NearlyRanked (Guild.load rows).repairRanks.repairMembers := by
  obtain ⟨ranks, hg, hids, hmin, hmax⟩ := Guild.repairRanks_load rows
  have hlen : ranks.length = rows.rankCount := by simpa using congrArg List.length hids
  have hsized : ({ Guild.load rows with ranks := ranks } : Guild).Sized :=
    ⟨hlen.symm ▸ hmin, hlen.symm ▸ hmax⟩
  have hkeyed : ({ Guild.load rows with ranks := ranks } : Guild).Keyed :=
    ⟨(Guild.keyed_load rows).guids, (Guild.keyed_load rows).nodup⟩
  rw [hg]
  refine ⟨⟨hsized.min, hsized.max⟩, hkeyed.changeRanks, hlen.symm ▸ hids, ?_⟩
  intro m hm
  obtain ⟨x, hx, rfl⟩ := Guild.mem_changeRanks.mp hm
  have hlow := hsized.lowest
  simp only [hsized.ranksSize] at hlow ⊢
  by_cases hgt : x.rankId > ranks.length
  · simp only [hgt, decide_true, if_true]
    exact .inl (hlow ▸ Nat.lt_succ_self _)
  · simp only [hgt, decide_false, Bool.false_eq_true, if_false]
    rcases Nat.lt_or_eq_of_le (Nat.le_of_not_lt hgt) with hlt | heq
    · exact .inl hlt
    · obtain ⟨r, hr, hok, hguid, hrank⟩ := Guild.load_member x hx
      refine .inr ?_
      rw [hguid, he r hr hok (hrank.symm.trans (heq.trans hlen))]
      exact congrArg lowPart (Guild.load_fields rows).2.symm

theorem NearlyRanked.ranked (h : NearlyRanked g)
    (hl : ∀ m ∈ g.members, lowPart m.guid = lowPart g.leaderGuid → m.rankId < g.ranks.length) :
    g.Ranked :=
  ⟨h.toSized, h.ids, fun m hm => (h.held m hm).elim id (hl m hm)⟩

theorem NearlyRanked.makeLeader (h : NearlyRanked g) {leader : Guild.Member}
    (hl : lowPart leader.guid = lowPart g.leaderGuid) : (g.makeLeader leader).Ranked := by
  refine ⟨⟨h.min, h.max⟩, h.ids, ?_⟩
  intro m hm
  obtain ⟨x, hx, rfl⟩ := Guild.mem_changeRanks.mp hm
  by_cases hk : lowPart x.guid = lowPart leader.guid
  · rw [if_pos (by simpa using hk)]
    exact Nat.lt_of_lt_of_le (Nat.zero_lt_succ 2) h.min
  · rw [if_neg (by simpa using hk)]
    exact (h.held x hx).resolve_right (fun he => hk (he.trans hl.symm))

theorem getMember_none {guid : Nat} (h : g.getMember guid = none) :
    ∀ m ∈ g.members, lowPart m.guid ≠ lowPart guid := by
  intro m hm he
  exact List.find?_eq_none.mp h m hm (by simpa using he)

theorem Keyed_unique (h : g.Keyed) {m m' : Guild.Member} (hm : m ∈ g.members)
    (hm' : m' ∈ g.members) (he : lowPart m.guid = lowPart m'.guid) : m = m' := by
  rw [Guild.lowPart_of_lt (h.guids m hm), Guild.lowPart_of_lt (h.guids m' hm')] at he
  exact List.inj_on_of_nodup_map h.nodup hm hm' he

theorem ranked_validate {rows : GuildRows} (allowMultiple : Bool)
    (he : w.OrderlyRanks (.load rows allowMultiple)) :
    (w.validate (Guild.load rows) allowMultiple).Ranked := by
  rcases validate_cases w (Guild.load rows) allowMultiple with h | ⟨w₁, g₂, hw₁, hg₂, h⟩
  · exact .of_none h
  · have hload := nearlyRanked_load he
    have hranked : g₂.Ranked := by
      rcases validateLeader_cases w₁ _ hw₁ with hn | ⟨leader, g', hg', hcase⟩
      · cases hn.symm.trans hg₂
      · cases hg'.symm.trans hg₂
        rcases hcase with ⟨hm, hr, rfl⟩ | ⟨hm, rfl⟩ | ⟨hm, _, rfl⟩
        · refine hload.ranked ?_
          intro m hmem hk
          have := Keyed_unique hload.toKeyed hmem (Guild.getMember_mem hm)
            (hk.trans (Guild.getMember_key hm).symm)
          rw [this, hr]
          exact Nat.lt_of_lt_of_le (by decide) hload.min
        · exact hload.makeLeader (Guild.getMember_key hm)
        · have := hload.ranked (fun m hmem hk => absurd hk (getMember_none hm m hmem))
          exact this.makeLeader.eraseMember
    refine .of_some h ?_
    cases allowMultiple with
    | true => exact hranked
    | false => exact hranked.changeRanks hranked.one_lt

theorem ranked_step {e : GuildEvent} (h : w.Ranked) (he : w.OrderlyRanks e) :
    (w.step e).Ranked := by
  cases e with
  | create guid newId stored =>
    simp only [step]
    split
    · exact h
    · exact ranked_create h _ _ _
  | addMember guid stored =>
    refine withGuild_keeps h (fun g hg => ?_)
    cases ha : w.addMember g (lowPart guid) GUILD_RANK_NONE stored with
    | none => exact h
    | some w' => exact ranked_addMember (h g hg) (.inl rfl) ha
  | leaveMember actor =>
    refine asGuildPlayer_keeps h (fun g hg _ _ _ => ?_)
    rcases leaveMember_cases w g (lowPart actor) with hs | hs | ⟨_, hs⟩
    · rw [hs]
      exact h
    · exact .of_none hs
    · rw [hs]
      exact ranked_deleteMember (h g hg) _
  | removeMember actor guid =>
    refine asGuildPlayer_keeps h (fun g hg p _ _ => ?_)
    rcases removeMember_cases w g p guid with hs | ⟨_, _, _, hs⟩
    · rw [hs]
      exact h
    · rw [hs]
      exact ranked_deleteMember (h g hg) _
  | updateMemberRank actor guid demote =>
    exact asGuildPlayer_keeps h (fun g hg p _ _ => ranked_updateMemberRank h (h g hg) _ p guid demote)
  | addNewRank actor =>
    refine asGuildPlayer_keeps h (fun g hg _ _ _ => ?_)
    rcases addNewRank_cases w g (lowPart actor) with hs | hs
    · rw [hs]
      exact h
    · exact .of_some hs ((h g hg).createRank _)
  | removeRank actor rankId =>
    refine asGuildPlayer_keeps h (fun g hg p hp hin => ?_)
    rw [removeRank_eq]
    by_cases hr : removes g (lowPart actor) (rankId % 256) = true
    · rw [if_pos hr]
      obtain ⟨hlast, hfree⟩ := he g hg p hp hin hr
      have hmin : GUILD_RANKS_MIN_COUNT < g.getRanksSize := by
        simp only [removes, Bool.and_eq_true, decide_eq_true_eq] at hr
        exact hr.1.1
      exact .of_some rfl ((h g hg).eraseLast hmin hlast hfree)
    · rw [if_neg hr]
      exact h
  | setRankInfo actor rankId rights money tabs =>
    refine asGuildPlayer_keeps h (fun g hg _ _ _ => ?_)
    rcases setRankInfo_cases w g (lowPart actor) (rankId % 256) rights money tabs with
      hs | ⟨g', hsame, hs⟩
    · rw [hs]
      exact h
    · exact .of_some hs ((h g hg).same hsame)
  | setLeader actor name =>
    exact asGuildPlayer_keeps h (fun g hg _ _ _ => ranked_setLeader h (h g hg) _ name)
  | changeMemberRank guid newRank =>
    exact withGuild_keeps h (fun g hg => ranked_changeMemberRank h (h g hg) guid _)
  | deleteMember guid => exact withGuild_keeps h (fun g hg => ranked_deleteMember (h g hg) _)
  | disband actor =>
    refine asGuildPlayer_keeps h (fun g _ _ _ _ => ?_)
    split
    · exact .of_none rfl
    · exact h
  | load rows allowMultiple => exact ranked_validate allowMultiple he
  | reorder i => exact withGuild_keeps h (fun g hg => .of_some rfl ((h g hg).swapAt i))
  | player guid p => exact h

end GuildWorld

/-- From its founding on a guild keeps its ranks in order as long as only the last rank is taken
out, when nobody holds it, and no stored member has the rank one past the last. -/
theorem guild_ranks {player : Nat → Option GuildPlayer} {es : List GuildEvent} {w : GuildWorld}
    (h : Run GuildWorld.step GuildWorld.OrderlyRanks ⟨none, player⟩ es w) : w.Ranked :=
  h.invariant (fun _ _ => GuildWorld.ranked_step) nofun

def newcomers (guid : Nat) : Option GuildPlayer :=
  if guid = 1 then some { name := "Anna" }
  else if guid = 2 then some { name := "Bert" }
  else if guid = 3 then some { name := "Cora" }
  else none

theorem guild_ranks_shortened : ∃ w,
    Run GuildWorld.step GuildWorld.OrderlyRanks ⟨none, newcomers⟩
      [.create 1 7 { name := "Anna" }, .addMember 2 { name := "Bert" },
       .updateMemberRank 1 2 false, .removeRank 1 4] w ∧ w.Ranked :=
  have h := Admitted.run (by decide +kernel)
  ⟨_, h, guild_ranks h⟩

/-- The leader takes out the rank of the officers: the ranks behind it keep their ids, and a member
of the lowest rank holds one that is no longer there. -/
theorem guild_ranks_gap : ∃ w g,
    Run GuildWorld.step (fun _ _ => True) ⟨none, newcomers⟩
      [.create 1 7 { name := "Anna" }, .addMember 2 { name := "Bert" }, .removeRank 1 1] w ∧
    w.guild = some g ∧ g.ranks.map (·.rankId) = [0, 2, 3, 4] ∧
    g.members.map (·.rankId) = [0, 4] ∧ ¬ w.Ranked := by
  refine ⟨_, _, Run.free _, rfl, rfl, rfl, fun h => ?_⟩
  have hids := (h _ rfl).ids
  exact absurd hids (by decide)

end SkyfireBG
