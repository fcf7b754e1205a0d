import SkyfireBG.Arena.Join

/-!
# SkyfireBG.Arena.Law

What holds of arena teams in a run, and which requests break it.

* `Fair`              — what `Create`, the invitation and the leaving of a team do not test, and nobody
  concerned between two maps.
* `agrees_authorised` — with them the teams, players and rows agree in every run, only members invite
  and only captains remove.
-/

namespace SkyfireBG

namespace ArenaWorld

variable {s s' s₀ : ArenaWorld} {team : ArenaTeam} {id : Nat}
variable {characters : Nat → Option (List Char)} {request : ArenaRequest}

/-- What the handlers do not ask.  `Create`: a known type, no team in its slot, a free name.  An
invitation that is made, by a member.  A player who leaves is a member, or has no team in the slot.
And no player whose field is to change is between two maps. -/
def Fair (s : ArenaWorld) : ArenaRequest → Prop
  | .create guid type name => s.byName [] = none →
    ∃ slot ∈ ArenaTeam.slotByType (type % 256), s.arenaTeamId guid slot = 0 ∧ s.byName name = none
  | .invite guid arenaTeamId player allowed => ∀ team ∈ s.byId arenaTeamId, ∀ p ∈ player,
    ∀ slot ∈ team.slot, p ∈ s.inWorld → allowed = true → s.arenaTeamId p slot = 0 →
      s.invited p = 0 → team.members.length < team.type * 2 → guid ∈ team.guids
  | .leave guid arenaTeamId inArena => ∀ team ∈ s.byId arenaTeamId, ∀ slot ∈ team.slot,
    inArena = false → guid ∈ team.guids ∨ s.arenaTeamId guid slot = 0
  | .turnInPetition guid type name signatures => ∀ slot ∈ ArenaTeam.slotByType type,
    s.arenaTeamId guid slot = 0 → s.byName name = none → type - 1 ≤ signatures.length →
      ∀ q ∈ signatures, s.Present q
  | .disband guid arenaTeamId isFighting => ∀ team ∈ s.byId arenaTeamId,
    team.captainGuid = guid → isFighting = false → ∀ q ∈ team.guids, s.Present q
  | .remove guid arenaTeamId name => ∀ team ∈ s.byId arenaTeamId,
    ∀ member ∈ otherMember team guid name, s.Present member.guid
  | _ => True

/-- A request invites only to a team of the sender, and removes others only if he is their captain. -/
structure Authorised (s : ArenaWorld) (request : ArenaRequest) (s' : ArenaWorld) : Prop where
  invites : ∀ q, s'.invited q ≠ s.invited q → s'.invited q ≠ 0 →
    ∃ team, s.store.find? (s'.invited q) = some team ∧ request.guid ∈ team.guids
  removes : ∀ id team q, s.store.find? id = some team → q ∈ team.guids →
    (∃ team', s'.store.find? id = some team' ∧ q ∈ team'.guids) ∨
      q = request.guid ∨ request.guid = team.captainGuid
  disbands : ∀ id team, s.store.find? id = some team → s'.store.find? id = none →
    request.guid = team.captainGuid

variable {guid p type : Nat} {name : List Char} {signatures : List Nat}

namespace Kept

theorem authorised (h : Kept s)
    (hinvites : ∀ q, s'.invited q ≠ s.invited q → s'.invited q ≠ 0 →
      ∃ team, s.store.find? (s'.invited q) = some team ∧ request.guid ∈ team.guids)
    (hremoves : ∀ id team q, s.store.find? id = some team → q ∈ team.guids →
      (∃ team', s'.store.find? id = some team' ∧ q ∈ team'.guids) ∨
        q = request.guid ∨ request.guid = team.captainGuid) : Authorised s request s' := by
  refine ⟨hinvites, hremoves, fun id team hteam hnone => ?_⟩
  rcases hremoves id team _ hteam (h.proper id team hteam).captain with ⟨team', hteam', -⟩ | hown | hcap
  · rw [hnone] at hteam'
    cases hteam'
  · exact hown.symm
  · exact hcap

theorem quiet (h : Kept s) (hquiet : Quiet s s') : Authorised s request s' :=
  h.authorised (fun q hne hnz => ((hquiet.invited q).elim hne hnz).elim)
    fun id team q hteam hq => .inl (hquiet.stays id team q hteam hq)

theorem handleCreate (h : Kept s) (hfair : s.Fair (.create guid type name))
    (hrun : s.handleArenaTeamCreate characters guid type name = some s') : Kept s' ∧ Quiet s s' := by
  obtain ⟨⟨s₁, result⟩, hcreate, rfl⟩ := Option.map_eq_some_iff.mp hrun
  rcases create_cases hcreate with ⟨rfl, rfl⟩ | ⟨hempty, -, team, -, rfl, -⟩
  · exact ⟨h, .refl⟩
  · obtain ⟨slot, hslot, hzero, hname⟩ := hfair hempty
    exact h.create hslot hzero hname hcreate

theorem handlePetition (h : Kept s) (hfair : s.Fair (.turnInPetition guid type name signatures))
    (hrun : s.handleTurnInPetition characters guid type name signatures = some s') :
    Kept s' ∧ Quiet s s' := by
  unfold handleTurnInPetition at hrun
  split at hrun
  · cases hrun
    exact ⟨h, .refl⟩
  rename_i slot hslot
  split_ifs at hrun with hother hname hfew
  · cases hrun
    exact ⟨h, .refl⟩
  · cases hrun
    exact ⟨h, .refl⟩
  · cases hrun
    exact ⟨h, .refl⟩
  obtain ⟨⟨s₁, result⟩, hcreate, hrest⟩ := Option.bind_eq_some_iff.mp hrun
  rcases create_cases hcreate with ⟨rfl, rfl⟩ | ⟨-, -, team, ok, rfl, hadd⟩
  · cases hrest
    exact ⟨h, .refl⟩
  · have hslotType := hslot
    have htype : type % 256 = type := by
      apply Nat.mod_eq_of_lt
      unfold ArenaTeam.slotByType ARENA_TEAM_2v2 ARENA_TEAM_3v3 ARENA_TEAM_5v5 at hslot
      split_ifs at hslot <;> omega
    rw [← htype] at hslot
    obtain ⟨hkept, hquiet⟩ := h.create hslot (not_not.mp hother)
      (Option.not_isSome_iff_eq_none.mp hname) hcreate
    have hpresent := hfair slot hslotType (not_not.mp hother)
      (Option.not_isSome_iff_eq_none.mp hname) (not_lt.mp hfew)
    obtain ⟨hkept', hquiet'⟩ := hkept.addSignatures
      (fun q hq => (addMember_present hadd).mpr (hpresent q hq)) hrest
    exact ⟨hkept', hquiet.trans hquiet'⟩

theorem handleInvite {player : Option Nat} {allowed : Bool} (h : Kept s)
    (hfair : s.Fair (.invite guid id player allowed))
    (hrun : s.handleArenaTeamInvite id player allowed = some s') :
    Kept s' ∧ Authorised s (.invite guid id player allowed) s' := by
  unfold handleArenaTeamInvite at hrun
  split at hrun
  swap
  · cases hrun
    exact ⟨h, h.quiet .refl⟩
  rename_i p team hteam
  split at hrun
  · cases hrun
    exact ⟨h, h.quiet .refl⟩
  rename_i hasked
  obtain ⟨slot, hslot, hrest⟩ := Option.map_eq_some_iff.mp hrun
  obtain ⟨honline, hallowed⟩ := not_or.mp hasked
  split_ifs at hrest with hother hinvited hfull
  · cases hrest
    exact ⟨h, h.quiet .refl⟩
  · cases hrest
    exact ⟨h, h.quiet .refl⟩
  · cases hrest
    exact ⟨h, h.quiet .refl⟩
  cases hrest
  have hmember := hfair team hteam p rfl slot hslot (not_not.mp honline)
    (Bool.eq_true_of_not_eq_false hallowed) (not_not.mp hother) (not_not.mp hinvited) (not_le.mp hfull)
  refine ⟨h.invited, h.authorised (fun q hne _ => ?_) fun i t q hi hq => .inl ⟨t, hi, hq⟩⟩
  by_cases hq : q = p
  · simp only [hq, Function.update_self]
    refine ⟨team, ?_, hmember⟩
    rw [(h.numbered id team hteam).1]
    exact hteam
  · simp only [Function.update_of_ne hq, ne_eq, not_true_eq_false] at hne

theorem handleAccept {allied : Bool} (h : Kept s) (hworld : guid ∈ s.inWorld)
    (hrun : s.handleArenaTeamAccept characters guid allied = some s') : Kept s' ∧ Quiet s s' := by
  unfold handleArenaTeamAccept at hrun
  split at hrun
  · cases hrun
    exact ⟨h, .refl⟩
  rename_i team hteam
  obtain ⟨slot, hslot, hrest⟩ := Option.bind_eq_some_iff.mp hrun
  split_ifs at hrest
  · cases hrest
    exact ⟨h, .refl⟩
  · obtain ⟨⟨s₁, team₁, ok⟩, hadd, rfl⟩ := Option.map_eq_some_iff.mp hrest
    have hid : team₁.teamId = s.invited guid := by
      rw [← (h.numbered _ team hteam).1]
      rcases addMember_cases hadd with ⟨-, rfl, -⟩ | hjoins
      · rfl
      · obtain ⟨name, rfl⟩ := hjoins.member
        rfl
    have hboth := h.addMember (fun _ => hworld) hteam hadd
    rw [← hid] at hboth
    exact hboth

theorem authorised_delMember (h : Kept s) (hteam : s.store.find? id = some team)
    (hself : p = request.guid ∨ request.guid = team.captainGuid)
    (hrun : s.delMember team p true = some s') : Authorised s request s' := by
  have hproper := h.proper id team hteam
  obtain ⟨ids, rfl, -⟩ := delMember_some hrun
  refine h.authorised (fun q hne _ => (hne rfl).elim) fun i t q hi hq => ?_
  simp only [put, (h.numbered id team hteam).1, OrdMap.find?_set]
  split_ifs with hid
  · rw [hid, hteam] at hi
    cases hi
    by_cases hqp : q = p
    · rw [hqp]
      exact .inr hself
    · exact .inl ⟨_, rfl, (mem_guids_eraseP hproper.nodup).mpr ⟨hqp, hq⟩⟩
  · exact .inl ⟨t, hi, hq⟩

theorem authorised_disband (h : Kept s) (hteam : s.store.find? id = some team)
    (hcap : request.guid = team.captainGuid) (hrun : s.disband team = some s') :
    Authorised s request s' := by
  obtain ⟨ids, rfl, -⟩ := disband_some hrun
  refine h.authorised (fun q hne _ => (hne rfl).elim) fun i t q hi hq => ?_
  simp only [(h.numbered id team hteam).1, OrdMap.find?_erase]
  split_ifs with hid
  · rw [hid, hteam] at hi
    cases hi
    exact .inr (.inr hcap)
  · exact .inl ⟨t, hi, hq⟩

theorem handleLeave {inArena : Bool} (h : Kept s) (hworld : guid ∈ s.inWorld)
    (hfair : s.Fair (.leave guid id inArena))
    (hrun : s.handleArenaTeamLeave guid id inArena = some s') :
    Kept s' ∧ Authorised s (.leave guid id inArena) s' := by
  unfold handleArenaTeamLeave at hrun
  split at hrun
  · cases hrun
    exact ⟨h, h.quiet .refl⟩
  rename_i team hteam
  split_ifs at hrun with harena hcap hcap'
  · cases hrun
    exact ⟨h, h.quiet .refl⟩
  · cases hrun
    exact ⟨h, h.quiet .refl⟩
  · -- he is the only member
    have honly : ∀ q ∈ team.guids, q = guid := by
      have hlength : team.guids.length ≤ 1 := by
        rw [ArenaTeam.guids, List.length_map]
        exact not_lt.mp fun hmore => hcap ⟨hcap', hmore⟩
      have hcaptain := (h.proper id team hteam).captain
      obtain ⟨a, ha⟩ := List.length_eq_one_iff.mp
        (le_antisymm hlength (List.length_pos_of_mem hcaptain))
      rw [← hcap', ha, List.mem_singleton] at hcaptain
      intro q hq
      rw [ha, List.mem_singleton] at hq
      exact hq.trans hcaptain.symm
    refine ⟨h.disband hteam (fun q hq _ => ?_) hrun, h.authorised_disband hteam hcap' hrun⟩
    rw [honly q hq]
    exact hworld
  · refine ⟨h.delMember hteam hcap' (fun _ => hworld) ?_ hrun, h.authorised_delMember hteam (.inl rfl) hrun⟩
    by_cases hmember : guid ∈ team.guids
    · exact .inl hmember
    · refine .inr ⟨h.world hworld, fun slot hslot => ?_⟩
      have hfree := hfair team hteam slot hslot (Bool.eq_false_of_not_eq_true harena)
      exact hfree.resolve_left hmember

theorem handleDisband {isFighting : Bool} (h : Kept s)
    (hfair : s.Fair (.disband guid id isFighting))
    (hrun : s.handleArenaTeamDisband guid id isFighting = some s') :
    Kept s' ∧ Authorised s (.disband guid id isFighting) s' := by
  unfold handleArenaTeamDisband at hrun
  split at hrun
  · cases hrun
    exact ⟨h, h.quiet .refl⟩
  rename_i team hteam
  split_ifs at hrun with hrefused
  · cases hrun
    exact ⟨h, h.quiet .refl⟩
  · have hcap := not_not.mp (not_or.mp hrefused).1
    have hpresent := hfair team hteam hcap (Bool.eq_false_of_not_eq_true (not_or.mp hrefused).2)
    exact ⟨h.disband hteam hpresent hrun, h.authorised_disband hteam hcap.symm hrun⟩

theorem otherMember_some {member : ArenaTeamMember} {name : Option (List Char)}
    (hother : otherMember team guid name = some member) :
    guid = team.captainGuid ∧ member.guid ∈ team.guids ∧ member.guid ≠ team.captainGuid := by
  unfold otherMember at hother
  split_ifs at hother with hcap
  obtain ⟨hfind, hne⟩ := Option.filter_eq_some_iff.mp hother
  obtain ⟨n, -, hfind⟩ := Option.bind_eq_some_iff.mp hfind
  refine ⟨(not_not.mp hcap).symm, List.mem_map_of_mem (List.mem_of_find?_eq_some hfind), ?_⟩
  exact fun heq => of_decide_eq_true hne heq.symm

theorem handleRemove {name : Option (List Char)} (h : Kept s) (hfair : s.Fair (.remove guid id name))
    (hrun : s.handleArenaTeamRemove guid id name = some s') :
    Kept s' ∧ Authorised s (.remove guid id name) s' := by
  unfold handleArenaTeamRemove at hrun
  split at hrun
  · cases hrun
    exact ⟨h, h.quiet .refl⟩
  rename_i team hteam
  split at hrun
  · cases hrun
    exact ⟨h, h.quiet .refl⟩
  rename_i member hother
  obtain ⟨hcap, hmember, hne⟩ := otherMember_some hother
  exact ⟨h.delMember hteam hne (hfair team hteam member hother) (.inl hmember) hrun,
    h.authorised_delMember hteam (.inr hcap) hrun⟩

theorem handleLeader {name : Option (List Char)} (h : Kept s) :
    Kept (s.handleArenaTeamLeader guid id name) ∧
      Quiet s (s.handleArenaTeamLeader guid id name) := by
  unfold handleArenaTeamLeader
  split
  · exact ⟨h, .refl⟩
  rename_i team hteam
  split
  · exact ⟨h, .refl⟩
  rename_i member hother
  obtain ⟨-, hmember, -⟩ := otherMember_some hother
  refine ⟨h.setCaptain hteam hmember, fun i t q hi hq => ?_, fun q => .inl rfl⟩
  simp only [ArenaWorld.setCaptain, put, (h.numbered id team hteam).1, OrdMap.find?_set]
  split_ifs with hid
  · rw [hid, show s.store.find? id = some team from hteam] at hi
    cases hi
    exact ⟨_, rfl, hq⟩
  · exact ⟨t, hi, hq⟩

theorem handle (h : Kept s) (hworld : request.guid ∈ s.inWorld) (hfair : s.Fair request)
    (hrun : s.handle characters request = some s') : Kept s' ∧ Authorised s request s' := by
  cases request with
  | create guid type name =>
    obtain ⟨hkept, hquiet⟩ := h.handleCreate hfair hrun
    exact ⟨hkept, h.quiet hquiet⟩
  | turnInPetition guid type name signatures =>
    obtain ⟨hkept, hquiet⟩ := h.handlePetition hfair hrun
    exact ⟨hkept, h.quiet hquiet⟩
  | invite guid id player allowed => exact h.handleInvite hfair hrun
  | accept guid allied =>
    obtain ⟨hkept, hquiet⟩ := h.handleAccept hworld hrun
    exact ⟨hkept, h.quiet hquiet⟩
  | decline guid =>
    cases hrun
    refine ⟨h.invited, h.quiet ⟨fun i t q hi hq => ⟨t, hi, hq⟩, fun q => ?_⟩⟩
    by_cases hq : q = guid
    · simp [hq]
    · simp [hq]
  | leave guid id inArena => exact h.handleLeave hworld hfair hrun
  | disband guid id isFighting => exact h.handleDisband hfair hrun
  | remove guid id name => exact h.handleRemove hfair hrun
  | leader guid id name =>
    cases hrun
    obtain ⟨hkept, hquiet⟩ := h.handleLeader
    exact ⟨hkept, h.quiet hquiet⟩
  | login guid | enterWorld guid =>
    cases hrun
    exact ⟨h, h.quiet .refl⟩
  | leaveWorld guid =>
    cases hrun
    exact ⟨h.moved ((Finset.erase_subset _ _).trans h.world),
      h.quiet ⟨fun i t q hi hq => ⟨t, hi, hq⟩, fun q => .inl rfl⟩⟩
  | logout guid =>
    cases hrun
    exact ⟨h.logout, h.quiet ⟨fun i t q hi hq => ⟨t, hi, hq⟩, fun q => .inl rfl⟩⟩

theorem step (h : Kept s) (hfair : s.Fair request) :
    Kept (s.step characters request) ∧ Authorised s request (s.step characters request) := by
  have hgetD : ∀ result : Option ArenaWorld, (∀ s', result = some s' →
      Kept s' ∧ Authorised s request s') → Kept (result.getD s) ∧
        Authorised s request (result.getD s) := by
    intro result hresult
    cases result with
    | none => exact ⟨h, h.quiet .refl⟩
    | some s' => exact hresult s' rfl
  unfold ArenaWorld.step
  split
  · rename_i guid
    split_ifs
    · exact ⟨h, h.quiet .refl⟩
    · refine ⟨h.login, h.quiet ⟨fun i t q hi hq => ⟨t, hi, hq⟩, fun q => ?_⟩⟩
      by_cases hq : q = guid
      · simp [handleLogin, hq]
      · simp [handleLogin, hq]
  · rename_i guid
    split_ifs with honline
    · exact ⟨h.moved (Finset.insert_subset honline h.world),
        h.quiet ⟨fun i t q hi hq => ⟨t, hi, hq⟩, fun q => .inl rfl⟩⟩
    · exact ⟨h, h.quiet .refl⟩
  · split_ifs with hworld
    · exact hgetD _ fun s' hrun => h.handle hworld hfair hrun
    · exact ⟨h, h.quiet .refl⟩

end Kept

/-- In a run of fair requests from a state that agrees, every state agrees, and the next fair request
is authorised. -/
theorem agrees_authorised {requests : List ArenaRequest} (hs₀ : Kept s₀)
    (hrun : Run (step characters) Fair s₀ requests s) :
    Kept s ∧ ∀ request, Fair s request → Authorised s request (s.step characters request) := by
  have hkept : Kept s := hrun.invariant (fun s request h hfair => (h.step hfair).1) hs₀
  exact ⟨hkept, fun request hfair => (hkept.step hfair).2⟩

instance (s : ArenaWorld) : DecidablePred (Fair s)
  | .create .. | .invite .. | .leave .. | .turnInPetition .. | .disband .. | .remove .. => by
    unfold Fair
    infer_instance
  | .accept .. | .decline .. | .leader .. | .login .. | .logout .. | .leaveWorld ..
  | .enterWorld .. => .isTrue trivial

def pairRequests : List ArenaRequest :=
  [.login 1, .login 2, .create 1 2 ['A'], .invite 1 1 (some 2) true, .accept 2 true]

def namesOf (guid : Nat) : Option (List Char) := some (List.replicate guid 'a')

theorem agrees_pair :
    (pairRequests.foldl (step namesOf) {}).Kept ∧
      (pairRequests.foldl (step namesOf) {}).Authorised (.remove 1 1 (some ['a', 'a']))
        ((pairRequests.foldl (step namesOf) {}).step namesOf (.remove 1 1 (some ['a', 'a']))) ∧
      ((pairRequests.foldl (step namesOf) {}).byId 1).map ArenaTeam.guids = some [1, 2] := by
  have hrun : Run (step namesOf) Fair {} pairRequests (pairRequests.foldl (step namesOf) {}) :=
    Admitted.run (by decide +kernel)
  obtain ⟨hkept, hnext⟩ := agrees_authorised kept_empty hrun
  exact ⟨hkept, hnext _ (by decide +kernel), by decide +kernel⟩

/-- Of two teams created one after the other, the second has the captain as no member. -/
theorem agrees_create_twice :
    ¬ ∀ (characters : Nat → Option (List Char)) (requests : List ArenaRequest),
      (requests.foldl (step characters) {}).Kept := by
  intro h
  have hkept := h namesOf [.login 1, .create 1 2 ['A'], .create 1 2 ['A']]
  have hteam := hkept.proper 2 ⟨2, 1, 2, ['A'], []⟩ (by decide +kernel)
  exact absurd hteam.captain (by decide)

end ArenaWorld

end SkyfireBG
