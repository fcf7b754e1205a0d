import SkyfireBG.Lib.Run
import SkyfireBG.Group.Consistent

/-!
# SkyfireBG.Group.Leader

Who leads a group, over everything that changes its members or where they are.

A member can be linked to the group (`memberMgr`) without being in the world: between two maps, or
while logging in.  The group counts the linked members to decide whether it goes on, but looks for
a new leader among those in the world.

* `removeMember_removed` — when `RemoveMember` leaves the group standing, and as what.
* `LeaderKept`           — the removals after which the leader is a member.
-/

namespace SkyfireBG

namespace Group

/-- `ChangeLeader`: only a member who is in the world can lead. -/
def changeLeader (g : Group) (guid : Nat) (online : Nat → Bool) : Group :=
  if (g.getMemberSlot guid).isSome && online guid then { g with leaderGuid := guid } else g

def led (g : Group) : Prop := g.isMember g.leaderGuid = true

def others (g : Group) (guid : Nat) : List MemberSlot :=
  g.memberSlots.eraseP (fun m => m.guid == guid)

/-- The linked members `RemoveMember` wants left over. -/
def minLinked (g : Group) : Nat := if g.isLFGGroup || g.isBGGroup then 1 else 2

/-- `RemoveMember` takes the member out and leaves the group standing. -/
def goesOn (g : Group) (guid : Nat) (kick lfgOutside : Bool) : Bool :=
  !(g.isLFGGroup && kick) && g.getMembersCount > g.minMembers &&
    !(g.isLFGGroup && (g.others guid).length == 1 && lfgOutside) &&
    (g.memberMgr.erase guid).length ≥ g.minLinked

/-- Some member is left who may lead: one in the world, or the leader himself in a second slot. -/
def hasHeir (g : Group) (guid : Nat) (online : Nat → Bool) : Bool :=
  (g.others guid).any (fun m => online m.guid || m.guid == guid)

section Removal

variable {g : Group} {guid : Nat} {online : Nat → Bool} {kick lfgOutside : Bool}

theorem dropSlot_memberSlots : (g.dropSlot guid).memberSlots = g.others guid := by
  unfold dropSlot others
  cases hm : g.getMemberSlot guid with
  | some slot => rfl
  | none =>
    rw [List.eraseP_of_forall_not]
    intro m hmem hg
    have := List.find?_eq_none.mp hm m hmem
    exact this hg

@[simp] theorem dropSlot_memberMgr : (g.dropSlot guid).memberMgr = g.memberMgr := by
  unfold dropSlot
  cases g.getMemberSlot guid <;> rfl

@[simp] theorem dropSlot_leaderGuid : (g.dropSlot guid).leaderGuid = g.leaderGuid := by
  unfold dropSlot
  cases g.getMemberSlot guid <;> rfl

@[simp] theorem dropSlot_groupType : (g.dropSlot guid).groupType = g.groupType := by
  unfold dropSlot
  cases g.getMemberSlot guid <;> rfl

@[simp] theorem dropSlot_isBGGroup : (g.dropSlot guid).isBGGroup = g.isBGGroup := by
  unfold dropSlot
  cases g.getMemberSlot guid <;> rfl

/-- The loop of `RemoveMember` makes the first member that is in the world the leader. -/
theorem nextLeader_eq (g : Group) (guid : Nat) (online : Nat → Bool) :
    ∃ leader, g.nextLeader guid online = { g with leaderGuid := leader } := by
  unfold nextLeader
  split
  · split
    · exact ⟨_, rfl⟩
    · exact ⟨g.leaderGuid, rfl⟩
  · exact ⟨g.leaderGuid, rfl⟩

/-- The group as `RemoveMember` leaves it, if it does. -/
def without (g : Group) (guid : Nat) (online : Nat → Bool) : Group :=
  ((g.delinkMember guid).dropSlot guid).nextLeader guid online

theorem without_fields (g : Group) (guid : Nat) (online : Nat → Bool) :
    (g.without guid online).memberSlots = g.others guid ∧
    (g.without guid online).memberMgr = g.memberMgr.erase guid ∧
    (g.without guid online).groupType = g.groupType ∧
    (g.without guid online).isBGGroup = g.isBGGroup := by
  obtain ⟨leader, h⟩ := nextLeader_eq ((g.delinkMember guid).dropSlot guid) guid online
  unfold without
  rw [h]
  exact ⟨dropSlot_memberSlots, dropSlot_memberMgr, dropSlot_groupType, dropSlot_isBGGroup⟩

theorem removeMember_eq : g.removeMember guid kick online lfgOutside =
    if g.isLFGGroup && kick then .refused
    else if g.getMembersCount > g.minMembers then
      if (g.without guid online).isLFGGroup && (g.without guid online).getMembersCount == 1 &&
          lfgOutside then .disbanded
      else if (g.without guid online).memberMgr.length <
          (if (g.without guid online).isLFGGroup || (g.without guid online).isBGGroup then 1 else 2)
        then .disbanded
      else .removed (g.without guid online)
    else .disbanded := rfl

theorem removeMember_removed : g.removeMember guid kick online lfgOutside =
    .removed (g.without guid online) ↔ g.goesOn guid kick lfgOutside = true := by
  obtain ⟨hslots, hmgr, htype, hbg⟩ := without_fields g guid online
  have hlfg : (g.without guid online).isLFGGroup = g.isLFGGroup := by
    unfold isLFGGroup
    rw [htype]
  have hcount : (g.without guid online).getMembersCount = (g.others guid).length := by
    unfold getMembersCount
    rw [hslots]
  unfold goesOn minLinked
  rw [removeMember_eq]
  rw [hlfg, hcount, hmgr, hbg]
  by_cases h1 : (g.isLFGGroup && kick) = true
  · simp [h1]
  · by_cases h2 : g.getMembersCount > g.minMembers
    · by_cases h3 : (g.isLFGGroup && (g.others guid).length == 1 && lfgOutside) = true
      · simp [h1, h2, h3]
      · simp [h1, h2, h3]
    · simp [h1, h2]

theorem removeMember_cases (g : Group) (guid : Nat) (kick : Bool) (online : Nat → Bool)
    (lfgOutside : Bool) : g.removeMember guid kick online lfgOutside = .refused ∨
    g.removeMember guid kick online lfgOutside = .disbanded ∨
    g.removeMember guid kick online lfgOutside = .removed (g.without guid online) := by
  rw [removeMember_eq]
  by_cases h1 : (g.isLFGGroup && kick) = true
  · rw [if_pos h1]
    exact .inl rfl
  · rw [if_neg h1]
    by_cases h2 : g.getMembersCount > g.minMembers
    · rw [if_pos h2]
      by_cases h3 : ((g.without guid online).isLFGGroup &&
          (g.without guid online).getMembersCount == 1 && lfgOutside) = true
      · rw [if_pos h3]
        exact .inr (.inl rfl)
      · rw [if_neg h3]
        by_cases h4 : (g.without guid online).memberMgr.length < (g.without guid online).minLinked
        · exact .inr (.inl (if_pos h4))
        · exact .inr (.inr (if_neg h4))
    · rw [if_neg h2]
      exact .inr (.inl rfl)

theorem mem_others {m : MemberSlot} (hm : m ∈ g.memberSlots) (hne : m.guid ≠ guid) :
    m ∈ g.others guid := by
  unfold others
  rw [List.mem_eraseP_of_neg (by simpa using hne)]
  exact hm

theorem without_leaderGuid : (g.without guid online).leaderGuid =
    if g.leaderGuid = guid then
      ((g.others guid).find? (fun m => online m.guid)).elim guid (·.guid)
    else g.leaderGuid := by
  have hleader : ((g.delinkMember guid).dropSlot guid).leaderGuid = g.leaderGuid :=
    dropSlot_leaderGuid
  have hslots : ((g.delinkMember guid).dropSlot guid).memberSlots = g.others guid :=
    dropSlot_memberSlots
  unfold without nextLeader
  rw [hleader, hslots]
  by_cases h : g.leaderGuid = guid
  · rw [if_pos h, if_pos h]
    cases (g.others guid).find? (fun m => online m.guid) with
    | none => exact hleader.trans h
    | some m => rfl
  · rw [if_neg h, if_neg h]
    exact hleader

theorem led_without (h : g.led) : (g.without guid online).led ↔
    (g.leaderGuid ≠ guid ∨ g.hasHeir guid online = true) := by
  have hslots := (without_fields g guid online).1
  unfold led
  rw [isMember_iff, hslots, without_leaderGuid]
  by_cases hl : g.leaderGuid = guid
  · rw [if_pos hl]
    unfold hasHeir
    rw [List.any_eq_true]
    cases hf : (g.others guid).find? (fun m => online m.guid) with
    | some m =>
      have hm := List.mem_of_find?_eq_some hf
      have hon : online m.guid = true := by simpa using List.find?_some hf
      constructor
      · intro _
        exact .inr ⟨m, hm, by rw [hon, Bool.true_or]⟩
      · intro _
        exact ⟨m, hm, rfl⟩
    | none =>
      have hoff := List.find?_eq_none.mp hf
      constructor
      · rintro ⟨m, hm, he⟩
        exact .inr ⟨m, hm, by simpa using .inr he⟩
      · rintro (hne | ⟨m, hm, he⟩)
        · exact absurd hl hne
        · simp only [Bool.or_eq_true, beq_iff_eq] at he
          exact ⟨m, hm, he.resolve_left (hoff m hm)⟩
  · rw [if_neg hl]
    obtain ⟨m, hm, he⟩ := isMember_iff.mp h
    constructor
    · intro _
      exact .inl hl
    · intro _
      exact ⟨m, mem_others hm (by rw [he]; exact hl), he⟩

end Removal

end Group

/-! ## A group over time -/

/-- One group, while it is there, and the players `FindPlayer` finds. -/
structure Party where
  group : Option Group
  inWorld : List Nat

inductive PartyEvent where
  | addMember (guid : Nat)
  | removeMember (guid : Nat) (kick lfgOutside : Bool)
  | changeLeader (guid : Nat)
  | changeSubGroup (allowed : Bool) (guid groupNr : Nat)
  | convertToRaid
  | convertToLFG
  | convertToGroup
  | disband
  /-- A member's object is made when he logs in, and is gone when he has logged out. -/
  | link (guid : Nat)
  | unlink (guid : Nat)
  | enterWorld (guid : Nat)
  | leaveWorld (guid : Nat)

namespace Party

def online (p : Party) (guid : Nat) : Bool := p.inWorld.contains guid

def step (p : Party) : PartyEvent → Party
  | .enterWorld guid => { p with inWorld := guid :: p.inWorld }
  | .leaveWorld guid => { p with inWorld := p.inWorld.filter (· != guid) }
  | .disband => { p with group := none }
  | .addMember guid => { p with group := p.group.map (fun g => (g.addMember guid).getD g) }
  | .removeMember guid kick lfgOutside =>
    match p.group with
    | none => p
    | some g =>
      match g.removeMember guid kick p.online lfgOutside with
      | .refused => p
      | .disbanded => { p with group := none }
      | .removed g' => { p with group := some g' }
  | .changeLeader guid => { p with group := p.group.map (fun g => g.changeLeader guid p.online) }
  | .changeSubGroup allowed guid groupNr =>
    { p with group := p.group.map (fun g => g.handleGroupChangeSubGroup allowed guid groupNr) }
  | .convertToRaid => { p with group := p.group.map Group.convertToRaid }
  | .convertToLFG => { p with group := p.group.map Group.convertToLFG }
  | .convertToGroup => { p with group := p.group.map Group.convertToGroup }
  | .link guid => { p with group := p.group.map (fun g => g.linkMember guid) }
  | .unlink guid => { p with group := p.group.map (fun g => g.delinkMember guid) }

def Led (p : Party) : Prop := ∀ g, p.group = some g → g.led

/-- A leader goes only when the group does not outlive him, or a member is left who may lead. -/
def LeaderKept (p : Party) : PartyEvent → Prop
  | .removeMember guid kick lfgOutside => ∀ g ∈ p.group, g.leaderGuid = guid →
      g.goesOn guid kick lfgOutside = true → g.hasHeir guid p.online = true
  | _ => True

instance (p : Party) (e : PartyEvent) : Decidable (p.LeaderKept e) := by
  cases e <;> unfold LeaderKept <;> infer_instance

variable {p : Party}

theorem Led.map {f : Group → Group} (h : p.Led) (hf : ∀ g : Group, g.led → (f g).led) :
    Led { p with group := p.group.map f } := by
  intro g hg
  obtain ⟨g₀, hg₀, rfl⟩ := Option.map_eq_some_iff.mp hg
  exact hf g₀ (h g₀ hg₀)

theorem led_of_slots {g g' : Group} (h : g.led) (hl : g'.leaderGuid = g.leaderGuid)
    (hs : ∀ m ∈ g.memberSlots, ∃ m' ∈ g'.memberSlots, m'.guid = m.guid) : g'.led := by
  obtain ⟨m, hm, he⟩ := Group.isMember_iff.mp h
  obtain ⟨m', hm', he'⟩ := hs m hm
  exact Group.isMember_iff.mpr ⟨m', hm', by rw [he', he, hl]⟩

theorem addMember_slot {g g' : Group} {guid : Nat} (h : g.addMember guid = some g') :
    g'.leaderGuid = g.leaderGuid ∧ ∃ m ∈ g'.memberSlots, m.guid = guid := by
  unfold Group.addMember at h
  split at h
  · cases h
  · cases h
    exact ⟨rfl, _, List.mem_append_right _ (List.mem_singleton.mpr rfl), rfl⟩

theorem led_addMember {g : Group} {guid : Nat} (h : g.led) : ((g.addMember guid).getD g).led := by
  unfold Group.addMember
  cases g.freeSubGroup with
  | none => exact h
  | some subGroup =>
    exact led_of_slots h rfl (fun m hm => ⟨m, List.mem_append_left _ hm, rfl⟩)

theorem led_changeLeader {g : Group} {guid : Nat} {online : Nat → Bool} (h : g.led) :
    (g.changeLeader guid online).led := by
  unfold Group.changeLeader
  split
  · rename_i hc
    obtain ⟨m, hm⟩ := Option.isSome_iff_exists.mp (Bool.and_eq_true_iff.mp hc).1
    refine Group.isMember_iff.mpr ⟨m, List.mem_of_find?_eq_some hm, ?_⟩
    simpa using List.find?_some hm
  · exact h

theorem led_handleGroupChangeSubGroup {g : Group} {allowed : Bool} {guid groupNr : Nat}
    (h : g.led) : (g.handleGroupChangeSubGroup allowed guid groupNr).led := by
  unfold Group.handleGroupChangeSubGroup
  split_ifs
  · exact h
  · exact h
  · exact h
  · rcases Group.Accounted.changeMembersGroup_cases g guid groupNr with he | ⟨m, _, _, _, he⟩
    · rw [he]
      exact h
    · rw [he]
      unfold Group.led Group.isMember at *
      rw [← h]
      exact Group.Accounted.any_setSlotGroup

theorem led_convertToGroup {g : Group} (h : g.led) : g.convertToGroup.led := by
  unfold Group.convertToGroup
  split
  · exact h
  · exact led_of_slots h rfl (fun m hm => ⟨m, hm, rfl⟩)

theorem led_step {e : PartyEvent} (h : p.Led) (he : p.LeaderKept e) : (p.step e).Led := by
  have same {g g' : Group} (hg : g.led) (hl : g'.leaderGuid = g.leaderGuid)
      (hs : g'.memberSlots = g.memberSlots) : g'.led :=
    led_of_slots hg hl (fun m hm => ⟨m, hs ▸ hm, rfl⟩)
  cases e with
  | addMember guid => exact h.map (fun _ => led_addMember)
  | removeMember guid kick lfgOutside =>
    cases hg : p.group with
    | none => simpa only [step, hg] using h
    | some g =>
      have hled := h g hg
      rcases Group.removeMember_cases g guid kick p.online lfgOutside with hr | hr | hr
      · simpa only [step, hg, hr] using h
      · simp only [step, hg, hr]
        intro g' hg'
        cases hg'
      · simp only [step, hg, hr]
        intro g' hg'
        cases hg'
        refine (Group.led_without hled).mpr ?_
        by_cases hl : g.leaderGuid = guid
        · exact .inr (he g hg hl (Group.removeMember_removed.mp hr))
        · exact .inl hl
  | changeLeader guid => exact h.map (fun _ => led_changeLeader)
  | changeSubGroup allowed guid groupNr => exact h.map (fun _ => led_handleGroupChangeSubGroup)
  | convertToRaid => exact h.map (fun _ hg => same hg rfl rfl)
  | convertToLFG => exact h.map (fun _ hg => same hg rfl rfl)
  | convertToGroup => exact h.map (fun _ => led_convertToGroup)
  | disband =>
    intro g hg
    cases hg
  | link guid => exact h.map (fun _ hg => same hg rfl rfl)
  | unlink guid => exact h.map (fun _ hg => same hg rfl rfl)
  | enterWorld guid => exact h
  | leaveWorld guid => exact h

/-- The first thing `Create` does with its leader is to make him a member. -/
theorem led_create {lowGuid dbStoreId leader : Nat} {bg bf : Bool} {g : Group}
    (hg : Group.create lowGuid dbStoreId leader bg bf = some g) : g.led := by
  unfold Group.create at hg
  obtain ⟨hl, m, hm, he⟩ := addMember_slot hg
  refine Group.isMember_iff.mpr ⟨m, hm, he.trans ?_⟩
  rw [hl]
  split <;> rfl

theorem led_step_iff {e : PartyEvent} (h : p.Led) : (p.step e).Led ↔ p.LeaderKept e := by
  refine ⟨fun hs => ?_, led_step h⟩
  cases e with
  | removeMember guid kick lfgOutside =>
    intro g hg hl hgo
    have hg' : p.group = some g := hg
    have hr : g.removeMember guid kick p.online lfgOutside = .removed (g.without guid p.online) :=
      Group.removeMember_removed.mpr hgo
    have hled : (g.without guid p.online).led := by
      refine hs _ ?_
      simp only [step, hg', hr]
    exact ((Group.led_without (h g hg')).mp hled).resolve_left (fun hne => hne hl)
  | addMember guid => trivial
  | changeLeader guid => trivial
  | changeSubGroup allowed guid groupNr => trivial
  | convertToRaid => trivial
  | convertToLFG => trivial
  | convertToGroup => trivial
  | disband => trivial
  | link guid => trivial
  | unlink guid => trivial
  | enterWorld guid => trivial
  | leaveWorld guid => trivial

end Party

/-- From its creation on a group is led by a member as long as no leader is removed while nobody who
stays is in the world; a removal that breaks this leaves the group with a leader who has gone. -/
theorem group_leader {lowGuid dbStoreId leader : Nat} {bg bf : Bool} {inWorld : List Nat}
    {g : Group} {es : List PartyEvent} {p : Party}
    (hg : Group.create lowGuid dbStoreId leader bg bf = some g)
    (h : Run Party.step Party.LeaderKept ⟨some g, inWorld⟩ es p) :
    p.Led ∧ ∀ e, (p.step e).Led ↔ p.LeaderKept e := by
  have hled : p.Led := by
    refine h.invariant (I := Party.Led) (fun _ _ => Party.led_step) ?_
    intro g' hg'
    cases hg'
    exact Party.led_create hg
  exact ⟨hled, fun _ => Party.led_step_iff hled⟩

def founded : Group where
  lowGuid := 1
  dbStoreId := 1
  leaderGuid := 1
  looterGuid := 1
  memberSlots := [⟨1, 0⟩]
  memberMgr := [1]

theorem create_founded : Group.create 1 1 1 false false = some founded := rfl

theorem group_leader_leaves : ∃ p,
    Run Party.step Party.LeaderKept ⟨some founded, [1, 2, 3]⟩
      [.addMember 2, .addMember 3, .leaveWorld 2, .removeMember 1 false false] p ∧
    p.Led ∧ ∀ e, (p.step e).Led ↔ p.LeaderKept e :=
  have h := Admitted.run (by decide)
  ⟨_, h, group_leader create_founded h⟩

/-- The leader leaves while the two others are between maps: the group stands and he leads it. -/
theorem group_leader_gone : ∃ p g,
    Run Party.step (fun _ _ => True) ⟨some founded, [1, 2, 3]⟩
      [.addMember 2, .addMember 3, .leaveWorld 2, .leaveWorld 3, .removeMember 1 false false] p ∧
    p.group = some g ∧ g.leaderGuid = 1 ∧ g.memberSlots.map (·.guid) = [2, 3] :=
  ⟨_, _, Run.free _, rfl, rfl, rfl⟩

end SkyfireBG
