import SkyfireBG.Lib.Run
import SkyfireBG.Group.Data
import SkyfireBG.Lfg.Data

/-!
# SkyfireBG.Lfg.Boot

Votes to kick a member of a dungeon group: `InitBoot`, `UpdateBoot`, the obsolete kicks of
`LFGMgr::Update`, and the requests around them that change members or states.

The queue, role checks and proposals are not part of this; joining or leaving takes a group or a
player out of the queue, of which only the change of state is modelled.
-/

namespace SkyfireBG

inductive LfgAnswer where
  | PENDING
  | DENY
  | AGREE
deriving DecidableEq, Repr

/-- `LfgAnswer(accept)`. -/
def LfgAnswer.ofBool (accept : Bool) : LfgAnswer := if accept then .AGREE else .DENY

structure LfgPlayerBoot where
  cancelTime : Nat
  inProgress : Bool
  votes : OrdMap Nat LfgAnswer
  victim : Nat
  votedNeeded : Nat
  reason : String

namespace LfgPlayerBoot

variable (b : LfgPlayerBoot) (p : Nat)

def recorded : Bool := (b.votes.find? p).isSome

def votesNum : Nat := b.votes.countP (fun a => a != .PENDING) % 2 ^ 8

def agreeNum : Nat := b.votes.countP (fun a => a == .AGREE) % 2 ^ 8

def answer (accept : Bool) : LfgPlayerBoot :=
  { b with votes := b.votes.set p (LfgAnswer.ofBool accept) }

def passed : Bool := b.agreeNum == b.votedNeeded

def isOver : Bool :=
  b.passed || b.votesNum == b.votes.size ||
    decide (b.votes.size - b.votesNum + b.agreeNum < b.votedNeeded)

end LfgPlayerBoot

def LFG_TIME_BOOT : Nat := 120

/-- What the votes of `LFGMgr` touch.  `slots` are the members of all groups, each with the group;
a player or group without data has that of a new one. -/
structure LfgBootMgr where
  players : Nat → LfgStates := fun _ => {}
  groups : Nat → LfgGroupData := fun _ => {}
  boots : OrdMap Nat LfgPlayerBoot := ∅
  slots : List (Nat × Nat) := []

inductive LfgEvent where
  /-- A member uninvites another, of a group without loot rolls. -/
  | uninvite (g kicker victim : Nat) (reason : String) (online : List Nat) (now : Nat)
  /-- The answer of a player whose group is `g`. -/
  | vote (g p : Nat) (accept victimInWorld disbands : Bool)
  | join (g p : Nat) (online : List Nat)
  | leave (g p : Nat) (online : List Nat) (disbands : Bool)
  | logout (p : Nat)
  | update (now : Nat)
deriving DecidableEq, Repr

def LfgEvent.leaves (g p : Nat) : LfgEvent → Prop
  | .leave g' p' _ _ => g' = g ∧ p' = p
  | _ => False

namespace LfgBootMgr

variable (s : LfgBootMgr) (g p : Nat)

def members : List Nat := (s.slots.filter (fun e => e.2 == g)).map (fun e => e.1)

def setState (st : LfgState) : LfgBootMgr :=
  { s with players := Function.update s.players p ((s.players p).setState st) }

def clearState : LfgBootMgr :=
  { s with players := Function.update s.players p (s.players p).restoreState }

def setStates (ps : List Nat) (st : LfgState) : LfgBootMgr :=
  ps.foldl (fun s p => s.setState p st) s

def clearStates (ps : List Nat) : LfgBootMgr := ps.foldl clearState s

def setGroup (d : LfgGroupData) : LfgBootMgr := { s with groups := Function.update s.groups g d }

def setBoot (b : LfgPlayerBoot) : LfgBootMgr := { s with boots := s.boots.set g b }

def eraseBoot : LfgBootMgr := { s with boots := s.boots.erase g }

/-- `OnDisband`: the data of the group is removed. -/
def disband : LfgBootMgr :=
  { s.setGroup g {} with slots := s.slots.filter (fun e => !(e.2 == g)) }

/-- `Group::RemoveMember`.  The one who is left may disband the group, when he is not in its
dungeon. -/
def removeMember (disbands : Bool) : LfgBootMgr :=
  if (s.members g).length > 1 then
    let s := { s with slots := s.slots.filter (fun e => !(e == (p, g))) }
    if (s.members g).length = 1 ∧ disbands then s.disband g else s
  else s.disband g

def leaveQueue (online : List Nat) : LfgBootMgr :=
  if (s.groups g).states.state = .QUEUED then
    (s.setGroup g (s.groups g).restoreState).clearStates ((s.members g).filter (online.contains ·))
  else s

def firstVotes (kicker victim : Nat) (voters : List Nat) : OrdMap Nat LfgAnswer :=
  voters.foldl (fun m p => m.set p
    (if p = victim then .DENY else if p = kicker then .AGREE else .PENDING)) ∅

def initBoot (kicker victim : Nat) (reason : String) (online : List Nat) (now : Nat) :
    LfgBootMgr :=
  let voters := (s.members g).filter (online.contains ·)
  let b : LfgPlayerBoot :=
    { cancelTime := now + LFG_TIME_BOOT, inProgress := true, reason := reason, victim := victim
      votedNeeded := (s.groups g).votesNeeded, votes := firstVotes kicker victim voters }
  ((s.setGroup g ((s.groups g).setState .BOOT)).setStates voters .BOOT).setBoot g b

/-- `CanUninviteFromGroup`, for a dungeon group. -/
def canUninvite : Bool :=
  (s.groups g).kicksLeft != 0 && (s.groups g).states.state != .BOOT &&
    decide ((s.groups g).votesNeeded < (s.members g).length) &&
    (s.groups g).states.state != .FINISHED_DUNGEON

/-- `HandleGroupUninviteGuidOpcode`, up to the vote. -/
def uninvite (kicker victim : Nat) (reason : String) (online : List Nat) (now : Nat) :
    LfgBootMgr :=
  if (s.members g).contains kicker && online.contains kicker && victim != kicker &&
      s.canUninvite g && (s.members g).contains victim then
    (s.leaveQueue g online).initBoot g kicker victim reason online now
  else s

def endBoot (b : LfgPlayerBoot) (victimInWorld disbands : Bool) : LfgBootMgr :=
  let s := s.setStates ((b.votes.entries.map (fun e => e.1)).filter (fun p => p != b.victim))
    .DUNGEON
  let s := s.setGroup g ((s.groups g).setState .DUNGEON)
  let s := if b.passed then
      let s := s.removeMember g b.victim disbands
      let s := if victimInWorld then s.setState b.victim .NONE else s
      s.setGroup g (s.groups g).decreaseKicksLeft
    else s
  s.eraseBoot g

/-- `UpdateBoot`.  Looking an answer up enters a denial for one who has none. -/
def updateBoot (accept victimInWorld disbands : Bool) : LfgBootMgr :=
  match s.boots.find? g with
  | none => s
  | some b =>
    match b.votes.find? p with
    | none => s.setBoot g { b with votes := b.votes.set p .DENY }
    | some .PENDING =>
      let b := b.answer p accept
      if b.isOver then s.endBoot g b victimInWorld disbands else s.setBoot g b
    | some _ => s

/-- `OnAddMember`, when the group has room. -/
def join (online : List Nat) : LfgBootMgr :=
  if (s.members g).length < MAXRAIDSIZE ∧ p ∉ s.slots.map (fun e => e.1) then
    let s := { s with slots := s.slots ++ [(p, g)] }.leaveQueue g online
    if (s.players p).state = .QUEUED ∧ online.contains p then s.clearState p else s
  else s

/-- `OnRemoveMember` of a member who leaves. -/
def leave (online : List Nat) (disbands : Bool) : LfgBootMgr :=
  if (s.members g).contains p then
    (((s.leaveQueue g online).clearState p).setState p .NONE).removeMember g p disbands
  else s

/-- `OnLogout`: the data of the player is removed. -/
def logout : LfgBootMgr := { s with players := Function.update s.players p {} }

/-- The obsolete kicks of `Update`. -/
def update (now : Nat) : LfgBootMgr :=
  { s with boots := s.boots.filter (fun _ b => !(b.cancelTime < now)) }

def step : LfgEvent → LfgBootMgr
  | .uninvite g kicker victim reason online now => s.uninvite g kicker victim reason online now
  | .vote g p accept victimInWorld disbands => s.updateBoot g p accept victimInWorld disbands
  | .join g p online => s.join g p online
  | .leave g p online disbands => s.leave g p online disbands
  | .logout p => s.logout p
  | .update now => s.update now

variable {s g p} {g' q : Nat} {ps : List Nat} {st : LfgState} {b : LfgPlayerBoot}
  {d : LfgGroupData} {online : List Nat}

theorem mem_members : q ∈ s.members g ↔ (q, g) ∈ s.slots := by
  simp only [members, List.mem_map, List.mem_filter, beq_iff_eq]
  constructor
  · rintro ⟨⟨a, b⟩, ⟨hmem, rfl⟩, rfl⟩
    exact hmem
  · intro hmem
    exact ⟨(q, g), ⟨hmem, rfl⟩, rfl⟩

@[simp] theorem setState_groups : (s.setState p st).groups = s.groups := rfl

@[simp] theorem setState_boots : (s.setState p st).boots = s.boots := rfl

@[simp] theorem setState_slots : (s.setState p st).slots = s.slots := rfl

theorem setState_players :
    ((s.setState p st).players q).state = if q = p then st else (s.players q).state := by
  by_cases h : q = p
  · subst h
    simp [setState]
  · simp [setState, h]

@[simp] theorem clearState_slots : (s.clearState p).slots = s.slots := rfl

theorem clearState_players : ((s.clearState p).players q).state =
    if q = p then (s.players p).oldState else (s.players q).state := by
  by_cases h : q = p
  · subst h
    simp [clearState]
  · simp [clearState, h]

theorem setStates_frame : (s.setStates ps st).groups = s.groups ∧
    (s.setStates ps st).boots = s.boots ∧ (s.setStates ps st).slots = s.slots := by
  induction ps generalizing s with
  | nil => exact ⟨rfl, rfl, rfl⟩
  | cons p ps ih => exact ih (s := s.setState p st)

theorem setStates_players : ((s.setStates ps st).players q).state =
    if q ∈ ps then st else (s.players q).state := by
  induction ps generalizing s with
  | nil => rfl
  | cons p ps ih =>
    have hcons : s.setStates (p :: ps) st = (s.setState p st).setStates ps st := rfl
    rw [hcons, ih, setState_players]
    by_cases h : q ∈ ps <;> by_cases h' : q = p <;> simp [h, h']

theorem clearStates_frame : (s.clearStates ps).groups = s.groups ∧
    (s.clearStates ps).boots = s.boots ∧ (s.clearStates ps).slots = s.slots := by
  induction ps generalizing s with
  | nil => exact ⟨rfl, rfl, rfl⟩
  | cons p ps ih => exact ih (s := s.clearState p)

theorem clearStates_boot : ((s.clearStates ps).players q).state = .BOOT ↔
    (s.players q).state = .BOOT ∧ q ∉ ps := by
  induction ps generalizing s with
  | nil => simp [clearStates]
  | cons p ps ih =>
    have hcons : s.clearStates (p :: ps) = (s.clearState p).clearStates ps := rfl
    rw [hcons, ih, clearState_players]
    by_cases h : q = p
    · subst h
      simp [(s.players q).oldState_ne_boot]
    · simp [h]

@[simp] theorem setGroup_players : (s.setGroup g d).players = s.players := rfl

@[simp] theorem setGroup_boots : (s.setGroup g d).boots = s.boots := rfl

@[simp] theorem setGroup_slots : (s.setGroup g d).slots = s.slots := rfl

theorem setGroup_groups : (s.setGroup g d).groups g' = if g' = g then d else s.groups g' := by
  simp [setGroup, Function.update_apply]

/-! ## The invariant -/

structure Open (b : LfgPlayerBoot) : Prop where
  inProgress : b.inProgress = true
  needed : b.votedNeeded = LFG_GROUP_KICK_VOTES_NEEDED
  agree : b.votes.countP (fun a => a == .AGREE) < LFG_GROUP_KICK_VOTES_NEEDED
  size : b.votes.size ≤ MAXRAIDSIZE

/-- A group and the players whose answers its vote records are in the state `BOOT` as long as the
vote is in progress. -/
structure Shown (s : LfgBootMgr) : Prop where
  group : ∀ g, (s.groups g).states.state = .BOOT ↔ (s.boots.find? g).isSome = true
  player : ∀ p, (s.players p).state = .BOOT ↔
    ∃ g b, s.boots.find? g = some b ∧ b.recorded p = true

structure Booting (s : LfgBootMgr) : Prop extends Shown s where
  distinct : (s.slots.map (fun e => e.1)).Nodup
  small : ∀ g, (s.members g).length ≤ MAXRAIDSIZE
  needed : ∀ g, (s.groups g).votesNeeded = LFG_GROUP_KICK_VOTES_NEEDED
  kicks : ∀ g, (s.groups g).kicksLeft ≤ LFG_GROUP_MAX_KICKS
  isOpen : ∀ g b, s.boots.find? g = some b → Open b
  member : ∀ g b, s.boots.find? g = some b → ∀ p, b.recorded p = true → (p, g) ∈ s.slots
  left : ∀ g b, s.boots.find? g = some b → 0 < (s.groups g).kicksLeft

theorem Booting.same_group (h : s.Booting) (hp : (p, g) ∈ s.slots) (hp' : (p, g') ∈ s.slots) :
    g = g' := by
  have hinj := List.inj_on_of_nodup_map h.distinct hp hp' rfl
  exact congrArg Prod.snd hinj

/-- Who is in the state `BOOT` is a member of a group that votes. -/
theorem Booting.of_boot (h : s.Booting) (hp : (s.players p).state = .BOOT)
    (hslot : (p, g) ∈ s.slots) : ∃ b, s.boots.find? g = some b ∧ b.recorded p = true := by
  obtain ⟨g', b, hb, hrec⟩ := (h.player p).mp hp
  cases h.same_group hslot (h.member g' b hb p hrec)
  exact ⟨b, hb, hrec⟩

/-- What has no part in a vote may change: members that the votes do not record, and the data of
groups and players that are in no vote. -/
theorem Booting.frame {s' : LfgBootMgr} (h : s.Booting) (hboots : s'.boots = s.boots)
    (hdistinct : (s'.slots.map (fun e => e.1)).Nodup)
    (hsmall : ∀ g, (s'.members g).length ≤ MAXRAIDSIZE)
    (hmember : ∀ g b, s.boots.find? g = some b → ∀ p, b.recorded p = true → (p, g) ∈ s'.slots)
    (hgroup : ∀ g, (s'.groups g).votesNeeded = LFG_GROUP_KICK_VOTES_NEEDED ∧
      (s'.groups g).kicksLeft ≤ LFG_GROUP_MAX_KICKS ∧
      ((s'.groups g).states.state = .BOOT ↔ (s.groups g).states.state = .BOOT) ∧
      ((s.boots.find? g).isSome = true → (s'.groups g).kicksLeft = (s.groups g).kicksLeft))
    (hplayer : ∀ p, (s'.players p).state = .BOOT ↔ (s.players p).state = .BOOT) :
    s'.Booting where
  group := fun g => by
    rw [hboots, (hgroup g).2.2.1]
    exact h.group g
  player := fun p => by
    rw [hboots, hplayer p]
    exact h.player p
  distinct := hdistinct
  small := hsmall
  needed := fun g => (hgroup g).1
  kicks := fun g => (hgroup g).2.1
  isOpen := by
    rw [hboots]
    exact h.isOpen
  member := by
    rw [hboots]
    exact hmember
  left := by
    rw [hboots]
    intro g b hb
    rw [(hgroup g).2.2.2 (by rw [hb]; rfl)]
    exact h.left g b hb

theorem leaveQueue_frame (s : LfgBootMgr) (g : Nat) (online : List Nat) :
    (s.leaveQueue g online).boots = s.boots ∧
    (s.leaveQueue g online).slots = s.slots ∧
    ∀ g', ((s.leaveQueue g online).groups g').votesNeeded = (s.groups g').votesNeeded ∧
      ((s.leaveQueue g online).groups g').kicksLeft = (s.groups g').kicksLeft := by
  unfold leaveQueue
  split
  · refine ⟨clearStates_frame.2.1, clearStates_frame.2.2, fun g' => ?_⟩
    rw [clearStates_frame.1, setGroup_groups]
    split
    · rename_i hg
      rw [hg]
      exact ⟨rfl, rfl⟩
    · exact ⟨rfl, rfl⟩
  · exact ⟨rfl, rfl, fun _ => ⟨rfl, rfl⟩⟩

theorem leaveQueue_group :
    ((s.leaveQueue g online).groups g').states.state = .BOOT ↔
      (s.groups g').states.state = .BOOT := by
  unfold leaveQueue
  split
  · rename_i hqueued
    rw [clearStates_frame.1, setGroup_groups]
    split
    · rename_i hg
      rw [hg, hqueued]
      simp [LfgStates.oldState_ne_boot]
    · rfl
  · rfl

theorem Booting.leaveQueue (h : s.Booting) (g : Nat) (online : List Nat) :
    (s.leaveQueue g online).Booting := by
  obtain ⟨hboots, hslots, hgroups⟩ := leaveQueue_frame s g online
  have hmembers : ∀ g', (s.leaveQueue g online).members g' = s.members g' := fun g' => by
    rw [members, members, hslots]
  refine h.frame hboots (hslots ▸ h.distinct) (fun g' => hmembers g' ▸ h.small g')
    (hslots ▸ h.member) (fun g' => ?_) (fun q => ?_)
  · exact ⟨(hgroups g').1 ▸ h.needed g', (hgroups g').2 ▸ h.kicks g', leaveQueue_group,
      fun _ => (hgroups g').2⟩
  · unfold LfgBootMgr.leaveQueue
    split
    · rename_i hqueued
      rw [clearStates_boot]
      refine ⟨fun hq => hq.1, fun hq => ⟨hq, fun hmem => ?_⟩⟩
      obtain ⟨b, hb, _⟩ := h.of_boot hq (mem_members.mp (List.mem_filter.mp hmem).1)
      have hboot := (h.group g).mpr (by rw [hb]; rfl)
      rw [hqueued] at hboot
      cases hboot
    · rfl

theorem Booting.logout (h : s.Booting)
    (hp : ∀ g b, s.boots.find? g = some b → b.recorded p = false) : (s.logout p).Booting := by
  refine h.frame rfl h.distinct h.small h.member
    (fun g => ⟨h.needed g, h.kicks g, Iff.rfl, fun _ => rfl⟩) (fun q => ?_)
  by_cases hq : q = p
  · subst hq
    have hnot : ¬ (s.players q).state = .BOOT := by
      rw [h.player q]
      rintro ⟨g, b, hb, hrec⟩
      rw [hp g b hb] at hrec
      cases hrec
    simp [LfgBootMgr.logout, hnot]
  · simp [LfgBootMgr.logout, hq]

theorem Booting.update {now : Nat} (h : s.Booting)
    (hnow : ∀ g b, s.boots.find? g = some b → now ≤ b.cancelTime) : (s.update now).Booting := by
  have hsame : ∀ g, (s.update now).boots.find? g = s.boots.find? g := by
    intro g
    cases hb : s.boots.find? g with
    | some b =>
      refine OrdMap.find?_filter.mpr ⟨hb, ?_⟩
      simpa using hnow g b hb
    | none =>
      refine OrdMap.find?_eq_none.mpr fun b hmem => ?_
      have hmem' := (OrdMap.find?_filter.mp (OrdMap.find?_eq_some.mpr hmem)).1
      rw [hb] at hmem'
      cases hmem'
  exact
    { group := fun g => by rw [hsame]; exact h.group g
      player := fun p => by simp only [hsame]; exact h.player p
      distinct := h.distinct
      small := h.small
      needed := h.needed
      kicks := h.kicks
      isOpen := fun g b hb => h.isOpen g b (hsame g ▸ hb)
      member := fun g b hb => h.member g b (hsame g ▸ hb)
      left := fun g b hb => h.left g b (hsame g ▸ hb) }

theorem members_append : ({ s with slots := s.slots ++ [(p, g)] } : LfgBootMgr).members g' =
    s.members g' ++ if g = g' then [p] else [] := by
  simp only [members, List.filter_append, List.map_append]
  by_cases hg : g = g' <;> simp [hg]

theorem Booting.join (h : s.Booting) (g p : Nat) (online : List Nat) :
    (s.join g p online).Booting := by
  unfold LfgBootMgr.join
  split
  · rename_i hroom
    obtain ⟨hlen, hnew⟩ := hroom
    have hnone : ∀ g, (p, g) ∉ s.slots := fun g hmem => hnew (List.mem_map.mpr ⟨_, hmem, rfl⟩)
    have hadded : ({ s with slots := s.slots ++ [(p, g)] } : LfgBootMgr).Booting := by
      refine h.frame rfl ?_ (fun g' => ?_)
        (fun g' b hb q hq => List.mem_append_left _ (h.member g' b hb q hq))
        (fun g' => ⟨h.needed g', h.kicks g', Iff.rfl, fun _ => rfl⟩) (fun _ => Iff.rfl)
      · rw [List.map_append, List.nodup_append]
        refine ⟨h.distinct, List.nodup_singleton _, ?_⟩
        rintro a ha b hb rfl
        rw [List.mem_singleton.mp hb] at ha
        exact hnew ha
      · rw [members_append]
        by_cases hg : g = g'
        · subst hg
          simp only [if_true, List.length_append, List.length_singleton]
          omega
        · simpa [hg] using h.small g'
    have hqueue := hadded.leaveQueue g online
    dsimp only
    split
    · rename_i hqueued
      refine hqueue.frame rfl hqueue.distinct hqueue.small hqueue.member
        (fun g' => ⟨hqueue.needed g', hqueue.kicks g', Iff.rfl, fun _ => rfl⟩) (fun q => ?_)
      rw [clearState_players]
      by_cases hq : q = p
      · subst hq
        rw [if_pos rfl, hqueued.1]
        simp [LfgStates.oldState_ne_boot]
      · rw [if_neg hq]
    · exact hqueue
  · exact h

theorem members_filter :
    ({ s with slots := s.slots.filter (fun e => !(e == (p, g))) } : LfgBootMgr).members g' =
      if g' = g then (s.members g).filter (fun q => !(q == p)) else s.members g' := by
  simp only [members, List.filter_filter]
  by_cases hg : g' = g
  · subst hg
    rw [if_pos rfl, List.filter_map, List.filter_filter]
    refine congrArg _ (List.filter_congr fun e _ => ?_)
    rw [Bool.eq_iff_iff]
    simp only [Bool.and_eq_true, Bool.not_eq_true', beq_iff_eq, beq_eq_false_iff_ne, ne_eq,
      Prod.ext_iff, Function.comp_apply]
    tauto
  · rw [if_neg hg]
    refine congrArg _ (List.filter_congr fun e _ => ?_)
    rw [Bool.eq_iff_iff]
    simp only [Bool.and_eq_true, Bool.not_eq_true', beq_iff_eq, beq_eq_false_iff_ne, ne_eq,
      Prod.ext_iff]
    refine ⟨fun he => he.1, fun he => ⟨he, fun hpg => hg (he.symm.trans hpg.2)⟩⟩

theorem Booting.length_filter (h : s.Booting) (hp : (p, g) ∈ s.slots) :
    ((s.members g).filter (fun q => !(q == p))).length + 1 = (s.members g).length := by
  have hnodup : (s.members g).Nodup :=
    h.distinct.sublist (List.Sublist.map _ List.filter_sublist)
  have herase : (s.members g).filter (fun q => !(q == p)) = (s.members g).erase p := by
    rw [hnodup.erase_eq_filter]
    rfl
  rw [herase, List.length_erase_of_mem (mem_members.mpr hp)]
  have := List.length_pos_of_mem (mem_members.mpr hp)
  omega

theorem removeMember_stays {disbands : Bool}
    (hlen : 1 < ((s.members g).filter (fun q => !(q == p))).length) :
    s.removeMember g p disbands =
      { s with slots := s.slots.filter (fun e => !(e == (p, g))) } := by
  have hle : ((s.members g).filter (fun q => !(q == p))).length ≤ (s.members g).length :=
    List.length_filter_le _ _
  have hafter : (({ s with slots := s.slots.filter (fun e => !(e == (p, g))) } : LfgBootMgr).members
      g).length = ((s.members g).filter (fun q => !(q == p))).length := by
    rw [members_filter, if_pos rfl]
  unfold removeMember
  rw [if_pos (by omega), if_neg]
  rintro ⟨hone, _⟩
  rw [hafter] at hone
  omega

theorem Booting.filter_slots (h : s.Booting) {f : Nat × Nat → Bool}
    (hf : ∀ g b, s.boots.find? g = some b → ∀ q, b.recorded q = true → f (q, g) = true) :
    ({ s with slots := s.slots.filter f } : LfgBootMgr).Booting := by
  refine h.frame rfl ?_ (fun g' => ?_) (fun g b hb q hq => ?_)
    (fun g' => ⟨h.needed g', h.kicks g', Iff.rfl, fun _ => rfl⟩) (fun _ => Iff.rfl)
  · exact h.distinct.sublist (List.filter_sublist.map _)
  · have hsub : (({ s with slots := s.slots.filter f } : LfgBootMgr).members g').length ≤
        (s.members g').length := by
      simp only [members, List.length_map, List.filter_filter]
      exact (List.monotone_filter_right _ fun e he => (Bool.and_eq_true _ _ ▸ he).1).length_le
    exact Nat.le_trans hsub (h.small g')
  · exact List.mem_filter.mpr ⟨h.member g b hb q hq, hf g b hb q hq⟩

theorem Booting.disband (h : s.Booting) (hnone : s.boots.find? g = none) :
    (s.disband g).Booting := by
  have hcleared : (s.setGroup g {}).Booting := by
    refine h.frame rfl h.distinct h.small h.member (fun g' => ?_) (fun _ => Iff.rfl)
    rw [setGroup_groups]
    by_cases hg : g' = g
    · subst hg
      rw [if_pos rfl]
      refine ⟨rfl, Nat.le_refl _, ?_, fun hsome => ?_⟩
      · rw [h.group g', hnone]
        simp
      · rw [hnone] at hsome
        cases hsome
    · rw [if_neg hg]
      exact ⟨h.needed g', h.kicks g', Iff.rfl, fun _ => rfl⟩
  refine hcleared.filter_slots fun g' b hb q _ => ?_
  have hg : g' ≠ g := by
    rintro rfl
    rw [setGroup_boots, hnone] at hb
    cases hb
  simpa using hg

/-- Who leaves is not recorded in a vote of the group, and leaves enough others behind. -/
def Unvoted (s : LfgBootMgr) (g p : Nat) (disbands : Bool) : Prop :=
  ∀ b ∈ s.boots.find? g, b.recorded p = false ∧ 1 < (s.members g).length ∧
    ((s.members g).length = 2 → disbands = false)

theorem Booting.removeMember {disbands : Bool} (h : s.Booting) (hp : (p, g) ∈ s.slots)
    (hok : s.Unvoted g p disbands) : (s.removeMember g p disbands).Booting := by
  have hlen := h.length_filter hp
  have hfiltered : ({ s with slots := s.slots.filter (fun e => !(e == (p, g))) } :
      LfgBootMgr).Booting := by
    refine h.filter_slots fun g' b hb q hq => ?_
    rw [Bool.not_eq_true', beq_eq_false_iff_ne]
    rintro heq
    cases heq
    rw [(hok b (hb ▸ rfl)).1] at hq
    cases hq
  unfold LfgBootMgr.removeMember
  split
  · dsimp only
    split
    · rename_i hmany hone
      rw [members_filter, if_pos rfl] at hone
      refine hfiltered.disband ?_
      cases hb : s.boots.find? g with
      | none => rfl
      | some b =>
        have hdis := (hok b (hb ▸ rfl)).2.2 (by omega)
        rw [hdis] at hone
        exact absurd hone.2 Bool.false_ne_true
    · exact hfiltered
  · rename_i hfew
    refine h.disband ?_
    cases hb : s.boots.find? g with
    | none => rfl
    | some b => exact absurd (hok b (hb ▸ rfl)).2.1 hfew

theorem Booting.leaving {disbands : Bool} (h : s.Booting) (hok : s.Unvoted g p disbands)
    (hslot : (p, g) ∈ s.slots) :
    (((s.leaveQueue g online).clearState p).setState p .NONE).Booting ∧
      (((s.leaveQueue g online).clearState p).setState p .NONE).Unvoted g p disbands := by
  have hqueue := h.leaveQueue g online
  obtain ⟨hboots, hslots, _⟩ := leaveQueue_frame s g online
  set k := s.leaveQueue g online with hk
  constructor
  · refine hqueue.frame rfl hqueue.distinct hqueue.small hqueue.member
      (fun g' => ⟨hqueue.needed g', hqueue.kicks g', Iff.rfl, fun _ => rfl⟩) (fun q => ?_)
    rw [setState_players]
    by_cases hq : q = p
    · subst hq
      have hnot : ¬ (k.players q).state = .BOOT := by
        intro hboot
        obtain ⟨b, hb, hrec⟩ := hqueue.of_boot (g := g) hboot (hslots.symm ▸ hslot)
        rw [hboots] at hb
        rw [(hok b (hb ▸ rfl)).1] at hrec
        cases hrec
      simp [hnot]
    · rw [if_neg hq, clearState_players, if_neg hq]
  · intro b hb
    have hmembers : ((k.clearState p).setState p .NONE).members g = s.members g := by
      rw [members, members, setState_slots, clearState_slots, hslots]
    rw [hmembers]
    refine hok b ?_
    rw [← hboots]
    exact hb

theorem Booting.leave {disbands : Bool} (h : s.Booting) (hok : s.Unvoted g p disbands) :
    (s.leave g p online disbands).Booting := by
  unfold LfgBootMgr.leave
  split
  · rename_i hmem
    have hslot := mem_members.mp (List.contains_iff_mem.mp hmem)
    obtain ⟨hcleared, hunvoted⟩ := h.leaving hok hslot
    refine hcleared.removeMember ?_ hunvoted
    rw [setState_slots, clearState_slots, (leaveQueue_frame _ _ _).2.1]
    exact hslot
  · exact h

/-! ## The votes -/

section firstVotes

variable {kicker victim : Nat} {voters : List Nat} {m : OrdMap Nat LfgAnswer}

def firstVote (kicker victim p : Nat) : LfgAnswer :=
  if p = victim then .DENY else if p = kicker then .AGREE else .PENDING

theorem isSome_foldl_set {f : Nat → LfgAnswer} :
    ((voters.foldl (fun m p => m.set p (f p)) m).find? q).isSome = true ↔
      q ∈ voters ∨ (m.find? q).isSome = true := by
  induction voters generalizing m with
  | nil => simp
  | cons v vs ih =>
    rw [List.foldl_cons, ih, OrdMap.find?_set]
    by_cases hq : q = v <;> simp [hq]

theorem countP_set_le {k : Nat} {a : LfgAnswer} {f : LfgAnswer → Bool} :
    (m.set k a).countP f ≤ m.countP f + if f a then 1 else 0 := by
  cases hk : m.find? k with
  | none => rw [OrdMap.countP_set_of_none hk]
  | some w =>
    have hset := OrdMap.countP_set_of_some (p := f) (v := a) hk
    omega

theorem countP_foldl_set_le {f : Nat → LfgAnswer} {c : LfgAnswer → Bool} :
    (voters.foldl (fun m p => m.set p (f p)) m).countP c ≤
      m.countP c + voters.countP (fun p => c (f p)) := by
  induction voters generalizing m with
  | nil => simp
  | cons v vs ih =>
    rw [List.foldl_cons, List.countP_cons]
    have hrest := ih (m := m.set v (f v))
    have hset := countP_set_le (m := m) (k := v) (a := f v) (f := c)
    omega

theorem firstVotes_recorded :
    ((firstVotes kicker victim voters).find? q).isSome = true ↔ q ∈ voters := by
  unfold firstVotes
  rw [isSome_foldl_set]
  simp

theorem firstVotes_size : (firstVotes kicker victim voters).size ≤ voters.length := by
  have hle : (firstVotes kicker victim voters).countP (fun _ => true) ≤
      (∅ : OrdMap Nat LfgAnswer).countP (fun _ => true) + voters.countP (fun _ => true) :=
    countP_foldl_set_le
  rw [OrdMap.size_eq_countP]
  simpa using hle

theorem firstVotes_agree (hnodup : voters.Nodup) :
    (firstVotes kicker victim voters).countP (fun a => a == .AGREE) ≤ 1 := by
  have hle : (firstVotes kicker victim voters).countP (fun a => a == .AGREE) ≤
      (∅ : OrdMap Nat LfgAnswer).countP (fun a => a == .AGREE) +
        voters.countP (fun p => firstVote kicker victim p == .AGREE) := countP_foldl_set_le
  have hone : voters.countP (fun p => firstVote kicker victim p == .AGREE) ≤ 1 := by
    refine Nat.le_trans (List.countP_mono_left ?_) (List.nodup_iff_count_le_one.mp hnodup kicker)
    intro p _ hp
    unfold firstVote at hp
    by_cases hv : p = victim
    · simp [hv] at hp
    · by_cases hk : p = kicker
      · simp [hk]
      · simp [hv, hk] at hp
  simp only [OrdMap.countP_empty, Nat.zero_add] at hle
  exact Nat.le_trans hle hone

end firstVotes

theorem Booting.put {s' : LfgBootMgr} (h : s.Booting) (hslots : s'.slots = s.slots)
    (hfind : ∀ g', s'.boots.find? g' = if g' = g then some b else s.boots.find? g')
    (hgroup : ∀ g', (s'.groups g').votesNeeded = (s.groups g').votesNeeded ∧
      (s'.groups g').kicksLeft = (s.groups g').kicksLeft ∧
      ((s'.groups g').states.state = .BOOT ↔ g' = g ∨ (s.groups g').states.state = .BOOT))
    (hplayer : ∀ q, (s'.players q).state = .BOOT ↔
      b.recorded q = true ∨ (s.players q).state = .BOOT)
    (hold : ∀ b₀, s.boots.find? g = some b₀ → ∀ q, b₀.recorded q = true → b.recorded q = true)
    (hopen : Open b) (hmember : ∀ q, b.recorded q = true → (q, g) ∈ s.slots)
    (hkicks : 0 < (s.groups g).kicksLeft) : s'.Booting where
  group := fun g' => by
    rw [(hgroup g').2.2, hfind]
    by_cases hg : g' = g
    · simp [hg]
    · simpa [hg] using h.group g'
  player := fun q => by
    rw [hplayer q, h.player q]
    constructor
    · rintro (hq | ⟨g', b', hb', hq⟩)
      · exact ⟨g, b, by rw [hfind, if_pos rfl], hq⟩
      · by_cases hg : g' = g
        · exact ⟨g, b, by rw [hfind, if_pos rfl], hold b' (hg ▸ hb') q hq⟩
        · exact ⟨g', b', by rw [hfind, if_neg hg, hb'], hq⟩
    · rintro ⟨g', b', hb', hq⟩
      rw [hfind] at hb'
      by_cases hg : g' = g
      · rw [if_pos hg] at hb'
        cases hb'
        exact .inl hq
      · rw [if_neg hg] at hb'
        exact .inr ⟨g', b', hb', hq⟩
  distinct := hslots ▸ h.distinct
  small := fun g' => by
    rw [members, hslots]
    exact h.small g'
  needed := fun g' => (hgroup g').1.trans (h.needed g')
  kicks := fun g' => (hgroup g').2.1 ▸ h.kicks g'
  isOpen := fun g' b' hb' => by
    rw [hfind] at hb'
    by_cases hg : g' = g
    · rw [if_pos hg] at hb'
      cases hb'
      exact hopen
    · rw [if_neg hg] at hb'
      exact h.isOpen g' b' hb'
  member := fun g' b' hb' q hq => by
    rw [hfind] at hb'
    rw [hslots]
    by_cases hg : g' = g
    · rw [if_pos hg] at hb'
      cases hb'
      exact hg ▸ hmember q hq
    · rw [if_neg hg] at hb'
      exact h.member g' b' hb' q hq
  left := fun g' b' hb' => by
    rw [(hgroup g').2.1]
    by_cases hg : g' = g
    · exact hg ▸ hkicks
    · rw [hfind, if_neg hg] at hb'
      exact h.left g' b' hb'

theorem initBoot_frame {kicker victim now : Nat} {reason : String} :
    (∀ g', (s.initBoot g kicker victim reason online now).boots.find? g' = if g' = g then
      some ⟨now + LFG_TIME_BOOT, true,
        firstVotes kicker victim ((s.members g).filter (online.contains ·)), victim,
        (s.groups g).votesNeeded, reason⟩ else s.boots.find? g') ∧
    (∀ g', (s.initBoot g kicker victim reason online now).groups g' =
      if g' = g then (s.groups g).setState .BOOT else s.groups g') ∧
    (s.initBoot g kicker victim reason online now).slots = s.slots := by
  set voters := (s.members g).filter (online.contains ·) with hvoters
  set k := (s.setGroup g ((s.groups g).setState .BOOT)).setStates voters .BOOT with hk
  obtain ⟨hgroups, hboots, hslots⟩ : k.groups = (s.setGroup g ((s.groups g).setState .BOOT)).groups ∧
      k.boots = s.boots ∧ k.slots = s.slots := setStates_frame
  refine ⟨fun g' => ?_, fun g' => ?_, hslots⟩
  · simp only [LfgBootMgr.initBoot, setBoot, ← hvoters, ← hk, OrdMap.find?_set, hboots]
  · simp only [LfgBootMgr.initBoot, setBoot, ← hvoters, ← hk, hgroups, setGroup_groups]

theorem Booting.initBoot {kicker victim now : Nat} {reason : String} (h : s.Booting)
    (hnone : s.boots.find? g = none) (hkicks : 0 < (s.groups g).kicksLeft) :
    (s.initBoot g kicker victim reason online now).Booting := by
  set voters := (s.members g).filter (online.contains ·) with hvoters
  have hnodup : voters.Nodup :=
    (h.distinct.sublist (List.filter_sublist.map _)).filter _
  have hlen : voters.length ≤ MAXRAIDSIZE :=
    Nat.le_trans (List.length_filter_le _ _) (h.small g)
  obtain ⟨hfind, hgroups, hslots⟩ := initBoot_frame (s := s) (g := g)
  refine h.put (g := g) (b := ⟨now + LFG_TIME_BOOT, true, firstVotes kicker victim voters, victim,
    (s.groups g).votesNeeded, reason⟩) hslots hfind (fun g' => ?_) (fun q => ?_)
    (fun b₀ hb₀ => ?_) ?_ (fun q hq => ?_) hkicks
  · rw [hgroups]
    by_cases hg : g' = g <;> simp [hg]
  · have hstate : ((s.initBoot g kicker victim reason online now).players q).state =
        if q ∈ voters then .BOOT else (s.players q).state := setStates_players
    have hrec : ((firstVotes kicker victim voters).find? q).isSome = true ↔ q ∈ voters :=
      firstVotes_recorded
    rw [hstate, LfgPlayerBoot.recorded, hrec]
    by_cases hq : q ∈ voters <;> simp [hq]
  · rw [hnone] at hb₀
    cases hb₀
  · refine ⟨rfl, h.needed g, ?_, Nat.le_trans firstVotes_size hlen⟩
    exact Nat.lt_of_le_of_lt (firstVotes_agree hnodup) (by decide)
  · have hmem : q ∈ voters := firstVotes_recorded.mp hq
    exact mem_members.mp (List.mem_filter.mp hmem).1

theorem Booting.uninvite {kicker victim now : Nat} {reason : String} (h : s.Booting) :
    (s.uninvite g kicker victim reason online now).Booting := by
  unfold LfgBootMgr.uninvite
  split
  · rename_i hok
    have hcan : s.canUninvite g = true := by
      simp only [Bool.and_eq_true] at hok
      exact hok.1.2
    simp only [canUninvite, Bool.and_eq_true, bne_iff_ne, ne_eq] at hcan
    obtain ⟨hboots, _, hgroups⟩ := leaveQueue_frame s g online
    refine (h.leaveQueue g online).initBoot ?_ ?_
    · rw [hboots]
      have hnot := hcan.1.1.2
      rw [h.group g] at hnot
      simpa using hnot
    · rw [(hgroups g).2]
      exact Nat.pos_of_ne_zero hcan.1.1.1
  · exact h

theorem mem_keys : q ∈ b.votes.entries.map (fun e => e.1) ↔ b.recorded q = true := by
  rw [LfgPlayerBoot.recorded, Option.isSome_iff_exists]
  simp only [List.mem_map, Prod.exists, exists_and_right, exists_eq_right, OrdMap.find?_eq_some]

theorem size_le_members (hmember : ∀ q, b.recorded q = true → (q, g) ∈ s.slots) :
    b.votes.size ≤ (s.members g).length := by
  have hnodup : (b.votes.entries.map (fun e => e.1)).Nodup := by
    rw [List.nodup_iff_pairwise_ne, List.pairwise_map]
    exact b.votes.sorted.imp fun hlt => hlt.ne
  have hsub : b.votes.entries.map (fun e => e.1) ⊆ s.members g := fun q hq =>
    mem_members.mpr (hmember q (mem_keys.mp hq))
  simpa [OrdMap.size] using hnodup.length_le_of_subset hsub

theorem Open.agreeNum (hsize : b.votes.size ≤ MAXRAIDSIZE) :
    b.agreeNum = b.votes.countP (fun a => a == .AGREE) := by
  have hle : b.votes.countP (fun a => a == .AGREE) ≤ b.votes.size := OrdMap.countP_le_size
  unfold LfgPlayerBoot.agreeNum
  rw [Nat.mod_eq_of_lt]
  have : MAXRAIDSIZE = 40 := rfl
  omega

theorem answer_recorded {accept : Bool} (hp : b.votes.find? p = some .PENDING) :
    (b.answer p accept).recorded q = b.recorded q := by
  simp only [LfgPlayerBoot.recorded, LfgPlayerBoot.answer, OrdMap.find?_set]
  by_cases hq : q = p
  · subst hq
    simp [hp]
  · simp [hq]

theorem answer_size {accept : Bool} (hp : b.votes.find? p = some .PENDING) :
    (b.answer p accept).votes.size = b.votes.size := by
  have hset := OrdMap.countP_set_of_some (p := fun _ => true) (v := LfgAnswer.ofBool accept) hp
  simp only [if_true, Nat.add_right_cancel_iff] at hset
  rw [OrdMap.size_eq_countP, OrdMap.size_eq_countP]
  exact hset

theorem answer_agree (accept : Bool) (hp : b.votes.find? p = some .PENDING) :
    (b.answer p accept).votes.countP (fun a => a == .AGREE) =
      b.votes.countP (fun a => a == .AGREE) + if accept then 1 else 0 := by
  have hset := OrdMap.countP_set_of_some (p := fun a => a == .AGREE)
    (v := LfgAnswer.ofBool accept) hp
  cases accept
  · simpa [LfgAnswer.ofBool, LfgPlayerBoot.answer] using hset
  · simpa [LfgAnswer.ofBool, LfgPlayerBoot.answer] using hset

def Passing (s : LfgBootMgr) (g p : Nat) (accept : Bool) : Prop :=
  ∃ b, s.boots.find? g = some b ∧ b.votes.find? p = some .PENDING ∧
    b.votedNeeded ≤ (b.answer p accept).votes.countP (fun a => a == .AGREE)

theorem Open.passed {accept : Bool} (hb : Open b) (hp : b.votes.find? p = some .PENDING) :
    (b.answer p accept).passed = true ↔
      b.votedNeeded ≤ (b.answer p accept).votes.countP (fun a => a == .AGREE) := by
  have hcount : (b.answer p accept).agreeNum = (b.answer p accept).votes.countP
      (fun a => a == .AGREE) := Open.agreeNum (by rw [answer_size hp]; exact hb.size)
  have hone := answer_agree accept hp
  have hlt := hb.agree
  have hneeded := hb.needed
  have hsame : (b.answer p accept).votedNeeded = b.votedNeeded := rfl
  rw [LfgPlayerBoot.passed, beq_iff_eq, hcount, hsame]
  split at hone <;> omega

/-- A vote is over: its group and its voters are no longer in the state `BOOT`. -/
theorem Booting.drop {s' : LfgBootMgr} (h : s.Booting) (hb : s.boots.find? g = some b)
    (hfind : ∀ g', s'.boots.find? g' = if g' = g then none else s.boots.find? g')
    (hdistinct : (s'.slots.map (fun e => e.1)).Nodup)
    (hsmall : ∀ g, (s'.members g).length ≤ MAXRAIDSIZE)
    (hslots : ∀ g' q, g' ≠ g → (q, g') ∈ s.slots → (q, g') ∈ s'.slots)
    (hgroup : ∀ g', (s'.groups g').votesNeeded = (s.groups g').votesNeeded ∧
      (s'.groups g').kicksLeft ≤ (s.groups g').kicksLeft ∧
      (g' ≠ g → s'.groups g' = s.groups g'))
    (hstate : (s'.groups g).states.state ≠ .BOOT)
    (hplayer : ∀ q, (s'.players q).state = .BOOT ↔
      (s.players q).state = .BOOT ∧ b.recorded q = false) : s'.Booting where
  group := fun g' => by
    rw [hfind]
    by_cases hg : g' = g
    · subst hg
      simp [hstate]
    · rw [if_neg hg, (hgroup g').2.2 hg]
      exact h.group g'
  player := fun q => by
    rw [hplayer q, h.player q]
    constructor
    · rintro ⟨⟨g', b', hb', hq⟩, hnot⟩
      have hg : g' ≠ g := by
        rintro rfl
        cases hb.symm.trans hb'
        rw [hnot] at hq
        cases hq
      exact ⟨g', b', by rw [hfind, if_neg hg, hb'], hq⟩
    · rintro ⟨g', b', hb', hq⟩
      rw [hfind] at hb'
      by_cases hg : g' = g
      · rw [if_pos hg] at hb'
        cases hb'
      · rw [if_neg hg] at hb'
        refine ⟨⟨g', b', hb', hq⟩, ?_⟩
        cases hrec : b.recorded q with
        | false => rfl
        | true => exact absurd (h.same_group (h.member g' b' hb' q hq) (h.member g b hb q hrec)) hg
  distinct := hdistinct
  small := hsmall
  needed := fun g' => (hgroup g').1.trans (h.needed g')
  kicks := fun g' => Nat.le_trans (hgroup g').2.1 (h.kicks g')
  isOpen := fun g' b' hb' => by
    rw [hfind] at hb'
    by_cases hg : g' = g
    · rw [if_pos hg] at hb'
      cases hb'
    · rw [if_neg hg] at hb'
      exact h.isOpen g' b' hb'
  member := fun g' b' hb' q hq => by
    rw [hfind] at hb'
    by_cases hg : g' = g
    · rw [if_pos hg] at hb'
      cases hb'
    · rw [if_neg hg] at hb'
      exact hslots g' q hg (h.member g' b' hb' q hq)
  left := fun g' b' hb' => by
    rw [hfind] at hb'
    by_cases hg : g' = g
    · rw [if_pos hg] at hb'
      cases hb'
    · rw [if_neg hg] at hb'
      rw [(hgroup g').2.2 hg]
      exact h.left g' b' hb'

theorem endBoot_spec (s : LfgBootMgr) (g : Nat) (b : LfgPlayerBoot) (victimInWorld disbands : Bool)
    (hlen : b.passed = true → 1 < ((s.members g).filter (fun q => !(q == b.victim))).length) :
    (∀ g', (s.endBoot g b victimInWorld disbands).boots.find? g' =
      if g' = g then none else s.boots.find? g') ∧
    (∀ g', (s.endBoot g b victimInWorld disbands).groups g' = if g' = g then
      (if b.passed then ((s.groups g).setState .DUNGEON).decreaseKicksLeft
        else (s.groups g).setState .DUNGEON) else s.groups g') ∧
    (s.endBoot g b victimInWorld disbands).slots =
      (if b.passed then s.slots.filter (fun e => !(e == (b.victim, g))) else s.slots) ∧
    ∀ q, ((s.endBoot g b victimInWorld disbands).players q).state =
      if b.passed = true ∧ victimInWorld = true ∧ q = b.victim then .NONE
      else if b.recorded q = true ∧ q ≠ b.victim then .DUNGEON else (s.players q).state := by
  set keys := (b.votes.entries.map (fun e => e.1)).filter (fun p => p != b.victim) with hkeys
  have hmemkeys : ∀ q, q ∈ keys ↔ b.recorded q = true ∧ q ≠ b.victim := by
    intro q
    rw [hkeys, List.mem_filter, mem_keys]
    simp
  obtain ⟨hgroups, hboots, hslots⟩ : (s.setStates keys .DUNGEON).groups = s.groups ∧
      (s.setStates keys .DUNGEON).boots = s.boots ∧
      (s.setStates keys .DUNGEON).slots = s.slots := setStates_frame
  have hplayers : ∀ q, ((s.setStates keys .DUNGEON).players q).state =
      if b.recorded q = true ∧ q ≠ b.victim then .DUNGEON else (s.players q).state := by
    intro q
    rw [setStates_players]
    exact if_congr (hmemkeys q) rfl rfl
  set k := s.setStates keys .DUNGEON with hk
  have hmembers : (k.setGroup g ((k.groups g).setState .DUNGEON)).members g = s.members g := by
    rw [members, members, setGroup_slots, hslots]
  unfold endBoot
  simp only [← hkeys, ← hk]
  cases hpassed : b.passed with
  | false =>
    simp only [Bool.false_eq_true, if_false, false_and]
    refine ⟨fun g' => ?_, fun g' => ?_, hslots, hplayers⟩
    · simp only [eraseBoot, OrdMap.find?_erase, setGroup_boots, hboots]
    · simp only [eraseBoot, setGroup_groups, hgroups]
  | true =>
    have hstays : (k.setGroup g ((k.groups g).setState .DUNGEON)).removeMember g b.victim
        disbands = { k.setGroup g ((k.groups g).setState .DUNGEON) with
          slots := k.slots.filter (fun e => !(e == (b.victim, g))) } :=
      removeMember_stays (by rw [hmembers]; exact hlen hpassed)
    simp only [if_true, true_and, hstays]
    cases victimInWorld with
    | false =>
      simp only [Bool.false_eq_true, if_false, false_and]
      refine ⟨fun g' => ?_, fun g' => ?_, ?_, hplayers⟩
      · simp only [eraseBoot, OrdMap.find?_erase, setGroup_boots, hboots]
      · simp only [eraseBoot, setGroup_groups, hgroups]
        by_cases hg : g' = g <;> simp [hg]
      · simp only [eraseBoot, setGroup_slots, hslots]
    | true =>
      simp only [if_true, true_and]
      refine ⟨fun g' => ?_, fun g' => ?_, ?_, fun q => ?_⟩
      · simp only [eraseBoot, OrdMap.find?_erase, setGroup_boots, setState_boots, hboots]
      · simp only [eraseBoot, setGroup_groups, setState_groups, hgroups]
        by_cases hg : g' = g <;> simp [hg]
      · simp only [eraseBoot, setGroup_slots, setState_slots, hslots]
      · simp only [eraseBoot, setGroup_players, setState_players, hplayers]

/-- The answer is that of a recorded voter, and one that ends the vote ends it for the victim too:
he is not recorded when it fails, and is in the world, and in no other vote, when it passes. -/
def Decides (s : LfgBootMgr) (g p : Nat) (accept victimInWorld : Bool) : Prop :=
  ∀ b ∈ s.boots.find? g, b.recorded p = true ∧
    (b.votes.find? p = some .PENDING → (b.answer p accept).isOver = true →
      if (b.answer p accept).passed = true then
        (b.recorded b.victim = true → victimInWorld = true) ∧
        (victimInWorld = true → ∀ e ∈ s.boots.entries, e.2.recorded b.victim = true → e.1 = g)
      else b.recorded b.victim = false)

section vote

variable {accept victimInWorld disbands : Bool}

theorem Booting.enough (h : s.Booting) (hb : s.boots.find? g = some b)
    (hp : b.votes.find? p = some .PENDING) (hpassed : (b.answer p accept).passed = true) :
    1 < ((s.members g).filter (fun q => !(q == b.victim))).length := by
  have hopen := h.isOpen g b hb
  have hagree := (hopen.passed hp).mp hpassed
  have hle : (b.answer p accept).votes.countP (fun a => a == .AGREE) ≤
      (b.answer p accept).votes.size := OrdMap.countP_le_size
  have hsize : b.votes.size ≤ (s.members g).length := size_le_members (h.member g b hb)
  have hneeded := hopen.needed
  rw [answer_size hp] at hle
  have hthree : LFG_GROUP_KICK_VOTES_NEEDED = 3 := rfl
  by_cases hv : (b.victim, g) ∈ s.slots
  · have := h.length_filter hv
    omega
  · have hall : (s.members g).filter (fun q => !(q == b.victim)) = s.members g := by
      refine List.filter_eq_self.mpr fun q hq => ?_
      rw [Bool.not_eq_true', beq_eq_false_iff_ne]
      rintro rfl
      exact hv (mem_members.mp hq)
    rw [hall]
    omega

theorem Booting.endBoot (h : s.Booting) (hb : s.boots.find? g = some b)
    (hp : b.votes.find? p = some .PENDING) (hover : (b.answer p accept).isOver = true)
    (hok : s.Decides g p accept victimInWorld) :
    (s.endBoot g (b.answer p accept) victimInWorld disbands).Booting := by
  have henough : (b.answer p accept).passed = true →
      1 < ((s.members g).filter (fun q => !(q == b.victim))).length := h.enough hb hp
  obtain ⟨hfind, hgroups, hslots, hplayers⟩ :=
    endBoot_spec s g (b.answer p accept) victimInWorld disbands henough
  have hvictim : (b.answer p accept).victim = b.victim := rfl
  have hend := (hok b (hb ▸ rfl)).2 hp hover
  have hfilter : ∀ f : Nat × Nat → Bool,
      ((s.slots.filter f).map (fun e => e.1)).Nodup ∧
        ∀ g', (((s.slots.filter f).filter (fun e => e.2 == g')).map (fun e => e.1)).length ≤
          MAXRAIDSIZE := by
    intro f
    refine ⟨h.distinct.sublist (List.filter_sublist.map _), fun g' => ?_⟩
    refine Nat.le_trans ?_ (h.small g')
    simp only [members, List.length_map, List.filter_filter]
    exact (List.monotone_filter_right _ fun e he => (Bool.and_eq_true _ _ ▸ he).1).length_le
  refine h.drop hb hfind ?_ (fun g' => ?_) (fun g' q hg hq => ?_) (fun g' => ?_) ?_ (fun q => ?_)
  · rw [hslots]
    split
    · exact (hfilter _).1
    · exact h.distinct
  · rw [members, hslots]
    split
    · exact (hfilter _).2 g'
    · exact h.small g'
  · rw [hslots]
    split
    · refine List.mem_filter.mpr ⟨hq, ?_⟩
      rw [Bool.not_eq_true', beq_eq_false_iff_ne]
      rintro heq
      exact hg (congrArg Prod.snd heq)
    · exact hq
  · rw [hgroups]
    by_cases hg : g' = g
    · subst hg
      rw [if_pos rfl]
      split <;> simp
    · rw [if_neg hg]
      exact ⟨rfl, Nat.le_refl _, fun _ => rfl⟩
  · rw [hgroups, if_pos rfl]
    split <;> simp
  · rw [hplayers, answer_recorded hp, hvictim]
    by_cases hq : q = b.victim
    · subst hq
      by_cases hpassed : (b.answer p accept).passed = true
      · rw [if_pos hpassed] at hend
        cases hworld : victimInWorld with
        | true =>
          simp only [hpassed, and_self, if_true, reduceCtorEq, false_iff, not_and,
            Bool.not_eq_false]
          intro hboot
          obtain ⟨g', b', hb', hrec⟩ := (h.player b.victim).mp hboot
          have hg := hend.2 hworld (g', b') (OrdMap.find?_eq_some.mp hb') hrec
          simp only at hg
          subst hg
          cases hb.symm.trans hb'
          exact hrec
        | false =>
          have hnot : b.recorded b.victim = false := by
            by_contra hrec
            have := hend.1 (Bool.not_eq_false _ ▸ hrec)
            rw [hworld] at this
            cases this
          simp [hnot]
      · rw [if_neg hpassed] at hend
        simp [hpassed, hend]
    · cases hrec : b.recorded q with
      | true => simp [hq]
      | false => simp [hq]

theorem Booting.vote (h : s.Booting) (hok : s.Decides g p accept victimInWorld) :
    (s.updateBoot g p accept victimInWorld disbands).Booting := by
  unfold updateBoot
  cases hb : s.boots.find? g with
  | none => exact h
  | some b =>
    dsimp only
    have hrec := (hok b (hb ▸ rfl)).1
    cases hp : b.votes.find? p with
    | none =>
      rw [LfgPlayerBoot.recorded, hp] at hrec
      cases hrec
    | some a =>
      cases a with
      | DENY => exact h
      | AGREE => exact h
      | PENDING =>
        dsimp only
        by_cases hover : (b.answer p accept).isOver = true
        · rw [if_pos hover]
          exact h.endBoot hb hp hover hok
        · rw [if_neg hover]
          have hopen := h.isOpen g b hb
          have hgroup := (h.group g).mpr (by rw [hb]; rfl)
          refine h.put (g := g) (b := b.answer p accept) rfl (fun g' => ?_) (fun g' => ?_)
            (fun q => ?_) (fun b₀ hb₀ q hq => ?_) ⟨hopen.inProgress, hopen.needed, ?_, ?_⟩
            (fun q hq => ?_) (h.left g b hb)
          · exact OrdMap.find?_set
          · refine ⟨rfl, rfl, fun hboot => .inr hboot, fun hboot => ?_⟩
            rcases hboot with rfl | hboot
            · exact hgroup
            · exact hboot
          · refine ⟨fun hboot => .inr hboot, fun hboot => ?_⟩
            rcases hboot with hq | hboot
            · rw [answer_recorded hp] at hq
              exact (h.player q).mpr ⟨g, b, hb, hq⟩
            · exact hboot
          · rw [answer_recorded hp]
            cases hb.symm.trans hb₀
            exact hq
          · have hnot : ¬ (b.answer p accept).passed = true := fun hpassed =>
              hover (by simp [LfgPlayerBoot.isOver, hpassed])
            rw [hopen.passed hp, hopen.needed] at hnot
            exact Nat.lt_of_not_le hnot
          · rw [answer_size hp]
            exact hopen.size
          · rw [answer_recorded hp] at hq
            exact h.member g b hb q hq

end vote

/-! ## Runs -/

/-- No vote is past its time at an update, its voters stay until it is over, and answers end it as
`Decides` says. -/
def Admits (s : LfgBootMgr) : LfgEvent → Prop
  | .uninvite _ _ _ _ _ _ => True
  | .vote g p accept victimInWorld _ => s.Decides g p accept victimInWorld
  | .join _ _ _ => True
  | .leave g p _ disbands => s.Unvoted g p disbands
  | .logout p => ∀ e ∈ s.boots.entries, e.2.recorded p = false
  | .update now => ∀ e ∈ s.boots.entries, now ≤ e.2.cancelTime

instance {accept victimInWorld : Bool} : Decidable (s.Decides g p accept victimInWorld) :=
  inferInstanceAs (Decidable (∀ b ∈ s.boots.find? g, _))

instance {disbands : Bool} : Decidable (s.Unvoted g p disbands) :=
  inferInstanceAs (Decidable (∀ b ∈ s.boots.find? g, _))

instance : DecidablePred s.Admits := fun e => by
  cases e <;> unfold Admits <;> infer_instance

def Passes (s : LfgBootMgr) (g : Nat) : LfgEvent → Prop
  | .vote g' p accept _ _ => g' = g ∧ s.Passing g p accept
  | _ => False

/-- What an event means for the votes before it: the kick counter goes down, by one, exactly when a
vote passes, the victim is removed exactly then, and a vote that is over leaves nobody in `BOOT`. -/
structure Settled (s : LfgBootMgr) (e : LfgEvent) (s' : LfgBootMgr) : Prop where
  counted : ∀ g, (s'.groups g).kicksLeft < (s.groups g).kicksLeft ↔ s.Passes g e
  byOne : ∀ g, s.Passes g e → (s'.groups g).kicksLeft + 1 = (s.groups g).kicksLeft
  removed : ∀ g b, s.boots.find? g = some b → b.victim ∈ s.members g → ¬ e.leaves g b.victim →
    (b.victim ∉ s'.members g ↔ s.Passes g e)
  ended : ∀ g b, s.boots.find? g = some b → s'.boots.find? g = none →
    (s'.groups g).states.state ≠ .BOOT ∧
      ∀ q, b.recorded q = true → (s'.players q).state ≠ .BOOT

theorem Booting.step {e : LfgEvent} (h : s.Booting) (hok : s.Admits e) : (s.step e).Booting := by
  cases e with
  | uninvite g kicker victim reason online now => exact h.uninvite
  | vote g p accept victimInWorld disbands => exact h.vote hok
  | join g p online => exact h.join g p online
  | leave g p online disbands => exact h.leave hok
  | logout p => exact h.logout fun g b hb => hok (g, b) (OrdMap.find?_eq_some.mp hb)
  | update now => exact h.update fun g b hb => hok (g, b) (OrdMap.find?_eq_some.mp hb)

structure Undecided (s : LfgBootMgr) (e : LfgEvent) (s' : LfgBootMgr) : Prop where
  boots : ∀ g b, s.boots.find? g = some b → s'.boots.find? g ≠ none
  kicks : ∀ g, (s.groups g).kicksLeft ≤ (s'.groups g).kicksLeft
  slots : ∀ g b q, s.boots.find? g = some b → (q, g) ∈ s.slots → ¬ e.leaves g q →
    (q, g) ∈ s'.slots

theorem Undecided.settled {e : LfgEvent} {s' : LfgBootMgr} (h : s.Undecided e s')
    (hnot : ∀ g, ¬ s.Passes g e) : s.Settled e s' where
  counted := fun g => ⟨fun hlt => absurd (h.kicks g) (Nat.not_le_of_lt hlt),
    fun hpass => absurd hpass (hnot g)⟩
  byOne := fun g hpass => absurd hpass (hnot g)
  removed := fun g b hb hmem hleaves => by
    have hstays := mem_members.mpr (h.slots g b b.victim hb (mem_members.mp hmem) hleaves)
    exact ⟨fun hgone => absurd hstays hgone, fun hpass => absurd hpass (hnot g)⟩
  ended := fun g b hb hnone => absurd hnone (h.boots g b hb)

theorem Undecided.of_eq {e : LfgEvent} {s' : LfgBootMgr} (hboots : s'.boots = s.boots)
    (hkicks : ∀ g, (s'.groups g).kicksLeft = (s.groups g).kicksLeft) (hslots : s.slots ⊆ s'.slots) :
    s.Undecided e s' where
  boots := fun g b hb => by
    rw [hboots, hb]
    exact Option.some_ne_none b
  kicks := fun g => Nat.le_of_eq (hkicks g).symm
  slots := fun _ _ _ _ hmem _ => hslots hmem

theorem uninvite_undecided {kicker victim now : Nat} {reason : String} :
    s.Undecided (.uninvite g kicker victim reason online now)
      (s.uninvite g kicker victim reason online now) := by
  unfold LfgBootMgr.uninvite
  split
  · obtain ⟨hboots, hslots, hgroups⟩ : (s.leaveQueue g online).boots = s.boots ∧
        (s.leaveQueue g online).slots = s.slots ∧ _ := leaveQueue_frame s g online
    obtain ⟨hfind, hdata, hslots'⟩ := initBoot_frame (s := s.leaveQueue g online) (g := g)
    refine ⟨fun g' b hb => ?_, fun g' => ?_, fun g' b q hb hmem _ => ?_⟩
    · rw [hfind, hboots]
      split
      · exact Option.some_ne_none _
      · rw [hb]
        exact Option.some_ne_none b
    · rw [hdata]
      split
      · rename_i hg
        rw [hg, LfgGroupData.setState_kicksLeft, (hgroups g).2]
      · rw [(hgroups g').2]
    · rw [hslots', hslots]
      exact hmem
  · exact .of_eq rfl (fun _ => rfl) fun _ hmem => hmem

theorem join_undecided : s.Undecided (.join g p online) (s.join g p online) := by
  unfold LfgBootMgr.join
  split
  · obtain ⟨hboots, hslots, hgroups⟩ := leaveQueue_frame
      { s with slots := s.slots ++ [(p, g)] } g online
    dsimp only
    split
    · refine .of_eq hboots (fun g' => (hgroups g').2) ?_
      rw [clearState_slots, hslots]
      exact List.subset_append_left _ _
    · refine .of_eq hboots (fun g' => (hgroups g').2) ?_
      rw [hslots]
      exact List.subset_append_left _ _
  · exact .of_eq rfl (fun _ => rfl) fun _ hmem => hmem

theorem disband_frame : (s.disband g).boots = s.boots ∧
    (∀ g', (s.disband g).groups g' = if g' = g then {} else s.groups g') ∧
    ∀ e, e ∈ (s.disband g).slots ↔ e ∈ s.slots ∧ e.2 ≠ g := by
  refine ⟨rfl, fun g' => setGroup_groups, fun e => ?_⟩
  simp [disband]

theorem removeMember_undecided {disbands : Bool} {e : LfgEvent} (h : s.Booting)
    (hp : (p, g) ∈ s.slots) (hok : s.Unvoted g p disbands) (he : e.leaves g p) :
    s.Undecided e (s.removeMember g p disbands) := by
  have hlen := h.length_filter hp
  have hslots : ∀ g' q, (q, g') ∈ s.slots → ¬ e.leaves g' q →
      (q, g') ∈ s.slots.filter (fun e => !(e == (p, g))) := by
    intro g' q hmem hleaves
    refine List.mem_filter.mpr ⟨hmem, ?_⟩
    rw [Bool.not_eq_true', beq_eq_false_iff_ne]
    rintro heq
    cases heq
    exact hleaves he
  have hgone : ∀ k : LfgBootMgr, k.boots = s.boots → k.groups = s.groups →
      (∀ g' q, (q, g') ∈ s.slots → ¬ e.leaves g' q → (q, g') ∈ k.slots) →
      s.boots.find? g = none → s.Undecided e (k.disband g) := by
    intro k hboots hgroups hmem hnone
    obtain ⟨hboots', hgroups', hslots'⟩ := disband_frame (s := k) (g := g)
    refine ⟨fun g' b hb => ?_, fun g' => ?_, fun g' b q hb hq hleaves => ?_⟩
    · rw [hboots', hboots, hb]
      exact Option.some_ne_none b
    · rw [hgroups', hgroups]
      split
      · exact h.kicks g'
      · exact Nat.le_refl _
    · refine (hslots' _).mpr ⟨hmem g' q hq hleaves, ?_⟩
      rintro rfl
      rw [hnone] at hb
      cases hb
  unfold LfgBootMgr.removeMember
  split
  · rename_i hmany
    dsimp only
    split
    · rename_i hone
      rw [members_filter, if_pos rfl] at hone
      refine hgone _ rfl rfl hslots ?_
      cases hb : s.boots.find? g with
      | none => rfl
      | some b =>
        have hdis := (hok b (hb ▸ rfl)).2.2 (by omega)
        rw [hdis] at hone
        exact absurd hone.2 Bool.false_ne_true
    · refine ⟨fun g' b hb => ?_, fun g' => Nat.le_refl _, fun g' b q _ hq hleaves => ?_⟩
      · rw [hb]
        exact Option.some_ne_none b
      · exact hslots g' q hq hleaves
  · rename_i hfew
    refine hgone s rfl rfl (fun _ _ hq _ => hq) ?_
    cases hb : s.boots.find? g with
    | none => rfl
    | some b => exact absurd (hok b (hb ▸ rfl)).2.1 hfew

theorem Undecided.trans {e : LfgEvent} {k s' : LfgBootMgr} (h : s.Undecided e k)
    (h' : k.Undecided e s') : s.Undecided e s' where
  boots := fun g b hb => by
    obtain ⟨b', hb'⟩ := Option.ne_none_iff_exists'.mp (h.boots g b hb)
    exact h'.boots g b' hb'
  kicks := fun g => Nat.le_trans (h.kicks g) (h'.kicks g)
  slots := fun g b q hb hq hleaves => by
    obtain ⟨b', hb'⟩ := Option.ne_none_iff_exists'.mp (h.boots g b hb)
    exact h'.slots g b' q hb' (h.slots g b q hb hq hleaves) hleaves

theorem leave_undecided {disbands : Bool} (h : s.Booting) (hok : s.Unvoted g p disbands) :
    s.Undecided (.leave g p online disbands) (s.leave g p online disbands) := by
  unfold LfgBootMgr.leave
  split
  · rename_i hmem
    have hslot := mem_members.mp (List.contains_iff_mem.mp hmem)
    obtain ⟨hcleared, hunvoted⟩ := h.leaving hok hslot
    obtain ⟨hboots, hslots, hgroups⟩ := leaveQueue_frame s g online
    have hfirst : s.Undecided (.leave g p online disbands)
        (((s.leaveQueue g online).clearState p).setState p .NONE) := by
      refine .of_eq hboots (fun g' => (hgroups g').2) ?_
      rw [setState_slots, clearState_slots, hslots]
      exact fun _ hmem => hmem
    refine hfirst.trans (removeMember_undecided hcleared ?_ hunvoted ⟨rfl, rfl⟩)
    rw [setState_slots, clearState_slots, hslots]
    exact hslot
  · exact .of_eq rfl (fun _ => rfl) fun _ hmem => hmem

theorem Booting.endBoot_settled {accept victimInWorld disbands : Bool} (h : s.Booting)
    (hb : s.boots.find? g = some b) (hp : b.votes.find? p = some .PENDING)
    (hover : (b.answer p accept).isOver = true) (hok : s.Decides g p accept victimInWorld) :
    s.Settled (.vote g p accept victimInWorld disbands)
      (s.endBoot g (b.answer p accept) victimInWorld disbands) := by
  have hnew : (s.endBoot g (b.answer p accept) victimInWorld disbands).Booting :=
    h.endBoot hb hp hover hok
  have henough : (b.answer p accept).passed = true →
      1 < ((s.members g).filter (fun q => !(q == b.victim))).length := h.enough hb hp
  obtain ⟨hfind, hgroups, hslots, _⟩ :=
    endBoot_spec s g (b.answer p accept) victimInWorld disbands henough
  have hleft := h.left g b hb
  have hpassing : ∀ g', s.Passes g' (.vote g p accept victimInWorld disbands) ↔
      g' = g ∧ (b.answer p accept).passed = true := by
    intro g'
    constructor
    · rintro ⟨rfl, b', hb', hp', hneeded⟩
      cases hb.symm.trans hb'
      exact ⟨rfl, ((h.isOpen g b hb).passed hp).mpr hneeded⟩
    · rintro ⟨rfl, hpassed⟩
      exact ⟨rfl, b, hb, hp, ((h.isOpen g' b hb).passed hp).mp hpassed⟩
  have hkicks : ∀ g', (b.answer p accept).passed = true → g' = g →
      ((s.endBoot g (b.answer p accept) victimInWorld disbands).groups g').kicksLeft + 1 =
        (s.groups g').kicksLeft := by
    rintro g' hpassed rfl
    rw [hgroups, if_pos rfl, if_pos hpassed, LfgGroupData.decreaseKicksLeft_kicksLeft,
      LfgGroupData.setState_kicksLeft]
    omega
  have hsame : ∀ g', ¬ (g' = g ∧ (b.answer p accept).passed = true) →
      ((s.endBoot g (b.answer p accept) victimInWorld disbands).groups g').kicksLeft =
        (s.groups g').kicksLeft := by
    intro g' hnot
    rw [hgroups]
    split
    · rename_i hg
      rw [if_neg fun hpassed => hnot ⟨hg, hpassed⟩, LfgGroupData.setState_kicksLeft, hg]
    · rfl
  refine ⟨fun g' => ?_, fun g' hpass => ?_, fun g' b' hb' hmem _ => ?_, fun g' b' hb' hnone => ?_⟩
  · rw [hpassing]
    by_cases hpass : g' = g ∧ (b.answer p accept).passed = true
    · have := hkicks g' hpass.2 hpass.1
      simp only [hpass, and_self, iff_true]
      rw [hpass.1] at this
      omega
    · rw [hsame g' hpass]
      simp [hpass]
  · obtain ⟨hg, hpassed⟩ := (hpassing g').mp hpass
    exact hkicks g' hpassed hg
  · have hslot := mem_members.mp hmem
    rw [hpassing, mem_members, hslots]
    constructor
    · intro hgone
      split at hgone
      · rename_i hpassed
        refine ⟨?_, hpassed⟩
        by_contra hg
        refine hgone (List.mem_filter.mpr ⟨hslot, ?_⟩)
        rw [Bool.not_eq_true', beq_eq_false_iff_ne]
        exact fun heq => hg (congrArg Prod.snd heq)
      · exact absurd hslot hgone
    · rintro ⟨rfl, hpassed⟩
      cases hb.symm.trans hb'
      rw [if_pos hpassed]
      intro hkept
      have hne := (List.mem_filter.mp hkept).2
      rw [Bool.not_eq_true', beq_eq_false_iff_ne] at hne
      exact hne rfl
  · rw [hfind] at hnone
    split at hnone
    · rename_i hg
      subst hg
      cases hb.symm.trans hb'
      refine ⟨fun hboot => ?_, fun q hq hboot => ?_⟩
      · rw [hnew.group g', hfind, if_pos rfl] at hboot
        cases hboot
      · obtain ⟨g₁, b₁, hb₁, hrec⟩ := (hnew.player q).mp hboot
        rw [hfind] at hb₁
        split at hb₁
        · cases hb₁
        · rename_i hne
          exact hne (h.same_group (h.member g₁ b₁ hb₁ q hrec) (h.member g' b hb q hq))
    · rw [hb'] at hnone
      cases hnone

theorem Booting.vote_settled {accept victimInWorld disbands : Bool} (h : s.Booting)
    (hok : s.Decides g p accept victimInWorld) :
    s.Settled (.vote g p accept victimInWorld disbands)
      (s.updateBoot g p accept victimInWorld disbands) := by
  have hsame : s.Undecided (.vote g p accept victimInWorld disbands) s :=
    .of_eq rfl (fun _ => rfl) fun _ hmem => hmem
  unfold updateBoot
  cases hb : s.boots.find? g with
  | none =>
    refine hsame.settled ?_
    rintro g' ⟨rfl, b, hb', _⟩
    rw [hb] at hb'
    cases hb'
  | some b =>
    have hpending : ∀ a, b.votes.find? p = some a → a ≠ .PENDING → ∀ g',
        ¬ s.Passes g' (.vote g p accept victimInWorld disbands) := by
      rintro a ha hne g' ⟨rfl, b', hb', hp, _⟩
      cases hb.symm.trans hb'
      cases ha.symm.trans hp
      exact hne rfl
    dsimp only
    cases hp : b.votes.find? p with
    | none =>
      have hrec := (hok b (hb ▸ rfl)).1
      rw [LfgPlayerBoot.recorded, hp] at hrec
      cases hrec
    | some a =>
      cases a with
      | DENY => exact hsame.settled (hpending .DENY hp nofun)
      | AGREE => exact hsame.settled (hpending .AGREE hp nofun)
      | PENDING =>
        dsimp only
        by_cases hover : (b.answer p accept).isOver = true
        · rw [if_pos hover]
          exact h.endBoot_settled hb hp hover hok
        · rw [if_neg hover]
          refine Undecided.settled ⟨fun g' b' hb' => ?_, fun _ => Nat.le_refl _,
            fun _ _ _ _ hq _ => hq⟩ ?_
          · simp only [setBoot, OrdMap.find?_set]
            split
            · exact Option.some_ne_none _
            · rw [hb']
              exact Option.some_ne_none b'
          · rintro g' ⟨rfl, b', hb', _, hneeded⟩
            cases hb.symm.trans hb'
            refine hover ?_
            simp [LfgPlayerBoot.isOver, ((h.isOpen g b hb).passed hp).mpr hneeded]

theorem Booting.settled {e : LfgEvent} (h : s.Booting) (hok : s.Admits e) :
    s.Settled e (s.step e) := by
  cases e with
  | uninvite g kicker victim reason online now =>
    exact uninvite_undecided.settled fun _ hpass => hpass.elim
  | vote g p accept victimInWorld disbands => exact h.vote_settled hok
  | join g p online => exact join_undecided.settled fun _ hpass => hpass.elim
  | leave g p online disbands =>
    exact (leave_undecided h hok).settled fun _ hpass => hpass.elim
  | logout p =>
    refine Undecided.settled (.of_eq rfl (fun _ => rfl) fun _ hmem => hmem) ?_
    exact fun _ hpass => hpass.elim
  | update now =>
    refine Undecided.settled ⟨fun g b hb => ?_, fun _ => Nat.le_refl _, fun _ _ _ _ hq _ => hq⟩
      fun _ hpass => hpass.elim
    have hkept : (s.update now).boots.find? g = some b := by
      refine OrdMap.find?_filter.mpr ⟨hb, ?_⟩
      simpa using hok (g, b) (OrdMap.find?_eq_some.mp hb)
    rw [LfgBootMgr.step, hkept]
    exact Option.some_ne_none b

structure Quiet (s : LfgBootMgr) : Prop where
  distinct : (s.slots.map (fun e => e.1)).Nodup
  small : ∀ g, (s.members g).length ≤ MAXRAIDSIZE
  needed : ∀ g, (s.groups g).votesNeeded = LFG_GROUP_KICK_VOTES_NEEDED
  kicks : ∀ g, (s.groups g).kicksLeft ≤ LFG_GROUP_MAX_KICKS
  group : ∀ g, (s.groups g).states.state ≠ .BOOT
  player : ∀ p, (s.players p).state ≠ .BOOT
  boots : s.boots = ∅

theorem Quiet.booting (h : s.Quiet) : s.Booting where
  group := fun g => by simp [h.group g, h.boots]
  player := fun p => by simp [h.player p, h.boots]
  distinct := h.distinct
  small := h.small
  needed := h.needed
  kicks := h.kicks
  isOpen := fun g b hb => by simp [h.boots] at hb
  member := fun g b hb => by simp [h.boots] at hb
  left := fun g b hb => by simp [h.boots] at hb

theorem run_booting {s₀ : LfgBootMgr} {es : List LfgEvent} (h₀ : s₀.Quiet)
    (h : Run step Admits s₀ es s) : s.Booting :=
  h.invariant (fun _ _ hs hok => hs.step hok) h₀.booting

/-- In every state of an admitted run `BOOT` shows the votes in progress, and every event after it
settles votes as it should. -/
theorem run_settled {s₀ : LfgBootMgr} {es : List LfgEvent} (h₀ : s₀.Quiet)
    (h : Run step Admits s₀ es s) :
    s.Shown ∧ ∀ e, s.Admits e → s.Settled e (s.step e) :=
  ⟨(run_booting h₀ h).toShown, fun _ hok => (run_booting h₀ h).settled hok⟩

def sampleParty : LfgBootMgr := { slots := [(1, 9), (2, 9), (3, 9), (4, 9)] }

theorem sampleParty_quiet : sampleParty.Quiet where
  distinct := by decide
  small := fun g => by
    have hle : (sampleParty.members g).length ≤ 4 := by
      rw [members, List.length_map]
      exact List.length_filter_le _ _
    exact Nat.le_trans hle (by decide)
  needed := fun _ => rfl
  kicks := fun _ => Nat.le_refl _
  group := nofun
  player := nofun
  boots := rfl

theorem run_settled_kick : ∃ s, Run step Admits sampleParty
      [.uninvite 9 1 2 "idle" [1, 2, 3, 4] 100, .vote 9 3 true true false] s ∧
    s.Shown ∧ (s.players 3).state = .BOOT ∧
    s.Settled (.vote 9 4 true true false) (s.step (.vote 9 4 true true false)) ∧
    (s.step (.vote 9 4 true true false)).members 9 = [1, 3, 4] := by
  have hrun : Run step Admits sampleParty
      [.uninvite 9 1 2 "idle" [1, 2, 3, 4] 100, .vote 9 3 true true false] _ :=
    Admitted.run (by decide +kernel)
  refine ⟨_, hrun, (run_settled sampleParty_quiet hrun).1, by decide +kernel,
    (run_settled sampleParty_quiet hrun).2 _ (by decide +kernel), by decide +kernel⟩

/-- A vote that is not answered in time is dropped, and its group and its voters stay in `BOOT`. -/
theorem run_expired : ∃ s, Run step (fun _ _ => True) sampleParty
      [.uninvite 9 1 2 "idle" [1, 2, 3, 4] 100, .update 221] s ∧
    s.boots.find? 9 = none ∧ (s.groups 9).states.state = .BOOT ∧
    (s.players 3).state = .BOOT ∧ ¬ s.Shown := by
  refine ⟨_, Run.free _, ?_⟩
  set s := [LfgEvent.uninvite 9 1 2 "idle" [1, 2, 3, 4] 100, .update 221].foldl step sampleParty
    with hs
  have hnone : (s.boots.find? 9).isNone = true := by decide +kernel
  have hboot : (s.groups 9).states.state = .BOOT := by decide +kernel
  refine ⟨Option.isNone_iff_eq_none.mp hnone, hboot, by decide +kernel, fun h => ?_⟩
  have hsome := (h.group 9).mp hboot
  rw [Option.isNone_iff_eq_none.mp hnone] at hsome
  cases hsome

end LfgBootMgr

end SkyfireBG
