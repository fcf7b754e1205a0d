import SkyfireBG.Battleground.Full

/-!
# SkyfireBG.Battleground.Rated

The two groups of a rated match, and what the start of the match leaves in the queue.

* `rated_match_pair` — in every run the groups are different, not invited, of full size, and of ratings
  that fit or else of those that waited; each is left in the list of its side with the ratings of the
  other.
-/

namespace SkyfireBG

/-- What a `GroupQueueInfo` holds for rated matches. -/
structure ArenaGroup where
  arenaTeamId : Nat
  arenaTeamRating : Nat
  opponentsTeamRating : Nat := 0
  opponentsMatchmakerRating : Nat := 0

structure ArenaQueue where
  queue : BattlegroundQueue
  arena : Nat → ArenaGroup

/-- `getMSTime`: the milliseconds since the start of the server, as far as they fit. -/
def getMSTime (now : Nat) : Nat := now % 2 ^ 32

/-- `getMSTime() - GetRatingDiscardTimer()`. -/
def ratingDiscardTime (now ratingDiscardTimer : Nat) : Nat :=
  (getMSTime now + 2 ^ 32 - ratingDiscardTimer) % 2 ^ 32

namespace BattlegroundQueue

variable (q : BattlegroundQueue)

def matchmakerRating (g : Nat) : Nat := match q.group g with
  | some info => info.arenaMatchmakerRating
  | none => 0

def ratedStart (u : QueueUpdate) : Option (Nat × Nat × Nat) :=
  if u.hasTemplate && u.isRated && u.isArena then
    match (q.ratingFor u).bind (q.ratedPair u), u.newBattleground with
    | some (ali, horde), some arena => some (ali, horde, arena)
    | _, _ => none
  else none

end BattlegroundQueue

namespace ArenaQueue

variable (q : ArenaQueue)

def setOpponents (g other : Nat) : ArenaQueue :=
  let ginfo := { q.arena g with
    opponentsTeamRating := (q.arena other).arenaTeamRating
    opponentsMatchmakerRating := q.queue.matchmakerRating other }
  { q with arena := Function.update q.arena g ginfo }

/-- `BattlegroundQueueUpdate`, with the ratings that the two groups of a rated match are given. -/
def battlegroundQueueUpdate (u : QueueUpdate) : ArenaQueue :=
  match q.queue.ratedStart u with
  | some (ali, horde, _) =>
    { (q.setOpponents ali horde).setOpponents horde ali with
      queue := q.queue.battlegroundQueueUpdate u }
  | none => { q with queue := q.queue.battlegroundQueueUpdate u }

end ArenaQueue

namespace BattlegroundQueue

variable {q : BattlegroundQueue} {g ali horde arena now timer : Nat} {b : BattlegroundBracketId}
  {u : QueueUpdate} {τ : Nat → Team} {info : GroupQueueInfo}

theorem firstMatch_fits {p : Nat → Bool} {n : Nat} {l : List Nat}
    (hfound : (q.firstMatch p n l).1 = some g) (hcount : (q.firstMatch p n l).2.playerCount ≠ 0) :
    p g = true ∧ q.isInvited g = false ∧ q.playersSize g ≤ n := by
  unfold firstMatch at hfound hcount
  cases hf : l.find? p with
  | none =>
    rw [hf] at hfound
    cases hfound
  | some x =>
    rw [hf] at hfound hcount
    cases hfound
    refine ⟨List.find?_some hf, ?_⟩
    by_cases hfits : (!q.isInvited g && decide (n ≥ 0 + q.playersSize g)) = true
    · simpa using hfits
    · have hsame : (q.addToPool {} g n).2 = {} := by
        unfold addToPool
        rw [if_neg hfits]
      rw [hsame] at hcount
      exact absurd rfl hcount

theorem ratingMatches_cases {minRating maxRating time : Nat} (hg : q.group g = some info)
    (h : q.ratingMatches minRating maxRating time g = true) :
    (minRating ≤ info.arenaMatchmakerRating ∧ info.arenaMatchmakerRating ≤ maxRating) ∨
      info.joinTime < time := by
  rw [ratingMatches, hg] at h
  simp only [Bool.and_eq_true, Bool.or_eq_true, decide_eq_true_eq] at h
  exact h.2

theorem ratedPair_fits {rating : Nat} (h : q.ratedPair u rating = some (ali, horde))
    (hg : g ∈ [ali, horde]) :
    q.ratingMatches (if rating ≤ u.maxRatingDifference then 0 else rating - u.maxRatingDifference)
      ((rating + u.maxRatingDifference) % 2 ^ 32) u.discardTime g = true ∧
    q.isInvited g = false ∧ q.playersSize g ≤ u.maxPlayers := by
  unfold ratedPair at h
  dsimp only at h
  generalize q.ratingMatches _ _ u.discardTime = p at h ⊢
  generalize ha : q.firstMatch p u.maxPlayers (q.queuedGroups u.bracket BG_QUEUE_PREMADE_ALLIANCE)
    = a at h
  generalize hh : q.firstMatch p u.maxPlayers (q.queuedGroups u.bracket BG_QUEUE_PREMADE_HORDE)
    = hd at h
  have hfirst : ∃ l, (if a.2.playerCount = 0 ∧ hd.2.playerCount ≠ 0 then
      q.firstMatch p u.maxPlayers ((hd.1.bind (after · (q.queuedGroups u.bracket
        BG_QUEUE_PREMADE_HORDE))).getD []) else a) = q.firstMatch p u.maxPlayers l := by
    split_ifs
    · exact ⟨_, rfl⟩
    · exact ⟨_, ha.symm⟩
  obtain ⟨l, hl⟩ := hfirst
  rw [hl] at h
  have hsecond : ∃ l', (if hd.2.playerCount = 0 ∧
      (q.firstMatch p u.maxPlayers l).2.playerCount ≠ 0 then
      q.firstMatch p u.maxPlayers (((q.firstMatch p u.maxPlayers l).1.bind (after ·
        (q.queuedGroups u.bracket BG_QUEUE_PREMADE_ALLIANCE))).getD []) else hd) =
      q.firstMatch p u.maxPlayers l' := by
    split_ifs
    · exact ⟨_, rfl⟩
    · exact ⟨_, hh.symm⟩
  obtain ⟨l', hl'⟩ := hsecond
  rw [hl'] at h
  by_cases hboth : (q.firstMatch p u.maxPlayers l).2.playerCount ≠ 0 ∧
      (q.firstMatch p u.maxPlayers l').2.playerCount ≠ 0
  · rw [if_pos hboth] at h
    cases hx : (q.firstMatch p u.maxPlayers l).1 with
    | none =>
      rw [hx] at h
      cases h
    | some x =>
      cases hy : (q.firstMatch p u.maxPlayers l').1 with
      | none =>
        rw [hx, hy] at h
        cases h
      | some y =>
        rw [hx, hy] at h
        cases h
        rcases List.mem_cons.mp hg with rfl | hg
        · exact firstMatch_fits hx hboth.1
        · exact List.mem_singleton.mp hg ▸ firstMatch_fits hy hboth.2
  · rw [if_neg hboth] at h
    cases h

theorem waited_of_lt_discardTime {joined : Nat} (htimer : timer ≤ getMSTime now)
    (hjoined : joined ≤ now) (h : getMSTime joined < ratingDiscardTime now timer) :
    timer < now - joined := by
  unfold ratingDiscardTime at h
  unfold getMSTime at h htimer
  omega

theorem mem_moveTo {t : Team} (h : q.Listed τ) (hτ : q.teamOf g = τ g)
    (hg : g ∈ q.queuedGroups b t.premade ∨ g ∈ q.queuedGroups b t.other.premade) :
    g ∈ (q.moveTo b t g).queuedGroups b t.premade := by
  obtain ⟨info, hinfo⟩ := hg.elim (h.live b _ g) (h.live b _ g)
  have hteam : info.team = τ g := (teamOf_some hinfo).symm.trans hτ
  unfold moveTo
  rw [hinfo]
  by_cases hne : info.team = t
  · simp only [hne, Option.any_some, bne_self_eq_false, Bool.false_eq_true, if_false]
    refine hg.resolve_right fun hin => ?_
    have hother := h.side b _ g hin
    rw [premade_team, ← hteam, hne] at hother
    cases t <;> cases hother
  · simp only [Option.any_some, bne_iff_ne, hne, ne_eq, not_false_eq_true, if_true]
    have hmem : g ∈ q.queuedGroups b t.other.premade := by
      refine hg.resolve_left fun hin => hne ?_
      rw [hteam, ← h.side b _ g hin, premade_team]
    exact (h.mem_moveGroup hmem (other_premade_ne t)).mpr (.inl ⟨rfl, rfl, rfl⟩)

theorem ratedStart_cases (h : q.ratedStart u = some (ali, horde, arena)) :
    u.isArena = true ∧ u.newBattleground = some arena ∧
      (∃ rating, q.ratingFor u = some rating ∧ q.ratedPair u rating = some (ali, horde)) ∧
      u.hasTemplate = true ∧ u.isRated = true := by
  unfold ratedStart at h
  by_cases hwhen : (u.hasTemplate && u.isRated && u.isArena) = true
  · rw [if_pos hwhen] at h
    simp only [Bool.and_eq_true] at hwhen
    cases hpair : (q.ratingFor u).bind (q.ratedPair u) with
    | none =>
      rw [hpair] at h
      cases h
    | some pair =>
      cases hnew : u.newBattleground with
      | none =>
        rw [hpair, hnew] at h
        cases h
      | some bg =>
        rw [hpair, hnew] at h
        cases h
        exact ⟨hwhen.2, rfl, Option.bind_eq_some_iff.mp hpair, hwhen.1.1, hwhen.1.2⟩
  · rw [if_neg hwhen] at h
    cases h

theorem update_of_ratedStart (hplaced : q.Placed)
    (h : q.ratedStart u = some (ali, horde, arena)) : q.battlegroundQueueUpdate u =
      (((q.moveTo u.bracket .alliance ali).moveTo u.bracket .horde horde).inviteGroupToBG ali arena
        (some .alliance)).inviteGroupToBG horde arena (some .horde) := by
  obtain ⟨harena, hnew, ⟨rating, hrating, hpair⟩, htemplate, hrated⟩ := ratedStart_cases h
  obtain ⟨-, hmem⟩ := Listed.ratedPair hplaced hpair
  have hsome : (List.finRange BG_QUEUE_GROUP_TYPES_COUNT).all
      (fun i => (q.queuedGroups u.bracket i).isEmpty) = false := by
    refine Bool.eq_false_iff.mpr fun hall => ?_
    have hnil : ∀ i, q.queuedGroups u.bracket i = [] := fun i =>
      List.isEmpty_iff.mp (List.all_eq_true.mp hall i (List.mem_finRange i))
    rcases hmem ali List.mem_cons_self .alliance with hin | hin
    all_goals
      rw [hnil] at hin
      cases hin
  unfold battlegroundQueueUpdate
  rw [hsome]
  simp only [Bool.false_eq_true, if_false, htemplate, Bool.not_true, premadeUpdate, harena, if_true,
    hrated]
  unfold ratedUpdate
  rw [fillFreeSlots, if_pos harena, hrating, Option.bind_some, hpair, hnew]

end BattlegroundQueue

open BattlegroundQueue

structure StartedFor (q q' : ArenaQueue) (b : BattlegroundBracketId) (arena : Nat) (t : Team)
    (g other : Nat) : Prop where
  listed : g ∈ q'.queue.queuedGroups b t.premade
  invited : ∃ info, q'.queue.group g = some info ∧ info.team = t ∧
    info.isInvitedToBGInstanceGUID = arena
  teamRating : (q'.arena g).opponentsTeamRating = (q.arena other).arenaTeamRating
  matchmakerRating : (q'.arena g).opponentsMatchmakerRating = q.queue.matchmakerRating other

theorem queuedGroups_invite (q : BattlegroundQueue) (g bg : Nat) (side : Option Team) :
    (q.inviteGroupToBG g bg side).queuedGroups = q.queuedGroups := by
  unfold inviteGroupToBG
  cases q.group g <;> rfl

theorem startedFor_update {q : ArenaQueue} {u : QueueUpdate} {ali horde arena : Nat}
    (hplaced : q.queue.Placed)
    (h : q.queue.ratedStart u = some (ali, horde, arena)) : ali ≠ horde ∧
      StartedFor q (q.battlegroundQueueUpdate u) u.bracket arena .alliance ali horde ∧
      StartedFor q (q.battlegroundQueueUpdate u) u.bracket arena .horde horde ali := by
  obtain ⟨-, -, ⟨rating, -, hpair⟩, -, -⟩ := ratedStart_cases h
  obtain ⟨hne, hmem⟩ := Listed.ratedPair hplaced hpair
  have hali := hmem ali List.mem_cons_self .alliance
  have hhorde := hmem horde (by simp) .horde
  obtain ⟨hlisted, hgroup, hkept⟩ := Listed.moveTo hplaced rfl hali
  have hτ : (q.queue.moveTo u.bracket .alliance ali).teamOf horde =
      Function.update q.queue.teamOf ali .alliance horde := by
    rw [Function.update_of_ne hne.symm]
    simp only [teamOf, hgroup]
  have hhorde' := hhorde.imp (hkept horde _ hne.symm) (hkept horde _ hne.symm)
  obtain ⟨-, hgroup', hkept'⟩ := Listed.moveTo hlisted hτ hhorde'
  have hqueue : (q.battlegroundQueueUpdate u).queue = q.queue.battlegroundQueueUpdate u := by
    rw [ArenaQueue.battlegroundQueueUpdate, h]
  rw [update_of_ratedStart hplaced h] at hqueue
  have harena : (q.battlegroundQueueUpdate u).arena =
      ((q.setOpponents ali horde).setOpponents horde ali).arena := by
    rw [ArenaQueue.battlegroundQueueUpdate, h]
  have hfree : ∀ g ∈ [ali, horde], ∃ info, q.queue.group g = some info ∧
      info.isInvitedToBGInstanceGUID = 0 := fun g hg => by
    obtain ⟨info, hinfo⟩ := (hmem g hg .alliance).elim (hplaced.live _ _ g)
      (hplaced.live _ _ g)
    have hnot := (ratedPair_fits hpair hg).2.1
    rw [isInvited, hinfo] at hnot
    exact ⟨info, hinfo, by simpa using hnot⟩
  obtain ⟨ia, hia, hia0⟩ := hfree ali List.mem_cons_self
  obtain ⟨ih, hih, hih0⟩ := hfree horde (by simp)
  refine ⟨hne, ⟨?_, ⟨ia.invite arena (some .alliance), ?_, rfl, if_pos hia0⟩, ?_, ?_⟩,
    ⟨?_, ⟨ih.invite arena (some .horde), ?_, rfl, if_pos hih0⟩, ?_, ?_⟩⟩
  · rw [hqueue, queuedGroups_invite, queuedGroups_invite]
    exact hkept' ali _ hne (mem_moveTo hplaced rfl hali)
  · rw [hqueue, group_invite, if_neg hne, group_invite, if_pos rfl, hgroup', hgroup, hia]
    rfl
  · rw [harena, ArenaQueue.setOpponents]
    dsimp only
    rw [Function.update_of_ne hne, ArenaQueue.setOpponents]
    dsimp only
    rw [Function.update_self]
  · rw [harena, ArenaQueue.setOpponents]
    dsimp only
    rw [Function.update_of_ne hne, ArenaQueue.setOpponents]
    dsimp only
    rw [Function.update_self]
  · rw [hqueue, queuedGroups_invite, queuedGroups_invite]
    exact mem_moveTo hlisted hτ hhorde'
  · rw [hqueue, group_invite, if_pos rfl, group_invite, if_neg hne.symm, hgroup', hgroup, hih]
    rfl
  · rw [harena, ArenaQueue.setOpponents]
    dsimp only
    rw [Function.update_self, ArenaQueue.setOpponents]
    dsimp only
    rw [Function.update_self]
  · rw [harena, ArenaQueue.setOpponents]
    dsimp only
    rw [Function.update_self]
    rfl

/-- Whenever an update starts a rated match, after any run of the queue of its arena type, of groups
that joined in the past: the groups of the match differ, were not invited and are of full size; the
rating of each is near the one looked for, or it has waited longer than the timer if the clock is not
below the timer; and each is left in the list of its side, of its team, with the ratings of the other.
Two groups of one arena team can meet. -/
theorem rated_match_pair {q : ArenaQueue} {u : QueueUpdate} {now timer ali horde arena : Nat}
    {es : List QueueEvent} {joined : Nat → Nat}
    (hrun : Run BattlegroundQueue.step (BattlegroundQueue.JoinsArena u.arenaType) {} es q.queue)
    (hjoined : ∀ g info, q.queue.group g = some info →
      info.joinTime = getMSTime (joined g) ∧ joined g ≤ now)
    (hnow : u.discardTime = ratingDiscardTime now timer)
    (hstart : q.queue.ratedStart u = some (ali, horde, arena)) :
    ali ≠ horde ∧
    (∃ rating, q.queue.ratingFor u = some rating ∧ ∀ g ∈ [ali, horde],
      q.queue.isInvited g = false ∧ q.queue.playersSize g = u.arenaType ∧
      (rating ≤ q.queue.matchmakerRating g + u.maxRatingDifference ∧
          q.queue.matchmakerRating g ≤ rating + u.maxRatingDifference ∨
        (timer ≤ getMSTime now → timer < now - joined g))) ∧
    StartedFor q (q.battlegroundQueueUpdate u) u.bracket arena .alliance ali horde ∧
    StartedFor q (q.battlegroundQueueUpdate u) u.bracket arena .horde horde ali := by
  obtain ⟨hplaced, hfull⟩ := arena_full hrun
  obtain ⟨hne, hali, hhorde⟩ := startedFor_update hplaced hstart
  obtain ⟨-, -, ⟨rating, hrating, hpair⟩, -, -⟩ := ratedStart_cases hstart
  refine ⟨hne, ⟨rating, hrating, fun g hg => ?_⟩, hali, hhorde⟩
  obtain ⟨hmatch, hfree, -⟩ := ratedPair_fits hpair hg
  have hin := (Listed.ratedPair hplaced hpair).2 g hg .alliance
  obtain ⟨info, hinfo⟩ := hin.elim (hplaced.live _ _ g) (hplaced.live _ _ g)
  have hsize : q.queue.playersSize g = u.arenaType := by
    have hnot := hfree
    rw [isInvited, hinfo] at hnot
    rw [playersSize, hinfo]
    exact (hfull g info hinfo).2 (Option.some_ne_none g) (by simpa using hnot)
  refine ⟨hfree, hsize, ?_⟩
  obtain ⟨htime, hpast⟩ := hjoined g info hinfo
  have hmmr : q.queue.matchmakerRating g = info.arenaMatchmakerRating := by
    rw [matchmakerRating, hinfo]
  rw [hmmr]
  rcases ratingMatches_cases hinfo hmatch with ⟨hmin, hmax⟩ | hlate
  · refine .inl ⟨?_, hmax.trans (Nat.mod_le _ _)⟩
    split_ifs at hmin <;> omega
  · rw [htime, hnow] at hlate
    exact .inr fun htimer => waited_of_lt_discardTime htimer hpast hlate

def pairQueue : ArenaQueue where
  queue := (({} : BattlegroundQueue).addGroup 1 .alliance (some [1, 2]) 3 true false 1000
    1500).addGroup 3 .alliance (some [3, 4]) 3 true false 2000 1520
  arena _ := { arenaTeamId := 5, arenaTeamRating := 1500 }

def pairUpdate : QueueUpdate :=
  { bracket := 3, freeSlotQueue := [], isArena := true, arenaType := 2, isRated := true,
    minPlayersPerTeam := 2, maxPlayersPerTeam := 2, maxRatingDifference := 150,
    discardTime := 100000, newBattleground := some 9 }

theorem rated_match_pair_two : StartedFor pairQueue
    (pairQueue.battlegroundQueueUpdate pairUpdate) 3 9 .horde 1 0 := by
  have hrun : Run BattlegroundQueue.step (BattlegroundQueue.JoinsArena pairUpdate.arenaType) {}
      [.addGroup 1 .alliance (some [1, 2]) 3 true false 1000 1500,
       .addGroup 3 .alliance (some [3, 4]) 3 true false 2000 1520] pairQueue.queue :=
    Admitted.run (by decide +kernel)
  have htimes : (pairQueue.queue.group 0).map (·.joinTime) = some 1000 ∧
      (pairQueue.queue.group 1).map (·.joinTime) = some 2000 := by decide +kernel
  have hjoined : ∀ g info, pairQueue.queue.group g = some info →
      info.joinTime = getMSTime info.joinTime ∧ info.joinTime ≤ 700000 := by
    intro g info hinfo
    by_cases h1 : g = 1
    · subst h1
      have ht := htimes.2
      rw [hinfo, Option.map_some, Option.some.injEq] at ht
      rw [ht]
      decide
    · by_cases h0 : g = 0
      · subst h0
        have ht := htimes.1
        rw [hinfo, Option.map_some, Option.some.injEq] at ht
        rw [ht]
        decide
      · have hnone : pairQueue.queue.group g = none := (if_neg h1).trans (if_neg h0)
        rw [hnone] at hinfo
        cases hinfo
  have hstart : pairQueue.queue.ratedStart pairUpdate = some (0, 1, 9) := by
    decide +kernel
  have hall := @rated_match_pair pairQueue pairUpdate 700000 600000 0 1 9 _
    (fun g => ((pairQueue.queue.group g).map (·.joinTime)).getD 0) hrun
    (fun g info h => by
      rw [h, Option.map_some, Option.getD_some]
      exact hjoined g info h)
    (show pairUpdate.discardTime = ratingDiscardTime 700000 600000 by decide) hstart
  exact hall.2.2.2

/-- The two pairs meet, though they are of one arena team. -/
theorem rated_match_same_team :
    ¬ ∀ ali horde arena,
      pairQueue.queue.ratedStart pairUpdate = some (ali, horde, arena) →
      (pairQueue.arena ali).arenaTeamId ≠ (pairQueue.arena horde).arenaTeamId := by
  intro h
  exact h 0 1 9 (by decide +kernel) rfl

end SkyfireBG
