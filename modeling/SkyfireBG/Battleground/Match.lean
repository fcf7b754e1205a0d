import SkyfireBG.Battleground.Filled
import SkyfireBG.Battleground.Placed

/-!
# SkyfireBG.Battleground.Match

`CheckNormalMatch` and `CheckSkirmishForSameFaction`: the pools of a match.

* `match_selected` — who plays, and for a skirmish who changes sides.
-/

namespace SkyfireBG

namespace BattlegroundQueue

variable {q : BattlegroundQueue} {g free minPlayers maxPlayers : Nat} {l rest : List Nat}
  {pool : SelectionPool} {u : QueueUpdate} {b : BattlegroundBracketId} {t : Team}

theorem Picked.addToPool (h : q.Picked l free (pool, g :: rest)) {desired : Nat}
    (hdesired : desired ≤ free) : q.Picked l free ((q.addToPool pool g desired).2, rest) := by
  by_cases hfit : q.isInvited g = false ∧ pool.playerCount + q.playersSize g ≤ desired
  · rw [addToPool_fits hfit.1 hfit.2]
    exact h.add hfit.1 (hfit.2.trans hdesired)
  · rw [addToPool_refused hfit]
    exact h.skip

theorem Picked.addUntil (h : q.Picked l free (pool, rest)) (hmax : maxPlayers ≤ free) :
    q.Picked l free (q.addUntil minPlayers maxPlayers pool rest) := by
  induction rest generalizing pool with
  | nil => exact h
  | cons g rest ih =>
    rw [BattlegroundQueue.addUntil]
    split
    · exact ih h.skip
    · split
      · exact h.addToPool hmax
      · exact ih (h.addToPool hmax)

theorem Picked.addUninvited (h : q.Picked l free (pool, rest)) {desired : Nat}
    (hdesired : desired ≤ free) :
    ∃ rest', q.Picked l free (q.addUninvited desired pool rest, rest') := by
  induction rest generalizing pool with
  | nil => exact ⟨[], h⟩
  | cons g rest ih =>
    rw [BattlegroundQueue.addUninvited]
    split
    · exact ih h.skip
    · split
      · exact ih (h.addToPool hdesired)
      · exact ⟨rest, h.addToPool hdesired⟩

structure Distinct (q : BattlegroundQueue) (b : BattlegroundBracketId) : Prop where
  nodup : (q.queuedGroups b BG_QUEUE_NORMAL_ALLIANCE ++
    q.queuedGroups b BG_QUEUE_NORMAL_HORDE).Nodup
  live : ∀ i g, g ∈ q.queuedGroups b i → ∃ info, q.group g = some info

theorem Placed.distinct (h : q.Placed) (b : BattlegroundBracketId) : q.Distinct b := by
  refine ⟨List.nodup_append.mpr ⟨h.nodup _ _, h.nodup _ _, ?_⟩, fun i => h.live b i⟩
  rintro x hx y hy rfl
  have := (h.once _ _ _ _ x hx hy).2
  exact absurd this (by decide)

/-- The pools `CheckNormalMatch` leaves. -/
def normalPools (q : BattlegroundQueue) (u : QueueUpdate) : SelectionPool × SelectionPool :=
  (q.checkNormalMatch u).2

theorem verdict_pools {c d : Prop} [Decidable c] [Decidable d] (verdict : Bool)
    (pools : SelectionPool × SelectionPool) :
    (if c then (false, pools) else if d then (true, pools) else (verdict, pools)).2 = pools := by
  split
  · rfl
  · split <;> rfl

theorem verdict_true {c d : Prop} [Decidable c] [Decidable d] {verdict : Bool}
    {pools : SelectionPool × SelectionPool} (hd : ¬ d)
    (h : (if c then (false, pools) else if d then (true, pools) else (verdict, pools)).1 = true) :
    ¬ c ∧ verdict = true := by
  by_cases hc : c
  · rw [if_pos hc] at h
    cases h
  · rw [if_neg hc, if_neg hd] at h
    exact ⟨hc, h⟩

theorem checkNormalMatch_cases (q : BattlegroundQueue) (u : QueueUpdate) :
    ∃ ali horde : SelectionPool × List Nat,
      q.Picked (q.queuedGroups u.bracket BG_QUEUE_NORMAL_ALLIANCE) u.maxPlayers ali ∧
      q.Picked (q.queuedGroups u.bracket BG_QUEUE_NORMAL_HORDE) u.maxPlayers horde ∧
      ∃ more : Prop, (more ↔ u.invitationType ≠ 0 ∧ u.minPlayers ≤ horde.1.playerCount ∧
          u.minPlayers ≤ ali.1.playerCount) ∧
        (¬ more → q.normalPools u = (ali.1, horde.1)) ∧
        (more → horde.1.playerCount < ali.1.playerCount → q.normalPools u =
          (ali.1, q.addUninvited ali.1.playerCount horde.1 horde.2)) ∧
        (more → ¬ horde.1.playerCount < ali.1.playerCount → q.normalPools u =
          (q.addUninvited horde.1.playerCount ali.1 ali.2, horde.1)) ∧
        (u.isTesting = false → (q.checkNormalMatch u).1 = true →
          u.minPlayers ≤ (q.normalPools u).1.playerCount ∧
          u.minPlayers ≤ (q.normalPools u).2.playerCount ∧
          (more → (((q.normalPools u).2.playerCount : Int) -
            (q.normalPools u).1.playerCount).natAbs ≤ 2)) := by
  refine ⟨q.addUntil u.minPlayers u.maxPlayers {}
      (q.queuedGroups u.bracket BG_QUEUE_NORMAL_ALLIANCE),
    q.addUntil u.minPlayers u.maxPlayers {} (q.queuedGroups u.bracket BG_QUEUE_NORMAL_HORDE),
    Picked.start.addUntil (Nat.le_refl _), Picked.start.addUntil (Nat.le_refl _), ?_⟩
  unfold normalPools checkNormalMatch
  simp only
  generalize q.addUntil u.minPlayers u.maxPlayers {}
    (q.queuedGroups u.bracket BG_QUEUE_NORMAL_ALLIANCE) = ali
  generalize q.addUntil u.minPlayers u.maxPlayers {}
    (q.queuedGroups u.bracket BG_QUEUE_NORMAL_HORDE) = horde
  refine ⟨_, Iff.rfl, ?_, ?_, ?_, ?_⟩
  · intro hmore
    rw [verdict_pools, if_neg fun h => hmore h.1, if_neg fun h => hmore h.1]
  · intro hmore hless
    rw [verdict_pools, if_neg fun h => h.2 hless, if_pos ⟨hmore, hless⟩]
  · intro hmore hless
    rw [verdict_pools, if_pos ⟨hmore, hless⟩, if_neg fun h => hless h.2]
  · intro htest h
    obtain ⟨hdiff, henough⟩ := verdict_true (by simp [htest]) h
    rw [verdict_pools]
    rw [Bool.and_eq_true, decide_eq_true_eq, decide_eq_true_eq] at henough
    refine ⟨henough.1, henough.2, fun hmore => ?_⟩
    by_contra hlt
    exact hdiff ⟨hmore, Nat.lt_of_not_le hlt⟩

theorem normalPools_picked (q : BattlegroundQueue) (u : QueueUpdate) :
    (∃ rest, q.Picked (q.queuedGroups u.bracket BG_QUEUE_NORMAL_ALLIANCE) u.maxPlayers
      ((q.normalPools u).1, rest)) ∧
    ∃ rest, q.Picked (q.queuedGroups u.bracket BG_QUEUE_NORMAL_HORDE) u.maxPlayers
      ((q.normalPools u).2, rest) := by
  obtain ⟨ali, horde, hali, hhorde, more, -, hnone, hless, hmore, -⟩ := checkNormalMatch_cases q u
  by_cases h : more
  · by_cases hlt : horde.1.playerCount < ali.1.playerCount
    · rw [hless h hlt]
      exact ⟨⟨_, hali⟩, hhorde.addUninvited hali.count_le⟩
    · rw [hmore h hlt]
      exact ⟨hali.addUninvited hhorde.count_le, ⟨_, hhorde⟩⟩
  · rw [hnone h]
    exact ⟨⟨_, hali⟩, ⟨_, hhorde⟩⟩

theorem checkNormalMatch_true (htest : u.isTesting = false)
    (h : (q.checkNormalMatch u).1 = true) :
    u.minPlayers ≤ (q.normalPools u).1.playerCount ∧
    u.minPlayers ≤ (q.normalPools u).2.playerCount ∧
    (u.invitationType ≠ 0 → (((q.normalPools u).1.playerCount : Int) -
      (q.normalPools u).2.playerCount).natAbs ≤ 2) := by
  obtain ⟨ali, horde, -, -, more, hmore, hnone, -, -, htrue⟩ := checkNormalMatch_cases q u
  obtain ⟨hali, hhorde, hdiff⟩ := htrue htest h
  refine ⟨hali, hhorde, fun htype => ?_⟩
  have hm : more := by
    by_contra hm
    rw [hnone hm] at hali hhorde
    exact hm (hmore.mpr ⟨htype, hhorde, hali⟩)
  have := hdiff hm
  omega

/-! ## Skirmishes -/

theorem after_split (h : after g l = some rest) : ∃ before, l = before ++ g :: rest := by
  induction l with
  | nil => cases h
  | cons x l ih =>
    rw [after] at h
    by_cases hx : x = g
    · rw [if_pos hx, Option.some.injEq] at h
      exact ⟨[], by rw [hx, h, List.nil_append]⟩
    · rw [if_neg hx] at h
      obtain ⟨before, hl⟩ := ih h
      exact ⟨x :: before, by rw [hl, List.cons_append]⟩

theorem disjoint_after {picked : List Nat} (hl : l.Nodup) (hsub : picked.Sublist l)
    (hlast : picked.getLast? = some g) (h : after g l = some rest) :
    ∀ x ∈ picked, x ∉ rest := by
  obtain ⟨before, rfl⟩ := after_split h
  obtain ⟨hbefore, hafter, hdisj⟩ := List.nodup_append.mp hl
  have hg : g ∉ rest := (List.nodup_cons.mp hafter).1
  obtain ⟨a, b, rfl, ha, hb⟩ := List.sublist_append_iff.mp hsub
  intro x hx hrest
  rcases List.mem_append.mp hx with hx | hx
  · exact hdisj x (ha.subset hx) x (List.mem_cons_of_mem _ hrest) rfl
  · rcases List.eq_nil_or_concat b with rfl | ⟨b', y, rfl⟩
    · cases hx
    · have hy : y = g := by simpa using hlast
      subst hy
      rw [List.concat_eq_append] at hb hx
      rcases List.mem_append.mp hx with hx | hx
      · rcases List.sublist_cons_iff.mp hb with hb | ⟨r, hr, hsub⟩
        · exact hg (hb.subset (by simp))
        · cases b' with
          | nil => cases hx
          | cons z b' =>
            obtain ⟨rfl, rfl⟩ := List.cons.inj hr
            exact hg (hsub.subset (by simp))
      · rw [List.mem_singleton.mp hx] at hrest
        exact hg hrest

theorem changeSide_moves {info : GroupQueueInfo} (hg : q.group g = some info) :
    (∀ x, (q.changeSide b t g).group x =
      if x = g then some { info with team := t.other } else q.group x) ∧
    (q.changeSide b t g).queuedGroups b t.normal = (q.queuedGroups b t.normal).erase g ∧
    (q.changeSide b t g).queuedGroups b t.other.normal = g :: q.queuedGroups b t.other.normal ∧
    ∀ b' i, ¬ (b' = b ∧ (i = t.normal ∨ i = t.other.normal)) →
      (q.changeSide b t g).queuedGroups b' i = q.queuedGroups b' i := by
  have hne := normal_ne_other t
  rw [changeSide_eq hg]
  refine ⟨fun x => rfl, ?_, ?_, fun b' i hi => ?_⟩
  · rw [moveGroup_lists hne, if_pos ⟨rfl, rfl⟩]
    rfl
  · rw [moveGroup_lists hne, if_neg fun h => hne h.2.symm, if_pos ⟨rfl, rfl⟩]
    rfl
  · rw [moveGroup_lists hne, if_neg fun h => hi ⟨h.1, .inl h.2⟩, if_neg fun h => hi ⟨h.1, .inr h.2⟩]
    rfl

structure Moved (b : BattlegroundBracketId) (t : Team) (moved : List Nat)
    (q q' : BattlegroundQueue) : Prop where
  group : ∀ g, q'.group g =
    if g ∈ moved then (q.group g).map fun info => { info with team := t.other } else q.group g
  own : q'.queuedGroups b t.normal = (q.queuedGroups b t.normal).filter (· ∉ moved)
  other : q'.queuedGroups b t.other.normal = moved.reverse ++ q.queuedGroups b t.other.normal
  rest : ∀ b' i, ¬ (b' = b ∧ (i = t.normal ∨ i = t.other.normal)) →
    q'.queuedGroups b' i = q.queuedGroups b' i
  /-- None of them is lost or there twice. -/
  perm : (q'.queuedGroups b t.normal ++ q'.queuedGroups b t.other.normal).Perm
    (q.queuedGroups b t.normal ++ q.queuedGroups b t.other.normal)

theorem changeSides_moved {moved : List Nat} (hmoved : moved.Nodup)
    (hl : (q.queuedGroups b t.normal).Nodup)
    (hmem : ∀ g ∈ moved, g ∈ q.queuedGroups b t.normal)
    (hlive : ∀ g ∈ moved, ∃ info, q.group g = some info) :
    Moved b t moved q (moved.foldl (fun q g => q.changeSide b t g) q) := by
  induction moved generalizing q with
  | nil => exact ⟨by simp, by simp, rfl, fun _ _ _ => rfl, .refl _⟩
  | cons g moved ih =>
    obtain ⟨info, hinfo⟩ := hlive g (by simp)
    obtain ⟨hgroup, hown, hother, hrest⟩ := changeSide_moves (b := b) (t := t) hinfo
    obtain ⟨hg, hmoved⟩ := List.nodup_cons.mp hmoved
    have hne : ∀ x ∈ moved, x ≠ g := by
      rintro x hx rfl
      exact hg hx
    rw [List.foldl_cons]
    have hnext := ih (q := q.changeSide b t g) hmoved (hown ▸ hl.erase g)
      (fun x hx => by
        rw [hown, hl.mem_erase_iff]
        exact ⟨hne x hx, hmem x (by simp [hx])⟩)
      (fun x hx => by
        rw [hgroup, if_neg (hne x hx)]
        exact hlive x (by simp [hx]))
    refine ⟨fun x => ?_, ?_, ?_, fun b' i hi => (hnext.rest b' i hi).trans (hrest b' i hi),
      hnext.perm.trans ?_⟩
    · rw [hnext.group, hgroup]
      by_cases hx : x = g
      · subst hx
        simp [hg, hinfo]
      · simp [hx]
    · rw [hnext.own, hown, hl.erase_eq_filter, List.filter_filter]
      congr 1
      funext x
      by_cases hx : x = g <;> simp [hx]
    · rw [hnext.other, hother]
      simp
    · rw [hown, hother]
      have hperm := List.perm_cons_erase (hmem g (by simp))
      exact (List.perm_middle).trans (hperm.symm.append_right _)

/-- A skirmish is between the groups of one team: the pool of that team and the one that is filled
from what follows it. -/
theorem checkSkirmish_some {pools : SelectionPool × SelectionPool} {own other : SelectionPool}
    {q' : BattlegroundQueue}
    (h : q.checkSkirmishForSameFaction u pools = some (own, other, q')) :
    (u.minPlayers ≤ pools.1.playerCount ∨ u.minPlayers ≤ pools.2.playerCount) ∧
    ∃ t ginfo rest,
      (t = .horde ∧ own = pools.2 ∧ pools.2.playerCount = u.minPlayers ∨
        t = .alliance ∧ own = pools.1 ∧ pools.2.playerCount ≠ u.minPlayers) ∧
      own.selectedGroups.getLast? = some ginfo ∧
      after ginfo (q.queuedGroups u.bracket t.normal) = some rest ∧
      other = q.addUninvited u.minPlayers {} rest ∧ other.playerCount = u.minPlayers ∧
      q' = other.selectedGroups.foldl (fun q g => q.changeSide u.bracket t g) q := by
  unfold checkSkirmishForSameFaction at h
  simp only at h
  split at h
  · cases h
  rename_i hmin
  refine ⟨by omega, ?_⟩
  generalize ht : (if pools.2.playerCount = u.minPlayers then Team.horde else .alliance) = t at h
  generalize hown : (if pools.2.playerCount = u.minPlayers then pools.2 else pools.1) = own' at h
  split at h
  · cases h
  rename_i ginfo hlast
  split at h
  · cases h
  rename_i rest hrest
  split at h
  · cases h
  rename_i hcount
  cases h
  refine ⟨t, ginfo, rest, ?_, hlast, hrest, rfl, by simpa using hcount, rfl⟩
  by_cases hc : pools.2.playerCount = u.minPlayers
  · rw [if_pos hc] at ht hown
    exact .inl ⟨ht.symm, hown.symm, hc⟩
  · rw [if_neg hc] at ht hown
    exact .inr ⟨ht.symm, hown.symm, hc⟩

/-- The pools of `CheckNormalMatch` are well chosen, and where it starts a match they are large enough
and about equal.  For a skirmish the second pool has exactly the players it needs, of the same team
as the first one, and its groups change sides; the first pool has at least as many unless that of the
alliance is used for want of one of the right size, and as many where every team has that size. -/
theorem match_selected (u : QueueUpdate) (hd : q.Distinct u.bracket) (htest : u.isTesting = false) :
    (q.WellChosen (q.queuedGroups u.bracket BG_QUEUE_NORMAL_ALLIANCE) u.maxPlayers
        (q.checkNormalMatch u).2.1 ∧
      q.WellChosen (q.queuedGroups u.bracket BG_QUEUE_NORMAL_HORDE) u.maxPlayers
        (q.checkNormalMatch u).2.2 ∧
      ((q.checkNormalMatch u).2.1.selectedGroups ++
        (q.checkNormalMatch u).2.2.selectedGroups).Nodup) ∧
    ((q.checkNormalMatch u).1 = true →
      u.minPlayers ≤ (q.checkNormalMatch u).2.1.playerCount ∧
      u.minPlayers ≤ (q.checkNormalMatch u).2.2.playerCount ∧
      (u.invitationType ≠ 0 → (((q.checkNormalMatch u).2.1.playerCount : Int) -
        (q.checkNormalMatch u).2.2.playerCount).natAbs ≤ 2)) ∧
    ∀ own other q', q.checkSkirmishForSameFaction u (q.checkNormalMatch u).2 =
        some (own, other, q') →
      ∃ t : Team,
        q.WellChosen (q.queuedGroups u.bracket t.normal) u.maxPlayers own ∧
        q.WellChosen (q.queuedGroups u.bracket t.normal) u.minPlayers other ∧
        (own.selectedGroups ++ other.selectedGroups).Nodup ∧
        other.playerCount = u.minPlayers ∧
        (u.minPlayers ≤ (q.checkNormalMatch u).2.1.playerCount ∨
            (q.checkNormalMatch u).2.2.playerCount ≤ u.minPlayers →
          u.minPlayers ≤ own.playerCount) ∧
        (u.minPlayers = u.maxPlayers → own.playerCount = u.minPlayers) ∧
        Moved u.bracket t other.selectedGroups q q' := by
  obtain ⟨⟨_, hali⟩, ⟨_, hhorde⟩⟩ := normalPools_picked q u
  obtain ⟨haliNodup, hhordeNodup, hdisjoint⟩ := List.nodup_append.mp hd.nodup
  refine ⟨⟨hali.wellChosen, hhorde.wellChosen, List.nodup_append.mpr
    ⟨haliNodup.sublist hali.sublist, hhordeNodup.sublist hhorde.sublist, fun x hx y hy =>
      hdisjoint x (hali.sublist.subset hx) y (hhorde.sublist.subset hy)⟩⟩,
    checkNormalMatch_true htest, ?_⟩
  intro own other q' h
  obtain ⟨hmin, t, ginfo, rest, hteam, hlast, hrest, rfl, hcount, rfl⟩ := checkSkirmish_some h
  have hali_le := hali.count_le
  have hhorde_le := hhorde.count_le
  obtain ⟨hown, hnodup⟩ : (∃ rest, q.Picked (q.queuedGroups u.bracket t.normal) u.maxPlayers
      (own, rest)) ∧ (q.queuedGroups u.bracket t.normal).Nodup := by
    rcases hteam with ⟨rfl, rfl, -⟩ | ⟨rfl, rfl, -⟩
    · exact ⟨⟨_, hhorde⟩, hhordeNodup⟩
    · exact ⟨⟨_, hali⟩, haliNodup⟩
  obtain ⟨_, hown⟩ := hown
  obtain ⟨before, hsplit⟩ := after_split hrest
  have hrestSub : rest.Sublist (q.queuedGroups u.bracket t.normal) :=
    hsplit ▸ (List.sublist_cons_self _ _).trans (List.sublist_append_right _ _)
  obtain ⟨_, hother⟩ : ∃ rest', q.Picked rest u.minPlayers
      (q.addUninvited u.minPlayers {} rest, rest') :=
    Picked.start.addUninvited (Nat.le_refl _)
  have hotherSub := hother.sublist.trans hrestSub
  refine ⟨t, hown.wellChosen,
    ⟨hotherSub, hother.uninvited, hother.count, hother.count_le⟩, ?_, hcount, ?_, ?_, ?_⟩
  · refine List.nodup_append.mpr ⟨hnodup.sublist hown.sublist, hnodup.sublist hotherSub, ?_⟩
    rintro x hx y hy rfl
    exact disjoint_after hnodup hown.sublist hlast hrest x hx (hother.sublist.subset hy)
  · change _ ≤ (q.normalPools u).1.playerCount ∨ (q.normalPools u).2.playerCount ≤ _ → _
    change _ ≤ (q.normalPools u).1.playerCount ∨ _ ≤ (q.normalPools u).2.playerCount at hmin
    rcases hteam with ⟨-, rfl, hc⟩ | ⟨-, rfl, hc⟩
    · exact fun _ => hc.ge
    · change (q.normalPools u).2.playerCount ≠ _ at hc
      change _ → _ ≤ (q.normalPools u).1.playerCount
      omega
  · change _ ≤ (q.normalPools u).1.playerCount ∨ _ ≤ (q.normalPools u).2.playerCount at hmin
    rcases hteam with ⟨-, rfl, hc⟩ | ⟨-, rfl, hc⟩
    · exact fun _ => hc
    · change (q.normalPools u).2.playerCount ≠ _ at hc
      change _ → (q.normalPools u).1.playerCount = _
      simp only at hali_le hhorde_le
      omega
  · exact changeSides_moved (hnodup.sublist hotherSub) hnodup (fun g hg => hotherSub.subset hg)
      fun g hg => hd.live _ g (hotherSub.subset hg)

def skirmishQueue : BattlegroundQueue :=
  (({} : BattlegroundQueue).addGroup 1 .alliance (some [1, 2]) 3 false false 10 0).addGroup
    3 .alliance (some [3, 4]) 3 false false 20 0

theorem placed_skirmishQueue : skirmishQueue.Placed :=
  (placed_empty.addGroup (by decide) (by decide)).addGroup (by decide) (by decide +kernel)

def twoEach : QueueUpdate where
  bracket := 3
  freeSlotQueue := []
  isArena := true
  arenaType := 2
  minPlayersPerTeam := 0
  maxPlayersPerTeam := 0

theorem match_selected_twoEach : ∃ own other q',
    skirmishQueue.checkSkirmishForSameFaction twoEach (skirmishQueue.checkNormalMatch twoEach).2 =
      some (own, other, q') ∧ own.playerCount = 2 ∧ other.playerCount = 2 := by
  have hsome : (skirmishQueue.checkSkirmishForSameFaction twoEach
      (skirmishQueue.checkNormalMatch twoEach).2).isSome = true := by decide +kernel
  obtain ⟨⟨own, other, q'⟩, h⟩ := Option.isSome_iff_exists.mp hsome
  obtain ⟨t, -, -, -, hother, -, hown, -⟩ :=
    (match_selected twoEach (placed_skirmishQueue.distinct 3) rfl).2.2 own other q' h
  exact ⟨own, other, q', h, hown rfl, hother⟩

def sizedQueue (alliance horde : List (List Nat)) : BattlegroundQueue :=
  horde.foldl (fun q ms => q.addGroup (ms.headD 0) .horde (some ms) 3 false false 0 0)
    (alliance.foldl (fun q ms => q.addGroup (ms.headD 0) .alliance (some ms) 3 false false 0 0) {})

def betweenLimits (minPlayers maxPlayers : Nat) : QueueUpdate where
  bracket := 3
  freeSlotQueue := []
  isArena := false
  minPlayersPerTeam := minPlayers
  maxPlayersPerTeam := maxPlayers

/-- Teams of five in arena testing, with balanced invitation: limits of one and five. -/
def arenaTesting : QueueUpdate where
  bracket := 3
  freeSlotQueue := []
  isArena := true
  arenaType := 5
  minPlayersPerTeam := 0
  maxPlayersPerTeam := 0
  isArenaTesting := true
  invitationType := 1

/-- The players of both pools of a skirmish that is to start after `CheckNormalMatch` refused. -/
def skirmishCounts (q : BattlegroundQueue) (u : QueueUpdate) : Option (Nat × Nat) :=
  if (q.checkNormalMatch u).1 then none
  else (q.checkSkirmishForSameFaction u (q.checkNormalMatch u).2).map
    fun r => (r.1.playerCount, r.2.1.playerCount)

/-- With limits of three and four, which no caller passes, a skirmish starts with two players against
three; in arena testing with balanced invitation, with four against one. -/
theorem skirmish_unequal :
    (sizedQueue [[1, 2], [3, 4, 5]] [[6, 7, 8, 9]]).Placed ∧
    (sizedQueue [[1, 2], [3, 4, 5]] [[6, 7, 8, 9]]).skirmishCounts (betweenLimits 3 4) =
      some (2, 3) ∧
    (sizedQueue [[1, 2, 3, 4], [5]] []).Placed ∧
    (sizedQueue [[1, 2, 3, 4], [5]] []).skirmishCounts arenaTesting = some (4, 1) :=
  ⟨((placed_empty.addGroup (by decide) (by decide)).addGroup (by decide) (by decide +kernel)
      ).addGroup (by decide) (by decide +kernel),
    by decide +kernel,
    (placed_empty.addGroup (by decide) (by decide)).addGroup (by decide) (by decide +kernel),
    by decide +kernel⟩

end BattlegroundQueue

end SkyfireBG
