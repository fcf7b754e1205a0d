import SkyfireBG.Lib.Run
import SkyfireBG.Battleground.Update

/-!
# SkyfireBG.Battleground.Placed

Where the groups of a queue stand, over every history of it: in one list each, of the team the group
has, with the players that the map knows.

`InviteGroupToBG` sets the team of a group without moving it.  The updates move the group
themselves; a duel does not, so that it breaks the order unless the groups are of the teams it gives
them.

* `Listed`        — the structure, for given teams; it says nothing of the teams the groups carry.
* `Placed`        — for the teams they carry.
* `removePlayer_found` — `RemovePlayer` finds every queued player.
* `OrderlyQueue`  — the events that keep it.
-/

namespace SkyfireBG

namespace BattlegroundQueue

variable {q : BattlegroundQueue} {g guid : Nat} {b b' : BattlegroundBracketId}
  {i j : QueueIndex} {τ : Nat → Team} {info info' : GroupQueueInfo}

/-- The structure of the queue, when `τ` says which team each group is listed for. -/
structure Listed (q : BattlegroundQueue) (τ : Nat → Team) : Prop where
  live : ∀ b i g, g ∈ q.queuedGroups b i → ∃ info, q.group g = some info
  filled : ∀ g info, q.group g = some info → ∃ guid, info.players.find? guid = some ()
  side : ∀ b i g, g ∈ q.queuedGroups b i → QueueIndex.team i = τ g
  nodup : ∀ b i, (q.queuedGroups b i).Nodup
  once : ∀ b i b' i' g, g ∈ q.queuedGroups b i → g ∈ q.queuedGroups b' i' → b = b' ∧ i = i'
  listed : ∀ g info, q.group g = some info → ∃ b i, g ∈ q.queuedGroups b i
  players : ∀ guid g, q.queuedPlayers.find? guid = some g ↔
    ∃ info, q.group g = some info ∧ info.players.find? guid = some ()
  fresh : ∀ g info, q.group g = some info → g < q.nextGroup

def teamOf (q : BattlegroundQueue) (g : Nat) : Team :=
  match q.group g with
  | some info => info.team
  | none => .alliance

/-- Every group stands in one list, of its own team; the map knows its players, and there are some. -/
def Placed (q : BattlegroundQueue) : Prop := q.Listed q.teamOf

theorem teamOf_some (h : q.group g = some info) : q.teamOf g = info.team := by
  simp only [teamOf, h]

theorem Listed.team_congr {τ' : Nat → Team} (h : q.Listed τ)
    (hτ : ∀ g info, q.group g = some info → τ' g = τ g) : q.Listed τ' := by
  refine ⟨h.live, h.filled, ?_, h.nodup, h.once, h.listed, h.players, h.fresh⟩
  intro b i g hg
  obtain ⟨info, hinfo⟩ := h.live b i g hg
  rw [hτ g info hinfo]
  exact h.side b i g hg

theorem Listed.setGroup (h : q.Listed τ) (hg : q.group g = some info)
    (hp : info'.players = info.players) : (q.setGroup g (some info')).Listed τ := by
  have hgroup : ∀ x ix, (q.setGroup g (some info')).group x = some ix →
      ∃ iy, q.group x = some iy ∧ iy.players = ix.players := by
    intro x ix hx
    by_cases he : x = g
    · subst he
      rw [setGroup_same] at hx
      cases hx
      exact ⟨info, hg, hp.symm⟩
    · rw [setGroup_ne he] at hx
      exact ⟨ix, hx, rfl⟩
  have hback : ∀ x ix, q.group x = some ix →
      ∃ iy, (q.setGroup g (some info')).group x = some iy ∧ iy.players = ix.players := by
    intro x ix hx
    by_cases he : x = g
    · subst he
      cases hg.symm.trans hx
      exact ⟨info', setGroup_same, hp⟩
    · exact ⟨ix, (setGroup_ne he).trans hx, rfl⟩
  refine ⟨?_, ?_, h.side, h.nodup, h.once, ?_, ?_, ?_⟩
  · intro b i x hx
    obtain ⟨ix, hix⟩ := h.live b i x hx
    obtain ⟨iy, hiy, _⟩ := hback x ix hix
    exact ⟨iy, hiy⟩
  · intro x ix hx
    obtain ⟨iy, hiy, he⟩ := hgroup x ix hx
    rw [← he]
    exact h.filled x iy hiy
  · intro x ix hx
    obtain ⟨iy, hiy, _⟩ := hgroup x ix hx
    exact h.listed x iy hiy
  · intro guid x
    rw [setGroup_queuedPlayers, h.players]
    constructor
    · rintro ⟨ix, hx, hf⟩
      obtain ⟨iy, hiy, he⟩ := hback x ix hx
      exact ⟨iy, hiy, he ▸ hf⟩
    · rintro ⟨ix, hx, hf⟩
      obtain ⟨iy, hiy, he⟩ := hgroup x ix hx
      exact ⟨iy, hiy, he ▸ hf⟩
  · intro x ix hx
    obtain ⟨iy, hiy, _⟩ := hgroup x ix hx
    exact h.fresh x iy hiy

theorem Listed.inviteGroupToBG (h : q.Listed τ) (bg : Nat) (side : Option Team) :
    (q.inviteGroupToBG g bg side).Listed τ := by
  unfold BattlegroundQueue.inviteGroupToBG
  cases hg : q.group g with
  | none => exact h
  | some info => exact h.setGroup hg rfl

theorem group_invite (bg : Nat) (side : Option Team) (x : Nat) :
    (q.inviteGroupToBG g bg side).group x =
      if x = g then (q.group g).map (fun info => info.invite bg side) else q.group x := by
  unfold inviteGroupToBG
  cases hg : q.group g with
  | none =>
    by_cases hx : x = g
    · rw [if_pos hx, hx]
      exact hg
    · rw [if_neg hx]
  | some info => rfl

theorem Placed.inviteGroupToBG (h : q.Placed) (bg : Nat) {side : Option Team}
    (hs : ∀ t ∈ side, ∀ info ∈ q.group g, info.team = t) :
    (q.inviteGroupToBG g bg side).Placed := by
  refine (Listed.inviteGroupToBG h bg side).team_congr ?_
  intro x ix hx
  unfold teamOf
  rw [group_invite] at hx ⊢
  by_cases hxg : x = g
  · cases hg : q.group g with
    | none => simp [hxg, hg] at hx
    | some info =>
      cases side with
      | none => simp [hxg, hg, GroupQueueInfo.invite]
      | some t => simpa [hxg, hg, GroupQueueInfo.invite] using (hs t rfl info hg).symm
  · simp [hxg]

theorem Placed.invitePools (h : q.Placed) (bg : Nat) (pools : SelectionPool × SelectionPool) :
    (q.invitePools bg pools).Placed := by
  unfold BattlegroundQueue.invitePools
  induction pools.1.selectedGroups ++ pools.2.selectedGroups generalizing q with
  | nil => exact h
  | cons g l ih => exact ih (h.inviteGroupToBG bg nofun)

@[simp] theorem moveGroup_group : (q.moveGroup b i j g).group = q.group := rfl

theorem moveGroup_lists (hij : i ≠ j) (b' : BattlegroundBracketId) (i' : QueueIndex) :
    (q.moveGroup b i j g).queuedGroups b' i' =
      if b' = b ∧ i' = i then (q.queuedGroups b i).erase g
      else if b' = b ∧ i' = j then g :: q.queuedGroups b j else q.queuedGroups b' i' := by
  have hfrom : (q.setList b j (g :: q.queuedGroups b j)).queuedGroups b i = q.queuedGroups b i :=
    setList_ne (fun h => hij h.2)
  simp only [moveGroup, hfrom]
  rfl

theorem Listed.mem_moveGroup (h : q.Listed τ) (hg : g ∈ q.queuedGroups b i) (hij : i ≠ j)
    {x : Nat} {b' : BattlegroundBracketId} {i' : QueueIndex} :
    x ∈ (q.moveGroup b i j g).queuedGroups b' i' ↔
      (x = g ∧ b' = b ∧ i' = j) ∨ (x ≠ g ∧ x ∈ q.queuedGroups b' i') := by
  rw [moveGroup_lists hij]
  by_cases hfrom : b' = b ∧ i' = i
  · obtain ⟨rfl, rfl⟩ := hfrom
    rw [if_pos ⟨rfl, rfl⟩, (h.nodup b' i').mem_erase_iff]
    constructor
    · exact .inr
    · rintro (⟨_, _, he⟩ | hx)
      · exact absurd he hij
      · exact hx
  · rw [if_neg hfrom]
    by_cases hto : b' = b ∧ i' = j
    · obtain ⟨rfl, rfl⟩ := hto
      rw [if_pos ⟨rfl, rfl⟩, List.mem_cons]
      constructor
      · rintro (hx | hx)
        · exact .inl ⟨hx, rfl, rfl⟩
        · refine .inr ⟨?_, hx⟩
          rintro rfl
          exact hij (h.once _ _ _ _ x hg hx).2
      · rintro (⟨hx, _⟩ | ⟨_, hx⟩)
        · exact .inl hx
        · exact .inr hx
    · rw [if_neg hto]
      constructor
      · intro hx
        refine .inr ⟨?_, hx⟩
        rintro rfl
        obtain ⟨hb, hi⟩ := h.once _ _ _ _ x hg hx
        exact hfrom ⟨hb.symm, hi.symm⟩
      · rintro (⟨_, hb, hi⟩ | ⟨_, hx⟩)
        · exact absurd ⟨hb, hi⟩ hto
        · exact hx

theorem Listed.moveGroup (h : q.Listed τ) (hg : g ∈ q.queuedGroups b i) (hij : i ≠ j) :
    (q.moveGroup b i j g).Listed (Function.update τ g (QueueIndex.team j)) := by
  refine ⟨?_, h.filled, ?_, ?_, ?_, ?_, h.players, h.fresh⟩
  · intro b' i' x hx
    rcases (h.mem_moveGroup hg hij).mp hx with ⟨rfl, _⟩ | ⟨_, hx⟩
    · exact h.live b i x hg
    · exact h.live b' i' x hx
  · intro b' i' x hx
    rcases (h.mem_moveGroup hg hij).mp hx with ⟨rfl, _, rfl⟩ | ⟨hne, hx⟩
    · rw [Function.update_self]
    · rw [Function.update_of_ne hne]
      exact h.side b' i' x hx
  · intro b' i'
    rw [moveGroup_lists hij]
    split
    · exact (h.nodup b i).erase g
    · split
      · refine List.nodup_cons.mpr ⟨fun hmem => hij (h.once _ _ _ _ g hg hmem).2, h.nodup b j⟩
      · exact h.nodup b' i'
  · intro b₁ i₁ b₂ i₂ x h₁ h₂
    rcases (h.mem_moveGroup hg hij).mp h₁ with ⟨hx, hb₁, hi₁⟩ | ⟨hne, h₁⟩ <;>
      rcases (h.mem_moveGroup hg hij).mp h₂ with ⟨hx', hb₂, hi₂⟩ | ⟨hne', h₂⟩
    · exact ⟨hb₁.trans hb₂.symm, hi₁.trans hi₂.symm⟩
    · exact absurd hx hne'
    · exact absurd hx' hne
    · exact h.once _ _ _ _ x h₁ h₂
  · intro x ix hx
    by_cases hxg : x = g
    · exact ⟨b, j, (h.mem_moveGroup hg hij).mpr (.inl ⟨hxg, rfl, rfl⟩)⟩
    · obtain ⟨b', i', hmem⟩ := h.listed x ix hx
      exact ⟨b', i', (h.mem_moveGroup hg hij).mpr (.inr ⟨hxg, hmem⟩)⟩

theorem premade_ne_normal (t : Team) : t.premade ≠ t.normal := by cases t <;> decide

theorem normal_ne_other (t : Team) : t.normal ≠ t.other.normal := by cases t <;> decide

theorem other_premade_ne (t : Team) : t.other.premade ≠ t.premade := by cases t <;> decide

theorem Placed.demotePremade (h : q.Placed) (minPlayers timeBefore : Nat) (t : Team) :
    (q.demotePremade b minPlayers timeBefore t).Placed := by
  unfold BattlegroundQueue.demotePremade
  cases hl : q.queuedGroups b t.premade with
  | nil => exact h
  | cons g l =>
    have hg : g ∈ q.queuedGroups b t.premade := hl ▸ List.mem_cons_self
    cases hi : q.group g with
    | none => simpa only [hi] using h
    | some info =>
      simp only [hi]
      split
      · refine (Listed.moveGroup h hg (premade_ne_normal t)).team_congr ?_
        intro x ix _
        rw [normal_team]
        by_cases hx : x = g
        · rw [hx, Function.update_self, ← premade_team t]
          exact (h.side b t.premade g hg).symm
        · rw [Function.update_of_ne hx]
          rfl
      · exact h

theorem changeSide_eq {t : Team} (hg : q.group g = some info) : q.changeSide b t g =
    (q.setGroup g (some { info with team := t.other })).moveGroup b t.normal t.other.normal g := by
  simp only [changeSide, hg]

theorem Placed.changeSide (h : q.Placed) {t : Team} (hg : g ∈ q.queuedGroups b t.normal) :
    (q.changeSide b t g).Placed := by
  obtain ⟨info, hinfo⟩ := h.live b t.normal g hg
  rw [changeSide_eq hinfo]
  have hset : (q.setGroup g (some { info with team := t.other })).Listed q.teamOf :=
    Listed.setGroup h hinfo rfl
  refine (hset.moveGroup hg (normal_ne_other t)).team_congr ?_
  intro x ix _
  rw [normal_team]
  by_cases hx : x = g
  · rw [hx, Function.update_self]
    simp only [teamOf, moveGroup_group, setGroup_same]
  · rw [Function.update_of_ne hx]
    simp only [teamOf, moveGroup_group, setGroup_ne hx]

theorem Placed.changeSides (h : q.Placed) {t : Team} {l : List Nat} (hl : l.Nodup)
    (hmem : ∀ g ∈ l, g ∈ q.queuedGroups b t.normal) :
    (l.foldl (fun q g => q.changeSide b t g) q).Placed := by
  induction l generalizing q with
  | nil => exact h
  | cons g l ih =>
    have hg := hmem g List.mem_cons_self
    obtain ⟨info, hinfo⟩ := h.live b t.normal g hg
    refine ih (h.changeSide hg) (List.nodup_cons.mp hl).2 ?_
    intro x hx
    have hne : x ≠ g := by
      rintro rfl
      exact (List.nodup_cons.mp hl).1 hx
    show x ∈ (q.changeSide b t g).queuedGroups b t.normal
    rw [changeSide_eq hinfo]
    have hset : (q.setGroup g (some { info with team := t.other })).Listed q.teamOf :=
      Listed.setGroup h hinfo rfl
    exact (hset.mem_moveGroup hg (normal_ne_other t)).mpr
      (.inr ⟨hne, hmem x (List.mem_cons_of_mem _ hx)⟩)

theorem addToPool_selected (pool : SelectionPool) (g n : Nat) :
    (q.addToPool pool g n).2.selectedGroups = pool.selectedGroups ∨
    (q.addToPool pool g n).2.selectedGroups = pool.selectedGroups ++ [g] := by
  unfold addToPool
  split
  · exact .inr rfl
  · exact .inl rfl

theorem addUninvited_selected (n : Nat) (l : List Nat) (pool : SelectionPool) :
    ∃ l', l'.Sublist l ∧
      (q.addUninvited n pool l).selectedGroups = pool.selectedGroups ++ l' := by
  induction l generalizing pool with
  | nil => exact ⟨[], .slnil, (List.append_nil _).symm⟩
  | cons g l ih =>
    unfold addUninvited
    split
    · obtain ⟨l', hs, he⟩ := ih pool
      exact ⟨l', hs.cons g, he⟩
    · rcases addToPool_selected (q := q) pool g n with hp | hp
      · split
        · obtain ⟨l', hs, he⟩ := ih (q.addToPool pool g n).2
          exact ⟨l', hs.cons g, he.trans (by rw [hp])⟩
        · exact ⟨[], List.nil_sublist _, hp.trans (List.append_nil _).symm⟩
      · split
        · obtain ⟨l', hs, he⟩ := ih (q.addToPool pool g n).2
          exact ⟨g :: l', hs.cons_cons g, he.trans (by rw [hp]; simp)⟩
        · exact ⟨[g], (List.nil_sublist l).cons_cons g, hp⟩

theorem after_sublist {l rest : List Nat} (h : after g l = some rest) :
    (g :: rest).Sublist l := by
  induction l with
  | nil => cases h
  | cons x l ih =>
    unfold after at h
    by_cases hx : x = g
    · rw [if_pos hx] at h
      cases h
      rw [hx]
    · rw [if_neg hx] at h
      exact (ih h).cons x

theorem Placed.checkSkirmish (h : q.Placed) {u : QueueUpdate}
    {pools : SelectionPool × SelectionPool} {own other : SelectionPool} {q' : BattlegroundQueue}
    (hc : q.checkSkirmishForSameFaction u pools = some (own, other, q')) : q'.Placed := by
  unfold checkSkirmishForSameFaction at hc
  simp only at hc
  split at hc
  · cases hc
  · split at hc
    · cases hc
    · split at hc
      · cases hc
      · rename_i ginfo _ rest hrest
        split at hc
        · cases hc
        · cases hc
          obtain ⟨l', hs, he⟩ := addUninvited_selected (q := q) u.minPlayers rest {}
          have hsub := hs.trans ((List.sublist_cons_self _ _).trans (after_sublist hrest))
          rw [he]
          exact h.changeSides (hsub.nodup (h.nodup _ _)) (fun g hg => hsub.subset hg)

theorem firstMatch_mem {p : Nat → Bool} {n : Nat} {l : List Nat}
    (h : (q.firstMatch p n l).1 = some g) : g ∈ l := by
  unfold firstMatch at h
  cases hf : l.find? p with
  | none =>
    rw [hf] at h
    cases h
  | some x =>
    rw [hf] at h
    cases h
    exact List.mem_of_find?_eq_some hf

theorem firstMatch_some {p : Nat → Bool} {n : Nat} {l : List Nat}
    (h : (q.firstMatch p n l).2.playerCount ≠ 0) : ∃ g, (q.firstMatch p n l).1 = some g := by
  unfold firstMatch at h ⊢
  cases hf : l.find? p with
  | none =>
    rw [hf] at h
    exact absurd rfl h
  | some x => exact ⟨x, rfl⟩

theorem firstMatch_after {p : Nat → Bool} {n : Nat} {l : List Nat} (hl : l.Nodup) {x : Nat}
    (h : (q.firstMatch p n ((after g l).getD [])).1 = some x) : x ∈ l ∧ x ≠ g := by
  have hx := firstMatch_mem h
  cases ha : after g l with
  | none =>
    rw [ha] at hx
    cases hx
  | some rest =>
    rw [ha] at hx
    have hsub := after_sublist ha
    refine ⟨hsub.subset (List.mem_cons_of_mem _ hx), ?_⟩
    rintro rfl
    exact (List.nodup_cons.mp (hsub.nodup hl)).1 hx

theorem Listed.ratedPair (h : q.Listed τ) {u : QueueUpdate} {rating ali horde : Nat}
    (hp : q.ratedPair u rating = some (ali, horde)) : ali ≠ horde ∧
    (∀ g ∈ [ali, horde], ∀ t : Team, g ∈ q.queuedGroups u.bracket t.premade ∨
      g ∈ q.queuedGroups u.bracket t.other.premade) := by
  have hboth {g : Nat} (hg : g ∈ q.queuedGroups u.bracket BG_QUEUE_PREMADE_ALLIANCE ∨
      g ∈ q.queuedGroups u.bracket BG_QUEUE_PREMADE_HORDE) (t : Team) :
      g ∈ q.queuedGroups u.bracket t.premade ∨ g ∈ q.queuedGroups u.bracket t.other.premade := by
    cases t with
    | alliance => exact hg
    | horde => exact hg.symm
  unfold BattlegroundQueue.ratedPair at hp
  simp only at hp
  generalize hr : q.ratingMatches _ _ _ = p at hp
  generalize ha : q.firstMatch p u.maxPlayers
    (q.queuedGroups u.bracket BG_QUEUE_PREMADE_ALLIANCE) = a at hp
  generalize hh : q.firstMatch p u.maxPlayers
    (q.queuedGroups u.bracket BG_QUEUE_PREMADE_HORDE) = hd at hp
  have hamem : ∀ g, a.1 = some g → g ∈ q.queuedGroups u.bracket BG_QUEUE_PREMADE_ALLIANCE :=
    fun g hg => firstMatch_mem (ha ▸ hg)
  have hhmem : ∀ g, hd.1 = some g → g ∈ q.queuedGroups u.bracket BG_QUEUE_PREMADE_HORDE :=
    fun g hg => firstMatch_mem (hh ▸ hg)
  by_cases hc : a.2.playerCount = 0 ∧ hd.2.playerCount ≠ 0
  · -- both from the list of the horde
    obtain ⟨first, hfirst⟩ : ∃ g, hd.1 = some g := hh ▸ firstMatch_some (hh.symm ▸ hc.2)
    rw [if_pos hc, if_neg (show ¬ (hd.2.playerCount = 0 ∧ _) from fun h => hc.2 h.1), hfirst] at hp
    split at hp
    · split at hp
      · rename_i x y hx hy
        cases hp
        cases hy
        obtain ⟨hmem, hne⟩ := firstMatch_after (h.nodup _ _) hx
        refine ⟨hne, ?_⟩
        simp only [List.mem_cons, List.not_mem_nil, or_false, forall_eq_or_imp, forall_eq]
        exact ⟨hboth (.inr hmem), hboth (.inr (hhmem _ hfirst))⟩
      · cases hp
    · cases hp
  · rw [if_neg hc] at hp
    by_cases hc' : hd.2.playerCount = 0 ∧ a.2.playerCount ≠ 0
    · -- both from the list of the alliance
      obtain ⟨first, hfirst⟩ : ∃ g, a.1 = some g := ha ▸ firstMatch_some (ha.symm ▸ hc'.2)
      rw [if_pos hc', hfirst] at hp
      split at hp
      · split at hp
        · rename_i x y hx hy
          cases hp
          cases hx
          obtain ⟨hmem, hne⟩ := firstMatch_after (h.nodup _ _) hy
          refine ⟨hne.symm, ?_⟩
          simp only [List.mem_cons, List.not_mem_nil, or_false, forall_eq_or_imp, forall_eq]
          exact ⟨hboth (.inl (hamem _ hfirst)), hboth (.inl hmem)⟩
        · cases hp
      · cases hp
    · rw [if_neg hc'] at hp
      split at hp
      · split at hp
        · rename_i x y hx hy
          cases hp
          refine ⟨?_, ?_⟩
          · rintro rfl
            exact absurd (h.once _ _ _ _ _ (hamem _ hx) (hhmem _ hy)).2 (by decide)
          · simp only [List.mem_cons, List.not_mem_nil, or_false, forall_eq_or_imp, forall_eq]
            exact ⟨hboth (.inl (hamem _ hx)), hboth (.inr (hhmem _ hy))⟩
        · cases hp
      · cases hp

theorem Listed.moveTo (h : q.Listed τ) {t : Team} (hτ : q.teamOf g = τ g)
    (hg : g ∈ q.queuedGroups b t.premade ∨ g ∈ q.queuedGroups b t.other.premade) :
    (q.moveTo b t g).Listed (Function.update τ g t) ∧ (q.moveTo b t g).group = q.group ∧
    ∀ x i, x ≠ g → x ∈ q.queuedGroups b i → x ∈ (q.moveTo b t g).queuedGroups b i := by
  obtain ⟨info, hinfo⟩ := hg.elim (h.live b _ g) (h.live b _ g)
  have hteam : info.team = τ g := (teamOf_some hinfo).symm.trans hτ
  unfold BattlegroundQueue.moveTo
  rw [hinfo]
  by_cases hne : info.team = t
  · have hsame : Function.update τ g t = τ := by
      rw [← hne, hteam, Function.update_eq_self]
    simp only [hne, Option.any_some, bne_self_eq_false, Bool.false_eq_true, if_false, hsame]
    exact ⟨h, trivial, fun _ _ _ hx => hx⟩
  · have hmem : g ∈ q.queuedGroups b t.other.premade := by
      refine hg.resolve_left (fun hin => hne ?_)
      rw [hteam, ← h.side b _ g hin, premade_team]
    simp only [Option.any_some, bne_iff_ne, hne, ne_eq, not_false_eq_true, if_true]
    have hmoved := h.moveGroup hmem (other_premade_ne t)
    rw [premade_team] at hmoved
    exact ⟨hmoved, rfl,
      fun x i hx hin => (h.mem_moveGroup hmem (other_premade_ne t)).mpr (.inr ⟨hx, hin⟩)⟩

theorem Placed.ratedUpdate (h : q.Placed) (u : QueueUpdate) : (q.ratedUpdate u).Placed := by
  unfold BattlegroundQueue.ratedUpdate
  split
  · rename_i ali horde arena hpair _
    obtain ⟨rating, _, hrated⟩ := Option.bind_eq_some_iff.mp hpair
    obtain ⟨hne, hmem⟩ := Listed.ratedPair h hrated
    obtain ⟨hali, hgroup, hkept⟩ :=
      Listed.moveTo h rfl (hmem ali (List.mem_cons_self) .alliance)
    have hmem' := (hmem horde (by simp) .horde).imp (hkept horde _ hne.symm)
      (hkept horde _ hne.symm)
    have hτ : (q.moveTo u.bracket .alliance ali).teamOf horde =
        Function.update q.teamOf ali .alliance horde := by
      rw [Function.update_of_ne hne.symm]
      simp only [teamOf, hgroup]
    obtain ⟨hhorde, hgroup', _⟩ := Listed.moveTo hali hτ hmem'
    refine ((hhorde.inviteGroupToBG arena (some .alliance)).inviteGroupToBG arena
      (some .horde)).team_congr ?_
    intro x ix hx
    have hfirst : ∀ x, ((q.moveTo u.bracket .alliance ali).moveTo u.bracket .horde horde).group x =
        q.group x := fun x => by rw [hgroup', hgroup]
    unfold teamOf
    rw [group_invite] at hx ⊢
    by_cases hxh : x = horde
    · rw [if_pos hxh] at hx ⊢
      obtain ⟨info, hinfo, rfl⟩ := Option.map_eq_some_iff.mp hx
      rw [hinfo, hxh, Function.update_self]
      rfl
    · rw [if_neg hxh, group_invite] at hx ⊢
      rw [Function.update_of_ne hxh]
      by_cases hxa : x = ali
      · rw [if_pos hxa] at hx ⊢
        obtain ⟨info, hinfo, rfl⟩ := Option.map_eq_some_iff.mp hx
        rw [hinfo, hxa, Function.update_self]
        rfl
      · rw [if_neg hxa, Function.update_of_ne hxa, hfirst]
  · exact h

theorem Placed.normalUpdate (h : q.Placed) (u : QueueUpdate) : (q.normalUpdate u).Placed := by
  unfold BattlegroundQueue.normalUpdate
  split
  · split
    · exact h.invitePools _ _
    · exact h
  · split
    · split
      · rename_i hc
        split
        · exact (h.checkSkirmish hc).invitePools _ _
        · exact h.checkSkirmish hc
      · exact h
    · exact h

theorem Placed.premadeUpdate (h : q.Placed) (u : QueueUpdate) :
    (q.premadeUpdate u).2.Placed ∧ ∀ q' ∈ (q.premadeUpdate u).1, q'.Placed := by
  have hlate : ((q.demotePremade u.bracket u.minPlayers u.timeBefore .alliance).demotePremade
      u.bracket u.minPlayers u.timeBefore .horde).Placed :=
    (h.demotePremade _ _ _).demotePremade _ _ _
  unfold BattlegroundQueue.premadeUpdate checkPremadeMatch
  split
  · refine ⟨h, ?_⟩
    rintro q' ⟨⟩
    exact h
  · cases hm : q.premadeMatch u.bracket u.maxPlayers with
    | none =>
      refine ⟨hlate, ?_⟩
      rintro q' ⟨⟩
      exact hlate
    | some pools =>
      cases hb : u.premadeBattleground with
      | none => exact ⟨h, nofun⟩
      | some bg =>
        refine ⟨h, ?_⟩
        rintro q' ⟨⟩
        exact h.invitePools bg pools

theorem Placed.fillFreeSlots (h : q.Placed) (u : QueueUpdate) : (q.fillFreeSlots u).Placed := by
  unfold BattlegroundQueue.fillFreeSlots
  split
  · exact h
  · induction u.freeSlotQueue generalizing q with
    | nil => exact h
    | cons bg l ih => exact ih (h.invitePools _ _)

theorem Placed.battlegroundQueueUpdate (h : q.Placed) (u : QueueUpdate) :
    (q.battlegroundQueueUpdate u).Placed := by
  have hfill := h.fillFreeSlots u
  have hpremade := hfill.premadeUpdate u
  unfold BattlegroundQueue.battlegroundQueueUpdate
  simp only
  split
  · exact h
  · split
    · exact hfill
    · split
      · rename_i q₂ he
        rw [he] at hpremade
        exact hpremade.1
      · rename_i q₂ q₃ he
        have hq₂ : q₂.Placed := hpremade.2 q₂ (by rw [he]; rfl)
        split
        · exact hq₂.normalUpdate u
        · split
          · exact hq₂.ratedUpdate u
          · exact hq₂

theorem Placed.group_next (h : q.Placed) : q.group q.nextGroup = none := by
  cases hg : q.group q.nextGroup with
  | none => rfl
  | some info => exact absurd (h.fresh _ info hg) (Nat.lt_irrefl _)

theorem Placed.next_not_queued (h : q.Placed) (b : BattlegroundBracketId) (i : QueueIndex) :
    q.nextGroup ∉ q.queuedGroups b i := by
  intro hmem
  obtain ⟨info, hinfo⟩ := h.live b i _ hmem
  cases h.group_next.symm.trans hinfo

theorem Placed.addGroup (h : q.Placed) {leader : Nat} {team : Team} {members : Option (List Nat)}
    {isRated isPremade : Bool} {joinTime rating : Nat} (hl : ∀ ms ∈ members, leader ∈ ms)
    (hnew : ∀ guid ∈ members.getD [leader], q.queuedPlayers.find? guid = none) :
    (q.addGroup leader team members b isRated isPremade joinTime rating).Placed := by
  have hleader : leader ∈ members.getD [leader] := by
    cases members with
    | none => exact List.mem_singleton.mpr rfl
    | some ms => exact hl ms rfl
  have hn := h.group_next
  have hout := h.next_not_queued
  unfold BattlegroundQueue.addGroup
  generalize hindex : (if !isRated && !isPremade then team.normal else team.premade) = i
  have hteam : QueueIndex.team i = team := by
    rw [← hindex]
    split
    · exact normal_team team
    · exact premade_team team
  simp only
  generalize hinfo : GroupQueueInfo.mk _ team isRated joinTime rating 0 = ginfo
  have hplayers : ∀ guid, ginfo.players.find? guid =
      if guid ∈ members.getD [leader] then some () else none := by
    intro guid
    rw [← hinfo]
    exact OrdMap.find?_foldl_set
  have hcarries : ginfo.team = team := by
    rw [← hinfo]
  have hmem : ∀ b' i' x, x ∈ ((q.setGroup q.nextGroup (some ginfo)).setList b i
      (q.queuedGroups b i ++ [q.nextGroup])).queuedGroups b' i' ↔
      x ∈ q.queuedGroups b' i' ∨ (x = q.nextGroup ∧ b' = b ∧ i' = i) := by
    intro b' i' x
    by_cases hbi : b' = b ∧ i' = i
    · obtain ⟨rfl, rfl⟩ := hbi
      simp
    · rw [setList_ne hbi]
      simp only [setGroup_queuedGroups, hbi, and_false, or_false]
  refine ⟨?_, ?_, ?_, ?_, ?_, ?_, ?_, ?_⟩
  · intro b' i' x hx
    rcases (hmem b' i' x).mp hx with hx | ⟨rfl, _⟩
    · obtain ⟨info, hi⟩ := h.live b' i' x hx
      refine ⟨info, (setGroup_ne ?_).trans hi⟩
      rintro rfl
      exact hout _ _ hx
    · exact ⟨ginfo, setGroup_same⟩
  · intro x info hx
    simp only [setList_group] at hx
    by_cases hxn : x = q.nextGroup
    · rw [hxn, setGroup_same] at hx
      cases hx
      exact ⟨leader, by rw [hplayers, if_pos hleader]⟩
    · rw [setGroup_ne hxn] at hx
      exact h.filled x info hx
  · intro b' i' x hx
    unfold teamOf
    simp only [setList_group]
    rcases (hmem b' i' x).mp hx with hx | ⟨rfl, rfl, rfl⟩
    · rw [setGroup_ne (show x ≠ q.nextGroup from fun he => hout b' i' (he ▸ hx))]
      exact h.side b' i' x hx
    · rw [setGroup_same, hteam]
      exact hcarries.symm
  · intro b' i'
    show ((q.setGroup q.nextGroup (some ginfo)).setList b i
      (q.queuedGroups b i ++ [q.nextGroup])).queuedGroups b' i' |>.Nodup
    by_cases hbi : b' = b ∧ i' = i
    · obtain ⟨rfl, rfl⟩ := hbi
      rw [setList_same]
      refine List.nodup_append.mpr ⟨h.nodup b' i', by simp, ?_⟩
      rintro x hx y hy rfl
      rw [List.mem_singleton] at hy
      exact hout b' i' (hy ▸ hx)
    · rw [setList_ne hbi]
      exact h.nodup b' i'
  · intro b₁ i₁ b₂ i₂ x h₁ h₂
    rcases (hmem _ _ x).mp h₁ with h₁ | ⟨hx₁, hb₁, hi₁⟩ <;>
      rcases (hmem _ _ x).mp h₂ with h₂ | ⟨hx₂, hb₂, hi₂⟩
    · exact h.once _ _ _ _ x h₁ h₂
    · exact absurd (hx₂ ▸ h₁) (hout _ _)
    · exact absurd (hx₁ ▸ h₂) (hout _ _)
    · exact ⟨hb₁.trans hb₂.symm, hi₁.trans hi₂.symm⟩
  · intro x info hx
    simp only [setList_group] at hx
    by_cases hxn : x = q.nextGroup
    · exact ⟨b, i, (hmem b i x).mpr (.inr ⟨hxn, rfl, rfl⟩)⟩
    · rw [setGroup_ne hxn] at hx
      obtain ⟨b', i', hin⟩ := h.listed x info hx
      exact ⟨b', i', (hmem b' i' x).mpr (.inl hin)⟩
  · intro guid x
    simp only [setList_group]
    rw [OrdMap.find?_foldl_set]
    by_cases hin : guid ∈ members.getD [leader]
    · rw [if_pos hin]
      constructor
      · rintro ⟨⟩
        exact ⟨ginfo, setGroup_same, by rw [hplayers, if_pos hin]⟩
      · rintro ⟨info, hx, hf⟩
        by_cases hxn : x = q.nextGroup
        · rw [hxn]
        · rw [setGroup_ne hxn] at hx
          cases (hnew guid hin).symm.trans ((h.players guid x).mpr ⟨info, hx, hf⟩)
    · rw [if_neg hin, h.players]
      constructor
      · rintro ⟨info, hx, hf⟩
        refine ⟨info, (setGroup_ne ?_).trans hx, hf⟩
        rintro rfl
        cases hn.symm.trans hx
      · rintro ⟨info, hx, hf⟩
        by_cases hxn : x = q.nextGroup
        · rw [hxn, setGroup_same] at hx
          cases hx
          rw [hplayers, if_neg hin] at hf
          cases hf
        · exact ⟨info, (setGroup_ne hxn).symm.trans hx, hf⟩
  · intro x info hx
    simp only [setList_group] at hx
    by_cases hxn : x = q.nextGroup
    · rw [hxn]
      exact Nat.lt_succ_self _
    · rw [setGroup_ne hxn] at hx
      exact Nat.lt_succ_of_lt (h.fresh x info hx)

/-! ## Leaving -/

theorem Placed.findGroup (h : q.Placed) (hg : q.group g = some info) :
    ∃ b i, q.findGroup g info.team = some (b, i) ∧ g ∈ q.queuedGroups b i := by
  obtain ⟨b, i, hmem⟩ := h.listed g info hg
  have hteam : QueueIndex.team i = info.team := (h.side b i g hmem).trans (teamOf_some hg)
  cases hf : q.findGroup g info.team with
  | none =>
    have hnone := List.findSome?_eq_none_iff.mp hf b
      (List.mem_reverse.mpr (List.mem_finRange b))
    rcases index_cases i with hi | hi
    · rw [hi, hteam] at hmem
      simp only [hmem, if_true] at hnone
      split at hnone <;> cases hnone
    · rw [hi, hteam] at hmem
      simp only [hmem, if_true] at hnone
      cases hnone
  | some found =>
    obtain ⟨b', _, hfound⟩ := List.exists_of_findSome?_eq_some hf
    split at hfound
    · rename_i hin
      cases hfound
      exact ⟨_, _, rfl, hin⟩
    · split at hfound
      · rename_i hin
        cases hfound
        exact ⟨_, _, rfl, hin⟩
      · cases hfound

theorem entries_nil {m : OrdMap Nat Unit} (h : m.entries = []) (k : Nat) : m.find? k = none := by
  refine OrdMap.find?_eq_none.mpr (fun v hv => ?_)
  rw [h] at hv
  cases hv

theorem entries_cons {m : OrdMap Nat Unit} {k : Nat} {v : Unit} {l : List (Nat × Unit)}
    (h : m.entries = (k, v) :: l) : m.find? k = some () :=
  OrdMap.find?_eq_some.mpr (h ▸ List.mem_cons_self)

theorem Placed.dropPlayer (h : q.Placed) (hg : q.group g = some info)
    (hp : q.queuedPlayers.find? guid = some g)
    (hs : ∃ k, (info.players.erase guid).find? k = some ()) :
    (q.dropPlayer guid g info).Placed := by
  unfold BattlegroundQueue.dropPlayer
  refine ⟨?_, ?_, ?_, h.nodup, h.once, ?_, ?_, ?_⟩
  · intro b i x hx
    obtain ⟨ix, hix⟩ := h.live b i x hx
    by_cases hxg : x = g
    · rw [hxg]
      exact ⟨_, setGroup_same⟩
    · exact ⟨ix, (setGroup_ne hxg).trans hix⟩
  · intro x ix hx
    simp only at hx
    by_cases hxg : x = g
    · rw [hxg, setGroup_same] at hx
      cases hx
      exact hs
    · rw [setGroup_ne hxg] at hx
      exact h.filled x ix hx
  · intro b i x hx
    rw [h.side b i x hx]
    unfold teamOf
    by_cases hxg : x = g
    · simp only [hxg, hg, setGroup_same]
    · simp only [setGroup_ne hxg]
  · intro x ix hx
    simp only at hx
    by_cases hxg : x = g
    · exact h.listed x info (hxg ▸ hg)
    · rw [setGroup_ne hxg] at hx
      exact h.listed x ix hx
  · intro k x
    simp only
    rw [OrdMap.find?_erase]
    by_cases hk : k = guid
    · rw [if_pos hk]
      refine ⟨nofun, ?_⟩
      rintro ⟨ix, hx, hf⟩
      by_cases hxg : x = g
      · rw [hxg, setGroup_same] at hx
        cases hx
        simp only at hf
        rw [OrdMap.find?_erase, if_pos hk] at hf
        cases hf
      · rw [setGroup_ne hxg] at hx
        have hx' := (h.players guid x).mpr ⟨ix, hx, hk ▸ hf⟩
        exact absurd (Option.some.inj (hx'.symm.trans hp)) hxg
    · rw [if_neg hk, h.players]
      by_cases hxg : x = g
      · constructor
        · rintro ⟨ix, hx, hf⟩
          cases (hxg ▸ hx : q.group g = some ix).symm.trans hg
          rw [hxg]
          exact ⟨_, setGroup_same, (OrdMap.find?_erase_ne hk).trans hf⟩
        · rintro ⟨ix, hx, hf⟩
          rw [hxg, setGroup_same] at hx
          cases hx
          simp only at hf
          rw [OrdMap.find?_erase, if_neg hk] at hf
          exact ⟨info, hxg ▸ hg, hf⟩
      · rw [setGroup_ne hxg]
  · intro x ix hx
    simp only at hx
    by_cases hxg : x = g
    · exact hxg ▸ h.fresh g info hg
    · rw [setGroup_ne hxg] at hx
      exact h.fresh x ix hx

theorem Placed.deleteGroup (h : q.Placed) (hg : q.group g = some info)
    (hp : q.queuedPlayers.find? guid = some g) (hmem : g ∈ q.queuedGroups b i)
    (hs : ∀ k, (info.players.erase guid).find? k = none) :
    ((q.dropPlayer guid g info).deleteGroup b i g).Placed := by
  have hgroup : ∀ x, ((q.dropPlayer guid g info).deleteGroup b i g).group x =
      if x = g then none else q.group x := by
    intro x
    by_cases hx : x = g
    · rw [if_pos hx, hx]
      exact setGroup_same
    · rw [if_neg hx]
      exact (setGroup_ne hx).trans (setGroup_ne hx)
  have hlist : ∀ b' i' x, x ∈ ((q.dropPlayer guid g info).deleteGroup b i g).queuedGroups b' i' ↔
      x ≠ g ∧ x ∈ q.queuedGroups b' i' := by
    intro b' i' x
    unfold BattlegroundQueue.deleteGroup
    by_cases hbi : b' = b ∧ i' = i
    · obtain ⟨rfl, rfl⟩ := hbi
      rw [setList_same]
      exact (h.nodup b' i').mem_erase_iff
    · rw [setList_ne hbi]
      refine ⟨fun hx => ⟨?_, hx⟩, fun hx => hx.2⟩
      rintro rfl
      obtain ⟨hb, hi⟩ := h.once _ _ _ _ x hmem hx
      exact hbi ⟨hb.symm, hi.symm⟩
  have hsome : ∀ x ix, ((q.dropPlayer guid g info).deleteGroup b i g).group x = some ix ↔
      x ≠ g ∧ q.group x = some ix := by
    intro x ix
    rw [hgroup]
    by_cases hx : x = g <;> simp [hx]
  refine ⟨?_, ?_, ?_, ?_, ?_, ?_, ?_, ?_⟩
  · intro b' i' x hx
    obtain ⟨hne, hx⟩ := (hlist b' i' x).mp hx
    obtain ⟨ix, hix⟩ := h.live b' i' x hx
    exact ⟨ix, (hsome x ix).mpr ⟨hne, hix⟩⟩
  · intro x ix hx
    exact h.filled x ix ((hsome x ix).mp hx).2
  · intro b' i' x hx
    obtain ⟨hne, hx⟩ := (hlist b' i' x).mp hx
    rw [h.side b' i' x hx]
    unfold teamOf
    rw [hgroup, if_neg hne]
  · intro b' i'
    unfold BattlegroundQueue.deleteGroup
    by_cases hbi : b' = b ∧ i' = i
    · obtain ⟨rfl, rfl⟩ := hbi
      rw [setList_same]
      exact (h.nodup b' i').erase g
    · rw [setList_ne hbi]
      exact h.nodup b' i'
  · intro b₁ i₁ b₂ i₂ x h₁ h₂
    exact h.once _ _ _ _ x ((hlist _ _ x).mp h₁).2 ((hlist _ _ x).mp h₂).2
  · intro x ix hx
    obtain ⟨hne, hx⟩ := (hsome x ix).mp hx
    obtain ⟨b', i', hin⟩ := h.listed x ix hx
    exact ⟨b', i', (hlist b' i' x).mpr ⟨hne, hin⟩⟩
  · intro k x
    have hqueued : ((q.dropPlayer guid g info).deleteGroup b i g).queuedPlayers =
      q.queuedPlayers.erase guid := rfl
    rw [hqueued, OrdMap.find?_erase]
    simp only [hsome]
    by_cases hk : k = guid
    · rw [if_pos hk]
      refine ⟨nofun, ?_⟩
      rintro ⟨ix, ⟨hne, hx⟩, hf⟩
      have hx' := (h.players guid x).mpr ⟨ix, hx, hk ▸ hf⟩
      exact absurd (Option.some.inj (hx'.symm.trans hp)) hne
    · rw [if_neg hk, h.players]
      constructor
      · rintro ⟨ix, hx, hf⟩
        refine ⟨ix, ⟨?_, hx⟩, hf⟩
        rintro rfl
        cases hx.symm.trans hg
        have := hs k
        rw [OrdMap.find?_erase, if_neg hk] at this
        cases this.symm.trans hf
      · rintro ⟨ix, ⟨_, hx⟩, hf⟩
        exact ⟨ix, hx, hf⟩
  · intro x ix hx
    exact h.fresh x ix ((hsome x ix).mp hx).2

/-- What `RemovePlayer` does for a queued player: he leaves, and then perhaps others. -/
theorem removeLoop_succ (h : q.Placed) (hp : q.queuedPlayers.find? guid = some g) :
    ∃ q' : BattlegroundQueue, q'.Placed ∧ q'.queuedPlayers = q.queuedPlayers.erase guid ∧
      ((∀ fuel, BattlegroundQueue.removeLoop (fuel + 1) q guid = q') ∨
        ∃ next, ∀ fuel, BattlegroundQueue.removeLoop (fuel + 1) q guid =
          BattlegroundQueue.removeLoop fuel q' next) := by
  obtain ⟨info, hg, _⟩ := (h.players guid g).mp hp
  obtain ⟨b, i, hf, hmem⟩ := h.findGroup hg
  have hcall (fuel : Nat) : BattlegroundQueue.removeLoop (fuel + 1) q guid =
      q.leaveGroup (BattlegroundQueue.removeLoop fuel) guid g info b i := by
    conv_lhs => unfold BattlegroundQueue.removeLoop
    simp only [hp, hg, hf]
  cases hl : (info.players.erase guid).entries with
  | nil =>
    refine ⟨_, h.deleteGroup hg hp hmem (entries_nil hl), rfl, .inl (fun fuel => ?_)⟩
    rw [hcall]
    simp only [leaveGroup, hl]
  | cons e l =>
    have hdrop := h.dropPlayer hg hp ⟨e.1, entries_cons (v := e.2) (l := l) hl⟩
    refine ⟨_, hdrop, rfl, ?_⟩
    by_cases hr : (info.isInvitedToBGInstanceGUID = 0 && info.isRated) = true
    · refine .inr ⟨e.1, fun fuel => ?_⟩
      rw [hcall]
      simp only [leaveGroup, hl]
      exact if_pos hr
    · refine .inl (fun fuel => ?_)
      rw [hcall]
      simp only [leaveGroup, hl]
      exact if_neg hr

theorem removeLoop_none (hp : q.queuedPlayers.find? guid = none) (fuel : Nat) :
    BattlegroundQueue.removeLoop fuel q guid = q := by
  cases fuel with
  | zero => rfl
  | succ fuel =>
    unfold BattlegroundQueue.removeLoop
    simp only [hp]

theorem Placed.removeLoop (h : q.Placed) (fuel : Nat) (guid : Nat) :
    (removeLoop fuel q guid).Placed := by
  induction fuel generalizing q guid with
  | zero => exact h
  | succ fuel ih =>
    cases hp : q.queuedPlayers.find? guid with
    | none => exact (removeLoop_none hp _).symm ▸ h
    | some g =>
      obtain ⟨q', h', _, he | ⟨next, he⟩⟩ := removeLoop_succ h hp
      · exact (he fuel).symm ▸ h'
      · exact (he fuel).symm ▸ ih h' next

theorem removeLoop_absent (h : q.Placed) (fuel guid : Nat) {k : Nat}
    (hk : q.queuedPlayers.find? k = none) :
    (BattlegroundQueue.removeLoop fuel q guid).queuedPlayers.find? k = none := by
  induction fuel generalizing q guid with
  | zero => exact hk
  | succ fuel ih =>
    cases hp : q.queuedPlayers.find? guid with
    | none => exact (removeLoop_none hp _).symm ▸ hk
    | some g =>
      obtain ⟨q', h', hmap, he | ⟨next, he⟩⟩ := removeLoop_succ h hp
      · rw [he, hmap, OrdMap.find?_erase, hk, ite_self]
      · rw [he]
        exact ih h' next (by rw [hmap, OrdMap.find?_erase, hk, ite_self])

theorem removeLoop_removed (h : q.Placed) (fuel guid : Nat) :
    (BattlegroundQueue.removeLoop (fuel + 1) q guid).queuedPlayers.find? guid = none := by
  cases hp : q.queuedPlayers.find? guid with
  | none => exact removeLoop_absent h _ _ hp
  | some g =>
    obtain ⟨q', h', hmap, he | ⟨next, he⟩⟩ := removeLoop_succ h hp
    · rw [he, hmap, OrdMap.find?_erase_same]
    · rw [he]
      exact removeLoop_absent h' fuel next (by rw [hmap, OrdMap.find?_erase_same])

theorem removeLoop_enough (h : q.Placed) {fuel : Nat} (hf : q.queuedPlayers.size ≤ fuel)
    (guid : Nat) : BattlegroundQueue.removeLoop fuel q guid = q.removePlayer guid := by
  unfold removePlayer
  generalize hs : q.queuedPlayers.size = size at hf ⊢
  induction size generalizing q guid fuel with
  | zero =>
    have hnone : q.queuedPlayers.find? guid = none := by
      refine OrdMap.find?_eq_none.mpr (fun v hv => ?_)
      rw [List.length_eq_zero_iff.mp hs] at hv
      cases hv
    rw [removeLoop_none hnone, removeLoop_none hnone]
  | succ size ih =>
    obtain ⟨fuel, rfl⟩ := Nat.exists_eq_succ_of_ne_zero (Nat.ne_of_gt (Nat.lt_of_lt_of_le
      (Nat.succ_pos size) hf))
    cases hp : q.queuedPlayers.find? guid with
    | none => rw [removeLoop_none hp, removeLoop_none hp]
    | some g =>
      obtain ⟨q', h', hmap, he | ⟨next, he⟩⟩ := removeLoop_succ h hp
      · rw [he, he]
      · have hsize : q'.queuedPlayers.size = size := by
          have := OrdMap.countP_erase (p := fun _ => true) hp
          rw [← OrdMap.size_eq_countP, ← OrdMap.size_eq_countP, ← hmap, if_pos rfl, hs] at this
          exact Nat.succ.inj this
        rw [he, he]
        exact ih h' next hsize (Nat.le_of_succ_le_succ hf)

theorem removePlayer_found (h : q.Placed) (guid : Nat) :
    (q.removePlayer guid).queuedPlayers.find? guid = none := by
  rw [← removeLoop_enough h (Nat.le_succ _) guid]
  exact removeLoop_removed h _ _

end BattlegroundQueue

inductive QueueEvent where
  | addGroup (leader : Nat) (team : Team) (members : Option (List Nat))
      (bracket : BattlegroundBracketId) (isRated isPremade : Bool) (joinTime rating : Nat)
  | removePlayer (guid : Nat)
  | inviteGroupToBG (g bg : Nat) (side : Option Team)
  | duel (group1 group2 bg : Nat)
  | update (u : QueueUpdate)

namespace BattlegroundQueue

variable {q : BattlegroundQueue}

def step (q : BattlegroundQueue) : QueueEvent → BattlegroundQueue
  | .addGroup leader team members b isRated isPremade joinTime rating =>
    q.addGroup leader team members b isRated isPremade joinTime rating
  | .removePlayer guid => q.removePlayer guid
  | .inviteGroupToBG g bg side => q.inviteGroupToBG g bg side
  | .duel group1 group2 bg => q.battleGroundDuelQueueUpdate group1 group2 bg
  | .update u => q.battlegroundQueueUpdate u

/-- The leader is a member of his group, nobody joins twice, and an invitation names the team the
group is of. -/
def OrderlyQueue (q : BattlegroundQueue) : QueueEvent → Prop
  | .addGroup leader _ members _ _ _ _ _ => (∀ ms ∈ members, leader ∈ ms) ∧
      ∀ guid ∈ members.getD [leader], q.queuedPlayers.find? guid = none
  | .inviteGroupToBG g _ side => ∀ t ∈ side, ∀ info ∈ q.group g, info.team = t
  | .duel group1 group2 _ => (∀ info ∈ q.group group1, info.team = .alliance) ∧
      ∀ info ∈ q.group group2, info.team = .horde
  | _ => True

instance (q : BattlegroundQueue) (e : QueueEvent) : Decidable (q.OrderlyQueue e) := by
  cases e <;> unfold OrderlyQueue <;> infer_instance

theorem placed_empty : ({} : BattlegroundQueue).Placed where
  live := nofun
  filled := nofun
  side := nofun
  nodup := fun _ _ => List.nodup_nil
  once := nofun
  listed := nofun
  players := fun _ _ => ⟨nofun, fun ⟨_, h, _⟩ => nomatch h⟩
  fresh := nofun

theorem placed_step {e : QueueEvent} (h : q.Placed) (he : q.OrderlyQueue e) :
    (q.step e).Placed := by
  cases e with
  | addGroup leader team members b isRated isPremade joinTime rating =>
    exact h.addGroup he.1 he.2
  | removePlayer guid => exact h.removeLoop _ guid
  | inviteGroupToBG g bg side => exact h.inviteGroupToBG bg he
  | duel group1 group2 bg =>
    refine (h.inviteGroupToBG bg ?_).inviteGroupToBG bg ?_
    · rintro t ⟨⟩ info hinfo
      exact he.1 info hinfo
    · rintro t ⟨⟩ info hinfo
      rw [Option.mem_def, group_invite] at hinfo
      by_cases h21 : group2 = group1
      · rw [if_pos h21] at hinfo
        obtain ⟨info₁, hinfo₁, _⟩ := Option.map_eq_some_iff.mp hinfo
        cases (he.1 info₁ hinfo₁).symm.trans (he.2 info₁ (h21 ▸ hinfo₁))
      · rw [if_neg h21] at hinfo
        exact he.2 info hinfo
  | update u => exact h.battlegroundQueueUpdate u

end BattlegroundQueue

/-- As long as nobody joins twice and every invitation names the team of the group, each group stands
in one list, of its team, the map and the groups agree on the players, no group is empty, and
`RemovePlayer` takes out whomever it is called for. -/
theorem queue_placed {es : List QueueEvent} {q : BattlegroundQueue}
    (h : Run BattlegroundQueue.step BattlegroundQueue.OrderlyQueue {} es q) :
    q.Placed ∧ ∀ guid, (q.removePlayer guid).queuedPlayers.find? guid = none ∧
      ∀ g info, (q.removePlayer guid).group g = some info →
        info.players.find? guid = none ∧ ∃ other, info.players.find? other = some () := by
  have hq : q.Placed :=
    h.invariant (fun _ _ => BattlegroundQueue.placed_step) BattlegroundQueue.placed_empty
  refine ⟨hq, fun guid => ⟨BattlegroundQueue.removePlayer_found hq guid, fun g info hg => ?_⟩⟩
  have hleft : (q.removePlayer guid).Placed := hq.removeLoop _ guid
  refine ⟨?_, hleft.filled g info hg⟩
  cases hf : info.players.find? guid with
  | none => rfl
  | some v =>
    have := (hleft.players guid g).mpr ⟨info, hg, hf⟩
    cases (BattlegroundQueue.removePlayer_found hq guid).symm.trans this

theorem queue_placed_skirmish : ∃ q,
    Run BattlegroundQueue.step BattlegroundQueue.OrderlyQueue {}
      [.addGroup 1 .alliance none 3 false false 10 0, .addGroup 2 .alliance none 3 false false 20 0,
       .update { bracket := 3, freeSlotQueue := [], isArena := true, arenaType := 1,
                 minPlayersPerTeam := 1, maxPlayersPerTeam := 1, newBattleground := some 7 },
       .removePlayer 1] q ∧
    q.Placed ∧ ∀ guid, (q.removePlayer guid).queuedPlayers.find? guid = none ∧
      ∀ g info, (q.removePlayer guid).group g = some info →
        info.players.find? guid = none ∧ ∃ other, info.players.find? other = some () :=
  have h := Admitted.run (by decide +kernel)
  ⟨_, h, queue_placed h⟩

/-- The horde challenges the alliance to a duel: the group of the challenger stays in the list of the
horde under the team of the alliance, and `RemovePlayer` no longer finds him. -/
theorem queue_duel_lost : ∃ q info,
    Run BattlegroundQueue.step (fun _ _ => True) {}
      [.addGroup 1 .horde none 14 false false 10 0, .addGroup 2 .alliance none 14 false false 10 0,
       .duel 0 1 7] q ∧
    q.queuedGroups 14 BG_QUEUE_NORMAL_HORDE = [0] ∧ q.group 0 = some info ∧ info.team = .alliance ∧
    q.queuedPlayers.find? 1 = some 0 ∧ (q.removePlayer 1).queuedPlayers.find? 1 = some 0 :=
  ⟨_, _, Run.free _, by decide, rfl, rfl, by decide, by decide⟩

end SkyfireBG
