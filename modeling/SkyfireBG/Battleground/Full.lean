import SkyfireBG.Battleground.Placed

/-!
# SkyfireBG.Battleground.Full

The queue of one arena type: the groups in it are rated, and until it is invited each is as large as
`HandleBattlemasterJoinArena` let it in.

* `SameGroups`      — an update leaves the players of the groups alone.
* `removeLoop_full` — a group that is not invited leaves as a whole.
* `arena_full`      — so the size is kept in every run.
-/

namespace SkyfireBG

namespace BattlegroundQueue

variable {q q' q'' : BattlegroundQueue} {g n guid fuel : Nat} {b : BattlegroundBracketId}
  {u : QueueUpdate} {info : GroupQueueInfo}

/-- All groups are rated, and those that are not invited have `n` players, `x` apart. -/
def FullBut (n : Nat) (x : Option Nat) (q : BattlegroundQueue) : Prop :=
  ∀ g info, q.group g = some info → info.isRated = true ∧
    (some g ≠ x → info.isInvitedToBGInstanceGUID = 0 → info.players.size = n)

def Full (n : Nat) (q : BattlegroundQueue) : Prop := q.FullBut n none

/-- The groups of `q'` were in `q` with the same players. -/
def SameGroups (q q' : BattlegroundQueue) : Prop :=
  ∀ g info', q'.group g = some info' → ∃ info, q.group g = some info ∧
    info'.players = info.players ∧ info'.isRated = info.isRated ∧
      (info'.isInvitedToBGInstanceGUID = 0 → info.isInvitedToBGInstanceGUID = 0)

theorem SameGroups.of_group (h : q'.group = q.group) : SameGroups q q' := by
  intro g info' hinfo
  rw [h] at hinfo
  exact ⟨info', hinfo, rfl, rfl, id⟩

theorem SameGroups.trans (h : SameGroups q q') (h' : SameGroups q' q'') : SameGroups q q'' := by
  intro g info'' hinfo''
  obtain ⟨info', hinfo', hplayers', hrated', hinvited'⟩ := h' g info'' hinfo''
  obtain ⟨info, hinfo, hplayers, hrated, hinvited⟩ := h g info' hinfo'
  exact ⟨info, hinfo, hplayers'.trans hplayers, hrated'.trans hrated, fun hz => hinvited (hinvited' hz)⟩

theorem SameGroups.full (h : SameGroups q q') (hfull : q.Full n) : q'.Full n := by
  intro g info' hinfo'
  obtain ⟨info, hinfo, hplayers, hrated, hinvited⟩ := h g info' hinfo'
  obtain ⟨hisRated, hsize⟩ := hfull g info hinfo
  rw [hplayers, hrated]
  exact ⟨hisRated, fun hne hz => hsize hne (hinvited hz)⟩

theorem SameGroups.foldl {ε : Type} {f : BattlegroundQueue → ε → BattlegroundQueue}
    (h : ∀ q e, SameGroups q (f q e)) (es : List ε) : SameGroups q (es.foldl f q) := by
  induction es generalizing q with
  | nil => exact .of_group rfl
  | cons e es ih => exact (h q e).trans ih

theorem same_invite (bg : Nat) (side : Option Team) : SameGroups q (q.inviteGroupToBG g bg side) := by
  intro x info' hinfo'
  rw [group_invite] at hinfo'
  by_cases hx : x = g
  · rw [if_pos hx] at hinfo'
    obtain ⟨info, hinfo, rfl⟩ := Option.map_eq_some_iff.mp hinfo'
    refine ⟨info, hx ▸ hinfo, rfl, rfl, fun hz => ?_⟩
    by_contra hne
    rw [GroupQueueInfo.invite] at hz
    exact hne ((if_neg hne).symm.trans hz)
  · rw [if_neg hx] at hinfo'
    exact ⟨info', hinfo', rfl, rfl, id⟩

theorem same_invitePools (bg : Nat) (pools : SelectionPool × SelectionPool) :
    SameGroups q (q.invitePools bg pools) :=
  .foldl (fun _ _ => same_invite bg none) _

theorem demotePremade_group (minPlayers timeBefore : Nat) (t : Team) :
    (q.demotePremade b minPlayers timeBefore t).group = q.group := by
  unfold demotePremade
  split
  · rfl
  · split
    · rfl
    · split <;> rfl

theorem same_changeSide (t : Team) : SameGroups q (q.changeSide b t g) := by
  cases hg : q.group g with
  | none =>
    rw [changeSide, hg]
    exact .of_group rfl
  | some info =>
    rw [changeSide_eq hg]
    intro x info' hinfo'
    rw [moveGroup_group] at hinfo'
    by_cases hx : x = g
    · rw [hx, setGroup_same, Option.some.injEq] at hinfo'
      exact ⟨info, hx ▸ hg, by rw [← hinfo'], by rw [← hinfo'], by rw [← hinfo']; exact id⟩
    · rw [setGroup_ne hx] at hinfo'
      exact ⟨info', hinfo', rfl, rfl, id⟩

theorem moveTo_group (t : Team) : (q.moveTo b t g).group = q.group := by
  unfold moveTo
  split <;> rfl

theorem same_ratedUpdate : SameGroups q (q.ratedUpdate u) := by
  unfold ratedUpdate
  split
  · refine .trans (.of_group ?_) ((same_invite _ _).trans (same_invite _ _))
    rw [moveTo_group, moveTo_group]
  · exact .of_group rfl

theorem same_normalUpdate : SameGroups q (q.normalUpdate u) := by
  have hskirmish : ∀ pools own other q', q.checkSkirmishForSameFaction u pools =
      some (own, other, q') → SameGroups q q' := by
    intro pools own other q' h
    unfold checkSkirmishForSameFaction at h
    simp only at h
    split at h
    · cases h
    split at h
    · cases h
    split at h
    · cases h
    split at h
    · cases h
    cases h
    exact .foldl (fun _ _ => same_changeSide _) _
  unfold normalUpdate
  split
  · split
    · exact same_invitePools _ _
    · exact .of_group rfl
  · split
    · split
      · rename_i hpools
        split
        · exact (hskirmish _ _ _ _ hpools).trans (same_invitePools _ _)
        · exact hskirmish _ _ _ _ hpools
      · exact .of_group rfl
    · exact .of_group rfl

theorem same_premadeUpdate : (∀ q₂ ∈ (q.premadeUpdate u).1, SameGroups q q₂) ∧
    SameGroups q (q.premadeUpdate u).2 := by
  have hsame : SameGroups q q := .of_group rfl
  unfold premadeUpdate
  split
  · exact ⟨fun q₂ h => Option.some.inj h ▸ hsame, hsame⟩
  have hcheck : SameGroups q (q.checkPremadeMatch u).2 := by
    unfold checkPremadeMatch
    split
    · exact hsame
    · exact .of_group (by rw [demotePremade_group, demotePremade_group])
  split
  · rename_i hchecked
    rw [hchecked] at hcheck
    exact ⟨fun q₂ h => Option.some.inj h ▸ hcheck, hcheck⟩
  · rename_i hchecked
    rw [hchecked] at hcheck
    split
    · exact ⟨fun q₂ h => Option.some.inj h ▸ hcheck.trans (same_invitePools _ _), hcheck⟩
    · exact ⟨fun q₂ h => (nomatch h), hcheck⟩

theorem same_update : SameGroups q (q.battlegroundQueueUpdate u) := by
  have hfill : SameGroups q (q.fillFreeSlots u) := by
    unfold fillFreeSlots
    split
    · exact .of_group rfl
    · exact .foldl (fun _ _ => same_invitePools _ _) _
  obtain ⟨hsome, hnone⟩ := same_premadeUpdate (q := q.fillFreeSlots u) (u := u)
  unfold battlegroundQueueUpdate
  dsimp only
  split
  · exact .of_group rfl
  split
  · exact hfill
  split
  · rename_i hpremade
    rw [hpremade] at hnone
    exact hfill.trans hnone
  · rename_i hpremade
    have hq₂ := hfill.trans (hsome _ (congrArg Prod.fst hpremade))
    split
    · exact hq₂.trans same_normalUpdate
    · split
      · exact hq₂.trans same_ratedUpdate
      · exact hq₂

/-- Of a group that is not invited everyone leaves, so that no smaller one is left. -/
theorem removeLoop_full (h : q.Placed) (hfull : q.FullBut n (some g))
    (hp : q.queuedPlayers.find? guid = some g) (hf : q.queuedPlayers.size ≤ fuel) :
    (removeLoop fuel q guid).Full n := by
  have hsize := OrdMap.countP_erase (p := fun _ => true) hp
  rw [← OrdMap.size_eq_countP, ← OrdMap.size_eq_countP, if_pos rfl] at hsize
  induction fuel generalizing q guid with
  | zero => omega
  | succ fuel ih =>
    obtain ⟨info, hg, -⟩ := (h.players guid g).mp hp
    obtain ⟨b, i, hfind, -⟩ := h.findGroup hg
    have hothers : ∀ x ix, x ≠ g → q.group x = some ix → ix.isRated = true ∧
        (ix.isInvitedToBGInstanceGUID = 0 → ix.players.size = n) := fun x ix hx hix =>
      ⟨(hfull x ix hix).1, (hfull x ix hix).2 fun heq => hx (Option.some.inj heq)⟩
    conv => unfold removeLoop
    simp only [hp, hg, hfind, leaveGroup]
    split
    · intro x ix hix
      by_cases hx : x = g
      · rw [hx] at hix
        cases setGroup_same.symm.trans hix
      · obtain ⟨hrated, hn⟩ := hothers x ix hx
          ((setGroup_ne hx).symm.trans ((setGroup_ne hx).symm.trans hix))
        exact ⟨hrated, fun _ => hn⟩
    · rename_i next _ rest hentries
      have hnext := entries_cons hentries
      have hdrop := h.dropPlayer hg hp ⟨next, hnext⟩
      have hdropped : (q.dropPlayer guid g info).FullBut n (some g) := by
        intro x ix hix
        by_cases hx : x = g
        · rw [hx] at hix ⊢
          cases setGroup_same.symm.trans hix
          exact ⟨(hfull g info hg).1, fun hne => (hne rfl).elim⟩
        · obtain ⟨hrated, hn⟩ := hothers x ix hx ((setGroup_ne hx).symm.trans hix)
          exact ⟨hrated, fun _ => hn⟩
      split_ifs with hleaves
      · have hp' : (q.dropPlayer guid g info).queuedPlayers.find? next = some g :=
          (hdrop.players next g).mpr ⟨_, setGroup_same, hnext⟩
        have hsize' := OrdMap.countP_erase (p := fun _ => true) hp'
        rw [← OrdMap.size_eq_countP, ← OrdMap.size_eq_countP, if_pos rfl] at hsize'
        have hfuel : (q.dropPlayer guid g info).queuedPlayers.size = (q.queuedPlayers.erase guid).size :=
          rfl
        exact ih hdrop hdropped hp' (by omega) hsize'
      · -- it is invited
        intro x ix hix
        refine ⟨(hdropped x ix hix).1, fun _ hz => ?_⟩
        by_cases hx : x = g
        · rw [hx] at hix
          cases setGroup_same.symm.trans hix
          simp only [(hfull g info hg).1, Bool.and_true, decide_eq_true_eq] at hleaves
          exact absurd hz hleaves
        · exact (hdropped x ix hix).2 (fun heq => hx (Option.some.inj heq)) hz

/-- What `HandleBattlemasterJoinArena` lets in: a group of `n` players, who are in no queue of this
type. -/
def JoinsArena (n : Nat) (q : BattlegroundQueue) : QueueEvent → Prop
  | .addGroup leader team members b isRated isPremade joinTime rating => isRated = true ∧
    (∃ ms ∈ members, ms.length = n ∧ ms.Nodup) ∧
      q.OrderlyQueue (.addGroup leader team members b isRated isPremade joinTime rating)
  | e => q.OrderlyQueue e

instance (n : Nat) (q : BattlegroundQueue) : (e : QueueEvent) → Decidable (q.JoinsArena n e)
  | .addGroup _ _ _ _ _ _ _ _ => instDecidableAnd
  | .removePlayer guid => inferInstanceAs (Decidable (q.OrderlyQueue (.removePlayer guid)))
  | .inviteGroupToBG g bg side =>
    inferInstanceAs (Decidable (q.OrderlyQueue (.inviteGroupToBG g bg side)))
  | .duel g h bg => inferInstanceAs (Decidable (q.OrderlyQueue (.duel g h bg)))
  | .update u => inferInstanceAs (Decidable (q.OrderlyQueue (.update u)))

theorem JoinsArena.orderly {e : QueueEvent} (h : q.JoinsArena n e) : q.OrderlyQueue e := by
  cases e with
  | addGroup => exact h.2.2
  | removePlayer => exact h
  | inviteGroupToBG => exact h
  | duel => exact h
  | update => exact h

theorem size_foldl_set {l : List Nat} {m : OrdMap Nat Unit} (hl : l.Nodup)
    (hnew : ∀ k ∈ l, m.find? k = none) :
    (l.foldl (fun m k => m.set k ()) m).size = m.size + l.length := by
  induction l generalizing m with
  | nil => rfl
  | cons k l ih =>
    obtain ⟨hk, hl⟩ := List.nodup_cons.mp hl
    rw [List.foldl_cons, ih hl fun k' hk' => ?_, List.length_cons,
      OrdMap.size_set_of_none (hnew k List.mem_cons_self)]
    · omega
    · rw [OrdMap.find?_set_ne fun (heq : k' = k) => hk (heq ▸ hk')]
      exact hnew k' (.tail _ hk')

theorem full_step {e : QueueEvent} (h : q.Placed) (hfull : q.Full n) (he : q.JoinsArena n e) :
    (q.step e).Full n := by
  cases e with
  | addGroup leader team members b isRated isPremade joinTime rating =>
    obtain ⟨hrated, ⟨ms, rfl, hlength, hnodup⟩, -⟩ := he
    intro x ix hix
    by_cases hx : x = q.nextGroup
    · rw [hx] at hix
      cases setGroup_same.symm.trans hix
      refine ⟨hrated, fun _ _ => ?_⟩
      have hsize := size_foldl_set (m := {}) hnodup fun _ _ => rfl
      rw [hlength] at hsize
      exact hsize.trans (Nat.zero_add n)
    · exact hfull x ix ((setGroup_ne hx).symm.trans hix)
  | removePlayer guid =>
    cases hp : q.queuedPlayers.find? guid with
    | none =>
      rw [show q.step (.removePlayer guid) = q from removeLoop_none hp _]
      exact hfull
    | some g =>
      refine removeLoop_full h (fun x ix hix => ?_) hp le_rfl
      exact ⟨(hfull x ix hix).1, fun _ => (hfull x ix hix).2 nofun⟩
  | inviteGroupToBG g bg side => exact (same_invite bg side).full hfull
  | duel group1 group2 bg => exact ((same_invite _ _).trans (same_invite _ _)).full hfull
  | update u => exact same_update.full hfull

/-- The queue of an arena type, after any run. -/
theorem arena_full {es : List QueueEvent} (h : Run step (JoinsArena n) {} es q) :
    q.Placed ∧ q.Full n := by
  refine h.invariant (I := fun q => q.Placed ∧ q.Full n) (fun s e hs he => ?_)
    ⟨placed_empty, fun _ _ hg => (nomatch hg)⟩
  exact ⟨placed_step hs.1 he.orderly, full_step hs.1 hs.2 he⟩

end BattlegroundQueue

end SkyfireBG
