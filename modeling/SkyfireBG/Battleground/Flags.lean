import SkyfireBG.Battleground.Warsong

/-!
# SkyfireBG.Battleground.Flags

What holds of the flags of Warsong Gulch over a whole battle.

* `Reached.flags_inOrder` — keepers, captures, the ground and the end of the battle.
-/

namespace SkyfireBG

@[simp] theorem Team.other_other (t : Team) : t.other.other = t := by cases t <;> rfl

theorem Team.eq_or_other (t u : Team) : u = t ∨ u = t.other := by
  cases t <;> cases u <;> simp [Team.other]

theorem Team.other_ne (t : Team) : t.other ≠ t := by cases t <;> decide

namespace BattlegroundWS

variable {w : WarsongWorld} {s s' s'' : BattlegroundWS} {p target : Nat} {inRange : Bool}
  {t : Team} {dropped : Option Nat} {online : Bool} {diff : Nat}

structure Carrying (w : WarsongWorld) (s : BattlegroundWS) : Prop where
  carried : ∀ t, s.flagState t = .onPlayer ↔ (s.flagKeepers t).isSome
  team : ∀ t k, s.flagKeepers t = some k → w.getTeam k = t.other
  kept : (∀ t, s.flagState t = .onPlayer) → s.bothFlagsKept = true
  scores : ∀ t, s.teamScores t < BG_WS_MAX_TEAM_SCORE

def Listed (s : BattlegroundWS) : Prop :=
  ∀ t k, s.flagKeepers t = some k → s.players.find? k = some (some t.other)

structure Playing (w : WarsongWorld) (s : BattlegroundWS) : Prop extends Carrying w s where
  listed : s.Listed

structure Fresh (s : BattlegroundWS) : Prop where
  keepers : ∀ t, s.flagKeepers t = none
  states : ∀ t, s.flagState t = .onBase
  scores : ∀ t, s.teamScores t = 0

structure Sound (w : WarsongWorld) (s : BattlegroundWS) : Prop where
  fresh : s.status = .waitJoin → s.Fresh
  playing : s.status = .inProgress → s.Playing w
  running : s.status ≠ .waitLeave → s.ends = []
  ended : s.ends.length ≤ 1

theorem Fresh.playing (h : s.Fresh) : s.Playing w where
  carried t := by simp [h.keepers t, h.states t]
  team t k hk := by simp [h.keepers t] at hk
  kept hall := absurd (hall .alliance) (by simp [h.states])
  scores t := by simp [h.scores t, BG_WS_MAX_TEAM_SCORE]
  listed t k hk := by simp [h.keepers t] at hk

theorem Waiting.sound (h : s.Waiting) : s.Sound w where
  fresh _ := ⟨h.keepers, h.states, h.scores⟩
  playing hs := by rw [h.status] at hs; cases hs
  running _ := h.ends
  ended := by simp [h.ends]

structure Settles (s s' : BattlegroundWS) : Prop where
  flag : ∀ t, s'.flagKeepers t = s.flagKeepers t ∧ (s'.flagState t = s.flagState t ∨
      s.flagState t ≠ .onPlayer ∧ s'.flagState t = .onBase) ∨
    (s.flagKeepers t).isSome ∧ s'.flagKeepers t = none ∧
      (s'.flagState t = .onGround ∨ s'.flagState t = .onBase)
  kept : (∀ t, s'.flagState t = .onPlayer) → s'.bothFlagsKept = s.bothFlagsKept

def Grounded (s s' : BattlegroundWS) (t : Team) : Prop :=
  s.flagKeepers t = none → s.flagState t = .onGround → s'.flagKeepers t = none ∧
    s'.flagState t = .onGround ∧ s'.flagsDropTimer t = s.flagsDropTimer t

structure Same (s s' : BattlegroundWS) : Prop where
  players : s'.players = s.players
  scores : s'.teamScores = s.teamScores
  status : s'.status = s.status
  ends : s'.ends = s.ends
  force : s'.flagSpellForceTimer = s.flagSpellForceTimer

theorem Settles.refl (s : BattlegroundWS) : s.Settles s where
  flag _ := .inl ⟨rfl, .inl rfl⟩
  kept _ := rfl

theorem Settles.onPlayer (h : s.Settles s') (hp : s'.flagState t = .onPlayer) :
    s.flagState t = .onPlayer := by
  rcases h.flag t with ⟨-, hst | ⟨-, hst⟩⟩ | ⟨-, -, hst | hst⟩
  · exact hst ▸ hp
  all_goals rw [hst] at hp; cases hp

theorem Settles.keeper (h : s.Settles s') {k : Nat} (hk : s'.flagKeepers t = some k) :
    s.flagKeepers t = some k := by
  rcases h.flag t with ⟨hs, -⟩ | ⟨-, hs, -⟩
  · exact hs ▸ hk
  · rw [hs] at hk
    cases hk

theorem Settles.waitRespawn (h : s.Settles s') (hw : s'.flagState t = .waitRespawn) :
    s.flagState t = .waitRespawn := by
  rcases h.flag t with ⟨-, hst | ⟨-, hst⟩⟩ | ⟨-, -, hst | hst⟩
  · exact hst ▸ hw
  all_goals rw [hst] at hw; cases hw

theorem Carrying.settles (h : s.Carrying w) (hs : s.Settles s')
    (hscores : s'.teamScores = s.teamScores) : s'.Carrying w where
  carried t := by
    have hc := h.carried t
    rcases hs.flag t with ⟨hk, hst | ⟨hne, hst⟩⟩ | ⟨-, hk, hst | hst⟩
    · rw [hk, hst]
      exact hc
    · rw [hk, hst]
      simpa [hne] using hc
    all_goals simp [hk, hst]
  team t k hk := h.team t k (hs.keeper hk)
  kept hall := (hs.kept hall).trans (h.kept fun t => hs.onPlayer (hall t))
  scores t := hscores ▸ h.scores t

theorem Settles.trans (h : s.Settles s') (h' : s'.Settles s'') : s.Settles s'' where
  flag t := by
    rcases h.flag t with ⟨hk, hst⟩ | ⟨hsome, hk, hst⟩
    · rcases h'.flag t with ⟨hk', hst'⟩ | ⟨hsome', hk', hst'⟩
      · refine .inl ⟨hk'.trans hk, ?_⟩
        rcases hst with hst | ⟨hne, hst⟩
        · rcases hst' with hst' | ⟨hne', hst'⟩
          · exact .inl (hst'.trans hst)
          · exact .inr ⟨hst ▸ hne', hst'⟩
        · rcases hst' with hst' | ⟨-, hst'⟩
          · exact .inr ⟨hne, hst'.trans hst⟩
          · exact .inr ⟨hne, hst'⟩
      · exact .inr ⟨hk ▸ hsome', hk', hst'⟩
    · rcases h'.flag t with ⟨hk', hst'⟩ | ⟨hsome', -, -⟩
      · refine .inr ⟨hsome, hk'.trans hk, ?_⟩
        rcases hst' with hst' | ⟨-, hst'⟩
        · rw [hst']
          exact hst
        · exact .inr hst'
      · rw [hk] at hsome'
        cases hsome'
  kept hall := (h'.kept hall).trans (h.kept fun t => h'.onPlayer (hall t))

theorem Grounded.refl (s : BattlegroundWS) (t : Team) : s.Grounded s t :=
  fun hk hst => ⟨hk, hst, rfl⟩

theorem Grounded.trans (h : s.Grounded s' t) (h' : s'.Grounded s'' t) : s.Grounded s'' t := by
  intro hk hst
  obtain ⟨hk', hst', hd⟩ := h hk hst
  obtain ⟨hk'', hst'', hd'⟩ := h' hk' hst'
  exact ⟨hk'', hst'', hd'.trans hd⟩

theorem Same.refl (s : BattlegroundWS) : s.Same s := ⟨rfl, rfl, rfl, rfl, rfl⟩

theorem Same.trans (h : s.Same s') (h' : s'.Same s'') : s.Same s'' where
  players := h'.players.trans h.players
  scores := h'.scores.trans h.scores
  status := h'.status.trans h.status
  ends := h'.ends.trans h.ends
  force := h'.force.trans h.force

/-! ## Drops and departures -/

theorem eventPlayerDroppedFlag_same : s.Same (s.eventPlayerDroppedFlag w p dropped) := by
  unfold eventPlayerDroppedFlag
  dsimp only
  split
  · exact .refl s
  · split
    · exact ⟨rfl, rfl, rfl, rfl, rfl⟩
    · exact ⟨rfl, rfl, rfl, rfl, rfl⟩

theorem eventPlayerDroppedFlag_of_ne (h : s.flagKeepers (w.getTeam p).other ≠ some p) :
    s.eventPlayerDroppedFlag w p dropped = s := by
  unfold eventPlayerDroppedFlag
  rw [if_pos h]

theorem eventPlayerDroppedFlag_keeper (hp : w.getTeam p = t.other) :
    (s.eventPlayerDroppedFlag w p dropped).flagKeepers t ≠ some p := by
  unfold eventPlayerDroppedFlag
  simp only [hp, Team.other_other]
  split
  · rename_i h
    exact h
  · split <;> simp [setFlagPicker, setFlagState]

/-- A flag that is dropped only comes to rest: on the ground, or at its base. -/
theorem eventPlayerDroppedFlag_settles (hs : s.status = .inProgress) :
    s.Settles (s.eventPlayerDroppedFlag w p dropped) := by
  unfold eventPlayerDroppedFlag
  dsimp only
  generalize (w.getTeam p).other = f
  by_cases hk : s.flagKeepers f ≠ some p
  · rw [if_pos hk]
    exact .refl s
  · rw [if_neg hk, if_neg (by simp [hs])]
    constructor
    · intro t
      by_cases ht : t = f
      · subst ht
        right
        simp_all [setFlagPicker, setFlagState]
      · left
        simp [setFlagPicker, setFlagState, ht]
    · intro _
      rfl

theorem eventPlayerDroppedFlag_grounded (t : Team) :
    s.Grounded (s.eventPlayerDroppedFlag w p dropped) t := by
  intro hk hst
  unfold eventPlayerDroppedFlag
  dsimp only
  split
  · exact ⟨hk, hst, rfl⟩
  · rename_i hp
    have ht : t ≠ (w.getTeam p).other := by
      rintro rfl
      rw [hk] at hp
      simp at hp
    split <;> simp [setFlagPicker, setFlagState, ht, hk, hst]

theorem removeKeeper_same : s.Same (s.removeKeeper w p online dropped t) := by
  unfold removeKeeper
  split
  · split
    · exact eventPlayerDroppedFlag_same
    · exact ⟨rfl, rfl, rfl, rfl, rfl⟩
  · exact .refl s

theorem removeKeeper_of_ne (h : s.flagKeepers t ≠ some p) :
    s.removeKeeper w p online dropped t = s := by
  unfold removeKeeper
  rw [if_neg h]

theorem removeKeeper_settles (hs : s.status = .inProgress) :
    s.Settles (s.removeKeeper w p online dropped t) := by
  unfold removeKeeper
  split
  · rename_i hk
    split
    · exact eventPlayerDroppedFlag_settles hs
    · constructor
      · intro u
        by_cases hu : u = t
        · subst hu
          right
          simp [setFlagPicker, respawnFlag, setFlagState, hk]
        · left
          simp [setFlagPicker, respawnFlag, setFlagState, hu]
      · intro hall
        have := hall t
        simp [respawnFlag, setFlagState] at this
  · exact .refl s

theorem removeKeeper_grounded (u : Team) : s.Grounded (s.removeKeeper w p online dropped t) u := by
  unfold removeKeeper
  split
  · rename_i hk
    split
    · exact eventPlayerDroppedFlag_grounded u
    · intro hu hst
      have ht : u ≠ t := by
        rintro rfl
        rw [hk] at hu
        cases hu
      simp [setFlagPicker, respawnFlag, setFlagState, ht, hu, hst]
  · exact .refl s u

/-- A player who leaves keeps no flag. -/
theorem removeKeeper_keeper (hteam : ∀ t k, s.flagKeepers t = some k → w.getTeam k = t.other) :
    (s.removeKeeper w p online dropped t).flagKeepers t ≠ some p := by
  unfold removeKeeper
  split
  · rename_i hk
    split
    · exact eventPlayerDroppedFlag_keeper (hteam t p hk)
    · simp [setFlagPicker, respawnFlag, setFlagState]
  · rename_i hk
    exact hk

theorem removePlayer_same : s.Same (s.removePlayer w p online dropped) :=
  removeKeeper_same.trans removeKeeper_same

theorem removePlayer_settles (hs : s.status = .inProgress) :
    s.Settles (s.removePlayer w p online dropped) :=
  (removeKeeper_settles hs).trans (removeKeeper_settles (removeKeeper_same.status.trans hs))

theorem removePlayer_grounded (t : Team) : s.Grounded (s.removePlayer w p online dropped) t :=
  (removeKeeper_grounded t).trans (removeKeeper_grounded t)

theorem removePlayer_keeper (hs : s.status = .inProgress)
    (hteam : ∀ t k, s.flagKeepers t = some k → w.getTeam k = t.other) (t : Team) :
    (s.removePlayer w p online dropped).flagKeepers t ≠ some p := by
  have hfirst : s.Settles (s.removeKeeper w p online dropped .alliance) := removeKeeper_settles hs
  have hsecond : (s.removeKeeper w p online dropped .alliance).Settles
      (s.removePlayer w p online dropped) :=
    removeKeeper_settles (removeKeeper_same.status.trans hs)
  cases t with
  | alliance => exact fun hk => removeKeeper_keeper hteam (hsecond.keeper hk)
  | horde => exact removeKeeper_keeper fun t k hk => hteam t k (hfirst.keeper hk)

theorem removePlayer_fresh (h : s.Fresh) : s.removePlayer w p online dropped = s := by
  have hfirst : s.removeKeeper w p online dropped .alliance = s :=
    removeKeeper_of_ne (by simp [h.keepers])
  unfold removePlayer
  rw [hfirst]
  exact removeKeeper_of_ne (by simp [h.keepers])

theorem Sound.settles (h : s.Sound w) (hsame : s.Same s')
    (hfresh : s.status = .waitJoin → s.Fresh → s' = s)
    (hs : s.status = .inProgress → s.Settles s') : s'.Sound w where
  fresh hst := by
    have hst := hsame.status ▸ hst
    have hf := h.fresh hst
    rw [hfresh hst hf]
    exact hf
  playing hst := by
    have hst := hsame.status ▸ hst
    have hp := h.playing hst
    exact ⟨hp.settles (hs hst) hsame.scores, fun t k hk => by
      rw [hsame.players]
      exact hp.listed t k ((hs hst).keeper hk)⟩
  running hst := hsame.ends ▸ h.running (hsame.status ▸ hst)
  ended := hsame.ends ▸ h.ended

theorem Sound.drop (h : s.Sound w) : (s.eventPlayerDroppedFlag w p dropped).Sound w :=
  h.settles eventPlayerDroppedFlag_same
    (fun _ hf => eventPlayerDroppedFlag_of_ne (by simp [hf.keepers])) eventPlayerDroppedFlag_settles

theorem Sound.removePlayer (h : s.Sound w) : (s.removePlayer w p online dropped).Sound w :=
  h.settles removePlayer_same (fun _ hf => removePlayer_fresh hf) removePlayer_settles

/-- A player who leaves drops the flag, if any, and all stays in order. -/
theorem Sound.removePlayerAtLeave (h : s.Sound w) :
    (s.removePlayerAtLeave w p online dropped).Sound w := by
  unfold BattlegroundWS.removePlayerAtLeave
  generalize hs₁ : ({ s with toBattleground := s.toBattleground.erasePlayer p } : BattlegroundWS)
    = s₁
  have hstatus : s₁.status = s.status := by rw [← hs₁]; simp
  have hends : s₁.ends = s.ends := by rw [← hs₁]; simp
  have hkeepers : s₁.flagKeepers = s.flagKeepers := by rw [← hs₁]
  have hsame : s₁.Same (s₁.removePlayer w p online dropped) := removePlayer_same
  constructor
  · intro hst
    have hf := h.fresh (hstatus ▸ hsame.status ▸ hst)
    have hf₁ : s₁.Fresh := by
      rw [← hs₁]
      exact ⟨hf.keepers, hf.states, hf.scores⟩
    rw [removePlayer_fresh hf₁]
    exact hf₁
  · intro hst
    have hst₁ : s₁.status = .inProgress := hsame.status ▸ hst
    have hp := h.playing (hstatus ▸ hst₁)
    have hc : s₁.Carrying w := by
      rw [← hs₁]
      exact ⟨hp.carried, hp.team, hp.kept, hp.scores⟩
    have hsettles : s₁.Settles (s₁.removePlayer w p online dropped) := removePlayer_settles hst₁
    refine ⟨hc.settles hsettles hsame.scores, ?_⟩
    intro t k hk
    have hne : k ≠ p := by
      rintro rfl
      exact removePlayer_keeper hst₁ hc.team t hk
    have hk₁ := hsettles.keeper hk
    rw [hsame.players, ← hs₁, Battleground.erasePlayer_listed hne]
    exact hp.listed t k (hkeepers ▸ hk₁)
  · intro hst
    rw [hsame.ends, hends]
    exact h.running fun hs => hst (hsame.status.trans (hstatus.trans hs))
  · rw [hsame.ends, hends]
    exact h.ended

theorem removePlayerAtLeave_grounded (t : Team) :
    s.Grounded (s.removePlayerAtLeave w p online dropped) t :=
  fun hk hst => removePlayer_grounded t hk hst

theorem removePlayerAtLeave_settles (hs : s.status = .inProgress) :
    s.Settles (s.removePlayerAtLeave w p online dropped) := by
  have hst : (s.toBattleground.erasePlayer p).status = .inProgress := by simpa using hs
  have h : ({ s with toBattleground := s.toBattleground.erasePlayer p } : BattlegroundWS).Settles
      (s.removePlayerAtLeave w p online dropped) := removePlayer_settles hst
  exact ⟨h.flag, h.kept⟩

/-! ## Clicks -/

theorem pickUpFromBase_same : s.Same (s.pickUpFromBase w p target t) := by
  unfold pickUpFromBase
  split
  · exact ⟨rfl, rfl, rfl, rfl, rfl⟩
  · exact .refl s

theorem clickOnGround_same : s.Same (s.clickOnGround w p inRange t) := by
  unfold clickOnGround
  split
  · split <;> exact ⟨rfl, rfl, rfl, rfl, rfl⟩
  · exact .refl s

/-- A flag that is picked up is with a player of the other team. -/
theorem Carrying.pickUp (h : s.Carrying w) (hp : w.getTeam p = t.other)
    (hk : s'.flagKeepers = Function.update s.flagKeepers t (some p))
    (hst : s'.flagState = Function.update s.flagState t .onPlayer)
    (hscores : s'.teamScores = s.teamScores)
    (hkept : s.flagState t.other = .onPlayer → s'.bothFlagsKept = true) : s'.Carrying w where
  carried u := by
    by_cases hu : u = t
    · subst hu
      simp [hk, hst]
    · simpa [hk, hst, hu] using h.carried u
  team u k hk' := by
    by_cases hu : u = t
    · subst hu
      simp only [hk, Function.update_self, Option.some.injEq] at hk'
      exact hk' ▸ hp
    · exact h.team u k (by simpa [hk, hu] using hk')
  kept hall := hkept (by simpa [hst, Team.other_ne] using hall t.other)
  scores u := hscores ▸ h.scores u

theorem Listed.pickUp (h : s.Listed) (hp : s.players.find? p = some (some t.other))
    (hk : s'.flagKeepers = Function.update s.flagKeepers t (some p))
    (hplayers : s'.players = s.players) : s'.Listed := by
  intro u k hk'
  rw [hplayers]
  by_cases hu : u = t
  · subst hu
    simp only [hk, Function.update_self, Option.some.injEq] at hk'
    exact hk' ▸ hp
  · exact h u k (by simpa [hk, hu] using hk')

theorem Playing.pickUpFromBase (h : s.Playing w)
    (hp : w.getTeam p = t.other → s.flagState t = .onBase → target = w.flagObject t →
      s.players.find? p = some (some t.other)) : (s.pickUpFromBase w p target t).Playing w := by
  unfold BattlegroundWS.pickUpFromBase
  split
  · rename_i hc
    obtain ⟨hteam, hst, htarget⟩ := hc
    refine ⟨h.toCarrying.pickUp hteam rfl rfl rfl ?_,
      h.listed.pickUp (hp hteam hst htarget.symm) rfl rfl⟩
    intro ho
    simp [ho]
  · exact h

/-- A flag is taken from the ground by a player of the other team, or goes back to its base. -/
theorem Playing.clickOnGround (h : s.Playing w)
    (hp : s.flagState t = .onGround → inRange = true → w.getTeam p = t.other →
      s.players.find? p = some (some t.other) ∧
        (s.flagState t.other = .onPlayer → s.bothFlagsKept = true)) :
    (s.clickOnGround w p inRange t).Playing w := by
  unfold BattlegroundWS.clickOnGround
  split
  · rename_i hc
    by_cases hteam : w.getTeam p = t
    · rw [if_pos hteam]
      have hsettles : s.Settles (s.respawnFlag t false) := by
        constructor
        · intro u
          by_cases hu : u = t
          · subst hu
            exact .inl ⟨rfl, .inr ⟨by simp [hc.1], by simp [respawnFlag, setFlagState]⟩⟩
          · exact .inl ⟨rfl, .inl (by simp [respawnFlag, setFlagState, hu])⟩
        · intro hall
          have := hall t
          simp [respawnFlag, setFlagState] at this
      exact ⟨h.toCarrying.settles hsettles rfl, fun u k hk => h.listed u k (hsettles.keeper hk)⟩
    · rw [if_neg hteam]
      have hother : w.getTeam p = t.other := (Team.eq_or_other t _).resolve_left hteam
      obtain ⟨hlisted, hkept⟩ := hp hc.1 hc.2 hother
      exact ⟨h.toCarrying.pickUp hother rfl rfl rfl hkept, h.listed.pickUp hlisted rfl rfl⟩
  · exact h

theorem pickUpFromBase_of_ground (hp : w.getTeam p = t.other) (hst : s.flagState t = .onGround)
    (u : Team) : s.pickUpFromBase w p target u = s := by
  unfold pickUpFromBase
  rw [if_neg]
  rintro ⟨hteam, hbase, -⟩
  rcases Team.eq_or_other t u with rfl | rfl
  · rw [hst] at hbase
    cases hbase
  · rw [hp, Team.other_other] at hteam
    exact t.other_ne hteam

theorem pickUpFromBase_state (u : Team) (hst : s.flagState u ≠ .onBase) :
    (s.pickUpFromBase w p target t).flagState u = s.flagState u := by
  unfold pickUpFromBase
  split
  · rename_i hc
    have hu : u ≠ t := by
      rintro rfl
      exact hst hc.2.1
    simp [setFlagState, setFlagPicker, hu]
  · rfl

theorem pickUpFromBase_ground {u : Team}
    (h : (s.pickUpFromBase w p target t).flagState u = .onGround) : s.flagState u = .onGround := by
  unfold pickUpFromBase at h
  split at h
  · by_cases hu : u = t
    · subst hu
      simp [setFlagState] at h
    · simpa [setFlagState, setFlagPicker, hu] using h
  · exact h

theorem clickOnGround_state {u : Team} (hu : u ≠ t) :
    (s.clickOnGround w p inRange t).flagState u = s.flagState u := by
  unfold clickOnGround
  split
  · split <;> simp [setFlagState, respawnFlag, setFlagPicker, hu]
  · rfl

/-- The flag that a click on object `target` picks up. -/
def PicksUp (w : WarsongWorld) (s : BattlegroundWS) (source target : Nat) (inRange : Bool)
    (t : Team) : Prop :=
  w.getTeam source = t.other ∧ (s.flagState t = .onBase ∧ target = w.flagObject t ∨
    s.flagState t = .onGround ∧ inRange = true)

structure FairClick (w : WarsongWorld) (s : BattlegroundWS) (source target : Nat) (inRange : Bool)
    (t : Team) : Prop where
  participant : PicksUp w s source target inRange t →
    s.players.find? source = some (some t.other)
  own : s.flagState t = .onGround → inRange = true → target = s.droppedFlagGUID t
  kept : s.flagState t = .onGround → inRange = true → w.getTeam source = t.other →
    s.flagState t.other = .onPlayer → s.bothFlagsKept = true

theorem Playing.clicked (h : s.Playing w) (hf : ∀ t, FairClick w s p target inRange t) :
    (s.eventPlayerClickedOnFlag w p target inRange).Playing w := by
  unfold eventPlayerClickedOnFlag
  split
  · exact h
  have hbaseA : (s.pickUpFromBase w p target .alliance).Playing w :=
    h.pickUpFromBase fun hp hst ht => (hf .alliance).participant ⟨hp, .inl ⟨hst, ht⟩⟩
  generalize hs₁ : s.pickUpFromBase w p target .alliance = s₁ at hbaseA ⊢
  have hsame₁ : s.Same s₁ := hs₁ ▸ pickUpFromBase_same
  have hbaseH : (s₁.pickUpFromBase w p target .horde).Playing w := by
    refine hbaseA.pickUpFromBase fun hp hst ht => ?_
    rw [hsame₁.players]
    refine (hf .horde).participant ⟨hp, .inl ⟨?_, ht⟩⟩
    rw [← hst, ← hs₁]
    unfold BattlegroundWS.pickUpFromBase
    rw [if_neg]
    rw [hp]
    rintro ⟨hne, -⟩
    cases hne
  generalize hs₂ : s₁.pickUpFromBase w p target .horde = s₂ at hbaseH ⊢
  have hsame₂ : s.Same s₂ := hsame₁.trans (hs₂ ▸ pickUpFromBase_same)
  -- who picks a flag up from the ground got nothing from the bases
  have hground : ∀ t, s₂.flagState t = .onGround → w.getTeam p = t.other → s₂ = s := by
    intro t hst hp
    rw [← hs₂] at hst
    have hst₁ := pickUpFromBase_ground hst
    rw [← hs₁] at hst₁
    have hst₀ := pickUpFromBase_ground hst₁
    rw [← hs₂, ← hs₁, pickUpFromBase_of_ground hp hst₀, pickUpFromBase_of_ground hp hst₀]
  have hgroundA : (s₂.clickOnGround w p inRange .alliance).Playing w := by
    refine hbaseH.clickOnGround fun hst hr hp => ?_
    have hs := hground _ hst hp
    rw [hs] at hst ⊢
    exact ⟨(hf .alliance).participant ⟨hp, .inr ⟨hst, hr⟩⟩, (hf .alliance).kept hst hr hp⟩
  refine hgroundA.clickOnGround fun hst hr hp => ?_
  rw [clickOnGround_state (by decide)] at hst
  have hs := hground _ hst hp
  rw [hs] at hst ⊢
  constructor
  · rw [clickOnGround_same.players]
    exact (hf .horde).participant ⟨hp, .inr ⟨hst, hr⟩⟩
  · intro ho
    -- the Alliance flag is still carried, so its own block did nothing
    have hnot : s.clickOnGround w p inRange .alliance = s := by
      unfold BattlegroundWS.clickOnGround at ho ⊢
      by_cases hc : s.flagState .alliance = .onGround ∧ inRange = true
      · rw [if_pos hc, if_pos (show w.getTeam p = .alliance from hp)] at ho
        simp [Team.other, respawnFlag, setFlagState] at ho
      · rw [if_neg hc]
    rw [hnot] at ho ⊢
    exact (hf .horde).kept hst hr hp ho

theorem clicked_same : s.Same (s.eventPlayerClickedOnFlag w p target inRange) := by
  unfold eventPlayerClickedOnFlag
  split
  · exact .refl s
  · exact pickUpFromBase_same.trans (pickUpFromBase_same.trans
      (clickOnGround_same.trans clickOnGround_same))

theorem clicked_ground (hst : s.flagState t = .onGround)
    (h : (s.eventPlayerClickedOnFlag w p target inRange).flagState t ≠ .onGround) :
    inRange = true := by
  by_contra hr
  refine h ?_
  have hout : ∀ (s : BattlegroundWS) u, s.clickOnGround w p inRange u = s := by
    intro s u
    unfold clickOnGround
    rw [if_neg fun hc => hr hc.2]
  unfold eventPlayerClickedOnFlag
  split
  · exact hst
  · rw [hout, hout]
    have hfirst : (s.pickUpFromBase w p target .alliance).flagState t = s.flagState t :=
      pickUpFromBase_state t (by simp [hst])
    rw [pickUpFromBase_state t (by simp [hfirst, hst]), hfirst]
    exact hst

theorem clicked_waitRespawn
    (h : (s.eventPlayerClickedOnFlag w p target inRange).flagState t = .waitRespawn) :
    s.flagState t = .waitRespawn := by
  have hbase : ∀ (s : BattlegroundWS) u,
      (s.pickUpFromBase w p target u).flagState t = .waitRespawn → s.flagState t = .waitRespawn := by
    intro s u hu
    unfold pickUpFromBase at hu
    split at hu
    · by_cases ht : t = u
      · subst ht
        simp [setFlagState] at hu
      · simpa [setFlagState, setFlagPicker, ht] using hu
    · exact hu
  have hground : ∀ (s : BattlegroundWS) u,
      (s.clickOnGround w p inRange u).flagState t = .waitRespawn → s.flagState t = .waitRespawn := by
    intro s u hu
    unfold clickOnGround at hu
    split at hu
    · by_cases ht : t = u
      · subst ht
        split at hu <;> simp [setFlagState, respawnFlag] at hu
      · split at hu <;> simpa [setFlagState, setFlagPicker, respawnFlag, ht] using hu
    · exact hu
  unfold eventPlayerClickedOnFlag at h
  split at h
  · exact h
  · exact hbase _ _ (hbase _ _ (hground _ _ (hground _ _ h)))

/-- While nobody has won, nobody has three captures. -/
theorem winner_none (h : s.winner = none) (t : Team) : s.teamScores t ≠ BG_WS_MAX_TEAM_SCORE := by
  unfold winner at h
  split at h
  · cases h
  · split at h
    · cases h
    · cases t <;> assumption

/-- A captured flag waits for its respawn, the score rises, and the third capture ends the battle. -/
structure Captures (s s' : BattlegroundWS) (t : Team) : Prop where
  players : s'.players = s.players
  keepers : s'.flagKeepers = Function.update s.flagKeepers t.other none
  states : s'.flagState = Function.update s.flagState t.other .waitRespawn
  scores : s'.teamScores = Function.update s.teamScores t (s.teamScores t + 1)
  kept : s'.bothFlagsKept = s.bothFlagsKept
  outcome : s'.status = s.status ∧ s'.ends = s.ends ∧
      (∀ u, s'.teamScores u ≠ BG_WS_MAX_TEAM_SCORE) ∨
    s'.status = .waitLeave ∧ ∃ winner, s'.ends = winner :: s.ends

/-- A capture is one point, and the captured flag waits for its respawn. -/
theorem eventPlayerCapturedFlag_captures (hs : s.status = .inProgress) (hp : w.getTeam p = t)
    (hk : s.flagKeepers t.other = some p) (hscore : s.teamScores t < BG_WS_MAX_TEAM_SCORE) :
    s.Captures (s.eventPlayerCapturedFlag w p) t := by
  unfold eventPlayerCapturedFlag
  dsimp only
  rw [hp, if_neg (by simp [hs, hk])]
  have hlow : ((s.setFlagPicker t.other none).setFlagState t.other .waitRespawn).teamScores t <
      BG_WS_MAX_TEAM_SCORE := hscore
  rw [if_pos hlow]
  generalize hs₁ : ({ (((s.setFlagPicker t.other none).setFlagState t.other
    .waitRespawn).addPoint t) with lastFlagCaptureTeam := some t } : BattlegroundWS) = s₁
  cases hw : s₁.winner with
  | some u =>
    subst hs₁
    exact ⟨rfl, rfl, rfl, rfl, rfl, .inr ⟨rfl, some u, rfl⟩⟩
  | none =>
    subst hs₁
    exact ⟨rfl, rfl, rfl, rfl, rfl, .inl ⟨rfl, rfl, winner_none hw⟩⟩

/-- An area trigger does nothing, or it is a capture with the own flag at its base. -/
theorem handleAreaTrigger_cases (h : s.Playing w) (hs : s.status = .inProgress) (trigger : Nat) :
    s.handleAreaTrigger w p trigger = s ∨ s.flagKeepers (w.getTeam p).other = some p ∧
      s.flagState (w.getTeam p) = .onBase ∧
      s.Captures (s.handleAreaTrigger w p trigger) (w.getTeam p) := by
  have key : ∀ t : Team, s.flagState t = .onBase → s.flagKeepers t.other = some p →
      s.flagKeepers (w.getTeam p).other = some p ∧ s.flagState (w.getTeam p) = .onBase ∧
        s.Captures (s.eventPlayerCapturedFlag w p) (w.getTeam p) := by
    intro t hst hk
    have hp : w.getTeam p = t := by simpa using h.team t.other p hk
    exact ⟨hp ▸ hk, hp ▸ hst, hp ▸ eventPlayerCapturedFlag_captures hs hp hk (h.scores t)⟩
  unfold handleAreaTrigger
  rw [if_neg (by simp [hs])]
  split
  · split
    · rename_i hc
      exact .inr (key .alliance hc.2.1 hc.2.2)
    · exact .inl rfl
  · split
    · split
      · rename_i hc
        exact .inr (key .horde hc.2.1 hc.2.2)
      · exact .inl rfl
    · exact .inl rfl

theorem Captures.playing (hc : s.Captures s' t) (h : s.Playing w)
    (hscores : ∀ u, s'.teamScores u ≠ BG_WS_MAX_TEAM_SCORE) : s'.Playing w where
  carried u := by
    rw [hc.keepers, hc.states]
    by_cases hu : u = t.other
    · subst hu
      simp
    · simpa [hu] using h.carried u
  team u k hk := by
    rw [hc.keepers] at hk
    by_cases hu : u = t.other
    · subst hu
      simp at hk
    · exact h.team u k (by simpa [hu] using hk)
  kept hall := absurd (hall t.other) (by simp [hc.states])
  scores u := by
    have hne := hscores u
    rw [hc.scores] at hne ⊢
    have hlt := h.scores u
    by_cases hu : u = t
    · subst hu
      simp only [Function.update_self] at hne ⊢
      omega
    · simpa [hu] using hlt
  listed u k hk := by
    rw [hc.players]
    rw [hc.keepers] at hk
    by_cases hu : u = t.other
    · subst hu
      simp at hk
    · exact h.listed u k (by simpa [hu] using hk)

theorem Sound.areaTrigger (h : s.Sound w) (trigger : Nat) :
    (s.handleAreaTrigger w p trigger).Sound w := by
  by_cases hs : s.status = .inProgress
  · have hp := h.playing hs
    rcases handleAreaTrigger_cases hp hs trigger with heq | ⟨-, -, hc⟩
    · rw [heq]
      exact h
    · have hends := h.running (by simp [hs])
      rcases hc.outcome with ⟨hst, he, hscores⟩ | ⟨hst, winner, he⟩
      · exact {
          fresh := by simp [hst, hs]
          playing := fun _ => hc.playing hp hscores
          running := fun _ => he.trans hends
          ended := by simp [he, hends] }
      · exact {
          fresh := by simp [hst]
          playing := by simp [hst]
          running := by simp [hst]
          ended := by simp [he, hends] }
  · unfold handleAreaTrigger
    rw [if_pos hs]
    exact h

/-! ## Updates -/

theorem respawnFlag_settles (hst : s.flagState t ≠ .onPlayer)
    (hk : s'.flagKeepers = s.flagKeepers)
    (hstate : s'.flagState = Function.update s.flagState t .onBase) : s.Settles s' := by
  constructor
  · intro u
    by_cases hu : u = t
    · subst hu
      exact .inl ⟨by rw [hk], .inr ⟨hst, by simp [hstate]⟩⟩
    · exact .inl ⟨by rw [hk], .inl (by simp [hstate, hu])⟩
  · intro hall
    have := hall t
    simp [hstate] at this

theorem updateRespawn_same : s.Same (s.updateRespawn diff t) := by
  unfold updateRespawn
  dsimp only
  split
  · split <;> exact ⟨rfl, rfl, rfl, rfl, rfl⟩
  · exact .refl s

theorem updateRespawn_settles : s.Settles (s.updateRespawn diff t) := by
  unfold updateRespawn
  dsimp only
  split
  · rename_i hst
    split
    · exact respawnFlag_settles (t := t) (by simp [hst]) rfl rfl
    · exact ⟨fun _ => .inl ⟨rfl, .inl rfl⟩, fun _ => rfl⟩
  · exact .refl s

theorem updateRespawn_grounded (u : Team) : s.Grounded (s.updateRespawn diff t) u := by
  intro hk hst
  unfold updateRespawn
  dsimp only
  split
  · rename_i hw
    have hu : u ≠ t := by
      rintro rfl
      rw [hst] at hw
      cases hw
    split <;> simp [respawnFlag, setFlagState, hu, hk, hst]
  · exact ⟨hk, hst, rfl⟩

theorem updateDrop_same : s.Same (s.updateDrop diff t) := by
  unfold updateDrop respawnFlagAfterDrop
  dsimp only
  split
  · split
    · split <;> exact ⟨rfl, rfl, rfl, rfl, rfl⟩
    · exact ⟨rfl, rfl, rfl, rfl, rfl⟩
  · exact .refl s

theorem updateDrop_settles : s.Settles (s.updateDrop diff t) := by
  unfold updateDrop respawnFlagAfterDrop
  dsimp only
  split
  · rename_i hst
    split
    · split
      · refine ⟨fun _ => .inl ⟨rfl, .inl rfl⟩, fun hall => ?_⟩
        have ht : s.flagState t = .onPlayer := hall t
        rw [hst] at ht
        cases ht
      · exact respawnFlag_settles (t := t) (by simp [hst]) rfl rfl
    · exact ⟨fun _ => .inl ⟨rfl, .inl rfl⟩, fun _ => rfl⟩
  · exact .refl s

/-- A flag on the ground stays there until its timer has run out. -/
theorem updateDrop_grounded (u : Team) (h : u = t → 0 ≤ subInt32 (s.flagsDropTimer u) diff) :
    s.flagState u = .onGround → (s.updateDrop diff t).flagState u = .onGround := by
  intro hst
  unfold updateDrop respawnFlagAfterDrop
  dsimp only
  split
  · split
    · rename_i hneg
      have hu : u ≠ t := by
        rintro rfl
        exact absurd (h rfl) (by omega)
      split <;> simp [respawnFlag, setFlagState, hu, hst]
    · exact hst
  · exact hst

theorem updateDrop_timer {u : Team} (hu : u ≠ t) :
    (s.updateDrop diff t).flagsDropTimer u = s.flagsDropTimer u := by
  unfold updateDrop respawnFlagAfterDrop
  dsimp only
  split
  · split
    · split <;> simp [respawnFlag, setFlagState, hu]
    · simp [hu]
  · rfl

theorem updateDebuff_eq (diff : Nat) (s : BattlegroundWS) :
    (s.updateDebuff diff).toBattleground = s.toBattleground ∧
      (s.updateDebuff diff).flagKeepers = s.flagKeepers ∧
      (s.updateDebuff diff).flagState = s.flagState ∧
      (s.updateDebuff diff).teamScores = s.teamScores ∧
      (s.updateDebuff diff).bothFlagsKept = s.bothFlagsKept ∧
      (s.bothFlagsKept = true →
        (s.updateDebuff diff).flagSpellForceTimer = addInt32 s.flagSpellForceTimer diff) := by
  unfold updateDebuff
  dsimp only
  split
  · split
    · exact ⟨rfl, rfl, rfl, rfl, rfl, fun _ => rfl⟩
    · split <;> exact ⟨rfl, rfl, rfl, rfl, rfl, fun _ => rfl⟩
  · rename_i hb
    exact ⟨rfl, rfl, rfl, rfl, rfl, fun h => absurd h hb⟩

theorem checkTime_eq (s : BattlegroundWS) :
    s.checkTime.players = s.players ∧ s.checkTime.flagKeepers = s.flagKeepers ∧
      s.checkTime.flagState = s.flagState ∧ s.checkTime.teamScores = s.teamScores ∧
      s.checkTime.bothFlagsKept = s.bothFlagsKept ∧
      s.checkTime.flagsDropTimer = s.flagsDropTimer ∧
      s.checkTime.flagSpellForceTimer = s.flagSpellForceTimer ∧
      (s.checkTime.status = s.status ∧ s.checkTime.ends = s.ends ∨
        s.checkTime.status = .waitLeave ∧ ∃ winner, s.checkTime.ends = winner :: s.ends) := by
  unfold checkTime
  split
  · exact ⟨rfl, rfl, rfl, rfl, rfl, rfl, rfl, .inr ⟨rfl, _, rfl⟩⟩
  · split <;> exact ⟨rfl, rfl, rfl, rfl, rfl, rfl, rfl, .inl ⟨rfl, rfl⟩⟩

/-- The two flags' timers, in the order of `PostUpdateImpl`. -/
def updateFlags (diff : Nat) (s : BattlegroundWS) : BattlegroundWS :=
  ((s.updateRespawn diff .alliance).updateDrop diff .alliance
    |>.updateRespawn diff .horde).updateDrop diff .horde

theorem updateFlags_same : s.Same (s.updateFlags diff) :=
  updateRespawn_same.trans (updateDrop_same.trans (updateRespawn_same.trans updateDrop_same))

theorem updateFlags_settles : s.Settles (s.updateFlags diff) :=
  updateRespawn_settles.trans
    (updateDrop_settles.trans (updateRespawn_settles.trans updateDrop_settles))

theorem updateFlags_ground (hk : s.flagKeepers t = none) (hst : s.flagState t = .onGround)
    (hleft : 0 ≤ subInt32 (s.flagsDropTimer t) diff) :
    (s.updateFlags diff).flagState t = .onGround := by
  have hfirst : s.Grounded (s.updateRespawn diff .alliance) t := updateRespawn_grounded t
  unfold updateFlags
  generalize s.updateRespawn diff .alliance = s₁ at hfirst ⊢
  obtain ⟨hk₁, hst₁, hd₁⟩ := hfirst hk hst
  have hsecond : (s₁.updateDrop diff .alliance).flagState t = .onGround :=
    updateDrop_grounded t (fun _ => hd₁ ▸ hleft) hst₁
  have hkeeper : (s₁.updateDrop diff .alliance).flagKeepers t = none := by
    have hsettles : s₁.Settles (s₁.updateDrop diff .alliance) := updateDrop_settles
    rcases hsettles.flag t with h | h
    · exact h.1.trans hk₁
    · exact h.2.1
  have htimer : t ≠ .alliance →
      (s₁.updateDrop diff .alliance).flagsDropTimer t = s.flagsDropTimer t :=
    fun ht => (updateDrop_timer ht).trans hd₁
  generalize s₁.updateDrop diff .alliance = s₂ at hsecond hkeeper htimer ⊢
  have hthird : s₂.Grounded (s₂.updateRespawn diff .horde) t := updateRespawn_grounded t
  obtain ⟨-, hst₃, hd₃⟩ := hthird hkeeper hsecond
  refine updateDrop_grounded t (fun ht => ?_) hst₃
  rw [hd₃, htimer (by rw [ht]; decide)]
  exact hleft

theorem Settles.of_eq (hk : s'.flagKeepers = s.flagKeepers) (hst : s'.flagState = s.flagState)
    (hb : s'.bothFlagsKept = s.bothFlagsKept) : s.Settles s' :=
  ⟨fun t => .inl ⟨congrFun hk t, .inl (congrFun hst t)⟩, fun _ => hb⟩

theorem Sound.carry (h : s.Sound w) (hk : s'.flagKeepers = s.flagKeepers)
    (hst : s'.flagState = s.flagState) (hsc : s'.teamScores = s.teamScores)
    (hb : s'.bothFlagsKept = s.bothFlagsKept)
    (hlisted : s.status = .inProgress → s.Listed → s'.Listed)
    (hstatus : s'.status = s.status ∧ s'.ends = s.ends ∨
      s.status ≠ .waitLeave ∧ s'.status = .waitLeave ∧ ∃ winner, s'.ends = winner :: s.ends) :
    s'.Sound w := by
  rcases hstatus with ⟨hs, he⟩ | ⟨hne, hs, winner, he⟩
  · constructor
    · intro hw
      have hf := h.fresh (hs ▸ hw)
      exact ⟨hk ▸ hf.keepers, hst ▸ hf.states, hsc ▸ hf.scores⟩
    · intro hp
      have hplay := h.playing (hs ▸ hp)
      exact ⟨hplay.settles (.of_eq hk hst hb) hsc, hlisted (hs ▸ hp) hplay.listed⟩
    · exact fun hl => he.trans (h.running (hs ▸ hl))
    · exact he ▸ h.ended
  · have hnil := h.running hne
    exact {
      fresh := by simp [hs]
      playing := by simp [hs]
      running := by simp [hs]
      ended := by simp [he, hnil] }

theorem Sound.clicked (h : s.Sound w)
    (hf : s.status = .inProgress → ∀ t, FairClick w s p target inRange t) :
    (s.eventPlayerClickedOnFlag w p target inRange).Sound w := by
  by_cases hs : s.status = .inProgress
  · have hsame : s.Same (s.eventPlayerClickedOnFlag w p target inRange) := clicked_same
    exact {
      fresh := by simp [hsame.status, hs]
      playing := fun _ => (h.playing hs).clicked (hf hs)
      running := fun hne => hsame.ends ▸ h.running (hsame.status ▸ hne)
      ended := hsame.ends ▸ h.ended }
  · unfold eventPlayerClickedOnFlag
    rw [if_pos hs]
    exact h

theorem Sound.touchPlayer (h : s.Sound w) :
    ({ s with toBattleground := s.toBattleground.touchPlayer p } : BattlegroundWS).Sound w :=
  h.carry rfl rfl rfl rfl
    (fun _ hl t k hk => Battleground.touchPlayer_listed (hl t k hk)) (.inl ⟨by simp, by simp⟩)

theorem Sound.processOfflineQueue (h : s.Sound w) (u : WarsongUpdate) :
    (s.processOfflineQueue w u).Sound w := by
  unfold BattlegroundWS.processOfflineQueue
  split
  · exact h
  · split
    · exact h
    · exact h.removePlayerAtLeave

theorem Sound.processLeave (h : s.Sound w) (u : WarsongUpdate) : (s.processLeave w u).Sound w := by
  have hfold : ∀ (l : List Nat) (s : BattlegroundWS), s.Sound w →
      (l.foldl (fun s guid => s.removePlayerAtLeave w guid (u.online guid) u.dropped) s).Sound w := by
    intro l
    induction l with
    | nil => exact fun s hs => hs
    | cons guid l ih => exact fun s hs => ih _ hs.removePlayerAtLeave
  unfold BattlegroundWS.processLeave
  dsimp only
  split
  · exact hfold _ _ (h.carry rfl rfl rfl rfl (fun _ hl => hl) (.inl ⟨rfl, rfl⟩))
  · exact h.carry rfl rfl rfl rfl (fun _ hl => hl) (.inl ⟨rfl, rfl⟩)

theorem Sound.processJoin (h : s.Sound w) (hs : s.status = .waitJoin) (delay : StartDelay) :
    ({ s with toBattleground := s.toBattleground.processJoin delay } : BattlegroundWS).Sound w := by
  have hf := h.fresh hs
  have hends : s.ends = [] := h.running (by simp [hs])
  cases delay with
  | running => exact h
  | ended =>
    have hfresh : ({ s with toBattleground := s.toBattleground.processJoin .ended } :
        BattlegroundWS).Fresh := ⟨hf.keepers, hf.states, hf.scores⟩
    exact ⟨fun _ => hfresh, fun _ => hfresh.playing, fun _ => hends, h.ended⟩
  | setupFailed =>
    exact ⟨nofun, nofun, fun _ => hends, h.ended⟩

/-- The part of `Update` before `PostUpdateImpl`, in a battle that goes on. -/
def beforePost (w : WarsongWorld) (u : WarsongUpdate) (s : BattlegroundWS) : BattlegroundWS :=
  let s := s.processOfflineQueue w u
  let s := { s with
    toBattleground := s.toBattleground.checkPremature w.toBattlegroundSettings u.diff }
  { s with toBattleground := s.toBattleground.addStartTime u.diff }

theorem Sound.beforePost (h : s.Sound w) (hs : s.status = .inProgress) (u : WarsongUpdate) :
    (s.beforePost w u).Sound w := by
  unfold BattlegroundWS.beforePost
  dsimp only
  have hoff := h.processOfflineQueue u
  have hstatus : (s.processOfflineQueue w u).status = .inProgress := by
    unfold BattlegroundWS.processOfflineQueue
    split
    · exact hs
    · split
      · exact hs
      · refine removePlayer_same.status.trans ?_
        simpa using hs
  generalize s.processOfflineQueue w u = s₁ at hoff hstatus ⊢
  obtain ⟨hplayers, hcases⟩ := Battleground.checkPremature_cases w.toBattlegroundSettings u.diff
    s₁.toBattleground
  refine hoff.carry rfl rfl rfl rfl ?_ ?_
  · intro _ hl t k hk
    have := hl t k hk
    rw [← hplayers] at this
    exact this
  · rcases hcases with hsame | hend
    · exact .inl hsame
    · exact .inr ⟨by simp [hstatus], hend⟩

theorem postUpdateImpl_eq (diff : Nat) (s : BattlegroundWS) : s.postUpdateImpl diff =
    if s.status = .inProgress then (s.checkTime.updateFlags diff).updateDebuff diff else s := rfl

theorem Sound.postUpdateImpl (h : s.Sound w) : (s.postUpdateImpl diff).Sound w := by
  rw [postUpdateImpl_eq]
  split
  · rename_i hs
    obtain ⟨hplayers, hk, hst, hsc, hb, -, -, hcases⟩ := checkTime_eq s
    have htime : s.checkTime.Sound w := by
      refine h.carry hk hst hsc hb (fun _ hl t k hkeep => ?_) ?_
      · rw [hplayers]
        exact hl t k (hk ▸ hkeep)
      · rcases hcases with hsame | hend
        · exact .inl hsame
        · exact .inr ⟨by simp [hs], hend⟩
    have hne : s.checkTime.status ≠ .waitJoin := by
      rcases hcases with ⟨hsame, -⟩ | ⟨hend, -⟩
      · simp [hsame, hs]
      · simp [hend]
    have hflags : (s.checkTime.updateFlags diff).Sound w :=
      htime.settles updateFlags_same (fun hw => absurd hw hne) fun _ => updateFlags_settles
    obtain ⟨hbase, hk', hst', hsc', hb', -⟩ := updateDebuff_eq diff (s.checkTime.updateFlags diff)
    refine hflags.carry hk' hst' hsc' hb' (fun _ hl t k hkeep => ?_)
      (.inl ⟨congrArg Battleground.status hbase, congrArg Battleground.ends hbase⟩)
    have := hl t k (hk' ▸ hkeep)
    rw [← congrArg Battleground.players hbase] at this
    exact this
  · exact h

theorem update_of_inProgress (hs : s.status = .inProgress) (u : WarsongUpdate) :
    s.update w u = if s.players.size = 0 then s else (s.beforePost w u).postUpdateImpl u.diff := by
  unfold update beforePost
  rw [hs]

theorem Sound.addStartTime (h : s.Sound w) :
    ({ s with toBattleground := s.toBattleground.addStartTime diff } : BattlegroundWS).Sound w :=
  h.carry rfl rfl rfl rfl (fun _ hl => hl) (.inl ⟨rfl, rfl⟩)

/-- An update keeps the flags in order in every phase of the battleground. -/
theorem Sound.update (h : s.Sound w) (u : WarsongUpdate) : (s.update w u).Sound w := by
  cases hs : s.status with
  | waitJoin =>
    unfold BattlegroundWS.update
    rw [hs]
    split
    · exact h
    · exact (h.processJoin hs u.delay).addStartTime.postUpdateImpl
  | inProgress =>
    rw [update_of_inProgress hs]
    split
    · exact h
    · exact (h.beforePost hs u).postUpdateImpl
  | waitLeave =>
    unfold BattlegroundWS.update
    rw [hs]
    split
    · exact h
    · exact (h.processLeave u).addStartTime.postUpdateImpl

/-! ## Runs -/

/-- What a step must be, while the battle goes on, for the flags to stay in order. -/
def Fair (w : WarsongWorld) (s : BattlegroundWS) (a : Act) : Prop :=
  s.status = .inProgress → match a with
    | .click source target inRange => ∀ t, FairClick w s source target inRange t
    | .addPlayer guid team => ∀ t, s.flagKeepers t = some guid → team = t.other
    | _ => True

inductive Reached (w : WarsongWorld) : BattlegroundWS → Prop where
  | start {s : BattlegroundWS} (h : s.Waiting) : Reached w s
  | act {s : BattlegroundWS} (h : Reached w s) (a : Act) (hf : s.Fair w a) : Reached w (s.act w a)

/-- A fair act keeps the flags in order. -/
theorem Sound.act (h : s.Sound w) {a : Act} (hf : s.Fair w a) : (s.act w a).Sound w := by
  cases a with
  | addPlayer guid team =>
    refine h.carry rfl rfl rfl rfl (fun hs hl t k hk => ?_) (.inl ⟨rfl, rfl⟩)
    rw [BattlegroundWS.act, Battleground.addPlayer_listed]
    split
    · rename_i hkp
      rw [hf hs t (hkp ▸ hk)]
    · exact hl t k hk
  | loggedIn guid => exact h.touchPlayer
  | loggedOut guid dropped =>
    change (s.eventPlayerLoggedOut w guid dropped).Sound w
    unfold BattlegroundWS.eventPlayerLoggedOut
    dsimp only
    split
    · exact h.touchPlayer.removePlayer
    · exact h.touchPlayer
  | leave guid online dropped => exact h.removePlayerAtLeave
  | click source target inRange => exact h.clicked hf
  | drop source dropped => exact h.drop
  | kill guid dropped =>
    change (s.handleKillPlayer w guid dropped).Sound w
    unfold handleKillPlayer
    split
    · exact h
    · exact h.drop
  | areaTrigger source trigger => exact h.areaTrigger trigger
  | update u => exact h.update u

theorem Reached.sound (h : Reached w s) : s.Sound w := by
  induction h with
  | start h => exact h.sound
  | act h a hf ih => exact ih.act hf

structure Orderly (w : WarsongWorld) (s : BattlegroundWS) (a : Act) : Prop where
  ground : ∀ t, s.flagState t = .onGround → (s.act w a).flagState t ≠ .onGround →
    (∃ source inRange, a = .click source (s.droppedFlagGUID t) inRange) ∨
      ∃ u, a = .update u ∧ subInt32 (s.flagsDropTimer t) u.diff < 0
  capture : ∀ t, (s.act w a).teamScores t ≠ s.teamScores t ∨
      (s.act w a).flagState t.other = .waitRespawn ∧ s.flagState t.other ≠ .waitRespawn →
    ∃ source trigger, a = .areaTrigger source trigger ∧ w.getTeam source = t ∧
      s.flagKeepers t.other = some source ∧ s.flagState t = .onBase ∧
      (s.act w a).teamScores t = s.teamScores t + 1 ∧
      (s.act w a).teamScores t ≤ BG_WS_MAX_TEAM_SCORE
  timer : ∀ u, a = .update u → (s.act w a).status = .inProgress →
    (∀ t, (s.act w a).flagState t = .onPlayer) →
    (s.act w a).flagSpellForceTimer = addInt32 s.flagSpellForceTimer u.diff

theorem Orderly.of_settles {a : Act} (hs : s.Settles (s.act w a))
    (hscores : (s.act w a).teamScores = s.teamScores) (hg : ∀ t, s.flagState t = .onGround →
      (s.act w a).flagState t ≠ .onGround →
      (∃ source inRange, a = .click source (s.droppedFlagGUID t) inRange) ∨
        ∃ u, a = .update u ∧ subInt32 (s.flagsDropTimer t) u.diff < 0)
    (ht : ∀ u, a = .update u → (s.act w a).status = .inProgress →
      (∀ t, (s.act w a).flagState t = .onPlayer) →
      (s.act w a).flagSpellForceTimer = addInt32 s.flagSpellForceTimer u.diff) :
    s.Orderly w a where
  ground := hg
  capture t hc := by
    rcases hc with hc | ⟨hw, hne⟩
    · exact absurd (congrFun hscores t) hc
    · exact absurd (hs.waitRespawn hw) hne
  timer := ht

theorem Carrying.ground (h : s.Carrying w) (hst : s.flagState t = .onGround) :
    s.flagKeepers t = none := by
  have hc := h.carried t
  rw [hst] at hc
  simpa using hc

theorem processOfflineQueue_steps (hs : s.status = .inProgress) (u : WarsongUpdate) :
    s.Settles (s.processOfflineQueue w u) ∧ (∀ t, s.Grounded (s.processOfflineQueue w u) t) ∧
      (s.processOfflineQueue w u).teamScores = s.teamScores ∧
      (s.processOfflineQueue w u).flagSpellForceTimer = s.flagSpellForceTimer := by
  unfold processOfflineQueue
  split
  · exact ⟨.refl s, .refl s, rfl, rfl⟩
  · split
    · exact ⟨.refl s, .refl s, rfl, rfl⟩
    · exact ⟨removePlayerAtLeave_settles hs, removePlayerAtLeave_grounded,
        removePlayer_same.scores, removePlayer_same.force⟩

theorem beforePost_steps (hs : s.status = .inProgress) (u : WarsongUpdate) :
    s.Settles (s.beforePost w u) ∧ (∀ t, s.Grounded (s.beforePost w u) t) ∧
      (s.beforePost w u).teamScores = s.teamScores ∧
      (s.beforePost w u).flagSpellForceTimer = s.flagSpellForceTimer := by
  obtain ⟨hsettles, hground, hscores, hforce⟩ := processOfflineQueue_steps (w := w) hs u
  exact ⟨hsettles.trans (.of_eq rfl rfl rfl), hground, hscores, hforce⟩

theorem postUpdateImpl_steps (diff : Nat) (s : BattlegroundWS) :
    s.Settles (s.postUpdateImpl diff) ∧
      (s.postUpdateImpl diff).teamScores = s.teamScores ∧
      (∀ t, s.flagKeepers t = none → s.flagState t = .onGround →
        0 ≤ subInt32 (s.flagsDropTimer t) diff →
        (s.postUpdateImpl diff).flagState t = .onGround) ∧
      ((s.postUpdateImpl diff).status = .inProgress →
        (s.postUpdateImpl diff).bothFlagsKept = true →
        (s.postUpdateImpl diff).flagSpellForceTimer = addInt32 s.flagSpellForceTimer diff) := by
  rw [postUpdateImpl_eq]
  by_cases hs : s.status = .inProgress
  · rw [if_pos hs]
    obtain ⟨-, hk, hst, hsc, hb, hd, hforce, -⟩ := checkTime_eq s
    have hflags : s.checkTime.Settles (s.checkTime.updateFlags diff) := updateFlags_settles
    have hsame : s.checkTime.Same (s.checkTime.updateFlags diff) := updateFlags_same
    obtain ⟨-, hk', hst', hsc', hb', hforce'⟩ := updateDebuff_eq diff (s.checkTime.updateFlags diff)
    refine ⟨(Settles.of_eq hk hst hb).trans (hflags.trans (.of_eq hk' hst' hb')),
      hsc'.trans (hsame.scores.trans hsc), ?_, ?_⟩
    · intro t hkeeper hground hleft
      rw [hst']
      exact updateFlags_ground (hk ▸ hkeeper) (hst ▸ hground) (hd ▸ hleft)
    · intro _ hkept
      rw [hforce' (hb' ▸ hkept), hsame.force, hforce]
  · rw [if_neg hs]
    exact ⟨.refl s, rfl, fun _ _ hground _ => hground, fun h => absurd h hs⟩

theorem Sound.orderly_update (h : s.Sound w) (hs : s.status = .inProgress) (u : WarsongUpdate) :
    s.Orderly w (.update u) := by
  have hp := h.playing hs
  have hact : s.act w (.update u) =
      if s.players.size = 0 then s else (s.beforePost w u).postUpdateImpl u.diff :=
    update_of_inProgress hs u
  have hnext : (s.act w (.update u)).Sound w := h.update u
  by_cases hsize : s.players.size = 0
  · rw [if_pos hsize] at hact
    refine .of_settles (by rw [hact]; exact .refl s) (by rw [hact]) ?_ ?_
    · intro t hst hne
      rw [hact] at hne
      exact absurd hst hne
    · intro _ _ _ hall
      rw [hact] at hall
      -- a carried flag has a participant
      obtain ⟨k, hk⟩ := Option.isSome_iff_exists.mp ((hp.carried .alliance).mp (hall .alliance))
      have hlisted := hp.listed .alliance k hk
      have hnil : s.players.entries = [] := List.length_eq_zero_iff.mp hsize
      rw [OrdMap.find?_eq_some, hnil] at hlisted
      cases hlisted
  · rw [if_neg hsize] at hact
    obtain ⟨hsettles, hground, hscores, hforce⟩ := beforePost_steps (w := w) hs u
    obtain ⟨hsettles', hscores', hground', hforce'⟩ :=
      postUpdateImpl_steps u.diff (s.beforePost w u)
    refine .of_settles (by rw [hact]; exact hsettles.trans hsettles')
      (by rw [hact]; exact hscores'.trans hscores) ?_ ?_
    · intro t hst hne
      rw [hact] at hne
      refine .inr ⟨u, rfl, ?_⟩
      by_contra hleft
      obtain ⟨hk₁, hst₁, hd₁⟩ := hground t (hp.ground hst) hst
      exact hne (hground' t hk₁ hst₁ (by rw [hd₁]; omega))
    · rintro u' heq hst hall
      cases heq
      have hkept := (hnext.playing hst).kept hall
      rw [hact] at hst hkept ⊢
      rw [hforce' hst hkept, hforce]

/-- While the battle goes on every act moves each flag as it may. -/
theorem Sound.orderly (h : s.Sound w) (hs : s.status = .inProgress) {a : Act} (hf : s.Fair w a) :
    s.Orderly w a := by
  have hp := h.playing hs
  have still : ∀ {s' : BattlegroundWS}, (∀ t, s.Grounded s' t) → ∀ t, s.flagState t = .onGround →
      s'.flagState t = .onGround := fun hg t hst => (hg t (hp.ground hst) hst).2.1
  -- steps other than clicks, captures and updates
  have quiet : ∀ {a : Act}, s.Settles (s.act w a) → (s.act w a).teamScores = s.teamScores →
      (∀ t, s.Grounded (s.act w a) t) → (∀ u, a ≠ .update u) → s.Orderly w a :=
    fun hsettles hscores hg hne => .of_settles hsettles hscores
      (fun t hst hnot => absurd (still hg t hst) hnot) fun u ha => absurd ha (hne u)
  cases a with
  | addPlayer guid team => exact quiet (.of_eq rfl rfl rfl) rfl (fun t => .refl s t) nofun
  | loggedIn guid => exact quiet (.of_eq rfl rfl rfl) rfl (fun t => .refl s t) nofun
  | loggedOut guid dropped =>
    generalize hs₁ : ({ s with toBattleground := s.toBattleground.touchPlayer guid } :
      BattlegroundWS) = s₁
    have hact : s.act w (.loggedOut guid dropped) = s₁.removePlayer w guid true dropped := by
      change s.eventPlayerLoggedOut w guid dropped = _
      unfold eventPlayerLoggedOut
      dsimp only
      rw [if_pos (by simpa using hs), hs₁]
    have hsettles : s₁.Settles (s₁.removePlayer w guid true dropped) :=
      removePlayer_settles (by simpa [← hs₁] using hs)
    have hground : ∀ t, s₁.Grounded (s₁.removePlayer w guid true dropped) t := removePlayer_grounded
    have hsame : s₁.Same (s₁.removePlayer w guid true dropped) := removePlayer_same
    rw [← hact] at hsettles hground hsame
    subst hs₁
    exact quiet ⟨hsettles.flag, hsettles.kept⟩ hsame.scores hground nofun
  | leave guid online dropped =>
    exact quiet (removePlayerAtLeave_settles hs) removePlayer_same.scores
      removePlayerAtLeave_grounded nofun
  | click source target inRange =>
    constructor
    · intro t hst hne
      have hown := (hf hs t).own hst (clicked_ground hst hne)
      exact .inl ⟨source, inRange, by rw [hown]⟩
    · rintro t (hc | ⟨hw, hne⟩)
      · exact absurd (congrFun clicked_same.scores t) hc
      · exact absurd (clicked_waitRespawn hw) hne
    · intro u ha
      cases ha
  | drop source dropped =>
    exact quiet (eventPlayerDroppedFlag_settles hs) eventPlayerDroppedFlag_same.scores
      eventPlayerDroppedFlag_grounded nofun
  | kill guid dropped =>
    have hact : s.act w (.kill guid dropped) = s.eventPlayerDroppedFlag w guid dropped := by
      change s.handleKillPlayer w guid dropped = _
      unfold handleKillPlayer
      rw [if_neg (by simp [hs])]
    exact quiet (by rw [hact]; exact eventPlayerDroppedFlag_settles hs)
      (by rw [hact]; exact eventPlayerDroppedFlag_same.scores)
      (fun t => by rw [hact]; exact eventPlayerDroppedFlag_grounded t) nofun
  | areaTrigger source trigger =>
    have hact : s.act w (.areaTrigger source trigger) = s.handleAreaTrigger w source trigger := rfl
    rcases handleAreaTrigger_cases (p := source) hp hs trigger with heq | ⟨hk, hst, hc⟩
    · rw [← hact] at heq
      exact quiet (by rw [heq]; exact .refl s) (by rw [heq]) (fun t => by rw [heq]; exact .refl s t)
        nofun
    · rw [← hact] at hc
      constructor
      · intro t hground hne
        -- the captured flag was carried, so the flag on the ground is another
        have ht : t ≠ (w.getTeam source).other := by
          rintro rfl
          rw [hp.ground hground] at hk
          cases hk
        rw [hc.states, Function.update_of_ne ht] at hne
        exact absurd hground hne
      · intro t hchange
        have ht : w.getTeam source = t := by
          rcases hchange with hchange | ⟨hw, hne⟩
          · by_contra hne
            rw [hc.scores, Function.update_of_ne (Ne.symm hne)] at hchange
            exact hchange rfl
          · by_contra hneq
            have hother : t.other ≠ (w.getTeam source).other := by
              intro he
              have := congrArg Team.other he
              simp only [Team.other_other] at this
              exact hneq this.symm
            rw [hc.states, Function.update_of_ne hother] at hw
            exact hne hw
        have hlow := hp.scores (w.getTeam source)
        subst ht
        refine ⟨source, trigger, rfl, rfl, hk, hst, ?_, ?_⟩
        · rw [hc.scores, Function.update_self]
        · rw [hc.scores, Function.update_self]
          exact hlow
      · intro u ha
        cases ha
  | update u => exact h.orderly_update hs u

/-- While the battle goes on, a flag is on a player exactly when it has a keeper, a participant of
the other team; steps treat the flags in order; and the battle is ended once at most. -/
theorem Reached.flags_inOrder (h : Reached w s) :
    (s.status = .inProgress →
      (∀ t, s.flagState t = .onPlayer ↔ ∃ k, s.flagKeepers t = some k) ∧
      (∀ t k, s.flagKeepers t = some k → s.players.find? k = some (some t.other)) ∧
      ((∀ t, s.flagState t = .onPlayer) → s.bothFlagsKept = true) ∧
      (∀ t, s.teamScores t ≤ BG_WS_MAX_TEAM_SCORE) ∧
      ∀ a, s.Fair w a → s.Orderly w a) ∧
    s.ends.length ≤ 1 := by
  have hsound := h.sound
  refine ⟨fun hs => ?_, hsound.ended⟩
  have hp := hsound.playing hs
  refine ⟨fun t => ?_, hp.listed, hp.kept, fun t => (hp.scores t).le, fun a => hsound.orderly hs⟩
  rw [hp.carried t, Option.isSome_iff_exists]

def gulch : WarsongWorld where
  prematureFinishTime := 0
  minPlayersPerTeam := 1
  isTesting := false
  getTeam p := if p = 2 then .horde else .alliance
  flagObject t := if t = .alliance then 11 else 12

def gulchWaiting : BattlegroundWS where
  flagsTimer _ := 0
  flagsDropTimer _ := 0
  flagSpellForceTimer := 0
  bothFlagsKept := false

/-- Two players enter, the battle begins, and the Horde player takes the Alliance flag. -/
def gulchTaken : BattlegroundWS :=
  gulchWaiting.runActs gulch [.addPlayer 1 .alliance, .addPlayer 2 .horde,
    .update { diff := 100, delay := .ended }, .click 2 11 true]

theorem gulchWaiting_waiting : gulchWaiting.Waiting :=
  ⟨rfl, rfl, fun _ => rfl, fun _ => rfl, fun _ => rfl⟩

theorem flags_taken : (∃ k, gulchTaken.flagKeepers .alliance = some k ∧
    gulchTaken.players.find? k = some (some .horde)) ∧ gulchTaken.ends.length ≤ 1 := by
  have hstart : Reached gulch gulchWaiting := .start gulchWaiting_waiting
  have hfirst := hstart.act (.addPlayer 1 .alliance) (fun h => absurd h (by decide +kernel))
  have hsecond := hfirst.act (.addPlayer 2 .horde) (fun h => absurd h (by decide +kernel))
  have hbegun := hsecond.act (.update { diff := 100, delay := .ended }) (fun _ => trivial)
  have hreached : Reached gulch gulchTaken := hbegun.act (.click 2 11 true) fun _ t => by
    cases t with
    | alliance =>
      exact ⟨fun _ => by decide +kernel, fun h => absurd h (by decide +kernel),
        fun h => absurd h (by decide +kernel)⟩
    | horde =>
      exact ⟨fun h => absurd h.1 (by decide +kernel), fun h => absurd h (by decide +kernel),
        fun h => absurd h (by decide +kernel)⟩
  have hflags := hreached.flags_inOrder
  obtain ⟨hcarried, hlisted, -⟩ := hflags.1 (by decide +kernel)
  obtain ⟨k, hk⟩ := (hcarried .alliance).mp (by decide +kernel)
  exact ⟨⟨k, hk, hlisted .alliance k hk⟩, hflags.2⟩

/-- The flag is dropped; then an Alliance player takes the Horde flag from its base, and the
Alliance flag, wherever it lies, is returned with the same click. -/
theorem gulch_ground : gulchWaiting.Waiting ∧
    (gulchTaken.act gulch (.drop 2 (some 21))).status = .inProgress ∧
    (gulchTaken.act gulch (.drop 2 (some 21))).droppedFlagGUID .alliance = 21 ∧
    ((gulchTaken.act gulch (.drop 2 (some 21))).act gulch (.click 1 12 true)).flagState .alliance =
      .onBase ∧
    ¬ (gulchTaken.act gulch (.drop 2 (some 21))).Orderly gulch (.click 1 12 true) := by
  refine ⟨gulchWaiting_waiting, by decide +kernel, by decide +kernel, by decide +kernel, ?_⟩
  intro h
  rcases h.ground .alliance (by decide +kernel) (by decide +kernel) with
    ⟨source, inRange, heq⟩ | ⟨u, heq, -⟩
  · injection heq with _ htarget _
    exact absurd htarget (by decide +kernel)
  · cases heq

end BattlegroundWS

end SkyfireBG
