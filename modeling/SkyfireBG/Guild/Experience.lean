import SkyfireBG.Lib.Run

/-!
# SkyfireBG.Guild.Experience

The experience of a guild: `GainXP`, `LevelUp` and `GenerateXPCap`.

* `gainXP_sound` — when exactly a gain is accounted for, and what runs of such gains add up to.
-/

namespace SkyfireBG

structure GuildXPConfig where
  /-- `CONFIG_GUILD_ADVANCEMENT_ENABLED`. -/
  enabled : Bool := true
  /-- `CONFIG_GUILD_ADVANCEMENT_MAX_LEVEL`. -/
  maxLevel : Nat := 25
  /-- `_guildXPperLevel`. -/
  xpPerLevel : List Nat

def GuildXPConfig.getXPForGuildLevel (cfg : GuildXPConfig) (level : Nat) : Nat :=
  cfg.xpPerLevel.getD level 0

structure GuildXP where
  level : Nat
  xp : Nat
  nextLevelXP : Nat
  todayXP : Nat
  xpCap : Nat
deriving DecidableEq, Repr

namespace GuildXP

variable (cfg : GuildXPConfig) (s : GuildXP)

def generateXPCap : GuildXP :=
  let baseXP := cfg.getXPForGuildLevel s.level
  let diff := baseXP * 15 / 100
  { s with xpCap := if diff < baseXP then (diff + s.xp) % 2 ^ 64 else baseXP }

/-- The part of `LoadFromDB`. -/
def loadFromDB (level xp todayXP xpCap : Nat) : GuildXP :=
  let s : GuildXP :=
    { level := if level % 256 = 0 then 1 else level % 256
      xp := xp, nextLevelXP := 0, todayXP := todayXP, xpCap := xpCap }
  let s := if s.xpCap = 0 then s.generateXPCap cfg else s
  { s with nextLevelXP := cfg.getXPForGuildLevel s.level }

def resetTodayXP : GuildXP := { s with todayXP := 0 }

def levelUp : GuildXP :=
  if !cfg.enabled then s
  else
    let level := (s.level + 1) % 256
    { s with level := level, nextLevelXP := cfg.getXPForGuildLevel level }

/-- What `GainXP` tests before it gains. -/
def gains (xp : Nat) : Prop :=
  xp ≠ 0 ∧ cfg.enabled = true ∧ s.level < cfg.maxLevel ∧ (s.xp + xp) % 2 ^ 64 ≤ s.xpCap

instance (xp : Nat) : Decidable (s.gains cfg xp) := inferInstanceAs (Decidable (_ ∧ _))

def gainXP (xp : Nat) : GuildXP :=
  if s.gains cfg xp then
    let newXp := (s.xp + xp) % 2 ^ 64
    let nextLvlXP := s.nextLevelXP
    if newXp ≥ nextLvlXP ∧ s.level < cfg.maxLevel then
      let t := if s.level < 25 then s.levelUp cfg else s
      { t with xp := newXp - nextLvlXP, todayXP := (s.todayXP + xp) % 2 ^ 64 }
    else { s with xp := newXp, todayXP := (s.todayXP + xp) % 2 ^ 64 }
  else s

def levelSum : Nat → Nat
  | 0 => 0
  | level + 1 => levelSum level + cfg.getXPForGuildLevel level

def granted (xp : Nat) : Nat := if s.gains cfg xp then xp else 0

/-- As `Create` and `LoadFromDB` leave it. -/
def Loaded : Prop := s.nextLevelXP = cfg.getXPForGuildLevel s.level

/-- No experience is lost by a gain, and what is left does not reach the next level. -/
structure Accounted (xp : Nat) : Prop where
  conserved : levelSum cfg (s.gainXP cfg xp).level + (s.gainXP cfg xp).xp =
    levelSum cfg s.level + s.xp + s.granted cfg xp
  xp_lt : s.gains cfg xp → (s.gainXP cfg xp).level < cfg.maxLevel →
    (s.gainXP cfg xp).xp < cfg.getXPForGuildLevel (s.gainXP cfg xp).level

/-- A gain fits into 64 bits and rises at most one level, not beyond the last one. -/
def Fits (xp : Nat) : Prop :=
  s.xp + xp < 2 ^ 64 ∧
    (cfg.getXPForGuildLevel s.level ≤ s.xp + xp →
      s.level < 25 ∧ (s.level + 1 < cfg.maxLevel →
        s.xp + xp < cfg.getXPForGuildLevel s.level + cfg.getXPForGuildLevel (s.level + 1)))

/-- The costs of the levels risen since `start` leave room under the cap for a gain. -/
def Covered (start : GuildXP) (xp : Nat) : Prop :=
  levelSum cfg s.level - levelSum cfg start.level + s.xp + xp ≤ start.xp + start.xpCap

variable {cfg s} {xp : Nat}

theorem gainXP_refused (h : ¬ s.gains cfg xp) : s.gainXP cfg xp = s := if_neg h

theorem granted_refused (h : ¬ s.gains cfg xp) : s.granted cfg xp = 0 := if_neg h

theorem granted_gains (h : s.gains cfg xp) : s.granted cfg xp = xp := if_pos h

theorem gainXP_within (h : s.gains cfg xp) (hlt : (s.xp + xp) % 2 ^ 64 < s.nextLevelXP) :
    s.gainXP cfg xp =
      { s with xp := (s.xp + xp) % 2 ^ 64, todayXP := (s.todayXP + xp) % 2 ^ 64 } := by
  rw [gainXP, if_pos h, if_neg (by omega)]

theorem gainXP_rises (h : s.gains cfg xp) (hle : s.nextLevelXP ≤ (s.xp + xp) % 2 ^ 64)
    (hlevel : s.level < 25) :
    s.gainXP cfg xp =
      { level := s.level + 1
        nextLevelXP := cfg.getXPForGuildLevel (s.level + 1)
        xp := (s.xp + xp) % 2 ^ 64 - s.nextLevelXP
        todayXP := (s.todayXP + xp) % 2 ^ 64
        xpCap := s.xpCap } := by
  have hmod : (s.level + 1) % 256 = s.level + 1 := Nat.mod_eq_of_lt (by omega)
  rw [gainXP, if_pos h, if_pos ⟨hle, h.2.2.1⟩]
  simp [hlevel, levelUp, h.2.1, hmod]

theorem gainXP_pays (h : s.gains cfg xp) (hle : s.nextLevelXP ≤ (s.xp + xp) % 2 ^ 64)
    (hlevel : 25 ≤ s.level) :
    s.gainXP cfg xp =
      { s with
        xp := (s.xp + xp) % 2 ^ 64 - s.nextLevelXP
        todayXP := (s.todayXP + xp) % 2 ^ 64 } := by
  rw [gainXP, if_pos h, if_pos ⟨hle, h.2.2.1⟩]
  simp [Nat.not_lt.mpr hlevel]

theorem Loaded.gainXP (h : s.Loaded cfg) : (s.gainXP cfg xp).Loaded cfg := by
  by_cases hg : s.gains cfg xp
  · rcases Nat.lt_or_ge ((s.xp + xp) % 2 ^ 64) s.nextLevelXP with hlt | hle
    · rw [gainXP_within hg hlt]
      exact h
    · rcases Nat.lt_or_ge s.level 25 with hlevel | hlevel
      · rw [gainXP_rises hg hle hlevel]
        exact rfl
      · rw [gainXP_pays hg hle hlevel]
        exact h
  · rwa [gainXP_refused hg]

theorem accounted_iff (h : s.Loaded cfg) :
    s.Accounted cfg xp ↔ (s.gains cfg xp → s.Fits cfg xp) := by
  by_cases hg : s.gains cfg xp
  swap
  · refine ⟨fun _ hg' => absurd hg' hg, fun _ => ⟨?_, fun hg' => absurd hg' hg⟩⟩
    rw [gainXP_refused hg, granted_refused hg, Nat.add_zero]
  rw [Loaded] at h
  have hpos := Nat.pos_of_ne_zero hg.1
  have hmax := hg.2.2.1
  have hwrap := Nat.mod_le (s.xp + xp) (2 ^ 64)
  have hmod : s.xp + xp < 2 ^ 64 ↔ (s.xp + xp) % 2 ^ 64 = s.xp + xp := by
    rw [Nat.mod_eq_iff_lt (by decide)]
  have hacc : s.Accounted cfg xp ↔
      (levelSum cfg (s.gainXP cfg xp).level + (s.gainXP cfg xp).xp =
        levelSum cfg s.level + s.xp + xp) ∧
      ((s.gainXP cfg xp).level < cfg.maxLevel →
        (s.gainXP cfg xp).xp < cfg.getXPForGuildLevel (s.gainXP cfg xp).level) := by
    constructor
    · rintro ⟨hc, hx⟩
      rw [granted_gains hg] at hc
      exact ⟨hc, hx hg⟩
    · rintro ⟨hc, hx⟩
      exact ⟨by rw [granted_gains hg]; exact hc, fun _ => hx⟩
  rw [hacc, Fits, hmod]
  simp only [hg, true_implies]
  rcases Nat.lt_or_ge ((s.xp + xp) % 2 ^ 64) s.nextLevelXP with hlt | hle
  · rw [gainXP_within hg hlt]
    simp only
    omega
  · rcases Nat.lt_or_ge s.level 25 with hlevel | hlevel
    · rw [gainXP_rises hg hle hlevel]
      simp only [levelSum]
      omega
    · rw [gainXP_pays hg hle hlevel]
      simp only
      omega

structure Reset (cfg : GuildXPConfig) (start : GuildXP) : Prop where
  loaded : start.Loaded cfg
  todayXP : start.todayXP = 0
  xpCap_lt : start.xpCap < 2 ^ 64

/-- A gain since `start` that is accounted for and covered by the cap. -/
def Fitting (cfg : GuildXPConfig) (start s : GuildXP) (xp : Nat) : Prop :=
  s.gains cfg xp → s.Fits cfg xp ∧ s.Covered cfg start xp

def grantedSum (cfg : GuildXPConfig) : GuildXP → List Nat → Nat
  | _, [] => 0
  | s, xp :: xps => s.granted cfg xp + grantedSum cfg (s.gainXP cfg xp) xps

/-- What gains since `start` come to. -/
structure Since (cfg : GuildXPConfig) (start s : GuildXP) : Prop where
  loaded : s.Loaded cfg
  level_le : start.level ≤ s.level
  xpCap : s.xpCap = start.xpCap
  conserved : levelSum cfg s.level + s.xp = levelSum cfg start.level + start.xp + s.todayXP
  todayXP_le : s.todayXP ≤ s.xpCap
  xp_lt : s.todayXP ≠ 0 → s.level < cfg.maxLevel → s.xp < cfg.getXPForGuildLevel s.level

variable {start : GuildXP} {xps : List Nat}

theorem levelSum_mono {a b : Nat} (h : a ≤ b) : levelSum cfg a ≤ levelSum cfg b := by
  induction h with
  | refl => exact Nat.le_refl _
  | step _ ih =>
    rw [levelSum]
    omega

theorem gainXP_level_le :
    s.level ≤ (s.gainXP cfg xp).level ∧ (s.gainXP cfg xp).xpCap = s.xpCap := by
  by_cases hg : s.gains cfg xp
  · rcases Nat.lt_or_ge ((s.xp + xp) % 2 ^ 64) s.nextLevelXP with hlt | hle
    · rw [gainXP_within hg hlt]
      exact ⟨Nat.le_refl _, rfl⟩
    · rcases Nat.lt_or_ge s.level 25 with h25 | h25
      · rw [gainXP_rises hg hle h25]
        exact ⟨Nat.le_succ _, rfl⟩
      · rw [gainXP_pays hg hle h25]
        exact ⟨Nat.le_refl _, rfl⟩
  · rw [gainXP_refused hg]
    exact ⟨Nat.le_refl _, rfl⟩

theorem gainXP_todayXP (hg : s.gains cfg xp) :
    (s.gainXP cfg xp).todayXP = (s.todayXP + xp) % 2 ^ 64 := by
  rcases Nat.lt_or_ge ((s.xp + xp) % 2 ^ 64) s.nextLevelXP with hlt | hle
  · rw [gainXP_within hg hlt]
  · rcases Nat.lt_or_ge s.level 25 with h25 | h25
    · rw [gainXP_rises hg hle h25]
    · rw [gainXP_pays hg hle h25]

theorem Since.refl (h : start.Reset cfg) : start.Since cfg start := by
  refine ⟨h.loaded, Nat.le_refl _, rfl, ?_, ?_, fun hne => absurd h.todayXP hne⟩
  · rw [h.todayXP, Nat.add_zero]
  · rw [h.todayXP]
    exact Nat.zero_le _

theorem Since.todayXP_le_iff (h : Since cfg start s) :
    s.todayXP + xp ≤ s.xpCap ↔ s.Covered cfg start xp := by
  have hmono : levelSum cfg start.level ≤ levelSum cfg s.level := levelSum_mono h.level_le
  have hconserved := h.conserved
  have hcap := h.xpCap
  rw [Covered]
  omega

theorem Since.gainXP (h : Since cfg start s) (hstart : start.Reset cfg)
    (hfit : Fitting cfg start s xp) : Since cfg start (s.gainXP cfg xp) := by
  by_cases hg : s.gains cfg xp
  swap
  · rwa [gainXP_refused hg]
  obtain ⟨hfits, hcovered⟩ := hfit hg
  obtain ⟨hconserved, hlt⟩ := (accounted_iff h.loaded).mpr fun _ => hfits
  obtain ⟨hlevel, hcap⟩ := @gainXP_level_le cfg s xp
  have htoday := gainXP_todayXP hg
  have hle := h.todayXP_le_iff.mpr hcovered
  have hcap' := h.xpCap
  have hlt64 := hstart.xpCap_lt
  rw [Nat.mod_eq_of_lt (by omega)] at htoday
  rw [granted_gains hg] at hconserved
  have hbefore := h.conserved
  refine ⟨h.loaded.gainXP, Nat.le_trans h.level_le hlevel, hcap.trans hcap', by omega, by omega,
    fun _ => hlt hg⟩

theorem Since.run (hstart : start.Reset cfg)
    (hrun : Run (GuildXP.gainXP cfg) (Fitting cfg start) start xps s) : Since cfg start s :=
  hrun.invariant (fun _ _ hs hfit => hs.gainXP hstart hfit) (.refl hstart)

theorem Since.todayXP_eq {s' : GuildXP} (h : Since cfg start s) (hstart : start.Reset cfg)
    (hrun : Run (GuildXP.gainXP cfg) (Fitting cfg start) s xps s') :
    s'.todayXP = s.todayXP + grantedSum cfg s xps := by
  induction hrun with
  | nil => rfl
  | @cons s s' xp xps hfit _ ih =>
    have hstep : (s.gainXP cfg xp).todayXP = s.todayXP + s.granted cfg xp := by
      by_cases hg : s.gains cfg xp
      · obtain ⟨hfits, hcovered⟩ := hfit hg
        have hle := h.todayXP_le_iff.mpr hcovered
        have hcap := h.xpCap
        have hlt := hstart.xpCap_lt
        rw [gainXP_todayXP hg, granted_gains hg, Nat.mod_eq_of_lt (by omega)]
      · rw [gainXP_refused hg, granted_refused hg, Nat.add_zero]
    rw [ih (h.gainXP hstart hfit), hstep, grantedSum, Nat.add_assoc]

/-- A gain loses nothing and stays below the next level and the cap if and only if it fits and is
covered.  Gains since a reset that are so add up, and stay under the cap of the day. -/
theorem gainXP_sound (hstart : start.Reset cfg)
    (hrun : Run (GuildXP.gainXP cfg) (Fitting cfg start) start xps s) :
    (levelSum cfg s.level + s.xp =
      levelSum cfg start.level + start.xp + grantedSum cfg start xps) ∧
    (grantedSum cfg start xps ≠ 0 → s.level < cfg.maxLevel →
      s.xp < cfg.getXPForGuildLevel s.level) ∧
    s.todayXP = grantedSum cfg start xps ∧ grantedSum cfg start xps ≤ s.xpCap ∧
    ∀ xp, (s.Accounted cfg xp ∧ s.todayXP + s.granted cfg xp ≤ s.xpCap) ↔
      Fitting cfg start s xp := by
  have hsince := Since.run hstart hrun
  have htoday := (Since.refl hstart).todayXP_eq hstart hrun
  rw [hstart.todayXP, Nat.zero_add] at htoday
  refine ⟨htoday ▸ hsince.conserved, htoday ▸ hsince.xp_lt, htoday, htoday ▸ hsince.todayXP_le,
    fun xp => ?_⟩
  rw [accounted_iff hsince.loaded, Fitting]
  by_cases hg : s.gains cfg xp
  · simp only [hg, true_implies, granted_gains hg]
    exact and_congr_right fun _ => hsince.todayXP_le_iff
  · simp [hg, granted_refused hg, hsince.todayXP_le]

def someCosts : GuildXPConfig where
  xpPerLevel := [0, 1000, 10000, 20000]

def almostLevel : GuildXP :=
  (loadFromDB someCosts 1 990 0 0).resetTodayXP

theorem gainXP_sound_almostLevel :
    Run (GuildXP.gainXP someCosts) (Fitting someCosts almostLevel) almostLevel [150]
        (almostLevel.gainXP someCosts 150) ∧
      (almostLevel.gainXP someCosts 150).todayXP = 150 := by
  have hstart : almostLevel.Reset someCosts := ⟨rfl, rfl, by decide⟩
  have hrun : Run (GuildXP.gainXP someCosts) (Fitting someCosts almostLevel) almostLevel [150]
      (almostLevel.gainXP someCosts 150) :=
    .cons (fun _ => ⟨by unfold Fits; decide, by unfold Covered; decide⟩) .nil
  exact ⟨hrun, (gainXP_sound hstart hrun).2.2.1⟩

/-- After the first gain the guild has risen, and the second one goes beyond the cap of the day.
Beyond the level 25 the cost of a level is lost. -/
theorem gainXP_exceeds : almostLevel.Reset someCosts ∧
    almostLevel.xpCap = 1140 ∧
    almostLevel.gainXP someCosts 150 = ⟨2, 140, 10000, 150, 1140⟩ ∧
    (almostLevel.gainXP someCosts 150).gainXP someCosts 1000 = ⟨2, 1140, 10000, 1150, 1140⟩ ∧
    (⟨25, 990, 1000, 0, 1140⟩ : GuildXP).gainXP
      { maxLevel := 30, xpPerLevel := List.replicate 30 1000 } 150 = ⟨25, 140, 1000, 150, 1140⟩ :=
  ⟨⟨rfl, rfl, by decide⟩, by decide, by decide, by decide, by decide⟩

end GuildXP

end SkyfireBG
