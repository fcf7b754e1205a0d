import SkyfireBG.Lib.Byte
import SkyfireBG.Lib.Run

/-!
# SkyfireBG.Aura.Upkeep

The cost per second of an aura: the part of `Aura::Update` that charges it, and
`RefreshDuration`.

* `owed`            — the seconds of the aura's life that are over and not charged.
* `Settled`         — never early, at most one second late, and nothing left over at the end.
* `upkeep_charged`  — in which runs every update leaves the account settled.
-/

namespace SkyfireBG

def IN_MILLISECONDS : Nat := 1000

/-- `POWER_HEALTH`, or the number of another power. -/
inductive Powers where
  | health
  | power (index : Nat)
deriving DecidableEq, Repr

structure UpkeepSpell where
  manaPerSecond : Nat
  powerType : Powers
deriving DecidableEq, Repr

/-- The fields of a caster that the charging reads and writes; `power` is the power of the spell. -/
structure UpkeepCaster where
  level : Nat
  health : Nat
  maxHealth : Nat
  power : Int
  maxPower : Int
deriving DecidableEq, Repr

namespace UpkeepCaster

variable (c : UpkeepCaster)

/-- `SetHealth` of a living unit. -/
def setHealth (val : Nat) : UpkeepCaster :=
  { c with health := if c.maxHealth < val then c.maxHealth else val }

def modifyHealth (dVal : Int) : UpkeepCaster :=
  if dVal = 0 then c
  else
    let curHealth := int32 c.health
    let val := int32 (dVal + curHealth)
    if val ≤ 0 then c.setHealth 0
    else
      let maxHealth := int32 c.maxHealth
      if val < maxHealth then c.setHealth val.toNat
      else if curHealth ≠ maxHealth then c.setHealth (maxHealth % 2 ^ 32).toNat
      else c

def setPower (val : Int) : UpkeepCaster :=
  { c with power := if c.maxPower < val then c.maxPower else val }

def modifyPower (dVal : Int) : UpkeepCaster :=
  if dVal = 0 then c
  else
    let curPower := c.power
    let val := int32 (dVal + curPower)
    if val ≤ 0 then c.setPower 0
    else
      let maxPower := c.maxPower
      if val < maxPower then c.setPower val
      else if curPower ≠ maxPower then c.setPower maxPower
      else c

end UpkeepCaster

structure Aura where
  duration : Int
  maxDuration : Int
  timeCla : Int
  removed : Bool := false
deriving DecidableEq, Repr

namespace Aura

variable (spell : UpkeepSpell) (a : Aura)

def create (maxDuration : Int) : Aura where
  duration := maxDuration
  maxDuration := maxDuration
  timeCla := if spell.manaPerSecond ≠ 0 then 1 * IN_MILLISECONDS else 0

def refreshDuration : Aura :=
  { a with
    duration := a.maxDuration
    timeCla := if spell.manaPerSecond ≠ 0 then 1 * IN_MILLISECONDS else a.timeCla }

def remove : Aura := { a with removed := true }

/-- The part of `Update` that takes a charge, or removes the aura of a caster that lacks it. -/
def charge (manaPerSecond : Int) (caster : UpkeepCaster) : Aura × UpkeepCaster :=
  match spell.powerType with
  | .health =>
    if int32 caster.health > manaPerSecond then (a, caster.modifyHealth (-manaPerSecond))
    else (a.remove, caster)
  | .power _ =>
    if caster.power ≥ manaPerSecond then (a, caster.modifyPower (-manaPerSecond))
    else (a.remove, caster)

def update (diff : Nat) (caster : Option UpkeepCaster) : Aura × Option UpkeepCaster :=
  if a.duration > 0 then
    let duration := int32 (a.duration - diff)
    let a := { a with duration := if duration < 0 then 0 else duration }
    if a.timeCla ≠ 0 then
      if a.timeCla > int32 diff then ({ a with timeCla := int32 (a.timeCla - diff) }, caster)
      else
        match caster with
        | some c =>
          if spell.manaPerSecond > 0 then
            let manaPerSecond := int32 (spell.manaPerSecond * c.level)
            if manaPerSecond ≠ 0 then
              let a := { a with timeCla := int32 (a.timeCla + (1000 - diff)) }
              let (a, c) := a.charge spell manaPerSecond c
              (a, some c)
            else (a, some c)
          else (a, some c)
        | none => (a, none)
    else (a, caster)
  else (a, caster)

inductive Begun : Aura → Prop where
  | created {maxDuration : Int} : 0 < maxDuration → maxDuration < 2 ^ 31 →
      Begun (create spell maxDuration)
  | refreshed {a : Aura} : 0 < a.maxDuration → a.maxDuration < 2 ^ 31 →
      Begun (a.refreshDuration spell)

end Aura

def UpkeepSpell.cost (spell : UpkeepSpell) (c : UpkeepCaster) : Nat := spell.manaPerSecond * c.level

def UpkeepSpell.resource (spell : UpkeepSpell) (c : UpkeepCaster) : Int :=
  match spell.powerType with
  | .health => c.health
  | .power _ => c.power

structure Solvent (spell : UpkeepSpell) (c : UpkeepCaster) : Prop where
  cost_pos : 0 < spell.cost c
  health_pos : 0 < c.health
  health_le : c.health ≤ c.maxHealth
  maxHealth_lt : c.maxHealth < 2 ^ 31
  power_le : c.power ≤ c.maxPower
  maxPower_lt : c.maxPower < 2 ^ 31
  pays_health : spell.powerType = .health → spell.cost c < c.health
  pays_power : spell.powerType ≠ .health → spell.cost c ≤ c.power

def Aura.taken (spell : UpkeepSpell) (a : Aura) (diff : Nat) (c : UpkeepCaster) : Int :=
  match (a.update spell diff (some c)).2 with
  | some c' => spell.resource c - spell.resource c'
  | none => 0

section Update

variable {spell : UpkeepSpell} {a : Aura} {c : UpkeepCaster} {diff : Nat}

theorem Solvent.cost_lt (h : Solvent spell c) : (spell.cost c : Int) < 2 ^ 31 := by
  have hhealth := h.health_le
  have hmaxHealth := h.maxHealth_lt
  have hpower := h.power_le
  have hmaxPower := h.maxPower_lt
  by_cases hp : spell.powerType = .health
  · have := h.pays_health hp
    omega
  · have := h.pays_power hp
    omega

theorem modifyHealth_debit {cost : Nat} (hpos : 0 < cost) (hlt : cost < c.health)
    (hle : c.health ≤ c.maxHealth) (hmax : c.maxHealth < 2 ^ 31) :
    c.modifyHealth (-cost) = { c with health := c.health - cost } := by
  have hcur : int32 c.health = c.health := int32_of_fits (by omega) (by omega)
  have hval : int32 (-cost + c.health) = c.health - cost := by
    rw [int32_of_fits (by omega) (by omega)]
    omega
  have hmaxHealth : int32 c.maxHealth = c.maxHealth := int32_of_fits (by omega) (by omega)
  have htoNat : ((c.health : Int) - cost).toNat = c.health - cost := by omega
  simp only [UpkeepCaster.modifyHealth, hcur, hval, hmaxHealth]
  rw [if_neg (by omega), if_neg (by omega), if_pos (by omega), htoNat, UpkeepCaster.setHealth,
    if_neg (by omega)]

theorem modifyPower_debit {cost : Nat} (hpos : 0 < cost) (hcost : (cost : Int) ≤ c.power)
    (hle : c.power ≤ c.maxPower) (hmax : c.maxPower < 2 ^ 31) :
    c.modifyPower (-cost) = { c with power := c.power - cost } := by
  have hval : int32 (-cost + c.power) = c.power - cost := by
    rw [int32_of_fits (by omega) (by omega)]
    omega
  simp only [UpkeepCaster.modifyPower, hval]
  rw [if_neg (by omega)]
  by_cases hzero : c.power - cost ≤ 0
  · rw [if_pos hzero, UpkeepCaster.setPower, if_neg (by omega)]
    congr 1
    omega
  · rw [if_neg hzero, if_pos (by omega), UpkeepCaster.setPower, if_neg (by omega)]

theorem charge_paid (h : Solvent spell c) : ∃ c', a.charge spell (spell.cost c) c = (a, c') ∧
    spell.resource c' = spell.resource c - spell.cost c := by
  have hhealth := h.health_le
  have hmaxHealth := h.maxHealth_lt
  cases hp : spell.powerType with
  | health =>
    have hcost := h.pays_health hp
    have hcur : int32 c.health = c.health := int32_of_fits (by omega) (by omega)
    refine ⟨{ c with health := c.health - spell.cost c }, ?_, ?_⟩
    · rw [Aura.charge, hp]
      simp only
      rw [if_pos (by omega), modifyHealth_debit h.cost_pos hcost hhealth hmaxHealth]
    · simp only [UpkeepSpell.resource, hp]
      omega
  | power index =>
    have hcost := h.pays_power (by simp [hp])
    refine ⟨{ c with power := c.power - spell.cost c }, ?_, ?_⟩
    · rw [Aura.charge, hp]
      simp only
      rw [if_pos hcost, modifyPower_debit h.cost_pos hcost h.power_le h.maxPower_lt]
    · simp only [UpkeepSpell.resource, hp]

def Aura.left (a : Aura) (diff : Nat) : Int := if diff < a.duration then a.duration - diff else 0

theorem duration_left (hpos : 0 < a.duration) (hlt : a.duration < 2 ^ 31) (hdiff : diff < 2 ^ 31) :
    (if int32 (a.duration - diff) < 0 then 0 else int32 (a.duration - diff)) = a.left diff := by
  rw [int32_of_fits (by omega) (by omega), Aura.left]
  by_cases hd : (diff : Int) < a.duration
  · rw [if_neg (by omega), if_pos hd]
  · rw [if_neg hd]
    split
    · rfl
    · omega

theorem update_waits (hpos : 0 < a.duration) (hlt : a.duration < 2 ^ 31) (hdiff : diff < 2 ^ 31)
    (htime : a.timeCla < 2 ^ 31) (h : diff < a.timeCla) (caster : Option UpkeepCaster) :
    a.update spell diff caster =
      ({ a with duration := a.left diff, timeCla := a.timeCla - diff }, caster) := by
  have hd : int32 diff = diff := int32_of_fits (by omega) (by omega)
  have ht : int32 (a.timeCla - diff) = a.timeCla - diff := int32_of_fits (by omega) (by omega)
  simp only [Aura.update, duration_left hpos hlt hdiff, hd, ht]
  rw [if_pos hpos, if_pos (by omega), if_pos (by omega)]

theorem update_charges (hpos : 0 < a.duration) (hlt : a.duration < 2 ^ 31) (hdiff : diff < 2 ^ 31)
    (h0 : a.timeCla ≠ 0) (h : a.timeCla ≤ diff) (hc : Solvent spell c) :
    ∃ c', a.update spell diff (some c) =
        ({ a with duration := a.left diff, timeCla := int32 (a.timeCla + (1000 - diff)) }, some c') ∧
      spell.resource c' = spell.resource c - spell.cost c := by
  have hd : int32 diff = diff := int32_of_fits (by omega) (by omega)
  have hcost : int32 (spell.manaPerSecond * c.level) = spell.cost c := by
    rw [← Int.natCast_mul]
    exact int32_of_fits (by omega) hc.cost_lt
  have hmana : 0 < spell.manaPerSecond := Nat.pos_of_mul_pos_right hc.cost_pos
  obtain ⟨c', hcharge, hres⟩ := charge_paid (c := c)
    (a := { a with duration := a.left diff, timeCla := int32 (a.timeCla + (1000 - diff)) }) hc
  have hcostPos := hc.cost_pos
  refine ⟨c', ?_, hres⟩
  simp only [Aura.update, duration_left hpos hlt hdiff, hd, hcost]
  rw [if_pos hpos, if_pos h0, if_neg (by omega), if_pos hmana, if_pos (by omega), hcharge]

theorem update_stopped (hpos : 0 < a.duration) (hlt : a.duration < 2 ^ 31) (hdiff : diff < 2 ^ 31)
    (h0 : a.timeCla = 0) (caster : Option UpkeepCaster) :
    a.update spell diff caster = ({ a with duration := a.left diff }, caster) := by
  simp only [Aura.update, duration_left hpos hlt hdiff, h0]
  rw [if_pos hpos, if_neg (by simp)]

end Update

/-! ## Runs -/

/-- An aura, the time since its duration began and how often it was charged since then. -/
structure Upkeep where
  aura : Aura
  elapsed : Nat := 0
  charges : Nat := 0
deriving DecidableEq, Repr

namespace Upkeep

variable (spell : UpkeepSpell) (s : Upkeep)

def step (e : Nat × UpkeepCaster) : Upkeep where
  aura := (s.aura.update spell e.1 (some e.2)).1
  elapsed := s.elapsed + e.1
  charges := s.charges + if s.aura.taken spell e.1 e.2 = 0 then 0 else 1

/-- A second that has not been charged is over with an update of `diff`. -/
def Due (diff : Nat) : Prop := 1000 * (s.charges + 1) ≤ s.elapsed + diff

instance (diff : Nat) : Decidable (s.Due diff) := inferInstanceAs (Decidable (_ ≤ _))

/-- How many seconds of the aura's life are over and not charged. -/
def owed : Int := min (s.elapsed : Int) s.aura.maxDuration / 1000 - s.charges

/-- The next update, if the aura remains, charges once if a second is due, and the aura stays. -/
def Charging : Prop :=
  0 < s.aura.duration → ∀ diff c, diff < 2 ^ 31 → Solvent spell c →
    s.aura.taken spell diff c = (if s.Due diff then (spell.cost c : Int) else 0) ∧
    (s.aura.update spell diff (some c)).1.removed = s.aura.removed

structure Settled : Prop where
  early : 1000 * s.charges ≤ s.elapsed
  late : s.owed ≤ 1
  ended : s.aura.duration ≤ 0 → s.owed ≤ 0
  charging : s.Charging spell

/-- One charge keeps up with the update: the time to the next one stays above a whole second
overdue and does not become zero, and with the end of the aura no second is left over. -/
def Goes (diff : Nat) : Prop :=
  if (diff : Int) < s.aura.duration then
    (diff : Int) < s.aura.timeCla + 2000 ∧ (diff : Int) ≠ s.aura.timeCla + 1000
  else s.aura.duration < s.aura.timeCla + 1000

instance (diff : Nat) : Decidable (s.Goes diff) := inferInstanceAs (Decidable (ite _ _ _))

structure Fitting (e : Nat × UpkeepCaster) : Prop where
  duration_pos : 0 < s.aura.duration
  diff_lt : e.1 < 2 ^ 31
  solvent : Solvent spell e.2
  goes : s.Goes e.1

/-- As long as the aura remains, `timeCla` is the time to the end of the second to be charged. -/
structure Kept : Prop where
  maxDuration_lt : s.aura.maxDuration < 2 ^ 31
  elapsed_add : 0 < s.aura.duration → s.elapsed + s.aura.duration = s.aura.maxDuration
  timeCla : 0 < s.aura.duration → s.aura.timeCla = 1000 * (s.charges + 1) - s.elapsed
  timeCla_ne : 0 < s.aura.duration → s.aura.timeCla ≠ 0
  timeCla_gt : 0 < s.aura.duration → -1000 < s.aura.timeCla
  ended : s.aura.duration ≤ 0 → s.aura.maxDuration < 1000 * (s.charges + 1)
  charges_le : 1000 * s.charges ≤ s.elapsed

variable {spell s} {s' : Upkeep} {diff : Nat} {c : UpkeepCaster} {e : Nat × UpkeepCaster}
  {es : List (Nat × UpkeepCaster)}

theorem Kept.due_iff (h : s.Kept) (hpos : 0 < s.aura.duration) :
    s.Due diff ↔ s.aura.timeCla ≤ diff := by
  have htime := h.timeCla hpos
  rw [Due]
  omega

theorem Kept.waits (h : s.Kept) (hpos : 0 < s.aura.duration) (hdiff : diff < 2 ^ 31)
    (hn : ¬ s.Due diff) : s.aura.update spell diff (some c) =
      ({ s.aura with duration := s.aura.left diff, timeCla := s.aura.timeCla - diff }, some c) := by
  have hmax := h.maxDuration_lt
  have hsum := h.elapsed_add hpos
  have htime := h.timeCla hpos
  have hcharges := h.charges_le
  rw [h.due_iff hpos] at hn
  exact update_waits hpos (by omega) hdiff (by omega) (by omega) _

theorem Kept.charges (h : s.Kept) (hpos : 0 < s.aura.duration) (hdiff : diff < 2 ^ 31)
    (hc : Solvent spell c) (ho : s.Due diff) : ∃ c', s.aura.update spell diff (some c) =
        ({ s.aura with
            duration := s.aura.left diff
            timeCla := int32 (s.aura.timeCla + (1000 - diff)) }, some c') ∧
      spell.resource c' = spell.resource c - spell.cost c := by
  have hmax := h.maxDuration_lt
  have hsum := h.elapsed_add hpos
  exact update_charges hpos (by omega) hdiff (h.timeCla_ne hpos) ((h.due_iff hpos).mp ho) hc

theorem Kept.taken (h : s.Kept) (hpos : 0 < s.aura.duration) (hdiff : diff < 2 ^ 31)
    (hc : Solvent spell c) :
    s.aura.taken spell diff c = if s.Due diff then (spell.cost c : Int) else 0 := by
  rw [Aura.taken]
  split_ifs with ho
  · obtain ⟨c', heq, hres⟩ := h.charges hpos hdiff hc ho
    rw [heq]
    simp only
    omega
  · rw [h.waits hpos hdiff ho]
    simp only
    omega

theorem Kept.charging (h : s.Kept) : s.Charging spell := by
  intro hpos diff c hdiff hc
  refine ⟨h.taken hpos hdiff hc, ?_⟩
  by_cases ho : s.Due diff
  · obtain ⟨c', heq, -⟩ := h.charges hpos hdiff hc ho
    rw [heq]
  · rw [h.waits hpos hdiff ho]

theorem Kept.step_charges (h : s.Kept) (hpos : 0 < s.aura.duration)
    (hdiff : e.1 < 2 ^ 31) (hc : Solvent spell e.2) :
    (s.step spell e).charges = s.charges + if s.Due e.1 then 1 else 0 := by
  have hcost := hc.cost_pos
  rw [step]
  simp only [h.taken hpos hdiff hc]
  by_cases ho : s.Due e.1
  · rw [if_pos ho, if_pos ho, if_neg (by omega)]
  · rw [if_neg ho, if_neg ho, if_pos rfl]

theorem Kept.step_aura (h : s.Kept) (hpos : 0 < s.aura.duration)
    (hdiff : e.1 < 2 ^ 31) (hc : Solvent spell e.2) :
    (s.step spell e).aura.duration = s.aura.left e.1 ∧
    (s.step spell e).aura.maxDuration = s.aura.maxDuration ∧
    ((e.1 : Int) < s.aura.duration → (s.step spell e).aura.timeCla =
      1000 * ((s.step spell e).charges + 1) - (s.elapsed + e.1)) := by
  have hmax := h.maxDuration_lt
  have hsum := h.elapsed_add hpos
  have htime := h.timeCla hpos
  have hcharges := h.charges_le
  rw [h.step_charges hpos hdiff hc]
  by_cases ho : s.Due e.1
  · obtain ⟨c', heq, -⟩ := h.charges hpos hdiff hc ho
    rw [if_pos ho, Upkeep.step, heq]
    refine ⟨rfl, rfl, fun hlt => ?_⟩
    simp only
    rw [int32_of_fits (by omega) (by omega)]
    omega
  · rw [if_neg ho, Upkeep.step, h.waits hpos hdiff ho]
    refine ⟨rfl, rfl, fun _ => ?_⟩
    simp only
    omega

theorem Kept.settled (h : s.Kept) : s.Settled spell := by
  have hle := h.charges_le
  refine ⟨hle, ?_, fun h0 => ?_, h.charging⟩
  · by_cases hpos : 0 < s.aura.duration
    · have htime := h.timeCla hpos
      have hgt := h.timeCla_gt hpos
      rw [owed]
      omega
    · have hended := h.ended (by omega)
      rw [owed]
      omega
  · have hended := h.ended h0
    rw [owed]
    omega

theorem Kept.step (h : s.Kept) (he : Fitting spell s e) : (s.step spell e).Kept := by
  obtain ⟨hpos, hdiff, hc, hgoes⟩ := he
  obtain ⟨hduration, hmaxDuration, htime⟩ := h.step_aura hpos hdiff hc
  have hcharges := h.step_charges hpos hdiff hc
  have hsum := h.elapsed_add hpos
  have hbefore := h.timeCla hpos
  have hle := h.charges_le
  have hne := h.timeCla_ne hpos
  have hdue : s.Due e.1 ↔ s.aura.timeCla ≤ e.1 := h.due_iff hpos
  have helapsed : (s.step spell e).elapsed = s.elapsed + e.1 := rfl
  have hcharges_le : 1000 * (s.step spell e).charges ≤ (s.step spell e).elapsed := by
    rw [hcharges, helapsed]
    split_ifs with ho
    · exact ho
    · omega
  have hmax := h.maxDuration_lt
  rw [Goes] at hgoes
  by_cases hd : (e.1 : Int) < s.aura.duration
  -- The aura remains: the new time to the next charge follows from the old one.
  · rw [if_pos hd] at hgoes
    rw [Aura.left, if_pos hd] at hduration
    have htime := htime hd
    have hfits : (s.step spell e).aura.timeCla ≠ 0 ∧ -1000 < (s.step spell e).aura.timeCla := by
      rw [htime, hcharges]
      by_cases ho : s.Due e.1
      · rw [if_pos ho]
        omega
      · rw [if_neg ho]
        rw [hdue] at ho
        omega
    exact ⟨by omega, fun _ => by omega, fun _ => by omega, fun _ => hfits.1, fun _ => hfits.2,
      fun h0 => by omega, hcharges_le⟩
  -- The aura ends: the last charge covers what is left of its duration.
  · rw [if_neg hd] at hgoes
    rw [Aura.left, if_neg hd] at hduration
    refine ⟨by omega, fun hp => by omega, fun hp => by omega, fun hp => by omega,
      fun hp => by omega, fun _ => ?_, hcharges_le⟩
    rw [hmaxDuration, hcharges]
    by_cases ho : s.Due e.1
    · rw [if_pos ho]
      omega
    · rw [if_neg ho]
      rw [hdue] at ho
      omega

theorem Kept.begun {a : Aura} (hmana : 0 < spell.manaPerSecond) (h : a.Begun spell) :
    ({ aura := a } : Upkeep).Kept := by
  have hne := Nat.pos_iff_ne_zero.mp hmana
  have hstart : 0 < a.duration ∧ a.duration = a.maxDuration ∧ a.maxDuration < 2 ^ 31 ∧
      a.timeCla = 1000 := by
    cases h with
    | created hpos hlt => exact ⟨hpos, rfl, hlt, if_pos hne⟩
    | refreshed hpos hlt => exact ⟨hpos, rfl, hlt, if_pos hne⟩
  obtain ⟨hpos, hduration, hlt, htime⟩ := hstart
  exact ⟨hlt, fun _ => by simp [hduration], fun _ => by simp [htime], fun _ => by simp [htime],
    fun _ => by simp [htime], fun h0 => absurd hpos (by simpa using h0), Nat.le_refl _⟩

theorem Kept.run (h : s.Kept) (hrun : Run (Upkeep.step spell) (Fitting spell) s es s') :
    s'.Kept :=
  hrun.invariant (I := Kept) (fun _ _ hs he => hs.step he) h

def UpToDate (s : Upkeep) : Prop := s.charges = s.elapsed / 1000

theorem Kept.catchesUp (h : s.Kept) (hrun : Run (Upkeep.step spell) (Fitting spell) s es s')
    (hshort : ∀ e ∈ es, e.1 ≤ 1000) :
    (s.UpToDate → s'.UpToDate) ∧ (s'.UpToDate ∨ s'.charges = s.charges + es.length) := by
  induction hrun with
  | nil => exact ⟨id, .inr rfl⟩
  | @cons s s' e es he _ ih =>
    obtain ⟨hdate, hcatch⟩ := ih (h.step he) (fun e' he' => hshort e' (.tail _ he'))
    have hcharges := h.step_charges he.duration_pos he.diff_lt he.solvent
    have helapsed : (s.step spell e).elapsed = s.elapsed + e.1 := rfl
    have hsecond := hshort e (.head _)
    have hle := h.charges_le
    have hstep : (¬ s.Due e.1 ∨ s.UpToDate) → (s.step spell e).UpToDate := by
      have howed : s.Due e.1 ↔ 1000 * (s.charges + 1) ≤ s.elapsed + e.1 := Iff.rfl
      rw [UpToDate, UpToDate, hcharges, helapsed]
      by_cases ho : s.Due e.1
      · rw [if_pos ho]
        rw [howed] at ho ⊢
        omega
      · rw [if_neg ho]
        rw [howed] at ho
        omega
    by_cases ho : s.Due e.1
    · rw [if_pos ho] at hcharges
      refine ⟨fun hs => hdate (hstep (.inr hs)), hcatch.imp_right fun heq => ?_⟩
      rw [heq, hcharges, List.length_cons]
      omega
    · exact ⟨fun _ => hdate (hstep (.inl ho)), .inl (hdate (hstep (.inl ho)))⟩

theorem Kept.goes_of_settled (h : s.Kept) (hpos : 0 < s.aura.duration) (hdiff : diff < 2 ^ 31)
    (hc : Solvent spell c) (hsettled : (s.step spell (diff, c)).Settled spell) : s.Goes diff := by
  obtain ⟨hduration, hmaxDuration, htime⟩ := h.step_aura (e := (diff, c)) hpos hdiff hc
  have hcharges := h.step_charges (e := (diff, c)) hpos hdiff hc
  have helapsed : (s.step spell (diff, c)).elapsed = s.elapsed + diff := rfl
  have hbefore := h.timeCla hpos
  have hsum := h.elapsed_add hpos
  have hmax := h.maxDuration_lt
  have hdue : s.Due diff ↔ s.aura.timeCla ≤ diff := h.due_iff hpos
  have hlate := hsettled.late
  rw [owed, hmaxDuration, hcharges, helapsed] at hlate
  rw [Goes]
  split_ifs with hd
  · have hlt : (diff : Int) < s.aura.timeCla + 2000 := by
      by_cases ho : s.Due diff
      · rw [if_pos ho] at hlate
        omega
      · rw [hdue] at ho
        omega
    refine ⟨hlt, fun heq => ?_⟩
    -- At zero the next update takes nothing, though a second is due.
    have ho : s.Due diff := hdue.mpr (by omega)
    rw [if_pos ho] at hcharges
    rw [Aura.left, if_pos hd] at hduration
    have hzero : (s.step spell (diff, c)).aura.timeCla = 0 := by
      rw [htime hd, hcharges]
      omega
    have hleft : 0 < (s.step spell (diff, c)).aura.duration := by omega
    obtain ⟨htaken, -⟩ := hsettled.charging hleft 0 c (by decide) hc
    rw [Aura.taken, update_stopped hleft (by omega) (by decide) hzero] at htaken
    have hnext : (s.step spell (diff, c)).Due 0 := by
      rw [Due, hcharges, helapsed]
      omega
    have hcost := hc.cost_pos
    rw [if_pos hnext] at htaken
    simp only at htaken
    omega
  · rw [Aura.left, if_neg hd] at hduration
    have hended := hsettled.ended (by omega)
    rw [owed, hmaxDuration, hcharges, helapsed] at hended
    by_cases ho : s.Due diff
    · rw [if_pos ho] at hended
      omega
    · rw [hdue] at ho
      omega

/-- In every run of updates that go on, the seconds of the aura's life are charged once each: never
early, at most one second late, all of them at the end, and without delay as long as the intervals
are at most a second; what a longer interval leaves over is caught up with.  An update that does
not go on is one after which this does not hold. -/
theorem upkeep_charged {a : Aura} (hmana : 0 < spell.manaPerSecond) (ha : a.Begun spell)
    (hrun : Run (Upkeep.step spell) (Fitting spell) { aura := a } es s) :
    s.Settled spell ∧ ((∀ e ∈ es, e.1 ≤ 1000) → s.UpToDate) ∧
    (∀ es' s', Run (Upkeep.step spell) (Fitting spell) s es' s' → (∀ e ∈ es', e.1 ≤ 1000) →
      s'.UpToDate ∨ s'.charges = s.charges + es'.length) ∧
    (0 < s.aura.duration → ∀ diff c, diff < 2 ^ 31 → Solvent spell c →
      ((s.step spell (diff, c)).Settled spell ↔ s.Goes diff)) := by
  have hstart := Kept.begun hmana ha
  have hkept := hstart.run hrun
  exact ⟨hkept.settled,
    fun hshort => (hstart.catchesUp hrun hshort).1 (Nat.zero_div 1000).symm,
    fun es' s' hrun' hshort => (hkept.catchesUp hrun' hshort).2,
    fun hpos diff c hdiff hc => ⟨hkept.goes_of_settled hpos hdiff hc,
      fun hgoes => (hkept.step ⟨hpos, hdiff, hc, hgoes⟩).settled⟩⟩

def drain : UpkeepSpell := { manaPerSecond := 2, powerType := .power 0 }

def mage : UpkeepCaster :=
  { level := 10, health := 100, maxHealth := 100, power := 500, maxPower := 500 }

def drained : Upkeep := { aura := .create drain 10000 }

theorem mage_solvent : Solvent drain mage :=
  ⟨by decide, by decide, by decide, by decide, by decide, by decide, by decide, by decide⟩

theorem upkeep_charged_drain : (drained.step drain (1500, mage)).Settled drain := by
  have hrun : Run (Upkeep.step drain) (Fitting drain) drained [(1500, mage)]
      (drained.step drain (1500, mage)) :=
    .cons ⟨by decide, by decide, mage_solvent, by decide⟩ .nil
  exact (upkeep_charged (by decide) (.created (by decide) (by decide)) hrun).1

/-- After an update of two seconds only one is ever charged, though the aura remains; and updates of
1700 ms each charge one second, and leave three of eight over. -/
theorem upkeep_stops : ¬ (drained.step drain (2000, mage)).Charging drain ∧
    (drained.step drain (2000, mage)).aura = { duration := 8000, maxDuration := 10000, timeCla := 0 } ∧
    ((List.replicate 7 (1000, mage)).foldl (Upkeep.step drain)
      (drained.step drain (2000, mage))).charges = 1 ∧
    ((List.replicate 5 (1700, mage)).foldl (Upkeep.step drain) drained).owed = 3 := by
  refine ⟨fun h => ?_, by decide, by decide, by decide⟩
  have htaken := (h (by decide) 1000 mage (by decide) mage_solvent).1
  revert htaken
  decide

end Upkeep

end SkyfireBG
