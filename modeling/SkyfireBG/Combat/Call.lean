import SkyfireBG.Combat.Threat

/-!
# SkyfireBG.Combat.Call

The calls of the threat manager and of the `HostileRefManager` of a hated unit.

Adding threat to a unit adds threat to its owner, and so on along the chain of owners; `fuel`
bounds the length of that chain, and `none` means that it ran out.

* `exec` — one call.
* `step` — one change of a reference, with the events it fires, or one selection.
* `exec_steps` — every call is a sequence of steps.
-/

namespace SkyfireBG

inductive ThreatCall (U K : Type) where
  | addThreat (u : U) (threat : K) (school : Nat) (spell : Option (ThreatSpell K))
  /-- The body of the loop of `HostileRefManager::threatAssist`. -/
  | threatAssist (u : U) (threat : K) (spell : Option (ThreatSpell K))
  | modifyThreatPercent (u : U) (percent : Int)
  | addThreatPercent (r : Nat) (percent : Int)
  | addTempThreat (r : Nat) (threat : K) (apply : Bool)
  | setOnlineOfflineState (r : Nat) (isOnline : Bool)
  | updateOnlineStatus (r : Nat)
  | tauntApply (u : U)
  | tauntFadeOut (u : U)
  | effectTaunt (u : U)
  | removeReference (r : Nat)
  | clearReferences
  | getHostilTarget

inductive ThreatStep (U K : Type) where
  | create (u : U) (threat : K)
  | change (r : Nat) (threat : K)
  | online (r : Nat) (isOnline : Bool)
  | status (r : Nat)
  | temp (r : Nat) (threat : K)
  | remove (r : Nat)
  | clear
  | select
  /-- The current victim is set to the reference of a unit in the online list. -/
  | force (u : U)

section Call

variable {U K : Type} [DecidableEq U] [ThreatNumber K]

namespace ThreatManager

variable (w : ThreatWorld U K) (m : ThreatManager U K)

section Source

-- `getSource()->addThreat(victimOwner, 0.0f)`
variable (addThreatToOwner : ThreatManager U K → U → Option (ThreatManager U K))

/-- `HostileReference::addThreat` -/
def refAddThreat (r : Nat) (modThreat : K) : Option (ThreatManager U K) :=
  let m := m.changeThreat w r modThreat
  match (m.refs r).bind fun ref => w.charmerOrOwner ref.unit with
  | some victimOwner =>
    if m.isValid r ∧ 0 ≤ modThreat ∧ w.isAlive victimOwner then
      addThreatToOwner m victimOwner
    else some m
  | none => some m

/-- `ThreatManager::_addThreat` -/
def addThreatTo (u : U) (threat : K) : Option (ThreatManager U K) :=
  match m.getReferenceByTarget m.onlineList u with
  | some r => m.refAddThreat w addThreatToOwner r threat
  | none =>
    match m.getReferenceByTarget m.offlineList u with
    | some r => m.refAddThreat w addThreatToOwner r threat
    | none =>
      let hostileRef := m.nextRef
      ((m.addReference u).refAddThreat w addThreatToOwner hostileRef threat).map fun m =>
        if w.isGameMaster u then m.setOnlineOfflineState hostileRef false else m

def doAddThreat (u : U) (threat : K) : Option (ThreatManager U K) :=
  let reduced := w.reducedThreatPercent u
  if 0 < threat ∧ reduced ≠ 0 then
    match w.misdirectionTarget u with
    | none =>
      let reducedThreat := threat * reduced / 100
      m.addThreatTo w addThreatToOwner u (threat - reducedThreat)
    | some redirectTarget =>
      let reduced := match w.glyphOfVigilance redirectTarget with
        | some value => ((reduced + value) % 2 ^ 32).toNat
        | none => reduced
      let reducedThreat := threat * reduced / 100
      (m.addThreatTo w addThreatToOwner redirectTarget reducedThreat).bind fun m =>
        m.addThreatTo w addThreatToOwner u (threat - reducedThreat)
  else m.addThreatTo w addThreatToOwner u threat

def addThreatWith (u : U) (threat : K) (school : Nat) (spell : Option (ThreatSpell K)) :
    Option (ThreatManager U K) :=
  if m.isValidProcess w u spell then
    m.doAddThreat w addThreatToOwner u (w.calcThreat u threat school spell)
  else some m

end Source

/-- `addThreat` of an owner; the call has no spell and the school is `SPELL_SCHOOL_NORMAL`. -/
def ownerAddThreat : Nat → ThreatManager U K → U → Option (ThreatManager U K)
  | 0, _, _ => none
  | fuel + 1, m, u => m.addThreatWith w (ownerAddThreat fuel) u 0 0 none

variable (fuel : Nat)

def addThreat (u : U) (threat : K) (school : Nat) (spell : Option (ThreatSpell K)) :
    Option (ThreatManager U K) :=
  m.addThreatWith w (ownerAddThreat w fuel) u threat school spell

def addRefThreat (r : Nat) (modThreat : K) : Option (ThreatManager U K) :=
  m.refAddThreat w (ownerAddThreat w fuel) r modThreat

def addThreatPercent (r : Nat) (percent : Int) : Option (ThreatManager U K) :=
  let tmpThreat := m.threat r + m.threat r * percent / 100
  m.addRefThreat w fuel r (tmpThreat - m.threat r)

def modifyThreatPercent (u : U) (percent : Int) : Option (ThreatManager U K) :=
  match m.getReferenceByTarget m.onlineList u with
  | none => some m
  | some r =>
    if percent < -100 then some (m.removeReference r) else m.addThreatPercent w fuel r percent

def tempThreat (r : Nat) : K := (m.refs r).elim 0 (·.temp)

def addTempThreat (r : Nat) (threat : K) : Option (ThreatManager U K) :=
  let m := m.setTempThreatModifier r threat
  if m.tempThreat r ≠ 0 then m.addRefThreat w fuel r (m.tempThreat r) else some m

def resetTempThreat (r : Nat) : Option (ThreatManager U K) :=
  if m.tempThreat r ≠ 0 then
    (m.addRefThreat w fuel r (-m.tempThreat r)).map (·.setTempThreatModifier r 0)
  else some m

def tauntApply (taunter : U) : Option (ThreatManager U K) :=
  match m.getReferenceByTarget m.onlineList taunter, m.victim with
  | some r, some v =>
    if m.threat r < m.threat v ∧ m.tempThreat r = 0 then
      m.addTempThreat w fuel r (m.threat v - m.threat r)
    else some m
  | _, _ => some m

def tauntFadeOut (taunter : U) : Option (ThreatManager U K) :=
  match m.getReferenceByTarget m.onlineList taunter with
  | some r => m.resetTempThreat w fuel r
  | none => some m

/-- `setCurrentVictim` with the reference of the caster in the online list. -/
def forceVictim (caster : U) : ThreatManager U K :=
  match m.getReferenceByTarget m.onlineList caster with
  | some forcedVictim => { m with victim := some forcedVictim }
  | none => m

/-- The part of `Spell::EffectTaunt` that changes the threat of the target. -/
def effectTaunt (caster : U) : Option (ThreatManager U K) :=
  let myThreat := (m.getReferenceByTarget m.onlineList caster).elim 0 m.threat
  let added := match m.victim with
    | some v =>
      if myThreat < m.threat v then m.addThreat w fuel caster (m.threat v - myThreat) 0 none
      else some m
    | none => some m
  added.map (·.forceVictim caster)

def exec : ThreatCall U K → Option (ThreatManager U K)
  | .addThreat u threat school spell => m.addThreat w fuel u threat school spell
  | .threatAssist u threat spell =>
    if m.isValidProcess w u spell then m.doAddThreat w (ownerAddThreat w fuel) u threat else some m
  | .modifyThreatPercent u percent => m.modifyThreatPercent w fuel u percent
  | .addThreatPercent r percent => m.addThreatPercent w fuel r percent
  | .addTempThreat r threat apply =>
    if apply then if m.tempThreat r = 0 then m.addTempThreat w fuel r threat else some m
    else m.resetTempThreat w fuel r
  | .setOnlineOfflineState r isOnline => some (m.setOnlineOfflineState r isOnline)
  | .updateOnlineStatus r => some (m.updateOnlineStatus w r)
  | .tauntApply u => m.tauntApply w fuel u
  | .tauntFadeOut u => m.tauntFadeOut w fuel u
  | .effectTaunt u => m.effectTaunt w fuel u
  | .removeReference r => some (m.removeReference r)
  | .clearReferences => some m.clearReferences
  | .getHostilTarget => some (m.getHostilTarget w)

/-! ## Steps -/

def step : ThreatStep U K → ThreatManager U K
  | .create u threat =>
    if m.getReferenceByTarget m.onlineList u = none ∧
        m.getReferenceByTarget m.offlineList u = none then
      (m.addReference u).changeThreat w m.nextRef threat
    else m
  | .change r threat => m.changeThreat w r threat
  | .online r isOnline => m.setOnlineOfflineState r isOnline
  | .status r => m.updateOnlineStatus w r
  | .temp r threat => m.setTempThreatModifier r threat
  | .remove r => m.removeReference r
  | .clear => m.clearReferences
  | .select => m.getHostilTarget w
  | .force u => m.forceVictim u

def Steps (m m' : ThreatManager U K) : Prop :=
  ∃ steps : List (ThreatStep U K), steps.foldl (·.step w) m = m'

variable {w m} {m' m'' : ThreatManager U K}

namespace Steps

theorem refl : Steps w m m := ⟨[], rfl⟩

theorem single (s : ThreatStep U K) (h : m.step w s = m') : Steps w m m' := ⟨[s], h⟩

theorem trans (h : Steps w m m') (h' : Steps w m' m'') : Steps w m m'' := by
  obtain ⟨steps, rfl⟩ := h
  obtain ⟨steps', rfl⟩ := h'
  exact ⟨steps ++ steps', by simp⟩

end Steps

section Chain

variable {addThreatToOwner : ThreatManager U K → U → Option (ThreatManager U K)}
  (howner : ∀ {m u m'}, addThreatToOwner m u = some m' → Steps w m m')
  {u : U} {r : Nat} {threat : K}

include howner

theorem refAddThreat_steps (h : m.refAddThreat w addThreatToOwner r threat = some m') :
    Steps w (m.changeThreat w r threat) m' := by
  unfold refAddThreat at h
  dsimp only at h
  split at h
  · split_ifs at h
    · exact howner h
    · exact Option.some.inj h ▸ .refl
  · exact Option.some.inj h ▸ .refl

theorem addThreatTo_steps (h : m.addThreatTo w addThreatToOwner u threat = some m') :
    Steps w m m' := by
  unfold addThreatTo at h
  cases hon : m.getReferenceByTarget m.onlineList u with
  | some r =>
    rw [hon] at h
    exact (Steps.single (.change r threat) rfl).trans (refAddThreat_steps howner h)
  | none =>
    cases hoff : m.getReferenceByTarget m.offlineList u with
    | some r =>
      rw [hon, hoff] at h
      exact (Steps.single (.change r threat) rfl).trans (refAddThreat_steps howner h)
    | none =>
      rw [hon, hoff] at h
      obtain ⟨m₁, h₁, rfl⟩ := Option.map_eq_some_iff.mp h
      have hcreate : Steps w m ((m.addReference u).changeThreat w m.nextRef threat) :=
        Steps.single (.create u threat) (if_pos ⟨hon, hoff⟩)
      refine (hcreate.trans (refAddThreat_steps howner h₁)).trans ?_
      split_ifs
      · exact Steps.single (.online m.nextRef false) rfl
      · exact .refl

theorem doAddThreat_steps (h : m.doAddThreat w addThreatToOwner u threat = some m') :
    Steps w m m' := by
  unfold doAddThreat at h
  dsimp only at h
  split_ifs at h
  · split at h
    · exact addThreatTo_steps howner h
    · obtain ⟨m₁, h₁, h₂⟩ := Option.bind_eq_some_iff.mp h
      exact (addThreatTo_steps howner h₁).trans (addThreatTo_steps howner h₂)
  · exact addThreatTo_steps howner h

theorem addThreatWith_steps {school : Nat} {spell : Option (ThreatSpell K)}
    (h : m.addThreatWith w addThreatToOwner u threat school spell = some m') : Steps w m m' := by
  unfold addThreatWith at h
  split_ifs at h
  · exact doAddThreat_steps howner h
  · exact Option.some.inj h ▸ .refl

end Chain

theorem ownerAddThreat_steps {fuel : Nat} {u : U} (h : ownerAddThreat w fuel m u = some m') :
    Steps w m m' := by
  induction fuel generalizing m u m' with
  | zero => exact absurd h (by simp [ownerAddThreat])
  | succ fuel ih => exact addThreatWith_steps ih h

variable {fuel : Nat} {r : Nat} {u : U} {threat : K}

theorem addRefThreat_steps (h : m.addRefThreat w fuel r threat = some m') : Steps w m m' :=
  (Steps.single (.change r threat) rfl).trans (refAddThreat_steps ownerAddThreat_steps h)

theorem addTempThreat_steps (h : m.addTempThreat w fuel r threat = some m') : Steps w m m' := by
  have htemp : Steps w m (m.setTempThreatModifier r threat) := Steps.single (.temp r threat) rfl
  unfold addTempThreat at h
  dsimp only at h
  split_ifs at h
  · exact htemp.trans (addRefThreat_steps h)
  · exact Option.some.inj h ▸ htemp

theorem resetTempThreat_steps (h : m.resetTempThreat w fuel r = some m') : Steps w m m' := by
  unfold resetTempThreat at h
  split_ifs at h
  · obtain ⟨m₁, h₁, rfl⟩ := Option.map_eq_some_iff.mp h
    exact (addRefThreat_steps h₁).trans (Steps.single (.temp r 0) rfl)
  · exact Option.some.inj h ▸ .refl

theorem modifyThreatPercent_steps {percent : Int}
    (h : m.modifyThreatPercent w fuel u percent = some m') : Steps w m m' := by
  unfold modifyThreatPercent at h
  split at h
  · exact Option.some.inj h ▸ .refl
  · rename_i r _
    split_ifs at h
    · exact Steps.single (.remove r) (Option.some.inj h)
    · exact addRefThreat_steps h

theorem tauntApply_steps (h : m.tauntApply w fuel u = some m') : Steps w m m' := by
  unfold tauntApply at h
  split at h
  · split_ifs at h
    · exact addTempThreat_steps h
    · exact Option.some.inj h ▸ .refl
  · exact Option.some.inj h ▸ .refl

theorem tauntFadeOut_steps (h : m.tauntFadeOut w fuel u = some m') : Steps w m m' := by
  unfold tauntFadeOut at h
  split at h
  · exact resetTempThreat_steps h
  · exact Option.some.inj h ▸ .refl

theorem effectTaunt_steps (h : m.effectTaunt w fuel u = some m') : Steps w m m' := by
  obtain ⟨m₁, h₁, rfl⟩ := Option.map_eq_some_iff.mp h
  refine Steps.trans  ?_ (Steps.single (.force u) rfl)
  split at h₁
  · split_ifs at h₁
    · exact addThreatWith_steps ownerAddThreat_steps h₁
    · exact Option.some.inj h₁ ▸ .refl
  · exact Option.some.inj h₁ ▸ .refl

theorem exec_steps {c : ThreatCall U K} (h : m.exec w fuel c = some m') : Steps w m m' := by
  cases c with
  | addThreat u threat school spell => exact addThreatWith_steps ownerAddThreat_steps h
  | threatAssist u threat spell =>
    simp only [exec] at h
    split_ifs at h
    · exact doAddThreat_steps ownerAddThreat_steps h
    · exact Option.some.inj h ▸ .refl
  | modifyThreatPercent u percent => exact modifyThreatPercent_steps h
  | addThreatPercent r percent => exact addRefThreat_steps h
  | addTempThreat r threat apply =>
    simp only [exec] at h
    split_ifs at h
    · exact addTempThreat_steps h
    · exact Option.some.inj h ▸ .refl
    · exact resetTempThreat_steps h
  | setOnlineOfflineState r b => exact Steps.single (.online r b) (Option.some.inj h)
  | updateOnlineStatus r => exact Steps.single (.status r) (Option.some.inj h)
  | tauntApply u => exact tauntApply_steps h
  | tauntFadeOut u => exact tauntFadeOut_steps h
  | effectTaunt u => exact effectTaunt_steps h
  | removeReference r => exact Steps.single (.remove r) (Option.some.inj h)
  | clearReferences => exact Steps.single .clear (Option.some.inj h)
  | getHostilTarget => exact Steps.single .select (Option.some.inj h)

end ThreatManager

end Call

end SkyfireBG
