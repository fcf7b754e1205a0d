import Mathlib.Algebra.Order.Field.Rat
import Mathlib.Order.Lattice.Nat

/-!
# SkyfireBG.Combat.Threat

`ThreatManager`: the units a creature hates, in an online and an offline list of references.

A `HostileReference` is an object; the lists and the current victim hold pointers to it, here its
number in `refs`.  Threat is an element of an ordered field, where the source has a `float`.
Packets and the timer of the updates sent to clients are left out.
-/

/-- What stands for the `float` of threat. -/
class abbrev ThreatNumber (K : Type) := Field K, LinearOrder K, IsStrictOrderedRing K

namespace SkyfireBG

/-- The flags of a spell that `ThreatCalcHelper` reads. -/
structure ThreatSpell (K : Type) where
  /-- `SpellThreatEntry::pctMod`, of a spell that has an entry. -/
  pctMod : Option K
  /-- One of the effects is `SPELL_EFFECT_ENERGIZE` or the periodic aura of it. -/
  energize : Bool
  noThreat : Bool

/-- What the manager of one creature asks about the units of the world during a call. -/
structure ThreatWorld (U K : Type) where
  isGameMaster : U → Bool
  isAlive : U → Bool
  isInMap : U → Bool
  isInFlight : U → Bool
  isInAccessiblePlace : U → Bool
  isWithinCombatRange : U → Bool
  isWithinMeleeRange : U → Bool
  /-- `ObjectAccessor::GetUnit` finds the unit. -/
  isFound : U → Bool
  charmerOrOwner : U → Option U
  reducedThreatPercent : U → Nat
  misdirectionTarget : U → Option U
  /-- The value of the Glyph of Vigilance, of a unit that has the aura. -/
  glyphOfVigilance : U → Option Int
  /-- `ApplySpellMod` of the unit's mod owner. -/
  spellMod : U → K → K
  hasModThreat : U → Bool
  threatModifier : U → Nat → K
  isImmunedToDamage : U → Bool
  hasBreakableAura : U → Bool
  canCreatureAttack : U → Bool

structure HostileReference (U K : Type) where
  unit : U
  threat : K
  temp : K
  online : Bool
  accessible : Bool
  valid : Bool

structure ThreatManager (U K : Type) where
  owner : U
  refs : Nat → Option (HostileReference U K) := fun _ => none
  nextRef : Nat := 0
  onlineList : List Nat := []
  offlineList : List Nat := []
  /-- `iDirty` of the online container. -/
  dirty : Bool := false
  victim : Option Nat := none

inductive ThreatRefEvent (K : Type) where
  | threatChange (value : K)
  | onlineStatus
  | accessibleStatus
  | removeFromList

section Threat

variable {U K : Type} [DecidableEq U] [ThreatNumber K]

def ThreatWorld.applyTotalThreatModifier (w : ThreatWorld U K) (u : U) (threat : K)
    (school : Nat) : K :=
  if w.hasModThreat u = false ∨ threat < 0 then threat else threat * w.threatModifier u school

def ThreatWorld.calcThreat (w : ThreatWorld U K) (u : U) (threat : K) (school : Nat)
    (spell : Option (ThreatSpell K)) : K :=
  match spell with
  | none => w.applyTotalThreatModifier u threat school
  | some s =>
    let threat := match s.pctMod with
      | some pctMod => threat * pctMod
      | none => threat
    if s.energize then threat
    else w.applyTotalThreatModifier u (w.spellMod u threat) school

namespace ThreatManager

variable (w : ThreatWorld U K) (m : ThreatManager U K)

def isValidProcess (u : U) (spell : Option (ThreatSpell K)) : Bool :=
  decide (u ≠ m.owner) && !w.isGameMaster u && (w.isAlive u && w.isAlive m.owner) &&
    w.isInMap u && !(spell.elim false (·.noThreat))

def threat (r : Nat) : K := (m.refs r).elim 0 (·.threat)

def isAbove (r v : Nat) : Bool := decide (11 / 10 * m.threat v < m.threat r)

def isOnline (r : Nat) : Bool := (m.refs r).elim false (·.online)

def isValid (r : Nat) : Bool := (m.refs r).elim false (·.valid)

def target (p : U → Bool) (r : Nat) : Bool := (m.refs r).elim false (p ·.unit)

def getReferenceByTarget (list : List Nat) (u : U) : Option Nat :=
  list.find? fun r => (m.refs r).elim false (decide <| ·.unit = u)

def modify (r : Nat) (f : HostileReference U K → HostileReference U K) : ThreatManager U K :=
  { m with refs := Function.update m.refs r ((m.refs r).map f) }

def setDirty : ThreatManager U K := { m with dirty := true }

def processThreatEvent (r : Nat) : ThreatRefEvent K → ThreatManager U K
  | .threatChange value =>
    if (m.victim = some r ∧ value < 0) ∨ (m.victim ≠ some r ∧ 0 < value) then m.setDirty else m
  | .onlineStatus =>
    if m.isOnline r = false then
      let m := if m.victim = some r then { m.setDirty with victim := none } else m
      { m with onlineList := m.onlineList.filter (· ≠ r), offlineList := m.offlineList ++ [r] }
    else
      let m := if m.victim.elim false (m.isAbove r) then m.setDirty else m
      { m with onlineList := m.onlineList ++ [r], offlineList := m.offlineList.filter (· ≠ r) }
  | .accessibleStatus => m
  | .removeFromList =>
    let m := if m.victim = some r then { m.setDirty with victim := none } else m
    if m.isOnline r then { m with onlineList := m.onlineList.filter (· ≠ r) }
    else { m with offlineList := m.offlineList.filter (· ≠ r) }

def setAccessibleState (r : Nat) (isAccessible : Bool) : ThreatManager U K :=
  match m.refs r with
  | none => m
  | some ref =>
    if ref.accessible = isAccessible then m
    else (m.modify r ({ · with accessible := isAccessible })).processThreatEvent r .accessibleStatus

def setOnlineOfflineState (r : Nat) (isOnline : Bool) : ThreatManager U K :=
  match m.refs r with
  | none => m
  | some ref =>
    if ref.online = isOnline then m
    else
      let m := m.modify r ({ · with online := isOnline })
      let m := if isOnline then m else m.setAccessibleState r false
      m.processThreatEvent r .onlineStatus

def isNear (ref : HostileReference U K) : Bool :=
  (ref.valid || w.isFound ref.unit) && !w.isGameMaster ref.unit && !w.isInFlight ref.unit &&
    w.isInMap ref.unit

/-- The status that `updateOnlineStatus` computes. -/
def onlineStatus (ref : HostileReference U K) : Bool :=
  isNear w ref && (w.isInAccessiblePlace ref.unit || w.isWithinCombatRange ref.unit)

def updateOnlineStatus (r : Nat) : ThreatManager U K :=
  match m.refs r with
  | none => m
  | some ref =>
    let m := m.modify r ({ · with valid := ref.valid || w.isFound ref.unit })
    (m.setAccessibleState r (isNear w ref && w.isInAccessiblePlace ref.unit)).setOnlineOfflineState
      r (onlineStatus w ref)

/-- `HostileReference::addThreat`, up to the threat it creates to the owner of the target. -/
def changeThreat (r : Nat) (modThreat : K) : ThreatManager U K :=
  match m.refs r with
  | none => m
  | some _ =>
    let m := m.modify r fun ref => { ref with threat := ref.threat + modThreat }
    let m := if m.isOnline r then m else m.updateOnlineStatus w r
    if modThreat ≠ 0 then m.processThreatEvent r (.threatChange modThreat) else m

/-- `invalidate`: the target tells that the link is cut. -/
def invalidate (r : Nat) : ThreatManager U K :=
  (m.setOnlineOfflineState r false).modify r ({ · with valid := false })

/-- `removeReference(); delete ref;` -/
def removeReference (r : Nat) : ThreatManager U K :=
  match m.refs r with
  | none => m
  | some _ =>
    let m := (m.invalidate r).processThreatEvent r .removeFromList
    { m with refs := Function.update m.refs r none }

def clearReferences : ThreatManager U K :=
  { m with
    refs := fun r => if r ∈ m.onlineList ∨ r ∈ m.offlineList then none else m.refs r
    onlineList := []
    offlineList := []
    victim := none }

/-- `new HostileReference(victim, this, 0)` and `addReference`. -/
def addReference (u : U) : ThreatManager U K :=
  { m with
    refs := Function.update m.refs m.nextRef
      (some { unit := u, threat := 0, temp := 0, online := true, accessible := true,
              valid := true })
    nextRef := m.nextRef + 1
    onlineList := m.onlineList ++ [m.nextRef] }

def setTempThreatModifier (r : Nat) (threat : K) : ThreatManager U K :=
  m.modify r ({ · with temp := threat })

def update : ThreatManager U K :=
  { m with
    onlineList := if m.dirty ∧ 1 < m.onlineList.length then
        m.onlineList.insertionSort fun a b => m.threat b ≤ m.threat a
      else m.onlineList
    dirty := false }

def isSecondChoice (r : Nat) : Bool :=
  m.target (fun u => w.isImmunedToDamage u || w.hasBreakableAura u) r

def canAttack (r : Nat) : Bool := m.target w.canCreatureAttack r

def isBetter (r v : Nat) : Bool :=
  decide (13 / 10 * m.threat v < m.threat r) ||
    (m.isAbove r v && m.target w.isWithinMeleeRange r)

inductive Scan where
  | found (r : Nat)
  | notFound
  /-- The last reference is a second choice: start again with this victim. -/
  | restart (currentVictim : Option Nat)

/-- The loop of `selectNextVictim`. -/
def scan (noPriorityTargetFound : Bool) : Option Nat → List Nat → Scan
  | _, [] => .notFound
  | currentVictim, r :: rest =>
    if !noPriorityTargetFound && m.isSecondChoice w r then
      match rest with
      | [] => .restart currentVictim
      | _ :: _ =>
        scan noPriorityTargetFound (if currentVictim = some r then none else currentVictim) rest
    else if m.canAttack w r then
      match currentVictim with
      | some v =>
        if v = r ∨ !m.isAbove r v then .found v
        else if m.isBetter w r v then .found r
        else scan noPriorityTargetFound currentVictim rest
      | none => .found r
    else scan noPriorityTargetFound currentVictim rest

/-- `ThreatContainer::selectNextVictim`, for the current victim. -/
def selectNextVictim : Option Nat :=
  match m.scan w false m.victim m.onlineList with
  | .found r => some r
  | .notFound => none
  | .restart currentVictim =>
    match m.scan w true currentVictim m.onlineList with
    | .found r => some r
    | _ => none

/-- `getHostilTarget`; the target is the one of the new victim. -/
def getHostilTarget : ThreatManager U K :=
  { m.update with victim := m.update.selectNextVictim w }

end ThreatManager

end Threat

/-!
## The selection of a victim

The loop of `selectNextVictim`.
-/

namespace ThreatManager

variable {U K : Type} [ThreatNumber K]
variable {w : ThreatWorld U K} {m : ThreatManager U K} {b : Bool} {v v' : Option Nat}
  {r x : Nat} {list rest : List Nat}

/-- What the loop does with one reference: it is a second choice, the last one or not; it cannot be
attacked; or it is compared with the current victim. -/
theorem scan_cases (w : ThreatWorld U K) (m : ThreatManager U K) (b : Bool) (v : Option Nat)
    (x : Nat) (rest : List Nat) :
    (b = false ∧ m.isSecondChoice w x ∧ rest = [] ∧ m.scan w b v (x :: rest) = .restart v) ∨
    (b = false ∧ m.isSecondChoice w x ∧ rest ≠ [] ∧
      m.scan w b v (x :: rest) = m.scan w b (if v = some x then none else v) rest) ∨
    ((b ∨ ¬ m.isSecondChoice w x) ∧ ¬ m.canAttack w x ∧
      m.scan w b v (x :: rest) = m.scan w b v rest) ∨
    ((b ∨ ¬ m.isSecondChoice w x) ∧ m.canAttack w x ∧ v = none ∧
      m.scan w b v (x :: rest) = .found x) ∨
    ((b ∨ ¬ m.isSecondChoice w x) ∧ m.canAttack w x ∧ ∃ c, v = some c ∧
      ((c = x ∨ ¬ m.isAbove x c) ∧ m.scan w b v (x :: rest) = .found c ∨
        c ≠ x ∧ m.isAbove x c ∧ m.isBetter w x c ∧ m.scan w b v (x :: rest) = .found x ∨
        c ≠ x ∧ m.isAbove x c ∧ ¬ m.isBetter w x c ∧
          m.scan w b v (x :: rest) = m.scan w b v rest)) := by
  rw [scan.eq_def]
  dsimp only
  by_cases hs : (!b && m.isSecondChoice w x) = true
  · rw [if_pos hs]
    obtain ⟨hb, hs⟩ := Bool.and_eq_true_iff.mp hs
    replace hb : b = false := by simpa using hb
    cases rest with
    | nil => exact .inl ⟨hb, hs, rfl, rfl⟩
    | cons y rest => exact .inr (.inl ⟨hb, hs, by simp, rfl⟩)
  · rw [if_neg hs]
    have hs' : b ∨ ¬ m.isSecondChoice w x := by
      cases b <;> simp_all
    refine .inr (.inr ?_)
    by_cases ha : m.canAttack w x = true
    · rw [if_pos ha]
      cases v with
      | none => exact .inr (.inl ⟨hs', ha, rfl, rfl⟩)
      | some c =>
        refine .inr (.inr ⟨hs', ha, c, rfl, ?_⟩)
        dsimp only
        by_cases hc : c = x ∨ (!m.isAbove x c) = true
        · rw [if_pos hc]
          exact .inl ⟨hc.imp_right (by simp), rfl⟩
        · rw [if_neg hc]
          obtain ⟨hne, habove⟩ := not_or.mp hc
          replace habove : m.isAbove x c := by simpa using habove
          by_cases hbetter : m.isBetter w x c = true
          · rw [if_pos hbetter]
            exact .inr (.inl ⟨hne, habove, hbetter, rfl⟩)
          · rw [if_neg hbetter]
            exact .inr (.inr ⟨hne, habove, hbetter, rfl⟩)
    · rw [if_neg ha]
      exact .inl ⟨hs', ha, rfl⟩

theorem scan_mem (h : m.scan w b v list = .found r) : r ∈ list ∨ v = some r := by
  induction list generalizing v with
  | nil => simp [scan] at h
  | cons x rest ih =>
    obtain ⟨-, -, -, he⟩ | ⟨-, -, -, he⟩ | ⟨-, -, he⟩ | ⟨-, -, -, he⟩ | ⟨-, -, c, rfl, hc⟩ :=
      scan_cases w m b v x rest
    · cases he.symm.trans h
    · rcases ih (he.symm.trans h) with hr | hr
      · exact .inl (.tail _ hr)
      · split_ifs at hr
        exact .inr hr
    · exact (ih (he.symm.trans h)).imp_left (.tail _)
    · cases he.symm.trans h
      exact .inl (.head _)
    · obtain ⟨-, he⟩ | ⟨-, -, -, he⟩ | ⟨-, -, -, he⟩ := hc
      · cases he.symm.trans h
        exact .inr rfl
      · cases he.symm.trans h
        exact .inl (.head _)
      · exact (ih (he.symm.trans h)).imp_left (.tail _)

theorem scan_restart (h : m.scan w b v list = .restart v') (hr : v' = some r) : v = some r := by
  induction list generalizing v with
  | nil => simp [scan] at h
  | cons x rest ih =>
    obtain ⟨-, -, -, he⟩ | ⟨-, -, -, he⟩ | ⟨-, -, he⟩ | ⟨-, -, -, he⟩ | ⟨-, -, c, rfl, hc⟩ :=
      scan_cases w m b v x rest
    · cases he.symm.trans h
      exact hr
    · have := ih (he.symm.trans h)
      split_ifs at this
      exact this
    · exact ih (he.symm.trans h)
    · cases he.symm.trans h
    · obtain ⟨-, he⟩ | ⟨-, -, -, he⟩ | ⟨-, -, -, he⟩ := hc
      · cases he.symm.trans h
      · cases he.symm.trans h
      · exact ih (he.symm.trans h)

theorem selectNextVictim_mem (hv : ∀ r, m.victim = some r → r ∈ m.onlineList)
    (h : m.selectNextVictim w = some r) : r ∈ m.onlineList := by
  unfold selectNextVictim at h
  split at h
  · rename_i r' hscan
    cases h
    rcases scan_mem hscan with hr | hr
    · exact hr
    · exact hv _ hr
  · cases h
  · rename_i v' hscan
    split at h
    · rename_i r' hscan'
      cases h
      rcases scan_mem hscan' with hr | hr
      · exact hr
      · exact hv _ (scan_restart hscan hr)
    · cases h

variable {v : Nat}

def notBelow (m : ThreatManager U K) (a b : Nat) : Prop := m.threat b ≤ m.threat a

def isChosen (w : ThreatWorld U K) (m : ThreatManager U K) (v r : Nat) : Bool :=
  m.canAttack w r && !m.isSecondChoice w r && (decide (r = v) || m.isBetter w r v)

theorem isAbove_trans (h : m.isAbove x v) (hr : m.notBelow r x) : m.isAbove r v := by
  simp only [isAbove, decide_eq_true_eq] at h ⊢
  exact h.trans_le hr

theorem scan_victim (hv : v ∈ list) (hattack : m.canAttack w v) (hfirst : ¬ m.isSecondChoice w v)
    (hlist : list.Pairwise fun a b => m.isAbove b v → m.notBelow a b) :
    m.scan w false (some v) list =
      .found (((list.filter (m.isAbove · v)).find? (m.isChosen w v)).getD v) := by
  induction list with
  | nil => cases hv
  | cons x rest ih =>
    obtain ⟨hx, hrest⟩ := List.pairwise_cons.mp hlist
    have hskip : x ≠ v → ¬ m.isChosen w v x → m.scan w false (some v) (x :: rest) =
        m.scan w false (some v) rest → m.scan w false (some v) (x :: rest) =
        .found ((((x :: rest).filter (m.isAbove · v)).find? (m.isChosen w v)).getD v) := by
      intro hne hnot he
      have hmem : v ∈ rest := (List.mem_cons.mp hv).resolve_left (Ne.symm hne)
      rw [he, ih hmem hrest, List.filter_cons]
      split_ifs
      · rw [List.find?_cons_of_neg hnot]
      · rfl
    obtain ⟨-, hs, rfl, -⟩ | ⟨-, hs, -, he⟩ | ⟨-, ha, he⟩ | ⟨-, -, hnone, -⟩ |
      ⟨hs, ha, c, hc, hcase⟩ := scan_cases w m false (some v) x rest
    · rw [List.mem_singleton.mp hv] at hfirst
      exact absurd hs hfirst
    · have hne : x ≠ v := by
        rintro rfl
        exact hfirst hs
      rw [if_neg (by simpa using Ne.symm hne)] at he
      exact hskip hne (by simp [isChosen, hs]) he
    · have hne : x ≠ v := by
        rintro rfl
        exact ha hattack
      exact hskip hne (by simp [isChosen, ha]) he
    · cases hnone
    · cases hc
      have hs' : m.isSecondChoice w x = false := by simpa using hs
      obtain ⟨hstop, he⟩ | ⟨hne, habove, hbetter, he⟩ | ⟨hne, habove, hbetter, he⟩ := hcase
      · rw [he, List.filter_cons]
        by_cases habove : m.isAbove x v
        · -- the victim has negative threat and competes with itself
          obtain rfl := hstop.resolve_right (not_not_intro habove)
          rw [if_pos habove, List.find?_cons_of_pos (by simp [isChosen, ha, hs'])]
          rfl
        · have hnil : rest.filter (m.isAbove · v) = [] := by
            refine List.filter_eq_nil_iff.mpr fun b hb hab => habove ?_
            exact isAbove_trans hab (hx b hb hab)
          rw [if_neg habove, hnil]
          rfl
      · rw [he, List.filter_cons, if_pos habove,
          List.find?_cons_of_pos (by simp [isChosen, ha, hs', hbetter])]
        rfl
      · exact hskip hne.symm (by simp [isChosen, hbetter, hne.symm]) he

end ThreatManager

end SkyfireBG
