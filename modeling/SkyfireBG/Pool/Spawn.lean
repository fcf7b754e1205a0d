import SkyfireBG.Lib.Graph
import SkyfireBG.Lib.Lists

/-!
# SkyfireBG.Pool.Spawn

Pool groups and what is active in them: `PoolObject`, `PoolGroup` and `ActivePoolData`.

A kind of object is what the source has as the parameter of a template.  Chances are rational
numbers here.
-/

namespace SkyfireBG

inductive PoolKind where
  | creature
  | gameobject
  | pool
  | quest
deriving DecidableEq, Repr

structure PoolObject where
  guid : Nat
  chance : ℚ
deriving DecidableEq, Repr

structure PoolGroup where
  explicitlyChanced : List PoolObject := []
  equalChanced : List PoolObject := []
deriving DecidableEq, Repr

namespace PoolGroup

variable (g : PoolGroup)

def isEmpty : Bool := g.explicitlyChanced.isEmpty && g.equalChanced.isEmpty

def addEntry (o : PoolObject) (maxentries : Nat) : PoolGroup :=
  if o.chance ≠ 0 ∧ maxentries = 1 then
    { g with explicitlyChanced := g.explicitlyChanced ++ [o] }
  else { g with equalChanced := g.equalChanced ++ [o] }

def removeOneRelation (child : Nat) : PoolGroup where
  explicitlyChanced := g.explicitlyChanced.eraseP (fun o => o.guid == child)
  equalChanced := g.equalChanced.eraseP (fun o => o.guid == child)

def guids : List Nat := (g.explicitlyChanced ++ g.equalChanced).map PoolObject.guid

theorem mem_guids {g : PoolGroup} {x : Nat} : x ∈ g.guids ↔
    (∃ o ∈ g.equalChanced, o.guid = x) ∨ ∃ o ∈ g.explicitlyChanced, o.guid = x := by
  simp only [guids, List.map_append, List.mem_append, List.mem_map]
  exact or_comm

end PoolGroup

/-- The sets of what is spawned, one for each kind but pools, and `mSpawnedPools`. -/
structure ActivePoolData where
  spawned : PoolKind → Finset Nat := fun _ => ∅
  spawnedPools : Nat → Option Nat := fun _ => none

namespace ActivePoolData

variable (a : ActivePoolData) (k : PoolKind) (x p : Nat)

def getActiveObjectCount : Nat := (a.spawnedPools p).getD 0

def isActiveObject : Bool :=
  match k with
  | .pool => (a.spawnedPools x).isSome
  | k => decide (x ∈ a.spawned k)

/-- `mSpawnedPools[pool_id]` is written; it is zero when there is no entry. -/
def setCount (f : Nat → Nat) : ActivePoolData :=
  { a with spawnedPools := Function.update a.spawnedPools p (some (f (a.getActiveObjectCount p))) }

def insert : ActivePoolData :=
  match k with
  | .pool => { a with spawnedPools := Function.update a.spawnedPools x (some 0) }
  | k => { a with spawned := Function.update a.spawned k (Insert.insert x (a.spawned k)) }

def erase : ActivePoolData :=
  match k with
  | .pool => { a with spawnedPools := Function.update a.spawnedPools x none }
  | k => { a with spawned := Function.update a.spawned k ((a.spawned k).erase x) }

def activateObject : ActivePoolData := (a.insert k x).setCount p (· + 1)

def removeObject : ActivePoolData := (a.erase k x).setCount p (· - 1)

variable {a k x p} {k' : PoolKind} {y q : Nat} {f : Nat → Nat}

theorem isActive_pool : a.isActiveObject .pool x = true ↔ (a.spawnedPools x).isSome = true := Iff.rfl

theorem isActive_other (hk : k ≠ .pool) : a.isActiveObject k x = true ↔ x ∈ a.spawned k := by
  cases k with
  | pool => exact absurd rfl hk
  | creature => exact decide_eq_true_iff
  | gameobject => exact decide_eq_true_iff
  | quest => exact decide_eq_true_iff

theorem isActive_insert : (a.insert k x).isActiveObject k' y = true ↔
    a.isActiveObject k' y = true ∨ (k' = k ∧ y = x) := by
  by_cases hy : y = x
  · subst hy
    cases k <;> cases k' <;> simp [insert, isActive_pool, isActive_other]
  · cases k <;> cases k' <;> simp [insert, isActive_pool, isActive_other, hy]

theorem isActive_erase : (a.erase k x).isActiveObject k' y = true ↔
    a.isActiveObject k' y = true ∧ ¬ (k' = k ∧ y = x) := by
  by_cases hy : y = x
  · subst hy
    cases k <;> cases k' <;> simp [erase, isActive_pool, isActive_other]
  · cases k <;> cases k' <;> simp [erase, isActive_pool, isActive_other, hy]

theorem isActive_setCount : (a.setCount p f).isActiveObject k y = true ↔
    a.isActiveObject k y = true ∨ (k = .pool ∧ y = p) := by
  by_cases hy : y = p
  · subst hy
    cases k <;> simp [setCount, isActive_pool, isActive_other]
  · cases k <;> simp [setCount, isActive_pool, isActive_other, hy]

theorem count_insert : (a.insert k x).getActiveObjectCount q =
    if k = .pool ∧ q = x then 0 else a.getActiveObjectCount q := by
  by_cases hq : q = x
  · subst hq
    cases k <;> simp [insert, getActiveObjectCount]
  · cases k <;> simp [insert, getActiveObjectCount, hq]

theorem count_erase : (a.erase k x).getActiveObjectCount q =
    if k = .pool ∧ q = x then 0 else a.getActiveObjectCount q := by
  by_cases hq : q = x
  · subst hq
    cases k <;> simp [erase, getActiveObjectCount]
  · cases k <;> simp [erase, getActiveObjectCount, hq]

theorem count_setCount : (a.setCount p f).getActiveObjectCount q =
    if q = p then f (a.getActiveObjectCount q) else a.getActiveObjectCount q := by
  by_cases hq : q = p
  · subst hq
    simp [setCount, getActiveObjectCount]
  · simp [setCount, getActiveObjectCount, hq]

theorem count_of_inactive (h : a.isActiveObject .pool x = false) :
    a.getActiveObjectCount x = 0 := by
  have hnone : a.spawnedPools x = none := by simpa [isActiveObject] using h
  rw [getActiveObjectCount, hnone, Option.getD_none]

theorem isActive_activateObject : (a.activateObject k x p).isActiveObject k' y = true ↔
    a.isActiveObject k' y = true ∨ (k' = k ∧ y = x) ∨ (k' = .pool ∧ y = p) := by
  rw [activateObject, isActive_setCount, isActive_insert, or_assoc]

theorem isActive_removeObject : (a.removeObject k x p).isActiveObject k' y = true ↔
    (a.isActiveObject k' y = true ∧ ¬ (k' = k ∧ y = x)) ∨ (k' = .pool ∧ y = p) := by
  rw [removeObject, isActive_setCount, isActive_erase]

theorem count_activateObject (h : a.isActiveObject k x = false) :
    (a.activateObject k x p).getActiveObjectCount q =
      a.getActiveObjectCount q + if q = p then 1 else 0 := by
  have hsame : (a.insert k x).getActiveObjectCount q = a.getActiveObjectCount q := by
    rw [count_insert]
    split
    · rename_i hpool
      obtain ⟨rfl, rfl⟩ := hpool
      exact (count_of_inactive h).symm
    · rfl
  rw [activateObject, count_setCount, hsame]
  split <;> rfl

theorem count_removeObject (h : k = .pool → a.getActiveObjectCount x = 0) :
    (a.removeObject k x p).getActiveObjectCount q =
      a.getActiveObjectCount q - if q = p then 1 else 0 := by
  have hsame : (a.erase k x).getActiveObjectCount q = a.getActiveObjectCount q := by
    rw [count_erase]
    split
    · rename_i hpool
      obtain ⟨rfl, rfl⟩ := hpool
      exact (h rfl).symm
    · rfl
  rw [removeObject, count_setCount, hsame]
  split <;> rfl

theorem spawnedPools_activateObject (hq : q ≠ p) (hx : k = .pool → q ≠ x) :
    (a.activateObject k x p).spawnedPools q = a.spawnedPools q := by
  cases k with
  | pool => simp [activateObject, setCount, insert, hq, hx rfl]
  | creature => simp [activateObject, setCount, insert, hq]
  | gameobject => simp [activateObject, setCount, insert, hq]
  | quest => simp [activateObject, setCount, insert, hq]

theorem spawnedPools_removeObject (hq : q ≠ p) (hx : k = .pool → q ≠ x) :
    (a.removeObject k x p).spawnedPools q = a.spawnedPools q := by
  cases k with
  | pool => simp [removeObject, setCount, erase, hq, hx rfl]
  | creature => simp [removeObject, setCount, erase, hq]
  | gameobject => simp [removeObject, setCount, erase, hq]
  | quest => simp [removeObject, setCount, erase, hq]

end ActivePoolData

/-!
## Spawning

`PoolGroup::RollOne`, `DespawnObject` and `SpawnObject` for all kinds, and `SpawnPool`,
`DespawnPool` and `UpdatePool` of the pool manager.

Random outcomes are given by `dice`, of which each draw takes the next.  Pools of pools are spawned
and despawned through each other, to a depth given by fuel: `none` is what has not come to an end.
-/

/-- What is loaded: `mPoolTemplate`, the groups of all kinds, `mPoolSearchMap` and
`mQuestSearchMap`. -/
structure PoolMgr where
  maxLimit : Nat → Nat
  groups : PoolKind → Nat → PoolGroup
  poolSearch : Nat → Option Nat
  questSearch : List (Nat × Nat)

/-- A call of `PoolGroup<Quest>::SpawnObject`, with what it finds active and saved. -/
structure QuestCall where
  pool : Nat
  trigger : Nat
  active : ActivePoolData
  saved : List Nat

structure PoolState where
  active : ActivePoolData := {}
  used : Nat := 0
  /-- `pool_quest_save`: the quests of a pool. -/
  saved : Nat → List Nat := fun _ => []
  /-- The calls of `ActivateObject` so far, each with the object and its pool. -/
  activated : List (PoolKind × Nat × Nat) := []
  /-- The calls of `PoolGroup<Quest>::SpawnObject` so far. -/
  questCalls : List QuestCall := []

namespace PoolState

variable (s : PoolState) (k : PoolKind) (x p : Nat)

def activateObject : PoolState :=
  { s with
    active := s.active.activateObject k x p
    activated := (k, x, p) :: s.activated }

def removeObject : PoolState := { s with active := s.active.removeObject k x p }

/-- `PoolGroup<Quest>::SpawnObject` is called. -/
def callQuests (trigger : Nat) : PoolState :=
  { s with questCalls := ⟨p, trigger, s.active, s.saved p⟩ :: s.questCalls }

@[simp] theorem removeObject_questCalls : (s.removeObject k x p).questCalls = s.questCalls := rfl

end PoolState

namespace PoolMgr

variable (dice : Nat → ℚ × Nat) (mgr : PoolMgr)

/-- `PoolGroup::RollOne` on the list with explicit chances.  The object that triggers counts as not
active. -/
def rollExplicit (a : ActivePoolData) (k : PoolKind) (trigger : Nat) :
    ℚ → List PoolObject → Option PoolObject
  | _, [] => none
  | roll, o :: os =>
    if roll - o.chance < 0 ∧ (o.guid = trigger ∨ a.isActiveObject k o.guid = false) then some o
    else rollExplicit a k trigger (roll - o.chance) os

/-- `PoolGroup::RollOne` on the list with equal chances. -/
def rollEqual (a : ActivePoolData) (k : PoolKind) (trigger index : Nat) (os : List PoolObject) :
    Option PoolObject :=
  (os[index % os.length]?).filter fun o => o.guid = trigger ∨ a.isActiveObject k o.guid = false

def rollOne (k : PoolKind) (g : PoolGroup) (trigger : Nat) (s : PoolState) :
    Option PoolObject × PoolState :=
  let r := if g.explicitlyChanced.isEmpty then (none, s)
    else (rollExplicit s.active k trigger (dice s.used).1 g.explicitlyChanced,
      { s with used := s.used + 1 })
  match r with
  | (some o, s) => (some o, s)
  | (none, s) =>
    if g.equalChanced.isEmpty then (none, s)
    else (rollEqual s.active k trigger (dice s.used).2 g.equalChanced, { s with used := s.used + 1 })

section group

variable (spawn1 despawn1 : Nat → PoolState → Option PoolState) (k : PoolKind) (p : Nat)

/-- The loop of `DespawnObject`; all objects go when no `guid` is given. -/
def despawnList (guid : Nat) : List PoolObject → PoolState → Option PoolState
  | [], s => some s
  | o :: os, s =>
    if s.active.isActiveObject k o.guid = true ∧ (guid = 0 ∨ o.guid = guid) then
      (despawn1 o.guid s).bind fun s =>
        despawnList guid os (s.removeObject k o.guid p)
    else despawnList guid os s

def despawnObject (g : PoolGroup) (guid : Nat) (s : PoolState) : Option PoolState :=
  (despawnList despawn1 k p guid g.equalChanced s).bind
    (despawnList despawn1 k p guid g.explicitlyChanced)

/-- The loop of `SpawnObject`, which tries as often as there is room. -/
def spawnLoop (g : PoolGroup) : Nat → Nat → Nat → PoolState → Option PoolState
  | 0, _, _, s => some s
  | n + 1, last, trigger, s =>
    match rollOne dice k g trigger s with
    | (none, s) => spawnLoop g n last trigger s
    | (some o, s) =>
      if o.guid = last then spawnLoop g n last trigger s
      else if o.guid = trigger then spawnLoop g n last 0 s
      else
        (spawn1 o.guid (s.activateObject k o.guid p)).bind fun s =>
          if trigger ≠ 0 then
            (despawnObject despawn1 k p g trigger s).bind (spawnLoop g n trigger 0)
          else spawnLoop g n last trigger s

/-- `int count = limit - active`, and one more for an object that triggers. -/
def spawnCount (limit active trigger : Nat) : Nat :=
  ((BitVec.ofNat 32 limit - BitVec.ofNat 32 active).toInt + if trigger ≠ 0 then 1 else 0).toNat

def spawnObject (g : PoolGroup) (limit trigger : Nat) (s : PoolState) : Option PoolState :=
  spawnLoop dice spawn1 despawn1 k p g
    (spawnCount limit (s.active.getActiveObjectCount p) trigger) 0 trigger s

end group

/-- `SelectRandomContainerElement`. -/
def selectRandom (index : Nat) (l : Finset Nat) : Nat := (ascending l).getD (index % l.card) 0

def loadSaved (p : Nat) : List Nat → BitVec 32 → PoolState → PoolState
  | [], _, s => s
  | q :: qs, limit, s =>
    let s := s.activateObject .quest q p
    if limit - 1 = 0 then s else loadSaved p qs (limit - 1) s

def recycle (limit : Nat) : Nat → Finset Nat → Finset Nat → Nat → Finset Nat × Nat
  | 0, _, new, used => (new, used)
  | n + 1, current, new, used =>
    let q := selectRandom (dice used).2 current
    let new := insert q new
    let current := current.erase q
    if new.card < limit ∧ current ≠ ∅ then recycle limit n current new (used + 1)
    else (new, used + 1)

def activateNew (p : Nat) : Nat → Finset Nat → BitVec 32 → PoolState → PoolState
  | 0, _, _, s => s
  | n + 1, new, limit, s =>
    let q := selectRandom (dice s.used).2 new
    let s := { s with used := s.used + 1 }.activateObject .quest q p
    let new := new.erase q
    if limit - 1 ≠ 0 ∧ new ≠ ∅ then activateNew p n new (limit - 1) s else s

/-- The rows that `SaveQuestsToDB` writes for a pool. -/
def activeQuests (s : PoolState) (p : Nat) : List Nat :=
  (mgr.questSearch.filter fun e => e.2 == p && s.active.isActiveObject .quest e.1).map Prod.fst

def saveQuestsToDB (s : PoolState) : PoolState :=
  let left := fun p => if (mgr.groups .quest p).isEmpty then s.saved p else []
  { s with saved := fun p => left p ++ mgr.activeQuests s p }

def newQuests (a : ActivePoolData) (p : Nat) : Finset Nat :=
  (((mgr.groups .quest p).equalChanced.map PoolObject.guid).filter
    fun q => !a.isActiveObject .quest q).toFinset

/-- The quests to activate: new ones, and active ones again where the new ones are too few. -/
def chooseQuests (p limit : Nat) (a : ActivePoolData) (used : Nat) : Finset Nat × Nat :=
  let current := a.spawned .quest
  let new := mgr.newQuests a p
  if limit > new.card ∧ current ≠ ∅ then recycle dice limit current.card current new used
  else (new, used)

/-- `PoolGroup<Quest>::SpawnObject` where nothing is loaded from the table. -/
def rotateQuests (p limit trigger : Nat) (s : PoolState) : PoolState :=
  let r := mgr.chooseQuests dice p limit s.active s.used
  let s := (despawnObject (fun _ s => some s) .quest p (mgr.groups .quest p) 0 s).getD s
  let s := { s with used := r.2 }
  if r.1 = ∅ then s
  else
    let s := activateNew dice p r.1.card r.1 (BitVec.ofNat 32 limit) s
    if trigger = 0 then mgr.saveQuestsToDB s else s

/-- `PoolGroup<Quest>::SpawnObject`. -/
def spawnQuests (p limit trigger : Nat) (s : PoolState) : PoolState :=
  let s := s.callQuests p trigger
  if trigger = 0 ∧ s.saved p ≠ [] then loadSaved p (s.saved p) (BitVec.ofNat 32 limit) s
  else mgr.rotateQuests dice p limit trigger s

def despawnPool : Nat → Nat → PoolState → Option PoolState
  | 0, _, _ => none
  | fuel + 1, p, s =>
    (despawnObject (fun _ s => some s) .creature p (mgr.groups .creature p) 0 s).bind fun s =>
    (despawnObject (fun _ s => some s) .gameobject p (mgr.groups .gameobject p) 0 s).bind fun s =>
    (despawnObject (despawnPool fuel) .pool p (mgr.groups .pool p) 0 s).bind fun s =>
    despawnObject (fun _ s => some s) .quest p (mgr.groups .quest p) 0 s

/-- `SpawnPool<T>`, given how pools of pools are spawned. -/
def spawnKind (spawn1 despawn1 : Nat → PoolState → Option PoolState) (k : PoolKind)
    (p trigger : Nat) (s : PoolState) : Option PoolState :=
  if (mgr.groups k p).isEmpty then some s
  else match k with
    | .quest => some (mgr.spawnQuests dice p (mgr.maxLimit p) trigger s)
    | .pool => spawnObject dice spawn1 despawn1 .pool p (mgr.groups .pool p) (mgr.maxLimit p) trigger s
    | k => spawnObject dice (fun _ s => some s) (fun _ s => some s) k p (mgr.groups k p)
        (mgr.maxLimit p) trigger s

def spawnPool : Nat → Nat → PoolState → Option PoolState
  | 0, _, _ => none
  | fuel + 1, p, s =>
    let spawn := mgr.spawnKind dice (spawnPool fuel) (mgr.despawnPool fuel)
    (spawn .pool p 0 s).bind fun s =>
    (spawn .gameobject p 0 s).bind fun s =>
    (spawn .creature p 0 s).bind fun s => spawn .quest p 0 s

/-- What is rolled at an update, and where: a pool that is part of another is rolled there. -/
def updateTarget (k : PoolKind) (p x : Nat) : PoolKind × Nat × Nat :=
  match mgr.poolSearch p with
  | some (mother + 1) => (.pool, mother + 1, p)
  | _ => (k, p, x)

/-- `UpdatePool<T>`. -/
def updatePool (fuel : Nat) (k : PoolKind) (p x : Nat) (s : PoolState) : Option PoolState :=
  let t := mgr.updateTarget k p x
  mgr.spawnKind dice (mgr.spawnPool dice fuel) (mgr.despawnPool fuel) t.1 t.2.1 t.2.2 s

/-! ## Spawning and despawning come to an end -/

section ends

variable {dice mgr} {spawn1 despawn1 spawn1' despawn1' : Nat → PoolState → Option PoolState}
  {k : PoolKind} {p guid trigger last n m : Nat} {os : List PoolObject} {g : PoolGroup}
  {s s' r : PoolState} {o : PoolObject}

def Extends (f f' : Nat → PoolState → Option PoolState) : Prop :=
  ∀ x s r, f x s = some r → f' x s = some r

theorem despawnList_mono (h : Extends despawn1 despawn1')
    (hr : despawnList despawn1 k p guid os s = some r) :
    despawnList despawn1' k p guid os s = some r := by
  induction os generalizing s with
  | nil => exact hr
  | cons o os ih =>
    unfold despawnList at hr ⊢
    split at hr
    · rename_i hactive
      rw [if_pos hactive]
      obtain ⟨s', hs', hrest⟩ := Option.bind_eq_some_iff.mp hr
      rw [h _ _ _ hs', Option.bind_some]
      exact ih hrest
    · rename_i hactive
      rw [if_neg hactive]
      exact ih hr

theorem despawnObject_mono (h : Extends despawn1 despawn1')
    (hr : despawnObject despawn1 k p g guid s = some r) :
    despawnObject despawn1' k p g guid s = some r := by
  obtain ⟨s', hs', hrest⟩ := Option.bind_eq_some_iff.mp hr
  unfold despawnObject
  rw [despawnList_mono h hs', Option.bind_some]
  exact despawnList_mono h hrest

theorem spawnLoop_mono (hs : Extends spawn1 spawn1') (hd : Extends despawn1 despawn1')
    (hr : spawnLoop dice spawn1 despawn1 k p g n last trigger s = some r) :
    spawnLoop dice spawn1' despawn1' k p g n last trigger s = some r := by
  induction n generalizing last trigger s with
  | zero => exact hr
  | succ n ih =>
    unfold spawnLoop at hr ⊢
    generalize rollOne dice k g trigger s = roll at hr ⊢
    obtain ⟨o, s₁⟩ := roll
    cases o with
    | none => exact ih hr
    | some o =>
      dsimp only at hr ⊢
      split at hr
      · rename_i hlast
        rw [if_pos hlast]
        exact ih hr
      · rename_i hlast
        rw [if_neg hlast]
        split at hr
        · rename_i htrigger
          rw [if_pos htrigger]
          exact ih hr
        · rename_i htrigger
          rw [if_neg htrigger]
          obtain ⟨s₂, hs₂, hrest⟩ := Option.bind_eq_some_iff.mp hr
          rw [hs _ _ _ hs₂, Option.bind_some]
          split at hrest
          · rename_i hnonzero
            rw [if_pos hnonzero]
            obtain ⟨s₃, hs₃, hrest⟩ := Option.bind_eq_some_iff.mp hrest
            rw [despawnObject_mono hd hs₃, Option.bind_some]
            exact ih hrest
          · rename_i hzero
            rw [if_neg hzero]
            exact ih hrest

theorem despawnPool_mono (hle : n ≤ m) : Extends (mgr.despawnPool n) (mgr.despawnPool m) := by
  induction n generalizing m with
  | zero => intro x s r h; cases h
  | succ n ih =>
    obtain ⟨m, rfl⟩ : ∃ m', m = m' + 1 := ⟨m - 1, by omega⟩
    intro x s r h
    unfold despawnPool at h ⊢
    obtain ⟨s₁, h₁, h⟩ := Option.bind_eq_some_iff.mp h
    obtain ⟨s₂, h₂, h⟩ := Option.bind_eq_some_iff.mp h
    obtain ⟨s₃, h₃, h⟩ := Option.bind_eq_some_iff.mp h
    rw [h₁, Option.bind_some, h₂, Option.bind_some,
      despawnObject_mono (ih (Nat.le_of_succ_le_succ hle)) h₃, Option.bind_some, h]

theorem spawnKind_mono (hs : Extends spawn1 spawn1') (hd : Extends despawn1 despawn1')
    (hr : mgr.spawnKind dice spawn1 despawn1 k p trigger s = some r) :
    mgr.spawnKind dice spawn1' despawn1' k p trigger s = some r := by
  unfold spawnKind at hr ⊢
  split at hr
  · rename_i hempty
    rw [if_pos hempty]
    exact hr
  · rename_i hempty
    rw [if_neg hempty]
    cases k with
    | pool => exact spawnLoop_mono hs hd hr
    | creature => exact hr
    | gameobject => exact hr
    | quest => exact hr

theorem spawnPool_mono (hle : n ≤ m) :
    Extends (mgr.spawnPool dice n) (mgr.spawnPool dice m) := by
  induction n generalizing m with
  | zero => intro x s r h; cases h
  | succ n ih =>
    obtain ⟨m, rfl⟩ : ∃ m', m = m' + 1 := ⟨m - 1, by omega⟩
    have hle' := Nat.le_of_succ_le_succ hle
    intro x s r h
    have hmono : ∀ k p t s r, mgr.spawnKind dice (mgr.spawnPool dice n) (mgr.despawnPool n) k p t s =
        some r → mgr.spawnKind dice (mgr.spawnPool dice m) (mgr.despawnPool m) k p t s = some r :=
      fun _ _ _ _ _ hr => spawnKind_mono (ih hle') (despawnPool_mono hle') hr
    unfold spawnPool at h ⊢
    obtain ⟨s₁, h₁, h⟩ := Option.bind_eq_some_iff.mp h
    obtain ⟨s₂, h₂, h⟩ := Option.bind_eq_some_iff.mp h
    obtain ⟨s₃, h₃, h⟩ := Option.bind_eq_some_iff.mp h
    dsimp only
    rw [hmono _ _ _ _ _ h₁, Option.bind_some, hmono _ _ _ _ _ h₂, Option.bind_some,
      hmono _ _ _ _ _ h₃, Option.bind_some, hmono _ _ _ _ _ h]

theorem rollExplicit_mem {a : ActivePoolData} {roll : ℚ}
    (h : rollExplicit a k trigger roll os = some o) :
    o ∈ os ∧ (o.guid = trigger ∨ a.isActiveObject k o.guid = false) := by
  induction os generalizing roll with
  | nil => cases h
  | cons x xs ih =>
    unfold rollExplicit at h
    split at h
    · rename_i hx
      cases h
      exact ⟨List.mem_cons_self, hx.2⟩
    · exact ⟨List.mem_cons_of_mem _ (ih h).1, (ih h).2⟩

theorem rollOne_spec (h : rollOne dice k g trigger s = (some o, s')) :
    o.guid ∈ g.guids ∧ (o.guid = trigger ∨ s.active.isActiveObject k o.guid = false) := by
  have hequal : ∀ index, rollEqual s.active k trigger index g.equalChanced = some o →
      o.guid ∈ g.guids ∧ (o.guid = trigger ∨ s.active.isActiveObject k o.guid = false) := by
    intro index ho
    obtain ⟨hmem, hok⟩ := Option.filter_eq_some_iff.mp ho
    refine ⟨PoolGroup.mem_guids.mpr (.inl ⟨o, List.mem_of_getElem? hmem, rfl⟩), ?_⟩
    simpa using hok
  unfold rollOne at h
  by_cases hexplicit : g.explicitlyChanced.isEmpty = true
  · simp only [hexplicit, if_true] at h
    split at h
    · cases h
    · exact hequal _ (congrArg Prod.fst h)
  · simp only [hexplicit, Bool.false_eq_true, if_false] at h
    cases hroll : rollExplicit s.active k trigger (dice s.used).1 g.explicitlyChanced with
    | some x =>
      rw [hroll] at h
      cases h
      obtain ⟨hmem, hok⟩ := rollExplicit_mem hroll
      exact ⟨PoolGroup.mem_guids.mpr (.inr ⟨o, hmem, rfl⟩), hok⟩
    | none =>
      rw [hroll] at h
      dsimp only at h
      split at h
      · cases h
      · exact hequal _ (congrArg Prod.fst h)

theorem rollOne_state : ∃ u, (rollOne dice k g trigger s).2 = { s with used := u } := by
  unfold rollOne
  by_cases hexplicit : g.explicitlyChanced.isEmpty = true
  · simp only [hexplicit, if_true]
    split
    · exact ⟨s.used, rfl⟩
    · exact ⟨s.used + 1, rfl⟩
  · simp only [hexplicit, Bool.false_eq_true, if_false]
    cases rollExplicit s.active k trigger (dice s.used).1 g.explicitlyChanced with
    | some x => exact ⟨s.used + 1, rfl⟩
    | none =>
      dsimp only
      split
      · exact ⟨s.used + 1, rfl⟩
      · exact ⟨s.used + 2, rfl⟩

theorem despawnList_isSome (h : ∀ o ∈ os, ∀ s, (despawn1 o.guid s).isSome = true) :
    (despawnList despawn1 k p guid os s).isSome = true := by
  induction os generalizing s with
  | nil => rfl
  | cons o os ih =>
    have hrest : ∀ s, (despawnList despawn1 k p guid os s).isSome = true :=
      fun s => ih fun o ho => h o (List.mem_cons_of_mem _ ho)
    unfold despawnList
    split
    · obtain ⟨s', hs'⟩ := Option.isSome_iff_exists.mp (h o List.mem_cons_self s)
      rw [hs', Option.bind_some]
      exact hrest _
    · exact hrest s

theorem despawnObject_isSome (h : ∀ x ∈ g.guids, ∀ s, (despawn1 x s).isSome = true) :
    (despawnObject despawn1 k p g guid s).isSome = true := by
  unfold despawnObject
  have hequal : (despawnList despawn1 k p guid g.equalChanced s).isSome = true :=
    despawnList_isSome fun o ho s => h o.guid (PoolGroup.mem_guids.mpr (.inl ⟨o, ho, rfl⟩)) s
  obtain ⟨s', hs'⟩ := Option.isSome_iff_exists.mp hequal
  rw [hs', Option.bind_some]
  exact despawnList_isSome fun o ho s => h o.guid (PoolGroup.mem_guids.mpr (.inr ⟨o, ho, rfl⟩)) s

theorem spawnLoop_isSome (hs : ∀ x ∈ g.guids, ∀ s, (spawn1 x s).isSome = true)
    (hd : ∀ x ∈ g.guids, ∀ s, (despawn1 x s).isSome = true) :
    (spawnLoop dice spawn1 despawn1 k p g n last trigger s).isSome = true := by
  induction n generalizing last trigger s with
  | zero => rfl
  | succ n ih =>
    unfold spawnLoop
    cases hroll : rollOne dice k g trigger s with
    | mk o s₁ =>
      cases o with
      | none => exact ih
      | some o =>
        dsimp only
        split
        · exact ih
        · split
          · exact ih
          · obtain ⟨s₂, hs₂⟩ := Option.isSome_iff_exists.mp (hs o.guid (rollOne_spec hroll).1
              (s₁.activateObject k o.guid p))
            rw [hs₂, Option.bind_some]
            split
            · have hgone : (despawnObject despawn1 k p g trigger s₂).isSome = true :=
                despawnObject_isSome hd
              obtain ⟨s₃, hs₃⟩ := Option.isSome_iff_exists.mp hgone
              rw [hs₃, Option.bind_some]
              exact ih
            · exact ih

theorem spawnKind_isSome (hs : ∀ x ∈ (mgr.groups .pool p).guids, ∀ s, (spawn1 x s).isSome = true)
    (hd : ∀ x ∈ (mgr.groups .pool p).guids, ∀ s, (despawn1 x s).isSome = true) :
    (mgr.spawnKind dice spawn1 despawn1 k p trigger s).isSome = true := by
  unfold spawnKind
  split
  · rfl
  · cases k with
    | quest => rfl
    | pool => exact spawnLoop_isSome hs hd
    | creature => exact spawnLoop_isSome (fun _ _ _ => rfl) fun _ _ _ => rfl
    | gameobject => exact spawnLoop_isSome (fun _ _ _ => rfl) fun _ _ _ => rfl

theorem exists_fuel_all {l : List Nat}
    (h : ∀ x ∈ l, ∃ fuel, ∀ s, (mgr.despawnPool fuel x s).isSome = true ∧
      (mgr.spawnPool dice fuel x s).isSome = true) :
    ∃ fuel, ∀ x ∈ l, ∀ s, (mgr.despawnPool fuel x s).isSome = true ∧
      (mgr.spawnPool dice fuel x s).isSome = true := by
  induction l with
  | nil => exact ⟨0, fun x hx => by cases hx⟩
  | cons y ys ih =>
    obtain ⟨n, hn⟩ := ih fun x hx => h x (List.mem_cons_of_mem _ hx)
    obtain ⟨m, hm⟩ := h y List.mem_cons_self
    have hraise : ∀ k x s, k ≤ max n m → (mgr.despawnPool k x s).isSome = true ∧
        (mgr.spawnPool dice k x s).isSome = true →
        (mgr.despawnPool (max n m) x s).isSome = true ∧
          (mgr.spawnPool dice (max n m) x s).isSome = true := by
      rintro k x s hle ⟨hd, hs⟩
      obtain ⟨r, hr⟩ := Option.isSome_iff_exists.mp hd
      obtain ⟨r', hr'⟩ := Option.isSome_iff_exists.mp hs
      rw [despawnPool_mono hle x s r hr, spawnPool_mono hle x s r' hr']
      exact ⟨rfl, rfl⟩
    refine ⟨max n m, fun x hx s => ?_⟩
    rcases List.mem_cons.mp hx with rfl | hx
    · exact hraise m x s (Nat.le_max_right n m) (hm s)
    · exact hraise n x s (Nat.le_max_left n m) (hn x hx s)

theorem exists_fuel (hwf : WellFounded fun x p => x ∈ (mgr.groups .pool p).guids) (p : Nat) :
    ∃ fuel, ∀ s, (mgr.despawnPool fuel p s).isSome = true ∧
      (mgr.spawnPool dice fuel p s).isSome = true := by
  induction p using hwf.induction with
  | h p ih =>
    obtain ⟨fuel, hfuel⟩ := exists_fuel_all ih
    refine ⟨fuel + 1, fun s => ⟨?_, ?_⟩⟩
    · have hplain : ∀ k s, (despawnObject (fun _ s => some s) k p (mgr.groups k p) 0 s).isSome =
          true := fun k s => despawnObject_isSome fun _ _ _ => rfl
      unfold despawnPool
      obtain ⟨s₁, h₁⟩ := Option.isSome_iff_exists.mp (hplain .creature s)
      obtain ⟨s₂, h₂⟩ := Option.isSome_iff_exists.mp (hplain .gameobject s₁)
      have hpools : (despawnObject (mgr.despawnPool fuel) .pool p (mgr.groups .pool p) 0
          s₂).isSome = true := despawnObject_isSome fun x hx s => (hfuel x hx s).1
      obtain ⟨s₃, h₃⟩ := Option.isSome_iff_exists.mp hpools
      rw [h₁, Option.bind_some, h₂, Option.bind_some, h₃, Option.bind_some]
      exact hplain .quest s₃
    · have hkind : ∀ k s, (mgr.spawnKind dice (mgr.spawnPool dice fuel) (mgr.despawnPool fuel) k p 0
          s).isSome = true := fun k s =>
        spawnKind_isSome (fun x hx s => (hfuel x hx s).2) fun x hx s => (hfuel x hx s).1
      unfold spawnPool
      dsimp only
      obtain ⟨s₁, h₁⟩ := Option.isSome_iff_exists.mp (hkind .pool s)
      obtain ⟨s₂, h₂⟩ := Option.isSome_iff_exists.mp (hkind .gameobject s₁)
      obtain ⟨s₃, h₃⟩ := Option.isSome_iff_exists.mp (hkind .creature s₂)
      rw [h₁, Option.bind_some, h₂, Option.bind_some, h₃, Option.bind_some]
      exact hkind .quest s₃

theorem exists_fuel_update (hwf : WellFounded fun x p => x ∈ (mgr.groups .pool p).guids)
    (k : PoolKind) (p x : Nat) :
    ∃ fuel, ∀ s, (mgr.updatePool dice fuel k p x s).isSome = true := by
  obtain ⟨fuel, hfuel⟩ : ∃ fuel, ∀ y ∈ (mgr.groups .pool (mgr.updateTarget k p x).2.1).guids, ∀ s,
      (mgr.despawnPool fuel y s).isSome = true ∧ (mgr.spawnPool dice fuel y s).isSome = true :=
    exists_fuel_all fun y _ => exists_fuel hwf y
  exact ⟨fuel, fun s =>
    spawnKind_isSome (fun y hy s => (hfuel y hy s).2) fun y hy s => (hfuel y hy s).1⟩

end ends

end PoolMgr

end SkyfireBG
