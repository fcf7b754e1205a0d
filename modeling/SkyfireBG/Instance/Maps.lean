import SkyfireBG.Lib.OrdMap

/-!
# SkyfireBG.Instance.Maps

The ids of instances, as `MapManager` gives them out: a vector of bits and the lowest free id.

* `InstanceIds.Lowest` — `_nextInstanceId` is the lowest free id.
* `generate_spec`, `free_spec`, `load_spec` — which ids are used afterwards.
-/

namespace SkyfireBG

/-- `_instanceIds` and `_nextInstanceId`.  An index outside the vector leaves it alone and is noted
in `wild`. -/
structure InstanceIds where
  ids : List Bool := []
  capacity : Nat := 0
  nextId : Nat := 1
  wild : Bool := false
deriving DecidableEq

namespace InstanceIds

variable (s : InstanceIds) (alloc : Nat → Nat → Nat) (id : Nat)

def used : Bool := s.ids[id]?.getD false

/-- `_instanceIds[id] = b`. -/
def mark (b : Bool) : InstanceIds :=
  if id < s.ids.length then { s with ids := s.ids.set id b } else { s with wild := true }

/-- `_instanceIds.resize(n)`.  `alloc` is the capacity that the vector gets when its old one is too
small. -/
def resize (n : Nat) : InstanceIds :=
  { s with
    ids := s.ids.take n ++ List.replicate (n - s.ids.length) false
    capacity := if n ≤ s.capacity then s.capacity else alloc s.capacity n }

def roundUp : Nat := (id / 32 * 32 + if id % 32 > 0 then 32 else 0) % 2 ^ 32

def initInstanceIds (maxId : Nat) : InstanceIds :=
  ({} : InstanceIds).resize alloc (roundUp maxId)

def registerInstanceId : InstanceIds := s.mark id true

/-- The loop of `GenerateInstanceId`, over at most `n` ids. -/
def findFree : Nat → Nat → Option Nat
  | 0, _ => none
  | n + 1, i => if s.used i then findFree n (i + 1) else some i

def INSTANCE_ID_MAX : Nat := 0xFFFFFFFF

/-- `GenerateInstanceId`.  Where no id is left it stays at the one after, which the source takes
for no overflow. -/
def generateInstanceId : Nat × InstanceIds :=
  let newInstanceId := s.nextId
  let first := (s.nextId + 1) % 2 ^ 32
  let s := { s with nextId := (s.findFree (INSTANCE_ID_MAX - first) first).getD first }
  let s := if s.ids.length % 2 ^ 32 ≤ newInstanceId then
      s.resize alloc (if s.ids.length < s.capacity then s.capacity else roundUp newInstanceId)
    else s
  (newInstanceId, s.mark newInstanceId true)

def freeInstanceId : InstanceIds :=
  ({ s with nextId := if id < s.nextId then id else s.nextId } : InstanceIds).mark id false

/-- What `LoadResetTimes` does with the id of a row. -/
def loadId : InstanceIds :=
  let s := if s.nextId = id then { s with nextId := (id + 1) % 2 ^ 32 } else s
  s.registerInstanceId id

variable {s alloc id} {i j n : Nat} {b : Bool}

theorem lt_of_used (h : s.used i = true) : i < s.ids.length := by
  by_contra hi
  rw [used, List.getElem?_eq_none (by omega)] at h
  cases h

theorem mark_of_lt (h : id < s.ids.length) : s.mark id b = { s with ids := s.ids.set id b } :=
  if_pos h

theorem used_mark (h : id < s.ids.length) :
    (s.mark id b).used i = if i = id then b else s.used i := by
  rw [mark_of_lt h, used]
  split
  · rename_i hi
    subst hi
    rw [List.getElem?_set_self h]
    rfl
  · rename_i hi
    rw [List.getElem?_set_ne (Ne.symm hi)]
    rfl

theorem used_resize (h : s.ids.length ≤ n) : (s.resize alloc n).used i = s.used i := by
  rw [used, used, resize, List.take_of_length_le h]
  by_cases hi : i < s.ids.length
  · rw [List.getElem?_append_left hi]
  · rw [List.getElem?_append_right (by omega), List.getElem?_eq_none (l := s.ids) (by omega)]
    by_cases hr : i - s.ids.length < n - s.ids.length
    · rw [List.getElem?_replicate_of_lt hr]
      rfl
    · rw [List.getElem?_eq_none (by simpa using hr)]

theorem length_resize (h : s.ids.length ≤ n) : (s.resize alloc n).ids.length = n := by
  simp only [resize, List.length_append, List.length_take, List.length_replicate]
  omega

theorem roundUp_gt (hmod : id % 32 ≠ 0) (hlt : id < 2 ^ 32 - 32) : id < roundUp id := by
  rw [roundUp, if_pos (Nat.pos_of_ne_zero hmod), Nat.mod_eq_of_lt (by omega)]
  omega

theorem findFree_eq (hij : i ≤ j) (hj : j < i + n) (hfree : s.used j = false) :
    ∃ k, s.findFree n i = some k ∧ i ≤ k ∧ s.used k = false ∧ ∀ m, i ≤ m → m < k → s.used m = true := by
  induction n generalizing i with
  | zero => omega
  | succ n ih =>
    cases hi : s.used i with
    | false =>
      exact ⟨i, by rw [findFree, hi]; rfl, le_rfl, hi, fun m hm hmi => absurd hm (by omega)⟩
    | true =>
      have hne : i ≠ j := by
        rintro rfl
        rw [hi] at hfree
        cases hfree
      obtain ⟨k, hk, hik, hkfree, hall⟩ := ih (i := i + 1) (by omega) (by omega)
      refine ⟨k, by rw [findFree, hi]; exact hk, by omega, hkfree, fun m hm hmk => ?_⟩
      by_cases hmi : m = i
      · rw [hmi, hi]
      · exact hall m (by omega) hmk

def Lowest (s : InstanceIds) : Prop := IsLeast {i | 0 < i ∧ s.used i = false} s.nextId

theorem Lowest.free (h : s.Lowest) : s.used s.nextId = false := h.1.2

theorem Lowest.below (h : s.Lowest) (h₀ : 0 < i) (hi : i < s.nextId) : s.used i = true := by
  cases hu : s.used i with
  | true => rfl
  | false => exact absurd (h.2 ⟨h₀, hu⟩) (by omega)

theorem lowest_of (h₀ : 0 < s.nextId) (hfree : s.used s.nextId = false)
    (hbelow : ∀ i, 0 < i → i < s.nextId → s.used i = true) : s.Lowest := by
  refine ⟨⟨h₀, hfree⟩, fun i ⟨hi₀, hi⟩ => ?_⟩
  by_contra hlt
  rw [hbelow i hi₀ (by omega)] at hi
  cases hi

/-- There are ids left, and the vector, when it has to grow, gets room for the next one. -/
def HasRoom (s : InstanceIds) : Prop :=
  (s.ids.length < INSTANCE_ID_MAX ∧ s.nextId + 1 < INSTANCE_ID_MAX) ∧
  (s.nextId < s.ids.length ∨
    if s.ids.length < s.capacity then s.nextId < s.capacity
    else s.nextId % 32 ≠ 0 ∧ s.nextId < 2 ^ 32 - 32)

instance : Decidable s.HasRoom := by
  unfold HasRoom
  infer_instance

theorem lt_newSize (hroom : s.HasRoom) (hsmall : s.ids.length ≤ s.nextId) :
    s.ids.length ≤ (if s.ids.length < s.capacity then s.capacity else roundUp s.nextId) ∧
      s.nextId < (if s.ids.length < s.capacity then s.capacity else roundUp s.nextId) := by
  have hgrow := hroom.2.resolve_left (Nat.not_lt.mpr hsmall)
  split_ifs with hcap
  · rw [if_pos hcap] at hgrow
    exact ⟨hcap.le, hgrow⟩
  · rw [if_neg hcap] at hgrow
    have hup := roundUp_gt hgrow.1 hgrow.2
    exact ⟨by omega, hup⟩

theorem generate_spec (alloc : Nat → Nat → Nat) (h : s.Lowest) (hroom : s.HasRoom) :
    (s.generateInstanceId alloc).1 = s.nextId ∧
    (s.generateInstanceId alloc).2.wild = s.wild ∧
    (s.generateInstanceId alloc).2.Lowest ∧
    ∀ i, (s.generateInstanceId alloc).2.used i = if i = s.nextId then true else s.used i := by
  obtain ⟨hlen, hnext⟩ := hroom.1
  have hlen' : s.ids.length < 0xFFFFFFFF := hlen
  have hnext' : s.nextId + 1 < 0xFFFFFFFF := hnext
  -- the id that comes next
  let j := max s.ids.length (s.nextId + 1)
  have hjfree : s.used j = false := by
    rw [used, List.getElem?_eq_none (by omega)]
    rfl
  obtain ⟨k, hk, hjk, hkfree, hall⟩ := findFree_eq (s := s) (i := s.nextId + 1) (j := j)
    (n := INSTANCE_ID_MAX - (s.nextId + 1)) (by omega)
    (by rw [INSTANCE_ID_MAX]; omega) hjfree
  have hfirst : (s.nextId + 1) % 2 ^ 32 = s.nextId + 1 := Nat.mod_eq_of_lt (by omega)
  have hmodlen : s.ids.length % 2 ^ 32 = s.ids.length := Nat.mod_eq_of_lt (by omega)
  -- the vector after it was resized
  let r : InstanceIds := { s with nextId := k }
  let r' : InstanceIds := if s.ids.length ≤ s.nextId then
      r.resize alloc (if s.ids.length < s.capacity then s.capacity else roundUp s.nextId) else r
  have hgen : s.generateInstanceId alloc = (s.nextId, r'.mark s.nextId true) := by
    unfold generateInstanceId
    simp only [hfirst, hk, Option.getD_some, hmodlen]
    rfl
  have hr' : r'.wild = s.wild ∧ r'.nextId = k ∧ (∀ i, r'.used i = s.used i) ∧
      s.nextId < r'.ids.length := by
    by_cases hsmall : s.ids.length ≤ s.nextId
    · have hsize := lt_newSize hroom hsmall
      simp only [r', if_pos hsmall]
      exact ⟨rfl, rfl, fun i => used_resize (s := r) hsize.1, by
        rw [length_resize (s := r) hsize.1]
        exact hsize.2⟩
    · simp only [r', if_neg hsmall]
      exact ⟨rfl, rfl, fun _ => rfl, Nat.lt_of_not_le hsmall⟩
  obtain ⟨hwild, hnextId, hused, hin⟩ := hr'
  have hafter : ∀ i, (r'.mark s.nextId true).used i = if i = s.nextId then true else s.used i := by
    intro i
    rw [used_mark hin, hused]
  rw [hgen]
  refine ⟨rfl, by rw [mark_of_lt hin]; exact hwild, lowest_of ?_ ?_ ?_, hafter⟩
  · rw [mark_of_lt hin]
    exact hnextId ▸ (by omega)
  · rw [hafter, mark_of_lt hin, hnextId, if_neg (by omega)]
    exact hkfree
  · intro i h₀ hi
    rw [mark_of_lt hin] at hi
    have hik : i < k := hnextId ▸ hi
    rw [hafter]
    split
    · rfl
    · by_cases hbelow : i < s.nextId
      · exact h.below h₀ hbelow
      · exact hall i (by omega) hik

theorem free_spec (h : s.Lowest) (h₀ : 0 < id) (hin : id < s.ids.length) :
    (s.freeInstanceId id).wild = s.wild ∧ (s.freeInstanceId id).Lowest ∧
    ∀ i, (s.freeInstanceId id).used i = if i = id then false else s.used i := by
  let r : InstanceIds := { s with nextId := if id < s.nextId then id else s.nextId }
  have hfree : s.freeInstanceId id = r.mark id false := rfl
  have hin' : id < r.ids.length := hin
  have hafter : ∀ i, (r.mark id false).used i = if i = id then false else s.used i :=
    fun i => used_mark hin'
  have hnext : (r.mark id false).nextId = if id < s.nextId then id else s.nextId := by
    rw [mark_of_lt hin']
  rw [hfree]
  refine ⟨by rw [mark_of_lt hin'], lowest_of ?_ ?_ ?_, hafter⟩
  · rw [hnext]
    split
    · exact h₀
    · exact h.1.1
  · rw [hafter, hnext]
    by_cases hlt : id < s.nextId
    · rw [if_pos hlt, if_pos rfl]
    · rw [if_neg hlt]
      split
      · rfl
      · exact h.free
  · intro i hi₀ hi
    rw [hnext] at hi
    have hlt : i < s.nextId ∧ i ≠ id := by
      split at hi <;> omega
    rw [hafter, if_neg hlt.2]
    exact h.below hi₀ hlt.1

theorem load_spec {l : List Nat} (h : s.Lowest) (hsorted : l.Pairwise (· < ·))
    (hbefore : ∀ i, s.used i = true → ∀ id ∈ l, i < id)
    (hin : ∀ id ∈ l, id < s.ids.length ∧ id + 1 < 2 ^ 32) :
    (l.foldl loadId s).wild = s.wild ∧ (l.foldl loadId s).Lowest ∧
    ∀ i, (l.foldl loadId s).used i = true ↔ s.used i = true ∨ i ∈ l := by
  induction l generalizing s with
  | nil => exact ⟨rfl, h, fun i => by simp⟩
  | cons id l ih =>
    obtain ⟨hfirst, hrest⟩ := List.pairwise_cons.mp hsorted
    obtain ⟨hid, hmax⟩ := hin id List.mem_cons_self
    let r : InstanceIds := if s.nextId = id then { s with nextId := (id + 1) % 2 ^ 32 } else s
    have hr : r.ids = s.ids ∧ r.wild = s.wild ∧
        r.nextId = if s.nextId = id then id + 1 else s.nextId := by
      by_cases heq : s.nextId = id
      · have hrec : r = { s with nextId := (id + 1) % 2 ^ 32 } := if_pos heq
        rw [hrec, if_pos heq]
        exact ⟨rfl, rfl, Nat.mod_eq_of_lt hmax⟩
      · have hrec : r = s := if_neg heq
        rw [hrec, if_neg heq]
        exact ⟨rfl, rfl, rfl⟩
    have hload : s.loadId id = r.mark id true := rfl
    have hid' : id < r.ids.length := hr.1 ▸ hid
    have hmark : (s.loadId id).ids.length = s.ids.length ∧ (s.loadId id).wild = s.wild ∧
        (s.loadId id).nextId = if s.nextId = id then id + 1 else s.nextId := by
      rw [hload, mark_of_lt hid', List.length_set, hr.1]
      exact ⟨rfl, hr.2⟩
    have hused : ∀ i, (s.loadId id).used i = if i = id then true else s.used i := by
      intro i
      rw [hload, used_mark hid', used, used, hr.1]
    have hnotafter : s.used (id + 1) = false := by
      rw [Bool.eq_false_iff]
      exact fun hu => absurd (hbefore _ hu id List.mem_cons_self) (by omega)
    have hlowest : (s.loadId id).Lowest := by
      refine lowest_of ?_ ?_ ?_
      · rw [hmark.2.2]
        split
        · exact Nat.succ_pos id
        · exact h.1.1
      · rw [hused, hmark.2.2]
        by_cases heq : s.nextId = id
        · rw [if_pos heq, if_neg (by omega)]
          exact hnotafter
        · rw [if_neg heq, if_neg heq]
          exact h.free
      · intro i hi₀ hi
        rw [hmark.2.2] at hi
        rw [hused]
        split
        · rfl
        · refine h.below hi₀ ?_
          split at hi <;> omega
    obtain ⟨hwild, hlow, hall⟩ := ih (s := s.loadId id) hlowest hrest
      (fun i hi j hj => by
        rw [hused] at hi
        split at hi
        · rename_i heq
          exact heq ▸ hfirst j hj
        · exact hbefore i hi j (.tail _ hj))
      (fun j hj => hmark.1.symm ▸ hin j (.tail _ hj))
    refine ⟨hwild.trans hmark.2.1, hlow, fun i => (hall i).trans ?_⟩
    rw [hused]
    by_cases hi : i = id <;> simp [hi]

end InstanceIds

/-!
## Maps

The holders of instance ids: the rows of the table `instance`, the loaded saves, the battlegrounds
and the loaded maps; what `MapInstanced`, `InstanceSaveManager` and `BattlegroundMgr` do with them.
-/

/-- A loaded map of an instance.  `parties` are the groups and players without one that it was given
to under an id just generated for them. -/
structure InstancedMap where
  mapId : Nat
  instanceId : Nat
  parties : List Nat
deriving DecidableEq

inductive MapTypes where
  | MAP_COMMON
  | MAP_INSTANCE
  | MAP_RAID
  | MAP_BATTLEGROUND
  | MAP_ARENA
deriving DecidableEq, Repr

def MapTypes.isDungeon : MapTypes → Bool
  | .MAP_INSTANCE | .MAP_RAID => true
  | _ => false

def MapTypes.isBattlegroundOrArena : MapTypes → Bool
  | .MAP_BATTLEGROUND | .MAP_ARENA => true
  | _ => false

def MapTypes.instanceable (t : MapTypes) : Bool := t.isDungeon || t.isBattlegroundOrArena

theorem MapTypes.not_battleground {t : MapTypes} (h : t.isDungeon = true) :
    t.isBattlegroundOrArena = false := by
  cases t <;> first | rfl | cases h

structure InstanceWorld where
  mgr : InstanceIds := {}
  rows : OrdMap Nat Nat := ∅
  saves : OrdMap Nat Nat := ∅
  maps : List InstancedMap := []
  battlegrounds : List (Nat × Nat) := []

inductive InstanceEvent where
  /-- A party that may be bound to an instance enters a dungeon. -/
  | enter (mapId party : Nat) (bound : Option Nat)
  | addPlayer (mapId instanceId : Nat)
  | loadSave (instanceId : Nat)
  /-- No one who is loaded is bound to the instance any longer. -/
  | unloadSave (instanceId : Nat)
  | deleteInstance (instanceId : Nat)
  | resetInstance (mapId instanceId : Nat)
  /-- The reset of a map is due; `hit` are the instances of its difficulty. -/
  | resetAll (mapId : Nat) (hit : List Nat)
  | createBattleground (mapId : Nat)
  | enterBattleground (mapId instanceId : Nat)
  | endBattleground (mapId instanceId : Nat)
  /-- The unload timer of a map without players has run out. -/
  | unloadMap (mapId instanceId : Nat)

def InstancedMap.isOf (mapId instanceId : Nat) (l : InstancedMap) : Bool :=
  l.mapId == mapId && l.instanceId == instanceId

namespace InstanceWorld

variable (store : Nat → MapTypes) (alloc : Nat → Nat → Nat) (s : InstanceWorld)
variable (mapId instanceId : Nat)

def idsOf (rows : OrdMap Nat Nat) : List Nat := rows.entries.map fun e => e.1

/-- `MAX(id)`, which reads as 0 where there is no row. -/
def maxId (rows : OrdMap Nat Nat) : Nat := (idsOf rows).foldr max 0

/-- `InitInstanceIds`, and the loop of `LoadResetTimes` over the rows. -/
def start (rows : OrdMap Nat Nat) : InstanceWorld :=
  { rows := rows
    mgr := (idsOf rows).foldl InstanceIds.loadId (.initInstanceIds alloc (maxId rows)) }

def findMap : Option InstancedMap := s.maps.find? (InstancedMap.isOf mapId instanceId)

def createInstance (parties : List Nat) : InstanceWorld :=
  { s with maps := ⟨mapId, instanceId, parties⟩ :: s.maps }

def giveMap (party : Nat) : InstanceWorld :=
  match s.findMap mapId instanceId with
  | some _ =>
    { s with maps := s.maps.map fun l =>
        if l.isOf mapId instanceId then { l with parties := party :: l.parties } else l }
  | none => s.createInstance mapId instanceId [party]

/-- `CreateInstanceForPlayer`, for a dungeon. -/
def enter (party : Nat) (bound : Option Nat) : InstanceWorld :=
  if (store mapId).isDungeon then
    match bound.filter (fun id => s.saves.find? id == some mapId) with
    | some id => if (s.findMap mapId id).isSome then s else s.createInstance mapId id []
    | none =>
      let (id, mgr) := s.mgr.generateInstanceId alloc
      ({ s with mgr := mgr } : InstanceWorld).giveMap mapId id party
  else s

/-- `AddInstanceSave`, and the row of a save that is not loaded from one. -/
def addInstanceSave (load : Bool) : InstanceWorld :=
  match s.saves.find? instanceId with
  | some _ => s
  | none =>
    if instanceId = 0 then s
    else
      { s with
        saves := s.saves.set instanceId mapId
        rows := if load then s.rows else s.rows.insertNew instanceId mapId }

/-- `InstanceMap::AddPlayerToMap`, as far as the save. -/
def addPlayer : InstanceWorld :=
  if (store mapId).isDungeon && (s.findMap mapId instanceId).isSome then
    s.addInstanceSave mapId instanceId false
  else s

def loadSave : InstanceWorld :=
  match s.rows.find? instanceId with
  | some m => if (store m).isDungeon then s.addInstanceSave m instanceId true else s
  | none => s

/-- `RemoveInstanceSave`. -/
def unloadSave : InstanceWorld := { s with saves := s.saves.erase instanceId }

/-- `DeleteInstanceFromDB`. -/
def deleteInstance : InstanceWorld := { s with rows := s.rows.erase instanceId }

/-- `_ResetInstance`.  A loaded map is unloaded later. -/
def resetInstance : InstanceWorld :=
  if (store mapId).instanceable then
    { s with
      saves := s.saves.erase instanceId, rows := s.rows.erase instanceId
      mgr := s.mgr.freeInstanceId instanceId }
  else s

/-- `_ResetOrWarnAll`, without a warning.  The ids are not freed. -/
def resetAll (hit : List Nat) : InstanceWorld :=
  { s with
    saves := s.saves.filter fun id m => !(m == mapId && hit.contains id)
    rows := s.rows.filter fun id m => !(m == mapId && hit.contains id) }

/-- `CreateNewBattleground`. -/
def createBattleground : InstanceWorld :=
  if (store mapId).isBattlegroundOrArena then
    let (id, mgr) := s.mgr.generateInstanceId alloc
    { s with mgr := mgr, battlegrounds := (mapId, id) :: s.battlegrounds }
  else s

/-- `CreateInstanceForPlayer`, for a battleground. -/
def enterBattleground : InstanceWorld :=
  if s.battlegrounds.contains (mapId, instanceId) && (s.findMap mapId instanceId).isNone
  then s.createInstance mapId instanceId []
  else s

def endBattleground : InstanceWorld :=
  { s with battlegrounds := s.battlegrounds.filter fun e => e ≠ (mapId, instanceId) }

/-- `DestroyInstance`. -/
def unloadMap : InstanceWorld :=
  if (s.findMap mapId instanceId).isSome && !s.battlegrounds.contains (mapId, instanceId)
  then
    let s := { s with maps := s.maps.filter fun l => !l.isOf mapId instanceId }
    if (store mapId).isBattlegroundOrArena then
      { s with mgr := s.mgr.freeInstanceId instanceId }
    else s
  else s

def step : InstanceEvent → InstanceWorld
  | .enter mapId party bound => s.enter store alloc mapId party bound
  | .addPlayer mapId instanceId => s.addPlayer store mapId instanceId
  | .loadSave instanceId => s.loadSave store instanceId
  | .unloadSave instanceId => s.unloadSave instanceId
  | .deleteInstance instanceId => s.deleteInstance instanceId
  | .resetInstance mapId instanceId => s.resetInstance store mapId instanceId
  | .resetAll mapId hit => s.resetAll mapId hit
  | .createBattleground mapId => s.createBattleground store alloc mapId
  | .enterBattleground mapId instanceId => s.enterBattleground mapId instanceId
  | .endBattleground mapId instanceId => s.endBattleground mapId instanceId
  | .unloadMap mapId instanceId => s.unloadMap store mapId instanceId

end InstanceWorld

end SkyfireBG
