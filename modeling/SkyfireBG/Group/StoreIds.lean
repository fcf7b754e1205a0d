import SkyfireBG.Lib.OrdMap
import SkyfireBG.Lib.Run

/-!
# SkyfireBG.Group.StoreIds

The store ids of groups, as `GroupMgr` gives them out: a vector of groups and the next free id.

* `GroupMgr.Taken`    — the ids below the next one are taken, and that one is free.
* `createGroup_taken`, `free_taken`, `loadGroups_taken` — each operation keeps it.
* `storeIds_fresh`    — no id is given out that is registered, in any run.
-/

namespace SkyfireBG

/-- A group in the vector is named by its low guid, `none` is the null pointer.  A write past the end
of the vector is left out. -/
structure GroupMgr where
  nextGroupDbStoreId : Nat := 1
  groupDbStore : List (Option Nat) := []
  stopped : Bool := false
deriving DecidableEq

namespace GroupMgr

variable (m : GroupMgr) (storageId group : Nat)

def getGroupByDbStoreId : Option Nat := (m.groupDbStore[storageId]?).join

/-- `GroupDbStore.resize`. -/
def setGroupDbStoreSize (newSize : Nat) : GroupMgr :=
  { m with groupDbStore :=
      m.groupDbStore.take newSize ++ List.replicate (newSize - m.groupDbStore.length) none }

/-- The loop of `GenerateNewGroupDbStoreId`, over at most `n` ids. -/
def findFree : Nat → Nat → Option Nat
  | 0, _ => none
  | n + 1, i => if (m.getGroupByDbStoreId i).isNone then some i else findFree n (i + 1)

/-- `GenerateNewGroupDbStoreId`.  Where no id is left the next one is the one after, so that the
server is never stopped. -/
def generateNewGroupDbStoreId : Nat × GroupMgr :=
  let newStorageId := m.nextGroupDbStoreId
  let first := (m.nextGroupDbStoreId + 1) % 2 ^ 32
  let next := (m.findFree (0xFFFFFFFF - first) first).getD first
  (newStorageId,
    { m with nextGroupDbStoreId := next, stopped := m.stopped || newStorageId == next })

def registerGroupDbStoreId : GroupMgr :=
  let m := if m.groupDbStore.length % 2 ^ 32 ≤ storageId then
    m.setGroupDbStoreSize ((storageId + 1) % 2 ^ 32) else m
  { m with groupDbStore := m.groupDbStore.set storageId (some group) }

/-- `FreeGroupDbStoreId` of the group with the id. -/
def freeGroupDbStoreId : GroupMgr :=
  { m with
    nextGroupDbStoreId := if storageId < m.nextGroupDbStoreId then storageId
      else m.nextGroupDbStoreId
    groupDbStore := m.groupDbStore.set storageId none }

/-- One row in `LoadGroups`. -/
def loadGroup (row : Nat × Nat) : GroupMgr :=
  let m := m.registerGroupDbStoreId row.1 row.2
  if row.1 = m.nextGroupDbStoreId then
    { m with nextGroupDbStoreId := (m.nextGroupDbStoreId + 1) % 2 ^ 32 }
  else m

/-- `LoadGroups`: the rows come in the order of their ids. -/
def loadGroups (table : OrdMap Nat Nat) : GroupMgr := table.entries.foldl loadGroup m

/-- What `Group::Create` does with the ids. -/
def createGroup : GroupMgr :=
  let generated := m.generateNewGroupDbStoreId
  generated.2.registerGroupDbStoreId generated.1 group

def Registered : Prop := (m.getGroupByDbStoreId storageId).isSome = true

instance : Decidable (m.Registered storageId) := inferInstanceAs (Decidable (_ = _))

structure Taken : Prop where
  below : ∀ id, 1 ≤ id → id < m.nextGroupDbStoreId → m.Registered id
  free : ¬ m.Registered m.nextGroupDbStoreId
  size : m.groupDbStore.length < 2 ^ 32

variable {m storageId group} {id id' n i : Nat}

theorem registered_iff : m.Registered id ↔ ∃ group, m.groupDbStore[id]? = some (some group) := by
  unfold Registered getGroupByDbStoreId
  rcases m.groupDbStore[id]? with - | - | group <;> simp

theorem registered_setGroupDbStoreSize (h : m.groupDbStore.length ≤ n) :
    (m.setGroupDbStoreSize n).Registered id ↔ m.Registered id := by
  rw [registered_iff, registered_iff, setGroupDbStoreSize]
  dsimp only
  rw [List.take_of_length_le h]
  by_cases hid : id < m.groupDbStore.length
  · rw [List.getElem?_append_left hid]
  · rw [List.getElem?_append_right (Nat.not_lt.mp hid), List.getElem?_replicate,
      List.getElem?_eq_none (Nat.not_lt.mp hid)]
    simp

theorem length_setGroupDbStoreSize (h : m.groupDbStore.length ≤ n) :
    (m.setGroupDbStoreSize n).groupDbStore.length = n := by
  simp only [setGroupDbStoreSize, List.length_append, List.length_take, List.length_replicate]
  omega

theorem register_spec (group : Nat) (hsize : m.groupDbStore.length < 2 ^ 32)
    (hid : storageId < 0xFFFFFFFF) :
    (∀ id, (m.registerGroupDbStoreId storageId group).Registered id ↔
      id = storageId ∨ m.Registered id) ∧
    (m.registerGroupDbStoreId storageId group).nextGroupDbStoreId = m.nextGroupDbStoreId ∧
    (m.registerGroupDbStoreId storageId group).groupDbStore.length < 2 ^ 32 := by
  unfold registerGroupDbStoreId
  rw [Nat.mod_eq_of_lt hsize, Nat.mod_eq_of_lt (by omega : storageId + 1 < 2 ^ 32)]
  obtain ⟨m', hm', hin, hlen, hsame, hnext⟩ : ∃ m' : GroupMgr,
      (if m.groupDbStore.length ≤ storageId then m.setGroupDbStoreSize (storageId + 1) else m) = m' ∧
      storageId < m'.groupDbStore.length ∧ m'.groupDbStore.length < 2 ^ 32 ∧
      (∀ id, m'.Registered id ↔ m.Registered id) ∧
      m'.nextGroupDbStoreId = m.nextGroupDbStoreId := by
    refine ⟨_, rfl, ?_⟩
    by_cases hsmall : m.groupDbStore.length ≤ storageId
    · have hle : m.groupDbStore.length ≤ storageId + 1 := by omega
      rw [if_pos hsmall, length_setGroupDbStoreSize hle]
      exact ⟨Nat.lt_succ_self _, by omega, fun id => registered_setGroupDbStoreSize hle, rfl⟩
    · rw [if_neg hsmall]
      exact ⟨Nat.not_le.mp hsmall, hsize, fun id => Iff.rfl, rfl⟩
  rw [hm']
  refine ⟨fun id => ?_, hnext, by rwa [List.length_set]⟩
  rw [← hsame id, registered_iff, registered_iff]
  by_cases heq : id = storageId
  · subst heq
    simp [hin]
  · rw [List.getElem?_set_ne (Ne.symm heq)]
    simp [heq]

theorem registered_free : (m.freeGroupDbStoreId storageId).Registered id ↔
    id ≠ storageId ∧ m.Registered id := by
  rw [registered_iff, registered_iff, freeGroupDbStoreId]
  by_cases heq : id = storageId
  · subst heq
    rw [List.getElem?_set_self']
    cases m.groupDbStore[id]? <;> simp
  · rw [List.getElem?_set_ne (Ne.symm heq)]
    simp [heq]

theorem findFree_some (h : m.findFree n i = some id) :
    ¬ m.Registered id ∧ i ≤ id ∧ id < i + n ∧ ∀ id', i ≤ id' → id' < id → m.Registered id' := by
  induction n generalizing i with
  | zero => cases h
  | succ n ih =>
    rw [findFree] at h
    by_cases hfree : (m.getGroupByDbStoreId i).isNone = true
    · rw [if_pos hfree] at h
      cases h
      refine ⟨?_, Nat.le_refl _, by omega, fun id' hle hlt => absurd hle (Nat.not_le.mpr hlt)⟩
      rw [Registered, Option.isNone_iff_eq_none.mp hfree]
      exact Bool.false_ne_true
    · rw [if_neg hfree] at h
      obtain ⟨hid, hle, hlt, hbelow⟩ := ih h
      refine ⟨hid, by omega, by omega, fun id' hle' hlt' => ?_⟩
      by_cases heq : id' = i
      · rw [heq, Registered]
        cases hget : m.getGroupByDbStoreId i with
        | none => exact absurd (by rw [hget]; rfl) hfree
        | some group => rfl
      · exact hbelow id' (by omega) hlt'

theorem findFree_of_free (hfree : ¬ m.Registered id) (hle : i ≤ id) (hlt : id < i + n) :
    ∃ id', m.findFree n i = some id' := by
  induction n generalizing i with
  | zero => omega
  | succ n ih =>
    rw [findFree]
    by_cases hnone : (m.getGroupByDbStoreId i).isNone = true
    · exact ⟨i, if_pos hnone⟩
    · rw [if_neg hnone]
      refine ih ?_ (by omega)
      rcases Nat.lt_or_eq_of_le hle with hlt' | rfl
      · exact hlt'
      · refine absurd (Option.isNone_iff_eq_none.mpr ?_) hnone
        exact Option.not_isSome_iff_eq_none.mp hfree

def HasRoom (m : GroupMgr) : Prop :=
  ∃ id, m.nextGroupDbStoreId < id ∧ id < 0xFFFFFFFF ∧ ¬ m.Registered id

theorem createGroup_taken (h : m.Taken) (hroom : m.HasRoom) : (m.createGroup group).Taken := by
  obtain ⟨id, hgt, hlt, hfree⟩ := hroom
  have hfirst : (m.nextGroupDbStoreId + 1) % 2 ^ 32 = m.nextGroupDbStoreId + 1 :=
    Nat.mod_eq_of_lt (by omega)
  obtain ⟨next, hnext⟩ := findFree_of_free (n := 0xFFFFFFFF - (m.nextGroupDbStoreId + 1)) hfree hgt
    (by omega)
  obtain ⟨hnextfree, hle, hbound, hbetween⟩ := findFree_some hnext
  have hmgr : m.createGroup group = ({ m with
      nextGroupDbStoreId := next
      stopped := m.stopped || m.nextGroupDbStoreId == next } : GroupMgr).registerGroupDbStoreId
        m.nextGroupDbStoreId group := by
    simp only [createGroup, generateNewGroupDbStoreId, hfirst, hnext, Option.getD_some]
  obtain ⟨hregistered, hsame, hsize⟩ := register_spec (m := { m with
      nextGroupDbStoreId := next
      stopped := m.stopped || m.nextGroupDbStoreId == next })
    group h.size (by omega : m.nextGroupDbStoreId < 0xFFFFFFFF)
  rw [hmgr]
  refine ⟨fun id hone hid => (hregistered id).mpr ?_, fun hreg => ?_, hsize⟩
  · rw [hsame] at hid
    rcases Nat.lt_trichotomy id m.nextGroupDbStoreId with hlow | heq | hhigh
    · exact .inr (h.below id hone hlow)
    · exact .inl heq
    · exact .inr (hbetween id hhigh hid)
  · rw [hsame] at hreg
    rcases (hregistered next).mp hreg with heq | hreg
    · omega
    · exact hnextfree hreg

theorem free_taken (h : m.Taken) : (m.freeGroupDbStoreId storageId).Taken := by
  have hnext : (m.freeGroupDbStoreId storageId).nextGroupDbStoreId =
      if storageId < m.nextGroupDbStoreId then storageId else m.nextGroupDbStoreId := rfl
  refine ⟨fun id hone hid => registered_free.mpr ?_, fun hreg => ?_, ?_⟩
  · rw [hnext] at hid
    split at hid
    · exact ⟨by omega, h.below id hone (by omega)⟩
    · exact ⟨by omega, h.below id hone hid⟩
  · obtain ⟨hne, hreg⟩ := registered_free.mp hreg
    rw [hnext] at hne hreg
    split at hne
    · exact hne rfl
    · rename_i hge
      rw [if_neg hge] at hreg
      exact h.free hreg
  · rw [freeGroupDbStoreId]
    exact (List.length_set ..).trans_lt h.size

theorem loadGroups_taken {rows : List (Nat × Nat)} (h : m.Taken)
    (hsorted : rows.Pairwise fun a b => a.1 < b.1) (hrows : ∀ row ∈ rows, row.1 < 0xFFFFFFFF)
    (habove : ∀ id, m.Registered id → ∀ row ∈ rows, id < row.1) :
    (rows.foldl loadGroup m).Taken := by
  induction rows generalizing m with
  | nil => exact h
  | cons row rows ih =>
    obtain ⟨hlater, hsorted⟩ := List.pairwise_cons.mp hsorted
    obtain ⟨hregistered, hsame, hsize⟩ := register_spec row.2 h.size (hrows row (.head _))
    have hstep : (m.loadGroup row).Taken ∧
        ∀ id, (m.loadGroup row).Registered id → id = row.1 ∨ m.Registered id := by
      unfold loadGroup
      dsimp only
      rw [hsame]
      by_cases heq : row.1 = m.nextGroupDbStoreId
      · have hlt := hrows row (.head _)
        rw [if_pos heq, Nat.mod_eq_of_lt (by omega : m.nextGroupDbStoreId + 1 < 2 ^ 32)]
        refine ⟨⟨fun id hone hid => (hregistered id).mpr ?_, fun hreg => ?_, hsize⟩,
          fun id hreg => (hregistered id).mp hreg⟩
        · by_cases hlast : id = row.1
          · exact .inl hlast
          · exact .inr (h.below id hone (by dsimp only at hid; omega))
        · rcases (hregistered _).mp hreg with hrow | hreg
          · dsimp only at hrow
            omega
          · have hlow := habove _ hreg row (.head _)
            dsimp only at hlow
            omega
      · rw [if_neg heq]
        refine ⟨⟨fun id hone hid => (hregistered id).mpr (.inr (h.below id hone (hsame ▸ hid))),
          fun hreg => ?_, hsize⟩, fun id hreg => (hregistered id).mp hreg⟩
        rw [hsame] at hreg
        rcases (hregistered _).mp hreg with hrow | hreg
        · exact heq hrow.symm
        · exact h.free hreg
    refine ih hstep.1 hsorted (fun row' hrow' => hrows row' (.tail _ hrow')) ?_
    intro id hreg row' hrow'
    rcases hstep.2 id hreg with rfl | hold
    · exact hlater row' hrow'
    · exact habove id hold row' (.tail _ hrow')

inductive IdEvent where
  /-- `Group::Create` of a group that is stored. -/
  | create (group : Nat)
  /-- `Group::Disband` of the group with the id. -/
  | disband (storageId : Nat)
deriving DecidableEq

def step (m : GroupMgr) : IdEvent → GroupMgr
  | .create group => m.createGroup group
  | .disband storageId => m.freeGroupDbStoreId storageId

/-- A group is created while an id is left for the one after, and disbanded when it has one. -/
def Allowed (m : GroupMgr) : IdEvent → Prop
  | .create _ => m.HasRoom
  | .disband storageId => m.Registered storageId

theorem step_taken {e : IdEvent} (h : m.Taken) (he : m.Allowed e) : (m.step e).Taken := by
  cases e with
  | create group => exact createGroup_taken h he
  | disband storageId => exact free_taken h

/-- At the start of the server: the vector is as long as the highest id asks for, and the groups of
the table are loaded. -/
def start (size : Nat) (table : OrdMap Nat Nat) : GroupMgr :=
  (({} : GroupMgr).setGroupDbStoreSize size).loadGroups table

theorem start_taken {size : Nat} {table : OrdMap Nat Nat} (hsize : size < 2 ^ 32)
    (htable : ∀ row ∈ table.entries, row.1 < 0xFFFFFFFF) : (start size table).Taken := by
  have hnone : ∀ id, ¬ (({} : GroupMgr).setGroupDbStoreSize size).Registered id := by
    intro id hreg
    rw [registered_setGroupDbStoreSize (Nat.zero_le _)] at hreg
    exact Bool.false_ne_true hreg
  refine loadGroups_taken ⟨fun id hone hid => ?_, hnone _, ?_⟩ table.sorted htable
    fun id hreg => absurd hreg (hnone id)
  · have hlt : id < 1 := hid
    omega
  · rw [length_setGroupDbStoreSize (Nat.zero_le _)]
    exact hsize

/-- In every run from the loaded groups the id that is given out next is not registered, and all ids
below it are. -/
theorem storeIds_fresh {size : Nat} {table : OrdMap Nat Nat} {es : List IdEvent} {m : GroupMgr}
    (hsize : size < 2 ^ 32) (htable : ∀ row ∈ table.entries, row.1 < 0xFFFFFFFF)
    (hrun : Run step Allowed (start size table) es m) :
    ¬ m.Registered m.generateNewGroupDbStoreId.1 ∧ ¬ m.Registered m.nextGroupDbStoreId ∧
      ∀ id, 1 ≤ id → id < m.nextGroupDbStoreId → m.Registered id := by
  have htaken : m.Taken := hrun.invariant (fun _ _ => step_taken) (start_taken hsize htable)
  exact ⟨htaken.free, htaken.free, htaken.below⟩

def gapTable : OrdMap Nat Nat := ⟨[(1, 21), (3, 23)], by decide⟩

theorem gapTable_run : Run step Allowed (start 4 gapTable) [.create 22, .disband 1]
    (((start 4 gapTable).step (.create 22)).step (.disband 1)) := by
  refine .cons ⟨4, by decide, by decide, by decide⟩ (.cons ?_ .nil)
  show ((start 4 gapTable).step (.create 22)).Registered 1
  decide +kernel

theorem storeIds_fresh_gap : ¬ ((((start 4 gapTable).step (.create 22)).step (.disband 1)).Registered
    (((start 4 gapTable).step (.create 22)).step (.disband 1)).generateNewGroupDbStoreId.1) :=
  (storeIds_fresh (by decide) (by decide) gapTable_run).1

inductive IdCall where
  | generate
  | register (storageId group : Nat)
  | free (storageId : Nat)
deriving DecidableEq

def call (m : GroupMgr) : IdCall → GroupMgr
  | .generate => m.generateNewGroupDbStoreId.2
  | .register storageId group => m.registerGroupDbStoreId storageId group
  | .free storageId => m.freeGroupDbStoreId storageId

/-- An id that is registered only after another group was freed is given out a second time. -/
theorem storeIds_late : ¬ ∀ (size : Nat) (table : OrdMap Nat Nat) (calls : List IdCall),
    ¬ (calls.foldl call (start size table)).Registered
      (calls.foldl call (start size table)).generateNewGroupDbStoreId.1 := by
  intro h
  exact h 3 ⟨[(1, 21), (2, 22)], by decide⟩ [.generate, .free 2, .generate, .register 3 23]
    (by decide +kernel)

end GroupMgr

end SkyfireBG
