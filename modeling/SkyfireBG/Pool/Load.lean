import SkyfireBG.Lib.Chase
import SkyfireBG.Pool.Spawn

/-!
# SkyfireBG.Pool.Load

The part of `PoolMgr::LoadFromDB` that reads `pool_pool` and looks for circular references.

* `loadPools_acyclic` — when what is loaded has no cycles, and then pools are spawned and despawned
  in finitely many steps.
-/

namespace SkyfireBG

/-- A row of `pool_pool`. -/
structure PoolRow where
  poolId : Nat
  motherPool : Nat
  chance : ℚ
deriving DecidableEq, Repr

def PoolRow.accepted (maxPoolId : Nat) (row : PoolRow) : Bool :=
  !(decide (row.motherPool > maxPoolId) || decide (row.poolId > maxPoolId) ||
    row.motherPool == row.poolId || decide (row.chance < 0) || decide (row.chance > 100))

/-- `mPoolPoolGroups` and `mPoolSearchMap`. -/
structure PoolPools where
  groups : Nat → PoolGroup := fun _ => {}
  searchMap : Nat → Option Nat := fun _ => none

namespace PoolPools

variable (maxPoolId : Nat) (maxLimit : Nat → Nat)

def addRow (s : PoolPools) (row : PoolRow) : PoolPools where
  groups := Function.update s.groups row.motherPool
    ((s.groups row.motherPool).addEntry ⟨row.poolId, |row.chance|⟩ (maxLimit row.motherPool))
  searchMap := match s.searchMap row.poolId with
    | some _ => s.searchMap
    | none => Function.update s.searchMap row.poolId (some row.motherPool)

def loadRows (rows : List PoolRow) : PoolPools :=
  (rows.filter (PoolRow.accepted maxPoolId)).foldl (addRow maxLimit) {}

def removeLink (s : PoolPools) (child mother : Nat) : PoolPools where
  groups := Function.update s.groups mother ((s.groups mother).removeOneRelation child)
  searchMap := Function.update s.searchMap child none

def checkFrom (fuel : Nat) (s : PoolPools) (i : Nat) : PoolPools :=
  match closingLink s.searchMap fuel [] i with
  | none => s
  | some (child, mother) => s.removeLink child mother

/-- `LoadFromDB` for pools of pools.  A walk visits each pool once at most. -/
def loadPools (rows : List PoolRow) : PoolPools :=
  (List.range maxPoolId).foldl (checkFrom (maxPoolId + 2)) (loadRows maxPoolId maxLimit rows)

def Lists (s : PoolPools) (mother child : Nat) : Prop := child ∈ (s.groups mother).guids

def InRows (rows : List PoolRow) (mother child : Nat) : Prop :=
  ∃ row ∈ rows, row.accepted maxPoolId = true ∧ row.motherPool = mother ∧ row.poolId = child

def firstMother (rows : List PoolRow) (child : Nat) : Option Nat :=
  ((rows.filter (PoolRow.accepted maxPoolId)).find? (fun row => row.poolId == child)).map
    PoolRow.motherPool

def isExplicit (row : PoolRow) : Bool :=
  decide (|row.chance| ≠ 0) && maxLimit row.motherPool == 1

def rowCount (rows : List PoolRow) (explicit : Bool) (mother child : Nat) : Nat :=
  (rows.filter (PoolRow.accepted maxPoolId)).countP fun row =>
    row.motherPool == mother && row.poolId == child && isExplicit maxLimit row == explicit

/-- The link closes a cycle of first mothers, as it is met from the least pool below the greatest id
that leads there, and is in each list of the mother once at most. -/
def Closing (rows : List PoolRow) (mother child : Nat) : Prop :=
  (∃ i < maxPoolId, Closes (firstMother maxPoolId rows) i child mother ∧
    ∀ j < i, ¬ LeadsTo (firstMother maxPoolId rows) j child) ∧
    ∀ explicit, rowCount maxPoolId maxLimit rows explicit mother child ≤ 1

def listCount (g : PoolGroup) (explicit : Bool) (child : Nat) : Nat :=
  (if explicit then g.explicitlyChanced else g.equalChanced).countP (fun o => o.guid == child)

variable {maxPoolId maxLimit} {s : PoolPools} {rows : List PoolRow} {mother child fuel : Nat}
  {explicit : Bool} {is : List Nat} {cut : List (Nat × Nat)}

theorem lists_iff : s.Lists mother child ↔
    ∃ explicit, 0 < listCount (s.groups mother) explicit child := by
  unfold Lists
  rw [PoolGroup.mem_guids]
  constructor
  · rintro (⟨o, ho, rfl⟩ | ⟨o, ho, rfl⟩)
    · exact ⟨false, List.countP_pos_iff.mpr ⟨o, ho, beq_self_eq_true _⟩⟩
    · exact ⟨true, List.countP_pos_iff.mpr ⟨o, ho, beq_self_eq_true _⟩⟩
  · rintro ⟨explicit, hpos⟩
    obtain ⟨o, ho, heq⟩ := List.countP_pos_iff.mp hpos
    cases explicit with
    | true => exact .inr ⟨o, ho, beq_iff_eq.mp heq⟩
    | false => exact .inl ⟨o, ho, beq_iff_eq.mp heq⟩

theorem addRow_count {row : PoolRow} :
    listCount ((addRow maxLimit s row).groups mother) explicit child =
      listCount (s.groups mother) explicit child +
        if (row.motherPool == mother && row.poolId == child &&
          isExplicit maxLimit row == explicit) = true then 1 else 0 := by
  by_cases hm : mother = row.motherPool
  · subst hm
    simp only [addRow, Function.update_self, PoolGroup.addEntry, isExplicit, beq_self_eq_true,
      Bool.true_and]
    by_cases hc : |row.chance| ≠ 0 ∧ maxLimit row.motherPool = 1
    · rw [if_pos hc]
      cases explicit <;> simp [listCount, List.countP_append, hc.1, hc.2]
    · rw [if_neg hc]
      have hflag : (decide (|row.chance| ≠ 0) && maxLimit row.motherPool == 1) = false := by
        simpa using hc
      rw [hflag]
      cases explicit <;> simp [listCount, List.countP_append]
  · simp only [addRow, Function.update_of_ne hm]
    simp [Ne.symm hm]

theorem loadRows_count : listCount ((loadRows maxPoolId maxLimit rows).groups mother) explicit child =
    rowCount maxPoolId maxLimit rows explicit mother child := by
  have hfold : ∀ (l : List PoolRow) (s : PoolPools),
      listCount ((l.foldl (addRow maxLimit) s).groups mother) explicit child =
        listCount (s.groups mother) explicit child + l.countP fun row =>
          row.motherPool == mother && row.poolId == child &&
            isExplicit maxLimit row == explicit := by
    intro l
    induction l with
    | nil => exact fun s => rfl
    | cons row l ih =>
      intro s
      rw [List.foldl_cons, ih, addRow_count, List.countP_cons]
      omega
  rw [loadRows, hfold, rowCount]
  cases explicit <;> simp [listCount]

theorem loadRows_searchMap :
    (loadRows maxPoolId maxLimit rows).searchMap = firstMother maxPoolId rows := by
  have hfold : ∀ (l : List PoolRow) (s : PoolPools) (c : Nat),
      (l.foldl (addRow maxLimit) s).searchMap c =
        (s.searchMap c).or ((l.find? (fun row => row.poolId == c)).map PoolRow.motherPool) := by
    intro l
    induction l with
    | nil => exact fun s c => (Option.or_none).symm
    | cons row l ih =>
      intro s c
      rw [List.foldl_cons, ih, List.find?_cons]
      by_cases hc : row.poolId = c
      · subst hc
        cases hs : s.searchMap row.poolId <;> simp [addRow, hs]
      · have hne : (row.poolId == c) = false := by simpa using hc
        rw [hne]
        have hsame : (addRow maxLimit s row).searchMap c = s.searchMap c := by
          unfold addRow
          cases s.searchMap row.poolId with
          | some _ => rfl
          | none => exact Function.update_of_ne (Ne.symm hc) _ _
        rw [hsame]
  funext c
  rw [loadRows, hfold, firstMother]
  rfl

theorem removeLink_count {c m : Nat} :
    listCount ((s.removeLink c m).groups mother) explicit child =
      listCount (s.groups mother) explicit child -
        if child = c ∧ mother = m then 1 else 0 := by
  have herase : ∀ l : List PoolObject, (l.eraseP (fun o => o.guid == c)).countP
      (fun o => o.guid == child) =
        l.countP (fun o => o.guid == child) - if child = c then 1 else 0 := by
    intro l
    induction l with
    | nil => simp
    | cons o l ih =>
      rw [List.eraseP_cons]
      by_cases ho : o.guid = c
      · subst ho
        by_cases hc : child = o.guid
        · subst hc
          simp
        · simp [hc, Ne.symm hc]
      · have hne : (o.guid == c) = false := by simpa using ho
        rw [hne]
        simp only [cond_false, List.countP_cons, ih]
        by_cases hc : child = c
        · subst hc
          simp [ho]
        · simp [hc]
  by_cases hm : mother = m
  · subst hm
    simp only [removeLink, Function.update_self, PoolGroup.removeOneRelation, and_true]
    cases explicit
    · exact herase _
    · exact herase _
  · simp [removeLink, hm]

theorem removeLinks_count (hnodup : (cut.map Prod.fst).Nodup) :
    listCount ((cut.foldl (fun s l => s.removeLink l.1 l.2) s).groups mother) explicit child =
      listCount (s.groups mother) explicit child - if (child, mother) ∈ cut then 1 else 0 := by
  induction cut generalizing s with
  | nil => simp
  | cons l cut ih =>
    obtain ⟨c, m⟩ := l
    rw [List.map_cons, List.nodup_cons] at hnodup
    rw [List.foldl_cons, ih hnodup.2, removeLink_count]
    by_cases hlink : child = c ∧ mother = m
    · obtain ⟨rfl, rfl⟩ := hlink
      have hnot : (child, mother) ∉ cut := fun hmem =>
        hnodup.1 (List.mem_map.mpr ⟨_, hmem, rfl⟩)
      simp [hnot]
    · have hiff : (child, mother) ∈ (c, m) :: cut ↔ (child, mother) ∈ cut := by
        rw [List.mem_cons, Prod.ext_iff]
        simp [hlink]
      simp only [hlink, if_false, Nat.sub_zero, hiff]

theorem foldl_checkFrom : is.foldl (checkFrom fuel) s =
      (breakCycles s.searchMap fuel is).2.foldl (fun s l => s.removeLink l.1 l.2) s ∧
    (is.foldl (checkFrom fuel) s).searchMap = (breakCycles s.searchMap fuel is).1 := by
  induction is using List.reverseRecOn with
  | nil => exact ⟨rfl, rfl⟩
  | append_singleton is i ih =>
    obtain ⟨hstate, hmap⟩ := ih
    rw [List.foldl_append, List.foldl_cons, List.foldl_nil, breakCycles_append,
      breakCycle, checkFrom, hmap]
    cases closingLink (breakCycles s.searchMap fuel is).1 fuel [] i with
    | none => exact ⟨hstate, hmap⟩
    | some l =>
      dsimp only
      refine ⟨?_, ?_⟩
      · rw [List.foldl_append, ← hstate]
        rfl
      · rw [removeLink, hmap]

theorem firstMother_spec (h : firstMother maxPoolId rows child = some mother) :
    InRows maxPoolId rows mother child := by
  obtain ⟨row, hrow, hmother⟩ := Option.map_eq_some_iff.mp h
  obtain ⟨hmem, haccepted⟩ := List.mem_filter.mp (List.mem_of_find?_eq_some hrow)
  have hchild := List.find?_some hrow
  exact ⟨row, hmem, haccepted, hmother, beq_iff_eq.mp hchild⟩

theorem InRows.lt (h : InRows maxPoolId rows mother child) :
    mother < maxPoolId + 1 ∧ child < maxPoolId + 1 := by
  obtain ⟨row, _, haccepted, rfl, rfl⟩ := h
  unfold PoolRow.accepted at haccepted
  simp only [Bool.not_eq_true', Bool.or_eq_false_iff, decide_eq_false_iff_not] at haccepted
  omega

theorem inRows_iff (maxLimit : Nat → Nat) : InRows maxPoolId rows mother child ↔
    ∃ explicit, 0 < rowCount maxPoolId maxLimit rows explicit mother child := by
  unfold rowCount
  constructor
  · rintro ⟨row, hrow, haccepted, rfl, rfl⟩
    refine ⟨isExplicit maxLimit row, List.countP_pos_iff.mpr
      ⟨row, List.mem_filter.mpr ⟨hrow, haccepted⟩, ?_⟩⟩
    simp
  · rintro ⟨explicit, hpos⟩
    obtain ⟨row, hrow, hcount⟩ := List.countP_pos_iff.mp hpos
    obtain ⟨hmem, haccepted⟩ := List.mem_filter.mp hrow
    simp only [Bool.and_eq_true, beq_iff_eq] at hcount
    exact ⟨row, hmem, haccepted, hcount.1.1, hcount.1.2⟩

theorem loadPools_lists : (loadPools maxPoolId maxLimit rows).Lists mother child ↔
    InRows maxPoolId rows mother child ∧ ¬ Closing maxPoolId maxLimit rows mother child := by
  have hids : ∀ x y, firstMother maxPoolId rows x = some y → x ∈ List.range (maxPoolId + 1) :=
    fun x y hxy => List.mem_range.mpr (firstMother_spec hxy).lt.2
  have hlen : (List.range (maxPoolId + 1)).length < maxPoolId + 2 := by
    rw [List.length_range]
    omega
  have hcuts := breakCycles_spec hids hlen (List.range maxPoolId)
  have hcount : ∀ explicit,
      listCount ((loadPools maxPoolId maxLimit rows).groups mother) explicit child =
        rowCount maxPoolId maxLimit rows explicit mother child -
          if (child, mother) ∈ (breakCycles (firstMother maxPoolId rows) (maxPoolId + 2)
            (List.range maxPoolId)).2 then 1 else 0 := by
    intro explicit
    rw [loadPools, foldl_checkFrom.1, loadRows_searchMap, removeLinks_count hcuts.nodup,
      loadRows_count]
  rw [lists_iff, inRows_iff maxLimit]
  unfold Closing
  rw [← broken_range, ← hcuts.broken]
  simp only [hcount]
  by_cases hcut : (child, mother) ∈ (breakCycles (firstMother maxPoolId rows) (maxPoolId + 2)
      (List.range maxPoolId)).2
  · simp only [hcut, if_true, true_and, not_forall, not_le]
    constructor
    · rintro ⟨explicit, hpos⟩
      exact ⟨⟨explicit, by omega⟩, explicit, by omega⟩
    · rintro ⟨_, explicit, hpos⟩
      exact ⟨explicit, by omega⟩
  · simp [hcut]

/-- There is no cycle in what is loaded if and only if each cycle of the rows takes a link that is
closing.  Then spawning and despawning of pools come to an end, whatever is rolled. -/
theorem loadPools_acyclic :
    (Acyclic (loadPools maxPoolId maxLimit rows).Lists ↔
      ∀ x ls, LinkPath (InRows maxPoolId rows) x ls x → ls ≠ [] →
        ∃ l ∈ ls, Closing maxPoolId maxLimit rows l.1 l.2) ∧
    (Acyclic (loadPools maxPoolId maxLimit rows).Lists →
      ∀ (mgr : PoolMgr) (dice : Nat → ℚ × Nat),
        mgr.groups .pool = (loadPools maxPoolId maxLimit rows).groups →
        ∀ p, ∃ fuel, ∀ s, (mgr.despawnPool fuel p s).isSome = true ∧
          (mgr.spawnPool dice fuel p s).isSome = true) := by
  refine ⟨acyclic_cut fun x y => loadPools_lists, fun hacyclic mgr dice hgroups p => ?_⟩
  have hwf : WellFounded fun x p => x ∈ (mgr.groups .pool p).guids := by
    rw [hgroups]
    exact hacyclic.wellFounded fun x y h => (loadPools_lists.mp h).1.lt
  exact PoolMgr.exists_fuel hwf p

/-- Pool 2 is part of pool 3, in its first row, and of pool 1, which is part of it. -/
theorem loadPools_cycle : ∃ (maxPoolId : Nat) (maxLimit : Nat → Nat) (rows : List PoolRow),
    ¬ Acyclic (loadPools maxPoolId maxLimit rows).Lists := by
  refine ⟨3, fun _ => 1, [⟨1, 2, 0⟩, ⟨2, 3, 0⟩, ⟨2, 1, 0⟩], fun hacyclic => ?_⟩
  have hone : (loadPools 3 (fun _ => 1) [⟨1, 2, 0⟩, ⟨2, 3, 0⟩, ⟨2, 1, 0⟩]).Lists 2 1 := by
    unfold Lists
    decide +kernel
  have htwo : (loadPools 3 (fun _ => 1) [⟨1, 2, 0⟩, ⟨2, 3, 0⟩, ⟨2, 1, 0⟩]).Lists 1 2 := by
    unfold Lists
    decide +kernel
  have hnil := hacyclic 2 _ (.cons hone (.cons htwo .nil))
  cases hnil

end PoolPools

end SkyfireBG
