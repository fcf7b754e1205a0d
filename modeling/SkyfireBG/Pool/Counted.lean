import SkyfireBG.Pool.Spawn

/-!
# SkyfireBG.Pool.Counted

The count of a pool is the number of its members that are active, and is within its limit.

* `run_counted` — in every run of calls that spawn, despawn and update pools.
-/

namespace SkyfireBG

namespace PoolMgr

variable (mgr : PoolMgr)

def Lists (p x : Nat) : Prop := x ∈ (mgr.groups .pool p).guids

def members (p : Nat) : Finset (PoolKind × Nat) :=
  ([.creature, .gameobject, .pool, .quest].flatMap fun k =>
    (mgr.groups k p).guids.map fun x => (k, x)).toFinset

def activeIn (a : ActivePoolData) (p : Nat) : Finset (PoolKind × Nat) :=
  (mgr.members p).filter fun o => a.isActiveObject o.1 o.2 = true

/-- Nothing is listed in two pools, and no pool in itself, however deep.  Pools are numbered up to
some greatest id, and limits are of 32 bits. -/
structure Sound : Prop where
  single : ∀ k x p q, x ∈ (mgr.groups k p).guids → x ∈ (mgr.groups k q).guids → p = q
  acyclic : Acyclic mgr.Lists
  ids : ∃ maxPoolId, ∀ p x, mgr.Lists p x → p < maxPoolId + 1 ∧ x < maxPoolId + 1
  limit_lt : ∀ p, mgr.maxLimit p < 2 ^ 32

def Counted (a : ActivePoolData) : Prop :=
  ∀ p, a.getActiveObjectCount p = (mgr.activeIn a p).card

def Opened (a : ActivePoolData) (p : Nat) : Prop :=
  a.isActiveObject .pool p = true ∨ ∀ m, ¬ mgr.Lists m p

variable {mgr} {a a' : ActivePoolData} {k k' : PoolKind} {x y p q : Nat}

theorem mem_members : (k, x) ∈ mgr.members p ↔ x ∈ (mgr.groups k p).guids := by
  cases k <;> simp [members]

theorem mem_activeIn : (k, x) ∈ mgr.activeIn a p ↔
    x ∈ (mgr.groups k p).guids ∧ a.isActiveObject k x = true := by
  rw [activeIn, Finset.mem_filter, mem_members]

theorem Counted.entry (h : mgr.Counted a) (hx : x ∈ (mgr.groups k p).guids)
    (hactive : a.isActiveObject k x = true) : 0 < a.getActiveObjectCount p := by
  rw [h p]
  exact Finset.card_pos.mpr ⟨(k, x), mem_activeIn.mpr ⟨hx, hactive⟩⟩

theorem isActive_of_count (h : 0 < a.getActiveObjectCount p) : a.isActiveObject .pool p = true := by
  cases hp : a.isActiveObject .pool p with
  | true => rfl
  | false =>
    rw [ActivePoolData.count_of_inactive hp] at h
    exact absurd h (Nat.lt_irrefl 0)

theorem Counted.isActive (h : mgr.Counted a) (hx : x ∈ (mgr.groups k p).guids)
    (hactive : a.isActiveObject k x = true) : a.isActiveObject .pool p = true :=
  isActive_of_count (h.entry hx hactive)

/-- Activating a member of an open pool keeps every count right. -/
theorem Counted.activateObject (h : mgr.Counted a) (hsound : mgr.Sound)
    (hx : x ∈ (mgr.groups k p).guids) (hinactive : a.isActiveObject k x = false)
    (hopened : mgr.Opened a p) : mgr.Counted (a.activateObject k x p) := by
  intro q
  rw [ActivePoolData.count_activateObject hinactive, h q]
  have hmem : ∀ k' y, (k', y) ∈ mgr.activeIn (a.activateObject k x p) q ↔
      (k', y) ∈ mgr.activeIn a q ∨ (q = p ∧ k' = k ∧ y = x) := by
    intro k' y
    rw [mem_activeIn, mem_activeIn, ActivePoolData.isActive_activateObject]
    constructor
    · rintro ⟨hy, hactive | ⟨rfl, rfl⟩ | ⟨rfl, rfl⟩⟩
      · exact .inl ⟨hy, hactive⟩
      · exact .inr ⟨hsound.single _ _ _ _ hy hx, rfl, rfl⟩
      · rcases hopened with hp | hp
        · exact .inl ⟨hy, hp⟩
        · exact absurd hy (hp q)
    · rintro (⟨hy, hactive⟩ | ⟨rfl, rfl, rfl⟩)
      · exact ⟨hy, .inl hactive⟩
      · exact ⟨hx, .inr (.inl ⟨rfl, rfl⟩)⟩
  by_cases hq : q = p
  · have hset : mgr.activeIn (a.activateObject k x p) q = insert (k, x) (mgr.activeIn a q) := by
      ext ⟨k', y⟩
      rw [hmem, Finset.mem_insert, Prod.mk.injEq]
      simp [hq, or_comm]
    have hnew : (k, x) ∉ mgr.activeIn a q := by
      rw [mem_activeIn, hinactive]
      simp
    rw [hset, Finset.card_insert_of_notMem hnew, if_pos hq]
  · have hset : mgr.activeIn (a.activateObject k x p) q = mgr.activeIn a q := by
      ext ⟨k', y⟩
      rw [hmem]
      simp [hq]
    rw [hset, if_neg hq, Nat.add_zero]

theorem Counted.removeObject (h : mgr.Counted a) (hsound : mgr.Sound)
    (hx : x ∈ (mgr.groups k p).guids) (hactive : a.isActiveObject k x = true)
    (hempty : k = .pool → a.getActiveObjectCount x = 0) :
    mgr.Counted (a.removeObject k x p) ∧
      ∀ k' y, (a.removeObject k x p).isActiveObject k' y = true ↔
        a.isActiveObject k' y = true ∧ ¬ (k' = k ∧ y = x) := by
  have hne : ¬ (.pool = k ∧ p = x) := by
    rintro ⟨rfl, rfl⟩
    have hpos := h.entry hx hactive
    rw [hempty rfl] at hpos
    exact absurd hpos (Nat.lt_irrefl 0)
  have hiff : ∀ k' y, (a.removeObject k x p).isActiveObject k' y = true ↔
      a.isActiveObject k' y = true ∧ ¬ (k' = k ∧ y = x) := by
    intro k' y
    rw [ActivePoolData.isActive_removeObject]
    refine ⟨fun hor => hor.elim id ?_, .inl⟩
    rintro ⟨rfl, rfl⟩
    exact ⟨h.isActive hx hactive, hne⟩
  refine ⟨fun q => ?_, hiff⟩
  rw [ActivePoolData.count_removeObject hempty, h q]
  by_cases hq : q = p
  · have hset : mgr.activeIn (a.removeObject k x p) q = (mgr.activeIn a q).erase (k, x) := by
      ext ⟨k', y⟩
      rw [Finset.mem_erase, mem_activeIn, mem_activeIn, hiff, ne_eq, Prod.mk.injEq]
      exact ⟨fun hy => ⟨hy.2.2, hy.1, hy.2.1⟩, fun hy => ⟨hy.2.1, hy.2.2, hy.1⟩⟩
    rw [hset, Finset.card_erase_of_mem (mem_activeIn.mpr ⟨hq ▸ hx, hactive⟩), if_pos hq]
  · have hset : mgr.activeIn (a.removeObject k x p) q = mgr.activeIn a q := by
      ext ⟨k', y⟩
      rw [mem_activeIn, mem_activeIn, hiff]
      refine and_congr_right fun hy => and_iff_left_of_imp fun _ => ?_
      rintro ⟨rfl, rfl⟩
      exact hq (hsound.single _ _ _ _ hy hx)
    rw [hset, if_neg hq, Nat.sub_zero]

def othersIn (mgr : PoolMgr) (a : ActivePoolData) (p : Nat) : Finset (PoolKind × Nat) :=
  (mgr.activeIn a p).filter fun o => o.1 ≠ .quest

end PoolMgr

/-- The quests that are loaded are inactive members, and there is room for them; those that are
taken again are members, and there is room for all beside the other members. -/
def QuestCall.Ok (mgr : PoolMgr) (c : QuestCall) : Prop :=
  let limit := mgr.maxLimit c.pool
  if c.trigger = 0 ∧ c.saved ≠ [] then
    limit ≠ 0 ∧ c.active.getActiveObjectCount c.pool + (c.saved.take limit).length ≤ limit ∧
      (c.saved.take limit).Nodup ∧
      ∀ q ∈ c.saved.take limit, q ∈ (mgr.groups .quest c.pool).guids ∧
        c.active.isActiveObject .quest q = false
  else
    (limit ≤ (mgr.newQuests c.active c.pool).card ∨
      ∀ q ∈ c.active.spawned .quest, q ∈ (mgr.groups .quest c.pool).guids) ∧
    (mgr.othersIn c.active c.pool).card +
      min limit (mgr.newQuests c.active c.pool ∪ c.active.spawned .quest).card ≤ limit ∧
    (limit = 0 → mgr.newQuests c.active c.pool = ∅)

instance (mgr : PoolMgr) (c : QuestCall) : Decidable (c.Ok mgr) := by
  unfold QuestCall.Ok
  infer_instance

namespace PoolMgr

variable {mgr : PoolMgr} {a a' : ActivePoolData} {k k' : PoolKind} {x y p q : Nat}

/-- What a call on a pool may touch: the pool and all that it is made of, however deep. -/
def Reach (mgr : PoolMgr) : Nat → Nat → Prop := Relation.ReflTransGen mgr.Lists

/-- A pool is not below its own part. -/
theorem Sound.not_reach (h : mgr.Sound) (hx : mgr.Lists p x) : ¬ mgr.Reach x p := by
  intro hreach
  obtain ⟨ls, hne, hpath⟩ := LinkPath.of_transGen (Relation.TransGen.head' hx hreach)
  exact hne (h.acyclic p ls hpath)

theorem Sound.not_reach_sibling (h : mgr.Sound) (hx : mgr.Lists p x) (hy : mgr.Lists p y)
    (hne : x ≠ y) : ¬ mgr.Reach x y := by
  intro hreach
  rcases Relation.ReflTransGen.cases_tail hreach with rfl | ⟨q, hq, hqy⟩
  · exact hne rfl
  · rw [h.single _ _ _ _ hqy hy] at hq
    exact h.not_reach hx hq

theorem not_reach_part (hx : mgr.Lists p x) (h : ¬ mgr.Reach p q) : ¬ mgr.Reach x q :=
  fun hreach => h (Relation.ReflTransGen.head hx hreach)

structure Despawned (mgr : PoolMgr) (p : Nat) (s s' : PoolState) : Prop where
  counted : mgr.Counted s'.active
  fewer : ∀ k x, s'.active.isActiveObject k x = true → s.active.isActiveObject k x = true
  frame : ∀ q, ¬ mgr.Reach p q → s'.active.spawnedPools q = s.active.spawnedPools q
  stays : s.active.isActiveObject .pool p = true → s'.active.isActiveObject .pool p = true
  activated : s'.activated = s.activated
  questCalls : s'.questCalls = s.questCalls

variable {s s' s'' r : PoolState} {spawn1 despawn1 : Nat → PoolState → Option PoolState}
  {guid n fuel : Nat} {os : List PoolObject} {g : PoolGroup}

theorem Despawned.refl (h : mgr.Counted s.active) : mgr.Despawned p s s :=
  ⟨h, fun _ _ => id, fun _ _ => rfl, id, rfl, rfl⟩

theorem Despawned.trans (h : mgr.Despawned p s s') (h' : mgr.Despawned p s' s'') :
    mgr.Despawned p s s'' where
  counted := h'.counted
  fewer k x hx := h.fewer k x (h'.fewer k x hx)
  frame q hq := (h'.frame q hq).trans (h.frame q hq)
  stays hp := h'.stays (h.stays hp)
  activated := h'.activated.trans h.activated
  questCalls := h'.questCalls.trans h.questCalls

/-- A member of a pool is despawned: an object alone, a pool with all that it is made of. -/
def DespawnsMember (mgr : PoolMgr) (k : PoolKind) (despawn1 : Nat → PoolState → Option PoolState) :
    Prop :=
  ∀ x s s', mgr.Counted s.active → despawn1 x s = some s' →
    if k = .pool then mgr.Despawned x s s' ∧ s'.active.getActiveObjectCount x = 0 else s' = s

theorem despawnsMember_object (hk : k ≠ .pool) :
    mgr.DespawnsMember k (fun _ s => some s) := by
  intro x s s' _ h
  rw [if_neg hk]
  exact (Option.some_injective _ h).symm

/-- The step of `Despawn1Object` with its removal from the active list. -/
theorem DespawnsMember.remove (hd : mgr.DespawnsMember k despawn1) (hsound : mgr.Sound)
    (hc : mgr.Counted s.active) (hx : x ∈ (mgr.groups k p).guids)
    (hactive : s.active.isActiveObject k x = true) (h : despawn1 x s = some s') :
    mgr.Despawned p s (s'.removeObject k x p) ∧
      (s'.removeObject k x p).active.isActiveObject k x = false := by
  have hgone : ∀ a : ActivePoolData, (∀ k' y, (a.removeObject k x p).isActiveObject k' y = true ↔
      a.isActiveObject k' y = true ∧ ¬ (k' = k ∧ y = x)) →
      (a.removeObject k x p).isActiveObject k x = false := by
    intro a hiff
    cases hstill : (a.removeObject k x p).isActiveObject k x with
    | false => rfl
    | true => exact absurd ⟨rfl, rfl⟩ ((hiff k x).mp hstill).2
  have hmember := hd x s s' hc h
  by_cases hk : k = .pool
  · rw [if_pos hk] at hmember
    subst hk
    obtain ⟨hdespawned, hempty⟩ := hmember
    obtain ⟨hcounted, hiff⟩ := hdespawned.counted.removeObject hsound hx
      (hdespawned.stays hactive) (fun _ => hempty)
    refine ⟨⟨hcounted, fun k y hy => ?_, fun q hq => ?_, fun hp => ?_, hdespawned.activated,
      hdespawned.questCalls⟩, hgone _ hiff⟩
    · exact hdespawned.fewer k y ((hiff k y).mp hy).1
    · have hqp : q ≠ p := fun heq => hq (heq ▸ .refl)
      have hqx : q ≠ x := fun heq => hq (heq ▸ .single hx)
      exact (ActivePoolData.spawnedPools_removeObject hqp fun _ => hqx).trans
        (hdespawned.frame q (not_reach_part hx hq))
    · refine (hiff .pool p).mpr ⟨?_, ?_⟩
      · rw [ActivePoolData.isActive_pool, hdespawned.frame p (hsound.not_reach hx)]
        exact hp
      · rintro ⟨-, rfl⟩
        exact hsound.not_reach hx .refl
  · rw [if_neg hk] at hmember
    subst hmember
    obtain ⟨hcounted, hiff⟩ := hc.removeObject hsound hx hactive (fun hpool => absurd hpool hk)
    refine ⟨⟨hcounted, fun k y hy => ((hiff k y).mp hy).1, fun q hq => ?_, fun hp => ?_, rfl, rfl⟩,
      hgone _ hiff⟩
    · exact ActivePoolData.spawnedPools_removeObject (fun heq => hq (heq ▸ .refl))
        fun hpool => absurd hpool hk
    · exact (hiff .pool p).mpr ⟨hp, fun heq => hk heq.1.symm⟩

theorem despawnList_spec (hd : mgr.DespawnsMember k despawn1) (hsound : mgr.Sound)
    (hc : mgr.Counted s.active) (hos : ∀ o ∈ os, o.guid ∈ (mgr.groups k p).guids)
    (h : despawnList despawn1 k p guid os s = some s') :
    mgr.Despawned p s s' ∧
      ∀ o ∈ os, guid = 0 ∨ o.guid = guid → s'.active.isActiveObject k o.guid = false := by
  induction os generalizing s with
  | nil =>
    cases h
    exact ⟨.refl hc, fun o ho => (List.not_mem_nil ho).elim⟩
  | cons o os ih =>
    have hrest : ∀ o ∈ os, o.guid ∈ (mgr.groups k p).guids :=
      fun o ho => hos o (List.mem_cons_of_mem _ ho)
    unfold despawnList at h
    by_cases hgoes : s.active.isActiveObject k o.guid = true ∧ (guid = 0 ∨ o.guid = guid)
    · rw [if_pos hgoes] at h
      obtain ⟨s₁, h₁, h₂⟩ := Option.bind_eq_some_iff.mp h
      obtain ⟨hone, hgone⟩ := hd.remove hsound hc (hos o List.mem_cons_self) hgoes.1 h₁
      obtain ⟨hall, hothers⟩ := ih hone.counted hrest h₂
      refine ⟨hone.trans hall, fun o' ho' hguid => ?_⟩
      rcases List.mem_cons.mp ho' with rfl | ho'
      · cases hstill : s'.active.isActiveObject k o'.guid with
        | false => rfl
        | true =>
          have hback := hall.fewer k o'.guid hstill
          rw [hgone] at hback
          cases hback
      · exact hothers o' ho' hguid
    · rw [if_neg hgoes] at h
      obtain ⟨hall, hothers⟩ := ih hc hrest h
      refine ⟨hall, fun o' ho' hguid => ?_⟩
      rcases List.mem_cons.mp ho' with rfl | ho'
      · cases hstill : s'.active.isActiveObject k o'.guid with
        | false => rfl
        | true => exact absurd ⟨hall.fewer k o'.guid hstill, hguid⟩ hgoes
      · exact hothers o' ho' hguid

theorem despawnObject_spec (hd : mgr.DespawnsMember k despawn1) (hsound : mgr.Sound)
    (hc : mgr.Counted s.active)
    (h : despawnObject despawn1 k p (mgr.groups k p) guid s = some s') :
    mgr.Despawned p s s' ∧ ∀ x ∈ (mgr.groups k p).guids, guid = 0 ∨ x = guid →
      s'.active.isActiveObject k x = false := by
  obtain ⟨s₁, h₁, h₂⟩ := Option.bind_eq_some_iff.mp h
  obtain ⟨hequal, hgone⟩ := despawnList_spec hd hsound hc
    (fun o ho => PoolGroup.mem_guids.mpr (.inl ⟨o, ho, rfl⟩)) h₁
  obtain ⟨hexplicit, hgone'⟩ := despawnList_spec hd hsound hequal.counted
    (fun o ho => PoolGroup.mem_guids.mpr (.inr ⟨o, ho, rfl⟩)) h₂
  refine ⟨hequal.trans hexplicit, fun x hx hguid => ?_⟩
  rcases PoolGroup.mem_guids.mp hx with ⟨o, ho, rfl⟩ | ⟨o, ho, rfl⟩
  · cases hstill : s'.active.isActiveObject k o.guid with
    | false => rfl
    | true =>
      have hback := hexplicit.fewer k o.guid hstill
      rw [hgone o ho hguid] at hback
      cases hback
  · exact hgone' o ho hguid

theorem Despawned.gone (h : mgr.Despawned p s s')
    (hx : s.active.isActiveObject k x = false) : s'.active.isActiveObject k x = false := by
  cases hstill : s'.active.isActiveObject k x with
  | false => rfl
  | true =>
    rw [h.fewer k x hstill] at hx
    cases hx

/-- `DespawnPool` leaves the pool empty and the count of any pool outside it alone. -/
theorem despawnPool_spec (hsound : mgr.Sound) (hc : mgr.Counted s.active)
    (h : mgr.despawnPool fuel p s = some s') :
    mgr.Despawned p s s' ∧ s'.active.getActiveObjectCount p = 0 := by
  induction fuel generalizing p s s' with
  | zero => cases h
  | succ fuel ih =>
    have hpools : mgr.DespawnsMember .pool (mgr.despawnPool fuel) := by
      intro x s s' hc h
      rw [if_pos rfl]
      exact ih hc h
    unfold despawnPool at h
    obtain ⟨s₁, h₁, h⟩ := Option.bind_eq_some_iff.mp h
    obtain ⟨s₂, h₂, h⟩ := Option.bind_eq_some_iff.mp h
    obtain ⟨s₃, h₃, h₄⟩ := Option.bind_eq_some_iff.mp h
    have hobject : ∀ k, k ≠ .pool → mgr.DespawnsMember k (fun _ s => some s) :=
      fun k hk => despawnsMember_object hk
    obtain ⟨hone, hcreatures⟩ := despawnObject_spec (hobject .creature (by simp)) hsound hc h₁
    obtain ⟨htwo, hobjects⟩ :=
      despawnObject_spec (hobject .gameobject (by simp)) hsound hone.counted h₂
    obtain ⟨hthree, hparts⟩ := despawnObject_spec hpools hsound htwo.counted h₃
    obtain ⟨hfour, hquests⟩ :=
      despawnObject_spec (hobject .quest (by simp)) hsound hthree.counted h₄
    refine ⟨((hone.trans htwo).trans hthree).trans hfour, ?_⟩
    rw [hfour.counted p, Finset.card_eq_zero, Finset.eq_empty_iff_forall_notMem]
    rintro ⟨k, x⟩ hmem
    obtain ⟨hx, hactive⟩ := mem_activeIn.mp hmem
    have hinactive : s'.active.isActiveObject k x = false := by
      cases k with
      | creature =>
        exact hfour.gone (hthree.gone (htwo.gone (hcreatures x hx (.inl rfl))))
      | gameobject => exact hfour.gone (hthree.gone (hobjects x hx (.inl rfl)))
      | pool => exact hfour.gone (hparts x hx (.inl rfl))
      | quest => exact hquests x hx (.inl rfl)
    rw [hinactive] at hactive
    cases hactive

section calls

variable {dice : Nat → ℚ × Nat} {last trigger limit : Nat} {qs : List Nat} {new : Finset Nat}
  {l : BitVec 32}

theorem despawnList_calls
    (hd : ∀ x s s', despawn1 x s = some s' → s'.questCalls = s.questCalls)
    (h : despawnList despawn1 k p guid os s = some s') : s'.questCalls = s.questCalls := by
  induction os generalizing s with
  | nil =>
    cases h
    rfl
  | cons o os ih =>
    unfold despawnList at h
    split at h
    · obtain ⟨s₁, h₁, h₂⟩ := Option.bind_eq_some_iff.mp h
      rw [ih h₂, PoolState.removeObject_questCalls, hd _ _ _ h₁]
    · exact ih h

theorem despawnObject_calls
    (hd : ∀ x s s', despawn1 x s = some s' → s'.questCalls = s.questCalls)
    (h : despawnObject despawn1 k p g guid s = some s') : s'.questCalls = s.questCalls := by
  obtain ⟨s₁, h₁, h₂⟩ := Option.bind_eq_some_iff.mp h
  exact (despawnList_calls hd h₂).trans (despawnList_calls hd h₁)

theorem object_calls (_ : Nat) (s s' : PoolState) (h : some s = some s') :
    s'.questCalls = s.questCalls := by
  cases h
  rfl

theorem despawnPool_calls (h : mgr.despawnPool fuel p s = some s') :
    s'.questCalls = s.questCalls := by
  induction fuel generalizing p s s' with
  | zero => cases h
  | succ fuel ih =>
    unfold despawnPool at h
    obtain ⟨s₁, h₁, h⟩ := Option.bind_eq_some_iff.mp h
    obtain ⟨s₂, h₂, h⟩ := Option.bind_eq_some_iff.mp h
    obtain ⟨s₃, h₃, h₄⟩ := Option.bind_eq_some_iff.mp h
    rw [despawnObject_calls object_calls h₄, despawnObject_calls (fun _ _ _ => ih) h₃,
      despawnObject_calls object_calls h₂, despawnObject_calls object_calls h₁]

theorem spawnLoop_calls (hs : ∀ x s s', spawn1 x s = some s' → s.questCalls ⊆ s'.questCalls)
    (hd : ∀ x s s', despawn1 x s = some s' → s'.questCalls = s.questCalls)
    (h : spawnLoop dice spawn1 despawn1 k p g n last trigger s = some s') :
    s.questCalls ⊆ s'.questCalls := by
  induction n generalizing last trigger s with
  | zero =>
    cases h
    exact fun _ => id
  | succ n ih =>
    obtain ⟨u, hroll⟩ : ∃ u, (rollOne dice k g trigger s).2 = { s with used := u } := rollOne_state
    unfold spawnLoop at h
    generalize rollOne dice k g trigger s = roll at h hroll
    obtain ⟨o, s₁⟩ := roll
    dsimp only at hroll
    subst hroll
    cases o with
    | none => exact ih (s := { s with used := u }) h
    | some o =>
      dsimp only at h
      split at h
      · exact ih (s := { s with used := u }) h
      · split at h
        · exact ih (s := { s with used := u }) h
        · obtain ⟨s₂, h₂, h⟩ := Option.bind_eq_some_iff.mp h
          have hspawn : s.questCalls ⊆ s₂.questCalls := fun c hc => hs _ _ _ h₂ hc
          split at h
          · obtain ⟨s₃, h₃, h⟩ := Option.bind_eq_some_iff.mp h
            have hdespawn : s₃.questCalls = s₂.questCalls := despawnObject_calls hd h₃
            exact fun c hc => ih h (hdespawn ▸ hspawn hc)
          · exact fun c hc => ih h (hspawn hc)

theorem loadSaved_calls : (loadSaved p qs l s).questCalls = s.questCalls := by
  induction qs generalizing l s with
  | nil => rfl
  | cons q qs ih =>
    unfold loadSaved
    dsimp only
    split
    · rfl
    · exact ih

theorem activateNew_calls : (activateNew dice p n new l s).questCalls = s.questCalls := by
  induction n generalizing new l s with
  | zero => rfl
  | succ n ih =>
    unfold activateNew
    dsimp only
    split
    · exact ih
    · rfl

theorem rotateQuests_calls : (mgr.rotateQuests dice p limit trigger s).questCalls =
    s.questCalls := by
  have hcleared : ((despawnObject (fun _ s => some s) .quest p (mgr.groups .quest p) 0 s).getD
      s).questCalls = s.questCalls := by
    cases hd : despawnObject (fun _ s => some s) .quest p (mgr.groups .quest p) 0 s with
    | none => rfl
    | some s₁ => exact despawnObject_calls object_calls hd
  unfold rotateQuests
  dsimp only
  by_cases hnone : (mgr.chooseQuests dice p limit s.active s.used).1 = ∅
  · rw [if_pos hnone]
    exact hcleared
  · rw [if_neg hnone]
    by_cases htrigger : trigger = 0
    · rw [if_pos htrigger, saveQuestsToDB, activateNew_calls]
      exact hcleared
    · rw [if_neg htrigger, activateNew_calls]
      exact hcleared

theorem spawnQuests_calls : (mgr.spawnQuests dice p limit trigger s).questCalls =
    ⟨p, trigger, s.active, s.saved p⟩ :: s.questCalls := by
  unfold spawnQuests
  dsimp only
  split
  · rw [loadSaved_calls, PoolState.callQuests]
  · rw [rotateQuests_calls, PoolState.callQuests]

theorem spawnKind_calls (hs : ∀ x s s', spawn1 x s = some s' → s.questCalls ⊆ s'.questCalls)
    (hd : ∀ x s s', despawn1 x s = some s' → s'.questCalls = s.questCalls)
    (h : mgr.spawnKind dice spawn1 despawn1 k p trigger s = some s') :
    s.questCalls ⊆ s'.questCalls := by
  have hobject : ∀ (_ : Nat) (s s' : PoolState), some s = some s' →
      s.questCalls ⊆ s'.questCalls := by
    intro x s s' h
    cases h
    exact fun _ => id
  unfold spawnKind at h
  split at h
  · cases h
    exact fun _ => id
  · cases k with
    | quest =>
      cases h
      rw [spawnQuests_calls]
      exact fun _ => List.mem_cons_of_mem _
    | pool => exact spawnLoop_calls hs hd h
    | creature => exact spawnLoop_calls hobject object_calls h
    | gameobject => exact spawnLoop_calls hobject object_calls h

theorem spawnPool_calls (h : mgr.spawnPool dice fuel p s = some s') :
    s.questCalls ⊆ s'.questCalls := by
  induction fuel generalizing p s s' with
  | zero => cases h
  | succ fuel ih =>
    have hkind : ∀ k s s', mgr.spawnKind dice (mgr.spawnPool dice fuel) (mgr.despawnPool fuel) k p
        0 s = some s' → s.questCalls ⊆ s'.questCalls := fun k s s' =>
      spawnKind_calls (fun _ _ _ => ih) fun _ _ _ => despawnPool_calls
    unfold spawnPool at h
    obtain ⟨s₁, h₁, h⟩ := Option.bind_eq_some_iff.mp h
    obtain ⟨s₂, h₂, h⟩ := Option.bind_eq_some_iff.mp h
    obtain ⟨s₃, h₃, h₄⟩ := Option.bind_eq_some_iff.mp h
    exact fun c hc => hkind _ _ _ h₄ (hkind _ _ _ h₃ (hkind _ _ _ h₂ (hkind _ _ _ h₁ hc)))

end calls

/-! ## Spawning -/

structure Spawned (mgr : PoolMgr) (p : Nat) (s s' : PoolState) : Prop where
  counted : mgr.Counted s'.active
  within : ∀ q, q ≠ p → s.active.getActiveObjectCount q ≤ mgr.maxLimit q →
    s'.active.getActiveObjectCount q ≤ mgr.maxLimit q
  frame : ∀ q, ¬ mgr.Reach p q → s'.active.spawnedPools q = s.active.spawnedPools q
  stays : s.active.isActiveObject .pool p = true → s'.active.isActiveObject .pool p = true
  member : ∀ k x q, (k, x, q) ∈ s'.activated →
    (k, x, q) ∈ s.activated ∨ x ∈ (mgr.groups k q).guids

theorem count_congr (h : a'.spawnedPools q = a.spawnedPools q) :
    a'.getActiveObjectCount q = a.getActiveObjectCount q := by
  rw [ActivePoolData.getActiveObjectCount, h, ActivePoolData.getActiveObjectCount]

theorem Spawned.of_eq (hc : mgr.Counted s.active) (ha : s'.active = s.active)
    (hactivated : s'.activated = s.activated) : mgr.Spawned p s s' := by
  refine ⟨ha ▸ hc, fun q _ => ?_, fun q _ => ?_, ?_, fun k x q hx => .inl (hactivated ▸ hx)⟩
  · rw [ha]
    exact id
  · rw [ha]
  · rw [ha]
    exact id

theorem Spawned.trans (h : mgr.Spawned p s s') (h' : mgr.Spawned p s' s'') :
    mgr.Spawned p s s'' where
  counted := h'.counted
  within q hq hle := h'.within q hq (h.within q hq hle)
  frame q hq := (h'.frame q hq).trans (h.frame q hq)
  stays hp := h'.stays (h.stays hp)
  member k x q hx := (h'.member k x q hx).elim (h.member k x q) .inr

theorem Spawned.opened (h : mgr.Spawned p s s') (ho : mgr.Opened s.active p) :
    mgr.Opened s'.active p := ho.imp_left h.stays

theorem Despawned.activeIn_subset (h : mgr.Despawned p s s') (q : Nat) :
    mgr.activeIn s'.active q ⊆ mgr.activeIn s.active q := by
  rintro ⟨k, x⟩ hmem
  obtain ⟨hx, hactive⟩ := mem_activeIn.mp hmem
  exact mem_activeIn.mpr ⟨hx, h.fewer k x hactive⟩

theorem Despawned.spawned (h : mgr.Despawned p s s') (hc : mgr.Counted s.active) :
    mgr.Spawned p s s' := by
  refine ⟨h.counted, fun q _ hle => ?_, h.frame, h.stays, fun k x q hx => .inl (h.activated ▸ hx)⟩
  rw [h.counted q]
  rw [hc q] at hle
  exact (Finset.card_le_card (h.activeIn_subset q)).trans hle

theorem Despawned.count_lt (h : mgr.Despawned p s s') (hc : mgr.Counted s.active)
    (hx : x ∈ (mgr.groups k p).guids) (hactive : s.active.isActiveObject k x = true)
    (hgone : s'.active.isActiveObject k x = false) :
    s'.active.getActiveObjectCount p < s.active.getActiveObjectCount p := by
  rw [h.counted p, hc p]
  refine Finset.card_lt_card ⟨h.activeIn_subset p, fun hsub => ?_⟩
  have hstill := (mem_activeIn.mp (hsub (mem_activeIn.mpr ⟨hx, hactive⟩))).2
  rw [hgone] at hstill
  cases hstill

/-- A member is spawned: an object alone, a pool with what it is made of, up to its limit. -/
def SpawnsMember (mgr : PoolMgr) (k : PoolKind) (spawn1 : Nat → PoolState → Option PoolState) :
    Prop :=
  ∀ x s s', mgr.Counted s.active → (k = .pool → s.active.isActiveObject .pool x = true) →
    spawn1 x s = some s' → (∀ c ∈ s'.questCalls, c.Ok mgr) →
    if k = .pool then
      mgr.Spawned x s s' ∧ (s.active.getActiveObjectCount x ≤ mgr.maxLimit x →
        s'.active.getActiveObjectCount x ≤ mgr.maxLimit x)
    else s' = s

theorem spawnsMember_object (hk : k ≠ .pool) :
    mgr.SpawnsMember k (fun _ s => some s) := by
  intro x s s' _ _ h _
  rw [if_neg hk]
  exact (Option.some_injective _ h).symm

theorem spawned_activateObject (hsound : mgr.Sound) (hc : mgr.Counted s.active)
    (ho : mgr.Opened s.active p) (hx : x ∈ (mgr.groups k p).guids)
    (hinactive : s.active.isActiveObject k x = false) :
    mgr.Spawned p s (s.activateObject k x p) ∧
      (s.activateObject k x p).active.getActiveObjectCount p =
        s.active.getActiveObjectCount p + 1 := by
  have hcount : ∀ q, (s.activateObject k x p).active.getActiveObjectCount q =
      s.active.getActiveObjectCount q + if q = p then 1 else 0 :=
    fun q => ActivePoolData.count_activateObject hinactive
  refine ⟨⟨hc.activateObject hsound hx hinactive ho, fun q hq => ?_, fun q hq => ?_, fun hp => ?_,
    fun k' y q hy => ?_⟩, ?_⟩
  · rw [hcount, if_neg hq]
    exact id
  · have hqp : q ≠ p := fun heq => hq (heq ▸ .refl)
    refine ActivePoolData.spawnedPools_activateObject hqp fun hk heq => hq ?_
    subst hk heq
    exact .single hx
  · exact ActivePoolData.isActive_activateObject.mpr (.inl hp)
  · rcases List.mem_cons.mp hy with heq | hy
    · cases heq
      exact .inr hx
    · exact .inl hy
  · rw [hcount, if_pos rfl]

theorem SpawnsMember.add (hs : mgr.SpawnsMember k spawn1) (hsound : mgr.Sound)
    (hc : mgr.Counted s.active) (ho : mgr.Opened s.active p) (hx : x ∈ (mgr.groups k p).guids)
    (hinactive : s.active.isActiveObject k x = false)
    (h : spawn1 x (s.activateObject k x p) = some s') (hcalls : ∀ c ∈ s'.questCalls, c.Ok mgr) :
    mgr.Spawned p s s' ∧
      s'.active.getActiveObjectCount p = s.active.getActiveObjectCount p + 1 ∧
      ∀ y ∈ (mgr.groups k p).guids, s.active.isActiveObject k y = true →
        s'.active.isActiveObject k y = true := by
  obtain ⟨hone, hcount⟩ := spawned_activateObject hsound hc ho hx hinactive
  have hstill : ∀ y, s.active.isActiveObject k y = true →
      (s.activateObject k x p).active.isActiveObject k y = true :=
    fun y hy => ActivePoolData.isActive_activateObject.mpr (.inl hy)
  have hmember := hs x _ s' hone.counted
    (fun hk => hk ▸ ActivePoolData.isActive_activateObject.mpr (.inr (.inl ⟨rfl, rfl⟩))) h hcalls
  by_cases hk : k = .pool
  · rw [if_pos hk] at hmember
    subst hk
    obtain ⟨hpart, hlimit⟩ := hmember
    have hp := hpart.frame p (hsound.not_reach hx)
    refine ⟨⟨hpart.counted, fun q hq hle => ?_, fun q hq => ?_, fun hactive => ?_,
      fun k y q hy => (hpart.member k y q hy).elim (hone.member k y q) .inr⟩, ?_,
      fun y hy hactive => ?_⟩
    · by_cases hqx : q = x
      · subst hqx
        exact hlimit (hone.within q hq hle)
      · exact hpart.within q hqx (hone.within q hq hle)
    · exact (hpart.frame q (not_reach_part hx hq)).trans (hone.frame q hq)
    · rw [ActivePoolData.isActive_pool, hp]
      exact hone.stays hactive
    · rw [count_congr hp, hcount]
    · have hne : x ≠ y := by
        rintro rfl
        rw [hinactive] at hactive
        cases hactive
      rw [ActivePoolData.isActive_pool, hpart.frame y (hsound.not_reach_sibling hx hy hne)]
      exact hstill y hactive
  · rw [if_neg hk] at hmember
    subst hmember
    exact ⟨hone, hcount, fun y _ => hstill y⟩

section loop

variable {dice : Nat → ℚ × Nat} {last trigger : Nat}

/-- The loop of `SpawnObject` activates one object a round at most. -/
theorem spawnLoop_spec (hs : mgr.SpawnsMember k spawn1) (hd : mgr.DespawnsMember k despawn1)
    (hsc : ∀ x s s', spawn1 x s = some s' → s.questCalls ⊆ s'.questCalls)
    (hdc : ∀ x s s', despawn1 x s = some s' → s'.questCalls = s.questCalls)
    (hsound : mgr.Sound) (hc : mgr.Counted s.active) (ho : mgr.Opened s.active p)
    (ht : trigger ≠ 0 → trigger ∈ (mgr.groups k p).guids ∧
      s.active.isActiveObject k trigger = true)
    (h : spawnLoop dice spawn1 despawn1 k p (mgr.groups k p) n last trigger s = some s')
    (hcalls : ∀ c ∈ s'.questCalls, c.Ok mgr) :
    mgr.Spawned p s s' ∧ s'.active.getActiveObjectCount p ≤
      s.active.getActiveObjectCount p + (n - if trigger ≠ 0 then 1 else 0) := by
  induction n generalizing last trigger s with
  | zero =>
    cases h
    exact ⟨.of_eq hc rfl rfl, Nat.le_add_right _ _⟩
  | succ n ih =>
    have hroll : ∀ o s₁, rollOne dice k (mgr.groups k p) trigger s = (some o, s₁) →
        o.guid ∈ (mgr.groups k p).guids ∧
          (o.guid = trigger ∨ s.active.isActiveObject k o.guid = false) := fun _ _ => rollOne_spec
    obtain ⟨u, hdraw⟩ : ∃ u, (rollOne dice k (mgr.groups k p) trigger s).2 = { s with used := u } :=
      rollOne_state
    have hsame : mgr.Spawned p s { s with used := u } := .of_eq hc rfl rfl
    have hnone : ∀ t, (t ≠ 0 → trigger ≠ 0 → t = trigger) → ¬ (t ≠ 0 ∧ trigger = 0) → ∀ last,
        spawnLoop dice spawn1 despawn1 k p (mgr.groups k p) n last t { s with used := u } = some s' →
        mgr.Spawned p s s' ∧ s'.active.getActiveObjectCount p ≤
          s.active.getActiveObjectCount p + (n + 1 - if trigger ≠ 0 then 1 else 0) := by
      intro t heq hzero last h
      have hne : t ≠ 0 → trigger ≠ 0 := fun ht htrigger => hzero ⟨ht, htrigger⟩
      obtain ⟨hrest, hle⟩ := ih (s := { s with used := u }) hc ho
        (fun ht' => heq ht' (hne ht') ▸ ht (hne ht')) h
      refine ⟨hsame.trans hrest, hle.trans (Nat.add_le_add_left ?_ _)⟩
      split <;> split <;> omega
    unfold spawnLoop at h
    generalize rollOne dice k (mgr.groups k p) trigger s = roll at h hroll hdraw
    obtain ⟨o, s₁⟩ := roll
    dsimp only at hdraw
    subst hdraw
    cases o with
    | none => exact hnone trigger (fun _ _ => rfl) (fun hand => hand.1 hand.2) last h
    | some o =>
      dsimp only at h
      obtain ⟨hmem, hok⟩ := hroll o _ rfl
      by_cases hlast : o.guid = last
      · rw [if_pos hlast] at h
        exact hnone trigger (fun _ _ => rfl) (fun hand => hand.1 hand.2) last h
      rw [if_neg hlast] at h
      by_cases htrigger : o.guid = trigger
      · rw [if_pos htrigger] at h
        exact hnone 0 (fun hne => absurd rfl hne) (fun hand => hand.1 rfl) last h
      rw [if_neg htrigger] at h
      obtain ⟨s₂, h₂, h⟩ := Option.bind_eq_some_iff.mp h
      by_cases hzero : trigger ≠ 0
      · rw [if_pos hzero] at h ⊢
        obtain ⟨s₃, h₃, h⟩ := Option.bind_eq_some_iff.mp h
        have hcalls₃ : ∀ c ∈ s₃.questCalls, c.Ok mgr :=
          fun c hc => hcalls c (spawnLoop_calls hsc hdc h hc)
        have hcalls₂ : ∀ c ∈ s₂.questCalls, c.Ok mgr :=
          fun c hc => hcalls₃ c ((despawnObject_calls hdc h₃).symm ▸ hc)
        obtain ⟨hadd, hcount, hothers⟩ := hs.add (s := { s with used := u }) hsound hc ho hmem
          (hok.resolve_left htrigger) h₂ hcalls₂
        obtain ⟨htmem, htactive⟩ := ht hzero
        obtain ⟨hdespawned, hgone⟩ := despawnObject_spec hd hsound hadd.counted h₃
        have hlt := hdespawned.count_lt hadd.counted htmem (hothers trigger htmem htactive)
          (hgone trigger htmem (.inr rfl))
        have hthree := hadd.trans (hdespawned.spawned hadd.counted)
        obtain ⟨hrest, hle⟩ := ih hthree.counted (hthree.opened ho)
          (fun hne => absurd rfl hne) h
        refine ⟨(hsame.trans hthree).trans hrest, ?_⟩
        rw [hcount] at hlt
        rw [if_neg (not_not.mpr rfl)] at hle
        dsimp only at hlt
        omega
      · rw [if_neg hzero] at h ⊢
        have hcalls₂ : ∀ c ∈ s₂.questCalls, c.Ok mgr :=
          fun c hc => hcalls c (spawnLoop_calls hsc hdc h hc)
        obtain ⟨hadd, hcount, _⟩ := hs.add (s := { s with used := u }) hsound hc ho hmem
          (hok.resolve_left htrigger) h₂ hcalls₂
        obtain ⟨hrest, hle⟩ := ih hadd.counted (hadd.opened ho)
          (fun hne => absurd hne hzero) h
        refine ⟨(hsame.trans hadd).trans hrest, ?_⟩
        rw [if_neg hzero, hcount] at hle
        dsimp only at hle
        omega

theorem spawnCount_le {limit active : Nat} (hle : active ≤ limit) :
    spawnCount limit active trigger - (if trigger ≠ 0 then 1 else 0) ≤ limit - active := by
  have hsub : (BitVec.ofNat 32 limit - BitVec.ofNat 32 active).toInt ≤ (limit - active : Nat) := by
    rw [BitVec.toInt_eq_toNat_cond, BitVec.toNat_sub, BitVec.toNat_ofNat, BitVec.toNat_ofNat]
    split <;> omega
  unfold spawnCount
  split <;> omega

theorem spawnObject_spec (hs : mgr.SpawnsMember k spawn1) (hd : mgr.DespawnsMember k despawn1)
    (hsc : ∀ x s s', spawn1 x s = some s' → s.questCalls ⊆ s'.questCalls)
    (hdc : ∀ x s s', despawn1 x s = some s' → s'.questCalls = s.questCalls)
    (hsound : mgr.Sound) (hc : mgr.Counted s.active) (ho : mgr.Opened s.active p)
    (ht : trigger ≠ 0 → trigger ∈ (mgr.groups k p).guids ∧
      s.active.isActiveObject k trigger = true)
    (h : spawnObject dice spawn1 despawn1 k p (mgr.groups k p) (mgr.maxLimit p) trigger s = some s')
    (hcalls : ∀ c ∈ s'.questCalls, c.Ok mgr) :
    mgr.Spawned p s s' ∧ (s.active.getActiveObjectCount p ≤ mgr.maxLimit p →
      s'.active.getActiveObjectCount p ≤ mgr.maxLimit p) := by
  obtain ⟨hspawned, hle⟩ := spawnLoop_spec hs hd hsc hdc hsound hc ho ht h hcalls
  refine ⟨hspawned, fun hlimit => ?_⟩
  have hroom : spawnCount _ _ trigger - (if trigger ≠ 0 then 1 else 0) ≤ _ := spawnCount_le hlimit
  omega

end loop

/-! ## Quests -/

section quests

variable {dice : Nat → ℚ × Nat} {trigger limit index used : Nat} {qs : List Nat}
  {current new : Finset Nat} {l : BitVec 32}

theorem isActive_activated_ne (hne : y ≠ x) (h : a.isActiveObject .quest y = false) :
    (a.activateObject .quest x p).isActiveObject .quest y = false := by
  cases hstill : (a.activateObject .quest x p).isActiveObject .quest y with
  | false => rfl
  | true =>
    rcases ActivePoolData.isActive_activateObject.mp hstill with hy | ⟨-, hy⟩ | ⟨hk, -⟩
    · rw [h] at hy
      cases hy
    · exact absurd hy hne
    · cases hk

theorem toNat_pred (hl : l ≠ 0) : (l - 1).toNat + 1 = l.toNat := by
  have hpos : l.toNat ≠ 0 := fun hzero => hl (BitVec.eq_of_toNat_eq (by simpa using hzero))
  have hlt := l.isLt
  have hone : (1 : BitVec 32).toNat = 1 := rfl
  rw [BitVec.toNat_sub, hone]
  omega

theorem loadSaved_spec (hsound : mgr.Sound) (hc : mgr.Counted s.active)
    (ho : mgr.Opened s.active p) (hl : l ≠ 0) (hnodup : (qs.take l.toNat).Nodup)
    (hqs : ∀ q ∈ qs.take l.toNat, q ∈ (mgr.groups .quest p).guids ∧
      s.active.isActiveObject .quest q = false) :
    mgr.Spawned p s (loadSaved p qs l s) ∧
      (loadSaved p qs l s).active.getActiveObjectCount p =
        s.active.getActiveObjectCount p + (qs.take l.toNat).length := by
  induction qs generalizing l s with
  | nil => exact ⟨.of_eq hc rfl rfl, by simp [loadSaved]⟩
  | cons q qs ih =>
    have hpred := toNat_pred hl
    rw [← hpred, List.take_succ_cons] at hnodup hqs ⊢
    obtain ⟨hq, hinactive⟩ := hqs q List.mem_cons_self
    obtain ⟨hone, hcount⟩ := spawned_activateObject hsound hc ho hq hinactive
    rw [List.nodup_cons] at hnodup
    unfold loadSaved
    dsimp only
    by_cases hlast : l - 1 = 0
    · rw [if_pos hlast, hlast]
      exact ⟨hone, hcount⟩
    · rw [if_neg hlast]
      obtain ⟨hrest, hle⟩ := ih hone.counted (hone.opened ho) hlast hnodup.2 fun y hy => by
        obtain ⟨hmem, hy'⟩ := hqs y (List.mem_cons_of_mem _ hy)
        exact ⟨hmem, isActive_activated_ne (fun heq => hnodup.1 (heq ▸ hy)) hy'⟩
      refine ⟨hone.trans hrest, ?_⟩
      rw [hle, hcount, List.length_cons]
      omega

theorem selectRandom_mem (h : new ≠ ∅) : selectRandom index new ∈ new :=
  getD_ascending_mem (Nat.mod_lt _ (Finset.card_pos.mpr (Finset.nonempty_iff_ne_empty.mpr h)))

theorem recycle_subset (h : current ≠ ∅) :
    (recycle dice limit n current new used).1 ⊆ new ∪ current := by
  induction n generalizing current new used with
  | zero => exact Finset.subset_union_left
  | succ n ih =>
    have hmem : selectRandom (dice used).2 current ∈ current := selectRandom_mem h
    have hinsert : insert (selectRandom (dice used).2 current) new ⊆ new ∪ current :=
      Finset.insert_subset (Finset.mem_union_right _ hmem) Finset.subset_union_left
    unfold recycle
    dsimp only
    split
    · rename_i hmore
      refine (ih hmore.2).trans (Finset.union_subset hinsert ?_)
      exact (Finset.erase_subset _ _).trans Finset.subset_union_right
    · exact hinsert

theorem activateNew_spec (hsound : mgr.Sound) (hc : mgr.Counted s.active)
    (ho : mgr.Opened s.active p) (hl : l ≠ 0) (hn : new.card = n)
    (hnew : ∀ q ∈ new, q ∈ (mgr.groups .quest p).guids ∧
      s.active.isActiveObject .quest q = false) :
    mgr.Spawned p s (activateNew dice p n new l s) ∧
      (activateNew dice p n new l s).active.getActiveObjectCount p ≤
        s.active.getActiveObjectCount p + min l.toNat new.card := by
  induction n generalizing new l s with
  | zero => exact ⟨.of_eq hc rfl rfl, Nat.le_add_right _ _⟩
  | succ n ih =>
    have hne : new ≠ ∅ := fun hempty => by
      rw [hempty, Finset.card_empty] at hn
      cases hn
    have hmem : selectRandom (dice s.used).2 new ∈ new := selectRandom_mem hne
    obtain ⟨hq, hinactive⟩ := hnew _ hmem
    obtain ⟨hone, hcount⟩ := spawned_activateObject (s := { s with used := s.used + 1 }) hsound hc ho
      hq hinactive
    have hdraw : mgr.Spawned p s { s with used := s.used + 1 } := .of_eq hc rfl rfl
    have hfirst := hdraw.trans hone
    have hcard : (new.erase (selectRandom (dice s.used).2 new)).card = n := by
      rw [Finset.card_erase_of_mem hmem, hn, Nat.add_sub_cancel]
    have hpred := toNat_pred hl
    unfold activateNew
    dsimp only
    split
    · rename_i hmore
      obtain ⟨hrest, hle⟩ := ih hone.counted (hone.opened ho) hmore.1 hcard fun y hy => by
        obtain ⟨hne, hy⟩ := Finset.mem_erase.mp hy
        exact ⟨(hnew y hy).1, isActive_activated_ne hne (hnew y hy).2⟩
      refine ⟨hfirst.trans hrest, ?_⟩
      rw [hcount, hcard] at hle
      dsimp only at hle
      omega
    · refine ⟨hfirst, ?_⟩
      rw [hcount, hn]
      dsimp only
      omega

theorem mem_newQuests : x ∈ mgr.newQuests a p ↔
    (∃ o ∈ (mgr.groups .quest p).equalChanced, o.guid = x) ∧ a.isActiveObject .quest x = false := by
  simp [newQuests]

theorem chooseQuests_subset : (mgr.chooseQuests dice p limit a used).1 ⊆
      mgr.newQuests a p ∪ a.spawned .quest ∧
    (limit ≤ (mgr.newQuests a p).card →
      (mgr.chooseQuests dice p limit a used).1 = mgr.newQuests a p) := by
  unfold chooseQuests
  dsimp only
  split
  · rename_i hmore
    exact ⟨recycle_subset hmore.2, fun hle => absurd hmore.1 (Nat.not_lt.mpr hle)⟩
  · exact ⟨Finset.subset_union_left, fun _ => rfl⟩

theorem limit_ne_zero (hsound : mgr.Sound) (h : mgr.maxLimit p ≠ 0) :
    BitVec.ofNat 32 (mgr.maxLimit p) ≠ 0 ∧
      (BitVec.ofNat 32 (mgr.maxLimit p)).toNat = mgr.maxLimit p := by
  have hto : (BitVec.ofNat 32 (mgr.maxLimit p)).toNat = mgr.maxLimit p := by
    rw [BitVec.toNat_ofNat, Nat.mod_eq_of_lt (hsound.limit_lt p)]
  refine ⟨fun hzero => h ?_, hto⟩
  rw [hzero] at hto
  exact hto.symm

theorem clearQuests_spec (hsound : mgr.Sound) (hc : mgr.Counted s.active) :
    ∃ s', despawnObject (fun _ s => some s) .quest p (mgr.groups .quest p) 0 s = some s' ∧
      mgr.Despawned p s s' ∧ (∀ q ∈ (mgr.groups .quest p).guids,
        s'.active.isActiveObject .quest q = false) ∧
      s'.active.getActiveObjectCount p ≤ (mgr.othersIn s.active p).card := by
  have hsome : (despawnObject (fun _ s => some s) .quest p (mgr.groups .quest p) 0 s).isSome =
      true := despawnObject_isSome fun _ _ _ => rfl
  have hobject : mgr.DespawnsMember .quest (fun _ s => some s) := despawnsMember_object nofun
  obtain ⟨s', hs'⟩ := Option.isSome_iff_exists.mp hsome
  obtain ⟨hdespawned, hgone⟩ := despawnObject_spec hobject hsound hc hs'
  refine ⟨s', hs', hdespawned, fun q hq => hgone q hq (.inl rfl), ?_⟩
  rw [hdespawned.counted p]
  refine Finset.card_le_card fun o ho => Finset.mem_filter.mpr ⟨hdespawned.activeIn_subset p ho, ?_⟩
  rintro hquest
  obtain ⟨k, x⟩ := o
  obtain rfl : k = .quest := hquest
  obtain ⟨hx, hactive⟩ := mem_activeIn.mp ho
  rw [hgone x hx (.inl rfl)] at hactive
  cases hactive

theorem rotateQuests_spec (hsound : mgr.Sound) (hc : mgr.Counted s.active)
    (ho : mgr.Opened s.active p)
    (hmember : mgr.maxLimit p ≤ (mgr.newQuests s.active p).card ∨
      ∀ q ∈ s.active.spawned .quest, q ∈ (mgr.groups .quest p).guids)
    (hroom : (mgr.othersIn s.active p).card + min (mgr.maxLimit p)
      (mgr.newQuests s.active p ∪ s.active.spawned .quest).card ≤ mgr.maxLimit p)
    (hzero : mgr.maxLimit p = 0 → mgr.newQuests s.active p = ∅) :
    mgr.Spawned p s (mgr.rotateQuests dice p (mgr.maxLimit p) trigger s) ∧
      (mgr.rotateQuests dice p (mgr.maxLimit p) trigger s).active.getActiveObjectCount p ≤
        mgr.maxLimit p := by
  obtain ⟨s₁, h₁, hcleared, hgone, hothers⟩ := clearQuests_spec (p := p) hsound hc
  obtain ⟨hsubset, hexact⟩ : (mgr.chooseQuests dice p (mgr.maxLimit p) s.active s.used).1 ⊆ _ ∧ _ :=
    chooseQuests_subset
  unfold rotateQuests
  rw [h₁, Option.getD_some]
  generalize mgr.chooseQuests dice p (mgr.maxLimit p) s.active s.used = r at hsubset hexact
  dsimp only
  have hfirst : mgr.Spawned p s { s₁ with used := r.2 } :=
    (hcleared.spawned hc).trans (.of_eq hcleared.counted rfl rfl)
  by_cases hnone : r.1 = ∅
  · rw [if_pos hnone]
    refine ⟨hfirst, ?_⟩
    dsimp only
    omega
  · rw [if_neg hnone]
    have hlimit : mgr.maxLimit p ≠ 0 := by
      intro hlimit
      rw [hexact (hlimit ▸ Nat.zero_le _)] at hnone
      exact hnone (hzero hlimit)
    obtain ⟨hl, hto⟩ := limit_ne_zero hsound hlimit
    have hnew : ∀ q ∈ r.1, q ∈ (mgr.groups .quest p).guids ∧
        s₁.active.isActiveObject .quest q = false := by
      intro q hq
      have hlisted : q ∈ (mgr.groups .quest p).guids := by
        rcases Finset.mem_union.mp (hsubset hq) with hnew | hcurrent
        · exact PoolGroup.mem_guids.mpr (.inl (mem_newQuests.mp hnew).1)
        · rcases hmember with hle | hall
          · rw [hexact hle] at hq
            exact PoolGroup.mem_guids.mpr (.inl (mem_newQuests.mp hq).1)
          · exact hall q hcurrent
      exact ⟨hlisted, hgone q hlisted⟩
    obtain ⟨hactivated, hle⟩ : mgr.Spawned p _ (activateNew dice p r.1.card r.1 _ _) ∧ _ :=
      activateNew_spec (s := { s₁ with used := r.2 }) hsound hcleared.counted (hfirst.opened ho) hl
        rfl hnew
    have hcard := Finset.card_le_card hsubset
    rw [hto] at hle
    dsimp only at hle
    have hbound : (activateNew dice p r.1.card r.1 (BitVec.ofNat 32 (mgr.maxLimit p))
        { s₁ with used := r.2 }).active.getActiveObjectCount p ≤ mgr.maxLimit p := by omega
    split
    · exact ⟨(hfirst.trans hactivated).trans (.of_eq hactivated.counted rfl rfl), hbound⟩
    · exact ⟨hfirst.trans hactivated, hbound⟩

/-- A quest pool is spawned within its limit when the saved quests are its own. -/
theorem spawnQuests_spec (hsound : mgr.Sound) (hc : mgr.Counted s.active)
    (ho : mgr.Opened s.active p)
    (hok : QuestCall.Ok mgr ⟨p, trigger, s.active, s.saved p⟩) :
    mgr.Spawned p s (mgr.spawnQuests dice p (mgr.maxLimit p) trigger s) ∧
      (mgr.spawnQuests dice p (mgr.maxLimit p) trigger s).active.getActiveObjectCount p ≤
        mgr.maxLimit p := by
  have hcall : mgr.Spawned p s (s.callQuests p trigger) := .of_eq hc rfl rfl
  unfold QuestCall.Ok at hok
  dsimp only at hok
  by_cases hload : trigger = 0 ∧ s.saved p ≠ []
  · have hspawn : mgr.spawnQuests dice p (mgr.maxLimit p) trigger s =
        loadSaved p (s.saved p) (BitVec.ofNat 32 (mgr.maxLimit p)) (s.callQuests p trigger) :=
      if_pos hload
    rw [if_pos hload] at hok
    rw [hspawn]
    obtain ⟨hlimit, hroom, hnodup, hmember⟩ := hok
    obtain ⟨hl, hto⟩ := limit_ne_zero hsound hlimit
    rw [← hto] at hnodup hmember
    obtain ⟨hspawned, hcount⟩ := loadSaved_spec (s := s.callQuests p trigger) hsound hc ho hl
      hnodup hmember
    refine ⟨hcall.trans hspawned, ?_⟩
    rw [hcount, hto]
    exact hroom
  · have hspawn : mgr.spawnQuests dice p (mgr.maxLimit p) trigger s =
        mgr.rotateQuests dice p (mgr.maxLimit p) trigger (s.callQuests p trigger) := if_neg hload
    rw [if_neg hload] at hok
    rw [hspawn]
    obtain ⟨hmember, hroom, hzero⟩ := hok
    obtain ⟨hspawned, hle⟩ : mgr.Spawned p _ (mgr.rotateQuests dice p _ trigger _) ∧ _ :=
      rotateQuests_spec (s := s.callQuests p trigger) hsound hc ho hmember hroom hzero
    exact ⟨hcall.trans hspawned, hle⟩

end quests

/-- The object that triggers is an active member; without one, and for quests, it is the pool that
has to be open. -/
def Triggers (mgr : PoolMgr) (a : ActivePoolData) (k : PoolKind) (p x : Nat) : Prop :=
  if k = .quest ∨ x = 0 then mgr.Opened a p
  else x ∈ (mgr.groups k p).guids ∧ a.isActiveObject k x = true

section pools

variable {dice : Nat → ℚ × Nat} {trigger : Nat}

theorem Triggers.opened (h : mgr.Triggers a k p x) (hc : mgr.Counted a) : mgr.Opened a p := by
  unfold Triggers at h
  split at h
  · exact h
  · exact .inl (hc.isActive h.1 h.2)

theorem Triggers.active (h : mgr.Triggers a k p x) (hk : k ≠ .quest) (hx : x ≠ 0) :
    x ∈ (mgr.groups k p).guids ∧ a.isActiveObject k x = true := by
  unfold Triggers at h
  rwa [if_neg (not_or.mpr ⟨hk, hx⟩)] at h

theorem triggers_zero (h : mgr.Opened a p) : mgr.Triggers a k p 0 := by
  rw [Triggers, if_pos (.inr rfl)]
  exact h

/-- One of the four kinds of `SpawnPool`. -/
theorem spawnKind_spec (hs : mgr.SpawnsMember .pool spawn1) (hd : mgr.DespawnsMember .pool despawn1)
    (hsc : ∀ x s s', spawn1 x s = some s' → s.questCalls ⊆ s'.questCalls)
    (hdc : ∀ x s s', despawn1 x s = some s' → s'.questCalls = s.questCalls)
    (hsound : mgr.Sound) (hc : mgr.Counted s.active) (ht : mgr.Triggers s.active k p trigger)
    (h : mgr.spawnKind dice spawn1 despawn1 k p trigger s = some s')
    (hcalls : ∀ c ∈ s'.questCalls, c.Ok mgr) :
    mgr.Spawned p s s' ∧ (s.active.getActiveObjectCount p ≤ mgr.maxLimit p →
      s'.active.getActiveObjectCount p ≤ mgr.maxLimit p) := by
  have ho := ht.opened hc
  have hkeep : ∀ (_ : Nat) (s s' : PoolState), some s = some s' →
      s.questCalls ⊆ s'.questCalls := by
    intro x s s' h
    cases h
    exact fun _ => id
  have hobject : ∀ k, k ≠ .pool → k ≠ .quest → mgr.Triggers s.active k p trigger →
      spawnObject dice (fun _ s => some s) (fun _ s => some s) k p (mgr.groups k p)
        (mgr.maxLimit p) trigger s = some s' →
      mgr.Spawned p s s' ∧ (s.active.getActiveObjectCount p ≤ mgr.maxLimit p →
        s'.active.getActiveObjectCount p ≤ mgr.maxLimit p) :=
    fun k hpool hquest ht h => spawnObject_spec (spawnsMember_object hpool)
      (despawnsMember_object hpool) hkeep object_calls hsound hc ho (ht.active hquest) h hcalls
  unfold spawnKind at h
  split at h
  · cases h
    exact ⟨.of_eq hc rfl rfl, id⟩
  · cases k with
    | quest =>
      cases h
      rw [spawnQuests_calls] at hcalls
      obtain ⟨hspawned, hle⟩ : mgr.Spawned p s (mgr.spawnQuests dice p _ trigger s) ∧ _ :=
        spawnQuests_spec hsound hc ho (hcalls _ List.mem_cons_self)
      exact ⟨hspawned, fun _ => hle⟩
    | pool => exact spawnObject_spec hs hd hsc hdc hsound hc ho (ht.active nofun) h hcalls
    | creature => exact hobject .creature nofun nofun ht h
    | gameobject => exact hobject .gameobject nofun nofun ht h

theorem despawnsMember_pool (hsound : mgr.Sound) :
    mgr.DespawnsMember .pool (mgr.despawnPool fuel) := by
  intro x s s' hc h
  rw [if_pos rfl]
  exact despawnPool_spec hsound hc h

/-- `SpawnPool` keeps the counts, and the limit where it held before. -/
theorem spawnPool_spec (hsound : mgr.Sound) (hc : mgr.Counted s.active)
    (ho : mgr.Opened s.active p) (h : mgr.spawnPool dice fuel p s = some s')
    (hcalls : ∀ c ∈ s'.questCalls, c.Ok mgr) :
    mgr.Spawned p s s' ∧ (s.active.getActiveObjectCount p ≤ mgr.maxLimit p →
      s'.active.getActiveObjectCount p ≤ mgr.maxLimit p) := by
  induction fuel generalizing p s s' with
  | zero => cases h
  | succ fuel ih =>
    have hpools : mgr.SpawnsMember .pool (mgr.spawnPool dice fuel) := by
      intro x s s' hc hactive h hcalls
      rw [if_pos rfl]
      exact ih hc (.inl (hactive rfl)) h hcalls
    have hsc : ∀ x s s', mgr.spawnPool dice fuel x s = some s' → s.questCalls ⊆ s'.questCalls :=
      fun _ _ _ => spawnPool_calls
    have hdc : ∀ x s s', mgr.despawnPool fuel x s = some s' → s'.questCalls = s.questCalls :=
      fun _ _ _ => despawnPool_calls
    have hkind : ∀ k s s', mgr.Counted s.active → mgr.Opened s.active p →
        mgr.spawnKind dice (mgr.spawnPool dice fuel) (mgr.despawnPool fuel) k p 0 s = some s' →
        (∀ c ∈ s'.questCalls, c.Ok mgr) →
        mgr.Spawned p s s' ∧ (s.active.getActiveObjectCount p ≤ mgr.maxLimit p →
          s'.active.getActiveObjectCount p ≤ mgr.maxLimit p) :=
      fun k s s' hc ho h hcalls => spawnKind_spec hpools (despawnsMember_pool hsound) hsc hdc hsound
        hc (triggers_zero ho) h hcalls
    unfold spawnPool at h
    obtain ⟨s₁, h₁, h⟩ := Option.bind_eq_some_iff.mp h
    obtain ⟨s₂, h₂, h⟩ := Option.bind_eq_some_iff.mp h
    obtain ⟨s₃, h₃, h₄⟩ := Option.bind_eq_some_iff.mp h
    have hcalls₃ : ∀ c ∈ s₃.questCalls, c.Ok mgr := fun c hc => hcalls c (spawnKind_calls hsc hdc h₄ hc)
    have hcalls₂ : ∀ c ∈ s₂.questCalls, c.Ok mgr := fun c hc => hcalls₃ c (spawnKind_calls hsc hdc h₃ hc)
    have hcalls₁ : ∀ c ∈ s₁.questCalls, c.Ok mgr := fun c hc => hcalls₂ c (spawnKind_calls hsc hdc h₂ hc)
    obtain ⟨hone, hle₁⟩ := hkind .pool s s₁ hc ho h₁ hcalls₁
    obtain ⟨htwo, hle₂⟩ := hkind .gameobject s₁ s₂ hone.counted (hone.opened ho) h₂ hcalls₂
    have ho₂ := htwo.opened (hone.opened ho)
    obtain ⟨hthree, hle₃⟩ := hkind .creature s₂ s₃ htwo.counted ho₂ h₃ hcalls₃
    obtain ⟨hfour, hle₄⟩ := hkind .quest s₃ s' hthree.counted (hthree.opened ho₂) h₄ hcalls
    exact ⟨((hone.trans htwo).trans hthree).trans hfour, fun hle => hle₄ (hle₃ (hle₂ (hle₁ hle)))⟩

end pools

end PoolMgr

/-! ## Runs -/

inductive PoolEvent where
  | spawn (p : Nat)
  | despawn (p : Nat)
  | update (k : PoolKind) (p x : Nat)
deriving DecidableEq, Repr

namespace PoolMgr

def exec (mgr : PoolMgr) (dice : Nat → ℚ × Nat) (fuel : Nat) :
    PoolEvent → PoolState → Option PoolState
  | .spawn p => mgr.spawnPool dice fuel p
  | .despawn p => mgr.despawnPool fuel p
  | .update k p x => mgr.updatePool dice fuel k p x

/-- Calls one after the other, each admitted by `ok` in the state where it is made. -/
inductive Runs (mgr : PoolMgr) (dice : Nat → ℚ × Nat) (ok : PoolState → PoolEvent → Prop) :
    PoolState → List PoolEvent → PoolState → Prop where
  | nil {s : PoolState} : Runs mgr dice ok s [] s
  | cons {s s' s'' : PoolState} {e : PoolEvent} {es : List PoolEvent} {fuel : Nat} :
      ok s e → mgr.exec dice fuel e s = some s' → Runs mgr dice ok s' es s'' →
      Runs mgr dice ok s (e :: es) s''

/-- A pool that is spawned is not part of another or is active there, and what triggers an update is
active in the pool that is rolled. -/
def Admits (mgr : PoolMgr) (s : PoolState) : PoolEvent → Prop
  | .spawn p => mgr.Opened s.active p
  | .despawn _ => True
  | .update k p x =>
    let t := mgr.updateTarget k p x
    mgr.Triggers s.active t.1 t.2.1 t.2.2

structure Fresh (s : PoolState) : Prop where
  active : s.active = {}
  activated : s.activated = []
  questCalls : s.questCalls = []

structure Accurate (mgr : PoolMgr) (s : PoolState) : Prop where
  counted : ∀ p, s.active.getActiveObjectCount p = (mgr.activeIn s.active p).card
  within : ∀ p, s.active.getActiveObjectCount p ≤ mgr.maxLimit p
  member : ∀ k x p, (k, x, p) ∈ s.activated → x ∈ (mgr.groups k p).guids

variable {mgr : PoolMgr} {dice : Nat → ℚ × Nat} {s s' : PoolState} {e : PoolEvent}
  {es : List PoolEvent} {p x fuel : Nat} {k : PoolKind}

theorem Accurate.of_spawned (h : mgr.Accurate s) (hspawned : mgr.Spawned p s s')
    (hle : s.active.getActiveObjectCount p ≤ mgr.maxLimit p →
      s'.active.getActiveObjectCount p ≤ mgr.maxLimit p) : mgr.Accurate s' := by
  refine ⟨hspawned.counted, fun q => ?_, fun k x q hx => ?_⟩
  · by_cases hq : q = p
    · subst hq
      exact hle (h.within q)
    · exact hspawned.within q hq (h.within q)
  · exact (hspawned.member k x q hx).elim (h.member k x q) id

theorem Accurate.of_despawned (h : mgr.Accurate s) (hdespawned : mgr.Despawned p s s') :
    mgr.Accurate s' := by
  refine h.of_spawned (hdespawned.spawned h.counted) fun hle => ?_
  rw [h.counted p] at hle
  rw [hdespawned.counted p]
  exact (Finset.card_le_card (hdespawned.activeIn_subset p)).trans hle

theorem exec_calls (h : mgr.exec dice fuel e s = some s') : s.questCalls ⊆ s'.questCalls := by
  cases e with
  | spawn p => exact spawnPool_calls h
  | despawn p => exact (despawnPool_calls h).symm ▸ fun _ => id
  | update k p x =>
    exact spawnKind_calls (fun _ _ _ => spawnPool_calls) (fun _ _ _ => despawnPool_calls) h

/-- One event keeps the counts and the limits. -/
theorem Accurate.exec (h : mgr.Accurate s) (hsound : mgr.Sound) (hok : mgr.Admits s e)
    (hexec : mgr.exec dice fuel e s = some s') (hcalls : ∀ c ∈ s'.questCalls, c.Ok mgr) :
    mgr.Accurate s' := by
  cases e with
  | spawn p =>
    obtain ⟨hspawned, hle⟩ := spawnPool_spec hsound h.counted hok hexec hcalls
    exact h.of_spawned hspawned hle
  | despawn p => exact h.of_despawned (despawnPool_spec hsound h.counted hexec).1
  | update k p x =>
    have hpools : mgr.SpawnsMember .pool (mgr.spawnPool dice fuel) := by
      intro x s s' hc hactive h hcalls
      rw [if_pos rfl]
      exact spawnPool_spec hsound hc (.inl (hactive rfl)) h hcalls
    obtain ⟨hspawned, hle⟩ := spawnKind_spec hpools (despawnsMember_pool hsound)
      (fun _ _ _ => spawnPool_calls) (fun _ _ _ => despawnPool_calls) hsound h.counted hok hexec
      hcalls
    exact h.of_spawned hspawned hle

theorem accurate_of_fresh (h : Fresh s) : mgr.Accurate s := by
  have hinactive : ∀ k x, s.active.isActiveObject k x = false := by
    intro k x
    rw [h.active]
    cases k <;> rfl
  have hcount : ∀ p, s.active.getActiveObjectCount p = 0 :=
    fun p => ActivePoolData.count_of_inactive (hinactive .pool p)
  refine ⟨fun p => ?_, fun p => ?_, fun k x p hx => ?_⟩
  · rw [hcount, eq_comm, Finset.card_eq_zero, Finset.eq_empty_iff_forall_notMem]
    rintro ⟨k, x⟩ hmem
    have hactive := (mem_activeIn.mp hmem).2
    rw [hinactive] at hactive
    cases hactive
  · rw [hcount]
    exact Nat.zero_le _
  · rw [h.activated] at hx
    cases hx

theorem runs_calls {ok : PoolState → PoolEvent → Prop} (h : mgr.Runs dice ok s es s') :
    s.questCalls ⊆ s'.questCalls := by
  induction h with
  | nil => exact fun _ => id
  | cons _ hexec _ ih => exact fun c hc => ih (exec_calls hexec hc)

/-- The recursion of every event ends. -/
theorem Sound.exists_fuel (h : mgr.Sound) (e : PoolEvent) :
    ∃ fuel, (mgr.exec dice fuel e s).isSome = true := by
  obtain ⟨maxPoolId, hids⟩ := h.ids
  have hwf := h.acyclic.wellFounded hids
  cases e with
  | spawn p =>
    obtain ⟨fuel, hfuel⟩ := PoolMgr.exists_fuel hwf p
    exact ⟨fuel, (hfuel s).2⟩
  | despawn p =>
    obtain ⟨fuel, hfuel⟩ : ∃ fuel, ∀ s, (mgr.despawnPool fuel p s).isSome = true ∧
      (mgr.spawnPool dice fuel p s).isSome = true := PoolMgr.exists_fuel hwf p
    exact ⟨fuel, (hfuel s).1⟩
  | update k p x =>
    obtain ⟨fuel, hfuel⟩ := exists_fuel_update hwf k p x
    exact ⟨fuel, hfuel s⟩

/-- In every run of calls that spawn, despawn and update pools the counts are accurate, where no
call for quests meets what it can not handle, and the next call comes to an end. -/
theorem run_counted (hsound : mgr.Sound) (hfresh : Fresh s)
    (hrun : mgr.Runs dice mgr.Admits s es s') (hcalls : ∀ c ∈ s'.questCalls, c.Ok mgr) :
    mgr.Accurate s' ∧ ∀ e, ∃ fuel, (mgr.exec dice fuel e s').isSome = true := by
  refine ⟨?_, fun e => hsound.exists_fuel e⟩
  have haccurate : mgr.Accurate s := accurate_of_fresh hfresh
  clear hfresh
  induction hrun with
  | nil => exact haccurate
  | cons hok hexec hrest ih =>
    exact ih hcalls (haccurate.exec hsound hok hexec fun c hc => hcalls c (runs_calls hrest hc))

/-- Pool 1 has pool 2 and two quests, and pool 2 has two creatures, one of which is active. -/
def samplePools : PoolMgr where
  maxLimit := fun p => if p = 1 then 3 else 1
  groups := fun k p =>
    match k, p with
    | .pool, 1 => ⟨[], [⟨2, 0⟩]⟩
    | .quest, 1 => ⟨[], [⟨30, 0⟩, ⟨31, 0⟩]⟩
    | .creature, 2 => ⟨[], [⟨7, 0⟩, ⟨8, 0⟩]⟩
    | _, _ => {}
  poolSearch := fun p => if p = 2 then some 1 else none
  questSearch := [(30, 1), (31, 1)]

theorem samplePools_guids (h : x ∈ (samplePools.groups k p).guids) :
    p = if k = .creature then 2 else 1 := by
  cases k with
  | creature =>
    rcases p with _ | _ | _ | p
    · cases h
    · cases h
    · rfl
    · cases h
  | gameobject => cases h
  | pool =>
    rcases p with _ | _ | p
    · cases h
    · rfl
    · cases h
  | quest =>
    rcases p with _ | _ | p
    · cases h
    · rfl
    · cases h

theorem samplePools_lists (h : samplePools.Lists p x) : p = 1 ∧ x = 2 := by
  obtain rfl : p = 1 := samplePools_guids h
  exact ⟨rfl, List.mem_singleton.mp h⟩

theorem samplePools_sound : samplePools.Sound where
  single k x p q hp hq := (samplePools_guids hp).trans (samplePools_guids hq).symm
  acyclic x ls hpath := by
    cases hpath with
    | nil => rfl
    | cons hfirst hrest =>
      obtain ⟨rfl, rfl⟩ := samplePools_lists hfirst
      cases hrest with
      | cons hnext _ => exact absurd (samplePools_lists hnext).1 (by decide)
  ids := by
    refine ⟨2, fun p x h => ?_⟩
    obtain ⟨rfl, rfl⟩ := samplePools_lists h
    decide
  limit_lt p := by
    unfold samplePools
    dsimp only
    split <;> decide

theorem exec_getD (h : (mgr.exec dice fuel e s).isSome = true) :
    mgr.exec dice fuel e s = some ((mgr.exec dice fuel e s).getD {}) := by
  obtain ⟨r, hr⟩ := Option.isSome_iff_exists.mp h
  rw [hr, Option.getD_some]

/-- Pool 1 is spawned, and pool 2 is rolled again when one of its creatures is. -/
theorem run_counted_twice : ∃ s, samplePools.Runs (fun _ => (0, 0)) samplePools.Admits {}
      [.spawn 1, .update .creature 2 7] s ∧ s.active.getActiveObjectCount 1 = 3 ∧
    samplePools.Accurate s := by
  have hopened : samplePools.Admits {} (.spawn 1) :=
    .inr fun m h => absurd (samplePools_lists h).2 (by decide)
  have htriggers : samplePools.Admits ((samplePools.exec (fun _ => (0, 0)) 2 (.spawn 1) {}).getD {})
      (.update .creature 2 7) := by
    show samplePools.Triggers _ .pool 1 2
    rw [Triggers, if_neg (by decide)]
    exact ⟨List.mem_singleton.mpr rfl, by decide +kernel⟩
  have hone := exec_getD (e := .spawn 1) (s := {}) (show (samplePools.exec (fun _ => (0, 0)) 2 _ _).isSome
    = true by decide +kernel)
  have htwo := exec_getD (e := .update .creature 2 7)
    (show (samplePools.exec (fun _ => (0, 0)) 2 _ ((samplePools.exec (fun _ => (0, 0)) 2 (.spawn 1)
      {}).getD {})).isSome = true by decide +kernel)
  have hrun := Runs.cons hopened hone (.cons htriggers htwo .nil)
  exact ⟨_, hrun, by decide +kernel,
    (run_counted samplePools_sound ⟨rfl, rfl, rfl⟩ hrun (by decide +kernel)).1⟩

def questPools : PoolMgr where
  maxLimit := fun p => if p = 1 then 2 else 1
  groups := fun k p =>
    match k, p with
    | .quest, 1 => ⟨[], [⟨11, 0⟩]⟩
    | .quest, 2 => ⟨[], [⟨21, 0⟩]⟩
    | _, _ => {}
  poolSearch := fun _ => none
  questSearch := [(11, 1), (21, 2)]

/-- The quest of pool 2 is taken again for pool 1, which counts it. -/
theorem run_foreign_quest : ∃ s, questPools.Runs (fun _ => (0, 0)) (fun _ _ => True) {}
      [.spawn 2, .spawn 1] s ∧
    (.quest, 21, 1) ∈ s.activated ∧ 21 ∉ (questPools.groups .quest 1).guids ∧
    s.active.getActiveObjectCount 1 ≠ (questPools.activeIn s.active 1).card := by
  have hone := exec_getD (e := .spawn 2) (s := {}) (show (questPools.exec (fun _ => (0, 0)) 1 _ _).isSome
    = true by decide +kernel)
  have htwo := exec_getD (e := .spawn 1) (show (questPools.exec (fun _ => (0, 0)) 1 _
    ((questPools.exec (fun _ => (0, 0)) 1 (.spawn 2) {}).getD {})).isSome = true by decide +kernel)
  exact ⟨_, .cons trivial hone (.cons trivial htwo .nil), by decide +kernel, by decide +kernel,
    by decide +kernel⟩

end PoolMgr

end SkyfireBG
