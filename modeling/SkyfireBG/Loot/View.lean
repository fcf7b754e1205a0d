import SkyfireBG.Loot.Formed

/-!
# SkyfireBG.Loot.View

The loot window: what `operator<<` writes of a `LootView`, against what `LootItemInSlot` gives.

* `written_found` — an item that is written is found in its slot.
* `shown_nodup`   — no slot is written twice.
* `shown_mem`     — an open slot is written, if it is to be shown.
* `view_agrees`   — for all loots in all runs.
-/

namespace SkyfireBG

inductive PermissionTypes where
  | all
  | group
  | master
  | roundRobin
  | owner
  | none
deriving DecidableEq, Repr

inductive LootSlotType where
  | allowLoot
  | rollOngoing
  | master
  | locked
  | owner
deriving DecidableEq, Repr

/-- An item that is written: the slot, before it is cut to eight bits, and its place in the loot. -/
structure ShownItem where
  lootSlot : Nat
  quest : Bool
  index : Nat
  item : LootItem
  slotType : LootSlotType
deriving DecidableEq

def ShownItem.slot (e : ShownItem) : UInt8 := UInt8.ofNat e.lootSlot

structure LootWindow where
  gold : Nat := 0
  itemsShown : UInt8 := 0
  shown : List ShownItem := []

section Definitions

variable (store : TemplateStore) (loot : Loot) (permission : PermissionTypes) (viewer : Looter)

def Loot.slotType (item : LootItem) : Option LootSlotType :=
  if !item.isLooted && !item.freeforall && item.conditions.isEmpty &&
      item.allowedForPlayer store viewer then
    match permission with
    | .group =>
      if item.isBlocked then some .rollOngoing
      else if loot.roundRobinPlayer = 0 ∨ item.isUnderthreshold = false ∨
          viewer.guid = loot.roundRobinPlayer then some .allowLoot
      else none
    | .roundRobin =>
      if loot.roundRobinPlayer ≠ 0 ∧ viewer.guid ≠ loot.roundRobinPlayer then none
      else some .allowLoot
    | .all => some .allowLoot
    | .master => some .master
    | .owner => some .owner
    | .none => none
  else none

def Loot.shownItems : List ShownItem :=
  (List.range loot.items.length).filterMap fun i => loot.items[i]?.bind fun item =>
    (loot.slotType store permission viewer item).map fun slotType =>
      { lootSlot := i, quest := false, index := i, item := item, slotType := slotType }

def PermissionTypes.listType : LootSlotType := if permission = .owner then .owner else .allowLoot

/-- The entry at position `k` in one of the lists of the viewer. -/
def shownEntry (quest : Bool) (vector : List LootItem) (offset : Option Nat) (slotType : LootSlotType)
    (e : QuestItem × Nat) : Option ShownItem :=
  vector[e.1.index]?.bind fun item =>
    if !e.1.isLooted && !item.isLooted then
      some { lootSlot := offset.elim e.1.index fun offset => offset + e.2
             quest := quest, index := e.1.index, item := item, slotType := slotType }
    else none

/-- The loop over one of the lists of the viewer; quest items are counted from `offset` on. -/
def shownList (m : QuestItemMap) (quest : Bool) (vector : List LootItem) (offset : Option Nat) :
    List ShownItem :=
  (OrdMap.find? m viewer.guid).elim [] fun ql =>
    ql.zipIdx.filterMap (shownEntry quest vector offset permission.listType)

def Loot.shown : List ShownItem :=
  loot.shownItems store permission viewer ++
    shownList permission viewer loot.playerQuestItems true loot.questItems (some loot.items.length) ++
    shownList permission viewer loot.playerFFAItems false loot.items none ++
    shownList permission viewer loot.playerNonQuestNonFFAConditionalItems false loot.items none

/-- `operator<<` of a `LootView`. -/
def Loot.view : LootWindow :=
  if permission = .none then {}
  else
    { gold := loot.gold
      itemsShown := UInt8.ofNat (loot.shown store permission viewer).length
      shown := loot.shown store permission viewer }

def Loot.InTurn (item : LootItem) : Prop :=
  match permission with
  | .group => item.isBlocked = true ∨ loot.roundRobinPlayer = 0 ∨ item.isUnderthreshold = false ∨
      viewer.guid = loot.roundRobinPlayer
  | .roundRobin => loot.roundRobinPlayer = 0 ∨ viewer.guid = loot.roundRobinPlayer
  | _ => True

/-- What is found in a slot is to be shown: by an entry of the viewer, or because it is an ordinary
item for the viewer. -/
def Loot.ToShow (s : SlotItem) : Prop :=
  permission ≠ .none ∧ (s.qitem ≠ none ∨ s.ffaitem ≠ none ∨ s.conditem ≠ none ∨
    s.item.freeforall = false ∧ s.item.conditions = [] ∧
      s.item.allowedForPlayer store viewer = true ∧ loot.InTurn permission viewer s.item)

end Definitions

variable {store : TemplateStore} {w : LootWorld} {loot : Loot} {permission : PermissionTypes}
variable {viewer : Looter} {item : LootItem} {e : ShownItem} {s : SlotItem} {slot : Nat}

theorem slotType_isSome (hpermission : permission ≠ .none) :
    (loot.slotType store permission viewer item).isSome = true ↔
      item.isLooted = false ∧ item.freeforall = false ∧ item.conditions = [] ∧
        item.allowedForPlayer store viewer = true ∧ loot.InTurn permission viewer item := by
  have hopen : (!item.isLooted && !item.freeforall && item.conditions.isEmpty &&
      item.allowedForPlayer store viewer) = true ↔ item.isLooted = false ∧ item.freeforall = false ∧
        item.conditions = [] ∧ item.allowedForPlayer store viewer = true := by
    simp only [Bool.and_eq_true, Bool.not_eq_true', List.isEmpty_iff, and_assoc]
  unfold Loot.slotType Loot.InTurn
  by_cases h : (!item.isLooted && !item.freeforall && item.conditions.isEmpty &&
      item.allowedForPlayer store viewer) = true
  · obtain ⟨hlooted, hffa, hcond, hallowed⟩ := hopen.mp h
    rw [if_pos h]
    simp only [hlooted, hffa, hcond, hallowed, true_and]
    cases permission with
    | none => exact absurd rfl hpermission
    | group =>
      dsimp only
      split_ifs with hblocked hturn
      · simp [hblocked]
      · simp [hturn]
      · simp [hblocked, hturn]
    | roundRobin =>
      dsimp only
      split_ifs with hturn
      · simp [hturn]
      · rw [not_and_or, not_not, not_not] at hturn
        simp [hturn]
    | all => exact iff_of_true rfl trivial
    | master => exact iff_of_true rfl trivial
    | owner => exact iff_of_true rfl trivial
  · rw [if_neg h]
    exact iff_of_false Bool.false_ne_true fun hall =>
      h (hopen.mpr ⟨hall.1, hall.2.1, hall.2.2.1, hall.2.2.2.1⟩)

theorem mem_shownItems : e ∈ loot.shownItems store permission viewer ↔
    ∃ item slotType, loot.items[e.lootSlot]? = some item ∧
      loot.slotType store permission viewer item = some slotType ∧
      e = { lootSlot := e.lootSlot, quest := false, index := e.lootSlot, item := item,
            slotType := slotType } := by
  unfold Loot.shownItems
  rw [List.mem_filterMap]
  constructor
  · rintro ⟨i, -, hi⟩
    obtain ⟨item, hitem, hmap⟩ := Option.bind_eq_some_iff.mp hi
    obtain ⟨slotType, htype, rfl⟩ := Option.map_eq_some_iff.mp hmap
    exact ⟨item, slotType, hitem, htype, rfl⟩
  · rintro ⟨item, slotType, hitem, htype, he⟩
    refine ⟨e.lootSlot, List.mem_range.mpr (List.getElem?_eq_some_iff.mp hitem).1, ?_⟩
    rw [hitem, Option.bind_some, htype, Option.map_some, ← he]

theorem mem_shownList {m : QuestItemMap} {quest : Bool} {vector : List LootItem}
    {offset : Option Nat} : e ∈ shownList permission viewer m quest vector offset ↔
      ∃ ql k q item, OrdMap.find? m viewer.guid = some ql ∧ ql[k]? = some q ∧
        q.isLooted = false ∧ vector[q.index]? = some item ∧ item.isLooted = false ∧
        e = { lootSlot := offset.elim q.index fun offset => offset + k
              quest := quest, index := q.index, item := item, slotType := permission.listType } := by
  unfold shownList
  cases hfind : OrdMap.find? m viewer.guid with
  | none => simp
  | some ql =>
    rw [Option.elim_some, List.mem_filterMap]
    constructor
    · rintro ⟨⟨q, k⟩, hmem, he⟩
      obtain ⟨item, hitem, hsome⟩ := Option.bind_eq_some_iff.mp he
      split_ifs at hsome with hopen
      rw [Bool.and_eq_true, Bool.not_eq_true', Bool.not_eq_true'] at hopen
      exact ⟨ql, k, q, item, rfl, List.mem_zipIdx_iff_getElem?.mp hmem, hopen.1, hitem, hopen.2,
        (Option.some.inj hsome).symm⟩
    · rintro ⟨ql', k, q, item, hql, hk, hq, hitem, hlooted, rfl⟩
      rw [← Option.some.inj hql] at hk
      refine ⟨(q, k), List.mem_zipIdx_iff_getElem?.mpr hk, ?_⟩
      rw [shownEntry]
      simp [hitem, hq, hlooted]

theorem lookup_of_nodup {m : QuestItemMap} {guid k : Nat} {q : QuestItem} {ql : List QuestItem}
    (hfind : OrdMap.find? m guid = some ql) (hnodup : (ql.map QuestItem.index).Nodup)
    (hk : ql[k]? = some q) : m.lookup guid q.index = some (k, q) := by
  have hfirst : ql.findIdx? (fun e => e.index == q.index) = some k := by
    obtain ⟨hlt, hq⟩ := List.getElem?_eq_some_iff.mp hk
    refine List.findIdx?_eq_some_iff_getElem.mpr ⟨hlt, by simp [hq], fun j hj => ?_⟩
    intro heq
    have hj' : (ql.map QuestItem.index)[j]? = (ql.map QuestItem.index)[k]? := by
      rw [List.getElem?_map, List.getElem?_map, hk, List.getElem?_eq_getElem (hj.trans hlt),
        Option.map_some, Option.map_some, eq_of_beq heq]
    have hlt' : j < (ql.map QuestItem.index).length := by
      rw [List.length_map]
      exact hj.trans hlt
    exact hj.ne ((List.getElem?_inj hlt' hnodup).mp hj')
  rw [QuestItemMap.lookup, hfind]
  dsimp only
  rw [hfirst]
  dsimp only
  rw [hk]
  rfl

inductive Loot.Written (loot : Loot) (store : TemplateStore) (permission : PermissionTypes)
    (viewer : Looter) (e : ShownItem) : Prop where
  | plain : loot.items[e.lootSlot]? = some e.item → e.quest = false → e.index = e.lootSlot →
      (loot.slotType store permission viewer e.item).isSome = true →
      Written loot store permission viewer e
  | quest {k : Nat} {ql : List QuestItem} {q : QuestItem} :
      loot.playerQuestItems.find? viewer.guid = some ql → ql[k]? = some q →
      q.isLooted = false → loot.questItems[q.index]? = some e.item → e.item.isLooted = false →
      e.quest = true → e.index = q.index → e.lootSlot = loot.items.length + k →
      Written loot store permission viewer e
  | ffa {k : Nat} {ql : List QuestItem} {q : QuestItem} :
      loot.playerFFAItems.find? viewer.guid = some ql → ql[k]? = some q →
      q.isLooted = false → loot.items[q.index]? = some e.item → e.item.isLooted = false →
      e.quest = false → e.index = q.index → e.lootSlot = q.index →
      Written loot store permission viewer e
  | conditional {k : Nat} {ql : List QuestItem} {q : QuestItem} :
      loot.playerNonQuestNonFFAConditionalItems.find? viewer.guid = some ql →
      ql[k]? = some q → q.isLooted = false → loot.items[q.index]? = some e.item →
      e.item.isLooted = false → e.quest = false → e.index = q.index → e.lootSlot = q.index →
      Written loot store permission viewer e

theorem written_of_mem (h : e ∈ loot.shown store permission viewer) :
    loot.Written store permission viewer e := by
  simp only [Loot.shown, List.mem_append] at h
  rcases h with ((h | h) | h) | h
  · obtain ⟨item, slotType, hitem, htype, he⟩ := mem_shownItems.mp h
    rw [he]
    refine .plain hitem rfl rfl ?_
    rw [htype]
    rfl
  · obtain ⟨ql, k, q, item, hql, hk, hq, hitem, hlooted, rfl⟩ := mem_shownList.mp h
    exact .quest hql hk hq hitem hlooted rfl rfl rfl
  · obtain ⟨ql, k, q, item, hql, hk, hq, hitem, hlooted, rfl⟩ := mem_shownList.mp h
    exact .ffa hql hk hq hitem hlooted rfl rfl rfl
  · obtain ⟨ql, k, q, item, hql, hk, hq, hitem, hlooted, rfl⟩ := mem_shownList.mp h
    exact .conditional hql hk hq hitem hlooted rfl rfl rfl

theorem written_found (h : loot.Formed) (hpermission : permission ≠ .none)
    (he : loot.Written store permission viewer e) : e.item.isLooted = false ∧
      ∃ s, loot.lootItemInSlot e.lootSlot viewer.guid = some s ∧ s.quest = e.quest ∧
        s.index = e.index ∧ s.item = e.item ∧ loot.ToShow store permission viewer s := by
  cases he with
  | plain hitem hquest hindex htype =>
    obtain ⟨hlooted, hffa, hcond, hallowed, hturn⟩ := (slotType_isSome hpermission).mp htype
    refine ⟨hlooted, { quest := false, index := e.lootSlot, item := e.item }, ?_, hquest.symm,
      hindex.symm, rfl, hpermission, .inr (.inr (.inr ⟨hffa, hcond, hallowed, hturn⟩))⟩
    simp [Loot.lootItemInSlot, hitem, hffa, hcond, hlooted]
  | @quest k ql q hql hk hq hitem hlooted hquest hindex hslot =>
    refine ⟨hlooted, { quest := true, index := q.index, item := e.item, qitem := some k }, ?_,
      hquest.symm, hindex.symm, rfl, hpermission, .inl (Option.some_ne_none k)⟩
    simp [Loot.lootItemInSlot, hql, hslot, hk, hitem, hq]
  | @ffa k ql q hql hk hq hitem hlooted hquest hindex hslot =>
    obtain ⟨hnodup, hnames⟩ := h.ffa _ _ hql
    obtain ⟨item, hitem', hffa⟩ := hnames q (List.mem_of_getElem? hk)
    rw [hitem] at hitem'
    cases hitem'
    refine ⟨hlooted, { quest := false, index := q.index, item := e.item, ffaitem := some k }, ?_,
      hquest.symm, hindex.symm, rfl, hpermission, .inr (.inl (Option.some_ne_none k))⟩
    simp [Loot.lootItemInSlot, hslot, hitem, hffa, lookup_of_nodup hql hnodup hk, hq]
  | @conditional k ql q hql hk hq hitem hlooted hquest hindex hslot =>
    obtain ⟨hnodup, hnames⟩ := h.conditional _ _ hql
    obtain ⟨item, hitem', hffa, hcond⟩ := hnames q (List.mem_of_getElem? hk)
    rw [hitem] at hitem'
    cases hitem'
    refine ⟨hlooted, { quest := false, index := q.index, item := e.item, conditem := some k }, ?_,
      hquest.symm, hindex.symm, rfl, hpermission, .inr (.inr (.inl (Option.some_ne_none k)))⟩
    simp [Loot.lootItemInSlot, hslot, hitem, hffa, hcond, lookup_of_nodup hql hnodup hk, hq]

/-! ## Slots -/

theorem slots_sublist {α : Type} {f : α → Option ShownItem} {g : α → Nat} {l : List α}
    (h : ∀ a e, f a = some e → e.lootSlot = g a) :
    ((l.filterMap f).map ShownItem.lootSlot).Sublist (l.map g) := by
  rw [List.map_filterMap, ← List.filterMap_eq_map]
  refine filterMap_sublist fun a => ?_
  cases hf : f a with
  | none => exact .inl rfl
  | some e => exact .inr (congrArg some (h a e hf))

theorem shownItems_nodup :
    ((loot.shownItems store permission viewer).map ShownItem.lootSlot).Nodup := by
  have hsub : ((loot.shownItems store permission viewer).map ShownItem.lootSlot).Sublist
      ((List.range loot.items.length).map id) := by
    refine slots_sublist fun i e he => ?_
    obtain ⟨item, -, hmap⟩ := Option.bind_eq_some_iff.mp he
    obtain ⟨slotType, -, rfl⟩ := Option.map_eq_some_iff.mp hmap
    rfl
  rw [List.map_id] at hsub
  exact hsub.nodup List.nodup_range

theorem shownList_nodup {m : QuestItemMap} {vector : List LootItem} {offset : Option Nat}
    {quest : Bool} (h : ∀ ql, OrdMap.find? m viewer.guid = some ql → offset = none →
      (ql.map QuestItem.index).Nodup) :
    ((shownList permission viewer m quest vector offset).map ShownItem.lootSlot).Nodup := by
  unfold shownList
  cases hfind : OrdMap.find? m viewer.guid with
  | none => exact .nil
  | some ql =>
    have hsub : ((ql.zipIdx.filterMap (shownEntry quest vector offset permission.listType)).map
        ShownItem.lootSlot).Sublist
          (ql.zipIdx.map fun e => offset.elim e.1.index fun offset => offset + e.2) := by
      refine slots_sublist fun e shown hshown => ?_
      obtain ⟨item, -, hsome⟩ := Option.bind_eq_some_iff.mp hshown
      split_ifs at hsome
      rw [← Option.some.inj hsome]
    refine hsub.nodup ?_
    cases offset with
    | none =>
      have hmap : (ql.zipIdx.map Prod.fst).map QuestItem.index = ql.map QuestItem.index := by
        rw [List.zipIdx_map_fst]
      rw [List.map_map] at hmap
      exact hmap ▸ h ql hfind rfl
    | some offset =>
      have hmap : (ql.zipIdx.map Prod.snd).map (offset + ·) =
          (List.range' 0 ql.length).map (offset + ·) := by
        rw [List.zipIdx_map_snd]
      rw [List.map_map] at hmap
      exact hmap ▸ List.Nodup.map (fun _ _ => Nat.add_left_cancel) List.nodup_range'

theorem slot_of_mem_shownItems (he : e ∈ loot.shownItems store permission viewer) : ∃ item,
    loot.items[e.lootSlot]? = some item ∧ item.freeforall = false ∧ item.conditions = [] := by
  obtain ⟨item, slotType, hitem, htype, -⟩ := mem_shownItems.mp he
  refine ⟨item, hitem, ?_⟩
  unfold Loot.slotType at htype
  by_cases h : (!item.isLooted && !item.freeforall && item.conditions.isEmpty &&
      item.allowedForPlayer store viewer) = true
  · simp only [Bool.and_eq_true, Bool.not_eq_true', List.isEmpty_iff] at h
    exact ⟨h.1.1.2, h.1.2⟩
  · rw [if_neg h] at htype
    cases htype

theorem slot_of_mem_quest {vector : List LootItem}
    (he : e ∈ shownList permission viewer loot.playerQuestItems true vector
      (some loot.items.length)) : loot.items[e.lootSlot]? = none := by
  obtain ⟨ql, k, q, item, -, -, -, -, -, rfl⟩ := mem_shownList.mp he
  exact List.getElem?_eq_none (Nat.le_add_right _ _)

theorem slot_of_mem_list {m : QuestItemMap} {kind : LootItem → Prop} {quest : Bool}
    (h : m.Names loot.items kind)
    (he : e ∈ shownList permission viewer m quest loot.items none) :
    ∃ item, loot.items[e.lootSlot]? = some item ∧ kind item := by
  obtain ⟨ql, k, q, item, hql, hk, -, -, -, rfl⟩ := mem_shownList.mp he
  exact (h _ _ hql).2 q (List.mem_of_getElem? hk)

theorem slots_disjoint {es es' : List ShownItem} {P Q : LootItem → Prop}
    (h : ∀ e ∈ es, ∃ item, loot.items[e.lootSlot]? = some item ∧ P item)
    (h' : ∀ e ∈ es', ∃ item, loot.items[e.lootSlot]? = some item ∧ Q item)
    (hne : ∀ item, P item → ¬Q item) {a : Nat} (ha : a ∈ es.map ShownItem.lootSlot) :
    ∀ b ∈ es'.map ShownItem.lootSlot, a ≠ b := by
  intro b hb hab
  obtain ⟨e, he, rfl⟩ := List.mem_map.mp ha
  obtain ⟨e', he', heq⟩ := List.mem_map.mp hb
  obtain ⟨item, hitem, hP⟩ := h e he
  obtain ⟨item', hitem', hQ⟩ := h' e' he'
  rw [heq, ← hab, hitem] at hitem'
  exact hne item hP (Option.some.inj hitem' ▸ hQ)

theorem questSlots_disjoint {es es' : List ShownItem} {P : LootItem → Prop}
    (h : ∀ e ∈ es, ∃ item, loot.items[e.lootSlot]? = some item ∧ P item)
    (h' : ∀ e ∈ es', loot.items[e.lootSlot]? = none) {a : Nat}
    (ha : a ∈ es.map ShownItem.lootSlot) : ∀ b ∈ es'.map ShownItem.lootSlot, a ≠ b := by
  intro b hb hab
  obtain ⟨e, he, rfl⟩ := List.mem_map.mp ha
  obtain ⟨e', he', heq⟩ := List.mem_map.mp hb
  obtain ⟨item, hitem, -⟩ := h e he
  have hnone := h' e' he'
  rw [heq, ← hab, hitem] at hnone
  cases hnone

theorem shown_nodup (h : loot.Formed) :
    ((loot.shown store permission viewer).map ShownItem.lootSlot).Nodup := by
  have hplain : ∀ e ∈ loot.shownItems store permission viewer, _ := fun e => slot_of_mem_shownItems
  have hffa : ∀ e ∈ shownList permission viewer loot.playerFFAItems false loot.items none, _ :=
    fun e => slot_of_mem_list h.ffa
  have hcond : ∀ e ∈ shownList permission viewer loot.playerNonQuestNonFFAConditionalItems false
      loot.items none, _ := fun e => slot_of_mem_list h.conditional
  unfold Loot.shown
  simp only [List.map_append]
  refine List.nodup_append.mpr ⟨List.nodup_append.mpr ⟨List.nodup_append.mpr ⟨shownItems_nodup,
    shownList_nodup (fun _ _ hnone => nomatch hnone), ?_⟩,
    shownList_nodup (fun ql hql _ => (h.ffa _ _ hql).1), ?_⟩,
    shownList_nodup (fun ql hql _ => (h.conditional _ _ hql).1), ?_⟩
  · intro a ha
    exact questSlots_disjoint hplain (fun e => slot_of_mem_quest) ha
  · intro a ha b hb
    rcases List.mem_append.mp ha with ha | ha
    · exact slots_disjoint hplain hffa (fun item hp hf => by simp [hp.1] at hf) ha b hb
    · exact (questSlots_disjoint hffa (fun e => slot_of_mem_quest) hb a ha).symm
  · intro a ha b hb
    rcases List.mem_append.mp ha with ha | ha
    · rcases List.mem_append.mp ha with ha | ha
      · exact slots_disjoint hplain hcond (fun item hp hc => hc.2 hp.2) ha b hb
      · exact (questSlots_disjoint hcond (fun e => slot_of_mem_quest) hb a ha).symm
    · exact slots_disjoint hffa hcond (fun item hf hc => by simp [hc.1] at hf) ha b hb

theorem lootSlot_lt (h : loot.Formed) (he : loot.Written store permission viewer e) :
    e.lootSlot < 2 * MAX_NR_LOOT_ITEMS := by
  have hitems := h.items
  have hlt : ∀ {item}, loot.items[e.lootSlot]? = some item → e.lootSlot < loot.items.length :=
    fun hitem => (List.getElem?_eq_some_iff.mp hitem).1
  cases he with
  | plain hitem => have := hlt hitem; omega
  | quest hql hk _ _ _ _ _ hslot =>
    have hslots := h.slots _ _ hql
    have hk' := (List.getElem?_eq_some_iff.mp hk).1
    omega
  | ffa _ _ _ hitem _ _ _ hslot => have := hlt (hslot ▸ hitem); omega
  | conditional _ _ _ hitem _ _ _ hslot => have := hlt (hslot ▸ hitem); omega

theorem slot_toNat (h : loot.Formed) (he : loot.Written store permission viewer e) :
    e.slot.toNat = e.lootSlot := by
  have hlt := lootSlot_lt h he
  rw [ShownItem.slot, UInt8.toNat_ofNat']
  unfold MAX_NR_LOOT_ITEMS at hlt
  omega

theorem shown_length (h : loot.Formed) :
    (loot.shown store permission viewer).length ≤ 2 * MAX_NR_LOOT_ITEMS := by
  have hsub : (loot.shown store permission viewer).map ShownItem.lootSlot ⊆
      List.range (2 * MAX_NR_LOOT_ITEMS) := by
    intro a ha
    obtain ⟨e, he, rfl⟩ := List.mem_map.mp ha
    exact List.mem_range.mpr (lootSlot_lt h (written_of_mem he))
  have hle := (List.Nodup.subperm (shown_nodup h) hsub).length_le
  rwa [List.length_map, List.length_range] at hle

theorem questSlot_found (hnone : loot.items[slot]? = none)
    (hs : loot.lootItemInSlot slot viewer.guid = some s) : ∃ ql q,
      loot.playerQuestItems.find? viewer.guid = some ql ∧
      ql[slot - loot.items.length]? = some q ∧ q.isLooted = false ∧
      loot.questItems[q.index]? = some s.item ∧ s.quest = true ∧ s.index = q.index := by
  simp only [Loot.lootItemInSlot, hnone] at hs
  split at hs
  · cases hs
  · rename_i ql hql
    split at hs
    · cases hs
    · rename_i q hq
      split at hs
      · cases hs
      · rename_i item hitem
        split_ifs at hs with hl
        cases hs
        exact ⟨ql, q, hql, hq, by simpa using hl, hitem, rfl, rfl⟩

theorem itemSlot_found (hitem : loot.items[slot]? = some item)
    (hs : loot.lootItemInSlot slot viewer.guid = some s) : s.qitem = none := by
  simp only [Loot.lootItemInSlot, hitem] at hs
  grind

theorem shownList_mem (permission : PermissionTypes) (quest : Bool) (offset : Option Nat)
    {m : QuestItemMap} {vector : List LootItem} {k : Nat} {q : QuestItem} {ql : List QuestItem}
    (hql : OrdMap.find? m viewer.guid = some ql) (hk : ql[k]? = some q) (hq : q.isLooted = false)
    (hitem : vector[q.index]? = some item) (hlooted : item.isLooted = false) :
    ∃ e ∈ shownList permission viewer m quest vector offset, e.quest = quest ∧
      e.index = q.index ∧ e.item = item ∧
      e.lootSlot = offset.elim q.index fun offset => offset + k :=
  ⟨_, mem_shownList.mpr ⟨ql, k, q, item, hql, hk, hq, hitem, hlooted, rfl⟩, rfl, rfl, rfl, rfl⟩

theorem shown_mem (hs : loot.lootItemInSlot slot viewer.guid = some s)
    (hlooted : s.item.isLooted = false) (hshow : loot.ToShow store permission viewer s) :
    ∃ e ∈ loot.shown store permission viewer, e.quest = s.quest ∧ e.index = s.index ∧
      e.item = s.item ∧ e.lootSlot = slot := by
  simp only [Loot.shown, List.mem_append]
  cases hslot : loot.items[slot]? with
  | none =>
    obtain ⟨ql, q, hql, hk, hq, hitem, hquest, hindex⟩ := questSlot_found hslot hs
    obtain ⟨e, he, hequest, heindex, heitem, helootSlot⟩ := shownList_mem permission true
      (some loot.items.length) hql hk hq hitem hlooted
    have hle := List.getElem?_eq_none_iff.mp hslot
    rw [Option.elim_some, Nat.add_sub_cancel' hle] at helootSlot
    exact ⟨e, .inl (.inl (.inr he)), hequest.trans hquest.symm, heindex.trans hindex.symm, heitem,
      helootSlot⟩
  | some item =>
    have hqitem := itemSlot_found hslot hs
    cases lootItemInSlot_found hs with
    | quest => cases hqitem
    | ffa hitem hffa hlookup hq =>
      obtain ⟨ql, hql, hk, rfl⟩ := QuestItemMap.lookup_some hlookup
      obtain ⟨e, he, hequest, heindex, heitem, helootSlot⟩ := shownList_mem
        permission false none hql hk hq hitem hlooted
      exact ⟨e, .inl (.inr he), hequest, heindex, heitem, helootSlot⟩
    | conditional hitem hffa hcond hlookup hq =>
      obtain ⟨ql, hql, hk, rfl⟩ := QuestItemMap.lookup_some hlookup
      obtain ⟨e, he, hequest, heindex, heitem, helootSlot⟩ := shownList_mem
        permission false none hql hk hq hitem hlooted
      exact ⟨e, .inr he, hequest, heindex, heitem, helootSlot⟩
    | @plain item hitem hopen =>
      obtain ⟨hpermission, hkind⟩ := hshow
      have hplain : item.freeforall = false ∧ item.conditions = [] ∧
          item.allowedForPlayer store viewer = true ∧ loot.InTurn permission viewer item := by
        rcases hkind with hq | hf | hc | hplain
        · exact absurd rfl hq
        · exact absurd rfl hf
        · exact absurd rfl hc
        · exact hplain
      obtain ⟨slotType, htype⟩ :=
        Option.isSome_iff_exists.mp ((slotType_isSome hpermission).mpr ⟨hopen, hplain⟩)
      let e : ShownItem := { lootSlot := slot, quest := false, index := slot, item := item,
                             slotType := slotType }
      have he : e ∈ loot.shownItems store permission viewer :=
        mem_shownItems.mpr ⟨item, slotType, hitem, htype, rfl⟩
      exact ⟨e, .inl (.inl (.inl he)), rfl, rfl, rfl, rfl⟩

/-- The window against `LootItemInSlot`. -/
structure Loot.ViewAgrees (loot : Loot) (store : TemplateStore) (permission : PermissionTypes)
    (viewer : Looter) : Prop where
  resolves : ∀ e ∈ (loot.view store permission viewer).shown, ∃ s,
    loot.lootItemInSlot e.slot.toNat viewer.guid = some s ∧ s.quest = e.quest ∧
      s.index = e.index ∧ s.item = e.item ∧ s.item.isLooted = false ∧
      loot.ToShow store permission viewer s
  nodup : ((loot.view store permission viewer).shown.map ShownItem.slot).Nodup
  count : (loot.view store permission viewer).itemsShown.toNat =
    (loot.view store permission viewer).shown.length
  shown : ∀ slot s, loot.lootItemInSlot slot viewer.guid = some s → s.item.isLooted = false →
    loot.ToShow store permission viewer s → ∃ e ∈ (loot.view store permission viewer).shown,
      e.slot.toNat = slot ∧ e.quest = s.quest ∧ e.index = s.index ∧ e.item = s.item

theorem Loot.Formed.viewAgrees (h : loot.Formed) (permission : PermissionTypes) (viewer : Looter) :
    loot.ViewAgrees store permission viewer := by
  by_cases hpermission : permission = .none
  · have hview : loot.view store permission viewer = {} := if_pos hpermission
    refine ⟨?_, ?_, ?_, fun slot s _ _ hshow => absurd hpermission hshow.1⟩
    · rw [hview]
      exact fun e he => nomatch he
    · rw [hview]
      exact .nil
    · rw [hview]
      rfl
  have hshown : (loot.view store permission viewer).shown = loot.shown store permission viewer := by
    rw [Loot.view, if_neg hpermission]
  refine ⟨fun e he => ?_, ?_, ?_, fun slot s hs hlooted hshow => ?_⟩
  · rw [hshown] at he
    have hwritten := written_of_mem he
    obtain ⟨hlooted, s, hs, hquest, hindex, hitem, hshow⟩ := written_found h hpermission hwritten
    rw [slot_toNat h hwritten]
    exact ⟨s, hs, hquest, hindex, hitem, hitem ▸ hlooted, hshow⟩
  · have heq : ((loot.shown store permission viewer).map ShownItem.slot).map UInt8.toNat =
        (loot.shown store permission viewer).map ShownItem.lootSlot := by
      rw [List.map_map]
      exact List.map_congr_left fun e he => slot_toNat h (written_of_mem he)
    rw [hshown]
    exact .of_map UInt8.toNat (heq ▸ shown_nodup h)
  · have hlength : (loot.shown store permission viewer).length ≤ 2 * MAX_NR_LOOT_ITEMS :=
      shown_length h
    unfold MAX_NR_LOOT_ITEMS at hlength
    rw [hshown, Loot.view, if_neg hpermission, UInt8.toNat_ofNat']
    omega
  · obtain ⟨e, he, hquest, hindex, hitem, hslot⟩ := shown_mem hs hlooted hshow
    rw [hshown]
    exact ⟨e, he, (slot_toNat h (written_of_mem he)).trans hslot, hquest, hindex, hitem⟩

/-- In every run the window of a loot agrees with `LootItemInSlot`, whoever has the turn to loot. -/
theorem view_agrees {es : List LootEvent}
    (hrun : Run (LootWorld.step store) (fun _ _ => True) {} es w) (l roundRobinPlayer : Nat)
    (permission : PermissionTypes) (viewer : Looter) :
    { w.loots l with roundRobinPlayer := roundRobinPlayer }.ViewAgrees store permission viewer := by
  have h : { w.loots l with roundRobinPlayer := roundRobinPlayer }.Formed :=
    (loots_formed hrun l).later (sameKind_refl _) (sameKind_refl _) (.refl _) (.refl _) (.refl _)
  exact h.viewAgrees permission viewer

theorem view_agrees_sample :
    (Admitted (LootWorld.step sampleStore) (fun _ _ => True) {} sampleTakes) ∧
    { (sampleTakes.foldl (LootWorld.step sampleStore) {}).loots 0 with
      roundRobinPlayer := 1 }.ViewAgrees sampleStore .group (sampleLooter 2) := by
  have hadmitted : Admitted (LootWorld.step sampleStore) (fun _ _ => True) {} sampleTakes :=
    ⟨trivial, trivial, trivial, trivial, trivial, trivial⟩
  exact ⟨hadmitted, view_agrees hadmitted.run 0 1 .group (sampleLooter 2)⟩

/-- The second player may take an item that is shown to the first one only. -/
theorem view_hides_turn : ¬ ∀ (es : List LootEvent) (permission : PermissionTypes) (viewer : Looter)
    (slot : Nat) (s : SlotItem),
    ((es.foldl (LootWorld.step sampleStore) {}).loots 0).lootItemInSlot slot viewer.guid = some s →
      s.item.isLooted = false → s.item.isBlocked = false →
      s.item.allowedForPlayer sampleStore viewer = true →
      ∃ e ∈ (((es.foldl (LootWorld.step sampleStore) {}).loots 0).view sampleStore permission
        viewer).shown, e.slot.toNat = slot := by
  intro h
  have hshown := h [sampleFill] .roundRobin (sampleLooter 2) 2
    { quest := false, index := 2
      item := { itemid := 9, allowedGUIDs := [2, 1], isUnderthreshold := true } }
    (by decide) rfl rfl (by decide)
  revert hshown
  decide

end SkyfireBG
