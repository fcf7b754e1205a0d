import SkyfireBG.Loot.Count

/-!
# SkyfireBG.Loot.Formed

What the lists of the players in a loot name, in every run.

* `Formed`       — free-for-all lists name items that are free for all, conditional lists items with
  conditions, quest lists quest items, and the slots of a player are few.
* `Formed.step`  — each step keeps it for all loots.
* `loots_formed` — it holds in every run.
-/

namespace SkyfireBG

def QuestItemMap.Names (m : QuestItemMap) (items : List LootItem) (kind : LootItem → Prop) : Prop :=
  ∀ guid ql, OrdMap.find? m guid = some ql → (ql.map QuestItem.index).Nodup ∧
    ∀ q ∈ ql, ∃ item, items[q.index]? = some item ∧ kind item

def LootItem.Conditional (item : LootItem) : Prop := item.freeforall = false ∧ item.conditions ≠ []

structure Loot.Formed (loot : Loot) : Prop where
  items : loot.items.length ≤ MAX_NR_LOOT_ITEMS
  slots : ∀ guid ql, loot.playerQuestItems.find? guid = some ql →
    loot.items.length + ql.length ≤ MAX_NR_LOOT_ITEMS
  quest : loot.playerQuestItems.Names loot.questItems fun _ => True
  ffa : loot.playerFFAItems.Names loot.items fun item => item.freeforall = true
  conditional : loot.playerNonQuestNonFFAConditionalItems.Names loot.items LootItem.Conditional

def LootItem.SameKind (i i' : LootItem) : Prop :=
  i'.freeforall = i.freeforall ∧ i'.conditions = i.conditions

def QuestItemMap.SameIndices (m m' : QuestItemMap) : Prop :=
  ∀ guid ql', OrdMap.find? m' guid = some ql' →
    ∃ ql, OrdMap.find? m guid = some ql ∧ ql'.map QuestItem.index = ql.map QuestItem.index

variable {m m' : QuestItemMap} {items items' : List LootItem} {kind : LootItem → Prop}
variable {store : TemplateStore} {w : LootWorld} {loot loot' : Loot} {player : Looter}
variable {l k slot guid : Nat} {ql : List QuestItem}

theorem QuestItemMap.SameIndices.refl (m : QuestItemMap) : m.SameIndices m :=
  fun _ ql hql => ⟨ql, hql, rfl⟩

theorem QuestItemMap.SameIndices.markLooted (m : QuestItemMap) (guid k : Nat) :
    m.SameIndices (m.markLooted guid k) := by
  cases hfind : OrdMap.find? m guid with
  | none =>
    rw [QuestItemMap.markLooted, hfind]
    exact .refl m
  | some ql =>
    intro guid' ql' hql'
    rw [find?_markLooted hfind] at hql'
    split_ifs at hql' with heq
    · subst heq
      rw [← Option.some.inj hql']
      exact ⟨ql, hfind, map_index_modify⟩
    · exact ⟨ql', hql', rfl⟩

theorem QuestItemMap.Names.later (h : m.Names items kind) (hm : m.SameIndices m')
    (hitems : List.Forall₂ LootItem.SameKind items items')
    (hkind : ∀ i i', LootItem.SameKind i i' → kind i → kind i') : m'.Names items' kind := by
  intro guid ql' hql'
  obtain ⟨ql, hql, hmap⟩ := hm guid ql' hql'
  obtain ⟨hnodup, hnames⟩ := h guid ql hql
  refine ⟨hmap ▸ hnodup, fun q' hq' => ?_⟩
  have hindex : q'.index ∈ ql.map QuestItem.index := hmap ▸ List.mem_map_of_mem hq'
  obtain ⟨q, hq, heq⟩ := List.mem_map.mp hindex
  obtain ⟨item, hitem, hk⟩ := hnames q hq
  obtain ⟨item', hitem', hsame⟩ := get?_of_forall₂ hitems hitem
  exact ⟨item', heq ▸ hitem', hkind item item' hsame hk⟩

theorem LootItem.SameKind.refl (i : LootItem) : i.SameKind i := ⟨rfl, rfl⟩

theorem LootItem.SameKind.freeforall {i i' : LootItem} (h : i.SameKind i')
    (hf : i.freeforall = true) : i'.freeforall = true := h.1.trans hf

theorem LootItem.SameKind.conditional {i i' : LootItem} (h : i.SameKind i') (hc : i.Conditional) :
    i'.Conditional := by
  unfold LootItem.Conditional
  rw [h.1, h.2]
  exact hc

theorem sameKind_refl (items : List LootItem) : List.Forall₂ LootItem.SameKind items items :=
  List.forall₂_same.mpr fun i _ => .refl i

theorem ItemsLater.sameKind (h : ItemsLater items items') :
    List.Forall₂ LootItem.SameKind items items' :=
  h.imp fun _ _ hlater => ⟨hlater.freeforall, hlater.conditions⟩

theorem Loot.Formed.later (h : loot.Formed)
    (hitems : List.Forall₂ LootItem.SameKind loot.items loot'.items)
    (hquestItems : List.Forall₂ LootItem.SameKind loot.questItems loot'.questItems)
    (hquest : loot.playerQuestItems.SameIndices loot'.playerQuestItems)
    (hffa : loot.playerFFAItems.SameIndices loot'.playerFFAItems)
    (hcond : loot.playerNonQuestNonFFAConditionalItems.SameIndices
      loot'.playerNonQuestNonFFAConditionalItems) : loot'.Formed where
  items := hitems.length_eq ▸ h.items
  slots := by
    intro guid ql' hql'
    obtain ⟨ql, hql, hmap⟩ := hquest guid ql' hql'
    have hlength := congrArg List.length hmap
    rw [List.length_map, List.length_map] at hlength
    rw [← hitems.length_eq, hlength]
    exact h.slots guid ql hql
  quest := h.quest.later hquest hquestItems fun _ _ _ _ => trivial
  ffa := h.ffa.later hffa hitems fun _ _ hsame hf => hsame.freeforall hf
  conditional := h.conditional.later hcond hitems fun _ _ hsame hc => hsame.conditional hc

theorem Loot.Formed.items_sameKind (h : loot.Formed)
    (hitems : List.Forall₂ LootItem.SameKind loot.items items') (n : UInt8) :
    { loot with items := items', unlootedCount := n }.Formed :=
  h.later hitems (sameKind_refl _) (.refl _) (.refl _) (.refl _)

theorem QuestItemMap.Names.keep (h : m.Names items kind) (hnodup : (ql.map QuestItem.index).Nodup)
    (hnames : ∀ q ∈ ql, ∃ item, items[q.index]? = some item ∧ kind item) :
    (m.keep guid ql).Names items kind := by
  unfold QuestItemMap.keep
  split_ifs
  · exact h
  · intro guid' ql' hql'
    rw [OrdMap.find?_set] at hql'
    split_ifs at hql'
    · rw [← Option.some.inj hql']
      exact ⟨hnodup, hnames⟩
    · exact h guid' ql' hql'

section FillLoop

variable {visit : LootItem → Visit} {full : Nat → Bool}

theorem listAfter_length (v : Visit) (n : Nat) (ql : List QuestItem) :
    ql.length ≤ (listAfter v n ql).length ∧ (listAfter v n ql).length ≤ ql.length + 1 := by
  unfold listAfter
  split_ifs <;> simp

/-- A list that begins shorter than `bound` stops there, when it is full then. -/
theorem fillLoop_length {n bound : Nat} {c : UInt8} (hfull : ∀ j, full j = true ↔ j = bound)
    (h : ql.length < bound) : (fillLoop visit full n items ql c).2.1.length ≤ bound := by
  induction items generalizing n ql c with
  | nil => exact h.le
  | cons i items ih =>
    have hlength := listAfter_length (visit i) n ql
    rw [fillLoop_cons]
    split_ifs with hstop
    · dsimp only
      omega
    · refine ih (Nat.lt_of_le_of_ne (by omega) fun heq => hstop ?_)
      have hlisted : (visit i).listed = true := by
        by_contra hnot
        rw [listAfter, if_neg hnot] at heq
        omega
      rw [hlisted, (hfull _).mpr heq]
      rfl

theorem fillLoop_names (visit : LootItem → Visit) (full : Nat → Bool) (items : List LootItem)
    (c : UInt8) (kind : LootItem → Prop) (hkind : ∀ i, (visit i).listed = true → kind (visit i).item) :
    ((fillLoop visit full 0 items [] c).2.1.map QuestItem.index).Nodup ∧
    ∀ q ∈ (fillLoop visit full 0 items [] c).2.1, ∃ item,
      (fillLoop visit full 0 items [] c).1[q.index]? = some item ∧ kind item := by
  refine ⟨fillLoop_list 0 items [] c (fun q hq => nomatch hq) .nil, fun q hq => ?_⟩
  rcases fillLoop_listed hq with hq | ⟨j, i, hidx, hlisted, hget⟩
  · cases hq
  · rw [Nat.zero_add] at hidx
    exact ⟨_, hidx ▸ hget, hkind i hlisted⟩

end FillLoop

theorem fillFFALoot_formed (h : loot.Formed) : (loot.fillFFALoot store player).Formed := by
  have hitems : List.Forall₂ LootItem.SameKind loot.items (fillLoop (LootItem.visitFFA store player)
      (fun _ => false) 0 loot.items [] loot.unlootedCount).1 :=
    fillLoop_items (fun i => .refl i) .refl _ _ _ _
  obtain ⟨hnodup, hnames⟩ := fillLoop_names (LootItem.visitFFA store player) (fun _ => false)
    loot.items loot.unlootedCount (fun item => item.freeforall = true) fun i hi => by
      simp only [LootItem.visitFFA, Bool.and_eq_true] at hi ⊢
      exact hi.1.2
  have hf := h.items_sameKind hitems 0
  rw [fillFFALoot_eq]
  exact ⟨hf.items, hf.slots, hf.quest, hf.ffa.keep hnodup hnames, hf.conditional⟩

theorem fillQuestLoot_formed (h : loot.Formed) : (loot.fillQuestLoot store player).Formed := by
  by_cases hroom : loot.items.length = MAX_NR_LOOT_ITEMS
  · rwa [Loot.fillQuestLoot, if_pos hroom]
  have hlt : loot.items.length < MAX_NR_LOOT_ITEMS := Nat.lt_of_le_of_ne h.items hroom
  have hitems : List.Forall₂ LootItem.SameKind loot.questItems (fillLoop
      (LootItem.visitQuest store player) (fun k => loot.items.length + k == MAX_NR_LOOT_ITEMS) 0
      loot.questItems [] loot.unlootedCount).1 := by
    refine fillLoop_items (fun i => ?_) .refl _ _ _ _
    unfold LootItem.visitQuest
    split_ifs
    · exact ⟨rfl, rfl⟩
    · exact .refl i
  obtain ⟨hnodup, hnames⟩ := fillLoop_names (LootItem.visitQuest store player)
    (fun k => loot.items.length + k == MAX_NR_LOOT_ITEMS) loot.questItems loot.unlootedCount
    (fun _ => True) fun _ _ => trivial
  have hlength : (fillLoop (LootItem.visitQuest store player)
      (fun k => loot.items.length + k == MAX_NR_LOOT_ITEMS) 0 loot.questItems []
      loot.unlootedCount).2.1.length ≤ MAX_NR_LOOT_ITEMS - loot.items.length := by
    refine fillLoop_length (fun j => ?_) (Nat.sub_pos_of_lt hlt)
    rw [beq_iff_eq]
    omega
  rw [fillQuestLoot_eq hroom]
  refine ⟨h.items, ?_, ?_, h.ffa, h.conditional⟩
  · intro guid ql hql
    dsimp only [QuestItemMap.keep] at hql ⊢
    split_ifs at hql
    · exact h.slots guid ql hql
    · rw [OrdMap.find?_set] at hql
      split_ifs at hql
      · rw [← Option.some.inj hql]
        omega
      · exact h.slots guid ql hql
  · exact (h.quest.later (.refl _) hitems fun _ _ _ _ => trivial).keep hnodup hnames

theorem fillConditional_formed {present : Bool} (h : loot.Formed) :
    (loot.fillNonQuestNonFFAConditionalLoot store player present).Formed := by
  have hitems : List.Forall₂ LootItem.SameKind loot.items (fillLoop
      (LootItem.visitConditional store player present) (fun _ => false) 0 loot.items []
      loot.unlootedCount).1 := by
    refine fillLoop_items (fun i => ?_) .refl _ _ _ _
    unfold LootItem.visitConditional
    split_ifs <;> exact ⟨rfl, rfl⟩
  obtain ⟨hnodup, hnames⟩ := fillLoop_names (LootItem.visitConditional store player present)
    (fun _ => false) loot.items loot.unlootedCount LootItem.Conditional fun i hi => by
      unfold LootItem.visitConditional at hi ⊢
      by_cases hhit : (!i.isLooted && !i.freeforall && i.allowedForPlayer store player) = true
      · rw [if_pos hhit] at hi ⊢
        simp only [Bool.and_eq_true, Bool.not_eq_true'] at hhit
        by_cases hcond : i.conditions ≠ []
        · cases present <;> simp [LootItem.Conditional, LootItem.addAllowedLooter, hcond, hhit.1.2]
        · cases present <;> simp [LootItem.addAllowedLooter, not_not.mp hcond] at hi
      · rw [if_neg hhit] at hi
        cases hi
  have hf := h.items_sameKind hitems 0
  rw [fillConditional_eq]
  exact ⟨hf.items, hf.slots, hf.quest, hf.ffa, hf.conditional.keep hnodup hnames⟩

theorem fillLists_formed {present : Bool} (h : loot.Formed) :
    (loot.fillLists store player present).Formed := by
  have step : ∀ {c : Bool} {a b : Loot}, (a.Formed → b.Formed) → a.Formed →
      (if c then b else a).Formed := by
    intro c a b hab ha
    split_ifs
    · exact hab ha
    · exact ha
  exact step fillConditional_formed (step fillFFALoot_formed (step fillQuestLoot_formed h))

theorem takeSlot_formed (h : loot.Formed) (s : SlotItem) : (loot.takeSlot s guid).Formed := by
  obtain ⟨hquest, hffa⟩ := GivenInv.takeSlot_lists loot s guid
  have hcond : (∃ k, (loot.takeSlot s guid).playerNonQuestNonFFAConditionalItems =
        loot.playerNonQuestNonFFAConditionalItems.markLooted guid k) ∨
      (loot.takeSlot s guid).playerNonQuestNonFFAConditionalItems =
        loot.playerNonQuestNonFFAConditionalItems := by
    cases hq : s.qitem <;> cases hf : s.ffaitem <;> cases hc : s.conditem <;>
      cases hi : s.item.freeforall <;> cases hs : s.quest <;>
      simp [Loot.takeSlot, Loot.markEntryLooted, Loot.markItemLooted, hq, hf, hc, hi, hs]
  obtain ⟨hitems, hquestItems⟩ : ItemsLater loot.items (loot.takeSlot s guid).items ∧
      ItemsLater loot.questItems (loot.takeSlot s guid).questItems := takeSlot_later
  refine h.later hitems.sameKind hquestItems.sameKind ?_ ?_ ?_
  · rw [hquest]
    split
    · exact .markLooted _ _ _
    · exact .refl _
  · rw [hffa]
    split
    · exact .markLooted _ _ _
    · exact .refl _
  · rcases hcond with ⟨k, hk⟩ | hsame
    · rw [hk]
      exact .markLooted _ _ _
    · rw [hsame]
      exact .refl _

/-! ## Steps -/

def LootWorld.Formed (w : LootWorld) : Prop := ∀ l, (w.loots l).Formed

namespace LootWorld.Formed

theorem setLoot (h : w.Formed) (hloot : loot.Formed) : (w.setLoot l loot).Formed := by
  intro l'
  by_cases heq : l' = l
  · subst heq
    rwa [LootWorld.setLoot_loots_same]
  · rw [LootWorld.setLoot_loots_ne heq]
    exact h l'

theorem of_empty (hitems : loot.items.length ≤ MAX_NR_LOOT_ITEMS) (hquest : loot.playerQuestItems = ∅)
    (hffa : loot.playerFFAItems = ∅) (hcond : loot.playerNonQuestNonFFAConditionalItems = ∅) :
    loot.Formed where
  items := hitems
  slots := by
    intro guid ql hql
    rw [hquest] at hql
    cases hql
  quest := by
    intro guid ql hql
    rw [hquest] at hql
    cases hql
  ffa := by
    intro guid ql hql
    rw [hffa] at hql
    cases hql
  conditional := by
    intro guid ql hql
    rw [hcond] at hql
    cases hql

theorem addItems {drops : List (LootStoreItem × LootDraw)}
    (hitems : loot.items.length ≤ MAX_NR_LOOT_ITEMS) (hquest : loot.playerQuestItems = ∅)
    (hffa : loot.playerFFAItems = ∅) (hcond : loot.playerNonQuestNonFFAConditionalItems = ∅) :
    (drops.foldl (Loot.addItem store) loot).Formed := by
  induction drops generalizing loot with
  | nil => exact of_empty hitems hquest hffa hcond
  | cons drop drops ih =>
    rw [List.foldl_cons]
    unfold Loot.addItem
    split_ifs with hneeds hroom hroom
    · exact ih hitems hquest hffa hcond
    · exact ih hitems hquest hffa hcond
    · refine ih ?_ hquest hffa hcond
      rw [List.length_append]
      exact hroom
    · exact ih hitems hquest hffa hcond

theorem storeLootItem (h : w.Formed) {canStore : Bool} :
    (w.storeLootItem l slot guid canStore).Formed := by
  unfold LootWorld.storeLootItem
  split
  · exact h
  · split_ifs
    · exact (h.setLoot (takeSlot_formed (h l) _) :)
    · exact h

theorem fillNotNormalLootFor (h : w.Formed) (p : FillLooter) :
    (LootWorld.fillNotNormalLootFor store l w p).Formed := by
  have hfill : (w.setLoot l ((w.loots l).fillLists store p.looter p.presentAtLooting)).Formed :=
    h.setLoot (fillLists_formed (h l))
  have loop : ∀ (slots : List Nat) (v : LootWorld), v.Formed →
      (slots.foldl (fun w i => if (w.loots l).autoStored store p.looter i then
        w.storeLootItem l i p.looter.guid (p.canStore i) else w) v).Formed := by
    intro slots
    induction slots with
    | nil => exact fun v hv => hv
    | cons i slots ih =>
      intro v hv
      refine ih _ ?_
      dsimp only
      split_ifs
      · exact hv.storeLootItem
      · exact hv
  simp only [LootWorld.fillNotNormalLootFor]
  split_ifs
  · exact hfill
  · exact loop _ _ hfill

theorem fillAll {looters : List FillLooter} (h : w.Formed) :
    (looters.foldl (LootWorld.fillNotNormalLootFor store l) w).Formed := by
  induction looters generalizing w with
  | nil => exact h
  | cons p looters ih => exact ih (h.fillNotNormalLootFor p)

theorem clearLoot (h : w.Formed) : (w.clearLoot l).Formed :=
  h.setLoot (of_empty (Nat.zero_le _) rfl rfl rfl)

theorem fillStart (h : w.Formed) {gold : Nat} {drops : List (LootStoreItem × LootDraw)}
    {owner : Option Nat} : (w.fillStart store l gold drops owner).Formed := by
  have hdrops : (drops.foldl (Loot.addItem store) Loot.clear).Formed :=
    addItems (Nat.zero_le _) rfl rfl rfl
  have hstart : ((w.clearLoot l).setLoot l
      { drops.foldl (Loot.addItem store) Loot.clear with gold := gold }).Formed :=
    h.clearLoot.setLoot
      (hdrops.later (sameKind_refl _) (sameKind_refl _) (.refl _) (.refl _) (.refl _))
  cases owner with
  | none => exact hstart
  | some guid =>
    exact hstart.setLoot
      ((hstart l).later (sameKind_refl _) (sameKind_refl _) (.refl _) (.refl _) (.refl _))

theorem fillLoot (h : w.Formed) {gold : Nat} {drops : List (LootStoreItem × LootDraw)}
    {owner : Option Nat} {looters : List FillLooter} :
    (w.fillLoot store l gold drops owner looters).Formed := by
  have hall : (looters.foldl (LootWorld.fillNotNormalLootFor store l)
      (w.fillStart store l gold drops owner)).Formed := h.fillStart.fillAll
  cases owner with
  | none => exact hall
  | some guid =>
    refine hall.setLoot ((hall l).later ?_ (sameKind_refl _) (.refl _) (.refl _) (.refl _))
    refine ItemsLater.sameKind (List.forall₂_map_right_iff.mpr (List.forall₂_same.mpr fun i _ => ?_))
    exact (CountInv.markUnderthreshold_item _ i).1

theorem openRolls (h : w.Formed) {mask : ItemTemplate → Nat} {info : Nat → RollMember} :
    (w.openRolls store mask l info).Formed := by
  refine h.setLoot ((h l).later ?_ (sameKind_refl _) (.refl _) (.refl _) (.refl _))
  exact ItemsLater.sameKind (rollItems_later.imp fun _ _ => RollTouched.later)

theorem settle (h : w.Formed) {res : RollResult} : (w.settle l slot res).Formed := by
  cases res with
  | give | waste =>
    exact h.setLoot ((h l).later takeItem_later.sameKind (sameKind_refl _) (.refl _) (.refl _)
      (.refl _))
  | unblock =>
    exact h.setLoot ((h l).later unblockItem_later.sameKind (sameKind_refl _) (.refl _) (.refl _)
      (.refl _))
  | nothing => exact h

theorem endRollLoop (h : w.Formed) {env : Nat → RollEnv} {n : Nat} :
    (LootWorld.endRollLoop l env n w).Formed := by
  induction n generalizing w with
  | zero => exact h
  | succ n ih =>
    simp only [LootWorld.endRollLoop]
    split
    · exact h
    · split
      · exact h
      · refine ih ?_
        simp only [LootWorld.countTheRoll]
        split
        · exact h
        · split
          · exact h
          · exact h.settle

theorem masterGive (h : w.Formed) {giver target : Nat} {canStore : Bool} {w' : LootWorld}
    (hw : w.handleLootMasterGive l slot giver target canStore = some w') : w'.Formed := by
  simp only [LootWorld.handleLootMasterGive] at hw
  split at hw
  · cases hw
    exact h
  · split at hw
    · cases hw
      exact h
    · split at hw
      · cases hw
      · split at hw
        · cases hw
          refine h.setLoot ((h l).later (ItemsLater.sameKind ?_) (sameKind_refl _) (.refl _) (.refl _)
            (.refl _))
          refine takeItem_later.trans (.modify (fun _ => ?_) _ _)
          exact ⟨rfl, rfl, rfl, rfl, id⟩
        · cases hw
          exact h

theorem step (h : w.Formed) (hw : RollsWF w) (e : LootEvent) : (w.step store e).Formed := by
  cases e with
  | fillLoot l gold drops owner looters => exact h.fillLoot
  | clearLoot l => exact h.clearLoot
  | groupLoot l info => exact h.openRolls
  | needBeforeGreed l info =>
    simp only [LootWorld.step, LootWorld.needBeforeGreed]
    split
    · exact h.openRolls
    · exact h
  | storeLootItem l slot guid canStore => exact h.storeLootItem
  | masterGive l slot giver target canStore =>
    simp only [LootWorld.step]
    cases hgive : w.handleLootMasterGive l slot giver target canStore with
    | none => exact h
    | some w' => exact h.masterGive hgive
  | lootMoney l =>
    exact h.setLoot ((h l).later (sameKind_refl _) (sameKind_refl _) (.refl _) (.refl _) (.refl _))
  | vote p guid choice env =>
    rw [LootWorld.step]
    rcases LootWorld.countRollVote_cases w p guid choice env with hsame | ⟨k, r, l, hv⟩
    · rwa [hsame]
    · rw [hv.step]
      split
      · exact h.settle
      · exact h
  | endRoll l env => exact h.endRollLoop
  | addMember guid =>
    simp only [LootWorld.step]
    split <;> exact h
  | login guid => exact h
  | logout guid => exact h
  | removeMember guid kick online lfgOutside env =>
    have hloots := (LootWorld.removeMember_rolls hw guid kick online lfgOutside env).2.1
    intro l
    rw [LootWorld.step, hloots]
    exact h l

end LootWorld.Formed

theorem loots_formed {es : List LootEvent}
    (h : Run (LootWorld.step store) (fun _ _ => True) {} es w) : w.Formed :=
  (h.invariant (I := fun w => RollsWF w ∧ w.Formed)
    (fun _ e hi _ => ⟨LootWorld.step_wf hi.1 e, hi.2.step hi.1 e⟩)
    ⟨LootWorld.init_wf, fun _ => LootWorld.Formed.of_empty (Nat.zero_le _) rfl rfl rfl⟩).2

end SkyfireBG
