import SkyfireBG.Group.RollStep

/-!
# SkyfireBG.Loot.ItemStep

What one step of the loot system does to the items of a loot that it neither fills nor clears: the
items stay in their places and only their flags move, and an item once looted stays looted.

* `step_kept` — the items after a step, one by one.
-/

namespace SkyfireBG

structure LootItem.Later (i i' : LootItem) : Prop where
  itemid : i'.itemid = i.itemid
  conditions : i'.conditions = i.conditions
  freeforall : i'.freeforall = i.freeforall
  counted : i'.isCounted = i.isCounted
  looted : i.isLooted = true → i'.isLooted = true

theorem LootItem.Later.refl (i : LootItem) : i.Later i := ⟨rfl, rfl, rfl, rfl, id⟩

theorem LootItem.Later.trans {a b c : LootItem} (h : a.Later b) (h' : b.Later c) : a.Later c :=
  ⟨h'.itemid.trans h.itemid, h'.conditions.trans h.conditions, h'.freeforall.trans h.freeforall,
    h'.counted.trans h.counted, fun hl => h'.looted (h.looted hl)⟩

abbrev ItemsLater : List LootItem → List LootItem → Prop := List.Forall₂ LootItem.Later

theorem ItemsLater.refl (is : List LootItem) : ItemsLater is is :=
  List.forall₂_same.mpr (fun i _ => .refl i)

theorem ItemsLater.trans {a b c : List LootItem} (h : ItemsLater a b) (h' : ItemsLater b c) :
    ItemsLater a c := by
  induction h generalizing c with
  | nil => cases h'; exact .nil
  | cons hx _ ih => cases h' with
    | cons hy ht => exact .cons (hx.trans hy) (ih ht)

theorem ItemsLater.modify {f : LootItem → LootItem} (hf : ∀ i : LootItem, i.Later (f i))
    (is : List LootItem)
    (k : Nat) : ItemsLater is (is.modify k f) := by
  induction is generalizing k with
  | nil => simp
  | cons i is ih => cases k with
    | zero => exact .cons (hf i) (ItemsLater.refl is)
    | succ k => exact .cons (.refl i) (ih k)

/-! ## The single operations -/

section Ops

variable {store : TemplateStore} {w : LootWorld} {l l' k slot guid : Nat} {loot : Loot}

theorem takeItem_later : ItemsLater loot.items (loot.takeItem k).items :=
  ItemsLater.modify (f := fun i => { i with isLooted := true })
    (fun _ => ⟨rfl, rfl, rfl, rfl, fun _ => rfl⟩) _ _

theorem unblockItem_later : ItemsLater loot.items (loot.unblockItem k).items :=
  ItemsLater.modify (f := fun i => { i with isBlocked := false })
    (fun _ => ⟨rfl, rfl, rfl, rfl, id⟩) _ _

theorem markEntry_items (loot : Loot) (s : SlotItem) (guid : Nat) :
    (loot.markEntryLooted s guid).items = loot.items ∧
    (loot.markEntryLooted s guid).questItems = loot.questItems ∧
    (loot.markEntryLooted s guid).unlootedCount = loot.unlootedCount := by
  simp only [Loot.markEntryLooted]
  split
  · exact ⟨rfl, rfl, rfl⟩
  · split
    · exact ⟨rfl, rfl, rfl⟩
    · split <;> exact ⟨rfl, rfl, rfl⟩

theorem takeSlot_items (loot : Loot) (s : SlotItem) (guid : Nat) :
    (loot.takeSlot s guid).items = (if s.item.freeforall || s.quest then loot.items
      else loot.items.modify s.index (fun i => { i with isLooted := true })) ∧
    (loot.takeSlot s guid).questItems = (if s.item.freeforall || !s.quest then loot.questItems
      else loot.questItems.modify s.index (fun i => { i with isLooted := true })) := by
  obtain ⟨h1, h2, _⟩ := markEntry_items loot s guid
  cases hf : s.item.freeforall <;> cases hq : s.quest <;>
    simp [Loot.takeSlot, Loot.markItemLooted, hf, hq, h1, h2]

theorem takeSlot_later {s : SlotItem} : ItemsLater loot.items (loot.takeSlot s guid).items ∧
    ItemsLater loot.questItems (loot.takeSlot s guid).questItems := by
  have hm : ∀ i : LootItem, i.Later { i with isLooted := true } :=
    fun _ => ⟨rfl, rfl, rfl, rfl, fun _ => rfl⟩
  obtain ⟨h1, h2⟩ := takeSlot_items loot s guid
  rw [h1, h2]
  constructor
  · split
    · exact .refl _
    · exact .modify hm _ _
  · split
    · exact .refl _
    · exact .modify hm _ _

theorem RollTouched.later {i i' : LootItem} (h : RollTouched i i') : i.Later i' := by
  cases h with
  | same => exact .refl i
  | blocked => exact ⟨rfl, rfl, rfl, rfl, id⟩
  | under => exact ⟨rfl, rfl, rfl, rfl, id⟩

theorem rollItems_later {g : Group} {info : Nat → RollMember} {mask : ItemTemplate → Nat}
    {slot guid : Nat} {items : List LootItem} :
    List.Forall₂ RollTouched items (rollItems store g info mask l slot guid items).1 := by
  induction items generalizing slot guid with
  | nil => exact .nil
  | cons i is ih => exact .cons (rollItem_item _ _ _) ih

/-- Loot `l` in two worlds: the same items, later. -/
structure LootLater (a b : Loot) : Prop where
  items : ItemsLater a.items b.items
  questItems : ItemsLater a.questItems b.questItems

theorem LootLater.refl (a : Loot) : LootLater a a := ⟨.refl _, .refl _⟩

theorem LootLater.trans {a b c : Loot} (h : LootLater a b) (h' : LootLater b c) : LootLater a c :=
  ⟨h.items.trans h'.items, h.questItems.trans h'.questItems⟩

theorem setLoot_later (h : LootLater (w.loots l') loot) :
    LootLater (w.loots l) ((w.setLoot l' loot).loots l) := by
  by_cases hl : l = l'
  · subst hl; simpa using h
  · rw [LootWorld.setLoot_loots_ne hl]; exact .refl _

theorem settle_later {res : RollResult} :
    LootLater (w.loots l) ((w.settle l' slot res).loots l) := by
  cases res with
  | give | waste => exact setLoot_later ⟨takeItem_later, .refl _⟩
  | unblock => exact setLoot_later ⟨unblockItem_later, .refl _⟩
  | nothing => exact .refl _

theorem countTheRoll_later (w : LootWorld) (l k : Nat) (env : RollEnv) :
    LootLater (w.loots l) ((w.countTheRoll k env).loots l) := by
  simp only [LootWorld.countTheRoll]
  split
  · exact .refl _
  · split
    · exact .refl _
    · exact settle_later

theorem endRollLoop_later {env : Nat → RollEnv} {n : Nat} :
    LootLater (w.loots l) ((LootWorld.endRollLoop l' env n w).loots l) := by
  induction n generalizing w with
  | zero => exact .refl _
  | succ n ih =>
    simp only [LootWorld.endRollLoop]
    split
    · exact .refl _
    · split
      · exact .refl _
      · exact (countTheRoll_later _ _ _ _).trans ih

theorem storeLootItem_later {b : Bool} :
    LootLater (w.loots l) ((w.storeLootItem l' slot guid b).loots l) := by
  simp only [LootWorld.storeLootItem]
  split
  · exact .refl _
  · split
    · exact setLoot_later ⟨takeSlot_later.1, takeSlot_later.2⟩
    · exact .refl _

theorem openRolls_later {mask : ItemTemplate → Nat} {info : Nat → RollMember} :
    LootLater (w.loots l) ((w.openRolls store mask l' info).loots l) :=
  setLoot_later ⟨rollItems_later.imp (fun _ _ => RollTouched.later), .refl _⟩

theorem masterGive_later {giver target : Nat} {b : Bool} {w' : LootWorld}
    (h : w.handleLootMasterGive l' slot giver target b = some w') :
    LootLater (w.loots l) (w'.loots l) := by
  simp only [LootWorld.handleLootMasterGive] at h
  split at h
  · cases h; exact .refl _
  · split at h
    · cases h; exact .refl _
    · split at h
      · cases h
      · split at h
        · cases h
          refine setLoot_later ⟨takeItem_later.trans (.modify (fun _ => ?_) _ _), .refl _⟩
          exact ⟨rfl, rfl, rfl, rfl, id⟩
        · cases h; exact .refl _

end Ops

/-- The event makes loot `l` a new one. -/
def LootEvent.refills (l : Nat) : LootEvent → Prop
  | .fillLoot l' _ _ _ _ => l' = l
  | .clearLoot l' => l' = l
  | _ => False

section Step

variable {store : TemplateStore} {w : LootWorld} {l : Nat}

theorem fillNotNormalLootFor_ne {l' : Nat} (hl : l ≠ l') (q : FillLooter) :
    (LootWorld.fillNotNormalLootFor store l' w q).loots l = w.loots l := by
  have loop : ∀ (is : List Nat) (v : LootWorld),
      (is.foldl (fun w i => if (w.loots l').autoStored store q.looter i then
        w.storeLootItem l' i q.looter.guid (q.canStore i) else w) v).loots l = v.loots l := by
    intro is
    induction is with
    | nil => intro v; rfl
    | cons i is ih =>
      intro v
      rw [List.foldl_cons, ih]
      split
      · simp only [LootWorld.storeLootItem]
        split
        · rfl
        · split
          · exact LootWorld.setLoot_loots_ne hl
          · rfl
      · rfl
  simp only [LootWorld.fillNotNormalLootFor]
  split
  · exact LootWorld.setLoot_loots_ne hl
  · rw [loop]
    exact LootWorld.setLoot_loots_ne hl

theorem fillAll_ne {l' : Nat} (hl : l ≠ l') (qs : List FillLooter) :
    (qs.foldl (LootWorld.fillNotNormalLootFor store l') w).loots l = w.loots l := by
  induction qs generalizing w with
  | nil => rfl
  | cons q qs ih => rw [List.foldl_cons, ih, fillNotNormalLootFor_ne hl]

theorem clearLoot_ne {l' : Nat} (hl : l ≠ l') : (w.clearLoot l').loots l = w.loots l :=
  LootWorld.setLoot_loots_ne hl

theorem fillLoot_ne {l' gold : Nat} {drops : List (LootStoreItem × LootDraw)} {owner : Option Nat}
    {looters : List FillLooter} (hl : l ≠ l') :
    (w.fillLoot store l' gold drops owner looters).loots l = w.loots l := by
  cases owner <;>
    simp only [LootWorld.fillLoot, LootWorld.setLoot_loots_ne hl, fillAll_ne hl, clearLoot_ne hl]

theorem step_kept (hw : RollsWF w) {e : LootEvent} (he : ¬ e.refills l) :
    LootLater (w.loots l) ((w.step store e).loots l) := by
  cases e with
  | fillLoot l' gold drops owner looters =>
    rw [LootWorld.step, fillLoot_ne (fun h => he h.symm)]
    exact .refl _
  | clearLoot l' =>
    rw [LootWorld.step, clearLoot_ne (fun h => he h.symm)]
    exact .refl _
  | groupLoot l' info => exact openRolls_later
  | needBeforeGreed l' info =>
    simp only [LootWorld.step, LootWorld.needBeforeGreed]
    split
    · exact openRolls_later
    · exact .refl _
  | storeLootItem l' slot guid b => exact storeLootItem_later
  | masterGive l' slot giver target b =>
    simp only [LootWorld.step]
    cases hg : w.handleLootMasterGive l' slot giver target b with
    | none => exact .refl _
    | some w' => exact masterGive_later hg
  | lootMoney l' => exact setLoot_later ⟨.refl _, .refl _⟩
  | vote p guid choice env =>
    rw [LootWorld.step]
    rcases LootWorld.countRollVote_cases w p guid choice env with h' | ⟨k, r, l', hv⟩
    · rw [h']; exact .refl _
    · rw [hv.step]
      split
      · exact settle_later
      · exact .refl _
  | endRoll l' env => exact endRollLoop_later
  | addMember guid =>
    simp only [LootWorld.step]
    split <;> exact .refl _
  | login guid => exact .refl _
  | logout guid => exact .refl _
  | removeMember guid kick online lfgOutside env =>
    have hl := (LootWorld.removeMember_rolls hw guid kick online lfgOutside env).2.1
    rw [LootWorld.step, hl]
    exact .refl _

end Step

end SkyfireBG
