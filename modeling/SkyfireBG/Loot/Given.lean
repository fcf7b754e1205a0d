import SkyfireBG.Lib.Lists
import SkyfireBG.Loot.ItemStep
import SkyfireBG.Loot.Slot

/-!
# SkyfireBG.Loot.Given

Each loot unit is given out at most once.

The flags of a loot record what was given: `is_looted` of the item itself, or the entries of the
player for an item that is free for all.  A step is safe when it gives out only what the flags say
is still there; then they record every award (`GivenInv`), and no unit is given twice.

* `storeLootItem`, `masterGive`, `countTheRoll` — the three ways of giving keep the invariant.
* `loot_given_once` — no run of safe steps gives a unit twice.
-/

namespace SkyfireBG

namespace Loot

def vector (loot : Loot) (quest : Bool) : List LootItem :=
  if quest then loot.questItems else loot.items

def ffaLists (loot : Loot) (quest : Bool) : QuestItemMap :=
  if quest then loot.playerQuestItems else loot.playerFFAItems

def Recorded (loot : Loot) (a : Award) : Prop :=
  if a.freeforall then (loot.ffaLists a.quest).Marked a.player a.index
  else ∃ i, (loot.vector a.quest)[a.index]? = some i ∧ i.isLooted = true

/-- Loot `b` is loot `a` with more flags set. -/
structure Keeps (a b : Loot) : Prop where
  items : ∀ {quest : Bool} {k : Nat} {i : LootItem}, (a.vector quest)[k]? = some i →
    i.isLooted = true → ∃ i' : LootItem, (b.vector quest)[k]? = some i' ∧ i'.isLooted = true
  lists : ∀ {quest : Bool} {guid index : Nat}, (a.ffaLists quest).Marked guid index →
    (b.ffaLists quest).Marked guid index
  distinct : (∀ quest, (a.ffaLists quest).Distinct) → ∀ quest, (b.ffaLists quest).Distinct

theorem Keeps.refl (a : Loot) : a.Keeps a :=
  ⟨fun hi hl => ⟨_, hi, hl⟩, fun h => h, fun h => h⟩

theorem Keeps.trans {a b c : Loot} (h : a.Keeps b) (h' : b.Keeps c) : a.Keeps c where
  items := by
    intro quest k i hi hl
    obtain ⟨i', hi', hl'⟩ := h.items hi hl
    exact h'.items hi' hl'
  lists := fun hm => h'.lists (h.lists hm)
  distinct := fun hd => h'.distinct (h.distinct hd)

theorem Keeps.recorded {a b : Loot} (h : a.Keeps b) {x : Award} (hr : a.Recorded x) :
    b.Recorded x := by
  simp only [Recorded] at hr ⊢
  split at hr
  · rename_i hf
    rw [if_pos hf]
    exact h.lists hr
  · rename_i hf
    rw [if_neg hf]
    obtain ⟨i, hi, hl⟩ := hr
    exact h.items hi hl

theorem Recorded.of_unit {loot : Loot} {a b : Award} (h : a.unit = b.unit)
    (hr : loot.Recorded a) : loot.Recorded b ∧ a.loot = b.loot := by
  simp only [Award.unit] at h
  split at h
  · split at h
    · rename_i ha hb
      injection h with h1 h2 h3 h4
      rw [Recorded, if_pos ha, h2, h3, h4] at hr
      exact ⟨by rw [Recorded, if_pos hb]; exact hr, h1⟩
    · cases h
  · split at h
    · cases h
    · rename_i ha hb
      injection h with h1 h2 h3
      rw [Recorded, if_neg ha, h2, h3] at hr
      exact ⟨by rw [Recorded, if_neg hb]; exact hr, h1⟩

theorem looted_of_forall₂ {R : LootItem → LootItem → Prop} {is is' : List LootItem}
    (hR : ∀ i i', R i i' → i.isLooted = true → i'.isLooted = true) (h : List.Forall₂ R is is')
    {k : Nat} {i : LootItem} (hi : is[k]? = some i) (hl : i.isLooted = true) :
    ∃ i', is'[k]? = some i' ∧ i'.isLooted = true := by
  induction h generalizing k with
  | nil => cases hi
  | @cons a b as bs hab _ ih =>
    cases k with
    | zero =>
      cases hi
      exact ⟨b, rfl, hR _ _ hab hl⟩
    | succ k => exact ih hi

theorem Keeps.of {R : LootItem → LootItem → Prop}
    (hR : ∀ i i', R i i' → i.isLooted = true → i'.isLooted = true) {a b : Loot}
    (hi : List.Forall₂ R a.items b.items) (hq : List.Forall₂ R a.questItems b.questItems)
    (hlist : ∀ quest guid index, (a.ffaLists quest).Marked guid index →
      (b.ffaLists quest).Marked guid index)
    (hdist : (∀ quest, (a.ffaLists quest).Distinct) → ∀ quest, (b.ffaLists quest).Distinct) :
    a.Keeps b where
  items := by
    intro quest k i hk hl
    cases quest with
    | true => exact looted_of_forall₂ hR hq hk hl
    | false => exact looted_of_forall₂ hR hi hk hl
  lists := fun h => hlist _ _ _ h
  distinct := hdist

/-- The item vectors change as `LootLater` says, the lists stay. -/
theorem Keeps.of_later {a b : Loot} (h : LootLater a b)
    (hq : b.playerQuestItems = a.playerQuestItems) (hf : b.playerFFAItems = a.playerFFAItems) :
    a.Keeps b := by
  have hlists : ∀ quest, b.ffaLists quest = a.ffaLists quest := by
    intro quest
    cases quest with
    | true => exact hq
    | false => exact hf
  refine .of (fun _ _ hl => LootItem.Later.looted hl) h.items h.questItems ?_ ?_
  · intro quest guid index hm
    rw [hlists]
    exact hm
  · intro hd quest
    rw [hlists]
    exact hd quest

end Loot

/-- `StoreLootItem` hands out something that the flags say is there: a free-for-all item to a player
with an entry for it, any other item while its own `is_looted` is clear. -/
def Loot.storeSafe (loot : Loot) (slot guid : Nat) : Bool :=
  match loot.storable slot guid with
  | none => true
  | some s => if s.item.freeforall then s.qitem.isSome || s.ffaitem.isSome else !s.item.isLooted

namespace LootWorld

def unrolled (w : LootWorld) (l slot : Nat) : Bool :=
  w.group.rollId.all (fun r => !(r.loot == some l && r.itemSlot == slot))

/-- A master give takes an item that no roll is for, and that is there or gives nothing. -/
def giveSafe (w : LootWorld) (l slot : Nat) : Bool :=
  match (w.loots l).items[slot]? with
  | none => true
  | some i => (i.count == 0 || !i.freeforall && !i.isLooted) && w.unrolled l slot

def openSafe (w : LootWorld) (l : Nat) : Bool :=
  (w.loots l).items.all (fun i => i.freeforall || !i.isLooted) &&
    w.group.rollId.all (fun r => r.loot != some l)

/-- One slot in the loop of `FillNotNormalLootFor` that stores currency. -/
def autoStore (store : TemplateStore) (l : Nat) (p : FillLooter) (w : LootWorld) (i : Nat) :
    LootWorld :=
  if (w.loots l).autoStored store p.looter i then
    w.storeLootItem l i p.looter.guid (p.canStore i)
  else w

def autoStoreSafe (store : TemplateStore) (l : Nat) (p : FillLooter) (w : LootWorld) (i : Nat) :
    Prop :=
  (w.loots l).autoStored store p.looter i = true → p.canStore i = true →
    (w.loots l).storeSafe i p.looter.guid = true

def listFilled (store : TemplateStore) (l : Nat) (p : FillLooter) (w : LootWorld) : LootWorld :=
  w.setLoot l ((w.loots l).fillLists store p.looter p.presentAtLooting)

def fillForSafe (store : TemplateStore) (l : Nat) (w : LootWorld) (p : FillLooter) : Prop :=
  p.presentAtLooting = true →
    Admitted (autoStore store l p) (autoStoreSafe store l p) (w.listFilled store l p)
      (List.range (((w.listFilled store l p).loots l).getMaxSlotInLootFor p.looter.guid))

def fillStart (w : LootWorld) (store : TemplateStore) (l gold : Nat)
    (drops : List (LootStoreItem × LootDraw)) (owner : Option Nat) : LootWorld :=
  let w := w.clearLoot l
  let w := w.setLoot l { drops.foldl (Loot.addItem store) Loot.clear with gold := gold }
  match owner with
  | none => w
  | some guid => w.setLoot l { w.loots l with roundRobinPlayer := guid }

end LootWorld

def GiveOk (store : TemplateStore) (w : LootWorld) : LootEvent → Prop
  | .fillLoot l gold drops owner looters =>
    Admitted (LootWorld.fillNotNormalLootFor store l) (LootWorld.fillForSafe store l)
      (w.fillStart store l gold drops owner) looters
  | .groupLoot l _ => w.openSafe l = true
  | .needBeforeGreed l _ => w.openSafe l = true
  | .storeLootItem l slot guid canStore => canStore = true → (w.loots l).storeSafe slot guid = true
  | .masterGive l slot giver _ canStore =>
    w.group.looterGuid = giver →
      slot ≠ (w.loots l).items.length ∧ (canStore = true → w.giveSafe l slot = true)
  | _ => True

def Roll.place (r : Roll) : Option (Nat × Nat) := r.loot.map (fun l => (l, r.itemSlot))

def Loot.RolledAt (loot : Loot) (slot : Nat) : Prop :=
  ∃ i, loot.items[slot]? = some i ∧ i.isLooted = false ∧ i.isBlocked = true ∧
    i.freeforall = false

structure GivenInv (w : LootWorld) : Prop where
  once : (w.given.map Award.unit).Nodup
  recorded : ∀ a ∈ w.given, (w.loots a.loot).Recorded a
  distinct : ∀ l quest, ((w.loots l).ffaLists quest).Distinct
  rolled : ∀ r ∈ w.group.rollId, ∀ l, r.loot = some l → (w.loots l).RolledAt r.itemSlot
  places : (w.group.rollId.filterMap Roll.place).Nodup

namespace GivenInv

variable {store : TemplateStore} {w : LootWorld} {l slot guid : Nat} {loot : Loot} {a : Award}

theorem touch (h : GivenInv w) (hk : (w.loots l).Keeps loot)
    (hr : ∀ r ∈ w.group.rollId, r.loot = some l → loot.RolledAt r.itemSlot) :
    GivenInv (w.setLoot l loot) where
  once := h.once
  recorded := by
    intro b hb
    by_cases hl : b.loot = l
    · rw [hl, LootWorld.setLoot_loots_same]
      exact hk.recorded (hl ▸ h.recorded b hb)
    · rw [LootWorld.setLoot_loots_ne hl]
      exact h.recorded b hb
  distinct := by
    intro l'
    by_cases hl : l' = l
    · rw [hl, LootWorld.setLoot_loots_same]
      exact hk.distinct (h.distinct l)
    · rw [LootWorld.setLoot_loots_ne hl]
      exact h.distinct l'
  rolled := by
    intro r hmem l' hl'
    by_cases hl : l' = l
    · rw [hl, LootWorld.setLoot_loots_same]
      exact hr r hmem (hl ▸ hl')
    · rw [LootWorld.setLoot_loots_ne hl]
      exact h.rolled r hmem l' hl'
  places := h.places

/-- One unit of loot `l` that the flags said was there is given, and recorded. -/
theorem award (h : GivenInv w) (hl : a.loot = l) (hnot : ¬ (w.loots l).Recorded a)
    (hrec : loot.Recorded a) (hk : (w.loots l).Keeps loot)
    (hr : ∀ r ∈ w.group.rollId, r.loot = some l → loot.RolledAt r.itemSlot) :
    GivenInv ((w.setLoot l loot).award a) := by
  have ht := h.touch hk hr
  refine ⟨?_, ?_, ht.distinct, ht.rolled, ht.places⟩
  · refine List.nodup_cons.mpr ⟨fun hin => ?_, h.once⟩
    obtain ⟨b, hb, hu⟩ := List.mem_map.mp hin
    obtain ⟨hra, hbl⟩ := (h.recorded b hb).of_unit hu
    rw [hbl, hl] at hra
    exact hnot hra
  · intro b hb
    rcases List.mem_cons.mp hb with rfl | hb
    · show ((w.setLoot l loot).loots b.loot).Recorded b
      rw [hl, LootWorld.setLoot_loots_same]
      exact hrec
    · exact ht.recorded b hb

theorem rolls (h : GivenInv w) {rs : List Roll}
    (hmem : ∀ r ∈ rs, ∀ l, r.loot = some l →
      ∃ r' ∈ w.group.rollId, r'.loot = some l ∧ r'.itemSlot = r.itemSlot)
    (hp : (rs.filterMap Roll.place).Nodup) : GivenInv (w.setRolls rs) where
  once := h.once
  recorded := h.recorded
  distinct := h.distinct
  rolled := by
    intro r hr l hl
    obtain ⟨r', hr', hl', hs⟩ := hmem r hr l hl
    exact hs ▸ h.rolled r' hr' l hl'
  places := hp

theorem sublist (h : GivenInv w) {rs : List Roll} (hs : rs.Sublist w.group.rollId) :
    GivenInv (w.setRolls rs) :=
  h.rolls (fun r hr _ hl => ⟨r, hs.subset hr, hl, rfl⟩) (h.places.sublist (hs.filterMap _))

theorem takeSlot_lists (loot : Loot) (s : SlotItem) (guid : Nat) :
    (loot.takeSlot s guid).playerQuestItems = (match s.qitem with
      | some k => loot.playerQuestItems.markLooted guid k
      | none => loot.playerQuestItems) ∧
    (loot.takeSlot s guid).playerFFAItems = (match s.qitem, s.ffaitem with
      | none, some k => loot.playerFFAItems.markLooted guid k
      | _, _ => loot.playerFFAItems) := by
  cases hq : s.qitem <;> cases hf : s.ffaitem <;> cases hc : s.conditem <;>
    cases hi : s.item.freeforall <;> cases hs : s.quest <;>
    simp [Loot.takeSlot, Loot.markEntryLooted, Loot.markItemLooted, hq, hf, hc, hi, hs]

theorem takeSlot_keeps {s : SlotItem} (hf : loot.Found slot guid s)
    (hd : ∀ quest, (loot.ffaLists quest).Distinct) : loot.Keeps (loot.takeSlot s guid) := by
  obtain ⟨hq, hff⟩ := takeSlot_lists loot s guid
  obtain ⟨hi, hqi⟩ : ItemsLater loot.items (loot.takeSlot s guid).items ∧
      ItemsLater loot.questItems (loot.takeSlot s guid).questItems := takeSlot_later
  have hlists : ∀ quest, ((loot.takeSlot s guid).ffaLists quest).Distinct ∧
      ∀ g index, (loot.ffaLists quest).Marked g index →
        ((loot.takeSlot s guid).ffaLists quest).Marked g index := by
    intro quest
    cases quest with
    | true =>
      show (loot.takeSlot s guid).playerQuestItems.Distinct ∧ ∀ g index,
        loot.playerQuestItems.Marked g index →
          (loot.takeSlot s guid).playerQuestItems.Marked g index
      rw [hq]
      cases hf with
      | quest hql _ _ _ => exact ⟨(hd true).markLooted hql, fun _ _ hm => hm.markLooted hql⟩
      | ffa | conditional | plain => exact ⟨hd true, fun _ _ hm => hm⟩
    | false =>
      show (loot.takeSlot s guid).playerFFAItems.Distinct ∧ ∀ g index,
        loot.playerFFAItems.Marked g index →
          (loot.takeSlot s guid).playerFFAItems.Marked g index
      rw [hff]
      cases hf with
      | ffa _ _ hlk _ =>
        obtain ⟨ql, hql, _, _⟩ := QuestItemMap.lookup_some hlk
        exact ⟨(hd false).markLooted hql, fun _ _ hm => hm.markLooted hql⟩
      | quest | conditional | plain => exact ⟨hd false, fun _ _ hm => hm⟩
  exact .of (fun _ _ hl => LootItem.Later.looted hl) hi hqi (fun quest => (hlists quest).2)
    (fun _ quest => (hlists quest).1)

/-- The award `StoreLootItem` makes for what was found. -/
def slotAward (l : Nat) (s : SlotItem) (guid : Nat) : Award :=
  { loot := l, quest := s.quest, index := s.index, freeforall := s.item.freeforall
    player := guid }

theorem takeSlot_open {s : SlotItem} (hf : loot.Found slot guid s)
    (hsafe : (if s.item.freeforall then s.qitem.isSome || s.ffaitem.isSome
      else !s.item.isLooted) = true) : ¬ loot.Recorded (slotAward l s guid) := by
  intro hrec
  cases hff : s.item.freeforall with
  | true =>
    simp only [Loot.Recorded, slotAward, hff, if_true] at hrec hsafe
    cases hf with
    | quest hql hk hl _ =>
      rw [QuestItemMap.Marked.entry hrec hql hk] at hl
      cases hl
    | ffa _ _ hlk hl =>
      obtain ⟨ql, hql, hk, hidx⟩ := QuestItemMap.lookup_some hlk
      subst hidx
      rw [QuestItemMap.Marked.entry hrec hql hk] at hl
      cases hl
    | conditional _ hno _ _ _ =>
      rw [hno] at hff
      cases hff
    | plain => cases hsafe
  | false =>
    simp only [Loot.Recorded, slotAward, hff, Bool.false_eq_true, if_false] at hrec hsafe
    obtain ⟨i, hi, hl⟩ := hrec
    have hitem : (loot.vector s.quest)[s.index]? = some s.item := by
      cases hf with
      | quest _ _ _ hitem => exact hitem
      | ffa hitem | conditional hitem | plain hitem => exact hitem
    rw [hitem] at hi
    cases hi
    rw [hl] at hsafe
    cases hsafe

theorem takeSlot_recorded {s : SlotItem} (hf : loot.Found slot guid s)
    (hd : ∀ quest, (loot.ffaLists quest).Distinct)
    (hsafe : (if s.item.freeforall then s.qitem.isSome || s.ffaitem.isSome
      else !s.item.isLooted) = true) :
    (loot.takeSlot s guid).Recorded (slotAward l s guid) := by
  obtain ⟨hq, hfl⟩ := takeSlot_lists loot s guid
  obtain ⟨hi, hqi⟩ := takeSlot_items loot s guid
  cases hff : s.item.freeforall with
  | true =>
    simp only [Loot.Recorded, slotAward, hff, if_true] at hsafe ⊢
    cases hf with
    | quest hql hk hl _ =>
      show (loot.takeSlot _ guid).playerQuestItems.Marked guid _
      rw [hq]
      exact QuestItemMap.marked_markLooted (hd true) hql hk
    | ffa _ _ hlk hl =>
      obtain ⟨ql, hql, hk, hidx⟩ := QuestItemMap.lookup_some hlk
      subst hidx
      show (loot.takeSlot _ guid).playerFFAItems.Marked guid _
      rw [hfl]
      exact QuestItemMap.marked_markLooted (hd false) hql hk
    | conditional _ hno _ _ _ =>
      rw [hno] at hff
      cases hff
    | plain => cases hsafe
  | false =>
    simp only [Loot.Recorded, slotAward, hff, Bool.false_eq_true, if_false]
    have hmod : ∀ {is : List LootItem}, is[s.index]? = some s.item →
        ∃ i, (is.modify s.index (fun i => { i with isLooted := true }))[s.index]? = some i ∧
          i.isLooted = true := by
      intro is his
      refine ⟨{ s.item with isLooted := true }, ?_, rfl⟩
      rw [List.getElem?_modify_eq, his]
      rfl
    cases hf with
    | quest _ _ _ hitem =>
      show ∃ i, (loot.takeSlot _ guid).questItems[_]? = some i ∧ _
      rw [hqi, if_neg (by simpa using hff)]
      exact hmod hitem
    | ffa _ hyes _ _ =>
      rw [hyes] at hff
      cases hff
    | conditional hitem | plain hitem =>
      show ∃ i, (loot.takeSlot _ guid).items[_]? = some i ∧ _
      rw [hi, if_neg (by simpa using hff)]
      exact hmod hitem

theorem takeSlot_rolled {s : SlotItem} (hf : loot.Found slot guid s)
    (hb : s.qitem = none → s.item.isBlocked = false) {k : Nat} (hr : loot.RolledAt k) :
    (loot.takeSlot s guid).RolledAt k := by
  obtain ⟨i, hi, hl, hblk, hff⟩ := hr
  refine ⟨i, ?_, hl, hblk, hff⟩
  rw [(takeSlot_items loot s guid).1]
  split
  · exact hi
  · rename_i hno
    have hne : s.index ≠ k := by
      rintro rfl
      cases hf with
      | quest => simp at hno
      | ffa hitem | conditional hitem | plain hitem =>
        rw [hitem] at hi
        cases hi
        rw [hb rfl] at hblk
        cases hblk
    rw [List.getElem?_modify_ne _ _ hne]
    exact hi

theorem storeLootItem (h : GivenInv w) {canStore : Bool}
    (hsafe : canStore = true → (w.loots l).storeSafe slot guid = true) :
    GivenInv (w.storeLootItem l slot guid canStore) := by
  simp only [LootWorld.storeLootItem]
  split
  · exact h
  · rename_i s hs
    split
    · rename_i hc
      obtain ⟨hf, hb⟩ := storable_found hs
      have hsafe' := hsafe hc
      simp only [Loot.storeSafe, hs] at hsafe'
      exact h.award (a := slotAward l s guid) rfl (takeSlot_open hf hsafe')
        (takeSlot_recorded hf (h.distinct l) hsafe') (takeSlot_keeps hf (h.distinct l))
        (fun r hr hl => takeSlot_rolled hf hb (h.rolled r hr l hl))
    · exact h

theorem give (h : GivenInv w) {i : LootItem} {player : Nat} {f : LootItem → LootItem}
    (hi : (w.loots l).items[slot]? = some i) (hl : i.isLooted = false)
    (hun : ∀ r ∈ w.group.rollId, r.loot = some l → r.itemSlot ≠ slot)
    (hf : ∀ i : LootItem, i.Later (f i) ∧ (f i).isLooted = true) {c : UInt8} :
    GivenInv ((w.setLoot l { w.loots l with
        items := (w.loots l).items.modify slot f, unlootedCount := c }).award
      { loot := l, quest := false, index := slot, freeforall := false, player := player }) := by
  refine h.award (a := ⟨l, false, slot, false, player⟩) rfl ?_ ?_
    (.of_later ⟨ItemsLater.modify (fun i => (hf i).1) _ _, .refl _⟩ rfl rfl) ?_
  · intro hrec
    obtain ⟨i', hi', hl'⟩ := hrec
    cases hi.symm.trans hi'
    rw [hl] at hl'
    cases hl'
  · show ∃ i, ((w.loots l).items.modify slot f)[slot]? = some i ∧ i.isLooted = true
    rw [List.getElem?_modify_eq, hi]
    exact ⟨_, rfl, (hf i).2⟩
  · intro r hr hrl
    obtain ⟨i', hi', hrest⟩ := h.rolled r hr l hrl
    refine ⟨i', ?_, hrest⟩
    rw [List.getElem?_modify_ne _ _ (fun he => hun r hr hrl he.symm)]
    exact hi'

theorem masterGive (h : GivenInv w) {giver target : Nat} {canStore : Bool} {w' : LootWorld}
    (hsafe : w.group.looterGuid = giver →
      slot ≠ (w.loots l).items.length ∧ (canStore = true → w.giveSafe l slot = true))
    (hw : w.handleLootMasterGive l slot giver target canStore = some w') : GivenInv w' := by
  simp only [LootWorld.handleLootMasterGive] at hw
  split at hw
  · cases hw
    exact h
  · rename_i hg
    split at hw
    · cases hw
      exact h
    · split at hw
      · cases hw
      · rename_i i hi
        split at hw
        · rename_i hc
          have hs := (hsafe (by simpa using hg)).2 hc
          simp only [LootWorld.giveSafe, hi, LootWorld.unrolled, Bool.and_eq_true,
            Bool.or_eq_true, beq_iff_eq, List.all_eq_true] at hs
          obtain ⟨hthere, hun⟩ := hs
          have hun' : ∀ r ∈ w.group.rollId, r.loot = some l → r.itemSlot ≠ slot := by
            intro r hr hrl
            simpa [hrl] using hun r hr
          cases hw
          simp only [Loot.takeItem, List.modify_modify_eq]
          by_cases hpos : 0 < i.count
          · obtain ⟨hff, hl⟩ := hthere.resolve_left (Nat.pos_iff_ne_zero.mp hpos)
            have hff' : i.freeforall = false := by simpa using hff
            rw [LootWorld.awardOf, if_pos hpos, hff']
            exact h.give (f := fun i => { i with isLooted := true, count := 0 }) hi
              (by simpa using hl) hun' (fun _ => ⟨⟨rfl, rfl, rfl, rfl, fun _ => rfl⟩, rfl⟩)
          · rw [LootWorld.awardOf, if_neg hpos]
            refine h.touch (.of_later ⟨ItemsLater.modify
              (f := fun i => { i with isLooted := true, count := 0 })
              (fun _ => ⟨rfl, rfl, rfl, rfl, fun _ => rfl⟩) _ _, .refl _⟩ rfl rfl) fun r hr hrl => ?_
            obtain ⟨i', hi', hrest⟩ := h.rolled r hr l hrl
            refine ⟨i', ?_, hrest⟩
            rw [List.getElem?_modify_ne _ _ (fun he => hun' r hr hrl he.symm)]
            exact hi'
        · cases hw
          exact h

/-- The roll at `k` is for another item than every roll that stays. -/
theorem place_ne (h : GivenInv w) {k : Nat} {r r' : Roll} (hk : w.group.rollId[k]? = some r)
    (hr : r' ∈ w.group.rollId.eraseIdx k) (hl : r.loot = some l) (hl' : r'.loot = some l) :
    r'.itemSlot ≠ r.itemSlot := by
  have hp : r.place = some (l, r.itemSlot) := by rw [Roll.place, hl]; rfl
  have hp' : r'.place = some (l, r'.itemSlot) := by rw [Roll.place, hl']; rfl
  intro he
  exact key_ne_of_mem_eraseIdx h.places hk hr hp hp' (by rw [he])

theorem settle (h : GivenInv w) {k : Nat} {r : Roll} (hk : w.group.rollId[k]? = some r)
    (hl : r.loot = some l) (res : RollResult) :
    GivenInv ((w.settle l r.itemSlot res).setRolls (w.group.rollId.eraseIdx k)) := by
  have hrest := h.sublist (List.eraseIdx_sublist (l := w.group.rollId) (k := k))
  obtain ⟨i, hi, hil, hib, hif⟩ := h.rolled r (List.mem_of_getElem? hk) l hl
  have hun : ∀ r' ∈ w.group.rollId.eraseIdx k, r'.loot = some l → r'.itemSlot ≠ r.itemSlot :=
    fun r' hr' hl' => h.place_ne hk hr' hl hl'
  cases res with
  | nothing => exact hrest
  | give guid =>
    exact hrest.give (w := w.setRolls (w.group.rollId.eraseIdx k))
      (f := fun i => { i with isLooted := true }) hi hil hun
      (fun _ => ⟨⟨rfl, rfl, rfl, rfl, fun _ => rfl⟩, rfl⟩)
  | waste =>
    refine hrest.touch (w := w.setRolls (w.group.rollId.eraseIdx k))
      (.of_later ⟨takeItem_later, .refl _⟩ rfl rfl) fun r' hr' hl' => ?_
    obtain ⟨i', hi', hother⟩ := hrest.rolled r' hr' l hl'
    refine ⟨i', ?_, hother⟩
    rw [Loot.takeItem, List.getElem?_modify_ne _ _ (fun he => hun r' hr' hl' he.symm)]
    exact hi'
  | unblock =>
    refine hrest.touch (w := w.setRolls (w.group.rollId.eraseIdx k))
      (.of_later ⟨unblockItem_later, .refl _⟩ rfl rfl) ?_
    intro r' hr' hl'
    obtain ⟨i', hi', hother⟩ := hrest.rolled r' hr' l hl'
    refine ⟨i', ?_, hother⟩
    rw [Loot.unblockItem, List.getElem?_modify_ne _ _ (fun he => hun r' hr' hl' he.symm)]
    exact hi'

theorem countTheRoll (h : GivenInv w) (k : Nat) (env : RollEnv) :
    GivenInv (w.countTheRoll k env) := by
  simp only [LootWorld.countTheRoll]
  split
  · exact h
  · rename_i r hk
    split
    · exact h.sublist (List.eraseIdx_sublist _ _)
    · rename_i l hl
      exact h.settle hk hl _

theorem endRollLoop (h : GivenInv w) {env : Nat → RollEnv} {n : Nat} :
    GivenInv (LootWorld.endRollLoop l env n w) := by
  induction n generalizing w with
  | zero => exact h
  | succ n ih =>
    simp only [LootWorld.endRollLoop]
    split
    · exact h
    · split
      · exact h
      · exact ih (h.countTheRoll _ _)

theorem countRollVote (h : GivenInv w) (p g choice : Nat) (env : RollEnv) :
    GivenInv (w.countRollVote p g choice env) := by
  rcases LootWorld.countRollVote_cases w p g choice env with h' | ⟨k, r, l, hv⟩
  · rw [h']
    exact h
  · rw [hv.step]
    split
    · exact h.settle hv.at_k hv.loot _
    · have hsame : (r.cast p choice).place = r.place := by
        simp only [Roll.place, LootWorld.cast_loot, LootWorld.cast_itemSlot]
      refine h.rolls ?_ ?_
      · intro x hx l' hl'
        rcases mem_set_or hx with rfl | hx
        · exact ⟨r, List.mem_of_getElem? hv.at_k, by simpa using hl', by simp⟩
        · exact ⟨x, List.mem_of_mem_eraseIdx hx, hl', rfl⟩
      · rw [filterMap_set hv.at_k hsame]
        exact h.places

theorem mapRolls (h : GivenInv w) {f : Roll → Roll}
    (hf : ∀ r, (f r).itemSlot = r.itemSlot ∧ ((f r).loot = none ∨ (f r).loot = r.loot)) :
    GivenInv (w.setRolls (w.group.rollId.map f)) := by
  refine h.rolls ?_ ?_
  · intro x hx l hl
    obtain ⟨r, hr, rfl⟩ := List.mem_map.mp hx
    rcases (hf r).2 with hn | hs
    · rw [hn] at hl
      cases hl
    · exact ⟨r, hr, hs ▸ hl, (hf r).1.symm⟩
  · rw [List.filterMap_map]
    refine h.places.sublist (filterMap_sublist (fun r => ?_))
    simp only [Function.comp_apply, Roll.place, (hf r).1]
    rcases (hf r).2 with hn | hs
    · exact .inl (by rw [hn]; rfl)
    · exact .inr (by rw [hs])

section Opening

variable {g : Group} {info : Nat → RollMember} {mask : ItemTemplate → Nat}

theorem rollItems_opened {n guid : Nat} {items : List LootItem} {r : Roll}
    (h : r ∈ (rollItems store g info mask l n guid items).2.1) :
    ∃ k item, items[k]? = some item ∧ r.itemSlot = n + k ∧ r.loot = some l ∧
      item.freeforall = false ∧ getsRoll store g info item = true ∧
      (rollItems store g info mask l n guid items).1[k]? =
        some { item with isBlocked := true } := by
  induction items generalizing n guid with
  | nil => cases h
  | cons item rest ih =>
    rcases List.mem_append.mp h with h | h
    · obtain ⟨ho, _, hitem, _⟩ := rollItem_roll (Option.mem_toList.mp h)
      exact ⟨0, item, rfl, ho.slot, ho.loot, ho.ordinary, ho.getsRoll, congrArg some hitem⟩
    · obtain ⟨k, x, hx, hslot, hloot, hff, hrolls, hget⟩ := ih h
      exact ⟨k + 1, x, hx, by omega, hloot, hff, hrolls, hget⟩

theorem rollItems_cons {n guid : Nat} {item : LootItem} {rest : List LootItem} :
    (rollItems store g info mask l n guid (item :: rest)).2.1 =
      (rollItem store g info mask l n guid item).2.1.toList ++
        (rollItems store g info mask l (n + 1) (rollItem store g info mask l n guid item).2.2
          rest).2.1 := rfl

theorem rollItems_places (store : TemplateStore) (g : Group) (info : Nat → RollMember)
    (mask : ItemTemplate → Nat) (l n guid : Nat) (items : List LootItem) :
    ((rollItems store g info mask l n guid items).2.1.filterMap Roll.place).Nodup := by
  induction items generalizing n guid with
  | nil => exact .nil
  | cons item rest ih =>
    rw [rollItems_cons]
    cases hr : (rollItem store g info mask l n guid item).2.1 with
    | none => exact ih _ _
    | some r =>
      obtain ⟨ho, _, _, _⟩ := rollItem_roll hr
      have hp : r.place = some (l, n) := by rw [Roll.place, ho.loot, ho.slot]; rfl
      rw [Option.toList_some, List.singleton_append, List.filterMap_cons_some hp]
      refine List.nodup_cons.mpr ⟨fun hin => ?_, ih _ _⟩
      obtain ⟨x, hx, hxp⟩ := List.mem_filterMap.mp hin
      obtain ⟨k, _, _, hslot, hloot, _, _, _⟩ := rollItems_opened hx
      rw [Roll.place, hloot, hslot] at hxp
      have := congrArg Prod.snd (Option.some.inj hxp)
      simp only at this
      omega

end Opening

theorem openRolls (h : GivenInv w) {mask : ItemTemplate → Nat} {info : Nat → RollMember}
    (hsafe : w.openSafe l = true) : GivenInv (w.openRolls store mask l info) := by
  simp only [LootWorld.openSafe, Bool.and_eq_true, List.all_eq_true, Bool.or_eq_true,
    Bool.not_eq_true', bne_iff_ne, ne_eq] at hsafe
  obtain ⟨hitems, hnone⟩ := hsafe
  have hkeep : (w.loots l).Keeps { w.loots l with
      items := (rollItems store w.group info mask l 0 w.nextItemGuid (w.loots l).items).1 } :=
    .of_later ⟨rollItems_later.imp (fun _ _ => RollTouched.later), .refl _⟩ rfl rfl
  have htouch := h.touch hkeep (fun r hr hl => absurd hl (hnone r hr))
  refine ⟨htouch.once, htouch.recorded, htouch.distinct, ?_, ?_⟩
  · intro r hr l' hl'
    rcases LootWorld.openRolls_mem hr with hr | hr
    · exact htouch.rolled r hr l' hl'
    · obtain ⟨k, item, hk, hslot, hloot, hff, -, hget⟩ := rollItems_opened hr
      cases hloot.symm.trans hl'
      refine ⟨{ item with isBlocked := true }, ?_, ?_, rfl, hff⟩
      · show ((w.setLoot l _).loots l).items[_]? = _
        rw [LootWorld.setLoot_loots_same, hslot, Nat.zero_add]
        exact hget
      · rcases hitems item (List.mem_of_getElem? hk) with hyes | hno
        · rw [hff] at hyes
          cases hyes
        · exact hno
  · show ((w.group.rollId ++ _).filterMap Roll.place).Nodup
    rw [List.filterMap_append]
    refine List.nodup_append.mpr ⟨h.places, rollItems_places _ _ _ _ _ _ _ _, ?_⟩
    intro a ha b hb hab
    obtain ⟨r, hr, hrp⟩ := List.mem_filterMap.mp ha
    obtain ⟨x, hx, hxp⟩ := List.mem_filterMap.mp hb
    obtain ⟨k, _, _, hslot, hloot, _, _, _⟩ := rollItems_opened hx
    rw [Roll.place, hloot] at hxp
    cases hl : r.loot with
    | none =>
      rw [Roll.place, hl] at hrp
      cases hrp
    | some l' =>
      rw [Roll.place, hl] at hrp
      subst hab
      have := Option.some.inj (hrp.trans hxp.symm)
      simp only [Prod.mk.injEq] at this
      exact hnone r hr (this.1 ▸ hl)

theorem clearLoot (h : GivenInv w) : GivenInv (w.clearLoot l) := by
  have hrolls := h.mapRolls (f := fun r => if r.loot = some l then { r with loot := none } else r)
    (fun r => by split <;> simp)
  refine ⟨?_, ?_, ?_, ?_, hrolls.places⟩
  · exact h.once.sublist (List.filter_sublist.map _)
  · intro a ha
    obtain ⟨ha, hne⟩ := List.mem_filter.mp ha
    show (((w.forget l).setLoot l Loot.clear).loots a.loot).Recorded a
    rw [LootWorld.setLoot_loots_ne (by simpa using hne)]
    exact h.recorded a ha
  · intro l'
    by_cases hl : l' = l
    · intro quest guid ql hql
      subst hl
      cases quest <;> simp [LootWorld.clearLoot, Loot.ffaLists, Loot.clear, LootWorld.setRolls] at hql
    · rw [clearLoot_ne hl]
      exact h.distinct l'
  · intro r hr l' hl'
    obtain ⟨r', hr', rfl⟩ := List.mem_map.mp hr
    by_cases hl : r'.loot = some l
    · rw [if_pos hl] at hl'
      cases hl'
    · rw [if_neg hl] at hl' ⊢
      have hne : l' ≠ l := by
        rintro rfl
        exact hl hl'
      rw [clearLoot_ne hne]
      exact h.rolled r' hr' l' hl'

/-- Loot `l` is new: nothing was given from it and no roll is for it. -/
structure Fresh (w : LootWorld) (l : Nat) : Prop where
  given : ∀ a ∈ w.given, a.loot ≠ l
  rolls : ∀ r ∈ w.group.rollId, r.loot ≠ some l

theorem clearLoot_fresh : Fresh (w.clearLoot l) l where
  given := by
    intro a ha
    simpa using (List.mem_filter.mp ha).2
  rolls := by
    intro r hr
    obtain ⟨r', _, rfl⟩ := List.mem_map.mp hr
    by_cases hl : r'.loot = some l
    · rw [if_pos hl]
      simp
    · rw [if_neg hl]
      exact hl

theorem renew (h : GivenInv w) (hfresh : Fresh w l)
    (hd : ∀ quest, (loot.ffaLists quest).Distinct) : GivenInv (w.setLoot l loot) where
  once := h.once
  recorded := by
    intro a ha
    rw [LootWorld.setLoot_loots_ne (hfresh.given a ha)]
    exact h.recorded a ha
  distinct := by
    intro l'
    by_cases hl : l' = l
    · rw [hl, LootWorld.setLoot_loots_same]
      exact hd
    · rw [LootWorld.setLoot_loots_ne hl]
      exact h.distinct l'
  rolled := by
    intro r hr l' hl'
    have hne : l' ≠ l := by
      rintro rfl
      exact hfresh.rolls r hr hl'
    rw [LootWorld.setLoot_loots_ne hne]
    exact h.rolled r hr l' hl'
  places := h.places

theorem addItems_lists (drops : List (LootStoreItem × LootDraw)) (a : Loot) (quest : Bool) :
    (drops.foldl (Loot.addItem store) a).ffaLists quest = a.ffaLists quest := by
  induction drops generalizing a with
  | nil => rfl
  | cons d drops ih =>
    rw [List.foldl_cons, ih]
    simp only [Loot.addItem]
    split
    · split <;> rfl
    · split <;> rfl

theorem empty_distinct : QuestItemMap.Distinct ∅ := by
  intro guid ql hql
  cases hql

theorem fillStart (h : GivenInv w) {gold : Nat} {drops : List (LootStoreItem × LootDraw)}
    {owner : Option Nat} : GivenInv (w.fillStart store l gold drops owner) ∧
      ∀ r ∈ (w.fillStart store l gold drops owner).group.rollId, r.loot ≠ some l := by
  have hfresh := clearLoot_fresh (w := w) (l := l)
  have hd : ∀ quest, (Loot.ffaLists
      { drops.foldl (Loot.addItem store) Loot.clear with gold := gold } quest).Distinct := by
    intro quest
    show ((drops.foldl (Loot.addItem store) Loot.clear).ffaLists quest).Distinct
    rw [addItems_lists]
    cases quest <;> exact empty_distinct
  have hstart := h.clearLoot.renew hfresh hd
  cases owner with
  | none => exact ⟨hstart, hfresh.rolls⟩
  | some guid =>
    refine ⟨hstart.renew ⟨hfresh.given, hfresh.rolls⟩ ?_, hfresh.rolls⟩
    rw [LootWorld.setLoot_loots_same]
    exact hd

/-! The three lists of a looter. -/

theorem fillQuestLoot_keeps {player : Looter}
    (hn : loot.playerQuestItems.find? player.guid = none) :
    loot.Keeps (loot.fillQuestLoot store player) := by
  simp only [Loot.fillQuestLoot]
  split
  · exact .refl _
  · refine .of (R := fun i i' => i.isLooted = true → i'.isLooted = true) (fun _ _ h => h)
      (List.forall₂_same.mpr (fun _ _ h => h)) (fillLoop_items ?_ (fun _ h => h) _ _ _ _) ?_ ?_
    · intro i hl
      simp only [LootItem.visitQuest]
      split <;> exact hl
    · intro quest guid index hm
      cases quest with
      | true => exact QuestItemMap.Marked.keep hm hn
      | false => exact hm
    · intro hd quest
      cases quest with
      | true =>
        exact QuestItemMap.Distinct.keep (hd true)
          (fillLoop_list _ _ _ _ (fun _ hq => nomatch hq) .nil)
      | false => exact hd false

theorem fillFFALoot_keeps {player : Looter}
    (hn : loot.playerFFAItems.find? player.guid = none) :
    loot.Keeps (loot.fillFFALoot store player) := by
  refine .of (R := fun i i' => i.isLooted = true → i'.isLooted = true) (fun _ _ h => h)
    (fillLoop_items (fun _ h => h) (fun _ h => h) _ _ _ _)
    (List.forall₂_same.mpr (fun _ _ h => h)) ?_ ?_
  · intro quest guid index hm
    cases quest with
    | true => exact hm
    | false => exact QuestItemMap.Marked.keep hm hn
  · intro hd quest
    cases quest with
    | true => exact hd true
    | false =>
      exact QuestItemMap.Distinct.keep (hd false)
        (fillLoop_list _ _ _ _ (fun _ hq => nomatch hq) .nil)

theorem fillConditional_keeps {player : Looter} {present : Bool} :
    loot.Keeps (loot.fillNonQuestNonFFAConditionalLoot store player present) := by
  refine .of (R := fun i i' => i.isLooted = true → i'.isLooted = true) (fun _ _ h => h)
    (fillLoop_items ?_ (fun _ h => h) _ _ _ _)
    (List.forall₂_same.mpr (fun _ _ h => h)) ?_ ?_
  · intro i hl
    simp only [LootItem.visitConditional]
    split
    · split <;> split <;> exact hl
    · exact hl
  · intro quest guid index hm
    cases quest <;> exact hm
  · intro hd quest
    cases quest with
    | true => exact hd true
    | false => exact hd false

theorem fillLists_keeps {player : Looter} {present : Bool} :
    loot.Keeps (loot.fillLists store player present) := by
  have step : ∀ {c : Bool} {a b : Loot}, (c = true → a.Keeps b) →
      a.Keeps (if c then b else a) := by
    intro c a b h
    split
    · rename_i hc
      exact h hc
    · exact .refl _
  refine (step (fun hn => fillQuestLoot_keeps (by simpa using hn))).trans
    ((step (fun hn => fillFFALoot_keeps (by simpa using hn))).trans (step (fun _ => ?_)))
  exact fillConditional_keeps

theorem fillNotNormalLootFor (h : GivenInv w) {p : FillLooter}
    (hr : ∀ r ∈ w.group.rollId, r.loot ≠ some l)
    (hsafe : LootWorld.fillForSafe store l w p) :
    GivenInv (LootWorld.fillNotNormalLootFor store l w p) := by
  have hfill : GivenInv (w.listFilled store l p) :=
    h.touch fillLists_keeps (fun r hmem hl => absurd hl (hr r hmem))
  simp only [LootWorld.fillNotNormalLootFor]
  split
  · exact hfill
  · rename_i hp
    refine (hsafe (by simpa using hp)).run.invariant (I := GivenInv) ?_ hfill
    intro v i hv hok
    simp only [LootWorld.autoStore]
    split
    · rename_i hauto
      exact hv.storeLootItem (hok hauto)
    · exact hv

theorem fillLoot (h : GivenInv w) {gold : Nat} {drops : List (LootStoreItem × LootDraw)}
    {owner : Option Nat} {looters : List FillLooter}
    (hsafe : Admitted (LootWorld.fillNotNormalLootFor store l) (LootWorld.fillForSafe store l)
      (w.fillStart store l gold drops owner) looters) :
    GivenInv (w.fillLoot store l gold drops owner looters) := by
  have hrun := hsafe.run.invariant
    (I := fun v => GivenInv v ∧ ∀ r ∈ v.group.rollId, r.loot ≠ some l)
    (fun v p hv hok => ⟨hv.1.fillNotNormalLootFor hv.2 hok, by
      rw [(LootWorld.fillNotNormalLootFor_frame store l v p).1]
      exact hv.2⟩)
    h.fillStart
  cases owner with
  | none => exact hrun.1
  | some guid =>
    refine hrun.1.touch (.of_later ⟨?_, .refl _⟩ rfl rfl)
      (fun r hr hl => absurd hl (hrun.2 r hr))
    refine List.forall₂_map_right_iff.mpr (List.forall₂_same.mpr (fun i _ => ?_))
    simp only [LootWorld.markUnderthreshold]
    split
    · split
      · exact ⟨rfl, rfl, rfl, rfl, id⟩
      · exact .refl i
    · exact .refl i

theorem of_fields {w' : LootWorld} {rs : List Roll} (h : GivenInv (w.setRolls rs))
    (hg : w'.given = w.given) (hl : w'.loots = w.loots) (hr : w'.group.rollId = rs) :
    GivenInv w' where
  once := hg ▸ h.once
  recorded := by
    rw [hg, hl]
    exact h.recorded
  distinct := by
    rw [hl]
    exact h.distinct
  rolled := by
    rw [hr, hl]
    exact h.rolled
  places := hr ▸ h.places

theorem removeMember_given (hw : RollsWF w) {kick lfgOutside : Bool} {online : Nat → Bool}
    {env : Nat → RollEnv} :
    (w.removeMember guid kick online lfgOutside env).given = w.given := by
  have hloop := LootWorld.dropVoterLoop_eq (k := 0) guid env hw.guids (Nat.zero_add _)
  simp only [LootWorld.removeMember]
  split
  · rfl
  · split
    · rw [hloop]
      rfl
    · rfl
  · rw [hloop]
    rfl

theorem removeMember (h : GivenInv w) (hw : RollsWF w) {kick lfgOutside : Bool}
    {online : Nat → Bool} {env : Nat → RollEnv} :
    GivenInv (w.removeMember guid kick online lfgOutside env) := by
  obtain ⟨_, hl, hcases⟩ := LootWorld.removeMember_rolls hw guid kick online lfgOutside env
  have hg : (w.removeMember guid kick online lfgOutside env).given = w.given :=
    removeMember_given hw
  rcases hcases with ⟨_, he⟩ | ⟨_, hr, _⟩ | ⟨_, hr, _⟩
  · rw [he]
    exact h
  · exact (h.sublist (List.nil_sublist _)).of_fields hg hl hr
  · refine (h.mapRolls (fun r => ?_)).of_fields hg hl hr
    exact ⟨by simp, .inr (by simp)⟩

theorem step (h : GivenInv w) (hw : RollsWF w) {e : LootEvent} (hok : GiveOk store w e) :
    GivenInv (w.step store e) := by
  cases e with
  | fillLoot l gold drops owner looters => exact h.fillLoot hok
  | clearLoot l => exact h.clearLoot
  | groupLoot l info => exact h.openRolls hok
  | needBeforeGreed l info =>
    simp only [LootWorld.step, LootWorld.needBeforeGreed]
    split
    · exact h.openRolls hok
    · exact h
  | storeLootItem l slot guid canStore => exact h.storeLootItem hok
  | masterGive l slot giver target canStore =>
    simp only [LootWorld.step]
    cases hg : w.handleLootMasterGive l slot giver target canStore with
    | none => exact h
    | some w' => exact h.masterGive hok hg
  | lootMoney l =>
    exact h.touch (.of_later ⟨.refl _, .refl _⟩ rfl rfl) (fun r hr hl => h.rolled r hr l hl)
  | vote p guid choice env => exact h.countRollVote p guid choice env
  | endRoll l env => exact h.endRollLoop
  | addMember guid =>
    simp only [LootWorld.step]
    split
    · rename_i g hg
      have hsame := (addMember_frame hg).2
      show GivenInv (w.setGroup g)
      exact GivenInv.of_fields (w := w) h rfl rfl hsame
    · exact h
  | login guid => exact GivenInv.of_fields (w := w) h rfl rfl rfl
  | logout guid => exact GivenInv.of_fields (w := w) h rfl rfl rfl
  | removeMember guid kick online lfgOutside env => exact h.removeMember hw

theorem init : GivenInv {} where
  once := .nil
  recorded := fun _ ha => nomatch ha
  distinct := by
    intro l quest
    cases quest <;> exact empty_distinct
  rolled := fun _ hr => nomatch hr
  places := .nil

end GivenInv

theorem given_inv {store : TemplateStore} {w : LootWorld} {es : List LootEvent}
    (h : Run (LootWorld.step store) (GiveOk store) {} es w) : RollsWF w ∧ GivenInv w :=
  h.invariant (I := fun w => RollsWF w ∧ GivenInv w)
    (fun _ _ hi hok => ⟨LootWorld.step_wf hi.1 _, hi.2.step hi.1 hok⟩)
    ⟨LootWorld.init_wf, GivenInv.init⟩

/-- In a run of safe steps no loot unit is given out twice. -/
theorem loot_given_once {store : TemplateStore} {w : LootWorld} {es : List LootEvent}
    (h : Run (LootWorld.step store) (GiveOk store) {} es w) :
    (w.given.map Award.unit).Nodup :=
  (given_inv h).2.once

instance LootWorld.autoStoreSafe.decidable {store : TemplateStore} {l : Nat} {p : FillLooter}
    (w : LootWorld) (i : Nat) : Decidable (LootWorld.autoStoreSafe store l p w i) :=
  inferInstanceAs (Decidable (_ = true → _ = true → _ = true))

instance LootWorld.fillForSafe.decidable {store : TemplateStore} {l : Nat} (w : LootWorld)
    (p : FillLooter) : Decidable (LootWorld.fillForSafe store l w p) :=
  inferInstanceAs (Decidable (p.presentAtLooting = true → Admitted _ _ _ _))

instance GiveOk.decidable {store : TemplateStore} {w : LootWorld} :
    (e : LootEvent) → Decidable (GiveOk store w e)
  | .fillLoot l _ _ _ _ => inferInstanceAs
      (Decidable (Admitted (LootWorld.fillNotNormalLootFor store l) _ _ _))
  | .groupLoot _ _ => inferInstanceAs (Decidable (_ = true))
  | .needBeforeGreed _ _ => inferInstanceAs (Decidable (_ = true))
  | .storeLootItem _ _ _ _ => inferInstanceAs (Decidable (_ = true → _ = true))
  | .masterGive _ _ _ _ _ => inferInstanceAs (Decidable (_ = _ → _ ≠ _ ∧ (_ = true → _ = true)))
  | .clearLoot _ => isTrue trivial
  | .lootMoney _ => isTrue trivial
  | .vote _ _ _ _ => isTrue trivial
  | .endRoll _ _ => isTrue trivial
  | .addMember _ => isTrue trivial
  | .login _ => isTrue trivial
  | .logout _ => isTrue trivial
  | .removeMember _ _ _ _ _ => isTrue trivial

/-- A loot with an item for each, a conditional item and a plain one, for two players. -/
def sampleFill : LootEvent :=
  .fillLoot 0 10 [({ itemid := 8 }, {}), ({ itemid := 9, conditions := [1] }, {}),
      ({ itemid := 9 }, {})] (some 1)
    [⟨sampleLooter 1, true, fun _ => true⟩, ⟨sampleLooter 2, true, fun _ => true⟩]

def sampleTakes : List LootEvent :=
  [sampleFill, .storeLootItem 0 0 1 true, .storeLootItem 0 0 2 true, .storeLootItem 0 1 2 true,
    .storeLootItem 0 2 1 true]

theorem loot_given_once_sample : (Admitted (LootWorld.step sampleStore) (GiveOk sampleStore) {}
      sampleTakes) ∧
    ((sampleTakes.foldl (LootWorld.step sampleStore) {}).given.map Award.unit).Nodup :=
  ⟨by decide, loot_given_once (Admitted.run (by decide))⟩

/-- Both players are registered for the conditional item, and both get it. -/
theorem loot_given_twice : ¬ ∀ es : List LootEvent,
    ((es.foldl (LootWorld.step sampleStore) {}).given.map Award.unit).Nodup := by
  intro h
  have htwice := h [sampleFill, .storeLootItem 0 1 1 true, .storeLootItem 0 1 2 true]
  revert htwice
  decide

end SkyfireBG
