import SkyfireBG.Vendor.Exact

/-!
# SkyfireBG.Vendor.Purchase

`BuyItemFromVendorSlot` takes exactly the price of what it gives, from a player who can pay.
-/

namespace SkyfireBG

namespace VendorVisit

variable {P : Type} [DecidableEq P] {v : VendorVisit P} {p : P} {s : Shop P} {o : BuyOrder}
  {proto : ItemTemplate} {crItem : VendorItem} {n : Nat}

section Branches

variable (hs : v.Valid p s) (hstore : v.stores.store crItem.item = some proto)
  (hprice : v.goldDue proto crItem n ≤ s.money)
  (hstock : crItem.maxcount ≠ 0 → (v.price crItem.item).buyCount * n ≤ v.stock s crItem)

include hs hstore hprice hstock

theorem storeNewItem_bought {pos : Pos}
    (hpos : isInventoryPos pos = true ∨ pos = (NULL_BAG, NULL_SLOT))
    (hcovers : (s.belongings.holdings.canStoreItem p v.stores pos [] crItem.item
      ((v.price crItem.item).buyCount * n) none false).res = .ok → v.CoversPrice p s crItem n)
    {r : Except Refusal Unit × Shop P}
    (hr : v.storeNewItem p s crItem pos n (v.goldDue proto crItem n) = r) :
    (∃ msg b, r = (.error msg, { s with belongings := b }) ∧ s.belongings.Same b) ∨
      v.Bought p proto crItem n s r.2 := by
  have hid : proto.itemId = crItem.item := v.stores.store_id _ _ hstore
  subst hr
  dsimp only [storeNewItem]
  split
  · exact .inl ⟨_, s.belongings, rfl, .refl⟩
  · rename_i hok
    right
    have hplan := Holdings.canStoreItem_fits hstore hpos (not_not.mp hok)
    set plan := s.belongings.holdings.canStoreItem p v.stores pos [] crItem.item
      ((v.price crItem.item).buyCount * n) none false
    have hsum := hplan.sum
    rw [Nat.add_zero] at hsum
    have hpaid : v.Paid p crItem n (v.goldDue proto crItem n) s
        (v.pay p s crItem n (v.goldDue proto crItem n)) :=
      pay_paid hs hprice (hcovers (not_not.mp hok))
    set s₁ := v.pay p s crItem n (v.goldDue proto crItem n)
    by_cases hunits : (v.price crItem.item).buyCount * n = 0
    · have hnone : s₁.belongings.holdings.storeNewItem p v.stores plan.dest crItem.item =
          (none, s₁.belongings.holdings) := by
        rw [Holdings.storeNewItem, hstore, Option.bind_some, hsum, hunits]
        rfl
      rw [hnone]
      dsimp only
      refine hpaid.bought rfl hstock (fun _ => hunits) rfl rfl rfl fun x => ?_
      rw [hunits, ite_self, Nat.add_zero]
    · have hfits := (hplan.fits (Nat.pos_of_ne_zero hunits)).reduced hpaid.reduced
        fun g hg => by cases hg
      rw [← hid] at hstore
      obtain ⟨hstocked, hsome⟩ := Holdings.stocked_storeNewItem hpaid.sound hstore hfits
        (by rw [hsum]; exact Nat.pos_of_ne_zero hunits)
      rw [hid] at hstocked hsome
      refine hpaid.bought rfl hstock (fun hnone => ?_) rfl rfl rfl fun x => ?_
      · rw [hsome] at hnone
        cases hnone
      · simp only [Belongings.amount, hstocked.total, hsum]
        omega

theorem equipNewItem_bought {slot : Nat} (hslot : slot < INVENTORY_SLOT_BAG_END)
    (hunits : (v.price crItem.item).buyCount * n = 1)
    (hfree : s.belongings.LooksForSlot v.equipper v.stores p proto → s.belongings.HandsFree p proto)
    (hcovers : (s.belongings.canEquipNewItem v.equipper v.stores p slot crItem.item false).1 = .ok →
      v.CoversPrice p s crItem n)
    {r : Except Refusal Unit × Shop P}
    (hr : v.equipNewItem p s crItem slot n (v.goldDue proto crItem n) = r) :
    (∃ msg b, r = (.error msg, { s with belongings := b }) ∧ s.belongings.Same b) ∨
      v.Bought p proto crItem n s r.2 := by
  have hid : proto.itemId = crItem.item := v.stores.store_id _ _ hstore
  have hnull : slot ≠ NULL_SLOT := by
    simp only [INVENTORY_SLOT_BAG_END, NULL_SLOT] at hslot ⊢
    omega
  obtain ⟨hsame, hsound, hok⟩ := Belongings.canEquipNewItem_same (c := v.equipper) hs.sound hstore
    hfree hnull
  subst hr
  dsimp only [equipNewItem]
  set can := s.belongings.canEquipNewItem v.equipper v.stores p slot crItem.item false
  split
  · exact .inl ⟨_, can.2.2, rfl, hsame⟩
  · rename_i hres
    right
    obtain ⟨hasked, hempty⟩ := hok (not_not.mp hres)
    obtain ⟨hred, hview, hloose⟩ := hsame.kept (p := p)
    set s₁ : Shop P := { s with belongings := can.2.2 } with hs₁
    have hvalid : v.Valid p s₁ := ⟨hsound, hs.counted.reduced hred, hs.money⟩
    obtain ⟨hitems, hcurrencies⟩ := hcovers (not_not.mp hres)
    have hkept : s₁.belongings.holdings.Covers p ((v.cost crItem).itemsDue n) := by
      intro c hc
      rw [hs₁, hloose]
      exact hitems c hc
    have hpaid : v.Paid p crItem n (v.goldDue proto crItem n) s₁
        (v.pay p s₁ crItem n (v.goldDue proto crItem n)) :=
      pay_paid hvalid hprice ⟨hkept, hcurrencies⟩
    set s₂ := v.pay p s₁ crItem n (v.goldDue proto crItem n)
    have huse : can.2.2.holdings.Usable p (INVENTORY_SLOT_BAG_0, slot) := by
      rw [Holdings.Usable, if_pos rfl]
      left
      simp only [INVENTORY_SLOT_BAG_END, BANK_SLOT_BAG_END] at hslot ⊢
      omega
    have huse' : s₂.belongings.holdings.Usable p (INVENTORY_SLOT_BAG_0, slot) :=
      hpaid.reduced.usable.mpr huse
    have hnone : s₂.belongings.holdings.getItemByPos p (INVENTORY_SLOT_BAG_0, slot) = none := by
      rw [← hred.getItemByPos_eq (by rw [hview]), huse.getItemByPos_eq] at hempty
      rw [huse'.getItemByPos_eq]
      refine Option.eq_none_iff_forall_not_mem.mpr fun g hg => ?_
      have hold := (hpaid.reduced.seen _ g hg).1
      rw [hs₁, hempty] at hold
      cases hold
    rw [← hid] at hstore
    obtain ⟨hstocked, hsome⟩ :=
      Belongings.stocked_equipNewItem hpaid.sound hstore huse' hnone
    rw [hid] at hstocked hsome
    rw [hasked, hsome, if_pos rfl]
    set equipped := s₂.belongings.holdings.equipNewItem p v.stores (INVENTORY_SLOT_BAG_0, slot)
      crItem.item
    set s₃ := v.sell { s₂ with belongings := { s₂.belongings with holdings := equipped.2 } } crItem
      ((v.price crItem.item).buyCount * n) equipped.1 with hs₃
    have hbought : v.Bought p proto crItem n s₁ s₃ := by
      refine hpaid.bought rfl hstock (fun hnone => ?_) rfl rfl rfl fun x => ?_
      · rw [hsome] at hnone
        cases hnone
      · simp only [Belongings.amount, hstocked.total, hunits]
        omega
    have hequipped : Holdings.Sound v.stores s₃.belongings.holdings := by
      rw [hs₃, sell_belongings]
      exact hstocked.sound
    refine hbought.alike ⟨rfl, fun x => ?_, rfl, rfl, fun _ _ => rfl⟩
      ⟨rfl, fun x => Belongings.amount_autoUnequip hequipped x, rfl, rfl, fun _ _ => rfl⟩
    exact hsame.amount hs.sound hsound x

end Branches

variable (v p s o)

omit [DecidableEq P] in
theorem findVendorItem_ok (h : v.findVendorItem o = .ok (proto, crItem)) :
    v.stores.store crItem.item = some proto ∧ crItem.item = o.item := by
  unfold findVendorItem at h
  split_ifs at h
  cases hstore : v.stores.store o.item with
  | none => rw [hstore] at h; cases h
  | some proto' =>
    rw [hstore] at h
    dsimp only at h
    cases hvendor : v.vendor with
    | none => rw [hvendor] at h; cases h
    | some vItems =>
      rw [hvendor] at h
      dsimp only at h
      split_ifs at h
      cases hitem : vItems[o.vendorslot]? with
      | none => rw [hitem] at h; cases h
      | some crItem' =>
        rw [hitem] at h
        dsimp only at h
        split_ifs at h with hne
        cases h
        have heq := not_not.mp hne
        exact ⟨heq ▸ hstore, heq⟩

/-- Where the player can pay what will be taken, he pays exactly the price, or nothing happens. -/
theorem purchase_paid_exactly (hs : v.Valid p s)
    (hpay : ∀ proto crItem, v.Accepted p o s proto crItem → v.CanPay p o s proto crItem) :
    v.Exact p o s (v.buyItemFromVendorSlot p s o).2 := by
  dsimp only [buyItemFromVendorSlot]
  cases hfound : v.findVendorItem o with
  | error r => exact .inl ⟨.refl, rfl, rfl, fun _ _ _ => rfl, fun _ _ => rfl⟩
  | ok sold =>
    obtain ⟨proto, crItem⟩ := sold
    obtain ⟨hstore, hitem⟩ := findVendorItem_ok v o hfound
    dsimp only
    set current := s.vendorItemCounts.getVendorItemCurrentCount crItem (v.price o.item).buyCount
      v.now with hcurrent
    set s₁ : Shop P := { s with vendorItemCounts := current.2 } with hs₁
    have hstocks : v.stock s₁ crItem = v.stock s crItem := by
      simp only [stock, hs₁, hcurrent, hitem]
      exact getCount_kept
    have halike : v.Alike p crItem s s₁ :=
      ⟨rfl, fun _ => rfl, rfl, hstocks, fun item hne => getCount_other hne⟩
    have hunchanged : ∀ b, s.belongings.Same b →
        v.Exact p o s { s₁ with belongings := b } := by
      intro b hsame
      refine .inl ⟨hsame, rfl, rfl, fun proto' crItem' hfound' => ?_, fun item hne => ?_⟩
      · cases hfound.symm.trans hfound'
        exact hstocks
      · exact getCount_other (hitem ▸ hne)
    split
    · exact hunchanged _ .refl
    rename_i hstock
    cases hreq : v.checkRequirements p s₁ crItem (v.countAsked o) with
    | error r =>
      rw [countAsked] at hreq
      rw [hreq]
      exact hunchanged _ .refl
    | ok _ =>
      have hrequirements := hreq
      rw [countAsked] at hreq
      rw [hreq]
      dsimp only
      rw [← countAsked, goldPrice_due, ← countSold]
      split
      · exact hunchanged _ .refl
      rename_i hmoney
      have hasked : crItem.maxcount ≠ 0 →
          (v.price crItem.item).buyCount * v.countAsked o ≤ v.stock s crItem := by
        intro hmax
        have hle := Nat.le_of_not_lt fun hlt => hstock ⟨hmax, hlt⟩
        rw [stock, hitem]
        exact hle
      obtain ⟨hprice, hhands⟩ :=
        hpay proto crItem ⟨hfound, hasked, hrequirements, Nat.le_of_not_lt hmoney⟩
      have hsold : crItem.maxcount ≠ 0 →
          (v.price crItem.item).buyCount * v.countSold o proto crItem ≤ v.stock s₁ crItem := by
        intro hmax
        rw [hstocks]
        exact Nat.le_trans (Nat.mul_le_mul_left _ goldPrice_le) (hasked hmax)
      have hvalid : v.Valid p s₁ := ⟨hs.sound, hs.counted, hs.money⟩
      have hcovers : v.HasPlace p s₁ crItem (uint8 o.bag, uint8 o.slot)
            (v.countSold o proto crItem) → v.CoversPrice p s₁ crItem (v.countSold o proto crItem) :=
        fun hplace => ⟨(hprice hplace).items, (hprice hplace).currencies⟩
      have hend : ∀ r : Except Refusal Unit × Shop P,
          (∃ msg b, r = (.error msg, { s₁ with belongings := b }) ∧ s₁.belongings.Same b) ∨
            v.Bought p proto crItem (v.countSold o proto crItem) s₁ r.2 → v.Exact p o s r.2 := by
        rintro r (⟨msg, b, rfl, hsame⟩ | hbought)
        · exact hunchanged b hsame
        · exact .inr ⟨proto, crItem, hfound, hbought.alike halike
            ⟨rfl, fun _ => rfl, rfl, rfl, fun _ _ => rfl⟩⟩
      refine hend _ ?_
      unfold storeOrEquip
      split
      · rename_i hpos
        rw [HasPlace, if_pos hpos] at hcovers
        exact storeNewItem_bought hvalid hstore (Nat.le_of_not_lt hmoney) hsold hpos.symm hcovers
          rfl
      · rename_i hpos
        split
        · rename_i hequip
          split
          · exact .inl ⟨_, s₁.belongings, rfl, .refl⟩
          · rename_i hone
            have hunits := not_not.mp hone
            rw [HasPlace, if_neg hpos] at hcovers
            exact equipNewItem_bought hvalid hstore (Nat.le_of_not_lt hmoney) hsold
              (isEquipmentPos_iff.mp hequip).2 hunits (hhands hequip hunits)
              (fun hok => hcovers ⟨hequip, hunits, hok⟩) rfl
        · exact .inl ⟨_, s₁.belongings, rfl, .refl⟩

theorem exampleStores_store_id (entry : Nat) (proto : ItemTemplate)
    (h : some ({ itemId := entry, stackable := 20 } : ItemTemplate) = some proto) :
    proto.itemId = entry := by
  cases h
  rfl

theorem exampleStores_slots_le (entry : Nat) (proto : ItemTemplate)
    (h : some ({ itemId := entry, stackable := 20 } : ItemTemplate) = some proto) :
    proto.containerSlots ≤ MAX_BAG_SIZE := by
  cases h
  exact Nat.zero_le _

def exampleStores : ItemStores where
  store := fun entry => some { itemId := entry, stackable := 20 }
  store_id := exampleStores_store_id
  slots_le := exampleStores_slots_le

/-- Entry 100 costs 5 copper for each; entry 101 costs a point of honor and two of entry 200. -/
def exampleVisit : VendorVisit Unit where
  stores := exampleStores
  price := fun entry => if entry = 100 then { buyPrice := 5 } else {}
  extendedCost := fun id => if id = 7 then
      some { requiredItem := [(200, 2)], requiredCurrency := [(CURRENCY_TYPE_HONOR_POINTS, 1)] }
    else none
  caps := fun _ => {}
  vendor := some [{ item := 100 }, { item := 101, extendedCost := 7 }]
  reputationRank := fun _ => 0
  arenaRating := fun _ => 0
  discount := fun n => n
  now := 0
  equipper := {}

def exampleOrder : BuyOrder := { vendorslot := 1, item := 101, count := 2 }

/-- Ten of entry 200 in the backpack, and `honor` points of honor. -/
def exampleShop (honor : Nat) : Shop Unit where
  belongings :=
    { holdings :=
        { item := fun _ => { proto := { itemId := 200, stackable := 20 }, count := 10 }
          held := fun pl => if pl = .slot () INVENTORY_SLOT_ITEM_START then some 1 else none
          nextGuid := 2 } }
  money := 100
  currencies := fun id => if id = CURRENCY_TYPE_HONOR_POINTS then some ⟨honor, 0⟩ else none
  vendorItemCounts := fun _ => none

theorem exampleShop_valid (honor : Nat) : exampleVisit.Valid () (exampleShop honor) where
  sound := by
    have hheld : ∀ pl g, (exampleShop honor).belongings.holdings.held pl = some g →
        pl = .slot () INVENTORY_SLOT_ITEM_START ∧ g = 1 := by
      intro pl g hg
      simp only [exampleShop] at hg
      split at hg
      · rename_i hpl
        exact ⟨hpl, (Option.some.inj hg).symm⟩
      · cases hg
    constructor
    · intro pl pl' g hg hg'
      exact (hheld pl g hg).1.trans (hheld pl' g hg').1.symm
    · intro pl g hg
      rfl
    · intro pl g hg
      exact ⟨(by decide : 0 < 10), (by decide : 10 ≤ 20)⟩
    · intro pl g hg
      obtain ⟨-, rfl⟩ := hheld pl g hg
      exact Nat.lt_succ_self 1
    · intro p slot g hg
      obtain ⟨heq, -⟩ := hheld _ g hg
      cases heq
      decide
    · intro bag j g hg
      cases (hheld _ g hg).1
  counted := fun pos g _ => (by decide : 10 < 2 ^ 32)
  money := (by decide : 100 ≤ MAX_MONEY_AMOUNT)

theorem purchase_paid_exactly_turnin :
    exampleVisit.Exact () exampleOrder (exampleShop 2)
      (exampleVisit.buyItemFromVendorSlot () (exampleShop 2) exampleOrder).2 := by
  refine purchase_paid_exactly _ _ _ _ (exampleShop_valid 2) ?_
  intro proto crItem haccepted
  cases haccepted.found
  refine ⟨fun _ => ⟨?_, ⟨?_, fun c hc hpos => ⟨.inl rfl, .inl rfl⟩⟩⟩,
    fun hequip => absurd hequip (by decide)⟩
  · unfold Holdings.Covers
    decide +kernel
  · decide +kernel

/-- Two of entry 101 for a single point of honor. -/
theorem purchase_paid_exactly_honor : exampleVisit.Valid () (exampleShop 1) ∧
    ¬ exampleVisit.Exact () exampleOrder (exampleShop 1)
      (exampleVisit.buyItemFromVendorSlot () (exampleShop 1) exampleOrder).2 := by
  have hpaid : (exampleVisit.buyItemFromVendorSlot () (exampleShop 1)
      exampleOrder).2.currencies.getCurrency CURRENCY_TYPE_HONOR_POINTS = 0 := by
    decide +kernel
  have hhad : (exampleShop 1).currencies.getCurrency CURRENCY_TYPE_HONOR_POINTS = 1 := by decide
  refine ⟨exampleShop_valid 1, ?_⟩
  rintro (hsame | ⟨proto, crItem, hfound, hbought⟩)
  · rw [hsame.currencies, hhad] at hpaid
    cases hpaid
  · have hall := hbought.currencies CURRENCY_TYPE_HONOR_POINTS
    cases hfound
    rw [hpaid, hhad] at hall
    exact absurd hall (by decide)

end VendorVisit

end SkyfireBG
