import SkyfireBG.Buyback.Kept

/-!
# SkyfireBG.Buyback.Restored

A sale that is taken back, and what is deleted for a sale.

* `sell_discards`, `sell_loses` — the item that has to go.
* `sell_takes`, `buyback_gives` — the items that a sale takes and a buyback gives.
* `buyback_kept`                — all runs.
-/

namespace SkyfireBG

namespace BuybackSlots

open Holdings (Sound Taken)

variable {P : Type} [DecidableEq P] {v : TradeRules} {p : P} {s s' s'' : BuybackSlots P}
  {g k n : Nat} {proto : ItemTemplate} {units : Nat → Nat} {w : Holdings P}

theorem added_eq (hs : Ready p s) (ht : Taken v.stores s.items w p g n proto) (now : Int) :
    ∃ k, k = ({ s with items := w } : BuybackSlots P).nextBuyBackSlot p ∧
      isBuybackSlot k = true ∧
      (({ s with items := w } : BuybackSlots P).addItemToBuyBackSlot p v now g).items =
        (w.clear (.slot p k)).put (.slot p k) g ∧
      (({ s with items := w } : BuybackSlots P).addItemToBuyBackSlot p v now g).discarded =
        ({ s with items := w } : BuybackSlots P).deleted p k true ++ s.discarded ∧
      (({ s with items := w } : BuybackSlots P).addItemToBuyBackSlot p v now g).sold =
        g :: s.sold := by
  have hk := nextBuyBackSlot_isBuybackSlot (hs.offShelf ht.shelf)
  refine ⟨_, rfl, hk, ?_⟩
  rw [addItemToBuyBackSlot]
  dsimp only
  rw [removeItem_eq hk]
  exact ⟨rfl, rfl, rfl⟩

theorem Taken.carried (ht : Taken v.stores s.items w p g n proto) (x : Nat) :
    w.carried p x + (if x = proto.itemId then n else 0) = s.items.carried p x := by
  have hold : s.items.carried p x + s.items.shelfSum p (s.items.entryCount x none) =
      s.items.total p x := Holdings.carried_add_shelfSum
  have hnew : w.carried p x + w.shelfSum p (w.entryCount x none) = w.total p x :=
    Holdings.carried_add_shelfSum
  rw [ht.shelf.shelfSum] at hnew
  have htotal := ht.total x
  omega

theorem carried_shelve (ht : Taken v.stores s.items w p g n proto) (hk : isBuybackSlot k = true)
    (x : Nat) : ((w.clear (.slot p k)).put (.slot p k) g).carried p x = w.carried p x := by
  obtain ⟨hsound, -, hcarried⟩ := Holdings.shelf_clear (p := p) ht.sound hk
  have hempty : (w.clear (.slot p k)).held (.slot p k) = none := Function.update_self ..
  have hkeep : Holdings.Keepable v.stores (w.clear (.slot p k)) g := by
    refine ⟨?_, ?_, ?_, ht.spare.old⟩
    · rw [Item.entry, Holdings.clear_item, ht.spare.proto]
      exact ht.known
    · rw [Holdings.clear_item, ht.count]
      exact ht.pos
    · rw [Holdings.clear_item, ht.count, ht.spare.proto]
      exact ht.le
  obtain ⟨-, -, hput⟩ := Holdings.shelf_put hsound hk hempty
    ⟨ht.spare.absent.clear, ht.spare.old, ht.spare.proto⟩ hkeep
  rw [hput, hcarried]

theorem sell_takes {o : SellOrder} (hs : Kept v p units s) (h : s.handleSellItem p v o = .ok s') :
    ∃ g, s'.sold = g :: s.sold ∧
      s'.money = modifyMoney s.money
        (toInt32 (priceOf v (s'.items.item g).entry (s'.items.item g).count)) ∧
      ∀ x, s'.items.carried p x +
        (if x = (s'.items.item g).entry then (s'.items.item g).count else 0) =
          s.items.carried p x := by
  obtain ⟨sold, n, proto, w, ht, rfl⟩ := sell_cases hs.sound h
  obtain ⟨k, -, hk, hitems, -, hsold⟩ := added_eq hs.ready ht o.now
  refine ⟨sold, hsold, ?_⟩
  dsimp only
  rw [hitems, Holdings.put_item, Holdings.clear_item, Item.entry, ht.spare.proto, ht.count]
  refine ⟨rfl, fun x => ?_⟩
  rw [carried_shelve ht hk]
  exact Taken.carried ht x

def DiscardsOldest (p : P) (s s' : BuybackSlots P) : Prop :=
  s'.discarded = s.discarded ∨
    (∀ slot, isBuybackSlot slot = true → Occupied p s slot) ∧
    ∃ k g, isBuybackSlot k = true ∧ s.itemIn p k = some g ∧
      s'.discarded = (g, s.items.item g) :: s.discarded ∧
      ∀ slot, isBuybackSlot slot = true → s.timestamp k ≤ s.timestamp slot

theorem occupied_taken (ht : Taken v.stores s.items w p g n proto) (hk : isBuybackSlot k = true) :
    Occupied p ({ s with items := w } : BuybackSlots P) k ↔ Occupied p s k := by
  rw [Occupied, Occupied, itemIn, itemIn, ht.shelf.held k hk]

theorem seesFree_taken (hs : Ready p s) (ht : Taken v.stores s.items w p g n proto) :
    SeesFree p ({ s with items := w } : BuybackSlots P) ↔ SeesFree p s := by
  have hall : (∀ slot, isBuybackSlot slot = true →
      Occupied p ({ s with items := w } : BuybackSlots P) slot) ↔
      ∀ slot, isBuybackSlot slot = true → Occupied p s slot :=
    forall₂_congr fun slot hslot => occupied_taken ht hslot
  rw [SeesFree, SeesFree, hall, occupied_taken ht hs.current, occupied_taken ht (by decide)]

theorem deleted_taken (ht : Taken v.stores s.items w p g n proto) (hk : isBuybackSlot k = true) :
    ({ s with items := w } : BuybackSlots P).deleted p k true = s.deleted p k true := by
  rw [deleted, deleted, itemIn, itemIn, ht.shelf.held k hk]
  cases hold : s.items.held (.slot p k) with
  | none => rfl
  | some old =>
    dsimp only
    rw [ht.shelf.item k old hk hold]

theorem sell_discards {o : SellOrder} (hs : Kept v p units s)
    (h : s.handleSellItem p v o = .ok s') (hsees : SeesFree p s) : DiscardsOldest p s s' := by
  obtain ⟨sold, n, proto, w, ht, rfl⟩ := sell_cases hs.sound h
  obtain ⟨k, hnext, hk, -, hdiscarded, -⟩ := added_eq hs.ready ht o.now
  rw [deleted_taken ht hk, deleted] at hdiscarded
  cases hg : s.itemIn p k with
  | none =>
    rw [hg] at hdiscarded
    exact .inl hdiscarded
  | some g =>
    rw [hg] at hdiscarded
    have hgoes : Occupied p ({ s with items := w } : BuybackSlots P) k := by
      rw [occupied_taken ht hk, Occupied, hg]
      rfl
    rw [hnext] at hgoes
    obtain ⟨hall, hmin⟩ := nextBuyBackSlot_oldest (hs.ready.offShelf ht.shelf)
      ((seesFree_taken hs.ready ht).mpr hsees) hgoes
    rw [← hnext] at hmin
    exact .inr ⟨fun slot hslot => (occupied_taken ht hslot).mp (hall slot hslot), k, g, hk, hg,
      hdiscarded, hmin⟩

theorem buyback_gives {o : BuybackOrder} (hs : Kept v p units s)
    (h : s.handleBuybackItem p v o = .ok s') : ∃ g, s.itemIn p o.slot = some g ∧
      s.price o.slot ≤ s.money ∧ s'.money = modifyMoney s.money (-toInt32 (s.price o.slot)) ∧
      ∀ x, s'.items.carried p x = s.items.carried p x +
        if x = (s.items.item g).entry then (s.items.item g).count else 0 := by
  obtain ⟨g, dest, hk, hg, hprice, hok, hdest, rfl⟩ := buyback_cases h
  obtain ⟨-, -, -, -, hcarried⟩ := Holdings.shelf_store hs.sound hk hg hok hdest _ _ rfl rfl
  exact ⟨g, hg, hprice, rfl, hcarried⟩

/-- The counts are what they were before the sale, and so is the money, if the sale did not go over
the limit. -/
structure Restores (p : P) (s s' s'' : BuybackSlots P) (k : Nat) : Prop where
  carried : ∀ x, s''.items.carried p x = s.items.carried p x
  money : s.money + s'.price k ≤ MAX_MONEY_AMOUNT → s''.money = s.money

theorem sell_paid {o : SellOrder} (hs : Kept v p units s) (h : s.handleSellItem p v o = .ok s')
    (hsold : s'.sold = g :: s.sold) (hk : isBuybackSlot k = true) (hin : s'.itemIn p k = some g)
    (hlimit : s.money + s'.price k ≤ MAX_MONEY_AMOUNT) : s'.money = s.money + s'.price k := by
  obtain ⟨g', hsold', hmoney, -⟩ := sell_takes hs h
  have hg : g' = g := (List.cons.inj (hsold'.symm.trans hsold)).1
  have hle : s'.price k ≤ MAX_MONEY_AMOUNT := Nat.le_trans (Nat.le_add_left _ _) hlimit
  rw [hg, ← (hs.sell h).priced k g hk hin, toInt32_of_le hle, modifyMoney_fits hlimit] at hmoney
  exact hmoney

theorem sell_then_buyback {o : SellOrder} {o' : BuybackOrder} (hs : Kept v p units s)
    (h : s.handleSellItem p v o = .ok s') (hsold : s'.sold = g :: s.sold)
    (hin : s'.itemIn p o'.slot = some g) (h' : s'.handleBuybackItem p v o' = .ok s'') :
    Restores p s s' s'' o'.slot := by
  obtain ⟨g', hsold', -, htakes⟩ := sell_takes hs h
  obtain ⟨g'', hin', -, hpaid, hgives⟩ := buyback_gives (hs.sell h) h'
  obtain ⟨-, -, hk, -⟩ := buyback_cases h'
  have hg : g' = g := (List.cons.inj (hsold'.symm.trans hsold)).1
  have hg' : g'' = g := Option.some.inj (hin'.symm.trans hin)
  rw [hg] at htakes
  rw [hg'] at hgives
  refine ⟨fun x => by rw [hgives, htakes], fun hlimit => ?_⟩
  have hcredit := sell_paid hs h hsold hk hin hlimit
  have hback : modifyMoney s'.money (-toInt32 (s'.price o'.slot)) + s'.price o'.slot = s'.money :=
    modifyMoney_debit (hcredit ▸ hlimit) (by omega)
  rw [← hpaid] at hback
  omega

theorem sell_then_enough {o : SellOrder} {o' : BuybackOrder} (hs : Kept v p units s)
    (h : s.handleSellItem p v o = .ok s') (hsold : s'.sold = g :: s.sold)
    (hin : s'.itemIn p o'.slot = some g) (hlimit : s.money + s'.price o'.slot ≤ MAX_MONEY_AMOUNT) :
    s'.handleBuybackItem p v o' ≠ .error (.buyError .notEnoughtMoney) := by
  rw [handleBuybackItem, getItemFromBuyBackSlot]
  split
  · intro hc
    cases hc
  by_cases hk : isBuybackSlot o'.slot = true
  · have hcredit := sell_paid hs h hsold hk hin hlimit
    rw [if_pos hk, hin]
    dsimp only
    rw [if_neg (by omega)]
    split <;> intro hc <;> cases hc
  · rw [if_neg hk]
    intro hc
    cases hc

/-- Each sold object is accounted for once and is in one place, no items get lost but those that are
deleted, and where a free slot is seen only the oldest item of full slots is; a sale that is taken
back leaves the counts as they were, and the money unless the sale went over the limit. -/
theorem buyback_kept (v : TradeRules) (p : P) (w : Holdings P) (money : Nat) (ts : List Trade)
    (hw : Sound v.stores w)
    (hempty : ∀ slot, isBuybackSlot slot = true → w.held (.slot p slot) = none) :
    let s := play p v (start w money) ts
    Storage.Single s.items.held ∧
    (∀ g, s.sold.count g =
      s.boughtBack.count g + (s.discarded.map Prod.fst).count g + onShelf p s g) ∧
    (∀ d ∈ s.discarded, Storage.Absent s.items.held d.1) ∧
    (∀ x, s.items.carried p x + s.items.shelfSum p (s.items.entryCount x none) +
      s.discardedCount x = w.carried p x) ∧
    (∀ o s', s.handleBuybackItem p v o = .ok s' → s'.discarded = s.discarded) ∧
    (∀ o s', s.handleSellItem p v o = .ok s' → SeesFree p s → DiscardsOldest p s s') ∧
    ∀ o s' g o', s.handleSellItem p v o = .ok s' → s'.sold = g :: s.sold →
      s'.itemIn p o'.slot = some g →
      (s.money + s'.price o'.slot ≤ MAX_MONEY_AMOUNT →
        s'.handleBuybackItem p v o' ≠ .error (.buyError .notEnoughtMoney)) ∧
      ∀ s'', s'.handleBuybackItem p v o' = .ok s'' → Restores p s s' s'' o'.slot := by
  intro s
  have hs : Kept v p (w.carried p) s := (start_kept hw hempty).play ts
  refine ⟨hs.sound.single, hs.ledger, fun d hd => (hs.loose d hd).absent, fun x => ?_, ?_, ?_, ?_⟩
  · rw [Holdings.carried_add_shelfSum]
    exact hs.total x
  · intro o s' h
    obtain ⟨g, dest, hk, hg, -, -, -, rfl⟩ := buyback_cases h
    rw [removeItem_eq hk, deleted, hg]
    rfl
  · intro o s' h hsees
    exact sell_discards hs h hsees
  · intro o s' g o' h hsold hin
    exact ⟨sell_then_enough hs h hsold hin, fun s'' h' => sell_then_buyback hs h hsold hin h'⟩

theorem stackRules_store_id (entry : Nat) (proto : ItemTemplate)
    (h : some ({ itemId := entry, stackable := 20 } : ItemTemplate) = some proto) :
    proto.itemId = entry := by
  cases h
  rfl

theorem stackRules_slots_le (entry : Nat) (proto : ItemTemplate)
    (h : some ({ itemId := entry, stackable := 20 } : ItemTemplate) = some proto) :
    proto.containerSlots ≤ MAX_BAG_SIZE := by
  cases h
  exact Nat.zero_le _

def stackRules : TradeRules where
  stores := {
    store := fun entry => some { itemId := entry, stackable := 20 }
    store_id := stackRules_store_id
    slots_le := stackRules_slots_le }
  sellPrice := fun _ => 5
  loginTime := 0

def stackHoldings : Holdings Unit where
  item := fun _ => { proto := { itemId := 100, stackable := 20 }, count := 20, owner := some () }
  held := fun pl => if pl = .slot () INVENTORY_SLOT_ITEM_START then some 1 else none
  nextGuid := 2

theorem stackHoldings_sound : Sound stackRules.stores stackHoldings := by
  have hheld : ∀ pl g, stackHoldings.held pl = some g →
      pl = .slot () INVENTORY_SLOT_ITEM_START ∧ g = 1 := by
    intro pl g hg
    rw [stackHoldings, Option.ite_none_right_eq_some] at hg
    exact ⟨hg.1, (Option.some.inj hg.2).symm⟩
  refine ⟨?_, fun _ _ _ => rfl, fun _ _ _ => ⟨(by decide : 0 < 20), (by decide : 20 ≤ 20)⟩, ?_,
    ?_, ?_⟩
  · intro pl pl' g hg hg'
    exact (hheld pl g hg).1.trans (hheld pl' g hg').1.symm
  · intro pl g hg
    rw [(hheld pl g hg).2]
    exact Nat.lt_succ_self 1
  · intro p slot g hg
    cases (hheld _ g hg).1
    decide
  · intro bag j g hg
    cases (hheld _ g hg).1

def stackTrades : List Trade :=
  [.sell { itemguid := 1, count := 3, now := 10 }, .sell { itemguid := 1, count := 4, now := 11 },
    .buyback { slot := 74 }]

theorem buyback_kept_stack :
    let s := play () stackRules (start stackHoldings 7) stackTrades
    s.money = 27 ∧ s.items.carried () 100 + s.items.shelfSum () (s.items.entryCount 100 none) +
      s.discardedCount 100 = stackHoldings.carried () 100 := by
  refine ⟨by decide +kernel, ?_⟩
  obtain ⟨-, -, -, htotal, -⟩ := buyback_kept stackRules () stackHoldings 7 stackTrades
    stackHoldings_sound (fun slot hslot => if_neg (by rintro ⟨⟩; exact absurd hslot (by decide)))
  exact htotal 100

/-- Near the limit, the five copper for an item are not all paid out, but all taken back. -/
theorem buyback_at_limit :
    let s := start stackHoldings (MAX_MONEY_AMOUNT - 3)
    let s' := play () stackRules s
      [.sell { itemguid := 1, count := 1, now := 0 }, .buyback { slot := 74 }]
    s'.sold = [2] ∧ s'.boughtBack = [2] ∧ s.money = MAX_MONEY_AMOUNT - 3 ∧
      s'.money = MAX_MONEY_AMOUNT - 5 := by
  decide +kernel

/-- The other half of what a sale deletes: where the search sees no free slot though there is one, an
item is lost for every sale. -/
theorem sell_loses (v : TradeRules) (p : P) (w : Holdings P) (money : Nat) (ts : List Trade)
    (hw : Sound v.stores w)
    (hempty : ∀ slot, isBuybackSlot slot = true → w.held (.slot p slot) = none) :
    let s := play p v (start w money) ts
    ∀ o s', s.handleSellItem p v o = .ok s' → ¬SeesFree p s →
      (∃ slot, isBuybackSlot slot = true ∧ ¬Occupied p s slot) ∧
        ∃ d, s'.discarded = d :: s.discarded := by
  intro s o s' h hsees
  have hs : Kept v p (w.carried p) s := (start_kept hw hempty).play ts
  obtain ⟨sold, n, proto, w, ht, rfl⟩ := sell_cases hs.sound h
  obtain ⟨k, hnext, hk, -, hdiscarded, -⟩ := added_eq hs.ready ht o.now
  obtain ⟨hgoes, slot, hslot, hfree⟩ :=
    nextBuyBackSlot_lost fun hc => hsees ((seesFree_taken hs.ready ht).mp hc)
  rw [← hnext, occupied_taken ht hk] at hgoes
  rw [occupied_taken ht hslot] at hfree
  refine ⟨⟨slot, hslot, hfree⟩, ?_⟩
  obtain ⟨g, hg⟩ := Option.isSome_iff_exists.mp hgoes
  rw [deleted_taken ht hk, deleted, hg] at hdiscarded
  exact ⟨_, hdiscarded⟩

def unseenTrades : List Trade :=
  List.replicate 3 (.sell { itemguid := 1, count := 1, now := 10 }) ++
    .buyback { slot := 75 } ::
      List.replicate 9 (.sell { itemguid := 1, count := 1, now := 11 })

theorem sell_loses_unseen :
    let s := play () stackRules (start stackHoldings 0) unseenTrades
    s.discarded = [] ∧ ∃ s', s.handleSellItem () stackRules
        { itemguid := 1, count := 1, now := 12 } = .ok s' ∧
      ∃ d, s'.discarded = [d] := by
  intro s
  have hnone : s.discarded = [] := by decide +kernel
  have hok : (s.handleSellItem () stackRules { itemguid := 1, count := 1, now := 12 }).toBool =
      true := by decide +kernel
  cases h : s.handleSellItem () stackRules { itemguid := 1, count := 1, now := 12 } with
  | error e =>
    rw [h] at hok
    cases hok
  | ok s' =>
    have hunseen : ¬SeesFree () s := by
      have hseen : (s.itemIn () s.currentBuybackSlot).isSome = true ∧
          (s.itemIn () BUYBACK_SLOT_START).isSome = true ∧ (s.itemIn () 75).isSome = false := by
        decide +kernel
      rintro (hcurrent | hfirst | hall)
      · exact hcurrent hseen.1
      · exact hfirst hseen.2.1
      · exact absurd ((hall 75 rfl).symm.trans hseen.2.2) (by decide)
    obtain ⟨-, d, hd⟩ := sell_loses stackRules () stackHoldings 0 unseenTrades stackHoldings_sound
      (fun slot hslot => if_neg (by rintro ⟨⟩; exact absurd hslot (by decide))) _ s' h hunseen
    exact ⟨hnone, s', rfl, d, hd.trans (by rw [hnone])⟩

end BuybackSlots

end SkyfireBG
