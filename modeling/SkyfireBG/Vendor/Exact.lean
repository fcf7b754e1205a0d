import SkyfireBG.Inventory.Equipped
import SkyfireBG.Vendor.Buy

/-!
# SkyfireBG.Vendor.Exact

A list of prices is paid one after the other.  Where what the player has covers the sum of the prices
of each kind, exactly that is taken.
-/

namespace SkyfireBG

def due (costs : List (Nat × Nat)) (x : Nat) : Nat :=
  (costs.map fun c => if c.1 = x then c.2 else 0).sum

variable {costs : List (Nat × Nat)} {c : Nat × Nat} {x : Nat}

@[simp] theorem due_nil : due [] x = 0 := rfl

@[simp] theorem due_cons : due (c :: costs) x = (if c.1 = x then c.2 else 0) + due costs x := by
  simp [due]

theorem le_due (hc : c ∈ costs) : c.2 ≤ due costs c.1 := by
  induction costs with
  | nil => cases hc
  | cons c' costs ih =>
    rw [due_cons]
    rcases List.mem_cons.mp hc with rfl | hc
    · rw [if_pos rfl]
      exact Nat.le_add_right _ _
    · exact Nat.le_trans (ih hc) (Nat.le_add_left _ _)

namespace Holdings

variable {P : Type} [DecidableEq P] {e : ItemStores} {w w' : Holdings P} {p : P}

/-- The player has stacks that pay these prices, out of trade and not worn as a bag. -/
def Covers (w : Holdings P) (p : P) (costs : List (Nat × Nat)) : Prop :=
  ∀ c ∈ costs, due costs c.1 ≤ w.loose p c.1 ∧ w.loose p c.1 < 2 ^ 32

/-- The counts of the stacks are `uint32`. -/
def Counted (w : Holdings P) (p : P) : Prop :=
  ∀ pos g, w.view p pos = some g → (w.item g).count < 2 ^ 32

omit [DecidableEq P] in
theorem Counted.reduced (h : w.Counted p) (hr : Reduced w w' p) : w'.Counted p := by
  intro pos g hg
  obtain ⟨hold, -, hcount⟩ := hr.seen pos g hg
  exact Nat.lt_of_le_of_lt hcount (h pos g hold)

theorem destroyed_costs (hw : Sound e w) (hcounted : w.Counted p) (hcovers : w.Covers p costs) :
    Sound e (costs.foldl (fun w c => w.destroyItemCount p c.1 c.2) w) ∧
      Reduced w (costs.foldl (fun w c => w.destroyItemCount p c.1 c.2) w) p ∧
      ∀ x, (costs.foldl (fun w c => w.destroyItemCount p c.1 c.2) w).total p x + due costs x =
        w.total p x := by
  induction costs generalizing w with
  | nil =>
    refine ⟨hw, .refl, fun x => ?_⟩
    rw [List.foldl_nil, due_nil, Nat.add_zero]
  | cons c costs ih =>
    obtain ⟨hle, hlt⟩ := hcovers c (.head _)
    have henough : c.2 ≤ w.loose p c.1 := Nat.le_trans (le_due (.head costs)) hle
    have hremoved : Removed e p c.1 c.2 w (w.destroyItemCount p c.1 c.2) :=
      removed_destroyItemCount hw hcounted hlt henough
    have hrest : (w.destroyItemCount p c.1 c.2).Covers p costs := by
      intro c' hc'
      obtain ⟨hle', hlt'⟩ := hcovers c' (.tail _ hc')
      have hloose := hremoved.loose c'.1
      rw [due_cons] at hle'
      by_cases heq : c.1 = c'.1
      · rw [if_pos heq] at hle'
        rw [if_pos heq.symm] at hloose
        omega
      · rw [if_neg heq] at hle'
        rw [if_neg (Ne.symm heq)] at hloose
        omega
    obtain ⟨hsound, hreduced, htotal⟩ :=
      ih hremoved.sound (hcounted.reduced hremoved.reduced) hrest
    rw [List.foldl_cons]
    refine ⟨hsound, hremoved.reduced.trans hreduced, fun x => ?_⟩
    rw [due_cons, ← hremoved.total x, ← htotal x]
    simp only [eq_comm (a := x)]
    omega

end Holdings

/-- The caps do not come in when `amount` is paid. -/
structure WithinCaps (caps : CurrencyCaps) (c : PlayerCurrency) (amount : Nat) : Prop where
  total : caps.total = 0 ∨ (c.totalCount : Int) - amount ≤ toInt32 caps.total
  week : caps.week = 0 ∨ max (toInt32 c.weekCount) 0 ≤ toInt32 caps.week

namespace PlayerCurrencies

variable {m m' : PlayerCurrencies} {caps : Nat → CurrencyCaps} {id amount : Nat}

theorem toInt32_of_lt {n : Nat} (h : n < 2 ^ 31) : toInt32 n = n := by
  rw [toInt32, Nat.mod_eq_of_lt (by omega), if_pos h]

theorem toInt32_lt (n : Nat) : toInt32 n < 2 ^ 31 := by
  unfold toInt32
  split <;> omega

def paid (c : PlayerCurrency) (amount : Nat) : PlayerCurrency :=
  ⟨c.totalCount - amount, (max (toInt32 c.weekCount) 0).toNat⟩

theorem modifyCurrency_debit (hpos : 0 < amount) (hle : amount ≤ m.getCurrency id)
    (hlt : m.getCurrency id < 2 ^ 31) (hcaps : WithinCaps (caps id) ((m id).getD {}) amount) :
    m.modifyCurrency (caps id) id (-toInt32 amount) =
      Function.update m id (some (paid ((m id).getD {}) amount)) := by
  obtain ⟨c, hc⟩ : ∃ c, m id = some c := by
    cases hc : m id with
    | none =>
      rw [getCurrency, hc] at hle
      exact absurd hle (Nat.not_le.mpr hpos)
    | some c => exact ⟨c, rfl⟩
  rw [hc, Option.getD_some] at hcaps ⊢
  rw [getCurrency, hc, Option.elim_some] at hle hlt
  have hamount : toInt32 amount = amount := toInt32_of_lt (Nat.lt_of_le_of_lt hle hlt)
  have htotal : toInt32 c.totalCount = c.totalCount := toInt32_of_lt hlt
  have hweek := toInt32_lt c.weekCount
  have hcounts : cappedCounts (caps id) ((c.totalCount : Int) - amount)
      (max (toInt32 c.weekCount) 0) =
      ((c.totalCount : Int) - amount, max (toInt32 c.weekCount) 0) := by
    obtain ⟨hcap, hcapw⟩ := hcaps
    unfold cappedCounts
    rw [if_neg (by omega)]
    dsimp only
    rw [if_neg (by omega)]
  have hnew : max ((c.totalCount : Int) + -(amount : Int)) 0 = (c.totalCount : Int) - amount := by
    omega
  have hgain : max (-(amount : Int)) 0 = 0 := by omega
  have hne : (c.totalCount : Int) - amount ≠ c.totalCount := by omega
  unfold modifyCurrency
  rw [hamount, if_neg (by omega), hc]
  dsimp only [Option.getD_some]
  rw [htotal, hnew, hgain, Int.add_zero, hcounts, if_pos hne, paid]
  congr 3
  · omega
  · omega

structure Covers (m : PlayerCurrencies) (caps : Nat → CurrencyCaps) (costs : List (Nat × Nat)) :
    Prop where
  le : ∀ c ∈ costs, due costs c.1 ≤ m.getCurrency c.1 ∧ m.getCurrency c.1 < 2 ^ 31
  caps : ∀ c ∈ costs, 0 < c.2 → WithinCaps (caps c.1) ((m c.1).getD {}) c.2

theorem paid_costs (hcovers : m.Covers caps costs) :
    ∀ x, (costs.foldl (fun m c => m.modifyCurrency (caps c.1) c.1 (-toInt32 c.2)) m).getCurrency x +
      due costs x = m.getCurrency x := by
  induction costs generalizing m with
  | nil => exact fun _ => rfl
  | cons c costs ih =>
    obtain ⟨hle, hlt⟩ := hcovers.le c (.head _)
    have henough : c.2 ≤ m.getCurrency c.1 := Nat.le_trans (le_due (.head costs)) hle
    rw [List.foldl_cons]
    by_cases hzero : c.2 = 0
    · have hsame : m.modifyCurrency (caps c.1) c.1 (-toInt32 c.2) = m := by
        rw [hzero]
        rfl
      have hdue : ∀ x, due (c :: costs) x = due costs x := by
        intro x
        rw [due_cons, hzero, ite_self, Nat.zero_add]
      rw [hsame]
      intro x
      rw [hdue x]
      refine ih ⟨fun c' hc' => ?_, fun c' hc' => hcovers.caps c' (.tail _ hc')⟩ x
      rw [← hdue]
      exact hcovers.le c' (.tail _ hc')
    · have hpos := Nat.pos_of_ne_zero hzero
      have hpaid := modifyCurrency_debit hpos henough hlt (hcovers.caps c (.head _) hpos)
      rw [hpaid]
      set m' : PlayerCurrencies :=
        Function.update m c.1 (some (paid ((m c.1).getD {}) c.2)) with hm'
      have hget : ∀ x, m'.getCurrency x + (if c.1 = x then c.2 else 0) = m.getCurrency x := by
        intro x
        by_cases hx : c.1 = x
        · subst hx
          have htotal : ((m c.1).getD {}).totalCount = m.getCurrency c.1 := by
            rw [getCurrency]
            cases m c.1 <;> rfl
          rw [if_pos rfl, getCurrency, hm', Function.update_self, Option.elim_some, paid, htotal]
          exact Nat.sub_add_cancel henough
        · rw [if_neg hx, getCurrency, hm', Function.update_of_ne (Ne.symm hx)]
          rfl
      have hrest : m'.Covers caps costs := by
        refine ⟨fun c' hc' => ?_, fun c' hc' hpos' => ?_⟩
        · obtain ⟨hle', hlt'⟩ := hcovers.le c' (.tail _ hc')
          have hnew := hget c'.1
          rw [due_cons] at hle'
          omega
        · have hcaps := hcovers.caps c' (.tail _ hc') hpos'
          by_cases hx : c.1 = c'.1
          · rw [← hx] at hcaps ⊢
            have hweek := toInt32_lt ((m c.1).getD {}).weekCount
            rw [hm', Function.update_self, Option.getD_some]
            refine ⟨hcaps.total.imp_right fun hcap => ?_, hcaps.week.imp_right fun hcap => ?_⟩
            · simp only [paid]
              omega
            · dsimp only [paid]
              rw [toInt32_of_lt (by omega)]
              omega
          · rwa [hm', Function.update_of_ne (Ne.symm hx)]
      intro x
      rw [due_cons, ← hget x, ← ih hrest x]
      omega

end PlayerCurrencies

end SkyfireBG

/-!
## Exact purchases

What it is to pay a purchase exactly: `Exact`.  The code looks for the currencies without the count
it then pays for, and for each price by itself; `CanPay` says that the player has what is taken.
-/

namespace SkyfireBG

namespace ItemExtendedCostEntry

variable (cost : ItemExtendedCostEntry) (n : Nat)

/-- The required items for `n` purchases. -/
def itemsDue : List (Nat × Nat) :=
  (cost.requiredItem.filter fun c => c.1 != 0).map fun c => (c.1, c.2 * n)

/-- The required currencies for `n` purchases. -/
def currenciesDue : List (Nat × Nat) :=
  (cost.requiredCurrency.filter fun c => c.1 != 0).map fun c => (c.1, currencyAmount c.1 c.2 * n)

end ItemExtendedCostEntry

namespace VendorVisit

variable {P : Type} (v : VendorVisit P) (p : P)

def stock (s : Shop P) (crItem : VendorItem) : Nat :=
  (s.vendorItemCounts.getVendorItemCurrentCount crItem (v.price crItem.item).buyCount v.now).1

def cost (crItem : VendorItem) : ItemExtendedCostEntry :=
  if crItem.extendedCost = 0 then {} else (v.extendedCost crItem.extendedCost).getD {}

/-- The price of `n` purchases in gold, after the discount. -/
def goldDue (proto : ItemTemplate) (crItem : VendorItem) (n : Nat) : Nat :=
  if crItem.isGoldRequired proto ∧ 0 < (v.price crItem.item).buyPrice then
    uint32 (v.discount ((v.price crItem.item).buyPrice.toNat * n))
  else 0

def countAsked (o : BuyOrder) : Nat := (v.price o.item).countAsked (uint8 o.count)

def countSold (o : BuyOrder) (proto : ItemTemplate) (crItem : VendorItem) : Nat :=
  (v.goldPrice proto crItem (v.countAsked o)).1

structure Unchanged (o : BuyOrder) (s s' : Shop P) : Prop where
  belongings : s.belongings.Same s'.belongings
  money : s'.money = s.money
  currencies : s'.currencies = s.currencies
  stock : ∀ proto crItem, v.findVendorItem o = .ok (proto, crItem) →
    v.stock s' crItem = v.stock s crItem
  others : ∀ item, item ≠ o.item → s'.vendorItemCounts item = s.vendorItemCounts item

/-- `n` times `BuyCount` items for `n` times the price. -/
structure Bought (proto : ItemTemplate) (crItem : VendorItem) (n : Nat) (s s' : Shop P) : Prop where
  money : s'.money + v.goldDue proto crItem n = s.money
  items : ∀ x, s'.belongings.amount p x + due ((v.cost crItem).itemsDue n) x =
    s.belongings.amount p x + if x = crItem.item then (v.price crItem.item).buyCount * n else 0
  currencies : ∀ id, s'.currencies.getCurrency id + due ((v.cost crItem).currenciesDue n) id =
    s.currencies.getCurrency id
  stock : crItem.maxcount ≠ 0 →
    v.stock s' crItem + (v.price crItem.item).buyCount * n = v.stock s crItem
  others : ∀ item, item ≠ crItem.item → s'.vendorItemCounts item = s.vendorItemCounts item

def Exact (o : BuyOrder) (s s' : Shop P) : Prop :=
  v.Unchanged o s s' ∨ ∃ proto crItem, v.findVendorItem o = .ok (proto, crItem) ∧
    v.Bought p proto crItem (v.countSold o proto crItem) s s'

structure Valid (s : Shop P) : Prop where
  sound : Holdings.Sound v.stores s.belongings.holdings
  counted : s.belongings.holdings.Counted p
  money : s.money ≤ MAX_MONEY_AMOUNT

variable [DecidableEq P]

structure Accepted (o : BuyOrder) (s : Shop P) (proto : ItemTemplate) (crItem : VendorItem) :
    Prop where
  found : v.findVendorItem o = .ok (proto, crItem)
  stock : crItem.maxcount ≠ 0 → (v.price crItem.item).buyCount * v.countAsked o ≤ v.stock s crItem
  requirements : v.checkRequirements p s crItem (v.countAsked o) = .ok ()
  money : v.goldDue proto crItem (v.countSold o proto crItem) ≤ s.money

/-- The player has what will be taken: items that he carries and does not wear as a bag, and
currencies, each for all prices together. -/
structure CoversPrice (s : Shop P) (crItem : VendorItem) (n : Nat) : Prop where
  items : s.belongings.holdings.Covers p ((v.cost crItem).itemsDue n)
  currencies : s.currencies.Covers v.caps ((v.cost crItem).currenciesDue n)

def HasPlace (s : Shop P) (crItem : VendorItem) (pos : Pos) (n : Nat) : Prop :=
  if pos = (NULL_BAG, NULL_SLOT) ∨ isInventoryPos pos then
    (s.belongings.holdings.canStoreItem p v.stores pos [] crItem.item
      ((v.price crItem.item).buyCount * n) none false).res = .ok
  else
    isEquipmentPos pos = true ∧ (v.price crItem.item).buyCount * n = 1 ∧
      (s.belongings.canEquipNewItem v.equipper v.stores p pos.2 crItem.item false).1 = .ok

/-- Where there is a place, the price is covered; and where a slot is looked for, a two-handed weapon
finds the off hand empty where it has to be. -/
structure CanPay (o : BuyOrder) (s : Shop P) (proto : ItemTemplate) (crItem : VendorItem) :
    Prop where
  price : v.HasPlace p s crItem (uint8 o.bag, uint8 o.slot) (v.countSold o proto crItem) →
    v.CoversPrice p s crItem (v.countSold o proto crItem)
  hands : isEquipmentPos (uint8 o.bag, uint8 o.slot) = true →
    (v.price crItem.item).buyCount * v.countSold o proto crItem = 1 →
      s.belongings.LooksForSlot v.equipper v.stores p proto → s.belongings.HandsFree p proto

section Stock

variable {m : VendorItemCounts} {crItem : VendorItem} {buyCount now used : Nat}

omit [DecidableEq P]

theorem getCount_kept :
    ((m.getVendorItemCurrentCount crItem buyCount now).2.getVendorItemCurrentCount crItem buyCount
      now).1 = (m.getVendorItemCurrentCount crItem buyCount now).1 := by
  unfold VendorItemCounts.getVendorItemCurrentCount
  by_cases hmax : crItem.maxcount = 0
  · simp [hmax]
  · have htime := crItem.refilled hmax
    simp only [if_neg hmax]
    cases hc : m crItem.item with
    | none => simp [hc]
    | some c =>
      dsimp only
      by_cases helapsed : c.lastIncrementTime + crItem.incrtime ≤ now
      · rw [if_pos helapsed]
        by_cases hfull : VendorItemCounts.refill crItem buyCount now c ≥ crItem.maxcount
        · rw [if_pos hfull]
          simp
        · rw [if_neg hfull]
          simp [Nat.not_le.mpr (Nat.lt_add_of_pos_right htime)]
      · rw [if_neg helapsed]
        simp [hc, helapsed]

theorem getCount_other {item : Nat} (h : item ≠ crItem.item) :
    (m.getVendorItemCurrentCount crItem buyCount now).2 item = m item := by
  unfold VendorItemCounts.getVendorItemCurrentCount
  split
  · rfl
  · split
    · rfl
    · split
      · split
        · exact Function.update_of_ne h _ _
        · exact Function.update_of_ne h _ _
      · rfl

theorem updateCount_other {item : Nat} (h : item ≠ crItem.item) :
    m.updateVendorItemCurrentCount crItem buyCount now used item = m item := by
  unfold VendorItemCounts.updateVendorItemCurrentCount
  split
  · rfl
  · cases m crItem.item with
    | none => exact Function.update_of_ne h _ _
    | some c => exact Function.update_of_ne h _ _

theorem updateCount_sold (hmax : crItem.maxcount ≠ 0)
    (hused : used ≤ (m.getVendorItemCurrentCount crItem buyCount now).1) :
    ((m.updateVendorItemCurrentCount crItem buyCount now used).getVendorItemCurrentCount crItem
      buyCount now).1 + used = (m.getVendorItemCurrentCount crItem buyCount now).1 := by
  have htime := Nat.not_le.mpr (Nat.lt_add_of_pos_right (n := now) (crItem.refilled hmax))
  unfold VendorItemCounts.getVendorItemCurrentCount at hused ⊢
  unfold VendorItemCounts.updateVendorItemCurrentCount
  simp only [if_neg hmax] at hused ⊢
  cases hc : m crItem.item with
  | none =>
    simp only [hc] at hused
    simp only [Function.update_self, htime, if_false]
    exact Nat.sub_add_cancel hused
  | some c =>
    simp only [hc] at hused
    simp only [Function.update_self, htime, if_false]
    by_cases helapsed : c.lastIncrementTime + crItem.incrtime ≤ now
    · simp only [if_pos helapsed] at hused ⊢
      by_cases hfull : VendorItemCounts.refill crItem buyCount now c ≥ crItem.maxcount
      · simp only [if_pos hfull, if_neg (Nat.not_lt.mpr hfull)] at hused ⊢
        exact Nat.sub_add_cancel hused
      · simp only [if_neg hfull, if_pos (Nat.lt_of_not_le hfull)] at hused ⊢
        exact Nat.sub_add_cancel hused
    · simp only [if_neg helapsed] at hused ⊢
      exact Nat.sub_add_cancel hused

end Stock

variable {v} {p} {s s' : Shop P} {o : BuyOrder} {proto : ItemTemplate} {crItem : VendorItem}
  {n price : Nat}

omit [DecidableEq P] in
theorem goldPrice_due : (v.goldPrice proto crItem n).2 =
    v.goldDue proto crItem (v.goldPrice proto crItem n).1 := by
  dsimp only [goldPrice, goldDue]
  by_cases hgold : crItem.isGoldRequired proto ∧ 0 < (v.price crItem.item).buyPrice
  · rw [if_pos hgold, if_pos hgold]
  · rw [if_neg hgold, if_neg hgold]

omit [DecidableEq P] in
theorem goldPrice_le : (v.goldPrice proto crItem n).1 ≤ n := by
  dsimp only [goldPrice]
  split
  · split
    · rename_i hlt
      exact Nat.le_trans (Nat.mod_le _ _) (Nat.le_of_lt hlt)
    · exact Nat.le_refl n
  · exact Nat.le_refl n

theorem currencyAmount_mul (id c : Nat) : currencyAmount id (c * n) = currencyAmount id c * n := by
  unfold currencyAmount
  split
  · rfl
  · exact Nat.mul_right_comm c n _

omit [DecidableEq P] in
theorem itemCosts_due {cost : ItemExtendedCostEntry} {w : Holdings P}
    (h : w.Covers p (cost.itemsDue n)) : cost.itemCosts n = cost.itemsDue n := by
  refine List.map_congr_left fun c hc => ?_
  have hmem : (c.1, c.2 * n) ∈ cost.itemsDue n := List.mem_map_of_mem hc
  obtain ⟨hle, hlt⟩ := h _ hmem
  have hdue := le_due hmem
  rw [uint32, Nat.mod_eq_of_lt]
  exact Nat.lt_of_le_of_lt (Nat.le_trans hdue hle) hlt

omit [DecidableEq P] in
theorem currencyCosts_due {cost : ItemExtendedCostEntry} {m : PlayerCurrencies}
    (h : m.Covers v.caps (cost.currenciesDue n)) : cost.currencyCosts n = cost.currenciesDue n := by
  refine List.map_congr_left fun c hc => ?_
  have hmem : (c.1, currencyAmount c.1 c.2 * n) ∈ cost.currenciesDue n := List.mem_map_of_mem hc
  obtain ⟨hle, hlt⟩ := h.le _ hmem
  have hdue := le_due hmem
  rw [currencyAmount_mul, uint32, Nat.mod_eq_of_lt]
  exact Nat.lt_of_le_of_lt (Nat.le_trans hdue hle) (Nat.lt_trans hlt (by decide))

omit [DecidableEq P] in
theorem due_free (h : v.cost crItem = {}) :
    (v.cost crItem).itemsDue n = [] ∧ (v.cost crItem).currenciesDue n = [] := by
  rw [h]
  exact ⟨rfl, rfl⟩

structure Paid (v : VendorVisit P) (p : P) (crItem : VendorItem) (n price : Nat) (s s' : Shop P) :
    Prop where
  sound : Holdings.Sound v.stores s'.belongings.holdings
  reduced : Holdings.Reduced s.belongings.holdings s'.belongings.holdings p
  total : ∀ x, s'.belongings.holdings.total p x + due ((v.cost crItem).itemsDue n) x =
    s.belongings.holdings.total p x
  mailed : s'.belongings.mailed = s.belongings.mailed
  money : s'.money + price = s.money
  currencies : ∀ id, s'.currencies.getCurrency id + due ((v.cost crItem).currenciesDue n) id =
    s.currencies.getCurrency id
  counts : s'.vendorItemCounts = s.vendorItemCounts

theorem pay_paid (hs : v.Valid p s) (hprice : price ≤ s.money)
    (hcovers : v.CoversPrice p s crItem n) :
    v.Paid p crItem n price s (v.pay p s crItem n price) := by
  obtain ⟨hitems, hcurrencies⟩ := hcovers
  have hmoney := modifyMoney_debit hs.money hprice
  unfold pay
  by_cases hcost : crItem.extendedCost = 0
  · have hfree : v.cost crItem = {} := by rw [cost, if_pos hcost]
    obtain ⟨hnoitem, hnocurrency⟩ := due_free (n := n) hfree
    rw [if_pos hcost]
    refine ⟨hs.sound, .refl, fun x => ?_, rfl, hmoney, fun id => ?_, rfl⟩
    · rw [hnoitem, due_nil, Nat.add_zero]
    · rw [hnocurrency, due_nil, Nat.add_zero]
  · rw [if_neg hcost]
    cases hentry : v.extendedCost crItem.extendedCost with
    | none =>
      have hfree : v.cost crItem = {} := by rw [cost, if_neg hcost, hentry, Option.getD_none]
      obtain ⟨hnoitem, hnocurrency⟩ := due_free (n := n) hfree
      refine ⟨hs.sound, .refl, fun x => ?_, rfl, hmoney, fun id => ?_, rfl⟩
      · rw [hnoitem, due_nil, Nat.add_zero]
      · rw [hnocurrency, due_nil, Nat.add_zero]
    | some cost =>
      have hsome : v.cost crItem = cost := by
        rw [VendorVisit.cost, if_neg hcost, hentry, Option.getD_some]
      rw [hsome] at hitems hcurrencies
      obtain ⟨hsound, hreduced, htotal⟩ :=
        Holdings.destroyed_costs hs.sound hs.counted hitems
      have hpaid := PlayerCurrencies.paid_costs hcurrencies
      rw [← itemCosts_due hitems] at hsound hreduced htotal
      rw [← currencyCosts_due hcurrencies] at hpaid
      refine ⟨hsound, hreduced, fun x => ?_, rfl, hmoney, fun id => ?_, rfl⟩
      · rw [hsome, ← itemCosts_due hitems]
        exact htotal x
      · rw [hsome, ← currencyCosts_due hcurrencies]
        exact hpaid id

omit [DecidableEq P] in
theorem sell_belongings {it : Option Nat} {units : Nat} :
    (v.sell s crItem units it).belongings = s.belongings := by
  unfold sell
  cases it <;> rfl

omit [DecidableEq P] in
theorem sell_sold {it : Option Nat} {units : Nat}
    (hstock : crItem.maxcount ≠ 0 → units ≤ v.stock s crItem)
    (hit : it.isSome = false → units = 0) :
    (v.sell s crItem units it).money = s.money ∧
      (v.sell s crItem units it).currencies = s.currencies ∧
      (crItem.maxcount ≠ 0 →
        v.stock (v.sell s crItem units it) crItem + units = v.stock s crItem) ∧
      ∀ item, item ≠ crItem.item →
        (v.sell s crItem units it).vendorItemCounts item = s.vendorItemCounts item := by
  dsimp only [sell]
  cases hsome : it.isSome with
  | false =>
    rw [hit hsome]
    exact ⟨rfl, rfl, fun _ => rfl, fun _ _ => rfl⟩
  | true =>
    exact ⟨rfl, rfl, fun hmax => updateCount_sold hmax (hstock hmax),
      fun item hne => updateCount_other hne⟩

omit [DecidableEq P] in
theorem Paid.bought {s₁ s₂ : Shop P} {it : Option Nat} {units : Nat}
    (hpaid : v.Paid p crItem n (v.goldDue proto crItem n) s s₁)
    (hunits : units = (v.price crItem.item).buyCount * n)
    (hstock : crItem.maxcount ≠ 0 → units ≤ v.stock s crItem)
    (hit : it.isSome = false → units = 0) (hmoney : s₂.money = s₁.money)
    (hcurrencies : s₂.currencies = s₁.currencies)
    (hcounts : s₂.vendorItemCounts = s₁.vendorItemCounts)
    (hitems : ∀ x, s₂.belongings.amount p x =
      s₁.belongings.amount p x + if x = crItem.item then units else 0) :
    v.Bought p proto crItem n s (v.sell s₂ crItem units it) := by
  have hcounts' : s₂.vendorItemCounts = s.vendorItemCounts := hcounts.trans hpaid.counts
  have hstock' : v.stock s₂ crItem = v.stock s crItem := by
    rw [VendorVisit.stock, hcounts']
    rfl
  obtain ⟨hm, hc, hsold, hothers⟩ :
      (v.sell s₂ crItem units it).money = s₂.money ∧
      (v.sell s₂ crItem units it).currencies = s₂.currencies ∧
      (crItem.maxcount ≠ 0 →
        v.stock (v.sell s₂ crItem units it) crItem + units = v.stock s₂ crItem) ∧
      ∀ item, item ≠ crItem.item →
        (v.sell s₂ crItem units it).vendorItemCounts item = s₂.vendorItemCounts item :=
    sell_sold (by rwa [hstock']) hit
  refine ⟨?_, fun x => ?_, fun id => ?_, fun hmax => ?_, fun item hne => ?_⟩
  · rw [hm, hmoney]
    exact hpaid.money
  · have htotal := hpaid.total x
    rw [sell_belongings, hitems, ← hunits]
    simp only [Belongings.amount, hpaid.mailed]
    omega
  · rw [hc, hcurrencies]
    exact hpaid.currencies id
  · rw [← hunits, hsold hmax, hstock']
  · rw [hothers item hne, hcounts']

structure Alike (v : VendorVisit P) (p : P) (crItem : VendorItem) (s s' : Shop P) : Prop where
  money : s'.money = s.money
  amount : ∀ x, s'.belongings.amount p x = s.belongings.amount p x
  currencies : s'.currencies = s.currencies
  stock : v.stock s' crItem = v.stock s crItem
  others : ∀ item, item ≠ crItem.item → s'.vendorItemCounts item = s.vendorItemCounts item

omit [DecidableEq P] in
theorem Bought.alike {t t' : Shop P} (h : v.Bought p proto crItem n s s')
    (hold : v.Alike p crItem t s) (hnew : v.Alike p crItem s' t') :
    v.Bought p proto crItem n t t' where
  money := by rw [hnew.money, h.money, hold.money]
  items := fun x => by rw [hnew.amount, h.items, hold.amount]
  currencies := fun id => by rw [hnew.currencies, h.currencies, hold.currencies]
  stock := fun hmax => by rw [hnew.stock, h.stock hmax, hold.stock]
  others := fun item hne => by rw [hnew.others item hne, h.others item hne, hold.others item hne]

end VendorVisit

end SkyfireBG
