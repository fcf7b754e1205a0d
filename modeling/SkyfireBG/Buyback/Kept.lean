import SkyfireBG.Buyback.Shelf

/-!
# SkyfireBG.Buyback.Kept

What sales and buybacks keep.

* `Kept.removed`, `Kept.shelved` — a buyback slot is emptied for good, or filled.
* `sell_cases`, `buyback_cases`  — what a sale and a buyback do.
* `Kept.step`, `Kept.play`       — a trade and a run of them.
-/

namespace SkyfireBG

namespace BuybackSlots

open Holdings (Sound Taken Loose Spare OffShelf isBuybackSlot_iff shelfSum_update)

variable {P : Type} [DecidableEq P] {v : TradeRules} {p : P} {s s' : BuybackSlots P} {g k n : Nat}
  {proto : ItemTemplate} {units : Nat → Nat} {w : Holdings P}

def discardedCount (s : BuybackSlots P) (x : Nat) : Nat :=
  (s.discarded.map fun d => if x = d.2.entry then d.2.count else 0).sum

def onShelf (p : P) (s : BuybackSlots P) (g : Nat) : Nat :=
  s.items.shelfSum p fun h => if h = g then 1 else 0

/-- There are `units` of each entry; what was sold is in a buyback slot, bought back or deleted. -/
structure Kept (v : TradeRules) (p : P) (units : Nat → Nat) (s : BuybackSlots P) : Prop where
  sound : Sound v.stores s.items
  ready : Ready p s
  priced : ∀ slot g, isBuybackSlot slot = true → s.itemIn p slot = some g →
    s.price slot = priceOf v (s.items.item g).entry (s.items.item g).count
  ledger : ∀ g, s.sold.count g =
    s.boughtBack.count g + (s.discarded.map Prod.fst).count g + onShelf p s g
  loose : ∀ d ∈ s.discarded, s.items.Loose d.1
  total : ∀ x, s.items.total p x + s.discardedCount x = units x

theorem removeItem_eq (hk : isBuybackSlot k = true) (del : Bool) :
    s.removeItemFromBuyBackSlot p k del =
      { s with
        items := s.items.clear (.slot p k)
        vendorbuyback := Function.update s.vendorbuyback k 0
        price := Function.update s.price k 0
        timestamp := Function.update s.timestamp k 0
        currentBuybackSlot :=
          if ((s.items.clear (.slot p k)).held (.slot p s.currentBuybackSlot)).isSome then k
          else s.currentBuybackSlot
        discarded := s.deleted p k del ++ s.discarded } :=
  if_pos hk

theorem itemIn_update {u : BuybackSlots P} {slot : Nat} {x : Option Nat}
    (hheld : u.items.held = Function.update s.items.held (.slot p k) x) :
    u.itemIn p slot = if slot = k then x else s.itemIn p slot := by
  rw [itemIn, hheld]
  by_cases hslot : slot = k
  · rw [if_pos hslot, hslot, Function.update_self]
  · rw [if_neg hslot, Function.update_of_ne fun heq => hslot (Place.slot.inj heq).2]
    rfl

theorem removed_itemIn (hk : isBuybackSlot k = true) (del : Bool) (slot : Nat) :
    (s.removeItemFromBuyBackSlot p k del).itemIn p slot =
      if slot = k then none else s.itemIn p slot := by
  refine itemIn_update ?_
  rw [removeItem_eq hk]
  rfl

theorem Ready.removed (hs : Ready p s) (hk : isBuybackSlot k = true) (del : Bool) :
    Ready p (s.removeItemFromBuyBackSlot p k del) := by
  refine ⟨?_, fun slot hslot hfree => ?_⟩
  · rw [removeItem_eq hk]
    dsimp only
    split
    · exact hk
    · exact hs.current
  · rw [Occupied, removed_itemIn hk] at hfree
    rw [removeItem_eq hk]
    dsimp only
    by_cases heq : slot = k
    · rw [heq, Function.update_self]
    · rw [if_neg heq] at hfree
      rw [Function.update_of_ne heq]
      exact hs.free slot hslot hfree

theorem removed_priced (hs : Kept v p units s) (hk : isBuybackSlot k = true) (del : Bool) :
    ∀ slot g, isBuybackSlot slot = true →
      (s.removeItemFromBuyBackSlot p k del).itemIn p slot = some g →
      (s.removeItemFromBuyBackSlot p k del).price slot =
        priceOf v (s.items.item g).entry (s.items.item g).count := by
  intro slot g hslot hg
  rw [removed_itemIn hk] at hg
  rw [removeItem_eq hk]
  dsimp only
  by_cases heq : slot = k
  · rw [if_pos heq] at hg
    cases hg
  · rw [if_neg heq] at hg
    rw [Function.update_of_ne heq]
    exact hs.priced slot g hslot hg

theorem Kept.removed (hs : Kept v p units s) (hk : isBuybackSlot k = true) :
    Kept v p units (s.removeItemFromBuyBackSlot p k true) := by
  have hready := hs.ready.removed hk true
  have hpriced := removed_priced hs hk true
  obtain ⟨hsound, htotal, -⟩ := Holdings.shelf_clear (p := p) hs.sound hk
  have hshelf : ∀ value, (s.items.clear (.slot p k)).shelfSum p value +
      (s.itemIn p k).elim 0 value = s.items.shelfSum p value + 0 := by
    intro value
    have hheld : (s.items.clear (.slot p k)).held =
        Function.update s.items.held (.slot p k) none := rfl
    exact shelfSum_update hk hheld
  rw [removeItem_eq hk] at hready hpriced ⊢
  refine ⟨hsound, hready, hpriced, fun h => ?_, fun d hd => ?_, fun x => ?_⟩
  · have hsum := hshelf fun h' => if h' = h then 1 else 0
    have hledger := hs.ledger h
    rw [onShelf, ← Nat.add_zero (s.items.shelfSum p _), ← hsum] at hledger
    rw [onShelf]
    dsimp only [deleted]
    cases hg : s.itemIn p k with
    | none =>
      rw [hg] at hledger
      exact hledger
    | some g =>
      rw [hg] at hledger
      simp only [if_true, List.cons_append, List.nil_append, List.map_cons, List.count_cons,
        beq_iff_eq]
      simp only [Option.elim_some] at hledger
      omega
  · have hold : ∀ d ∈ s.discarded, (s.items.clear (.slot p k)).Loose d.1 :=
      fun d hd => ⟨(hs.loose d hd).absent.clear, (hs.loose d hd).old⟩
    dsimp only [deleted] at hd
    cases hg : s.itemIn p k with
    | none =>
      rw [hg] at hd
      exact hold d hd
    | some g =>
      rw [hg] at hd
      rcases List.mem_cons.mp hd with rfl | hd
      · exact ⟨hs.sound.single.absent_clear hg, hs.sound.fresh _ g hg⟩
      · exact hold d hd
  · have hsum := htotal x
    have hall := hs.total x
    rw [← hsum] at hall
    rw [discardedCount] at hall ⊢
    dsimp only [deleted]
    change _ + (s.itemIn p k).elim 0 _ + _ = _ at hall
    cases hg : s.itemIn p k with
    | none =>
      rw [hg, Option.elim_none, Nat.add_zero] at hall
      exact hall
    | some g =>
      rw [hg, Option.elim_some, Holdings.entryCount_none] at hall
      simp only [if_true, List.cons_append, List.nil_append, List.map_cons, List.sum_cons]
      simp only [eq_comm (a := x)] at hall ⊢
      omega

theorem Kept.shelved (hs : Kept v p units s) (hk : isBuybackSlot k = true)
    (hempty : s.itemIn p k = none) (hg : s.items.Spare g proto)
    (hkeep : Holdings.Keepable v.stores s.items g) (hnew : ∀ d ∈ s.discarded, d.1 ≠ g) {c : Nat}
    (hcurrent : isBuybackSlot c = true) (t : Nat) :
    Kept v p (fun x => units x + if x = proto.itemId then (s.items.item g).count else 0)
      { s with
        items := s.items.put (.slot p k) g
        vendorbuyback := Function.update s.vendorbuyback k g
        price := Function.update s.price k
          (priceOf v (s.items.item g).entry (s.items.item g).count)
        timestamp := Function.update s.timestamp k t
        currentBuybackSlot := c
        sold := g :: s.sold } := by
  obtain ⟨hsound, htotal, -⟩ := Holdings.shelf_put hs.sound hk hempty hg hkeep
  have hin : ∀ slot, (s.items.put (.slot p k) g).held (.slot p slot) =
      if slot = k then some g else s.itemIn p slot :=
    fun slot => itemIn_update (u := { s with items := s.items.put (.slot p k) g }) rfl
  refine ⟨hsound, ⟨hcurrent, fun slot hslot hfree => ?_⟩, fun slot h hslot hh => ?_, fun h => ?_,
    fun d hd => ?_, fun x => ?_⟩
  · rw [Occupied, itemIn, hin] at hfree
    dsimp only
    by_cases heq : slot = k
    · rw [if_pos heq] at hfree
      exact absurd rfl hfree
    · rw [if_neg heq] at hfree
      rw [Function.update_of_ne heq]
      exact hs.ready.free slot hslot hfree
  · rw [itemIn, hin] at hh
    dsimp only
    by_cases heq : slot = k
    · rw [if_pos heq] at hh
      cases hh
      rw [heq, Function.update_self]
      rfl
    · rw [if_neg heq] at hh
      rw [Function.update_of_ne heq]
      exact hs.priced slot h hslot hh
  · have hsum : (s.items.put (.slot p k) g).shelfSum p (fun h' => if h' = h then 1 else 0) +
        (s.itemIn p k).elim 0 (fun h' => if h' = h then 1 else 0) =
        s.items.shelfSum p (fun h' => if h' = h then 1 else 0) + if g = h then 1 else 0 := by
      have hheld : (s.items.put (.slot p k) g).held =
          Function.update s.items.held (.slot p k) (some g) := rfl
      exact shelfSum_update hk hheld
    rw [hempty, Option.elim_none] at hsum
    have hledger := hs.ledger h
    rw [onShelf] at hledger ⊢
    rw [List.count_cons, hledger]
    simp only [beq_iff_eq]
    omega
  · exact ⟨(hs.loose d hd).absent.put (hnew d hd).symm, (hs.loose d hd).old⟩
  · have hall := hs.total x
    have hput := htotal x
    rw [discardedCount] at hall ⊢
    dsimp only
    omega

theorem checkSale_ok {o : SellOrder} {pos : Pos} (hw : Sound v.stores s.items)
    (h : s.checkSale p v o = .ok (pos, g, n)) :
    s.items.getItemByPos p pos = some g ∧ s.items.isNotEmptyBag g = false ∧ 0 < n ∧
      n ≤ (s.items.item g).count := by
  rw [checkSale] at h
  split at h
  · cases h
  split at h
  · cases h
  split at h
  · cases h
  next pos' hfound =>
    dsimp only at h
    split at h
    · cases h
    split at h
    · cases h
    next hempty =>
      split at h
      · cases h
      split at h
      · cases h
      split at h
      · cases h
      next hcount =>
        split at h
        · cases h
        · cases h
          have hget := Holdings.getItemByPos_of_guid hfound
          have hstack := hw.counted _ _ (Holdings.held_of_view (Holdings.view_of_getItemByPos hget))
          refine ⟨hget, by simpa using hempty, ?_, ?_⟩ <;> split <;> omega

theorem taken_takeSold {pos : Pos} (hw : Sound v.stores s.items)
    (hget : s.items.getItemByPos p pos = some g) (hempty : s.items.isNotEmptyBag g = false)
    (hn : 0 < n) (hle : n ≤ (s.items.item g).count) :
    ∃ sold w, s.takeSold p pos g n = some (sold, w) ∧
      Taken v.stores s.items w p sold n (s.items.item g).proto := by
  rw [takeSold]
  dsimp only
  by_cases hlt : n < (s.items.item g).count
  · rw [if_pos hlt]
    have hheld := Holdings.held_of_view (Holdings.view_of_getItemByPos hget)
    have hstack := (hw.counted _ g hheld).2
    obtain ⟨i, hclone, hproto, hcount⟩ :=
      Holdings.cloneItem_some (p := p) hn (Nat.le_trans hle hstack)
    rw [hclone]
    exact ⟨_, _, rfl, Holdings.taken_part hw hget hn hlt hproto hcount⟩
  · rw [if_neg hlt]
    have heq : n = (s.items.item g).count := by omega
    rw [heq]
    exact ⟨_, _, rfl, Holdings.taken_whole hw hget hempty⟩

theorem addItem_money (s : BuybackSlots P) (now : Int) :
    (s.addItemToBuyBackSlot p v now g).money = s.money := by
  rw [addItemToBuyBackSlot]
  dsimp only
  rw [removeItemFromBuyBackSlot]
  split <;> rfl

theorem sell_cases {o : SellOrder} (hw : Sound v.stores s.items)
    (h : s.handleSellItem p v o = .ok s') : ∃ sold n proto w,
      Taken v.stores s.items w p sold n proto ∧
      s' = { ({ s with items := w } : BuybackSlots P).addItemToBuyBackSlot p v o.now sold with
        money := modifyMoney s.money (toInt32 (priceOf v proto.itemId n)) } := by
  rw [handleSellItem] at h
  cases hcheck : s.checkSale p v o with
  | error r =>
    rw [hcheck] at h
    cases h
  | ok r =>
    obtain ⟨pos, g, n⟩ := r
    obtain ⟨hget, hempty, hn, hle⟩ := checkSale_ok hw hcheck
    obtain ⟨sold, w, htake, htaken⟩ := taken_takeSold hw hget hempty hn hle
    rw [hcheck] at h
    dsimp only [bind, Except.bind] at h
    rw [htake] at h
    cases h
    refine ⟨sold, n, _, w, htaken, ?_⟩
    rw [addItem_money]
    rfl

theorem Ready.offShelf (hs : Ready p s) (hoff : OffShelf s.items w p) :
    Ready p { s with items := w } := by
  refine ⟨hs.current, fun slot hslot hfree => hs.free slot hslot ?_⟩
  rw [Occupied, itemIn] at hfree ⊢
  rwa [hoff.held slot hslot] at hfree

theorem priced_offShelf {price : Nat → Nat}
    (hs : ∀ slot g, isBuybackSlot slot = true → s.items.held (.slot p slot) = some g →
      price slot = priceOf v (s.items.item g).entry (s.items.item g).count)
    (hoff : OffShelf s.items w p) :
    ∀ slot g, isBuybackSlot slot = true → w.held (.slot p slot) = some g →
      price slot = priceOf v (w.item g).entry (w.item g).count := by
  intro slot g hslot hg
  rw [hoff.held slot hslot] at hg
  rw [hoff.item slot g hslot hg]
  exact hs slot g hslot hg

theorem Kept.take (hs : Kept v p units s) (ht : Taken v.stores s.items w p g n proto) :
    Kept v p (fun x => units x - if x = proto.itemId then n else 0) { s with items := w } where
  sound := ht.sound
  ready := hs.ready.offShelf ht.shelf
  priced := priced_offShelf hs.priced ht.shelf
  ledger := by
    intro h
    rw [onShelf, Holdings.shelfSum_congr ht.shelf.held fun _ _ _ _ => rfl]
    exact hs.ledger h
  loose := fun d hd => (ht.loose _ (hs.loose d hd)).1
  total := by
    intro x
    have hall := hs.total x
    have htaken := ht.total x
    rw [discardedCount] at hall ⊢
    dsimp only
    omega

theorem Kept.added (hs : Kept v p units s) (ht : Taken v.stores s.items w p g n proto) (now : Int) :
    Kept v p units (({ s with items := w } : BuybackSlots P).addItemToBuyBackSlot p v now g) := by
  set s₁ : BuybackSlots P := { s with items := w } with hs₁
  have htake : Kept v p _ s₁ := hs.take ht
  have hk := nextBuyBackSlot_isBuybackSlot htake.ready
  have hremoved := htake.removed hk
  have hitems : (s₁.removeItemFromBuyBackSlot p (s₁.nextBuyBackSlot p) true).items =
      w.clear (.slot p (s₁.nextBuyBackSlot p)) := by rw [removeItem_eq hk]
  have hdiscarded : (s₁.removeItemFromBuyBackSlot p (s₁.nextBuyBackSlot p) true).discarded =
      s₁.deleted p (s₁.nextBuyBackSlot p) true ++ s.discarded := by rw [removeItem_eq hk]
  have hempty : (s₁.removeItemFromBuyBackSlot p (s₁.nextBuyBackSlot p) true).itemIn p
      (s₁.nextBuyBackSlot p) = none := by rw [removed_itemIn hk, if_pos rfl]
  have hcurrent := hremoved.ready.current
  set s₂ := s₁.removeItemFromBuyBackSlot p (s₁.nextBuyBackSlot p) true with hs₂
  have hspare : s₂.items.Spare g proto := by
    rw [hitems]
    exact ⟨ht.spare.absent.clear, ht.spare.old, ht.spare.proto⟩
  have hcount : (s₂.items.item g).count = n := by
    rw [hitems]
    exact ht.count
  have hkeep : Holdings.Keepable v.stores s₂.items g := by
    refine ⟨?_, ?_, ?_, hspare.old⟩
    · rw [Item.entry, hspare.proto]
      exact ht.known
    · rw [hcount]
      exact ht.pos
    · rw [hcount, hspare.proto]
      exact ht.le
  have hnew : ∀ d ∈ s₂.discarded, d.1 ≠ g := by
    intro d hd
    rw [hdiscarded, List.mem_append, deleted] at hd
    rcases hd with hd | hd
    · cases hold : s₁.itemIn p (s₁.nextBuyBackSlot p) with
      | none =>
        rw [hold] at hd
        cases hd
      | some old =>
        rw [hold] at hd
        cases List.mem_singleton.mp hd
        exact ht.spare.absent.ne hold
    · exact (ht.loose _ (hs.loose d hd)).2.2
  have hnext : isBuybackSlot (if s₂.currentBuybackSlot < BUYBACK_SLOT_END - 1 then
      s₂.currentBuybackSlot + 1 else s₂.currentBuybackSlot) = true := by
    rw [Holdings.isBuybackSlot_iff] at hcurrent ⊢
    rw [BUYBACK_SLOT_END]
    split <;> omega
  have hshelved := hremoved.shelved hk hempty hspare hkeep hnew hnext (etime v now)
  have hunits : (fun x => units x - (if x = proto.itemId then n else 0) +
      if x = proto.itemId then (s₂.items.item g).count else 0) = units := by
    funext x
    have hall := hs.total x
    have htaken := ht.total x
    rw [hcount]
    omega
  rw [hunits] at hshelved
  exact hshelved

theorem Kept.sell {o : SellOrder} (hs : Kept v p units s) (h : s.handleSellItem p v o = .ok s') :
    Kept v p units s' := by
  obtain ⟨sold, n, proto, w, htaken, rfl⟩ := sell_cases hs.sound h
  have hadded := hs.added htaken o.now
  exact ⟨hadded.sound, ⟨hadded.ready.current, hadded.ready.free⟩, hadded.priced, hadded.ledger,
    hadded.loose, hadded.total⟩

theorem buyback_cases {o : BuybackOrder} (h : s.handleBuybackItem p v o = .ok s') : ∃ g dest,
    isBuybackSlot o.slot = true ∧ s.itemIn p o.slot = some g ∧ s.price o.slot ≤ s.money ∧
      (s.items.canStore p v.stores (NULL_BAG, NULL_SLOT) [] g false).res = .ok ∧
      (s.items.canStore p v.stores (NULL_BAG, NULL_SLOT) [] g false).dest = dest ∧
      s' = { s.removeItemFromBuyBackSlot p o.slot false with
        money := modifyMoney s.money (-toInt32 (s.price o.slot))
        items := ((s.items.clear (.slot p o.slot)).storeItem p dest g).2
        boughtBack := g :: s.boughtBack } := by
  rw [handleBuybackItem, getItemFromBuyBackSlot] at h
  split at h
  · cases h
  by_cases hslot : isBuybackSlot o.slot = true
  swap
  · rw [if_neg hslot] at h
    cases h
  rw [if_pos hslot] at h
  cases hg : s.itemIn p o.slot with
  | none =>
    rw [hg] at h
    cases h
  | some g =>
    rw [hg] at h
    dsimp only at h
    split at h
    · cases h
    next hprice =>
      split at h
      next hok =>
        cases h
        refine ⟨g, _, hslot, rfl, Nat.le_of_not_lt hprice, hok, rfl, ?_⟩
        rw [removeItem_eq hslot, removeItem_eq hslot]
        rfl
      · cases h

theorem Kept.buyback {o : BuybackOrder} (hs : Kept v p units s)
    (h : s.handleBuybackItem p v o = .ok s') : Kept v p units s' := by
  obtain ⟨g, dest, hk, hg, -, hok, hdest, rfl⟩ := buyback_cases h
  obtain ⟨hsound, hoff, hlater, htotal, -⟩ :=
    Holdings.shelf_store hs.sound hk hg hok hdest _ _ rfl rfl
  have hready := hs.ready.removed hk false
  have hpriced := removed_priced hs hk false
  have hdeleted : s.deleted p o.slot false = [] := by rw [deleted, hg]; rfl
  rw [removeItem_eq hk, hdeleted, List.nil_append] at hready hpriced ⊢
  refine ⟨hsound, ⟨(hready.offShelf hoff).current, (hready.offShelf hoff).free⟩,
    priced_offShelf hpriced hoff, fun h => ?_, fun d hd => ?_, fun x => ?_⟩
  · have hshelf : (s.items.clear (.slot p o.slot)).shelfSum p (fun h' => if h' = h then 1 else 0) +
        (s.items.held (.slot p o.slot)).elim 0 (fun h' => if h' = h then 1 else 0) =
        s.items.shelfSum p (fun h' => if h' = h then 1 else 0) + 0 := by
      have hheld : (s.items.clear (.slot p o.slot)).held =
          Function.update s.items.held (.slot p o.slot) none := rfl
      exact shelfSum_update hk hheld
    have hledger := hs.ledger h
    change s.items.held (.slot p o.slot) = some g at hg
    rw [hg, Option.elim_some] at hshelf
    rw [onShelf] at hledger ⊢
    dsimp only
    rw [Holdings.shelfSum_congr hoff.held fun _ _ _ _ => rfl, List.count_cons]
    simp only [beq_iff_eq]
    omega
  · have hloose := hs.loose d hd
    have hcleared : (s.items.clear (.slot p o.slot)).Loose d.1 :=
      ⟨hloose.absent.clear, hloose.old⟩
    exact hlater.loose hcleared fun heq => hloose.absent _ (heq ▸ hg)
  · rw [← hs.total x, ← htotal x]
    rfl

theorem Kept.step (hs : Kept v p units s) (t : Trade) : Kept v p units (step p v s t) := by
  rw [BuybackSlots.step]
  split
  next s' h =>
    cases t with
    | sell o => exact hs.sell h
    | buyback o => exact hs.buyback h
  · exact hs

theorem Kept.play (hs : Kept v p units s) (ts : List Trade) : Kept v p units (play p v s ts) := by
  induction ts generalizing s with
  | nil => exact hs
  | cons t ts ih => exact ih (hs.step t)

theorem start_kept {money : Nat} (hw : Sound v.stores w)
    (hempty : ∀ slot, isBuybackSlot slot = true → w.held (.slot p slot) = none) :
    Kept v p (w.carried p) (start w money) := by
  have hnone : ∀ value, w.shelfSum p value = 0 := by
    intro value
    refine Finset.sum_eq_zero fun slot hslot => ?_
    rw [hempty slot (isBuybackSlot_iff.mpr (Finset.mem_Ico.mp hslot))]
    rfl
  refine ⟨hw, ⟨rfl, fun _ _ _ => rfl⟩, fun slot g hslot hg => ?_, fun g => ?_,
    fun d hd => (List.not_mem_nil hd).elim, fun x => ?_⟩
  · rw [itemIn, start, hempty slot hslot] at hg
    cases hg
  · have hshelf : onShelf p (start w money) g = 0 := hnone _
    rw [hshelf]
    rfl
  · have hall : w.carried p x + w.shelfSum p (w.entryCount x none) = w.total p x :=
      Holdings.carried_add_shelfSum
    rw [hnone] at hall
    show w.total p x + 0 = w.carried p x
    omega

end BuybackSlots

end SkyfireBG
