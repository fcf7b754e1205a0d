import SkyfireBG.Inventory.Removed

/-!
# SkyfireBG.Inventory.Room

What a plan of `CanStoreItem` promises: its positions have room, also after a payment, and its
counts add up to what was asked for.

* `HasRoom` — so many items may go to a position.
* `Going` — what holds of a search on its way and at its end; each pass keeps it.
* `canStoreItem_fits` — the plan at the end.
-/

namespace SkyfireBG

namespace Holdings

variable {P : Type} {e : ItemStores} {w w' : Holdings P} {p : P} {pos : Pos} {g n m : Nat}
  {proto : ItemTemplate} {pItem : Option Nat} {dest : List ItemPosCount} {total : Nat}

/-- The position is empty, or has a stack that takes `n` more. -/
structure HasRoom (w : Holdings P) (p : P) (proto : ItemTemplate) (pItem : Option Nat) (pos : Pos)
    (n : Nat) : Prop where
  usable : w.Usable p pos
  plain : isBagPos pos = false
  positive : 0 < n
  le : n ≤ proto.getMaxStackSize
  stack : ∀ g, w.itemBeside p pos pItem = some g →
    (w.item g).entry = proto.itemId ∧ (w.item g).count + n ≤ proto.getMaxStackSize

theorem HasRoom.mono (h : w.HasRoom p proto pItem pos n) (hm : 0 < m) (hle : m ≤ n) :
    w.HasRoom p proto pItem pos m where
  usable := h.usable
  plain := h.plain
  positive := hm
  le := Nat.le_trans hle h.le
  stack := fun g hg => ⟨(h.stack g hg).1, Nat.le_trans (Nat.add_le_add_left hle _) (h.stack g hg).2⟩

theorem itemBeside_none : w.itemBeside p pos none = w.getItemByPos p pos := by
  unfold itemBeside
  split
  · rename_i h
    exact h.symm
  · rfl

theorem HasRoom.reduced (h : w.HasRoom p proto pItem pos n) (hr : Reduced w w' p)
    (hout : ∀ g, pItem = some g → ∀ pos, w'.view p pos ≠ some g) :
    w'.HasRoom p proto none pos n where
  usable := hr.usable.mpr h.usable
  plain := h.plain
  positive := h.positive
  le := h.le
  stack := by
    intro g hg
    rw [itemBeside_none] at hg
    have hview := view_of_getItemByPos hg
    obtain ⟨hold, hproto, hcount⟩ := hr.seen pos g hview
    have hbeside : w.itemBeside p pos pItem = some g := by
      have hget : w.getItemByPos p pos = some g := by rw [h.usable.getItemByPos_eq, hold]
      rw [itemBeside, hget, if_neg]
      exact fun heq => hout g heq.symm pos hview
    obtain ⟨hentry, hle⟩ := h.stack g hbeside
    refine ⟨?_, Nat.le_trans (Nat.add_le_add_right hcount n) hle⟩
    rw [Item.entry, hproto]
    exact hentry

structure Fits (w : Holdings P) (p : P) (proto : ItemTemplate) (pItem : Option Nat)
    (dest : List ItemPosCount) : Prop where
  distinct : (dest.map ItemPosCount.pos).Nodup
  room : ∀ d ∈ dest, w.HasRoom p proto pItem d.pos d.count

theorem Fits.reduced (h : w.Fits p proto pItem dest) (hr : Reduced w w' p)
    (hout : ∀ g, pItem = some g → ∀ pos, w'.view p pos ≠ some g) : w'.Fits p proto none dest :=
  ⟨h.distinct, fun d hd => (h.room d hd).reduced hr hout⟩

/-! ## The searches -/

/-- A plan on the way to placing `total` items. -/
structure Planned (w : Holdings P) (p : P) (proto : ItemTemplate) (pItem : Option Nat) (total : Nat)
    (plan : Plan) : Prop where
  sum : (plan.dest.map ItemPosCount.count).sum + plan.count = total
  fits : 0 < total → w.Fits p proto pItem plan.dest

/-- What a search has come to: a plan that is not done, or, if it ends well, one that is. -/
def Going (w : Holdings P) (p : P) (proto : ItemTemplate) (pItem : Option Nat) (total : Nat) :
    Search → Prop
  | .ok plan => w.Planned p proto pItem total plan ∧ (0 < total → plan.count ≠ 0)
  | .error ended =>
    ended.res = .ok → w.Planned p proto pItem total ended.plan ∧ ended.plan.count = 0

section Searches

variable {plan : Plan} {merge : Bool} {bag slot : Nat} {skip : Nat → Bool} {skipPos : Pos}
  {r : InventoryResult × Plan} {s : Search} {f : Plan → Search}

theorem Going.bind (hs : w.Going p proto pItem total s)
    (hf : ∀ plan, w.Planned p proto pItem total plan → (0 < total → plan.count ≠ 0) →
      w.Going p proto pItem total (f plan)) : w.Going p proto pItem total (s >>= f) := by
  cases s with
  | ok plan => exact hf plan hs.1 hs.2
  | error ended => exact hs

theorem Going.orReturn (h : w.Planned p proto pItem total r.2) :
    w.Going p proto pItem total (orReturn r) := by
  unfold SkyfireBG.orReturn
  by_cases hres : r.1 ≠ .ok
  · rw [if_pos hres]
    exact fun hok => absurd hok hres
  · rw [if_neg hres]
    by_cases hcount : r.2.count = 0
    · rw [if_pos hcount]
      exact fun _ => ⟨h, hcount⟩
    · rw [if_neg hcount]
      exact ⟨h, fun _ => hcount⟩

theorem Going.orContinue (h : w.Planned p proto pItem total r.2)
    (hrest : r.1 ≠ .ok → 0 < total → r.2.count ≠ 0) :
    w.Going p proto pItem total (orContinue r) := by
  unfold SkyfireBG.orContinue
  by_cases hdone : r.1 = .ok ∧ r.2.count = 0
  · rw [if_pos hdone]
    exact fun _ => ⟨h, hdone.2⟩
  · rw [if_neg hdone]
    refine ⟨h, fun ht => ?_⟩
    by_cases hres : r.1 = .ok
    · exact fun hcount => hdone ⟨hres, hcount⟩
    · exact hrest hres ht

theorem Planned.push (h : w.Planned p proto pItem total plan) (hlive : 0 < total → plan.count ≠ 0)
    (hnew : plan.contains pos = false) (hroom : w.HasRoom p proto pItem pos n) :
    w.Planned p proto pItem total (plan.push pos n) where
  sum := by
    have hsum := h.sum
    simp only [Plan.push, List.map_append, List.sum_append, List.map_cons, List.map_nil,
      List.sum_cons, List.sum_nil]
    omega
  fits := fun ht => by
    have hcount := Nat.pos_of_ne_zero (hlive ht)
    have hn := hroom.positive
    constructor
    · have hnot : pos ∉ plan.dest.map ItemPosCount.pos := by
        intro hmem
        obtain ⟨d, hd, hpos⟩ := List.mem_map.mp hmem
        have : plan.contains pos = true := List.any_eq_true.mpr ⟨d, hd, by simp [hpos]⟩
        rw [hnew] at this
        cases this
      simp only [Plan.push, List.map_append, List.map_cons, List.map_nil]
      exact List.nodup_append.mpr ⟨(h.fits ht).distinct, List.nodup_singleton _,
        fun x hx y hy heq => hnot (by rwa [← List.mem_singleton.mp hy, ← heq])⟩
    · intro d hd
      rcases List.mem_append.mp hd with hd | hd
      · exact (h.fits ht).room d hd
      · rw [List.mem_singleton.mp hd]
        exact hroom.mono (Nat.lt_min.mpr ⟨hn, hcount⟩) (Nat.min_le_left _ _)

theorem canBeMergedPartlyWith_ok {i : Item P} (h : i.canBeMergedPartlyWith proto = .ok) :
    i.entry = proto.itemId ∧ i.count < proto.getMaxStackSize := by
  unfold Item.canBeMergedPartlyWith at h
  split_ifs at h with hloot hentry hfull
  exact ⟨not_not.mp hentry, Nat.lt_of_not_le hfull⟩

theorem hasRoom_empty (huse : w.Usable p pos) (hplain : isBagPos pos = false)
    (h : w.itemBeside p pos pItem = none) : w.HasRoom p proto pItem pos proto.getMaxStackSize where
  usable := huse
  plain := hplain
  positive := proto.getMaxStackSize_pos
  le := Nat.le_refl _
  stack := fun g hg => by rw [h] at hg; cases hg

theorem hasRoom_stack (huse : w.Usable p pos) (hplain : isBagPos pos = false)
    (h : w.itemBeside p pos pItem = some g) (hok : (w.item g).canBeMergedPartlyWith proto = .ok) :
    w.HasRoom p proto pItem pos (proto.getMaxStackSize - (w.item g).count) := by
  obtain ⟨hentry, hlt⟩ := canBeMergedPartlyWith_ok hok
  refine ⟨huse, hplain, Nat.sub_pos_of_lt hlt, Nat.sub_le _ _, fun g' hg' => ?_⟩
  obtain rfl := Option.some.inj (h.symm.trans hg')
  exact ⟨hentry, Nat.le_of_eq (Nat.add_sub_of_le (Nat.le_of_lt hlt))⟩

theorem hasRoom_needSpace (huse : w.Usable p pos) (hplain : isBagPos pos = false)
    (h : w.needSpace p pos proto merge pItem = some n) : w.HasRoom p proto pItem pos n := by
  unfold needSpace at h
  cases hb : w.itemBeside p pos pItem with
  | none =>
    rw [hb] at h
    cases merge with
    | true => cases h
    | false =>
      cases h
      exact hasRoom_empty huse hplain hb
  | some g =>
    rw [hb] at h
    cases merge with
    | false => cases h
    | true =>
      simp only [Bool.not_true, Bool.false_eq_true, if_false] at h
      by_cases hok : (w.item g).canBeMergedPartlyWith proto ≠ .ok
      · rw [if_pos hok] at h
        cases h
      · rw [if_neg hok] at h
        cases h
        exact hasRoom_stack huse hplain hb (not_not.mp hok)

theorem planned_storeLoop {slots : List Nat}
    (hslots : ∀ j ∈ slots, w.Usable p (bag, j) ∧ isBagPos (bag, j) = false)
    (h : w.Planned p proto pItem total plan) (hlive : 0 < total → plan.count ≠ 0) :
    w.Planned p proto pItem total (w.storeLoop p bag proto merge pItem skip slots plan) := by
  induction slots generalizing plan with
  | nil => exact h
  | cons j slots ih =>
    have hrest : ∀ j ∈ slots, w.Usable p (bag, j) ∧ isBagPos (bag, j) = false :=
      fun j hj => hslots j (.tail _ hj)
    obtain ⟨huse, hplain⟩ := hslots j (.head _)
    unfold storeLoop
    by_cases hskip : skip j
    · rw [if_pos hskip]
      exact ih hrest h hlive
    · rw [if_neg hskip]
      cases hn : w.needSpace p (bag, j) proto merge pItem with
      | none => exact ih hrest h hlive
      | some n =>
        dsimp only
        by_cases hin : plan.contains (bag, j)
        · rw [if_pos hin]
          exact ih hrest h hlive
        · rw [if_neg hin]
          have hpush : w.Planned p proto pItem total (plan.push (bag, j) n) :=
            h.push hlive (Bool.eq_false_iff.mpr hin) (hasRoom_needSpace huse hplain hn)
          by_cases hzero : (plan.push (bag, j) n).count = 0
          · rw [if_pos hzero]
            exact hpush
          · rw [if_neg hzero]
            exact ih hrest hpush fun _ => hzero

theorem usable_bag (hb : w.getBagByPos p bag = some g) {j : Nat} (hj : j < w.getBagSize g) :
    w.Usable p (bag, j) ∧ isBagPos (bag, j) = false := by
  have hne : bag ≠ INVENTORY_SLOT_BAG_0 := by
    have hbag : w.getBagByPos p (bag, j).1 = some g := hb
    exact (isBagSlot_lt (getBagByPos_some hbag).1).2.1
  refine ⟨?_, by simp [isBagPos, hne]⟩
  rw [Usable, if_neg hne]
  exact ⟨g, hb, hj⟩

theorem planned_inBag (h : w.Planned p proto pItem total plan)
    (hlive : 0 < total → plan.count ≠ 0) {nonSpecialized : Bool}
    (hr : w.canStoreItem_InBag p bag plan proto merge nonSpecialized pItem skipPos = r) :
    w.Planned p proto pItem total r.2 ∧ (r.1 ≠ .ok → r.2 = plan) := by
  subst hr
  unfold canStoreItem_InBag
  split
  · exact ⟨h, fun _ => rfl⟩
  · split
    · exact ⟨h, fun _ => rfl⟩
    · rename_i pBag hb
      split_ifs
      · exact ⟨h, fun _ => rfl⟩
      · exact ⟨h, fun _ => rfl⟩
      · exact ⟨h, fun _ => rfl⟩
      · exact ⟨h, fun _ => rfl⟩
      · refine ⟨planned_storeLoop (fun j hj => ?_) h hlive, fun hne => absurd rfl hne⟩
        exact usable_bag hb (List.mem_range.mp hj)

theorem usable_slot {j : Nat} (hj : (23 ≤ j ∧ j < 39) ∨ (86 ≤ j ∧ j < 150)) :
    w.Usable p (INVENTORY_SLOT_BAG_0, j) ∧ isBagPos (INVENTORY_SLOT_BAG_0, j) = false := by
  constructor
  · rw [Usable, if_pos rfl]
    simp only [BANK_SLOT_BAG_END, KEYRING_SLOT_START, CURRENCYTOKEN_SLOT_END]
    omega
  · refine Bool.eq_false_iff.mpr fun hbag => ?_
    rw [isBagPos_iff, isBagSlot_iff] at hbag
    obtain ⟨-, hs⟩ := hbag
    simp only at hs
    omega

theorem going_inSlots {slotBegin slotEnd : Nat}
    (hslots : (23 ≤ slotBegin ∧ slotEnd ≤ 39) ∨ (86 ≤ slotBegin ∧ slotEnd ≤ 150))
    (h : w.Planned p proto pItem total plan) (hlive : 0 < total → plan.count ≠ 0) :
    w.Going p proto pItem total
      (w.inSlots p bag slot proto pItem slotBegin slotEnd merge plan) := by
  refine .orReturn ?_
  unfold canStoreItem_InInventorySlots
  split
  · exact h
  · refine planned_storeLoop (fun j hj => usable_slot ?_) h hlive
    have hj := mem_slotRange.mp hj
    omega

theorem planned_inRequestedBag (h : w.Planned p proto pItem total plan)
    (hlive : 0 < total → plan.count ≠ 0) :
    w.Planned p proto pItem total (w.inRequestedBag p bag slot plan proto merge pItem).2 := by
  unfold inRequestedBag
  dsimp only
  split
  · exact (planned_inBag h hlive rfl).1
  · exact (planned_inBag h hlive rfl).1

theorem going_inBags {bagSlots : List Nat} {nonSpecialized : Bool}
    (h : w.Planned p proto pItem total plan) (hlive : 0 < total → plan.count ≠ 0) :
    w.Going p proto pItem total
      (w.inBags p bagSlots plan proto merge nonSpecialized pItem skipPos) := by
  unfold inBags
  induction bagSlots generalizing plan with
  | nil => exact ⟨h, hlive⟩
  | cons b bagSlots ih =>
    rw [List.foldlM_cons]
    generalize hr : w.canStoreItem_InBag p b plan proto merge nonSpecialized pItem skipPos = r
    obtain ⟨hplan, hsame⟩ := planned_inBag h hlive hr
    refine (Going.orContinue hplan fun hne ht => ?_).bind fun _ => ih
    rw [hsame hne]
    exact hlive ht

theorem planned_inSpecificSlot (h : w.Planned p proto pItem total plan)
    (hlive : 0 < total → plan.count ≠ 0) (hpos : isInventoryPos pos = true)
    (hslot : pos.2 ≠ NULL_SLOT) :
    w.Planned p proto pItem total
      (w.canStoreItem_InSpecificSlot p pos plan proto false pItem).2 := by
  have hpush : ∀ n, w.HasRoom p proto pItem pos n → ¬ plan.contains pos = true →
      w.Planned p proto pItem total (plan.push pos n) := by
    intro n hroom hin
    exact h.push hlive (Bool.eq_false_iff.mpr hin) hroom
  have hslots : pos.1 = INVENTORY_SLOT_BAG_0 → w.Usable p pos ∧ isBagPos pos = false := by
    intro hc
    have hpos := isInventoryPos_iff.mp hpos
    simp only [INVENTORY_SLOT_BAG_0, NULL_SLOT] at hc hslot
    obtain ⟨bag, slot⟩ := pos
    subst hc
    exact usable_slot (by simp only at hpos hslot; omega)
  unfold canStoreItem_InSpecificSlot
  dsimp only
  split
  · exact h
  · simp only [Bool.false_eq_true, if_false]
    split
    · rename_i hempty
      by_cases hc : pos.1 = INVENTORY_SLOT_BAG_0
      · rw [if_pos hc]
        obtain ⟨huse, hplain⟩ := hslots hc
        split_ifs with _ _ _ hin
        · exact h
        · exact h
        · exact h
        · exact h
        · exact hpush _ (hasRoom_empty huse hplain hempty) hin
      · rw [if_neg hc]
        split
        · exact h
        · rename_i pBag hb
          split_ifs with hsize hinto hin
          · exact h
          · exact h
          · exact h
          · obtain ⟨huse, hplain⟩ := usable_bag hb (Nat.lt_of_not_le hsize)
            exact hpush _ (hasRoom_empty huse hplain hempty) hin
    · rename_i g hstack
      split_ifs with hok hin
      · exact h
      · exact h
      · have hget : w.getItemByPos p pos = some g := by
          unfold itemBeside at hstack
          split at hstack
          · cases hstack
          · exact hstack
        have huse := usable_of_getItemByPos hget
        have hplain : isBagPos pos = false := by
          by_cases hc : pos.1 = INVENTORY_SLOT_BAG_0
          · exact (hslots hc).2
          · simp [isBagPos, hc]
        exact hpush _ (hasRoom_stack huse hplain hstack (not_not.mp hok)) hin

section Passes

variable (h : w.Planned p proto pItem total plan) (hlive : 0 < total → plan.count ≠ 0)

include h hlive

theorem going_pass {c : Prop} [Decidable c] (hs : c → w.Going p proto pItem total s)
    (hf : ∀ plan, w.Planned p proto pItem total plan → (0 < total → plan.count ≠ 0) →
      w.Going p proto pItem total (f plan)) :
    w.Going p proto pItem total (if c then s >>= f else Except.ok plan >>= f) := by
  by_cases hc : c
  · rw [if_pos hc]
    exact (hs hc).bind hf
  · rw [if_neg hc]
    exact hf plan h hlive

theorem going_mergeInSlots :
    w.Going p proto pItem total (w.mergeInSlots p bag slot proto pItem plan) :=
  (going_inSlots (.inr ⟨by decide, by decide⟩) h hlive).bind fun _ =>
    going_inSlots (.inl ⟨by decide, by decide⟩)

theorem going_inRequestedSpecialSlots :
    w.Going p proto pItem total (w.inRequestedSpecialSlots p bag slot proto pItem plan) := by
  unfold inRequestedSpecialSlots
  split
  · exact (going_inSlots (.inr ⟨by decide, by decide⟩) h hlive).bind fun _ =>
      going_inSlots (.inr ⟨by decide, by decide⟩)
  · split
    · exact going_inSlots (.inr ⟨by decide, by decide⟩) h hlive
    · exact ⟨h, hlive⟩

theorem going_inSpecificBag :
    w.Going p proto pItem total (w.inSpecificBag p bag slot proto pItem plan) := by
  unfold inSpecificBag
  split
  · refine going_pass h hlive (fun _ => going_mergeInSlots h hlive) fun _ h hlive => ?_
    refine (going_inRequestedSpecialSlots h hlive).bind fun _ => ?_
    exact going_inSlots (.inl ⟨by decide, by decide⟩)
  · refine going_pass h hlive (fun _ => .orReturn (planned_inRequestedBag h hlive))
      fun _ h hlive => ?_
    exact .orReturn (planned_inRequestedBag h hlive)

theorem going_mergeStacks :
    w.Going p proto pItem total (w.mergeStacks p bag slot proto pItem plan) := by
  refine (going_mergeInSlots h hlive).bind fun _ h hlive => ?_
  exact going_pass h hlive (fun _ => going_inBags h hlive) fun _ => going_inBags

theorem going_inSpecialBags :
    w.Going p proto pItem total (w.inSpecialBags p bag slot proto pItem plan) := by
  have hspecial : w.Going p proto pItem total (w.inSpecialSlots p bag slot proto pItem plan) := by
    unfold inSpecialSlots
    split_ifs
    · exact going_inSlots (.inr ⟨by decide, by decide⟩) h hlive
    · exact going_inSlots (.inr ⟨by decide, by decide⟩) h hlive
    · exact ⟨h, hlive⟩
  exact hspecial.bind fun _ => going_inBags

theorem going_inFreeSlots :
    w.Going p proto pItem total (w.inFreeSlots p bag slot proto pItem plan) := by
  unfold inFreeSlots
  split
  · exact fun hok => nomatch hok
  · refine (going_inSlots (.inl ⟨by decide, by decide⟩) h hlive).bind fun _ h hlive => ?_
    exact (going_inBags h hlive).bind fun _ _ _ hok => nomatch hok

theorem going_searchInventory
    (hpos : isInventoryPos (bag, slot) = true ∨ (bag, slot) = (NULL_BAG, NULL_SLOT)) :
    w.Going p proto pItem total (w.searchInventory p bag slot proto pItem false plan) := by
  unfold searchInventory
  refine going_pass h hlive (fun hasked => .orReturn ?_) fun _ h hlive => ?_
  · rcases hpos with hpos | hpos
    · exact planned_inSpecificSlot h hlive hpos hasked.2
    · cases hpos
      exact absurd rfl hasked.1
  refine going_pass h hlive (fun _ => going_inSpecificBag h hlive) fun _ h hlive => ?_
  refine going_pass h hlive (fun _ => going_mergeStacks h hlive) fun _ h hlive => ?_
  refine going_pass h hlive (fun _ => going_inSpecialBags h hlive) fun _ h hlive => ?_
  exact going_inFreeSlots h hlive

end Passes

end Searches

theorem finish_ok {noSimilar : Nat} {s : Search} (h : (finish noSimilar s).res = .ok) :
    noSimilar = 0 ∧ ∃ ended, s = .error ended ∧ ended.res = .ok ∧
      (finish noSimilar s).dest = ended.plan.dest := by
  cases s with
  | ok plan => cases h
  | error ended =>
    simp only [finish] at h ⊢
    split at h
    · rename_i hok
      rw [if_pos hok]
      exact ⟨hok.2, ended, rfl, hok.1, rfl⟩
    · rename_i hok
      simp only at h
      split at h
      · cases h
      · rename_i hne
        exact absurd h hne

variable [DecidableEq P] {entry count : Nat}

theorem canStoreItem_fits (hstore : e.store entry = some proto)
    (hpos : isInventoryPos pos = true ∨ pos = (NULL_BAG, NULL_SLOT))
    (hok : (w.canStoreItem p e pos [] entry count pItem false).res = .ok) :
    w.Planned p proto pItem count
      ⟨(w.canStoreItem p e pos [] entry count pItem false).dest, 0⟩ := by
  simp only [canStoreItem, hstore] at hok ⊢
  by_cases hloot : pItem.any fun g => (w.item g).lootGenerated
  · rw [if_pos hloot] at hok
    cases hok
  rw [if_neg hloot] at hok ⊢
  by_cases hbound : pItem.any fun g => (w.item g).isBindedNotWith p
  · rw [if_pos hbound] at hok
    cases hok
  rw [if_neg hbound] at hok ⊢
  generalize htake : w.canTakeMoreSimilarItems p e entry count pItem = take at hok ⊢
  by_cases hleft : take.1 ≠ .ok ∧ count = take.2.getD 0
  · rw [if_pos hleft] at hok
    exact absurd hok hleft.1
  rw [if_neg hleft] at hok ⊢
  obtain ⟨hsimilar, ended, hsearch, hres, hdest⟩ := finish_ok hok
  have htaken : take.1 = .ok := by
    by_contra hne
    have hcount : 0 < count :=
      Nat.pos_of_ne_zero fun hzero => hleft ⟨hne, hzero.trans hsimilar.symm⟩
    obtain ⟨n, hn, hpos⟩ := canTake_refused (Bool.eq_false_iff.mpr hloot) hcount (htake ▸ hne)
    rw [htake] at hn
    rw [hn, Option.getD_some] at hsimilar
    omega
  rw [hdest]
  rw [if_neg (not_not.mpr htaken)] at hsearch
  have hstart : w.Planned p proto pItem count { dest := [], count := count } := by
    refine ⟨by simp, fun _ => ⟨List.nodup_nil, fun d hd => by cases hd⟩⟩
  have hgoing : w.Going p proto pItem count (w.searchInventory p pos.1 pos.2 proto pItem false
      { dest := [], count := count }) :=
    going_searchInventory hstart (fun hpos => Nat.ne_of_gt hpos) hpos
  rw [hsearch] at hgoing
  obtain ⟨hplan, hzero⟩ := hgoing hres
  exact ⟨by rw [← hplan.sum, hzero], hplan.fits⟩

end Holdings

end SkyfireBG
