import SkyfireBG.Inventory.Course

/-!
# SkyfireBG.Inventory.Partial

What `CanStoreItem` reports when it cannot store all that is asked for.

* `canTake_cases` — why `CanTakeMoreSimilarItems` refuses a part, and how much.
* `search_comes`  — where a search comes to, and what is left of it.
* `partial_store` — when the plan and `no_space_count` together are what was asked for.
-/

namespace SkyfireBG

/-- `MaxCount` is a limit. -/
def ItemTemplate.limited (proto : ItemTemplate) : Prop :=
  0 < proto.maxCount ∧ proto.maxCount ≠ 2147483647

namespace Holdings

variable {P : Type}

section Conditions

variable (w : Holdings P) (p : P) (e : ItemStores) (entry count : Nat) (pItem : Option Nat)

/-- What `CanTakeMoreSimilarItems` refuses. -/
def refused : Nat := (w.canTakeMoreSimilarItems p e entry count pItem).2.getD 0

def toStore : Nat :=
  if (w.canTakeMoreSimilarItems p e entry count pItem).1 ≠ .ok then
    uint32 (count + 2 ^ 32 - w.refused p e entry count pItem)
  else count

variable [DecidableEq P]

/-- `CanStoreItem` comes to its searches. -/
structure Searched : Prop where
  loot : pItem.any (fun g => (w.item g).lootGenerated) = false
  bound : pItem.any (fun g => (w.item g).isBindedNotWith p) = false
  part : ¬((w.canTakeMoreSimilarItems p e entry count pItem).1 ≠ .ok ∧
    count = w.refused p e entry count pItem)

variable (pos : Pos) (dest : List ItemPosCount) (swap : Bool)

/-- The room that the searches of `CanStoreItem` find. -/
def room (proto : ItemTemplate) : Nat :=
  (w.searchCourse p pos.1 pos.2 proto pItem swap).room dest

/-- When `CanStoreItem` fails with a `no_space_count`, that is no more than `count`, the positions
that were added to `dest` take the others, and with them there are not more than `MaxCount`. -/
def RestReported : Prop :=
  ∀ n, (w.canStoreItem p e pos dest entry count pItem swap).res ≠ .ok →
    (w.canStoreItem p e pos dest entry count pItem swap).noSpaceCount = some n →
    n ≤ count ∧
    ((w.canStoreItem p e pos dest entry count pItem swap).dest.map ItemPosCount.count).sum + n =
      (dest.map ItemPosCount.count).sum + count ∧
    ∀ proto, e.store entry = some proto → proto.limited → n < count →
      w.getItemCount p proto.itemId true pItem + (count - n) ≤ proto.maxCount.toNat

structure WithinLimits : Prop where
  /-- More is refused than was asked for. -/
  excess : ∀ proto, e.store entry = some proto → w.Searched p e entry count pItem →
    count < w.refused p e entry count pItem → w.room p pItem pos dest swap proto ≤ count
  /-- `MaxCount` refuses a part, and the player has more than that already. -/
  max : ∀ proto, e.store entry = some proto → w.Searched p e entry count pItem → proto.limited →
    proto.maxCount.toNat < uint32 (w.getItemCount p proto.itemId true pItem + count) →
    proto.maxCount.toNat < w.getItemCount p proto.itemId true pItem →
    w.room p pItem pos dest swap proto = 0
  /-- The sum with `GetItemCount` wraps and passes for less than `MaxCount`. -/
  wrap : ∀ proto, e.store entry = some proto → w.Searched p e entry count pItem → proto.limited →
    2 ^ 32 ≤ w.getItemCount p proto.itemId true pItem + count →
    uint32 (w.getItemCount p proto.itemId true pItem + count) ≤ proto.maxCount.toNat →
    w.getItemCount p proto.itemId true pItem + min (w.toStore p e entry count pItem)
        (w.room p pItem pos dest swap proto) ≤ proto.maxCount.toNat ∨
      w.room p pItem pos dest swap proto = 0 ∨
      (w.canTakeMoreSimilarItems p e entry count pItem).1 = .ok ∧
        count ≤ w.room p pItem pos dest swap proto

end Conditions

variable {w : Holdings P} {p : P} {e : ItemStores} {entry count : Nat} {pItem : Option Nat}
  {proto : ItemTemplate} {pos : Pos} {dest : List ItemPosCount} {swap : Bool}

/-- Why a part is refused: all of it, for want of data, or what is over one of the limits. -/
inductive TakeCase (w : Holdings P) (p : P) (entry count : Nat) (pItem : Option Nat)
    (proto : ItemTemplate) : InventoryResult × Option Nat → Prop where
  | free : (proto.limited →
        uint32 (w.getItemCount p proto.itemId true pItem + count) ≤ proto.maxCount.toNat) →
      TakeCase w p entry count pItem proto (.ok, none)
  | all {res : InventoryResult} : res ≠ .ok → TakeCase w p entry count pItem proto (res, some count)
  | overMax {res : InventoryResult} : res ≠ .ok → proto.limited →
      proto.maxCount.toNat < uint32 (w.getItemCount p proto.itemId true pItem + count) →
      TakeCase w p entry count pItem proto
        (res, some (uint32 (w.getItemCount p proto.itemId true pItem + count) - proto.maxCount.toNat))
  | overCategory {res : InventoryResult} {limit cat : Nat} : res ≠ .ok →
      (proto.limited →
        uint32 (w.getItemCount p proto.itemId true pItem + count) ≤ proto.maxCount.toNat) →
      cat < 2 ^ 32 → limit < uint32 (cat + count) →
      TakeCase w p entry count pItem proto (res, some (uint32 (cat + count) - limit))

theorem canTake_cases (hstore : e.store entry = some proto)
    (hloot : pItem.any (fun g => (w.item g).lootGenerated) = false) :
    TakeCase w p entry count pItem proto (w.canTakeMoreSimilarItems p e entry count pItem) := by
  unfold canTakeMoreSimilarItems
  rw [hstore]
  dsimp only
  by_cases hsparse : (!e.hasSparse entry && e.enforceItemAttributes) = true
  · rw [if_pos hsparse]
    exact .all fun h => nomatch h
  rw [if_neg hsparse, if_neg (Bool.eq_false_iff.mp hloot)]
  by_cases hfree : (proto.maxCount ≤ 0 ∧ proto.itemLimitCategory = 0) ∨ proto.maxCount = 2147483647
  · rw [if_pos hfree]
    refine .free fun hlimited => ?_
    rcases hfree with ⟨hle, -⟩ | heq
    · exact absurd hlimited.1 (Int.not_lt.mpr hle)
    · exact absurd heq hlimited.2
  rw [if_neg hfree]
  by_cases hmax : 0 < proto.maxCount ∧
      proto.maxCount.toNat < uint32 (w.getItemCount p proto.itemId true pItem + count)
  · rw [if_pos hmax]
    exact .overMax (fun h => nomatch h) ⟨hmax.1, fun heq => hfree (.inr heq)⟩ hmax.2
  have hunder : proto.limited →
      uint32 (w.getItemCount p proto.itemId true pItem + count) ≤ proto.maxCount.toNat :=
    fun hlimited => Nat.not_lt.mp fun hlt => hmax ⟨hlimited.1, hlt⟩
  rw [if_neg hmax]
  by_cases hcategory : proto.itemLimitCategory = 0
  · rw [if_pos hcategory]
    exact .free hunder
  rw [if_neg hcategory]
  cases e.limitCategory proto.itemLimitCategory with
  | none => exact .all fun h => nomatch h
  | some limitEntry =>
    dsimp only
    split_ifs with hover
    · refine .overCategory (fun h => nomatch h) hunder ?_ hover.2
      exact Nat.mod_lt _ (by decide)
    · exact .free hunder

/-- What a search comes to that finds `room` for `due` items, when `ns` were left out of it. -/
inductive Comes (room due ns base : Nat) : CanStore → Prop where
  | stored {dest : List ItemPosCount} : due ≤ room → ns = 0 →
      Comes room due ns base { res := .ok, dest := dest }
  | silent {res : InventoryResult} {dest : List ItemPosCount} : room = 0 →
      Comes room due ns base { res := res, dest := dest }
  | part {res : InventoryResult} {dest : List ItemPosCount} : res ≠ .ok →
      (ns = 0 → 0 < due → room < due) →
      (dest.map ItemPosCount.count).sum = base + min due room →
      Comes room due ns base
        { res := res, dest := dest, noSpaceCount := some (uint32 (due - room + ns)) }

theorem search_comes (due ns : Nat) :
    Comes (w.room p pItem pos dest swap proto) due ns (dest.map ItemPosCount.count).sum
      (finish ns
        (w.searchInventory p pos.1 pos.2 proto pItem swap { dest := dest, count := due })) := by
  obtain ⟨plan', hleft, hend⟩ := Course.run_left (w.searchCourse p pos.1 pos.2 proto pItem swap)
    { dest := dest, count := due }
  have htotal := Course.run_total (w.searchCourse p pos.1 pos.2 proto pItem swap)
    { dest := dest, count := due }
  rw [searchInventory_eq]
  change plan'.count = due - w.room p pItem pos dest swap proto at hleft
  change _ = (dest.map ItemPosCount.count).sum + due at htotal
  rcases hend with ⟨hrun, hle⟩ | ⟨hrun, hlt⟩
  · change due ≤ w.room p pItem pos dest swap proto at hle
    rw [hrun] at htotal ⊢
    change (plan'.dest.map ItemPosCount.count).sum + plan'.count = _ at htotal
    have hplaced : (plan'.dest.map ItemPosCount.count).sum = (dest.map ItemPosCount.count).sum +
        min due (w.room p pItem pos dest swap proto) := by omega
    by_cases hns : ns = 0
    · rw [finish, if_pos ⟨rfl, hns⟩]
      exact .stored hle hns
    · rw [finish, if_neg fun hand => hns hand.2, if_pos rfl, if_pos rfl, hleft]
      exact .part (fun h => nomatch h) (fun hzero => absurd hzero hns) hplaced
  · change 0 < due → w.room p pItem pos dest swap proto < due at hlt
    obtain ⟨res, counted, hstop, hres, hcounted⟩ :=
      @searchCourse_stop P w p pos.1 pos.2 proto pItem swap
    rw [hrun, hstop] at htotal ⊢
    change (plan'.dest.map ItemPosCount.count).sum + plan'.count = _ at htotal
    have hplaced : (plan'.dest.map ItemPosCount.count).sum = (dest.map ItemPosCount.count).sum +
        min due (w.room p pItem pos dest swap proto) := by omega
    rw [Course.finishRun, finish, if_neg fun hand => hres hand.1, if_neg hres, hleft]
    cases counted with
    | true => exact .part hres (fun _ => hlt) hplaced
    | false =>
      refine .silent ?_
      rw [room, Course.room, hcounted.resolve_left Bool.false_ne_true]
      rfl

theorem rest_of_le {due ns : Nat} (room : Nat) (hcount : count < 2 ^ 32)
    (hdue : due = uint32 (count + 2 ^ 32 - ns)) (hle : ns ≤ count) :
    due = count - ns ∧ uint32 (due - room + ns) + min due room = count := by
  have hnowrap : due = count - ns := by
    rw [hdue, uint32, show count + 2 ^ 32 - ns = count - ns + 2 ^ 32 by omega, Nat.add_mod_right]
    exact Nat.mod_eq_of_lt (by omega)
  rw [uint32, Nat.mod_eq_of_lt (by omega)]
  exact ⟨hnowrap, by omega⟩

theorem rest_of_lt {due ns : Nat} (room : Nat) (hns : ns < 2 ^ 32)
    (hdue : due = uint32 (count + 2 ^ 32 - ns)) (hlt : count < ns) :
    (room ≤ count → uint32 (due - room + ns) + room = count ∧ min due room = room) ∧
      (count < room → count < uint32 (due - room + ns)) := by
  have hwrap : due = count + 2 ^ 32 - ns := by
    rw [hdue, uint32]
    exact Nat.mod_eq_of_lt (by omega)
  rw [uint32]
  constructor
  · intro hroom
    rw [show due - room + ns = count - room + 2 ^ 32 by omega, Nat.add_mod_right,
      Nat.mod_eq_of_lt (by omega)]
    omega
  · intro hroom
    rw [Nat.mod_eq_of_lt (by omega)]
    omega

structure Entered (w : Holdings P) (p : P) (e : ItemStores) (entry count : Nat)
    (pItem : Option Nat) : Prop where
  refused_lt : w.refused p e entry count pItem < 2 ^ 32
  toStore : w.toStore p e entry count pItem = uint32 (count + 2 ^ 32 - w.refused p e entry count pItem)
  ok : (w.canTakeMoreSimilarItems p e entry count pItem).1 = .ok ↔
    w.refused p e entry count pItem = 0
  part : w.refused p e entry count pItem ≠ 0 → count ≠ w.refused p e entry count pItem

theorem Entered.toStore_eq (hentered : Entered w p e entry count pItem) (hcount : count < 2 ^ 32)
    (hnone : w.refused p e entry count pItem = 0) : w.toStore p e entry count pItem = count := by
  rw [hentered.toStore, hnone, uint32, Nat.sub_zero, Nat.add_mod_right, Nat.mod_eq_of_lt hcount]

theorem part_iff {ended : CanStore} {left placed base : Nat} (hres : ended.res ≠ .ok)
    (hleft : ended.noSpaceCount = some left)
    (hplaced : (ended.dest.map ItemPosCount.count).sum = base + placed) :
    (∀ n, ended.res ≠ .ok → ended.noSpaceCount = some n →
      n ≤ count ∧ (ended.dest.map ItemPosCount.count).sum + n = base + count ∧
        ∀ proto', some proto = some proto' → proto'.limited → n < count →
          w.getItemCount p proto'.itemId true pItem + (count - n) ≤ proto'.maxCount.toNat) ↔
      left ≤ count ∧ placed + left = count ∧ (proto.limited → left < count →
        w.getItemCount p proto.itemId true pItem + (count - left) ≤ proto.maxCount.toNat) := by
  constructor
  · intro h
    obtain ⟨hle, hsum, hmax⟩ := h left hres hleft
    exact ⟨hle, by omega, hmax proto rfl⟩
  · rintro ⟨hle, hsum, hmax⟩ n - hn
    cases hleft.symm.trans hn
    refine ⟨hle, by omega, fun proto' heq => ?_⟩
    cases heq
    exact hmax

variable [DecidableEq P]

theorem entered (hcount : count < 2 ^ 32) (hstore : e.store entry = some proto)
    (hsearched : w.Searched p e entry count pItem) : Entered w p e entry count pItem := by
  have hcase : TakeCase w p entry count pItem proto (w.canTakeMoreSimilarItems p e entry count pItem) :=
    canTake_cases hstore hsearched.loot
  have hpart := hsearched.part
  have hlt : ∀ n, uint32 n < 2 ^ 32 := fun n => Nat.mod_lt n (by decide)
  have hok : w.canTakeMoreSimilarItems p e entry count pItem = (.ok, none) →
      Entered w p e entry count pItem := by
    intro htake
    have hrefused : w.refused p e entry count pItem = 0 := by
      rw [refused, htake]
      rfl
    refine ⟨by omega, ?_, ⟨fun _ => hrefused, fun _ => by rw [htake]⟩, fun h => absurd hrefused h⟩
    rw [toStore, htake, if_neg (not_not.mpr rfl), hrefused, uint32, Nat.sub_zero, Nat.add_mod_right,
      Nat.mod_eq_of_lt hcount]
  have hsome : ∀ res n, res ≠ .ok → 0 < n → n < 2 ^ 32 →
      w.canTakeMoreSimilarItems p e entry count pItem = (res, some n) →
      Entered w p e entry count pItem := by
    intro res n hres hpos hn htake
    have hrefused : w.refused p e entry count pItem = n := by
      rw [refused, htake]
      rfl
    have hnot : (w.canTakeMoreSimilarItems p e entry count pItem).1 ≠ .ok := by
      rw [htake]
      exact hres
    exact ⟨hrefused ▸ hn, if_pos hnot, ⟨fun h => absurd h hnot, fun h => by omega⟩,
      fun _ heq => hpart ⟨hnot, heq⟩⟩
  generalize htake : w.canTakeMoreSimilarItems p e entry count pItem = take at hcase
  cases hcase with
  | free _ => exact hok htake
  | all hres =>
    refine absurd ⟨?_, ?_⟩ hpart
    · rw [htake]
      exact hres
    · rw [refused, htake]
      rfl
  | overMax hres hlimited hmax =>
    have hsum := hlt (w.getItemCount p proto.itemId true pItem + count)
    exact hsome _ _ hres (by omega) (by omega) htake
  | @overCategory res limit cat hres hunder hcat hmany =>
    have hsum := hlt (cat + count)
    exact hsome _ _ hres (by omega) (by omega) htake

/-- When the searches are entered: the room is not more than was asked for where the subtraction
wraps, and what it takes is within `MaxCount`. -/
def Balanced (w : Holdings P) (p : P) (e : ItemStores) (entry count : Nat) (pItem : Option Nat)
    (pos : Pos) (dest : List ItemPosCount) (swap : Bool) (proto : ItemTemplate) : Prop :=
  (count < w.refused p e entry count pItem → w.room p pItem pos dest swap proto ≤ count) ∧
  (proto.limited → w.room p pItem pos dest swap proto = 0 ∨
    (w.refused p e entry count pItem = 0 ∧ count ≤ w.room p pItem pos dest swap proto) ∨
    w.getItemCount p proto.itemId true pItem + min (w.toStore p e entry count pItem)
      (w.room p pItem pos dest swap proto) ≤ proto.maxCount.toNat)

theorem canStoreItem_searched (hstore : e.store entry = some proto)
    (hsearched : w.Searched p e entry count pItem) :
    w.canStoreItem p e pos dest entry count pItem swap =
      finish (w.refused p e entry count pItem) (w.searchInventory p pos.1 pos.2 proto pItem swap
        { dest := dest, count := w.toStore p e entry count pItem }) := by
  unfold canStoreItem
  rw [hstore]
  dsimp only
  rw [if_neg (Bool.eq_false_iff.mp hsearched.loot), if_neg (Bool.eq_false_iff.mp hsearched.bound)]
  exact if_neg hsearched.part

theorem reported_iff (hcount : count < 2 ^ 32) (hstore : e.store entry = some proto)
    (hsearched : w.Searched p e entry count pItem) :
    w.RestReported p e entry count pItem pos dest swap ↔
      Balanced w p e entry count pItem pos dest swap proto := by
  have hentered := entered hcount hstore hsearched
  have hcomes : Comes (w.room p pItem pos dest swap proto) (w.toStore p e entry count pItem)
      (w.refused p e entry count pItem) (dest.map ItemPosCount.count).sum
      (w.canStoreItem p e pos dest entry count pItem swap) := by
    rw [canStoreItem_searched hstore hsearched]
    exact search_comes _ _
  unfold RestReported Balanced
  rw [hstore]
  generalize w.canStoreItem p e pos dest entry count pItem swap = ended at hcomes
  cases hcomes with
  | stored hle hnone =>
    have hdue := hentered.toStore_eq hcount hnone
    exact ⟨fun _ => ⟨fun hlt => by omega, fun _ => .inr (.inl ⟨hnone, by omega⟩)⟩,
      fun _ n hres => absurd rfl hres⟩
  | silent hroom =>
    exact ⟨fun _ => ⟨fun _ => by omega, fun _ => .inl hroom⟩, fun _ n _ h => (nomatch h)⟩
  | part hres hshort hplaced =>
    rw [part_iff hres rfl hplaced]
    rcases Nat.lt_or_ge count (w.refused p e entry count pItem) with hwrap | hle
    · obtain ⟨hfew, hmany⟩ := rest_of_lt (w.room p pItem pos dest swap proto)
        hentered.refused_lt hentered.toStore hwrap
      constructor
      · rintro ⟨hle, -, hmax⟩
        have hroom : w.room p pItem pos dest swap proto ≤ count :=
          Nat.not_lt.mp fun hlt => absurd (hmany hlt) (Nat.not_lt.mpr hle)
        obtain ⟨hleft, hmin⟩ := hfew hroom
        refine ⟨fun _ => hroom, fun hlimited => ?_⟩
        by_cases hnone : w.room p pItem pos dest swap proto = 0
        · exact .inl hnone
        · have hsum := hmax hlimited (by omega)
          exact .inr (.inr (by omega))
      · rintro ⟨hroom, hmax⟩
        obtain ⟨hleft, hmin⟩ := hfew (hroom hwrap)
        refine ⟨by omega, by omega, fun hlimited hlt => ?_⟩
        rcases hmax hlimited with hnone | ⟨hnone, -⟩ | hsum
        · omega
        · omega
        · omega
    · obtain ⟨hdue, hleft⟩ := rest_of_le (w.room p pItem pos dest swap proto) hcount
        hentered.toStore hle
      have hpart := hentered.part
      constructor
      · rintro ⟨-, -, hmax⟩
        refine ⟨fun hlt => by omega, fun hlimited => ?_⟩
        by_cases hnone : w.room p pItem pos dest swap proto = 0
        · exact .inl hnone
        by_cases hall : w.refused p e entry count pItem = 0 ∧
            count ≤ w.room p pItem pos dest swap proto
        · exact .inr (.inl hall)
        · have hsum := hmax hlimited (by omega)
          exact .inr (.inr (by omega))
      · rintro ⟨-, hmax⟩
        refine ⟨by omega, by omega, fun hlimited hlt => ?_⟩
        rcases hmax hlimited with hnone | ⟨hnone, hall⟩ | hsum
        · omega
        · omega
        · omega

theorem refused_overMax (hstore : e.store entry = some proto)
    (hsearched : w.Searched p e entry count pItem) (hlimited : proto.limited)
    (hmax : proto.maxCount.toNat < uint32 (w.getItemCount p proto.itemId true pItem + count)) :
    w.refused p e entry count pItem =
      uint32 (w.getItemCount p proto.itemId true pItem + count) - proto.maxCount.toNat := by
  have hcase : TakeCase w p entry count pItem proto (w.canTakeMoreSimilarItems p e entry count pItem) :=
    canTake_cases hstore hsearched.loot
  have hpart := hsearched.part
  rw [refused] at hpart ⊢
  generalize w.canTakeMoreSimilarItems p e entry count pItem = take at hcase hpart ⊢
  cases hcase with
  | free hunder => exact absurd (hunder hlimited) (Nat.not_le.mpr hmax)
  | all hres => exact absurd ⟨hres, rfl⟩ hpart
  | overMax _ _ _ => rfl
  | overCategory _ hunder _ _ => exact absurd (hunder hlimited) (Nat.not_le.mpr hmax)

theorem limits_iff (hcount : count < 2 ^ 32) (hstore : e.store entry = some proto)
    (hsearched : w.Searched p e entry count pItem) :
    w.WithinLimits p e entry count pItem pos dest swap ↔
      Balanced w p e entry count pItem pos dest swap proto := by
  have hentered := entered hcount hstore hsearched
  have hcur : w.getItemCount p proto.itemId true pItem < 2 ^ 32 := Nat.mod_lt _ (by decide)
  have hdue : ∀ hle : w.refused p e entry count pItem ≤ count,
      w.toStore p e entry count pItem = count - w.refused p e entry count pItem :=
    fun hle => (rest_of_le 0 hcount hentered.toStore hle).1
  have hsum : w.getItemCount p proto.itemId true pItem + count < 2 ^ 32 →
      uint32 (w.getItemCount p proto.itemId true pItem + count) =
        w.getItemCount p proto.itemId true pItem + count := Nat.mod_eq_of_lt
  have hwrap : 2 ^ 32 ≤ w.getItemCount p proto.itemId true pItem + count →
      uint32 (w.getItemCount p proto.itemId true pItem + count) + 2 ^ 32 =
        w.getItemCount p proto.itemId true pItem + count := by
    intro hle
    rw [uint32, Nat.mod_eq_sub_mod hle, Nat.mod_eq_of_lt (by omega)]
    omega
  have hover := refused_overMax hstore hsearched
  constructor
  · intro hlimits
    have hroom := hlimits.excess proto hstore hsearched
    refine ⟨hroom, fun hlimited => ?_⟩
    rcases Nat.lt_or_ge proto.maxCount.toNat
      (uint32 (w.getItemCount p proto.itemId true pItem + count)) with hmax | hunder
    · -- `MaxCount` refuses a part
      have hrefused := hover hlimited hmax
      rcases Nat.lt_or_ge proto.maxCount.toNat (w.getItemCount p proto.itemId true pItem) with
        hmore | hless
      · exact .inl (hlimits.max proto hstore hsearched hlimited hmax hmore)
      · exact .inr (.inr (by omega))
    · rcases Nat.lt_or_ge (w.getItemCount p proto.itemId true pItem + count) (2 ^ 32) with hlt | hge
      · exact .inr (.inr (by omega))
      · rcases hlimits.wrap proto hstore hsearched hlimited hge hunder with hle | hnone | ⟨hok, hall⟩
        · exact .inr (.inr hle)
        · exact .inl hnone
        · exact .inr (.inl ⟨hentered.ok.mp hok, hall⟩)
  · rintro ⟨hroom, hbalanced⟩
    have hproto : ∀ {proto'}, e.store entry = some proto' → proto' = proto :=
      fun heq => Option.some.inj (heq.symm.trans hstore)
    constructor
    · intro proto' heq _ hlt
      cases hproto heq
      exact hroom hlt
    · intro proto' heq _ hlimited hmax hmore
      cases hproto heq
      have hrefused := hover hlimited hmax
      rcases hbalanced hlimited with hnone | ⟨hnone, -⟩ | hle
      · exact hnone
      · omega
      · omega
    · intro proto' heq _ hlimited hge hunder
      cases hproto heq
      rcases hbalanced hlimited with hnone | ⟨hnone, hall⟩ | hle
      · exact .inr (.inl hnone)
      · exact .inr (.inr ⟨hentered.ok.mpr hnone, hall⟩)
      · exact .inl hle

theorem unsearched_end (hstore : e.store entry = some proto)
    (hsearched : ¬w.Searched p e entry count pItem) :
    (w.canStoreItem p e pos dest entry count pItem swap).dest = dest ∧
      (w.canStoreItem p e pos dest entry count pItem swap).noSpaceCount = some count := by
  unfold canStoreItem
  rw [hstore]
  dsimp only
  by_cases hloot : pItem.any (fun g => (w.item g).lootGenerated) = true
  · rw [if_pos hloot]
    exact ⟨rfl, rfl⟩
  by_cases hbound : pItem.any (fun g => (w.item g).isBindedNotWith p) = true
  · rw [if_neg hloot, if_pos hbound]
    exact ⟨rfl, rfl⟩
  rw [if_neg hloot, if_neg hbound]
  by_cases hpart : (w.canTakeMoreSimilarItems p e entry count pItem).1 ≠ .ok ∧
      count = w.refused p e entry count pItem
  · rw [if_pos (by exact hpart)]
    exact ⟨rfl, congrArg some hpart.2.symm⟩
  · exact absurd ⟨Bool.eq_false_iff.mpr hloot, Bool.eq_false_iff.mpr hbound, hpart⟩ hsearched

theorem reported_unsearched (hend :
    (w.canStoreItem p e pos dest entry count pItem swap).dest = dest ∧
      (w.canStoreItem p e pos dest entry count pItem swap).noSpaceCount = some count) :
    w.RestReported p e entry count pItem pos dest swap := by
  intro n _ hn
  cases hend.2.symm.trans hn
  rw [hend.1]
  exact ⟨Nat.le_refl count, rfl, fun _ _ _ hlt => absurd hlt (Nat.lt_irrefl count)⟩

/-- The plan and `no_space_count` are together what was asked for, within `MaxCount`, exactly for a
player who is within the limits or finds no room past them. -/
theorem partial_store (hcount : count < 2 ^ 32) :
    w.RestReported p e entry count pItem pos dest swap ↔
      w.WithinLimits p e entry count pItem pos dest swap := by
  cases hstore : e.store entry with
  | none =>
    have hend : w.canStoreItem p e pos dest entry count pItem swap =
        { res := if swap then .itemsCantBeSwapped else .itemNotFound, dest := dest
          noSpaceCount := some count } := by
      rw [canStoreItem, hstore]
    have hno : ∀ {proto}, e.store entry ≠ some proto := fun heq => by rw [hstore] at heq; cases heq
    exact ⟨fun _ => ⟨fun _ heq => absurd heq hno, fun _ heq => absurd heq hno,
      fun _ heq => absurd heq hno⟩, fun _ => reported_unsearched (by rw [hend]; exact ⟨rfl, rfl⟩)⟩
  | some proto =>
    by_cases hsearched : w.Searched p e entry count pItem
    · exact (reported_iff hcount hstore hsearched).trans (limits_iff hcount hstore hsearched).symm
    · exact ⟨fun _ => ⟨fun _ _ h => absurd h hsearched, fun _ _ h => absurd h hsearched,
        fun _ _ h => absurd h hsearched⟩,
        fun _ => reported_unsearched (unsearched_end hstore hsearched)⟩

def uniqueStores : ItemStores where
  store := fun entry => some { itemId := entry, maxCount := 1 }
  store_id := by
    rintro entry proto h
    cases h
    rfl
  slots_le := by
    rintro entry proto h
    cases h
    exact Nat.zero_le _

def carries (n : Nat) : Holdings Unit where
  item := fun _ => { proto := { itemId := 300, maxCount := 1 }, count := 1 }
  held
    | .slot () s => if 23 ≤ s ∧ s < 23 + n then some (s - 22) else none
    | _ => none
  nextGuid := n + 1

/-- One of three can be stored. -/
theorem partial_store_unique : 3 < 2 ^ 32 ∧
    (carries 0).RestReported () uniqueStores 300 3 none (NULL_BAG, NULL_SLOT) [] false := by
  have hrefused : (carries 0).refused () uniqueStores 300 3 none = 2 := by decide +kernel
  have hcur : ∀ proto, uniqueStores.store 300 = some proto →
      (carries 0).getItemCount () proto.itemId true none = 0 := by
    intro proto hstore
    cases hstore
    decide +kernel
  refine ⟨by decide, (partial_store (by decide)).mpr ⟨?_, ?_, ?_⟩⟩
  · intro proto _ _ hlt
    omega
  · intro proto hstore _ _ _ hmore
    rw [hcur proto hstore] at hmore
    omega
  · intro proto hstore _ _ hwrap
    rw [hcur proto hstore] at hwrap
    omega

/-- Who has two of them and is to get a third: the backpack is filled, and `no_space_count` wraps. -/
theorem partial_store_twice : ¬ ∀ (w : Holdings Unit) (e : ItemStores) (entry count : Nat),
    count < 2 ^ 32 → w.RestReported () e entry count none (NULL_BAG, NULL_SLOT) [] false := by
  intro h
  have hres : ((carries 2).canStoreItem () uniqueStores (NULL_BAG, NULL_SLOT) [] 300 1 none false).res ≠
      .ok := by decide +kernel
  have hspace : ((carries 2).canStoreItem () uniqueStores (NULL_BAG, NULL_SLOT) [] 300 1 none
      false).noSpaceCount = some (2 ^ 32 - 13) := by decide +kernel
  exact absurd (h (carries 2) uniqueStores 300 1 (by decide) _ hres hspace).1 (by decide)

end Holdings

end SkyfireBG
