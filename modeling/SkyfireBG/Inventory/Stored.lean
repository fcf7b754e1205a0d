import SkyfireBG.Inventory.Room

/-!
# SkyfireBG.Inventory.Stored

`StoreItem` and `StoreNewItem` follow a plan that fits, and add exactly what it says.
-/

namespace SkyfireBG

namespace Holdings

variable {P : Type} {e : ItemStores} {w w' : Holdings P} {p : P} {pos : Pos} {g n m : Nat}
  {proto : ItemTemplate} {pItem : Option Nat} {dest : List ItemPosCount} [DecidableEq P]

omit [DecidableEq P] in
theorem Sound.bag_empty (hw : Sound e w) (habs : Storage.Absent w.held g) (j : Nat) :
    w.held (.bagslot g j) = none := by
  refine Option.eq_none_iff_forall_not_mem.mpr fun x hx => ?_
  obtain ⟨-, -, q, s, -, hq⟩ := hw.shown g j x hx
  exact habs _ hq

/-- An object is put to an empty slot of `_items`: a bag slot too, and the object may be a bag. -/
theorem view_put_slot {slot : Nat} (hw : Sound e w)
    (hheld : w'.held = Function.update w.held (.slot p slot) (some g))
    (hitem : ∀ h, h ≠ g → w'.item h = w.item h) (hempty : w.held (.slot p slot) = none)
    (habs : Storage.Absent w.held g) :
    w'.view p = Function.update (w.view p) (INVENTORY_SLOT_BAG_0, slot) (some g) := by
  have hinbag : ∀ b j, w'.held (.bagslot b j) = w.held (.bagslot b j) := by
    intro b j
    have hne : Place.bagslot b j ≠ .slot p slot := fun heq => nomatch heq
    rw [hheld, Function.update_of_ne hne]
  funext pos'
  by_cases hpos : pos' = (INVENTORY_SLOT_BAG_0, slot)
  · rw [hpos, Function.update_self, view_slot, hheld, Function.update_self]
  rw [Function.update_of_ne hpos]
  by_cases hc : pos'.1 = INVENTORY_SLOT_BAG_0
  · have hne : Place.slot p pos'.2 ≠ .slot p slot :=
      fun heq => hpos (Prod.ext hc (Place.slot.inj heq).2)
    rw [view, view, if_pos hc, if_pos hc, hheld, Function.update_of_ne hne]
  rw [view, view, if_neg hc, if_neg hc]
  by_cases hin : pos'.1 = slot
  · have hnone : w.getBagByPos p pos'.1 = none := by
      rw [getBagByPos, hin, hempty, Option.filter_none, ite_self]
    rw [hnone]
    cases hb : w'.getBagByPos p pos'.1 with
    | none => rfl
    | some b =>
      have hg := (getBagByPos_some hb).2.1
      rw [hin, hheld, Function.update_self] at hg
      cases hg
      simp only [hinbag, hw.bag_empty habs, ite_self]
  · have hne : Place.slot p pos'.1 ≠ .slot p slot := fun heq => hin (Place.slot.inj heq).2
    have hbags : w'.getBagByPos p pos'.1 = w.getBagByPos p pos'.1 := by
      rw [getBagByPos, getBagByPos, hheld, Function.update_of_ne hne]
      cases hb : w.held (.slot p pos'.1) with
      | none => rfl
      | some b => simp only [Option.filter_some, hitem b (habs.ne hb)]
    rw [hbags]
    cases hb : w.getBagByPos p pos'.1 with
    | none => rfl
    | some b =>
      have hbag := hitem b (habs.ne (getBagByPos_some hb).2.1)
      dsimp only
      rw [getBagSize, getBagSize, hbag, hinbag]

theorem view_put (hw : Sound e w)
    (hheld : w'.held = Function.update w.held (w.placeOf p pos) (some g))
    (hitem : ∀ h, h ≠ g → w'.item h = w.item h) (hex : w.Exists p pos)
    (hempty : w.view p pos = none) (habs : Storage.Absent w.held g) :
    w'.view p = Function.update (w.view p) pos (some g) := by
  by_cases hc : pos.1 = INVENTORY_SLOT_BAG_0
  · obtain ⟨bag, slot⟩ := pos
    change bag = INVENTORY_SLOT_BAG_0 at hc
    subst hc
    rw [placeOf, if_pos rfl] at hheld
    exact view_put_slot hw hheld hitem (by rwa [view_slot] at hempty) habs
  · have ha : w.Assigned w' p pos (some g) :=
      ⟨hheld, fun pl h hh => by rw [hitem h (habs.ne hh)]⟩
    exact ha.view_eq hw.single hex (by simp [isBagPos, hc])

theorem put_adds (hw : Sound e w)
    (hheld : w'.held = Function.update w.held (w.placeOf p pos) (some g))
    (hitem : ∀ h, h ≠ g → w'.item h = w.item h) (hnext : w.nextGuid ≤ w'.nextGuid)
    (hex : w.Exists p pos) (hempty : w.view p pos = none) (habs : Storage.Absent w.held g)
    (hkeep : Keepable e w' g) :
    Sound e w' ∧ w'.view p = Function.update (w.view p) pos (some g) ∧
      ∀ x, w'.total p x = w.total p x + if x = (w'.item g).entry then (w'.item g).count else 0 := by
  have hsame : ∀ pl h, w.held pl = some h → w'.item h = w.item h :=
    fun pl h hh => hitem h (habs.ne hh)
  have ha : w.Assigned w' p pos (some g) := ⟨hheld, fun pl h hh => by rw [hsame pl h hh]⟩
  have hplace : w.held (w.placeOf p pos) = none := by rw [← hex.view_eq, hempty]
  have hw' : Sound e w' := by
    refine hw.put ha hex hplace habs fun pl h hh => ?_
    rw [hheld] at hh
    by_cases hpl : pl = w.placeOf p pos
    · rw [hpl, Function.update_self] at hh
      exact Option.some.inj hh ▸ hkeep
    · rw [Function.update_of_ne hpl] at hh
      have hold := hw.keepable hh
      have hi := hsame pl h hh
      exact ⟨by rw [hi]; exact hold.known, by rw [hi]; exact hold.pos, by rw [hi]; exact hold.le,
        Nat.lt_of_lt_of_le hold.fresh hnext⟩
  have hview := view_put hw hheld hitem hex hempty habs
  refine ⟨hw', hview, fun x => ?_⟩
  rw [hw'.total_eq (Nat.le_refl _), hw.total_eq hnext, hview, Storage.amount_put]
  · rw [entryCount_none]
    simp only [eq_comm (a := x)]
    congr 1
    exact Storage.amount_congr fun pos h hh => entryCount_congr (hsame _ h (held_of_view hh))
  · exact Finset.mem_range.mpr hkeep.fresh
  · intro pos' hpos'
    exact habs _ (held_of_view hpos')
  · exact hempty

/-! ## Storing -/

/-- `n` more items of the entry. -/
structure Stocked (e : ItemStores) (p : P) (entry n : Nat) (w w' : Holdings P) : Prop where
  sound : Sound e w'
  total : ∀ x, w'.total p x = w.total p x + if x = entry then n else 0

omit [DecidableEq P] in
theorem Stocked.trans {w'' : Holdings P} (h : Stocked e p entry n w w')
    (h' : Stocked e p entry m w' w'') : Stocked e p entry (n + m) w w'' where
  sound := h'.sound
  total := fun x => by
    rw [h'.total, h.total]
    split_ifs <;> omega

/-- `w'` is `w` but for what is at one position. -/
structure Beside (w w' : Holdings P) (p : P) (pos : Pos) : Prop where
  bags : ∀ b, w'.getBagByPos p b = w.getBagByPos p b
  size : ∀ b g, w.getBagByPos p b = some g → w'.getBagSize g = w.getBagSize g
  view : ∀ pos', pos' ≠ pos → w'.view p pos' = w.view p pos'
  item : ∀ pos' g, pos' ≠ pos → w.view p pos' = some g → w'.item g = w.item g

omit [DecidableEq P] in
theorem HasRoom.beside {pos' : Pos} (h : w.HasRoom p proto none pos' n) (hb : Beside w w' p pos)
    (hne : pos' ≠ pos) : w'.HasRoom p proto none pos' n where
  usable := (usable_congr hb.bags hb.size).mpr h.usable
  plain := h.plain
  positive := h.positive
  le := h.le
  stack := by
    intro g hg
    rw [itemBeside_none] at hg
    have hview : w.view p pos' = some g := by
      rw [← hb.view pos' hne]
      exact view_of_getItemByPos hg
    have hbeside : w.itemBeside p pos' none = some g := by
      rw [itemBeside_none, h.usable.getItemByPos_eq, hview]
    rw [hb.item pos' g hne hview]
    exact h.stack g hbeside

structure Spare (w : Holdings P) (g : Nat) (proto : ItemTemplate) : Prop where
  absent : Storage.Absent w.held g
  old : g < w.nextGuid
  proto : (w.item g).proto = proto

section StoreAt

variable {w₁ : Holdings P} {d : ItemPosCount} {clone : Bool}
  (hw : Sound e w) (hstore : e.store proto.itemId = some proto)

include hw hstore

theorem stocked_putAt (hheld : w₁.held = w.held) (hitem : ∀ h, h ≠ g → w₁.item h = w.item h)
    (hnext : w.nextGuid ≤ w₁.nextGuid) (hg : w₁.Spare g proto) (hcount : (w₁.item g).count = n)
    (hroom : w.HasRoom p proto none pos n) (hempty : w.view p pos = none) :
    Stocked e p proto.itemId n w (w₁.putAt p pos g) ∧ Beside w (w₁.putAt p pos g) p pos ∧
      ∀ h, h ≠ g → (w₁.putAt p pos g).item h = w.item h := by
  have habs : Storage.Absent w.held g := hheld ▸ hg.absent
  have hplace : w₁.placeOf p pos = w.placeOf p pos := by
    refine placeOf_congr (bags_congr (fun q s _ => by rw [hheld]) fun q s h hh => ?_)
    rw [hitem h (habs.ne hh)]
  have hself : w₁.placeOf p pos ≠ .bagslot g pos.2 := by
    intro heq
    rw [hplace, placeOf] at heq
    split at heq
    · cases heq
    · cases hb : w.getBagByPos p pos.1 with
      | none =>
        rw [hb] at heq
        cases heq
      | some b =>
        rw [hb] at heq
        cases heq
        exact habs _ (getBagByPos_some hb).2.1
  have hput : w₁.putAt p pos g =
      (w₁.setItem g { w₁.item g with owner := w₁.ownerAt p pos }).put (w.placeOf p pos) g := by
    rw [putAt, if_neg hself, hplace]
  rw [hput]
  set w' := (w₁.setItem g { w₁.item g with owner := w₁.ownerAt p pos }).put (w.placeOf p pos) g
  have hitem' : ∀ h, h ≠ g → w'.item h = w.item h := by
    intro h hne
    exact (setItem_ne hne).trans (hitem h hne)
  have hnew : (w'.item g).proto = proto ∧ (w'.item g).count = n := by
    simp only [w', put_item, setItem_same]
    exact ⟨hg.proto, hcount⟩
  have hheld' : w'.held = Function.update w.held (w.placeOf p pos) (some g) := by
    simp only [w', put_held, setItem_held, hheld]
  have hkeep : Keepable e w' g := by
    refine ⟨?_, ?_, ?_, hg.old⟩
    · rw [Item.entry, hnew.1]
      exact hstore
    · rw [hnew.2]
      exact hroom.positive
    · rw [hnew.1, hnew.2]
      exact hroom.le
  obtain ⟨hsound, hview, htotal⟩ :=
    put_adds hw hheld' hitem' hnext hroom.usable.exists hempty habs hkeep
  have ha : w.Assigned w' p pos (some g) :=
    ⟨hheld', fun pl h hh => by rw [hitem' h (habs.ne hh)]⟩
  refine ⟨⟨hsound, fun x => ?_⟩, ⟨fun b => ha.bags hroom.usable.exists hroom.plain, ?_, ?_, ?_⟩,
    hitem'⟩
  · rw [htotal, Item.entry, hnew.1, hnew.2]
  · intro b h hb
    rw [getBagSize, getBagSize]
    have hheld : isBagSlot b = true ∧ w.held (.slot p b) = some h ∧ (w.item h).isBag = true :=
      getBagByPos_some (show w.getBagByPos p ((b, 0) : Pos).1 = some h from hb)
    rw [hitem' h (habs.ne hheld.2.1)]
  · intro pos' hne
    rw [hview, Function.update_of_ne hne]
  · intro pos' h hne hh
    exact hitem' h (habs.ne (held_of_view hh))

omit [DecidableEq P] in
theorem stocked_merge {g2 : Nat} (hget : w.getItemByPos p pos = some g2)
    (hroom : w.HasRoom p proto none pos n) :
    Stocked e p proto.itemId n w (w.storeMerge pos g2 n) ∧ Beside w (w.storeMerge pos g2 n) p pos ∧
      ∀ h, h ≠ g2 → (w.storeMerge pos g2 n).item h = w.item h := by
  obtain ⟨hentry, hle⟩ := hroom.stack g2 (by rw [itemBeside_none, hget])
  have hseen := view_of_getItemByPos hget
  have hknown := hw.known _ g2 (held_of_view hseen)
  have hproto2 : (w.item g2).proto = proto := by
    rw [hentry, hstore] at hknown
    exact (Option.some.inj hknown).symm
  have hother : ∀ h, h ≠ g2 → (w.storeMerge pos g2 n).item h = w.item h := fun h => setItem_ne
  have hsame : ((w.storeMerge pos g2 n).item g2).proto = (w.item g2).proto ∧
      ((w.storeMerge pos g2 n).item g2).count = (w.item g2).count + n := by
    rw [storeMerge, setItem_same]
    exact ⟨Item.setBinding_proto, rfl⟩
  have hproto : ∀ h, ((w.storeMerge pos g2 n).item h).proto = (w.item h).proto := by
    intro h
    by_cases hh : h = g2
    · rw [hh, hsame.1]
    · rw [hother h hh]
  have hw' : Sound e (w.storeMerge pos g2 n) := by
    refine hw.reitem rfl (Nat.le_refl _) (fun _ h _ => hproto h) fun pl h hh => ?_
    by_cases hg : h = g2
    · rw [hg, hsame.2, hproto2]
      exact ⟨Nat.add_pos_right _ hroom.positive, hle⟩
    · rw [hother h hg]
      exact hw.counted pl h hh
  have hbags : ∀ b, (w.storeMerge pos g2 n).getBagByPos p b = w.getBagByPos p b :=
    fun b => bags_congr (fun _ _ _ => rfl) fun _ _ h _ => hproto h
  have hsize : ∀ b, (w.storeMerge pos g2 n).getBagSize b = w.getBagSize b := by
    intro b
    rw [getBagSize, getBagSize, hproto]
  have hview : (w.storeMerge pos g2 n).view p = w.view p := by
    funext pos'
    simp only [view, hbags, hsize]
    rfl
  refine ⟨⟨hw', fun x => ?_⟩, ⟨hbags, fun _ b _ => hsize b, fun _ _ => by rw [hview], ?_⟩, hother⟩
  · have htotal : (w.storeMerge pos g2 n).total p x + w.entryCount x none g2 =
        w.total p x + (w.storeMerge pos g2 n).entryCount x none g2 :=
      total_reweigh hw hw' hview hseen hother
    rw [entryCount_none, entryCount_none, hsame.2, Item.entry, Item.entry, hsame.1, hproto2]
      at htotal
    by_cases hx : proto.itemId = x
    · rw [if_pos hx, if_pos hx] at htotal
      rw [if_pos hx.symm]
      omega
    · rw [if_neg hx, if_neg hx, Nat.add_zero, Nat.add_zero] at htotal
      rw [if_neg (Ne.symm hx), Nat.add_zero]
      exact htotal
  · intro pos' h hne hh
    refine hother h fun heq => hne ?_
    rw [heq] at hh
    exact (view_single hw hh hseen).2

omit hstore in
theorem spare_clone (hg : w.Spare g proto)
    (hitem : ∀ h, h < w.nextGuid → Storage.Absent w.held h →
      (w.storeAt p d g true).2.item h = w.item h) : (w.storeAt p d g true).2.Spare g proto := by
  have hseparate : Separate w := ⟨hw.single, hw.fresh⟩
  have hlater : Later w (w.storeAt p d g true).2 (g + 1) := (storeAt_clone hseparate).2 (g + 1)
  have hloose : (w.storeAt p d g true).2.Loose g :=
    hlater.loose ⟨hg.absent, hg.old⟩ (Nat.ne_of_lt (Nat.lt_succ_self g))
  exact ⟨hloose.absent, hloose.old, by rw [hitem g hg.old hg.absent, hg.proto]⟩

theorem stocked_storeAt (hg : w.Spare g proto) (hroom : w.HasRoom p proto none d.pos d.count) :
    Stocked e p proto.itemId d.count w (w.storeAt p d g clone).2 ∧
      Beside w (w.storeAt p d g clone).2 p d.pos ∧ (w.storeAt p d g clone).1.isSome = true ∧
      (clone = true → (w.storeAt p d g clone).2.Spare g proto) := by
  cases hget : w.getItemByPos p d.pos with
  | some g2 =>
    obtain ⟨hstocked, hbeside, hother⟩ := stocked_merge hw hstore hget hroom
    have hat : ∀ clone, w.storeAt p d g clone = (some g2, w.storeMerge d.pos g2 d.count) :=
      fun clone => by rw [storeAt, hget]
    have hheld := held_of_view (view_of_getItemByPos hget)
    refine ⟨by rwa [hat], by rwa [hat], by rw [hat]; rfl, fun hclone => ?_⟩
    rw [hclone]
    refine spare_clone hw hg fun h _ habs => ?_
    rw [hat]
    exact hother h fun heq => habs _ (heq ▸ hheld)
  | none =>
    have hempty : w.view p d.pos = none := by rw [← hroom.usable.getItemByPos_eq, hget]
    cases clone with
    | false =>
      set w₁ := (w.setCount g d.count).setItem g (((w.setCount g d.count).item g).setBinding d.pos)
        with hw₁
      have hat : w.storeAt p d g false = (some g, w₁.putAt p d.pos g) := by
        rw [storeAt, hget]
        rfl
      have hitem : ∀ h, h ≠ g → w₁.item h = w.item h := by
        intro h hne
        rw [hw₁, setItem_ne hne, setCount, setItem_ne hne]
      have hnew : (w₁.item g).proto = proto ∧ (w₁.item g).count = d.count := by
        rw [hw₁, setItem_same, Item.setBinding_proto, Item.setBinding_count, setCount, setItem_same]
        exact ⟨hg.proto, rfl⟩
      obtain ⟨hstocked, hbeside, -⟩ := stocked_putAt hw hstore
        (show w₁.held = w.held from rfl) hitem (Nat.le_refl _)
        ⟨hg.absent, hg.old, hnew.1⟩ hnew.2 hroom hempty
      rw [hat]
      exact ⟨hstocked, hbeside, rfl, fun hclone => by cases hclone⟩
    | true =>
      have hclone : (w.item g).cloneItem d.count (some p) = some
          { proto := proto, count := d.count, owner := some p, soulBound := (w.item g).soulBound
            bopTradeable := (w.item g).bopTradeable } := by
        rw [Item.cloneItem, Item.create, if_neg (Nat.not_lt.mpr hroom.positive), hg.proto,
          Nat.min_eq_left hroom.le]
        rfl
      obtain ⟨i, hi, hproto, hcount⟩ : ∃ i, (w.item g).cloneItem d.count (some p) = some i ∧
          i.proto = proto ∧ i.count = d.count := ⟨_, hclone, rfl, rfl⟩
      set w₁ := (w.newItem i).2.setItem w.nextGuid
        (((w.newItem i).2.item w.nextGuid).setBinding d.pos) with hw₁
      have hat : w.storeAt p d g true = (some w.nextGuid, w₁.putAt p d.pos w.nextGuid) := by
        rw [storeAt, hget]
        simp only [storeEmpty, if_true, hi]
        rfl
      have hitem : ∀ h, h ≠ w.nextGuid → w₁.item h = w.item h := by
        intro h hne
        rw [hw₁, setItem_ne hne]
        exact Function.update_of_ne hne _ _
      have hnew : (w₁.item w.nextGuid).proto = proto ∧ (w₁.item w.nextGuid).count = d.count := by
        rw [hw₁, setItem_same, Item.setBinding_proto, Item.setBinding_count]
        simp only [newItem, Function.update_self]
        exact ⟨hproto, hcount⟩
      have hfresh : Storage.Absent w.held w.nextGuid :=
        fun pl hpl => Nat.lt_irrefl _ (hw.fresh pl _ hpl)
      obtain ⟨hstocked, hbeside, hother⟩ := stocked_putAt hw hstore
        (show w₁.held = w.held from rfl) hitem (Nat.le_succ _)
        ⟨hfresh, Nat.lt_succ_self _, hnew.1⟩ hnew.2 hroom hempty
      refine ⟨by rwa [hat], by rwa [hat], by rw [hat]; rfl, fun _ => ?_⟩
      refine spare_clone hw hg fun h hlt _ => ?_
      rw [hat]
      exact hother h (Nat.ne_of_lt hlt)

end StoreAt

/-- `StoreItem` follows a plan that fits, and touches nothing else. -/
theorem stocked_storeItem (hw : Sound e w) (hstore : e.store proto.itemId = some proto)
    (hg : w.Spare g proto) (hfits : w.Fits p proto none dest) (hne : dest ≠ []) :
    Stocked e p proto.itemId (dest.map ItemPosCount.count).sum w (w.storeItem p dest g).2 ∧
      (w.storeItem p dest g).1.isSome = true ∧
      ∀ pos, pos ∉ dest.map ItemPosCount.pos →
        (w.storeItem p dest g).2.view p pos = w.view p pos ∧
        ∀ h, w.view p pos = some h → (w.storeItem p dest g).2.item h = w.item h := by
  induction dest generalizing w with
  | nil => exact absurd rfl hne
  | cons d ds ih =>
    have hd := hfits.room d (.head _)
    cases ds with
    | nil =>
      have hlast : Stocked e p proto.itemId d.count w (w.storeAt p d g false).2 ∧
          Beside w (w.storeAt p d g false).2 p d.pos ∧ (w.storeAt p d g false).1.isSome = true ∧
          (false = true → (w.storeAt p d g false).2.Spare g proto) :=
        stocked_storeAt hw hstore hg hd
      refine ⟨hlast.1, hlast.2.2.1, fun pos hpos => ?_⟩
      have hother : pos ≠ d.pos := fun heq => hpos (heq ▸ .head _)
      exact ⟨hlast.2.1.view pos hother, fun h => hlast.2.1.item pos h hother⟩
    | cons d' ds =>
      obtain ⟨hstocked, hbeside, -, hspare⟩ : Stocked e p proto.itemId d.count w
            (w.storeAt p d g true).2 ∧ Beside w (w.storeAt p d g true).2 p d.pos ∧
          (w.storeAt p d g true).1.isSome = true ∧
          (true = true → (w.storeAt p d g true).2.Spare g proto) :=
        stocked_storeAt hw hstore hg hd
      obtain ⟨hnot, hdistinct⟩ := List.nodup_cons.mp hfits.distinct
      have hrest : (w.storeAt p d g true).2.Fits p proto none (d' :: ds) := by
        refine ⟨hdistinct, fun d'' hd'' => (hfits.room d'' (.tail _ hd'')).beside hbeside ?_⟩
        exact fun heq => hnot (heq ▸ List.mem_map_of_mem hd'')
      obtain ⟨hmore, hsome, hframe⟩ := ih hstocked.sound (hspare rfl) hrest (List.cons_ne_nil _ _)
      refine ⟨hstocked.trans hmore, hsome, fun pos hpos => ?_⟩
      have hother : pos ≠ d.pos := fun heq => hpos (heq ▸ .head _)
      obtain ⟨hview, hitem⟩ := hframe pos fun hin => hpos (.tail _ hin)
      have hfirst := hbeside.view pos hother
      refine ⟨hview.trans hfirst, fun h hh => ?_⟩
      exact (hitem h (hfirst.trans hh)).trans (hbeside.item pos h hother hh)

omit [DecidableEq P] in
theorem newItem_item {i : Item P} {pl : Place P} (hw : Sound e w) (hg : w.held pl = some g) :
    (w.newItem i).2.item g = w.item g :=
  Function.update_of_ne (Nat.ne_of_lt (hw.fresh pl g hg)) _ _

omit [DecidableEq P] in
theorem view_kept (hheld : w'.held = w.held)
    (hitem : ∀ pl h, w.held pl = some h → w'.item h = w.item h) :
    Reduced w w' p ∧ w'.view p = w.view p := by
  have hbags : ∀ b, w'.getBagByPos p b = w.getBagByPos p b :=
    fun b => bags_congr (fun q s _ => by rw [hheld]) fun q s h hh => by rw [hitem _ h hh]
  have hsize : ∀ b h, w.getBagByPos p b = some h → w'.getBagSize h = w.getBagSize h := by
    intro b h hb
    have hworn : w.held (.slot p b) = some h :=
      (getBagByPos_some (show w.getBagByPos p ((b, 0) : Pos).1 = some h from hb)).2.1
    rw [getBagSize, getBagSize, hitem _ h hworn]
  have hview : w'.view p = w.view p := by
    funext pos'
    simp only [view, hbags, hheld]
    cases hb : w.getBagByPos p pos'.1 with
    | none => rfl
    | some b => simp only [hsize _ b hb]
  refine ⟨⟨hbags, hsize, fun pos' h hh => ?_⟩, hview⟩
  rw [hview] at hh
  have hh' := hitem _ h (held_of_view hh)
  exact ⟨hh, by rw [hh'], by rw [hh']⟩

omit [DecidableEq P] in
theorem fresh_newItem {i : Item P} (hw : Sound e w) : Sound e (w.newItem i).2 ∧
    (w.newItem i).2.Spare w.nextGuid i.proto ∧ Reduced w (w.newItem i).2 p ∧
    (w.newItem i).2.view p = w.view p := by
  have hw' : Sound e (w.newItem i).2 := by
    refine hw.reitem rfl (Nat.le_succ _) (fun pl h hh => ?_) fun pl h hh => ?_
    · rw [newItem_item hw hh]
    · rw [newItem_item hw hh]
      exact hw.counted pl h hh
  have hspare : (w.newItem i).2.Spare w.nextGuid i.proto := by
    refine ⟨fun pl hpl => Nat.lt_irrefl _ (hw.fresh pl _ hpl), Nat.lt_succ_self _, ?_⟩
    simp only [newItem, Function.update_self]
  obtain ⟨hred, hview⟩ := view_kept (p := p) (show (w.newItem i).2.held = w.held from rfl)
    fun pl h => newItem_item hw
  exact ⟨hw', hspare, hred, hview⟩

theorem stocked_storeNewItem (hw : Sound e w) (hstore : e.store proto.itemId = some proto)
    (hfits : w.Fits p proto none dest) (hsum : 0 < (dest.map ItemPosCount.count).sum) :
    Stocked e p proto.itemId (dest.map ItemPosCount.count).sum w
        (w.storeNewItem p e dest proto.itemId).2 ∧
      (w.storeNewItem p e dest proto.itemId).1.isSome = true := by
  set sum := (dest.map ItemPosCount.count).sum with hsums
  set i : Item P :=
    { proto := proto, count := min sum proto.getMaxStackSize, owner := some p } with hi
  have hnew : w.storeNewItem p e dest proto.itemId =
      (w.newItem i).2.storeItem p dest w.nextGuid := by
    rw [storeNewItem, hstore, Option.bind_some, Item.create, ← hsums, if_neg (Nat.not_lt.mpr hsum)]
    rfl
  obtain ⟨hw₁, hspare, hreduced, hview⟩ := fresh_newItem (p := p) (i := i) hw
  have hne : dest ≠ [] := fun hnil => by simp [hsums, hnil] at hsum
  obtain ⟨hstocked, hsome, -⟩ := stocked_storeItem hw₁ hstore hspare
    (hfits.reduced hreduced fun g hg => nomatch hg) hne
  rw [hnew]
  refine ⟨⟨hstocked.sound, fun x => ?_⟩, hsome⟩
  rw [hstocked.total, total_congr hw hw₁ hview fun _ _ hh => newItem_item hw (held_of_view hh)]

end Holdings

end SkyfireBG
