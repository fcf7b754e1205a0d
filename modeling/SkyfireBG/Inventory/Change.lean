import SkyfireBG.Inventory.Sound

/-!
# SkyfireBG.Inventory.Change

How the single changes act on an inventory: an array entry is written or cleared, an object is made
or gets new fields.  Away from the bag slots such a change keeps the bags (`bags_congr`), and `view`
changes at one position.
-/

namespace SkyfireBG

namespace Holdings

variable {P : Type} {e : ItemStores} {w w' : Holdings P} {p q : P} {pos pos' : Pos} {g h b : Nat}
  {entry : Nat}

/-- A position that `GetItemByPos` looks at: an array entry that is no buyback slot. -/
def Usable (w : Holdings P) (p : P) (pos : Pos) : Prop :=
  if pos.1 = INVENTORY_SLOT_BAG_0 then
    pos.2 < BANK_SLOT_BAG_END ∨ (KEYRING_SLOT_START ≤ pos.2 ∧ pos.2 < CURRENCYTOKEN_SLOT_END)
  else ∃ b, w.getBagByPos p pos.1 = some b ∧ pos.2 < w.getBagSize b

theorem Usable.exists (h : w.Usable p pos) : w.Exists p pos := by
  simp only [Usable, BANK_SLOT_BAG_END, KEYRING_SLOT_START, CURRENCYTOKEN_SLOT_END] at h
  simp only [Exists, PLAYER_SLOT_END]
  split at h
  · rename_i hc
    rw [if_pos hc]
    omega
  · rename_i hc
    rw [if_neg hc]
    exact h

theorem Usable.getItemByPos_eq (h : w.Usable p pos) : w.getItemByPos p pos = w.view p pos := by
  simp only [Usable] at h
  simp only [getItemByPos, view]
  by_cases hc : pos.1 = INVENTORY_SLOT_BAG_0
  · rw [if_pos hc] at h
    rw [if_pos ⟨hc, h⟩, if_pos hc]
  · rw [if_neg (fun hand => hc hand.1), if_neg hc]
    cases w.getBagByPos p pos.1 <;> rfl

theorem Exists.view_eq (h : w.Exists p pos) : w.view p pos = w.held (w.placeOf p pos) := by
  simp only [Exists] at h
  simp only [view, placeOf]
  by_cases hc : pos.1 = INVENTORY_SLOT_BAG_0
  · rw [if_pos hc, if_pos hc]
  · rw [if_neg hc] at h
    obtain ⟨b, hb, hlt⟩ := h
    rw [if_neg hc, if_neg hc, hb]
    simp only [hlt, if_true]

theorem usable_of_getItemByPos (h : w.getItemByPos p pos = some g) : w.Usable p pos := by
  simp only [getItemByPos] at h
  simp only [Usable]
  by_cases hc : pos.1 = INVENTORY_SLOT_BAG_0
  · rw [if_pos hc]
    split at h
    · rename_i hand
      exact hand.2
    · split at h
      · rename_i b hb
        have hs := (getBagByPos_some hb).1
        exact absurd hc (isBagSlot_lt hs).2.1
      · cases h
  · rw [if_neg hc]
    rw [if_neg (fun hand => hc hand.1)] at h
    split at h
    · rename_i b hb
      split at h
      · rename_i hlt
        exact ⟨b, hb, hlt⟩
      · cases h
    · cases h

theorem bags_congr
    (hheld : ∀ q s, isBagSlot s = true → w'.held (.slot q s) = w.held (.slot q s))
    (hproto : ∀ q s g, w.held (.slot q s) = some g → (w'.item g).proto = (w.item g).proto) :
    w'.getBagByPos q b = w.getBagByPos q b := by
  simp only [getBagByPos]
  split
  · rename_i hs
    rw [hheld q b hs]
    cases hg : w.held (.slot q b) with
    | none => rfl
    | some g =>
      have hbag : (w'.item g).isBag = (w.item g).isBag := by
        rw [Item.isBag, Item.isBag, hproto q b g hg]
      rw [Option.filter_some, Option.filter_some, hbag]
  · rfl

theorem placeOf_congr (hbag : w'.getBagByPos p pos.1 = w.getBagByPos p pos.1) :
    w'.placeOf p pos = w.placeOf p pos := by
  simp only [placeOf, hbag]

theorem placeOf_ne_bag (hex : w.Exists p pos) (hplain : isBagPos pos = false) {s : Nat}
    (hs : isBagSlot s = true) : w.placeOf p pos ≠ .slot q s := by
  simp only [Exists] at hex
  simp only [placeOf]
  by_cases hc : pos.1 = INVENTORY_SLOT_BAG_0
  · rw [if_pos hc]
    intro heq
    obtain ⟨_, hslot⟩ := Place.slot.inj heq
    have hbag : isBagPos pos = true := isBagPos_iff.mpr ⟨hc, hslot ▸ hs⟩
    rw [hbag] at hplain
    cases hplain
  · rw [if_neg hc] at hex
    obtain ⟨b, hb, _⟩ := hex
    rw [if_neg hc, hb]
    intro heq
    cases heq

/-- `w'` is `w` with `x` in the array entry of `pos`; other objects keep their templates. -/
structure Assigned [DecidableEq P] (w w' : Holdings P) (p : P) (pos : Pos) (x : Option Nat) :
    Prop where
  held : w'.held = Function.update w.held (w.placeOf p pos) x
  proto : ∀ pl g, w.held pl = some g → (w'.item g).proto = (w.item g).proto

variable [DecidableEq P] {x : Option Nat}

theorem Assigned.bags (ha : w.Assigned w' p pos x) (hex : w.Exists p pos)
    (hplain : isBagPos pos = false) : w'.getBagByPos q b = w.getBagByPos q b := by
  refine bags_congr (fun q s hs => ?_) (fun q s => ha.proto _)
  rw [ha.held, Function.update_of_ne (placeOf_ne_bag hex hplain hs).symm]

theorem Assigned.size (ha : w.Assigned w' p pos x) (hb : w.getBagByPos q pos'.1 = some b) :
    w'.getBagSize b = w.getBagSize b := by
  simp only [getBagSize, ha.proto _ _ (getBagByPos_some hb).2.1]

theorem Assigned.view_of_ne (ha : w.Assigned w' p pos x) (hs : Storage.Single w.held)
    (hex : w.Exists p pos) (hplain : isBagPos pos = false) (hne : ¬ (q = p ∧ pos' = pos)) :
    w'.view q pos' = w.view q pos' := by
  simp only [view, ha.bags hex hplain]
  by_cases hc : pos'.1 = INVENTORY_SLOT_BAG_0
  · rw [if_pos hc, if_pos hc, ha.held, Function.update_of_ne]
    intro heq
    have hfirst : pos.1 = INVENTORY_SLOT_BAG_0 := by
      by_contra hc'
      simp only [Exists, if_neg hc'] at hex
      obtain ⟨b, hb, _⟩ := hex
      simp only [placeOf, if_neg hc', hb] at heq
      cases heq
    simp only [placeOf, if_pos hfirst] at heq
    obtain ⟨rfl, hslot⟩ := Place.slot.inj heq
    exact hne ⟨rfl, Prod.ext (hc.trans hfirst.symm) hslot⟩
  · rw [if_neg hc, if_neg hc]
    cases hb : w.getBagByPos q pos'.1 with
    | none => rfl
    | some b =>
      simp only [ha.size hb]
      split
      · rename_i hlt
        rw [ha.held, Function.update_of_ne]
        intro heq
        have hex' : w.Exists q pos' := by
          rw [Exists, if_neg hc]
          exact ⟨b, hb, hlt⟩
        have hplace : w.placeOf q pos' = w.placeOf p pos := by
          rw [placeOf, if_neg hc, hb]
          exact heq
        exact hne (placeOf_inj hs hex' hex hplace)
      · rfl

theorem Assigned.view_same (ha : w.Assigned w' p pos x) (hex : w.Exists p pos)
    (hplain : isBagPos pos = false) : w'.view p pos = x := by
  simp only [Exists] at hex
  simp only [view, ha.bags (by simpa only [Exists] using hex) hplain]
  by_cases hc : pos.1 = INVENTORY_SLOT_BAG_0
  · rw [if_pos hc, ha.held, placeOf, if_pos hc, Function.update_self]
  · rw [if_neg hc] at hex
    obtain ⟨b, hb, hlt⟩ := hex
    rw [if_neg hc, hb]
    simp only [ha.size hb, hlt, if_true]
    rw [ha.held, placeOf, if_neg hc, hb, Function.update_self]

theorem Assigned.view_eq (ha : w.Assigned w' p pos x) (hs : Storage.Single w.held)
    (hex : w.Exists p pos) (hplain : isBagPos pos = false) :
    w'.view p = Function.update (w.view p) pos x := by
  funext pos'
  by_cases hpos : pos' = pos
  · subst hpos
    rw [ha.view_same hex hplain, Function.update_self]
  · rw [ha.view_of_ne hs hex hplain (fun hand => hpos hand.2), Function.update_of_ne hpos]

omit [DecidableEq P] in
theorem Sound.reitem (hw : Sound e w) (hheld : w'.held = w.held)
    (hnext : w.nextGuid ≤ w'.nextGuid)
    (hproto : ∀ pl g, w.held pl = some g → (w'.item g).proto = (w.item g).proto)
    (hcount : ∀ pl g, w.held pl = some g →
      0 < (w'.item g).count ∧ (w'.item g).count ≤ (w.item g).proto.getMaxStackSize) :
    Sound e w' where
  single := by
    rw [hheld]
    exact hw.single
  known := by
    intro pl g hg
    rw [hheld] at hg
    rw [Item.entry, hproto pl g hg]
    exact hw.known pl g hg
  counted := by
    intro pl g hg
    rw [hheld] at hg
    rw [hproto pl g hg]
    exact hcount pl g hg
  fresh := by
    intro pl g hg
    rw [hheld] at hg
    exact Nat.lt_of_lt_of_le (hw.fresh pl g hg) hnext
  slots := by
    intro p s g hg
    rw [hheld] at hg
    exact hw.slots p s g hg
  shown := by
    intro b j g hg
    rw [hheld] at hg
    obtain ⟨hlt, hbag, p, s, hs, hb⟩ := hw.shown b j g hg
    rw [getBagSize, Item.isBag, hproto _ b hb, hheld]
    exact ⟨hlt, hbag, p, s, hs, hb⟩

/-- The object `g` is fit to be kept. -/
structure Keepable (e : ItemStores) (w : Holdings P) (g : Nat) : Prop where
  known : e.store (w.item g).entry = some (w.item g).proto
  pos : 0 < (w.item g).count
  le : (w.item g).count ≤ (w.item g).proto.getMaxStackSize
  fresh : g < w.nextGuid

omit [DecidableEq P] in
theorem Sound.keepable (hw : Sound e w) {pl : Place P} (h : w.held pl = some g) :
    Keepable e w g :=
  ⟨hw.known pl g h, (hw.counted pl g h).1, (hw.counted pl g h).2, hw.fresh pl g h⟩

theorem Sound.put (hw : Sound e w) (ha : w.Assigned w' p pos (some g)) (hex : w.Exists p pos)
    (hempty : w.held (w.placeOf p pos) = none) (habs : Storage.Absent w.held g)
    (hkeep : ∀ pl h, w'.held pl = some h → Keepable e w' h) : Sound e w' where
  single := by
    rw [ha.held]
    exact hw.single.put habs
  known := fun pl h hh => (hkeep pl h hh).known
  counted := fun pl h hh => ⟨(hkeep pl h hh).pos, (hkeep pl h hh).le⟩
  fresh := fun pl h hh => (hkeep pl h hh).fresh
  slots := by
    intro q s h hh
    rw [ha.held] at hh
    by_cases hpl : Place.slot q s = w.placeOf p pos
    · simp only [Exists] at hex
      simp only [placeOf] at hpl
      by_cases hc : pos.1 = INVENTORY_SLOT_BAG_0
      · rw [if_pos hc] at hex hpl
        obtain ⟨_, hslot⟩ := Place.slot.inj hpl
        omega
      · rw [if_neg hc] at hex hpl
        obtain ⟨b, hb, _⟩ := hex
        rw [hb] at hpl
        cases hpl
    · rw [Function.update_of_ne hpl] at hh
      exact hw.slots q s h hh
  shown := by
    have hstays : ∀ q s b, w.held (.slot q s) = some b →
        w'.held (.slot q s) = some b ∧ (w'.item b).proto = (w.item b).proto := by
      intro q s b hb
      refine ⟨?_, ha.proto _ b hb⟩
      rw [ha.held, Function.update_of_ne]
      · exact hb
      · intro heq
        rw [heq, hempty] at hb
        cases hb
    intro b j h hh
    rw [ha.held] at hh
    have hold : j < w.getBagSize b ∧ (w.item b).isBag = true ∧
        ∃ q s, isBagSlot s = true ∧ w.held (.slot q s) = some b := by
      by_cases hpl : Place.bagslot b j = w.placeOf p pos
      · simp only [Exists] at hex
        simp only [placeOf] at hpl
        by_cases hc : pos.1 = INVENTORY_SLOT_BAG_0
        · rw [if_pos hc] at hpl
          cases hpl
        · rw [if_neg hc] at hex hpl
          obtain ⟨b', hb', hlt⟩ := hex
          rw [hb'] at hpl
          obtain ⟨rfl, rfl⟩ := Place.bagslot.inj hpl
          obtain ⟨hs, hheld, hbag⟩ := getBagByPos_some hb'
          exact ⟨hlt, hbag, p, pos.1, hs, hheld⟩
      · rw [Function.update_of_ne hpl] at hh
        exact hw.shown b j h hh
    obtain ⟨hlt, hbag, q, s, hs, hb⟩ := hold
    obtain ⟨hheld, hproto⟩ := hstays q s b hb
    rw [getBagSize, Item.isBag, hproto]
    exact ⟨hlt, hbag, q, s, hs, hheld⟩

theorem Sound.clear (hw : Sound e w) (ha : w.Assigned w' p pos none) (hex : w.Exists p pos)
    (hplain : isBagPos pos = false) (hkeep : ∀ pl h, w'.held pl = some h → Keepable e w' h) :
    Sound e w' where
  single := by
    rw [ha.held]
    exact hw.single.clear
  known := fun pl h hh => (hkeep pl h hh).known
  counted := fun pl h hh => ⟨(hkeep pl h hh).pos, (hkeep pl h hh).le⟩
  fresh := fun pl h hh => (hkeep pl h hh).fresh
  slots := by
    intro q s h hh
    rw [ha.held] at hh
    exact hw.slots q s h (Storage.held_of_clear hh).2
  shown := by
    intro b j h hh
    rw [ha.held] at hh
    obtain ⟨hlt, hbag, q, s, hs, hb⟩ := hw.shown b j h (Storage.held_of_clear hh).2
    have hheld : w'.held (.slot q s) = some b := by
      rw [ha.held, Function.update_of_ne (placeOf_ne_bag hex hplain hs).symm]
      exact hb
    rw [getBagSize, Item.isBag, ha.proto _ b hb]
    exact ⟨hlt, hbag, q, s, hs, hheld⟩

omit [DecidableEq P] in
theorem entryCount_none : w.entryCount entry none g =
    if (w.item g).entry = entry then (w.item g).count else 0 := by
  simp [entryCount]

omit [DecidableEq P] in
theorem entryCount_congr (h : w'.item g = w.item g) :
    w'.entryCount entry none g = w.entryCount entry none g := by
  simp only [entryCount, h]

omit [DecidableEq P] in
theorem total_congr (hw : Sound e w) (hw' : Sound e w') (hview : w'.view p = w.view p)
    (hitem : ∀ pos g, w.view p pos = some g → w'.item g = w.item g) :
    w'.total p entry = w.total p entry := by
  rw [hw'.total_eq (Nat.le_max_right w.nextGuid w'.nextGuid),
    hw.total_eq (Nat.le_max_left w.nextGuid w'.nextGuid), hview]
  exact Storage.amount_congr (fun pos g hg => entryCount_congr (hitem pos g hg))

theorem total_removed (hw : Sound e w) (hw' : Sound e w')
    (hview : w'.view p = Function.update (w.view p) pos none) (hg : w.view p pos = some g)
    (hitem : ∀ pl h, w.held pl = some h → w'.item h = w.item h) :
    w'.total p entry + w.entryCount entry none g = w.total p entry := by
  have hlt : g < w.nextGuid := hw.fresh _ g (held_of_view hg)
  rw [hw'.total_eq (Nat.le_max_right w.nextGuid w'.nextGuid),
    hw.total_eq (Nat.le_max_left w.nextGuid w'.nextGuid), hview,
    ← Storage.amount_clear (hw.single_view p)
      (Finset.mem_range.mpr (Nat.lt_of_lt_of_le hlt (Nat.le_max_left _ w'.nextGuid))) hg]
  congr 1
  exact Storage.amount_congr
    (fun pos h hh => entryCount_congr (hitem _ h (held_of_view (Storage.held_of_clear hh).2)))

theorem total_clear (hw : Sound e w) (hw' : Sound e w') (ha : w.Assigned w' p pos none)
    (hex : w.Exists p pos) (hplain : isBagPos pos = false)
    (hfull : w.held (w.placeOf p pos) = some g)
    (hitem : ∀ pl h, w.held pl = some h → w'.item h = w.item h) :
    w'.total p entry + w.entryCount entry none g = w.total p entry :=
  total_removed hw hw' (ha.view_eq hw.single hex hplain) (hex.view_eq.trans hfull) hitem

omit [DecidableEq P] in
theorem total_reweigh (hw : Sound e w) (hw' : Sound e w')
    (hview : w'.view p = w.view p) (hg : w.view p pos = some g)
    (hitem : ∀ h, h ≠ g → w'.item h = w.item h) :
    w'.total p entry + w.entryCount entry none g =
      w.total p entry + w'.entryCount entry none g := by
  have hlt : g < w.nextGuid := hw.fresh _ g (held_of_view hg)
  rw [hw'.total_eq (Nat.le_max_right w.nextGuid w'.nextGuid),
    hw.total_eq (Nat.le_max_left w.nextGuid w'.nextGuid), hview]
  exact Storage.amount_reweigh (hw.single_view p)
    (Finset.mem_range.mpr (Nat.lt_of_lt_of_le hlt (Nat.le_max_left _ w'.nextGuid))) hg
    (fun h hne => entryCount_congr (hitem h hne))

end Holdings

end SkyfireBG
