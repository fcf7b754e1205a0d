import SkyfireBG.Inventory.CanStore
import SkyfireBG.Lib.Storage

/-!
# SkyfireBG.Inventory.Sound

What holds of every inventory: `Sound`.  No object is in two places, stacks are neither empty nor
too high, and what is in a bag can be reached, since the bag is in a bag slot.

`view` flattens the arrays of one player to a map from positions, and `total` counts the items of an
entry in it.  A change at a position that is no bag slot is a change of `view` at that position
(`view_put`, `view_clear`).
-/

namespace SkyfireBG

namespace Holdings

variable {P : Type}

structure Sound (e : ItemStores) (w : Holdings P) : Prop where
  single : Storage.Single w.held
  known : ∀ pl g, w.held pl = some g → e.store (w.item g).entry = some (w.item g).proto
  counted : ∀ pl g, w.held pl = some g →
    0 < (w.item g).count ∧ (w.item g).count ≤ (w.item g).proto.getMaxStackSize
  fresh : ∀ pl g, w.held pl = some g → g < w.nextGuid
  slots : ∀ p s g, w.held (.slot p s) = some g → s < PLAYER_SLOT_END
  shown : ∀ b j g, w.held (.bagslot b j) = some g → j < w.getBagSize b ∧ (w.item b).isBag = true ∧
    ∃ p s, isBagSlot s = true ∧ w.held (.slot p s) = some b

variable (w : Holdings P) (p : P)

/-- What the arrays of player `p` hold, by position. -/
def view (pos : Pos) : Option Nat :=
  if pos.1 = INVENTORY_SLOT_BAG_0 then w.held (.slot p pos.2)
  else match w.getBagByPos p pos.1 with
    | none => none
    | some b => if pos.2 < w.getBagSize b then w.held (.bagslot b pos.2) else none

def positions : Finset Pos :=
  ({INVENTORY_SLOT_BAG_0} ×ˢ Finset.range PLAYER_SLOT_END) ∪
    ((Finset.range PLAYER_SLOT_END).filter (fun s => isBagSlot s = true) ×ˢ
      Finset.range MAX_BAG_SIZE)

/-- How many items of an entry player `p` has, in slots and in bags. -/
def total (entry : Nat) : Nat :=
  ∑ pos ∈ positions, (w.view p pos).elim 0 (w.entryCount entry none)

def Exists (pos : Pos) : Prop :=
  if pos.1 = INVENTORY_SLOT_BAG_0 then pos.2 < PLAYER_SLOT_END
  else ∃ b, w.getBagByPos p pos.1 = some b ∧ pos.2 < w.getBagSize b

variable {w} {p} {e : ItemStores} {pos pos' : Pos} {g b : Nat} {q : P} {entry : Nat}

theorem isBagSlot_lt {s : Nat} (h : isBagSlot s = true) : s < PLAYER_SLOT_END ∧
    s ≠ INVENTORY_SLOT_BAG_0 ∧ s < BANK_SLOT_BAG_END := by
  rw [isBagSlot_iff] at h
  simp only [PLAYER_SLOT_END, INVENTORY_SLOT_BAG_0, BANK_SLOT_BAG_END]
  omega

theorem getBagByPos_some (h : w.getBagByPos p pos.1 = some b) :
    isBagSlot pos.1 = true ∧ w.held (.slot p pos.1) = some b ∧ (w.item b).isBag = true := by
  simp only [getBagByPos] at h
  split at h
  · rename_i hs
    obtain ⟨hb, hbag⟩ := Option.filter_eq_some_iff.mp h
    exact ⟨hs, hb, hbag⟩
  · cases h

theorem view_slot {s : Nat} : w.view p (INVENTORY_SLOT_BAG_0, s) = w.held (.slot p s) := by
  simp [view]

theorem view_of_getItemByPos (h : w.getItemByPos p pos = some g) : w.view p pos = some g := by
  simp only [getItemByPos] at h
  split at h
  · rename_i hc
    rw [view, if_pos hc.1]
    exact h
  · split at h
    · rename_i b hb
      obtain ⟨hs, _, _⟩ := getBagByPos_some hb
      split at h
      · rename_i hlt
        rw [view, if_neg (isBagSlot_lt hs).2.1, hb]
        simp only [hlt, if_true]
        exact h
      · cases h
    · cases h

theorem held_of_view (h : w.view p pos = some g) : w.held (w.placeOf p pos) = some g := by
  simp only [view] at h
  simp only [placeOf]
  split at h
  · rename_i hc
    rw [if_pos hc]
    exact h
  · rename_i hc
    rw [if_neg hc]
    cases hb : w.getBagByPos p pos.1 with
    | none =>
      simp only [hb] at h
      cases h
    | some b =>
      simp only [hb] at h ⊢
      split at h
      · exact h
      · cases h

theorem placeOf_inj (hs : Storage.Single w.held) (he : w.Exists p pos) (he' : w.Exists q pos')
    (h : w.placeOf p pos = w.placeOf q pos') : p = q ∧ pos = pos' := by
  simp only [Exists] at he he'
  simp only [placeOf] at h
  by_cases hb : pos.1 = INVENTORY_SLOT_BAG_0 <;> by_cases hb' : pos'.1 = INVENTORY_SLOT_BAG_0
  · rw [if_pos hb, if_pos hb'] at h
    obtain ⟨rfl, hslot⟩ := Place.slot.inj h
    exact ⟨rfl, Prod.ext (hb.trans hb'.symm) hslot⟩
  · rw [if_neg hb'] at he'
    obtain ⟨b', hbag', _⟩ := he'
    rw [if_pos hb, if_neg hb', hbag'] at h
    cases h
  · rw [if_neg hb] at he
    obtain ⟨b, hbag, _⟩ := he
    rw [if_neg hb, if_pos hb', hbag] at h
    cases h
  · rw [if_neg hb] at he
    rw [if_neg hb'] at he'
    obtain ⟨b, hbag, _⟩ := he
    obtain ⟨b', hbag', _⟩ := he'
    rw [if_neg hb, if_neg hb', hbag, hbag'] at h
    obtain ⟨rfl, hslot⟩ := Place.bagslot.inj h
    obtain ⟨rfl, hfst⟩ := Place.slot.inj
      (hs _ _ _ (getBagByPos_some hbag).2.1 (getBagByPos_some hbag').2.1)
    exact ⟨rfl, Prod.ext hfst hslot⟩

theorem exists_of_view (hw : Sound e w) (h : w.view p pos = some g) : w.Exists p pos := by
  simp only [view] at h
  simp only [Exists]
  split at h
  · rename_i hc
    rw [if_pos hc]
    exact hw.slots p _ g h
  · rename_i hc
    rw [if_neg hc]
    split at h
    · cases h
    · rename_i b hb
      split at h
      · rename_i hlt
        exact ⟨b, hb, hlt⟩
      · cases h

theorem view_single (hw : Sound e w) (h : w.view p pos = some g) (h' : w.view q pos' = some g) :
    p = q ∧ pos = pos' :=
  placeOf_inj hw.single (exists_of_view hw h) (exists_of_view hw h')
    (hw.single _ _ g (held_of_view h) (held_of_view h'))

theorem Sound.single_view (hw : Sound e w) (p : P) : Storage.Single (w.view p) :=
  fun _ _ _ h h' => (view_single hw h h').2

theorem Sound.slots_le (hw : Sound e w) {pl : Place P} (h : w.held pl = some g) :
    w.getBagSize g ≤ MAX_BAG_SIZE :=
  e.slots_le _ _ (hw.known pl g h)

theorem mem_positions_of_view (hw : Sound e w) (h : w.view p pos = some g) : pos ∈ positions := by
  have hex := exists_of_view hw h
  simp only [Exists] at hex
  simp only [positions, Finset.mem_union, Finset.mem_product, Finset.mem_singleton,
    Finset.mem_range, Finset.mem_filter]
  split at hex
  · rename_i hc
    exact .inl ⟨hc, hex⟩
  · obtain ⟨b, hb, hlt⟩ := hex
    obtain ⟨hs, hheld, _⟩ := getBagByPos_some hb
    exact .inr ⟨⟨(isBagSlot_lt hs).1, hs⟩, Nat.lt_of_lt_of_le hlt (hw.slots_le hheld)⟩

theorem Sound.total_eq (hw : Sound e w) {n : Nat} (hn : w.nextGuid ≤ n) :
    w.total p entry =
      Storage.amount (Finset.range n) (w.view p) (w.entryCount entry none) := by
  refine Storage.amount_eq_sum ?_ ?_ ?_
  · intro i _ j _ g hi hj
    exact hw.single_view p i j g hi hj
  · intro i _ g hi
    have hlt := hw.fresh _ g (held_of_view hi)
    exact Storage.mem_stock.mpr ⟨Finset.mem_range.mpr (by omega), i, hi⟩
  · intro g hg
    obtain ⟨_, pos, hpos⟩ := Storage.mem_stock.mp hg
    exact ⟨pos, mem_positions_of_view hw hpos, hpos⟩

end Holdings

end SkyfireBG
