import SkyfireBG.Guild.Bank

/-!
# SkyfireBG.Guild.Vault

What a move does to the items of a tab.

`KeepsTab` says that every slot of a tab holds what it held, and no less of it.  Storing an item
keeps every tab, and so does taking one away from elsewhere; it is only the tab of the end that
gives an item up that loses something.

* `exchange_items`, `swap_items` — a move that is carried out.
* `moves_moveItems`              — a request is refused, or it is an exchange or a swap.
-/

namespace SkyfireBG

namespace Holdings

structure KeepsTab (t : Nat) (w w' : Holdings Nat) : Prop where
  held : ∀ slot g, w.held (.tab t slot) = some g → w'.held (.tab t slot) = some g
  count : ∀ slot g, w.held (.tab t slot) = some g → (w.item g).count ≤ (w'.item g).count

variable {t n : Nat} {w w' w'' : Holdings Nat} {g h p : Nat} {i : Item Nat} {place : Place Nat}
  {pos : Pos} {d : ItemPosCount} {dest : List ItemPosCount}

theorem KeepsTab.refl : KeepsTab t w w := ⟨fun _ _ h => h, fun _ _ _ => Nat.le_refl _⟩

theorem KeepsTab.trans (h : KeepsTab t w w') (h' : KeepsTab t w' w'') : KeepsTab t w w'' where
  held slot g hg := h'.held slot g (h.held slot g hg)
  count slot g hg := Nat.le_trans (h.count slot g hg) (h'.count slot g (h.held slot g hg))

theorem KeepsTab.of_item (hitem : w'.item = w.item)
    (hheld : ∀ slot g, w.held (.tab t slot) = some g → w'.held (.tab t slot) = some g) :
    KeepsTab t w w' :=
  ⟨hheld, fun _ g _ => by rw [hitem]⟩

theorem keeps_setItem (hg : ∀ slot, w.held (.tab t slot) ≠ some g) : KeepsTab t w (w.setItem g i) where
  held _ _ hh := hh
  count slot h hh := by
    rw [setItem_ne]
    rintro rfl
    exact hg slot hh

theorem keeps_raise (hn : (w.item g).count ≤ i.count) : KeepsTab t w (w.setItem g i) where
  held _ _ hh := hh
  count slot h _ := by
    by_cases hg : h = g
    · subst hg
      rwa [setItem_same]
    · rw [setItem_ne hg]

theorem keeps_newItem (hw : Separate w) : KeepsTab t w (w.newItem i).2 where
  held _ _ hh := hh
  count slot h hh := by
    have hne : h ≠ w.nextGuid := Nat.ne_of_lt (hw.fresh _ h hh)
    simp [newItem, Function.update_of_ne hne]

theorem keeps_put (hp : ∀ slot, place = .tab t slot → w.held place = none) :
    KeepsTab t w (w.put place g) := by
  refine .of_item rfl fun slot h hh => ?_
  by_cases hs : place = .tab t slot
  · rw [← hs, hp slot hs] at hh
    cases hh
  · rw [put_held, Function.update_of_ne (Ne.symm hs)]
    exact hh

theorem keeps_clear (hp : ∀ slot, place ≠ .tab t slot) : KeepsTab t w (w.clear place) := by
  refine .of_item rfl fun slot h hh => ?_
  rw [clear_held, Function.update_of_ne (hp slot).symm]
  exact hh

theorem placeOf_ne_tab (slot : Nat) : w.placeOf p pos ≠ .tab t slot := by
  unfold placeOf
  split
  · rintro ⟨⟩
  · split <;> rintro ⟨⟩

/-! ## The inventory of a player -/

theorem keeps_putAt : KeepsTab t w (w.putAt p pos g) := by
  unfold putAt
  split
  · exact .refl
  · have howner : KeepsTab t w (w.setItem g { w.item g with owner := w.ownerAt p pos }) :=
      keeps_raise (Nat.le_refl _)
    exact howner.trans (keeps_put fun slot hs => absurd hs (placeOf_ne_tab slot))

theorem keeps_bind : KeepsTab t w ((w.setItem g ((w.item g).setBinding pos)).putAt p pos g) :=
  (keeps_raise (Nat.le_of_eq Item.setBinding_count.symm)).trans keeps_putAt

theorem keeps_storeMerge : KeepsTab t w (w.storeMerge pos g n) :=
  keeps_raise (Nat.le_add_right _ _)

theorem keeps_storeAt_clone (hw : Separate w) : KeepsTab t w (w.storeAt p d g true).2 := by
  unfold storeAt
  cases w.getItemByPos p d.pos with
  | some g2 => exact keeps_storeMerge
  | none =>
    simp only [storeEmpty, if_true]
    cases (w.item g).cloneItem d.count (some p) with
    | none => exact .refl
    | some i => exact (keeps_newItem hw).trans keeps_bind

theorem keeps_storeAt_item (hg : w.Loose g) : KeepsTab t w (w.storeAt p d g false).2 := by
  unfold storeAt
  cases w.getItemByPos p d.pos with
  | some g2 => exact keeps_storeMerge
  | none => exact (keeps_setItem fun slot => hg.absent _).trans keeps_bind

theorem keeps_storeItem (hw : Separate w) (hg : w.Loose g) :
    KeepsTab t w (w.storeItem p dest g).2 := by
  induction dest generalizing w with
  | nil => exact .refl
  | cons d ds ih =>
    cases ds with
    | nil => exact keeps_storeAt_item hg
    | cons d' ds =>
      have hclone : Separate (w.storeAt p d g true).2 ∧ ∀ x, Later w (w.storeAt p d g true).2 x :=
        storeAt_clone hw
      have hg₁ : (w.storeAt p d g true).2.Loose g :=
        (hclone.2 (g + 1)).loose hg (Nat.ne_of_lt (Nat.lt_succ_self g))
      exact (keeps_storeAt_clone hw).trans (ih hclone.1 hg₁)

theorem keeps_moveTo (hw : Separate w) (hg : w.Loose g) :
    KeepsTab t w (w.moveItemToInventory p dest g) := by
  unfold moveItemToInventory
  simp only
  split
  · exact (keeps_storeItem hw hg).trans (keeps_raise (Nat.le_refl _))
  · exact keeps_storeItem hw hg

theorem keeps_moveFrom : KeepsTab t w (w.moveItemFromInventory p pos) := by
  unfold moveItemFromInventory removeItem
  split
  · exact .refl
  · exact keeps_clear placeOf_ne_tab

/-! ## A tab -/

/-- `g` has been stored: it or what is new may be in a place, and no tab has less. -/
structure Stored (w w' : Holdings Nat) (g : Nat) : Prop where
  separate : Separate w'
  later : Later w w' g
  keeps : ∀ t, KeepsTab t w w'

theorem Stored.refl (hw : Separate w) : Stored w w g := ⟨hw, .refl, fun _ => .refl⟩

theorem Stored.trans (h : Stored w w' g) (h' : Stored w' w'' g) : Stored w w'' g :=
  ⟨h'.separate, h.later.trans h'.later, fun t => (h.keeps t).trans (h'.keeps t)⟩

theorem stored_raise (hw : Separate w) (hn : (w.item h).count ≤ i.count) :
    Stored w (w.setItem h i) g :=
  ⟨hw.congr rfl (Nat.le_refl _), .of_eq rfl (Nat.le_refl _), fun _ => keeps_raise hn⟩

theorem stored_put (hw : Separate w) (hg : w.Loose g) (hp : w.held place = none) :
    Stored w (w.put place g) g := by
  refine ⟨⟨hw.single.put hg.absent, fun pl h hh => ?_⟩, ⟨Nat.le_refl _, fun pl h hh => ?_⟩,
    fun _ => keeps_put fun _ _ => hp⟩ <;>
  · rw [put_held] at hh
    by_cases hpl : pl = place
    · subst hpl
      rw [Function.update_self] at hh
      cases hh
      first | exact hg.old | exact .inr (.inl rfl)
    · rw [Function.update_of_ne hpl] at hh
      first | exact hw.fresh pl h hh | exact .inl ⟨pl, hh⟩

theorem stored_free (hw : Separate w) (hg : w.Loose g) (hp : w.held place = none) :
    Stored w ((w.setItem g i).put place g) g := by
  have hset : Stored w (w.setItem g i) g :=
    ⟨hw.congr rfl (Nat.le_refl _), .of_eq rfl (Nat.le_refl _), fun _ =>
      keeps_setItem fun _ => hg.absent _⟩
  exact hset.trans (stored_put hset.separate (hg.congr rfl (Nat.le_refl _)) hp)

theorem storeInSlot_item (hw : Separate w) (hg : w.Loose g) :
    Stored w (w.storeInSlot t d g false) g := by
  unfold storeInSlot
  cases hd : w.held (.tab t d.pos.2) with
  | some pItemDest => exact stored_raise hw (Nat.le_add_right _ _)
  | none =>
    have hset : Stored w (w.setCount g d.count) g :=
      ⟨hw.congr rfl (Nat.le_refl _), .of_eq rfl (Nat.le_refl _), fun _ =>
        keeps_setItem fun _ => hg.absent _⟩
    exact hset.trans (stored_free hset.separate (hg.congr rfl (Nat.le_refl _)) hd)

theorem storeInSlot_clone (hw : Separate w) : ∀ x, Stored w (w.storeInSlot t d g true) x := by
  intro x
  unfold storeInSlot
  cases hd : w.held (.tab t d.pos.2) with
  | some pItemDest => exact stored_raise hw (Nat.le_add_right _ _)
  | none =>
    simp only [if_true]
    cases (w.item g).cloneItem d.count none with
    | none => exact .refl hw
    | some i =>
      have hnext : w.nextGuid ≤ (w.newItem i).2.nextGuid := Nat.le_succ _
      have hloose : (w.newItem i).2.Loose w.nextGuid :=
        ⟨fun pl hpl => Nat.lt_irrefl _ (hw.fresh pl _ hpl), Nat.lt_succ_self _⟩
      have hw₁ : Separate (w.newItem i).2 := hw.congr rfl hnext
      have hput := stored_free (i := { (w.newItem i).2.item w.nextGuid with owner := none }) hw₁
        hloose hd
      refine ⟨hput.separate, ⟨Nat.le_trans hnext hput.later.1, fun pl h hh => ?_⟩,
        fun t => (keeps_newItem hw).trans (hput.keeps t)⟩
      rcases hput.later.2 pl h hh with hold | hg | hnew
      · exact .inl hold
      · exact .inr (.inr (Nat.le_of_eq hg.symm))
      · exact .inr (.inr (Nat.le_trans hnext hnew))

theorem stored_storeInTab (hw : Separate w) (hg : w.Loose g) :
    Stored w (w.storeInTab t dest g) g := by
  induction dest generalizing w with
  | nil => exact .refl hw
  | cons d ds ih =>
    cases ds with
    | nil => exact storeInSlot_item hw hg
    | cons d' ds =>
      have hclone : ∀ x, Stored w (w.storeInSlot t d g true) x := storeInSlot_clone hw
      have hg₁ : (w.storeInSlot t d g true).Loose g :=
        (hclone (g + 1)).later.loose hg (Nat.ne_of_lt (Nat.lt_succ_self g))
      exact (hclone g).trans (ih (hclone g).separate hg₁)

end Holdings

/-! ## A move -/

namespace MoveItemData

/-- The end `d` holds `g`. -/
def Holds (d : MoveItemData) (w : Holdings Nat) (guid g : Nat) : Prop :=
  match d with
  | .player bag slot => w.getItemByPos guid (bag, slot) = some g
  | .bank tabId slotId => w.held (.tab tabId slotId) = some g

end MoveItemData

namespace GuildBank

open Holdings

variable {b : GuildBank} {guid now t g h n : Nat} {this other pSrc pDest : MoveItemData}
  {dest vecDest vecSrc : List ItemPosCount}

theorem stored_storeItem (hw : Separate b.items) (hg : b.items.Loose g) :
    Stored b.items (b.storeItem guid this dest g).items g := by
  cases this with
  | player bag slot =>
    have hto : Separate (b.items.moveItemToInventory guid dest g) ∧
        Later b.items (b.items.moveItemToInventory guid dest g) g := hw.moveTo hg
    exact ⟨hto.1, hto.2, fun _ => keeps_moveTo hw hg⟩
  | bank tabId slotId => exact stored_storeInTab hw hg

theorem not_held (hw : Separate b.items) (hg : this.Holds b.items guid g)
    (ht : this.inTab t = false) (slot : Nat) : b.items.held (.tab t slot) ≠ some g := by
  intro hslot
  cases this with
  | player bag slotId =>
    exact placeOf_ne_tab slot (hw.single _ _ g (held_of_view (view_of_getItemByPos hg)) hslot)
  | bank tabId slotId =>
    have hplace := hw.single _ _ g hg hslot
    simp only [Place.tab.injEq] at hplace
    simp [MoveItemData.inTab, hplace.1] at ht

theorem removeItem_part (hw : Separate b.items) (hg : this.Holds b.items guid g) (hn : n ≠ 0) :
    (b.removeItem guid now this other g n).items.held = b.items.held ∧
      (b.removeItem guid now this other g n).items.nextGuid = b.items.nextGuid ∧
      (this.inTab t = false → KeepsTab t b.items (b.removeItem guid now this other g n).items) := by
  simp only [removeItem, hn, ne_eq, not_false_eq_true, if_true]
  exact ⟨rfl, rfl, fun ht => keeps_setItem (not_held hw hg ht)⟩

theorem removeItem_whole (hw : Separate b.items) (hg : this.Holds b.items guid g) :
    Separate (b.removeItem guid now this other g 0).items ∧
      (b.removeItem guid now this other g 0).items.Loose g ∧
      (this.inTab t = false → KeepsTab t b.items (b.removeItem guid now this other g 0).items) := by
  cases this with
  | player bag slot =>
    have hfrom := hw.moveFrom hg
    exact ⟨hfrom.1, hfrom.2.1, fun _ => keeps_moveFrom⟩
  | bank tabId slotId =>
    refine ⟨⟨hw.single.clear, fun pl h hh => ?_⟩, ⟨hw.single.absent_clear hg, hw.fresh _ g hg⟩,
      fun ht => keeps_clear fun slot hs => ?_⟩
    · exact hw.fresh pl h (Storage.held_of_clear hh).2
    · simp only [Place.tab.injEq] at hs
      simp [MoveItemData.inTab, hs.1] at ht

/-- An exchange takes nothing from a tab that its source is not in. -/
theorem exchange_items {pItemSrc pSrcItem splitedAmount : Nat} (hw : Separate b.items)
    (hsrc : pSrc.Holds b.items guid pItemSrc)
    (hitem : splitedAmount = 0 ∧ pSrcItem = pItemSrc ∨
      splitedAmount ≠ 0 ∧ b.items.Loose pSrcItem) :
    let b' := b.exchange guid now pSrc pDest pItemSrc pSrcItem vecDest splitedAmount
    Separate b'.items ∧ (pSrc.inTab t = false → KeepsTab t b.items b'.items) := by
  let b₁ : GuildBank := { b with
    books := b.books.logMove guid pDest pSrc (b.items.item pItemSrc).entry
      (b.items.item pSrcItem).count }
  have hremoved : Separate (b₁.removeItem guid now pSrc pDest pItemSrc splitedAmount).items ∧
      (b₁.removeItem guid now pSrc pDest pItemSrc splitedAmount).items.Loose pSrcItem ∧
      (pSrc.inTab t = false →
        KeepsTab t b₁.items (b₁.removeItem guid now pSrc pDest pItemSrc splitedAmount).items) := by
    rcases hitem with ⟨rfl, rfl⟩ | ⟨hn, hloose⟩
    · exact removeItem_whole (b := b₁) hw hsrc
    · obtain ⟨hheld, hnext, hkeeps⟩ := removeItem_part (b := b₁) hw hsrc hn
      exact ⟨hw.congr hheld (Nat.le_of_eq hnext.symm), hloose.congr hheld (Nat.le_of_eq hnext.symm),
        hkeeps⟩
  obtain ⟨hw₁, hloose, hkeeps⟩ := hremoved
  have hstored : Stored _ (b.exchange guid now pSrc pDest pItemSrc pSrcItem vecDest
      splitedAmount).items pSrcItem := stored_storeItem hw₁ hloose
  exact ⟨hstored.separate, fun ht => (hkeeps ht).trans (hstored.keeps t)⟩

/-- Two different ends, of which one is a slot of a tab. -/
def Apart (pSrc pDest : MoveItemData) : Prop :=
  pSrc ≠ pDest ∧ ∃ tabId slotId, pSrc = .bank tabId slotId ∨ pDest = .bank tabId slotId

theorem getItemByPos_congr {w w' : Holdings Nat} {p : Nat} {pos : Pos}
    (hheld : ∀ pl, (∀ tabId slot, pl ≠ .tab tabId slot) → w'.held pl = w.held pl)
    (hitem : w'.item = w.item) : w'.getItemByPos p pos = w.getItemByPos p pos := by
  have hslot : ∀ s, w'.held (.slot p s) = w.held (.slot p s) :=
    fun s => hheld _ (by rintro _ _ ⟨⟩)
  have hbag : ∀ x s, w'.held (.bagslot x s) = w.held (.bagslot x s) :=
    fun x s => hheld _ (by rintro _ _ ⟨⟩)
  unfold getItemByPos getBagByPos getBagSize
  simp only [hslot, hbag, hitem]

theorem removeItem_other (hg : pSrc.Holds b.items guid g)
    (hh : pDest.Holds b.items guid h) (hapart : Apart pSrc pDest) :
    pDest.Holds (b.removeItem guid now pSrc pDest g 0).items guid h := by
  obtain ⟨hne, tabId, slotId, hbank⟩ := hapart
  cases pSrc with
  | player bag slot =>
    cases pDest with
    | player bag' slot' => rcases hbank with hbank | hbank <;> cases hbank
    | bank tab' slot' =>
      have hplace : (Place.tab tab' slot' : Place Nat) ≠ b.items.placeOf guid (bag, slot) :=
        fun hp => placeOf_ne_tab slot' hp.symm
      simp only [MoveItemData.Holds] at hg hh ⊢
      simp only [removeItem, moveItemFromInventory, Holdings.removeItem, hg, ne_eq,
        not_true_eq_false, if_false, clear_held, Function.update_of_ne hplace]
      exact hh
  | bank tab slot =>
    cases pDest with
    | player bag' slot' =>
      refine (getItemByPos_congr (fun pl hpl => ?_) ?_).trans hh
      · exact Function.update_of_ne (hpl tab slot) ..
      · rfl
    | bank tab' slot' =>
      have hplace : (Place.tab tab' slot' : Place Nat) ≠ .tab tab slot := by
        intro hp
        simp only [Place.tab.injEq] at hp
        exact hne (by rw [hp.1, hp.2])
      exact (Function.update_of_ne hplace ..).trans hh

theorem Loose.not_holds {w : Holdings Nat} (hg : w.Loose g) : ¬ this.Holds w guid g := by
  intro hh
  cases this with
  | player bag slot => exact hg.absent _ (held_of_view (view_of_getItemByPos hh))
  | bank tabId slotId => exact hg.absent _ hh

/-- A swap takes nothing from a tab that neither of its ends is in. -/
theorem swap_items {pSrcItem pDestItem : Nat} (hw : Separate b.items)
    (hsrc : pSrc.Holds b.items guid pSrcItem) (hdest : pDest.Holds b.items guid pDestItem)
    (hapart : Apart pSrc pDest) :
    let b' := b.swapItemsBetween guid now pSrc pDest pSrcItem pDestItem vecDest vecSrc
    Separate b'.items ∧
      (pSrc.inTab t = false → pDest.inTab t = false → KeepsTab t b.items b'.items) := by
  let b₁ : GuildBank := { b with
    books := (b.books.logMove guid pDest pSrc (b.items.item pSrcItem).entry
      (b.items.item pSrcItem).count).logMove guid pSrc pDest (b.items.item pDestItem).entry
        (b.items.item pDestItem).count }
  let b₂ := b₁.removeItem guid now pSrc pDest pSrcItem 0
  let b₃ := b₂.removeItem guid now pDest pSrc pDestItem 0
  obtain ⟨hw₂, hsrcLoose, hkeeps₂⟩ : Separate b₂.items ∧ b₂.items.Loose pSrcItem ∧
    (pSrc.inTab t = false → KeepsTab t b.items b₂.items) := removeItem_whole (b := b₁) hw hsrc
  have hdest₂ : pDest.Holds b₂.items guid pDestItem :=
    removeItem_other (b := b₁) hsrc hdest hapart
  have hne : pDestItem ≠ pSrcItem := by
    rintro rfl
    exact Loose.not_holds hsrcLoose hdest₂
  obtain ⟨hw₃, hdestLoose, hkeeps₃⟩ : Separate b₃.items ∧ b₃.items.Loose pDestItem ∧
    (pDest.inTab t = false → KeepsTab t b₂.items b₃.items) := removeItem_whole hw₂ hdest₂
  have hsrcLoose₃ : b₃.items.Loose pSrcItem := by
    cases pDest with
    | player bag slot => exact lighter_moveFrom.loose hsrcLoose
    | bank tabId slotId => exact ⟨hsrcLoose.absent.clear, hsrcLoose.old⟩
  have hfirst : Stored b₃.items (b₃.storeItem guid pDest vecDest pSrcItem).items pSrcItem :=
    stored_storeItem hw₃ hsrcLoose₃
  have hsecond : Stored _ (b.swapItemsBetween guid now pSrc pDest pSrcItem pDestItem vecDest
      vecSrc).items pDestItem :=
    stored_storeItem hfirst.separate (hfirst.later.loose hdestLoose hne)
  refine ⟨hsecond.separate, fun ht ht' => ?_⟩
  exact (((hkeeps₂ ht).trans (hkeeps₃ ht')).trans (hfirst.keeps t)).trans (hsecond.keeps t)

/-! ## A request -/

variable {e : ItemStores} {b' : GuildBank} {a splitedAmount : Nat} {cond : Nat → Option Condition}

/-- What `_MoveItems` can come to.  The clone of a split is made before the move is tried. -/
inductive Moves (b : GuildBank) (a now : Nat) (pSrc pDest : MoveItemData) : GuildBank → Prop where
  | refused {books : BankBooks} {items : Holdings Nat}
      (hbooks : books = b.books ∨ books = (b.books.hasWithdrawRights a now pSrc pDest).2 ∨
        books = ((b.books.hasWithdrawRights a now pSrc pDest).2.hasWithdrawRights a now pDest
          pSrc).2)
      (hitems : items = b.items ∨ ∃ i, items = (b.items.newItem i).2) :
      Moves b a now pSrc pDest ⟨books, items⟩
  | exchanged {items : Holdings Nat} {pItemSrc pSrcItem n : Nat} {vec : List ItemPosCount}
      (hrights : (b.books.hasWithdrawRights a now pSrc pDest).1 = true)
      (hsrc : pSrc.Holds b.items a pItemSrc)
      (hitem : n = 0 ∧ pSrcItem = pItemSrc ∧ items = b.items ∨
        n ≠ 0 ∧ ∃ i, b.items.newItem i = (pSrcItem, items)) :
      Moves b a now pSrc pDest (exchange ⟨(b.books.hasWithdrawRights a now pSrc pDest).2, items⟩ a
        now pSrc pDest pItemSrc pSrcItem vec n)
  | swapped {pItemSrc pItemDest : Nat} {vecDest vecSrc : List ItemPosCount}
      (hrights : (b.books.hasWithdrawRights a now pSrc pDest).1 = true)
      (hback : ((b.books.hasWithdrawRights a now pSrc pDest).2.hasWithdrawRights a now pDest
        pSrc).1 = true)
      (hsrc : pSrc.Holds b.items a pItemSrc) (hdest : pDest.Holds b.items a pItemDest) :
      Moves b a now pSrc pDest (swapItemsBetween ⟨((b.books.hasWithdrawRights a now pSrc
        pDest).2.hasWithdrawRights a now pDest pSrc).2, b.items⟩ a now pSrc pDest pItemSrc
          pItemDest vecDest vecSrc)

theorem holds_of_initItem {books : BankBooks} {items : Holdings Nat} {this : MoveItemData} {g : Nat}
    (h : initItem cond ⟨books, items⟩ a this = some g) : this.Holds items a g := by
  cases this with
  | player bag slot => exact (Option.filter_eq_some_iff.mp h).1
  | bank tabId slotId =>
    simp only [initItem, getItem] at h
    split at h
    · exact h
    · cases h

theorem doItemsMove_none {pItemSrc pSrcItem : Nat}
    (h : b.doItemsMove e a now pSrc pDest pItemSrc pSrcItem none splitedAmount = some b') :
    ∃ vec, b' = b.exchange a now pSrc pDest pItemSrc pSrcItem vec splitedAmount := by
  simp only [doItemsMove] at h
  split at h
  · cases h
  · cases h
    exact ⟨_, rfl⟩

theorem doItemsMove_some {pItemSrc pSrcItem destItem : Nat} (h : b.doItemsMove e a now pSrc pDest
      pItemSrc pSrcItem (some destItem) splitedAmount = some b') :
    ∃ vecDest vecSrc, b' = b.swapItemsBetween a now pSrc pDest pSrcItem destItem vecDest vecSrc := by
  simp only [doItemsMove] at h
  split at h
  · cases h
  · split at h
    · cases h
    · cases h
      exact ⟨_, _, rfl⟩

theorem moves_moveSwap {pItemSrc : Nat}
    (hrights : (b.books.hasWithdrawRights a now pSrc pDest).1 = true)
    (hsrc : pSrc.Holds b.items a pItemSrc) :
    Moves b a now pSrc pDest (moveSwap e cond ⟨(b.books.hasWithdrawRights a now pSrc pDest).2,
      b.items⟩ a now pSrc pDest pItemSrc) := by
  unfold moveSwap
  cases hdest : initItem cond ⟨(b.books.hasWithdrawRights a now pSrc pDest).2, b.items⟩ a pDest with
  | none => exact .refused (.inr (.inl rfl)) (.inl rfl)
  | some pItemDest =>
    simp only
    split
    · exact .refused (.inr (.inl rfl)) (.inl rfl)
    · split
      · exact .refused (.inr (.inr rfl)) (.inl rfl)
      · rename_i hback
        simp only [Bool.not_eq_true, Bool.not_eq_false'] at hback
        cases hmove : doItemsMove e ⟨((b.books.hasWithdrawRights a now pSrc
            pDest).2.hasWithdrawRights a now pDest pSrc).2, b.items⟩ a now pSrc pDest pItemSrc
            pItemSrc (some pItemDest) 0 with
        | none => exact .refused (.inr (.inr rfl)) (.inl rfl)
        | some b' =>
          obtain ⟨vecDest, vecSrc, rfl⟩ := doItemsMove_some hmove
          exact .swapped hrights hback hsrc (holds_of_initItem hdest)

theorem moves_moveItems :
    Moves b a now pSrc pDest (b.moveItems e cond a now pSrc pDest splitedAmount) := by
  unfold moveItems
  cases hsrc : b.initItem cond a pSrc with
  | none => exact .refused (.inl rfl) (.inl rfl)
  | some pItem =>
    have hholds : pSrc.Holds b.items a pItem := holds_of_initItem hsrc
    simp only
    split
    · exact .refused (.inl rfl) (.inl rfl)
    · split
      · exact .refused (.inl rfl) (.inl rfl)
      · split
        · exact .refused (.inr (.inl rfl)) (.inl rfl)
        · rename_i hrights
          simp only [Bool.not_eq_true, Bool.not_eq_false'] at hrights
          split
          · rename_i hsplit
            unfold moveSplit
            cases (b.items.item pItem).cloneItem splitedAmount none with
            | none => exact .refused (.inr (.inl rfl)) (.inl rfl)
            | some clone =>
              simp only
              cases hmove : doItemsMove e ⟨(b.books.hasWithdrawRights a now pSrc pDest).2,
                  (b.items.newItem clone).2⟩ a now pSrc pDest pItem (b.items.newItem clone).1 none
                  splitedAmount with
              | none => exact .refused (.inr (.inl rfl)) (.inr ⟨clone, rfl⟩)
              | some b' =>
                obtain ⟨vec, rfl⟩ := doItemsMove_none hmove
                exact .exchanged hrights hholds (.inr ⟨hsplit.1, clone, rfl⟩)
          · cases hmove : doItemsMove e ⟨(b.books.hasWithdrawRights a now pSrc pDest).2, b.items⟩ a
                now pSrc pDest pItem pItem none 0 with
            | some b' =>
              obtain ⟨vec, rfl⟩ := doItemsMove_none hmove
              exact .exchanged hrights hholds (.inl ⟨rfl, rfl, rfl⟩)
            | none => exact moves_moveSwap hrights hholds

theorem newItem_loose {w : Holdings Nat} {i : Item Nat} (hw : Separate w) :
    Separate (w.newItem i).2 ∧ (w.newItem i).2.Loose (w.newItem i).1 :=
  ⟨hw.congr rfl (Nat.le_succ _), fun pl hpl => Nat.lt_irrefl _ (hw.fresh pl _ hpl),
    Nat.lt_succ_self _⟩

theorem holds_newItem {w : Holdings Nat} {i : Item Nat} {this : MoveItemData} {g : Nat}
    (hw : Separate w) (h : this.Holds w a g) : this.Holds (w.newItem i).2 a g := by
  cases this with
  | bank tabId slotId => exact h
  | player bag slot =>
    refine Eq.trans ?_ h
    have hitem : ∀ pl x, w.held pl = some x → (w.newItem i).2.item x = w.item x :=
      fun pl x hx => Function.update_of_ne (Nat.ne_of_lt (hw.fresh pl x hx)) ..
    have hbag : (w.newItem i).2.getBagByPos a bag = w.getBagByPos a bag := by
      unfold getBagByPos
      split
      · cases hx : w.held (.slot a bag) with
        | none => simp [newItem, hx]
        | some x =>
          have hx' : (w.newItem i).2.held (.slot a bag) = some x := hx
          simp only [hx', Option.filter, hitem _ x hx]
      · rfl
    simp only [getItemByPos, hbag]
    split
    · rfl
    · cases hb : w.getBagByPos a bag with
      | none => rfl
      | some x =>
        have hx : w.held (.slot a bag) = some x := by
          unfold getBagByPos at hb
          split at hb
          · exact (Option.filter_eq_some_iff.mp hb).1
          · cases hb
        simp only [getBagSize, hitem _ x hx]
        rfl

theorem exchanged_items {items : Holdings Nat} {books : BankBooks} {pItemSrc pSrcItem n : Nat}
    {vec : List ItemPosCount} (hw : Separate b.items) (hsrc : pSrc.Holds b.items a pItemSrc)
    (hitem : n = 0 ∧ pSrcItem = pItemSrc ∧ items = b.items ∨
      n ≠ 0 ∧ ∃ i, b.items.newItem i = (pSrcItem, items)) :
    let b' := exchange ⟨books, items⟩ a now pSrc pDest pItemSrc pSrcItem vec n
    Separate b'.items ∧ (pSrc.inTab t = false → KeepsTab t b.items b'.items) := by
  rcases hitem with ⟨rfl, rfl, rfl⟩ | ⟨hn, i, hnew⟩
  · exact exchange_items hw hsrc (.inl ⟨rfl, rfl⟩)
  · obtain ⟨rfl, rfl⟩ := Prod.mk.inj hnew
    obtain ⟨hw₁, hloose⟩ := newItem_loose (i := i) hw
    have hmove : Separate (exchange ⟨books, (b.items.newItem i).2⟩ a now pSrc pDest pItemSrc
        (b.items.newItem i).1 vec n).items ∧ (pSrc.inTab t = false → KeepsTab t (b.items.newItem i).2
          (exchange ⟨books, (b.items.newItem i).2⟩ a now pSrc pDest pItemSrc (b.items.newItem i).1
            vec n).items) := exchange_items hw₁ (holds_newItem hw hsrc) (.inr ⟨hn, hloose⟩)
    exact ⟨hmove.1, fun ht => (keeps_newItem hw).trans (hmove.2 ht)⟩

theorem swapped_items {books : BankBooks} {pItemSrc pItemDest : Nat}
    {vecDest vecSrc : List ItemPosCount} (hw : Separate b.items)
    (hsrc : pSrc.Holds b.items a pItemSrc) (hdest : pDest.Holds b.items a pItemDest)
    (hapart : Apart pSrc pDest) :
    let b' := swapItemsBetween ⟨books, b.items⟩ a now pSrc pDest pItemSrc pItemDest vecDest vecSrc
    Separate b'.items ∧
      (pSrc.inTab t = false → pDest.inTab t = false → KeepsTab t b.items b'.items) :=
  swap_items (b := ⟨books, b.items⟩) hw hsrc hdest hapart

theorem separate_moves (hmoves : Moves b a now pSrc pDest b') (hw : Separate b.items)
    (hapart : Apart pSrc pDest) : Separate b'.items := by
  cases hmoves with
  | refused hbooks hitems =>
    rcases hitems with rfl | ⟨i, rfl⟩
    · exact hw
    · exact (newItem_loose hw).1
  | exchanged hrights hsrc hitem => exact And.left (exchanged_items (t := 0) hw hsrc hitem)
  | swapped hrights hback hsrc hdest => exact And.left (swapped_items (t := 0) hw hsrc hdest hapart)

end GuildBank

end SkyfireBG
