import SkyfireBG.Lib.Byte
import SkyfireBG.Loot.Given

/-!
# SkyfireBG.Loot.Count

`unlootedCount` counts the units that are still to be had.

`Loot.outstanding` says what they are, from the flags alone.  The four fill functions raise the
counter by as much as they add (`Loot.Grows`), and each safe award lowers both by one.  The counter
is a byte, so the two agree as long as a filled loot has at most 255 units.
-/

namespace SkyfireBG

/-- An item for one player that everybody sees, or that is registered for somebody. -/
def LootItem.outstanding (i : LootItem) : Bool :=
  !i.freeforall && !i.isLooted && (i.conditions.isEmpty || i.isCounted)

def LootItem.questOutstanding (i : LootItem) : Bool :=
  !i.freeforall && !i.isLooted && i.isBlocked

def ffaAt (items : List LootItem) (index : Nat) : Bool :=
  match items[index]? with
  | some i => i.freeforall
  | none => false

def openEntries (items : List LootItem) (ql : List QuestItem) : Nat :=
  ql.countP (fun q => !q.isLooted && ffaAt items q.index)

def Loot.outstanding (loot : Loot) : Nat :=
  loot.items.countP LootItem.outstanding + loot.questItems.countP LootItem.questOutstanding +
    loot.playerFFAItems.sum (openEntries loot.items) +
    loot.playerQuestItems.sum (openEntries loot.questItems)

def Loot.Tallied (loot : Loot) : Prop := loot.unlootedCount.toNat = loot.outstanding

/-- Every entry in a quest list is for an item that was registered when it was listed. -/
def Loot.Registered (loot : Loot) : Prop :=
  ∀ guid ql, loot.playerQuestItems.find? guid = some ql → ∀ q ∈ ql,
    ∃ i, loot.questItems[q.index]? = some i ∧ (i.freeforall = true ∨ i.isBlocked = true)

theorem Loot.isLooted_iff {loot : Loot} (h : loot.Tallied) :
    loot.isLooted = true ↔ loot.gold = 0 ∧ loot.outstanding = 0 := by
  rw [← h, Loot.isLooted, Bool.and_eq_true, beq_iff_eq, beq_iff_eq, UInt8.ext_iff]
  rfl

section Counting

variable {items items' : List LootItem} {k : Nat} {i : LootItem} {m : QuestItemMap} {guid : Nat}
  {ql : List QuestItem} {q : QuestItem}

theorem countP_modify {α : Type} {p : α → Bool} {f : α → α} {l : List α} {x : α}
    (h : l[k]? = some x) :
    (l.modify k f).countP p + (if p x then 1 else 0) =
      l.countP p + (if p (f x) then 1 else 0) := by
  induction l generalizing k with
  | nil => cases h
  | cons y l ih =>
    cases k with
    | zero =>
      cases h
      simp only [List.modify_zero_cons, List.countP_cons]
      omega
    | succ k =>
      have := ih h
      simp only [List.modify_succ_cons, List.countP_cons]
      omega

theorem ffaAt_of_forall₂ {R : LootItem → LootItem → Prop}
    (hR : ∀ i i', R i i' → i'.freeforall = i.freeforall) (h : List.Forall₂ R items items') :
    ffaAt items' = ffaAt items := by
  funext k
  induction h generalizing k with
  | nil => rfl
  | cons hab _ ih =>
    cases k with
    | zero => exact hR _ _ hab
    | succ k => exact ih k

theorem openEntries_congr (h : ffaAt items' = ffaAt items) :
    openEntries items' = openEntries items := by
  funext ql
  simp only [openEntries, h]

/-- An entry that is marked no longer counts for the list that it is in. -/
theorem sum_markLooted (items : List LootItem) (hf : OrdMap.find? m guid = some ql)
    (hk : ql[k]? = some q) :
    OrdMap.sum (m.markLooted guid k) (openEntries items) +
        (if !q.isLooted && ffaAt items q.index then 1 else 0) =
      OrdMap.sum m (openEntries items) := by
  have hset := OrdMap.sum_set_of_some
    (v := ql.modify k (fun q => { q with isLooted := true })) (f := openEntries items) hf
  have hmod := countP_modify (p := fun q : QuestItem => !q.isLooted && ffaAt items q.index)
    (f := fun q => { q with isLooted := true }) hk
  simp only [Bool.not_true, Bool.false_and, Bool.false_eq_true, if_false] at hmod
  simp only [QuestItemMap.markLooted, hf]
  simp only [openEntries] at hset ⊢
  omega

theorem countP_take {p : LootItem → Bool} {f : LootItem → LootItem} (hk : items[k]? = some i)
    (hp : p i = true) (hf : p (f i) = false) :
    (items.modify k f).countP p + 1 = items.countP p := by
  have hmod := countP_modify (p := p) (f := f) hk
  rw [hp, hf] at hmod
  simpa using hmod

end Counting

def LootItem.tracked (i : LootItem) : Bool := i.conditions.isEmpty || i.isCounted

structure Loot.TakenOne (a b : Loot) : Prop where
  outstanding : b.outstanding + 1 = a.outstanding
  count : b.unlootedCount = a.unlootedCount - 1

theorem Loot.TakenOne.tallied {a b : Loot} (h : a.TakenOne b) (ha : a.Tallied) : b.Tallied := by
  have hout := h.outstanding
  have hcount : a.unlootedCount.toNat = a.outstanding := ha
  rw [Loot.Tallied, h.count, byte_dec (by omega)]
  omega

section Taking

variable {loot : Loot} {slot guid k : Nat} {s : SlotItem} {i : LootItem}

theorem ffaAt_modify {items : List LootItem} {f : LootItem → LootItem}
    (hf : ∀ i : LootItem, i.Later (f i)) : ffaAt (items.modify k f) = ffaAt items :=
  ffaAt_of_forall₂ (fun _ _ h => LootItem.Later.freeforall h) (ItemsLater.modify hf items k)

/-- An item that is taken is one unit less to be had. -/
theorem take_outstanding {f : LootItem → LootItem} (hf : ∀ i : LootItem, i.Later (f i))
    (hl : ∀ i : LootItem, (f i).isLooted = true) (hi : loot.items[k]? = some i)
    (hff : i.freeforall = false) (hno : i.isLooted = false) (ht : i.tracked = true) {c : UInt8} :
    Loot.outstanding { loot with items := loot.items.modify k f, unlootedCount := c } + 1 =
      loot.outstanding := by
  have hp : i.outstanding = true := by
    simp only [LootItem.outstanding, hff, hno, Bool.not_false, Bool.true_and]
    exact ht
  have hp' : (f i).outstanding = false := by simp [LootItem.outstanding, hl]
  have htake := countP_take hi hp hp'
  simp only [Loot.outstanding]
  rw [openEntries_congr (ffaAt_modify hf)]
  omega

theorem take_quest_ffa (hf : loot.Found slot guid s) (hs : s.quest = true)
    (hff : s.item.freeforall = true) : (loot.takeSlot s guid).outstanding + 1 =
      loot.outstanding := by
  obtain ⟨h1, h2⟩ := takeSlot_items loot s guid
  obtain ⟨h3, h4⟩ := GivenInv.takeSlot_lists loot s guid
  rw [if_pos (by rw [hff]; rfl)] at h1 h2
  simp only [Loot.outstanding, h1, h2, h3, h4]
  cases hf with
  | @quest _ _ q item hql hk hl hitem =>
    have hffa : ffaAt loot.questItems q.index = true := by
      simp only [ffaAt, hitem]
      exact hff
    have hsum := sum_markLooted loot.questItems hql hk
    simp only [hl, hffa, Bool.not_false, Bool.and_self, if_true] at hsum
    dsimp only
    omega
  | ffa | conditional | plain => cases hs

/-- A quest item for one player only is gone for all of them. -/
theorem take_quest_single (hf : loot.Found slot guid s) (hs : s.quest = true)
    (hff : s.item.freeforall = false) (hno : s.item.isLooted = false) (hreg : loot.Registered) :
    (loot.takeSlot s guid).outstanding + 1 = loot.outstanding := by
  obtain ⟨h1, h2⟩ := takeSlot_items loot s guid
  obtain ⟨h3, h4⟩ := GivenInv.takeSlot_lists loot s guid
  have hlater : ∀ i : LootItem, i.Later { i with isLooted := true } :=
    fun _ => ⟨rfl, rfl, rfl, rfl, fun _ => rfl⟩
  rw [if_pos (by rw [hs, Bool.or_true])] at h1
  rw [if_neg (by simp [hff, hs])] at h2
  simp only [Loot.outstanding, h1, h2, h3, h4]
  cases hf with
  | @quest _ _ q item hql hk hl hitem =>
    have hblk : item.isBlocked = true := by
      obtain ⟨i, hi, hor⟩ := hreg guid _ hql q (List.mem_of_getElem? hk)
      cases hitem.symm.trans hi
      rcases hor with hyes | hyes
      · cases hff.symm.trans hyes
      · exact hyes
    have hffa : ffaAt loot.questItems q.index = false := by
      simp only [ffaAt, hitem]
      exact hff
    have hp : item.questOutstanding = true := by
      rw [LootItem.questOutstanding, show item.freeforall = false from hff,
        show item.isLooted = false from hno, hblk]
      rfl
    have htake := countP_take (p := LootItem.questOutstanding)
      (f := fun i => { i with isLooted := true }) hitem hp (by simp [LootItem.questOutstanding])
    have hsum := sum_markLooted loot.questItems hql hk
    simp only [hffa, Bool.and_false, Bool.false_eq_true, if_false] at hsum
    rw [openEntries_congr (ffaAt_modify hlater)]
    dsimp only at htake hsum ⊢
    omega
  | ffa | conditional | plain => cases hs

/-- A free-for-all item is gone for the player who has an entry for it. -/
theorem take_ffa (hf : loot.Found slot guid s) (hs : s.quest = false)
    (hff : s.item.freeforall = true) (hsafe : (s.qitem.isSome || s.ffaitem.isSome) = true) :
    (loot.takeSlot s guid).outstanding + 1 = loot.outstanding := by
  obtain ⟨h1, h2⟩ := takeSlot_items loot s guid
  obtain ⟨h3, h4⟩ := GivenInv.takeSlot_lists loot s guid
  rw [if_pos (by rw [hff]; rfl)] at h1 h2
  simp only [Loot.outstanding, h1, h2, h3, h4]
  cases hf with
  | quest => cases hs
  | @ffa _ q item hitem _ hlk hl =>
    obtain ⟨ql, hql, hk, hidx⟩ := QuestItemMap.lookup_some hlk
    have hffa : ffaAt loot.items q.index = true := by
      rw [hidx]
      simp only [ffaAt, hitem]
      exact hff
    have hsum := sum_markLooted loot.items hql hk
    simp only [hl, hffa, Bool.not_false, Bool.and_self, if_true] at hsum
    dsimp only
    omega
  | conditional _ hno _ _ _ =>
    rw [show _ = false from hno] at hff
    cases hff
  | plain => cases hsafe

theorem take_single (hf : loot.Found slot guid s) (hs : s.quest = false)
    (hff : s.item.freeforall = false) (hno : s.item.isLooted = false)
    (ht : s.item.tracked = true) : (loot.takeSlot s guid).outstanding + 1 = loot.outstanding := by
  obtain ⟨h1, h2⟩ := takeSlot_items loot s guid
  obtain ⟨h3, h4⟩ := GivenInv.takeSlot_lists loot s guid
  have hlater : ∀ i : LootItem, i.Later { i with isLooted := true } :=
    fun _ => ⟨rfl, rfl, rfl, rfl, fun _ => rfl⟩
  have hitem : loot.items[s.index]? = some s.item ∧ s.qitem = none ∧ s.ffaitem = none := by
    cases hf with
    | quest => cases hs
    | ffa _ hyes _ _ =>
      rw [show _ = true from hyes] at hff
      cases hff
    | conditional hitem | plain hitem => exact ⟨hitem, rfl, rfl⟩
  rw [if_neg (by simp [hff, hs])] at h1
  rw [if_pos (by rw [hs, Bool.not_false, Bool.or_true])] at h2
  rw [hitem.2.1] at h3 h4
  rw [hitem.2.2] at h4
  have htake := take_outstanding (c := 0) hlater (fun _ => rfl) hitem.1 hff hno ht
  simp only [Loot.outstanding] at htake ⊢
  rw [h1, h2, h3, h4]
  exact htake

/-- What is stored is one unit, and the counter goes down by one. -/
theorem takeSlot_takenOne (hf : loot.Found slot guid s) (hreg : loot.Registered)
    (hsafe : (if s.item.freeforall then s.qitem.isSome || s.ffaitem.isSome
      else !s.item.isLooted) = true)
    (ht : (s.item.freeforall || s.quest || s.item.tracked) = true) :
    loot.TakenOne (loot.takeSlot s guid) := by
  refine ⟨?_, ?_⟩
  · cases hff : s.item.freeforall with
    | true =>
      rw [if_pos hff] at hsafe
      cases hs : s.quest with
      | true => exact take_quest_ffa hf hs hff
      | false => exact take_ffa hf hs hff hsafe
    | false =>
      rw [if_neg (by rw [hff]; simp)] at hsafe
      have hno : s.item.isLooted = false := by simpa using hsafe
      cases hs : s.quest with
      | true => exact take_quest_single hf hs hff hno hreg
      | false =>
        rw [hff, hs, Bool.false_or, Bool.false_or] at ht
        exact take_single hf hs hff hno ht
  · cases hff : s.item.freeforall <;> cases hs : s.quest <;>
      simp [Loot.takeSlot, Loot.markItemLooted, hff, hs, (markEntry_items loot s guid).2.2]

theorem takeSlot_registered (hf : loot.Found slot guid s) (hreg : loot.Registered) :
    (loot.takeSlot s guid).Registered := by
  obtain ⟨h1, h2⟩ := takeSlot_items loot s guid
  obtain ⟨h3, _⟩ := GivenInv.takeSlot_lists loot s guid
  have hitems : ∀ {j : Nat} {i : LootItem}, loot.questItems[j]? = some i →
      (i.freeforall = true ∨ i.isBlocked = true) → ∃ i',
        (loot.takeSlot s guid).questItems[j]? = some i' ∧
          (i'.freeforall = true ∨ i'.isBlocked = true) := by
    intro j i hi hor
    rw [h2]
    split
    · exact ⟨i, hi, hor⟩
    · by_cases hj : s.index = j
      · subst hj
        rw [List.getElem?_modify_eq, hi]
        exact ⟨_, rfl, hor⟩
      · rw [List.getElem?_modify_ne _ _ hj]
        exact ⟨i, hi, hor⟩
  intro g ql hql q hq
  rw [h3] at hql
  cases hf with
  | @quest k0 ql0 _ _ hql0 _ _ _ =>
    have hql' : OrdMap.find? (loot.playerQuestItems.markLooted guid k0) g = some ql := hql
    rw [QuestItemMap.find?_markLooted hql0] at hql'
    split at hql'
    · cases hql'
      obtain ⟨q0, hq0, hidx⟩ : ∃ q0 ∈ ql0, q0.index = q.index := by
        have hmem := List.mem_map_of_mem (f := QuestItem.index) hq
        rw [QuestItemMap.map_index_modify] at hmem
        exact List.mem_map.mp hmem
      obtain ⟨i, hi, hor⟩ := hreg guid ql0 hql0 q0 hq0
      exact hitems (hidx ▸ hi) hor
    · obtain ⟨i, hi, hor⟩ := hreg g ql hql' q hq
      exact hitems hi hor
  | ffa | conditional | plain =>
    obtain ⟨i, hi, hor⟩ := hreg g ql hql q hq
    exact hitems hi hor

end Taking

/-! ## Filling -/

/-- `b` has more units than `a`, and the counter of `b` is as much higher, as a byte. -/
def Loot.Grows (a b : Loot) : Prop :=
  ∃ k, b.unlootedCount.toNat = (a.unlootedCount.toNat + k) % 256 ∧
    b.outstanding = a.outstanding + k

theorem Loot.Grows.refl (a : Loot) : a.Grows a :=
  ⟨0, (Nat.mod_eq_of_lt a.unlootedCount.toNat_lt).symm, rfl⟩

theorem Loot.Grows.trans {a b c : Loot} (h : a.Grows b) (h' : b.Grows c) : a.Grows c := by
  obtain ⟨k, hc, ho⟩ := h
  obtain ⟨k', hc', ho'⟩ := h'
  exact ⟨k + k', by omega, by omega⟩

theorem Loot.Grows.tallied {a b : Loot} (h : a.Grows b) (ha : a.Tallied)
    (hle : b.outstanding ≤ 255) : b.Tallied := by
  obtain ⟨k, hc, ho⟩ := h
  have hcount : a.unlootedCount.toNat = a.outstanding := ha
  rw [Loot.Tallied, hc]
  omega

section Fill

variable {store : TemplateStore} {visit : LootItem → Visit} {full : Nat → Bool}
  {W : LootItem → Nat} {L : QuestItem → Nat} {loot : Loot} {player : Looter}

/-- A fill loop adds to the counter what it adds to the weights of items and entries. -/
theorem fillLoop_count (full : Nat → Bool) {n : Nat} {items : List LootItem}
    (ql : List QuestItem) (c : UInt8) (hv : ∀ j i, items[j]? = some i →
      W (visit i).item + (if (visit i).listed then L { index := n + j } else 0) =
        W i + (if (visit i).counted then 1 else 0)) :
    ∃ k, (fillLoop visit full n items ql c).2.2.toNat = (c.toNat + k) % 256 ∧
      ((fillLoop visit full n items ql c).1.map W).sum +
        ((fillLoop visit full n items ql c).2.1.map L).sum =
          (items.map W).sum + (ql.map L).sum + k := by
  induction items generalizing n ql c with
  | nil => exact ⟨0, (Nat.mod_eq_of_lt c.toNat_lt).symm, rfl⟩
  | cons i items ih =>
    have hi := hv 0 i rfl
    rw [Nat.add_zero] at hi
    have hlist : ((listAfter (visit i) n ql).map L).sum =
        (ql.map L).sum + if (visit i).listed then L { index := n } else 0 := by
      simp only [listAfter]
      split <;> simp
    have hcount : (countAfter (visit i) c).toNat =
        (c.toNat + if (visit i).counted then 1 else 0) % 256 := by
      simp only [countAfter]
      split
      · rw [UInt8.toNat_add]
        rfl
      · exact (Nat.mod_eq_of_lt c.toNat_lt).symm
    rw [fillLoop_cons]
    by_cases hstop : ((visit i).listed && full (listAfter (visit i) n ql).length) = true
    · rw [if_pos hstop]
      refine ⟨_, hcount, ?_⟩
      simp only [List.map_cons, List.sum_cons, hlist]
      omega
    · rw [if_neg hstop]
      have hv' : ∀ j x, items[j]? = some x →
          W (visit x).item + (if (visit x).listed then L { index := n + 1 + j } else 0) =
            W x + (if (visit x).counted then 1 else 0) := by
        intro j x hx
        have := hv (j + 1) x hx
        rw [show n + 1 + j = n + (j + 1) by omega]
        exact this
      obtain ⟨k, hk, hsum⟩ := ih (listAfter (visit i) n ql) (countAfter (visit i) c) hv'
      refine ⟨k + (if (visit i).counted then 1 else 0), ?_, ?_⟩
      · rw [hk, hcount]
        omega
      · simp only [List.map_cons, List.sum_cons]
        omega

theorem sum_countP {α : Type} {p : α → Bool} {l : List α} :
    (l.map (fun x => if p x then 1 else 0)).sum = l.countP p := by
  induction l with
  | nil => rfl
  | cons x l ih =>
    rw [List.map_cons, List.sum_cons, ih, List.countP_cons]
    omega

theorem sum_keep {m : QuestItemMap} {guid : Nat} {ql : List QuestItem} {items : List LootItem}
    (hn : OrdMap.find? m guid = none) : OrdMap.sum (m.keep guid ql) (openEntries items) =
      OrdMap.sum m (openEntries items) + openEntries items ql := by
  simp only [QuestItemMap.keep]
  split
  · rename_i he
    rw [List.isEmpty_iff.mp he]
    rfl
  · exact OrdMap.sum_set_of_none hn

theorem fillLoop_grows (full : Nat → Bool) (c : UInt8) {p : LootItem → Bool}
    {base items : List LootItem} (hv : ∀ j i, items[j]? = some i →
      (if p (visit i).item then 1 else 0) + (if (visit i).listed && ffaAt base j then 1 else 0) =
        (if p i then 1 else 0) + (if (visit i).counted then 1 else 0)) :
    ∃ k, (fillLoop visit full 0 items [] c).2.2.toNat = (c.toNat + k) % 256 ∧
      (fillLoop visit full 0 items [] c).1.countP p +
        openEntries base (fillLoop visit full 0 items [] c).2.1 = items.countP p + k := by
  obtain ⟨k, hc, hsum⟩ := fillLoop_count (n := 0) full [] c (W := fun i => if p i then 1 else 0)
    (L := fun q => if !q.isLooted && ffaAt base q.index then 1 else 0) (by
      intro j i hi
      have := hv j i hi
      rw [Nat.zero_add]
      cases hl : (visit i).listed <;> simp only [hl] at this ⊢ <;> exact this)
  rw [sum_countP, sum_countP, sum_countP, sum_countP] at hsum
  exact ⟨k, hc, hsum⟩

theorem fillFFALoot_eq : loot.fillFFALoot store player =
    let r := fillLoop (LootItem.visitFFA store player) (fun _ => false) 0 loot.items []
      loot.unlootedCount
    { loot with items := r.1, unlootedCount := r.2.2
                playerFFAItems := loot.playerFFAItems.keep player.guid r.2.1 } := rfl

theorem fillQuestLoot_eq (hroom : loot.items.length ≠ MAX_NR_LOOT_ITEMS) :
    loot.fillQuestLoot store player =
    let r := fillLoop (LootItem.visitQuest store player)
      (fun k => loot.items.length + k == MAX_NR_LOOT_ITEMS) 0 loot.questItems [] loot.unlootedCount
    { loot with questItems := r.1, unlootedCount := r.2.2
                playerQuestItems := loot.playerQuestItems.keep player.guid r.2.1 } := by
  rw [Loot.fillQuestLoot, if_neg hroom]

theorem fillConditional_eq {present : Bool} :
    loot.fillNonQuestNonFFAConditionalLoot store player present =
    let r := fillLoop (LootItem.visitConditional store player present) (fun _ => false) 0
      loot.items [] loot.unlootedCount
    { loot with items := r.1, unlootedCount := r.2.2
                playerNonQuestNonFFAConditionalItems :=
                  loot.playerNonQuestNonFFAConditionalItems.keep player.guid r.2.1 } := rfl

/-- Each entry of `FillFFALoot` is one unit more. -/
theorem fillFFALoot_grows (hn : loot.playerFFAItems.find? player.guid = none) :
    loot.Grows (loot.fillFFALoot store player) := by
  have hv : ∀ j i, loot.items[j]? = some i →
      (if (LootItem.visitFFA store player i).item.outstanding then 1 else 0) +
        (if (LootItem.visitFFA store player i).listed && ffaAt loot.items j then 1 else 0) =
      (if i.outstanding then 1 else 0) +
        (if (LootItem.visitFFA store player i).counted then 1 else 0) := by
    intro j i hi
    cases hf : i.freeforall <;> simp [LootItem.visitFFA, ffaAt, hi, hf]
  obtain ⟨k, hc, hsum⟩ := fillLoop_grows (fun _ => false) loot.unlootedCount hv
  have hitems : (fillLoop (LootItem.visitFFA store player) (fun _ => false) 0 loot.items []
      loot.unlootedCount).1 = loot.items := by
    have hall : List.Forall₂ Eq loot.items (fillLoop (LootItem.visitFFA store player)
        (fun _ => false) 0 loot.items [] loot.unlootedCount).1 :=
      fillLoop_items (R := Eq) (fun _ => rfl) (fun _ => rfl) _ _ _ _
    rw [List.forall₂_eq_eq_eq] at hall
    exact hall.symm
  rw [fillFFALoot_eq]
  refine ⟨k, hc, ?_⟩
  rw [hitems] at hsum
  simp only [Loot.outstanding, hitems, sum_keep hn]
  omega

/-- `FillQuestLoot` counts an item that is not free for all once, when it blocks it. -/
theorem fillQuestLoot_grows (hn : loot.playerQuestItems.find? player.guid = none) :
    loot.Grows (loot.fillQuestLoot store player) := by
  have hv : ∀ j i, loot.questItems[j]? = some i →
      (if (LootItem.visitQuest store player i).item.questOutstanding then 1 else 0) +
        (if (LootItem.visitQuest store player i).listed && ffaAt loot.questItems j then 1 else 0) =
      (if i.questOutstanding then 1 else 0) +
        (if (LootItem.visitQuest store player i).counted then 1 else 0) := by
    intro j i hi
    cases hf : i.freeforall <;> cases hb : i.isBlocked <;> cases hl : i.isLooted <;>
      cases ha : i.allowedForPlayer store player <;>
      simp [LootItem.visitQuest, LootItem.questOutstanding, ffaAt, hi, hf, hb, hl, ha]
  by_cases hroom : loot.items.length = MAX_NR_LOOT_ITEMS
  · rw [Loot.fillQuestLoot, if_pos hroom]
    exact .refl _
  · rw [fillQuestLoot_eq hroom]
    obtain ⟨k, hc, hsum⟩ := fillLoop_grows
      (fun k => loot.items.length + k == MAX_NR_LOOT_ITEMS) loot.unlootedCount hv
    have hffa : ffaAt (fillLoop (LootItem.visitQuest store player)
        (fun k => loot.items.length + k == MAX_NR_LOOT_ITEMS) 0 loot.questItems []
        loot.unlootedCount).1 = ffaAt loot.questItems := by
      refine ffaAt_of_forall₂ (fun _ _ h => h) (fillLoop_items
        (R := fun i i' => i'.freeforall = i.freeforall) (fun i => ?_) (fun _ => rfl) _ _ _ _)
      simp only [LootItem.visitQuest]
      split <;> rfl
    refine ⟨k, hc, ?_⟩
    simp only [Loot.outstanding]
    rw [openEntries_congr hffa, sum_keep hn]
    omega

/-- A conditional item is counted when the first player is listed for it. -/
theorem fillConditional_grows {present : Bool} :
    loot.Grows (loot.fillNonQuestNonFFAConditionalLoot store player present) := by
  have hv : ∀ j i, loot.items[j]? = some i →
      (if (LootItem.visitConditional store player present i).item.outstanding then 1 else 0) +
        (if (LootItem.visitConditional store player present i).listed && ffaAt [] j
          then 1 else 0) =
      (if i.outstanding then 1 else 0) +
        (if (LootItem.visitConditional store player present i).counted then 1 else 0) := by
    intro j i hi
    cases hf : i.freeforall <;> cases hb : i.isCounted <;> cases hl : i.isLooted <;>
      cases ha : i.allowedForPlayer store player <;> cases hc : i.conditions <;>
      cases present <;>
      simp [LootItem.visitConditional, LootItem.outstanding, LootItem.addAllowedLooter, ffaAt, hf,
        hb, hl, ha, hc]
  obtain ⟨k, hc, hsum⟩ := fillLoop_grows (fun _ => false) loot.unlootedCount hv
  have hffa : ffaAt (fillLoop (LootItem.visitConditional store player present) (fun _ => false) 0
      loot.items [] loot.unlootedCount).1 = ffaAt loot.items := by
    refine ffaAt_of_forall₂ (fun _ _ h => h) (fillLoop_items
      (R := fun i i' => i'.freeforall = i.freeforall) (fun i => ?_) (fun _ => rfl) _ _ _ _)
    simp only [LootItem.visitConditional]
    split
    · split <;> split <;> rfl
    · rfl
  have hopen : ∀ ql, openEntries [] ql = 0 := by
    intro ql
    simp [openEntries, ffaAt]
  rw [hopen] at hsum
  rw [fillConditional_eq]
  refine ⟨k, hc, ?_⟩
  simp only [Loot.outstanding]
  rw [openEntries_congr hffa]
  omega

theorem fillLists_grows {present : Bool} : loot.Grows (loot.fillLists store player present) := by
  have step : ∀ {c : Bool} {a b : Loot}, (c = true → a.Grows b) →
      a.Grows (if c then b else a) := by
    intro c a b h
    split
    · rename_i hc
      exact h hc
    · exact .refl _
  refine (step (fun hn => fillQuestLoot_grows (by simpa using hn))).trans
    ((step (fun hn => fillFFALoot_grows (by simpa using hn))).trans (step (fun _ => ?_)))
  exact fillConditional_grows

theorem fillLoop_listed {n : Nat} {items : List LootItem} {ql : List QuestItem} {c : UInt8}
    {q : QuestItem} (hq : q ∈ (fillLoop visit full n items ql c).2.1) :
    q ∈ ql ∨ ∃ j i, q.index = n + j ∧ (visit i).listed = true ∧
      (fillLoop visit full n items ql c).1[j]? = some (visit i).item := by
  induction items generalizing n ql c with
  | nil => exact .inl hq
  | cons i items ih =>
    have hnew : q ∈ listAfter (visit i) n ql →
        q ∈ ql ∨ (q.index = n ∧ (visit i).listed = true) := by
      intro h
      simp only [listAfter] at h
      split at h
      · rename_i hl
        rcases List.mem_append.mp h with h | h
        · exact .inl h
        · rw [List.mem_singleton.mp h]
          exact .inr ⟨rfl, hl⟩
      · exact .inl h
    rw [fillLoop_cons] at hq ⊢
    by_cases hstop : ((visit i).listed && full (listAfter (visit i) n ql).length) = true
    · rw [if_pos hstop] at hq ⊢
      exact (hnew hq).imp id (fun h => ⟨0, i, h.1, h.2, rfl⟩)
    · rw [if_neg hstop] at hq ⊢
      rcases ih hq with hq | ⟨j, x, hidx, hl, hget⟩
      · exact (hnew hq).imp id (fun h => ⟨0, i, h.1, h.2, rfl⟩)
      · exact .inr ⟨j + 1, x, by omega, hl, hget⟩

theorem get?_of_forall₂ {R : LootItem → LootItem → Prop} {is is' : List LootItem}
    (h : List.Forall₂ R is is') {k : Nat} {i : LootItem} (hi : is[k]? = some i) :
    ∃ i', is'[k]? = some i' ∧ R i i' := by
  induction h generalizing k with
  | nil => cases hi
  | @cons a b as bs hab _ ih =>
    cases k with
    | zero =>
      cases hi
      exact ⟨b, rfl, hab⟩
    | succ k => exact ih hi

theorem fillQuestLoot_registered (h : loot.Registered) :
    (loot.fillQuestLoot store player).Registered := by
  by_cases hroom : loot.items.length = MAX_NR_LOOT_ITEMS
  · rw [Loot.fillQuestLoot, if_pos hroom]
    exact h
  · rw [fillQuestLoot_eq hroom]
    intro g ql hql q hq
    have hold : ∀ ql, loot.playerQuestItems.find? g = some ql → ∀ q ∈ ql,
        ∃ i, (fillLoop (LootItem.visitQuest store player)
          (fun k => loot.items.length + k == MAX_NR_LOOT_ITEMS) 0 loot.questItems []
          loot.unlootedCount).1[q.index]? = some i ∧
            (i.freeforall = true ∨ i.isBlocked = true) := by
      intro ql hql q hq
      obtain ⟨i, hi, hor⟩ := h g ql hql q hq
      have hvisit : ∀ i : LootItem, (i.freeforall = true ∨ i.isBlocked = true) →
          ((LootItem.visitQuest store player i).item.freeforall = true ∨
            (LootItem.visitQuest store player i).item.isBlocked = true) := by
        intro i hor
        simp only [LootItem.visitQuest]
        split
        · exact .inr rfl
        · exact hor
      obtain ⟨i', hi', himp⟩ := get?_of_forall₂ (fillLoop_items
        (R := fun i i' => (i.freeforall = true ∨ i.isBlocked = true) →
          (i'.freeforall = true ∨ i'.isBlocked = true)) hvisit (fun _ hor => hor) _ _ _ _) hi
      exact ⟨i', hi', himp hor⟩
    simp only [QuestItemMap.keep] at hql
    split at hql
    · exact hold ql hql q hq
    · rw [OrdMap.find?_set] at hql
      split at hql
      · cases hql
        rcases fillLoop_listed hq with hq | ⟨j, i, hidx, hl, hget⟩
        · cases hq
        · rw [Nat.zero_add] at hidx
          refine ⟨_, hidx ▸ hget, .inr ?_⟩
          simp only [LootItem.visitQuest] at hl ⊢
          split at hl
          · rename_i hc
            rw [if_pos hc]
          · cases hl
      · exact hold ql hql q hq

theorem fillLists_registered {present : Bool} (h : loot.Registered) :
    (loot.fillLists store player present).Registered := by
  have hffa : ∀ a : Loot, a.Registered → (a.fillFFALoot store player).Registered :=
    fun _ ha => ha
  have hcond : ∀ a : Loot, a.Registered →
      (a.fillNonQuestNonFFAConditionalLoot store player present).Registered := fun _ ha => ha
  have step : ∀ {c : Bool} {a b : Loot}, (a.Registered → b.Registered) → a.Registered →
      (if c then b else a).Registered := by
    intro c a b hab ha
    split
    · exact hab ha
    · exact ha
  exact step (hcond _) (step (hffa _) (step fillQuestLoot_registered h))

/-- `AddItem` counts the plain items, of which there are at most sixteen. -/
theorem addItems_tallied (store : TemplateStore) (drops : List (LootStoreItem × LootDraw)) {a : Loot}
    (hq : a.playerQuestItems = ∅) (hf : a.playerFFAItems = ∅)
    (hb : a.questItems.countP LootItem.questOutstanding = 0)
    (hlen : a.items.length ≤ MAX_NR_LOOT_ITEMS)
    (hc : a.unlootedCount.toNat = a.items.countP LootItem.outstanding) :
    (drops.foldl (Loot.addItem store) a).Tallied ∧
      (drops.foldl (Loot.addItem store) a).Registered := by
  induction drops generalizing a with
  | nil =>
    refine ⟨?_, ?_⟩
    · simp only [List.foldl_nil, Loot.Tallied, Loot.outstanding, hq, hf, hb, hc,
        OrdMap.sum_empty, Nat.add_zero]
    · intro g ql hql
      rw [List.foldl_nil, hq] at hql
      cases hql
  | cons d drops ih =>
    rw [List.foldl_cons]
    have hfresh : (LootItem.ofStoreItem store d.1 d.2).questOutstanding = false := by
      simp [LootItem.questOutstanding, LootItem.ofStoreItem]
    have hcount : (LootItem.ofStoreItem store d.1 d.2).outstanding =
        (d.1.conditions.isEmpty &&
          (store d.1.itemid).all fun proto => !hasMask proto.flags ITEM_PROTO_FLAG_PARTY_LOOT) := by
      simp only [LootItem.outstanding, LootItem.ofStoreItem, Bool.not_false, Bool.and_true,
        Bool.or_false]
      cases store d.1.itemid <;> simp [Bool.and_comm]
    have hle : a.items.countP LootItem.outstanding ≤ MAX_NR_LOOT_ITEMS :=
      Nat.le_trans List.countP_le_length hlen
    by_cases hquest : d.1.needsQuest = true
    · simp only [Loot.addItem, if_pos hquest]
      split
      · refine ih hq hf ?_ hlen hc
        rw [List.countP_append, hb, List.countP_singleton, hfresh]
        rfl
      · exact ih hq hf hb hlen hc
    · simp only [Loot.addItem, if_neg hquest]
      split
      · rename_i hroom
        refine ih hq hf hb ?_ ?_
        · rw [List.length_append, List.length_singleton]
          exact hroom
        · have h16 : MAX_NR_LOOT_ITEMS = 16 := rfl
          rw [List.countP_append, List.countP_singleton, ← hc, hcount]
          cases store d.1.itemid <;> exact byte_ite (by omega)
      · exact ih hq hf hb hlen hc

end Fill

/-- `StoreLootItem` hands out an item that the counter counts. -/
def Loot.storeTracked (loot : Loot) (slot guid : Nat) : Bool :=
  match loot.storable slot guid with
  | none => true
  | some s => s.item.freeforall || s.quest || s.item.tracked

namespace LootWorld

def autoStoreTracked (store : TemplateStore) (l : Nat) (p : FillLooter) (w : LootWorld) (i : Nat) :
    Prop :=
  (w.loots l).autoStored store p.looter i = true → p.canStore i = true →
    (w.loots l).storeTracked i p.looter.guid = true

/-- Filling the lists of one looter leaves at most 255 units, and what is stored at once counts. -/
def fillForTracked (store : TemplateStore) (l : Nat) (w : LootWorld) (p : FillLooter) : Prop :=
  ((w.listFilled store l p).loots l).outstanding ≤ 255 ∧
  (p.presentAtLooting = true →
    Admitted (autoStore store l p) (autoStoreTracked store l p) (w.listFilled store l p)
      (List.range (((w.listFilled store l p).loots l).getMaxSlotInLootFor p.looter.guid)))

end LootWorld

def TrackedOk (store : TemplateStore) (w : LootWorld) : LootEvent → Prop
  | .fillLoot l gold drops owner looters =>
    Admitted (LootWorld.fillNotNormalLootFor store l) (LootWorld.fillForTracked store l)
      (w.fillStart store l gold drops owner) looters
  | .groupLoot l info => ∀ i ∈ (w.loots l).items,
      getsRoll store w.group info i = true → i.tracked = true
  | .needBeforeGreed l info => ∀ i ∈ (w.loots l).items,
      getsRoll store w.group info i = true → i.tracked = true
  | .storeLootItem l slot guid canStore =>
    canStore = true → (w.loots l).storeTracked slot guid = true
  | .masterGive l slot giver _ canStore =>
    w.group.looterGuid = giver → canStore = true →
      ∀ i ∈ (w.loots l).items[slot]?, i.freeforall = false ∧ i.isLooted = false ∧ i.tracked = true
  | _ => True

/-- What a step must respect for the counter to be right: it is safe, and touches counted items. -/
def CountOk (store : TemplateStore) (w : LootWorld) (e : LootEvent) : Prop :=
  GiveOk store w e ∧ TrackedOk store w e

/-! ## The invariant -/

def Loot.TrackedAt (loot : Loot) (slot : Nat) : Prop :=
  ∃ i, loot.items[slot]? = some i ∧ i.tracked = true

structure CountInv (w : LootWorld) : Prop where
  tallied : ∀ l, (w.loots l).Tallied
  registered : ∀ l, (w.loots l).Registered
  tracked : ∀ r ∈ w.group.rollId, ∀ l, r.loot = some l → (w.loots l).TrackedAt r.itemSlot

namespace CountInv

variable {store : TemplateStore} {w : LootWorld} {l slot guid : Nat} {loot : Loot}

theorem touch (h : CountInv w) (ht : loot.Tallied) (hreg : loot.Registered)
    (hr : ∀ r ∈ w.group.rollId, r.loot = some l → loot.TrackedAt r.itemSlot) :
    CountInv (w.setLoot l loot) where
  tallied := by
    intro l'
    by_cases hl : l' = l
    · rw [hl, LootWorld.setLoot_loots_same]
      exact ht
    · rw [LootWorld.setLoot_loots_ne hl]
      exact h.tallied l'
  registered := by
    intro l'
    by_cases hl : l' = l
    · rw [hl, LootWorld.setLoot_loots_same]
      exact hreg
    · rw [LootWorld.setLoot_loots_ne hl]
      exact h.registered l'
  tracked := by
    intro r hmem l' hl'
    by_cases hl : l' = l
    · rw [hl, LootWorld.setLoot_loots_same]
      exact hr r hmem (hl ▸ hl')
    · rw [LootWorld.setLoot_loots_ne hl]
      exact h.tracked r hmem l' hl'

theorem trackedAt_later {a b : Loot} (h : ItemsLater a.items b.items) {k : Nat}
    (ht : a.TrackedAt k) : b.TrackedAt k := by
  obtain ⟨i, hi, ht⟩ := ht
  obtain ⟨i', hi', hl⟩ := get?_of_forall₂ h hi
  refine ⟨i', hi', ?_⟩
  rw [LootItem.tracked, hl.conditions, hl.counted]
  exact ht

theorem rolls (h : CountInv w) {rs : List Roll}
    (hmem : ∀ r ∈ rs, ∀ l, r.loot = some l →
      ∃ r' ∈ w.group.rollId, r'.loot = some l ∧ r'.itemSlot = r.itemSlot) :
    CountInv (w.setRolls rs) where
  tallied := h.tallied
  registered := h.registered
  tracked := by
    intro r hr l hl
    obtain ⟨r', hr', hl', hs⟩ := hmem r hr l hl
    exact hs ▸ h.tracked r' hr' l hl'

theorem sublist (h : CountInv w) {rs : List Roll} (hs : rs.Sublist w.group.rollId) :
    CountInv (w.setRolls rs) :=
  h.rolls (fun r hr _ hl => ⟨r, hs.subset hr, hl, rfl⟩)

theorem of_fields {w' : LootWorld} {rs : List Roll} (h : CountInv (w.setRolls rs))
    (hl : w'.loots = w.loots) (hr : w'.group.rollId = rs) : CountInv w' where
  tallied := by
    rw [hl]
    exact h.tallied
  registered := by
    rw [hl]
    exact h.registered
  tracked := by
    rw [hr, hl]
    exact h.tracked

theorem award (h : CountInv w) {a : Award} : CountInv (w.award a) :=
  CountInv.of_fields (w := w) h rfl rfl

theorem storeLootItem (h : CountInv w) {canStore : Bool}
    (hsafe : canStore = true → (w.loots l).storeSafe slot guid = true)
    (ht : canStore = true → (w.loots l).storeTracked slot guid = true) :
    CountInv (w.storeLootItem l slot guid canStore) := by
  simp only [LootWorld.storeLootItem]
  split
  · exact h
  · rename_i s hs
    split
    · rename_i hc
      obtain ⟨hf, hb⟩ := storable_found hs
      have hsafe' := hsafe hc
      have ht' := ht hc
      simp only [Loot.storeSafe, hs] at hsafe'
      simp only [Loot.storeTracked, hs] at ht'
      have htaken := takeSlot_takenOne hf (h.registered l) hsafe' ht'
      have htouch := h.touch (htaken.tallied (h.tallied l))
        (takeSlot_registered hf (h.registered l))
        (fun r hr hl => trackedAt_later takeSlot_later.1 (h.tracked r hr l hl))
      exact htouch.award
    · exact h

theorem give (h : CountInv w) {i : LootItem} {f : LootItem → LootItem}
    (hi : (w.loots l).items[slot]? = some i) (hff : i.freeforall = false)
    (hno : i.isLooted = false) (ht : i.tracked = true) (hf : ∀ i : LootItem, i.Later (f i))
    (hl : ∀ i : LootItem, (f i).isLooted = true) :
    CountInv (w.setLoot l { w.loots l with
      items := (w.loots l).items.modify slot f
      unlootedCount := (w.loots l).unlootedCount - 1 }) := by
  have htaken : (w.loots l).TakenOne { w.loots l with
      items := (w.loots l).items.modify slot f
      unlootedCount := (w.loots l).unlootedCount - 1 } :=
    ⟨take_outstanding hf hl hi hff hno ht, rfl⟩
  exact h.touch (htaken.tallied (h.tallied l)) (h.registered l)
    (fun r hr hrl => trackedAt_later (ItemsLater.modify hf _ _) (h.tracked r hr l hrl))

theorem flags (h : CountInv w) {items : List LootItem} (hi : ItemsLater (w.loots l).items items)
    (hc : items.countP LootItem.outstanding =
      (w.loots l).items.countP LootItem.outstanding) :
    CountInv (w.setLoot l { w.loots l with items := items }) := by
  have hffa : ffaAt items = ffaAt (w.loots l).items :=
    ffaAt_of_forall₂ (fun _ _ h => LootItem.Later.freeforall h) hi
  refine h.touch ?_ (h.registered l)
    (fun r hr hrl => trackedAt_later hi (h.tracked r hr l hrl))
  have ht := h.tallied l
  simp only [Loot.Tallied, Loot.outstanding] at ht ⊢
  rw [openEntries_congr hffa, hc]
  exact ht

theorem countP_of_forall₂ {p : LootItem → Bool} {is is' : List LootItem}
    (h : List.Forall₂ (fun i i' => p i' = p i) is is') : is'.countP p = is.countP p := by
  induction h with
  | nil => rfl
  | cons hab _ ih => rw [List.countP_cons, List.countP_cons, ih, hab]

theorem masterGive (h : CountInv w) {giver target : Nat} {canStore : Bool} {w' : LootWorld}
    (ht : w.group.looterGuid = giver → canStore = true →
      ∀ i ∈ (w.loots l).items[slot]?, i.freeforall = false ∧ i.isLooted = false ∧ i.tracked = true)
    (hw : w.handleLootMasterGive l slot giver target canStore = some w') : CountInv w' := by
  simp only [LootWorld.handleLootMasterGive] at hw
  split at hw
  · cases hw
    exact h
  · rename_i hg
    split at hw
    · cases hw
      exact h
    · split at hw
      · cases hw
      · rename_i i hi
        split at hw
        · rename_i hc
          obtain ⟨hff, hl, htracked⟩ := ht (by simpa using hg) hc i hi
          cases hw
          simp only [Loot.takeItem, List.modify_modify_eq]
          have hgive := h.give (f := fun i => { i with isLooted := true, count := 0 }) hi hff hl
            htracked (fun _ => ⟨rfl, rfl, rfl, rfl, fun _ => rfl⟩) (fun _ => rfl)
          exact CountInv.of_fields (w := w.setLoot l _) hgive rfl rfl
        · cases hw
          exact h

/-- The item of a roll that is counted goes as one unit, or stays. -/
theorem settle (h : CountInv w) (hg : GivenInv w) {k : Nat} {r : Roll}
    (hk : w.group.rollId[k]? = some r) (hl : r.loot = some l) (res : RollResult) :
    CountInv ((w.settle l r.itemSlot res).setRolls (w.group.rollId.eraseIdx k)) := by
  have hrest := h.sublist (List.eraseIdx_sublist (l := w.group.rollId) (k := k))
  obtain ⟨i, hi, hil, _, hif⟩ := hg.rolled r (List.mem_of_getElem? hk) l hl
  obtain ⟨i', hi', ht⟩ := h.tracked r (List.mem_of_getElem? hk) l hl
  cases hi.symm.trans hi'
  cases res with
  | nothing => exact hrest
  | give | waste =>
    have hgive := hrest.give (w := w.setRolls (w.group.rollId.eraseIdx k))
      (f := fun i => { i with isLooted := true }) hi hif hil ht
      (fun _ => ⟨rfl, rfl, rfl, rfl, fun _ => rfl⟩) (fun _ => rfl)
    first | exact hgive.award | exact hgive
  | unblock =>
    refine hrest.flags (w := w.setRolls (w.group.rollId.eraseIdx k)) unblockItem_later ?_
    have hmod := countP_modify (p := LootItem.outstanding)
      (f := fun i => { i with isBlocked := false }) hi
    exact Nat.add_right_cancel hmod

theorem countTheRoll (h : CountInv w) (hg : GivenInv w) (k : Nat) (env : RollEnv) :
    CountInv (w.countTheRoll k env) := by
  simp only [LootWorld.countTheRoll]
  split
  · exact h
  · rename_i r hk
    split
    · exact h.sublist (List.eraseIdx_sublist _ _)
    · rename_i l hl
      exact h.settle hg hk hl _

theorem endRollLoop (h : CountInv w) (hg : GivenInv w) {env : Nat → RollEnv} {n : Nat} :
    CountInv (LootWorld.endRollLoop l env n w) := by
  induction n generalizing w with
  | zero => exact h
  | succ n ih =>
    simp only [LootWorld.endRollLoop]
    split
    · exact h
    · split
      · exact h
      · exact ih (h.countTheRoll hg _ _) (hg.countTheRoll _ _)

theorem countRollVote (h : CountInv w) (hg : GivenInv w) (p g choice : Nat) (env : RollEnv) :
    CountInv (w.countRollVote p g choice env) := by
  rcases LootWorld.countRollVote_cases w p g choice env with h' | ⟨k, r, l, hv⟩
  · rw [h']
    exact h
  · rw [hv.step]
    split
    · exact h.settle hg hv.at_k hv.loot _
    · refine h.rolls (fun x hx l' hl' => ?_)
      rcases mem_set_or hx with rfl | hx
      · exact ⟨r, List.mem_of_getElem? hv.at_k, by simpa using hl', by simp⟩
      · exact ⟨x, List.mem_of_mem_eraseIdx hx, hl', rfl⟩

theorem mapRolls (h : CountInv w) {f : Roll → Roll}
    (hf : ∀ r, (f r).itemSlot = r.itemSlot ∧ ((f r).loot = none ∨ (f r).loot = r.loot)) :
    CountInv (w.setRolls (w.group.rollId.map f)) := by
  refine h.rolls (fun x hx l hl => ?_)
  obtain ⟨r, hr, rfl⟩ := List.mem_map.mp hx
  rcases (hf r).2 with hn | hs
  · rw [hn] at hl
    cases hl
  · exact ⟨r, hr, hs ▸ hl, (hf r).1.symm⟩

/-- Opening rolls counts nothing. -/
theorem openRolls (h : CountInv w) {mask : ItemTemplate → Nat} {info : Nat → RollMember}
    (ht : ∀ i ∈ (w.loots l).items, getsRoll store w.group info i = true → i.tracked = true) :
    CountInv (w.openRolls store mask l info) := by
  have htouched : List.Forall₂ RollTouched (w.loots l).items
      (rollItems store w.group info mask l 0 w.nextItemGuid (w.loots l).items).1 :=
    rollItems_later
  have hflags := h.flags (htouched.imp (fun _ _ => RollTouched.later))
    (countP_of_forall₂ (htouched.imp (fun i i' hi => by cases hi <;> rfl)))
  refine ⟨hflags.tallied, hflags.registered, ?_⟩
  intro r hr l' hl'
  rcases LootWorld.openRolls_mem hr with hr | hr
  · exact hflags.tracked r hr l' hl'
  · obtain ⟨k, item, hk, hslot, hloot, -, hrolls, hget⟩ := GivenInv.rollItems_opened hr
    cases hloot.symm.trans hl'
    refine ⟨{ item with isBlocked := true }, ?_, ht item (List.mem_of_getElem? hk) hrolls⟩
    show ((w.setLoot l _).loots l).items[_]? = _
    rw [LootWorld.setLoot_loots_same, hslot, Nat.zero_add]
    exact hget

theorem renew (h : CountInv w) (ht : loot.Tallied) (hreg : loot.Registered)
    (hr : ∀ r ∈ w.group.rollId, r.loot ≠ some l) : CountInv (w.setLoot l loot) :=
  h.touch ht hreg (fun r hmem hl => absurd hl (hr r hmem))

theorem clear_tallied : Loot.clear.Tallied ∧ Loot.clear.Registered :=
  addItems_tallied (fun _ => none) [] rfl rfl rfl (Nat.zero_le _) rfl

theorem clearLoot (h : CountInv w) : CountInv (w.clearLoot l) := by
  have hrolls := h.mapRolls (f := fun r => if r.loot = some l then { r with loot := none } else r)
    (fun r => by split <;> simp)
  have hclear : CountInv ((w.setLoot l Loot.clear).setRolls (w.clearLoot l).group.rollId) :=
    hrolls.renew clear_tallied.1 clear_tallied.2
      (GivenInv.clearLoot_fresh (w := w) (l := l)).rolls
  exact hclear.of_fields rfl rfl

theorem fillStart (h : CountInv w) {gold : Nat} {drops : List (LootStoreItem × LootDraw)}
    {owner : Option Nat} : CountInv (w.fillStart store l gold drops owner) := by
  have hfresh := (GivenInv.clearLoot_fresh (w := w) (l := l)).rolls
  obtain ⟨ht, hreg⟩ := addItems_tallied store (a := Loot.clear) drops rfl rfl rfl
    (Nat.zero_le _) rfl
  have hstart : CountInv ((w.clearLoot l).setLoot l
      { drops.foldl (Loot.addItem store) Loot.clear with gold := gold }) :=
    h.clearLoot.renew ht hreg hfresh
  cases owner with
  | none => exact hstart
  | some guid => exact hstart.renew (hstart.tallied l) (hstart.registered l) hfresh

theorem listFilled (h : CountInv w) {p : FillLooter} (hr : ∀ r ∈ w.group.rollId, r.loot ≠ some l)
    (hle : ((w.listFilled store l p).loots l).outstanding ≤ 255) :
    CountInv (w.listFilled store l p) := by
  simp only [LootWorld.listFilled, LootWorld.setLoot_loots_same] at hle ⊢
  exact h.renew (fillLists_grows.tallied (h.tallied l) hle) (fillLists_registered (h.registered l))
    hr

theorem fillNotNormalLootFor (h : CountInv w) {p : FillLooter}
    (hr : ∀ r ∈ w.group.rollId, r.loot ≠ some l)
    (hsafe : LootWorld.fillForSafe store l w p) (ht : LootWorld.fillForTracked store l w p) :
    CountInv (LootWorld.fillNotNormalLootFor store l w p) := by
  have hfill := h.listFilled hr ht.1
  simp only [LootWorld.fillNotNormalLootFor]
  split
  · exact hfill
  · rename_i hp
    have hpresent : p.presentAtLooting = true := by simpa using hp
    have hrun := ((hsafe hpresent).and (ht.2 hpresent)).run
    refine hrun.invariant (I := CountInv) ?_ hfill
    intro v i hv hok
    simp only [LootWorld.autoStore]
    split
    · rename_i hauto
      exact hv.storeLootItem (hok.1 hauto) (hok.2 hauto)
    · exact hv

theorem markUnderthreshold_item (threshold : Nat) (i : LootItem) :
    i.Later (LootWorld.markUnderthreshold store threshold i) ∧
      (LootWorld.markUnderthreshold store threshold i).outstanding = i.outstanding := by
  simp only [LootWorld.markUnderthreshold]
  split
  · split
    · exact ⟨⟨rfl, rfl, rfl, rfl, id⟩, rfl⟩
    · exact ⟨.refl i, rfl⟩
  · exact ⟨.refl i, rfl⟩

/-- A loot that is filled is counted anew. -/
theorem fillLoot (h : CountInv w) {gold : Nat} {drops : List (LootStoreItem × LootDraw)}
    {owner : Option Nat} {looters : List FillLooter}
    (hsafe : Admitted (LootWorld.fillNotNormalLootFor store l) (LootWorld.fillForSafe store l)
      (w.fillStart store l gold drops owner) looters)
    (ht : Admitted (LootWorld.fillNotNormalLootFor store l) (LootWorld.fillForTracked store l)
      (w.fillStart store l gold drops owner) looters) :
    CountInv (w.fillLoot store l gold drops owner looters) := by
  have hfresh : ∀ r ∈ (w.fillStart store l gold drops owner).group.rollId, r.loot ≠ some l := by
    have hclear := (GivenInv.clearLoot_fresh (w := w) (l := l)).rolls
    cases owner <;> exact hclear
  have hrun := (hsafe.and ht).run.invariant
    (I := fun v => CountInv v ∧ ∀ r ∈ v.group.rollId, r.loot ≠ some l)
    (fun v p hv hok => ⟨hv.1.fillNotNormalLootFor hv.2 hok.1 hok.2, by
      rw [(LootWorld.fillNotNormalLootFor_frame store l v p).1]
      exact hv.2⟩)
    ⟨h.fillStart, hfresh⟩
  cases owner with
  | none => exact hrun.1
  | some guid =>
    refine hrun.1.flags ?_ (countP_of_forall₂ ?_)
    · exact List.forall₂_map_right_iff.mpr
        (List.forall₂_same.mpr (fun i _ => (markUnderthreshold_item _ i).1))
    · exact List.forall₂_map_right_iff.mpr
        (List.forall₂_same.mpr (fun i _ => (markUnderthreshold_item _ i).2))

theorem removeMember (h : CountInv w) (hw : RollsWF w) {kick lfgOutside : Bool}
    {online : Nat → Bool} {env : Nat → RollEnv} :
    CountInv (w.removeMember guid kick online lfgOutside env) := by
  obtain ⟨_, hl, hcases⟩ := LootWorld.removeMember_rolls hw guid kick online lfgOutside env
  rcases hcases with ⟨_, he⟩ | ⟨_, hr, _⟩ | ⟨_, hr, _⟩
  · rw [he]
    exact h
  · exact (h.sublist (List.nil_sublist _)).of_fields hl hr
  · refine (h.mapRolls (fun r => ?_)).of_fields hl hr
    exact ⟨by simp, .inr (by simp)⟩

theorem step (h : CountInv w) (hg : GivenInv w) (hw : RollsWF w) {e : LootEvent}
    (hok : CountOk store w e) : CountInv (w.step store e) := by
  obtain ⟨hgive, htrack⟩ := hok
  cases e with
  | fillLoot l gold drops owner looters => exact h.fillLoot hgive htrack
  | clearLoot l => exact h.clearLoot
  | groupLoot l info => exact h.openRolls htrack
  | needBeforeGreed l info =>
    simp only [LootWorld.step, LootWorld.needBeforeGreed]
    split
    · exact h.openRolls htrack
    · exact h
  | storeLootItem l slot guid canStore => exact h.storeLootItem hgive htrack
  | masterGive l slot giver target canStore =>
    simp only [LootWorld.step]
    cases hm : w.handleLootMasterGive l slot giver target canStore with
    | none => exact h
    | some w' => exact h.masterGive htrack hm
  | lootMoney l =>
    exact h.touch (h.tallied l) (h.registered l) (fun r hr hl => h.tracked r hr l hl)
  | vote p guid choice env => exact h.countRollVote hg p guid choice env
  | endRoll l env => exact h.endRollLoop hg
  | addMember guid =>
    simp only [LootWorld.step]
    split
    · rename_i g hadd
      have hsame := (addMember_frame hadd).2
      show CountInv (w.setGroup g)
      exact CountInv.of_fields (w := w) h rfl hsame
    · exact h
  | login guid => exact CountInv.of_fields (w := w) h rfl rfl
  | logout guid => exact CountInv.of_fields (w := w) h rfl rfl
  | removeMember guid kick online lfgOutside env => exact h.removeMember hw

theorem init : CountInv {} where
  tallied := fun _ => clear_tallied.1
  registered := fun _ => clear_tallied.2
  tracked := fun _ hr => nomatch hr

end CountInv

theorem count_inv {store : TemplateStore} {w : LootWorld} {es : List LootEvent}
    (h : Run (LootWorld.step store) (CountOk store) {} es w) :
    (RollsWF w ∧ GivenInv w) ∧ CountInv w :=
  h.invariant (I := fun w => (RollsWF w ∧ GivenInv w) ∧ CountInv w)
    (fun _ _ hi hok => ⟨⟨LootWorld.step_wf hi.1.1 _, hi.1.2.step hi.1.1 hok.1⟩,
      hi.2.step hi.1.2 hi.1.1 hok⟩)
    ⟨⟨LootWorld.init_wf, GivenInv.init⟩, CountInv.init⟩

/-- In a run of such steps `unlootedCount` is the number of units still to be had, and `isLooted`
says that there is neither money nor a unit left. -/
theorem loot_count {store : TemplateStore} {w : LootWorld} {es : List LootEvent}
    (h : Run (LootWorld.step store) (CountOk store) {} es w) (l : Nat) :
    (w.loots l).unlootedCount.toNat = (w.loots l).outstanding ∧
      ((w.loots l).isLooted = true ↔ (w.loots l).gold = 0 ∧ (w.loots l).outstanding = 0) :=
  ⟨(count_inv h).2.tallied l, Loot.isLooted_iff ((count_inv h).2.tallied l)⟩

instance LootWorld.autoStoreTracked.decidable {store : TemplateStore} {l : Nat} {p : FillLooter}
    (w : LootWorld) (i : Nat) : Decidable (LootWorld.autoStoreTracked store l p w i) :=
  inferInstanceAs (Decidable (_ = true → _ = true → _ = true))

instance LootWorld.fillForTracked.decidable {store : TemplateStore} {l : Nat} (w : LootWorld)
    (p : FillLooter) : Decidable (LootWorld.fillForTracked store l w p) :=
  inferInstanceAs (Decidable (_ ≤ _ ∧ (p.presentAtLooting = true → Admitted _ _ _ _)))

instance TrackedOk.decidable {store : TemplateStore} {w : LootWorld} :
    (e : LootEvent) → Decidable (TrackedOk store w e)
  | .fillLoot l _ _ _ _ => inferInstanceAs
      (Decidable (Admitted (LootWorld.fillNotNormalLootFor store l) _ _ _))
  | .groupLoot l info => inferInstanceAs (Decidable (∀ i ∈ (w.loots l).items,
      getsRoll store w.group info i = true → i.tracked = true))
  | .needBeforeGreed l info => inferInstanceAs (Decidable (∀ i ∈ (w.loots l).items,
      getsRoll store w.group info i = true → i.tracked = true))
  | .storeLootItem _ _ _ _ => inferInstanceAs (Decidable (_ = true → _ = true))
  | .masterGive l slot _ _ _ => inferInstanceAs
      (Decidable (_ = _ → _ = true → ∀ i ∈ (w.loots l).items[slot]?,
        i.freeforall = false ∧ i.isLooted = false ∧ i.tracked = true))
  | .clearLoot _ => isTrue trivial
  | .lootMoney _ => isTrue trivial
  | .vote _ _ _ _ => isTrue trivial
  | .endRoll _ _ => isTrue trivial
  | .addMember _ => isTrue trivial
  | .login _ => isTrue trivial
  | .logout _ => isTrue trivial
  | .removeMember _ _ _ _ _ => isTrue trivial

instance CountOk.decidable {store : TemplateStore} {w : LootWorld} (e : LootEvent) :
    Decidable (CountOk store w e) :=
  inferInstanceAs (Decidable (GiveOk store w e ∧ TrackedOk store w e))

def sampleEmptied : List LootEvent := sampleTakes ++ [LootEvent.lootMoney 0]

theorem loot_count_sample : (Admitted (LootWorld.step sampleStore) (CountOk sampleStore) {}
      sampleEmptied) ∧
    ((sampleEmptied.foldl (LootWorld.step sampleStore) {}).loots 0).unlootedCount.toNat =
      ((sampleEmptied.foldl (LootWorld.step sampleStore) {}).loots 0).outstanding ∧
    (((sampleEmptied.foldl (LootWorld.step sampleStore) {}).loots 0).isLooted = true ↔
      ((sampleEmptied.foldl (LootWorld.step sampleStore) {}).loots 0).gold = 0 ∧
      ((sampleEmptied.foldl (LootWorld.step sampleStore) {}).loots 0).outstanding = 0) :=
  ⟨by decide, loot_count (Admitted.run (by decide)) 0⟩

/-- One conditional item stored for both players costs two units. -/
theorem loot_undercount : ¬ ∀ es : List LootEvent,
    ((es.foldl (LootWorld.step sampleStore) {}).loots 0).unlootedCount.toNat =
      ((es.foldl (LootWorld.step sampleStore) {}).loots 0).outstanding := by
  intro h
  have hlow := h [sampleFill, .storeLootItem 0 1 1 true, .storeLootItem 0 1 2 true]
  revert hlow
  decide

end SkyfireBG
