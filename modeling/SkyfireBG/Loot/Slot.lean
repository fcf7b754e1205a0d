import SkyfireBG.Loot.Fill

/-!
# SkyfireBG.Loot.Slot

What `LootItemInSlot` finds, and the per-player lists it looks in.

* `lootItemInSlot_found` — the four ways in which an item is found.
* `Marked`               — every entry of a player for an item is looted.
* `fillLoop_list`        — the list a fill loop builds names each item at most once.
-/

namespace SkyfireBG

/-- The ways `LootItemInSlot` finds an item for player `guid`: by an open entry of the player's
quest, free-for-all or conditional list, or without an entry by the flag of the item itself. -/
inductive Loot.Found (loot : Loot) (slot guid : Nat) : SlotItem → Prop where
  | quest {k : Nat} {ql : List QuestItem} {q : QuestItem} {item : LootItem} :
      loot.playerQuestItems.find? guid = some ql → ql[k]? = some q → q.isLooted = false →
      loot.questItems[q.index]? = some item →
      Found loot slot guid { quest := true, index := q.index, item := item, qitem := some k }
  | ffa {k : Nat} {q : QuestItem} {item : LootItem} :
      loot.items[slot]? = some item → item.freeforall = true →
      loot.playerFFAItems.lookup guid slot = some (k, q) → q.isLooted = false →
      Found loot slot guid { quest := false, index := slot, item := item, ffaitem := some k }
  | conditional {k : Nat} {q : QuestItem} {item : LootItem} :
      loot.items[slot]? = some item → item.freeforall = false → item.conditions ≠ [] →
      loot.playerNonQuestNonFFAConditionalItems.lookup guid slot = some (k, q) →
      q.isLooted = false →
      Found loot slot guid { quest := false, index := slot, item := item, conditem := some k }
  | plain {item : LootItem} : loot.items[slot]? = some item → item.isLooted = false →
      Found loot slot guid { quest := false, index := slot, item := item }

theorem lootItemInSlot_found {loot : Loot} {slot guid : Nat} {s : SlotItem}
    (h : loot.lootItemInSlot slot guid = some s) : loot.Found slot guid s := by
  simp only [Loot.lootItemInSlot] at h
  split at h
  · split at h
    · cases h
    · rename_i ql hql
      split at h
      · cases h
      · rename_i q hq
        split at h
        · cases h
        · rename_i item hitem
          split at h
          · cases h
          · rename_i hl
            cases h
            exact .quest hql hq (by simpa using hl) hitem
  · rename_i item hitem
    split at h
    · rename_i hf
      split at h
      · rename_i k q hlk
        split at h
        · cases h
        · rename_i hl
          cases h
          exact .ffa hitem hf hlk (by simpa using hl)
      · split at h
        · cases h
        · rename_i hl
          cases h
          exact .plain hitem (by simpa using hl)
    · rename_i hf
      split at h
      · rename_i hc
        split at h
        · rename_i k q hlk
          split at h
          · cases h
          · rename_i hl
            cases h
            exact .conditional hitem (by simpa using hf) hc hlk (by simpa using hl)
        · split at h
          · cases h
          · rename_i hl
            cases h
            exact .plain hitem (by simpa using hl)
      · split at h
        · cases h
        · rename_i hl
          cases h
          exact .plain hitem (by simpa using hl)

/-- What `StoreLootItem` may hand out: found, and not blocked unless it is a quest item. -/
theorem storable_found {loot : Loot} {slot guid : Nat} {s : SlotItem}
    (h : loot.storable slot guid = some s) :
    loot.Found slot guid s ∧ (s.qitem = none → s.item.isBlocked = false) := by
  simp only [Loot.storable] at h
  split at h
  · cases h
  · rename_i s' hs
    split at h
    · cases h
    · rename_i hb
      cases h
      refine ⟨lootItemInSlot_found hs, fun hq => ?_⟩
      simpa [hq] using hb

/-! ## The lists of the players -/

namespace QuestItemMap

/-- All entries of player `guid` for item `index` are looted. -/
def Marked (m : QuestItemMap) (guid index : Nat) : Prop :=
  ∃ ql, OrdMap.find? m guid = some ql ∧ ∀ q ∈ ql, q.index = index → q.isLooted = true

def Distinct (m : QuestItemMap) : Prop :=
  ∀ guid ql, OrdMap.find? m guid = some ql → (ql.map QuestItem.index).Nodup

variable {m : QuestItemMap} {guid guid' index k : Nat} {q : QuestItem} {ql : List QuestItem}

theorem lookup_some (h : m.lookup guid index = some (k, q)) :
    ∃ ql, OrdMap.find? m guid = some ql ∧ ql[k]? = some q ∧ q.index = index := by
  simp only [lookup] at h
  split at h
  · cases h
  · rename_i ql hql
    split at h
    · cases h
    · rename_i j hj
      obtain ⟨e, he, heq⟩ := Option.map_eq_some_iff.mp h
      cases heq
      obtain ⟨hlt, hp, _⟩ := List.findIdx?_eq_some_iff_getElem.mp hj
      rw [List.getElem?_eq_getElem hlt] at he
      cases he
      exact ⟨ql, hql, List.getElem?_eq_getElem hlt, by simpa using hp⟩

theorem find?_markLooted (hf : OrdMap.find? m guid = some ql) :
    OrdMap.find? (m.markLooted guid k) guid' =
      if guid' = guid then some (ql.modify k (fun q => { q with isLooted := true }))
      else OrdMap.find? m guid' := by
  simp only [markLooted, hf, OrdMap.find?_set]

theorem map_index_modify : (ql.modify k (fun q => { q with isLooted := true })).map
    QuestItem.index = ql.map QuestItem.index := by
  induction ql generalizing k with
  | nil => simp
  | cons q ql ih =>
    cases k with
    | zero => rfl
    | succ k => simp only [List.modify_succ_cons, List.map_cons, ih]

theorem mem_modify {q' : QuestItem}
    (h : q' ∈ ql.modify k (fun q => { q with isLooted := true })) :
    q' ∈ ql ∨ q'.isLooted = true := by
  induction ql generalizing k with
  | nil => simp at h
  | cons q ql ih =>
    cases k with
    | zero =>
      rcases List.mem_cons.mp h with rfl | h
      · exact .inr rfl
      · exact .inl (.tail _ h)
    | succ k =>
      rcases List.mem_cons.mp h with rfl | h
      · exact .inl (.head _)
      · exact (ih h).imp (.tail _) id

theorem Distinct.markLooted (h : m.Distinct) (hf : OrdMap.find? m guid = some ql) :
    (m.markLooted guid k).Distinct := by
  intro guid' ql' hql'
  rw [find?_markLooted hf] at hql'
  split at hql'
  · cases hql'
    rw [map_index_modify]
    exact h guid ql hf
  · exact h guid' ql' hql'

theorem Marked.markLooted (h : m.Marked guid' index) (hf : OrdMap.find? m guid = some ql) :
    (m.markLooted guid k).Marked guid' index := by
  obtain ⟨ql', hql', hall⟩ := h
  by_cases hg : guid' = guid
  · subst hg
    cases hf.symm.trans hql'
    refine ⟨_, by rw [find?_markLooted hf, if_pos rfl], fun q hq hi => ?_⟩
    exact (mem_modify hq).elim (fun hm => hall q hm hi) id
  · exact ⟨ql', by rw [find?_markLooted hf, if_neg hg]; exact hql', hall⟩

theorem marked_markLooted (h : m.Distinct) (hf : OrdMap.find? m guid = some ql)
    (hk : ql[k]? = some q) : (m.markLooted guid k).Marked guid q.index := by
  refine ⟨_, by rw [find?_markLooted hf, if_pos rfl], ?_⟩
  have hnd := h guid ql hf
  clear h hf
  induction ql generalizing k with
  | nil => cases hk
  | cons e ql ih =>
    obtain ⟨hnot, hnd⟩ := List.nodup_cons.mp hnd
    cases k with
    | zero =>
      cases hk
      intro q' hq' hi
      rcases List.mem_cons.mp hq' with rfl | hq'
      · rfl
      · exact absurd (hi ▸ List.mem_map_of_mem hq') hnot
    | succ k =>
      intro q' hq' hi
      rcases List.mem_cons.mp hq' with rfl | hq'
      · have hin : q.index ∈ ql.map QuestItem.index :=
          List.mem_map_of_mem (List.mem_of_getElem? hk)
        exact absurd (hi ▸ hin) hnot
      · exact ih hk hnd q' hq' hi

theorem Marked.entry (h : m.Marked guid q.index) (hf : OrdMap.find? m guid = some ql)
    (hk : ql[k]? = some q) : q.isLooted = true := by
  obtain ⟨ql', hql', hall⟩ := h
  cases hf.symm.trans hql'
  exact hall q (List.mem_of_getElem? hk) rfl

theorem Marked.keep (h : m.Marked guid' index) (hn : OrdMap.find? m guid = none) :
    (m.keep guid ql).Marked guid' index := by
  simp only [QuestItemMap.keep]
  split
  · exact h
  · obtain ⟨ql', hql', hall⟩ := h
    refine ⟨ql', ?_, hall⟩
    rw [OrdMap.find?_set, if_neg ?_]
    · exact hql'
    · rintro rfl
      rw [hn] at hql'
      cases hql'

theorem Distinct.keep (h : m.Distinct) (hnd : (ql.map QuestItem.index).Nodup) :
    (m.keep guid ql).Distinct := by
  simp only [QuestItemMap.keep]
  split
  · exact h
  · intro guid' ql' hql'
    rw [OrdMap.find?_set] at hql'
    split at hql'
    · cases hql'
      exact hnd
    · exact h guid' ql' hql'

end QuestItemMap

section FillLoop

variable {visit : LootItem → Visit} {full : Nat → Bool} {R : LootItem → LootItem → Prop}

/-- The list and the counter after the visit to item `n`. -/
def listAfter (v : Visit) (n : Nat) (ql : List QuestItem) : List QuestItem :=
  if v.listed then ql ++ [{ index := n }] else ql

def countAfter (v : Visit) (c : UInt8) : UInt8 := if v.counted then c + 1 else c

theorem fillLoop_cons {n : Nat} {i : LootItem} {items : List LootItem} {ql : List QuestItem}
    {c : UInt8} : fillLoop visit full n (i :: items) ql c =
      if (visit i).listed && full (listAfter (visit i) n ql).length then
        ((visit i).item :: items, listAfter (visit i) n ql, countAfter (visit i) c)
      else
        ((visit i).item :: (fillLoop visit full (n + 1) items (listAfter (visit i) n ql)
            (countAfter (visit i) c)).1,
          (fillLoop visit full (n + 1) items (listAfter (visit i) n ql)
            (countAfter (visit i) c)).2) := rfl

theorem fillLoop_items (hv : ∀ i, R i (visit i).item) (hr : ∀ i, R i i) (n : Nat)
    (items : List LootItem) (ql : List QuestItem) (c : UInt8) :
    List.Forall₂ R items (fillLoop visit full n items ql c).1 := by
  induction items generalizing n ql c with
  | nil => exact .nil
  | cons i items ih =>
    rw [fillLoop_cons]
    by_cases hstop : ((visit i).listed && full (listAfter (visit i) n ql).length) = true
    · rw [if_pos hstop]
      exact .cons (hv i) (List.forall₂_same.mpr (fun i _ => hr i))
    · rw [if_neg hstop]
      exact .cons (hv i) (ih _ _ _)

theorem listAfter_lt {v : Visit} {n : Nat} {ql : List QuestItem} (hlt : ∀ q ∈ ql, q.index < n) :
    ∀ q ∈ listAfter v n ql, q.index < n + 1 := by
  intro q hq
  simp only [listAfter] at hq
  split at hq
  · rcases List.mem_append.mp hq with hq | hq
    · exact Nat.lt_succ_of_lt (hlt q hq)
    · rw [List.mem_singleton.mp hq]
      exact Nat.lt_succ_self n
  · exact Nat.lt_succ_of_lt (hlt q hq)

theorem listAfter_nodup {v : Visit} {n : Nat} {ql : List QuestItem} (hlt : ∀ q ∈ ql, q.index < n)
    (hnd : (ql.map QuestItem.index).Nodup) :
    ((listAfter v n ql).map QuestItem.index).Nodup := by
  simp only [listAfter]
  split
  · rw [List.map_append]
    refine List.nodup_append.mpr ⟨hnd, by simp, ?_⟩
    intro a ha b hb hab
    obtain ⟨q, hq, rfl⟩ := List.mem_map.mp ha
    have hlt := hlt q hq
    rw [hab, show b = n by simpa using hb] at hlt
    exact Nat.lt_irrefl n hlt
  · exact hnd

theorem fillLoop_list (n : Nat) (items : List LootItem) (ql : List QuestItem) (c : UInt8)
    (hlt : ∀ q ∈ ql, q.index < n) (hnd : (ql.map QuestItem.index).Nodup) :
    ((fillLoop visit full n items ql c).2.1.map QuestItem.index).Nodup := by
  induction items generalizing n ql c with
  | nil => exact hnd
  | cons i items ih =>
    rw [fillLoop_cons]
    by_cases hstop : ((visit i).listed && full (listAfter (visit i) n ql).length) = true
    · rw [if_pos hstop]
      exact listAfter_nodup hlt hnd
    · rw [if_neg hstop]
      exact ih _ _ _ (listAfter_lt hlt) (listAfter_nodup hlt hnd)

end FillLoop

end SkyfireBG
