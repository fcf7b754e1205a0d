import SkyfireBG.Loot.Groups

/-!
# SkyfireBG.Loot.Includes

What `Process` adds, and what it depends on.

* `process_invariant` — what no included entry breaks holds after `Process`.
* `process_local`     — only the outcomes that are drawn matter.
-/

namespace SkyfireBG

/-- A template, or one group of it, includes an entry, itself or by what it refers to. -/
inductive Includes (store : LootTemplateMap) : LootTemplate → Nat → LootStoreRow → Prop where
  | plain {template item} : item ∈ template.entries → ¬item.mincountOrRef < 0 →
      Includes store template 0 item
  | group {template group item} : group ∈ template.groups → item ∈ LootGroup.all group →
      Includes store template 0 item
  | groupId {template group item groupId} : groupId ≠ 0 →
      template.groups[groupId - 1]? = some group → item ∈ LootGroup.all group →
      Includes store template groupId item
  | reference {template ref referenced item} : ref ∈ template.entries → ref.mincountOrRef < 0 →
      store.find? ref.mincountOrRef.natAbs = some referenced →
      Includes store referenced ref.group item → Includes store template 0 item

variable {c : LootContext} {template : LootTemplate} {group : LootGroup} {item : LootStoreRow}
variable {s s' : LootProcess} {depth groupId k : Nat}

section Invariant

variable {I : LootProcess → Prop}

def GroupAttempt.state : GroupAttempt → LootProcess
  | .added _ s => s
  | .rejected _ _ s => s

theorem groupAttempt_keeps {explicitDrops equalDrops : List LootStoreRow}
    (hskip : ∀ s, I s → I s.skip) (hrolled : I (if explicitDrops = [] then s else s.skip)) :
    I (groupAttempt c explicitDrops equalDrops s).state := by
  unfold groupAttempt
  generalize (if explicitDrops = [] then s else s.skip) = t at hrolled
  cases (if explicitDrops = [] then [] else rollExplicit (roundSingle (c.outcomes s.drawn).chance) explicitDrops)
    with
  | cons item rest =>
    dsimp only
    split_ifs <;> exact hrolled
  | nil =>
    dsimp only
    cases equalDrops[(c.outcomes t.drawn).number % equalDrops.length]? with
    | none => exact hrolled
    | some item =>
      dsimp only
      split_ifs <;> exact hskip t hrolled

theorem pickAttempts_keeps {attempts : Nat} {explicitDrops equalDrops : List LootStoreRow}
    (hskip : ∀ s, I s → I s.skip) (hI : I s) :
    I (pickAttempts c attempts explicitDrops equalDrops s).2 := by
  induction attempts generalizing explicitDrops equalDrops s with
  | zero => exact hI
  | succ attempts ih =>
    rw [pickAttempts]
    split_ifs
    · exact hI
    · have hstate : I (groupAttempt c explicitDrops equalDrops s).state := by
        refine groupAttempt_keeps hskip ?_
        split_ifs
        · exact hI
        · exact hskip s hI
      cases hattempt : groupAttempt c explicitDrops equalDrops s with
      | added item t => rwa [hattempt] at hstate
      | rejected explicitDrops' equalDrops' t =>
        rw [hattempt] at hstate
        exact ih hstate

theorem group_keeps (hskip : ∀ s, I s → I s.skip)
    (hadd : ∀ item ∈ group.all, ∀ s, I s → I (s.addItem c item)) (hI : I s) :
    I (group.process c s) := by
  rw [process_eq_pick]
  have hstate : I (group.pick c s).2 := pickAttempts_keeps hskip hI
  cases hpick : (group.pick c s).1 with
  | none => exact hstate
  | some item => exact hadd item (pick_eligible hpick).1 _ hstate

theorem groups_keep {groups : List LootGroup} (hskip : ∀ s, I s → I s.skip)
    (hadd : ∀ group ∈ groups, ∀ item ∈ group.all, ∀ s, I s → I (s.addItem c item)) (hI : I s) :
    I (groups.foldl (fun s group => group.process c s) s) := by
  induction groups generalizing s with
  | nil => exact hI
  | cons group groups ih =>
    have hfirst : I (group.process c s) := group_keeps hskip (hadd group List.mem_cons_self) hI
    exact ih (fun group hgroup => hadd group (.tail _ hgroup)) hfirst

theorem processGroup_keeps (hgroup : groupId ≠ 0) (hskip : ∀ s, I s → I s.skip)
    (hadd : ∀ item, Includes c.references template groupId item → ∀ s, I s → I (s.addItem c item))
    (hI : I s) : I (template.processGroup c groupId s) := by
  unfold LootTemplate.processGroup
  cases hfind : template.groups[groupId - 1]? with
  | none => exact hI
  | some group =>
    exact group_keeps hskip (fun item hitem => hadd item (.groupId hgroup hfind hitem)) hI

theorem roll_keeps (hskip : ∀ s, I s → I s.skip) (hI : I s) : I (item.roll c s).2 := by
  unfold LootStoreRow.roll
  by_cases hsure : item.chance ≥ 100
  · rwa [if_pos hsure]
  · rw [if_neg hsure]
    exact hskip s hI

theorem processEntry_keeps {rec : LootTemplate → Nat → LootProcess → Option LootProcess}
    (hitem : item ∈ template.entries) (hskip : ∀ s, I s → I s.skip)
    (hadd : ∀ item, Includes c.references template 0 item → ∀ s, I s → I (s.addItem c item))
    (hrec : ∀ referenced groupId s s', rec referenced groupId s = some s' →
      (∀ item, Includes c.references referenced groupId item → ∀ s, I s → I (s.addItem c item)) →
      I s → I s')
    (hI : I s) (hs : processEntry c rec s item = some s') : I s' := by
  have hrolled : I (item.roll c s).2 := roll_keeps hskip hI
  simp only [processEntry] at hs
  split_ifs at hs with hmode hroll hneg
  · cases hs
    exact hI
  · cases hs
    exact hrolled
  · unfold processReferenced at hs
    cases hfind : c.references.find? item.mincountOrRef.natAbs with
    | none =>
      rw [hfind] at hs
      cases hs
      exact hrolled
    | some referenced =>
      rw [hfind] at hs
      refine foldlM_invariant hs hrolled fun group hgroup s s' hI hs => ?_
      rw [(List.mem_replicate.mp hgroup).2] at hs
      exact hrec _ _ _ _ hs (fun item' hincludes => hadd item' (.reference hitem hneg hfind hincludes)) hI
  · cases hs
    exact hadd item (.plain hitem hneg) _ hrolled

/-- What no draw and no included entry breaks holds after `Process`. -/
theorem process_invariant (hskip : ∀ s, I s → I s.skip)
    (hadd : ∀ item, Includes c.references template groupId item → ∀ s, I s → I (s.addItem c item))
    (hs : template.process c depth groupId s = some s') (hI : I s) : I s' := by
  induction depth generalizing template groupId s s' with
  | zero =>
    unfold LootTemplate.process at hs
    split_ifs at hs with hgroup
    rw [← Option.some.inj hs]
    exact processGroup_keeps hgroup hskip hadd hI
  | succ depth ih =>
    unfold LootTemplate.process at hs
    split_ifs at hs with hgroup
    · rw [← Option.some.inj hs]
      exact processGroup_keeps hgroup hskip hadd hI
    · rw [not_not.mp hgroup] at hadd
      obtain ⟨t, hfold, rfl⟩ := Option.map_eq_some_iff.mp hs
      refine groups_keep hskip (fun group hgroup item hitem => hadd item (.group hgroup hitem)) ?_
      refine foldlM_invariant hfold hI fun item hitem s s' hI hs => ?_
      exact processEntry_keeps hitem hskip hadd (fun _ _ _ _ hrec hadd hI => ih hadd hrec hI) hI hs

end Invariant

theorem drawn_mono (hs : template.process c depth groupId s = some s') : s.drawn ≤ s'.drawn :=
  process_invariant (I := fun t => s.drawn ≤ t.drawn) (fun _ h => Nat.le_succ_of_le h)
    (fun _ _ _ h => Nat.le_succ_of_le h) hs le_rfl

theorem processEntry_drawn (hs : processEntry c (LootTemplate.process c depth) s item = some s') :
    s.drawn ≤ s'.drawn := by
  have hitem : item ∈ ({ entries := [item] } : LootTemplate).entries := List.mem_singleton_self item
  exact processEntry_keeps (I := fun t => s.drawn ≤ t.drawn) hitem (fun _ h => Nat.le_succ_of_le h)
    (fun _ _ _ h => Nat.le_succ_of_le h) (fun _ _ _ _ hrec _ h => h.trans (drawn_mono hrec)) le_rfl hs

theorem groups_drawn {groups : List LootGroup} :
    s.drawn ≤ (groups.foldl (fun s group => group.process c s) s).drawn :=
  groups_keep (I := fun t => s.drawn ≤ t.drawn) (fun _ h => Nat.le_succ_of_le h)
    (fun _ _ _ _ _ h => Nat.le_succ_of_le h) le_rfl

def LootContext.drawing (c : LootContext) (outcomes : Nat → LootRandom) : LootContext :=
  { c with outcomes := outcomes }

section Local

variable {outcomes : Nat → LootRandom} {explicitDrops equalDrops : List LootStoreRow}
variable (hagree : ∀ n < k, outcomes n = c.outcomes n)

include hagree

theorem addItem_local (hk : s.drawn < k) : s.addItem (c.drawing outcomes) item = s.addItem c item := by
  unfold LootProcess.addItem
  rw [show (c.drawing outcomes).outcomes s.drawn = c.outcomes s.drawn from hagree _ hk]
  rfl

theorem roll_local (hk : (item.roll c s).2.drawn ≤ k) :
    item.roll (c.drawing outcomes) s = item.roll c s := by
  unfold LootStoreRow.roll at hk ⊢
  by_cases hsure : item.chance ≥ 100
  · rw [if_pos hsure, if_pos hsure]
  · rw [if_neg hsure] at hk
    rw [if_neg hsure, if_neg hsure,
      show (c.drawing outcomes).outcomes s.drawn = c.outcomes s.drawn from hagree _ hk]
    rfl

theorem groupAttempt_local (hk : (groupAttempt c explicitDrops equalDrops s).state.drawn ≤ k) :
    groupAttempt (c.drawing outcomes) explicitDrops equalDrops s =
      groupAttempt c explicitDrops equalDrops s := by
  have hfirst : explicitDrops ≠ [] →
      s.drawn < (groupAttempt c explicitDrops equalDrops s).state.drawn := by
    intro hsome
    refine groupAttempt_keeps (I := fun t => s.drawn < t.drawn) (fun _ h => Nat.lt_succ_of_lt h) ?_
    rw [if_neg hsome]
    exact Nat.lt_succ_self _
  unfold groupAttempt at hk ⊢
  have hrolled : (if explicitDrops = [] then []
        else rollExplicit (roundSingle ((c.drawing outcomes).outcomes s.drawn).chance) explicitDrops) =
      if explicitDrops = [] then [] else rollExplicit (roundSingle (c.outcomes s.drawn).chance) explicitDrops := by
    split_ifs with hnone
    · rfl
    · rw [show (c.drawing outcomes).outcomes s.drawn = c.outcomes s.drawn from
        hagree _ ((hfirst hnone).trans_le hk)]
  rw [hrolled]
  generalize (if explicitDrops = [] then s else s.skip) = t at hk
  cases hcases : (if explicitDrops = [] then []
      else rollExplicit (roundSingle (c.outcomes s.drawn).chance) explicitDrops) with
  | cons item rest => rfl
  | nil =>
    rw [hcases] at hk
    dsimp only at hk ⊢
    by_cases hequal : equalDrops = []
    · rw [hequal]
      rfl
    have hindex := Nat.mod_lt (c.outcomes t.drawn).number (List.length_pos_iff.mpr hequal)
    have ht : t.drawn < k := by
      rw [List.getElem?_eq_getElem hindex] at hk
      dsimp only at hk
      split_ifs at hk <;> exact hk
    rw [show (c.drawing outcomes).outcomes t.drawn = c.outcomes t.drawn from hagree _ ht]
    rfl

theorem pickAttempts_local {attempts : Nat}
    (hk : (pickAttempts c attempts explicitDrops equalDrops s).2.drawn ≤ k) :
    pickAttempts (c.drawing outcomes) attempts explicitDrops equalDrops s =
      pickAttempts c attempts explicitDrops equalDrops s := by
  induction attempts generalizing explicitDrops equalDrops s with
  | zero => rfl
  | succ attempts ih =>
    rw [pickAttempts] at hk ⊢
    rw [pickAttempts]
    split_ifs at hk ⊢
    · rfl
    · have hattempt : (groupAttempt c explicitDrops equalDrops s).state.drawn ≤ k := by
        cases hcases : groupAttempt c explicitDrops equalDrops s with
        | added item t => rwa [hcases] at hk
        | rejected explicitDrops' equalDrops' t =>
          rw [hcases] at hk
          refine le_trans ?_ hk
          exact pickAttempts_keeps (I := fun u => t.drawn ≤ u.drawn)
            (fun _ h => Nat.le_succ_of_le h) le_rfl
      rw [groupAttempt_local hagree hattempt]
      cases hcases : groupAttempt c explicitDrops equalDrops s with
      | added item t => rfl
      | rejected explicitDrops' equalDrops' t =>
        rw [hcases] at hk
        exact ih hk

theorem group_local (hk : (group.process c s).drawn ≤ k) :
    group.process (c.drawing outcomes) s = group.process c s := by
  rw [process_eq_pick] at hk ⊢
  rw [process_eq_pick]
  have hpick : (group.pick c s).2.drawn ≤ k ∧
      ((group.pick c s).1 ≠ none → (group.pick c s).2.drawn < k) := by
    cases hcases : (group.pick c s).1 with
    | none =>
      rw [hcases] at hk
      exact ⟨hk, fun hfalse => absurd rfl hfalse⟩
    | some item =>
      rw [hcases] at hk
      exact ⟨Nat.le_of_succ_le hk, fun _ => hk⟩
  have hsame : group.pick (c.drawing outcomes) s = group.pick c s := pickAttempts_local hagree hpick.1
  rw [hsame]
  cases hcases : (group.pick c s).1 with
  | none => rfl
  | some item => exact addItem_local hagree (hpick.2 (by rw [hcases]; exact Option.some_ne_none _))

theorem groups_local {groups : List LootGroup}
    (hk : (groups.foldl (fun s group => group.process c s) s).drawn ≤ k) :
    groups.foldl (fun s group => group.process (c.drawing outcomes) s) s =
      groups.foldl (fun s group => group.process c s) s := by
  induction groups generalizing s with
  | nil => rfl
  | cons group groups ih =>
    rw [List.foldl_cons] at hk
    rw [List.foldl_cons, List.foldl_cons, group_local hagree (groups_drawn.trans hk), ih hk]

theorem processEntry_local {rec rec' : LootTemplate → Nat → LootProcess → Option LootProcess}
    (hmono : ∀ referenced group s s', rec referenced group s = some s' → s.drawn ≤ s'.drawn)
    (hrec : ∀ referenced group s s', rec referenced group s = some s' → s'.drawn ≤ k →
      rec' referenced group s = some s')
    (hs : processEntry c rec s item = some s') (hk : s'.drawn ≤ k) :
    processEntry (c.drawing outcomes) rec' s item = some s' := by
  by_cases hmode : item.lootmode &&& c.lootMode ≠ item.lootmode
  · rw [processEntry, if_pos hmode] at hs
    have hmode' : item.lootmode &&& (c.drawing outcomes).lootMode ≠ item.lootmode := hmode
    rwa [processEntry, if_pos hmode']
  simp only [processEntry, if_neg hmode] at hs
  have hroll : (item.roll c s).2.drawn ≤ s'.drawn := by
    split_ifs at hs
    · exact (congrArg LootProcess.drawn (Option.some.inj hs)).le
    · unfold processReferenced at hs
      split at hs
      · exact (congrArg LootProcess.drawn (Option.some.inj hs)).le
      · exact foldlM_invariant (I := fun t => (item.roll c s).2.drawn ≤ t.drawn) hs le_rfl
          fun group _ t t' ht hrec => ht.trans (hmono _ _ _ _ hrec)
    · exact (Nat.le_succ _).trans (congrArg LootProcess.drawn (Option.some.inj hs)).le
  have hsame := roll_local hagree (hroll.trans hk)
  have hmode' : ¬item.lootmode &&& (c.drawing outcomes).lootMode ≠ item.lootmode := hmode
  simp only [processEntry, if_neg hmode', hsame]
  split_ifs at hs ⊢
  · exact hs
  · unfold processReferenced at hs ⊢
    rw [show (c.drawing outcomes).references = c.references from rfl]
    cases hfind : c.references.find? item.mincountOrRef.natAbs with
    | none =>
      rw [hfind] at hs
      exact hs
    | some referenced =>
      rw [hfind] at hs
      exact foldlM_bounded LootProcess.drawn (fun _ _ t t' ht => hmono _ _ _ _ ht)
        (fun _ _ t t' ht => hrec _ _ _ _ ht) hs hk
  · rw [← Option.some.inj hs] at hk
    rw [addItem_local hagree hk]
    exact hs

theorem processGroup_local (hk : (template.processGroup c groupId s).drawn ≤ k) :
    template.processGroup (c.drawing outcomes) groupId s = template.processGroup c groupId s := by
  unfold LootTemplate.processGroup at hk ⊢
  cases hfind : template.groups[groupId - 1]? with
  | none => rfl
  | some group =>
    rw [hfind] at hk
    exact group_local hagree hk

theorem entries_local {entries : List LootStoreRow}
    (hrec : ∀ referenced group s s', LootTemplate.process c depth referenced group s = some s' →
      s'.drawn ≤ k → LootTemplate.process (c.drawing outcomes) depth referenced group s = some s')
    (hs : entries.foldlM (processEntry c (LootTemplate.process c depth)) s = some s')
    (hk : s'.drawn ≤ k) :
    entries.foldlM (processEntry (c.drawing outcomes)
      (LootTemplate.process (c.drawing outcomes) depth)) s = some s' := by
  refine foldlM_bounded LootProcess.drawn (fun item _ t t' ht => processEntry_drawn ht)
    (fun item _ t t' ht hk => ?_) hs hk
  exact processEntry_local hagree (fun _ _ _ _ h => drawn_mono h) hrec ht hk

theorem process_local (hs : template.process c depth groupId s = some s') (hk : s'.drawn ≤ k) :
    template.process (c.drawing outcomes) depth groupId s = some s' := by
  induction depth generalizing template groupId s s' with
  | zero =>
    unfold LootTemplate.process at hs ⊢
    split_ifs at hs ⊢
    rw [← Option.some.inj hs] at hk
    rw [processGroup_local hagree hk]
    exact hs
  | succ depth ih =>
    unfold LootTemplate.process at hs ⊢
    split_ifs at hs ⊢
    · rw [← Option.some.inj hs] at hk
      rw [processGroup_local hagree hk]
      exact hs
    · obtain ⟨t, hfold, rfl⟩ := Option.map_eq_some_iff.mp hs
      rw [entries_local hagree (fun _ _ _ _ hrec hk => ih hrec hk) hfold (groups_drawn.trans hk),
        Option.map_some, groups_local hagree hk]

end Local

end SkyfireBG
