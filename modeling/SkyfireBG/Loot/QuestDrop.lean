import SkyfireBG.Loot.Includes

/-!
# SkyfireBG.Loot.QuestDrop

`HasQuestDrop`, and the entries that need a quest which `Process` can add.

* `hasQuestDrop_iff`         — it looks for an entry that needs a quest, whatever its chance and modes.
* `includesQuest_of_process` — `Process` adds only what it finds.
* `mayDrop_adds`             — outcomes with which an entry is added that may drop.
* `hasQuestDrop_process`     — the prediction and the processing of a template.
-/

namespace SkyfireBG

section Definitions

variable (store : LootTemplateMap)

def LootGroup.hasQuestDrop (group : LootGroup) : Bool :=
  (group.explicitlyChanced.any fun item => item.needsQuest) ||
    group.equalChanced.any fun item => item.needsQuest

/-- One of the entries in `HasQuestDrop`; nothing is looked at once a drop is found. -/
def questDropEntry (rec : LootTemplate → Nat → Option Bool) (found : Bool) (item : LootStoreRow) :
    Option Bool :=
  if found then some true
  else if item.mincountOrRef < 0 then
    match store.find? item.mincountOrRef.natAbs with
    | none => some false
    | some referenced => rec referenced item.group
  else some item.needsQuest

/-- `HasQuestDrop` of a group that is referred to. -/
def LootTemplate.groupQuestDrop (template : LootTemplate) (groupId : Nat) : Bool :=
  (template.groups[groupId - 1]?).elim false LootGroup.hasQuestDrop

def LootTemplate.hasQuestDrop : Nat → LootTemplate → Nat → Option Bool
  | 0, template, groupId => if groupId ≠ 0 then some (template.groupQuestDrop groupId) else none
  | depth + 1, template, groupId =>
    if groupId ≠ 0 then some (template.groupQuestDrop groupId)
    else
      (template.entries.foldlM (questDropEntry store (LootTemplate.hasQuestDrop depth)) false).map
        fun found => found || template.groups.any LootGroup.hasQuestDrop

def IncludesQuest (template : LootTemplate) (groupId : Nat) : Prop :=
  ∃ item, item.needsQuest = true ∧ Includes store template groupId item

end Definitions

def Takes (c : LootContext) (item : LootStoreRow) : Prop :=
  item.lootmode &&& c.lootMode = item.lootmode ∧ (item.roll (c.drawing fun _ => {}) {}).1 = true

/-- Some roll selects the entry, or none of the explicitly chanced ones and it is equal-chanced. -/
def LootGroup.MayAdd (c : LootContext) (group : LootGroup) (item : LootStoreRow) : Prop :=
  Enabled c item ∧ group.all.length < 256 ∧ ∃ random : LootRandom,
    (∃ rest, rollExplicit (roundSingle random.chance) group.explicitlyChanced = item :: rest) ∨
      rollExplicit (roundSingle random.chance) group.explicitlyChanced = [] ∧
        item ∈ group.equalChanced

/-- An entry that is included in a template, or in one group of it, by what may be taken. -/
inductive MayDrop (c : LootContext) : LootTemplate → Nat → LootStoreRow → Prop where
  | plain {template item} : item ∈ template.entries → ¬item.mincountOrRef < 0 → Takes c item →
      MayDrop c template 0 item
  | group {template group item} : group ∈ template.groups → LootGroup.MayAdd c group item →
      MayDrop c template 0 item
  | groupId {template group item groupId} : groupId ≠ 0 →
      template.groups[groupId - 1]? = some group → LootGroup.MayAdd c group item →
      MayDrop c template groupId item
  | reference {template ref referenced item} : ref ∈ template.entries → ref.mincountOrRef < 0 →
      c.references.find? ref.mincountOrRef.natAbs = some referenced → Takes c ref →
      0 < ⌊roundSingle (ref.maxcount * c.referencedAmount)⌋₊ → MayDrop c referenced ref.group item →
      MayDrop c template 0 item

def LootProcess.Without (s : LootProcess) (item : LootStoreRow) : Prop :=
  ∀ i ∈ s.loot.items, i.itemid ≠ item.itemid

variable {c : LootContext} {store : LootTemplateMap} {template : LootTemplate} {group : LootGroup}
variable {item : LootStoreRow} {s s' : LootProcess} {depth groupId k n : Nat} {found : Bool}

/-! ## HasQuestDrop -/

theorem group_hasQuestDrop_iff :
    group.hasQuestDrop = true ↔ ∃ item ∈ group.all, item.needsQuest = true := by
  simp [LootGroup.hasQuestDrop, LootGroup.all, or_and_right, exists_or]

theorem groupQuestDrop_iff (h : groupId ≠ 0) :
    template.groupQuestDrop groupId = true ↔ IncludesQuest store template groupId := by
  unfold LootTemplate.groupQuestDrop
  constructor
  · intro hfound
    cases hgroup : template.groups[groupId - 1]? with
    | none =>
      rw [hgroup] at hfound
      cases hfound
    | some group =>
      rw [hgroup, Option.elim_some, group_hasQuestDrop_iff] at hfound
      obtain ⟨item, hitem, hquest⟩ := hfound
      exact ⟨item, hquest, .groupId h hgroup hitem⟩
  · rintro ⟨item, hquest, hincludes⟩
    cases hincludes with
    | plain => exact absurd rfl h
    | group => exact absurd rfl h
    | groupId _ hgroup hitem =>
      rw [hgroup, Option.elim_some, group_hasQuestDrop_iff]
      exact ⟨item, hitem, hquest⟩
    | reference => exact absurd rfl h

def EntryQuest (store : LootTemplateMap) (item : LootStoreRow) : Prop :=
  if item.mincountOrRef < 0 then
    ∃ referenced, store.find? item.mincountOrRef.natAbs = some referenced ∧
      IncludesQuest store referenced item.group
  else item.needsQuest = true

theorem includesQuest_iff : IncludesQuest store template 0 ↔
    (∃ item ∈ template.entries, EntryQuest store item) ∨
      ∃ group ∈ template.groups, ∃ item ∈ group.all, item.needsQuest = true := by
  constructor
  · rintro ⟨item, hquest, hincludes⟩
    cases hincludes with
    | plain hitem hplain =>
      refine .inl ⟨item, hitem, ?_⟩
      rwa [EntryQuest, if_neg hplain]
    | group hgroup hitem => exact .inr ⟨_, hgroup, item, hitem, hquest⟩
    | groupId hne => exact absurd rfl hne
    | reference href hneg hfind hincludes =>
      refine .inl ⟨_, href, ?_⟩
      rw [EntryQuest, if_pos hneg]
      exact ⟨_, hfind, item, hquest, hincludes⟩
  · rintro (⟨item, hitem, hentry⟩ | ⟨group, hgroup, item, hitem, hquest⟩)
    · unfold EntryQuest at hentry
      split_ifs at hentry with hneg
      · obtain ⟨referenced, hfind, other, hquest, hincludes⟩ := hentry
        exact ⟨other, hquest, .reference hitem hneg hfind hincludes⟩
      · exact ⟨item, hentry, .plain hitem hneg⟩
    · exact ⟨item, hquest, .group hgroup hitem⟩

theorem questDropEntry_iff {rec : LootTemplate → Nat → Option Bool} {found' : Bool}
    (hrec : ∀ template groupId found, rec template groupId = some found →
      (found = true ↔ IncludesQuest store template groupId))
    (hs : questDropEntry store rec found item = some found') :
    found' = true ↔ found = true ∨ EntryQuest store item := by
  cases found with
  | true =>
    cases hs
    simp
  | false =>
    rw [questDropEntry, if_neg Bool.false_ne_true] at hs
    rw [or_iff_right Bool.false_ne_true]
    unfold EntryQuest
    split_ifs at hs ⊢ with hneg
    · cases hfind : store.find? item.mincountOrRef.natAbs with
      | none =>
        rw [hfind] at hs
        simp [← Option.some.inj hs]
      | some referenced =>
        rw [hfind] at hs
        simp [hrec _ _ _ hs]
    · rw [← Option.some.inj hs]

theorem questDropEntries_iff {rec : LootTemplate → Nat → Option Bool} {found' : Bool}
    {entries : List LootStoreRow}
    (hrec : ∀ template groupId found, rec template groupId = some found →
      (found = true ↔ IncludesQuest store template groupId))
    (hs : entries.foldlM (questDropEntry store rec) found = some found') :
    found' = true ↔ found = true ∨ ∃ item ∈ entries, EntryQuest store item := by
  induction entries generalizing found with
  | nil =>
    cases hs
    simp
  | cons item entries ih =>
    rw [List.foldlM_cons] at hs
    obtain ⟨t, ht, hrest⟩ := Option.bind_eq_some_iff.mp hs
    rw [ih hrest, questDropEntry_iff hrec ht, List.exists_mem_cons_iff, or_assoc]

/-- `HasQuestDrop` looks for an included entry that needs a quest. -/
theorem hasQuestDrop_iff (h : template.hasQuestDrop store depth groupId = some found) :
    found = true ↔ IncludesQuest store template groupId := by
  induction depth generalizing template groupId found with
  | zero =>
    unfold LootTemplate.hasQuestDrop at h
    split_ifs at h with hgroup
    rw [← Option.some.inj h]
    exact groupQuestDrop_iff hgroup
  | succ depth ih =>
    unfold LootTemplate.hasQuestDrop at h
    split_ifs at h with hgroup
    · rw [← Option.some.inj h]
      exact groupQuestDrop_iff hgroup
    · obtain ⟨found', hfold, rfl⟩ := Option.map_eq_some_iff.mp h
      rw [not_not.mp hgroup, includesQuest_iff, Bool.or_eq_true,
        questDropEntries_iff (fun _ _ _ hrec => ih hrec) hfold, List.any_eq_true]
      simp only [Bool.false_eq_true, false_or, group_hasQuestDrop_iff]

/-- `HasQuestDrop` of the template of a store with a number. -/
def questDropReference (store : LootTemplateMap) (depth id : Nat) (_ : Unit) : Option Bool :=
  (store.find? id).elim (some false) fun template => template.hasQuestDrop store depth 0

theorem hasQuestDrop_group (h : groupId ≠ 0) :
    template.hasQuestDrop store depth groupId = some (template.groupQuestDrop groupId) := by
  cases depth <;> simp [LootTemplate.hasQuestDrop, h]

theorem hasQuestDrop_ne_none (h : ∀ id ∈ template.references (fun _ => true) store,
      questDropReference store depth id () ≠ none) :
    template.hasQuestDrop store (depth + 1) groupId ≠ none := by
  by_cases hgroup : groupId ≠ 0
  · rw [hasQuestDrop_group hgroup]
    exact Option.some_ne_none _
  rw [LootTemplate.hasQuestDrop, if_neg hgroup]
  refine Option.map_eq_none_iff.not.mpr (foldlM_ne_none fun item hitem found => ?_)
  unfold questDropEntry
  split_ifs with hfound hneg
  · exact Option.some_ne_none _
  · cases hfind : store.find? item.mincountOrRef.natAbs with
    | none => exact Option.some_ne_none _
    | some referenced =>
      by_cases hwhole : item.group = 0
      · have hid := h _ (LootTemplateMap.mem_references.mpr
          ⟨⟨item, hitem, hneg, hwhole, rfl, rfl⟩, referenced, hfind⟩)
        rw [questDropReference, hfind] at hid
        rwa [hwhole]
      · simp only [hasQuestDrop_group hwhole]
        exact Option.some_ne_none _
  · exact Option.some_ne_none _

theorem hasQuestDrop_deeper (h : template.hasQuestDrop store depth groupId = some found) :
    template.hasQuestDrop store (depth + 1) groupId = some found := by
  induction depth generalizing template groupId found with
  | zero =>
    by_cases hgroup : groupId ≠ 0
    · rwa [hasQuestDrop_group hgroup] at h ⊢
    · simp [LootTemplate.hasQuestDrop, hgroup] at h
  | succ depth ih =>
    by_cases hgroup : groupId ≠ 0
    · rwa [hasQuestDrop_group hgroup] at h ⊢
    · rw [LootTemplate.hasQuestDrop, if_neg hgroup] at h ⊢
      obtain ⟨found', hfold, hfound'⟩ := Option.map_eq_some_iff.mp h
      have hdeeper : template.entries.foldlM
          (questDropEntry store (LootTemplate.hasQuestDrop store (depth + 1))) false = some found' := by
        refine foldlM_mono (fun item _ found found' hs => ?_) hfold
        unfold questDropEntry at hs ⊢
        split_ifs at hs ⊢
        · exact hs
        · cases hfind : store.find? item.mincountOrRef.natAbs with
          | none => rwa [hfind] at hs
          | some referenced =>
            rw [hfind] at hs
            exact ih hs
        · exact hs
      rw [hdeeper, Option.map_some, hfound']

theorem hasQuestDrop_unfolds :
    Unfolds (LootTemplateMap.refs (fun _ => true) store) (questDropReference store) :=
  .lookup (fun _ _ _ => rfl) (fun _ => rfl) hasQuestDrop_deeper fun h _ =>
    hasQuestDrop_ne_none fun id hid => h id hid ()

/-- Where no references lead in a circle `HasQuestDrop` returns. -/
theorem hasQuestDrop_ends (h : Acyclic (LootTemplateMap.RefersTo (fun _ => true) store)) :
    ∃ depth found, template.hasQuestDrop store depth groupId = some found := by
  obtain ⟨n, hn⟩ := hasQuestDrop_unfolds.common (template.references (fun _ => true) store)
    fun id _ => hasQuestDrop_unfolds.ends (LootTemplateMap.refs_wellFounded h) id
  exact ⟨n + 1, Option.ne_none_iff_exists'.mp (hasQuestDrop_ne_none fun id hid => hn id hid ())⟩

theorem addItem_questItems_eq (h : item.needsQuest = false) :
    (s.addItem c item).loot.questItems = s.loot.questItems := by
  simp only [LootProcess.addItem, Loot.addItem, h, Bool.false_eq_true, if_false]
  split_ifs <;> rfl

/-- What needs a quest is added only where `HasQuestDrop` finds it. -/
theorem includesQuest_of_process (hs : template.process c depth groupId s = some s')
    (hnew : s'.loot.questItems ≠ s.loot.questItems) :
    IncludesQuest c.references template groupId := by
  by_contra hnone
  refine hnew (process_invariant (I := fun t => t.loot.questItems = s.loot.questItems)
    (fun _ h => h) (fun item hincludes t ht => ?_) hs rfl)
  rw [addItem_questItems_eq (Bool.eq_false_of_not_eq_true fun hquest => hnone ⟨item, hquest, hincludes⟩),
    ht]

section Adds

variable {outcomes : Nat → LootRandom} {last : LootRandom} {other entry : LootStoreRow}

theorem outcomes_until (outcomes : Nat → LootRandom) (k : Nat) (last : LootRandom) :
    ∃ outcomes' : Nat → LootRandom, (∀ n < k, outcomes' n = outcomes n) ∧
      ∀ n, k ≤ n → outcomes' n = last :=
  ⟨fun n => if n < k then outcomes n else last, fun _ hn => if_pos hn,
    fun _ hn => if_neg (not_lt.mpr hn)⟩

theorem takes_roll (h : Takes c item) (hlucky : (c.outcomes s.drawn).chance = 0) :
    (item.roll c s).1 = true := by
  have htaken := h.2
  unfold LootStoreRow.roll at htaken ⊢
  by_cases hsure : item.chance ≥ 100
  · rw [if_pos hsure]
  · rw [if_neg hsure] at htaken ⊢
    rw [hlucky]
    rwa [show ((c.drawing fun _ => {}).outcomes _).chance = 0 from LootRandom.chance_least] at htaken

/-- The least of all rolls takes what may be taken. -/
theorem takes_least {outcomes : Nat → LootRandom} (h : Takes c item)
    (hlast : ∀ n, s.drawn ≤ n → outcomes n = {}) :
    Takes (c.drawing outcomes) item ∧ (item.roll (c.drawing outcomes) s).1 = true := by
  have hlucky : ((c.drawing outcomes).outcomes s.drawn).chance = 0 := by
    rw [show (c.drawing outcomes).outcomes s.drawn = {} from hlast _ le_rfl,
      LootRandom.chance_least]
  exact ⟨h, takes_roll (c := c.drawing outcomes) h hlucky⟩

theorem addItem_quest (h : item.needsQuest = true) : (s.addItem c item).loot.questItems ≠ [] := by
  simp only [LootProcess.addItem, Loot.addItem, h, if_true]
  split_ifs with hroom
  · exact List.append_ne_nil_of_right_ne_nil _ (List.cons_ne_nil _ _)
  · intro hnil
    rw [hnil] at hroom
    exact hroom (by decide)

theorem addItem_keeps_quest (h : s.loot.questItems ≠ []) :
    (s.addItem c item).loot.questItems ≠ [] := by
  cases hquest : item.needsQuest with
  | true => exact addItem_quest hquest
  | false => rwa [addItem_questItems_eq hquest]

theorem addItem_without (honly : other.itemid = item.itemid → other.needsQuest = true)
    (h : s.Without item) : (s.addItem c other).Without item := by
  by_cases hquest : other.needsQuest = true
  · simp only [LootProcess.Without, LootProcess.addItem, Loot.addItem, if_pos hquest]
    split_ifs <;> exact h
  by_cases hroom : s.loot.items.length < MAX_NR_LOOT_ITEMS
  · simp only [LootProcess.Without, LootProcess.addItem, Loot.addItem, if_neg hquest, if_pos hroom]
    intro i hi
    rcases List.mem_append.mp hi with hi | hi
    · exact h i hi
    · rw [List.mem_singleton.mp hi]
      exact fun heq => hquest (honly heq)
  · simp only [LootProcess.Without, LootProcess.addItem, Loot.addItem, if_neg hquest, if_neg hroom]
    exact h

theorem not_isDuplicate (h : s.Without item) : isDuplicate c s.loot item = false := by
  have hzero : (s.loot.items.countP fun i => i.itemid = item.itemid) = 0 := by
    refine List.countP_eq_zero.mpr fun i hi heq => h i hi ?_
    simpa using heq
  unfold isDuplicate
  cases c.items item.itemid with
  | none => rfl
  | some proto => simp [hzero]

theorem processEntry_keeps_quest (hs : processEntry c (LootTemplate.process c depth) s item = some s')
    (h : s.loot.questItems ≠ []) : s'.loot.questItems ≠ [] := by
  have hitem : item ∈ ({ entries := [item] } : LootTemplate).entries := List.mem_singleton_self item
  exact processEntry_keeps (I := fun t => t.loot.questItems ≠ []) hitem (fun _ h => h)
    (fun _ _ _ h => addItem_keeps_quest h)
    (fun _ _ _ _ hrec _ h => process_invariant (I := fun t => t.loot.questItems ≠ []) (fun _ h => h)
      (fun _ _ _ h => addItem_keeps_quest h) hrec h) h hs

theorem groups_keep_quest {groups : List LootGroup} (h : s.loot.questItems ≠ []) :
    (groups.foldl (fun s group => group.process c s) s).loot.questItems ≠ [] :=
  groups_keep (I := fun t => t.loot.questItems ≠ []) (fun _ h => h)
    (fun _ _ _ _ _ h => addItem_keeps_quest h) h

theorem mayAdd_picks (h : group.MayAdd c item) (hwithout : s.Without item) : ∃ last : LootRandom,
    ∀ outcomes, (∀ n, s.drawn ≤ n → outcomes n = last) →
      (group.pick (c.drawing outcomes) s).1 = some item := by
  obtain ⟨henabled, hsize, random, hselect⟩ := h
  rw [LootGroup.all, List.length_append] at hsize
  have hduplicate : isDuplicate c s.loot item = false := not_isDuplicate hwithout
  have hmode : item.lootmode &&& c.lootMode ≠ 0 := henabled
  have hmode' : ∀ outcomes, ¬item.lootmode &&& (c.drawing outcomes).lootMode = 0 := fun _ => hmode
  have hnew : ∀ outcomes, ¬isDuplicate (c.drawing outcomes) s.loot item = true := fun _ htrue =>
    Bool.false_ne_true (hduplicate.symm.trans htrue)
  have hsome : ¬(group.explicitlyChanced = [] ∧ group.equalChanced = []) := by
    rintro ⟨hexplicit, hequal⟩
    rw [hexplicit, hequal] at hselect
    simp [rollExplicit] at hselect
  obtain ⟨attempts, hattempts⟩ :
      ∃ n, group.explicitlyChanced.length + group.equalChanced.length = n + 1 := by
    refine ⟨_, (Nat.succ_pred_eq_of_ne_zero fun hnone => hsome ?_).symm⟩
    exact ⟨List.length_eq_zero_iff.mp (by omega), List.length_eq_zero_iff.mp (by omega)⟩
  rcases hselect with ⟨rest, hrolled⟩ | ⟨hrolled, hmem⟩
  · refine ⟨random, fun outcomes houtcomes => ?_⟩
    have hexplicit : group.explicitlyChanced ≠ [] := by
      rintro hnil
      rw [hnil] at hrolled
      cases hrolled
    have hattempt : groupAttempt (c.drawing outcomes) group.explicitlyChanced group.equalChanced s =
        .added item s.skip := by
      unfold groupAttempt
      rw [if_neg hexplicit, if_neg hexplicit,
        show (c.drawing outcomes).outcomes s.drawn = _ from houtcomes _ le_rfl, hrolled]
      have hnew' : ¬isDuplicate (c.drawing outcomes) s.skip.loot item = true := hnew outcomes
      dsimp only
      rw [if_neg (hmode' outcomes), if_neg hnew']
    rw [LootGroup.pick, Nat.mod_eq_of_lt hsize, hattempts, pickAttempts, if_neg hsome, hattempt]
  · obtain ⟨index, hindex, rfl⟩ := List.getElem_of_mem hmem
    refine ⟨{ random with number := index }, fun outcomes houtcomes => ?_⟩
    have hlast : ∀ n, s.drawn ≤ n →
        (c.drawing outcomes).outcomes n = { random with number := index } :=
      houtcomes
    obtain ⟨t, hattempt⟩ : ∃ t, groupAttempt (c.drawing outcomes) group.explicitlyChanced
        group.equalChanced s = .added group.equalChanced[index] t := by
      rw [groupAttempt_equal (by rw [hlast _ le_rfl]; exact hrolled)]
      have hdrawn : s.drawn ≤ (if group.explicitlyChanced = [] then s else s.skip).drawn ∧
          (if group.explicitlyChanced = [] then s else s.skip).loot = s.loot := by
        split_ifs
        · exact ⟨le_rfl, rfl⟩
        · exact ⟨Nat.le_succ _, rfl⟩
      generalize (if group.explicitlyChanced = [] then s else s.skip) = t at hdrawn
      unfold groupAttempt
      simp only [if_true, hlast _ hdrawn.1, Nat.mod_eq_of_lt hindex, List.getElem?_eq_getElem hindex]
      rw [if_neg (hmode' outcomes), hdrawn.2, if_neg (hnew outcomes)]
      exact ⟨_, rfl⟩
    rw [LootGroup.pick, Nat.mod_eq_of_lt hsize, hattempts, pickAttempts, if_neg hsome, hattempt]

theorem drawing_unfolds : Unfolds (LootTemplateMap.refs LootStoreRow.counted c.references)
    fun depth id (p : (Nat → LootRandom) × LootProcess) =>
      processReference (c.drawing p.1) depth id p.2 where
  deeper := fun h => process_unfolds.deeper h
  step := by
    rintro depth id h ⟨outcomes, s⟩
    have hrun : ∀ id' ∈ LootTemplateMap.refs LootStoreRow.counted (c.drawing outcomes).references id,
        ∀ s, processReference (c.drawing outcomes) depth id' s ≠ none :=
      fun id' hid' s => h id' hid' (outcomes, s)
    exact process_unfolds.step hrun s

theorem entries_end (template : LootTemplate)
    (hacyclic : Acyclic (LootTemplateMap.RefersTo LootStoreRow.counted c.references)) :
    ∃ N, ∀ m, N ≤ m → ∀ outcomes, ∀ entry ∈ template.entries, ∀ s,
      processEntry (c.drawing outcomes) (LootTemplate.process (c.drawing outcomes) m) s entry ≠ none := by
  obtain ⟨N, hN⟩ := drawing_unfolds.common (template.references LootStoreRow.counted c.references)
    fun id _ => drawing_unfolds.ends (LootTemplateMap.refs_wellFounded hacyclic) id
  refine ⟨N, fun m hm outcomes entry hentry s => processEntry_ends hentry fun id hid s => ?_⟩
  exact drawing_unfolds.enough hm (hN id hid (outcomes, s))

theorem processEntry_taken (rec : LootTemplate → Nat → LootProcess → Option LootProcess)
    (h : Takes c item) (hroll : (item.roll c s).1 = true) :
    processEntry c rec s item = if item.mincountOrRef < 0 then
      processReferenced c rec item (item.roll c s).2 else some ((item.roll c s).2.addItem c item) := by
  simp only [processEntry, h.1, ne_eq, not_true_eq_false, if_false, hroll, Bool.not_true,
    Bool.false_eq_true]

theorem entries_run {entries : List LootStoreRow}
    (hends : ∀ entry ∈ entries, ∀ s, processEntry c (LootTemplate.process c depth) s entry ≠ none)
    (hsub : entries ⊆ template.entries)
    (honly : ∀ other, Includes c.references template 0 other → other.itemid = item.itemid →
      other.needsQuest = true) (hwithout : s.Without item) :
    ∃ t, s.drawn ≤ t.drawn ∧ t.Without item ∧
      ∀ outcomes, (∀ n < t.drawn, outcomes n = c.outcomes n) →
        entries.foldlM (processEntry (c.drawing outcomes)
          (LootTemplate.process (c.drawing outcomes) depth)) s = some t := by
  obtain ⟨t, ht⟩ := Option.ne_none_iff_exists'.mp (foldlM_ne_none hends (s := s))
  refine ⟨t, ?_, ?_, fun outcomes hagree => ?_⟩
  · exact foldlM_invariant (I := fun u => s.drawn ≤ u.drawn) ht le_rfl
      fun entry _ u u' hu hrun => hu.trans (processEntry_drawn hrun)
  · refine foldlM_invariant (I := fun u => u.Without item) ht hwithout fun entry hentry u u' hu hrun => ?_
    exact processEntry_keeps (I := fun u => u.Without item) (hsub hentry) (fun _ h => h)
      (fun other hother u hu => addItem_without (honly other hother) hu)
      (fun _ _ _ _ hrec hadd hu => process_invariant (I := fun u => u.Without item) (fun _ h => h)
        hadd hrec hu) hu hrun
  · exact entries_local hagree (fun _ _ _ _ hrec hk => process_local hagree hrec hk) ht le_rfl

theorem process_from {before after : List LootStoreRow} {t u : LootProcess}
    (hends : ∀ entry ∈ template.entries, ∀ s,
      processEntry c (LootTemplate.process c depth) s entry ≠ none)
    (hentries : template.entries = before ++ entry :: after)
    (hbefore : before.foldlM (processEntry c (LootTemplate.process c depth)) s = some t)
    (hentry : processEntry c (LootTemplate.process c depth) t entry = some u)
    (hquest : u.loot.questItems ≠ []) :
    ∃ s', template.process c (depth + 1) 0 s = some s' ∧ s'.loot.questItems ≠ [] := by
  have hafter : ∀ other ∈ after, ∀ s, processEntry c (LootTemplate.process c depth) s other ≠ none := by
    intro other hother
    refine hends other ?_
    rw [hentries]
    exact List.mem_append_right _ (.tail _ hother)
  obtain ⟨v, hv⟩ := Option.ne_none_iff_exists'.mp (foldlM_ne_none hafter (s := u))
  have hfold : template.entries.foldlM (processEntry c (LootTemplate.process c depth)) s = some v := by
    rw [hentries, List.foldlM_append, hbefore, Option.bind_eq_bind, Option.bind_some,
      List.foldlM_cons, hentry]
    exact hv
  have hvquest : v.loot.questItems ≠ [] :=
    foldlM_invariant (I := fun w => w.loot.questItems ≠ []) hv hquest
      fun other _ w w' hw hrun => processEntry_keeps_quest hrun hw
  refine ⟨template.groups.foldl (fun s group => group.process c s) v, ?_, groups_keep_quest hvquest⟩
  rw [LootTemplate.process, if_neg (not_not.mpr rfl), hfold]
  rfl

/-- From any loot without the item, `Process` adds to the quest items with some outcomes that begin
as the given ones. -/
def CanAdd (c : LootContext) (template : LootTemplate) (groupId : Nat) (item : LootStoreRow)
    (depth : Nat) : Prop :=
  ∀ (outcomes : Nat → LootRandom) (s : LootProcess), s.Without item →
    ∃ outcomes', (∀ n < s.drawn, outcomes' n = outcomes n) ∧
      ∃ s', template.process (c.drawing outcomes') depth groupId s = some s' ∧
        s'.loot.questItems ≠ []

theorem plain_adds
    (hends : ∀ outcomes, ∀ entry ∈ template.entries, ∀ s, processEntry (c.drawing outcomes)
      (LootTemplate.process (c.drawing outcomes) depth) s entry ≠ none)
    (hitem : item ∈ template.entries) (hplain : ¬item.mincountOrRef < 0) (htakes : Takes c item)
    (hquest : item.needsQuest = true)
    (honly : ∀ other, Includes c.references template 0 other → other.itemid = item.itemid →
      other.needsQuest = true) : CanAdd c template 0 item (depth + 1) := by
  intro outcomes s hwithout
  obtain ⟨before, after, hentries⟩ := List.append_of_mem hitem
  have hsub : before ⊆ template.entries := hentries ▸ List.subset_append_left _ _
  obtain ⟨t, hst, ht, hrun⟩ := entries_run (c := c.drawing outcomes)
    (fun entry hentry => hends outcomes entry (hsub hentry)) hsub honly hwithout
  obtain ⟨outcomes', hagree, hlast⟩ := outcomes_until outcomes t.drawn {}
  refine ⟨outcomes', fun n hn => hagree n (hn.trans_le hst), ?_⟩
  obtain ⟨htakes', hroll⟩ := takes_least htakes hlast
  have hentry := processEntry_taken (LootTemplate.process (c.drawing outcomes') depth) htakes' hroll
  rw [if_neg hplain] at hentry
  exact process_from (hends outcomes') hentries (hrun outcomes' hagree) hentry
    (addItem_quest hquest)

theorem group_adds
    (hends : ∀ outcomes, ∀ entry ∈ template.entries, ∀ s, processEntry (c.drawing outcomes)
      (LootTemplate.process (c.drawing outcomes) depth) s entry ≠ none)
    (hgroup : group ∈ template.groups) (hadd : group.MayAdd c item)
    (hquest : item.needsQuest = true)
    (honly : ∀ other, Includes c.references template 0 other → other.itemid = item.itemid →
      other.needsQuest = true) : CanAdd c template 0 item (depth + 1) := by
  intro outcomes s hwithout
  obtain ⟨before, after, hgroups⟩ := List.append_of_mem hgroup
  obtain ⟨t, hst, ht, hrun⟩ := entries_run (c := c.drawing outcomes) (hends outcomes)
    (List.Subset.refl _) honly hwithout
  obtain ⟨u, hu⟩ : ∃ u,
      before.foldl (fun s group => group.process (c.drawing outcomes) s) t = u := ⟨_, rfl⟩
  have htu : t.drawn ≤ u.drawn := hu ▸ groups_drawn
  have hwithout' : u.Without item := by
    rw [← hu]
    refine groups_keep (I := fun u => u.Without item) (fun _ h => h)
      (fun _ hbefore other hother u hu => addItem_without (honly other (.group ?_ hother)) hu) ht
    rw [hgroups]
    exact List.mem_append_left _ hbefore
  obtain ⟨last, hpick⟩ := mayAdd_picks hadd hwithout'
  obtain ⟨outcomes', hagree, hlast'⟩ := outcomes_until outcomes u.drawn last
  have hbefore : before.foldl (fun s group => group.process (c.drawing outcomes') s) t = u :=
    (groups_local (c := c.drawing outcomes) hagree (congrArg LootProcess.drawn hu).le).trans hu
  have hadded : (group.process (c.drawing outcomes') u).loot.questItems ≠ [] := by
    rw [process_eq_pick, hpick outcomes' hlast']
    exact addItem_quest hquest
  refine ⟨outcomes', fun n hn => hagree n (hn.trans_le (hst.trans htu)),
    after.foldl (fun s group => group.process (c.drawing outcomes') s)
      (group.process (c.drawing outcomes') u), ?_, groups_keep_quest hadded⟩
  have hentries : template.entries.foldlM (processEntry (c.drawing outcomes')
      (LootTemplate.process (c.drawing outcomes') depth)) s = some t :=
    hrun outcomes' fun n hn => hagree n (hn.trans_le htu)
  rw [LootTemplate.process, if_neg (not_not.mpr rfl), hentries, Option.map_some, hgroups,
    List.foldl_append, List.foldl_cons, hbefore]

/-- The induction is on the way to the entry: what is before it runs as it did, and the outcomes from
there on are chosen. -/
theorem mayDrop_adds
    (hacyclic : Acyclic (LootTemplateMap.RefersTo LootStoreRow.counted c.references))
    (hmay : MayDrop c template groupId item) (hquest : item.needsQuest = true)
    (honly : ∀ other, Includes c.references template groupId other → other.itemid = item.itemid →
      other.needsQuest = true) :
    ∃ N, ∀ m, N ≤ m → CanAdd c template groupId item m := by
  induction hmay with
  | @plain template item hitem hplain htakes =>
    obtain ⟨N, hN⟩ := entries_end template hacyclic
    refine ⟨N + 1, fun m hm => ?_⟩
    obtain ⟨m, rfl⟩ := Nat.exists_eq_succ_of_ne_zero (by omega : m ≠ 0)
    exact plain_adds (hN m (by omega)) hitem hplain htakes hquest honly
  | @group template group item hgroup hadd =>
    obtain ⟨N, hN⟩ := entries_end template hacyclic
    refine ⟨N + 1, fun m hm => ?_⟩
    obtain ⟨m, rfl⟩ := Nat.exists_eq_succ_of_ne_zero (by omega : m ≠ 0)
    exact group_adds (hN m (by omega)) hgroup hadd hquest honly
  | @groupId template group item groupId hne hgroup hadd =>
    refine ⟨0, fun m _ outcomes s hwithout => ?_⟩
    obtain ⟨last, hpick⟩ := mayAdd_picks hadd hwithout
    obtain ⟨outcomes', hagree, hlast'⟩ := outcomes_until outcomes s.drawn last
    refine ⟨outcomes', hagree, _, process_group hne, ?_⟩
    rw [LootTemplate.processGroup, hgroup, Option.elim_some, process_eq_pick,
      hpick outcomes' hlast']
    exact addItem_quest hquest
  | @reference template ref referenced item href hneg hfind htakes hcount hmay ih =>
    obtain ⟨N, hN⟩ := entries_end template hacyclic
    obtain ⟨N', hN'⟩ := ih hquest fun other hother =>
      honly other (.reference href hneg hfind hother)
    refine ⟨max N N' + 1, fun m hm outcomes s hwithout => ?_⟩
    obtain ⟨m, rfl⟩ := Nat.exists_eq_succ_of_ne_zero (by omega : m ≠ 0)
    have hends := hN m (by omega)
    obtain ⟨before, after, hentries⟩ := List.append_of_mem href
    have hsub : before ⊆ template.entries := hentries ▸ List.subset_append_left _ _
    obtain ⟨t, hst, ht, hrun⟩ := entries_run (c := c.drawing outcomes)
      (fun entry hentry => hends outcomes entry (hsub hentry)) hsub honly hwithout
    obtain ⟨lucky, hagree, hlast⟩ := outcomes_until outcomes t.drawn {}
    obtain ⟨-, hroll⟩ := takes_least htakes hlast
    have hrolled : t.drawn ≤ (ref.roll (c.drawing lucky) t).2.drawn :=
      roll_keeps (I := fun u => t.drawn ≤ u.drawn) (fun _ h => Nat.le_succ_of_le h) le_rfl
    have hwithout' : (ref.roll (c.drawing lucky) t).2.Without item :=
      roll_keeps (I := fun u => u.Without item) (fun _ h => h) ht
    obtain ⟨outcomes', hagree', v, hv, hvquest⟩ := hN' m (by omega) lucky _ hwithout'
    have hbegin : ∀ n < t.drawn, outcomes' n = outcomes n := fun n hn =>
      (hagree' n (hn.trans_le hrolled)).trans (hagree n hn)
    have hsame : ref.roll (c.drawing outcomes') t = ref.roll (c.drawing lucky) t :=
      roll_local (c := c.drawing lucky) hagree' le_rfl
    have htakes' : Takes (c.drawing outcomes') ref := htakes
    obtain ⟨u, hu⟩ := Option.ne_none_iff_exists'.mp (hends outcomes' ref href t)
    have huquest : u.loot.questItems ≠ [] := by
      obtain ⟨n, hn⟩ := Nat.exists_eq_succ_of_ne_zero hcount.ne'
      have hrun' := hu
      rw [processEntry_taken _ htakes' (by rw [hsame]; exact hroll), if_pos hneg,
        processReferenced,
        show (c.drawing outcomes').references.find? ref.mincountOrRef.natAbs = _ from hfind] at hrun'
      simp only [show (c.drawing outcomes').referencedAmount = c.referencedAmount from rfl, hn,
        List.replicate_succ, List.foldlM_cons, hsame, hv, Option.bind_eq_bind,
        Option.bind_some] at hrun'
      exact foldlM_invariant (I := fun w => w.loot.questItems ≠ []) hrun' hvquest
        fun _ _ w w' hw hrec => process_invariant (I := fun w => w.loot.questItems ≠ [])
          (fun _ h => h) (fun _ _ _ h => addItem_keeps_quest h) hrec hw
    refine ⟨outcomes', fun n hn => hbegin n (hn.trans_le hst), ?_⟩
    exact process_from (hends outcomes') hentries (hrun outcomes' hbegin) hu huquest

theorem mayAdd_mem (h : group.MayAdd c item) : item ∈ group.all := by
  obtain ⟨-, -, random, ⟨rest, hrolled⟩ | ⟨-, hequal⟩⟩ := h
  · have hsuffix : rollExplicit (roundSingle random.chance) group.explicitlyChanced <:+ group.explicitlyChanced :=
      rollExplicit_suffix
    rw [hrolled] at hsuffix
    exact List.mem_append_left _ (hsuffix.subset List.mem_cons_self)
  · exact List.mem_append_right _ hequal

theorem MayDrop.includes (h : MayDrop c template groupId item) :
    Includes c.references template groupId item := by
  induction h with
  | plain hitem hplain _ => exact .plain hitem hplain
  | group hgroup hadd => exact .group hgroup (mayAdd_mem hadd)
  | groupId hne hgroup hadd => exact .groupId hne hgroup (mayAdd_mem hadd)
  | reference href hneg hfind _ _ _ ih => exact .reference href hneg hfind ih

end Adds

/-- `HasQuestDrop` finds the entries that need a quest, whatever their modes and chances.  With
references resolved in the same store, `Process` adds to the quest items only where one is found; and
for one that may drop there are outcomes with which it does. -/
theorem hasQuestDrop_process (c : LootContext) (template : LootTemplate) (groupId : Nat) :
    (∀ store, Acyclic (LootTemplateMap.RefersTo (fun _ => true) store) →
      ∃ depth found, template.hasQuestDrop store depth groupId = some found) ∧
    (∀ store depth found, template.hasQuestDrop store depth groupId = some found →
      (found = true ↔ IncludesQuest store template groupId)) ∧
    ∀ depth found, template.hasQuestDrop c.references depth groupId = some found →
      (∀ outcomes depth s s', template.process (c.drawing outcomes) depth groupId s = some s' →
        s'.loot.questItems ≠ s.loot.questItems → found = true) ∧
      (Acyclic (LootTemplateMap.RefersTo LootStoreRow.counted c.references) →
        ∀ item, item.needsQuest = true → MayDrop c template groupId item →
          (∀ other, Includes c.references template groupId other → other.itemid = item.itemid →
            other.needsQuest = true) →
          found = true ∧ ∃ outcomes depth s',
            template.process (c.drawing outcomes) depth groupId {} = some s' ∧
              s'.loot.questItems ≠ []) := by
  refine ⟨fun store h => hasQuestDrop_ends h, fun store depth found h => hasQuestDrop_iff h,
    fun depth found h => ⟨fun outcomes depth s s' hs hnew => ?_, fun hacyclic item hquest hmay honly => ?_⟩⟩
  · exact (hasQuestDrop_iff h).mpr (includesQuest_of_process (c := c.drawing outcomes) hs hnew)
  · refine ⟨(hasQuestDrop_iff h).mpr ⟨item, hquest, hmay.includes⟩, ?_⟩
    obtain ⟨N, hN⟩ := mayDrop_adds hacyclic hmay hquest honly
    have hwithout : ({} : LootProcess).Without item := fun i hi => nomatch hi
    obtain ⟨outcomes, -, s', hs, hadded⟩ := hN N le_rfl (fun _ => {}) {} hwithout
    exact ⟨outcomes, N, s', hs, hadded⟩

def certainGroup : LootGroup where
  explicitlyChanced :=
    [{ itemid := 1, chance := 100, mincountOrRef := 1, lootmode := 1, group := 1, maxcount := 1 },
     { itemid := 2, chance := 50, mincountOrRef := 1, lootmode := 1, group := 1, maxcount := 1,
       needsQuest := true }]

theorem pickAttempts_certain {rest equalDrops : List LootStoreRow} {other : LootStoreRow} {attempts : Nat}
    (hcertain : item.chance ≥ 100) (hnew : isDuplicate c s.loot item = false)
    (h : (pickAttempts c attempts (item :: rest) equalDrops s).1 = some other) : other = item := by
  induction attempts generalizing s with
  | zero => cases h
  | succ attempts ih =>
    have hsome : ¬(item :: rest = [] ∧ equalDrops = []) := fun hnone => List.cons_ne_nil _ _ hnone.1
    rw [pickAttempts, if_neg hsome, groupAttempt, if_neg (List.cons_ne_nil _ _), rollExplicit,
      if_pos (.inl hcertain), if_neg (List.cons_ne_nil _ _)] at h
    have hnew' : ¬isDuplicate c s.skip.loot item = true := fun htrue =>
      Bool.false_ne_true (hnew.symm.trans htrue)
    dsimp only at h
    by_cases hmode : item.lootmode &&& c.lootMode = 0
    · rw [if_pos hmode] at h
      exact ih (s := s.skip) hnew h
    · rw [if_neg hmode, if_neg hnew'] at h
      exact (Option.some.inj h).symm

theorem hasQuestDrop_certain : ¬ ∀ (items : TemplateStore) (references : LootTemplateMap)
    (template : LootTemplate), (∃ depth, template.hasQuestDrop references depth 0 = some true) ↔
      ∃ c : LootContext, c.items = items ∧ c.references = references ∧
        ∃ depth s', template.process c depth 0 {} = some s' ∧ s'.loot.questItems ≠ [] := by
  intro h
  obtain ⟨c, -, -, depth, s', hs, hadded⟩ :=
    (h (fun _ => none) ∅ { groups := [certainGroup] }).mp ⟨1, by decide +kernel⟩
  cases depth with
  | zero => cases hs
  | succ depth =>
    rw [LootTemplate.process, if_neg (not_not.mpr rfl)] at hs
    have hprocess : s' = certainGroup.process c {} := (Option.some.inj hs).symm
    rw [hprocess, process_eq_pick] at hadded
    cases hpick : (certainGroup.pick c {}).1 with
    | none =>
      rw [hpick, Option.elim_none, pick_loot] at hadded
      exact hadded rfl
    | some item =>
      have hitem := pickAttempts_certain (le_refl (100 : ℚ))
        (not_isDuplicate fun i hi => absurd hi List.not_mem_nil) hpick
      rw [hpick, Option.elim_some, hitem, addItem_questItems_eq rfl, pick_loot] at hadded
      exact hadded rfl

end SkyfireBG
