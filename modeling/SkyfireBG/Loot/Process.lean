import SkyfireBG.Lib.Float
import SkyfireBG.Lib.Unfold
import SkyfireBG.Loot.Fill

/-!
# SkyfireBG.Loot.Process

Loot templates: the rows of a loot table, `LootStoreItem::IsValid`, the groups and the entries of a
template, and `LootStore::LoadLootTable`.

Chances and rates are rational numbers, and what the code computes with them is rounded as it is there.
What is only logged (`Verify`, the reports on unused templates) is left out.
-/

namespace SkyfireBG

/-- A row of a `*_loot_template` table. -/
structure LootRow where
  entry : Nat
  item : Nat
  /-- What `GetFloat` reads. -/
  chanceOrQuestChance : ℚ
  lootmode : Nat
  groupid : Nat
  mincountOrRef : Int
  maxcount : Nat
deriving DecidableEq

/-- All of a `LootStoreItem`. -/
structure LootStoreRow extends LootStoreItem where
  /-- Of an item or of a reference. -/
  chance : ℚ
  /-- The least count of an item, or minus the template referred to. -/
  mincountOrRef : Int
  lootmode : Nat
  group : Nat
  maxcount : Nat
deriving DecidableEq

def LootStoreRow.ofRow (row : LootRow) : LootStoreRow where
  itemid := row.item
  chance := |row.chanceOrQuestChance|
  mincountOrRef := row.mincountOrRef
  lootmode := row.lootmode % 65536
  group := row.groupid % 128
  needsQuest := row.chanceOrQuestChance < 0
  maxcount := row.maxcount % 256

def LootStoreRow.isValid (items : TemplateStore) (item : LootStoreRow) : Bool :=
  if item.group ≥ 128 then false
  else if item.mincountOrRef = 0 then false
  else if 0 < item.mincountOrRef then
    if (items item.itemid).isNone then false
    else if item.chance = 0 ∧ item.group = 0 then false
    else if item.chance ≠ 0 ∧ item.chance < roundSingle (1 / 1000000) then false
    else decide (item.mincountOrRef ≤ item.maxcount)
  else item.needsQuest || decide (item.chance ≠ 0)

structure LootGroup where
  explicitlyChanced : List LootStoreRow := []
  equalChanced : List LootStoreRow := []
deriving DecidableEq

def LootGroup.addEntry (group : LootGroup) (item : LootStoreRow) : LootGroup :=
  if item.chance ≠ 0 then
    { group with explicitlyChanced := group.explicitlyChanced ++ [item] }
  else { group with equalChanced := group.equalChanced ++ [item] }

structure LootTemplate where
  entries : List LootStoreRow := []
  groups : List LootGroup := []
deriving DecidableEq

/-- `AddEntry`: only items are grouped. -/
def LootTemplate.addEntry (template : LootTemplate) (item : LootStoreRow) : LootTemplate :=
  if 0 < item.group ∧ 0 < item.mincountOrRef then
    let groups := template.groups ++ List.replicate (item.group - template.groups.length) ({} : LootGroup)
    { template with groups := groups.modify (item.group - 1) fun group => group.addEntry item }
  else { template with entries := template.entries ++ [item] }

abbrev LootTemplateMap := OrdMap Nat LootTemplate

/-- One row in `LoadLootTable`. -/
def loadLootRow (items : TemplateStore) (templates : LootTemplateMap) (row : LootRow) :
    LootTemplateMap :=
  let storeitem := LootStoreRow.ofRow row
  if storeitem.isValid items then
    templates.set row.entry (((templates.find? row.entry).getD {}).addEntry storeitem)
  else templates

def loadLootTable (items : TemplateStore) (rows : List LootRow) : LootTemplateMap :=
  rows.foldl (loadLootRow items) ∅

inductive LootStore where
  | creature
  | disenchant
  | fishing
  | gameobject
  | item
  | mail
  | milling
  | pickpocketing
  | prospecting
  | reference
  | skinning
  | spell
deriving DecidableEq

abbrev LootTables := LootStore → List LootRow

/-- `m_LootTemplates` of a store that has been loaded. -/
def LootTables.templates (items : TemplateStore) (tables : LootTables) (store : LootStore) :
    LootTemplateMap := loadLootTable items (tables store)

/-- `Process` goes into a reference as often as its `maxcount` says. -/
def LootStoreRow.counted (item : LootStoreRow) : Bool := 0 < item.maxcount

/-- The templates of a store that a template refers to as a whole, and not to one of their groups, by
entries that are taken. -/
def LootTemplate.references (takes : LootStoreRow → Bool) (store : LootTemplateMap)
    (template : LootTemplate) : List Nat :=
  ((template.entries.filter fun item => item.mincountOrRef < 0 ∧ item.group = 0 ∧ takes item).map
    fun item => item.mincountOrRef.natAbs).filter fun id => (store.find? id).isSome

namespace LootTemplateMap

variable {takes : LootStoreRow → Bool} {store : LootTemplateMap} {template : LootTemplate}
variable {id id' : Nat}

def RefersTo (takes : LootStoreRow → Bool) (store : LootTemplateMap) (id id' : Nat) : Prop :=
  ∃ template, store.find? id = some template ∧ id' ∈ template.references takes store

theorem mem_references : id ∈ template.references takes store ↔
    (∃ item ∈ template.entries, item.mincountOrRef < 0 ∧ item.group = 0 ∧ takes item = true ∧
      item.mincountOrRef.natAbs = id) ∧ ∃ template', store.find? id = some template' := by
  simp only [LootTemplate.references, List.mem_filter, List.mem_map, decide_eq_true_eq,
    Option.isSome_iff_exists, and_assoc]

/-- The templates that the one with the number `id` refers to. -/
def refs (takes : LootStoreRow → Bool) (store : LootTemplateMap) (id : Nat) : List Nat :=
  (store.find? id).elim [] (LootTemplate.references takes store)

theorem mem_refs : id' ∈ refs takes store id ↔ RefersTo takes store id id' := by
  unfold refs RefersTo
  cases store.find? id <;> simp

theorem refs_wellFounded (h : Acyclic (RefersTo takes store)) :
    WellFounded fun id' id => id' ∈ refs takes store id := by
  have heq : (fun id id' => id' ∈ refs takes store id) = RefersTo takes store := by
    funext id id'
    exact propext mem_refs
  have hacyclic : Acyclic fun id id' => id' ∈ refs takes store id := by
    rw [heq]
    exact h
  refine OrdMap.wellFounded (m := store) hacyclic fun id id' hid => ?_
  obtain ⟨template, hfind, hid'⟩ := mem_refs.mp hid
  obtain ⟨-, template', hfind'⟩ := mem_references.mp hid'
  exact ⟨⟨template, hfind⟩, template', hfind'⟩

theorem acyclic_of_all (h : Acyclic (RefersTo (fun _ => true) store)) :
    Acyclic (RefersTo takes store) := by
  intro id ls hpath
  refine h id ls (hpath.mono fun l _ hl => ?_)
  obtain ⟨template, hfind, hid⟩ := hl
  obtain ⟨⟨item, hitem, href, hwhole, -, heq⟩, hexists⟩ := mem_references.mp hid
  exact ⟨template, hfind, mem_references.mpr ⟨⟨item, hitem, href, hwhole, rfl, heq⟩, hexists⟩⟩

end LootTemplateMap

def LootStoreRow.Loaded (items : TemplateStore) (item : LootStoreRow) : Prop :=
  (∃ row, item = LootStoreRow.ofRow row) ∧ item.isValid items = true

theorem LootTemplate.mem_addEntry {template : LootTemplate} {item added : LootStoreRow}
    (h : item ∈ (template.addEntry added).entries) : item ∈ template.entries ∨ item = added := by
  unfold addEntry at h
  split_ifs at h
  · exact .inl h
  · rcases List.mem_append.mp h with h | h
    · exact .inl h
    · exact .inr (List.mem_singleton.mp h)

theorem loaded_entries (items : TemplateStore) (rows : List LootRow) (id : Nat)
    (template : LootTemplate) (hfind : (loadLootTable items rows).find? id = some template) :
    ∀ item ∈ template.entries, item.Loaded items := by
  have hload : ∀ (rows : List LootRow) (templates : LootTemplateMap),
      (∀ id template, templates.find? id = some template →
        ∀ item ∈ template.entries, item.Loaded items) →
      ∀ id template, (rows.foldl (loadLootRow items) templates).find? id = some template →
        ∀ item ∈ template.entries, item.Loaded items := by
    intro rows
    induction rows with
    | nil => exact fun _ h => h
    | cons row rows ih =>
      refine fun templates h => ih _ fun id template hfind item hitem => ?_
      unfold loadLootRow at hfind
      simp only at hfind
      split_ifs at hfind with hvalid
      · rw [OrdMap.find?_set] at hfind
        split_ifs at hfind with hid
        · cases hfind
          rcases LootTemplate.mem_addEntry hitem with hold | rfl
          · cases hprev : templates.find? row.entry with
            | none =>
              rw [hprev] at hold
              cases hold
            | some prev =>
              rw [hprev] at hold
              exact h _ prev hprev item hold
          · exact ⟨⟨row, rfl⟩, hvalid⟩
        · exact h id template hfind item hitem
      · exact h id template hfind item hitem
  exact hload rows ∅ (fun _ _ h => nomatch h) id template hfind

/-!
## Processing

`LootTemplate::Process` and `HasQuestDropForPlayer`, which go into the templates that are referred to.
Both are `none` where the given depth of references is exceeded.
-/

structure LootRandom where
  /-- The bits of `Random`, of which 52 are taken. -/
  bits : Nat := 0
  /-- `irand` and `urand`, of which the remainder is taken. -/
  number : Nat := 0
  suffix : LootDraw := {}

/-- `rand_chance`. -/
def LootRandom.chance (r : LootRandom) : ℚ := roundDouble ((r.bits % 2 ^ 52 : Nat) / 2 ^ 52 * 100)

@[simp] theorem LootRandom.chance_least : ({} : LootRandom).chance = 0 := by
  simp [LootRandom.chance]

/-- What is asked while a template is processed: items, rates, and the random outcomes in the order they
are drawn. -/
structure LootContext where
  items : TemplateStore
  references : LootTemplateMap
  /-- The rates that `qualityToRate` names, `RATE_DROP_ITEM_REFERENCED` and its `_AMOUNT`. -/
  qualityRate : Nat → ℚ := fun _ => 1
  referencedRate : ℚ := 1
  referencedAmount : ℚ := 1
  rate : Bool := true
  lootMode : Nat
  outcomes : Nat → LootRandom

structure LootProcess where
  loot : Loot := {}
  drawn : Nat := 0

section Definitions

variable (c : LootContext)

def LootProcess.skip (s : LootProcess) : LootProcess := { s with drawn := s.drawn + 1 }

/-- `Loot::AddItem`, with the count of the item drawn. -/
def LootProcess.addItem (s : LootProcess) (item : LootStoreRow) : LootProcess :=
  let mincount := item.mincountOrRef.toNat
  let random := c.outcomes s.drawn
  let count := mincount + random.number % (item.maxcount - mincount + 1)
  { loot := Loot.addItem c.items s.loot (item.toLootStoreItem, { random.suffix with count := count })
    drawn := s.drawn + 1 }

/-- `LootStoreItem::Roll`, and the state after it. -/
def LootStoreRow.roll (item : LootStoreRow) (s : LootProcess) : Bool × LootProcess :=
  if item.chance ≥ 100 then (true, s)
  else
    let modifier := if item.mincountOrRef < 0 then if c.rate then c.referencedRate else 1
      else match c.items item.itemid with
        | some proto => if c.rate then c.qualityRate proto.quality else 1
        | none => 1
    (decide (roundSingle (item.chance * modifier) > (c.outcomes s.drawn).chance), s.skip)

/-- The rest of the explicitly chanced entries from the selected one on; `roll` is what is left of
`Roll`. -/
def rollExplicit : ℚ → List LootStoreRow → List LootStoreRow
  | _, [] => []
  | roll, item :: rest =>
    let roll := roundSingle (roll - item.chance)
    if item.chance ≥ 100 ∨ roll < 0 then item :: rest else rollExplicit roll rest

def isDuplicate (loot : Loot) (item : LootStoreRow) : Bool :=
  match c.items item.itemid with
  | none => false
  | some proto =>
    let dropped := loot.items.countP fun i => i.itemid = item.itemid
    if proto.inventoryType = 0 then 3 ≤ dropped else 1 ≤ dropped

/-- The attempts of `LootGroup::Process` that are left, with the possible drops. -/
def processAttempts : Nat → List LootStoreRow → List LootStoreRow → LootProcess → LootProcess
  | 0, _, _, s => s
  | attempts + 1, explicitDrops, equalDrops, s =>
    if explicitDrops = [] ∧ equalDrops = [] then s
    else
      let rolled := if explicitDrops = [] then []
        else rollExplicit (roundSingle (c.outcomes s.drawn).chance) explicitDrops
      let s := if explicitDrops = [] then s else s.skip
      match rolled with
      | item :: rest =>
        if item.lootmode &&& c.lootMode = 0 then processAttempts attempts rolled equalDrops s
        else if isDuplicate c s.loot item then processAttempts attempts rest equalDrops s
        else s.addItem c item
      | [] =>
        let index := (c.outcomes s.drawn).number % equalDrops.length
        match equalDrops[index]? with
        | none => processAttempts attempts [] equalDrops s
        | some item =>
          if item.lootmode &&& c.lootMode = 0 then processAttempts attempts [] equalDrops s.skip
          else if isDuplicate c s.loot item then
            processAttempts attempts [] (equalDrops.eraseIdx index) s.skip
          else s.skip.addItem c item

/-- `LootGroup::Process`; the number of attempts has eight bits. -/
def LootGroup.process (group : LootGroup) (s : LootProcess) : LootProcess :=
  processAttempts c ((group.explicitlyChanced.length + group.equalChanced.length) % 256)
    group.explicitlyChanced group.equalChanced s

/-- The template that an entry refers to, as often as `maxcount` says; `rec` processes it. -/
def processReferenced (rec : LootTemplate → Nat → LootProcess → Option LootProcess)
    (item : LootStoreRow) (s : LootProcess) : Option LootProcess :=
  match c.references.find? item.mincountOrRef.natAbs with
  | none => some s
  | some referenced =>
    let maxcount := ⌊roundSingle (item.maxcount * c.referencedAmount)⌋₊
    (List.replicate maxcount item.group).foldlM (fun s group => rec referenced group s) s

/-- One of the entries in `Process`.  The search for duplicates has no effect, as it runs to the end of
the items. -/
def processEntry (rec : LootTemplate → Nat → LootProcess → Option LootProcess) (s : LootProcess)
    (item : LootStoreRow) : Option LootProcess :=
  if item.lootmode &&& c.lootMode ≠ item.lootmode then some s
  else
    let rolled := item.roll c s
    if !rolled.1 then some rolled.2
    else if item.mincountOrRef < 0 then processReferenced c rec item rolled.2
    else some (rolled.2.addItem c item)

/-- `Process` of a group that is referred to. -/
def LootTemplate.processGroup (template : LootTemplate) (groupId : Nat) (s : LootProcess) :
    LootProcess :=
  (template.groups[groupId - 1]?).elim s fun group => group.process c s

def LootTemplate.process : Nat → LootTemplate → Nat → LootProcess → Option LootProcess
  | 0, template, groupId, s => if groupId ≠ 0 then some (template.processGroup c groupId s) else none
  | depth + 1, template, groupId, s =>
    if groupId ≠ 0 then some (template.processGroup c groupId s)
    else
      (template.entries.foldlM (processEntry c (LootTemplate.process depth)) s).map fun s =>
        template.groups.foldl (fun s group => group.process c s) s

variable (store : LootTemplateMap) (player : Looter)

def LootGroup.hasQuestDropForPlayer (group : LootGroup) : Bool :=
  (group.explicitlyChanced.any fun item => player.hasQuestForItem item.itemid) ||
    group.equalChanced.any fun item => player.hasQuestForItem item.itemid

/-- One of the entries in `HasQuestDropForPlayer`; nothing is looked at once a drop is found. -/
def questEntry (rec : LootTemplate → Nat → Option Bool) (found : Bool) (item : LootStoreRow) :
    Option Bool :=
  if found then some true
  else if item.mincountOrRef < 0 then
    match store.find? item.mincountOrRef.natAbs with
    | none => some false
    | some referenced => rec referenced item.group
  else some (player.hasQuestForItem item.itemid)

/-- `HasQuestDropForPlayer` of a group that is referred to. -/
def LootTemplate.groupHasQuestDrop (template : LootTemplate) (groupId : Nat) : Bool :=
  (template.groups[groupId - 1]?).elim false fun group => group.hasQuestDropForPlayer player

def LootTemplate.hasQuestDropForPlayer : Nat → LootTemplate → Nat → Option Bool
  | 0, template, groupId =>
    if groupId ≠ 0 then some (template.groupHasQuestDrop player groupId) else none
  | depth + 1, template, groupId =>
    if groupId ≠ 0 then some (template.groupHasQuestDrop player groupId)
    else
      (template.entries.foldlM
        (questEntry store player (LootTemplate.hasQuestDropForPlayer depth)) false).map fun found =>
          found || template.groups.any fun group => group.hasQuestDropForPlayer player

end Definitions

variable {c : LootContext} {store : LootTemplateMap} {player : Looter} {template : LootTemplate}
variable {item : LootStoreRow} {s s' : LootProcess} {depth groupId : Nat} {found : Bool}

/-- `Process` of the template with a number in `LootTemplates_Reference`. -/
def processReference (c : LootContext) (depth id : Nat) (s : LootProcess) : Option LootProcess :=
  (c.references.find? id).elim (some s) fun template => template.process c depth 0 s

theorem process_group (h : groupId ≠ 0) :
    template.process c depth groupId s = some (template.processGroup c groupId s) := by
  cases depth <;> simp [LootTemplate.process, h]

theorem processEntry_ne_none {rec : LootTemplate → Nat → LootProcess → Option LootProcess}
    (h : ∀ referenced, item.mincountOrRef < 0 → item.counted = true →
      c.references.find? item.mincountOrRef.natAbs = some referenced →
        ∀ s, rec referenced item.group s ≠ none) : processEntry c rec s item ≠ none := by
  simp only [processEntry]
  split_ifs with hmode hroll href
  · exact Option.some_ne_none _
  · exact Option.some_ne_none _
  · unfold processReferenced
    split
    · exact Option.some_ne_none _
    · rename_i referenced hfind
      refine foldlM_ne_none fun group hgroup s => ?_
      obtain ⟨hne, heq⟩ := List.mem_replicate.mp hgroup
      rw [heq]
      refine h referenced href (decide_eq_true (Nat.pos_of_ne_zero fun hzero => hne ?_)) hfind s
      rw [hzero, Nat.cast_zero, zero_mul, roundSingle_zero, Nat.floor_zero]
  · exact Option.some_ne_none _

theorem processEntry_ends (hitem : item ∈ template.entries)
    (h : ∀ id ∈ template.references LootStoreRow.counted c.references, ∀ s,
      processReference c depth id s ≠ none) :
    processEntry c (LootTemplate.process c depth) s item ≠ none := by
  refine processEntry_ne_none fun referenced href hcount hfind s => ?_
  by_cases hwhole : item.group = 0
  · have hid := h _ (LootTemplateMap.mem_references.mpr
      ⟨⟨item, hitem, href, hwhole, hcount, rfl⟩, referenced, hfind⟩) s
    rw [hwhole]
    rwa [processReference, hfind] at hid
  · rw [process_group hwhole]
    exact Option.some_ne_none _

theorem process_ne_none
    (h : ∀ id ∈ template.references LootStoreRow.counted c.references, ∀ s,
      processReference c depth id s ≠ none) :
    template.process c (depth + 1) groupId s ≠ none := by
  by_cases hgroup : groupId ≠ 0
  · rw [process_group hgroup]
    exact Option.some_ne_none _
  · rw [LootTemplate.process, if_neg hgroup]
    exact Option.map_eq_none_iff.not.mpr (foldlM_ne_none fun item hitem s => processEntry_ends hitem h)

theorem processEntry_mono {rec rec' : LootTemplate → Nat → LootProcess → Option LootProcess}
    (h : ∀ template group s s', rec template group s = some s' → rec' template group s = some s')
    (hs : processEntry c rec s item = some s') : processEntry c rec' s item = some s' := by
  simp only [processEntry] at hs ⊢
  split_ifs at hs ⊢ with hmode hroll href
  · exact hs
  · exact hs
  · unfold processReferenced at hs ⊢
    split at hs
    · exact hs
    · exact foldlM_mono (fun group _ s s' hrec => h _ group s s' hrec) hs
  · exact hs

theorem process_deeper (h : template.process c depth groupId s = some s') :
    template.process c (depth + 1) groupId s = some s' := by
  induction depth generalizing template groupId s s' with
  | zero =>
    by_cases hgroup : groupId ≠ 0
    · rwa [process_group hgroup] at h ⊢
    · simp [LootTemplate.process, hgroup] at h
  | succ depth ih =>
    by_cases hgroup : groupId ≠ 0
    · rwa [process_group hgroup] at h ⊢
    · rw [LootTemplate.process, if_neg hgroup] at h ⊢
      obtain ⟨s₁, hfold, hs₁⟩ := Option.map_eq_some_iff.mp h
      rw [foldlM_mono (fun item _ s s' hs => processEntry_mono
        (fun template group s s' hrec => ih hrec) hs) hfold, Option.map_some, hs₁]

theorem process_unfolds : Unfolds (LootTemplateMap.refs LootStoreRow.counted c.references)
    (processReference c) :=
  .lookup (fun _ _ _ => rfl) (fun _ => rfl) process_deeper fun h _ => process_ne_none h

/-- `HasQuestDropForPlayer` of the template of a store with a number. -/
def questReference (store : LootTemplateMap) (depth id : Nat) (player : Looter) : Option Bool :=
  (store.find? id).elim (some false) fun template =>
    template.hasQuestDropForPlayer store player depth 0

theorem hasQuestDropForPlayer_group (h : groupId ≠ 0) :
    template.hasQuestDropForPlayer store player depth groupId =
      some (template.groupHasQuestDrop player groupId) := by
  cases depth <;> simp [LootTemplate.hasQuestDropForPlayer, h]

theorem questEntry_ne_none {rec : LootTemplate → Nat → Option Bool}
    (h : ∀ referenced, item.mincountOrRef < 0 →
      store.find? item.mincountOrRef.natAbs = some referenced → rec referenced item.group ≠ none) :
    questEntry store player rec found item ≠ none := by
  unfold questEntry
  split_ifs with hfound href
  · exact Option.some_ne_none _
  · split
    · exact Option.some_ne_none _
    · rename_i referenced hfind
      exact h referenced href hfind
  · exact Option.some_ne_none _

theorem hasQuestDropForPlayer_ne_none
    (h : ∀ id ∈ template.references (fun _ => true) store, questReference store depth id player ≠ none) :
    template.hasQuestDropForPlayer store player (depth + 1) groupId ≠ none := by
  by_cases hgroup : groupId ≠ 0
  · rw [hasQuestDropForPlayer_group hgroup]
    exact Option.some_ne_none _
  · rw [LootTemplate.hasQuestDropForPlayer, if_neg hgroup]
    refine Option.map_eq_none_iff.not.mpr (foldlM_ne_none fun item hitem found => ?_)
    refine questEntry_ne_none fun referenced href hfind => ?_
    by_cases hwhole : item.group = 0
    · have hid := h _ (LootTemplateMap.mem_references.mpr
        ⟨⟨item, hitem, href, hwhole, rfl, rfl⟩, referenced, hfind⟩)
      rw [hwhole]
      rwa [questReference, hfind] at hid
    · rw [hasQuestDropForPlayer_group hwhole]
      exact Option.some_ne_none _

theorem questEntry_mono {rec rec' : LootTemplate → Nat → Option Bool} {found' : Bool}
    (h : ∀ template group found, rec template group = some found →
      rec' template group = some found)
    (hs : questEntry store player rec found item = some found') :
    questEntry store player rec' found item = some found' := by
  unfold questEntry at hs ⊢
  split_ifs at hs ⊢ with hfound href
  · exact hs
  · split at hs
    · exact hs
    · exact h _ _ _ hs
  · exact hs

theorem hasQuestDropForPlayer_deeper
    (h : template.hasQuestDropForPlayer store player depth groupId = some found) :
    template.hasQuestDropForPlayer store player (depth + 1) groupId = some found := by
  induction depth generalizing template groupId found with
  | zero =>
    by_cases hgroup : groupId ≠ 0
    · rwa [hasQuestDropForPlayer_group hgroup] at h ⊢
    · simp [LootTemplate.hasQuestDropForPlayer, hgroup] at h
  | succ depth ih =>
    by_cases hgroup : groupId ≠ 0
    · rwa [hasQuestDropForPlayer_group hgroup] at h ⊢
    · rw [LootTemplate.hasQuestDropForPlayer, if_neg hgroup] at h ⊢
      obtain ⟨found₁, hfold, hfound₁⟩ := Option.map_eq_some_iff.mp h
      rw [foldlM_mono (fun item _ s s' hs => questEntry_mono
        (fun template group found hrec => ih hrec) hs) hfold, Option.map_some, hfound₁]

theorem hasQuestDropForPlayer_unfolds :
    Unfolds (LootTemplateMap.refs (fun _ => true) store) (questReference store) :=
  .lookup (fun _ _ _ => rfl) (fun _ => rfl) hasQuestDropForPlayer_deeper fun h player =>
    hasQuestDropForPlayer_ne_none fun id hid => h id hid player

end SkyfireBG

/-!
## Termination

Where the processing of loot templates ends.
-/

namespace SkyfireBG

variable {items : TemplateStore} {store references : LootTemplateMap} {template : LootTemplate}
variable {c : LootContext} {player : Looter} {item : LootStoreRow} {row : LootRow}
variable {id id' depth groupId : Nat} {found : Bool} {rows : List LootRow}

/-- Both functions end on a template of a store, whatever the random outcomes and the player. -/
structure LootTemplate.Terminates (items : TemplateStore) (references store : LootTemplateMap)
    (template : LootTemplate) : Prop where
  process : ∀ c : LootContext, c.items = items → c.references = references → ∀ groupId s,
    ∃ depth, template.process c depth groupId s ≠ none
  quest : ∀ player groupId, ∃ depth, template.hasQuestDropForPlayer store player depth groupId ≠ none

namespace LootTemplateMap

theorem terminates_of_acyclic (hreferences : Acyclic (RefersTo LootStoreRow.counted references))
    (hstore : Acyclic (RefersTo (fun _ => true) store)) : template.Terminates items references store where
  process := by
    rintro c - rfl groupId s
    obtain ⟨n, hn⟩ := process_unfolds.common (template.references LootStoreRow.counted c.references)
      fun id _ => process_unfolds.ends (refs_wellFounded hreferences) id
    exact ⟨n + 1, process_ne_none hn⟩
  quest := by
    intro player groupId
    obtain ⟨n, hn⟩ := hasQuestDropForPlayer_unfolds.common (template.references (fun _ => true) store)
      fun id _ => hasQuestDropForPlayer_unfolds.ends (refs_wellFounded hstore) id
    exact ⟨n + 1, hasQuestDropForPlayer_ne_none fun id hid => hn id hid player⟩

theorem questEntry_noQuest {rec : LootTemplate → Nat → Option Bool}
    (hplayer : ∀ i, player.hasQuestForItem i = false)
    (hrec : ∀ template group found, rec template group = some found → found = false)
    (hs : questEntry store player rec false item = some found) : found = false := by
  rw [questEntry, if_neg Bool.false_ne_true] at hs
  split_ifs at hs with href
  · split at hs
    · exact (Option.some.inj hs).symm
    · exact hrec _ _ _ hs
  · rw [← Option.some.inj hs]
    exact hplayer item.itemid

theorem hasQuestDropForPlayer_noQuest (hplayer : ∀ i, player.hasQuestForItem i = false)
    (h : template.hasQuestDropForPlayer store player depth groupId = some found) :
    found = false := by
  have hgroup : ∀ group : LootGroup, group.hasQuestDropForPlayer player = false := by
    intro group
    simp [LootGroup.hasQuestDropForPlayer, hplayer]
  have hgroupId : ∀ (template : LootTemplate) groupId,
      template.groupHasQuestDrop player groupId = false := by
    intro template groupId
    unfold LootTemplate.groupHasQuestDrop
    cases template.groups[groupId - 1]? with
    | none => rfl
    | some group => exact hgroup group
  induction depth generalizing template groupId found with
  | zero =>
    unfold LootTemplate.hasQuestDropForPlayer at h
    split_ifs at h
    rw [← Option.some.inj h]
    exact hgroupId template groupId
  | succ depth ih =>
    unfold LootTemplate.hasQuestDropForPlayer at h
    split_ifs at h
    · rw [← Option.some.inj h]
      exact hgroupId template groupId
    · obtain ⟨found', hfold, rfl⟩ := Option.map_eq_some_iff.mp h
      have hfound' : found' = false := by
        refine foldlM_invariant (I := fun found => found = false) hfold rfl ?_
        rintro item - found found' rfl hs
        exact questEntry_noQuest hplayer (fun _ _ _ hrec => ih hrec) hs
      simp [hfound', hgroup]

theorem questReference_circle (hplayer : ∀ i, player.hasQuestForItem i = false)
    {ls : List (Nat × Nat)} (hpath : LinkPath (RefersTo (fun _ => true) store) id ls id) (hne : ls ≠ []) :
    questReference store depth id player = none := by
  refine not_deep_enough (S := fun id p => p = player ∧
    ∃ ls, LinkPath (RefersTo (fun _ => true) store) id ls id ∧ ls ≠ []) ?_ ?_ ⟨rfl, ls, hpath, hne⟩
  · rintro id p ⟨-, ls, hpath, hne⟩
    obtain ⟨id', ⟨template, hfind, -⟩, -⟩ := hpath.cycle_next hne
    rw [questReference, hfind]
    rfl
  · rintro depth id p ⟨rfl, ls, hpath, hne⟩ hrun
    obtain ⟨id', ⟨template, hfind, hid'⟩, hcircle⟩ := hpath.cycle_next hne
    obtain ⟨⟨item, hitem, href, hwhole, -, rfl⟩, referenced, hreferenced⟩ := mem_references.mp hid'
    refine ⟨_, p, ⟨rfl, hcircle⟩, fun hnone => hrun ?_⟩
    rw [questReference, hreferenced] at hnone
    rw [questReference, hfind, Option.elim_some, LootTemplate.hasQuestDropForPlayer,
      if_neg (not_not.mpr rfl)]
    refine Option.map_eq_none_iff.mpr (foldlM_eq_none (I := fun found => found = false) hitem rfl
      ?_ ?_)
    · rintro item - found found' rfl hs
      exact questEntry_noQuest hplayer
        (fun _ _ _ hrec => hasQuestDropForPlayer_noQuest hplayer hrec) hs
    · rintro found rfl
      rw [questEntry, if_neg Bool.false_ne_true, if_pos href]
      simp only [hreferenced, hwhole]
      exact hnone

/-- Every mode, the rates of the configuration not asked for, and every roll a success. -/
def luckyContext (items : TemplateStore) (references : LootTemplateMap) : LootContext where
  items := items
  references := references
  rate := false
  lootMode := 65535
  outcomes := fun _ => {}

theorem processEntry_lucky {rec : LootTemplate → Nat → LootProcess → Option LootProcess}
    {referenced : LootTemplate} {s : LootProcess} (hloaded : item.Loaded items)
    (href : item.mincountOrRef < 0) (hcount : item.counted = true)
    (hfind : references.find? item.mincountOrRef.natAbs = some referenced)
    (hrec : ∀ s, rec referenced item.group s = none) :
    processEntry (luckyContext items references) rec s item = none := by
  obtain ⟨⟨row, rfl⟩, hvalid⟩ := hloaded
  have hmode : (LootStoreRow.ofRow row).lootmode &&& 65535 = (LootStoreRow.ofRow row).lootmode := by
    rw [show 65535 = 2 ^ 16 - 1 from rfl, Nat.and_two_pow_sub_one_eq_mod]
    exact Nat.mod_eq_of_lt (Nat.mod_lt _ (by decide))
  have hchance : 0 < (LootStoreRow.ofRow row).chance := by
    refine abs_pos.mpr fun hzero => ?_
    unfold LootStoreRow.isValid at hvalid
    rw [if_neg (not_lt.mpr href.le)] at hvalid
    simp [LootStoreRow.ofRow, hzero] at hvalid
  have hroll : ((LootStoreRow.ofRow row).roll (luckyContext items references) s).1 = true := by
    by_cases hsure : (LootStoreRow.ofRow row).chance ≥ 100
    · simp [LootStoreRow.roll, hsure]
    · simp [LootStoreRow.roll, hsure, luckyContext, href, roundSingle_pos hchance]
  simp only [processEntry, luckyContext, hmode] at hroll ⊢
  simp only [hroll, Bool.not_true, Bool.false_eq_true, if_false, href, if_true, ne_eq,
    not_true_eq_false, processReferenced, hfind, mul_one]
  have hcounted : (1 : ℚ) ≤ (LootStoreRow.ofRow row).maxcount :=
    Nat.one_le_cast.mpr (of_decide_eq_true hcount)
  have hrounds : 0 < ⌊roundSingle (LootStoreRow.ofRow row).maxcount⌋₊ :=
    Nat.floor_pos.mpr (one_le_roundSingle hcounted)
  obtain ⟨n, hn⟩ := Nat.exists_eq_succ_of_ne_zero hrounds.ne'
  rw [hn, List.replicate_succ, List.foldlM_cons, hrec]
  rfl

theorem processReference_circle {ls : List (Nat × Nat)} {s : LootProcess}
    (hloaded : ∀ id template, references.find? id = some template →
      ∀ item ∈ template.entries, item.Loaded items)
    (hpath : LinkPath (RefersTo LootStoreRow.counted references) id ls id) (hne : ls ≠ []) :
    processReference (luckyContext items references) depth id s = none := by
  refine not_deep_enough (S := fun id (_ : LootProcess) =>
    ∃ ls, LinkPath (RefersTo LootStoreRow.counted references) id ls id ∧ ls ≠ []) ?_ ?_
    ⟨ls, hpath, hne⟩
  · rintro id s ⟨ls, hpath, hne⟩
    obtain ⟨id', ⟨template, hfind, -⟩, -⟩ := hpath.cycle_next hne
    rw [processReference, show (luckyContext items references).references.find? id = some template
      from hfind]
    rfl
  · rintro depth id s ⟨ls, hpath, hne⟩ hrun
    obtain ⟨id', ⟨template, hfind, hid'⟩, hcircle⟩ := hpath.cycle_next hne
    obtain ⟨⟨item, hitem, href, hwhole, hcount, rfl⟩, referenced, hreferenced⟩ :=
      mem_references.mp hid'
    by_contra hends
    push Not at hends
    refine hrun ?_
    rw [processReference, show (luckyContext items references).references.find? id = some template
      from hfind, Option.elim_some, LootTemplate.process, if_neg (not_not.mpr rfl)]
    refine Option.map_eq_none_iff.mpr (foldlM_eq_none (I := fun _ => True) hitem trivial
      (fun _ _ _ _ _ _ => trivial) fun s' _ => ?_)
    refine processEntry_lucky (hloaded id template hfind item hitem) href hcount hreferenced
      fun s'' => ?_
    have hnone := hends _ s'' hcircle
    rw [processReference, show (luckyContext items references).references.find?
      item.mincountOrRef.natAbs = some referenced from hreferenced] at hnone
    rw [hwhole]
    exact hnone

end LootTemplateMap

open LootTemplateMap

/-- `Process` of the loaded references ends for all random outcomes when the references that are taken
have no circle, and only then. -/
theorem processReference_ends_iff (items : TemplateStore) (rows : List LootRow) :
    (∀ c : LootContext, c.items = items → c.references = loadLootTable items rows → ∀ id s,
      ∃ depth, processReference c depth id s ≠ none) ↔
    Acyclic (RefersTo LootStoreRow.counted (loadLootTable items rows)) := by
  constructor
  · intro h id ls hpath
    by_contra hne
    obtain ⟨depth, hdepth⟩ := h (luckyContext items (loadLootTable items rows)) rfl rfl id {}
    exact hdepth (processReference_circle (loaded_entries items rows) hpath hne)
  · rintro h c - hreferences id s
    rw [← hreferences] at h
    obtain ⟨n, hn⟩ := process_unfolds.ends (refs_wellFounded h) id
    exact ⟨n, hn s⟩

def questless : Looter where
  guid := 1
  team := .alliance
  hasSkill := fun _ => false
  hasSpell := fun _ => false
  hasQuestForItem := fun _ => false
  questKnown := fun _ => false
  meetsConditions := fun _ => true

/-- `Process` and `HasQuestDropForPlayer` end on all loaded templates when no store has templates that
refer to each other in a circle, and only then. -/
theorem LootTables.templates_terminate_iff (items : TemplateStore) (tables : LootTables) :
    (∀ store id template, (tables.templates items store).find? id = some template →
      template.Terminates items (tables.templates items .reference) (tables.templates items store)) ↔
    ∀ store, Acyclic (RefersTo (fun _ => true) (tables.templates items store)) := by
  constructor
  · intro h store id ls hpath
    by_contra hne
    obtain ⟨id', ⟨template, hfind, -⟩, -⟩ := hpath.cycle_next hne
    obtain ⟨depth, hdepth⟩ := (h store id template hfind).quest questless 0
    have hcircle : questReference (tables.templates items store) depth id questless = none :=
      questReference_circle (fun _ => rfl) hpath hne
    rw [questReference, hfind] at hcircle
    exact hdepth hcircle
  · intro h store id template _
    exact terminates_of_acyclic (acyclic_of_all (h .reference)) (h store)

def circleTables : LootTables
  | .gameobject => [⟨100, 0, 100, 1, 0, -100, 1⟩]
  | _ => []

theorem terminates_circleTables : ¬ ∀ (items : TemplateStore) (tables : LootTables) store id template,
    (tables.templates items store).find? id = some template →
      template.Terminates items (tables.templates items .reference)
        (tables.templates items store) := by
  intro h
  have hfind : (circleTables.templates (fun _ => none) .gameobject).find? 100 =
      some { entries := [LootStoreRow.ofRow ⟨100, 0, 100, 1, 0, -100, 1⟩] } := by decide +kernel
  have hpath : LinkPath (RefersTo (fun _ => true)
      (circleTables.templates (fun _ => none) .gameobject)) 100 [(100, 100)] 100 := by
    refine .single ⟨_, hfind, mem_references.mpr ⟨⟨_, List.mem_cons_self, ?_⟩, _, hfind⟩⟩
    exact ⟨by decide, rfl, rfl, rfl⟩
  obtain ⟨depth, hdepth⟩ := (h _ circleTables .gameobject 100 _ hfind).quest questless 0
  have hcircle : questReference _ depth 100 questless = none :=
    questReference_circle (fun _ => rfl) hpath (List.cons_ne_nil _ _)
  rw [questReference, hfind] at hcircle
  exact hdepth hcircle

end SkyfireBG
