import SkyfireBG.Loot.Process

/-!
# SkyfireBG.Loot.Groups

What `LootGroup::Process` adds to a loot.

* `GroupAttempt`        — one attempt finds an entry to add, or leaves entries that may drop.
* `groupLoop_process`   — the loop with its counter of eight bits comes to an end.
* `process_group_cases` — a group adds at most one entry, which is enabled and below its limit.
* `pick_equal`          — what is picked of the equal-chanced entries.
* `group_process_adds`  — all of this together.
-/

namespace SkyfireBG

/-- What an attempt comes to: an entry for `AddItem`, or the drops that are still possible. -/
inductive GroupAttempt where
  | added (item : LootStoreRow) (s : LootProcess)
  | rejected (explicitDrops equalDrops : List LootStoreRow) (s : LootProcess)

section Definitions

variable (c : LootContext)

def Enabled (item : LootStoreRow) : Prop := item.lootmode &&& c.lootMode ≠ 0

instance (item : LootStoreRow) : Decidable (Enabled c item) := inferInstanceAs (Decidable (_ ≠ _))

def Eligible (loot : Loot) (item : LootStoreRow) : Prop :=
  Enabled c item ∧ isDuplicate c loot item = false

instance (loot : Loot) (item : LootStoreRow) : Decidable (Eligible c loot item) :=
  inferInstanceAs (Decidable (_ ∧ _))

/-- An attempt in the loop of `LootGroup::Process`, while drops are possible. -/
def groupAttempt (explicitDrops equalDrops : List LootStoreRow) (s : LootProcess) : GroupAttempt :=
  let rolled := if explicitDrops = [] then []
    else rollExplicit (roundSingle (c.outcomes s.drawn).chance) explicitDrops
  let s := if explicitDrops = [] then s else s.skip
  match rolled with
  | item :: rest =>
    if item.lootmode &&& c.lootMode = 0 then .rejected rolled equalDrops s
    else if isDuplicate c s.loot item then .rejected rest equalDrops s
    else .added item s
  | [] =>
    let index := (c.outcomes s.drawn).number % equalDrops.length
    match equalDrops[index]? with
    | none => .rejected [] equalDrops s
    | some item =>
      if item.lootmode &&& c.lootMode = 0 then .rejected [] equalDrops s.skip
      else if isDuplicate c s.loot item then .rejected [] (equalDrops.eraseIdx index) s.skip
      else .added item s.skip

/-- The loop of `LootGroup::Process` with `uiAttemptCount` and `uiMaxAttempts`. -/
def groupLoop : Nat → UInt8 → UInt8 → List LootStoreRow → List LootStoreRow → LootProcess →
    Option LootProcess
  | 0, _, _, _, _, _ => none
  | fuel + 1, count, max, explicitDrops, equalDrops, s =>
    if explicitDrops = [] ∧ equalDrops = [] then some s
    else if count = max then some s
    else
      match groupAttempt c explicitDrops equalDrops s with
      | .added item s => some (s.addItem c item)
      | .rejected explicitDrops equalDrops s =>
        groupLoop fuel (count + 1) max explicitDrops equalDrops s

def pickAttempts : Nat → List LootStoreRow → List LootStoreRow → LootProcess →
    Option LootStoreRow × LootProcess
  | 0, _, _, s => (none, s)
  | attempts + 1, explicitDrops, equalDrops, s =>
    if explicitDrops = [] ∧ equalDrops = [] then (none, s)
    else
      match groupAttempt c explicitDrops equalDrops s with
      | .added item s => (some item, s)
      | .rejected explicitDrops equalDrops s => pickAttempts attempts explicitDrops equalDrops s

def LootGroup.all (group : LootGroup) : List LootStoreRow :=
  group.explicitlyChanced ++ group.equalChanced

def LootGroup.pick (group : LootGroup) (s : LootProcess) : Option LootStoreRow × LootProcess :=
  pickAttempts c ((group.explicitlyChanced.length + group.equalChanced.length) % 256)
    group.explicitlyChanced group.equalChanced s

def GroupAttempt.From (loot : Loot) (explicitDrops equalDrops : List LootStoreRow) :
    GroupAttempt → Prop
  | .added item s => item ∈ explicitDrops ++ equalDrops ∧ Eligible c loot item ∧ s.loot = loot
  | .rejected explicitDrops' equalDrops' s =>
    explicitDrops' ⊆ explicitDrops ∧ equalDrops' ⊆ equalDrops ∧ s.loot = loot

/-- What is drawn of the equal-chanced entries in some attempts, from the outcome with the given number
on; an enabled entry of which enough have dropped is drawn only once. -/
def drawEqual (loot : Loot) : Nat → List LootStoreRow → Nat → List LootStoreRow
  | 0, _, _ => []
  | attempts + 1, drops, drawn =>
    let index := (c.outcomes drawn).number % drops.length
    drops[index]?.elim [] fun item =>
      item :: drawEqual loot attempts
        (if Enabled c item ∧ isDuplicate c loot item then drops.eraseIdx index else drops) (drawn + 1)

def LootGroup.firstDraw (group : LootGroup) (s : LootProcess) : Nat :=
  if group.explicitlyChanced = [] then s.drawn else s.drawn + 1

end Definitions

variable {c : LootContext} {group : LootGroup} {item : LootStoreRow} {s s' : LootProcess}
variable {explicitDrops equalDrops explicitDrops' equalDrops' : List LootStoreRow}
variable {attempts fuel : Nat} {count max : UInt8}

theorem processAttempts_succ : processAttempts c (attempts + 1) explicitDrops equalDrops s =
    if explicitDrops = [] ∧ equalDrops = [] then s
    else match groupAttempt c explicitDrops equalDrops s with
      | .added item s => s.addItem c item
      | .rejected explicitDrops equalDrops s =>
        processAttempts c attempts explicitDrops equalDrops s := by
  rw [processAttempts]
  by_cases hnone : explicitDrops = [] ∧ equalDrops = []
  · rw [if_pos hnone, if_pos hnone]
  rw [if_neg hnone, if_neg hnone, groupAttempt]
  dsimp only
  cases (if explicitDrops = [] then [] else rollExplicit (roundSingle (c.outcomes s.drawn).chance) explicitDrops)
    with
  | cons item rest =>
    dsimp only
    split_ifs <;> rfl
  | nil =>
    dsimp only
    generalize (if explicitDrops = [] then s else s.skip) = s
    cases equalDrops[(c.outcomes s.drawn).number % equalDrops.length]? with
    | none => rfl
    | some item =>
      dsimp only
      split_ifs <;> rfl

theorem processAttempts_eq : processAttempts c attempts explicitDrops equalDrops s =
    (pickAttempts c attempts explicitDrops equalDrops s).1.elim
      (pickAttempts c attempts explicitDrops equalDrops s).2
      fun item => (pickAttempts c attempts explicitDrops equalDrops s).2.addItem c item := by
  induction attempts generalizing explicitDrops equalDrops s with
  | zero => rfl
  | succ attempts ih =>
    rw [processAttempts_succ, pickAttempts]
    by_cases hnone : explicitDrops = [] ∧ equalDrops = []
    · rw [if_pos hnone, if_pos hnone]
      rfl
    · rw [if_neg hnone, if_neg hnone]
      cases groupAttempt c explicitDrops equalDrops s with
      | added item s => rfl
      | rejected explicitDrops equalDrops s => exact ih

theorem process_eq_pick : group.process c s =
    (group.pick c s).1.elim (group.pick c s).2 fun item => (group.pick c s).2.addItem c item :=
  processAttempts_eq

theorem groupLoop_eq (hcount : count.toNat + attempts = max.toNat) (hfuel : attempts < fuel) :
    groupLoop c fuel count max explicitDrops equalDrops s =
      some (processAttempts c attempts explicitDrops equalDrops s) := by
  induction fuel generalizing attempts count explicitDrops equalDrops s with
  | zero => omega
  | succ fuel ih =>
    rw [groupLoop]
    by_cases hnone : explicitDrops = [] ∧ equalDrops = []
    · rw [if_pos hnone]
      cases attempts with
      | zero => rfl
      | succ attempts => rw [processAttempts_succ, if_pos hnone]
    rw [if_neg hnone]
    cases attempts with
    | zero =>
      rw [if_pos (UInt8.toNat_inj.mp hcount)]
      rfl
    | succ attempts =>
      have hne : count ≠ max := by
        rintro rfl
        omega
      have hmax := max.toNat_lt
      have hnext : (count + 1).toNat = count.toNat + 1 := by
        rw [UInt8.toNat_add, show (1 : UInt8).toNat = 1 from rfl, Nat.mod_eq_of_lt (by omega)]
      rw [if_neg hne, processAttempts_succ, if_neg hnone]
      cases groupAttempt c explicitDrops equalDrops s with
      | added item s => rfl
      | rejected explicitDrops equalDrops s => exact ih (by omega) (by omega)

/-- `LootGroup::Process` comes to an end, within as many attempts as eight bits can count. -/
theorem groupLoop_process : groupLoop c 256 0
      (UInt8.ofNat (group.explicitlyChanced.length + group.equalChanced.length))
      group.explicitlyChanced group.equalChanced s = some (group.process c s) := by
  refine groupLoop_eq ?_ (Nat.mod_lt _ (by decide))
  rw [UInt8.toNat_ofNat']
  exact Nat.zero_add _

theorem rollExplicit_suffix {roll : ℚ} : rollExplicit roll explicitDrops <:+ explicitDrops := by
  induction explicitDrops generalizing roll with
  | nil => exact List.nil_suffix
  | cons item rest ih =>
    rw [rollExplicit]
    split_ifs with hroll
    · exact List.suffix_refl _
    · exact ih.trans (List.suffix_cons item rest)

theorem groupAttempt_from :
    (groupAttempt c explicitDrops equalDrops s).From c s.loot explicitDrops equalDrops := by
  unfold groupAttempt
  have hloot : (if explicitDrops = [] then s else s.skip).loot = s.loot := by
    split_ifs <;> rfl
  have hrolled : (if explicitDrops = [] then []
      else rollExplicit (roundSingle (c.outcomes s.drawn).chance) explicitDrops) ⊆ explicitDrops := by
    split_ifs
    · exact List.nil_subset _
    · exact rollExplicit_suffix.subset
  generalize (if explicitDrops = [] then s else s.skip) = t at hloot
  generalize (if explicitDrops = [] then []
    else rollExplicit (roundSingle (c.outcomes s.drawn).chance) explicitDrops) = rolled at hrolled
  rw [← hloot]
  cases rolled with
  | cons item rest =>
    obtain ⟨hitem, hrest⟩ := List.cons_subset.mp hrolled
    dsimp only
    split_ifs with hmode hduplicate
    · exact ⟨hrolled, List.Subset.refl _, rfl⟩
    · exact ⟨hrest, List.Subset.refl _, rfl⟩
    · exact ⟨List.mem_append_left _ hitem, ⟨hmode, Bool.eq_false_of_not_eq_true hduplicate⟩, rfl⟩
  | nil =>
    dsimp only
    cases hdrawn : equalDrops[(c.outcomes t.drawn).number % equalDrops.length]? with
    | none => exact ⟨List.nil_subset _, List.Subset.refl _, rfl⟩
    | some item =>
      have hitem := List.mem_of_getElem? hdrawn
      dsimp only
      split_ifs with hmode hduplicate
      · exact ⟨List.nil_subset _, List.Subset.refl _, rfl⟩
      · exact ⟨List.nil_subset _, List.eraseIdx_subset, rfl⟩
      · exact ⟨List.mem_append_right _ hitem, ⟨hmode, Bool.eq_false_of_not_eq_true hduplicate⟩,
          rfl⟩

theorem pickAttempts_from : (pickAttempts c attempts explicitDrops equalDrops s).2.loot = s.loot ∧
    ∀ item ∈ (pickAttempts c attempts explicitDrops equalDrops s).1,
      item ∈ explicitDrops ++ equalDrops ∧ Eligible c s.loot item := by
  induction attempts generalizing explicitDrops equalDrops s with
  | zero => exact ⟨rfl, fun item hitem => nomatch hitem⟩
  | succ attempts ih =>
    rw [pickAttempts]
    by_cases hnone : explicitDrops = [] ∧ equalDrops = []
    · rw [if_pos hnone]
      exact ⟨rfl, fun item hitem => nomatch hitem⟩
    rw [if_neg hnone]
    have hfrom : (groupAttempt c explicitDrops equalDrops s).From c s.loot explicitDrops equalDrops :=
      groupAttempt_from
    cases hattempt : groupAttempt c explicitDrops equalDrops s with
    | added item t =>
      rw [hattempt] at hfrom
      obtain ⟨hitem, heligible, hloot⟩ := hfrom
      refine ⟨hloot, fun item' hitem' => ?_⟩
      rw [← Option.some.inj hitem']
      exact ⟨hitem, heligible⟩
    | rejected explicitDrops' equalDrops' t =>
      rw [hattempt] at hfrom
      obtain ⟨hexplicit, hequal, hloot⟩ := hfrom
      dsimp only
      refine ⟨ih.1.trans hloot, fun item hitem => ?_⟩
      obtain ⟨hmem, heligible⟩ := ih.2 item hitem
      rw [hloot] at heligible
      refine ⟨?_, heligible⟩
      rw [List.mem_append] at hmem ⊢
      exact hmem.imp (fun h => hexplicit h) fun h => hequal h

theorem pick_loot : (group.pick c s).2.loot = s.loot := pickAttempts_from.1

theorem pick_eligible (h : (group.pick c s).1 = some item) :
    item ∈ group.all ∧ Eligible c s.loot item := pickAttempts_from.2 item h

theorem process_group_cases : (group.process c s).loot = s.loot ∨
    ∃ item ∈ group.all, Eligible c s.loot item ∧ ∃ draw : LootDraw,
      (group.process c s).loot = Loot.addItem c.items s.loot (item.toLootStoreItem, draw) := by
  rw [process_eq_pick]
  cases hpick : (group.pick c s).1 with
  | none => exact .inl pick_loot
  | some item =>
    obtain ⟨hitem, heligible⟩ := pick_eligible hpick
    refine .inr ⟨item, hitem, heligible, ?_⟩
    rw [Option.elim_some, LootProcess.addItem, pick_loot]
    exact ⟨_, rfl⟩

theorem groupAttempt_equal (h : rollExplicit (roundSingle (c.outcomes s.drawn).chance) explicitDrops = []) :
    groupAttempt c explicitDrops equalDrops s =
      groupAttempt c [] equalDrops (if explicitDrops = [] then s else s.skip) := by
  unfold groupAttempt
  simp only [h, ite_self, if_true]

theorem pickAttempts_equal : (pickAttempts c attempts [] equalDrops s).1 =
    (drawEqual c s.loot attempts equalDrops s.drawn).find? fun item => Eligible c s.loot item := by
  induction attempts generalizing equalDrops s with
  | zero => rfl
  | succ attempts ih =>
    rw [pickAttempts, drawEqual]
    by_cases hnone : equalDrops = []
    · rw [if_pos ⟨rfl, hnone⟩, hnone]
      rfl
    rw [if_neg fun h => hnone h.2, groupAttempt, if_pos rfl, if_pos rfl]
    dsimp only
    have hindex := Nat.mod_lt (c.outcomes s.drawn).number (List.length_pos_iff.mpr hnone)
    generalize (c.outcomes s.drawn).number % equalDrops.length = index at hindex
    rw [List.getElem?_eq_getElem hindex, Option.elim_some]
    generalize equalDrops[index] = item
    dsimp only
    by_cases hmode : item.lootmode &&& c.lootMode = 0
    · rw [if_pos hmode, List.find?_cons_of_neg (by simp [Eligible, Enabled, hmode]),
        if_neg fun h => h.1 hmode]
      exact ih
    · rw [if_neg hmode]
      cases hduplicate : isDuplicate c s.loot item with
      | true =>
        have hdropped : Enabled c item ∧ true = true := ⟨hmode, rfl⟩
        rw [List.find?_cons_of_neg (by simp [Eligible, hduplicate]), if_pos hdropped]
        exact ih
      | false =>
        rw [List.find?_cons_of_pos (by simp [Eligible, Enabled, hduplicate, hmode])]
        rfl

theorem pick_equal (h : rollExplicit (roundSingle (c.outcomes s.drawn).chance) group.explicitlyChanced = [])
    (hsize : group.all.length < 256) : (group.pick c s).1 =
      (drawEqual c s.loot group.all.length group.equalChanced (group.firstDraw s)).find?
        fun item => Eligible c s.loot item := by
  rw [LootGroup.all, List.length_append] at hsize
  rw [LootGroup.pick, Nat.mod_eq_of_lt hsize, LootGroup.all, List.length_append,
    LootGroup.firstDraw]
  by_cases hexplicit : group.explicitlyChanced = []
  · rw [if_pos hexplicit, hexplicit]
    exact pickAttempts_equal
  · obtain ⟨attempts, hattempts⟩ :
        ∃ n, group.explicitlyChanced.length + group.equalChanced.length = n + 1 := by
      have := List.length_pos_iff.mpr hexplicit
      exact ⟨_, (Nat.succ_pred_eq_of_pos (by omega)).symm⟩
    have hskip : (pickAttempts c (attempts + 1) [] group.equalChanced s.skip).1 =
        (pickAttempts c (attempts + 1) group.explicitlyChanced group.equalChanced s).1 := by
      have hsome : ¬(group.explicitlyChanced = [] ∧ group.equalChanced = []) :=
        fun hnone => hexplicit hnone.1
      rw [pickAttempts, pickAttempts, if_neg hsome, groupAttempt_equal h, if_neg hexplicit]
      by_cases hequal : group.equalChanced = []
      · rw [hequal]
        cases attempts <;> rfl
      · have hsome' : ¬(([] : List LootStoreRow) = [] ∧ group.equalChanced = []) :=
          fun hnone => hequal hnone.2
        rw [if_neg hsome']
    rw [if_neg hexplicit, hattempts, ← hskip]
    exact pickAttempts_equal

theorem drawEqual_finds {loot : Loot} {drawn : Nat} (henabled : ∀ item ∈ equalDrops, Enabled c item)
    (heligible : ∃ item ∈ equalDrops, Eligible c loot item) (hle : equalDrops.length ≤ attempts) :
    ∃ item ∈ drawEqual c loot attempts equalDrops drawn, Eligible c loot item := by
  induction attempts generalizing equalDrops drawn with
  | zero =>
    obtain ⟨item, hitem, -⟩ := heligible
    have := List.length_pos_of_mem hitem
    omega
  | succ attempts ih =>
    obtain ⟨item, hitem, hitemEligible⟩ := heligible
    have hindex := Nat.mod_lt (c.outcomes drawn).number (List.length_pos_of_mem hitem)
    rw [drawEqual]
    generalize (c.outcomes drawn).number % equalDrops.length = index at hindex
    rw [List.getElem?_eq_getElem hindex, Option.elim_some]
    by_cases hfound : Eligible c loot equalDrops[index]
    · exact ⟨_, List.mem_cons_self, hfound⟩
    · have hmode := henabled _ (List.getElem_mem hindex)
      have hduplicate : isDuplicate c loot equalDrops[index] = true := by
        by_contra hfalse
        exact hfound ⟨hmode, Bool.eq_false_of_not_eq_true hfalse⟩
      have hrest : item ∈ equalDrops.eraseIdx index := by
        obtain ⟨i, hi, rfl⟩ := List.getElem_of_mem hitem
        refine List.mem_eraseIdx_iff_getElem?.mpr ⟨i, ?_, List.getElem?_eq_getElem hi⟩
        rintro rfl
        exact hfound hitemEligible
      rw [if_pos ⟨hmode, hduplicate⟩]
      have hle' : (equalDrops.eraseIdx index).length ≤ attempts := by
        rw [List.length_eraseIdx_of_lt hindex]
        omega
      obtain ⟨found, hmem, hfoundEligible⟩ :=
        ih (fun other hother => henabled other (List.mem_of_mem_eraseIdx hother))
          ⟨item, hrest, hitemEligible⟩ hle'
      exact ⟨found, List.mem_cons_of_mem _ hmem, hfoundEligible⟩

theorem drawEqual_subset {loot : Loot} {drawn : Nat} :
    drawEqual c loot attempts equalDrops drawn ⊆ equalDrops := by
  induction attempts generalizing equalDrops drawn with
  | zero => exact List.nil_subset _
  | succ attempts ih =>
    rw [drawEqual]
    cases hdrawn : equalDrops[(c.outcomes drawn).number % equalDrops.length]? with
    | none => exact List.nil_subset _
    | some item =>
      refine List.cons_subset.mpr ⟨List.mem_of_getElem? hdrawn, List.Subset.trans ih ?_⟩
      split_ifs
      · exact List.eraseIdx_subset
      · exact List.Subset.refl _

/-- What a group adds.  The loop ends; at most one entry is added, which the mode enables and of which
fewer than its limit have dropped; when the explicit roll selects nothing, it is the first eligible one
drawn of the equal-chanced entries, in as many draws as the group has entries; and if these are all
enabled and one is eligible, one is added. -/
theorem group_process_adds (c : LootContext) (group : LootGroup) (s : LootProcess) : ∃ s',
    groupLoop c 256 0 (UInt8.ofNat (group.explicitlyChanced.length + group.equalChanced.length))
      group.explicitlyChanced group.equalChanced s = some s' ∧
    (s'.loot = s.loot ∨ ∃ item ∈ group.all, Eligible c s.loot item ∧ ∃ draw : LootDraw,
      s'.loot = Loot.addItem c.items s.loot (item.toLootStoreItem, draw)) ∧
    (rollExplicit (roundSingle (c.outcomes s.drawn).chance) group.explicitlyChanced = [] →
      group.all.length < 256 →
      (∃ draw : LootDraw, s'.loot =
        ((drawEqual c s.loot group.all.length group.equalChanced (group.firstDraw s)).find?
          fun item => Eligible c s.loot item).elim s.loot
          fun item => Loot.addItem c.items s.loot (item.toLootStoreItem, draw)) ∧
      ((∀ item ∈ group.equalChanced, Enabled c item) →
        (∃ item ∈ group.equalChanced, Eligible c s.loot item) →
        ∃ item ∈ group.equalChanced, Eligible c s.loot item ∧ ∃ draw : LootDraw,
          s'.loot = Loot.addItem c.items s.loot (item.toLootStoreItem, draw))) := by
  refine ⟨_, groupLoop_process, process_group_cases, fun hroll hsize => ?_⟩
  have hpick := pick_equal hroll hsize
  have hprocess : ∃ draw : LootDraw, (group.process c s).loot =
      ((drawEqual c s.loot group.all.length group.equalChanced (group.firstDraw s)).find?
        fun item => Eligible c s.loot item).elim s.loot
        fun item => Loot.addItem c.items s.loot (item.toLootStoreItem, draw) := by
    rw [process_eq_pick, ← hpick]
    cases (group.pick c s).1 with
    | none => exact ⟨{}, pick_loot⟩
    | some item =>
      rw [Option.elim_some, LootProcess.addItem, pick_loot]
      exact ⟨_, rfl⟩
  refine ⟨hprocess, fun henabled heligible => ?_⟩
  obtain ⟨draw, hloot⟩ := hprocess
  have hle : group.equalChanced.length ≤ group.all.length := by
    rw [LootGroup.all, List.length_append]
    omega
  obtain ⟨item, hitem, hitemEligible⟩ :
      ∃ item ∈ drawEqual c s.loot group.all.length group.equalChanced (group.firstDraw s),
        Eligible c s.loot item := drawEqual_finds henabled heligible hle
  cases hfind : (drawEqual c s.loot group.all.length group.equalChanced (group.firstDraw s)).find?
      fun item => Eligible c s.loot item with
  | none =>
    have := List.find?_eq_none.mp hfind item hitem
    exact absurd hitemEligible (by simpa using this)
  | some found =>
    rw [hfind] at hloot
    refine ⟨found, drawEqual_subset (List.mem_of_find?_eq_some hfind), ?_, draw, hloot⟩
    simpa using List.find?_some hfind

/-- Two entries for different modes, in one of the modes, with the other entry drawn each time. -/
def otherModeGroup : LootGroup where
  equalChanced :=
    [{ itemid := 1, chance := 0, mincountOrRef := 1, lootmode := 1, group := 1, maxcount := 1 },
     { itemid := 2, chance := 0, mincountOrRef := 1, lootmode := 2, group := 1, maxcount := 1 }]

def otherModeContext : LootContext where
  items := fun _ => none
  references := ∅
  lootMode := 1
  outcomes := fun _ => { number := 1 }

theorem group_process_otherMode : ¬ ∀ (c : LootContext) (group : LootGroup) (s : LootProcess),
    (group.explicitlyChanced.map fun item => item.chance).sum ≤ 100 →
    (∃ item ∈ group.equalChanced, Eligible c s.loot item) →
    rollExplicit (roundSingle (c.outcomes s.drawn).chance) group.explicitlyChanced = [] →
    ∃ item ∈ group.equalChanced, Eligible c s.loot item ∧ ∃ draw : LootDraw,
      (group.process c s).loot = Loot.addItem c.items s.loot (item.toLootStoreItem, draw) := by
  intro h
  obtain ⟨item, hitem, -, draw, hloot⟩ := h otherModeContext otherModeGroup {} (by decide +kernel)
    ⟨_, List.mem_cons_self, by decide⟩ rfl
  have hitems : (Loot.addItem otherModeContext.items ({} : LootProcess).loot
      (item.toLootStoreItem, draw)).items = [] := by
    rw [← hloot]
    decide
  have hquest : item.needsQuest = false :=
    (by decide : ∀ item ∈ otherModeGroup.equalChanced, item.needsQuest = false) item hitem
  simp [Loot.addItem, hquest, MAX_NR_LOOT_ITEMS] at hitems

end SkyfireBG
