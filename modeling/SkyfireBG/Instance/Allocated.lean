import SkyfireBG.Lib.Run
import SkyfireBG.Instance.Maps

/-!
# SkyfireBG.Instance.Allocated

Instance ids over whole runs.

* `InstanceWorld.Sound`   — the id that comes next is free, and no live map is given away twice.
* `InstanceWorld.Allowed` — the vector has room, and only an id that nothing loaded needs is freed.
* `instance_ids`          — runs of allowed events are sound.
-/

namespace SkyfireBG

namespace InstanceWorld

variable {store : Nat → MapTypes} {alloc : Nat → Nat → Nat} {s s' : InstanceWorld}
variable {m m' id i party : Nat}

structure Sound (s : InstanceWorld) : Prop where
  inside : s.mgr.wild = false
  lowest : IsLeast {i | 0 < i ∧ s.mgr.used i = false} s.mgr.nextId
  fresh : s.saves.find? s.mgr.nextId = none ∧ ∀ l ∈ s.maps, l.instanceId ≠ s.mgr.nextId
  apart : ∀ l ∈ s.maps, ∀ p ∈ l.parties, ∀ q ∈ l.parties, p = q

/-- The id is that of an instance of the map: of a stored or a loaded save, of a loaded map or of a
battleground. -/
def Holds (store : Nat → MapTypes) (s : InstanceWorld) (m id : Nat) : Prop :=
  (s.rows.find? id = some m ∧ (store m).isDungeon = true ∧ 0 < id) ∨ s.saves.find? id = some m ∨
    (∃ l ∈ s.maps, l.isOf m id = true) ∨ (m, id) ∈ s.battlegrounds

structure Kept (store : Nat → MapTypes) (s : InstanceWorld) : Prop where
  inside : s.mgr.wild = false
  lowest : s.mgr.Lowest
  held : ∀ m id, s.Holds store m id → 0 < id ∧ s.mgr.used id = true
  one : ∀ m m' id, s.Holds store m id → s.Holds store m' id → m = m'
  saved : ∀ m id, s.saves.find? id = some m → (store m).isDungeon = true
  fought : ∀ m id, (m, id) ∈ s.battlegrounds → (store m).isBattlegroundOrArena = true
  given : ∀ l ∈ s.maps, l.parties.length ≤ 1

theorem isOf_self (l : InstancedMap) : l.isOf l.mapId l.instanceId = true := by
  simp [InstancedMap.isOf]

theorem isOf_iff {l : InstancedMap} : l.isOf m id = true ↔ l.mapId = m ∧ l.instanceId = id := by
  simp [InstancedMap.isOf]

theorem Kept.not_holds (h : s.Kept store) (hfree : s.mgr.used id = false) : ¬ s.Holds store m id := by
  intro hh
  rw [(h.held m id hh).2] at hfree
  cases hfree

theorem Kept.sound (h : s.Kept store) : s.Sound where
  inside := h.inside
  lowest := h.lowest
  fresh := by
    refine ⟨?_, fun l hl heq => ?_⟩
    · cases hf : s.saves.find? s.mgr.nextId with
      | none => rfl
      | some m => exact absurd (.inr (.inl hf)) (h.not_holds (m := m) h.lowest.free)
    · exact h.not_holds h.lowest.free (.inr (.inr (.inl ⟨l, hl, heq ▸ isOf_self l⟩)))
  apart := fun l hl p hp q hq => by
    have hlen := h.given l hl
    match hps : l.parties with
    | [] =>
      rw [hps] at hp
      cases hp
    | [r] =>
      rw [hps] at hp hq
      rw [List.mem_singleton.mp hp, List.mem_singleton.mp hq]
    | _ :: _ :: _ =>
      rw [hps] at hlen
      simp at hlen

theorem Kept.stay (h : s.Kept store) (hmgr : s'.mgr = s.mgr)
    (hholds : ∀ m id, s'.Holds store m id → s.Holds store m id)
    (hsaved : ∀ m id, s'.saves.find? id = some m → (store m).isDungeon = true)
    (hfought : ∀ m id, (m, id) ∈ s'.battlegrounds → (store m).isBattlegroundOrArena = true)
    (hgiven : ∀ l ∈ s'.maps, l.parties.length ≤ 1) : s'.Kept store where
  inside := hmgr ▸ h.inside
  lowest := hmgr ▸ h.lowest
  held := fun m id hh => hmgr ▸ h.held m id (hholds m id hh)
  one := fun m m' id hh hh' => h.one m m' id (hholds m id hh) (hholds m' id hh')
  saved := hsaved
  fought := hfought
  given := hgiven

theorem Kept.generate (h : s.Kept store) (hroom : s.mgr.HasRoom)
    (hmgr : s'.mgr = (s.mgr.generateInstanceId alloc).2)
    (hholds : ∀ m' id, s'.Holds store m' id → s.Holds store m' id ∨ id = s.mgr.nextId ∧ m' = m)
    (hsaved : ∀ m id, s'.saves.find? id = some m → (store m).isDungeon = true)
    (hfought : ∀ m id, (m, id) ∈ s'.battlegrounds → (store m).isBattlegroundOrArena = true)
    (hgiven : ∀ l ∈ s'.maps, l.parties.length ≤ 1) : s'.Kept store := by
  obtain ⟨-, hwild, hlowest, hused⟩ := InstanceIds.generate_spec alloc h.lowest hroom
  have hnew : ∀ m, ¬ s.Holds store m s.mgr.nextId := fun m => h.not_holds h.lowest.free
  exact {
    inside := by rw [hmgr, hwild, h.inside]
    lowest := hmgr ▸ hlowest
    held := fun m id hh => by
      rw [hmgr, hused]
      rcases hholds m id hh with hold | ⟨rfl, -⟩
      · obtain ⟨hpos, hu⟩ := h.held m id hold
        refine ⟨hpos, ?_⟩
        split
        · rfl
        · exact hu
      · exact ⟨h.lowest.1.1, if_pos rfl⟩
    one := fun m₁ m₂ id hh hh' => by
      rcases hholds m₁ id hh with hold | ⟨rfl, rfl⟩
      · rcases hholds m₂ id hh' with hold' | ⟨rfl, -⟩
        · exact h.one m₁ m₂ id hold hold'
        · exact absurd hold (hnew m₁)
      · rcases hholds m₂ _ hh' with hold' | ⟨-, rfl⟩
        · exact absurd hold' (hnew m₂)
        · rfl
    saved := hsaved
    fought := hfought
    given := hgiven }

theorem Kept.free (h : s.Kept store) (hpos : 0 < i) (hin : i < s.mgr.ids.length)
    (hmgr : s'.mgr = s.mgr.freeInstanceId i)
    (hholds : ∀ m id, s'.Holds store m id → s.Holds store m id ∧ id ≠ i)
    (hsaved : ∀ m id, s'.saves.find? id = some m → (store m).isDungeon = true)
    (hfought : ∀ m id, (m, id) ∈ s'.battlegrounds → (store m).isBattlegroundOrArena = true)
    (hgiven : ∀ l ∈ s'.maps, l.parties.length ≤ 1) : s'.Kept store := by
  obtain ⟨hwild, hlowest, hused⟩ := InstanceIds.free_spec h.lowest hpos hin
  exact {
    inside := by rw [hmgr, hwild, h.inside]
    lowest := hmgr ▸ hlowest
    held := fun m id hh => by
      obtain ⟨hold, hne⟩ := hholds m id hh
      rw [hmgr, hused, if_neg hne]
      exact h.held m id hold
    one := fun m m' id hh hh' => h.one m m' id (hholds m id hh).1 (hholds m' id hh').1
    saved := hsaved
    fought := hfought
    given := hgiven }

theorem findMap_some {l : InstancedMap} (h : s.findMap m id = some l) :
    l ∈ s.maps ∧ l.isOf m id = true :=
  ⟨List.mem_of_find?_eq_some h, List.find?_some h⟩

theorem Kept.createInstance (h : s.Kept store) (hh : s.Holds store m id) :
    (s.createInstance m id []).Kept store := by
  refine h.stay rfl (fun m' i hh' => ?_) h.saved h.fought fun l hl => ?_
  · rcases hh' with hrow | hsave | ⟨l, hl, hof⟩ | hbg
    · exact .inl hrow
    · exact .inr (.inl hsave)
    · rcases List.mem_cons.mp hl with rfl | hl
      · obtain ⟨rfl, rfl⟩ := isOf_iff.mp hof
        exact hh
      · exact .inr (.inr (.inl ⟨l, hl, hof⟩))
    · exact .inr (.inr (.inr hbg))
  · rcases List.mem_cons.mp hl with rfl | hl
    · exact Nat.zero_le 1
    · exact h.given l hl

theorem Kept.enter {bound : Option Nat} (h : s.Kept store)
    (hok : (store m).isDungeon = true →
      bound.filter (fun id => s.saves.find? id == some m) = none → s.mgr.HasRoom) :
    (s.enter store alloc m party bound).Kept store := by
  unfold InstanceWorld.enter
  split
  · rename_i hdungeon
    cases hbound : bound.filter (fun id => s.saves.find? id == some m) with
    | some id =>
      simp only
      split
      · exact h
      · have hsave := (Option.filter_eq_some_iff.mp hbound).2
        exact h.createInstance (.inr (.inl (beq_iff_eq.mp hsave)))
    | none =>
      have hroom := hok hdungeon hbound
      obtain ⟨hid, -⟩ := InstanceIds.generate_spec alloc h.lowest hroom
      have hnone : ({ s with mgr := (s.mgr.generateInstanceId alloc).2 } : InstanceWorld).findMap m
          (s.mgr.generateInstanceId alloc).1 = none := by
        refine List.find?_eq_none.mpr fun l hl hof => ?_
        rw [hid] at hof
        exact h.not_holds h.lowest.free (.inr (.inr (.inl ⟨l, hl, hof⟩)))
      simp only [giveMap, hnone]
      refine h.generate (m := m) hroom rfl (fun m' i hh => ?_) h.saved h.fought fun l hl => ?_
      · rcases hh with hrow | hsave | ⟨l, hl, hof⟩ | hbg
        · exact .inl (.inl hrow)
        · exact .inl (.inr (.inl hsave))
        · rcases List.mem_cons.mp hl with rfl | hl
          · obtain ⟨rfl, rfl⟩ := isOf_iff.mp hof
            exact .inr ⟨hid, rfl⟩
          · exact .inl (.inr (.inr (.inl ⟨l, hl, hof⟩)))
        · exact .inl (.inr (.inr (.inr hbg)))
      · rcases List.mem_cons.mp hl with rfl | hl
        · exact le_rfl
        · exact h.given l hl
  · exact h

theorem Kept.addInstanceSave {load : Bool} (h : s.Kept store) (hh : s.Holds store m id)
    (hdungeon : (store m).isDungeon = true) : (s.addInstanceSave m id load).Kept store := by
  unfold InstanceWorld.addInstanceSave
  cases s.saves.find? id with
  | some _ => exact h
  | none =>
    simp only
    split
    · exact h
    · refine h.stay rfl (fun m' i hh' => ?_) (fun m' i hsave => ?_) h.fought h.given
      · rcases hh' with ⟨hrow, hd, hpos⟩ | hsave | hmap | hbg
        · have hrow' : s.rows.find? i = some m' ∨ i = id ∧ m' = m := by
            cases load with
            | true => exact .inl hrow
            | false =>
              simp only [Bool.false_eq_true, if_false, OrdMap.find?_insertNew] at hrow
              split at hrow
              · rename_i hi
                cases hf : s.rows.find? id with
                | none =>
                  rw [hf] at hrow
                  exact .inr ⟨hi, (Option.some.inj hrow).symm⟩
                | some m'' =>
                  rw [hf] at hrow
                  exact .inl (hi ▸ hf.trans hrow)
              · exact .inl hrow
          rcases hrow' with hrow' | ⟨rfl, rfl⟩
          · exact .inl ⟨hrow', hd, hpos⟩
          · exact hh
        · rw [OrdMap.find?_set] at hsave
          split at hsave
          · cases hsave
            subst i
            exact hh
          · exact .inr (.inl hsave)
        · exact .inr (.inr (.inl hmap))
        · exact .inr (.inr (.inr hbg))
      · rw [OrdMap.find?_set] at hsave
        split at hsave
        · cases hsave
          exact hdungeon
        · exact h.saved m' i hsave

theorem Kept.addPlayer (h : s.Kept store) : (s.addPlayer store m id).Kept store := by
  unfold InstanceWorld.addPlayer
  split
  · rename_i hcond
    obtain ⟨hdungeon, hsome⟩ := Bool.and_eq_true_iff.mp hcond
    obtain ⟨l, hl⟩ := Option.isSome_iff_exists.mp hsome
    exact h.addInstanceSave (.inr (.inr (.inl ⟨l, findMap_some hl⟩))) hdungeon
  · exact h

theorem Kept.loadSave (h : s.Kept store) : (s.loadSave store id).Kept store := by
  unfold InstanceWorld.loadSave
  cases hrow : s.rows.find? id with
  | none => exact h
  | some m =>
    simp only
    split
    · rename_i hdungeon
      by_cases h₀ : id = 0
      · -- the id 0 is turned down
        unfold InstanceWorld.addInstanceSave
        split
        · exact h
        · rw [if_pos h₀]
          exact h
      · exact h.addInstanceSave (.inl ⟨hrow, hdungeon, Nat.pos_of_ne_zero h₀⟩) hdungeon
    · exact h

theorem Kept.unloadSave (h : s.Kept store) : (s.unloadSave id).Kept store := by
  have hsub : ∀ m i, (s.saves.erase id).find? i = some m → s.saves.find? i = some m := by
    intro m i hf
    rw [OrdMap.find?_erase] at hf
    split at hf
    · cases hf
    · exact hf
  refine h.stay rfl (fun m i hh => ?_) (fun m i hf => h.saved m i (hsub m i hf)) h.fought h.given
  exact hh.imp (fun hrow => hrow) fun hh => hh.imp (hsub m i) fun hrest => hrest

theorem Kept.deleteInstance (h : s.Kept store) : (s.deleteInstance id).Kept store := by
  refine h.stay rfl (fun m i hh => ?_) h.saved h.fought h.given
  refine hh.imp (fun hrow => ?_) fun hrest => hrest
  obtain ⟨hf, hrest⟩ := hrow
  rw [InstanceWorld.deleteInstance, OrdMap.find?_erase] at hf
  split at hf
  · cases hf
  · exact ⟨hf, hrest⟩

theorem Kept.resetInstance (h : s.Kept store)
    (hok : (store m).instanceable = true → 0 < id ∧ id < s.mgr.ids.length ∧
      (∀ l ∈ s.maps, l.instanceId ≠ id) ∧ ∀ e ∈ s.battlegrounds, e.2 ≠ id) :
    (s.resetInstance store m id).Kept store := by
  unfold InstanceWorld.resetInstance
  split
  · rename_i hinst
    obtain ⟨hpos, hin, hmaps, hbgs⟩ := hok hinst
    refine h.free hpos hin rfl (fun m' i hh => ?_) (fun m' i hf => ?_) h.fought h.given
    · rcases hh with ⟨hrow, hrest⟩ | hsave | ⟨l, hl, hof⟩ | hbg
      · rw [OrdMap.find?_erase] at hrow
        split at hrow
        · cases hrow
        · exact ⟨.inl ⟨hrow, hrest⟩, ‹_›⟩
      · rw [OrdMap.find?_erase] at hsave
        split at hsave
        · cases hsave
        · exact ⟨.inr (.inl hsave), ‹_›⟩
      · exact ⟨.inr (.inr (.inl ⟨l, hl, hof⟩)), (isOf_iff.mp hof).2 ▸ hmaps l hl⟩
      · exact ⟨.inr (.inr (.inr hbg)), hbgs _ hbg⟩
    · rw [OrdMap.find?_erase] at hf
      split at hf
      · cases hf
      · exact h.saved m' i hf
  · exact h

theorem Kept.resetAll {hit : List Nat} (h : s.Kept store) : (s.resetAll m hit).Kept store := by
  refine h.stay rfl (fun m' i hh => ?_) (fun m' i hf => ?_) h.fought h.given
  · rcases hh with ⟨hrow, hrest⟩ | hsave | hrest
    · exact .inl ⟨(OrdMap.find?_filter.mp hrow).1, hrest⟩
    · exact .inr (.inl (OrdMap.find?_filter.mp hsave).1)
    · exact .inr (.inr hrest)
  · exact h.saved m' i (OrdMap.find?_filter.mp hf).1

theorem Kept.createBattleground (h : s.Kept store)
    (hok : (store m).isBattlegroundOrArena = true → s.mgr.HasRoom) :
    (s.createBattleground store alloc m).Kept store := by
  unfold InstanceWorld.createBattleground
  split
  · rename_i hbattle
    have hroom := hok hbattle
    obtain ⟨hid, -⟩ := InstanceIds.generate_spec alloc h.lowest hroom
    refine h.generate (m := m) hroom rfl (fun m' i hh => ?_) h.saved (fun m' i hbg => ?_) h.given
    · rcases hh with hrow | hsave | hmap | hbg
      · exact .inl (.inl hrow)
      · exact .inl (.inr (.inl hsave))
      · exact .inl (.inr (.inr (.inl hmap)))
      · rcases List.mem_cons.mp hbg with heq | hbg
        · cases heq
          exact .inr ⟨hid, rfl⟩
        · exact .inl (.inr (.inr (.inr hbg)))
    · rcases List.mem_cons.mp hbg with heq | hbg
      · cases heq
        exact hbattle
      · exact h.fought m' i hbg
  · exact h

theorem Kept.enterBattleground (h : s.Kept store) : (s.enterBattleground m id).Kept store := by
  unfold InstanceWorld.enterBattleground
  split
  · rename_i hcond
    have hmem := (Bool.and_eq_true_iff.mp hcond).1
    exact h.createInstance (.inr (.inr (.inr (List.contains_iff_mem.mp hmem))))
  · exact h

theorem Kept.endBattleground (h : s.Kept store) : (s.endBattleground m id).Kept store := by
  refine h.stay rfl (fun m' i hh => ?_) h.saved
    (fun m' i hbg => h.fought m' i (List.mem_of_mem_filter hbg)) h.given
  rcases hh with hrow | hsave | hmap | hbg
  · exact .inl hrow
  · exact .inr (.inl hsave)
  · exact .inr (.inr (.inl hmap))
  · exact .inr (.inr (.inr (List.mem_of_mem_filter hbg)))

theorem Kept.unloadMap (h : s.Kept store) : (s.unloadMap store m id).Kept store := by
  unfold InstanceWorld.unloadMap
  split
  · rename_i hcond
    obtain ⟨hsome, hover⟩ := Bool.and_eq_true_iff.mp hcond
    obtain ⟨l, hl⟩ := Option.isSome_iff_exists.mp hsome
    have hheld : s.Holds store m id := .inr (.inr (.inl ⟨l, findMap_some hl⟩))
    let t : InstanceWorld := { s with maps := s.maps.filter fun l => !l.isOf m id }
    have hsub : ∀ m' i, t.Holds store m' i → s.Holds store m' i := by
      intro m' i hh
      rcases hh with hrow | hsave | ⟨l, hl, hof⟩ | hbg
      · exact .inl hrow
      · exact .inr (.inl hsave)
      · exact .inr (.inr (.inl ⟨l, List.mem_of_mem_filter hl, hof⟩))
      · exact .inr (.inr (.inr hbg))
    have hgiven : ∀ l ∈ t.maps, l.parties.length ≤ 1 := fun l hl =>
      h.given l (List.mem_of_mem_filter hl)
    simp only
    split
    · rename_i hbattle
      obtain ⟨hpos, hused⟩ := h.held m id hheld
      refine h.free hpos (InstanceIds.lt_of_used hused) rfl (fun m' i hh => ?_) h.saved h.fought
        hgiven
      have hh' : t.Holds store m' i := hh
      refine ⟨hsub m' i hh', ?_⟩
      rintro rfl
      have heq : m' = m := h.one m' m i (hsub m' i hh') hheld
      subst heq
      have hno : ¬ (store m').isDungeon = true := fun hd => by
        rw [MapTypes.not_battleground hd] at hbattle
        cases hbattle
      rcases hh' with ⟨-, hd, -⟩ | hsave | ⟨l', hl', hof⟩ | hbg
      · exact hno hd
      · exact hno (h.saved m' i hsave)
      · have hrest := (List.mem_filter.mp hl').2
        rw [hof] at hrest
        cases hrest
      · rw [show s.battlegrounds.contains (m', i) = true from List.contains_iff_mem.mpr hbg] at hover
        cases hover
    · exact h.stay rfl hsub h.saved h.fought hgiven
  · exact h

/-- The vector has room for what the database holds: its size is rounded up to a multiple of 32,
which leaves the largest id out when that is one itself. -/
def StartsWell (rows : OrdMap Nat Nat) : Prop :=
  rows.entries = [] ∨ maxId rows % 32 ≠ 0 ∧ maxId rows < 2 ^ 32 - 32

/-- The vector has room where an id is generated, and an id is freed with no map or battleground
under it. -/
def Allowed (store : Nat → MapTypes) (s : InstanceWorld) : InstanceEvent → Prop
  | .enter m _ bound => (store m).isDungeon = true →
      bound.filter (fun id => s.saves.find? id == some m) = none → s.mgr.HasRoom
  | .createBattleground m => (store m).isBattlegroundOrArena = true → s.mgr.HasRoom
  | .resetInstance m id => (store m).instanceable = true → 0 < id ∧ id < s.mgr.ids.length ∧
      (∀ l ∈ s.maps, l.instanceId ≠ id) ∧ ∀ e ∈ s.battlegrounds, e.2 ≠ id
  | _ => True

instance (s : InstanceWorld) (e : InstanceEvent) : Decidable (Allowed store s e) := by
  cases e <;> unfold Allowed <;> infer_instance

theorem le_maxId {rows : OrdMap Nat Nat} (h : id ∈ idsOf rows) : id ≤ maxId rows := by
  unfold maxId
  generalize idsOf rows = l at h
  induction l with
  | nil => cases h
  | cons a l ih =>
    rcases List.mem_cons.mp h with rfl | h
    · exact le_max_left _ _
    · exact (ih h).trans (le_max_right _ _)

theorem Kept.start {rows : OrdMap Nat Nat} (h : StartsWell rows) : (start alloc rows).Kept store := by
  let r : InstanceIds := .initInstanceIds alloc (maxId rows)
  have hunused : ∀ i, r.used i = false := fun i => by
    rw [show r.used i = _ from InstanceIds.used_resize (Nat.zero_le _)]
    rfl
  have hlen : r.ids.length = InstanceIds.roundUp (maxId rows) :=
    InstanceIds.length_resize (Nat.zero_le _)
  have hlowest : r.Lowest :=
    InstanceIds.lowest_of Nat.one_pos (hunused 1) fun i hi₀ hi => absurd hi (Nat.not_lt.mpr hi₀)
  have hsorted : (idsOf rows).Pairwise (· < ·) := List.pairwise_map.mpr rows.sorted
  obtain ⟨hwild, hlow, hused⟩ := InstanceIds.load_spec (l := idsOf rows) hlowest hsorted
    (fun i hi => by
      rw [hunused] at hi
      cases hi)
    (fun i hi => by
      have hle := le_maxId hi
      rcases h with hnil | ⟨hmod, hlt⟩
      · rw [idsOf, hnil] at hi
        cases hi
      · have hup := InstanceIds.roundUp_gt hmod hlt
        rw [hlen]
        omega)
  have hrow : ∀ m i, (InstanceWorld.start alloc rows).Holds store m i →
      rows.find? i = some m ∧ 0 < i := by
    intro m i hh
    rcases hh with ⟨hrow, -, hpos⟩ | hsave | ⟨l, hl, -⟩ | hbg
    · exact ⟨hrow, hpos⟩
    · cases hsave
    · cases hl
    · cases hbg
  exact {
    inside := hwild
    lowest := hlow
    held := fun m i hh => by
      obtain ⟨hf, hpos⟩ := hrow m i hh
      exact ⟨hpos, (hused i).mpr (.inr (List.mem_map_of_mem (OrdMap.find?_eq_some.mp hf)))⟩
    one := fun m m' i hh hh' => by
      have hf := (hrow m i hh).1
      rw [(hrow m' i hh').1] at hf
      exact (Option.some.inj hf).symm
    saved := fun m i hf => nomatch hf
    fought := fun m i hf => nomatch hf
    given := fun l hl => nomatch hl }

theorem Kept.step {e : InstanceEvent} (h : s.Kept store) (hok : Allowed store s e) :
    (s.step store alloc e).Kept store := by
  cases e with
  | enter m party bound => exact h.enter hok
  | addPlayer m id => exact h.addPlayer
  | loadSave id => exact h.loadSave
  | unloadSave id => exact h.unloadSave
  | deleteInstance id => exact h.deleteInstance
  | resetInstance m id => exact h.resetInstance hok
  | resetAll m hit => exact h.resetAll
  | createBattleground m => exact h.createBattleground hok
  | enterBattleground m id => exact h.enterBattleground
  | endBattleground m id => exact h.endBattleground
  | unloadMap m id => exact h.unloadMap

/-- As long as the vector has room and ids are freed only after their maps, the ids are sound. -/
theorem instance_ids {store : Nat → MapTypes} {alloc : Nat → Nat → Nat} {rows : OrdMap Nat Nat}
    {es : List InstanceEvent} {s : InstanceWorld} (hrows : StartsWell rows)
    (hrun : Run (fun s e => s.step store alloc e) (Allowed store) (start alloc rows) es s) :
    s.Sound := by
  have hkept : s.Kept store := hrun.invariant (fun _ _ h hok => h.step hok) (.start hrows)
  exact hkept.sound

def twoMaps : Nat → MapTypes
  | 1 => .MAP_INSTANCE
  | 2 => .MAP_BATTLEGROUND
  | _ => .MAP_COMMON

def words (_ n : Nat) : Nat := (n + 63) / 64 * 64

/-- A dungeon is left, its map unloaded and the instance reset; a battleground gets the id. -/
def orderlyReset : List InstanceEvent :=
  [.enter 1 7 none, .addPlayer 1 1, .unloadMap 1 1, .resetInstance 1 1, .createBattleground 2,
    .enterBattleground 2 1, .enter 1 8 none, .endBattleground 2 1, .unloadMap 2 1]

theorem instance_ids_orderlyReset :
    (orderlyReset.foldl (fun s e => s.step twoMaps words e) (start words ∅)).Sound :=
  instance_ids (.inl rfl) (Admitted.run (by decide +kernel))

/-- The instance is reset while a party is in its map, and another party enters the dungeon. -/
def earlyReset : List InstanceEvent :=
  [.enter 1 7 none, .addPlayer 1 1, .resetInstance 1 1, .enter 1 8 none]

/-- It is given the same map. -/
theorem instance_ids_earlyReset : ¬ ∀ (store : Nat → MapTypes) (alloc : Nat → Nat → Nat)
    (rows : OrdMap Nat Nat) (es : List InstanceEvent) (s : InstanceWorld),
    Run (fun s e => s.step store alloc e) (fun _ _ => True) (start alloc rows) es s → s.Sound := by
  intro hall
  have hsound := hall twoMaps words ∅ earlyReset _ (.free earlyReset)
  have hmaps : (earlyReset.foldl (fun s e => s.step twoMaps words e) (start words ∅)).maps =
      [⟨1, 1, [8, 7]⟩] := by decide +kernel
  have hsame := hsound.apart ⟨1, 1, [8, 7]⟩ (by rw [hmaps]; exact List.mem_cons_self) 8 (by simp)
    7 (by simp)
  cases hsame

end InstanceWorld

end SkyfireBG
