import SkyfireBG.Lib.Persist
import SkyfireBG.Lib.Run

/-!
# SkyfireBG.Player.EquipmentSets

The equipment sets of a player: one at each index, with a guid under which its row is stored.

* `setEquipmentSet_kept`, `deleteEquipmentSet_kept` — the states tell what became of the rows.
* `saveEquipmentSets_kept`                          — and a save makes the rows those of the sets.
-/

namespace SkyfireBG

inductive EquipmentSetUpdateState where
  | unchanged | changed | new | deleted
deriving DecidableEq, Repr

structure EquipmentSet where
  Guid : Nat := 0
  Name : String := ""
  IconName : String := ""
  Items : List UInt32 := List.replicate 19 0
  state : EquipmentSetUpdateState := .new
deriving DecidableEq, Repr

/-- A row of `character_equipmentsets` of the player, stored under its `setguid`. -/
structure EquipmentSetRow where
  setindex : Nat
  name : String
  iconname : String
  items : List UInt32
deriving DecidableEq, Repr

structure EquipmentSets where
  m_EquipmentSets : OrdMap Nat EquipmentSet := ∅
  rows : OrdMap Nat EquipmentSetRow := ∅
  /-- The generator of `ObjectMgr`; the server stops before it would wrap. -/
  equipmentSetGuid : Nat := 1

namespace EquipmentSets

def setEquipmentSet (s : EquipmentSets) (index : Nat) (eqset : EquipmentSet) : EquipmentSets :=
  let eqslot := (s.m_EquipmentSets.find? index).getD {}
  if eqset.Guid ≠ 0 ∧
      ¬(s.m_EquipmentSets.find? index).any (fun eqslot => eqslot.Guid = eqset.Guid) then s
  else
    let state := if eqslot.state = .new then EquipmentSetUpdateState.new else .changed
    if eqset.Guid = 0 then
      { s with
        m_EquipmentSets :=
          s.m_EquipmentSets.set index { eqset with Guid := s.equipmentSetGuid, state := state }
        equipmentSetGuid := s.equipmentSetGuid + 1 }
    else
      { s with m_EquipmentSets := s.m_EquipmentSets.set index { eqset with state := state } }

/-- `DeleteEquipmentSet`: the first set with the guid. -/
def deleteEquipmentSet (s : EquipmentSets) (setGuid : Nat) : EquipmentSets :=
  match s.m_EquipmentSets.entries.find? (fun e => e.2.Guid = setGuid) with
  | none => s
  | some (index, eqset) =>
    if eqset.state = .new then { s with m_EquipmentSets := s.m_EquipmentSets.erase index }
    else { s with m_EquipmentSets := s.m_EquipmentSets.set index { eqset with state := .deleted } }

def rowOf (index : Nat) (eqset : EquipmentSet) : EquipmentSetRow :=
  ⟨index, eqset.Name, eqset.IconName, eqset.Items⟩

/-- The statement for a set.  An update matches the row with its guid and its index. -/
def saveStatement (index : Nat) (eqset : EquipmentSet) : List (Statement EquipmentSetRow) :=
  match eqset.state with
  | .unchanged => []
  | .changed => [.update fun row => if row.setindex = index then rowOf index eqset else row]
  | .new => [.insert (rowOf index eqset)]
  | .deleted => [.delete]

def saveEquipmentSets (s : EquipmentSets) : EquipmentSets :=
  { s with
    m_EquipmentSets := s.m_EquipmentSets.filterMap fun _ eqset =>
      if eqset.state = .deleted then none else some { eqset with state := .unchanged }
    rows := saveRows (fun e => e.2.Guid) (fun e => saveStatement e.1 e.2) s.m_EquipmentSets.entries
      s.rows }

def Agree (index : Nat) (eqset : EquipmentSet) (row : Option EquipmentSetRow) : Prop :=
  match eqset.state with
  | .unchanged => row = some (rowOf index eqset)
  | .changed => ∃ old, row = some old ∧ old.setindex = index
  | .new => row = none
  | .deleted => ∃ old, row = some old ∧ old.setindex = index

structure Kept (s : EquipmentSets) : Prop where
  agree : ∀ index eqset, s.m_EquipmentSets.find? index = some eqset →
    Agree index eqset (s.rows.find? eqset.Guid)
  guid : ∀ index eqset, s.m_EquipmentSets.find? index = some eqset →
    0 < eqset.Guid ∧ eqset.Guid < s.equipmentSetGuid
  distinct : ∀ i j a b, s.m_EquipmentSets.find? i = some a → s.m_EquipmentSets.find? j = some b →
    a.Guid = b.Guid → i = j
  rows : ∀ guid row, s.rows.find? guid = some row →
    ∃ index eqset, s.m_EquipmentSets.find? index = some eqset ∧ eqset.Guid = guid ∧
      row.setindex = index
  start : 0 < s.equipmentSetGuid

theorem empty_kept (n : Nat) : Kept { equipmentSetGuid := n + 1 } where
  agree := fun index eqset h => by cases h
  guid := fun index eqset h => by cases h
  distinct := fun i j a b h => by cases h
  rows := fun guid row h => by cases h
  start := Nat.succ_pos n

/-- The condition of a change: a new set goes to a free index, or over one that was never saved. -/
def Proper (s : EquipmentSets) (index : Nat) (eqset : EquipmentSet) : Prop :=
  eqset.Guid = 0 → ∀ old, s.m_EquipmentSets.find? index = some old → old.state = .new

variable {s : EquipmentSets} {index : Nat} {eqset : EquipmentSet}

theorem Kept.replace {old : EquipmentSet} (h : Kept s) (hf : s.m_EquipmentSets.find? index = some old)
    (hguid : eqset.Guid = old.Guid) (hagree : Agree index eqset (s.rows.find? old.Guid)) :
    Kept { s with m_EquipmentSets := s.m_EquipmentSets.set index eqset } := by
  have hguids : ∀ i a, (s.m_EquipmentSets.set index eqset).find? i = some a →
      ∃ b, s.m_EquipmentSets.find? i = some b ∧ a.Guid = b.Guid := by
    intro i a ha
    rcases OrdMap.find?_set_eq_some.mp ha with ⟨rfl, rfl⟩ | ⟨-, ha⟩
    · exact ⟨old, hf, hguid⟩
    · exact ⟨a, ha, rfl⟩
  refine ⟨fun i a ha => ?_, fun i a ha => ?_, fun i j a b ha hb heq => ?_, fun guid row hrow => ?_,
    h.start⟩
  · rcases OrdMap.find?_set_eq_some.mp ha with ⟨rfl, rfl⟩ | ⟨-, ha⟩
    · rw [hguid]
      exact hagree
    · exact h.agree i a ha
  · obtain ⟨b, hb, heq⟩ := hguids i a ha
    rw [heq]
    exact h.guid i b hb
  · obtain ⟨a', ha', heqa⟩ := hguids i a ha
    obtain ⟨b', hb', heqb⟩ := hguids j b hb
    exact h.distinct i j a' b' ha' hb' (by rw [← heqa, ← heqb, heq])
  · obtain ⟨i, a, ha, hg, hi⟩ := h.rows guid row hrow
    by_cases heq : i = index
    · rw [heq, hf] at ha
      cases ha
      exact ⟨index, eqset, OrdMap.find?_set_same, hguid.trans hg, hi.trans heq⟩
    · exact ⟨i, a, by rw [OrdMap.find?_set_ne heq, ha], hg, hi⟩

theorem Kept.rows_ne {old : EquipmentSet} (h : Kept s) (hf : s.m_EquipmentSets.find? index = some old)
    (hnew : old.state = .new) {guid : Nat} {row : EquipmentSetRow}
    (hrow : s.rows.find? guid = some row) :
    ∃ i a, i ≠ index ∧ s.m_EquipmentSets.find? i = some a ∧ a.Guid = guid ∧ row.setindex = i := by
  obtain ⟨i, a, ha, hg, hi⟩ := h.rows guid row hrow
  refine ⟨i, a, fun heq => ?_, ha, hg, hi⟩
  rw [heq, hf] at ha
  cases ha
  have hagree := h.agree index old hf
  rw [Agree, hnew, hg, hrow] at hagree
  cases hagree

theorem setEquipmentSet_kept (h : Kept s) (hproper : Proper s index eqset) :
    Kept (s.setEquipmentSet index eqset) := by
  rw [setEquipmentSet]
  simp only
  by_cases hzero : eqset.Guid = 0
  · -- a set with a guid of its own, at a free index or over a set that has no row
    rw [if_neg (fun hne => hne.1 hzero), if_pos hzero]
    have hnew : ((s.m_EquipmentSets.find? index).getD {}).state = .new := by
      cases hf : s.m_EquipmentSets.find? index with
      | none => rfl
      | some old => exact hproper hzero old hf
    rw [if_pos hnew]
    have hothers : ∀ guid row, s.rows.find? guid = some row → ∃ i a, i ≠ index ∧
        s.m_EquipmentSets.find? i = some a ∧ a.Guid = guid ∧ row.setindex = i := by
      intro guid row hrow
      cases hf : s.m_EquipmentSets.find? index with
      | none =>
        obtain ⟨i, a, ha, hg, hi⟩ := h.rows guid row hrow
        refine ⟨i, a, fun heq => ?_, ha, hg, hi⟩
        rw [heq, hf] at ha
        cases ha
      | some old => exact h.rows_ne hf (hproper hzero old hf) hrow
    refine ⟨fun i a ha => ?_, fun i a ha => ?_, fun i j a b ha hb heq => ?_, fun guid row hrow => ?_,
      Nat.succ_pos _⟩
    · rcases OrdMap.find?_set_eq_some.mp ha with ⟨rfl, rfl⟩ | ⟨-, ha⟩
      · simp only [Agree]
        cases hrow : s.rows.find? s.equipmentSetGuid with
        | none => rfl
        | some row =>
          obtain ⟨j, b, -, hb, hg, -⟩ := hothers _ row hrow
          have hlt := (h.guid j b hb).2
          omega
      · exact h.agree i a ha
    · rcases OrdMap.find?_set_eq_some.mp ha with ⟨rfl, rfl⟩ | ⟨-, ha⟩
      · exact ⟨h.start, Nat.lt_succ_self _⟩
      · exact ⟨(h.guid i a ha).1, Nat.lt_succ_of_lt (h.guid i a ha).2⟩
    · rcases OrdMap.find?_set_eq_some.mp ha with ⟨rfl, rfl⟩ | ⟨-, ha'⟩ <;>
        rcases OrdMap.find?_set_eq_some.mp hb with ⟨rfl, rfl⟩ | ⟨-, hb'⟩
      · rfl
      · have hlt := (h.guid j b hb').2
        simp only at heq
        omega
      · have hlt := (h.guid i a ha').2
        simp only at heq
        omega
      · exact h.distinct i j a b ha' hb' heq
    · obtain ⟨i, a, hne, ha, hg, hi⟩ := hothers guid row hrow
      exact ⟨i, a, by rw [OrdMap.find?_set_ne hne, ha], hg, hi⟩
  · -- a change of a set that is there
    by_cases hfound : (s.m_EquipmentSets.find? index).any (fun eqslot => eqslot.Guid = eqset.Guid) =
        true
    · rw [if_neg (fun hne => hne.2 hfound), if_neg hzero]
      cases hf : s.m_EquipmentSets.find? index with
      | none =>
        rw [hf] at hfound
        cases hfound
      | some old =>
        rw [hf] at hfound
        have hguid : old.Guid = eqset.Guid := of_decide_eq_true hfound
        have hagree := h.agree index old hf
        refine h.replace hf hguid.symm ?_
        rw [Option.getD_some]
        cases hstate : old.state <;> simp_all [Agree, rowOf]
    · rw [if_pos ⟨hzero, hfound⟩]
      exact h

theorem deleteEquipmentSet_kept (h : Kept s) (setGuid : Nat) :
    Kept (s.deleteEquipmentSet setGuid) := by
  rw [deleteEquipmentSet]
  split
  · exact h
  next index eqset hfind =>
    have hf : s.m_EquipmentSets.find? index = some eqset :=
      OrdMap.find?_eq_some.mpr (List.mem_of_find?_eq_some hfind)
    have hagree := h.agree index eqset hf
    split
    next hnew =>
      have hkeep : ∀ i a, (s.m_EquipmentSets.erase index).find? i = some a →
          s.m_EquipmentSets.find? i = some a := by
        intro i a ha
        rw [OrdMap.find?_erase] at ha
        split at ha
        · cases ha
        · exact ha
      refine ⟨fun i a ha => h.agree i a (hkeep i a ha), fun i a ha => h.guid i a (hkeep i a ha),
        fun i j a b ha hb => h.distinct i j a b (hkeep i a ha) (hkeep j b hb),
        fun guid row hrow => ?_, h.start⟩
      obtain ⟨i, a, hne, ha, hg, hi⟩ := h.rows_ne hf hnew hrow
      exact ⟨i, a, by rw [OrdMap.find?_erase_ne hne, ha], hg, hi⟩
    next hold =>
      have hguid : ({ eqset with state := .deleted } : EquipmentSet).Guid = eqset.Guid := rfl
      refine h.replace hf hguid ?_
      cases hstate : eqset.state <;> simp_all [Agree, rowOf]

theorem saveEquipmentSets_rows (h : Kept s) (guid : Nat) (row : EquipmentSetRow) :
    (s.saveEquipmentSets).rows.find? guid = some row ↔
      ∃ index eqset, s.m_EquipmentSets.find? index = some eqset ∧ eqset.state ≠ .deleted ∧
        eqset.Guid = guid ∧ row = rowOf index eqset := by
  have hnodup : (s.m_EquipmentSets.entries.map fun e => e.2.Guid).Nodup := by
    refine List.Nodup.map_on (fun a ha b hb heq => ?_)
      (s.m_EquipmentSets.sorted.imp fun hlt heq => absurd (congrArg Prod.fst heq) hlt.ne)
    have hfa := OrdMap.find?_eq_some.mpr ha
    have hfb := OrdMap.find?_eq_some.mpr hb
    have hindex := h.distinct a.1 b.1 a.2 b.2 hfa hfb heq
    rw [hindex, hfb] at hfa
    exact Prod.ext hindex (Option.some.inj hfa).symm
  have hsaved : ∀ index eqset, s.m_EquipmentSets.find? index = some eqset →
      s.saveEquipmentSets.rows.find? eqset.Guid =
        if eqset.state = .deleted then none else some (rowOf index eqset) := by
    intro index eqset hf
    have hagree := h.agree index eqset hf
    refine (find?_saveRows _ _ hnodup (OrdMap.find?_eq_some.mp hf)).trans ?_
    simp only
    cases hstate : eqset.state with
    | unchanged =>
      rw [Agree, hstate] at hagree
      simp [saveStatement, hstate, Statement.onAll, hagree]
    | changed =>
      rw [Agree, hstate] at hagree
      obtain ⟨old, hold, hindex⟩ := hagree
      simp [saveStatement, hstate, Statement.onAll, Statement.on, hold, hindex]
    | new =>
      rw [Agree, hstate] at hagree
      simp [saveStatement, hstate, Statement.onAll, Statement.on, hagree]
    | deleted => simp [saveStatement, hstate, Statement.onAll, Statement.on]
  constructor
  · intro hrow
    by_cases hset : ∃ index eqset, s.m_EquipmentSets.find? index = some eqset ∧ eqset.Guid = guid
    · obtain ⟨index, eqset, hf, rfl⟩ := hset
      rw [hsaved index eqset hf] at hrow
      split at hrow
      · cases hrow
      next hstate => exact ⟨index, eqset, hf, hstate, rfl, (Option.some.inj hrow).symm⟩
    · have hold : s.saveEquipmentSets.rows.find? guid = s.rows.find? guid :=
        find?_saveRows_of_none fun e he heq =>
          hset ⟨e.1, e.2, OrdMap.find?_eq_some.mpr he, heq⟩
      rw [hold] at hrow
      obtain ⟨index, eqset, hf, hguid, -⟩ := h.rows guid row hrow
      exact absurd ⟨index, eqset, hf, hguid⟩ hset
  · rintro ⟨index, eqset, hf, hstate, rfl, rfl⟩
    rw [hsaved index eqset hf, if_neg hstate]

theorem saveEquipmentSets_sets :
    s.saveEquipmentSets.m_EquipmentSets.find? index = some eqset ↔
      ∃ old, s.m_EquipmentSets.find? index = some old ∧ old.state ≠ .deleted ∧
        eqset = { old with state := .unchanged } := by
  rw [saveEquipmentSets, OrdMap.find?_filterMap, Option.bind_eq_some_iff]
  constructor
  · rintro ⟨old, hf, hnext⟩
    split at hnext
    · cases hnext
    next hstate => exact ⟨old, hf, hstate, (Option.some.inj hnext).symm⟩
  · rintro ⟨old, hf, hstate, rfl⟩
    exact ⟨old, hf, if_neg hstate⟩

theorem saveEquipmentSets_kept (h : Kept s) : Kept s.saveEquipmentSets where
  agree := by
    intro index eqset hf
    obtain ⟨old, hold, hstate, rfl⟩ := saveEquipmentSets_sets.mp hf
    exact (saveEquipmentSets_rows h old.Guid _).mpr ⟨index, old, hold, hstate, rfl, rfl⟩
  guid := by
    intro index eqset hf
    obtain ⟨old, hold, -, rfl⟩ := saveEquipmentSets_sets.mp hf
    exact h.guid index old hold
  distinct := by
    intro i j a b ha hb heq
    obtain ⟨a', ha', -, rfl⟩ := saveEquipmentSets_sets.mp ha
    obtain ⟨b', hb', -, rfl⟩ := saveEquipmentSets_sets.mp hb
    exact h.distinct i j a' b' ha' hb' heq
  rows := by
    intro guid row hrow
    obtain ⟨index, old, hold, hstate, hguid, rfl⟩ := (saveEquipmentSets_rows h guid row).mp hrow
    exact ⟨index, _, saveEquipmentSets_sets.mpr ⟨old, hold, hstate, rfl⟩, hguid, rfl⟩
  start := h.start

end EquipmentSets

end SkyfireBG
