import SkyfireBG.Player.EquipmentSets

/-!
# SkyfireBG.Player.Talents

The talents of a player, for each spec the spells of the ranks that were learned.  With the equipment
sets they are saved as changes.

* `addTalent_kept`          — a rank takes the place of the other ranks of its talent.
* `sets_and_talents_saved`  — the rows after every save.
-/

namespace SkyfireBG

inductive PlayerSpellState where
  | unchanged | changed | new | removed | temporary
deriving DecidableEq, Repr

abbrev MAX_TALENT_SPECS : Nat := 2

structure TalentStore where
  /-- The spell exists, and `IsSpellValid` accepts it. -/
  isSpellValid : Nat → Bool
  ranks : OrdMap Nat (List Nat)

namespace TalentStore

/-- `GetTalentSpellPos`: the map is filled in the order of the talents, so that the last one stays. -/
def talentSpellPos (d : TalentStore) (spellId : Nat) : Option Nat :=
  ((d.ranks.entries.filter fun t => decide (spellId ≠ 0) && decide (spellId ∈ t.2)).getLast?).map
    Prod.fst

theorem mem_ranks_of_pos {d : TalentStore} {spellId t : Nat} (h : d.talentSpellPos spellId = some t) :
    ∃ ranks, d.ranks.find? t = some ranks ∧ spellId ∈ ranks ∧ spellId ≠ 0 := by
  obtain ⟨e, he, rfl⟩ := Option.map_eq_some_iff.mp h
  obtain ⟨hmem, hp⟩ := List.mem_filter.mp (List.mem_of_getLast? he)
  simp only [Bool.and_eq_true, decide_eq_true_eq] at hp
  exact ⟨e.2, OrdMap.find?_eq_some.mpr hmem, hp.2, hp.1⟩

end TalentStore

/-- The talents of each spec, and the rows of `character_talent` of each spec. -/
structure Talents where
  talents : Fin MAX_TALENT_SPECS → OrdMap Nat PlayerSpellState := fun _ => ∅
  rows : Fin MAX_TALENT_SPECS → OrdMap Nat Unit := fun _ => ∅

namespace Talents

def removeRanks (spellId : Nat) (ranks : List Nat) (m : OrdMap Nat PlayerSpellState) :
    OrdMap Nat PlayerSpellState :=
  ranks.foldl (fun m rankSpellId =>
    if rankSpellId = 0 ∨ rankSpellId = spellId then m
    else m.update rankSpellId fun _ => .removed) m

def addTalent (d : TalentStore) (s : Talents) (spellId : Nat) (spec : Fin MAX_TALENT_SPECS)
    (learning : Bool) : Talents :=
  if d.isSpellValid spellId = false then s
  else
    match (s.talents spec).find? spellId with
    | some _ =>
      { s with talents := Function.update s.talents spec ((s.talents spec).set spellId .unchanged) }
    | none =>
      match d.talentSpellPos spellId with
      | none => s
      | some talent_id =>
        let m :=
          match d.ranks.find? talent_id with
          | some ranks => removeRanks spellId ranks (s.talents spec)
          | none => s.talents spec
        { s with
          talents := Function.update s.talents spec
            (m.set spellId (if learning then .new else .unchanged)) }

def saveRule : SaveRule PlayerSpellState Unit where
  statements state :=
    (if state = .removed ∨ state = .changed then [.delete] else []) ++
      if state = .new ∨ state = .changed then [.insert ()] else []
  next state := if state = .removed then none else some .unchanged

def saveTalents (s : Talents) : Talents where
  talents spec := saveRule.entries (s.talents spec)
  rows spec := saveRule.rows (s.talents spec) (s.rows spec)

/-! ## States and rows -/

def Agree : Option PlayerSpellState → Option Unit → Prop
  | none, row => row = none
  | some .unchanged, row => row = some ()
  | some .new, row => row = none
  | some .removed, _ => True
  | some .changed, _ => False
  | some .temporary, _ => False

def Live (m : OrdMap Nat PlayerSpellState) (spellId : Nat) : Prop :=
  ∃ state, m.find? spellId = some state ∧ state ≠ .removed

structure Kept (d : TalentStore) (s : Talents) : Prop where
  agree : ∀ spec k, Agree ((s.talents spec).find? k) ((s.rows spec).find? k)
  single : ∀ spec t a b, d.talentSpellPos a = some t → d.talentSpellPos b = some t →
    Live (s.talents spec) a → Live (s.talents spec) b → a = b

variable {d : TalentStore} {s : Talents} {spellId : Nat} {spec : Fin MAX_TALENT_SPECS}
  {learning : Bool} {m : OrdMap Nat PlayerSpellState} {ranks : List Nat} {k : Nat}

theorem empty_kept : Kept d {} where
  agree := fun _ _ => rfl
  single := fun spec t a b _ _ ha _ => by
    obtain ⟨state, hf, -⟩ := ha
    cases hf

theorem find?_removeRanks : (removeRanks spellId ranks m).find? k =
    if k ∈ ranks ∧ k ≠ 0 ∧ k ≠ spellId then (m.find? k).map fun _ => .removed else m.find? k := by
  induction ranks generalizing m with
  | nil => simp [removeRanks]
  | cons r ranks ih =>
    rw [removeRanks, List.foldl_cons]
    refine ih.trans ?_
    by_cases hskip : r = 0 ∨ r = spellId
    · rw [if_pos hskip]
      have hiff : k ∈ r :: ranks ∧ k ≠ 0 ∧ k ≠ spellId ↔ k ∈ ranks ∧ k ≠ 0 ∧ k ≠ spellId := by
        rw [List.mem_cons]
        constructor
        · rintro ⟨hk | hk, h0, hs⟩
          · omega
          · exact ⟨hk, h0, hs⟩
        · rintro ⟨hk, h0, hs⟩
          exact ⟨.inr hk, h0, hs⟩
      simp only [hiff]
    · rw [if_neg hskip]
      simp only [OrdMap.find?_update, List.mem_cons]
      by_cases hk : k = r
      · subst hk
        rw [if_pos rfl, if_pos (show (k = k ∨ k ∈ ranks) ∧ k ≠ 0 ∧ k ≠ spellId by
          simpa [not_or] using hskip)]
        split
        · cases m.find? k <;> rfl
        · rfl
      · simp only [hk, false_or, if_false]

/-- The condition of a call: the rank is not known, and is learned, or is known and saved. -/
def Proper (d : TalentStore) (s : Talents) (spellId : Nat) (spec : Fin MAX_TALENT_SPECS)
    (learning : Bool) : Prop :=
  d.isSpellValid spellId = true →
    match (s.talents spec).find? spellId with
    | some state => state = .unchanged
    | none => learning = true

theorem Kept.update (h : Kept d s) (hagree : ∀ k, Agree (m.find? k) ((s.rows spec).find? k))
    (hsingle : ∀ t a b, d.talentSpellPos a = some t → d.talentSpellPos b = some t →
      Live m a → Live m b → a = b) :
    Kept d { s with talents := Function.update s.talents spec m } where
  agree := by
    intro spec' k
    by_cases hspec : spec' = spec
    · subst hspec
      simp only [Function.update_self]
      exact hagree k
    · simp only [Function.update_of_ne hspec]
      exact h.agree spec' k
  single := by
    intro spec' t a b
    by_cases hspec : spec' = spec
    · subst hspec
      simp only [Function.update_self]
      exact hsingle t a b
    · simp only [Function.update_of_ne hspec]
      exact h.single spec' t a b

theorem addTalent_kept (h : Kept d s) (hproper : Proper d s spellId spec learning) :
    Kept d (s.addTalent d spellId spec learning) := by
  rw [addTalent]
  split
  · exact h
  next hvalid =>
  have hproper := hproper (by simpa using hvalid)
  cases hf : (s.talents spec).find? spellId with
  | some state =>
    -- the state is as it was
    rw [hf] at hproper
    simp only at hproper
    subst hproper
    have hsame : ∀ k, ((s.talents spec).set spellId .unchanged).find? k = (s.talents spec).find? k := by
      intro k
      rw [OrdMap.find?_set]
      split
      next hk => rw [hk, hf]
      · rfl
    refine h.update (fun k => ?_) fun t a b ha hb hla hlb => ?_
    · rw [hsame]
      exact h.agree spec k
    · simp only [Live, hsame] at hla hlb
      exact h.single spec t a b ha hb hla hlb
  | none =>
    rw [hf] at hproper
    simp only at hproper ⊢
    cases hpos : d.talentSpellPos spellId with
    | none => exact h
    | some t =>
      obtain ⟨ranks, hranks, hmem, -⟩ := TalentStore.mem_ranks_of_pos hpos
      simp only [hranks, hproper, if_true]
      have hfind : ∀ k, k ≠ spellId →
          ((removeRanks spellId ranks (s.talents spec)).set spellId .new).find? k =
            if k ∈ ranks ∧ k ≠ 0 ∧ k ≠ spellId then ((s.talents spec).find? k).map fun _ => .removed
            else (s.talents spec).find? k := by
        intro k hk
        rw [OrdMap.find?_set_ne hk, find?_removeRanks]
      -- another rank of the talent is not live any more
      have hdead : ∀ k, k ≠ spellId → d.talentSpellPos k = some t →
          ¬Live ((removeRanks spellId ranks (s.talents spec)).set spellId .new) k := by
        rintro k hk hpos' ⟨state, hstate, hlive⟩
        obtain ⟨ranks', hranks', hmem', hzero⟩ := TalentStore.mem_ranks_of_pos hpos'
        rw [hranks] at hranks'
        cases hranks'
        rw [hfind k hk, if_pos ⟨hmem', hzero, hk⟩] at hstate
        obtain ⟨-, -, rfl⟩ := Option.map_eq_some_iff.mp hstate
        exact hlive rfl
      -- and one that is live was live before
      have hlive : ∀ k, k ≠ spellId →
          Live ((removeRanks spellId ranks (s.talents spec)).set spellId .new) k →
          Live (s.talents spec) k := by
        rintro k hk ⟨state, hstate, hne⟩
        rw [hfind k hk] at hstate
        split at hstate
        · obtain ⟨-, -, rfl⟩ := Option.map_eq_some_iff.mp hstate
          exact absurd rfl hne
        · exact ⟨state, hstate, hne⟩
      refine h.update (fun k => ?_) fun t' a b ha hb hla hlb => ?_
      · have hagree := h.agree spec k
        by_cases hk : k = spellId
        · subst hk
          rw [hf] at hagree
          rw [OrdMap.find?_set_same]
          exact hagree
        · rw [hfind k hk]
          split
          · cases hk' : (s.talents spec).find? k with
            | none =>
              rw [hk'] at hagree
              exact hagree
            | some state => exact trivial
          · exact hagree
      · by_cases hta : a = spellId <;> by_cases htb : b = spellId
        · rw [hta, htb]
        · rw [hta, hpos] at ha
          cases ha
          exact absurd hlb (hdead b htb hb)
        · rw [htb, hpos] at hb
          cases hb
          exact absurd hla (hdead a hta ha)
        · exact h.single spec t' a b ha hb (hlive a hta hla) (hlive b htb hlb)

theorem find?_saveTalents (h : Kept d s) (spec : Fin MAX_TALENT_SPECS) (k : Nat) :
    ((saveTalents s).talents spec).find? k =
        ((s.talents spec).find? k).bind (fun state => if state = .removed then none else some .unchanged) ∧
      ((saveTalents s).rows spec).find? k =
        ((s.talents spec).find? k).bind (fun state => if state = .removed then none else some ()) := by
  refine ⟨SaveRule.find?_entries, saveRule.exact Agree _ (fun state row hrow => ?_)
    (fun row hrow => hrow) (h.agree spec k)⟩
  cases state <;> cases row <;> simp_all [Agree, saveRule, Statement.onAll, Statement.on]

theorem saveTalents_kept (h : Kept d s) : Kept d (saveTalents s) where
  agree := by
    intro spec k
    rw [(find?_saveTalents h spec k).1, (find?_saveTalents h spec k).2]
    cases (s.talents spec).find? k with
    | none => rfl
    | some state =>
      simp only [Option.bind_some]
      split <;> rfl
  single := by
    intro spec t a b ha hb hla hlb
    have hlive : ∀ k, Live ((saveTalents s).talents spec) k → Live (s.talents spec) k := by
      rintro k ⟨state, hstate, hne⟩
      rw [(find?_saveTalents h spec k).1, Option.bind_eq_some_iff] at hstate
      obtain ⟨old, hold, hnext⟩ := hstate
      refine ⟨old, hold, fun heq => ?_⟩
      rw [if_pos heq] at hnext
      cases hnext
    exact h.single spec t a b ha hb (hlive a hla) (hlive b hlb)

theorem saveTalents_rows (h : Kept d s) (spec : Fin MAX_TALENT_SPECS) (k : Nat) :
    ((saveTalents s).rows spec).find? k = some () ↔ Live ((saveTalents s).talents spec) k := by
  rw [(find?_saveTalents h spec k).2, Live, (find?_saveTalents h spec k).1]
  cases hf : (s.talents spec).find? k with
  | none => simp
  | some state =>
    by_cases hstate : state = .removed
    · simp [hstate]
    · simp [hstate]

end Talents

structure PlayerSets where
  equipment : EquipmentSets := {}
  talents : Talents := {}

inductive PlayerSetsOp where
  | setEquipmentSet (index : Nat) (eqset : EquipmentSet)
  | deleteEquipmentSet (setGuid : Nat)
  | addTalent (spellId : Nat) (spec : Fin MAX_TALENT_SPECS) (learning : Bool)
  | save

namespace PlayerSets

def save (s : PlayerSets) : PlayerSets :=
  ⟨s.equipment.saveEquipmentSets, s.talents.saveTalents⟩

def step (d : TalentStore) (s : PlayerSets) : PlayerSetsOp → PlayerSets
  | .setEquipmentSet index eqset => { s with equipment := s.equipment.setEquipmentSet index eqset }
  | .deleteEquipmentSet setGuid => { s with equipment := s.equipment.deleteEquipmentSet setGuid }
  | .addTalent spellId spec learning =>
    { s with talents := s.talents.addTalent d spellId spec learning }
  | .save => s.save

def Proper (d : TalentStore) (s : PlayerSets) : PlayerSetsOp → Prop
  | .setEquipmentSet index eqset => s.equipment.Proper index eqset
  | .deleteEquipmentSet _ => True
  | .addTalent spellId spec learning => s.talents.Proper d spellId spec learning
  | .save => True

def start (n : Nat) : PlayerSets := { equipment := { equipmentSetGuid := n + 1 } }

theorem step_kept {d : TalentStore} {s : PlayerSets} {op : PlayerSetsOp}
    (h : s.equipment.Kept ∧ s.talents.Kept d) (hop : Proper d s op) :
    (step d s op).equipment.Kept ∧ (step d s op).talents.Kept d := by
  cases op with
  | setEquipmentSet index eqset => exact ⟨EquipmentSets.setEquipmentSet_kept h.1 hop, h.2⟩
  | deleteEquipmentSet setGuid => exact ⟨EquipmentSets.deleteEquipmentSet_kept h.1 setGuid, h.2⟩
  | addTalent spellId spec learning => exact ⟨h.1, Talents.addTalent_kept h.2 hop⟩
  | save => exact ⟨EquipmentSets.saveEquipmentSets_kept h.1, Talents.saveTalents_kept h.2⟩

/-- In a run of proper steps no spec has two live ranks of a talent, and after a save the rows are
those of the sets and the talents in memory. -/
theorem sets_and_talents_saved {d : TalentStore} {n : Nat} {ops : List PlayerSetsOp} {s : PlayerSets}
    (hrun : Run (step d) (Proper d) (start n) ops s) :
    (∀ spec t a b, d.talentSpellPos a = some t → d.talentSpellPos b = some t →
      Talents.Live (s.talents.talents spec) a → Talents.Live (s.talents.talents spec) b → a = b) ∧
    (∀ guid row, s.save.equipment.rows.find? guid = some row ↔
      ∃ index eqset, s.save.equipment.m_EquipmentSets.find? index = some eqset ∧
        eqset.state ≠ .deleted ∧ eqset.Guid = guid ∧ row = EquipmentSets.rowOf index eqset) ∧
    (∀ spec k, (s.save.talents.rows spec).find? k = some () ↔
      Talents.Live (s.save.talents.talents spec) k) := by
  obtain ⟨hequipment, htalents⟩ := hrun.invariant
    (I := fun s => s.equipment.Kept ∧ s.talents.Kept d) (fun s op h hop => step_kept h hop)
    ⟨EquipmentSets.empty_kept n, Talents.empty_kept⟩
  refine ⟨htalents.single, fun guid row => ?_, Talents.saveTalents_rows htalents⟩
  rw [save, EquipmentSets.saveEquipmentSets_rows hequipment]
  simp only [EquipmentSets.saveEquipmentSets_sets]
  constructor
  · rintro ⟨index, eqset, hf, hstate, hguid, hrow⟩
    exact ⟨index, _, ⟨eqset, hf, hstate, rfl⟩, by simp, hguid, hrow⟩
  · rintro ⟨index, eqset, ⟨old, hf, hstate, rfl⟩, -, hguid, hrow⟩
    exact ⟨index, old, hf, hstate, hguid, hrow⟩

def twoRanks : TalentStore := ⟨fun _ => true, (∅ : OrdMap Nat (List Nat)).set 7 [101, 102, 0, 0, 0]⟩

/-- A set and the second rank of a talent after the first one. -/
theorem sets_and_talents_saved_at :
    (((start 0).save.equipment.setEquipmentSet 3 { Name := "raid" }).saveEquipmentSets.rows.find? 1 =
      some ⟨3, "raid", "", List.replicate 19 0⟩) ∧
    ∃ s, Run (step twoRanks) (Proper twoRanks) (start 0)
      [.setEquipmentSet 3 { Name := "raid" }, .addTalent 101 0 true, .addTalent 102 0 true] s ∧
      ∀ k, (s.save.talents.rows 0).find? k = some () ↔ Talents.Live (s.save.talents.talents 0) k := by
  have hrun : Run (step twoRanks) (Proper twoRanks) (start 0)
      [.setEquipmentSet 3 { Name := "raid" }, .addTalent 101 0 true, .addTalent 102 0 true] _ :=
    .cons (fun _ old hf => by cases hf) (.cons (fun _ => rfl) (.cons (fun _ => rfl) .nil))
  exact ⟨by decide +kernel, _, hrun, (sets_and_talents_saved hrun).2.2 0⟩

/-- A new set over one that was saved is not saved, and the row of the old one stays; a rank that is
added again is taken for saved; and it is live next to the rank that had taken its place. -/
theorem set_lost :
    let run := List.foldl (step twoRanks) (start 0)
    let s := run [.setEquipmentSet 0 { Name := "a" }, .save, .setEquipmentSet 0 { Name := "b" }, .save]
    let t := run [.addTalent 101 0 true, .addTalent 101 0 true, .save]
    let u := run [.addTalent 101 0 true, .addTalent 102 0 true, .addTalent 101 0 true]
    ((s.equipment.m_EquipmentSets.find? 0).map (fun e => (e.Guid, e.Name)) = some (2, "b") ∧
      (s.equipment.rows.find? 1).map (·.name) = some "a" ∧ s.equipment.rows.find? 2 = none) ∧
    ((t.talents.talents 0).find? 101 = some .unchanged ∧ (t.talents.rows 0).find? 101 = none) ∧
    (twoRanks.talentSpellPos 101 = twoRanks.talentSpellPos 102 ∧
      (u.talents.talents 0).find? 101 = some .unchanged ∧
      (u.talents.talents 0).find? 102 = some .new) := by
  decide +kernel

end PlayerSets

end SkyfireBG
