import SkyfireBG.Reputation.Saved

/-!
# SkyfireBG.Reputation.Kept

Runs of changes, saves and loads.

* `setOneFactionReputation_kept` — a change of one faction.
* `perform_kept`                 — an operation, with what quests and achievements add to it.
* `reputation_reloads`           — the standings, the counters and what a load gives back.
-/

namespace SkyfireBG

namespace ReputationMgr

variable {F : Type} {r : ReputationRules F} {s s' : ReputationMgr} {e : FactionEntry F}
  {f f' : FactionState} {k : Nat} {rows₀ : OrdMap Nat ReputationRow}
  {told : ReputationMgr → ReputationMgr}

def InRange (r : ReputationRules F) (id : Nat) (standing : Int) : Prop :=
  ∀ e, r.store.lookupEntry id = some e →
    Reputation_Bottom ≤ int32 (getBaseReputation r e + standing) ∧
      int32 (getBaseReputation r e + standing) ≤ Reputation_Cap

def startStanding (rows₀ : OrdMap Nat ReputationRow) (id : Nat) : Int :=
  (rows₀.find? id).elim 0 (·.standing)

def Within (r : ReputationRules F) (rows₀ : OrdMap Nat ReputationRow) (id : Nat) (standing : Int) :
    Prop :=
  standing = startStanding rows₀ id ∨ InRange r id standing

structure RowsKept (r : ReputationRules F) (rows₀ rows : OrdMap Nat ReputationRow) : Prop where
  within : ∀ id row, rows.find? id = some row → Within r rows₀ id row.standing
  none : ∀ id, rows.find? id = none → rows₀.find? id = none

structure Kept (r : ReputationRules F) (rows₀ : OrdMap Nat ReputationRow) (s : ReputationMgr) :
    Prop where
  counted : Counted r s
  full : ∀ e, Listed r e → ∃ f, s.factions.find? (repListID e) = some f
  saved : ∀ k f, s.factions.find? k = some f → f.needSave = false →
    s.rows.find? f.id = some ⟨f.standing, f.flags⟩
  states : ∀ k f, s.factions.find? k = some f → Within r rows₀ f.id f.standing
  rows : RowsKept r rows₀ s.rows

theorem Kept.at (h : Kept r rows₀ s) (hf : s.factions.find? k = some f) (hat : At r s k f' s')
    (hmark : Marked f f') (hwithin : Within r rows₀ f'.id f'.standing) : Kept r rows₀ s' where
  counted := hat.counted
  full := by
    intro e he
    by_cases hk : repListID e = k
    · exact ⟨f', hk ▸ hat.here⟩
    · rw [hat.others _ hk]
      exact h.full e he
  saved := by
    intro k' v hv hsave
    rw [hat.rows]
    by_cases hk : k' = k
    · rw [hk, hat.here] at hv
      cases hv
      rcases hmark with rfl | hm
      · exact h.saved k _ hf hsave
      · rw [hm] at hsave
        cases hsave
    · rw [hat.others k' hk] at hv
      exact h.saved k' v hv hsave
  states := by
    intro k' v hv
    by_cases hk : k' = k
    · rw [hk, hat.here] at hv
      cases hv
      exact hwithin
    · rw [hat.others k' hk] at hv
      exact h.states k' v hv
  rows := by
    rw [hat.rows]
    exact h.rows

theorem Kept.here (h : Kept r rows₀ s) (hf : s.factions.find? k = some f) : At r s k f s :=
  ⟨h.counted, hf, fun _ _ => rfl, rfl⟩

theorem Kept.change {g : FactionState → FactionState} (h : Kept r rows₀ s) (hg : FlagChange g)
    (hmark : ∀ f, Marked f (g f)) : Kept r rows₀ (s.changeState k g) := by
  cases hf : s.factions.find? k with
  | none =>
    rw [changeState_none hf]
    exact h
  | some f =>
    refine h.at hf ((h.here hf).change hg) (hmark f) ?_
    rw [hg.id, hg.standing]
    exact h.states k f hf

theorem Kept.show (h : Kept r rows₀ s) : Kept r rows₀ (s.showState k) := by
  cases hf : s.factions.find? k with
  | none =>
    rw [showState, hf]
    exact h
  | some f =>
    refine h.at hf (h.here hf).show (shown_marked f) ?_
    rw [shown_id, shown_standing]
    exact h.states k f hf

/-! ## A change of one faction -/

theorem clampStanding_bounds (standing : Int) : Reputation_Bottom ≤ clampStanding standing ∧
    clampStanding standing ≤ Reputation_Cap := by
  have hcap : Reputation_Cap = 42999 := rfl
  have hbottom : Reputation_Bottom = -42000 := rfl
  rw [clampStanding]
  split
  · omega
  · split <;> omega

theorem int32_rebase {b x : Int} (hlo : Reputation_Bottom ≤ x) (hhi : x ≤ Reputation_Cap) :
    int32 (b + int32 (x - b)) = x := by
  have hcap : Reputation_Cap = 42999 := rfl
  have hbottom : Reputation_Bottom = -42000 := rfl
  have hback : int32 (b + int32 (x - b)) = int32 x := by
    rw [int32, int32, Int.add_bmod_bmod, int32]
    congr 1
    omega
  rw [hback]
  exact int32_of_fits (by omega) (by omega)

theorem showState_updateRankCounters (s : ReputationMgr) (k a b : Nat) :
    (s.showState k).updateRankCounters a b = (s.updateRankCounters a b).showState k := by
  have hfactions : (s.updateRankCounters a b).factions = s.factions := rfl
  rw [showState, showState, hfactions]
  cases s.factions.find? k with
  | none => rfl
  | some f =>
    simp only
    split
    · rfl
    · split <;> rfl

theorem updateRankCounters_last (s : ReputationMgr) (k a b : Nat) (c : Prop) [Decidable c] :
    (if c then (s.showState k).changeState k (warState · true) else s.showState k).updateRankCounters
      a b =
    if c then ((s.updateRankCounters a b).showState k).changeState k (warState · true)
    else (s.updateRankCounters a b).showState k := by
  rw [← showState_updateRankCounters]
  split <;> rfl

def restood (r : ReputationRules F) (e : FactionEntry F) (standing : Int) (f : FactionState) :
    FactionState :=
  { f with standing := int32 (standing - getBaseReputation r e), needSave := true }

theorem At.setOne {standing : Int} (hat : At r s (repListID e) f s) (he : Listed r e)
    (hlo : Reputation_Bottom ≤ standing) (hhi : standing ≤ Reputation_Cap) :
    ∃ f', Marked (restood r e standing f) f' ∧ f'.id = f.id ∧
      f'.standing = (restood r e standing f).standing ∧
      At r s (repListID e) f' ((if reputationToRank standing ≤ REP_HOSTILE then
          ((s.changeState (repListID e) (restood r e standing)).showState
            (repListID e)).changeState (repListID e) (warState · true)
        else (s.changeState (repListID e) (restood r e standing)).showState
          (repListID e)).updateRankCounters
          (reputationToRank (int32 (f.standing + getBaseReputation r e)))
          (reputationToRank standing)) := by
  have hold : reputationToRank (int32 (f.standing + getBaseReputation r e)) = rankOf r f := by
    rw [rankOf_eq he (hat.id he), Int.add_comm]
  have hnew : reputationToRank standing = rankOf r (restood r e standing f) := by
    rw [rankOf_eq (f := restood r e standing f) he (hat.id he)]
    exact congrArg reputationToRank (int32_rebase hlo hhi).symm
  have hshown := (hat.restand (g := restood r e standing) rfl rfl hold hnew).show
  rw [updateRankCounters_last]
  have hwar := warState_change true
  by_cases hhostile : reputationToRank standing ≤ REP_HOSTILE
  · rw [if_pos hhostile]
    refine ⟨_, ?_, ?_, ?_, hshown.change hwar⟩
    · exact .inr ((warState_marked _ true).needSave ((shown_marked _).needSave rfl))
    · exact (hwar.id _).trans shown_id
    · exact (hwar.standing _).trans shown_standing
  · rw [if_neg hhostile]
    exact ⟨_, shown_marked _, shown_id, shown_standing, hshown⟩

theorem setOneFactionReputation_kept (htold : ∀ s, Kept r rows₀ s → Kept r rows₀ (told s))
    (h : Kept r rows₀ s) (hentry : r.store.lookupEntry e.id = some e) (standing : Int)
    (incremental : Bool) : Kept r rows₀ (setOneFactionReputation r told e standing incremental s) := by
  rw [setOneFactionReputation]
  cases hf : s.factions.find? (repListID e) with
  | none => exact h
  | some f =>
    obtain ⟨e', he', -, hk, -⟩ := h.counted.keyed _ f hf
    have he := Listed.of_repListID hentry he' hk
    obtain ⟨hlo, hhi⟩ := clampStanding_bounds (if incremental then
      int32 (r.gain standing + (f.standing + getBaseReputation r e)) else standing)
    obtain ⟨f', hmark, hid, hst, hat⟩ := At.setOne (h.here hf) he hlo hhi
    refine htold _ (h.at hf hat (.inr (hmark.needSave rfl)) (.inr ?_))
    intro e₁ he₁
    rw [hid, (h.here hf).id he, he.entry] at he₁
    cases he₁
    have hsum := int32_rebase (b := getBaseReputation r e) hlo hhi
    rw [hst]
    exact ⟨hsum.symm ▸ hlo, hsum.symm ▸ hhi⟩

theorem foldl_kept {α : Type} {g : ReputationMgr → α → ReputationMgr} {l : List α}
    (hg : ∀ s a, Kept r rows₀ s → Kept r rows₀ (g s a)) (h : Kept r rows₀ s) :
    Kept r rows₀ (l.foldl g s) := by
  induction l generalizing s with
  | nil => exact h
  | cons a l ih => exact ih (hg s a h)

theorem spillTemplate_kept (htold : ∀ s, Kept r rows₀ s → Kept r rows₀ (told s))
    (h : Kept r rows₀ s) (l : List (SpilloverFaction F)) (standing : Int) (incremental : Bool) :
    Kept r rows₀ (spillTemplate r told l standing incremental s) := by
  refine foldl_kept (fun s t hs => ?_) h
  split
  · split
    next e he =>
      have hid := r.store.lookupEntry_id he
      exact setOneFactionReputation_kept htold hs (hid ▸ he) _ _
    · exact hs
  · exact hs

theorem spillList_kept (htold : ∀ s, Kept r rows₀ s → Kept r rows₀ (told s)) (h : Kept r rows₀ s)
    (e : FactionEntry F) (l : List Nat) (out : F) (incremental : Bool) :
    Kept r rows₀ (spillList r told e l out incremental s) := by
  refine foldl_kept (fun s faction hs => ?_) h
  split
  · exact hs
  next other hother =>
    have hid := r.store.lookupEntry_id hother
    split
    · exact hs
    · simp only
      split
      · exact setOneFactionReputation_kept htold hs (hid ▸ hother) _ _
      · exact hs

theorem spillStore_kept (htold : ∀ s, Kept r rows₀ s → Kept r rows₀ (told s)) (h : Kept r rows₀ s)
    (e : FactionEntry F) (standing : Int) (incremental : Bool) :
    Kept r rows₀ (spillStore r told e standing incremental s) := by
  rw [spillStore]
  split
  · exact spillList_kept htold h e _ _ incremental
  split
  · simp only
    split
    · exact h
    next parent hparent =>
      have hid := r.store.lookupEntry_id hparent
      split
      · exact setOneFactionReputation_kept htold h (hid ▸ hparent) _ _
      · split
        · exact spillList_kept htold h e _ _ incremental
        · exact h
  · exact h

theorem setReputation_kept (htold : ∀ s, Kept r rows₀ s → Kept r rows₀ (told s))
    (h : Kept r rows₀ s) (hentry : r.store.lookupEntry e.id = some e) (standing : Int)
    (incremental : Bool) : Kept r rows₀ (setReputation r told e standing incremental s) := by
  rw [setReputation]
  refine setOneFactionReputation_kept htold ?_ hentry _ _
  split
  · exact spillTemplate_kept htold h _ _ _
  · exact spillStore_kept htold h e _ _

theorem setVisible_kept (h : Kept r rows₀ s) (e : FactionEntry F) :
    Kept r rows₀ (setVisible s e) := by
  rw [setVisible]
  split
  · exact h
  · exact h.show

theorem setVisibleTemplate_kept (h : Kept r rows₀ s) (faction : Nat) :
    Kept r rows₀ (setVisibleTemplate r s faction) := by
  rw [setVisibleTemplate]
  split
  · exact h
  split
  · exact h
  · split
    · exact h
    · exact setVisible_kept h _

theorem setAtWar_kept (h : Kept r rows₀ s) (k : Nat) (on : Bool) : Kept r rows₀ (setAtWar s k on) := by
  rw [setAtWar]
  split
  · exact h
  · split
    · exact h
    · exact h.change (warState_change on) fun f => warState_marked f on

theorem setInactive_kept (h : Kept r rows₀ s) (k : Nat) (on : Bool) :
    Kept r rows₀ (setInactive s k on) :=
  h.change (inactiveState_change on) fun f => inactiveState_marked f on

theorem Kept.saveToDB_row (h : Kept r rows₀ s) (hf : s.factions.find? k = some f) :
    (saveToDB s).rows.find? f.id = some ⟨f.standing, f.flags⟩ := by
  cases hsave : f.needSave with
  | true => exact ReputationMgr.saveToDB_row h.counted hf hsave
  | false =>
    rw [saveToDB_row_of_none]
    · exact h.saved k f hf hsave
    · intro k' f' hf' hsave' hid
      obtain ⟨e, he, hfe, rfl, -⟩ := h.counted.keyed k f hf
      obtain ⟨e', he', hfe', rfl, -⟩ := h.counted.keyed k' f' hf'
      have heq : e' = e := he'.eq_of_id he (by rw [← hfe', ← hfe, hid])
      subst heq
      rw [hf] at hf'
      cases hf'
      rw [hsave] at hsave'
      cases hsave'

theorem Kept.saveToDB_rows (h : Kept r rows₀ s) (id : Nat) :
    (∃ k f, s.factions.find? k = some f ∧ f.id = id ∧
      (saveToDB s).rows.find? id = some ⟨f.standing, f.flags⟩) ∨
    (saveToDB s).rows.find? id = s.rows.find? id := by
  by_cases hstate : ∃ k f, s.factions.find? k = some f ∧ f.id = id
  · obtain ⟨k, f, hf, rfl⟩ := hstate
    exact .inl ⟨k, f, hf, rfl, h.saveToDB_row hf⟩
  · exact .inr (saveToDB_row_of_none fun k f hf _ hid => hstate ⟨k, f, hf, hid⟩)

theorem saveToDB_kept (h : Kept r rows₀ s) : Kept r rows₀ (saveToDB s) where
  counted := saveToDB_counted h.counted
  full := by
    intro e he
    obtain ⟨f, hf⟩ := h.full e he
    exact ⟨_, by rw [saveToDB_find?, hf, Option.map_some]⟩
  saved := by
    intro k f hf _
    rw [saveToDB_find?, Option.map_eq_some_iff] at hf
    obtain ⟨f', hf', rfl⟩ := hf
    exact h.saveToDB_row (f := f') hf'
  states := by
    intro k f hf
    rw [saveToDB_find?, Option.map_eq_some_iff] at hf
    obtain ⟨f', hf', rfl⟩ := hf
    exact h.states k f' hf'
  rows := by
    refine ⟨fun id row hrow => ?_, fun id hnone => ?_⟩
    · rcases h.saveToDB_rows id with ⟨k, f, hf, rfl, heq⟩ | heq
      · rw [hrow] at heq
        cases heq
        exact h.states k f hf
      · exact h.rows.within id row (heq ▸ hrow)
    · rcases h.saveToDB_rows id with ⟨k, f, hf, rfl, heq⟩ | heq
      · rw [hnone] at heq
        cases heq
      · exact h.rows.none id (heq ▸ hnone)

theorem loadFromDB_states (s : ReputationMgr) (hf : (loadFromDB r s).factions.find? k = some f) :
    ∃ e, Listed r e ∧ repListID e = k ∧ f = loaded r e (s.rows.find? e.id) := by
  obtain ⟨e, he, -, rfl, -⟩ := (loadFromDB_loading s).counted.keyed k f hf
  rw [loadFromDB_find? s he] at hf
  exact ⟨e, he, rfl, (Option.some.inj hf).symm⟩

theorem loadFromDB_kept (h : RowsKept r rows₀ s.rows) : Kept r rows₀ (loadFromDB r s) where
  counted := (loadFromDB_loading s).counted
  full := fun e he => ⟨_, loadFromDB_find? s he⟩
  saved := by
    intro k f hf hsave
    obtain ⟨e, he, -, rfl⟩ := loadFromDB_states s hf
    rw [(loadFromDB_loading s).rows, loaded_id]
    exact loaded_saved hsave
  states := by
    intro k f hf
    obtain ⟨e, he, -, rfl⟩ := loadFromDB_states s hf
    rw [loaded_id, loaded_standing]
    cases hrow : s.rows.find? e.id with
    | none =>
      left
      rw [startStanding, h.none e.id hrow]
    | some row => exact h.within e.id row hrow
  rows := by
    rw [(loadFromDB_loading s).rows]
    exact h

theorem Op.run_kept (htold : ∀ s, Kept r rows₀ s → Kept r rows₀ (told s)) (h : Kept r rows₀ s)
    (op : Op) : Kept r rows₀ (op.run r told s) := by
  cases op with
  | setReputation faction standing incremental =>
    rw [Op.run]
    split
    next e he =>
      have hid := r.store.lookupEntry_id he
      exact setReputation_kept htold h (hid ▸ he) _ _
    · exact h
  | setVisible faction =>
    rw [Op.run]
    split
    · exact setVisible_kept h _
    · exact h
  | setVisibleTemplate faction => exact setVisibleTemplate_kept h faction
  | setAtWar k on => exact setAtWar_kept h k on
  | setInactive k on => exact setInactive_kept h k on
  | saveToDB => exact saveToDB_kept h
  | loadFromDB => exact loadFromDB_kept h.rows

theorem Kept.told_succ (h : Kept r rows₀ s) : Kept r rows₀ { s with told := s.told + 1 } :=
  ⟨⟨h.counted.keyed, h.counted.visible, h.counted.honored, h.counted.revered, h.counted.exalted⟩,
    h.full, h.saved, h.states, h.rows⟩

theorem perform_kept (plan : Nat → List Op) (n : Nat) (h : Kept r rows₀ s) (op : Op) :
    Kept r rows₀ (perform r plan n s op) := by
  induction n generalizing s op with
  | zero => exact Op.run_kept (fun s hs => hs) h op
  | succ n ih =>
    refine Op.run_kept (fun s hs => ?_) h op
    exact foldl_kept (fun s op hs => ih hs op) hs.told_succ

theorem play_kept (plan : Nat → List Op) (n : Nat) (rows : OrdMap Nat ReputationRow) (ops : List Op) :
    Kept r rows (play r plan n rows ops) := by
  refine foldl_kept (fun s op hs => perform_kept plan n hs op) (loadFromDB_kept ?_)
  refine ⟨fun id row hrow => .inl ?_, fun id hnone => hnone⟩
  rw [startStanding, show rows.find? id = some row from hrow]
  rfl

structure CountersExact (r : ReputationRules F) (s : ReputationMgr) : Prop where
  visible : s.visibleFactionCount.toNat = s.visibleCount
  honored : s.honoredFactionCount.toNat = rankCount r REP_HONORED s
  revered : s.reveredFactionCount.toNat = rankCount r REP_REVERED s
  exalted : s.exaltedFactionCount.toNat = rankCount r REP_EXALTED s

theorem Counted.exact (h : Counted r s) : CountersExact r s := by
  have hsize : s.factions.size ≤ 128 := by
    refine OrdMap.size_le_of_keys_lt fun k f hf => ?_
    obtain ⟨e, he, -, rfl, -⟩ := h.keyed k f hf
    exact he.repListID_lt
  have hcount : ∀ p, (UInt8.ofNat (s.factions.countP p)).toNat = s.factions.countP p := by
    intro p
    have hle : s.factions.countP p ≤ s.factions.size := OrdMap.countP_le_size
    exact UInt8.toNat_ofNat_of_lt' (by simp [UInt8.size]; omega)
  exact ⟨h.visible ▸ hcount _, h.honored ▸ hcount _, h.revered ▸ hcount _, h.exalted ▸ hcount _⟩

/-- `t` has the states of `s` as a load makes them, and its counters. -/
structure Reloaded (r : ReputationRules F) (s t : ReputationMgr) : Prop where
  states : ∀ k f, s.factions.find? k = some f → ∃ e f', r.store.lookupEntry f.id = some e ∧
    t.factions.find? k = some f' ∧ f'.id = f.id ∧ f'.standing = f.standing ∧
    f'.flags = reloadedFlags (getDefaultStateFlags r e) f.flags (rankOf r f ≤ REP_HOSTILE)
  none : ∀ k, s.factions.find? k = none → t.factions.find? k = none
  visible : t.visibleFactionCount = s.visibleFactionCount
  honored : t.honoredFactionCount = s.honoredFactionCount
  revered : t.reveredFactionCount = s.reveredFactionCount
  exalted : t.exaltedFactionCount = s.exaltedFactionCount

theorem Kept.reload_state (h : Kept r rows₀ s) (hf : s.factions.find? k = some f) :
    ∃ e f', r.store.lookupEntry f.id = some e ∧
      (loadFromDB r (new (saveToDB s).rows)).factions.find? k = some f' ∧ f'.id = f.id ∧
      f'.standing = f.standing ∧
      f'.flags = reloadedFlags (getDefaultStateFlags r e) f.flags (rankOf r f ≤ REP_HOSTILE) := by
  obtain ⟨e, he, hid, rfl, hfit⟩ := h.counted.keyed k f hf
  have hrow : (new (saveToDB s).rows).rows.find? e.id = some ⟨f.standing, f.flags⟩ := by
    rw [← hid]
    exact h.saveToDB_row hf
  refine ⟨e, _, hid ▸ he.entry, loadFromDB_find? _ he, ?_, ?_, ?_⟩
  · rw [loaded_id, hid]
  · rw [loaded_standing, hrow]
    rfl
  · rw [hrow, rankOf_eq he hid]
    exact loadedState_flags he rfl hfit

theorem Kept.reload (h : Kept r rows₀ s) : Reloaded r s (loadFromDB r (new (saveToDB s).rows)) := by
  have hnone : ∀ k, s.factions.find? k = none →
      (loadFromDB r (new (saveToDB s).rows)).factions.find? k = none := by
    intro k hk
    cases hf : (loadFromDB r (new (saveToDB s).rows)).factions.find? k with
    | none => rfl
    | some f =>
      obtain ⟨e, he, rfl, -⟩ := loadFromDB_states _ hf
      obtain ⟨f', hf'⟩ := h.full e he
      rw [hk] at hf'
      cases hf'
  have hcount : ∀ p : FactionState → Bool, (∀ f f' : FactionState, f'.id = f.id →
      f'.standing = f.standing → f'.flags.visible = f.flags.visible → p f' = p f) →
      (loadFromDB r (new (saveToDB s).rows)).factions.countP p = s.factions.countP p := by
    intro p hp
    refine OrdMap.countP_eq_of_find? fun k => ?_
    cases hf : s.factions.find? k with
    | none => rw [hnone k hf]
    | some f =>
      obtain ⟨e, f', -, hf', hid, hst, hflags⟩ := h.reload_state hf
      rw [hf', Option.map_some, Option.map_some, hp f f' hid hst (by rw [hflags]; rfl)]
  have hrank : ∀ rank, rankCount r rank (loadFromDB r (new (saveToDB s).rows)) =
      rankCount r rank s := by
    intro rank
    refine hcount _ fun f f' hid hst _ => ?_
    rw [rankOf_congr hid hst]
  have hload := (loadFromDB_loading (r := r) (new (saveToDB s).rows)).counted
  refine ⟨fun k f hf => h.reload_state hf, hnone, ?_, ?_, ?_, ?_⟩
  · rw [hload.visible, h.counted.visible]
    exact congrArg UInt8.ofNat (hcount _ fun f f' _ _ hvis => hvis)
  · rw [hload.honored, h.counted.honored, hrank]
  · rw [hload.revered, h.counted.revered, hrank]
  · rw [hload.exalted, h.counted.exalted, hrank]

/-- Standings stay within the limits, the counters are exact, and a save and a load give back
standings, counters and the flags as `reloadedFlags` has them. -/
theorem reputation_reloads (r : ReputationRules F) (plan : Nat → List Op) (n : Nat)
    (rows : OrdMap Nat ReputationRow) (ops : List Op) :
    let s := play r plan n rows ops
    (∀ k f, s.factions.find? k = some f →
      f.standing = startStanding rows f.id ∨ InRange r f.id f.standing) ∧
    CountersExact r s ∧
    Reloaded r s (loadFromDB r (new (saveToDB s).rows)) := by
  intro s
  have hkept := play_kept (r := r) plan n rows ops
  exact ⟨hkept.states, hkept.counted.exact, hkept.reload⟩

def hostileEntry : FactionEntry Unit where
  id := 1
  reputationListID := 0
  baseRepRaceMask := fun _ => 1
  baseRepClassMask := fun _ => 0
  baseRepValue := fun _ => -4000
  reputationFlags := fun _ => { FactionFlags.none with visible := true, atWar := true }
  team := 0
  spilloverRateIn := ()
  spilloverRateOut := ()
  spilloverMaxRankIn := 0

def hostileRules : ReputationRules Unit where
  store := {
    numRows := 2
    lookupEntry := fun i => if i = 1 then some hostileEntry else none
    numRows_le := by decide
    lookupEntry_zero := rfl
    lookupEntry_lt := by
      intro i e h
      rw [Option.ite_none_right_eq_some] at h
      omega
    lookupEntry_id := by
      intro i e h
      rw [Option.ite_none_right_eq_some, Option.some.injEq] at h
      rw [← h.2, h.1]
      rfl
    baseRepValue_fits := by
      intro i e k h
      rw [Option.ite_none_right_eq_some, Option.some.injEq] at h
      rw [← h.2]
      show int32 (-4000) = -4000
      decide
    listID_ge := by
      intro i e h
      rw [Option.ite_none_right_eq_some, Option.some.injEq] at h
      rw [← h.2]
      decide
    listID_lt := by
      intro i e h
      rw [Option.ite_none_right_eq_some, Option.some.injEq] at h
      rw [← h.2]
      decide
    listID_inj := by
      intro i j e e' h h' _ _
      rw [Option.ite_none_right_eq_some] at h h'
      omega }
  spillover := fun _ => none
  teamList := fun _ => none
  raceMask := 1
  classMask := 1
  ofInt := fun _ => ()
  mul := fun _ _ => ()
  toInt := fun _ => 0
  isZero := fun _ => true
  gain := id

/-- The war with a hostile faction that was ended is loaded again. -/
theorem reputation_war_returns :
    let s := play hostileRules (fun _ => []) 0 ∅ [.setAtWar 0 false]
    let t := loadFromDB hostileRules (new (saveToDB s).rows)
    (s.factions.find? 0).map (·.flags.atWar) = some false ∧
      (t.factions.find? 0).map (·.flags.atWar) = some true := by
  decide

end ReputationMgr

end SkyfireBG
