import SkyfireBG.Reputation.Mgr

/-!
# SkyfireBG.Reputation.Counted

The counters count the factions of the list, whatever is changed in a state.

* `FlagsFit`          — the flags that a state can have.
* `changeState_counted`, `showState_counted`, `restand_counted` — the changes of one state.
* `initializeAll_find?`, `initializeAll_counted` — the states at the beginning.
-/

namespace SkyfireBG

namespace ReputationMgr

variable {F : Type} {r : ReputationRules F} {s : ReputationMgr} {e e' : FactionEntry F}
  {f : FactionState} {g : FactionState → FactionState} {k : Nat}

structure Listed (r : ReputationRules F) (e : FactionEntry F) : Prop where
  entry : r.store.lookupEntry e.id = some e
  list : 0 ≤ e.reputationListID

theorem listed_of_lookup {i : Nat} (h : r.store.lookupEntry i = some e)
    (hlist : 0 ≤ e.reputationListID) : Listed r e := by
  refine ⟨?_, hlist⟩
  rw [r.store.lookupEntry_id h]
  exact h

theorem Listed.repListID_eq (h : Listed r e) : (repListID e : Int) = e.reputationListID := by
  have := r.store.listID_lt h.entry
  have := h.list
  rw [repListID]
  omega

theorem Listed.eq_of_repListID (h : Listed r e) (h' : Listed r e') (hk : repListID e = repListID e') :
    e = e' := by
  have hid : e.id = e'.id := by
    refine r.store.listID_inj h.entry h'.entry h.list ?_
    rw [← h.repListID_eq, ← h'.repListID_eq, hk]
  exact Option.some.inj (h.entry.symm.trans (hid ▸ h'.entry))

theorem Listed.repListID_lt (h : Listed r e) : repListID e < 128 := by
  have hlt := r.store.listID_lt h.entry
  rw [← h.repListID_eq] at hlt
  omega

theorem Listed.of_repListID {i : Nat} (h : r.store.lookupEntry i = some e) (h' : Listed r e')
    (hk : repListID e' = repListID e) : Listed r e := by
  refine listed_of_lookup h ?_
  by_contra hneg
  have hlt := h'.repListID_lt
  have hge := r.store.listID_ge h
  rw [hk, repListID] at hlt
  omega

theorem Listed.eq_of_id (h : Listed r e) (h' : Listed r e') (hid : e.id = e'.id) : e = e' :=
  Option.some.inj (h.entry.symm.trans (hid ▸ h'.entry))

theorem int32_base (h : Listed r e) : int32 (getBaseReputation r e) = getBaseReputation r e := by
  rw [getBaseReputation]
  split
  · exact r.store.baseRepValue_fits _ h.entry
  · rfl

/-- The flags of a state whose faction has the flags `d` by default. -/
structure FlagsFit (d f : FactionFlags) : Prop where
  hidden : f.hidden = d.hidden
  invisibleForced : f.invisibleForced = d.invisibleForced
  peaceForced : f.peaceForced = d.peaceForced
  rival : f.rival = d.rival
  special : f.special = d.special
  visible : d.visible = true → f.visible = true
  shown : f.visible = true → d.visible = true ∨ canShow d = true
  war : f.atWar = true → d.atWar = true ∨ d.peaceForced = false
  inactive : f.inactive = true →
    d.inactive = true ∨ f.visible = true ∧ d.invisibleForced = false ∧ d.hidden = false

theorem FlagsFit.refl (d : FactionFlags) : FlagsFit d d :=
  ⟨rfl, rfl, rfl, rfl, rfl, id, .inl, .inl, .inl⟩

theorem FlagsFit.canShow {d : FactionFlags} {f : FactionFlags} (h : FlagsFit d f) :
    canShow f = canShow d := by
  rw [ReputationMgr.canShow, ReputationMgr.canShow, h.invisibleForced, h.hidden, h.special]

def rankOf (r : ReputationRules F) (f : FactionState) : Nat :=
  match r.store.lookupEntry f.id with
  | some e => reputationToRank (int32 (getBaseReputation r e + f.standing))
  | none => MIN_REPUTATION_RANK

theorem rankOf_eq (h : Listed r e) (hid : f.id = e.id) :
    rankOf r f = reputationToRank (int32 (getBaseReputation r e + f.standing)) := by
  rw [rankOf, hid, h.entry]

def rankCount (r : ReputationRules F) (rank : Nat) (s : ReputationMgr) : Nat :=
  s.factions.countP fun f => decide (rankOf r f ≥ rank)

def visibleCount (s : ReputationMgr) : Nat := s.factions.countP fun f => f.flags.visible

structure Counted (r : ReputationRules F) (s : ReputationMgr) : Prop where
  keyed : ∀ k f, s.factions.find? k = some f → ∃ e, Listed r e ∧ f.id = e.id ∧ repListID e = k ∧
    FlagsFit (getDefaultStateFlags r e) f.flags
  visible : s.visibleFactionCount = UInt8.ofNat s.visibleCount
  honored : s.honoredFactionCount = UInt8.ofNat (rankCount r REP_HONORED s)
  revered : s.reveredFactionCount = UInt8.ofNat (rankCount r REP_REVERED s)
  exalted : s.exaltedFactionCount = UInt8.ofNat (rankCount r REP_EXALTED s)

theorem count_step {a : UInt8} {n m : Nat} {p q : Bool} (ha : a = UInt8.ofNat n)
    (hn : m + (if p then 1 else 0) = n + if q then 1 else 0) :
    a - byteOf p + byteOf q = UInt8.ofNat m := by
  subst ha
  apply UInt8.toNat_inj.mp
  rw [UInt8.toNat_add, UInt8.toNat_sub, UInt8.toNat_ofNat', UInt8.toNat_ofNat']
  cases p <;> cases q <;> simp [byteOf] at hn ⊢ <;> omega

theorem count_inc {a : UInt8} {n n' : Nat} {q : Bool} (ha : a = UInt8.ofNat n)
    (hn : n' = n + if q then 1 else 0) : a + byteOf q = UInt8.ofNat n' := by
  have hstep := count_step (p := false) (q := q) (m := n') ha (by simpa using hn)
  have hzero : byteOf false = 0 := rfl
  rwa [hzero, UInt8.sub_zero] at hstep

/-! ## Changes of one state -/

theorem changeState_none (h : s.factions.find? k = none) : s.changeState k g = s := by
  rw [changeState, OrdMap.update, h]

theorem changeState_find? (k' : Nat) : (s.changeState k g).factions.find? k' =
    if k' = k then (s.factions.find? k).map g else s.factions.find? k' :=
  OrdMap.find?_update

theorem changeState_factions (h : s.factions.find? k = some f) :
    (s.changeState k g).factions = s.factions.set k (g f) := by
  show s.factions.update k g = _
  rw [OrdMap.update, h]

theorem keyed_set {f' : FactionState} (h : Counted r s) (hf : s.factions.find? k = some f)
    (hid : f'.id = f.id) (hfit : ∀ d, FlagsFit d f.flags → FlagsFit d f'.flags) :
    ∀ k' v, (s.factions.set k f').find? k' = some v → ∃ e, Listed r e ∧ v.id = e.id ∧
      repListID e = k' ∧ FlagsFit (getDefaultStateFlags r e) v.flags := by
  intro k' v hv
  rcases OrdMap.find?_set_eq_some.mp hv with ⟨rfl, rfl⟩ | ⟨-, hv⟩
  · obtain ⟨e, he, hfe, hk, hflags⟩ := h.keyed k' f hf
    exact ⟨e, he, hid.trans hfe, hk, hfit _ hflags⟩
  · exact h.keyed k' v hv

theorem rankCount_set (hf : s.factions.find? k = some f) (f' : FactionState) (rank : Nat) :
    (s.factions.set k f').countP (fun f => decide (rankOf r f ≥ rank)) +
      (if decide (rankOf r f ≥ rank) then 1 else 0) =
    rankCount r rank s + if decide (rankOf r f' ≥ rank) then 1 else 0 :=
  OrdMap.countP_set_of_some hf

theorem changeState_counted (h : Counted r s) (hid : ∀ f, (g f).id = f.id)
    (hst : ∀ f, (g f).standing = f.standing) (hvis : ∀ f, (g f).flags.visible = f.flags.visible)
    (hfit : ∀ d f, FlagsFit d f.flags → FlagsFit d (g f).flags) : Counted r (s.changeState k g) := by
  cases hf : s.factions.find? k with
  | none =>
    rw [changeState_none hf]
    exact h
  | some f =>
    have hrank : rankOf r (g f) = rankOf r f := by rw [rankOf, rankOf, hid, hst]
    have hcount : ∀ rank, rankCount r rank (s.changeState k g) = rankCount r rank s := by
      intro rank
      have hset := rankCount_set (r := r) hf (g f) rank
      rw [hrank] at hset
      rw [rankCount, changeState_factions hf]
      omega
    have hvisible : (s.changeState k g).visibleCount = s.visibleCount := by
      have hset := OrdMap.countP_set_of_some (v := g f) (p := fun f => f.flags.visible) hf
      rw [hvis] at hset
      rw [visibleCount, changeState_factions hf, visibleCount]
      omega
    refine ⟨?_, ?_, ?_, ?_, ?_⟩
    · rw [changeState_factions hf]
      exact keyed_set h hf (hid f) fun d => hfit d f
    · rw [hvisible]
      exact h.visible
    · rw [hcount]
      exact h.honored
    · rw [hcount]
      exact h.revered
    · rw [hcount]
      exact h.exalted

/-- `SetVisible` of a state, without the counter. -/
def shown (f : FactionState) : FactionState :=
  if !canShow f.flags then f
  else if f.flags.visible then f
  else { f with flags := { f.flags with visible := true }, needSave := true }

theorem showState_cases (s : ReputationMgr) (k : Nat) :
    (s.showState k = s ∧ ∀ f, s.factions.find? k = some f → shown f = f) ∨
    ∃ f, s.factions.find? k = some f ∧ canShow f.flags = true ∧ f.flags.visible = false ∧
      shown f = { f with flags := { f.flags with visible := true }, needSave := true } ∧
      s.showState k = { s with
        factions := s.factions.set k (shown f)
        visibleFactionCount := s.visibleFactionCount + 1 } := by
  cases hf : s.factions.find? k with
  | none => exact .inl ⟨by rw [showState, hf], fun f h => by cases h⟩
  | some f =>
    by_cases hcan : canShow f.flags = true
    swap
    · have hshown : shown f = f := by rw [shown, if_pos (by simpa using hcan)]
      refine .inl ⟨?_, fun f' h => by cases h; exact hshown⟩
      rw [showState, hf]
      exact if_pos (by simpa using hcan)
    have hnot : ¬(!canShow f.flags) = true := by simp [hcan]
    by_cases hvis : f.flags.visible = true
    · have hshown : shown f = f := by rw [shown, if_neg hnot, if_pos hvis]
      refine .inl ⟨?_, fun f' h => by cases h; exact hshown⟩
      rw [showState, hf]
      exact (if_neg hnot).trans (if_pos hvis)
    · have hshown : shown f =
          { f with flags := { f.flags with visible := true }, needSave := true } := by
        rw [shown, if_neg hnot, if_neg hvis]
      refine .inr ⟨f, rfl, hcan, by simpa using hvis, hshown, ?_⟩
      rw [showState, hf, hshown]
      exact (if_neg hnot).trans (if_neg hvis)

theorem showState_find? (k' : Nat) : (s.showState k).factions.find? k' =
    if k' = k then (s.factions.find? k).map shown else s.factions.find? k' := by
  rcases showState_cases s k with ⟨heq, hsame⟩ | ⟨f, hf, -, -, -, heq⟩
  · rw [heq]
    split
    next hk =>
      subst hk
      cases hf : s.factions.find? k' with
      | none => rfl
      | some f => rw [Option.map_some, hsame f hf]
    · rfl
  · rw [heq, hf]
    exact OrdMap.find?_set

theorem shown_id : (shown f).id = f.id := by
  rw [shown]
  split
  · rfl
  · split <;> rfl

theorem shown_standing : (shown f).standing = f.standing := by
  rw [shown]
  split
  · rfl
  · split <;> rfl

theorem shown_fit {d : FactionFlags} (h : FlagsFit d f.flags) : FlagsFit d (shown f).flags := by
  rw [shown]
  split
  · exact h
  next hcan =>
    split
    · exact h
    · have hshow : canShow d = true := by
        rw [← h.canShow]
        simpa using hcan
      refine ⟨h.hidden, h.invisibleForced, h.peaceForced, h.rival, h.special, fun _ => rfl,
        fun _ => .inr hshow, h.war, fun hi => (h.inactive hi).imp id fun hc => ⟨rfl, hc.2⟩⟩

theorem rankOf_congr {f' : FactionState} (hid : f'.id = f.id) (hst : f'.standing = f.standing) :
    rankOf r f' = rankOf r f := by
  rw [rankOf, rankOf, hid, hst]

theorem showState_counted (h : Counted r s) (k : Nat) : Counted r (s.showState k) := by
  rcases showState_cases s k with ⟨heq, -⟩ | ⟨f, hf, -, hvis, hshown, heq⟩
  · rw [heq]
    exact h
  rw [heq]
  have hcount : ∀ rank, (s.factions.set k (shown f)).countP (fun f => decide (rankOf r f ≥ rank)) =
      rankCount r rank s := by
    intro rank
    have hset := rankCount_set (r := r) hf (shown f) rank
    rw [rankOf_congr shown_id shown_standing] at hset
    omega
  have hvisible : (s.factions.set k (shown f)).countP (fun f => f.flags.visible) =
      s.visibleCount + if true then 1 else 0 := by
    have hset := OrdMap.countP_set_of_some (v := shown f) (p := fun f => f.flags.visible) hf
    rw [hvis, hshown] at hset
    rw [hshown]
    exact hset
  refine ⟨keyed_set h hf shown_id fun d => shown_fit, ?_, ?_, ?_, ?_⟩
  · exact count_inc (q := true) h.visible hvisible
  · exact h.honored.trans (congrArg UInt8.ofNat (hcount _).symm)
  · exact h.revered.trans (congrArg UInt8.ofNat (hcount _).symm)
  · exact h.exalted.trans (congrArg UInt8.ofNat (hcount _).symm)

theorem restand_counted (h : Counted r s) (hf : s.factions.find? k = some f) (hid : (g f).id = f.id)
    (hflags : (g f).flags = f.flags) {oldRank newRank : Nat} (hold : oldRank = rankOf r f)
    (hnew : newRank = rankOf r (g f)) :
    Counted r ((s.changeState k g).updateRankCounters oldRank newRank) := by
  subst hold hnew
  have hcount : ∀ (rank : Nat) (a : UInt8), a = UInt8.ofNat (rankCount r rank s) →
      a - byteOf (rankOf r f ≥ rank) + byteOf (rankOf r (g f) ≥ rank) =
        UInt8.ofNat (rankCount r rank (s.changeState k g)) := by
    intro rank a ha
    refine count_step ha ?_
    rw [rankCount, changeState_factions hf]
    exact rankCount_set hf _ rank
  have hvisible : (s.changeState k g).visibleCount = s.visibleCount := by
    have hset := OrdMap.countP_set_of_some (v := g f) (p := fun f => f.flags.visible) hf
    rw [hflags] at hset
    rw [visibleCount, changeState_factions hf, visibleCount]
    omega
  refine ⟨?_, ?_, hcount _ _ h.honored, hcount _ _ h.revered, hcount _ _ h.exalted⟩
  · show ∀ k' v, (s.changeState k g).factions.find? k' = some v → _
    rw [changeState_factions hf]
    exact keyed_set h hf hid fun d hd => hflags ▸ hd
  · exact h.visible.trans (congrArg UInt8.ofNat hvisible.symm)

def initial (r : ReputationRules F) (e : FactionEntry F) : FactionState :=
  { id := e.id, flags := getDefaultStateFlags r e, standing := 0, needSave := true }

theorem rankOf_initial (h : Listed r e) : rankOf r (initial r e) = getBaseRank r e := by
  rw [rankOf_eq h rfl]
  show reputationToRank (int32 (getBaseReputation r e + 0)) = _
  rw [Int.add_zero, int32_base h]
  rfl

theorem initializeFaction_listed (h : Listed r e) : initializeFaction r s e.id =
    let s := { s with
      visibleFactionCount := s.visibleFactionCount + byteOf (initial r e).flags.visible }
    let s := s.updateRankCounters REP_HOSTILE (getBaseRank r e)
    { s with factions := s.factions.set (repListID e) (initial r e) } := by
  rw [initializeFaction, h.entry]
  exact if_pos h.list

theorem initializeFaction_counted (h : Counted r s) (hl : Listed r e)
    (hnew : s.factions.find? (repListID e) = none) : Counted r (initializeFaction r s e.id) := by
  rw [initializeFaction_listed hl]
  have hcount : ∀ (rank : Nat) (a : UInt8), rank > REP_HOSTILE → a = UInt8.ofNat (rankCount r rank s) →
      a - byteOf (REP_HOSTILE ≥ rank) + byteOf (getBaseRank r e ≥ rank) =
        UInt8.ofNat ((s.factions.set (repListID e) (initial r e)).countP
          fun f => decide (rankOf r f ≥ rank)) := by
    intro rank a hrank ha
    refine count_step ha ?_
    have hset := OrdMap.countP_set_of_none (v := initial r e)
      (p := fun f => decide (rankOf r f ≥ rank)) hnew
    rw [rankOf_initial hl] at hset
    rw [hset, decide_eq_false (by omega : ¬REP_HOSTILE ≥ rank)]
    rfl
  refine ⟨?_, ?_, hcount _ _ (by decide) h.honored, hcount _ _ (by decide) h.revered,
    hcount _ _ (by decide) h.exalted⟩
  · intro k f hf
    rcases OrdMap.find?_set_eq_some.mp hf with ⟨rfl, rfl⟩ | ⟨-, hf⟩
    · exact ⟨e, hl, rfl, rfl, .refl _⟩
    · exact h.keyed k f hf
  · have hset := OrdMap.countP_set_of_none (v := initial r e) (p := fun f => f.flags.visible) hnew
    exact count_inc h.visible hset

theorem initializeFaction_unlisted {i : Nat}
    (h : ∀ e, r.store.lookupEntry i = some e → e.reputationListID < 0) :
    initializeFaction r s i = s := by
  rw [initializeFaction]
  split
  · rfl
  next e he => exact if_neg (by have := h e he; omega)

/-- After the rows up to `n`. -/
structure Begun (r : ReputationRules F) (rows : OrdMap Nat ReputationRow) (n : Nat)
    (s : ReputationMgr) : Prop where
  counted : Counted r s
  states : ∀ e, Listed r e →
    s.factions.find? (repListID e) = if e.id ≤ n then some (initial r e) else none
  rows : s.rows = rows

theorem begun_zero (s : ReputationMgr) : Begun r s.rows 0
    { s with factions := ∅, visibleFactionCount := 0, honoredFactionCount := 0,
             reveredFactionCount := 0, exaltedFactionCount := 0 } := by
  refine ⟨⟨?_, rfl, rfl, rfl, rfl⟩, fun e he => ?_, rfl⟩
  · intro k f hf
    cases hf
  have hne : e.id ≠ 0 := by
    intro h0
    have hentry := he.entry
    rw [h0, r.store.lookupEntry_zero] at hentry
    cases hentry
  exact (if_neg (by omega)).symm

theorem Begun.succ {rows : OrdMap Nat ReputationRow} {n : Nat} (h : Begun r rows n s) :
    Begun r rows (n + 1) (initializeFaction r s (n + 1)) := by
  by_cases hlisted : ∃ e, Listed r e ∧ e.id = n + 1
  · obtain ⟨e, he, hid⟩ := hlisted
    rw [← hid]
    have hnone : s.factions.find? (repListID e) = none := by
      rw [h.states e he]
      exact if_neg (by omega)
    refine ⟨initializeFaction_counted h.counted he hnone, fun e' he' => ?_, ?_⟩
    · rw [initializeFaction_listed he]
      show (s.factions.set (repListID e) (initial r e)).find? (repListID e') = _
      rw [OrdMap.find?_set]
      by_cases heq : e' = e
      · subst heq
        rw [if_pos rfl, if_pos (Nat.le_refl _)]
      · have hne : e'.id ≠ e.id := fun hc => heq (he'.eq_of_id he hc)
        rw [if_neg fun hc => heq (he'.eq_of_repListID he hc), h.states e' he']
        by_cases hle : e'.id ≤ n
        · rw [if_pos hle, if_pos (by omega)]
        · rw [if_neg hle, if_neg (by omega)]
    · rw [initializeFaction_listed he]
      exact h.rows
  · rw [initializeFaction_unlisted]
    · refine ⟨h.counted, fun e' he' => ?_, h.rows⟩
      have hne : e'.id ≠ n + 1 := fun hc => hlisted ⟨e', he', hc⟩
      rw [h.states e' he']
      by_cases hle : e'.id ≤ n
      · rw [if_pos hle, if_pos (by omega)]
      · rw [if_neg hle, if_neg (by omega)]
    · intro e he
      by_contra hneg
      exact hlisted ⟨e, listed_of_lookup he (by omega), r.store.lookupEntry_id he⟩

theorem begun_foldl (s : ReputationMgr) (n : Nat) : Begun r s.rows n
    ((List.range' 1 n).foldl (initializeFaction r)
      { s with factions := ∅, visibleFactionCount := 0, honoredFactionCount := 0,
               reveredFactionCount := 0, exaltedFactionCount := 0 }) := by
  induction n with
  | zero => exact begun_zero s
  | succ n ih =>
    rw [List.range'_concat, List.foldl_append, Nat.one_mul, Nat.add_comm 1 n]
    exact ih.succ

theorem initializeAll_counted (s : ReputationMgr) : Counted r (initializeAll r s) :=
  (begun_foldl s _).counted

theorem initializeAll_rows (s : ReputationMgr) : (initializeAll r s).rows = s.rows :=
  (begun_foldl s _).rows

theorem initializeAll_find? (s : ReputationMgr) (h : Listed r e) :
    (initializeAll r s).factions.find? (repListID e) = some (initial r e) := by
  have hlt := r.store.lookupEntry_lt h.entry
  exact ((begun_foldl s _).states e h).trans (if_pos (by omega))

end ReputationMgr

end SkyfireBG
