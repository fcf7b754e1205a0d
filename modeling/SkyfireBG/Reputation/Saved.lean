import SkyfireBG.Reputation.Counted

/-!
# SkyfireBG.Reputation.Saved

What is written to the database and what is made of it when it is loaded.

* `At`                     — a change at one key, with everything else as it was.
* `loadFromDB_find?`       — the states after a load.
* `saveToDB_row`           — the rows after a save.
* `loadedState_flags`      — the flags that a saved state is loaded with.
-/

namespace SkyfireBG

namespace ReputationMgr

variable {F : Type} {r : ReputationRules F} {s s' s₀ : ReputationMgr} {e e' : FactionEntry F}
  {f : FactionState} {g : FactionState → FactionState} {k : Nat} {row : ReputationRow}

/-! ## Changes at one key -/

/-- `s₀` with the state `f` under `k`. -/
structure At (r : ReputationRules F) (s₀ : ReputationMgr) (k : Nat) (f : FactionState)
    (s : ReputationMgr) : Prop where
  counted : Counted r s
  here : s.factions.find? k = some f
  others : ∀ k', k' ≠ k → s.factions.find? k' = s₀.factions.find? k'
  rows : s.rows = s₀.rows

/-- A change of the flags other than the visible one, which is marked for the next save. -/
structure FlagChange (g : FactionState → FactionState) : Prop where
  id : ∀ f, (g f).id = f.id
  standing : ∀ f, (g f).standing = f.standing
  visible : ∀ f, (g f).flags.visible = f.flags.visible
  fit : ∀ d f, FlagsFit d f.flags → FlagsFit d (g f).flags

/-- A change of flags at `k` leaves the counters right and the other states alone. -/
theorem At.change (h : At r s₀ k f s) (hg : FlagChange g) : At r s₀ k (g f) (s.changeState k g) where
  counted := changeState_counted h.counted hg.id hg.standing hg.visible hg.fit
  here := by rw [changeState_find?, if_pos rfl, h.here, Option.map_some]
  others := by
    intro k' hk
    rw [changeState_find?, if_neg hk]
    exact h.others k' hk
  rows := h.rows

theorem showState_rows : (s.showState k).rows = s.rows := by
  rcases showState_cases s k with ⟨heq, -⟩ | ⟨f, -, -, -, -, heq⟩ <;> rw [heq]

theorem At.show (h : At r s₀ k f s) : At r s₀ k (shown f) (s.showState k) where
  counted := showState_counted h.counted k
  here := by rw [showState_find?, if_pos rfl, h.here, Option.map_some]
  others := by
    intro k' hk
    rw [showState_find?, if_neg hk]
    exact h.others k' hk
  rows := showState_rows.trans h.rows

theorem At.restand (h : At r s₀ k f s) (hid : (g f).id = f.id) (hflags : (g f).flags = f.flags)
    {oldRank newRank : Nat} (hold : oldRank = rankOf r f) (hnew : newRank = rankOf r (g f)) :
    At r s₀ k (g f) ((s.changeState k g).updateRankCounters oldRank newRank) where
  counted := restand_counted h.counted h.here hid hflags hold hnew
  here := by
    show (s.changeState k g).factions.find? k = _
    rw [changeState_find?, if_pos rfl, h.here, Option.map_some]
  others := by
    intro k' hk
    show (s.changeState k g).factions.find? k' = _
    rw [changeState_find?, if_neg hk]
    exact h.others k' hk
  rows := h.rows

theorem warState_change (on : Bool) : FlagChange (warState · on) := by
  refine ⟨fun f => ?_, fun f => ?_, fun f => ?_, fun d f h => ?_⟩
  · simp only [warState]
    split
    · rfl
    · split <;> rfl
  · simp only [warState]
    split
    · rfl
    · split <;> rfl
  · simp only [warState]
    split
    · rfl
    · split <;> rfl
  · simp only [warState]
    split
    · exact h
    next hpeace =>
      split
      · exact h
      · refine ⟨h.hidden, h.invisibleForced, h.peaceForced, h.rival, h.special, h.visible, h.shown,
          fun hon => .inr ?_, h.inactive⟩
        rw [← h.peaceForced]
        rw [Bool.and_eq_true, not_and, Bool.not_eq_true] at hpeace
        exact hpeace hon

theorem inactiveState_change (on : Bool) : FlagChange (inactiveState · on) := by
  refine ⟨fun f => ?_, fun f => ?_, fun f => ?_, fun d f h => ?_⟩
  · simp only [inactiveState]
    split
    · rfl
    · split <;> rfl
  · simp only [inactiveState]
    split
    · rfl
    · split <;> rfl
  · simp only [inactiveState]
    split
    · rfl
    · split <;> rfl
  · simp only [inactiveState]
    split
    · exact h
    next hrefused =>
      split
      · exact h
      · refine ⟨h.hidden, h.invisibleForced, h.peaceForced, h.rival, h.special, h.visible, h.shown,
          h.war, fun hon => .inr ?_⟩
        rw [Bool.and_eq_true, not_and] at hrefused
        have hno := hrefused hon
        simp only [Bool.or_eq_true, Bool.not_eq_true', not_or, Bool.not_eq_true,
          Bool.not_eq_false] at hno
        exact ⟨hno.2, h.invisibleForced ▸ hno.1.1, h.hidden ▸ hno.1.2⟩

theorem loadAtWar_change (row : ReputationRow) : FlagChange (loadAtWar row) := by
  have hon := warState_change true
  have hoff := warState_change false
  refine ⟨fun f => ?_, fun f => ?_, fun f => ?_, fun d f h => ?_⟩
  all_goals
    rw [loadAtWar]
    split
  · exact hon.id f
  · split
    · exact hoff.id f
    · rfl
  · exact hon.standing f
  · split
    · exact hoff.standing f
    · rfl
  · exact hon.visible f
  · split
    · exact hoff.visible f
    · rfl
  · exact hon.fit d f h
  · split
    · exact hoff.fit d f h
    · exact h

/-- What `loadWar` makes of a state. -/
def loadedWar (r : ReputationRules F) (row : ReputationRow) (f : FactionState) : FactionState :=
  if rankOf r f ≤ REP_HOSTILE then warState (loadAtWar row f) true else loadAtWar row f

def loadedShown (row : ReputationRow) (f : FactionState) : FactionState :=
  if row.flags.visible then shown f else f

def loadedInactive (row : ReputationRow) (f : FactionState) : FactionState :=
  if row.flags.inactive then inactiveState f true else f

def loadedFlags (r : ReputationRules F) (row : ReputationRow) (f : FactionState) : FactionState :=
  loadedWar r row (loadedInactive row (loadedShown row { f with standing := row.standing }))

def markSaved (row : ReputationRow) (f : FactionState) : FactionState :=
  if f.flags = row.flags then { f with needSave := false } else f

theorem getRank_eq (h : Listed r e) (hf : s.factions.find? (repListID e) = some f)
    (hid : f.id = e.id) : getRank r s e = rankOf r f := by
  rw [getRank, getReputation, if_pos h.list, hf, rankOf_eq h hid]

theorem At.id (h : At r s₀ (repListID e) f s) (he : Listed r e) : f.id = e.id := by
  obtain ⟨e', he', hid, hk, -⟩ := h.counted.keyed _ _ h.here
  rw [hid, he'.eq_of_repListID he hk]

theorem At.loadShown (h : At r s₀ k f s) (row : ReputationRow) :
    At r s₀ k (loadedShown row f) (if row.flags.visible then s.showState k else s) := by
  rw [loadedShown]
  split
  · exact h.show
  · exact h

theorem At.loadInactive (h : At r s₀ k f s) (row : ReputationRow) : At r s₀ k (loadedInactive row f)
    (if row.flags.inactive then s.changeState k (inactiveState · true) else s) := by
  rw [loadedInactive]
  split
  · exact h.change (inactiveState_change true)
  · exact h

theorem At.loadWar (h : At r s₀ (repListID e) f s) (he : Listed r e) (row : ReputationRow) :
    At r s₀ (repListID e) (loadedWar r row f) (loadWar r e row s) := by
  have hfirst := h.change (loadAtWar_change row)
  have hrank : getRank r (s.changeState (repListID e) (loadAtWar row)) e = rankOf r f := by
    rw [getRank_eq he hfirst.here (hfirst.id he)]
    exact rankOf_congr ((loadAtWar_change row).id f) ((loadAtWar_change row).standing f)
  rw [ReputationMgr.loadWar, loadedWar, hrank]
  split
  · exact hfirst.change (warState_change true)
  · exact hfirst

theorem markSaved_change (row : ReputationRow) : FlagChange (markSaved row) := by
  refine ⟨fun f => ?_, fun f => ?_, fun f => ?_, fun d f h => ?_⟩
  all_goals
    rw [markSaved]
    split
  all_goals first | rfl | exact h

/-- What `loadRow` makes of a state. -/
def loadedState (r : ReputationRules F) (row : ReputationRow) (f : FactionState) : FactionState :=
  markSaved row (loadedFlags r row f)

/-- A row is loaded into the state of its faction alone. -/
theorem At.loadRow (h : At r s₀ (repListID e) f s) (he : Listed r e) (hzero : f.standing = 0)
    (row : ReputationRow) : At r s₀ (repListID e) (loadedState r row f) (loadRow r s e.id row) := by
  have hold : reputationToRank (getBaseReputation r e) = rankOf r f := by
    rw [rankOf_eq he (h.id he), hzero, Int.add_zero, int32_base he]
  have hnew : reputationToRank (int32 (getBaseReputation r e + row.standing)) =
      rankOf r { f with standing := row.standing } :=
    (rankOf_eq (f := { f with standing := row.standing }) he (h.id he)).symm
  have hstand := h.restand (g := fun f => { f with standing := row.standing }) rfl rfl hold hnew
  have hlast := ((hstand.loadShown row).loadInactive row).loadWar he row
  rw [ReputationMgr.loadRow, he.entry]
  exact Eq.subst (motive := At r s₀ (repListID e) _) (if_pos he.list).symm
    (hlast.change (markSaved_change row))

/-- A row of a faction that is not in the list is ignored. -/
theorem loadRow_unlisted {id : Nat} (h : ∀ e, Listed r e → e.id ≠ id) : loadRow r s id row = s := by
  rw [loadRow]
  split
  · rfl
  next e he =>
    refine if_neg fun hlist => ?_
    exact h e (listed_of_lookup he hlist) (r.store.lookupEntry_id he)

def loaded (r : ReputationRules F) (e : FactionEntry F) (row : Option ReputationRow) : FactionState :=
  match row with
  | some row => loadedState r row (initial r e)
  | none => initial r e

/-- While the rows are loaded: `todo` are still to come. -/
structure Loading (r : ReputationRules F) (rows : OrdMap Nat ReputationRow)
    (todo : List (Nat × ReputationRow)) (s : ReputationMgr) : Prop where
  counted : Counted r s
  states : ∀ e, Listed r e → s.factions.find? (repListID e) =
    some (if ∃ x ∈ todo, x.1 = e.id then initial r e else loaded r e (rows.find? e.id))
  rows : s.rows = rows

theorem Loading.next {rows : OrdMap Nat ReputationRow} {todo : List (Nat × ReputationRow)} {id : Nat}
    (h : Loading r rows ((id, row) :: todo) s) (hrow : rows.find? id = some row)
    (hnew : ∀ x ∈ todo, x.1 ≠ id) : Loading r rows todo (loadRow r s id row) := by
  have hother : ∀ e : FactionEntry F, e.id ≠ id → ((∃ x ∈ (id, row) :: todo, x.1 = e.id) ↔ ∃ x ∈ todo, x.1 = e.id) := by
    intro e he
    simp only [List.mem_cons, exists_eq_or_imp, or_iff_right (Ne.symm he)]
  by_cases hlisted : ∃ e, Listed r e ∧ e.id = id
  · obtain ⟨e, he, rfl⟩ := hlisted
    have hinit : s.factions.find? (repListID e) = some (initial r e) := by
      rw [h.states e he, if_pos ⟨_, List.mem_cons_self, rfl⟩]
    have hat : At r s (repListID e) (initial r e) s := ⟨h.counted, hinit, fun _ _ => rfl, rfl⟩
    have hload := hat.loadRow he rfl row
    refine ⟨hload.counted, fun e' he' => ?_, hload.rows.trans h.rows⟩
    by_cases heq : e' = e
    · subst heq
      have hnot : ¬∃ x ∈ todo, x.1 = e'.id := fun ⟨x, hx, hid⟩ => hnew x hx hid
      rw [if_neg hnot, hrow]
      exact hload.here
    · have hne : e'.id ≠ e.id := fun hc => heq (he'.eq_of_id he hc)
      rw [hload.others _ fun hc => heq (he'.eq_of_repListID he hc), h.states e' he']
      simp only [hother e' hne]
  · rw [loadRow_unlisted fun e he hid => hlisted ⟨e, he, hid⟩]
    refine ⟨h.counted, fun e' he' => ?_, h.rows⟩
    rw [h.states e' he']
    simp only [hother e' fun hc => hlisted ⟨e', he', hc⟩]

/-- The rows come in the order of their ids, so each state is loaded once. -/
theorem Loading.foldl {rows : OrdMap Nat ReputationRow} {todo : List (Nat × ReputationRow)}
    (h : Loading r rows todo s) (hrows : ∀ x ∈ todo, rows.find? x.1 = some x.2)
    (hsorted : todo.Pairwise fun a b => a.1 < b.1) :
    Loading r rows [] (todo.foldl (fun s row => loadRow r s row.1 row.2) s) := by
  induction todo generalizing s with
  | nil => exact h
  | cons x todo ih =>
    rw [List.pairwise_cons] at hsorted
    refine ih (h.next (hrows x List.mem_cons_self) fun y hy => ?_)
      (fun y hy => hrows y (List.mem_cons_of_mem x hy)) hsorted.2
    exact (hsorted.1 y hy).ne'

theorem initializeAll_loading (s : ReputationMgr) :
    Loading r s.rows s.rows.entries (initializeAll r s) := by
  refine ⟨initializeAll_counted s, fun e he => ?_, initializeAll_rows s⟩
  rw [initializeAll_find? s he]
  split
  · rfl
  next hnone =>
    have hfind : s.rows.find? e.id = none := by
      rw [OrdMap.find?_eq_none]
      intro v hv
      exact hnone ⟨_, hv, rfl⟩
    rw [hfind]
    rfl

theorem loadFromDB_loading (s : ReputationMgr) : Loading r s.rows [] (loadFromDB r s) :=
  (initializeAll_loading s).foldl (fun _ hx => OrdMap.find?_eq_some.mpr hx) s.rows.sorted

/-- After a load each state is its row, or what the faction begins with when there is none. -/
theorem loadFromDB_find? (s : ReputationMgr) (h : Listed r e) :
    (loadFromDB r s).factions.find? (repListID e) = some (loaded r e (s.rows.find? e.id)) := by
  rw [(loadFromDB_loading s).states e h]
  simp

/-! ## Flags that are loaded -/

theorem warState_flags (f : FactionState) (on : Bool) : (warState f on).flags =
    { f.flags with atWar := if on && f.flags.peaceForced then f.flags.atWar else on } := by
  rw [warState]
  split
  · rfl
  · split
    next heq =>
      rw [← beq_iff_eq.mp heq]
    · rfl

theorem inactiveState_flags (f : FactionState) : (inactiveState f true).flags =
    { f.flags with inactive := f.flags.inactive ||
        (!(f.flags.invisibleForced || f.flags.hidden) && f.flags.visible) } := by
  have hflags : f.flags = { f.flags with inactive := f.flags.inactive } := rfl
  rw [inactiveState]
  split
  next hrefused =>
    have hno : (!(f.flags.invisibleForced || f.flags.hidden) && f.flags.visible) = false := by
      revert hrefused
      cases f.flags.invisibleForced <;> cases f.flags.hidden <;> cases f.flags.visible <;> simp
    rw [hno, Bool.or_false]
  next hallowed =>
    have hyes : (!(f.flags.invisibleForced || f.flags.hidden) && f.flags.visible) = true := by
      revert hallowed
      cases f.flags.invisibleForced <;> cases f.flags.hidden <;> cases f.flags.visible <;> simp
    rw [hyes, Bool.or_true]
    split
    next heq =>
      rw [← beq_iff_eq.mp heq]
    · rfl

theorem shown_flags (f : FactionState) :
    (shown f).flags = { f.flags with visible := f.flags.visible || canShow f.flags } := by
  rw [shown]
  split
  next hcan =>
    have hno : canShow f.flags = false := by simpa using hcan
    rw [hno, Bool.or_false]
  next hcan =>
    have hyes : canShow f.flags = true := by simpa using hcan
    rw [hyes, Bool.or_true]
    split
    next hvis => rw [← hvis]
    · rfl

/-- The flags that a state with the flags `f` is loaded with: hostile factions are at war, the default
war of a faction that is not visible stays, and so does a faction that is inactive by default. -/
def reloadedFlags (d f : FactionFlags) (hostile : Bool) : FactionFlags :=
  { f with
    inactive := f.inactive || d.inactive
    atWar := f.atWar || (!f.visible && d.atWar) || (hostile && !f.peaceForced) }

theorem loadedShown_flags {fl : FactionFlags} (hrow : row.flags = fl) (hfit : FlagsFit f.flags fl) :
    (loadedShown row f).flags = { f.flags with visible := fl.visible } := by
  rw [loadedShown, hrow]
  by_cases hvis : fl.visible = true
  · rw [if_pos hvis, shown_flags, hvis]
    have hor : (f.flags.visible || canShow f.flags) = true := by
      rw [Bool.or_eq_true]
      exact hfit.shown hvis
    rw [hor]
  · have hd : f.flags.visible = false := by
      rw [← Bool.not_eq_true]
      exact fun hc => hvis (hfit.visible hc)
    rw [if_neg hvis]
    rw [Bool.not_eq_true] at hvis
    rw [hvis, ← hd]

theorem loadedInactive_flags {fl : FactionFlags} (hrow : row.flags = fl)
    (hfit : fl.inactive = true → f.flags.inactive = true ∨
      f.flags.visible = true ∧ f.flags.invisibleForced = false ∧ f.flags.hidden = false) :
    (loadedInactive row f).flags = { f.flags with inactive := fl.inactive || f.flags.inactive } := by
  rw [loadedInactive, hrow]
  by_cases hin : fl.inactive = true
  · rw [if_pos hin, inactiveState_flags, hin, Bool.true_or]
    have hor : (f.flags.inactive ||
        (!(f.flags.invisibleForced || f.flags.hidden) && f.flags.visible)) = true := by
      rcases hfit hin with h | ⟨hv, hf, hh⟩
      · rw [h, Bool.true_or]
      · rw [hv, hf, hh]
        exact Bool.or_true _
    rw [hor]
  · rw [if_neg hin]
    rw [Bool.not_eq_true] at hin
    rw [hin, Bool.false_or]

theorem loadAtWar_flags {fl : FactionFlags} (hrow : row.flags = fl)
    (hvis : f.flags.visible = fl.visible)
    (hfit : fl.atWar = true → f.flags.atWar = true ∨ f.flags.peaceForced = false) :
    (loadAtWar row f).flags =
      { f.flags with atWar := fl.atWar || (!fl.visible && f.flags.atWar) } := by
  rw [loadAtWar, hrow, hvis]
  by_cases hwar : fl.atWar = true
  · rw [if_pos hwar, warState_flags, hwar, Bool.true_or, Bool.true_and]
    rcases hfit hwar with h | h
    · rw [h, ite_self]
    · rw [h, if_neg Bool.false_ne_true]
  · rw [if_neg hwar]
    rw [Bool.not_eq_true] at hwar
    rw [hwar, Bool.false_or]
    cases hv : fl.visible with
    | true =>
      rw [if_pos rfl, warState_flags]
      rfl
    | false =>
      rw [if_neg Bool.false_ne_true]
      rfl

theorem loadedWar_flags : (loadedWar r row f).flags = { (loadAtWar row f).flags with
    atWar := (loadAtWar row f).flags.atWar ||
      (decide (rankOf r f ≤ REP_HOSTILE) && !(loadAtWar row f).flags.peaceForced) } := by
  rw [loadedWar]
  by_cases hhostile : rankOf r f ≤ REP_HOSTILE
  · rw [if_pos hhostile, warState_flags, decide_eq_true hhostile, Bool.true_and, Bool.true_and]
    cases hp : (loadAtWar row f).flags.peaceForced with
    | true =>
      rw [if_pos rfl, Bool.not_true, Bool.or_false]
    | false =>
      rw [if_neg Bool.false_ne_true, Bool.not_false, Bool.or_true]
  · rw [if_neg hhostile, decide_eq_false hhostile, Bool.false_and, Bool.or_false]

theorem loadedShown_standing : (loadedShown row f).standing = f.standing := by
  rw [loadedShown]
  split
  · exact shown_standing
  · rfl

theorem loadedShown_id : (loadedShown row f).id = f.id := by
  rw [loadedShown]
  split
  · exact shown_id
  · rfl

theorem loadedInactive_change (row : ReputationRow) : FlagChange (loadedInactive row) := by
  have h := inactiveState_change true
  refine ⟨fun f => ?_, fun f => ?_, fun f => ?_, fun d f hfit => ?_⟩
  all_goals
    rw [loadedInactive]
    split
  · exact h.id f
  · rfl
  · exact h.standing f
  · rfl
  · exact h.visible f
  · rfl
  · exact h.fit d f hfit
  · exact hfit

theorem loadedWar_standing : (loadedWar r row f).standing = f.standing := by
  rw [loadedWar]
  split
  · exact ((warState_change true).standing _).trans ((loadAtWar_change row).standing f)
  · exact (loadAtWar_change row).standing f

theorem loadedWar_id : (loadedWar r row f).id = f.id := by
  rw [loadedWar]
  split
  · exact ((warState_change true).id _).trans ((loadAtWar_change row).id f)
  · exact (loadAtWar_change row).id f

theorem loadedState_standing : (loadedState r row f).standing = row.standing := by
  rw [loadedState, (markSaved_change row).standing, loadedFlags, loadedWar_standing,
    (loadedInactive_change row).standing, loadedShown_standing]

theorem loadedState_id : (loadedState r row f).id = f.id := by
  rw [loadedState, (markSaved_change row).id, loadedFlags, loadedWar_id,
    (loadedInactive_change row).id, loadedShown_id]

theorem markSaved_flags : (markSaved row f).flags = f.flags := by
  rw [markSaved]
  split <;> rfl

/-- The flags that a saved state comes back with: those forced on the faction are put on again. -/
theorem loadedState_flags {fl : FactionFlags} (he : Listed r e) (hrow : row.flags = fl)
    (hfit : FlagsFit (getDefaultStateFlags r e) fl) :
    (loadedState r row (initial r e)).flags = reloadedFlags (getDefaultStateFlags r e) fl
      (reputationToRank (int32 (getBaseReputation r e + row.standing)) ≤ REP_HOSTILE) := by
  have h1 := loadedShown_flags (f := { initial r e with standing := row.standing }) hrow hfit
  have h2 := loadedInactive_flags
    (f := loadedShown row { initial r e with standing := row.standing }) hrow (by
      rw [h1]
      exact hfit.inactive)
  rw [h1] at h2
  have h3 := loadAtWar_flags
    (f := loadedInactive row (loadedShown row { initial r e with standing := row.standing })) hrow
    (by rw [h2]) (by
      rw [h2]
      exact hfit.war)
  rw [h2] at h3
  have hrank : rankOf r (loadedInactive row
      (loadedShown row { initial r e with standing := row.standing })) =
      reputationToRank (int32 (getBaseReputation r e + row.standing)) := by
    rw [rankOf_eq he (((loadedInactive_change row).id _).trans loadedShown_id),
      (loadedInactive_change row).standing, loadedShown_standing]
  have hsame : (initial r e).flags = getDefaultStateFlags r e := rfl
  rw [loadedState, markSaved_flags, loadedFlags, loadedWar_flags, h3, hrank, reloadedFlags]
  simp only [hsame, hfit.hidden, hfit.invisibleForced, hfit.peaceForced, hfit.rival, hfit.special]

def Marked (f f' : FactionState) : Prop := f' = f ∨ f'.needSave = true

theorem warState_marked (f : FactionState) (on : Bool) : Marked f (warState f on) := by
  rw [warState]
  split
  · exact .inl rfl
  · split
    · exact .inl rfl
    · exact .inr rfl

theorem inactiveState_marked (f : FactionState) (on : Bool) : Marked f (inactiveState f on) := by
  rw [inactiveState]
  split
  · exact .inl rfl
  · split
    · exact .inl rfl
    · exact .inr rfl

theorem shown_marked (f : FactionState) : Marked f (shown f) := by
  rw [shown]
  split
  · exact .inl rfl
  · split
    · exact .inl rfl
    · exact .inr rfl

/-- A state that waits to be saved goes on waiting. -/
theorem Marked.needSave {f f' : FactionState} (h : Marked f f') (hf : f.needSave = true) :
    f'.needSave = true := by
  rcases h with rfl | h
  · exact hf
  · exact h

theorem loadedFlags_needSave (hf : f.needSave = true) : (loadedFlags r row f).needSave = true := by
  have hshown : ∀ f, f.needSave = true → (loadedShown row f).needSave = true := by
    intro f hf
    rw [loadedShown]
    split
    · exact (shown_marked f).needSave hf
    · exact hf
  have hinactive : ∀ f, f.needSave = true → (loadedInactive row f).needSave = true := by
    intro f hf
    rw [loadedInactive]
    split
    · exact (inactiveState_marked f true).needSave hf
    · exact hf
  have hatWar : ∀ f, f.needSave = true → (loadAtWar row f).needSave = true := by
    intro f hf
    rw [loadAtWar]
    split
    · exact (warState_marked f true).needSave hf
    · split
      · exact (warState_marked f false).needSave hf
      · exact hf
  rw [loadedFlags, loadedWar]
  split
  · exact (warState_marked _ true).needSave (hatWar _ (hinactive _ (hshown _ hf)))
  · exact hatWar _ (hinactive _ (hshown _ hf))

/-- What a load leaves unmarked is in its row as it is. -/
theorem loaded_saved {o : Option ReputationRow} (h : (loaded r e o).needSave = false) :
    o = some ⟨(loaded r e o).standing, (loaded r e o).flags⟩ := by
  cases o with
  | none => cases h
  | some row =>
    have hkept : (loadedFlags r row (initial r e)).needSave = true := loadedFlags_needSave rfl
    have hflags : (loadedFlags r row (initial r e)).flags = row.flags := by
      by_contra hne
      rw [loaded, loadedState, markSaved, if_neg hne, hkept] at h
      cases h
    show some row = some ⟨(loadedState r row (initial r e)).standing,
      (loadedState r row (initial r e)).flags⟩
    rw [loadedState_standing, loadedState, markSaved_flags, hflags]

theorem loaded_id {o : Option ReputationRow} : (loaded r e o).id = e.id := by
  cases o with
  | none => rfl
  | some row => exact loadedState_id

theorem loaded_standing {o : Option ReputationRow} :
    (loaded r e o).standing = o.elim 0 (·.standing) := by
  cases o with
  | none => rfl
  | some row => exact loadedState_standing

theorem foldl_rows_of_none {l : List (Nat × FactionState)} {rows : OrdMap Nat ReputationRow} {id : Nat}
    (h : ∀ x ∈ l, x.2.needSave = true → x.2.id ≠ id) :
    (l.foldl (fun rows x => if x.2.needSave then rows.set x.2.id ⟨x.2.standing, x.2.flags⟩ else rows)
      rows).find? id = rows.find? id := by
  induction l generalizing rows with
  | nil => rfl
  | cons x l ih =>
    rw [List.foldl_cons, ih fun y hy => h y (List.mem_cons_of_mem x hy)]
    split
    next hsave => exact OrdMap.find?_set_ne (Ne.symm (h x List.mem_cons_self hsave))
    · rfl

theorem foldl_rows_of_mem {l : List (Nat × FactionState)} {rows : OrdMap Nat ReputationRow}
    {x : Nat × FactionState} (hx : x ∈ l) (hsave : x.2.needSave = true)
    (honly : ∀ y ∈ l, y.2.id = x.2.id → y = x) :
    (l.foldl (fun rows x => if x.2.needSave then rows.set x.2.id ⟨x.2.standing, x.2.flags⟩ else rows)
      rows).find? x.2.id = some ⟨x.2.standing, x.2.flags⟩ := by
  induction l generalizing rows with
  | nil => cases hx
  | cons y l ih =>
    rw [List.foldl_cons]
    by_cases hin : x ∈ l
    · exact ih hin fun z hz => honly z (List.mem_cons_of_mem y hz)
    · have hyx : y = x := by
        rcases List.mem_cons.mp hx with heq | hc
        · exact heq.symm
        · exact absurd hc hin
      subst hyx
      rw [foldl_rows_of_none, if_pos hsave, OrdMap.find?_set_same]
      intro z hz _ hid
      exact hin (honly z (List.mem_cons_of_mem y hz) hid ▸ hz)

theorem saveToDB_find? (s : ReputationMgr) (k : Nat) : (saveToDB s).factions.find? k =
    (s.factions.find? k).map fun f => { f with needSave := false } :=
  OrdMap.find?_mapValues

/-- A save writes the state of every key that is marked. -/
theorem saveToDB_row (h : Counted r s) (hf : s.factions.find? k = some f)
    (hsave : f.needSave = true) : (saveToDB s).rows.find? f.id = some ⟨f.standing, f.flags⟩ := by
  refine foldl_rows_of_mem (x := (k, f)) (OrdMap.find?_eq_some.mp hf) hsave ?_
  rintro ⟨k', f'⟩ hin hid
  have hf' := OrdMap.find?_eq_some.mpr hin
  obtain ⟨e, he, hfe, rfl, -⟩ := h.keyed k f hf
  obtain ⟨e', he', hfe', rfl, -⟩ := h.keyed k' f' hf'
  have heq : e' = e := he'.eq_of_id he (by rw [← hfe', ← hfe, hid])
  subst heq
  rw [hf] at hf'
  cases hf'
  rfl

/-- And no other row. -/
theorem saveToDB_row_of_none {id : Nat}
    (h : ∀ k f, s.factions.find? k = some f → f.needSave = true → f.id ≠ id) :
    (saveToDB s).rows.find? id = s.rows.find? id := by
  refine foldl_rows_of_none ?_
  rintro ⟨k, f⟩ hin
  exact h k f (OrdMap.find?_eq_some.mpr hin)

theorem saveToDB_counted (h : Counted r s) : Counted r (saveToDB s) := by
  have hcount : ∀ rank, rankCount r rank (saveToDB s) = rankCount r rank s := by
    intro rank
    refine OrdMap.countP_eq_of_find? fun k => ?_
    rw [saveToDB_find?, Option.map_map]
    rfl
  have hvisible : (saveToDB s).visibleCount = s.visibleCount := by
    refine OrdMap.countP_eq_of_find? fun k => ?_
    rw [saveToDB_find?, Option.map_map]
    rfl
  refine ⟨?_, ?_, ?_, ?_, ?_⟩
  · intro k f hf
    rw [saveToDB_find?, Option.map_eq_some_iff] at hf
    obtain ⟨f', hf', rfl⟩ := hf
    exact h.keyed k f' hf'
  · rw [hvisible]
    exact h.visible
  · rw [hcount]
    exact h.honored
  · rw [hcount]
    exact h.revered
  · rw [hcount]
    exact h.exalted

end ReputationMgr

end SkyfireBG
