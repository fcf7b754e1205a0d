import SkyfireBG.Lib.Persist
import SkyfireBG.Lib.Run

/-!
# SkyfireBG.Player.ActionButtons

The action bars of a player.  The buttons in memory are those of the active spec, which they do not
name; their rows are stored under the spec that is active when they are saved.

* `saveActions_rows`   — the rows of the active spec after a save.
* `activateSpec_kept`  — a change of the spec loads the rows of the new one.
* `action_bars`        — runs of changes, saves, and changes of the spec.
-/

namespace SkyfireBG

inductive ActionButtonUpdateState where
  | unchanged | changed | new | deleted
deriving DecidableEq, Repr

def ACTION_BUTTON_SPELL : UInt8 := 0x00
def ACTION_BUTTON_ITEM : UInt8 := 0x80
def MAX_ACTION_BUTTON_ACTION_VALUE : UInt32 := 0x01000000
def MAX_ACTION_BUTTONS : Nat := 144

structure ActionButton where
  packedData : UInt32 := 0
  uState : ActionButtonUpdateState := .new
deriving DecidableEq, Repr

namespace ActionButton

def getType (ab : ActionButton) : UInt8 := ((ab.packedData &&& 0xFF000000) >>> 24).toUInt8

def getAction (ab : ActionButton) : UInt32 := ab.packedData &&& 0x00FFFFFF

def setActionAndType (ab : ActionButton) (action : UInt32) (type : UInt8) : ActionButton :=
  let newData := action ||| type.toUInt32 <<< 24
  if newData ≠ ab.packedData ∨ ab.uState = .deleted then
    { packedData := newData, uState := if ab.uState ≠ .new then .changed else ab.uState }
  else ab

end ActionButton

/-- A row of `character_action`. -/
structure ActionRow where
  action : UInt32
  type : UInt8
deriving DecidableEq, Repr

structure ActionData where
  getSpellInfo : UInt32 → Bool
  hasSpell : UInt32 → Bool
  getItemTemplate : UInt32 → Bool

def ActionData.isActionButtonDataValid (d : ActionData) (button : Nat) (action : UInt32)
    (type : UInt8) : Bool :=
  if button ≥ MAX_ACTION_BUTTONS then false
  else if action ≥ MAX_ACTION_BUTTON_ACTION_VALUE then false
  else if type = ACTION_BUTTON_SPELL then d.getSpellInfo action && d.hasSpell action
  else if type = ACTION_BUTTON_ITEM then d.getItemTemplate action
  else true

structure ActionBars where
  actionButtons : OrdMap Nat ActionButton := ∅
  activeSpec : Nat := 0
  specsCount : Nat := 1
  /-- The rows of each spec, under their buttons. -/
  rows : Nat → OrdMap Nat ActionRow := fun _ => ∅

namespace ActionBars

section Operations

variable (d : ActionData) (s : ActionBars)

def addActionButton (button : Nat) (action : UInt32) (type : UInt8) : ActionBars :=
  if d.isActionButtonDataValid button action type then
    let ab := (s.actionButtons.find? button).getD {}
    { s with actionButtons := s.actionButtons.set button (ab.setActionAndType action type) }
  else s

def removeActionButton (button : Nat) : ActionBars :=
  match s.actionButtons.find? button with
  | none => s
  | some ab =>
    if ab.uState = .deleted then s
    else if ab.uState = .new then { s with actionButtons := s.actionButtons.erase button }
    else { s with actionButtons := s.actionButtons.set button { ab with uState := .deleted } }

def rowOf (ab : ActionButton) : ActionRow := ⟨ab.getAction, ab.getType⟩

def saveRule : SaveRule ActionButton ActionRow where
  statements ab :=
    match ab.uState with
    | .new => [.insert (rowOf ab)]
    | .changed => [.update fun _ => rowOf ab]
    | .deleted => [.delete]
    | .unchanged => []
  next ab := if ab.uState = .deleted then none else some { ab with uState := .unchanged }

/-- `_SaveActions`, under the active spec. -/
def saveActions : ActionBars :=
  { s with
    actionButtons := saveRule.entries s.actionButtons
    rows := Function.update s.rows s.activeSpec
      (saveRule.rows s.actionButtons (s.rows s.activeSpec)) }

/-- `_LoadActions` of a row. -/
def loadAction (button : Nat) (row : ActionRow) : ActionButton :=
  if d.isActionButtonDataValid button row.action row.type then
    { ActionButton.setActionAndType {} row.action row.type with uState := .unchanged }
  else { uState := .deleted }

/-- `ActivateSpec`; the data are those after the talents were changed.  Without rows nothing is
loaded. -/
def activateSpec (spec : Nat) : ActionBars :=
  if s.activeSpec = spec then s
  else if spec > s.specsCount then s
  else
    let s := { s.saveActions with activeSpec := spec }
    if (s.rows spec).size = 0 then s
    else { s with actionButtons := (s.rows spec).filterMap fun button row => some (loadAction d button row) }

def updateSpecCount (count : Nat) : ActionBars :=
  if s.specsCount = count then s
  else
    let s := if s.activeSpec ≥ count then s.activateSpec d 0 else s
    if count > s.specsCount then
      let s := s.saveActions
      { s with
        rows := Function.update s.rows 1 (saveRows Prod.fst (fun e => [.insert (rowOf e.2)])
          s.actionButtons.entries (s.rows 1))
        specsCount := count }
    else if count < s.specsCount then
      let s := s.saveActions
      { s with
        rows := fun spec => if spec ≠ s.activeSpec then ∅ else s.rows spec
        activeSpec := 0
        specsCount := count }
    else { s with specsCount := count }

end Operations

end ActionBars

inductive ActionOp where
  | addActionButton (d : ActionData) (button : Nat) (action : UInt32) (type : UInt8)
  | removeActionButton (button : Nat)
  | saveActions
  | activateSpec (d : ActionData) (spec : Nat)
  | updateSpecCount (d : ActionData) (count : Nat)

namespace ActionBars

def step (s : ActionBars) : ActionOp → ActionBars
  | .addActionButton d button action type => s.addActionButton d button action type
  | .removeActionButton button => s.removeActionButton button
  | .saveActions => s.saveActions
  | .activateSpec d spec => s.activateSpec d spec
  | .updateSpecCount d count => s.updateSpecCount d count

theorem action_lt {action : UInt32} (h : action < MAX_ACTION_BUTTON_ACTION_VALUE) :
    action.toNat < 2 ^ 24 := by
  simpa [MAX_ACTION_BUTTON_ACTION_VALUE] using UInt32.lt_iff_toNat_lt.mp h

theorem packed_toNat {action : UInt32} (h : action.toNat < 2 ^ 24) (type : UInt8) :
    (action ||| type.toUInt32 <<< 24).toNat = action.toNat + type.toNat * 2 ^ 24 := by
  have htype := type.toNat_lt
  have hshift : (type.toUInt32 <<< 24).toNat = type.toNat <<< 24 := by
    simp only [UInt32.toNat_shiftLeft, UInt8.toNat_toUInt32, UInt32.reduceToNat, Nat.reduceMod,
      Nat.shiftLeft_eq]
    omega
  rw [UInt32.toNat_or, hshift, Nat.or_comm, ← Nat.shiftLeft_add_eq_or_of_lt h, Nat.shiftLeft_eq,
    Nat.add_comm]

theorem getAction_toNat (ab : ActionButton) : ab.getAction.toNat = ab.packedData.toNat % 2 ^ 24 := by
  rw [ActionButton.getAction, UInt32.toNat_and]
  exact Nat.and_two_pow_sub_one_eq_mod ab.packedData.toNat 24

theorem getType_toNat (ab : ActionButton) : ab.getType.toNat = ab.packedData.toNat / 2 ^ 24 := by
  have hlt := ab.packedData.toNat_lt
  have hmask : (0xFF000000 : Nat) >>> 24 = 2 ^ 8 - 1 := rfl
  simp only [ActionButton.getType, UInt32.toNat_toUInt8, UInt32.toNat_shiftRight, UInt32.toNat_and,
    UInt32.reduceToNat, Nat.reduceMod]
  rw [Nat.shiftRight_and_distrib, hmask, Nat.and_two_pow_sub_one_eq_mod, Nat.shiftRight_eq_div_pow]
  omega

theorem rowOf_packed {ab : ActionButton} {action : UInt32} {type : UInt8}
    (h : action.toNat < 2 ^ 24) (hab : ab.packedData = action ||| type.toUInt32 <<< 24) :
    rowOf ab = ⟨action, type⟩ := by
  have hpacked := packed_toNat h type
  have haction : ab.getAction = action := by
    rw [← UInt32.toNat_inj, getAction_toNat, hab, hpacked]
    omega
  have htype : ab.getType = type := by
    rw [← UInt8.toNat_inj, getType_toNat, hab, hpacked]
    omega
  rw [rowOf, haction, htype]

def Agree : Option ActionButton → Option ActionRow → Prop
  | none, row => row = none
  | some ab, row =>
    match ab.uState with
    | .unchanged => row = some (rowOf ab)
    | .changed => row ≠ none
    | .new => row = none
    | .deleted => row ≠ none

structure Kept (s : ActionBars) : Prop where
  agree : ∀ button, Agree (s.actionButtons.find? button) ((s.rows s.activeSpec).find? button)
  active : s.activeSpec ≤ s.specsCount

def liveRow (ab : ActionButton) : Option ActionRow :=
  if ab.uState = .deleted then none else some (rowOf ab)

def live (s : ActionBars) (button : Nat) : Option ActionRow :=
  (s.actionButtons.find? button).bind liveRow

variable {s : ActionBars} {d : ActionData} {button : Nat} {action : UInt32} {type : UInt8}

theorem start_kept : Kept {} := ⟨fun _ => rfl, Nat.zero_le _⟩

theorem setActionAndType_agree {ab : ActionButton} {row : Option ActionRow} (h : Agree (some ab) row) :
    Agree (some (ab.setActionAndType action type)) row := by
  rw [ActionButton.setActionAndType]
  split
  · cases hstate : ab.uState <;> simp_all [Agree]
  · exact h

theorem Kept.entry (h : Kept s) (button : Nat) :
    Agree (some ((s.actionButtons.find? button).getD {})) ((s.rows s.activeSpec).find? button) := by
  have hagree := h.agree button
  cases hf : s.actionButtons.find? button with
  | none =>
    rw [hf] at hagree
    exact hagree
  | some ab =>
    rw [hf] at hagree
    exact hagree

theorem Kept.set (h : Kept s) {ab : ActionButton}
    (hagree : Agree (some ab) ((s.rows s.activeSpec).find? button)) :
    Kept { s with actionButtons := s.actionButtons.set button ab } where
  agree := by
    intro button'
    simp only [OrdMap.find?_set]
    split
    next hb =>
      rw [hb]
      exact hagree
    · exact h.agree button'
  active := h.active

theorem addActionButton_kept (h : Kept s) : Kept (s.addActionButton d button action type) := by
  rw [addActionButton]
  split
  · exact h.set (setActionAndType_agree (h.entry button))
  · exact h

theorem removeActionButton_kept (h : Kept s) : Kept (s.removeActionButton button) := by
  have hagree := h.agree button
  rw [removeActionButton]
  split
  · exact h
  next ab hf =>
    rw [hf] at hagree
    split
    · exact h
    next hlive =>
    split
    next hnew =>
      refine ⟨fun button' => ?_, h.active⟩
      simp only [OrdMap.find?_erase]
      split
      next hb =>
        rw [hb]
        rw [Agree, hnew] at hagree
        exact hagree
      · exact h.agree button'
    next hold =>
      refine h.set ?_
      cases hstate : ab.uState <;> simp_all [Agree]

theorem addActionButton_live (hvalid : d.isActionButtonDataValid button action type = true) :
    (s.addActionButton d button action type).live button = some ⟨action, type⟩ := by
  have haction : action.toNat < 2 ^ 24 := by
    rw [ActionData.isActionButtonDataValid] at hvalid
    split at hvalid
    · cases hvalid
    split at hvalid
    · cases hvalid
    next hlt => exact action_lt (UInt32.not_le.mp hlt)
  rw [addActionButton, if_pos hvalid, live]
  simp only [OrdMap.find?_set_same, Option.bind_some]
  rw [ActionButton.setActionAndType]
  split
  · rw [liveRow, if_neg (by simp only; split <;> simp_all), rowOf_packed haction rfl]
  next hsame =>
    rw [not_or, not_ne_iff] at hsame
    rw [liveRow, if_neg hsame.2, rowOf_packed haction hsame.1.symm]

theorem saveActions_buttons (s : ActionBars) (button : Nat) :
    s.saveActions.actionButtons.find? button = (s.actionButtons.find? button).bind fun ab =>
      if ab.uState = .deleted then none else some { ab with uState := .unchanged } :=
  SaveRule.find?_entries

theorem saveActions_live (s : ActionBars) (button : Nat) : s.saveActions.live button = s.live button := by
  rw [live, live, saveActions_buttons]
  cases s.actionButtons.find? button with
  | none => rfl
  | some ab =>
    simp only [Option.bind_some, liveRow]
    split <;> rfl

theorem saveActions_rows (h : Kept s) (button : Nat) :
    (s.saveActions.rows s.activeSpec).find? button = s.live button := by
  rw [saveActions]
  simp only [Function.update_self]
  refine saveRule.exact Agree _ (fun ab row hrow => ?_) (fun row hrow => hrow)
    (h.agree button)
  cases hstate : ab.uState <;> cases row <;>
    simp_all [Agree, saveRule, Statement.onAll, Statement.on, liveRow]

theorem saveActions_others (s : ActionBars) {spec : Nat} (hspec : spec ≠ s.activeSpec) :
    s.saveActions.rows spec = s.rows spec := Function.update_of_ne hspec _ _

theorem saveActions_kept (h : Kept s) : Kept s.saveActions where
  agree := by
    intro button
    have hrow := saveActions_rows h button
    rw [show s.saveActions.activeSpec = s.activeSpec from rfl, hrow, saveActions_buttons, live]
    cases s.actionButtons.find? button with
    | none => rfl
    | some ab =>
      simp only [Option.bind_some, liveRow]
      split <;> rfl
  active := h.active

def Loads (s : ActionBars) (spec : Nat) : Prop :=
  (s.rows spec).size ≠ 0 ∨ ∀ button, s.live button = none

theorem rows_none {spec : Nat} (h : (s.rows spec).size = 0) (button : Nat) :
    (s.rows spec).find? button = none := by
  have hnil : (s.rows spec).entries = [] := List.length_eq_zero_iff.mp h
  rw [OrdMap.find?_eq_none, hnil]
  exact fun _ => List.not_mem_nil

theorem buttons_none (hlive : ∀ button, s.live button = none) (button : Nat) :
    s.saveActions.actionButtons.find? button = none := by
  have hnone := hlive button
  rw [saveActions_buttons]
  rw [live] at hnone
  cases hf : s.actionButtons.find? button with
  | none => rfl
  | some ab =>
    rw [hf, Option.bind_some, liveRow] at hnone
    simp only [Option.bind_some]
    split
    · rfl
    next hstate =>
      rw [if_neg hstate] at hnone
      cases hnone

theorem loadAction_agree (button : Nat) (row : ActionRow) :
    Agree (some (loadAction d button row)) (some row) := by
  rw [loadAction]
  split
  next hvalid =>
    have hlive := addActionButton_live (s := {}) hvalid
    rw [addActionButton, if_pos hvalid, live] at hlive
    simp only [OrdMap.find?_set_same, Option.bind_some, liveRow] at hlive
    split at hlive
    · cases hlive
    · exact hlive.symm
  · exact Option.some_ne_none row

theorem loadAction_live {row : ActionRow}
    (hvalid : d.isActionButtonDataValid button row.action row.type = true) :
    liveRow (loadAction d button row) = some row := by
  have hagree := loadAction_agree (d := d) button row
  rw [loadAction, if_pos hvalid] at hagree ⊢
  exact hagree.symm

theorem activateSpec_kept {spec : Nat} (h : Kept s) (hloads : Loads s spec) :
    Kept (s.activateSpec d spec) := by
  rw [activateSpec]
  split
  · exact h
  next hspec =>
  split
  · exact h
  next hcount =>
    have hrows : s.saveActions.rows spec = s.rows spec := saveActions_others s (Ne.symm hspec)
    simp only [hrows]
    split
    next hsize =>
      refine ⟨fun button => ?_, Nat.not_lt.mp hcount⟩
      have hbutton := buttons_none (hloads.resolve_left (fun hne => hne hsize)) button
      simp only [hbutton, hrows]
      exact rows_none hsize button
    next hsize =>
      refine ⟨fun button => ?_, Nat.not_lt.mp hcount⟩
      simp only [OrdMap.find?_filterMap, hrows]
      cases (s.rows spec).find? button with
      | none => rfl
      | some row => exact loadAction_agree button row

theorem activateSpec_activeSpec {spec : Nat} (hcount : spec ≤ s.specsCount) :
    (s.activateSpec d spec).activeSpec = spec := by
  rw [activateSpec]
  split
  next hspec => exact hspec
  · rw [if_neg (Nat.not_lt.mpr hcount)]
    simp only
    split <;> rfl

theorem activateSpec_live {spec : Nat} (hspec : s.activeSpec ≠ spec) (hcount : spec ≤ s.specsCount)
    (hloads : Loads s spec) (hvalid : ∀ button row, (s.rows spec).find? button = some row →
      d.isActionButtonDataValid button row.action row.type = true) (button : Nat) :
    (s.activateSpec d spec).live button = (s.rows spec).find? button ∧
      (s.activateSpec d spec).rows spec = s.rows spec := by
  have hrows : s.saveActions.rows spec = s.rows spec := saveActions_others s (Ne.symm hspec)
  rw [activateSpec, if_neg hspec, if_neg (Nat.not_lt.mpr hcount)]
  simp only [hrows]
  split
  next hsize =>
    refine ⟨?_, hrows⟩
    rw [live]
    simp only [buttons_none (hloads.resolve_left (fun hne => hne hsize)), rows_none hsize]
    rfl
  next hsize =>
    refine ⟨?_, hrows⟩
    rw [live]
    simp only [OrdMap.find?_filterMap]
    cases hf : (s.rows spec).find? button with
    | none => rfl
    | some row => exact loadAction_live (hvalid button row hf)

theorem copied_rows {spec : Nat} (hsize : (s.rows spec).size = 0)
    (hbuttons : ∀ button ab, s.actionButtons.find? button = some ab → ab.uState ≠ .deleted)
    (button : Nat) :
    (saveRows Prod.fst (fun e => [.insert (rowOf e.2)]) s.actionButtons.entries
      (s.rows spec)).find? button = s.live button := by
  rw [live]
  cases hf : s.actionButtons.find? button with
  | none =>
    rw [find?_saveRows_of_none]
    · exact rows_none hsize button
    · intro e he heq
      exact OrdMap.find?_eq_none.mp hf e.2 (heq ▸ he)
  | some ab =>
    refine (find?_saveRows Prod.fst (fun e => [Statement.insert (rowOf e.2)])
      s.actionButtons.keys_nodup (OrdMap.find?_eq_some.mp hf)).trans ?_
    simp only [rows_none hsize, Option.bind_some, liveRow, if_neg (hbuttons button ab hf)]
    rfl

theorem saveActions_state {ab : ActionButton}
    (hf : s.saveActions.actionButtons.find? button = some ab) : ab.uState ≠ .deleted := by
  rw [saveActions_buttons, Option.bind_eq_some_iff] at hf
  obtain ⟨old, -, hnext⟩ := hf
  split at hnext
  · cases hnext
  · cases hnext
    exact fun h => by cases h

theorem updateSpecCount_gain {count : Nat} (h : Kept s) (hcount : s.specsCount < count)
    (hactive : s.activeSpec ≠ 1) (hrows : (s.rows 1).size = 0) :
    Kept (s.updateSpecCount d count) ∧
      ∀ button, ((s.updateSpecCount d count).rows 1).find? button = s.live button ∧
        (s.updateSpecCount d count).live button = s.live button ∧
        (s.updateSpecCount d count).rows s.activeSpec = s.saveActions.rows s.activeSpec ∧
        (s.updateSpecCount d count).activeSpec = s.activeSpec := by
  have hle := h.active
  have hrows' : s.saveActions.rows 1 = s.rows 1 := saveActions_others s (Ne.symm hactive)
  have hkept := saveActions_kept h
  have heq : s.updateSpecCount d count = { s.saveActions with
      rows := Function.update s.saveActions.rows 1 (saveRows Prod.fst (fun e => [.insert (rowOf e.2)])
        s.saveActions.actionButtons.entries (s.saveActions.rows 1))
      specsCount := count } := by
    rw [updateSpecCount, if_neg (by omega)]
    simp only
    rw [if_neg (show ¬s.activeSpec ≥ count by omega), if_pos hcount]
  rw [heq]
  refine ⟨⟨fun button => ?_, ?_⟩, fun button => ⟨?_, saveActions_live s button, ?_, rfl⟩⟩
  · have hne : s.saveActions.activeSpec ≠ 1 := hactive
    simp only [Function.update_of_ne hne]
    exact hkept.agree button
  · exact Nat.le_trans hle (Nat.le_of_lt hcount)
  · simp only [Function.update_self]
    rw [copied_rows (by rw [hrows', hrows]) (fun button ab hf => saveActions_state hf),
      saveActions_live]
  · simp only [Function.update_of_ne hactive]

theorem dropSpecs_kept (count : Nat) (h : Kept s) (hactive : s.activeSpec = 0) :
    Kept { s.saveActions with
        rows := fun spec => if spec ≠ s.saveActions.activeSpec then ∅ else s.saveActions.rows spec
        activeSpec := 0
        specsCount := count } ∧
      ∀ button, (s.saveActions.rows 0).find? button = s.saveActions.live button := by
  have hkept := saveActions_kept h
  have hsaved : s.saveActions.activeSpec = 0 := hactive
  have hagree := hkept.agree
  rw [hsaved] at hagree
  refine ⟨⟨fun button => ?_, Nat.zero_le _⟩, fun button => ?_⟩
  · simp only [hsaved, ne_eq, not_true_eq_false, if_false]
    exact hagree button
  · rw [saveActions_live, ← saveActions_rows h button, hactive]

def Counts (s : ActionBars) (count : Nat) : Prop :=
  (s.specsCount < count → s.activeSpec ≠ 1 ∧ (s.rows 1).size = 0) ∧
  (count < s.specsCount → s.activeSpec = 0 ∨ count ≤ s.activeSpec ∧ Loads s 0)

theorem updateSpecCount_kept {count : Nat} (h : Kept s) (hcounts : Counts s count) :
    Kept (s.updateSpecCount d count) ∧ (count ≠ s.specsCount → ∀ button,
      ((s.updateSpecCount d count).rows (s.updateSpecCount d count).activeSpec).find? button =
        (s.updateSpecCount d count).live button) := by
  rcases Nat.lt_trichotomy s.specsCount count with hlt | heq | hgt
  · obtain ⟨hactive, hrows⟩ := hcounts.1 hlt
    obtain ⟨hkept, hall⟩ := updateSpecCount_gain (d := d) h hlt hactive hrows
    refine ⟨hkept, fun _ button => ?_⟩
    obtain ⟨-, hlive, hsame, hspec⟩ := hall button
    rw [hspec, hsame, hlive, saveActions_rows h]
  · rw [updateSpecCount, if_pos heq]
    exact ⟨h, fun hne => absurd heq.symm hne⟩
  · -- the state after spec 0 was activated, if it was not active
    obtain ⟨t, ht, hkept, hactive, hcount⟩ : ∃ t, (if s.activeSpec ≥ count then s.activateSpec d 0
        else s) = t ∧ Kept t ∧ t.activeSpec = 0 ∧ t.specsCount = s.specsCount := by
      have hspecs : (s.activateSpec d 0).specsCount = s.specsCount := by
        rw [activateSpec]
        split
        · rfl
        split
        · rfl
        · simp only
          split <;> rfl
      split
      next hge =>
        have hloads : Loads s 0 ∨ s.activeSpec = 0 := (hcounts.2 hgt).symm.imp_left (·.2)
        refine ⟨_, rfl, ?_, activateSpec_activeSpec (Nat.zero_le _), hspecs⟩
        rcases hloads with hloads | hzero
        · exact activateSpec_kept h hloads
        · rw [activateSpec, if_pos hzero]
          exact h
      next hlt =>
        exact ⟨s, rfl, h, (hcounts.2 hgt).resolve_right (fun hge => hlt hge.1), rfl⟩
    obtain ⟨hkept', hrows⟩ := dropSpecs_kept count hkept hactive
    rw [updateSpecCount, if_neg (by omega)]
    simp only [ht]
    rw [hcount, if_neg (show ¬count > s.specsCount by omega), if_pos hgt]
    refine ⟨hkept', fun _ button => ?_⟩
    have hsaved : t.saveActions.activeSpec = 0 := hactive
    simp only [hsaved, ne_eq, not_true_eq_false, if_false]
    exact hrows button

def Proper (s : ActionBars) : ActionOp → Prop
  | .addActionButton _ _ _ _ => True
  | .removeActionButton _ => True
  | .saveActions => True
  | .activateSpec d spec =>
    if s.activeSpec = spec then ∀ button, s.live button = (s.rows spec).find? button
    else spec ≤ s.specsCount ∧ Loads s spec ∧ ∀ button row, (s.rows spec).find? button = some row →
      d.isActionButtonDataValid button row.action row.type = true
  | .updateSpecCount _ count => Counts s count

def StepRight (s s' : ActionBars) : ActionOp → Prop
  | .addActionButton _ _ _ _ => s'.rows = s.rows ∧ s'.activeSpec = s.activeSpec
  | .removeActionButton _ => s'.rows = s.rows ∧ s'.activeSpec = s.activeSpec
  | .saveActions => (∀ button, (s'.rows s.activeSpec).find? button = s'.live button ∧
      s'.live button = s.live button) ∧ ∀ spec, spec ≠ s.activeSpec → s'.rows spec = s.rows spec
  | .activateSpec _ spec => s'.activeSpec = spec ∧
      ∀ button, s'.live button = (s'.rows spec).find? button
  | .updateSpecCount _ count => (count ≠ s.specsCount → ∀ button,
      (s'.rows s'.activeSpec).find? button = s'.live button) ∧
      (s.specsCount < count → ∀ button, (s'.rows 1).find? button = s.live button ∧
        s'.live button = s.live button)

theorem step_kept {op : ActionOp} (h : Kept s) (hop : Proper s op) :
    Kept (step s op) ∧ StepRight s (step s op) op := by
  cases op with
  | addActionButton d button action type =>
    refine ⟨addActionButton_kept h, ?_⟩
    rw [step, StepRight, addActionButton]
    split <;> exact ⟨rfl, rfl⟩
  | removeActionButton button =>
    refine ⟨removeActionButton_kept h, ?_⟩
    rw [step, StepRight, removeActionButton]
    split
    · exact ⟨rfl, rfl⟩
    split
    · exact ⟨rfl, rfl⟩
    · split <;> exact ⟨rfl, rfl⟩
  | saveActions =>
    refine ⟨saveActions_kept h, fun button => ?_, fun spec hspec => saveActions_others s hspec⟩
    exact ⟨(saveActions_rows h button).trans (saveActions_live s button).symm,
      saveActions_live s button⟩
  | activateSpec d spec =>
    rw [Proper] at hop
    by_cases hspec : s.activeSpec = spec
    · rw [if_pos hspec] at hop
      rw [step, activateSpec, if_pos hspec]
      exact ⟨h, hspec, hop⟩
    · rw [if_neg hspec] at hop
      obtain ⟨hcount, hloads, hvalid⟩ := hop
      refine ⟨activateSpec_kept h hloads, activateSpec_activeSpec hcount, fun button => ?_⟩
      obtain ⟨hlive, hrows⟩ := activateSpec_live hspec hcount hloads hvalid button
      rw [step, hlive, hrows]
  | updateSpecCount d count =>
    obtain ⟨hkept, hrows⟩ := updateSpecCount_kept (d := d) h hop
    refine ⟨hkept, hrows, fun hlt button => ?_⟩
    obtain ⟨hactive, hsize⟩ := hop.1 hlt
    obtain ⟨hcopied, hlive, -⟩ := (updateSpecCount_gain (d := d) h hlt hactive hsize).2 button
    exact ⟨hcopied, hlive⟩

/-- In a run of proper steps from a player with one spec and no buttons every proper step does what
it should. -/
theorem action_bars {ops : List ActionOp} (hrun : Run step Proper {} ops s) :
    ∀ op, Proper s op → StepRight s (step s op) op := by
  have hkept := hrun.invariant (I := Kept) (fun s op h hop => (step_kept h hop).1) start_kept
  exact fun op hop => (step_kept hkept hop).2

def allActions : ActionData := ⟨fun _ => true, fun _ => true, fun _ => true⟩

/-- A spell on a button, saved and copied to a second spec, which is activated. -/
theorem action_bars_at :
    ∃ s, Run step Proper {} [.addActionButton allActions 3 78 0, .saveActions,
        .updateSpecCount allActions 2] s ∧
      StepRight s (step s (.activateSpec allActions 1)) (.activateSpec allActions 1) := by
  have hrun : Run step Proper {} [.addActionButton allActions 3 78 0, .saveActions,
      .updateSpecCount allActions 2] _ :=
    .cons trivial (.cons trivial (.cons ⟨fun _ => ⟨by decide +kernel, by decide +kernel⟩,
      fun h => absurd h (by decide +kernel)⟩ .nil))
  refine ⟨_, hrun, action_bars hrun _ ?_⟩
  rw [Proper, if_neg (by decide +kernel)]
  refine ⟨by decide +kernel, .inl (by decide +kernel), fun button row hrow => ?_⟩
  have hmem := OrdMap.find?_eq_some.mp hrow
  rw [show OrdMap.entries _ = [(3, ⟨78, 0⟩)] by decide +kernel, List.mem_singleton] at hmem
  cases hmem
  decide +kernel

/-- The second spec has no rows: the button of the first one stays on the bars. -/
theorem bars_stay :
    let s := [ActionOp.updateSpecCount allActions 2, .addActionButton allActions 3 78 0,
      .saveActions, .activateSpec allActions 1].foldl step {}
    s.activeSpec = 1 ∧ s.live 3 = some ⟨78, 0⟩ ∧ (s.rows 1).find? 3 = none := by
  decide +kernel

end ActionBars

end SkyfireBG
