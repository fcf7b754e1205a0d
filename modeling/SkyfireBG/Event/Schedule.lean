import Mathlib.Tactic.Ring
import SkyfireBG.Event.Data

/-!
# SkyfireBG.Event.Schedule

Whether `Update`, called when `NextCheck` says, finds every normal event as its windows have it.

* `update_scheduled` — nothing changes before the next update, but for an event that begins in the
  very second of an update.
-/

namespace SkyfireBG

namespace GameEventData

variable {e : GameEventData} {now d t : Nat}

structure Regular (e : GameEventData) : Prop where
  state : e.state = .normal
  occurence_pos : 0 < e.occurence
  length_le : e.length ≤ e.occurence
  start_lt : e.start < e.endTime

def InWindow (e : GameEventData) (t : Nat) : Prop :=
  t < e.endTime ∧ ∃ k, e.start + k * (e.occurence * MINUTE) ≤ t ∧
    t < e.start + k * (e.occurence * MINUTE) + e.length * MINUTE

def Begins (e : GameEventData) (t : Nat) : Prop :=
  t = e.start ∧ e.start + 1 < e.endTime ∧ 0 < e.span

def Undefined (e : GameEventData) (t : Nat) : Prop :=
  e.period = 0 ∧ e.start ≤ t ∧ t ≤ e.endTime

def Soon (e : GameEventData) (t : Nat) : Prop :=
  if t < e.start then (e.start - t) % 2 ^ 32 ≤ 1
  else t ≤ e.endTime ∧
    (e.endTime ≤ t + 1 ∨ (t - e.start) % e.period + 1 = e.span ∨
      (e.span ≤ (t - e.start) % e.period ∧ (t - e.start) % e.period + 1 = e.period))

theorem four_dvd_period : 4 ∣ e.period := by
  rw [period, MINUTE]
  omega

theorem four_dvd_span : 4 ∣ e.span := by
  rw [span, MINUTE]
  omega

theorem period_lt : e.period < 2 ^ 32 := Nat.mod_lt _ (by decide)

theorem span_lt : e.span < 2 ^ 32 := Nat.mod_lt _ (by decide)

theorem phase_of_pos (h : e.period ≠ 0) : e.phase t = some ((t - e.start) % e.period) :=
  if_neg h

theorem checkNormal_outside (h : t ≤ e.start ∨ e.endTime ≤ t) : e.checkNormal t = some false :=
  if_neg (by omega)

theorem checkNormal_inside (hp : e.period ≠ 0) (hstart : e.start < t) (hend : t < e.endTime) :
    e.checkNormal t = some (decide ((t - e.start) % e.period < e.span)) := by
  rw [checkNormal, if_pos ⟨hstart, hend⟩, phase_of_pos hp]
  rfl

theorem nextNormal_after (h : e.endTime < now) : e.nextNormal now = some max_ge_check_delay :=
  if_pos h

theorem nextNormal_before (h : now < e.start) (hend : now ≤ e.endTime) :
    e.nextNormal now = some ((e.start - now) % 2 ^ 32) := by
  rw [nextNormal, if_neg (by omega), if_pos h]

theorem nextNormal_within (hp : e.period ≠ 0) (hstart : e.start ≤ now) (hend : now ≤ e.endTime) :
    e.nextNormal now = some (min (e.endTime - now)
      (if (now - e.start) % e.period < e.span then e.span - (now - e.start) % e.period
      else e.period - (now - e.start) % e.period)) := by
  rw [nextNormal, if_neg (by omega), if_neg (by omega), phase_of_pos hp]
  simp only [Option.map_some, Option.some.injEq]
  have hspan := e.span_lt
  have hperiod := e.period_lt
  generalize hdelay : (if (now - e.start) % e.period < e.span then
    e.span - (now - e.start) % e.period else e.period - (now - e.start) % e.period) = delay
  have hlt : delay < 2 ^ 32 := by
    rw [← hdelay]
    split <;> omega
  split
  · rw [Nat.mod_eq_of_lt (by omega)]
    omega
  · omega

theorem nextNormal_eq_none : e.nextNormal now = none ↔ e.Undefined now := by
  rw [Undefined]
  by_cases hafter : e.endTime < now
  · simp [nextNormal_after hafter]
    omega
  by_cases hbefore : now < e.start
  · simp [nextNormal_before hbefore (by omega)]
    omega
  by_cases hp : e.period = 0
  · simp [nextNormal, hafter, hbefore, phase, hp]
    omega
  · rw [nextNormal_within hp (Nat.not_lt.mp hbefore) (Nat.not_lt.mp hafter)]
    simp [hp]

theorem checkNormal_eq (hd : e.nextNormal now = some d) (hne : now ≠ e.start) (hle : now ≤ t)
    (hlt : t < now + d) : e.checkNormal t = e.checkNormal now := by
  rcases Nat.lt_or_ge e.endTime (now + 1) with hafter | hend
  · rw [checkNormal_outside (by omega), checkNormal_outside (by omega)]
  rcases Nat.lt_or_ge now e.start with hbefore | hstart
  · rw [nextNormal_before hbefore (by omega), Option.some.injEq] at hd
    have := Nat.mod_le (e.start - now) (2 ^ 32)
    rw [checkNormal_outside (by omega), checkNormal_outside (by omega)]
  have hp : e.period ≠ 0 := fun hp => by
    rw [nextNormal_eq_none.mpr ⟨hp, hstart, by omega⟩] at hd
    cases hd
  rw [nextNormal_within hp hstart (by omega), Option.some.injEq] at hd
  rw [checkNormal_inside hp (by omega) (by omega), checkNormal_inside hp (by omega) (by omega)]
  congr 2
  -- the phase advances by what has passed, as long as it does not reach the period
  have hsplit : t - e.start = (now - e.start) + (t - now) := by omega
  have hmod := Nat.mod_lt (now - e.start) (Nat.pos_of_ne_zero hp)
  have hadd : (now - e.start) % e.period + (t - now) < e.period →
      (t - e.start) % e.period = (now - e.start) % e.period + (t - now) := by
    intro h
    rw [hsplit, ← Nat.mod_add_mod, Nat.mod_eq_of_lt h]
  have hmod' := Nat.mod_lt (t - e.start) (Nat.pos_of_ne_zero hp)
  generalize (now - e.start) % e.period = r at *
  generalize (t - e.start) % e.period = r' at *
  apply propext
  by_cases hr : r < e.span
  · rw [if_pos hr] at hd
    by_cases hwhole : e.period ≤ e.span
    · omega
    · have := hadd (by omega)
      omega
  · rw [if_neg hr] at hd
    have := hadd (by omega)
    omega

theorem Begins.changes (h : e.Begins now) (hp : e.period ≠ 0) :
    e.checkNormal now = some false ∧ e.checkNormal (now + 1) = some true := by
  obtain ⟨rfl, hend, hspan⟩ := h
  refine ⟨checkNormal_outside (by omega), ?_⟩
  have hfour := e.four_dvd_period
  have hfour' := e.four_dvd_span
  rw [checkNormal_inside hp (by omega) hend, Nat.add_sub_cancel_left,
    Nat.mod_eq_of_lt (by omega)]
  simp
  omega

theorem soon_iff (hd : e.nextNormal now = some d) (hstart : e.start ≤ e.endTime + 1) :
    d ≤ 1 ↔ e.Soon now := by
  by_cases hafter : e.endTime < now
  · rw [nextNormal_after hafter, Option.some.injEq] at hd
    rw [Soon, if_neg (by omega), ← hd]
    have : ¬ max_ge_check_delay ≤ 1 := by decide
    omega
  by_cases hbefore : now < e.start
  · rw [nextNormal_before hbefore (by omega), Option.some.injEq] at hd
    rw [Soon, if_pos hbefore, hd]
  have hp : e.period ≠ 0 := fun hp => by
    rw [nextNormal_eq_none.mpr ⟨hp, by omega, by omega⟩] at hd
    cases hd
  rw [nextNormal_within hp (by omega) (by omega), Option.some.injEq] at hd
  rw [Soon, if_neg hbefore]
  have hmod := Nat.mod_lt (now - e.start) (Nat.pos_of_ne_zero hp)
  generalize (now - e.start) % e.period = r at *
  split at hd <;> omega

theorem inWindow_iff (hpos : 0 < e.occurence) (hle : e.length ≤ e.occurence)
    (hstart : e.start ≤ t) : e.InWindow t ↔
      t < e.endTime ∧ (t - e.start) % (e.occurence * MINUTE) < e.length * MINUTE := by
  have hpos : 0 < e.occurence * MINUTE := Nat.mul_pos hpos (by decide)
  have hle : e.length * MINUTE ≤ e.occurence * MINUTE := Nat.mul_le_mul_right _ hle
  rw [InWindow]
  generalize e.occurence * MINUTE = P at *
  generalize e.length * MINUTE = L at *
  refine and_congr_right fun _ => ?_
  constructor
  · rintro ⟨k, hk, hkt⟩
    have hsub : t - e.start = (t - (e.start + k * P)) + k * P := by omega
    rw [hsub, Nat.add_mul_mod_self_right, Nat.mod_eq_of_lt (by omega)]
    omega
  · intro hlt
    have hdiv := Nat.div_add_mod' (t - e.start) P
    exact ⟨(t - e.start) / P, by omega, by omega⟩

theorem checkNormal_inWindow (h : e.Regular) (hbits : e.occurence * MINUTE < 2 ^ 32)
    (hne : t ≠ e.start) : e.checkNormal t = some true ↔ e.InWindow t := by
  have hle : e.length * MINUTE ≤ e.occurence * MINUTE := Nat.mul_le_mul_right _ h.length_le
  have hperiod : e.period = e.occurence * MINUTE := Nat.mod_eq_of_lt hbits
  have hspan : e.span = e.length * MINUTE := Nat.mod_eq_of_lt (by omega)
  have hp : e.period ≠ 0 := by
    have := Nat.mul_pos h.occurence_pos (show 0 < MINUTE by decide)
    omega
  by_cases hstart : t < e.start
  · rw [checkNormal_outside (by omega)]
    refine iff_of_false (by simp) ?_
    rintro ⟨_, k, hk, _⟩
    omega
  by_cases hend : e.endTime ≤ t
  · rw [checkNormal_outside (by omega)]
    exact iff_of_false (by simp) fun hw => absurd hw.1 (by omega)
  · rw [checkNormal_inside hp (by omega) (by omega), inWindow_iff h.occurence_pos h.length_le
      (by omega), hperiod, hspan, Option.some.injEq, decide_eq_true_eq]
    exact ⟨fun hlt => ⟨by omega, hlt⟩, fun hw => hw.2⟩

end GameEventData

namespace GameEventUpdate

variable {mgr : GameEventMgr} {now i d : Nat} {ids : List Nat} {u u' : GameEventUpdate} {b : Bool}

/-- What `Update` has found out about the events so far, which are normal ones. -/
structure After (mgr : GameEventMgr) (now : Nat) (ids : List Nat) (u : GameEventUpdate) : Prop where
  same : u.mgr = mgr
  activate : ∀ i, i ∈ u.activate ↔
    i ∈ ids ∧ (mgr.event i).checkNormal now = some true ∧ i ∉ mgr.m_ActiveEvents
  deactivate : ∀ i, i ∈ u.deactivate ↔
    i ∈ ids ∧ (mgr.event i).checkNormal now = some false ∧ i ∈ mgr.m_ActiveEvents
  delay_le : ∀ i ∈ ids, ∀ d, (mgr.event i).nextNormal now = some d → u.nextEventDelay ≤ d
  delay : u.nextEventDelay = max_ge_check_delay ∨
    ∃ i ∈ ids, (mgr.event i).nextNormal now = some u.nextEventDelay
  defined : ∀ i ∈ ids, (mgr.event i).nextNormal now ≠ none

theorem checkOneGameEvent_normal (h : (mgr.event i).state = .normal) :
    mgr.checkOneGameEvent i now = (mgr.event i).checkNormal now := by
  simp [GameEventMgr.checkOneGameEvent, h]

theorem nextCheck_normal (h : (mgr.event i).state = .normal) :
    mgr.nextCheck i now = (mgr.event i).nextNormal now := by
  simp [GameEventMgr.nextCheck, h]

theorem checkNormal_ne_none {e : GameEventData} (h : e.nextNormal now ≠ none) :
    ∃ b, e.checkNormal now = some b := by
  cases hb : e.checkNormal now with
  | some b => exact ⟨b, rfl⟩
  | none =>
    rw [GameEventData.checkNormal] at hb
    split at hb
    · rename_i htime
      rw [Option.map_eq_none_iff, GameEventData.phase, ite_eq_left_iff] at hb
      refine absurd (GameEventData.nextNormal_eq_none.mpr ⟨?_, htime.1.le, htime.2.le⟩) h
      by_contra hp
      cases hb hp
    · cases hb

theorem turn_normal (hstate : (u.mgr.event i).state = .normal)
    (hb : (u.mgr.event i).checkNormal now = some b)
    (hd : (u.mgr.event i).nextNormal now = some d) :
    turn now u i = some
      { mgr := u.mgr
        nextEventDelay := min d u.nextEventDelay
        activate := if b = true ∧ i ∉ u.mgr.m_ActiveEvents then u.activate ++ [i] else u.activate
        deactivate :=
          if b = false ∧ i ∈ u.mgr.m_ActiveEvents then u.deactivate ++ [i] else u.deactivate } := by
  have hcheck : u.mgr.checkOneGameEvent i now = _ := checkOneGameEvent_normal hstate
  have hnext : u.mgr.nextCheck i now = _ := nextCheck_normal hstate
  rw [hb] at hcheck
  rw [hd] at hnext
  unfold turn
  rw [hcheck]
  cases b <;> by_cases hactive : i ∈ u.mgr.m_ActiveEvents <;>
    simp [schedule, hnext, hstate, hactive, GameEventMgr.isActiveEvent]

theorem turn_eq_none (hstate : (u.mgr.event i).state = .normal)
    (hd : (u.mgr.event i).nextNormal now = none) : turn now u i = none := by
  have hcheck : u.mgr.checkOneGameEvent i now = _ := checkOneGameEvent_normal hstate
  have hnext : u.mgr.nextCheck i now = _ := nextCheck_normal hstate
  rw [hd] at hnext
  unfold turn
  rw [hcheck]
  cases (u.mgr.event i).checkNormal now with
  | none => rfl
  | some b => cases b <;> simp [schedule, hnext, hstate]

theorem After.start : After mgr now [] { mgr := mgr } :=
  ⟨rfl, by simp, by simp, by simp, .inl rfl, by simp⟩

theorem After.turn (h : After mgr now ids u) (hstate : (mgr.event i).state = .normal)
    (hu : turn now u i = some u') : After mgr now (ids ++ [i]) u' := by
  obtain ⟨rfl, hactivate, hdeactivate, hle, hdelay, hdefined⟩ := h
  cases hd : (u.mgr.event i).nextNormal now with
  | none =>
    rw [turn_eq_none hstate hd] at hu
    cases hu
  | some d =>
    have hne : (u.mgr.event i).nextNormal now ≠ none := by simp [hd]
    obtain ⟨b, hb⟩ := checkNormal_ne_none hne
    rw [turn_normal hstate hb hd, Option.some.injEq] at hu
    subst hu
    refine ⟨rfl, ?_, ?_, ?_, ?_, ?_⟩
    · intro j
      cases b <;> by_cases hactive : i ∈ u.mgr.m_ActiveEvents <;> grind
    · intro j
      cases b <;> by_cases hactive : i ∈ u.mgr.m_ActiveEvents <;> grind
    · intro j hj d' hd'
      rcases List.mem_append.mp hj with hj | hj
      · exact (Nat.min_le_right _ _).trans (hle j hj d' hd')
      · rw [List.mem_singleton.mp hj, hd, Option.some.injEq] at hd'
        exact hd' ▸ Nat.min_le_left _ _
    · rcases Nat.le_total d u.nextEventDelay with hmin | hmin
      · exact .inr ⟨i, by simp, by simp [hd, hmin]⟩
      · simp only [Nat.min_eq_right hmin]
        refine hdelay.imp_right ?_
        rintro ⟨j, hj, hnext⟩
        exact ⟨j, by simp [hj], hnext⟩
    · intro j hj
      rcases List.mem_append.mp hj with hj | hj
      · exact hdefined j hj
      · rw [List.mem_singleton.mp hj, hd]
        simp

theorem After.turns {rest : List Nat} (h : After mgr now ids u)
    (hstate : ∀ i ∈ rest, (mgr.event i).state = .normal)
    (hu : rest.foldlM (GameEventUpdate.turn now) u = some u') :
    After mgr now (ids ++ rest) u' := by
  induction rest generalizing ids u with
  | nil =>
    cases hu
    simpa using h
  | cons i rest ih =>
    rw [List.foldlM_cons] at hu
    obtain ⟨u₁, hturn, hrest⟩ := Option.bind_eq_some_iff.mp hu
    have := ih (h.turn (hstate i (by simp)) hturn) (fun j hj => hstate j (by simp [hj])) hrest
    simpa using this

theorem turns_isSome (hmgr : u.mgr = mgr) (hstate : ∀ i ∈ ids, (mgr.event i).state = .normal)
    (hdefined : ∀ i ∈ ids, (mgr.event i).nextNormal now ≠ none) :
    ∃ u', ids.foldlM (turn now) u = some u' := by
  induction ids generalizing u with
  | nil => exact ⟨u, rfl⟩
  | cons i ids ih =>
    subst hmgr
    obtain ⟨d, hd⟩ := Option.ne_none_iff_exists'.mp (hdefined i (by simp))
    obtain ⟨b, hb⟩ := checkNormal_ne_none (hdefined i (by simp))
    rw [List.foldlM_cons, turn_normal (hstate i (by simp)) hb hd]
    exact ih rfl (fun j hj => hstate j (by simp [hj])) fun j hj => hdefined j (by simp [hj])

theorem start_normal (hstate : ∀ i ∈ ids, (mgr.event i).state = .normal) :
    start now ids mgr d =
      ({ mgr with m_ActiveEvents := ids.toFinset ∪ mgr.m_ActiveEvents }, d) := by
  induction ids generalizing mgr with
  | nil =>
    cases mgr
    simp [GameEventUpdate.start]
  | cons i ids ih =>
    have hi : mgr.startEvent i now = (false, mgr.addActiveEvent i) := by
      simp [GameEventMgr.startEvent, hstate i (by simp)]
    rw [GameEventUpdate.start, hi]
    refine (@ih (mgr.addActiveEvent i) fun j hj => hstate j (by simp [hj])).trans ?_
    congr 2
    ext j
    simp only [GameEventMgr.addActiveEvent, List.toFinset_cons, Finset.mem_union,
      Finset.mem_insert, List.mem_toFinset]
    tauto

theorem stop_normal (hstate : ∀ i ∈ ids, (mgr.event i).state = .normal) :
    ids.foldl GameEventMgr.stopEvent mgr =
      { mgr with m_ActiveEvents := mgr.m_ActiveEvents \ ids.toFinset } := by
  induction ids generalizing mgr with
  | nil => simp
  | cons i ids ih =>
    have hi : mgr.stopEvent i = mgr.removeActiveEvent i := by
      simp [GameEventMgr.stopEvent, hstate i (by simp)]
    rw [List.foldl_cons, hi]
    refine (@ih (mgr.removeActiveEvent i) fun j hj => hstate j (by simp [hj])).trans ?_
    congr 1
    ext j
    simp [GameEventMgr.removeActiveEvent]
    tauto

theorem After.finish (h : After mgr now ids u) (hstate : ∀ i ∈ ids, (mgr.event i).state = .normal) :
    u.finish now =
      ({ mgr with m_ActiveEvents :=
          (u.activate.toFinset ∪ mgr.m_ActiveEvents) \ u.deactivate.toFinset },
        u.nextEventDelay) := by
  obtain ⟨rfl, hactivate, hdeactivate, -, -, -⟩ := h
  rw [GameEventUpdate.finish,
    start_normal fun i hi => hstate i ((hactivate i).mp hi).1]
  exact congrArg (·, u.nextEventDelay)
    (stop_normal fun i hi => hstate i ((hdeactivate i).mp hi).1)

end GameEventUpdate

namespace GameEventMgr

variable {mgr mgr' : GameEventMgr} {now d i t : Nat}

def Normal (mgr : GameEventMgr) : Prop :=
  ∀ i ∈ mgr.eventIds, (mgr.event i).Regular ∨ mgr.event i = {}

def Scheduled (mgr : GameEventMgr) (now : Nat) : Prop :=
  ∃ mgr' delay, mgr.update now = some (mgr', delay) ∧
    ∀ i ∈ mgr.eventIds, ∀ t, now ≤ t → t < now + delay →
      mgr.checkOneGameEvent i t = mgr.checkOneGameEvent i now

def Fit (mgr : GameEventMgr) (now : Nat) : Prop :=
  (∀ i ∈ mgr.eventIds, ¬ (mgr.event i).Undefined now) ∧
    ((∃ i ∈ mgr.eventIds, (mgr.event i).Begins now) → ∃ i ∈ mgr.eventIds, (mgr.event i).Soon now)

theorem Normal.state (h : mgr.Normal) (hi : i ∈ mgr.eventIds) : (mgr.event i).state = .normal := by
  rcases h i hi with hreg | hnone
  · exact hreg.state
  · rw [hnone]

theorem Normal.start_le (h : mgr.Normal) (hi : i ∈ mgr.eventIds) :
    (mgr.event i).start ≤ (mgr.event i).endTime + 1 := by
  rcases h i hi with hreg | hnone
  · exact Nat.le_succ_of_le hreg.start_lt.le
  · rw [hnone]

theorem update_normal (h : mgr.Normal) (hu : mgr.update now = some (mgr', d)) :
    ∃ u, GameEventUpdate.After mgr now mgr.eventIds u ∧ d = u.nextEventDelay ∧
      mgr' = { mgr with m_ActiveEvents :=
        (u.activate.toFinset ∪ mgr.m_ActiveEvents) \ u.deactivate.toFinset } := by
  obtain ⟨u, hu, hfinish⟩ := Option.map_eq_some_iff.mp hu
  have hafter := GameEventUpdate.After.start.turns (fun i hi => h.state hi) hu
  rw [hafter.finish fun i hi => h.state hi] at hfinish
  cases hfinish
  exact ⟨u, hafter, rfl, rfl⟩

theorem update_isSome (h : mgr.Normal)
    (hdefined : ∀ i ∈ mgr.eventIds, ¬ (mgr.event i).Undefined now) :
    ∃ mgr' d, mgr.update now = some (mgr', d) := by
  obtain ⟨u, hu⟩ := GameEventUpdate.turns_isSome (u := { mgr := mgr }) rfl
    (fun i hi => h.state hi) fun i hi => mt GameEventData.nextNormal_eq_none.mp (hdefined i hi)
  exact ⟨_, _, congrArg (Option.map (GameEventUpdate.finish now)) hu⟩

theorem update_event (h : mgr.Normal) (hu : mgr.update now = some (mgr', d)) (i : Nat) :
    mgr'.event i = mgr.event i ∧ mgr'.eventIds = mgr.eventIds := by
  obtain ⟨u, -, -, rfl⟩ := update_normal h hu
  exact ⟨rfl, rfl⟩

theorem update_active (h : mgr.Normal) (hu : mgr.update now = some (mgr', d))
    (hi : i ∈ mgr.eventIds) :
    i ∈ mgr'.m_ActiveEvents ↔ (mgr.event i).checkNormal now = some true := by
  obtain ⟨u, hafter, -, rfl⟩ := update_normal h hu
  obtain ⟨b, hb⟩ := GameEventUpdate.checkNormal_ne_none (hafter.defined i hi)
  simp only [Finset.mem_sdiff, Finset.mem_union, List.mem_toFinset, hafter.activate,
    hafter.deactivate, hb, hi]
  cases b
  · simp
  · simp
    tauto

theorem update_delay (h : mgr.Normal) (hu : mgr.update now = some (mgr', d)) :
    (∀ i ∈ mgr.eventIds, ∃ d', (mgr.event i).nextNormal now = some d' ∧ d ≤ d') ∧
      (d = max_ge_check_delay ∨ ∃ i ∈ mgr.eventIds, (mgr.event i).nextNormal now = some d) := by
  obtain ⟨u, hafter, rfl, -⟩ := update_normal h hu
  refine ⟨fun i hi => ?_, hafter.delay⟩
  obtain ⟨d', hd'⟩ := Option.ne_none_iff_exists'.mp (hafter.defined i hi)
  exact ⟨d', hd', hafter.delay_le i hi d' hd'⟩

theorem delay_le_one (h : mgr.Normal) (hu : mgr.update now = some (mgr', d)) :
    d ≤ 1 ↔ ∃ i ∈ mgr.eventIds, (mgr.event i).Soon now := by
  obtain ⟨hle, hmin⟩ := update_delay h hu
  constructor
  · intro hd
    rcases hmin with rfl | ⟨i, hi, hnext⟩
    · exact absurd hd (by decide)
    · exact ⟨i, hi, (GameEventData.soon_iff hnext (h.start_le hi)).mp hd⟩
  · rintro ⟨i, hi, hsoon⟩
    obtain ⟨d', hd', hdd⟩ := hle i hi
    exact hdd.trans ((GameEventData.soon_iff hd' (h.start_le hi)).mpr hsoon)

theorem check_until (h : mgr.Normal) (hu : mgr.update now = some (mgr', d))
    (hi : i ∈ mgr.eventIds) (hbegins : ¬ (mgr.event i).Begins now) (hle : now ≤ t)
    (hlt : t < now + d) : (mgr.event i).checkNormal t = (mgr.event i).checkNormal now := by
  obtain ⟨d', hd', hdd⟩ := (update_delay h hu).1 i hi
  by_cases hne : now = (mgr.event i).start
  · -- it never becomes active
    rw [GameEventData.Begins] at hbegins
    rw [GameEventData.checkNormal_outside (t := now) (by omega)]
    by_cases hend : (mgr.event i).start < t ∧ t < (mgr.event i).endTime
    · have hp : (mgr.event i).period ≠ 0 := fun hp => by
        rw [GameEventData.nextNormal_eq_none.mpr ⟨hp, by omega, by omega⟩] at hd'
        cases hd'
      rw [GameEventData.checkNormal_inside hp hend.1 hend.2]
      simp
      omega
    · exact GameEventData.checkNormal_outside (by omega)
  · exact GameEventData.checkNormal_eq hd' hne hle (by omega)

theorem scheduled_iff (h : mgr.Normal) : mgr.Scheduled now ↔ mgr.Fit now := by
  constructor
  · rintro ⟨mgr', d, hu, hsame⟩
    have hdefined : ∀ i ∈ mgr.eventIds, ¬ (mgr.event i).Undefined now := by
      intro i hi hnone
      obtain ⟨d', hd', -⟩ := (update_delay h hu).1 i hi
      rw [GameEventData.nextNormal_eq_none.mpr hnone] at hd'
      cases hd'
    refine ⟨hdefined, ?_⟩
    rintro ⟨i, hi, hbegins⟩
    rw [← delay_le_one h hu]
    by_contra hd
    have hp : (mgr.event i).period ≠ 0 := fun hp =>
      hdefined i hi ⟨hp, hbegins.1.ge, by have := hbegins.1; have := hbegins.2.1; omega⟩
    obtain ⟨hnow, hnext⟩ := hbegins.changes hp
    have := hsame i hi (now + 1) (by omega) (by omega)
    rw [GameEventUpdate.checkOneGameEvent_normal (h.state hi),
      GameEventUpdate.checkOneGameEvent_normal (h.state hi), hnow, hnext] at this
    cases this
  · rintro ⟨hdefined, hbegins⟩
    obtain ⟨mgr', d, hu⟩ := update_isSome h hdefined
    refine ⟨mgr', d, hu, fun i hi t hle hlt => ?_⟩
    rw [GameEventUpdate.checkOneGameEvent_normal (h.state hi),
      GameEventUpdate.checkOneGameEvent_normal (h.state hi)]
    by_cases hb : (mgr.event i).Begins now
    · have := (delay_le_one h hu).mpr (hbegins ⟨i, hi, hb⟩)
      rw [show t = now by omega]
    · exact check_until h hu hi hb hle hlt

/-- The updates from the start of the system on, each when the one before it has said: `mgr'` is
what the last one leaves, which is at `now` and asks for the next one after `delay`. -/
inductive Updates (mgr : GameEventMgr) : GameEventMgr → Nat → Nat → Prop where
  | startSystem {mgr' : GameEventMgr} {now delay : Nat} : mgr.Fit now →
      mgr.update now = some (mgr', delay) → Updates mgr mgr' now delay
  | update {mgr' mgr'' : GameEventMgr} {now delay delay' : Nat} : Updates mgr mgr' now delay →
      mgr'.Fit (now + delay + 1) → mgr'.update (now + delay + 1) = some (mgr'', delay') →
      Updates mgr mgr'' (now + delay + 1) delay'

theorem Updates.last (hrun : mgr.Updates mgr' now d) (h : mgr.Normal) :
    mgr'.Normal ∧ (∀ i, mgr'.event i = mgr.event i) ∧ mgr'.eventIds = mgr.eventIds ∧
      ∃ before : GameEventMgr, before.Normal ∧ before.Fit now ∧ before.update now = some (mgr', d) := by
  have hstep : ∀ {a b : GameEventMgr} {now d : Nat}, a.Normal → a.update now = some (b, d) →
      b.Normal := by
    intro a b now d ha hu i hi
    obtain ⟨hevent, hids⟩ := update_event ha hu i
    rw [hevent]
    exact ha i (hids ▸ hi)
  induction hrun with
  | startSystem hfit hu =>
    exact ⟨hstep h hu, fun i => (update_event h hu i).1, (update_event h hu 0).2, _, h, hfit, hu⟩
  | update _ hfit hu ih =>
    obtain ⟨hn, hevent, hids, -⟩ := ih
    exact ⟨hstep hn hu, fun i => (update_event hn hu i).1.trans (hevent i),
      (update_event hn hu 0).2.trans hids, _, hn, hfit, hu⟩

/-- Updates at the scheduled times find every change if none falls on a second in which an event
begins; an event is then active in its windows and outside of them inactive, but for the second
before an update and the first second of the event. -/
theorem update_scheduled (h : mgr.Normal) :
    (∀ now, mgr.Scheduled now ↔ mgr.Fit now) ∧
      ∀ mgr' now delay, mgr.Updates mgr' now delay →
        ∀ i ∈ mgr.eventIds, (mgr.event i).Regular →
          (mgr.event i).occurence * MINUTE < 2 ^ 32 →
            ∀ t, now ≤ t → t < now + delay → t ≠ (mgr.event i).start →
              (i ∈ mgr'.m_ActiveEvents ↔ (mgr.event i).InWindow t) := by
  refine ⟨fun now => scheduled_iff h, ?_⟩
  intro mgr' now delay hrun i hi hreg hbits t hle hlt hne
  obtain ⟨-, hevent, hids, before, hn, hfit, hu⟩ := hrun.last h
  obtain ⟨hevent', hids'⟩ := update_event hn hu i
  rw [hids] at hids'
  rw [hevent] at hevent'
  rw [update_active hn hu (hids' ▸ hi), ← GameEventData.checkNormal_inWindow hreg hbits hne,
    hevent']
  by_cases hb : (before.event i).Begins now
  · have := (delay_le_one hn hu).mpr (hfit.2 ⟨i, hids' ▸ hi, hb⟩)
    rw [show t = now by omega]
  · rw [check_until hn hu (hids' ▸ hi) hb hle hlt]

/-- Half an hour each hour, from `start` on. -/
def hourly (start : Nat) : GameEventMgr where
  mGameEvent := [{}, { start := start, endTime := 10 ^ 6, occurence := 60, length := 30 }]

theorem normal_hourly {start : Nat} (hstart : start < 10 ^ 6) : (hourly start).Normal := by
  intro i hi
  have hi : i = 1 := by simpa [hourly, eventIds] using hi
  subst hi
  exact .inl ⟨rfl, (by decide : 0 < 60), (by decide : 30 ≤ 60), hstart⟩

theorem update_scheduled_hourly :
    ((∀ now, (hourly 100).Scheduled now ↔ (hourly 100).Fit now) ∧
      ∀ mgr' now delay, (hourly 100).Updates mgr' now delay →
        ∀ i ∈ (hourly 100).eventIds, ((hourly 100).event i).Regular →
          ((hourly 100).event i).occurence * MINUTE < 2 ^ 32 →
            ∀ t, now ≤ t → t < now + delay → t ≠ ((hourly 100).event i).start →
              (i ∈ mgr'.m_ActiveEvents ↔ ((hourly 100).event i).InWindow t)) ∧
      (hourly 100).Fit 90 := by
  refine ⟨update_scheduled (normal_hourly (by decide)), ?_, ?_⟩
  · intro i hi
    have hi : i = 1 := by simpa [hourly, eventIds] using hi
    subst hi
    rintro ⟨hp, -⟩
    revert hp
    decide
  · rintro ⟨i, hi, hb⟩
    have hi : i = 1 := by simpa [hourly, eventIds] using hi
    subst hi
    exact absurd hb.1 (by decide)

/-- An update in the second in which an event begins waits for the end of the window. -/
theorem update_misses : (hourly 100).Normal ∧
    (hourly 100).update 100 = some (hourly 100, 1800) ∧
      (hourly 100).checkOneGameEvent 1 100 = some false ∧
        (∀ t, 100 < t → t < 1900 → (hourly 100).checkOneGameEvent 1 t = some true) ∧
          ¬ (hourly 100).Scheduled 100 := by
  have hone : 1 ∈ (hourly 100).eventIds := by decide
  have hcheck : ∀ t, (hourly 100).checkOneGameEvent 1 t = ((hourly 100).event 1).checkNormal t :=
    fun t => GameEventUpdate.checkOneGameEvent_normal rfl
  have hnow : (hourly 100).checkOneGameEvent 1 100 = some false := by decide
  have hnext : ∀ t, 100 < t → t < 1900 → (hourly 100).checkOneGameEvent 1 t = some true := by
    intro t ht ht'
    have hp : ((hourly 100).event 1).period = 3600 := by decide
    have hs : ((hourly 100).event 1).span = 1800 := by decide
    have hstart : ((hourly 100).event 1).start = 100 := rfl
    have hend : ((hourly 100).event 1).endTime = 10 ^ 6 := rfl
    rw [hcheck, GameEventData.checkNormal_inside (by omega) (by omega) (by omega), hp, hs, hstart]
    simp
    omega
  have hu : (hourly 100).update 100 = some (hourly 100, 1800) := by rfl
  refine ⟨normal_hourly (by decide), hu, hnow, hnext, ?_⟩
  rintro ⟨mgr', d, hu', hsame⟩
  rw [hu] at hu'
  cases hu'
  have := hsame 1 hone 101 (by decide) (by decide)
  rw [hnow, hnext 101 (by decide) (by decide)] at this
  cases this

end GameEventMgr

end SkyfireBG
