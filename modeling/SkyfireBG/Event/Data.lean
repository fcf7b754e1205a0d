import SkyfireBG.Util.TimeString

/-!
# SkyfireBG.Event.Data

Game events, and `GameEventMgr::CheckOneGameEvent`, `NextCheck` and `Update`.

Times are seconds.  The products of minutes are of 32 bits, and `none` is a division by zero.
-/

namespace SkyfireBG

def max_ge_check_delay : Nat := DAY

inductive GameEventState where
  | normal
  | worldInactive
  | worldConditions
  | worldNextphase
  | worldFinished
  | internal
deriving DecidableEq, Repr

structure GameEventFinishCondition where
  reqNum : ℚ
  done : ℚ
deriving DecidableEq

structure GameEventData where
  start : Nat := 1
  endTime : Nat := 0
  nextstart : Nat := 0
  occurence : Nat := 0
  length : Nat := 0
  state : GameEventState := .normal
  conditions : List GameEventFinishCondition := []
  prerequisite_events : List Nat := []
deriving DecidableEq

namespace GameEventData

variable (e : GameEventData) (now : Nat)

/-- `occurence * MINUTE`. -/
def period : Nat := e.occurence * MINUTE % 2 ^ 32

/-- `length * MINUTE`. -/
def span : Nat := e.length * MINUTE % 2 ^ 32

def phase : Option Nat := if e.period = 0 then none else some ((now - e.start) % e.period)

/-- `CheckOneGameEvent` of a normal event. -/
def checkNormal : Option Bool :=
  if e.start < now ∧ now < e.endTime then e.phase now |>.map fun r => decide (r < e.span)
  else some false

/-- `NextCheck` of a normal event. -/
def nextNormal : Option Nat :=
  if e.endTime < now then
    some max_ge_check_delay
  else if now < e.start then
    some ((e.start - now) % 2 ^ 32)
  else
    e.phase now |>.map fun r =>
      let delay := if r < e.span then e.span - r else e.period - r
      if e.endTime < now + delay then (e.endTime - now) % 2 ^ 32 else delay

def checkOneGameEventConditions : Bool × GameEventData :=
  if e.conditions.any fun c => c.done < c.reqNum then (false, e)
  else
    (true, { e with
      state := .worldNextphase
      nextstart := if e.nextstart = 0 then now + e.length * 60 % 2 ^ 32 else e.nextstart })

end GameEventData

structure GameEventMgr where
  /-- The entry `0` is reserved. -/
  mGameEvent : List GameEventData
  m_ActiveEvents : Finset Nat := ∅

namespace GameEventMgr

variable (mgr : GameEventMgr) (entry now : Nat)

def event : GameEventData := mgr.mGameEvent.getD entry {}

def eventIds : List Nat := List.range' 1 (mgr.mGameEvent.length - 1)

def isActiveEvent : Prop := entry ∈ mgr.m_ActiveEvents

instance : Decidable (mgr.isActiveEvent entry) := inferInstanceAs (Decidable (_ ∈ _))

def setEvent (e : GameEventData) : GameEventMgr :=
  { mgr with mGameEvent := mgr.mGameEvent.set entry e }

def addActiveEvent : GameEventMgr := { mgr with m_ActiveEvents := insert entry mgr.m_ActiveEvents }

def removeActiveEvent : GameEventMgr :=
  { mgr with m_ActiveEvents := mgr.m_ActiveEvents.erase entry }

def checkOneGameEvent : Option Bool :=
  let e := mgr.event entry
  match e.state with
  | .normal => e.checkNormal now
  | .worldConditions | .worldNextphase => some true
  | .worldFinished | .internal => some false
  | .worldInactive =>
    if e.prerequisite_events.any fun p =>
        ((mgr.event p).state ≠ .worldNextphase ∧ (mgr.event p).state ≠ .worldFinished) ∨
          now < (mgr.event p).nextstart then
      some false
    else some !e.prerequisite_events.isEmpty

def nextCheck : Option Nat :=
  let e := mgr.event entry
  if (e.state = .worldNextphase ∨ e.state = .worldFinished) ∧ now ≤ e.nextstart then
    some ((e.nextstart - now) % 2 ^ 32)
  else if e.state = .worldConditions then
    some (if e.length ≠ 0 then e.length * 60 % 2 ^ 32 else max_ge_check_delay)
  else e.nextNormal now

/-- `StartEvent` without overwriting: whether the event is complete. -/
def startEvent : Bool × GameEventMgr :=
  let e := mgr.event entry
  if e.state = .normal ∨ e.state = .internal then (false, mgr.addActiveEvent entry)
  else
    let e := if e.state = .worldInactive then { e with state := .worldConditions } else e
    let (met, e) := e.checkOneGameEventConditions now
    (met, (mgr.addActiveEvent entry).setEvent entry e)

/-- `StopEvent` without overwriting. -/
def stopEvent : GameEventMgr :=
  let e := mgr.event entry
  let mgr := mgr.removeActiveEvent entry
  if e.state = .normal ∨ e.state = .internal ∨ e.state = .worldFinished then mgr
  else
    mgr.setEvent entry
      { e with
        nextstart := 0
        state := .worldInactive
        conditions := e.conditions.map fun c => { c with done := 0 } }

end GameEventMgr

/-- The local variables of `Update`. -/
structure GameEventUpdate where
  mgr : GameEventMgr
  nextEventDelay : Nat := max_ge_check_delay
  activate : List Nat := []
  deactivate : List Nat := []

namespace GameEventUpdate

variable (now : Nat) (u : GameEventUpdate) (itr : Nat)

def schedule : Option GameEventUpdate :=
  (u.mgr.nextCheck itr now).map fun calcDelay =>
    { u with nextEventDelay := min calcDelay u.nextEventDelay }

def turn : Option GameEventUpdate :=
  match u.mgr.checkOneGameEvent itr now with
  | none => none
  | some true =>
    let e := u.mgr.event itr
    if e.state = .worldNextphase ∧ e.nextstart ≤ now then
      some { u with
        mgr := u.mgr.setEvent itr { e with state := .worldFinished, nextstart := 0 }
        deactivate := if u.mgr.isActiveEvent itr then u.deactivate ++ [itr] else u.deactivate }
    else
      let mgr :=
        if e.state = .worldConditions then
          u.mgr.setEvent itr (e.checkOneGameEventConditions now).2
        else u.mgr
      let activate := if mgr.isActiveEvent itr then u.activate else u.activate ++ [itr]
      schedule now { u with mgr := mgr, activate := activate } itr
  | some false =>
    let deactivate :=
      if u.mgr.isActiveEvent itr then u.deactivate ++ [itr] else u.deactivate
    schedule now { u with deactivate := deactivate } itr

def start : List Nat → GameEventMgr → Nat → GameEventMgr × Nat
  | [], mgr, delay => (mgr, delay)
  | itr :: rest, mgr, delay =>
    let (complete, mgr) := mgr.startEvent itr now
    start rest mgr (if complete then 0 else delay)

def finish : GameEventMgr × Nat :=
  let (mgr, delay) := start now u.activate u.mgr u.nextEventDelay
  (u.deactivate.foldl GameEventMgr.stopEvent mgr, delay)

end GameEventUpdate

namespace GameEventMgr

variable (mgr : GameEventMgr) (now : Nat)

/-- `Update`, with the seconds to the next check of an event. -/
def update : Option (GameEventMgr × Nat) :=
  (mgr.eventIds.foldlM (GameEventUpdate.turn now) { mgr := mgr }).map (GameEventUpdate.finish now)

end GameEventMgr

end SkyfireBG
