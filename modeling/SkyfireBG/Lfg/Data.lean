import Mathlib.Algebra.Order.Field.Rat
import Mathlib.Order.Lattice.Nat

/-!
# SkyfireBG.Lfg.Data

The state that `LFGMgr` keeps for a player or a group: `LfgPlayerData` and `LfgGroupData`.
-/

namespace SkyfireBG

inductive LfgState where
  | NONE
  | ROLECHECK
  | QUEUED
  | PROPOSAL
  | BOOT
  | DUNGEON
  | FINISHED_DUNGEON
  | RAIDBROWSER
deriving DecidableEq, Repr

/-- The states that `SetState` remembers, to come back to. -/
def LfgState.isOld : LfgState → Bool
  | .NONE | .DUNGEON | .FINISHED_DUNGEON => true
  | _ => false

/-- `m_State` and `m_OldState`. -/
structure LfgStates where
  state : LfgState := .NONE
  oldState : LfgState := .NONE
  isOld : oldState.isOld = true := by rfl
deriving DecidableEq, Repr

namespace LfgStates

variable (s : LfgStates) (st : LfgState)

def setState : LfgStates :=
  if h : st.isOld = true then ⟨st, st, h⟩ else ⟨st, s.oldState, s.isOld⟩

/-- `ClearState` of a player, and `RestoreState` of a group. -/
def restoreState : LfgStates := ⟨s.oldState, s.oldState, s.isOld⟩

@[simp] theorem setState_state : (s.setState st).state = st := by
  unfold setState
  split <;> rfl

@[simp] theorem restoreState_state : s.restoreState.state = s.oldState := rfl

theorem oldState_ne_boot : s.oldState ≠ .BOOT := by
  intro h
  have hold := s.isOld
  rw [h] at hold
  cases hold

end LfgStates

def LFG_GROUP_KICK_VOTES_NEEDED : Nat := 3

def LFG_GROUP_MAX_KICKS : Nat := 3

structure LfgGroupData where
  states : LfgStates := {}
  votesNeeded : Nat := LFG_GROUP_KICK_VOTES_NEEDED
  kicksLeft : Nat := LFG_GROUP_MAX_KICKS
deriving DecidableEq, Repr

namespace LfgGroupData

variable (d : LfgGroupData) (st : LfgState)

def setState : LfgGroupData := { d with states := d.states.setState st }

def restoreState : LfgGroupData := { d with states := d.states.restoreState }

def decreaseKicksLeft : LfgGroupData := { d with kicksLeft := d.kicksLeft - 1 }

@[simp] theorem setState_state : (d.setState st).states.state = st := d.states.setState_state st

@[simp] theorem setState_kicksLeft : (d.setState st).kicksLeft = d.kicksLeft := rfl

@[simp] theorem setState_votesNeeded : (d.setState st).votesNeeded = d.votesNeeded := rfl

@[simp] theorem restoreState_state : d.restoreState.states.state = d.states.oldState := rfl

@[simp] theorem restoreState_kicksLeft : d.restoreState.kicksLeft = d.kicksLeft := rfl

@[simp] theorem restoreState_votesNeeded : d.restoreState.votesNeeded = d.votesNeeded := rfl

@[simp] theorem decreaseKicksLeft_states : d.decreaseKicksLeft.states = d.states := rfl

@[simp] theorem decreaseKicksLeft_kicksLeft : d.decreaseKicksLeft.kicksLeft = d.kicksLeft - 1 := rfl

@[simp] theorem decreaseKicksLeft_votesNeeded :
    d.decreaseKicksLeft.votesNeeded = d.votesNeeded := rfl

end LfgGroupData

end SkyfireBG
