import SkyfireBG.Battleground.Queue
import SkyfireBG.Player.Money

/-!
# SkyfireBG.Battleground.Battle

The part of a running battle that every zone shares: its status, its players, the premature end.

`ends` lists the calls of `EndBattleground`, the last one first; the source keeps no such record.
Packets, rewards, resurrection and the queue of free slots are left out.
-/

namespace SkyfireBG

/-- The `int32` sum of an `int32` and a `uint32`. -/
def addInt32 (x : Int) (n : Nat) : Int := toInt32 ((x + n) % 2 ^ 32).toNat

/-- The `int32` difference of an `int32` and a `uint32`. -/
def subInt32 (x : Int) (n : Nat) : Int := toInt32 ((x - n) % 2 ^ 32).toNat

inductive BattlegroundStatus where
  | waitJoin
  | inProgress
  | waitLeave
deriving DecidableEq, Repr

def TIME_TO_AUTOREMOVE : Int := 120000

structure BattlegroundSettings where
  prematureFinishTime : Nat
  minPlayersPerTeam : Nat
  isTesting : Bool

/-- How the starting countdown of `_ProcessJoin` stands. -/
inductive StartDelay where
  | running
  | ended
  | setupFailed
deriving DecidableEq, Repr

structure Battleground where
  status : BattlegroundStatus := .waitJoin
  /-- `_Players`; a team of zero is `none`. -/
  players : OrdMap Nat (Option Team) := ∅
  playersCount : Team → Nat := fun _ => 0
  startTime : Nat := 0
  endTime : Int := 0
  prematureCountDown : Bool := false
  prematureCountDownTimer : Nat := 0
  ends : List (Option Team) := []

namespace Battleground

variable {b : Battleground} {cfg : BattlegroundSettings} {p k : Nat} {t : Team}

/-- `GetTeamIndexByTeamId`: whatever is not the Alliance counts as the Horde. -/
def teamIndex : Option Team → Team
  | some t => t
  | none => .horde

def addPlayer (p : Nat) (team : Team) (b : Battleground) : Battleground :=
  { b with
    players := b.players.set p (some team),
    playersCount := Function.update b.playersCount team ((b.playersCount team + 1) % 2 ^ 32) }

/-- `_Players[guid]` of a player who is not listed lists him, under no team. -/
def touchPlayer (p : Nat) (b : Battleground) : Battleground :=
  match b.players.find? p with
  | some _ => b
  | none => { b with players := b.players.set p none }

/-- The first lines of `RemovePlayerAtLeave`. -/
def erasePlayer (p : Nat) (b : Battleground) : Battleground :=
  match b.players.find? p with
  | none => b
  | some team =>
    { b with
      players := b.players.erase p,
      playersCount := Function.update b.playersCount (teamIndex team)
        ((b.playersCount (teamIndex team) + (2 ^ 32 - 1)) % 2 ^ 32) }

def endBattleground (winner : Option Team) (b : Battleground) : Battleground :=
  { b with status := .waitLeave, endTime := TIME_TO_AUTOREMOVE, ends := winner :: b.ends }

def endNow (b : Battleground) : Battleground := { b with status := .waitLeave, endTime := 0 }

def prematureWinner (cfg : BattlegroundSettings) (b : Battleground) : Option Team :=
  if cfg.minPlayersPerTeam ≤ b.playersCount .alliance then some .alliance
  else if cfg.minPlayersPerTeam ≤ b.playersCount .horde then some .horde
  else none

def processProgress (cfg : BattlegroundSettings) (diff : Nat) (b : Battleground) : Battleground :=
  if b.prematureCountDown = false then
    { b with
      prematureCountDown := true, prematureCountDownTimer := cfg.prematureFinishTime }
  else if b.prematureCountDownTimer < diff then
    { b.endBattleground (b.prematureWinner cfg) with prematureCountDown := false }
  else if cfg.isTesting then b
  else { b with prematureCountDownTimer := b.prematureCountDownTimer - diff }

/-- The check of `Update` that starts and stops the premature countdown. -/
def checkPremature (cfg : BattlegroundSettings) (diff : Nat) (b : Battleground) : Battleground :=
  if cfg.prematureFinishTime ≠ 0 ∧ (b.playersCount .alliance < cfg.minPlayersPerTeam ∨
      b.playersCount .horde < cfg.minPlayersPerTeam) then
    b.processProgress cfg diff
  else { b with prematureCountDown := false }

/-- The part of `_ProcessJoin` that changes the status. -/
def processJoin (delay : StartDelay) (b : Battleground) : Battleground :=
  match delay with
  | .running => b
  | .ended => { b with status := .inProgress }
  | .setupFailed => b.endNow

def addStartTime (diff : Nat) (b : Battleground) : Battleground :=
  { b with startTime := (b.startTime + diff) % 2 ^ 32 }

theorem addPlayer_listed : (b.addPlayer p t).players.find? k =
    if k = p then some (some t) else b.players.find? k := OrdMap.find?_set

@[simp] theorem touchPlayer_status : (b.touchPlayer p).status = b.status := by
  unfold touchPlayer
  split <;> rfl

@[simp] theorem touchPlayer_ends : (b.touchPlayer p).ends = b.ends := by
  unfold touchPlayer
  split <;> rfl

theorem touchPlayer_listed {team : Option Team} (h : b.players.find? k = some team) :
    (b.touchPlayer p).players.find? k = some team := by
  unfold touchPlayer
  split
  · exact h
  · rename_i hp
    have hk : k ≠ p := by
      rintro rfl
      rw [hp] at h
      cases h
    exact (OrdMap.find?_set_ne hk).trans h

@[simp] theorem erasePlayer_status : (b.erasePlayer p).status = b.status := by
  unfold erasePlayer
  split <;> rfl

@[simp] theorem erasePlayer_ends : (b.erasePlayer p).ends = b.ends := by
  unfold erasePlayer
  split <;> rfl

theorem erasePlayer_listed (h : k ≠ p) :
    (b.erasePlayer p).players.find? k = b.players.find? k := by
  unfold erasePlayer
  split
  · rfl
  · exact OrdMap.find?_erase_ne h

theorem checkPremature_cases (cfg : BattlegroundSettings) (diff : Nat) (b : Battleground) :
    (b.checkPremature cfg diff).players = b.players ∧
      ((b.checkPremature cfg diff).status = b.status ∧
          (b.checkPremature cfg diff).ends = b.ends ∨
        (b.checkPremature cfg diff).status = .waitLeave ∧
          ∃ winner, (b.checkPremature cfg diff).ends = winner :: b.ends) := by
  unfold checkPremature
  split
  · unfold processProgress
    split
    · exact ⟨rfl, .inl ⟨rfl, rfl⟩⟩
    · split
      · exact ⟨rfl, .inr ⟨rfl, _, rfl⟩⟩
      · split
        · exact ⟨rfl, .inl ⟨rfl, rfl⟩⟩
        · exact ⟨rfl, .inl ⟨rfl, rfl⟩⟩
  · exact ⟨rfl, .inl ⟨rfl, rfl⟩⟩

end Battleground

end SkyfireBG
