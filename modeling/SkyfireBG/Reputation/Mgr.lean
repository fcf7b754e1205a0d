import SkyfireBG.Lib.OrdMap
import SkyfireBG.Lib.Byte

/-!
# SkyfireBG.Reputation.Mgr

The reputation of a character: the state of each faction of its list, the counters of factions, and
the rows of `character_reputation`.
-/

namespace SkyfireBG

/-- One field for each bit of `FactionFlags`. -/
structure FactionFlags where
  visible : Bool
  atWar : Bool
  hidden : Bool
  invisibleForced : Bool
  peaceForced : Bool
  inactive : Bool
  rival : Bool
  special : Bool
deriving DecidableEq, Repr

def FactionFlags.none : FactionFlags := ⟨false, false, false, false, false, false, false, false⟩

/-- `F` are the floating point numbers. -/
structure FactionEntry (F : Type) where
  id : Nat
  reputationListID : Int
  baseRepRaceMask : Fin 4 → Nat
  baseRepClassMask : Fin 4 → Nat
  baseRepValue : Fin 4 → Int
  reputationFlags : Fin 4 → FactionFlags
  team : Nat
  spilloverRateIn : F
  spilloverRateOut : F
  spilloverMaxRankIn : Nat

/-- `sFactionStore`.  The list ids are the places of the client's list of 128 factions. -/
structure FactionStore (F : Type) where
  numRows : Nat
  lookupEntry : Nat → Option (FactionEntry F)
  numRows_le : numRows ≤ 2 ^ 16
  lookupEntry_zero : lookupEntry 0 = none
  lookupEntry_lt : ∀ {i e}, lookupEntry i = some e → i < numRows
  lookupEntry_id : ∀ {i e}, lookupEntry i = some e → e.id = i
  baseRepValue_fits : ∀ {i e} (k : Fin 4), lookupEntry i = some e →
    int32 (e.baseRepValue k) = e.baseRepValue k
  listID_ge : ∀ {i e}, lookupEntry i = some e → -2 ^ 31 ≤ e.reputationListID
  listID_lt : ∀ {i e}, lookupEntry i = some e → e.reputationListID < 128
  listID_inj : ∀ {i j e e'}, lookupEntry i = some e → lookupEntry j = some e' →
    0 ≤ e.reputationListID → e.reputationListID = e'.reputationListID → i = j

structure SpilloverFaction (F : Type) where
  faction : Nat
  rate : F
  rank : Nat

/-- What does not change while a character is played: the tables, its race and class, and the
arithmetic of `float`. -/
structure ReputationRules (F : Type) where
  store : FactionStore F
  spillover : Nat → Option (List (SpilloverFaction F))
  teamList : Nat → Option (List Nat)
  raceMask : Nat
  classMask : Nat
  ofInt : Int → F
  mul : F → F → F
  toInt : F → Int
  isZero : F → Bool
  /-- `int32(floor((float)standing * rate + 0.5f))` -/
  gain : Int → Int

structure FactionState where
  id : Nat
  flags : FactionFlags
  standing : Int
  needSave : Bool
deriving DecidableEq, Repr

structure ReputationRow where
  standing : Int
  flags : FactionFlags
deriving DecidableEq, Repr

structure ReputationMgr where
  factions : OrdMap Nat FactionState
  visibleFactionCount : UInt8
  honoredFactionCount : UInt8
  reveredFactionCount : UInt8
  exaltedFactionCount : UInt8
  rows : OrdMap Nat ReputationRow
  -- the history: how often something else was told that a reputation changed
  told : Nat

def Reputation_Cap : Int := 42999
def Reputation_Bottom : Int := -42000

def MIN_REPUTATION_RANK : Nat := 0
def MAX_REPUTATION_RANK : Nat := 8
def REP_HOSTILE : Nat := 1
def REP_HONORED : Nat := 5
def REP_REVERED : Nat := 6
def REP_EXALTED : Nat := 7

def pointsInRank (rank : Nat) : Int :=
  [36000, 3000, 3000, 3000, 6000, 12000, 21000, 1000].getD rank 0

/-- The loop of `ReputationToRank` over the ranks below `n`. -/
def reputationToRankLoop (standing : Int) : Nat → Int → Nat
  | 0, _ => MIN_REPUTATION_RANK
  | i + 1, limit =>
    if standing ≥ limit - pointsInRank i then i
    else reputationToRankLoop standing i (limit - pointsInRank i)

def reputationToRank (standing : Int) : Nat :=
  reputationToRankLoop standing MAX_REPUTATION_RANK (Reputation_Cap + 1)

namespace ReputationMgr

def new (rows : OrdMap Nat ReputationRow) : ReputationMgr := ⟨∅, 0, 0, 0, 0, rows, 0⟩

section Rules

variable {F : Type} (r : ReputationRules F)

/-- A faction has four rows of base reputation. -/
local instance neZero_rows : NeZero 4 := ⟨by decide⟩

def baseIndex (e : FactionEntry F) : Option (Fin 4) :=
  [0, 1, 2, 3].find? fun i =>
    (e.baseRepRaceMask i &&& r.raceMask != 0 ||
      e.baseRepRaceMask i == 0 && e.baseRepClassMask i != 0) &&
    (e.baseRepClassMask i &&& r.classMask != 0 || e.baseRepClassMask i == 0)

def getBaseReputation (e : FactionEntry F) : Int :=
  match baseIndex r e with
  | some i => e.baseRepValue i
  | none => 0

def getDefaultStateFlags (e : FactionEntry F) : FactionFlags :=
  match baseIndex r e with
  | some i => e.reputationFlags i
  | none => .none

def getBaseRank (e : FactionEntry F) : Nat := reputationToRank (getBaseReputation r e)

def repListID (e : FactionEntry F) : Nat := (e.reputationListID % 2 ^ 32).toNat

def getReputation (s : ReputationMgr) (e : FactionEntry F) : Int :=
  if e.reputationListID ≥ 0 then
    match s.factions.find? (repListID e) with
    | some f => int32 (getBaseReputation r e + f.standing)
    | none => 0
  else 0

def getRank (s : ReputationMgr) (e : FactionEntry F) : Nat := reputationToRank (getReputation r s e)

def getReputationRank (s : ReputationMgr) (faction : Nat) : Nat :=
  match r.store.lookupEntry faction with
  | some e => getRank r s e
  | none => reputationToRank 0

def byteOf (b : Bool) : UInt8 := if b then 1 else 0

def updateRankCounters (s : ReputationMgr) (oldRank newRank : Nat) : ReputationMgr :=
  { s with
    exaltedFactionCount := s.exaltedFactionCount - byteOf (oldRank ≥ REP_EXALTED) +
      byteOf (newRank ≥ REP_EXALTED)
    reveredFactionCount := s.reveredFactionCount - byteOf (oldRank ≥ REP_REVERED) +
      byteOf (newRank ≥ REP_REVERED)
    honoredFactionCount := s.honoredFactionCount - byteOf (oldRank ≥ REP_HONORED) +
      byteOf (newRank ≥ REP_HONORED) }

def canShow (f : FactionFlags) : Bool := !((f.invisibleForced || f.hidden) && !f.special)

/-- `SetVisible` of a state. -/
def showState (s : ReputationMgr) (k : Nat) : ReputationMgr :=
  match s.factions.find? k with
  | none => s
  | some f =>
    if !canShow f.flags then s
    else if f.flags.visible then s
    else
      { s with
        factions := s.factions.set k
          { f with flags := { f.flags with visible := true }, needSave := true }
        visibleFactionCount := s.visibleFactionCount + 1 }

/-- `SetAtWar` of a state. -/
def warState (f : FactionState) (atWar : Bool) : FactionState :=
  if atWar && f.flags.peaceForced then f
  else if f.flags.atWar == atWar then f
  else { f with flags := { f.flags with atWar := atWar }, needSave := true }

/-- `SetInactive` of a state. -/
def inactiveState (f : FactionState) (inactive : Bool) : FactionState :=
  if inactive && ((f.flags.invisibleForced || f.flags.hidden) || !f.flags.visible) then f
  else if f.flags.inactive == inactive then f
  else { f with flags := { f.flags with inactive := inactive }, needSave := true }

def changeState (s : ReputationMgr) (k : Nat) (g : FactionState → FactionState) : ReputationMgr :=
  { s with factions := s.factions.update k g }

def setAtWar (s : ReputationMgr) (k : Nat) (on : Bool) : ReputationMgr :=
  match s.factions.find? k with
  | none => s
  | some f =>
    if f.flags.invisibleForced || f.flags.hidden then s else s.changeState k (warState · on)

def setInactive (s : ReputationMgr) (k : Nat) (on : Bool) : ReputationMgr :=
  s.changeState k (inactiveState · on)

def setVisible (s : ReputationMgr) (e : FactionEntry F) : ReputationMgr :=
  if e.reputationListID < 0 then s else s.showState (repListID e)

/-- `SetVisible` of a faction template, with the faction that it names. -/
def setVisibleTemplate (s : ReputationMgr) (faction : Nat) : ReputationMgr :=
  if faction = 0 then s
  else
    match r.store.lookupEntry faction with
    | none => s
    | some e =>
      -- the factions of the opposing team
      if e.baseRepRaceMask 1 &&& r.raceMask ≠ 0 ∧ e.baseRepValue 1 = Reputation_Bottom then s
      else s.setVisible e

def clampStanding (standing : Int) : Int :=
  if standing > Reputation_Cap then Reputation_Cap
  else if standing < Reputation_Bottom then Reputation_Bottom
  else standing

def newStanding (e : FactionEntry F) (f : FactionState) (standing : Int) (incremental : Bool) : Int :=
  clampStanding (if incremental then
      int32 (r.gain standing + (f.standing + getBaseReputation r e))
    else standing)

/-- `told` is what quests and achievements do when they are told of the change. -/
def setOneFactionReputation (told : ReputationMgr → ReputationMgr) (e : FactionEntry F)
    (standing : Int) (incremental : Bool) (s : ReputationMgr) : ReputationMgr :=
  match s.factions.find? (repListID e) with
  | none => s
  | some f =>
    let k := repListID e
    let base := getBaseReputation r e
    let standing := newStanding r e f standing incremental
    let oldRank := reputationToRank (int32 (f.standing + base))
    let newRank := reputationToRank standing
    let s := s.changeState k fun f => { f with standing := int32 (standing - base), needSave := true }
    let s := s.showState k
    let s := if newRank ≤ REP_HOSTILE then s.changeState k (warState · true) else s
    told (s.updateRankCounters oldRank newRank)

/-- A round of the loop of `Initialize`. -/
def initializeFaction (s : ReputationMgr) (i : Nat) : ReputationMgr :=
  match r.store.lookupEntry i with
  | none => s
  | some e =>
    if e.reputationListID ≥ 0 then
      let f : FactionState :=
        { id := e.id, flags := getDefaultStateFlags r e, standing := 0, needSave := true }
      let s := { s with visibleFactionCount := s.visibleFactionCount + byteOf f.flags.visible }
      let s := s.updateRankCounters REP_HOSTILE (getBaseRank r e)
      { s with factions := s.factions.set (repListID e) f }
    else s

/-- `Initialize` of the manager. -/
def initializeAll (s : ReputationMgr) : ReputationMgr :=
  (List.range' 1 (r.store.numRows - 1)).foldl (initializeFaction r)
    { s with factions := ∅, visibleFactionCount := 0, honoredFactionCount := 0,
             reveredFactionCount := 0, exaltedFactionCount := 0 }

/-- The war state of a row passes the setter; it is removed from visible factions only. -/
def loadAtWar (row : ReputationRow) (f : FactionState) : FactionState :=
  if row.flags.atWar then warState f true
  else if f.flags.visible then warState f false
  else f

def loadWar (e : FactionEntry F) (row : ReputationRow) (s : ReputationMgr) : ReputationMgr :=
  let s := s.changeState (repListID e) (loadAtWar row)
  if getRank r s e ≤ REP_HOSTILE then s.changeState (repListID e) (warState · true) else s

/-- A row of `LoadFromDB`; the column `faction` has the 16 bits that are read. -/
def loadRow (s : ReputationMgr) (faction : Nat) (row : ReputationRow) : ReputationMgr :=
  match r.store.lookupEntry faction with
  | none => s
  | some e =>
    if e.reputationListID ≥ 0 then
      let k := repListID e
      let base := getBaseReputation r e
      let s := s.changeState k fun f => { f with standing := row.standing }
      let s := s.updateRankCounters (reputationToRank base)
        (reputationToRank (int32 (base + row.standing)))
      let s := if row.flags.visible then s.showState k else s
      let s := if row.flags.inactive then s.changeState k (inactiveState · true) else s
      let s := loadWar r e row s
      s.changeState k fun f => if f.flags = row.flags then { f with needSave := false } else f
    else s

/-- `LoadFromDB` of the rows that there are. -/
def loadFromDB (s : ReputationMgr) : ReputationMgr :=
  s.rows.entries.foldl (fun s row => loadRow r s row.1 row.2) (s.initializeAll r)

/-- `SaveToDB`; a row replaces the one before. -/
def saveToDB (s : ReputationMgr) : ReputationMgr :=
  { s with
    factions := s.factions.mapValues fun f => { f with needSave := false }
    rows := s.factions.entries.foldl (fun rows x =>
      if x.2.needSave then rows.set x.2.id ⟨x.2.standing, x.2.flags⟩ else rows) s.rows }

def spillTemplate (told : ReputationMgr → ReputationMgr) (l : List (SpilloverFaction F))
    (standing : Int) (incremental : Bool) (s : ReputationMgr) : ReputationMgr :=
  l.foldl (fun s t =>
    if t.faction ≠ 0 ∧ getReputationRank r s t.faction ≤ t.rank then
      match r.store.lookupEntry t.faction with
      | some e =>
        setOneFactionReputation r told e (r.toInt (r.mul (r.ofInt standing) t.rate)) incremental s
      -- not loaded with factions that there are not
      | none => s
    else s) s

def spillList (told : ReputationMgr → ReputationMgr) (e : FactionEntry F) (l : List Nat) (out : F)
    (incremental : Bool) (s : ReputationMgr) : ReputationMgr :=
  l.foldl (fun s faction =>
    match r.store.lookupEntry faction with
    | none => s
    | some other =>
      if other.id = e.id ∨ getRank r s other > other.spilloverMaxRankIn then s
      else
        let spilloverRep := r.toInt (r.mul out other.spilloverRateIn)
        if spilloverRep ≠ 0 ∨ !incremental then
          setOneFactionReputation r told other spilloverRep incremental s
        else s) s

def spillStore (told : ReputationMgr → ReputationMgr) (e : FactionEntry F) (standing : Int)
    (incremental : Bool) (s : ReputationMgr) : ReputationMgr :=
  match r.teamList e.id with
  | some l => spillList r told e l (r.ofInt standing) incremental s
  | none =>
    if e.team ≠ 0 ∧ r.isZero e.spilloverRateOut = false then
      let out := r.mul (r.ofInt standing) e.spilloverRateOut
      match r.store.lookupEntry e.team with
      | none => s
      | some parent =>
        if (s.factions.find? (repListID parent)).any (·.flags.special) then
          setOneFactionReputation r told parent (r.toInt out) incremental s
        else
          match r.teamList e.team with
          | some l => spillList r told e l out incremental s
          | none => s
    else s

/-- `standing` is what the scripts have made of it. -/
def setReputation (told : ReputationMgr → ReputationMgr) (e : FactionEntry F) (standing : Int)
    (incremental : Bool) (s : ReputationMgr) : ReputationMgr :=
  let s :=
    match r.spillover e.id with
    | some l => spillTemplate r told l standing incremental s
    | none => spillStore r told e standing incremental s
  setOneFactionReputation r told e standing incremental s

inductive Op where
  | setReputation (faction : Nat) (standing : Int) (incremental : Bool)
  | setVisible (faction : Nat)
  | setVisibleTemplate (faction : Nat)
  | setAtWar (repListID : Nat) (on : Bool)
  | setInactive (repListID : Nat) (on : Bool)
  | saveToDB
  | loadFromDB
deriving DecidableEq, Repr

def Op.run (told : ReputationMgr → ReputationMgr) (s : ReputationMgr) : Op → ReputationMgr
  | .setReputation faction standing incremental =>
    match r.store.lookupEntry faction with
    | some e => ReputationMgr.setReputation r told e standing incremental s
    | none => s
  | .setVisible faction =>
    match r.store.lookupEntry faction with
    | some e => ReputationMgr.setVisible s e
    | none => s
  | .setVisibleTemplate faction => ReputationMgr.setVisibleTemplate r s faction
  | .setAtWar k on => ReputationMgr.setAtWar s k on
  | .setInactive k on => ReputationMgr.setInactive s k on
  | .saveToDB => ReputationMgr.saveToDB s
  | .loadFromDB => ReputationMgr.loadFromDB r s

/-- An operation; who is told of a change does in turn what `plan` has for it, nested below `n`. -/
def perform (plan : Nat → List Op) : Nat → ReputationMgr → Op → ReputationMgr
  | 0, s, op => op.run r id s
  | n + 1, s, op =>
    op.run r (fun s => (plan s.told).foldl (perform plan n) { s with told := s.told + 1 }) s

def play (plan : Nat → List Op) (n : Nat) (rows : OrdMap Nat ReputationRow) (ops : List Op) :
    ReputationMgr :=
  ops.foldl (perform r plan n) ((new rows).loadFromDB r)

end Rules

end ReputationMgr

end SkyfireBG
