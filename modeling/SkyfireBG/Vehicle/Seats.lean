import Mathlib.Algebra.Order.Ring.Int
import SkyfireBG.Lib.OrdMap

/-!
# SkyfireBG.Vehicle.Seats

The seats of a `Vehicle`, the count of those a passenger may still take, and how units enter, change
seats and leave.  Guid 0 is no unit.

The base's aura `SPELL_AURA_CONTROL_VEHICLE` lets its caster enter and leave; the caster is looked up
on the map of the base, and so is the passenger of a seat that another one takes.
-/

namespace SkyfireBG

def MAX_VEHICLE_SEATS : Nat := 8

def VEHICLE_SEAT_FLAG_UNCONTROLLED : UInt32 := 0x00002000
def VEHICLE_SEAT_FLAG_CAN_ENTER_OR_EXIT : UInt32 := 0x02000000
def VEHICLE_SEAT_FLAG_B_USABLE_FORCED : UInt32 := 0x00000002
def VEHICLE_SEAT_FLAG_B_USABLE_FORCED_2 : UInt32 := 0x00000040
def VEHICLE_SEAT_FLAG_B_USABLE_FORCED_3 : UInt32 := 0x00000100
def VEHICLE_SEAT_FLAG_B_USABLE_FORCED_4 : UInt32 := 0x02000000

structure VehicleSeatEntry where
  m_flags : UInt32
  m_flagsB : UInt32
deriving DecidableEq, Repr

namespace VehicleSeatEntry

variable (e : VehicleSeatEntry)

def canEnterOrExit : Bool := e.m_flags &&& VEHICLE_SEAT_FLAG_CAN_ENTER_OR_EXIT != 0

def isUsableByOverride : Bool :=
  e.m_flags &&& VEHICLE_SEAT_FLAG_UNCONTROLLED != 0 ||
    e.m_flagsB &&& (VEHICLE_SEAT_FLAG_B_USABLE_FORCED ||| VEHICLE_SEAT_FLAG_B_USABLE_FORCED_2 |||
      VEHICLE_SEAT_FLAG_B_USABLE_FORCED_3 ||| VEHICLE_SEAT_FLAG_B_USABLE_FORCED_4) != 0

end VehicleSeatEntry

structure VehicleSeat where
  seatInfo : VehicleSeatEntry
  passenger : Nat := 0
deriving DecidableEq, Repr

namespace VehicleSeat

variable (seat : VehicleSeat)

def isAvailable : Bool :=
  seat.passenger == 0 && (seat.seatInfo.canEnterOrExit || seat.seatInfo.isUsableByOverride)

/-- A seat that `_usableSeatNum` counts. -/
def isUsable : Bool := seat.seatInfo.canEnterOrExit && seat.passenger == 0

end VehicleSeat

structure Vehicle where
  seats : OrdMap Int VehicleSeat := ∅
  usableSeatNum : Nat := 0
  /-- The flag of the base that a click lets a player enter. -/
  clickFlag : Bool := false
  /-- The units whose `m_vehicle` is this one. -/
  riders : List Nat := []
  /-- The units that `ObjectAccessor::GetUnit` finds. -/
  world : List Nat := []
  wasReset : Bool := false

/-- The entries that `LookupEntry` finds for `m_seatID`. -/
abbrev SeatLayout := Fin MAX_VEHICLE_SEATS → Option VehicleSeatEntry

namespace Vehicle

variable (s : Vehicle)

def addSeat (layout : SeatLayout) (i : Fin MAX_VEHICLE_SEATS) : Vehicle :=
  match layout i with
  | none => s
  | some veSeat =>
    { s with
      seats := s.seats.set i.val ⟨veSeat, 0⟩
      usableSeatNum :=
        if veSeat.canEnterOrExit then (s.usableSeatNum + 1) % 2 ^ 32 else s.usableSeatNum }

def build (layout : SeatLayout) : Vehicle :=
  (List.finRange MAX_VEHICLE_SEATS).foldl (fun s i => s.addSeat layout i) {}

def hasEmptySeat (seatId : Int) : Bool :=
  match s.seats.find? seatId with
  | none => false
  | some seat => seat.passenger == 0

def getAvailableSeatCount : Nat := s.seats.countP VehicleSeat.isAvailable % 256

/-- The loop of `GetNextEmptySeat` at the seat with index `i`; `none` is that it does not end within
`fuel` rounds. -/
def nextEmptySeat (seats : List (Int × VehicleSeat)) (seatId : Int) (next : Bool) :
    Nat → Nat → Option Int
  | 0, _ => none
  | fuel + 1, i =>
    match seats[i]? with
    | none => none
    | some seat =>
      if seat.2.isAvailable then some seat.1
      else
        let i := if next then (if i + 1 = seats.length then 0 else i + 1)
          else (if i = 0 then seats.length else i) - 1
        match seats[i]? with
        | none => none
        | some seat => if seat.1 = seatId then some (-1) else nextEmptySeat seats seatId next fuel i

def getNextEmptySeat (seatId : Int) (next : Bool) : Option Int :=
  match s.seats.entries.findIdx? (fun e => e.1 == seatId) with
  | none => some (-1)
  | some i => nextEmptySeat s.seats.entries seatId next s.seats.entries.length i

def setPassenger (seatId : Int) (seat : VehicleSeat) (unit : Nat) : Vehicle :=
  { s with seats := s.seats.set seatId { seat with passenger := unit } }

/-- The end of `AddPassenger`; `none` is a failed assertion. -/
def sit (unit : Nat) (seatId : Int) (seat : VehicleSeat) : Option Vehicle :=
  let s := s.setPassenger seatId seat unit
  if seat.seatInfo.canEnterOrExit then
    if s.usableSeatNum = 0 then none
    else
      some { s with
        usableSeatNum := s.usableSeatNum - 1
        clickFlag := if s.usableSeatNum - 1 = 0 then false else s.clickFlag }
  else some s

def removePassenger (unit : Nat) : Option Vehicle :=
  if unit ∉ s.riders then some s
  else
    match s.seats.entries.find? (fun e => e.2.passenger == unit) with
    | none => none
    | some (seatId, seat) =>
      let s := s.setPassenger seatId seat 0
      if seat.seatInfo.canEnterOrExit then
        some { s with
          usableSeatNum := (s.usableSeatNum + 1) % 2 ^ 32
          clickFlag := if s.usableSeatNum = 0 then true else s.clickFlag }
      else some s

/-- `ExitVehicle`, which ends in `_ExitVehicle`. -/
def exitVehicle (unit : Nat) : Option Vehicle :=
  if unit ∉ s.riders then some s
  else (s.removePassenger unit).map fun s => { s with riders := s.riders.filter (· ≠ unit) }

def vacate (seatId : Int) (seat : VehicleSeat) : Option Vehicle :=
  if seat.passenger = 0 then some s
  else if seat.passenger ∈ s.world then s.exitVehicle seat.passenger
  else some (s.setPassenger seatId seat 0)

def addPassenger (unit : Nat) (seatId : Int) : Option (Bool × Vehicle) :=
  if unit ∉ s.riders then some (false, s)
  else if seatId < 0 then
    match s.seats.entries.find? (fun e => e.2.isAvailable) with
    | none => some (false, s)
    | some (seatId, seat) => (s.sit unit seatId seat).map (true, ·)
  else
    match s.seats.find? seatId with
    | none => some (false, s)
    | some seat =>
      match s.vacate seatId seat with
      | none => none
      | some s =>
        match s.seats.find? seatId with
        | none => none
        | some seat =>
          if seat.passenger ≠ 0 then none else (s.sit unit seatId seat).map (true, ·)

/-- `transSeat` is the seat that the unit says it has; a client may send any. -/
def changeSeat (unit : Nat) (transSeat seatId : Int) (next : Bool) : Option Vehicle :=
  let move (seatId : Int) : Option Vehicle :=
    match s.removePassenger unit with
    | none => none
    | some s =>
      match s.addPassenger unit seatId with
      | some (true, s) => some s
      | _ => none
  if unit ∉ s.riders then some s
  else if seatId < 0 then
    match s.getNextEmptySeat transSeat next with
    | none => none
    | some seatId => if seatId < 0 then some s else move seatId
  else if seatId = transSeat ∨ s.hasEmptySeat seatId = false then some s
  else move seatId

/-- The aura is applied: `_EnterVehicle`. -/
def enterVehicle (unit : Nat) (transSeat seatId : Int) : Option Vehicle :=
  if unit ∉ s.world then some s
  else if unit ∈ s.riders then
    if 0 ≤ seatId ∧ seatId ≠ transSeat then s.changeSeat unit transSeat seatId true else some s
  else
    match { s with riders := unit :: s.riders }.addPassenger unit seatId with
    | none => none
    | some (true, s) => some s
    | some (false, s) => some { s with riders := s.riders.filter (· ≠ unit) }

def removeAura (unit : Nat) : Option Vehicle :=
  if unit ∉ s.world then some s else s.exitVehicle unit

def removeAllPassengers : Option Vehicle := s.riders.foldlM removeAura s

/-- `Reset`, after the passengers were removed and the accessories installed. -/
def reset : Vehicle :=
  { s with clickFlag := if s.usableSeatNum ≠ 0 then true else s.clickFlag, wasReset := true }

inductive Event where
  | enterVehicle (unit : Nat) (transSeat seatId : Int)
  | changeSeat (unit : Nat) (transSeat seatId : Int) (next : Bool)
  | removeAura (unit : Nat)
  | removeAllPassengers
  | reset
  | leaveWorld (unit : Nat)
  /-- It is found, as the object it was or as a new one. -/
  | enterWorld (unit : Nat) (fresh : Bool)
deriving DecidableEq, Repr

/-- `none` is a failed assertion. -/
def act : Event → Option Vehicle
  | .enterVehicle unit transSeat seatId => s.enterVehicle unit transSeat seatId
  | .changeSeat unit transSeat seatId next => s.changeSeat unit transSeat seatId next
  | .removeAura unit => s.removeAura unit
  | .removeAllPassengers => s.removeAllPassengers
  | .reset => some s.reset
  | .leaveWorld unit => some { s with world := s.world.filter (· ≠ unit) }
  | .enterWorld unit fresh =>
    some { s with
      world := unit :: s.world
      riders := if fresh then s.riders.filter (· ≠ unit) else s.riders }

def step (e : Event) : Vehicle := (s.act e).getD s

end Vehicle

end SkyfireBG
