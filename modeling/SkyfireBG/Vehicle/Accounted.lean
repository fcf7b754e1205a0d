import SkyfireBG.Lib.Ring
import SkyfireBG.Lib.Run
import SkyfireBG.Lib.Storage
import SkyfireBG.Vehicle.Seats

/-!
# SkyfireBG.Vehicle.Accounted

The count of usable seats, the click flag and who sits where.

* `Accounted`       — the count is that of the usable seats without passenger, no unit has two
  seats, and after `Reset` the click flag is set while the count is positive.
* `Meets`           — the events that keep this.
* `seats_accounted` — every run of such events keeps it, without a failed assertion.
-/

namespace SkyfireBG

open Storage

namespace Vehicle

def heldIn (seats : OrdMap Int VehicleSeat) (i : Int) : Option Nat :=
  match seats.find? i with
  | none => none
  | some seat => if seat.passenger = 0 then none else some seat.passenger

variable (s : Vehicle)

abbrev held : Int → Option Nat := heldIn s.seats

def usableSeats : Nat := s.seats.countP VehicleSeat.isUsable

structure Accounted : Prop where
  count : s.usableSeatNum = s.usableSeats
  single : Single s.held
  clear : s.usableSeatNum = 0 → s.clickFlag = false
  shown : s.wasReset = true → 0 < s.usableSeatNum → s.clickFlag = true

/-- A unit takes a seat whose recorded passenger has left the world only where that seat does not
count; it changes seats while it is in the world; and it comes back to the world as a new object
only when it has no seat, as the old one only with the seat it had. -/
def Meets : Event → Prop
  | .enterVehicle unit _ seatId =>
    unit ≠ 0 ∧ ∀ seat, s.seats.find? seatId = some seat →
      seat.passenger ≠ 0 → seat.passenger ∉ s.world → seat.seatInfo.canEnterOrExit = false
  | .changeSeat unit _ _ _ => unit ∈ s.world
  | .enterWorld unit fresh =>
    if fresh then Absent s.held unit else unit ∈ s.riders → ∃ i, s.held i = some unit
  | _ => True

structure Counted : Prop where
  count : s.usableSeatNum = s.usableSeats
  size : s.seats.size ≤ MAX_VEHICLE_SEATS
  clear : s.usableSeatNum = 0 → s.clickFlag = false
  shown : s.wasReset = true → 0 < s.usableSeatNum → s.clickFlag = true

/-- The seats and the units, but for `unit`, which rides without a seat if it rides. -/
structure Seated (unit : Nat) : Prop extends Counted s where
  single : Single s.held
  riding : ∀ i p, s.held i = some p → p ∈ s.riders
  recorded : ∀ p ∈ s.riders, p ∈ s.world → p ≠ unit → ∃ i, s.held i = some p
  absent : Absent s.held unit
  nonzero : ∀ p ∈ s.riders, p ≠ 0

abbrev Kept : Prop := Seated s 0

variable {s} {unit p : Nat} {i : Int} {seat : VehicleSeat}

theorem Seated.accounted (h : Seated s unit) : Accounted s := ⟨h.count, h.single, h.clear, h.shown⟩

theorem held_eq_some : s.held i = some p ↔
    ∃ seat, s.seats.find? i = some seat ∧ seat.passenger = p ∧ p ≠ 0 := by
  cases hf : s.seats.find? i with
  | none => simp [heldIn, hf]
  | some seat =>
    simp only [heldIn, hf, Option.some.injEq, exists_eq_left']
    by_cases h0 : seat.passenger = 0
    · simp only [if_pos h0, reduceCtorEq, false_iff, not_and]
      intro heq
      simpa [← heq] using h0
    · simp only [if_neg h0, Option.some.injEq]
      constructor
      · rintro rfl
        exact ⟨rfl, h0⟩
      · exact And.left

theorem absent_zero : Absent s.held 0 := by
  intro i hi
  obtain ⟨seat, -, -, h0⟩ := held_eq_some.mp hi
  exact h0 rfl

theorem held_setPassenger (i : Int) (seat : VehicleSeat) (p : Nat) :
    (s.setPassenger i seat p).held =
      Function.update s.held i (if p = 0 then none else some p) := by
  funext j
  simp only [setPassenger, heldIn, OrdMap.find?_set, Function.update_apply]
  by_cases hj : j = i
  · rw [if_pos hj, if_pos hj]
  · rw [if_neg hj, if_neg hj]

theorem size_setPassenger (hf : s.seats.find? i = some seat) :
    (s.setPassenger i seat p).seats.size = s.seats.size := by
  rw [setPassenger, ← OrdMap.length_keys, OrdMap.keys_set_of_some hf, OrdMap.length_keys]

theorem usableSeats_setPassenger (hf : s.seats.find? i = some seat) :
    (s.setPassenger i seat p).usableSeats + (if seat.isUsable then 1 else 0) =
      s.usableSeats + if seat.seatInfo.canEnterOrExit && p == 0 then 1 else 0 :=
  OrdMap.countP_set_of_some hf

theorem usableSeats_le_size : s.usableSeats ≤ s.seats.size := OrdMap.countP_le_size

theorem sit_counted (hc : seat.seatInfo.canEnterOrExit = true) (hpos : s.usableSeatNum ≠ 0) :
    s.sit unit i seat = some { s.setPassenger i seat unit with
      usableSeatNum := s.usableSeatNum - 1
      clickFlag := if s.usableSeatNum - 1 = 0 then false else s.clickFlag } := by
  rw [Vehicle.sit]
  simp only [hc, if_true]
  exact if_neg hpos

theorem sit_uncounted (hc : seat.seatInfo.canEnterOrExit = false) :
    s.sit unit i seat = some (s.setPassenger i seat unit) := by
  simp [Vehicle.sit, hc]

theorem Seated.sit (h : Seated s unit) (hu : unit ∈ s.riders) (hf : s.seats.find? i = some seat)
    (hempty : seat.passenger = 0) : ∃ s', s.sit unit i seat = some s' ∧ Kept s' := by
  have h0 := h.nonzero unit hu
  have husable : seat.isUsable = seat.seatInfo.canEnterOrExit := by
    rw [VehicleSeat.isUsable, hempty]
    simp
  have hmove := usableSeats_setPassenger (p := unit) hf
  rw [husable] at hmove
  have hheld := held_setPassenger (s := s) i seat unit
  rw [if_neg h0] at hheld
  have hseated : ∀ s' : Vehicle, s'.seats = (s.setPassenger i seat unit).seats →
      s'.riders = s.riders → s'.world = s.world → Counted s' → Kept s' := by
    intro s' hseats hriders hworld hcounted
    have hheld' : s'.held = Function.update s.held i (some unit) := by
      rw [held, hseats]
      exact hheld
    refine ⟨hcounted, ?_, ?_, ?_, absent_zero, ?_⟩
    · rw [hheld']
      exact h.single.put h.absent
    · intro j q hq
      rw [hriders]
      rw [hheld', Function.update_apply] at hq
      split at hq
      · cases hq
        exact hu
      · exact h.riding j q hq
    · intro q hq hw _
      rw [hriders] at hq
      rw [hworld] at hw
      rw [hheld']
      by_cases hqu : q = unit
      · exact ⟨i, by rw [Function.update_self, hqu]⟩
      · obtain ⟨j, hj⟩ := h.recorded q hq hw hqu
        have hji : j ≠ i := by
          rintro rfl
          simp [heldIn, hf, hempty] at hj
        exact ⟨j, by rw [Function.update_of_ne hji, hj]⟩
    · rw [hriders]
      exact h.nonzero
  have hcount := h.count
  have hshown := h.shown
  have hclear := h.clear
  have hsize := size_setPassenger (p := unit) hf
  have hle := h.size
  simp only [show (unit == 0) = false by simpa using h0, Bool.and_false] at hmove
  cases hc : seat.seatInfo.canEnterOrExit with
  | false =>
    rw [hc] at hmove
    refine ⟨_, sit_uncounted hc, hseated _ rfl rfl rfl ⟨?_, by omega, hclear, hshown⟩⟩
    change s.usableSeatNum = _
    simp at hmove
    omega
  | true =>
    rw [hc] at hmove
    simp at hmove
    have hpos : s.usableSeatNum ≠ 0 := by omega
    refine ⟨_, sit_counted hc hpos, hseated _ rfl rfl rfl ⟨?_, ?_, ?_, ?_⟩⟩
    · change s.usableSeatNum - 1 = (s.setPassenger i seat unit).usableSeats
      omega
    · change (s.setPassenger i seat unit).seats.size ≤ _
      omega
    · intro hz
      exact if_pos hz
    · intro hr hp
      change (if s.usableSeatNum - 1 = 0 then false else s.clickFlag) = true
      rw [if_neg (Nat.ne_of_gt hp)]
      have hpos' : 0 < s.usableSeatNum := Nat.pos_of_ne_zero hpos
      exact hshown hr hpos'

theorem removePassenger_eq {j : Int} (hu : unit ∈ s.riders)
    (hfind : s.seats.entries.find? (fun e => e.2.passenger == unit) = some (j, seat)) :
    s.removePassenger unit = some (if seat.seatInfo.canEnterOrExit then
      { s.setPassenger j seat 0 with
        usableSeatNum := (s.usableSeatNum + 1) % 2 ^ 32
        clickFlag := if s.usableSeatNum = 0 then true else s.clickFlag }
    else s.setPassenger j seat 0) := by
  simp only [Vehicle.removePassenger, hu, not_true_eq_false, if_false, hfind]
  split <;> rfl

theorem Seated.leave (h : Seated s p) (hu : unit ∈ s.riders) (hf : s.seats.find? i = some seat)
    (hp : seat.passenger = unit) : ∃ s', s.removePassenger unit = some s' ∧
      s'.held = Function.update s.held i none ∧ s'.riders = s.riders ∧ s'.world = s.world ∧
      Counted s' ∧ ∃ seat', s'.seats = s.seats.set i seat' ∧ seat'.passenger = 0 := by
  have h0 := h.nonzero unit hu
  have hheld : s.held i = some unit := held_eq_some.mpr ⟨seat, hf, hp, h0⟩
  have hmem : (i, seat) ∈ s.seats.entries := OrdMap.find?_eq_some.mp hf
  -- the search finds this seat, since the unit has no other
  obtain ⟨⟨j, seat'⟩, hfind⟩ : ∃ e, s.seats.entries.find? (fun e => e.2.passenger == unit) = some e := by
    rw [← Option.isSome_iff_exists, List.find?_isSome]
    exact ⟨_, hmem, by simpa using hp⟩
  have hf' : s.seats.find? j = some seat' := OrdMap.find?_eq_some.mpr (List.mem_of_find?_eq_some hfind)
  have hp' : seat'.passenger = unit := by simpa using List.find?_some hfind
  obtain rfl : j = i := h.single j i unit (held_eq_some.mpr ⟨seat', hf', hp', h0⟩) hheld
  obtain rfl : seat' = seat := Option.some.inj (hf'.symm.trans hf)
  have hmove := usableSeats_setPassenger (p := 0) hf
  have husable : seat'.isUsable = false := by
    rw [VehicleSeat.isUsable, hp']
    simpa using fun _ => h0
  rw [husable] at hmove
  have hcount := h.count
  have hshown := h.shown
  have hclear := h.clear
  have hsize := size_setPassenger (p := 0) hf
  have hle := h.size
  have hbound := usableSeats_le_size (s := s.setPassenger j seat' 0)
  have hmax : MAX_VEHICLE_SEATS = 8 := rfl
  refine ⟨_, removePassenger_eq hu hfind, ?_⟩
  cases hc : seat'.seatInfo.canEnterOrExit with
  | false =>
    rw [hc] at hmove
    simp at hmove
    refine ⟨held_setPassenger j seat' 0, rfl, rfl, ⟨?_, ?_, hclear, hshown⟩, _, rfl, rfl⟩
    · change s.usableSeatNum = (s.setPassenger j seat' 0).usableSeats
      omega
    · change (s.setPassenger j seat' 0).seats.size ≤ _
      omega
  | true =>
    rw [hc] at hmove
    simp at hmove
    have hlt : s.usableSeatNum + 1 < 2 ^ 32 := by omega
    rw [if_pos rfl, Nat.mod_eq_of_lt hlt]
    refine ⟨held_setPassenger j seat' 0, rfl, rfl, ⟨?_, ?_, ?_, ?_⟩, _, rfl, rfl⟩
    · change s.usableSeatNum + 1 = (s.setPassenger j seat' 0).usableSeats
      omega
    · change (s.setPassenger j seat' 0).seats.size ≤ _
      omega
    · intro hz
      cases hz
    · intro hr _
      change (if s.usableSeatNum = 0 then true else s.clickFlag) = true
      split
      · rfl
      next hne => exact hshown hr (Nat.pos_of_ne_zero hne)

theorem exitVehicle_eq (hu : unit ∈ s.riders) : s.exitVehicle unit =
    (s.removePassenger unit).map fun s => { s with riders := s.riders.filter (· ≠ unit) } := by
  simp [Vehicle.exitVehicle, hu]

theorem Seated.exit (h : Seated s unit) (hu : p ∈ s.riders) (hf : s.seats.find? i = some seat)
    (hp : seat.passenger = p) : ∃ s', s.exitVehicle p = some s' ∧ Seated s' unit ∧
      s'.riders = s.riders.filter (· ≠ p) ∧ s'.world = s.world ∧
      ∃ seat', s'.seats = s.seats.set i seat' ∧ seat'.passenger = 0 := by
  have h0 := h.nonzero p hu
  have hheld : s.held i = some p := held_eq_some.mpr ⟨seat, hf, hp, h0⟩
  obtain ⟨s', hs', hheld', hriders, hworld, hcounted, hseat⟩ := h.leave hu hf hp
  refine ⟨{ s' with riders := s'.riders.filter (· ≠ p) }, ?_, ⟨?_, ?_, ?_, ?_, ?_, ?_⟩, ?_, hworld,
    hseat⟩
  · rw [exitVehicle_eq hu, hs']
    rfl
  · exact ⟨hcounted.count, hcounted.size, hcounted.clear, hcounted.shown⟩
  · change Single s'.held
    rw [hheld']
    exact h.single.clear
  · intro j q hq
    change s'.held j = some q at hq
    rw [hheld'] at hq
    have hout := h.single.absent_clear hheld
    obtain ⟨hne, hq'⟩ := held_of_clear hq
    have hqp : q ≠ p := by
      rintro rfl
      exact hout j hq
    simpa [hriders, hqp] using h.riding j q hq'
  · intro q hq hw hne
    obtain ⟨hq, hqp⟩ : q ∈ s.riders ∧ q ≠ p := by simpa [hriders] using hq
    have hw' : q ∈ s.world := hworld ▸ hw
    obtain ⟨j, hj⟩ := h.recorded q hq hw' hne
    have hji : j ≠ i := by
      rintro rfl
      exact hqp (Option.some.inj (hj.symm.trans hheld))
    refine ⟨j, ?_⟩
    change s'.held j = some q
    rw [hheld', Function.update_of_ne hji, hj]
  · change Absent s'.held unit
    rw [hheld']
    exact h.absent.clear
  · intro q hq
    exact h.nonzero q (by simpa [hriders] using (List.mem_filter.mp hq).1)
  · exact congrArg (List.filter (· ≠ p)) hriders

theorem Seated.vacate (h : Seated s unit) (hu : unit ∈ s.riders)
    (hf : s.seats.find? i = some seat)
    (hstale : seat.passenger ≠ 0 → seat.passenger ∉ s.world →
      seat.seatInfo.canEnterOrExit = false) :
    ∃ s', s.vacate i seat = some s' ∧ Seated s' unit ∧ unit ∈ s'.riders ∧
      ∃ seat', s'.seats.find? i = some seat' ∧ seat'.passenger = 0 := by
  rw [Vehicle.vacate]
  by_cases h0 : seat.passenger = 0
  · rw [if_pos h0]
    exact ⟨s, rfl, h, hu, seat, hf, h0⟩
  have hheld : s.held i = some seat.passenger := held_eq_some.mpr ⟨seat, hf, rfl, h0⟩
  have hne : unit ≠ seat.passenger := fun heq => h.absent i (heq ▸ hheld)
  rw [if_neg h0]
  by_cases hw : seat.passenger ∈ s.world
  · rw [if_pos hw]
    obtain ⟨s', hs', hseated, hriders, -, seat', hseats, hempty⟩ :=
      h.exit (h.riding i _ hheld) hf rfl
    refine ⟨s', hs', hseated, ?_, seat', ?_, hempty⟩
    · rw [hriders]
      simpa [hne] using hu
    · rw [hseats, OrdMap.find?_set_same]
  · -- the passenger is gone, and the seat does not count
    rw [if_neg hw]
    have hc := hstale h0 hw
    have hheld' := held_setPassenger (s := s) i seat 0
    rw [if_pos rfl] at hheld'
    have hmove := usableSeats_setPassenger (p := 0) hf
    have husable : seat.isUsable = false := by rw [VehicleSeat.isUsable, hc, Bool.false_and]
    rw [husable, hc] at hmove
    simp at hmove
    refine ⟨_, rfl, ⟨⟨?_, ?_, h.clear, h.shown⟩, ?_, ?_, ?_, ?_, h.nonzero⟩, hu, _,
      OrdMap.find?_set_same, rfl⟩
    · rw [hmove]
      exact h.count
    · rw [size_setPassenger hf]
      exact h.size
    · rw [hheld']
      exact h.single.clear
    · intro j q hq
      rw [hheld'] at hq
      exact h.riding j q (held_of_clear hq).2
    · intro q hq hqw hqu
      obtain ⟨j, hj⟩ := h.recorded q hq hqw hqu
      have hji : j ≠ i := by
        rintro rfl
        rw [hheld] at hj
        exact hw (Option.some.inj hj ▸ hqw)
      exact ⟨j, by rw [hheld', Function.update_of_ne hji, hj]⟩
    · rw [hheld']
      exact h.absent.clear

theorem Seated.addPassenger (h : Seated s unit) (hu : unit ∈ s.riders) (seatId : Int)
    (hstale : ∀ seat, s.seats.find? seatId = some seat → seat.passenger ≠ 0 →
      seat.passenger ∉ s.world → seat.seatInfo.canEnterOrExit = false) :
    s.addPassenger unit seatId = some (false, s) ∨
      ∃ s', s.addPassenger unit seatId = some (true, s') ∧ Kept s' := by
  simp only [Vehicle.addPassenger, hu, not_true_eq_false, if_false]
  by_cases hneg : seatId < 0
  · rw [if_pos hneg]
    cases hfind : s.seats.entries.find? (fun e => e.2.isAvailable) with
    | none => exact .inl rfl
    | some e =>
      have hf : s.seats.find? e.1 = some e.2 :=
        OrdMap.find?_eq_some.mpr (List.mem_of_find?_eq_some hfind)
      have havail : e.2.isAvailable = true :=
        List.find?_some (p := fun e : Int × VehicleSeat => e.2.isAvailable) hfind
      have hempty : e.2.passenger = 0 := by
        rw [VehicleSeat.isAvailable, Bool.and_eq_true] at havail
        simpa using havail.1
      obtain ⟨s', hs', hkept⟩ := h.sit hu hf hempty
      exact .inr ⟨s', by simp only [hs']; rfl, hkept⟩
  · rw [if_neg hneg]
    cases hf : s.seats.find? seatId with
    | none => exact .inl rfl
    | some seat =>
      obtain ⟨s₁, hs₁, h₁, hu₁, seat₁, hf₁, hempty⟩ := h.vacate hu hf (hstale seat hf)
      obtain ⟨s', hs', hkept⟩ := h₁.sit hu₁ hf₁ hempty
      refine .inr ⟨s', ?_, hkept⟩
      simp only [hs₁, hf₁, hempty, ne_eq, not_true_eq_false, if_false, hs']
      rfl

section Search

variable {seats : List (Int × VehicleSeat)} {i₀ k : Nat} {next : Bool}

theorem nextEmptySeat_spec (next : Bool) (hnodup : (seats.map Prod.fst).Nodup) (hi : i₀ < seats.length)
    {seatId : Int} (hid : seats[i₀].1 = seatId) (fuel : Nat) (hk : k + fuel = seats.length)
    (hfuel : 0 < fuel) :
    ∃ r, nextEmptySeat seats seatId next fuel (cyclePos seats.length i₀ next k) = some r ∧
      ((∃ seat, (r, seat) ∈ seats ∧ seat.isAvailable = true) ∨
        r = -1 ∧ ∀ k', k ≤ k' → k' < seats.length → ∀ e,
          seats[cyclePos seats.length i₀ next k']? = some e → e.2.isAvailable = false) := by
  induction fuel generalizing k with
  | zero => cases hfuel
  | succ fuel ih =>
    have hn : 0 < seats.length := Nat.zero_lt_of_lt hi
    have hget : ∀ k, seats[cyclePos seats.length i₀ next k]? =
        some (seats.get ⟨cyclePos seats.length i₀ next k, cyclePos_lt hn i₀ next k⟩) := fun k =>
      List.getElem?_eq_getElem (cyclePos_lt hn i₀ next k)
    rw [nextEmptySeat, hget k]
    simp only
    split
    next havail =>
      exact ⟨_, rfl, .inl ⟨_, List.get_mem seats _, havail⟩⟩
    next hnot =>
      rw [cyclePos_succ hi (by omega), hget (k + 1)]
      simp only
      have hthis : ∀ e, seats[cyclePos seats.length i₀ next k]? = some e →
          e.2.isAvailable = false := by
        intro e he
        rw [hget k] at he
        cases he
        simpa using hnot
      by_cases hlast : k + 1 = seats.length
      · -- the first seat comes again
        have hfirst : cyclePos seats.length i₀ next (k + 1) = i₀ :=
          (cyclePos_eq_iff hi (by omega)).mpr (.inr hlast)
        have heq : (seats.get ⟨_, cyclePos_lt hn i₀ next (k + 1)⟩).1 = seatId := by
          simp only [List.get_eq_getElem, hfirst, hid]
        rw [if_pos heq]
        refine ⟨-1, rfl, .inr ⟨rfl, fun k' hk' hlt e he => ?_⟩⟩
        obtain rfl : k' = k := by omega
        exact hthis e he
      · have hne : (seats.get ⟨_, cyclePos_lt hn i₀ next (k + 1)⟩).1 ≠ seatId := by
          intro heq
          rw [← hid] at heq
          have hmap : (seats.map Prod.fst)[cyclePos seats.length i₀ next (k + 1)]? =
              (seats.map Prod.fst)[i₀]? := by
            rw [List.getElem?_map, List.getElem?_map, hget, List.getElem?_eq_getElem hi]
            exact congrArg some heq
          have hidx : cyclePos seats.length i₀ next (k + 1) = i₀ :=
            (List.getElem?_inj (by simpa using cyclePos_lt hn i₀ next (k + 1)) hnodup).mp hmap
          rcases (cyclePos_eq_iff hi (by omega)).mp hidx with h0 | hn'
          · omega
          · exact hlast hn'
        rw [if_neg hne]
        obtain ⟨r, hr, hspec⟩ := ih (k := k + 1) (by omega) (by omega)
        refine ⟨r, hr, hspec.imp id fun ⟨hr', hall⟩ => ⟨hr', fun k' hk' hlt e he => ?_⟩⟩
        rcases Nat.eq_or_lt_of_le hk' with rfl | hlt'
        · exact hthis e he
        · exact hall k' hlt' hlt e he

end Search

theorem countP_isAvailable_pos : 0 < s.seats.countP VehicleSeat.isAvailable ↔
    ∃ i seat, s.seats.find? i = some seat ∧ seat.isAvailable = true := by
  rw [OrdMap.countP, List.countP_pos_iff]
  constructor
  · rintro ⟨⟨i, seat⟩, hmem, havail⟩
    exact ⟨i, seat, OrdMap.find?_eq_some.mpr hmem, havail⟩
  · rintro ⟨i, seat, hf, havail⟩
    exact ⟨(i, seat), OrdMap.find?_eq_some.mp hf, havail⟩

/-- `GetNextEmptySeat` ends, with -1 or a seat that is available, and not with -1 when there is one
and the seat it starts from exists. -/
theorem getNextEmptySeat_spec (seatId : Int) (next : Bool) :
    ∃ r, s.getNextEmptySeat seatId next = some r ∧
      ((∃ seat, s.seats.find? r = some seat ∧ seat.isAvailable = true) ∨
        r = -1 ∧ ((s.seats.find? seatId).isSome = true →
          ∀ i seat, s.seats.find? i = some seat → seat.isAvailable = false)) := by
  rw [getNextEmptySeat]
  cases hidx : s.seats.entries.findIdx? (fun e => e.1 == seatId) with
  | none =>
    refine ⟨-1, rfl, .inr ⟨rfl, fun hsome => ?_⟩⟩
    obtain ⟨seat, hf⟩ := Option.isSome_iff_exists.mp hsome
    have hmem := OrdMap.find?_eq_some.mp hf
    have hout := List.findIdx?_eq_none_iff.mp hidx _ hmem
    simp at hout
  | some i₀ =>
    obtain ⟨hi, hid, -⟩ := List.findIdx?_eq_some_iff_getElem.mp hidx
    have hstart : cyclePos s.seats.entries.length i₀ next 0 = i₀ := cyclePos_zero hi
    obtain ⟨r, hr, hspec⟩ := nextEmptySeat_spec (k := 0) next OrdMap.keys_nodup hi
      (by simpa using hid) _ (Nat.zero_add _) (Nat.zero_lt_of_lt hi)
    rw [hstart] at hr
    refine ⟨r, hr, hspec.imp ?_ ?_⟩
    · rintro ⟨seat, hmem, havail⟩
      exact ⟨seat, OrdMap.find?_eq_some.mpr hmem, havail⟩
    · rintro ⟨hr', hall⟩
      refine ⟨hr', fun _ i seat hf => ?_⟩
      obtain ⟨j, hj, hget⟩ := List.mem_iff_getElem.mp (OrdMap.find?_eq_some.mp hf)
      obtain ⟨k, hk, hkj⟩ := exists_cyclePos next hi hj
      refine hall k (Nat.zero_le k) hk (i, seat) ?_
      rw [hkj, List.getElem?_eq_getElem hj, hget]

theorem Seated.move (h : Kept s) (hu : unit ∈ s.riders) (hheld : s.held i = some unit)
    {seatId : Int} (hseat : ∃ seat, s.seats.find? seatId = some seat ∧ seat.passenger = 0)
    (hnn : ¬seatId < 0) :
    ∃ s₁ s', s.removePassenger unit = some s₁ ∧ s₁.addPassenger unit seatId = some (true, s') ∧
      Kept s' := by
  obtain ⟨seat, hf, hp, -⟩ := held_eq_some.mp hheld
  obtain ⟨s₁, hs₁, hheld₁, hriders, hworld, hcounted, seat₁, hseats, hempty⟩ := h.leave hu hf hp
  have h₁ : Seated s₁ unit := by
    refine ⟨hcounted, ?_, ?_, ?_, ?_, ?_⟩
    · rw [hheld₁]
      exact h.single.clear
    · intro j q hq
      rw [hheld₁] at hq
      rw [hriders]
      exact h.riding j q (held_of_clear hq).2
    · intro q hq hw hqu
      rw [hriders] at hq
      rw [hworld] at hw
      obtain ⟨j, hj⟩ := h.recorded q hq hw (h.nonzero q hq)
      have hji : j ≠ i := by
        rintro rfl
        exact hqu (Option.some.inj (hj.symm.trans hheld))
      exact ⟨j, by rw [hheld₁, Function.update_of_ne hji, hj]⟩
    · rw [hheld₁]
      exact h.single.absent_clear hheld
    · rw [hriders]
      exact h.nonzero
  have hu₁ : unit ∈ s₁.riders := hriders ▸ hu
  -- the seat is still empty after the unit got up
  have hstill : ∃ seat, s₁.seats.find? seatId = some seat ∧ seat.passenger = 0 := by
    rw [hseats, OrdMap.find?_set]
    split
    · exact ⟨seat₁, rfl, hempty⟩
    · exact hseat
  obtain ⟨seat', hf', hempty'⟩ := hstill
  rcases h₁.addPassenger hu₁ seatId (by simp_all) with hadd | ⟨s', hs', hkept⟩
  · simp only [Vehicle.addPassenger, hu₁, not_true_eq_false, if_false, hnn, hf', Vehicle.vacate,
      hempty', if_true, ne_eq] at hadd
    cases hsit : s₁.sit unit seatId seat' <;> simp [hsit] at hadd
  · exact ⟨s₁, s', hs₁, hs', hkept⟩

theorem Seated.changeSeat (h : Kept s) (hw : unit ∈ s.world) (transSeat seatId : Int)
    (next : Bool) : ∃ s', s.changeSeat unit transSeat seatId next = some s' ∧ Kept s' := by
  rw [Vehicle.changeSeat]
  by_cases hu : unit ∉ s.riders
  · exact ⟨s, by simp [hu], h⟩
  have hu' : unit ∈ s.riders := not_not.mp hu
  obtain ⟨i, hheld⟩ := h.recorded unit hu' hw (h.nonzero unit hu')
  rw [if_neg hu]
  by_cases hneg : seatId < 0
  · rw [if_pos hneg]
    obtain ⟨r, hr, hspec⟩ := getNextEmptySeat_spec (s := s) transSeat next
    simp only [hr]
    by_cases hr0 : r < 0
    · exact ⟨s, by simp [hr0], h⟩
    · rcases hspec with ⟨seat, hf, havail⟩ | ⟨hr', -⟩
      · rw [VehicleSeat.isAvailable, Bool.and_eq_true] at havail
        obtain ⟨s₁, s', hs₁, hs', hkept⟩ :=
          h.move hu' hheld ⟨seat, hf, by simpa using havail.1⟩ hr0
        exact ⟨s', by simp [hr0, hs₁, hs'], hkept⟩
      · omega
  · rw [if_neg hneg]
    by_cases hstay : seatId = transSeat ∨ s.hasEmptySeat seatId = false
    · exact ⟨s, by rw [if_pos hstay], h⟩
    · rw [if_neg hstay]
      have hempty : s.hasEmptySeat seatId = true := by simpa using (not_or.mp hstay).2
      rw [hasEmptySeat] at hempty
      cases hf : s.seats.find? seatId with
      | none => simp [hf] at hempty
      | some seat =>
        simp only [hf, beq_iff_eq] at hempty
        obtain ⟨s₁, s', hs₁, hs', hkept⟩ := h.move hu' hheld ⟨seat, hf, hempty⟩ hneg
        exact ⟨s', by simp [hs₁, hs'], hkept⟩

theorem Seated.removeAura (h : Kept s) (unit : Nat) :
    ∃ s', s.removeAura unit = some s' ∧ Kept s' := by
  rw [Vehicle.removeAura]
  by_cases hw : unit ∉ s.world
  · exact ⟨s, if_pos hw, h⟩
  rw [if_neg hw]
  by_cases hu : unit ∉ s.riders
  · exact ⟨s, by rw [Vehicle.exitVehicle, if_pos hu], h⟩
  have hu' : unit ∈ s.riders := not_not.mp hu
  obtain ⟨i, hheld⟩ := h.recorded unit hu' (not_not.mp hw) (h.nonzero unit hu')
  obtain ⟨seat, hf, hp, -⟩ := held_eq_some.mp hheld
  obtain ⟨s', hs', hkept, -⟩ := h.exit hu' hf hp
  exact ⟨s', hs', hkept⟩

theorem Seated.removeAuras (h : Kept s) (units : List Nat) :
    ∃ s', units.foldlM Vehicle.removeAura s = some s' ∧ Kept s' := by
  induction units generalizing s with
  | nil => exact ⟨s, rfl, h⟩
  | cons unit units ih =>
    obtain ⟨s₁, hs₁, h₁⟩ := h.removeAura unit
    obtain ⟨s', hs', hkept⟩ := ih h₁
    refine ⟨s', ?_, hkept⟩
    rw [List.foldlM_cons, hs₁]
    exact hs'

theorem Seated.board (h : Kept s) (hu : unit ∉ s.riders) (h0 : unit ≠ 0) :
    Seated { s with riders := unit :: s.riders } unit := by
  refine ⟨⟨h.count, h.size, h.clear, h.shown⟩, h.single, ?_, ?_, ?_, ?_⟩
  · intro i p hp
    exact List.mem_cons_of_mem _ (h.riding i p hp)
  · intro p hp hw hne
    rcases List.mem_cons.mp hp with rfl | hp
    · exact absurd rfl hne
    · exact h.recorded p hp hw (h.nonzero p hp)
  · intro i hi
    exact hu (h.riding i unit hi)
  · intro p hp
    rcases List.mem_cons.mp hp with rfl | hp
    · exact h0
    · exact h.nonzero p hp

theorem Seated.enterVehicle (h : Kept s) {transSeat seatId : Int}
    (hm : s.Meets (.enterVehicle unit transSeat seatId)) :
    ∃ s', s.enterVehicle unit transSeat seatId = some s' ∧ Kept s' := by
  obtain ⟨h0, hstale⟩ := hm
  rw [Vehicle.enterVehicle]
  by_cases hw : unit ∉ s.world
  · exact ⟨s, if_pos hw, h⟩
  rw [if_neg hw]
  by_cases hu : unit ∈ s.riders
  · rw [if_pos hu]
    split
    · exact h.changeSeat (not_not.mp hw) transSeat seatId true
    · exact ⟨s, rfl, h⟩
  · rw [if_neg hu]
    rcases (h.board hu h0).addPassenger List.mem_cons_self _ hstale with hadd | ⟨s', hs', hkept⟩
    · simp only [hadd]
      refine ⟨_, rfl, ?_⟩
      have hsame : (unit :: s.riders).filter (· ≠ unit) = s.riders := by
        rw [List.filter_cons_of_neg (by simp), List.filter_eq_self]
        intro p hp
        simpa using fun heq : p = unit => hu (heq ▸ hp)
      rw [hsame]
      exact h
    · simp only [hs']
      exact ⟨s', rfl, hkept⟩

theorem Seated.reset (h : Kept s) : Kept s.reset := by
  refine ⟨⟨h.count, h.size, ?_, ?_⟩, h.single, h.riding, h.recorded, h.absent, h.nonzero⟩
  · intro hz
    have hz' : s.usableSeatNum = 0 := hz
    change (if s.usableSeatNum ≠ 0 then true else s.clickFlag) = false
    rw [if_neg (not_not.mpr hz')]
    exact h.clear hz'
  · intro _ hp
    exact if_pos (Nat.ne_of_gt hp)

theorem Seated.leaveWorld (h : Kept s) (unit : Nat) :
    Kept { s with world := s.world.filter (· ≠ unit) } where
  toCounted := ⟨h.count, h.size, h.clear, h.shown⟩
  single := h.single
  riding := h.riding
  recorded p hp hw hne := h.recorded p hp (List.mem_filter.mp hw).1 hne
  absent := h.absent
  nonzero := h.nonzero

theorem Seated.enterWorld (h : Kept s) {fresh : Bool} (hm : s.Meets (.enterWorld unit fresh)) :
    Kept { s with
      world := unit :: s.world
      riders := if fresh then s.riders.filter (· ≠ unit) else s.riders } := by
  rw [Meets] at hm
  cases fresh with
  | true =>
    rw [if_pos rfl] at hm
    refine ⟨⟨h.count, h.size, h.clear, h.shown⟩, h.single, ?_, ?_, h.absent, ?_⟩
    · intro i p hp
      have hne : p ≠ unit := by
        rintro rfl
        exact hm i hp
      simpa [hne] using h.riding i p hp
    · intro p hp hw hne
      obtain ⟨hp', hpu⟩ : p ∈ s.riders ∧ p ≠ unit := by simpa using hp
      exact h.recorded p hp' (List.mem_of_ne_of_mem hpu hw) hne
    · intro p hp
      exact h.nonzero p (List.mem_filter.mp hp).1
  | false =>
    rw [if_neg (by simp)] at hm
    refine ⟨⟨h.count, h.size, h.clear, h.shown⟩, h.single, h.riding, ?_, h.absent, h.nonzero⟩
    intro p hp hw hne
    rcases List.mem_cons.mp hw with rfl | hw
    · exact hm hp
    · exact h.recorded p hp hw hne

theorem Seated.act (h : Kept s) {e : Event} (hm : s.Meets e) : ∃ s', s.act e = some s' ∧ Kept s' := by
  cases e with
  | enterVehicle unit transSeat seatId => exact h.enterVehicle hm
  | changeSeat unit transSeat seatId next => exact h.changeSeat hm transSeat seatId next
  | removeAura unit => exact h.removeAura unit
  | removeAllPassengers => exact h.removeAuras s.riders
  | reset => exact ⟨_, rfl, h.reset⟩
  | leaveWorld unit => exact ⟨_, rfl, h.leaveWorld unit⟩
  | enterWorld unit fresh => exact ⟨_, rfl, h.enterWorld hm⟩

theorem Seated.step (h : Kept s) {e : Event} (hm : s.Meets e) : Kept (s.step e) := by
  obtain ⟨s', hs', hkept⟩ := h.act hm
  rw [Vehicle.step, hs']
  exact hkept

structure Vacant (s : Vehicle) : Prop where
  count : s.usableSeatNum = s.usableSeats
  vacant : ∀ i, s.held i = none
  clickFlag : s.clickFlag = false
  wasReset : s.wasReset = false
  riders : s.riders = []

theorem Vacant.addSeat (h : Vacant s) (layout : SeatLayout) {j : Fin MAX_VEHICLE_SEATS}
    (hnew : s.seats.find? j.val = none) (hsize : s.seats.size < MAX_VEHICLE_SEATS) :
    Vacant (s.addSeat layout j) ∧ (s.addSeat layout j).seats.size ≤ s.seats.size + 1 ∧
      ∀ i, i ≠ (j.val : Int) → (s.addSeat layout j).seats.find? i = s.seats.find? i := by
  rw [Vehicle.addSeat]
  cases layout j with
  | none => exact ⟨h, Nat.le_succ _, fun _ _ => rfl⟩
  | some veSeat =>
    simp only
    have hcount := h.count
    have hle := usableSeats_le_size (s := s)
    have hmax : MAX_VEHICLE_SEATS = 8 := rfl
    have hmove : (s.seats.set (j.val : Int) ⟨veSeat, 0⟩).countP VehicleSeat.isUsable =
        s.usableSeats + if veSeat.canEnterOrExit then 1 else 0 := by
      have h := OrdMap.countP_set_of_none (p := VehicleSeat.isUsable) (v := ⟨veSeat, 0⟩) hnew
      simpa [VehicleSeat.isUsable, usableSeats] using h
    refine ⟨⟨?_, ?_, h.clickFlag, h.wasReset, h.riders⟩, ?_, ?_⟩
    · change _ = (s.seats.set (j.val : Int) ⟨veSeat, 0⟩).countP VehicleSeat.isUsable
      rw [hmove]
      simp only
      split
      · rw [Nat.mod_eq_of_lt (by omega), hcount]
      · exact hcount
    · intro i
      have hi := h.vacant i
      simp only [heldIn, OrdMap.find?_set] at hi ⊢
      by_cases hij : i = j.val
      · rw [if_pos hij]
        rfl
      · rw [if_neg hij]
        exact hi
    · exact (OrdMap.size_set_of_none hnew).le
    · intro i hi
      exact OrdMap.find?_set_ne hi

theorem Vacant.addSeats {layout : SeatLayout} {js : List (Fin MAX_VEHICLE_SEATS)} (h : Vacant s)
    (hnodup : js.Nodup) (hnew : ∀ j ∈ js, s.seats.find? j.val = none)
    (hsize : s.seats.size + js.length ≤ MAX_VEHICLE_SEATS) :
    Vacant (js.foldl (fun s i => s.addSeat layout i) s) ∧
      (js.foldl (fun s i => s.addSeat layout i) s).seats.size ≤ MAX_VEHICLE_SEATS := by
  induction js generalizing s with
  | nil => exact ⟨h, hsize⟩
  | cons j js ih =>
    obtain ⟨hout, hnodup⟩ := List.nodup_cons.mp hnodup
    rw [List.length_cons] at hsize
    obtain ⟨h', hsize', hother⟩ := h.addSeat layout (hnew j List.mem_cons_self) (by omega)
    refine ih h' hnodup (fun j' hj' => ?_) (Nat.le_trans (Nat.add_le_add_right hsize' _) (by omega))
    have hne : (j'.val : Int) ≠ j.val := by
      intro heq
      have : j' = j := Fin.ext (by exact_mod_cast heq)
      exact hout (this ▸ hj')
    rw [hother _ hne]
    exact hnew j' (List.mem_cons_of_mem _ hj')

theorem vacant_build (layout : SeatLayout) :
    Vacant (build layout) ∧ (build layout).seats.size ≤ MAX_VEHICLE_SEATS := by
  have hempty : Vacant {} := ⟨rfl, fun _ => rfl, rfl, rfl, rfl⟩
  exact hempty.addSeats (List.nodup_finRange MAX_VEHICLE_SEATS) (fun _ _ => rfl) (by simp)

theorem absent_build (layout : SeatLayout) (unit : Nat) : Absent (build layout).held unit := by
  intro i hi
  rw [(vacant_build layout).1.vacant i] at hi
  cases hi

theorem kept_build (layout : SeatLayout) : Kept (build layout) := by
  obtain ⟨h, hsize⟩ := vacant_build layout
  refine ⟨⟨h.count, hsize, fun _ => h.clickFlag, ?_⟩, ?_, ?_, ?_, absent_zero, ?_⟩
  · intro hr
    rw [h.wasReset] at hr
    cases hr
  · intro i j p hi
    exact absurd hi (absent_build layout p i)
  · intro i p hi
    exact absurd hi (absent_build layout p i)
  · intro p hp
    rw [h.riders] at hp
    cases hp
  · intro p hp
    rw [h.riders] at hp
    cases hp

/-- In every run in which no unit takes an enter/exit seat whose passenger has left the world, the
seats are accounted for, no assertion fails, and the search for the next empty seat ends, with one
when there is one. -/
theorem seats_accounted {layout : SeatLayout} {es : List Event}
    (hrun : Run step Meets (build layout) es s) :
    Accounted s ∧ (∀ e, s.Meets e → s.act e ≠ none) ∧
      ∀ seatId next, ∃ r, s.getNextEmptySeat seatId next = some r ∧
        ((s.seats.find? seatId).isSome = true → 0 < s.getAvailableSeatCount →
          ∃ seat, s.seats.find? r = some seat ∧ seat.isAvailable = true) := by
  have h : Kept s := hrun.invariant (fun _ _ h hm => h.step hm) (kept_build layout)
  refine ⟨h.accounted, fun e hm => ?_, fun seatId next => ?_⟩
  · obtain ⟨s', hs', -⟩ := h.act hm
    rw [hs']
    exact Option.some_ne_none s'
  · obtain ⟨r, hr, hspec⟩ := getNextEmptySeat_spec (s := s) seatId next
    refine ⟨r, hr, fun hsome hpos => ?_⟩
    rcases hspec with havail | ⟨-, hall⟩
    · exact havail
    · have hcount : 0 < s.seats.countP VehicleSeat.isAvailable := by
        rw [getAvailableSeatCount] at hpos
        omega
      obtain ⟨i, seat, hf, havail⟩ := countP_isAvailable_pos.mp hcount
      rw [hall hsome i seat hf] at havail
      cases havail

def oneSeat : SeatLayout := fun i =>
  if i.val = 0 then some ⟨VEHICLE_SEAT_FLAG_CAN_ENTER_OR_EXIT, 0⟩ else none

def twoSeats : SeatLayout := fun i =>
  if i.val < 2 then some ⟨VEHICLE_SEAT_FLAG_CAN_ENTER_OR_EXIT, 0⟩ else none

/-- A unit enters, leaves the world, and is still counted. -/
theorem seats_accounted_left :
    Accounted (List.foldl step (build twoSeats)
      [.enterWorld 1 true, .reset, .enterVehicle 1 0 0, .leaveWorld 1]) := by
  have hrun : Run step Meets (build twoSeats)
      [.enterWorld 1 true, .reset, .enterVehicle 1 0 0, .leaveWorld 1] _ :=
    .cons (absent_build twoSeats 1) <| .cons trivial <|
    .cons ⟨by decide, by decide⟩ <| .cons trivial .nil
  exact (seats_accounted hrun).1

/-- The passenger of the seat that another unit takes has left the world: with one seat the
assertion fails, with two the count is one too low. -/
theorem seats_miscounted :
    (let s := List.foldl step (build oneSeat)
      [.enterWorld 1 true, .enterWorld 2 true, .enterVehicle 1 0 0, .leaveWorld 1];
      (s.act (.enterVehicle 2 0 0)).isNone = true) ∧
    (let s := List.foldl step (build twoSeats)
      [.enterWorld 1 true, .enterWorld 2 true, .enterVehicle 1 0 0, .leaveWorld 1,
        .enterVehicle 2 0 0];
      s.usableSeatNum = 0 ∧ s.usableSeats = 1) := by
  decide

end Vehicle

end SkyfireBG
