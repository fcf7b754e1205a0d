import Mathlib.Algebra.Order.Field.Rat
import Mathlib.Order.Lattice.Nat

/-!
# SkyfireBG.Util.TimeString

Durations as text: `secsToTimeString` and `TimeStringToSecs`.

* `timeStringToSecs_groups`  — what the parser makes of digits with units, modulo 2^32.
* `secsToTimeString_groups`  — the short text is made of such groups, and they add up.
* `timeString_roundTrip`     — so the parser reads back what was printed.
-/

namespace SkyfireBG

def MINUTE : Nat := 60

def HOUR : Nat := MINUTE * 60

def DAY : Nat := 24 * 60 * MINUTE

/-- What `ostream` prints for an unsigned number. -/
def decimal (n : Nat) : List Char := Nat.toDigits 10 n

def secsToTimeString (timeInSecs : Nat) (shortText hoursOnly : Bool) : List Char :=
  let secs := timeInSecs % MINUTE
  let minutes := timeInSecs % HOUR / MINUTE
  let hours := timeInSecs % DAY / HOUR
  let days := timeInSecs / DAY
  let unit (short long : String) := if shortText then short.toList else long.toList
  (if days ≠ 0 then decimal days ++ unit "d" " Day(s) " else []) ++
  (if hours ≠ 0 ∨ hoursOnly then decimal hours ++ unit "h" " Hour(s) " else []) ++
  (if ¬ hoursOnly then
    (if minutes ≠ 0 then decimal minutes ++ unit "m" " Minute(s) " else []) ++
    (if secs ≠ 0 ∨ (days = 0 ∧ hours = 0 ∧ minutes = 0) then
      decimal secs ++ unit "s" " Second(s)." else [])
  else [])

/-- The `switch` over the letter of a unit. -/
def multiplierOf : Char → Option Nat
  | 'd' => some DAY
  | 'h' => some HOUR
  | 'm' => some MINUTE
  | 's' => some 1
  | _ => none

/-- The loop of `TimeStringToSecs`. -/
def timeStringLoop (secs buffer : UInt32) : List Char → UInt32
  | [] => secs
  | c :: rest =>
    if c.isDigit then timeStringLoop secs (buffer * 10 + (c.toNat - '0'.toNat).toUInt32) rest
    else
      match multiplierOf c with
      | some multiplier => timeStringLoop (secs + buffer * multiplier.toUInt32) 0 rest
      | none => 0

def timeStringToSecs (timestring : List Char) : UInt32 := timeStringLoop 0 0 timestring

inductive TimeUnit where
  | day | hour | minute | second
deriving DecidableEq, Repr

def TimeUnit.letter : TimeUnit → Char
  | .day => 'd'
  | .hour => 'h'
  | .minute => 'm'
  | .second => 's'

def TimeUnit.secs : TimeUnit → Nat
  | .day => DAY
  | .hour => HOUR
  | .minute => MINUTE
  | .second => 1

structure TimeGroup where
  digits : List Char
  isDigit : ∀ c ∈ digits, c.isDigit = true
  unit : TimeUnit

namespace TimeGroup

def text (g : TimeGroup) : List Char := g.digits ++ [g.unit.letter]

def secs (g : TimeGroup) : Nat := Nat.ofDigitChars 10 g.digits 0 * g.unit.secs

def ofNat (n : Nat) (unit : TimeUnit) : TimeGroup :=
  ⟨decimal n, fun _ hc => Nat.isDigit_of_mem_toDigits (by decide) (by decide) hc, unit⟩

def textOf (gs : List TimeGroup) : List Char := gs.flatMap text

def sumOf (gs : List TimeGroup) : Nat := (gs.map secs).sum

@[simp] theorem secs_ofNat (n : Nat) (unit : TimeUnit) : (ofNat n unit).secs = n * unit.secs := by
  change Nat.ofDigitChars 10 (Nat.toDigits 10 n) 0 * unit.secs = _
  rw [Nat.ofDigitChars_ten_toDigits]

@[simp] theorem text_ofNat (n : Nat) (unit : TimeUnit) :
    (ofNat n unit).text = decimal n ++ [unit.letter] := rfl

@[simp] theorem textOf_nil : textOf [] = [] := rfl

@[simp] theorem textOf_cons (g : TimeGroup) (gs : List TimeGroup) :
    textOf (g :: gs) = g.text ++ textOf gs := List.flatMap_cons ..

@[simp] theorem textOf_append (gs gs' : List TimeGroup) :
    textOf (gs ++ gs') = textOf gs ++ textOf gs' := List.flatMap_append ..

@[simp] theorem sumOf_nil : sumOf [] = 0 := rfl

@[simp] theorem sumOf_cons (g : TimeGroup) (gs : List TimeGroup) :
    sumOf (g :: gs) = g.secs + sumOf gs := List.sum_cons

@[simp] theorem sumOf_append (gs gs' : List TimeGroup) :
    sumOf (gs ++ gs') = sumOf gs + sumOf gs' := by
  rw [sumOf, List.map_append, List.sum_append]
  rfl

end TimeGroup

@[simp] theorem multiplierOf_letter (unit : TimeUnit) :
    multiplierOf unit.letter = some unit.secs := by
  cases unit <;> rfl

theorem isDigit_letter (unit : TimeUnit) : unit.letter.isDigit = false := by
  cases unit <;> rfl

theorem timeStringLoop_digits {digits : List Char} (h : ∀ c ∈ digits, c.isDigit = true)
    (secs : UInt32) (buffer : Nat) (rest : List Char) :
    timeStringLoop secs (UInt32.ofNat buffer) (digits ++ rest) =
      timeStringLoop secs (UInt32.ofNat (Nat.ofDigitChars 10 digits buffer)) rest := by
  induction digits generalizing buffer with
  | nil => rw [List.nil_append, Nat.ofDigitChars_nil]
  | cons c digits ih =>
    have hc := h c (.head _)
    have hstep : UInt32.ofNat buffer * 10 + (c.toNat - '0'.toNat).toUInt32 =
        UInt32.ofNat (10 * buffer + (c.toNat - '0'.toNat)) := by
      rw [UInt32.ofNat_add, UInt32.ofNat_mul, UInt32.mul_comm]
      rfl
    rw [List.cons_append, timeStringLoop, if_pos hc, hstep, Nat.ofDigitChars_cons]
    exact ih (fun d hd => h d (.tail _ hd)) _

theorem timeStringLoop_group (g : TimeGroup) (secs : Nat) (rest : List Char) :
    timeStringLoop (UInt32.ofNat secs) 0 (g.text ++ rest) =
      timeStringLoop (UInt32.ofNat (secs + g.secs)) 0 rest := by
  have hdigits := timeStringLoop_digits g.isDigit (UInt32.ofNat secs) 0 (g.unit.letter :: rest)
  rw [TimeGroup.text, List.append_assoc, List.singleton_append]
  rw [show UInt32.ofNat 0 = 0 from rfl] at hdigits
  rw [hdigits, timeStringLoop, isDigit_letter, multiplierOf_letter]
  rw [TimeGroup.secs, UInt32.ofNat_add, UInt32.ofNat_mul]
  rfl

theorem timeStringToSecs_groups (gs : List TimeGroup) :
    timeStringToSecs (TimeGroup.textOf gs) = UInt32.ofNat (TimeGroup.sumOf gs) := by
  suffices h : ∀ secs, timeStringLoop (UInt32.ofNat secs) 0 (TimeGroup.textOf gs) =
      UInt32.ofNat (secs + TimeGroup.sumOf gs) by
    rw [timeStringToSecs, ← Nat.zero_add (TimeGroup.sumOf gs)]
    exact h 0
  induction gs with
  | nil => intro secs; rfl
  | cons g gs ih =>
    intro secs
    rw [TimeGroup.textOf_cons, timeStringLoop_group, ih, TimeGroup.sumOf_cons, Nat.add_assoc]

/-- A component is left out when it is zero, the seconds only when there is another one. -/
def shortGroups (timeInSecs : Nat) : List TimeGroup :=
  let secs := timeInSecs % MINUTE
  let minutes := timeInSecs % HOUR / MINUTE
  let hours := timeInSecs % DAY / HOUR
  let days := timeInSecs / DAY
  (if days ≠ 0 then [.ofNat days .day] else []) ++
  (if hours ≠ 0 then [.ofNat hours .hour] else []) ++
  (if minutes ≠ 0 then [.ofNat minutes .minute] else []) ++
  (if secs ≠ 0 ∨ (days = 0 ∧ hours = 0 ∧ minutes = 0) then [.ofNat secs .second] else [])

theorem textOf_ite {p : Prop} [Decidable p] (n : Nat) (unit : TimeUnit) :
    TimeGroup.textOf (if p then [.ofNat n unit] else []) =
      if p then decimal n ++ [unit.letter] else [] := by
  split
  · rw [TimeGroup.textOf_cons, TimeGroup.text_ofNat, TimeGroup.textOf_nil, List.append_nil]
  · rfl

theorem sumOf_ite {p : Prop} [Decidable p] {n : Nat} (unit : TimeUnit) (h : ¬ p → n = 0) :
    TimeGroup.sumOf (if p then [.ofNat n unit] else []) = n * unit.secs := by
  split
  · rw [TimeGroup.sumOf_cons, TimeGroup.secs_ofNat, TimeGroup.sumOf_nil, Nat.add_zero]
  · next hp => rw [h hp, Nat.zero_mul, TimeGroup.sumOf_nil]

theorem secsToTimeString_groups (timeInSecs : Nat) :
    secsToTimeString timeInSecs true false = TimeGroup.textOf (shortGroups timeInSecs) := by
  simp only [shortGroups, TimeGroup.textOf_append, textOf_ite, List.append_assoc]
  simp [secsToTimeString, TimeUnit.letter]

theorem sumOf_shortGroups (timeInSecs : Nat) :
    TimeGroup.sumOf (shortGroups timeInSecs) = timeInSecs := by
  simp only [shortGroups, TimeGroup.sumOf_append]
  rw [sumOf_ite .day (by omega), sumOf_ite .hour (by omega), sumOf_ite .minute (by omega),
    sumOf_ite .second (by omega)]
  simp only [TimeUnit.secs, DAY, HOUR, MINUTE]
  omega

/-- The short text of a time below 2^32 is read back as that time, and any digits with units are
read as their sum where it fits into 32 bits. -/
theorem timeString_roundTrip :
    (∀ t : UInt32, timeStringToSecs (secsToTimeString t.toNat true false) = t) ∧
    ∀ gs : List TimeGroup, TimeGroup.sumOf gs < 2 ^ 32 →
      (timeStringToSecs (TimeGroup.textOf gs)).toNat = TimeGroup.sumOf gs := by
  refine ⟨fun t => ?_, fun gs h => ?_⟩
  · rw [secsToTimeString_groups, timeStringToSecs_groups, sumOf_shortGroups, UInt32.ofNat_toNat]
  · rw [timeStringToSecs_groups, UInt32.toNat_ofNat_of_lt' h]

def mixedGroups : List TimeGroup :=
  [⟨['0', '5'], List.all_eq_true.mp rfl, .minute⟩, ⟨['2'], List.all_eq_true.mp rfl, .hour⟩, ⟨['7'], List.all_eq_true.mp rfl, .minute⟩]

theorem timeString_roundTrip_mixed :
    TimeGroup.textOf mixedGroups = ['0', '5', 'm', '2', 'h', '7', 'm'] ∧
    (timeStringToSecs (TimeGroup.textOf mixedGroups)).toNat = TimeGroup.sumOf mixedGroups :=
  ⟨rfl, timeString_roundTrip.2 mixedGroups (by decide)⟩

end SkyfireBG
