import SkyfireBG.Lib.Byte
import SkyfireBG.Lib.Persist
import SkyfireBG.Lib.Run

/-!
# SkyfireBG.Player.Currency

The currencies of a player: a total and a weekly count, each below a cap of its own.  A change is
computed with signed numbers of 32 bits, and each cap corrects the other count.

* `modifyCounts_gain`, `modifyCounts_spend` — a change while both counts are below their caps.
* `modifyCurrency_kept`                     — it keeps what the states tell of the rows.
* `currency_capped`                         — runs of changes and saves.
-/

namespace SkyfireBG

namespace Currencies

inductive PlayerCurrencyState where
  | unchanged | changed | new | removed
deriving DecidableEq, Repr

structure PlayerCurrency where
  state : PlayerCurrencyState
  totalCount : UInt32
  weekCount : UInt32
deriving DecidableEq, Repr

/-- A row of `character_currency`. -/
structure CurrencyRow where
  count : UInt32
  thisweek : UInt32
deriving DecidableEq, Repr

structure CurrencyTypesEntry where
  ID : Nat
  TotalCap : UInt32
  WeekCap : UInt32
deriving DecidableEq, Repr

structure CurrencyConfig where
  /-- `uint32(_conquestPointsWeekCap[CP_SOURCE_ARENA] * PLAYER_CURRENCY_PRECISION * rate)` -/
  conquestPointsWeekCap : UInt32
  maxConquestPoints : UInt32
  maxHonorPoints : UInt32
  maxJusticePoints : UInt32
deriving DecidableEq, Repr

def CURRENCY_TYPE_CONQUEST_POINTS : Nat := 390
def CURRENCY_TYPE_HONOR_POINTS : Nat := 392
def CURRENCY_TYPE_JUSTICE_POINTS : Nat := 395
def PLAYER_CURRENCY_PRECISION : UInt32 := 100

namespace CurrencyConfig

def getCurrencyWeekCap (c : CurrencyConfig) (currency : CurrencyTypesEntry) : UInt32 :=
  if currency.ID = CURRENCY_TYPE_CONQUEST_POINTS then c.conquestPointsWeekCap
  else if currency.ID = CURRENCY_TYPE_JUSTICE_POINTS then
    let justicecap := c.maxJusticePoints * PLAYER_CURRENCY_PRECISION
    if justicecap > 0 then justicecap else currency.WeekCap
  else currency.WeekCap

def getCurrencyTotalCap (c : CurrencyConfig) (currency : CurrencyTypesEntry) : UInt32 :=
  if currency.ID = CURRENCY_TYPE_CONQUEST_POINTS then c.maxConquestPoints * PLAYER_CURRENCY_PRECISION
  else if currency.ID = CURRENCY_TYPE_HONOR_POINTS then c.maxHonorPoints * PLAYER_CURRENCY_PRECISION
  else if currency.ID = CURRENCY_TYPE_JUSTICE_POINTS then
    c.maxJusticePoints * PLAYER_CURRENCY_PRECISION
  else currency.TotalCap

end CurrencyConfig

def capCounts (cap : UInt32) (newCount other : Int) : Int × Int :=
  if cap ≠ 0 ∧ int32 cap.toNat < newCount then
    let delta := int32 (newCount - cap.toNat)
    (int32 cap.toNat, int32 (other - delta))
  else (newCount, other)

/-- The part of `ModifyCurrency` that computes the new counts, all of them of type `int32`. -/
def modifyCounts (totalCap weekCap : UInt32) (oldTotalCount oldWeekCount count : Int) : Int × Int :=
  let newTotalCount := int32 (oldTotalCount + count)
  let newTotalCount := if newTotalCount < 0 then 0 else newTotalCount
  let newWeekCount := int32 (oldWeekCount + if count > 0 then count else 0)
  let newWeekCount := if newWeekCount < 0 then 0 else newWeekCount
  let (newTotalCount, newWeekCount) := capCounts totalCap newTotalCount newWeekCount
  let (newWeekCount, newTotalCount) := capCounts weekCap newWeekCount newTotalCount
  (newTotalCount, newWeekCount)

end Currencies

structure Currencies where
  config : Currencies.CurrencyConfig
  m_currencies : OrdMap Nat Currencies.PlayerCurrency := ∅
  rows : OrdMap Nat Currencies.CurrencyRow := ∅

namespace Currencies

section Operations

variable (store : Nat → Option CurrencyTypesEntry) (s : Currencies)

def getCurrency (id : Nat) : UInt32 := (s.m_currencies.find? id).elim 0 (·.totalCount)

def changeCurrency (currency : CurrencyTypesEntry) (count : Int) (cur : PlayerCurrency) :
    PlayerCurrency :=
  let oldTotalCount := int32 cur.totalCount.toNat
  let (newTotalCount, newWeekCount) := modifyCounts (s.config.getCurrencyTotalCap currency)
    (s.config.getCurrencyWeekCap currency) oldTotalCount (int32 cur.weekCount.toNat) count
  if newTotalCount ≠ oldTotalCount then
    { state := if cur.state ≠ .new then .changed else cur.state
      totalCount := .ofInt newTotalCount
      weekCount := .ofInt newWeekCount }
  else cur

/-- The assertion that the currency exists stops the server otherwise, and nothing is stored. -/
def modifyCurrency (id : Nat) (count : Int) : Currencies :=
  if count = 0 then s
  else
    match store id with
    | none => s
    | some currency =>
      let cur := (s.m_currencies.find? id).getD ⟨.new, 0, 0⟩
      { s with m_currencies := s.m_currencies.set id (s.changeCurrency currency count cur) }

def setDifference (id : Nat) (count : UInt32) : Int :=
  int32 (int32 count.toNat - (s.getCurrency id).toNat)

def setCurrency (id : Nat) (count : UInt32) : Currencies :=
  s.modifyCurrency store id (s.setDifference id count)

/-- What `_SaveCurrency` makes of an entry. -/
def saveRule : SaveRule PlayerCurrency CurrencyRow where
  statements cur :=
    match cur.state with
    | .changed => [.update fun _ => ⟨cur.totalCount, cur.weekCount⟩]
    | .new => [.insert ⟨cur.totalCount, cur.weekCount⟩]
    | .unchanged => []
    | .removed => []
  next cur :=
    match cur.state with
    | .removed => none
    | _ => some { cur with state := .unchanged }

def saveCurrency : Currencies :=
  { s with m_currencies := saveRule.entries s.m_currencies
           rows := saveRule.rows s.m_currencies s.rows }

/-- `_LoadCurrency` of a row. -/
def loadEntry (config : CurrencyConfig) (currency : CurrencyTypesEntry) (row : CurrencyRow) :
    PlayerCurrency :=
  let weekCap := config.getCurrencyWeekCap currency
  let totalCap := config.getCurrencyTotalCap currency
  { state := .unchanged
    totalCount := if totalCap = 0 then row.count else if row.count > totalCap then totalCap else row.count
    weekCount :=
      if weekCap = 0 then row.thisweek else if row.thisweek > weekCap then weekCap else row.thisweek }

/-- `_LoadCurrency`.  The row of a currency that does not exist is deleted. -/
def loadCurrency (config : CurrencyConfig) (rows : OrdMap Nat CurrencyRow) : Currencies where
  config := config
  m_currencies := rows.filterMap fun id row => (store id).map (loadEntry config · row)
  rows := rows.filter fun id _ => (store id).isSome

end Operations

end Currencies

inductive CurrencyOp where
  | modifyCurrency (id : Nat) (count : Int32)
  | setCurrency (id : Nat) (count : UInt32)
  | configure (config : Currencies.CurrencyConfig)
  | saveCurrency

namespace Currencies

def step (store : Nat → Option CurrencyTypesEntry) (s : Currencies) : CurrencyOp → Currencies
  | .modifyCurrency id count => s.modifyCurrency store id count.toInt
  | .setCurrency id count => s.setCurrency store id count
  | .configure config => { s with config := config }
  | .saveCurrency => s.saveCurrency

/-! ## The new counts -/

def room (cap held count : Nat) : Nat := if cap = 0 then count else cap - held

def gain (totalCap weekCap total week count : Nat) : Nat :=
  min count (min (room totalCap total count) (room weekCap week count))

section Counts

variable {cap totalCap weekCap : UInt32} {a b : Int} {total week n : Nat}

theorem capCounts_of_le (hcap : cap.toNat < 2 ^ 31) (h : cap.toNat = 0 ∨ a ≤ cap.toNat) :
    capCounts cap a b = (a, b) := by
  rw [capCounts, int32_of_fits (by omega) (by omega), if_neg]
  rintro ⟨hne, hlt⟩
  rcases h with h0 | hle
  · exact hne (UInt32.toNat_inj.mp h0)
  · omega

theorem capCounts_of_gt (hne : cap.toNat ≠ 0) (hlt : cap.toNat < a) (ha : a < 2 ^ 31)
    (hlo : -2 ^ 31 ≤ b - (a - cap.toNat)) (hhi : b < 2 ^ 31) :
    capCounts cap a b = (↑cap.toNat, b - (a - cap.toNat)) := by
  have hcap : cap ≠ 0 := fun h => hne (by rw [h]; rfl)
  rw [capCounts, int32_of_fits (x := cap.toNat) (by omega) (by omega), if_pos ⟨hcap, hlt⟩]
  simp only
  rw [int32_of_fits (x := a - cap.toNat) (by omega) (by omega), int32_of_fits hlo (by omega)]

/-- Both counts rose by `n`, and keep what the cap leaves of it. -/
theorem capCounts_gain {held other : Nat} (hheld : cap.toNat = 0 ∨ held ≤ cap.toNat)
    (hcap : cap.toNat < 2 ^ 31) (hfits : held + n < 2 ^ 31) (hfits' : other + n < 2 ^ 31) :
    capCounts cap ↑(held + n) ↑(other + n) =
      (↑(held + min n (room cap.toNat held n)), ↑(other + min n (room cap.toNat held n))) := by
  by_cases hle : cap.toNat = 0 ∨ held + n ≤ cap.toNat
  · have hall : min n (room cap.toNat held n) = n := by
      rw [room]
      split <;> omega
    rw [hall, capCounts_of_le hcap (by omega)]
  · have hroom : min n (room cap.toNat held n) = cap.toNat - held := by
      rw [room, if_neg (by omega)]
      omega
    rw [hroom, capCounts_of_gt (by omega) (by omega) (by omega) (by omega) (by omega),
      Prod.mk.injEq]
    constructor <;> omega

theorem modifyCounts_gain (hn : 0 < n) (htotal : totalCap.toNat = 0 ∨ total ≤ totalCap.toNat)
    (hweek : weekCap.toNat = 0 ∨ week ≤ weekCap.toNat) (htotalCap : totalCap.toNat < 2 ^ 31)
    (hweekCap : weekCap.toNat < 2 ^ 31) (hfits : total + n < 2 ^ 31) (hfits' : week + n < 2 ^ 31) :
    modifyCounts totalCap weekCap total week n =
      (↑(total + gain totalCap.toNat weekCap.toNat total week n),
        ↑(week + gain totalCap.toNat weekCap.toNat total week n)) := by
  have hgain : gain totalCap.toNat weekCap.toNat total week n =
      min (min n (room totalCap.toNat total n))
        (room weekCap.toNat week (min n (room totalCap.toNat total n))) := by
    simp only [gain, room]
    split <;> split <;> omega
  have hsum : int32 (total + n) = ↑(total + n) := int32_of_fits (by omega) (by omega)
  have hsum' : int32 (week + n) = ↑(week + n) := int32_of_fits (by omega) (by omega)
  rw [modifyCounts, if_pos (show (n : Int) > 0 by omega), hsum, hsum']
  simp only
  rw [if_neg (by omega), if_neg (by omega), capCounts_gain htotal htotalCap hfits hfits']
  simp only
  rw [capCounts_gain hweek hweekCap (by omega) (by omega), hgain]

theorem modifyCounts_spend (hfits : total < 2 ^ 31) (hfits' : week < 2 ^ 31) (hn : n ≤ 2 ^ 31)
    (htotal : totalCap.toNat = 0 ∨ total - n ≤ totalCap.toNat)
    (hweek : weekCap.toNat = 0 ∨ week ≤ weekCap.toNat) (htotalCap : totalCap.toNat < 2 ^ 31)
    (hweekCap : weekCap.toNat < 2 ^ 31) :
    modifyCounts totalCap weekCap total week (-n) = (↑(total - n), ↑week) := by
  have hsum : int32 (total + -n) = total - n := int32_of_fits (by omega) (by omega)
  have hsum' : int32 week = week := int32_of_fits (by omega) (by omega)
  have hclamp : (if (total : Int) - n < 0 then 0 else (total : Int) - n) = ↑(total - n) := by
    split <;> omega
  rw [modifyCounts, if_neg (show ¬-(n : Int) > 0 by omega), hsum, Int.add_zero, hsum']
  simp only
  rw [hclamp, if_neg (by omega), capCounts_of_le htotalCap (by omega)]
  simp only
  rw [capCounts_of_le hweekCap (by omega)]

theorem modifyCounts_full (hn : 0 < n) (hcap : totalCap.toNat ≠ 0) (htotal : total = totalCap.toNat)
    (hweek : week < 2 ^ 31) (hweekCap : weekCap.toNat < 2 ^ 31) (hfits : total + n < 2 ^ 31)
    (hover : 2 ^ 31 ≤ week + n) : (modifyCounts totalCap weekCap total week n).1 = total := by
  have hsum : int32 (total + n) = ↑(total + n) := int32_of_fits (by omega) (by omega)
  have hsum' : int32 (week + n) < 0 := by
    have hwrap : int32 (week + n) = int32 (week + n - 2 ^ 32) := by
      rw [int32, int32, ← Int.sub_mul_bmod_self_left (week + n) (2 ^ 32) 1]
      rfl
    rw [hwrap, int32_of_fits (by omega) (by omega)]
    omega
  rw [modifyCounts, if_pos (show (n : Int) > 0 by omega), hsum]
  simp only
  rw [if_neg (by omega), if_pos hsum', capCounts_of_gt hcap (by omega) (by omega) (by omega) (by omega)]
  simp only
  rw [capCounts_of_le hweekCap (by omega), htotal]

end Counts

/-- The counts, the caps and the change for which the new counts are right: the counts that the caps
apply to are not above them, and nothing exceeds 31 bits. -/
def Fits (totalCap weekCap total week : Nat) (count : Int) : Prop :=
  count = 0 ∨ totalCap < 2 ^ 31 ∧ weekCap < 2 ^ 31 ∧ (weekCap = 0 ∨ week ≤ weekCap) ∧
    if 0 < count then
      (totalCap = 0 ∨ total ≤ totalCap) ∧ total + count < 2 ^ 31 ∧
        (week + count < 2 ^ 31 ∨ totalCap ≠ 0 ∧ total = totalCap)
    else totalCap = 0 ∨ total + count ≤ totalCap

/-- A gain adds the same to both counts, as much as both caps leave room for; spending takes from the
total only. -/
structure Rightly (totalCap weekCap : Nat) (count : Int) (old new : Nat × Nat) : Prop where
  gains : 0 < count → new = (old.1 + gain totalCap weekCap old.1 old.2 count.toNat,
    old.2 + gain totalCap weekCap old.1 old.2 count.toNat)
  capped : 0 < count → (totalCap = 0 ∨ new.1 ≤ totalCap) ∧ (weekCap = 0 ∨ new.2 ≤ weekCap)
  spends : count ≤ 0 → new = (old.1 - count.natAbs, old.2)
  small : new.1 < 2 ^ 31 ∧ new.2 < 2 ^ 31

theorem room_le {cap held : Nat} (count : Nat) (h : cap = 0 ∨ held ≤ cap) :
    cap = 0 ∨ held + room cap held count ≤ cap := by
  rw [room]
  split <;> omega

theorem Rightly.of_gain {totalCap weekCap total week n : Nat} {new : Nat × Nat} (hn : 0 < n)
    (htotal : totalCap = 0 ∨ total ≤ totalCap) (hweek : weekCap = 0 ∨ week ≤ weekCap)
    (hsmall : new.1 < 2 ^ 31 ∧ new.2 < 2 ^ 31)
    (h : new = (total + gain totalCap weekCap total week n,
      week + gain totalCap weekCap total week n)) :
    Rightly totalCap weekCap n (total, week) new where
  gains := fun _ => h
  capped := fun _ => by
    have hle := room_le n htotal
    have hle' := room_le n hweek
    have hg : gain totalCap weekCap total week n ≤ room totalCap total n :=
      (Nat.min_le_right _ _).trans (Nat.min_le_left _ _)
    have hg' : gain totalCap weekCap total week n ≤ room weekCap week n :=
      (Nat.min_le_right _ _).trans (Nat.min_le_right _ _)
    rw [h]
    constructor <;> simp only <;> omega
  spends := fun hle => absurd hle (by omega)
  small := hsmall

theorem ofInt_toNat {n : Nat} (h : n < 2 ^ 32) : (UInt32.ofInt n).toNat = n := by
  have hmod : ((n : Int) % 2 ^ 32).toNat = n := by omega
  rw [UInt32.ofInt, hmod, UInt32.toNat_ofNat_of_lt' h]

variable {store : Nat → Option CurrencyTypesEntry} {s : Currencies} {currency : CurrencyTypesEntry}
  {cur : PlayerCurrency} {count : Int} {id : Nat}

def countsOf (cur : PlayerCurrency) : Nat × Nat := (cur.totalCount.toNat, cur.weekCount.toNat)

def counts (s : Currencies) (id : Nat) : Nat × Nat := (s.m_currencies.find? id).elim (0, 0) countsOf

theorem countsOf_changeCurrency {t w : Nat} (htotal : cur.totalCount.toNat < 2 ^ 31)
    (hweek : cur.weekCount.toNat < 2 ^ 31) (ht : t < 2 ^ 31) (hw : w < 2 ^ 31)
    (hsame : t = cur.totalCount.toNat → w = cur.weekCount.toNat)
    (h : modifyCounts (s.config.getCurrencyTotalCap currency) (s.config.getCurrencyWeekCap currency)
      cur.totalCount.toNat cur.weekCount.toNat count = (↑t, ↑w)) :
    countsOf (s.changeCurrency currency count cur) = (t, w) := by
  rw [changeCurrency, int32_of_fits (x := cur.totalCount.toNat) (by omega) (by omega),
    int32_of_fits (x := cur.weekCount.toNat) (by omega) (by omega), h]
  simp only
  by_cases heq : t = cur.totalCount.toNat
  · rw [if_neg (fun hne => hne (congrArg Nat.cast heq)), countsOf, hsame heq, heq]
  · rw [if_pos (show (t : Int) ≠ cur.totalCount.toNat by omega), countsOf]
    simp only
    rw [ofInt_toNat (by omega), ofInt_toNat (by omega)]

theorem changeCurrency_same (htotal : cur.totalCount.toNat < 2 ^ 31)
    (hweek : cur.weekCount.toNat < 2 ^ 31)
    (h : (modifyCounts (s.config.getCurrencyTotalCap currency)
      (s.config.getCurrencyWeekCap currency) cur.totalCount.toNat cur.weekCount.toNat count).1 =
        cur.totalCount.toNat) : s.changeCurrency currency count cur = cur := by
  rw [changeCurrency, int32_of_fits (x := cur.totalCount.toNat) (by omega) (by omega),
    int32_of_fits (x := cur.weekCount.toNat) (by omega) (by omega)]
  exact if_neg (fun hne => hne h)

theorem changeCurrency_rightly (htotal : cur.totalCount.toNat < 2 ^ 31)
    (hweek : cur.weekCount.toNat < 2 ^ 31) (hlo : -2 ^ 31 ≤ count) (hne : count ≠ 0)
    (h : Fits (s.config.getCurrencyTotalCap currency).toNat
      (s.config.getCurrencyWeekCap currency).toNat cur.totalCount.toNat cur.weekCount.toNat count) :
    Rightly (s.config.getCurrencyTotalCap currency).toNat
      (s.config.getCurrencyWeekCap currency).toNat count (countsOf cur)
      (countsOf (s.changeCurrency currency count cur)) := by
  rcases h with h0 | ⟨htotalCap, hweekCap, hwcap, h⟩
  · exact absurd h0 hne
  by_cases hpos : 0 < count
  · -- a gain
    rw [if_pos hpos] at h
    obtain ⟨htcap, hfits, hfits'⟩ := h
    obtain ⟨n, rfl⟩ := Int.eq_ofNat_of_zero_le (Int.le_of_lt hpos)
    by_cases hover : cur.weekCount.toNat + n < 2 ^ 31
    · have hmin : gain (s.config.getCurrencyTotalCap currency).toNat
          (s.config.getCurrencyWeekCap currency).toNat cur.totalCount.toNat cur.weekCount.toNat n ≤ n :=
        Nat.min_le_left _ _
      have hcounts := countsOf_changeCurrency htotal hweek (by omega) (by omega) (by omega)
        (modifyCounts_gain (by omega) htcap hwcap htotalCap hweekCap (by omega) hover)
      refine Rightly.of_gain (by omega) htcap hwcap ?_ hcounts
      rw [hcounts]
      exact ⟨by simp only; omega, by simp only; omega⟩
    · obtain ⟨hcap, hfull⟩ : (s.config.getCurrencyTotalCap currency).toNat ≠ 0 ∧
          cur.totalCount.toNat = (s.config.getCurrencyTotalCap currency).toNat := by omega
      have hsame := changeCurrency_same htotal hweek
        (modifyCounts_full (n := n) (by omega) hcap hfull hweek hweekCap (by omega) (by omega))
      have hgain : gain (s.config.getCurrencyTotalCap currency).toNat
          (s.config.getCurrencyWeekCap currency).toNat cur.totalCount.toNat cur.weekCount.toNat n =
          0 := by
        rw [gain, room, if_neg hcap, hfull, Nat.sub_self]
        omega
      rw [hsame]
      exact Rightly.of_gain (by omega) htcap hwcap ⟨htotal, hweek⟩ (by rw [hgain]; rfl)
  · -- spending
    rw [if_neg hpos] at h
    obtain ⟨n, rfl⟩ : ∃ n : Nat, count = -n := ⟨count.natAbs, by omega⟩
    have hcounts := countsOf_changeCurrency (s := s) (t := cur.totalCount.toNat - n) htotal hweek
      (by omega) hweek (fun _ => rfl)
      (modifyCounts_spend htotal hweek (by omega) (by omega) hwcap htotalCap hweekCap)
    refine ⟨fun h => absurd h hpos, fun h => absurd h hpos, fun _ => ?_, ?_⟩
    · rw [hcounts, countsOf, Int.natAbs_neg, Int.natAbs_natCast]
    · rw [hcounts]
      exact ⟨by simp only; omega, hweek⟩

/-! ## States and rows -/

def rowOf (cur : PlayerCurrency) : CurrencyRow := ⟨cur.totalCount, cur.weekCount⟩

def Agree : Option PlayerCurrency → Option CurrencyRow → Prop
  | none, row => row = none
  | some cur, row =>
    match cur.state with
    | .unchanged => row = some (rowOf cur)
    | .changed => row ≠ none
    | .new => row = none
    | .removed => False

structure Kept (s : Currencies) : Prop where
  agree : ∀ id, Agree (s.m_currencies.find? id) (s.rows.find? id)
  small : ∀ id cur, s.m_currencies.find? id = some cur →
    cur.totalCount.toNat < 2 ^ 31 ∧ cur.weekCount.toNat < 2 ^ 31

theorem changeCurrency_agree {row : Option CurrencyRow} (h : Agree (some cur) row) :
    Agree (some (s.changeCurrency currency count cur)) row := by
  rw [changeCurrency]
  simp only
  split
  · cases hstate : cur.state <;> simp_all [Agree]
  · exact h

theorem Kept.entry (h : Kept s) (id : Nat) :
    Agree (some ((s.m_currencies.find? id).getD ⟨.new, 0, 0⟩)) (s.rows.find? id) ∧
      countsOf ((s.m_currencies.find? id).getD ⟨.new, 0, 0⟩) = s.counts id ∧
      (s.counts id).1 < 2 ^ 31 ∧ (s.counts id).2 < 2 ^ 31 := by
  have hagree := h.agree id
  rw [counts]
  cases hf : s.m_currencies.find? id with
  | none =>
    rw [hf] at hagree
    exact ⟨hagree, rfl, by decide, by decide⟩
  | some cur =>
    rw [hf] at hagree
    exact ⟨hagree, rfl, h.small id cur hf⟩

def Fitting (store : Nat → Option CurrencyTypesEntry) (s : Currencies) (id : Nat) (count : Int) :
    Prop :=
  ∀ currency, store id = some currency → Fits (s.config.getCurrencyTotalCap currency).toNat
    (s.config.getCurrencyWeekCap currency).toNat (s.counts id).1 (s.counts id).2 count

/-- What a change should do: the counts of the currency are right, and the others as they were. -/
structure Modified (store : Nat → Option CurrencyTypesEntry) (s : Currencies) (id : Nat)
    (count : Int) (s' : Currencies) : Prop where
  rightly : ∀ currency, store id = some currency →
    Rightly (s.config.getCurrencyTotalCap currency).toNat
      (s.config.getCurrencyWeekCap currency).toNat count (s.counts id) (s'.counts id)
  others : ∀ id', id' ≠ id → s'.m_currencies.find? id' = s.m_currencies.find? id'

theorem modifyCurrency_kept (h : Kept s) (hlo : -2 ^ 31 ≤ count) (hfits : Fitting store s id count) :
    Kept (s.modifyCurrency store id count) ∧
      Modified store s id count (s.modifyCurrency store id count) := by
  obtain ⟨hagree, hcounts, htotal, hweek⟩ := h.entry id
  rw [modifyCurrency]
  by_cases hzero : count = 0
  · rw [if_pos hzero, hzero]
    exact ⟨h, fun currency _ => ⟨fun hlt => absurd hlt (by omega), fun hlt => absurd hlt (by omega),
      fun _ => rfl, htotal, hweek⟩, fun _ _ => rfl⟩
  rw [if_neg hzero]
  cases hstore : store id with
  | none =>
    refine ⟨h, fun currency hcurrency => ?_, fun _ _ => rfl⟩
    rw [hstore] at hcurrency
    cases hcurrency
  | some currency =>
    simp only
    have hfits := hfits currency hstore
    generalize (s.m_currencies.find? id).getD ⟨.new, 0, 0⟩ = cur at *
    rw [← hcounts] at hfits htotal hweek
    have hright := changeCurrency_rightly htotal hweek hlo hzero hfits
    refine ⟨⟨fun id' => ?_, fun id' cur' hf => ?_⟩, fun currency' hcurrency => ?_, fun id' hne => ?_⟩
    · simp only [OrdMap.find?_set]
      by_cases hid : id' = id
      · rw [if_pos hid, hid]
        exact changeCurrency_agree hagree
      · rw [if_neg hid]
        exact h.agree id'
    · simp only [OrdMap.find?_set_eq_some] at hf
      rcases hf with ⟨rfl, rfl⟩ | ⟨-, hf⟩
      · exact hright.small
      · exact h.small id' cur' hf
    · rw [hstore] at hcurrency
      cases hcurrency
      rw [← hcounts, counts]
      simp only [OrdMap.find?_set_same, Option.elim_some]
      exact hright
    · exact OrdMap.find?_set_ne hne

theorem saveCurrency_rows (h : Kept s) (id : Nat) :
    s.saveCurrency.rows.find? id = (s.m_currencies.find? id).map rowOf := by
  refine (saveRule.exact _ (fun cur => some (rowOf cur)) (fun cur row hrow => ?_)
    (fun row hrow => hrow) (h.agree id)).trans ?_
  · cases hstate : cur.state <;> cases row <;>
      simp_all [Agree, saveRule, Statement.onAll, Statement.on, rowOf]
  · cases s.m_currencies.find? id <;> rfl

theorem saveCurrency_entries (h : Kept s) (id : Nat) :
    s.saveCurrency.m_currencies.find? id =
      (s.m_currencies.find? id).map fun cur => { cur with state := .unchanged } := by
  have hagree := h.agree id
  rw [saveCurrency, SaveRule.find?_entries]
  cases hf : s.m_currencies.find? id with
  | none => rfl
  | some cur =>
    rw [hf] at hagree
    cases hstate : cur.state <;> simp_all [Agree, saveRule]

theorem saveCurrency_kept (h : Kept s) : Kept s.saveCurrency where
  agree := fun id => by
    rw [saveCurrency_rows h, saveCurrency_entries h]
    cases s.m_currencies.find? id <;> rfl
  small := fun id cur hf => by
    rw [saveCurrency_entries h, Option.map_eq_some_iff] at hf
    obtain ⟨cur', hf', rfl⟩ := hf
    exact h.small id cur' hf'

def Proper (store : Nat → Option CurrencyTypesEntry) (s : Currencies) : CurrencyOp → Prop
  | .modifyCurrency id count => Fitting store s id count.toInt
  | .setCurrency id count => Fitting store s id (s.setDifference id count)
  | .configure _ => True
  | .saveCurrency => True

def StepRight (store : Nat → Option CurrencyTypesEntry) (s : Currencies) (s' : Currencies) :
    CurrencyOp → Prop
  | .modifyCurrency id count => Modified store s id count.toInt s'
  | .setCurrency id count => Modified store s id (s.setDifference id count) s'
  | .configure _ => s'.m_currencies = s.m_currencies
  | .saveCurrency => ∀ id, s'.rows.find? id = (s'.m_currencies.find? id).map rowOf ∧
      s'.counts id = s.counts id

def Loadable (store : Nat → Option CurrencyTypesEntry) (config : CurrencyConfig)
    (rows : OrdMap Nat CurrencyRow) : Prop :=
  ∀ id row currency, rows.find? id = some row → store id = some currency →
    (config.getCurrencyTotalCap currency = 0 ∨ row.count ≤ config.getCurrencyTotalCap currency) ∧
    (config.getCurrencyWeekCap currency = 0 ∨ row.thisweek ≤ config.getCurrencyWeekCap currency) ∧
    row.count.toNat < 2 ^ 31 ∧ row.thisweek.toNat < 2 ^ 31

theorem loadCurrency_kept {config : CurrencyConfig} {rows : OrdMap Nat CurrencyRow}
    (h : Loadable store config rows) : Kept (loadCurrency store config rows) := by
  have hrow : ∀ id row, (loadCurrency store config rows).rows.find? id = some row ↔
      rows.find? id = some row ∧ (store id).isSome = true := fun id row => OrdMap.find?_filter
  have hentry : ∀ id cur, (loadCurrency store config rows).m_currencies.find? id = some cur →
      ∃ row, rows.find? id = some row ∧ (store id).isSome = true ∧
        cur = ⟨.unchanged, row.count, row.thisweek⟩ ∧
        row.count.toNat < 2 ^ 31 ∧ row.thisweek.toNat < 2 ^ 31 := by
    intro id cur hf
    rw [loadCurrency, OrdMap.find?_filterMap, Option.bind_eq_some_iff] at hf
    obtain ⟨row, hrow, hcur⟩ := hf
    obtain ⟨currency, hcurrency, rfl⟩ := Option.map_eq_some_iff.mp hcur
    obtain ⟨htotal, hweek, hsmall⟩ := h id row currency hrow hcurrency
    refine ⟨row, hrow, by rw [hcurrency]; rfl, ?_, hsmall⟩
    have htotal' : ¬row.count > config.getCurrencyTotalCap currency ∨
        config.getCurrencyTotalCap currency = 0 := htotal.symm.imp_left UInt32.not_lt.mpr
    have hweek' : ¬row.thisweek > config.getCurrencyWeekCap currency ∨
        config.getCurrencyWeekCap currency = 0 := hweek.symm.imp_left UInt32.not_lt.mpr
    rcases htotal' with h₁ | h₁ <;> rcases hweek' with h₂ | h₂ <;> simp [loadEntry, h₁, h₂]
  refine ⟨fun id => ?_, fun id cur hf => ?_⟩
  · cases hf : (loadCurrency store config rows).m_currencies.find? id with
    | some cur =>
      obtain ⟨row, hrow', hstore, rfl, -⟩ := hentry id cur hf
      exact (hrow id row).mpr ⟨hrow', hstore⟩
    | none =>
      cases hr : (loadCurrency store config rows).rows.find? id with
      | none => rfl
      | some row =>
        obtain ⟨hrow', hstore⟩ := (hrow id row).mp hr
        obtain ⟨currency, hcurrency⟩ := Option.isSome_iff_exists.mp hstore
        rw [loadCurrency, OrdMap.find?_filterMap, hrow', Option.bind_some, hcurrency] at hf
        cases hf
  · obtain ⟨row, -, -, rfl, hsmall⟩ := hentry id cur hf
    exact hsmall

theorem int32_ge (x : Int) : -2 ^ 31 ≤ int32 x := by
  have h := Int.le_bmod (x := x) (m := 2 ^ 32) (by omega)
  rw [int32]
  omega

theorem step_kept {op : CurrencyOp} (h : Kept s) (hop : Proper store s op) :
    Kept (step store s op) ∧ StepRight store s (step store s op) op := by
  cases op with
  | modifyCurrency id count =>
    have hlo := count.le_toInt
    exact modifyCurrency_kept h (by omega) hop
  | setCurrency id count =>
    have hlo : -2 ^ 31 ≤ s.setDifference id count := by
      rw [setDifference]
      exact int32_ge _
    rw [Proper] at hop
    rw [step, StepRight, setCurrency]
    exact modifyCurrency_kept h hlo hop
  | configure config => exact ⟨⟨h.agree, h.small⟩, rfl⟩
  | saveCurrency =>
    refine ⟨saveCurrency_kept h, fun id => ?_⟩
    rw [counts, counts]
    simp only [step, saveCurrency_rows h, saveCurrency_entries h]
    cases s.m_currencies.find? id <;> exact ⟨rfl, rfl⟩

/-- In a run of changes whose counts and caps fit, with saves in between, every step does what it
should. -/
theorem currency_capped {config : CurrencyConfig} {rows : OrdMap Nat CurrencyRow}
    {ops : List CurrencyOp} (hload : Loadable store config rows)
    (hrun : Run (step store) (Proper store) (loadCurrency store config rows) ops s) :
    ∀ op, Proper store s op → StepRight store s (step store s op) op := by
  have hkept := hrun.invariant (I := Kept) (fun s op h hop => (step_kept h hop).1)
    (loadCurrency_kept hload)
  exact fun op hop => (step_kept hkept hop).2

def conquestStore (id : Nat) : Option CurrencyTypesEntry := if id = 390 then some ⟨390, 0, 0⟩ else none

/-- 900 points are gained below a weekly cap of 1000 and saved: the cap leaves 100 of the next 300. -/
theorem currency_capped_at :
    let s := [CurrencyOp.modifyCurrency 390 900, .saveCurrency].foldl (step conquestStore)
      (loadCurrency conquestStore ⟨1000, 0, 0, 0⟩ ∅)
    StepRight conquestStore s (step conquestStore s (.modifyCurrency 390 300))
        (.modifyCurrency 390 300) ∧
      (step conquestStore s (.modifyCurrency 390 300)).counts 390 = (1000, 1000) := by
  intro s
  have hrun : Run (step conquestStore) (Proper conquestStore)
      (loadCurrency conquestStore ⟨1000, 0, 0, 0⟩ ∅) [.modifyCurrency 390 900, .saveCurrency] s := by
    refine .cons (fun currency hcurrency => ?_) (.cons trivial .nil)
    cases hcurrency
    exact .inr (by decide +kernel)
  refine ⟨currency_capped (fun id row currency hrow _ => ?_) hrun _ fun currency hcurrency => ?_,
    by decide +kernel⟩
  · cases hrow
  · cases hcurrency
    exact .inr (by decide +kernel)

/-- 900 points are gained below a weekly cap of 1000, the cap is lowered to 100, and 200 points are
spent: the cap takes 800 from the total, which wraps below zero. -/
theorem spending_wraps :
    let s := [CurrencyOp.modifyCurrency 390 900, .configure ⟨100, 0, 0, 0⟩].foldl (step conquestStore)
      (loadCurrency conquestStore ⟨1000, 0, 0, 0⟩ ∅)
    s.counts 390 = (900, 900) ∧
      (step conquestStore s (.modifyCurrency 390 (-200))).counts 390 = (4294967196, 100) := by
  decide +kernel

end Currencies

end SkyfireBG
