import SkyfireBG.Lib.Byte

/-!
# SkyfireBG.Player.Money

`ModifyMoney` and the conversions of amounts on the way to it.
-/

namespace SkyfireBG

def MAX_MONEY_AMOUNT : Nat := 0x7FFFFFFF - 1

/-- A `uint32` converted to `int32`. -/
def toInt32 (n : Nat) : Int :=
  if n % 2 ^ 32 < 2 ^ 31 then (n % 2 ^ 32 : Nat) else (n % 2 ^ 32 : Nat) - 2 ^ 32

/-- `SetMoney` writes the low word of the 64-bit field. -/
def setMoney (money value : Nat) : Nat := money / 2 ^ 32 * 2 ^ 32 + value % 2 ^ 32

def modifyMoney (money : Nat) (d : Int) : Nat :=
  if d < 0 then
    setMoney money (if money > (-d).toNat then (money + d).toNat else 0)
  else if money < ((MAX_MONEY_AMOUNT - d) % 2 ^ 32).toNat then setMoney money (money + d.toNat)
  else setMoney money MAX_MONEY_AMOUNT

theorem setMoney_of_lt {money value : Nat} (hm : money < 2 ^ 32) (hv : value < 2 ^ 32) :
    setMoney money value = value := by
  unfold setMoney
  rw [Nat.div_eq_of_lt hm, Nat.mod_eq_of_lt hv]
  omega

theorem modifyMoney_neg {money amount : Nat} (hm : money ≤ MAX_MONEY_AMOUNT) (h0 : 0 < amount)
    (ha : amount ≤ 2 ^ 31) : modifyMoney money (-(amount : Int)) = money - amount := by
  unfold MAX_MONEY_AMOUNT at hm
  unfold modifyMoney
  rw [if_pos (by omega)]
  by_cases hlt : amount < money
  · rw [if_pos (by omega), setMoney_of_lt (by omega) (by omega)]
    omega
  · rw [if_neg (by omega), setMoney_of_lt (by omega) (by omega)]
    omega

theorem modifyMoney_fits {money amount : Nat} (h : money + amount ≤ MAX_MONEY_AMOUNT) :
    modifyMoney money (amount : Int) = money + amount := by
  unfold MAX_MONEY_AMOUNT at h
  unfold modifyMoney MAX_MONEY_AMOUNT
  rw [if_neg (by omega)]
  by_cases hlt : money + amount < 0x7FFFFFFF - 1
  · rw [if_pos (by omega), setMoney_of_lt (by omega) (by omega)]
    omega
  · rw [if_neg (by omega), setMoney_of_lt (by omega) (by omega)]
    omega

theorem modifyMoney_over {money amount : Nat} (hm : money ≤ MAX_MONEY_AMOUNT)
    (h : MAX_MONEY_AMOUNT < money + amount) (ha : amount < 2 ^ 32) :
    modifyMoney money (toInt32 amount) ≠ money + amount ∨
      MAX_MONEY_AMOUNT < modifyMoney money (toInt32 amount) := by
  have hval : toInt32 amount = if amount < 2 ^ 31 then (amount : Int) else amount - 2 ^ 32 := by
    unfold toInt32
    rw [Nat.mod_eq_of_lt ha]
  unfold MAX_MONEY_AMOUNT at hm h ⊢
  rw [hval]
  by_cases hpos : amount < 2 ^ 31
  · rw [if_pos hpos]
    by_cases hmax : amount = 0x7FFFFFFF
    · have hres : modifyMoney money (amount : Int) = money + amount := by
        unfold modifyMoney MAX_MONEY_AMOUNT
        rw [if_neg (by omega), if_pos (by omega), setMoney_of_lt (by omega) (by omega)]
        omega
      rw [hres]
      omega
    · have hres : modifyMoney money (amount : Int) = 0x7FFFFFFF - 1 := by
        unfold modifyMoney MAX_MONEY_AMOUNT
        rw [if_neg (by omega), if_neg (by omega), setMoney_of_lt (by omega) (by omega)]
      rw [hres]
      omega
  · rw [if_neg hpos]
    have hneg : (amount : Int) - 2 ^ 32 = -((2 ^ 32 - amount : Nat) : Int) := by omega
    rw [hneg, modifyMoney_neg hm (by omega) (by omega)]
    omega

theorem toInt32_of_le {amount : Nat} (h : amount ≤ MAX_MONEY_AMOUNT) : toInt32 amount = amount := by
  unfold MAX_MONEY_AMOUNT at h
  unfold toInt32
  rw [Nat.mod_eq_of_lt (by omega), if_pos (by omega)]

theorem modifyMoney_debit {money amount : Nat} (hm : money ≤ MAX_MONEY_AMOUNT)
    (h : amount ≤ money) : modifyMoney money (-toInt32 amount) + amount = money := by
  rw [toInt32_of_le (Nat.le_trans h hm)]
  by_cases h0 : amount = 0
  · subst h0
    exact modifyMoney_fits hm
  · unfold MAX_MONEY_AMOUNT at hm
    rw [modifyMoney_neg hm (by omega) (by omega)]
    omega

theorem modifyMoney_credit {money amount : Nat} (hm : money ≤ MAX_MONEY_AMOUNT)
    (ha : amount ≤ MAX_MONEY_AMOUNT) : modifyMoney money (toInt32 amount) ≤ money + amount ∧
      modifyMoney money (toInt32 amount) ≤ MAX_MONEY_AMOUNT := by
  rw [toInt32_of_le ha]
  by_cases h : money + amount ≤ MAX_MONEY_AMOUNT
  · rw [modifyMoney_fits h]
    exact ⟨Nat.le_refl _, h⟩
  · unfold MAX_MONEY_AMOUNT at *
    have hmax : modifyMoney money (amount : Int) = 0x7FFFFFFF - 1 := by
      unfold modifyMoney MAX_MONEY_AMOUNT
      rw [if_neg (by omega), if_neg (by omega), setMoney_of_lt (by omega) (by omega)]
    rw [hmax]
    omega

end SkyfireBG
