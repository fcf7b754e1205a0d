import Mathlib.Algebra.BigOperators.Group.Finset.Piecewise
import Mathlib.Algebra.Order.BigOperators.Group.Finset
import SkyfireBG.Lib.Float
import SkyfireBG.Player.Money

/-!
# SkyfireBG.Loot.Shares

`HandleLootMoneyOpcode`: the gold of a loot is shared among the members of a group that are near, and
a part of each share goes on to the bank of the guild.

* `Lawful`                      — what is paid comes from the gold, and what is banked from the player.
* `handleLootMoney_lawful_iff`  — so it is when each player can pay the part for the bank.
-/

namespace SkyfireBG

/-- The gold of the loot, the money of the players, and `m_bankMoney` of the guilds. -/
structure Purses where
  gold : Nat
  money : Nat → Nat
  bank : Nat → Nat

inductive LootedObject where
  | gameobject (found owned near : Bool)
  | corpse (found near : Bool)
  | item (found : Bool)
  | creature (found alive lootForPickPocketed near : Bool)
  | other

/-- What `HandleLootMoneyOpcode` finds. -/
structure MoneyLooting where
  player : Nat
  isRogue : Bool := false
  object : LootedObject
  group : Option (List Nat) := none
  near : Nat → Bool := fun _ => true
  /-- `GetGuildById` of the player's guild. -/
  guild : Nat → Option Nat := fun _ => none
  /-- The total of `SPELL_AURA_DEPOSIT_BONUS_MONEY_IN_GUILD_BANK_ON_LOOT`. -/
  bonus : Nat → Int := fun _ => 0
  /-- A player is linked to his own group, nobody twice, and near himself. -/
  linked : ∀ members, group = some members → members.Nodup ∧ player ∈ members ∧ near player = true

namespace MoneyLooting

variable (c : MoneyLooting)

/-- `shareMoney`, where the player gets at the loot. -/
def shareMoney : Option Bool :=
  match c.object with
  | .gameobject found owned near => if found && (owned || near) then some true else none
  | .corpse found near => if found && near then some false else none
  | .item found => if found then some false else none
  | .creature found alive lootForPickPocketed near =>
    if found && (alive == (c.isRogue && lootForPickPocketed)) && near then some (!alive) else none
  | .other => none

/-- The part of `gold` for the bank of the guild.  The bonus is compared with 1 before it is divided
by 100 when the gold is shared, and after that when it is not. -/
def deposit (shared : Bool) (p gold : Nat) : Option (Nat × Nat) :=
  match c.guild p with
  | none => none
  | some g =>
    let mod := roundSingle (c.bonus p)
    let part := roundSingle (mod / 100)
    if (if shared then mod else part) ≥ 1 then
      some (g, ⌊roundSingle (roundSingle gold * part)⌋₊ % 2 ^ 32)
    else none

def handleMemberDepositMoney (g p amount : Nat) (s : Purses) : Purses :=
  { s with
    bank := Function.update s.bank g ((s.bank g + amount) % 2 ^ 64)
    money := Function.update s.money p (modifyMoney (s.money p) (-toInt32 amount)) }

def pay (shared : Bool) (gold : Nat) (s : Purses) (p : Nat) : Purses :=
  let s := { s with money := Function.update s.money p (modifyMoney (s.money p) (toInt32 gold)) }
  match c.deposit shared p gold with
  | none => s
  | some (g, amount) => handleMemberDepositMoney g p amount s

def paid : Option (List Nat × Bool) :=
  match c.shareMoney with
  | none => none
  | some shareMoney =>
    match if shareMoney then c.group else none with
    | some members => some (members.filter c.near, true)
    | none => some ([c.player], false)

/-- `HandleLootMoneyOpcode`; `none` is a division by zero. -/
def handleLootMoney (s : Purses) : Option Purses :=
  match c.paid with
  | none => some s
  | some (playersNear, true) =>
    if playersNear.length = 0 then none
    else some { playersNear.foldl (c.pay true (s.gold / playersNear.length)) s with gold := 0 }
  | some (players, false) => some { players.foldl (c.pay false s.gold) s with gold := 0 }

def share (s : Purses) : Nat :=
  match c.paid with
  | some (playersNear, true) => s.gold / playersNear.length
  | _ => s.gold

def balance (s : Purses) (p : Nat) : Nat := modifyMoney (s.money p) (toInt32 (c.share s))

def banked (s : Purses) (shared : Bool) (p : Nat) : Nat :=
  ((c.deposit shared p (c.share s)).map Prod.snd).getD 0

/-- The gold is paid out once, and what goes on to the bank is taken from the player's balance. -/
structure Lawful (players : List Nat) (shared : Bool) (s s' : Purses) : Prop where
  emptied : s'.gold = 0
  paidOut : (players.map fun p => (c.balance s p : Int) - s.money p).sum ≤ s.gold
  taken : ∀ p ∈ players, s'.money p + c.banked s shared p ≤ c.balance s p
  total : ∀ (everybody guilds : Finset Nat), (∀ p ∈ players, p ∈ everybody) →
    ∑ p ∈ everybody, s'.money p + ∑ g ∈ guilds, s'.bank g ≤
      ∑ p ∈ everybody, s.money p + ∑ g ∈ guilds, s.bank g + s.gold
  /-- Whoever loots next gets nothing. -/
  again : ∀ c' : MoneyLooting, ∃ s'', c'.handleLootMoney s' = some s'' ∧
    (∀ p, s''.money p ≤ s'.money p) ∧ s''.bank = s'.bank

/-- Each player has the part for the bank, once he is paid.  Only past the limit of money, which a
share of exactly 2 ^ 31 - 1 passes, the sign of the part comes in. -/
def Payable (players : List Nat) (shared : Bool) (s : Purses) : Prop :=
  ∀ p ∈ players, c.banked s shared p ≤ c.balance s p ∧ c.banked s shared p ≤ 2 ^ 31 + 1

end MoneyLooting

structure Purses.InRange (s : Purses) : Prop where
  gold : s.gold < 2 ^ 32
  money : ∀ p, s.money p ≤ MAX_MONEY_AMOUNT
  bank : ∀ g, s.bank g < 2 ^ 64

/-! ## One player -/

section

variable {money amount : Nat}

theorem toInt32_eq (h : amount < 2 ^ 32) :
    toInt32 amount = if amount < 2 ^ 31 then (amount : Int) else amount - 2 ^ 32 := by
  unfold toInt32
  rw [Nat.mod_eq_of_lt h]

theorem modifyMoney_le (hm : money ≤ MAX_MONEY_AMOUNT) (ha : amount < 2 ^ 32) :
    modifyMoney money (toInt32 amount) ≤ money + amount ∧
      modifyMoney money (toInt32 amount) ≤ 2 * MAX_MONEY_AMOUNT + 1 := by
  unfold MAX_MONEY_AMOUNT at hm ⊢
  rw [toInt32_eq ha]
  by_cases hpos : amount < 2 ^ 31
  · rw [if_pos hpos, modifyMoney, if_neg (by omega), MAX_MONEY_AMOUNT]
    split
    · rw [setMoney_of_lt (by omega) (by omega)]
      omega
    · rw [setMoney_of_lt (by omega) (by omega)]
      omega
  · rw [if_neg hpos, modifyMoney, if_pos (by omega)]
    split
    · rw [setMoney_of_lt (by omega) (by omega)]
      omega
    · rw [setMoney_of_lt (by omega) (by omega)]
      omega

theorem modifyMoney_taken_iff (hm : money ≤ 2 * MAX_MONEY_AMOUNT + 1) (ha : amount < 2 ^ 32) :
    modifyMoney money (-toInt32 amount) + amount ≤ money ↔ amount ≤ money ∧ amount ≤ 2 ^ 31 + 1 := by
  unfold MAX_MONEY_AMOUNT at hm
  rw [toInt32_eq ha]
  by_cases hpos : amount < 2 ^ 31
  · rw [if_pos hpos, modifyMoney, MAX_MONEY_AMOUNT]
    by_cases hzero : amount = 0
    · subst hzero
      rw [if_neg (by omega)]
      split
      · rw [setMoney_of_lt (by omega) (by omega)]
        omega
      · rw [setMoney_of_lt (by omega) (by omega)]
        omega
    · rw [if_pos (by omega)]
      split
      · rw [setMoney_of_lt (by omega) (by omega)]
        omega
      · rw [setMoney_of_lt (by omega) (by omega)]
        omega
  · rw [if_neg hpos, modifyMoney, if_neg (by omega), MAX_MONEY_AMOUNT, setMoney, setMoney]
    split <;> omega

theorem modifyMoney_zero (hm : money < 2 ^ 32) : modifyMoney money 0 ≤ money := by
  rw [modifyMoney, if_neg (Int.lt_irrefl 0), MAX_MONEY_AMOUNT]
  split
  · rw [setMoney_of_lt hm (by omega)]
    omega
  · rw [setMoney_of_lt hm (by omega)]
    omega

end

namespace MoneyLooting

variable {c : MoneyLooting} {s : Purses} {shared : Bool} {p gold : Nat} {players : List Nat}

/-- The money of a player after `pay`. -/
def settled (c : MoneyLooting) (shared : Bool) (gold money p : Nat) : Nat :=
  match c.deposit shared p gold with
  | none => modifyMoney money (toInt32 gold)
  | some (_, amount) => modifyMoney (modifyMoney money (toInt32 gold)) (-toInt32 amount)

theorem deposit_lt {g amount : Nat} (h : c.deposit shared p gold = some (g, amount)) :
    amount < 2 ^ 32 := by
  unfold deposit at h
  split at h
  · cases h
  · cases shared <;>
    · simp only [Bool.false_eq_true, if_true, if_false] at h
      split at h
      · cases h
        exact Nat.mod_lt _ (by decide)
      · cases h

theorem pay_money : (c.pay shared gold s p).money =
    Function.update s.money p (c.settled shared gold (s.money p) p) := by
  unfold pay settled
  cases c.deposit shared p gold with
  | none => rfl
  | some d =>
    simp only [handleMemberDepositMoney, Function.update_self, Function.update_idem]

theorem pay_bank (c : MoneyLooting) (shared : Bool) (gold : Nat) (s : Purses) (p : Nat) :
    (c.pay shared gold s p).bank = s.bank ∨
    ∃ g amount, c.deposit shared p gold = some (g, amount) ∧
      (c.pay shared gold s p).bank = Function.update s.bank g ((s.bank g + amount) % 2 ^ 64) := by
  unfold pay
  cases h : c.deposit shared p gold with
  | none => exact .inl rfl
  | some d => exact .inr ⟨d.1, d.2, rfl, rfl⟩

theorem foldl_pay_money (hnodup : players.Nodup) :
    (players.foldl (c.pay shared gold) s).money p =
      if p ∈ players then c.settled shared gold (s.money p) p else s.money p := by
  induction players generalizing s with
  | nil => rfl
  | cons q players ih =>
    obtain ⟨hq, hnodup⟩ := List.nodup_cons.mp hnodup
    rw [List.foldl_cons, ih hnodup, pay_money]
    by_cases heq : p = q
    · subst heq
      rw [if_neg hq, if_pos (.head _), Function.update_self]
    · simp only [Function.update_of_ne heq, List.mem_cons, heq, false_or]

theorem sum_update (f : Nat → Nat) (a v : Nat) (l : Finset Nat) :
    ∑ x ∈ l, Function.update f a v x + (if a ∈ l then f a else 0) =
      ∑ x ∈ l, f x + if a ∈ l then v else 0 := by
  by_cases ha : a ∈ l
  · rw [if_pos ha, if_pos ha, Finset.sum_update_of_mem ha, ← Finset.add_sum_erase l f ha,
      Finset.sdiff_singleton_eq_erase]
    omega
  · rw [if_neg ha, if_neg ha, Finset.sum_update_of_notMem ha]

theorem settled_banked (hshare : c.share s = gold) (hm : s.money p ≤ MAX_MONEY_AMOUNT)
    (hgold : gold < 2 ^ 32) :
    (c.settled shared gold (s.money p) p + c.banked s shared p ≤ c.balance s p ↔
      c.banked s shared p ≤ c.balance s p ∧ c.banked s shared p ≤ 2 ^ 31 + 1) := by
  obtain ⟨-, hle⟩ := modifyMoney_le hm hgold
  unfold settled banked balance
  rw [hshare]
  cases hdep : c.deposit shared p gold with
  | none => simp
  | some d =>
    simp only [Option.map_some, Option.getD_some]
    exact modifyMoney_taken_iff hle (deposit_lt hdep)

theorem pay_banks (c : MoneyLooting) (shared : Bool) (gold : Nat) (s : Purses) (p : Nat)
    (guilds : Finset Nat) : ∑ g ∈ guilds, (c.pay shared gold s p).bank g ≤
      ∑ g ∈ guilds, s.bank g + ((c.deposit shared p gold).map Prod.snd).getD 0 := by
  rcases pay_bank c shared gold s p with hbank | ⟨g, amount, hdep, hbank⟩
  · rw [hbank]
    exact Nat.le_add_right _ _
  · have hsum := sum_update s.bank g ((s.bank g + amount) % 2 ^ 64) guilds
    have hmod := Nat.mod_le (s.bank g + amount) (2 ^ 64)
    rw [hbank, hdep, Option.map_some, Option.getD_some]
    split at hsum <;> omega

theorem pay_total {everybody : Finset Nat} (guilds : Finset Nat) (hp : p ∈ everybody)
    (hm : s.money p ≤ MAX_MONEY_AMOUNT) (hgold : gold < 2 ^ 32)
    (htaken : c.settled shared gold (s.money p) p +
      ((c.deposit shared p gold).map Prod.snd).getD 0 ≤ modifyMoney (s.money p) (toInt32 gold)) :
    ∑ x ∈ everybody, (c.pay shared gold s p).money x +
        ∑ g ∈ guilds, (c.pay shared gold s p).bank g ≤
      ∑ x ∈ everybody, s.money x + ∑ g ∈ guilds, s.bank g + gold := by
  obtain ⟨hle, -⟩ := modifyMoney_le hm hgold
  have hbanks := pay_banks c shared gold s p guilds
  have hsum := sum_update s.money p (c.settled shared gold (s.money p) p) everybody
  rw [if_pos hp, if_pos hp] at hsum
  rw [pay_money]
  omega

theorem foldl_pay_total {everybody : Finset Nat} (guilds : Finset Nat) (hnodup : players.Nodup)
    (hplayers : ∀ p ∈ players, p ∈ everybody) (hm : ∀ p ∈ players, s.money p ≤ MAX_MONEY_AMOUNT)
    (hgold : gold < 2 ^ 32)
    (htaken : ∀ p ∈ players, c.settled shared gold (s.money p) p +
      ((c.deposit shared p gold).map Prod.snd).getD 0 ≤ modifyMoney (s.money p) (toInt32 gold)) :
    ∑ x ∈ everybody, (players.foldl (c.pay shared gold) s).money x +
        ∑ g ∈ guilds, (players.foldl (c.pay shared gold) s).bank g ≤
      ∑ x ∈ everybody, s.money x + ∑ g ∈ guilds, s.bank g + players.length * gold := by
  induction players generalizing s with
  | nil => simp
  | cons q players ih =>
    obtain ⟨hq, hnodup⟩ := List.nodup_cons.mp hnodup
    have hother : ∀ p ∈ players, (c.pay shared gold s q).money p = s.money p := by
      intro p hp
      rw [pay_money, Function.update_of_ne]
      rintro rfl
      exact hq hp
    have hfirst := pay_total guilds (hplayers q (.head _)) (hm q (.head _)) hgold
      (htaken q (.head _))
    have hrest := ih (s := c.pay shared gold s q) hnodup (fun p hp => hplayers p (.tail _ hp))
      (fun p hp => (hother p hp).symm ▸ hm p (.tail _ hp))
      (fun p hp => by rw [hother p hp]; exact htaken p (.tail _ hp))
    rw [List.foldl_cons, List.length_cons, Nat.succ_mul]
    omega

theorem paidOut_le (hm : ∀ p ∈ players, s.money p ≤ MAX_MONEY_AMOUNT) (hgold : gold < 2 ^ 32) :
    (players.map fun p => (modifyMoney (s.money p) (toInt32 gold) : Int) - s.money p).sum ≤
      players.length * gold := by
  induction players with
  | nil => simp
  | cons q players ih =>
    obtain ⟨hle, -⟩ := modifyMoney_le (hm q (.head _)) hgold
    have hrest := ih fun p hp => hm p (.tail _ hp)
    rw [List.map_cons, List.sum_cons, List.length_cons]
    push_cast
    rw [add_mul, one_mul]
    omega

theorem deposit_zero {g amount : Nat} (h : c.deposit shared p 0 = some (g, amount)) :
    amount = 0 := by
  unfold deposit at h
  split at h
  · cases h
  · cases shared <;>
    · simp only [Bool.false_eq_true, if_true, if_false] at h
      split at h
      · cases h
        rw [Nat.cast_zero, roundSingle_zero, zero_mul, roundSingle_zero, Nat.floor_zero, Nat.zero_mod]
      · cases h

structure Fits (s : Purses) : Prop where
  money : ∀ p, s.money p < 2 ^ 32
  bank : ∀ g, s.bank g < 2 ^ 64

theorem modifyMoney_lt {money : Nat} (hm : money < 2 ^ 32) (d : Int) :
    modifyMoney money d < 2 ^ 32 := by
  have hset : ∀ value, setMoney money value < 2 ^ 32 := by
    intro value
    rw [setMoney, Nat.div_eq_of_lt hm]
    omega
  unfold modifyMoney
  split
  · exact hset _
  · split <;> exact hset _

theorem pay_fits (h : Fits s) : Fits (c.pay shared gold s p) := by
  constructor
  · intro q
    rw [pay_money, Function.update_apply]
    split
    · have hbal := modifyMoney_lt (h.money p) (toInt32 gold)
      unfold settled
      cases c.deposit shared p gold with
      | none => exact hbal
      | some d => exact modifyMoney_lt hbal _
    · exact h.money q
  · intro g
    rcases pay_bank c shared gold s p with hbank | ⟨g', amount, -, hbank⟩
    · rw [hbank]
      exact h.bank g
    · rw [hbank, Function.update_apply]
      split
      · exact Nat.mod_lt _ (by decide)
      · exact h.bank g

theorem foldl_pay_fits (h : Fits s) : Fits (players.foldl (c.pay shared gold) s) := by
  induction players generalizing s with
  | nil => exact h
  | cons q players ih => exact ih (pay_fits h)

theorem foldl_pay_zero (h : Fits s) :
    (∀ p, (players.foldl (c.pay shared 0) s).money p ≤ s.money p) ∧
      (players.foldl (c.pay shared 0) s).bank = s.bank := by
  induction players generalizing s with
  | nil => exact ⟨fun _ => Nat.le_refl _, rfl⟩
  | cons q players ih =>
    obtain ⟨hmoney, hbank⟩ := ih (pay_fits h)
    rw [List.foldl_cons]
    have hzero : toInt32 0 = 0 := rfl
    refine ⟨fun p => Nat.le_trans (hmoney p) ?_, hbank.trans ?_⟩
    · rw [pay_money, Function.update_apply]
      split
      · rename_i heq
        subst heq
        have hle := modifyMoney_zero (h.money p)
        unfold settled
        cases hdep : c.deposit shared p 0 with
        | none => rwa [hzero]
        | some d =>
          dsimp only
          rw [deposit_zero hdep, hzero, Int.neg_zero]
          exact Nat.le_trans (modifyMoney_zero (Nat.lt_of_le_of_lt hle (h.money p))) hle
      · exact Nat.le_refl _
    · rcases pay_bank c shared 0 s q with hsame | ⟨g, amount, hdep, hsame⟩
      · exact hsame
      · rw [hsame, deposit_zero hdep, Nat.add_zero, Nat.mod_eq_of_lt (h.bank g),
          Function.update_eq_self]

theorem paid_spec (h : c.paid = some (players, shared)) :
    players.Nodup ∧ 0 < players.length ∧ (shared = false → players.length = 1) := by
  unfold paid at h
  split at h
  · cases h
  · rename_i share hshare
    split at h
    · rename_i members hmembers
      cases h
      have hgroup : c.group = some members := by
        cases share with
        | true => exact hmembers
        | false => cases hmembers
      obtain ⟨hnodup, hmem, hnear⟩ := c.linked members hgroup
      refine ⟨hnodup.filter _, List.length_pos_of_mem (List.mem_filter.mpr ⟨hmem, hnear⟩), nofun⟩
    · cases h
      exact ⟨List.nodup_singleton _, Nat.one_pos, fun _ => rfl⟩

theorem length_mul_share (h : c.paid = some (players, shared)) :
    players.length * c.share s ≤ s.gold ∧ c.share s ≤ s.gold := by
  obtain ⟨-, -, hone⟩ := paid_spec h
  unfold share
  rw [h]
  cases shared with
  | true => exact ⟨Nat.mul_div_le _ _, Nat.div_le_self _ _⟩
  | false =>
    rw [hone rfl, Nat.one_mul]
    exact ⟨Nat.le_refl _, Nat.le_refl _⟩

theorem handleLootMoney_eq (h : c.paid = some (players, shared)) :
    c.handleLootMoney s =
      some { players.foldl (c.pay shared (c.share s)) s with gold := 0 } := by
  obtain ⟨-, hpos, -⟩ := paid_spec h
  unfold handleLootMoney share
  rw [h]
  cases shared with
  | true => exact if_neg (Nat.ne_of_gt hpos)
  | false => rfl

theorem handleLootMoney_none (h : c.paid = none) : c.handleLootMoney s = some s := by
  rw [handleLootMoney, h]

theorem handleLootMoney_again (h : Fits s) (hgold : s.gold = 0) :
    ∃ s', c.handleLootMoney s = some s' ∧ (∀ p, s'.money p ≤ s.money p) ∧ s'.bank = s.bank := by
  cases hpaid : c.paid with
  | none => exact ⟨s, handleLootMoney_none hpaid, fun _ => Nat.le_refl _, rfl⟩
  | some paid =>
    have hshare : c.share s = 0 := by
      have hle := (length_mul_share (s := s) hpaid).2
      omega
    refine ⟨_, handleLootMoney_eq hpaid, ?_⟩
    rw [hshare]
    exact foldl_pay_zero h

/-- Where the loot is got at, the law holds exactly when each player has the part for the bank. -/
theorem handleLootMoney_lawful_iff (c : MoneyLooting) (s : Purses) (hs : s.InRange) :
    (c.paid = none ∧ c.handleLootMoney s = some s) ∨
    ∃ players shared s', c.paid = some (players, shared) ∧ c.handleLootMoney s = some s' ∧
      (c.Lawful players shared s s' ↔ c.Payable players shared s) := by
  cases hpaid : c.paid with
  | none => exact .inl ⟨rfl, handleLootMoney_none hpaid⟩
  | some paid =>
    obtain ⟨players, shared⟩ := paid
    obtain ⟨hnodup, -, -⟩ := paid_spec hpaid
    obtain ⟨hmul, hle⟩ := length_mul_share (s := s) hpaid
    have hshare : c.share s < 2 ^ 32 := Nat.lt_of_le_of_lt hle hs.gold
    refine .inr ⟨players, shared, _, rfl, handleLootMoney_eq hpaid, ?_⟩
    have hmoney : ∀ p ∈ players, (players.foldl (c.pay shared (c.share s)) s).money p =
        c.settled shared (c.share s) (s.money p) p := by
      intro p hp
      rw [foldl_pay_money hnodup, if_pos hp]
    have hbanked : ∀ p, c.settled shared (c.share s) (s.money p) p + c.banked s shared p ≤
        c.balance s p ↔ c.banked s shared p ≤ c.balance s p ∧ c.banked s shared p ≤ 2 ^ 31 + 1 :=
      fun p => settled_banked rfl (hs.money p) hshare
    constructor
    · intro h p hp
      have htaken := h.taken p hp
      dsimp only at htaken
      rw [hmoney p hp] at htaken
      exact (hbanked p).mp htaken
    · intro h
      have htaken : ∀ p ∈ players, c.settled shared (c.share s) (s.money p) p +
          c.banked s shared p ≤ c.balance s p := fun p hp => (hbanked p).mpr (h p hp)
      refine ⟨rfl, ?_, fun p hp => ?_, fun everybody guilds hall => ?_, fun c' => ?_⟩
      · have hsum : (players.map fun p => (c.balance s p : Int) - s.money p).sum ≤
            players.length * c.share s := paidOut_le (fun p _ => hs.money p) hshare
        have hcast : ((players.length * c.share s : Nat) : Int) ≤ s.gold := Int.ofNat_le.mpr hmul
        push_cast at hcast
        exact Int.le_trans hsum hcast
      · dsimp only
        rw [hmoney p hp]
        exact htaken p hp
      · have htotal := foldl_pay_total guilds hnodup hall (fun p _ => hs.money p) hshare htaken
        dsimp only
        omega
      · refine handleLootMoney_again ?_ rfl
        have hfits : Fits s := by
          refine ⟨fun p => ?_, hs.bank⟩
          have hle := hs.money p
          unfold MAX_MONEY_AMOUNT at hle
          omega
        have hpaidfits : Fits (players.foldl (c.pay shared (c.share s)) s) := foldl_pay_fits hfits
        exact ⟨hpaidfits.money, hpaidfits.bank⟩

instance : Decidable (c.Payable players shared s) := by
  unfold Payable
  infer_instance

def guildParty : MoneyLooting where
  player := 1
  object := .creature true false false true
  group := some [2, 1]
  guild := fun _ => some 7
  bonus := fun _ => 10
  linked := by
    intro members h
    cases h
    decide

def purses (gold : Nat) : Purses where
  gold := gold
  money := fun _ => 500
  bank := fun _ => 0

theorem purses_inRange {gold : Nat} (h : gold < 2 ^ 32) : (purses gold).InRange :=
  ⟨h, fun _ => (by decide : 500 ≤ MAX_MONEY_AMOUNT), fun _ => (by decide : 0 < 2 ^ 64)⟩

theorem handleLootMoney_lawful_guild : ∃ s', guildParty.handleLootMoney (purses 1001) = some s' ∧
    guildParty.Lawful [2, 1] true (purses 1001) s' := by
  rcases handleLootMoney_lawful_iff guildParty (purses 1001) (purses_inRange (by decide)) with
    ⟨hnone, -⟩ | ⟨players, shared, s', hpaid, hrun, hiff⟩
  · cases hnone
  · have hpair : ([2, 1], true) = (players, shared) := Option.some.inj hpaid
    cases hpair
    exact ⟨s', hrun, hiff.mpr (by decide +kernel)⟩

def overdrawn : MoneyLooting where
  player := 1
  object := .creature true false false true
  guild := fun _ => some 7
  bonus := fun _ => 200
  linked := by
    intro members h
    cases h

/-- The bank gets 2000 of a loot of 1000 and the 500 that the player has. -/
theorem handleLootMoney_overdrawn : ¬ ∀ (c : MoneyLooting) (s : Purses), s.InRange →
    ∀ players shared s', c.paid = some (players, shared) → c.handleLootMoney s = some s' →
      c.Lawful players shared s s' := by
  intro h
  have htotal := (h overdrawn (purses 1000) (purses_inRange (by decide)) [1] false _ rfl rfl).total
    {1} {7} (by simp)
  revert htotal
  simp only [Finset.sum_singleton]
  decide +kernel

end MoneyLooting

end SkyfireBG
