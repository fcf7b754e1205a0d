import SkyfireBG.Guild.Data
import SkyfireBG.Player.Money

/-!
# SkyfireBG.Guild.Money

What a member may still take today, from each tab and in money.

A value is renewed when it is read more than a day after its last reset.  The guild master's is not
stored and has no limit.
-/

namespace SkyfireBG
namespace Guild

/-- `uint32(::time(NULL) / MINUTE)`. -/
def minutes (now : Nat) : Nat := now / 60 % 2 ^ 32

def resetDue (v : RemainingValue) (now : Nat) : Bool :=
  minutes now > (v.resetTime + 24 * 60) % 2 ^ 32

def dailyLimit (g : Guild) (rankId tabId : Nat) : Nat :=
  if tabId = GUILD_BANK_MAX_TABS then g.getRankBankMoneyPerDay rankId
  else g.getRankBankTabSlotsPerDay rankId tabId

def hidden (g : Guild) (rankId tabId : Nat) : Bool :=
  tabId != GUILD_BANK_MAX_TABS &&
    (g.getRankBankTabRights rankId tabId &&& GUILD_BANK_RIGHT_VIEW_TAB) != GUILD_BANK_RIGHT_VIEW_TAB

namespace Member

def setRemaining (m : Member) (tabId : Nat) (v : RemainingValue) : Member :=
  { m with bankRemaining := fun t => if t = tabId then v else m.bankRemaining t }

/-- `GetBankRemainingValue`: the value and the member with it renewed. -/
def getBankRemainingValue (m : Member) (g : Guild) (tabId now : Nat) : Nat × Member :=
  if m.isRank GR_GUILDMASTER then
    (if tabId = GUILD_BANK_MAX_TABS then GUILD_WITHDRAW_MONEY_UNLIMITED
      else GUILD_WITHDRAW_SLOT_UNLIMITED, m)
  else if g.hidden m.rankId tabId then (0, m)
  else if resetDue (m.bankRemaining tabId) now then
    (g.dailyLimit m.rankId tabId,
      m.setRemaining tabId { value := g.dailyLimit m.rankId tabId, resetTime := minutes now })
  else ((m.bankRemaining tabId).value, m)

/-- `DecreaseBankRemainingValue`, on 32 bits. -/
def decreaseBankRemainingValue (m : Member) (tabId amount : Nat) : Member :=
  m.setRemaining tabId { m.bankRemaining tabId with
    value := ((m.bankRemaining tabId).value + 2 ^ 32 - amount % 2 ^ 32) % 2 ^ 32 }

@[simp] theorem setRemaining_same (m : Member) (t : Nat) (v : RemainingValue) :
    (m.setRemaining t v).bankRemaining t = v := if_pos rfl

theorem setRemaining_ne (m : Member) {t t' : Nat} (v : RemainingValue) (h : t' ≠ t) :
    (m.setRemaining t v).bankRemaining t' = m.bankRemaining t' := if_neg h

end Member

def setMember (g : Guild) (m : Member) : Guild :=
  { g with members :=
      g.members.map (fun x => if lowPart x.guid = lowPart m.guid then m else x) }

/-- `_GetMemberRemainingSlots`, `_GetMemberRemainingMoney`. -/
def getMemberRemaining (g : Guild) (guid tabId now : Nat) : Nat × Guild :=
  match g.getMember guid with
  | some m =>
    let r := m.getBankRemainingValue g tabId now
    (r.1, g.setMember r.2)
  | none => (0, g)

/-- `DecreaseBankRemainingValue` on the member, where there is one. -/
def decreaseRemaining (g : Guild) (guid tabId amount : Nat) : Guild :=
  match g.getMember guid with
  | some m => g.setMember (m.decreaseBankRemainingValue tabId amount)
  | none => g

@[simp] theorem setMember_ranks (g : Guild) (m : Member) : (g.setMember m).ranks = g.ranks := rfl

@[simp] theorem getMemberRemaining_bankMoney (g : Guild) (guid tabId now : Nat) :
    (g.getMemberRemaining guid tabId now).2.bankMoney = g.bankMoney := by
  unfold getMemberRemaining
  cases g.getMember guid <;> rfl

@[simp] theorem decreaseRemaining_bankMoney (g : Guild) (guid tabId amount : Nat) :
    (g.decreaseRemaining guid tabId amount).bankMoney = g.bankMoney := by
  unfold decreaseRemaining
  cases g.getMember guid <;> rfl

end Guild

/-!
## Withdrawals

Deposits and withdrawals of money, from the packet with its 64-bit amount through the 32 bits of the
guild's handlers to the signed 32 bits of `ModifyMoney`.
-/

/-- What a request leaves in the bank and with the player, and whether it went through. -/
structure MoneyResult where
  done : Bool
  guild : Guild
  player : GuildPlayer

namespace Guild

def handleMemberDepositMoney (g : Guild) (p : GuildPlayer) (amount : Nat) : MoneyResult where
  done := true
  guild := { g with bankMoney := (g.bankMoney + amount) % 2 ^ 64 }
  player := { p with money := modifyMoney p.money (-toInt32 amount) }

def handleMemberWithdrawMoney (g : Guild) (guid : Nat) (p : GuildPlayer) (amount : Nat)
    (repair : Bool) (now : Nat) : MoneyResult :=
  if g.bankMoney < amount then ⟨false, g, p⟩
  else if !g.hasRankRight p.rank
      (if repair then GR_RIGHT_WITHDRAW_REPAIR else GR_RIGHT_WITHDRAW_GOLD) then ⟨false, g, p⟩
  else
    let r := g.getMemberRemaining guid GUILD_BANK_MAX_TABS now
    if r.1 = 0 then ⟨false, r.2, p⟩
    else if r.1 < amount then ⟨false, r.2, p⟩
    else
      let g' := if r.1 < GUILD_WITHDRAW_MONEY_UNLIMITED then
          r.2.decreaseRemaining guid GUILD_BANK_MAX_TABS amount else r.2
      { done := true
        guild := { g' with bankMoney := g'.bankMoney - amount }
        player := if repair then p
          else { p with money := modifyMoney p.money (toInt32 amount) } }

end Guild

/-- `_GetPlayerGuild` finds this guild. -/
def inGuild (g : Guild) (p : GuildPlayer) : Bool := p.guildId != 0 && p.guildId == g.id

/-- `HandleGuildBankDepositMoney`; `atBank` is the test on the bank object. -/
def handleGuildBankDepositMoney (g : Guild) (p : GuildPlayer) (atBank : Bool) (money : Nat) :
    MoneyResult :=
  if atBank && (money != 0 && p.money ≥ money) && inGuild g p then
    g.handleMemberDepositMoney p (uint32 money)
  else ⟨false, g, p⟩

def handleGuildBankWithdrawMoney (g : Guild) (guid : Nat) (p : GuildPlayer) (atBank : Bool)
    (money now : Nat) : MoneyResult :=
  if money != 0 && atBank && inGuild g p then
    g.handleMemberWithdrawMoney guid p (uint32 money) false now
  else ⟨false, g, p⟩

/-! ## The requests -/

def depositAllowed (g : Guild) (p : GuildPlayer) (atBank : Bool) (money : Nat) : Bool :=
  atBank && (money != 0 && p.money ≥ money) && inGuild g p

/-- The tests a withdrawal has to pass, the last four on the low 32 bits of the amount. -/
def withdrawAllowed (g : Guild) (guid : Nat) (p : GuildPlayer) (atBank : Bool)
    (money now : Nat) : Bool :=
  money != 0 && atBank && inGuild g p &&
    (g.bankMoney ≥ uint32 money && g.hasRankRight p.rank GR_RIGHT_WITHDRAW_GOLD &&
      ((g.getMemberRemaining guid GUILD_BANK_MAX_TABS now).1 != 0 &&
        (g.getMemberRemaining guid GUILD_BANK_MAX_TABS now).1 ≥ uint32 money))

def Unmoved (g : Guild) (p : GuildPlayer) (r : MoneyResult) : Prop :=
  r.guild.bankMoney = g.bankMoney ∧ r.player.money = p.money

def InRange (r : MoneyResult) : Prop :=
  r.guild.bankMoney < 2 ^ 64 ∧ r.player.money ≤ MAX_MONEY_AMOUNT

/-- A deposit that goes through moves the amount of the packet, one that does not moves nothing. -/
def DepositExact (g : Guild) (p : GuildPlayer) (money : Nat) (r : MoneyResult) : Prop :=
  (if r.done then r.guild.bankMoney = g.bankMoney + money ∧ r.player.money + money = p.money
    else Unmoved g p r) ∧ InRange r

def WithdrawExact (g : Guild) (p : GuildPlayer) (money : Nat) (r : MoneyResult) : Prop :=
  (if r.done then r.guild.bankMoney + money = g.bankMoney ∧ r.player.money = p.money + money
    else Unmoved g p r) ∧ InRange r

section Requests

variable {g : Guild} {guid : Nat} {p : GuildPlayer} {atBank : Bool} {money now : Nat}

theorem deposit_refused (h : depositAllowed g p atBank money = false) :
    handleGuildBankDepositMoney g p atBank money = ⟨false, g, p⟩ := by
  unfold handleGuildBankDepositMoney depositAllowed at *
  rw [h]
  rfl

theorem deposit_allowed (h : depositAllowed g p atBank money = true)
    (hp : p.money ≤ MAX_MONEY_AMOUNT) :
    (handleGuildBankDepositMoney g p atBank money).done = true ∧
    (handleGuildBankDepositMoney g p atBank money).guild.bankMoney =
      (g.bankMoney + money) % 2 ^ 64 ∧
    (handleGuildBankDepositMoney g p atBank money).player.money = p.money - money ∧
      money ≤ p.money := by
  have hres : handleGuildBankDepositMoney g p atBank money =
      g.handleMemberDepositMoney p (uint32 money) := by
    unfold handleGuildBankDepositMoney depositAllowed at *
    rw [h]
    rfl
  unfold depositAllowed at h
  simp only [Bool.and_eq_true, bne_iff_ne, decide_eq_true_eq] at h
  obtain ⟨⟨_, hne, hle⟩, _⟩ := h
  have hsmall : money < 2 ^ 31 := by
    unfold MAX_MONEY_AMOUNT at hp
    omega
  have huint : uint32 money = money := Nat.mod_eq_of_lt (by omega)
  have hint : toInt32 money = money := by
    unfold toInt32
    rw [Nat.mod_eq_of_lt (by omega), if_pos hsmall]
  rw [hres, huint]
  unfold Guild.handleMemberDepositMoney
  rw [hint]
  exact ⟨rfl, rfl, modifyMoney_neg hp (by omega) (by omega), hle⟩

theorem withdraw_refused (h : withdrawAllowed g guid p atBank money now = false) :
    (handleGuildBankWithdrawMoney g guid p atBank money now).done = false ∧
      Unmoved g p (handleGuildBankWithdrawMoney g guid p atBank money now) := by
  unfold handleGuildBankWithdrawMoney
  by_cases hreq : (money != 0 && atBank && inGuild g p) = true
  · rw [if_pos hreq]
    unfold withdrawAllowed at h
    rw [hreq, Bool.true_and] at h
    unfold Guild.handleMemberWithdrawMoney
    simp only [Bool.false_eq_true, if_false]
    by_cases hbank : g.bankMoney < uint32 money
    · rw [if_pos hbank]
      exact ⟨rfl, rfl, rfl⟩
    · rw [if_neg hbank]
      cases hright : g.hasRankRight p.rank GR_RIGHT_WITHDRAW_GOLD with
      | false => exact ⟨rfl, rfl, rfl⟩
      | true =>
        rw [hright] at h
        simp only [Bool.not_true, Bool.false_eq_true, if_false]
        by_cases hzero : (g.getMemberRemaining guid GUILD_BANK_MAX_TABS now).1 = 0
        · rw [if_pos hzero]
          exact ⟨rfl, Guild.getMemberRemaining_bankMoney .., rfl⟩
        · rw [if_neg hzero]
          by_cases hless : (g.getMemberRemaining guid GUILD_BANK_MAX_TABS now).1 < uint32 money
          · rw [if_pos hless]
            exact ⟨rfl, Guild.getMemberRemaining_bankMoney .., rfl⟩
          · simp [hzero, Nat.le_of_not_lt hbank, Nat.le_of_not_lt hless] at h
  · rw [if_neg hreq]
    exact ⟨rfl, rfl, rfl⟩

theorem withdraw_allowed (h : withdrawAllowed g guid p atBank money now = true) :
    (handleGuildBankWithdrawMoney g guid p atBank money now).done = true ∧
    (handleGuildBankWithdrawMoney g guid p atBank money now).guild.bankMoney =
      g.bankMoney - uint32 money ∧
    (handleGuildBankWithdrawMoney g guid p atBank money now).player.money =
      modifyMoney p.money (toInt32 (uint32 money)) ∧
    uint32 money ≤ g.bankMoney ∧ money ≠ 0 := by
  unfold withdrawAllowed at h
  simp only [Bool.and_eq_true, bne_iff_ne, decide_eq_true_eq] at h
  obtain ⟨⟨⟨hne, hat⟩, hin⟩, ⟨hbank, hright⟩, hzero, hless⟩ := h
  unfold handleGuildBankWithdrawMoney
  rw [if_pos (by simp [hne, hat, hin])]
  unfold Guild.handleMemberWithdrawMoney
  simp only [Bool.false_eq_true, if_false, if_neg (Nat.not_lt.mpr hbank), hright, Bool.not_true,
    if_neg hzero, if_neg (Nat.not_lt.mpr hless)]
  refine ⟨trivial, ?_, trivial, hbank, hne⟩
  by_cases hlim : (g.getMemberRemaining guid GUILD_BANK_MAX_TABS now).1 <
      GUILD_WITHDRAW_MONEY_UNLIMITED
  · rw [if_pos hlim, Guild.decreaseRemaining_bankMoney, Guild.getMemberRemaining_bankMoney]
  · rw [if_neg hlim, Guild.getMemberRemaining_bankMoney]

theorem deposit_exact_iff (hb : g.bankMoney < 2 ^ 64) (hp : p.money ≤ MAX_MONEY_AMOUNT) :
    DepositExact g p money (handleGuildBankDepositMoney g p atBank money) ↔
      (depositAllowed g p atBank money = true → g.bankMoney + money < 2 ^ 64) := by
  unfold DepositExact InRange
  cases h : depositAllowed g p atBank money with
  | false =>
    rw [deposit_refused h, if_neg Bool.false_ne_true]
    exact ⟨fun _ hf => absurd hf Bool.false_ne_true, fun _ => ⟨⟨rfl, rfl⟩, hb, hp⟩⟩
  | true =>
    obtain ⟨hdone, hbank, hmoney, hle⟩ := deposit_allowed h hp
    rw [hdone, hbank, hmoney]
    simp only [if_true, true_implies]
    constructor
    · rintro ⟨⟨h1, _⟩, h2, _⟩
      omega
    · intro hlt
      rw [Nat.mod_eq_of_lt hlt]
      omega

theorem withdraw_exact_iff (hb : g.bankMoney < 2 ^ 64) (hp : p.money ≤ MAX_MONEY_AMOUNT) :
    WithdrawExact g p money (handleGuildBankWithdrawMoney g guid p atBank money now) ↔
      (withdrawAllowed g guid p atBank money now = true →
        money < 2 ^ 32 ∧ p.money + money ≤ MAX_MONEY_AMOUNT) := by
  unfold WithdrawExact InRange
  cases h : withdrawAllowed g guid p atBank money now with
  | false =>
    obtain ⟨hdone, hbank, hmoney⟩ := withdraw_refused h
    rw [hdone, if_neg Bool.false_ne_true, hbank, hmoney]
    exact ⟨fun _ hf => absurd hf Bool.false_ne_true, fun _ => ⟨⟨hbank, hmoney⟩, hb, hp⟩⟩
  | true =>
    obtain ⟨hdone, hbank, hmoney, hle, hne⟩ := withdraw_allowed h
    have hlow : uint32 money < 2 ^ 32 := Nat.mod_lt _ (by decide)
    rw [hdone, hbank, hmoney]
    simp only [if_true, true_implies]
    constructor
    · rintro ⟨⟨h1, h2⟩, _, h3⟩
      have heq : uint32 money = money := by omega
      rw [heq] at h2 h3 hlow
      refine ⟨hlow, ?_⟩
      by_contra hover
      have := modifyMoney_over hp (Nat.lt_of_not_le hover) hlow
      omega
    · rintro ⟨h1, h2⟩
      have heq : uint32 money = money := Nat.mod_eq_of_lt h1
      have hint : toInt32 money = money := by
        unfold MAX_MONEY_AMOUNT at h2
        unfold toInt32
        rw [Nat.mod_eq_of_lt h1, if_pos (by omega)]
      rw [heq] at hle ⊢
      rw [hint, modifyMoney_fits h2]
      omega

end Requests

/-- A deposit is exact unless the bank's 64 bits overflow.  A withdrawal is exact unless the amount
has more than 32 bits, or is more than the player can hold. -/
theorem guild_money_exact (g : Guild) (guid : Nat) (p : GuildPlayer) (atBank : Bool)
    (money now : Nat) (hb : g.bankMoney < 2 ^ 64) (hp : p.money ≤ MAX_MONEY_AMOUNT) :
    (DepositExact g p money (handleGuildBankDepositMoney g p atBank money) ↔
      (depositAllowed g p atBank money = true → g.bankMoney + money < 2 ^ 64)) ∧
    (WithdrawExact g p money (handleGuildBankWithdrawMoney g guid p atBank money now) ↔
      (withdrawAllowed g guid p atBank money now = true →
        money < 2 ^ 32 ∧ p.money + money ≤ MAX_MONEY_AMOUNT)) :=
  ⟨deposit_exact_iff hb hp, withdraw_exact_iff hb hp⟩

def richGuild : Guild :=
  { ({ id := 1, leaderGuid := 1 } : Guild).createDefaultGuildRanks with
    bankMoney := 1000, members := [{ guid := 1, name := "Aldor", rankId := GR_GUILDMASTER }] }

theorem guild_money_exact_master :
    (richGuild.bankMoney < 2 ^ 64 ∧ 0 ≤ MAX_MONEY_AMOUNT) ∧
    (DepositExact richGuild { name := "Aldor", guildId := 1 } 5
        (handleGuildBankDepositMoney richGuild { name := "Aldor", guildId := 1 } true 5) ↔
      (depositAllowed richGuild { name := "Aldor", guildId := 1 } true 5 = true →
        richGuild.bankMoney + 5 < 2 ^ 64)) ∧
    (WithdrawExact richGuild { name := "Aldor", guildId := 1 } 5
        (handleGuildBankWithdrawMoney richGuild 1 { name := "Aldor", guildId := 1 } true 5 0) ↔
      (withdrawAllowed richGuild 1 { name := "Aldor", guildId := 1 } true 5 0 = true →
        5 < 2 ^ 32 ∧ 0 + 5 ≤ MAX_MONEY_AMOUNT)) :=
  ⟨by decide, guild_money_exact richGuild 1 { name := "Aldor", guildId := 1 } true 5 0
    (by decide) (by decide)⟩

/-- The master, at the gold limit, withdraws one thousand: the bank loses it and he gets nothing. -/
theorem guild_money_lost :
    let p : GuildPlayer := { name := "Aldor", guildId := 1, money := MAX_MONEY_AMOUNT }
    let r := handleGuildBankWithdrawMoney richGuild 1 p true 1000 0
    r.done = true ∧ richGuild.bankMoney = 1000 ∧ r.guild.bankMoney = 0 ∧
      r.player.money = p.money := by
  decide

end SkyfireBG
