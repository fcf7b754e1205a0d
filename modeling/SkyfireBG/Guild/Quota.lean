import SkyfireBG.Guild.Account
import SkyfireBG.Guild.Vault
import SkyfireBG.Lib.Run

/-!
# SkyfireBG.Guild.Quota

The daily limits of the guild bank, over every sequence of moves and withdrawals.

The right to withdraw is checked at the start of a move and charged at its end, each time with a
read that may renew the value.  A swap checks and charges both ends, a move within a tab neither.

* `Even.exchange`, `Even.swap` — a move pays the debts that it logs.
* `even_step`, `even_run`      — every event, and every run.
* `guild_bank_quota`           — what is left and what was taken are together the limit.
-/

namespace SkyfireBG

section Moves

variable {b₀ b : BankBooks} {m₀ : Guild.Member} {guid a t now debt : Nat}

/-! ## Moves -/

/-- The move takes an item of the end `this` out of tab `t`. -/
def MoveItemData.takesFrom (this other : MoveItemData) (t : Nat) : Bool :=
  match this with
  | .player _ _ => false
  | .bank tabId _ => tabId == t && !other.inTab tabId

def MoveItemData.Valid : MoveItemData → Prop
  | .player _ _ => True
  | .bank tabId _ => tabId ≤ GUILD_BANK_MAX_TABS

/-- What the account of `guid` for tab `t` owes when `a` takes the item of `this` away. -/
def owed (a guid t : Nat) (this other : MoveItemData) : Nat :=
  if lowPart a = lowPart guid ∧ this.takesFrom other t = true then 1 else 0

variable {this other pSrc pDest : MoveItemData} {entry count : Nat}

def MoveItemData.Ends (pSrc pDest : MoveItemData) : Prop :=
  pSrc.Valid ∧ pDest.Valid ∧ ∃ tabId slotId, pSrc = .bank tabId slotId ∨ pDest = .bank tabId slotId

theorem adds_logMove (hends : other.Ends this) :
    b.Adds (b.logMove a this other entry count) (lowPart guid) t (owed a guid t other this) := by
  obtain ⟨hother, hthis, tabId, slotId, hbank⟩ := hends
  cases this with
  | player bag slot =>
    cases other with
    | player bag' slot' => rcases hbank with hbank | hbank <;> cases hbank
    | bank fromId fromSlot =>
      refine adds_logBankEvent hother ?_
      simp [BankRecord.taken, owed, MoveItemData.takesFrom, MoveItemData.inTab]
  | bank tab slot =>
    cases other with
    | player bag' slot' =>
      refine adds_logBankEvent hthis ?_
      simp [BankRecord.taken, owed, MoveItemData.takesFrom]
    | bank fromId fromSlot =>
      refine adds_logBankEvent hother ?_
      simp [BankRecord.taken, owed, MoveItemData.takesFrom, MoveItemData.inTab]

theorem logMove_guild : (b.logMove a this other entry count).guild = b.guild := by
  unfold BankBooks.logMove
  split <;> exact BankBooks.logBankEvent_guild ..

theorem Even.logMove (h : Even b₀ m₀ guid t b debt) (hends : other.Ends this) :
    Even b₀ m₀ guid t (b.logMove a this other entry count) (owed a guid t other this + debt) :=
  h.spend (adds_logMove hends) logMove_guild

theorem Even.charge (h : Even b₀ m₀ guid t b (owed a guid t this other + debt))
    (hb : b₀.guild.Bounded) (hrank : m₀.rankId ≠ GR_GUILDMASTER)
    (hready : this.takesFrom other t = true → Ready b a t now) :
    Even b₀ m₀ guid t (b.charge a now this other) debt := by
  unfold owed at h
  cases this with
  | player bag slot => simpa [BankBooks.charge, MoveItemData.takesFrom] using h
  | bank tabId slot =>
    cases hin : other.inTab tabId with
    | true => simpa [BankBooks.charge, MoveItemData.takesFrom, hin] using h
    | false =>
      simp only [BankBooks.charge, hin, Bool.false_eq_true, if_false]
      by_cases hsame : lowPart a = lowPart guid ∧ tabId = t
      · obtain ⟨hlow, rfl⟩ := hsame
        have htakes : (MoveItemData.bank tabId slot).takesFrom other tabId = true := by
          simp [MoveItemData.takesFrom, hin]
        rw [if_pos ⟨hlow, htakes⟩] at h
        exact h.decreaseSlots hrank (hready htakes) hlow
      · have hno : ¬ (lowPart a = lowPart guid ∧
            (MoveItemData.bank tabId slot).takesFrom other t = true) := by
          simpa [MoveItemData.takesFrom, hin] using hsame
        rw [if_neg hno, Nat.zero_add] at h
        exact h.decreaseSlots_other hb hsame

theorem Even.rights (h : Even b₀ m₀ guid t b 0) (hb : b₀.guild.Bounded) :
    Even b₀ m₀ guid t (b.hasWithdrawRights a now this other).2 0 := by
  unfold BankBooks.hasWithdrawRights
  cases this with
  | player bag slot => exact h
  | bank tabId slot =>
    simp only
    split
    · exact h
    · exact h.read hb (.inl rfl)

theorem ready_of_rights (hclock : now / 60 + 24 * 60 < 2 ^ 32)
    (h : (b.hasWithdrawRights a now this other).1 = true) (ht : this.takesFrom other t = true) :
    Ready (b.hasWithdrawRights a now this other).2 a t now := by
  unfold BankBooks.hasWithdrawRights at h ⊢
  cases this with
  | player bag slot => cases ht
  | bank tabId slot =>
    simp only [MoveItemData.takesFrom, Bool.and_eq_true, beq_iff_eq, Bool.not_eq_true'] at ht
    obtain ⟨rfl, hin⟩ := ht
    simp only [hin, Bool.false_eq_true, if_false, bne_iff_ne] at h ⊢
    exact ready_of_read hclock h

theorem takesFrom_ne (ht : this.takesFrom other t = true) : other.inTab t = false := by
  cases this with
  | player bag slot => cases ht
  | bank tabId slot =>
    simp only [MoveItemData.takesFrom, Bool.and_eq_true, beq_iff_eq, Bool.not_eq_true'] at ht
    obtain ⟨rfl, hin⟩ := ht
    exact hin

theorem Ready.rights_other (h : Ready b a t now) (ht : other.inTab t = false) :
    Ready (b.hasWithdrawRights a now other this).2 a t now := by
  unfold BankBooks.hasWithdrawRights
  cases other with
  | player bag slot => exact h
  | bank tabId slot =>
    have hne : tabId ≠ t := by simpa [MoveItemData.inTab] using ht
    simp only
    split
    · exact h
    · exact h.read_other hne

theorem Ready.charge_other (h : Ready b a t now) (ht : other.inTab t = false) :
    Ready (b.charge a now other this) a t now := by
  unfold BankBooks.charge
  cases other with
  | player bag slot => exact h
  | bank tabId slot =>
    have hne : tabId ≠ t := by simpa [MoveItemData.inTab] using ht
    simp only
    split
    · exact h
    · exact h.decreaseSlots_other hne

theorem Ready.logMove (h : Ready b a t now) : Ready (b.logMove a this other entry count) a t now := by
  obtain ⟨m, hm, hready⟩ := h
  unfold Ready
  rw [logMove_guild]
  exact ⟨m, hm, hready⟩

theorem Even.exchange (h : Even b₀ m₀ guid t b 0) (hb : b₀.guild.Bounded)
    (hrank : m₀.rankId ≠ GR_GUILDMASTER) (hends : pSrc.Ends pDest)
    (hready : pSrc.takesFrom pDest t = true → Ready b a t now) :
    Even b₀ m₀ guid t ((b.logMove a pDest pSrc entry count).charge a now pSrc pDest) 0 :=
  (h.logMove hends).charge hb hrank (fun ht => (hready ht).logMove)

theorem MoveItemData.Ends.symm (h : pSrc.Ends pDest) : pDest.Ends pSrc := by
  obtain ⟨h₁, h₂, tabId, slotId, h₃⟩ := h
  exact ⟨h₂, h₁, tabId, slotId, h₃.symm⟩

theorem Even.swap {entry' count' : Nat} (h : Even b₀ m₀ guid t b 0) (hb : b₀.guild.Bounded)
    (hrank : m₀.rankId ≠ GR_GUILDMASTER) (hends : pSrc.Ends pDest)
    (hsrc : pSrc.takesFrom pDest t = true → Ready b a t now)
    (hdest : pDest.takesFrom pSrc t = true → Ready b a t now) :
    Even b₀ m₀ guid t ((((b.logMove a pDest pSrc entry count).logMove a pSrc pDest entry'
      count').charge a now pSrc pDest).charge a now pDest pSrc) 0 := by
  have hlogged : Even b₀ m₀ guid t ((b.logMove a pDest pSrc entry count).logMove a pSrc pDest
      entry' count') (owed a guid t pDest pSrc + (owed a guid t pSrc pDest + 0)) :=
    (h.logMove hends).logMove hends.symm
  rw [Nat.add_left_comm] at hlogged
  refine (hlogged.charge hb hrank (fun ht => (hsrc ht).logMove.logMove)).charge hb hrank ?_
  intro ht
  exact (hdest ht).logMove.logMove.charge_other (takesFrom_ne ht)

theorem adds_charge (h : this.takesFrom other t = true → b.guild.renews a t now = false) {low : Nat} :
    b.Adds (b.charge a now this other) low t 0 := by
  unfold BankBooks.charge
  cases this with
  | player bag slot => exact .of_records rfl
  | bank tabId slot =>
    cases hin : other.inTab tabId with
    | true => simpa only [hin, if_true] using .of_records rfl
    | false =>
      simp only [hin, Bool.false_eq_true, if_false]
      refine adds_decreaseSlots fun ht => ?_
      subst ht
      exact h (by simp [MoveItemData.takesFrom, hin])

theorem adds_rights (ht : this.inTab t = false) {low : Nat} :
    b.Adds (b.hasWithdrawRights a now this other).2 low t 0 := by
  unfold BankBooks.hasWithdrawRights
  cases this with
  | player bag slot => exact .of_records rfl
  | bank tabId slot =>
    have hne : tabId ≠ t := by simpa [MoveItemData.inTab] using ht
    simp only
    split
    · exact .of_records rfl
    · exact adds_read_other hne

theorem rights_of_takesFrom (ht : this.takesFrom other t = true) :
    (b.hasWithdrawRights a now this other).2 = (b.getMemberRemaining a t now).2 := by
  cases this with
  | player bag slot => cases ht
  | bank tabId slot =>
    simp only [MoveItemData.takesFrom, Bool.and_eq_true, beq_iff_eq, Bool.not_eq_true'] at ht
    obtain ⟨rfl, hin⟩ := ht
    simp [BankBooks.hasWithdrawRights, hin]

theorem renews_rights {m : Guild.Member} (hm : b.guild.getMember a = some m)
    (ht : this.inTab t = false) :
    (b.hasWithdrawRights a now this other).2.guild.renews a t now = b.guild.renews a t now := by
  unfold BankBooks.hasWithdrawRights
  cases this with
  | player bag slot => rfl
  | bank tabId slot =>
    have hne : tabId ≠ t := by simpa [MoveItemData.inTab] using ht
    simp only
    split
    · rfl
    · exact renews_read_other hm hne

theorem takesFrom_of_inTab (ht : this.inTab t = true) (hother : other.inTab t = false) :
    this.takesFrom other t = true := by
  cases this with
  | player bag slot => cases ht
  | bank tabId slot =>
    have htab : tabId = t := by simpa [MoveItemData.inTab] using ht
    subst htab
    simp [MoveItemData.takesFrom, hother]

theorem takesFrom_elsewhere (ht : this.inTab t = false) : this.takesFrom other t = false := by
  cases this with
  | player bag slot => rfl
  | bank tabId slot =>
    have hne : tabId ≠ t := by simpa [MoveItemData.inTab] using ht
    simp [MoveItemData.takesFrom, hne]

theorem value_of_read {m : Guild.Member} (hm : b.guild.getMember a = some m)
    (hrank : m.rankId ≠ GR_GUILDMASTER) (h0 : (b.getMemberRemaining a t now).1 ≠ 0) :
    ∃ m', (b.getMemberRemaining a t now).2.guild.getMember a = some m' ∧
      (m'.bankRemaining t).value = (b.getMemberRemaining a t now).1 := by
  have h0' : (b.guild.getMemberRemaining a t now).1 ≠ 0 := h0
  cases hr : b.guild.renews a t now with
  | true =>
    have hval : (b.getMemberRemaining a t now).1 = b.guild.dailyLimit m.rankId t := by
      simp [BankBooks.getMemberRemaining, Guild.remaining_renewed hm hr]
    rw [hval, read_renewed hm hr]
    exact ⟨_, Guild.getMember_setMember_same hm rfl rfl, by rw [Guild.Member.setRemaining_same]⟩
  | false =>
    have hg : (b.getMemberRemaining a t now).2.guild = b.guild.setMember m :=
      Guild.remaining_kept hm hr
    refine ⟨m, ?_, (Guild.remaining_value hm hr hrank h0').symm⟩
    rw [hg]
    exact (Guild.getMember_setMember_self hm).trans hm

theorem taken_money {repair : Bool} {low tabId g amount count dest : Nat} :
    (BankRecord.event (if repair then .repairMoney else .withdrawMoney) tabId g amount count
      dest).taken low t = if g = low ∧ t = GUILD_BANK_MAX_TABS then amount else 0 := by
  cases repair <;> rfl

theorem Even.payMoney (h : Even b₀ m₀ guid t b 0) {amount value : Nat} {repair : Bool}
    (hvalue : lowPart a = lowPart guid → ∃ m, b.guild.getMember a = some m ∧
      (m.bankRemaining GUILD_BANK_MAX_TABS).value = value) (hn : amount ≤ value) :
    Even b₀ m₀ guid t (((if value < GUILD_WITHDRAW_MONEY_UNLIMITED then
      b.decreaseRemaining a GUILD_BANK_MAX_TABS amount else b).takeMoney amount).logBankEvent
        (if repair then .repairMoney else .withdrawMoney) 0 a amount 0 0) 0 := by
  have hlogged : Even b₀ m₀ guid t
      (b.logBankEvent (if repair then .repairMoney else .withdrawMoney) 0 a amount 0 0)
      ((if lowPart a = lowPart guid ∧ t = GUILD_BANK_MAX_TABS then amount else 0) + 0) :=
    h.logBankEvent (Nat.zero_le _) taken_money
  by_cases hsame : lowPart a = lowPart guid ∧ t = GUILD_BANK_MAX_TABS
  · rw [if_pos hsame] at hlogged
    obtain ⟨hlow, rfl⟩ := hsame
    obtain ⟨m, hm, hval⟩ := hvalue hlow
    split
    · rename_i hlim
      have hpaid := hlogged.decrease hm hlow (hval ▸ hlim) (hval ▸ hn)
      exact hpaid.guild_congr rfl rfl rfl rfl
    · rename_i hlim
      obtain ⟨m', hm', hrank', hpaid⟩ := hlogged.member
      have hmm : m = m' := by
        rw [BankBooks.logBankEvent_guild, ← Guild.getMember_congr hlow, hm] at hm'
        exact Option.some.inj hm'
      subst hmm
      have heven : Even b₀ m₀ guid GUILD_BANK_MAX_TABS
          (b.logBankEvent (if repair then .repairMoney else .withdrawMoney) 0 a amount 0 0) 0 :=
        ⟨hlogged.ranks, hlogged.tabs,
          ⟨m, hm', hrank', hpaid.unlimited (hval.symm ▸ hlim)⟩, hlogged.renewed⟩
      exact heven.guild_congr rfl rfl rfl rfl
  · rw [if_neg hsame] at hlogged
    have hne : ¬ (lowPart a = lowPart guid ∧ GUILD_BANK_MAX_TABS = t) :=
      fun hc => hsame ⟨hc.1, hc.2.symm⟩
    split
    · exact (hlogged.decrease_other hne).guild_congr rfl rfl rfl rfl
    · exact hlogged.guild_congr rfl rfl rfl rfl

theorem Even.withdrawMoney (h : Even b₀ m₀ guid t b 0) (hb : b₀.guild.Bounded)
    (hrank : m₀.rankId ≠ GR_GUILDMASTER) {rank amount : Nat} {repair : Bool} :
    Even b₀ m₀ guid t (b.handleMemberWithdrawMoney a rank amount repair now) 0 := by
  have hread : Even b₀ m₀ guid t (b.getMemberRemaining a GUILD_BANK_MAX_TABS now).2 0 :=
    h.read hb (.inl rfl)
  unfold BankBooks.handleMemberWithdrawMoney
  by_cases hbank : b.guild.bankMoney < amount
  · rw [if_pos hbank]
    exact h
  · rw [if_neg hbank]
    cases b.guild.hasRankRight rank
        (if repair then GR_RIGHT_WITHDRAW_REPAIR else GR_RIGHT_WITHDRAW_GOLD) with
    | false => exact h
    | true =>
      simp only [Bool.not_true, Bool.false_eq_true, if_false]
      by_cases h0 : (b.getMemberRemaining a GUILD_BANK_MAX_TABS now).1 = 0
      · rw [if_pos h0]
        exact hread
      · rw [if_neg h0]
        by_cases hle : (b.getMemberRemaining a GUILD_BANK_MAX_TABS now).1 < amount
        · rw [if_pos hle]
          exact hread
        · rw [if_neg hle]
          refine hread.payMoney (fun hlow => ?_) (Nat.le_of_not_lt hle)
          obtain ⟨m, hm, hr, _⟩ := h.member
          rw [← Guild.getMember_congr hlow] at hm
          exact value_of_read hm (hr ▸ hrank) h0

end Moves

/-! ## Runs -/

/-- What happens at the bank of one guild; its ranks and the ranks of its members stay. -/
inductive BankEvent where
  | swapItems (guid tabId slotId destTabId destSlotId splitedAmount : Nat)
  | swapItemsWithInventory (guid : Nat) (toChar : Bool)
      (tabId slotId playerBag playerSlotId splitedAmount : Nat)
  | withdrawMoney (guid rank amount : Nat) (repair : Bool)
  | items (items : Holdings Nat)
  | deposit (bankMoney : Nat)

/-- A request of `guid` for items, other than a move within tab `t`. -/
def BankEvent.Moves (guid t : Nat) : BankEvent → Prop
  | .swapItems a tabId _ destTabId _ _ => a = guid ∧ (tabId = t → destTabId ≠ t)
  | .swapItemsWithInventory a _ _ _ _ _ _ => a = guid
  | _ => False

namespace GuildBank

open Holdings

variable (e : ItemStores)

/-- One event at the time `now`, with the players in the world as `cond` finds them. -/
def step (b : GuildBank) (ev : BankEvent × Nat × (Nat → Option Condition)) : GuildBank :=
  match ev with
  | (.swapItems guid tabId slotId destTabId destSlotId splitedAmount, now, cond) =>
    b.swapItems e cond guid now tabId slotId destTabId destSlotId splitedAmount
  | (.swapItemsWithInventory guid toChar tabId slotId playerBag playerSlotId splitedAmount, now,
      cond) =>
    b.swapItemsWithInventory e cond guid now toChar tabId slotId playerBag playerSlotId splitedAmount
  | (.withdrawMoney guid rank amount repair, now, _) =>
    { b with books := b.books.handleMemberWithdrawMoney guid rank amount repair now }
  | (.items items, _, _) => { b with items := items }
  | (.deposit bankMoney, _, _) =>
    { b with books := { b.books with guild := { b.books.guild with bankMoney := bankMoney } } }

/-- The clock fits in 32 bits, and no object is in two places when others have changed the items. -/
def InTime (_ : GuildBank) (ev : BankEvent × Nat × (Nat → Option Condition)) : Prop :=
  ev.2.1 / 60 + 24 * 60 < 2 ^ 32 ∧
    match ev.1 with
    | .items items => items.Separate
    | _ => True

variable {e} {b b' : GuildBank} {b₀ : BankBooks} {m₀ : Guild.Member} {guid a t now : Nat}
  {pSrc pDest : MoveItemData}

theorem even_moves (hmoves : Moves b a now pSrc pDest b') (he : Even b₀ m₀ guid t b.books 0)
    (hb : b₀.guild.Bounded) (hrank : m₀.rankId ≠ GR_GUILDMASTER)
    (hclock : now / 60 + 24 * 60 < 2 ^ 32) (hends : pSrc.Ends pDest) :
    Even b₀ m₀ guid t b'.books 0 := by
  have hrights₁ : Even b₀ m₀ guid t (b.books.hasWithdrawRights a now pSrc pDest).2 0 :=
    he.rights hb
  have hrights₂ : Even b₀ m₀ guid t ((b.books.hasWithdrawRights a now pSrc
      pDest).2.hasWithdrawRights a now pDest pSrc).2 0 := hrights₁.rights hb
  cases hmoves with
  | refused hbooks =>
    rcases hbooks with rfl | rfl | rfl
    · exact he
    · exact hrights₁
    · exact hrights₂
  | exchanged hrights =>
    exact hrights₁.exchange hb hrank hends (ready_of_rights hclock hrights)
  | swapped hrights hback =>
    refine hrights₂.swap hb hrank hends (fun ht => ?_) (ready_of_rights hclock hback)
    exact (ready_of_rights hclock hrights ht).rights_other (takesFrom_ne ht)

theorem kept_of_even {b : BankBooks} {debt : Nat} (h : Even b₀ m₀ a t b debt)
    (hrank : m₀.rankId ≠ GR_GUILDMASTER) (hready : Ready b a t now) :
    b.guild.renews a t now = false := by
  obtain ⟨m, hm, hr, _⟩ := h.member
  exact hready.kept hm (hr ▸ hrank)

theorem adds_charged {b₁ b : BankBooks} {this other : MoveItemData} {debt n : Nat}
    (h : b₁.Adds b (lowPart a) t n) (he : Even b₀ m₀ a t b debt) (hrank : m₀.rankId ≠ GR_GUILDMASTER)
    (hready : this.takesFrom other t = true → Ready b a t now) :
    b₁.Adds (b.charge a now this other) (lowPart a) t n := by
  have hcharge : b.Adds (b.charge a now this other) (lowPart a) t 0 :=
    adds_charge fun ht => kept_of_even he hrank (hready ht)
  rw [← Nat.zero_add n]
  exact h.trans hcharge

theorem owed_one {this other : MoveItemData} (ht : this.takesFrom other t = true) :
    owed a a t this other = 1 := if_pos ⟨rfl, ht⟩

theorem owed_none {this other : MoveItemData} (ht : this.inTab t = false) :
    owed a a t this other = 0 := if_neg fun h => by
  rw [takesFrom_elsewhere ht] at h
  cases h.2

theorem adds_exchange {b : BankBooks} {entry count : Nat} (h : Even b₀ m₀ a t b 0)
    (hrank : m₀.rankId ≠ GR_GUILDMASTER) (hends : pSrc.Ends pDest)
    (hready : pSrc.takesFrom pDest t = true → Ready b a t now) :
    b.Adds ((b.logMove a pDest pSrc entry count).charge a now pSrc pDest) (lowPart a) t
      (owed a a t pSrc pDest) :=
  adds_charged (adds_logMove hends) (h.logMove hends) hrank fun ht => (hready ht).logMove

theorem adds_swap {b : BankBooks} {entry count entry' count' : Nat} (h : Even b₀ m₀ a t b 0)
    (hb : b₀.guild.Bounded) (hrank : m₀.rankId ≠ GR_GUILDMASTER) (hends : pSrc.Ends pDest)
    (hsrc : pSrc.takesFrom pDest t = true → Ready b a t now)
    (hdest : pDest.takesFrom pSrc t = true → Ready b a t now) :
    b.Adds ((((b.logMove a pDest pSrc entry count).logMove a pSrc pDest entry' count').charge a now
      pSrc pDest).charge a now pDest pSrc) (lowPart a) t
        (owed a a t pDest pSrc + owed a a t pSrc pDest) := by
  have hlogged : Even b₀ m₀ a t ((b.logMove a pDest pSrc entry count).logMove a pSrc pDest entry'
      count') (owed a a t pDest pSrc + (owed a a t pSrc pDest + 0)) :=
    (h.logMove hends).logMove hends.symm
  rw [Nat.add_left_comm] at hlogged
  have hready : pSrc.takesFrom pDest t = true → Ready ((b.logMove a pDest pSrc entry count).logMove a
      pSrc pDest entry' count') a t now := fun ht => (hsrc ht).logMove.logMove
  refine adds_charged (adds_charged ((adds_logMove hends).trans (adds_logMove hends.symm)) hlogged hrank
    hready) (hlogged.charge hb hrank hready) hrank fun ht => ?_
  exact (hdest ht).logMove.logMove.charge_other (takesFrom_ne ht)

/-- Another read before the read of value `t` changes nothing about what the latter finds. -/
theorem adds_read_rights {b : BankBooks} {this other : MoveItemData} (h : Even b₀ m₀ a t b 0)
    (hb : b₀.guild.Bounded) (ht : this.inTab t = false) :
    (b.getMemberRemaining a t now).2.Adds
      ((b.hasWithdrawRights a now this other).2.getMemberRemaining a t now).2 (lowPart a) t 0 := by
  have hother : b.Adds (b.hasWithdrawRights a now this other).2 (lowPart a) t 0 := adds_rights ht
  have hread : Even b₀ m₀ a t (b.getMemberRemaining a t now).2 0 := h.read hb (.inl rfl)
  have hread' : Even b₀ m₀ a t
      ((b.hasWithdrawRights a now this other).2.getMemberRemaining a t now).2 0 :=
    (h.rights hb).read hb (.inl rfl)
  obtain ⟨m, hm, _⟩ := h.member
  have hsame : (b.hasWithdrawRights a now this other).2.guild.renews a t now =
      b.guild.renews a t now := renews_rights hm ht
  cases hr : b.guild.renews a t now with
  | false =>
    rw [hr] at hsame
    have hkept : b.Adds (b.getMemberRemaining a t now).2 (lowPart a) t 0 := adds_read_kept hr
    have hkept' : b.Adds ((b.hasWithdrawRights a now this other).2.getMemberRemaining a t now).2
        (lowPart a) t 0 := hother.trans (adds_read_kept hsame)
    exact ⟨hkept'.renewal.trans hkept.renewal.symm,
      by rw [hkept'.taken, hkept.taken, Nat.zero_add, Nat.zero_add]⟩
  | true =>
    rw [hr] at hsame
    obtain ⟨hlast, htaken⟩ := read_due hr
    obtain ⟨hlast', htaken'⟩ := read_due hsame
    refine ⟨?_, by rw [htaken, htaken']⟩
    rw [hlast', hlast, hread'.renewed _ hlast', hread.renewed _ hlast]

theorem adds_moves (hmoves : Moves b a now pSrc pDest b') (he : Even b₀ m₀ a t b.books 0)
    (hb : b₀.guild.Bounded) (hrank : m₀.rankId ≠ GR_GUILDMASTER)
    (hclock : now / 60 + 24 * 60 < 2 ^ 32) (hends : pSrc.Ends pDest) (hw : Separate b.items)
    (hapart : Apart pSrc pDest) (hout : pSrc.inTab t = true → pDest.inTab t = false)
    (hloss : ¬ KeepsTab t b.items b'.items) :
    (b.books.getMemberRemaining a t now).2.Adds b'.books (lowPart a) t 1 := by
  have hrights₁ : Even b₀ m₀ a t (b.books.hasWithdrawRights a now pSrc pDest).2 0 := he.rights hb
  cases hmoves with
  | refused hbooks hitems =>
    rcases hitems with rfl | ⟨i, rfl⟩
    · exact absurd .refl hloss
    · exact absurd (keeps_newItem hw) hloss
  | exchanged hrights hsrc hitem =>
    have hmoved := @exchanged_items b now t pSrc pDest a
    have hin : pSrc.inTab t = true := by
      by_contra hin
      exact hloss ((hmoved hw hsrc hitem).2 (by simpa using hin))
    have htakes : pSrc.takesFrom pDest t = true := takesFrom_of_inTab hin (hout hin)
    rw [← rights_of_takesFrom htakes, ← owed_one htakes]
    exact adds_exchange hrights₁ hrank hends (ready_of_rights hclock hrights)
  | swapped hrights hback hsrc hdest =>
    have hrights₂ : Even b₀ m₀ a t ((b.books.hasWithdrawRights a now pSrc
        pDest).2.hasWithdrawRights a now pDest pSrc).2 0 := hrights₁.rights hb
    have hready : pSrc.takesFrom pDest t = true → Ready ((b.books.hasWithdrawRights a now pSrc
        pDest).2.hasWithdrawRights a now pDest pSrc).2 a t now := fun ht =>
      (ready_of_rights hclock hrights ht).rights_other (takesFrom_ne ht)
    have hends' : owed a a t pDest pSrc + owed a a t pSrc pDest = 1 ∧
        (b.books.getMemberRemaining a t now).2.Adds ((b.books.hasWithdrawRights a now pSrc
          pDest).2.hasWithdrawRights a now pDest pSrc).2 (lowPart a) t 0 := by
      cases hin : pSrc.inTab t with
      | true =>
        have htakes : pSrc.takesFrom pDest t = true := takesFrom_of_inTab hin (hout hin)
        refine ⟨by rw [owed_one htakes, owed_none (hout hin)], ?_⟩
        rw [← rights_of_takesFrom htakes]
        exact adds_rights (hout hin)
      | false =>
        have hmoved := @swapped_items b now t pSrc pDest a
        have hin' : pDest.inTab t = true := by
          by_contra hin'
          exact hloss ((hmoved hw hsrc hdest hapart).2 hin (by simpa using hin'))
        have htakes : pDest.takesFrom pSrc t = true := takesFrom_of_inTab hin' hin
        refine ⟨by rw [owed_one htakes, owed_none hin], ?_⟩
        rw [rights_of_takesFrom htakes]
        exact adds_read_rights he hb hin
    rw [← hends'.1]
    exact hends'.2.trans (adds_swap hrights₂ hb hrank hends hready (ready_of_rights hclock hback))

/-- `guid` is charged for one item of tab `t` between `b` and `b'`: one is taken more, and one is left
less, than after a renewal that is due in `b`. -/
def Charged (b b' : BankBooks) (guid t now : Nat) : Prop :=
  (b.getMemberRemaining guid t now).2.Adds b' (lowPart guid) t 1 ∧
    ∃ m m', (b.getMemberRemaining guid t now).2.guild.getMember guid = some m ∧
      b'.guild.getMember guid = some m' ∧
      ((m.bankRemaining t).value ≠ GUILD_WITHDRAW_SLOT_UNLIMITED →
        (m'.bankRemaining t).value + 1 = (m.bankRemaining t).value)

theorem charged_of_adds {b b' : BankBooks} (he : Even b₀ m₀ a t b 0) (he' : Even b₀ m₀ a t b' 0)
    (hb : b₀.guild.Bounded)
    (hadds : (b.getMemberRemaining a t now).2.Adds b' (lowPart a) t 1) : Charged b b' a t now := by
  have hread : Even b₀ m₀ a t (b.getMemberRemaining a t now).2 0 := he.read hb (.inl rfl)
  obtain ⟨m, hm, -, hpaid⟩ := hread.member
  obtain ⟨m', hm', -, hpaid'⟩ := he'.member
  rw [hadds.renewal, hadds.taken] at hpaid'
  refine ⟨hadds, m, m', hm, hm', fun hlimit => ?_⟩
  unfold Paid at hpaid hpaid'
  split at hpaid
  · exact absurd hpaid hlimit
  · rename_i hopen
    rw [if_neg hopen] at hpaid'
    omega

/-! ## Events -/

theorem apart_of_ne {tabId slotId destTabId destSlotId : Nat}
    (h : ¬ (tabId = destTabId ∧ slotId = destSlotId)) :
    Apart (.bank tabId slotId) (.bank destTabId destSlotId) := by
  refine ⟨fun heq => h ?_, tabId, slotId, .inl rfl⟩
  simpa using heq

/-- A step is a move between two ends, or it leaves the items and the requests alone. -/
theorem step_moves (b : GuildBank) (ev : BankEvent) (now : Nat) (cond : Nat → Option Condition)
    (htabs : b.books.guild.purchasedTabs ≤ GUILD_BANK_MAX_TABS) :
    (∃ a pSrc pDest, Moves b a now pSrc pDest (b.step e (ev, now, cond)) ∧ pSrc.Ends pDest ∧
      Apart pSrc pDest ∧ ∀ guid t, ev.Moves guid t → a = guid ∧
        (pSrc.inTab t = true → pDest.inTab t = false)) ∨
    b.step e (ev, now, cond) = b ∨
    (∃ a rank amount repair, ev = .withdrawMoney a rank amount repair) ∨
    (∃ items, ev = .items items) ∨ ∃ bankMoney, ev = .deposit bankMoney := by
  cases ev with
  | swapItems a tabId slotId destTabId destSlotId splitedAmount =>
    simp only [step, swapItems]
    split
    · exact .inr (.inl rfl)
    · rename_i hin
      split
      · exact .inr (.inl rfl)
      · rename_i hne
        refine .inl ⟨a, _, _, moves_moveItems, ⟨?_, ?_, tabId, slotId, .inl rfl⟩, apart_of_ne hne,
          fun guid t hask => ⟨hask.1, fun hsrc => ?_⟩⟩
        · simp only [MoveItemData.Valid]
          omega
        · simp only [MoveItemData.Valid]
          omega
        · have htab : tabId = t := by simpa [MoveItemData.inTab] using hsrc
          simpa [MoveItemData.inTab] using hask.2 htab
  | swapItemsWithInventory a toChar tabId slotId playerBag playerSlotId splitedAmount =>
    simp only [step, swapItemsWithInventory]
    split
    · exact .inr (.inl rfl)
    · rename_i hin
      have hvalid : MoveItemData.Valid (.bank tabId slotId) := by
        simp only [MoveItemData.Valid]
        omega
      split
      · exact .inl ⟨a, _, _, moves_moveItems, ⟨hvalid, trivial, tabId, slotId, .inl rfl⟩,
          ⟨by rintro ⟨⟩, tabId, slotId, .inl rfl⟩, fun _ _ hask => ⟨hask, fun _ => rfl⟩⟩
      · exact .inl ⟨a, _, _, moves_moveItems, ⟨trivial, hvalid, tabId, slotId, .inr rfl⟩,
          ⟨by rintro ⟨⟩, tabId, slotId, .inr rfl⟩, fun _ _ hask => ⟨hask, by rintro ⟨⟩⟩⟩
  | withdrawMoney a rank amount repair => exact .inr (.inr (.inl ⟨a, rank, amount, repair, rfl⟩))
  | items items => exact .inr (.inr (.inr (.inl ⟨items, rfl⟩)))
  | deposit bankMoney => exact .inr (.inr (.inr (.inr ⟨bankMoney, rfl⟩)))

theorem even_step {ev : BankEvent × Nat × (Nat → Option Condition)}
    (he : Even b₀ m₀ guid t b.books 0) (hb : b₀.guild.Bounded)
    (hrank : m₀.rankId ≠ GR_GUILDMASTER) (hev : b.InTime ev) :
    Even b₀ m₀ guid t (b.step e ev).books 0 := by
  obtain ⟨ev, now, cond⟩ := ev
  rcases step_moves (e := e) b ev now cond (he.tabs ▸ hb.tabs) with
    ⟨a, pSrc, pDest, hmoves, hends, -, -⟩ | hsame | ⟨a, rank, amount, repair, rfl⟩ | ⟨items, rfl⟩ |
      ⟨bankMoney, rfl⟩
  · exact even_moves hmoves he hb hrank hev.1 hends
  · rwa [hsame]
  · exact he.withdrawMoney hb hrank
  · exact he
  · exact he.guild_congr rfl rfl rfl rfl

theorem separate_step {ev : BankEvent × Nat × (Nat → Option Condition)}
    (htabs : b.books.guild.purchasedTabs ≤ GUILD_BANK_MAX_TABS) (hw : Separate b.items)
    (hev : b.InTime ev) : Separate (b.step e ev).items := by
  obtain ⟨ev, now, cond⟩ := ev
  rcases step_moves (e := e) b ev now cond htabs with
    ⟨a, pSrc, pDest, hmoves, -, hapart, -⟩ | hsame | ⟨a, rank, amount, repair, rfl⟩ | ⟨items, rfl⟩ |
      ⟨bankMoney, rfl⟩
  · exact separate_moves hmoves hw hapart
  · rwa [hsame]
  · exact hw
  · exact hev.2
  · exact hw

theorem even_run {es : List (BankEvent × Nat × (Nat → Option Condition))}
    (hrun : Run (step e) InTime b es b') (he : Even b₀ m₀ guid t b.books 0)
    (hw : Separate b.items) (hb : b₀.guild.Bounded) (hrank : m₀.rankId ≠ GR_GUILDMASTER) :
    Even b₀ m₀ guid t b'.books 0 ∧ Separate b'.items :=
  hrun.invariant (I := fun b => Even b₀ m₀ guid t b.books 0 ∧ Separate b.items)
    (fun _ _ h hev => ⟨even_step h.1 hb hrank hev, separate_step (h.1.tabs ▸ hb.tabs) h.2 hev⟩)
    ⟨he, hw⟩

/-- A request of the member that makes tab `t` lose an item is charged. -/
theorem charged_step {ev : BankEvent × Nat × (Nat → Option Condition)}
    (he : Even b₀ m₀ guid t b.books 0) (hb : b₀.guild.Bounded)
    (hrank : m₀.rankId ≠ GR_GUILDMASTER) (hw : Separate b.items) (hev : b.InTime ev)
    (hask : ev.1.Moves guid t) (hloss : ¬ KeepsTab t b.items (b.step e ev).items) :
    Charged b.books (b.step e ev).books guid t ev.2.1 := by
  have he' : Even b₀ m₀ guid t (b.step e ev).books 0 := even_step he hb hrank hev
  obtain ⟨ev, now, cond⟩ := ev
  rcases step_moves (e := e) b ev now cond (he.tabs ▸ hb.tabs) with
    ⟨a, pSrc, pDest, hmoves, hends, hapart, hasks⟩ | hsame | ⟨a, rank, amount, repair, rfl⟩ |
      ⟨items, rfl⟩ | ⟨bankMoney, rfl⟩
  · obtain ⟨rfl, hout⟩ := hasks guid t hask
    exact charged_of_adds he he' hb
      (adds_moves hmoves he hb hrank hev.1 hends hw hapart hout hloss)
  · rw [hsame] at hloss
    exact absurd .refl hloss
  · exact hask.elim
  · exact hask.elim
  · exact hask.elim

theorem even_start (hb : b.books.guild.Bounded) (hnew : b.books.records = [])
    (hm : b.books.guild.getMember guid = some m₀) : Even b.books m₀ guid t b.books 0 := by
  have hlast : b.books.lastRenewal (lowPart guid) t = none := by
    simp [BankBooks.lastRenewal, hnew]
  have htaken : b.books.takenSince (lowPart guid) t = 0 := by
    simp [BankBooks.takenSince, hnew]
  refine ⟨rfl, rfl, ⟨m₀, hm, rfl, ?_⟩, ?_⟩
  · rw [hlast, htaken, Option.getD_none]
    exact Paid.fresh (hb.values m₀ (Guild.getMember_mem hm) t)
  · rw [hlast]
    rintro v ⟨⟩

/-- For a member below guild master, in every run: the last renewal gave the daily limit of his rank,
what he has left is that limit, or what he began with, less what was taken since, and whatever a
request of his makes a tab lose, other than a move within it, is charged to him. -/
theorem guild_bank_quota (e : ItemStores) (start b : GuildBank)
    (es : List (BankEvent × Nat × (Nat → Option Condition))) (guid t : Nat) (m₀ : Guild.Member)
    (hb : start.books.guild.Bounded) (hnew : start.books.records = [])
    (hitems : start.items.Separate)
    (hm₀ : start.books.guild.getMember guid = some m₀) (hrank : m₀.rankId ≠ GR_GUILDMASTER)
    (hrun : Run (step e) InTime start es b) :
    (∃ m, b.books.guild.getMember guid = some m ∧ m.rankId = m₀.rankId ∧
      (∀ limit, b.books.lastRenewal (lowPart guid) t = some limit →
        limit = b.books.guild.dailyLimit m.rankId t ∧
        (limit ≠ GUILD_WITHDRAW_SLOT_UNLIMITED →
          b.books.takenSince (lowPart guid) t ≤ limit ∧
          (m.bankRemaining t).value + b.books.takenSince (lowPart guid) t = limit)) ∧
      Paid ((b.books.lastRenewal (lowPart guid) t).getD (m₀.bankRemaining t).value)
        (m.bankRemaining t).value (b.books.takenSince (lowPart guid) t) 0) ∧
    ∀ ev, InTime b ev → ev.1.Moves guid t → ¬ KeepsTab t b.items (b.step e ev).items →
      Charged b.books (b.step e ev).books guid t ev.2.1 := by
  obtain ⟨he, hw⟩ := even_run hrun (even_start hb hnew hm₀) hitems hb hrank (t := t)
  obtain ⟨m, hm, hr, hpaid⟩ := he.member
  refine ⟨⟨m, hm, hr, fun limit hlimit => ⟨?_, fun hfinite => ?_⟩, hpaid⟩,
    fun ev hev => charged_step he hb hrank hw hev⟩
  · rw [he.renewed limit hlimit, hr, Guild.dailyLimit_congr he.ranks he.tabs]
  · rw [hlimit, Option.getD_some] at hpaid
    unfold Paid at hpaid
    rw [if_neg hfinite] at hpaid
    omega

/-- A guild with one tab and an officer, number 5, whose rank may take `slots` items a day.  The tab
holds three of one item. -/
def officerBank (slots : Nat) : GuildBank where
  books :=
    { guild :=
        { id := 1, leaderGuid := 1, purchasedTabs := 1
          ranks := [{ rankId := 0, rights := GR_RIGHT_ALL },
            { rankId := 1, rights := GR_RIGHT_ALL,
              bankTabRightsAndSlots := fun _ =>
                { rights := GUILD_BANK_RIGHT_FULL, slots := slots } }]
          members := [{ guid := 5, name := "Beren", rankId := 1 }] } }
  items :=
    { item := fun _ => { proto := { itemId := 100, stackable := 5 }, count := 3 }
      held := fun pl => if pl = .tab 0 0 then some 7 else none
      nextGuid := 8 }

def oneTemplate : ItemStores where
  store := fun entry => if entry = 100 then some { itemId := 100, stackable := 5 } else none
  store_id := by
    intro entry proto h
    split at h
    · rename_i he
      cases h
      exact he.symm
    · cases h
  slots_le := by
    intro entry proto h
    split at h
    · cases h
      exact Nat.zero_le _
    · cases h

def takeOne : BankEvent × Nat × (Nat → Option Condition) :=
  (.swapItemsWithInventory 5 true 0 0 NULL_BAG NULL_SLOT 1, 120000, fun _ => none)

theorem officerBank_bounded {slots : Nat} (h : slots < 2 ^ 32) :
    (officerBank slots).books.guild.Bounded := by
  constructor
  · exact Nat.le_add_left 1 7
  · intro m hm t
    simp only [officerBank, List.mem_singleton] at hm
    subst hm
    exact Nat.zero_lt_succ _
  · intro r hr
    simp only [officerBank, List.mem_cons, List.not_mem_nil, or_false] at hr
    rcases hr with rfl | rfl <;> exact Nat.zero_lt_succ _
  · intro r hr t
    simp only [officerBank, List.mem_cons, List.not_mem_nil, or_false] at hr
    rcases hr with rfl | rfl
    · exact Nat.zero_lt_succ _
    · exact h

theorem officerBank_separate {slots : Nat} : (officerBank slots).items.Separate := by
  have hheld : ∀ pl g, (officerBank slots).items.held pl = some g → pl = .tab 0 0 ∧ g = 7 := by
    intro pl g hg
    simp only [officerBank] at hg
    split at hg
    · rename_i hpl
      exact ⟨hpl, (Option.some.inj hg).symm⟩
    · cases hg
  refine ⟨fun p q g hp hq => (hheld p g hp).1.trans (hheld q g hq).1.symm, fun pl g hg => ?_⟩
  rw [(hheld pl g hg).2]
  exact Nat.lt_succ_self 7

theorem guild_bank_quota_two :
    ∃ b m, Run (step oneTemplate) InTime (officerBank 2) [takeOne] b ∧
      b.books.guild.getMember 5 = some m ∧ b.books.lastRenewal 5 0 = some 2 ∧
      (m.bankRemaining 0).value + b.books.takenSince 5 0 = 2 ∧ b.books.takenSince 5 0 = 1 ∧
      ¬ KeepsTab 0 (officerBank 2).items b.items ∧
      Charged (officerBank 2).books b.books 5 0 120000 := by
  have hin : InTime (officerBank 2) takeOne := ⟨by decide, trivial⟩
  have hrun : Run (step oneTemplate) InTime (officerBank 2) [takeOne]
      (step oneTemplate (officerBank 2) takeOne) := .cons hin .nil
  have hlast : (step oneTemplate (officerBank 2) takeOne).books.lastRenewal 5 0 = some 2 := by
    decide +kernel
  have hloss : ¬ KeepsTab 0 (officerBank 2).items (step oneTemplate (officerBank 2) takeOne).items :=
    fun h => absurd (h.count 0 7 (by decide)) (by decide +kernel)
  have hquota := fun es b => guild_bank_quota oneTemplate (officerBank 2) b es 5 0
    { guid := 5, name := "Beren", rankId := 1 } (officerBank_bounded (by decide)) rfl
    officerBank_separate rfl (by decide)
  obtain ⟨⟨m, hm, _, hq, _⟩, _⟩ := hquota _ _ hrun
  exact ⟨_, m, hrun, hm, hlast, ((hq 2 hlast).2 (by decide)).2, by decide +kernel, hloss,
    (hquota _ _ .nil).2 takeOne hin rfl hloss⟩

/-- With the value that means no limit, the officer's item is not charged. -/
theorem guild_bank_unlimited :
    ∃ b m, Run (step oneTemplate) InTime (officerBank GUILD_WITHDRAW_SLOT_UNLIMITED) [takeOne] b ∧
      b.books.guild.getMember 5 = some m ∧ m.rankId ≠ GR_GUILDMASTER ∧
      b.books.lastRenewal 5 0 = some (m.bankRemaining 0).value ∧ b.books.takenSince 5 0 = 1 :=
  ⟨_, _, .cons ⟨by decide, trivial⟩ .nil, rfl, by decide, by decide +kernel, by decide +kernel⟩

end GuildBank

end SkyfireBG
