import SkyfireBG.Guild.Bank

/-!
# SkyfireBG.Guild.Account

What a member takes out of the guild bank since the last renewal of a remaining value.

`Even` is the invariant of one member and one tab (or the money, at `GUILD_BANK_MAX_TABS`): what is
left and what was taken are together the value of the last renewal, up to the debt of a move that is
under way.  A value of `0xFFFFFFFF` is no limit and is never charged.  `Ready` says that a check has
found something left, so that the charge will find it again.

* `Even.read`          — a read, which may renew.
* `Even.logBankEvent`  — an entry of the bank log runs up a debt.
* `Even.decreaseSlots` — a charge after a check pays it.
-/

namespace SkyfireBG

/-! ## The records of one member and tab -/

namespace BankRecord

def renewal (low t : Nat) : BankRecord → Option Nat
  | .renewed g tabId value => if g = low ∧ tabId = t then some value else none
  | .event .. => none

def taken (low t : Nat) : BankRecord → Nat
  | .renewed .. => 0
  | .event eventType tabId g itemOrMoney _ destTabId =>
    match eventType with
    | .withdrawItem => if g = low ∧ tabId = t then 1 else 0
    | .moveItem => if g = low ∧ tabId = t ∧ destTabId ≠ tabId then 1 else 0
    | .withdrawMoney => if g = low ∧ t = GUILD_BANK_MAX_TABS then itemOrMoney else 0
    | .repairMoney => if g = low ∧ t = GUILD_BANK_MAX_TABS then itemOrMoney else 0
    | _ => 0

end BankRecord

namespace BankBooks

def lastRenewal (b : BankBooks) (low t : Nat) : Option Nat :=
  b.records.findSome? (BankRecord.renewal low t)

def takenSince (b : BankBooks) (low t : Nat) : Nat :=
  ((b.records.takeWhile (fun r => (r.renewal low t).isNone)).map (BankRecord.taken low t)).sum

variable {b b' : BankBooks} {r : BankRecord} {low t v : Nat}

theorem lastRenewal_cons (hrec : b'.records = r :: b.records) (hr : r.renewal low t = none) :
    b'.lastRenewal low t = b.lastRenewal low t := by
  simp only [lastRenewal, hrec, List.findSome?_cons, hr]

theorem takenSince_cons (hrec : b'.records = r :: b.records) (hr : r.renewal low t = none) :
    b'.takenSince low t = r.taken low t + b.takenSince low t := by
  simp [takenSince, hrec, hr]

theorem lastRenewal_renewed (hrec : b'.records = r :: b.records) (hr : r.renewal low t = some v) :
    b'.lastRenewal low t = some v := by
  simp only [lastRenewal, hrec, List.findSome?_cons, hr]

theorem takenSince_renewed (hrec : b'.records = r :: b.records) (hr : r.renewal low t = some v) :
    b'.takenSince low t = 0 := by
  simp [takenSince, hrec, hr]

/-- From `b` to `b'` nothing was renewed and `n` was taken. -/
structure Adds (b b' : BankBooks) (low t n : Nat) : Prop where
  renewal : b'.lastRenewal low t = b.lastRenewal low t
  taken : b'.takenSince low t = n + b.takenSince low t

theorem Adds.trans {b'' : BankBooks} {n k : Nat} (h : Adds b b' low t n) (h' : Adds b' b'' low t k) :
    Adds b b'' low t (k + n) :=
  ⟨h'.renewal.trans h.renewal, by rw [h'.taken, h.taken, Nat.add_assoc]⟩

theorem Adds.of_records (h : b'.records = b.records) : Adds b b' low t 0 := by
  constructor
  · simp only [lastRenewal, h]
  · simp only [takenSince, h, Nat.zero_add]

theorem Adds.of_cons (hrec : b'.records = r :: b.records) (hr : r.renewal low t = none) :
    Adds b b' low t (r.taken low t) :=
  ⟨lastRenewal_cons hrec hr, takenSince_cons hrec hr⟩

end BankBooks

namespace Guild

/-- `uint32` fields hold `uint32` values, and there are at most eight tabs. -/
structure Bounded (g : Guild) : Prop where
  tabs : g.purchasedTabs ≤ GUILD_BANK_MAX_TABS
  values : ∀ m ∈ g.members, ∀ t, (m.bankRemaining t).value < 2 ^ 32
  money : ∀ r ∈ g.ranks, r.bankMoneyPerDay < 2 ^ 32
  slots : ∀ r ∈ g.ranks, ∀ t, (r.bankTabRightsAndSlots t).slots < 2 ^ 32

variable {g g' : Guild} {guid a t now rankId : Nat} {m m' : Member}

theorem getRankInfo_mem {r : RankInfo} (h : g.getRankInfo rankId = some r) : r ∈ g.ranks := by
  unfold getRankInfo at h
  split at h
  · exact List.mem_of_getElem? h
  · cases h

theorem Bounded.dailyLimit_lt (h : g.Bounded) : g.dailyLimit rankId t < 2 ^ 32 := by
  unfold dailyLimit getRankBankMoneyPerDay getRankBankTabSlotsPerDay
  cases hr : g.getRankInfo rankId with
  | none => split <;> simp
  | some r =>
    have hmem := getRankInfo_mem hr
    have hmoney := h.money r hmem
    have hslots := h.slots r hmem t
    simp only [RankInfo.getBankMoneyPerDay, RankInfo.getBankTabSlotsPerDay,
      GUILD_WITHDRAW_MONEY_UNLIMITED, GUILD_WITHDRAW_SLOT_UNLIMITED]
    split <;> split <;> (try split) <;> (try split) <;> omega

theorem getRankInfo_congr (hr : g'.ranks = g.ranks) :
    g'.getRankInfo rankId = g.getRankInfo rankId := by
  unfold getRankInfo getRanksSize
  rw [hr]

theorem dailyLimit_congr (hr : g'.ranks = g.ranks) (ht : g'.purchasedTabs = g.purchasedTabs) :
    g'.dailyLimit rankId t = g.dailyLimit rankId t := by
  unfold dailyLimit getRankBankMoneyPerDay getRankBankTabSlotsPerDay
  rw [getRankInfo_congr hr, ht]

theorem hidden_congr (hr : g'.ranks = g.ranks) : g'.hidden rankId t = g.hidden rankId t := by
  unfold hidden getRankBankTabRights
  rw [getRankInfo_congr hr]

theorem getMember_congr (h : lowPart guid = lowPart a) : g.getMember guid = g.getMember a := by
  unfold getMember
  rw [h]

theorem getMember_setMember : (g.setMember m').getMember guid =
    (g.getMember guid).map (fun x => if lowPart x.guid = lowPart m'.guid then m' else x) := by
  unfold getMember setMember
  rw [List.find?_map]
  congr 2
  funext x
  by_cases hx : lowPart x.guid = lowPart m'.guid
  · simp [hx]
  · simp [hx]

theorem getMember_setMember_same (hm : g.getMember a = some m) (hguid : m'.guid = m.guid)
    (h : lowPart guid = lowPart a) : (g.setMember m').getMember guid = some m' := by
  rw [getMember_setMember, getMember_congr h, hm, Option.map_some, hguid, if_pos rfl]

theorem getMember_setMember_ne (hm : g.getMember a = some m) (hguid : m'.guid = m.guid)
    (h : lowPart guid ≠ lowPart a) : (g.setMember m').getMember guid = g.getMember guid := by
  rw [getMember_setMember]
  cases hg : g.getMember guid with
  | none => rfl
  | some x => rw [Option.map_some, getMember_key hg, hguid, getMember_key hm, if_neg h]

theorem getMember_setMember_self (hm : g.getMember a = some m) :
    (g.setMember m).getMember guid = g.getMember guid := by
  by_cases hk : lowPart guid = lowPart a
  · rw [getMember_setMember_same hm rfl hk, getMember_congr hk, hm]
  · exact getMember_setMember_ne hm rfl hk

theorem remaining_renewed (hm : g.getMember guid = some m) (hr : g.renews guid t now = true) :
    g.getMemberRemaining guid t now = (g.dailyLimit m.rankId t, g.setMember
      (m.setRemaining t { value := g.dailyLimit m.rankId t, resetTime := minutes now })) := by
  unfold renews at hr
  unfold getMemberRemaining Member.getBankRemainingValue
  simp only [hm, Bool.and_eq_true, Bool.not_eq_true'] at hr ⊢
  obtain ⟨⟨hrank, hhid⟩, hdue⟩ := hr
  simp only [hrank, hhid, hdue, Bool.false_eq_true, if_false, if_true]

theorem remaining_kept (hm : g.getMember guid = some m) (hr : g.renews guid t now = false) :
    (g.getMemberRemaining guid t now).2 = g.setMember m := by
  unfold renews at hr
  unfold getMemberRemaining Member.getBankRemainingValue
  simp only [hm] at hr ⊢
  by_cases hrank : m.isRank GR_GUILDMASTER = true
  · simp only [hrank, if_true]
  · by_cases hhid : g.hidden m.rankId t = true
    · simp only [hrank, hhid, Bool.false_eq_true, if_false, if_true]
    · simp only [Bool.not_eq_true] at hrank hhid
      simp only [hrank, hhid, Bool.not_false, Bool.true_and] at hr
      simp only [hrank, hhid, hr, Bool.false_eq_true, if_false]

theorem remaining_value (hm : g.getMember guid = some m) (hr : g.renews guid t now = false)
    (hrank : m.rankId ≠ GR_GUILDMASTER) (h0 : (g.getMemberRemaining guid t now).1 ≠ 0) :
    (g.getMemberRemaining guid t now).1 = (m.bankRemaining t).value := by
  have hrank' : m.isRank GR_GUILDMASTER = false := beq_false_of_ne hrank
  unfold renews at hr
  unfold getMemberRemaining Member.getBankRemainingValue at h0 ⊢
  simp only [hm, hrank', Bool.not_false, Bool.true_and, Bool.false_eq_true, if_false] at hr h0 ⊢
  by_cases hhid : g.hidden m.rankId t = true
  · simp only [hhid, if_true] at h0
    exact absurd rfl h0
  · simp only [Bool.not_eq_true] at hhid
    simp only [hhid, Bool.not_false, Bool.true_and] at hr
    simp only [hhid, hr, Bool.false_eq_true, if_false]

end Guild

/-! ## The account -/

/-- What is left and what was taken are together what there was, and `debt`. -/
def Paid (opening value taken debt : Nat) : Prop :=
  if opening = GUILD_WITHDRAW_SLOT_UNLIMITED then value = GUILD_WITHDRAW_SLOT_UNLIMITED
  else value < GUILD_WITHDRAW_SLOT_UNLIMITED ∧ value + taken = opening + debt

/-- The account of member `m₀`, below guild master, for tab `t` since the books `b₀`. -/
structure Even (b₀ : BankBooks) (m₀ : Guild.Member) (guid t : Nat) (b : BankBooks) (debt : Nat) :
    Prop where
  ranks : b.guild.ranks = b₀.guild.ranks
  tabs : b.guild.purchasedTabs = b₀.guild.purchasedTabs
  member : ∃ m, b.guild.getMember guid = some m ∧ m.rankId = m₀.rankId ∧
    Paid ((b.lastRenewal (lowPart guid) t).getD (m₀.bankRemaining t).value)
      (m.bankRemaining t).value (b.takenSince (lowPart guid) t) debt
  renewed : ∀ v, b.lastRenewal (lowPart guid) t = some v → v = b₀.guild.dailyLimit m₀.rankId t

theorem Paid.fresh {limit : Nat} (h : limit < 2 ^ 32) : Paid limit limit 0 0 := by
  unfold Paid GUILD_WITHDRAW_SLOT_UNLIMITED
  by_cases hl : limit = 0xFFFFFFFF
  · rw [if_pos hl]
    exact hl
  · rw [if_neg hl]
    omega

theorem Paid.spend {opening value taken debt n : Nat} (h : Paid opening value taken debt) :
    Paid opening value (n + taken) (n + debt) := by
  unfold Paid at h ⊢
  split
  · rename_i ho
    rwa [if_pos ho] at h
  · rename_i ho
    rw [if_neg ho] at h
    omega

theorem Paid.pay {opening value taken debt n : Nat} (h : Paid opening value taken (n + debt))
    (hv : value < GUILD_WITHDRAW_SLOT_UNLIMITED) (hn : n ≤ value) :
    Paid opening (value - n) taken debt := by
  unfold Paid at h ⊢
  split
  · rename_i ho
    rw [if_pos ho] at h
    omega
  · rename_i ho
    rw [if_neg ho] at h
    omega

theorem Paid.unlimited {opening value taken debt debt' : Nat} (h : Paid opening value taken debt)
    (hv : ¬ value < GUILD_WITHDRAW_SLOT_UNLIMITED) : Paid opening value taken debt' := by
  unfold Paid at h ⊢
  split
  · rename_i ho
    rwa [if_pos ho] at h
  · rename_i ho
    rw [if_neg ho] at h
    exact absurd h.1 hv

section Steps

variable {b₀ b : BankBooks} {m₀ : Guild.Member} {guid a t t' now debt n : Nat}

theorem Even.guild_congr {b' : BankBooks} (h : Even b₀ m₀ guid t b debt)
    (hrec : b'.records = b.records) (hranks : b'.guild.ranks = b.guild.ranks)
    (htabs : b'.guild.purchasedTabs = b.guild.purchasedTabs)
    (hmem : b'.guild.getMember guid = b.guild.getMember guid) : Even b₀ m₀ guid t b' debt := by
  obtain ⟨h₁, h₂, h₃, h₄⟩ := h
  refine ⟨hranks.trans h₁, htabs.trans h₂, ?_, ?_⟩
  · unfold BankBooks.lastRenewal BankBooks.takenSince at *
    rw [hrec, hmem]
    exact h₃
  · unfold BankBooks.lastRenewal at *
    rw [hrec]
    exact h₄

theorem read_renewed {m : Guild.Member} (hm : b.guild.getMember a = some m)
    (hr : b.guild.renews a t' now = true) :
    (b.getMemberRemaining a t' now).2 =
      { guild := b.guild.setMember (m.setRemaining t'
          { value := b.guild.dailyLimit m.rankId t', resetTime := Guild.minutes now })
        records := .renewed (lowPart a) t' (b.guild.dailyLimit m.rankId t') :: b.records } := by
  simp [BankBooks.getMemberRemaining, hr, Guild.remaining_renewed hm hr]

theorem Even.renew (h : Even b₀ m₀ guid t b 0) (hb : b₀.guild.Bounded)
    {m : Guild.Member} (hm : b.guild.getMember a = some m)
    (hr : b.guild.renews a t now = true) (hlow : lowPart a = lowPart guid) :
    Even b₀ m₀ guid t (b.getMemberRemaining a t now).2 0 := by
  obtain ⟨m', hmem, hrank, _⟩ := h.member
  have hmm : m = m' := by
    rw [Guild.getMember_congr hlow, hmem] at hm
    exact (Option.some.inj hm).symm
  subst hmm
  have hlim : b.guild.dailyLimit m.rankId t = b₀.guild.dailyLimit m.rankId t :=
    Guild.dailyLimit_congr h.ranks h.tabs
  have hren : (BankRecord.renewed (lowPart a) t (b.guild.dailyLimit m.rankId t)).renewal
      (lowPart guid) t = some (b.guild.dailyLimit m.rankId t) := by
    simp [BankRecord.renewal, hlow]
  rw [read_renewed hm hr]
  refine ⟨h.ranks, h.tabs,
    ⟨_, Guild.getMember_setMember_same hm rfl hlow.symm, hrank, ?_⟩, ?_⟩
  · rw [BankBooks.lastRenewal_renewed rfl hren, BankBooks.takenSince_renewed rfl hren,
      Guild.Member.setRemaining_same, Option.getD_some, hlim]
    exact Paid.fresh hb.dailyLimit_lt
  · rw [BankBooks.lastRenewal_renewed rfl hren]
    rintro v hv
    rw [← Option.some.inj hv, hlim, hrank]

theorem Even.renew_other (h : Even b₀ m₀ guid t b debt)
    {m : Guild.Member} (hm : b.guild.getMember a = some m)
    (hr : b.guild.renews a t' now = true) (hne : ¬ (lowPart a = lowPart guid ∧ t' = t)) :
    Even b₀ m₀ guid t (b.getMemberRemaining a t' now).2 debt := by
  obtain ⟨m', hmem, hrank, hpaid⟩ := h.member
  have hren : (BankRecord.renewed (lowPart a) t' (b.guild.dailyLimit m.rankId t')).renewal
      (lowPart guid) t = none := by
    simp only [BankRecord.renewal, if_neg hne]
  have hafter : ∃ m₁, (b.guild.setMember (m.setRemaining t'
        { value := b.guild.dailyLimit m.rankId t', resetTime := Guild.minutes now })).getMember
          guid = some m₁ ∧ m₁.rankId = m'.rankId ∧ m₁.bankRemaining t = m'.bankRemaining t := by
    by_cases hlow : lowPart guid = lowPart a
    · have hmm : m = m' := by
        rw [← Guild.getMember_congr hlow, hmem] at hm
        exact (Option.some.inj hm).symm
      subst hmm
      refine ⟨_, Guild.getMember_setMember_same hm rfl hlow, rfl, ?_⟩
      exact Guild.Member.setRemaining_ne _ _ (fun ht => hne ⟨hlow.symm, ht.symm⟩)
    · refine ⟨m', ?_, rfl, rfl⟩
      exact (Guild.getMember_setMember_ne hm (by rfl) hlow).trans hmem
  obtain ⟨m₁, hm₁, hrank₁, hval₁⟩ := hafter
  rw [read_renewed hm hr]
  refine ⟨h.ranks, h.tabs, ⟨m₁, hm₁, hrank₁.trans hrank, ?_⟩, ?_⟩
  · rw [BankBooks.lastRenewal_cons rfl hren, BankBooks.takenSince_cons rfl hren, hval₁]
    simpa [BankRecord.taken] using hpaid
  · rw [BankBooks.lastRenewal_cons rfl hren]
    exact h.renewed

theorem Even.read_kept (h : Even b₀ m₀ guid t b debt) (hr : b.guild.renews a t' now = false) :
    Even b₀ m₀ guid t (b.getMemberRemaining a t' now).2 debt := by
  cases hm : b.guild.getMember a with
  | none =>
    have hg : b.guild.getMemberRemaining a t' now = (0, b.guild) := by
      simp [Guild.getMemberRemaining, hm]
    refine h.guild_congr ?_ ?_ ?_ ?_ <;> simp [BankBooks.getMemberRemaining, hr, hg]
  | some m =>
    have hg := Guild.remaining_kept hm hr
    refine h.guild_congr ?_ ?_ ?_ ?_
    · simp [BankBooks.getMemberRemaining, hr]
    · simp [BankBooks.getMemberRemaining, hg]
    · simp only [BankBooks.getMemberRemaining, hg]
      rfl
    · simp only [BankBooks.getMemberRemaining, hg]
      exact Guild.getMember_setMember_self hm

theorem Even.read (h : Even b₀ m₀ guid t b debt) (hb : b₀.guild.Bounded)
    (hdebt : debt = 0 ∨ ¬ (lowPart a = lowPart guid ∧ t' = t)) :
    Even b₀ m₀ guid t (b.getMemberRemaining a t' now).2 debt := by
  cases hr : b.guild.renews a t' now with
  | false => exact h.read_kept hr
  | true =>
    cases hm : b.guild.getMember a with
    | none => simp [Guild.renews, hm] at hr
    | some m =>
      by_cases hsame : lowPart a = lowPart guid ∧ t' = t
      · obtain ⟨hlow, rfl⟩ := hsame
        rcases hdebt with rfl | hne
        · exact h.renew hb hm hr hlow
        · exact absurd ⟨hlow, rfl⟩ hne
      · exact h.renew_other hm hr hsame

theorem Even.spend {b' : BankBooks} (h : Even b₀ m₀ guid t b debt)
    (ha : b.Adds b' (lowPart guid) t n) (hguild : b'.guild = b.guild) :
    Even b₀ m₀ guid t b' (n + debt) := by
  obtain ⟨hranks, htabs, ⟨m, hmem, hrank, hpaid⟩, hrenewed⟩ := h
  refine ⟨by rw [hguild, hranks], by rw [hguild, htabs], ⟨m, by rw [hguild, hmem], hrank, ?_⟩, ?_⟩
  · rw [ha.renewal, ha.taken]
    exact hpaid.spend
  · rwa [ha.renewal]

theorem adds_logBankEvent {eventType : GuildBankEventLogTypes} {tabId item count dest low : Nat}
    (htab : tabId ≤ GUILD_BANK_MAX_TABS)
    (hn : (BankRecord.event eventType tabId (lowPart a) item count dest).taken low t = n) :
    b.Adds (b.logBankEvent eventType tabId a item count dest) low t n := by
  unfold BankBooks.logBankEvent
  rw [if_neg (Nat.not_lt.mpr htab), ← hn]
  exact .of_cons rfl rfl

theorem Even.logBankEvent (h : Even b₀ m₀ guid t b debt) {eventType : GuildBankEventLogTypes}
    {tabId item count dest n : Nat} (htab : tabId ≤ GUILD_BANK_MAX_TABS)
    (hn : (BankRecord.event eventType tabId (lowPart a) item count dest).taken (lowPart guid) t =
      n) :
    Even b₀ m₀ guid t (b.logBankEvent eventType tabId a item count dest) (n + debt) :=
  h.spend (adds_logBankEvent htab hn) (BankBooks.logBankEvent_guild ..)

/-- Taking `n` off the stored value of the member pays `n`; the subtraction does not wrap. -/
theorem Even.decrease (h : Even b₀ m₀ guid t b (n + debt)) {m : Guild.Member}
    (hm : b.guild.getMember a = some m) (hlow : lowPart a = lowPart guid)
    (hv : (m.bankRemaining t).value < GUILD_WITHDRAW_SLOT_UNLIMITED)
    (hn : n ≤ (m.bankRemaining t).value) :
    Even b₀ m₀ guid t (b.decreaseRemaining a t n) debt := by
  obtain ⟨m', hmem, hrank, hpaid⟩ := h.member
  have hmm : m = m' := by
    rw [Guild.getMember_congr hlow, hmem] at hm
    exact (Option.some.inj hm).symm
  subst hmm
  have hguild : (b.decreaseRemaining a t n).guild =
      b.guild.setMember (m.decreaseBankRemainingValue t n) := by
    simp [BankBooks.decreaseRemaining, Guild.decreaseRemaining, hm]
  have hsub : ((m.decreaseBankRemainingValue t n).bankRemaining t).value =
      (m.bankRemaining t).value - n := by
    unfold GUILD_WITHDRAW_SLOT_UNLIMITED at hv
    simp only [Guild.Member.decreaseBankRemainingValue, Guild.Member.setRemaining_same]
    omega
  refine ⟨?_, ?_, ⟨m.decreaseBankRemainingValue t n, ?_, hrank, ?_⟩, h.renewed⟩
  · rw [hguild]
    exact h.ranks
  · rw [hguild]
    exact h.tabs
  · rw [hguild]
    exact Guild.getMember_setMember_same hm rfl hlow.symm
  · rw [hsub]
    exact hpaid.pay hv hn

theorem Even.decrease_other (h : Even b₀ m₀ guid t b debt)
    (hne : ¬ (lowPart a = lowPart guid ∧ t' = t)) :
    Even b₀ m₀ guid t (b.decreaseRemaining a t' n) debt := by
  cases hm : b.guild.getMember a with
  | none =>
    refine h.guild_congr rfl ?_ ?_ ?_ <;>
      simp [BankBooks.decreaseRemaining, Guild.decreaseRemaining, hm]
  | some m =>
    obtain ⟨m', hmem, hrank, hpaid⟩ := h.member
    have hguild : (b.decreaseRemaining a t' n).guild =
        b.guild.setMember (m.decreaseBankRemainingValue t' n) := by
      simp [BankBooks.decreaseRemaining, Guild.decreaseRemaining, hm]
    by_cases hlow : lowPart guid = lowPart a
    · have hmm : m = m' := by
        rw [← Guild.getMember_congr hlow, hmem] at hm
        exact (Option.some.inj hm).symm
      subst hmm
      refine ⟨?_, ?_, ⟨m.decreaseBankRemainingValue t' n, ?_, hrank, ?_⟩, h.renewed⟩
      · rw [hguild]
        exact h.ranks
      · rw [hguild]
        exact h.tabs
      · rw [hguild]
        exact Guild.getMember_setMember_same hm rfl hlow
      · rw [Guild.Member.decreaseBankRemainingValue,
          Guild.Member.setRemaining_ne _ _ (fun ht => hne ⟨hlow.symm, ht.symm⟩)]
        exact hpaid
    · refine h.guild_congr rfl ?_ ?_ ?_
      · rw [hguild]
        rfl
      · rw [hguild]
        rfl
      · rw [hguild]
        exact Guild.getMember_setMember_ne hm rfl hlow

/-- The right to take one item more has been checked, and a further read finds it again. -/
def Ready (b : BankBooks) (a t now : Nat) : Prop :=
  ∃ m, b.guild.getMember a = some m ∧ (m.rankId ≠ GR_GUILDMASTER →
    b.guild.hidden m.rankId t = false ∧ Guild.resetDue (m.bankRemaining t) now = false ∧
      (m.bankRemaining t).value ≠ 0)

theorem Ready.congr {b' : BankBooks} {m m' : Guild.Member} (h : Ready b a t now)
    (hm : b.guild.getMember a = some m) (hm' : b'.guild.getMember a = some m')
    (hranks : b'.guild.ranks = b.guild.ranks) (hrank : m'.rankId = m.rankId)
    (hval : m'.bankRemaining t = m.bankRemaining t) : Ready b' a t now := by
  obtain ⟨m₁, hm₁, hready⟩ := h
  rw [hm] at hm₁
  cases hm₁
  refine ⟨m', hm', ?_⟩
  rw [hrank, hval, Guild.hidden_congr hranks]
  exact hready

theorem resetDue_renewed {v : Nat} (hclock : now / 60 + 24 * 60 < 2 ^ 32) :
    Guild.resetDue { value := v, resetTime := Guild.minutes now } now = false := by
  unfold Guild.resetDue Guild.minutes
  rw [Nat.mod_eq_of_lt (by omega), Nat.mod_eq_of_lt hclock]
  simp

theorem ready_of_read (hclock : now / 60 + 24 * 60 < 2 ^ 32)
    (h : (b.getMemberRemaining a t now).1 ≠ 0) : Ready (b.getMemberRemaining a t now).2 a t now := by
  have h0 : (b.guild.getMemberRemaining a t now).1 ≠ 0 := h
  cases hm : b.guild.getMember a with
  | none => simp [Guild.getMemberRemaining, hm] at h0
  | some m =>
    cases hr : b.guild.renews a t now with
    | true =>
      have hhid : b.guild.hidden m.rankId t = false := by
        simp only [Guild.renews, hm, Bool.and_eq_true, Bool.not_eq_true'] at hr
        exact hr.1.2
      rw [Guild.remaining_renewed hm hr] at h0
      rw [read_renewed hm hr]
      refine ⟨_, Guild.getMember_setMember_same hm rfl rfl, fun _ => ⟨?_, ?_, ?_⟩⟩
      · exact hhid
      · rw [Guild.Member.setRemaining_same]
        exact resetDue_renewed hclock
      · rw [Guild.Member.setRemaining_same]
        exact h0
    | false =>
      have hg : (b.getMemberRemaining a t now).2.guild = b.guild.setMember m :=
        Guild.remaining_kept hm hr
      refine ⟨m, ?_, fun hrank => ?_⟩
      · rw [hg]
        exact (Guild.getMember_setMember_self hm).trans hm
      · have hval := Guild.remaining_value hm hr hrank h0
        have hrank' : m.isRank GR_GUILDMASTER = false := beq_false_of_ne hrank
        rw [hg]
        cases hhid : b.guild.hidden m.rankId t with
        | true =>
          simp [Guild.getMemberRemaining, hm, Guild.Member.getBankRemainingValue, hrank', hhid]
            at h0
        | false =>
          simp only [Guild.renews, hm, hrank', hhid, Bool.not_false, Bool.true_and] at hr
          exact ⟨hhid, hr, hval ▸ h0⟩

theorem read_records : (b.getMemberRemaining a t now).2.records =
    if b.guild.renews a t now then
      .renewed (lowPart a) t (b.getMemberRemaining a t now).1 :: b.records else b.records := rfl

theorem read_due (hr : b.guild.renews a t now = true) :
    (b.getMemberRemaining a t now).2.lastRenewal (lowPart a) t =
        some (b.getMemberRemaining a t now).1 ∧
      (b.getMemberRemaining a t now).2.takenSince (lowPart a) t = 0 := by
  have hrec : (b.getMemberRemaining a t now).2.records =
      .renewed (lowPart a) t (b.getMemberRemaining a t now).1 :: b.records := by
    rw [read_records, if_pos hr]
  have hnew : (BankRecord.renewed (lowPart a) t (b.getMemberRemaining a t now).1).renewal
      (lowPart a) t = some (b.getMemberRemaining a t now).1 := if_pos ⟨rfl, rfl⟩
  exact ⟨BankBooks.lastRenewal_renewed hrec hnew, BankBooks.takenSince_renewed hrec hnew⟩

theorem read_ranks : (b.getMemberRemaining a t now).2.guild.ranks = b.guild.ranks := by
  simp only [BankBooks.getMemberRemaining, Guild.getMemberRemaining]
  split <;> rfl

/-- A read of another value leaves the member's rank and value `t` alone. -/
theorem read_other_member {m : Guild.Member} (hm : b.guild.getMember a = some m) (hne : t' ≠ t) :
    ∃ m', (b.getMemberRemaining a t' now).2.guild.getMember a = some m' ∧ m'.rankId = m.rankId ∧
      m'.bankRemaining t = m.bankRemaining t := by
  cases hr : b.guild.renews a t' now with
  | true =>
    rw [read_renewed hm hr]
    exact ⟨_, Guild.getMember_setMember_same hm rfl rfl, rfl,
      Guild.Member.setRemaining_ne _ _ hne.symm⟩
  | false =>
    have hg : (b.getMemberRemaining a t' now).2.guild = b.guild.setMember m :=
      Guild.remaining_kept hm hr
    refine ⟨m, ?_, rfl, rfl⟩
    rw [hg]
    exact (Guild.getMember_setMember_self hm).trans hm

theorem Ready.read_other (h : Ready b a t now) (hne : t' ≠ t) :
    Ready (b.getMemberRemaining a t' now).2 a t now := by
  obtain ⟨m, hm, _⟩ := id h
  obtain ⟨m', hm', hrank, hval⟩ := read_other_member hm hne
  exact h.congr hm hm' read_ranks hrank hval

theorem renews_read_other {m : Guild.Member} (hm : b.guild.getMember a = some m) (hne : t' ≠ t) :
    (b.getMemberRemaining a t' now).2.guild.renews a t now = b.guild.renews a t now := by
  obtain ⟨m', hm', hrank, hval⟩ : ∃ m', (b.getMemberRemaining a t' now).2.guild.getMember a =
      some m' ∧ m'.rankId = m.rankId ∧ m'.bankRemaining t = m.bankRemaining t :=
    read_other_member hm hne
  simp only [Guild.renews, hm, hm', Guild.Member.isRank, hrank, hval, Guild.hidden_congr read_ranks]

theorem adds_read_other {low : Nat} (hne : t' ≠ t) :
    b.Adds (b.getMemberRemaining a t' now).2 low t 0 := by
  have hrec : (b.getMemberRemaining a t' now).2.records = _ := read_records
  split at hrec
  · exact .of_cons hrec (by simp [BankRecord.renewal, hne])
  · exact .of_records hrec

theorem adds_read_kept {low : Nat} (hr : b.guild.renews a t' now = false) :
    b.Adds (b.getMemberRemaining a t' now).2 low t 0 :=
  .of_records (by rw [read_records, hr]; rfl)

theorem Ready.kept {m : Guild.Member} (h : Ready b a t now) (hm : b.guild.getMember a = some m)
    (hrank : m.rankId ≠ GR_GUILDMASTER) : b.guild.renews a t now = false := by
  obtain ⟨m', hm', hready⟩ := h
  rw [hm] at hm'
  cases hm'
  obtain ⟨hhid, hdue, -⟩ := hready hrank
  simp [Guild.renews, hm, hhid, hdue]

theorem decreaseSlots_records : (b.decreaseMemberRemainingSlots a t now).records =
    (b.getMemberRemaining a t now).2.records := by
  unfold BankBooks.decreaseMemberRemainingSlots
  simp only
  split
  · rfl
  · split <;> rfl

theorem adds_decreaseSlots {low : Nat} (h : t' = t → b.guild.renews a t now = false) :
    b.Adds (b.decreaseMemberRemainingSlots a t' now) low t 0 := by
  have hread : b.Adds (b.getMemberRemaining a t' now).2 low t 0 := by
    by_cases ht : t' = t
    · exact adds_read_kept (ht ▸ h ht)
    · exact adds_read_other ht
  exact hread.trans (.of_records decreaseSlots_records)

theorem Ready.decrease_other (h : Ready b a t now) (hne : t' ≠ t) :
    Ready (b.decreaseRemaining a t' n) a t now := by
  obtain ⟨m, hm, _⟩ := id h
  have hguild : (b.decreaseRemaining a t' n).guild =
      b.guild.setMember (m.decreaseBankRemainingValue t' n) := by
    simp [BankBooks.decreaseRemaining, Guild.decreaseRemaining, hm]
  have hafter : (b.decreaseRemaining a t' n).guild.getMember a =
      some (m.decreaseBankRemainingValue t' n) := by
    rw [hguild]
    exact Guild.getMember_setMember_same hm rfl rfl
  exact h.congr hm hafter (by rw [hguild]; rfl) rfl (Guild.Member.setRemaining_ne _ _ hne.symm)

theorem Even.decreaseSlots (h : Even b₀ m₀ guid t b (1 + debt)) (hrank : m₀.rankId ≠ GR_GUILDMASTER)
    (hready : Ready b a t now) (hlow : lowPart a = lowPart guid) :
    Even b₀ m₀ guid t (b.decreaseMemberRemainingSlots a t now) debt := by
  obtain ⟨m, hm, hready⟩ := hready
  obtain ⟨m', hmem, hrank', hpaid⟩ := id h.member
  have hmm : m = m' := by
    rw [Guild.getMember_congr hlow, hmem] at hm
    exact (Option.some.inj hm).symm
  subst hmm
  obtain ⟨hhid, hdue, h0⟩ := hready (hrank' ▸ hrank)
  have hmaster : m.isRank GR_GUILDMASTER = false := beq_false_of_ne (hrank' ▸ hrank)
  have hr : b.guild.renews a t now = false := by
    simp [Guild.renews, hm, hmaster, hhid, hdue]
  have hval : (b.getMemberRemaining a t now).1 = (m.bankRemaining t).value := by
    simp [BankBooks.getMemberRemaining, Guild.getMemberRemaining, hm,
      Guild.Member.getBankRemainingValue, hmaster, hhid, hdue]
  have hread := h.read_kept hr
  have hguild : (b.getMemberRemaining a t now).2.guild = b.guild.setMember m :=
    Guild.remaining_kept hm hr
  have hm' : (b.getMemberRemaining a t now).2.guild.getMember a = some m := by
    rw [hguild]
    exact (Guild.getMember_setMember_self hm).trans hm
  unfold BankBooks.decreaseMemberRemainingSlots
  simp only [hval, if_neg h0]
  by_cases hlim : (m.bankRemaining t).value < GUILD_WITHDRAW_SLOT_UNLIMITED
  · rw [if_pos hlim]
    exact hread.decrease hm' hlow hlim (Nat.pos_of_ne_zero h0)
  · rw [if_neg hlim]
    obtain ⟨m₁, hm₁, hrank₁, hpaid₁⟩ := hread.member
    have hmm : m = m₁ := by
      rw [Guild.getMember_congr hlow, hm₁] at hm'
      exact (Option.some.inj hm').symm
    subst hmm
    exact ⟨hread.ranks, hread.tabs, ⟨m, hm₁, hrank₁, hpaid₁.unlimited hlim⟩, hread.renewed⟩

theorem Even.decreaseSlots_other (h : Even b₀ m₀ guid t b debt) (hb : b₀.guild.Bounded)
    (hne : ¬ (lowPart a = lowPart guid ∧ t' = t)) :
    Even b₀ m₀ guid t (b.decreaseMemberRemainingSlots a t' now) debt := by
  have hread : Even b₀ m₀ guid t (b.getMemberRemaining a t' now).2 debt := h.read hb (.inr hne)
  unfold BankBooks.decreaseMemberRemainingSlots
  simp only
  split
  · exact hread
  · split
    · exact hread.decrease_other hne
    · exact hread

theorem Ready.decreaseSlots_other (h : Ready b a t now) (hne : t' ≠ t) :
    Ready (b.decreaseMemberRemainingSlots a t' now) a t now := by
  have hread : Ready (b.getMemberRemaining a t' now).2 a t now := h.read_other hne
  unfold BankBooks.decreaseMemberRemainingSlots
  simp only
  split
  · exact hread
  · split
    · exact hread.decrease_other hne
    · exact hread

end Steps

end SkyfireBG
