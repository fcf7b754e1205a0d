import SkyfireBG.Auction.Kept

/-!
# SkyfireBG.Auction.Step

What each request at an auctioneer and each end of an auction does to the money and the items.

`Deliverable` is what the mails of an event ask for: that those who get something back exist, that a
winner is found, that the cut is covered, and that a deleted entry does not show another item.  `fee` is
the cut or the deposit that an event keeps.
-/

namespace SkyfireBG

namespace AuctionWorld

def EndsWell (cfg : AuctionConfig) (w : AuctionWorld) (a : AuctionEntry) : Prop :=
  w.post.charExists a.owner = true ∧
    (a.bidder ≠ 0 → w.winnerFound cfg a = true ∧ a.getAuctionCut cfg ≤ a.stake)

def BidderExists (w : AuctionWorld) (a : AuctionEntry) : Prop :=
  a.bidder ≠ 0 → w.post.charExists a.bidder = true

/-- The auction as a buyout by `p` leaves it. -/
def wonBy (a : AuctionEntry) (p : Nat) : AuctionEntry := { a with bidder := p, bid := a.buyout }

def IsOver (house : AuctionHouse) (now : Nat) (a : AuctionEntry) : Prop :=
  a.house = house ∧ a.expireTime ≤ uint32 (now + 60)

instance (house : AuctionHouse) (now : Nat) (a : AuctionEntry) : Decidable (IsOver house now a) :=
  inferInstanceAs (Decidable (_ ∧ _))

def Deliverable (cfg : AuctionConfig) (w : AuctionWorld) : AuctionEvent → Prop
  | .placeBid p house auctionId price _ =>
    ∀ a ∈ w.bidAccepted cfg p house auctionId (uint32 price), w.BidderExists a ∧
      (¬(uint32 price < a.buyout ∨ a.buyout = 0) →
        w.post.charExists a.owner = true ∧ (wonBy a p).getAuctionCut cfg ≤ (wonBy a p).stake)
  | .removeItem p house auctionId _ => ∀ a ∈ w.cancelAccepted cfg p house auctionId, w.BidderExists a
  | .update house freed now =>
    ∀ a ∈ w.auctions, IsOver house now a → w.EndsWell cfg a ∧
      ∀ x ∈ w.auctions, freed a = x.itemGuid → x = a
  | _ => True

instance (cfg : AuctionConfig) (w : AuctionWorld) (a : AuctionEntry) :
    Decidable (w.EndsWell cfg a) :=
  inferInstanceAs (Decidable (_ ∧ (_ → _)))

instance (w : AuctionWorld) (a : AuctionEntry) : Decidable (w.BidderExists a) :=
  inferInstanceAs (Decidable (_ → _))

instance deliverableDecidable (cfg : AuctionConfig) (w : AuctionWorld) (ev : AuctionEvent) :
    Decidable (w.Deliverable cfg ev) := by
  cases ev with
  | sellItem => exact inferInstanceAs (Decidable True)
  | placeBid => exact inferInstanceAs (Decidable (∀ a ∈ _, _))
  | removeItem => exact inferInstanceAs (Decidable (∀ a ∈ _, _))
  | update => exact inferInstanceAs (Decidable (∀ a ∈ _, _))
  | login => exact inferInstanceAs (Decidable True)
  | getMailList => exact inferInstanceAs (Decidable True)
  | logout => exact inferInstanceAs (Decidable True)
  | setAccount => exact inferInstanceAs (Decidable True)

def endFee (cfg : AuctionConfig) (a : AuctionEntry) : Nat :=
  if a.bidder = 0 then a.deposit else a.getAuctionCut cfg

def fee (cfg : AuctionConfig) (w : AuctionWorld) : AuctionEvent → Nat
  | .placeBid p house auctionId price _ =>
    match w.bidAccepted cfg p house auctionId (uint32 price) with
    | none => 0
    | some a =>
      if uint32 price < a.buyout ∨ a.buyout = 0 then 0 else (wonBy a p).getAuctionCut cfg
  | .removeItem p house auctionId _ =>
    match w.cancelAccepted cfg p house auctionId with
    | none => 0
    | some a => a.deposit + if a.bidder > 0 then a.getAuctionCut cfg else 0
  | .update house _ now => ((w.auctions.filter (IsOver house now)).map (endFee cfg)).sum
  | _ => 0

variable {cfg : AuctionConfig} {w w₁ w₂ w' : AuctionWorld} {a : AuctionEntry}
  {p g now price receiver deliverTime : Nat} {house : AuctionHouse} {d : MailDraft} {U : Finset Nat}

structure Quiet (w w' : AuctionWorld) : Prop where
  mails : ∀ m ∈ w.post.mails, m.deleted = false → m ∈ w'.post.mails
  items : w'.post.items = w.post.items
  presence : w'.post.presence = w.post.presence
  account : w'.post.account = w.post.account
  next : w.post.nextMailID ≤ w'.post.nextMailID

namespace Quiet

theorem refl : Quiet w w := ⟨fun _ hm _ => hm, rfl, rfl, rfl, Nat.le_refl _⟩

theorem trans (h : Quiet w w₁) (h' : Quiet w₁ w₂) : Quiet w w₂ where
  mails m hm hd := h'.mails m (h.mails m hm hd) hd
  items := h'.items.trans h.items
  presence := h'.presence.trans h.presence
  account := h'.account.trans h.account
  next := Nat.le_trans h.next h'.next

theorem payMoney {x : Int} : Quiet w (w.payMoney p x) := ⟨fun _ hm _ => hm, rfl, rfl, rfl, Nat.le_refl _⟩

theorem sendMail : Quiet w (w.sendMail a d receiver deliverTime) :=
  ⟨fun _ hm _ => List.mem_cons_of_mem _ hm, rfl, rfl, rfl, Nat.le_succ _⟩

theorem setAuction : Quiet w (w.setAuction a) := ⟨fun _ hm _ => hm, rfl, rfl, rfl, Nat.le_refl _⟩

theorem deliver : Quiet w (w.deliver a receiver deliverTime g) :=
  ⟨fun _ hm _ => List.mem_cons_of_mem _ hm, rfl, rfl, rfl, Nat.le_succ _⟩

theorem charExists (h : Quiet w w') {q : Nat} : w'.post.charExists q = w.post.charExists q := by
  simp only [MailWorld.charExists, MailWorld.inWorld, h.presence, h.account]

theorem winnerFound (h : Quiet w w') : w'.winnerFound cfg a = w.winnerFound cfg a := by
  simp only [AuctionWorld.winnerFound, MailWorld.inWorld, h.presence, h.account]

end Quiet

/-- A new mail to `receiver` has the item of the auction and nothing else. -/
def Given (w w' : AuctionWorld) (a : AuctionEntry) (receiver : Nat) : Prop :=
  ∃ m ∈ w'.post.mails, m.receiver = receiver ∧ m.items = [a.itemGuid] ∧ m.deleted = false ∧
    w.post.nextMailID ≤ m.messageID

theorem Given.before (h : Quiet w w₁) (hg : Given w₁ w' a receiver) : Given w w' a receiver := by
  obtain ⟨m, hm, hrc, hitems, hdel, hid⟩ := hg
  exact ⟨m, hm, hrc, hitems, hdel, Nat.le_trans h.next hid⟩

theorem Given.later (hg : Given w w₁ a receiver) (h : Quiet w₁ w') : Given w w' a receiver := by
  obtain ⟨m, hm, hrc, hitems, hdel, hid⟩ := hg
  exact ⟨m, h.mails m hm hdel, hrc, hitems, hdel, hid⟩

theorem given_deliver : Given w (w.deliver a receiver deliverTime g) a receiver :=
  ⟨_, List.mem_cons_self .., rfl, rfl, rfl, Nat.le_refl _⟩

theorem Kept.gone_or_stays (h : w.Kept) (ha : a ∈ w.auctions) (hg : Given w w' a receiver)
    {x : AuctionEntry} (hx : x ∈ w.auctions) :
    (∃ x' ∈ (w.removeAuction a).auctions, x'.id = x.id ∧ x'.itemGuid = x.itemGuid ∧
      x'.owner = x.owner) ∨ (x = a ∧ Given w w' x receiver) := by
  by_cases hkey : x.house = a.house ∧ x.id = a.id
  · have hxa : x = a := List.inj_on_of_nodup_map h.distinct hx ha hkey.2
    exact .inr ⟨hxa, hxa ▸ hg⟩
  · refine .inl ⟨x, List.mem_filter.mpr ⟨hx, ?_⟩, rfl, rfl, rfl⟩
    simp only [Bool.not_eq_true', Bool.and_eq_false_iff, beq_eq_false_iff_ne]
    exact not_and_or.mp hkey

theorem Kept.sendBidBack (h : w.Kept) (now : Nat) (hsums : Sums a) (hb : w.BidderExists a)
    (hbid : a.bidder ≠ 0) :
    (w.sendBidBack now a).Kept ∧ (w.sendBidBack now a).total U = w.total U + a.bid ∧
      Quiet w (w.sendBidBack now a) ∧ (w.sendBidBack now a).auctions = w.auctions ∧
      (w.sendBidBack now a).post.money = w.post.money := by
  have hmax := hsums.bid
  unfold MAX_MONEY_AMOUNT at hmax
  unfold AuctionWorld.sendBidBack
  rw [if_pos (hb hbid)]
  exact ⟨h.sendMoney rfl (by simp only; omega), total_sendMail, .sendMail, rfl, rfl⟩

theorem profit_eq (hbid : a.bid ≤ MAX_MONEY_AMOUNT) (hdeposit : a.deposit ≤ MAX_MONEY_AMOUNT)
    (hcut : a.getAuctionCut cfg ≤ a.stake) : a.profit cfg + a.getAuctionCut cfg = a.stake := by
  unfold MAX_MONEY_AMOUNT at hbid hdeposit
  unfold AuctionEntry.stake at hcut ⊢
  unfold AuctionEntry.profit
  omega

theorem Kept.sendSuccessful (h : w.Kept) (now : Nat) (hbid : a.bid ≤ MAX_MONEY_AMOUNT)
    (hdeposit : a.deposit ≤ MAX_MONEY_AMOUNT) (hcut : a.getAuctionCut cfg ≤ a.stake)
    (howner : w.post.charExists a.owner = true) :
    (w.sendAuctionSuccessfulMail cfg now a).Kept ∧
      (w.sendAuctionSuccessfulMail cfg now a).total U + a.getAuctionCut cfg = w.total U + a.stake ∧
      Quiet w (w.sendAuctionSuccessfulMail cfg now a) ∧
      (w.sendAuctionSuccessfulMail cfg now a).auctions = w.auctions ∧
      (w.sendAuctionSuccessfulMail cfg now a).aItems = w.aItems := by
  have hprofit := profit_eq hbid hdeposit hcut
  have hlt : a.profit cfg ≤ 2 ^ 32 := by
    unfold AuctionEntry.profit
    omega
  unfold sendAuctionSuccessfulMail
  rw [if_pos howner]
  refine ⟨h.sendMoney rfl hlt, ?_, .sendMail, rfl, rfl⟩
  rw [total_sendMail]
  show w.total U + a.profit cfg + a.getAuctionCut cfg = w.total U + a.stake
  omega

theorem Kept.sendWon (h : w.Kept) (now g : Nat) (ha : a ∈ w.auctions) {x : AuctionEntry}
    (hhouse : x.house = a.house)
    (hid : x.id = a.id) (hitem : x.itemGuid = a.itemGuid) (hhouseId : x.houseId = a.houseId)
    (hfound : w.winnerFound cfg x = true) :
    ((w.sendAuctionWonMail cfg now x).removeAItem g).removeAuction x =
      w.deliver a x.bidder now g := by
  have hin : x.itemGuid ∈ w.aItems := hitem ▸ h.aItems a ha
  unfold sendAuctionWonMail AuctionWorld.deliver AuctionWorld.sendMail removeAuction
  rw [if_pos ⟨hin, hfound⟩, hhouse, hid, hitem, hhouseId]

/-! ## Bidding -/

theorem bidAccepted_some {auctionId : Nat} (h : w.bidAccepted cfg p house auctionId price = some a) :
    a ∈ w.auctions ∧ w.post.inWorld p = true ∧ a.bid < price ∧ price ≤ w.post.money p := by
  obtain ⟨hget, hok⟩ := Option.filter_eq_some_iff.mp h
  simp only [Bool.and_eq_true, Bool.not_eq_true', Bool.or_eq_false_iff, decide_eq_true_eq,
    decide_eq_false_iff_not] at hok
  exact ⟨(getAuction_some hget).1, hok.1.1.1.1.1.1.1, by omega, hok.2⟩

theorem toInt32_wrap {x y : Nat} (h : y ≤ x) : toInt32 (x + 2 ^ 32 - y) = toInt32 (x - y) := by
  have hmod : (x + 2 ^ 32 - y) % 2 ^ 32 = (x - y) % 2 ^ 32 := by omega
  unfold toInt32
  rw [hmod]

/-- Player `p` has paid `price` for the auction, and an old bidder has his bid back. -/
structure Charged (U : Finset Nat) (w w₁ : AuctionWorld) (a : AuctionEntry) (price : Nat) : Prop where
  kept : w₁.Kept
  total : w₁.total U + price = w.total U + a.bid
  quiet : Quiet w w₁
  auctions : w₁.auctions = w.auctions

theorem Charged.own (h : w.Kept) (hp : p ∈ U) (hle : a.bid ≤ price) (hprice : price ≤ w.post.money p) :
    Charged U w (w.payMoney p (-toInt32 (price - a.bid))) a price := by
  obtain ⟨hkept, htotal⟩ := h.pay hp (show price - a.bid ≤ w.post.money p by omega)
  exact ⟨hkept, by omega, .payMoney, rfl⟩

theorem Charged.first (h : w.Kept) (hp : p ∈ U) (hbid : a.bid = 0) (hprice : price ≤ w.post.money p) :
    Charged U w (w.payMoney p (-toInt32 price)) a price := by
  obtain ⟨hkept, htotal⟩ := h.pay hp hprice
  exact ⟨hkept, by omega, .payMoney, rfl⟩

theorem Charged.outbid (h : w.Kept) (hp : p ∈ U) (hsums : Sums a) (hb : w.BidderExists a)
    (hbid : a.bidder ≠ 0) (hprice : price ≤ w.post.money p) :
    Charged U w ((w.sendBidBack now a).payMoney p (-toInt32 price)) a price := by
  obtain ⟨hback, hsent, hquiet, hauctions, hmoney⟩ := h.sendBidBack now (U := U) hsums hb hbid
  obtain ⟨hkept, htotal⟩ := hback.pay hp (hmoney.symm ▸ hprice)
  exact ⟨hkept, by omega, hquiet.trans .payMoney, hauctions⟩

theorem Charged.outbid' (h : w.Kept) (hp : p ∈ U) (hsums : Sums a) (hb : w.BidderExists a)
    (hbid : a.bidder ≠ 0) (hprice : price ≤ w.post.money p) :
    Charged U w ((w.payMoney p (-toInt32 price)).sendBidBack now a) a price := by
  obtain ⟨hpaid, htotal⟩ := h.pay hp hprice
  obtain ⟨hkept, hsent, hquiet, hauctions, -⟩ := hpaid.sendBidBack now (U := U) hsums hb hbid
  exact ⟨hkept, by omega, (Quiet.payMoney).trans hquiet, hauctions⟩

variable (now) in
theorem bidOn_spec (h : w.Kept) (hp : p ∈ U) (hzero : p ≠ 0) (ha : a ∈ w.auctions)
    (hb : w.BidderExists a) (hlt : a.bid < price) (hprice : price ≤ w.post.money p)
    (hbuyout : price < a.buyout ∨ a.buyout = 0) :
    (w.bidOn p now a price).Kept ∧ (w.bidOn p now a price).total U = w.total U ∧
      Quiet w (w.bidOn p now a price) ∧
      ∀ x ∈ w.auctions, ∃ x' ∈ (w.bidOn p now a price).auctions, x'.id = x.id ∧
        x'.itemGuid = x.itemGuid ∧ x'.owner = x.owner := by
  have hsums := h.sums a ha
  have hcharged : ∃ w₁, Charged U w w₁ a price ∧
      w.bidOn p now a price = w₁.setAuction { a with bidder := p, bid := price } := by
    unfold bidOn
    by_cases hbid : a.bidder > 0
    · by_cases hown : a.bidder = p
      · exact ⟨_, .own h hp (Nat.le_of_lt hlt) hprice, by rw [if_pos hbid, if_pos hown]⟩
      · exact ⟨_, .outbid h hp hsums hb (Nat.ne_of_gt hbid) hprice, by
          rw [if_pos hbid, if_neg hown]⟩
    · have hnone : a.bidder = 0 := Nat.eq_zero_of_not_pos hbid
      exact ⟨_, .first h hp (hsums.nobody hnone) hprice, by rw [if_neg hbid]⟩
  obtain ⟨w₁, hc, hw'⟩ := hcharged
  have ha₁ : a ∈ w₁.auctions := hc.auctions ▸ ha
  have htotal := hc.kept.total_setBid price (p := p) (U := U) ha₁
  have hcharge := hc.total
  rw [hw']
  refine ⟨hc.kept.setBid ha₁ hzero (Nat.le_trans hprice (h.post.money p)) hbuyout.symm, by omega,
    hc.quiet.trans .setAuction, fun x hx => ?_⟩
  rw [← hc.auctions] at hx
  by_cases hkey : x.house = a.house ∧ x.id = a.id
  · have hxa : x = a := List.inj_on_of_nodup_map hc.kept.distinct hx ha₁ hkey.2
    exact ⟨_, List.mem_map.mpr ⟨x, hx, if_pos hkey⟩, by rw [hxa], by rw [hxa], by rw [hxa]⟩
  · exact ⟨x, List.mem_map.mpr ⟨x, hx, if_neg hkey⟩, rfl, rfl, rfl⟩

variable (now) in
theorem buyOut_spec (h : w.Kept) (hp : p ∈ U) (hworld : w.post.inWorld p = true)
    (ha : a ∈ w.auctions) (hb : w.BidderExists a) (howner : w.post.charExists a.owner = true)
    (hcut : (wonBy a p).getAuctionCut cfg ≤ (wonBy a p).stake) (hbuyout : a.buyout ≠ 0)
    (hprice : a.buyout ≤ w.post.money p) :
    (w.buyOut cfg p now a).Kept ∧
      (w.buyOut cfg p now a).total U + (wonBy a p).getAuctionCut cfg = w.total U ∧
      Quiet w (w.buyOut cfg p now a) ∧ (w.buyOut cfg p now a).auctions = (w.removeAuction a).auctions ∧
      Given w (w.buyOut cfg p now a) a p := by
  have hsums := h.sums a ha
  have hlt : a.bid < a.buyout := hsums.buyout.resolve_left hbuyout
  have hcharged : ∃ w₁, Charged U w w₁ a a.buyout ∧ w.buyOut cfg p now a =
      ((((w₁.sendAuctionSalePendingMail now (wonBy a p)).sendAuctionSuccessfulMail cfg now
        (wonBy a p)).sendAuctionWonMail cfg now (wonBy a p)).removeAItem
          (wonBy a p).itemGuid).removeAuction (wonBy a p) := by
    unfold buyOut
    by_cases hown : p = a.bidder
    · refine ⟨_, .own h hp (Nat.le_of_lt hlt) hprice, ?_⟩
      rw [if_pos hown, toInt32_wrap (Nat.le_of_lt hlt)]
      rfl
    · by_cases hbid : a.bidder ≠ 0
      · exact ⟨_, .outbid' h hp hsums hb hbid hprice, by
          rw [if_neg hown]; simp only [if_pos hbid]; rfl⟩
      · have hnone : a.bidder = 0 := not_not.mp hbid
        exact ⟨_, .first h hp (hsums.nobody hnone) hprice, by
          rw [if_neg hown]; simp only [if_neg hbid]; rfl⟩
  obtain ⟨w₁, hc, hw'⟩ := hcharged
  set w₂ := w₁.sendAuctionSalePendingMail now (wonBy a p) with hw₂
  set w₃ := w₂.sendAuctionSuccessfulMail cfg now (wonBy a p) with hw₃
  have hpending : w₂ = w₁.sendMail (wonBy a p) {} a.owner now :=
    if_pos (hc.quiet.charExists.trans howner)
  have hkept₂ : w₂.Kept := by
    rw [hpending]
    exact hc.kept.sendMoney rfl (Nat.zero_le _)
  have hquiet₂ : Quiet w w₂ := by
    rw [hpending]
    exact hc.quiet.trans .sendMail
  have htotal₂ : w₂.total U = w₁.total U := by
    rw [hpending]
    exact total_sendMail
  have hauctions₂ : w₂.auctions = w.auctions := by
    rw [hpending]
    exact hc.auctions
  obtain ⟨hkept₃, htotal₃, hquiet₃, hauctions₃, -⟩ := hkept₂.sendSuccessful (a := wonBy a p) (U := U)
    now (Nat.le_trans hprice (h.post.money p)) hsums.deposit hcut (hquiet₂.charExists.trans howner)
  rw [← hw₃] at htotal₃
  have hquiet : Quiet w w₃ := hquiet₂.trans hquiet₃
  have hauctions : w₃.auctions = w.auctions := hauctions₃.trans hauctions₂
  have ha₃ : a ∈ w₃.auctions := hauctions ▸ ha
  have hfound : w₃.winnerFound cfg (wonBy a p) = true := by
    rw [hquiet.winnerFound]
    exact Bool.or_eq_true_iff.mpr (.inl hworld)
  have hwon : ((w₃.sendAuctionWonMail cfg now (wonBy a p)).removeAItem
      (wonBy a p).itemGuid).removeAuction (wonBy a p) = w₃.deliver a p now a.itemGuid :=
    hkept₃.sendWon now a.itemGuid ha₃ rfl rfl rfl rfl hfound
  have htotal : (w₃.deliver a p now a.itemGuid).total U + a.stake = w₃.total U := hkept₃.total_deliver ha₃
  have hcharge := hc.total
  have hstake : (wonBy a p).stake + a.bid = a.stake + a.buyout := by
    show a.buyout + a.deposit + a.bid = a.bid + a.deposit + a.buyout
    omega
  rw [hw', hwon]
  refine ⟨hkept₃.deliver ha₃ (hkept₃.alone ha₃), ?_, hquiet.trans .deliver, ?_,
    given_deliver.before hquiet⟩
  · show (w₃.deliver a p now a.itemGuid).total U + _ = _
    omega
  · show (w₃.removeAuction a).auctions = (w.removeAuction a).auctions
    unfold removeAuction
    rw [hauctions]

variable (now house) in
theorem sellAccepted_some {houseId : Nat} {pkt : SellItemPacket} {c : MailChecks} {pos : Pos}
    (h : w.sellAccepted cfg p houseId pkt c = some pos) :
    w.post.items.getItemByPos p pos = some pkt.item ∧
      (w.newAuction cfg p now house houseId pkt).deposit ≤ w.post.money p := by
  obtain ⟨hpos, hok⟩ := Option.filter_eq_some_iff.mp h
  simp only [Bool.and_eq_true, decide_eq_true_eq] at hok
  exact ⟨Holdings.getItemByPos_of_guid hpos, hok.2⟩

variable (now house) in
theorem sellItem_spec (h : w.Kept) (hp : p ∈ U) {houseId : Nat} {pkt : SellItemPacket}
    {c : MailChecks} {pos : Pos} (hacc : w.sellAccepted cfg p houseId pkt c = some pos) :
    (w.handleAuctionSellItem cfg p now house houseId pkt c).Kept ∧
      (w.handleAuctionSellItem cfg p now house houseId pkt c).total U = w.total U ∧
      (w.handleAuctionSellItem cfg p now house houseId pkt c).post.mails = w.post.mails ∧
      (w.handleAuctionSellItem cfg p now house houseId pkt c).auctions =
        w.newAuction cfg p now house houseId pkt :: w.auctions ∧
      (w.handleAuctionSellItem cfg p now house houseId pkt c).post.items =
        w.post.items.moveItemFromInventory p pos := by
  obtain ⟨hat, hmoney⟩ := sellAccepted_some now house hacc
  obtain ⟨hpaid, htotal⟩ := h.pay hp hmoney
  have hmax := h.post.money p
  unfold handleAuctionSellItem
  rw [hacc]
  refine ⟨?_, ?_, rfl, rfl, rfl⟩
  · refine hpaid.sell Holdings.lighter_moveFrom (h.post.separate.moveFrom hat).2.1
      ⟨_, Holdings.held_of_view (Holdings.view_of_getItemByPos hat)⟩ rfl
      ⟨Nat.zero_le _, Nat.le_trans hmoney hmax, ?_, fun _ => rfl⟩
    exact (Nat.eq_zero_or_pos _)
  · have hstake : stakes (w.newAuction cfg p now house houseId pkt :: w.auctions) =
        (w.newAuction cfg p now house houseId pkt).deposit + stakes w.auctions := by
      rw [stakes_cons, AuctionEntry.stake]
      exact congrArg (· + _) (Nat.zero_add _)
    show (w.post.payMoney p (-toInt32 (w.newAuction cfg p now house houseId pkt).deposit)).total U +
      stakes (w.newAuction cfg p now house houseId pkt :: w.auctions) = w.total U
    have htotal' : (w.post.payMoney p
        (-toInt32 (w.newAuction cfg p now house houseId pkt).deposit)).total U + stakes w.auctions +
        (w.newAuction cfg p now house houseId pkt).deposit = w.total U := htotal
    omega

theorem cancelAccepted_some {auctionId : Nat} (h : w.cancelAccepted cfg p house auctionId = some a) :
    a ∈ w.auctions ∧ a.owner = p ∧ (a.bidder ≠ 0 → a.getAuctionCut cfg ≤ w.post.money p) := by
  obtain ⟨hget, hok⟩ := Option.filter_eq_some_iff.mp h
  simp only [Bool.and_eq_true, Bool.or_eq_true, beq_iff_eq, decide_eq_true_eq] at hok
  exact ⟨(getAuction_some hget).1, hok.1.1.2, fun hb => hok.2.resolve_left hb⟩

variable (now) in
theorem removeItem_spec (h : w.Kept) (hp : p ∈ U) {auctionId : Nat}
    (hacc : w.cancelAccepted cfg p house auctionId = some a) (hb : w.BidderExists a) :
    (w.handleAuctionRemoveItem cfg p now house auctionId).Kept ∧
      (w.handleAuctionRemoveItem cfg p now house auctionId).total U +
        (a.deposit + if a.bidder > 0 then a.getAuctionCut cfg else 0) = w.total U ∧
      Quiet w (w.handleAuctionRemoveItem cfg p now house auctionId) ∧
      (w.handleAuctionRemoveItem cfg p now house auctionId).auctions = (w.removeAuction a).auctions ∧
      Given w (w.handleAuctionRemoveItem cfg p now house auctionId) a p := by
  obtain ⟨ha, -, hmoney⟩ := cancelAccepted_some hacc
  have hsums := h.sums a ha
  unfold handleAuctionRemoveItem
  simp only [hacc]
  by_cases hbid : a.bidder > 0
  · simp only [if_pos hbid]
    have hne := Nat.ne_of_gt hbid
    obtain ⟨hback, hsent, hquiet, hauctions, hsame⟩ := h.sendBidBack now (U := U) hsums hb hne
    obtain ⟨hkept, htotal⟩ := hback.pay hp (hsame.symm ▸ hmoney hne)
    set w₁ := (w.sendBidBack now a).payMoney p (-toInt32 (a.getAuctionCut cfg)) with hw₁
    have ha₁ : a ∈ w₁.auctions := hauctions.symm ▸ ha
    have hquiet₁ : Quiet w w₁ := hquiet.trans .payMoney
    have hdel : (w₁.deliver a p now a.itemGuid).total U + a.stake = w₁.total U := hkept.total_deliver ha₁
    refine ⟨hkept.deliver ha₁ (hkept.alone ha₁), ?_, hquiet₁.trans .deliver, ?_,
      given_deliver.before hquiet₁⟩
    · show (w₁.deliver a p now a.itemGuid).total U + _ = _
      unfold AuctionEntry.stake at hdel
      omega
    · show (w₁.removeAuction a).auctions = (w.removeAuction a).auctions
      unfold removeAuction
      rw [show w₁.auctions = w.auctions from hauctions]
  · simp only [if_neg hbid]
    have hdel : (w.deliver a p now a.itemGuid).total U + a.stake = w.total U := h.total_deliver ha
    have hzero := hsums.nobody (Nat.eq_zero_of_not_pos hbid)
    refine ⟨h.deliver ha (h.alone ha), ?_, .deliver, rfl, given_deliver⟩
    show (w.deliver a p now a.itemGuid).total U + _ = _
    unfold AuctionEntry.stake at hdel
    omega

def heir (a : AuctionEntry) : Nat := if a.bidder = 0 then a.owner else a.bidder

variable (now) in
theorem expire_spec (h : w.Kept) {freed : AuctionEntry → Nat} {auctionId : Nat}
    (hget : w.getAuction house auctionId = some a) (hends : w.EndsWell cfg a)
    (hfreed : ∀ x ∈ w.auctions, freed a = x.itemGuid → x = a) :
    (w.expire cfg now house freed auctionId).Kept ∧
      (w.expire cfg now house freed auctionId).total U + endFee cfg a = w.total U ∧
      Quiet w (w.expire cfg now house freed auctionId) ∧
      (w.expire cfg now house freed auctionId).auctions = (w.removeAuction a).auctions ∧
      Given w (w.expire cfg now house freed auctionId) a (heir a) := by
  have ha := (getAuction_some hget).1
  have hsums := h.sums a ha
  obtain ⟨howner, hwinner⟩ := hends
  unfold expire
  simp only [hget]
  by_cases hbid : a.bidder = 0
  · have hsent : ((w.sendEndMails cfg now a).removeAuction a).removeAItem (freed a) =
        w.deliver a (heir a) now (freed a) := by
      unfold sendEndMails sendAuctionExpiredMail heir
      rw [if_pos hbid, if_pos ⟨h.aItems a ha, howner⟩, if_pos hbid]
      rfl
    have hdel : (w.deliver a (heir a) now (freed a)).total U + a.stake = w.total U := h.total_deliver ha
    have hzero := hsums.nobody hbid
    rw [hsent]
    refine ⟨h.deliver ha hfreed, ?_, .deliver, rfl, given_deliver⟩
    unfold endFee
    unfold AuctionEntry.stake at hdel
    rw [if_pos hbid]
    omega
  · obtain ⟨hfound, hcut⟩ := hwinner hbid
    obtain ⟨hkept, htotal, hquiet, hauctions, haItems⟩ :=
      h.sendSuccessful now (U := U) hsums.bid hsums.deposit hcut howner
    set w₁ := w.sendAuctionSuccessfulMail cfg now a with hw₁
    have ha₁ : a ∈ w₁.auctions := hauctions ▸ ha
    have hsent : ((w.sendEndMails cfg now a).removeAuction a).removeAItem (freed a) =
        w₁.deliver a (heir a) now (freed a) := by
      unfold sendEndMails heir
      rw [if_neg hbid, if_neg hbid]
      exact hkept.sendWon now (freed a) ha₁ rfl rfl rfl rfl (hquiet.winnerFound.trans hfound)
    have hdel : (w₁.deliver a (heir a) now (freed a)).total U + a.stake = w₁.total U :=
      hkept.total_deliver ha₁
    rw [hsent]
    refine ⟨hkept.deliver ha₁ (hauctions.symm ▸ hfreed), ?_, hquiet.trans .deliver, ?_,
      given_deliver.before hquiet⟩
    · unfold endFee
      rw [if_neg hbid]
      omega
    · show (w₁.removeAuction a).auctions = (w.removeAuction a).auctions
      unfold removeAuction
      rw [hauctions]

end AuctionWorld

end SkyfireBG
