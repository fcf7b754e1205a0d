import SkyfireBG.Auction.Data
import SkyfireBG.Mail.Conserved

/-!
# SkyfireBG.Auction.Kept

The invariant of the auctions, and what an operation is made of.

`Kept` says that an item is listed once over all auctions and mails and is in no inventory then, and
that a bid is below the buyout.  Operations pay money, send a mail with money, change a bid, put up an
item (`sell`) and hand it over (`deliver`); each has a lemma for the invariant and one for the money.
-/

namespace SkyfireBG

def AuctionEntry.stake (a : AuctionEntry) : Nat := a.bid + a.deposit

def stakes (auctions : List AuctionEntry) : Nat := (auctions.map AuctionEntry.stake).sum

namespace AuctionWorld

structure Sums (a : AuctionEntry) : Prop where
  bid : a.bid ≤ MAX_MONEY_AMOUNT
  deposit : a.deposit ≤ MAX_MONEY_AMOUNT
  buyout : a.buyout = 0 ∨ a.bid < a.buyout
  nobody : a.bidder = 0 → a.bid = 0

structure Kept (w : AuctionWorld) : Prop where
  post : w.post.Orderly (2 ^ 32)
  ids : ∀ a ∈ w.auctions, a.id < w.nextAuctionID
  distinct : (w.auctions.map (·.id)).Nodup
  once : (w.auctions.map (·.itemGuid) ++ mailed w.post.mails).Nodup
  loose : ∀ a ∈ w.auctions, w.post.items.Loose a.itemGuid
  aItems : ∀ a ∈ w.auctions, a.itemGuid ∈ w.aItems
  sums : ∀ a ∈ w.auctions, Sums a

/-- The money of the players `U`, of the mails and of the auctions. -/
def total (U : Finset Nat) (w : AuctionWorld) : Nat := w.post.total U + stakes w.auctions

/-- The auction is over and its item is mailed; `g` is taken out of `mAitems`. -/
def deliver (w : AuctionWorld) (a : AuctionEntry) (receiver deliverTime g : Nat) : AuctionWorld :=
  ((w.sendMail a { items := [a.itemGuid] } receiver deliverTime).removeAItem g).removeAuction a

variable {w : AuctionWorld} {a a' : AuctionEntry} {p g receiver deliverTime : Nat} {d : MailDraft}
  {U : Finset Nat}

theorem Kept.split (h : w.Kept) (ha : a ∈ w.auctions) : ∃ l₁ l₂, w.auctions = l₁ ++ a :: l₂ ∧
    (w.removeAuction a).auctions = l₁ ++ l₂ ∧
    ∀ x, x.house = a.house → x.id = a.id → (w.setAuction x).auctions = l₁ ++ x :: l₂ := by
  obtain ⟨l₁, l₂, hl⟩ := List.append_of_mem ha
  have hids := h.distinct
  simp only [hl, List.map_append, List.map_cons, List.nodup_middle, List.nodup_cons, List.mem_append,
    List.mem_map, not_or, not_exists, not_and] at hids
  have hne : ∀ x, x ∈ l₁ ∨ x ∈ l₂ → ¬(x.house = a.house ∧ x.id = a.id) := by
    rintro x (hx | hx) ⟨-, hid⟩
    · exact hids.1.1 x hx hid
    · exact hids.1.2 x hx hid
  refine ⟨l₁, l₂, hl, ?_, fun x hhouse hid => ?_⟩
  · have hkeep : ∀ l : List AuctionEntry, (∀ x ∈ l, x ∈ l₁ ∨ x ∈ l₂) →
        l.filter (fun x => !(x.house == a.house && x.id == a.id)) = l := by
      intro l hsub
      refine List.filter_eq_self.mpr (fun x hx => ?_)
      simp only [Bool.not_eq_true', Bool.and_eq_false_iff, beq_eq_false_iff_ne]
      exact not_and_or.mp (hne x (hsub x hx))
    simp only [removeAuction, hl, List.filter_append]
    rw [hkeep l₁ (fun x hx => .inl hx), List.filter_cons_of_neg (by simp), hkeep l₂ (fun x hx => .inr hx)]
  · have hkeep : ∀ l : List AuctionEntry, (∀ y ∈ l, y ∈ l₁ ∨ y ∈ l₂) →
        l.map (fun y => if y.house = x.house ∧ y.id = x.id then x else y) = l := by
      intro l hsub
      refine List.map_congr_left (fun y hy => ?_) |>.trans (List.map_id l)
      rw [if_neg (by rw [hhouse, hid]; exact hne y (hsub y hy))]
      rfl
    simp only [setAuction, hl, List.map_append, List.map_cons]
    rw [hkeep l₁ (fun y hy => .inl hy), hkeep l₂ (fun y hy => .inr hy), if_pos ⟨hhouse.symm, hid.symm⟩]

theorem stakes_append {l₁ l₂ : List AuctionEntry} : stakes (l₁ ++ l₂) = stakes l₁ + stakes l₂ := by
  simp [stakes]

theorem stakes_cons {l : List AuctionEntry} : stakes (a :: l) = a.stake + stakes l := by
  simp [stakes]

theorem Kept.stakes_remove (h : w.Kept) (ha : a ∈ w.auctions) :
    stakes (w.removeAuction a).auctions + a.stake = stakes w.auctions := by
  obtain ⟨l₁, l₂, hl, hrem, -⟩ := h.split ha
  rw [hrem, hl, stakes_append, stakes_append, stakes_cons]
  omega

theorem Kept.stakes_set (h : w.Kept) (ha : a ∈ w.auctions) (hhouse : a'.house = a.house)
    (hid : a'.id = a.id) :
    stakes (w.setAuction a').auctions + a.stake = stakes w.auctions + a'.stake := by
  obtain ⟨l₁, l₂, hl, -, hset⟩ := h.split ha
  rw [hset a' hhouse hid, hl, stakes_append, stakes_append, stakes_cons, stakes_cons]
  omega

theorem getAuction_some {house : AuctionHouse} {auctionId : Nat}
    (h : w.getAuction house auctionId = some a) :
    a ∈ w.auctions ∧ a.house = house ∧ a.id = auctionId := by
  have hfound := List.find?_some h
  simp only [Bool.and_eq_true, beq_iff_eq] at hfound
  exact ⟨List.mem_of_find?_eq_some h, hfound.1, hfound.2⟩

theorem kept_of_empty (hpost : w.post.Orderly (2 ^ 32)) (hauctions : w.auctions = [])
    (haItems : w.aItems = []) (hmails : w.post.mails = []) : w.Kept := by
  refine ⟨hpost, ?_, ?_, ?_, ?_, ?_, ?_⟩ <;> simp [hauctions, haItems, hmails, mailed]

namespace Kept

theorem ofPost (h : w.Kept) {post : MailWorld} (hpost : post.Orderly (2 ^ 32))
    (hitems : post.items = w.post.items) (hmailed : (mailed post.mails).Sublist (mailed w.post.mails)) :
    ({ w with post := post } : AuctionWorld).Kept where
  post := hpost
  ids := h.ids
  distinct := h.distinct
  once := h.once.sublist ((List.Sublist.refl _).append hmailed)
  loose := by
    show ∀ a ∈ w.auctions, post.items.Loose a.itemGuid
    rw [hitems]
    exact h.loose
  aItems := h.aItems
  sums := h.sums

theorem payMoney (h : w.Kept) {x : Int} (hx : modifyMoney (w.post.money p) x ≤ MAX_MONEY_AMOUNT) :
    (w.payMoney p x).Kept :=
  h.ofPost (h.post.payMoney hx) rfl (.refl _)

theorem sendMoney (h : w.Kept) (hitems : d.items = []) (hmoney : d.money ≤ 2 ^ 32) :
    (w.sendMail a d receiver deliverTime).Kept := by
  refine h.ofPost (h.post.sendMailTo hmoney (by simp [hitems]) (by simp [hitems]) (by simp [hitems]))
    rfl ?_
  show (mailed (_ :: w.post.mails)).Sublist _
  rw [mailed_cons]
  simp [MailWorld.newMail, hitems]

theorem setBid (h : w.Kept) (ha : a ∈ w.auctions) {price : Nat} (hp : p ≠ 0)
    (hprice : price ≤ MAX_MONEY_AMOUNT) (hbuyout : a.buyout = 0 ∨ price < a.buyout) :
    (w.setAuction { a with bidder := p, bid := price }).Kept := by
  obtain ⟨l₁, l₂, hl, -, hset⟩ := h.split ha
  have hset := hset { a with bidder := p, bid := price } rfl rfl
  have hmem : ∀ x ∈ (w.setAuction { a with bidder := p, bid := price }).auctions,
      x = { a with bidder := p, bid := price } ∨ x ∈ w.auctions := by
    intro x hx
    rw [hset] at hx
    rw [hl]
    simp only [List.mem_append, List.mem_cons] at hx ⊢
    tauto
  have hids : (w.setAuction { a with bidder := p, bid := price }).auctions.map (·.id) =
      w.auctions.map (·.id) := by
    simp [hset, hl]
  have hitems : (w.setAuction { a with bidder := p, bid := price }).auctions.map (·.itemGuid) =
      w.auctions.map (·.itemGuid) := by
    simp [hset, hl]
  refine ⟨h.post, fun x hx => ?_, hids ▸ h.distinct, ?_, fun x hx => ?_, fun x hx => ?_, fun x hx => ?_⟩
  · rcases hmem x hx with rfl | hx
    · exact h.ids a ha
    · exact h.ids x hx
  · rw [hitems]
    exact h.once
  · rcases hmem x hx with rfl | hx
    · exact h.loose a ha
    · exact h.loose x hx
  · rcases hmem x hx with rfl | hx
    · exact h.aItems a ha
    · exact h.aItems x hx
  · rcases hmem x hx with rfl | hx
    · exact ⟨hprice, (h.sums a ha).deposit, hbuyout, fun hzero => absurd hzero hp⟩
    · exact h.sums x hx

theorem deliver (h : w.Kept) (ha : a ∈ w.auctions)
    (hg : ∀ x ∈ w.auctions, g = x.itemGuid → x = a) : (w.deliver a receiver deliverTime g).Kept := by
  obtain ⟨l₁, l₂, hl, hrem, -⟩ := h.split ha
  have hsub : ∀ x ∈ l₁ ++ l₂, x ∈ w.auctions := by
    intro x hx
    rw [hl]
    simp only [List.mem_append, List.mem_cons] at hx ⊢
    tauto
  have hauctions : (w.deliver a receiver deliverTime g).auctions = l₁ ++ l₂ := hrem
  have honce := h.once
  have hperm : (w.auctions.map (·.itemGuid) ++ mailed w.post.mails).Perm
      ((l₁ ++ l₂).map (·.itemGuid) ++ (a.itemGuid :: mailed w.post.mails)) := by
    rw [hl]
    simp only [List.map_append, List.map_cons, List.append_assoc, List.cons_append]
    refine (List.Perm.refl _).append ?_
    exact List.perm_middle.symm
  have honce' := hperm.nodup_iff.mp honce
  have hnot : a.itemGuid ∉ mailed w.post.mails ∧ ∀ x ∈ l₁ ++ l₂, x.itemGuid ≠ a.itemGuid := by
    obtain ⟨-, hright, hdisj⟩ := List.nodup_append.mp honce'
    refine ⟨(List.nodup_cons.mp hright).1, fun x hx hxa => ?_⟩
    exact hdisj x.itemGuid (List.mem_map.mpr ⟨x, hx, rfl⟩) a.itemGuid (by simp) hxa
  refine ⟨?_, fun x hx => h.ids x (hsub x (hauctions ▸ hx)), ?_, ?_,
    fun x hx => h.loose x (hsub x (hauctions ▸ hx)), fun x hx => ?_,
    fun x hx => h.sums x (hsub x (hauctions ▸ hx))⟩
  · exact h.post.sendMailTo (Nat.zero_le _) (by simp) (by simpa using hnot.1)
      (by simpa using h.loose a ha)
  · rw [hauctions]
    refine h.distinct.sublist ?_
    rw [hl]
    exact ((List.Sublist.refl l₁).append (List.sublist_cons_self a l₂)).map _
  · rw [hauctions]
    show (_ ++ mailed (_ :: w.post.mails)).Nodup
    rw [mailed_cons]
    exact honce'
  · rw [hauctions] at hx
    refine List.mem_filter.mpr ⟨h.aItems x (hsub x hx), decide_eq_true (fun hxg => ?_)⟩
    exact hnot.2 x hx (by rw [hg x (hsub x hx) hxg.symm])

theorem alone (h : w.Kept) (ha : a ∈ w.auctions) : ∀ x ∈ w.auctions, a.itemGuid = x.itemGuid → x = a :=
  fun _ hx hg => List.inj_on_of_nodup_map h.once.of_append_left hx ha hg.symm

theorem sell (h : w.Kept) {items : Holdings Nat} (hlight : items.Lighter w.post.items)
    (hg : items.Loose a.itemGuid) (hin : ∃ pl, w.post.items.held pl = some a.itemGuid)
    (hid : a.id = w.nextAuctionID) (hsums : Sums a) :
    ({ post := { w.post with items := items }
       auctions := a :: w.auctions
       aItems := a.itemGuid :: w.aItems
       nextAuctionID := w.nextAuctionID + 1 } : AuctionWorld).Kept := by
  obtain ⟨pl, hpl⟩ := hin
  have hnew : a.itemGuid ∉ w.auctions.map (·.itemGuid) ++ mailed w.post.mails := by
    intro hmem
    rcases List.mem_append.mp hmem with hmem | hmem
    · obtain ⟨x, hx, hxa⟩ := List.mem_map.mp hmem
      exact (h.loose x hx).absent pl (hxa ▸ hpl)
    · exact (h.post.loose _ hmem).absent pl hpl
  refine ⟨?_, fun x hx => ?_, ?_, List.nodup_cons.mpr ⟨hnew, h.once⟩, fun x hx => ?_, fun x hx => ?_,
    fun x hx => ?_⟩
  · exact h.post.items (hlight.separate h.post.separate)
      (fun g hg => hlight.loose (h.post.loose g hg))
  · rcases List.mem_cons.mp hx with rfl | hx
    · exact hid ▸ Nat.lt_succ_self _
    · exact Nat.lt_succ_of_lt (h.ids x hx)
  · refine List.nodup_cons.mpr ⟨fun hmem => ?_, h.distinct⟩
    obtain ⟨x, hx, hxa⟩ := List.mem_map.mp hmem
    have hlt : x.id < a.id := hid ▸ h.ids x hx
    exact absurd hxa (Nat.ne_of_lt hlt)
  · rcases List.mem_cons.mp hx with rfl | hx
    · exact hg
    · exact hlight.loose (h.loose x hx)
  · rcases List.mem_cons.mp hx with rfl | hx
    · exact List.mem_cons_self ..
    · exact List.mem_cons_of_mem _ (h.aItems x hx)
  · rcases List.mem_cons.mp hx with rfl | hx
    · exact hsums
    · exact h.sums x hx

theorem pay (h : w.Kept) (hp : p ∈ U) {amount : Nat} (hamount : amount ≤ w.post.money p) :
    (w.payMoney p (-toInt32 amount)).Kept ∧
      (w.payMoney p (-toInt32 amount)).total U + amount = w.total U := by
  have hpaid := modifyMoney_debit (h.post.money p) hamount
  have hmax := h.post.money p
  have hpay := MailWorld.total_payMoney (w := w.post) hp (x := -toInt32 amount)
  refine ⟨h.payMoney (by omega), ?_⟩
  show (w.post.payMoney p (-toInt32 amount)).total U + stakes w.auctions + amount =
    w.post.total U + stakes w.auctions
  omega

end Kept

theorem total_sendMail : (w.sendMail a d receiver deliverTime).total U = w.total U + d.money := by
  show (w.post.sendMailTo d .auction a.houseId receiver deliverTime).total U + _ = _ + _ + _
  rw [MailWorld.total_sendMailTo]
  exact Nat.add_right_comm ..

theorem Kept.total_deliver (h : w.Kept) (ha : a ∈ w.auctions) :
    (w.deliver a receiver deliverTime g).total U + a.stake = w.total U := by
  have hsent : (w.sendMail a { items := [a.itemGuid] } receiver deliverTime).post.total U =
      w.post.total U := MailWorld.total_sendMailTo
  have hrem := h.stakes_remove ha
  show (w.sendMail a { items := [a.itemGuid] } receiver deliverTime).post.total U +
    stakes (w.removeAuction a).auctions + a.stake = w.post.total U + stakes w.auctions
  omega

theorem Kept.total_setBid (h : w.Kept) (price : Nat) (ha : a ∈ w.auctions) :
    (w.setAuction { a with bidder := p, bid := price }).total U + a.bid = w.total U + price := by
  have hset : stakes (w.setAuction { a with bidder := p, bid := price }).auctions + a.stake =
      stakes w.auctions + (price + a.deposit) := h.stakes_set ha rfl rfl
  unfold AuctionEntry.stake at hset
  show w.post.total U + stakes (w.setAuction { a with bidder := p, bid := price }).auctions + a.bid =
    w.post.total U + stakes w.auctions + price
  omega

end AuctionWorld

end SkyfireBG
