import SkyfireBG.Auction.Step

/-!
# SkyfireBG.Auction.Conserved

What the auctions promise about money and items.

An item is in one `Spot` at a time: a place of an inventory, an auction or a mail.  `Law` is the promise
for one event: the money of players, mails and auctions changes by the `fee` of the event, mails stay,
and an auction that ends gives its item to a new mail.
-/

namespace SkyfireBG

namespace AuctionWorld

variable {cfg : AuctionConfig} {w w₁ w' : AuctionWorld} {a : AuctionEntry} {p g now : Nat}
  {house : AuctionHouse} {freed : AuctionEntry → Nat} {ids : List Nat} {U : Finset Nat}

def listed (house : AuctionHouse) (ids : List Nat) (a : AuctionEntry) : Bool :=
  a.house == house && ids.contains a.id

theorem listed_iff : listed house ids a = true ↔ a.house = house ∧ a.id ∈ ids := by
  simp [listed]

structure Expired (cfg : AuctionConfig) (U : Finset Nat) (w w' : AuctionWorld)
    (past : AuctionEntry → Bool) : Prop where
  kept : w'.Kept
  total : w'.total U + ((w.auctions.filter past).map (endFee cfg)).sum = w.total U
  quiet : Quiet w w'
  auctions : w'.auctions = w.auctions.filter (fun a => !past a)
  given : ∀ a ∈ w.auctions, past a = true → Given w w' a (heir a)

theorem Expired.congr {past past' : AuctionEntry → Bool} (h : Expired cfg U w w' past)
    (hpast : ∀ a ∈ w.auctions, past' a = past a) : Expired cfg U w w' past' where
  kept := h.kept
  total := by
    rw [List.filter_congr hpast]
    exact h.total
  quiet := h.quiet
  auctions := by
    rw [List.filter_congr (fun a ha => by rw [hpast a ha])]
    exact h.auctions
  given a ha ho := h.given a ha (hpast a ha ▸ ho)

theorem Expired.cons {past past₁ : AuctionEntry → Bool} (h : w.Kept) (ha : a ∈ w.auctions)
    (hauctions : w₁.auctions = (w.removeAuction a).auctions)
    (htotal : w₁.total U + endFee cfg a = w.total U) (hquiet : Quiet w w₁)
    (hgiven : Given w w₁ a (heir a)) (hend : Expired cfg U w₁ w' past₁) (hpast : past a = true)
    (hsame : ∀ x ∈ (w.removeAuction a).auctions, past x = past₁ x) : Expired cfg U w w' past := by
  obtain ⟨l₁, l₂, hl, hrem, -⟩ := h.split ha
  have hrest := hend.total
  have hleft := hend.auctions
  rw [hauctions, hrem] at hrest hleft
  rw [hrem] at hsame
  have hfilter : ∀ l : List AuctionEntry, (∀ x ∈ l, x ∈ l₁ ++ l₂) →
      l.filter past = l.filter past₁ ∧ l.filter (fun x => !past x) = l.filter (fun x => !past₁ x) :=
    fun l hsub => ⟨List.filter_congr (fun x hx => hsame x (hsub x hx)),
      List.filter_congr (fun x hx => by rw [hsame x (hsub x hx)])⟩
  have h₁ := hfilter l₁ (fun x hx => List.mem_append_left _ hx)
  have h₂ := hfilter l₂ (fun x hx => List.mem_append_right _ hx)
  refine ⟨hend.kept, ?_, hquiet.trans hend.quiet, ?_, fun x hx hox => ?_⟩
  · rw [hl, List.filter_append, List.filter_cons_of_pos hpast, h₁.1, h₂.1]
    simp only [List.filter_append, List.map_append, List.map_cons, List.sum_append,
      List.sum_cons] at hrest ⊢
    omega
  · rw [hleft, hl, List.filter_append, List.filter_append, List.filter_cons_of_neg (by simp [hpast]),
      h₁.2, h₂.2]
  · by_cases hxa : x = a
    · rw [hxa]
      exact hgiven.later hend.quiet
    · have hx' : x ∈ l₁ ++ l₂ := by
        rw [hl] at hx
        simp only [List.mem_append, List.mem_cons] at hx ⊢
        tauto
      refine (hend.given x ?_ (hsame x hx' ▸ hox)).before hquiet
      rw [hauctions, hrem]
      exact hx'

theorem expired_foldl (h : w.Kept) (hends : ∀ a ∈ w.auctions, listed house ids a = true →
      w.EndsWell cfg a ∧ ∀ x ∈ w.auctions, freed a = x.itemGuid → x = a) :
    Expired cfg U w (ids.foldl (fun w auctionId => w.expire cfg now house freed auctionId) w)
      (listed house ids) := by
  induction ids generalizing w with
  | nil =>
    have hnone : w.auctions.filter (listed house []) = [] :=
      List.filter_eq_nil_iff.mpr (by simp [listed])
    refine ⟨h, ?_, .refl, ?_, fun a _ ha => by simp [listed] at ha⟩
    · simp [hnone]
    · simp [listed]
  | cons auctionId ids ih =>
    have hweaker : ∀ a, listed house ids a = true → listed house (auctionId :: ids) a = true := by
      intro a ha
      rw [listed_iff] at ha ⊢
      exact ⟨ha.1, List.mem_cons_of_mem _ ha.2⟩
    rw [List.foldl_cons]
    cases hget : w.getAuction house auctionId with
    | none =>
      have hsame : w.expire cfg now house freed auctionId = w := by
        unfold expire
        rw [hget]
      have hnot : ∀ a ∈ w.auctions, ¬(a.house = house ∧ a.id = auctionId) := by
        intro a ha
        have hno := List.find?_eq_none.mp hget a ha
        simpa using hno
      rw [hsame]
      refine (ih h (fun a ha hl => hends a ha (hweaker a hl))).congr (fun a ha => ?_)
      have := hnot a ha
      rw [Bool.eq_iff_iff, listed_iff, listed_iff, List.mem_cons]
      tauto
    | some a =>
      obtain ⟨ha, hhouse, hid⟩ := getAuction_some hget
      have hlisted : listed house (auctionId :: ids) a = true := by
        rw [listed_iff, List.mem_cons]
        exact ⟨hhouse, .inl hid⟩
      obtain ⟨hwell, hfreed⟩ := hends a ha hlisted
      obtain ⟨hkept, htotal, hquiet, hauctions, hgiven⟩ :=
        expire_spec now h hget hwell hfreed (U := U)
      have hmem : ∀ x ∈ (w.removeAuction a).auctions, x ∈ w.auctions ∧
          ¬(x.house = house ∧ x.id = auctionId) := by
        intro x hx
        obtain ⟨hx, hne⟩ := List.mem_filter.mp hx
        rw [hhouse, hid] at hne
        refine ⟨hx, ?_⟩
        rintro ⟨hxh, hxi⟩
        simp [hxh, hxi] at hne
      refine Expired.cons h ha hauctions htotal hquiet hgiven (ih hkept (fun x hx hl => ?_)) hlisted
        (fun x hx => ?_)
      · rw [hauctions] at hx
        obtain ⟨hw, hf⟩ := hends x (hmem x hx).1 (hweaker x hl)
        refine ⟨⟨hquiet.charExists.trans hw.1, fun hb => ?_⟩,
          fun y hy => hf y (hmem y (hauctions ▸ hy)).1⟩
        exact ⟨hquiet.winnerFound.trans (hw.2 hb).1, (hw.2 hb).2⟩
      · have := (hmem x hx).2
        rw [Bool.eq_iff_iff, listed_iff, listed_iff, List.mem_cons]
        tauto

theorem mem_expiredIds (h : w.Kept) (ha : a ∈ w.auctions) :
    a.id ∈ w.expiredIds now ↔ a.expireTime ≤ uint32 (now + 60) := by
  simp only [expiredIds, List.mem_map, List.mem_insertionSort, List.mem_filter, decide_eq_true_eq]
  constructor
  · rintro ⟨x, ⟨hx, ht⟩, hid⟩
    rwa [← List.inj_on_of_nodup_map h.distinct hx ha hid]
  · exact fun ht => ⟨a, ⟨ha, ht⟩, rfl⟩

theorem expired_update (h : w.Kept) (hok : w.Deliverable cfg (.update house freed now)) :
    Expired cfg U w (w.update cfg now house freed) (IsOver house now) := by
  have hpast : ∀ a ∈ w.auctions, decide (IsOver house now a) = listed house (w.expiredIds now) a := by
    intro a ha
    rw [Bool.eq_iff_iff, listed_iff, decide_eq_true_eq, mem_expiredIds h ha]
    rfl
  refine (expired_foldl h (fun a ha hl => hok a ha ?_)).congr hpast
  rw [← hpast a ha] at hl
  exact of_decide_eq_true hl

end AuctionWorld

/-! ## One event -/

def AuctionEvent.player : AuctionEvent → Option Nat
  | .sellItem p _ _ _ _ _ => some p
  | .placeBid p _ _ _ _ => some p
  | .removeItem p _ _ _ => some p
  | _ => none

def AuctionEvent.receiver (a : AuctionEntry) : AuctionEvent → Nat
  | .placeBid p _ _ _ _ => p
  | .update _ _ _ => AuctionWorld.heir a
  | _ => a.owner

namespace AuctionWorld

/-- What holds of one event `ev` that leads from `w` to `w'`. -/
structure Law (cfg : AuctionConfig) (U : Finset Nat) (w : AuctionWorld) (ev : AuctionEvent)
    (w' : AuctionWorld) : Prop where
  total : w'.total U + w.fee cfg ev = w.total U
  mails : ∀ m ∈ w.post.mails, m.deleted = false → m ∈ w'.post.mails
  delivered : ∀ a ∈ w.auctions, (∃ a' ∈ w'.auctions, a'.id = a.id ∧ a'.itemGuid = a.itemGuid ∧
    a'.owner = a.owner) ∨ Given w w' a (ev.receiver a)
  putUp : ∀ pl g, w.post.items.held pl = some g → w'.post.items.held pl = some g ∨
    ∃ a ∈ w'.auctions, a.itemGuid = g
  arrives : ∀ pl g, w'.post.items.held pl = some g → w.post.items.held pl = some g

variable {cfg : AuctionConfig} {w w₁ w' : AuctionWorld} {a : AuctionEntry} {p g now : Nat}
  {house : AuctionHouse} {U : Finset Nat} {ev : AuctionEvent}

theorem Law.of_quiet (hquiet : Quiet w w') (htotal : w'.total U + w.fee cfg ev = w.total U)
    (hdelivered : ∀ a ∈ w.auctions, (∃ a' ∈ w'.auctions, a'.id = a.id ∧ a'.itemGuid = a.itemGuid ∧
      a'.owner = a.owner) ∨ Given w w' a (ev.receiver a)) : Law cfg U w ev w' where
  total := htotal
  mails := hquiet.mails
  delivered := hdelivered
  putUp pl g hg := .inl (by rw [hquiet.items]; exact hg)
  arrives pl g hg := by
    rw [hquiet.items] at hg
    exact hg

theorem Law.of_post {post : MailWorld} (hmails : ∀ m ∈ w.post.mails, m.deleted = false → m ∈ post.mails)
    (hitems : post.items = w.post.items) (htotal : post.total U = w.post.total U)
    (hfee : w.fee cfg ev = 0) : Law cfg U w ev { w with post := post } where
  total := by
    rw [hfee]
    show post.total U + stakes w.auctions = w.post.total U + stakes w.auctions
    rw [htotal]
  mails := hmails
  delivered a ha := .inl ⟨a, ha, rfl, rfl, rfl⟩
  putUp pl g hg := .inl (by show post.items.held pl = some g; rw [hitems]; exact hg)
  arrives pl g hg := by
    have hg' : post.items.held pl = some g := hg
    rw [hitems] at hg'
    exact hg'

theorem law_sellItem {houseId : Nat} {pkt : SellItemPacket} {c : MailChecks} (h : w.Kept) (hp : p ∈ U) :
    (w.handleAuctionSellItem cfg p now house houseId pkt c).Kept ∧
      Law cfg U w (.sellItem p house houseId pkt c now)
        (w.handleAuctionSellItem cfg p now house houseId pkt c) := by
  cases hacc : w.sellAccepted cfg p houseId pkt c with
  | none =>
    have hsame : w.handleAuctionSellItem cfg p now house houseId pkt c = w := by
      unfold handleAuctionSellItem
      rw [hacc]
    rw [hsame]
    exact ⟨h, .of_quiet .refl rfl (fun a ha => .inl ⟨a, ha, rfl, rfl, rfl⟩)⟩
  | some pos =>
    obtain ⟨hkept, htotal, hmails, hauctions, hitems⟩ := sellItem_spec now house h hp hacc
    have hat := (sellAccepted_some now house hacc).1
    obtain ⟨-, -, hheld⟩ := h.post.separate.moveFrom hat
    refine ⟨hkept, htotal, fun m hm _ => hmails ▸ hm, fun a ha => .inl ⟨a, ?_, rfl, rfl, rfl⟩,
      fun pl g hg => ?_, fun pl g hg => ?_⟩
    · rw [hauctions]
      exact List.mem_cons_of_mem _ ha
    · rw [hitems, hheld, hauctions]
      by_cases hpl : pl = w.post.items.placeOf p pos
      · rw [hpl, Holdings.held_of_view (Holdings.view_of_getItemByPos hat)] at hg
        exact .inr ⟨_, List.mem_cons_self .., Option.some.inj hg⟩
      · rw [Function.update_of_ne hpl]
        exact .inl hg
    · rw [hitems] at hg
      exact Holdings.lighter_moveFrom.held pl g hg

theorem law_placeBid {auctionId price : Nat} (h : w.Kept) (hp : p ∈ U) (hzero : p ≠ 0)
    (hok : w.Deliverable cfg (.placeBid p house auctionId price now)) :
    (w.handleAuctionPlaceBid cfg p now house auctionId price).Kept ∧
      Law cfg U w (.placeBid p house auctionId price now)
        (w.handleAuctionPlaceBid cfg p now house auctionId price) := by
  unfold handleAuctionPlaceBid
  cases hacc : w.bidAccepted cfg p house auctionId (uint32 price) with
  | none =>
    refine ⟨h, .of_quiet .refl ?_ (fun a ha => .inl ⟨a, ha, rfl, rfl, rfl⟩)⟩
    simp [fee, hacc]
  | some a =>
    obtain ⟨ha, hworld, hlt, hprice⟩ := bidAccepted_some hacc
    obtain ⟨hb, hbuyout⟩ := hok a hacc
    by_cases hlow : uint32 price < a.buyout ∨ a.buyout = 0
    · simp only [if_pos hlow]
      obtain ⟨hkept, htotal, hquiet, hstays⟩ :=
        bidOn_spec now h hp hzero ha hb hlt hprice hlow
      refine ⟨hkept, .of_quiet hquiet ?_ (fun x hx => .inl (hstays x hx))⟩
      simp only [fee, hacc, if_pos hlow]
      exact htotal
    · simp only [if_neg hlow]
      obtain ⟨howner, hcut⟩ := hbuyout hlow
      obtain ⟨hkept, htotal, hquiet, hauctions, hgiven⟩ := buyOut_spec now h hp hworld ha hb howner
        hcut (fun hz => hlow (.inr hz)) (by omega)
      refine ⟨hkept, .of_quiet hquiet ?_ (fun x hx => ?_)⟩
      · simp only [fee, hacc, if_neg hlow]
        exact htotal
      · rw [hauctions]
        exact (h.gone_or_stays ha hgiven hx).imp_right (fun hg => hg.2)

theorem law_removeItem {auctionId : Nat} (h : w.Kept) (hp : p ∈ U)
    (hok : w.Deliverable cfg (.removeItem p house auctionId now)) :
    (w.handleAuctionRemoveItem cfg p now house auctionId).Kept ∧
      Law cfg U w (.removeItem p house auctionId now)
        (w.handleAuctionRemoveItem cfg p now house auctionId) := by
  cases hacc : w.cancelAccepted cfg p house auctionId with
  | none =>
    have hsame : w.handleAuctionRemoveItem cfg p now house auctionId = w := by
      unfold handleAuctionRemoveItem
      rw [hacc]
    rw [hsame]
    refine ⟨h, .of_quiet .refl ?_ (fun a ha => .inl ⟨a, ha, rfl, rfl, rfl⟩)⟩
    simp [fee, hacc]
  | some a =>
    obtain ⟨ha, howner, -⟩ := cancelAccepted_some hacc
    obtain ⟨hkept, htotal, hquiet, hauctions, hgiven⟩ :=
      removeItem_spec now h hp hacc (hok a hacc)
    refine ⟨hkept, .of_quiet hquiet ?_ (fun x hx => ?_)⟩
    · simp only [fee, hacc]
      exact htotal
    · rw [hauctions]
      refine (h.gone_or_stays ha hgiven hx).imp_right (fun hg => ?_)
      have hrc : AuctionEvent.receiver x (.removeItem p house auctionId now) = p := by
        rw [hg.1]
        exact howner
      rw [hrc]
      exact hg.2

theorem law_update {freed : AuctionEntry → Nat} (h : w.Kept)
    (hok : w.Deliverable cfg (.update house freed now)) :
    (w.update cfg now house freed).Kept ∧
      Law cfg U w (.update house freed now) (w.update cfg now house freed) := by
  have hend := expired_update (U := U) h hok
  refine ⟨hend.kept, .of_quiet hend.quiet hend.total (fun a ha => ?_)⟩
  by_cases hpast : IsOver house now a
  · exact .inr (hend.given a ha (decide_eq_true hpast))
  · refine .inl ⟨a, ?_, rfl, rfl, rfl⟩
    rw [hend.auctions]
    exact List.mem_filter.mpr ⟨ha, by simp [hpast]⟩

theorem law_login (h : w.Kept) : ({ w with post := w.post.login p } : AuctionWorld).Kept ∧
    Law cfg U w (.login p) { w with post := w.post.login p } := by
  have hsame : (w.post.login p).mails = w.post.mails ∧ (w.post.login p).items = w.post.items ∧
      (w.post.login p).total U = w.post.total U := by
    unfold MailWorld.login
    split <;> exact ⟨rfl, rfl, rfl⟩
  obtain ⟨hmails, hitems, htotal⟩ := hsame
  exact ⟨h.ofPost h.post.login hitems (hmails ▸ .refl _),
    .of_post (fun m hm _ => hmails ▸ hm) hitems htotal rfl⟩

theorem law_getMailList (h : w.Kept) :
    ({ w with post := w.post.handleGetMailList p } : AuctionWorld).Kept ∧
      Law cfg U w (.getMailList p) { w with post := w.post.handleGetMailList p } := by
  have hsame : (w.post.handleGetMailList p).mails = w.post.mails ∧
      (w.post.handleGetMailList p).items = w.post.items ∧
      (w.post.handleGetMailList p).total U = w.post.total U := by
    unfold MailWorld.handleGetMailList
    split <;> exact ⟨rfl, rfl, rfl⟩
  obtain ⟨hmails, hitems, htotal⟩ := hsame
  exact ⟨h.ofPost h.post.handleGetMailList hitems (hmails ▸ .refl _),
    .of_post (fun m hm _ => hmails ▸ hm) hitems htotal rfl⟩

theorem law_logout (h : w.Kept) : ({ w with post := w.post.logout p } : AuctionWorld).Kept ∧
    Law cfg U w (.logout p) { w with post := w.post.logout p } := by
  have hitems : (w.post.logout p).items = w.post.items := by simp [MailWorld.logout]
  exact ⟨h.ofPost h.post.logout hitems MailWorld.shrunk_logout.mailed,
    .of_post (fun m hm hdel => MailWorld.Keeps.logout h.post.loaded m hm rfl hdel) hitems
      MailWorld.total_logout rfl⟩

theorem law_setAccount {account : Nat} (h : w.Kept) :
    (w.setAccount p account).Kept ∧ Law cfg U w (.setAccount p account) (w.setAccount p account) := by
  unfold setAccount
  split
  · exact ⟨h, .of_quiet .refl rfl (fun a ha => .inl ⟨a, ha, rfl, rfl, rfl⟩)⟩
  · refine ⟨h.ofPost ?_ rfl (.refl _), .of_post (fun m hm _ => hm) rfl rfl rfl⟩
    exact ⟨h.post.money, h.post.table, h.post.separate, h.post.loose, h.post.loaded⟩

theorem law_step (h : w.Kept) (hp : ∀ p ∈ ev.player, p ∈ U) (hzero : 0 ∉ U)
    (hok : w.Deliverable cfg ev) : (w.step cfg ev).Kept ∧ Law cfg U w ev (w.step cfg ev) := by
  cases ev with
  | sellItem p house houseId pkt c now => exact law_sellItem h (hp p rfl)
  | placeBid p house auctionId price now =>
    exact law_placeBid h (hp p rfl) (fun hz => hzero (hz ▸ hp p rfl)) hok
  | removeItem p house auctionId now => exact law_removeItem h (hp p rfl) hok
  | update house freed now => exact law_update h hok
  | login p => exact law_login h
  | getMailList p => exact law_getMailList h
  | logout p => exact law_logout h
  | setAccount p account => exact law_setAccount h

end AuctionWorld

inductive Spot where
  | inventory (place : Place Nat)
  | auction (id : Nat)
  | mail (id : Nat)

namespace AuctionWorld

/-- Item `g` is there; an item in a deleted mail is nowhere. -/
def At (w : AuctionWorld) (g : Nat) : Spot → Prop
  | .inventory place => w.post.items.held place = some g
  | .auction id => ∃ a ∈ w.auctions, a.id = id ∧ a.itemGuid = g
  | .mail id => w.post.Attached id g

variable {cfg : AuctionConfig} {w w₀ w' : AuctionWorld} {g : Nat} {s s' : Spot} {U : Finset Nat}
  {ev : AuctionEvent} {es : List AuctionEvent}

theorem Kept.unique (h : w.Kept) (hs : w.At g s) (hs' : w.At g s') : s = s' := by
  obtain ⟨-, -, hdisj⟩ := List.nodup_append.mp h.once
  have hauction : ∀ {id}, w.At g (.auction id) → g ∈ w.auctions.map (·.itemGuid) := by
    rintro id ⟨a, ha, -, hg⟩
    exact List.mem_map.mpr ⟨a, ha, hg⟩
  have hmail : ∀ {id}, w.At g (.mail id) → g ∈ mailed w.post.mails := by
    rintro id ⟨m, hm, -, -, hg⟩
    exact mem_mailed.mpr ⟨m, hm, hg⟩
  have hloose : ∀ {id}, w.At g (.auction id) → w.post.items.Loose g := by
    rintro id ⟨a, ha, -, rfl⟩
    exact h.loose a ha
  cases s with
  | inventory pl =>
    cases s' with
    | inventory pl' => rw [h.post.separate.single pl pl' g hs hs']
    | auction id => exact absurd hs ((hloose hs').absent pl)
    | mail id => exact absurd hs ((h.post.loose g (hmail hs')).absent pl)
  | auction id =>
    cases s' with
    | inventory pl => exact absurd hs' ((hloose hs).absent pl)
    | auction id' =>
      obtain ⟨a, ha, rfl, hg⟩ := hs
      obtain ⟨a', ha', rfl, hg'⟩ := hs'
      rw [List.inj_on_of_nodup_map (h.once.of_append_left) ha ha' (hg.trans hg'.symm)]
    | mail id' => exact absurd rfl (hdisj g (hauction hs) g (hmail hs'))
  | mail id =>
    cases s' with
    | inventory pl => exact absurd hs' ((h.post.loose g (hmail hs)).absent pl)
    | auction id' => exact absurd rfl (hdisj g (hauction hs') g (hmail hs))
    | mail id' =>
      obtain ⟨m, hm, rfl, -, hg⟩ := hs
      obtain ⟨m', hm', rfl, -, hg'⟩ := hs'
      rw [h.post.table.eq_of_item hm hm' hg hg']

theorem Law.somewhere (h : Law cfg U w ev w') (hs : ∃ s, w.At g s) : ∃ s, w'.At g s := by
  obtain ⟨s, hs⟩ := hs
  cases s with
  | inventory pl =>
    rcases h.putUp pl g hs with hheld | ⟨a, ha, hg⟩
    · exact ⟨.inventory pl, hheld⟩
    · exact ⟨.auction a.id, a, ha, rfl, hg⟩
  | auction id =>
    obtain ⟨a, ha, rfl, rfl⟩ := hs
    rcases h.delivered a ha with ⟨a', ha', hid, hg, -⟩ | ⟨m, hm, -, hitems, hdel, -⟩
    · exact ⟨.auction a.id, a', ha', hid, hg⟩
    · exact ⟨.mail m.messageID, m, hm, rfl, hdel, by rw [hitems]; simp⟩
  | mail id =>
    obtain ⟨m, hm, hid, hdel, hg⟩ := hs
    exact ⟨.mail id, m, h.mails m hm hdel, hid, hdel, hg⟩

def fees (cfg : AuctionConfig) : AuctionWorld → List AuctionEvent → Nat
  | _, [] => 0
  | w, ev :: es => w.fee cfg ev + fees cfg (w.step cfg ev) es

theorem kept_run (h : w₀.Kept) (hU : ∀ e ∈ es, ∀ p ∈ e.player, p ∈ U) (hzero : 0 ∉ U)
    (hrun : Run (step cfg) (Deliverable cfg) w₀ es w) :
    w.Kept ∧ w.total U + fees cfg w₀ es = w₀.total U ∧
      ∀ g, (∃ s, w₀.At g s) → ∃ s, w.At g s := by
  induction hrun with
  | nil => exact ⟨h, rfl, fun g hs => hs⟩
  | @cons w₁ w₂ ev es hok _ ih =>
    obtain ⟨hkept, hlaw⟩ := law_step h (hU ev (by simp)) hzero hok
    obtain ⟨hend, htotal, hsome⟩ := ih hkept (fun e he => hU e (by simp [he]))
    have hstep := hlaw.total
    refine ⟨hend, ?_, fun g hs => hsome g (hlaw.somewhere hs)⟩
    simp only [fees]
    omega

/-- In every run each item stays in one place, an auction that ends gives its item to one mail, and
money is lost to cuts and forfeited deposits only. -/
theorem auction_law (h : w₀.Kept) (hU : ∀ e ∈ es ++ [ev], ∀ p ∈ e.player, p ∈ U) (hzero : 0 ∉ U)
    (hrun : Run (step cfg) (Deliverable cfg) w₀ (es ++ [ev]) w') :
    (∀ g, (∃ s, w₀.At g s) → ∃! s, w'.At g s) ∧
      w'.total U + fees cfg w₀ (es ++ [ev]) = w₀.total U ∧
      ∃ w, Run (step cfg) (Deliverable cfg) w₀ es w ∧ w' = w.step cfg ev ∧ Law cfg U w ev w' := by
  obtain ⟨hend, htotal, hsome⟩ := kept_run h hU hzero hrun
  refine ⟨fun g hs => ?_, htotal, ?_⟩
  · obtain ⟨s, hs⟩ := hsome g hs
    exact ⟨s, hs, fun s' hs' => hend.unique hs' hs⟩
  · obtain ⟨w, hes, hok, rfl⟩ := hrun.last
    have hw := (kept_run h (fun e he => hU e (by simp [he])) hzero hes).1
    exact ⟨w, hes, rfl, (law_step hw (hU ev (by simp)) hzero hok).2⟩

def auctionConfig (gmLogTrade : Bool) : AuctionConfig where
  deposit _ _ _ _ := 100
  cut _ bid := bid / 20
  fivePct bid := bid / 20
  auctionTime etime := etime
  gmLogTrade := gmLogTrade

def market : AuctionWorld := { post := MailWorld.traders }

theorem market_kept : market.Kept :=
  kept_of_empty (MailWorld.orderly_of_empty MailWorld.traders_proper.money
    MailWorld.traders_proper.separate rfl) rfl rfl rfl

def threeBids : List AuctionEvent :=
  [.sellItem 1 .neutral 7 { item := 1, bid := 100 } {} 0, .placeBid 2 .neutral 1 200 10,
    .placeBid 3 .neutral 1 300 20, .logout 3]

def timeIsUp : AuctionEvent := .update .neutral (·.itemGuid) 43200

/-- With the log of trades the winner gets the cloth while he is away. -/
theorem auction_law_won : ∃ w w', Run (step (auctionConfig true)) (Deliverable (auctionConfig true))
      market threeBids w ∧ w' = w.step (auctionConfig true) timeIsUp ∧ w.post.inWorld 3 = false ∧
      (∃! s, w'.At 1 s) ∧ w'.total {1, 2, 3} + 15 = market.total {1, 2, 3} ∧
      ∃ m ∈ w'.post.mails, m.receiver = 3 ∧ m.items = [1] := by
  have hrun : Run (step (auctionConfig true)) (Deliverable (auctionConfig true)) market
      (threeBids ++ [timeIsUp]) _ := Admitted.run (by decide +kernel)
  obtain ⟨hspot, htotal, w, hes, hw', hlaw⟩ :=
    auction_law (U := {1, 2, 3}) market_kept (by decide) (by decide) hrun
  have hfees : fees (auctionConfig true) market (threeBids ++ [timeIsUp]) = 15 := by decide +kernel
  rw [hfees] at htotal
  refine ⟨w, _, hes, hw', by rw [hes.eq_foldl]; decide +kernel,
    hspot 1 ⟨.inventory (.slot 1 23), by rfl⟩, htotal, ?_⟩
  rw [hes.eq_foldl] at hlaw
  have hpast : ((threeBids ++ [timeIsUp]).foldl (step (auctionConfig true)) market).auctions = [] := by
    decide +kernel
  rcases hlaw.delivered
    { house := .neutral, id := 1, itemGuid := 1, owner := 1, startbid := 100, bid := 300, buyout := 0,
      expireTime := 43200, bidder := 3, deposit := 100, houseId := 7 } (by decide +kernel) with
    ⟨a', ha', -⟩ | ⟨m, hm, hrc, hitems, -⟩
  · rw [hpast] at ha'
    cases ha'
  · exact ⟨m, hm, hrc, hitems⟩

/-- Without the log the cloth is nowhere. -/
theorem auction_law_broken : market.Kept ∧ (∃ s, market.At 1 s) ∧
    ∃ w, Run (step (auctionConfig false)) (fun _ _ => True) market threeBids w ∧
      ∀ s, ¬ (w.step (auctionConfig false) timeIsUp).At 1 s := by
  refine ⟨market_kept, ⟨.inventory (.slot 1 23), by rfl⟩, _, Run.free threeBids, ?_⟩
  have hrun : Run (step (auctionConfig false)) (Deliverable (auctionConfig false)) market threeBids _ :=
    Admitted.run (by decide +kernel)
  have hkept := (kept_run (U := {1, 2, 3}) market_kept (by decide) (by decide) hrun).1
  rintro (pl | id | id) hs
  · have hloose := hkept.loose
      { house := .neutral, id := 1, itemGuid := 1, owner := 1, startbid := 100, bid := 300, buyout := 0,
        expireTime := 43200, bidder := 3, deposit := 100, houseId := 7 } (by decide +kernel)
    exact hloose.absent pl hs
  · obtain ⟨a, ha, -⟩ := hs
    have hpast : ((threeBids.foldl (step (auctionConfig false)) market).step (auctionConfig false)
        timeIsUp).auctions = [] := by decide +kernel
    rw [hpast] at ha
    cases ha
  · obtain ⟨m, hm, -, -, hitem⟩ := hs
    have hnone : ∀ m ∈ ((threeBids.foldl (step (auctionConfig false)) market).step
        (auctionConfig false) timeIsUp).post.mails, 1 ∉ m.items := by decide +kernel
    exact hnone m hm hitem

end AuctionWorld

end SkyfireBG
