import SkyfireBG.Mail.Proper

/-!
# SkyfireBG.Mail.Step

What each request at a mailbox does, and that it leaves the mails `Proper`.

`Checked` is what the handlers do not look at themselves: that postage and money add up on 64 bits,
that the item is in the mail it is taken through, and that there still is a sender to be paid.
-/

namespace SkyfireBG

def MailWorld.Checked (cfg : MailConfig) (w : MailWorld) : MailEvent → Prop
  | .sendMail p pkt c _ => w.sendAccepted p pkt c = true → pkt.postage + pkt.money < 2 ^ 64
  | .takeItem p mailId itemId now => ∀ m ∈ w.takeAccepted cfg p now mailId itemId,
      itemId ∈ m.items ∧ (0 < m.cod → w.charExists m.sender = true)
  | _ => True

instance MailWorld.checkedDecidable (cfg : MailConfig) (w : MailWorld) (ev : MailEvent) :
    Decidable (w.Checked cfg ev) := by
  cases ev with
  | sendMail => exact inferInstanceAs (Decidable (_ → _))
  | takeItem => exact inferInstanceAs (Decidable (∀ m ∈ _, _))
  | takeMoney => exact inferInstanceAs (Decidable True)
  | returnToSender => exact inferInstanceAs (Decidable True)
  | delete => exact inferInstanceAs (Decidable True)
  | login => exact inferInstanceAs (Decidable True)
  | getMailList => exact inferInstanceAs (Decidable True)
  | logout => exact inferInstanceAs (Decidable True)

namespace MailWorld

variable {cfg : MailConfig} {w : MailWorld} {p now mailId itemId : Nat} {pkt : SendMailPacket}
  {c : MailChecks} {m : Mail}

theorem mayAttach_some {g : Nat} (h : w.mayAttach p pkt c g = true) :
    ∃ pos, w.items.getItemByGuid p g = some pos ∧
      w.items.canBeTraded c.cond pos g true false = true := by
  unfold mayAttach at h
  cases hpos : w.items.getItemByGuid p g with
  | none => simp [hpos] at h
  | some pos =>
    simp only [hpos, Bool.and_eq_true] at h
    exact ⟨pos, rfl, h.1.1.1.1⟩

theorem sendAccepted_some (h : w.sendAccepted p pkt c = true) :
    pkt.reqmoney ≤ w.money p ∧ ∀ g ∈ pkt.itemGUIDs, w.mayAttach p pkt c g = true := by
  simp only [sendAccepted, Bool.and_eq_true, decide_eq_true_eq, List.all_eq_true] at h
  exact ⟨h.1.1.1.2, h.2⟩

theorem reqmoney_eq (h : pkt.postage + pkt.money < 2 ^ 64) :
    pkt.reqmoney = pkt.postage + pkt.money := Nat.mod_eq_of_lt h

def attached (w : MailWorld) (p : Nat) (pkt : SendMailPacket) : Holdings Nat × MailDraft :=
  pkt.itemGUIDs.foldl (attach p pkt.receiver) (w.items, { money := pkt.money, cod := pkt.cod })

theorem attached_spec (h : w.Proper) (hacc : w.sendAccepted p pkt c = true) :
    Attaching (w.attached p pkt) w.items ∧ (w.attached p pkt).2.money = pkt.money ∧
      (w.attached p pkt).2.cod = pkt.cod := by
  obtain ⟨-, hmay⟩ := sendAccepted_some hacc
  have hstart : Attaching (w.items, { money := pkt.money, cod := pkt.cod }) w.items :=
    ⟨.refl, by simp, by simp, by simp⟩
  refine hstart.foldl h.separate (fun g hg => ?_) (fun g hg => ?_)
  · obtain ⟨pos, hpos, htrade⟩ := mayAttach_some (hmay g hg)
    exact Holdings.unworn_of_canBeTraded h.separate (Holdings.getItemByPos_of_guid hpos) htrade
  · obtain ⟨pos, hpos, -⟩ := mayAttach_some (hmay g hg)
    exact .inl (by simp [hpos])

variable (cfg w p now pkt c) in
theorem handleSendMail_cases : (w.sendAccepted p pkt c = false ∧ w.handleSendMail cfg p now pkt c = w) ∨
    (w.sendAccepted p pkt c = true ∧ ∃ deliverTime, w.handleSendMail cfg p now pkt c =
      ({ w.payMoney p (-toInt32 pkt.reqmoney) with items := (w.attached p pkt).1 } :
        MailWorld).sendMailTo (w.attached p pkt).2 .normal p pkt.receiver deliverTime) := by
  unfold handleSendMail
  cases hacc : w.sendAccepted p pkt c with
  | false => exact .inl ⟨rfl, rfl⟩
  | true => exact .inr ⟨rfl, _, rfl⟩

theorem Proper.handleSendMail (h : w.Proper) (hck : w.Checked cfg (.sendMail p pkt c now)) :
    (w.handleSendMail cfg p now pkt c).Proper := by
  obtain ⟨-, hw'⟩ | ⟨hacc, deliverTime, hw'⟩ :=
    handleSendMail_cases cfg w p now pkt c
  · rw [hw']
    exact h
  · rw [hw']
    obtain ⟨hatt, hmoney, -⟩ := attached_spec h hacc
    obtain ⟨hreq, -⟩ := sendAccepted_some hacc
    have hp := h.money p
    have hsum := reqmoney_eq (hck hacc)
    have hpaid := modifyMoney_debit hp hreq
    have hpay : (w.payMoney p (-toInt32 pkt.reqmoney)).Proper := h.payMoney (by omega)
    have hitems := hpay.items (hatt.lighter.separate h.separate)
      (fun g hg => hatt.lighter.loose (h.loose g hg))
    refine hitems.sendMailTo (by omega) hatt.nodup (fun g hg hmem => ?_) hatt.loose
    obtain ⟨pl, hpl⟩ := hatt.carried g hg
    exact (h.loose g hmem).absent pl hpl

/-! ## Taking -/

variable (p now) in
theorem payCOD_cases (hs : 0 < m.cod → w.charExists m.sender = true) :
    (m.cod = 0 ∧ w.payCOD p now m = w) ∨ (0 < m.cod ∧ w.payCOD p now m =
      (w.sendMailTo { money := m.cod } .normal m.receiver m.sender now).payMoney p
        (-toInt32 m.cod)) := by
  unfold payCOD
  by_cases hcod : m.cod > 0
  · rw [if_pos hcod, if_pos (hs hcod)]
    exact .inr ⟨hcod, rfl⟩
  · rw [if_neg hcod]
    exact .inl ⟨Nat.eq_zero_of_not_pos hcod, rfl⟩

theorem Proper.payCOD (h : w.Proper) (hs : 0 < m.cod → w.charExists m.sender = true)
    (hcod : m.cod ≤ w.money p) : (w.payCOD p now m).Proper := by
  obtain ⟨-, hw'⟩ | ⟨-, hw'⟩ := payCOD_cases p now hs
  · rw [hw']
    exact h
  · rw [hw']
    have hp := h.money p
    have hpaid := modifyMoney_debit hp hcod
    have hsent : (w.sendMailTo { money := m.cod } .normal m.receiver m.sender now).Proper :=
      h.sendMailTo (Nat.le_trans hcod hp) (by simp) (by simp) (by simp)
    refine hsent.payMoney ?_
    show modifyMoney (w.money p) (-toInt32 m.cod) ≤ MAX_MONEY_AMOUNT
    omega

theorem payCOD_items : (w.payCOD p now m).items = w.items := by
  unfold payCOD
  split
  · split <;> rfl
  · rfl

theorem mem_payCOD {x : Mail} (hx : x ∈ (w.payCOD p now m).mails) : x ∈ w.mails ∨ x.items = [] := by
  unfold payCOD at hx
  split at hx
  · split at hx
    · rcases List.mem_cons.mp hx with rfl | hx
      · exact .inr rfl
      · exact .inl hx
    · exact .inl hx
  · exact .inl hx

def taken (w : MailWorld) (p now mailId itemId : Nat) (m : Mail) : MailWorld :=
  ((w.payCOD p now m).modifyMail p mailId
    (fun m => { m with items := m.items.erase itemId, cod := 0 })).removeMItems p [itemId]

variable (cfg w p now mailId itemId) in
theorem handleMailTakeItem_cases :
    (w.takeAccepted cfg p now mailId itemId = none ∧
      w.handleMailTakeItem cfg p now mailId itemId = w) ∨
    ∃ m, w.takeAccepted cfg p now mailId itemId = some m ∧
      w.handleMailTakeItem cfg p now mailId itemId =
        ({ w.taken p now mailId itemId m with
            items := w.items.moveItemToInventory p (w.canTake cfg p itemId).dest itemId } :
          MailWorld).saveMail p := by
  unfold handleMailTakeItem
  cases hacc : w.takeAccepted cfg p now mailId itemId with
  | none => exact .inl ⟨rfl, rfl⟩
  | some m => exact .inr ⟨m, rfl, rfl⟩

theorem not_mailed_taken (h : w.Proper) (hm : w.getMail p mailId = some m) (hin : itemId ∈ m.items)
    {x : Mail} (hx : x ∈ (w.taken p now mailId itemId m).mails) : itemId ∉ x.items := by
  obtain ⟨hmem, hrc, hid, -⟩ := getMail_some hm
  obtain ⟨y, hy, rfl⟩ := List.mem_map.mp hx
  rcases mem_payCOD hy with hy | hy
  · have hnodup : y.items.Nodup := by
      have honce := h.table.once
      unfold mailed at honce
      exact (List.nodup_flatMap.mp honce).1 y hy
    split
    · exact hnodup.not_mem_erase
    · rename_i hne
      intro hgy
      have hym : y = m := h.table.eq_of_item hy hmem hgy hin
      exact hne (by rw [hym]; exact ⟨hrc, hid⟩)
  · split <;> simp [hy]

theorem Proper.handleMailTakeItem (h : w.Proper)
    (hck : w.Checked cfg (.takeItem p mailId itemId now)) :
    (w.handleMailTakeItem cfg p now mailId itemId).Proper := by
  obtain ⟨-, hw'⟩ | ⟨m, hacc, hw'⟩ := handleMailTakeItem_cases cfg w p now mailId itemId
  · rw [hw']
    exact h
  · rw [hw']
    obtain ⟨hm, hdel, hcod⟩ := takeAccepted_some hacc
    obtain ⟨hin, hsender⟩ := hck m hacc
    have hgone : ∀ x ∈ (w.taken p now mailId itemId m).mails, itemId ∉ x.items :=
      fun x hx => not_mailed_taken h hm hin hx
    have hmod : ((w.payCOD p now m).modifyMail p mailId
        (fun m => { m with items := m.items.erase itemId, cod := 0 })).Proper :=
      (h.payCOD hsender hcod).modifyMail
        (fun x => ⟨rfl, rfl, List.erase_sublist, Nat.le_refl _, fun hd => hd⟩)
    have htaken : (w.taken p now mailId itemId m).Proper :=
      hmod.removeMItems (fun x hx _ _ g hg hmem => hgone x hx (List.mem_singleton.mp hmem ▸ hg))
    have hloose : w.items.Loose itemId := h.loose itemId (mem_mailed.mpr ⟨m, (getMail_some hm).1, hin⟩)
    have hmove : _ ∧ Holdings.Later w.items
        (w.items.moveItemToInventory p (w.canTake cfg p itemId).dest itemId) itemId :=
      h.separate.moveTo hloose
    obtain ⟨hsep, hlater⟩ := hmove
    refine (htaken.items hsep (fun g hg => ?_)).saveMail
    obtain ⟨x, hx, hgx⟩ := mem_mailed.mp hg
    have hold : w.items.Loose g := by
      have hlg := htaken.loose g hg
      rwa [show (w.taken p now mailId itemId m).items = w.items from payCOD_items] at hlg
    exact hlater.loose hold (fun hgi => hgone x hx (hgi ▸ hgx))

variable (w p now mailId) in
theorem handleMailTakeMoney_cases :
    (w.getOpenMail p now mailId = none ∧ w.handleMailTakeMoney p now mailId = w) ∨
    ∃ m, w.getOpenMail p now mailId = some m ∧ w.handleMailTakeMoney p now mailId =
      ((w.payMoney p (toInt32 m.money)).modifyMail p mailId
        (fun m => { m with money := 0 })).saveMail p := by
  unfold handleMailTakeMoney
  cases hm : w.getOpenMail p now mailId with
  | none => exact .inl ⟨rfl, rfl⟩
  | some m => exact .inr ⟨m, rfl, rfl⟩

theorem Proper.handleMailTakeMoney (h : w.Proper) : (w.handleMailTakeMoney p now mailId).Proper := by
  obtain ⟨-, hw'⟩ | ⟨m, hm, hw'⟩ :=
    handleMailTakeMoney_cases w p now mailId
  · rw [hw']
    exact h
  · rw [hw']
    have hmem := (getMail_some (getOpenMail_some hm).1).1
    have hcredit := modifyMoney_credit (h.money p) (h.table.amounts m hmem)
    have hmod : ((w.payMoney p (toInt32 m.money)).modifyMail p mailId
        (fun m => { m with money := 0 })).Proper :=
      (h.payMoney hcredit.2).modifyMail
        (fun x => ⟨rfl, rfl, .refl _, Nat.zero_le _, fun hd => hd⟩)
    exact hmod.saveMail

variable (cfg w p now mailId) in
theorem handleMailReturnToSender_cases :
    (w.getOpenMail p now mailId = none ∧ w.handleMailReturnToSender cfg p now mailId = w) ∨
    ∃ m, w.getOpenMail p now mailId = some m ∧
      (w.handleMailReturnToSender cfg p now mailId = w.removeMail p mailId ∨
        w.handleMailReturnToSender cfg p now mailId =
          (w.removeMail p mailId).removeMItems p m.items ∨
        ∃ deliverTime, w.handleMailReturnToSender cfg p now mailId =
          ((w.removeMail p mailId).removeMItems p m.items).sendMailTo
            { items := m.items.filter (fun g => (w.mItems p).contains g), money := m.money } .normal
            m.receiver m.sender deliverTime) := by
  unfold handleMailReturnToSender
  cases hm : w.getOpenMail p now mailId with
  | none => exact .inl ⟨rfl, rfl⟩
  | some m =>
    refine .inr ⟨m, rfl, ?_⟩
    simp only
    split
    · unfold sendReturnToSender
      split
      · exact .inr (.inl rfl)
      · exact .inr (.inr ⟨_, rfl⟩)
    · exact .inl rfl

theorem not_mailed_removed (h : w.Proper) (hm : w.getMail p mailId = some m) {x : Mail} {g : Nat}
    (hx : x ∈ (w.removeMail p mailId).mails) (hg : g ∈ x.items) : g ∉ m.items := by
  obtain ⟨hmem, hrc, hid, -⟩ := getMail_some hm
  obtain ⟨hx, hkept⟩ := List.mem_filter.mp hx
  intro hgm
  have hxm : x = m := h.table.eq_of_item hx hmem hg hgm
  simp [hxm, hrc, hid] at hkept

theorem Proper.handleMailReturnToSender (h : w.Proper) :
    (w.handleMailReturnToSender cfg p now mailId).Proper := by
  obtain ⟨-, hw'⟩ | ⟨m, hm, hw'⟩ := handleMailReturnToSender_cases cfg w p now mailId
  · rw [hw']
    exact h
  · have hget := (getOpenMail_some hm).1
    have hmem := (getMail_some hget).1
    have hremoved : ((w.removeMail p mailId).removeMItems p m.items).Proper :=
      h.removeMail.removeMItems (fun x hx _ _ g hg => not_mailed_removed h hget hx hg)
    rcases hw' with hw' | hw' | ⟨deliverTime, hw'⟩
    · rw [hw']
      exact h.removeMail
    · rw [hw']
      exact hremoved
    · rw [hw']
      refine hremoved.sendMailTo (h.table.amounts m hmem) ((h.table.nodup hmem).filter _)
        (fun g hg hg' => ?_)
        (fun g hg => h.loose g (mem_mailed.mpr ⟨m, hmem, List.mem_of_mem_filter hg⟩))
      obtain ⟨x, hx, hgx⟩ := mem_mailed.mp hg'
      exact not_mailed_removed h hget hx hgx (List.mem_of_mem_filter hg)

theorem Proper.handleMailDelete (h : w.Proper) : (w.handleMailDelete p mailId).Proper := by
  unfold MailWorld.handleMailDelete
  split
  · exact h
  · split
    · exact h
    · exact h.modifyMail (fun x => ⟨rfl, rfl, .refl _, Nat.le_refl _, fun _ => rfl⟩)

theorem Proper.step (h : w.Proper) {ev : MailEvent} (hck : w.Checked cfg ev) :
    (w.step cfg ev).Proper := by
  cases ev with
  | sendMail p pkt c now => exact h.handleSendMail hck
  | takeItem p mailId itemId now => exact h.handleMailTakeItem hck
  | takeMoney p mailId now => exact h.handleMailTakeMoney
  | returnToSender p mailId now => exact h.handleMailReturnToSender
  | delete p mailId => exact h.handleMailDelete
  | login p => exact h.login
  | getMailList p => exact h.handleGetMailList
  | logout p => exact h.logout

end MailWorld

end SkyfireBG
