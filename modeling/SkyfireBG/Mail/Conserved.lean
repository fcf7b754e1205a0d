import SkyfireBG.Lib.Run
import SkyfireBG.Mail.Step

/-!
# SkyfireBG.Mail.Conserved

What the mails promise about money and items, for any requests with any contents.

`Law` is the promise for one event: the money of players and undeleted mails does not grow, an
accepted mail costs its postage and its money, an item leaves a mail by an operation on that mail
only, and an item of a COD mail is paid for when it is taken.
-/

namespace SkyfireBG

def MailEvent.mail : MailEvent → Option Nat
  | .takeItem _ mailId _ _ => some mailId
  | .takeMoney _ mailId _ => some mailId
  | .returnToSender _ mailId _ => some mailId
  | .delete _ mailId => some mailId
  | _ => none

namespace MailWorld

/-- The money of the players `U` and of the mails that are not deleted. -/
def total (U : Finset Nat) (w : MailWorld) : Nat := ∑ p ∈ U, w.money p + purses w.mails

/-- Item `g` is attached to the mail with this id. -/
def Attached (w : MailWorld) (mailId g : Nat) : Prop :=
  ∃ m ∈ w.mails, m.messageID = mailId ∧ m.deleted = false ∧ g ∈ m.items

/-- What holds of one event `ev` that leads from `w` to `w'`. -/
structure Law (cfg : MailConfig) (U : Finset Nat) (w : MailWorld) (ev : MailEvent)
    (w' : MailWorld) : Prop where
  total : w'.total U ≤ w.total U
  /-- An accepted mail costs its postage and the money in it. -/
  debit : ∀ p pkt c now, ev = .sendMail p pkt c now → w.sendAccepted p pkt c = true →
    w'.money p + (pkt.postage + pkt.money) = w.money p ∧
      ∃ m ∈ w'.mails, m.messageID = w.nextMailID ∧ m.receiver = pkt.receiver ∧
        m.money = pkt.money ∧ m.cod = pkt.cod
  leaves : ∀ i g, w.Attached i g → w'.Attached i g ∨ ev.mail = some i
  /-- An item with COD is taken through its own mail, and what is paid goes to the sender. -/
  cod : ∀ p i g now, ev = .takeItem p i g now → (w.takeAccepted cfg p now i g).isSome = true →
    ∀ m ∈ w.mails, m.deleted = false → g ∈ m.items → 0 < m.cod →
      m.messageID = i ∧ w'.money p + m.cod = w.money p ∧
        ∃ m' ∈ w'.mails, m'.messageID = w.nextMailID ∧ m'.receiver = m.sender ∧
          m'.money = m.cod ∧ m'.deleted = false
  arrives : ∀ pl g, w'.items.held pl = some g → (∃ pl', w.items.held pl' = some g) ∨
    w.items.nextGuid ≤ g ∨
    ∃ p i now, ev = .takeItem p i g now ∧ (w.takeAccepted cfg p now i g).isSome = true

variable {cfg : MailConfig} {U : Finset Nat} {w w' : MailWorld} {p now mailId itemId : Nat}
  {pkt : SendMailPacket} {c : MailChecks} {m : Mail} {d : MailDraft}

theorem total_payMoney (hp : p ∈ U) {x : Int} :
    (w.payMoney p x).total U + w.money p = w.total U + modifyMoney (w.money p) x := by
  unfold total payMoney
  simp only
  rw [Finset.sum_update_of_mem hp, ← Finset.add_sum_erase U w.money hp, Finset.sdiff_singleton_eq_erase]
  omega

theorem total_sendMailTo {messageType : MailMessageType} {sender receiver deliverTime : Nat} :
    (w.sendMailTo d messageType sender receiver deliverTime).total U = w.total U + d.money := by
  simp only [total, sendMailTo, purses_cons, newMail, Mail.purse, Bool.false_eq_true, if_false]
  omega

theorem total_of_shrunk (hmoney : w'.money = w.money) (hs : Shrunk w'.mails w.mails) :
    w'.total U ≤ w.total U := by
  unfold total
  rw [hmoney]
  exact Nat.add_le_add_left hs.purses _

@[simp] theorem saveMail_money : (w.saveMail p).money = w.money := by
  unfold saveMail
  split <;> rfl

@[simp] theorem saveMail_items : (w.saveMail p).items = w.items := by
  unfold saveMail
  split <;> rfl

theorem total_saveMail : (w.saveMail p).total U ≤ w.total U :=
  total_of_shrunk saveMail_money shrunk_saveMail

theorem total_logout : (w.logout p).total U = w.total U := by
  have hsaved : purses (w.saveMail p).mails = purses w.mails := by
    unfold saveMail
    split
    · exact purses_filter_eq (by simp)
    · rfl
  unfold total MailWorld.logout
  simp only [saveMail_money]
  split
  · rw [purses_map_eq, hsaved]
    intro m
    split <;> rfl
  · rw [hsaved]

theorem total_modifyMail {f : Mail → Mail} (hf : ∀ x, Mail.Rest (f x) x) :
    (w.modifyMail p mailId f).total U ≤ w.total U := by
  refine total_of_shrunk rfl (.map (fun x _ => ?_))
  split
  · exact hf x
  · exact .refl x

theorem total_modifyMail_of_mem {f : Mail → Mail} (hf : ∀ x, Mail.Rest (f x) x)
    (hm : w.getMail p mailId = some m) {a : Nat} (ha : (f m).purse + a ≤ m.purse) :
    (w.modifyMail p mailId f).total U + a ≤ w.total U := by
  obtain ⟨hmem, hrc, hid, -⟩ := getMail_some hm
  have hpurses : purses (w.modifyMail p mailId f).mails + a ≤ purses w.mails := by
    refine purses_map_add_le (fun x _ => ?_) hmem ?_
    · split
      · exact (hf x).purse_le
      · exact Nat.le_refl _
    · rw [if_pos ⟨hrc, hid⟩]
      exact ha
  unfold total
  show ∑ q ∈ U, w.money q + _ + a ≤ _
  omega

theorem total_removeMail (hm : w.getMail p mailId = some m) :
    (w.removeMail p mailId).total U + m.purse ≤ w.total U := by
  obtain ⟨hmem, hrc, hid, -⟩ := getMail_some hm
  have hpurses : purses (w.removeMail p mailId).mails + m.purse ≤ purses w.mails :=
    purses_filter_add_le hmem (by simp [hrc, hid])
  unfold total
  show ∑ q ∈ U, w.money q + _ + _ ≤ _
  omega

theorem total_payCOD (hp : p ∈ U) (h : w.Proper) (hs : 0 < m.cod → w.charExists m.sender = true)
    (hcod : m.cod ≤ w.money p) : (w.payCOD p now m).total U = w.total U := by
  obtain ⟨-, hw'⟩ | ⟨-, hw'⟩ := payCOD_cases p now hs
  · rw [hw']
  · rw [hw']
    have hpaid := modifyMoney_debit (h.money p) hcod
    have hpay := total_payMoney (w := w.sendMailTo { money := m.cod } .normal m.receiver m.sender now)
      hp (x := -toInt32 m.cod)
    rw [total_sendMailTo] at hpay
    simp only [sendMailTo] at hpay hpaid ⊢
    omega

def Keeps (i : Nat) (w w' : MailWorld) : Prop :=
  ∀ m ∈ w.mails, m.messageID = i → m.deleted = false → m ∈ w'.mails

namespace Keeps

variable {i : Nat} {w₁ w₂ w₃ : MailWorld}

theorem attached (h : Keeps i w w') {g : Nat} (hg : w.Attached i g) : w'.Attached i g := by
  obtain ⟨m, hm, hid, hdel, hgm⟩ := hg
  exact ⟨m, h m hm hid hdel, hid, hdel, hgm⟩

theorem trans (h : Keeps i w₁ w₂) (h' : Keeps i w₂ w₃) : Keeps i w₁ w₃ :=
  fun m hm hid hdel => h' m (h m hm hid hdel) hid hdel

theorem of_eq (h : w'.mails = w.mails) : Keeps i w w' := fun _ hm _ _ => h ▸ hm

theorem modifyMail {f : Mail → Mail} (hne : i ≠ mailId) : Keeps i w (w.modifyMail p mailId f) := by
  intro m hm hid _
  refine List.mem_map.mpr ⟨m, hm, if_neg ?_⟩
  rintro ⟨-, hid'⟩
  exact hne (hid.symm.trans hid')

theorem removeMail (hne : i ≠ mailId) : Keeps i w (w.removeMail p mailId) := by
  intro m hm hid _
  refine List.mem_filter.mpr ⟨hm, ?_⟩
  have hne' : m.messageID ≠ mailId := hid ▸ hne
  simp [hne']

theorem saveMail : Keeps i w (w.saveMail p) := by
  intro m hm _ hdel
  unfold MailWorld.saveMail
  split
  · exact List.mem_filter.mpr ⟨hm, by simp [hdel]⟩
  · exact hm

theorem sendMailTo {messageType : MailMessageType} {sender receiver deliverTime : Nat} :
    Keeps i w (w.sendMailTo d messageType sender receiver deliverTime) :=
  fun _ hm _ _ => List.mem_cons_of_mem _ hm

theorem payCOD : Keeps i w (w.payCOD p now m) := by
  intro x hx _ _
  unfold MailWorld.payCOD
  split
  · split
    · exact List.mem_cons_of_mem _ hx
    · exact hx
  · exact hx

theorem logout (h : w.Loaded w.mails) : Keeps i w (w.logout p) := by
  intro m hm hid hdel
  have hm' := Keeps.saveMail (p := p) (i := i) m hm hid hdel
  simp only [MailWorld.logout]
  split
  · rename_i hl
    refine List.mem_map.mpr ⟨m, hm', ?_⟩
    split
    · rename_i hrc
      have hall : m.items.filter (fun g => (w.mItems p).contains g) = m.items := by
        refine List.filter_eq_self.mpr (fun g hg => ?_)
        have hin := h m hm hdel (hrc ▸ hl) g hg
        rw [hrc] at hin
        simpa using hin
      rw [hall]
    · rfl
  · exact hm'

end Keeps

/-! ## One event -/

theorem Law.of_plain {ev : MailEvent} (hsend : ∀ p pkt c now, ev ≠ .sendMail p pkt c now)
    (htake : ∀ p i g now, ev ≠ .takeItem p i g now) (htotal : w'.total U ≤ w.total U)
    (hitems : w'.items = w.items) (hleaves : ∀ i, ev.mail ≠ some i → Keeps i w w') :
    Law cfg U w ev w' where
  total := htotal
  debit p pkt c now hev := absurd hev (hsend p pkt c now)
  leaves i g hg := by
    by_cases hi : ev.mail = some i
    · exact .inr hi
    · exact .inl ((hleaves i hi).attached hg)
  cod p i g now hev := absurd hev (htake p i g now)
  arrives pl g hg := .inl ⟨pl, hitems ▸ hg⟩

theorem law_sendMail (h : w.Proper) (hp : p ∈ U) (hck : w.Checked cfg (.sendMail p pkt c now)) :
    Law cfg U w (.sendMail p pkt c now) (w.handleSendMail cfg p now pkt c) := by
  obtain ⟨hacc, hw'⟩ | ⟨hacc, deliverTime, hw'⟩ :=
    handleSendMail_cases cfg w p now pkt c
  · rw [hw']
    refine ⟨Nat.le_refl _, ?_, fun i g hg => .inl hg, by simp, fun pl g hg => .inl ⟨pl, hg⟩⟩
    rintro p pkt c now hev hacc'
    cases hev
    rw [hacc] at hacc'
    cases hacc'
  · rw [hw']
    obtain ⟨hatt, hmoney, hcod⟩ := attached_spec h hacc
    obtain ⟨hreq, -⟩ := sendAccepted_some hacc
    have hsum := reqmoney_eq (hck hacc)
    have hpaid := modifyMoney_debit (h.money p) hreq
    have hpay := total_payMoney (w := w) hp (x := -toInt32 pkt.reqmoney)
    refine ⟨?_, ?_, fun i g hg => .inl (Keeps.attached ?_ hg), by simp, fun pl g hg => ?_⟩
    · rw [total_sendMailTo, hmoney]
      show (w.payMoney p (-toInt32 pkt.reqmoney)).total U + pkt.money ≤ w.total U
      omega
    · rintro p' pkt' c' now' hev -
      cases hev
      refine ⟨?_, _, List.mem_cons_self .., rfl, rfl, hmoney, hcod⟩
      simp only [sendMailTo, payMoney, Function.update_self]
      omega
    · exact fun m hm _ _ => List.mem_cons_of_mem _ hm
    · exact .inl ⟨pl, hatt.lighter.held pl g hg⟩

theorem payCOD_paid (h : w.Proper) (hs : 0 < m.cod → w.charExists m.sender = true)
    (hcod : m.cod ≤ w.money p) (hpos : 0 < m.cod) :
    (w.payCOD p now m).money p + m.cod = w.money p ∧
      ∃ x ∈ (w.payCOD p now m).mails, x.messageID = w.nextMailID ∧ x.receiver = m.sender ∧
        x.money = m.cod ∧ x.deleted = false := by
  obtain ⟨hzero, -⟩ | ⟨-, hw'⟩ := payCOD_cases p now hs
  · omega
  · rw [hw']
    have hpaid := modifyMoney_debit (h.money p) hcod
    refine ⟨?_, _, List.mem_cons_self .., rfl, rfl, rfl, rfl⟩
    simpa [payMoney, sendMailTo] using hpaid

theorem law_takeItem (h : w.Proper) (hp : p ∈ U)
    (hck : w.Checked cfg (.takeItem p mailId itemId now)) :
    Law cfg U w (.takeItem p mailId itemId now) (w.handleMailTakeItem cfg p now mailId itemId) := by
  obtain ⟨hacc, hw'⟩ | ⟨m, hacc, hw'⟩ := handleMailTakeItem_cases cfg w p now mailId itemId
  · rw [hw']
    refine ⟨Nat.le_refl _, by simp, fun i g hg => .inl hg, ?_, fun pl g hg => .inl ⟨pl, hg⟩⟩
    rintro p i g now hev hacc'
    cases hev
    rw [hacc] at hacc'
    cases hacc'
  · rw [hw']
    obtain ⟨hm, hdel, hcod⟩ := takeAccepted_some hacc
    obtain ⟨hin, hsender⟩ := hck m hacc
    obtain ⟨hmem, hrc, hid, -⟩ := getMail_some hm
    set w₂ : MailWorld := { w.taken p now mailId itemId m with
      items := w.items.moveItemToInventory p (w.canTake cfg p itemId).dest itemId } with hw₂
    have hmod : ∀ i, i ≠ mailId → Keeps i (w.payCOD p now m) w₂ :=
      fun i hne x hx hxid hxdel => Keeps.modifyMail hne x hx hxid hxdel
    have hkeeps : ∀ i, i ≠ mailId → Keeps i (w.payCOD p now m) (w₂.saveMail p) :=
      fun i hne => (hmod i hne).trans Keeps.saveMail
    refine ⟨?_, by simp, fun i g hg => ?_, ?_, fun pl g hg => ?_⟩
    · have hless : ((w.payCOD p now m).modifyMail p mailId
          (fun m => { m with items := m.items.erase itemId, cod := 0 })).total U ≤
          (w.payCOD p now m).total U :=
        total_modifyMail (fun x => ⟨rfl, rfl, List.erase_sublist, Nat.le_refl _, fun hd => hd⟩)
      calc _ ≤ w₂.total U := total_saveMail
        _ ≤ (w.payCOD p now m).total U := hless
        _ = w.total U := total_payCOD hp h hsender hcod
    · by_cases hi : i = mailId
      · exact .inr (by rw [hi]; rfl)
      · exact .inl ((Keeps.payCOD.trans (hkeeps i hi)).attached hg)
    · rintro p' i g now' hev - x hx hxdel hgx hpos
      cases hev
      have hxm : x = m := h.table.eq_of_item hx hmem hgx hin
      subst hxm
      obtain ⟨hpaid, y, hy, hyid, hyrc, hymoney, hydel⟩ :=
        payCOD_paid h hsender hcod hpos
      refine ⟨hid, ?_, y, hkeeps w.nextMailID ?_ y hy hyid hydel, hyid, hyrc, hymoney, hydel⟩
      · rw [saveMail_money]
        exact hpaid
      · have hlt := h.table.ids x hmem
        omega
    · rw [saveMail_items] at hg
      have hloose : w.items.Loose itemId := h.loose itemId (mem_mailed.mpr ⟨m, hmem, hin⟩)
      have hmove : _ ∧ Holdings.Later w.items
          (w.items.moveItemToInventory p (w.canTake cfg p itemId).dest itemId) itemId :=
        h.separate.moveTo hloose
      obtain ⟨-, hlater⟩ := hmove
      rcases hlater.2 pl g hg with hold | hgi | hnew
      · exact .inl hold
      · subst hgi
        exact .inr (.inr ⟨p, mailId, now, rfl, by rw [hacc]; rfl⟩)
      · exact .inr (.inl hnew)

theorem law_takeMoney (h : w.Proper) (hp : p ∈ U) :
    Law cfg U w (.takeMoney p mailId now) (w.handleMailTakeMoney p now mailId) := by
  obtain ⟨-, hw'⟩ | ⟨m, hm, hw'⟩ :=
    handleMailTakeMoney_cases w p now mailId
  · rw [hw']
    exact Law.of_plain (by simp) (by simp) (Nat.le_refl _) rfl (fun i _ => Keeps.of_eq rfl)
  · rw [hw']
    obtain ⟨hget, hdel⟩ := getOpenMail_some hm
    have hmem := (getMail_some hget).1
    have hcredit := modifyMoney_credit (h.money p) (h.table.amounts m hmem)
    have hpay := total_payMoney (w := w) hp (x := toInt32 m.money)
    have hget' : (w.payMoney p (toInt32 m.money)).getMail p mailId = some m := hget
    refine Law.of_plain (by simp) (by simp) ?_ saveMail_items (fun i hi => ?_)
    · have hmod : ((w.payMoney p (toInt32 m.money)).modifyMail p mailId
          (fun m => { m with money := 0 })).total U + m.money ≤
          (w.payMoney p (toInt32 m.money)).total U :=
        total_modifyMail_of_mem (f := fun m => { m with money := 0 })
          (fun x => ⟨rfl, rfl, .refl _, Nat.zero_le _, fun hd => hd⟩) hget' (by simp [Mail.purse, hdel])
      have hsave := total_saveMail (U := U) (p := p) (w := (w.payMoney p (toInt32 m.money)).modifyMail
        p mailId (fun m => { m with money := 0 }))
      omega
    · have hne : i ≠ mailId := fun hne => hi (by rw [hne]; rfl)
      exact (Keeps.modifyMail (w := w.payMoney p (toInt32 m.money)) hne).trans Keeps.saveMail

theorem law_returnToSender : Law cfg U w (.returnToSender p mailId now)
    (w.handleMailReturnToSender cfg p now mailId) := by
  obtain ⟨-, hw'⟩ | ⟨m, hm, hw'⟩ := handleMailReturnToSender_cases cfg w p now mailId
  · rw [hw']
    exact Law.of_plain (by simp) (by simp) (Nat.le_refl _) rfl (fun i _ => Keeps.of_eq rfl)
  · obtain ⟨hget, hdel⟩ := getOpenMail_some hm
    have hremoved := total_removeMail (U := U) hget
    have hpurse : m.purse = m.money := by simp [Mail.purse, hdel]
    have hkeeps : ∀ i, (MailEvent.returnToSender p mailId now).mail ≠ some i →
        Keeps i w ((w.removeMail p mailId).removeMItems p m.items) :=
      fun i hi => Keeps.removeMail (fun hne => hi (by rw [hne]; rfl))
    rcases hw' with hw' | hw' | ⟨deliverTime, hw'⟩
    · rw [hw']
      exact Law.of_plain (by simp) (by simp) (by omega) rfl hkeeps
    · rw [hw']
      refine Law.of_plain (by simp) (by simp) ?_ rfl hkeeps
      show (w.removeMail p mailId).total U ≤ w.total U
      omega
    · rw [hw']
      refine Law.of_plain (by simp) (by simp) ?_ rfl (fun i hi => (hkeeps i hi).trans Keeps.sendMailTo)
      rw [total_sendMailTo]
      show (w.removeMail p mailId).total U + m.money ≤ w.total U
      omega

theorem law_delete : Law cfg U w (.delete p mailId) (w.handleMailDelete p mailId) := by
  unfold handleMailDelete
  split
  · exact Law.of_plain (by simp) (by simp) (Nat.le_refl _) rfl (fun i _ => Keeps.of_eq rfl)
  · split
    · exact Law.of_plain (by simp) (by simp) (Nat.le_refl _) rfl (fun i _ => Keeps.of_eq rfl)
    · exact Law.of_plain (by simp) (by simp)
        (total_modifyMail (fun x => ⟨rfl, rfl, .refl _, Nat.le_refl _, fun _ => rfl⟩)) rfl
        (fun i hi => Keeps.modifyMail (fun hne => hi (by rw [hne]; rfl)))

theorem law_login : Law cfg U w (.login p) (w.login p) := by
  unfold MailWorld.login
  split
  · exact Law.of_plain (by simp) (by simp) (Nat.le_refl _) rfl (fun i _ => Keeps.of_eq rfl)
  · exact Law.of_plain (by simp) (by simp) (Nat.le_refl _) rfl (fun i _ => Keeps.of_eq rfl)

theorem law_getMailList : Law cfg U w (.getMailList p) (w.handleGetMailList p) := by
  unfold handleGetMailList
  split
  · exact Law.of_plain (by simp) (by simp) (Nat.le_refl _) rfl (fun i _ => Keeps.of_eq rfl)
  · exact Law.of_plain (by simp) (by simp) (Nat.le_refl _) rfl (fun i _ => Keeps.of_eq rfl)

theorem law_logout (h : w.Proper) : Law cfg U w (.logout p) (w.logout p) :=
  Law.of_plain (by simp) (by simp) (Nat.le_of_eq total_logout) (by simp [MailWorld.logout])
    (fun _ _ => Keeps.logout h.loaded)

theorem Law.of_step (h : w.Proper) {ev : MailEvent} (hp : ev.player ∈ U) (hck : w.Checked cfg ev) :
    Law cfg U w ev (w.step cfg ev) := by
  cases ev with
  | sendMail p pkt c now => exact law_sendMail h hp hck
  | takeItem p mailId itemId now => exact law_takeItem h hp hck
  | takeMoney p mailId now => exact law_takeMoney h hp
  | returnToSender p mailId now => exact law_returnToSender
  | delete p mailId => exact law_delete
  | login p => exact law_login
  | getMailList p => exact law_getMailList
  | logout p => exact law_logout h

variable {w₀ : MailWorld} {es : List MailEvent} {ev : MailEvent}

theorem proper_of_run (h : w₀.Proper) (hrun : Run (step cfg) (Checked cfg) w₀ es w) : w.Proper :=
  hrun.invariant (fun _ _ hs hck => hs.step hck) h

theorem total_of_run (h : w₀.Proper) (hU : ∀ ev ∈ es, ev.player ∈ U)
    (hrun : Run (step cfg) (Checked cfg) w₀ es w) : w.total U ≤ w₀.total U := by
  induction hrun with
  | nil => exact Nat.le_refl _
  | cons hck _ ih =>
    have hlaw := Law.of_step h (hU _ (by simp)) hck
    exact Nat.le_trans (ih (h.step hck) (fun ev hev => hU ev (by simp [hev]))) hlaw.total

/-- At every event of a run the mails keep their promise. -/
theorem mail_law (h : w₀.Proper) (hU : ∀ e ∈ es ++ [ev], e.player ∈ U)
    (hrun : Run (step cfg) (Checked cfg) w₀ (es ++ [ev]) w') :
    w'.total U ≤ w₀.total U ∧ ∃ w, Run (step cfg) (Checked cfg) w₀ es w ∧ w' = w.step cfg ev ∧
      Law cfg U w ev w' := by
  refine ⟨total_of_run h hU hrun, ?_⟩
  obtain ⟨w, hes, hck, rfl⟩ := hrun.last
  exact ⟨w, hes, rfl, Law.of_step (proper_of_run h hes) (hU ev (by simp)) hck⟩

def clothStores : ItemStores where
  store := fun entry => if entry = 2589 then some { itemId := 2589 } else none
  store_id := by
    intro entry proto h
    split at h
    · rename_i he
      cases h
      exact he.symm
    · cases h
  slots_le := by
    intro entry proto h
    split at h
    · cases h
      exact Nat.zero_le _
    · cases h

def traders : MailWorld where
  items :=
    { item := fun _ => { proto := { itemId := 2589 }, count := 1, owner := some 1 }
      held := fun pl => if pl = .slot 1 23 then some 1 else none
      nextGuid := 2 }
  money := fun _ => 1000
  presence := fun _ => .inWorld false
  account := fun p => p

theorem traders_proper : traders.Proper := by
  have hmoney : 1000 ≤ MAX_MONEY_AMOUNT := by decide
  refine orderly_of_empty (fun _ => hmoney) ⟨fun a b g ha hb => ?_, ?_⟩ rfl
  · simp only [traders, Option.ite_none_right_eq_some] at ha hb
    rw [ha.1, hb.1]
  · intro pl g hg
    simp only [traders, Option.ite_none_right_eq_some] at hg
    exact Option.some.inj hg.2 ▸ Nat.lt_succ_self 1

def twoMails : List MailEvent :=
  [.sendMail 1 { receiver := 2, itemGUIDs := [1], cod := 500 } {} 0,
    .sendMail 1 { receiver := 2 } {} 0, .getMailList 2]

def mailConfig : MailConfig := { stores := clothStores }

/-- The cloth is taken through its own mail. -/
theorem mail_law_paid : ∃ w w', Run (step mailConfig) (Checked mailConfig) traders twoMails w ∧
    w' = w.step mailConfig (.takeItem 2 1 1 3600) ∧ w'.total {1, 2} ≤ traders.total {1, 2} ∧
    w'.money 2 + 500 = w.money 2 ∧ w'.items.held (.slot 2 23) = some 1 := by
  have hrun : Run (step mailConfig) (Checked mailConfig) traders
      (twoMails ++ [.takeItem 2 1 1 3600]) _ := Admitted.run (by decide +kernel)
  obtain ⟨htotal, w, hes, hw', hlaw⟩ := mail_law (U := {1, 2}) traders_proper (by decide) hrun
  rw [hes.eq_foldl] at hlaw
  obtain ⟨-, hpaid, -⟩ := hlaw.cod 2 1 1 3600 rfl (by decide +kernel)
    { messageID := 1, messageType := .normal, sender := 1, receiver := 2, items := [1], cod := 500,
      deliverTime := 3600 } (by decide +kernel) rfl (by decide) (by decide)
  exact ⟨_, _, hes, hw', htotal, by rw [hes.eq_foldl]; exact hpaid, by decide +kernel⟩

/-- Before it is delivered the cloth is taken through the other mail, for nothing; and a mail of
`2 ^ 64 - 30` copper costs nothing. -/
theorem mail_law_broken : traders.Proper ∧
    (∃ w, Run (step mailConfig) (fun _ _ => True) traders twoMails w ∧
      ¬ Law mailConfig {1, 2} w (.takeItem 2 2 1 0) (w.step mailConfig (.takeItem 2 2 1 0))) ∧
    ¬ Law mailConfig {1, 2} traders (.sendMail 1 { receiver := 2, money := 2 ^ 64 - 30 } {} 0)
      (traders.step mailConfig (.sendMail 1 { receiver := 2, money := 2 ^ 64 - 30 } {} 0)) := by
  refine ⟨traders_proper, ⟨_, Run.free twoMails, fun hlaw => ?_⟩, fun hlaw => ?_⟩
  · obtain ⟨hid, -⟩ := hlaw.cod 2 2 1 0 rfl (by decide +kernel)
      { messageID := 1, messageType := .normal, sender := 1, receiver := 2, items := [1], cod := 500,
        deliverTime := 3600 } (by decide +kernel) rfl (by decide) (by decide)
    exact absurd hid (by decide)
  · obtain ⟨hpaid, -⟩ := hlaw.debit 1 { receiver := 2, money := 2 ^ 64 - 30 } {} 0 rfl
      (by decide +kernel)
    revert hpaid
    decide +kernel

end MailWorld

end SkyfireBG
