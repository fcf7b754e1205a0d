import SkyfireBG.Mail.Table

/-!
# SkyfireBG.Mail.Proper

The invariant of the mails.

`Orderly` says that no amount is over its limit, that the mails make a `Table`, that an item in a mail
is in no inventory, and that a player who has loaded his mails has their items.  One lemma for each
part of an operation gives it back: a payment, a new mail, mails that shrink, items that leave an
inventory and items that reach one.
-/

namespace SkyfireBG

namespace MailWorld

def Loaded (w : MailWorld) (mails : List Mail) : Prop :=
  ∀ m ∈ mails, m.deleted = false → w.mailsLoaded m.receiver = true →
    ∀ g ∈ m.items, g ∈ w.mItems m.receiver

structure Orderly (w : MailWorld) (cap : Nat) : Prop where
  money : ∀ p, w.money p ≤ MAX_MONEY_AMOUNT
  table : Table w.mails w.nextMailID cap
  separate : w.items.Separate
  loose : ∀ g ∈ mailed w.mails, w.items.Loose g
  loaded : w.Loaded w.mails

abbrev Proper (w : MailWorld) : Prop := w.Orderly MAX_MONEY_AMOUNT

variable {w w' : MailWorld} {p g mailId cap : Nat} {mails : List Mail} {d : MailDraft}
  {messageType : MailMessageType} {sender receiver deliverTime : Nat} {f : Mail → Mail}

theorem Loaded.shrunk (h : w.Loaded w.mails) (hs : Shrunk mails w.mails) : w.Loaded mails := by
  intro m hm hd hl g hg
  obtain ⟨x, hx, hr⟩ := hs.exists_rest hm
  have hdx : x.deleted = false := by
    by_contra hdx
    rw [hr.deleted (by simpa using hdx)] at hd
    cases hd
  rw [hr.receiver] at hl ⊢
  exact h x hx hdx hl g (hr.items.subset hg)

theorem orderly_of_empty (hmoney : ∀ p, w.money p ≤ MAX_MONEY_AMOUNT) (hitems : w.items.Separate)
    (hmails : w.mails = []) : w.Orderly cap where
  money := hmoney
  table := hmails ▸ Table.nil
  separate := hitems
  loose := by simp [hmails, mailed]
  loaded := by
    rw [hmails]
    intro m hm
    cases hm

namespace Orderly

theorem payMoney (h : w.Orderly cap) {x : Int}
    (hx : modifyMoney (w.money p) x ≤ MAX_MONEY_AMOUNT) : (w.payMoney p x).Orderly cap where
  money q := by
    by_cases hq : q = p
    · subst hq
      simpa [MailWorld.payMoney] using hx
    · simpa [MailWorld.payMoney, hq] using h.money q
  table := h.table
  separate := h.separate
  loose := h.loose
  loaded := h.loaded

theorem shrunk (h : w.Orderly cap) (hs : Shrunk mails w.mails) :
    ({ w with mails := mails } : MailWorld).Orderly cap where
  money := h.money
  table := h.table.shrunk hs
  separate := h.separate
  loose g hg := h.loose g (hs.mailed.subset hg)
  loaded := h.loaded.shrunk hs

theorem modifyMail (h : w.Orderly cap) (hf : ∀ m, Mail.Rest (f m) m) :
    (w.modifyMail p mailId f).Orderly cap := by
  refine h.shrunk (.map (fun m _ => ?_))
  split
  · exact hf m
  · exact .refl m

theorem removeMail (h : w.Orderly cap) : (w.removeMail p mailId).Orderly cap := h.shrunk (.filter _)

theorem saveMail (h : w.Orderly cap) : (w.saveMail p).Orderly cap := by
  unfold MailWorld.saveMail
  split
  · exact h.shrunk (.filter _)
  · exact h

theorem removeMItems (h : w.Orderly cap) {gs : List Nat}
    (hgs : ∀ m ∈ w.mails, m.deleted = false → m.receiver = p → ∀ g ∈ m.items, g ∉ gs) :
    (w.removeMItems p gs).Orderly cap where
  money := h.money
  table := h.table
  separate := h.separate
  loose := h.loose
  loaded m hm hd hl g hg := by
    have hin := h.loaded m hm hd hl g hg
    by_cases hp : m.receiver = p
    · rw [hp] at hin ⊢
      simp only [MailWorld.removeMItems, Function.update_self, List.mem_filter]
      exact ⟨hin, by simpa using hgs m hm hd hp g hg⟩
    · simpa [MailWorld.removeMItems, hp] using hin

theorem sendMailTo (h : w.Orderly cap) (hmoney : d.money ≤ cap) (hitems : d.items.Nodup)
    (hnew : ∀ g ∈ d.items, g ∉ mailed w.mails) (hloose : ∀ g ∈ d.items, w.items.Loose g) :
    (w.sendMailTo d messageType sender receiver deliverTime).Orderly cap where
  money := h.money
  table := h.table.cons rfl hmoney hitems hnew
  separate := h.separate
  loose g hg := by
    rcases List.mem_append.mp (mailed_cons ▸ hg) with hg | hg
    · exact hloose g hg
    · exact h.loose g hg
  loaded m hm hd hl g hg := by
    have hold : ∀ q x, x ∈ w.mItems q →
        x ∈ (w.sendMailTo d messageType sender receiver deliverTime).mItems q := by
      intro q x hx
      simp only [MailWorld.sendMailTo]
      split
      · by_cases hq : q = receiver
        · subst hq
          simp [hx]
        · simpa [hq] using hx
      · exact hx
    rcases List.mem_cons.mp hm with rfl | hm
    · have hl' : w.mailsLoaded receiver = true := hl
      have hg' : g ∈ d.items := hg
      simp only [MailWorld.sendMailTo, newMail, hl', if_true, Function.update_self]
      exact List.mem_append_right _ hg'
    · exact hold _ _ (h.loaded m hm hd hl g hg)

theorem items (h : w.Orderly cap) {s : Holdings Nat} (hs : s.Separate)
    (hloose : ∀ g ∈ mailed w.mails, s.Loose g) : ({ w with items := s } : MailWorld).Orderly cap where
  money := h.money
  table := h.table
  separate := hs
  loose := hloose
  loaded := h.loaded

end Orderly

variable {cfg : MailConfig} {now itemId : Nat} {m : Mail}

theorem getMail_some (h : w.getMail p mailId = some m) :
    m ∈ w.mails ∧ m.receiver = p ∧ m.messageID = mailId ∧ w.mailsLoaded p = true := by
  unfold getMail at h
  split at h
  · rename_i hl
    have hfound := List.find?_some h
    simp only [Bool.and_eq_true, beq_iff_eq] at hfound
    exact ⟨List.mem_of_find?_eq_some h, hfound.1, hfound.2, hl⟩
  · cases h

theorem getOpenMail_some (h : w.getOpenMail p now mailId = some m) :
    w.getMail p mailId = some m ∧ m.deleted = false := by
  obtain ⟨hm, hopen⟩ := Option.filter_eq_some_iff.mp h
  simp only [Bool.and_eq_true, Bool.not_eq_true'] at hopen
  exact ⟨hm, hopen.1⟩

theorem takeAccepted_some (h : w.takeAccepted cfg p now mailId itemId = some m) :
    w.getMail p mailId = some m ∧ m.deleted = false ∧ m.cod ≤ w.money p := by
  obtain ⟨hm, htake⟩ := Option.filter_eq_some_iff.mp h
  simp only [Bool.and_eq_true, decide_eq_true_eq] at htake
  exact ⟨(getOpenMail_some hm).1, (getOpenMail_some hm).2, htake.1⟩

structure Attaching (s : Holdings Nat × MailDraft) (i : Holdings Nat) : Prop where
  lighter : s.1.Lighter i
  nodup : s.2.items.Nodup
  loose : ∀ g ∈ s.2.items, s.1.Loose g
  carried : ∀ g ∈ s.2.items, ∃ pl, i.held pl = some g

theorem addItem_money {g : Nat} : (d.addItem g).money = d.money := by
  unfold MailDraft.addItem
  split <;> rfl

theorem addItem_cod {g : Nat} : (d.addItem g).cod = d.cod := by
  unfold MailDraft.addItem
  split <;> rfl

theorem attach_money {s : Holdings Nat × MailDraft} {rc : Nat} :
    (attach p rc s g).2.money = s.2.money ∧ (attach p rc s g).2.cod = s.2.cod := by
  unfold attach
  split
  · exact ⟨addItem_money, addItem_cod⟩
  · exact ⟨addItem_money, addItem_cod⟩

theorem Attaching.attach {s : Holdings Nat × MailDraft} {i : Holdings Nat} {rc : Nat}
    (h : Attaching s i) (hi : i.Separate) (hu : i.Unworn g)
    (hf : (s.1.getItemByGuid p g).isSome = true ∨ g ∈ s.2.items) :
    Attaching (attach p rc s g) i ∧
      ∀ x, (s.1.getItemByGuid p x).isSome = true ∨ x ∈ s.2.items →
        ((MailWorld.attach p rc s g).1.getItemByGuid p x).isSome = true ∨
          x ∈ (MailWorld.attach p rc s g).2.items := by
  unfold MailWorld.attach
  cases hpos : s.1.getItemByGuid p g with
  | none =>
    rw [hpos] at hf
    have hg : g ∈ s.2.items := by simpa using hf
    have hsame : s.2.addItem g = s.2 := if_pos hg
    simp only [hsame]
    exact ⟨h, fun x hx => hx⟩
  | some pos =>
    have hsep : s.1.Separate := h.lighter.separate hi
    have hat := Holdings.getItemByPos_of_guid hpos
    have hplace := Holdings.held_of_view (Holdings.view_of_getItemByPos hat)
    have hg : g ∉ s.2.items := fun hg => (h.loose g hg).absent _ hplace
    have hadd : s.2.addItem g = { s.2 with items := s.2.items ++ [g] } := if_neg hg
    obtain ⟨hlight, hloose, hrest⟩ := hsep.moveFrom_owner hat (o := some rc) rfl
    simp only [hadd]
    refine ⟨⟨hlight.trans h.lighter, ?_, ?_, ?_⟩, fun x hx => ?_⟩
    · exact List.nodup_append.mpr ⟨h.nodup, by simp, by rintro a ha b hb rfl; simp_all⟩
    · intro x hx
      rcases List.mem_append.mp hx with hx | hx
      · exact hlight.loose (h.loose x hx)
      · rw [List.mem_singleton.mp hx]
        exact hloose
    · intro x hx
      rcases List.mem_append.mp hx with hx | hx
      · exact h.carried x hx
      · rw [List.mem_singleton.mp hx]
        exact ⟨_, h.lighter.held _ _ hplace⟩
    · rcases hx with hx | hx
      · by_cases hxg : x = g
        · exact .inr (by simp [hxg])
        · exact .inl (hlight.getItemByGuid (h.lighter.unworn hu) hrest hxg hx)
      · exact .inr (by simp [hx])

theorem Attaching.foldl {gs : List Nat} {s : Holdings Nat × MailDraft} {i : Holdings Nat} {rc : Nat}
    (h : Attaching s i) (hi : i.Separate) (hu : ∀ g ∈ gs, i.Unworn g)
    (hf : ∀ g ∈ gs, (s.1.getItemByGuid p g).isSome = true ∨ g ∈ s.2.items) :
    Attaching (gs.foldl (MailWorld.attach p rc) s) i ∧
      (gs.foldl (MailWorld.attach p rc) s).2.money = s.2.money ∧
      (gs.foldl (MailWorld.attach p rc) s).2.cod = s.2.cod := by
  induction gs generalizing s with
  | nil => exact ⟨h, rfl, rfl⟩
  | cons g gs ih =>
    obtain ⟨h', hkeep⟩ := h.attach hi (hu g (by simp)) (hf g (by simp))
    obtain ⟨hend, hmoney, hcod⟩ := ih h' (fun x hx => hu x (by simp [hx]))
      (fun x hx => hkeep x (hf x (by simp [hx])))
    exact ⟨hend, hmoney.trans attach_money.1, hcod.trans attach_money.2⟩

theorem mailsLoaded_login {q : Nat} (hl : (w.login p).mailsLoaded q = true) :
    w.mailsLoaded q = true ∧ (w.login p).mItems q = w.mItems q := by
  unfold MailWorld.login at hl ⊢
  split at hl
  · rename_i hin
    rw [if_pos hin]
    exact ⟨hl, rfl⟩
  · rename_i hin
    rw [if_neg hin]
    by_cases hq : q = p
    · subst hq
      simp [mailsLoaded] at hl
    · simpa [mailsLoaded, hq] using hl

theorem Orderly.login (h : w.Orderly cap) : (w.login p).Orderly cap := by
  have hsame : (w.login p).mails = w.mails ∧ (w.login p).money = w.money ∧
      (w.login p).items = w.items ∧ (w.login p).nextMailID = w.nextMailID := by
    unfold MailWorld.login
    split <;> exact ⟨rfl, rfl, rfl, rfl⟩
  obtain ⟨hmails, hmoney, hitems, hnext⟩ := hsame
  refine ⟨hmoney ▸ h.money, hmails ▸ hnext ▸ h.table, hitems ▸ h.separate, ?_, ?_⟩
  · rw [hmails, hitems]
    exact h.loose
  · rw [hmails]
    intro m hm hd hl g hg
    obtain ⟨hl', hsame⟩ := mailsLoaded_login hl
    rw [hsame]
    exact h.loaded m hm hd hl' g hg

theorem Orderly.handleGetMailList (h : w.Orderly cap) : (w.handleGetMailList p).Orderly cap := by
  unfold MailWorld.handleGetMailList
  split
  · refine ⟨h.money, h.table, h.separate, h.loose, fun m hm hd hl g hg => ?_⟩
    by_cases hp : m.receiver = p
    · simp only [hp, Function.update_self]
      exact List.mem_append_right _ (mem_mailed.mpr ⟨m, List.mem_filter.mpr ⟨hm, by simp [hp]⟩, hg⟩)
    · simp only [mailsLoaded, Function.update_of_ne hp] at hl ⊢
      exact h.loaded m hm hd hl g hg
  · exact h

theorem Orderly.leave (h : w.Orderly cap) :
    ({ w with presence := Function.update w.presence p .offline
              mItems := Function.update w.mItems p [] } : MailWorld).Orderly cap := by
  refine ⟨h.money, h.table, h.separate, h.loose, fun m hm hd hl g hg => ?_⟩
  by_cases hp : m.receiver = p
  · simp [mailsLoaded, hp] at hl
  · simp only [mailsLoaded, Function.update_of_ne hp] at hl ⊢
    exact h.loaded m hm hd hl g hg

theorem saveMail_eq : w.saveMail p = { w with mails := (w.saveMail p).mails } := by
  unfold saveMail
  split <;> rfl

theorem shrunk_saveMail : Shrunk (w.saveMail p).mails w.mails := by
  unfold saveMail
  split
  · exact .filter _
  · exact .refl _

theorem shrunk_logout : Shrunk (w.logout p).mails w.mails := by
  simp only [logout]
  split
  · refine Shrunk.trans (.map (fun m _ => ?_)) shrunk_saveMail
    split
    · exact ⟨rfl, rfl, List.filter_sublist, Nat.le_refl _, fun hd => hd⟩
    · exact .refl m
  · exact shrunk_saveMail

theorem Orderly.logout (h : w.Orderly cap) : (w.logout p).Orderly cap := by
  have hrest : w.logout p = { w with
      mails := (w.logout p).mails
      presence := Function.update w.presence p .offline
      mItems := Function.update w.mItems p [] } := by
    obtain ⟨mails, hmails⟩ : ∃ mails, w.saveMail p = { w with mails := mails } := ⟨_, saveMail_eq⟩
    simp only [MailWorld.logout, hmails]
  rw [hrest]
  exact (h.shrunk shrunk_logout).leave

end MailWorld

end SkyfireBG
