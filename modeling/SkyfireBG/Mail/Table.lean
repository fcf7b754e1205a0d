import SkyfireBG.Mail.Data

/-!
# SkyfireBG.Mail.Table

The mails as a table: ids given out once and every item listed once.

What an operation does to the mails that are there is `Shrunk`: some are gone, and the others may
have lost items and money.  New mails are put in front (`Table.cons`).
-/

namespace SkyfireBG

namespace Mail

def purse (m : Mail) : Nat := if m.deleted then 0 else m.money

theorem purse_le {m : Mail} : m.purse ≤ m.money := by
  unfold purse
  split
  · exact Nat.zero_le _
  · exact Nat.le_refl _

structure Rest (m' m : Mail) : Prop where
  messageID : m'.messageID = m.messageID
  receiver : m'.receiver = m.receiver
  items : m'.items.Sublist m.items
  money : m'.money ≤ m.money
  deleted : m.deleted = true → m'.deleted = true

theorem Rest.refl (m : Mail) : Rest m m := ⟨rfl, rfl, .refl _, Nat.le_refl _, id⟩

theorem Rest.trans {m₁ m₂ m₃ : Mail} (h : Rest m₁ m₂) (h' : Rest m₂ m₃) : Rest m₁ m₃ where
  messageID := h.messageID.trans h'.messageID
  receiver := h.receiver.trans h'.receiver
  items := h.items.trans h'.items
  money := Nat.le_trans h.money h'.money
  deleted := fun hd => h.deleted (h'.deleted hd)

theorem Rest.purse_le {m' m : Mail} (h : Rest m' m) : m'.purse ≤ m.purse := by
  unfold Mail.purse
  by_cases hd : m.deleted = true
  · simp [hd, h.deleted hd]
  · rw [if_neg hd]
    exact Nat.le_trans Mail.purse_le h.money

end Mail

def Shrunk (mails' mails : List Mail) : Prop := List.SublistForall₂ Mail.Rest mails' mails

def purses (mails : List Mail) : Nat := (mails.map Mail.purse).sum

variable {mails mails' : List Mail} {m : Mail}

namespace Shrunk

theorem refl (mails : List Mail) : Shrunk mails mails := by
  induction mails with
  | nil => exact .nil
  | cons m mails ih => exact .cons (.refl m) ih

theorem filter (f : Mail → Bool) : Shrunk (mails.filter f) mails := by
  induction mails with
  | nil => exact .nil
  | cons m mails ih =>
    by_cases hf : f m = true
    · rw [List.filter_cons_of_pos hf]
      exact .cons (.refl m) ih
    · rw [List.filter_cons_of_neg hf]
      exact .cons_right ih

theorem map {f : Mail → Mail} (hf : ∀ m ∈ mails, Mail.Rest (f m) m) : Shrunk (mails.map f) mails := by
  induction mails with
  | nil => exact .nil
  | cons m mails ih => exact .cons (hf m (by simp)) (ih (fun x hx => hf x (by simp [hx])))

theorem trans {mails₁ mails₂ mails₃ : List Mail} (h : Shrunk mails₁ mails₂)
    (h' : Shrunk mails₂ mails₃) : Shrunk mails₁ mails₃ := by
  have : IsTrans Mail Mail.Rest := ⟨fun _ _ _ => Mail.Rest.trans⟩
  exact List.SublistForall₂.is_trans.trans _ _ _ h h'

theorem exists_rest (h : Shrunk mails' mails) (hm : m ∈ mails') : ∃ x ∈ mails, Mail.Rest m x := by
  induction h with
  | nil => simp at hm
  | cons hr _ ih =>
    rcases List.mem_cons.mp hm with rfl | hm
    · exact ⟨_, by simp, hr⟩
    · obtain ⟨x, hx, hrest⟩ := ih hm
      exact ⟨x, by simp [hx], hrest⟩
  | cons_right _ ih =>
    obtain ⟨x, hx, hrest⟩ := ih hm
    exact ⟨x, by simp [hx], hrest⟩

theorem ids (h : Shrunk mails' mails) :
    (mails'.map (·.messageID)).Sublist (mails.map (·.messageID)) := by
  induction h with
  | nil => exact List.nil_sublist _
  | cons hr _ ih => simpa [hr.messageID] using ih
  | cons_right _ ih => exact ih.trans (List.sublist_cons_self _ _)

theorem mailed (h : Shrunk mails' mails) : (mailed mails').Sublist (mailed mails) := by
  induction h with
  | nil => exact List.nil_sublist _
  | cons hr _ ih =>
    simp only [SkyfireBG.mailed, List.flatMap_cons] at ih ⊢
    exact hr.items.append ih
  | cons_right _ ih =>
    simp only [SkyfireBG.mailed, List.flatMap_cons] at ih ⊢
    exact ih.trans (List.sublist_append_right _ _)

theorem purses (h : Shrunk mails' mails) : purses mails' ≤ purses mails := by
  induction h with
  | nil => exact Nat.zero_le _
  | cons hr _ ih =>
    simp only [SkyfireBG.purses, List.map_cons, List.sum_cons] at ih ⊢
    exact Nat.add_le_add hr.purse_le ih
  | cons_right _ ih =>
    simp only [SkyfireBG.purses, List.map_cons, List.sum_cons] at ih ⊢
    exact Nat.le_trans ih (Nat.le_add_left _ _)

end Shrunk

theorem mem_mailed {g : Nat} : g ∈ mailed mails ↔ ∃ m ∈ mails, g ∈ m.items := by
  simp [mailed]

@[simp] theorem mailed_cons : mailed (m :: mails) = m.items ++ mailed mails := by
  simp [mailed]

@[simp] theorem purses_cons : purses (m :: mails) = m.purse + purses mails := by
  simp [purses]

theorem purses_map_le {f : Mail → Mail} (hf : ∀ x ∈ mails, (f x).purse ≤ x.purse) :
    purses (mails.map f) ≤ purses mails := by
  induction mails with
  | nil => exact Nat.le_refl _
  | cons x mails ih =>
    simp only [List.map_cons, purses_cons]
    exact Nat.add_le_add (hf x (by simp)) (ih (fun y hy => hf y (by simp [hy])))

theorem purses_map_eq {f : Mail → Mail} (hf : ∀ x, (f x).purse = x.purse) :
    purses (mails.map f) = purses mails := by
  simp only [purses, List.map_map]
  exact congrArg List.sum (List.map_congr_left (fun x _ => hf x))

theorem purses_filter_eq {f : Mail → Bool} (hf : ∀ x, f x = false → x.deleted = true) :
    purses (mails.filter f) = purses mails := by
  induction mails with
  | nil => rfl
  | cons x mails ih =>
    by_cases hx : f x = true
    · rw [List.filter_cons_of_pos hx, purses_cons, purses_cons, ih]
    · have hzero : x.purse = 0 := by simp [Mail.purse, hf x (by simpa using hx)]
      rw [List.filter_cons_of_neg hx, purses_cons, ih, hzero, Nat.zero_add]

theorem purses_map_add_le {f : Mail → Mail} (hf : ∀ x ∈ mails, (f x).purse ≤ x.purse)
    (hm : m ∈ mails) {a : Nat} (ha : (f m).purse + a ≤ m.purse) :
    purses (mails.map f) + a ≤ purses mails := by
  induction mails with
  | nil => simp at hm
  | cons x mails ih =>
    have hrest : purses (mails.map f) ≤ purses mails :=
      purses_map_le (fun y hy => hf y (by simp [hy]))
    simp only [List.map_cons, purses_cons]
    rcases List.mem_cons.mp hm with rfl | hm
    · omega
    · have hx := hf x (by simp)
      have := ih (fun y hy => hf y (by simp [hy])) hm
      omega

theorem purses_filter_add_le {f : Mail → Bool} (hm : m ∈ mails) (hf : f m = false) :
    purses (mails.filter f) + m.purse ≤ purses mails := by
  induction mails with
  | nil => simp at hm
  | cons x mails ih =>
    have hrest : purses (mails.filter f) ≤ purses mails := (Shrunk.filter f).purses
    rcases List.mem_cons.mp hm with rfl | hm
    · rw [List.filter_cons_of_neg (by simp [hf]), purses_cons]
      omega
    · have := ih hm
      by_cases hx : f x = true
      · rw [List.filter_cons_of_pos hx, purses_cons, purses_cons]
        omega
      · rw [List.filter_cons_of_neg hx, purses_cons]
        omega

/-- A table of mails that hold at most `cap` each. -/
structure Table (mails : List Mail) (next cap : Nat) : Prop where
  ids : ∀ m ∈ mails, m.messageID < next
  distinct : (mails.map (·.messageID)).Nodup
  once : (mailed mails).Nodup
  amounts : ∀ m ∈ mails, m.money ≤ cap

namespace Table

variable {next cap : Nat}

theorem nil : Table [] next cap :=
  ⟨by simp, by simp, by simp [mailed], by simp⟩

theorem shrunk (h : Table mails next cap) (hs : Shrunk mails' mails) : Table mails' next cap where
  ids m hm := by
    obtain ⟨x, hx, hr⟩ := hs.exists_rest hm
    exact hr.messageID ▸ h.ids x hx
  distinct := h.distinct.sublist hs.ids
  once := h.once.sublist hs.mailed
  amounts m hm := by
    obtain ⟨x, hx, hr⟩ := hs.exists_rest hm
    exact Nat.le_trans hr.money (h.amounts x hx)

theorem cons (h : Table mails next cap) (hid : m.messageID = next) (hmoney : m.money ≤ cap)
    (hitems : m.items.Nodup) (hnew : ∀ g ∈ m.items, g ∉ mailed mails) :
    Table (m :: mails) (next + 1) cap where
  ids x hx := by
    rcases List.mem_cons.mp hx with rfl | hx
    · omega
    · have := h.ids x hx
      omega
  distinct := by
    refine List.nodup_cons.mpr ⟨fun hmem => ?_, h.distinct⟩
    obtain ⟨x, hx, hid'⟩ := List.mem_map.mp hmem
    have hlt : x.messageID < m.messageID := hid ▸ h.ids x hx
    exact absurd hid' (Nat.ne_of_lt hlt)
  once := by
    rw [mailed_cons]
    exact List.Nodup.append hitems h.once (fun g hg hg' => hnew g hg hg')
  amounts x hx := by
    rcases List.mem_cons.mp hx with rfl | hx
    · exact hmoney
    · exact h.amounts x hx

theorem nodup (h : Table mails next cap) (hm : m ∈ mails) : m.items.Nodup :=
  (List.nodup_flatMap.mp h.once).1 m hm

theorem eq_of_item (h : Table mails next cap) {x : Mail} {g : Nat} (hm : m ∈ mails) (hx : x ∈ mails)
    (hgm : g ∈ m.items) (hgx : g ∈ x.items) : m = x := by
  have honce := h.once
  clear h
  induction mails with
  | nil => simp at hm
  | cons y mails ih =>
    rw [mailed_cons] at honce
    have hdisj : ∀ z ∈ mails, g ∈ z.items → g ∉ y.items := fun z hz hgz hgy =>
      List.disjoint_of_nodup_append honce hgy (mem_mailed.mpr ⟨z, hz, hgz⟩)
    rcases List.mem_cons.mp hm with hmy | hm' <;> rcases List.mem_cons.mp hx with hxy | hx'
    · rw [hmy, hxy]
    · exact absurd (hmy ▸ hgm) (hdisj x hx' hgx)
    · exact absurd (hxy ▸ hgx) (hdisj m hm' hgm)
    · exact ih hm' hx' honce.of_append_right

end Table

end SkyfireBG
