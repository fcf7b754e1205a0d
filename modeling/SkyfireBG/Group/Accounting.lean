import SkyfireBG.Group.Consistent
import SkyfireBG.Lib.Run

/-!
# SkyfireBG.Group.Accounting

The subgroup counters over whole runs of the server, restarts included.

Each operation keeps `GroupWorld.Consistent`; the ones that need the caller's own tests for it are
listed in `GroupWorld.admits`.
-/

namespace SkyfireBG
namespace GroupWorld.Consistent

variable {w : GroupWorld} {g g' : Group} {k : Nat}

/-! ## The operations -/

theorem addMember (h : w.Consistent) {guid : Nat}
    (hfull : ∀ g, w.groups[k]? = some g → g.isRaidGroup = false → g.isFull = false)
    (hnew : ∀ g, w.groups[k]? = some g → g.stored = true →
      ∀ x ∈ w.groups.eraseIdx k, x.stored = true → x.isMember guid = false) :
    (w.addMember k guid).Consistent := by
  simp only [GroupWorld.addMember]
  split
  · exact h
  · rename_i g hk
    split
    · rename_i s g' hs hg'
      obtain ⟨hslots, hraid⟩ := Group.addMember_slots hg' hs
      have hsame := Group.SameObject.addMember hg'
      have hacc := (h.accounted g (List.mem_of_getElem? hk)).addMember (hfull g hk) hg'
      have hslot : ⟨guid, s⟩ ∈ g'.memberSlots := by
        rw [hslots]
        exact List.mem_append_right _ (.head _)
      have hkeep : ∀ m ∈ g.memberSlots, m ∈ g'.memberSlots := by
        intro m hm
        rw [hslots]
        exact List.mem_append_left _ hm
      have hold : ∀ guid' row, w.memberTable.find? guid' = some row →
          (g'.storeId = some row.guid ∧ ⟨guid', row.subgroup⟩ ∈ g'.memberSlots) ∨
          (w.memberTable.find? guid' = some row ∧ g.storeId ≠ some row.guid) := by
        intro guid' row hrow
        by_cases hg : g.storeId = some row.guid
        · exact .inl ⟨hsame.storeId.trans hg, hkeep _ (h.own_row hk hrow hg)⟩
        · exact .inr ⟨hrow, hg⟩
      refine h.replace hk hsame hacc ?_ ?_ ?_ h.types_other h.keys
      · intro guid' row hrow
        split at hrow
        · rename_i hst
          rw [OrdMap.find?_insertNew] at hrow
          split at hrow
          · rename_i hguid
            subst hguid
            -- either the row is new, or the player had one and keeps it
            cases hm : w.memberTable.find? guid' with
            | none =>
              rw [hm, Option.getD_none] at hrow
              cases hrow
              refine .inl ⟨?_, hslot⟩
              rw [hsame.storeId, Group.storeId, if_pos hst]
            | some r =>
              rw [hm, Option.getD_some] at hrow
              have hkept := hold guid' r hm
              rw [hm] at hkept
              cases hrow
              exact hkept
          · exact hold guid' row hrow
        · exact hold guid' row hrow
      · intro x hx id id' guid' hid hid' hmem
        obtain ⟨m, hm, hguid⟩ := Group.isMember_iff.mp hmem
        rw [hslots] at hm
        rcases List.mem_append.mp hm with hm | hm
        · refine h.apart_at hk hx (hsame.storeId ▸ hid) hid' ?_
          exact Group.isMember_iff.mpr ⟨m, hm, hguid⟩
        · cases List.mem_singleton.mp hm
          subst hguid
          have hst := hsame.stored ▸ (Group.stored_of_storeId hid).1
          exact hnew g hk hst x hx (Group.stored_of_storeId hid').1
      · intro id row hid hrow hr
        rw [hraid]
        exact h.types_at hk id row (hsame.storeId ▸ hid) hrow hr
    · exact h

theorem disband (h : w.Consistent) : (w.disband k).Consistent := by
  have hsub : List.Sublist ((w.groups.eraseIdx k).filterMap Group.storeId) w.storeIds :=
    (List.eraseIdx_sublist _ _).filterMap _
  have hmem : ∀ x ∈ w.groups.eraseIdx k, x ∈ w.groups := fun _ => List.mem_of_mem_eraseIdx
  simp only [GroupWorld.disband]
  split
  · exact h
  · rename_i g hk
    split
    · rename_i hst
      have hg : g.storeId = some g.dbStoreId := by rw [Group.storeId, if_pos hst]
      have hin : g.dbStoreId ∈ w.storeIds :=
        List.mem_filterMap.mpr ⟨g, List.mem_of_getElem? hk, hg⟩
      have hout : g.dbStoreId ∉ (w.groups.eraseIdx k).filterMap Group.storeId := by
        intro hc
        obtain ⟨x, hx, hid⟩ := List.mem_filterMap.mp hc
        exact h.id_ne hk hx hg hid rfl
      refine ⟨fun x hx => h.accounted x (hmem x hx), h.ids.sublist hsub, ?_,
        fun hc => h.pos (hsub.subset hc), fun x hx => h.unstored x (hmem x hx), ?_, ?_, ?_,
        fun x hx y hy => h.apart x (hmem x hx) y (hmem y hy)⟩
      · show (if _ then _ else _) ∉ _ ∧ 0 < (if _ then _ else _)
        split
        · refine ⟨hout, Nat.pos_of_ne_zero (fun h0 => ?_)⟩
          rw [h0] at hin
          exact h.pos hin
        · exact ⟨fun hc => h.next.1 (hsub.subset hc), h.next.2⟩
      · intro guid row hrow
        obtain ⟨hrow, hne⟩ := OrdMap.find?_filter.mp hrow
        obtain ⟨x, hx, hid, hslot⟩ := h.rows guid row hrow
        rcases mem_eraseIdx_or hk hx with rfl | hx
        · rw [hg] at hid
          simp [Option.some.inj hid] at hne
        · exact ⟨x, hx, hid, hslot⟩
      · intro x hx id row hid hrow
        have hne : id ≠ g.dbStoreId := h.id_ne hk hx hg hid
        rw [OrdMap.find?_erase_ne hne] at hrow
        exact h.types x (hmem x hx) id row hid hrow
      · show (w.groupTable.erase g.dbStoreId).find? 0 = none
        rw [OrdMap.find?_erase, h.keys, ite_self]
    · rename_i hst
      have hg : g.storeId = none := by rw [Group.storeId, if_neg hst]
      refine ⟨fun x hx => h.accounted x (hmem x hx), h.ids.sublist hsub,
        ⟨fun hc => h.next.1 (hsub.subset hc), h.next.2⟩,
        fun hc => h.pos (hsub.subset hc), fun x hx => h.unstored x (hmem x hx), ?_,
        fun x hx => h.types x (hmem x hx), h.keys,
        fun x hx y hy => h.apart x (hmem x hx) y (hmem y hy)⟩
      intro guid row hrow
      obtain ⟨x, hx, hid, hslot⟩ := h.rows guid row hrow
      rcases mem_eraseIdx_or hk hx with rfl | hx
      · rw [hg] at hid
        cases hid
      · exact ⟨x, hx, hid, hslot⟩

theorem eraseRow (h : w.Consistent) (guid : Nat) :
    GroupWorld.Consistent { w with memberTable := w.memberTable.erase guid } := by
  refine ⟨h.accounted, h.ids, h.next, h.pos, h.unstored, ?_, h.types, h.keys, h.apart⟩
  intro guid' row hrow
  rw [show _ = (w.memberTable.erase guid).find? guid' from rfl, OrdMap.find?_erase] at hrow
  split at hrow
  · cases hrow
  · exact h.rows guid' row hrow

theorem sameTypes (table : OrdMap Nat GroupRow) (key : Nat) {b : Bool} {f : GroupRow → GroupRow}
    {id : Nat} {row : GroupRow}
    (hrow : (if b then table.update key f else table).find? id = some row)
    (hf : ∀ r, (f r).groupType = r.groupType) :
    ∃ r, table.find? id = some r ∧ r.groupType = row.groupType := by
  split at hrow
  · rw [OrdMap.find?_update] at hrow
    split at hrow
    · rename_i hid
      obtain ⟨r, hr, rfl⟩ := Option.map_eq_some_iff.mp hrow
      exact ⟨r, hid ▸ hr, (hf r).symm⟩
    · exact ⟨row, hrow, rfl⟩
  · exact ⟨row, hrow, rfl⟩

theorem removeMember (h : w.Consistent) {guid : Nat} {kick lfgOutside : Bool}
    {online : Nat → Bool} : (w.removeMember k guid kick online lfgOutside).Consistent := by
  simp only [GroupWorld.removeMember]
  split
  · exact h
  · rename_i g hk
    split
    · exact h
    · rename_i g' hrem
      obtain ⟨hsame, hraid, hslots⟩ := Group.removeMember_slots hrem
      have hacc := (h.accounted g (List.mem_of_getElem? hk)).removeMember hrem
      refine h.replace hk hsame hacc ?_ ?_ ?_ ?_ ?_
      · intro guid' row hrow
        rw [OrdMap.find?_erase] at hrow
        split at hrow
        · cases hrow
        · rename_i hne
          by_cases hg : g.storeId = some row.guid
          · refine .inl ⟨hsame.storeId.trans hg, ?_⟩
            rw [hslots, List.mem_eraseP_of_neg (by simpa using hne)]
            exact h.own_row hk hrow hg
          · exact .inr ⟨hrow, hg⟩
      · intro x hx id id' guid' hid hid' hmem
        obtain ⟨m, hm, hguid⟩ := Group.isMember_iff.mp hmem
        rw [hslots] at hm
        refine h.apart_at hk hx (hsame.storeId ▸ hid) hid' ?_
        exact Group.isMember_iff.mpr ⟨m, List.mem_of_mem_eraseP hm, hguid⟩
      · intro id row hid hrow hr
        obtain ⟨r, hfind, htype⟩ := sameTypes w.groupTable g.dbStoreId hrow (fun _ => rfl)
        rw [hraid]
        exact h.types_at hk id r (hsame.storeId ▸ hid) hfind (htype ▸ hr)
      · intro x hx id row hid hrow hr
        obtain ⟨r, hfind, htype⟩ := sameTypes w.groupTable g.dbStoreId hrow (fun _ => rfl)
        exact h.types_other x hx id r hid hfind (htype ▸ hr)
      · refine Option.eq_none_iff_forall_not_mem.mpr (fun row hrow => ?_)
        obtain ⟨r, hfind, _⟩ := sameTypes w.groupTable g.dbStoreId hrow (fun _ => rfl)
        rw [h.keys] at hfind
        cases hfind
    · split
      · exact (h.eraseRow guid).disband
      · exact h.disband

/-- The slots of the group after `HandleGroupChangeSubGroupOpcode`, seen from a row: the row of the
moved player is written, every other slot is still there. -/
theorem changeSubGroup_slots (g : Group) (allowed : Bool) (guid groupNr : Nat) :
    let g' := g.handleGroupChangeSubGroup allowed guid groupNr
    g'.isRaidGroup = g.isRaidGroup ∧ (∀ x, g'.isMember x = g.isMember x) ∧
      (∀ m ∈ g.memberSlots, m.guid ≠ guid → m ∈ g'.memberSlots) ∧
      (g'.getMemberGroup guid ≠ g.getMemberGroup guid → ⟨guid, groupNr⟩ ∈ g'.memberSlots) ∧
      (g'.getMemberGroup guid = g.getMemberGroup guid → g'.memberSlots = g.memberSlots) := by
  have hstay : ∀ g' : Group, g' = g → g'.isRaidGroup = g.isRaidGroup ∧
      (∀ x, g'.isMember x = g.isMember x) ∧
      (∀ m ∈ g.memberSlots, m.guid ≠ guid → m ∈ g'.memberSlots) ∧
      (g'.getMemberGroup guid ≠ g.getMemberGroup guid → ⟨guid, groupNr⟩ ∈ g'.memberSlots) ∧
      (g'.getMemberGroup guid = g.getMemberGroup guid → g'.memberSlots = g.memberSlots) := by
    rintro g' rfl
    exact ⟨rfl, fun _ => rfl, fun m hm _ => hm, fun hne => absurd rfl hne, fun _ => rfl⟩
  simp only [Group.handleGroupChangeSubGroup]
  split
  · exact hstay _ rfl
  · split
    · exact hstay _ rfl
    · split
      · exact hstay _ rfl
      · rcases Group.Accounted.changeMembersGroup_cases g guid groupNr with
          he | ⟨m, hm, hr, hne, he⟩
        · exact hstay _ he
        · rw [he]
          have hmember : ∀ x, (Group.setSlotGroup guid groupNr g.memberSlots).any
              (fun m => m.guid == x) = g.memberSlots.any (fun m => m.guid == x) := by
            intro x
            exact Group.Accounted.any_setSlotGroup
          have hfound := Group.Accounted.find?_setSlotGroup groupNr hm
          refine ⟨rfl, hmember, fun m hm hne => ?_, fun _ => ?_, fun hc => ?_⟩
          · exact Group.Accounted.setSlotGroup_keeps hm hne
          · exact Group.Accounted.setSlotGroup_moved hm
          · simp only [Group.getMemberGroup, Group.getMemberSlot] at hc hm
            rw [hfound, hm] at hc
            exact absurd hc.symm hne

theorem changeSubGroup (h : w.Consistent) {allowed : Bool} {guid groupNr : Nat} :
    (w.changeSubGroup k allowed guid groupNr).Consistent := by
  simp only [GroupWorld.changeSubGroup]
  split
  · exact h
  · rename_i g hk
    have hsame : g.SameObject (g.handleGroupChangeSubGroup allowed guid groupNr) :=
      Group.SameObject.handleGroupChangeSubGroup
    have hacc : (g.handleGroupChangeSubGroup allowed guid groupNr).Accounted :=
      (h.accounted g (List.mem_of_getElem? hk)).handleGroupChangeSubGroup
    obtain ⟨hraid, hmember, hkeep, hmoved, hstay⟩ :=
      changeSubGroup_slots g allowed guid groupNr
    refine h.replace hk hsame hacc ?_ ?_ ?_ h.types_other h.keys
    · intro guid' row hrow
      split at hrow
      · rename_i hst
        obtain ⟨hst, hmv⟩ := Bool.and_eq_true_iff.mp hst
        have hslot := hmoved (by simpa using hmv)
        have hg : g.storeId = some g.dbStoreId := by rw [Group.storeId, if_pos hst]
        rw [OrdMap.find?_update] at hrow
        split at hrow
        · rename_i hguid
          subst hguid
          obtain ⟨r, hr, rfl⟩ := Option.map_eq_some_iff.mp hrow
          refine .inl ⟨?_, hslot⟩
          -- the row that is written is the player's row of this very group
          have hin : g.isMember guid' = true :=
            hmember guid' ▸ Group.isMember_iff.mpr ⟨_, hslot, rfl⟩
          obtain ⟨x, hx, hid, hxs⟩ := h.rows guid' r hr
          rcases mem_eraseIdx_or hk hx with rfl | hx
          · exact hsame.storeId.trans hid
          · have hout := h.apart_at hk hx hg hid hin
            rw [Group.isMember_iff.mpr ⟨_, hxs, rfl⟩] at hout
            cases hout
        · rename_i hguid
          by_cases hid : g.storeId = some row.guid
          · exact .inl ⟨hsame.storeId.trans hid, hkeep _ (h.own_row hk hrow hid) hguid⟩
          · exact .inr ⟨hrow, hid⟩
      · rename_i hst
        by_cases hid : g.storeId = some row.guid
        · have hslots := hstay (by simpa [(Group.stored_of_storeId hid).1] using hst)
          exact .inl ⟨hsame.storeId.trans hid, hslots ▸ h.own_row hk hrow hid⟩
        · exact .inr ⟨hrow, hid⟩
    · intro x hx id id' guid' hid hid' hmem
      rw [hmember] at hmem
      exact h.apart_at hk hx (hsame.storeId ▸ hid) hid' hmem
    · intro id row hid hrow hr
      rw [hraid]
      exact h.types_at hk id row (hsame.storeId ▸ hid) hrow hr

theorem find?_setGroupType {table : OrdMap Nat GroupRow} {key id : Nat} {t : GroupType}
    {row : GroupRow} (hrow : (setGroupType table key t).find? id = some row) :
    (id = key ∧ row.groupType = t) ∨ (id ≠ key ∧ table.find? id = some row) := by
  rw [setGroupType, OrdMap.find?_update] at hrow
  split at hrow
  · rename_i hid
    obtain ⟨r, _, rfl⟩ := Option.map_eq_some_iff.mp hrow
    exact .inl ⟨hid, rfl⟩
  · rename_i hid
    exact .inr ⟨hid, hrow⟩

theorem setGroupType_none {table : OrdMap Nat GroupRow} {key id : Nat} {t : GroupType}
    (h : table.find? id = none) : (setGroupType table key t).find? id = none := by
  rw [setGroupType, OrdMap.find?_update]
  split
  · rename_i hid
    rw [← hid, h]
    rfl
  · exact h

theorem convert (h : w.Consistent) (hk : w.groups[k]? = some g) (hsame : g.SameObject g')
    (hacc : g'.Accounted) (hslots : g'.memberSlots = g.memberSlots) {write : Bool}
    (hwrite : g.stored = true → write = true) :
    GroupWorld.Consistent { w with
      groups := w.groups.set k g'
      groupTable := if write then setGroupType w.groupTable g.dbStoreId g'.groupType
        else w.groupTable } := by
  refine h.retype hk hsame hacc hslots ?_ ?_ ?_
  · intro id row hid hrow hr
    obtain ⟨hst, hdb⟩ := Group.stored_of_storeId (hsame.storeId ▸ hid)
    rw [if_pos (hwrite hst)] at hrow
    rcases find?_setGroupType hrow with ⟨_, ht⟩ | ⟨hne, _⟩
    · rw [ht] at hr
      exact hr
    · exact absurd hdb.symm hne
  · intro x hx id row hid hrow hr
    split at hrow
    · rcases find?_setGroupType hrow with ⟨hkey, _⟩ | ⟨_, hrow⟩
      · -- only a stored group has a key that another stored one could share
        obtain ⟨_, hdb⟩ := Group.stored_of_storeId hid
        cases hst : g.stored with
        | true =>
          have hg : g.storeId = some g.dbStoreId := by rw [Group.storeId, if_pos hst]
          exact absurd hkey (h.id_ne hk hx hg hid)
        | false =>
          have h0 := h.unstored g (List.mem_of_getElem? hk) hst
          have hin : id ∈ w.storeIds :=
            List.mem_filterMap.mpr ⟨x, List.mem_of_mem_eraseIdx hx, hid⟩
          rw [hkey, h0] at hin
          exact absurd hin h.pos
      · exact h.types_other x hx id row hid hrow hr
    · exact h.types_other x hx id row hid hrow hr
  · split
    · exact setGroupType_none h.keys
    · exact h.keys

theorem convertToLFG (h : w.Consistent) : (w.convertToLFG k).Consistent := by
  simp only [GroupWorld.convertToLFG]
  split
  · exact h
  · rename_i g hk
    have hacc := (h.accounted g (List.mem_of_getElem? hk)).convertToLFG
    have hsame : g.SameObject g.convertToLFG := ⟨rfl, rfl, rfl⟩
    exact h.convert hk hsame hacc rfl (fun hs => hs)

theorem convertToRaid (h : w.Consistent) : (w.convertToRaid k).Consistent := by
  simp only [GroupWorld.convertToRaid]
  split
  · exact h
  · rename_i g hk
    have hacc := (h.accounted g (List.mem_of_getElem? hk)).convertToRaid
    have hsame : g.SameObject g.convertToRaid := ⟨rfl, rfl, rfl⟩
    refine h.convert hk hsame hacc rfl (fun hs => ?_)
    simp only [Group.stored, Bool.and_eq_true] at hs
    exact hs.1

/-- `ConvertToGroup`, where the row it writes is not that of another stored raid. -/
theorem convertToGroup (h : w.Consistent)
    (hrow : ∀ g, w.groups[k]? = some g → ∀ x ∈ w.groups.eraseIdx k,
      x.storeId = some g.lowGuid → x.isRaidGroup = false) :
    (w.convertToGroup k).Consistent := by
  simp only [GroupWorld.convertToGroup]
  split
  · exact h
  · rename_i g hk
    split
    · exact h
    · rename_i hlen
      have hacc := (h.accounted g (List.mem_of_getElem? hk)).convertToGroup
      have hg' : g.convertToGroup =
          { g with groupType := GROUPTYPE_NORMAL, subGroupsCounts := none } := by
        rw [Group.convertToGroup, if_neg hlen]
      have hsame : g.SameObject g.convertToGroup := by
        rw [hg']
        exact ⟨rfl, rfl, rfl⟩
      have hraid : g.convertToGroup.isRaidGroup = false := by
        rw [hg']
        rfl
      have hslots : g.convertToGroup.memberSlots = g.memberSlots := by rw [hg']
      refine h.retype hk hsame hacc hslots (fun _ _ _ _ _ => hraid) ?_ ?_
      · intro x hx id row hid hfind hr
        split at hfind
        · rcases find?_setGroupType hfind with ⟨hkey, _⟩ | ⟨_, hfind⟩
          · exact hrow g hk x hx (hkey ▸ hid)
          · exact h.types_other x hx id row hid hfind hr
        · exact h.types_other x hx id row hid hfind hr
      · split
        · exact setGroupType_none h.keys
        · exact h.keys

theorem nextUnused_spec {used : List Nat} {i n r : Nat} (hr : nextUnused used i n = some r) :
    i ≤ r ∧ r ∉ used := by
  induction n generalizing i with
  | zero => cases hr
  | succ n ih =>
    simp only [nextUnused] at hr
    split at hr
    · obtain ⟨hle, hnot⟩ := ih hr
      exact ⟨by omega, hnot⟩
    · rename_i hu
      cases hr
      exact ⟨Nat.le_refl _, by simpa using hu⟩

theorem create_slots {lowGuid dbStoreId leader : Nat} {bg bf : Bool}
    (hc : Group.create lowGuid dbStoreId leader bg bf = some g) :
    g.isBGGroup = bg ∧ g.isBFGroup = bf ∧ g.isRaidGroup = (bg || bf) ∧
      g.dbStoreId = (if bg || bf then 0 else dbStoreId) ∧ g.memberSlots = [⟨leader, 0⟩] := by
  simp only [Group.create] at hc
  cases hb : bg || bf with
  | true =>
    simp only [hb, if_true] at hc
    cases hc
    exact ⟨rfl, rfl, rfl, rfl, rfl⟩
  | false =>
    simp only [hb, Bool.false_eq_true, if_false] at hc
    cases hc
    exact ⟨rfl, rfl, rfl, rfl, rfl⟩

theorem create (h : w.Consistent) {leader : Nat} {bg bf : Bool}
    (hnew : (bg || bf) = false → ∀ x ∈ w.groups, x.stored = true → x.isMember leader = false) :
    (w.create leader bg bf).Consistent := by
  simp only [GroupWorld.create]
  split
  · rename_i hb
    split
    · exact h
    · rename_i g hc
      obtain ⟨hbg, hbf, hraid, hdb, hslots⟩ := create_slots hc
      have hst : g.stored = false := by
        rw [Group.stored, hbg, hbf]
        revert hb
        cases bg <;> cases bf <;> simp
      have hid : g.storeId = none := by rw [Group.storeId, if_neg (by simp [hst])]
      refine h.push (Group.Accounted.create hc) ?_ ?_ ⟨h.next.1, ?_, h.next.2⟩
        (fun _ _ hrow => .inl hrow) (fun _ _ hrow => .inl hrow) ?_ ?_
      · intro id hi
        rw [hid] at hi
        cases hi
      · intro _
        rw [hdb, if_pos hb]
      · intro id hi
        rw [hid] at hi
        cases hi
      · intro hs
        rw [hst] at hs
        cases hs
      · intro x hx guid hs
        rw [hst] at hs
        cases hs
  · rename_i hb
    have hb' : (bg || bf) = false := by simpa using hb
    split
    · rename_i next g hn hc
      obtain ⟨hbg, hbf, hraid, hdb, hslots⟩ := create_slots hc
      rw [hb'] at hraid
      rw [if_neg hb] at hdb
      have hst : g.stored = true := by
        rw [Group.stored, hbg, hbf]
        revert hb'
        cases bg <;> cases bf <;> simp
      have hid : g.storeId = some w.nextGroupDbStoreId := by
        rw [Group.storeId, if_pos hst, hdb]
      obtain ⟨hle, hfree⟩ := nextUnused_spec hn
      have hgroup : g.getMemberGroup leader = 0 := by
        simp [Group.getMemberGroup, Group.getMemberSlot, hslots]
      refine h.push (Group.Accounted.create hc) ?_ ?_ ⟨hfree, ?_, by omega⟩ ?_ ?_ ?_ ?_
      · intro id hi
        cases hid.symm.trans hi
        exact h.next
      · intro hs
        rw [hst] at hs
        cases hs
      · intro id hi
        cases hid.symm.trans hi
        omega
      · intro guid row hrow
        rw [OrdMap.find?_insertNew] at hrow
        split at hrow
        · rename_i hguid
          cases hm : w.memberTable.find? leader with
          | some r =>
            rw [hm, Option.getD_some] at hrow
            cases hrow
            exact .inl (hguid ▸ hm)
          | none =>
            rw [hm, Option.getD_none] at hrow
            cases hrow
            refine .inr ⟨hid, ?_⟩
            rw [hslots, hgroup, hguid]
            exact .head _
        · exact .inl hrow
      · intro id row hrow
        rw [OrdMap.find?_insertNew] at hrow
        split at hrow
        · rename_i hi
          exact .inr (hi ▸ hid)
        · exact .inl hrow
      · intro _
        exact hraid
      · intro x hx guid _ hxs hmem
        obtain ⟨m, hm, hguid⟩ := Group.isMember_iff.mp hmem
        rw [hslots, List.mem_singleton] at hm
        subst hm hguid
        exact hnew hb' x hx hxs
    · exact h

/-! ### Restart -/

theorem empty : GroupWorld.Consistent {} where
  accounted := fun _ hg => nomatch hg
  ids := .nil
  next := ⟨List.not_mem_nil, Nat.zero_lt_one⟩
  pos := List.not_mem_nil
  unstored := fun _ hg => nomatch hg
  rows := fun _ _ hrow => nomatch hrow
  types := fun _ hg => nomatch hg
  keys := rfl
  apart := fun _ hg => nomatch hg

theorem mem_memberRows {table : OrdMap Nat MemberRow} {id : Nat} {m : MemberSlot} :
    m ∈ memberRows table id ↔ table.find? m.guid = some ⟨id, m.group⟩ := by
  simp only [memberRows, List.mem_map, List.mem_filter, OrdMap.find?_eq_some, beq_iff_eq]
  constructor
  · rintro ⟨e, ⟨he, hid⟩, rfl⟩
    obtain ⟨guid, row⟩ := e
    subst hid
    exact he
  · intro he
    exact ⟨_, ⟨he, rfl⟩, rfl⟩

theorem memberRows_nodup {table : OrdMap Nat MemberRow} {id : Nat} :
    (memberRows table id).Nodup := by
  refine List.Pairwise.map _ ?_ (table.sorted.filter _)
  intro a b hab he
  exact absurd (congrArg MemberSlot.guid he) (Nat.ne_of_lt hab)

theorem loadGroup_accounted {lowGuid id : Nat} {row : GroupRow} :
    (Group.loadGroup lowGuid id row).Accounted := by
  simp only [Group.loadGroup]
  split
  · rename_i hr
    exact Group.Accounted.initRaidSubGroupsCounter hr (fun _ hm => nomatch hm)
      (fun _ => Nat.zero_le _)
  · rename_i hr
    exact Group.Accounted.empty rfl rfl (by simpa using hr)

theorem loadGroup_fields (lowGuid id : Nat) (row : GroupRow) :
    (Group.loadGroup lowGuid id row).memberSlots = [] ∧
      (Group.loadGroup lowGuid id row).storeId = some id ∧
      (Group.loadGroup lowGuid id row).isRaidGroup = row.groupType.raid := by
  simp only [Group.loadGroup]
  split <;> exact ⟨rfl, rfl, rfl⟩

theorem loaded_fields (lowGuid id : Nat) (row : GroupRow) (ms : List MemberSlot) :
    let g := ms.foldl (fun g m => g.loadMember m.guid m.group) (Group.loadGroup lowGuid id row)
    g.memberSlots = ms ∧ g.storeId = some id ∧ g.isRaidGroup = row.groupType.raid := by
  obtain ⟨hslots, hid, hraid⟩ := loadGroup_fields lowGuid id row
  rw [Group.Accounted.foldl_loadMember, hslots]
  exact ⟨List.nil_append ms, hid, hraid⟩

theorem memberRows_slots (h : w.Consistent) (id : Nat) :
    memberRows w.memberTable id = [] ∨ ∃ g ∈ w.groups, g.storeId = some id ∧
      ∀ m ∈ memberRows w.memberTable id, m ∈ g.memberSlots := by
  by_cases hid : ∃ g ∈ w.groups, g.storeId = some id
  · obtain ⟨g, hg, hid⟩ := hid
    obtain ⟨k, hk⟩ := List.mem_iff_getElem?.mp hg
    exact .inr ⟨g, hg, hid, fun m hm => h.own_row hk (mem_memberRows.mp hm) hid⟩
  · refine .inl (List.eq_nil_iff_forall_not_mem.mpr (fun m hm => hid ?_))
    obtain ⟨g, hg, hgid, _⟩ := h.rows _ _ (mem_memberRows.mp hm)
    exact ⟨g, hg, hgid⟩

theorem loaded_accounted (h : w.Consistent) {lowGuid id : Nat} {row : GroupRow}
    {ms : List MemberSlot} (hms : ms ⊆ memberRows w.memberTable id) (hnd : ms.Nodup)
    (hrow : w.groupTable.find? id = some row) :
    (ms.foldl (fun g m => g.loadMember m.guid m.group)
      (Group.loadGroup lowGuid id row)).Accounted := by
  obtain ⟨hslots, _, hraid⟩ := loadGroup_fields lowGuid id row
  rcases h.memberRows_slots id with hnil | ⟨g, hg, hid, hsub⟩
  · rw [hnil] at hms
    rw [List.subset_nil.mp hms]
    exact loadGroup_accounted
  · have hacc := h.accounted g hg
    have hperm := List.subperm_of_subset hnd (fun m hm => hsub m (hms hm))
    refine loadGroup_accounted.load hslots ?_ ?_ ?_
    · intro m hm
      exact hacc.placed m (hsub m (hms hm))
    · intro s
      exact Nat.le_trans (hperm.countP_le _) (hacc.room s)
    · intro hr
      exact Nat.le_trans hperm.length_le (hacc.party (h.types g hg id row hid hrow (hraid ▸ hr)))

theorem nextStoreId_stays {ν : Type} {l : List (Nat × ν)} {n : Nat} (h : ∀ e ∈ l, n < e.1) :
    l.foldl (fun n e => if e.1 = n then n + 1 else n) n = n := by
  induction l with
  | nil => rfl
  | cons a l ih =>
    have ha := h a (.head _)
    rw [List.foldl_cons, if_neg (by omega)]
    exact ih (fun e he => h e (.tail _ he))

/-- `NextGroupDbStoreId` after loading groups in the order of their ids. -/
theorem nextStoreId_spec {ν : Type} {l : List (Nat × ν)} {n : Nat}
    (hs : l.Pairwise (fun a b => a.1 < b.1)) (hge : ∀ e ∈ l, n ≤ e.1) :
    n ≤ l.foldl (fun n e => if e.1 = n then n + 1 else n) n ∧
      ∀ e ∈ l, e.1 ≠ l.foldl (fun n e => if e.1 = n then n + 1 else n) n := by
  induction l generalizing n with
  | nil => exact ⟨Nat.le_refl _, fun _ he => nomatch he⟩
  | cons a l ih =>
    obtain ⟨hlt, hs⟩ := List.pairwise_cons.mp hs
    have ha := hge a (.head _)
    rw [List.foldl_cons]
    split
    · rename_i he
      have hge' : ∀ e ∈ l, n + 1 ≤ e.1 := by
        intro e hm
        have := hlt e hm
        omega
      obtain ⟨h1, h2⟩ := ih hs hge'
      refine ⟨by omega, fun e hm => ?_⟩
      rcases List.mem_cons.mp hm with rfl | hm
      · omega
      · exact h2 e hm
    · rename_i he
      have hgt : ∀ e ∈ l, n < e.1 := by
        intro e hm
        have := hlt e hm
        omega
      rw [nextStoreId_stays hgt]
      refine ⟨Nat.le_refl _, fun e hm => ?_⟩
      rcases List.mem_cons.mp hm with rfl | hm
      · exact he
      · exact (hgt e hm).ne'

theorem mem_loadGroups {characters : Nat → Bool} {x : Group}
    (hx : x ∈ (w.loadGroups characters).groups) :
    ∃ id row, (w.loadGroups characters).groupTable.find? id = some row ∧ x.storeId = some id ∧
      x.isRaidGroup = row.groupType.raid ∧
      x.memberSlots = memberRows (w.loadGroups characters).memberTable id ∧
      (w.Consistent → x.Accounted) := by
  obtain ⟨⟨⟨id, row⟩, n⟩, he, rfl⟩ := List.mem_map.mp hx
  have hentry : (id, row) ∈ (w.loadGroups characters).groupTable.entries := by
    have hfst := List.mem_map_of_mem (f := Prod.fst) he
    rw [List.zipIdx_map_fst] at hfst
    exact hfst
  have hfind := OrdMap.find?_eq_some.mpr hentry
  obtain ⟨hslots, hid, hraid⟩ := loaded_fields n id row
    (memberRows (w.loadGroups characters).memberTable id)
  refine ⟨id, row, hfind, hid, hraid, hslots, fun h => ?_⟩
  refine h.loaded_accounted ?_ memberRows_nodup (OrdMap.find?_filter.mp hfind).1
  intro m hm
  exact mem_memberRows.mpr (OrdMap.find?_filter.mp (mem_memberRows.mp hm)).1

theorem storeIds_loadGroups {characters : Nat → Bool} :
    (w.loadGroups characters).storeIds =
      (w.loadGroups characters).groupTable.entries.map Prod.fst := by
  have hid : ∀ (e : Nat × GroupRow) n, Group.storeId
      ((memberRows (w.loadGroups characters).memberTable e.1).foldl
        (fun g m => g.loadMember m.guid m.group) (Group.loadGroup n e.1 e.2)) = some e.1 := by
    intro e n
    exact (loaded_fields n e.1 e.2 _).2.1
  rw [← List.zipIdx_map_fst 1 (w.loadGroups characters).groupTable.entries, List.map_map,
    storeIds, ← List.filterMap_eq_map]
  show List.filterMap _ (List.map _ _) = _
  rw [List.filterMap_map]
  refine List.filterMap_congr (fun e _ => ?_)
  exact hid e.1 e.2

theorem loadGroups (h : w.Consistent) {characters : Nat → Bool} :
    (w.loadGroups characters).Consistent := by
  have hsorted := (w.loadGroups characters).groupTable.sorted
  have hpos : ∀ e ∈ (w.loadGroups characters).groupTable.entries, 1 ≤ e.1 := by
    intro e he
    refine Nat.pos_of_ne_zero (fun h0 => ?_)
    have hfind := (OrdMap.find?_filter.mp (OrdMap.find?_eq_some.mpr he)).1
    rw [h0, h.keys] at hfind
    cases hfind
  obtain ⟨hnext, hfree⟩ := nextStoreId_spec hsorted hpos
  refine ⟨?_, ?_, ⟨?_, hnext⟩, ?_, ?_, ?_, ?_, ?_, ?_⟩
  · intro x hx
    obtain ⟨_, _, _, _, _, _, hacc⟩ := mem_loadGroups hx
    exact hacc h
  · rw [storeIds_loadGroups]
    refine List.Pairwise.map _ ?_ hsorted
    intro a b hab
    exact Nat.ne_of_lt hab
  · rw [storeIds_loadGroups]
    intro hc
    obtain ⟨e, he, hid⟩ := List.mem_map.mp hc
    exact hfree e he hid
  · rw [storeIds_loadGroups]
    intro hc
    obtain ⟨e, he, hid⟩ := List.mem_map.mp hc
    have := hpos e he
    omega
  · intro x hx hs
    obtain ⟨_, _, _, hid, _⟩ := mem_loadGroups hx
    rw [(Group.stored_of_storeId hid).1] at hs
    cases hs
  · intro guid row hrow
    have hkept := (OrdMap.find?_filter.mp hrow).2
    obtain ⟨hgroup, _⟩ := Bool.and_eq_true_iff.mp hkept
    obtain ⟨grow, hgrow⟩ := Option.isSome_iff_exists.mp hgroup
    have hentry := OrdMap.find?_eq_some.mp hgrow
    rw [← List.zipIdx_map_fst 1 (OrdMap.entries _)] at hentry
    obtain ⟨⟨e, n⟩, he, heq⟩ := List.mem_map.mp hentry
    obtain rfl : e = (row.guid, grow) := heq
    obtain ⟨hslots, hid, _⟩ := loaded_fields n row.guid grow
      (memberRows (w.loadGroups characters).memberTable row.guid)
    refine ⟨_, List.mem_map_of_mem he, hid, ?_⟩
    show _ ∈ (List.foldl _ (Group.loadGroup n row.guid grow)
      (memberRows (w.loadGroups characters).memberTable row.guid)).memberSlots
    rw [hslots]
    exact mem_memberRows.mpr hrow
  · intro x hx id row hid hrow hr
    obtain ⟨id', row', hfind, hid', hraid, _⟩ := mem_loadGroups hx
    cases hid.symm.trans hid'
    cases hrow.symm.trans hfind
    exact hraid.trans hr
  · refine Option.eq_none_iff_forall_not_mem.mpr (fun row hrow => ?_)
    have := hpos _ (OrdMap.find?_eq_some.mp hrow)
    omega
  · intro x hx y hy id id' guid hxi hyi hxm hym
    obtain ⟨i, _, _, hi, _, hxs, _⟩ := mem_loadGroups hx
    obtain ⟨j, _, _, hj, _, hys, _⟩ := mem_loadGroups hy
    cases hxi.symm.trans hi
    cases hyi.symm.trans hj
    obtain ⟨m, hm, hmg⟩ := Group.isMember_iff.mp hxm
    obtain ⟨m', hm', hmg'⟩ := Group.isMember_iff.mp hym
    rw [hxs] at hm
    rw [hys] at hm'
    have hfm := mem_memberRows.mp hm
    have hfm' := mem_memberRows.mp hm'
    rw [hmg] at hfm
    rw [hmg', hfm] at hfm'
    exact congrArg MemberRow.guid (Option.some.inj hfm')

theorem restart (h : w.Consistent) {characters : Nat → Bool}
    (hnone : (w.keptGroups characters).entries.isEmpty → w.memberTable.entries.isEmpty) :
    (w.restart characters).Consistent := by
  rw [GroupWorld.restart]
  split
  next hempty =>
    have hmember : w.memberTable = ∅ := OrdMap.eq_empty (List.isEmpty_iff.mp (hnone hempty))
    have hgroup : w.keptGroups characters = ∅ := OrdMap.eq_empty (List.isEmpty_iff.mp hempty)
    rw [hmember, hgroup]
    exact empty
  · exact h.loadGroups

end GroupWorld.Consistent

/-- The steps as the callers make them.  A party takes a member only while `IsFull` is false; a
player joins a stored group only when he is in no other; `ConvertToGroup` does not hit the row of
another stored raid; and a restart that finds no group finds no members. -/
def GroupWorld.admits (w : GroupWorld) : GroupEvent → Bool
  | .create leader bg bf =>
    bg || bf || w.groups.all (fun x => !(x.stored && x.isMember leader))
  | .addMember k guid =>
    match w.groups[k]? with
    | none => true
    | some g => (g.isRaidGroup || !g.isFull) &&
      (!g.stored || (w.groups.eraseIdx k).all (fun x => !(x.stored && x.isMember guid)))
  | .convertToGroup k =>
    match w.groups[k]? with
    | none => true
    | some g => (w.groups.eraseIdx k).all
      (fun x => !(decide (x.storeId = some g.lowGuid) && x.isRaidGroup))
  | .restart characters =>
    !(w.keptGroups characters).entries.isEmpty || w.memberTable.entries.isEmpty
  | _ => true

theorem GroupWorld.consistent_step (w : GroupWorld) (e : GroupEvent) (h : w.Consistent)
    (hadm : w.admits e = true) : (w.step e).Consistent := by
  cases e with
  | create leader bg bf =>
    refine h.create (fun hb x hx hs => ?_)
    simp only [admits, hb, Bool.false_or, List.all_eq_true] at hadm
    simpa [hs] using hadm x hx
  | addMember k guid =>
    refine h.addMember (fun g hk hr => ?_) (fun g hk hs x hx hxs => ?_)
    · simp only [admits, hk, Bool.and_eq_true] at hadm
      simpa [hr] using hadm.1
    · simp only [admits, hk, hs, Bool.and_eq_true, Bool.not_true, Bool.false_or,
        List.all_eq_true] at hadm
      simpa [hxs] using hadm.2 x hx
  | removeMember k guid kick online lfgOutside => exact h.removeMember
  | disband k => exact h.disband
  | changeSubGroup k allowed guid groupNr => exact h.changeSubGroup
  | convertToLFG k => exact h.convertToLFG
  | convertToRaid k => exact h.convertToRaid
  | convertToGroup k =>
    refine h.convertToGroup (fun g hk x hx hid => ?_)
    simp only [admits, hk, List.all_eq_true] at hadm
    simpa [hid] using hadm x hx
  | restart characters =>
    exact h.restart fun hempty => by simpa [admits, hempty] using hadm

/-- A party that becomes a raid, moves a member to the next subgroup and survives a restart. -/
def sampleGroupEvents : List GroupEvent :=
  [.create 1 false false, .addMember 0 2, .addMember 0 3, .convertToRaid 0, .addMember 0 4,
   .changeSubGroup 0 true 3 1, .removeMember 0 2 false (fun _ => true) false,
   .restart (fun _ => true)]

example : (sampleGroupEvents.foldl GroupWorld.step {}).groups.map Group.subGroupsCounts =
    [some [2, 1, 0, 0, 0, 0, 0, 0]] := by decide

end SkyfireBG
