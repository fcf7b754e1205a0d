import SkyfireBG.Group.Accounting
import SkyfireBG.Group.Persisted

/-!
# SkyfireBG.Group.Rows

Each operation on a group keeps `Persisted`, where what it leaves unwritten was not changed.
-/

namespace SkyfireBG

namespace Group

variable {g : Group} {guid guid' subgroup : Nat}

theorem getMemberSlot_push {g' : Group} (h : g'.memberSlots = g.memberSlots ++ [⟨guid, subgroup⟩]) :
    g'.getMemberSlot guid' =
      (g.getMemberSlot guid').or (if guid = guid' then some ⟨guid, subgroup⟩ else none) := by
  rw [getMemberSlot, getMemberSlot, h, List.find?_append, List.find?_singleton]
  simp only [beq_iff_eq]

theorem isMember_push {g' : Group} (h : g'.memberSlots = g.memberSlots ++ [⟨guid, subgroup⟩]) :
    g'.isMember guid' = true ↔ g.isMember guid' = true ∨ guid = guid' := by
  simp [isMember, h]

theorem getMemberSlot_eq_none : g.getMemberSlot guid = none ↔ g.isMember guid = false := by
  simp [getMemberSlot, isMember]

theorem getMemberSlot_others {g' : Group} (h : g'.memberSlots = g.others guid)
    (hnodup : (g.memberSlots.map MemberSlot.guid).Nodup) :
    g'.getMemberSlot guid' = if guid' = guid then none else g.getMemberSlot guid' := by
  rw [getMemberSlot, getMemberSlot, h, others]
  generalize g.memberSlots = ms at hnodup
  induction ms with
  | nil => simp
  | cons m ms ih =>
    obtain ⟨hm, hms⟩ := List.nodup_cons.mp hnodup
    by_cases hguid : m.guid = guid
    · rw [List.eraseP_cons_of_pos (by simpa using hguid)]
      split_ifs with heq
      · refine List.find?_eq_none.mpr fun x hx => ?_
        intro hxg
        refine hm (List.mem_map.mpr ⟨x, hx, ?_⟩)
        rw [hguid, ← heq]
        simpa using hxg
      · rw [List.find?_cons_of_neg]
        simpa [hguid] using fun h => heq h.symm
    · rw [List.eraseP_cons_of_neg (by simpa using hguid)]
      by_cases hhere : m.guid = guid'
      · have hne : guid' ≠ guid := hhere ▸ hguid
        rw [if_neg hne, List.find?_cons_of_pos (by simpa using hhere),
          List.find?_cons_of_pos (by simpa using hhere)]
      · rw [List.find?_cons_of_neg (by simpa using hhere),
          List.find?_cons_of_neg (by simpa using hhere)]
        exact ih hms

theorem removeMember_row {kick lfgOutside : Bool} {online : Nat → Bool} {g' : Group}
    (h : g.removeMember guid kick online lfgOutside = .removed g') :
    g'.memberSlots = g.others guid ∧ g'.lowGuid = g.lowGuid ∧ g'.looterGuid = g.looterGuid ∧
      g'.lootThreshold = g.lootThreshold ∧ g'.groupType = g.groupType ∧
      ((g.leaderGuid = guid ∧ (g'.memberSlots.any fun m => online m.guid) = true) ∨
        g'.leaderGuid = g.leaderGuid) := by
  have hg : g' = g.without guid online := by
    rcases removeMember_cases g guid kick online lfgOutside with hc | hc | hc <;>
      rw [hc] at h <;> cases h
    rfl
  obtain ⟨hslots, -, htype, -⟩ := without_fields g guid online
  obtain ⟨leader, hnext⟩ := nextLeader_eq ((g.delinkMember guid).dropSlot guid) guid online
  have hrest : ∀ x : Group, (x.dropSlot guid).lowGuid = x.lowGuid ∧
      (x.dropSlot guid).looterGuid = x.looterGuid ∧
      (x.dropSlot guid).lootThreshold = x.lootThreshold := by
    intro x
    unfold dropSlot
    split <;> exact ⟨rfl, rfl, rfl⟩
  obtain ⟨hlow, hlooter, hthreshold⟩ := hrest (g.delinkMember guid)
  refine hg ▸ ⟨hslots, ?_, ?_, ?_, htype, ?_⟩
  · rw [without, hnext]
    exact hlow
  · rw [without, hnext]
    exact hlooter
  · rw [without, hnext]
    exact hthreshold
  · rw [without_leaderGuid, hslots]
    by_cases hl : g.leaderGuid = guid
    · rw [if_pos hl]
      cases hfind : (g.others guid).find? (fun m => online m.guid) with
      | none => exact .inr hl.symm
      | some m =>
        refine .inl ⟨hl, List.any_eq_true.mpr ⟨m, List.mem_of_find?_eq_some hfind, ?_⟩⟩
        exact List.find?_some (p := fun m : MemberSlot => online m.guid) hfind
    · rw [if_neg hl]
      exact .inr rfl

theorem create_lowGuid {lowGuid dbStoreId leader : Nat} {bg bf : Bool}
    (h : create lowGuid dbStoreId leader bg bf = some g) : g.lowGuid = lowGuid := by
  cases bg <;> cases bf <;> cases h <;> rfl

theorem handleGroupChangeSubGroup_cases (g : Group) (allowed : Bool) (guid groupNr : Nat) :
    g.handleGroupChangeSubGroup allowed guid groupNr = g ∨
      ∃ m, g.getMemberSlot guid = some m ∧ m.group ≠ groupNr ∧
        ∃ counts, g.handleGroupChangeSubGroup allowed guid groupNr =
          { g with
            memberSlots := setSlotGroup guid groupNr g.memberSlots
            subGroupsCounts := counts } := by
  unfold handleGroupChangeSubGroup
  split_ifs
  · exact .inl rfl
  · exact .inl rfl
  · exact .inl rfl
  · rcases Accounted.changeMembersGroup_cases g guid groupNr with he | ⟨m, hm, -, hne, he⟩
    · exact .inl he
    · exact .inr ⟨m, hm, hne, _, he⟩

theorem map_guid_setSlotGroup (ms : List MemberSlot) :
    (setSlotGroup guid subgroup ms).map MemberSlot.guid = ms.map MemberSlot.guid := by
  induction ms with
  | nil => rfl
  | cons m ms ih =>
    simp only [setSlotGroup]
    split <;> simp [ih]

theorem find?_setSlotGroup_ne (ms : List MemberSlot) (hne : guid' ≠ guid) :
    (setSlotGroup guid subgroup ms).find? (fun m => m.guid == guid') =
      ms.find? (fun m => m.guid == guid') := by
  induction ms with
  | nil => rfl
  | cons m ms ih =>
    simp only [setSlotGroup]
    split
    · rename_i hm
      have hm' : m.guid ≠ guid' := hm ▸ hne.symm
      rw [List.find?_cons_of_neg (by simpa using hm'), List.find?_cons_of_neg (by simpa using hm')]
    · rw [List.find?_cons, List.find?_cons, ih]

end Group

/-! ## The operations -/

namespace GroupStore

variable {w : GroupStore} {r r' : GroupRecord} {low guid : Nat} {t : GroupTables}

theorem memberRow_eq (hid : r'.group.dbStoreId = r.group.dbStoreId)
    (hslot : r'.group.getMemberSlot guid = r.group.getMemberSlot guid)
    (hflags : r'.flags guid = r.flags guid) (hroles : r'.roles guid = r.roles guid) :
    r'.memberRow guid = r.memberRow guid := by
  rw [GroupRecord.memberRow, GroupRecord.memberRow, hid, hslot, hflags, hroles]

theorem clearFlag_zero (flag : Nat) : clearFlag 0 flag = 0 := by
  simp [clearFlag]

theorem whenStored_execute (s : GroupStatement) : (r.whenStored s).foldl GroupTables.execute t =
    if r.group.stored = true then t.execute s else t := by
  unfold GroupRecord.whenStored
  split_ifs <;> rfl

theorem flagsOfLeader_zero {leader : Nat} (hflags : ∀ guid, r.flags guid = 0) (guid : Nat) :
    flagsOfLeader r leader guid = 0 := by
  by_cases hg : guid = leader
  · rw [flagsOfLeader, hg, Function.update_self, hflags, clearFlag_zero]
  · rw [flagsOfLeader, Function.update_of_ne hg, hflags]

theorem flagsWith_zero {flag : Nat} (hflags : ∀ guid, r.flags guid = 0) (x : Nat) :
    flagsWith r guid false flag x = 0 := by
  have hrest : (if flag = MEMBER_FLAG_ASSISTANT then r.flags
      else fun m => if r.group.isMember m then clearFlag (r.flags m) flag else r.flags m) =
        fun _ => 0 := by
    funext m
    split_ifs <;> simp [hflags, clearFlag_zero]
  simp [flagsWith, hrest, clearFlag_zero]

namespace Persisted

theorem addMember (h : Persisted w) (hr : w.groups.find? low = some r)
    (hfree : r.group.stored = true → w.Free guid ∧ guid ≠ 0) :
    Persisted (w.addMember low guid r) := by
  unfold GroupStore.addMember
  split
  case h_2 => exact h
  rename_i subGroup g hsub hadd
  obtain ⟨hslots, -⟩ := Group.addMember_slots hadd hsub
  have hrest : g.lowGuid = r.group.lowGuid ∧ g.leaderGuid = r.group.leaderGuid ∧
      g.looterGuid = r.group.looterGuid ∧ g.lootThreshold = r.group.lootThreshold ∧
      g.groupType = r.group.groupType := by
    simp only [Group.addMember, hsub, Option.some.injEq] at hadd
    subst hadd
    exact ⟨rfl, rfl, rfl, rfl, rfl⟩
  obtain ⟨hlow, hleader, hlooter, hthreshold, htype⟩ := hrest
  have hsame := Group.SameObject.addMember hadd
  refine h.replace hr hlow hsame (fun hs => ?_) (fun x hs hx => ?_) (fun id => ?_) (fun x => ?_)
  · have hs : r.group.stored = true := hsame.stored ▸ hs
    obtain ⟨hfreeGuid, hpos⟩ := hfree hs
    obtain ⟨hnodup, hzero, hflags⟩ := h.plain low r hr hs
    refine ⟨?_, Bool.eq_false_iff.mpr fun hmem => ?_, fun x => ?_⟩
    · have hnot := hfreeGuid.find? hr hs
      rw [hslots, List.map_append, List.nodup_append]
      refine ⟨hnodup, List.nodup_singleton _, fun a ha b hb hab => ?_⟩
      obtain ⟨m, hm, rfl⟩ := List.mem_map.mp ha
      rw [List.map_singleton, List.mem_singleton] at hb
      rw [Group.isMember_iff.mpr ⟨m, hm, hab.trans hb⟩] at hnot
      cases hnot
    · rcases (Group.isMember_push hslots).mp hmem with hmem | hmem
      · rw [hzero] at hmem
        cases hmem
      · exact hpos hmem
    · by_cases hx : x = guid
      · simp [hx]
      · simpa [hx] using hflags x
  · have hs : r.group.stored = true := hsame.stored ▸ hs
    rcases (Group.isMember_push hslots).mp hx with hx | rfl
    · exact .inl hx
    · exact .inr (hfree hs).1
  · rw [whenStored_execute]
    have hrow : ({ r with
        group := g, flags := Function.update r.flags guid 0
        roles := Function.update r.roles guid 0 } : GroupRecord).row = r.row := by
      simp only [GroupRecord.row, hleader, hlooter, hthreshold, htype]
    by_cases hs : r.group.stored = true
    · rw [if_pos hs]
      exact h.row_kept hr (fun _ => hrow) id
    · rw [if_neg hs]
      exact h.row_kept hr (fun _ => hrow) id
  · rw [whenStored_execute]
    by_cases hs : r.group.stored = true
    · have hnone := (Group.getMemberSlot_eq_none).mpr ((hfree hs).1.find? hr hs)
      rw [if_pos hs]
      simp only [GroupTables.execute, OrdMap.find?_insertNew, h.memberRow_free (hfree hs).1,
        Option.getD_none, hs, true_and]
      by_cases hx : x = guid
      · rw [if_pos hx, if_pos (.inr ((Group.isMember_push hslots).mpr (.inr hx.symm))), hx]
        simp [GroupRecord.memberRow, Group.getMemberSlot_push hslots, hnone, hsame.id]
      · rw [if_neg hx]
        have hslot : g.getMemberSlot x = r.group.getMemberSlot x := by
          rw [Group.getMemberSlot_push hslots, if_neg (Ne.symm hx), Option.or_none]
        split_ifs with hmem
        · have hmem : r.group.isMember x = true := by
            rcases hmem with hmem | hmem
            · exact hmem
            · exact ((Group.isMember_push hslots).mp hmem).resolve_right (Ne.symm hx)
          rw [h.memberRow_at hr hs hmem]
          exact (memberRow_eq hsame.id hslot (Function.update_of_ne hx _ _)
            (Function.update_of_ne hx _ _)).symm
        · rfl
    · simp [hs]

theorem disbandWith (h : Persisted w) (hr : w.groups.find? low = some r)
    (hgroups : ∀ id, t.groups.find? id = w.tables.groups.find? id)
    (hmembers : ∀ x, t.members.find? x = w.tables.members.find? x ∨
      t.members.find? x = none ∧ (r.group.stored = true → r.group.isMember x = true) ∧
        (r.group.stored = false → w.Free x)) :
    Persisted ({ w with tables := t }.disband low r) := by
  unfold GroupStore.disband
  by_cases hs : r.group.stored = true
  · have hid := storeId_of_stored hs
    rw [if_pos hs]
    refine h.remove hr ?_ (fun id => ?_) (fun x => ?_)
    · dsimp only
      split_ifs
      · exact .inr hid
      · exact .inl rfl
    · simp only [List.foldl_cons, List.foldl_nil, GroupTables.execute, OrdMap.find?_erase, hgroups,
        hid, Option.some.injEq, eq_comm]
    · simp only [List.foldl_cons, List.foldl_nil, GroupTables.execute, hs, true_and]
      refine Option.ext fun row => ?_
      rw [OrdMap.find?_filter]
      -- a row is that of a member of this group exactly when it has its store id
      have hown : w.tables.members.find? x = some row →
          (row.guid = r.group.dbStoreId ↔ r.group.isMember x = true) := by
        intro hrow
        obtain ⟨i, y, hy, hys, hyrow⟩ := (h.memberRows x row).mp hrow
        have hym : y.group.isMember x = true := by
          rw [← memberRow_isSome, hyrow]
          rfl
        have hguid : row.guid = y.group.dbStoreId := by
          obtain ⟨slot, -, hslot⟩ := Option.map_eq_some_iff.mp hyrow
          rw [← hslot]
        constructor
        · intro heq
          have hi := h.ids i y low r r.group.dbStoreId hy hr
            (by rw [storeId_of_stored hys, ← hguid, heq]) hid
          subst hi
          cases hr.symm.trans hy
          exact hym
        · intro hmem
          have hi := h.apart i y low r x hy hr hys hs hym hmem
          subst hi
          cases hr.symm.trans hy
          exact hguid
      rcases hmembers x with hx | ⟨hx, hmem, -⟩
      · rw [hx]
        constructor
        · rintro ⟨hrow, hne⟩
          rw [if_neg fun hmem => bne_iff_ne.mp hne ((hown hrow).mpr hmem)]
          exact hrow
        · intro hrow
          split_ifs at hrow with hmem
          exact ⟨hrow, bne_iff_ne.mpr fun heq => hmem ((hown hrow).mp heq)⟩
      · rw [hx, if_pos (hmem hs)]
        simp
  · rw [if_neg hs]
    have hs' : r.group.stored = false := Bool.eq_false_iff.mpr hs
    refine h.remove hr (.inl rfl) (fun id => ?_) (fun x => ?_)
    · rw [if_neg fun hid => hs (Group.stored_of_storeId hid).1]
      exact hgroups id
    · rw [if_neg fun hown => hs hown.1]
      rcases hmembers x with hx | ⟨hx, -, hfree⟩
      · exact hx
      · rw [h.memberRow_free (hfree hs')]
        exact hx

theorem disband (h : Persisted w) (hr : w.groups.find? low = some r) :
    Persisted (w.disband low r) :=
  h.disbandWith hr (fun _ => rfl) fun _ => .inl rfl

theorem dropMember (h : Persisted w) (hr : w.groups.find? low = some r) {g : Group}
    (hslots : g.memberSlots = r.group.others guid) (hlow : g.lowGuid = r.group.lowGuid)
    (hsame : r.group.SameObject g) {flags : Nat → Nat}
    (hflags : r.group.stored = true → ∀ guid, flags guid = 0)
    (hfree : r.group.stored = true ∧ r.group.isMember guid = true ∨ w.Free guid)
    (hgroups : ∀ id, t.groups.find? id =
      if r.group.storeId = some id then some { r with group := g, flags := flags }.row
      else w.tables.groups.find? id)
    (hmembers : ∀ x, t.members.find? x = (w.tables.members.erase guid).find? x) :
    Persisted { w with
      groups := w.groups.set low { r with group := g, flags := flags }, tables := t } := by
  have hsub : ∀ m ∈ g.memberSlots, m ∈ r.group.memberSlots := by
    intro m hm
    rw [hslots] at hm
    exact List.mem_of_mem_eraseP hm
  have hmem : ∀ x, g.isMember x = true → r.group.isMember x = true := by
    intro x hx
    obtain ⟨m, hm, hguid⟩ := Group.isMember_iff.mp hx
    exact Group.isMember_iff.mpr ⟨m, hsub m hm, hguid⟩
  have hslot : r.group.stored = true → ∀ x, g.getMemberSlot x =
      if x = guid then none else r.group.getMemberSlot x := fun hs x =>
    Group.getMemberSlot_others hslots (h.plain low r hr hs).1
  refine h.replace hr hlow hsame (fun hs => ?_) (fun x _ hx => .inl (hmem x hx)) hgroups
    (fun x => ?_)
  · have hs : r.group.stored = true := hsame.stored ▸ hs
    obtain ⟨hnodup, hzero, -⟩ := h.plain low r hr hs
    refine ⟨?_, Bool.eq_false_iff.mpr fun hx => ?_, hflags hs⟩
    · rw [hslots]
      exact hnodup.sublist (List.eraseP_sublist.map _)
    · rw [hmem 0 hx] at hzero
      cases hzero
  · rw [hmembers, OrdMap.find?_erase]
    by_cases hx : x = guid
    · rw [if_pos hx, hx]
      by_cases hs : r.group.stored = true
      · split_ifs with hown
        · rw [GroupRecord.memberRow, hslot hs guid, if_pos rfl]
          rfl
        · rcases hfree with ⟨-, hmember⟩ | hfree
          · exact absurd ⟨hs, .inl hmember⟩ hown
          · exact (h.memberRow_free hfree).symm
      · rw [if_neg fun hown => hs hown.1]
        exact (h.memberRow_free (hfree.resolve_left fun hown => hs hown.1)).symm
    · rw [if_neg hx]
      split_ifs with hown
      · obtain ⟨hs, hmember⟩ := hown
        have hmember : r.group.isMember x = true := by
          rcases hmember with hmember | hmember
          · exact hmember
          · exact hmem x hmember
        rw [h.memberRow_at hr hs hmember]
        have hrow : GroupRecord.memberRow { r with group := g, flags := flags } x = r.memberRow x :=
          memberRow_eq hsame.id ((hslot hs x).trans (if_neg hx))
            ((hflags hs x).trans ((h.plain low r hr hs).2.2 x).symm) rfl
        exact hrow.symm
      · rfl

theorem removeMember (h : Persisted w) (hr : w.groups.find? low = some r) {kick lfgOutside : Bool}
    {online : Nat → Bool}
    (hfree : r.group.stored = true ∧ r.group.isMember guid = true ∨ w.Free guid ∨
      (r.group.isLFGGroup && kick) = true ∨ ¬ r.group.getMembersCount > r.group.minMembers) :
    Persisted (w.removeMember low guid kick online lfgOutside r) := by
  have hplain : r.group.stored = true → ∀ guid, r.flags guid = 0 := fun hs =>
    (h.plain low r hr hs).2.2
  -- a deletion that is sent is that of a member, or of nobody's row
  have hfree' : (r.group.isLFGGroup && kick) ≠ true → r.group.getMembersCount > r.group.minMembers →
      r.group.stored = true ∧ r.group.isMember guid = true ∨ w.Free guid := by
    intro hkick hcount
    rcases hfree with hmem | hfree | hk | hc
    · exact .inl hmem
    · exact .inr hfree
    · exact absurd hk hkick
    · exact absurd hcount hc
  unfold GroupStore.removeMember
  split
  · exact h
  · rename_i g hremoved
    have hgone := hfree' (fun hk => by simp [Group.removeMember, hk] at hremoved)
      (by_contra fun hc => by
        simp only [Group.removeMember, if_neg hc] at hremoved
        split at hremoved <;> cases hremoved)
    obtain ⟨hsame, -, -⟩ := Group.removeMember_slots hremoved
    obtain ⟨hslots, hlow, hlooter, hthreshold, htype, hleader⟩ := Group.removeMember_row hremoved
    split_ifs with hnew
    · refine h.dropMember hr hslots hlow hsame (fun hs => flagsOfLeader_zero (hplain hs)) hgone
        (fun id => ?_) (fun x => ?_)
      · rw [List.foldl_cons, whenStored_execute]
        by_cases hs : r.group.stored = true
        · rw [if_pos hs]
          refine h.row_written hr hs ?_ id
          simp only [GroupRecord.row, hlooter, hthreshold, htype]
        · rw [if_neg hs]
          exact h.row_kept hr (fun hs' => absurd hs' hs) id
      · rw [List.foldl_cons, whenStored_execute]
        split_ifs <;> rfl
    · refine h.dropMember hr hslots hlow hsame hplain hgone (fun id => ?_) (fun x => rfl)
      refine h.row_kept hr (fun _ => ?_) id
      simp only [GroupRecord.row, hlooter, hthreshold, htype, hleader.resolve_left hnew]
  · rename_i hdisbanded
    split_ifs with hcount
    · have hgone := hfree' (fun hk => by simp [Group.removeMember, hk] at hdisbanded) hcount
      refine h.disbandWith hr (fun _ => rfl) (fun x => ?_)
      simp only [GroupTables.execute, OrdMap.find?_erase]
      by_cases hx : x = guid
      · rw [if_pos hx, hx]
        rcases hgone with ⟨hs, hmem⟩ | hfree
        · exact .inr ⟨rfl, fun _ => hmem, fun hs' => absurd (hs.symm.trans hs') Bool.noConfusion⟩
        · exact .inl (h.memberRow_free hfree).symm
      · rw [if_neg hx]
        exact .inl rfl
    · exact h.disband hr

theorem changeLeader (h : Persisted w) (hr : w.groups.find? low = some r) {online : Nat → Bool} :
    Persisted (w.changeLeader low guid online r) := by
  unfold GroupStore.changeLeader
  split_ifs with hnew
  · have hg : r.group.changeLeader guid online = { r.group with leaderGuid := guid } := if_pos hnew
    rw [hg]
    refine h.retitle hr rfl ⟨rfl, rfl, rfl⟩ rfl
      (fun hs => flagsOfLeader_zero (h.plain low r hr hs).2.2) (fun _ _ _ => rfl)
      (fun x => ?_) (fun id => ?_)
    · rw [whenStored_execute]
      split_ifs <;> rfl
    · rw [whenStored_execute]
      by_cases hs : r.group.stored = true
      · rw [if_pos hs]
        exact h.row_written hr hs rfl id
      · rw [if_neg hs]
        exact h.row_kept hr (fun hs' => absurd hs' hs) id
  · exact h

theorem writeRow (h : Persisted w) (hr : w.groups.find? low = some r) {statement : GroupStatement}
    {f : StoredGroupRow → StoredGroupRow}
    (hstatement : ∀ t : GroupTables, t.execute statement =
      { t with groups := t.groups.update r.group.dbStoreId f })
    (hlow : r'.group.lowGuid = r.group.lowGuid) (hsame : r.group.SameObject r'.group)
    (hslots : r'.group.memberSlots = r.group.memberSlots) (hflags : r'.flags = r.flags)
    (hroles : r'.roles = r.roles) (hrow : r.group.stored = true → f r.row = r'.row) :
    Persisted (w.perform low r' (r.whenStored statement)) := by
  refine h.retitle hr hlow hsame hslots (fun hs => hflags ▸ (h.plain low r hr hs).2.2)
    (fun _ x _ => hroles ▸ rfl) (fun x => ?_) (fun id => ?_)
  · rw [whenStored_execute, hstatement]
    split_ifs <;> rfl
  · rw [whenStored_execute, hstatement]
    by_cases hs : r.group.stored = true
    · rw [if_pos hs]
      exact h.row_written hr hs (hrow hs) id
    · rw [if_neg hs]
      exact h.row_kept hr (fun hs' => absurd hs' hs) id

theorem convertToLFG (h : Persisted w) (hr : w.groups.find? low = some r)
    (hmethod : r.group.stored = true → r.lootMethod = .needBeforeGreed) :
    Persisted (w.convertToLFG low r) := by
  refine h.writeRow hr (fun _ => rfl) rfl ⟨rfl, rfl, rfl⟩ rfl rfl rfl (fun hs => ?_)
  simp only [GroupRecord.row, hmethod hs]
  rfl

theorem setDungeonDifficulty (h : Persisted w) (hr : w.groups.find? low = some r)
    {difficulty : Nat} : Persisted (w.setDungeonDifficulty low difficulty r) :=
  h.writeRow hr (fun _ => rfl) rfl ⟨rfl, rfl, rfl⟩ rfl rfl rfl fun _ => rfl

theorem setRaidDifficulty (h : Persisted w) (hr : w.groups.find? low = some r)
    {difficulty : Nat} : Persisted (w.setRaidDifficulty low difficulty r) :=
  h.writeRow hr (fun _ => rfl) rfl ⟨rfl, rfl, rfl⟩ rfl rfl rfl fun _ => rfl

theorem writeNothing (h : Persisted w) (hr : w.groups.find? low = some r)
    (hlow : r'.group.lowGuid = r.group.lowGuid) (hsame : r.group.SameObject r'.group)
    (hslots : r'.group.memberSlots = r.group.memberSlots)
    (hflags : r.group.stored = true → r'.flags = r.flags)
    (hroles : r.group.stored = true → r'.roles = r.roles)
    (hrow : r.group.stored = true → r'.row = r.row) : Persisted (w.perform low r' []) :=
  h.retitle hr hlow hsame hslots (fun hs => hflags hs ▸ (h.plain low r hr hs).2.2)
    (fun hs x _ => congrFun (hroles hs) x) (fun _ => rfl) (h.row_kept hr hrow)

theorem convert (h : Persisted w) (hr : w.groups.find? low = some r) {g : Group} {id : Nat}
    (hlow : g.lowGuid = r.group.lowGuid) (hsame : r.group.SameObject g)
    (hslots : g.memberSlots = r.group.memberSlots)
    (hrow : { r.row with groupType := g.groupType } = { r with group := g }.row)
    (hown : r.group.stored = true → r.group.dbStoreId = id ∨ r.group.groupType = g.groupType)
    (hother : ∀ low' r', w.groups.find? low' = some r' → low' ≠ low →
      r'.group.storeId = some id → r'.group.groupType = g.groupType) :
    Persisted (w.perform low { r with group := g } [.updateType g.groupType id]) := by
  refine h.retitle hr hlow hsame hslots (fun hs => (h.plain low r hr hs).2.2) (fun _ _ _ => rfl)
    (fun _ => rfl) (fun i => ?_)
  simp only [List.foldl_cons, List.foldl_nil, GroupTables.execute, OrdMap.find?_update]
  split_ifs with hi howner howner
  · subst hi
    rw [h.groupRow_at hr howner, Option.map_some, hrow]
  · subst hi
    cases hfind : w.tables.groups.find? i with
    | none => rfl
    | some row =>
      obtain ⟨low', x, hx, hxi, rfl⟩ := (h.groupRows i row).mp hfind
      have hne : low' ≠ low := by
        rintro rfl
        cases hr.symm.trans hx
        exact howner hxi
      rw [Option.map_some, ← hother low' x hx hne hxi]
      rfl
  · obtain ⟨hs, hid⟩ := Group.stored_of_storeId howner
    have htype := (hown hs).resolve_left fun heq => hi (hid.symm.trans heq)
    rw [h.groupRow_at hr howner, ← hrow, ← htype]
    rfl
  · rfl

theorem convertToRaid (h : Persisted w) (hr : w.groups.find? low = some r) :
    Persisted (w.convertToRaid low r) := by
  unfold GroupStore.convertToRaid
  by_cases hbg : r.group.isBGGroup = true
  · rw [if_neg (by simp [hbg])]
    have hs : r.group.stored ≠ true := by simp [Group.stored, hbg]
    exact h.writeNothing hr rfl ⟨rfl, rfl, rfl⟩ rfl (fun _ => rfl) (fun _ => rfl)
      fun hs' => absurd hs' hs
  · rw [if_pos (by simp [hbg])]
    refine h.convert hr rfl ⟨rfl, rfl, rfl⟩ rfl rfl (fun _ => .inl rfl) (fun i x hx hi hxid => ?_)
    by_cases hs : r.group.stored = true
    · exact absurd (h.ids i x low r _ hx hr hxid (storeId_of_stored hs)) hi
    · rw [h.unstored low r hr (Bool.eq_false_iff.mpr hs)] at hxid
      exact absurd hxid (h.nextFree i x hx).2

theorem convertToGroup (h : Persisted w) (hr : w.groups.find? low = some r)
    (hkey : r.group.isBGGroup = false → r.group.memberSlots.length ≤ 5 →
      (r.group.stored = true → r.group.dbStoreId = r.group.lowGuid ∨
        r.group.groupType = GROUPTYPE_NORMAL) ∧
      ∀ low' r', w.groups.find? low' = some r' → low' ≠ low →
        r'.group.storeId = some r.group.lowGuid → r'.group.groupType = GROUPTYPE_NORMAL) :
    Persisted (w.convertToGroup low r) := by
  unfold GroupStore.convertToGroup
  split_ifs with hsize hbg
  · exact h
  · have hg : r.group.convertToGroup =
        { r.group with groupType := GROUPTYPE_NORMAL, subGroupsCounts := none } := if_neg hsize
    obtain ⟨hown, hother⟩ := hkey (by simpa using hbg) (Nat.le_of_not_lt hsize)
    rw [hg]
    exact h.convert hr rfl ⟨rfl, rfl, rfl⟩ rfl rfl hown hother
  · have hg : r.group.convertToGroup =
        { r.group with groupType := GROUPTYPE_NORMAL, subGroupsCounts := none } := if_neg hsize
    have hs : r.group.stored ≠ true := by
      have hbg : r.group.isBGGroup = true := by simpa using hbg
      simp [Group.stored, hbg]
    rw [hg]
    exact h.writeNothing hr rfl ⟨rfl, rfl, rfl⟩ rfl (fun _ => rfl) (fun _ => rfl)
      fun hs' => absurd hs' hs

theorem changeSubGroup (h : Persisted w) (hr : w.groups.find? low = some r) {allowed : Bool}
    {groupNr : Nat} : Persisted (w.changeSubGroup low allowed guid groupNr r) := by
  unfold GroupStore.changeSubGroup
  rcases r.group.handleGroupChangeSubGroup_cases allowed guid groupNr with
    he | ⟨m, hm, hne, counts, he⟩
  · rw [he]
    dsimp only
    rw [if_pos rfl]
    exact h.writeNothing hr rfl ⟨rfl, rfl, rfl⟩ rfl (fun _ => rfl) (fun _ => rfl) fun _ => rfl
  · rw [he]
    have hmoved := Group.Accounted.find?_setSlotGroup groupNr hm
    have hmember : ∀ x, Group.isMember { r.group with
        memberSlots := Group.setSlotGroup guid groupNr r.group.memberSlots
        subGroupsCounts := counts } x = r.group.isMember x :=
      fun x => Group.Accounted.any_setSlotGroup
    dsimp only
    rw [if_neg]
    case hnc =>
      rw [Group.getMemberGroup, Group.getMemberGroup, hm, Group.getMemberSlot, hmoved]
      exact hne.symm
    refine h.replace hr rfl ⟨rfl, rfl, rfl⟩ (fun hs => ?_) (fun x _ hx => .inl ?_)
      (fun id => ?_) (fun x => ?_)
    · obtain ⟨hnodup, hzero, hflags⟩ := h.plain low r hr hs
      exact ⟨(Group.map_guid_setSlotGroup _).symm ▸ hnodup, (hmember 0).trans hzero, hflags⟩
    · exact (hmember x).symm.trans hx
    · rw [whenStored_execute]
      by_cases hs : r.group.stored = true
      · rw [if_pos hs]
        exact h.row_kept hr (fun _ => rfl) id
      · rw [if_neg hs]
        exact h.row_kept hr (fun _ => rfl) id
    · rw [whenStored_execute]
      by_cases hs : r.group.stored = true
      · rw [if_pos hs]
        simp only [GroupTables.execute, OrdMap.find?_update, hs, true_and, hmember, or_self]
        have hguid : r.group.isMember guid = true := by
          rw [← Bool.not_eq_false]
          exact fun hn => by simp [Group.getMemberSlot_eq_none.mpr hn] at hm
        by_cases hx : x = guid
        · rw [if_pos hx, hx, if_pos hguid, h.memberRow_at hr hs hguid, GroupRecord.memberRow, hm,
            GroupRecord.memberRow, Group.getMemberSlot, hmoved]
          rfl
        · rw [if_neg hx]
          split_ifs with hmem
          · rw [h.memberRow_at hr hs hmem, GroupRecord.memberRow, GroupRecord.memberRow,
              Group.getMemberSlot, Group.getMemberSlot, Group.find?_setSlotGroup_ne _ hx]
          · rfl
      · simp [hs]

theorem setGroupMemberFlag (h : Persisted w) (hr : w.groups.find? low = some r) {apply : Bool}
    {flag : Nat} (hclear : r.group.stored = true → r.group.isRaidGroup = true →
      r.group.isMember guid = true → flag = MEMBER_FLAG_ASSISTANT ∨ flag = MEMBER_FLAG_MAINASSIST ∨
        flag = MEMBER_FLAG_MAINTANK → apply = false) :
    Persisted (w.setGroupMemberFlag low guid apply flag r) := by
  unfold GroupStore.setGroupMemberFlag
  split_ifs with hraid hmem hflag
  · exact h
  · exact h
  · exact h
  · have hnoZero : w.tables.members.find? 0 = none := by
      refine Option.eq_none_iff_forall_not_mem.mpr fun row hrow => ?_
      obtain ⟨i, x, hx, hxs, hrow⟩ := (h.memberRows 0 row).mp hrow
      have hzero := (h.plain i x hx hxs).2.1
      rw [← memberRow_isSome, hrow] at hzero
      cases hzero
    refine h.retitle hr rfl ⟨rfl, rfl, rfl⟩ rfl (fun hs x => ?_) (fun _ _ _ => rfl) (fun x => ?_)
      (h.row_kept hr fun _ => rfl)
    · have happly := hclear hs (by simpa using hraid) (by simpa using hmem) (by tauto)
      exact happly ▸ flagsWith_zero (h.plain low r hr hs).2.2 x
    · simp only [List.foldl_cons, List.foldl_nil, GroupTables.execute, OrdMap.find?_update, hnoZero,
        Option.map_none]
      split_ifs with hx
      · rw [hx, hnoZero]
      · rfl

theorem setRoles (h : Persisted w) (hr : w.groups.find? low = some r) {roles : Nat}
    (hsame : r.group.stored = true → r.group.isMember guid = true → roles = r.roles guid) :
    Persisted (w.setRoles low guid roles r) := by
  unfold GroupStore.setRoles
  split_ifs with hmem
  · refine h.writeNothing hr rfl ⟨rfl, rfl, rfl⟩ rfl (fun _ => rfl) (fun hs => ?_) fun _ => rfl
    rw [hsame hs hmem]
    exact Function.update_eq_self _ _
  · exact h

theorem create (h : Persisted w) {leader dungeonDifficulty raidDifficulty : Nat} {bg bf : Bool}
    (hfree : (bg || bf) = false → w.Free leader ∧ leader ≠ 0) :
    Persisted (w.create leader bg bf dungeonDifficulty raidDifficulty) := by
  have hfree' : ∀ {g : Group}, g.isBGGroup = bg → g.isBFGroup = bf →
      g.stored = !(bg || bf) := by
    intro g hbg hbf
    rw [Group.stored, hbg, hbf, Bool.not_or]
  unfold GroupStore.create
  by_cases hb : (bg || bf) = true
  · rw [if_pos hb]
    split
    · exact h
    · rename_i g hc
      obtain ⟨hbg, hbf, -, hdb, hslots⟩ := GroupWorld.Consistent.create_slots hc
      have hs : g.stored = false := by rw [hfree' hbg hbf, hb, Bool.not_true]
      have hnone : g.storeId = none := by
        rw [Group.storeId, hs]
        rfl
      refine h.insert (Group.create_lowGuid hc) hslots (fun _ => rfl)
        (fun hs' => absurd (hs.symm.trans hs') Bool.noConfusion)
        (fun _ => hdb.trans (if_pos hb)) ⟨h.next, ?_, fun i x hx => (h.nextFree i x hx).1⟩
        (fun id => ?_) (fun x => ?_)
      · simp [hnone]
      · simp [hnone]
      · simp [hs]
  · rw [if_neg hb]
    have hb : (bg || bf) = false := Bool.eq_false_iff.mpr hb
    obtain ⟨hleader, hpos⟩ := hfree hb
    dsimp only
    split
    case h_2 => exact h
    rename_i next g hnext hc
    obtain ⟨hbg, hbf, -, hdb, hslots⟩ := GroupWorld.Consistent.create_slots hc
    have hs : g.stored = true := by rw [hfree' hbg hbf, hb, Bool.not_false]
    rw [if_neg (by simp [hb])] at hdb
    have hid : g.storeId = some w.nextGroupDbStoreId := by rw [storeId_of_stored hs, hdb]
    obtain ⟨hle, hunused⟩ := GroupWorld.Consistent.nextUnused_spec hnext
    have hnone : w.tables.groups.find? w.nextGroupDbStoreId = none := by
      refine Option.eq_none_iff_forall_not_mem.mpr fun row hrow => ?_
      obtain ⟨i, x, hx, hxi, -⟩ := (h.groupRows _ row).mp hrow
      exact (h.nextFree i x hx).1 hxi
    refine h.insert (Group.create_lowGuid hc) hslots (fun _ => rfl) (fun _ => ⟨hdb, hleader, hpos⟩)
      (fun hs' => absurd (hs.symm.trans hs') Bool.noConfusion)
      ⟨by omega, ?_, fun i x hx hxi => hunused ?_⟩ (fun id => ?_) (fun x => ?_)
    · rw [hid]
      simp only [ne_eq, Option.some.injEq]
      omega
    · exact List.mem_filterMap.mpr ⟨(i, x), OrdMap.find?_eq_some.mp hx, hxi⟩
    · simp only [GroupStore.perform, List.foldl_cons, List.foldl_nil, GroupTables.execute,
        OrdMap.find?_insertNew, hnone, Option.getD_none, hid, Option.some.injEq, eq_comm]
    · simp only [GroupStore.perform, List.foldl_cons, List.foldl_nil, GroupTables.execute,
        OrdMap.find?_insertNew, h.memberRow_free hleader, Option.getD_none, hs, true_and]
      split_ifs with hx
      · simp [hx, GroupRecord.memberRow, Group.getMemberGroup, Group.getMemberSlot, hslots, hdb]
      · rfl

end Persisted

end GroupStore

end SkyfireBG
