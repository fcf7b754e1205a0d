import SkyfireBG.Group.Statements

/-!
# SkyfireBG.Group.Persisted

The tables hold what the groups in memory are.

* `GroupStore.Persisted` — the invariant.
* `Persisted.replace`, `Persisted.retitle` — one group changes with its rows.
* `Persisted.remove`, `Persisted.insert`   — a group goes, a group comes.
-/

namespace SkyfireBG

namespace GroupStore

variable {w : GroupStore} {r r' : GroupRecord} {low low' id guid : Nat} {t : GroupTables}

def Free (w : GroupStore) (guid : Nat) : Prop :=
  ∀ e ∈ w.groups.entries, e.2.group.stored = true → e.2.group.isMember guid = false

structure Persisted (w : GroupStore) : Prop where
  lows : ∀ low r, w.groups.find? low = some r → r.group.lowGuid = low ∧ low < w.nextGroupId
  ids : ∀ low r low' r' id, w.groups.find? low = some r → w.groups.find? low' = some r' →
    r.group.storeId = some id → r'.group.storeId = some id → low = low'
  next : 0 < w.nextGroupDbStoreId
  nextFree : ∀ low r, w.groups.find? low = some r →
    r.group.storeId ≠ some w.nextGroupDbStoreId ∧ r.group.storeId ≠ some 0
  unstored : ∀ low r, w.groups.find? low = some r → r.group.stored = false →
    r.group.dbStoreId = 0
  apart : ∀ low r low' r' guid, w.groups.find? low = some r → w.groups.find? low' = some r' →
    r.group.stored = true → r'.group.stored = true → r.group.isMember guid = true →
      r'.group.isMember guid = true → low = low'
  /-- In a stored group nobody is twice, and flags and roles are as they were on joining. -/
  plain : ∀ low r, w.groups.find? low = some r → r.group.stored = true →
    (r.group.memberSlots.map MemberSlot.guid).Nodup ∧ r.group.isMember 0 = false ∧
      ∀ guid, r.flags guid = 0
  groupRows : ∀ id row, w.tables.groups.find? id = some row ↔
    ∃ low r, w.groups.find? low = some r ∧ r.group.storeId = some id ∧ row = r.row
  memberRows : ∀ guid row, w.tables.members.find? guid = some row ↔
    ∃ low r, w.groups.find? low = some r ∧ r.group.stored = true ∧ r.memberRow guid = some row

theorem persisted_empty : Persisted {} where
  lows := fun _ _ h => nomatch h
  ids := fun _ _ _ _ _ h => nomatch h
  next := Nat.one_pos
  nextFree := fun _ _ h => nomatch h
  unstored := fun _ _ h => nomatch h
  apart := fun _ _ _ _ _ h => nomatch h
  plain := fun _ _ h => nomatch h
  groupRows := fun _ _ => ⟨fun h => (nomatch h), fun ⟨_, _, h, _⟩ => (nomatch h)⟩
  memberRows := fun _ _ => ⟨fun h => (nomatch h), fun ⟨_, _, h, _⟩ => (nomatch h)⟩

theorem Free.find? (h : w.Free guid) (hr : w.groups.find? low = some r)
    (hstored : r.group.stored = true) : r.group.isMember guid = false :=
  h (low, r) (OrdMap.find?_eq_some.mp hr) hstored

theorem memberRow_isSome : (r.memberRow guid).isSome = r.group.isMember guid := by
  rw [GroupRecord.memberRow, Option.isSome_map, Group.getMemberSlot, Group.isMember,
    Bool.eq_iff_iff, List.find?_isSome, List.any_eq_true]

theorem storeId_of_stored {g : Group} (h : g.stored = true) : g.storeId = some g.dbStoreId :=
  if_pos h

namespace Persisted

theorem groupRow_at (h : Persisted w) (hr : w.groups.find? low = some r)
    (hid : r.group.storeId = some id) : w.tables.groups.find? id = some r.row :=
  (h.groupRows id r.row).mpr ⟨low, r, hr, hid, rfl⟩

theorem memberRow_at (h : Persisted w) (hr : w.groups.find? low = some r)
    (hstored : r.group.stored = true) (hmem : r.group.isMember guid = true) :
    w.tables.members.find? guid = r.memberRow guid := by
  obtain ⟨row, hrow⟩ := Option.isSome_iff_exists.mp (memberRow_isSome.trans hmem)
  rw [hrow]
  exact (h.memberRows guid row).mpr ⟨low, r, hr, hstored, hrow⟩

theorem memberRow_free (h : Persisted w) (hfree : w.Free guid) :
    w.tables.members.find? guid = none := by
  refine Option.eq_none_iff_forall_not_mem.mpr fun row hrow => ?_
  obtain ⟨low, r, hr, hstored, hrow⟩ := (h.memberRows guid row).mp hrow
  have hmem := hfree.find? hr hstored
  rw [← memberRow_isSome, hrow] at hmem
  cases hmem

theorem replace (h : Persisted w) (hr : w.groups.find? low = some r)
    (hlow : r'.group.lowGuid = r.group.lowGuid) (hsame : r.group.SameObject r'.group)
    (hplain : r'.group.stored = true → (r'.group.memberSlots.map MemberSlot.guid).Nodup ∧
      r'.group.isMember 0 = false ∧ ∀ guid, r'.flags guid = 0)
    (hapart : ∀ guid, r'.group.stored = true → r'.group.isMember guid = true →
      r.group.isMember guid = true ∨ w.Free guid)
    (hgroups : ∀ id, t.groups.find? id =
      if r.group.storeId = some id then some r'.row else w.tables.groups.find? id)
    (hmembers : ∀ guid, t.members.find? guid =
      if r.group.stored = true ∧ (r.group.isMember guid = true ∨ r'.group.isMember guid = true) then
        r'.memberRow guid
      else w.tables.members.find? guid) :
    Persisted { w with groups := w.groups.set low r', tables := t } := by
  have hfind : ∀ {i x}, (w.groups.set low r').find? i = some x ↔
      i = low ∧ x = r' ∨ i ≠ low ∧ w.groups.find? i = some x := OrdMap.find?_set_eq_some
  have hid : r'.group.storeId = r.group.storeId := hsame.storeId
  have hst : r'.group.stored = r.group.stored := hsame.stored
  -- another stored group has no member of this one, before and after
  have hother : ∀ {i x guid}, i ≠ low → w.groups.find? i = some x → x.group.stored = true →
      r'.group.stored = true → r'.group.isMember guid = true → x.group.isMember guid = true →
        False := by
    intro i x guid hne hx hxs hs hmem hxm
    rcases hapart guid hs hmem with hold | hfree
    · exact hne (h.apart i x low r guid hx hr hxs (hst ▸ hs) hxm hold)
    · rw [hfree.find? hx hxs] at hxm
      cases hxm
  constructor
  · intro i x hx
    rcases hfind.mp hx with ⟨rfl, rfl⟩ | ⟨-, hx⟩
    · rw [hlow]
      exact h.lows i r hr
    · exact h.lows i x hx
  · intro i x j y id hx hy hxi hyi
    rcases hfind.mp hx with ⟨hi, rfl⟩ | ⟨-, hxf⟩ <;> rcases hfind.mp hy with ⟨hj, rfl⟩ | ⟨-, hyf⟩
    · exact hi.trans hj.symm
    · exact hi.trans (h.ids low r j y id hr hyf (hid ▸ hxi) hyi)
    · exact (h.ids i x low r id hxf hr hxi (hid ▸ hyi)).trans hj.symm
    · exact h.ids i x j y id hxf hyf hxi hyi
  · exact h.next
  · intro i x hx
    rcases hfind.mp hx with ⟨rfl, rfl⟩ | ⟨-, hx⟩
    · rw [hid]
      exact h.nextFree i r hr
    · exact h.nextFree i x hx
  · intro i x hx hs
    rcases hfind.mp hx with ⟨rfl, rfl⟩ | ⟨-, hx⟩
    · rw [hsame.id]
      exact h.unstored i r hr (hst ▸ hs)
    · exact h.unstored i x hx hs
  · intro i x j y guid hx hy hxs hys hxm hym
    rcases hfind.mp hx with ⟨hi, rfl⟩ | ⟨hi, hxf⟩ <;> rcases hfind.mp hy with ⟨hj, rfl⟩ | ⟨hj, hyf⟩
    · exact hi.trans hj.symm
    · exact (hother hj hyf hys hxs hxm hym).elim
    · exact (hother hi hxf hxs hys hym hxm).elim
    · exact h.apart i x j y guid hxf hyf hxs hys hxm hym
  · intro i x hx hs
    rcases hfind.mp hx with ⟨rfl, rfl⟩ | ⟨-, hx⟩
    · exact hplain hs
    · exact h.plain i x hx hs
  · intro id row
    rw [hgroups]
    split_ifs with hown
    · constructor
      · intro hrow
        exact ⟨low, r', hfind.mpr (.inl ⟨rfl, rfl⟩), hid.trans hown, (Option.some.inj hrow).symm⟩
      · rintro ⟨i, x, hx, hxi, rfl⟩
        rcases hfind.mp hx with ⟨rfl, rfl⟩ | ⟨hne, hx⟩
        · rfl
        · exact absurd (h.ids i x low r id hx hr hxi hown) hne
    · rw [h.groupRows]
      constructor
      · rintro ⟨i, x, hx, hxi, rfl⟩
        refine ⟨i, x, hfind.mpr (.inr ⟨?_, hx⟩), hxi, rfl⟩
        rintro rfl
        cases hr.symm.trans hx
        exact hown hxi
      · rintro ⟨i, x, hx, hxi, rfl⟩
        rcases hfind.mp hx with ⟨rfl, rfl⟩ | ⟨-, hx⟩
        · exact absurd (hid ▸ hxi) hown
        · exact ⟨i, x, hx, hxi, rfl⟩
  · intro guid row
    rw [hmembers]
    split_ifs with hown
    · obtain ⟨hs, hmem⟩ := hown
      constructor
      · exact fun hrow => ⟨low, r', hfind.mpr (.inl ⟨rfl, rfl⟩), hst.trans hs, hrow⟩
      · rintro ⟨i, x, hx, hxs, hrow⟩
        rcases hfind.mp hx with ⟨rfl, rfl⟩ | ⟨hne, hx⟩
        · exact hrow
        · have hxm : x.group.isMember guid = true := by
            rw [← memberRow_isSome, hrow]
            rfl
          rcases hmem with hmem | hmem
          · exact absurd (h.apart i x low r guid hx hr hxs hs hxm hmem) hne
          · exact (hother hne hx hxs (hst.trans hs) hmem hxm).elim
    · rw [h.memberRows]
      constructor
      · rintro ⟨i, x, hx, hxs, hrow⟩
        refine ⟨i, x, hfind.mpr (.inr ⟨?_, hx⟩), hxs, hrow⟩
        rintro rfl
        cases hr.symm.trans hx
        refine hown ⟨hxs, .inl ?_⟩
        rw [← memberRow_isSome, hrow]
        rfl
      · rintro ⟨i, x, hx, hxs, hrow⟩
        rcases hfind.mp hx with ⟨rfl, rfl⟩ | ⟨-, hx⟩
        · refine absurd ⟨hst.symm.trans hxs, .inr ?_⟩ hown
          rw [← memberRow_isSome, hrow]
          rfl
        · exact ⟨i, x, hx, hxs, hrow⟩

theorem row_written (h : Persisted w) (hr : w.groups.find? low = some r)
    (hstored : r.group.stored = true) {f : StoredGroupRow → StoredGroupRow}
    (hrow : f r.row = r'.row) (id : Nat) : (w.tables.groups.update r.group.dbStoreId f).find? id =
      if r.group.storeId = some id then some r'.row else w.tables.groups.find? id := by
  have hid := storeId_of_stored hstored
  rw [OrdMap.find?_update, h.groupRow_at hr hid, hid, Option.map_some, hrow]
  simp only [Option.some.injEq, eq_comm]

theorem row_kept (h : Persisted w) (hr : w.groups.find? low = some r)
    (hrow : r.group.stored = true → r'.row = r.row) (id : Nat) : w.tables.groups.find? id =
      if r.group.storeId = some id then some r'.row else w.tables.groups.find? id := by
  split_ifs with hid
  · rw [hrow (Group.stored_of_storeId hid).1]
    exact h.groupRow_at hr hid
  · rfl

theorem retitle (h : Persisted w) (hr : w.groups.find? low = some r)
    (hlow : r'.group.lowGuid = r.group.lowGuid) (hsame : r.group.SameObject r'.group)
    (hslots : r'.group.memberSlots = r.group.memberSlots)
    (hflags : r.group.stored = true → ∀ guid, r'.flags guid = 0)
    (hroles : r.group.stored = true → ∀ guid, r.group.isMember guid = true →
      r'.roles guid = r.roles guid)
    (hmembers : ∀ guid, t.members.find? guid = w.tables.members.find? guid)
    (hgroups : ∀ id, t.groups.find? id =
      if r.group.storeId = some id then some r'.row else w.tables.groups.find? id) :
    Persisted { w with groups := w.groups.set low r', tables := t } := by
  have hmember : ∀ guid, r'.group.isMember guid = r.group.isMember guid := by
    intro guid
    rw [Group.isMember, hslots]
    rfl
  refine h.replace hr hlow hsame (fun hs => ?_) (fun guid _ hmem => ?_) hgroups (fun guid => ?_)
  · have hs : r.group.stored = true := hsame.stored ▸ hs
    obtain ⟨hnodup, hzero, -⟩ := h.plain low r hr hs
    exact ⟨hslots ▸ hnodup, (hmember 0).trans hzero, hflags hs⟩
  · exact .inl ((hmember guid).symm.trans hmem)
  · rw [hmembers]
    split_ifs with hown
    · obtain ⟨hs, hmem⟩ := hown
      have hmem : r.group.isMember guid = true := by
        rcases hmem with hmem | hmem
        · exact hmem
        · exact (hmember guid).symm.trans hmem
      rw [h.memberRow_at hr hs hmem, GroupRecord.memberRow, GroupRecord.memberRow, hsame.id,
        hflags hs guid, (h.plain low r hr hs).2.2 guid, hroles hs guid hmem, Group.getMemberSlot,
        Group.getMemberSlot, hslots]
    · rfl

/-- The group under `low` goes, and with it its rows; its store id may be the next one. -/
theorem remove (h : Persisted w) (hr : w.groups.find? low = some r) {next : Nat}
    (hnext : next = w.nextGroupDbStoreId ∨ r.group.storeId = some next)
    (hgroups : ∀ id, t.groups.find? id =
      if r.group.storeId = some id then none else w.tables.groups.find? id)
    (hmembers : ∀ guid, t.members.find? guid =
      if r.group.stored = true ∧ r.group.isMember guid = true then none
      else w.tables.members.find? guid) :
    Persisted { w with
      groups := w.groups.erase low, nextGroupDbStoreId := next, tables := t } := by
  have hfind : ∀ {i x}, (w.groups.erase low).find? i = some x ↔
      i ≠ low ∧ w.groups.find? i = some x := by
    intro i x
    rw [OrdMap.find?_erase]
    split_ifs with hi <;> simp [hi]
  constructor
  · exact fun i x hx => h.lows i x (hfind.mp hx).2
  · exact fun i x j y id hx hy => h.ids i x j y id (hfind.mp hx).2 (hfind.mp hy).2
  · rcases hnext with rfl | hid
    · exact h.next
    · exact Nat.pos_of_ne_zero fun hzero => (h.nextFree low r hr).2 (hzero ▸ hid)
  · intro i x hx
    obtain ⟨hi, hxf⟩ := hfind.mp hx
    refine ⟨fun hxi => ?_, (h.nextFree i x hxf).2⟩
    rcases hnext with rfl | hid
    · exact (h.nextFree i x hxf).1 hxi
    · exact hi (h.ids i x low r next hxf hr hxi hid)
  · exact fun i x hx => h.unstored i x (hfind.mp hx).2
  · exact fun i x j y guid hx hy => h.apart i x j y guid (hfind.mp hx).2 (hfind.mp hy).2
  · exact fun i x hx => h.plain i x (hfind.mp hx).2
  · intro id row
    rw [hgroups]
    split_ifs with hown
    · refine ⟨fun hrow => (nomatch hrow), fun ⟨i, x, hx, hxi, hrow⟩ => ?_⟩
      obtain ⟨hi, hx⟩ := hfind.mp hx
      exact absurd (h.ids i x low r id hx hr hxi hown) hi
    · rw [h.groupRows]
      constructor
      · rintro ⟨i, x, hx, hxi, rfl⟩
        refine ⟨i, x, hfind.mpr ⟨?_, hx⟩, hxi, rfl⟩
        rintro rfl
        cases hr.symm.trans hx
        exact hown hxi
      · rintro ⟨i, x, hx, hxi, rfl⟩
        exact ⟨i, x, (hfind.mp hx).2, hxi, rfl⟩
  · intro guid row
    rw [hmembers]
    split_ifs with hown
    · refine ⟨fun hrow => (nomatch hrow), fun ⟨i, x, hx, hxs, hrow⟩ => ?_⟩
      obtain ⟨hi, hx⟩ := hfind.mp hx
      have hxm : x.group.isMember guid = true := by
        rw [← memberRow_isSome, hrow]
        rfl
      exact absurd (h.apart i x low r guid hx hr hxs hown.1 hxm hown.2) hi
    · rw [h.memberRows]
      constructor
      · rintro ⟨i, x, hx, hxs, hrow⟩
        refine ⟨i, x, hfind.mpr ⟨?_, hx⟩, hxs, hrow⟩
        rintro rfl
        cases hr.symm.trans hx
        refine hown ⟨hxs, ?_⟩
        rw [← memberRow_isSome, hrow]
        rfl
      · rintro ⟨i, x, hx, hxs, hrow⟩
        exact ⟨i, x, (hfind.mp hx).2, hxs, hrow⟩

theorem insert (h : Persisted w) {next leader : Nat} (hlow : r.group.lowGuid = w.nextGroupId)
    (hslots : r.group.memberSlots = [⟨leader, 0⟩]) (hflags : ∀ guid, r.flags guid = 0)
    (hstored : r.group.stored = true → r.group.dbStoreId = w.nextGroupDbStoreId ∧
      w.Free leader ∧ leader ≠ 0)
    (hunstored : r.group.stored = false → r.group.dbStoreId = 0)
    (hnext : 0 < next ∧ r.group.storeId ≠ some next ∧
      ∀ low x, w.groups.find? low = some x → x.group.storeId ≠ some next)
    (hgroups : ∀ id, t.groups.find? id =
      if r.group.storeId = some id then some r.row else w.tables.groups.find? id)
    (hmembers : ∀ guid, t.members.find? guid =
      if r.group.stored = true ∧ guid = leader then r.memberRow guid
      else w.tables.members.find? guid) :
    Persisted
      { groups := w.groups.set w.nextGroupId r, nextGroupId := w.nextGroupId + 1
        nextGroupDbStoreId := next, tables := t } := by
  have hnew : w.groups.find? w.nextGroupId = none := by
    refine Option.eq_none_iff_forall_not_mem.mpr fun x hx => ?_
    exact absurd (h.lows _ x hx).2 (Nat.lt_irrefl _)
  have hfind : ∀ {i x}, (w.groups.set w.nextGroupId r).find? i = some x ↔
      i = w.nextGroupId ∧ x = r ∨ i ≠ w.nextGroupId ∧ w.groups.find? i = some x :=
    OrdMap.find?_set_eq_some
  have hold : ∀ {i x}, w.groups.find? i = some x → i ≠ w.nextGroupId := by
    intro i x hx hi
    rw [hi, hnew] at hx
    cases hx
  have hmember : ∀ guid, r.group.isMember guid = true ↔ guid = leader := by
    intro guid
    simp only [Group.isMember, hslots, List.any_cons, List.any_nil, Bool.or_false, beq_iff_eq]
    exact eq_comm
  have hidNew : ∀ {i x id}, w.groups.find? i = some x → x.group.storeId = some id →
      r.group.storeId = some id → False := by
    intro i x id hx hxi hri
    obtain ⟨hs, hdb⟩ := Group.stored_of_storeId hri
    rw [← hdb, (hstored hs).1] at hxi
    exact (h.nextFree i x hx).1 hxi
  have hmemNew : ∀ {i x guid}, w.groups.find? i = some x → x.group.stored = true →
      r.group.stored = true → x.group.isMember guid = true → r.group.isMember guid = true →
        False := by
    intro i x guid hx hxs hs hxm hm
    rw [(hmember guid).mp hm, (hstored hs).2.1.find? hx hxs] at hxm
    cases hxm
  constructor
  · intro i x hx
    rcases hfind.mp hx with ⟨hi, rfl⟩ | ⟨-, hx⟩
    · exact ⟨hlow.trans hi.symm, hi ▸ Nat.lt_succ_self _⟩
    · exact ⟨(h.lows i x hx).1, Nat.lt_succ_of_lt (h.lows i x hx).2⟩
  · intro i x j y id hx hy hxi hyi
    rcases hfind.mp hx with ⟨hi, rfl⟩ | ⟨-, hxf⟩ <;> rcases hfind.mp hy with ⟨hj, rfl⟩ | ⟨-, hyf⟩
    · exact hi.trans hj.symm
    · exact (hidNew hyf hyi hxi).elim
    · exact (hidNew hxf hxi hyi).elim
    · exact h.ids i x j y id hxf hyf hxi hyi
  · exact hnext.1
  · intro i x hx
    rcases hfind.mp hx with ⟨-, rfl⟩ | ⟨-, hx⟩
    · refine ⟨hnext.2.1, fun hzero => ?_⟩
      obtain ⟨hs, hdb⟩ := Group.stored_of_storeId hzero
      exact absurd ((hstored hs).1.symm.trans hdb) h.next.ne'
    · exact ⟨hnext.2.2 i x hx, (h.nextFree i x hx).2⟩
  · intro i x hx hs
    rcases hfind.mp hx with ⟨-, rfl⟩ | ⟨-, hx⟩
    · exact hunstored hs
    · exact h.unstored i x hx hs
  · intro i x j y guid hx hy hxs hys hxm hym
    rcases hfind.mp hx with ⟨hi, rfl⟩ | ⟨-, hxf⟩ <;> rcases hfind.mp hy with ⟨hj, rfl⟩ | ⟨-, hyf⟩
    · exact hi.trans hj.symm
    · exact (hmemNew hyf hys hxs hym hxm).elim
    · exact (hmemNew hxf hxs hys hxm hym).elim
    · exact h.apart i x j y guid hxf hyf hxs hys hxm hym
  · intro i x hx hs
    rcases hfind.mp hx with ⟨-, rfl⟩ | ⟨-, hx⟩
    · refine ⟨by simp [hslots], Bool.eq_false_iff.mpr fun hzero => ?_, hflags⟩
      exact (hstored hs).2.2 ((hmember 0).mp hzero).symm
    · exact h.plain i x hx hs
  · intro id row
    rw [hgroups]
    split_ifs with hown
    · constructor
      · intro hrow
        exact ⟨_, r, hfind.mpr (.inl ⟨rfl, rfl⟩), hown, (Option.some.inj hrow).symm⟩
      · rintro ⟨i, x, hx, hxi, rfl⟩
        rcases hfind.mp hx with ⟨-, rfl⟩ | ⟨-, hx⟩
        · rfl
        · exact (hidNew hx hxi hown).elim
    · rw [h.groupRows]
      constructor
      · rintro ⟨i, x, hx, hxi, rfl⟩
        exact ⟨i, x, hfind.mpr (.inr ⟨hold hx, hx⟩), hxi, rfl⟩
      · rintro ⟨i, x, hx, hxi, rfl⟩
        rcases hfind.mp hx with ⟨-, rfl⟩ | ⟨-, hx⟩
        · exact absurd hxi hown
        · exact ⟨i, x, hx, hxi, rfl⟩
  · intro guid row
    rw [hmembers]
    split_ifs with hown
    · constructor
      · exact fun hrow => ⟨_, r, hfind.mpr (.inl ⟨rfl, rfl⟩), hown.1, hrow⟩
      · rintro ⟨i, x, hx, hxs, hrow⟩
        rcases hfind.mp hx with ⟨-, rfl⟩ | ⟨-, hx⟩
        · exact hrow
        · have hxm : x.group.isMember guid = true := by
            rw [← memberRow_isSome, hrow]
            rfl
          exact (hmemNew hx hxs hown.1 hxm ((hmember guid).mpr hown.2)).elim
    · rw [h.memberRows]
      constructor
      · rintro ⟨i, x, hx, hxs, hrow⟩
        exact ⟨i, x, hfind.mpr (.inr ⟨hold hx, hx⟩), hxs, hrow⟩
      · rintro ⟨i, x, hx, hxs, hrow⟩
        rcases hfind.mp hx with ⟨-, rfl⟩ | ⟨-, hx⟩
        · refine absurd ⟨hxs, (hmember guid).mp ?_⟩ hown
          rw [← memberRow_isSome, hrow]
          rfl
        · exact ⟨i, x, hx, hxs, hrow⟩

end Persisted

end GroupStore

end SkyfireBG
