import SkyfireBG.Group.Data
import SkyfireBG.Lib.Byte
import Mathlib.Algebra.BigOperators.Group.Finset.Piecewise
import Mathlib.Algebra.Order.BigOperators.Group.Finset

/-!
# SkyfireBG.Group.SubGroups

The subgroup counters of one group.

`Group.Accounted` is the invariant: the counters are allocated for raids only and count the member
slots, no subgroup has more than five members, and a group that is no raid has at most five.  Each
operation keeps it, `AddMember` under the test `IsFull` that its callers make for a party.
-/

namespace SkyfireBG

/-- How many slots are in subgroup `s`. -/
def slotsIn (ms : List MemberSlot) (s : Nat) : Nat := ms.countP (fun m => m.group == s)

/-- The array counts the slots `ms`. -/
structure Counted (counts : List UInt8) (ms : List MemberSlot) : Prop where
  length : counts.length = MAX_RAID_SUBGROUPS
  count : ∀ s n, counts[s]? = some n → n.toNat = slotsIn ms s

structure Group.Accounted (g : Group) : Prop where
  allocated : g.subGroupsCounts.isSome = g.isRaidGroup
  counted : ∀ c, g.subGroupsCounts = some c → Counted c g.memberSlots
  placed : ∀ m ∈ g.memberSlots, m.group < MAX_RAID_SUBGROUPS
  room : ∀ s, slotsIn g.memberSlots s ≤ MAXGROUPSIZE
  party : g.isRaidGroup = false → g.memberSlots.length ≤ MAXGROUPSIZE

section Slots

variable {ms : List MemberSlot} {m : MemberSlot} {s : Nat} {c : List UInt8}

@[simp] theorem slotsIn_nil : slotsIn [] s = 0 := rfl

theorem slotsIn_append {ms' : List MemberSlot} :
    slotsIn (ms ++ ms') s = slotsIn ms s + slotsIn ms' s := List.countP_append

theorem slotsIn_cons : slotsIn (m :: ms) s = slotsIn ms s + if m.group = s then 1 else 0 := by
  simp [slotsIn, List.countP_cons]

theorem slotsIn_le_length : slotsIn ms s ≤ ms.length := List.countP_le_length

theorem length_le_raid (hp : ∀ m ∈ ms, m.group < MAX_RAID_SUBGROUPS)
    (hr : ∀ s, slotsIn ms s ≤ MAXGROUPSIZE) : ms.length ≤ MAXRAIDSIZE := by
  have hsum : ms.length = ∑ s ∈ Finset.range MAX_RAID_SUBGROUPS, slotsIn ms s := by
    clear hr
    induction ms with
    | nil => simp
    | cons m ms ih =>
      have hm := hp m (.head _)
      simp only [slotsIn_cons, Finset.sum_add_distrib, List.length_cons,
        ← ih (fun x hx => hp x (.tail _ hx))]
      rw [Finset.sum_ite_eq, if_pos (Finset.mem_range.mpr hm)]
  rw [hsum]
  calc ∑ s ∈ Finset.range MAX_RAID_SUBGROUPS, slotsIn ms s
      ≤ ∑ _s ∈ Finset.range MAX_RAID_SUBGROUPS, MAXGROUPSIZE := Finset.sum_le_sum (fun s _ => hr s)
    _ = MAXRAIDSIZE := by decide

theorem Counted.inc (h : Counted c ms) (hroom : slotsIn ms m.group < 255) :
    Counted (c.modify m.group (· + 1)) (ms ++ [m]) where
  length := by rw [List.length_modify]; exact h.length
  count := by
    intro s n hn
    rw [slotsIn_append, slotsIn_cons, slotsIn_nil, Nat.zero_add]
    by_cases hs : m.group = s
    · subst hs
      rw [List.getElem?_modify_eq] at hn
      obtain ⟨n₀, hn₀, rfl⟩ := Option.map_eq_some_iff.mp hn
      have h0 := h.count _ _ hn₀
      rw [byte_inc (by omega), h0, if_pos rfl]
    · rw [List.getElem?_modify_ne _ _ hs] at hn
      rw [if_neg hs]
      exact h.count s n hn

theorem Counted.dec {ms' : List MemberSlot} (h : Counted c ms)
    (hms : ∀ s, slotsIn ms s = slotsIn ms' s + if m.group = s then 1 else 0) :
    Counted (c.modify m.group (· - 1)) ms' where
  length := by rw [List.length_modify]; exact h.length
  count := by
    intro s n hn
    have hs' := hms s
    by_cases hs : m.group = s
    · subst hs
      rw [List.getElem?_modify_eq] at hn
      obtain ⟨n₀, hn₀, rfl⟩ := Option.map_eq_some_iff.mp hn
      have h0 := h.count _ _ hn₀
      rw [if_pos rfl] at hs'
      rw [byte_dec (by omega)]
      omega
    · rw [List.getElem?_modify_ne _ _ hs] at hn
      rw [if_neg hs] at hs'
      rw [h.count s n hn]
      omega

theorem counted_zero : Counted (List.replicate MAX_RAID_SUBGROUPS 0) [] where
  length := by simp
  count := by
    intro s n hn
    rw [List.getElem?_replicate] at hn
    split at hn
    · cases hn; rfl
    · cases hn

theorem counted_fold {ms ms' : List MemberSlot} (h : Counted c ms)
    (hroom : ∀ s, slotsIn (ms ++ ms') s ≤ 255) :
    Counted (ms'.foldl (fun c m => c.modify m.group (· + 1)) c) (ms ++ ms') := by
  induction ms' generalizing c ms with
  | nil => simpa using h
  | cons m ms' ih =>
    have hm := hroom m.group
    rw [slotsIn_append, slotsIn_cons, if_pos rfl] at hm
    have hinc := h.inc (m := m) (by omega)
    have heq : ms ++ m :: ms' = (ms ++ [m]) ++ ms' := by simp
    rw [heq] at hroom ⊢
    exact ih hinc hroom

end Slots

namespace Group.Accounted

variable {g : Group} {guid subgroup : Nat}

theorem size (h : g.Accounted) : g.memberSlots.length ≤ MAXRAIDSIZE :=
  length_le_raid h.placed h.room

theorem room_lt (h : g.Accounted) (s : Nat) : slotsIn g.memberSlots s < 255 :=
  Nat.lt_of_le_of_lt (h.room s) (by decide)

theorem push (h : g.Accounted) (hs : subgroup < MAX_RAID_SUBGROUPS)
    (hroom : slotsIn g.memberSlots subgroup < MAXGROUPSIZE)
    (hparty : g.isRaidGroup = false → g.memberSlots.length < MAXGROUPSIZE) :
    (({ g with memberSlots := g.memberSlots ++ [MemberSlot.mk guid subgroup] }
      : Group).subGroupCounterIncrease subgroup).Accounted where
  allocated := by
    show (g.subGroupsCounts.map _).isSome = g.isRaidGroup
    rw [Option.isSome_map]
    exact h.allocated
  counted := by
    intro c hc
    obtain ⟨c₀, hc₀, rfl⟩ := Option.map_eq_some_iff.mp hc
    exact (h.counted c₀ hc₀).inc (m := ⟨guid, subgroup⟩) (h.room_lt subgroup)
  placed := by
    intro m hm
    rcases List.mem_append.mp hm with hm | hm
    · exact h.placed m hm
    · rw [List.mem_singleton.mp hm]; exact hs
  room := by
    intro s
    show slotsIn (g.memberSlots ++ [_]) s ≤ _
    rw [slotsIn_append, slotsIn_cons, slotsIn_nil, Nat.zero_add]
    have := h.room s
    split
    · rename_i he
      have he' : subgroup = s := he
      subst he'
      omega
    · omega
  party := by
    intro hr
    show (g.memberSlots ++ [_]).length ≤ _
    have := hparty hr
    simp only [List.length_append, List.length_singleton]
    omega

theorem link (h : g.Accounted) : (g.linkMember guid).Accounted :=
  ⟨h.allocated, h.counted, h.placed, h.room, h.party⟩

theorem delink (h : g.Accounted) : (g.delinkMember guid).Accounted :=
  ⟨h.allocated, h.counted, h.placed, h.room, h.party⟩

theorem freeSubGroup_room (h : g.Accounted) (hfull : g.isRaidGroup = false → g.isFull = false)
    (hs : g.freeSubGroup = some subgroup) : subgroup < MAX_RAID_SUBGROUPS ∧
      slotsIn g.memberSlots subgroup < MAXGROUPSIZE ∧
      (g.isRaidGroup = false → g.memberSlots.length < MAXGROUPSIZE) := by
  have hparty : g.isRaidGroup = false → g.memberSlots.length < MAXGROUPSIZE := by
    intro hr
    have := hfull hr
    simpa [isFull, hr] using this
  simp only [freeSubGroup] at hs
  split at hs
  · rename_i hc
    cases hs
    have hr : g.isRaidGroup = false := by rw [← h.allocated, hc]; rfl
    exact ⟨by decide, Nat.lt_of_le_of_lt slotsIn_le_length (hparty hr), hparty⟩
  · rename_i c hc
    obtain ⟨hk, hp, _⟩ := List.findIdx?_eq_some_iff_getElem.mp hs
    have hcc := h.counted c hc
    have hn := hcc.count _ _ (List.getElem?_eq_getElem hk)
    refine ⟨hcc.length ▸ hk, ?_, hparty⟩
    simpa [hn] using hp

theorem addMember {g' : Group} (h : g.Accounted)
    (hfull : g.isRaidGroup = false → g.isFull = false) (ha : g.addMember guid = some g') :
    g'.Accounted := by
  simp only [Group.addMember] at ha
  split at ha
  · cases ha
  · rename_i s hs
    cases ha
    obtain ⟨h1, h2, h3⟩ := h.freeSubGroup_room hfull hs
    exact (h.push h1 h2 h3).link

/-- A slot that `getMemberSlot` finds is the one `eraseP` takes away. -/
theorem slotsIn_erase {ms : List MemberSlot} {m : MemberSlot}
    (hm : ms.find? (fun x => x.guid == guid) = some m) (s : Nat) :
    slotsIn ms s = slotsIn (ms.eraseP (fun x => x.guid == guid)) s +
      if m.group = s then 1 else 0 := by
  induction ms with
  | nil => cases hm
  | cons x xs ih =>
    cases hx : x.guid == guid with
    | true =>
      simp only [List.find?_cons, hx] at hm
      cases hm
      simp only [List.eraseP_cons, hx, cond_true, slotsIn_cons]
    | false =>
      simp only [List.find?_cons, hx] at hm
      simp only [List.eraseP_cons, hx, cond_false, slotsIn_cons, ih hm]
      omega

theorem dropSlot (h : g.Accounted) : (g.dropSlot guid).Accounted := by
  simp only [Group.dropSlot]
  cases hm : g.getMemberSlot guid with
  | none => exact h
  | some m =>
    have herase := fun s => slotsIn_erase hm s
    have hsub := List.eraseP_sublist (p := fun x : MemberSlot => x.guid == guid)
      (l := g.memberSlots)
    refine ⟨?_, ?_, ?_, ?_, ?_⟩
    · show (g.subGroupsCounts.map _).isSome = g.isRaidGroup
      rw [Option.isSome_map]
      exact h.allocated
    · intro c hc
      obtain ⟨c₀, hc₀, rfl⟩ := Option.map_eq_some_iff.mp hc
      exact (h.counted c₀ hc₀).dec herase
    · intro x hx
      exact h.placed x (hsub.subset hx)
    · intro s
      exact Nat.le_trans (hsub.countP_le) (h.room s)
    · intro hr
      exact Nat.le_trans hsub.length_le (h.party hr)

theorem nextLeader (h : g.Accounted) {online : Nat → Bool} :
    (g.nextLeader guid online).Accounted := by
  simp only [Group.nextLeader]
  split
  · split
    · exact ⟨h.allocated, h.counted, h.placed, h.room, h.party⟩
    · exact h
  · exact h

theorem removeMember {g' : Group} (h : g.Accounted) {kick lfgOutside : Bool} {online : Nat → Bool}
    (hr : g.removeMember guid kick online lfgOutside = .removed g') : g'.Accounted := by
  have hg : (((g.delinkMember guid).dropSlot guid).nextLeader guid online).Accounted :=
    h.delink.dropSlot.nextLeader
  simp only [Group.removeMember] at hr
  split_ifs at hr <;> cases hr <;> exact hg

/-! ## Moving a member -/

/-- Moving the slot found by `getMemberSlot` takes it out of its subgroup and puts it in another. -/
theorem slotsIn_setSlotGroup {ms : List MemberSlot} {m : MemberSlot} (subgroup : Nat)
    (hm : ms.find? (fun x => x.guid == guid) = some m) (s : Nat) :
    slotsIn (setSlotGroup guid subgroup ms) s + (if m.group = s then 1 else 0) =
      slotsIn ms s + if subgroup = s then 1 else 0 := by
  induction ms with
  | nil => cases hm
  | cons x xs ih =>
    by_cases hx : x.guid = guid
    · rw [List.find?_cons_of_pos (by simpa using hx)] at hm
      cases hm
      simp only [setSlotGroup, if_pos hx, slotsIn_cons]
      omega
    · rw [List.find?_cons_of_neg (by simpa using hx)] at hm
      have := ih hm
      simp only [setSlotGroup, if_neg hx, slotsIn_cons]
      omega

theorem mem_setSlotGroup {ms : List MemberSlot} {x : MemberSlot}
    (hx : x ∈ setSlotGroup guid subgroup ms) : x = ⟨guid, subgroup⟩ ∨ x ∈ ms := by
  induction ms with
  | nil => cases hx
  | cons y ys ih =>
    simp only [setSlotGroup] at hx
    split at hx
    · rename_i hy
      rcases List.mem_cons.mp hx with rfl | hx
      · exact .inl (by rw [← hy])
      · exact .inr (.tail _ hx)
    · rcases List.mem_cons.mp hx with rfl | hx
      · exact .inr (.head _)
      · exact (ih hx).imp id (.tail _)

theorem setSlotGroup_keeps {ms : List MemberSlot} {x : MemberSlot} (hx : x ∈ ms)
    (hne : x.guid ≠ guid) : x ∈ setSlotGroup guid subgroup ms := by
  induction ms with
  | nil => cases hx
  | cons y ys ih =>
    simp only [setSlotGroup]
    split
    · rename_i hy
      rcases List.mem_cons.mp hx with rfl | hx
      · exact absurd hy hne
      · exact .tail _ hx
    · rcases List.mem_cons.mp hx with rfl | hx
      · exact .head _
      · exact .tail _ (ih hx)

theorem setSlotGroup_moved {ms : List MemberSlot} {m : MemberSlot}
    (hm : ms.find? (fun x => x.guid == guid) = some m) :
    ⟨guid, subgroup⟩ ∈ setSlotGroup guid subgroup ms := by
  induction ms with
  | nil => cases hm
  | cons x xs ih =>
    simp only [setSlotGroup]
    split
    · rename_i hx
      rw [← hx]
      exact .head _
    · rename_i hx
      rw [List.find?_cons_of_neg (by simpa using hx)] at hm
      exact .tail _ (ih hm)

theorem find?_setSlotGroup {ms : List MemberSlot} {m : MemberSlot} (subgroup : Nat)
    (hm : ms.find? (fun x => x.guid == guid) = some m) :
    (setSlotGroup guid subgroup ms).find? (fun x => x.guid == guid) =
      some ⟨guid, subgroup⟩ := by
  induction ms with
  | nil => cases hm
  | cons x xs ih =>
    simp only [setSlotGroup]
    split
    · rename_i hx
      simp [hx]
    · rename_i hx
      rw [List.find?_cons_of_neg (by simpa using hx)] at hm ⊢
      exact ih hm

theorem any_setSlotGroup {ms : List MemberSlot} {x : Nat} :
    (setSlotGroup guid subgroup ms).any (fun m => m.guid == x) =
      ms.any (fun m => m.guid == x) := by
  induction ms with
  | nil => rfl
  | cons y ys ih =>
    simp only [setSlotGroup]
    split
    · rfl
    · simp only [List.any_cons, ih]

/-- The only thing `ChangeMembersGroup` does, if it does anything: one slot moves, the counter of
the new subgroup goes up before the one of the old goes down. -/
theorem changeMembersGroup_cases (g : Group) (guid subgroup : Nat) :
    g.changeMembersGroup guid subgroup = g ∨
    ∃ m, g.getMemberSlot guid = some m ∧ g.isRaidGroup = true ∧ m.group ≠ subgroup ∧
      g.changeMembersGroup guid subgroup =
        { g with
          memberSlots := setSlotGroup guid subgroup g.memberSlots
          subGroupsCounts := g.subGroupsCounts.map
            (fun c => (c.modify subgroup (· + 1)).modify m.group (· - 1)) } := by
  simp only [changeMembersGroup]
  cases hr : g.isRaidGroup with
  | false => exact .inl rfl
  | true =>
    cases hm : g.getMemberSlot guid with
    | none => exact .inl rfl
    | some m =>
      have hgroup : g.getMemberGroup guid = m.group := by simp only [getMemberGroup, hm]
      rw [hgroup]
      by_cases hs : m.group = subgroup
      · exact .inl (by simp [hs])
      · refine .inr ⟨m, rfl, rfl, hs, ?_⟩
        simp [hs, subGroupCounterIncrease, subGroupCounterDecrease, Option.map_map,
          Function.comp_def]

theorem changeMembersGroup (h : g.Accounted) (hs : subgroup < MAX_RAID_SUBGROUPS)
    (hroom : slotsIn g.memberSlots subgroup < MAXGROUPSIZE) :
    (g.changeMembersGroup guid subgroup).Accounted := by
  rcases changeMembersGroup_cases g guid subgroup with
    he | ⟨m, hm, hr, hne, he⟩
  · rw [he]
    exact h
  · rw [he]
    have hmove := fun s => slotsIn_setSlotGroup subgroup hm s
    refine ⟨?_, ?_, ?_, ?_, ?_⟩
    · show (g.subGroupsCounts.map _).isSome = g.isRaidGroup
      rw [Option.isSome_map]
      exact h.allocated
    · intro c hc
      obtain ⟨c₀, hc₀, rfl⟩ := Option.map_eq_some_iff.mp hc
      have hinc := (h.counted c₀ hc₀).inc (m := ⟨guid, subgroup⟩) (h.room_lt subgroup)
      refine hinc.dec (m := m) (fun s => ?_)
      rw [slotsIn_append, slotsIn_cons, slotsIn_nil, Nat.zero_add]
      exact (hmove s).symm
    · intro x hx
      rcases mem_setSlotGroup hx with rfl | hx
      · exact hs
      · exact h.placed x hx
    · intro s
      show slotsIn (setSlotGroup guid subgroup g.memberSlots) s ≤ MAXGROUPSIZE
      have h1 := hmove s
      have h2 := h.room s
      by_cases hsub : subgroup = s
      · subst hsub
        rw [if_neg hne, if_pos rfl] at h1
        omega
      · rw [if_neg hsub] at h1
        omega
    · intro hraid
      cases hr.symm.trans hraid

theorem hasFreeSlotSubGroup (h : g.Accounted) (hf : g.hasFreeSlotSubGroup subgroup = true) :
    slotsIn g.memberSlots subgroup < MAXGROUPSIZE := by
  simp only [Group.hasFreeSlotSubGroup] at hf
  split at hf
  · cases hf
  · rename_i c hc
    split at hf
    · rename_i n hn
      rw [(h.counted c hc).count _ _ hn] at hf
      simpa using hf
    · cases hf

theorem handleGroupChangeSubGroup (h : g.Accounted) {allowed : Bool} :
    (g.handleGroupChangeSubGroup allowed guid subgroup).Accounted := by
  simp only [Group.handleGroupChangeSubGroup]
  split
  · exact h
  · rename_i hs
    split
    · exact h
    · split
      · exact h
      · rename_i hfree
        exact h.changeMembersGroup (by omega) (h.hasFreeSlotSubGroup (by simpa using hfree))

theorem initRaidSubGroupsCounter (hr : g.isRaidGroup = true)
    (hplaced : ∀ m ∈ g.memberSlots, m.group < MAX_RAID_SUBGROUPS)
    (hroom : ∀ s, slotsIn g.memberSlots s ≤ MAXGROUPSIZE) :
    g.initRaidSubGroupsCounter.Accounted where
  allocated := hr.symm
  counted := by
    intro c hc
    cases hc
    refine counted_fold counted_zero (fun s => ?_)
    rw [List.nil_append]
    exact Nat.le_trans (hroom s) (by decide)
  placed := hplaced
  room := hroom
  party := by
    intro hraid
    cases hr.symm.trans hraid

theorem convertToRaid (h : g.Accounted) : g.convertToRaid.Accounted :=
  initRaidSubGroupsCounter rfl h.placed h.room

theorem convertToLFG (h : g.Accounted) : g.convertToLFG.Accounted :=
  ⟨h.allocated, h.counted, h.placed, h.room, h.party⟩

theorem convertToGroup (h : g.Accounted) : g.convertToGroup.Accounted := by
  simp only [Group.convertToGroup]
  split
  · exact h
  · rename_i hlen
    refine ⟨rfl, ?_, h.placed, h.room, ?_⟩
    · intro c hc
      cases hc
    · intro _
      show g.memberSlots.length ≤ 5
      omega

theorem empty (hslots : g.memberSlots = []) (hcount : g.subGroupsCounts = none)
    (hr : g.isRaidGroup = false) : g.Accounted := by
  refine ⟨by rw [hcount, hr]; rfl, ?_, ?_, ?_, ?_⟩
  · intro c hc
    rw [hcount] at hc
    cases hc
  · intro m hm
    rw [hslots] at hm
    cases hm
  · intro s
    rw [hslots]
    exact Nat.zero_le _
  · intro _
    rw [hslots]
    exact Nat.zero_le _

theorem foldl_loadMember {ms : List MemberSlot} {g : Group} :
    ms.foldl (fun g m => g.loadMember m.guid m.group) g =
      { g with
        memberSlots := g.memberSlots ++ ms
        subGroupsCounts := g.subGroupsCounts.map
          (fun c => ms.foldl (fun c m => c.modify m.group (· + 1)) c) } := by
  induction ms generalizing g with
  | nil => simp
  | cons m ms ih =>
    rw [List.foldl_cons, ih]
    simp [loadMember, subGroupCounterIncrease, Option.map_map, Function.comp_def]

theorem load {ms : List MemberSlot} (h : g.Accounted) (hslots : g.memberSlots = [])
    (hplaced : ∀ m ∈ ms, m.group < MAX_RAID_SUBGROUPS)
    (hroom : ∀ s, slotsIn ms s ≤ MAXGROUPSIZE)
    (hparty : g.isRaidGroup = false → ms.length ≤ MAXGROUPSIZE) :
    (ms.foldl (fun g m => g.loadMember m.guid m.group) g).Accounted := by
  rw [foldl_loadMember, hslots, List.nil_append]
  refine ⟨?_, ?_, hplaced, hroom, hparty⟩
  · show (g.subGroupsCounts.map _).isSome = g.isRaidGroup
    rw [Option.isSome_map]
    exact h.allocated
  · intro c hc
    obtain ⟨c₀, hc₀, rfl⟩ := Option.map_eq_some_iff.mp hc
    have hcount := h.counted c₀ hc₀
    rw [hslots] at hcount
    refine counted_fold hcount (fun s => ?_)
    rw [List.nil_append]
    exact Nat.le_trans (hroom s) (by decide)

theorem create {g' : Group} {lowGuid dbStoreId leaderGuid : Nat} {bg bf : Bool}
    (hc : Group.create lowGuid dbStoreId leaderGuid bg bf = some g') : g'.Accounted := by
  simp only [Group.create] at hc
  cases hb : bg || bf with
  | true =>
    simp only [hb, if_true] at hc
    have hnew := initRaidSubGroupsCounter
      (g := { lowGuid := lowGuid, leaderGuid := leaderGuid, isBGGroup := bg, isBFGroup := bf
              looterGuid := leaderGuid, groupType := GROUPTYPE_BGRAID })
      rfl (fun m hm => nomatch hm) (fun s => Nat.zero_le _)
    exact hnew.addMember (fun _ => rfl) hc
  | false =>
    simp only [hb, Bool.false_eq_true, if_false] at hc
    have hnew := empty
      (g := { lowGuid := lowGuid, leaderGuid := leaderGuid, isBGGroup := bg, isBFGroup := bf
              looterGuid := leaderGuid, dbStoreId := dbStoreId })
      rfl rfl rfl
    exact hnew.addMember (fun _ => rfl) hc

end Group.Accounted

end SkyfireBG
