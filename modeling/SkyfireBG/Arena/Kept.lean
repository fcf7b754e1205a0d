import SkyfireBG.Arena.Data

/-!
# SkyfireBG.Arena.Kept

Teams, players and rows against each other.

* `ArenaWorld.Kept` — the invariant.
* `Kept.join`, `Kept.delMember`, `Kept.disband`, `Kept.setCaptain`, `Kept.login` — the changes keep it.
-/

namespace SkyfireBG

/-- A team as it should be: a known type, at most twice as many members, the captain one of them, and
nobody twice. -/
structure ArenaTeam.Proper (team : ArenaTeam) : Prop where
  slot : team.slot ≠ none
  captain : team.captainGuid ∈ team.guids
  size : team.members.length ≤ team.type * 2
  nodup : team.guids.Nodup

theorem ArenaTeam.slotByType_inj {type type' slot : Nat}
    (h : slotByType type = some slot) (h' : slotByType type' = some slot) : type = type' := by
  unfold slotByType at h h'
  split_ifs at h h' <;> simp only [Option.some.injEq] at h h' <;> omega

namespace ArenaWorld

variable {s s' : ArenaWorld} {team team' : ArenaTeam} {id p slot type : Nat}
variable {characters : Nat → Option (List Char)}

/-- A player who is online is not between two maps. -/
def Present (s : ArenaWorld) (p : Nat) : Prop := p ∈ s.online → p ∈ s.inWorld

instance : Decidable (s.Present p) := inferInstanceAs (Decidable (_ → _))

structure Kept (s : ArenaWorld) : Prop where
  world : s.inWorld ⊆ s.online
  next : 0 < s.nextArenaTeamId
  numbered : ∀ id team, s.store.find? id = some team →
    team.teamId = id ∧ 0 < id ∧ id < s.nextArenaTeamId
  proper : ∀ id team, s.store.find? id = some team → team.Proper
  one : ∀ id team id' team', s.store.find? id = some team → s.store.find? id' = some team' →
    team.type = team'.type → ∀ p ∈ team.guids, p ∈ team'.guids → id = id'
  names : ∀ id team id' team', s.store.find? id = some team → s.store.find? id' = some team' →
    team.teamName.map Char.toUpper = team'.teamName.map Char.toUpper → id = id'
  /-- A player has the id of his team, and no other. -/
  joined : ∀ p ∈ s.online, ∀ id team slot, s.store.find? id = some team → p ∈ team.guids →
    team.slot = some slot → s.arenaTeamId p slot = id
  fields : ∀ p ∈ s.online, ∀ slot, s.arenaTeamId p slot ≠ 0 →
    ∃ team, s.store.find? (s.arenaTeamId p slot) = some team ∧ p ∈ team.guids ∧
      team.slot = some slot
  rows : ∀ id p, (id, p) ∈ s.memberRows ↔ ∃ team, s.store.find? id = some team ∧ p ∈ team.guids
  rowsNodup : s.memberRows.Nodup
  teamRows : ∀ id, s.teamRows.find? id = (s.store.find? id).map ArenaTeam.row

theorem kept_empty : Kept {} where
  world := Finset.Subset.refl _
  next := Nat.one_pos
  numbered := fun _ _ h => nomatch h
  proper := fun _ _ h => nomatch h
  one := fun _ _ _ _ h => nomatch h
  names := fun _ _ _ _ h => nomatch h
  joined := fun _ h => nomatch h
  fields := fun _ h => nomatch h
  rows := fun _ _ => ⟨fun h => (nomatch h), fun ⟨_, h, _⟩ => (nomatch h)⟩
  rowsNodup := .nil
  teamRows := fun _ => rfl

theorem idFromDB_eq_zero (hids : ∀ r ∈ s.memberRows, r.1 ≠ 0) :
    s.idFromDB p type = 0 ↔ ∀ id row, (id, p) ∈ s.memberRows → s.teamRows.find? id = some row →
      row.type ≠ type := by
  unfold idFromDB
  cases hfind : s.memberRows.find? fun r =>
      decide (r.2 = p ∧ (s.teamRows.find? r.1).any (fun row => decide (row.type = type)) = true) with
  | none =>
    refine iff_of_true rfl fun id row hmem hrow htype => ?_
    have hno := List.find?_eq_none.mp hfind (id, p) hmem
    simp [hrow, htype] at hno
  | some r =>
    have hmem := List.mem_of_find?_eq_some hfind
    have hr := List.find?_some hfind
    simp only [decide_eq_true_eq] at hr
    refine iff_of_false (hids r hmem) fun h => ?_
    cases hrow : s.teamRows.find? r.1 with
    | none => simp [hrow] at hr
    | some row =>
      simp only [hrow, Option.any_some, decide_eq_true_eq] at hr
      refine h r.1 row ?_ hrow hr.2
      rw [← hr.1]
      exact hmem

namespace Kept

theorem inWorld_iff (h : Kept s) (hp : s.Present p) : p ∈ s.inWorld ↔ p ∈ s.online :=
  ⟨fun hin => h.world hin, hp⟩

theorem ids_pos (h : Kept s) : ∀ r ∈ s.memberRows, r.1 ≠ 0 := by
  intro r hr
  obtain ⟨team, hteam, -⟩ := (h.rows r.1 r.2).mp hr
  exact (h.numbered r.1 team hteam).2.1.ne'

/-- A player joins the team `team'`, which had the members `old` and is stored under `id`. -/
theorem join (h : Kept s) (hpresent : s.Present p) (old : List Nat) (hid : team'.teamId = id)
    (hpos : 0 < id) (hstore : s'.store = s.store.set id team') (honline : s'.online = s.online)
    (hworld : s'.inWorld = s.inWorld)
    (hnext : s.nextArenaTeamId ≤ s'.nextArenaTeamId) (hidnext : id < s'.nextArenaTeamId)
    (hproper : team'.Proper) (hguids : team'.guids = old ++ [p])
    (hold : ∀ q, q ∈ old ↔ ∃ team, s.store.find? id = some team ∧ q ∈ team.guids)
    (htype : ∀ team, s.store.find? id = some team → team.type = team'.type)
    (hfree : ∀ i team, s.store.find? i = some team → team.type = team'.type → p ∉ team.guids)
    (hname : ∀ i team, s.store.find? i = some team →
      team.teamName.map Char.toUpper = team'.teamName.map Char.toUpper → i = id)
    (hrows : s'.memberRows = s.memberRows ++ [(id, p)])
    (hteamRows : ∀ i, s'.teamRows.find? i = if i = id then some team'.row else s.teamRows.find? i)
    (hfields : ∀ q slot, s'.arenaTeamId q slot =
      if q = p ∧ p ∈ s.inWorld ∧ team'.slot = some slot then id else s.arenaTeamId q slot) :
    Kept s' := by
  simp only [h.inWorld_iff hpresent] at hfields
  have hfind : ∀ {i t}, s'.store.find? i = some t ↔
      i = id ∧ t = team' ∨ i ≠ id ∧ s.store.find? i = some t := by
    rw [hstore]
    exact OrdMap.find?_set_eq_some
  have hnotOld : p ∉ old := by
    intro hp
    obtain ⟨team, hteam, hmem⟩ := (hold p).mp hp
    exact hfree id team hteam (htype team hteam) hmem
  have hrowsNew : (id, p) ∉ s.memberRows := by
    intro hmem
    exact hnotOld ((hold p).mpr ((h.rows id p).mp hmem))
  have hmemGuids : ∀ {q}, q ∈ team'.guids ↔ q ∈ old ∨ q = p := by
    intro q
    rw [hguids, List.mem_append, List.mem_singleton]
  -- a team apart from `team'` with a member of it and its type
  have hother : ∀ {i t q}, i ≠ id → s.store.find? i = some t → t.type = team'.type →
      q ∈ t.guids → q ∈ team'.guids → False := by
    intro i t q hne hi ht hq hq'
    rcases hmemGuids.mp hq' with hq' | rfl
    · obtain ⟨team, hteam, hmem⟩ := (hold q).mp hq'
      exact hne (h.one i t id team hi hteam (ht.trans (htype team hteam).symm) q hq hmem)
    · exact hfree i t hi ht hq
  constructor
  · rw [hworld, honline]
    exact h.world
  · exact Nat.lt_of_lt_of_le h.next hnext
  · intro i t hi
    rcases hfind.mp hi with ⟨rfl, rfl⟩ | ⟨-, hi⟩
    · exact ⟨hid, hpos, hidnext⟩
    · obtain ⟨h₁, h₂, h₃⟩ := h.numbered i t hi
      exact ⟨h₁, h₂, h₃.trans_le hnext⟩
  · intro i t hi
    rcases hfind.mp hi with ⟨rfl, rfl⟩ | ⟨-, hi⟩
    · exact hproper
    · exact h.proper i t hi
  · intro i t j u hi hj htu q hq hq'
    rcases hfind.mp hi with ⟨rfl, rfl⟩ | ⟨hine, hi⟩ <;> rcases hfind.mp hj with ⟨rfl, rfl⟩ | ⟨hjne, hj⟩
    · rfl
    · exact (hother hjne hj htu.symm hq' hq).elim
    · exact (hother hine hi htu hq hq').elim
    · exact h.one i t j u hi hj htu q hq hq'
  · intro i t j u hi hj htu
    rcases hfind.mp hi with ⟨rfl, rfl⟩ | ⟨hine, hi⟩ <;> rcases hfind.mp hj with ⟨rfl, rfl⟩ | ⟨hjne, hj⟩
    · rfl
    · exact (hname j u hj htu.symm).symm
    · exact hname i t hi htu
    · exact h.names i t j u hi hj htu
  · intro q hq i t slot hi hmem hslot
    rw [honline] at hq
    rw [hfields]
    rcases hfind.mp hi with ⟨rfl, rfl⟩ | ⟨hine, hi⟩
    · split_ifs with hcond
      · rfl
      · rcases hmemGuids.mp hmem with hmem | rfl
        · obtain ⟨team, hteam, hmem⟩ := (hold q).mp hmem
          refine h.joined q hq i team slot hteam hmem ?_
          rw [ArenaTeam.slot, htype team hteam]
          exact hslot
        · exact absurd ⟨rfl, hq, hslot⟩ hcond
    · split_ifs with hcond
      · obtain ⟨rfl, -, hslot'⟩ := hcond
        exact absurd hmem (hfree i t hi (ArenaTeam.slotByType_inj hslot hslot'))
      · exact h.joined q hq i t slot hi hmem hslot
  · intro q hq slot hne
    rw [honline] at hq
    rw [hfields] at hne ⊢
    split_ifs at hne ⊢ with hcond
    · obtain ⟨rfl, -, hslot⟩ := hcond
      exact ⟨team', hfind.mpr (.inl ⟨rfl, rfl⟩), hmemGuids.mpr (.inr rfl), hslot⟩
    · obtain ⟨t, ht, hmem, hslot⟩ := h.fields q hq slot hne
      by_cases hi : s.arenaTeamId q slot = id
      · rw [hi] at ht
        refine ⟨team', hfind.mpr (.inl ⟨hi, rfl⟩), ?_, ?_⟩
        · exact hmemGuids.mpr (.inl ((hold q).mpr ⟨t, ht, hmem⟩))
        · rw [ArenaTeam.slot, ← htype t ht]
          exact hslot
      · exact ⟨t, hfind.mpr (.inr ⟨hi, ht⟩), hmem, hslot⟩
  · intro i q
    rw [hrows, List.mem_append, List.mem_singleton, h.rows, Prod.mk.injEq]
    constructor
    · rintro (⟨t, ht, hmem⟩ | ⟨rfl, rfl⟩)
      · by_cases hi : i = id
        · subst hi
          exact ⟨team', hfind.mpr (.inl ⟨rfl, rfl⟩), hmemGuids.mpr (.inl ((hold q).mpr ⟨t, ht, hmem⟩))⟩
        · exact ⟨t, hfind.mpr (.inr ⟨hi, ht⟩), hmem⟩
      · exact ⟨team', hfind.mpr (.inl ⟨rfl, rfl⟩), hmemGuids.mpr (.inr rfl)⟩
    · rintro ⟨t, ht, hmem⟩
      rcases hfind.mp ht with ⟨rfl, rfl⟩ | ⟨-, ht⟩
      · rcases hmemGuids.mp hmem with hmem | rfl
        · exact .inl ((hold q).mp hmem)
        · exact .inr ⟨rfl, rfl⟩
      · exact .inl ⟨t, ht, hmem⟩
  · rw [hrows]
    refine List.Nodup.append h.rowsNodup (List.nodup_singleton _) ?_
    intro r hr hr'
    rw [List.mem_singleton.mp hr'] at hr
    exact hrowsNew hr
  · intro i
    rw [hteamRows, hstore, OrdMap.find?_set]
    split_ifs
    · rfl
    · exact h.teamRows i

theorem invited {f : Nat → Nat} (h : Kept s) : Kept { s with invited := f } :=
  ⟨h.world, h.next, h.numbered, h.proper, h.one, h.names, h.joined, h.fields, h.rows, h.rowsNodup,
    h.teamRows⟩

theorem moved {world : Finset Nat} (h : Kept s) (hworld : world ⊆ s.online) :
    Kept { s with inWorld := world } :=
  ⟨hworld, h.next, h.numbered, h.proper, h.one, h.names, h.joined, h.fields, h.rows, h.rowsNodup,
    h.teamRows⟩

theorem logout (h : Kept s) :
    Kept { s with online := s.online.erase p, inWorld := s.inWorld.erase p } :=
  ⟨Finset.erase_subset_erase p h.world, h.next, h.numbered, h.proper, h.one, h.names,
    fun q hq => h.joined q (Finset.mem_of_mem_erase hq),
    fun q hq => h.fields q (Finset.mem_of_mem_erase hq), h.rows, h.rowsNodup, h.teamRows⟩

/-- Some members are gone from their teams, `gone id guid`, together with their rows and fields. -/
theorem remove (h : Kept s) (gone : Nat → Nat → Prop)
    (hnext : s'.nextArenaTeamId = s.nextArenaTeamId) (honline : s'.online = s.online)
    (hworld : s'.inWorld = s.inWorld)
    (hsame : ∀ i t', s'.store.find? i = some t' → t'.Proper ∧ ∃ t, s.store.find? i = some t ∧
      t'.teamId = t.teamId ∧ t'.type = t.type ∧ t'.teamName = t.teamName ∧
        ∀ q, q ∈ t'.guids ↔ q ∈ t.guids ∧ ¬ gone i q)
    (hstays : ∀ i t q, s.store.find? i = some t → q ∈ t.guids → ¬ gone i q →
      ∃ t', s'.store.find? i = some t')
    (hrows : ∀ r, r ∈ s'.memberRows ↔ r ∈ s.memberRows ∧ ¬ gone r.1 r.2)
    (hnodup : s'.memberRows.Nodup)
    (hteamRows : ∀ i, s'.teamRows.find? i = (s'.store.find? i).map ArenaTeam.row)
    (hfields : ∀ q ∈ s.online, ∀ slot, s'.arenaTeamId q slot = s.arenaTeamId q slot ∨
      s'.arenaTeamId q slot = 0)
    (hcleared : ∀ q ∈ s.online, ∀ i t slot, s.store.find? i = some t → q ∈ t.guids →
      t.slot = some slot → (gone i q ↔ s'.arenaTeamId q slot = 0)) : Kept s' := by
  constructor
  · rw [hworld, honline]
    exact h.world
  · rw [hnext]
    exact h.next
  · intro i t' hi
    obtain ⟨-, t, ht, hid, -⟩ := hsame i t' hi
    rw [hid, hnext]
    exact h.numbered i t ht
  · exact fun i t' hi => (hsame i t' hi).1
  · intro i t' j u' hi hj htu q hq hq'
    obtain ⟨-, t, ht, -, htype, -, hguids⟩ := hsame i t' hi
    obtain ⟨-, u, hu, -, hutype, -, huguids⟩ := hsame j u' hj
    exact h.one i t j u ht hu (by rw [← htype, ← hutype, htu]) q ((hguids q).mp hq).1
      ((huguids q).mp hq').1
  · intro i t' j u' hi hj htu
    obtain ⟨-, t, ht, -, -, hname, -⟩ := hsame i t' hi
    obtain ⟨-, u, hu, -, -, huname, -⟩ := hsame j u' hj
    exact h.names i t j u ht hu (by rw [← hname, ← huname, htu])
  · intro q hq i t' slot hi hmem hslot
    rw [honline] at hq
    obtain ⟨-, t, ht, -, htype, -, hguids⟩ := hsame i t' hi
    obtain ⟨hmem, hgone⟩ := (hguids q).mp hmem
    rw [ArenaTeam.slot, htype] at hslot
    rw [hcleared q hq i t slot ht hmem hslot] at hgone
    rw [(hfields q hq slot).resolve_right hgone]
    exact h.joined q hq i t slot ht hmem hslot
  · intro q hq slot hne
    rw [honline] at hq
    have heq := (hfields q hq slot).resolve_right hne
    rw [heq] at hne ⊢
    obtain ⟨t, ht, hmem, hslot⟩ := h.fields q hq slot hne
    have hgone : ¬ gone (s.arenaTeamId q slot) q := by
      rw [hcleared q hq _ t slot ht hmem hslot, heq]
      exact hne
    obtain ⟨t', ht'⟩ := hstays _ t q ht hmem hgone
    obtain ⟨-, t₀, ht₀, -, htype, -, hguids⟩ := hsame _ t' ht'
    rw [ht] at ht₀
    cases ht₀
    refine ⟨t', ht', (hguids q).mpr ⟨hmem, hgone⟩, ?_⟩
    rw [ArenaTeam.slot, htype]
    exact hslot
  · intro i q
    rw [hrows, h.rows]
    constructor
    · rintro ⟨⟨t, ht, hmem⟩, hgone⟩
      obtain ⟨t', ht'⟩ := hstays i t q ht hmem hgone
      obtain ⟨-, t₀, ht₀, -, -, -, hguids⟩ := hsame i t' ht'
      rw [ht] at ht₀
      cases ht₀
      exact ⟨t', ht', (hguids q).mpr ⟨hmem, hgone⟩⟩
    · rintro ⟨t', ht', hmem⟩
      obtain ⟨-, t, ht, -, -, -, hguids⟩ := hsame i t' ht'
      obtain ⟨hmem, hgone⟩ := (hguids q).mp hmem
      exact ⟨⟨t, ht, hmem⟩, hgone⟩
  · exact hnodup
  · exact hteamRows

theorem setCaptain (h : Kept s) (hteam : s.store.find? id = some team) (hp : p ∈ team.guids) :
    Kept (s.setCaptain team p) := by
  have hid := (h.numbered id team hteam).1
  let team' := { team with captainGuid := p }
  have hfind : ∀ {i t}, (s.setCaptain team p).store.find? i = some t ↔
      i = id ∧ t = team' ∨ i ≠ id ∧ s.store.find? i = some t := by
    rw [← hid]
    exact OrdMap.find?_set_eq_some
  -- nobody is gone
  refine h.remove (fun _ _ => False) rfl rfl rfl (fun i t hi => ?_) (fun i t q hi _ _ => ?_)
    (fun r => (and_iff_left not_false).symm) h.rowsNodup (fun i => ?_) (fun q _ slot => .inl rfl)
    fun q hq i t slot hi hmem hslot => ?_
  · rcases hfind.mp hi with ⟨rfl, rfl⟩ | ⟨-, hi⟩
    · obtain ⟨h₁, -, h₃, h₄⟩ := h.proper i team hteam
      exact ⟨⟨h₁, hp, h₃, h₄⟩, team, hteam, rfl, rfl, rfl, fun q => (and_iff_left not_false).symm⟩
    · exact ⟨h.proper i t hi, t, hi, rfl, rfl, rfl, fun q => (and_iff_left not_false).symm⟩
  · by_cases hne : i = id
    · exact ⟨team', hfind.mpr (.inl ⟨hne, rfl⟩)⟩
    · exact ⟨t, hfind.mpr (.inr ⟨hne, hi⟩)⟩
  · simp only [ArenaWorld.setCaptain, put, hid, OrdMap.find?_update, OrdMap.find?_set, h.teamRows]
    split_ifs with hi
    · rw [hteam]
      rfl
    · rfl
  · have hjoined := h.joined q hq i t slot hi hmem hslot
    have hpos := (h.numbered i t hi).2.1
    refine iff_of_false not_false fun hzero => ?_
    have hfield : s.arenaTeamId q slot = 0 := hzero
    omega

theorem clearFields_some (h : s.clearFields team p = some s') :
    s' = { s with arenaTeamId := s'.arenaTeamId } ∧ ∀ q slot, s'.arenaTeamId q slot =
      if q = p ∧ p ∈ s.inWorld ∧ team.slot = some slot then 0 else s.arenaTeamId q slot := by
  unfold clearFields at h
  split_ifs at h with honline
  · obtain ⟨slot₀, hslot₀, rfl⟩ := Option.map_eq_some_iff.mp h
    refine ⟨rfl, fun q slot => ?_⟩
    simp only [setArenaTeamId, hslot₀, Option.some.injEq, honline, true_and]
    by_cases hq : q = p
    · by_cases hs : slot₀ = slot
      · simp [hq, hs]
      · simp [hq, hs, Function.update_of_ne (Ne.symm hs)]
    · simp [hq]
  · cases h
    refine ⟨rfl, fun q slot => ?_⟩
    rw [if_neg (fun hcond => honline hcond.2.1)]

theorem mem_guids_eraseP (hnodup : team.guids.Nodup) {q : Nat} :
    q ∈ (team.members.eraseP fun m => decide (m.guid = p)).map ArenaTeamMember.guid ↔
      q ≠ p ∧ q ∈ team.guids := by
  have herase : (team.members.eraseP fun m => decide (m.guid = p)).map ArenaTeamMember.guid =
      team.guids.erase p := by
    unfold ArenaTeam.guids
    generalize team.members = members
    induction members with
    | nil => rfl
    | cons m members ih =>
      by_cases hm : m.guid = p
      · simp [hm]
      · simp [hm, ih]
  rw [herase, hnodup.mem_erase_iff]

theorem delMember_some (h : s.delMember team p true = some s') :
    ∃ ids, s' = { s.put team.teamId { team with
        members := team.members.eraseP fun m => decide (m.guid = p) } with
      arenaTeamId := ids
      memberRows := s.memberRows.filter (· ≠ (team.teamId, p)) } ∧ ∀ q slot, ids q slot =
        if q = p ∧ p ∈ s.inWorld ∧ team.slot = some slot then 0 else s.arenaTeamId q slot := by
  obtain ⟨s₁, h₁, rfl⟩ := Option.map_eq_some_iff.mp h
  obtain ⟨heq, hfields⟩ := clearFields_some h₁
  refine ⟨s₁.arenaTeamId, ?_, hfields⟩
  rw [heq]
  rfl

theorem delMember (h : Kept s) (hteam : s.store.find? id = some team) (hp : p ≠ team.captainGuid)
    (hpresent : s.Present p)
    (hmember : p ∈ team.guids ∨ p ∈ s.online ∧ ∀ slot, team.slot = some slot →
      s.arenaTeamId p slot = 0)
    (hrun : s.delMember team p true = some s') : Kept s' := by
  obtain ⟨hid, hpos, -⟩ := h.numbered id team hteam
  have hproper := h.proper id team hteam
  obtain ⟨ids, rfl, hids⟩ := delMember_some hrun
  simp only [h.inWorld_iff hpresent] at hids
  let team' : ArenaTeam := { team with
    members := team.members.eraseP fun m => decide (m.guid = p) }
  have hguids : ∀ {q}, q ∈ team'.guids ↔ q ≠ p ∧ q ∈ team.guids := mem_guids_eraseP hproper.nodup
  have hfind : ∀ {i t}, (s.store.set team.teamId team').find? i = some t ↔
      i = id ∧ t = team' ∨ i ≠ id ∧ s.store.find? i = some t := by
    rw [hid]
    exact OrdMap.find?_set_eq_some
  have hmembers : ∀ i t slot, s.store.find? i = some t → p ∈ s.online → p ∈ t.guids →
      t.slot = some slot → team.slot = some slot → i = id ∧ p ∈ team.guids := by
    intro i t slot hi honline hmem hslot hslot'
    rcases hmember with hmember | ⟨-, hzero⟩
    · exact ⟨h.one i t id team hi hteam (ArenaTeam.slotByType_inj hslot hslot') p hmem hmember,
        hmember⟩
    · have hjoined := h.joined p honline i t slot hi hmem hslot
      rw [hzero slot hslot'] at hjoined
      have hpos' := (h.numbered i t hi).2.1
      omega
  refine h.remove (fun i q => i = id ∧ q = p) rfl rfl rfl (fun i t' hi => ?_)
    (fun i t q hi hmem hgone => ?_) (fun r => ?_) (h.rowsNodup.filter _) (fun i => ?_)
    (fun q hq slot => ?_) fun q hq i t slot hi hmem hslot => ?_
  · rcases hfind.mp hi with ⟨rfl, rfl⟩ | ⟨hne, hi⟩
    · refine ⟨⟨hproper.slot, hguids.mpr ⟨hp.symm, hproper.captain⟩, ?_, ?_⟩, team, hteam, rfl, rfl,
        rfl, fun q => ?_⟩
      · exact (List.length_eraseP_le).trans hproper.size
      · exact (List.eraseP_sublist.map _).nodup hproper.nodup
      · rw [hguids]
        tauto
    · exact ⟨h.proper i t' hi, t', hi, rfl, rfl, rfl, fun q => by tauto⟩
  · by_cases hne : i = id
    · exact ⟨team', hfind.mpr (.inl ⟨hne, rfl⟩)⟩
    · exact ⟨t, hfind.mpr (.inr ⟨hne, hi⟩)⟩
  · simp only [List.mem_filter, decide_eq_true_eq, hid, ne_eq]
    rw [Prod.ext_iff]
  · simp only [put, hid, OrdMap.find?_set, h.teamRows]
    split_ifs with hi
    · rw [hi, hteam]
      rfl
    · rfl
  · simp only [hids]
    split_ifs
    · exact .inr rfl
    · exact .inl rfl
  · simp only [hids]
    have hjoined := h.joined q hq i t slot hi hmem hslot
    have hpos' := (h.numbered i t hi).2.1
    constructor
    · rintro ⟨rfl, rfl⟩
      rw [hteam] at hi
      cases hi
      rw [if_pos ⟨rfl, hq, hslot⟩]
    · intro hzero
      split_ifs at hzero with hcond
      · obtain ⟨rfl, -, hslot'⟩ := hcond
        exact ⟨(hmembers i t slot hi hq hmem hslot hslot').1, rfl⟩
      · omega

theorem clearFields_foldlM {guids : List Nat}
    (h : guids.foldlM (fun (s : ArenaWorld) guid => s.clearFields team guid) s = some s') :
    s' = { s with arenaTeamId := s'.arenaTeamId } ∧ ∀ q slot, s'.arenaTeamId q slot =
      if q ∈ guids ∧ q ∈ s.inWorld ∧ team.slot = some slot then 0 else s.arenaTeamId q slot := by
  induction guids generalizing s with
  | nil =>
    cases h
    exact ⟨rfl, fun q slot => by simp⟩
  | cons p guids ih =>
    obtain ⟨s₁, h₁, h₂⟩ := Option.bind_eq_some_iff.mp h
    obtain ⟨heq₁, hfields₁⟩ := clearFields_some h₁
    obtain ⟨heq₂, hfields₂⟩ := ih h₂
    have hworld : s₁.inWorld = s.inWorld := by rw [heq₁]
    refine ⟨by rw [heq₂, heq₁], fun q slot => ?_⟩
    rw [hfields₂, hfields₁, hworld]
    simp only [List.mem_cons]
    by_cases hq : q ∈ guids ∧ q ∈ s.inWorld ∧ team.slot = some slot
    · rw [if_pos hq, if_pos ⟨.inr hq.1, hq.2⟩]
    · rw [if_neg hq]
      by_cases hp : q = p ∧ q ∈ s.inWorld ∧ team.slot = some slot
      · rw [if_pos ⟨hp.1, hp.1 ▸ hp.2.1, hp.2.2⟩, if_pos ⟨.inl hp.1, hp.2⟩]
      · have hp' : ¬ (q = p ∧ p ∈ s.inWorld ∧ team.slot = some slot) := by
          rintro ⟨rfl, hc⟩
          exact hp ⟨rfl, hc⟩
        rw [if_neg hp', if_neg]
        rintro ⟨hc | hc, hc'⟩
        · exact hp ⟨hc, hc'⟩
        · exact hq ⟨hc, hc'⟩

theorem disband_some (h : s.disband team = some s') :
    ∃ ids, s' = { s with
      arenaTeamId := ids
      store := s.store.erase team.teamId
      teamRows := s.teamRows.erase team.teamId
      memberRows := s.memberRows.filter fun r => r.1 ≠ team.teamId } ∧ ∀ q slot, ids q slot =
        if q ∈ team.guids ∧ q ∈ s.inWorld ∧ team.slot = some slot then 0
        else s.arenaTeamId q slot := by
  obtain ⟨s₁, h₁, rfl⟩ := Option.map_eq_some_iff.mp h
  obtain ⟨heq, hfields⟩ := clearFields_foldlM h₁
  refine ⟨s₁.arenaTeamId, ?_, hfields⟩
  rw [heq]

theorem disband (h : Kept s) (hteam : s.store.find? id = some team)
    (hpresent : ∀ q ∈ team.guids, s.Present q) (hrun : s.disband team = some s') : Kept s' := by
  have hid := (h.numbered id team hteam).1
  obtain ⟨ids, rfl, hworld⟩ := disband_some hrun
  have hids : ∀ q slot, ids q slot =
      if q ∈ team.guids ∧ q ∈ s.online ∧ team.slot = some slot then 0 else s.arenaTeamId q slot := by
    intro q slot
    rw [hworld]
    refine if_congr (and_congr_right fun hq => ?_) rfl rfl
    rw [h.inWorld_iff (hpresent q hq)]
  have hfind : ∀ {i t}, (s.store.erase team.teamId).find? i = some t ↔
      i ≠ id ∧ s.store.find? i = some t := by
    intro i t
    rw [hid, OrdMap.find?_erase]
    split_ifs with hi <;> simp [hi]
  refine h.remove (fun i _ => i = id) rfl rfl rfl (fun i t' hi => ?_) (fun i t q hi _ hgone => ?_)
    (fun r => ?_) (h.rowsNodup.filter _) (fun i => ?_) (fun q hq slot => ?_)
    fun q hq i t slot hi hmem hslot => ?_
  · obtain ⟨hne, hi⟩ := hfind.mp hi
    exact ⟨h.proper i t' hi, t', hi, rfl, rfl, rfl, fun q => (and_iff_left hne).symm⟩
  · exact ⟨t, hfind.mpr ⟨hgone, hi⟩⟩
  · simp only [List.mem_filter, decide_eq_true_eq, hid, ne_eq]
  · simp only [hid, OrdMap.find?_erase, h.teamRows]
    split_ifs <;> rfl
  · simp only [hids]
    split_ifs
    · exact .inr rfl
    · exact .inl rfl
  · simp only [hids]
    have hjoined := h.joined q hq i t slot hi hmem hslot
    have hpos := (h.numbered i t hi).2.1
    constructor
    · rintro rfl
      rw [hteam] at hi
      cases hi
      rw [if_pos ⟨hmem, hq, hslot⟩]
    · intro hzero
      split_ifs at hzero with hcond
      · obtain ⟨hmem', -, hslot'⟩ := hcond
        exact h.one i t id team hi hteam (ArenaTeam.slotByType_inj hslot hslot') q hmem hmem'
      · omega

theorem foldl_loadArenaTeam (h : Kept s) {rows : List (Nat × Nat)}
    (hrows : ∀ r ∈ rows, r ∈ s.memberRows) (hid : id ≠ 0) :
    rows.foldl (s.loadArenaTeam p) (fun _ => 0) slot = id ↔
      (id, p) ∈ rows ∧ ∃ team, s.byId id = some team ∧ team.slot = some slot := by
  induction rows using List.reverseRecOn with
  | nil => simp [hid.symm]
  | append_singleton rows r ih =>
    have ih := ih fun r' hr' => hrows r' (List.mem_append_left _ hr')
    rw [List.foldl_append, List.foldl_cons, List.foldl_nil, loadArenaTeam, List.mem_append,
      List.mem_singleton]
    by_cases hp : r.2 = p
    swap
    · rw [if_pos hp, ih]
      refine and_congr_left fun _ => (or_iff_left ?_).symm
      rintro rfl
      exact hp rfl
    obtain ⟨i, q⟩ := r
    subst hp
    rw [if_neg (not_not.mpr rfl)]
    cases hslot : (s.byId i).bind ArenaTeam.slot with
    | none =>
      simp only [ih]
      constructor
      · exact fun ⟨hmem, hteam⟩ => ⟨.inl hmem, hteam⟩
      · rintro ⟨hmem | heq, team, hteam, hslot'⟩
        · exact ⟨hmem, team, hteam, hslot'⟩
        · cases heq
          simp [hteam, hslot'] at hslot
    | some slot' =>
      obtain ⟨team', hteam', hslot'⟩ := Option.bind_eq_some_iff.mp hslot
      by_cases hs : slot = slot'
      · subst hs
        simp only [Function.update_self]
        constructor
        · rintro rfl
          exact ⟨.inr rfl, team', hteam', hslot'⟩
        · rintro ⟨hmem, team, hteam, hslot⟩
          have hmem : (id, q) ∈ s.memberRows := by
            rcases hmem with hmem | heq
            · exact hrows _ (List.mem_append_left _ hmem)
            · exact hrows _ (List.mem_append_right _ (List.mem_singleton.mpr heq))
          have hmem' := hrows (i, q) (List.mem_append_right _ (List.mem_singleton_self _))
          obtain ⟨t, ht, hq⟩ := (h.rows id q).mp hmem
          obtain ⟨t', ht', hq'⟩ := (h.rows i q).mp hmem'
          cases ht.symm.trans hteam
          cases ht'.symm.trans hteam'
          exact (h.one id team i team' hteam hteam' (ArenaTeam.slotByType_inj hslot hslot') q hq
            hq').symm
      · simp only [Function.update_of_ne hs, ih]
        constructor
        · exact fun ⟨hmem, hteam⟩ => ⟨.inl hmem, hteam⟩
        · rintro ⟨hmem | heq, team, hteam, hslot⟩
          · exact ⟨hmem, team, hteam, hslot⟩
          · cases heq
            cases hteam.symm.trans hteam'
            rw [hslot'] at hslot
            cases hslot
            exact (hs rfl).elim

theorem loadArenaTeamInfo_eq (h : Kept s) (hid : id ≠ 0) :
    s.loadArenaTeamInfo p slot = id ↔
      ∃ team, s.store.find? id = some team ∧ p ∈ team.guids ∧ team.slot = some slot := by
  have hload : s.memberRows.foldl (s.loadArenaTeam p) (fun _ => 0) slot = id ↔
      (id, p) ∈ s.memberRows ∧ ∃ team, s.byId id = some team ∧ team.slot = some slot :=
    h.foldl_loadArenaTeam (fun _ hr => hr) hid
  unfold loadArenaTeamInfo
  constructor
  · intro heq
    split_ifs at heq
    · obtain ⟨hmem, team, hteam, hslot⟩ := hload.mp heq
      obtain ⟨t, ht, hp⟩ := (h.rows id p).mp hmem
      cases ht.symm.trans hteam
      exact ⟨team, hteam, hp, hslot⟩
    · exact absurd heq.symm hid
  · rintro ⟨team, hteam, hp, hslot⟩
    have heq := hload.mpr ⟨(h.rows id p).mpr ⟨team, hteam, hp⟩, team, hteam, hslot⟩
    simp only [heq]
    refine if_pos ?_
    have hby : s.byId id = some team := hteam
    simp [hby, ArenaTeam.isMember, hp]

theorem login (h : Kept s) : Kept (s.handleLogin p) := by
  refine ⟨Finset.insert_subset_insert p h.world, h.next, h.numbered, h.proper, h.one, h.names,
    fun q hq i t slot hi hmem hslot => ?_,
    fun q hq slot hne => ?_, h.rows, h.rowsNodup, h.teamRows⟩
  · by_cases hqp : q = p
    · simp only [handleLogin, hqp, Function.update_self]
      subst hqp
      exact (h.loadArenaTeamInfo_eq (h.numbered i t hi).2.1.ne').mpr ⟨t, hi, hmem, hslot⟩
    · simp only [handleLogin, Function.update_of_ne hqp]
      exact h.joined q ((Finset.mem_insert.mp hq).resolve_left hqp) i t slot hi hmem hslot
  · by_cases hqp : q = p
    · simp only [handleLogin, hqp, Function.update_self] at hne ⊢
      exact (h.loadArenaTeamInfo_eq hne).mp rfl
    · simp only [handleLogin, Function.update_of_ne hqp] at hne ⊢
      exact h.fields q ((Finset.mem_insert.mp hq).resolve_left hqp) slot hne

end Kept

end ArenaWorld

end SkyfireBG
