import SkyfireBG.Arena.Kept

/-!
# SkyfireBG.Arena.Join

`AddMember` and `Create`: a player joins a team.

* `addMember_cases`, `create_cases` — what the two do.
* `Kept.addMember`, `Kept.create`, `Kept.addSignatures` — they keep the invariant.
-/

namespace SkyfireBG

namespace ArenaWorld

variable {s s' : ArenaWorld} {team team' : ArenaTeam} {id p type slot : Nat} {name : List Char}
variable {characters : Nat → Option (List Char)}

/-- `playerGuid` has become a member of `team`, which is then `team'`. -/
structure Joins (s : ArenaWorld) (team : ArenaTeam) (playerGuid : Nat) (s' : ArenaWorld)
    (team' : ArenaTeam) : Prop where
  room : team.members.length < team.type * 2
  free : playerGuid ∈ s.inWorld → ∀ slot, team.slot = some slot → s.arenaTeamId playerGuid slot = 0
  noRow : s.idFromDB playerGuid team.type = 0
  member : ∃ name, team' = { team with members := team.members ++ [⟨playerGuid, name⟩] }
  same : s' = { s with
    memberRows := s.memberRows ++ [(team.teamId, playerGuid)]
    arenaTeamId := s'.arenaTeamId
    invited := s'.invited }
  fields : ∀ q slot, s'.arenaTeamId q slot =
    if q = playerGuid ∧ playerGuid ∈ s.inWorld ∧ team.slot = some slot then team.teamId
    else s.arenaTeamId q slot
  invited : ∀ q, s'.invited q = s.invited q ∨ s'.invited q = 0

structure Quiet (s s' : ArenaWorld) : Prop where
  stays : ∀ id team q, s.store.find? id = some team → q ∈ team.guids →
    ∃ team', s'.store.find? id = some team' ∧ q ∈ team'.guids
  invited : ∀ q, s'.invited q = s.invited q ∨ s'.invited q = 0

namespace Quiet

theorem refl : Quiet s s := ⟨fun _ team _ hteam hq => ⟨team, hteam, hq⟩, fun _ => .inl rfl⟩

theorem trans {s'' : ArenaWorld} (h : Quiet s s') (h' : Quiet s' s'') : Quiet s s'' := by
  constructor
  · intro id team q hteam hq
    obtain ⟨team', hteam', hq'⟩ := h.stays id team q hteam hq
    exact h'.stays id team' q hteam' hq'
  · intro q
    rcases h'.invited q with heq | hzero
    · rw [heq]
      exact h.invited q
    · exact .inr hzero

theorem put (hstore : s'.store = s.store)
    (hteam : ∀ team q, s.store.find? id = some team → q ∈ team.guids → q ∈ team'.guids)
    (hinvited : ∀ q, s'.invited q = s.invited q ∨ s'.invited q = 0) :
    Quiet s (s'.put id team') := by
  refine ⟨fun i team q hi hq => ?_, hinvited⟩
  simp only [ArenaWorld.put, hstore, OrdMap.find?_set]
  split_ifs with h
  · rw [h] at hi
    exact ⟨team', rfl, hteam team q hi hq⟩
  · exact ⟨team, hi, hq⟩

end Quiet

theorem setInArenaTeam_eq : s.setInArenaTeam team p =
    { s with
      arenaTeamId := (s.setInArenaTeam team p).arenaTeamId
      invited := (s.setInArenaTeam team p).invited } := by
  unfold setInArenaTeam
  split_ifs
  · cases team.slot <;> rfl
  · rfl

theorem setInArenaTeam_fields {q : Nat} : (s.setInArenaTeam team p).arenaTeamId q slot =
    if q = p ∧ p ∈ s.inWorld ∧ team.slot = some slot then team.teamId else s.arenaTeamId q slot := by
  unfold setInArenaTeam
  by_cases honline : p ∈ s.inWorld
  · cases hslot : team.slot with
    | none => simp [honline]
    | some slot₀ =>
      by_cases hq : q = p
      · by_cases hs : slot = slot₀
        · simp [honline, setArenaTeamId, hq, hs]
        · simp [honline, setArenaTeamId, hq, Function.update_of_ne hs, Ne.symm hs]
      · simp [honline, setArenaTeamId, hq]
  · simp [honline]

theorem setInArenaTeam_invited {q : Nat} : (s.setInArenaTeam team p).invited q = s.invited q ∨
    (s.setInArenaTeam team p).invited q = 0 := by
  unfold setInArenaTeam
  split_ifs
  · have hinv : ∀ slot : Option Nat, (slot.elim { s with invited := Function.update s.invited p 0 }
        fun slot => ArenaWorld.setArenaTeamId { s with invited := Function.update s.invited p 0 } p
          slot team.teamId).invited = Function.update s.invited p 0 := by
      intro slot
      cases slot <;> rfl
    rw [hinv]
    by_cases hq : q = p
    · simp [hq]
    · simp [hq]
  · exact .inl rfl

theorem addMember_cases {ok : Bool}
    (h : s.addMember characters team p = some (s', team', ok)) :
    (s' = s ∧ team' = team ∧ (team.type * 2 ≤ team.members.length ∨ p ∉ s.inWorld ∨
      (∃ slot, team.slot = some slot ∧ s.arenaTeamId p slot ≠ 0) ∨
      s.idFromDB p team.type ≠ 0)) ∨ Joins s team p s' team' := by
  unfold addMember at h
  split_ifs at h with hfull hchar
  · cases h
    exact .inl ⟨rfl, rfl, .inl hfull⟩
  · cases h
    exact .inl ⟨rfl, rfl, .inr (.inl hchar.1)⟩
  obtain ⟨hasTeam, hhas, hrest⟩ := Option.map_eq_some_iff.mp h
  have hslot : p ∈ s.inWorld → ∀ slot, team.slot = some slot →
      (hasTeam = true ↔ s.arenaTeamId p slot ≠ 0) := by
    intro honline slot hslot
    simp only [ArenaWorld.hasTeam, honline, if_true, hslot, Option.map_some,
      Option.some.injEq] at hhas
    rw [← hhas, decide_eq_true_eq]
  split_ifs at hrest with hother
  · cases hrest
    refine .inl ⟨rfl, rfl, ?_⟩
    rcases hother with hother | hother
    · by_cases honline : p ∈ s.inWorld
      · simp only [ArenaWorld.hasTeam, honline, if_true] at hhas
        obtain ⟨slot, hs, -⟩ := Option.map_eq_some_iff.mp hhas
        exact .inr (.inr (.inl ⟨slot, hs, (hslot honline slot hs).mp hother⟩))
      · exact .inr (.inl honline)
    · exact .inr (.inr (.inr hother))
  · cases hrest
    obtain ⟨hno, hrow⟩ := not_or.mp hother
    refine .inr ⟨not_le.mp hfull, fun honline slot hs => ?_, not_not.mp hrow, ⟨_, rfl⟩,
      setInArenaTeam_eq, fun q slot => setInArenaTeam_fields, fun q => setInArenaTeam_invited⟩
    exact not_not.mp fun hne => hno ((hslot honline slot hs).mpr hne)

theorem addMember_present {ok : Bool} {q : Nat}
    (h : s.addMember characters team p = some (s', team', ok)) : s'.Present q ↔ s.Present q := by
  rcases addMember_cases h with ⟨rfl, -, -⟩ | hjoins
  · rfl
  · rw [hjoins.same]
    rfl

/-- The team that `Create` makes, before the captain is added. -/
def newTeam (s : ArenaWorld) (captainGuid type : Nat) (teamName : List Char) : ArenaTeam :=
  { teamId := s.nextArenaTeamId
    captainGuid := captainGuid
    type := type % 256
    teamName := teamName }

def withRow (s : ArenaWorld) (team : ArenaTeam) : ArenaWorld :=
  { s with
    nextArenaTeamId := s.nextArenaTeamId + 1
    teamRows := s.teamRows.set team.teamId team.row }

theorem create_cases {result : Option ArenaTeam}
    (h : s.create characters p type name = some (s', result)) :
    s' = s ∧ result = none ∨ s.byName [] = none ∧ p ∈ s.inWorld ∧ ∃ team' ok, result = some team' ∧
      (s.withRow (s.newTeam p type name)).addMember characters (s.newTeam p type name) p =
        some (s', team', ok) := by
  unfold create at h
  split at h
  · cases h
    exact .inl ⟨rfl, rfl⟩
  rename_i honline
  split at h
  · cases h
    exact .inl ⟨rfl, rfl⟩
  rename_i hname
  obtain ⟨⟨s₁, team₁, ok⟩, hadd, hres⟩ := Option.map_eq_some_iff.mp h
  cases hres
  exact .inr ⟨Option.not_isSome_iff_eq_none.mp hname, not_not.mp honline, team₁, ok, rfl, hadd⟩

namespace Kept

theorem put_self (h : Kept s) (hteam : s.store.find? id = some team) : Kept (s.put id team) := by
  have hfind : ∀ i, (s.store.set id team).find? i = s.store.find? i := by
    intro i
    rw [OrdMap.find?_set]
    split_ifs with hi
    · rw [hi, hteam]
    · rfl
  constructor
  · exact h.world
  · exact h.next
  · simpa only [put, hfind] using h.numbered
  · simpa only [put, hfind] using h.proper
  · simpa only [put, hfind] using h.one
  · simpa only [put, hfind] using h.names
  · simpa only [put, hfind] using h.joined
  · simpa only [put, hfind] using h.fields
  · simpa only [put, hfind] using h.rows
  · exact h.rowsNodup
  · simpa only [put, hfind] using h.teamRows

theorem addMember {ok : Bool} (h : Kept s) (hpresent : s.Present p)
    (hteam : s.store.find? id = some team)
    (hrun : s.addMember characters team p = some (s', team', ok)) :
    Kept (s'.put id team') ∧ Quiet s (s'.put id team') := by
  obtain ⟨hid, hpos, hlt⟩ := h.numbered id team hteam
  have hproper := h.proper id team hteam
  rcases addMember_cases hrun with
    ⟨rfl, rfl, -⟩ | ⟨hroom, hfree, hrow, ⟨name, rfl⟩, hsame, hfields, hinvited⟩
  · refine ⟨h.put_self hteam, Quiet.put rfl (fun t q ht hq => ?_) fun _ => .inl rfl⟩
    cases hteam.symm.trans ht
    exact hq
  have hno : ∀ i t, s.store.find? i = some t → t.type = team.type → p ∉ t.guids := by
    intro i t hi htype hmem
    refine (idFromDB_eq_zero h.ids_pos).mp hrow i t.row ((h.rows i p).mpr ⟨t, hi, hmem⟩) ?_ htype
    rw [h.teamRows, hi]
    rfl
  have hstore : s'.store = s.store := by rw [hsame]
  have hnext : s'.nextArenaTeamId = s.nextArenaTeamId := by rw [hsame]
  let joined : ArenaTeam := { team with members := team.members ++ [⟨p, name⟩] }
  have hguids : joined.guids = team.guids ++ [p] := by simp [joined, ArenaTeam.guids]
  have hjoined : joined.teamId = id := hid
  refine ⟨?_, Quiet.put hstore (fun t q ht hq => ?_) hinvited⟩
  swap
  · cases hteam.symm.trans ht
    exact hguids ▸ List.mem_append_left _ hq
  refine h.join hpresent team.guids hjoined hpos ?_ ?_ ?_ ?_ ?_ ⟨hproper.slot, ?_, ?_, ?_⟩ ?_ ?_ ?_
    hno ?_ ?_ ?_ ?_
  · simp only [put, hstore, joined]
  · rw [put, hsame]
  · rw [put, hsame]
  · exact hnext.ge
  · rw [put, hnext]
    exact hlt
  · rw [hguids]
    exact List.mem_append_left _ hproper.captain
  · simpa [joined, Nat.succ_le_iff] using hroom
  · rw [hguids]
    refine List.Nodup.append hproper.nodup (List.nodup_singleton _) ?_
    intro q hq hq'
    rw [List.mem_singleton.mp hq'] at hq
    exact hno id team hteam rfl hq
  · exact hguids
  · intro q
    constructor
    · exact fun hq => ⟨team, hteam, hq⟩
    · rintro ⟨t, ht, hq⟩
      cases hteam.symm.trans ht
      exact hq
  · intro t ht
    cases hteam.symm.trans ht
    rfl
  · exact fun i t hi htn => h.names i t id team hi hteam htn
  · rw [put, hsame, hid]
  · intro i
    rw [put, hsame]
    simp only [h.teamRows]
    split_ifs with hi
    · rw [hi, hteam]
      rfl
    · rfl
  · intro q slot
    simp only [put, hfields, hid]
    rfl

theorem idFromDB_withRow (h : Kept s) (hno : ∀ i t, s.store.find? i = some t → t.type = type →
    p ∉ t.guids) (hid : team.teamId = s.nextArenaTeamId) :
    (s.withRow team).idFromDB p type = 0 := by
  refine (idFromDB_eq_zero (s := s.withRow team) h.ids_pos).mpr fun i row hmem hrow => ?_
  obtain ⟨t, hi, hp⟩ := (h.rows i p).mp hmem
  have hlt := (h.numbered i t hi).2.2
  have hne : i ≠ team.teamId := by omega
  simp only [withRow, OrdMap.find?_set_ne hne, h.teamRows, hi, Option.map_some,
    Option.some.injEq] at hrow
  subst hrow
  exact fun htype => hno i t hi htype hp

theorem create (h : Kept s) (hslot : ArenaTeam.slotByType (type % 256) = some slot)
    (hzero : s.arenaTeamId p slot = 0) (hname : s.byName name = none)
    (hrun : s.create characters p type name = some (s', some team')) :
    Kept (s'.put team'.teamId team') ∧ Quiet s (s'.put team'.teamId team') := by
  obtain ⟨-, hnone⟩ | ⟨-, honline, team'', ok, heq, hadd⟩ := create_cases hrun
  · cases hnone
  cases heq
  let team := s.newTeam p type name
  have hlt : ∀ {i t}, s.store.find? i = some t → i < s.nextArenaTeamId :=
    fun hi => (h.numbered _ _ hi).2.2
  have hnostore : s.store.find? s.nextArenaTeamId = none := by
    cases hfind : s.store.find? s.nextArenaTeamId with
    | none => rfl
    | some t => exact absurd (hlt hfind) (lt_irrefl _)
  have hno : ∀ i t, s.store.find? i = some t → t.type = type % 256 → p ∉ t.guids := by
    intro i t hi htype hmem
    have hjoined := h.joined p (h.world honline) i t slot hi hmem
      (by rw [ArenaTeam.slot, htype, hslot])
    have hpos := (h.numbered i t hi).2.1
    omega
  -- nothing keeps the captain from joining
  have hjoins : Joins (s.withRow team) team p s' team' := by
    rcases addMember_cases hadd with ⟨-, -, hwhy⟩ | hjoins
    swap
    · exact hjoins
    exfalso
    rcases hwhy with hfull | hoff | ⟨slot', hslot', hne⟩ | hrow
    · have htype : type % 256 = 0 := by
        simp only [newTeam, List.length_nil] at hfull
        omega
      rw [htype] at hslot
      simp [ArenaTeam.slotByType, ARENA_TEAM_2v2, ARENA_TEAM_3v3, ARENA_TEAM_5v5] at hslot
    · exact hoff honline
    · have heq : slot = slot' := Option.some.inj (hslot.symm.trans hslot')
      rw [← heq] at hne
      exact hne hzero
    · exact hrow (h.idFromDB_withRow hno rfl)
  obtain ⟨hroom, -, -, ⟨playerName, rfl⟩, hsame, hfields, hinvited⟩ := hjoins
  let founded : ArenaTeam := { team with members := team.members ++ [⟨p, playerName⟩] }
  have hguids : founded.guids = [] ++ [p] := rfl
  have hfounded : founded.teamId = s.nextArenaTeamId := rfl
  have hstore : s'.store = s.store := by rw [hsame]; rfl
  have hnext : s'.nextArenaTeamId = s.nextArenaTeamId + 1 := by rw [hsame]; rfl
  refine ⟨?_, Quiet.put hstore (fun t q ht _ => ?_) hinvited⟩
  swap
  · exact absurd (hlt ht) (lt_irrefl _)
  refine h.join (p := p) (fun _ => honline) [] hfounded (h.next) ?_ ?_ ?_ ?_ ?_ ⟨?_, ?_, ?_, ?_⟩ hguids ?_ ?_
    hno ?_ ?_ ?_ ?_
  · simp only [put, hstore]
    rfl
  · rw [put, hsame]
    rfl
  · rw [put, hsame]
    rfl
  · rw [put, hnext]
    exact Nat.le_succ _
  · rw [put, hnext]
    exact Nat.lt_succ_self _
  · exact fun hnone => Option.some_ne_none slot (hslot.symm.trans hnone)
  · exact List.mem_singleton_self p
  · exact Nat.succ_le_of_lt hroom
  · exact List.nodup_singleton p
  · intro q
    simp [hnostore]
  · intro t ht
    rw [hnostore] at ht
    cases ht
  · intro i t hi htn
    unfold byName at hname
    have hnofind := List.find?_eq_none.mp (Option.map_eq_none_iff.mp hname) (i, t)
      (OrdMap.find?_eq_some.mp hi)
    rw [decide_eq_true_eq] at hnofind
    exact absurd htn hnofind
  · rw [put, hsame]
    rfl
  · intro i
    rw [put, hsame]
    simp only [withRow, OrdMap.find?_set]
    rfl
  · intro q slot
    simp only [put, hfields]
    rfl

theorem addSignatures {signatures : List Nat} (h : Kept s)
    (hpresent : ∀ guid ∈ signatures, s.Present guid)
    (hrun : addSignatures characters id signatures s = some s') : Kept s' ∧ Quiet s s' := by
  induction signatures generalizing s with
  | nil =>
    cases hrun
    exact ⟨h, .refl⟩
  | cons guid signatures ih =>
    rw [ArenaWorld.addSignatures] at hrun
    split at hrun
    · cases hrun
      exact ⟨h, .refl⟩
    rename_i team hteam
    obtain ⟨⟨s₁, team₁, ok⟩, hadd, hrest⟩ := Option.bind_eq_some_iff.mp hrun
    obtain ⟨hkept, hquiet⟩ := h.addMember (hpresent guid List.mem_cons_self) hteam hadd
    have hpresent' : ∀ guid ∈ signatures, (s₁.put id team₁).Present guid :=
      fun guid hguid => (addMember_present hadd).mpr (hpresent guid (.tail _ hguid))
    obtain ⟨hkept', hquiet'⟩ := ih hkept hpresent' hrest
    exact ⟨hkept', hquiet.trans hquiet'⟩

end Kept

end ArenaWorld

end SkyfireBG
