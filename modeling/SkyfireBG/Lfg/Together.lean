import SkyfireBG.Lfg.Compatibility

/-!
# SkyfireBG.Lfg.Together

When the players queued under a list of guids make a party, and that `CheckCompatibility` finds
this out.

* `checkAll_cases` — the results of the check after the remembered answers were of no help.
-/

namespace SkyfireBG

namespace OrdMap

variable {κ ν : Type} [LinearOrder κ] {m : OrdMap κ ν} {es es' : List (κ × ν)} {k : κ} {v : ν}

def setAll (m : OrdMap κ ν) (es : List (κ × ν)) : OrdMap κ ν :=
  es.foldl (fun m e => m.set e.1 e.2) m

theorem setAll_cons {e : κ × ν} : m.setAll (e :: es) = (m.set e.1 e.2).setAll es := rfl

theorem mem_of_mem_setAll (h : (m.setAll es).find? k = some v) :
    (k, v) ∈ es ∨ m.find? k = some v := by
  induction es generalizing m with
  | nil => exact .inr h
  | cons e es ih =>
    rw [setAll_cons] at h
    rcases ih h with hmem | hfound
    · exact .inl (List.mem_cons_of_mem _ hmem)
    · by_cases hk : k = e.1
      · subst hk
        rw [find?_set_same] at hfound
        rw [← Option.some.inj hfound]
        exact .inl List.mem_cons_self
      · rw [find?_set_ne hk] at hfound
        exact .inr hfound

theorem find?_setAll_isSome :
    ((m.setAll es).find? k).isSome = true ↔ k ∈ es.map Prod.fst ∨ (m.find? k).isSome = true := by
  induction es generalizing m with
  | nil => simp [setAll]
  | cons e es ih =>
    rw [setAll_cons, ih, List.map_cons, List.mem_cons]
    by_cases hk : k = e.1
    · subst hk
      simp
    · rw [find?_set_ne hk]
      simp [hk]

theorem mem_keys_setAll : k ∈ (setAll ∅ es).keys ↔ k ∈ es.map Prod.fst := by
  rw [mem_keys_iff]
  have h : ((setAll ∅ es).find? k).isSome = true ↔
      k ∈ es.map Prod.fst ∨ ((∅ : OrdMap κ ν).find? k).isSome = true := find?_setAll_isSome
  rw [find?_empty, Option.isSome_none] at h
  simp only [Bool.false_eq_true, or_false] at h
  rw [← h, Option.isSome_iff_exists]
  exact exists_congr fun v => find?_eq_some.symm

theorem size_setAll_eq_iff (hmem : ∀ e, e ∈ es ↔ e ∈ es') :
    (setAll ∅ es).size = es'.length ↔ (es'.map Prod.fst).Nodup := by
  have hset : (setAll ∅ es).keys.toFinset = (es'.map Prod.fst).toFinset := by
    ext k
    rw [List.mem_toFinset, List.mem_toFinset, mem_keys_setAll, List.mem_map, List.mem_map]
    exact exists_congr fun e => and_congr_left' (hmem e)
  rw [← length_keys, ← List.toFinset_card_of_nodup keys_nodup, hset, List.card_toFinset,
    ← show (es'.map Prod.fst).length = es'.length from List.length_map _]
  refine ⟨fun h => ?_, fun h => by rw [h.dedup]⟩
  exact List.dedup_eq_self.mp ((List.dedup_sublist _).eq_of_length h)

theorem setAll_perm (hmem : ∀ e, e ∈ es ↔ e ∈ es') (h : (es'.map Prod.fst).Nodup) :
    (setAll ∅ es).entries.Perm es' := by
  refine (List.perm_ext_iff_of_nodup keys_nodup.of_map h.of_map).mpr fun ⟨k, v⟩ => ?_
  have hto : ∀ v, (k, v) ∈ (setAll ∅ es).entries → (k, v) ∈ es' := fun v hv =>
    (hmem _).mp ((mem_of_mem_setAll (find?_eq_some.mpr hv)).resolve_right nofun)
  refine ⟨hto v, fun hv => ?_⟩
  have hkey : k ∈ es.map Prod.fst := List.mem_map_of_mem (f := Prod.fst) ((hmem (k, v)).mpr hv)
  obtain ⟨v', hv'⟩ := mem_keys_iff.mp (mem_keys_setAll.mpr hkey)
  have heq := List.inj_on_of_nodup_map h (hto v' hv') hv rfl
  exact (Prod.mk.inj heq).2 ▸ hv'

end OrdMap

namespace LfgQueue

variable (s : LfgQueue) (check : List Nat) (guid : Nat)

def rolesOf : List (Nat × BitVec 8) := ((s.queueInfo guid).map fun info => info.roles.entries).getD []

def dungeonsOf : Finset Nat := ((s.queueInfo guid).map LfgQueueInfo.dungeons).getD ∅

def rolesOfAll : List (Nat × BitVec 8) := check.flatMap s.rolesOf

def playersOf : List Nat := (s.rolesOfAll check).map Prod.fst

end LfgQueue

namespace LfgWorld

variable (w : LfgWorld) (s : LfgQueue) (check : List Nat)

def isUnlocked (d p : Nat) : Bool := (w.locked p).all fun entry => entry % 2 ^ 24 != d

def Common (d : Nat) : Prop :=
  (∀ guid ∈ check, d ∈ s.dungeonsOf guid) ∧ ∀ p ∈ s.playersOf check, w.isUnlocked d p = true

structure Together : Prop where
  queued : ∀ guid ∈ check, w.isQueued s guid = true
  oneGroup : check.countP w.isLfgGuid ≤ 1
  room : (s.playersOf check).length ≤ MAXGROUPSIZE
  once : (s.playersOf check).Nodup
  online : ∀ p ∈ s.playersOf check, (w.players p).isSome = true
  peaceful : (s.playersOf check).Pairwise fun p q => w.ignoring p q = false
  roles : RolesFit ((s.rolesOfAll check).map fun e => (e.1, e.2 &&& ~~~ROLE_LEADER))
  dungeon : ∃ d, Common w s check d

structure Matched : Prop extends Together w s check where
  full : (s.playersOf check).length = MAXGROUPSIZE

variable {w s check}

theorem rolesOfAll_sublist {check' : List Nat} (h : check'.Sublist check) :
    (s.rolesOfAll check').Sublist (s.rolesOfAll check) := by
  induction h with
  | slnil => exact .slnil
  | cons guid _ ih => exact ih.trans (List.sublist_append_right _ _)
  | cons_cons guid _ ih => exact ih.append_left _

theorem playersOf_sublist {check' : List Nat} (h : check'.Sublist check) :
    (s.playersOf check').Sublist (s.playersOf check) := (rolesOfAll_sublist h).map Prod.fst

theorem length_playersOf_cons (guid : Nat) : (s.playersOf (guid :: check)).length =
    (s.rolesOf guid).length + (s.playersOf check).length := by
  simp [LfgQueue.playersOf, LfgQueue.rolesOfAll]

theorem rolesOf_pos {guid : Nat} (h : w.isQueued s guid = true) : 0 < (s.rolesOf guid).length := by
  obtain ⟨info, hinfo⟩ := Option.isSome_iff_exists.mp (Bool.and_eq_true_iff.mp h).1
  rw [LfgQueue.rolesOf, hinfo]
  exact info.nonempty

theorem playersOf_pos (hne : check ≠ []) (hq : ∀ guid ∈ check, w.isQueued s guid = true) :
    0 < (s.playersOf check).length := by
  cases check with
  | nil => exact absurd rfl hne
  | cons guid check =>
    rw [length_playersOf_cons]
    exact Nat.add_pos_left (rolesOf_pos (hq guid List.mem_cons_self)) _

theorem Common.sublist {check' : List Nat} {d : Nat} (h : Common w s check d)
    (hsub : check'.Sublist check) : Common w s check' d :=
  ⟨fun guid hguid => h.1 guid (hsub.subset hguid),
    fun p hp => h.2 p ((playersOf_sublist hsub).subset hp)⟩

theorem Together.sublist {check' : List Nat} (h : Together w s check)
    (hsub : check'.Sublist check) : Together w s check' where
  queued guid hguid := h.queued guid (hsub.subset hguid)
  oneGroup := hsub.countP_le.trans h.oneGroup
  room := (playersOf_sublist hsub).length_le.trans h.room
  once := h.once.sublist (playersOf_sublist hsub)
  online p hp := h.online p ((playersOf_sublist hsub).subset hp)
  peaceful := h.peaceful.sublist (playersOf_sublist hsub)
  roles := h.roles.subperm ((rolesOfAll_sublist hsub).map _).subperm
  dungeon := h.dungeon.imp fun _ hd => hd.sublist hsub

def infosOf (s : LfgQueue) (check : List Nat) : List (Nat × LfgQueueInfo) :=
  check.filterMap fun guid => (s.queueInfo guid).map fun info => (guid, info)

theorem gather_cases (w : LfgWorld) (s : LfgQueue) (check : List Nat) (c : Gathered) :
    (∃ guid ∈ check, w.isQueued s guid = false ∧ w.gather s check c = .error guid) ∨
    (∃ c', w.gather s check c = .ok c' ∧ (∀ guid ∈ check, w.isQueued s guid = true) ∧
      c'.numPlayers = c.numPlayers + (s.playersOf check).length ∧
      c'.numLfgGroups = c.numLfgGroups + check.countP w.isLfgGuid ∧
      c'.pqInfoMap = c.pqInfoMap.setAll (infosOf s check)) ∨
    (∃ c', w.gather s check c = .ok c' ∧ check ≠ [] ∧
      (1 < c'.numLfgGroups ∨ MAXGROUPSIZE < c'.numPlayers) ∧
      (1 < c.numLfgGroups + check.countP w.isLfgGuid ∨
        MAXGROUPSIZE < c.numPlayers + (s.playersOf check).length) ∧
      ((1 < c.numLfgGroups ∨ MAXGROUPSIZE < c.numPlayers) ∨ 1 < check.length)) := by
  induction check generalizing c with
  | nil => exact .inr (.inl ⟨c, rfl, nofun, rfl, rfl, rfl⟩)
  | cons guid check ih =>
    by_cases hroom : c.numLfgGroups < 2 ∧ c.numPlayers ≤ MAXGROUPSIZE
    · cases hinfo : s.queueInfo guid with
      | none =>
        refine .inl ⟨guid, List.mem_cons_self, by simp [isQueued, hinfo], ?_⟩
        rw [gather, if_pos hroom, hinfo]
      | some info =>
        by_cases hstate : w.state guid = .QUEUED
        · have hstep : w.gather s (guid :: check) c = w.gather s check (w.gatherOne c guid info) := by
            rw [gather, if_pos hroom, hinfo]
            exact if_neg (not_not.mpr hstate)
          have hlen : (s.playersOf (guid :: check)).length =
              info.roles.size + (s.playersOf check).length := by
            rw [length_playersOf_cons, LfgQueue.rolesOf, hinfo]
            rfl
          have hcount : (guid :: check).countP w.isLfgGuid =
              check.countP w.isLfgGuid + if w.isLfgGuid guid then 1 else 0 := List.countP_cons
          rw [hstep, hlen, hcount]
          rcases ih (w.gatherOne c guid info) with ⟨bad, hmem, hbad, heq⟩ |
              ⟨c', heq, hall, hplayers, hgroups, hmap⟩ | ⟨c', heq, hne, hfull, htotal, -⟩
          · exact .inl ⟨bad, List.mem_cons_of_mem _ hmem, hbad, heq⟩
          · refine .inr (.inl ⟨c', heq, ?_, ?_, ?_, ?_⟩)
            · refine List.forall_mem_cons.mpr ⟨?_, hall⟩
              simp [isQueued, hinfo, hstate]
            · rw [hplayers, gatherOne, Nat.add_assoc]
            · rw [hgroups, gatherOne]
              dsimp only
              omega
            · rw [hmap, gatherOne, infosOf, infosOf, List.filterMap_cons_some (by rw [hinfo]; rfl)]
              rfl
          · refine .inr (.inr ⟨c', heq, List.cons_ne_nil _ _, hfull, ?_, .inr ?_⟩)
            · simp only [gatherOne] at htotal
              omega
            · have hpos := List.length_pos_iff.mpr hne
              rw [List.length_cons]
              omega
        · refine .inl ⟨guid, List.mem_cons_self, by simp [isQueued, hstate], ?_⟩
          rw [gather, if_pos hroom, hinfo]
          exact if_pos hstate
    · refine .inr (.inr ⟨c, by rw [gather, if_neg hroom], List.cons_ne_nil _ _, ?_, ?_, ?_⟩)
      all_goals omega

/-! ## What is checked -/

theorem mem_infosOf {guid : Nat} {info : LfgQueueInfo} :
    (guid, info) ∈ infosOf s check ↔ guid ∈ check ∧ s.queueInfo guid = some info := by
  simp only [infosOf, List.mem_filterMap, Option.map_eq_some_iff, Prod.mk.injEq]
  constructor
  · rintro ⟨guid, hguid, info, hinfo, rfl, rfl⟩
    exact ⟨hguid, hinfo⟩
  · rintro ⟨hguid, hinfo⟩
    exact ⟨guid, hguid, info, hinfo, rfl, rfl⟩

theorem mem_pqInfoMap {guid : Nat} {info : LfgQueueInfo} :
    (guid, info) ∈ (OrdMap.setAll ∅ (infosOf s check)).entries ↔
      guid ∈ check ∧ s.queueInfo guid = some info := by
  rw [← mem_infosOf]
  constructor
  · exact fun h => (OrdMap.mem_of_mem_setAll (OrdMap.find?_eq_some.mpr h)).resolve_right nofun
  · intro h
    have hkey : guid ∈ (infosOf s check).map Prod.fst := List.mem_map_of_mem (f := Prod.fst) h
    obtain ⟨info', hinfo'⟩ := OrdMap.mem_keys_iff.mp (OrdMap.mem_keys_setAll.mpr hkey)
    have hmem := (OrdMap.mem_of_mem_setAll (OrdMap.find?_eq_some.mpr hinfo')).resolve_right nofun
    have heq := (mem_infosOf.mp hmem).2.symm.trans (mem_infosOf.mp h).2
    exact Option.some.inj heq ▸ hinfo'

theorem mem_pqRoles (e : Nat × BitVec 8) :
    e ∈ (OrdMap.setAll ∅ (infosOf s check)).entries.flatMap (fun e => e.2.roles.entries) ↔
      e ∈ s.rolesOfAll check := by
  simp only [List.mem_flatMap, LfgQueue.rolesOfAll, LfgQueue.rolesOf]
  constructor
  · rintro ⟨⟨guid, info⟩, hmem, he⟩
    have hguid := mem_pqInfoMap.mp hmem
    refine ⟨guid, hguid.1, ?_⟩
    rw [hguid.2]
    exact he
  · rintro ⟨guid, hguid, he⟩
    cases hinfo : s.queueInfo guid with
    | none =>
      rw [hinfo] at he
      cases he
    | some info =>
      rw [hinfo] at he
      exact ⟨(guid, info), mem_pqInfoMap.mpr ⟨hguid, hinfo⟩, he⟩

theorem foldl_mergeOne_roles (dice : Nat → Nat) (es : List (Nat × BitVec 8)) (m : Merged) :
    (es.foldl (mergeOne dice) m).roles = m.roles.setAll es := by
  induction es generalizing m with
  | nil => rfl
  | cons e es ih =>
    have hone : (mergeOne dice m e).roles = m.roles.set e.1 e.2 := by
      unfold mergeOne
      dsimp only
      split_ifs <;> rfl
    rw [List.foldl_cons, ih, hone, OrdMap.setAll_cons]

def Welcome (w : LfgWorld) (players ps : List Nat) : Prop :=
  (∀ p ∈ ps, (w.players p).isSome = true ∧ ∀ q ∈ players, w.ignoring p q = false) ∧
    ps.Pairwise fun p q => w.ignoring p q = false

theorem ignoring_comm (w : LfgWorld) (p q : Nat) : w.ignoring p q = w.ignoring q p := Bool.or_comm ..

theorem welcome_cons {players ps : List Nat} {p : Nat} : Welcome w players (p :: ps) ↔
    ((w.players p).isSome = true ∧ ∀ q ∈ players, w.ignoring p q = false) ∧
      Welcome w (players ++ [p]) ps := by
  simp only [Welcome, List.forall_mem_cons, List.pairwise_cons, List.mem_append,
    List.mem_singleton]
  constructor
  · rintro ⟨⟨hp, hps⟩, hpq, hpair⟩
    refine ⟨hp, fun q hq => ⟨(hps q hq).1, ?_⟩, hpair⟩
    rintro q' (hq' | rfl)
    · exact (hps q hq).2 q' hq'
    · rw [ignoring_comm]
      exact hpq q hq
  · rintro ⟨hp, hps, hpair⟩
    refine ⟨⟨hp, fun q hq => ⟨(hps q hq).1, fun q' hq' => (hps q hq).2 q' (.inl hq')⟩⟩, ?_, hpair⟩
    intro q hq
    rw [ignoring_comm]
    exact (hps q hq).2 p (.inr rfl)

def addCandidate (w : LfgWorld) (players : List Nat) (p : Nat) : List Nat :=
  if (w.players p).isSome && !players.any (fun q => w.ignoring p q) then players ++ [p] else players

theorem foldl_addCandidate (w : LfgWorld) (players ps : List Nat) :
    (Welcome w players ps ∧ ps.foldl w.addCandidate players = players ++ ps) ∨
    (¬ Welcome w players ps ∧
      (ps.foldl w.addCandidate players).length < players.length + ps.length) := by
  induction ps generalizing players with
  | nil => exact .inl ⟨⟨nofun, .nil⟩, (List.append_nil _).symm⟩
  | cons p ps ih =>
    rw [List.foldl_cons, welcome_cons, List.length_cons]
    have hiff : ((w.players p).isSome && !players.any (fun q => w.ignoring p q)) = true ↔
        (w.players p).isSome = true ∧ ∀ q ∈ players, w.ignoring p q = false := by
      simp
    by_cases hp : (w.players p).isSome = true ∧ ∀ q ∈ players, w.ignoring p q = false
    · have hstep : w.addCandidate players p = players ++ [p] := if_pos (hiff.mpr hp)
      rw [hstep]
      rcases ih (players ++ [p]) with ⟨hall, heq⟩ | ⟨hnot, hlt⟩
      · refine .inl ⟨⟨hp, hall⟩, ?_⟩
        rw [heq, List.append_assoc, List.singleton_append]
      · refine .inr ⟨fun h => hnot h.2, ?_⟩
        rw [List.length_append, List.length_singleton] at hlt
        omega
    · have hstep : w.addCandidate players p = players := if_neg fun h => hp (hiff.mp h)
      rw [hstep]
      refine .inr ⟨fun h => hp h.1, ?_⟩
      rcases ih players with ⟨-, heq⟩ | ⟨-, hlt⟩
      · rw [heq, List.length_append]
        omega
      · omega

theorem candidates_cases (w : LfgWorld) (ps : List Nat) :
    (Welcome w [] ps ∧ w.candidates ps = ps) ∨
    (¬ Welcome w [] ps ∧ (w.candidates ps).length ≠ ps.length) := by
  rcases foldl_addCandidate w [] ps with ⟨hall, heq⟩ | ⟨hnot, hlt⟩
  · exact .inl ⟨hall, heq⟩
  · refine .inr ⟨hnot, Nat.ne_of_lt ?_⟩
    rw [List.length_nil, Nat.zero_add] at hlt
    exact hlt

theorem welcome_perm {ps ps' : List Nat} (h : ps.Perm ps') : Welcome w [] ps ↔
    (∀ p ∈ ps', (w.players p).isSome = true) ∧ ps'.Pairwise fun p q => w.ignoring p q = false := by
  have hsymm : ∀ {p q : Nat}, w.ignoring p q = false → w.ignoring q p = false :=
    fun {p q} hpq => (ignoring_comm w q p).trans hpq
  rw [Welcome, h.pairwise_iff hsymm]
  refine and_congr_left' ⟨fun hall p hp => (hall p (h.mem_iff.mpr hp)).1, fun hall p hp => ?_⟩
  exact ⟨hall p (h.mem_iff.mp hp), nofun⟩

theorem mem_getCompatibleDungeons {players : List Nat} {d : Nat} (hne : check ≠ [])
    (hq : ∀ guid ∈ check, w.isQueued s guid = true)
    (hp : ∀ p, p ∈ players ↔ p ∈ s.playersOf check) :
    d ∈ w.getCompatibleDungeons (commonDungeons (OrdMap.setAll ∅ (infosOf s check))) players ↔
      Common w s check d := by
  have hhas : ∀ guid ∈ check, ∃ info, s.queueInfo guid = some info := fun guid hguid =>
    Option.isSome_iff_exists.mp (Bool.and_eq_true_iff.mp (hq guid hguid)).1
  have hall : d ∈ commonDungeons (OrdMap.setAll ∅ (infosOf s check)) ↔
      ∀ e ∈ (OrdMap.setAll ∅ (infosOf s check)).entries, d ∈ e.2.dungeons := by
    obtain ⟨guid, hguid⟩ := List.exists_mem_of_ne_nil check hne
    obtain ⟨info, hinfo⟩ := hhas guid hguid
    have hmem := mem_pqInfoMap.mpr ⟨hguid, hinfo⟩
    unfold commonDungeons
    cases hes : (OrdMap.setAll ∅ (infosOf s check)).entries with
    | nil =>
      rw [hes] at hmem
      cases hmem
    | cons e es => simp
  rw [getCompatibleDungeons, Finset.mem_filter, hall, Common]
  refine and_congr ⟨fun h guid hguid => ?_, fun h => ?_⟩ ?_
  · obtain ⟨info, hinfo⟩ := hhas guid hguid
    rw [LfgQueue.dungeonsOf, hinfo]
    exact h _ (mem_pqInfoMap.mpr ⟨hguid, hinfo⟩)
  · rintro ⟨guid, info⟩ he
    obtain ⟨hguid, hinfo⟩ := mem_pqInfoMap.mp he
    have hd := h guid hguid
    rw [LfgQueue.dungeonsOf, hinfo] at hd
    exact hd
  · rw [List.all_eq_true]
    exact forall_congr' fun p => imp_congr_left (hp p)

theorem pickDungeon_lt (dice : Nat → Nat) {size : Nat} (n : Nat) {i : Nat} (used : Nat)
    (hi : i < size) : (pickDungeon dice size n i used).1 < size := by
  induction n generalizing i used with
  | zero => exact hi
  | succ n ih =>
    rw [pickDungeon]
    by_cases hmore : i < dice used % size
    · rw [if_pos hmore]
      have hlt := Nat.mod_lt (dice used) (Nat.zero_lt_of_lt hi)
      exact ih _ (by omega)
    · rw [if_neg hmore]
      exact hi

def Alone (s : LfgQueue) (check : List Nat) : Prop :=
  check.length = 1 ∧ (s.playersOf check).length ≠ MAXGROUPSIZE

structure Proposes (w : LfgWorld) (s : LfgQueue) (check : List Nat) (p : LfgProposal) : Prop where
  queues : p.queues = check
  matched : Matched w s check
  dungeon : Common w s check p.dungeonId
  players : (p.players.map LfgProposalPlayer.guid).Perm (s.playersOf check)

section

variable {dice : Nat → Nat} {pProposal : Option LfgProposal} {c : Gathered}

theorem checkGathered_cases (dice : Nat → Nat) (pProposal : Option LfgProposal) (hne : check ≠ [])
    (hq : ∀ guid ∈ check, w.isQueued s guid = true)
    (hplayers : c.numPlayers = (s.playersOf check).length)
    (hmap : c.pqInfoMap = OrdMap.setAll ∅ (infosOf s check))
    (hgroups : check.countP w.isLfgGuid ≤ 1) (hroom : (s.playersOf check).length ≤ MAXGROUPSIZE) :
    (¬ Together w s check ∧ ∃ u,
      w.checkGathered dice check pProposal s c = ⟨false, pProposal, { s with used := u }⟩ ∨
      w.checkGathered dice check pProposal s c =
        ⟨false, pProposal, { s.setCompatibles check false with used := u }⟩) ∨
    (Together w s check ∧ (s.playersOf check).length ≠ MAXGROUPSIZE ∧ ∃ u,
      w.checkGathered dice check pProposal s c =
        ⟨true, pProposal, { s.setCompatibles check true with used := u }⟩) ∨
    ∃ u p, Proposes w s check p ∧ w.checkGathered dice check pProposal s c =
      ⟨true, some p, { s.setCompatibles check true with used := u }⟩ := by
  have hroles : (mergeRoles dice c.pqInfoMap s.used).roles =
      OrdMap.setAll ∅ (c.pqInfoMap.entries.flatMap fun e => e.2.roles.entries) :=
    foldl_mergeOne_roles dice _ _
  have hmem : ∀ e, e ∈ c.pqInfoMap.entries.flatMap (fun e => e.2.roles.entries) ↔
      e ∈ s.rolesOfAll check := by
    rw [hmap]
    exact mem_pqRoles
  have hsize : (mergeRoles dice c.pqInfoMap s.used).roles.size = c.numPlayers ↔
      (s.playersOf check).Nodup := by
    rw [hroles, hplayers, LfgQueue.playersOf, List.length_map]
    exact OrdMap.size_setAll_eq_iff hmem
  unfold checkGathered
  dsimp only
  by_cases honce : (s.playersOf check).Nodup
  · rw [if_neg (not_not.mpr (hsize.mpr honce))]
    generalize mergeRoles dice c.pqInfoMap s.used = m at hroles hsize ⊢
    have hperm : m.roles.entries.Perm (s.rolesOfAll check) :=
      hroles ▸ OrdMap.setAll_perm hmem honce
    have hkeys : m.roles.keys.Perm (s.playersOf check) := hperm.map Prod.fst
    have hlen : m.roles.keys.length = c.numPlayers := hplayers ▸ hkeys.length_eq
    have hfit : (checkGroupRoles m.roles).isSome = true ↔ m.roles.size ≠ 0 ∧
        RolesFit ((s.rolesOfAll check).map fun e => (e.1, e.2 &&& ~~~ROLE_LEADER)) := by
      have hsmall : m.roles.size < 256 := by
        rw [← OrdMap.length_keys, hlen, hplayers]
        exact Nat.lt_of_le_of_lt hroom (by decide)
      have hvalues := hperm.map fun e => (e.1, e.2 &&& ~~~ROLE_LEADER)
      rw [checkGroupRoles_iff hsmall]
      exact and_congr_right' ⟨fun h => h.subperm hvalues.symm.subperm,
        fun h => h.subperm hvalues.subperm⟩
    rcases candidates_cases w m.roles.keys with ⟨hwelcome, heq⟩ | ⟨hnot, hshort⟩
    · rw [heq, if_pos hlen]
      have hfriends := (welcome_perm hkeys).mp hwelcome
      have hdungeon : ∀ d, d ∈ w.getCompatibleDungeons (commonDungeons c.pqInfoMap) m.roles.keys ↔
          Common w s check d := fun d => by
        rw [hmap]
        exact mem_getCompatibleDungeons hne hq fun p => hkeys.mem_iff
      cases hfound : checkGroupRoles m.roles with
      | none =>
        refine .inl ⟨fun h => ?_, m.used, .inr rfl⟩
        have hpos : m.roles.size ≠ 0 := by
          rw [← OrdMap.length_keys, hlen, hplayers]
          exact Nat.ne_of_gt (playersOf_pos hne hq)
        have hsome := hfit.mpr ⟨hpos, h.roles⟩
        rw [hfound] at hsome
        cases hsome
      | some roles =>
        have hrolesFit := (hfit.mp (by rw [hfound]; rfl)).2
        dsimp only
        generalize w.getCompatibleDungeons (commonDungeons c.pqInfoMap) m.roles.keys = dungeons
          at hdungeon ⊢
        by_cases hempty : dungeons = ∅
        · rw [if_pos hempty]
          refine .inl ⟨fun h => ?_, m.used, .inr rfl⟩
          obtain ⟨d, hd⟩ := h.dungeon
          have hin := (hdungeon d).mpr hd
          rw [hempty] at hin
          exact Finset.notMem_empty d hin
        · rw [if_neg hempty]
          obtain ⟨d, hd⟩ := Finset.nonempty_iff_ne_empty.mpr hempty
          have htogether : Together w s check :=
            ⟨hq, hgroups, hroom, honce, hfriends.1, hfriends.2, hrolesFit, d, (hdungeon d).mp hd⟩
          by_cases hfull : c.numPlayers = MAXGROUPSIZE
          · rw [if_neg (not_not.mpr hfull)]
            refine .inr (.inr ⟨_, _, ⟨rfl, ⟨htogether, hplayers ▸ hfull⟩, ?_, ?_⟩, rfl⟩)
            · refine (hdungeon _).mp (getD_ascending_mem ?_)
              exact pickDungeon_lt dice _ _ (Finset.card_pos.mpr ⟨d, hd⟩)
            · refine List.Perm.trans (List.Perm.of_eq ?_) hkeys
              simp [newProposal, proposalPlayer, Function.comp_def]
          · rw [if_pos hfull]
            exact .inr (.inl ⟨htogether, hplayers ▸ hfull, m.used, rfl⟩)
    · rw [if_neg (hlen ▸ hshort)]
      refine .inl ⟨fun h => ?_, m.used, .inr rfl⟩
      exact hnot ((welcome_perm hkeys).mpr ⟨h.online, h.peaceful⟩)
  · rw [if_pos fun h => honce (hsize.mp h)]
    exact .inl ⟨fun h => honce h.once, _, .inl rfl⟩

/-- The check after the remembered answers were of no help: somebody is not queued, the players
cannot play together, or they can and there is a proposal when nobody is lacking. -/
theorem checkAll_cases (dice : Nat → Nat) (hne : check ≠ []) (pProposal : Option LfgProposal) :
    (∃ guid ∈ check, w.isQueued s guid = false ∧
      w.checkAll dice check pProposal s = ⟨false, pProposal, s.removeFromQueue guid⟩) ∨
    (¬ Together w s check ∧ ¬ Alone s check ∧ ∃ u,
      w.checkAll dice check pProposal s = ⟨false, pProposal, { s with used := u }⟩ ∨
      w.checkAll dice check pProposal s =
        ⟨false, pProposal, { s.setCompatibles check false with used := u }⟩) ∨
    (Alone s check ∧ w.checkAll dice check pProposal s = ⟨true, pProposal, s⟩) ∨
    (Together w s check ∧ (s.playersOf check).length ≠ MAXGROUPSIZE ∧ ∃ u,
      w.checkAll dice check pProposal s =
        ⟨true, pProposal, { s.setCompatibles check true with used := u }⟩) ∨
    ∃ u p, Proposes w s check p ∧ w.checkAll dice check pProposal s =
      ⟨true, some p, { s.setCompatibles check true with used := u }⟩ := by
  unfold checkAll
  rcases gather_cases w s check {} with ⟨guid, hguid, hnot, heq⟩ |
      ⟨c, heq, hq, hplayers, hgroups, hmap⟩ | ⟨c, heq, -, hfull, htotal, hlong⟩
  · rw [heq]
    exact .inl ⟨guid, hguid, hnot, rfl⟩
  · rw [heq]
    dsimp only at hplayers hgroups hmap ⊢
    rw [Nat.zero_add] at hplayers hgroups
    by_cases halone : check.length = 1 ∧ c.numPlayers ≠ MAXGROUPSIZE
    · rw [if_pos halone]
      exact .inr (.inr (.inl ⟨⟨halone.1, hplayers ▸ halone.2⟩, rfl⟩))
    have hnot : ¬ Alone s check := fun h => halone ⟨h.1, hplayers ▸ h.2⟩
    rw [if_neg halone]
    by_cases hmany : c.numLfgGroups > 1 ∨ c.numPlayers > MAXGROUPSIZE
    · rw [if_pos hmany]
      refine .inr (.inl ⟨fun h => ?_, hnot, s.used, .inr rfl⟩)
      have hone := h.oneGroup
      have hroom := h.room
      omega
    · rw [if_neg hmany]
      rcases checkGathered_cases dice pProposal hne hq hplayers hmap
          (by omega) (by omega) with ⟨htog, hres⟩ | ⟨htog, hlack, hres⟩ | hres
      · exact .inr (.inl ⟨htog, hnot, hres⟩)
      · exact .inr (.inr (.inr (.inl ⟨htog, hlack, hres⟩)))
      · exact .inr (.inr (.inr (.inr hres)))
  · rw [heq]
    dsimp only at htotal hlong ⊢
    have hlen : check.length ≠ 1 := by omega
    rw [if_neg fun h => hlen h.1, if_pos hfull]
    refine .inr (.inl ⟨fun h => ?_, fun h => hlen h.1, s.used, .inr rfl⟩)
    have hone := h.oneGroup
    have hroom := h.room
    omega

end

end LfgWorld

end SkyfireBG
