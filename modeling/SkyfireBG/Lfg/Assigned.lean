import SkyfireBG.Lfg.Roles

/-!
# SkyfireBG.Lfg.Assigned

`CheckGroupRoles` on the map that it is given: a role is taken from a player in place, and put back
when that did not help.

* `LFGMgr.checkRoles_eq`           — what the search that copies the map says of the one in place.
* `checkGroupRoles_assigned`       — when there are roles for all they are left in the map, and when
  there are none the map is as before.
-/

namespace SkyfireBG

namespace OrdMap

variable {κ ν : Type} [LinearOrder κ] {m : OrdMap κ ν} {k : κ} {v w : ν}

theorem setList_setList {l : List (κ × ν)} (h : l.Pairwise (fun a b => a.1 < b.1))
    (hf : findList k l = some w) : setList k w (setList k v l) = l := by
  induction l with
  | nil => cases hf
  | cons x r ih =>
    obtain ⟨a, b⟩ := x
    have hr := List.pairwise_cons.mp h
    simp only [findList] at hf
    split at hf
    · rename_i hx
      subst hx
      cases hf
      simp [setList]
    · rename_i hx
      have hlt : a < k := hr.1 _ ((findList_eq_some hr.2).mp hf)
      simp [setList, not_lt.mpr hlt.le, hx, ih hr.2 hf]

theorem set_set_of_some (hf : m.find? k = some w) : (m.set k v).set k w = m := by
  obtain ⟨l, hl⟩ := m
  simp only [set, mk.injEq]
  exact setList_setList hl hf

end OrdMap

namespace LFGMgr

/-- One of the blocks of `CheckGroupRoles`, for the player `p`.  The left result is returned. -/
def tryRole (rec : LfgRolesMap → Bool × LfgRolesMap) (p : Nat) (role : LfgRole)
    (groles : LfgRolesMap) (n : LfgRole → Nat) :
    (Bool × LfgRolesMap) ⊕ (LfgRolesMap × (LfgRole → Nat)) :=
  let r := (groles.find? p).getD ROLE_NONE
  if r &&& role.bit ≠ 0 then
    if r ≠ role.bit then
      match rec (groles.set p (r - role.bit)) with
      | (true, found) => .inl (true, found)
      | (false, left) => .inr (left.set p ((left.find? p).getD ROLE_NONE + role.bit), n)
    else if n role = role.needed then .inl (false, groles)
    else .inr (groles, Function.update n role (n role + 1))
  else .inr (groles, n)

/-- The loop over the players; `n` are those counted. -/
def checkLoop (rec : LfgRolesMap → Bool × LfgRolesMap) :
    List Nat → LfgRolesMap → (LfgRole → Nat) → Bool × LfgRolesMap
  | [], groles, n => (decide (n .tank + n .healer + n .damage = groles.size % 256), groles)
  | p :: ps, groles, n =>
    if (groles.find? p).getD ROLE_NONE = ROLE_NONE then (false, groles)
    else
      match tryRole rec p .tank groles n with
      | .inl result => result
      | .inr (groles, n) =>
        match tryRole rec p .healer groles n with
        | .inl result => result
        | .inr (groles, n) =>
          match tryRole rec p .damage groles n with
          | .inl result => result
          | .inr (groles, n) => checkLoop rec ps groles n

/-- `CheckGroupRoles` without the flag of the leader. -/
def checkRoles : Nat → LfgRolesMap → Bool × LfgRolesMap
  | 0, groles => (false, groles)
  | fuel + 1, groles =>
    if groles.size = 0 then (false, groles)
    else checkLoop (checkRoles fuel) groles.keys groles fun _ => 0

def removeLeaderFlag (groles : LfgRolesMap) : LfgRolesMap :=
  groles.mapValues fun r => r &&& ~~~ROLE_LEADER

/-- `CheckGroupRoles`: whether there are roles for all, and the map as it is left. -/
def checkGroupRoles (groles : LfgRolesMap) : Bool × LfgRolesMap :=
  if groles.size = 0 then (false, groles)
  else checkRoles ((removeLeaderFlag groles).sum roleBits + 1) (removeLeaderFlag groles)

variable {rec : LfgRolesMap → Bool × LfgRolesMap}
variable {copying : LfgRolesMap → Option LfgRolesMap}
variable {m found : LfgRolesMap} {p fuel fuel' : Nat} {r : BitVec 8} {role : LfgRole}
variable {n : LfgRole → Nat} {es : List (Nat × BitVec 8)}

def outcome (result : Option LfgRolesMap) (m : LfgRolesMap) : Bool × LfgRolesMap :=
  result.elim (false, m) fun found => (true, found)

theorem tryRole_eq (hrec : ∀ m, rec m = outcome (copying m) m) (hp : m.find? p = some r) :
    tryRole rec p role m n =
      (SkyfireBG.tryRole copying m p r role n).map (outcome · m) fun n => (m, n) := by
  unfold tryRole SkyfireBG.tryRole
  dsimp only
  rw [hp, Option.getD_some]
  by_cases hhas : r &&& role.bit ≠ 0
  · rw [if_pos hhas, if_pos hhas]
    by_cases hmore : r ≠ role.bit
    · rw [if_pos hmore, if_pos hmore, hrec]
      cases copying (m.set p (r - role.bit)) with
      | some found => rfl
      | none =>
        simp only [outcome, Option.elim_none, OrdMap.find?_set_same, Option.getD_some,
          BitVec.sub_add_cancel, OrdMap.set_set_of_some hp]
        rfl
    · rw [if_neg hmore, if_neg hmore]
      by_cases hfull : n role = role.needed
      · rw [if_pos hfull, if_pos hfull]
        rfl
      · rw [if_neg hfull, if_neg hfull]
        rfl
  · rw [if_neg hhas, if_neg hhas]
    rfl

theorem checkLoop_eq (hrec : ∀ m, rec m = outcome (copying m) m) (hes : ∀ e ∈ es, e ∈ m.entries) :
    checkLoop rec (es.map Prod.fst) m n = outcome (SkyfireBG.checkLoop copying m es n) m := by
  induction es generalizing n with
  | nil =>
    rw [List.map_nil, checkLoop, SkyfireBG.checkLoop]
    by_cases hall : n .tank + n .healer + n .damage = m.size % 256
    · rw [decide_eq_true hall, if_pos hall]
      rfl
    · rw [decide_eq_false hall, if_neg hall]
      rfl
  | cons e es ih =>
    obtain ⟨p, r⟩ := e
    have hp : m.find? p = some r := OrdMap.find?_eq_some.mpr (hes _ (.head _))
    have hrest : ∀ n, checkLoop rec (es.map Prod.fst) m n =
        outcome (SkyfireBG.checkLoop copying m es n) m :=
      fun n => ih (fun e he => hes e (.tail _ he))
    rw [List.map_cons, checkLoop, SkyfireBG.checkLoop, hp, Option.getD_some]
    by_cases hnone : r = ROLE_NONE
    · rw [if_pos hnone, if_pos hnone]
      rfl
    rw [if_neg hnone, if_neg hnone, tryRole_eq hrec hp]
    cases SkyfireBG.tryRole copying m p r .tank n with
    | inl result => rfl
    | inr n =>
      simp only [Sum.map_inr, tryRole_eq hrec hp]
      cases SkyfireBG.tryRole copying m p r .healer n with
      | inl result => rfl
      | inr n =>
        simp only [Sum.map_inr, tryRole_eq hrec hp]
        cases SkyfireBG.tryRole copying m p r .damage n with
        | inl result => rfl
        | inr n => exact hrest n

theorem checkRoles_eq : checkRoles fuel m = outcome (SkyfireBG.checkRoles fuel m) m := by
  induction fuel generalizing m with
  | zero => rfl
  | succ fuel ih =>
    rw [checkRoles, SkyfireBG.checkRoles]
    by_cases hzero : m.size = 0
    · rw [if_pos hzero, if_pos hzero]
      rfl
    · rw [if_neg hzero, if_neg hzero]
      exact checkLoop_eq (fun m => ih) fun e he => he

end LFGMgr

/-- The roles found: one for each player, of his own, and none more often than it is needed. -/
structure Assigned (m found : LfgRolesMap) : Prop where
  keys : found.keys = m.keys
  single : ∀ p r, found.find? p = some r → ∃ role : LfgRole, r = role.bit ∧
    ∃ selected, m.find? p = some selected ∧ selected &&& role.bit ≠ 0
  needed : ∀ role : LfgRole, found.countP (fun r => r = role.bit) ≤ role.needed

section

variable {copying : LfgRolesMap → Option LfgRolesMap}
variable {m found : LfgRolesMap} {p fuel fuel' : Nat} {r : BitVec 8} {role : LfgRole}
variable {n : LfgRole → Nat} {es : List (Nat × BitVec 8)}

theorem bit_of_sub : ∀ (r : BitVec 8) (role role' : LfgRole), r &&& role.bit ≠ 0 →
    (r - role.bit) &&& role'.bit ≠ 0 → r &&& role'.bit ≠ 0 := by decide +kernel

theorem Assigned.of_set (hp : m.find? p = some r) (hhas : r &&& role.bit ≠ 0)
    (h : Assigned (m.set p (r - role.bit)) found) : Assigned m found := by
  refine ⟨h.keys.trans (OrdMap.keys_set_of_some hp), fun p' r' hr' => ?_, h.needed⟩
  obtain ⟨role', hbit, selected, hselected, hin⟩ := h.single p' r' hr'
  refine ⟨role', hbit, ?_⟩
  rw [OrdMap.find?_set] at hselected
  by_cases heq : p' = p
  · rw [if_pos heq] at hselected
    cases hselected
    exact ⟨r, heq ▸ hp, bit_of_sub r role role' hhas hin⟩
  · rw [if_neg heq] at hselected
    exact ⟨selected, hselected, hin⟩

theorem countedOf_le (h : ∀ role, countedOf es role ≤ role.needed) :
    countedOf es .tank + countedOf es .healer + countedOf es .damage ≤ 5 := by
  have htank := h .tank
  have hhealer := h .healer
  have hdamage := h .damage
  simp only [LfgRole.needed] at htank hhealer hdamage
  omega

def Countable (m : LfgRolesMap) : Prop := m.size < 256 ∨ 5 < m.size % 256

theorem checkLoop_assigned (pre : List (Nat × BitVec 8)) (hsize : Countable m)
    (hrec : ∀ p r role found, m.find? p = some r → r &&& LfgRole.bit role ≠ 0 →
      copying (m.set p (r - role.bit)) = some found → Assigned (m.set p (r - role.bit)) found)
    (hsplit : m.entries = pre ++ es) (hn : ∀ role, n role = countedOf pre role)
    (hle : ∀ role, countedOf pre role ≤ role.needed)
    (h : checkLoop copying m es n = some found) : Assigned m found := by
  induction es generalizing pre n with
  | nil =>
    rw [List.append_nil] at hsplit
    rw [checkLoop, hn, hn, hn] at h
    have hsum : countedOf pre .tank + countedOf pre .healer + countedOf pre .damage =
        m.size % 256 := by
      by_contra hne
      rw [if_neg hne] at h
      cases h
    rw [if_pos hsum] at h
    cases h
    have hfew := countedOf_le hle
    have hlen : m.size % 256 = pre.length := by
      rw [← hsplit]
      rcases hsize with hsmall | hlarge
      · exact Nat.mod_eq_of_lt hsmall
      · omega
    have hall := countedOf_add_eq.mp (hsum.trans hlen)
    refine ⟨rfl, fun p r hr => ?_, fun role => ?_⟩
    · have hmem := OrdMap.find?_eq_some.mp hr
      have hbit : r = (roleOf r).bit := hall (p, r) (hsplit ▸ hmem)
      refine ⟨roleOf r, hbit, r, hr, ?_⟩
      rw [hbit, roleOf_bit]
      exact (bit_and _ _).mpr rfl
    · rw [OrdMap.countP, hsplit]
      exact hle role
  | cons e es ih =>
    obtain ⟨p, r⟩ := e
    have hp : m.find? p = some r := OrdMap.find?_eq_some.mpr (by rw [hsplit]; simp)
    rcases checkLoop_cons copying m p r es n with ⟨-, hres⟩ | ⟨role, g, hres, hhas, hg⟩ |
        ⟨role, hres, -, -⟩ | ⟨hres, hroom, -⟩
    · rw [hres] at h
      cases h
    · rw [hres] at h
      cases h
      exact (hrec p r role found hp hhas hg).of_set hp hhas
    · rw [hres] at h
      cases h
    · rw [hres] at h
      exact ih (pre ++ [(p, r)]) (by rw [hsplit]; simp) (countRole_countedOf hn)
        (countedOf_concat_le hn hle hroom) h

theorem size_set_of_some (hp : m.find? p = some r) {v : BitVec 8} : (m.set p v).size = m.size := by
  rw [← OrdMap.length_keys, OrdMap.keys_set_of_some hp, OrdMap.length_keys]

theorem checkRoles_assigned (hsize : Countable m) (h : checkRoles fuel m = some found) :
    Assigned m found := by
  induction fuel generalizing m found with
  | zero => cases h
  | succ fuel ih =>
    rw [checkRoles] at h
    by_cases hzero : m.size = 0
    · rw [if_pos hzero] at h
      cases h
    · rw [if_neg hzero] at h
      refine checkLoop_assigned [] hsize (fun p r role found hp hhas hfound => ih ?_ hfound) rfl
        (fun _ => rfl) (fun _ => Nat.zero_le _) h
      rwa [Countable, size_set_of_some hp]

/-! ## Whether there are roles for all -/

theorem countP_roles (f : Nat → LfgRole) (l : List Nat) :
    l.countP (fun p => f p = .tank) + l.countP (fun p => f p = .healer) +
      l.countP (fun p => f p = .damage) = l.length := by
  induction l with
  | nil => rfl
  | cons p l ih =>
    simp only [List.countP_cons, List.length_cons]
    cases f p <;> simp <;> omega

theorem RolesFit.length_le (h : RolesFit es) : es.length ≤ 5 := by
  obtain ⟨f, -, hcount⟩ := h
  have htank := hcount .tank
  have hhealer := hcount .healer
  have hdamage := hcount .damage
  have hsum := countP_roles f (es.map Prod.fst)
  simp only [LfgRole.needed] at htank hhealer hdamage
  rw [List.length_map] at hsum
  omega

theorem Assigned.size_le (h : Assigned m found) : m.size ≤ 5 := by
  have hall : ∀ e ∈ found.entries, e.2 = (roleOf e.2).bit := by
    intro e he
    obtain ⟨role, hbit, -⟩ := h.single e.1 e.2 (OrdMap.find?_eq_some.mpr he)
    rw [hbit, roleOf_bit]
  have hsum := countedOf_add_eq.mpr hall
  have hfew : countedOf found.entries .tank + countedOf found.entries .healer +
      countedOf found.entries .damage ≤ 5 := countedOf_le h.needed
  rw [hsum] at hfew
  rwa [← OrdMap.length_keys, ← h.keys, OrdMap.length_keys]

theorem checkRoles_iff_countable (hfuel : m.sum roleBits < fuel) (hsize : Countable m) :
    (checkRoles fuel m).isSome = true ↔ m.size ≠ 0 ∧ RolesFit m.entries := by
  rcases hsize with hsmall | hlarge
  · exact checkRoles_iff hfuel hsmall
  · constructor
    · intro h
      obtain ⟨found, hfound⟩ := Option.isSome_iff_exists.mp h
      have hle := (checkRoles_assigned (.inr hlarge) hfound).size_le
      omega
    · rintro ⟨-, hfit⟩
      have hle : m.size ≤ 5 := hfit.length_le
      omega

theorem checkRoles_deep (hfuel : m.sum roleBits < fuel) (hfuel' : m.sum roleBits < fuel') :
    checkRoles fuel m = checkRoles fuel' m := by
  induction fuel generalizing m fuel' with
  | zero => exact absurd hfuel (Nat.not_lt_zero _)
  | succ fuel ih =>
    obtain ⟨fuel', rfl⟩ := Nat.exists_eq_succ_of_ne_zero (Nat.ne_zero_of_lt hfuel')
    have hrec : ∀ p r role, m.find? p = some r → r &&& LfgRole.bit role ≠ 0 →
        checkRoles fuel (m.set p (r - role.bit)) = checkRoles fuel' (m.set p (r - role.bit)) := by
      intro p r role hp hhas
      have hbits := roleBits_sub r role hhas
      have hsum := OrdMap.sum_set_of_some (f := roleBits) (v := r - role.bit) hp
      exact ih (by omega) (by omega)
    have htry : ∀ p r role n, m.find? p = some r → tryRole (checkRoles fuel) m p r role n =
        tryRole (checkRoles fuel') m p r role n := by
      intro p r role n hp
      unfold tryRole
      by_cases hhas : r &&& role.bit ≠ 0
      · rw [hrec p r role hp hhas]
      · rw [if_neg hhas, if_neg hhas]
    have hloop : ∀ es n, (∀ e ∈ es, e ∈ m.entries) → checkLoop (checkRoles fuel) m es n =
        checkLoop (checkRoles fuel') m es n := by
      intro es
      induction es with
      | nil => exact fun n _ => rfl
      | cons e es ihes =>
        obtain ⟨p, r⟩ := e
        intro n hes
        have hp : m.find? p = some r := OrdMap.find?_eq_some.mpr (hes _ (.head _))
        simp only [checkLoop, htry p r _ _ hp, ihes _ fun e he => hes e (.tail _ he)]
    rw [checkRoles, checkRoles, hloop _ _ fun e he => he]

end

namespace LFGMgr

def Selected (r : BitVec 8) : Prop := r &&& 0xf0 = 0 ∧ r &&& 0x0e ≠ 0

/-- One of his roles for each player, and none given more often than it is needed. -/
def Choice (m : LfgRolesMap) (choice : Nat → LfgRole) : Prop :=
  (∀ p r, m.find? p = some r → r &&& (choice p).bit ≠ 0) ∧
    ∀ role : LfgRole, m.keys.countP (fun p => choice p = role) ≤ role.needed

variable {m found : LfgRolesMap} {fuel : Nat}

theorem playable_iff : ∀ (r : BitVec 8) (role : LfgRole), r &&& 0xf0 = 0 →
    (Playable (r &&& ~~~ROLE_LEADER) role ↔ r &&& role.bit ≠ 0) := by decide +kernel

theorem and_leader : ∀ (r : BitVec 8) (role : LfgRole),
    (r &&& ~~~ROLE_LEADER) &&& role.bit = r &&& role.bit := by decide +kernel

theorem size_removeLeaderFlag : (removeLeaderFlag m).size = m.size := List.length_map ..

theorem find?_removeLeaderFlag {p : Nat} {r : BitVec 8} :
    (removeLeaderFlag m).find? p = some r ↔ ∃ r', m.find? p = some r' ∧ r' &&& ~~~ROLE_LEADER = r := by
  simp [OrdMap.find?_eq_some, removeLeaderFlag, OrdMap.mapValues]

theorem rolesFit_iff (hm : ∀ p r, m.find? p = some r → Selected r) :
    RolesFit (removeLeaderFlag m).entries ↔ ∃ choice, Choice m choice := by
  have hkeys : (removeLeaderFlag m).entries.map Prod.fst = m.keys := OrdMap.keys_mapValues
  unfold RolesFit Choice
  rw [hkeys]
  refine exists_congr fun choice => and_congr_left fun _ => ?_
  constructor
  · intro h p r hr
    have hmem := OrdMap.find?_eq_some.mp (find?_removeLeaderFlag.mpr ⟨r, hr, rfl⟩)
    exact (playable_iff r _ (hm p r hr).1).mp (h _ hmem)
  · intro h e he
    obtain ⟨r, hr, hcleared⟩ := find?_removeLeaderFlag.mp (OrdMap.find?_eq_some.mpr he)
    rw [← hcleared]
    exact (playable_iff r _ (hm e.1 r hr).1).mpr (h e.1 r hr)

theorem Assigned.of_removeLeaderFlag (h : Assigned (removeLeaderFlag m) found) :
    Assigned m found := by
  refine ⟨h.keys.trans OrdMap.keys_mapValues, fun p r hr => ?_, h.needed⟩
  obtain ⟨role, hbit, cleared, hcleared, hin⟩ := h.single p r hr
  obtain ⟨selected, hselected, rfl⟩ := find?_removeLeaderFlag.mp hcleared
  rw [and_leader] at hin
  exact ⟨role, hbit, selected, hselected, hin⟩

theorem checkGroupRoles_eq (hne : m.size ≠ 0)
    (hfuel : (removeLeaderFlag m).sum roleBits < fuel) :
    checkGroupRoles m = outcome (SkyfireBG.checkRoles fuel (removeLeaderFlag m))
      (removeLeaderFlag m) := by
  rw [checkGroupRoles, if_neg hne, checkRoles_eq, checkRoles_deep (Nat.lt_succ_self _) hfuel]

/-- Roles for all are found exactly when there are some.  They are left in the map, which otherwise
loses the flags of the leader and nothing else. -/
theorem checkGroupRoles_assigned (m : LfgRolesMap) (hm : ∀ p r, m.find? p = some r → Selected r)
    (hne : m.size ≠ 0) (hsize : Countable m) :
    ((checkGroupRoles m).1 = true ↔ ∃ choice, Choice m choice) ∧
    ((checkGroupRoles m).1 = true → Assigned m (checkGroupRoles m).2) ∧
    ((checkGroupRoles m).1 = false → (checkGroupRoles m).2 = removeLeaderFlag m) := by
  have hcount : Countable (removeLeaderFlag m) := by
    rwa [Countable, size_removeLeaderFlag]
  have hiff := checkRoles_iff_countable (Nat.lt_succ_self _) hcount
  rw [size_removeLeaderFlag, and_iff_right hne, rolesFit_iff hm] at hiff
  rw [← hiff, checkGroupRoles_eq hne (Nat.lt_succ_self _)]
  cases hfound : SkyfireBG.checkRoles _ (removeLeaderFlag m) with
  | none => exact ⟨Iff.rfl, nofun, fun _ => rfl⟩
  | some found =>
    refine ⟨by simp [outcome], fun _ => ?_, nofun⟩
    exact Assigned.of_removeLeaderFlag (checkRoles_assigned hcount hfound)

def threeRoles : LfgRolesMap := ⟨[(1, 0x06), (2, 0x02), (3, 0x0f)], by decide⟩

theorem checkGroupRoles_threeRoles : Assigned threeRoles (checkGroupRoles threeRoles).2 :=
  (checkGroupRoles_assigned threeRoles
    (fun p r hr => by
      have hmem : (p, r) ∈ threeRoles.entries := OrdMap.find?_eq_some.mp hr
      revert hmem
      unfold Selected
      simp only [threeRoles, List.mem_cons, Prod.mk.injEq, List.not_mem_nil, or_false]
      rintro (⟨-, rfl⟩ | ⟨-, rfl⟩ | ⟨-, rfl⟩) <;> decide)
    (by decide) (.inl (by decide))).2.1 (by decide +kernel)

def crowd : LfgRolesMap where
  entries := (List.range 256).map fun p => (p, 0x06)
  sorted := List.pairwise_map.mpr List.pairwise_lt_range

theorem crowd_size : crowd.size = 256 := by simp [OrdMap.size, crowd]

theorem crowd_found (copying : LfgRolesMap → Option LfgRolesMap) {es : List (Nat × BitVec 8)}
    (hes : ∀ e ∈ es, e.2 = 0x06) :
    (SkyfireBG.checkLoop copying crowd es fun _ => 0).isSome = true := by
  induction es with
  | nil =>
    rw [SkyfireBG.checkLoop, crowd_size, if_pos rfl]
    rfl
  | cons e es ih =>
    obtain ⟨p, r⟩ := e
    obtain rfl : r = 0x06 := hes _ (.head _)
    rcases checkLoop_cons copying crowd p 0x06 es fun _ => 0 with ⟨hnone, -⟩ |
        ⟨role, found, hres, -, -⟩ | ⟨role, -, hone, -⟩ | ⟨hres, -, -⟩
    · exact absurd hnone (by decide)
    · rw [hres]
      rfl
    · exact absurd hone (by revert role; decide)
    · rw [hres]
      exact ih fun e he => hes e (.tail _ he)

/-- Without players nothing is found, and in a crowd of 256 the players are not counted. -/
theorem checkGroupRoles_miscounted :
    ((checkGroupRoles ∅).1 = false ∧ ∃ choice, Choice ∅ choice) ∧
    (∀ p r, crowd.find? p = some r → Selected r) ∧
    (checkGroupRoles crowd).1 = true ∧ ¬ ∃ choice, Choice crowd choice := by
  have hsix : ∀ e ∈ crowd.entries, e.2 = 0x06 := by
    intro e he
    obtain ⟨p, -, rfl⟩ := List.mem_map.mp he
    rfl
  have hselected : ∀ p r, crowd.find? p = some r → Selected r := by
    intro p r hr
    rw [show r = 0x06 from hsix _ (OrdMap.find?_eq_some.mp hr)]
    exact ⟨by decide, by decide⟩
  have hcleared : removeLeaderFlag crowd = crowd := by
    simp [removeLeaderFlag, OrdMap.mapValues, crowd, ROLE_LEADER]
  have hsize : crowd.size = 256 := crowd_size
  have hnobody : Choice ∅ fun _ => .tank := And.intro (fun _ _ h => by cases h) fun _ => Nat.zero_le _
  refine ⟨⟨rfl, _, hnobody⟩, hselected, ?_, fun hchoice => ?_⟩
  · rw [checkGroupRoles_eq (by omega) (Nat.lt_succ_self _), hcleared, SkyfireBG.checkRoles,
      if_neg (by omega)]
    obtain ⟨found, hfound⟩ := Option.isSome_iff_exists.mp (crowd_found _ hsix)
    rw [hfound]
    rfl
  · have hfit := (rolesFit_iff hselected).mpr hchoice
    have hle : (removeLeaderFlag crowd).size ≤ 5 := hfit.length_le
    rw [size_removeLeaderFlag] at hle
    omega

end LFGMgr

end SkyfireBG
