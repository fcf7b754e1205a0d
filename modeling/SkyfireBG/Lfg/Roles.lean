import SkyfireBG.Lib.OrdMap

/-!
# SkyfireBG.Lfg.Roles

The roles of a party: `LFGMgr::CheckGroupRoles` and what it looks for.

* `checkGroupRoles_iff` — it finds roles for all exactly when there are some.
-/

namespace SkyfireBG

inductive LfgRole where
  | tank
  | healer
  | damage
deriving DecidableEq, Repr

namespace LfgRole

def bit : LfgRole → BitVec 8
  | .tank => 0x02
  | .healer => 0x04
  | .damage => 0x08

/-- `LFG_TANKS_NEEDED`, `LFG_HEALERS_NEEDED` and `LFG_DPS_NEEDED`. -/
def needed : LfgRole → Nat
  | .tank => 1
  | .healer => 1
  | .damage => 3

end LfgRole

def ROLE_NONE : BitVec 8 := 0x00

def ROLE_LEADER : BitVec 8 := 0x01

abbrev LfgRolesMap := OrdMap Nat (BitVec 8)

/-- One of the blocks of `CheckGroupRoles`: a role among others is taken away for a try, a role
alone is counted.  The left result is returned. -/
def tryRole (rec : LfgRolesMap → Option LfgRolesMap) (groles : LfgRolesMap) (p : Nat)
    (r : BitVec 8) (role : LfgRole) (n : LfgRole → Nat) :
    Option LfgRolesMap ⊕ (LfgRole → Nat) :=
  if r &&& role.bit ≠ 0 then
    if r ≠ role.bit then
      match rec (groles.set p (r - role.bit)) with
      | some found => .inl (some found)
      | none => .inr n
    else if n role = role.needed then .inl none
    else .inr (Function.update n role (n role + 1))
  else .inr n

/-- The loop over the players; `n` are those counted. -/
def checkLoop (rec : LfgRolesMap → Option LfgRolesMap) (groles : LfgRolesMap) :
    List (Nat × BitVec 8) → (LfgRole → Nat) → Option LfgRolesMap
  | [], n => if n .tank + n .healer + n .damage = groles.size % 256 then some groles else none
  | (p, r) :: es, n =>
    if r = ROLE_NONE then none
    else
      match tryRole rec groles p r .tank n with
      | .inl result => result
      | .inr n =>
        match tryRole rec groles p r .healer n with
        | .inl result => result
        | .inr n =>
          match tryRole rec groles p r .damage n with
          | .inl result => result
          | .inr n => checkLoop rec groles es n

/-- `CheckGroupRoles` without the flag of the leader; each call takes a role away. -/
def checkRoles : Nat → LfgRolesMap → Option LfgRolesMap
  | 0, _ => none
  | fuel + 1, groles =>
    if groles.size = 0 then none
    else checkLoop (checkRoles fuel) groles groles.entries fun _ => 0

def roleBits (r : BitVec 8) : Nat :=
  (if r &&& LfgRole.tank.bit ≠ 0 then 1 else 0) + (if r &&& LfgRole.healer.bit ≠ 0 then 1 else 0) +
    if r &&& LfgRole.damage.bit ≠ 0 then 1 else 0

/-- `CheckGroupRoles`: the roles that are left, when all can play. -/
def checkGroupRoles (groles : LfgRolesMap) : Option LfgRolesMap :=
  let groles := groles.mapValues fun r => r &&& ~~~ROLE_LEADER
  checkRoles (groles.sum roleBits + 1) groles

/-! ## What is looked for -/

def Playable (r : BitVec 8) (role : LfgRole) : Prop := r &&& role.bit ≠ 0 ∧ r &&& 0xf1 = 0

def RolesFit (es : List (Nat × BitVec 8)) : Prop :=
  ∃ f : Nat → LfgRole, (∀ e ∈ es, Playable e.2 (f e.1)) ∧
    ∀ role, (es.map Prod.fst).countP (fun p => f p = role) ≤ role.needed

theorem RolesFit.subperm {es es' : List (Nat × BitVec 8)} (h : RolesFit es) (hsub : es'.Subperm es) :
    RolesFit es' := by
  obtain ⟨f, hplay, hcount⟩ := h
  obtain ⟨l, hperm, hsub⟩ := hsub
  refine ⟨f, fun e he => hplay e (hsub.subset (hperm.symm.subset he)), fun role => ?_⟩
  rw [← (hperm.map Prod.fst).countP_eq]
  exact ((hsub.map Prod.fst).countP_le).trans (hcount role)

instance (r : BitVec 8) (role : LfgRole) : Decidable (Playable r role) :=
  inferInstanceAs (Decidable (_ ∧ _))

instance (P : LfgRole → Prop) [DecidablePred P] : Decidable (∀ role, P role) :=
  decidable_of_iff (P .tank ∧ P .healer ∧ P .damage)
    ⟨fun h role => by cases role <;> simp [h], fun h => ⟨h _, h _, h _⟩⟩

theorem sub_bit : ∀ (r : BitVec 8) (role role' : LfgRole), r &&& role'.bit ≠ 0 →
    (Playable r role → role ≠ role' → Playable (r - role'.bit) role) ∧
      (Playable (r - role'.bit) role → Playable r role) ∧
      roleBits (r - role'.bit) + 1 = roleBits r := by decide +kernel

theorem playable_sub (r : BitVec 8) (role role' : LfgRole) (h : Playable r role) (hne : role ≠ role')
    (hhas : r &&& role'.bit ≠ 0) : Playable (r - role'.bit) role :=
  (sub_bit r role role' hhas).1 h hne

theorem playable_of_sub (r : BitVec 8) (role role' : LfgRole) (hhas : r &&& role'.bit ≠ 0)
    (h : Playable (r - role'.bit) role) : Playable r role :=
  (sub_bit r role role' hhas).2.1 h

theorem roleBits_sub (r : BitVec 8) (role : LfgRole) (hhas : r &&& role.bit ≠ 0) :
    roleBits (r - role.bit) + 1 = roleBits r :=
  (sub_bit r role role hhas).2.2

theorem playable_bit (role role' : LfgRole) : Playable role.bit role' ↔ role' = role := by
  cases role <;> cases role' <;> decide

theorem bit_and (role role' : LfgRole) : role.bit &&& role'.bit ≠ 0 ↔ role = role' := by
  cases role <;> cases role' <;> decide

theorem exists_other : ∀ (r : BitVec 8) (role : LfgRole), Playable r role → r ≠ role.bit →
    ¬ ∀ role', role' ≠ role → r &&& role'.bit = 0 := by decide +kernel

section

variable {rec : LfgRolesMap → Option LfgRolesMap} {m found : LfgRolesMap} {p fuel : Nat}
  {r : BitVec 8} {role role' : LfgRole} {n n' : LfgRole → Nat} {pre es : List (Nat × BitVec 8)}
  {result : Option LfgRolesMap}

def countRole (r : BitVec 8) (role : LfgRole) (n : LfgRole → Nat) (role' : LfgRole) : Nat :=
  n role' + if r = role.bit ∧ role' = role then 1 else 0

theorem tryRole_cases (rec : LfgRolesMap → Option LfgRolesMap) (m : LfgRolesMap) (p : Nat)
    (r : BitVec 8) (role : LfgRole) (n : LfgRole → Nat) :
    (∃ found, tryRole rec m p r role n = .inl (some found) ∧ r &&& role.bit ≠ 0 ∧
      r ≠ role.bit ∧ rec (m.set p (r - role.bit)) = some found) ∨
    (tryRole rec m p r role n = .inl none ∧ r = role.bit ∧ n role = role.needed) ∨
    (tryRole rec m p r role n = .inr (countRole r role n) ∧
      (r = role.bit → n role ≠ role.needed) ∧
      (r &&& role.bit ≠ 0 → r ≠ role.bit → rec (m.set p (r - role.bit)) = none)) := by
  have hsame : r ≠ role.bit → countRole r role n = n := by
    intro hne
    funext role'
    rw [countRole, if_neg fun h => hne h.1, Nat.add_zero]
  unfold tryRole
  by_cases hhas : r &&& role.bit ≠ 0
  · rw [if_pos hhas]
    by_cases hmore : r ≠ role.bit
    · rw [if_pos hmore]
      cases hrec : rec (m.set p (r - role.bit)) with
      | some found => exact .inl ⟨found, rfl, hhas, hmore, rfl⟩
      | none => exact .inr (.inr ⟨by rw [hsame hmore], fun h => absurd h hmore, fun _ _ => rfl⟩)
    · rw [if_neg hmore]
      have halone := not_not.mp hmore
      by_cases hfull : n role = role.needed
      · rw [if_pos hfull]
        exact .inr (.inl ⟨rfl, halone, hfull⟩)
      · rw [if_neg hfull]
        refine .inr (.inr ⟨congrArg _ ?_, fun _ => hfull, fun _ h => absurd h hmore⟩)
        funext role'
        rw [Function.update_apply, countRole]
        by_cases heq : role' = role
        · rw [if_pos heq, if_pos ⟨halone, heq⟩, heq]
        · rw [if_neg heq, if_neg fun h => heq h.2, Nat.add_zero]
  · rw [if_neg hhas]
    have hne : r ≠ role.bit := by
      rintro rfl
      exact hhas ((bit_and role role).mpr rfl)
    exact .inr (.inr ⟨by rw [hsame hne], fun h => absurd h hne, fun h => absurd h hhas⟩)

def Finds (rec : LfgRolesMap → Option LfgRolesMap) (m : LfgRolesMap) : Prop :=
  ∀ (p : Nat) (r : BitVec 8) (role : LfgRole), m.find? p = some r → r &&& role.bit ≠ 0 →
    ((rec (m.set p (r - role.bit))).isSome = true ↔ RolesFit (m.set p (r - role.bit)).entries)

theorem RolesFit.of_set (hp : m.find? p = some r) (hhas : r &&& role.bit ≠ 0)
    (h : RolesFit (m.set p (r - role.bit)).entries) : RolesFit m.entries := by
  obtain ⟨f, hplay, hcount⟩ := h
  refine ⟨f, fun e he => ?_, fun role' => ?_⟩
  · by_cases hep : e.1 = p
    · have hr : e.2 = r := by
        have he' := OrdMap.find?_eq_some.mpr he
        rw [hep, hp] at he'
        exact (Option.some.inj he').symm
      rw [hep, hr]
      exact playable_of_sub r _ role hhas
        (hplay (p, r - role.bit) (OrdMap.find?_eq_some.mp OrdMap.find?_set_same))
    · have he' := OrdMap.find?_eq_some.mpr he
      rw [← OrdMap.find?_set_ne (m := m) (v := r - role.bit) hep] at he'
      exact hplay e (OrdMap.find?_eq_some.mp he')
  · have hkeys : (m.set p (r - role.bit)).keys = m.keys := OrdMap.keys_set_of_some hp
    rw [OrdMap.keys] at hkeys
    rw [← OrdMap.keys, ← hkeys]
    exact hcount role'

theorem RolesFit.set {f : Nat → LfgRole} (hplay : ∀ e ∈ m.entries, Playable e.2 (f e.1))
    (hcount : ∀ role, (m.entries.map Prod.fst).countP (fun p => f p = role) ≤ role.needed)
    (hp : m.find? p = some r) (hhas : r &&& role.bit ≠ 0) (hne : f p ≠ role) :
    RolesFit (m.set p (r - role.bit)).entries := by
  refine ⟨f, fun e he => ?_, fun role' => ?_⟩
  · have he' := OrdMap.find?_eq_some.mpr he
    by_cases hep : e.1 = p
    · rw [hep, OrdMap.find?_set_same] at he'
      rw [hep, ← Option.some.inj he']
      exact playable_sub r _ role (hplay (p, r) (OrdMap.find?_eq_some.mp hp)) hne hhas
    · rw [OrdMap.find?_set_ne hep] at he'
      exact hplay e (OrdMap.find?_eq_some.mp he')
  · have hkeys : (m.set p (r - role.bit)).keys = m.keys := OrdMap.keys_set_of_some hp
    rw [OrdMap.keys, OrdMap.keys] at hkeys
    rw [hkeys]
    exact hcount role'

def countedOf (pre : List (Nat × BitVec 8)) (role : LfgRole) : Nat :=
  pre.countP fun e => e.2 = role.bit

theorem countRole_countedOf (h : ∀ role, n role = countedOf pre role) (role' : LfgRole) :
    countRole r .damage (countRole r .healer (countRole r .tank n)) role' =
      countedOf (pre ++ [(p, r)]) role' := by
  rw [countedOf, List.countP_append, List.countP_singleton]
  simp only [countRole, h role', countedOf]
  cases role' <;> simp

theorem countedOf_concat_le (hn : ∀ role, n role = countedOf pre role)
    (hle : ∀ role : LfgRole, countedOf pre role ≤ role.needed)
    (hroom : ∀ role : LfgRole, r = role.bit → n role ≠ role.needed) (role : LfgRole) :
    countedOf (pre ++ [(p, r)]) role ≤ role.needed := by
  have hle := hle role
  rw [countedOf] at hle
  rw [countedOf, List.countP_append, List.countP_singleton]
  by_cases hr : r = role.bit
  · have hne := hroom role hr
    rw [hn role, countedOf] at hne
    simp only [hr, decide_true, if_true]
    omega
  · simp only [hr, decide_false, Bool.false_eq_true, if_false]
    exact hle

theorem checkLoop_cons (rec : LfgRolesMap → Option LfgRolesMap) (m : LfgRolesMap) (p : Nat)
    (r : BitVec 8) (es : List (Nat × BitVec 8)) (n : LfgRole → Nat) :
    (r = ROLE_NONE ∧ checkLoop rec m ((p, r) :: es) n = none) ∨
    (∃ (role : LfgRole) (found : LfgRolesMap),
      checkLoop rec m ((p, r) :: es) n = some found ∧ r &&& role.bit ≠ 0 ∧
      rec (m.set p (r - role.bit)) = some found) ∨
    (∃ role : LfgRole, checkLoop rec m ((p, r) :: es) n = none ∧ r = role.bit ∧ n role = role.needed) ∨
    (checkLoop rec m ((p, r) :: es) n =
        checkLoop rec m es (countRole r .damage (countRole r .healer (countRole r .tank n))) ∧
      (∀ role : LfgRole, r = role.bit → n role ≠ role.needed) ∧
      ∀ role : LfgRole, r &&& role.bit ≠ 0 → r ≠ role.bit → rec (m.set p (r - role.bit)) = none) := by
  by_cases hnone : r = ROLE_NONE
  · exact .inl ⟨hnone, by rw [checkLoop, if_pos hnone]⟩
  have hother : ∀ role role' : LfgRole, role ≠ role' → r = role'.bit →
      ∀ n, countRole r role n role' = n role' := by
    intro role role' hne _ n
    rw [countRole, if_neg fun h => hne h.2.symm, Nat.add_zero]
  rw [checkLoop, if_neg hnone]
  rcases tryRole_cases rec m p r .tank n with ⟨g, ht, hhas, -, hrec⟩ | ⟨ht, hr, hn⟩ |
      ⟨ht, htn, htrec⟩
  · exact .inr (.inl ⟨.tank, g, by rw [ht], hhas, hrec⟩)
  · exact .inr (.inr (.inl ⟨.tank, by rw [ht], hr, hn⟩))
  rw [ht]
  dsimp only
  rcases tryRole_cases rec m p r .healer (countRole r .tank n) with ⟨g, hh, hhas, -, hrec⟩ |
      ⟨hh, hr, hn⟩ | ⟨hh, hhn, hhrec⟩
  · exact .inr (.inl ⟨.healer, g, by rw [hh], hhas, hrec⟩)
  · exact .inr (.inr (.inl ⟨.healer, by rw [hh], hr, (hother .tank .healer nofun hr n) ▸ hn⟩))
  rw [hh]
  dsimp only
  rcases tryRole_cases rec m p r .damage (countRole r .healer (countRole r .tank n)) with
      ⟨g, hd, hhas, -, hrec⟩ | ⟨hd, hr, hn⟩ | ⟨hd, hdn, hdrec⟩
  · exact .inr (.inl ⟨.damage, g, by rw [hd], hhas, hrec⟩)
  · refine .inr (.inr (.inl ⟨.damage, by rw [hd], hr, ?_⟩))
    rw [hother .healer .damage nofun hr, hother .tank .damage nofun hr] at hn
    exact hn
  rw [hd]
  refine .inr (.inr (.inr ⟨rfl, fun role hr => ?_, fun role hhas hne => ?_⟩))
  · cases role with
    | tank => exact htn hr
    | healer => exact fun hn => hhn hr ((hother .tank .healer nofun hr n).trans hn)
    | damage =>
      refine fun hn => hdn hr ?_
      rw [hother .healer .damage nofun hr, hother .tank .damage nofun hr]
      exact hn
  · cases role with
    | tank => exact htrec hhas hne
    | healer => exact hhrec hhas hne
    | damage => exact hdrec hhas hne

def roleOf (r : BitVec 8) : LfgRole :=
  if r = LfgRole.tank.bit then .tank else if r = LfgRole.healer.bit then .healer else .damage

theorem roleOf_bit : ∀ role : LfgRole, roleOf role.bit = role := by decide

def single (r : BitVec 8) : Bool :=
  r == LfgRole.tank.bit || r == LfgRole.healer.bit || r == LfgRole.damage.bit

theorem single_iff : ∀ r : BitVec 8, single r = true ↔ r = (roleOf r).bit := by decide +kernel

theorem countedOf_add : countedOf es .tank + countedOf es .healer + countedOf es .damage =
    es.countP fun e => single e.2 := by
  have hone : ∀ r : BitVec 8, (if r = LfgRole.tank.bit then 1 else 0) +
      (if r = LfgRole.healer.bit then 1 else 0) + (if r = LfgRole.damage.bit then 1 else 0) =
        if single r = true then 1 else 0 := by decide +kernel
  induction es with
  | nil => rfl
  | cons e es ih =>
    have hone := hone e.2
    simp only [countedOf, List.countP_cons, decide_eq_true_eq] at ih ⊢
    omega

theorem countedOf_add_eq :
    countedOf es .tank + countedOf es .healer + countedOf es .damage = es.length ↔
      ∀ e ∈ es, e.2 = (roleOf e.2).bit := by
  rw [countedOf_add, List.countP_eq_length]
  exact forall₂_congr fun e _ => single_iff e.2

theorem checkLoop_sound (pre : List (Nat × BitVec 8)) (hrec : Finds rec m) (hsize : m.size < 256)
    (hsplit : m.entries = pre ++ es)
    (hn : ∀ role, n role = countedOf pre role) (hle : ∀ role, countedOf pre role ≤ role.needed)
    (h : checkLoop rec m es n = some found) : RolesFit m.entries := by
  induction es generalizing pre n with
  | nil =>
    rw [List.append_nil] at hsplit
    rw [checkLoop, hn, hn, hn] at h
    have hsum : countedOf pre .tank + countedOf pre .healer + countedOf pre .damage =
        m.size % 256 := by
      by_contra hne
      rw [if_neg hne] at h
      cases h
    rw [Nat.mod_eq_of_lt hsize, OrdMap.size, hsplit] at hsum
    have hall := countedOf_add_eq.mp hsum
    have hvalue : ∀ e ∈ pre, m.find? e.1 = some e.2 :=
      fun e he => OrdMap.find?_eq_some.mpr (hsplit ▸ he)
    refine ⟨fun p => roleOf ((m.find? p).getD 0), fun e he => ?_, fun role => ?_⟩
    · rw [hsplit] at he
      dsimp only
      rw [hvalue e he, Option.getD_some]
      exact hall e he ▸ (playable_bit _ _).mpr (roleOf_bit _)
    · refine Nat.le_trans (Nat.le_of_eq ?_) (hle role)
      rw [hsplit, List.countP_map, countedOf]
      refine List.countP_congr fun e he => ?_
      simp only [Function.comp_apply, hvalue e he, Option.getD_some, decide_eq_true_eq]
      refine ⟨fun heq => by rw [hall e he, heq], fun heq => by rw [heq, roleOf_bit]⟩
  | cons e es ih =>
    obtain ⟨p, r⟩ := e
    have hp : m.find? p = some r := OrdMap.find?_eq_some.mpr (by rw [hsplit]; simp)
    rcases checkLoop_cons rec m p r es n with ⟨-, hres⟩ | ⟨role, g, -, hhas, hg⟩ |
        ⟨role, hres, -, -⟩ | ⟨hres, hroom, -⟩
    · rw [hres] at h
      cases h
    · have hfit := (hrec p r role hp hhas).mp (by rw [hg]; rfl)
      exact hfit.of_set hp hhas
    · rw [hres] at h
      cases h
    · rw [hres] at h
      exact ih (pre ++ [(p, r)]) (by rw [hsplit]; simp) (countRole_countedOf hn)
        (countedOf_concat_le hn hle hroom) h

theorem checkLoop_complete {f : Nat → LfgRole} (pre : List (Nat × BitVec 8)) (hrec : Finds rec m)
    (hsize : m.size < 256)
    (hplay : ∀ e ∈ m.entries, Playable e.2 (f e.1))
    (hcount : ∀ role, (m.entries.map Prod.fst).countP (fun p => f p = role) ≤ role.needed)
    (hsplit : m.entries = pre ++ es) (hpre : ∀ e ∈ pre, e.2 = (f e.1).bit)
    (hn : ∀ role, n role = countedOf pre role) : (checkLoop rec m es n).isSome = true := by
  induction es generalizing pre n with
  | nil =>
    rw [List.append_nil] at hsplit
    have hall : ∀ e ∈ pre, e.2 = (roleOf e.2).bit := fun e he => by
      rw [hpre e he, roleOf_bit]
    rw [checkLoop, hn, hn, hn, countedOf_add_eq.mpr hall, ← hsplit, ← OrdMap.size,
      Nat.mod_eq_of_lt hsize, if_pos rfl]
    rfl
  | cons e es ih =>
    obtain ⟨p, r⟩ := e
    have hmem : (p, r) ∈ m.entries := by rw [hsplit]; simp
    have hp : m.find? p = some r := OrdMap.find?_eq_some.mpr hmem
    have hr : Playable r (f p) := hplay _ hmem
    have hfound : ∀ role, r &&& role.bit ≠ 0 → f p ≠ role →
        (rec (m.set p (r - role.bit))).isSome = true := fun role hhas hne =>
      (hrec p r role hp hhas).mpr (RolesFit.set hplay hcount hp hhas hne)
    rcases checkLoop_cons rec m p r es n with ⟨hnone, -⟩ | ⟨role, g, hres, -, -⟩ |
        ⟨role, -, hone, hfull⟩ | ⟨hres, -, hmore⟩
    · rw [hnone, ROLE_NONE] at hr
      exact absurd (BitVec.zero_and) hr.1
    · rw [hres]
      rfl
    · -- One more than needed play the role, those counted and this player.
      have hrole : f p = role := (playable_bit role (f p)).mp (hone ▸ hr)
      have hcounted : countedOf pre role = (pre.map Prod.fst).countP fun p => f p = role := by
        rw [List.countP_map, countedOf]
        refine List.countP_congr fun e he => ?_
        simp only [Function.comp_apply, decide_eq_true_eq, hpre e he]
        refine ⟨fun heq => ?_, fun heq => by rw [heq]⟩
        have hboth := congrArg roleOf heq
        rwa [roleOf_bit, roleOf_bit] at hboth
      have hle := hcount role
      rw [hsplit, List.map_append, List.map_cons, List.countP_append, List.countP_cons] at hle
      simp only [hrole, decide_true, if_true] at hle
      rw [hn, hcounted] at hfull
      omega
    · have halone : r = (f p).bit := by
        by_contra hne
        refine exists_other r (f p) hr hne fun role hother => ?_
        by_contra hhas
        have hnot : r ≠ role.bit := by
          rintro rfl
          exact hother ((playable_bit role (f p)).mp hr).symm
        have hsome := hfound role hhas hother.symm
        rw [hmore role hhas hnot] at hsome
        cases hsome
      rw [hres]
      refine ih (pre ++ [(p, r)]) (by rw [hsplit]; simp) (fun e he => ?_)
        (countRole_countedOf hn)
      rcases List.mem_append.mp he with he | he
      · exact hpre e he
      · rw [List.mem_singleton.mp he]
        exact halone

theorem checkRoles_iff (hfuel : m.sum roleBits < fuel) (hsize : m.size < 256) :
    (checkRoles fuel m).isSome = true ↔ m.size ≠ 0 ∧ RolesFit m.entries := by
  induction fuel generalizing m with
  | zero => exact absurd hfuel (Nat.not_lt_zero _)
  | succ fuel ih =>
    have hrec : Finds (checkRoles fuel) m := by
      intro p r role hp hhas
      have hbits := roleBits_sub r role hhas
      have hsum := OrdMap.sum_set_of_some (f := roleBits) (v := r - role.bit) hp
      have hkeys : (m.set p (r - role.bit)).keys = m.keys := OrdMap.keys_set_of_some hp
      have hlen : (m.set p (r - role.bit)).size = m.size := by
        rw [← OrdMap.length_keys, hkeys, OrdMap.length_keys]
      have hpos : m.size ≠ 0 := by
        intro hzero
        have hmem := OrdMap.find?_eq_some.mp hp
        rw [List.eq_nil_of_length_eq_zero hzero] at hmem
        cases hmem
      rw [ih (by omega) (by omega), hlen]
      exact and_iff_right hpos
    rw [checkRoles]
    by_cases hzero : m.size = 0
    · rw [if_pos hzero]
      refine ⟨fun h => ?_, fun h => absurd hzero h.1⟩
      cases h
    · rw [if_neg hzero]
      refine ⟨fun h => ⟨hzero, ?_⟩, fun ⟨_, f, hplay, hcount⟩ => ?_⟩
      · obtain ⟨found, hfound⟩ := Option.isSome_iff_exists.mp h
        exact checkLoop_sound [] hrec hsize rfl (fun _ => rfl) (fun _ => Nat.zero_le _)
          hfound
      · exact checkLoop_complete [] hrec hsize hplay hcount rfl
          (fun e he => by cases he) fun _ => rfl

theorem checkGroupRoles_iff (hsize : m.size < 256) : (checkGroupRoles m).isSome = true ↔
    m.size ≠ 0 ∧ RolesFit (m.mapValues fun r => r &&& ~~~ROLE_LEADER).entries := by
  have hlen : (m.mapValues fun r => r &&& ~~~ROLE_LEADER).size = m.size := List.length_map ..
  unfold checkGroupRoles
  dsimp only
  rw [checkRoles_iff (Nat.lt_succ_self _) (hlen ▸ hsize), hlen]

end

end SkyfireBG
