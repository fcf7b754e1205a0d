import SkyfireBG.Battleground.Update

/-!
# SkyfireBG.Battleground.Filled

`FillPlayersToBG`: the pools it fills for both teams, and the end of its loop.

* `Balances`          — the loop, without a bound on its turns.
* `fillPlayersToBG_filled` — it ends, with pools of groups that wait and fit, as balanced as it can.
-/

namespace SkyfireBG

namespace BattlegroundQueue

variable {q : BattlegroundQueue} {g free desired size : Nat} {l rest : List Nat}
  {pool : SelectionPool} {own : SelectionPool × List Nat}

def sizes (q : BattlegroundQueue) (l : List Nat) : Nat := (l.map q.playersSize).sum

structure Picked (q : BattlegroundQueue) (l : List Nat) (free : Nat)
    (own : SelectionPool × List Nat) : Prop where
  seen : ∃ seen, l = seen ++ own.2 ∧ own.1.selectedGroups.Sublist seen
  uninvited : ∀ g ∈ own.1.selectedGroups, q.isInvited g = false
  count : own.1.playerCount = q.sizes own.1.selectedGroups
  count_le : own.1.playerCount ≤ free

def waiting (own : SelectionPool × List Nat) : Nat := own.1.selectedGroups.length + own.2.length

theorem sizes_append (l l' : List Nat) : q.sizes (l ++ l') = q.sizes l + q.sizes l' := by
  simp [sizes]

theorem sizes_erase (h : g ∈ l) : q.sizes (l.erase g) + q.playersSize g = q.sizes l := by
  rw [sizes, sizes, ((List.perm_cons_erase h).map q.playersSize).sum_nat, List.map_cons,
    List.sum_cons, Nat.add_comm]

theorem sizes_eq_zero (hpos : ∀ g ∈ l, 0 < q.playersSize g) (h : q.sizes l = 0) : l = [] := by
  cases l with
  | nil => rfl
  | cons g l =>
    have := hpos g (by simp)
    simp [sizes] at h
    omega

theorem Picked.sublist (h : q.Picked l free own) : own.1.selectedGroups.Sublist l := by
  obtain ⟨seen, hl, hsub⟩ := h.seen
  exact hl ▸ hsub.trans (List.sublist_append_left _ _)

theorem Picked.start : q.Picked l free ({}, l) :=
  ⟨⟨[], rfl, .slnil⟩, by simp, rfl, Nat.zero_le _⟩

theorem Picked.empty (h : q.Picked l free own) (hpos : ∀ g ∈ l, 0 < q.playersSize g)
    (hzero : own.1.playerCount = 0) : own.1.selectedGroups = [] :=
  sizes_eq_zero (fun g hg => hpos g (h.sublist.subset hg)) (h.count.symm.trans hzero)

theorem addToPool_fits (hinv : q.isInvited g = false)
    (hfit : pool.playerCount + q.playersSize g ≤ desired) :
    q.addToPool pool g desired = (true, { selectedGroups := pool.selectedGroups ++ [g]
                                          playerCount := pool.playerCount + q.playersSize g }) :=
  if_pos (by simp [hinv, hfit])

theorem addToPool_refused
    (h : ¬ (q.isInvited g = false ∧ pool.playerCount + q.playersSize g ≤ desired)) :
    q.addToPool pool g desired = (decide (pool.playerCount < desired), pool) :=
  if_neg (by simpa using h)

theorem Picked.skip (h : q.Picked l free (pool, g :: rest)) : q.Picked l free (pool, rest) := by
  obtain ⟨⟨seen, hl, hsub⟩, hinv, hcount, hle⟩ := h
  exact ⟨⟨seen ++ [g], by simp [hl], hsub.trans (List.sublist_append_left _ _)⟩, hinv, hcount, hle⟩

theorem Picked.add (h : q.Picked l free (pool, g :: rest)) (hinv : q.isInvited g = false)
    (hfit : pool.playerCount + q.playersSize g ≤ free) :
    q.Picked l free ({ selectedGroups := pool.selectedGroups ++ [g]
                       playerCount := pool.playerCount + q.playersSize g }, rest) := by
  obtain ⟨⟨seen, hl, hsub⟩, hun, hcount, hle⟩ := h
  refine ⟨⟨seen ++ [g], by simp [hl], hsub.append (List.Sublist.refl _)⟩, ?_, ?_, hfit⟩
  · intro x hx
    rcases List.mem_append.mp hx with hx | hx
    · exact hun x hx
    · rwa [List.mem_singleton.mp hx]
  · simp only [sizes_append] at hcount ⊢
    simp [hcount, sizes]

theorem Picked.addWhile (h : q.Picked l free (pool, rest)) (hdesired : desired ≤ free) :
    q.Picked l free (q.addWhile desired pool rest) ∧
      waiting (q.addWhile desired pool rest) ≤ waiting (pool, rest) := by
  induction rest generalizing pool with
  | nil => exact ⟨h, Nat.le_refl _⟩
  | cons g rest ih =>
    rw [BattlegroundQueue.addWhile]
    by_cases hfit : q.isInvited g = false ∧ pool.playerCount + q.playersSize g ≤ desired
    · rw [addToPool_fits hfit.1 hfit.2, if_pos rfl]
      obtain ⟨hp, hw⟩ := ih (h.add hfit.1 (hfit.2.trans hdesired))
      refine ⟨hp, hw.trans ?_⟩
      simp [waiting]
      omega
    · rw [addToPool_refused hfit]
      by_cases hroom : pool.playerCount < desired
      · rw [if_pos (by simp [hroom])]
        obtain ⟨hp, hw⟩ := ih h.skip
        refine ⟨hp, hw.trans ?_⟩
        simp [waiting]
      · rw [if_neg (by simp [hroom])]
        exact ⟨h, Nat.le_refl _⟩

theorem addWhile_zero (hpos : ∀ g ∈ rest, 0 < q.playersSize g) :
    q.addWhile 0 pool rest = (pool, rest) := by
  cases rest with
  | nil => rfl
  | cons g rest =>
    have := hpos g (by simp)
    rw [addWhile, addToPool_refused (by omega)]
    rfl

theorem groupToKick_cases (acc : Option Nat × Bool) (g : Nat) :
    (q.groupToKick size acc g).1 = some g ∨ q.groupToKick size acc g = acc := by
  unfold groupToKick
  split
  · exact .inl rfl
  · split
    · exact .inl rfl
    · exact .inr rfl

theorem groupToKick_mem (l : List Nat) {acc : Option Nat × Bool} (hacc : acc.1 ≠ none) :
    ∃ g, (l.foldl (q.groupToKick size) acc).1 = some g ∧ (g ∈ l ∨ acc.1 = some g) := by
  induction l generalizing acc with
  | nil =>
    obtain ⟨g, hg⟩ := Option.ne_none_iff_exists'.mp hacc
    exact ⟨g, hg, .inr hg⟩
  | cons x l ih =>
    rw [List.foldl_cons]
    have hcases : (q.groupToKick size acc x).1 = some x ∨ q.groupToKick size acc x = acc :=
      groupToKick_cases acc x
    rcases hcases with hx | hx
    · obtain ⟨g, hg, hmem⟩ := @ih (q.groupToKick size acc x) (by simp [hx])
      refine ⟨g, hg, .inl ?_⟩
      rcases hmem with hmem | heq
      · exact List.mem_cons_of_mem _ hmem
      · rw [hx, Option.some.injEq] at heq
        exact heq ▸ List.mem_cons_self
    · obtain ⟨g, hg, hmem⟩ := @ih (q.groupToKick size acc x) (by rwa [hx])
      rw [hx] at hmem
      exact ⟨g, hg, hmem.imp_left (List.mem_cons_of_mem _)⟩

theorem groupToKick_found {l : List Nat} (hl : l ≠ []) :
    ∃ g ∈ l, (l.foldl (q.groupToKick size) (none, false)).1 = some g := by
  obtain ⟨x, l, rfl⟩ := List.exists_cons_of_ne_nil hl
  have hx : (q.groupToKick size (none, false) x).1 = some x := by
    unfold groupToKick
    split
    · rfl
    · simp
  rw [List.foldl_cons]
  obtain ⟨g, hg, hmem⟩ := @groupToKick_mem q size l (q.groupToKick size (none, false) x)
    (by simp [hx])
  refine ⟨g, ?_, hg⟩
  rcases hmem with hmem | heq
  · exact List.mem_cons_of_mem _ hmem
  · rw [hx, Option.some.injEq] at heq
    exact heq ▸ List.mem_cons_self

theorem kickGroup_empty (hzero : pool.playerCount = 0) : q.kickGroup pool size = (true, pool) := by
  unfold kickGroup
  split
  · rfl
  · rw [if_pos hzero]

theorem kickGroup_kicks (hl : pool.selectedGroups ≠ []) (hpos : pool.playerCount ≠ 0) :
    ∃ g ∈ pool.selectedGroups, (q.kickGroup pool size).2 =
      { selectedGroups := pool.selectedGroups.erase g
        playerCount := pool.playerCount - q.playersSize g } := by
  obtain ⟨g, hg, hfound⟩ := @groupToKick_found q size _ hl
  refine ⟨g, hg, ?_⟩
  rw [kickGroup, hfound]
  simp only
  rw [if_neg hpos]

theorem Picked.kick (h : q.Picked l free (pool, rest)) :
    q.Picked l free ((q.kickGroup pool size).2, rest) ∧
      waiting ((q.kickGroup pool size).2, rest) + (if pool.playerCount = 0 then 0 else 1) =
        waiting (pool, rest) := by
  by_cases hzero : pool.playerCount = 0
  · rw [kickGroup_empty hzero, if_pos hzero]
    exact ⟨h, rfl⟩
  obtain ⟨⟨seen, hl, hsub⟩, hun, hcount, hle⟩ := h
  have hne : pool.selectedGroups ≠ [] := by
    rintro hnil
    rw [hnil] at hcount
    exact hzero hcount
  obtain ⟨g, hg, hkick⟩ := @kickGroup_kicks q size pool hne hzero
  have hlen := List.length_erase_add_one hg
  have herase := sizes_erase (q := q) hg
  rw [hkick, if_neg hzero]
  refine ⟨⟨⟨seen, hl, List.erase_sublist.trans hsub⟩, fun x hx => hun x (List.mem_of_mem_erase hx),
    ?_, ?_⟩, ?_⟩
  · simp only at hcount ⊢
    omega
  · simp only at hle ⊢
    omega
  · simp only [waiting]
    omega

theorem Picked.lighten {l' rest' : List Nat} {free' : Nat} {other : SelectionPool}
    (h : q.Picked l free (pool, rest)) (h' : q.Picked l' free' (other, rest'))
    (hpos : ∀ g ∈ l, 0 < q.playersSize g) {flag : Bool} {own' : SelectionPool × List Nat}
    {other' : SelectionPool}
    (hless : (free : Int) - pool.playerCount < free' - other.playerCount)
    (hturn : q.lighten free (free' - other.playerCount) size (pool, rest) other =
      (flag, own', other')) :
    q.Picked l free own' ∧ q.Picked l' free' (other', rest') ∧
      (flag = true → waiting own' + waiting (other', rest') <
        waiting (pool, rest) + waiting (other, rest')) ∧
      (flag = false → other' = other ∧ own'.1.playerCount = 0 ∧
        (free : Int) ≤ free' - other.playerCount + 1) := by
  obtain ⟨hkick, hwait⟩ : q.Picked l free ((q.kickGroup pool size).2, rest) ∧ _ := h.kick
  obtain ⟨hkick', hwait'⟩ : q.Picked l' free' ((q.kickGroup other size).2, rest') ∧ _ := h'.kick
  unfold BattlegroundQueue.lighten at hturn
  simp only at hturn
  generalize hdesired : (if (free : Int) ≥ free' - other.playerCount then
    ((free : Int) - (free' - other.playerCount)).toNat else 0) = desired at hturn
  have hle := h'.count_le
  simp only at hle
  have hdesired_le : desired ≤ free := by
    rw [← hdesired]
    split <;> omega
  -- the pool after the kick and what is added for it
  obtain ⟨hpicked, hwaiting⟩ : q.Picked l free
      (if (q.kickGroup pool size).1 = true then q.addWhile desired (q.kickGroup pool size).2 rest
        else ((q.kickGroup pool size).2, rest)) ∧
      waiting (if (q.kickGroup pool size).1 = true then
          q.addWhile desired (q.kickGroup pool size).2 rest
        else ((q.kickGroup pool size).2, rest)) ≤ waiting ((q.kickGroup pool size).2, rest) := by
    split
    · exact hkick.addWhile hdesired_le
    · exact ⟨hkick, Nat.le_refl _⟩
  by_cases hzero : pool.playerCount = 0
  · have hnone : desired = 0 := by
      rw [← hdesired, if_neg (by omega)]
    have hrest : ∀ g ∈ rest, 0 < q.playersSize g := by
      obtain ⟨seen, hl, -⟩ := h.seen
      intro g hg
      exact hpos g (by rw [hl]; simp [hg])
    rw [kickGroup_empty hzero, hnone, addWhile_zero hrest] at hturn
    rw [if_pos rfl, if_pos hzero, if_pos (by omega)] at hturn
    cases hturn
    exact ⟨h, h', fun hf => (nomatch hf), fun _ => ⟨rfl, hzero, by omega⟩⟩
  rw [if_neg hzero] at hwait
  generalize (if (q.kickGroup pool size).1 = true then
    q.addWhile desired (q.kickGroup pool size).2 rest
      else ((q.kickGroup pool size).2, rest)) = own at hturn hpicked hwaiting
  by_cases hempty : own.1.playerCount = 0
  · rw [if_pos hempty] at hturn
    by_cases hstop : (free : Int) ≤ free' - other.playerCount + 1
    · rw [if_pos hstop] at hturn
      cases hturn
      exact ⟨hpicked, h', fun hf => (nomatch hf), fun _ => ⟨rfl, hempty, hstop⟩⟩
    · rw [if_neg hstop] at hturn
      cases hturn
      exact ⟨hpicked, hkick', fun _ => by omega, fun hf => (nomatch hf)⟩
  · rw [if_neg hempty] at hturn
    cases hturn
    exact ⟨hpicked, h', fun _ => by omega, fun hf => (nomatch hf)⟩

def Unbalanced (aliFree hordeFree : Nat) (ali horde : SelectionPool) : Prop :=
  (((aliFree : Int) - ali.playerCount) - (hordeFree - horde.playerCount)).natAbs > 1 ∧
    (0 < horde.playerCount ∨ 0 < ali.playerCount)

/-- The loop of `FillPlayersToBG` ends with two pools. -/
inductive Balances (q : BattlegroundQueue) (aliFree hordeFree : Nat) :
    SelectionPool × List Nat → SelectionPool × List Nat → SelectionPool × SelectionPool → Prop where
  | done {ali horde : SelectionPool × List Nat} :
      ¬ Unbalanced aliFree hordeFree ali.1 horde.1 →
      Balances q aliFree hordeFree ali horde (ali.1, horde.1)
  | aliStop {ali horde ali' : SelectionPool × List Nat} {horde' : SelectionPool} :
      Unbalanced aliFree hordeFree ali.1 horde.1 →
      (aliFree : Int) - ali.1.playerCount < hordeFree - horde.1.playerCount →
      q.lighten aliFree (hordeFree - horde.1.playerCount)
        (((hordeFree : Int) - horde.1.playerCount) - (aliFree - ali.1.playerCount)).toNat
        ali horde.1 = (false, ali', horde') →
      Balances q aliFree hordeFree ali horde (ali'.1, horde')
  | ali {ali horde ali' : SelectionPool × List Nat} {horde' : SelectionPool}
      {pools : SelectionPool × SelectionPool} :
      Unbalanced aliFree hordeFree ali.1 horde.1 →
      (aliFree : Int) - ali.1.playerCount < hordeFree - horde.1.playerCount →
      q.lighten aliFree (hordeFree - horde.1.playerCount)
        (((hordeFree : Int) - horde.1.playerCount) - (aliFree - ali.1.playerCount)).toNat
        ali horde.1 = (true, ali', horde') →
      Balances q aliFree hordeFree ali' (horde', horde.2) pools →
      Balances q aliFree hordeFree ali horde pools
  | hordeStop {ali horde horde' : SelectionPool × List Nat} {ali' : SelectionPool} :
      Unbalanced aliFree hordeFree ali.1 horde.1 →
      ¬ (aliFree : Int) - ali.1.playerCount < hordeFree - horde.1.playerCount →
      q.lighten hordeFree (aliFree - ali.1.playerCount)
        (((aliFree : Int) - ali.1.playerCount) - (hordeFree - horde.1.playerCount)).toNat
        horde ali.1 = (false, horde', ali') →
      Balances q aliFree hordeFree ali horde (ali', horde'.1)
  | horde {ali horde horde' : SelectionPool × List Nat} {ali' : SelectionPool}
      {pools : SelectionPool × SelectionPool} :
      Unbalanced aliFree hordeFree ali.1 horde.1 →
      ¬ (aliFree : Int) - ali.1.playerCount < hordeFree - horde.1.playerCount →
      q.lighten hordeFree (aliFree - ali.1.playerCount)
        (((aliFree : Int) - ali.1.playerCount) - (hordeFree - horde.1.playerCount)).toNat
        horde ali.1 = (true, horde', ali') →
      Balances q aliFree hordeFree (ali', ali.2) horde' pools →
      Balances q aliFree hordeFree ali horde pools

variable {aliFree hordeFree fuel : Nat} {aliList hordeList : List Nat}
  {ali horde : SelectionPool × List Nat} {pools : SelectionPool × SelectionPool}

theorem balances_balance (hali : q.Picked aliList aliFree ali)
    (hhorde : q.Picked hordeList hordeFree horde)
    (haliPos : ∀ g ∈ aliList, 0 < q.playersSize g) (hhordePos : ∀ g ∈ hordeList, 0 < q.playersSize g)
    (hfuel : waiting ali + waiting horde ≤ fuel) :
    Balances q aliFree hordeFree ali horde (q.balance aliFree hordeFree fuel ali horde) := by
  induction fuel generalizing ali horde with
  | zero =>
    -- nobody is selected any more
    have haliNil : ali.1.selectedGroups = [] := List.eq_nil_of_length_eq_zero (by
      simp only [waiting] at hfuel
      omega)
    have hhordeNil : horde.1.selectedGroups = [] := List.eq_nil_of_length_eq_zero (by
      simp only [waiting] at hfuel
      omega)
    have hali := hali.count
    have hhorde := hhorde.count
    rw [haliNil] at hali
    rw [hhordeNil] at hhorde
    refine .done fun hun => ?_
    have := hun.2
    simp [sizes] at hali hhorde
    omega
  | succ fuel ih =>
    obtain ⟨aliPool, aliRest⟩ := ali
    obtain ⟨hordePool, hordeRest⟩ := horde
    unfold balance
    simp only
    by_cases hun : Unbalanced aliFree hordeFree aliPool hordePool
    swap
    · rw [if_neg (show ¬ (_ ∧ _) from hun)]
      exact .done hun
    rw [if_pos (show _ ∧ _ from hun)]
    by_cases hless : (aliFree : Int) - aliPool.playerCount < hordeFree - hordePool.playerCount
    · rw [if_pos hless]
      split
      · rename_i hturn
        exact .aliStop hun hless hturn
      · rename_i hturn
        obtain ⟨hali', hhorde', hlt, -⟩ := hali.lighten hhorde haliPos hless hturn
        refine .ali hun hless hturn (ih hali' hhorde' ?_)
        exact Nat.le_of_lt_succ (Nat.lt_of_lt_of_le (hlt rfl) hfuel)
    · rw [if_neg hless]
      split
      · rename_i hturn
        exact .hordeStop hun hless hturn
      · rename_i hturn
        have hne := hun.1
        obtain ⟨hhorde', hali', hlt, -⟩ := hhorde.lighten hali hhordePos (by omega) hturn
        refine .horde hun hless hturn (ih hali' hhorde' ?_)
        rw [Nat.add_comm] at hfuel ⊢
        exact Nat.le_of_lt_succ (Nat.lt_of_lt_of_le (hlt rfl) hfuel)

/-- The free slots that are left differ by one at most, or kicking any group of a pool leaves them no
closer. -/
def EvenlyFilled (q : BattlegroundQueue) (aliFree hordeFree : Nat)
    (pools : SelectionPool × SelectionPool) : Prop :=
  let diff : Int :=
    ((aliFree : Int) - pools.1.playerCount) - (hordeFree - pools.2.playerCount)
  diff.natAbs ≤ 1 ∨
    ((∀ g ∈ pools.1.selectedGroups, diff.natAbs ≤ (diff + q.playersSize g).natAbs) ∧
      ∀ g ∈ pools.2.selectedGroups, diff.natAbs ≤ (diff - q.playersSize g).natAbs)

theorem Balances.filled (h : Balances q aliFree hordeFree ali horde pools)
    (hali : q.Picked aliList aliFree ali) (hhorde : q.Picked hordeList hordeFree horde)
    (haliPos : ∀ g ∈ aliList, 0 < q.playersSize g)
    (hhordePos : ∀ g ∈ hordeList, 0 < q.playersSize g) :
    (∃ rest, q.Picked aliList aliFree (pools.1, rest)) ∧
      (∃ rest, q.Picked hordeList hordeFree (pools.2, rest)) ∧
      q.EvenlyFilled aliFree hordeFree pools := by
  induction h with
  | @done ali horde hbalanced =>
    refine ⟨⟨_, hali⟩, ⟨_, hhorde⟩, ?_⟩
    by_cases hdiff : (((aliFree : Int) - ali.1.playerCount) -
        (hordeFree - horde.1.playerCount)).natAbs ≤ 1
    · exact .inl hdiff
    · have hzero : ¬ (0 < horde.1.playerCount ∨ 0 < ali.1.playerCount) := fun h =>
        hbalanced ⟨by omega, h⟩
      refine .inr ⟨fun g hg => ?_, fun g hg => ?_⟩
      · simp only at hg
        rw [hali.empty haliPos (by omega)] at hg
        cases hg
      · simp only at hg
        rw [hhorde.empty hhordePos (by omega)] at hg
        cases hg
  | @aliStop ali horde ali' horde' _ hless hturn =>
    obtain ⟨hali', hhorde', -, hstop⟩ := hali.lighten hhorde haliPos hless hturn
    obtain ⟨rfl, hzero, hle⟩ := hstop rfl
    refine ⟨⟨_, hali'⟩, ⟨_, hhorde'⟩, ?_⟩
    refine or_iff_not_imp_left.mpr fun hdiff => ⟨fun g hg => ?_, fun g hg => ?_⟩
    · simp only at hg
      rw [hali'.empty haliPos hzero] at hg
      cases hg
    · simp only at hdiff ⊢
      omega
  | ali _ hless hturn _ ih =>
    obtain ⟨hali', hhorde', -, -⟩ := hali.lighten hhorde haliPos hless hturn
    exact ih hali' hhorde'
  | @hordeStop ali horde horde' ali' hun hless hturn =>
    have hne := hun.1
    obtain ⟨hhorde', hali', -, hstop⟩ := hhorde.lighten hali hhordePos (by omega) hturn
    obtain ⟨rfl, hzero, hle⟩ := hstop rfl
    refine ⟨⟨_, hali'⟩, ⟨_, hhorde'⟩, ?_⟩
    refine or_iff_not_imp_left.mpr fun hdiff => ⟨fun g hg => ?_, fun g hg => ?_⟩
    · simp only at hdiff ⊢
      omega
    · simp only at hg
      rw [hhorde'.empty hhordePos hzero] at hg
      cases hg
  | horde hun hless hturn _ ih =>
    have hne := hun.1
    obtain ⟨hhorde', hali', -, -⟩ := hhorde.lighten hali hhordePos (by omega) hturn
    exact ih hali' hhorde'

/-- A pool is well chosen: groups of the list in its order, each at most once and none of them
invited, who fit into the free slots. -/
structure WellChosen (q : BattlegroundQueue) (l : List Nat) (free : Nat) (pool : SelectionPool) :
    Prop where
  sublist : pool.selectedGroups.Sublist l
  uninvited : ∀ g ∈ pool.selectedGroups, q.isInvited g = false
  count : pool.playerCount = (pool.selectedGroups.map q.playersSize).sum
  count_le : pool.playerCount ≤ free

theorem Picked.wellChosen (h : q.Picked l free own) : q.WellChosen l free own.1 :=
  ⟨h.sublist, h.uninvited, h.count, h.count_le⟩

/-- What `FillPlayersToBG` comes to: its first loops, and with balanced invitation the last one. -/
def Fills (q : BattlegroundQueue) (u : QueueUpdate) (aliFree hordeFree : Nat)
    (pools : SelectionPool × SelectionPool) : Prop :=
  let ali := q.addWhile aliFree {} (q.queuedGroups u.bracket BG_QUEUE_NORMAL_ALLIANCE)
  let horde := q.addWhile hordeFree {} (q.queuedGroups u.bracket BG_QUEUE_NORMAL_HORDE)
  if u.invitationType = 0 then pools = (ali.1, horde.1)
  else Balances q aliFree hordeFree ali horde pools

theorem fillPlayersToBG_filled (q : BattlegroundQueue) (u : QueueUpdate) (aliFree hordeFree : Nat)
    (hali : ∀ g ∈ q.queuedGroups u.bracket BG_QUEUE_NORMAL_ALLIANCE, 0 < q.playersSize g)
    (hhorde : ∀ g ∈ q.queuedGroups u.bracket BG_QUEUE_NORMAL_HORDE, 0 < q.playersSize g) :
    q.Fills u aliFree hordeFree (q.fillPlayersToBG u aliFree hordeFree) ∧
      q.WellChosen (q.queuedGroups u.bracket BG_QUEUE_NORMAL_ALLIANCE) aliFree
        (q.fillPlayersToBG u aliFree hordeFree).1 ∧
      q.WellChosen (q.queuedGroups u.bracket BG_QUEUE_NORMAL_HORDE) hordeFree
        (q.fillPlayersToBG u aliFree hordeFree).2 ∧
      (u.invitationType ≠ 0 →
        q.EvenlyFilled aliFree hordeFree (q.fillPlayersToBG u aliFree hordeFree)) := by
  obtain ⟨haliPicked, haliWait⟩ : q.Picked (q.queuedGroups u.bracket BG_QUEUE_NORMAL_ALLIANCE)
      aliFree (q.addWhile aliFree {} (q.queuedGroups u.bracket BG_QUEUE_NORMAL_ALLIANCE)) ∧ _ :=
    Picked.start.addWhile (Nat.le_refl _)
  obtain ⟨hhordePicked, hhordeWait⟩ : q.Picked (q.queuedGroups u.bracket BG_QUEUE_NORMAL_HORDE)
      hordeFree (q.addWhile hordeFree {} (q.queuedGroups u.bracket BG_QUEUE_NORMAL_HORDE)) ∧ _ :=
    Picked.start.addWhile (Nat.le_refl _)
  unfold Fills fillPlayersToBG
  simp only
  by_cases htype : u.invitationType = 0
  · rw [if_pos htype, if_pos htype]
    exact ⟨rfl, haliPicked.wellChosen, hhordePicked.wellChosen, fun h => absurd htype h⟩
  · rw [if_neg htype, if_neg htype]
    have hfuel : waiting (q.addWhile aliFree {}
          (q.queuedGroups u.bracket BG_QUEUE_NORMAL_ALLIANCE)) +
        waiting (q.addWhile hordeFree {} (q.queuedGroups u.bracket BG_QUEUE_NORMAL_HORDE)) ≤
          (q.queuedGroups u.bracket BG_QUEUE_NORMAL_ALLIANCE).length +
            (q.queuedGroups u.bracket BG_QUEUE_NORMAL_HORDE).length := by
      simp only [waiting, List.length_nil] at haliWait hhordeWait ⊢
      omega
    have hbalances := balances_balance haliPicked hhordePicked hali hhorde hfuel
    obtain ⟨⟨_, haliEnd⟩, ⟨_, hhordeEnd⟩, heven⟩ :=
      hbalances.filled haliPicked hhordePicked hali hhorde
    exact ⟨hbalances, haliEnd.wellChosen, hhordeEnd.wellChosen, fun _ => heven⟩

def unequalQueue : BattlegroundQueue :=
  ((({} : BattlegroundQueue).addGroup 1 .alliance (some [1, 2, 3, 4, 5]) 3 false false 10 0
    ).addGroup 6 .alliance none 3 false false 20 0).addGroup 7 .horde none 3 false false 30 0

def fillUnequal : QueueUpdate where
  bracket := 3
  freeSlotQueue := []
  isArena := false
  minPlayersPerTeam := 5
  maxPlayersPerTeam := 10
  invitationType := 1

/-- The large group is kicked. -/
theorem fillPlayersToBG_filled_unequal :
    (unequalQueue.fillPlayersToBG fillUnequal 6 6).1.selectedGroups = [1] ∧
      unequalQueue.Fills fillUnequal 6 6 (unequalQueue.fillPlayersToBG fillUnequal 6 6) ∧
        unequalQueue.EvenlyFilled 6 6 (unequalQueue.fillPlayersToBG fillUnequal 6 6) :=
  have h := fillPlayersToBG_filled unequalQueue fillUnequal 6 6 (by decide +kernel)
    (by decide +kernel)
  ⟨by decide +kernel, h.1, h.2.2.2 (by decide)⟩

end BattlegroundQueue

end SkyfireBG
